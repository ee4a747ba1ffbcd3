import VolumeBroker.Catalog.SpecFile
import VolumeBroker.Proofs.Catalog.Publication
import VolumeBroker.Proofs.Codec.Plain
import VolumeBroker.Proofs.Store.Restore
/-!
# Catalogs that have a text

A catalog is published with the metadata of its services, and metadata may hold any numbers. That a catalog
can be written down for sure rests on where its numbers come from: a specification that is loaded holds
none beyond the range of text, be it JSON (`Document.every_ofText`) or YAML
(`Yaml.Node.every_toSource`).

* `Codec.KeepsRange` — what is read from such a document is written with such numbers only; one law for
  each way to build a codec, up to `Service.keepsRange`;
* `SpecFile.inRange_of_load` — the services of a specification that is loaded, the flat entries of which
  are taken apart first;
* `Registry.every_catalog` — the catalog of the registry that is built from it.
-/

namespace VolumeBroker

/-! ### Numbers in YAML -/

namespace Yaml

/-- An integer beyond 64 bits is refused or becomes a float, and a float is always within range. -/
theorem every_plainScalar (text : String) : (plainScalar text).Every Number.InRange := by
  unfold plainScalar
  split
  · exact .null
  split
  · exact .bool true
  split
  · exact .bool false
  split
  · exact .null
  dsimp only
  have hpositive : 0 < twoPow 64 := by decide
  split
  · -- an integer, with its sign or without: it fits in, or it is refused, or it becomes a float
    next n _ =>
    split
    · split
      · exact .number (show -(twoPow 63 : Int) ≤ _ ∧ _ < (twoPow 64 : Int) by omega)
      split
      · exact .broken _ _
      split
      · exact .number trivial
      · exact .str text
    · split
      · exact .number (show -(twoPow 63 : Int) ≤ _ ∧ _ < (twoPow 64 : Int) by omega)
      split
      · exact .broken _ _
      split
      · exact .number trivial
      · exact .str text
  · split
    · exact .str text
    -- a text that is no number is a text
    split
    · exact .number trivial
    · exact .str text

mutual

theorem Node.every_toSource : (node : Node) → node.toSource.Every Number.InRange
  | .plain text => every_plainScalar text
  | .quoted text => .str text
  | .list items => .arr none (every_itemsToSource items)
  | .map entries => .obj none (every_entriesToSource entries)

theorem every_itemsToSource : (items : List Node) →
    ∀ source ∈ itemsToSource items, source.Every Number.InRange
  | [], _, h => nomatch h
  | item :: rest, source, h => by
    rw [itemsToSource] at h
    rcases List.mem_cons.1 h with rfl | h
    · exact item.every_toSource
    · exact every_itemsToSource rest source h

theorem every_entriesToSource : (entries : List (Node × Node)) →
    ∀ m ∈ entriesToSource entries, m.2.Every Number.InRange
  | [], _, h => nomatch h
  | (key, value) :: rest, m, h => by
    rw [entriesToSource] at h
    rcases List.mem_cons.1 h with rfl | h
    · exact value.every_toSource
    · exact every_entriesToSource rest m h

end

end Yaml

/-! ### Numbers that are read and written -/

/-- What is read from numbers within range is written with such numbers. -/
def Codec.KeepsRange {α : Type} (c : Codec α) : Prop :=
  ∀ {origin : Origin} {source : Source} {a : α}, source.Every Number.InRange →
    c.read origin source = .ok a → (c.write a).Every Number.InRange

namespace Codec

variable {α : Type} {c : Codec α}

theorem Plain.keepsRange {n : Nat} (h : c.Plain n) : c.KeepsRange := fun _ _ => (h _).every

theorem json_keepsRange : json.KeepsRange := fun hsource hread =>
  hsource.toJson (toJson_of_readJson hread)

theorem KeepsRange.option (h : c.KeepsRange) : c.option.KeepsRange := by
  intro origin source o hsource hread
  cases o with
  | none => exact .null
  | some a => exact h hsource (read_of_readOption hread).2

/-- What holds of every item that is read holds of all of them. -/
theorem forall_of_readItems {P : α → Prop} {origin : Origin} {items : List Source} {as : List α}
    (hitems : ∀ item ∈ items, ∀ a, c.read origin item = .ok a → P a)
    (h : c.readItems origin items = .ok as) : ∀ a ∈ as, P a := by
  -- item by item, since the reader stops at the first that it refuses
  induction items generalizing as with
  | nil =>
    cases h
    exact fun _ ha => nomatch ha
  | cons item items ih =>
    rw [List.forall_mem_cons] at hitems
    rw [Codec.readItems] at h
    obtain ⟨a, hfirst, h⟩ := exists_of_bind_ok h
    obtain ⟨others, hrest, h⟩ := exists_of_bind_ok h
    cases h
    exact List.forall_mem_cons.2 ⟨hitems.1 a hfirst, ih hitems.2 hrest⟩

theorem forall_of_readList {P : α → Prop} {origin : Origin} {source : Source} {as : List α}
    (hparts : ∀ part ∈ source.parts, ∀ a, c.read origin part = .ok a → P a)
    (h : c.list.read origin source = .ok as) : ∀ a ∈ as, P a := by
  cases source with
  | arr items failure =>
    obtain ⟨read, hread, h⟩ := exists_of_bind_ok h
    obtain ⟨_, -, h⟩ := exists_of_bind_ok h
    cases h
    exact forall_of_readItems hparts hread
  | null => cases h
  | bool b => cases h
  | number n => cases h
  | str s => cases h
  | obj members failure => cases h
  | keyless found => cases h
  | broken onRead onSkip => cases h

theorem KeepsRange.list (h : c.KeepsRange) : c.list.KeepsRange := fun hsource hread =>
  .arr (List.forall_mem_map.2 (forall_of_readList (fun _ hpart _ => h (hsource.part hpart)) hread))

end Codec

namespace Fields

/-- Every field keeps numbers in range, and its fallback is written with such numbers. -/
def KeepRange : {ts : List Type} → Fields ts → Prop
  | _, .nil => True
  | _, .cons field rest =>
    (field.codec.KeepsRange ∧ ∀ a, field.fallback = some a → (field.codec.write a).Every Number.InRange) ∧
      rest.KeepRange

/-- Every field is written with numbers in range. -/
def InRange : {ts : List Type} → Fields ts → Row ts → Prop
  | _, .nil, _ => True
  | _, .cons field rest, (a, row) => (field.codec.write a).Every Number.InRange ∧ rest.InRange row

theorem InRange.write : {ts : List Type} → {fields : Fields ts} → {row : Row ts} →
    fields.InRange row → ∀ m ∈ fields.write row, m.2.Every Number.InRange
  | _, .nil, _, _, _, hm => nomatch hm
  | _, .cons field rest, (a, row), h, m, hm => by
    rw [Fields.write] at hm
    split at hm
    · exact write h.2 m hm
    · rcases List.mem_cons.1 hm with rfl | hm
      · exact h.1
      · exact write h.2 m hm

theorem KeepRange.inRange {origin : Origin} {parts : List Source}
    (hparts : ∀ part ∈ parts, part.Every Number.InRange) : {ts : List Type} → {fields : Fields ts} →
    {row : Row ts} → fields.KeepRange → fields.From origin parts row → fields.InRange row
  | _, .nil, _, _, _ => trivial
  | _, .cons _ _, (a, _), h, hfrom => by
    obtain ⟨⟨hread, hfallback⟩, hrest⟩ := h
    refine ⟨?_, hrest.inRange hparts hfrom.2⟩
    -- the value is the fallback of its field or has been read from a part of the source
    rcases hfrom.1 with habsent | ⟨part, hpart, hgiven⟩
    · exact hfallback a habsent
    · exact hread (hparts part hpart) hgiven

/-- A field of which all values are plain. -/
theorem keepRange_cons_plain {α : Type} {ts : List Type} {field : Field α} {rest : Fields ts}
    (h : field.codec.Plain 1) (hrest : rest.KeepRange) : (Fields.cons field rest).KeepRange :=
  ⟨⟨h.keepsRange, fun a _ => (h a).every⟩, hrest⟩

end Fields

theorem Shape.inRange_of_read {α : Type} {s : Shape α} {origin : Origin} {source : Source} {a : α}
    (h : s.fields.KeepRange) (hparts : ∀ row, s.parts (s.build row) = row)
    (hsource : source.Every Number.InRange) (hread : s.read origin source = .ok a) :
    s.fields.InRange (s.parts a) := by
  obtain ⟨row, rfl, hfrom⟩ := Shape.from_of_read hread
  rw [hparts]
  exact h.inRange (fun part hpart => hsource.part hpart) hfrom

/-! ### Services -/

open Fields (keepRange_cons_plain)

/-- Metadata come from the document as they are. -/
theorem keepRange_cons_metadata {ts : List Type} {rest : Fields ts} (hrest : rest.KeepRange) :
    (Fields.cons (.optional "metadata" .json) rest).KeepRange :=
  ⟨⟨Codec.json_keepsRange.option, fun o hnone => by cases hnone; exact .null⟩, hrest⟩

theorem ServicePlan.keepsRange : shape.codec.KeepsRange := by
  have hfields : shape.fields.KeepRange :=
    keepRange_cons_plain Codec.string_plain <| keepRange_cons_plain Codec.string_plain <|
    keepRange_cons_plain Codec.string_plain <|
    keepRange_cons_plain (Codec.option_plain Codec.bool_plain) <| keepRange_cons_metadata trivial
  intro origin source plan hsource hread
  exact .obj (Shape.inRange_of_read hfields (fun _ => rfl) hsource hread).write

namespace Service

theorem keepRange_fields : shape.fields.KeepRange :=
  keepRange_cons_plain Codec.string_plain <| keepRange_cons_plain Codec.string_plain <|
  keepRange_cons_plain Codec.string_plain <| keepRange_cons_plain Codec.bool_plain <|
  keepRange_cons_plain Codec.bool_plain <|
  keepRange_cons_plain (Codec.list_plain Codec.string_plain) <|
  keepRange_cons_plain (Codec.list_plain Codec.string_plain) <|
  keepRange_cons_metadata ⟨⟨ServicePlan.keepsRange.list, fun plans hnone => by
    cases hnone
    exact .arr nofun⟩, trivial⟩

/-- The service is written with numbers in range. -/
def InRange (service : Service) : Prop := shape.fields.InRange (shape.parts service)

/-- The permission to mount volumes is no number. -/
theorem InRange.withVolumeMount {service : Service} (h : service.InRange) :
    service.withVolumeMount.InRange := by
  unfold Service.withVolumeMount
  split
  · exact h
  · -- only the list of what the service requires has changed, and it holds texts
    obtain ⟨hid, hname, hdescription, hbindable, hupdateable, htags, -, hrest⟩ := h
    exact ⟨hid, hname, hdescription, hbindable, hupdateable, htags,
      (Codec.list_plain (n := 0) Codec.string_plain _).every, hrest⟩

end Service

namespace ServiceSpec

variable {origin : Origin}

/-- What is set aside for the service is among the members of the entry. -/
theorem mem_of_splitMembers {members others : List (Key × Source)} {slots slots' : Partial OwnTypes}
    (h : splitMembers origin members slots = .ok (slots', others)) : ∀ m ∈ others, m ∈ members := by
  induction members generalizing slots others with
  | nil =>
    cases h
    exact fun _ hm => hm
  | cons m members ih =>
    obtain ⟨key | fault, value⟩ := m
    · rw [splitMembers] at h
      -- the member belongs to the entry itself, or it is set aside
      split at h
      · exact fun m hm => List.mem_cons_of_mem _ (ih h m hm)
      · cases h
      split at h
      · cases h
      · obtain ⟨⟨slots₁, others₁⟩, hrest, h⟩ := exists_of_bind_ok h
        cases h
        intro m hm
        rcases List.mem_cons.1 hm with rfl | hm
        · exact List.mem_cons_self
        · exact List.mem_cons_of_mem _ (ih hrest m hm)
    · cases h

theorem inRange_of_read {source : Source} {spec : ServiceSpec} (hsource : source.Every Number.InRange)
    (hread : codec.read origin source = .ok spec) : spec.service.InRange := by
  cases hsource with
  | obj failure hmembers =>
    obtain ⟨⟨slots, others⟩, hsplit, h⟩ := exists_of_bind_ok hread
    obtain ⟨_, -, h⟩ := exists_of_bind_ok h
    obtain ⟨⟨driverName, connectionAddress, ⟨⟩⟩, -, h⟩ := exists_of_bind_ok h
    obtain ⟨service, hservice, h⟩ := exists_of_bind_ok h
    cases h
    -- the service is read from what is set aside for it
    have hothers : (Source.obj others none).Every Number.InRange :=
      .obj none fun m hm => hmembers m (mem_of_splitMembers hsplit m hm)
    exact Shape.inRange_of_read Service.keepRange_fields (fun _ => rfl) hothers hservice
  | null => cases hread
  | bool b => cases hread
  | number hn => cases hread
  | str s => cases hread
  | arr failure hitems => cases hread
  | keyless hfound => cases hread
  | broken onRead onSkip => cases hread

end ServiceSpec

/-! ### Specifications -/

namespace SpecFile

variable {specs : List ServiceSpec}

/-- Entries that are read from numbers within range. -/
theorem inRange_of_read {origin : Origin} {source : Source} (hsource : source.Every Number.InRange)
    (h : codec.read origin source = .ok specs) : ∀ spec ∈ specs, spec.service.InRange :=
  Codec.forall_of_readList (fun _ hpart _ => ServiceSpec.inRange_of_read (hsource.part hpart)) h

theorem inRange_of_load {files : FileSystem} {path : String} (h : load files path = .ok specs) :
    ∀ spec ∈ specs, spec.service.InRange := by
  -- the extension tells how the text is read, and either reading yields numbers within range
  have hjson : ∀ text, ofJsonText text = .ok specs → ∀ spec ∈ specs, spec.service.InRange := by
    intro text h
    unfold ofJsonText at h
    dsimp only at h
    split at h
    · cases h
    split at h
    · cases h
    · next hread _ =>
      cases h
      exact inRange_of_read (Document.every_ofText text) hread
  have hyaml : ∀ text, ofYamlText text = .ok specs → ∀ spec ∈ specs, spec.service.InRange := by
    intro text h
    unfold ofYamlText at h
    split at h
    · cases h
    · cases h
      exact fun _ hspec => nomatch hspec
    · -- texts that are taken literally are a node like any other
      exact inRange_of_read (Yaml.Node.every_toSource _) h
  unfold SpecFile.load at h
  split at h
  · cases h
  · next text _ =>
    split at h
    · next hread =>
      cases h
      split at hread
      · exact hyaml text hread
      · exact hjson text hread
    · cases h

end SpecFile

/-- **The catalog of a specification can be written**: it holds no number beyond the range of text. -/
theorem Registry.every_catalog {files : FileSystem} {path : String} {connect : Connector}
    {registry : Registry} (h : (ofFile files path connect).result = .ok registry) :
    (Catalog.shape.codec.write registry.catalog).Every Number.InRange := by
  unfold ofFile at h
  split at h
  · cases h
  · next specs hload =>
    obtain ⟨-, -, rfl⟩ := of_buildEach_ok h
    have hservices : ∀ service ∈ (specs.foldl add empty).services, service.InRange := by
      rw [foldl_add_services]
      exact List.forall_mem_map.2 fun spec hspec =>
        (SpecFile.inRange_of_load hload spec hspec).withVolumeMount
    refine .obj (List.forall_mem_singleton.2 (.arr (List.forall_mem_map.2 fun service hservice => ?_)))
    exact .obj (hservices service hservice).write

end VolumeBroker
