import VolumeBroker.Proofs.Json.Legible
import VolumeBroker.Proofs.Records.Laws
import VolumeBroker.Store.Basic
/-!
# Record files that are read

What `Store.parseRecords` makes of a text. All records that it gives are *legible*: their values are
as a reader of text gives them (`Store.legible_of_parseRecords`), and they are nested less deeply than
the reader's limit by the three containers that a record file puts around them (`RecordSet.room`).

A store may be handed more than it would read (`RecordSet.Proper`), and then the way back is decided by
that limit alone: the text that is written for the records reads as records exactly if nothing in them
is nested deeper (`Store.parseRecords_pretty_isOk`). The texts of numbers are no obstacle, but a float
may come back as another one; where the document reads back unchanged, so do the records
(`Store.parseRecords_of_reread`). In legible records only parameters can be nested too deeply
(`RecordSet.Legible.fits_iff`).
-/

namespace VolumeBroker

/-! ### Legible records -/

/-- How deeply a value in a record may be nested: three containers of a record file are around it. -/
def RecordSet.room : Nat := Document.nestingLimit - 3

/-- A slot as a broker has it: a live fingerprint, or a document that has been read. -/
def Slot.Legible (slot : Slot) : Prop :=
  (∃ f, slot = .ofFingerprint f) ∨
    ∃ value, slot = .document value ∧ value.Legible ∧ value.depth ≤ RecordSet.room

/-- A binding record as a broker has it: its parameters have been read, and `null` reads as absent. -/
def BindingRecord.Legible (r : BindingRecord) : Prop :=
  ∀ parameters, r.parameters = some parameters → parameters.Legible ∧ parameters ≠ .null

/-- A slot as a store may be handed it: if it has a document at all, then a legible one. -/
def Slot.Proper (slot : Slot) : Prop := ∀ value, slot.toDocument = .ok value → value.Legible

namespace RecordSet

/-- Records as a broker has them. -/
structure Legible (records : RecordSet) : Prop where
  instances : ∀ e ∈ records.instances.entries, e.2.fingerprint.Legible
  bindings : ∀ e ∈ records.bindings.entries, e.2.Legible

/-- Records as a store may be handed them. -/
structure Proper (records : RecordSet) : Prop where
  instances : ∀ e ∈ records.instances.entries, e.2.fingerprint.Proper
  bindings : ∀ e ∈ records.bindings.entries, e.2.Legible

/-- No parameters are nested more deeply than a record file allows. -/
def Shallow (records : RecordSet) : Prop :=
  ∀ e ∈ records.bindings.entries, ∀ parameters, e.2.parameters = some parameters →
    parameters.depth ≤ room

/-- Nothing is nested more deeply than a record file allows, in parameters or in slots. -/
structure Fits (records : RecordSet) : Prop where
  instances : ∀ e ∈ records.instances.entries, (Slot.codec.write e.2.fingerprint).depth ≤ room
  bindings : records.Shallow

theorem legible_empty : empty.Legible := ⟨fun _ h => (nomatch h), fun _ h => (nomatch h)⟩

theorem shallow_empty : empty.Shallow := fun _ h => nomatch h

end RecordSet

/-! ### Records that are read -/

namespace Codec

variable {α : Type} {c : Codec α} {origin : Origin} {source : Source}

/-- Where the values of a dictionary come from. -/
theorem from_of_readEntries {members : List (Key × Source)} {entries : List (String × α)}
    (h : c.readEntries origin members = .ok entries) :
    ∀ e ∈ entries, ∃ m ∈ members, c.read origin m.2 = .ok e.2 := by
  -- member by member; a key that is no text ends the reading
  induction members generalizing entries with
  | nil =>
    cases h
    exact fun _ he => nomatch he
  | cons m members ih =>
    obtain ⟨k | fault, v⟩ := m
    · rw [readEntries] at h
      obtain ⟨a, hread, h⟩ := exists_of_bind_ok h
      obtain ⟨others, hrest, h⟩ := exists_of_bind_ok h
      cases h
      intro e he
      rcases List.mem_cons.1 he with rfl | he
      · exact ⟨(.text k, v), List.mem_cons_self, hread⟩
      · obtain ⟨m, hm, hvalue⟩ := ih hrest e he
        exact ⟨m, List.mem_cons_of_mem _ hm, hvalue⟩
    · cases h

/-- Of the members of a dictionary that is read every one has been read. -/
theorem reads_of_readEntries {members : List (Key × Source)} {entries : List (String × α)}
    (h : c.readEntries origin members = .ok entries) :
    ∀ m ∈ members, ∃ a, c.read origin m.2 = .ok a := by
  induction members generalizing entries with
  | nil => exact fun _ hm => nomatch hm
  | cons m members ih =>
    obtain ⟨k | fault, v⟩ := m
    · rw [readEntries] at h
      obtain ⟨a, hread, h⟩ := exists_of_bind_ok h
      obtain ⟨others, hrest, -⟩ := exists_of_bind_ok h
      intro m hm
      rcases List.mem_cons.1 hm with rfl | hm
      · exact ⟨a, hread⟩
      · exact ih hrest m hm
    · cases h

/-- The same for an object that is nested no deeper than a limit. -/
theorem reads_of_readDict_ofJson {room : Nat} {members : List (String × Json)} {d : Dict α}
    (h : c.dict.read origin ((Source.ofJson (.obj members)).limitNesting room) = .ok d)
    {m : String × Json} (hm : m ∈ members) :
    ∃ a, c.read origin ((Source.ofJson m.2).limitNesting (room - 1)) = .ok a := by
  rw [Source.ofJson_obj, Source.limitNesting] at h
  -- without room the reader stops in front of the object
  split at h
  · cases h
  · rw [Source.limitMembers_eq, List.map_map] at h
    obtain ⟨entries, hentries, -⟩ := exists_of_bind_ok h
    exact reads_of_readEntries hentries _ (List.mem_map_of_mem hm)

theorem from_of_readDict {d : Dict α} (h : c.dict.read origin source = .ok d) :
    ∀ e ∈ d.entries, ∃ part ∈ source.parts, c.read origin part = .ok e.2 := by
  cases source with
  | obj members failure =>
    obtain ⟨entries, hentries, h⟩ := exists_of_bind_ok h
    obtain ⟨_, -, h⟩ := exists_of_bind_ok h
    cases h
    intro e he
    obtain ⟨m, hm, hread⟩ := from_of_readEntries hentries e (Dict.mem_of_mem_ofList he)
    exact ⟨m.2, List.mem_map_of_mem hm, hread⟩
  | null => cases h
  | bool b => cases h
  | number n => cases h
  | str s => cases h
  | arr items failure => cases h
  | keyless found => cases h
  | broken onRead onSkip => cases h

/-- A value that is kept as it is comes from the document, read without a failure. -/
theorem toJson_of_readJson {value : Json} (h : json.read origin source = .ok value) :
    source.toJson = .ok value := by
  simp only [json] at h
  cases hvalue : source.toJson with
  | error fault => rw [hvalue] at h; cases h
  | ok v =>
    rw [hvalue] at h
    cases h
    rfl

/-- An optional value that is there has been read from something else than `null`. -/
theorem read_of_readOption {a : α} (h : c.option.read origin source = .ok (some a)) :
    source ≠ .null ∧ c.read origin source = .ok a := by
  have hread : ∀ outcome : Except Problem α, outcome.map some = .ok (some a) → outcome = .ok a := by
    intro outcome houtcome
    obtain ⟨b, rfl, hb⟩ := exists_of_map_ok houtcome
    rw [Option.some.inj hb]
  cases source with
  | null => cases h
  | bool b => exact ⟨nofun, hread _ h⟩
  | number n => exact ⟨nofun, hread _ h⟩
  | str s => exact ⟨nofun, hread _ h⟩
  | arr items failure => exact ⟨nofun, hread _ h⟩
  | obj members failure => exact ⟨nofun, hread _ h⟩
  | keyless found => exact ⟨nofun, hread _ h⟩
  | broken onRead onSkip => exact ⟨nofun, hread _ h⟩

/-- An optional value that is read has a document without a failure. -/
theorem exists_toJson_of_readOption {o : Option Json} (h : json.option.read origin source = .ok o) :
    ∃ value, source.toJson = .ok value := by
  cases o with
  | some value => exact ⟨value, toJson_of_readJson (read_of_readOption h).2⟩
  | none =>
    cases hvalue : source.toJson with
    | ok value => exact ⟨value, rfl⟩
    | error fault =>
      -- only `null` reads as absent
      have hjson : json.read origin source = .error (.fault fault) := by
        simp only [json, hvalue]
      cases source with
      | null => cases hvalue
      | bool b => cases hvalue
      | number n => cases hvalue
      | str s => cases hvalue
      | arr items failure => simp only [option, hjson] at h; cases h
      | obj members failure => simp only [option, hjson] at h; cases h
      | keyless found => simp only [option, hjson] at h; cases h
      | broken onRead onSkip => simp only [option, hjson] at h; cases h

/-- Optional parameters that are read are legible. -/
theorem legible_of_readOption {room : Nat} (hsource : source.Within room) {parameters : Json}
    (h : json.option.read origin source = .ok (some parameters)) :
    (parameters.Legible ∧ parameters ≠ .null) ∧ parameters.depth ≤ room := by
  obtain ⟨hne, hread⟩ := read_of_readOption h
  have hvalue := toJson_of_readJson hread
  obtain ⟨hlegible, hdepth⟩ := hsource.toJson hvalue
  refine ⟨⟨hlegible, ?_⟩, hdepth⟩
  rintro rfl
  -- nothing but `null` reads as `null`
  cases source with
  | null => exact hne rfl
  | bool b => cases hvalue
  | number n => cases hvalue
  | str s => cases hvalue
  | arr items failure => obtain ⟨-, values, hnull, -⟩ := Source.toJson_arr hvalue; cases hnull
  | obj members failure => obtain ⟨-, entries, hnull, -⟩ := Source.toJson_obj hvalue; cases hnull
  | keyless found => cases hvalue
  | broken onRead onSkip => cases hvalue

end Codec

/-- Of the members of a record that is read within a limit every one that names a field has been read
by it, within the limit less one level. -/
theorem Shape.reads_of_read_ofJson {α : Type} {s : Shape α} {origin : Origin} {room : Nat}
    {members : List (String × Json)} {a : α}
    (h : s.codec.read origin ((Source.ofJson (.obj members)).limitNesting room) = .ok a)
    {m : String × Json} (hm : m ∈ members) :
    s.fields.Reads origin m.1 ((Source.ofJson m.2).limitNesting (room - 1)) := by
  change s.read origin _ = _ at h
  rw [Source.ofJson_obj, Source.limitNesting] at h
  split at h
  · cases h
  · rw [Source.limitMembers_eq, List.map_map] at h
    exact Shape.reads_of_read h (List.mem_map_of_mem hm)

variable {origin : Origin} {source : Source}

/-- The slot of an instance record that is read holds a legible document. -/
theorem InstanceRecord.legible_of_read (hsource : source.Within (RecordSet.room + 1))
    {r : InstanceRecord} (h : InstanceRecord.shape.read origin source = .ok r) :
    r.fingerprint.Legible := by
  obtain ⟨row, rfl, hfrom⟩ := Shape.from_of_read h
  obtain ⟨serviceId, planId, organizationGuid, spaceGuid, slot, ⟨⟩⟩ := row
  obtain ⟨-, -, -, -, hslot, -⟩ := hfrom
  -- the slot has no fallback, so it has been read from a part of the source
  rcases hslot with hnone | ⟨part, hpart, hread⟩
  · cases hnone
  · obtain ⟨-, hwithin⟩ := hsource.part hpart
    change (Codec.json.read origin part).map Slot.document = .ok slot at hread
    obtain ⟨value, hjson, rfl⟩ := exists_of_map_ok hread
    obtain ⟨hlegible, hdepth⟩ := hwithin.toJson (Codec.toJson_of_readJson hjson)
    exact .inr ⟨value, rfl, hlegible, hdepth⟩

/-- The parameters of a binding record that is read are legible and not nested too deeply. -/
theorem BindingRecord.legible_of_read (hsource : source.Within (RecordSet.room + 1))
    {r : BindingRecord} (h : BindingRecord.shape.read origin source = .ok r) :
    r.Legible ∧ ∀ parameters, r.parameters = some parameters → parameters.depth ≤ RecordSet.room := by
  obtain ⟨row, rfl, hfrom⟩ := Shape.from_of_read h
  obtain ⟨serviceId, planId, appGuid, bindResource, parameters, ⟨⟩⟩ := row
  obtain ⟨-, -, -, -, hparameters, -⟩ := hfrom
  have hall : ∀ p, parameters = some p →
      (p.Legible ∧ p ≠ .null) ∧ p.depth ≤ RecordSet.room := by
    rintro p rfl
    -- parameters that are there have been read
    rcases hparameters with hnone | ⟨part, hpart, hread⟩
    · cases hnone
    · exact Codec.legible_of_readOption (hsource.part hpart).2 hread
  exact ⟨fun p hp => (hall p hp).1, fun p hp => (hall p hp).2⟩

/-- Records that are read from text are legible and not nested too deeply. -/
theorem RecordSet.legible_of_read (hsource : source.Within Document.nestingLimit)
    {records : RecordSet} (h : RecordSet.shape.read origin source = .ok records) :
    records.Legible ∧ records.Shallow := by
  obtain ⟨row, rfl, hfrom⟩ := Shape.from_of_read h
  obtain ⟨instances, bindings, ⟨⟩⟩ := row
  obtain ⟨hinstances, hbindings, -⟩ := hfrom
  -- two levels below the document stand the records
  have hlevels : ∀ {part : Source}, part ∈ source.parts → ∀ {inner : Source}, inner ∈ part.parts →
      inner.Within (RecordSet.room + 1) :=
    fun hpart _ hinner => ((hsource.part hpart).2.part hinner).2
  -- a field that is absent in the file has no records
  have hinstance : ∀ e ∈ instances.entries, e.2.fingerprint.Legible := by
    intro e he
    rcases hinstances with hnone | ⟨part, hpart, hread⟩
    · cases hnone
      cases he
    · obtain ⟨inner, hinner, hrecord⟩ := Codec.from_of_readDict hread e he
      exact InstanceRecord.legible_of_read (hlevels hpart hinner) hrecord
  have hbinding : ∀ e ∈ bindings.entries, e.2.Legible ∧
      ∀ parameters, e.2.parameters = some parameters → parameters.depth ≤ RecordSet.room := by
    intro e he
    rcases hbindings with hnone | ⟨part, hpart, hread⟩
    · cases hnone
      cases he
    · obtain ⟨inner, hinner, hrecord⟩ := Codec.from_of_readDict hread e he
      exact BindingRecord.legible_of_read (hlevels hpart hinner) hrecord
  -- what holds of every record holds of the set
  exact ⟨⟨hinstance, fun e he => (hbinding e he).1⟩, fun e he => (hbinding e he).2⟩

theorem Store.legible_of_parseRecords {text : String} {records : RecordSet}
    (h : Store.parseRecords text = .ok records) : records.Legible ∧ records.Shallow := by
  unfold parseRecords at h
  -- a blank file stands for no records
  split at h
  · cases h
    exact ⟨RecordSet.legible_empty, RecordSet.shallow_empty⟩
  · dsimp only at h
    split at h
    · cases h
    · next hread =>
      split at h
      · cases h
      · cases h
        exact RecordSet.legible_of_read (Document.within_ofText text) hread

/-! ### Documents of records -/

theorem Json.Every.canonical {p : Number → Prop} {value : Json} (h : value.Every p) :
    value.canonical.Every p := by
  induction h with
  | null => exact .null
  | bool b => exact .bool b
  | number hn => exact .number hn
  | str s => exact .str s
  | arr _ ih =>
    rw [canonical_arr]
    refine .arr fun item hitem => ?_
    obtain ⟨raw, hraw, rfl⟩ := List.mem_map.1 hitem
    exact ih raw hraw
  | obj _ ih =>
    rw [canonical_obj]
    refine .obj fun m hm => ?_
    obtain ⟨raw, hraw, hcanonical⟩ := exists_of_mem_canonical hm
    rw [← hcanonical]
    exact ih raw hraw

/-- The document of a fingerprint is legible and has three levels. -/
theorem Fingerprint.legible_toJson (f : Fingerprint) :
    (Fingerprint.shape.codec.toJson f).Legible ∧ (Fingerprint.shape.codec.toJson f).depth ≤ 3 := by
  obtain ⟨name, volumeId, capacityBytes, volumeContext⟩ := f
  -- the document, with the members in declared order
  let context : Json := Codec.string.dict.write volumeContext
  let volume : Json := .obj [("volume_id", .str volumeId), ("capacity_bytes", .nat capacityBytes.toNat),
    ("volume_context", context)]
  have hwrite : Fingerprint.shape.codec.write ⟨name, volumeId, capacityBytes, volumeContext⟩
      = .obj [("name", .str name), ("volume", volume)] := rfl
  have hcontext : ∀ m ∈ volumeContext.entries.map fun e => (e.1, Json.str e.2), ∃ s, m.2 = .str s := by
    intro m hm
    obtain ⟨e, -, rfl⟩ := List.mem_map.1 hm
    exact ⟨e.2, rfl⟩
  have hcapacity : (Number.int capacityBytes.toNat).InRange := by
    have hpower : twoPow 64 = 2 ^ 64 := by decide
    have hlt := capacityBytes.toNat_lt
    show -(twoPow 63 : Int) ≤ _ ∧ _ < (twoPow 64 : Int)
    omega
  have hnumbers : volume.Every Number.InRange := by
    refine .obj ?_
    simp only [List.forall_mem_cons, List.not_mem_nil, false_imp_iff, implies_true, and_true]
    refine ⟨.str _, .number hcapacity, .obj fun m hm => ?_⟩
    obtain ⟨s, hs⟩ := hcontext m hm
    rw [hs]
    exact .str s
  -- the volume holds the context, and the context holds strings
  have hdepth : volume.depth ≤ 2 := by
    rw [Json.depth_obj_le]
    simp only [List.forall_mem_cons, List.not_mem_nil, false_imp_iff, implies_true, and_true]
    refine ⟨by decide, Nat.zero_le _, Nat.zero_le _, Json.depth_obj_le.2 ⟨by decide, fun m hm => ?_⟩⟩
    obtain ⟨s, hs⟩ := hcontext m hm
    rw [hs]
    exact Nat.le_refl 0
  unfold Codec.toJson
  rw [hwrite]
  refine ⟨⟨Json.canonical_canonical _, Json.Every.canonical (.obj ?_)⟩,
    Json.depth_canonical_le (Json.depth_obj_le.2 ⟨by decide, ?_⟩)⟩
  · simp only [List.forall_mem_cons, List.not_mem_nil, false_imp_iff, implies_true, and_true]
    exact ⟨.str _, hnumbers⟩
  · simp only [List.forall_mem_cons, List.not_mem_nil, false_imp_iff, implies_true, and_true]
    exact ⟨Nat.zero_le _, hdepth⟩

/-- The document of a legible slot. -/
theorem Slot.Legible.document {slot : Slot} (h : slot.Legible) :
    ∃ value, slot.toDocument = .ok value ∧ value.Legible ∧ value.depth ≤ RecordSet.room := by
  rcases h with ⟨f, rfl⟩ | ⟨value, rfl, hvalue, hdepth⟩
  · obtain ⟨hlegible, hdepth⟩ := f.legible_toJson
    exact ⟨_, rfl, hlegible, hdepth.trans (by decide)⟩
  · exact ⟨value, rfl, hvalue, hdepth⟩

theorem Slot.Legible.proper {slot : Slot} (h : slot.Legible) : slot.Proper := by
  intro value hvalue
  obtain ⟨document, hdocument, hlegible, -⟩ := h.document
  rwa [Except.ok.inj (hvalue.symm.trans hdocument)]

/-- What is written for a slot is legible. -/
theorem Slot.Proper.legible_write {slot : Slot} (h : slot.Proper) : (codec.write slot).Legible := by
  cases hdocument : slot.toDocument with
  | ok value =>
    rw [write_eq hdocument]
    exact h value hdocument
  | error reason =>
    -- a slot without a document is written as `null`
    simp only [codec, hdocument]
    exact ⟨rfl, .null⟩

theorem RecordSet.Legible.proper {records : RecordSet} (h : records.Legible) : records.Proper :=
  ⟨fun e he => (h.instances e he).proper, h.bindings⟩

/-- Legible records can be written and read. -/
theorem RecordSet.Legible.storable {records : RecordSet} (h : records.Legible) :
    records.Storable where
  instances e he := by
    obtain ⟨value, hvalue, hlegible, -⟩ := (h.instances e he).document
    exact ⟨value, hvalue, hlegible.tidy⟩
  bindings e he parameters hp := by
    obtain ⟨hlegible, hnull⟩ := h.bindings e he parameters hp
    exact ⟨hlegible.tidy, hnull⟩

/-- In legible records only parameters can be nested too deeply. -/
theorem RecordSet.Legible.fits_iff {records : RecordSet} (h : records.Legible) :
    records.Fits ↔ records.Shallow := by
  refine ⟨Fits.bindings, fun hshallow => ⟨fun e he => ?_, hshallow⟩⟩
  obtain ⟨value, hvalue, -, hdepth⟩ := (h.instances e he).document
  rwa [Slot.write_eq hvalue]

namespace BindResource

theorem write_eq (r : BindResource) :
    shape.codec.write r = .obj ((r.appGuid.map fun s => ("app_guid", Json.str s)).toList ++
      (r.route.map fun s => ("route", Json.str s)).toList) := by
  obtain ⟨_ | appGuid, _ | route⟩ := r <;> rfl

/-- A bind resource is an object of strings. -/
theorem flat_write (r : BindResource) :
    (shape.codec.write r).reread = shape.codec.write r ∧ (shape.codec.write r).depth ≤ 1 ∧
      (shape.codec.write r).Every Number.InRange := by
  rw [write_eq]
  -- each of the two strings is there or not
  obtain ⟨_ | appGuid, _ | route⟩ := r
  · exact ⟨rfl, by decide, .obj (by simp)⟩
  · exact ⟨rfl, by simp [Json.depth, Json.depthMembers], .obj (by simp [Json.Every.str])⟩
  · exact ⟨rfl, by simp [Json.depth, Json.depthMembers], .obj (by simp [Json.Every.str])⟩
  · exact ⟨rfl, by simp [Json.depth, Json.depthMembers], .obj (by simp [Json.Every.str])⟩

end BindResource

namespace BindingRecord

/-- A binding record whose parameters have been read back. -/
def reread (r : BindingRecord) : BindingRecord := { r with parameters := r.parameters.map Json.reread }

theorem write_eq (r : BindingRecord) :
    shape.codec.write r = .obj ([("service_id", .str r.serviceId), ("plan_id", .str r.planId),
      ("app_guid", .str r.appGuid)] ++
      ((r.bindResource.map fun b => ("bind_resource", BindResource.shape.codec.write b)).toList ++
        (r.parameters.map fun p => ("parameters", p)).toList)) := by
  obtain ⟨serviceId, planId, appGuid, _ | resource, _ | parameters⟩ := r <;> rfl

theorem reread_write (r : BindingRecord) :
    (shape.codec.write r).reread = shape.codec.write r.reread := by
  rw [write_eq, write_eq, Json.reread, Json.rereadMembers_eq]
  obtain ⟨serviceId, planId, appGuid, resource, parameters⟩ := r
  cases resource with
  | none => cases parameters <;> simp [reread, Json.reread]
  | some b => cases parameters <;> simp [reread, Json.reread, (BindResource.flat_write b).1]

theorem every_write {r : BindingRecord} (h : r.Legible) :
    (shape.codec.write r).Every Number.InRange := by
  rw [write_eq]
  refine .obj fun m hm => ?_
  simp only [List.mem_append, List.mem_cons, List.not_mem_nil, or_false, Option.mem_toList,
    Option.map_eq_some_iff] at hm
  rcases hm with (rfl | rfl | rfl) | ⟨b, -, rfl⟩ | ⟨p, hp, rfl⟩
  · exact .str _
  · exact .str _
  · exact .str _
  · exact (BindResource.flat_write b).2.2
  · exact (h p hp).1.numbers

/-- The nesting of a binding record is that of its parameters, and one level around them. -/
theorem depth_write (r : BindingRecord) {n : Nat} (hn : 0 < n) :
    (shape.codec.write r).depth ≤ n + 1 ↔
      ∀ parameters, r.parameters = some parameters → parameters.depth ≤ n := by
  rw [write_eq, Json.depth_obj_le, Nat.add_sub_cancel]
  have hflat : ∀ b : BindResource, (BindResource.shape.codec.write b).depth ≤ n :=
    fun b => (BindResource.flat_write b).2.1.trans hn
  -- only the parameters may be nested deeper than the record itself
  refine ⟨fun h p hp => ?_, fun h => ⟨Nat.succ_pos _, fun m hm => ?_⟩⟩
  · refine h.2 ("parameters", p) (List.mem_append_right _ (List.mem_append_right _ ?_))
    rw [hp]
    exact List.mem_singleton_self _
  · simp only [List.mem_append, List.mem_cons, List.not_mem_nil, or_false, Option.mem_toList,
      Option.map_eq_some_iff] at hm
    rcases hm with (rfl | rfl | rfl) | ⟨b, -, rfl⟩ | ⟨p, hp, rfl⟩
    · exact Nat.zero_le _
    · exact Nat.zero_le _
    · exact Nat.zero_le _
    · exact hflat b
    · exact h p hp

end BindingRecord

namespace InstanceRecord

/-- An instance record whose slot has been read back. -/
def reread (r : InstanceRecord) : InstanceRecord :=
  { r with fingerprint := .document (Slot.codec.write r.fingerprint).reread }

theorem write_eq (r : InstanceRecord) :
    shape.codec.write r = .obj [("service_id", .str r.serviceId), ("plan_id", .str r.planId),
      ("organization_guid", .str r.organizationGuid), ("space_guid", .str r.spaceGuid),
      ("fingerprint", Slot.codec.write r.fingerprint)] := rfl

theorem reread_write (r : InstanceRecord) :
    (shape.codec.write r).reread = shape.codec.write r.reread := by
  rw [write_eq, write_eq, Json.reread, Json.rereadMembers_eq]
  rfl

theorem every_write {r : InstanceRecord} (h : r.fingerprint.Proper) :
    (shape.codec.write r).Every Number.InRange := by
  rw [write_eq]
  refine .obj ?_
  simp only [List.forall_mem_cons, List.not_mem_nil, false_imp_iff, implies_true, and_true]
  exact ⟨.str _, .str _, .str _, .str _, h.legible_write.numbers⟩

/-- The nesting of an instance record is that of its slot, and one level around it. -/
theorem depth_write (r : InstanceRecord) (n : Nat) :
    (shape.codec.write r).depth ≤ n + 1 ↔ (Slot.codec.write r.fingerprint).depth ≤ n := by
  rw [write_eq, Json.depth_obj_le]
  simp only [List.forall_mem_cons, List.not_mem_nil, false_imp_iff, implies_true, and_true,
    Nat.add_sub_cancel]
  refine ⟨fun h => h.2.2.2.2.2, fun h => ⟨Nat.succ_pos _, ?_, ?_, ?_, ?_, h⟩⟩
  · exact Nat.zero_le _
  · exact Nat.zero_le _
  · exact Nat.zero_le _
  · exact Nat.zero_le _

end InstanceRecord

/-! ### The text of a record file -/

namespace RecordSet

/-- A record set whose values have been read back. -/
def reread (records : RecordSet) : RecordSet :=
  ⟨records.instances.map InstanceRecord.reread, records.bindings.map BindingRecord.reread⟩

theorem write_eq (records : RecordSet) :
    shape.codec.write records =
      .obj [("instances", .obj (records.instances.entries.map
          fun e => (e.1, InstanceRecord.shape.codec.write e.2))),
        ("bindings", .obj (records.bindings.entries.map
          fun e => (e.1, BindingRecord.shape.codec.write e.2)))] := rfl

theorem reread_write (records : RecordSet) :
    (shape.codec.write records).reread = shape.codec.write records.reread := by
  have hinstances : ∀ e : String × InstanceRecord,
      (InstanceRecord.shape.codec.write e.2).reread = InstanceRecord.shape.codec.write e.2.reread :=
    fun e => e.2.reread_write
  have hbindings : ∀ e : String × BindingRecord,
      (BindingRecord.shape.codec.write e.2).reread = BindingRecord.shape.codec.write e.2.reread :=
    fun e => e.2.reread_write
  rw [write_eq, write_eq]
  simp only [Json.reread, Json.rereadMembers, Json.rereadMembers_eq, List.map_map, reread, Dict.map,
    Function.comp_def, hinstances, hbindings]

variable {records : RecordSet}

theorem Proper.every_write (h : records.Proper) :
    (shape.codec.write records).Every Number.InRange := by
  rw [write_eq]
  refine .obj ?_
  simp only [List.forall_mem_cons, List.not_mem_nil, false_imp_iff, implies_true, and_true]
  refine ⟨.obj fun m hm => ?_, .obj fun m hm => ?_⟩
  · obtain ⟨e, he, rfl⟩ := List.mem_map.1 hm
    exact InstanceRecord.every_write (h.instances e he)
  · obtain ⟨e, he, rfl⟩ := List.mem_map.1 hm
    exact BindingRecord.every_write (h.bindings e he)

theorem Legible.every_write (h : records.Legible) :
    (shape.codec.write records).Every Number.InRange := h.proper.every_write

/-- A record file is nested no deeper than its reader's limit exactly if its records fit. -/
theorem depth_write (records : RecordSet) :
    (shape.codec.write records).depth ≤ Document.nestingLimit ↔ records.Fits := by
  have hlimit : Document.nestingLimit = RecordSet.room + 3 := by decide
  have hroom : 0 < RecordSet.room := by decide
  rw [write_eq, hlimit, Json.depth_obj_le]
  simp only [List.forall_mem_cons, List.not_mem_nil, false_imp_iff, implies_true, and_true,
    Json.depth_obj_le, List.forall_mem_map]
  constructor
  · rintro ⟨-, ⟨-, hinstances⟩, -, hbindings⟩
    exact ⟨fun e he => (e.2.depth_write room).1 (hinstances e he),
      fun e he => (e.2.depth_write hroom).1 (hbindings e he)⟩
  · rintro ⟨hinstances, hbindings⟩
    exact ⟨Nat.succ_pos _, ⟨Nat.succ_pos _, fun e he => (e.2.depth_write room).2 (hinstances e he)⟩,
      Nat.succ_pos _, fun e he => (e.2.depth_write hroom).2 (hbindings e he)⟩

/-- Records that have been read back can be written and read once more. -/
theorem Proper.storable_reread (h : records.Proper) : records.reread.Storable where
  instances e he := by
    obtain ⟨old, hold, rfl⟩ := List.mem_map.1 he
    exact ⟨_, rfl, (h.instances old hold).legible_write.tidy.reread⟩
  bindings e he := by
    obtain ⟨old, hold, rfl⟩ := List.mem_map.1 he
    intro parameters hparameters
    obtain ⟨raw, hraw, rfl⟩ := Option.map_eq_some_iff.1 hparameters
    obtain ⟨hlegible, hnull⟩ := h.bindings old hold raw hraw
    refine ⟨hlegible.tidy.reread, fun hreread => hnull ?_⟩
    -- no value but null is read again as null
    cases raw <;> simp_all [Json.reread]

/-- Records that have been read back are as they are stored. -/
theorem Proper.stored_reread (h : records.Proper) : records.reread.stored = records.reread := by
  have hinstances : ∀ e ∈ records.reread.instances.entries, e.2.stored = e.2 := by
    intro e he
    obtain ⟨old, hold, rfl⟩ := List.mem_map.1 he
    have hcanonical := (h.instances old hold).legible_write.canonical_reread
    change InstanceRecord.mk _ _ _ _ (.document (Slot.codec.write old.2.fingerprint).reread.canonical) = _
    rw [hcanonical]
    rfl
  have hbindings : ∀ e ∈ records.reread.bindings.entries, e.2.stored = e.2 := by
    intro e he
    obtain ⟨old, hold, rfl⟩ := List.mem_map.1 he
    change BindingRecord.mk _ _ _ _ ((old.2.parameters.map Json.reread).map Json.canonical) = _
    unfold BindingRecord.reread
    cases hparameters : old.2.parameters with
    | none => rfl
    | some parameters =>
      have hlegible := (h.bindings old hold parameters hparameters).1
      rw [Option.map_some, Option.map_some, hlegible.canonical_reread]
  unfold stored
  rw [Dict.map_eq_self hinstances, Dict.map_eq_self hbindings]

/-! ### Documents that are read within a limit -/

section Within

variable {n : Nat} {read : RecordSet}

/-- Of a record set that is read every instance record has been read, two levels further in. -/
theorem reads_instance
    (h : shape.codec.read .text ((Source.ofJson (shape.codec.write records)).limitNesting n) = .ok read)
    {e : String × InstanceRecord} (he : e ∈ records.instances.entries) :
    ∃ r, InstanceRecord.shape.codec.read .text
      ((Source.ofJson (InstanceRecord.shape.codec.write e.2)).limitNesting (n - 1 - 1)) = .ok r := by
  have hinstances := Shape.reads_of_read_ofJson h List.mem_cons_self
  obtain ⟨d, hd⟩ : ∃ d, InstanceRecord.shape.codec.dict.read .text _ = .ok d := by
    simpa [Fields.Reads, RecordSet.shape, Field.accepts, Field.defaulted] using hinstances
  exact Codec.reads_of_readDict_ofJson hd (List.mem_map_of_mem he)

/-- And so has every binding record. -/
theorem reads_binding
    (h : shape.codec.read .text ((Source.ofJson (shape.codec.write records)).limitNesting n) = .ok read)
    {e : String × BindingRecord} (he : e ∈ records.bindings.entries) :
    ∃ r, BindingRecord.shape.codec.read .text
      ((Source.ofJson (BindingRecord.shape.codec.write e.2)).limitNesting (n - 1 - 1)) = .ok r := by
  have hbindings := Shape.reads_of_read_ofJson h (List.mem_cons_of_mem _ (List.mem_singleton_self _))
  obtain ⟨d, hd⟩ : ∃ d, BindingRecord.shape.codec.dict.read .text _ = .ok d := by
    simpa [Fields.Reads, RecordSet.shape, Field.accepts, Field.defaulted] using hbindings
  exact Codec.reads_of_readDict_ofJson hd (List.mem_map_of_mem he)

end Within

end RecordSet

/-- A slot that is read within a limit is nested no deeper. -/
theorem InstanceRecord.depth_of_read {r read : InstanceRecord} {n : Nat}
    (h : shape.codec.read .text ((Source.ofJson (shape.codec.write r)).limitNesting n) = .ok read) :
    (Slot.codec.write r.fingerprint).depth ≤ n - 1 := by
  have hmember : ("fingerprint", Slot.codec.write r.fingerprint) ∈
      [("service_id", Json.str r.serviceId), ("plan_id", .str r.planId),
        ("organization_guid", .str r.organizationGuid), ("space_guid", .str r.spaceGuid),
        ("fingerprint", Slot.codec.write r.fingerprint)] := by simp
  rw [write_eq] at h
  -- the reader of the record has read the slot under its key
  have hslot := Shape.reads_of_read_ofJson h hmember
  obtain ⟨slot, hslot⟩ : ∃ slot, Slot.codec.read .text _ = .ok slot := by
    simpa [Fields.Reads, InstanceRecord.shape, Field.accepts, Field.required] using hslot
  obtain ⟨value, hvalue, -⟩ := exists_of_map_ok hslot
  exact Source.depth_le_of_toJson (Codec.toJson_of_readJson hvalue)

/-- Parameters that are read within a limit are nested no deeper. -/
theorem BindingRecord.depth_of_read {r read : BindingRecord} {n : Nat}
    (h : shape.codec.read .text ((Source.ofJson (shape.codec.write r)).limitNesting n) = .ok read)
    {parameters : Json} (hparameters : r.parameters = some parameters) : parameters.depth ≤ n - 1 := by
  have hmember : ("parameters", parameters) ∈
      (r.parameters.map fun p => ("parameters", p)).toList := by simp [hparameters]
  rw [write_eq] at h
  have hoptional := Shape.reads_of_read_ofJson h
    (List.mem_append_right _ (List.mem_append_right _ hmember))
  obtain ⟨read, hoptional⟩ : ∃ o, Codec.json.option.read .text _ = .ok o := by
    simpa [Fields.Reads, BindingRecord.shape, Field.accepts, Field.required, Field.defaulted,
      Field.optional] using hoptional
  obtain ⟨value, hvalue⟩ := Codec.exists_toJson_of_readOption hoptional
  exact Source.depth_le_of_toJson hvalue

namespace Store

variable {records : RecordSet}

/-- The text of a record set reads as its document, within the limit on nesting. -/
theorem parseRecords_pretty (h : records.Proper) :
    parseRecords (RecordSet.shape.codec.write records).pretty
      = RecordSet.shape.codec.read .text ((Source.ofJson (RecordSet.shape.codec.write records).reread)
          |>.limitNesting Document.nestingLimit) := by
  have hblank : isBlankText (RecordSet.shape.codec.write records).pretty = false := by
    unfold isBlankText Json.pretty
    rw [RecordSet.write_eq, Json.toList_prettyAt_obj 0 (List.cons_ne_nil _ _), List.all_cons]
    rfl
  unfold parseRecords
  rw [hblank, Document.ofText_pretty h.every_write]
  dsimp only
  rw [if_neg Bool.false_ne_true]
  change _ = RecordSet.shape.read .text ((Source.ofJson (RecordSet.shape.codec.write records).reread)
    |>.limitNesting Document.nestingLimit)
  cases RecordSet.shape.read .text ((Source.ofJson (RecordSet.shape.codec.write records).reread)
    |>.limitNesting Document.nestingLimit) <;> rfl

/-- Records that fit are read back from their text. -/
theorem parseRecords_of_fits (h : records.Proper) (hfits : records.Fits) :
    parseRecords (RecordSet.shape.codec.write records).pretty = .ok records.reread.stored := by
  have hdepth : (RecordSet.shape.codec.write records).reread.depth ≤ Document.nestingLimit := by
    rw [Json.depth_reread]
    exact records.depth_write.2 hfits
  have hread := RecordSet.readsBack h.storable_reread
  rw [parseRecords_pretty h, Source.limitNesting_ofJson hdepth, RecordSet.reread_write]
  exact hread.read .text _ hread.tidy rfl

/-- Only records that fit are read back from their text: of a document that is read every part that
is kept has been read. -/
theorem fits_of_parseRecords (h : records.Proper) {read : RecordSet}
    (hread : parseRecords (RecordSet.shape.codec.write records).pretty = .ok read) :
    records.Fits := by
  rw [parseRecords_pretty h, RecordSet.reread_write] at hread
  refine ⟨fun e he => ?_, fun e he parameters hparameters => ?_⟩
  · have hmem : (e.1, e.2.reread) ∈ records.reread.instances.entries := List.mem_map_of_mem he
    obtain ⟨r, hr⟩ := RecordSet.reads_instance hread hmem
    have hdepth := InstanceRecord.depth_of_read hr
    rwa [← Json.depth_reread]
  · have hmem : (e.1, e.2.reread) ∈ records.reread.bindings.entries := List.mem_map_of_mem he
    obtain ⟨r, hr⟩ := RecordSet.reads_binding hread hmem
    have hreread : e.2.reread.parameters = some parameters.reread := by
      simp only [BindingRecord.reread, hparameters, Option.map_some]
    have hdepth := BindingRecord.depth_of_read hr hreread
    rwa [Json.depth_reread] at hdepth

/-- **Reading a record file back.** It succeeds exactly if nothing in it is nested too deeply. -/
theorem parseRecords_pretty_isOk (h : records.Proper) :
    (∃ read, parseRecords (RecordSet.shape.codec.write records).pretty = .ok read) ↔
      records.Fits :=
  ⟨fun ⟨_, hread⟩ => fits_of_parseRecords h hread,
    fun hfits => ⟨_, parseRecords_of_fits h hfits⟩⟩

/-- Shallow records are read back from their text. -/
theorem parseRecords_of_shallow (h : records.Legible) (hshallow : records.Shallow) :
    parseRecords (RecordSet.shape.codec.write records).pretty = .ok records.reread.stored :=
  parseRecords_of_fits h.proper (h.fits_iff.2 hshallow)

theorem shallow_of_parseRecords (h : records.Legible) {read : RecordSet}
    (hread : parseRecords (RecordSet.shape.codec.write records).pretty = .ok read) :
    records.Shallow :=
  (fits_of_parseRecords h.proper hread).bindings

/-- If the document of the records reads back as it is, so do the records, with documents in their
slots. -/
theorem parseRecords_of_reread (h : records.Legible) {read : RecordSet}
    (hread : parseRecords (RecordSet.shape.codec.write records).pretty = .ok read)
    (hsame : (RecordSet.shape.codec.write records).reread.canonical
      = (RecordSet.shape.codec.write records).canonical) : read = records.stored := by
  have hdepth : (RecordSet.shape.codec.write records).reread.depth ≤ Document.nestingLimit := by
    rw [Json.depth_reread]
    exact records.depth_write.2 (fits_of_parseRecords h.proper hread)
  have hlaw := RecordSet.readsBack h.storable
  have hstored : RecordSet.shape.codec.read .text
      (.ofJson (RecordSet.shape.codec.write records).reread) = .ok records.stored :=
    hlaw.read .text _ hlaw.tidy.reread hsame
  rw [parseRecords_pretty h.proper, Source.limitNesting_ofJson hdepth, hstored] at hread
  exact (Except.ok.inj hread).symm

end Store

/-! ### Parameters that are nested too deeply -/

namespace DeepBinding

/-- Arrays within arrays. -/
def nested : Nat → Json
  | 0 => .null
  | n + 1 => .arr [nested n]

theorem legible_nested (n : Nat) : (nested n).Legible := by
  induction n with
  | zero => exact ⟨rfl, .null⟩
  | succ n ih =>
    refine ⟨?_, .arr fun item hitem => ?_⟩
    · rw [nested, Json.canonical_arr, List.map_singleton, ih.canonical]
    · rw [List.mem_singleton.1 hitem]
      exact ih.numbers

theorem reread_nested (n : Nat) : (nested n).reread = nested n := by
  induction n with
  | zero => rfl
  | succ n ih => rw [nested, Json.reread, Json.rereadItems_eq, List.map_singleton, ih]

theorem depth_nested (n : Nat) : (nested n).depth = n := by
  induction n with
  | zero => rfl
  | succ n ih => simp [nested, Json.depth, Json.depthItems, ih]

/-- Parameters that are one level too deep for a record file. -/
def parameters : Json := .obj [("deep", nested RecordSet.room)]

theorem legible_parameters : parameters.Legible ∧ parameters.reread = parameters := by
  obtain ⟨hcanonical, hnumbers⟩ := legible_nested RecordSet.room
  refine ⟨⟨?_, .obj fun m hm => ?_⟩, ?_⟩
  · rw [parameters, Json.canonical_obj]
    change Json.obj [("deep", (nested RecordSet.room).canonical)] = _
    rw [hcanonical]
  · rw [List.mem_singleton.1 hm]
    exact hnumbers
  · rw [parameters, Json.reread, Json.rereadMembers_eq, List.map_singleton, reread_nested]

theorem depth_parameters : parameters.depth = RecordSet.room + 1 := by
  have hnested := depth_nested RecordSet.room
  simp [parameters, Json.depth, Json.depthMembers, hnested]

end DeepBinding

end VolumeBroker
