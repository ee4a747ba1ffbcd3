import VolumeBroker.Catalog.SpecFile
import VolumeBroker.Proofs.Codec.Plain
import VolumeBroker.Proofs.Codec.Surplus
/-!
# Specification files that are read back

What an operator may write for the entries of a specification. `ServicePlan.style` and
`ServiceSpec.style` list the keys and the values that may be left out; the members of an entry stand side by
side with those of its service, in any order, and other members may stand among them.

The reader of an entry takes its own fields out first and hands all other members to its service
(`ServiceSpec.splitMembers_of_awaits`). No key is a field of both, so each half gets what is its own
(`ServiceSpec.admits`). `SpecFile.load_written` puts this together with the text of a file: what is written
for some entries is one of their documents, and every file with one of their documents is loaded as these
entries.

Metadata are JSON values, in which the order of members is free. They come back in canonical form
(`ServiceSpec.canonical`). Metadata that are `null` would be read as absent, so there may be none
(`ServiceSpec.NullFree`).
-/

namespace VolumeBroker

/-! ### Canonical form -/

/-- The plan with its metadata in canonical form. -/
def ServicePlan.canonical (plan : ServicePlan) : ServicePlan :=
  { plan with metadata := plan.metadata.map Json.canonical }

/-- The service with all metadata in canonical form. -/
def Service.canonical (service : Service) : Service :=
  { service with
    metadata := service.metadata.map Json.canonical
    plans := service.plans.map ServicePlan.canonical }

/-- The entry with all metadata in canonical form. -/
def ServiceSpec.canonical (spec : ServiceSpec) : ServiceSpec :=
  { spec with service := spec.service.canonical }

/-- The metadata of an entry and of its plans are no `null`. -/
structure ServiceSpec.NullFree (spec : ServiceSpec) : Prop where
  service : spec.service.metadata ≠ some .null
  plans : ∀ plan ∈ spec.service.plans, plan.metadata ≠ some .null

/-! ### Documents -/

/-- How the fields of a plan may be given. -/
def ServicePlan.manners : Manners shape.types :=
  .cons ⟨["id"], .string, none⟩ <|
  .cons ⟨["name"], .string, none⟩ <|
  .cons ⟨["description"], .string, some ""⟩ <|
  .cons ⟨["free"], Style.bool.option, some none⟩ <|
  .cons ⟨["metadata"], Style.json.option, some none⟩ .nil

def ServicePlan.style : Style ServicePlan := .openRecord manners shape.parts

/-- How the fields of a service may be given. -/
def Service.manners : Manners shape.types :=
  .cons ⟨["id"], .string, none⟩ <|
  .cons ⟨["name"], .string, none⟩ <|
  .cons ⟨["description"], .string, some ""⟩ <|
  .cons ⟨["bindable"], .bool, some false⟩ <|
  .cons ⟨["plan_updateable"], .bool, some false⟩ <|
  .cons ⟨["tags"], Style.string.list, some []⟩ <|
  .cons ⟨["requires"], Style.string.list, some []⟩ <|
  .cons ⟨["metadata"], Style.json.option, some none⟩ <|
  .cons ⟨["plans"], ServicePlan.style.list, some []⟩ .nil

/-- How the fields that an entry adds to its service may be given. -/
def ServiceSpec.manners : Manners OwnTypes :=
  .cons ⟨["driver_name"], .string, some ""⟩ <|
  .cons ⟨["connection_address"], .string, some ""⟩ .nil

/-- Entries: their own members and those of their service side by side, and others among them. -/
def ServiceSpec.style : Style ServiceSpec := .plain fun spec value =>
  ∃ members own given others, value = .obj members ∧ members.Perm (own ++ (given ++ others)) ∧
    manners.Gives (spec.driverName, spec.connectionAddress, ()) own ∧
    Service.manners.Gives (Service.shape.parts spec.service) given ∧
    ∀ m ∈ others, m.1 ∉ manners.spellings ++ Service.manners.spellings

def SpecFile.style : Style (List ServiceSpec) := ServiceSpec.style.list

/-! ### Reading -/

theorem ServicePlan.admits : ServicePlan.shape.codec.Admits style :=
  Shape.admits_openRecord (by decide) rfl
    ⟨⟨by decide, Codec.string_follows.admits, rfl⟩, ⟨by decide, Codec.string_follows.admits, rfl⟩,
      ⟨by decide, Codec.string_follows.admits, rfl⟩, ⟨by decide, Codec.bool_admits.option, rfl⟩,
      ⟨by decide, Codec.json_admits.option, rfl⟩, trivial⟩ (by decide) fun _ => rfl

theorem Service.fields_admits : Service.shape.fields.Admit manners :=
  ⟨⟨by decide, Codec.string_follows.admits, rfl⟩, ⟨by decide, Codec.string_follows.admits, rfl⟩,
    ⟨by decide, Codec.string_follows.admits, rfl⟩, ⟨by decide, Codec.bool_admits, rfl⟩,
    ⟨by decide, Codec.bool_admits, rfl⟩, ⟨by decide, Codec.string_follows.admits.list, rfl⟩,
    ⟨by decide, Codec.string_follows.admits.list, rfl⟩, ⟨by decide, Codec.json_admits.option, rfl⟩,
    ⟨by decide, ServicePlan.admits.list, rfl⟩, trivial⟩

namespace ServiceSpec

theorem ownFields_admits : ownFields.Admit manners :=
  ⟨⟨by decide, Codec.string_follows.admits, rfl⟩, ⟨by decide, Codec.string_follows.admits, rfl⟩,
    trivial⟩

/-- **The members of an entry are divided.** Its own fields are read, and what names none of them is kept in
order. -/
theorem splitMembers_of_awaits {origin : Origin} {members : List (String × Source)}
    (hwhole : ∀ m ∈ members, m.2.readFault = none) {slots : Partial OwnTypes} {row : Row OwnTypes}
    (h : ownFields.Awaits origin members slots row) :
    ∃ slots', splitMembers origin (Shape.membersOf members) slots = .ok (slots', Shape.membersOf
        (members.filter fun m => !ownFields.spellings.contains m.1)) ∧
      ownFields.complete slots' = .ok row := by
  induction members generalizing slots with
  | nil => exact ⟨slots, rfl, h.done⟩
  | cons m members ih =>
    obtain ⟨key, value⟩ := m
    rw [List.forall_mem_cons] at hwhole
    change ∃ slots', splitMembers origin ((.text key, value) :: Shape.membersOf members) slots = _ ∧ _
    rw [splitMembers]
    -- a member of the entry goes into its slot, any other is set aside
    by_cases hkey : key ∈ ownFields.spellings
    · obtain ⟨slots', hput, hawaits⟩ := h.take (by decide) hkey
      rw [hput, List.filter_cons_of_neg (by simpa using hkey)]
      exact ih hwhole.2 hawaits
    · obtain ⟨slots', hrest, hcomplete⟩ := ih hwhole.2 (h.skip hkey)
      rw [Fields.put?_of_not_mem hkey, List.filter_cons_of_pos (by simpa using hkey)]
      refine ⟨slots', ?_, hcomplete⟩
      simp only [hwhole.1, hrest, bind, Except.bind]
      rfl

/-- **Entries are read**, whatever the order of their members is and whatever stands among them. -/
theorem admits : codec.Admits style := by
  rintro spec _ ⟨members, own, given, others, rfl, hperm, hown, hgiven, hothers⟩ origin
  simp only [List.mem_append, not_or] at hothers
  -- no key is a field of both halves
  have hforeign : ∀ m ∈ given ++ others, m.1 ∉ ownFields.spellings := by
    have hdisjoint : ∀ key ∈ Service.shape.fields.spellings, key ∉ ownFields.spellings := by decide
    exact List.forall_mem_append.2 ⟨fun m hm => hdisjoint _ (hgiven.mem_spellings Service.fields_admits m hm),
      fun m hm => (hothers m hm).1⟩
  have hleft : (members.filter fun m => !ownFields.spellings.contains m.1).Perm (given ++ others) := by
    refine (hperm.filter _).trans ?_
    have hnone : own.filter (fun m => !ownFields.spellings.contains m.1) = [] :=
      List.filter_eq_nil_iff.2 fun m hm => by simpa using hown.mem_spellings ownFields_admits m hm
    rw [List.filter_append, hnone, List.nil_append,
      List.filter_eq_self.2 fun m hm => by simpa using hforeign m hm]
  -- the reader of the entry
  obtain ⟨slots, hsplit, hcomplete⟩ := @splitMembers_of_awaits origin _
    (List.forall_mem_map.2 fun m _ => Source.readFault_ofJson m.2) _ _
    (hown.given_of_perm origin ownFields_admits (by decide) hperm hforeign).awaits
  -- the reader of the service, with the members that are left to it
  have hservice := Shape.read_obj (by decide)
    (List.forall_mem_map.2 fun m _ => .inr ⟨rfl, Source.skipFault_ofJson m.2⟩)
    (hgiven.given_of_perm .buffered Service.fields_admits (by decide) hleft fun m hm => (hothers m hm).2)
  rw [List.filter_map, Function.comp_def] at hsplit
  rw [Shape.ofJson_obj]
  simp only [codec, hsplit, hcomplete, hservice, bind, Except.bind, endOf]
  rfl

end ServiceSpec

/-! ### Writing -/

theorem metadata_renders : {metadata : Option Json} → metadata ≠ some .null →
    (Field.optional "metadata" .json).Renders ⟨["metadata"], Style.json.option, some none⟩ metadata
      (metadata.map Json.canonical)
  | none, _ => rfl
  | some _, h => Field.renders_of_kept rfl List.mem_cons_self ⟨fun hnull => h (congrArg some hnull), rfl⟩

theorem ServicePlan.words_write {plan : ServicePlan} (h : plan.metadata ≠ some .null) :
    style.words plan.canonical (shape.codec.write plan) := by
  have hfree : ∀ free, (Field.optional "free" .bool).Renders ⟨["free"], Style.bool.option, some none⟩
      free free
    | none => rfl
    | some _ => Field.renders_of_kept rfl List.mem_cons_self ⟨nofun, rfl⟩
  have hrender : shape.fields.Render manners (shape.parts plan) (shape.parts plan.canonical) :=
    ⟨Field.renders_of_kept rfl (by decide) rfl, Field.renders_of_kept rfl (by decide) rfl,
      Field.renders_of_kept rfl (by decide) rfl, hfree plan.free, metadata_renders h, trivial⟩
  refine ⟨_, _, [], rfl, ?_, Manners.gives_of_render hrender, nofun⟩
  rw [List.append_nil]
  exact .refl _

theorem Service.render {service : Service} (hmetadata : service.metadata ≠ some .null)
    (hplans : ∀ plan ∈ service.plans, plan.metadata ≠ some .null) :
    shape.fields.Render manners (shape.parts service) (shape.parts service.canonical) := by
  have hwords : ServicePlan.style.list.words (service.plans.map ServicePlan.canonical)
      (ServicePlan.shape.codec.list.write service.plans) :=
    ⟨_, rfl, List.forall₂_map_left_iff.2 (List.forall₂_map_right_iff.2
      (List.forall₂_same.2 fun plan hplan => ServicePlan.words_write (hplans plan hplan)))⟩
  exact ⟨Field.renders_of_kept rfl (by decide) rfl, Field.renders_of_kept rfl (by decide) rfl,
    Field.renders_of_kept rfl (by decide) rfl, Field.renders_of_kept rfl (by decide) rfl,
    Field.renders_of_kept rfl (by decide) rfl,
    Field.renders_of_kept rfl (by decide) (Codec.string_follows.list.write _),
    Field.renders_of_kept rfl (by decide) (Codec.string_follows.list.write _),
    metadata_renders hmetadata, Field.renders_of_kept rfl (by decide) hwords, trivial⟩

theorem ServiceSpec.NullFree.words_write {spec : ServiceSpec} (h : spec.NullFree) :
    ServiceSpec.style.words spec.canonical (codec.write spec) := by
  have hown : ownFields.Render manners (spec.driverName, spec.connectionAddress, ())
      (spec.driverName, spec.connectionAddress, ()) :=
    ⟨Field.renders_of_kept rfl (by decide) rfl, Field.renders_of_kept rfl (by decide) rfl, trivial⟩
  refine ⟨_, _, _, [], rfl, ?_, Manners.gives_of_render hown,
    Manners.gives_of_render (Service.render h.service h.plans), nofun⟩
  rw [List.append_nil]
  exact .refl _

/-! ### Files -/

namespace SpecFile

variable {files : FileSystem} {path : String} {value : Json} {specs : List ServiceSpec}

/-- A file of JSON text with a document that text can hold: its numbers are read back as they are, and it
is nested within the limit. -/
structure Holds (files : FileSystem) (path : String) (value : Json) : Prop where
  json : isYaml path = false
  text : ∃ text, files.readText? path = some text ∧ value.Spells text.toList
  numbers : value.reread = value
  depth : value.depth ≤ Document.nestingLimit

/-- A file with the text of a value without blanks. -/
theorem holds_compact (hjson : isYaml path = false) (hread : files.readText? path = some value.compact)
    (hnumbers : value.Every fun n => n.InRange ∧ n.reread = n)
    (hdepth : value.depth ≤ Document.nestingLimit) : Holds files path value where
  json := hjson
  text :=
    ⟨_, hread, Json.spells_compact (hnumbers.imp fun _ hn => Number.readable_of_inRange hn.1)⟩
  numbers := (hnumbers.imp fun _ hn => hn.2).reread_eq
  depth := hdepth

theorem Holds.load (h : Holds files path value) (hvalue : style.words specs value) :
    load files path = .ok specs := by
  obtain ⟨text, hread, htext⟩ := h.text
  have hentries : codec.read .text (.ofJson value) = .ok specs :=
    ServiceSpec.admits.list specs value hvalue .text
  -- the text is read in full, since its numbers and its depth are within what the reader keeps
  have hloaded : ofJsonText text = .ok specs := by
    unfold ofJsonText
    rw [Document.ofText_of_spells h.numbers h.depth htext]
    dsimp only
    rw [hentries]
    rfl
  unfold SpecFile.load
  rw [hread, h.json]
  dsimp only
  rw [if_neg Bool.false_ne_true, hloaded]

/-- **A specification survives its file.** What is written for entries whose metadata are no `null` is one
of their documents. Every file that holds one of their documents, with the members of each entry and each
plan in any order, fields with their defaults left out or not, and other members among them, is loaded as
the same entries. -/
theorem load_written (specs : List ServiceSpec) (h : ∀ spec ∈ specs, spec.NullFree) :
    style.words (specs.map ServiceSpec.canonical) (codec.write specs) ∧
      ∀ value, style.words (specs.map ServiceSpec.canonical) value →
        ∀ files path, Holds files path value →
          load files path = .ok (specs.map ServiceSpec.canonical) := by
  refine ⟨⟨_, rfl, ?_⟩, fun value hvalue files path hfile => hfile.load hvalue⟩
  exact List.forall₂_map_left_iff.2 (List.forall₂_map_right_iff.2
    (List.forall₂_same.2 fun spec hspec => (h spec hspec).words_write))

end SpecFile

namespace SparseEntry

/-- An entry of which little is more than its default. -/
def spec : ServiceSpec :=
  ⟨"org.example.nfs", "", ⟨"svc-nfs", "csi-nfs", "", false, false, [], [],
    some (.obj [("shareable", .bool true)]), []⟩⟩

/-- The entry without its defaults, in an order of its own, and with a member that is nobody's. -/
def document : Json :=
  .arr [.obj [("owner", .str "storage"), ("metadata", .obj [("shareable", .bool true)]),
    ("name", .str "csi-nfs"), ("id", .str "svc-nfs"), ("driver_name", .str "org.example.nfs")]]

/-- A file with the document. -/
def files : FileSystem :=
  ⟨Dict.empty.insert "/specs.json" (.file (.text document.compact)), [], []⟩

theorem words_document : SpecFile.style.words [spec.canonical] document := by
  have hown : ServiceSpec.manners.Gives ("org.example.nfs", "", ())
      [("driver_name", .str "org.example.nfs")] :=
    .inr ⟨_, _, _, rfl, by decide, rfl, .inl ⟨rfl, rfl⟩⟩
  -- id, name and metadata are given, every other field of the service keeps its fallback
  have hgiven : Service.manners.Gives (Service.shape.parts spec.canonical.service)
      [("id", .str "svc-nfs"), ("name", .str "csi-nfs"),
        ("metadata", .obj [("shareable", .bool true)])] :=
    .inr ⟨_, _, _, rfl, by decide, rfl, .inr ⟨_, _, _, rfl, by decide, rfl, .inl ⟨rfl, .inl ⟨rfl,
      .inl ⟨rfl, .inl ⟨rfl, .inl ⟨rfl, .inr ⟨_, _, _, rfl, by decide, ⟨nofun, rfl⟩,
        .inl ⟨rfl, rfl⟩⟩⟩⟩⟩⟩⟩⟩⟩
  have hother : ∀ m ∈ [("owner", Json.str "storage")],
      m.1 ∉ ServiceSpec.manners.spellings ++ Service.manners.spellings := by decide
  refine ⟨_, rfl, .cons ⟨_, _, _, _, rfl, ?_, hown, hgiven, hother⟩ .nil⟩
  exact List.reverse_perm [_, _, _, _, _]

theorem readText?_files : files.readText? "/specs.json" = some document.compact := by
  have habsolute : FilePath.isAbsolute "/specs.json" = true := by decide +kernel
  have hsegments : FilePath.segments "/specs.json" = ["specs.json"] := by decide +kernel
  have hnames : FilePath.namesDirectory "/specs.json" = false := by decide +kernel
  unfold FileSystem.readText? FileSystem.node? FileSystem.place? FileSystem.origin
  rw [habsolute, hsegments, hnames]
  rfl

theorem holds_document : SpecFile.Holds files "/specs.json" document := by
  refine SpecFile.holds_compact (by decide) readText?_files ?_ (by decide)
  refine .arr (List.forall_mem_singleton.2 (.obj ?_))
  simp only [List.forall_mem_cons]
  exact ⟨.str _, .obj (List.forall_mem_singleton.2 (.bool _)), .str _, .str _, .str _, nofun⟩

/-- The file is loaded as the entry. -/
theorem load_document :
    spec.NullFree ∧ SpecFile.load files "/specs.json" = .ok [spec.canonical] := by
  have hnull : spec.NullFree := ⟨nofun, nofun⟩
  exact ⟨hnull, (SpecFile.load_written [spec] (List.forall_mem_singleton.2 hnull)).2 document
    words_document files "/specs.json" holds_document⟩

end SparseEntry

end VolumeBroker
