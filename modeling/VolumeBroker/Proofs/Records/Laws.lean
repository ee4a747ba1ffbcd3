import VolumeBroker.Proofs.Codec.Laws
import VolumeBroker.Records.Basic
/-!
# Records that are written and read back

The laws of the codecs of records. A fingerprint reads back as itself (`Fingerprint.readsBack`), and a
record set as itself with every slot turned into its document (`RecordSet.readsBack`): what a store
does not understand it keeps as the document that was written, and `Fingerprint.ofSlot_stored` says
that the broker finds the same fingerprint there.
-/

namespace VolumeBroker

/-! ### Fingerprints -/

theorem Volume.readsBack (v : Volume) : Volume.shape.codec.ReadsBack v v :=
  @Shape.readsBack _ Volume.shape _ _ (v.volumeId, v.capacityBytes, v.volumeContext, ()) (by decide)
    ⟨Field.spelled_readsBack (by decide) (Field.required_readsBack _ (Codec.string_readsBack _)),
      Field.spelled_readsBack (by decide) (Field.defaulted_readsBack _ _ (Codec.uint64_readsBack _)),
      Field.spelled_readsBack (by decide)
        (Field.defaulted_readsBack _ _ (Codec.strings_readsBack _)), trivial⟩ rfl

theorem Fingerprint.readsBack (f : Fingerprint) : Fingerprint.shape.codec.ReadsBack f f :=
  @Shape.readsBack _ Fingerprint.shape _ _ (f.name, f.volume, ()) (by decide)
    ⟨Field.spelled_readsBack (by decide) (Field.required_readsBack _ (Codec.string_readsBack _)),
      Field.spelled_readsBack (by decide) (Field.required_readsBack _ (Volume.readsBack _)),
      trivial⟩ rfl

/-! ### Slots -/

namespace Slot

/-- The slot after it has been written and read: the canonical document of its value. -/
def stored (slot : Slot) : Slot :=
  match slot.toDocument with
  | .ok value => .document value.canonical
  | .error _ => .document .null

/-- The slot has a document that repeats no key. -/
def Storable (slot : Slot) : Prop := ∃ value, slot.toDocument = .ok value ∧ value.Tidy

variable {slot : Slot}

theorem write_eq {value : Json} (h : slot.toDocument = .ok value) : codec.write slot = value := by
  simp only [codec, h]

theorem readsBack (h : slot.Storable) : codec.ReadsBack slot slot.stored := by
  obtain ⟨value, hvalue, htidy⟩ := h
  have hwrite : codec.write slot = value := write_eq hvalue
  have hstored : slot.stored = .document value.canonical := by
    unfold stored
    rw [hvalue]
  refine ⟨hwrite ▸ htidy, fun origin j hj hcanonical => ?_⟩
  rw [hwrite] at hcanonical
  show (Codec.json.read origin (.ofJson j)).map Slot.document = _
  rw [(Codec.json_readsBack htidy).read origin j hj hcanonical, hstored]
  rfl

/-- The document of a stored slot is the canonical one of the slot. -/
theorem toDocument_stored {value : Json} (h : slot.toDocument = .ok value) :
    slot.stored.toDocument = .ok value.canonical := by
  unfold stored
  rw [h]
  rfl

end Slot

namespace Fingerprint

/-- The document of a slot is read where the slot holds no live fingerprint. -/
theorem ofSlot_document {value : Json} {f : Fingerprint}
    (h : Fingerprint.shape.codec.ofJson value = .ok f) : ofSlot (.document value) = .ok f := by
  unfold ofSlot
  dsimp only [Slot.fingerprint?, Slot.toDocument]
  rw [h]

/-- A live fingerprint is found again in the document that was written for it. -/
theorem ofSlot_stored (f : Fingerprint) : ofSlot (Slot.ofFingerprint f).stored = .ok f := by
  have hread := (Fingerprint.readsBack f).ofJson
  have hdocument : (Slot.ofFingerprint f).toDocument = .ok (Fingerprint.shape.codec.toJson f) := rfl
  -- the document of a live fingerprint is written in canonical form
  have hcanonical : (Fingerprint.shape.codec.toJson f).canonical = Fingerprint.shape.codec.toJson f :=
    Json.canonical_canonical _
  unfold Slot.stored
  rw [hdocument]
  dsimp only
  rw [hcanonical]
  exact ofSlot_document hread

end Fingerprint

/-! ### Records -/

/-- An instance record after it has been written and read. -/
def InstanceRecord.stored (r : InstanceRecord) : InstanceRecord :=
  { r with fingerprint := r.fingerprint.stored }

theorem InstanceRecord.readsBack {r : InstanceRecord} (h : r.fingerprint.Storable) :
    InstanceRecord.shape.codec.ReadsBack r r.stored :=
  @Shape.readsBack _ InstanceRecord.shape _ _
    (r.serviceId, r.planId, r.organizationGuid, r.spaceGuid, r.fingerprint.stored, ()) (by decide)
    ⟨Field.required_readsBack _ (Codec.string_readsBack _),
      Field.required_readsBack _ (Codec.string_readsBack _),
      Field.required_readsBack _ (Codec.string_readsBack _),
      Field.required_readsBack _ (Codec.string_readsBack _),
      Field.required_readsBack _ (Slot.readsBack h), trivial⟩ rfl

theorem BindResource.readsBack (r : BindResource) : BindResource.shape.codec.ReadsBack r r := by
  have hoptional : ∀ name (o : Option String),
      (Field.optional name Codec.string).ReadsBack o (o.map id) := fun name o =>
    Field.optional_readsBack name fun s _ => ⟨Codec.string_readsBack s, nofun⟩
  refine @Shape.readsBack _ BindResource.shape _ _ (r.appGuid.map id, r.route.map id, ()) (by decide)
    ⟨hoptional _ _, hoptional _ _, trivial⟩ ?_
  show BindResource.mk (r.appGuid.map id) (r.route.map id) = r
  rw [Option.map_id]
  rfl

namespace BindingRecord

/-- A binding record after it has been written and read. -/
def stored (r : BindingRecord) : BindingRecord :=
  { r with parameters := r.parameters.map Json.canonical }

/-- The parameters repeat no key, and are not given as `null`, which would read as absent. -/
def Storable (r : BindingRecord) : Prop :=
  ∀ parameters, r.parameters = some parameters → parameters.Tidy ∧ parameters ≠ .null

theorem readsBack {r : BindingRecord} (h : r.Storable) :
    BindingRecord.shape.codec.ReadsBack r r.stored := by
  refine @Shape.readsBack _ BindingRecord.shape _ _
    (r.serviceId, r.planId, r.appGuid, r.bindResource.map id, r.parameters.map Json.canonical, ())
    (by decide)
    ⟨Field.required_readsBack _ (Codec.string_readsBack _),
      Field.defaulted_readsBack _ _ (Codec.string_readsBack _),
      Field.defaulted_readsBack _ _ (Codec.string_readsBack _),
      Field.optional_readsBack _ fun resource _ => ⟨BindResource.readsBack resource, nofun⟩,
      Field.optional_readsBack _ fun parameters hsome => ?_, trivial⟩ ?_
  · -- the parameters are the only field that comes back in another form
    obtain ⟨htidy, hnull⟩ := h parameters hsome
    exact ⟨Codec.json_readsBack htidy, hnull⟩
  · show BindingRecord.mk _ _ _ (r.bindResource.map id) _ = _
    rw [Option.map_id]
    rfl

end BindingRecord

namespace RecordSet

/-- A record set after it has been written and read. -/
def stored (records : RecordSet) : RecordSet :=
  ⟨records.instances.map InstanceRecord.stored, records.bindings.map BindingRecord.stored⟩

/-- All records can be written and read. -/
structure Storable (records : RecordSet) : Prop where
  instances : ∀ e ∈ records.instances.entries, e.2.fingerprint.Storable
  bindings : ∀ e ∈ records.bindings.entries, e.2.Storable

/-- **A record set that is written and read back.** Only its slots have become documents. -/
theorem readsBack {records : RecordSet} (h : records.Storable) :
    shape.codec.ReadsBack records records.stored :=
  @Shape.readsBack _ RecordSet.shape _ _
    (records.instances.map InstanceRecord.stored, records.bindings.map BindingRecord.stored, ())
    (by decide)
    ⟨Field.defaulted_readsBack _ _
        (Codec.dict_readsBack fun e he => InstanceRecord.readsBack (h.instances e he)),
      Field.defaulted_readsBack _ _
        (Codec.dict_readsBack fun e he => BindingRecord.readsBack (h.bindings e he)), trivial⟩ rfl

/-- Every slot holds a value that has a document. -/
def Writable (records : RecordSet) : Prop :=
  ∀ id r, records.instances.get? id = some r → ∃ value, r.fingerprint.toDocument = .ok value

theorem Storable.writable {records : RecordSet} (h : records.Storable) : records.Writable := by
  intro id r hr
  obtain ⟨value, hvalue, -⟩ := h.instances (id, r) (Dict.get?_eq_some_iff.1 hr)
  exact ⟨value, hvalue⟩

/-- A record set whose slots have documents has one. -/
theorem Writable.toDocument {records : RecordSet} (h : records.Writable) :
    records.toDocument = .ok (shape.codec.write records) := by
  have hnone : records.unwritable? = none := by
    unfold unwritable?
    rw [List.findSome?_eq_none_iff]
    -- no slot has a reason to be refused
    rintro ⟨id, r⟩ he
    obtain ⟨value, hvalue⟩ := h id r (Dict.get?_eq_some_iff.2 he)
    simp only [Slot.unwritable?, hvalue]
  unfold RecordSet.toDocument
  rw [hnone]

/-- A record set has a document, or a slot in it has none. -/
theorem toDocument_cases (records : RecordSet) :
    records.Writable ∨ ∃ reason id r, records.instances.get? id = some r ∧
      r.fingerprint.toDocument = .error reason ∧ records.toDocument = .error reason := by
  -- the first slot without a document gives its reason to the whole set
  cases hreason : records.unwritable? with
  | none =>
    unfold unwritable? at hreason
    rw [List.findSome?_eq_none_iff] at hreason
    left
    intro id r hr
    have hslot := hreason (id, r) (Dict.get?_eq_some_iff.1 hr)
    unfold Slot.unwritable? at hslot
    split at hslot
    · next value hvalue => exact ⟨value, hvalue⟩
    · cases hslot
  | some reason =>
    right
    have hdocument : records.toDocument = .error reason := by
      unfold RecordSet.toDocument
      rw [hreason]
    unfold unwritable? at hreason
    obtain ⟨⟨id, r⟩, he, hslot⟩ := List.exists_of_findSome?_eq_some hreason
    unfold Slot.unwritable? at hslot
    split at hslot
    · cases hslot
    · next failure hfailure =>
      rw [Option.some.inj hslot] at hfailure
      exact ⟨reason, id, r, Dict.get?_eq_some_iff.2 he, hfailure, hdocument⟩

end RecordSet

end VolumeBroker
