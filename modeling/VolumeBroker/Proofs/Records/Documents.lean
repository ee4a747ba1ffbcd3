import VolumeBroker.Proofs.Store.Restore
/-!
# Record sets and their documents

A record set is written as one document and read back as the same records, its slots turned into the
documents of what they held: this is `RecordSet.document_round_trip`. It asks that every slot has a
document, and that no binding holds `null` as its parameters, which would be read as their absence.

What is read is `RecordSet.stored`, the canonical form of a record set. The record set and its
canonical form are written as one and the same document (`RecordSet.canonical_write_stored`), so
nothing has to be assumed about the order of members in parameters or in slots, and what has been
read is written as it was.
-/

namespace VolumeBroker

namespace Json

/-- Objects with the same keys and the same canonical values are one in canonical form. -/
theorem canonical_obj_congr {α : Type} {entries : List α} {key : α → String} {f g : α → Json}
    (h : ∀ e ∈ entries, (f e).canonical = (g e).canonical) :
    (Json.obj (entries.map fun e => (key e, f e))).canonical
      = (Json.obj (entries.map fun e => (key e, g e))).canonical := by
  rw [canonical, canonical, canonicalMembers_eq, canonicalMembers_eq, List.map_map, List.map_map]
  -- the keys are the same, so the canonical members agree one by one
  have hmembers : entries.map ((fun m => (m.1, m.2.canonical)) ∘ fun e => (key e, f e))
      = entries.map ((fun m => (m.1, m.2.canonical)) ∘ fun e => (key e, g e)) :=
    List.map_congr_left fun e he => Prod.ext rfl (h e he)
  rw [hmembers]

end Json

/-! ### The canonical form of a record set -/

namespace Slot

/-- A slot and its canonical form have one document. -/
theorem canonical_write_stored (slot : Slot) :
    (codec.write slot.stored).canonical = (codec.write slot).canonical := by
  cases h : slot.toDocument with
  | ok value =>
    rw [write_eq h, write_eq (toDocument_stored h), Json.canonical_canonical]
  | error reason =>
    -- without a document both are written as `null`
    simp only [stored, codec, h, toDocument_document]

end Slot

theorem InstanceRecord.canonical_write_stored (r : InstanceRecord) :
    (shape.codec.write r.stored).canonical = (shape.codec.write r).canonical := by
  rw [write_eq, write_eq, Json.canonical, Json.canonical]
  simp only [Json.canonicalMembers, stored, r.fingerprint.canonical_write_stored]

theorem BindingRecord.canonical_write_stored (r : BindingRecord) :
    (shape.codec.write r.stored).canonical = (shape.codec.write r).canonical := by
  obtain ⟨serviceId, planId, appGuid, resource, _ | parameters⟩ := r
  · rfl
  · rw [write_eq, write_eq, Json.canonical, Json.canonical, Json.canonicalMembers_eq,
      Json.canonicalMembers_eq]
    simp only [stored, Option.map_some, Option.toList_some, List.map_append, List.map_cons,
      List.map_nil, Json.canonical_canonical]

namespace RecordSet

variable {records : RecordSet}

/-- **A record set and its canonical form have one document.** -/
theorem canonical_write_stored (records : RecordSet) :
    (shape.codec.write records.stored).canonical = (shape.codec.write records).canonical := by
  rw [write_eq, write_eq, Json.canonical, Json.canonical]
  -- ids stay as they are, and under each of them record and canonical form have one document
  have hinstances : (Json.obj (records.instances.entries.map fun e =>
        (e.1, InstanceRecord.shape.codec.write e.2.stored))).canonical
      = (Json.obj (records.instances.entries.map fun e =>
        (e.1, InstanceRecord.shape.codec.write e.2))).canonical :=
    Json.canonical_obj_congr fun e _ => e.2.canonical_write_stored
  have hbindings : (Json.obj (records.bindings.entries.map fun e =>
        (e.1, BindingRecord.shape.codec.write e.2.stored))).canonical
      = (Json.obj (records.bindings.entries.map fun e =>
        (e.1, BindingRecord.shape.codec.write e.2))).canonical :=
    Json.canonical_obj_congr fun e _ => e.2.canonical_write_stored
  simp only [Json.canonicalMembers, stored, Dict.map, List.map_map, Function.comp_def, hinstances,
    hbindings]

/-- No binding holds `null` as its parameters. -/
def NullFree (records : RecordSet) : Prop :=
  ∀ id r, records.bindings.get? id = some r → r.parameters ≠ some .null

/-- The canonical form of a record set can be written and read. -/
theorem NullFree.storable_stored (h : records.NullFree) : records.stored.Storable where
  instances e he := by
    obtain ⟨old, -, rfl⟩ := List.mem_map.1 he
    unfold InstanceRecord.stored Slot.stored
    dsimp only
    split
    · exact ⟨_, rfl, Json.tidy_canonical _⟩
    · exact ⟨_, rfl, .null⟩
  bindings e he := by
    obtain ⟨⟨id, old⟩, hold, rfl⟩ := List.mem_map.1 he
    rintro parameters hparameters
    obtain ⟨raw, hraw, rfl⟩ := Option.map_eq_some_iff.1 hparameters
    refine ⟨Json.tidy_canonical raw, fun hnull => ?_⟩
    -- only `null` itself has the canonical form `null`
    rw [Json.eq_of_canonical_null hnull] at hraw
    exact h id old (Dict.get?_eq_some_iff.2 hold) hraw

/-- The canonical form is a fixed point. -/
theorem stored_stored (records : RecordSet) : records.stored.stored = records.stored := by
  -- only slots and parameters change at all
  have hslot : ∀ slot : Slot, slot.stored.stored = slot.stored := by
    intro slot
    cases h : slot.toDocument with
    | ok value =>
      have hstored : slot.stored = .document value.canonical := by simp only [Slot.stored, h]
      rw [hstored]
      simp only [Slot.stored, Slot.toDocument_document, Json.canonical_canonical]
    | error reason =>
      have hstored : slot.stored = .document .null := by simp only [Slot.stored, h]
      rw [hstored]
      rfl
  have hbinding : ∀ r : BindingRecord, r.stored.stored = r.stored := by
    intro r
    simp only [BindingRecord.stored, Option.map_map, Function.comp_def, Json.canonical_canonical]
  simp only [stored, Dict.map, List.map_map, Function.comp_def, InstanceRecord.stored, hslot, hbinding]

/-- **Every document of a record set is read as its canonical form**, whoever reads it and in whatever
order the members stand. -/
theorem NullFree.read (h : records.NullFree) (origin : Origin) {value : Json} (htidy : value.Tidy)
    (hvalue : value.canonical = (shape.codec.write records).canonical) :
    shape.codec.read origin (.ofJson value) = .ok records.stored := by
  -- the document is also one of the canonical form, which can be written and read
  have hread := (RecordSet.readsBack h.storable_stored).read origin value htidy
    (hvalue.trans records.canonical_write_stored.symm)
  rwa [stored_stored] at hread

/-- The slots of what has been read hold documents. -/
theorem writable_stored (records : RecordSet) : records.stored.Writable := by
  intro id r hr
  rw [stored, Dict.get?_map] at hr
  obtain ⟨old, -, rfl⟩ := Option.map_eq_some_iff.1 hr
  unfold InstanceRecord.stored Slot.stored
  dsimp only
  split
  · exact ⟨_, rfl⟩
  · exact ⟨_, rfl⟩

end RecordSet

/-! ### What comes back -/

/-- An instance record as it comes back: the same in every field, and the document of the slot's old
value in the slot. -/
structure InstanceRecord.Returns (r read : InstanceRecord) : Prop where
  serviceId : read.serviceId = r.serviceId
  planId : read.planId = r.planId
  organizationGuid : read.organizationGuid = r.organizationGuid
  spaceGuid : read.spaceGuid = r.spaceGuid
  fingerprint : ∃ value, r.fingerprint.toDocument = .ok value ∧
    read.fingerprint = .document value.canonical

/-- A binding record as it comes back: the same in every field, the parameters as JSON values. -/
structure BindingRecord.Returns (r read : BindingRecord) : Prop where
  serviceId : read.serviceId = r.serviceId
  planId : read.planId = r.planId
  appGuid : read.appGuid = r.appGuid
  bindResource : read.bindResource = r.bindResource
  parameters : read.parameters = r.parameters.map Json.canonical

namespace RecordSet

/-- A record set as it comes back: the same ids, and under each of them the same record. -/
structure Returns (records read : RecordSet) : Prop where
  instanceIds : read.instances.keys = records.instances.keys
  instances : ∀ id r, records.instances.get? id = some r →
    ∃ r', read.instances.get? id = some r' ∧ r.Returns r'
  bindingIds : read.bindings.keys = records.bindings.keys
  bindings : ∀ id r, records.bindings.get? id = some r →
    ∃ r', read.bindings.get? id = some r' ∧ r.Returns r'

variable {records : RecordSet}

theorem Writable.returns (h : records.Writable) : records.Returns records.stored where
  -- the keys are listed by the same entries
  instanceIds := by
    show (records.instances.entries.map _).map _ = records.instances.entries.map _
    rw [List.map_map]
    rfl
  instances id r hr := by
    obtain ⟨value, hvalue⟩ := h id r hr
    refine ⟨r.stored, by rw [stored, Dict.get?_map, hr]; rfl, rfl, rfl, rfl, rfl, value, hvalue, ?_⟩
    simp only [InstanceRecord.stored, Slot.stored, hvalue]
  bindingIds := by
    show (records.bindings.entries.map _).map _ = records.bindings.entries.map _
    rw [List.map_map]
    rfl
  bindings id r hr := ⟨r.stored, by rw [stored, Dict.get?_map, hr]; rfl, rfl, rfl, rfl, rfl, rfl⟩

/-- **Records survive their document.** A record set whose slots have documents and whose bindings
hold no `null` as parameters has a document. Reading it succeeds, whatever the order of its members,
and gives the same records under the same ids with documents in their slots; and these have the same
document again, from which the same records are read. -/
theorem document_round_trip (hslots : records.Writable) (hparameters : records.NullFree) :
    ∃ document read again, records.toDocument = .ok document ∧
      shape.codec.ofJson document = .ok read ∧ records.Returns read ∧
      read.toDocument = .ok again ∧ again.canonical = document.canonical ∧
      shape.codec.ofJson again = .ok read ∧
      ∀ origin value, value.Tidy → value.canonical = document.canonical →
        shape.codec.read origin (.ofJson value) = .ok read := by
  have hagain := records.canonical_write_stored
  refine ⟨_, records.stored, _, hslots.toDocument, ?_, hslots.returns,
    records.writable_stored.toDocument, hagain, ?_, fun origin value => hparameters.read origin⟩
  · exact hparameters.read .value (Json.tidy_canonical _) (Json.canonical_canonical _)
  -- what is written again has another order of members at most
  · exact hparameters.read .value (Json.tidy_canonical _)
      ((Json.canonical_canonical _).trans hagain)

/-- One instance with a live fingerprint, and a binding with parameters. -/
def exampleRecords : RecordSet where
  instances := Dict.empty.insert "inst-1"
    ⟨"svc-nfs", "plan-small", "org-1", "space-1", .ofFingerprint ⟨"data", ⟨"vol-1", 0, .empty⟩⟩⟩
  bindings := Dict.empty.insert "bind-1"
    ⟨"svc-nfs", "plan-small", "app-1", none, some (.obj [("readonly", .bool true)])⟩

/-- The two records come back. -/
theorem exampleRecords_round_trip :
    ∃ document read again, exampleRecords.toDocument = .ok document ∧
      shape.codec.ofJson document = .ok read ∧ exampleRecords.Returns read ∧
      read.toDocument = .ok again ∧ again.canonical = document.canonical ∧
      shape.codec.ofJson again = .ok read ∧
      ∀ origin value, value.Tidy → value.canonical = document.canonical →
        shape.codec.read origin (.ofJson value) = .ok read := by
  refine document_round_trip (fun id r hr => ?_) fun id r hr => ?_
  · rw [exampleRecords, Dict.get?_insert] at hr
    split at hr
    · cases hr
      exact ⟨_, rfl⟩
    · cases hr
  · rw [exampleRecords, Dict.get?_insert] at hr
    split at hr
    · cases hr
      exact nofun
    · cases hr

end RecordSet

end VolumeBroker
