import VolumeBroker.Proofs.Session.Change
import VolumeBroker.Proofs.Store.Restore
/-!
# Brokers that cannot be told apart

A broker that has started on a record file has documents in the slots of its instances where the
broker that wrote the file has live fingerprints, and nothing has passed its gate yet. Neither shows:
`InstanceRecord.view` is all that the broker and its files see of an instance record, and it is the
same for a slot and for the document that was written for it (`RecordSet.Legible.mirrors_stored`).

Records *mirror* each other if they look the same in this way. Every change then does the same to both
and answers the same (`Change.apply_mirrors`), and every step behind the gate of brokers with such
records goes the same way (`Broker.Mirrors.proceed`, `Broker.Mirrors.resume`).
-/

namespace VolumeBroker

/-! ### Records that look the same -/

/-- What is seen of an instance record: not whether its slot is live. -/
structure InstanceView where
  serviceId : String
  planId : String
  organizationGuid : String
  spaceGuid : String
  /-- The fingerprint that is found in the slot. -/
  fingerprint : Except Mismatch Fingerprint
  document : Except String Json

/-- What is seen of an instance record. -/
def InstanceRecord.view (r : InstanceRecord) : InstanceView :=
  ⟨r.serviceId, r.planId, r.organizationGuid, r.spaceGuid, Fingerprint.ofSlot r.fingerprint,
    r.fingerprint.toDocument⟩

/-- An instance record that looks the same is written the same, whatever its slot holds. -/
theorem InstanceRecord.write_of_view {x y : InstanceRecord} (h : y.view = x.view) :
    shape.codec.write y = shape.codec.write x := by
  obtain ⟨serviceId, planId, organizationGuid, spaceGuid, slot⟩ := x
  obtain ⟨serviceId', planId', organizationGuid', spaceGuid', slot'⟩ := y
  simp only [view, InstanceView.mk.injEq] at h
  obtain ⟨rfl, rfl, rfl, rfl, -, hdocument⟩ := h
  have hslot : Slot.codec.write slot' = Slot.codec.write slot := by
    simp only [Slot.codec, hdocument]
  rw [write_eq, write_eq]
  simp only [hslot]

namespace RecordSet

/-- Records that look the same. -/
structure Mirrors (a b : RecordSet) : Prop where
  instances : b.instances.map InstanceRecord.view = a.instances.map InstanceRecord.view
  bindings : b.bindings = a.bindings

variable {a b : RecordSet}

theorem Mirrors.refl (a : RecordSet) : a.Mirrors a := ⟨rfl, rfl⟩

/-- An instance is in both, and looks the same, or in neither. -/
theorem Mirrors.instance_cases (h : a.Mirrors b) (id : String) :
    (a.instances.get? id = none ∧ b.instances.get? id = none) ∨
      ∃ x y, a.instances.get? id = some x ∧ b.instances.get? id = some y ∧ y.view = x.view := by
  have hview := congrArg (fun d => d.get? id) h.instances
  simp only [Dict.get?_map] at hview
  cases ha : a.instances.get? id with
  | none =>
    rw [ha] at hview
    exact .inl ⟨rfl, Option.map_eq_none_iff.1 hview⟩
  | some x =>
    rw [ha] at hview
    obtain ⟨y, hy, heq⟩ := Option.map_eq_some_iff.1 hview
    exact .inr ⟨x, y, rfl, hy, heq⟩

/-- Whatever is computed from what is seen is the same for both. -/
theorem Mirrors.map_eq (h : a.Mirrors b) {β : Type} {f : InstanceRecord → β}
    (hf : ∀ x y : InstanceRecord, y.view = x.view → f y = f x) :
    b.instances.map f = a.instances.map f := by
  refine Dict.ext_get? fun id => ?_
  rw [Dict.get?_map, Dict.get?_map]
  rcases h.instance_cases id with ⟨ha, hb⟩ | ⟨x, y, ha, hb, heq⟩
  · rw [ha, hb]
  · rw [ha, hb, Option.map_some, Option.map_some, hf x y heq]

theorem Mirrors.putInstance (h : a.Mirrors b) (id : String) (record : InstanceRecord) :
    (a.putInstance id record).Mirrors (b.putInstance id record) := by
  refine ⟨?_, h.bindings⟩
  unfold RecordSet.putInstance
  rw [Dict.map_insert, Dict.map_insert, h.instances]

theorem Mirrors.removeInstance (h : a.Mirrors b) (id : String) :
    (a.removeInstance id).Mirrors (b.removeInstance id) := by
  refine ⟨?_, h.bindings⟩
  unfold RecordSet.removeInstance
  rw [Dict.map_erase, Dict.map_erase, h.instances]

theorem Mirrors.putBinding (h : a.Mirrors b) (id : String) (record : BindingRecord) :
    (a.putBinding id record).Mirrors (b.putBinding id record) := by
  refine ⟨h.instances, ?_⟩
  unfold RecordSet.putBinding
  rw [h.bindings]

theorem Mirrors.removeBinding (h : a.Mirrors b) (id : String) :
    (a.removeBinding id).Mirrors (b.removeBinding id) := by
  refine ⟨h.instances, ?_⟩
  unfold RecordSet.removeBinding
  rw [h.bindings]

theorem Mirrors.unwritable?_eq (h : a.Mirrors b) : b.unwritable? = a.unwritable? := by
  -- the reason is the first one among the slots, in the order of their ids
  have hreason : ∀ records : RecordSet, records.unwritable?
      = (records.instances.map fun r => r.fingerprint.unwritable?).entries.findSome? Prod.snd := by
    intro records
    simp only [unwritable?, Dict.map, List.findSome?_map, Function.comp_def]
  rw [hreason, hreason, h.map_eq]
  intro x y heq
  have hdocument : y.fingerprint.toDocument = x.fingerprint.toDocument :=
    congrArg InstanceView.document heq
  unfold Slot.unwritable?
  rw [hdocument]

/-- Records that look the same are written the same. -/
theorem Mirrors.toDocument (h : a.Mirrors b) : b.toDocument = a.toDocument := by
  have hinstances : b.instances.map InstanceRecord.shape.codec.write
      = a.instances.map InstanceRecord.shape.codec.write :=
    h.map_eq fun x y heq => InstanceRecord.write_of_view heq
  have hentries := congrArg Dict.entries hinstances
  simp only [Dict.map] at hentries
  have hwrite : shape.codec.write b = shape.codec.write a := by
    rw [write_eq, write_eq, h.bindings, hentries]
  unfold RecordSet.toDocument
  rw [h.unwritable?_eq, hwrite]

end RecordSet

/-- A legible slot and the document that is written for it look the same. -/
theorem Slot.Legible.view {slot : Slot} (h : slot.Legible) :
    Fingerprint.ofSlot slot.stored = Fingerprint.ofSlot slot ∧
      slot.stored.toDocument = slot.toDocument := by
  rcases h with ⟨f, rfl⟩ | ⟨value, rfl, hlegible, -⟩
  · -- the document of a live fingerprint is canonical already
    refine ⟨Fingerprint.ofSlot_stored f, ?_⟩
    rw [@Slot.toDocument_stored (.ofFingerprint f) _ rfl]
    exact congrArg Except.ok f.legible_toJson.1.canonical
  · -- a document that has been read stays as it is
    have hstored : (Slot.document value).stored = .document value :=
      congrArg Slot.document hlegible.canonical
    rw [hstored]
    exact ⟨rfl, rfl⟩

/-- **Written and read back, legible records look the same.** -/
theorem RecordSet.Legible.mirrors_stored {records : RecordSet} (h : records.Legible) :
    records.Mirrors records.stored where
  instances := by
    have hview : ∀ e ∈ records.instances.entries, e.2.stored.view = e.2.view := by
      intro e he
      obtain ⟨hfingerprint, hdocument⟩ := (h.instances e he).view
      unfold InstanceRecord.view InstanceRecord.stored
      rw [hfingerprint, hdocument]
    have hmap : records.stored.instances.map InstanceRecord.view
        = records.instances.map fun r => r.stored.view := by
      refine Dict.ext_get? fun id => ?_
      rw [RecordSet.stored, Dict.get?_map, Dict.get?_map, Dict.get?_map, Option.map_map]
      rfl
    rw [hmap]
    exact Dict.map_congr hview
  bindings := by
    refine Dict.map_eq_self fun e he => ?_
    have hparameters : e.2.parameters.map Json.canonical = e.2.parameters := by
      cases hp : e.2.parameters with
      | none => rfl
      | some p => exact congrArg some (h.bindings e he p hp).1.canonical
    unfold BindingRecord.stored
    rw [hparameters]

/-! ### Changes -/

namespace Change

variable {r : Registry} {a b : RecordSet}

theorem bindingFor_mirrors (h : a.Mirrors b) (instanceId bindingId : String) (details : BindDetails) :
    bindingFor r b instanceId bindingId details = bindingFor r a instanceId bindingId details := by
  unfold bindingFor
  rcases h.instance_cases instanceId with ⟨ha, hb⟩ | ⟨x, y, ha, hb, heq⟩
  · rw [ha, hb]
  · have hfingerprint : Fingerprint.ofSlot y.fingerprint = Fingerprint.ofSlot x.fingerprint :=
      congrArg InstanceView.fingerprint heq
    rw [ha, hb, h.bindings]
    dsimp only
    rw [hfingerprint]

/-- A change answers the same on records that look the same, and leaves such records. -/
theorem apply_mirrors (h : a.Mirrors b) (c : Change) :
    (c.apply r b).2 = (c.apply r a).2 ∧ (c.apply r a).1.Mirrors (c.apply r b).1 := by
  cases c with
  | putInstance id record =>
    simp only [apply]
    rcases h.instance_cases id with ⟨ha, hb⟩ | ⟨x, y, ha, hb, heq⟩
    · rw [ha, hb]
      exact ⟨rfl, h.putInstance id record⟩
    · -- only the four ids decide whether the record may be put
      obtain ⟨serviceId, planId, organizationGuid, spaceGuid, slot⟩ := x
      obtain ⟨serviceId', planId', organizationGuid', spaceGuid', slot'⟩ := y
      simp only [InstanceRecord.view, InstanceView.mk.injEq] at heq
      obtain ⟨rfl, rfl, rfl, rfl, -, -⟩ := heq
      rw [ha, hb]
      dsimp only
      split
      · exact ⟨rfl, h.putInstance id record⟩
      · exact ⟨rfl, h⟩
  | removeInstance id =>
    simp only [apply]
    rcases h.instance_cases id with ⟨ha, hb⟩ | ⟨x, y, ha, hb, -⟩
    · rw [ha, hb]
      exact ⟨rfl, h⟩
    · rw [ha, hb]
      exact ⟨rfl, h.removeInstance id⟩
  | putBinding instanceId bindingId details =>
    simp only [apply]
    rw [bindingFor_mirrors h]
    split
    · exact ⟨rfl, h.putBinding bindingId _⟩
    · exact ⟨rfl, h⟩
  | removeBinding instanceId bindingId =>
    simp only [apply]
    rw [h.bindings]
    rcases h.instance_cases instanceId with ⟨ha, hb⟩ | ⟨x, y, ha, hb, -⟩
    · rw [ha, hb]
      exact ⟨rfl, h⟩
    · rw [ha, hb]
      cases a.bindings.get? bindingId with
      | none => exact ⟨rfl, h⟩
      | some record => exact ⟨rfl, h.removeBinding bindingId⟩

end Change

/-! ### Steps -/

/-- A broker, and one that has started again: the same services and the same medium, records that look
the same, and a gate that has been passed by no more services. -/
structure Broker.Mirrors (b fresh : Broker) : Prop where
  registry : fresh.registry = b.registry
  gate : ∀ id, fresh.gate.isPassed id = true → b.gate.isPassed id = true
  medium : fresh.store.medium = b.store.medium
  records : b.store.records.Mirrors fresh.store.records
  /-- The running broker may have been made to fail when it saves. -/
  spares : b.store.outage.SparesRecords
  intact : fresh.store.outage = .none

/-- Steps that leave such brokers, and everything else the same. -/
structure Step.Mirrors (step fresh : Step) : Prop where
  broker : step.broker.Mirrors fresh.broker
  files : fresh.files = step.files
  saved : fresh.saved = step.saved
  progress : fresh.progress = step.progress

/-- The attempt to save that the step has made, if it has made one, has succeeded. -/
def Step.SavesWell (step : Step) : Prop := ∀ e, step.saved ≠ some (.error e)

namespace Broker.Mirrors

variable {b fresh : Broker}

theorem spares_fresh (h : b.Mirrors fresh) : fresh.store.outage.SparesRecords := by
  rw [h.intact]
  exact Outage.sparesRecords_none

/-- Where the running broker saves well the other one does the same to the files. -/
theorem save (h : b.Mirrors fresh) {files : FileSystem} {saved : FileSystem × Except StoreError Unit}
    (hsave : b.store.save files = saved) (hwell : ∀ e, saved.2 ≠ .error e) :
    fresh.store.save files = saved := by
  have hguard : b.store.guardOutage .save = .ok () := by
    -- an outage would have spoiled the save
    cases hguard : b.store.guardOutage .save with
    | ok _ => rfl
    | error e =>
      unfold Store.save at hsave
      rw [hguard] at hsave
      exact absurd (congrArg Prod.snd hsave).symm (hwell e)
  have hguard' : fresh.store.guardOutage .save = .ok () := by
    unfold Store.guardOutage
    rw [h.intact]
    rfl
  rw [← hsave]
  unfold Store.save
  rw [hguard, hguard', h.medium, h.records.toDocument]

theorem refuse (h : b.Mirrors fresh) (files : FileSystem) (e : BrokerError) :
    (b.refuse files e).Mirrors (fresh.refuse files e) := ⟨h, rfl, rfl, rfl⟩

theorem await (h : b.Mirrors fresh) (files : FileSystem) (w : Waiting) :
    (b.await files w).Mirrors (fresh.await files w) := by
  unfold Broker.await
  rw [h.registry]
  split
  · exact h.refuse files _
  · exact ⟨h, rfl, rfl, rfl⟩

/-- The final locked section goes the same way. -/
theorem commit (h : b.Mirrors fresh) (files : FileSystem) (c : Change)
    (hwell : (b.commit files (c.run b.registry b.store)).SavesWell) :
    (b.commit files (c.run b.registry b.store)).Mirrors
      (fresh.commit files (c.run fresh.registry fresh.store)) := by
  rw [Change.commit_run h.spares] at hwell ⊢
  rw [Change.commit_run h.spares_fresh, h.registry]
  obtain ⟨hanswer, hrecords⟩ := Change.apply_mirrors (r := b.registry) h.records c
  -- what the change has left is what is saved
  let left : Broker :=
    { b with store := { b.store with records := (c.apply b.registry b.store.records).1 } }
  let freshLeft : Broker :=
    ⟨b.registry, fresh.gate,
      { fresh.store with records := (c.apply b.registry fresh.store.records).1 }⟩
  have hleft : left.Mirrors freshLeft :=
    ⟨rfl, h.gate, h.medium, hrecords, h.spares, h.intact⟩
  have hsave : freshLeft.store.save files = left.store.save files :=
    hleft.save rfl fun e herror => hwell e (congrArg some herror)
  refine ⟨hleft, ?_, ?_, ?_⟩
  · exact congrArg Prod.fst hsave
  · exact congrArg (fun saved => some saved.2) hsave
  · dsimp only
    rw [hanswer]
    exact congrArg (fun saved => Progress.finished (settle _ saved.2)) hsave

theorem deletionOf (h : b.Mirrors fresh) (id : String) (details : DeprovisionDetails) :
    fresh.deletionOf id details = b.deletionOf id details := by
  unfold Broker.deletionOf
  rw [Transaction.findInstance_of_spares h.spares, Transaction.findInstance_of_spares h.spares_fresh]
  rcases h.records.instance_cases id with ⟨ha, hb⟩ | ⟨x, y, ha, hb, heq⟩
  · rw [ha, hb]
  · -- the volume comes from the fingerprint, live or read again
    have hfingerprint : Transaction.fingerprintOf id y = Transaction.fingerprintOf id x :=
      congrArg (Except.mapError (BrokerError.fingerprint id)) (congrArg InstanceView.fingerprint heq)
    rw [ha, hb]
    simp only [bind, Except.bind, hfingerprint]

/-- Behind the gate an operation goes the same way. -/
theorem proceed (h : b.Mirrors fresh) (files : FileSystem) (operation : Operation)
    (hwell : (b.proceed files operation).SavesWell) :
    (b.proceed files operation).Mirrors (fresh.proceed files operation) := by
  cases operation with
  | provision id details =>
    simp only [Broker.proceed]
    split
    · exact h.refuse files _
    · exact h.await files _
  | deprovision id details =>
    simp only [Broker.proceed]
    rw [h.deletionOf]
    split
    · exact h.refuse files _
    · exact h.await files _
  | bind instanceId bindingId details => exact h.commit files (.putBinding instanceId bindingId details) hwell
  | unbind instanceId bindingId details => exact h.commit files (.removeBinding instanceId bindingId) hwell

/-- Before gates that agree on its service an operation begins in the same way. -/
theorem begin (h : b.Mirrors fresh) (files : FileSystem) {operation : Operation}
    (hgates : fresh.gate.isPassed operation.serviceId = b.gate.isPassed operation.serviceId)
    (hwell : (b.begin files operation).SavesWell) :
    (b.begin files operation).Mirrors (fresh.begin files operation) := by
  unfold Broker.begin at hwell ⊢
  rw [hgates]
  by_cases hpassed : b.gate.isPassed operation.serviceId = true
  · -- behind both gates
    rw [if_pos hpassed] at hwell
    rw [if_pos hpassed, if_pos hpassed]
    exact h.proceed files operation hwell
  · -- in front of both gates
    rw [if_neg hpassed, if_neg hpassed]
    exact h.await files _

/-- A service that passes both gates. -/
theorem mark (h : b.Mirrors fresh) (id : String) :
    Broker.Mirrors { b with gate := b.gate.mark id } { fresh with gate := fresh.gate.mark id } := by
  refine ⟨h.registry, fun id' hpassed => ?_, h.medium, h.records, h.spares, h.intact⟩
  rw [ProbeGate.isPassed_mark, Bool.or_eq_true] at hpassed ⊢
  exact hpassed.imp_right (h.gate id')

/-- A service that passes the gate of the broker that has started again. -/
theorem mark_fresh (h : b.Mirrors fresh) {id : String} (hpassed : b.gate.isPassed id = true) :
    b.Mirrors { fresh with gate := fresh.gate.mark id } := by
  have hmark := h.mark id
  rwa [ProbeGate.mark_of_isPassed hpassed] at hmark

/-- Behind an answer of the plugin a call goes on in the same way. -/
theorem resume (h : b.Mirrors fresh) (files : FileSystem) (w : Waiting)
    (answer : Except PluginError w.call.Response) (hwell : (b.resume files w answer).SavesWell) :
    (b.resume files w answer).Mirrors (fresh.resume files w answer) := by
  cases w with
  | probe operation =>
    cases answer with
    | error e => exact h.refuse files _
    | ok response => exact (h.mark operation.serviceId).proceed files operation hwell
  | creation id details request =>
    cases answer with
    | error e => exact h.refuse files _
    | ok response =>
      exact h.commit files (.putInstance id (details.toRecord ⟨request.name, response.volume⟩)) hwell
  | deletion id details volumeId =>
    cases answer with
    | error e => exact h.refuse files _
    | ok response => exact h.commit files (.removeInstance id) hwell

end Broker.Mirrors

end VolumeBroker
