import VolumeBroker.Broker.Lifecycle
import VolumeBroker.Proofs.Outcomes
/-!
# Changes of the records

Every operation ends, if it gets that far, with one locked section in which it reads and changes the
records. A `Change` is such a section as one atomic step on the two maps: `Change.apply` says, from
the records alone, what the records are afterwards and what the operation answers.

The broker's own section is `Change.run`, a transaction on a store, followed by an attempt to save.
The two agree (`run_eq`) on every store whose operations other than saving work
(`Outage.SparesRecords`), so the outcome of a whole section is `commit_run`: the records that
`apply` gives, one attempt to save exactly these, and the answer that `apply` gives unless that
attempt spoils it.
-/

namespace VolumeBroker

/-- What an operation does to the records in its final locked section. -/
inductive Change where
  /-- A provision puts the record of its instance. -/
  | putInstance (id : String) (record : InstanceRecord)
  /-- A deprovision removes the record of its instance. -/
  | removeInstance (id : String)
  /-- A bind puts the record of its binding. -/
  | putBinding (instanceId bindingId : String) (details : BindDetails)
  /-- An unbind removes the record of its binding. -/
  | removeBinding (instanceId bindingId : String)

namespace Change

/-! ### The atomic step -/

/-- What a bind answers, if all its checks pass on the records: the instance is present, the call
names an application, the fingerprint can be read, the parameters are in order, no other binding
holds the id, and the service has a driver. -/
def bindingFor (r : Registry) (records : RecordSet) (instanceId bindingId : String)
    (details : BindDetails) : Except BrokerError Binding :=
  match records.instances.get? instanceId with
  | none => .error (.instanceDoesNotExist instanceId)
  | some record =>
    if details.application = "" then .error .appGuidNotProvided
    else do
      let fingerprint ←
        (Fingerprint.ofSlot record.fingerprint).mapError (BrokerError.fingerprint instanceId)
      let parameters ← Parameters.ofBind details.parameters
      let mode ← Parameters.mountMode parameters
      let containerDir ← Parameters.containerPath parameters instanceId
      let owner ← Parameters.owner parameters
      if (records.bindings.get? bindingId).any fun existing => !existing.same details.toRecord then
        .error (.bindingAlreadyExists bindingId)
      else do
        let driver ← (r.driverName details.serviceId).mapError BrokerError.registry
        .ok (Transaction.bindingOf driver containerDir instanceId mode fingerprint.volume owner)

/-- A bind whose checks have passed has found its instance, no other binding under its id, and the
driver of the service that it names. -/
theorem exists_of_bindingFor {r : Registry} {records : RecordSet} {instanceId bindingId : String}
    {details : BindDetails} {binding : Binding}
    (h : bindingFor r records instanceId bindingId details = .ok binding) :
    ∃ record fingerprint driver containerDir mode owner,
      records.instances.get? instanceId = some record ∧
        Fingerprint.ofSlot record.fingerprint = .ok fingerprint ∧
        (∀ existing, records.bindings.get? bindingId = some existing →
          existing.same details.toRecord = true) ∧
        r.driverName details.serviceId = .ok driver ∧
        binding = Transaction.bindingOf driver containerDir instanceId mode fingerprint.volume owner := by
  -- each check that is passed leaves behind what it has found
  unfold bindingFor at h
  split at h
  · cases h
  next record hrecord =>
  split at h
  · cases h
  obtain ⟨fingerprint, hfingerprint, h⟩ := exists_of_bind_ok h
  obtain ⟨parameters, -, h⟩ := exists_of_bind_ok h
  obtain ⟨mode, -, h⟩ := exists_of_bind_ok h
  obtain ⟨containerDir, -, h⟩ := exists_of_bind_ok h
  obtain ⟨owner, -, h⟩ := exists_of_bind_ok h
  split at h
  · cases h
  next hconflict =>
  obtain ⟨driver, hdriver, h⟩ := exists_of_bind_ok h
  refine ⟨record, fingerprint, driver, containerDir, mode, owner, hrecord,
    of_mapError_ok hfingerprint, ?_, of_mapError_ok hdriver, (Except.ok.inj h).symm⟩
  intro existing hexisting
  simpa [hexisting] using hconflict

/-- The records after a change, and what its operation answers. -/
def apply (r : Registry) (records : RecordSet) : Change → RecordSet × Except BrokerError Reply
  | putInstance id record =>
    match records.instances.get? id with
    | none => (records.putInstance id record, .ok (.provisioned .finished))
    | some existing =>
      if existing.serviceId = record.serviceId ∧ existing.planId = record.planId ∧
          existing.organizationGuid = record.organizationGuid ∧
          existing.spaceGuid = record.spaceGuid then
        (records.putInstance id record, .ok (.provisioned .finished))
      else (records, .error (.instanceAlreadyExists id))
  | removeInstance id =>
    match records.instances.get? id with
    | some _ => (records.removeInstance id, .ok (.deprovisioned .finished))
    | none => (records, .error (.instanceDoesNotExist id))
  | putBinding instanceId bindingId details =>
    match bindingFor r records instanceId bindingId details with
    | .ok binding => (records.putBinding bindingId details.toRecord, .ok (.bound binding))
    | .error e => (records, .error e)
  | removeBinding instanceId bindingId =>
    match records.instances.get? instanceId, records.bindings.get? bindingId with
    | some _, some _ => (records.removeBinding bindingId, .ok .unbound)
    | some _, none => (records, .error (.bindingDoesNotExist bindingId))
    | none, _ => (records, .error (.instanceDoesNotExist instanceId))

/-- The records after changes, the first one applied first. -/
def replay (r : Registry) (records : RecordSet) (changes : List Change) : RecordSet :=
  changes.foldl (fun records change => (change.apply r records).1) records

@[simp] theorem replay_nil (r : Registry) (records : RecordSet) : replay r records [] = records := rfl

theorem replay_append (r : Registry) (records : RecordSet) (before after : List Change) :
    replay r records (before ++ after) = replay r (replay r records before) after :=
  List.foldl_append

/-- A change that is refused leaves the records alone. -/
theorem apply_of_error {r : Registry} {records : RecordSet} {c : Change} {e : BrokerError}
    (h : (c.apply r records).2 = .error e) : (c.apply r records).1 = records := by
  cases c with
  | putInstance id record =>
    simp only [apply] at h ⊢
    split at h
    · -- a record under a free id, or of the same instance, is never refused
      cases h
    · split at h
      · cases h
      · next hdiffers => rw [if_neg hdiffers]
  | removeInstance id =>
    simp only [apply] at h ⊢
    split at h <;> simp_all
  | putBinding instanceId bindingId details =>
    simp only [apply] at h ⊢
    split at h <;> simp_all
  | removeBinding instanceId bindingId =>
    simp only [apply] at h ⊢
    split at h <;> simp_all

end Change

/-! ### Stores on which only saving fails -/

/-- Nothing but saving is out of order. -/
def Outage.SparesRecords (o : Outage) : Prop := ∀ operation ∈ o.operations, operation = .save

theorem Outage.sparesRecords_none : Outage.none.SparesRecords := fun _ h => nomatch h

namespace Store

variable {s : Store}

theorem guardOutage_of_spares (h : s.outage.SparesRecords) {operation : StoreOperation}
    (hne : operation ≠ .save) : s.guardOutage operation = .ok () := by
  unfold guardOutage
  rw [if_neg]
  intro hmem
  exact hne (h operation (by simpa using hmem))

theorem createInstance_of_spares (h : s.outage.SparesRecords) (id : String)
    (record : InstanceRecord) :
    s.createInstance id record = .ok { s with records := s.records.putInstance id record } := by
  unfold createInstance
  rw [guardOutage_of_spares h (by decide)]
  rfl

theorem createBinding_of_spares (h : s.outage.SparesRecords) (id : String)
    (record : BindingRecord) :
    s.createBinding id record = .ok { s with records := s.records.putBinding id record } := by
  unfold createBinding
  rw [guardOutage_of_spares h (by decide)]
  rfl

end Store

namespace Transaction

variable {s : Store}

theorem findInstance_of_spares (h : s.outage.SparesRecords) (id : String) :
    findInstance s id =
      match s.records.instances.get? id with
      | some record => .ok record
      | none => .error (.instanceDoesNotExist id) := by
  unfold findInstance Store.retrieveInstance
  rw [Store.guardOutage_of_spares h (by decide)]
  cases s.records.instances.get? id <;> rfl

theorem findBinding_of_spares (h : s.outage.SparesRecords) (id : String) :
    findBinding s id =
      match s.records.bindings.get? id with
      | some record => .ok record
      | none => .error (.bindingDoesNotExist id) := by
  unfold findBinding Store.retrieveBinding
  rw [Store.guardOutage_of_spares h (by decide)]
  cases s.records.bindings.get? id <;> rfl

end Transaction

namespace Change

/-! ### The broker's sections -/

/-- The transaction that the broker runs on its store for a change. -/
def run (r : Registry) (s : Store) : Change → Except BrokerError (Store × Reply)
  | putInstance id record => Transaction.provision s id record
  | removeInstance id => Transaction.deprovision s id
  | putBinding instanceId bindingId details => Transaction.bind r s instanceId bindingId details
  | removeBinding instanceId bindingId => Transaction.unbind s instanceId bindingId

/-- A store with the outcome of an atomic step: its records and the reply, or the error. -/
def onStore (s : Store) : RecordSet × Except BrokerError Reply → Except BrokerError (Store × Reply)
  | (records, .ok reply) => .ok ({ s with records }, reply)
  | (_, .error e) => .error e

variable {r : Registry} {s : Store}

theorem provision_eq (h : s.outage.SparesRecords) (id : String) (record : InstanceRecord) :
    Transaction.provision s id record
      = onStore s ((putInstance id record).apply r s.records) := by
  unfold Transaction.provision RecordSet.instanceConflicts
  rw [Store.createInstance_of_spares h]
  simp only [apply]
  cases s.records.instances.get? id with
  | none => rfl
  | some existing =>
    dsimp only
    -- the stored record conflicts unless all four ids are the same
    by_cases hsame : existing.sameIdentity record = true
    · rw [if_pos (InstanceRecord.sameIdentity_iff.1 hsame), if_neg (by simp [hsame])]
      rfl
    · rw [if_neg (fun hfields => hsame (InstanceRecord.sameIdentity_iff.2 hfields)),
        if_pos (by simpa using hsame)]
      rfl

theorem deprovision_eq (h : s.outage.SparesRecords) (id : String) :
    Transaction.deprovision s id = onStore s ((removeInstance id).apply r s.records) := by
  unfold Transaction.deprovision Store.deleteInstance Dict.contains
  rw [Store.guardOutage_of_spares h (by decide)]
  simp only [apply]
  cases s.records.instances.get? id <;> rfl

theorem unbind_eq (h : s.outage.SparesRecords) (instanceId bindingId : String) :
    Transaction.unbind s instanceId bindingId
      = onStore s ((removeBinding instanceId bindingId).apply r s.records) := by
  unfold Transaction.unbind Store.deleteBinding Dict.contains
  rw [Transaction.findInstance_of_spares h, Transaction.findBinding_of_spares h,
    Store.guardOutage_of_spares h (by decide)]
  simp only [apply]
  cases s.records.instances.get? instanceId <;> cases s.records.bindings.get? bindingId <;> rfl

theorem bind_eq (h : s.outage.SparesRecords) (instanceId bindingId : String)
    (details : BindDetails) :
    Transaction.bind r s instanceId bindingId details
      = onStore s ((putBinding instanceId bindingId details).apply r s.records) := by
  unfold Transaction.bind
  rw [Transaction.findInstance_of_spares h]
  simp only [apply, bindingFor, Store.createBinding_of_spares h]
  cases s.records.instances.get? instanceId with
  | none => rfl
  | some record =>
    unfold Transaction.fingerprintOf RecordSet.bindingConflicts
    by_cases happ : details.application = ""
    · simp [happ, onStore, bind, Except.bind]
    · simp only [bind, Except.bind, String.isEmpty_iff, happ, if_false]
      -- both sides run through the same checks: a check that fails ends both alike
      cases (Fingerprint.ofSlot record.fingerprint).mapError (BrokerError.fingerprint instanceId) with
      | error e => rfl
      | ok fingerprint =>
      dsimp only
      cases Parameters.ofBind details.parameters with
      | error e => rfl
      | ok parameters =>
      dsimp only
      cases Parameters.mountMode parameters with
      | error e => rfl
      | ok mode =>
      dsimp only
      cases Parameters.containerPath parameters instanceId with
      | error e => rfl
      | ok containerDir =>
      dsimp only
      cases Parameters.owner parameters with
      | error e => rfl
      | ok owner =>
      dsimp only
      split
      · rfl
      · cases (r.driverName details.serviceId).mapError BrokerError.registry <;> rfl

/-- The transaction of a change does what the atomic step says. -/
theorem run_eq (h : s.outage.SparesRecords) (c : Change) :
    c.run r s = onStore s (c.apply r s.records) := by
  cases c with
  | putInstance id record => exact provision_eq h id record
  | removeInstance id => exact deprovision_eq h id
  | putBinding instanceId bindingId details => exact bind_eq h instanceId bindingId details
  | removeBinding instanceId bindingId => exact unbind_eq h instanceId bindingId

/-- **The outcome of a whole section.** The broker ends it with the records of the atomic step, one
attempt to save exactly these, and the answer of the atomic step as that attempt leaves it. -/
theorem commit_run {b : Broker} (h : b.store.outage.SparesRecords) (files : FileSystem)
    (c : Change) :
    let outcome := c.apply b.registry b.store.records
    let store := { b.store with records := outcome.1 }
    b.commit files (c.run b.registry b.store) =
      ⟨{ b with store }, (store.save files).1, some (store.save files).2,
        .finished (Broker.settle outcome.2 (store.save files).2)⟩ := by
  intro outcome store
  rw [run_eq h]
  -- the records are saved with the change or without it
  cases hanswer : outcome.2 with
  | ok reply =>
    have hpair : c.apply b.registry b.store.records = (outcome.1, .ok reply) := by
      rw [← hanswer]
    rw [hpair]
    rfl
  | error e =>
    -- a refused change has left the records alone, and they are saved as they are
    have hsame : store = b.store := by
      change { b.store with records := outcome.1 } = b.store
      rw [apply_of_error hanswer]
    have hpair : c.apply b.registry b.store.records = (outcome.1, .error e) := by
      rw [← hanswer]
    rw [hpair, hsame]
    rfl

end Change

end VolumeBroker
