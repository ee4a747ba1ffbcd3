import VolumeBroker.Proofs.Session.Basic
/-!
# Where the registry refuses an operation

An operation looks up its service in the registry up to three times: for the probe, for the call behind
the gate, and a bind for the driver. Nothing else in a broker fails in the registry, so whatever such
failure an operation ends with, it is that its service has no entry (`Registry.Blames`). A service
that has an entry therefore never fails in the registry, wherever it is looked up.

A registry that has been built has no entry for a blank id (`Registry.named_of_build`).
-/

namespace VolumeBroker

namespace Registry

variable {r : Registry} {id : String}

/-! ### Registries that have been built -/

/-- There is no entry for a blank id. -/
def Named (r : Registry) : Prop := ∀ id, isBlankText id = true → r.entries.get? id = none

theorem Named.ne_empty (h : r.Named) {entry : RegistryEntry} (hentry : r.entry id = .ok entry) :
    id ≠ "" := by
  rintro rfl
  unfold Registry.entry at hentry
  rw [h "" isBlankText_empty] at hentry
  cases hentry

/-- An entry without problems has an id. -/
theorem id_of_problem? {spec : ServiceSpec} (h : problem? spec = none) :
    isBlankText spec.service.id = false := by
  unfold problem? at h
  split at h
  · cases h
  · next hfind =>
    -- the id is the first of the fields that may not be blank
    have hid := List.find?_eq_none.1 hfind ("id", spec.service.id) List.mem_cons_self
    exact Bool.eq_false_iff.2 hid

theorem Named.addAll (connect : Nat → Connector) {specs : List ServiceSpec} :
    ∀ {index : Nat} {r built : Registry}, r.Named →
      (Registry.addAll connect index r specs).result = .ok built → built.Named := by
  induction specs with
  | nil =>
    intro index r built hr hbuilt
    exact Except.ok.inj hbuilt ▸ hr
  | cons spec rest ih =>
    intro index r built hr hbuilt
    unfold Registry.addAll at hbuilt
    split at hbuilt
    · cases hbuilt
    next hproblem =>
    split at hbuilt
    · cases hbuilt
    split at hbuilt
    · cases hbuilt
    -- the entry that is added has an id
    refine ih ?_ hbuilt
    intro id hblank
    have hne : id ≠ spec.service.id := by
      rintro rfl
      rw [id_of_problem? hproblem] at hblank
      cases hblank
    unfold add
    rw [Dict.get?_insert, if_neg hne]
    exact hr id hblank

theorem named_of_build {specs : List ServiceSpec} {connect : Connector}
    (h : (build specs connect).result = .ok r) : r.Named := by
  unfold build buildEach at h
  split at h
  · cases h
  · exact Named.addAll _ (fun _ _ => rfl) h

/-! ### Failures in the registry -/

/-- If a computation fails in the registry then because a service has no entry. -/
def Blames (r : Registry) (id : String) {α : Type} (x : Except BrokerError α) : Prop :=
  ∀ e, x = .error (.registry e) → r.entry id = .error e

section Blames

variable {α β ε : Type}

theorem blames_ok (a : α) : r.Blames id (.ok a : Except BrokerError α) := fun _ h => nomatch h

theorem blames_invalid (reason : String) :
    r.Blames id (.error (.invalidParameters reason) : Except BrokerError α) := fun _ h => nomatch h

theorem Blames.bind {x : Except BrokerError α} {rest : α → Except BrokerError β}
    (hx : r.Blames id x) (hrest : ∀ a, r.Blames id (rest a)) : r.Blames id (x >>= rest) := by
  intro e h
  cases x with
  | error e' =>
    obtain rfl : e' = .registry e := Except.error.inj h
    exact hx e rfl
  | ok a => exact hrest a e h

/-- Failures that are not of the registry blame nothing. -/
theorem blames_mapError {f : ε → BrokerError} (hf : ∀ source e, f source ≠ .registry e)
    (x : Except ε α) : r.Blames id (x.mapError f) := by
  intro e h
  cases x with
  | error source => exact absurd (Except.error.inj h) (hf source e)
  | ok a => cases h

/-- A look-up of the service blames its entry. -/
theorem blames_entry (r : Registry) (id : String) (f : RegistryEntry → α) :
    r.Blames id (((r.entry id).map f).mapError BrokerError.registry) := by
  intro e h
  cases hentry : r.entry id with
  | error e' =>
    rw [hentry] at h
    exact congrArg _ (BrokerError.registry.inj (Except.error.inj h))
  | ok entry =>
    rw [hentry] at h
    cases h

end Blames

/-! ### Parameters -/

theorem blames_ofBind (parameters : Option Json) : r.Blames id (Parameters.ofBind parameters) := by
  unfold Parameters.ofBind
  split
  · exact blames_ok _
  · exact blames_ok _
  · exact blames_ok _
  · exact blames_invalid _

theorem blames_mountMode (parameters : Dict Json) :
    r.Blames id (Parameters.mountMode parameters) := by
  unfold Parameters.mountMode
  split
  · exact blames_ok _
  · exact blames_ok _
  · exact blames_invalid _

theorem blames_containerPath (parameters : Dict Json) (instanceId : String) :
    r.Blames id (Parameters.containerPath parameters instanceId) := by
  unfold Parameters.containerPath
  split
  · exact blames_ok _
  · exact blames_ok _
  · exact blames_invalid _

theorem blames_ownerText (name : String) (value : Json) :
    r.Blames id (Parameters.ownerText name value) := by
  unfold Parameters.ownerText
  split
  · exact blames_ok _
  · exact blames_invalid _

theorem blames_owner (parameters : Dict Json) : r.Blames id (Parameters.owner parameters) := by
  unfold Parameters.owner
  split
  · exact (blames_ownerText _ _).bind fun _ => (blames_ownerText _ _).bind fun _ => blames_ok _
  · exact blames_ok _

theorem blames_volumeRequest (parameters : Option Json) :
    r.Blames id (Parameters.volumeRequest parameters) := by
  unfold Parameters.volumeRequest
  split
  · exact blames_invalid _
  · split
    · exact blames_invalid _
    · split
      · exact blames_invalid _
      · split
        · exact blames_invalid _
        · exact blames_ok _

/-! ### Operations -/

theorem blames_findInstance (s : Store) (instanceId : String) :
    r.Blames id (Transaction.findInstance s instanceId) := by
  refine blames_mapError (fun source e h => ?_) _
  unfold BrokerError.ofInstanceLookup at h
  split at h
  · cases h
  · cases h

theorem blames_fingerprintOf (instanceId : String) (record : InstanceRecord) :
    r.Blames id (Transaction.fingerprintOf instanceId record) := by
  refine blames_mapError (fun source e h => ?_) _
  cases h

theorem blames_deletionOf (b : Broker) (instanceId : String) (details : DeprovisionDetails) :
    r.Blames id (b.deletionOf instanceId details) := by
  unfold Broker.deletionOf
  split
  · exact fun _ h => nomatch h
  split
  · exact fun _ h => nomatch h
  split
  · exact fun _ h => nomatch h
  exact (blames_findInstance _ _).bind fun record =>
    (blames_fingerprintOf _ _).bind fun fingerprint => blames_ok _

theorem blames_bindingFor (records : RecordSet) (instanceId bindingId : String)
    (details : BindDetails) :
    r.Blames details.serviceId (Change.bindingFor r records instanceId bindingId details) := by
  unfold Change.bindingFor
  split
  · exact fun _ h => nomatch h
  split
  · exact fun _ h => nomatch h
  refine (blames_fingerprintOf _ _).bind fun fingerprint => ?_
  refine (blames_ofBind _).bind fun parameters => ?_
  refine (blames_mountMode _).bind fun mode => ?_
  refine (blames_containerPath _ _).bind fun containerDir => ?_
  refine (blames_owner _).bind fun owner => ?_
  split
  · exact fun _ h => nomatch h
  · -- only the last step asks the registry
    exact (blames_entry r details.serviceId _).bind fun driver => blames_ok _

/-- A change is refused by the registry only if it is a bind, and its service has no entry. -/
theorem blames_apply {c : Change} {records : RecordSet} {e : RegistryError}
    (h : (c.apply r records).2 = .error (.registry e)) :
    ∃ instanceId bindingId details, c = .putBinding instanceId bindingId details ∧
      r.entry details.serviceId = .error e := by
  -- only a bind looks up a service in its change
  cases c with
  | putInstance instanceId record =>
    simp only [Change.apply] at h
    split at h
    · cases h
    · split at h
      · cases h
      · cases h
  | removeInstance instanceId =>
    simp only [Change.apply] at h
    split at h
    · cases h
    · cases h
  | putBinding instanceId bindingId details =>
    refine ⟨instanceId, bindingId, details, rfl, ?_⟩
    simp only [Change.apply] at h
    split at h
    · cases h
    · next e' hbinding =>
      rw [Except.error.inj h] at hbinding
      exact blames_bindingFor records instanceId bindingId details e hbinding
  | removeBinding instanceId bindingId =>
    simp only [Change.apply] at h
    split at h
    · cases h
    · cases h
    · cases h

end Registry

/-! ### Steps -/

namespace Broker

variable {b : Broker} {files : FileSystem} {e : RegistryError}

/-- A plugin call that is not sent is one to a service without an entry. -/
theorem entry_of_await {w : Waiting}
    (h : (b.await files w).progress = .finished (.error (.registry e))) :
    b.registry.entry w.serviceId = .error e := by
  unfold await at h
  split at h
  · next e' haddress =>
    obtain rfl : e' = e := BrokerError.registry.inj (Except.error.inj (Progress.finished.inj h))
    unfold Registry.address at haddress
    cases hentry : b.registry.entry w.serviceId with
    | error e'' =>
      rw [hentry] at haddress
      exact congrArg _ (Except.error.inj haddress)
    | ok entry =>
      rw [hentry] at haddress
      cases haddress
  · cases h

/-- Behind the gate, an operation that runs no change is refused by the registry only if its service has
no entry. -/
theorem entry_of_proceed {operation : Operation} (hchange : operation.change? = none)
    (h : (b.proceed files operation).progress = .finished (.error (.registry e))) :
    b.registry.entry operation.serviceId = .error e := by
  have hproceeds := b.proceed_proceeds files operation
  generalize b.proceed files operation = step at hproceeds h
  -- without a change the operation ends with a request, or it has asked for a call
  cases hproceeds with
  | @invalid _ details e' hrequest =>
    obtain rfl : e' = .registry e := Except.error.inj (Progress.finished.inj h)
    exact Registry.blames_volumeRequest details.parameters e hrequest
  | creates => exact entry_of_await h
  | @unfit id details e' hdeletion =>
    obtain rfl : e' = .registry e := Except.error.inj (Progress.finished.inj h)
    exact Registry.blames_deletionOf b id details e hdeletion
  | deletes => exact entry_of_await h
  | commits hcommits =>
    rw [hchange] at hcommits
    cases hcommits

end Broker

end VolumeBroker
