import VolumeBroker.Proofs.Broker.Bind
import VolumeBroker.Proofs.Session.Gate
import VolumeBroker.Proofs.Session.Saving
/-!
# Binds, end to end

A bind whose service has passed the gate runs its one change when it comes in, and nothing can fail in
it but its requirements and the save: the other operations of the store work in every session, and a
service that has passed is registered, so that it has a driver. With a save that succeeds
`Session.BindOutcome` is what becomes of the bind. It is answered well exactly if it meets all
requirements, and else with the error of the first one that it does not meet and everything stays as it
was; if it is answered well then its record is put under its id and nothing else changes, and the answer
describes the mount.

`Session.run_binds` states this for all sessions, and for a bind that is repeated: it is answered with
the same binding, also if its parameters are only the same as values.
-/

namespace VolumeBroker

/-- The call of a bind. -/
def BindAttempt.operation (a : BindAttempt) : Operation := .bind a.instanceId a.bindingId a.details

namespace Session

/-- A bind that comes in. -/
def bindAttempt (s : Session) (instanceId bindingId : String) (details : BindDetails) : BindAttempt :=
  ⟨s.broker.store.records, instanceId, bindingId, details⟩

/-- The save at the end of a bind succeeds. -/
def Saves (s : Session) (a : BindAttempt) : Prop :=
  (s.broker.begin s.files a.operation).saved = some (.ok ())

/-- **What becomes of a bind** that comes in to a session and leaves another one behind. -/
structure BindOutcome (r : Registry) (s : Session) (a : BindAttempt) (s' : Session)
    (result : Except BrokerError Reply) : Prop where
  answered : s'.calls = s.calls ++ [⟨a.operation, .finished result⟩]
  ok_iff : (∃ reply, result = .ok reply) ↔ ∀ need, a.Meets need
  error_iff : ∀ e, result = .error e ↔ ∃ need, a.FailsFirst need e
  /-- A bind that is refused leaves the records, and the rest of the broker, as they were. -/
  refused : ∀ e, result = .error e → s'.broker = s.broker
  instances : s'.broker.store.records.instances = s.broker.store.records.instances
  bindings : ∀ reply, result = .ok reply → ∀ id, s'.broker.store.records.bindings.get? id =
    if id = a.bindingId then some a.details.toRecord else s.broker.store.records.bindings.get? id
  /-- The answer has the driver of the service that the call names, and the volume that has been
  recorded for the instance. -/
  described : ∀ reply, result = .ok reply → ∃ binding driver record fingerprint,
    reply = .bound binding ∧ r.driverName a.details.serviceId = .ok driver ∧
      s.broker.store.records.instances.get? a.instanceId = some record ∧
      Fingerprint.ofSlot record.fingerprint = .ok fingerprint ∧
      a.Describes driver fingerprint.volume binding

variable {r : Registry} {initial : RecordSet} {s : Session}

/-- Behind the gate there is a driver. -/
theorem Guarding.exists_driver (h : s.Guarding r initial) {id : String}
    (hpassed : s.broker.gate.isPassed id = true) : ∃ driver, r.driverName id = .ok driver := by
  obtain ⟨address, haddress⟩ := h.gated.passed id hpassed
  rw [h.exchanging.regular.registry] at haddress
  -- address and driver stand in the same entry
  obtain ⟨entry, hentry, -⟩ := exists_of_map_ok haddress
  refine ⟨entry.driverName, ?_⟩
  unfold Registry.driverName
  rw [hentry]
  rfl

/-- A bind behind the gate runs its change when it comes in, and if that is saved then it answers what
the change answers. -/
theorem handle_bind (h : s.Sound) {a : BindAttempt}
    (hgate : s.broker.gate.isPassed a.details.serviceId = true) (hsaved : s.Saves a) :
    let outcome := (Change.putBinding a.instanceId a.bindingId a.details).apply s.broker.registry
      s.broker.store.records
    (s.handle (.arrival a.operation)).calls = s.calls ++ [⟨a.operation, .finished outcome.2⟩] ∧
      (s.handle (.arrival a.operation)).broker
        = { s.broker with store := { s.broker.store with records := outcome.1 } } := by
  intro outcome
  have hbegin : s.broker.begin s.files a.operation = _ :=
    (if_pos hgate).trans (Change.commit_run h.outage s.files
      (.putBinding a.instanceId a.bindingId a.details))
  unfold Saves at hsaved
  rw [hbegin] at hsaved
  -- a save that goes well leaves the answer as it is
  have hsettle : ∀ result, Broker.settle result (.ok ()) = result := by
    intro result
    cases result <;> rfl
  unfold handle
  dsimp only
  rw [hbegin]
  dsimp only
  rw [Option.some.inj hsaved, hsettle]
  exact ⟨rfl, rfl⟩

/-- What becomes of a bind behind the gate, if its save succeeds. -/
theorem bindOutcome_handle (h : s.Guarding r initial) {a : BindAttempt}
    (hfinds : a.records = s.broker.store.records)
    (hgate : s.broker.gate.isPassed a.details.serviceId = true) (hsaved : s.Saves a) :
    s.BindOutcome r a (s.handle (.arrival a.operation))
      ((Change.bindingFor r a.records a.instanceId a.bindingId a.details).map .bound) := by
  obtain ⟨driver, hdriver⟩ := h.exists_driver hgate
  obtain ⟨hcalls, hbroker⟩ := handle_bind h.gated.sound hgate hsaved
  rw [h.exchanging.regular.registry, ← hfinds] at hcalls hbroker
  simp only [Change.apply] at hcalls hbroker
  rcases BindAttempt.bindingFor_cases hdriver with
    ⟨hmeets, record, fingerprint, hrecord, hread, hok⟩ | ⟨need, e, hfails, herror⟩
  · -- the record is put and the binding is the answer
    rw [hok] at hcalls hbroker ⊢
    refine ⟨hcalls, ⟨fun _ => hmeets, fun _ => ⟨_, rfl⟩⟩, ?_, ?_, ?_, ?_, ?_⟩
    · refine fun e => ⟨fun h => (by cases h), ?_⟩
      rintro ⟨need, hfails⟩
      exact absurd (hmeets need) hfails.1.not_meets
    · intro e h
      cases h
    · rw [hbroker, ← hfinds]
      rfl
    · intro reply _ id
      rw [hbroker, ← hfinds]
      exact Dict.get?_insert _ _ _ id
    · intro reply h
      cases h
      rw [← hfinds]
      exact ⟨_, driver, record, fingerprint, rfl, hdriver, hrecord, hread,
        BindAttempt.describes_binding a driver fingerprint.volume⟩
  · -- the broker stays as it was
    rw [herror] at hcalls hbroker ⊢
    have hkept : (s.handle (.arrival a.operation)).broker = s.broker := by
      rw [hbroker, hfinds]
    have hanswered : ∀ {reply : Reply}, Except.error e ≠ .ok reply := fun h => by cases h
    refine ⟨hcalls, ?_, ?_, fun _ _ => hkept, by rw [hkept],
      fun reply h => absurd h hanswered, fun reply h => absurd h hanswered⟩
    · refine ⟨?_, fun hmeets => absurd (hmeets need) hfails.1.not_meets⟩
      rintro ⟨reply, h⟩
      exact absurd h hanswered
    · refine fun e' => ⟨fun h => ⟨need, Except.error.inj h ▸ hfails⟩, ?_⟩
      rintro ⟨need', hfails'⟩
      exact congrArg Except.error (hfails.unique hfails')

variable {a : BindAttempt} {s' : Session}

/-- A bind whose record is there already, and stays the same, leaves all records as they were. -/
theorem BindOutcome.records_eq {reply : Reply} (h : s.BindOutcome r a s' (.ok reply))
    (hstored : s.broker.store.records.bindings.get? a.bindingId = some a.details.toRecord) :
    s'.broker.store.records = s.broker.store.records := by
  refine RecordSet.ext_get? (fun id => by rw [h.instances]) fun id => ?_
  rw [h.bindings reply rfl]
  split
  · next hid => rw [hid, hstored]
  · rfl

/-- **Binds.** Whatever calls have come in, whatever the plugin has answered them and in whatever order
their steps have been taken: this becomes of a bind whose service has passed the gate and whose save
succeeds. If it is answered well and comes in again, with parameters that are the same as values, then
it is answered with the same; and if its details are literally the same then all records stay. -/
theorem run_binds (registry : Registry) (medium : Medium) (records : RecordSet) (files : FileSystem)
    (events : List Event) (instanceId bindingId : String) (details : BindDetails) :
    let s := (opened ⟨registry, .empty, ⟨medium, records, .none⟩⟩ files).run events
    let a := s.bindAttempt instanceId bindingId details
    s.broker.gate.isPassed details.serviceId = true → s.Saves a →
      let s' := s.handle (.arrival a.operation)
      ∃ result, s.BindOutcome registry a s' result ∧
        ∀ reply, result = .ok reply → ∀ again : BindDetails,
          details.toRecord.same again.toRecord = true →
            let a' := s'.bindAttempt instanceId bindingId again
            let s'' := s'.handle (.arrival a'.operation)
            s'.Saves a' → s'.BindOutcome registry a' s'' result ∧
              (again = details → s''.broker.store.records = s'.broker.store.records) := by
  intro s a hgate hsaved s'
  have hguarding : s.Guarding registry records :=
    (Guarding.of_opened registry medium records files).run events
  have hbound := bindOutcome_handle (a := a) hguarding rfl hgate hsaved
  refine ⟨_, hbound, ?_⟩
  intro reply hreply again hsame a' s'' hsaved'
  -- the bind that comes again finds its own record, and the gate as open as before
  obtain ⟨binding, hok, -⟩ := exists_of_map_ok hreply
  obtain ⟨driver, hdriver⟩ := hguarding.exists_driver hgate
  have hstored : s'.broker.store.records.bindings.get? bindingId = some details.toRecord := by
    rw [hbound.bindings reply hreply]
    exact if_pos rfl
  have hrepeats : a'.Repeats a := ⟨hbound.instances, hstored, rfl, rfl, hsame⟩
  have hservice : details.serviceId = again.serviceId := (BindingRecord.same_iff.1 hsame).1
  have hgate' : s'.broker.gate.isPassed again.serviceId = true := by
    obtain ⟨-, hbroker⟩ := handle_bind hguarding.gated.sound (a := a) hgate hsaved
    rw [hbroker, ← hservice]
    exact hgate
  have hbound' := bindOutcome_handle (a := a') (hguarding.handle _) rfl hgate' hsaved'
  rw [hrepeats.bindingFor_eq hdriver hok, ← hok] at hbound'
  refine ⟨hbound', ?_⟩
  rintro rfl
  rw [hok] at hbound'
  exact hbound'.records_eq hstored

end Session

/-! ### A bind that is repeated -/

namespace Rebinding

open Installation

/-- The records of a broker with one instance. -/
def records : RecordSet :=
  RecordSet.empty.putInstance "i" ((Installation.details "n").toRecord ⟨"n", ⟨"n", 0, .empty⟩⟩)

/-- The details of a bind, with its parameters. -/
def details (parameters : List (String × Json)) : BindDetails :=
  ⟨"svc", "plan", "app", none, some (.obj parameters)⟩

/-- The session behind a first bind, which has opened the gate. -/
def session : Session :=
  (Session.opened ⟨registry, .empty, ⟨.memory, records, .none⟩⟩ .empty).run
    [.arrival (.bind "i" "x" (details [])), .answer 0 plugin]

/-- A second bind, for reading only. -/
def attempt : BindAttempt := session.bindAttempt "i" "y" (details [("readonly", .bool true)])

/-- The session behind it. -/
def bound : Session := session.handle (.arrival attempt.operation)

/-- What it is answered. -/
def answer : Except BrokerError Reply := .ok (.bound (attempt.binding "driver" ⟨"n", 0, .empty⟩))

/-- **A bind that comes in twice.** It is answered with the same, and its record stays. -/
theorem binds_twice :
    let again := bound.bindAttempt "i" "y" (details [("readonly", .bool true)])
    let after := bound.handle (.arrival again.operation)
    session.BindOutcome registry attempt bound answer ∧ bound.BindOutcome registry again after answer ∧
      after.broker.store.records = bound.broker.store.records := by
  intro again after
  obtain ⟨result, hbound, hagain⟩ := Session.run_binds registry .memory records .empty
    [.arrival (.bind "i" "x" (details [])), .answer 0 plugin] "i" "y"
    (details [("readonly", .bool true)]) rfl rfl
  have hanswer : bound.calls.getLast? = some ⟨attempt.operation, .finished answer⟩ := rfl
  -- the answer is that of the last call
  have hresult : result = answer := by
    have hcalls : bound.calls = session.calls ++ [⟨attempt.operation, .finished result⟩] :=
      hbound.answered
    rw [hcalls, List.getLast?_concat] at hanswer
    exact Progress.finished.inj (Call.mk.inj (Option.some.inj hanswer)).2
  subst hresult
  obtain ⟨hrebound, hkept⟩ := hagain _ rfl (details [("readonly", .bool true)])
    (BindingRecord.same_refl _) rfl
  exact ⟨hbound, hrebound, hkept rfl⟩

end Rebinding

end VolumeBroker
