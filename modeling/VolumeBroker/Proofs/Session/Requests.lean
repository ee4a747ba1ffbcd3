import VolumeBroker.Proofs.Api.Targets
import VolumeBroker.Proofs.Broker.Details
import VolumeBroker.Proofs.Session.Durability
/-!
# Calls that come from requests

The calls of a session come from the management interface if each is what some request demands
(`Event.Accepted`). A request's body is read within the reader's limit on nesting, so what its
operation brings along is legible (`HttpRequest.legible_of_demand`), and the records of the session are
legible throughout (`Session.Readable`). The slots of its instances are legible even without that,
because only live fingerprints are put into them (`Session.Writable`).
-/

namespace VolumeBroker

/-! ### Legible records stay legible -/

/-- What an operation brings along is legible; only a bind has values of its caller recorded. -/
def Operation.Legible : Operation → Prop
  | .bind _ _ details => details.toRecord.Legible
  | _ => True

namespace Change.Of

variable {c : Change} {operation : Operation} {answered : Option Answered} {records : RecordSet}

/-- A change puts no other slots than live ones. -/
theorem instances_legible (hof : c.Of operation answered) (r : Registry)
    (h : ∀ e ∈ records.instances.entries, e.2.fingerprint.Legible) :
    ∀ e ∈ (c.apply r records).1.instances.entries, e.2.fingerprint.Legible := by
  let p (record : InstanceRecord) : Prop := record.fingerprint.Legible
  cases hof with
  | @provision id details request hrequest response =>
    -- the fingerprint of a new record is live
    let record := details.toRecord ⟨request.name, response.volume⟩
    have hput : ∀ e ∈ (records.putInstance id record).instances.entries, p e.2 :=
      @Dict.forall_mem_insert _ p _ h id record (.inl ⟨_, rfl⟩)
    simp only [apply]
    split
    · exact hput
    · split
      · exact hput
      · exact h
  | deprovision id details volumeId response =>
    simp only [apply]
    split
    · exact @Dict.forall_mem_erase _ p _ h id
    · exact h
  | bind instanceId bindingId details answered =>
    simp only [apply]
    split
    · exact h
    · exact h
  | unbind instanceId bindingId details answered =>
    simp only [apply]
    split
    · exact h
    · exact h
    · exact h

/-- A change puts no other parameters than those that its operation brings along. -/
theorem bindings_legible (hof : c.Of operation answered) (hoperation : operation.Legible)
    (r : Registry) (h : ∀ e ∈ records.bindings.entries, e.2.Legible) :
    ∀ e ∈ (c.apply r records).1.bindings.entries, e.2.Legible := by
  cases hof with
  | provision hrequest response =>
    simp only [apply]
    split
    · exact h
    · split
      · exact h
      · exact h
  | deprovision id details volumeId response =>
    simp only [apply]
    split
    · exact h
    · exact h
  | bind instanceId bindingId details answered =>
    simp only [apply]
    split
    · -- the binding that is put holds what the operation has brought along
      exact Dict.forall_mem_insert h bindingId hoperation
    · exact h
  | unbind instanceId bindingId details answered =>
    simp only [apply]
    split
    · exact Dict.forall_mem_erase h bindingId
    · exact h
    · exact h

/-- A change that a legible operation asks for leaves legible records legible. -/
theorem legible (hof : c.Of operation answered) (hoperation : operation.Legible) (r : Registry)
    (h : records.Legible) : (c.apply r records).1.Legible :=
  ⟨hof.instances_legible r h.instances, hof.bindings_legible hoperation r h.bindings⟩

end Change.Of

/-! ### Calls from the management interface -/

/-- An event as the management interface lets it come: a call that comes in is what some request to a
broker with these services demands. -/
def Event.Accepted (services : List Service) : Event → Prop
  | .arrival operation => ∃ request : HttpRequest, request.demand services = .operation operation
  | _ => True

namespace HttpRequest

variable {request : HttpRequest} {operation : Operation}

/-- What a request demands is legible. Only the details of a bind matter, and they have been read from
the body. -/
theorem legible_of_demand {services : List Service}
    (h : request.demand services = .operation operation) : operation.Legible := by
  obtain ⟨target, -, hasks⟩ := addresses_of_operation h
  cases hasks with
  | bind body => exact BindDetails.legible_of_read (Document.within_ofContent _) body.read
  | provision body => trivial
  | deprovision query => trivial
  | unbind query => trivial

end HttpRequest

/-! ### Sessions -/

namespace Session

variable {s s' : Session} {turn : Turn}

/-- The records, and what the calls that have come in bring along, are legible. -/
structure Readable (s : Session) : Prop where
  sound : s.Sound
  records : s.broker.store.records.Legible
  calls : ∀ call ∈ s.calls, call.operation.Legible

/-- An event brings no call but the one that comes in. -/
theorem operation_handle {event : Event} {call : Call} (h : call ∈ (s.handle event).calls) :
    (∃ old ∈ s.calls, old.operation = call.operation) ∨ event = .arrival call.operation := by
  have hkept : call ∈ s.calls → ∃ old ∈ s.calls, old.operation = call.operation :=
    fun hcall => ⟨call, hcall, rfl⟩
  cases event with
  | arrival operation =>
    rcases List.mem_append.1 h with hcall | hcall
    · exact .inl (hkept hcall)
    · rw [List.mem_singleton.1 hcall]
      exact .inr rfl
  | answer number responder =>
    rcases hnumber : s.calls[number]? with _ | ⟨operation, ⟨address, w⟩ | result⟩
    · simp only [handle, hnumber] at h
      exact .inl (hkept h)
    · -- the answer moves its call, whose operation stays
      simp only [handle, hnumber] at h
      rcases List.mem_or_eq_of_mem_set h with hcall | rfl
      · exact .inl (hkept hcall)
      · exact .inl ⟨_, List.mem_of_getElem? hnumber, rfl⟩
    · simp only [handle, hnumber] at h
      exact .inl (hkept h)
  | saving failure => exact .inl (hkept h)
  | locking paths => exact .inl (hkept h)

/-- The operation of a turn is that of a call that has come in. -/
theorem Takes.operation_mem (h : s.Takes s' turn) :
    ∃ call ∈ s'.calls, call.operation = turn.operation := by
  refine ⟨⟨turn.operation, turn.progress⟩, ?_, rfl⟩
  cases h.advances with
  | opens _ _ _ calls =>
    rw [calls]
    exact List.mem_append_right _ (List.mem_singleton_self _)
  | continues call _ _ calls =>
    rw [calls]
    exact List.mem_set (List.getElem?_eq_some_iff.1 call).1 _

theorem Readable.handle (h : s.Readable) {services : List Service} {event : Event}
    (haccepted : event.Accepted services) : (s.handle event).Readable := by
  have hcalls : ∀ call ∈ (s.handle event).calls, call.operation.Legible := by
    intro call hcall
    rcases operation_handle hcall with ⟨old, hold, heq⟩ | rfl
    · rw [← heq]
      exact h.calls old hold
    · obtain ⟨request, hrequest⟩ := haccepted
      exact HttpRequest.legible_of_demand hrequest
  refine ⟨h.sound.handle event, ?_, hcalls⟩
  rcases handle_cases h.sound event with hidle | ⟨turn, htakes⟩
  · rw [hidle.records]
    exact h.records
  · have hexplained := htakes.explained h.sound rfl
    rw [htakes.records, hexplained.records_eq]
    cases hchange : turn.change with
    | none => exact h.records
    | some c =>
      -- the operation of the turn has come in, so it brings along legible values only
      obtain ⟨call, hcall, hoperation⟩ := htakes.operation_mem
      have hof := htakes.change_of h.sound hchange
      exact hof.legible (hoperation ▸ hcalls call hcall) _ h.records

/-- The slots of all instances can be written. -/
structure Writable (s : Session) : Prop where
  sound : s.Sound
  instances : ∀ e ∈ s.broker.store.records.instances.entries, e.2.fingerprint.Legible

theorem Writable.handle (h : s.Writable) (event : Event) : (s.handle event).Writable := by
  refine ⟨h.sound.handle event, ?_⟩
  rcases handle_cases h.sound event with hidle | ⟨turn, htakes⟩
  · rw [hidle.records]
    exact h.instances
  · rw [htakes.records, (htakes.explained h.sound rfl).records_eq]
    cases hchange : turn.change with
    | none => exact h.instances
    | some c => exact (htakes.change_of h.sound hchange).instances_legible _ h.instances

theorem Writable.exists_toDocument (h : s.Writable) :
    ∃ document, s.broker.store.records.toDocument = .ok document := by
  refine ⟨_, RecordSet.Writable.toDocument fun id r hr => ?_⟩
  obtain ⟨value, hvalue, -⟩ := (h.instances (id, r) (Dict.get?_eq_some_iff.1 hr)).document
  exact ⟨value, hvalue⟩

theorem Readable.writable (h : s.Readable) : s.Writable := ⟨h.sound, h.records.instances⟩

end Session

end VolumeBroker
