import VolumeBroker.Proofs.Session.Course
import VolumeBroker.Proofs.Session.Removal
/-!
# What a binding rests on

The record of a binding does not say which instance the binding was made for, and nothing else does.
So a binding stands beside all instances. What holds of it is what the records of its own id and of the
instance in each call give: `Session.run_belonging` says that a binding, once made, stays as it was made
until an unbind takes it away (`Keeps`), and that every call which names it needs an instance that is
there, but no particular one (`Turn.Treats`).

In particular neither of two things holds that one might expect, that the instance of a binding stays
as long as the binding does, and that no call which names another instance reaches the binding.
`SharedBinding` is a run without either.
-/

namespace VolumeBroker

namespace Turn

/-- A turn takes a binding away. -/
def Unbinds (turn : Turn) (bindingId : String) : Prop :=
  (∃ instanceId, turn.change = some (.removeBinding instanceId bindingId)) ∧
    turn.records.bindings.get? bindingId = none

/-- A bind of an instance has ended well, and the binding has not been taken away in the turns since. -/
structure Bound (history since : List Turn) (instanceId bindingId : String) (details : BindDetails) :
    Prop where
  made : ∃ before turn reply, history = before ++ turn :: since ∧
    turn.operation = .bind instanceId bindingId details ∧ turn.progress = .finished (.ok reply)
  kept : ∀ turn ∈ since, ¬ turn.Unbinds bindingId

/-- A turn is one of a call that names a binding together with an instance. -/
def Names (turn : Turn) (instanceId bindingId : String) : Prop :=
  turn.operation.instanceId = instanceId ∧ turn.operation.bindingId? = some bindingId

/-- What comes of a turn that names a binding which is there. -/
inductive Meets (records : RecordSet) (turn : Turn) (instanceId bindingId : String)
    (details : BindDetails) : Prop where
  /-- The call waits for its plugin or is refused. -/
  | stands (untouched : turn.records = records) (answer : ∀ reply, turn.progress ≠ .finished (.ok reply))
  /-- The binding is put again, as it was made. -/
  | confirms {again : BindDetails} {record : InstanceRecord}
      (found : records.instances.get? instanceId = some record)
      (operation : turn.operation = .bind instanceId bindingId again)
      (same : details.toRecord.same again.toRecord = true)
      (stored : turn.records.bindings.get? bindingId = some again.toRecord)
  /-- The binding is taken away. -/
  | removes {unbind : UnbindDetails} {record : InstanceRecord}
      (found : records.instances.get? instanceId = some record)
      (operation : turn.operation = .unbind instanceId bindingId unbind)
      (gone : turn.records.bindings.get? bindingId = none)

theorem Meets.of_refused {records : RecordSet} {turn : Turn} {instanceId bindingId : String}
    {details : BindDetails} {e : BrokerError} (hanswer : turn.progress = .finished (.error e))
    (huntouched : turn.records = records) : turn.Meets records instanceId bindingId details := by
  refine .stands huntouched ?_
  intro reply hok
  rw [hanswer] at hok
  cases hok

/-- What a turn does about a binding that was made with some details. -/
structure Treats (records : RecordSet) (turn : Turn) (bindingId : String) (details : BindDetails) :
    Prop where
  /-- A call that names the binding reaches it only with an instance that is there. -/
  named : ∀ instanceId, turn.Names instanceId bindingId →
    turn.Meets records instanceId bindingId details
  /-- With an instance that is not there it is refused. -/
  missing : ∀ instanceId, turn.Names instanceId bindingId → turn.change ≠ none →
    records.instances.get? instanceId = none →
      turn.progress = .finished (.error (.instanceDoesNotExist instanceId)) ∧ turn.records = records
  /-- An unbind with any instance that is there takes the binding away. -/
  unbound : ∀ instanceId record, turn.change = some (.removeBinding instanceId bindingId) →
    records.instances.get? instanceId = some record → turn.Unbinds bindingId
  /-- No other call reaches it. -/
  others : turn.operation.bindingId? ≠ some bindingId →
    turn.records.bindings.get? bindingId = records.bindings.get? bindingId

end Turn

/-- What some turns have kept of a binding and of the instance that it was made for. -/
structure Keeps (records : RecordSet) (since : List Turn) (instanceId bindingId : String)
    (details : BindDetails) : Prop where
  /-- The binding is there as it was made. -/
  binding : ∃ record, records.bindings.get? bindingId = some record ∧
    details.toRecord.same record = true
  /-- The instance is there, unless a deprovision of it has taken it away. -/
  origin : (∃ record, records.instances.get? instanceId = some record) ∨
    ∃ turn ∈ since, turn.change = some (.removeInstance instanceId) ∧
      ∃ deprovision, turn.operation = .deprovision instanceId deprovision

/-! ### Changes that name an instance and a binding -/

namespace Change

variable (r : Registry) {records : RecordSet} {c : Change} {operation : Operation}
  {answered : Option Answered} {instanceId bindingId : String}

/-- With an instance that is not there nothing is done about a binding. -/
theorem apply_of_missing (hof : c.Of operation answered)
    (hbinding : operation.bindingId? = some bindingId)
    (hmissing : records.instances.get? operation.instanceId = none) :
    c.apply r records = (records, .error (.instanceDoesNotExist operation.instanceId)) := by
  cases hof with
  | provision => cases hbinding
  | deprovision => cases hbinding
  | bind instanceId _ details =>
    change records.instances.get? instanceId = none at hmissing
    simp only [apply, bindingFor, hmissing, Operation.instanceId]
  | unbind instanceId _ details =>
    change records.instances.get? instanceId = none at hmissing
    simp only [apply, hmissing, Operation.instanceId]

/-- With any instance that is there an unbind takes its binding away. -/
theorem apply_removeBinding_of_found {record : InstanceRecord} {binding : BindingRecord}
    (hinstance : records.instances.get? instanceId = some record)
    (hbinding : records.bindings.get? bindingId = some binding) :
    (removeBinding instanceId bindingId).apply r records
      = (records.removeBinding bindingId, .ok .unbound) := by
  simp only [apply, hinstance, hbinding]

end Change

namespace Session

variable {r : Registry} {initial : RecordSet} {s : Session} {before since after : List Turn}
  {turn first : Turn} {instanceId bindingId : String} {details : BindDetails}

/-! ### What stays -/

/-- A bind that ends well has found its instance, and puts its binding. -/
theorem Serialized.bound (h : s.Serialized r initial) (hsplit : s.history = before ++ turn :: after)
    (hoperation : turn.operation = .bind instanceId bindingId details) {reply : Reply}
    (hok : turn.progress = .finished (.ok reply)) :
    (∃ record, turn.records.instances.get? instanceId = some record) ∧
      turn.records.bindings.get? bindingId = some details.toRecord := by
  obtain ⟨c, -, hof, hrecords, hanswer, -⟩ := h.changed hsplit hok
  rw [hoperation] at hof
  obtain rfl := hof.of_bind
  -- the answer is good, so all checks have been passed and the record is put
  simp only [Change.apply] at hanswer hrecords
  split at hanswer
  · next binding hbinding =>
    rw [hbinding] at hrecords
    obtain ⟨record, -, -, -, -, -, hrecord, -⟩ := Change.exists_of_bindingFor hbinding
    rw [hrecords]
    exact ⟨⟨record, hrecord⟩, Dict.get?_insert_self ..⟩
  · cases hanswer

/-- Turns that do not take a binding away keep what it stands for. -/
theorem Serialized.binding_since (h : s.Serialized r initial) {record : BindingRecord}
    (hfirst : first.records.bindings.get? bindingId = some record) (since : List Turn) :
    ∀ after, s.history = before ++ first :: (since ++ after) →
      (∀ turn ∈ since, ¬ turn.Unbinds bindingId) →
        ∃ current, (Change.replay r first.records (Turn.changes since)).bindings.get? bindingId
          = some current ∧ record.same current = true := by
  -- the later turns come on at the end, so the records before the last one are those of the others
  induction since using List.reverseRecOn with
  | nil => exact fun _ _ _ => ⟨record, hfirst, record.same_refl⟩
  | append_singleton since last ih =>
    intro after hsplit hkept
    have hlast : s.history = before ++ first :: (since ++ (last :: after)) := by
      rw [hsplit, List.append_assoc, List.singleton_append]
    obtain ⟨found, hfound, hsame⟩ :=
      ih (last :: after) hlast fun turn hturn => hkept turn (List.mem_append_left _ hturn)
    have hsplit' : s.history = (before ++ first :: since) ++ last :: after := by
      rw [hlast, List.append_assoc, List.cons_append]
    have hexplained := h.turns _ _ _ hsplit'
    have hrecords := hexplained.records_eq
    rw [h.replay_behind (hsplit'.trans (by rw [List.append_assoc, List.cons_append])) since] at hrecords
    rw [Turn.changes_concat, Change.replay_append, ← hrecords]
    cases hchange : last.change with
    | none =>
      rw [hchange] at hrecords
      exact ⟨found, hrecords ▸ hfound, hsame⟩
    | some c =>
      rw [hchange] at hrecords
      have hon := Change.onBinding r (Change.replay r first.records (Turn.changes since)) c bindingId
      rw [hfound] at hon
      change last.records = (c.apply r _).1 at hrecords
      rw [← hrecords] at hon
      -- a binding that is there is kept, put again as it was, or removed
      cases hon with
      | kept hget => exact ⟨found, hget, hsame⟩
      | put _ again _ hget hagain =>
        exact ⟨again.toRecord, hget, BindingRecord.same_trans hsame (hagain found rfl)⟩
      | removed instanceId hremoved hget =>
        refine absurd ⟨⟨instanceId, ?_⟩, hget⟩ (hkept last (List.mem_concat_self))
        rw [hchange, hremoved]

/-- What is there of a binding before a turn, and of the instance that it was made for. -/
theorem Serialized.keeps (h : s.Serialized r initial) (hsplit : s.history = before ++ after)
    (hbound : Turn.Bound before since instanceId bindingId details) :
    Keeps (Change.replay r initial (Turn.changes before)) since instanceId bindingId details := by
  obtain ⟨earlier, first, reply, rfl, hoperation, hok⟩ := hbound.made
  have hfirst : s.history = earlier ++ first :: (since ++ after) := by
    rw [hsplit, List.append_assoc, List.cons_append]
  obtain ⟨⟨record, hrecord⟩, hstored⟩ := h.bound hfirst hoperation hok
  rw [h.replay_behind hfirst since]
  refine ⟨h.binding_since hstored since after hfirst hbound.kept, ?_⟩
  by_cases hremoved : Change.removeInstance instanceId ∈ Turn.changes since
  · right
    obtain ⟨turn, hturn, hchange⟩ := List.mem_filterMap.1 hremoved
    obtain ⟨front, back, hfront⟩ := List.append_of_mem hturn
    have hturn' : s.history = (earlier ++ first :: front) ++ turn :: (back ++ after) := by
      rw [hfirst, hfront]
      simp only [List.append_assoc, List.cons_append]
    obtain ⟨hof, -⟩ := h.explained hturn' hchange
    -- only a deprovision of the instance removes it
    obtain ⟨deprovision, -, -, hdeprovision, -⟩ := hof.of_removeInstance
    exact ⟨turn, hturn, hchange, deprovision, hdeprovision⟩
  · left
    obtain ⟨current, hcurrent, -⟩ := Change.replay_present r hremoved hrecord
    exact ⟨current, hcurrent⟩

/-! ### What calls do about it -/

/-- A change that is refused leaves its turn with the records as they were and without a good answer. -/
theorem Serialized.stands (h : s.Serialized r initial) (hsplit : s.history = before ++ turn :: after)
    {c : Change} (hchange : turn.change = some c) {records : RecordSet}
    (hrecords : Change.replay r initial (Turn.changes before) = records) {e : BrokerError}
    (hrefused : c.apply r records = (records, .error e)) :
    turn.progress = .finished (.error e) ∧ turn.records = records := by
  subst hrecords
  obtain ⟨-, hbehind, -⟩ := h.explained hsplit hchange
  exact ⟨h.refused hsplit hchange (by rw [hrefused]), by rw [hbehind, hrefused]⟩

/-- A bind of a binding that is there is refused, or it puts the binding again as it was made. -/
theorem Serialized.meets_bind (h : s.Serialized r initial) (hsplit : s.history = before ++ turn :: after)
    {records : RecordSet} (hrecords : Change.replay r initial (Turn.changes before) = records)
    {current : BindingRecord} (hcurrent : records.bindings.get? bindingId = some current)
    (hsame : details.toRecord.same current = true) {again : BindDetails}
    (hoperation : turn.operation = .bind instanceId bindingId again)
    (hchange : turn.change = some (.putBinding instanceId bindingId again)) :
    turn.Meets records instanceId bindingId details := by
  cases hbinding : Change.bindingFor r records instanceId bindingId again with
  | error e =>
    -- one of the checks has failed
    have hrefused : (Change.putBinding instanceId bindingId again).apply r records
        = (records, .error e) := by
      simp only [Change.apply, hbinding]
    obtain ⟨hanswer, huntouched⟩ := h.stands hsplit hchange hrecords hrefused
    exact .of_refused hanswer huntouched
  | ok binding =>
    -- all have passed, and one of them is that the old binding is the same
    obtain ⟨record, -, -, -, -, -, hrecord, -, hagain, -⟩ := Change.exists_of_bindingFor hbinding
    obtain ⟨-, hbehind, -⟩ := h.explained hsplit hchange
    have hput : (Change.putBinding instanceId bindingId again).apply r records
        = (records.putBinding bindingId again.toRecord, .ok (.bound binding)) := by
      simp only [Change.apply, hbinding]
    rw [hrecords, hput] at hbehind
    refine .confirms hrecord hoperation
      (BindingRecord.same_trans hsame (hagain current hcurrent)) ?_
    rw [hbehind]
    exact Dict.get?_insert_self ..

/-- An unbind of a binding that is there is refused, or it takes the binding away. -/
theorem Serialized.meets_unbind (h : s.Serialized r initial)
    (hsplit : s.history = before ++ turn :: after) {records : RecordSet}
    (hrecords : Change.replay r initial (Turn.changes before) = records)
    {current : BindingRecord} (hcurrent : records.bindings.get? bindingId = some current)
    {unbind : UnbindDetails} (hoperation : turn.operation = .unbind instanceId bindingId unbind)
    (hchange : turn.change = some (.removeBinding instanceId bindingId)) :
    turn.Meets records instanceId bindingId details := by
  -- an unbind asks for the instance before it looks at the binding
  cases hinstance : records.instances.get? instanceId with
  | none =>
    have hrefused : (Change.removeBinding instanceId bindingId).apply r records
        = (records, .error (.instanceDoesNotExist instanceId)) := by
      simp only [Change.apply, hinstance]
    obtain ⟨hanswer, huntouched⟩ := h.stands hsplit hchange hrecords hrefused
    exact .of_refused hanswer huntouched
  | some record =>
    obtain ⟨-, hbehind, -⟩ := h.explained hsplit hchange
    rw [hrecords, Change.apply_removeBinding_of_found r hinstance hcurrent] at hbehind
    refine .removes hinstance hoperation ?_
    rw [hbehind]
    exact Dict.get?_erase_self ..

/-- What a turn does about a binding that is there. -/
theorem Serialized.treats (h : s.Serialized r initial) (hsplit : s.history = before ++ turn :: after)
    {records : RecordSet} (hrecords : Change.replay r initial (Turn.changes before) = records)
    {current : BindingRecord} (hcurrent : records.bindings.get? bindingId = some current)
    (hsame : details.toRecord.same current = true) : turn.Treats records bindingId details := by
  -- without a change the turn leaves the records alone; with one, its operation tells which
  cases hchange : turn.change with
  | none =>
    obtain ⟨huntouched, hanswer⟩ := h.unchanged hsplit hchange
    rw [hrecords] at huntouched
    refine ⟨fun _ _ => .stands huntouched hanswer, ?_, ?_, fun _ => by rw [huntouched]⟩
    · exact fun _ _ hsome => absurd hchange hsome
    · exact fun _ _ hsome => absurd (hchange.symm.trans hsome) nofun
  | some c =>
    obtain ⟨hof, hbehind, -⟩ := h.explained hsplit hchange
    rw [hrecords] at hbehind
    refine ⟨?_, ?_, ?_, ?_⟩
    · rintro instanceId ⟨rfl, hnamed⟩
      generalize hoperation : turn.operation = operation at hof hnamed
      generalize turn.answered = answered at hof
      cases hof with
      | provision => cases hnamed
      | deprovision => cases hnamed
      | bind instanceId _ again =>
        cases hnamed
        exact h.meets_bind hsplit hrecords hcurrent hsame hoperation hchange
      | unbind instanceId _ unbind =>
        cases hnamed
        exact h.meets_unbind hsplit hrecords hcurrent hoperation hchange
    · rintro instanceId ⟨rfl, hnamed⟩ - hmissing
      exact h.stands hsplit hchange hrecords (Change.apply_of_missing r hof hnamed hmissing)
    · intro instanceId record hunbind hfound
      obtain rfl : c = .removeBinding instanceId bindingId :=
        Option.some.inj (hchange.symm.trans hunbind)
      rw [Change.apply_removeBinding_of_found r hfound hcurrent] at hbehind
      refine ⟨⟨instanceId, hchange⟩, ?_⟩
      rw [hbehind]
      exact Dict.get?_erase_self ..
    · intro hother
      rw [hbehind]
      exact hof.binding_elsewhere r records hother

/-! ### Every session -/

/-- **What bindings rest on.** What every session that began on some records satisfies. -/
structure Belonging (r : Registry) (initial : RecordSet) (s : Session) : Prop where
  /-- A binding that has been made and not taken away since is there as it was made, and its instance
  is there unless a deprovision of it has taken it away. -/
  keeps : ∀ since instanceId bindingId details,
    Turn.Bound s.history since instanceId bindingId details →
      Keeps s.broker.store.records since instanceId bindingId details
  /-- A call that names it needs an instance that is there, and may be refused even so. -/
  turns : Turn.Each (fun before turn => ∀ since instanceId bindingId details,
    Turn.Bound before since instanceId bindingId details →
      turn.Treats (Change.replay r initial (Turn.changes before)) bindingId details) s.history

/-- **Bindings and instances.** Whatever calls come in, whatever the plugin answers them, in whatever
order their steps are taken and whichever saves fail: a binding stays as it was made until an unbind
takes it away, and a call that names it reaches it exactly through the instances that are there. -/
theorem run_belonging (registry : Registry) (gate : ProbeGate) (medium : Medium) (records : RecordSet)
    (files : FileSystem) (events : List Event) :
    ((opened ⟨registry, gate, ⟨medium, records, .none⟩⟩ files).run events).Belonging
      registry records := by
  have hregular := (Regular.of_registry registry gate medium records files).run events
  have hserialized := hregular.serialized
  refine ⟨?_, ?_⟩
  · intro since instanceId bindingId details hbound
    rw [hserialized.records]
    exact hserialized.keeps (List.append_nil _).symm hbound
  · intro before turn after hsplit since instanceId bindingId details hbound
    obtain ⟨⟨current, hcurrent, hsame⟩, -⟩ := hserialized.keeps hsplit hbound
    exact hserialized.treats hsplit rfl hcurrent hsame

end Session

/-! ### A binding that serves two instances -/

/-- The instance that a binding was made for is there as long as the binding has not been taken away. -/
def Session.KeepsOrigins (s : Session) : Prop :=
  ∀ since instanceId bindingId details,
    Turn.Bound s.history since instanceId bindingId details →
      ∃ record, s.broker.store.records.instances.get? instanceId = some record

/-- A call that names a binding with another instance than the one it was made for is refused. -/
def Turn.RefusesOthers (before : List Turn) (turn : Turn) : Prop :=
  ∀ since instanceId bindingId details other, Turn.Bound before since instanceId bindingId details →
    turn.Names other bindingId → other ≠ instanceId →
      ∀ reply, turn.progress ≠ .finished (.ok reply)

namespace SharedBinding

open Installation

/-- Binds an instance. -/
def bind (instanceId : String) : Operation := .bind instanceId "b" ⟨"svc", "", "app", none, none⟩

/-- Two instances are provisioned. -/
def start : Session :=
  (Session.opened ⟨registry, .empty, ⟨.memory, .empty, .none⟩⟩ .empty).run
    [.arrival (.provision "i" (details "m")), .answer 0 plugin, .answer 0 plugin,
      .arrival (.provision "j" (details "n")), .answer 1 plugin]

/-- One of them is bound. -/
def session : Session := start.handle (.arrival (bind "i"))

/-- The turn of the bind. -/
def binding : Turn :=
  .of 2 (bind "i") none (some (.putBinding "i" "b" ⟨"svc", "", "app", none, none⟩))
    (start.broker.begin start.files (bind "i"))

/-- The instance is bound behind that as long as no turn takes the binding away. -/
theorem bound_session {since : List Turn} (hkept : ∀ turn ∈ since, ¬ turn.Unbinds "b") :
    Turn.Bound (session.history ++ since) since "i" "b" ⟨"svc", "", "app", none, none⟩ := by
  have hhistory : session.history = start.history ++ [binding] := rfl
  have hanswer : ∃ reply, binding.progress = .finished (.ok reply) := ⟨_, rfl⟩
  obtain ⟨reply, hreply⟩ := hanswer
  refine ⟨⟨start.history, binding, reply, ?_, rfl, hreply⟩, hkept⟩
  rw [hhistory, List.append_assoc, List.singleton_append]

/-- The instance is taken away. -/
def deprovisioned : Session :=
  session.run [.arrival (.deprovision "i" ⟨"svc", "plan"⟩), .answer 3 plugin]

theorem bound_deprovisioned : Turn.Bound deprovisioned.history
    (deprovisioned.history.drop session.history.length) "i" "b" ⟨"svc", "", "app", none, none⟩ := by
  have hhistory : deprovisioned.history
      = session.history ++ deprovisioned.history.drop session.history.length := rfl
  rw [hhistory, List.drop_left]
  refine bound_session ?_
  -- neither turn of the deprovision is one of an unbind
  have hchanges : (deprovisioned.history.drop session.history.length).map Turn.change
      = [none, some (.removeInstance "i")] := rfl
  rintro turn hturn ⟨⟨instanceId, hchange⟩, -⟩
  have hmem := List.mem_map_of_mem (f := Turn.change) hturn
  rw [hchanges, hchange] at hmem
  simp at hmem

/-- **A binding that does not belong to its instance.** The instance can be taken away while it is
bound, and a call that names another instance puts the binding again, or takes it away. -/
theorem not_ownOnly :
    ¬ deprovisioned.KeepsOrigins ∧
      ¬ Turn.Each Turn.RefusesOthers (session.handle (.arrival (bind "j"))).history ∧
        ¬ Turn.Each Turn.RefusesOthers
          (session.handle (.arrival (.unbind "j" "b" ⟨"svc", "plan"⟩))).history := by
  have hbound : Turn.Bound session.history [] "i" "b" ⟨"svc", "", "app", none, none⟩ := by
    have hsession := @bound_session [] fun _ hmem => nomatch hmem
    rwa [List.append_nil] at hsession
  refine ⟨?_, ?_, ?_⟩
  · intro h
    obtain ⟨record, hrecord⟩ := h _ "i" "b" _ bound_deprovisioned
    have habsent : deprovisioned.broker.store.records.instances.get? "i" = none := rfl
    exact nomatch habsent.symm.trans hrecord
  · intro h
    exact h session.history _ [] rfl [] "i" "b" _ "j" hbound ⟨rfl, rfl⟩ (by decide) _ rfl
  · intro h
    exact h session.history _ [] rfl [] "i" "b" _ "j" hbound ⟨rfl, rfl⟩ (by decide) _ rfl

end SharedBinding

end VolumeBroker
