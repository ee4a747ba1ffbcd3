import Mathlib.Data.List.Infix
import VolumeBroker.Proofs.Session.Course
import VolumeBroker.Proofs.Session.Gate
/-!
# Calls that keep apart

Calls that name no id in common do not get in each other's way. `Session.Apart` is what a session
keeps in which such calls have come in since an earlier point, in whatever order they take their steps:
each of them is on the course that it would have had at that point (`Session.Reaches`), and no records
have changed but those under their ids. The gate is shared by all calls, but it makes no difference as
long as the probes of one service are all answered alike (`Session.ProbesAlike`).

`Takes.reaches` is the step of the call that moves, `Reaches.elsewhere` that of all others, and
`Apart.handle` puts them together.
-/

namespace VolumeBroker

/-! ### Plugin calls of one call -/

/-- What is ordered of the plugin when an operation is left there. -/
def Progress.orders : Progress → List (String × PluginCall)
  | waiting address w => w.call.orders address
  | finished _ => []

namespace Turn

variable {history : List Turn} {turn : Turn} {number : Nat}

/-- The plugin calls other than probes that one call has made. -/
def ordersOf (number : Nat) (history : List Turn) : List (String × PluginCall) :=
  orders (history.filter fun turn => turn.call == number)

theorem orders_singleton (turn : Turn) : orders [turn] = turn.progress.orders := by
  unfold orders sent
  cases hprogress : turn.progress with
  | waiting address w =>
    simp only [List.filterMap_cons, List.filterMap_nil, hprogress, Progress.sent?, Progress.orders,
      PluginCall.orders]
    cases hprobe : w.call.isProbe <;> simp [hprobe]
  | finished result =>
    simp only [List.filterMap_cons, List.filterMap_nil, hprogress, Progress.sent?, Progress.orders,
      List.filter_nil]

theorem ordersOf_concat_self (history : List Turn) (turn : Turn) :
    ordersOf turn.call (history ++ [turn]) = ordersOf turn.call history ++ turn.progress.orders := by
  unfold ordersOf
  rw [List.filter_append, orders_append, List.filter_singleton, beq_self_eq_true]
  exact congrArg _ (orders_singleton turn)

theorem ordersOf_concat_of_ne (h : turn.call ≠ number) :
    ordersOf number (history ++ [turn]) = ordersOf number history := by
  have hother : (turn.call == number) = false := beq_eq_false_iff_ne.2 h
  unfold ordersOf
  rw [List.filter_append, List.filter_singleton, hother]
  exact congrArg _ (List.append_nil _)

/-- A call that has taken no turn has made no plugin calls. -/
theorem ordersOf_eq_nil (h : ∀ turn ∈ history, turn.call ≠ number) : ordersOf number history = [] := by
  have hnone : (history.filter fun turn => turn.call == number) = [] := by
    rw [List.filter_eq_nil_iff]
    intro turn hturn hcall
    exact h turn hturn (eq_of_beq hcall)
  unfold ordersOf
  rw [hnone]
  rfl

end Turn

/-- A save that succeeds leaves the answer as it is. -/
theorem Broker.settle_saved (answer : Except BrokerError Reply) : settle answer (.ok ()) = answer := by
  cases answer with
  | error e => rfl
  | ok reply => rfl

/-! ### Arrivals and answers -/

namespace Event

/-- The operation that comes in. -/
def arrival? : Event → Option Operation
  | arrival operation => some operation
  | answer _ _ => none
  | saving _ => none
  | locking _ => none

/-- The operations that come in, the first one first. -/
def arrivals (events : List Event) : List Operation := events.filterMap arrival?

/-- Whether an event answers a call. -/
def answers (number : Nat) : Event → Bool
  | arrival _ => false
  | answer call _ => call == number
  | saving _ => false
  | locking _ => false

theorem arrivals_append (before after : List Event) :
    arrivals (before ++ after) = arrivals before ++ arrivals after := List.filterMap_append

theorem arrivals_concat (events : List Event) (event : Event) :
    arrivals (events ++ [event]) = arrivals events ++ event.arrival?.toList := by
  rw [arrivals_append]
  unfold arrivals
  cases h : event.arrival? <;> simp [h]

end Event

namespace Session

variable {s s' before : Session} {turn : Turn}

/-- The operations that have come in since an earlier point. -/
def arrived (before s : Session) : List Operation :=
  (s.calls.map Call.operation).drop before.calls.length

/-- An event adds the operation that comes in to the calls. -/
theorem map_operation_handle (s : Session) (event : Event) :
    (s.handle event).calls.map Call.operation
      = s.calls.map Call.operation ++ event.arrival?.toList := by
  cases event with
  | arrival operation => exact List.map_append
  | answer number responder =>
    rcases hnumber : s.calls[number]? with _ | ⟨operation, ⟨address, w⟩ | result⟩
    · simp [handle, hnumber, Event.arrival?]
    · -- the call that moves keeps its operation
      have hlt : number < (s.calls.map Call.operation).length := by
        rw [List.length_map]
        exact (List.getElem?_eq_some_iff.1 hnumber).1
      have hoperation : (s.calls.map Call.operation)[number] = operation := by
        rw [List.getElem_map, (List.getElem?_eq_some_iff.1 hnumber).2]
      have hsame : (s.calls.map Call.operation).set number operation
          = s.calls.map Call.operation := by
        conv_lhs => rw [← hoperation]
        exact List.set_getElem_self hlt
      simp only [handle, hnumber, List.map_set, Event.arrival?, Option.toList_none, List.append_nil]
      exact hsame
    · simp [handle, hnumber, Event.arrival?]
  | saving failure => exact (List.append_nil _).symm
  | locking paths => exact (List.append_nil _).symm

theorem map_operation_run (s : Session) (events : List Event) :
    (s.run events).calls.map Call.operation
      = s.calls.map Call.operation ++ Event.arrivals events := by
  induction events using List.reverseRecOn with
  | nil => exact (List.append_nil _).symm
  | append_singleton events event ih =>
    rw [run_concat, map_operation_handle, ih, Event.arrivals_concat, List.append_assoc]

theorem arrived_run (before : Session) (events : List Event) :
    before.arrived (before.run events) = Event.arrivals events := by
  unfold arrived
  rw [map_operation_run]
  exact List.drop_left' (List.length_map _)

theorem arrived_getElem? {number : Nat} {call : Call} (h : s.calls[number]? = some call)
    (hnumber : before.calls.length ≤ number) :
    (before.arrived s)[number - before.calls.length]? = some call.operation := by
  unfold arrived
  rw [List.getElem?_drop, Nat.add_sub_cancel' hnumber, List.getElem?_map, h]
  rfl

/-- Of calls that have come in since, different ones have nothing to do with each other if that holds of
all of them. -/
theorem independent_of_ne (h : (before.arrived s).Pairwise Operation.Independent) {m n : Nat}
    {a b : Call} (ha : s.calls[m]? = some a) (hb : s.calls[n]? = some b)
    (hm : before.calls.length ≤ m) (hn : before.calls.length ≤ n) (hne : m ≠ n) :
    a.operation.Independent b.operation := by
  obtain ⟨hmlt, hma⟩ := List.getElem?_eq_some_iff.1 (arrived_getElem? ha hm)
  obtain ⟨hnlt, hnb⟩ := List.getElem?_eq_some_iff.1 (arrived_getElem? hb hn)
  have hpairs := List.pairwise_iff_getElem.1 h
  rw [← hma, ← hnb]
  rcases Nat.lt_or_gt_of_ne hne with hlt | hgt
  · exact hpairs _ _ hmlt hnlt (by omega)
  · exact (hpairs _ _ hnlt hmlt (by omega)).symm

/-! ### What a turn leaves alone -/

/-- Behind a turn its call stands where the turn has left it. -/
theorem Takes.call_moved (h : s.Takes s' turn) :
    s'.calls[turn.call]? = some ⟨turn.operation, turn.progress⟩ := by
  cases h.advances with
  | opens number _ _ calls => rw [calls, number, List.getElem?_concat_length]
  | continues number _ _ calls =>
    rw [calls, List.getElem?_set_self (List.getElem?_eq_some_iff.1 number).1]

/-- Every other call stands where it was. -/
theorem Takes.call_kept (h : s.Takes s' turn) {number : Nat} {call : Call}
    (hcall : s.calls[number]? = some call) (hne : turn.call ≠ number) :
    s'.calls[number]? = some call := by
  cases h.advances with
  | opens _ _ _ calls =>
    rw [calls, List.getElem?_append_left (List.getElem?_eq_some_iff.1 hcall).1, hcall]
  | continues _ _ _ calls => rw [calls, List.getElem?_set_ne hne, hcall]

theorem Takes.length_le (h : s.Takes s' turn) : s.calls.length ≤ s'.calls.length := by
  cases h.advances with
  | opens _ _ _ calls =>
    rw [calls, List.length_append]
    exact Nat.le_add_right _ _
  | continues _ _ _ calls =>
    rw [calls, List.length_set]

/-- The records behind a turn are those before it, or those that a change of its operation has made. -/
theorem Takes.records_cases (hs : s.Sound) (h : s.Takes s' turn) :
    s'.broker.store.records = s.broker.store.records ∨ ∃ c : Change,
      c.Of turn.operation turn.answered ∧
        s'.broker.store.records = (c.apply s.broker.registry s.broker.store.records).1 := by
  cases hchange : turn.change with
  | none => exact .inl (h.rests hchange).records
  | some c => exact .inr ⟨c, h.change_of hs hchange, (h.commits hchange).1.records⟩

theorem Takes.instance_elsewhere (hs : s.Sound) (h : s.Takes s' turn) {id : String}
    (hid : turn.operation.instanceId ≠ id) :
    s'.broker.store.records.instances.get? id = s.broker.store.records.instances.get? id := by
  rcases h.records_cases hs with hsame | ⟨c, hof, hrecords⟩
  · rw [hsame]
  · rw [hrecords, hof.instance_elsewhere _ _ hid]

theorem Takes.binding_elsewhere (hs : s.Sound) (h : s.Takes s' turn) {id : String}
    (hid : turn.operation.bindingId? ≠ some id) :
    s'.broker.store.records.bindings.get? id = s.broker.store.records.bindings.get? id := by
  rcases h.records_cases hs with hsame | ⟨c, hof, hrecords⟩
  · rw [hsame]
  · rw [hrecords, hof.binding_elsewhere _ _ hid]

theorem Takes.agree_elsewhere (hs : s.Sound) (h : s.Takes s' turn) {operation : Operation}
    (hindependent : turn.operation.Independent operation) :
    s.broker.store.records.Agree s'.broker.store.records operation := by
  refine ⟨h.instance_elsewhere hs hindependent.instances, ?_⟩
  intro id hid
  exact h.binding_elsewhere hs fun hsame => hindependent.bindings id hsame hid

/-- If the saves have succeeded, so has that of the last turn. -/
theorem SavesWell.last (h : before.SavesWell s') (hhistory : s'.history = s.history ++ [turn])
    (hgrown : before.history <+: s.history) {saved : Except StoreError Unit}
    (hsaved : turn.saved = some saved) : saved = .ok () := by
  refine h saved ?_
  obtain ⟨turns, hturns⟩ := hgrown
  rw [hhistory, ← hturns, List.append_assoc, List.drop_left, Turn.attempts_concat, hsaved]
  exact List.mem_append_right _ (List.mem_singleton_self _)

/-! ### How far a call has come -/

/-- How far a call has come on the course that it had at an earlier point. The records under its ids
are those of that point until it runs its change. -/
inductive Reaches (before s : Session) (number : Nat) (operation : Operation) (responder : Responder) :
    Progress → Prop where
  | waits {address : String} {w : Waiting} (serves : w.Serves operation)
      (agree : before.broker.store.records.Agree s.broker.store.records operation)
      (course : before.broker.course responder operation
        = (w.course before.broker.registry before.broker.store.records responder).behind
          (Turn.ordersOf number s.history)) :
      Reaches before s number operation responder (.waiting address w)
  | ended {result : Except BrokerError Reply}
      (orders : Turn.ordersOf number s.history = (before.broker.course responder operation).orders)
      (agree : ((before.broker.course responder operation).records before.broker.registry
        before.broker.store.records).Agree s.broker.store.records operation)
      (answer : before.SavesWell s → result = (before.broker.course responder operation).answer
        before.broker.registry before.broker.store.records) :
      Reaches before s number operation responder (.finished result)

section Reaches

variable {number : Nat} {operation : Operation} {responder : Responder} {progress : Progress}

theorem Reaches.idle (h : before.Reaches s number operation responder progress) (hidle : s.Idles s') :
    before.Reaches s' number operation responder progress := by
  have hsaves : before.SavesWell s' → before.SavesWell s := by
    unfold SavesWell
    rw [hidle.history]
    exact id
  cases h with
  | waits serves agree course =>
    exact .waits serves (hidle.records ▸ agree) (hidle.history ▸ course)
  | ended orders agree answer =>
    exact .ended (hidle.history ▸ orders) (hidle.records ▸ agree) fun hwell => answer (hsaves hwell)

/-- A turn of a call that has nothing to do with it leaves a call where it is. -/
theorem Reaches.elsewhere (h : before.Reaches s number operation responder progress) (hs : s.Sound)
    (htakes : s.Takes s' turn) (hne : turn.call ≠ number)
    (hindependent : turn.operation.Independent operation) :
    before.Reaches s' number operation responder progress := by
  have hagree := htakes.agree_elsewhere hs hindependent
  have horders : Turn.ordersOf number s'.history = Turn.ordersOf number s.history := by
    rw [htakes.history]
    exact Turn.ordersOf_concat_of_ne hne
  have hgrows : s.history <+: s'.history := htakes.history ▸ List.prefix_append _ _
  -- the turn of another call adds no plugin call of this one and touches none of its records
  cases h with
  | waits serves agree course =>
    exact .waits serves (agree.trans hagree) (horders ▸ course)
  | ended orders agree answer =>
    exact .ended (horders.trans orders) (agree.trans hagree) fun hwell => answer (hwell.of_grows hgrows)

/-- A call that takes a step on its course comes further on it. -/
theorem Takes.reaches (htakes : s.Takes s' turn) {step : Step} {rest : Course}
    {files : FileSystem} (hbroker : s'.broker = step.broker) (hprogress : turn.progress = step.progress)
    (hsaved : turn.saved = step.saved) (hpursues : step.Pursues s.broker files responder rest)
    (hregistry : s.broker.registry = before.broker.registry)
    (hagree : before.broker.store.records.Agree s.broker.store.records turn.operation)
    (hcourse : before.broker.course responder turn.operation
      = rest.behind (Turn.ordersOf turn.call s.history))
    (hgrown : before.history <+: s.history) :
    before.Reaches s' turn.call turn.operation responder turn.progress := by
  have horders : Turn.ordersOf turn.call s'.history
      = Turn.ordersOf turn.call s.history ++ turn.progress.orders := by
    rw [htakes.history]
    exact Turn.ordersOf_concat_self _ _
  cases hpursues with
  | @waits address w spares progress rest' =>
    have hwaits : turn.progress = .waiting address w := hprogress.trans progress
    have hserves : w.Serves turn.operation := htakes.serves address w hwaits
    rw [hwaits] at horders ⊢
    refine .waits hserves ?_ ?_
    · rw [hbroker, spares.store]
      exact hagree
    · -- the plugin call that it waits for comes behind those that it has made
      rw [hcourse, rest', hregistry, Waiting.course_agree hserves hagree, horders]
      exact (Course.behind_append _ _ _).symm
  | @fails e spares progress rest' =>
    have hends : turn.progress = .finished (.error e) := hprogress.trans progress
    rw [hends] at horders ⊢
    rw [rest'] at hcourse
    refine .ended ?_ ?_ ?_
    · rw [horders, hcourse]
      rfl
    · rw [hbroker, spares.store, hcourse]
      exact hagree
    · intro _
      rw [hcourse]
      rfl
  | @runs c performs rest' =>
    rw [rest'] at hcourse
    -- the change finds the records under its ids as they were
    have hending : (before.broker.course responder turn.operation).ending = .ok c := by
      rw [hcourse]
      rfl
    obtain ⟨answered, hof⟩ := Broker.of_course hending
    obtain ⟨hanswer, hrecords⟩ := hof.apply_agree hagree before.broker.registry
    have hends := hprogress.trans performs.progress
    rw [hends] at horders ⊢
    rw [hregistry] at hends ⊢
    refine .ended ?_ ?_ ?_
    · rw [horders, hcourse]
      rfl
    · rw [hbroker, performs.store, hregistry, hcourse]
      exact hrecords
    · intro hwell
      have hok := hwell.last htakes.history hgrown (hsaved.trans performs.saved)
      rw [hok, Broker.settle_saved, hcourse, hanswer]
      rfl

end Reaches

/-! ### Calls apart -/

/-- The probes of one service are all answered alike. -/
def ProbesAlike (reply : Operation → Responder) : Prop :=
  ∀ a b : Operation, a.serviceId = b.serviceId → reply a .probe = reply b .probe

/-- What stays of an earlier session: its calls stand where they were and have made no more plugin
calls, and whatever has come in since comes behind them. -/
structure Follows (before s : Session) : Prop where
  sound : s.Sound
  registry : s.broker.registry = before.broker.registry
  numbered : ∀ turn ∈ s.history, turn.call < s.calls.length
  grown : before.history <+: s.history
  length : before.calls.length ≤ s.calls.length
  earlier : ∀ (number : Nat) (call : Call), before.calls[number]? = some call →
    s.calls[number]? = some call
  orders : ∀ number < before.calls.length,
    Turn.ordersOf number s.history = Turn.ordersOf number before.history

theorem Follows.refl (hs : s.Sound) (hnumbered : ∀ turn ∈ s.history, turn.call < s.calls.length) :
    s.Follows s where
  sound := hs
  registry := rfl
  numbered := hnumbered
  grown := List.prefix_rfl
  length := Nat.le_refl _
  earlier := fun _ _ hcall => hcall
  orders := fun _ _ => rfl

theorem Follows.trans (h : before.Follows s) (h' : s.Follows s') : before.Follows s' where
  sound := h'.sound
  registry := h'.registry.trans h.registry
  numbered := h'.numbered
  grown := h.grown.trans h'.grown
  length := h.length.trans h'.length
  earlier := fun number call hcall => h'.earlier number call (h.earlier number call hcall)
  orders := fun number hnumber =>
    (h'.orders number (hnumber.trans_le h.length)).trans (h.orders number hnumber)

theorem Follows.idle (h : before.Follows s) (hidle : s.Idles s') : before.Follows s' where
  sound := ⟨hidle.outage, by rw [hidle.calls]; exact h.sound.serves⟩
  registry := hidle.registry.trans h.registry
  numbered := by rw [hidle.history, hidle.calls]; exact h.numbered
  grown := hidle.history ▸ h.grown
  length := hidle.calls ▸ h.length
  earlier := hidle.calls ▸ h.earlier
  orders := hidle.history ▸ h.orders

/-- A turn of a call that has come in since leaves the earlier calls where they are. -/
theorem Follows.take (h : before.Follows s) {event : Event} (htakes : s.Takes (s.handle event) turn)
    (hcaller : before.calls.length ≤ turn.call) : before.Follows (s.handle event) where
  sound := h.sound.handle event
  registry := htakes.registry.trans h.registry
  -- the new turn belongs to a call that has come in
  numbered := by
    intro old hold
    rw [htakes.history] at hold
    rcases List.mem_append.1 hold with hold | hold
    · exact (h.numbered old hold).trans_le htakes.length_le
    · rw [List.mem_singleton.1 hold]
      exact (List.getElem?_eq_some_iff.1 htakes.call_moved).1
  grown := h.grown.trans (history_grows s event)
  length := h.length.trans htakes.length_le
  earlier := by
    intro number call hcall
    have hlt := (List.getElem?_eq_some_iff.1 hcall).1
    exact htakes.call_kept (h.earlier number call hcall) (by omega)
  orders := by
    intro number hnumber
    rw [htakes.history, Turn.ordersOf_concat_of_ne (by omega)]
    exact h.orders number hnumber

/-- What a session keeps in which calls have come in since an earlier point that have nothing to do with
each other. -/
structure Apart (before s : Session) (reply : Operation → Responder) : Prop
    extends before.Follows s where
  kept : ∀ id, before.broker.gate.isPassed id = true → s.broker.gate.isPassed id = true
  /-- What has passed the gate since is registered, and its probe is answered well. -/
  passed : ∀ id, s.broker.gate.isPassed id = true → before.broker.gate.isPassed id = true ∨
    ∃ operation, operation.serviceId = id ∧
      (∃ address, before.broker.registry.address id = .ok address) ∧
        ∃ response, reply operation .probe = .ok response
  waiting : ∀ (number : Nat) (operation : Operation) (address : String) (w : Waiting),
    before.calls.length ≤ number → s.calls[number]? = some ⟨operation, .waiting address w⟩ →
      before.broker.registry.address operation.serviceId = .ok address
  reached : ∀ (number : Nat) (operation : Operation) (progress : Progress),
    before.calls.length ≤ number → s.calls[number]? = some ⟨operation, progress⟩ →
      before.Reaches s number operation (reply operation) progress
  /-- No records have changed but those under the ids of the calls. -/
  instances : ∀ id, (∀ operation ∈ before.arrived s, operation.instanceId ≠ id) →
    s.broker.store.records.instances.get? id = before.broker.store.records.instances.get? id
  bindings : ∀ id, (∀ operation ∈ before.arrived s, operation.bindingId? ≠ some id) →
    s.broker.store.records.bindings.get? id = before.broker.store.records.bindings.get? id

variable {reply : Operation → Responder}

theorem Apart.refl (hs : s.Sound) (hnumbered : ∀ turn ∈ s.history, turn.call < s.calls.length)
    (reply : Operation → Responder) : s.Apart s reply where
  toFollows := Follows.refl hs hnumbered
  kept := fun _ hpassed => hpassed
  passed := fun _ hpassed => .inl hpassed
  waiting := by
    intro number operation address w hnumber hcall
    have hlt := (List.getElem?_eq_some_iff.1 hcall).1
    omega
  reached := by
    intro number operation progress hnumber hcall
    have hlt := (List.getElem?_eq_some_iff.1 hcall).1
    omega
  instances := fun _ _ => rfl
  bindings := fun _ _ => rfl

theorem arrived_handle (hlength : before.calls.length ≤ s.calls.length) (event : Event) :
    before.arrived (s.handle event) = before.arrived s ++ event.arrival?.toList := by
  unfold arrived
  rw [map_operation_handle, List.drop_append_of_le_length (by rw [List.length_map]; exact hlength)]

theorem Apart.idle (h : before.Apart s reply) (hidle : s.Idles s') : before.Apart s' reply where
  toFollows := h.toFollows.idle hidle
  kept := hidle.gate ▸ h.kept
  passed := hidle.gate ▸ h.passed
  waiting := hidle.calls ▸ h.waiting
  reached := by
    intro number operation progress hnumber hcall
    rw [hidle.calls] at hcall
    exact (h.reached number operation progress hnumber hcall).idle hidle
  instances := by
    unfold arrived
    rw [hidle.records, hidle.calls]
    exact h.instances
  bindings := by
    unfold arrived
    rw [hidle.records, hidle.calls]
    exact h.bindings

theorem exists_of_passes {answered : Answered} (h : answered.passes = true) :
    ∃ response, answered = ⟨.probe, .ok response⟩ := by
  obtain ⟨call, outcome⟩ := answered
  cases call with
  | probe =>
    cases outcome with
    | error e => cases h
    | ok response => exact ⟨response, rfl⟩
  | createVolume request => cases h
  | deleteVolume request => cases h

/-- What has passed the gate behind a turn. -/
theorem Apart.passed_of_takes (h : before.Apart s reply) (htakes : s.Takes s' turn)
    (hcaller : before.calls.length ≤ turn.call)
    (hanswered : ∀ answered, turn.answered = some answered →
      answered.outcome = reply turn.operation answered.call)
    (id : String) (hpassed : s'.broker.gate.isPassed id = true) :
    before.broker.gate.isPassed id = true ∨ ∃ operation, operation.serviceId = id ∧
      (∃ address, before.broker.registry.address id = .ok address) ∧
        ∃ response, reply operation .probe = .ok response := by
  rw [htakes.isPassed h.sound, Bool.or_eq_true] at hpassed
  rcases hpassed with hpassed | hpasses
  · exact h.passed id hpassed
  · -- this turn has opened the gate, by the answer to a probe
    obtain ⟨hservice, hany⟩ := Bool.and_eq_true_iff.1 hpasses
    obtain rfl := eq_of_beq hservice
    cases htakes.advances with
    | opens _ answered _ _ _ _ =>
      rw [answered] at hany
      cases hany
    | @continues address w answer call answered _ _ _ _ =>
      -- the probe has been under way, so its service is registered
      have haddress := h.waiting turn.call turn.operation address w hcaller call
      have hpasses' : Answered.passes ⟨w.call, answer⟩ = true := by
        rw [answered] at hany
        exact hany
      obtain ⟨response, hresponse⟩ := exists_of_passes hpasses'
      have hprobe := hanswered _ (answered.trans (congrArg some hresponse))
      exact .inr ⟨turn.operation, rfl, ⟨address, haddress⟩, response, hprobe.symm⟩

/-- A turn of one of the calls leaves them apart. -/
theorem Apart.take (h : before.Apart s reply) {event : Event}
    (htakes : s.Takes (s.handle event) turn) (hcaller : before.calls.length ≤ turn.call)
    (hanswered : ∀ answered, turn.answered = some answered →
      answered.outcome = reply turn.operation answered.call)
    (hmoved : before.Reaches (s.handle event) turn.call turn.operation (reply turn.operation)
      turn.progress)
    (hindependent : (before.arrived (s.handle event)).Pairwise Operation.Independent) :
    before.Apart (s.handle event) reply := by
  have harrived : ∀ operation ∈ before.arrived s, operation ∈ before.arrived (s.handle event) := by
    intro operation hmem
    rw [arrived_handle h.length]
    exact List.mem_append_left _ hmem
  have hmem : turn.operation ∈ before.arrived (s.handle event) :=
    List.mem_of_getElem? (arrived_getElem? htakes.call_moved hcaller)
  refine
    { toFollows := h.toFollows.take htakes hcaller
      kept := ?_
      passed := h.passed_of_takes htakes hcaller hanswered
      waiting := ?_
      reached := ?_
      instances := ?_
      bindings := ?_ }
  · -- the gate never closes again
    intro id hpassed
    rw [htakes.isPassed h.sound, h.kept id hpassed, Bool.true_or]
  · intro number operation address w hnumber hcall
    rcases htakes.calls_cases hcall with ⟨rfl, hmine⟩ | ⟨-, hold⟩
    · obtain ⟨rfl, hprogress⟩ := Call.mk.inj hmine
      have hserves := htakes.serves address w hprogress.symm
      have hdue := (htakes.due h.sound hprogress.symm).address
      rw [htakes.registry, h.registry, hserves.serviceId] at hdue
      exact hdue
    · exact h.waiting number operation address w hnumber hold
  · intro number operation progress hnumber hcall
    rcases htakes.calls_cases hcall with ⟨rfl, hmine⟩ | ⟨hne, hold⟩
    · obtain ⟨rfl, rfl⟩ := Call.mk.inj hmine
      exact hmoved
    · -- the call has not moved, and the one that has moved has nothing to do with it
      have hother := independent_of_ne hindependent htakes.call_moved hcall hcaller hnumber hne.symm
      exact (h.reached number operation progress hnumber hold).elsewhere h.sound htakes hne.symm hother
  · intro id hid
    rw [htakes.instance_elsewhere h.sound (hid turn.operation hmem)]
    exact h.instances id fun operation hoperation => hid operation (harrived operation hoperation)
  · intro id hid
    rw [htakes.binding_elsewhere h.sound (hid turn.operation hmem)]
    exact h.bindings id fun operation hoperation => hid operation (harrived operation hoperation)

/-- An event that may come next: the plugin answers nobody but the calls that have come in since, and
each of them as it should. -/
def Fits (before s : Session) (reply : Operation → Responder) : Event → Prop
  | .arrival _ => True
  | .answer number responder => before.calls.length ≤ number ∧
    ∀ operation progress, s.calls[number]? = some ⟨operation, progress⟩ → responder = reply operation
  | .saving _ => True
  | .locking _ => True

/-- **What one event preserves.** -/
theorem Apart.handle (h : before.Apart s reply) (halike : ProbesAlike reply) {event : Event}
    (hfits : before.Fits s reply event)
    (hindependent : (before.arrived (s.handle event)).Pairwise Operation.Independent) :
    before.Apart (s.handle event) reply := by
  cases event with
  | arrival operation =>
    have htakes := arrival_takes h.sound operation
    -- nobody has touched the records under the ids of the new call
    have hothers : ∀ other ∈ before.arrived s, other.Independent operation := by
      rw [arrived_handle h.length] at hindependent
      intro other hother
      exact (List.pairwise_append.1 hindependent).2.2 other hother operation (List.mem_singleton_self _)
    have hagree : before.broker.store.records.Agree s.broker.store.records operation := by
      refine ⟨h.instances _ fun other hother => (hothers other hother).instances, ?_⟩
      intro id hid
      exact h.bindings id fun other hother hsame => (hothers other hother).bindings id hsame hid
    have hcourse : s.broker.course (reply operation) operation
        = before.broker.course (reply operation) operation := by
      refine Broker.course_eq h.registry hagree (h.kept _) fun hpassed => ?_
      refine (h.passed _ hpassed).imp_right ?_
      rintro ⟨other, hservice, haddress, response, hprobe⟩
      exact ⟨haddress, response, (halike operation other hservice.symm).trans hprobe⟩
    have hnone : Turn.ordersOf s.calls.length s.history = [] :=
      Turn.ordersOf_eq_nil fun turn hturn => Nat.ne_of_lt (h.numbered turn hturn)
    refine h.take htakes h.length (fun _ hanswered => nomatch hanswered) ?_ hindependent
    -- the call has made no plugin call yet, so its whole course is before it
    refine htakes.reaches rfl rfl rfl
      (Broker.begin_pursues h.sound.outage s.files (reply operation) operation) h.registry hagree ?_
      h.grown
    show _ = Course.behind (Turn.ordersOf s.calls.length s.history) _
    rw [hnone, Course.behind_nil]
    exact hcourse.symm
  | answer number responder =>
    obtain ⟨hcaller, hreply⟩ := hfits
    rcases hcall : s.calls[number]? with _ | ⟨operation, ⟨address, w⟩ | result⟩
    · -- nobody waits for the answer
      simpa only [Session.handle, hcall] using h
    · obtain rfl : responder = reply operation := hreply operation _ hcall
      have htakes := answer_takes h.sound hcall (reply operation)
      cases h.reached number operation _ hcaller hcall with
      | waits serves agree course =>
        refine h.take htakes hcaller ?_ ?_ hindependent
        · rintro answered ⟨⟩
          rfl
        have hbroker : (s.handle (.answer number (reply operation))).broker
            = (s.broker.resume s.files w (reply operation w.call)).broker := by
          simp only [Session.handle, hcall]
        refine htakes.reaches hbroker rfl rfl
          (Broker.resume_pursues h.sound.outage s.files (reply operation) w) h.registry agree ?_ h.grown
        rw [h.registry, Waiting.course_agree serves agree]
        exact course
    · simpa only [Session.handle, hcall] using h
  | saving failure => exact h.idle (idles_of_surroundings h.sound id)
  | locking paths => exact h.idle (idles_of_surroundings h.sound id)

end Session

end VolumeBroker
