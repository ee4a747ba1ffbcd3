import VolumeBroker.Proofs.Session.Apart
import VolumeBroker.Proofs.Session.Saving
/-!
# The order of steps does not matter

Once every call of an interleaving has been answered as often as it may need (`Session.Interleaves`)
all of them have ended. If the calls have nothing to do with each other, each of them has come to the
end of the course that it had at the beginning (`Interleaves.reached`), so neither what they have come
to nor the records depend on the order of the steps any more (`Interleaves.records_eq`).

To serve calls one after the other is one way to take their steps (`interleaves_servings`), so two
calls come to the same side by side and in sequence: `Session.run_independent`. A call that is served by
itself is an interleaving of one call (`Session.serve_served`).
-/

namespace VolumeBroker

namespace Session

variable {before s : Session} {reply : Operation → Responder}

/-! ### Interleavings -/

theorem run_append (s : Session) (events later : List Event) :
    s.run (events ++ later) = (s.run events).run later := List.foldl_append

/-- Events in which some operations come in, in this order, and are answered until all of them have
ended. Their calls are numbered from `first` on. -/
structure Interleaves (first : Nat) (reply : Operation → Responder) (operations : List Operation)
    (events : List Event) : Prop where
  arrivals : Event.arrivals events = operations
  /-- The plugin answers nobody but these calls, and each of them as it should. -/
  steady : ∀ number responder, Event.answer number responder ∈ events → first ≤ number ∧
    ∀ operation, operations[number - first]? = some operation → responder = reply operation
  /-- Once it has come in a call is answered twice at least: as often as it may need. -/
  complete : ∀ i operation, operations[i]? = some operation → ∃ earlier later,
    events = earlier ++ .arrival operation :: later ∧ (Event.arrivals earlier).length = i ∧
      2 ≤ later.countP (Event.answers (first + i))

/-- An answer to a call uses up one of those that it may need. -/
theorem left_handle {number : Nat} {operation : Operation} {progress : Progress}
    (h : s.calls[number]? = some ⟨operation, progress⟩) (event : Event) :
    ∃ next, (s.handle event).calls[number]? = some ⟨operation, next⟩ ∧
      next.left ≤ progress.left - (event.answers number).toNat := by
  have hlt := (List.getElem?_eq_some_iff.1 h).1
  cases event with
  | arrival other =>
    refine ⟨progress, ?_, Nat.le_refl _⟩
    simp only [handle]
    rw [List.getElem?_append_left hlt, h]
  | answer other responder =>
    by_cases hother : other = number
    · subst hother
      have hanswers : (Event.answer other responder).answers other = true := beq_self_eq_true other
      rw [hanswers]
      -- an answer takes the call one step on, as long as it waits
      cases progress with
      | waiting address w =>
        have hleft := s.broker.left_resume s.files w (responder w.call)
        refine ⟨(s.broker.resume s.files w (responder w.call)).progress, ?_, ?_⟩
        · simp only [handle, h]
          exact List.getElem?_set_self hlt
        · exact Nat.le_sub_of_add_le hleft
      | finished result =>
        -- the answer is lost on a call that has ended
        refine ⟨.finished result, ?_, Nat.zero_le _⟩
        simp only [handle, h]
    · have hanswers : (Event.answer other responder).answers number = false :=
        beq_eq_false_iff_ne.2 hother
      rw [hanswers]
      refine ⟨progress, ?_, Nat.le_refl _⟩
      rcases hcall : s.calls[other]? with _ | ⟨operation', ⟨address, w⟩ | result⟩
      · simp only [handle, hcall, h]
      · simp only [handle, hcall]
        rw [List.getElem?_set_ne hother, h]
      · simp only [handle, hcall, h]
  | saving failure => exact ⟨progress, h, Nat.le_refl _⟩
  | locking paths => exact ⟨progress, h, Nat.le_refl _⟩

theorem left_run {number : Nat} {operation : Operation} {progress : Progress}
    (h : s.calls[number]? = some ⟨operation, progress⟩) (events : List Event) :
    ∃ next, (s.run events).calls[number]? = some ⟨operation, next⟩ ∧
      next.left ≤ progress.left - events.countP (Event.answers number) := by
  induction events using List.reverseRecOn with
  | nil => exact ⟨progress, h, Nat.le_refl _⟩
  | append_singleton events event ih =>
    obtain ⟨middle, hmiddle, hleft⟩ := ih
    obtain ⟨next, hnext, hless⟩ := left_handle hmiddle event
    rw [run_concat, countP_concat]
    exact ⟨next, hnext, by omega⟩

section Interleaves

variable {operations : List Operation} {events : List Event}

/-- Every call of an interleaving ends. -/
theorem Interleaves.ended (h : Interleaves before.calls.length reply operations events) {i : Nat}
    {operation : Operation} (hoperation : operations[i]? = some operation) : ∃ result,
      (before.run events).calls[before.calls.length + i]? = some ⟨operation, .finished result⟩ := by
  obtain ⟨earlier, later, rfl, hi, hcount⟩ := h.complete i operation hoperation
  have hlength : (before.run earlier).calls.length = before.calls.length + i := by
    have hmap := congrArg List.length (before.map_operation_run earlier)
    rw [List.length_append, List.length_map, List.length_map, hi] at hmap
    exact hmap
  -- the call comes in, and is answered as often as it may need
  have hfirst : ((before.run earlier).handle (.arrival operation)).calls[before.calls.length + i]?
      = some ⟨operation,
        ((before.run earlier).broker.begin (before.run earlier).files operation).progress⟩ := by
    rw [← hlength]
    exact List.getElem?_concat_length
  obtain ⟨next, hnext, hleft⟩ := left_run hfirst later
  have hbegin := (before.run earlier).broker.left_begin (before.run earlier).files operation
  obtain ⟨result, rfl⟩ := Progress.finished_of_left (hleft.trans (by omega))
  refine ⟨result, ?_⟩
  rw [run_append]
  exact hnext

/-- **What a whole run preserves.** Calls that have nothing to do with each other stay apart. -/
theorem Apart.run (h : before.Apart before reply) (halike : ProbesAlike reply)
    (hevents : Interleaves before.calls.length reply operations events)
    (hpairs : operations.Pairwise Operation.Independent) {earlier : List Event}
    (hearlier : earlier <+: events) : before.Apart (before.run earlier) reply := by
  have harrivals : ∀ {early : List Event}, early <+: events →
      Event.arrivals early <+: operations := by
    rintro early ⟨later, rfl⟩
    rw [← hevents.arrivals, Event.arrivals_append]
    exact List.prefix_append _ _
  -- event by event; the calls that have come in are a beginning of all of them
  induction earlier using List.reverseRecOn with
  | nil => exact h
  | append_singleton earlier event ih =>
    have hprefix : earlier <+: events := (List.prefix_append _ _).trans hearlier
    rw [run_concat]
    refine (ih hprefix).handle halike ?_ ?_
    · cases event with
      | arrival operation => trivial
      | answer number responder =>
        have hmem : Event.answer number responder ∈ events :=
          hearlier.subset (List.mem_append_right _ (List.mem_singleton_self _))
        obtain ⟨hnumber, hreply⟩ := hevents.steady number responder hmem
        refine ⟨hnumber, ?_⟩
        intro operation progress hcall
        -- the calls so far are the first ones of all operations
        have harrived := arrived_getElem? hcall hnumber
        rw [arrived_run] at harrived
        obtain ⟨rest, hrest⟩ := harrivals hprefix
        refine hreply operation ?_
        rw [← hrest, List.getElem?_append_left (List.getElem?_eq_some_iff.1 harrived).1, harrived]
      | saving failure => trivial
      | locking paths => trivial
    · rw [← run_concat, arrived_run]
      exact hpairs.sublist (harrivals hearlier).sublist

/-- Where every call of an interleaving has come to. -/
theorem Interleaves.reached (hevents : Interleaves before.calls.length reply operations events)
    (h : before.Apart before reply) (halike : ProbesAlike reply)
    (hpairs : operations.Pairwise Operation.Independent) {i : Nat} {operation : Operation}
    (hoperation : operations[i]? = some operation) : ∃ result,
      (before.run events).calls[before.calls.length + i]? = some ⟨operation, .finished result⟩ ∧
        before.Reaches (before.run events) (before.calls.length + i) operation (reply operation)
          (.finished result) := by
  obtain ⟨result, hcall⟩ := hevents.ended hoperation
  have hapart := h.run halike hevents hpairs List.prefix_rfl
  exact ⟨result, hcall, hapart.reached _ _ _ (Nat.le_add_right _ _) hcall⟩

/-- The records behind an interleaving, under the ids of one of its calls. -/
theorem Interleaves.agree (hevents : Interleaves before.calls.length reply operations events)
    (h : before.Apart before reply) (halike : ProbesAlike reply)
    (hpairs : operations.Pairwise Operation.Independent) {operation : Operation}
    (hmem : operation ∈ operations) :
    ((before.broker.course (reply operation) operation).records before.broker.registry
      before.broker.store.records).Agree (before.run events).broker.store.records operation := by
  obtain ⟨i, hi⟩ := List.mem_iff_getElem?.1 hmem
  obtain ⟨result, -, hreached⟩ := hevents.reached h halike hpairs hi
  cases hreached with
  | ended _ agree _ => exact agree

/-- The records behind an interleaving do not depend on the order of its events. -/
theorem Interleaves.records_eq (hevents : Interleaves before.calls.length reply operations events)
    (h : before.Apart before reply) (halike : ProbesAlike reply)
    (hpairs : operations.Pairwise Operation.Independent) {others : List Operation}
    {later : List Event} (hlater : Interleaves before.calls.length reply others later)
    (hsame : others.Perm operations) :
    (before.run later).broker.store.records = (before.run events).broker.store.records := by
  have hpairs' : others.Pairwise Operation.Independent :=
    hsame.symm.pairwise hpairs fun {_ _} => Operation.Independent.symm
  have hapart := h.run halike hevents hpairs List.prefix_rfl
  have hapart' := h.run halike hlater hpairs' List.prefix_rfl
  have harrived : before.arrived (before.run events) = operations := by
    rw [arrived_run, hevents.arrivals]
  have harrived' : before.arrived (before.run later) = others := by
    rw [arrived_run, hlater.arrivals]
  refine RecordSet.ext_get? ?_ ?_
  · intro id
    by_cases hid : ∃ operation ∈ operations, operation.instanceId = id
    · obtain ⟨operation, hmem, rfl⟩ := hid
      rw [(hevents.agree h halike hpairs hmem).instances,
        (hlater.agree h halike hpairs' (hsame.mem_iff.2 hmem)).instances]
    · -- no call names the id
      have hnone : ∀ operation ∈ operations, operation.instanceId ≠ id :=
        fun operation hmem hname => hid ⟨operation, hmem, hname⟩
      rw [hapart.instances id (harrived ▸ hnone), hapart'.instances id ?_]
      rw [harrived']
      exact fun operation hmem => hnone operation (hsame.mem_iff.1 hmem)
  · intro id
    by_cases hid : ∃ operation ∈ operations, operation.bindingId? = some id
    · obtain ⟨operation, hmem, hname⟩ := hid
      rw [(hevents.agree h halike hpairs hmem).bindings id hname,
        (hlater.agree h halike hpairs' (hsame.mem_iff.2 hmem)).bindings id hname]
    · have hnone : ∀ operation ∈ operations, operation.bindingId? ≠ some id :=
        fun operation hmem hname => hid ⟨operation, hmem, hname⟩
      rw [hapart.bindings id (harrived ▸ hnone), hapart'.bindings id ?_]
      rw [harrived']
      exact fun operation hmem => hnone operation (hsame.mem_iff.1 hmem)

end Interleaves

/-! ### Calls served one after the other -/

/-- The events of calls that are served one after the other. -/
def servings (first : Nat) : List (Operation × Responder) → List Event
  | [] => []
  | (operation, responder) :: rest =>
    .arrival operation :: .answer first responder :: .answer first responder ::
      servings (first + 1) rest

theorem length_serve (s : Session) (operation : Operation) (responder : Responder) :
    (s.serve operation responder).calls.length = s.calls.length + 1 := by
  have hmap := congrArg List.length (s.map_operation_run
    [.arrival operation, .answer s.calls.length responder, .answer s.calls.length responder])
  rw [List.length_append, List.length_map, List.length_map] at hmap
  exact hmap

theorem serveAll_eq_run (s : Session) (calls : List (Operation × Responder)) :
    s.serveAll calls = s.run (servings s.calls.length calls) := by
  induction calls generalizing s with
  | nil => rfl
  | cons call rest ih =>
    have hrest := ih (s.serve call.1 call.2)
    rw [length_serve] at hrest
    exact hrest

theorem interleaves_servings (reply : Operation → Responder) (first : Nat)
    (operations : List Operation) : Interleaves first reply operations
      (servings first (operations.map fun operation => (operation, reply operation))) := by
  -- the first call is served by three events, and the others behind them
  induction operations generalizing first with
  | nil =>
    refine ⟨rfl, ?_, ?_⟩
    · intro number responder hmem
      cases hmem
    · intro i operation hoperation
      cases hoperation
  | cons head rest ih =>
    obtain ⟨harrivals, hsteady, hcomplete⟩ := ih (first + 1)
    refine ⟨?_, ?_, ?_⟩
    · simp only [List.map_cons, servings]
      exact congrArg (List.cons head) harrivals
    · intro number responder hmem
      simp only [List.map_cons, servings, List.mem_cons, reduceCtorEq, false_or] at hmem
      rcases hmem with hmem | hmem | hmem
      · -- an answer to the first one
        obtain ⟨rfl, rfl⟩ := Event.answer.inj hmem
        refine ⟨Nat.le_refl _, ?_⟩
        rw [Nat.sub_self]
        rintro operation ⟨⟩
        rfl
      · obtain ⟨rfl, rfl⟩ := Event.answer.inj hmem
        refine ⟨Nat.le_refl _, ?_⟩
        rw [Nat.sub_self]
        rintro operation ⟨⟩
        rfl
      · obtain ⟨hnumber, hreply⟩ := hsteady number responder hmem
        refine ⟨by omega, ?_⟩
        intro operation hoperation
        have hindex : number - first = (number - (first + 1)) + 1 := by omega
        rw [hindex, List.getElem?_cons_succ] at hoperation
        exact hreply operation hoperation
    · intro i operation hoperation
      cases i with
      | zero =>
        obtain rfl : head = operation := Option.some.inj hoperation
        refine ⟨[], _, rfl, rfl, ?_⟩
        simp only [List.countP_cons, Event.answers, Nat.add_zero, beq_self_eq_true, if_true]
        omega
      | succ i =>
        rw [List.getElem?_cons_succ] at hoperation
        obtain ⟨earlier, later, hsplit, hi, hcount⟩ := hcomplete i operation hoperation
        refine ⟨.arrival head :: .answer first (reply head) :: .answer first (reply head) :: earlier,
          later, ?_, ?_, ?_⟩
        · simp only [List.map_cons, servings, hsplit, List.cons_append]
        · exact congrArg Nat.succ hi
        · rw [show first + (i + 1) = first + 1 + i by omega]
          exact hcount

/-- What comes of a call that is served by itself. -/
structure Served (s s' : Session) (operation : Operation) (responder : Responder)
    (result : Except BrokerError Reply) : Prop where
  call : s'.calls[s.calls.length]? = some ⟨operation, .finished result⟩
  /-- It has made the plugin calls of its course. -/
  orders : Turn.ordersOf s.calls.length s'.history = (s.broker.course responder operation).orders
  /-- It has changed the records as its course says, and nothing else has. -/
  records : s'.broker.store.records
    = (s.broker.course responder operation).records s.broker.registry s.broker.store.records
  /-- If its change has been saved then it answers what its course says. -/
  answer : s.SavesWell s' →
    result = (s.broker.course responder operation).answer s.broker.registry s.broker.store.records
  apart : s.Apart s' fun _ => responder

/-- **A call that is served by itself** comes to the end of its course. -/
theorem serve_served (hs : s.Sound) (hnumbered : ∀ turn ∈ s.history, turn.call < s.calls.length)
    (operation : Operation) (responder : Responder) :
    ∃ result, s.Served (s.serve operation responder) operation responder result := by
  let reply : Operation → Responder := fun _ => responder
  have halike : ProbesAlike reply := fun _ _ _ => rfl
  have hpairs : [operation].Pairwise Operation.Independent := List.pairwise_singleton _ _
  have hevents : Interleaves s.calls.length reply [operation]
      [.arrival operation, .answer s.calls.length responder, .answer s.calls.length responder] :=
    interleaves_servings reply s.calls.length [operation]
  have hself : s.Apart s reply := Apart.refl hs hnumbered reply
  have hapart : s.Apart (s.serve operation responder) reply :=
    hself.run halike hevents hpairs List.prefix_rfl
  have harrived : s.arrived (s.serve operation responder) = [operation] := arrived_run s _
  have hfirst : [operation][0]? = some operation := rfl
  obtain ⟨result, hcall, hreached⟩ := hevents.reached hself halike hpairs hfirst
  cases hreached with
  | ended orders agree answer =>
    refine ⟨result, hcall, orders, RecordSet.ext_get? ?_ ?_, answer, hapart⟩
    · -- under the ids of the call its course tells the records, elsewhere they are as before
      intro id
      by_cases hid : operation.instanceId = id
      · rw [← hid]
        exact agree.instances
      · rw [Broker.instance_elsewhere s.broker responder hid]
        refine hapart.instances id ?_
        rw [harrived]
        intro other hother
        rw [List.mem_singleton.1 hother]
        exact hid
    · intro id
      by_cases hid : operation.bindingId? = some id
      · exact agree.bindings id hid
      · rw [Broker.binding_elsewhere s.broker responder hid]
        refine hapart.bindings id ?_
        rw [harrived]
        intro other hother
        rw [List.mem_singleton.1 hother]
        exact hid

namespace Served

variable {s' : Session} {operation : Operation} {responder : Responder}
  {result : Except BrokerError Reply}

theorem instance_elsewhere (h : s.Served s' operation responder result) {id : String}
    (hid : operation.instanceId ≠ id) :
    s'.broker.store.records.instances.get? id = s.broker.store.records.instances.get? id := by
  rw [h.records]
  exact Broker.instance_elsewhere s.broker responder hid

theorem binding_elsewhere (h : s.Served s' operation responder result) {id : String}
    (hid : operation.bindingId? ≠ some id) :
    s'.broker.store.records.bindings.get? id = s.broker.store.records.bindings.get? id := by
  rw [h.records]
  exact Broker.binding_elsewhere s.broker responder hid

end Served

theorem length_serveAll (s : Session) (calls : List (Operation × Responder)) :
    (s.serveAll calls).calls.length = s.calls.length + calls.length := by
  induction calls generalizing s with
  | nil => rfl
  | cons call rest ih =>
    have hrest := ih (s.serve call.1 call.2)
    rw [length_serve] at hrest
    exact hrest.trans (by rw [List.length_cons]; omega)

/-- What stays of a session when calls are served. -/
theorem follows_serveAll (hs : s.Sound) (hnumbered : ∀ turn ∈ s.history, turn.call < s.calls.length)
    (calls : List (Operation × Responder)) : s.Follows (s.serveAll calls) := by
  induction calls generalizing s with
  | nil => exact Follows.refl hs hnumbered
  | cons call rest ih =>
    obtain ⟨result, hserved⟩ := serve_served hs hnumbered call.1 call.2
    have hfirst := hserved.apart.toFollows
    exact hfirst.trans (ih hfirst.sound hfirst.numbered)

/-! ### Two calls that overlap -/

/-- A call has ended with an answer, and has made some plugin calls besides probes. -/
def Completes (s : Session) (operation : Operation) (answer : Except BrokerError Reply)
    (orders : List (String × PluginCall)) : Prop :=
  ∃ number, s.calls[number]? = some ⟨operation, .finished answer⟩ ∧
    Turn.ordersOf number s.history = orders

/-- Two calls come to the same in several sessions: the answers, the plugin calls besides probes and the
records in the end. -/
def SameOutcome (a b : Operation) (sessions : List Session) : Prop :=
  ∃ answer orders answer' orders' records, ∀ s ∈ sessions, s.Completes a answer orders ∧
    s.Completes b answer' orders' ∧ s.broker.store.records = records

/-- What comes of two calls whose steps are taken as some events say, and of the same calls served one
after the other, in either order. -/
def orderings (start : Session) (reply : Operation → Responder) (a b : Operation)
    (events : List Event) : List Session :=
  [start.run events, start.serveAll [(a, reply a), (b, reply b)],
    start.serveAll [(b, reply b), (a, reply a)]]

theorem Interleaves.completes {operations : List Operation} {events : List Event}
    (hevents : Interleaves before.calls.length reply operations events)
    (h : before.Apart before reply) (halike : ProbesAlike reply)
    (hpairs : operations.Pairwise Operation.Independent)
    (hwell : before.SavesWell (before.run events)) {operation : Operation}
    (hmem : operation ∈ operations) :
    (before.run events).Completes operation
      ((before.broker.course (reply operation) operation).answer before.broker.registry
        before.broker.store.records)
      (before.broker.course (reply operation) operation).orders := by
  obtain ⟨i, hi⟩ := List.mem_iff_getElem?.1 hmem
  obtain ⟨result, hcall, hreached⟩ := hevents.reached h halike hpairs hi
  cases hreached with
  | ended orders _ answer =>
    rw [← answer hwell]
    exact ⟨before.calls.length + i, hcall, orders⟩

/-- **Independence.** Two calls that name no id in common come to the same in whatever order their steps
are taken, if the replies of the plugins depend on the service and the request only and all saves
succeed. -/
theorem run_independent (registry : Registry) (gate : ProbeGate) (medium : Medium)
    (records : RecordSet) (files : FileSystem) (plugin : String → Responder) {a b : Operation}
    (hindependent : a.Independent b) {events : List Event}
    (hevents : Interleaves 0 (fun operation => plugin operation.serviceId) [a, b] events ∨
      Interleaves 0 (fun operation => plugin operation.serviceId) [b, a] events)
    (hsaves : ∀ s ∈ orderings (opened ⟨registry, gate, ⟨medium, records, .none⟩⟩ files)
        (fun operation => plugin operation.serviceId) a b events,
      ∀ saved ∈ Turn.attempts s.history, saved = .ok ()) :
    SameOutcome a b (orderings (opened ⟨registry, gate, ⟨medium, records, .none⟩⟩ files)
      (fun operation => plugin operation.serviceId) a b events) := by
  let start := opened ⟨registry, gate, ⟨medium, records, .none⟩⟩ files
  let reply : Operation → Responder := fun operation => plugin operation.serviceId
  have hsound : start.Sound := (Regular.of_registry registry gate medium records files).sound
  have hself : start.Apart start reply := Apart.refl hsound (fun _ hturn => nomatch hturn) reply
  have halike : ProbesAlike reply := by
    intro c d hservice
    simp only [reply, hservice]
  have hpairs : [a, b].Pairwise Operation.Independent := List.pairwise_pair.2 hindependent
  -- to serve the calls one after the other is one way to take their steps
  have hfirst := interleaves_servings reply start.calls.length [a, b]
  have hsecond := interleaves_servings reply start.calls.length [b, a]
  have hservings : ∀ s ∈ orderings start reply a b events, ∃ operations later,
      operations.Perm [a, b] ∧ Interleaves start.calls.length reply operations later ∧
        s = start.run later := by
    intro s hs
    simp only [orderings, List.mem_cons, List.not_mem_nil, or_false] at hs
    rcases hs with rfl | rfl | rfl
    · rcases hevents with hevents | hevents
      · exact ⟨[a, b], events, List.Perm.refl _, hevents, rfl⟩
      · exact ⟨[b, a], events, List.Perm.swap a b [], hevents, rfl⟩
    · exact ⟨[a, b], _, List.Perm.refl _, hfirst, serveAll_eq_run start _⟩
    · exact ⟨[b, a], _, List.Perm.swap a b [], hsecond, serveAll_eq_run start _⟩
  let course : Operation → Course := fun operation => start.broker.course (reply operation) operation
  refine ⟨(course a).answer registry records, (course a).orders, (course b).answer registry records,
    (course b).orders, (start.run (servings 0 [(a, reply a), (b, reply b)])).broker.store.records, ?_⟩
  intro s hs
  obtain ⟨operations, later, hperm, hlater, rfl⟩ := hservings s hs
  have hpairs' : operations.Pairwise Operation.Independent :=
    hperm.symm.pairwise hpairs fun {_ _} => Operation.Independent.symm
  have hwell : start.SavesWell (start.run later) := hsaves _ hs
  refine ⟨?_, ?_, ?_⟩
  · exact hlater.completes hself halike hpairs' hwell (hperm.mem_iff.2 List.mem_cons_self)
  · exact hlater.completes hself halike hpairs' hwell
      (hperm.mem_iff.2 (List.mem_cons_of_mem a List.mem_cons_self))
  · exact hfirst.records_eq hself halike hpairs hlater hperm

end Session

/-! ### A provision beside a bind -/

namespace SideBySide

open Installation

/-- The records of an instance. -/
def records : RecordSet :=
  RecordSet.empty.putInstance "j" ((details "old").toRecord ⟨"old", ⟨"old", 0, .empty⟩⟩)

/-- Makes another instance. -/
def provision : Operation := .provision "i" (details "new")

/-- Binds the instance that is there. -/
def bind : Operation := .bind "j" "b" ⟨"svc", "plan", "app", none, none⟩

/-- Both calls come in before the plugin has answered a probe. -/
def events : List Event :=
  [.arrival provision, .arrival bind, .answer 1 plugin, .answer 0 plugin, .answer 0 plugin,
    .answer 1 plugin]

/-- The broker before the calls come in. -/
def start : Session := .opened ⟨registry, .empty, ⟨.memory, records, .none⟩⟩ .empty

theorem independent_calls : provision.Independent bind :=
  ⟨by decide, fun _ hid => nomatch hid⟩

theorem interleaves_events :
    Session.Interleaves 0 (fun _ => plugin) [provision, bind] events := by
  refine ⟨rfl, ?_, ?_⟩
  · intro number responder hmem
    refine ⟨Nat.zero_le _, ?_⟩
    intro operation _
    simp only [events, List.mem_cons, reduceCtorEq, Event.answer.injEq, List.not_mem_nil,
      false_or, or_false] at hmem
    rcases hmem with ⟨-, rfl⟩ | ⟨-, rfl⟩ | ⟨-, rfl⟩ | ⟨-, rfl⟩ <;> rfl
  · intro i operation hoperation
    match i with
    | 0 =>
      obtain rfl : provision = operation := Option.some.inj hoperation
      exact ⟨[], _, rfl, rfl, by decide⟩
    | 1 =>
      obtain rfl : bind = operation := Option.some.inj hoperation
      exact ⟨[.arrival provision], _, rfl, rfl, by decide⟩
    | i + 2 => cases hoperation

theorem saved_orderings : ∀ s ∈ Session.orderings start (fun _ => plugin) provision bind events,
    ∀ saved ∈ Turn.attempts s.history, saved = .ok () := by
  have hattempts : (Session.orderings start (fun _ => plugin) provision bind events).map
      (fun s => Turn.attempts s.history) = [[.ok (), .ok ()], [.ok (), .ok ()], [.ok (), .ok ()]] := rfl
  intro s hs saved hsaved
  have hmem := List.mem_map_of_mem (f := fun s => Turn.attempts s.history) hs
  rw [hattempts] at hmem
  simp only [List.mem_cons, List.not_mem_nil, or_false, or_self] at hmem
  rw [hmem] at hsaved
  simpa using hsaved

/-- The two calls come to the same side by side and one after the other. -/
theorem sameOutcome_calls : Session.SameOutcome provision bind
    (Session.orderings start (fun _ => plugin) provision bind events) :=
  Session.run_independent registry .empty .memory records .empty (fun _ => plugin) independent_calls
    (.inl interleaves_events) saved_orderings

end SideBySide

end VolumeBroker
