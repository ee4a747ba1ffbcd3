import VolumeBroker.Proofs.Session.Basic
/-!
# One order for all calls

However the calls of a session overlap, the records are at each moment what an atomic map step per
call makes of the initial ones, in the order in which the calls ran their final locked sections. The
main theorem, `Session.run_serialized`, says so of every session:

* the records are the replay of the changes in the history (`Serialized.records`);
* each turn is explained by the records of the turns before it (`Turn.Explained`): a turn with a
  change ends its call with the answer of that change, as `Settles` lets the attempt to save spoil it,
  and a turn without one leaves the records alone and gives no good answer;
* a change is always the one that its operation and the plugin's reply ask for (`Change.Of`);
* a call that has ended takes no more turns (`Serialized.ended`), so it runs at most one change, and
  its answer is that of its last turn (`Serialized.calls`).
-/

namespace VolumeBroker

/-! ### Histories -/

/-- Every turn has a property together with the turns before it. -/
def Turn.Each (P : List Turn → Turn → Prop) (history : List Turn) : Prop :=
  ∀ before turn after, history = before ++ turn :: after → P before turn

/-- The changes of a history, in the order in which they were run. -/
def Turn.changes (history : List Turn) : List Change := history.filterMap Turn.change

namespace Turn

variable {P : List Turn → Turn → Prop} {history : List Turn} {turn : Turn}

theorem each_nil : Each P [] := by
  intro before turn after h
  cases before <;> cases h

/-- A turn that is split off a history with one turn more is that one, or was there before. -/
theorem split_concat {before after : List Turn} {split : Turn}
    (h : history ++ [turn] = before ++ split :: after) :
    (history = before ∧ turn = split ∧ after = []) ∨
      ∃ rest, after = rest ++ [turn] ∧ history = before ++ split :: rest := by
  rcases List.eq_nil_or_concat after with rfl | ⟨rest, last, rfl⟩
  · obtain ⟨hinit, hlast⟩ := List.append_inj' h rfl
    exact .inl ⟨hinit, (List.cons.inj hlast).1, rfl⟩
  · have h' : history ++ [turn] = (before ++ split :: rest) ++ [last] := by
      rw [h, List.append_assoc, List.cons_append, List.concat_eq_append]
    obtain ⟨hinit, hlast⟩ := List.append_inj' h' rfl
    obtain ⟨rfl⟩ := List.cons.inj hlast
    exact .inr ⟨rest, List.concat_eq_append, hinit⟩

theorem Each.concat (h : Each P history) (hturn : P history turn) : Each P (history ++ [turn]) := by
  intro before split after hsplit
  rcases split_concat hsplit with ⟨rfl, rfl, -⟩ | ⟨rest, -, hrest⟩
  · exact hturn
  · exact h before split rest hrest

theorem Each.of_concat (h : Each P (history ++ [turn])) : Each P history := by
  rintro before split after rfl
  refine h before split (after ++ [turn]) ?_
  rw [List.append_assoc, List.cons_append]

@[simp] theorem changes_nil : changes [] = [] := rfl

theorem changes_append (before after : List Turn) :
    changes (before ++ after) = changes before ++ changes after := List.filterMap_append

theorem changes_cons (turn : Turn) (history : List Turn) :
    changes (turn :: history) = turn.change.toList ++ changes history := by
  unfold changes
  rw [List.filterMap_cons]
  cases turn.change <;> rfl

theorem changes_concat (history : List Turn) (turn : Turn) :
    changes (history ++ [turn]) = changes history ++ turn.change.toList := by
  rw [changes_append, changes_cons, changes_nil, List.append_nil]

end Turn

/-! ### What explains a turn -/

/-- The change that an operation and a reply of the plugin ask for. -/
inductive Change.Of : Change → Operation → Option Answered → Prop where
  /-- The instance is put with the volume that its parameters asked for and the plugin made. -/
  | provision {id : String} {details : ProvisionDetails} {request : CreateVolumeRequest}
      (h : Parameters.volumeRequest details.parameters = .ok request)
      (response : CreateVolumeResponse) :
      Of (.putInstance id (details.toRecord ⟨request.name, response.volume⟩))
        (.provision id details) (some ⟨.createVolume request, .ok response⟩)
  /-- The instance is removed once its volume is deleted. -/
  | deprovision (id : String) (details : DeprovisionDetails) (volumeId : String) (response : Unit) :
      Of (.removeInstance id) (.deprovision id details)
        (some ⟨.deleteVolume (.ofVolume volumeId), .ok response⟩)
  /-- The binding is put at once, or once the service has passed the gate. -/
  | bind (instanceId bindingId : String) (details : BindDetails) (answered : Option Answered) :
      Of (.putBinding instanceId bindingId details) (.bind instanceId bindingId details) answered
  /-- The binding is removed at once, or once the service has passed the gate. -/
  | unbind (instanceId bindingId : String) (details : UnbindDetails) (answered : Option Answered) :
      Of (.removeBinding instanceId bindingId) (.unbind instanceId bindingId details) answered

namespace Change.Of

variable {c : Change} {id : String} {operation : Operation} {answered : Option Answered}

theorem of_putInstance {record : InstanceRecord} (h : Of (.putInstance id record) operation answered) :
    ∃ details request response, operation = .provision id details ∧
      answered = some ⟨.createVolume request, .ok response⟩ ∧
      record = details.toRecord ⟨request.name, response.volume⟩ := by
  cases h with
  | provision _ response => exact ⟨_, _, response, rfl, rfl, rfl⟩

theorem of_removeInstance (h : Of (.removeInstance id) operation answered) :
    ∃ details volumeId response, operation = .deprovision id details ∧
      answered = some ⟨.deleteVolume (.ofVolume volumeId), .ok response⟩ := by
  cases h with
  | deprovision _ details volumeId response => exact ⟨details, volumeId, response, rfl, rfl⟩

theorem of_putBinding {bindingId : String} {details : BindDetails}
    (h : Of (.putBinding id bindingId details) operation answered) :
    operation = .bind id bindingId details := by
  cases h with
  | bind => rfl

theorem of_removeBinding {bindingId : String} (h : Of (.removeBinding id bindingId) operation answered) :
    ∃ details, operation = .unbind id bindingId details := by
  cases h with
  | unbind _ _ details => exact ⟨details, rfl⟩

theorem of_deprovision {details : DeprovisionDetails} (h : c.Of (.deprovision id details) answered) :
    c = .removeInstance id := by
  cases h with
  | deprovision => rfl

theorem of_bind {bindingId : String} {details : BindDetails}
    (h : c.Of (.bind id bindingId details) answered) : c = .putBinding id bindingId details := by
  cases h with
  | bind => rfl

end Change.Of

/-- What becomes of an answer by the attempt to save behind it: a failed save turns a good answer,
and only a good one, into a failure of persistence. -/
inductive Settles :
    Except BrokerError Reply → Except StoreError Unit → Except BrokerError Reply → Prop where
  | good (reply : Reply) : Settles (.ok reply) (.ok ()) (.ok reply)
  | refused (e : BrokerError) (saved : Except StoreError Unit) : Settles (.error e) saved (.error e)
  | unsaved (reply : Reply) {e : StoreError} {failure : BrokerError}
      (h : failure = .store "save" e) (code : failure.code = "PersistenceFailure") :
      Settles (.ok reply) (.error e) (.error failure)

/-- A good answer is the one that there was, and the save behind it has succeeded. -/
theorem Settles.of_ok {answer : Except BrokerError Reply} {saved : Except StoreError Unit}
    {reply : Reply} (h : Settles answer saved (.ok reply)) : answer = .ok reply ∧ saved = .ok () := by
  cases h
  exact ⟨rfl, rfl⟩

/-- A turn is explained by the records that it finds. -/
def Turn.Explained (r : Registry) (records : RecordSet) (turn : Turn) : Prop :=
  match turn.change with
  | none => turn.records = records ∧ turn.saved = none ∧
      ∀ reply, turn.progress ≠ .finished (.ok reply)
  | some c => c.Of turn.operation turn.answered ∧ turn.records = (c.apply r records).1 ∧
      ∃ saved result, turn.saved = some saved ∧ turn.progress = .finished result ∧
        Settles (c.apply r records).2 saved result

/-- **One order for all calls.** What every session that began on some records satisfies. -/
structure Session.Serialized (r : Registry) (initial : RecordSet) (s : Session) : Prop where
  /-- The records are the initial ones after all changes so far, one atomic step each. -/
  records : s.broker.store.records = Change.replay r initial (Turn.changes s.history)
  /-- Each turn is explained by the changes before it. -/
  turns : Turn.Each
    (fun before turn => turn.Explained r (Change.replay r initial (Turn.changes before))) s.history
  /-- A call takes a turn only as long as all its turns so far have left it waiting. -/
  ended : Turn.Each (fun before turn => ∀ earlier ∈ before, earlier.call = turn.call →
    ∃ address w, earlier.progress = .waiting address w) s.history
  /-- Every call stands where its last turn has left it. -/
  calls : ∀ n call, s.calls[n]? = some call → ∃ before turn after,
    s.history = before ++ turn :: after ∧ turn.call = n ∧ turn.operation = call.operation ∧
      turn.progress = call.progress ∧ ∀ later ∈ after, later.call ≠ n
  /-- Every turn is one of a call that has come in. -/
  numbered : ∀ turn ∈ s.history, turn.call < s.calls.length

/-! ### One turn -/

theorem Turn.Explained.records_eq {r : Registry} {records : RecordSet} {turn : Turn}
    (h : turn.Explained r records) :
    turn.records = Change.replay r records turn.change.toList := by
  unfold Turn.Explained at h
  cases hc : turn.change with
  | none =>
    rw [hc] at h
    exact h.1
  | some c =>
    rw [hc] at h
    exact h.2.1

theorem Broker.settles (answer : Except BrokerError Reply) (saved : Except StoreError Unit) :
    Settles answer saved (Broker.settle answer saved) := by
  rcases answer with e | reply
  · exact .refused e saved
  · rcases saved with e | ⟨⟩
    · exact .unsaved reply rfl rfl
    · exact .good reply

theorem Operation.change_of {operation : Operation} {c : Change}
    (h : operation.change? = some c) (answered : Option Answered) : c.Of operation answered := by
  cases operation with
  | provision id details => cases h
  | deprovision id details => cases h
  | bind instanceId bindingId details =>
    cases h
    exact .bind instanceId bindingId details answered
  | unbind instanceId bindingId details =>
    cases h
    exact .unbind instanceId bindingId details answered

theorem Broker.opening_of {b : Broker} {operation : Operation} {c : Change}
    (h : b.opening? operation = some c) : c.Of operation none := by
  unfold opening? at h
  split at h
  · exact operation.change_of h none
  · cases h

theorem Waiting.Serves.change_of {w : Waiting} {operation : Operation} (hw : w.Serves operation)
    {answer : Except PluginError w.call.Response} {c : Change} (h : w.change? answer = some c) :
    c.Of operation (some ⟨w.call, answer⟩) := by
  cases hw with
  | probe =>
    cases answer with
    | error e => cases h
    | ok response => exact operation.change_of h _
  -- behind its plugin call the operation runs its change only on a good answer
  | creation hrequest =>
    cases answer with
    | error e => cases h
    | ok response =>
      cases h
      exact .provision hrequest response
  | deletion id details volumeId =>
    cases answer with
    | error e => cases h
    | ok response =>
      cases h
      exact .deprovision id details volumeId response

namespace Session

variable {r : Registry} {initial : RecordSet} {s s' : Session} {turn : Turn}

/-- The change of a turn is the one that its operation and the reply ask for. -/
theorem Takes.change_of (hs : s.Sound) (h : s.Takes s' turn) {c : Change}
    (hc : turn.change = some c) : c.Of turn.operation turn.answered := by
  cases h.advances with
  | opens call answered change calls =>
    rw [answered]
    exact Broker.opening_of (change.symm.trans hc)
  | @continues address w answer call answered change calls =>
    have hw : w.Serves turn.operation := hs.serves _ (List.mem_of_getElem? call) address w rfl
    rw [answered]
    exact hw.change_of (change.symm.trans hc)

/-- A turn is explained by the records that the session has kept until then. -/
theorem Takes.explained (hs : s.Sound) (h : s.Takes s' turn)
    (hregistry : s.broker.registry = r) : turn.Explained r s.broker.store.records := by
  subst hregistry
  obtain ⟨step, hmeets, -, -, hsaved, hrecords, hprogress⟩ := h.step
  unfold Turn.Explained
  split
  · -- no final locked section: neither records nor file are touched
    next hc =>
    rw [hc] at hmeets
    obtain ⟨-, hstore, -, hsave, hunanswered⟩ := hmeets
    exact ⟨by rw [hrecords, hstore], by rw [hsaved, hsave],
      fun reply => by rw [hprogress]; exact hunanswered reply⟩
  · -- the final locked section is one change and one attempt to save
    next c hc =>
    have hof := h.change_of hs hc
    rw [hc] at hmeets
    obtain ⟨-, hstore, -, hsave, hend⟩ := hmeets
    refine ⟨hof, by rw [hrecords, hstore], _, _, by rw [hsaved, hsave], by rw [hprogress, hend], ?_⟩
    exact Broker.settles _ _

/-- Behind a turn the session has the records that the turn says. -/
theorem Takes.records (h : s.Takes s' turn) : s'.broker.store.records = turn.records := by
  obtain ⟨step, -, hbroker, -, -, hrecords, -⟩ := h.step
  rw [hbroker, hrecords]

/-! ### All turns -/

theorem Serialized.of_opened (b : Broker) (files : FileSystem) :
    (opened b files).Serialized b.registry b.store.records where
  records := rfl
  turns := Turn.each_nil
  ended := Turn.each_nil
  calls := fun _ _ h => nomatch h
  numbered := fun _ h => nomatch h

theorem Serialized.idle (h : s.Serialized r initial) (hidle : s.Idles s') :
    s'.Serialized r initial where
  records := by rw [hidle.records, hidle.history, h.records]
  turns := hidle.history ▸ h.turns
  ended := hidle.history ▸ h.ended
  calls := by rw [hidle.calls, hidle.history]; exact h.calls
  numbered := by rw [hidle.calls, hidle.history]; exact h.numbered

/-- The turns before a turn of the same call have all left it waiting. -/
theorem Serialized.ended_of_takes (h : s.Serialized r initial) (htakes : s.Takes s' turn) :
    ∀ earlier ∈ s.history, earlier.call = turn.call →
      ∃ address w, earlier.progress = .waiting address w := by
  intro earlier hmem hcall
  cases htakes.advances with
  | opens call _ _ _ =>
    -- the call is new, so no turn can be one of its
    have := h.numbered earlier hmem
    omega
  | @continues address w _ call _ _ _ =>
    -- the call waits, so its last turn has left it waiting, and so had all before
    obtain ⟨before, last, after, hsplit, hlast, -, hprogress, hlater⟩ := h.calls _ _ call
    rw [hsplit, List.mem_append, List.mem_cons] at hmem
    rcases hmem with hmem | rfl | hmem
    · exact h.ended before last after hsplit earlier hmem (hcall.trans hlast.symm)
    · exact ⟨address, w, hprogress⟩
    · exact absurd hcall (hlater earlier hmem)

/-- The call of a turn stands where the turn has left it, and no other call has moved. -/
theorem Takes.calls_cases (htakes : s.Takes s' turn) {n : Nat} {call : Call}
    (hcall : s'.calls[n]? = some call) :
    (n = turn.call ∧ call = ⟨turn.operation, turn.progress⟩) ∨
      (n ≠ turn.call ∧ s.calls[n]? = some call) := by
  cases htakes.advances with
  | opens number _ _ calls =>
    rw [calls] at hcall
    -- the new call stands behind all others
    by_cases hn : n < s.calls.length
    · rw [List.getElem?_append_left hn] at hcall
      exact .inr ⟨by omega, hcall⟩
    · rw [List.getElem?_append_right (by omega)] at hcall
      obtain ⟨hzero, heq⟩ := List.getElem?_eq_some_iff.1 hcall
      simp only [List.length_cons, List.length_nil] at hzero
      refine .inl ⟨by omega, ?_⟩
      rw [← heq]
      simp
  | continues number _ _ calls =>
    rw [calls] at hcall
    -- the call of the turn is replaced in its place
    by_cases hn : turn.call = n
    · subst hn
      have hlt : turn.call < s.calls.length := (List.getElem?_eq_some_iff.1 number).1
      rw [List.getElem?_set_self hlt] at hcall
      exact .inl ⟨rfl, (Option.some.inj hcall).symm⟩
    · rw [List.getElem?_set_ne hn] at hcall
      exact .inr ⟨Ne.symm hn, hcall⟩

/-- Behind a turn every call still stands where its last turn has left it. -/
theorem Serialized.calls_of_takes (h : s.Serialized r initial) (htakes : s.Takes s' turn) (n : Nat)
    (call : Call) (hcall : s'.calls[n]? = some call) :
    ∃ before last after, s'.history = before ++ last :: after ∧ last.call = n ∧
      last.operation = call.operation ∧ last.progress = call.progress ∧
      ∀ later ∈ after, later.call ≠ n := by
  rw [htakes.history]
  rcases htakes.calls_cases hcall with ⟨rfl, rfl⟩ | ⟨hne, hold⟩
  · exact ⟨s.history, turn, [], rfl, rfl, rfl, rfl, fun _ hmem => nomatch hmem⟩
  · -- the last turn of another call is still its last one
    obtain ⟨before, last, after, hsplit, hlast, hop, hprogress, hlater⟩ := h.calls n call hold
    refine ⟨before, last, after ++ [turn], ?_, hlast, hop, hprogress, ?_⟩
    · rw [hsplit, List.append_assoc, List.cons_append]
    · intro later hmem
      rcases List.mem_append.1 hmem with hmem | hmem
      · exact hlater later hmem
      · rw [List.mem_singleton.1 hmem]
        exact Ne.symm hne

/-- Behind a turn every turn is still one of a call that has come in. -/
theorem Serialized.numbered_of_takes (h : s.Serialized r initial) (htakes : s.Takes s' turn) :
    ∀ old ∈ s'.history, old.call < s'.calls.length := by
  intro old hmem
  rw [htakes.history, List.mem_append, List.mem_singleton] at hmem
  -- a new call has the next number, any other keeps its own
  cases htakes.advances with
  | opens number _ _ calls =>
    rw [calls, List.length_append, List.length_singleton]
    rcases hmem with hmem | rfl
    · exact Nat.lt_succ_of_lt (h.numbered old hmem)
    · omega
  | continues number _ _ calls =>
    rw [calls, List.length_set]
    rcases hmem with hmem | rfl
    · exact h.numbered old hmem
    · exact (List.getElem?_eq_some_iff.1 number).1

theorem Serialized.take (h : s.Serialized r initial) (hs : s.Sound)
    (hregistry : s.broker.registry = r) (htakes : s.Takes s' turn) : s'.Serialized r initial := by
  have hexplained : turn.Explained r s.broker.store.records := htakes.explained hs hregistry
  refine ⟨?_, ?_, ?_, h.calls_of_takes htakes, h.numbered_of_takes htakes⟩
  · rw [htakes.records, htakes.history, Turn.changes_concat, Change.replay_append, ← h.records]
    exact hexplained.records_eq
  · rw [htakes.history]
    exact h.turns.concat (h.records ▸ hexplained)
  · rw [htakes.history]
    exact h.ended.concat (h.ended_of_takes htakes)

/-- What every session that began on some records keeps, whatever happens. -/
structure Regular (r : Registry) (initial : RecordSet) (s : Session) : Prop where
  sound : s.Sound
  registry : s.broker.registry = r
  serialized : s.Serialized r initial

theorem Regular.of_opened {b : Broker} (h : b.store.outage.SparesRecords) (files : FileSystem) :
    (opened b files).Regular b.registry b.store.records :=
  ⟨Sound.initial h files, rfl, Serialized.of_opened b files⟩

theorem Regular.of_registry (registry : Registry) (gate : ProbeGate) (medium : Medium)
    (records : RecordSet) (files : FileSystem) :
    (opened ⟨registry, gate, ⟨medium, records, .none⟩⟩ files).Regular registry records :=
  @Regular.of_opened ⟨registry, gate, ⟨medium, records, .none⟩⟩ Outage.sparesRecords_none files

theorem Regular.handle (h : s.Regular r initial) (event : Event) :
    (s.handle event).Regular r initial := by
  rcases handle_cases h.sound event with hidle | ⟨turn, htakes⟩
  · exact ⟨h.sound.handle event, hidle.registry.trans h.registry, h.serialized.idle hidle⟩
  · exact ⟨h.sound.handle event, htakes.registry.trans h.registry,
      h.serialized.take h.sound h.registry htakes⟩

theorem Regular.run (h : s.Regular r initial) (events : List Event) :
    (s.run events).Regular r initial :=
  run_induction h (fun _ event hs => hs.handle event) events

/-! ### A history taken apart -/

section Split

variable {before after : List Turn}

/-- What explains a turn with a change. -/
theorem Serialized.explained (h : s.Serialized r initial)
    (hsplit : s.history = before ++ turn :: after) {c : Change} (hchange : turn.change = some c) :
    c.Of turn.operation turn.answered ∧
      turn.records = (c.apply r (Change.replay r initial (Turn.changes before))).1 ∧
      ∃ saved result, turn.saved = some saved ∧ turn.progress = .finished result ∧
        Settles (c.apply r (Change.replay r initial (Turn.changes before))).2 saved result := by
  have hexplained : turn.Explained r (Change.replay r initial (Turn.changes before)) :=
    h.turns before turn after hsplit
  unfold Turn.Explained at hexplained
  rw [hchange] at hexplained
  exact hexplained

/-- A turn without a change leaves the records alone and gives no good answer. -/
theorem Serialized.unchanged (h : s.Serialized r initial)
    (hsplit : s.history = before ++ turn :: after) (hchange : turn.change = none) :
    turn.records = Change.replay r initial (Turn.changes before) ∧
      ∀ reply, turn.progress ≠ .finished (.ok reply) := by
  have hexplained : turn.Explained r (Change.replay r initial (Turn.changes before)) :=
    h.turns before turn after hsplit
  unfold Turn.Explained at hexplained
  rw [hchange] at hexplained
  exact ⟨hexplained.1, hexplained.2.2⟩

/-- A good answer is that of a change, which has been saved. -/
theorem Serialized.changed (h : s.Serialized r initial)
    (hsplit : s.history = before ++ turn :: after) {reply : Reply}
    (hok : turn.progress = .finished (.ok reply)) :
    ∃ c : Change, turn.change = some c ∧ c.Of turn.operation turn.answered ∧
      turn.records = (c.apply r (Change.replay r initial (Turn.changes before))).1 ∧
      (c.apply r (Change.replay r initial (Turn.changes before))).2 = .ok reply ∧
      turn.saved = some (.ok ()) := by
  cases hchange : turn.change with
  | none => exact absurd hok ((h.unchanged hsplit hchange).2 reply)
  | some c =>
    obtain ⟨hof, hrecords, saved, result, hsaved, hend, hsettles⟩ := h.explained hsplit hchange
    obtain rfl : result = .ok reply := Progress.finished.inj (hend.symm.trans hok)
    obtain ⟨hanswer, rfl⟩ := hsettles.of_ok
    exact ⟨c, rfl, hof, hrecords, hanswer, hsaved⟩

/-- The records behind some turns are made from those that the first of them has left. -/
theorem Serialized.replay_behind (h : s.Serialized r initial)
    (hsplit : s.history = before ++ turn :: after) (middle : List Turn) :
    Change.replay r initial (Turn.changes (before ++ turn :: middle))
      = Change.replay r turn.records (Turn.changes middle) := by
  have hexplained : turn.Explained r (Change.replay r initial (Turn.changes before)) :=
    h.turns before turn after hsplit
  rw [Turn.changes_append, Turn.changes_cons, Change.replay_append, Change.replay_append,
    hexplained.records_eq]

end Split

/-- **Every session is serialized.** Whatever calls come in, whatever the plugin answers them, in
whatever order their steps are taken and whichever saves fail, the records and the answers are those
of one atomic step per call, in the order of the final locked sections. -/
theorem run_serialized (registry : Registry) (gate : ProbeGate) (medium : Medium) (records : RecordSet)
    (files : FileSystem) (events : List Event) :
    ((opened ⟨registry, gate, ⟨medium, records, .none⟩⟩ files).run events).Serialized
      registry records := by
  let b : Broker := ⟨registry, gate, ⟨medium, records, .none⟩⟩
  have hopened : (opened b files).Regular registry records :=
    @Regular.of_opened b Outage.sparesRecords_none files
  exact (hopened.run events).serialized

end Session

end VolumeBroker
