import Mathlib.Data.List.Induction
import VolumeBroker.Proofs.Broker.Lookups
import VolumeBroker.Proofs.Session.Durability
import VolumeBroker.Proofs.Session.Exchange
/-!
# The probe gate

A service has passed the gate exactly if one of its probes has been answered well, and everything else
about the gate follows from that. Nothing but a probe is sent to the plugin of a service, and no record
is touched for it, before such an answer; no call probes a service behind one; and since only a service
with an entry in the registry can be probed, no look-up behind the gate fails. `Turn.Guarded` says so of
one turn, and `Session.run_guarded` of whole sessions.

How often a service is probed depends on how its first calls overlap. If calls do not overlap at all
(`Session.OneByOne`) then each failure costs one probe, and one more is made at most. The count is
carried through a session by `Session.Tallied`: every probe has failed, has opened the gate, or is still
under way, and of the last two there is one at most.
-/

namespace VolumeBroker

/-- A probe has been answered well, whether the plugin says that it is ready or not. -/
def Answered.passes : Answered → Bool
  | ⟨.probe, .ok _⟩ => true
  | _ => false

/-- A probe has failed. -/
def Answered.fails : Answered → Bool
  | ⟨.probe, .error _⟩ => true
  | _ => false

/-- An operation waits for a probe. -/
def Progress.probing : Progress → Bool
  | waiting _ w => w.call.isProbe
  | finished _ => false

section Counts

variable {α : Type} (p : α → Bool) (l : List α)

theorem countP_concat (a : α) : (l ++ [a]).countP p = l.countP p + (p a).toNat := by
  rw [List.countP_append, List.countP_singleton]
  cases p a <;> rfl

/-- Of an element that is replaced, the old one counts no longer and the new one does. -/
theorem countP_set_add {i : Nat} {old : α} (h : l[i]? = some old) (new : α) :
    (l.set i new).countP p + (p old).toNat = l.countP p + (p new).toNat := by
  obtain ⟨hi, rfl⟩ := List.getElem?_eq_some_iff.1 h
  have hone (b : Bool) : (if b = true then 1 else 0) = b.toNat := by cases b <;> rfl
  have hcounted : (p l[i]).toNat ≤ l.countP p := by
    cases hold : p l[i] with
    | false => exact Nat.zero_le _
    | true => exact List.countP_pos_iff.2 ⟨l[i], List.getElem_mem hi, hold⟩
  rw [List.countP_set hi, hone, hone]
  omega

end Counts

/-! ### Steps and the gate -/

namespace Broker

variable (b : Broker) (files : FileSystem)

theorem gate_await (w : Waiting) : (b.await files w).broker.gate = b.gate := by
  unfold await
  split <;> rfl

theorem gate_commit (outcome : Except BrokerError (Store × Reply)) :
    (b.commit files outcome).broker.gate = b.gate := by
  unfold commit
  split <;> rfl

theorem probing_commit (outcome : Except BrokerError (Store × Reply)) :
    (b.commit files outcome).progress.probing = false := by
  unfold commit
  split <;> rfl

theorem gate_proceed (operation : Operation) : (b.proceed files operation).broker.gate = b.gate := by
  have hproceeds := b.proceed_proceeds files operation
  generalize b.proceed files operation = step at hproceeds ⊢
  cases hproceeds with
  | invalid => rfl
  | creates => exact gate_await b files _
  | unfit => rfl
  | deletes => exact gate_await b files _
  | commits => exact gate_commit b files _

theorem gate_begin (operation : Operation) : (b.begin files operation).broker.gate = b.gate := by
  unfold begin
  split
  · exact gate_proceed b files operation
  · exact gate_await b files _

/-- Only a probe that is answered well opens the gate. -/
theorem gate_resume {w : Waiting} {operation : Operation} (hw : w.Serves operation)
    (answer : Except PluginError w.call.Response) :
    (b.resume files w answer).broker.gate
      = if Answered.passes ⟨w.call, answer⟩ = true then b.gate.mark operation.serviceId
        else b.gate := by
  -- only a probe that succeeds marks the gate
  cases hw with
  | probe =>
    cases answer with
    | error e => rfl
    | ok response => exact gate_proceed { b with gate := b.gate.mark operation.serviceId } files operation
  | creation =>
    cases answer with
    | error e => rfl
    | ok response => exact gate_commit b files _
  | deletion =>
    cases answer with
    | error e => rfl
    | ok response => exact gate_commit b files _

end Broker

namespace Turn

/-- A probe of a service has been answered well. -/
def passes (id : String) (turn : Turn) : Bool :=
  turn.operation.serviceId == id && turn.answered.any Answered.passes

/-- A probe of a service has failed. -/
def fails (id : String) (turn : Turn) : Bool :=
  turn.operation.serviceId == id && turn.answered.any Answered.fails

/-- A service is probed. -/
def probes (id : String) (turn : Turn) : Bool :=
  turn.operation.serviceId == id && turn.progress.probing

/-- Some probe of a service has been answered well. -/
def hasPassed (id : String) (history : List Turn) : Bool := history.any (passes id)

/-- How many probes of a service have failed before one has been answered well. -/
def failures (id : String) (history : List Turn) : Nat :=
  (history.takeWhile fun turn => !turn.passes id).countP (fails id)

/-- A turn does something for its service other than to probe it: it sends another call to the plugin,
or it runs a change of the records. -/
def Uses (turn : Turn) : Prop :=
  (∃ address w, turn.progress = .waiting address w ∧ w.call.isProbe = false) ∨ turn.change ≠ none

/-- What the gate and the registry make sure of. -/
structure Guarded (r : Registry) (before : List Turn) (turn : Turn) : Prop where
  /-- A service is served only behind a good answer to one of its probes. -/
  behind : turn.Uses → hasPassed turn.operation.serviceId (before ++ [turn]) = true
  /-- A service is probed only in the first step of a call, and only as long as there is none. -/
  probes : turn.progress.probing = true →
    turn.answered = none ∧ hasPassed turn.operation.serviceId before = false
  /-- The registry refuses only the first look-up of a call, before the gate, because the service has
  no entry. -/
  unknown : ∀ e, turn.progress = .finished (.error (.registry e)) →
    turn.answered = none ∧ turn.change = none ∧
      hasPassed turn.operation.serviceId before = false ∧ r.entry turn.operation.serviceId = .error e

variable {id : String} {before history : List Turn} {turn : Turn}

theorem hasPassed_concat :
    hasPassed id (history ++ [turn]) = (hasPassed id history || turn.passes id) := by
  unfold hasPassed
  rw [List.any_append, List.any_cons, List.any_nil, Bool.or_false]

theorem hasPassed_append_left (h : hasPassed id before = true) (after : List Turn) :
    hasPassed id (before ++ after) = true := by
  unfold hasPassed at h ⊢
  rw [List.any_append, h, Bool.true_or]

theorem passes_of_probe {response : ProbeResponse}
    (h : turn.answered = some ⟨.probe, .ok response⟩) : turn.passes turn.operation.serviceId = true := by
  unfold passes
  rw [h, beq_self_eq_true]
  rfl

theorem passes_of_first (h : turn.answered = none) : turn.passes id = false := by
  unfold passes
  rw [h]
  exact Bool.and_false _

theorem fails_of_first (h : turn.answered = none) : turn.fails id = false := by
  unfold fails
  rw [h]
  exact Bool.and_false _

/-- An answer to a probe is a good one or a failure. -/
theorem fails_of_passes (h : turn.passes id = true) : turn.fails id = false := by
  unfold passes at h
  unfold fails
  obtain ⟨hservice, hpasses⟩ := Bool.and_eq_true_iff.1 h
  cases hanswered : turn.answered with
  | none =>
    rw [hanswered] at hpasses
    cases hpasses
  | some answered =>
    rw [hanswered] at hpasses
    obtain ⟨call, outcome⟩ := answered
    cases call with
    | probe =>
      cases outcome with
      | error e => cases hpasses
      | ok response => exact Bool.and_false _
    | createVolume request => cases hpasses
    | deleteVolume request => cases hpasses

/-- A failure counts as long as no probe has been answered well. -/
theorem failures_concat : failures id (history ++ [turn])
    = failures id history + if hasPassed id history = true then 0 else (turn.fails id).toNat := by
  unfold failures
  by_cases hpassed : hasPassed id history = true
  · rw [if_pos hpassed]
    -- the count has stopped at an earlier turn
    have hstopped : (history.takeWhile fun turn => !turn.passes id).length ≠ history.length := by
      intro hlength
      have hall := List.takeWhile_eq_self_iff.1 ((List.takeWhile_prefix _).eq_of_length hlength)
      obtain ⟨earlier, hmem, hpasses⟩ := List.any_eq_true.1 hpassed
      have hnot := hall earlier hmem
      rw [hpasses] at hnot
      cases hnot
    rw [List.takeWhile_append, if_neg hstopped, Nat.add_zero]
  · rw [if_neg hpassed]
    have hall : ∀ earlier ∈ history, (!earlier.passes id) = true := by
      intro earlier hmem
      rw [Bool.not_eq_true']
      refine Bool.eq_false_iff.2 fun hpasses => hpassed ?_
      exact List.any_eq_true.2 ⟨earlier, hmem, hpasses⟩
    rw [List.takeWhile_append_of_pos hall, List.takeWhile_eq_self_iff.2 hall, List.countP_append]
    cases hpasses : turn.passes id with
    | true =>
      rw [fails_of_passes hpasses, List.takeWhile_cons, hpasses]
      rfl
    | false =>
      rw [List.takeWhile_cons, hpasses]
      cases hfails : turn.fails id <;> simp [hfails]

end Turn

/-- A call waits for a probe of a service. -/
def Call.probes (id : String) (call : Call) : Bool :=
  call.operation.serviceId == id && call.progress.probing

/-! ### One turn -/

namespace Session

variable {r : Registry} {initial : RecordSet} {s s' : Session} {turn : Turn}

/-- Only a good answer to a probe opens the gate. -/
theorem Takes.gate (hs : s.Sound) (h : s.Takes s' turn) : s'.broker.gate
    = if turn.answered.any Answered.passes = true then s.broker.gate.mark turn.operation.serviceId
      else s.broker.gate := by
  cases h.advances with
  | opens _ answered _ _ broker _ =>
    rw [broker, answered]
    exact Broker.gate_begin s.broker s.files turn.operation
  | @continues address w answer call answered _ _ broker _ =>
    have hw : w.Serves turn.operation := hs.serves _ (List.mem_of_getElem? call) address w rfl
    rw [broker, answered]
    exact Broker.gate_resume s.broker s.files hw answer

theorem Takes.isPassed (hs : s.Sound) (h : s.Takes s' turn) (id : String) :
    s'.broker.gate.isPassed id = (s.broker.gate.isPassed id || turn.passes id) := by
  rw [h.gate hs]
  unfold Turn.passes
  split
  · next hpasses =>
    have hservice : (turn.operation.serviceId == id) = decide (id = turn.operation.serviceId) := by
      rw [Bool.eq_iff_iff, beq_iff_eq, decide_eq_true_iff]
      exact eq_comm
    rw [ProbeGate.isPassed_mark, hpasses, Bool.and_true, hservice, Bool.or_comm]
  · next hpasses =>
    rw [Bool.eq_false_iff.2 hpasses, Bool.and_false, Bool.or_false]

/-- If a call has been left waiting for a probe then its service has not passed the gate yet. -/
theorem Takes.isPassed_of_probing (hs : s.Sound) (h : s.Takes s' turn)
    (hprobing : turn.progress.probing = true) :
    s'.broker.gate.isPassed turn.operation.serviceId = false := by
  -- what is asked for is a probe, and that is due only while the gate is closed
  cases hprogress : turn.progress with
  | waiting address w =>
    rw [hprogress] at hprobing
    have hprobe : w.call.isProbe = true := hprobing
    rw [← (h.serves address w hprogress).serviceId, (h.due hs hprogress).gate, hprobe]
    rfl
  | finished result =>
    rw [hprogress] at hprobing
    cases hprobing

/-- A call is left waiting for a probe only by its first step. -/
theorem Takes.answered_of_probing (hs : s.Sound) (h : s.Takes s' turn)
    (hprobing : turn.progress.probing = true) : turn.answered = none := by
  have hclosed := h.isPassed_of_probing hs hprobing
  rw [h.isPassed hs, Bool.or_eq_false_iff] at hclosed
  cases h.advances with
  | opens _ answered _ _ _ _ => exact answered
  | @continues _ w answer _ answered _ _ _ progress =>
    rw [progress] at hprobing
    cases w with
    | probe operation =>
      cases answer with
      | error e => cases hprobing
      | ok response =>
        -- the answer has opened the gate
        have hpasses := Turn.passes_of_probe answered
        exact absurd hpasses (Bool.eq_false_iff.1 hclosed.2)
    | creation id details request =>
      cases answer with
      | error e => cases hprobing
      | ok response =>
        exact absurd hprobing (Bool.eq_false_iff.1 (Broker.probing_commit s.broker s.files _))
    | deletion id details volumeId =>
      cases answer with
      | error e => cases hprobing
      | ok response =>
        exact absurd hprobing (Bool.eq_false_iff.1 (Broker.probing_commit s.broker s.files _))

/-- The registry refuses a turn only if the service has no entry. -/
theorem Takes.unknown (hs : s.Regular r initial) (h : s.Takes s' turn) {e : RegistryError}
    (hend : turn.progress = .finished (.error (.registry e))) :
    r.entry turn.operation.serviceId = .error e := by
  have hexplained : turn.Explained r s.broker.store.records := h.explained hs.sound hs.registry
  unfold Turn.Explained at hexplained
  -- the error comes up before any change is run or out of a change
  split at hexplained
  · next hchange =>
    obtain rfl := hs.registry
    cases h.advances with
    | opens _ _ change _ _ progress =>
      rw [progress] at hend
      unfold Broker.begin at hend
      rw [hchange] at change
      unfold Broker.opening? at change
      split at hend
      · next hgate =>
        rw [if_pos hgate] at change
        exact Broker.entry_of_proceed change.symm hend
      · exact Broker.entry_of_await hend
    | @continues _ w answer call _ change _ _ progress =>
      have hw : w.Serves turn.operation := hs.sound.serves _ (List.mem_of_getElem? call) _ w rfl
      rw [progress] at hend
      rw [hchange] at change
      generalize turn.operation = operation at hw ⊢
      cases hw with
      | probe =>
        cases answer with
        | error e => cases hend
        | ok response =>
          let passed : Broker := { s.broker with gate := s.broker.gate.mark operation.serviceId }
          exact @Broker.entry_of_proceed passed s.files e operation change.symm hend
      -- a call that the plugin has served runs a change
      | creation =>
        cases answer with
        | error e => cases hend
        | ok response => cases change
      | deletion =>
        cases answer with
        | error e => cases hend
        | ok response => cases change
  · next c hchange =>
    obtain ⟨hof, -, saved, result, -, hprogress, hsettles⟩ := hexplained
    obtain rfl : result = .error (.registry e) := Progress.finished.inj (hprogress.symm.trans hend)
    generalize hanswer : (c.apply r s.broker.store.records).2 = answer at hsettles
    cases hsettles with
    | refused =>
      obtain ⟨instanceId, bindingId, details, rfl, hentry⟩ := Registry.blames_apply hanswer
      rw [hof.of_putBinding]
      exact hentry
    | unsaved reply hfailure => cases hfailure

/-! ### The gate and the registry -/

/-- Only services that are registered have passed the gate or are called. -/
structure Gated (s : Session) : Prop where
  sound : s.Sound
  passed : ∀ id, s.broker.gate.isPassed id = true →
    ∃ address, s.broker.registry.address id = .ok address
  waiting : ∀ call ∈ s.calls, ∀ address w, call.progress = .waiting address w →
    s.broker.registry.address call.operation.serviceId = .ok address

theorem Gated.handle (h : s.Gated) (event : Event) : (s.handle event).Gated := by
  rcases handle_cases h.sound event with hidle | ⟨turn, htakes⟩
  · refine ⟨h.sound.handle event, ?_, ?_⟩
    · rw [hidle.gate, hidle.registry]
      exact h.passed
    · rw [hidle.calls, hidle.registry]
      exact h.waiting
  refine ⟨h.sound.handle event, ?_, ?_⟩
  · -- what is open now was open before or has been opened by this turn
    intro id hpassed
    rw [htakes.registry]
    rw [htakes.isPassed h.sound, Bool.or_eq_true] at hpassed
    rcases hpassed with hpassed | hpasses
    · exact h.passed id hpassed
    · obtain ⟨hservice, hanswered⟩ := Bool.and_eq_true_iff.1 hpasses
      obtain rfl := eq_of_beq hservice
      cases htakes.advances with
      | opens _ answered _ _ _ _ =>
        rw [answered] at hanswered
        cases hanswered
      | @continues address w _ call _ _ _ _ _ =>
        -- what has passed was being probed, so it is registered
        exact ⟨address, h.waiting _ (List.mem_of_getElem? call) address w rfl⟩
  · have hturn : ∀ address w, turn.progress = .waiting address w →
        s.broker.registry.address turn.operation.serviceId = .ok address := by
      intro address w hw
      rw [← (htakes.serves address w hw).serviceId, ← htakes.registry]
      exact (htakes.due h.sound hw).address
    intro call hcall
    rw [htakes.registry]
    cases htakes.advances with
    | opens _ _ _ calls _ _ =>
      rw [calls] at hcall
      rcases List.mem_append.1 hcall with hcall | hcall
      · exact h.waiting call hcall
      · rw [List.mem_singleton.1 hcall]
        exact hturn
    | continues _ _ _ calls _ _ =>
      rw [calls] at hcall
      rcases List.mem_or_eq_of_mem_set hcall with hcall | rfl
      · exact h.waiting call hcall
      · exact hturn

/-! ### All turns -/

/-- What carries the induction over the events: the history knows which services have passed. -/
structure Guarding (r : Registry) (initial : RecordSet) (s : Session) : Prop where
  exchanging : s.Exchanging r initial
  gated : s.Gated
  passed : ∀ id, s.broker.gate.isPassed id = Turn.hasPassed id s.history
  turns : Turn.Each (Turn.Guarded r) s.history

/-- If a call waits for anything but a probe then its service has passed. -/
theorem Guarding.isPassed_of_waiting (h : s.Guarding r initial) {n : Nat} {operation : Operation}
    {address : String} {w : Waiting} (hcall : s.calls[n]? = some ⟨operation, .waiting address w⟩)
    (hprobe : w.call.isProbe = false) : s.broker.gate.isPassed operation.serviceId = true := by
  obtain ⟨before, asking, after, hsplit, -, hoperation, hprogress, -⟩ :=
    h.exchanging.regular.serialized.calls n _ hcall
  have hguarded : asking.Guarded r before := h.turns before asking after hsplit
  have hpassed := hguarded.behind (.inl ⟨address, w, hprogress, hprobe⟩)
  rw [hoperation] at hpassed
  rw [h.passed, hsplit, List.append_cons]
  exact Turn.hasPassed_append_left hpassed after

theorem Guarding.passed_of_takes (h : s.Guarding r initial) (htakes : s.Takes s' turn) (id : String) :
    s'.broker.gate.isPassed id = Turn.hasPassed id (s.history ++ [turn]) := by
  rw [htakes.isPassed h.gated.sound, h.passed, Turn.hasPassed_concat]

/-- A turn that uses its service finds that it has passed, or has just heard of it. -/
theorem Guarding.isPassed_of_uses (h : s.Guarding r initial) (htakes : s.Takes s' turn)
    (huses : turn.Uses) : s'.broker.gate.isPassed turn.operation.serviceId = true := by
  have hs := h.gated.sound
  -- a turn uses the plugin by asking for a call other than a probe or by running a change
  rcases huses with ⟨address, w, hw, hprobe⟩ | hchange
  · rw [← (htakes.serves address w hw).serviceId, (htakes.due hs hw).gate, hprobe]
    rfl
  rw [htakes.isPassed hs, Bool.or_eq_true]
  cases htakes.advances with
  | opens _ _ change _ _ _ =>
    refine .inl ?_
    by_contra hclosed
    rw [change] at hchange
    exact hchange (if_neg hclosed)
  | @continues address w answer call answered change _ _ _ =>
    cases w with
    | probe operation =>
      cases answer with
      | error e => exact absurd change hchange
      | ok response => exact .inr (Turn.passes_of_probe answered)
    -- the call behind the gate has waited since the service passed
    | creation => exact .inl (h.isPassed_of_waiting call rfl)
    | deletion => exact .inl (h.isPassed_of_waiting call rfl)

theorem Guarding.guarded (h : s.Guarding r initial) (hs' : s'.Gated) (htakes : s.Takes s' turn) :
    turn.Guarded r s.history := by
  have hs := h.gated.sound
  have hregistry : s.broker.registry = r := h.exchanging.regular.registry
  refine ⟨?_, ?_, ?_⟩
  · intro huses
    rw [← h.passed_of_takes htakes]
    exact h.isPassed_of_uses htakes huses
  · intro hprobing
    have hclosed := htakes.isPassed_of_probing hs hprobing
    rw [htakes.isPassed hs, Bool.or_eq_false_iff, h.passed] at hclosed
    exact ⟨htakes.answered_of_probing hs hprobing, hclosed.1⟩
  · intro e hend
    have hentry := htakes.unknown h.exchanging.regular hend
    -- a service without an entry is neither called nor let through the gate
    have hunregistered : ∀ address, r.address turn.operation.serviceId ≠ .ok address := by
      intro address haddress
      unfold Registry.address at haddress
      rw [hentry] at haddress
      cases haddress
    refine ⟨?_, ?_, ?_, hentry⟩
    · cases htakes.advances with
      | opens _ answered _ _ _ _ => exact answered
      | @continues address w _ call _ _ _ _ _ =>
        have haddress := h.gated.waiting _ (List.mem_of_getElem? call) address w rfl
        rw [hregistry] at haddress
        exact absurd haddress (hunregistered address)
    · by_contra hchange
      obtain ⟨address, haddress⟩ := hs'.passed _ (h.isPassed_of_uses htakes (.inr hchange))
      rw [htakes.registry, hregistry] at haddress
      exact hunregistered address haddress
    · rw [← h.passed]
      refine Bool.eq_false_iff.2 fun hpassed => ?_
      obtain ⟨address, haddress⟩ := h.gated.passed _ hpassed
      rw [hregistry] at haddress
      exact hunregistered address haddress

theorem Guarding.handle (h : s.Guarding r initial) (event : Event) :
    (s.handle event).Guarding r initial := by
  have hgated := h.gated.handle event
  rcases handle_cases h.gated.sound event with hidle | ⟨turn, htakes⟩
  · refine ⟨h.exchanging.handle event, hgated, ?_, ?_⟩
    · rw [hidle.gate, hidle.history]
      exact h.passed
    · rw [hidle.history]
      exact h.turns
  · refine ⟨h.exchanging.handle event, hgated, ?_, ?_⟩
    · rw [htakes.history]
      exact h.passed_of_takes htakes
    · rw [htakes.history]
      exact h.turns.concat (h.guarded hgated htakes)

theorem Guarding.of_opened (registry : Registry) (medium : Medium) (records : RecordSet)
    (files : FileSystem) :
    (opened ⟨registry, .empty, ⟨medium, records, .none⟩⟩ files).Guarding registry records := by
  have hregular := Regular.of_registry registry .empty medium records files
  refine ⟨⟨hregular, Turn.each_nil⟩, ⟨hregular.sound, ?_, fun _ hcall => nomatch hcall⟩,
    fun _ => rfl, Turn.each_nil⟩
  intro id hpassed
  cases hpassed

/-! ### Calls that do not overlap -/

/-- Every call has ended. -/
def Still (s : Session) : Prop := ∀ call ∈ s.calls, ∃ result, call.progress = .finished result

/-- Each call comes in when all others have ended. -/
def OneByOne (s : Session) (events : List Event) : Prop :=
  ∀ earlier operation later, events = earlier ++ .arrival operation :: later → (s.run earlier).Still

/-- Every probe of a service has failed, has opened the gate, or is still under way, and of the last two
there is one at most. -/
structure Tallied (id : String) (s : Session) : Prop where
  count : s.history.countP (Turn.probes id) = Turn.failures id s.history +
    (Turn.hasPassed id s.history).toNat + s.calls.countP (Call.probes id)
  single : (Turn.hasPassed id s.history).toNat + s.calls.countP (Call.probes id) ≤ 1

/-- Only the arrival of a call adds to the calls. -/
theorem exists_of_arrived {event : Event} {call : Call}
    (h : (s.handle event).calls = s.calls ++ [call]) : ∃ operation, event = .arrival operation := by
  have hlength : (s.handle event).calls.length = s.calls.length + 1 := by
    rw [h, List.length_append, List.length_singleton]
  cases event with
  | arrival operation => exact ⟨operation, rfl⟩
  | answer number responder =>
    rcases hnumber : s.calls[number]? with _ | ⟨operation, ⟨address, w⟩ | result⟩
    · simp [Session.handle, hnumber] at hlength
    · simp [Session.handle, hnumber] at hlength
    · simp [Session.handle, hnumber] at hlength
  | saving failure => exact absurd hlength (Nat.ne_of_lt (Nat.lt_succ_self _))
  | locking paths => exact absurd hlength (Nat.ne_of_lt (Nat.lt_succ_self _))

/-- A call that comes in finds no probe under way, and is a probe itself only before a closed gate. -/
theorem Tallied.of_opens {id : String} (h : s.Tallied id) (hstill : s.Still)
    (hguarded : turn.Guarded r s.history) (hanswered : turn.answered = none)
    (hhistory : s'.history = s.history ++ [turn])
    (hcalls : s'.calls = s.calls ++ [⟨turn.operation, turn.progress⟩]) : s'.Tallied id := by
  have hpending : s.calls.countP (Call.probes id) = 0 := by
    refine List.countP_eq_zero.2 fun call hcall => ?_
    obtain ⟨result, hresult⟩ := hstill call hcall
    unfold Call.probes
    rw [hresult]
    simp [Progress.probing]
  have hpasses : turn.passes id = false := Turn.passes_of_first hanswered
  have hfails : turn.fails id = false := Turn.fails_of_first hanswered
  have hclosed : turn.probes id = true → Turn.hasPassed id s.history = false := by
    intro hprobes
    obtain ⟨hservice, hprobing⟩ := Bool.and_eq_true_iff.1 hprobes
    rw [← eq_of_beq hservice]
    exact (hguarded.probes hprobing).2
  have hnew : Call.probes id ⟨turn.operation, turn.progress⟩ = turn.probes id := rfl
  have hcount := h.count
  have hsingle := h.single
  rw [hpending] at hcount hsingle
  refine ⟨?_, ?_⟩
  · rw [hhistory, hcalls, countP_concat, countP_concat, Turn.failures_concat, Turn.hasPassed_concat,
      hpasses, hfails, hnew, hpending, Bool.or_false, Bool.toNat_false, ite_self, hcount]
    omega
  · rw [hhistory, hcalls, countP_concat, Turn.hasPassed_concat, hpasses, hnew, hpending,
      Bool.or_false]
    cases hprobes : turn.probes id with
    | true =>
      rw [hclosed hprobes]
      exact Nat.le_refl 1
    | false => exact hsingle

/-- The answer to a probe is one that was under way, so it is the only one, before a closed gate. -/
theorem Tallied.of_continues {id : String} (h : s.Tallied id)
    {address : String} {w : Waiting} {answer : Except PluginError w.call.Response}
    (hcall : s.calls[turn.call]? = some ⟨turn.operation, .waiting address w⟩)
    (hanswered : turn.answered = some ⟨w.call, answer⟩) (hquiet : turn.progress.probing = false)
    (hhistory : s'.history = s.history ++ [turn])
    (hcalls : s'.calls = s.calls.set turn.call ⟨turn.operation, turn.progress⟩) : s'.Tallied id := by
  -- a probe that was under way has been answered one way or the other
  have hanswer : (Call.probes id ⟨turn.operation, .waiting address w⟩).toNat
      = (turn.passes id).toNat + (turn.fails id).toNat := by
    unfold Call.probes Turn.passes Turn.fails
    rw [hanswered]
    cases turn.operation.serviceId == id with
    | false => rfl
    | true =>
      cases w with
      | probe operation => cases answer <;> rfl
      | creation id details request => cases answer <;> rfl
      | deletion id details volumeId => cases answer <;> rfl
  have hreplaced := countP_set_add (Call.probes id) s.calls hcall ⟨turn.operation, turn.progress⟩
  have hnew : Call.probes id ⟨turn.operation, turn.progress⟩ = false := by
    unfold Call.probes
    rw [hquiet]
    exact Bool.and_false _
  have hsent : turn.probes id = false := hnew
  rw [← hcalls, hnew, hanswer, Bool.toNat_false, Nat.add_zero] at hreplaced
  have hcount := h.count
  have hsingle := h.single
  refine ⟨?_, ?_⟩
  · rw [hhistory, countP_concat, hsent, Turn.failures_concat, Turn.hasPassed_concat]
    cases hpassed : Turn.hasPassed id s.history with
    | true =>
      rw [hpassed, Bool.toNat_true] at hcount hsingle
      simp only [if_true, Bool.true_or, Bool.toNat_true, Bool.toNat_false]
      omega
    | false =>
      rw [hpassed, Bool.toNat_false] at hcount
      simp only [Bool.false_eq_true, if_false, Bool.false_or, Bool.toNat_false]
      omega
  · rw [hhistory, Turn.hasPassed_concat]
    cases hpassed : Turn.hasPassed id s.history with
    | true =>
      rw [hpassed] at hsingle
      rw [Bool.true_or]
      omega
    | false =>
      rw [Bool.false_or]
      omega

theorem Tallied.handle {id : String} (h : s.Tallied id) (hs : s.Guarding r initial) {event : Event}
    (hstill : ∀ operation, event = .arrival operation → s.Still) : (s.handle event).Tallied id := by
  have hsound := hs.gated.sound
  rcases handle_cases hsound event with hidle | ⟨turn, htakes⟩
  · refine ⟨?_, ?_⟩
    · rw [hidle.history, hidle.calls]
      exact h.count
    · rw [hidle.history, hidle.calls]
      exact h.single
  · cases htakes.advances with
    | opens _ answered _ calls _ _ =>
      obtain ⟨operation, harrival⟩ := exists_of_arrived calls
      exact h.of_opens (hstill operation harrival) (hs.guarded (hs.gated.handle event) htakes) answered
        htakes.history calls
    | continues call answered _ calls _ _ =>
      refine h.of_continues call answered ?_ htakes.history calls
      refine Bool.eq_false_iff.2 fun hprobing => ?_
      rw [htakes.answered_of_probing hsound hprobing] at answered
      cases answered

theorem OneByOne.of_concat {events : List Event} {event : Event}
    (h : s.OneByOne (events ++ [event])) :
    s.OneByOne events ∧ ∀ operation, event = .arrival operation → (s.run events).Still := by
  refine ⟨?_, ?_⟩
  · rintro earlier operation later rfl
    refine h earlier operation (later ++ [event]) ?_
    rw [List.append_assoc, List.cons_append]
  · rintro operation rfl
    exact h events operation [] rfl

theorem oneByOne_nil (s : Session) : s.OneByOne [] := by
  intro earlier operation later h
  cases earlier <;> cases h

theorem OneByOne.cons {event : Event} {events : List Event}
    (hstill : ∀ operation, event = .arrival operation → s.Still)
    (h : (s.handle event).OneByOne events) : s.OneByOne (event :: events) := by
  intro earlier operation later hsplit
  cases earlier with
  | nil => exact hstill operation (List.cons.inj hsplit).1
  | cons first earlier =>
    obtain ⟨rfl, hrest⟩ := List.cons.inj hsplit
    exact h earlier operation later hrest

theorem Guarding.run (h : s.Guarding r initial) (events : List Event) :
    (s.run events).Guarding r initial :=
  run_induction h (fun _ event hs => hs.handle event) events

theorem Tallied.run {id : String} (h : s.Tallied id) (hs : s.Guarding r initial)
    {events : List Event} (halone : s.OneByOne events) : (s.run events).Tallied id := by
  induction events using List.reverseRecOn with
  | nil => exact h
  | append_singleton events event ih =>
    obtain ⟨halone, hstill⟩ := halone.of_concat
    rw [run_concat]
    exact (ih halone).handle (hs.run events) hstill

/-! ### Every session -/

/-- A probe has failed: its call ends with the failure, and everything else is left alone. -/
structure Forgives (s s' : Session) (number : Nat) (operation : Operation) (e : PluginError) : Prop where
  broker : s'.broker = s.broker
  files : s'.files = s.files
  attempts : Turn.attempts s'.history = Turn.attempts s.history
  calls : s'.calls = s.calls.set number ⟨operation, .finished (.error (.plugin "probe" e))⟩

theorem forgives {number : Nat} {operation : Operation} {address : String}
    (hcall : s.calls[number]? = some ⟨operation, .waiting address (.probe operation)⟩)
    {responder : Responder} {e : PluginError} (hfailed : responder .probe = .error e) :
    s.Forgives (s.handle (.answer number responder)) number operation e := by
  have hanswer : responder (Waiting.probe operation).call = .error e := hfailed
  simp only [Session.handle, hcall, hanswer]
  refine ⟨rfl, rfl, ?_, rfl⟩
  rw [Turn.attempts_concat]
  exact List.append_nil _

/-- **What the probe gate makes sure of**, for a session and the events behind it. -/
structure Guarded (r : Registry) (start : Session) (events : List Event) : Prop where
  /-- A service has passed exactly if one of its probes has been answered well. -/
  passed : ∀ id, (start.run events).broker.gate.isPassed id
    = Turn.hasPassed id (start.run events).history
  /-- Every plugin call goes to the plugin of the service that its operation names. -/
  addressed : ∀ turn ∈ (start.run events).history, ∀ address w, turn.progress = .waiting address w →
    r.address turn.operation.serviceId = .ok address
  /-- No service is used before, and none is probed after, a good answer to one of its probes. -/
  turns : Turn.Each (Turn.Guarded r) (start.run events).history
  /-- A probe that fails costs its call, and nothing else. -/
  failed : ∀ number operation address responder e,
    (start.run events).calls[number]? = some ⟨operation, .waiting address (.probe operation)⟩ →
      responder .probe = .error e →
        (start.run events).Forgives ((start.run events).handle (.answer number responder)) number
          operation e
  /-- Behind the gate no look-up fails. -/
  registered : ∀ id, (start.run events).broker.gate.isPassed id = true →
    (∃ address, r.address id = .ok address) ∧ ∃ driver, r.driverName id = .ok driver
  /-- If calls do not overlap, each failure before the first good answer costs one probe of a service,
  and there is one more at most. -/
  counted : start.OneByOne events → ∀ id,
    Turn.failures id (start.run events).history ≤ (start.run events).history.countP (Turn.probes id) ∧
      (start.run events).history.countP (Turn.probes id)
        ≤ Turn.failures id (start.run events).history + 1

/-- **The probe gate.** Whatever calls come in, whatever the plugin answers them and in whatever order
their steps are taken, once a broker has started. -/
theorem run_guarded (registry : Registry) (medium : Medium) (records : RecordSet)
    (files : FileSystem) (events : List Event) :
    Guarded registry (opened ⟨registry, .empty, ⟨medium, records, .none⟩⟩ files) events := by
  have hopened := Guarding.of_opened registry medium records files
  have hguarding := hopened.run events
  refine ⟨hguarding.passed, ?_, hguarding.turns, ?_, ?_, ?_⟩
  · intro turn hturn address w hw
    obtain ⟨before, after, hsplit⟩ := List.append_of_mem hturn
    have hexchanges : turn.Exchanges registry before :=
      hguarding.exchanging.turns before turn after hsplit
    exact (hexchanges.asks address w hw).2
  · intro number operation address responder e hcall hfailed
    exact forgives hcall hfailed
  · intro id hpassed
    obtain ⟨address, haddress⟩ := hguarding.gated.passed id hpassed
    rw [hguarding.exchanging.regular.registry] at haddress
    -- address and driver stand in the same entry
    obtain ⟨entry, hentry, -⟩ := exists_of_map_ok haddress
    refine ⟨⟨address, haddress⟩, entry.driverName, ?_⟩
    unfold Registry.driverName
    rw [hentry]
    rfl
  · intro halone id
    have hfirst : Tallied id (opened ⟨registry, .empty, ⟨medium, records, .none⟩⟩ files) :=
      ⟨rfl, Nat.zero_le 1⟩
    obtain ⟨hcount, hsingle⟩ := hfirst.run hopened halone
    omega

end Session

end VolumeBroker
