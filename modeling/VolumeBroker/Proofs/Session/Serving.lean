import VolumeBroker.Proofs.Session.Durability
import VolumeBroker.Proofs.Session.Exchange
/-!
# Calls served one after the other

A call that is served by itself needs two answers of the plugin at most, one to its probe and one to
the call behind the gate (`left_begin`, `left_resume`), so `Session.serve` ends it: an answer too many
is lost. `Session.serveAll` serves calls one after the other. `Session.Stands` follows one call that
has come in behind all others through its steps.

Of the plugin calls in a history the orders are those that are no probes (`Turn.orders`); they are
what the plugins are asked to do.
-/

namespace VolumeBroker

/-! ### How many answers a call needs -/

/-- The plugin calls that an operation can make from here on. -/
def Waiting.left : Waiting → Nat
  | probe _ => 2
  | creation _ _ _ => 1
  | deletion _ _ _ => 1

/-- The answers that an operation may still need. -/
def Progress.left : Progress → Nat
  | waiting _ w => w.left
  | finished _ => 0

theorem Progress.finished_of_left {progress : Progress} (h : progress.left ≤ 0) :
    ∃ result, progress = .finished result := by
  cases progress with
  | waiting address w =>
    cases w with
    | probe operation => exact absurd h (Nat.not_succ_le_zero _)
    | creation id details request => exact absurd h (Nat.not_succ_le_zero _)
    | deletion id details volumeId => exact absurd h (Nat.not_succ_le_zero _)
  | finished result => exact ⟨result, rfl⟩

namespace Broker

variable (b : Broker) (files : FileSystem)

theorem left_await (w : Waiting) : (b.await files w).progress.left ≤ w.left := by
  unfold await
  split
  · exact Nat.zero_le _
  · exact Nat.le_refl _

theorem left_commit (outcome : Except BrokerError (Store × Reply)) :
    (b.commit files outcome).progress.left = 0 := by
  unfold commit
  split <;> rfl

/-- Behind the gate an operation makes one plugin call at most. -/
theorem left_proceed (operation : Operation) : (b.proceed files operation).progress.left ≤ 1 := by
  have hproceeds := b.proceed_proceeds files operation
  generalize b.proceed files operation = step at hproceeds ⊢
  cases hproceeds with
  | invalid => exact Nat.zero_le _
  | creates => exact left_await b files _
  | unfit => exact Nat.zero_le _
  | deletes => exact left_await b files _
  | commits => exact (left_commit b files _).le.trans (Nat.zero_le _)

theorem left_begin (operation : Operation) : (b.begin files operation).progress.left ≤ 2 := by
  unfold begin
  split
  · exact (left_proceed b files operation).trans (by decide)
  · exact left_await b files _

/-- An answer is used up by the step behind it. -/
theorem left_resume (w : Waiting) (answer : Except PluginError w.call.Response) :
    (b.resume files w answer).progress.left + 1 ≤ w.left := by
  -- a probe may lead to one more plugin call, every other answer ends the operation
  cases w with
  | probe operation =>
    cases answer with
    | error e => exact Nat.succ_le_succ (Nat.zero_le _)
    | ok response => exact Nat.succ_le_succ (left_proceed _ files operation)
  | creation id details request =>
    cases answer with
    | error e => exact Nat.le_refl _
    | ok response => exact Nat.succ_le_succ (left_commit b files _).le
  | deletion id details volumeId =>
    cases answer with
    | error e => exact Nat.le_refl _
    | ok response => exact Nat.succ_le_succ (left_commit b files _).le

end Broker

/-! ### Plugin calls in a history -/

/-- The plugin call that an operation waits for, with the address that it went to. -/
def Progress.sent? : Progress → Option (String × PluginCall)
  | waiting address w => some (address, w.call)
  | finished _ => none

namespace Turn

/-- The plugin calls that have been made, the first one first. -/
def sent (history : List Turn) : List (String × PluginCall) :=
  history.filterMap fun turn => turn.progress.sent?

/-- The plugin calls other than probes. -/
def orders (history : List Turn) : List (String × PluginCall) :=
  (sent history).filter fun call => !call.2.isProbe

theorem sent_append (before after : List Turn) : sent (before ++ after) = sent before ++ sent after :=
  List.filterMap_append

theorem orders_append (before after : List Turn) :
    orders (before ++ after) = orders before ++ orders after := by
  unfold orders
  rw [sent_append, List.filter_append]

end Turn

/-! ### One call served by itself -/

namespace Session

/-- Serves a call from its beginning to its end: it needs two answers of the plugin at most, one to
its probe and one to the call behind the gate. -/
def serve (s : Session) (operation : Operation) (responder : Responder) : Session :=
  s.run [.arrival operation, .answer s.calls.length responder, .answer s.calls.length responder]

/-- Serves calls one after the other, each with its own replies of the plugin. -/
def serveAll (s : Session) (calls : List (Operation × Responder)) : Session :=
  calls.foldl (fun s call => s.serve call.1 call.2) s

theorem serveAll_append (s : Session) (calls later : List (Operation × Responder)) :
    s.serveAll (calls ++ later) = (s.serveAll calls).serveAll later := List.foldl_append

/-- What holds of a session and survives every event holds after calls have been served. -/
theorem serveAll_induction {P : Session → Prop} {s : Session} (initial : P s)
    (step : ∀ s event, P s → P (s.handle event)) (calls : List (Operation × Responder)) :
    P (s.serveAll calls) := by
  unfold serveAll
  induction calls generalizing s with
  | nil => exact initial
  | cons call calls ih => exact ih (run_induction initial step _)

/-- Where one call stands that has come in behind all others, and what has happened since. -/
structure Stands (before s : Session) (operation : Operation) (step : Step) (turns : List Turn) :
    Prop where
  broker : s.broker = step.broker
  files : s.files = step.files
  calls : s.calls = before.calls ++ [⟨operation, step.progress⟩]
  history : s.history = before.history ++ turns

variable {before s : Session} {operation : Operation} {step : Step} {turns : List Turn}

theorem stands_arrival (s : Session) (operation : Operation) :
    s.Stands (s.handle (.arrival operation)) operation (s.broker.begin s.files operation)
      [.of s.calls.length operation none (s.broker.opening? operation)
        (s.broker.begin s.files operation)] :=
  ⟨rfl, rfl, rfl, rfl⟩

/-- A call that waits goes on from the answer. -/
theorem Stands.answer (h : before.Stands s operation step turns) {address : String} {w : Waiting}
    (hw : step.progress = .waiting address w) (responder : Responder) :
    before.Stands (s.handle (.answer before.calls.length responder)) operation
      (step.broker.resume step.files w (responder w.call))
      (turns ++ [.of before.calls.length operation (some ⟨w.call, responder w.call⟩)
        (w.change? (responder w.call))
        (step.broker.resume step.files w (responder w.call))]) := by
  have hcall : s.calls[before.calls.length]? = some ⟨operation, .waiting address w⟩ := by
    rw [h.calls, List.getElem?_concat_length, hw]
  simp only [handle, hcall]
  refine ⟨by rw [h.broker, h.files], by rw [h.broker, h.files], ?_, ?_⟩
  · -- the call stands behind all others, and is the only one that moves
    rw [h.calls, h.broker, h.files, List.set_append_right _ _ (Nat.le_refl _), Nat.sub_self]
    rfl
  · rw [h.history, h.broker, h.files, List.append_assoc]

/-- An answer to a call that has ended is lost. -/
theorem Stands.lost (h : before.Stands s operation step turns) {result : Except BrokerError Reply}
    (hend : step.progress = .finished result) (responder : Responder) :
    s.handle (.answer before.calls.length responder) = s := by
  have hcall : s.calls[before.calls.length]? = some ⟨operation, .finished result⟩ := by
    rw [h.calls, List.getElem?_concat_length, hend]
  simp only [handle, hcall]

/-- No event takes anything out of the history. -/
theorem history_grows (s : Session) (event : Event) : s.history <+: (s.handle event).history := by
  cases event with
  | arrival operation => exact List.prefix_append _ _
  | answer number responder =>
    rcases hnumber : s.calls[number]? with _ | ⟨operation, ⟨address, w⟩ | result⟩
    · simp only [handle, hnumber, List.prefix_rfl]
    · simp only [handle, hnumber, List.prefix_append]
    · simp only [handle, hnumber, List.prefix_rfl]
  | saving failure => exact List.prefix_rfl
  | locking paths => exact List.prefix_rfl

/-- Every attempt to save since some earlier point has succeeded. -/
def SavesWell (before s : Session) : Prop :=
  ∀ saved ∈ Turn.attempts (s.history.drop before.history.length), saved = .ok ()

theorem SavesWell.of_grows {s' : Session} (h : before.SavesWell s')
    (hgrows : s.history <+: s'.history) : before.SavesWell s := by
  intro saved hmem
  refine h saved ?_
  obtain ⟨more, hmore⟩ := hgrows
  unfold Turn.attempts at hmem ⊢
  -- the earlier history begins like the later one
  rw [← hmore, List.drop_append, List.filterMap_append]
  exact List.mem_append_left _ hmem

theorem history_grows_serveAll (s : Session) (calls : List (Operation × Responder)) :
    s.history <+: (s.serveAll calls).history :=
  @serveAll_induction (fun s' => s.history <+: s'.history) s List.prefix_rfl
    (fun s' event h => h.trans (history_grows s' event)) calls

/-- Saves that have succeeded since an earlier point have succeeded since a later one. -/
theorem SavesWell.since {middle : Session} (h : before.SavesWell s)
    (hbefore : before.history <+: middle.history) (hmiddle : middle.history <+: s.history) :
    middle.SavesWell s := by
  obtain ⟨first, hfirst⟩ := hbefore
  obtain ⟨second, hsecond⟩ := hmiddle
  intro saved hmem
  refine h saved ?_
  rw [← hsecond, List.drop_left] at hmem
  -- an attempt behind the middle session is one behind the earlier one too
  rw [← hsecond, ← hfirst, List.append_assoc, List.drop_left]
  unfold Turn.attempts at hmem ⊢
  rw [List.filterMap_append]
  exact List.mem_append_right _ hmem

end Session

end VolumeBroker
