import VolumeBroker.Proofs.Session.Change
/-!
# Calls that overlap

A `Session` is a broker together with the files, all calls that have come in so far, and the history
of the steps that they took. It moves by an `Event`: a call comes in and takes its first step, the
plugin answers a waiting call, which takes its next one, or the surroundings begin or cease to make
saves fail. A list of events is therefore one interleaving of the calls at their plugin calls, and
every interleaving is such a list.

The history is what the properties of whole runs speak of. A `Turn` keeps what one step did: the
answer it went on from, the change it ran if it reached the final locked section, what came of its
attempt to save, the records behind it, and where it left the call.

`begin_meets` and `resume_meets` say once what a step can do: it stops short of the records
(`Step.Spares`), or it runs one change and attempts one save (`Step.Performs`). Which of the two it is
behind the gate, and for what reason, is spelt out by `Broker.Proceeds`.
-/

namespace VolumeBroker

/-! ### Steps -/

/-- A step that touches neither records nor files. It leaves the call waiting or ended by an error. -/
structure Step.Spares (step : Step) (b : Broker) (fs : FileSystem) : Prop where
  registry : step.broker.registry = b.registry
  store : step.broker.store = b.store
  files : step.files = fs
  saved : step.saved = none
  unanswered : ∀ reply, step.progress ≠ .finished (.ok reply)

/-- A step that runs a change, attempts one save of what came of it, and ends the call. -/
structure Step.Performs (step : Step) (b : Broker) (fs : FileSystem) (c : Change) : Prop where
  registry : step.broker.registry = b.registry
  store : step.broker.store
    = { b.store with records := (c.apply b.registry b.store.records).1 }
  files : step.files = (step.broker.store.save fs).1
  saved : step.saved = some (step.broker.store.save fs).2
  progress : step.progress = .finished
    (Broker.settle (c.apply b.registry b.store.records).2 (step.broker.store.save fs).2)

/-- What a step does: it runs a change, or there is none for it to run. -/
def Step.Meets (step : Step) (b : Broker) (fs : FileSystem) : Option Change → Prop
  | none => step.Spares b fs
  | some c => step.Performs b fs c

theorem Step.Meets.registry {step : Step} {b : Broker} {fs : FileSystem} {c : Option Change}
    (h : step.Meets b fs c) : step.broker.registry = b.registry := by
  cases c with
  | none => exact Spares.registry h
  | some c => exact Performs.registry h

theorem Step.Meets.medium {step : Step} {b : Broker} {fs : FileSystem} {c : Option Change}
    (h : step.Meets b fs c) : step.broker.store.medium = b.store.medium := by
  cases c with
  | none => rw [Spares.store h]
  | some c => rw [Performs.store h]

theorem Step.Meets.outage {step : Step} {b : Broker} {fs : FileSystem} {c : Option Change}
    (h : step.Meets b fs c) : step.broker.store.outage = b.store.outage := by
  cases c with
  | none => rw [Spares.store h]
  | some c => rw [Performs.store h]

/-- The change that an operation runs once its service has passed the gate, without a plugin call. -/
def Operation.change? : Operation → Option Change
  | .provision _ _ => none
  | .deprovision _ _ => none
  | .bind instanceId bindingId details => some (.putBinding instanceId bindingId details)
  | .unbind instanceId bindingId _ => some (.removeBinding instanceId bindingId)

/-- The change that an operation runs in its first step. -/
def Broker.opening? (b : Broker) (operation : Operation) : Option Change :=
  if b.gate.isPassed operation.serviceId then operation.change? else none

/-- The change that an operation runs when its plugin call has been answered. -/
def Waiting.change? (w : Waiting) (answer : Except PluginError w.call.Response) : Option Change :=
  match w, answer with
  | .probe _, .error _ => none
  | .probe operation, .ok _ => operation.change?
  | .creation _ _ _, .error _ => none
  | .creation id details request, .ok response =>
    some (.putInstance id (details.toRecord ⟨request.name, response.volume⟩))
  | .deletion _ _ _, .error _ => none
  | .deletion id _ _, .ok _ => some (.removeInstance id)

/-- What an operation waits for belongs to the operation: a probe of its service, the volume that its
parameters ask for, or the deletion of a volume for its instance. -/
inductive Waiting.Serves : Waiting → Operation → Prop where
  | probe (operation : Operation) : Waiting.Serves (.probe operation) operation
  | creation {id : String} {details : ProvisionDetails} {request : CreateVolumeRequest}
      (h : Parameters.volumeRequest details.parameters = .ok request) :
      Waiting.Serves (.creation id details request) (.provision id details)
  | deletion (id : String) (details : DeprovisionDetails) (volumeId : String) :
      Waiting.Serves (.deletion id details volumeId) (.deprovision id details)

/-- A call that waits is waiting for what belongs to its operation. -/
def Progress.Serves (progress : Progress) (operation : Operation) : Prop :=
  ∀ address w, progress = .waiting address w → w.Serves operation

theorem Progress.serves_finished (result : Except BrokerError Reply) (operation : Operation) :
    (Progress.finished result).Serves operation := fun _ _ h => nomatch h

/-- A step that runs a change leaves nothing to wait for. -/
theorem Step.Performs.serves {step : Step} {b : Broker} {fs : FileSystem} {c : Change}
    (h : step.Performs b fs c) (operation : Operation) : step.progress.Serves operation := by
  rw [h.progress]
  exact Progress.serves_finished _ _

namespace Broker

variable {b : Broker} {files : FileSystem}

theorem refuse_spares (b : Broker) (files : FileSystem) (e : BrokerError) :
    (b.refuse files e).Spares b files :=
  ⟨rfl, rfl, rfl, rfl, fun _ h => nomatch h⟩

theorem await_spares (b : Broker) (files : FileSystem) (w : Waiting) :
    (b.await files w).Spares b files := by
  unfold await
  split
  · exact refuse_spares b files _
  · exact ⟨rfl, rfl, rfl, rfl, fun _ h => nomatch h⟩

theorem await_serves {w : Waiting} {operation : Operation} (h : w.Serves operation) :
    (b.await files w).progress.Serves operation := by
  unfold await
  split
  · exact Progress.serves_finished _ _
  · -- a call that is not sent ends here, so the call waits for `w` itself
    rintro address w' hw
    cases hw
    exact h

theorem commit_performs (h : b.store.outage.SparesRecords) (files : FileSystem) (c : Change) :
    (b.commit files (c.run b.registry b.store)).Performs b files c := by
  rw [Change.commit_run h]
  exact ⟨rfl, rfl, rfl, rfl, rfl⟩

/-- What a deprovision waits for is the deletion of the volume in the fingerprint that it has found. -/
theorem exists_of_deletionOf {id : String} {details : DeprovisionDetails} {w : Waiting}
    (h : b.deletionOf id details = .ok w) : ∃ record fingerprint,
      w = .deletion id details fingerprint.volume.volumeId ∧
        Transaction.findInstance b.store id = .ok record ∧
        Transaction.fingerprintOf id record = .ok fingerprint := by
  unfold deletionOf at h
  split at h
  · cases h
  split at h
  · cases h
  split at h
  · cases h
  obtain ⟨record, hrecord, h⟩ := exists_of_bind_ok h
  obtain ⟨fingerprint, hfingerprint, h⟩ := exists_of_bind_ok h
  exact ⟨record, fingerprint, (Except.ok.inj h).symm, hrecord, hfingerprint⟩

/-- **What an operation does behind the gate.** It is refused, it waits for its plugin call, or it runs
its change at once. -/
inductive Proceeds (b : Broker) (files : FileSystem) : Operation → Step → Prop where
  /-- The parameters ask for no volume. -/
  | invalid {id : String} {details : ProvisionDetails} {e : BrokerError}
      (h : Parameters.volumeRequest details.parameters = .error e) :
      Proceeds b files (.provision id details) (b.refuse files e)
  | creates {id : String} {details : ProvisionDetails} {request : CreateVolumeRequest}
      (h : Parameters.volumeRequest details.parameters = .ok request) :
      Proceeds b files (.provision id details) (b.await files (.creation id details request))
  /-- There is nothing to delete. -/
  | unfit {id : String} {details : DeprovisionDetails} {e : BrokerError}
      (h : b.deletionOf id details = .error e) :
      Proceeds b files (.deprovision id details) (b.refuse files e)
  | deletes {id : String} {details : DeprovisionDetails} {record : InstanceRecord}
      {fingerprint : Fingerprint} (found : Transaction.findInstance b.store id = .ok record)
      (read : Transaction.fingerprintOf id record = .ok fingerprint) :
      Proceeds b files (.deprovision id details)
        (b.await files (.deletion id details fingerprint.volume.volumeId))
  | commits {operation : Operation} {c : Change} (h : operation.change? = some c) :
      Proceeds b files operation (b.commit files (c.run b.registry b.store))

theorem proceed_proceeds (b : Broker) (files : FileSystem) (operation : Operation) :
    b.Proceeds files operation (b.proceed files operation) := by
  cases operation with
  -- the outer operations run no change yet
  | provision id details =>
    simp only [proceed]
    split
    · next hrequest => exact .invalid hrequest
    · next hrequest => exact .creates hrequest
  | deprovision id details =>
    simp only [proceed]
    split
    · next hdeletion => exact .unfit hdeletion
    · -- what is deleted is the volume of the record that is found
      next w hdeletion =>
      obtain ⟨record, fingerprint, rfl, hfound, hread⟩ := exists_of_deletionOf hdeletion
      exact .deletes hfound hread
  -- the inner operations run their change at once
  | bind instanceId bindingId details =>
    exact .commits (c := .putBinding instanceId bindingId details) rfl
  | unbind instanceId bindingId details =>
    exact .commits (c := .removeBinding instanceId bindingId) rfl

/-- Behind the gate an operation waits for its plugin call, or runs its change at once. -/
theorem proceed_meets (h : b.store.outage.SparesRecords) (files : FileSystem)
    (operation : Operation) :
    (b.proceed files operation).Meets b files operation.change? ∧
      (b.proceed files operation).progress.Serves operation := by
  have hproceeds := b.proceed_proceeds files operation
  generalize b.proceed files operation = step at hproceeds ⊢
  cases hproceeds with
  | invalid => exact ⟨refuse_spares b files _, Progress.serves_finished _ _⟩
  | creates hrequest => exact ⟨await_spares b files _, await_serves (.creation hrequest)⟩
  | unfit => exact ⟨refuse_spares b files _, Progress.serves_finished _ _⟩
  | deletes => exact ⟨await_spares b files _, await_serves (.deletion _ _ _)⟩
  | @commits _ c hchange =>
    rw [hchange]
    have hstep := commit_performs h files c
    exact ⟨hstep, hstep.serves _⟩

/-- **The first step of a call.** -/
theorem begin_meets (h : b.store.outage.SparesRecords) (files : FileSystem)
    (operation : Operation) :
    (b.begin files operation).Meets b files (b.opening? operation) ∧
      (b.begin files operation).progress.Serves operation := by
  unfold begin opening?
  by_cases hgate : b.gate.isPassed operation.serviceId = true
  · rw [if_pos hgate, if_pos hgate]
    exact proceed_meets h files operation
  · rw [if_neg hgate, if_neg hgate]
    exact ⟨await_spares b files _, await_serves (.probe operation)⟩

/-- What a step does has nothing to do with the gate that it finds or leaves. -/
theorem meets_of_gate {step : Step} {gate : ProbeGate} {c : Option Change}
    (h : step.Meets { b with gate } files c) : step.Meets b files c := by
  cases c with
  | none => exact ⟨h.registry, h.store, h.files, h.saved, h.unanswered⟩
  | some c => exact ⟨h.registry, h.store, h.files, h.saved, h.progress⟩

/-- **A step behind an answer of the plugin.** -/
theorem resume_meets (h : b.store.outage.SparesRecords) (files : FileSystem) {w : Waiting}
    {operation : Operation} (hw : w.Serves operation)
    (answer : Except PluginError w.call.Response) :
    (b.resume files w answer).Meets b files (w.change? answer) ∧
      (b.resume files w answer).progress.Serves operation := by
  cases hw with
  | probe =>
    cases answer with
    | error e => exact ⟨refuse_spares b files _, Progress.serves_finished _ _⟩
    | ok response =>
      -- the step goes on behind the gate, which the answer has opened
      let passed : Broker := { b with gate := b.gate.mark operation.serviceId }
      have hstep := @proceed_meets passed h files operation
      exact ⟨meets_of_gate hstep.1, hstep.2⟩
  -- the plugin has made the volume, so its record is put
  | @creation id details request hrequest =>
    cases answer with
    | error e => exact ⟨refuse_spares b files _, Progress.serves_finished _ _⟩
    | ok response =>
      have hstep := commit_performs h files
        (.putInstance id (details.toRecord ⟨request.name, response.volume⟩))
      exact ⟨hstep, hstep.serves _⟩
  | deletion id details volumeId =>
    cases answer with
    | error e => exact ⟨refuse_spares b files _, Progress.serves_finished _ _⟩
    | ok response =>
      have hstep := commit_performs h files (.removeInstance id)
      exact ⟨hstep, hstep.serves _⟩

end Broker

/-! ### Sessions -/

/-- A plugin call and its answer. -/
structure Answered where
  call : PluginCall
  /-- What came back. -/
  outcome : Except PluginError call.Response

/-- A plugin, as far as one call of it goes. -/
abbrev Responder : Type := (call : PluginCall) → Except PluginError call.Response

/-- What can happen next. -/
inductive Event where
  /-- A call comes in and takes its first step. -/
  | arrival (operation : Operation)
  /-- The plugin answers a call that waits for it. -/
  | answer (call : Nat) (responder : Responder)
  /-- From now on saves fail before they begin, with the given path in their error, or do not. -/
  | saving (failure : Option String)
  /-- From now on these absolute paths refuse to be created, written or replaced. -/
  | locking (paths : List String)

/-- An event of the calls themselves, not of their surroundings. -/
def Event.IsCall : Event → Prop
  | arrival _ => True
  | answer _ _ => True
  | saving _ => False
  | locking _ => False

/-- A call that has come in. -/
structure Call where
  operation : Operation
  progress : Progress

/-- One step of one call. -/
structure Turn where
  /-- The call; calls are numbered as they come in. -/
  call : Nat
  operation : Operation
  /-- The answer that the step went on from; the first step of a call has none. -/
  answered : Option Answered
  /-- The change that the step ran, if it reached the final locked section. -/
  change : Option Change
  /-- What came of the attempt to save, if there was one. -/
  saved : Option (Except StoreError Unit)
  records : RecordSet
  progress : Progress

/-- What a step comes to in the history. -/
def Turn.of (call : Nat) (operation : Operation) (answered : Option Answered)
    (change : Option Change) (step : Step) : Turn :=
  ⟨call, operation, answered, change, step.saved, step.broker.store.records, step.progress⟩

/-- A broker among its callers. -/
structure Session where
  broker : Broker
  files : FileSystem
  /-- All calls that have come in, the first one first. -/
  calls : List Call
  /-- All steps that have been taken, the first one first. -/
  history : List Turn

namespace Session

/-- No call has come in yet. -/
def opened (b : Broker) (files : FileSystem) : Session := ⟨b, files, [], []⟩

/-- What happens at an event. An answer to a call that waits for none is lost. -/
def handle (s : Session) : Event → Session
  | .arrival operation =>
    let step := s.broker.begin s.files operation
    { broker := step.broker
      files := step.files
      calls := s.calls ++ [⟨operation, step.progress⟩]
      history := s.history ++
        [.of s.calls.length operation none (s.broker.opening? operation) step] }
  | .answer call responder =>
    match s.calls[call]? with
    | some ⟨operation, .waiting _ w⟩ =>
      let answer := responder w.call
      let step := s.broker.resume s.files w answer
      { broker := step.broker
        files := step.files
        calls := s.calls.set call ⟨operation, step.progress⟩
        history := s.history ++
          [.of call operation (some ⟨w.call, answer⟩) (w.change? answer) step] }
    | _ => s
  | .saving failure =>
    let outage := match failure with
      | some path => ⟨[.save], path⟩
      | none => .none
    { s with broker := { s.broker with store := { s.broker.store with outage } } }
  | .locking paths => { s with files := { s.files with locked := paths } }

/-- What has happened after some events, the first one first. -/
def run (s : Session) (events : List Event) : Session := events.foldl handle s

@[simp] theorem run_nil (s : Session) : s.run [] = s := rfl

theorem run_concat (s : Session) (events : List Event) (event : Event) :
    s.run (events ++ [event]) = (s.run events).handle event := List.foldl_concat ..

/-- What holds of a session and survives each of some events holds after them. -/
theorem run_induction_mem {P : Session → Prop} {s : Session} (initial : P s) {events : List Event}
    (step : ∀ s, ∀ event ∈ events, P s → P (s.handle event)) : P (s.run events) := by
  unfold run
  induction events generalizing s with
  | nil => exact initial
  | cons event events ih =>
    -- the later events start from the session behind the first one
    refine ih (step s event List.mem_cons_self initial) ?_
    intro s later hlater
    exact step s later (List.mem_cons_of_mem event hlater)

/-- What holds of a session and survives every event holds after all events. -/
theorem run_induction {P : Session → Prop} {s : Session} (initial : P s)
    (step : ∀ s event, P s → P (s.handle event)) (events : List Event) : P (s.run events) :=
  run_induction_mem initial fun s event _ => step s event

/-! ### What an event can do -/

/-- What every session keeps: nothing but saving is out of order, and every call that waits is
waiting for what belongs to its operation. -/
structure Sound (s : Session) : Prop where
  outage : s.broker.store.outage.SparesRecords
  serves : ∀ call ∈ s.calls, call.progress.Serves call.operation

/-- An event at which no call takes a step: at most the outage and the locks have changed. -/
structure Idles (s s' : Session) : Prop where
  registry : s'.broker.registry = s.broker.registry
  gate : s'.broker.gate = s.broker.gate
  medium : s'.broker.store.medium = s.broker.store.medium
  records : s'.broker.store.records = s.broker.store.records
  outage : s'.broker.store.outage.SparesRecords
  nodes : s'.files.nodes = s.files.nodes
  workDir : s'.files.workDir = s.files.workDir
  calls : s'.calls = s.calls
  history : s'.history = s.history

/-- How a turn belongs to a call: it is the first one of a new call, or it goes on from the answer
that its call has been waiting for. -/
inductive Advances (s s' : Session) (turn : Turn) : Prop where
  | opens (call : turn.call = s.calls.length) (answered : turn.answered = none)
      (change : turn.change = s.broker.opening? turn.operation)
      (calls : s'.calls = s.calls ++ [⟨turn.operation, turn.progress⟩])
      (broker : s'.broker = (s.broker.begin s.files turn.operation).broker)
      (progress : turn.progress = (s.broker.begin s.files turn.operation).progress)
  | continues {address : String} {w : Waiting} {answer : Except PluginError w.call.Response}
      (call : s.calls[turn.call]? = some ⟨turn.operation, .waiting address w⟩)
      (answered : turn.answered = some ⟨w.call, answer⟩)
      (change : turn.change = w.change? answer)
      (calls : s'.calls = s.calls.set turn.call ⟨turn.operation, turn.progress⟩)
      (broker : s'.broker = (s.broker.resume s.files w answer).broker)
      (progress : turn.progress = (s.broker.resume s.files w answer).progress)

/-- An event at which one call takes a step. -/
structure Takes (s s' : Session) (turn : Turn) : Prop where
  advances : s.Advances s' turn
  step : ∃ step : Step, step.Meets s.broker s.files turn.change ∧ s'.broker = step.broker ∧
    s'.files = step.files ∧ turn.saved = step.saved ∧ turn.records = step.broker.store.records ∧
    turn.progress = step.progress
  serves : turn.progress.Serves turn.operation
  history : s'.history = s.history ++ [turn]

theorem Idles.refl {s : Session} (h : s.Sound) : s.Idles s :=
  ⟨rfl, rfl, rfl, rfl, h.outage, rfl, rfl, rfl, rfl⟩

/-- A call that comes in takes its first step. -/
theorem arrival_takes {s : Session} (h : s.Sound) (operation : Operation) :
    s.Takes (s.handle (.arrival operation))
      (.of s.calls.length operation none (s.broker.opening? operation)
        (s.broker.begin s.files operation)) := by
  obtain ⟨hmeets, hserves⟩ := Broker.begin_meets h.outage s.files operation
  exact ⟨.opens rfl rfl rfl rfl rfl rfl, ⟨_, hmeets, rfl, rfl, rfl, rfl, rfl⟩, hserves, rfl⟩

/-- A call that waits goes on from an answer, whatever the other calls have done since. -/
theorem answer_takes {s : Session} (h : s.Sound) {number : Nat} {operation : Operation}
    {address : String} {w : Waiting}
    (hcall : s.calls[number]? = some ⟨operation, .waiting address w⟩) (responder : Responder) :
    s.Takes (s.handle (.answer number responder))
      (.of number operation (some ⟨w.call, responder w.call⟩) (w.change? (responder w.call))
        (s.broker.resume s.files w (responder w.call))) := by
  have hw : w.Serves operation := h.serves _ (List.mem_of_getElem? hcall) address w rfl
  obtain ⟨hmeets, hserves⟩ := Broker.resume_meets h.outage s.files hw (responder w.call)
  simp only [handle, hcall]
  exact ⟨.continues hcall rfl rfl rfl rfl rfl, ⟨_, hmeets, rfl, rfl, rfl, rfl, rfl⟩, hserves, rfl⟩

/-- At an event of the calls one call takes one step, or an answer is lost. -/
theorem handle_call_cases {s : Session} (h : s.Sound) {event : Event} (hcall : event.IsCall) :
    s.handle event = s ∨ ∃ turn, s.Takes (s.handle event) turn := by
  cases event with
  | arrival operation => exact .inr ⟨_, arrival_takes h operation⟩
  | answer number responder =>
    rcases hnumber : s.calls[number]? with _ | ⟨operation, ⟨address, w⟩ | result⟩
    · exact .inl (by simp only [handle, hnumber])
    · exact .inr ⟨_, answer_takes h hnumber responder⟩
    · exact .inl (by simp only [handle, hnumber])
  | saving failure => exact hcall.elim
  | locking paths => exact hcall.elim

/-- At an event of the surroundings no call takes a step. -/
theorem idles_of_surroundings {s : Session} (h : s.Sound) {event : Event} (hother : ¬ event.IsCall) :
    s.Idles (s.handle event) := by
  cases event with
  | arrival operation => exact absurd trivial hother
  | answer number responder => exact absurd trivial hother
  | saving failure =>
    refine ⟨rfl, rfl, rfl, rfl, ?_, rfl, rfl, rfl, rfl⟩
    -- an outage is one of saves or none at all
    cases failure with
    | none => exact Outage.sparesRecords_none
    | some path => exact fun operation hmem => List.mem_singleton.1 hmem
  | locking paths => exact ⟨rfl, rfl, rfl, rfl, h.outage, rfl, rfl, rfl, rfl⟩

/-- **What an event can do.** It leaves the calls alone, or one call takes one step. -/
theorem handle_cases {s : Session} (h : s.Sound) (event : Event) :
    s.Idles (s.handle event) ∨ ∃ turn, s.Takes (s.handle event) turn := by
  by_cases hcall : event.IsCall
  · refine (handle_call_cases h hcall).imp_left fun hsame => ?_
    rw [hsame]
    exact Idles.refl h
  · exact .inl (idles_of_surroundings h hcall)

variable {s s' : Session} {turn : Turn}

theorem Takes.registry (h : s.Takes s' turn) : s'.broker.registry = s.broker.registry := by
  obtain ⟨step, hmeets, hbroker, -⟩ := h.step
  rw [hbroker]
  exact hmeets.registry

theorem Takes.medium (h : s.Takes s' turn) :
    s'.broker.store.medium = s.broker.store.medium := by
  obtain ⟨step, hmeets, hbroker, -⟩ := h.step
  rw [hbroker]
  exact hmeets.medium

theorem Takes.outage (h : s.Takes s' turn) :
    s'.broker.store.outage = s.broker.store.outage := by
  obtain ⟨step, hmeets, hbroker, -⟩ := h.step
  rw [hbroker]
  exact hmeets.outage

/-- What every session keeps holds from the beginning. -/
theorem Sound.initial {b : Broker} (h : b.store.outage.SparesRecords) (files : FileSystem) :
    (opened b files).Sound := ⟨h, fun _ hcall => nomatch hcall⟩

/-- No event takes it away. -/
theorem Sound.handle (h : s.Sound) (event : Event) : (s.handle event).Sound := by
  rcases handle_cases h event with hidle | ⟨turn, htakes⟩
  · exact ⟨hidle.outage, by rw [hidle.calls]; exact h.serves⟩
  · -- only the call of the turn has moved, and it waits for what its operation asks for
    refine ⟨by rw [htakes.outage]; exact h.outage, ?_⟩
    intro call hcall
    cases htakes.advances with
    | opens _ _ _ calls =>
      rw [calls, List.mem_append, List.mem_singleton] at hcall
      rcases hcall with hcall | rfl
      · exact h.serves call hcall
      · exact htakes.serves
    | continues _ _ _ calls =>
      rw [calls] at hcall
      rcases List.mem_or_eq_of_mem_set hcall with hcall | rfl
      · exact h.serves call hcall
      · exact htakes.serves

theorem Sound.run (h : s.Sound) (events : List Event) : (s.run events).Sound :=
  run_induction h (fun _ event hs => hs.handle event) events

end Session

end VolumeBroker
