import VolumeBroker.Proofs.Plugin.Messages
import VolumeBroker.Proofs.Session.Saving
/-!
# Calls over the wire

A call to a plugin is one message that is posted and one that comes back. This file says what a call
makes of whatever comes back for it, and that a plugin behind HTTP is as good as one in process.

* `PluginCall.answer` is the message with which a plugin gives the result of a call, and
  `PluginCall.Reads` says, of each body and each status, what the call makes of it: a body that reads
  as such an answer is its result, every other body is a failure of the client's own.
* A `Remote` serves a `Plugin` if it sends, for the message of a call, a text of an envelope of what the
  plugin gives (`Remote.Serves`). A call over such a remote is the call of the plugin
  (`Remote.Serves.over`), whatever the status.
* `Session.talk` puts the calls that wait in a session to plugins that have a state. By the first two
  parts a session whose plugins are behind HTTP goes on as one whose plugins are in process, step by
  step (`Session.talk_related`) and hence over whole runs (`Session.talks_related`).

`PluginCall.relays` puts the three together.
-/

namespace VolumeBroker

/-! ### Answers -/

namespace PluginCall

/-- The message with which a plugin gives the result of a call. -/
def answer (call : PluginCall) (result : Except PluginError call.Response) : PluginMessage :=
  match call, result with
  | _, .error e => .error e
  | probe, .ok response => .probeResult response
  | createVolume _, .ok response => .volumeCreated response
  | deleteVolume _, .ok _ => .ok

@[simp] theorem answer_error (call : PluginCall) (e : PluginError) :
    call.answer (.error e) = .error e := by
  cases call <;> rfl

/-- A call accepts its own answers, and the failure that is reported to it is not one of them. -/
theorem accept_answer (call : PluginCall) (response : call.Response) :
    call.accept (call.answer (.ok response)) = .ok response := by
  cases call <;> rfl

theorem answer_ok_ne (call : PluginCall) (response : call.Response) (e : PluginError) :
    call.answer (.ok response) ≠ .error e := by
  cases call <;> exact nofun

/-- A message that is accepted is the answer that gives what has been accepted. -/
theorem eq_answer_of_accept {call : PluginCall} {m : PluginMessage} {response : call.Response}
    (h : call.accept m = .ok response) : m = call.answer (.ok response) := by
  cases call <;> cases m <;> first | cases h; rfl | cases h

/-- A message that is not accepted is reported by its summary. -/
theorem accept_of_ne {call : PluginCall} {m : PluginMessage}
    (h : ∀ response, m ≠ call.answer (.ok response)) :
    call.accept m = .error ⟨.unexpectedResponse, m.summary⟩ := by
  -- each call takes one kind of message; any other is told by its summary
  cases call with
  | probe =>
    cases m with
    | probeResult response => exact absurd rfl (h response)
    | _ => rfl
  | createVolume request =>
    cases m with
    | volumeCreated response => exact absurd rfl (h response)
    | _ => rfl
  | deleteVolume request =>
    cases m with
    | ok => exact absurd rfl (h ())
    | _ => rfl

end PluginCall

/-! ### What a call makes of a reply -/

section Replies

variable {call : PluginCall} {reply : HttpReply}

/-- A body that reads as a failure is that failure. -/
theorem PluginCall.outcome_of_error {e : PluginError} (h : reply.message? = .ok (.error e)) :
    call.outcome (some reply) = .error e := by
  unfold PluginCall.outcome exchange HttpReply.outcome
  dsimp only
  rw [h]

/-- A body that reads as another message is put to the call. -/
theorem PluginCall.outcome_of_message {m : PluginMessage} (h : reply.message? = .ok m)
    (hne : ∀ e, m ≠ .error e) : call.outcome (some reply) = call.accept m := by
  unfold PluginCall.outcome exchange HttpReply.outcome
  dsimp only
  rw [h]
  cases m with
  | error e => exact absurd rfl (hne e)
  | _ => rfl

theorem PluginCall.outcome_of_problem {problem : Problem} (h : reply.message? = .error problem) :
    call.outcome (some reply) = .error ⟨.transport,
      "undecodable reply (HTTP " ++ HttpStatus.render reply.status ++ "): " ++ problem.message⟩ := by
  unfold PluginCall.outcome exchange HttpReply.outcome
  dsimp only
  rw [h]

/-- A body that reads as an answer to the call gives the result of the answer. -/
theorem PluginCall.outcome_of_answer {result : Except PluginError call.Response}
    (h : reply.message? = .ok (call.answer result)) : call.outcome (some reply) = result := by
  cases result with
  | error e => exact outcome_of_error (call.answer_error e ▸ h)
  | ok response =>
    rw [outcome_of_message h (call.answer_ok_ne response)]
    exact call.accept_answer response

/-- The status of a reply whose body can be read has no say. -/
theorem PluginCall.outcome_status (call : PluginCall) {status : Nat} {body : Content}
    {m : PluginMessage} (h : HttpReply.message? ⟨status, body⟩ = .ok m) (other : Nat) :
    call.outcome (some ⟨other, body⟩) = call.outcome (some ⟨status, body⟩) := by
  have hother : HttpReply.message? ⟨other, body⟩ = .ok m := h
  by_cases herror : ∃ e, m = .error e
  · obtain ⟨e, rfl⟩ := herror
    rw [outcome_of_error h, outcome_of_error hother]
  · have hne : ∀ e, m ≠ .error e := fun e he => herror ⟨e, he⟩
    rw [outcome_of_message h hne, outcome_of_message hother hne]

/-- **What a call makes of a reply.** The four fields leave no reply out: its body can be read or not,
and what is read is an answer to the call, a failure, or something else. -/
structure PluginCall.Reads (call : PluginCall) (reply : HttpReply)
    (result : Except PluginError call.Response) : Prop where
  /-- The call succeeds exactly on its own kind of answer, and with what the answer holds. -/
  succeeds : ∀ response,
    result = .ok response ↔ reply.message? = .ok (call.answer (.ok response))
  /-- A failure that the plugin reports comes back as it is. -/
  fails : ∀ e, reply.message? = .ok (.error e) → result = .error e
  /-- Any other message, a request included, is not what the call has asked for. -/
  misled : ∀ m, reply.message? = .ok m → (∀ result, m ≠ call.answer result) →
    result = .error ⟨.unexpectedResponse, m.summary⟩
  /-- A body that cannot be read is reported together with the status. -/
  puzzled : ∀ problem, reply.message? = .error problem → result = .error ⟨.transport,
    "undecodable reply (HTTP " ++ HttpStatus.render reply.status ++ "): " ++ problem.message⟩

theorem PluginCall.reads_outcome (call : PluginCall) (reply : HttpReply) :
    call.Reads reply (call.outcome (some reply)) where
  succeeds response := by
    refine ⟨fun h => ?_, outcome_of_answer⟩
    rcases hmessage : reply.message? with problem | m
    · rw [outcome_of_problem hmessage] at h
      cases h
    · -- an error is no answer of the right kind, and of the others only one is accepted
      by_cases herror : ∃ e, m = .error e
      · obtain ⟨e, rfl⟩ := herror
        rw [outcome_of_error hmessage] at h
        cases h
      · rw [outcome_of_message hmessage fun e he => herror ⟨e, he⟩] at h
        rw [eq_answer_of_accept h]
  fails e h := outcome_of_error h
  misled m h hne := by
    rw [outcome_of_message h fun e he => hne (.error e) (he.trans (call.answer_error e).symm)]
    exact accept_of_ne fun response => hne (.ok response)
  puzzled problem h := outcome_of_problem h

end Replies

/-! ### Posting -/

/-- The compact text of an envelope is one of its texts: it holds byte counts and no other numbers. -/
theorem PluginMessage.Envelope.spells_compact {m : PluginMessage} {value : Json}
    (h : m.Envelope value) : value.Spells value.compact.toList :=
  Json.spells_compact (h.plain.every.imp fun _ hn => Number.readable_of_inRange hn)

/-- The body in which a message is posted is read as that message. -/
theorem PluginMessage.message?_body (m : PluginMessage) (status : Nat) :
    HttpReply.message? ⟨status, m.body⟩ = .ok m :=
  m.envelope_write.message? status m.envelope_write.spells_compact

section Posting

variable {σ : Type}

/-- A remote that keeps what is posted to it. -/
def Remote.logged (remote : Remote σ) : Remote (σ × List String) := fun body (state, posted) =>
  let (reply, state) := remote body state
  (reply, state, posted ++ [body])

/-- The result of a call is the outcome of the reply to its message. -/
theorem PluginCall.over_of_reply {remote : Remote σ} {state state' : σ} {call : PluginCall}
    {reply : HttpReply} (h : remote call.message.body state = (some reply, state')) :
    call.over remote state = (call.outcome (some reply), state') := by
  unfold PluginCall.over PluginMessage.post PluginCall.outcome
  rw [h]
  dsimp only
  cases exchange (some reply) <;> rfl

/-- A call posts its message, once. -/
theorem PluginCall.over_logged (call : PluginCall) (remote : Remote σ) (state : σ)
    (posted : List String) :
    call.over remote.logged (state, posted) =
      ((call.over remote state).1, (call.over remote state).2, posted ++ [call.message.body]) := rfl

end Posting

/-! ### Plugins behind HTTP -/

section Plugins

variable {σ τ : Type}

/-- A plugin in process, which may have a state: it gives the result of a call at once. -/
abbrev Plugin (σ : Type) : Type :=
  (call : PluginCall) → σ → Except PluginError call.Response × σ

/-- The plugin whose calls go over the wire. -/
def Remote.plugin (remote : Remote τ) : Plugin τ := fun call state => call.over remote state

/-- A remote sends what a plugin gives: for the message of a call there comes back, under some status,
a text of an envelope of the plugin's result. `R` relates the state behind the wire to that of the
plugin. -/
def Remote.Serves (remote : Remote τ) (R : τ → σ → Prop) (plugin : Plugin σ) : Prop :=
  ∀ call behind state, R behind state → ∃ (status : Nat) (text : String) (behind' : τ)
    (value : Json),
    remote call.message.body behind = (some ⟨status, text⟩, behind') ∧
      R behind' (plugin call state).2 ∧
      (call.answer (plugin call state).1).Envelope value ∧ value.Spells text.toList

/-- **A call over the wire is the call of the plugin behind it.** -/
theorem Remote.Serves.over {remote : Remote τ} {R : τ → σ → Prop} {plugin : Plugin σ}
    (h : remote.Serves R plugin) (call : PluginCall) {behind : τ} {state : σ} (hR : R behind state) :
    (call.over remote behind).1 = (plugin call state).1 ∧
      R (call.over remote behind).2 (plugin call state).2 := by
  obtain ⟨status, text, behind', value, hreply, hR', henvelope, htext⟩ := h call behind state hR
  rw [PluginCall.over_of_reply hreply]
  exact ⟨PluginCall.outcome_of_answer (henvelope.message? status htext), hR'⟩

/-- The call that a message asks for. -/
def PluginMessage.call? : PluginMessage → Option PluginCall
  | .probe => some .probe
  | .createVolume request => some (.createVolume request)
  | .deleteVolume request => some (.deleteVolume request)
  | _ => none

theorem PluginCall.call?_message (call : PluginCall) : call.message.call? = some call := by
  cases call <;> rfl

/-- A plugin behind HTTP that replies under one status. What asks for nothing is refused. -/
def Plugin.hosted (plugin : Plugin σ) (status : Nat) : Remote σ := fun body state =>
  match HttpReply.message? ⟨status, body⟩ with
  | .error problem => (some ⟨400, problem.message⟩, state)
  | .ok m =>
    match m.call? with
    | none => (some ⟨400, (PluginMessage.error ⟨.invalidArgument, m.summary⟩).body⟩, state)
    | some call =>
      let (result, state) := plugin call state
      (some ⟨status, (call.answer result).body⟩, state)

theorem Plugin.serves_hosted (plugin : Plugin σ) (status : Nat) :
    (plugin.hosted status).Serves Eq plugin := by
  rintro call state _ rfl
  have henvelope := (call.answer (plugin call state).1).envelope_write
  refine ⟨status, _, _, _, ?_, rfl, henvelope, henvelope.spells_compact⟩
  unfold Plugin.hosted
  rw [PluginMessage.message?_body]
  dsimp only
  rw [PluginCall.call?_message]
  rfl

end Plugins

/-! ### Sessions with plugins -/

/-- What can happen next where plugins are at hand. -/
inductive Talk where
  | event (event : Event)
  /-- A call that waits is put to the plugin at its address, and goes on from the result. -/
  | ask (call : Nat)

namespace Session

variable {σ τ : Type}

/-- What happens next to a session and the plugins that it calls. -/
def talk (plugins : String → Plugin σ) (s : Session × σ) : Talk → Session × σ
  | .event event => (s.1.handle event, s.2)
  | .ask call =>
    match s.1.calls[call]? with
    | some ⟨_, .waiting address w⟩ =>
      (s.1.handle (.answer call fun asked => (plugins address asked s.2).1),
        (plugins address w.call s.2).2)
    | _ => s

/-- What has happened after all that, the first first. -/
def talks (plugins : String → Plugin σ) (s : Session × σ) (script : List Talk) : Session × σ :=
  script.foldl (talk plugins) s

variable {remotes : String → Remote τ} {R : τ → σ → Prop} {plugins : String → Plugin σ}

/-- A call that is put to a plugin behind HTTP goes on as if the plugin were in process. -/
theorem talk_related (h : ∀ address, (remotes address).Serves R (plugins address)) (s : Session)
    {behind : τ} {state : σ} (hR : R behind state) (next : Talk) :
    (talk (fun address => (remotes address).plugin) (s, behind) next).1
        = (talk plugins (s, state) next).1 ∧
      R (talk (fun address => (remotes address).plugin) (s, behind) next).2
        (talk plugins (s, state) next).2 := by
  -- only a message to a plugin makes a difference between the two
  cases next with
  | event event => exact ⟨rfl, hR⟩
  | ask call =>
    unfold talk
    dsimp only
    rcases s.calls[call]? with _ | ⟨operation, ⟨address, w⟩ | result⟩
    · exact ⟨rfl, hR⟩
    · -- both sides get the same result, whatever the call is
      have hresults : (fun asked => ((remotes address).plugin asked behind).1)
          = fun asked => (plugins address asked state).1 :=
        funext fun asked => ((h address).over asked hR).1
      dsimp only
      rw [hresults]
      exact ⟨rfl, ((h address).over w.call hR).2⟩
    · exact ⟨rfl, hR⟩

theorem talks_related (h : ∀ address, (remotes address).Serves R (plugins address)) (s : Session)
    {behind : τ} {state : σ} (hR : R behind state) (script : List Talk) :
    (talks (fun address => (remotes address).plugin) (s, behind) script).1
      = (talks plugins (s, state) script).1 := by
  unfold talks
  induction script generalizing s behind state with
  | nil => rfl
  | cons next script ih =>
    -- the sessions are the same after the first step, and the states are related again
    obtain ⟨hsession, hR'⟩ := talk_related h s hR next
    rw [List.foldl_cons, List.foldl_cons]
    generalize talk (fun address => (remotes address).plugin) (s, behind) next = reached
      at hsession hR' ⊢
    obtain ⟨s', behind'⟩ := reached
    obtain rfl : s' = (talk plugins (s, state) next).1 := hsession
    exact ih _ hR'

end Session

/-! ### The wire does not show -/

/-- **Calls over the wire.** A call posts one body, and it is read as the call's message. What comes
back is read as `PluginCall.Reads` says, and its status has no say unless the body cannot be read.
Hence a session among plugins behind HTTP whose replies are texts of envelopes is, at every moment, the
session among the plugins themselves. -/
theorem PluginCall.relays {τ : Type} (call : PluginCall) (remote : Remote τ) (behind : τ) :
    (∀ m : PluginMessage, ∀ status, HttpReply.message? ⟨status, m.body⟩ = .ok m) ∧
    (∀ posted, call.over remote.logged (behind, posted)
      = ((call.over remote behind).1, (call.over remote behind).2, posted ++ [call.message.body])) ∧
    (∀ reply behind', remote call.message.body behind = (some reply, behind') →
      call.Reads reply (call.over remote behind).1 ∧
      ∀ m, reply.message? = .ok m → ∀ status,
        call.outcome (some ⟨status, reply.body⟩) = (call.over remote behind).1) ∧
    ∀ {σ : Type} (R : τ → σ → Prop) (plugins : String → Plugin σ) (remotes : String → Remote τ),
      (∀ address, (remotes address).Serves R (plugins address)) → ∀ s state, R behind state →
        ∀ script : List Talk,
          (Session.talks (fun address => (remotes address).plugin) (s, behind) script).1
            = (Session.talks plugins (s, state) script).1 := by
  refine ⟨PluginMessage.message?_body, call.over_logged remote behind,
    fun reply behind' hreply => ?_,
    fun R plugins remotes hserves s state hR => Session.talks_related hserves s hR⟩
  rw [PluginCall.over_of_reply hreply]
  exact ⟨call.reads_outcome reply, fun m hm status => call.outcome_status hm status⟩

namespace Installation

/-- A plugin that counts its volumes. -/
def counting : Plugin Nat
  | .probe, volumes => (.ok ⟨some true⟩, volumes)
  | .createVolume request, volumes => (.ok ⟨⟨request.name, 0, .empty⟩⟩, volumes + 1)
  | .deleteVolume request, volumes =>
    if volumes = 0 then (.error ⟨.notFound, request.volumeId⟩, 0) else (.ok (), volumes - 1)

/-- A provision comes in and is put to the plugin twice, for the probe and for its volume. -/
def provisioning : List Talk := [.event (.arrival (.provision "i" (details "n"))), .ask 0, .ask 0]

/-- The plugin replies with texts of envelopes, under a status that reports a failure, and the instance
is provisioned all the same. -/
theorem counting_relays :
    let remote : Remote Nat := counting.hosted 503
    let opened := Session.opened ⟨registry, .empty, .new .memory⟩ .empty
    remote.Serves Eq counting ∧
      (PluginCall.probe.over remote 0).1 = .ok (⟨some true⟩ : ProbeResponse) ∧
      (Session.talks (fun _ => remote.plugin) (opened, 0) provisioning).1
        = (Session.talks (fun _ => counting) (opened, 0) provisioning).1 ∧
      ((Session.talks (fun _ => counting) (opened, 0) provisioning).1.broker.store.records.instances.get?
        "i").isSome = true := by
  intro remote opened
  have hserves : remote.Serves Eq counting := counting.serves_hosted 503
  obtain ⟨hposted, -, hreads, hsessions⟩ := PluginCall.relays .probe remote 0
  let m : PluginMessage := .probeResult ⟨some true⟩
  have hreply : remote PluginCall.probe.message.body 0 = (some ⟨503, m.body⟩, 0) := by
    show counting.hosted 503 (PluginMessage.body .probe) 0 = _
    unfold Plugin.hosted
    rw [hposted]
    rfl
  obtain ⟨hprobe, -⟩ := hreads _ _ hreply
  refine ⟨hserves, (hprobe.succeeds _).2 (hposted m 503), ?_, rfl⟩
  exact hsessions Eq (fun _ => counting) (fun _ => remote) (fun _ => hserves) opened 0 rfl provisioning

end Installation

end VolumeBroker
