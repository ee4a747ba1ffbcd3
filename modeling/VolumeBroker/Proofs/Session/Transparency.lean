import VolumeBroker.Proofs.Session.Gate
import VolumeBroker.Proofs.Session.Mirror
import VolumeBroker.Proofs.Session.Restart
import VolumeBroker.Proofs.Session.Serving
/-!
# Restarts that nobody notices

A broker that has started on the record file of another one serves every later call as that one would
have. Calls are served one after the other here (`Session.serve`), with the same plugin on both sides.

The two do not move in step: a call that the running broker lets through its gate may have to wait for
a probe at the gate of the new one. `Session.Abreast` relates them while a call is served, and keeps
count of the answers that the call may still need; a call that needs none has ended, and an answer too
many is lost. `Session.restart_transparent` is the result: same answers, same files, same documents of
the records, and the same plugin calls up to probes.
-/

namespace VolumeBroker

/-! ### Plugin calls in two histories -/

namespace Turn

/-- The second history has made the plugin calls of the first one, and more probes at most. -/
structure Covers (turns fresh : List Turn) : Prop where
  sent : (sent turns).Sublist (sent fresh)
  orders : orders fresh = orders turns

theorem Covers.refl (turns : List Turn) : Covers turns turns := ⟨List.Sublist.refl _, rfl⟩

theorem Covers.append {before before' after after' : List Turn} (hbefore : Covers before before')
    (hafter : Covers after after') : Covers (before ++ after) (before' ++ after') := by
  refine ⟨?_, ?_⟩
  · rw [sent_append, sent_append]
    exact hbefore.sent.append hafter.sent
  · rw [orders_append, orders_append, hbefore.orders, hafter.orders]

/-- Turns that have left their calls at the same point. -/
theorem covers_of_progress {turn fresh : Turn} (h : fresh.progress = turn.progress) :
    Covers [turn] [fresh] := by
  have hsent : sent [fresh] = sent [turn] := by
    simp only [sent, List.filterMap_cons, List.filterMap_nil, h]
  refine ⟨hsent ▸ List.Sublist.refl _, ?_⟩
  unfold orders
  rw [hsent]

/-- A turn that has only made a probe. -/
theorem covers_of_probe {turn : Turn} {address : String} {operation : Operation}
    (h : turn.progress = .waiting address (.probe operation)) : Covers [] [turn] := by
  refine ⟨List.nil_sublist _, ?_⟩
  -- a probe is no order, and the first history has made no call
  simp only [orders, sent, List.filterMap_cons, List.filterMap_nil, h, Progress.sent?, Waiting.call,
    PluginCall.isProbe, List.filter_cons, List.filter_nil, Bool.not_true, Bool.false_eq_true, if_false]

end Turn

/-! ### Two brokers side by side -/

namespace Session

/-- If the saves have succeeded so has that of the last turn. -/
theorem Stands.savesWell {before s : Session} {operation : Operation} {step : Step} {turns : List Turn}
    {call : Nat} {answered : Option Answered} {change : Option Change}
    (h : before.Stands s operation step (turns ++ [.of call operation answered change step]))
    (hwell : before.SavesWell s) : step.SavesWell := by
  intro e herror
  have hmem : Except.error e ∈ Turn.attempts (s.history.drop before.history.length) := by
    rw [h.history, List.drop_left, Turn.attempts_concat]
    -- the turn is the last one
    refine List.mem_append_right _ ?_
    show Except.error e ∈ step.saved.toList
    rw [herror]
    exact List.mem_singleton_self _
  cases hwell _ hmem

/-- A session, and one of a broker that has started again on its files. -/
structure Mirrors (s fresh : Session) : Prop where
  broker : s.broker.Mirrors fresh.broker
  files : fresh.files = s.files
  gated : s.Gated

/-- Since some earlier points the same calls have been served in both sessions, with the same answers,
and the second session has made the plugin calls of the first one and more probes at most. -/
structure Alike (before s freshBefore fresh : Session) (served : List Call) : Prop where
  calls : s.calls = before.calls ++ served
  freshCalls : fresh.calls = freshBefore.calls ++ served
  turns : ∃ turns freshTurns, s.history = before.history ++ turns ∧
    fresh.history = freshBefore.history ++ freshTurns ∧ Turn.Covers turns freshTurns

/-- One call is being served in both sessions, stands at the same point in both, and needs a certain
number of answers at most. -/
def Abreast (before s freshBefore fresh : Session) (operation : Operation) (left : Nat) : Prop :=
  ∃ step freshStep turns freshTurns, before.Stands s operation step turns ∧
    freshBefore.Stands fresh operation freshStep freshTurns ∧ step.Mirrors freshStep ∧
    Turn.Covers turns freshTurns ∧ step.progress.left ≤ left

variable {before s freshBefore fresh : Session} {operation : Operation} {left : Nat}

theorem Abreast.history (h : before.Abreast s freshBefore fresh operation left) :
    before.history <+: s.history := by
  obtain ⟨step, freshStep, turns, freshTurns, hstands, -⟩ := h
  exact hstands.history ▸ List.prefix_append _ _

/-- Both take the step behind the same answer, or have ended before. -/
theorem Abreast.answer (h : before.Abreast s freshBefore fresh operation (left + 1))
    (responder : Responder)
    (hwell : before.SavesWell (s.handle (.answer before.calls.length responder))) :
    before.Abreast (s.handle (.answer before.calls.length responder)) freshBefore
      (fresh.handle (.answer freshBefore.calls.length responder)) operation left := by
  obtain ⟨step, freshStep, turns, freshTurns, hstands, hfresh, hmirrors, hcovers, hleft⟩ := h
  cases hprogress : step.progress with
  | waiting address w =>
    -- both wait for the same call, and get the same answer
    have hnext := hstands.answer hprogress responder
    have hfreshNext := hfresh.answer (hmirrors.progress.trans hprogress) responder
    have hresume := hmirrors.broker.resume step.files w (responder w.call) (hnext.savesWell hwell)
    rw [hmirrors.files] at hfreshNext
    refine ⟨_, _, _, _, hnext, hfreshNext, hresume, ?_, ?_⟩
    · exact hcovers.append (Turn.covers_of_progress hresume.progress)
    · rw [hprogress] at hleft
      have := step.broker.left_resume step.files w (responder w.call)
      change w.left ≤ left + 1 at hleft
      omega
  | finished result =>
    -- both have ended, and the answer is lost in both
    rw [hstands.lost hprogress, hfresh.lost (hmirrors.progress.trans hprogress)]
    refine ⟨step, freshStep, turns, freshTurns, hstands, hfresh, hmirrors, hcovers, ?_⟩
    rw [hprogress]
    exact Nat.zero_le _

/-- A call that needs no more answers has ended, and an answer to it is lost. -/
theorem Abreast.lost (h : before.Abreast s freshBefore fresh operation 0) (responder : Responder) :
    s.handle (.answer before.calls.length responder) = s := by
  obtain ⟨step, freshStep, turns, freshTurns, hstands, -, -, -, hleft⟩ := h
  obtain ⟨result, hresult⟩ := Progress.finished_of_left hleft
  exact hstands.lost hresult responder

/-- What can be said once the call has ended. -/
theorem Abreast.alike (h : before.Abreast s freshBefore fresh operation 0) (hgated : s.Gated) :
    s.Mirrors fresh ∧
      ∃ result, before.Alike s freshBefore fresh [⟨operation, .finished result⟩] := by
  obtain ⟨step, freshStep, turns, freshTurns, hstands, hfresh, hmirrors, hcovers, hleft⟩ := h
  obtain ⟨result, hresult⟩ := Progress.finished_of_left hleft
  refine ⟨⟨?_, ?_, hgated⟩, result, ?_, ?_,
    ⟨turns, freshTurns, hstands.history, hfresh.history, hcovers⟩⟩
  · rw [hstands.broker, hfresh.broker]
    exact hmirrors.broker
  · rw [hstands.files, hfresh.files, hmirrors.files]
  · rw [hstands.calls, hresult]
  · rw [hfresh.calls, hmirrors.progress, hresult]

/-- Where both gates are alike the two sessions stand at the same point from the first step on. -/
theorem abreast_arrival (h : s.Mirrors fresh) {operation : Operation}
    (hgates : fresh.broker.gate.isPassed operation.serviceId
      = s.broker.gate.isPassed operation.serviceId)
    (hwell : s.SavesWell (s.handle (.arrival operation))) :
    s.Abreast (s.handle (.arrival operation)) fresh (fresh.handle (.arrival operation)) operation 2 := by
  have harrival := stands_arrival s operation
  have hfreshArrival := stands_arrival fresh operation
  rw [h.files] at hfreshArrival
  have hbegin := h.broker.begin s.files hgates (@Stands.savesWell _ _ _ _ [] _ _ _ harrival hwell)
  exact ⟨_, _, _, _, harrival, hfreshArrival, hbegin, Turn.covers_of_progress hbegin.progress,
    s.broker.left_begin s.files operation⟩

/-- Where only the gate of the running broker is passed the second session has to wait for a probe,
and has caught up behind its answer. -/
theorem abreast_probe (h : s.Mirrors fresh) {operation : Operation} {responder : Responder}
    (hpassed : s.broker.gate.isPassed operation.serviceId = true)
    (hclosed : fresh.broker.gate.isPassed operation.serviceId ≠ true)
    (hprobe : ∃ response, responder .probe = .ok response)
    (hwell : s.SavesWell (s.handle (.arrival operation))) :
    s.Abreast (s.handle (.arrival operation)) fresh
      ((fresh.handle (.arrival operation)).handle (.answer fresh.calls.length responder))
      operation 1 := by
  have harrival := stands_arrival s operation
  have hfreshArrival := stands_arrival fresh operation
  rw [h.files] at hfreshArrival
  obtain ⟨address, haddress⟩ := h.gated.passed _ hpassed
  obtain ⟨response, hresponse⟩ := hprobe
  have hbegin : s.broker.begin s.files operation = s.broker.proceed s.files operation :=
    if_pos hpassed
  -- what has passed the gate once is registered, so the probe can be sent
  have hwaits : fresh.broker.begin s.files operation
      = ⟨fresh.broker, s.files, none, .waiting address (.probe operation)⟩ := by
    unfold Broker.begin Broker.await
    rw [if_neg hclosed, h.broker.registry]
    simp only [Waiting.serviceId, haddress]
  rw [hbegin] at harrival
  rw [hwaits] at hfreshArrival
  have hcaught := hfreshArrival.answer rfl responder
  have hresume : fresh.broker.resume s.files (.probe operation) (responder .probe)
      = Broker.proceed { fresh.broker with gate := fresh.broker.gate.mark operation.serviceId }
        s.files operation := by
    rw [hresponse]
    rfl
  have hproceed := (h.broker.mark_fresh hpassed).proceed s.files operation
    (@Stands.savesWell _ _ _ _ [] _ _ _ harrival hwell)
  rw [← hresume] at hproceed
  exact ⟨_, _, _, _, harrival, hcaught, hproceed,
    (Turn.covers_of_probe rfl).append (Turn.covers_of_progress hproceed.progress),
    s.broker.left_proceed s.files operation⟩

/-- **One call.** It is answered the same in both sessions. -/
theorem serve_alike (h : s.Mirrors fresh) (operation : Operation) {responder : Responder}
    (hprobe : ∃ response, responder .probe = .ok response)
    (hwell : s.SavesWell (s.serve operation responder)) :
    (s.serve operation responder).Mirrors (fresh.serve operation responder) ∧
      ∃ result, s.Alike (s.serve operation responder) fresh (fresh.serve operation responder)
        [⟨operation, .finished result⟩] := by
  let answer : Event := .answer s.calls.length responder
  let freshAnswer : Event := .answer fresh.calls.length responder
  let s₁ := s.handle (.arrival operation)
  let fresh₁ := fresh.handle (.arrival operation)
  let s₂ := s₁.handle answer
  let fresh₂ := fresh₁.handle freshAnswer
  let s₃ := s₂.handle answer
  let fresh₃ := fresh₂.handle freshAnswer
  have hgated : s₃.Gated := ((h.gated.handle _).handle _).handle _
  have hwell₃ : s.SavesWell s₃ := hwell
  have hwell₂ : s.SavesWell s₂ := hwell₃.of_grows (history_grows s₂ answer)
  have hwell₁ : s.SavesWell s₁ := hwell₂.of_grows (history_grows s₁ answer)
  suffices habreast : s.Abreast s₃ fresh fresh₃ operation 0 from habreast.alike hgated
  by_cases hgates : fresh.broker.gate.isPassed operation.serviceId
      = s.broker.gate.isPassed operation.serviceId
  · have habreast : s.Abreast s₁ fresh fresh₁ operation 2 := abreast_arrival h hgates hwell₁
    exact (habreast.answer responder hwell₂).answer responder hwell₃
  · -- whatever has passed the second gate has passed the first one too
    have hpassed : s.broker.gate.isPassed operation.serviceId = true := by
      by_contra hclosed
      have hfreshClosed := fun hopen => hclosed (h.broker.gate operation.serviceId hopen)
      exact hgates ((Bool.eq_false_iff.2 hfreshClosed).trans (Bool.eq_false_iff.2 hclosed).symm)
    have hclosed : fresh.broker.gate.isPassed operation.serviceId ≠ true :=
      fun hopen => hgates (hopen.trans hpassed.symm)
    have habreast : s.Abreast s₁ fresh fresh₂ operation 1 :=
      abreast_probe h hpassed hclosed hprobe hwell₁
    have habreast₂ : s.Abreast s₂ fresh fresh₃ operation 0 := habreast.answer responder hwell₂
    -- the running broker has ended by then, and its last answer is lost
    have hlost : s₃ = s₂ := habreast₂.lost responder
    rw [hlost]
    exact habreast₂

/-! ### All later calls -/

/-- Where every save succeeds it does so for later calls. -/
theorem Saving.serveAll {path : String} (h : s.Saving path) (calls : List (Operation × Responder)) :
    (s.serveAll calls).Saving path := by
  unfold Session.serveAll
  induction calls generalizing s with
  | nil => exact h
  | cons call calls ih =>
    refine ih (h.run fun event hevent => ?_)
    simp only [List.mem_cons, List.not_mem_nil, or_false] at hevent
    rcases hevent with rfl | rfl | rfl
    · trivial
    · trivial
    · trivial

theorem Saving.savesWell {path : String} (h : s.Saving path) : before.SavesWell s := by
  intro saved hmem
  have hsublist := (List.drop_sublist before.history.length s.history).filterMap Turn.saved
  exact h.saved saved (hsublist.subset hmem)

theorem Alike.nil (s fresh : Session) : s.Alike s fresh fresh [] :=
  ⟨(List.append_nil _).symm, (List.append_nil _).symm,
    ⟨[], [], (List.append_nil _).symm, (List.append_nil _).symm, Turn.Covers.refl []⟩⟩

theorem Alike.trans {s' fresh' : Session} {served served' : List Call}
    (h : before.Alike s freshBefore fresh served) (h' : s.Alike s' fresh fresh' served') :
    before.Alike s' freshBefore fresh' (served ++ served') := by
  obtain ⟨hcalls, hfreshCalls, turns, freshTurns, hturns, hfreshTurns, hcovers⟩ := h
  obtain ⟨hcalls', hfreshCalls', turns', freshTurns', hturns', hfreshTurns', hcovers'⟩ := h'
  refine ⟨?_, ?_, turns ++ turns', freshTurns ++ freshTurns', ?_, ?_, hcovers.append hcovers'⟩
  · rw [hcalls', hcalls, List.append_assoc]
  · rw [hfreshCalls', hfreshCalls, List.append_assoc]
  · rw [hturns', hturns, List.append_assoc]
  · rw [hfreshTurns', hfreshTurns, List.append_assoc]

theorem Alike.history {served : List Call} (h : before.Alike s freshBefore fresh served) :
    before.history <+: s.history := by
  obtain ⟨turns, -, hturns, -⟩ := h.turns
  exact hturns ▸ List.prefix_append _ _

/-- **All later calls.** They are answered the same in both sessions. -/
theorem serveAll_alike (h : s.Mirrors fresh) {calls : List (Operation × Responder)}
    (hprobes : ∀ call ∈ calls, ∃ response, call.2 .probe = .ok response)
    (hwell : s.SavesWell (s.serveAll calls)) :
    (s.serveAll calls).Mirrors (fresh.serveAll calls) ∧
      ∃ results : List (Except BrokerError Reply), results.length = calls.length ∧
        s.Alike (s.serveAll calls) fresh (fresh.serveAll calls)
          (List.zipWith (fun call result => ⟨call.1, .finished result⟩) calls results) := by
  induction calls generalizing s fresh with
  | nil => exact ⟨h, [], rfl, Alike.nil s fresh⟩
  | cons call calls ih =>
    let s₁ := s.serve call.1 call.2
    have hlater : s₁.history <+: (s₁.serveAll calls).history := history_grows_serveAll s₁ calls
    have hwell₁ : s.SavesWell s₁ := hwell.of_grows hlater
    -- the first call, and then the others from where it has left both sessions
    obtain ⟨hmirrors, result, halike⟩ :=
      serve_alike h call.1 (hprobes call List.mem_cons_self) hwell₁
    have hwell₂ : s₁.SavesWell (s₁.serveAll calls) := hwell.since halike.history hlater
    obtain ⟨hmirrors', results, hlength, halike'⟩ :=
      ih hmirrors (fun later hmem => hprobes later (List.mem_cons_of_mem _ hmem)) hwell₂
    refine ⟨hmirrors', result :: results, ?_, halike.trans halike'⟩
    rw [List.length_cons, List.length_cons, hlength]

/-! ### The restart -/

end Session

/-- What is read from the text of a document is the document. -/
def Json.ComesBack (document : Json) : Prop :=
  ∀ value, Json.ofText? document.pretty = .ok value → value = document.canonical

/-- Records whose document comes back are found again, with documents in their slots. -/
theorem RecordSet.Legible.stored_of_comesBack {records read : RecordSet} (h : records.Legible)
    (hback : (RecordSet.shape.codec.write records).ComesBack)
    (hread : Store.parseRecords (RecordSet.shape.codec.write records).pretty = .ok read) :
    read = records.stored := by
  refine Store.parseRecords_of_reread h hread (hback _ ?_)
  exact Json.ofText?_pretty (h.every_write.imp fun n hn => Number.readable_of_inRange hn)

namespace Session

variable {s : Session}

/-- What a session of a running broker and one of a broker that has started again come to when they
serve the same calls. -/
structure Indistinguishable (s fresh : Session) (calls : List (Operation × Responder)) : Prop where
  /-- Every call ends, and with the same answer in both; the plugin gets the same calls in the same
  order, except that the broker that has started again may probe more often. -/
  alike : ∃ results : List (Except BrokerError Reply), results.length = calls.length ∧
    s.Alike (s.serveAll calls) fresh (fresh.serveAll calls)
      (List.zipWith (fun call result => ⟨call.1, .finished result⟩) calls results)
  /-- The records can be written, and are written the same. -/
  documents : ∃ document, (s.serveAll calls).broker.store.records.toDocument = .ok document ∧
    (fresh.serveAll calls).broker.store.records.toDocument = .ok document
  files : (fresh.serveAll calls).files = (s.serveAll calls).files

/-- A state that a broker reaches that has started on its record file and whose calls come from the
management interface. -/
def Reached (s : Session) (registry : Registry) (path : String) : Prop :=
  ∃ files b events, Broker.start registry (.new (.file path)) files = .ok b ∧
    (∀ event ∈ events, event.Accepted b.services) ∧ s = (opened b files).run events

theorem Reached.readable {registry : Registry} {path : String} (h : s.Reached registry path) :
    s.Readable := by
  obtain ⟨files, b, events, hstart, haccepted, rfl⟩ := h
  obtain ⟨records, -, hreadable, -⟩ := run_kept hstart haccepted
  exact hreadable

/-- Behind a save that has succeeded the record file holds the records. -/
theorem Reached.holds {registry : Registry} {path : String} (h : s.Reached registry path)
    (hlast : (Turn.attempts s.history).getLast? = some (.ok ())) :
    s.files.Holds path s.broker.store.records := by
  obtain ⟨files, b, events, hstart, haccepted, rfl⟩ := h
  obtain ⟨records, -, -, -, hfiled⟩ := run_kept hstart haccepted
  exact hfiled.current hlast

/-- The records that a broker finds when it starts again look like those of the running one. -/
theorem Reached.mirrors {registry : Registry} {path : String} {broker : Broker}
    (h : s.Reached registry path)
    (hsaved : ∀ saved ∈ (Turn.attempts s.history).getLast?, saved = .ok ())
    (hfresh : Broker.start registry (.new (.file path)) s.files = .ok broker)
    (hwritten : ∀ document, s.broker.store.records.toDocument = .ok document → document.ComesBack) :
    s.Mirrors (opened broker s.files) ∧ s.Writable := by
  obtain ⟨files, b, events, hstart, haccepted, rfl⟩ := h
  obtain ⟨records, hrestores, hreadable, hunsaved, hfiled⟩ := run_kept hstart haccepted
  obtain ⟨found, hfound, rfl⟩ := Broker.start_ok_iff.1 hfresh
  have hrecords : ((opened b files).run events).broker.store.records.Mirrors found := by
    cases hlast : (Turn.attempts ((opened b files).run events).history).getLast? with
    | none =>
      -- nothing has been saved, so the file is the one that the running broker has started on
      have hnone := List.getLast?_eq_none_iff.1 hlast
      have hsame := hrestores.of_nodes (hunsaved.nodes hnone) (hunsaved.workDir hnone)
      rw [hunsaved.records hnone, hsame.unique hfound]
      exact RecordSet.Mirrors.refl records
    | some saved =>
      obtain rfl : saved = .ok () := hsaved saved hlast
      -- what is found is the text that was saved last
      have hread := hfound.parsed (hreadable.reads (hfiled.current hlast))
      have hback := hwritten _ (hreadable.records.storable.writable.toDocument)
      rw [hreadable.records.stored_of_comesBack hback hread]
      exact hreadable.records.mirrors_stored
  have hgated : ((opened b files).run events).Gated := by
    obtain ⟨start, -, rfl⟩ := Broker.start_ok_iff.1 hstart
    refine run_induction ⟨?_, fun id hpassed => ?_, fun _ hcall => (nomatch hcall)⟩
      (fun s event hs => hs.handle event) events
    · exact Sound.initial Outage.sparesRecords_none files
    · cases hpassed
  refine ⟨⟨⟨hfiled.regular.registry.symm, ?_, hfiled.medium.symm, hrecords, hreadable.sound.outage,
    rfl⟩, rfl, hgated⟩, hreadable.writable⟩
  -- nothing has passed the new gate
  intro id hpassed
  rw [opened, ProbeGate.isPassed_empty] at hpassed
  cases hpassed

/-- **Restart transparency.** A broker that starts on the record file of a running one, behind a save
that has succeeded, serves later calls as the running one does; after each of them the two cannot be
told apart. -/
theorem restart_transparent {registry : Registry} {path : String} {broker : Broker}
    {calls : List (Operation × Responder)} (hreached : s.Reached registry path)
    (hsaved : ∀ saved ∈ (Turn.attempts s.history).getLast?, saved = .ok ())
    (hfresh : Broker.start registry (.new (.file path)) s.files = .ok broker)
    (hwritten : ∀ document, s.broker.store.records.toDocument = .ok document → document.ComesBack)
    (hprobes : ∀ call ∈ calls, ∃ response, call.2 .probe = .ok response)
    (hwell : s.SavesWell (s.serveAll calls)) :
    ∀ served, served <+: calls → s.Indistinguishable (opened broker s.files) served := by
  intro served hserved
  obtain ⟨hmirrors, hwritable⟩ := hreached.mirrors hsaved hfresh hwritten
  -- what is asked of all calls holds of the first ones
  have hprobes' : ∀ call ∈ served, ∃ response, call.2 .probe = .ok response :=
    fun call hcall => hprobes call (hserved.subset hcall)
  have hwell' : s.SavesWell (s.serveAll served) := by
    obtain ⟨later, rfl⟩ := hserved
    rw [serveAll_append] at hwell
    exact hwell.of_grows (history_grows_serveAll _ later)
  obtain ⟨hlater, halike⟩ := serveAll_alike hmirrors hprobes' hwell'
  -- the records of the running broker can still be written
  have hwritable' : (s.serveAll served).Writable :=
    serveAll_induction hwritable (fun s event hs => hs.handle event) served
  obtain ⟨document, hdocument⟩ := hwritable'.exists_toDocument
  have hfreshDocument := hlater.broker.records.toDocument.trans hdocument
  exact ⟨halike, ⟨document, hdocument, hfreshDocument⟩, hlater.files⟩

end Session

/-! ### A restart behind a first provision -/

namespace FirstProvision

open Installation

/-- The details of a provision. -/
def details : ProvisionDetails :=
  ⟨"svc", "plan", "org", "space", some (.obj [("name", .str "n"),
    ("volume_capabilities", .arr [.obj [("mount", .obj [])]])])⟩

/-- The request for it. -/
def request : HttpRequest :=
  ⟨.put, "/v2/service_instances/i", some "application/json",
    (ProvisionDetails.shape.codec.write details).pretty⟩

/-- The broker at the start, without records. -/
def broker : Broker := ⟨registry, .empty, ⟨.file path, .empty, .none⟩⟩

/-- The provision comes in, and the plugin answers the probe and makes the volume. -/
def events : List Event :=
  [.arrival (.provision "i" details), .answer 0 plugin, .answer 0 plugin]

/-- The session behind them. -/
def session : Session := (Session.opened broker .empty).run events

/-- The record of the instance, with a live fingerprint. -/
def record : InstanceRecord := details.toRecord ⟨"n", ⟨"n", 0, .empty⟩⟩

/-- Later calls: the instance is bound and taken away. -/
def calls : List (Operation × Responder) :=
  [(.bind "i" "b" ⟨"svc", "", "app", none, none⟩, plugin), (.deprovision "i" ⟨"svc", "plan"⟩, plugin)]

theorem details_request : request.details ProvisionDetails.shape.codec = .ok details := by
  have hcanonical : ∀ p, details.parameters = some p → p.canonical = p ∧ p ≠ .null := by
    rintro _ ⟨⟩
    exact ⟨rfl, nofun⟩
  have hreads := @ProvisionDetails.readsBack details fun p hp =>
    ⟨(hcanonical p hp).1 ▸ Json.tidy_canonical p, (hcanonical p hp).2⟩
  have hwrite : ProvisionDetails.shape.codec.write details
      = .obj [("service_id", .str "svc"), ("plan_id", .str "plan"),
        ("organization_guid", .str "org"), ("space_guid", .str "space"),
        ("parameters", .obj [("name", .str "n"),
          ("volume_capabilities", .arr [.obj [("mount", .obj [])]])])] := rfl
  have hcapability : (Json.obj [("mount", .obj [])]).Every Number.InRange := by
    refine .obj ?_
    simp only [List.forall_mem_cons, List.not_mem_nil, false_imp_iff, implies_true, and_true]
    exact .obj fun _ hm => absurd hm List.not_mem_nil
  have hparameters : (Json.obj [("name", .str "n"),
      ("volume_capabilities", .arr [.obj [("mount", .obj [])]])]).Every Number.InRange := by
    refine .obj ?_
    simp only [List.forall_mem_cons, List.not_mem_nil, false_imp_iff, implies_true, and_true]
    refine ⟨.str _, .arr fun item hitem => ?_⟩
    rw [List.mem_singleton.1 hitem]
    exact hcapability
  -- the body holds no number, so all of them are within range
  have hnumbers : (ProvisionDetails.shape.codec.write details).Every Number.InRange := by
    rw [hwrite]
    refine .obj ?_
    simp only [List.forall_mem_cons, List.not_mem_nil, false_imp_iff, implies_true, and_true]
    exact ⟨.str _, .str _, .str _, .str _, hparameters⟩
  exact HttpRequest.details_pretty (by rfl) rfl hreads hnumbers rfl (by decide) (by decide +kernel)

theorem demand_request (services : List Service) :
    request.demand services = .operation (.provision "i" details) := by
  have hroute : Route.ofPath? request.path = some (.serviceInstance "i") := by
    have hpath : request.path = HttpRequest.path ⟨.put, request.target, none, ""⟩ := rfl
    rw [hpath]
    decide +kernel
  have hprovision : request.provision "i" = .ok (.provision "i" details) := by
    unfold HttpRequest.provision
    rw [details_request]
    rfl
  have hon : request.demandOn? services (.serviceInstance "i")
      = some (request.provision "i").toDemand := rfl
  unfold HttpRequest.demand
  rw [hroute]
  dsimp only
  rw [hon, hprovision]
  rfl

theorem reached_session : session.Reached registry path := by
  refine ⟨.empty, broker, events, Broker.start_ok_iff.2 ⟨_, .missing ?_, rfl⟩, ?_, rfl⟩
  · unfold FileSystem.pathExists FileSystem.node?
    rw [place?_path]
    rfl
  · intro event hevent
    rcases List.mem_cons.1 hevent with rfl | hevent
    · exact ⟨request, demand_request _⟩
    · rcases List.mem_cons.1 hevent with rfl | hevent
      · trivial
      · rw [List.mem_singleton.1 hevent]
        trivial

/-- The step that records the instance. -/
theorem commit_session :
    ∃ step : Step, session.broker = step.broker ∧ session.files = step.files ∧
      Turn.attempts session.history = step.saved.toList ∧
      step.Performs ⟨registry, ProbeGate.empty.mark "svc", broker.store⟩ .empty (.putInstance "i" record) :=
  ⟨_, rfl, rfl, rfl, @Broker.commit_performs ⟨registry, ProbeGate.empty.mark "svc", broker.store⟩
    Outage.sparesRecords_none .empty (.putInstance "i" record)⟩

theorem records_session : session.broker.store.records = ⟨Dict.empty.insert "i" record, .empty⟩ := by
  obtain ⟨step, hbroker, -, -, hperforms⟩ := commit_session
  rw [hbroker, hperforms.store]
  rfl

/-- Every save succeeds, and so do all later ones. -/
theorem saving_session : session.Saving path := by
  refine Session.Saving.run ⟨⟨?_, fun _ he => absurd he List.not_mem_nil⟩, rfl, rfl, ?_, ?_⟩ ?_
  · exact @Session.Sound.initial broker Outage.sparesRecords_none .empty
  · exact unhindered rfl rfl rfl
  · exact fun _ hmem => (nomatch hmem)
  · intro event hevent
    rcases List.mem_cons.1 hevent with rfl | hevent
    · trivial
    · rcases List.mem_cons.1 hevent with rfl | hevent
      · trivial
      · rw [List.mem_singleton.1 hevent]
        trivial

theorem saved_session : (Turn.attempts session.history).getLast? = some (.ok ()) := by
  obtain ⟨step, -, -, hattempts, hperforms⟩ := commit_session
  have hsaved := saving_session.saved
  rw [hattempts, hperforms.saved] at hsaved ⊢
  exact congrArg some (hsaved _ (List.mem_singleton_self _))

/-- The fingerprint holds no number but `0`, so the document comes back. -/
theorem comesBack_session : ∀ document,
    session.broker.store.records.toDocument = .ok document → document.ComesBack := by
  intro document hdocument value hvalue
  have hlegible := reached_session.readable.records
  have hwritten := hlegible.storable.writable.toDocument
  obtain rfl := Except.ok.inj (hwritten.symm.trans hdocument)
  -- what is read is the canonical document with every number read back
  rw [Json.ofText?_pretty (hlegible.every_write.imp fun n hn => Number.readable_of_inRange hn)]
    at hvalue
  rw [← Except.ok.inj hvalue, records_session]
  rfl

/-- **A restart behind a first provision.** A broker starts on the record file and serves a bind and a
deprovision like the running one, whose fingerprint is still live. -/
theorem restarts_unnoticed :
    ∃ fresh, Broker.start registry (.new (.file path)) session.files = .ok fresh ∧
      ∀ served, served <+: calls →
        session.Indistinguishable (Session.opened fresh session.files) served := by
  have hshallow : session.broker.store.records.Shallow := by
    rw [records_session]
    exact fun _ he => absurd he List.not_mem_nil
  have hholds := reached_session.holds saved_session
  obtain ⟨fresh, hfresh⟩ := reached_session.readable.starts hholds hshallow registry
  refine ⟨fresh, hfresh, Session.restart_transparent reached_session ?_ hfresh comesBack_session
    ?_ (saving_session.serveAll calls).savesWell⟩
  · intro saved hmem
    exact (Option.some.inj (saved_session.symm.trans hmem)).symm
  · intro call hcall
    rcases List.mem_cons.1 hcall with rfl | hcall
    · exact ⟨_, rfl⟩
    · rw [List.mem_singleton.1 hcall]
      exact ⟨_, rfl⟩

end FirstProvision

end VolumeBroker
