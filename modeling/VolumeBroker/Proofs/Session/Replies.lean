import VolumeBroker.Proofs.Session.Basic
/-!
# Replies belong to their operations

A call that ends well gives the kind of reply that belongs to its operation, whatever state the broker
is in and whatever else is out of order. `Broker.begin_fits` and `Broker.resume_fits` say so of each
step, and `Session.Holds` keeps it of one call of a session while the others go on.
-/

namespace VolumeBroker

/-- The kind of reply that belongs to an operation. -/
inductive Reply.Fits : Reply → Operation → Prop where
  | provisioned (answer : Provisioned) (id : String) (details : ProvisionDetails) :
      Fits (.provisioned answer) (.provision id details)
  | deprovisioned (answer : Deprovisioned) (id : String) (details : DeprovisionDetails) :
      Fits (.deprovisioned answer) (.deprovision id details)
  | bound (binding : Binding) (instanceId bindingId : String) (details : BindDetails) :
      Fits (.bound binding) (.bind instanceId bindingId details)
  | unbound (instanceId bindingId : String) (details : UnbindDetails) :
      Fits .unbound (.unbind instanceId bindingId details)

/-- Where a call stands belongs to its operation: what it waits for, and what it has replied. -/
structure Progress.Fits (progress : Progress) (operation : Operation) : Prop where
  serves : progress.Serves operation
  reply : ∀ reply, progress = .finished (.ok reply) → reply.Fits operation

namespace Transaction

variable {s s' : Store} {reply : Reply}

theorem reply_of_provision {id : String} {record : InstanceRecord}
    (h : provision s id record = .ok (s', reply)) : reply = .provisioned .finished := by
  unfold provision at h
  split at h
  · cases h
  · obtain ⟨_, -, h⟩ := exists_of_bind_ok h
    exact (Prod.mk.inj (Except.ok.inj h)).2.symm

theorem reply_of_deprovision {id : String} (h : deprovision s id = .ok (s', reply)) :
    reply = .deprovisioned .finished := by
  obtain ⟨_, -, h⟩ := exists_of_bind_ok h
  exact (Prod.mk.inj (Except.ok.inj h)).2.symm

theorem reply_of_bind {r : Registry} {instanceId bindingId : String} {details : BindDetails}
    (h : bind r s instanceId bindingId details = .ok (s', reply)) :
    ∃ binding, reply = .bound binding := by
  -- of the many steps only the last one makes a reply; the others just have to be passed
  obtain ⟨_, -, h⟩ := exists_of_bind_ok h
  split at h
  · cases h
  obtain ⟨_, -, h⟩ := exists_of_bind_ok h
  obtain ⟨_, -, h⟩ := exists_of_bind_ok h
  obtain ⟨_, -, h⟩ := exists_of_bind_ok h
  obtain ⟨_, -, h⟩ := exists_of_bind_ok h
  obtain ⟨_, -, h⟩ := exists_of_bind_ok h
  split at h
  · cases h
  obtain ⟨_, -, h⟩ := exists_of_bind_ok h
  obtain ⟨_, -, h⟩ := exists_of_bind_ok h
  exact ⟨_, (Prod.mk.inj (Except.ok.inj h)).2.symm⟩

theorem reply_of_unbind {instanceId bindingId : String}
    (h : unbind s instanceId bindingId = .ok (s', reply)) : reply = .unbound := by
  obtain ⟨_, -, h⟩ := exists_of_bind_ok h
  obtain ⟨_, -, h⟩ := exists_of_bind_ok h
  obtain ⟨_, -, h⟩ := exists_of_bind_ok h
  exact (Prod.mk.inj (Except.ok.inj h)).2.symm

end Transaction

namespace Broker

variable {operation : Operation}

theorem refuse_fits (b : Broker) (files : FileSystem) (e : BrokerError) :
    (b.refuse files e).progress.Fits operation :=
  ⟨Progress.serves_finished _ _, fun _ h => nomatch h⟩

theorem await_fits (b : Broker) (files : FileSystem) {w : Waiting} (h : w.Serves operation) :
    (b.await files w).progress.Fits operation :=
  ⟨await_serves h, fun reply hreply => absurd hreply ((b.await_spares files w).unanswered reply)⟩

/-- A transaction whose reply belongs to the operation ends it well, whatever comes of the save. -/
theorem commit_fits (b : Broker) (files : FileSystem)
    {outcome : Except BrokerError (Store × Reply)}
    (h : ∀ store reply, outcome = .ok (store, reply) → reply.Fits operation) :
    (b.commit files outcome).progress.Fits operation := by
  refine ⟨?_, fun reply hreply => ?_⟩
  · cases outcome <;> exact Progress.serves_finished _ _
  · rcases outcome with e | ⟨store, given⟩
    · -- what is refused stays refused
      cases hreply
    · refine h store reply ?_
      have hsettled : settle (.ok given) (store.save files).2 = .ok reply :=
        Progress.finished.inj hreply
      rcases hsave : (store.save files).2 with e | _
      · rw [hsave] at hsettled
        cases hsettled
      · rw [hsave] at hsettled
        cases hsettled
        rfl

theorem commit_fits_of_change (b : Broker) (files : FileSystem) {c : Change}
    (h : operation.change? = some c) :
    (b.commit files (c.run b.registry b.store)).progress.Fits operation := by
  refine b.commit_fits files fun store reply hrun => ?_
  cases operation with
  | provision id details => cases h
  | deprovision id details => cases h
  | bind instanceId bindingId details =>
    cases h
    obtain ⟨binding, rfl⟩ := Transaction.reply_of_bind hrun
    exact .bound binding _ _ _
  | unbind instanceId bindingId details =>
    cases h
    obtain rfl := Transaction.reply_of_unbind hrun
    exact .unbound _ _ _

theorem proceed_fits (b : Broker) (files : FileSystem) (operation : Operation) :
    (b.proceed files operation).progress.Fits operation := by
  have hproceeds := b.proceed_proceeds files operation
  generalize b.proceed files operation = step at hproceeds ⊢
  -- three kinds of steps: a refusal, a call of the plugin, and a change that is committed at once
  cases hproceeds with
  | invalid => exact b.refuse_fits files _
  | creates hrequest => exact b.await_fits files (.creation hrequest)
  | unfit => exact b.refuse_fits files _
  | deletes => exact b.await_fits files (.deletion _ _ _)
  | commits hchange => exact b.commit_fits_of_change files hchange

/-- **The first step of a call.** -/
theorem begin_fits (b : Broker) (files : FileSystem) (operation : Operation) :
    (b.begin files operation).progress.Fits operation := by
  unfold begin
  split
  · exact b.proceed_fits files operation
  · exact b.await_fits files (.probe operation)

/-- **A step behind an answer of the plugin.** -/
theorem resume_fits (b : Broker) (files : FileSystem) {w : Waiting} (hw : w.Serves operation)
    (answer : Except PluginError w.call.Response) :
    (b.resume files w answer).progress.Fits operation := by
  cases hw with
  | probe =>
    cases answer with
    | error e => exact b.refuse_fits files _
    | ok response => exact Broker.proceed_fits _ files operation
  | creation =>
    cases answer with
    | error e => exact b.refuse_fits files _
    | ok response =>
      refine b.commit_fits files fun store reply hrun => ?_
      obtain rfl := Transaction.reply_of_provision hrun
      exact .provisioned _ _ _
  | deletion =>
    cases answer with
    | error e => exact b.refuse_fits files _
    | ok response =>
      refine b.commit_fits files fun store reply hrun => ?_
      obtain rfl := Transaction.reply_of_deprovision hrun
      exact .deprovisioned _ _ _

end Broker

/-! ### One call among the others -/

namespace Session

variable {s : Session} {number : Nat} {operation : Operation}

/-- A session holds a call of an operation, and where it stands belongs to the operation. -/
def Holds (s : Session) (number : Nat) (operation : Operation) : Prop :=
  ∃ progress, s.calls[number]? = some ⟨operation, progress⟩ ∧ progress.Fits operation

/-- A call that comes in is held under the next number. -/
theorem holds_arrival (s : Session) (operation : Operation) :
    (s.handle (.arrival operation)).Holds s.calls.length operation :=
  ⟨_, List.getElem?_concat_length, s.broker.begin_fits s.files operation⟩

/-- It is held from then on. -/
theorem Holds.handle (h : s.Holds number operation) (event : Event) :
    (s.handle event).Holds number operation := by
  obtain ⟨progress, hcall, hfits⟩ := h
  cases event with
  | arrival other =>
    have hlength := (List.getElem?_eq_some_iff.1 hcall).1
    exact ⟨progress, (List.getElem?_append_left hlength).trans hcall, hfits⟩
  | answer asked responder =>
    rcases hasked : s.calls[asked]? with _ | ⟨other, ⟨address, w⟩ | result⟩
    · simp only [Session.handle, hasked]
      exact ⟨progress, hcall, hfits⟩
    · simp only [Session.handle, hasked]
      by_cases hsame : asked = number
      · -- the call itself goes on from what it has been waiting for
        subst hsame
        obtain ⟨rfl, rfl⟩ := Call.mk.inj (Option.some.inj (hasked.symm.trans hcall))
        have hlength := (List.getElem?_eq_some_iff.1 hcall).1
        exact ⟨_, List.getElem?_set_self hlength,
          s.broker.resume_fits s.files (hfits.serves address w rfl) _⟩
      · exact ⟨progress, (List.getElem?_set_ne hsame).trans hcall, hfits⟩
    · simp only [Session.handle, hasked]
      exact ⟨progress, hcall, hfits⟩
  | saving failure => exact ⟨progress, hcall, hfits⟩
  | locking paths => exact ⟨progress, hcall, hfits⟩

theorem Holds.run (h : s.Holds number operation) (events : List Event) :
    (s.run events).Holds number operation :=
  run_induction (P := fun s => s.Holds number operation) h (fun _ event hs => hs.handle event) events

end Session

end VolumeBroker
