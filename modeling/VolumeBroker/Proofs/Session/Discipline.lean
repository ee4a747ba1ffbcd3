import VolumeBroker.Proofs.Session.Apart
import VolumeBroker.Proofs.Session.Saving
/-!
# When the plugin is asked for a volume

A provision asks its plugin to create a volume and a deprovision asks it to delete one, and neither
does so before all its checks have passed: its service is registered, the call has got behind the probe
gate (`Turn.Enters`), and its parameters, ids and records are in order (`Operation.Orders`). A check
that fails ends the call with an error of its own (`Operation.Lacks`), and nothing has been asked for or
changed then. `Session.run_disciplined` says so of every session, as an equivalence: a call has made
exactly the plugin call that is due to it, once, and it has made none exactly if something was lacking.

The step lemma is `Guarding.abides`, by cases on what one turn of such a call can be (`Turn.Abides`). A
turn knows nothing of the other turns of its call, so what makes the count come out, `Turn.Belongs` and
`Exchanging.unordered`, is about the history before it.
-/

namespace VolumeBroker

/-! ### What an operation needs -/

/-- An operation on an instance itself, not on a binding. -/
def Operation.OnInstance : Operation → Prop
  | provision _ _ => True
  | deprovision _ _ => True
  | bind _ _ _ => False
  | unbind _ _ _ => False

/-- The plugin call that an operation makes behind the gate, if all its checks pass. -/
inductive Operation.Orders (records : RecordSet) : Operation → PluginCall → Prop where
  /-- A provision passes on the request that its parameters decode to. -/
  | creates {id : String} {details : ProvisionDetails} {raw : Json} {request : CreateVolumeRequest}
      (present : details.parameters = some raw)
      (decodes : CreateVolumeRequest.shape.codec.ofJson raw = .ok request)
      (named : request.name ≠ "") (capable : request.volumeCapabilities ≠ []) :
      Orders records (.provision id details) (.createVolume request)
  /-- A deprovision asks for the volume in the fingerprint of its instance, without any secret. -/
  | deletes {id : String} {details : DeprovisionDetails} {record : InstanceRecord}
      {fingerprint : Fingerprint} (instanceId : id ≠ "") (planId : details.planId ≠ "")
      (found : records.instances.get? id = some record)
      (reads : Fingerprint.ofSlot record.fingerprint = .ok fingerprint) :
      Orders records (.deprovision id details) (.deleteVolume ⟨fingerprint.volume.volumeId, .empty⟩)

/-- The first check of an operation behind the gate that fails, with its error. -/
inductive Operation.Lacks (records : RecordSet) : Operation → BrokerError → Prop where
  | parameters {id : String} {details : ProvisionDetails} (absent : details.parameters = none) :
      Lacks records (.provision id details) (.invalidParameters "no parameters supplied")
  | request {id : String} {details : ProvisionDetails} {raw : Json} {problem : Problem}
      (present : details.parameters = some raw)
      (fails : CreateVolumeRequest.shape.codec.ofJson raw = .error problem) :
      Lacks records (.provision id details) (.invalidParameters problem.message)
  | name {id : String} {details : ProvisionDetails} {raw : Json} {request : CreateVolumeRequest}
      (present : details.parameters = some raw)
      (decodes : CreateVolumeRequest.shape.codec.ofJson raw = .ok request)
      (unnamed : request.name = "") :
      Lacks records (.provision id details) (.invalidParameters "volume name is required")
  | capability {id : String} {details : ProvisionDetails} {raw : Json} {request : CreateVolumeRequest}
      (present : details.parameters = some raw)
      (decodes : CreateVolumeRequest.shape.codec.ofJson raw = .ok request)
      (named : request.name ≠ "") (incapable : request.volumeCapabilities = []) :
      Lacks records (.provision id details)
        (.invalidParameters "at least one volume capability is required")
  | instanceId {id : String} {details : DeprovisionDetails} (missing : id = "") :
      Lacks records (.deprovision id details) (.missingField "instance_id")
  | planId {id : String} {details : DeprovisionDetails} (instanceId : id ≠ "")
      (missing : details.planId = "") :
      Lacks records (.deprovision id details) (.missingField "plan_id")
  | record {id : String} {details : DeprovisionDetails} (instanceId : id ≠ "")
      (planId : details.planId ≠ "") (absent : records.instances.get? id = none) :
      Lacks records (.deprovision id details) (.instanceDoesNotExist id)
  | fingerprint {id : String} {details : DeprovisionDetails} {record : InstanceRecord}
      {problem : Mismatch} (instanceId : id ≠ "") (planId : details.planId ≠ "")
      (found : records.instances.get? id = some record)
      (fails : Fingerprint.ofSlot record.fingerprint = .error problem) :
      Lacks records (.deprovision id details) (.fingerprint id problem)

namespace Operation

variable {records : RecordSet} {operation : Operation}

theorem Orders.onInstance {call : PluginCall} (h : operation.Orders records call) :
    operation.OnInstance := by
  cases h <;> trivial

/-- An operation makes one plugin call at most. -/
theorem Orders.unique {a b : PluginCall} (ha : operation.Orders records a)
    (hb : operation.Orders records b) : a = b := by
  cases ha with
  | creates present decodes =>
    cases hb with
    | creates present' decodes' =>
      obtain rfl := Option.some.inj (present.symm.trans present')
      rw [Except.ok.inj (decodes.symm.trans decodes')]
  | deletes _ _ found reads =>
    cases hb with
    | deletes _ _ found' reads' =>
      obtain rfl := Option.some.inj (found.symm.trans found')
      rw [Except.ok.inj (reads.symm.trans reads')]

/-- An operation that lacks something makes none. -/
theorem Orders.not_lacks {call : PluginCall} {e : BrokerError} (h : operation.Orders records call) :
    ¬ operation.Lacks records e := by
  intro hlacks
  cases h with
  | creates present decodes named capable =>
    cases hlacks with
    | parameters absent => exact nomatch present.symm.trans absent
    | request present' fails =>
      obtain rfl := Option.some.inj (present.symm.trans present')
      exact nomatch decodes.symm.trans fails
    | name present' decodes' unnamed =>
      obtain rfl := Option.some.inj (present.symm.trans present')
      obtain rfl := Except.ok.inj (decodes.symm.trans decodes')
      exact named unnamed
    | capability present' decodes' _ incapable =>
      obtain rfl := Option.some.inj (present.symm.trans present')
      obtain rfl := Except.ok.inj (decodes.symm.trans decodes')
      exact capable incapable
  | deletes instanceId planId found reads =>
    cases hlacks with
    | instanceId missing => exact instanceId missing
    | planId _ missing => exact planId missing
    | record _ _ absent => exact nomatch found.symm.trans absent
    | fingerprint _ _ found' fails =>
      obtain rfl := Option.some.inj (found.symm.trans found')
      exact nomatch reads.symm.trans fails

/-- A field that is empty is one that the error names, and the service is never asked for. -/
theorem Lacks.ne_serviceId {e : BrokerError} (h : operation.Lacks records e) :
    e ≠ .missingField "service_id" := by
  cases h <;> simp

end Operation

/-- An operation on an instance changes the records only behind a good answer to its plugin call. -/
theorem Change.Of.served {c : Change} {operation : Operation} {answered : Option Answered}
    (h : c.Of operation answered) (hop : operation.OnInstance) :
    ∃ call response, answered = some ⟨call, .ok response⟩ ∧ call.isProbe = false := by
  cases h with
  | provision _ response => exact ⟨.createVolume _, response, rfl, rfl⟩
  | deprovision id details volumeId response => exact ⟨.deleteVolume _, response, rfl, rfl⟩
  | bind => exact hop.elim
  | unbind => exact hop.elim

/-- The parameters of a provision ask for a volume, or the first check that fails says why not. -/
theorem Parameters.volumeRequest_cases (records : RecordSet) (id : String)
    (details : ProvisionDetails) :
    (∃ request, volumeRequest details.parameters = .ok request ∧
      Operation.Orders records (.provision id details) (.createVolume request)) ∨
    ∃ e, volumeRequest details.parameters = .error e ∧
      Operation.Lacks records (.provision id details) e := by
  unfold volumeRequest
  split
  · next hpresent => exact .inr ⟨_, rfl, .parameters hpresent⟩
  next raw hpresent =>
  split
  · next problem hdecodes => exact .inr ⟨_, rfl, .request hpresent hdecodes⟩
  next request hdecodes =>
  split
  · next hname => exact .inr ⟨_, rfl, .name hpresent hdecodes (String.isEmpty_iff.1 hname)⟩
  next hname =>
  have hnamed : request.name ≠ "" := fun hempty => hname (String.isEmpty_iff.2 hempty)
  split
  · next hcapabilities =>
    exact .inr ⟨_, rfl, .capability hpresent hdecodes hnamed (List.isEmpty_iff.1 hcapabilities)⟩
  next hcapabilities =>
  refine .inl ⟨request, rfl, .creates hpresent hdecodes hnamed fun hempty => ?_⟩
  exact hcapabilities (List.isEmpty_iff.2 hempty)

/-- The records have a volume for a deprovision to delete, or the first check that fails says why not. -/
theorem RecordSet.deletable_cases (records : RecordSet) (id : String) {details : DeprovisionDetails}
    (hservice : details.serviceId ≠ "") :
    (∃ volumeId, records.deletable id details = .ok volumeId ∧
      Operation.Orders records (.deprovision id details) (.deleteVolume (.ofVolume volumeId))) ∨
    ∃ e, records.deletable id details = .error e ∧
      Operation.Lacks records (.deprovision id details) e := by
  unfold deletable
  split
  · next hid => exact .inr ⟨_, rfl, .instanceId (String.isEmpty_iff.1 hid)⟩
  next hid =>
  have hid : id ≠ "" := fun hempty => hid (String.isEmpty_iff.2 hempty)
  split
  · next hplan => exact .inr ⟨_, rfl, .planId hid (String.isEmpty_iff.1 hplan)⟩
  next hplan =>
  have hplan : details.planId ≠ "" := fun hempty => hplan (String.isEmpty_iff.2 hempty)
  -- the service has been looked up at the gate, so the check of its id comes too late to fail
  rw [if_neg fun hempty => hservice (String.isEmpty_iff.1 hempty)]
  cases hfound : records.instances.get? id with
  | none => exact .inr ⟨_, rfl, .record hid hplan hfound⟩
  | some record =>
    dsimp only
    cases hreads : Fingerprint.ofSlot record.fingerprint with
    | error problem => exact .inr ⟨_, rfl, .fingerprint hid hplan hfound hreads⟩
    | ok fingerprint => exact .inl ⟨_, rfl, .deletes hid hplan hfound hreads⟩

/-! ### Steps -/

namespace Broker

variable {b : Broker} {address : String}

/-- A call to a plugin that is registered is made. -/
theorem progress_await (files : FileSystem) {w : Waiting}
    (haddress : b.registry.address w.serviceId = .ok address) :
    (b.await files w).progress = .waiting address w := by
  unfold await
  rw [haddress]

/-- **Behind the gate** an operation on an instance makes its plugin call, or it lacks something. -/
theorem proceed_cases (h : b.store.outage.SparesRecords) (files : FileSystem)
    {operation : Operation} (hop : operation.OnInstance) (hservice : operation.serviceId ≠ "")
    (haddress : b.registry.address operation.serviceId = .ok address) :
    (∃ call, operation.Orders b.store.records call ∧
      (b.proceed files operation).progress.orders = [(address, call)]) ∨
    ∃ e, operation.Lacks b.store.records e ∧
      (b.proceed files operation).progress = .finished (.error e) := by
  cases operation with
  | provision id details =>
    simp only [proceed]
    rcases Parameters.volumeRequest_cases b.store.records id details with
      ⟨request, hrequest, horders⟩ | ⟨e, hrequest, hlacks⟩
    · rw [hrequest]
      refine .inl ⟨_, horders, ?_⟩
      have hprogress := progress_await files (w := .creation id details request) haddress
      exact congrArg Progress.orders hprogress
    · rw [hrequest]
      exact .inr ⟨e, hlacks, rfl⟩
  | deprovision id details =>
    simp only [proceed, deletionOf_eq h]
    rcases RecordSet.deletable_cases b.store.records id hservice with
      ⟨volumeId, hdeletable, horders⟩ | ⟨e, hdeletable, hlacks⟩
    · rw [hdeletable]
      refine .inl ⟨_, horders, ?_⟩
      have hprogress := progress_await files (w := .deletion id details volumeId) haddress
      exact congrArg Progress.orders hprogress
    · rw [hdeletable]
      exact .inr ⟨e, hlacks, rfl⟩
  | bind instanceId bindingId details => exact hop.elim
  | unbind instanceId bindingId details => exact hop.elim

/-- A record of an instance is put or removed, or the instance is in the way or missing; no field is. -/
theorem commit_ne_missingField (h : b.store.outage.SparesRecords) (files : FileSystem) {c : Change}
    {operation : Operation} {answered : Option Answered} (hof : c.Of operation answered)
    (hop : operation.OnInstance) (field : String) :
    (b.commit files (c.run b.registry b.store)).progress
      ≠ .finished (.error (.missingField field)) := by
  intro hend
  have hperforms := commit_performs h files c
  have hsettles := settles (c.apply b.registry b.store.records).2
    ((b.commit files (c.run b.registry b.store)).broker.store.save files).2
  rw [Progress.finished.inj (hperforms.progress.symm.trans hend)] at hsettles
  generalize hanswer : (c.apply b.registry b.store.records).2 = answer at hsettles
  generalize ((b.commit files (c.run b.registry b.store)).broker.store.save files).2 = saved at hsettles
  cases hsettles with
  | unsaved reply hfailure => cases hfailure
  | refused =>
    cases hof with
    | provision hrequest response =>
      simp only [Change.apply] at hanswer
      split at hanswer
      · cases hanswer
      · split at hanswer <;> cases hanswer
    | deprovision id details volumeId response =>
      simp only [Change.apply] at hanswer
      split at hanswer <;> cases hanswer
    | bind => exact hop.elim
    | unbind => exact hop.elim

/-- A probe is the only answer that an operation on an instance goes on from without ending. -/
theorem resume_ends (h : b.store.outage.SparesRecords) (files : FileSystem) {w : Waiting}
    {operation : Operation} (hw : w.Serves operation) (hop : operation.OnInstance)
    (hprobe : w.call.isProbe = false) (answer : Except PluginError w.call.Response) :
    ∃ result, (b.resume files w answer).progress = .finished result ∧
      result ≠ .error (.missingField "service_id") := by
  -- the answer is reported if it is an error, else the change is run
  have hchanges : ∀ c : Change, c.Of operation (some ⟨w.call, answer⟩) → ∃ result,
      (b.commit files (c.run b.registry b.store)).progress = .finished result ∧
        result ≠ .error (.missingField "service_id") := by
    intro c hof
    have hends := (commit_performs h files c).progress
    exact ⟨_, hends, fun hfield => commit_ne_missingField h files hof hop "service_id"
      (hends.trans (congrArg Progress.finished hfield))⟩
  cases hw with
  | probe => cases hprobe
  | creation hrequest =>
    cases answer with
    | error e => exact ⟨_, rfl, nofun⟩
    | ok response => exact hchanges _ (.provision hrequest response)
  | deletion id details volumeId =>
    cases answer with
    | error e => exact ⟨_, rfl, nofun⟩
    | ok response => exact hchanges _ (.deprovision id details volumeId response)

end Broker

/-! ### Turns -/

namespace Turn

/-- The turn with which a call gets behind the probe gate: its first one if its service has passed
already, else the one behind a good answer to its own probe. -/
def Enters (before : List Turn) (turn : Turn) : Prop :=
  (turn.answered = none ∧ hasPassed turn.operation.serviceId before = true) ∨
    ∃ response, turn.answered = some ⟨.probe, .ok response⟩

/-- Why a call ends without its plugin call: the first check that fails, and its error. -/
inductive Withholds (r : Registry) (records : RecordSet) (before : List Turn) (turn : Turn) :
    BrokerError → Prop where
  | unregistered (unknown : r.entries.get? turn.operation.serviceId = none) :
      Withholds r records before turn (.registry (.unknownService turn.operation.serviceId))
  | unready {address : String} {e : PluginError}
      (registered : r.address turn.operation.serviceId = .ok address)
      (failed : turn.answered = some ⟨.probe, .error e⟩) :
      Withholds r records before turn (.plugin "probe" e)
  | lacks {address : String} {e : BrokerError}
      (registered : r.address turn.operation.serviceId = .ok address) (enters : turn.Enters before)
      (lacks : turn.operation.Lacks records e) : Withholds r records before turn e

/-- A turn leaves records and files alone. -/
structure Calm (records : RecordSet) (turn : Turn) : Prop where
  change : turn.change = none
  saved : turn.saved = none
  records : turn.records = records

/-- A turn goes on from the answer to a plugin call other than a probe. -/
def Served (turn : Turn) : Prop :=
  ∃ answered, turn.answered = some answered ∧ answered.call.isProbe = false

/-- The plugin has failed to do what a call has asked of it. -/
def Denied (turn : Turn) : Prop :=
  ∃ call e, turn.answered = some ⟨call, .error e⟩ ∧ call.isProbe = false

/-- **What a turn of an operation on an instance is.** -/
inductive Abides (r : Registry) (records : RecordSet) (before : List Turn) (turn : Turn) : Prop where
  /-- It asks whether the plugin is ready. -/
  | probes {address : String} (first : turn.answered = none)
      (closed : hasPassed turn.operation.serviceId before = false)
      (progress : turn.progress = .waiting address (.probe turn.operation))
  | withholds {e : BrokerError} (withholds : turn.Withholds r records before e)
      (progress : turn.progress = .finished (.error e))
  | orders {address : String} {call : PluginCall}
      (registered : r.address turn.operation.serviceId = .ok address) (enters : turn.Enters before)
      (orders : turn.operation.Orders records call)
      (progress : turn.progress.orders = [(address, call)])
  /-- It ends the call behind the answer of the plugin. -/
  | ends {result : Except BrokerError Reply} (served : turn.Served)
      (progress : turn.progress = .finished result)
      (named : result ≠ .error (.missingField "service_id"))

/-- What a turn has in common with the earlier ones of its call. -/
structure Belongs (before : List Turn) (turn : Turn) : Prop where
  /-- Only the first turn of a call comes without an answer. -/
  first : turn.answered = none → ∀ earlier ∈ before, earlier.call ≠ turn.call
  operation : ∀ earlier ∈ before, earlier.call = turn.call → earlier.operation = turn.operation

variable {r : Registry} {records : RecordSet} {before history : List Turn} {turn : Turn}
  {number : Nat}

theorem Enters.not_served (h : turn.Enters before) : ¬ turn.Served := by
  rintro ⟨answered, hanswered, hprobe⟩
  rcases h with ⟨hfirst, -⟩ | ⟨response, hresponse⟩
  · exact nomatch hfirst.symm.trans hanswered
  · rw [← Option.some.inj (hresponse.symm.trans hanswered)] at hprobe
    cases hprobe

/-- A call that gets behind the gate with everything in order is not withheld. -/
theorem Enters.not_withholds {address : String} {call : PluginCall} {e : BrokerError}
    (h : turn.Enters before) (hregistered : r.address turn.operation.serviceId = .ok address)
    (horders : turn.operation.Orders records call) : ¬ turn.Withholds r records before e := by
  intro hwithholds
  cases hwithholds with
  | unregistered unknown =>
    unfold Registry.address Registry.entry at hregistered
    rw [unknown] at hregistered
    cases hregistered
  | unready _ failed =>
    rcases h with ⟨hfirst, -⟩ | ⟨response, hresponse⟩
    · exact nomatch hfirst.symm.trans failed
    · exact nomatch hresponse.symm.trans failed
  | lacks _ _ hlacks => exact horders.not_lacks hlacks

/-- **A turn makes its plugin call** exactly if it gets behind the gate with everything in order. -/
theorem Abides.orders_iff (h : turn.Abides r records before) {address : String} {call : PluginCall} :
    (address, call) ∈ turn.progress.orders ↔
      r.address turn.operation.serviceId = .ok address ∧ turn.Enters before ∧
        turn.operation.Orders records call := by
  constructor
  · intro hmem
    cases h with
    | probes _ _ progress =>
      rw [progress] at hmem
      cases hmem
    | withholds _ progress =>
      rw [progress] at hmem
      cases hmem
    | orders registered enters orders progress =>
      rw [progress, List.mem_singleton] at hmem
      obtain ⟨rfl, rfl⟩ := Prod.mk.inj hmem
      exact ⟨registered, enters, orders⟩
    | ends _ progress =>
      rw [progress] at hmem
      cases hmem
  · rintro ⟨hregistered, henters, horders⟩
    cases h with
    | probes first closed =>
      rcases henters with ⟨-, hpassed⟩ | ⟨response, hresponse⟩
      · exact nomatch closed.symm.trans hpassed
      · exact nomatch first.symm.trans hresponse
    | withholds withholds => exact absurd withholds (henters.not_withholds hregistered horders)
    | orders registered _ orders progress =>
      rw [progress, orders.unique horders, Except.ok.inj (registered.symm.trans hregistered)]
      exact List.mem_singleton_self _
    | ends served => exact absurd served henters.not_served

theorem Abides.finished_of_served (h : turn.Abides r records before) (hserved : turn.Served) :
    ∃ result, turn.progress = .finished result := by
  obtain ⟨answered, hanswered, -⟩ := id hserved
  cases h with
  | probes first => exact nomatch first.symm.trans hanswered
  | withholds _ progress => exact ⟨_, progress⟩
  | orders _ enters => exact absurd hserved enters.not_served
  | ends _ progress => exact ⟨_, progress⟩

theorem Abides.ne_missingField (h : turn.Abides r records before) :
    turn.progress ≠ .finished (.error (.missingField "service_id")) := by
  intro hend
  -- the service id is not among the fields that are missed
  cases h with
  | probes _ _ progress => exact nomatch progress.symm.trans hend
  | withholds withholds progress =>
    have he := Except.error.inj (Progress.finished.inj (progress.symm.trans hend))
    cases withholds with
    | unregistered => cases he
    | unready => cases he
    | lacks _ _ lacks => exact lacks.ne_serviceId he
  | orders _ _ _ progress =>
    rw [hend] at progress
    cases progress
  | ends _ progress named => exact named (Progress.finished.inj (progress.symm.trans hend))

theorem length_orders_le_one (progress : Progress) : progress.orders.length ≤ 1 := by
  cases progress with
  | waiting address w =>
    show (if w.call.isProbe then [] else [(address, w.call)]).length ≤ 1
    split
    · exact Nat.zero_le 1
    · exact Nat.le_refl 1
  | finished result => exact Nat.zero_le 1

theorem ordersOf_append (before after : List Turn) :
    ordersOf number (before ++ after) = ordersOf number before ++ ordersOf number after := by
  unfold ordersOf
  rw [List.filter_append, orders_append]

/-- What a call has ordered, it has ordered at one of its turns. -/
theorem mem_ordersOf {order : String × PluginCall} :
    order ∈ ordersOf number history ↔ ∃ before turn after, history = before ++ turn :: after ∧
      turn.call = number ∧ order ∈ turn.progress.orders := by
  constructor
  · intro hmem
    -- the last turn has made the order, or an earlier one has
    induction history using List.reverseRecOn with
    | nil => cases hmem
    | append_singleton history turn ih =>
      by_cases hcall : turn.call = number
      · subst hcall
        rw [ordersOf_concat_self, List.mem_append] at hmem
        rcases hmem with hmem | hmem
        · obtain ⟨before, earlier, after, rfl, hearlier⟩ := ih hmem
          exact ⟨before, earlier, after ++ [turn], by simp, hearlier⟩
        · exact ⟨history, turn, [], rfl, rfl, hmem⟩
      · rw [ordersOf_concat_of_ne hcall] at hmem
        obtain ⟨before, earlier, after, rfl, hearlier⟩ := ih hmem
        exact ⟨before, earlier, after ++ [turn], by simp, hearlier⟩
  · rintro ⟨before, turn, after, rfl, rfl, hmem⟩
    rw [List.append_cons, ordersOf_append, ordersOf_concat_self]
    exact List.mem_append_left _ (List.mem_append_right _ hmem)

/-- A call that orders nothing once it has ordered something orders once. -/
theorem length_ordersOf_le_one
    (h : Each (fun before turn => turn.progress.orders ≠ [] → ordersOf turn.call before = []) history)
    (number : Nat) : (ordersOf number history).length ≤ 1 := by
  induction history using List.reverseRecOn with
  | nil => exact Nat.zero_le 1
  | append_singleton history turn ih =>
    by_cases hcall : turn.call = number
    · subst hcall
      rw [ordersOf_concat_self]
      by_cases horders : turn.progress.orders = []
      · rw [horders, List.append_nil]
        exact ih h.of_concat
      · rw [h history turn [] rfl horders, List.nil_append]
        exact length_orders_le_one _
    · rw [ordersOf_concat_of_ne hcall]
      exact ih h.of_concat

end Turn

/-! ### Sessions -/

namespace Session

variable {r : Registry} {initial : RecordSet} {s s' : Session} {before after : List Turn} {turn : Turn}

/-- A service that is registered has an id. -/
theorem ne_empty_of_address (hnamed : r.Named) {serviceId address : String}
    (haddress : r.address serviceId = .ok address) : serviceId ≠ "" := by
  obtain ⟨entry, hentry, -⟩ := exists_of_map_ok haddress
  exact hnamed.ne_empty hentry

/-- A turn that gets behind the gate of a registered service makes its plugin call, or it ends for lack
of something. -/
theorem abides_of_proceed {b : Broker} {address : String} (houtage : b.store.outage.SparesRecords)
    (hnamed : b.registry.Named) (files : FileSystem) (hop : turn.operation.OnInstance)
    (haddress : b.registry.address turn.operation.serviceId = .ok address)
    (henters : turn.Enters before)
    (hprogress : turn.progress = (b.proceed files turn.operation).progress) :
    turn.Abides b.registry b.store.records before := by
  have hservice := ne_empty_of_address hnamed haddress
  rcases Broker.proceed_cases houtage files hop hservice haddress with
    ⟨call, horders, hproceed⟩ | ⟨e, hlacks, hproceed⟩
  · exact .orders haddress henters horders ((congrArg Progress.orders hprogress).trans hproceed)
  · exact .withholds (.lacks haddress henters hlacks) (hprogress.trans hproceed)

/-- A turn in front of the closed gate asks whether the plugin is ready, if there is one to ask. -/
theorem abides_of_await {b : Broker} (files : FileSystem) (hfirst : turn.answered = none)
    (hclosed : Turn.hasPassed turn.operation.serviceId before = false)
    (hprogress : turn.progress = (b.await files (.probe turn.operation)).progress) :
    turn.Abides b.registry b.store.records before := by
  -- the gate is closed, so an address is looked up for the probe
  cases hunknown : b.registry.entries.get? turn.operation.serviceId with
  | none =>
    refine .withholds (.unregistered hunknown) (hprogress.trans ?_)
    simp [Broker.await, Broker.refuse, Registry.address, Registry.entry, Waiting.serviceId, hunknown,
      Except.map]
  | some entry =>
    have haddress : b.registry.address turn.operation.serviceId = .ok entry.address := by
      unfold Registry.address Registry.entry
      rw [hunknown]
      rfl
    exact .probes hfirst hclosed (hprogress.trans (Broker.progress_await files haddress))

/-- **What one event preserves**, for the turn that it takes. -/
theorem Guarding.abides (h : s.Guarding r initial) (hnamed : r.Named) (htakes : s.Takes s' turn)
    (hop : turn.operation.OnInstance) : turn.Abides r s.broker.store.records s.history := by
  obtain rfl : s.broker.registry = r := h.exchanging.regular.registry
  have hs := h.gated.sound
  cases htakes.advances with
  | opens _ answered _ _ _ progress =>
    unfold Broker.begin at progress
    split at progress
    · next hpassed =>
      -- the service has passed, so it is registered
      obtain ⟨address, haddress⟩ := h.gated.passed _ hpassed
      have henters : turn.Enters s.history := .inl ⟨answered, (h.passed _).symm.trans hpassed⟩
      exact abides_of_proceed hs.outage hnamed s.files hop haddress henters progress
    · next hclosed =>
      have hclosed : Turn.hasPassed turn.operation.serviceId s.history = false :=
        (h.passed _).symm.trans (Bool.eq_false_iff.2 hclosed)
      exact abides_of_await s.files answered hclosed progress
  | @continues address w answer call answered _ _ _ progress =>
    have hw : w.Serves turn.operation := hs.serves _ (List.mem_of_getElem? call) address w rfl
    have haddress := h.gated.waiting _ (List.mem_of_getElem? call) address w rfl
    cases hprobe : w.call.isProbe with
    | false =>
      -- the plugin call has been answered, and that is the end of the call
      obtain ⟨result, hends, hfield⟩ := Broker.resume_ends hs.outage s.files hw hop hprobe answer
      exact .ends ⟨_, answered, hprobe⟩ (progress.trans hends) hfield
    | true =>
      generalize hoperation : turn.operation = operation at hw
      cases hw with
      | creation => cases hprobe
      | deletion => cases hprobe
      | probe =>
        subst hoperation
        cases answer with
        | error e => exact .withholds (.unready haddress answered) progress
        | ok response =>
          -- a good answer opens the gate, which changes neither services nor records
          let passed : Broker := { s.broker with gate := s.broker.gate.mark turn.operation.serviceId }
          have henters : turn.Enters s.history := .inr ⟨response, answered⟩
          exact @abides_of_proceed s.history turn passed address hs.outage hnamed s.files hop haddress
            henters progress

/-- A turn comes behind the others of its call. -/
theorem Exchanging.belongs (h : s.Exchanging r initial) (hold : Turn.Each Turn.Belongs s.history)
    (htakes : s.Takes s' turn) : turn.Belongs s.history := by
  cases htakes.advances with
  | opens number _ _ _ _ _ =>
    have hnew : ∀ earlier ∈ s.history, earlier.call ≠ turn.call := by
      intro earlier hmem
      rw [number]
      exact Nat.ne_of_lt (h.regular.serialized.numbered earlier hmem)
    exact ⟨fun _ => hnew, fun earlier hmem hcall => absurd hcall (hnew earlier hmem)⟩
  | continues call answered _ _ _ _ =>
    refine ⟨fun hfirst => absurd (hfirst.symm.trans answered) nofun, ?_⟩
    intro earlier hmem hcall
    obtain ⟨before, last, after, hsplit, hlast, hoperation, -, hlater⟩ :=
      h.regular.serialized.calls _ _ call
    rw [hsplit, List.mem_append, List.mem_cons] at hmem
    rcases hmem with hmem | rfl | hmem
    · have hbelongs : last.Belongs before := hold before last after hsplit
      exact (hbelongs.operation earlier hmem (hcall.trans hlast.symm)).trans hoperation
    · exact hoperation
    · exact absurd hcall (hlater earlier hmem)

/-- What carries the induction over the events. -/
structure Abiding (r : Registry) (initial : RecordSet) (s : Session) : Prop where
  guarding : s.Guarding r initial
  abides : Turn.Each (fun before turn => turn.operation.OnInstance →
    turn.Abides r (Change.replay r initial (Turn.changes before)) before) s.history
  belongs : Turn.Each Turn.Belongs s.history

theorem Abiding.handle (h : s.Abiding r initial) (hnamed : r.Named) (event : Event) :
    (s.handle event).Abiding r initial := by
  have hguarding := h.guarding.handle event
  have hregular := h.guarding.exchanging.regular
  rcases handle_cases hregular.sound event with hidle | ⟨turn, htakes⟩
  · refine ⟨hguarding, ?_, ?_⟩
    · rw [hidle.history]
      exact h.abides
    · rw [hidle.history]
      exact h.belongs
  · refine ⟨hguarding, ?_, ?_⟩
    · rw [htakes.history]
      refine h.abides.concat fun hop => ?_
      rw [← hregular.serialized.records]
      exact h.guarding.abides hnamed htakes hop
    · rw [htakes.history]
      exact h.belongs.concat (h.guarding.exchanging.belongs h.belongs htakes)

/-! ### What follows for a history -/

/-- A turn that goes on from an answer has, further up, the turn of its call that asked. -/
theorem Abiding.asked (h : s.Abiding r initial) (hsplit : s.history = before ++ turn :: after)
    {answered : Answered} (hanswered : turn.answered = some answered) :
    ∃ earlier asking middle address w, before = earlier ++ asking :: middle ∧
      s.history = earlier ++ asking :: (middle ++ turn :: after) ∧ asking.call = turn.call ∧
      asking.progress = .waiting address w ∧ w.call = answered.call ∧
      ∀ other ∈ middle, other.call ≠ turn.call := by
  have hexchanges : turn.Exchanges r before := h.guarding.exchanging.turns before turn after hsplit
  obtain ⟨earlier, asking, middle, address, w, hbefore, hcall, -, hprogress, hw, hmiddle⟩ :=
    hexchanges.answers answered hanswered
  refine ⟨earlier, asking, middle, address, w, hbefore, ?_, hcall, hprogress, hw, hmiddle⟩
  rw [hsplit, hbefore, List.append_assoc, List.cons_append]

/-- A call that is served has ordered what it is served. -/
theorem Abiding.ordersOf_ne_nil (h : s.Abiding r initial)
    (hsplit : s.history = before ++ turn :: after) (hserved : turn.Served) :
    Turn.ordersOf turn.call before ≠ [] := by
  obtain ⟨answered, hanswered, hprobe⟩ := hserved
  obtain ⟨earlier, asking, middle, address, w, rfl, -, hcall, hprogress, hw, -⟩ :=
    h.asked hsplit hanswered
  have hmem : (address, w.call) ∈ asking.progress.orders := by
    rw [hprogress]
    show (address, w.call) ∈ if w.call.isProbe then [] else [(address, w.call)]
    rw [hw, hprobe]
    exact List.mem_singleton_self _
  exact List.ne_nil_of_mem (Turn.mem_ordersOf.2 ⟨earlier, asking, middle, rfl, hcall, hmem⟩)

/-- Only an operation on an instance orders anything, and only behind the gate. -/
theorem Abiding.orders_iff (h : s.Abiding r initial) (hsplit : s.history = before ++ turn :: after)
    {address : String} {call : PluginCall} :
    (address, call) ∈ turn.progress.orders ↔
      r.address turn.operation.serviceId = .ok address ∧ turn.Enters before ∧
        turn.operation.Orders (Change.replay r initial (Turn.changes before)) call := by
  by_cases hop : turn.operation.OnInstance
  · have habides : turn.Abides r (Change.replay r initial (Turn.changes before)) before :=
      h.abides before turn after hsplit hop
    exact habides.orders_iff
  · refine iff_of_false ?_ fun hright => hop hright.2.2.onInstance
    have hexchanges : turn.Exchanges r before := h.guarding.exchanging.turns before turn after hsplit
    cases hprogress : turn.progress with
    | finished result => exact nofun
    | waiting address' w =>
      -- an operation on a binding waits for nothing but its probe
      have hserves := (hexchanges.asks address' w hprogress).1
      generalize turn.operation = operation at hop hserves
      cases hserves with
      | probe => exact nofun
      | creation => exact absurd trivial hop
      | deletion => exact absurd trivial hop

/-- A turn that orders something is the first of its call to do so. -/
theorem Abiding.unordered (h : s.Abiding r initial) : Turn.Each (fun before turn =>
    turn.progress.orders ≠ [] → Turn.ordersOf turn.call before = []) s.history := by
  intro before turn after hsplit horders
  obtain ⟨⟨address, call⟩, hmem⟩ := List.exists_mem_of_ne_nil _ horders
  obtain ⟨-, henters, -⟩ := (h.orders_iff hsplit).1 hmem
  have hbelongs : turn.Belongs before := h.belongs before turn after hsplit
  rcases henters with ⟨hfirst, -⟩ | ⟨response, hresponse⟩
  · exact Turn.ordersOf_eq_nil (hbelongs.first hfirst)
  · -- the turn before it is the first of the call, which has only asked whether the plugin is ready
    obtain ⟨earlier, asking, middle, address', w, rfl, hasking, hcall, hprogress, hw, hmiddle⟩ :=
      h.asked hsplit hresponse
    have hprobe : w.call.isProbe = true := congrArg PluginCall.isProbe hw
    have hguarded : asking.Guarded r earlier := h.guarding.turns earlier asking _ hasking
    have hprobing : asking.progress.probing = true := by
      rw [hprogress]
      exact hprobe
    have hfirst : asking.Belongs earlier := h.belongs earlier asking _ hasking
    have hnone : asking.progress.orders = [] := by
      rw [hprogress]
      exact if_pos hprobe
    rw [List.append_cons, Turn.ordersOf_append, ← hcall, Turn.ordersOf_concat_self, hnone,
      Turn.ordersOf_eq_nil (hfirst.first (hguarded.probes hprobing).1),
      Turn.ordersOf_eq_nil fun other hother => (hmiddle other hother).trans_eq hcall.symm]
    rfl

/-- Every turn is one of a call that has come in with its operation. -/
theorem Abiding.exists_call (h : s.Abiding r initial) (hturn : turn ∈ s.history) :
    ∃ progress, s.calls[turn.call]? = some ⟨turn.operation, progress⟩ := by
  have hserialized := h.guarding.exchanging.regular.serialized
  have hlt := hserialized.numbered turn hturn
  obtain ⟨before, last, after, hsplit, hlast, hoperation, -, hlater⟩ :=
    hserialized.calls turn.call _ (List.getElem?_eq_getElem hlt)
  refine ⟨s.calls[turn.call].progress, ?_⟩
  rw [List.getElem?_eq_getElem hlt]
  -- the last turn of the call has the operation of the call, and so have those before it
  have hsame : turn.operation = s.calls[turn.call].operation := by
    rw [hsplit, List.mem_append, List.mem_cons] at hturn
    rcases hturn with hturn | rfl | hturn
    · have hbelongs : last.Belongs before := h.belongs before last after hsplit
      exact (hbelongs.operation turn hturn hlast.symm).trans hoperation
    · exact hoperation
    · exact absurd rfl (hlater turn hturn)
  rw [hsame]

theorem Abiding.operation_eq (h : s.Abiding r initial) (hturn : turn ∈ s.history) {call : Call}
    (hcall : s.calls[turn.call]? = some call) : turn.operation = call.operation := by
  obtain ⟨progress, hown⟩ := h.exists_call hturn
  exact congrArg Call.operation (Option.some.inj (hown.symm.trans hcall))

/-- A call ends with one turn only. -/
theorem Serialized.ends_once (h : s.Serialized r initial) {before' after' : List Turn} {turn' : Turn}
    (hsplit : s.history = before ++ turn :: after) (hsplit' : s.history = before' ++ turn' :: after')
    (hcall : turn.call = turn'.call) {result result' : Except BrokerError Reply}
    (hends : turn.progress = .finished result) (hends' : turn'.progress = .finished result') :
    turn = turn' := by
  rcases List.append_eq_append_iff.1 (hsplit.symm.trans hsplit') with
    ⟨between, hbefore, hrest⟩ | ⟨between, hbefore, hrest⟩
  · cases between with
    | nil => exact (List.cons.inj hrest).1
    | cons first rest =>
      obtain ⟨rfl, -⟩ := List.cons.inj hrest
      have hmem : turn ∈ before' := hbefore ▸ List.mem_append_right _ List.mem_cons_self
      obtain ⟨address, w, hwaits⟩ := h.ended before' turn' after' hsplit' turn hmem hcall
      exact nomatch hends.symm.trans hwaits
  · -- the other way round it is the same
    cases between with
    | nil => exact (List.cons.inj hrest).1.symm
    | cons first rest =>
      obtain ⟨rfl, -⟩ := List.cons.inj hrest
      have hmem : turn' ∈ before := hbefore ▸ List.mem_append_right _ List.mem_cons_self
      obtain ⟨address, w, hwaits⟩ := h.ended before turn after hsplit turn' hmem hcall.symm
      exact nomatch hends'.symm.trans hwaits

/-- A call whose plugin call is withheld or fails leaves records and files alone all along. -/
theorem Abiding.calm (h : s.Abiding r initial) (hsplit : s.history = before ++ turn :: after)
    (hop : turn.operation.OnInstance)
    (hunserved : Turn.ordersOf turn.call s.history = [] ∨
      ∃ failed ∈ s.history, failed.call = turn.call ∧ failed.Denied) :
    turn.Calm (Change.replay r initial (Turn.changes before)) := by
  have hserialized := h.guarding.exchanging.regular.serialized
  have hexplained : turn.Explained r (Change.replay r initial (Turn.changes before)) :=
    hserialized.turns before turn after hsplit
  unfold Turn.Explained at hexplained
  split at hexplained
  · next hchange =>
    obtain ⟨hrecords, hsaved, -⟩ := hexplained
    exact ⟨hchange, hsaved, hrecords⟩
  exfalso
  -- a change comes behind a good answer to the plugin call
  obtain ⟨hof, -, saved, result, -, hends, -⟩ := hexplained
  obtain ⟨call, response, hanswered, hprobe⟩ := hof.served hop
  rcases hunserved with hnone | ⟨failed, hfailed, hcall, hdenied⟩
  · refine h.ordersOf_ne_nil hsplit ⟨_, hanswered, hprobe⟩ ?_
    rw [hsplit, Turn.ordersOf_append] at hnone
    exact (List.append_eq_nil_iff.1 hnone).1
  · obtain ⟨before', after', hsplit'⟩ := List.append_of_mem hfailed
    -- the call has ended with that answer, and with the failure as well
    obtain ⟨progress, hown⟩ := h.exists_call hfailed
    have hsame : turn.operation = failed.operation :=
      h.operation_eq (hsplit ▸ List.mem_append_right _ List.mem_cons_self) (hcall ▸ hown)
    have habides : failed.Abides r (Change.replay r initial (Turn.changes before')) before' :=
      h.abides before' failed after' hsplit' (hsame ▸ hop)
    obtain ⟨call', e, hanswered', hprobe'⟩ := hdenied
    obtain ⟨result', hends'⟩ := habides.finished_of_served ⟨_, hanswered', hprobe'⟩
    obtain rfl := hserialized.ends_once hsplit hsplit' hcall.symm hends hends'
    obtain ⟨rfl, houtcome⟩ := Answered.mk.inj (Option.some.inj (hanswered.symm.trans hanswered'))
    exact nomatch eq_of_heq houtcome

/-- **What a call has ordered**, and when: it is the one thing that was due to it at one of its turns. -/
theorem Abiding.ordersOf_eq_iff (h : s.Abiding r initial) {operation : Operation} {progress : Progress}
    {number : Nat} (hcall : s.calls[number]? = some ⟨operation, progress⟩) {address : String}
    {call : PluginCall} :
    Turn.ordersOf number s.history = [(address, call)] ↔
      r.address operation.serviceId = .ok address ∧ ∃ before turn after,
        s.history = before ++ turn :: after ∧ turn.call = number ∧ turn.Enters before ∧
          operation.Orders (Change.replay r initial (Turn.changes before)) call := by
  have honce := Turn.length_ordersOf_le_one h.unordered number
  constructor
  · intro horders
    have hmem : (address, call) ∈ Turn.ordersOf number s.history := by
      rw [horders]
      exact List.mem_singleton_self _
    -- the turn that has made the order tells when it was due
    obtain ⟨before, turn, after, hsplit, rfl, hordered⟩ := Turn.mem_ordersOf.1 hmem
    obtain ⟨haddress, henters, hdue⟩ := (h.orders_iff hsplit).1 hordered
    have hsame : turn.operation = operation :=
      h.operation_eq (hsplit ▸ List.mem_append_right _ List.mem_cons_self) hcall
    rw [hsame] at haddress hdue
    exact ⟨haddress, before, turn, after, hsplit, rfl, henters, hdue⟩
  · rintro ⟨haddress, before, turn, after, hsplit, rfl, henters, hdue⟩
    have hsame : turn.operation = operation :=
      h.operation_eq (hsplit ▸ List.mem_append_right _ List.mem_cons_self) hcall
    rw [← hsame] at haddress hdue
    have hordered := (h.orders_iff hsplit).2 ⟨haddress, henters, hdue⟩
    have hmem := Turn.mem_ordersOf.2 ⟨before, turn, after, hsplit, rfl, hordered⟩
    -- the call orders once, so there is nothing else in the list
    obtain ⟨order, horder⟩ := List.length_eq_one_iff.1
      (Nat.le_antisymm honce (List.length_pos_of_mem hmem))
    rw [horder, List.mem_singleton] at hmem
    rw [horder, hmem]

/-- A call about a binding orders nothing at any of its turns. -/
theorem Abiding.ordersOf_eq_nil (h : s.Abiding r initial) {operation : Operation} {progress : Progress}
    {number : Nat} (hcall : s.calls[number]? = some ⟨operation, progress⟩)
    (hop : ¬ operation.OnInstance) : Turn.ordersOf number s.history = [] := by
  by_contra hne
  obtain ⟨⟨address, call⟩, hmem⟩ := List.exists_mem_of_ne_nil _ hne
  obtain ⟨before, turn, after, hsplit, rfl, hordered⟩ := Turn.mem_ordersOf.1 hmem
  have hsame : turn.operation = operation :=
    h.operation_eq (hsplit ▸ List.mem_append_right _ List.mem_cons_self) hcall
  exact hop (hsame ▸ ((h.orders_iff hsplit).1 hordered).2.2.onInstance)

/-- The last turn of a call about an instance says where the call stands. -/
theorem Abiding.last_turn (h : s.Abiding r initial) {operation : Operation} {progress : Progress}
    {number : Nat} (hcall : s.calls[number]? = some ⟨operation, progress⟩)
    (hop : operation.OnInstance) :
    ∃ before turn after, s.history = before ++ turn :: after ∧ turn.call = number ∧
      turn.operation = operation ∧ turn.progress = progress ∧
      turn.Abides r (Change.replay r initial (Turn.changes before)) before := by
  obtain ⟨before, turn, after, hsplit, hnumber, rfl, rfl, -⟩ :=
    h.guarding.exchanging.regular.serialized.calls number _ hcall
  exact ⟨before, turn, after, hsplit, hnumber, rfl, rfl, h.abides before turn after hsplit hop⟩

/-- **A call that has ordered nothing** waits for its probe, or its first check has failed. -/
theorem Abiding.withheld (h : s.Abiding r initial) {operation : Operation} {progress : Progress}
    {number : Nat} (hcall : s.calls[number]? = some ⟨operation, progress⟩)
    (hop : operation.OnInstance) (hnone : Turn.ordersOf number s.history = []) :
    (∃ address, progress = .waiting address (.probe operation)) ∨
      ∃ before turn after e, s.history = before ++ turn :: after ∧ turn.call = number ∧
        turn.operation = operation ∧ progress = .finished (.error e) ∧
        turn.Withholds r (Change.replay r initial (Turn.changes before)) before e := by
  obtain ⟨before, turn, after, hsplit, rfl, rfl, rfl, habides⟩ := h.last_turn hcall hop
  rw [hsplit, List.append_cons, Turn.ordersOf_append, Turn.ordersOf_concat_self,
    List.append_eq_nil_iff, List.append_eq_nil_iff] at hnone
  cases habides with
  | probes _ _ progress => exact .inl ⟨_, progress⟩
  | withholds withholds progress =>
    exact .inr ⟨before, turn, after, _, hsplit, rfl, rfl, progress, withholds⟩
  | orders _ _ _ progress => exact nomatch progress.symm.trans hnone.1.2
  | ends served => exact absurd hnone.1.1 (h.ordersOf_ne_nil hsplit served)

/-- **When the plugin is asked for a volume.** What every session satisfies. -/
structure Disciplined (r : Registry) (initial : RecordSet) (s : Session) : Prop where
  /-- A call has asked for something exactly if its service is registered, it has got behind the gate,
  and its operation had everything in order then; it has asked for just that, and has asked the plugin
  of its service. -/
  orders : ∀ number operation progress, s.calls[number]? = some ⟨operation, progress⟩ →
    ∀ address call, Turn.ordersOf number s.history = [(address, call)] ↔
      r.address operation.serviceId = .ok address ∧ ∃ before turn after,
        s.history = before ++ turn :: after ∧ turn.call = number ∧ turn.Enters before ∧
          operation.Orders (Change.replay r initial (Turn.changes before)) call
  once : ∀ number, (Turn.ordersOf number s.history).length ≤ 1
  /-- A call about a binding asks for nothing. -/
  bindings : ∀ number operation progress, s.calls[number]? = some ⟨operation, progress⟩ →
    ¬ operation.OnInstance → Turn.ordersOf number s.history = []
  /-- Neither does an update, which takes no step at all. -/
  updates : ∀ id details, Broker.update id details = .error (.unsupported "update")
  /-- A call about an instance that has asked for nothing still waits for its probe, or it has been
  answered with the error of its first check that has failed. -/
  withheld : ∀ number operation progress, s.calls[number]? = some ⟨operation, progress⟩ →
    operation.OnInstance → Turn.ordersOf number s.history = [] →
      (∃ address, progress = .waiting address (.probe operation)) ∨
      ∃ before turn after e, s.history = before ++ turn :: after ∧ turn.call = number ∧
        turn.operation = operation ∧ progress = .finished (.error e) ∧
        turn.Withholds r (Change.replay r initial (Turn.changes before)) before e
  /-- No call about an instance is told that it lacks a service. -/
  named : ∀ (number : Nat) (operation : Operation), operation.OnInstance →
    s.calls[number]? ≠ some ⟨operation, .finished (.error (.missingField "service_id"))⟩
  /-- A call about an instance whose plugin call is withheld or fails has changed no record and
  attempted no save. -/
  calm : Turn.Each (fun before turn => turn.operation.OnInstance →
    (Turn.ordersOf turn.call s.history = [] ∨
      ∃ failed ∈ s.history, failed.call = turn.call ∧ failed.Denied) →
    turn.Calm (Change.replay r initial (Turn.changes before))) s.history

theorem Abiding.disciplined (h : s.Abiding r initial) : s.Disciplined r initial where
  orders _ _ _ hcall _ _ := h.ordersOf_eq_iff hcall
  once := Turn.length_ordersOf_le_one h.unordered
  bindings _ _ _ hcall hop := h.ordersOf_eq_nil hcall hop
  updates _ _ := rfl
  withheld _ _ _ hcall hop hnone := h.withheld hcall hop hnone
  named number operation hop hcall := by
    obtain ⟨before, turn, after, -, -, rfl, hend, habides⟩ := h.last_turn hcall hop
    exact habides.ne_missingField hend
  calm before turn after hsplit hop hunserved := h.calm hsplit hop hunserved

/-- **The plugin is asked for a volume once, and only with everything in order.** Whatever calls come in
at a broker that has started on the services of a specification, whatever the plugin answers them and in
whatever order their steps are taken. -/
theorem run_disciplined {specs : List ServiceSpec} {connect : Connector} {registry : Registry}
    (hbuilt : (Registry.build specs connect).result = .ok registry) (medium : Medium)
    (records : RecordSet) (files : FileSystem) (events : List Event) :
    ((opened ⟨registry, .empty, ⟨medium, records, .none⟩⟩ files).run events).Disciplined
      registry records := by
  have hnamed := Registry.named_of_build hbuilt
  have hopened : (opened ⟨registry, .empty, ⟨medium, records, .none⟩⟩ files).Abiding registry records :=
    ⟨Guarding.of_opened registry medium records files, Turn.each_nil, Turn.each_nil⟩
  exact (run_induction hopened (fun _ event hs => hs.handle hnamed event) events).disciplined

end Session

/-! ### A provision that lacks a name -/

namespace Nameless

open Installation

/-- A provision asks for a volume without a name, and then another one for a volume with one. -/
def events : List Event :=
  [.arrival (.provision "i" (details "")), .answer 0 plugin, .arrival (.provision "j" (details "n"))]

/-- The session behind them. -/
def session : Session := (Session.opened ⟨registry, .empty, ⟨.memory, .empty, .none⟩⟩ .empty).run events

/-- Only the second provision gets as far as its plugin call. -/
theorem session_disciplined : (Registry.build [spec] .lazy).result = .ok registry ∧
    session.Disciplined registry .empty ∧ Turn.ordersOf 0 session.history = [] ∧
    Turn.ordersOf 1 session.history = [("plugin", .createVolume (request "n"))] :=
  ⟨build_spec, Session.run_disciplined build_spec .memory .empty .empty events, rfl, rfl⟩

end Nameless

end VolumeBroker
