import VolumeBroker.Proofs.Session.Independence
/-!
# What a life cycle leaves behind

An instance that is provisioned, bound, unbound and deprovisioned again leaves nothing behind: its
volume is handed out to the binding under the name and with the context that the plugin has given it, it
is deleted by that name, and the records are those that all other calls alone would have produced.
`Session.run_undone` says so of a `Lifecycle` whose four calls are served in this order, with calls on
other ids in between.

The proof puts two sessions beside each other, one in which all calls are served and one in which only
the others are (`Session.Beside`). Their records are the same but for those under the two ids of the
life cycle: another call takes the same course in both (`Beside.other`), and a call of the life cycle
touches nothing but the two ids (`Beside.own`).
-/

namespace VolumeBroker

/-- A provision, a bind, an unbind and a deprovision of one instance with one binding, and the calls that
are served in between. -/
structure Lifecycle where
  instanceId : String
  bindingId : String
  provision : ProvisionDetails
  bind : BindDetails
  unbind : UnbindDetails
  deprovision : DeprovisionDetails
  /-- The volume that the provision asks for. -/
  request : CreateVolumeRequest
  /-- What the plugin answers. -/
  response : CreateVolumeResponse
  /-- How the plugin answers the four calls. -/
  provisioning : Responder
  binding : Responder
  unbinding : Responder
  deprovisioning : Responder
  /-- The calls behind the provision, the bind and the unbind. -/
  provisioned : List (Operation × Responder)
  bound : List (Operation × Responder)
  unbound : List (Operation × Responder)

namespace Lifecycle

/-- All calls in their order. -/
def calls (l : Lifecycle) : List (Operation × Responder) :=
  [(.provision l.instanceId l.provision, l.provisioning)] ++ l.provisioned ++
    [(.bind l.instanceId l.bindingId l.bind, l.binding)] ++ l.bound ++
      [(.unbind l.instanceId l.bindingId l.unbind, l.unbinding)] ++ l.unbound ++
        [(.deprovision l.instanceId l.deprovision, l.deprovisioning)]

/-- The calls before the bind. -/
def beforeBind (l : Lifecycle) : List (Operation × Responder) :=
  [(.provision l.instanceId l.provision, l.provisioning)] ++ l.provisioned

/-- The calls before the unbind. -/
def beforeUnbind (l : Lifecycle) : List (Operation × Responder) :=
  l.beforeBind ++ [(.bind l.instanceId l.bindingId l.bind, l.binding)] ++ l.bound

/-- The calls before the deprovision. -/
def beforeDeprovision (l : Lifecycle) : List (Operation × Responder) :=
  l.beforeUnbind ++ [(.unbind l.instanceId l.bindingId l.unbind, l.unbinding)] ++ l.unbound

/-- The calls in between. -/
def others (l : Lifecycle) : List (Operation × Responder) := l.provisioned ++ l.bound ++ l.unbound

/-- The record of the instance. -/
def record (l : Lifecycle) : InstanceRecord :=
  l.provision.toRecord ⟨l.request.name, l.response.volume⟩

/-- All that the calls need is there. -/
structure Valid (l : Lifecycle) (r : Registry) (address : String) : Prop where
  instanceId : l.instanceId ≠ ""
  /-- All four calls name one service, which is registered. -/
  known : r.address l.provision.serviceId = .ok address
  bind : l.bind.serviceId = l.provision.serviceId
  unbind : l.unbind.serviceId = l.provision.serviceId
  deprovision : l.deprovision.serviceId = l.provision.serviceId
  planId : l.deprovision.planId ≠ ""
  request : Parameters.volumeRequest l.provision.parameters = .ok l.request
  application : l.bind.application ≠ ""
  parameters : ∃ parameters mode containerDir owner,
    Parameters.ofBind l.bind.parameters = .ok parameters ∧
      Parameters.mountMode parameters = .ok mode ∧
        Parameters.containerPath parameters l.instanceId = .ok containerDir ∧
          Parameters.owner parameters = .ok owner
  /-- The plugin makes the volume and deletes it again, and it answers every probe. -/
  created : l.provisioning (.createVolume l.request) = .ok l.response
  deleted : l.deprovisioning (.deleteVolume (.ofVolume l.response.volume.volumeId)) = .ok ()
  probed : ∀ call ∈ l.calls, ∃ response, call.2 .probe = .ok response
  /-- The calls in between name other ids. -/
  others : ∀ call ∈ l.others,
    call.1.instanceId ≠ l.instanceId ∧ call.1.bindingId? ≠ some l.bindingId

end Lifecycle

/-- The calls in between name other ids, and their probes are answered. -/
theorem Lifecycle.Valid.between {l : Lifecycle} {r : Registry} {address : String}
    (h : l.Valid r address) {calls : List (Operation × Responder)}
    (hcalls : calls ∈ [l.provisioned, l.bound, l.unbound]) :
    (∀ call ∈ calls, call.1.instanceId ≠ l.instanceId ∧ call.1.bindingId? ≠ some l.bindingId) ∧
      ∀ call ∈ calls, ∃ response, call.2 .probe = .ok response := by
  have hmem : ∀ call ∈ calls, call ∈ l.others ∧ call ∈ l.calls := by
    intro call hcall
    simp only [List.mem_cons, List.not_mem_nil, or_false] at hcalls
    rcases hcalls with rfl | rfl | rfl <;> simp [Lifecycle.others, Lifecycle.calls, hcall]
  exact ⟨fun call hcall => h.others call (hmem call hcall).1,
    fun call hcall => h.probed call (hmem call hcall).2⟩

namespace Session

variable {r : Registry} {initial : RecordSet} {s t : Session} {operation : Operation}
  {responder : Responder}

/-! ### Courses in a session -/

theorem Guarding.numbered (h : s.Guarding r initial) :
    ∀ turn ∈ s.history, turn.call < s.calls.length := h.exchanging.regular.serialized.numbered

theorem Guarding.registry (h : s.Guarding r initial) : s.broker.registry = r :=
  h.exchanging.regular.registry

/-- If the probe of a service is answered well then the gate makes no difference to a call. -/
theorem Guarding.course_eq (h : s.Guarding r initial)
    (hprobe : ∃ response, responder .probe = .ok response) :
    s.broker.course responder operation = .asking r operation.serviceId .probe
      (operation.course r s.broker.store.records responder) := by
  obtain ⟨response, hresponse⟩ := hprobe
  rw [← h.registry]
  unfold Broker.course
  by_cases hpassed : s.broker.gate.isPassed operation.serviceId = true
  · -- what has passed is registered
    obtain ⟨address, haddress⟩ := h.gated.passed _ hpassed
    rw [if_pos hpassed, Course.asking_registered haddress]
  · rw [if_neg hpassed, Waiting.course_probe hresponse]

theorem Guarding.serve (h : s.Guarding r initial) (operation : Operation) (responder : Responder) :
    (s.serve operation responder).Guarding r initial := h.run _

theorem Guarding.serveAll (h : s.Guarding r initial) (calls : List (Operation × Responder)) :
    (s.serveAll calls).Guarding r initial :=
  serveAll_induction h (fun _ event hs => hs.handle event) calls

theorem Guarding.served (h : s.Guarding r initial) (operation : Operation) (responder : Responder) :
    ∃ result, s.Served (s.serve operation responder) operation responder result :=
  serve_served h.gated.sound h.numbered operation responder

theorem Guarding.follows_serve (h : s.Guarding r initial) (operation : Operation)
    (responder : Responder) : s.Follows (s.serve operation responder) := by
  obtain ⟨result, hserved⟩ := h.served operation responder
  exact hserved.apart.toFollows

theorem Guarding.follows (h : s.Guarding r initial) (calls : List (Operation × Responder)) :
    s.Follows (s.serveAll calls) := follows_serveAll h.gated.sound h.numbered calls

/-! ### What calls leave alone -/

theorem Guarding.instance_serveAll (h : s.Guarding r initial) {id : String}
    {calls : List (Operation × Responder)} (hnames : ∀ call ∈ calls, call.1.instanceId ≠ id) :
    (s.serveAll calls).broker.store.records.instances.get? id
      = s.broker.store.records.instances.get? id := by
  induction calls generalizing s with
  | nil => rfl
  | cons call rest ih =>
    obtain ⟨result, hserved⟩ := h.served call.1 call.2
    have hrest := ih (h.serve call.1 call.2) fun other hother =>
      hnames other (List.mem_cons_of_mem call hother)
    exact hrest.trans (hserved.instance_elsewhere (hnames call List.mem_cons_self))

theorem Guarding.binding_serveAll (h : s.Guarding r initial) {id : String}
    {calls : List (Operation × Responder)} (hnames : ∀ call ∈ calls, call.1.bindingId? ≠ some id) :
    (s.serveAll calls).broker.store.records.bindings.get? id
      = s.broker.store.records.bindings.get? id := by
  induction calls generalizing s with
  | nil => rfl
  | cons call rest ih =>
    obtain ⟨result, hserved⟩ := h.served call.1 call.2
    have hrest := ih (h.serve call.1 call.2) fun other hother =>
      hnames other (List.mem_cons_of_mem call hother)
    exact hrest.trans (hserved.binding_elsewhere (hnames call List.mem_cons_self))

/-! ### Two sessions beside each other -/

/-- Two sessions of one broker whose records are the same but for those of one instance and one
binding. -/
structure Beside (r : Registry) (initial : RecordSet) (instanceId bindingId : String)
    (s t : Session) : Prop where
  guarding : s.Guarding r initial
  guarding' : t.Guarding r initial
  instances : ∀ id, id ≠ instanceId →
    t.broker.store.records.instances.get? id = s.broker.store.records.instances.get? id
  bindings : ∀ id, id ≠ bindingId →
    t.broker.store.records.bindings.get? id = s.broker.store.records.bindings.get? id

variable {instanceId bindingId : String}

/-- A call on the two ids is served in one of the sessions. -/
theorem Beside.own (h : Beside r initial instanceId bindingId s t) (operation : Operation)
    (hinstance : operation.instanceId = instanceId)
    (hbinding : ∀ id, operation.bindingId? = some id → id = bindingId) (responder : Responder) :
    Beside r initial instanceId bindingId s (t.serve operation responder) := by
  obtain ⟨result, hserved⟩ := h.guarding'.served operation responder
  refine ⟨h.guarding, h.guarding'.serve operation responder, ?_, ?_⟩
  · intro id hid
    rw [hserved.instance_elsewhere (hinstance ▸ hid.symm)]
    exact h.instances id hid
  · intro id hid
    rw [hserved.binding_elsewhere fun hname => hid (hbinding id hname)]
    exact h.bindings id hid

/-- A call on other ids is served in both. -/
theorem Beside.other (h : Beside r initial instanceId bindingId s t)
    (hinstance : operation.instanceId ≠ instanceId) (hbinding : operation.bindingId? ≠ some bindingId)
    (hprobe : ∃ response, responder .probe = .ok response) :
    Beside r initial instanceId bindingId (s.serve operation responder)
      (t.serve operation responder) := by
  obtain ⟨result, hserved⟩ := h.guarding.served operation responder
  obtain ⟨result', hserved'⟩ := h.guarding'.served operation responder
  have hagree : s.broker.store.records.Agree t.broker.store.records operation := by
    refine ⟨h.instances _ hinstance, ?_⟩
    intro id hname
    exact h.bindings id fun hid => hbinding (hid ▸ hname)
  -- the call takes the same course in both
  have hcourse : t.broker.course responder operation = s.broker.course responder operation := by
    rw [h.guarding.course_eq hprobe, h.guarding'.course_eq hprobe, operation.course_agree hagree]
  have hrecords : (s.serve operation responder).broker.store.records.Agree
      (t.serve operation responder).broker.store.records operation := by
    rw [hserved.records, hserved'.records, hcourse, h.guarding.registry, h.guarding'.registry]
    exact Course.records_agree (fun c => Broker.of_course) hagree r
  -- under the ids of the call the records agree still, under all others nothing has changed
  refine ⟨h.guarding.serve operation responder, h.guarding'.serve operation responder, ?_, ?_⟩
  · intro id hid
    by_cases hname : operation.instanceId = id
    · rw [← hname]
      exact hrecords.instances
    · rw [hserved.instance_elsewhere hname, hserved'.instance_elsewhere hname]
      exact h.instances id hid
  · intro id hid
    by_cases hname : operation.bindingId? = some id
    · exact hrecords.bindings id hname
    · rw [hserved.binding_elsewhere hname, hserved'.binding_elsewhere hname]
      exact h.bindings id hid

theorem Beside.others (h : Beside r initial instanceId bindingId s t)
    {calls : List (Operation × Responder)}
    (hnames : ∀ call ∈ calls, call.1.instanceId ≠ instanceId ∧ call.1.bindingId? ≠ some bindingId)
    (hprobes : ∀ call ∈ calls, ∃ response, call.2 .probe = .ok response) :
    Beside r initial instanceId bindingId (s.serveAll calls) (t.serveAll calls) := by
  induction calls generalizing s t with
  | nil => exact h
  | cons call rest ih =>
    obtain ⟨hinstance, hbinding⟩ := hnames call List.mem_cons_self
    refine ih (h.other hinstance hbinding (hprobes call List.mem_cons_self)) ?_ ?_
    · exact fun other hother => hnames other (List.mem_cons_of_mem call hother)
    · exact fun other hother => hprobes other (List.mem_cons_of_mem call hother)

/-- If the two ids stand for the same in both, the records are the same. -/
theorem Beside.records_eq (h : Beside r initial instanceId bindingId s t)
    (hinstance : t.broker.store.records.instances.get? instanceId
      = s.broker.store.records.instances.get? instanceId)
    (hbinding : t.broker.store.records.bindings.get? bindingId
      = s.broker.store.records.bindings.get? bindingId) :
    t.broker.store.records = s.broker.store.records := by
  -- the two ids are looked at on their own, and all others are the same anyway
  refine RecordSet.ext_get? ?_ ?_
  · intro id
    by_cases hid : id = instanceId
    · rw [hid, hinstance]
    · exact h.instances id hid
  · intro id
    by_cases hid : id = bindingId
    · rw [hid, hbinding]
    · exact h.bindings id hid

/-! ### Calls that succeed -/

/-- What a call comes to that is served by itself and succeeds. -/
structure Yields (s : Session) (operation : Operation) (responder : Responder) (reply : Reply)
    (orders : List (String × PluginCall)) (records : RecordSet) : Prop where
  call : (s.serve operation responder).calls[s.calls.length]?
    = some ⟨operation, .finished (.ok reply)⟩
  orders : Turn.ordersOf s.calls.length (s.serve operation responder).history = orders
  records : (s.serve operation responder).broker.store.records = records

theorem Guarding.yields (h : s.Guarding r initial) (operation : Operation) {address : String}
    (haddress : r.address operation.serviceId = .ok address)
    (hprobe : ∃ response, responder .probe = .ok response) {orders : List (String × PluginCall)}
    {c : Change}
    (hcourse : operation.course r s.broker.store.records responder = ⟨orders, .ok c⟩)
    {records : RecordSet} {reply : Reply}
    (happly : c.apply r s.broker.store.records = (records, .ok reply))
    (hwell : s.SavesWell (s.serve operation responder)) :
    s.Yields operation responder reply orders records := by
  have hwhole : s.broker.course responder operation = ⟨orders, .ok c⟩ := by
    rw [h.course_eq hprobe, Course.asking_registered haddress, hcourse]
  obtain ⟨result, hserved⟩ := h.served operation responder
  have hresult : result = .ok reply := by
    rw [hserved.answer hwell, hwhole, h.registry]
    exact congrArg Prod.snd happly
  refine ⟨hresult ▸ hserved.call, ?_, ?_⟩
  · rw [hserved.orders, hwhole]
  · rw [hserved.records, hwhole, h.registry]
    exact congrArg Prod.fst happly

theorem Guarding.yields_provision (h : s.Guarding r initial) {id address : String}
    {details : ProvisionDetails} {request : CreateVolumeRequest} {response : CreateVolumeResponse}
    (haddress : r.address details.serviceId = .ok address)
    (hprobe : ∃ response, responder .probe = .ok response)
    (hrequest : Parameters.volumeRequest details.parameters = .ok request)
    (hcreated : responder (.createVolume request) = .ok response)
    (hfree : s.broker.store.records.instances.get? id = none)
    (hwell : s.SavesWell (s.serve (.provision id details) responder)) :
    s.Yields (.provision id details) responder (.provisioned .finished)
      [(address, .createVolume request)]
      (s.broker.store.records.putInstance id (details.toRecord ⟨request.name, response.volume⟩)) := by
  refine h.yields (.provision id details) haddress hprobe ?_
    (Change.apply_putInstance_of_free r hfree _) hwell
  simp only [Operation.course, hrequest, Course.asking, haddress, hcreated]
  rfl

theorem Guarding.yields_deprovision (h : s.Guarding r initial) {id address : String}
    {details : DeprovisionDetails} {record : InstanceRecord} {fingerprint : Fingerprint}
    (haddress : r.address details.serviceId = .ok address)
    (hprobe : ∃ response, responder .probe = .ok response) (hid : id ≠ "")
    (hplan : details.planId ≠ "") (hservice : details.serviceId ≠ "")
    (hrecord : s.broker.store.records.instances.get? id = some record)
    (hfingerprint : Fingerprint.ofSlot record.fingerprint = .ok fingerprint)
    (hdeleted : responder (.deleteVolume (.ofVolume fingerprint.volume.volumeId)) = .ok ())
    (hwell : s.SavesWell (s.serve (.deprovision id details) responder)) :
    s.Yields (.deprovision id details) responder (.deprovisioned .finished)
      [(address, .deleteVolume (.ofVolume fingerprint.volume.volumeId))]
      (s.broker.store.records.removeInstance id) := by
  -- the details pass all checks, so the volume to be deleted is that of the record
  have hdeletable : s.broker.store.records.deletable id details
      = .ok fingerprint.volume.volumeId := by
    unfold RecordSet.deletable
    rw [if_neg (by rwa [String.isEmpty_iff]), if_neg (by rwa [String.isEmpty_iff]),
      if_neg (by rwa [String.isEmpty_iff]), hrecord]
    simp only [hfingerprint]
  -- the record is there still when the plugin has answered
  have happly : (Change.removeInstance id).apply r s.broker.store.records
      = (s.broker.store.records.removeInstance id, .ok (.deprovisioned .finished)) := by
    simp only [Change.apply, hrecord]
  refine h.yields (.deprovision id details) haddress hprobe ?_ happly hwell
  simp only [Operation.course, hdeletable, Course.asking, haddress, hdeleted]
  rfl

theorem Guarding.yields_bind (h : s.Guarding r initial) {instanceId bindingId address driver : String}
    {details : BindDetails} {record : InstanceRecord} {fingerprint : Fingerprint}
    {parameters : Dict Json} {mode : MountMode} {containerDir : String} {owner : Option (Dict String)}
    (haddress : r.address details.serviceId = .ok address)
    (hdriver : r.driverName details.serviceId = .ok driver)
    (hprobe : ∃ response, responder .probe = .ok response)
    (hrecord : s.broker.store.records.instances.get? instanceId = some record)
    (hfingerprint : Fingerprint.ofSlot record.fingerprint = .ok fingerprint)
    (hfree : s.broker.store.records.bindings.get? bindingId = none)
    (happlication : details.application ≠ "")
    (hparameters : Parameters.ofBind details.parameters = .ok parameters)
    (hmode : Parameters.mountMode parameters = .ok mode)
    (hcontainer : Parameters.containerPath parameters instanceId = .ok containerDir)
    (howner : Parameters.owner parameters = .ok owner)
    (hwell : s.SavesWell (s.serve (.bind instanceId bindingId details) responder)) :
    s.Yields (.bind instanceId bindingId details) responder
      (.bound (Transaction.bindingOf driver containerDir instanceId mode fingerprint.volume owner)) []
      (s.broker.store.records.putBinding bindingId details.toRecord) := by
  -- every check of a bind is passed, one hypothesis for each
  have hbinding : Change.bindingFor r s.broker.store.records instanceId bindingId details
      = .ok (Transaction.bindingOf driver containerDir instanceId mode fingerprint.volume owner) := by
    unfold Change.bindingFor
    simp only [hrecord, if_neg happlication, hfingerprint, hfree, hdriver, Except.mapError,
      Option.any_none, Bool.false_eq_true, if_false, bind, Except.bind, hparameters, hmode, hcontainer,
      howner]
  have happly : (Change.putBinding instanceId bindingId details).apply r s.broker.store.records
      = (s.broker.store.records.putBinding bindingId details.toRecord,
        .ok (.bound (Transaction.bindingOf driver containerDir instanceId mode fingerprint.volume
          owner))) := by
    simp only [Change.apply, hbinding]
  exact h.yields (.bind instanceId bindingId details) haddress hprobe rfl happly hwell

theorem Guarding.yields_unbind (h : s.Guarding r initial) {instanceId bindingId address : String}
    {details : UnbindDetails} {record : InstanceRecord} {binding : BindingRecord}
    (haddress : r.address details.serviceId = .ok address)
    (hprobe : ∃ response, responder .probe = .ok response)
    (hrecord : s.broker.store.records.instances.get? instanceId = some record)
    (hbinding : s.broker.store.records.bindings.get? bindingId = some binding)
    (hwell : s.SavesWell (s.serve (.unbind instanceId bindingId details) responder)) :
    s.Yields (.unbind instanceId bindingId details) responder .unbound []
      (s.broker.store.records.removeBinding bindingId) := by
  have happly : (Change.removeBinding instanceId bindingId).apply r s.broker.store.records
      = (s.broker.store.records.removeBinding bindingId, .ok .unbound) := by
    simp only [Change.apply, hrecord, hbinding]
  exact h.yields (.unbind instanceId bindingId details) haddress hprobe rfl happly hwell

/-! ### One call among those that are served -/

section Among

variable {calls earlier : List (Operation × Responder)}

theorem serveAll_around (s : Session) (earlier : List (Operation × Responder)) (operation : Operation)
    (responder : Responder) (later : List (Operation × Responder)) :
    s.serveAll (earlier ++ [(operation, responder)] ++ later)
      = ((s.serveAll earlier).serve operation responder).serveAll later := by
  rw [serveAll_append, serveAll_append]
  rfl

/-- Where all saves succeed those of each call do. -/
theorem Guarding.savesWell_within (h : s.Guarding r initial)
    (hamong : earlier ++ [(operation, responder)] <+: calls)
    (hwell : s.SavesWell (s.serveAll calls)) :
    (s.serveAll earlier).SavesWell ((s.serveAll earlier).serve operation responder) := by
  obtain ⟨later, rfl⟩ := hamong
  rw [serveAll_around] at hwell
  have hbefore := h.serveAll earlier
  have hlater := (hbefore.serve operation responder).follows later
  exact (hwell.of_grows hlater.grown).since (h.follows earlier).grown
    (hbefore.follows_serve operation responder).grown

/-- What a call comes to stays when later calls are served. -/
theorem Guarding.lasts (h : s.Guarding r initial)
    (hamong : earlier ++ [(operation, responder)] <+: calls) {reply : Reply}
    {orders : List (String × PluginCall)} {records : RecordSet}
    (hyields : (s.serveAll earlier).Yields operation responder reply orders records) :
    (s.serveAll calls).calls[s.calls.length + earlier.length]?
        = some ⟨operation, .finished (.ok reply)⟩ ∧
      Turn.ordersOf (s.calls.length + earlier.length) (s.serveAll calls).history = orders := by
  obtain ⟨later, rfl⟩ := hamong
  rw [serveAll_around, ← length_serveAll]
  have hlater := ((h.serveAll earlier).serve operation responder).follows later
  refine ⟨hlater.earlier _ _ hyields.call, ?_⟩
  rw [hlater.orders _ (by rw [length_serve]; exact Nat.lt_succ_self _), hyields.orders]

end Among

/-! ### The whole life cycle -/

variable {l : Lifecycle} {address : String} {record : Option InstanceRecord}
  {binding : Option BindingRecord}

/-- How far a life cycle has come in the second of two sessions: what its two ids stand for there. The
first session has served the calls in between only. -/
structure Stage (r : Registry) (initial : RecordSet) (l : Lifecycle) (record : Option InstanceRecord)
    (binding : Option BindingRecord) (s t : Session) : Prop where
  beside : Beside r initial l.instanceId l.bindingId s t
  record : t.broker.store.records.instances.get? l.instanceId = record
  binding : t.broker.store.records.bindings.get? l.bindingId = binding

/-- The calls in between do not touch the two ids. -/
theorem Stage.others (h : Stage r initial l record binding s t) (hvalid : l.Valid r address)
    {calls : List (Operation × Responder)} (hcalls : calls ∈ [l.provisioned, l.bound, l.unbound]) :
    Stage r initial l record binding (s.serveAll calls) (t.serveAll calls) := by
  obtain ⟨hnames, hprobes⟩ := hvalid.between hcalls
  refine ⟨h.beside.others hnames hprobes, ?_, ?_⟩
  · rw [h.beside.guarding'.instance_serveAll fun call hcall => (hnames call hcall).1]
    exact h.record
  · rw [h.beside.guarding'.binding_serveAll fun call hcall => (hnames call hcall).2]
    exact h.binding

theorem Stage.provisioned (h : Stage r initial l none none s t) (hvalid : l.Valid r address)
    (hwell : t.SavesWell (t.serve (.provision l.instanceId l.provision) l.provisioning)) :
    t.Yields (.provision l.instanceId l.provision) l.provisioning (.provisioned .finished)
        [(address, .createVolume l.request)]
        (t.broker.store.records.putInstance l.instanceId l.record) ∧
      Stage r initial l (some l.record) none s
        (t.serve (.provision l.instanceId l.provision) l.provisioning) := by
  have hprobe := hvalid.probed (.provision l.instanceId l.provision, l.provisioning)
    (by simp [Lifecycle.calls])
  have hyields := h.beside.guarding'.yields_provision hvalid.known hprobe hvalid.request hvalid.created
    h.record hwell
  refine ⟨hyields, h.beside.own (.provision l.instanceId l.provision) rfl nofun _, ?_, ?_⟩
  · rw [hyields.records]
    exact Dict.get?_insert_self ..
  · rw [hyields.records]
    exact h.binding

/-- The bind hands out the volume of the provision. -/
theorem Stage.bound (h : Stage r initial l (some l.record) none s t) (hvalid : l.Valid r address)
    (hwell : t.SavesWell (t.serve (.bind l.instanceId l.bindingId l.bind) l.binding)) :
    (∃ driver containerDir mode owner,
      t.Yields (.bind l.instanceId l.bindingId l.bind) l.binding
        (.bound (Transaction.bindingOf driver containerDir l.instanceId mode l.response.volume owner)) []
        (t.broker.store.records.putBinding l.bindingId l.bind.toRecord)) ∧
      Stage r initial l (some l.record) (some l.bind.toRecord) s
        (t.serve (.bind l.instanceId l.bindingId l.bind) l.binding) := by
  have hprobe := hvalid.probed (.bind l.instanceId l.bindingId l.bind, l.binding)
    (by simp [Lifecycle.calls])
  have haddress : r.address l.bind.serviceId = .ok address := hvalid.bind ▸ hvalid.known
  -- the driver stands in the entry of the service
  obtain ⟨entry, hentry, -⟩ := exists_of_map_ok haddress
  have hdriver : r.driverName l.bind.serviceId = .ok entry.driverName := by
    unfold Registry.driverName
    rw [hentry]
    rfl
  obtain ⟨parameters, mode, containerDir, owner, hparameters, hmode, hcontainer, howner⟩ :=
    hvalid.parameters
  have hyields := h.beside.guarding'.yields_bind haddress hdriver hprobe h.record
    (show Fingerprint.ofSlot l.record.fingerprint = .ok ⟨l.request.name, l.response.volume⟩ from rfl)
    h.binding hvalid.application hparameters hmode hcontainer howner hwell
  refine ⟨⟨_, _, _, _, hyields⟩, h.beside.own (.bind l.instanceId l.bindingId l.bind) rfl
    (fun _ hname => (Option.some.inj hname).symm) _, ?_, ?_⟩
  · rw [hyields.records]
    exact h.record
  · rw [hyields.records]
    exact Dict.get?_insert_self ..

theorem Stage.unbound (h : Stage r initial l (some l.record) (some l.bind.toRecord) s t)
    (hvalid : l.Valid r address)
    (hwell : t.SavesWell (t.serve (.unbind l.instanceId l.bindingId l.unbind) l.unbinding)) :
    t.Yields (.unbind l.instanceId l.bindingId l.unbind) l.unbinding .unbound []
        (t.broker.store.records.removeBinding l.bindingId) ∧
      Stage r initial l (some l.record) none s
        (t.serve (.unbind l.instanceId l.bindingId l.unbind) l.unbinding) := by
  have hprobe := hvalid.probed (.unbind l.instanceId l.bindingId l.unbind, l.unbinding)
    (by simp [Lifecycle.calls])
  have haddress : r.address l.unbind.serviceId = .ok address := hvalid.unbind ▸ hvalid.known
  have hyields := h.beside.guarding'.yields_unbind haddress hprobe h.record h.binding hwell
  -- only the binding is gone
  refine ⟨hyields, h.beside.own (.unbind l.instanceId l.bindingId l.unbind) rfl
    (fun _ hname => (Option.some.inj hname).symm) _, ?_, ?_⟩
  · rw [hyields.records]
    exact h.record
  · rw [hyields.records]
    exact Dict.get?_erase_self ..

theorem Stage.deprovisioned (h : Stage r initial l (some l.record) none s t) (hnamed : r.Named)
    (hvalid : l.Valid r address)
    (hwell : t.SavesWell (t.serve (.deprovision l.instanceId l.deprovision) l.deprovisioning)) :
    t.Yields (.deprovision l.instanceId l.deprovision) l.deprovisioning (.deprovisioned .finished)
        [(address, .deleteVolume (.ofVolume l.response.volume.volumeId))]
        (t.broker.store.records.removeInstance l.instanceId) ∧
      Stage r initial l none none s
        (t.serve (.deprovision l.instanceId l.deprovision) l.deprovisioning) := by
  have hprobe := hvalid.probed (.deprovision l.instanceId l.deprovision, l.deprovisioning)
    (by simp [Lifecycle.calls])
  have haddress : r.address l.deprovision.serviceId = .ok address := hvalid.deprovision ▸ hvalid.known
  obtain ⟨entry, hentry, -⟩ := exists_of_map_ok haddress
  have hyields := h.beside.guarding'.yields_deprovision haddress hprobe hvalid.instanceId hvalid.planId
    (hnamed.ne_empty hentry) h.record
    (show Fingerprint.ofSlot l.record.fingerprint = .ok ⟨l.request.name, l.response.volume⟩ from rfl)
    hvalid.deleted hwell
  refine ⟨hyields, h.beside.own (.deprovision l.instanceId l.deprovision) rfl nofun _, ?_, ?_⟩
  · rw [hyields.records]
    exact Dict.get?_erase_self ..
  · rw [hyields.records]
    exact h.binding

/-- The mount names the volume, and tells its context. -/
theorem get?_mountConfig (volume : Volume) (owner : Option (Dict String)) :
    (Transaction.mountConfig volume owner).get? "id" = some (.str volume.volumeId) ∧
      (Transaction.mountConfig volume owner).get? "attributes"
        = some (.ofStrings volume.volumeContext) := by
  unfold Transaction.mountConfig
  rw [Dict.get?_ofList, Dict.get?_ofList]
  exact ⟨rfl, rfl⟩

/-- **Nothing is left of a life cycle** whose calls are served in a session. -/
structure Undone (s : Session) (l : Lifecycle) (address : String) : Prop where
  provisioned : (s.serveAll l.calls).calls[s.calls.length]?
    = some ⟨.provision l.instanceId l.provision, .finished (.ok (.provisioned .finished))⟩
  created : Turn.ordersOf s.calls.length (s.serveAll l.calls).history
    = [(address, .createVolume l.request)]
  /-- The mount tells the driver which volume it is, as the plugin has said. -/
  bound : ∃ binding mount, (s.serveAll l.calls).calls[s.calls.length + l.provisioned.length + 1]?
      = some ⟨.bind l.instanceId l.bindingId l.bind, .finished (.ok (.bound binding))⟩ ∧
    binding.volumeMounts = [mount] ∧
      mount.device.mountConfig.get? "id" = some (.str l.response.volume.volumeId) ∧
        mount.device.mountConfig.get? "attributes"
          = some (.ofStrings l.response.volume.volumeContext)
  unbound : (s.serveAll l.calls).calls[
      s.calls.length + l.provisioned.length + l.bound.length + 2]?
    = some ⟨.unbind l.instanceId l.bindingId l.unbind, .finished (.ok .unbound)⟩
  deprovisioned : (s.serveAll l.calls).calls[
      s.calls.length + l.provisioned.length + l.bound.length + l.unbound.length + 3]?
    = some ⟨.deprovision l.instanceId l.deprovision, .finished (.ok (.deprovisioned .finished))⟩
  /-- The same volume is deleted, without secrets. -/
  deleted : Turn.ordersOf
      (s.calls.length + l.provisioned.length + l.bound.length + l.unbound.length + 3)
      (s.serveAll l.calls).history
    = [(address, .deleteVolume ⟨l.response.volume.volumeId, .empty⟩)]
  records : (s.serveAll l.calls).broker.store.records = (s.serveAll l.others).broker.store.records

/-- What a life cycle comes to in a session that knows neither of its ids. -/
theorem Guarding.undone (hs : s.Guarding r initial) (hnamed : r.Named) (hvalid : l.Valid r address)
    (hinstance : s.broker.store.records.instances.get? l.instanceId = none)
    (hbinding : s.broker.store.records.bindings.get? l.bindingId = none)
    (hwell : s.SavesWell (s.serveAll l.calls)) : s.Undone l address := by
  have hin₁ : l.provisioned ∈ [l.provisioned, l.bound, l.unbound] := by simp
  have hin₂ : l.bound ∈ [l.provisioned, l.bound, l.unbound] := by simp
  have hin₃ : l.unbound ∈ [l.provisioned, l.bound, l.unbound] := by simp
  -- where the four calls stand among all calls
  have hamong₁ : [] ++ [(.provision l.instanceId l.provision, l.provisioning)] <+: l.calls := by
    simp [Lifecycle.calls]
  have hamong₂ : l.beforeBind ++ [(.bind l.instanceId l.bindingId l.bind, l.binding)] <+: l.calls := by
    simp [Lifecycle.calls, Lifecycle.beforeBind]
  have hamong₃ : l.beforeUnbind ++ [(.unbind l.instanceId l.bindingId l.unbind, l.unbinding)]
      <+: l.calls := by
    simp [Lifecycle.calls, Lifecycle.beforeBind, Lifecycle.beforeUnbind]
  have hamong₄ : l.beforeDeprovision
      ++ [(.deprovision l.instanceId l.deprovision, l.deprovisioning)] <+: l.calls := List.prefix_rfl
  -- the life cycle, stage by stage
  have hstage₀ : Stage r initial l none none s s :=
    ⟨⟨hs, hs, fun _ _ => rfl, fun _ _ => rfl⟩, hinstance, hbinding⟩
  obtain ⟨hprovisioned, hstage⟩ :=
    hstage₀.provisioned hvalid (hs.savesWell_within hamong₁ hwell)
  have hstage₁ : Stage r initial l (some l.record) none (s.serveAll l.provisioned)
      (s.serveAll l.beforeBind) := hstage.others hvalid hin₁
  obtain ⟨⟨driver, containerDir, mode, owner, hbound⟩, hstage⟩ :=
    hstage₁.bound hvalid (hs.savesWell_within hamong₂ hwell)
  have hstage₂ : Stage r initial l (some l.record) (some l.bind.toRecord)
      ((s.serveAll l.provisioned).serveAll l.bound) (s.serveAll l.beforeUnbind) := by
    unfold Lifecycle.beforeUnbind
    rw [serveAll_around]
    exact hstage.others hvalid hin₂
  obtain ⟨hunbound, hstage⟩ := hstage₂.unbound hvalid (hs.savesWell_within hamong₃ hwell)
  have hstage₃ : Stage r initial l (some l.record) none
      (((s.serveAll l.provisioned).serveAll l.bound).serveAll l.unbound)
      (s.serveAll l.beforeDeprovision) := by
    unfold Lifecycle.beforeDeprovision
    rw [serveAll_around]
    exact hstage.others hvalid hin₃
  obtain ⟨hdeprovisioned, hstage⟩ :=
    hstage₃.deprovisioned hnamed hvalid (hs.savesWell_within hamong₄ hwell)
  -- the numbers of the four calls
  have hlength₂ : s.calls.length + l.beforeBind.length = s.calls.length + l.provisioned.length + 1 := by
    simp only [Lifecycle.beforeBind, List.length_append, List.length_singleton]
    omega
  have hlength₃ : s.calls.length + l.beforeUnbind.length
      = s.calls.length + l.provisioned.length + l.bound.length + 2 := by
    simp only [Lifecycle.beforeUnbind, List.length_append, List.length_singleton]
    omega
  have hlength₄ : s.calls.length + l.beforeDeprovision.length
      = s.calls.length + l.provisioned.length + l.bound.length + l.unbound.length + 3 := by
    simp only [Lifecycle.beforeDeprovision, List.length_append, List.length_singleton]
    omega
  obtain ⟨hcall₁, horders₁⟩ := hs.lasts hamong₁ hprovisioned
  obtain ⟨hcall₂, -⟩ := hs.lasts hamong₂ hbound
  obtain ⟨hcall₃, -⟩ := hs.lasts hamong₃ hunbound
  obtain ⟨hcall₄, horders₄⟩ := hs.lasts hamong₄ hdeprovisioned
  rw [hlength₂] at hcall₂
  rw [hlength₃] at hcall₃
  rw [hlength₄] at hcall₄ horders₄
  refine ⟨hcall₁, horders₁, ⟨_, _, hcall₂, rfl, get?_mountConfig ..⟩, hcall₃, hcall₄, horders₄, ?_⟩
  -- in the end both ids stand for nothing in both sessions
  have hfinal : s.serveAll l.calls = (s.serveAll l.beforeDeprovision).serve
      (.deprovision l.instanceId l.deprovision) l.deprovisioning :=
    serveAll_append s l.beforeDeprovision [(.deprovision l.instanceId l.deprovision, l.deprovisioning)]
  have hothers : s.serveAll l.others
      = ((s.serveAll l.provisioned).serveAll l.bound).serveAll l.unbound := by
    unfold Lifecycle.others
    simp only [serveAll_append]
  -- the session without the four calls knows neither id after any of the others
  have habsent := ((hstage₀.others hvalid hin₁).others hvalid hin₂).others hvalid hin₃
  rw [hfinal, hothers]
  exact hstage.beside.records_eq (hstage.record.trans habsent.record.symm)
    (hstage.binding.trans habsent.binding.symm)

/-- A state that a broker reaches whose services have been specified. -/
def Arises (s : Session) (registry : Registry) : Prop :=
  ∃ specs connect medium records files events,
    (Registry.build specs connect).result = .ok registry ∧
      s = (opened ⟨registry, .empty, ⟨medium, records, .none⟩⟩ files).run events

/-- **Life cycles.** In every state that a broker reaches, a life cycle whose ids are free leaves nothing
behind, whatever calls on other ids are served in between. -/
theorem lifecycle_undone {registry : Registry} (hs : s.Arises registry)
    (hvalid : l.Valid registry address)
    (hinstance : s.broker.store.records.instances.get? l.instanceId = none)
    (hbinding : s.broker.store.records.bindings.get? l.bindingId = none)
    (hwell : s.SavesWell (s.serveAll l.calls)) : s.Undone l address := by
  obtain ⟨specs, connect, medium, records, files, events, hbuilt, rfl⟩ := hs
  have hguarding := (Guarding.of_opened registry medium records files).run events
  exact hguarding.undone (Registry.named_of_build hbuilt) hvalid hinstance hbinding hwell

end Session

/-! ### A life cycle among other calls -/

namespace AmongOthers

open Installation

/-- The plugin makes a volume with a context. -/
def maker : Responder
  | .probe => .ok ⟨none⟩
  | .createVolume _ => .ok ⟨⟨"volume", 0, Dict.empty.insert "share" "server"⟩⟩
  | .deleteVolume _ => .ok ()

/-- An instance that has been there before is bound and unbound in between, and another one is made. -/
def lifecycle : Lifecycle where
  instanceId := "i"
  bindingId := "b"
  provision := details "new"
  bind := ⟨"svc", "plan", "app", none, none⟩
  unbind := ⟨"svc", "plan"⟩
  deprovision := ⟨"svc", "plan"⟩
  request := request "new"
  response := ⟨⟨"volume", 0, Dict.empty.insert "share" "server"⟩⟩
  provisioning := maker
  binding := maker
  unbinding := maker
  deprovisioning := maker
  provisioned := [(.bind "j" "c" ⟨"svc", "plan", "app", none, none⟩, plugin)]
  bound := [(.provision "k" (details "other"), plugin)]
  unbound := [(.unbind "j" "c" ⟨"svc", "plan"⟩, plugin)]

/-- The session in which the first instance has been made. -/
def session : Session :=
  (Session.opened ⟨registry, .empty, ⟨.memory, .empty, .none⟩⟩ .empty).run
    [.arrival (.provision "j" (details "old")), .answer 0 plugin, .answer 0 plugin]

theorem arises_session : session.Arises registry :=
  ⟨[spec], .lazy, .memory, .empty, .empty, _, build_spec, rfl⟩

theorem valid_lifecycle : lifecycle.Valid registry "plugin" where
  instanceId := by decide
  known := rfl
  bind := rfl
  unbind := rfl
  deprovision := rfl
  planId := by decide
  request := rfl
  application := by decide
  parameters := ⟨_, _, _, _, rfl, rfl, rfl, rfl⟩
  created := rfl
  deleted := rfl
  probed := by
    intro call hcall
    simp only [Lifecycle.calls, lifecycle, List.cons_append, List.nil_append, List.mem_cons,
      List.not_mem_nil, or_false] at hcall
    rcases hcall with rfl | rfl | rfl | rfl | rfl | rfl | rfl <;> exact ⟨_, rfl⟩
  others := by
    intro call hcall
    simp only [Lifecycle.others, lifecycle, List.cons_append, List.nil_append, List.mem_cons,
      List.not_mem_nil, or_false] at hcall
    rcases hcall with rfl | rfl | rfl
    · exact ⟨by decide, by decide⟩
    · exact ⟨by decide, nofun⟩
    · exact ⟨by decide, by decide⟩

theorem saved_session : session.SavesWell (session.serveAll lifecycle.calls) := by
  have hattempts : Turn.attempts ((session.serveAll lifecycle.calls).history.drop
      session.history.length) = List.replicate 7 (.ok ()) := rfl
  intro saved hsaved
  rw [hattempts] at hsaved
  exact List.eq_of_mem_replicate hsaved

/-- Nothing is left of it. -/
theorem undone_lifecycle : session.Undone lifecycle "plugin" :=
  Session.lifecycle_undone arises_session valid_lifecycle rfl rfl saved_session

end AmongOthers

end VolumeBroker
