import VolumeBroker.Proofs.Session.Serving
import VolumeBroker.Proofs.Session.Stability
/-!
# What a call comes to

A call takes up to three steps, and what becomes of it is settled by the records under the ids that it
names and by the replies of its plugin. The `Course` of a call says what that is: what it asks of the
plugin besides probes, and the change that it runs in the end, or the error with which it ends before
it gets there. `Broker.course` is the course of a call from its first step on, `Waiting.course` the one
of a call that waits.

Each step does its part of the course (`Step.Pursues`): it waits for the plugin call that comes next,
and then the rest of the course is that of the waiting call, or it ends the call as the course says.
`begin_pursues` and `resume_pursues` say so of the two kinds of steps.

A course depends on the records under the ids of its call only (`Operation.course_congr`), and so does
its change (`Change.Of.apply_agree`), which leaves the records under all other ids alone
(`Change.Of.instance_elsewhere`, `Change.Of.binding_elsewhere`).
-/

namespace VolumeBroker

/-! ### Courses -/

/-- A plugin call as an order to the plugin at an address. A probe orders nothing. -/
def PluginCall.orders (address : String) (call : PluginCall) : List (String × PluginCall) :=
  if call.isProbe then [] else [(address, call)]

/-- What becomes of a call. -/
structure Course where
  /-- The plugin calls besides probes, with the addresses that they go to. -/
  orders : List (String × PluginCall)
  /-- The change that is run in the end, or the error that ends the call before. -/
  ending : Except BrokerError Change

namespace Course

/-- The call ends with an error. -/
def fails (e : BrokerError) : Course := ⟨[], .error e⟩

/-- The call runs a change. -/
def runs (c : Change) : Course := ⟨[], .ok c⟩

/-- The rest of a course comes behind some orders. -/
def behind (orders : List (String × PluginCall)) (rest : Course) : Course :=
  ⟨orders ++ rest.orders, rest.ending⟩

/-- The rest of a course comes behind a call to the plugin of a service, if that is registered. -/
def asking (r : Registry) (serviceId : String) (call : PluginCall) (rest : Course) : Course :=
  match r.address serviceId with
  | .error e => fails (.registry e)
  | .ok address => rest.behind (call.orders address)

/-- What the call answers, if its change finds some records and is saved. -/
def answer (r : Registry) (found : RecordSet) (course : Course) : Except BrokerError Reply :=
  match course.ending with
  | .error e => .error e
  | .ok c => (c.apply r found).2

/-- The records behind the call, if its change finds some records. -/
def records (r : Registry) (found : RecordSet) (course : Course) : RecordSet :=
  match course.ending with
  | .error _ => found
  | .ok c => (c.apply r found).1

@[simp] theorem behind_nil (rest : Course) : rest.behind [] = rest := rfl

theorem behind_append (first second : List (String × PluginCall)) (rest : Course) :
    rest.behind (first ++ second) = (rest.behind second).behind first := by
  unfold behind
  rw [List.append_assoc]

/-- The course behind an answer to the creation of a volume. -/
def created (id : String) (details : ProvisionDetails) (request : CreateVolumeRequest) :
    Except PluginError CreateVolumeResponse → Course
  | .error e => fails (.plugin "create_volume" e)
  | .ok response => runs (.putInstance id (details.toRecord ⟨request.name, response.volume⟩))

/-- The course behind an answer to the deletion of a volume. -/
def deleted (id : String) : Except PluginError Unit → Course
  | .error e => fails (.plugin "delete_volume" e)
  | .ok _ => runs (.removeInstance id)

end Course

/-- The volume that a deprovision deletes, if all that it needs is there. -/
def RecordSet.deletable (records : RecordSet) (id : String) (details : DeprovisionDetails) :
    Except BrokerError String :=
  if id.isEmpty then .error (.missingField "instance_id")
  else if details.planId.isEmpty then .error (.missingField "plan_id")
  else if details.serviceId.isEmpty then .error (.missingField "service_id")
  else
    match records.instances.get? id with
    | none => .error (.instanceDoesNotExist id)
    | some record =>
      match Fingerprint.ofSlot record.fingerprint with
      | .error m => .error (.fingerprint id m)
      | .ok fingerprint => .ok fingerprint.volume.volumeId

/-- The course of an operation behind the gate. -/
def Operation.course (r : Registry) (records : RecordSet) (responder : Responder) :
    Operation → Course
  | .provision id details =>
    match Parameters.volumeRequest details.parameters with
    | .error e => .fails e
    | .ok request =>
      .asking r details.serviceId (.createVolume request)
        (.created id details request (responder (.createVolume request)))
  | .deprovision id details =>
    match records.deletable id details with
    | .error e => .fails e
    | .ok volumeId =>
      .asking r details.serviceId (.deleteVolume (.ofVolume volumeId))
        (.deleted id (responder (.deleteVolume (.ofVolume volumeId))))
  | .bind instanceId bindingId details => .runs (.putBinding instanceId bindingId details)
  | .unbind instanceId bindingId _ => .runs (.removeBinding instanceId bindingId)

/-- The course of an operation that waits for its plugin. -/
def Waiting.course (r : Registry) (records : RecordSet) (responder : Responder) : Waiting → Course
  | .probe operation =>
    match responder .probe with
    | .error e => .fails (.plugin "probe" e)
    | .ok _ => operation.course r records responder
  | .creation id details request => .created id details request (responder (.createVolume request))
  | .deletion id _ volumeId => .deleted id (responder (.deleteVolume (.ofVolume volumeId)))

/-- The course of an operation from its first step on. -/
def Broker.course (b : Broker) (responder : Responder) (operation : Operation) : Course :=
  if b.gate.isPassed operation.serviceId then
    operation.course b.registry b.store.records responder
  else
    .asking b.registry operation.serviceId .probe
      ((Waiting.probe operation).course b.registry b.store.records responder)

/-! ### Steps on a course -/

/-- What a step does for the course of its call. -/
inductive Step.Pursues (step : Step) (b : Broker) (files : FileSystem) (responder : Responder)
    (course : Course) : Prop where
  /-- It waits for the next plugin call, and the rest of the course comes behind the answer. -/
  | waits {address : String} {w : Waiting} (spares : step.Spares b files)
      (progress : step.progress = .waiting address w)
      (rest : course
        = (w.course b.registry b.store.records responder).behind (w.call.orders address))
  /-- The course ends with an error, and so does the call. -/
  | fails {e : BrokerError} (spares : step.Spares b files)
      (progress : step.progress = .finished (.error e)) (rest : course = .fails e)
  /-- The course ends with a change, and the step runs it. -/
  | runs {c : Change} (performs : step.Performs b files c) (rest : course = .runs c)

namespace Broker

variable {b : Broker}

theorem refuse_pursues (b : Broker) (files : FileSystem) (responder : Responder) (e : BrokerError) :
    (b.refuse files e).Pursues b files responder (.fails e) :=
  .fails (refuse_spares b files e) rfl rfl

theorem await_pursues (b : Broker) (files : FileSystem) (responder : Responder) (w : Waiting) :
    (b.await files w).Pursues b files responder
      (.asking b.registry w.serviceId w.call (w.course b.registry b.store.records responder)) := by
  have hspares := await_spares b files w
  unfold await at hspares ⊢
  unfold Course.asking
  -- a service without an address is refused before its plugin is asked
  cases haddress : b.registry.address w.serviceId with
  | error e => exact refuse_pursues b files responder _
  | ok address =>
    rw [haddress] at hspares
    exact .waits hspares rfl rfl

theorem commit_pursues (h : b.store.outage.SparesRecords) (files : FileSystem) (responder : Responder)
    (c : Change) :
    (b.commit files (c.run b.registry b.store)).Pursues b files responder (.runs c) :=
  .runs (commit_performs h files c) rfl

/-- What a deprovision waits for, as far as the records decide. -/
theorem deletionOf_eq (h : b.store.outage.SparesRecords) (id : String)
    (details : DeprovisionDetails) :
    b.deletionOf id details = (b.store.records.deletable id details).map (.deletion id details) := by
  unfold deletionOf RecordSet.deletable
  rw [Transaction.findInstance_of_spares h]
  -- the checks of the details are the same on both sides, and so is the look at the record
  split
  · rfl
  split
  · rfl
  split
  · rfl
  cases b.store.records.instances.get? id with
  | none => rfl
  | some record =>
    simp only [Transaction.fingerprintOf, bind, Except.bind]
    cases Fingerprint.ofSlot record.fingerprint <;> rfl

theorem proceed_pursues (h : b.store.outage.SparesRecords) (files : FileSystem)
    (responder : Responder) (operation : Operation) :
    (b.proceed files operation).Pursues b files responder
      (operation.course b.registry b.store.records responder) := by
  -- an instance is made or taken away by the plugin first; a binding is recorded at once
  cases operation with
  | provision id details =>
    simp only [proceed, Operation.course]
    cases Parameters.volumeRequest details.parameters with
    | error e => exact refuse_pursues b files responder e
    | ok request => exact await_pursues b files responder (.creation id details request)
  | deprovision id details =>
    simp only [proceed, Operation.course, deletionOf_eq h]
    cases b.store.records.deletable id details with
    | error e => exact refuse_pursues b files responder e
    | ok volumeId => exact await_pursues b files responder (.deletion id details volumeId)
  | bind instanceId bindingId details =>
    exact commit_pursues h files responder (.putBinding instanceId bindingId details)
  | unbind instanceId bindingId details =>
    exact commit_pursues h files responder (.removeBinding instanceId bindingId)

/-- **The first step of a call** is on its course. -/
theorem begin_pursues (h : b.store.outage.SparesRecords) (files : FileSystem) (responder : Responder)
    (operation : Operation) :
    (b.begin files operation).Pursues b files responder (b.course responder operation) := by
  unfold begin course
  split
  · exact proceed_pursues h files responder operation
  · exact await_pursues b files responder (.probe operation)

/-- The course of a step has nothing to do with the gate that it finds. -/
theorem pursues_of_gate {step : Step} {gate : ProbeGate} {files : FileSystem} {responder : Responder}
    {course : Course} (h : step.Pursues { b with gate } files responder course) :
    step.Pursues b files responder course := by
  cases h with
  | waits spares progress rest => exact .waits (@meets_of_gate _ _ _ _ none spares) progress rest
  | fails spares progress rest => exact .fails (@meets_of_gate _ _ _ _ none spares) progress rest
  | @runs c performs rest => exact .runs (@meets_of_gate _ _ _ _ (some c) performs) rest

/-- **A step behind an answer of the plugin** is on the course of the call that has waited. -/
theorem resume_pursues (h : b.store.outage.SparesRecords) (files : FileSystem)
    (responder : Responder) (w : Waiting) :
    (b.resume files w (responder w.call)).Pursues b files responder
      (w.course b.registry b.store.records responder) := by
  -- by what has been waited for: behind a probe the operation itself begins
  cases w with
  | probe operation =>
    simp only [Waiting.course, Waiting.call]
    cases responder .probe with
    | error e => exact refuse_pursues b files responder _
    | ok response =>
      -- the step goes on behind the gate, which the answer has opened
      let passed : Broker := { b with gate := b.gate.mark operation.serviceId }
      exact pursues_of_gate (@proceed_pursues passed h files responder operation)
  | creation id details request =>
    simp only [Waiting.course, Waiting.call]
    cases responder (.createVolume request) with
    | error e => exact refuse_pursues b files responder _
    | ok response =>
      exact commit_pursues h files responder
        (.putInstance id (details.toRecord ⟨request.name, response.volume⟩))
  | deletion id details volumeId =>
    simp only [Waiting.course, Waiting.call]
    cases responder (.deleteVolume (.ofVolume volumeId)) with
    | error e => exact refuse_pursues b files responder _
    | ok response => exact commit_pursues h files responder (.removeInstance id)

end Broker

/-! ### Records under the ids of a call -/

/-- Two record sets hold the same under the ids that an operation names. -/
structure RecordSet.Agree (a b : RecordSet) (operation : Operation) : Prop where
  instances : b.instances.get? operation.instanceId = a.instances.get? operation.instanceId
  bindings : ∀ id, operation.bindingId? = some id → b.bindings.get? id = a.bindings.get? id

/-- Two operations name no id in common. -/
structure Operation.Independent (a b : Operation) : Prop where
  instances : a.instanceId ≠ b.instanceId
  bindings : ∀ id, a.bindingId? = some id → b.bindingId? ≠ some id

theorem Operation.Independent.symm {a b : Operation} (h : a.Independent b) : b.Independent a :=
  ⟨Ne.symm h.instances, fun id hb ha => h.bindings id ha hb⟩

namespace RecordSet.Agree

variable {a b c : RecordSet} {operation : Operation}

theorem trans (hab : a.Agree b operation) (hbc : b.Agree c operation) : a.Agree c operation :=
  ⟨hbc.instances.trans hab.instances, fun id hid => (hbc.bindings id hid).trans (hab.bindings id hid)⟩

end RecordSet.Agree

section Agree

variable {a b : RecordSet} {operation : Operation}

theorem RecordSet.deletable_agree {id : String} {details : DeprovisionDetails}
    (h : a.Agree b (.deprovision id details)) : b.deletable id details = a.deletable id details := by
  unfold deletable
  rw [show b.instances.get? id = a.instances.get? id from h.instances]

/-- The course of an operation is settled by the records under its ids. -/
theorem Operation.course_agree (h : a.Agree b operation) (r : Registry) (responder : Responder) :
    operation.course r b responder = operation.course r a responder := by
  -- only a deprovision looks at the records before it asks its plugin
  cases operation with
  | provision id details => rfl
  | deprovision id details =>
    simp only [course]
    rw [RecordSet.deletable_agree h]
  | bind instanceId bindingId details => rfl
  | unbind instanceId bindingId details => rfl

theorem Waiting.course_agree {w : Waiting} (hw : w.Serves operation) (h : a.Agree b operation)
    (r : Registry) (responder : Responder) : w.course r b responder = w.course r a responder := by
  cases hw with
  | probe =>
    simp only [course]
    rw [operation.course_agree h]
  | creation => rfl
  | deletion => rfl

end Agree

namespace Change

variable {c : Change} {operation : Operation} {answered : Option Answered} {a b : RecordSet}

theorem bindingFor_agree {instanceId bindingId : String} {details : BindDetails}
    (h : a.Agree b (.bind instanceId bindingId details)) (r : Registry) :
    bindingFor r b instanceId bindingId details = bindingFor r a instanceId bindingId details := by
  have hinstance : b.instances.get? instanceId = a.instances.get? instanceId := h.instances
  have hbinding : b.bindings.get? bindingId = a.bindings.get? bindingId := h.bindings bindingId rfl
  unfold bindingFor
  rw [hinstance, hbinding]

/-- A change answers the same on records that are the same under the ids of its operation, and leaves
such records. -/
theorem Of.apply_agree (hof : c.Of operation answered) (h : a.Agree b operation) (r : Registry) :
    (c.apply r b).2 = (c.apply r a).2 ∧ (c.apply r a).1.Agree (c.apply r b).1 operation := by
  -- each change looks up its own ids only, and the two record sets agree there
  cases hof with
  | @provision id details request hrequest response =>
    have hinstance : b.instances.get? id = a.instances.get? id := h.instances
    have hput : (a.putInstance id (details.toRecord ⟨request.name, response.volume⟩)).Agree
        (b.putInstance id (details.toRecord ⟨request.name, response.volume⟩))
        (.provision id details) := by
      refine ⟨?_, fun id hid => by cases hid⟩
      simp only [Operation.instanceId, RecordSet.putInstance, Dict.get?_insert_self]
    simp only [apply, hinstance]
    split
    · exact ⟨rfl, hput⟩
    · split
      · exact ⟨rfl, hput⟩
      · exact ⟨rfl, h⟩
  | deprovision id details volumeId response =>
    have hinstance : b.instances.get? id = a.instances.get? id := h.instances
    simp only [apply, hinstance]
    split
    · refine ⟨rfl, ?_, fun id hid => by cases hid⟩
      simp only [Operation.instanceId, RecordSet.removeInstance, Dict.get?_erase_self]
    · exact ⟨rfl, h⟩
  | bind instanceId bindingId details answered =>
    simp only [apply, bindingFor_agree h]
    split
    · refine ⟨rfl, h.instances, ?_⟩
      rintro id ⟨⟩
      simp only [RecordSet.putBinding, Dict.get?_insert_self]
    · exact ⟨rfl, h⟩
  | unbind instanceId bindingId details answered =>
    have hinstance : b.instances.get? instanceId = a.instances.get? instanceId := h.instances
    have hbinding : b.bindings.get? bindingId = a.bindings.get? bindingId := h.bindings bindingId rfl
    simp only [apply, hinstance, hbinding]
    split
    · refine ⟨rfl, h.instances, ?_⟩
      rintro id ⟨⟩
      simp only [RecordSet.removeBinding, Dict.get?_erase_self]
    · exact ⟨rfl, h⟩
    · exact ⟨rfl, h⟩

/-- A change leaves all instances alone but that of its operation. -/
theorem Of.instance_elsewhere (hof : c.Of operation answered) (r : Registry) (records : RecordSet)
    {id : String} (hid : operation.instanceId ≠ id) :
    (c.apply r records).1.instances.get? id = records.instances.get? id := by
  -- a change of the instance would be one under the id of the call
  cases onInstance r records c id with
  | kept h => exact h
  | put record change _ _ =>
    subst change
    obtain ⟨details, -, -, rfl, -, -⟩ := hof.of_putInstance
    exact absurd rfl hid
  | removed change _ =>
    subst change
    obtain ⟨details, -, -, rfl, -⟩ := hof.of_removeInstance
    exact absurd rfl hid

/-- A change leaves all bindings alone but that of its operation. -/
theorem Of.binding_elsewhere (hof : c.Of operation answered) (r : Registry) (records : RecordSet)
    {id : String} (hid : operation.bindingId? ≠ some id) :
    (c.apply r records).1.bindings.get? id = records.bindings.get? id := by
  cases onBinding r records c id with
  | kept h => exact h
  | put instanceId details change _ _ =>
    subst change
    rw [hof.of_putBinding] at hid
    exact absurd rfl hid
  | removed instanceId change _ =>
    subst change
    obtain ⟨details, rfl⟩ := hof.of_removeBinding
    exact absurd rfl hid

end Change

/-! ### The change at the end of a course -/

namespace Course

variable {c : Change}

/-- A course leaves the same under the ids of its operation wherever it finds the same there. -/
theorem records_agree {course : Course} {operation : Operation}
    (hof : ∀ c, course.ending = .ok c → ∃ answered, c.Of operation answered) {a b : RecordSet}
    (h : a.Agree b operation) (r : Registry) :
    (course.records r a).Agree (course.records r b) operation := by
  unfold records
  cases hending : course.ending with
  | error e => exact h
  | ok c =>
    obtain ⟨answered, hof⟩ := hof c hending
    exact (hof.apply_agree h r).2

theorem ending_of_asking {r : Registry} {serviceId : String} {call : PluginCall} {rest : Course}
    (h : (asking r serviceId call rest).ending = .ok c) : rest.ending = .ok c := by
  unfold asking at h
  split at h
  · cases h
  · exact h

theorem exists_of_created {id : String} {details : ProvisionDetails} {request : CreateVolumeRequest}
    {outcome : Except PluginError CreateVolumeResponse}
    (h : (created id details request outcome).ending = .ok c) : ∃ response : CreateVolumeResponse,
      c = .putInstance id (details.toRecord ⟨request.name, response.volume⟩) := by
  cases outcome with
  | error e => cases h
  | ok response => exact ⟨response, (Except.ok.inj h).symm⟩

theorem eq_of_deleted {id : String} {outcome : Except PluginError Unit}
    (h : (deleted id outcome).ending = .ok c) : c = .removeInstance id := by
  cases outcome with
  | error e => cases h
  | ok response => exact (Except.ok.inj h).symm

end Course

section Ending

variable {r : Registry} {records : RecordSet} {responder : Responder} {operation : Operation}
  {c : Change}

theorem Operation.of_course (h : (operation.course r records responder).ending = .ok c) :
    ∃ answered, c.Of operation answered := by
  cases operation with
  | provision id details =>
    simp only [course] at h
    split at h
    · cases h
    · next request hrequest =>
      -- what is put is what the plugin has answered with
      obtain ⟨response, rfl⟩ := Course.exists_of_created (Course.ending_of_asking h)
      exact ⟨_, .provision hrequest response⟩
  | deprovision id details =>
    simp only [course] at h
    split at h
    · cases h
    · next volumeId _ =>
      obtain rfl := Course.eq_of_deleted (Course.ending_of_asking h)
      exact ⟨_, .deprovision id details volumeId ()⟩
  | bind instanceId bindingId details =>
    cases h
    exact ⟨none, .bind instanceId bindingId details none⟩
  | unbind instanceId bindingId details =>
    cases h
    exact ⟨none, .unbind instanceId bindingId details none⟩

theorem Waiting.Serves.of_course {w : Waiting} (hw : w.Serves operation)
    (h : (w.course r records responder).ending = .ok c) : ∃ answered, c.Of operation answered := by
  cases hw with
  | probe =>
    simp only [Waiting.course] at h
    split at h
    · cases h
    · exact operation.of_course h
  | creation hrequest =>
    obtain ⟨response, rfl⟩ := Course.exists_of_created h
    exact ⟨_, .provision hrequest response⟩
  | deletion id details volumeId =>
    obtain rfl := Course.eq_of_deleted h
    exact ⟨_, .deprovision id details volumeId ()⟩

theorem Broker.of_course {b : Broker} (h : (b.course responder operation).ending = .ok c) :
    ∃ answered, c.Of operation answered := by
  unfold course at h
  split at h
  · exact operation.of_course h
  · exact (Waiting.Serves.probe operation).of_course (Course.ending_of_asking h)

/-- A call leaves all instances alone but that which it names. -/
theorem Broker.instance_elsewhere (b : Broker) (responder : Responder) {id : String}
    (hid : operation.instanceId ≠ id) :
    ((b.course responder operation).records r records).instances.get? id
      = records.instances.get? id := by
  unfold Course.records
  cases hending : (b.course responder operation).ending with
  | error e => rfl
  | ok c =>
    obtain ⟨answered, hof⟩ := Broker.of_course hending
    exact hof.instance_elsewhere r records hid

/-- A call leaves all bindings alone but that which it names. -/
theorem Broker.binding_elsewhere (b : Broker) (responder : Responder) {id : String}
    (hid : operation.bindingId? ≠ some id) :
    ((b.course responder operation).records r records).bindings.get? id
      = records.bindings.get? id := by
  unfold Course.records
  cases hending : (b.course responder operation).ending with
  | error e => rfl
  | ok c =>
    obtain ⟨answered, hof⟩ := Broker.of_course hending
    exact hof.binding_elsewhere r records hid

end Ending

/-! ### Gates that do not matter -/

/-- A probe of a service that is registered orders nothing. -/
theorem Course.asking_registered {r : Registry} {serviceId address : String}
    (haddress : r.address serviceId = .ok address) (rest : Course) :
    asking r serviceId .probe rest = rest := by
  unfold asking
  rw [haddress]
  rfl

theorem Waiting.course_probe {responder : Responder} {response : ProbeResponse}
    (hprobe : responder .probe = .ok response) (r : Registry) (records : RecordSet)
    (operation : Operation) :
    (Waiting.probe operation).course r records responder = operation.course r records responder := by
  simp only [Waiting.course, hprobe]

namespace Broker

variable {b start : Broker} {operation : Operation} {responder : Responder}

/-- The course of a call is the same in two brokers with the same services if the records agree under
its ids, and if one gate has let its service through more than the other then a probe would as well. -/
theorem course_eq (hregistry : b.registry = start.registry)
    (hagree : start.store.records.Agree b.store.records operation)
    (hkept : start.gate.isPassed operation.serviceId = true →
      b.gate.isPassed operation.serviceId = true)
    (hnew : b.gate.isPassed operation.serviceId = true →
      start.gate.isPassed operation.serviceId = true ∨
        (∃ address, start.registry.address operation.serviceId = .ok address) ∧
          ∃ response, responder .probe = .ok response) :
    b.course responder operation = start.course responder operation := by
  have hcourse : operation.course b.registry b.store.records responder
      = operation.course start.registry start.store.records responder := by
    rw [hregistry, operation.course_agree hagree]
  have hwaiting := Waiting.course_agree (.probe operation) hagree start.registry responder
  unfold course
  by_cases hstart : start.gate.isPassed operation.serviceId = true
  · rw [if_pos hstart, if_pos (hkept hstart), hcourse]
  · by_cases hpassed : b.gate.isPassed operation.serviceId = true
    · -- behind the one gate, in front of the other
      obtain ⟨⟨address, haddress⟩, response, hprobe⟩ := (hnew hpassed).resolve_left hstart
      rw [if_neg hstart, if_pos hpassed, hcourse, Course.asking_registered haddress,
        Waiting.course_probe hprobe]
    · rw [if_neg hstart, if_neg hpassed, hregistry, hwaiting]

end Broker

end VolumeBroker
