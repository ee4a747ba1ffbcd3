import VolumeBroker.Broker.ProbeGate
import VolumeBroker.Broker.Transaction
import VolumeBroker.Plugin.Client
/-!
# The broker at work

A `Broker` serves operations that overlap. An operation runs in steps and waits for its plugin between
them: `Broker.begin` takes the first step, `Broker.resume` the step after an answer of the plugin. A
step ends with the call that the operation waits for, or with the operation's result, and nothing
happens between the beginning of a step and its end. The last step of an operation that reaches the
records is one transaction followed by one attempt to save; a result that is good but not saved
becomes an error, and the records stay changed.

Each service has to pass the probe gate before its plugin or the records are touched for it.
-/

namespace VolumeBroker

/-- A service broker. -/
structure Broker where
  registry : Registry
  /-- The services whose plugins have answered a probe. -/
  gate : ProbeGate
  store : Store

/-- What an operation waits for. -/
inductive Waiting where
  /-- The operation has to wait for the probe of its service. -/
  | probe (operation : Operation)
  /-- A provision waits for its volume. -/
  | creation (instanceId : String) (details : ProvisionDetails) (request : CreateVolumeRequest)
  /-- A deprovision waits until its volume is deleted. -/
  | deletion (instanceId : String) (details : DeprovisionDetails) (volumeId : String)

namespace Waiting

/-- The call whose answer is waited for. -/
def call : Waiting → PluginCall
  | probe _ => .probe
  | creation _ _ request => .createVolume request
  | deletion _ _ volumeId => .deleteVolume (.ofVolume volumeId)

/-- The service whose plugin is called. -/
def serviceId : Waiting → String
  | probe operation => operation.serviceId
  | creation _ details _ => details.serviceId
  | deletion _ details _ => details.serviceId

end Waiting

/-- Where an operation stands after a step. -/
inductive Progress where
  /-- It waits for the plugin at an address. -/
  | waiting (address : String) (waiting : Waiting)
  | finished (result : Except BrokerError Reply)

/-- What a step of an operation leaves behind. -/
structure Step where
  broker : Broker
  files : FileSystem
  /-- What came of the attempt to save, if there was one. -/
  saved : Option (Except StoreError Unit)
  /-- Where the operation stands. -/
  progress : Progress

namespace Broker

/-- A broker that starts on the records that a store restores. -/
def start (registry : Registry) (store : Store) (files : FileSystem) :
    Except BrokerError Broker := do
  let store ← (store.restore files).mapError (.store "restore")
  .ok ⟨registry, .empty, store⟩

/-! ### Requests that need no step -/

/-- The services on offer. -/
def services (b : Broker) : List Service := b.registry.services

/-- The state of the last operation on an instance: all operations end before they are answered. -/
def lastOperation (_instanceId : String) (_operation : Option String) : LastOperation := .finished

/-- Updates are not offered. -/
def update (_instanceId : String) (_details : UpdateDetails) : Except BrokerError Updated :=
  .error (.unsupported "update")

/-! ### The ends of a step -/

/-- Ends an operation without touching anything. -/
def refuse (b : Broker) (files : FileSystem) (e : BrokerError) : Step :=
  ⟨b, files, none, .finished (.error e)⟩

/-- Calls the plugin of the service, if the service is registered. -/
def await (b : Broker) (files : FileSystem) (waiting : Waiting) : Step :=
  match b.registry.address waiting.serviceId with
  | .error e => b.refuse files (.registry e)
  | .ok address => ⟨b, files, none, .waiting address waiting⟩

/-- The result of an operation whose transaction has been saved, or not. -/
def settle (result : Except BrokerError Reply) (saved : Except StoreError Unit) :
    Except BrokerError Reply :=
  match result, saved with
  | .ok _, .error e => .error (.store "save" e)
  | result, _ => result

/-- Ends an operation with the outcome of its transaction and an attempt to save, whatever the
outcome is. -/
def commit (b : Broker) (files : FileSystem) (outcome : Except BrokerError (Store × Reply)) : Step :=
  match outcome with
  | .ok (store, reply) =>
    let (files, saved) := store.save files
    ⟨{ b with store }, files, some saved, .finished (settle (.ok reply) saved)⟩
  | .error e =>
    -- a refused transaction has left the store alone, and it is saved all the same
    let (files, saved) := b.store.save files
    ⟨b, files, some saved, .finished (settle (.error e) saved)⟩

/-! ### Steps -/

/-- What a deprovision deletes, if all that it needs is there. -/
def deletionOf (b : Broker) (id : String) (details : DeprovisionDetails) :
    Except BrokerError Waiting :=
  if id.isEmpty then .error (.missingField "instance_id")
  else if details.planId.isEmpty then .error (.missingField "plan_id")
  else if details.serviceId.isEmpty then .error (.missingField "service_id")
  else do
    let record ← Transaction.findInstance b.store id
    let fingerprint ← Transaction.fingerprintOf id record
    .ok (.deletion id details fingerprint.volume.volumeId)

/-- Goes on with an operation whose service has passed the gate. -/
def proceed (b : Broker) (files : FileSystem) : Operation → Step
  | .provision id details =>
    match Parameters.volumeRequest details.parameters with
    | .error e => b.refuse files e
    | .ok request => b.await files (.creation id details request)
  | .deprovision id details =>
    match b.deletionOf id details with
    | .error e => b.refuse files e
    | .ok waiting => b.await files waiting
  | .bind instanceId bindingId details =>
    b.commit files (Transaction.bind b.registry b.store instanceId bindingId details)
  | .unbind instanceId bindingId _ =>
    b.commit files (Transaction.unbind b.store instanceId bindingId)

/-- Begins an operation: at the gate if its service has not passed it, else behind it. -/
def begin (b : Broker) (files : FileSystem) (operation : Operation) : Step :=
  if b.gate.isPassed operation.serviceId then b.proceed files operation
  else b.await files (.probe operation)

/-- Goes on after the answer of the plugin. A probe that is answered opens the gate, whether the
plugin says that it is ready or not. -/
def resume (b : Broker) (files : FileSystem) (waiting : Waiting)
    (answer : Except PluginError waiting.call.Response) : Step :=
  match waiting, answer with
  | .probe _, .error e => b.refuse files (.plugin "probe" e)
  | .probe operation, .ok _ =>
    { b with gate := b.gate.mark operation.serviceId }.proceed files operation
  | .creation _ _ _, .error e => b.refuse files (.plugin "create_volume" e)
  | .creation id details request, .ok response =>
    b.commit files
      (Transaction.provision b.store id (details.toRecord ⟨request.name, response.volume⟩))
  | .deletion _ _ _, .error e => b.refuse files (.plugin "delete_volume" e)
  | .deletion id _ _, .ok _ => b.commit files (Transaction.deprovision b.store id)

end Broker

end VolumeBroker
