import VolumeBroker.Broker.Operation
import VolumeBroker.Broker.Parameters
import VolumeBroker.Store.Basic
/-!
# Transactions

A transaction is the step in which an operation reads and changes the records; nothing else happens
to the records between its reading and its writing. It gives the store afterwards and the reply, or
an error, and then the store is as it was.
-/

namespace VolumeBroker

/-- A failed look-up of an instance as the broker reports it. -/
def BrokerError.ofInstanceLookup (id : String) (e : StoreError) : BrokerError :=
  if e.isNotFound then .instanceDoesNotExist id else .store "instance" e

/-- A failed look-up of a binding as the broker reports it. -/
def BrokerError.ofBindingLookup (id : String) (e : StoreError) : BrokerError :=
  if e.isNotFound then .bindingDoesNotExist id else .store "binding" e

/-- The record of an instance whose volume has been created. -/
def ProvisionDetails.toRecord (d : ProvisionDetails) (f : Fingerprint) : InstanceRecord :=
  ⟨d.serviceId, d.planId, d.organizationGuid, d.spaceGuid, .ofFingerprint f⟩

namespace Transaction

/-- The record of an instance. -/
def findInstance (s : Store) (id : String) : Except BrokerError InstanceRecord :=
  (s.retrieveInstance id).mapError (.ofInstanceLookup id)

/-- The record of a binding. -/
def findBinding (s : Store) (id : String) : Except BrokerError BindingRecord :=
  (s.retrieveBinding id).mapError (.ofBindingLookup id)

/-- The fingerprint in the record of an instance. -/
def fingerprintOf (id : String) (record : InstanceRecord) : Except BrokerError Fingerprint :=
  (Fingerprint.ofSlot record.fingerprint).mapError (.fingerprint id)

/-- Puts the record of an instance unless its id holds one that differs to the caller. -/
def provision (s : Store) (id : String) (record : InstanceRecord) :
    Except BrokerError (Store × Reply) :=
  if s.records.instanceConflicts id record then .error (.instanceAlreadyExists id)
  else do
    let s ← (s.createInstance id record).mapError (.store "create_instance")
    .ok (s, .provisioned .finished)

/-- Removes the record of an instance. -/
def deprovision (s : Store) (id : String) : Except BrokerError (Store × Reply) := do
  let s ← (s.deleteInstance id).mapError (.ofInstanceLookup id)
  .ok (s, .deprovisioned .finished)

/-- The type of every device that the broker hands out. -/
def sharedDeviceType : String := "shared"

/-- What the volume driver needs for the mount of a volume. -/
def mountConfig (volume : Volume) (owner : Option (Dict String)) : Dict Json :=
  Dict.ofList [("id", .str volume.volumeId), ("attributes", .ofStrings volume.volumeContext),
    ("binding-params", (owner.map Json.ofStrings).getD .null)]

/-- The binding that mounts the volume of an instance. -/
def bindingOf (driver containerDir instanceId : String) (mode : MountMode) (volume : Volume)
    (owner : Option (Dict String)) : Binding where
  credentials := .empty
  volumeMounts := [{
    driver, containerDir, mode
    deviceType := sharedDeviceType
    device := ⟨instanceId ++ "-volume", mountConfig volume owner⟩ }]

/-- Puts the record of a binding if everything about it is in order. -/
def bind (r : Registry) (s : Store) (instanceId bindingId : String) (details : BindDetails) :
    Except BrokerError (Store × Reply) := do
  let record ← findInstance s instanceId
  if details.application.isEmpty then .error .appGuidNotProvided
  else do
    let fingerprint ← fingerprintOf instanceId record
    let parameters ← Parameters.ofBind details.parameters
    let mode ← Parameters.mountMode parameters
    let containerDir ← Parameters.containerPath parameters instanceId
    let owner ← Parameters.owner parameters
    if s.records.bindingConflicts bindingId details.toRecord then
      .error (.bindingAlreadyExists bindingId)
    else do
      let driver ← (r.driverName details.serviceId).mapError .registry
      let s ← (s.createBinding bindingId details.toRecord).mapError (.store "create_binding")
      .ok (s, .bound (bindingOf driver containerDir instanceId mode fingerprint.volume owner))

/-- Removes the record of a binding if its instance is present as well. -/
def unbind (s : Store) (instanceId bindingId : String) : Except BrokerError (Store × Reply) := do
  let _ ← findInstance s instanceId
  let _ ← findBinding s bindingId
  let s ← (s.deleteBinding bindingId).mapError (.ofBindingLookup bindingId)
  .ok (s, .unbound)

end Transaction

end VolumeBroker
