import VolumeBroker.Broker.MountMode
import VolumeBroker.Records.Basic
/-!
# Requests to the broker and its answers

The bodies of the operations of the Open Service Broker interface: what a caller hands in with each
operation, and what it gets back.
-/

namespace VolumeBroker

/-! ### Provision and deprovision -/

/-- What a caller hands in to provision an instance. -/
structure ProvisionDetails where
  serviceId : String
  planId : String
  organizationGuid : String
  spaceGuid : String
  /-- The request for a volume, not yet decoded. -/
  parameters : Option Json

/-- How provision details are written. -/
def ProvisionDetails.shape : Shape ProvisionDetails where
  title := "ProvisionDetails"
  types := [String, String, String, String, Option Json]
  fields :=
    .cons (.required "service_id" .string) <|
    .cons (.required "plan_id" .string) <|
    .cons (.defaulted "organization_guid" .string "") <|
    .cons (.defaulted "space_guid" .string "") <|
    .cons (.optional "parameters" .json) .nil
  strict := false
  build := fun (serviceId, planId, organizationGuid, spaceGuid, parameters, ()) =>
    ⟨serviceId, planId, organizationGuid, spaceGuid, parameters⟩
  parts d := (d.serviceId, d.planId, d.organizationGuid, d.spaceGuid, d.parameters, ())

/-- The answer to a provision. -/
structure Provisioned where
  /-- Whether the operation goes on after the answer; it is not written. -/
  isAsync : Bool
  /-- Where the instance can be managed. -/
  dashboardUrl : Option String
  /-- What to ask about an operation that goes on. -/
  operation : Option String
deriving DecidableEq, Repr

namespace Provisioned

/-- How the answer to a provision is written. -/
def shape : Shape Provisioned where
  title := "ProvisionedServiceSpec"
  types := [Option String, Option String]
  fields := .cons (.optional "dashboard_url" .string) <| .cons (.optional "operation" .string) .nil
  strict := false
  build := fun (dashboardUrl, operation, ()) => ⟨false, dashboardUrl, operation⟩
  parts p := (p.dashboardUrl, p.operation, ())

/-- The answer of a finished provision. -/
def finished : Provisioned := ⟨false, none, none⟩

end Provisioned

/-- What a caller hands in to deprovision an instance. -/
structure DeprovisionDetails where
  serviceId : String
  planId : String
deriving DecidableEq, Repr

/-- How deprovision details are written. -/
def DeprovisionDetails.shape : Shape DeprovisionDetails where
  title := "DeprovisionDetails"
  types := [String, String]
  fields := .cons (.defaulted "service_id" .string "") <| .cons (.defaulted "plan_id" .string "") .nil
  strict := false
  build := fun (serviceId, planId, ()) => ⟨serviceId, planId⟩
  parts d := (d.serviceId, d.planId, ())

/-- The answer to a deprovision. -/
structure Deprovisioned where
  /-- Whether the operation goes on after the answer; it is not written. -/
  isAsync : Bool
  operation : String
deriving DecidableEq, Repr

namespace Deprovisioned

/-- How the answer to a deprovision is written. -/
def shape : Shape Deprovisioned where
  title := "DeprovisionServiceSpec"
  types := [String]
  fields := .cons (.required "operation" .string) .nil
  strict := false
  build := fun (operation, ()) => ⟨false, operation⟩
  parts d := (d.operation, ())

/-- The answer of a finished deprovision. -/
def finished : Deprovisioned := ⟨false, "deprovision"⟩

end Deprovisioned

/-! ### Bind and unbind -/

/-- What a caller hands in to bind an instance. -/
structure BindDetails where
  serviceId : String
  planId : String
  appGuid : String
  /-- What the binding is made for. -/
  bindResource : Option BindResource
  parameters : Option Json

namespace BindDetails

/-- How bind details are written. -/
def shape : Shape BindDetails where
  title := "BindDetails"
  types := [String, String, String, Option BindResource, Option Json]
  fields :=
    .cons (.required "service_id" .string) <|
    .cons (.defaulted "plan_id" .string "") <|
    .cons (.defaulted "app_guid" .string "") <|
    .cons (.optional "bind_resource" BindResource.shape.codec) <|
    .cons (.optional "parameters" .json) .nil
  strict := false
  build := fun (serviceId, planId, appGuid, bindResource, parameters, ()) =>
    ⟨serviceId, planId, appGuid, bindResource, parameters⟩
  parts d := (d.serviceId, d.planId, d.appGuid, d.bindResource, d.parameters, ())

/-- The application that the binding is for: the one named directly, else that of the resource. -/
def application (d : BindDetails) : String :=
  if d.appGuid.isEmpty then (d.bindResource.bind (·.appGuid)).getD "" else d.appGuid

/-- The record of a binding. -/
def toRecord (d : BindDetails) : BindingRecord :=
  ⟨d.serviceId, d.planId, d.appGuid, d.bindResource, d.parameters⟩

end BindDetails

/-- A device that several applications may mount. -/
structure SharedDevice where
  /-- The name of the volume on its host. -/
  volumeId : String
  /-- What the volume driver needs for the mount. -/
  mountConfig : Dict Json

/-- How a shared device is written. -/
def SharedDevice.shape : Shape SharedDevice where
  title := "SharedDevice"
  types := [String, Dict Json]
  fields :=
    .cons (.required "volume_id" .string) <| .cons (.required "mount_config" Codec.json.dict) .nil
  strict := false
  build := fun (volumeId, mountConfig, ()) => ⟨volumeId, mountConfig⟩
  parts d := (d.volumeId, d.mountConfig, ())

/-- A volume to be mounted for an application. -/
structure VolumeMount where
  /-- The driver that mounts it. -/
  driver : String
  /-- Where it is mounted. -/
  containerDir : String
  /-- How it is mounted. -/
  mode : MountMode
  deviceType : String
  device : SharedDevice

/-- How a volume mount is written. -/
def VolumeMount.shape : Shape VolumeMount where
  title := "VolumeMount"
  types := [String, String, MountMode, String, SharedDevice]
  fields :=
    .cons (.required "driver" .string) <|
    .cons (.required "container_dir" .string) <|
    .cons (.required "mode" MountMode.codec) <|
    .cons (.required "device_type" .string) <|
    .cons (.required "device" SharedDevice.shape.codec) .nil
  strict := false
  build := fun (driver, containerDir, mode, deviceType, device, ()) =>
    ⟨driver, containerDir, mode, deviceType, device⟩
  parts m := (m.driver, m.containerDir, m.mode, m.deviceType, m.device, ())

/-- The answer to a bind. -/
structure Binding where
  /-- Credentials; this broker gives none. -/
  credentials : Dict Json
  volumeMounts : List VolumeMount

/-- How the answer to a bind is written. -/
def Binding.shape : Shape Binding where
  title := "Binding"
  types := [Dict Json, List VolumeMount]
  fields :=
    .cons (.required "credentials" Codec.json.dict) <|
    .cons ((Field.defaulted "volume_mounts" VolumeMount.shape.codec.list []).omittedIf
      List.isEmpty) .nil
  strict := false
  build := fun (credentials, volumeMounts, ()) => ⟨credentials, volumeMounts⟩
  parts b := (b.credentials, b.volumeMounts, ())

/-- What a caller hands in to unbind an instance. -/
structure UnbindDetails where
  serviceId : String
  planId : String
deriving DecidableEq, Repr

/-- How unbind details are written. -/
def UnbindDetails.shape : Shape UnbindDetails where
  title := "UnbindDetails"
  types := [String, String]
  fields := .cons (.defaulted "service_id" .string "") <| .cons (.defaulted "plan_id" .string "") .nil
  strict := false
  build := fun (serviceId, planId, ()) => ⟨serviceId, planId⟩
  parts d := (d.serviceId, d.planId, ())

/-! ### Update and last operation -/

/-- What a caller hands in to update an instance. -/
structure UpdateDetails where
  serviceId : String
  planId : Option String
  parameters : Option Json
  /-- What the platform knows of the instance. -/
  previousValues : Option Json

/-- How update details are written. -/
def UpdateDetails.shape : Shape UpdateDetails where
  title := "UpdateDetails"
  types := [String, Option String, Option Json, Option Json]
  fields :=
    .cons (.required "service_id" .string) <|
    .cons (.optional "plan_id" .string) <|
    .cons (.optional "parameters" .json) <|
    .cons (.optional "previous_values" .json) .nil
  strict := false
  build := fun (serviceId, planId, parameters, previousValues, ()) =>
    ⟨serviceId, planId, parameters, previousValues⟩
  parts d := (d.serviceId, d.planId, d.parameters, d.previousValues, ())

/-- The answer to an update. -/
structure Updated where
  /-- Whether the operation goes on after the answer; it is not written. -/
  isAsync : Bool
  /-- What to ask about an operation that goes on. -/
  operation : Option String
deriving DecidableEq, Repr

/-- How the answer to an update is written. -/
def Updated.shape : Shape Updated where
  title := "UpdateServiceSpec"
  types := [Option String]
  fields := .cons (.optional "operation_data" .string) .nil
  strict := false
  build := fun (operation, ()) => ⟨false, operation⟩
  parts u := (u.operation, ())

/-- The state of an operation. -/
inductive OperationState where
  | inProgress
  | succeeded
  | failed
deriving DecidableEq, Repr

namespace OperationState

/-- The name of a state. -/
def name : OperationState → String
  | inProgress => "in progress"
  | succeeded => "succeeded"
  | failed => "failed"

/-- States as documents. -/
def codec : Codec OperationState := .names [inProgress, succeeded, failed] name

end OperationState

/-- How the last operation on an instance went. -/
structure LastOperation where
  state : OperationState
  description : String
deriving DecidableEq, Repr

namespace LastOperation

/-- How an operation's state is written. -/
def shape : Shape LastOperation where
  title := "LastOperation"
  types := [OperationState, String]
  fields :=
    .cons (.required "state" OperationState.codec) <|
    .cons ((Field.defaulted "description" .string "").omittedIf String.isEmpty) .nil
  strict := false
  build := fun (state, description, ()) => ⟨state, description⟩
  parts o := (o.state, o.description, ())

/-- The state of operations that end before they are answered. -/
def finished : LastOperation := ⟨.succeeded, ""⟩

end LastOperation

end VolumeBroker
