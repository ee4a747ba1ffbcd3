import VolumeBroker.Broker.Operation
import VolumeBroker.Proofs.Json.Canonical
/-!
# The documents of answers

What a caller gets back, by the members of the documents. `Reply.document` says it for every reply to an
operation and `Updated.document` for an update; the answers are written as these documents
(`Provisioned.toJson_eq`, `Deprovisioned.toJson_eq`, `Updated.toJson_eq`, `Binding.toJson_eq`). Members
stand in the order of their keys, and what is absent has none.
-/

namespace VolumeBroker

/-- A dictionary is written with canonical values. -/
theorem Codec.toJson_dict (d : Dict Json) :
    Codec.json.dict.toJson d = .obj (d.map Json.canonical).entries := by
  change (Json.obj (d.entries.map id)).canonical = _
  rw [List.map_id]
  exact Json.canonical_obj_of_entries (congrArg Dict.entries (Dict.ofList_entries d))

/-! ### Provision and deprovision -/

/-- The document of the answer to a provision. -/
def Provisioned.document (answer : Provisioned) : Json :=
  .obj ((answer.dashboardUrl.map fun url => ("dashboard_url", .str url)).toList ++
    (answer.operation.map fun operation => ("operation", .str operation)).toList)

theorem Provisioned.toJson_eq (answer : Provisioned) :
    shape.codec.toJson answer = answer.document := by
  obtain ⟨isAsync, url, operation⟩ := answer
  cases url with
  | none => cases operation <;> rfl
  | some url =>
    cases operation with
    | none => rfl
    | some operation =>
      -- both members are written in the order of their keys already
      change (Json.obj [("dashboard_url", .str url), ("operation", .str operation)]).canonical = _
      rw [Json.canonical_obj_of_entries (Dict.entries_ofList_pair (by decide))]
      rfl

/-- The document of the answer to a deprovision. -/
def Deprovisioned.document (answer : Deprovisioned) : Json :=
  .obj [("operation", .str answer.operation)]

theorem Deprovisioned.toJson_eq (answer : Deprovisioned) :
    shape.codec.toJson answer = answer.document := rfl

/-! ### Update -/

/-- The document of the answer to an update. -/
def Updated.document (answer : Updated) : Json :=
  .obj (answer.operation.map fun operation => ("operation_data", .str operation)).toList

theorem Updated.toJson_eq (answer : Updated) : shape.codec.toJson answer = answer.document := by
  obtain ⟨isAsync, _ | operation⟩ := answer <;> rfl

/-! ### Bind -/

/-- The document of a device. -/
def SharedDevice.document (device : SharedDevice) : Json :=
  .obj [("mount_config", .obj (device.mountConfig.map Json.canonical).entries),
    ("volume_id", .str device.volumeId)]

theorem SharedDevice.toJson_eq (device : SharedDevice) :
    shape.codec.toJson device = device.document := by
  obtain ⟨volumeId, mountConfig⟩ := device
  calc shape.codec.toJson ⟨volumeId, mountConfig⟩
      = .obj [("mount_config", Codec.json.dict.toJson mountConfig), ("volume_id", .str volumeId)] :=
        Json.canonical_obj_of_entries (Dict.entries_ofList_swap (by decide))
    _ = document ⟨volumeId, mountConfig⟩ := by rw [Codec.toJson_dict]; rfl

/-- The document of a volume mount. -/
def VolumeMount.document (mount : VolumeMount) : Json :=
  .obj [("container_dir", .str mount.containerDir), ("device", mount.device.document),
    ("device_type", .str mount.deviceType), ("driver", .str mount.driver),
    ("mode", .str (match mount.mode with
      | .readOnly => "r"
      | .readWrite => "rw"))]

theorem VolumeMount.toJson_eq (mount : VolumeMount) : shape.codec.toJson mount = mount.document := by
  obtain ⟨driver, containerDir, mode, deviceType, device⟩ := mount
  have hordered : (Dict.ofList [("driver", .str driver), ("container_dir", .str containerDir),
      ("mode", MountMode.codec.write mode), ("device_type", .str deviceType),
      ("device", SharedDevice.shape.codec.write device)]).entries
      = [("container_dir", .str containerDir), ("device", SharedDevice.shape.codec.write device),
          ("device_type", .str deviceType), ("driver", .str driver),
          ("mode", MountMode.codec.write mode)] := by
    -- the fields are written in another order than that of their keys
    simp only [Dict.ofList, List.foldl_cons, List.foldl_nil, Dict.insert, Dict.empty,
      Dict.insertEntry, String.reduceLT, if_true, if_false]
  calc shape.codec.toJson ⟨driver, containerDir, mode, deviceType, device⟩
      = .obj [("container_dir", .str containerDir),
          ("device", SharedDevice.shape.codec.toJson device), ("device_type", .str deviceType),
          ("driver", .str driver), ("mode", .str mode.name)] := Json.canonical_obj_of_entries hordered
    _ = document ⟨driver, containerDir, mode, deviceType, device⟩ := by
        rw [SharedDevice.toJson_eq]; rfl

/-- The document of a binding. -/
def Binding.document (binding : Binding) : Json :=
  .obj (("credentials", .obj (binding.credentials.map Json.canonical).entries) ::
    if binding.volumeMounts.isEmpty then []
    else [("volume_mounts", .arr (binding.volumeMounts.map VolumeMount.document))])

theorem Binding.toJson_eq (binding : Binding) : shape.codec.toJson binding = binding.document := by
  obtain ⟨credentials, mounts⟩ := binding
  have hcredentials : (Codec.json.dict.write credentials).canonical
      = .obj (credentials.map Json.canonical).entries := Codec.toJson_dict credentials
  have hmounts : (VolumeMount.shape.codec.list.write mounts).canonical
      = .arr (mounts.map VolumeMount.document) := by
    change (Json.arr (mounts.map VolumeMount.shape.codec.write)).canonical = _
    rw [Json.canonical_arr, List.map_map]
    exact congrArg Json.arr (List.map_congr_left fun mount _ => mount.toJson_eq)
  cases mounts with
  | nil =>
    -- without mounts there is one member only
    change (Json.obj [("credentials", Codec.json.dict.write credentials)]).canonical = _
    rw [Json.canonical_obj_of_entries rfl]
    exact congrArg (fun value => Json.obj [("credentials", value)]) hcredentials
  | cons mount mounts =>
    change (Json.obj [("credentials", Codec.json.dict.write credentials),
      ("volume_mounts", VolumeMount.shape.codec.list.write (mount :: mounts))]).canonical = _
    rw [Json.canonical_obj_of_entries (Dict.entries_ofList_pair (by decide)), List.map_cons,
      List.map_singleton, hcredentials, hmounts]
    rfl

/-- The document of a reply. -/
def Reply.document : Reply → Json
  | .provisioned answer => answer.document
  | .deprovisioned answer => answer.document
  | .bound binding => binding.document
  | .unbound => .obj []

end VolumeBroker
