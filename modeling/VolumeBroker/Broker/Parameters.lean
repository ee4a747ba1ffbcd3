import VolumeBroker.Broker.ContainerPath
import VolumeBroker.Broker.Error
import VolumeBroker.Broker.MountMode
/-!
# Parameters

What the broker takes from the parameters of a caller: the request for a volume from those of a
provision, and from those of a bind the mount mode, the container path, and the user and group.
-/

namespace VolumeBroker

namespace Parameters

/-- A parameter of the wrong kind. -/
def wrongKind (name kind : String) (value : Json) : BrokerError :=
  .invalidParameters ("\"" ++ name ++ "\" must be " ++ kind ++ ", got " ++ value.compact)

/-- The parameters of a bind; absent and `null` are none. -/
def ofBind : Option Json → Except BrokerError (Dict Json)
  | none => .ok .empty
  | some .null => .ok .empty
  | some (.obj members) => .ok (Dict.ofList members)
  | some other =>
    .error (.invalidParameters ("parameters must be a JSON object, got " ++ other.compact))

/-- The mount mode: `readonly` must be a truth value if it is given. -/
def mountMode (parameters : Dict Json) : Except BrokerError MountMode :=
  match parameters.get? "readonly" with
  | none => .ok .readWrite
  | some (.bool flag) => .ok (.ofReadOnly flag)
  | some other => .error (wrongKind "readonly" "a boolean" other)

/-- The container path: `mount` unless it is absent or empty. -/
def containerPath (parameters : Dict Json) (instanceId : String) : Except BrokerError String :=
  match parameters.get? "mount" with
  | none => .ok (ContainerPath.ofInstance instanceId)
  | some (.str path) =>
    .ok (if path.isEmpty then ContainerPath.ofInstance instanceId else path)
  | some other => .error (wrongKind "mount" "a string" other)

/-- A user or group, which must be a string. -/
def ownerText (name : String) : Json → Except BrokerError String
  | .str text => .ok text
  | other => .error (wrongKind name "a string" other)

/-- The user and group, given together or not at all. -/
def owner (parameters : Dict Json) : Except BrokerError (Option (Dict String)) :=
  match parameters.get? "uid", parameters.get? "gid" with
  | some uid, some gid => do
    let uid ← ownerText "uid" uid
    let gid ← ownerText "gid" gid
    .ok (some (Dict.ofList [("uid", uid), ("gid", gid)]))
  | _, _ => .ok none

/-- The request for a volume. -/
def volumeRequest : Option Json → Except BrokerError CreateVolumeRequest
  | none => .error (.invalidParameters "no parameters supplied")
  | some raw =>
    match CreateVolumeRequest.shape.codec.ofJson raw with
    | .error problem => .error (.invalidParameters problem.message)
    | .ok request =>
      if request.name.isEmpty then .error (.invalidParameters "volume name is required")
      else if request.volumeCapabilities.isEmpty then
        .error (.invalidParameters "at least one volume capability is required")
      else .ok request

end Parameters

end VolumeBroker
