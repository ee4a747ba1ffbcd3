import VolumeBroker.Codec.Variant
import VolumeBroker.Plugin.Volume
/-!
# The plugin protocol

A `PluginMessage` is the envelope in which requests and answers travel: an object with the kind of
message under `type` and its content under `body`, in either order, or an array of the two. A plugin
reports a failure as a `PluginError` in an envelope of its own.
-/

namespace VolumeBroker

/-! ### Errors -/

/-- Kinds of failure of a plugin call. -/
inductive PluginErrorKind where
  /-- The plugin refuses the arguments. -/
  | invalidArgument
  /-- There is no such volume. -/
  | notFound
  /-- There is such a volume already. -/
  | alreadyExists
  /-- The plugin cannot serve requests yet. -/
  | unavailable
  /-- The plugin could not be reached or understood. -/
  | transport
  /-- The plugin answered with a message of another kind. -/
  | unexpectedResponse
  /-- The plugin failed otherwise. -/
  | internal
deriving DecidableEq, Repr

namespace PluginErrorKind

/-- All kinds of failure. -/
def all : List PluginErrorKind :=
  [invalidArgument, notFound, alreadyExists, unavailable, transport, unexpectedResponse, internal]

/-- The name of a kind. -/
def name : PluginErrorKind → String
  | invalidArgument => "InvalidArgument"
  | notFound => "NotFound"
  | alreadyExists => "AlreadyExists"
  | unavailable => "Unavailable"
  | transport => "Transport"
  | unexpectedResponse => "UnexpectedResponse"
  | internal => "Internal"

/-- The kind of a name. -/
def ofName? (name : String) : Option PluginErrorKind := all.find? fun kind => kind.name == name

@[simp] theorem ofName?_name (kind : PluginErrorKind) : ofName? kind.name = some kind := by
  cases kind <;> decide

end PluginErrorKind

/-- A failure of a plugin call. -/
structure PluginError where
  /-- What kind of failure it is. -/
  kind : PluginErrorKind
  /-- The volume or the reason. -/
  detail : String
deriving DecidableEq, Repr

namespace PluginError

/-- The text of a failure. -/
def message (e : PluginError) : String :=
  match e.kind with
  | .invalidArgument => "invalid argument: " ++ e.detail
  | .notFound => "volume " ++ e.detail ++ " not found"
  | .alreadyExists => "volume " ++ e.detail ++ " already exists"
  | .unavailable => "plugin unavailable: " ++ e.detail
  | .transport => "transport error: " ++ e.detail
  | .unexpectedResponse => "unexpected plugin response: " ++ e.detail
  | .internal => "internal plugin error: " ++ e.detail

/-- Failures as documents: an object from the name of the kind to the detail. -/
def codec : Codec PluginError where
  read origin source :=
    readVariant (PluginErrorKind.all.map (·.name)) (fun name content => do
      let detail ← readContent Codec.string origin content
      match PluginErrorKind.ofName? name with
      | some kind => .ok ⟨kind, detail⟩
      | none => mismatched (.unknownVariant name (PluginErrorKind.all.map (·.name)))) origin source
  write e := .obj [(e.kind.name, .str e.detail)]

end PluginError

/-! ### Envelopes -/

/-- A message between the broker and a plugin. -/
inductive PluginMessage where
  /-- Asks whether the plugin is ready. -/
  | probe
  /-- Asks for a volume. -/
  | createVolume (request : CreateVolumeRequest)
  /-- Asks to delete a volume. -/
  | deleteVolume (request : DeleteVolumeRequest)
  /-- Answers a probe. -/
  | probeResult (response : ProbeResponse)
  /-- Answers a request for a volume. -/
  | volumeCreated (response : CreateVolumeResponse)
  /-- Confirms a deletion. -/
  | ok
  /-- Reports a failure. -/
  | error (error : PluginError)

/-- Kinds of messages. -/
inductive MessageKind where
  | probe
  | createVolume
  | deleteVolume
  | probeResult
  | volumeCreated
  | ok
  | error
deriving DecidableEq, Repr

namespace MessageKind

/-- All kinds of messages. -/
def all : List MessageKind :=
  [probe, createVolume, deleteVolume, probeResult, volumeCreated, ok, error]

/-- The name of a kind under `type`. -/
def name : MessageKind → String
  | probe => "probe"
  | createVolume => "create_volume"
  | deleteVolume => "delete_volume"
  | probeResult => "probe_result"
  | volumeCreated => "volume_created"
  | ok => "ok"
  | error => "error"

/-- The kinds of messages as documents. -/
def codec : Codec MessageKind := .names all name

/-- Reads the body of a message of a kind. -/
def readBody (kind : MessageKind) (origin : Origin) (body : Source) : Except Problem PluginMessage :=
  match kind with
  | .probe => nothing "Probe" .probe
  | .createVolume => (CreateVolumeRequest.shape.read origin body).map .createVolume
  | .deleteVolume => (DeleteVolumeRequest.shape.read origin body).map .deleteVolume
  | .probeResult => (ProbeResponse.shape.read origin body).map .probeResult
  | .volumeCreated => (CreateVolumeResponse.shape.read origin body).map .volumeCreated
  | .ok => nothing "Ok" .ok
  | .error => (PluginError.codec.read origin body).map .error
where
  /-- A body that must be `null`. -/
  nothing (variant : String) (message : PluginMessage) : Except Problem PluginMessage :=
    match body with
    | .null => .ok message
    | other => mistyped ("unit variant PluginMessage::" ++ variant) other

/-- The message of a kind without a body. -/
def withoutBody (kind : MessageKind) : Except Problem PluginMessage :=
  match kind with
  | .probe => .ok .probe
  | .ok => .ok .ok
  | _ => mismatched (.missingField "body")

end MessageKind

namespace PluginMessage

/-- What a reader of messages expects. -/
def expected : String := "adjacently tagged enum PluginMessage"

/-- The next member that is the kind or the body of a message, and the members behind it; all other
members are skipped. -/
def nextPart : List (Key × Source) → Except Problem (Option (String × Source) × List (Key × Source))
  | [] => .ok (none, [])
  | (.garbled fault, _) :: _ => .error (.fault fault)
  | (.text key, value) :: rest =>
    if key = "type" ∨ key = "body" then .ok (some (key, value), rest)
    else
      match value.skipFault with
      | some fault => .error (.fault fault)
      | none => nextPart rest

/-- Checks that the members behind a message give neither its kind nor its body again. -/
def noMoreParts (members : List (Key × Source)) (failure : Option Fault) : Except Problem Unit := do
  match ← nextPart members with
  | (some (key, _), _) => mismatched (.duplicateField key)
  | (none, _) => endOf failure

/-- Reads the members of a message. A body in front of the kind is set aside until it is known. -/
def readMembers (origin : Origin) (members : List (Key × Source)) (failure : Option Fault) :
    Except Problem PluginMessage := do
  match ← nextPart members with
  | (none, _) =>
    endOf failure
    mismatched (.missingField "type")
  | (some (firstKey, first), rest) =>
    if firstKey = "type" then
      let kind ← MessageKind.codec.read origin first
      match ← nextPart rest with
      | (none, _) =>
        endOf failure
        kind.withoutBody
      | (some (secondKey, second), rest) =>
        if secondKey = "type" then mismatched (.duplicateField "type")
        else
          let message ← kind.readBody origin second
          noMoreParts rest failure
          .ok message
    else
      match first.readFault with
      | some fault => .error (.fault fault)
      | none =>
        match ← nextPart rest with
        | (none, _) =>
          endOf failure
          mismatched (.missingField "type")
        | (some (secondKey, second), rest) =>
          if secondKey = "type" then
            let kind ← MessageKind.codec.read origin second
            let message ← kind.readBody .buffered first
            noMoreParts rest failure
            .ok message
          else mismatched (.duplicateField "body")

/-- Reads a message from an array of its kind and its body. -/
def readItems (origin : Origin) (items : List Source) (failure : Option Fault) :
    Except Problem PluginMessage :=
  match items with
  | [] => do
    endOf failure
    mismatched (.wrongLength 0 expected)
  | first :: items => do
    let kind ← MessageKind.codec.read origin first
    match items with
    | [] =>
      endOf failure
      mismatched (.wrongLength 1 expected)
    | second :: left =>
      let message ← kind.readBody origin second
      if left.isEmpty then
        endOf failure
        .ok message
      else
        match origin with
        | .value => mismatched (.wrongLength (left.length + 2) "fewer elements in array")
        | .text => .error (.fault .malformed)
        | .buffered => mismatched (.wrongLength (left.length + 2) "2 elements in sequence")

/-- The kind of a message. -/
def kind : PluginMessage → MessageKind
  | .probe => .probe
  | .createVolume _ => .createVolume
  | .deleteVolume _ => .deleteVolume
  | .probeResult _ => .probeResult
  | .volumeCreated _ => .volumeCreated
  | .ok => .ok
  | .error _ => .error

/-- The body of a message, if it has one. -/
def body? : PluginMessage → Option Json
  | .probe => none
  | .createVolume r => some (CreateVolumeRequest.shape.codec.write r)
  | .deleteVolume r => some (DeleteVolumeRequest.shape.codec.write r)
  | .probeResult r => some (ProbeResponse.shape.codec.write r)
  | .volumeCreated r => some (CreateVolumeResponse.shape.codec.write r)
  | .ok => none
  | .error e => some (PluginError.codec.write e)

/-- Messages as documents. -/
def codec : Codec PluginMessage where
  read origin := fun
    | .obj members failure => readMembers origin members failure
    | .arr items failure => readItems origin items failure
    | .keyless _ => .error (.fault .malformed)
    | other => mistyped expected other
  write m := .obj (("type", .str m.kind.name) :: m.body?.toList.map fun body => ("body", body))

/-- The text of the ready flag of a probe answer. -/
def readyText : Option Bool → String
  | none => "None"
  | some true => "Some(true)"
  | some false => "Some(false)"

/-- A short text that names a message. -/
def summary : PluginMessage → String
  | .probe => "Probe"
  | .createVolume r => "CreateVolume(name=" ++ r.name ++ ")"
  | .deleteVolume r => "DeleteVolume(" ++ r.volumeId ++ ")"
  | .probeResult r => "ProbeResult(ready=" ++ readyText r.ready ++ ")"
  | .volumeCreated r => "VolumeCreated(" ++ r.volume.volumeId ++ ")"
  | .ok => "Ok"
  | .error e => "Error(" ++ e.message ++ ")"

end PluginMessage

end VolumeBroker
