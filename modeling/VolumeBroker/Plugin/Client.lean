import VolumeBroker.Api.Status
import VolumeBroker.Json.Reader
import VolumeBroker.Plugin.Message
/-!
# Calls to a plugin

The broker makes three calls. Each is posted as one `PluginMessage` and answered by one; the call
succeeds exactly when the answer is the kind of message that belongs to it. The HTTP status of an
answer matters only for the text that reports an unreadable body.
-/

namespace VolumeBroker

/-- The calls that the broker makes to a plugin. -/
inductive PluginCall where
  /-- Is the plugin ready? -/
  | probe
  | createVolume (request : CreateVolumeRequest)
  | deleteVolume (request : DeleteVolumeRequest)

namespace PluginCall

/-- What a successful call gives. -/
def Response : PluginCall → Type
  | probe => ProbeResponse
  | createVolume _ => CreateVolumeResponse
  | deleteVolume _ => Unit

/-- The name of a call. -/
def name : PluginCall → String
  | probe => "probe"
  | createVolume _ => "create_volume"
  | deleteVolume _ => "delete_volume"

/-- The message that a call posts. -/
def message : PluginCall → PluginMessage
  | probe => .probe
  | createVolume request => .createVolume request
  | deleteVolume request => .deleteVolume request

/-- What a call makes of a message that answers it. -/
def accept (call : PluginCall) (answer : PluginMessage) : Except PluginError call.Response :=
  match call, answer with
  | probe, .probeResult response => .ok response
  | createVolume _, .volumeCreated response => .ok response
  | deleteVolume _, .ok => .ok ()
  | _, other => .error ⟨.unexpectedResponse, other.summary⟩

end PluginCall

/-- An answer over HTTP. -/
structure HttpReply where
  status : Nat
  body : Content
deriving DecidableEq, Repr

namespace HttpReply

/-- The message in the body of an answer. -/
def message? (reply : HttpReply) : Except Problem PluginMessage :=
  let document := Document.ofContent reply.body
  match PluginMessage.codec.read .text document.root with
  | .error problem => .error problem
  | .ok message => if document.trailing then .error (.fault .malformed) else .ok message

/-- The message that an answer gives; a reported failure and an unreadable body are failures. -/
def outcome (reply : HttpReply) : Except PluginError PluginMessage :=
  match reply.message? with
  | .error problem =>
    .error ⟨.transport,
      "undecodable reply (HTTP " ++ HttpStatus.render reply.status ++ "): " ++ problem.message⟩
  | .ok (.error e) => .error e
  | .ok message => .ok message

end HttpReply

/-- The message that comes back for a posted message; `none` is a plugin that cannot be reached. -/
def exchange (reply : Option HttpReply) : Except PluginError PluginMessage :=
  match reply with
  | none => .error ⟨.transport, "plugin not reachable"⟩
  | some reply => reply.outcome

/-- The outcome of a call whose message is answered by `reply`. -/
def PluginCall.outcome (call : PluginCall) (reply : Option HttpReply) :
    Except PluginError call.Response :=
  match exchange reply with
  | .error e => .error e
  | .ok answer => call.accept answer

/-! ### Posting -/

/-- A plugin behind HTTP, which may have a state: what comes back for a posted body, if anything. -/
abbrev Remote (σ : Type) : Type := String → σ → Option HttpReply × σ

/-- The body in which a message is posted. -/
def PluginMessage.body (m : PluginMessage) : String := (PluginMessage.codec.write m).compact

variable {σ : Type}

/-- Posts a message once, and gives the message that comes back. -/
def PluginMessage.post (m : PluginMessage) (remote : Remote σ) (state : σ) :
    Except PluginError PluginMessage × σ :=
  let (reply, state) := remote m.body state
  (exchange reply, state)

/-- Makes a call: posts its message, and takes what comes back for its result if it answers the call. -/
def PluginCall.over (call : PluginCall) (remote : Remote σ) (state : σ) :
    Except PluginError call.Response × σ :=
  let (answer, state) := call.message.post remote state
  (answer.bind call.accept, state)

end VolumeBroker
