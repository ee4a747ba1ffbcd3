import VolumeBroker.CommandLine.SocketAddress
import VolumeBroker.Dict
import VolumeBroker.Plugin.Volume
import VolumeBroker.Text.Split
/-!
# Commands

The program has three commands. Their settings are given by flags, `--name value` or `--name=value`,
or by environment variables; a flag beats its variable, a variable beats the setting's default, and a
setting without a default must be given.
-/

namespace VolumeBroker

/-- A command of the program. -/
inductive Command where
  /-- Serves the management interface. -/
  | serve (listenAddress dataDir specPath : String) (pluginTimeout : UInt64)
  /-- Checks a specification and shows its catalog. -/
  | catalog (specPath : String)
  /-- Lists the records in a data directory. -/
  | records (dataDir : String)
deriving DecidableEq, Repr

/-- A setting of a command. -/
structure Setting where
  /-- Its flag, without the leading hyphens. -/
  flag : String
  /-- Its environment variable. -/
  environmentName : String
  fallback : Option String
  /-- Whether a text is a value of the setting. -/
  admits : String → Bool

namespace Setting

/-- Whether a text is a path. -/
def isPath (text : String) : Bool := !text.isEmpty

/-- The address that the management interface listens on. -/
def listenAddress : Setting :=
  ⟨"listen-addr", "CSI_BROKER_LISTEN_ADDR", some "0.0.0.0:8999", SocketAddress.isValid⟩

/-- The directory that holds the record file. -/
def dataDir : Setting := ⟨"data-dir", "CSI_BROKER_DATA_DIR", none, isPath⟩

/-- The specification of the services. -/
def serviceSpec : Setting := ⟨"service-spec", "CSI_BROKER_SERVICE_SPEC", none, isPath⟩

/-- How many seconds a plugin may take to answer. -/
def pluginTimeout : Setting :=
  ⟨"plugin-timeout-secs", "CSI_BROKER_PLUGIN_TIMEOUT_SECS", some "30", fun text =>
    (byteCount? text).isSome⟩

/-- The value of a setting. -/
def value? (setting : Setting) (flags : Dict String) (environment : Dict String) : Option String :=
  (((flags.get? setting.flag).or (environment.get? setting.environmentName)).or setting.fallback).filter
    setting.admits

end Setting

namespace Command

/-- Puts the value of a flag, which must be known and not given before. -/
def putFlag? (known : List Setting) (flags : Dict String) (name value : String) :
    Option (Dict String) :=
  if known.any (·.flag == name) && !flags.contains name then some (flags.insert name value) else none

/-- Whether an argument may stand as a value behind its flag. -/
def isValue (argument : String) : Bool := argument == "-" || !argument.startsWith "-"

/-- Reads flags with their values; a lone `--` may end them. -/
def readFlags? (known : List Setting) (flags : Dict String) : List String → Option (Dict String)
  | [] => some flags
  | ["--"] => some flags
  | argument :: rest =>
    match argument.toList with
    | '-' :: '-' :: text =>
      match Split.cut '=' text with
      | (name, some value) => do
        let flags ← putFlag? known flags (String.ofList name) (String.ofList value)
        readFlags? known flags rest
      | (name, none) =>
        match rest with
        | value :: rest => do
          if isValue value then
            let flags ← putFlag? known flags (String.ofList name) value
            readFlags? known flags rest
          else none
        | [] => none
    | _ => none

/-- The command that arguments and environment variables ask for, if they ask for one. -/
def parse? (arguments : List String) (environment : Dict String) : Option Command :=
  match arguments with
  | "serve" :: rest => do
    let flags ← readFlags? [.listenAddress, .dataDir, .serviceSpec, .pluginTimeout] .empty rest
    let listenAddress ← Setting.listenAddress.value? flags environment
    let dataDir ← Setting.dataDir.value? flags environment
    let specPath ← Setting.serviceSpec.value? flags environment
    let pluginTimeout ← (Setting.pluginTimeout.value? flags environment).bind byteCount?
    some (.serve listenAddress dataDir specPath pluginTimeout)
  | "catalog" :: rest => do
    let flags ← readFlags? [.serviceSpec] .empty rest
    (Setting.serviceSpec.value? flags environment).map .catalog
  | "records" :: rest => do
    let flags ← readFlags? [.dataDir] .empty rest
    (Setting.dataDir.value? flags environment).map .records
  | _ => none

end Command

end VolumeBroker
