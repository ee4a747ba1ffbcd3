import VolumeBroker.Plugin.AccessMode
/-!
# Volumes, and requests for them

What is asked of a volume plugin and what it answers. Field names are written in snake case; the
lower camel case spelling is read as well. Byte counts of a request may also be decimal strings.
-/

namespace VolumeBroker

/-! ### Byte counts -/

/-- The number that a string of decimal digits stands for. -/
def decimalValue? (digits : List Char) : Option Nat :=
  digits.foldl (fun value c => value.bind fun n =>
    if '0' ≤ c ∧ c ≤ '9' then some (n * 10 + (c.toNat - '0'.toNat)) else none) (some 0)

/-- The byte count of a string: an optional plus sign and decimal digits, below `2 ^ 64`. -/
def byteCount? (text : String) : Option UInt64 := do
  let digits := match text.toList with
    | '+' :: digits => digits
    | digits => digits
  if digits.isEmpty then none
  let n ← decimalValue? digits
  if n < twoPow 64 then some (UInt64.ofNat n) else none

/-- Reads a byte count from a number or a string. -/
def readByteCount (source : Source) : Except Problem UInt64 :=
  match source.readFault with
  | some fault => .error (.fault fault)
  | none =>
    match source with
    | .number (.int n) =>
      if 0 ≤ n ∧ n < twoPow 64 then .ok (UInt64.ofNat n.toNat) else mismatched (.noAlternative "Raw")
    | .str text =>
      match byteCount? text with
      | some n => .ok n
      | none => mismatched (.refused ("invalid byte count " ++ quoted text))
    | _ => mismatched (.noAlternative "Raw")

/-- Byte counts as documents. -/
def byteCountCodec : Codec UInt64 where
  read _ := readByteCount
  write n := .nat n.toNat

/-! ### Capabilities -/

/-- Access through a file system. -/
structure MountVolume where
  fsType : String
  mountFlags : List String
deriving DecidableEq, Repr

/-- How file-system access is written. -/
def MountVolume.shape : Shape MountVolume where
  title := "MountVolume"
  types := [String, List String]
  fields :=
    .cons (((Field.defaulted "fs_type" Codec.string "").spelled ["fsType", "fs_type"]).omittedIf
      String.isEmpty) <|
    .cons (((Field.defaulted "mount_flags" Codec.string.list []).spelled
      ["mountFlags", "mount_flags"]).omittedIf List.isEmpty) .nil
  strict := false
  build := fun (fsType, mountFlags, ()) => ⟨fsType, mountFlags⟩
  parts m := (m.fsType, m.mountFlags, ())

/-- Access to the raw blocks. -/
structure BlockVolume where
deriving DecidableEq, Repr

/-- How block access is written. -/
def BlockVolume.shape : Shape BlockVolume where
  title := "BlockVolume"
  types := []
  fields := .nil
  strict := false
  build := fun () => ⟨⟩
  parts _ := ()

/-- What a volume must be capable of. -/
structure VolumeCapability where
  /-- Access through a file system. -/
  mount : Option MountVolume
  /-- Access to the raw blocks. -/
  block : Option BlockVolume
  accessMode : Option AccessModeSetting
deriving DecidableEq, Repr

namespace VolumeCapability

/-- How a capability is written. -/
def shape : Shape VolumeCapability where
  title := "VolumeCapability"
  types := [Option MountVolume, Option BlockVolume, Option AccessModeSetting]
  fields :=
    .cons (.optional "mount" MountVolume.shape.codec) <|
    .cons (.optional "block" BlockVolume.shape.codec) <|
    .cons ((Field.optional "access_mode" AccessModeSetting.shape.codec).spelled
      ["accessMode", "access_mode"]) .nil
  strict := false
  build := fun (mount, block, accessMode, ()) => ⟨mount, block, accessMode⟩
  parts c := (c.mount, c.block, c.accessMode, ())

/-- Access through a file system in a mode. -/
def mounted (mode : AccessMode) : VolumeCapability := ⟨some ⟨"", []⟩, none, some ⟨mode⟩⟩

end VolumeCapability

/-- The wanted size of a volume. -/
structure CapacityRange where
  requiredBytes : UInt64
  limitBytes : UInt64
deriving DecidableEq, Repr

/-- How a wanted size is written. -/
def CapacityRange.shape : Shape CapacityRange where
  title := "CapacityRange"
  types := [UInt64, UInt64]
  fields :=
    .cons ((Field.defaulted "required_bytes" byteCountCodec 0).spelled
      ["requiredBytes", "required_bytes"]) <|
    .cons ((Field.defaulted "limit_bytes" byteCountCodec 0).spelled ["limitBytes", "limit_bytes"]) .nil
  strict := false
  build := fun (requiredBytes, limitBytes, ()) => ⟨requiredBytes, limitBytes⟩
  parts r := (r.requiredBytes, r.limitBytes, ())

/-! ### Requests and responses -/

/-- A request to create a volume. -/
structure CreateVolumeRequest where
  name : String
  capacityRange : Option CapacityRange
  /-- What the volume must be capable of. -/
  volumeCapabilities : List VolumeCapability
  /-- Settings for the plugin. -/
  parameters : Dict String
  /-- Secret settings for the plugin. -/
  secrets : Dict String

/-- How a request to create a volume is written; a key that names no field is refused. -/
def CreateVolumeRequest.shape : Shape CreateVolumeRequest where
  title := "CreateVolumeRequest"
  types := [String, Option CapacityRange, List VolumeCapability, Dict String, Dict String]
  fields :=
    .cons (.defaulted "name" .string "") <|
    .cons ((Field.optional "capacity_range" CapacityRange.shape.codec).spelled
      ["capacityRange", "capacity_range"]) <|
    .cons ((Field.defaulted "volume_capabilities" VolumeCapability.shape.codec.list []).spelled
      ["volumeCapabilities", "volume_capabilities"]) <|
    .cons ((Field.defaulted "parameters" Codec.string.dict .empty).omittedIf Dict.isEmpty) <|
    .cons ((Field.defaulted "secrets" Codec.string.dict .empty).omittedIf Dict.isEmpty) .nil
  strict := true
  build := fun (name, capacityRange, volumeCapabilities, parameters, secrets, ()) =>
    ⟨name, capacityRange, volumeCapabilities, parameters, secrets⟩
  parts r := (r.name, r.capacityRange, r.volumeCapabilities, r.parameters, r.secrets, ())

/-- A volume as its plugin describes it. -/
structure Volume where
  /-- The identity that the plugin gave the volume. -/
  volumeId : String
  capacityBytes : UInt64
  /-- Attributes that the plugin wants back when the volume is mounted. -/
  volumeContext : Dict String

/-- How a volume is written. -/
def Volume.shape : Shape Volume where
  title := "Volume"
  types := [String, UInt64, Dict String]
  fields :=
    .cons ((Field.required "volume_id" .string).spelled ["volumeId", "volume_id"]) <|
    .cons ((Field.defaulted "capacity_bytes" .uint64 0).spelled ["capacityBytes", "capacity_bytes"]) <|
    .cons ((Field.defaulted "volume_context" Codec.string.dict .empty).spelled
      ["attributes", "volumeContext", "volume_context"]) .nil
  strict := false
  build := fun (volumeId, capacityBytes, volumeContext, ()) => ⟨volumeId, capacityBytes, volumeContext⟩
  parts v := (v.volumeId, v.capacityBytes, v.volumeContext, ())

/-- The answer to a request to create a volume. -/
structure CreateVolumeResponse where
  volume : Volume

/-- How the answer to a request to create a volume is written. -/
def CreateVolumeResponse.shape : Shape CreateVolumeResponse where
  title := "CreateVolumeResponse"
  types := [Volume]
  fields := .cons (.required "volume" Volume.shape.codec) .nil
  strict := false
  build := fun (volume, ()) => ⟨volume⟩
  parts r := (r.volume, ())

/-- A request to delete a volume. -/
structure DeleteVolumeRequest where
  volumeId : String
  /-- Secret settings for the plugin. -/
  secrets : Dict String

namespace DeleteVolumeRequest

/-- How a request to delete a volume is written. -/
def shape : Shape DeleteVolumeRequest where
  title := "DeleteVolumeRequest"
  types := [String, Dict String]
  fields :=
    .cons ((Field.required "volume_id" .string).spelled ["volumeId", "volume_id"]) <|
    .cons (.defaulted "secrets" Codec.string.dict .empty) .nil
  strict := false
  build := fun (volumeId, secrets, ()) => ⟨volumeId, secrets⟩
  parts r := (r.volumeId, r.secrets, ())

/-- The request to delete a volume without secrets. -/
def ofVolume (volumeId : String) : DeleteVolumeRequest := ⟨volumeId, .empty⟩

end DeleteVolumeRequest

/-- The answer to a probe. -/
structure ProbeResponse where
  /-- Whether the plugin says that it is ready; it need not say. -/
  ready : Option Bool
deriving DecidableEq, Repr

/-- How the answer to a probe is written. -/
def ProbeResponse.shape : Shape ProbeResponse where
  title := "ProbeResponse"
  types := [Option Bool]
  fields := .cons (.defaulted "ready" Codec.bool.option none) .nil
  strict := false
  build := fun (ready, ()) => ⟨ready⟩
  parts r := (r.ready, ())

end VolumeBroker
