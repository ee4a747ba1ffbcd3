import VolumeBroker.Codec.Variant
/-!
# Mount modes

Whether an application may write to the volume that is mounted for it.
-/

namespace VolumeBroker

/-- How a volume is mounted. -/
inductive MountMode where
  | readOnly
  | readWrite
deriving DecidableEq, Repr

namespace MountMode

/-- The name of a mode. -/
def name : MountMode → String
  | readOnly => "r"
  | readWrite => "rw"

/-- The mode of a flag that asks for reading only. -/
def ofReadOnly (flag : Bool) : MountMode := if flag then readOnly else readWrite

/-- Modes as documents. -/
def codec : Codec MountMode := .names [readOnly, readWrite] name

end MountMode

end VolumeBroker
