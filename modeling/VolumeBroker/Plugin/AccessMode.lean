import VolumeBroker.Codec.Record
/-!
# Access modes

How many nodes may use a volume, and how. A mode is written as its name and is also read from its
number, the position in `AccessMode.all`.
-/

namespace VolumeBroker

/-- The access modes of a volume. -/
inductive AccessMode where
  /-- No mode is named. -/
  | unknown
  | singleNodeWriter
  | singleNodeReaderOnly
  | multiNodeReaderOnly
  | multiNodeSingleWriter
  | multiNodeMultiWriter
deriving DecidableEq, Repr

namespace AccessMode

/-- All modes; a mode's number is its position here. -/
def all : List AccessMode :=
  [unknown, singleNodeWriter, singleNodeReaderOnly, multiNodeReaderOnly, multiNodeSingleWriter,
    multiNodeMultiWriter]

/-- The name of a mode. -/
def name : AccessMode → String
  | unknown => "UNKNOWN"
  | singleNodeWriter => "SINGLE_NODE_WRITER"
  | singleNodeReaderOnly => "SINGLE_NODE_READER_ONLY"
  | multiNodeReaderOnly => "MULTI_NODE_READER_ONLY"
  | multiNodeSingleWriter => "MULTI_NODE_SINGLE_WRITER"
  | multiNodeMultiWriter => "MULTI_NODE_MULTI_WRITER"

/-- The mode of a number. -/
def ofNumber? (n : Int) : Option AccessMode := if 0 ≤ n then all[n.toNat]? else none

/-- The mode of a name. -/
def ofName? (name : String) : Option AccessMode := all.find? fun mode => mode.name == name

@[simp] theorem ofName?_name (mode : AccessMode) : ofName? mode.name = some mode := by
  cases mode <;> decide

/-- Reads a mode by name or number. The whole document is read before the choice is made, and a
number beyond 63 bits is no number of a mode. -/
def read (source : Source) : Except Problem AccessMode :=
  match source.readFault with
  | some fault => .error (.fault fault)
  | none =>
    match source with
    | .number (.int n) =>
      if -(twoPow 63 : Int) ≤ n ∧ n < twoPow 63 then
        match ofNumber? n with
        | some mode => .ok mode
        | none => mismatched (.refused ("unknown access mode " ++ toString n))
      else mismatched (.noAlternative "Raw")
    | .str written =>
      match ofName? written with
      | some mode => .ok mode
      | none => mismatched (.refused ("unknown access mode " ++ quoted written))
    | _ => mismatched (.noAlternative "Raw")

/-- Modes as documents. -/
def codec : Codec AccessMode where
  read _ := read
  write mode := .str mode.name

end AccessMode

/-- The access mode that a capability asks for. -/
structure AccessModeSetting where
  mode : AccessMode
deriving DecidableEq, Repr

/-- How the access mode of a capability is written. -/
def AccessModeSetting.shape : Shape AccessModeSetting where
  title := "AccessMode"
  types := [AccessMode]
  fields := .cons (.defaulted "mode" AccessMode.codec .unknown) .nil
  strict := false
  build := fun (mode, ()) => ⟨mode⟩
  parts s := (s.mode, ())

end VolumeBroker
