import VolumeBroker.Json.Printer
import VolumeBroker.Json.Source
import VolumeBroker.Text.Quoted
/-!
# Reading and writing typed values

A `Codec α` reads values of a type from documents and writes them as JSON. A reader goes through a
document in written order and reports the first `Problem` it meets: either the text fails there, or
the document has the wrong shape there. How some shapes are reported depends on the `Origin` of the
document.
-/

namespace VolumeBroker

/-- Where a document comes from. -/
inductive Origin where
  /-- From a JSON value in memory. -/
  | value
  /-- From JSON text, read as it comes in. -/
  | text
  /-- From a part of a document that was set aside until its type was known. -/
  | buffered
deriving DecidableEq, Repr

/-- What a reader found, as its messages name it. -/
inductive Found where
  | null
  | bool (value : Bool)
  | number (value : Number)
  | str (value : String)
  | sequence
  | map
  /-- The bare name of a variant. -/
  | bareName
deriving DecidableEq

/-- How a document has the wrong shape. -/
inductive Mismatch where
  /-- A value of the wrong kind. -/
  | wrongType (found : Found) (expected : String)
  /-- A value of the right kind that is not admitted. -/
  | wrongValue (found : Found) (expected : String)
  /-- An array of the wrong length. -/
  | wrongLength (length : Nat) (expected : String)
  /-- A name that is none of the known variants. -/
  | unknownVariant (name : String) (known : List String)
  /-- A key that is none of the known fields. -/
  | unknownField (name : String) (known : List String)
  /-- A required field that is absent. -/
  | missingField (name : String)
  /-- A field that is given twice. -/
  | duplicateField (name : String)
  /-- A value that fits none of the alternatives of a choice. -/
  | noAlternative (choice : String)
  /-- A value that its own type refuses. -/
  | refused (reason : String)
deriving DecidableEq

/-- Why a document could not be read. -/
inductive Problem where
  /-- The text fails. -/
  | fault (fault : Fault)
  /-- The shape is wrong. -/
  | mismatch (mismatch : Mismatch)
deriving DecidableEq

/-! ### Messages -/

/-- A value as messages name it. -/
def Found.describe : Found → String
  | .null => "null"
  | .bool true => "boolean `true`"
  | .bool false => "boolean `false`"
  | .number (.int value) => "integer `" ++ toString value ++ "`"
  | .number (.real value) => "floating point `" ++ value.render ++ "`"
  | .str value => "string " ++ quoted value
  | .sequence => "sequence"
  | .map => "map"
  | .bareName => "unit variant"

/-- A name between backquotes. -/
def backquoted (name : String) : String := "`" ++ name ++ "`"

/-- Known names, as messages list them. -/
def expectedNames : List String → String
  | [] => "there are no names"
  | [name] => "expected " ++ backquoted name
  | [first, second] => "expected " ++ backquoted first ++ " or " ++ backquoted second
  | names => "expected one of " ++ String.intercalate ", " (names.map backquoted)

/-- The text of a mismatch. -/
def Mismatch.message : Mismatch → String
  | .wrongType found expected => "invalid type: " ++ found.describe ++ ", expected " ++ expected
  | .wrongValue found expected => "invalid value: " ++ found.describe ++ ", expected " ++ expected
  | .wrongLength length expected => "invalid length " ++ toString length ++ ", expected " ++ expected
  | .unknownVariant name known =>
    "unknown variant " ++ backquoted name ++ ", " ++ expectedNames known
  | .unknownField name known => "unknown field " ++ backquoted name ++ ", " ++ expectedNames known
  | .missingField name => "missing field " ++ backquoted name
  | .duplicateField name => "duplicate field " ++ backquoted name
  | .noAlternative choice => "data did not match any variant of untagged enum " ++ choice
  | .refused reason => reason

/-- The text of a problem; the text of a fault is left to whoever knows its place. -/
def Problem.message : Problem → String
  | .fault .malformed => "malformed text"
  | .fault .truncated => "text ended early"
  | .mismatch m => m.message

/-- A mismatch as the outcome of reading. -/
def mismatched {α : Type} (m : Mismatch) : Except Problem α := .error (.mismatch m)

/-- The outcome of reading a document of the wrong kind: its own failure, if it is one. -/
def mistyped {α : Type} (expected : String) : Source → Except Problem α
  | .null => mismatched (.wrongType .null expected)
  | .bool b => mismatched (.wrongType (.bool b) expected)
  | .number n => mismatched (.wrongType (.number n) expected)
  | .str s => mismatched (.wrongType (.str s) expected)
  | .arr _ _ => mismatched (.wrongType .sequence expected)
  | .obj _ _ => mismatched (.wrongType .map expected)
  | .keyless _ => mismatched (.wrongType .map expected)
  | .broken onRead _ => .error (.fault onRead)

/-- A failure behind the entries of a container, if there is one, as the outcome of reading. -/
def endOf (failure : Option Fault) : Except Problem Unit :=
  match failure with
  | none => .ok ()
  | some fault => .error (.fault fault)

/-! ### Codecs -/

/-- How values of a type are read from documents and written as JSON. -/
structure Codec (α : Type) where
  read : Origin → Source → Except Problem α
  /-- Writes a value, the members of objects in declared order. -/
  write : α → Json

namespace Codec

variable {α : Type}

/-- Reads a JSON value. -/
def ofJson (c : Codec α) (value : Json) : Except Problem α :=
  c.read .value (.ofJson value.canonical)

/-- The canonical JSON value of a value. -/
def toJson (c : Codec α) (a : α) : Json := (c.write a).canonical

/-- Strings. -/
def string : Codec String where
  read _ := fun
    | .str s => .ok s
    | other => mistyped "a string" other
  write := .str

/-- Truth values. -/
def bool : Codec Bool where
  read _ := fun
    | .bool b => .ok b
    | other => mistyped "a boolean" other
  write := .bool

/-- Natural numbers of 64 bits. -/
def uint64 : Codec UInt64 where
  read _ := fun
    | .number (.int n) =>
      if 0 ≤ n ∧ n < twoPow 64 then .ok (UInt64.ofNat n.toNat)
      else mismatched (.wrongValue (.number (.int n)) "u64")
    | other => mistyped "u64" other
  write n := .nat n.toNat

/-- JSON values, kept as they are. -/
def json : Codec Json where
  read _ source :=
    match source.toJson with
    | .ok value => .ok value
    | .error fault => .error (.fault fault)
  write value := value

/-- Values that may be absent: `null` reads as absence. -/
def option (c : Codec α) : Codec (Option α) where
  read origin := fun
    | .null => .ok none
    | other => (c.read origin other).map some
  write := fun
    | none => .null
    | some a => c.write a

/-- Reads items one after the other. -/
def readItems (c : Codec α) (origin : Origin) : List Source → Except Problem (List α)
  | [] => .ok []
  | item :: rest => do
    let a ← c.read origin item
    let as ← readItems c origin rest
    .ok (a :: as)

/-- Lists, as arrays. -/
def list (c : Codec α) : Codec (List α) where
  read origin := fun
    | .arr items failure => do
      let as ← c.readItems origin items
      endOf failure
      .ok as
    | other => mistyped "a sequence" other
  write as := .arr (as.map c.write)

/-- Reads members one after the other. -/
def readEntries (c : Codec α) (origin : Origin) :
    List (Key × Source) → Except Problem (List (String × α))
  | [] => .ok []
  | (.garbled fault, _) :: _ => .error (.fault fault)
  | (.text key, value) :: rest => do
    let a ← c.read origin value
    let as ← readEntries c origin rest
    .ok ((key, a) :: as)

/-- Dictionaries, as objects. -/
def dict (c : Codec α) : Codec (Dict α) where
  read origin := fun
    | .obj members failure => do
      let entries ← c.readEntries origin members
      endOf failure
      .ok (Dict.ofList entries)
    | .keyless _ => .error (.fault .malformed)
    | other => mistyped "a map" other
  write d := .obj (d.entries.map fun e => (e.1, c.write e.2))

end Codec

end VolumeBroker
