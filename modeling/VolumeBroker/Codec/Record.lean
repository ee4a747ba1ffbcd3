import VolumeBroker.Codec.Basic
/-!
# Records

A record is read from an object, whose members may come in any order and under several spellings of
their names, or from an array, whose items are the fields in declared order. A `Shape` declares the
fields of a record once; `Shape.codec` reads and writes by that declaration. Reading an object
reports the first problem in member order, then a failure of the text, then the first absent field
that has no value of its own, in declared order.
-/

namespace VolumeBroker

/-- A field of a record. -/
structure Field (α : Type) where
  /-- The name under which the field is written. -/
  name : String
  /-- The names under which the field is read, as messages list them. -/
  spellings : List String
  /-- How its values are read and written. -/
  codec : Codec α
  /-- The value of an absent field; `none` if the field is required. -/
  fallback : Option α
  /-- Whether a value is left out when the record is written. -/
  omitted : α → Bool

namespace Field

variable {α : Type}

/-- A field that must be present. -/
def required (name : String) (c : Codec α) : Field α := ⟨name, [name], c, none, fun _ => false⟩

/-- A field with a value of its own when it is absent. -/
def defaulted (name : String) (c : Codec α) (fallback : α) : Field α :=
  ⟨name, [name], c, some fallback, fun _ => false⟩

/-- A field that may be absent, and is left out when it is. -/
def optional (name : String) (c : Codec α) : Field (Option α) :=
  ⟨name, [name], c.option, some none, Option.isNone⟩

/-- The same field, also read under other spellings. -/
def spelled (f : Field α) (spellings : List String) : Field α := { f with spellings }

/-- The same field, left out when its value passes a test. -/
def omittedIf (f : Field α) (omitted : α → Bool) : Field α := { f with omitted }

/-- Whether a key names the field. -/
def accepts (f : Field α) (key : String) : Bool := f.spellings.contains key

end Field

/-- The fields of a record in declared order, indexed by the types of their values. -/
inductive Fields : List Type → Type 1 where
  | nil : Fields []
  /-- A field before others. -/
  | cons {α : Type} {ts : List Type} (field : Field α) (rest : Fields ts) : Fields (α :: ts)

/-- The values of all fields. -/
def Row : List Type → Type
  | [] => Unit
  | α :: ts => α × Row ts

/-- The values of the fields that have been read so far. -/
def Partial : List Type → Type
  | [] => Unit
  | α :: ts => Option α × Partial ts

namespace Fields

/-- No field has been read. -/
def blank : {ts : List Type} → Fields ts → Partial ts
  | _, .nil => ()
  | _, .cons _ rest => (none, rest.blank)

/-- The number of fields. -/
def size : {ts : List Type} → Fields ts → Nat
  | _, .nil => 0
  | _, .cons _ rest => rest.size + 1

/-- All names under which fields are read. -/
def spellings : {ts : List Type} → Fields ts → List String
  | _, .nil => []
  | _, .cons field rest => field.spellings ++ rest.spellings

/-- Reads a member into the field that its key names; `none` if it names no field. -/
def put? (origin : Origin) (key : String) (value : Source) :
    {ts : List Type} → Fields ts → Partial ts → Option (Except Problem (Partial ts))
  | _, .nil, _ => none
  | _, .cons field rest, (slot, slots) =>
    if field.accepts key then
      some <|
        if slot.isSome then mismatched (.duplicateField field.name)
        else (field.codec.read origin value).map fun a => (some a, slots)
    else (rest.put? origin key value slots).map (·.map (slot, ·))

/-- The values of all fields, or the first required one that is absent. -/
def complete : {ts : List Type} → Fields ts → Partial ts → Except Problem (Row ts)
  | _, .nil, _ => .ok ()
  | _, .cons field rest, (slot, slots) =>
    match slot.or field.fallback with
    | none => mismatched (.missingField field.name)
    | some a => (rest.complete slots).map (a, ·)

/-- Reads the items of an array as the fields in order, and gives the items left over. -/
def readItems (origin : Origin) (expected : String) (failure : Option Fault) (total : Nat) :
    {ts : List Type} → Fields ts → List Source → Except Problem (Row ts × List Source)
  | _, .nil, items => .ok ((), items)
  | _, .cons field rest, item :: items => do
    let a ← field.codec.read origin item
    let (row, left) ← rest.readItems origin expected failure total items
    .ok ((a, row), left)
  | _, .cons field rest, [] => do
    endOf failure
    match field.fallback with
    | none => mismatched (.wrongLength total expected)
    | some a =>
      let (row, left) ← rest.readItems origin expected failure total []
      .ok ((a, row), left)

/-- The members that a record is written as. -/
def write : {ts : List Type} → Fields ts → Row ts → List (String × Json)
  | _, .nil, _ => []
  | _, .cons field rest, (a, row) =>
    if field.omitted a then rest.write row
    else (field.name, field.codec.write a) :: rest.write row

end Fields

/-- The declaration of a record type. -/
structure Shape (α : Type) where
  /-- The name of the type in messages. -/
  title : String
  types : List Type
  fields : Fields types
  /-- Whether keys that name no field are refused instead of ignored. -/
  strict : Bool
  /-- The record of all field values. -/
  build : Row types → α
  /-- The field values of a record. -/
  parts : α → Row types

/-- A number of elements, as messages name it. -/
def elementCount (n : Nat) : String :=
  if n = 1 then "1 element" else toString n ++ " elements"

namespace Shape

variable {α : Type}

/-- What a reader of the record expects. -/
def expected (s : Shape α) : String := "struct " ++ s.title

/-- Reads the members of an object one after the other. -/
def readMembers (s : Shape α) (origin : Origin) :
    List (Key × Source) → Partial s.types → Except Problem (Partial s.types)
  | [], slots => .ok slots
  | (.garbled fault, _) :: _, _ => .error (.fault fault)
  | (.text key, value) :: rest, slots =>
    match s.fields.put? origin key value slots with
    | some (.ok slots) => s.readMembers origin rest slots
    | some (.error problem) => .error problem
    | none =>
      if s.strict then mismatched (.unknownField key s.fields.spellings)
      else
        match value.skipFault with
        | some fault => .error (.fault fault)
        | none => s.readMembers origin rest slots

/-- What is reported of items behind the last field. -/
def surplus (s : Shape α) (origin : Origin) (total : Nat) : Problem :=
  match origin with
  | .value => .mismatch (.wrongLength total "fewer elements in array")
  | .text => .fault .malformed
  | .buffered => .mismatch (.wrongLength total (elementCount s.fields.size ++ " in sequence"))

/-- Reads a record. -/
def read (s : Shape α) (origin : Origin) : Source → Except Problem α
  | .obj members failure => do
    let slots ← s.readMembers origin members s.fields.blank
    endOf failure
    let row ← s.fields.complete slots
    .ok (s.build row)
  | .arr items failure => do
    let expected := s.expected ++ " with " ++ elementCount s.fields.size
    let (row, left) ← s.fields.readItems origin expected failure items.length items
    if left.isEmpty then
      endOf failure
      .ok (s.build row)
    else .error (s.surplus origin items.length)
  | .keyless _ => .error (.fault .malformed)
  | other => mistyped s.expected other

/-- The members that a record is written as. -/
def write (s : Shape α) (a : α) : List (String × Json) := s.fields.write (s.parts a)

/-- The codec of a record type. -/
def codec (s : Shape α) : Codec α where
  read := s.read
  write a := .obj (s.write a)

end Shape

end VolumeBroker
