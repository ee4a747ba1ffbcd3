import VolumeBroker.Json.Basic
/-!
# Documents as they were written

A `Source` is a document before it is given a meaning: the members of an object stand in written
order with repetitions, and places where a text fails to be JSON are nodes of the tree, so that
whoever reads the document meets the first problem at the place where it stands. A place may be
harmless to a reader that skips it: a string with half a surrogate pair, a number out of range and
containers nested too deeply are problems only when their value is wanted.
-/

namespace VolumeBroker

/-- How a text fails to be JSON. -/
inductive Fault where
  /-- The text is not JSON. -/
  | malformed
  /-- The text ends too early. -/
  | truncated
deriving DecidableEq, Repr

/-- The key of a member. -/
inductive Key where
  /-- A readable key. -/
  | text (name : String)
  /-- A key that cannot be read as a string but can be skipped. -/
  | garbled (fault : Fault)
deriving DecidableEq, Repr

/-- A document in the form in which it was written. -/
inductive Source where
  | null
  | bool (value : Bool)
  | number (value : Number)
  | str (value : String)
  /-- An array: its items, and how the text fails after them. -/
  | arr (items : List Source) (failure : Option Fault)
  /-- An object: its members in written order, and how the text fails after them. -/
  | obj (members : List (Key × Source)) (failure : Option Fault)
  /-- An object whose first key is no string but the given node. -/
  | keyless (found : Source)
  /-- A failure: what a reader reports, and what one that skips the place reports, if anything. -/
  | broken (onRead : Fault) (onSkip : Option Fault)

namespace Source

/-- A failure that stops readers and skippers alike. -/
def stop (fault : Fault) : Source := .broken fault (some fault)

/-! ### Values as documents -/

mutual

/-- A value as a document. -/
def ofJson : Json → Source
  | .null => .null
  | .bool b => .bool b
  | .number n => .number n
  | .str s => .str s
  | .arr items => .arr (ofItems items) none
  | .obj members => .obj (ofMembers members) none

/-- The items of an array as documents. -/
def ofItems : List Json → List Source
  | [] => []
  | item :: rest => ofJson item :: ofItems rest

/-- The members of an object as documents. -/
def ofMembers : List (String × Json) → List (Key × Source)
  | [] => []
  | (key, value) :: rest => (.text key, ofJson value) :: ofMembers rest

end

/-! ### Skipping -/

mutual

/-- The failure that is met when a document is skipped, if any. -/
def skipFault : Source → Option Fault
  | .arr items failure => (skipItems items).or failure
  | .obj members failure => (skipMembers members).or failure
  | .keyless _ => some .malformed
  | .broken _ onSkip => onSkip
  | _ => none

/-- The failure that is met when items are skipped, if any. -/
def skipItems : List Source → Option Fault
  | [] => none
  | item :: rest => (skipFault item).or (skipItems rest)

/-- The failure that is met when members are skipped, if any. -/
def skipMembers : List (Key × Source) → Option Fault
  | [] => none
  | (_, value) :: rest => (skipFault value).or (skipMembers rest)

end

/-! ### The nesting limit -/

mutual

/-- The document in which containers that are nested deeper than `room` cannot be read. -/
def limitNesting (room : Nat) : Source → Source
  | .arr items failure =>
    if room = 0 then .broken .malformed (skipFault (.arr items failure))
    else .arr (limitItems (room - 1) items) failure
  | .obj members failure =>
    if room = 0 then .broken .malformed (skipFault (.obj members failure))
    else .obj (limitMembers (room - 1) members) failure
  | .keyless found =>
    if room = 0 then stop .malformed else .keyless (limitNesting (room - 1) found)
  | node => node

/-- The limit for the items of an array. -/
def limitItems (room : Nat) : List Source → List Source
  | [] => []
  | item :: rest => limitNesting room item :: limitItems room rest

/-- The limit for the members of an object. -/
def limitMembers (room : Nat) : List (Key × Source) → List (Key × Source)
  | [] => []
  | (key, value) :: rest => (key, limitNesting room value) :: limitMembers room rest

end

/-! ### Reading a value -/

mutual

/-- The value that a document holds, or the first failure in it. -/
def toJson : Source → Except Fault Json
  | .null => .ok .null
  | .bool b => .ok (.bool b)
  | .number n => .ok (.number n)
  | .str s => .ok (.str s)
  | .arr items failure => do
    let values ← itemsToJson items
    match failure with
    | none => .ok (.arr values)
    | some fault => .error fault
  | .obj members failure => do
    let values ← membersToJson members
    match failure with
    | none => .ok (.obj (Dict.ofList values).entries)
    | some fault => .error fault
  | .keyless _ => .error .malformed
  | .broken onRead _ => .error onRead

/-- The values of the items of an array. -/
def itemsToJson : List Source → Except Fault (List Json)
  | [] => .ok []
  | item :: rest => do
    let value ← toJson item
    let values ← itemsToJson rest
    .ok (value :: values)

/-- The members of an object with their values. -/
def membersToJson : List (Key × Source) → Except Fault (List (String × Json))
  | [] => .ok []
  | (.garbled fault, _) :: _ => .error fault
  | (.text key, value) :: rest => do
    let value ← toJson value
    let values ← membersToJson rest
    .ok ((key, value) :: values)

end

/-! ### Complete documents -/

mutual

/-- The first failure that a reader of the whole document meets, if any. -/
def readFault : Source → Option Fault
  | .arr items failure => (readFaultItems items).or failure
  | .obj members failure => (readFaultMembers members).or failure
  | .keyless _ => some .malformed
  | .broken onRead _ => some onRead
  | _ => none

/-- The first failure that a reader of all items meets, if any. -/
def readFaultItems : List Source → Option Fault
  | [] => none
  | item :: rest => (readFault item).or (readFaultItems rest)

/-- The first failure that a reader of all members meets, if any. -/
def readFaultMembers : List (Key × Source) → Option Fault
  | [] => none
  | (.garbled fault, _) :: _ => some fault
  | (.text _, value) :: rest => (readFault value).or (readFaultMembers rest)

end

end Source

end VolumeBroker
