import VolumeBroker.Dict
import VolumeBroker.Number.Binary64
/-!
# JSON values

A `Json` lists the members of an object in the order in which they were written. Its *canonical*
form lists them in increasing key order, the last of several members with one key counting;
`Json.same` is the equality of canonical values, under which the integer `1` and the float `1.0`
differ and the two float zeros agree.
-/

namespace VolumeBroker

/-- A number as JSON text distinguishes them: an integer, or a float. -/
inductive Number where
  /-- An integer literal. -/
  | int (value : Int)
  /-- Any other number literal. -/
  | real (value : Binary64)
deriving DecidableEq

namespace Number

/-- Numbers are the same if they are of one kind and numerically equal. -/
def same : Number → Number → Bool
  | .int a, .int b => a == b
  | .real a, .real b => a.same b
  | _, _ => false

end Number

/-- A JSON value. -/
inductive Json where
  | null
  | bool (value : Bool)
  | number (value : Number)
  | str (value : String)
  | arr (items : List Json)
  /-- An object with its members in written order. -/
  | obj (members : List (String × Json))

namespace Json

instance : Inhabited Json := ⟨null⟩

/-- An integer as a value. -/
def int (value : Int) : Json := .number (.int value)

/-- A natural number as a value. -/
def nat (value : Nat) : Json := .number (.int value)

/-- A dictionary of strings as an object. -/
def ofStrings (d : Dict String) : Json := .obj (d.entries.map fun e => (e.1, .str e.2))

/-- A list of strings as an array. -/
def ofStringList (items : List String) : Json := .arr (items.map .str)

/-- The members of an object in key order, each key once with its last value. -/
def ofDict (d : Dict Json) : Json := .obj d.entries

/-! ### Canonical form -/

mutual

/-- The value with the members of every object in key order, each key once. -/
def canonical : Json → Json
  | .null => .null
  | .bool b => .bool b
  | .number n => .number n
  | .str s => .str s
  | .arr items => .arr (canonicalItems items)
  | .obj members => .obj (Dict.ofList (canonicalMembers members)).entries

/-- The canonical forms of the items of an array. -/
def canonicalItems : List Json → List Json
  | [] => []
  | item :: rest => canonical item :: canonicalItems rest

/-- The members of an object with canonical values. -/
def canonicalMembers : List (String × Json) → List (String × Json)
  | [] => []
  | (key, value) :: rest => (key, canonical value) :: canonicalMembers rest

end

/-! ### Equality -/

mutual

/-- Equality of canonical values: kinds and numbers as `Number.same`, all else literally. -/
def same : Json → Json → Bool
  | .null, .null => true
  | .bool a, .bool b => a == b
  | .number a, .number b => a.same b
  | .str a, .str b => a == b
  | .arr a, .arr b => sameItems a b
  | .obj a, .obj b => sameMembers a b
  | _, _ => false

/-- Arrays are the same item by item. -/
def sameItems : List Json → List Json → Bool
  | [], [] => true
  | a :: as, b :: bs => same a b && sameItems as bs
  | _, _ => false

/-- Objects are the same member by member. -/
def sameMembers : List (String × Json) → List (String × Json) → Bool
  | [], [] => true
  | (k, a) :: as, (l, b) :: bs => k == l && same a b && sameMembers as bs
  | _, _ => false

end

/-- The member of an object under a key, the last one if there are several. -/
def get? (value : Json) (key : String) : Option Json :=
  match value with
  | .obj members => members.reverse.lookup key
  | _ => none

end Json

end VolumeBroker
