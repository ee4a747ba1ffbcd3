import VolumeBroker.Number.Power
/-!
# Socket addresses

The written form of the address that a server listens on: `a.b.c.d:port`, or an address of eight
groups in brackets with a port, in which `::` stands for groups of zeros, the last two groups may be
written as `a.b.c.d`, and `%` leads a scope. Each reader takes its part off the front of a text.
-/

namespace VolumeBroker

namespace SocketAddress

/-- The digit that a character stands for in a base of at most sixteen. -/
def digit? (base : Nat) (c : Char) : Option Nat :=
  let value? :=
    if '0' ≤ c ∧ c ≤ '9' then some (c.toNat - '0'.toNat)
    else if 'a' ≤ c ∧ c ≤ 'f' then some (c.toNat - 'a'.toNat + 10)
    else if 'A' ≤ c ∧ c ≤ 'F' then some (c.toNat - 'A'.toNat + 10)
    else none
  value?.filter (· < base)

/-- Whether a character is a digit in a base. -/
def isDigit (base : Nat) (c : Char) : Bool := (digit? base c).isSome

/-- The number that digits stand for. -/
def value (base : Nat) (digits : List Char) : Nat :=
  digits.foldl (fun n c => n * base + (digit? base c).getD 0) 0

/-- Takes a number below a bound off the front of a text. -/
def number? (base bound : Nat) (text : List Char) : Option (List Char × List Char) :=
  let digits := text.takeWhile (isDigit base)
  if digits.isEmpty || bound ≤ value base digits then none
  else some (digits, text.dropWhile (isDigit base))

/-- Takes a character off the front of a text. -/
def char? (c : Char) : List Char → Option (List Char)
  | first :: rest => if first = c then some rest else none
  | [] => none

/-- Takes a byte off the front of a text: up to three digits, of which the first is zero only if it
is the only one. -/
def byte? (text : List Char) : Option (List Char) := do
  let (digits, rest) ← number? 10 256 text
  if digits.length ≤ 3 ∧ (digits.length = 1 ∨ digits.head? ≠ some '0') then some rest else none

/-- Takes four bytes between points off the front of a text. -/
def fourBytes? (text : List Char) : Option (List Char) := do
  let text ← (byte? text).bind (char? '.')
  let text ← (byte? text).bind (char? '.')
  let text ← (byte? text).bind (char? '.')
  byte? text

/-- Takes a group of up to four hexadecimal digits off the front of a text. -/
def group? (text : List Char) : Option (List Char) := do
  let (digits, rest) ← number? 16 (twoPow 16) text
  if digits.length ≤ 4 then some rest else none

/-- Groups that have been taken off the front of a text. -/
structure Groups where
  /-- How many there are. -/
  count : Nat
  /-- Whether the last two of them were written as four bytes. -/
  endsInBytes : Bool
  rest : List Char

/-- Takes as many groups as possible off the front of a text, at most `room`, after `count` groups
that have been taken already. -/
def groups (count : Nat) : Nat → List Char → Groups
  | 0, text => ⟨count, false, text⟩
  | room + 1, text =>
    let behind := if count = 0 then some text else char? ':' text
    -- four bytes count as two groups, so they need room for two
    match if room = 0 then none else behind.bind fourBytes? with
    | some rest => ⟨count + 2, true, rest⟩
    | none =>
      match behind.bind group? with
      | some rest => groups (count + 1) room rest
      | none => ⟨count, false, text⟩

/-- Takes eight groups off the front of a text. -/
def eightGroups? (text : List Char) : Option (List Char) :=
  let front := groups 0 8 text
  if front.count = 8 then some front.rest
  else if front.endsInBytes then none
  else
    -- the double colon stands for one group of zeros at least
    ((char? ':' front.rest).bind (char? ':')).map fun text => (groups 0 (7 - front.count) text).rest

/-- Takes a scope off the front of a text, if there is one. -/
def scope? (text : List Char) : Option (List Char) :=
  match text with
  | '%' :: rest => (number? 10 (twoPow 32) rest).map (·.2)
  | text => some text

/-- Whether a text is a colon and a port. -/
def isPort (text : List Char) : Bool :=
  ((char? ':' text).bind (number? 10 (twoPow 16))).any fun (_, rest) => rest.isEmpty

/-- Whether a text is a socket address. -/
def isValid (text : String) : Bool :=
  match text.toList with
  | '[' :: rest => (((eightGroups? rest).bind scope?).bind (char? ']')).any isPort
  | address => (fourBytes? address).any isPort

end SocketAddress

end VolumeBroker
