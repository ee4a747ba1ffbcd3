import VolumeBroker.Json.Source
/-!
# The meaning of YAML scalars

A quoted scalar is a string. A plain scalar is `null`, a truth value or a number if it is written
like one, and a string otherwise. Integers may be hexadecimal, octal or binary; digits behind a
leading zero are a string.
-/

namespace VolumeBroker

namespace Yaml

/-- The digits of a text in a base, as a number. -/
def radixValue? (base : Nat) (digits : List Char) : Option Nat :=
  if digits.isEmpty then none
  else digits.foldl (fun value c => value.bind fun n =>
    let digit :=
      if '0' ≤ c ∧ c ≤ '9' then c.toNat - '0'.toNat
      else if 'a' ≤ c ∧ c ≤ 'z' then c.toNat - 'a'.toNat + 10
      else if 'A' ≤ c ∧ c ≤ 'Z' then c.toNat - 'A'.toNat + 10
      else base
    if digit < base then some (n * base + digit) else none) (some 0)

/-- Whether a text is digits behind a leading zero. -/
def hasLeadingZero (unsigned : List Char) : Bool :=
  match unsigned with
  | '0' :: rest => !rest.isEmpty && rest.all Char.isDigit
  | _ => false

/-- The magnitude of an integer behind its sign. -/
def magnitude? : List Char → Option Nat
  | '0' :: 'x' :: digits => radixValue? 16 digits
  | '0' :: 'o' :: digits => radixValue? 8 digits
  | '0' :: 'b' :: digits => radixValue? 2 digits
  | unsigned => if hasLeadingZero unsigned then none else radixValue? 10 unsigned

/-- A text without its sign, and whether it is negative. -/
def splitSign : List Char → Bool × List Char
  | '-' :: rest => (true, rest)
  | '+' :: rest => (false, rest)
  | text => (false, text)

/-- The leading digits of a text as a number, how many there are, and the rest. -/
def takeNumber (value count : Nat) : List Char → Nat × Nat × List Char
  | [] => (value, count, [])
  | c :: rest =>
    if c.isDigit then takeNumber (value * 10 + (c.toNat - '0'.toNat)) (count + 1) rest
    else (value, count, c :: rest)

/-- The digits of a decimal and its power of ten, if an unsigned text is one. -/
def decimalParts? (unsigned : List Char) : Option (Nat × Int) := do
  let (whole, wholeCount, rest) := takeNumber 0 0 unsigned
  let (digits, fractionCount, rest) := match rest with
    | '.' :: rest => takeNumber whole 0 rest
    | rest => (whole, 0, rest)
  if wholeCount + fractionCount = 0 then none
  match rest with
  | [] => some (digits, -(fractionCount : Int))
  | c :: rest =>
    if c = 'e' ∨ c = 'E' then
      let (negative, rest) := splitSign rest
      let (exponent, count, rest) := takeNumber 0 0 rest
      if count = 0 ∨ !rest.isEmpty then none
      else some (digits, (if negative then -(exponent : Int) else exponent) - fractionCount)
    else none

/-- The float nearest to a decimal; exponents beyond all floats are cut short. -/
def nearestFloat? (negative : Bool) (digits : Nat) (exponent : Int) : Option Binary64 :=
  if digits = 0 then some (.zero negative)
  else if exponent < 0 then
    let down := (-exponent).toNat
    if down > 400 + (Nat.toDigits 10 digits).length then some (.zero negative)
    else Binary64.ofRatio? negative digits (tenPow down)
  else if exponent > 400 then none
  else Binary64.ofRatio? negative (digits * tenPow exponent.toNat) 1

/-- The words for values without a number: infinities and the undefined value. -/
def isUnbounded (text : String) : Bool :=
  [".inf", ".Inf", ".INF", "+.inf", "+.Inf", "+.INF", "-.inf", "-.Inf", "-.INF", ".nan", ".NaN",
    ".NAN"].contains text

/-- The meaning of a plain scalar. An integer beyond 64 bits cannot be read, and a value without a
number is `null`. -/
def plainScalar (text : String) : Source :=
  if ["", "~", "null", "Null", "NULL"].contains text then .null
  else if ["true", "True", "TRUE"].contains text then .bool true
  else if ["false", "False", "FALSE"].contains text then .bool false
  else if isUnbounded text then .null
  else
    let (negative, unsigned) := splitSign text.toList
    let float := fun () =>
      match (decimalParts? unsigned).bind fun (digits, exponent) =>
          nearestFloat? negative digits exponent with
      | some x => Source.number (.real x)
      | none => .str text
    match magnitude? unsigned with
    | some n =>
      if negative then
        if n ≤ twoPow 63 then .number (.int (-n))
        else if n ≤ twoPow 127 then .broken .malformed none
        else float ()
      else if n < twoPow 64 then .number (.int n)
      else if n < twoPow 128 then .broken .malformed none
      else float ()
    | none => if hasLeadingZero unsigned then .str text else float ()

end Yaml

end VolumeBroker
