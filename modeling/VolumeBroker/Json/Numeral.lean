import VolumeBroker.Json.Basic
/-!
# The value of a number literal

A `Numeral` is a number literal split into its digits. Its value is an integer when it has neither
fraction nor exponent and fits into 64 bits; otherwise it is a float, computed in two roundings: the
leading digits that fit into 64 bits give a significand, which is rounded once, and then multiplied
or divided by a power of ten, which rounds again. `-0` is the float zero. A literal whose float would
be infinite has no value.
-/

namespace VolumeBroker

/-- A number literal, split into its parts. -/
structure Numeral where
  /-- Whether a minus sign stands in front. -/
  negative : Bool
  /-- The digits before the point. -/
  whole : List Nat
  /-- The digits after the point, if there is one. -/
  fraction : Option (List Nat)
  /-- Whether the exponent is negative, and its digits, if there is one. -/
  exponent : Option (Bool × List Nat)
deriving DecidableEq, Repr

namespace Numeral

/-- The greatest significand. -/
def maxSignificand : Nat := twoPow 64 - 1

/-- The greatest exponent that is read digit by digit. -/
def maxExponent : Nat := twoPow 31 - 1

/-- The leading digits that a significand can take up, and the digits left over. -/
def absorb (significand : Nat) : List Nat → Nat × List Nat
  | [] => (significand, [])
  | digit :: rest =>
    if significand * 10 + digit ≤ maxSignificand then absorb (significand * 10 + digit) rest
    else (significand, digit :: rest)

/-- Digits as a number, `none` when it exceeds `maxExponent`. -/
def exponentOf? (digits : List Nat) : Option Nat :=
  digits.foldl (fun value digit => value.bind fun n =>
    if n * 10 + digit ≤ maxExponent then some (n * 10 + digit) else none) (some 0)

/-- Divides by ten as often as asked: in steps of at most 308 until the value is zero. -/
def divideTens : Nat → Binary64 → Nat → Option Binary64
  | 0, x, _ => some x
  | fuel + 1, x, tens =>
    if tens ≤ 308 then (Binary64.tenPow? tens).bind x.div?
    else if x.isZero then some x
    else ((Binary64.tenPow? 308).bind x.div?).bind fun y => divideTens fuel y (tens - 308)

/-- A significand times a power of ten; three long divisions bring every significand to zero. -/
def scaled? (significand : Nat) (exponent : Int) : Option Binary64 :=
  (Binary64.ofNat? significand).bind fun x =>
    if exponent < 0 then divideTens 4 x (-exponent).toNat
    else if exponent ≤ 308 then (Binary64.tenPow? exponent.toNat).bind x.mul?
    else if x.isZero then some x
    else none

/-- The float of a numeral with fraction, exponent or more digits than an integer takes. -/
def real? (n : Numeral) : Option Binary64 :=
  let (whole, dropped) := absorb 0 n.whole
  let (significand, unread) := absorb whole (n.fraction.getD [])
  -- a digit dropped in front of the point is worth a ten, one taken behind it costs a ten
  let taken := (n.fraction.getD []).length - unread.length
  let start : Int := dropped.length - taken
  let magnitude := match n.exponent with
    | none => scaled? significand start
    | some (down, digits) =>
      match exponentOf? digits with
      | some exponent => scaled? significand (if down then start - exponent else start + exponent)
      -- an exponent that is too long: zero if it cannot matter or is negative
      | none => if significand = 0 ∨ down then some (Binary64.zero false) else none
  magnitude.map (·.withSign n.negative)

/-- The value of a numeral, `none` when it is out of range. -/
def value? (n : Numeral) : Option Number :=
  let real := n.real?.map Number.real
  if n.fraction.isSome ∨ n.exponent.isSome then real
  else
    let (whole, dropped) := absorb 0 n.whole
    if !dropped.isEmpty then real
    else if !n.negative then some (.int whole)
    -- `-0` is a float
    else if 0 < whole ∧ whole ≤ twoPow 63 then some (.int (-whole))
    else real

end Numeral

end VolumeBroker
