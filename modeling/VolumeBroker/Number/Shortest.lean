import VolumeBroker.Number.Binary64
/-!
# The shortest decimal of a float

`Binary64.shortest` gives the decimal with the fewest digits that reads back as the float: it tries
one digit, two digits and so on up to seventeen, and on each decimal grid it looks at the two
neighbours of the exact value. The first grid with a neighbour inside the interval of reals that
round to the float wins; of two such neighbours the nearer one, and of two equally near the even one.
-/

namespace VolumeBroker

/-- A natural number times a power of ten. -/
structure Decimal where
  /-- The digits, read as a number. -/
  digits : Nat
  /-- The power of ten that the digits are multiplied by. -/
  exponent : Int
deriving DecidableEq, Repr

/-- The number of decimal digits of `n`; zero has none. -/
def decimalLength (n : Nat) : Nat :=
  if n = 0 then 0 else (Nat.toDigits 10 n).length

namespace Decimal

/-- The same value without trailing zeros in its digits, for at most `fuel` of them. -/
def trim : Nat → Decimal → Decimal
  | 0, d => d
  | fuel + 1, d =>
    if d.digits ≠ 0 ∧ d.digits % 10 = 0 then trim fuel ⟨d.digits / 10, d.exponent + 1⟩ else d

end Decimal

namespace Binary64

/-- The reals that round to a float, as bounds over a common denominator. -/
structure Interval where
  /-- Numerator of the lower end. -/
  low : Nat
  /-- Numerator of the float itself. -/
  exact : Nat
  /-- Numerator of the upper end. -/
  high : Nat
  /-- The denominator of all three. -/
  den : Nat
  /-- Whether the ends belong to the interval. -/
  closed : Bool

/-- The interval of a float: half a unit to either side, a quarter unit below a power of two. -/
def interval (x : Binary64) : Interval :=
  -- below a power of two the floats stand half as far apart
  let below := if x.significand = twoPow 52 ∧ x.unit ≠ 0 then 1 else 2
  { low := (4 * x.significand - below) * twoPow x.unit
    exact := 4 * x.significand * twoPow x.unit
    high := (4 * x.significand + 2) * twoPow x.unit
    den := 4 * scale
    closed := x.significand % 2 = 0 }

/-- Whether `num / den` lies in the interval. -/
def Interval.contains (i : Interval) (num den : Nat) : Bool :=
  let point := num * i.den
  if i.closed then i.low * den ≤ point ∧ point ≤ i.high * den
  else i.low * den < point ∧ point < i.high * den

/-- The position of the decimal point: the `k` with `10 ^ (k - 1) ≤ value < 10 ^ k`. -/
def Interval.pointPosition (i : Interval) : Int :=
  if i.den ≤ i.exact then decimalLength (i.exact / i.den)
  else 1 - (decimalLength ((i.den - 1) / i.exact) : Int)

/-- The point of the grid `10 ^ exponent` next to the value that lies in the interval, if any. -/
def Interval.nearest? (i : Interval) (exponent : Int) : Option Decimal :=
  let up := tenPow exponent.toNat
  let down := tenPow (-exponent).toNat
  let lower := i.exact * down / (i.den * up)
  let upper := lower + 1
  let lowerFits := i.contains (lower * up) down
  let upperFits := i.contains (upper * up) down
  -- which neighbour is nearer, with all denominators multiplied out
  let twice := 2 * i.exact * down
  let middle := (lower + upper) * up * i.den
  if lowerFits ∧ upperFits then
    if twice < middle then some ⟨lower, exponent⟩
    else if middle < twice then some ⟨upper, exponent⟩
    else some ⟨lower + lower % 2, exponent⟩
  else if lowerFits then some ⟨lower, exponent⟩
  else if upperFits then some ⟨upper, exponent⟩
  else none

/-- The fewest digits that read back as the float; zero has the digit zero. -/
def shortest (x : Binary64) : Decimal :=
  if x.isZero then ⟨0, 0⟩
  else
    let i := x.interval
    let point := i.pointPosition
    let found := (List.range 17).findSome? fun n => i.nearest? (point - (n + 1 : Nat))
    (found.getD ⟨0, 0⟩).trim 20

end Binary64

end VolumeBroker
