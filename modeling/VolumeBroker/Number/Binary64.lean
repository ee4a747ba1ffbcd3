import VolumeBroker.Number.Power
/-!
# Finite 64-bit floats, exactly

A `Binary64` is a sign and a magnitude `significand * 2 ^ unit`, counted in units of `2 ^ -1074`,
the smallest positive value of the format. All arithmetic is on natural numbers: an operation forms
its exact result as a ratio and `Binary64.ofRatio?` rounds that ratio to the nearest value, a tie
going to the even significand. A result above the largest finite value is refused.
-/

namespace VolumeBroker

/-- The ratio `num / den` rounded to the nearest natural number, a tie to the even one. -/
def roundHalfEven (num den : Nat) : Nat :=
  let quotient := num / den
  let remainder := num % den
  if 2 * remainder < den then quotient
  else if den < 2 * remainder then quotient + 1
  else quotient + quotient % 2

/-- A finite 64-bit float. -/
structure Binary64 where
  /-- Whether the sign bit is set; zero has both signs. -/
  negative : Bool
  /-- The significand, at most 53 bits. -/
  significand : Nat
  /-- How often the significand is doubled, counting from units of `2 ^ -1074`. -/
  unit : Nat
  /-- The one representation of each magnitude: a full significand unless the unit is smallest. -/
  valid : significand < twoPow 53 ∧ (twoPow 52 ≤ significand ∨ unit = 0) ∧ unit ≤ 2045
deriving DecidableEq

namespace Binary64

/-- The denominator of every magnitude: values are counted in units of `2 ^ -1074`. -/
def scale : Nat := twoPow 1074

/-- The magnitude in units of `2 ^ -1074`. -/
def magnitude (x : Binary64) : Nat := x.significand * twoPow x.unit

/-- Zero with a sign. -/
def zero (negative : Bool) : Binary64 := ⟨negative, 0, 0, by decide⟩

/-- Whether the value is a zero of either sign. -/
def isZero (x : Binary64) : Bool := x.significand == 0

/-- The same magnitude under a chosen sign. -/
def withSign (x : Binary64) (negative : Bool) : Binary64 := { x with negative }

/-- Numeric equality: the two zeros are equal, all other values only to themselves. -/
def same (x y : Binary64) : Bool := x = y || (x.isZero && y.isZero)

/-- A significand and unit as a float, if they represent one. -/
def pack? (negative : Bool) (significand unit : Nat) : Option Binary64 :=
  if h : significand < twoPow 53 ∧ (twoPow 52 ≤ significand ∨ unit = 0) ∧ unit ≤ 2045 then
    some ⟨negative, significand, unit, h⟩
  else none

/-- The float nearest to `num / den`, a tie to the even significand; `none` above the range. -/
def ofRatio? (negative : Bool) (num den : Nat) : Option Binary64 :=
  let scaled := num * scale
  let unit := (scaled / den).log2 - 52
  let significand := roundHalfEven scaled (den * twoPow unit)
  -- a significand that has been rounded up to a power of two is halved
  if significand < twoPow 53 then pack? negative significand unit
  else pack? negative (significand / 2) (unit + 1)

/-- The float nearest to a natural number. -/
def ofNat? (n : Nat) : Option Binary64 := ofRatio? false n 1

/-- The rounded product of two magnitudes. -/
def mul? (x y : Binary64) : Option Binary64 :=
  ofRatio? (x.negative != y.negative) (x.magnitude * y.magnitude) (scale * scale)

/-- The rounded quotient of two magnitudes. -/
def div? (x y : Binary64) : Option Binary64 :=
  ofRatio? (x.negative != y.negative) x.magnitude y.magnitude

/-- The float nearest to a power of ten; `none` from `10 ^ 309`. -/
def tenPow? (exponent : Nat) : Option Binary64 := ofNat? (tenPow exponent)

@[simp] theorem withSign_magnitude (x : Binary64) (negative : Bool) :
    (x.withSign negative).magnitude = x.magnitude := rfl

@[simp] theorem same_refl (x : Binary64) : x.same x = true := by simp [same]

end Binary64

end VolumeBroker
