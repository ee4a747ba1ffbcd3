/-!
# Powers of two and of ten

The bounds of fixed-width numbers and the scales of binary and decimal fractions.
-/

namespace VolumeBroker

/-- The power of two with an exponent. -/
def twoPow (exponent : Nat) : Nat := Nat.pow 2 exponent

/-- The power of ten with an exponent. -/
def tenPow (exponent : Nat) : Nat := Nat.pow 10 exponent

@[simp] theorem twoPow_zero : twoPow 0 = 1 := rfl

theorem twoPow_succ (exponent : Nat) : twoPow (exponent + 1) = twoPow exponent * 2 := rfl

@[simp] theorem tenPow_zero : tenPow 0 = 1 := rfl

theorem tenPow_succ (exponent : Nat) : tenPow (exponent + 1) = tenPow exponent * 10 := rfl

end VolumeBroker
