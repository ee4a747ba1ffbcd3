import VolumeBroker.Number.Binary64
import Mathlib.Algebra.Order.Ring.Nat
import Mathlib.Tactic.Ring
/-!
# The range of rounded results

When a ratio has a float. All magnitudes are counted in units of `2 ^ -1074`, so the ratio
`num / den` counts `num * scale / den` of them, and the float nearest to it exists exactly below the
middle between the greatest float and what would be the next one (`Binary64.ceiling`); only that
direction is needed here (`Binary64.ofRatio?_isSome`). `Binary64.magnitude_ofRatio?` bounds the
relative error of a rounding from above: a factor of `1 + 2 ^ -53`.
-/

namespace VolumeBroker

theorem twoPow_pos (n : Nat) : 0 < twoPow n := Nat.pow_pos (by decide)

theorem tenPow_pos (n : Nat) : 0 < tenPow n := Nat.pow_pos (by decide)

theorem twoPow_le {m n : Nat} (h : m ≤ n) : twoPow m ≤ twoPow n :=
  Nat.pow_le_pow_right (by decide) h

theorem tenPow_le {m n : Nat} (h : m ≤ n) : tenPow m ≤ tenPow n :=
  Nat.pow_le_pow_right (by decide) h

theorem le_log2 {k n : Nat} (hn : n ≠ 0) (h : twoPow k ≤ n) : k ≤ n.log2 := (Nat.le_log2 hn).2 h

theorem twoPow_add (m n : Nat) : twoPow (m + n) = twoPow m * twoPow n := Nat.pow_add 2 m n

theorem tenPow_add (m n : Nat) : tenPow (m + n) = tenPow m * tenPow n := Nat.pow_add 10 m n

/-! ### Rounding -/

section Rounding

variable {num den : Nat}

theorem div_le_roundHalfEven : num / den ≤ roundHalfEven num den := by
  unfold roundHalfEven
  dsimp only
  split
  · exact Nat.le_refl _
  · split <;> omega

theorem roundHalfEven_le : roundHalfEven num den ≤ num / den + 1 := by
  unfold roundHalfEven
  dsimp only
  split
  · omega
  · split <;> omega

/-- Rounding goes up by half a unit at most. -/
theorem two_mul_roundHalfEven_le (h : 0 < den) :
    2 * (roundHalfEven num den * den) ≤ 2 * num + den := by
  have hsplit : num = den * (num / den) + num % den := (Nat.div_add_mod num den).symm
  have hlt : num % den < den := Nat.mod_lt num h
  have hswap : num / den * den = den * (num / den) := Nat.mul_comm _ _
  unfold roundHalfEven
  dsimp only
  split
  · omega
  · split
    · rw [Nat.add_mul]
      omega
    · -- half way between, one is added to an odd quotient only
      have hparity : num / den % 2 ≤ 1 := by omega
      have hbound : num / den % 2 * den ≤ 1 * den := Nat.mul_le_mul_right den hparity
      rw [Nat.add_mul]
      omega

end Rounding

namespace Binary64

/-- The middle between the greatest float and what would be the next one, in units. -/
def ceiling : Nat := (twoPow 54 - 1) * twoPow 2044

theorem magnitude_lt_ceiling (x : Binary64) : x.magnitude < ceiling := by
  have hsignificand : x.significand ≤ twoPow 53 - 1 := by
    have := x.valid.1
    omega
  have hunit : twoPow x.unit ≤ twoPow 2045 := twoPow_le x.valid.2.2
  have hdouble : twoPow 2045 = twoPow 2044 * 2 := twoPow_succ 2044
  have hpos : 0 < twoPow 2044 := twoPow_pos 2044
  have hfit : 2 * (twoPow 53 - 1) < twoPow 54 - 1 := by decide
  unfold magnitude ceiling
  -- the powers are too large to be computed on the way
  generalize twoPow 2044 = power at *
  generalize twoPow 2045 = double at *
  calc x.significand * twoPow x.unit
      ≤ (twoPow 53 - 1) * double := Nat.mul_le_mul hsignificand hunit
    _ = 2 * (twoPow 53 - 1) * power := by rw [hdouble]; ring
    _ < (twoPow 54 - 1) * power := Nat.mul_lt_mul_of_pos_right hfit hpos

/-- What the unit of a rounded ratio is chosen for: the quotient in that unit has 53 bits, unless
the unit is the smallest one and it has fewer. -/
theorem quotient_bounds (q : Nat) :
    q / twoPow (q.log2 - 52) < twoPow 53 ∧
      (twoPow 52 ≤ q / twoPow (q.log2 - 52) ∨ q.log2 - 52 = 0) := by
  by_cases hq : q = 0
  · subst hq
    exact ⟨by decide, .inr (by decide)⟩
  -- the logarithm tells between which powers the quotient lies
  have hlow : 2 ^ q.log2 ≤ q := Nat.log2_self_le hq
  have hhigh : q < 2 ^ (q.log2 + 1) := Nat.lt_log2_self
  by_cases hunit : q.log2 ≤ 52
  · have hzero : q.log2 - 52 = 0 := by omega
    rw [hzero, twoPow_zero, Nat.div_one]
    exact ⟨hhigh.trans_le (Nat.pow_le_pow_right (by decide) (by omega)), .inr rfl⟩
  · have hsplit : q.log2 = 52 + (q.log2 - 52) := by omega
    refine ⟨?_, .inl ?_⟩
    · rw [Nat.div_lt_iff_lt_mul (twoPow_pos _), ← twoPow_add]
      exact hhigh.trans_le (Nat.pow_le_pow_right (by decide) (by omega))
    · rw [Nat.le_div_iff_mul_le (twoPow_pos _), ← twoPow_add, ← hsplit]
      exact hlow

theorem pack?_isSome {negative : Bool} {significand unit : Nat}
    (h : significand < twoPow 53 ∧ (twoPow 52 ≤ significand ∨ unit = 0) ∧ unit ≤ 2045) :
    (pack? negative significand unit).isSome = true := by
  unfold pack?
  rw [dif_pos h]
  rfl

theorem magnitude_pack? {negative : Bool} {significand unit : Nat} {x : Binary64}
    (h : pack? negative significand unit = some x) : x.magnitude = significand * twoPow unit := by
  unfold pack? at h
  split at h
  · rw [← Option.some.inj h]
    rfl
  · cases h

/-- What is less than the middle behind the greatest float has at most 2098 binary digits. -/
theorem log2_le_of_lt_ceiling {n : Nat} (h : n < ceiling) : n.log2 ≤ 2097 := by
  by_contra hlarge
  have hne : n ≠ 0 := by
    rintro rfl
    exact hlarge (by decide)
  have hlow : twoPow 2098 ≤ n := (twoPow_le (by omega)).trans (Nat.log2_self_le hne)
  have hceiling : ceiling ≤ twoPow 2098 := by
    have hsplit : twoPow 2098 = twoPow 54 * twoPow 2044 := twoPow_add 54 2044
    rw [hsplit]
    exact Nat.mul_le_mul_right _ (by decide)
  omega

/-- The middle lies half a unit below the next power of two. -/
theorem two_mul_ceiling : 2 * ceiling + twoPow 2045 = 2 * (twoPow 53 * twoPow 2045) := by
  have hdouble : twoPow 2045 = twoPow 2044 * 2 := twoPow_succ 2044
  have hfull : 2 * (twoPow 54 - 1) + 2 = 2 * twoPow 53 * 2 := by decide
  unfold ceiling
  rw [hdouble]
  calc 2 * ((twoPow 54 - 1) * twoPow 2044) + twoPow 2044 * 2
      = (2 * (twoPow 54 - 1) + 2) * twoPow 2044 := by ring
    _ = 2 * (twoPow 53 * (twoPow 2044 * 2)) := by rw [hfull]; ring

/-- What is less than the middle is not rounded up to the next power of two. -/
theorem roundHalfEven_ne_of_lt_ceiling {num den : Nat} (hden : 0 < den) (h : num < den * ceiling) :
    roundHalfEven num (den * twoPow 2045) ≠ twoPow 53 := by
  intro hexact
  have hnear := @two_mul_roundHalfEven_le num (den * twoPow 2045)
    (Nat.mul_pos hden (twoPow_pos 2045))
  rw [hexact] at hnear
  have hmiddle : 2 * (twoPow 53 * (den * twoPow 2045)) = 2 * (den * ceiling) + den * twoPow 2045 :=
    calc 2 * (twoPow 53 * (den * twoPow 2045))
        = den * (2 * (twoPow 53 * twoPow 2045)) := by ring
      _ = den * (2 * ceiling + twoPow 2045) := by rw [two_mul_ceiling]
      _ = 2 * (den * ceiling) + den * twoPow 2045 := by ring
  omega

/-- Below the middle behind the greatest float there is a float. -/
theorem ofRatio?_isSome (negative : Bool) {num den : Nat} (hden : 0 < den)
    (h : num * scale < den * ceiling) : (ofRatio? negative num den).isSome = true := by
  unfold ofRatio?
  dsimp only
  have hlog : (num * scale / den).log2 ≤ 2097 := by
    refine log2_le_of_lt_ceiling ?_
    rw [Nat.div_lt_iff_lt_mul hden, Nat.mul_comm ceiling den]
    exact h
  obtain ⟨hfull, hnormal⟩ := quotient_bounds (num * scale / den)
  generalize hunit : (num * scale / den).log2 - 52 = unit at *
  have hround := @roundHalfEven_le (num * scale) (den * twoPow unit)
  have hfloor := @div_le_roundHalfEven (num * scale) (den * twoPow unit)
  rw [← Nat.div_div_eq_div_mul] at hround hfloor
  split
  · next hlt =>
    refine pack?_isSome ⟨hlt, ?_, by omega⟩
    rcases hnormal with hnormal | hzero
    · exact .inl (hnormal.trans hfloor)
    · exact .inr hzero
  · next hge =>
    -- the significand has been rounded up to the next power of two
    have hexact : roundHalfEven (num * scale) (den * twoPow unit) = twoPow 53 := by omega
    have hless : unit ≠ 2045 := by
      rintro rfl
      exact roundHalfEven_ne_of_lt_ceiling hden h hexact
    rw [hexact]
    exact pack?_isSome ⟨by decide, .inl (by decide), by omega⟩

/-- The magnitude of a rounded ratio, whether its significand fits or is halved. -/
theorem magnitude_eq {negative : Bool} {num den : Nat} {x : Binary64}
    (h : ofRatio? negative num den = some x) :
    x.magnitude = roundHalfEven (num * scale) (den * twoPow ((num * scale / den).log2 - 52))
      * twoPow ((num * scale / den).log2 - 52) := by
  unfold ofRatio? at h
  dsimp only at h
  obtain ⟨hfull, -⟩ := quotient_bounds (num * scale / den)
  generalize (num * scale / den).log2 - 52 = unit at *
  have hround := @roundHalfEven_le (num * scale) (den * twoPow unit)
  rw [← Nat.div_div_eq_div_mul] at hround
  split at h
  · exact magnitude_pack? h
  · have hexact : roundHalfEven (num * scale) (den * twoPow unit) = twoPow 53 := by omega
    have hhalf : twoPow 53 / 2 * 2 = twoPow 53 := by decide
    rw [magnitude_pack? h, hexact, twoPow_succ unit, Nat.mul_comm (twoPow unit) 2,
      ← Nat.mul_assoc, hhalf]

/-- A rounding adds at most one part in `2 ^ 53`, unless the result is subnormal. -/
theorem magnitude_ofRatio? {negative : Bool} {num den : Nat} {x : Binary64} (hden : 0 < den)
    (h : ofRatio? negative num den = some x)
    (hnormal : num = 0 ∨ twoPow 52 ≤ num * scale / den) :
    x.magnitude * den * twoPow 53 ≤ num * scale * (twoPow 53 + 1) := by
  rw [magnitude_eq h]
  rcases hnormal with rfl | hnormal
  · rw [Nat.zero_mul, Nat.zero_div]
    simp [roundHalfEven, hden]
  obtain ⟨-, hunit⟩ := quotient_bounds (num * scale / den)
  generalize (num * scale / den).log2 - 52 = unit at *
  have hnear := @two_mul_roundHalfEven_le (num * scale) (den * twoPow unit)
    (Nat.mul_pos hden (twoPow_pos unit))
  -- one unit is at most the part of the ratio that a last digit stands for
  have hpart : twoPow 52 * (den * twoPow unit) ≤ num * scale := by
    have hfull : twoPow 52 ≤ num * scale / den / twoPow unit := by
      rcases hunit with hunit | rfl
      · exact hunit
      · rw [twoPow_zero, Nat.div_one]
        exact hnormal
    rw [Nat.div_div_eq_div_mul, Nat.le_div_iff_mul_le (Nat.mul_pos hden (twoPow_pos unit))] at hfull
    exact hfull
  have hdouble : twoPow 53 = twoPow 52 * 2 := twoPow_succ 52
  rw [hdouble]
  generalize twoPow 52 = digits at *
  generalize roundHalfEven (num * scale) (den * twoPow unit) = rounded at *
  generalize num * scale = scaled at *
  calc rounded * twoPow unit * den * (digits * 2)
      = digits * (2 * (rounded * (den * twoPow unit))) := by ring
    _ ≤ digits * (2 * scaled + den * twoPow unit) := Nat.mul_le_mul_left digits hnear
    _ = scaled * (digits * 2) + digits * (den * twoPow unit) := by ring
    _ ≤ scaled * (digits * 2) + scaled := Nat.add_le_add_left hpart _
    _ = scaled * (digits * 2 + 1) := by ring

/-- A ratio that is not below one has a float that is not below one. -/
theorem scale_le_magnitude {negative : Bool} {num den : Nat} {x : Binary64} (hden : 0 < den)
    (h : ofRatio? negative num den = some x) (hone : den ≤ num) : scale ≤ x.magnitude := by
  have hquotient : scale ≤ num * scale / den := by
    rw [Nat.le_div_iff_mul_le hden, Nat.mul_comm scale den]
    exact Nat.mul_le_mul_right scale hone
  rw [magnitude_eq h]
  -- a quotient of one or more needs all digits
  have hlog : 1074 ≤ (num * scale / den).log2 := by
    have hscale : 0 < scale := twoPow_pos 1074
    have hpos : num * scale / den ≠ 0 := (hscale.trans_le hquotient).ne'
    exact le_log2 hpos hquotient
  obtain ⟨-, hunit⟩ := quotient_bounds (num * scale / den)
  have hfloor := @div_le_roundHalfEven (num * scale)
    (den * twoPow ((num * scale / den).log2 - 52))
  rw [← Nat.div_div_eq_div_mul] at hfloor
  have hfull : twoPow 52 ≤ roundHalfEven (num * scale)
      (den * twoPow ((num * scale / den).log2 - 52)) := by
    rcases hunit with hunit | hzero
    · exact hunit.trans hfloor
    · omega
  calc scale ≤ twoPow (52 + ((num * scale / den).log2 - 52)) := twoPow_le (by omega)
    _ = twoPow 52 * twoPow ((num * scale / den).log2 - 52) := twoPow_add 52 _
    _ ≤ _ := Nat.mul_le_mul_right _ hfull

end Binary64

end VolumeBroker
