import VolumeBroker.Proofs.Number.Range
import VolumeBroker.Proofs.Json.Text
/-!
# Floats that are printed and read again

The decimal of a float lies in the interval of reals that round to the float, so it is never above
that interval (`Decimal.AtMost`), and the reader computes a float from it in two roundings. Each of
them goes up by a factor of `1 + 2 ^ -53` at most, which stays below the middle behind the greatest
float for all floats but the two greatest ones; those are computed. So whatever float is printed, its
text has a value: `Number.readable_of_inRange`. It need not be the float that was printed.
-/

namespace VolumeBroker

open Binary64 (scale ceiling)

/-! ### Bounds on decimals -/

namespace Decimal

/-- A decimal is at most a ratio, both sides without negative powers of ten. -/
def AtMost (d : Decimal) (num den : Nat) : Prop :=
  d.digits * tenPow d.exponent.toNat * den ≤ num * tenPow (-d.exponent).toNat

/-- A last digit zero goes into the exponent. -/
theorem AtMost.shift {digits num den : Nat} {e : Int} (h : AtMost ⟨digits * 10, e⟩ num den) :
    AtMost ⟨digits, e + 1⟩ num den := by
  unfold AtMost at h ⊢
  dsimp only at h ⊢
  rcases lt_or_ge e 0 with hneg | hnonneg
  · -- both sides lose a factor of ten
    have hsplit : (-e).toNat = (-(e + 1)).toNat + 1 := by omega
    have hzero : e.toNat = 0 ∧ (e + 1).toNat = 0 := by omega
    rw [hsplit, hzero.1, tenPow_succ, tenPow_zero, ← Nat.mul_assoc] at h
    rw [hzero.2, tenPow_zero]
    refine Nat.le_of_mul_le_mul_right ?_ (show 0 < 10 by decide)
    rw [Nat.mul_one, Nat.mul_right_comm]
    rw [Nat.mul_one] at h
    exact h
  · -- the factor moves from the digits to the power
    have hsplit : (e + 1).toNat = e.toNat + 1 := by omega
    have hzero : (-e).toNat = 0 ∧ (-(e + 1)).toNat = 0 := by omega
    rw [hzero.1] at h
    rw [hsplit, hzero.2, tenPow_succ, ← Nat.mul_assoc, Nat.mul_right_comm digits]
    exact h

/-- Dropping trailing zeros of the digits changes neither that they are there nor their bound. -/
theorem atMost_trim {num den fuel : Nat} {d : Decimal} (hne : d.digits ≠ 0)
    (h : d.AtMost num den) : (d.trim fuel).digits ≠ 0 ∧ (d.trim fuel).AtMost num den := by
  induction fuel generalizing d with
  | zero => exact ⟨hne, h⟩
  | succ fuel ih =>
    rw [trim]
    split
    · next htrim =>
      have hdigits : d.digits / 10 * 10 = d.digits := by omega
      have hshift : AtMost ⟨d.digits / 10, d.exponent + 1⟩ num den :=
        AtMost.shift (by rw [hdigits]; exact h)
      exact ih (show d.digits / 10 ≠ 0 by omega) hshift
    · exact ⟨hne, h⟩

/-- The bound goes over to the leading digits of a decimal, up to its point. -/
theorem AtMost.leading {d : Decimal} {num den m u : Nat} {q : Int} (h : d.AtMost num den)
    (hm : m * tenPow u ≤ d.digits) (hq : q = d.exponent + u) (hnonneg : 0 ≤ q) :
    m * tenPow q.toNat * den ≤ num := by
  -- both sides are brought to whole numbers by the same power of ten
  have hpower : u + d.exponent.toNat = q.toNat + (-d.exponent).toNat := by omega
  have hscaled : tenPow u * tenPow d.exponent.toNat
      = tenPow q.toNat * tenPow (-d.exponent).toNat := by
    rw [← tenPow_add, hpower, tenPow_add]
  refine Nat.le_of_mul_le_mul_right ?_ (tenPow_pos (-d.exponent).toNat)
  calc m * tenPow q.toNat * den * tenPow (-d.exponent).toNat
      = m * (tenPow q.toNat * tenPow (-d.exponent).toNat) * den := by ring
    _ = m * tenPow u * tenPow d.exponent.toNat * den := by rw [← hscaled]; ring
    _ ≤ d.digits * tenPow d.exponent.toNat * den :=
      Nat.mul_le_mul_right den (Nat.mul_le_mul_right _ hm)
    _ ≤ num * tenPow (-d.exponent).toNat := h

end Decimal

/-! ### The decimal of a float -/

namespace Binary64

theorem Interval.nearest?_contains {i : Interval} {exponent : Int} {d : Decimal}
    (h : i.nearest? exponent = some d) :
    d.exponent = exponent ∧
      i.contains (d.digits * tenPow exponent.toNat) (tenPow (-exponent).toNat) = true := by
  unfold nearest? at h
  dsimp only at h
  generalize i.exact * tenPow (-exponent).toNat / (i.den * tenPow exponent.toNat) = lower at h
  -- the neighbours below and above are candidates if the interval contains them
  split at h
  · next hboth =>
    split at h
    · rw [← Option.some.inj h]
      exact ⟨rfl, hboth.1⟩
    split at h
    · rw [← Option.some.inj h]
      exact ⟨rfl, hboth.2⟩
    · -- the even one of both neighbours
      rw [← Option.some.inj h]
      refine ⟨rfl, ?_⟩
      rcases Nat.mod_two_eq_zero_or_one lower with hparity | hparity
      · show i.contains ((lower + lower % 2) * tenPow exponent.toNat) _ = true
        rw [hparity]
        exact hboth.1
      · show i.contains ((lower + lower % 2) * tenPow exponent.toNat) _ = true
        rw [hparity]
        exact hboth.2
  split at h
  · next hlower =>
    rw [← Option.some.inj h]
    exact ⟨rfl, hlower⟩
  split at h
  · next hupper =>
    rw [← Option.some.inj h]
    exact ⟨rfl, hupper⟩
  · cases h

theorem Interval.contains_bounds {i : Interval} {num den : Nat} (h : i.contains num den = true) :
    i.low * den ≤ num * i.den ∧ num * i.den ≤ i.high * den := by
  unfold contains at h
  dsimp only at h
  split at h
  · exact of_decide_eq_true h
  · have hstrict := of_decide_eq_true h
    exact ⟨hstrict.1.le, hstrict.2.le⟩

/-- The numerator of the upper end of a float's interval. -/
def upperEnd (x : Binary64) : Nat := (4 * x.significand + 2) * twoPow x.unit

/-- The decimal of a float has digits and is not above the float's interval; only if there were none
in the interval it would be zero. -/
theorem shortest_atMost (x : Binary64) (hzero : x.isZero = false) :
    x.shortest = ⟨0, 0⟩ ∨
      x.shortest.digits ≠ 0 ∧ x.shortest.AtMost x.upperEnd (4 * scale) := by
  unfold shortest
  rw [hzero]
  dsimp only
  rw [if_neg (by decide)]
  rcases hfound : (List.range 17).findSome? fun n =>
      x.interval.nearest? (x.interval.pointPosition - (n + 1 : Nat)) with _ | d
  · exact .inl rfl
  · right
    obtain ⟨n, -, hn⟩ := List.exists_of_findSome?_eq_some hfound
    obtain ⟨hexponent, hcontains⟩ := Interval.nearest?_contains hn
    rw [← hexponent] at hcontains
    obtain ⟨hlow, hhigh⟩ := Interval.contains_bounds hcontains
    refine Decimal.atMost_trim ?_ hhigh
    -- the lower end of the interval of a float that is not zero is not zero
    intro hdigits
    change d.digits = 0 at hdigits
    have hpositive : 0 < x.interval.low := by
      have hsignificand : x.significand ≠ 0 := by
        intro h
        rw [isZero, h] at hzero
        cases hzero
      refine Nat.mul_pos ?_ (twoPow_pos x.unit)
      split <;> omega
    rw [hdigits, Nat.zero_mul, Nat.zero_mul] at hlow
    have := Nat.mul_pos hpositive (tenPow_pos (-d.exponent).toNat)
    omega

end Binary64

/-! ### Reading a decimal -/

namespace Numeral

/-- Digits behind a number are at least so many zeros behind it. -/
theorem mul_tenPow_le_foldl (s : Nat) (digits : List Nat) :
    s * tenPow digits.length ≤ digits.foldl (fun n digit => n * 10 + digit) s := by
  induction digits generalizing s with
  | nil => simp
  | cons d digits ih =>
    calc s * tenPow (digits.length + 1)
        = s * 10 * tenPow digits.length := by rw [tenPow_succ]; ring
      _ ≤ (s * 10 + d) * tenPow digits.length := Nat.mul_le_mul_right _ (Nat.le_add_right _ _)
      _ ≤ _ := ih (s * 10 + d)

theorem foldl_lt {digits : List Nat} (hten : ∀ d ∈ digits, d < 10) (s : Nat) :
    digits.foldl (fun n digit => n * 10 + digit) s < (s + 1) * tenPow digits.length := by
  induction digits generalizing s with
  | nil => simp
  | cons d digits ih =>
    have hd : d < 10 := hten d List.mem_cons_self
    calc digits.foldl (fun n digit => n * 10 + digit) (s * 10 + d)
        < (s * 10 + d + 1) * tenPow digits.length :=
          ih (fun e he => hten e (List.mem_cons_of_mem _ he)) _
      _ ≤ ((s + 1) * 10) * tenPow digits.length := Nat.mul_le_mul_right _ (by omega)
      _ = (s + 1) * tenPow (digits.length + 1) := by rw [tenPow_succ]; ring

/-- What a significand takes up of the digits is not more than all of them. -/
theorem absorb_le {s : Nat} {digits : List Nat} (hs : s ≤ maxSignificand) :
    (absorb s digits).1 * tenPow (absorb s digits).2.length
        ≤ digits.foldl (fun n digit => n * 10 + digit) s ∧
      s ≤ (absorb s digits).1 ∧ (absorb s digits).1 ≤ maxSignificand ∧
      (absorb s digits).2.length ≤ digits.length := by
  induction digits generalizing s with
  | nil => exact ⟨by simp [absorb], Nat.le_refl s, hs, Nat.le_refl 0⟩
  | cons d digits ih =>
    rw [absorb]
    split
    · next hfits =>
      obtain ⟨hvalue, hgrow, hmax, hlength⟩ := ih hfits
      exact ⟨hvalue, by omega, hmax, Nat.le_succ_of_le hlength⟩
    · exact ⟨mul_tenPow_le_foldl s (d :: digits), Nat.le_refl s, hs, Nat.le_refl _⟩

theorem exponentOf?_digitsOf {n : Nat} (h : n ≤ maxExponent) : exponentOf? (digitsOf n) = some n := by
  induction n using Nat.strongRecOn with
  | ind n ih =>
    by_cases hten : n < 10
    · rw [digitsOf_of_lt hten]
      show (if 0 * 10 + n ≤ maxExponent then some (0 * 10 + n) else none) = some n
      rw [Nat.zero_mul, Nat.zero_add, if_pos h]
    · have htens := ih (n / 10) (by omega) (by omega)
      have hsplit : n / 10 * 10 + n % 10 = n := by omega
      rw [digitsOf_of_le (by omega)]
      unfold exponentOf? at htens ⊢
      rw [List.foldl_append, htens, List.foldl_cons, List.foldl_nil]
      dsimp only [Option.bind_some]
      rw [hsplit, if_pos h]

/-- Powers of ten up to `10 ^ 308` have a float. -/
theorem tenPow?_isSome {k : Nat} (h : k ≤ 308) : ∃ y, Binary64.tenPow? k = some y := by
  refine Option.isSome_iff_exists.1 (Binary64.ofRatio?_isSome false Nat.one_pos ?_)
  have hmost : tenPow 308 * scale < ceiling := by decide +kernel
  rw [Nat.one_mul]
  exact (Nat.mul_le_mul_right scale (tenPow_le h)).trans_lt hmost

theorem scale_le_tenPow? {k : Nat} {y : Binary64} (h : Binary64.tenPow? k = some y) :
    scale ≤ y.magnitude := Binary64.scale_le_magnitude Nat.one_pos h (tenPow_pos k)

/-- A quotient by a power of ten stays in range. -/
theorem div?_isSome (x : Binary64) {y : Binary64} (h : scale ≤ y.magnitude) :
    ∃ z, x.div? y = some z := by
  have hscale : 0 < scale := twoPow_pos 1074
  refine Option.isSome_iff_exists.1 (Binary64.ofRatio?_isSome _ (hscale.trans_le h) ?_)
  calc x.magnitude * scale
      < ceiling * scale := Nat.mul_lt_mul_of_pos_right x.magnitude_lt_ceiling hscale
    _ = scale * ceiling := Nat.mul_comm ceiling scale
    _ ≤ y.magnitude * ceiling := Nat.mul_le_mul_right ceiling h

/-- Dividing by ten never leaves the range. -/
theorem divideTens_isSome (fuel : Nat) (x : Binary64) (tens : Nat) :
    (divideTens fuel x tens).isSome = true := by
  induction fuel generalizing x tens with
  | zero => rfl
  | succ fuel ih =>
    rw [divideTens]
    split
    · next hlast =>
      obtain ⟨y, hy⟩ := tenPow?_isSome hlast
      obtain ⟨z, hz⟩ := div?_isSome x (scale_le_tenPow? hy)
      rw [hy, Option.bind_some, hz]
      rfl
    split
    · rfl
    · obtain ⟨y, hy⟩ := tenPow?_isSome (Nat.le_refl 308)
      obtain ⟨z, hz⟩ := div?_isSome x (scale_le_tenPow? hy)
      rw [hy, Option.bind_some, hz]
      exact ih z (tens - 308)

/-- The range of two roundings: what a value may be before either of them. -/
def Fits (value : Nat) : Prop := value * scale * (twoPow 53 + 1) ^ 2 < ceiling * twoPow 106

theorem Fits.lt_ceiling {value : Nat} (h : Fits value) : value * scale < ceiling := by
  have hroundings : twoPow 106 ≤ (twoPow 53 + 1) ^ 2 := by decide
  have hpos : 0 < twoPow 106 := twoPow_pos 106
  unfold Fits at h
  refine Nat.lt_of_mul_lt_mul_right (a := twoPow 106) ?_
  exact (Nat.mul_le_mul_left (value * scale) hroundings).trans_lt h

theorem Fits.mono {m n : Nat} (h : Fits n) (hle : m ≤ n) : Fits m :=
  (Nat.mul_le_mul_right _ (Nat.mul_le_mul_right scale hle)).trans_lt h

/-- The float of a natural number is above it by one rounding at most. -/
theorem magnitude_ofNat? {n : Nat} {x : Binary64} (h : Binary64.ofNat? n = some x) :
    x.magnitude * twoPow 53 ≤ n * scale * (twoPow 53 + 1) := by
  have hrounded := Binary64.magnitude_ofRatio? Nat.one_pos h
  rw [Nat.mul_one, Nat.div_one] at hrounded
  refine hrounded ?_
  -- a natural number is not subnormal
  rcases Nat.eq_zero_or_pos n with hzero | hpos
  · exact .inl hzero
  · exact .inr ((twoPow_le (by decide)).trans (Nat.le_mul_of_pos_left scale hpos))

/-- A significand and its power of ten give a float when their product fits. -/
theorem scaled?_isSome {significand : Nat} {exponent : Int} (hexponent : exponent ≤ 308)
    (h : Fits (significand * tenPow exponent.toNat)) :
    (scaled? significand exponent).isSome = true := by
  have hsignificand : Fits significand :=
    h.mono (Nat.le_mul_of_pos_right significand (tenPow_pos _))
  obtain ⟨x, hx⟩ : ∃ x, Binary64.ofNat? significand = some x := by
    refine Option.isSome_iff_exists.1 (Binary64.ofRatio?_isSome false Nat.one_pos ?_)
    rw [Nat.one_mul]
    exact hsignificand.lt_ceiling
  unfold scaled?
  rw [hx, Option.bind_some]
  -- a negative power is divided away, which lowers the value
  by_cases hneg : exponent < 0
  · rw [if_pos hneg]
    exact divideTens_isSome 4 x _
  rw [if_neg hneg, if_pos hexponent]
  obtain ⟨y, hy⟩ : ∃ y, Binary64.tenPow? exponent.toNat = some y := tenPow?_isSome (by omega)
  rw [hy, Option.bind_some]
  -- two roundings have gone up before the product is rounded
  have hx' := magnitude_ofNat? hx
  have hy' := magnitude_ofNat? hy
  have hscale : 0 < scale := twoPow_pos 1074
  have hpower : twoPow 106 = twoPow 53 * twoPow 53 := twoPow_add 53 53
  have hproduct : x.magnitude * y.magnitude < scale * ceiling := by
    refine Nat.lt_of_mul_lt_mul_right (a := twoPow 106) ?_
    unfold Fits at h
    rw [hpower] at h ⊢
    generalize twoPow 53 = full at *
    generalize ceiling = most at *
    calc x.magnitude * y.magnitude * (full * full)
        = x.magnitude * full * (y.magnitude * full) := by ring
      _ ≤ significand * scale * (full + 1) * (tenPow exponent.toNat * scale * (full + 1)) :=
        Nat.mul_le_mul hx' hy'
      _ = scale * (significand * tenPow exponent.toNat * scale * (full + 1) ^ 2) := by ring
      _ < scale * (most * (full * full)) := Nat.mul_lt_mul_of_pos_left h hscale
      _ = scale * most * (full * full) := (Nat.mul_assoc _ _ _).symm
  refine Binary64.ofRatio?_isSome _ (Nat.mul_pos hscale hscale) ?_
  calc x.magnitude * y.magnitude * scale
      < scale * ceiling * scale := Nat.mul_lt_mul_of_pos_right hproduct hscale
    _ = scale * scale * ceiling := Nat.mul_right_comm _ _ _

theorem fits_of_le_max {significand : Nat} (h : significand ≤ maxSignificand) : Fits significand :=
  Fits.mono (n := maxSignificand) (by unfold Fits; decide +kernel) h

theorem scaled?_of_nonpos {significand : Nat} {exponent : Int} (h : significand ≤ maxSignificand)
    (hexponent : exponent ≤ 0) : (scaled? significand exponent).isSome = true := by
  refine scaled?_isSome (by omega) ?_
  rw [Int.toNat_of_nonpos hexponent, tenPow_zero, Nat.mul_one]
  exact fits_of_le_max h

/-- Whoever fits has at most 309 digits. -/
theorem Fits.le_of_tenPow {k : Nat} (h : Fits (tenPow k)) : k ≤ 308 := by
  by_contra hlarge
  have hmost : ceiling ≤ tenPow 309 * scale := by decide +kernel
  have hpower : tenPow 309 * scale ≤ tenPow k * scale :=
    Nat.mul_le_mul_right scale (tenPow_le (by omega))
  exact absurd h.lt_ceiling (Nat.not_lt.2 (hmost.trans hpower))

theorem absorb_of_length {digits : List Nat} (hten : ∀ d ∈ digits, d < 10)
    (hlength : digits.length ≤ 16) : (absorb 0 digits).2 = [] := by
  have hvalue := foldl_lt hten 0
  have hpower : (0 + 1) * tenPow digits.length ≤ 1 * tenPow 16 :=
    Nat.mul_le_mul_left 1 (tenPow_le hlength)
  have hmax : 1 * tenPow 16 ≤ maxSignificand := by decide
  rw [absorb_eq (by omega)]

/-- A numeral without exponent has a float, whatever stands behind its point. -/
theorem real?_of_pointed {n : Numeral} (hexponent : n.exponent = none)
    (hten : ∀ d ∈ n.whole, d < 10) (hlength : n.whole.length ≤ 16) : n.real?.isSome = true := by
  have hdropped := absorb_of_length hten hlength
  have hwhole : (absorb 0 n.whole).1 ≤ maxSignificand := (absorb_le (Nat.zero_le _)).2.2.1
  have hsignificand := (@absorb_le _ (n.fraction.getD []) hwhole).2.2.1
  unfold real?
  dsimp only
  rw [Option.isSome_map, hexponent, hdropped]
  -- digits behind the point only lower the exponent
  refine scaled?_of_nonpos hsignificand ?_
  simp

/-- All that a reader takes up of the leading digits of a decimal stays in range. -/
def Modest (d : Decimal) : Prop :=
  ∀ m u (q : Int), m * tenPow u ≤ d.digits → q = d.exponent + u → 0 ≤ q → Fits (m * tenPow q.toNat)

theorem modest_of_atMost {d : Decimal} {bound : Nat} (h : d.AtMost bound (4 * scale))
    (hbound : bound * (twoPow 53 + 1) ^ 2 < ceiling * twoPow 108) : Modest d := by
  intro m u q hm hq hnonneg
  have hvalue := h.leading hm hq hnonneg
  have hpower : twoPow 108 = twoPow 106 * 4 := by decide
  rw [hpower] at hbound
  unfold Fits
  generalize m * tenPow q.toNat = value at *
  generalize (twoPow 53 + 1) ^ 2 = roundings at *
  generalize twoPow 106 = full at *
  -- the bound is given in quarters of a unit
  refine Nat.lt_of_mul_lt_mul_right (a := 4) ?_
  calc value * scale * roundings * 4
      = value * (4 * scale) * roundings := by ring
    _ ≤ bound * roundings := Nat.mul_le_mul_right roundings hvalue
    _ < ceiling * (full * 4) := hbound
    _ = ceiling * full * 4 := (Nat.mul_assoc _ _ _).symm

/-- The power of ten of the first digit is within the table. -/
theorem Modest.power_le {d : Decimal} (h : Modest d) {k : Nat} (hone : tenPow k ≤ d.digits)
    {power : Int} (hpower : power = k + d.exponent) (hnonneg : 0 ≤ power) : power.toNat ≤ 308 := by
  rw [← Nat.one_mul (tenPow k)] at hone
  have hfits := h 1 k power hone (by omega) hnonneg
  rw [Nat.one_mul] at hfits
  exact hfits.le_of_tenPow

theorem absorb_singleton {d : Nat} (h : d < 10) : absorb 0 [d] = (d, []) := by
  have hvalue : [d].foldl (fun n digit => n * 10 + digit) 0 = d := by simp
  have hmax : 10 ≤ maxSignificand := by decide
  rw [absorb_eq (by omega), hvalue]

theorem foldl_of_digitsOf {n first : Nat} {rest : List Nat} (h : digitsOf n = first :: rest) :
    rest.foldl (fun n digit => n * 10 + digit) first = n := by
  have hvalue := digitsValue_digitsOf n
  rw [h] at hvalue
  simpa [digitsValue] using hvalue

/-- With an exponent behind its digits a decimal has a float. -/
theorem real?_of_powered {negative : Bool} {d : Decimal} (hmodest : Modest d) {first : Nat}
    {rest : List Nat} (hdigits : digitsOf d.digits = first :: rest) (hfirst : first ≠ 0)
    {fraction : Option (List Nat)} (hfraction : fraction.getD [] = rest) {power : Int}
    (hpower : power = rest.length + d.exponent) :
    (Numeral.real? ⟨negative, [first], fraction, some (power < 0, digitsOf power.natAbs)⟩).isSome
      = true := by
  have hten : first < 10 := digitsOf_lt_ten d.digits first (hdigits ▸ List.mem_cons_self)
  have hfits : first ≤ maxSignificand := hten.le.trans (by decide)
  have hall := foldl_of_digitsOf hdigits
  -- the first digit alone is not above the decimal
  have hone : tenPow rest.length ≤ d.digits := by
    rw [← hall]
    exact (Nat.le_mul_of_pos_left _ (by omega)).trans (mul_tenPow_le_foldl first rest)
  obtain ⟨hvalue, hgrow, hmax, hlength⟩ := @absorb_le first rest hfits
  rw [hall] at hvalue
  unfold real?
  dsimp only
  rw [Option.isSome_map, absorb_singleton hten, hfraction]
  dsimp only
  generalize (absorb first rest).1 = significand at *
  generalize (absorb first rest).2.length = left at *
  by_cases hdown : power < 0
  · -- an exponent that is too long means zero
    rw [decide_eq_true hdown]
    split
    · exact scaled?_of_nonpos hmax (by simp)
    · simp
  · have hhigh := hmodest.power_le hone hpower (Int.not_lt.1 hdown)
    have hsmall : power.natAbs ≤ maxExponent := by
      have : 308 ≤ maxExponent := by decide
      omega
    rw [exponentOf?_digitsOf hsmall, decide_eq_false hdown]
    simp only [Bool.false_eq_true, if_false, List.length_nil]
    rcases Int.le_total (((0 : Nat) : Int) - ((rest.length - left : Nat) : Int) + power.natAbs) 0
      with hnonpos | hnonneg
    · exact scaled?_of_nonpos hmax hnonpos
    · -- the power that is left is one of the digits taken up
      have hproduct := hmodest significand left _ hvalue (by omega) hnonneg
      refine scaled?_isSome ?_ hproduct
      have := (hproduct.mono (Nat.le_mul_of_pos_left _ (by omega))).le_of_tenPow
      omega

/-- A numeral with a point or an exponent stands for a float. -/
theorem value?_of_real? {n : Numeral} (hreal : n.fraction.isSome ∨ n.exponent.isSome)
    (h : n.real?.isSome = true) : n.value?.isSome = true := by
  unfold value?
  dsimp only
  rw [if_pos hreal, Option.isSome_map]
  exact h

/-- The numeral of a decimal has a value. -/
theorem value?_ofDecimal (negative : Bool) {d : Decimal} (hne : d.digits ≠ 0) (h : Modest d) :
    (ofDecimal negative d).value?.isSome = true := by
  have hten := digitsOf_lt_ten d.digits
  unfold ofDecimal
  dsimp only
  split
  · -- an integer with zeros behind its digits
    refine value?_of_real? (.inl rfl) (real?_of_pointed rfl (fun e he => ?_) ?_)
    · rcases List.mem_append.1 he with he | he
      · exact hten e he
      · rw [(List.mem_replicate.1 he).2]
        decide
    · rw [List.length_append, List.length_replicate]
      omega
  split
  · refine value?_of_real? (.inl rfl) (real?_of_pointed rfl (fun e he => ?_) ?_)
    · exact hten e (List.mem_of_mem_take he)
    · rw [List.length_take]
      omega
  split
  · -- zeros stand between the point and the digits
    refine value?_of_real? (.inl rfl) (real?_of_pointed rfl (fun e he => ?_) (by simp))
    rw [List.mem_singleton.1 he]
    decide
  · rcases digitsOf_head d.digits with hzero | ⟨first, rest, heq, hfirst⟩
    · have hvalue := digitsValue_digitsOf d.digits
      rw [hzero] at hvalue
      exact absurd hvalue.symm hne
    · rw [heq, List.take_succ_cons, List.take_zero, List.drop_succ_cons, List.drop_zero]
      refine value?_of_real? (.inr rfl) (real?_of_powered h heq hfirst ?_ ?_)
      · cases rest with
        | nil => rfl
        | cons second rest => simp
      · rw [List.length_cons]
        omega

end Numeral

/-! ### Every printed float -/

namespace Binary64

/-- All floats but the two greatest magnitudes leave room for two roundings. -/
theorem upperEnd_lt (x : Binary64) (h : x.unit ≠ 2045 ∨ x.significand < twoPow 53 - 2) :
    x.upperEnd * (twoPow 53 + 1) ^ 2 < ceiling * twoPow 108 := by
  obtain ⟨hsignificand, -, hunit⟩ := x.valid
  have hdouble : twoPow 2045 = twoPow 2044 * 2 := twoPow_succ 2044
  have hpos : 0 < twoPow 2044 := twoPow_pos 2044
  have hend : (4 * x.significand + 2) * twoPow x.unit
      ≤ (8 * (twoPow 53 - 3) + 4) * twoPow 2044 := by
    -- in the greatest binade the two greatest significands are left out
    by_cases htop : x.unit = 2045
    · have hless : x.significand ≤ twoPow 53 - 3 := by omega
      rw [htop, hdouble]
      calc (4 * x.significand + 2) * (twoPow 2044 * 2)
          = (8 * x.significand + 4) * twoPow 2044 := by ring
        _ ≤ _ := Nat.mul_le_mul_right _ (by omega)
    · have hless : 4 * x.significand + 2 ≤ 8 * (twoPow 53 - 3) + 4 := by
        have : 6 ≤ twoPow 53 := by decide
        omega
      exact Nat.mul_le_mul hless (twoPow_le (by omega))
  have hroom : (8 * (twoPow 53 - 3) + 4) * (twoPow 53 + 1) ^ 2 < (twoPow 54 - 1) * twoPow 108 := by
    decide
  unfold upperEnd ceiling
  generalize twoPow 2044 = power at *
  generalize (twoPow 53 + 1) ^ 2 = roundings at *
  generalize 8 * (twoPow 53 - 3) + 4 = most at *
  calc (4 * x.significand + 2) * twoPow x.unit * roundings
      ≤ most * power * roundings := Nat.mul_le_mul_right roundings hend
    _ = most * roundings * power := Nat.mul_right_comm _ _ _
    _ < (twoPow 54 - 1) * twoPow 108 * power := Nat.mul_lt_mul_of_pos_right hroom hpos
    _ = (twoPow 54 - 1) * power * twoPow 108 := Nat.mul_right_comm _ _ _

/-- The text of every float has a value. -/
theorem value?_ofBinary64 (x : Binary64) : (Numeral.ofBinary64 x).value?.isSome = true := by
  unfold Numeral.ofBinary64
  split
  · cases x.negative <;> decide +kernel
  · next hzero =>
    -- the decimal is zero only if none has been found, and then its text is that of a zero
    rcases x.shortest_atMost (by simpa using hzero) with hnone | ⟨hne, hmost⟩
    · rw [hnone]
      cases x.negative <;> decide +kernel
    by_cases hroom : x.unit ≠ 2045 ∨ x.significand < twoPow 53 - 2
    · exact Numeral.value?_ofDecimal _ hne (Numeral.modest_of_atMost hmost (x.upperEnd_lt hroom))
    · -- the two greatest magnitudes are computed
      obtain ⟨negative, significand, unit, hvalid⟩ := x
      dsimp only at hroom
      have hunit : unit = 2045 := by omega
      have hpower : 2 ≤ twoPow 53 := by decide
      have hsignificand : significand = twoPow 53 - 1 ∨ significand = twoPow 53 - 2 := by omega
      subst hunit
      clear hzero hne hmost hroom
      rcases hsignificand with rfl | rfl <;>
        (revert hvalid; cases negative <;> decide +kernel)

end Binary64

/-- Every number within its range is printed as a text that can be read. -/
theorem Number.readable_of_inRange {n : Number} (h : n.InRange) : n.Readable := by
  cases n with
  | int value =>
    refine ⟨Numeral.wellFormed_ofInt value, ?_⟩
    rw [Number.reread_int h]
    exact Numeral.value?_ofInt h.1 h.2
  | real x =>
    refine ⟨?_, ?_⟩
    · show (Numeral.ofBinary64 x).WellFormed
      unfold Numeral.ofBinary64
      split
      · exact ⟨by simp, .inl rfl, by simp, by simp⟩
      · next hzero =>
        refine Numeral.wellFormed_ofDecimal _ fun hdigits => ?_
        rcases x.shortest_atMost (by simpa using hzero) with hnone | ⟨hne, -⟩
        · rw [hnone]
        · exact absurd hdigits hne
    · obtain ⟨value, hvalue⟩ := Option.isSome_iff_exists.1 (Binary64.value?_ofBinary64 x)
      show (Numeral.ofBinary64 x).value? = some ((Numeral.ofBinary64 x).value?.getD (.real x))
      rw [hvalue]
      rfl

end VolumeBroker
