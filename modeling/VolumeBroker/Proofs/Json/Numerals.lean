import VolumeBroker.Json.Printer
import VolumeBroker.Json.Reader
import Mathlib.Data.List.Basic
/-!
# Number literals in JSON text

A `Numeral` is what the reader takes a number literal apart into; `Numeral.chars` writes it again, and
`Reader.readNumeral_chars` says that the reader finds the same parts behind the characters, provided
that the text behind them does not go on with the literal (`Reader.Ends`). Every number that is
printed is printed as a numeral, `Number.numeral`, and `Number.reread` is the value of that numeral:
the number itself for an integer of 64 bits (`Number.reread_int`), a float for a float.
-/

namespace VolumeBroker

/-! ### Digits -/

/-- The decimal digits of a number, at least one. -/
def digitsOf (n : Nat) : List Nat := (Nat.toDigits 10 n).map fun c => c.toNat - '0'.toNat

/-- Digits as characters. -/
def digitChars (digits : List Nat) : List Char := digits.map Nat.digitChar

/-- The number that digits stand for. -/
def digitsValue (digits : List Nat) : Nat := digits.foldl (fun n digit => n * 10 + digit) 0

theorem digitsOf_of_lt {n : Nat} (h : n < 10) : digitsOf n = [n] := by
  unfold digitsOf
  rw [Nat.toDigits_of_lt_base h, List.map_singleton]
  exact congrArg (· :: []) (Nat.toNat_digitChar_sub_48_of_lt_ten h)

theorem digitsOf_of_le {n : Nat} (h : 10 ≤ n) : digitsOf n = digitsOf (n / 10) ++ [n % 10] := by
  unfold digitsOf
  rw [Nat.toDigits_of_base_le (by decide) h, List.map_append, List.map_singleton]
  exact congrArg (fun d => _ ++ [d])
    (Nat.toNat_digitChar_sub_48_of_lt_ten (Nat.mod_lt n (by decide)))

theorem digitsOf_lt_ten (n : Nat) : ∀ d ∈ digitsOf n, d < 10 := by
  induction n using Nat.strongRecOn with
  | ind n ih =>
    by_cases h : n < 10
    · rw [digitsOf_of_lt h]
      simpa using h
    · rw [digitsOf_of_le (by omega)]
      intro d hd
      rcases List.mem_append.1 hd with hd | hd
      · exact ih (n / 10) (by omega) d hd
      · rw [List.mem_singleton.1 hd]
        omega

theorem digitsOf_ne_nil (n : Nat) : digitsOf n ≠ [] := by
  unfold digitsOf
  rw [ne_eq, List.map_eq_nil_iff]
  exact Nat.toDigits_ne_nil

theorem digitChars_digitsOf (n : Nat) : digitChars (digitsOf n) = Nat.toDigits 10 n := by
  induction n using Nat.strongRecOn with
  | ind n ih =>
    by_cases h : n < 10
    · rw [digitsOf_of_lt h, Nat.toDigits_of_lt_base h]
      rfl
    · have hn : 10 ≤ n := by omega
      rw [digitsOf_of_le hn, Nat.toDigits_of_base_le (by decide) hn, ← ih (n / 10) (by omega)]
      exact List.map_append

theorem digitsValue_digitsOf (n : Nat) : digitsValue (digitsOf n) = n := by
  induction n using Nat.strongRecOn with
  | ind n ih =>
    by_cases h : n < 10
    · rw [digitsOf_of_lt h]
      simp [digitsValue]
    · rw [digitsOf_of_le (by omega)]
      have := ih (n / 10) (by omega)
      unfold digitsValue at this ⊢
      rw [List.foldl_append, this, List.foldl_cons, List.foldl_nil]
      omega

/-- Only the number zero starts with the digit zero. -/
theorem digitsOf_head (n : Nat) :
    digitsOf n = [0] ∨ ∃ first rest, digitsOf n = first :: rest ∧ first ≠ 0 := by
  induction n using Nat.strongRecOn with
  | ind n ih =>
    by_cases h : n < 10
    · rw [digitsOf_of_lt h]
      by_cases hzero : n = 0
      · exact .inl (by rw [hzero])
      · exact .inr ⟨n, [], rfl, hzero⟩
    · rw [digitsOf_of_le (by omega)]
      rcases ih (n / 10) (by omega) with hzero | ⟨first, rest, heq, hne⟩
      · -- the digits before the last one would stand for zero
        have hvalue := digitsValue_digitsOf (n / 10)
        rw [hzero] at hvalue
        simp only [digitsValue, List.foldl_cons, List.foldl_nil] at hvalue
        omega
      · exact .inr ⟨first, rest ++ [n % 10], by rw [heq, List.cons_append], hne⟩

/-! ### Numerals as text -/

namespace Numeral

/-- The characters of a fraction, if there is one. -/
def fractionChars : Option (List Nat) → List Char
  | none => []
  | some digits => '.' :: digitChars digits

/-- The characters of an exponent, if there is one. -/
def exponentChars : Option (Bool × List Nat) → List Char
  | none => []
  | some (true, digits) => 'e' :: '-' :: digitChars digits
  | some (false, digits) => 'e' :: digitChars digits

/-- The characters of a numeral. -/
def chars (n : Numeral) : List Char :=
  (if n.negative then ['-'] else []) ++
    (digitChars n.whole ++ (fractionChars n.fraction ++ exponentChars n.exponent))

/-- The parts of the numeral are there, and are digits. -/
structure WellFormed (n : Numeral) : Prop where
  whole : ∀ d ∈ n.whole, d < 10
  leading : n.whole = [0] ∨ ∃ first rest, n.whole = first :: rest ∧ first ≠ 0
  fraction : ∀ digits, n.fraction = some digits → digits ≠ [] ∧ ∀ d ∈ digits, d < 10
  exponent : ∀ down digits, n.exponent = some (down, digits) → digits ≠ [] ∧ ∀ d ∈ digits, d < 10

end Numeral

namespace Reader

/-- A text that does not go on with a numeral. -/
structure Ends (rest : List Char) : Prop where
  digit : ∀ c tail, rest = c :: tail → isDigit c = false
  point : ∀ tail, rest ≠ '.' :: tail
  exponent : ∀ c tail, rest = c :: tail → ¬(c = 'e' ∨ c = 'E')

theorem isDigit_digitChar {d : Nat} (h : d < 10) : isDigit d.digitChar = true := by
  have : ∀ d : Fin 10, isDigit d.val.digitChar = true := by decide
  exact this ⟨d, h⟩

theorem takeDigits_digitChars {digits : List Nat} (hdigits : ∀ d ∈ digits, d < 10)
    {rest : List Char} (hrest : ∀ c tail, rest = c :: tail → isDigit c = false) :
    takeDigits (digitChars digits ++ rest) = (digits, rest) := by
  induction digits with
  | nil =>
    cases rest with
    | nil => rfl
    | cons c tail =>
      change takeDigits (c :: tail) = _
      -- the text behind the digits stops the reader
      rw [takeDigits, hrest c tail rfl]
      rfl
  | cons d digits ih =>
    have hd : d < 10 := hdigits d List.mem_cons_self
    change takeDigits (d.digitChar :: (digitChars digits ++ rest)) = _
    rw [takeDigits, if_pos (isDigit_digitChar hd),
      ih fun e he => hdigits e (List.mem_cons_of_mem _ he)]
    exact congrArg (fun d => (d :: digits, rest)) (Nat.toNat_digitChar_sub_48_of_lt_ten hd)

/-- Digits do not start with a character that is none. -/
theorem digitChars_append_ne {digits : List Nat} (hne : digits ≠ []) (hten : ∀ d ∈ digits, d < 10)
    {c : Char} (hc : isDigit c = false) {rest tail : List Char} :
    digitChars digits ++ rest ≠ c :: tail := by
  intro h
  obtain ⟨d, others, rfl⟩ := List.exists_cons_of_ne_nil hne
  have hd := isDigit_digitChar (hten d List.mem_cons_self)
  rw [(List.cons.inj h).1, hc] at hd
  cases hd

theorem readExponent_chars (n : Numeral) (hnone : n.exponent = none)
    {exponent : Option (Bool × List Nat)}
    (hdigits : ∀ down digits, exponent = some (down, digits) →
      digits ≠ [] ∧ ∀ d ∈ digits, d < 10)
    {rest : List Char} (hrest : Ends rest) :
    readExponent n (Numeral.exponentChars exponent ++ rest)
      = numeralStep { n with exponent } rest := by
  rcases exponent with _ | ⟨down, digits⟩
  · -- without an exponent the text goes on with no letter for one
    have hn : { n with exponent := none } = n := by rw [← hnone]
    rw [hn]
    cases rest with
    | nil => rfl
    | cons c tail =>
      change readExponent n (c :: tail) = _
      unfold readExponent
      exact if_neg (hrest.exponent c tail rfl)
  · obtain ⟨hne, hten⟩ := hdigits down digits rfl
    have htake := takeDigits_digitChars hten hrest.digit
    have hnonempty : digits.isEmpty = false := by simpa using hne
    cases down with
    | true =>
      change readExponent n ('e' :: '-' :: (digitChars digits ++ rest)) = _
      rw [readExponent, if_pos (.inl rfl)]
      dsimp only
      rw [htake]
      dsimp only
      rw [hnonempty]
      rfl
    | false =>
      change readExponent n ('e' :: (digitChars digits ++ rest)) = _
      rw [readExponent, if_pos (.inl rfl)]
      · dsimp only
        rw [htake]
        dsimp only
        rw [hnonempty]
        rfl
      -- no sign stands in front of the digits
      · exact fun tail => digitChars_append_ne hne hten (by decide)
      · exact fun tail => digitChars_append_ne hne hten (by decide)

theorem readFraction_chars (n : Numeral) (hfraction : n.fraction = none)
    (hexponent : n.exponent = none) {fraction : Option (List Nat)}
    {exponent : Option (Bool × List Nat)}
    (hdigits : ∀ digits, fraction = some digits → digits ≠ [] ∧ ∀ d ∈ digits, d < 10)
    (hpower : ∀ down digits, exponent = some (down, digits) → digits ≠ [] ∧ ∀ d ∈ digits, d < 10)
    {rest : List Char} (hrest : Ends rest) :
    readFraction n (Numeral.fractionChars fraction ++ (Numeral.exponentChars exponent ++ rest))
      = numeralStep { n with fraction, exponent } rest := by
  cases fraction with
  | none =>
    -- without a fraction the text goes on with no point
    have hn : { n with fraction := none, exponent } = { n with exponent } := by rw [← hfraction]
    rw [hn, ← readExponent_chars n hexponent hpower hrest]
    change readFraction n (Numeral.exponentChars exponent ++ rest) = _
    rw [readFraction]
    rintro tail htail
    rcases exponent with _ | ⟨_ | _, digits⟩
    · exact hrest.point tail htail
    · exact absurd (List.cons.inj htail).1 (by decide)
    · exact absurd (List.cons.inj htail).1 (by decide)
  | some digits =>
    obtain ⟨hne, hten⟩ := hdigits digits rfl
    -- the digits behind the point end before the exponent
    have hstop : ∀ c tail, Numeral.exponentChars exponent ++ rest = c :: tail → isDigit c = false := by
      rintro c tail htail
      rcases exponent with _ | ⟨_ | _, power⟩
      · exact hrest.digit c tail htail
      · rw [← (List.cons.inj htail).1]; decide
      · rw [← (List.cons.inj htail).1]; decide
    have hnonempty : digits.isEmpty = false := by simpa using hne
    change readFraction n ('.' :: (digitChars digits ++ (Numeral.exponentChars exponent ++ rest))) = _
    rw [readFraction, takeDigits_digitChars hten hstop]
    dsimp only
    rw [hnonempty]
    exact readExponent_chars { n with fraction := some digits } hexponent hpower hrest

/-- **Numerals.** The reader finds the parts of a numeral behind its characters. -/
theorem readNumeral_chars {n : Numeral} (h : n.WellFormed) {rest : List Char} (hrest : Ends rest) :
    readNumeral (n.chars ++ rest) = numeralStep n rest := by
  obtain ⟨negative, whole, fraction, exponent⟩ := n
  have hne : whole ≠ [] := by
    rcases h.leading with hzero | ⟨first, others, heq, -⟩
    · exact fun hnil => absurd (hzero.symm.trans hnil) (by decide)
    · exact fun hnil => absurd (heq.symm.trans hnil) (by simp)
  -- the digits in front end before the point or the exponent
  have hstop : ∀ c tail, Numeral.fractionChars fraction ++ (Numeral.exponentChars exponent ++ rest)
      = c :: tail → isDigit c = false := by
    rintro c tail htail
    rcases fraction with _ | digits
    · rcases exponent with _ | ⟨_ | _, power⟩
      · exact hrest.digit c tail htail
      · rw [← (List.cons.inj htail).1]; decide
      · rw [← (List.cons.inj htail).1]; decide
    · rw [← (List.cons.inj htail).1]; decide
  have hunsigned : readUnsigned negative (digitChars whole ++
      (Numeral.fractionChars fraction ++ (Numeral.exponentChars exponent ++ rest)))
        = numeralStep ⟨negative, whole, fraction, exponent⟩ rest := by
    have hfraction := readFraction_chars ⟨negative, whole, none, none⟩ rfl rfl h.fraction
      h.exponent hrest
    unfold readUnsigned
    rw [takeDigits_digitChars h.whole hstop]
    dsimp only
    split
    · exact absurd rfl hne
    · next second others =>
      -- a zero in front of other digits is no leading digit
      rcases h.leading with hzero | ⟨first, rest, heq, hfirst⟩
      · exact absurd hzero (by simp)
      · exact absurd (List.cons.inj heq).1.symm hfirst
    · exact hfraction
  cases negative with
  | true =>
    change readNumeral ('-' :: (digitChars whole ++
      (Numeral.fractionChars fraction ++ Numeral.exponentChars exponent) ++ rest)) = _
    rw [readNumeral, List.append_assoc, List.append_assoc]
    exact hunsigned
  | false =>
    change readNumeral ((digitChars whole ++
      (Numeral.fractionChars fraction ++ Numeral.exponentChars exponent)) ++ rest) = _
    rw [List.append_assoc, List.append_assoc, readNumeral]
    · exact hunsigned
    · exact fun tail => digitChars_append_ne hne h.whole (by decide)

end Reader

/-! ### The numerals of numbers -/

namespace Numeral

theorem le_digitsValue_from (s : Nat) (digits : List Nat) :
    s ≤ digits.foldl (fun n digit => n * 10 + digit) s := by
  induction digits generalizing s with
  | nil => exact Nat.le_refl s
  | cons d digits ih => exact Nat.le_trans (by omega) (ih (s * 10 + d))

/-- Digits that fit into a significand are all taken up. -/
theorem absorb_eq {s : Nat} {digits : List Nat}
    (h : digits.foldl (fun n digit => n * 10 + digit) s ≤ maxSignificand) :
    absorb s digits = (digits.foldl (fun n digit => n * 10 + digit) s, []) := by
  induction digits generalizing s with
  | nil => rfl
  | cons d digits ih =>
    have hle := le_digitsValue_from (s * 10 + d) digits
    rw [absorb, if_pos (Nat.le_trans hle h)]
    exact ih h

theorem absorb_digitsOf {n : Nat} (h : n ≤ maxSignificand) : absorb 0 (digitsOf n) = (n, []) := by
  have hvalue := digitsValue_digitsOf n
  unfold digitsValue at hvalue
  rw [absorb_eq (by rw [hvalue]; exact h), hvalue]

/-- The numeral of an integer. -/
def ofInt (value : Int) : Numeral := ⟨value < 0, digitsOf value.natAbs, none, none⟩

/-- The numeral of a decimal under a sign, positional or with an exponent by its magnitude. -/
def ofDecimal (negative : Bool) (d : Decimal) : Numeral :=
  let digits := digitsOf d.digits
  let point : Int := digits.length + d.exponent
  if 0 ≤ d.exponent ∧ point ≤ 16 then
    ⟨negative, digits ++ List.replicate d.exponent.toNat 0, some [0], none⟩
  else if 0 < point ∧ point ≤ 16 then
    ⟨negative, digits.take point.toNat, some (digits.drop point.toNat), none⟩
  else if -5 < point ∧ point ≤ 0 then
    ⟨negative, [0], some (List.replicate (-point).toNat 0 ++ digits), none⟩
  else
    ⟨negative, digits.take 1, if digits.length = 1 then none else some (digits.drop 1),
      some (point - 1 < 0, digitsOf (point - 1).natAbs)⟩

/-- The numeral of a float. -/
def ofBinary64 (x : Binary64) : Numeral :=
  if x.isZero then ⟨x.negative, [0], some [0], none⟩ else ofDecimal x.negative x.shortest

theorem wellFormed_ofInt (value : Int) : (ofInt value).WellFormed where
  whole := digitsOf_lt_ten _
  leading := digitsOf_head _
  fraction _ h := nomatch h
  exponent _ _ h := nomatch h

/-- An integer with zeros behind its digits, unless they stand behind a zero. -/
theorem wellFormed_padded (negative : Bool) {n zeros : Nat} (hzero : n = 0 → zeros = 0) :
    WellFormed ⟨negative, digitsOf n ++ List.replicate zeros 0, some [0], none⟩ := by
  refine ⟨?_, ?_, ?_, fun _ _ h => nomatch h⟩
  · intro e he
    rcases List.mem_append.1 he with he | he
    · exact digitsOf_lt_ten n e he
    · rw [(List.mem_replicate.1 he).2]
      decide
  · rcases digitsOf_head n with hhead | ⟨first, rest, heq, hfirst⟩
    · have hn := digitsValue_digitsOf n
      rw [hhead] at hn
      rw [hhead, hzero hn.symm]
      exact .inl rfl
    · exact .inr ⟨first, _, by rw [heq, List.cons_append], hfirst⟩
  · rintro digits ⟨⟩
    exact ⟨by decide, by decide⟩

/-- The point stands between two digits. -/
theorem wellFormed_split (negative : Bool) {n point : Nat} (hpoint : 0 < point)
    (hlt : point < (digitsOf n).length) :
    WellFormed ⟨negative, (digitsOf n).take point, some ((digitsOf n).drop point), none⟩ := by
  refine ⟨fun e he => digitsOf_lt_ten n e (List.mem_of_mem_take he), ?_, ?_, fun _ _ h => nomatch h⟩
  · rcases digitsOf_head n with hhead | ⟨first, rest, heq, hfirst⟩
    · -- a single digit leaves no room for the point
      rw [hhead, List.length_singleton] at hlt
      omega
    · obtain ⟨k, rfl⟩ := Nat.exists_eq_add_one.2 hpoint
      exact .inr ⟨first, rest.take k, by rw [heq, List.take_succ_cons], hfirst⟩
  · rintro digits ⟨⟩
    refine ⟨?_, fun e he => digitsOf_lt_ten n e (List.mem_of_mem_drop he)⟩
    rw [ne_eq, List.drop_eq_nil_iff]
    omega

/-- Zeros stand between the point and the digits. -/
theorem wellFormed_small (negative : Bool) (n zeros : Nat) :
    WellFormed ⟨negative, [0], some (List.replicate zeros 0 ++ digitsOf n), none⟩ := by
  refine ⟨?_, .inl rfl, ?_, fun _ _ h => nomatch h⟩
  · intro e he
    rw [List.mem_singleton.1 he]
    decide
  · rintro digits ⟨⟩
    refine ⟨fun hnil => digitsOf_ne_nil n (List.append_eq_nil_iff.1 hnil).2, fun e he => ?_⟩
    rcases List.mem_append.1 he with he | he
    · rw [(List.mem_replicate.1 he).2]
      decide
    · exact digitsOf_lt_ten n e he

/-- One digit stands in front of the point, if there are others behind it, and a power of ten behind
them all. -/
theorem wellFormed_scientific (negative down : Bool) (n power : Nat) :
    WellFormed ⟨negative, (digitsOf n).take 1,
      if (digitsOf n).length = 1 then none else some ((digitsOf n).drop 1),
      some (down, digitsOf power)⟩ := by
  refine ⟨fun e he => digitsOf_lt_ten n e (List.mem_of_mem_take he), ?_, ?_, ?_⟩
  · rcases digitsOf_head n with hhead | ⟨first, rest, heq, hfirst⟩
    · rw [hhead]
      exact .inl rfl
    · rw [heq]
      exact .inr ⟨first, [], rfl, hfirst⟩
  · intro digits hdigits
    split at hdigits
    · cases hdigits
    · have hlength := List.length_pos_iff.2 (digitsOf_ne_nil n)
      rw [← Option.some.inj hdigits]
      refine ⟨?_, fun e he => digitsOf_lt_ten n e (List.mem_of_mem_drop he)⟩
      rw [ne_eq, List.drop_eq_nil_iff]
      omega
  · rintro _ digits ⟨⟩
    exact ⟨digitsOf_ne_nil _, digitsOf_lt_ten _⟩

/-- The numeral of a decimal is in order, unless it is a zero with zeros behind it. -/
theorem wellFormed_ofDecimal (negative : Bool) {d : Decimal} (hzero : d.digits = 0 → d.exponent = 0) :
    (ofDecimal negative d).WellFormed := by
  unfold ofDecimal
  dsimp only
  split
  · refine wellFormed_padded negative fun hn => ?_
    rw [hzero hn]
    rfl
  split
  · -- the exponent is negative here, so the point stands before the last digit
    exact wellFormed_split negative (by omega) (by omega)
  split
  · exact wellFormed_small negative _ _
  · exact wellFormed_scientific negative _ _ _

end Numeral

/-! ### Printing -/

theorem toList_repr (n : Nat) : n.repr.toList = digitChars (digitsOf n) := by
  rw [digitChars_digitsOf, Nat.toList_repr]

theorem toList_toString_int (value : Int) :
    (toString value).toList
      = (if value < 0 then ['-'] else []) ++ digitChars (digitsOf value.natAbs) := by
  cases value with
  | ofNat n =>
    have hnonneg : ¬Int.ofNat n < 0 := Int.not_lt.2 (Int.natCast_nonneg n)
    rw [if_neg hnonneg]
    exact toList_repr n
  | negSucc n =>
    rw [if_pos (Int.negSucc_lt_zero n)]
    change ("-" ++ (n + 1).repr).toList = _
    rw [String.toList_append, toList_repr]
    rfl

namespace Numeral

theorem exponentChars_decide (p : Prop) [Decidable p] (digits : List Nat) :
    exponentChars (some (decide p, digits))
      = 'e' :: ((if p then ['-'] else []) ++ digitChars digits) := by
  by_cases h : p
  · rw [if_pos h, decide_eq_true h]
    rfl
  · rw [if_neg h, decide_eq_false h]
    rfl

/-- An integer is printed as its numeral. -/
theorem chars_ofInt (value : Int) : (ofInt value).chars = (Number.int value).render.toList := by
  unfold Number.render
  dsimp only
  rw [toList_toString_int]
  unfold ofInt chars fractionChars exponentChars
  by_cases h : value < 0 <;> simp [h]

/-- A decimal is printed as its numeral. -/
theorem chars_ofDecimal (negative : Bool) (d : Decimal) :
    (ofDecimal negative d).chars
      = (if negative then ['-'] else []) ++ (Binary64.renderDecimal d).toList := by
  have hdigits := toList_repr d.digits
  have hzero : Nat.digitChar 0 = '0' := rfl
  -- both sides distinguish the cases by the number of digits
  have hlength : (Nat.repr d.digits).toList.length = (digitsOf d.digits).length := by
    rw [hdigits, digitChars, List.length_map]
  unfold Binary64.renderDecimal ofDecimal
  dsimp only
  rw [hlength]
  split
  · rw [String.toList_ofList, hdigits]
    simp [chars, fractionChars, exponentChars, digitChars, hzero]
  split
  · rw [String.toList_ofList, hdigits]
    simp [chars, fractionChars, exponentChars, digitChars, List.map_take, List.map_drop]
  split
  · rw [String.toList_ofList, hdigits]
    simp [chars, fractionChars, exponentChars, digitChars, hzero]
  · rw [String.toList_append, String.toList_append, String.toList_ofList, toList_toString_int, hdigits]
    unfold chars
    dsimp only
    rw [exponentChars_decide]
    rcases hcase : digitsOf d.digits with _ | ⟨first, _ | ⟨second, rest⟩⟩
    · exact absurd hcase (digitsOf_ne_nil _)
    · simp [fractionChars, digitChars]
    · simp [fractionChars, digitChars]

/-- A float is printed as its numeral. -/
theorem chars_ofBinary64 (x : Binary64) : (ofBinary64 x).chars = x.render.toList := by
  unfold ofBinary64 Binary64.render
  rw [String.toList_append]
  by_cases hzero : x.isZero = true
  · rw [if_pos hzero, if_pos hzero]
    cases x.negative <;> rfl
  · rw [if_neg hzero, if_neg hzero, chars_ofDecimal]
    cases x.negative <;> rfl

/-- An integer of 64 bits, signed or not, is the value of its numeral. -/
theorem value?_ofInt {value : Int} (hlow : -(twoPow 63 : Int) ≤ value) (hhigh : value < twoPow 64) :
    (ofInt value).value? = some (.int value) := by
  have hmax : value.natAbs ≤ maxSignificand := by
    unfold maxSignificand
    have : twoPow 63 ≤ twoPow 64 - 1 := by decide
    omega
  unfold value? ofInt
  dsimp only
  rw [absorb_digitsOf hmax]
  by_cases hneg : value < 0
  · -- a negative integer has at most the magnitude of the least one
    have habs : 0 < value.natAbs ∧ value.natAbs ≤ twoPow 63 := by omega
    have hvalue : -(value.natAbs : Int) = value := by omega
    simp only [hneg, decide_true, Option.isSome_none, Bool.false_eq_true, or_self, if_false,
      List.isEmpty_nil, Bool.not_true, habs, and_self, if_true, hvalue]
  · have hvalue : (value.natAbs : Int) = value := by omega
    simp only [hneg, decide_false, Option.isSome_none, Bool.false_eq_true, or_self, if_false,
      List.isEmpty_nil, Bool.not_true, Bool.not_false, if_true, hvalue]

end Numeral

namespace Number

/-- The numeral that a number is printed as. -/
def numeral : Number → Numeral
  | .int value => .ofInt value
  | .real x => .ofBinary64 x

/-- What the text of a number reads as. -/
def reread (n : Number) : Number := n.numeral.value?.getD n

theorem chars_numeral (n : Number) : n.numeral.chars = n.render.toList := by
  cases n with
  | int value => exact Numeral.chars_ofInt value
  | real x => exact Numeral.chars_ofBinary64 x

/-- Integers within the range of 64 bits, signed or not; any float. -/
def InRange : Number → Prop
  | .int value => -(twoPow 63 : Int) ≤ value ∧ value < twoPow 64
  | .real _ => True

/-- An integer that fits into 64 bits is read back as itself. -/
@[simp] theorem reread_int {value : Int} (h : (Number.int value).InRange) :
    reread (.int value) = .int value := by
  unfold reread numeral
  rw [Numeral.value?_ofInt h.1 h.2]
  rfl

end Number

end VolumeBroker
