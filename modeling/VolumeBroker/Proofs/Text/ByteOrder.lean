import Mathlib.Data.List.Basic
import VolumeBroker.Text.Utf8
/-!
# The order of texts and of their bytes

Texts are compared by their characters. UTF-8 keeps this order: of two texts the smaller one has the
smaller bytes (`Utf8.bytes_lt_iff`). Of two characters the smaller one has the smaller byte where their
bytes differ first, and they do differ somewhere (`Utf8.under_utf8EncodeChar`); then it does not matter
what follows them.
-/

namespace VolumeBroker

namespace Utf8

theorem bytes_eq (text : String) : bytes text = text.toList.flatMap String.utf8EncodeChar := by
  conv_lhs => rw [← String.ofList_toList (s := text)]
  unfold bytes
  rw [String.toUTF8_eq_toByteArray, String.toByteArray_ofList, List.utf8Encode, List.data_toByteArray]

/-! ### Where bytes differ -/

/-- Bytes that differ from others in some place and are smaller in the first such place. -/
inductive Under : List UInt8 → List UInt8 → Prop where
  | here {a b : UInt8} {xs ys : List UInt8} (h : a < b) : Under (a :: xs) (b :: ys)
  | behind {a : UInt8} {xs ys : List UInt8} (h : Under xs ys) : Under (a :: xs) (a :: ys)

theorem not_under_nil (ys : List UInt8) : ¬ Under [] ys := nofun

theorem under_ofNat_cons_iff {m n : Nat} (hm : m < 256) (hn : n < 256) {xs ys : List UInt8} :
    Under (UInt8.ofNat m :: xs) (UInt8.ofNat n :: ys) ↔ m < n ∨ m = n ∧ Under xs ys := by
  have hinjective : UInt8.ofNat m = UInt8.ofNat n → m = n := by
    intro heq
    have hvalue := congrArg UInt8.toNat heq
    rwa [UInt8.toNat_ofNat_of_lt' hm, UInt8.toNat_ofNat_of_lt' hn] at hvalue
  constructor
  · intro h
    generalize ha : UInt8.ofNat m = a at h
    generalize hb : UInt8.ofNat n = b at h
    cases h with
    | here h =>
      rw [← ha, ← hb] at h
      exact .inl ((UInt8.ofNat_lt_iff_lt hm hn).1 h)
    | behind h => exact .inr ⟨hinjective (ha.trans hb.symm), h⟩
  · rintro (h | ⟨rfl, h⟩)
    · exact .here ((UInt8.ofNat_lt_iff_lt hm hn).2 h)
    · exact .behind h

/-- Whatever follows them, such bytes are smaller. -/
theorem Under.append_lt {xs ys : List UInt8} (h : Under xs ys) (xs' ys' : List UInt8) :
    xs ++ xs' < ys ++ ys' := by
  induction h with
  | here h => exact List.cons_lt_cons_iff.2 (.inl h)
  | behind _ ih => exact List.cons_lt_cons_iff.2 (.inr ⟨rfl, ih⟩)

/-- Of two codes the smaller one has the smaller digit where their digits differ first. -/
theorem digits_lt {v w : Nat} (h : v < w) (hw : w < 0x110000) :
    v / 262144 % 8 < w / 262144 % 8 ∨ v / 262144 % 8 = w / 262144 % 8 ∧
      (v / 4096 % 64 < w / 4096 % 64 ∨ v / 4096 % 64 = w / 4096 % 64 ∧
        (v / 64 % 64 < w / 64 % 64 ∨ v / 64 % 64 = w / 64 % 64 ∧ v % 64 < w % 64)) := by
  -- without its last digits the smaller code is smaller still, or the same
  have hleft (n : Nat) : v / n < w / n ∨ v / n = w / n :=
    Nat.lt_or_eq_of_le (Nat.div_le_div_right (Nat.le_of_lt h))
  rcases hleft 262144 with hfirst | hfirst
  · omega
  · rcases hleft 4096 with hsecond | hsecond
    · omega
    · rcases hleft 64 with hthird | hthird
      · omega
      · omega

/-- **Characters keep their order as bytes.** The first byte tells how many there are, and more for a
greater character; among as many bytes the digits of the code decide. -/
theorem under_utf8EncodeChar {c d : Char} (h : c < d) :
    Under (String.utf8EncodeChar c) (String.utf8EncodeChar d) := by
  have hlt : c.val.toNat < d.val.toNat := UInt32.lt_iff_toNat_lt.1 (Char.lt_def.1 h)
  have hmax : d.val.toNat < 0x110000 := by
    have hvalid := d.valid
    unfold UInt32.isValidChar Nat.isValidChar at hvalid
    omega
  have hdigits := digits_lt hlt hmax
  unfold String.utf8EncodeChar
  generalize c.val.toNat = v at hlt hdigits
  generalize d.val.toNat = w at hlt hmax hdigits
  dsimp only
  -- with fewer bytes the first byte is smaller; with as many it is the digits that decide
  split_ifs <;> simp (disch := omega) only [under_ofNat_cons_iff, not_under_nil] <;> omega

/-! ### Texts -/

theorem flatMap_utf8EncodeChar_lt {cs ds : List Char} (h : cs < ds) :
    cs.flatMap String.utf8EncodeChar < ds.flatMap String.utf8EncodeChar := by
  induction cs generalizing ds with
  | nil =>
    cases ds with
    | nil => exact absurd h (List.lt_irrefl _)
    | cons d ds =>
      obtain ⟨b, bs, hbytes⟩ := List.exists_cons_of_ne_nil (String.utf8EncodeChar_ne_nil (c := d))
      rw [List.flatMap_cons, hbytes]
      exact List.nil_lt_cons _ _
  | cons c cs ih =>
    cases ds with
    | nil => exact absurd h (List.not_lt_nil _)
    | cons d ds =>
      rw [List.flatMap_cons, List.flatMap_cons]
      -- the first characters differ, or it is left to the texts behind them
      rcases List.cons_lt_cons_iff.1 h with hchar | ⟨rfl, hrest⟩
      · exact (under_utf8EncodeChar hchar).append_lt _ _
      · exact List.append_left_lt (ih hrest)

theorem bytes_lt_of_lt {a b : String} (h : a < b) : bytes a < bytes b := by
  rw [bytes_eq, bytes_eq]
  exact flatMap_utf8EncodeChar_lt (h)

/-- **Texts are ordered as their bytes.** -/
theorem bytes_lt_iff {a b : String} : bytes a < bytes b ↔ a < b := by
  refine ⟨fun h => String.not_le.1 fun hle => ?_, bytes_lt_of_lt⟩
  by_cases heq : a = b
  · rw [heq] at h
    exact List.lt_irrefl _ h
  · have hlt : b < a := String.not_le.1 fun hle' => heq (String.le_antisymm hle' hle)
    exact List.lt_asymm h (bytes_lt_of_lt hlt)

end Utf8

end VolumeBroker
