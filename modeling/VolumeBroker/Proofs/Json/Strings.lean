import VolumeBroker.Json.Printer
import VolumeBroker.Json.Reader
import Mathlib.Data.List.Basic
/-!
# Strings in JSON text

A string that is written between quotes is read back as it was, whatever stands behind it
(`Reader.readString_quoted`). The characters are taken one by one: `readString_escapeChar` says that
the reader turns the escape of a character back into the character.

Bytes that are a text are read as that text (`Document.ofContent_bytes`). An ill-formed part of others
spoils a string for a reader but not for one that skips it, and ends the reading everywhere else
(`Reader.illFormed_effects`).
-/

namespace VolumeBroker

namespace Json

/-- The characters between the quotes of a string. -/
def quotedChars (s : String) : List Char := s.toList.flatMap fun c => (escapeChar c).toList

theorem toList_quote (s : String) : (quote s).toList = '"' :: quotedChars s ++ ['"'] := by
  have hfold : ∀ (chars : List Char) (text : String),
      (chars.foldl (fun text c => text ++ escapeChar c) text).toList
        = text.toList ++ chars.flatMap fun c => (escapeChar c).toList := by
    intro chars
    induction chars with
    | nil => intro text; simp
    | cons c chars ih =>
      intro text
      rw [List.foldl_cons, ih, String.toList_append, List.flatMap_cons, List.append_assoc]
  unfold quote quotedChars
  rw [String.toList_append, String.toList_append, hfold]
  rfl

end Json

namespace Reader

/-- The four digits of a small code are read back; checked for each of them. -/
theorem hexQuad?_hexQuad : ∀ code : Fin 32,
    (match (Json.hexQuad code).toList with
    | [a, b, c, d] => hexQuad? a b c d == some code.val
    | _ => false) = true := by
  decide +kernel

/-- The escape of a character is read as the character. -/
theorem readString_escapeChar (read : List Char) (c : Char) (rest : List Char) :
    readString read ((Json.escapeChar c).toList ++ rest) = readString (c :: read) rest := by
  unfold Json.escapeChar
  -- the characters with a letter of their own
  by_cases h₁ : c = '"'
  · subst h₁; rfl
  by_cases h₂ : c = '\\'
  · subst h₂; rfl
  by_cases h₃ : c = '\n'
  · subst h₃; rfl
  by_cases h₄ : c = '\r'
  · subst h₄; rfl
  by_cases h₅ : c = '\t'
  · subst h₅; rfl
  by_cases h₆ : c = '\x08'
  · subst h₆; rfl
  by_cases h₇ : c = '\x0c'
  · subst h₇; rfl
  rw [if_neg h₁, if_neg h₂, if_neg h₃, if_neg h₄, if_neg h₅, if_neg h₆, if_neg h₇]
  by_cases hcontrol : c.toNat < 0x20
  · -- a control character is written as its code
    rw [if_pos hcontrol]
    have hquad := hexQuad?_hexQuad ⟨c.toNat, hcontrol⟩
    dsimp only at hquad
    split at hquad
    · next a b d e hdigits =>
      rw [String.toList_append, hdigits]
      change readString read ('\\' :: 'u' :: a :: b :: d :: e :: rest) = _
      have hcode : hexQuad? a b d e = some c.toNat := by simpa using hquad
      rw [readString, hcode]
      dsimp only
      rw [if_neg (by omega), if_neg (by omega), Char.ofNat_toNat]
    · cases hquad
  · rw [if_neg hcontrol]
    rw [show c.toString.toList = [c] by simp [Char.toString], List.singleton_append]
    -- neither a quote nor a backslash, so no other case of the reader applies
    rw [readString]
    · exact if_neg hcontrol
    all_goals
      intros
      simp_all

theorem readString_quoted (s : String) (rest : List Char) :
    readString [] (Json.quotedChars s ++ '"' :: rest) = .done s.toList rest := by
  have hchars : ∀ (chars read : List Char),
      readString read (chars.flatMap (fun c => (Json.escapeChar c).toList) ++ '"' :: rest)
        = .done (read.reverse ++ chars) rest := by
    intro chars
    induction chars with
    | nil =>
      intro read
      simp [readString]
    | cons c chars ih =>
      intro read
      rw [List.flatMap_cons, List.append_assoc, readString_escapeChar, ih, List.reverse_cons,
        List.append_assoc, List.singleton_append]
  exact hchars s.toList []

/-! ### Bytes that are no text -/

/-- What an ill-formed part does at the places where it can stand: in a string, behind a backslash, and
where a value begins. -/
theorem illFormed_effects (rest : List Char) :
    (∀ read, readString read (illFormed ++ rest) = .spoilt .malformed rest) ∧
    skipString (illFormed ++ rest) = skipString rest ∧
    (∀ read, readString read ('\\' :: (illFormed ++ rest)) = .stopped .malformed .malformed) ∧
    skipString ('\\' :: (illFormed ++ rest)) = .error .malformed ∧
    ∀ fuel, readValue (fuel + 1) (illFormed ++ rest) = halt .malformed := by
  have hlow : hexQuad? 'd' 'c' '0' '0' = some 0xDC00 := rfl
  have hnone : hexQuad? '\\' 'u' 'd' 'c' = none := rfl
  refine ⟨fun read => ?_, ?_, fun read => ?_, rfl, fun _ => rfl⟩
  · simp [illFormed, readString, hlow]
  · simp [illFormed, skipString, hlow]
  · simp [illFormed, readString, hnone]

/-- Characters that have all been decoded are read as they are. -/
theorem charactersOf_eq {bytes : List UInt8} {text : String} (h : Utf8.decode? bytes = some text) :
    charactersOf bytes = text.toList := by
  obtain ⟨chars, hchars, rfl⟩ := Option.map_eq_some_iff.1 h
  clear h
  unfold charactersOf
  rw [String.toList_ofList]
  generalize Utf8.decode bytes = parts at hchars
  induction parts generalizing chars with
  | nil =>
    cases hchars
    rfl
  | cons part parts ih =>
    rw [List.mapM_cons] at hchars
    obtain ⟨c, hpart, hchars⟩ := Option.bind_eq_some_iff.1 hchars
    obtain ⟨others, hothers, hchars⟩ := Option.bind_eq_some_iff.1 hchars
    cases hchars
    rw [List.flatMap_cons, ih others hothers, show part = some c from hpart]
    rfl

end Reader

theorem Document.ofContent_bytes {bytes : List UInt8} {text : String}
    (h : Utf8.decode? bytes = some text) : ofContent (.bytes bytes) = ofContent (.text text) := by
  unfold ofContent
  dsimp only
  rw [Reader.charactersOf_eq h, String.ofList_toList]

end VolumeBroker
