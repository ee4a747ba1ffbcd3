import VolumeBroker.Proofs.Json.Canonical
import VolumeBroker.Proofs.Json.Numerals
import VolumeBroker.Proofs.Json.Strings
/-!
# Values that are written and read back

A value has many texts: blanks may stand around the entries of its containers. `Json.Spells` is the
relation between a value and those of its texts that a printer gives, and both `Json.pretty` and
`Json.compact` give such a text (`Json.spells_pretty`, `Json.spells_compact`). Reading one gives back
the document of the value with every number replaced by what its text reads as (`Json.reread`), and
nothing stands behind it. This is `Document.ofTextUnlimited_of_spells`; it asks only that the text of
every number in the value is one that can be read.

The reader goes through the text level by level with fuel; a text is never shorter than the fuel that
reading it takes, so the length of the text carries the induction (`Reader.reads_spells`).
-/

namespace VolumeBroker

/-- A number whose text can be read. -/
structure Number.Readable (n : Number) : Prop where
  wellFormed : n.numeral.WellFormed
  value : n.numeral.value? = some n.reread

namespace Json

mutual

/-- The value with every number replaced by what its text reads as. -/
def reread : Json → Json
  | .number n => .number n.reread
  | .arr items => .arr (rereadItems items)
  | .obj members => .obj (rereadMembers members)
  | value => value

/-- The items of an array, read back. -/
def rereadItems : List Json → List Json
  | [] => []
  | item :: rest => reread item :: rereadItems rest

/-- The members of an object, read back. -/
def rereadMembers : List (String × Json) → List (String × Json)
  | [] => []
  | (key, value) :: rest => (key, reread value) :: rereadMembers rest

end

theorem rereadItems_eq (items : List Json) : rereadItems items = items.map reread := by
  induction items with
  | nil => rfl
  | cons item rest ih => rw [rereadItems, ih, List.map_cons]

theorem rereadMembers_eq (members : List (String × Json)) :
    rereadMembers members = members.map fun m => (m.1, m.2.reread) := by
  induction members with
  | nil => rfl
  | cons m rest ih => rw [rereadMembers, ih, List.map_cons]

/-- Every number in the value satisfies a condition. -/
inductive Every (p : Number → Prop) : Json → Prop where
  | null : Every p .null
  | bool (b : Bool) : Every p (.bool b)
  | number {n : Number} (h : p n) : Every p (.number n)
  | str (s : String) : Every p (.str s)
  | arr {items : List Json} (h : ∀ item ∈ items, Every p item) : Every p (.arr items)
  | obj {members : List (String × Json)} (h : ∀ m ∈ members, Every p m.2) : Every p (.obj members)

end Json

namespace Reader

/-! ### Blanks -/

theorem skipBlanks_append {blanks : List Char} (h : ∀ c ∈ blanks, isBlank c = true)
    (rest : List Char) : skipBlanks (blanks ++ rest) = skipBlanks rest := by
  induction blanks with
  | nil => rfl
  | cons c blanks ih =>
    rw [List.cons_append, skipBlanks, if_pos (h c List.mem_cons_self)]
    exact ih fun c hc => h c (List.mem_cons_of_mem _ hc)

theorem skipBlanks_cons {c : Char} (h : isBlank c = false) (rest : List Char) :
    skipBlanks (c :: rest) = c :: rest := by
  rw [skipBlanks, h]
  rfl

theorem toList_lineBreak (level : Nat) :
    (Json.lineBreak level).toList = '\n' :: List.replicate (2 * level) ' ' := by
  simp [Json.lineBreak, String.toList_append]

/-- Nothing but blanks. -/
def Blanks (text : List Char) : Prop := ∀ c ∈ text, isBlank c = true

theorem blanks_nil : Blanks [] := nofun

/-- Behind a colon there may be one blank. -/
theorem blanks_gap : Blanks [' '] := by
  intro c hc
  rw [List.mem_singleton.1 hc]
  rfl

theorem blanks_lineBreak (level : Nat) : Blanks (Json.lineBreak level).toList := by
  intro c hc
  rw [toList_lineBreak] at hc
  rcases List.mem_cons.1 hc with rfl | hc
  · rfl
  · rw [(List.mem_replicate.1 hc).2]
    rfl

/-- What is read depends on the text behind its leading blanks. -/
theorem readValue_congr {text text' : List Char} (h : skipBlanks text = skipBlanks text')
    (fuel : Nat) : readValue fuel text = readValue fuel text' := by
  cases fuel with
  | zero => rfl
  | succ fuel => rw [readValue, readValue, h]

theorem readItems_congr {text text' : List Char} (h : skipBlanks text = skipBlanks text')
    (fuel : Nat) : readItems fuel text = readItems fuel text' := by
  cases fuel with
  | zero => rfl
  | succ fuel => rw [readItems, readItems, readValue_congr h]

end Reader

namespace Json

/-! ### The characters of a value -/

variable (level : Nat)

theorem toList_prettyAt_null : (prettyAt level .null).toList = ['n', 'u', 'l', 'l'] := by
  rw [prettyAt_null]
  rfl

theorem toList_prettyAt_bool (b : Bool) :
    (prettyAt level (.bool b)).toList
      = if b then ['t', 'r', 'u', 'e'] else ['f', 'a', 'l', 's', 'e'] := by
  cases b <;> (rw [prettyAt]; rfl)

theorem toList_prettyAt_number (n : Number) :
    (prettyAt level (.number n)).toList = n.numeral.chars := by
  rw [prettyAt, Number.chars_numeral]

theorem toList_prettyAt_str (s : String) :
    (prettyAt level (.str s)).toList = '"' :: quotedChars s ++ ['"'] := by
  rw [prettyAt, toList_quote]

theorem toList_prettyAt_arr_nil : (prettyAt level (.arr [])).toList = ['[', ']'] := by
  rw [prettyAt]
  rfl

theorem toList_prettyAt_arr {items : List Json} (h : items ≠ []) :
    (prettyAt level (.arr items)).toList
      = '[' :: ((prettyItems (level + 1) items).toList ++ ((lineBreak level).toList ++ [']'])) := by
  rw [prettyAt]
  · simp [String.toList_append]
  · exact fun hnil => h hnil

theorem toList_prettyAt_obj_nil : (prettyAt level (.obj [])).toList = ['\x7b', '\x7d'] := by
  rw [prettyAt]
  rfl

theorem toList_prettyAt_obj {members : List (String × Json)} (h : members ≠ []) :
    (prettyAt level (.obj members)).toList
      = '\x7b' ::
        ((prettyMembers (level + 1) members).toList ++ ((lineBreak level).toList ++ ['\x7d'])) := by
  rw [prettyAt]
  · simp [String.toList_append]
  · exact fun hnil => h hnil

theorem toList_prettyItems_single (item : Json) :
    (prettyItems level [item]).toList = (lineBreak level).toList ++ (prettyAt level item).toList := by
  rw [prettyItems, String.toList_append]

theorem toList_prettyItems_cons (item : Json) {rest : List Json} (h : rest ≠ []) :
    (prettyItems level (item :: rest)).toList
      = (lineBreak level).toList ++
        ((prettyAt level item).toList ++ ',' :: (prettyItems level rest).toList) := by
  rw [prettyItems]
  · simp [String.toList_append]
  · exact fun hnil => h hnil

theorem toList_prettyMembers_single (key : String) (value : Json) :
    (prettyMembers level [(key, value)]).toList
      = (lineBreak level).toList ++
        ('"' :: quotedChars key ++ '"' :: ':' :: ' ' :: (prettyAt level value).toList) := by
  rw [prettyMembers]
  simp [String.toList_append, toList_quote]

theorem toList_prettyMembers_cons (key : String) (value : Json) {rest : List (String × Json)}
    (h : rest ≠ []) :
    (prettyMembers level ((key, value) :: rest)).toList
      = (lineBreak level).toList ++ ('"' :: quotedChars key ++ '"' :: ':' :: ' ' ::
        ((prettyAt level value).toList ++ ',' :: (prettyMembers level rest).toList)) := by
  rw [prettyMembers]
  · simp [String.toList_append, toList_quote]
  · exact fun hnil => h hnil

end Json

namespace Json

open Reader

/-! ### Texts of values -/

mutual

/-- A text of a value: blanks may stand around the entries of a container and behind a colon. -/
inductive Spells : Json → List Char → Prop where
  | null : Spells .null ['n', 'u', 'l', 'l']
  | true : Spells (.bool true) ['t', 'r', 'u', 'e']
  | false : Spells (.bool false) ['f', 'a', 'l', 's', 'e']
  | number {n : Number} (h : n.Readable) : Spells (.number n) n.numeral.chars
  | str (s : String) : Spells (.str s) ('"' :: quotedChars s ++ ['"'])
  | emptyArr : Spells (.arr []) ['[', ']']
  | arr {items : List Json} {text : List Char} (h : SpellsItems items text) :
    Spells (.arr items) ('[' :: text)
  | emptyObj : Spells (.obj []) ['\x7b', '\x7d']
  | obj {members : List (String × Json)} {text : List Char} (h : SpellsMembers members text) :
    Spells (.obj members) ('\x7b' :: text)

/-- A text of the items of an array, from the first item to the closing bracket. -/
inductive SpellsItems : List Json → List Char → Prop where
  | last {item : Json} {front text back : List Char} (hfront : Blanks front)
    (h : Spells item text) (hback : Blanks back) :
    SpellsItems [item] (front ++ (text ++ (back ++ [']'])))
  | next {item : Json} {items : List Json} {front text others : List Char} (hfront : Blanks front)
    (h : Spells item text) (hothers : SpellsItems items others) :
    SpellsItems (item :: items) (front ++ (text ++ ',' :: others))

/-- A text of the members of an object, from the first member to the closing brace. -/
inductive SpellsMembers : List (String × Json) → List Char → Prop where
  | last {key : String} {value : Json} {front gap text back : List Char} (hfront : Blanks front)
    (hgap : Blanks gap) (h : Spells value text) (hback : Blanks back) :
    SpellsMembers [(key, value)]
      (front ++ '"' :: (quotedChars key ++ '"' :: ':' :: (gap ++ (text ++ (back ++ ['\x7d'])))))
  | next {key : String} {value : Json} {members : List (String × Json)}
    {front gap text others : List Char} (hfront : Blanks front) (hgap : Blanks gap)
    (h : Spells value text) (hothers : SpellsMembers members others) :
    SpellsMembers ((key, value) :: members)
      (front ++ '"' :: (quotedChars key ++ '"' :: ':' :: (gap ++ (text ++ ',' :: others))))

end

end Json

namespace Reader

open Json

/-! ### The first character -/

theorem isBlank_of_isDigit {c : Char} (h : isDigit c = true) : isBlank c = false := by
  unfold isBlank
  have hne : ∀ d : Char, isDigit d = false → (c == d) = false := by
    intro d hd
    rw [beq_eq_false_iff_ne]
    rintro rfl
    rw [h] at hd
    cases hd
  -- none of the four blanks is a digit
  rw [hne ' ' (by decide), hne '\n' (by decide), hne '\t' (by decide), hne '\r' (by decide)]
  rfl

/-- A numeral starts with a minus sign or a digit. -/
theorem chars_head {n : Numeral} (h : n.WellFormed) :
    ∃ c tail, n.chars = c :: tail ∧ (c = '-' ∨ isDigit c = true) := by
  obtain ⟨negative, whole, fraction, exponent⟩ := n
  obtain ⟨d, others, hwhole⟩ : ∃ d others, whole = d :: others := by
    rcases h.leading with hzero | ⟨first, others, heq, -⟩
    · exact ⟨0, [], hzero⟩
    · exact ⟨first, others, heq⟩
  -- the sign if there is one, else the first digit
  cases negative with
  | true => exact ⟨'-', _, rfl, .inl rfl⟩
  | false =>
    refine ⟨d.digitChar, _, by rw [Numeral.chars, hwhole]; rfl, .inr (isDigit_digitChar ?_)⟩
    exact h.whole d (by rw [hwhole]; exact List.mem_cons_self)

/-- A text of a value starts with a character that is neither blank nor a closing bracket. -/
theorem head_spells {value : Json} {text : List Char} (h : Spells value text) :
    ∃ c tail, text = c :: tail ∧ isBlank c = false ∧ c ≠ ']' := by
  cases h with
  | null => exact ⟨'n', _, rfl, by decide, by decide⟩
  | true => exact ⟨'t', _, rfl, by decide, by decide⟩
  | false => exact ⟨'f', _, rfl, by decide, by decide⟩
  | @number n hn =>
    -- a number starts with the first character of its numeral
    obtain ⟨c, tail, hchars, hc⟩ := chars_head hn.wellFormed
    refine ⟨c, tail, hchars, ?_⟩
    rcases hc with rfl | hc
    · exact ⟨by decide, by decide⟩
    · refine ⟨isBlank_of_isDigit hc, ?_⟩
      rintro rfl
      exact absurd hc (by decide)
  | str s => exact ⟨'"', _, rfl, by decide, by decide⟩
  | emptyArr => exact ⟨'[', _, rfl, by decide, by decide⟩
  | arr _ => exact ⟨'[', _, rfl, by decide, by decide⟩
  | emptyObj => exact ⟨'\x7b', _, rfl, by decide, by decide⟩
  | obj _ => exact ⟨'\x7b', _, rfl, by decide, by decide⟩

/-! ### The end of a value -/

theorem ends_nil : Ends [] where
  digit _ _ h := nomatch h
  point _ h := nomatch h
  exponent _ _ h := nomatch h

theorem ends_cons {c : Char} (hdigit : isDigit c = false) (hpoint : c ≠ '.')
    (hexponent : ¬(c = 'e' ∨ c = 'E')) (rest : List Char) : Ends (c :: rest) where
  digit _ _ h := by rw [← (List.cons.inj h).1]; exact hdigit
  point _ h := hpoint (List.cons.inj h).1
  exponent _ _ h := by rw [← (List.cons.inj h).1]; exact hexponent

theorem ends_comma (rest : List Char) : Ends (',' :: rest) :=
  ends_cons (by decide) (by decide) (by decide) rest

/-- Blanks end a value, unless there are none and what stands behind them does not. -/
theorem ends_blanks {blanks rest : List Char} (h : Blanks blanks) (hrest : Ends rest) :
    Ends (blanks ++ rest) := by
  cases blanks with
  | nil => exact hrest
  | cons c blanks =>
    have hc := h c List.mem_cons_self
    -- the first blank is no character of a numeral
    refine ends_cons ?_ ?_ ?_ _
    · by_contra hdigit
      rw [isBlank_of_isDigit (by simpa using hdigit)] at hc
      cases hc
    · rintro rfl
      exact absurd hc (by decide)
    · rintro (rfl | rfl) <;> exact absurd hc (by decide)


/-! ### Reading a text of a value -/

/-- The reader takes a text of a value for the value, whatever stands behind it. -/
def Reads (value : Json) (text : List Char) : Prop :=
  ∀ fuel rest, text.length ≤ fuel → Ends rest →
    readValue fuel (text ++ rest) = ⟨.ofJson value.reread, some rest⟩

/-- The reader takes a text of items for the items, whatever stands behind the closing bracket. -/
def ReadsItems (items : List Json) (text : List Char) : Prop :=
  ∀ fuel rest, text.length ≤ fuel →
    readItems fuel (text ++ rest) = ⟨items.map fun item => .ofJson item.reread, none, some rest⟩

/-- A text of members starts with the quote of a key; from there on the reader takes it for the
members, whatever stands behind the closing brace. -/
def ReadsMembers (members : List (String × Json)) (text : List Char) : Prop :=
  ∀ rest, ∃ inner, skipBlanks (text ++ rest) = '"' :: inner ∧
    ∀ fuel, text.length ≤ fuel →
      readMembers fuel inner = ⟨members.map fun m => (.text m.1, .ofJson m.2.reread), none, some rest⟩

/-! ### Words, numbers and strings -/

/-- What starts with a minus sign or a digit is read as a numeral. -/
theorem readValue_numeral {c : Char} (hc : c = '-' ∨ isDigit c = true) (fuel : Nat)
    (rest : List Char) : readValue (fuel + 1) (c :: rest) = readNumeral (c :: rest) := by
  -- no other value starts with such a character
  have hne : ∀ d : Char, d ≠ '-' → isDigit d = false → c ≠ d := by
    rintro d hminus hdigit rfl
    rcases hc with hc | hc
    · exact hminus hc
    · rw [hc] at hdigit
      cases hdigit
  have hblank : isBlank c = false := by
    rcases hc with rfl | hc
    · decide
    · exact isBlank_of_isDigit hc
  rw [readValue, skipBlanks_cons hblank]
  split
  · next h => cases h
  · next h => exact absurd (List.cons.inj h).1 (hne 'n' (by decide) (by decide))
  · next h => exact absurd (List.cons.inj h).1 (hne 't' (by decide) (by decide))
  · next h => exact absurd (List.cons.inj h).1 (hne 'f' (by decide) (by decide))
  · next h => exact absurd (List.cons.inj h).1 (hne '"' (by decide) (by decide))
  · next h => exact absurd (List.cons.inj h).1 (hne '[' (by decide) (by decide))
  · next h => exact absurd (List.cons.inj h).1 (hne '\x7b' (by decide) (by decide))
  · next h =>
    obtain ⟨rfl, rfl⟩ := List.cons.inj h
    exact if_pos hc

theorem reads_word {value : Json} {word : List Char}
    (h : ∀ fuel rest, readValue (fuel + 1) (word ++ rest) = ⟨.ofJson value.reread, some rest⟩)
    (hword : word ≠ []) : Reads value word := by
  intro fuel rest hfuel _
  obtain ⟨fuel, rfl⟩ := Nat.exists_eq_add_one.2
    (Nat.lt_of_lt_of_le (List.length_pos_iff.2 hword) hfuel)
  exact h fuel rest

theorem reads_number {n : Number} (h : n.Readable) : Reads (.number n) n.numeral.chars := by
  intro fuel rest hfuel hrest
  obtain ⟨c, tail, hchars, hc⟩ := chars_head h.wellFormed
  rw [hchars, List.length_cons] at hfuel
  obtain ⟨fuel, rfl⟩ := Nat.exists_eq_add_one.2 (Nat.zero_lt_of_lt hfuel)
  -- the reader takes the numeral apart and finds the value that it stands for
  have hnumeral := readNumeral_chars h.wellFormed hrest
  rw [numeralStep, h.value, hchars] at hnumeral
  rw [hchars, List.cons_append, readValue_numeral hc]
  exact hnumeral

theorem reads_str (s : String) : Reads (.str s) ('"' :: quotedChars s ++ ['"']) := by
  intro fuel rest hfuel _
  rw [List.length_append, List.length_cons] at hfuel
  obtain ⟨fuel, rfl⟩ := Nat.exists_eq_add_one.2 (show 0 < fuel by omega)
  -- the closing quote ends the string
  have htext : '"' :: quotedChars s ++ ['"'] ++ rest
      = '"' :: (quotedChars s ++ '"' :: rest) := by simp
  rw [htext, readValue, skipBlanks_cons (by decide)]
  simp only [readString_quoted, String.ofList_toList]
  rfl

/-! ### Entries of containers -/

/-- A value with blanks in front of it. -/
theorem Reads.behind {value : Json} {text : List Char} (h : Reads value text) {front : List Char}
    (hfront : Blanks front) (fuel : Nat) {rest : List Char} (hfuel : text.length ≤ fuel)
    (hrest : Ends rest) :
    readValue fuel (front ++ (text ++ rest)) = ⟨.ofJson value.reread, some rest⟩ := by
  rw [readValue_congr (skipBlanks_append hfront _)]
  exact h fuel rest hfuel hrest

theorem Reads.last_item {item : Json} {front text back : List Char} (h : Reads item text)
    (hfront : Blanks front) (hback : Blanks back) :
    ReadsItems [item] (front ++ (text ++ (back ++ [']']))) := by
  intro fuel rest hfuel
  simp only [List.length_append, List.length_cons, List.length_nil] at hfuel
  obtain ⟨fuel, rfl⟩ := Nat.exists_eq_add_one.2 (show 0 < fuel by omega)
  -- behind the item stands the closing bracket, which ends a numeral as well
  have hclose : skipBlanks (back ++ ']' :: rest) = ']' :: rest := by
    rw [skipBlanks_append hback, skipBlanks_cons (by decide)]
  have hread := h.behind hfront fuel (by omega)
    (ends_blanks hback (ends_cons (c := ']') (by decide) (by decide) (by decide) rest))
  simp only [List.append_assoc, List.singleton_append, readItems, hread, hclose, List.map_cons,
    List.map_nil]

theorem Reads.next_item {item : Json} {items : List Json} {front text others : List Char}
    (h : Reads item text) (hfront : Blanks front) (hothers : ReadsItems items others) :
    ReadsItems (item :: items) (front ++ (text ++ ',' :: others)) := by
  intro fuel rest hfuel
  simp only [List.length_append, List.length_cons] at hfuel
  obtain ⟨fuel, rfl⟩ := Nat.exists_eq_add_one.2 (show 0 < fuel by omega)
  have hread := h.behind hfront fuel (by omega) (ends_comma (others ++ rest))
  simp only [List.append_assoc, List.cons_append, readItems, hread,
    skipBlanks_cons (show isBlank ',' = false by decide), hothers fuel rest (by omega),
    List.map_cons]
  rfl

/-- The key of a member is read up to its closing quote. -/
theorem readMembers_key (key : String) (fuel : Nat) (rest : List Char) :
    readMembers (fuel + 1) (quotedChars key ++ '"' :: rest) = readMember fuel (.text key) rest := by
  rw [readMembers, readString_quoted]
  dsimp only
  rw [String.ofList_toList]

/-- In front of the key of a member there are only blanks. -/
theorem skipBlanks_key {front : List Char} (hfront : Blanks front) (rest : List Char) :
    skipBlanks (front ++ '"' :: rest) = '"' :: rest := by
  rw [skipBlanks_append hfront, skipBlanks_cons (by decide)]

theorem Reads.last_member {key : String} {value : Json} {front gap text back : List Char}
    (h : Reads value text) (hfront : Blanks front) (hgap : Blanks gap) (hback : Blanks back) :
    ReadsMembers [(key, value)]
      (front ++ '"' :: (quotedChars key ++ '"' :: ':' :: (gap ++ (text ++ (back ++ ['\x7d']))))) := by
  intro rest
  refine ⟨quotedChars key ++ '"' :: ':' :: (gap ++ (text ++ (back ++ '\x7d' :: rest))), ?_, ?_⟩
  · simp only [List.append_assoc, List.cons_append, List.nil_append, skipBlanks_key hfront]
  · intro fuel hfuel
    simp only [List.length_append, List.length_cons, List.length_nil] at hfuel
    obtain ⟨fuel, rfl⟩ : ∃ f, fuel = f + 1 + 1 := ⟨fuel - 2, by omega⟩
    have hclose : skipBlanks (back ++ '\x7d' :: rest) = '\x7d' :: rest := by
      rw [skipBlanks_append hback, skipBlanks_cons (by decide)]
    have hread := h.behind hgap fuel (by omega)
      (ends_blanks hback (ends_cons (c := '\x7d') (by decide) (by decide) (by decide) rest))
    rw [readMembers_key]
    simp only [readMember, skipBlanks_cons (show isBlank ':' = false by decide), hread, hclose,
      List.map_cons, List.map_nil]

theorem Reads.next_member {key : String} {value : Json} {members : List (String × Json)}
    {front gap text others : List Char} (h : Reads value text) (hfront : Blanks front)
    (hgap : Blanks gap) (hothers : ReadsMembers members others) :
    ReadsMembers ((key, value) :: members)
      (front ++ '"' :: (quotedChars key ++ '"' :: ':' :: (gap ++ (text ++ ',' :: others)))) := by
  intro rest
  -- the key of the next member is read before the others are
  obtain ⟨inner, hinner, hall⟩ := hothers rest
  refine ⟨quotedChars key ++ '"' :: ':' :: (gap ++ (text ++ ',' :: (others ++ rest))), ?_, ?_⟩
  · simp only [List.append_assoc, List.cons_append, skipBlanks_key hfront]
  · intro fuel hfuel
    simp only [List.length_append, List.length_cons] at hfuel
    obtain ⟨fuel, rfl⟩ : ∃ f, fuel = f + 1 + 1 := ⟨fuel - 2, by omega⟩
    have hread := h.behind hgap fuel (by omega) (ends_comma (others ++ rest))
    rw [readMembers_key]
    simp only [readMember, skipBlanks_cons (show isBlank ':' = false by decide), hread,
      skipBlanks_cons (show isBlank ',' = false by decide), hinner, hall fuel (by omega),
      List.map_cons]
    rfl

/-! ### Containers -/

/-- An opening bracket with an item behind it. -/
theorem readValue_arr {text : List Char} {c : Char} {tail : List Char}
    (htext : skipBlanks text = c :: tail) (hblank : isBlank c = false) (hclose : c ≠ ']')
    (fuel : Nat) : readValue (fuel + 1) ('[' :: text)
      = ⟨.arr (readItems fuel text).entries (readItems fuel text).failure,
        (readItems fuel text).rest⟩ := by
  -- blanks behind the bracket are skipped twice, once to look for the closing bracket
  have hitems : readItems fuel text = readItems fuel (c :: tail) := by
    refine readItems_congr ?_ fuel
    rw [htext, skipBlanks_cons hblank]
  rw [hitems, readValue, skipBlanks_cons (by decide)]
  simp only [htext]
  split
  · next h => exact absurd (List.cons.inj h).1 hclose
  · next h => cases h
  · rfl

/-- Behind its blanks an item starts with a character that closes nothing. -/
theorem head_item {item : Json} {front text : List Char} (hfront : Blanks front)
    (h : Spells item text) (rest : List Char) :
    ∃ c tail, skipBlanks (front ++ (text ++ rest)) = c :: tail ∧ isBlank c = false ∧ c ≠ ']' := by
  obtain ⟨c, tail, rfl, hblank, hclose⟩ := head_spells h
  refine ⟨c, tail ++ rest, ?_, hblank, hclose⟩
  rw [skipBlanks_append hfront, List.cons_append, skipBlanks_cons hblank]

theorem head_spellsItems {items : List Json} {text : List Char} (h : SpellsItems items text)
    (rest : List Char) :
    ∃ c tail, skipBlanks (text ++ rest) = c :: tail ∧ isBlank c = false ∧ c ≠ ']' := by
  cases h with
  | last hfront hitem _ =>
    rw [List.append_assoc, List.append_assoc]
    exact head_item hfront hitem _
  | next hfront hitem _ =>
    rw [List.append_assoc, List.append_assoc]
    exact head_item hfront hitem _

theorem ReadsItems.arr {items : List Json} {text : List Char} (h : ReadsItems items text)
    (hspells : SpellsItems items text) : Reads (.arr items) ('[' :: text) := by
  intro fuel rest hfuel _
  rw [List.length_cons] at hfuel
  obtain ⟨fuel, rfl⟩ := Nat.exists_eq_add_one.2 (Nat.zero_lt_of_lt hfuel)
  -- the reader looks for a closing bracket before it reads the first item
  obtain ⟨c, tail, hhead, hblank, hclose⟩ := head_spellsItems hspells rest
  rw [List.cons_append, readValue_arr hhead hblank hclose, h fuel rest (by omega), Json.reread,
    Json.rereadItems_eq, Source.ofJson_arr, List.map_map]
  rfl

theorem ReadsMembers.obj {members : List (String × Json)} {text : List Char}
    (h : ReadsMembers members text) : Reads (.obj members) ('\x7b' :: text) := by
  intro fuel rest hfuel _
  rw [List.length_cons] at hfuel
  obtain ⟨fuel, rfl⟩ := Nat.exists_eq_add_one.2 (Nat.zero_lt_of_lt hfuel)
  -- the reader is behind the quote of the first key already when it turns to the members
  obtain ⟨inner, hinner, hall⟩ := h rest
  rw [List.cons_append, readValue, skipBlanks_cons (by decide)]
  simp only [hinner, hall fuel (by omega)]
  rw [Json.reread, Json.rereadMembers_eq, Source.ofJson_obj, List.map_map]
  rfl

mutual

/-- **Reading a text of a value.** -/
theorem reads_spells : {value : Json} → {text : List Char} → Spells value text → Reads value text
  | _, _, .null => reads_word (fun _ _ => rfl) (List.cons_ne_nil _ _)
  | _, _, .true => reads_word (fun _ _ => rfl) (List.cons_ne_nil _ _)
  | _, _, .false => reads_word (fun _ _ => rfl) (List.cons_ne_nil _ _)
  | _, _, .number h => reads_number h
  | _, _, .str s => reads_str s
  | _, _, .emptyArr => reads_word (fun _ _ => rfl) (List.cons_ne_nil _ _)
  | _, _, .arr h => (readsItems_spells h).arr h
  | _, _, .emptyObj => reads_word (fun _ _ => rfl) (List.cons_ne_nil _ _)
  | _, _, .obj h => (readsMembers_spells h).obj

theorem readsItems_spells : {items : List Json} → {text : List Char} → SpellsItems items text →
    ReadsItems items text
  | _, _, .last hfront h hback => (reads_spells h).last_item hfront hback
  | _, _, .next hfront h hothers => (reads_spells h).next_item hfront (readsItems_spells hothers)

theorem readsMembers_spells : {members : List (String × Json)} → {text : List Char} →
    SpellsMembers members text → ReadsMembers members text
  | _, _, .last hfront hgap h hback => (reads_spells h).last_member hfront hgap hback
  | _, _, .next hfront hgap h hothers =>
    (reads_spells h).next_member hfront hgap (readsMembers_spells hothers)

end

end Reader

namespace Json

open Reader

/-! ### Printed values -/

theorem spells_bool (b : Bool) :
    Spells (.bool b) (if b then ['t', 'r', 'u', 'e'] else ['f', 'a', 'l', 's', 'e']) := by
  cases b with
  | true => exact .true
  | false => exact .false

theorem spellsItems_pretty {items : List Json} (hne : items ≠ [])
    (h : ∀ item ∈ items, ∀ level, Spells item (item.prettyAt level).toList) (level close : Nat) :
    SpellsItems items ((prettyItems level items).toList ++ ((lineBreak close).toList ++ [']'])) := by
  induction items with
  | nil => exact absurd rfl hne
  | cons item others ih =>
    have hitem := h item List.mem_cons_self level
    -- the last item is followed by the closing bracket, every other by a comma
    by_cases hlast : others = []
    · subst hlast
      rw [toList_prettyItems_single, List.append_assoc]
      exact .last (blanks_lineBreak level) hitem (blanks_lineBreak close)
    · rw [toList_prettyItems_cons level item hlast, List.append_assoc, List.append_assoc,
        List.cons_append]
      exact .next (blanks_lineBreak level) hitem
        (ih hlast fun item hmem => h item (List.mem_cons_of_mem _ hmem))

theorem spellsMembers_pretty {members : List (String × Json)} (hne : members ≠ [])
    (h : ∀ m ∈ members, ∀ level, Spells m.2 (m.2.prettyAt level).toList) (level close : Nat) :
    SpellsMembers members
      ((prettyMembers level members).toList ++ ((lineBreak close).toList ++ ['\x7d'])) := by
  induction members with
  | nil => exact absurd rfl hne
  | cons m others ih =>
    obtain ⟨key, value⟩ := m
    have hvalue := h (key, value) List.mem_cons_self level
    by_cases hlast : others = []
    · subst hlast
      rw [toList_prettyMembers_single]
      simpa only [List.append_assoc, List.cons_append, List.nil_append] using
        SpellsMembers.last (blanks_lineBreak level) blanks_gap hvalue (blanks_lineBreak close)
    · rw [toList_prettyMembers_cons level key value hlast]
      simpa only [List.append_assoc, List.cons_append, List.nil_append] using
        SpellsMembers.next (blanks_lineBreak level) blanks_gap hvalue
          (ih hlast fun m hmem => h m (List.mem_cons_of_mem _ hmem))

/-- The text over several lines is a text of the value. -/
theorem spells_pretty {value : Json} (h : value.Every Number.Readable) :
    ∀ level, Spells value (value.prettyAt level).toList := by
  induction h with
  | null => exact fun level => toList_prettyAt_null level ▸ .null
  | bool b => exact fun level => toList_prettyAt_bool level b ▸ spells_bool b
  | number hn => exact fun level => toList_prettyAt_number level _ ▸ .number hn
  | str s => exact fun level => toList_prettyAt_str level s ▸ .str s
  | @arr items _ ih =>
    intro level
    by_cases hnil : items = []
    · -- without items the brackets stand next to each other, at every level
      subst hnil
      exact toList_prettyAt_arr_nil level ▸ .emptyArr
    · rw [toList_prettyAt_arr level hnil]
      exact .arr (spellsItems_pretty hnil ih _ _)
  | @obj members _ ih =>
    intro level
    by_cases hnil : members = []
    · subst hnil
      exact toList_prettyAt_obj_nil level ▸ .emptyObj
    · rw [toList_prettyAt_obj level hnil]
      exact .obj (spellsMembers_pretty hnil ih _ _)

theorem spellsItems_compact {items : List Json} (hne : items ≠ [])
    (h : ∀ item ∈ items, Spells item item.compact.toList) :
    SpellsItems items ((compactItems items).toList ++ [']']) := by
  induction items with
  | nil => exact absurd rfl hne
  | cons item others ih =>
    have hitem := h item List.mem_cons_self
    by_cases hlast : others = []
    · subst hlast
      rw [compactItems]
      exact .last blanks_nil hitem blanks_nil
    · rw [compactItems, String.toList_append, String.toList_append, List.append_assoc,
        List.append_assoc]
      · exact .next blanks_nil hitem
          (ih hlast fun item hmem => h item (List.mem_cons_of_mem _ hmem))
      · exact fun hnil => hlast hnil

theorem spellsMembers_compact {members : List (String × Json)} (hne : members ≠ [])
    (h : ∀ m ∈ members, Spells m.2 m.2.compact.toList) :
    SpellsMembers members ((compactMembers members).toList ++ ['\x7d']) := by
  induction members with
  | nil => exact absurd rfl hne
  | cons m others ih =>
    obtain ⟨key, value⟩ := m
    have hvalue := h (key, value) List.mem_cons_self
    by_cases hlast : others = []
    · subst hlast
      have hspells : SpellsMembers [(key, value)] _ := .last blanks_nil blanks_nil hvalue blanks_nil
      rw [compactMembers]
      simpa [String.toList_append, toList_quote] using hspells
    · have hothers := ih hlast fun m hmem => h m (List.mem_cons_of_mem _ hmem)
      have hspells : SpellsMembers ((key, value) :: others) _ :=
        .next blanks_nil blanks_nil hvalue hothers
      rw [compactMembers]
      · simpa [String.toList_append, toList_quote] using hspells
      · exact fun hnil => hlast hnil

/-- The text without blanks is a text of the value. -/
theorem spells_compact {value : Json} (h : value.Every Number.Readable) :
    Spells value value.compact.toList := by
  induction h with
  | null => exact .null
  | bool b =>
    cases b with
    | true => exact .true
    | false => exact .false
  | @number n hn =>
    rw [compact, ← Number.chars_numeral]
    exact .number hn
  | str s =>
    rw [compact, toList_quote]
    exact .str s
  | @arr items _ ih =>
    by_cases hnil : items = []
    · subst hnil
      exact .emptyArr
    · rw [compact, String.toList_append, String.toList_append, List.append_assoc]
      exact .arr (spellsItems_compact hnil ih)
  | @obj members _ ih =>
    by_cases hnil : members = []
    · subst hnil
      exact .emptyObj
    · rw [compact, String.toList_append, String.toList_append, List.append_assoc]
      exact .obj (spellsMembers_compact hnil ih)

end Json

/-- **A text of a value.** Its document is that of the value with every number read back, and nothing
stands behind it. -/
theorem Document.ofTextUnlimited_of_spells {value : Json} {text : String}
    (h : value.Spells text.toList) :
    Document.ofTextUnlimited text = ⟨.ofJson value.reread, false⟩ := by
  have hread := Reader.reads_spells h (3 * text.toList.length + 3) [] (by omega) Reader.ends_nil
  rw [List.append_nil] at hread
  unfold Document.ofTextUnlimited
  dsimp only
  rw [hread]
  rfl

/-- The text over several lines. -/
theorem Document.ofTextUnlimited_pretty {value : Json} (h : value.Every Number.Readable) :
    Document.ofTextUnlimited value.pretty = ⟨.ofJson value.reread, false⟩ :=
  Document.ofTextUnlimited_of_spells (Json.spells_pretty h 0)

/-- The text of a value reads as the canonical value with every number read back. -/
theorem Json.ofText?_pretty {value : Json} (h : value.Every Number.Readable) :
    Json.ofText? value.pretty = .ok value.reread.canonical := by
  unfold Json.ofText?
  rw [Document.ofTextUnlimited_pretty h]
  dsimp only
  rw [Source.toJson_ofJson]
  rfl

end VolumeBroker
