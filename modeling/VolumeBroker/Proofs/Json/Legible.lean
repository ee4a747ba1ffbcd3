import VolumeBroker.Proofs.Json.Text
import VolumeBroker.Proofs.Number.Reread
/-!
# What is read from text

Whatever text a document is read from, its numbers are within the range of numbers that text can hold
(`Document.every_ofText`), so a value that is read from it is `Json.Legible`: canonical, and made of
such numbers only. `Source.Within` adds the nesting limit and goes over to the parts of a document.

In the other direction, `Document.ofText_pretty` says what becomes of a value that is printed and read
within the nesting limit.
-/

namespace VolumeBroker

/-! ### Numbers in documents -/

/-- Every number in the document satisfies a condition. -/
inductive Source.Every (p : Number → Prop) : Source → Prop where
  | null : Every p .null
  | bool (b : Bool) : Every p (.bool b)
  | number {n : Number} (h : p n) : Every p (.number n)
  | str (s : String) : Every p (.str s)
  | arr {items : List Source} (failure : Option Fault) (h : ∀ item ∈ items, Every p item) :
      Every p (.arr items failure)
  | obj {members : List (Key × Source)} (failure : Option Fault) (h : ∀ m ∈ members, Every p m.2) :
      Every p (.obj members failure)
  | keyless {found : Source} (h : Every p found) : Every p (.keyless found)
  | broken (onRead : Fault) (onSkip : Option Fault) : Every p (.broken onRead onSkip)

namespace Numeral

/-- Whatever a literal stands for is within range. -/
theorem inRange_of_value? {n : Numeral} {value : Number} (h : n.value? = some value) :
    value.InRange := by
  have hreal : ∀ {x : Option Binary64}, x.map Number.real = some value → value.InRange := by
    intro x hx
    obtain ⟨y, -, rfl⟩ := Option.map_eq_some_iff.1 hx
    exact trivial
  have hwhole : (absorb 0 n.whole).1 ≤ maxSignificand := (absorb_le (Nat.zero_le _)).2.2.1
  have hmax : maxSignificand < twoPow 64 := by decide
  unfold value? at h
  dsimp only at h
  -- a float is always in range; an integer is checked against its significand
  split at h
  · exact hreal h
  split at h
  · exact hreal h
  split at h
  · rw [← Option.some.inj h]
    show -(twoPow 63 : Int) ≤ _ ∧ _ < (twoPow 64 : Int)
    omega
  split at h
  · rw [← Option.some.inj h]
    show -(twoPow 63 : Int) ≤ _ ∧ _ < (twoPow 64 : Int)
    omega
  · exact hreal h

end Numeral

namespace Reader

/-! ### Readers -/

theorem every_halt (fault : Fault) : (halt fault).node.Every Number.InRange := .broken _ _

theorem every_readWord {node : Source} (hnode : node.Every Number.InRange) (word text : List Char) :
    (readWord node word text).node.Every Number.InRange := by
  induction word generalizing text with
  | nil =>
    cases text <;> exact hnode
  | cons expected word ih =>
    cases text with
    | nil => exact every_halt _
    | cons c rest =>
      rw [readWord]
      split
      · exact ih rest
      · exact every_halt _

theorem every_numeralStep (n : Numeral) (rest : List Char) :
    (numeralStep n rest).node.Every Number.InRange := by
  unfold numeralStep
  split
  · next value hvalue => exact .number (Numeral.inRange_of_value? hvalue)
  · exact .broken _ _

theorem every_missingDigit (rest : List Char) :
    (missingDigit rest).node.Every Number.InRange := by
  unfold missingDigit
  split <;> exact .broken _ _

theorem every_readExponent (n : Numeral) (text : List Char) :
    (readExponent n text).node.Every Number.InRange := by
  unfold readExponent
  split
  · split
    · -- with a sign in front of its digits, or without
      split
      all_goals
        dsimp only
        split
        · exact every_missingDigit _
        · exact every_numeralStep _ _
    · exact every_numeralStep _ _
  · exact every_numeralStep _ _

theorem every_readNumeral (text : List Char) :
    (readNumeral text).node.Every Number.InRange := by
  have hfraction : ∀ n text, (readFraction n text).node.Every Number.InRange := by
    intro n text
    unfold readFraction
    split
    · dsimp only
      split
      · exact every_missingDigit _
      · exact every_readExponent _ _
    · exact every_readExponent _ _
  have hunsigned : ∀ negative text, (readUnsigned negative text).node.Every Number.InRange := by
    intro negative text
    unfold readUnsigned
    dsimp only
    split
    · exact every_missingDigit _
    · exact every_halt _
    · exact hfraction _ _
  unfold readNumeral
  split
  · exact hunsigned _ _
  · exact hunsigned _ _

/-- With this much fuel every reader gives documents within range. -/
structure InRangeAt (fuel : Nat) : Prop where
  value : ∀ text, (readValue fuel text).node.Every Number.InRange
  items : ∀ text, ∀ item ∈ (readItems fuel text).entries, item.Every Number.InRange
  members : ∀ text, ∀ m ∈ (readMembers fuel text).entries, m.2.Every Number.InRange
  member : ∀ key text, ∀ m ∈ (readMember fuel key text).entries, m.2.Every Number.InRange

theorem inRangeAt_zero : InRangeAt 0 where
  value _ := every_halt _
  items _ _ h := absurd h List.not_mem_nil
  members _ _ h := absurd h List.not_mem_nil
  member _ _ _ h := absurd h List.not_mem_nil

namespace InRangeAt

variable {fuel : Nat}

theorem readValue_succ (ih : InRangeAt fuel) (text : List Char) :
    (readValue (fuel + 1) text).node.Every Number.InRange := by
  rw [readValue]
  split
  · exact every_halt _
  · exact every_readWord .null _ _
  · exact every_readWord (.bool true) _ _
  · exact every_readWord (.bool false) _ _
  · -- a string, which holds no number
    split
    · exact .str _
    · exact .broken _ _
    · exact .broken _ _
  · split
    · exact .arr _ fun _ h => absurd h List.not_mem_nil
    · exact .arr _ fun _ h => absurd h List.not_mem_nil
    · exact .arr _ (ih.items _)
  · split
    · exact .obj _ fun _ h => absurd h List.not_mem_nil
    · exact .obj _ fun _ h => absurd h List.not_mem_nil
    · exact .obj _ (ih.members _)
    · exact .keyless (ih.value _)
  · split
    · exact every_readNumeral _
    · exact every_halt _

theorem readItems_succ (ih : InRangeAt fuel) (text : List Char) :
    ∀ item ∈ (readItems (fuel + 1) text).entries, item.Every Number.InRange := by
  have hfirst : ∀ item ∈ [(readValue fuel text).node], item.Every Number.InRange := by
    intro item hitem
    rw [List.mem_singleton.1 hitem]
    exact ih.value text
  rw [readItems]
  split
  · exact hfirst
  split
  · exact hfirst
  · exact hfirst
  · -- the items behind the comma are read with less fuel
    intro item hitem
    rcases List.mem_cons.1 hitem with rfl | hitem
    · exact ih.value text
    · exact ih.items _ item hitem
  · exact hfirst

/-- A member without a value. -/
theorem every_stop (key : Key) (fault : Fault) :
    ∀ m ∈ [(key, Source.stop fault)], m.2.Every Number.InRange := by
  intro m hm
  rw [List.mem_singleton.1 hm]
  exact .broken _ _

theorem readMembers_succ (ih : InRangeAt fuel) (text : List Char) :
    ∀ m ∈ (readMembers (fuel + 1) text).entries, m.2.Every Number.InRange := by
  rw [readMembers]
  split
  · exact ih.member _ _
  · exact ih.member _ _
  · exact every_stop _ _

theorem readMember_succ (ih : InRangeAt fuel) (key : Key) (text : List Char) :
    ∀ m ∈ (readMember (fuel + 1) key text).entries, m.2.Every Number.InRange := by
  rw [readMember]
  split
  · exact every_stop _ _
  · next rest _ =>
    -- whatever follows, the member itself stands in front
    have hcons : ∀ {others : List (Key × Source)},
        (∀ m ∈ others, m.2.Every Number.InRange) →
        ∀ m ∈ (key, (readValue fuel rest).node) :: others, m.2.Every Number.InRange := by
      intro others hothers m hm
      rcases List.mem_cons.1 hm with rfl | hm
      · exact ih.value rest
      · exact hothers m hm
    have hfirst : ∀ m ∈ [(key, (readValue fuel rest).node)], m.2.Every Number.InRange :=
      hcons fun _ h => absurd h List.not_mem_nil
    dsimp only
    split
    · exact hfirst
    split
    · exact hfirst
    · exact hfirst
    · -- behind a comma there is another key, or what should have been one
      split
      · exact hcons (ih.members _)
      · exact hcons (every_stop _ _)
      · exact hcons (every_stop _ _)
    · exact hfirst
  · exact every_stop _ _

end InRangeAt

/-- All readers at once: the fuel that is left carries the induction. -/
theorem inRangeAt (fuel : Nat) : InRangeAt fuel := by
  induction fuel with
  | zero => exact inRangeAt_zero
  | succ fuel ih =>
    exact ⟨ih.readValue_succ, ih.readItems_succ, ih.readMembers_succ, ih.readMember_succ⟩

end Reader

theorem Document.every_ofTextUnlimited (text : String) :
    (Document.ofTextUnlimited text).root.Every Number.InRange :=
  (Reader.inRangeAt _).value _

/-! ### Legible values -/

/-- A value as a reader of text gives it: canonical, with numbers that text can hold. -/
structure Json.Legible (value : Json) : Prop where
  canonical : value.canonical = value
  numbers : value.Every Number.InRange

theorem Json.Legible.tidy {value : Json} (h : value.Legible) : value.Tidy :=
  h.canonical ▸ tidy_canonical value

theorem Json.Every.imp {p q : Number → Prop} (himp : ∀ n, p n → q n) {value : Json}
    (h : value.Every p) : value.Every q := by
  induction h with
  | null => exact .null
  | bool b => exact .bool b
  | number hn => exact .number (himp _ hn)
  | str s => exact .str s
  | arr _ ih => exact .arr ih
  | obj _ ih => exact .obj ih

namespace Source

/-- The value of a document has no other numbers than the document. -/
theorem Every.toJson {p : Number → Prop} {source : Source} (h : source.Every p) {value : Json}
    (hvalue : source.toJson = .ok value) : value.Every p := by
  induction h generalizing value with
  | null => cases hvalue; exact .null
  | bool b => cases hvalue; exact .bool b
  | number hn => cases hvalue; exact .number hn
  | str s => cases hvalue; exact .str s
  | arr failure _ ih =>
    obtain ⟨-, values, rfl, hvalues⟩ := toJson_arr hvalue
    refine .arr fun v hv => ?_
    obtain ⟨item, hitem, hread⟩ := exists_of_mem_right hvalues hv
    exact ih item hitem hread
  | obj failure _ ih =>
    obtain ⟨-, entries, rfl, hentries⟩ := toJson_obj hvalue
    refine .obj fun e he => ?_
    obtain ⟨m, hm, -, hread⟩ := exists_of_mem_right hentries (Dict.mem_of_mem_ofList he)
    exact ih m hm hread
  | keyless _ _ => cases hvalue
  | broken onRead onSkip => cases hvalue

/-- The parts of a document have no other numbers. -/
theorem Every.part {p : Number → Prop} {source part : Source} (h : source.Every p)
    (hpart : part ∈ source.parts) : part.Every p := by
  cases h with
  | arr failure hitems => exact hitems part hpart
  | obj failure hmembers =>
    obtain ⟨m, hm, rfl⟩ := List.mem_map.1 hpart
    exact hmembers m hm
  | null => cases hpart
  | bool b => cases hpart
  | number hn => cases hpart
  | str s => cases hpart
  | keyless hfound => cases hpart
  | broken onRead onSkip => cases hpart

/-- A limit on nesting takes numbers away and brings none. -/
theorem Every.limitNesting {p : Number → Prop} {source : Source} (h : source.Every p) :
    ∀ room, (source.limitNesting room).Every p := by
  induction h with
  | null => exact fun _ => .null
  | bool b => exact fun _ => .bool b
  | number hn => exact fun _ => .number hn
  | str s => exact fun _ => .str s
  | arr failure _ ih =>
    intro room
    rw [Source.limitNesting]
    split
    · exact .broken _ _
    · rw [limitItems_eq]
      exact .arr failure (List.forall_mem_map.2 fun item hitem => ih item hitem _)
  | obj failure _ ih =>
    intro room
    rw [Source.limitNesting]
    split
    · exact .broken _ _
    · rw [limitMembers_eq]
      exact .obj failure (List.forall_mem_map.2 fun m hm => ih m hm _)
  | keyless _ ih =>
    intro room
    rw [Source.limitNesting]
    split
    · exact .broken _ _
    · exact .keyless (ih _)
  | broken onRead onSkip => exact fun _ => .broken onRead onSkip

/-- A document read from text within a nesting limit. -/
def Within (room : Nat) (source : Source) : Prop :=
  ∃ raw : Source, raw.Every Number.InRange ∧ source = raw.limitNesting room

variable {room : Nat} {source : Source}

/-- The value of such a document is legible, and its nesting within the limit. -/
theorem Within.toJson (h : source.Within room) {value : Json} (hvalue : source.toJson = .ok value) :
    value.Legible ∧ value.depth ≤ room := by
  obtain ⟨raw, hraw, rfl⟩ := h
  obtain ⟨hunlimited, hdepth⟩ := toJson_limitNesting hvalue
  exact ⟨⟨toJson_canonical hvalue, hraw.toJson hunlimited⟩, hdepth⟩

/-- The parts of a document have one level less. -/
theorem Within.part (h : source.Within room) {part : Source} (hpart : part ∈ source.parts) :
    0 < room ∧ part.Within (room - 1) := by
  obtain ⟨raw, hraw, rfl⟩ := h
  cases hraw with
  | null => cases hpart
  | bool b => cases hpart
  | number hn => cases hpart
  | str s => cases hpart
  | @arr items failure hitems =>
    rw [limitNesting] at hpart
    split at hpart
    · -- without room there are no parts
      cases hpart
    · rw [limitItems_eq] at hpart
      obtain ⟨item, hitem, rfl⟩ := List.mem_map.1 hpart
      exact ⟨by omega, item, hitems item hitem, rfl⟩
  | @obj members failure hmembers =>
    rw [limitNesting] at hpart
    split at hpart
    · cases hpart
    · rw [limitMembers_eq] at hpart
      obtain ⟨m, hm, rfl⟩ := List.mem_map.1 hpart
      obtain ⟨raw, hraw, rfl⟩ := List.mem_map.1 hm
      exact ⟨by omega, raw.2, hmembers raw hraw, rfl⟩
  | keyless hfound =>
    rw [limitNesting] at hpart
    split at hpart <;> cases hpart
  | broken onRead onSkip => cases hpart

end Source

theorem Document.every_ofText (text : String) : (Document.ofText text).root.Every Number.InRange :=
  (Document.every_ofTextUnlimited text).limitNesting _

/-- What is read from text from outside is within the limit on nesting. -/
theorem Document.within_ofText (text : String) :
    (Document.ofText text).root.Within Document.nestingLimit :=
  ⟨_, Document.every_ofTextUnlimited text, rfl⟩

theorem Document.within_ofContent (content : Content) :
    (Document.ofContent content).root.Within Document.nestingLimit := by
  cases content with
  | text text => exact within_ofText text
  | bytes bytes => exact within_ofText _

/-! ### Values read back -/

namespace Json

/-- Reading a value back repeats no key. -/
theorem Tidy.reread {value : Json} (h : value.Tidy) : value.reread.Tidy := by
  induction h with
  | null => exact .null
  | bool b => exact .bool b
  | number n => exact .number _
  | str s => exact .str s
  | arr _ ih =>
    rw [Json.reread, rereadItems_eq]
    refine .arr fun item hitem => ?_
    obtain ⟨raw, hraw, rfl⟩ := List.mem_map.1 hitem
    exact ih raw hraw
  | obj hnodup _ ih =>
    rw [Json.reread, rereadMembers_eq]
    refine .obj (by rw [List.map_map]; exact hnodup) fun m hm => ?_
    obtain ⟨raw, hraw, rfl⟩ := List.mem_map.1 hm
    exact ih raw hraw

/-- Reading a value back changes numbers only, so it leaves the order of keys as it is. -/
theorem canonical_reread (value : Json) : value.reread.canonical = value.canonical.reread := by
  induction value with
  | null => rfl
  | bool b => rfl
  | number n => rfl
  | str s => rfl
  | arr items ih =>
    rw [Json.reread, rereadItems_eq, canonical_arr, canonical_arr, Json.reread, rereadItems_eq,
      List.map_map, List.map_map]
    exact congrArg Json.arr (List.map_congr_left ih)
  | obj members ih =>
    rw [Json.reread, rereadMembers_eq, canonical_obj, canonical_obj, Json.reread, rereadMembers_eq,
      Dict.ofList_map]
    change Json.obj _ = .obj (((Dict.ofList members).map canonical).map Json.reread).entries
    -- the keys are those of one dictionary, so only the values are at stake
    refine congrArg (fun d : Dict Json => Json.obj d.entries) (Dict.ext_get? fun k => ?_)
    rw [Dict.get?_map, Dict.get?_map, Dict.get?_map, Dict.get?_map, Option.map_map, Option.map_map]
    cases hget : (Dict.ofList members).get? k with
    | none => rfl
    | some v =>
      have hmem := Dict.mem_of_mem_ofList (Dict.get?_eq_some_iff.1 hget)
      exact congrArg some (ih (k, v) hmem)

theorem Legible.canonical_reread {value : Json} (h : value.Legible) :
    value.reread.canonical = value.reread := by
  rw [Json.canonical_reread, h.canonical]

/-- A value whose numbers are read back as they are is read back as it is. -/
theorem Every.reread_eq {value : Json} (h : value.Every fun n => n.reread = n) :
    value.reread = value := by
  induction h with
  | null => rfl
  | bool b => rfl
  | number hn => exact congrArg Json.number hn
  | str s => rfl
  | @arr items _ ih =>
    rw [Json.reread, rereadItems_eq]
    refine congrArg Json.arr ?_
    calc items.map Json.reread
        = items.map id := List.map_congr_left ih
      _ = items := List.map_id items
  | @obj members _ ih =>
    rw [Json.reread, rereadMembers_eq]
    refine congrArg Json.obj ?_
    calc members.map (fun m => (m.1, m.2.reread))
        = members.map id := List.map_congr_left fun m hm => Prod.ext rfl (ih m hm)
      _ = members := List.map_id members

/-- Reading a value back changes numbers only, so it leaves the nesting as it is. -/
@[simp] theorem depth_reread (value : Json) : value.reread.depth = value.depth := by
  -- both nest within the same limits
  have hle : ∀ n, value.reread.depth ≤ n ↔ value.depth ≤ n := by
    induction value with
    | null => exact fun _ => Iff.rfl
    | bool b => exact fun _ => Iff.rfl
    | number n => exact fun _ => Iff.rfl
    | str s => exact fun _ => Iff.rfl
    | arr items ih =>
      intro n
      rw [Json.reread, rereadItems_eq, depth_arr_le, depth_arr_le, List.forall_mem_map]
      exact and_congr_right fun _ => forall₂_congr fun item hitem => ih item hitem _
    | obj members ih =>
      intro n
      rw [Json.reread, rereadMembers_eq, depth_obj_le, depth_obj_le, List.forall_mem_map]
      exact and_congr_right fun _ => forall₂_congr fun m hm => ih m hm _
  exact Nat.le_antisymm ((hle _).2 (Nat.le_refl _)) ((hle _).1 (Nat.le_refl _))

end Json

/-- **A value that is printed and read within the nesting limit.** -/
theorem Document.ofText_pretty {value : Json} (h : value.Every Number.InRange) :
    Document.ofText value.pretty
      = ⟨(Source.ofJson value.reread).limitNesting Document.nestingLimit, false⟩ := by
  unfold Document.ofText
  rw [Document.ofTextUnlimited_pretty (h.imp fun n hn => Number.readable_of_inRange hn)]

end VolumeBroker
