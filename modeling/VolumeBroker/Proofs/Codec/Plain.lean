import VolumeBroker.Proofs.Codec.Laws
import VolumeBroker.Proofs.Json.Legible
/-!
# Plain documents

A value is *plain* within a number of levels if its containers are nested no deeper and its numbers
are integers that fit into 64 bits. A plain value that fits into the reader's nesting limit is read
from every one of its texts as it was written (`Document.ofText_of_plain`): no digit is lost and
nothing is cut off. Whether a codec writes plain values only is found out from its parts, one law for
each way to build a codec.
-/

namespace VolumeBroker

namespace Json

/-- A value with few levels whose numbers are integers of 64 bits. -/
inductive Plain : Nat → Json → Prop where
  | null (n : Nat) : Plain n .null
  | bool (n : Nat) (b : Bool) : Plain n (.bool b)
  | int {n : Nat} {value : Int} (h : (Number.int value).InRange) : Plain n (.number (.int value))
  | str (n : Nat) (s : String) : Plain n (.str s)
  | arr {n : Nat} {items : List Json} (h : ∀ item ∈ items, Plain n item) : Plain (n + 1) (.arr items)
  | obj {n : Nat} {members : List (String × Json)} (h : ∀ m ∈ members, Plain n m.2) :
    Plain (n + 1) (.obj members)

namespace Plain

variable {n : Nat} {value : Json}

theorem mono (h : value.Plain n) : ∀ {m : Nat}, n ≤ m → value.Plain m := by
  induction h with
  | null n => exact fun _ => .null _
  | bool n b => exact fun _ => .bool _ b
  | int hvalue => exact fun _ => .int hvalue
  | str n s => exact fun _ => .str _ s
  | arr _ ih =>
    intro m hm
    -- one level is used up by the array itself
    obtain ⟨m, rfl⟩ := Nat.exists_eq_add_one.2 (Nat.zero_lt_of_lt hm)
    exact .arr fun item hitem => ih item hitem (Nat.le_of_succ_le_succ hm)
  | obj _ ih =>
    intro m hm
    obtain ⟨m, rfl⟩ := Nat.exists_eq_add_one.2 (Nat.zero_lt_of_lt hm)
    exact .obj fun member hmember => ih member hmember (Nat.le_of_succ_le_succ hm)

theorem depth_le (h : value.Plain n) : value.depth ≤ n := by
  induction h with
  | null n => exact Nat.zero_le n
  | bool n b => exact Nat.zero_le n
  | int _ => exact Nat.zero_le _
  | str n s => exact Nat.zero_le n
  | arr _ ih => exact depth_arr_le.2 ⟨Nat.succ_pos _, ih⟩
  | obj _ ih => exact depth_obj_le.2 ⟨Nat.succ_pos _, ih⟩

/-- Integers are read back as they are. -/
theorem reread_eq (h : value.Plain n) : value.reread = value := by
  induction h with
  | null n => rfl
  | bool n b => rfl
  | int hvalue => rw [reread, Number.reread_int hvalue]
  | str n s => rfl
  | arr _ ih =>
    rw [reread, rereadItems_eq]
    exact congrArg Json.arr ((List.map_congr_left ih).trans (List.map_id' _))
  | @obj _ members _ ih =>
    rw [reread, rereadMembers_eq]
    have hsame : ∀ m ∈ members, (m.1, m.2.reread) = id m := fun m hm => Prod.ext rfl (ih m hm)
    exact congrArg Json.obj ((List.map_congr_left hsame).trans (List.map_id _))

theorem every (h : value.Plain n) : value.Every Number.InRange := by
  induction h with
  | null n => exact .null
  | bool n b => exact .bool b
  | int hvalue => exact .number hvalue
  | str n s => exact .str s
  | arr _ ih => exact .arr ih
  | obj _ ih => exact .obj ih

theorem canonical (h : value.Plain n) : value.canonical.Plain n := by
  induction h with
  | null n => exact .null n
  | bool n b => exact .bool n b
  | int hvalue => exact .int hvalue
  | str n s => exact .str n s
  | arr _ ih =>
    rw [canonical_arr]
    exact .arr (List.forall_mem_map.2 ih)
  | obj _ ih =>
    rw [canonical_obj]
    refine .obj fun m hm => ?_
    obtain ⟨raw, hraw, hcanonical⟩ := exists_of_mem_canonical hm
    exact hcanonical ▸ ih raw hraw

/-- The order of members makes no difference. -/
theorem of_canonical (htidy : value.Tidy) : ∀ {n : Nat}, value.canonical.Plain n → value.Plain n := by
  -- on the value, not on its canonical form, whose members stand in another order
  induction htidy with
  | null => exact fun h => h
  | bool b => exact fun h => h
  | number m => exact fun h => h
  | str s => exact fun h => h
  | arr _ ih =>
    intro n h
    rw [canonical_arr] at h
    cases h with
    | arr hitems =>
      exact .arr fun item hitem => ih item hitem (hitems _ (List.mem_map_of_mem hitem))
  | @obj members hnodup _ ih =>
    intro n h
    rw [canonical_obj] at h
    cases h with
    | obj hmembers =>
      refine .obj fun m hm => ih m hm ?_
      -- the canonical object has a member for every member of the object
      have hget : ((Dict.ofList members).map Json.canonical).get? m.1 = some m.2.canonical := by
        rw [Dict.get?_map, Dict.get?_ofList_of_nodup hnodup, Dict.lookup_of_mem hnodup hm]
        rfl
      exact hmembers (m.1, m.2.canonical) (Dict.get?_eq_some_iff.1 hget)

end Plain

end Json

/-- **A value that text can hold is read as it was written**, from whichever of its texts: its numbers are
read back as they are, and it is nested within the limit. -/
theorem Document.ofText_of_spells {value : Json} (hreread : value.reread = value)
    (hdepth : value.depth ≤ Document.nestingLimit) {text : String} (htext : value.Spells text.toList) :
    Document.ofText text = ⟨.ofJson value, false⟩ := by
  unfold Document.ofText
  rw [Document.ofTextUnlimited_of_spells htext, hreread]
  dsimp only
  rw [Source.limitNesting_ofJson hdepth]

theorem Document.ofText_of_plain {value : Json} {n : Nat} (h : value.Plain n)
    (hn : n ≤ Document.nestingLimit) {text : String} (htext : value.Spells text.toList) :
    Document.ofText text = ⟨.ofJson value, false⟩ :=
  Document.ofText_of_spells h.reread_eq (Nat.le_trans h.depth_le hn) htext

/-! ### Codecs that write plain values -/

/-- All values are written within a number of levels. -/
def Codec.Plain {α : Type} (c : Codec α) (n : Nat) : Prop := ∀ a, (c.write a).Plain n

namespace Codec

variable {α : Type} {c : Codec α} {n m : Nat}

theorem Plain.mono (h : c.Plain n) (hm : n ≤ m) : c.Plain m := fun a => (h a).mono hm

theorem string_plain : string.Plain n := fun s => .str n s

theorem bool_plain : bool.Plain n := fun b => .bool n b

theorem plain_nat (k : UInt64) : (Json.nat k.toNat).Plain n := by
  have hpower : twoPow 64 = 2 ^ 64 := by decide
  have hlt := k.toNat_lt
  -- it fits into 64 bits without a sign
  refine .int (show -(twoPow 63 : Int) ≤ _ ∧ _ < (twoPow 64 : Int) from ?_)
  omega

theorem uint64_plain : uint64.Plain n := plain_nat

theorem option_plain (h : c.Plain n) : c.option.Plain n
  | none => .null n
  | some a => h a

theorem list_plain (h : c.Plain n) : c.list.Plain (n + 1) := by
  refine fun as => .arr fun item hitem => ?_
  obtain ⟨a, -, rfl⟩ := List.mem_map.1 hitem
  exact h a

theorem dict_plain (h : c.Plain n) : c.dict.Plain (n + 1) := by
  refine fun d => .obj fun m hm => ?_
  obtain ⟨e, -, rfl⟩ := List.mem_map.1 hm
  exact h e.2

end Codec

/-- Every field writes within a number of levels. -/
def Fields.Plain (n : Nat) : {ts : List Type} → Fields ts → Prop
  | _, .nil => True
  | _, .cons field rest => field.codec.Plain n ∧ rest.Plain n

theorem Fields.Plain.write {n : Nat} : {ts : List Type} → {fields : Fields ts} →
    fields.Plain n → ∀ row, ∀ m ∈ fields.write row, m.2.Plain n
  | _, .nil, _, _, _, hm => nomatch hm
  | _, .cons field rest, h, (a, row), m, hm => by
    rw [Fields.write] at hm
    -- the field may be left out; what is written of it is written by its codec
    split at hm
    · exact write h.2 row m hm
    · rcases List.mem_cons.1 hm with rfl | hm
      · exact h.1 a
      · exact write h.2 row m hm

/-- A record adds one level to its fields. -/
theorem Shape.plain {α : Type} {s : Shape α} {n : Nat} (h : s.fields.Plain n) :
    s.codec.Plain (n + 1) :=
  fun a => .obj (h.write (s.parts a))

end VolumeBroker
