import VolumeBroker.Proofs.Codec.Object
/-!
# What a record is read from, exactly

An object is read as a record if and only if its members give every field a value and the reader may pass
over all others (`Shape.read_obj_iff`): whatever is read has come from the one member that names its
field. An array is read as a record if and only if its items, one after the other, are values of the
fields, and the fields that are left have values of their own (`Shape.read_arr_iff`).

`Json.PartUnder` says where a part stands in the document of a record, under one of some keys or at a
position; `Shape.exists_of_partUnder` says that the part has been read.
-/

namespace VolumeBroker

/-! ### Objects -/

namespace Fields

variable {origin : Origin} {key : String} {value : Source} {members : List (String × Source)}

/-- Behind the last member the fields have been read already, or have their fallbacks. -/
theorem awaits_of_complete : {ts : List Type} → {fields : Fields ts} → {slots : Partial ts} →
    {row : Row ts} → fields.complete slots = .ok row → fields.Awaits origin [] slots row
  | _, .nil, _, _, _ => trivial
  | _, .cons field rest, (slot, slots), row, h => by
    rw [complete] at h
    split at h
    · cases h
    · next a hslot =>
      obtain ⟨others, hrest, rfl⟩ := exists_of_map_ok h
      refine ⟨?_, awaits_of_complete hrest⟩
      cases slot with
      | none => exact hslot
      | some b => exact ⟨Option.some.inj hslot, rfl⟩

/-- A member that names no field may stand in front. -/
theorem Awaits.cons_other : {ts : List Type} → {fields : Fields ts} → {slots : Partial ts} →
    {row : Row ts} → fields.Awaits origin members slots row → key ∉ fields.spellings →
    fields.Awaits origin ((key, value) :: members) slots row
  | _, .nil, _, _, _, _ => trivial
  | _, .cons field rest, (slot, slots), (a, row), h, hkey => by
    rw [spellings, List.mem_append, not_or] at hkey
    refine ⟨?_, cons_other h.2 hkey.2⟩
    unfold Field.Awaits Field.Given
    rw [List.filter_cons_of_neg (by simpa [Field.accepts] using hkey.1)]
    exact h.1

/-- A member that has been read gives its field the value that it has from then on. -/
theorem awaits_of_put? : {ts : List Type} → {fields : Fields ts} → {slots slots' : Partial ts} →
    {row : Row ts} → fields.put? origin key value slots = some (.ok slots') →
    fields.spellings.Nodup → fields.Awaits origin members slots' row →
    fields.Awaits origin ((key, value) :: members) slots row
  | _, .nil, _, _, _, hput, _, _ => nomatch hput
  | _, .cons field rest, (slot, slots), slots', (a, row), hput, hnodup, h => by
    obtain ⟨-, hothers, hdisjoint⟩ := List.nodup_append.1 hnodup
    rw [put?] at hput
    split at hput
    · next hmine =>
      have hkey : key ∈ field.spellings := by simpa [Field.accepts] using hmine
      split at hput
      · cases hput
      · next hempty =>
        obtain ⟨b, hread, rfl⟩ := exists_of_map_ok (Option.some.inj hput)
        obtain ⟨⟨rfl, hnone⟩, hrest⟩ := h
        -- the field takes this member, and there is none for it behind
        obtain rfl : slot = none := by simpa using hempty
        refine ⟨?_, hrest.cons_other fun hmem => hdisjoint key hkey key hmem rfl⟩
        unfold Field.Awaits Field.Given
        rw [List.filter_cons, if_pos hmine, hnone]
        exact hread
    · -- the member belongs to one of the other fields
      next hnot =>
      obtain ⟨outcome, hothers', hput⟩ := Option.map_eq_some_iff.1 hput
      obtain ⟨others, rfl, rfl⟩ := exists_of_map_ok hput
      refine ⟨?_, awaits_of_put? hothers' hothers h.2⟩
      unfold Field.Awaits Field.Given
      rw [List.filter_cons_of_neg (by simpa using hnot)]
      exact h.1

/-- Only a member that names a field is read. -/
theorem mem_spellings_of_put? : {ts : List Type} →
    {fields : Fields ts} → {slots : Partial ts} →
    {outcome : Except Problem (Partial ts)} → fields.put? origin key value slots = some outcome →
    key ∈ fields.spellings
  | _, .nil, _, _, hput => nomatch hput
  | _, .cons field rest, (slot, slots), _, hput => by
    rw [put?] at hput
    rw [spellings, List.mem_append]
    split at hput
    · next hmine => exact .inl (by simpa [Field.accepts] using hmine)
    · obtain ⟨_, hrest, -⟩ := Option.map_eq_some_iff.1 hput
      exact .inr (mem_spellings_of_put? hrest)

/-- At the beginning no field has been read, so the members give all of them. -/
theorem Awaits.given : {ts : List Type} → {fields : Fields ts} → {row : Row ts} →
    fields.Awaits origin members fields.blank row → fields.Given origin members row
  | _, .nil, _, _ => trivial
  | _, .cons _ _, (_, _), h => ⟨h.1, given h.2⟩

end Fields

namespace Shape

variable {α : Type} {s : Shape α} {origin : Origin} {members : List (String × Source)} {a : α}

theorem awaits_of_readMembers (hnodup : s.fields.spellings.Nodup) {slots slots' : Partial s.types}
    {row : Row s.types} (h : s.readMembers origin (membersOf members) slots = .ok slots')
    (hcomplete : s.fields.complete slots' = .ok row) :
    s.fields.Awaits origin members slots row ∧ ∀ m ∈ members, s.Passes m := by
  induction members generalizing slots with
  | nil =>
    cases h
    exact ⟨Fields.awaits_of_complete hcomplete, fun _ hm => nomatch hm⟩
  | cons m members ih =>
    obtain ⟨key, value⟩ := m
    change s.readMembers origin ((.text key, value) :: membersOf members) slots = _ at h
    rw [readMembers] at h
    split at h
    · next slots₁ hput =>
      -- some field has taken the member
      obtain ⟨hawaits, hpasses⟩ := ih h
      have hpass : s.Passes (key, value) := .inl (Fields.mem_spellings_of_put? hput)
      exact ⟨Fields.awaits_of_put? hput hnodup hawaits, List.forall_mem_cons.2 ⟨hpass, hpasses⟩⟩
    · cases h
    · next hput =>
      -- the reader has passed over the member
      have hkey : key ∉ s.fields.spellings := Fields.not_mem_of_put?_none hput
      split at h
      · cases h
      · next hloose =>
        split at h
        · cases h
        · next hskip =>
          obtain ⟨hawaits, hpasses⟩ := ih h
          have hpass : s.Passes (key, value) := .inr ⟨by simpa using hloose, hskip⟩
          exact ⟨hawaits.cons_other hkey, List.forall_mem_cons.2 ⟨hpass, hpasses⟩⟩

/-- **Reading an object, exactly.** The members give every field its value, and all others may be passed
over. -/
theorem read_obj_iff (hnodup : s.fields.spellings.Nodup) :
    s.read origin (.obj (membersOf members) none) = .ok a ↔
      ∃ row, a = s.build row ∧ s.fields.Given origin members row ∧ ∀ m ∈ members, s.Passes m := by
  constructor
  · intro h
    obtain ⟨slots, hmembers, h⟩ := exists_of_bind_ok h
    obtain ⟨_, -, h⟩ := exists_of_bind_ok h
    obtain ⟨row, hcomplete, h⟩ := exists_of_bind_ok h
    obtain ⟨hawaits, hpasses⟩ := awaits_of_readMembers hnodup hmembers hcomplete
    exact ⟨row, (Except.ok.inj h).symm, hawaits.given, hpasses⟩
  · rintro ⟨row, rfl, hgiven, hpasses⟩
    exact read_obj hnodup hpasses hgiven

/-- An object as a document with named members. -/
theorem ofJson_obj (members : List (String × Json)) : Source.ofJson (.obj members)
    = .obj (membersOf (members.map fun m => (m.1, Source.ofJson m.2))) none := by
  unfold membersOf
  rw [Source.ofJson_obj, List.map_map]
  rfl

theorem read_ofJson_obj_iff (hnodup : s.fields.spellings.Nodup) {members : List (String × Json)} :
    s.read origin (.ofJson (.obj members)) = .ok a ↔
      ∃ row, a = s.build row ∧
        s.fields.Given origin (members.map fun m => (m.1, Source.ofJson m.2)) row ∧
        ∀ m ∈ members, s.Passes (m.1, .ofJson m.2) := by
  rw [ofJson_obj, read_obj_iff hnodup]
  simp only [List.forall_mem_map]

/-- A strict record has a field for every member. -/
theorem mem_spellings_of_strict (hnodup : s.fields.spellings.Nodup) (hstrict : s.strict = true)
    {members : List (String × Json)} (h : s.read origin (.ofJson (.obj members)) = .ok a) :
    ∀ m ∈ members, m.1 ∈ s.fields.spellings := by
  obtain ⟨_, -, -, hpasses⟩ := (read_ofJson_obj_iff hnodup).1 h
  exact fun m hm => (hpasses m hm).resolve_right fun hloose =>
    Bool.false_ne_true (hloose.1.symm.trans hstrict)

end Shape

/-! ### Arrays -/

/-- What the items of an array give the fields: each field its item, and the fields that are left their
fallbacks. -/
def Fields.GivenInOrder (origin : Origin) : {ts : List Type} → Fields ts → Row ts → List Source → Prop
  | _, .nil, _, items => items = []
  | _, .cons field rest, (a, row), item :: items =>
    field.codec.read origin item = .ok a ∧ rest.GivenInOrder origin row items
  | _, .cons field rest, (a, row), [] => field.fallback = some a ∧ rest.GivenInOrder origin row []

theorem Fields.readItems_iff {origin : Origin} {expected : String} {total : Nat} :
    {ts : List Type} → {fields : Fields ts} → {row : Row ts} → {items : List Source} →
    (fields.readItems origin expected none total items = .ok (row, []) ↔
      fields.GivenInOrder origin row items)
  | _, .nil, (), items => by
    show Except.ok ((), items) = Except.ok ((), []) ↔ items = []
    simp
  | _, .cons field rest, (a, row), item :: items => by
    rw [readItems]
    constructor
    · intro h
      obtain ⟨b, hread, h⟩ := exists_of_bind_ok h
      obtain ⟨⟨others, left⟩, hrest, h⟩ := exists_of_bind_ok h
      cases h
      exact ⟨hread, readItems_iff.1 hrest⟩
    · rintro ⟨hread, hrest⟩
      simp only [hread, readItems_iff.2 hrest, bind, Except.bind]
  -- the items are used up, so what is left takes its fallback
  | _, .cons field rest, (a, row), [] => by
    rw [readItems]
    constructor
    · intro h
      obtain ⟨_, -, h⟩ := exists_of_bind_ok h
      split at h
      · cases h
      · next b hfallback =>
        obtain ⟨⟨others, left⟩, hrest, h⟩ := exists_of_bind_ok h
        cases h
        exact ⟨hfallback, readItems_iff.1 hrest⟩
    · rintro ⟨hfallback, hrest⟩
      simp only [hfallback, readItems_iff.2 hrest, endOf, bind, Except.bind]

/-- **Reading an array, exactly.** The items are values of the fields, one after the other. -/
theorem Shape.read_arr_iff {α : Type} {s : Shape α} {origin : Origin} {items : List Source} {a : α} :
    s.read origin (.arr items none) = .ok a ↔
      ∃ row, a = s.build row ∧ s.fields.GivenInOrder origin row items := by
  constructor
  · intro h
    obtain ⟨⟨row, left⟩, hitems, h⟩ := exists_of_bind_ok h
    dsimp only at h
    split at h
    · next hleft =>
      rw [List.isEmpty_iff] at hleft
      subst hleft
      exact ⟨row, (Except.ok.inj h).symm, Fields.readItems_iff.1 hitems⟩
    · cases h
  · rintro ⟨row, rfl, hgiven⟩
    rw [Shape.read]
    dsimp only
    rw [Fields.readItems_iff.2 hgiven]
    rfl

/-! ### Parts -/

/-- A part of the document of a record: what stands under one of some keys, or at a position. -/
inductive Json.PartUnder (keys : List String) (position : Nat) : Json → Json → Prop where
  | member {members : List (String × Json)} {key : String} {part : Json}
      (hmem : (key, part) ∈ members) (hkey : key ∈ keys) : PartUnder keys position (.obj members) part
  | item {items : List Json} {part : Json} (hitem : items[position]? = some part) :
      PartUnder keys position (.arr items) part

theorem Json.PartUnder.ne_null {keys : List String} {position : Nat} {value part : Json}
    (h : value.PartUnder keys position part) : value ≠ .null := by
  cases h <;> exact nofun

namespace Fields

variable {origin : Origin} {source : Source}

/-- The field at a position, if there is one, can read a value. -/
def ReadsAt (origin : Origin) (source : Source) : {ts : List Type} → Fields ts → Nat → Prop
  | _, .nil, _ => True
  | _, .cons field _, 0 => ∃ a, field.codec.read origin source = .ok a
  | _, .cons _ rest, i + 1 => rest.ReadsAt origin source i

theorem GivenInOrder.readsAt : {ts : List Type} → {fields : Fields ts} → {row : Row ts} →
    {items : List Source} → {i : Nat} → fields.GivenInOrder origin row items →
    items[i]? = some source → fields.ReadsAt origin source i
  | _, .nil, _, _, _, _, _ => trivial
  | _, .cons _ _, (_, _), [], _, _, hitem => nomatch hitem
  | _, .cons _ _, (a, _), _ :: _, 0, h, hitem => ⟨a, Option.some.inj hitem ▸ h.1⟩
  | _, .cons _ rest, (_, row), _ :: items, i + 1, h, hitem =>
    @readsAt _ rest row items i h.2 hitem

end Fields

/-- **Every part that stands where a field may stand is read by the field.** -/
theorem Shape.exists_of_partUnder {α β : Type} {s : Shape α} {c : Codec β} {origin : Origin} {a : α}
    {keys : List String} {position : Nat} {value part : Json}
    (hread : s.read origin (.ofJson value) = .ok a) (h : value.PartUnder keys position part)
    (hkeys : ∀ key ∈ keys, ∀ source, s.fields.Reads origin key source →
      ∃ b, c.read origin source = .ok b)
    (hposition : ∀ source, s.fields.ReadsAt origin source position →
      ∃ b, c.read origin source = .ok b) :
    ∃ b, c.read origin (.ofJson part) = .ok b := by
  -- the part stands in an object under its key, or in an array in its place
  cases h with
  | member hmem hkey =>
    rw [Source.ofJson_obj] at hread
    exact hkeys _ hkey _ (Shape.reads_of_read hread (List.mem_map_of_mem hmem))
  | item hitem =>
    rw [Source.ofJson_arr] at hread
    obtain ⟨row, -, hgiven⟩ := Shape.read_arr_iff.1 hread
    refine hposition _ (hgiven.readsAt ?_)
    rw [List.getElem?_map, hitem]
    rfl

end VolumeBroker
