import VolumeBroker.Codec.Record
import VolumeBroker.Proofs.Json.Canonical
/-!
# Records that are read from objects

What `Shape.read` does to an object, said without the order in which it goes through the members.
`Fields.Given` says that the members of an object give each field a value: under one spelling once,
or not at all if the field has a value of its own. An object that gives all fields and holds nothing
that the reader refuses reads as the record of these values (`Shape.read_obj`), whatever the order of
its members is. Conversely, of an object that is read every member that names a field has been read
by that field (`Shape.reads_of_read`), and every field of a record that is read is its fallback or
comes from a part of the document (`Shape.from_of_read`).

The reader keeps the fields that it has read so far in a `Partial`. `Fields.Awaits` is its invariant:
what has been read is right, and what has not is given by the members still to come.
-/

namespace VolumeBroker

/-! ### One field -/

namespace Field

variable {α : Type} (f : Field α) (origin : Origin)

/-- What the members of an object give a field: the value of the only one that names it, or its
fallback if there is none. -/
def Given (members : List (String × Source)) (a : α) : Prop :=
  match members.filter fun m => f.accepts m.1 with
  | [] => f.fallback = some a
  | [m] => f.codec.read origin m.2 = .ok a
  | _ => False

/-- What the members to come give a field that has been read already, or has not. -/
def Awaits (slot : Option α) (members : List (String × Source)) (a : α) : Prop :=
  match slot with
  | none => f.Given origin members a
  | some b => b = a ∧ members.filter (fun m => f.accepts m.1) = []

variable {f origin} {slot : Option α} {key : String} {value : Source}
  {members : List (String × Source)} {a : α}

/-- A member that does not name the field gives it nothing. -/
theorem Awaits.skip (h : f.Awaits origin slot ((key, value) :: members) a)
    (hkey : f.accepts key = false) : f.Awaits origin slot members a := by
  unfold Awaits Given at h ⊢
  rw [List.filter_cons_of_neg (by simpa using hkey)] at h
  exact h

/-- A member that names the field is the only one. -/
theorem Awaits.take (h : f.Awaits origin slot ((key, value) :: members) a)
    (hkey : f.accepts key = true) :
    slot = none ∧ f.codec.read origin value = .ok a ∧ f.Awaits origin (some a) members a := by
  unfold Awaits Given at h
  rw [List.filter_cons, if_pos hkey] at h
  -- a field that has been read already admits no other member
  cases slot with
  | some b => exact absurd h.2 (List.cons_ne_nil _ _)
  | none =>
    cases hrest : members.filter fun m => f.accepts m.1 with
    | cons m rest => rw [hrest] at h; exact absurd h id
    | nil =>
      rw [hrest] at h
      exact ⟨rfl, h, rfl, hrest⟩

/-- A field that is given by members is read from every one that names it. -/
theorem Given.read (h : f.Given origin members a) {m : String × Source} (hm : m ∈ members)
    (hkey : m.1 ∈ f.spellings) : f.codec.read origin m.2 = .ok a := by
  have hmine : m ∈ members.filter fun m => f.accepts m.1 :=
    List.mem_filter.2 ⟨hm, by simpa [accepts] using hkey⟩
  unfold Given at h
  split at h
  · next hnone =>
    rw [hnone] at hmine
    cases hmine
  · next hone =>
    rw [hone, List.mem_singleton] at hmine
    rwa [hmine]
  · exact h.elim

/-- Behind the last member a field has been read, or has its fallback. -/
theorem Awaits.done (h : f.Awaits origin slot [] a) : slot.or f.fallback = some a := by
  cases slot with
  | none => exact h
  | some b => rw [Option.some_or, h.1]

end Field

/-! ### All fields -/

namespace Fields

variable {origin : Origin} {key : String} {value : Source} {members : List (String × Source)}

/-- What the members to come give each field. -/
def Awaits (origin : Origin) (members : List (String × Source)) :
    {ts : List Type} → Fields ts → Partial ts → Row ts → Prop
  | _, .nil, _, _ => True
  | _, .cons field rest, (slot, slots), (a, row) =>
    field.Awaits origin slot members a ∧ rest.Awaits origin members slots row

/-- The members of an object give each field a value. -/
def Given (origin : Origin) (members : List (String × Source)) :
    {ts : List Type} → Fields ts → Row ts → Prop
  | _, .nil, _ => True
  | _, .cons field rest, (a, row) => field.Given origin members a ∧ rest.Given origin members row

/-- At the beginning no field has been read. -/
theorem Given.awaits : {ts : List Type} → {fields : Fields ts} → {row : Row ts} →
    fields.Given origin members row → fields.Awaits origin members fields.blank row
  | _, .nil, _, _ => trivial
  | _, .cons _ _, (_, _), h => ⟨h.1, awaits h.2⟩

/-- A member that names no field is read into none. -/
theorem put?_of_not_mem : {ts : List Type} → {fields : Fields ts} → {slots : Partial ts} →
    key ∉ fields.spellings → fields.put? origin key value slots = none
  | _, .nil, _, _ => rfl
  | _, .cons field rest, (slot, slots), hkey => by
    rw [spellings, List.mem_append, not_or] at hkey
    rw [put?, if_neg (by simpa [Field.accepts] using hkey.1), put?_of_not_mem hkey.2]
    rfl

/-- A member that names no field is passed over. -/
theorem Awaits.skip : {ts : List Type} → {fields : Fields ts} → {slots : Partial ts} →
    {row : Row ts} → fields.Awaits origin ((key, value) :: members) slots row →
    key ∉ fields.spellings → fields.Awaits origin members slots row
  | _, .nil, _, _, _, _ => trivial
  | _, .cons field rest, (slot, slots), (a, row), h, hkey => by
    rw [spellings, List.mem_append, not_or] at hkey
    exact ⟨h.1.skip (by simpa [Field.accepts] using hkey.1), skip h.2 hkey.2⟩

/-- A member that names a field is read into it, provided that no two fields share a spelling. -/
theorem Awaits.take : {ts : List Type} → {fields : Fields ts} → {slots : Partial ts} →
    {row : Row ts} → fields.Awaits origin ((key, value) :: members) slots row →
    fields.spellings.Nodup → key ∈ fields.spellings →
    ∃ slots', fields.put? origin key value slots = some (.ok slots') ∧
      fields.Awaits origin members slots' row
  | _, .nil, _, _, _, _, hkey => absurd hkey List.not_mem_nil
  | _, .cons field rest, (slot, slots), (a, row), h, hnodup, hkey => by
    obtain ⟨hfield, hrest⟩ := h
    obtain ⟨-, hothers, hdisjoint⟩ := List.nodup_append.1 hnodup
    -- the member goes to the first field that accepts its key, and no other accepts it
    by_cases hmine : field.accepts key = true
    · obtain ⟨rfl, hread, hfield⟩ := hfield.take hmine
      have hmem : key ∈ field.spellings := by simpa [Field.accepts] using hmine
      have hnot : key ∉ rest.spellings := fun h => hdisjoint key hmem key h rfl
      refine ⟨(some a, slots), ?_, hfield, skip hrest hnot⟩
      rw [put?, if_pos hmine, hread]
      rfl
    · have hother : field.accepts key = false := by simpa using hmine
      have hmem : key ∈ rest.spellings := by
        rcases List.mem_append.1 hkey with h | h
        · exact absurd (by simpa [Field.accepts] using h) hmine
        · exact h
      obtain ⟨slots', hput, hawaits⟩ := take hrest hothers hmem
      refine ⟨(slot, slots'), ?_, hfield.skip hother, hawaits⟩
      rw [put?, if_neg hmine, hput]
      rfl

/-- Behind the last member every field has a value. -/
theorem Awaits.done : {ts : List Type} → {fields : Fields ts} → {slots : Partial ts} →
    {row : Row ts} → fields.Awaits origin [] slots row → fields.complete slots = .ok row
  | _, .nil, _, (), _ => rfl
  | _, .cons _ _, (_, _), (_, _), h => by
    obtain ⟨hfield, hrest⟩ := h
    rw [complete, hfield.done]
    dsimp only
    rw [done hrest]
    rfl

end Fields

namespace Shape

variable {α : Type} {s : Shape α} {origin : Origin}

/-- The members of an object as a document has them. -/
def membersOf (members : List (String × Source)) : List (Key × Source) :=
  members.map fun m => (Key.text m.1, m.2)

/-- What a reader passes over: a member that names no field, unless the record is strict or the
member cannot be skipped. -/
def Passes (s : Shape α) (m : String × Source) : Prop :=
  m.1 ∈ s.fields.spellings ∨ s.strict = false ∧ m.2.skipFault = none

theorem readMembers_of_awaits (hnodup : s.fields.spellings.Nodup)
    {members : List (String × Source)} (hpasses : ∀ m ∈ members, s.Passes m)
    {slots : Partial s.types} {row : Row s.types}
    (h : s.fields.Awaits origin members slots row) :
    ∃ slots', s.readMembers origin (membersOf members) slots = .ok slots' ∧
      s.fields.complete slots' = .ok row := by
  induction members generalizing slots with
  | nil => exact ⟨slots, rfl, h.done⟩
  | cons m members ih =>
    obtain ⟨key, value⟩ := m
    have hrest : ∀ m ∈ members, s.Passes m := fun m hm => hpasses m (List.mem_cons_of_mem _ hm)
    change ∃ slots', s.readMembers origin ((.text key, value) :: membersOf members) slots = _ ∧ _
    rw [readMembers]
    by_cases hkey : key ∈ s.fields.spellings
    · obtain ⟨slots', hput, hawaits⟩ := h.take hnodup hkey
      rw [hput]
      exact ih hrest hawaits
    · rw [Fields.put?_of_not_mem hkey]
      -- the member names no field, so it has to be one that may be passed over
      rcases hpasses _ List.mem_cons_self with hmem | ⟨hloose, hskip⟩
      · exact absurd hmem hkey
      · dsimp only
        rw [hloose, if_neg Bool.false_ne_true, hskip]
        exact ih hrest (h.skip hkey)

/-- **Reading an object.** The order of the members does not matter. -/
theorem read_obj (hnodup : s.fields.spellings.Nodup) {members : List (String × Source)}
    (hpasses : ∀ m ∈ members, s.Passes m) {row : Row s.types}
    (h : s.fields.Given origin members row) :
    s.read origin (.obj (membersOf members) none) = .ok (s.build row) := by
  obtain ⟨slots, hmembers, hcomplete⟩ := readMembers_of_awaits hnodup hpasses h.awaits
  simp only [read, hmembers, hcomplete, bind, Except.bind, endOf]

end Shape

/-! ### What a reader has read -/

namespace Fields

/-- The field that a key names, if there is one, can read a value. -/
def Reads (origin : Origin) (key : String) (value : Source) : {ts : List Type} → Fields ts → Prop
  | _, .nil => True
  | _, .cons field rest =>
    if field.accepts key then ∃ a, field.codec.read origin value = .ok a
    else rest.Reads origin key value

/-- Every field has its fallback or has been read from one of the parts. -/
def From (origin : Origin) (parts : List Source) : {ts : List Type} → Fields ts → Row ts → Prop
  | _, .nil, _ => True
  | _, .cons field rest, (a, row) =>
    (field.fallback = some a ∨ ∃ part ∈ parts, field.codec.read origin part = .ok a) ∧
      rest.From origin parts row

/-- Every field that has been read so far has been read from one of the parts. -/
def PartlyFrom (origin : Origin) (parts : List Source) :
    {ts : List Type} → Fields ts → Partial ts → Prop
  | _, .nil, _ => True
  | _, .cons field rest, (slot, slots) =>
    (∀ a, slot = some a → ∃ part ∈ parts, field.codec.read origin part = .ok a) ∧
      rest.PartlyFrom origin parts slots

variable {origin : Origin} {key : String} {value : Source} {parts : List Source}

theorem partlyFrom_blank : {ts : List Type} → (fields : Fields ts) →
    fields.PartlyFrom origin parts fields.blank
  | _, .nil => trivial
  | _, .cons _ rest => ⟨fun _ h => (nomatch h), rest.partlyFrom_blank⟩

/-- A member is read by the field that its key names. -/
theorem reads_of_put? : {ts : List Type} → {fields : Fields ts} → {slots : Partial ts} →
    (∀ problem, fields.put? origin key value slots ≠ some (.error problem)) →
    fields.Reads origin key value
  | _, .nil, _, _ => trivial
  | _, .cons field rest, (slot, slots), h => by
    rw [Reads]
    split
    · next hkey =>
      rw [put?, if_pos hkey] at h
      -- a second member of one name would be an error
      split at h
      · exact absurd rfl (h _)
      · cases hread : field.codec.read origin value with
        | ok a => exact ⟨a, rfl⟩
        | error problem => rw [hread] at h; exact absurd rfl (h problem)
    · next hkey =>
      refine @reads_of_put? _ rest slots fun problem hput => ?_
      rw [put?, if_neg hkey, hput] at h
      exact h problem rfl

theorem partlyFrom_put? : {ts : List Type} → {fields : Fields ts} → {slots slots' : Partial ts} →
    fields.PartlyFrom origin parts slots → value ∈ parts →
    fields.put? origin key value slots = some (.ok slots') → fields.PartlyFrom origin parts slots'
  | _, .nil, _, _, _, _, hput => nomatch hput
  | _, .cons field rest, (slot, slots), slots', h, hvalue, hput => by
    rw [put?] at hput
    -- the member fills the slot of this field, or that of one of the others
    split at hput
    · split at hput
      · cases hput
      · obtain ⟨a, hread, rfl⟩ := exists_of_map_ok (Option.some.inj hput)
        refine ⟨fun b hb => ⟨value, hvalue, ?_⟩, h.2⟩
        rw [hread, Option.some.inj hb]
    · obtain ⟨outcome, hothers, hput⟩ := Option.map_eq_some_iff.1 hput
      obtain ⟨others, rfl, rfl⟩ := exists_of_map_ok hput
      exact ⟨h.1, partlyFrom_put? h.2 hvalue hothers⟩

theorem from_of_complete : {ts : List Type} → {fields : Fields ts} → {slots : Partial ts} →
    {row : Row ts} → fields.PartlyFrom origin parts slots → fields.complete slots = .ok row →
    fields.From origin parts row
  | _, .nil, _, _, _, _ => trivial
  | _, .cons field rest, (slot, slots), row, h, hcomplete => by
    rw [complete] at hcomplete
    split at hcomplete
    · cases hcomplete
    · next a hslot =>
      obtain ⟨others, hrest, rfl⟩ := exists_of_map_ok hcomplete
      refine ⟨?_, from_of_complete h.2 hrest⟩
      -- a field that has not been read has its fallback
      cases slot with
      | none => exact .inl hslot
      | some b => exact .inr (h.1 a hslot)

theorem from_of_readItems {expected : String} {failure : Option Fault} {total : Nat} :
    {ts : List Type} → {fields : Fields ts} → {items : List Source} → {row : Row ts} →
    {left : List Source} → (∀ item ∈ items, item ∈ parts) →
    fields.readItems origin expected failure total items = .ok (row, left) →
    fields.From origin parts row
  | _, .nil, _, _, _, _, _ => trivial
  | _, .cons field rest, item :: items, row, left, hitems, h => by
    rw [readItems] at h
    obtain ⟨a, hread, h⟩ := exists_of_bind_ok h
    obtain ⟨⟨others, left⟩, hrest, h⟩ := exists_of_bind_ok h
    cases h
    exact ⟨.inr ⟨item, hitems item List.mem_cons_self, hread⟩,
      from_of_readItems (fun i hi => hitems i (List.mem_cons_of_mem _ hi)) hrest⟩
  | _, .cons field rest, [], row, left, hitems, h => by
    -- the array has ended, so the fields that are left have their fallbacks
    rw [readItems] at h
    obtain ⟨_, -, h⟩ := exists_of_bind_ok h
    split at h
    · cases h
    · next a hfallback =>
      obtain ⟨⟨others, left⟩, hrest, h⟩ := exists_of_bind_ok h
      cases h
      exact ⟨.inl hfallback, from_of_readItems hitems hrest⟩

end Fields

namespace Shape

variable {α : Type} {s : Shape α} {origin : Origin}

theorem reads_of_readMembers {members : List (Key × Source)} {slots slots' : Partial s.types}
    (h : s.readMembers origin members slots = .ok slots') {key : String} {value : Source}
    (hmem : (Key.text key, value) ∈ members) : s.fields.Reads origin key value := by
  induction members generalizing slots with
  | nil => cases hmem
  | cons m members ih =>
    obtain ⟨k | fault, v⟩ := m
    · rw [readMembers] at h
      -- the first member has been read without an error
      have hreads : ∀ problem, s.fields.put? origin k v slots ≠ some (.error problem) := by
        intro problem hput
        rw [hput] at h
        cases h
      rcases List.mem_cons.1 hmem with heq | hmem
      · cases heq
        exact Fields.reads_of_put? hreads
      · split at h
        · exact ih h hmem
        · cases h
        · split at h
          · cases h
          · split at h
            · cases h
            · exact ih h hmem
    · cases h

theorem partlyFrom_readMembers {parts : List Source} {members : List (Key × Source)}
    (hparts : ∀ m ∈ members, m.2 ∈ parts) {slots slots' : Partial s.types}
    (hslots : s.fields.PartlyFrom origin parts slots)
    (h : s.readMembers origin members slots = .ok slots') :
    s.fields.PartlyFrom origin parts slots' := by
  induction members generalizing slots with
  | nil =>
    cases h
    exact hslots
  | cons m members ih =>
    have hrest : ∀ m ∈ members, m.2 ∈ parts := fun m hm => hparts m (List.mem_cons_of_mem _ hm)
    obtain ⟨k | fault, v⟩ := m
    · rw [readMembers] at h
      split at h
      · next slots₁ hput =>
        exact ih hrest (Fields.partlyFrom_put? hslots (hparts _ List.mem_cons_self) hput) h
      · cases h
      · split at h
        · cases h
        · split at h
          · cases h
          · exact ih hrest hslots h
    · cases h

/-- Of an object that is read every member has been read by the field that it names. -/
theorem reads_of_read {members : List (Key × Source)} {failure : Option Fault} {a : α}
    (h : s.read origin (.obj members failure) = .ok a) {key : String} {value : Source}
    (hmem : (Key.text key, value) ∈ members) : s.fields.Reads origin key value := by
  rw [read] at h
  obtain ⟨slots, hmembers, -⟩ := exists_of_bind_ok h
  exact reads_of_readMembers hmembers hmem

/-- **Where a record comes from.** Every field of a record that is read is its fallback or has been
read from a part of the document. -/
theorem from_of_read {source : Source} {a : α} (h : s.read origin source = .ok a) :
    ∃ row, a = s.build row ∧ s.fields.From origin source.parts row := by
  unfold read at h
  -- an object gives its members by name, an array gives its items in order
  split at h
  · next members failure =>
    obtain ⟨slots, hmembers, h⟩ := exists_of_bind_ok h
    obtain ⟨_, -, h⟩ := exists_of_bind_ok h
    obtain ⟨row, hcomplete, h⟩ := exists_of_bind_ok h
    cases h
    have hslots : s.fields.PartlyFrom origin (Source.obj members failure).parts slots :=
      partlyFrom_readMembers (fun m hm => List.mem_map_of_mem hm) s.fields.partlyFrom_blank hmembers
    exact ⟨row, rfl, Fields.from_of_complete hslots hcomplete⟩
  · next items failure =>
    obtain ⟨⟨row, left⟩, hitems, h⟩ := exists_of_bind_ok h
    dsimp only at h
    split at h
    · obtain ⟨_, -, h⟩ := exists_of_bind_ok h
      cases h
      exact ⟨row, rfl, Fields.from_of_readItems (fun _ hi => hi) hitems⟩
    · cases h
  · cases h
  · unfold mistyped mismatched at h
    split at h <;> cases h

end Shape

/-! ### Members that name one field -/

namespace Fields

variable {origin : Origin} {key other : String} {value : Source}

/-- Some field is read under both keys. -/
def Alike (key other : String) : {ts : List Type} → Fields ts → Prop
  | _, .nil => False
  | _, .cons field rest =>
    (key ∈ field.spellings ∧ other ∈ field.spellings) ∨ rest.Alike key other

/-- A field that is read under the key has been read already. -/
def Taken (key : String) : {ts : List Type} → Fields ts → Partial ts → Prop
  | _, .nil, _ => False
  | _, .cons field rest, (slot, slots) =>
    (key ∈ field.spellings ∧ slot.isSome = true) ∨ rest.Taken key slots

theorem Alike.symm : {ts : List Type} → {fields : Fields ts} → fields.Alike key other →
    fields.Alike other key
  | _, .nil, h => h
  | _, .cons _ _, h => h.imp And.symm Alike.symm

theorem Alike.mem_spellings : {ts : List Type} → {fields : Fields ts} → fields.Alike key other →
    key ∈ fields.spellings
  | _, .nil, h => h.elim
  | _, .cons _ _, h => List.mem_append.2 (h.imp And.left mem_spellings)

theorem Taken.mem_spellings : {ts : List Type} → {fields : Fields ts} → {slots : Partial ts} →
    fields.Taken key slots → key ∈ fields.spellings
  | _, .nil, _, h => h.elim
  | _, .cons _ _, (_, _), h => List.mem_append.2 (h.imp And.left mem_spellings)

/-- A field takes one member only. -/
theorem Taken.put?_error : {ts : List Type} → {fields : Fields ts} → {slots : Partial ts} →
    fields.Taken key slots → fields.spellings.Nodup →
    ∃ problem, fields.put? origin key value slots = some (.error problem)
  | _, .nil, _, h, _ => h.elim
  | _, .cons field rest, (slot, slots), h, hnodup => by
    obtain ⟨-, hothers, hdisjoint⟩ := List.nodup_append.1 hnodup
    rw [put?]
    rcases h with ⟨hkey, hslot⟩ | h
    · rw [if_pos (by simpa [Field.accepts] using hkey), if_pos hslot]
      exact ⟨_, rfl⟩
    · have hnot : ¬field.accepts key = true := fun hmine =>
        hdisjoint key (by simpa [Field.accepts] using hmine) key h.mem_spellings rfl
      obtain ⟨problem, hput⟩ := put?_error h hothers
      rw [if_neg hnot, hput]
      exact ⟨problem, rfl⟩

theorem not_mem_of_put?_none : {ts : List Type} → {fields : Fields ts} → {slots : Partial ts} →
    fields.put? origin key value slots = none → key ∉ fields.spellings
  | _, .nil, _, _ => List.not_mem_nil
  | _, .cons field rest, (slot, slots), hput => by
    rw [put?] at hput
    split at hput
    · cases hput
    · next hnot =>
      rw [spellings, List.mem_append, not_or]
      refine ⟨fun hkey => hnot (by simpa [Field.accepts] using hkey), ?_⟩
      exact not_mem_of_put?_none (Option.map_eq_none_iff.1 hput)

/-- What has been read stays read, and what a member has been read into is read from then on. -/
theorem taken_of_put? : {ts : List Type} → {fields : Fields ts} → {slots slots' : Partial ts} →
    fields.put? origin key value slots = some (.ok slots') → fields.spellings.Nodup →
    fields.Taken other slots ∨ fields.Alike key other → fields.Taken other slots'
  | _, .nil, _, _, hput, _, _ => nomatch hput
  | _, .cons field rest, (slot, slots), slots', hput, hnodup, h => by
    obtain ⟨-, hothers, hdisjoint⟩ := List.nodup_append.1 hnodup
    rw [put?] at hput
    split at hput
    · next hmine =>
      split at hput
      · cases hput
      · obtain ⟨a, -, rfl⟩ := exists_of_map_ok (Option.some.inj hput)
        have hkey : key ∈ field.spellings := by simpa [Field.accepts] using hmine
        rcases h with (⟨hother, -⟩ | h) | ⟨-, hother⟩ | h
        · exact .inl ⟨hother, rfl⟩
        · exact .inr h
        · exact .inl ⟨hother, rfl⟩
        · exact absurd rfl (hdisjoint key hkey key h.mem_spellings)
    · next hnot =>
      obtain ⟨outcome, hrest, hput⟩ := Option.map_eq_some_iff.1 hput
      obtain ⟨others, rfl, rfl⟩ := exists_of_map_ok hput
      rcases h with (h | h) | ⟨hkey, -⟩ | h
      · exact .inl h
      · exact .inr (taken_of_put? hrest hothers (.inl h))
      · exact absurd (by simpa [Field.accepts] using hkey) hnot
      · exact .inr (taken_of_put? hrest hothers (.inr h))

end Fields

namespace Shape

variable {α : Type} {s : Shape α} {origin : Origin}

theorem not_taken_of_readMembers (hnodup : s.fields.spellings.Nodup) {members : List (Key × Source)}
    {slots slots' : Partial s.types} (h : s.readMembers origin members slots = .ok slots')
    {key : String} {value : Source} (hmem : (Key.text key, value) ∈ members) :
    ¬s.fields.Taken key slots := by
  intro htaken
  induction members generalizing slots with
  | nil => cases hmem
  | cons m members ih =>
    obtain ⟨k | fault, v⟩ := m
    · rw [readMembers] at h
      split at h
      · next slots₁ hput =>
        rcases List.mem_cons.1 hmem with heq | hmem
        · -- the member would be a second one for a field that has been read
          cases heq
          obtain ⟨problem, herror⟩ := htaken.put?_error hnodup
          exact absurd (hput.symm.trans herror) nofun
        · exact ih h hmem (Fields.taken_of_put? hput hnodup (.inl htaken))
      · cases h
      · next hput =>
        rcases List.mem_cons.1 hmem with heq | hmem
        · cases heq
          exact absurd htaken.mem_spellings (Fields.not_mem_of_put?_none hput)
        · split at h
          · cases h
          · split at h
            · cases h
            · exact ih h hmem htaken
    · cases h

theorem pairwise_of_readMembers (hnodup : s.fields.spellings.Nodup) {members : List (Key × Source)}
    {slots slots' : Partial s.types} (h : s.readMembers origin members slots = .ok slots') :
    members.Pairwise fun m n => ∀ k l, m.1 = .text k → n.1 = .text l → ¬s.fields.Alike k l := by
  -- member by member: the first fills a slot, which none of the later ones may fill again
  induction members generalizing slots with
  | nil => exact .nil
  | cons m members ih =>
    obtain ⟨k | fault, v⟩ := m
    · rw [readMembers] at h
      split at h
      · next slots₁ hput =>
        refine .cons ?_ (ih h)
        rintro ⟨_, w⟩ hn _ l ⟨⟩ rfl halike
        exact not_taken_of_readMembers hnodup h hn (Fields.taken_of_put? hput hnodup (.inr halike))
      · cases h
      · next hput =>
        split at h
        · cases h
        · split at h
          · cases h
          · refine .cons ?_ (ih h)
            rintro n hn _ l ⟨⟩ hl halike
            exact Fields.not_mem_of_put?_none hput halike.mem_spellings
    · cases h

/-- **No field is given twice.** Of an object that is read no two members name the same field. -/
theorem pairwise_of_read (hnodup : s.fields.spellings.Nodup) {members : List (Key × Source)}
    {failure : Option Fault} {a : α} (h : s.read origin (.obj members failure) = .ok a) :
    members.Pairwise fun m n => ∀ k l, m.1 = .text k → n.1 = .text l → ¬s.fields.Alike k l := by
  rw [read] at h
  obtain ⟨slots, hmembers, -⟩ := exists_of_bind_ok h
  exact pairwise_of_readMembers hnodup hmembers

end Shape

end VolumeBroker
