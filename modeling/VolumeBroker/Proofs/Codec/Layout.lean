import VolumeBroker.Proofs.Codec.Exact
import VolumeBroker.Proofs.Codec.Laws
/-!
# The keys of a document

What becomes of the keys that a document of a type has, at every depth. A `Layout` says of a document
which of its keys the type knows (`known`), whether a value holds what the document says under each of
its keys (`shows`), and what is left of the document without the members that a reader passes over
(`pruned`). A record that is not strict passes over every key that names none of its fields; a strict one
refuses it, and so keeps it in `pruned`.

`Codec.LaidOut` ties a codec to a layout: the members that are passed over make no difference, not even
to the error that is reported, and everything that is left of a document that is read stands in the
value. There is one law for each way to build a codec; the law of records is `Shape.laidOut`.
-/

namespace VolumeBroker

/-- The keys in the documents of a type. -/
structure Layout (α : Type) where
  /-- Every key in the document names a field of the type that is read there, or is an entry. -/
  known : Json → Prop
  /-- For every key in the document the value holds what stands there. -/
  shows : α → Json → Prop
  /-- The document without the members that a reader passes over. -/
  pruned : Json → Json

/-- The layouts of the fields of a record, in declared order. -/
inductive Layouts : List Type → Type 1 where
  | nil : Layouts []
  | cons {α : Type} {ts : List Type} (layout : Layout α) (rest : Layouts ts) : Layouts (α :: ts)

/-! ### Members and items -/

namespace Layouts

variable {ts : List Type}

/-- The key names a field, and the keys below it are known. -/
def Knows (key : String) (value : Json) : {ts : List Type} → Layouts ts → Fields ts → Prop
  | _, .nil, .nil => False
  | _, .cons layout others, .cons field rest =>
    if key ∈ field.spellings then layout.known value else others.Knows key value rest

/-- The items stand for fields, and the keys in them are known. -/
def KnowsItems : {ts : List Type} → Layouts ts → List Json → Prop
  | _, .nil, items => items = []
  | _, .cons _ _, [] => True
  | _, .cons layout others, item :: items => layout.known item ∧ others.KnowsItems items

/-- The key names a field, whose value holds what stands under it. -/
def Shows (key : String) (value : Json) : {ts : List Type} → Layouts ts → Fields ts → Row ts → Prop
  | _, .nil, .nil, _ => False
  | _, .cons layout others, .cons field rest, (a, row) =>
    if key ∈ field.spellings then layout.shows a value else others.Shows key value rest row

/-- The items stand for fields, whose values hold them. -/
def ShowsItems : {ts : List Type} → Layouts ts → Row ts → List Json → Prop
  | _, .nil, _, items => items = []
  | _, .cons _ _, _, [] => True
  | _, .cons layout others, (a, row), item :: items => layout.shows a item ∧ others.ShowsItems row items

/-- What is left of the value of a member; the value as it is if its key names no field. -/
def prunedAt (key : String) (value : Json) : {ts : List Type} → Layouts ts → Fields ts → Json
  | _, .nil, .nil => value
  | _, .cons layout others, .cons field rest =>
    if key ∈ field.spellings then layout.pruned value else others.prunedAt key value rest

/-- What is left of the members of an object. -/
def prunedMembers (layouts : Layouts ts) (fields : Fields ts) (strict : Bool)
    (members : List (String × Json)) : List (String × Json) :=
  (members.filter fun m => strict || fields.spellings.contains m.1).map
    fun m => (m.1, layouts.prunedAt m.1 m.2 fields)

/-- What is left of the items of an array. -/
def prunedItems : {ts : List Type} → Layouts ts → List Json → List Json
  | _, .nil, items => items
  | _, .cons _ _, [] => []
  | _, .cons layout others, item :: items => layout.pruned item :: others.prunedItems items

end Layouts

namespace Layout

variable {α : Type}

/-- Values without keys. -/
def plain (shows : α → Json → Prop) : Layout α := ⟨fun _ => True, shows, id⟩

/-- Dictionaries of strings, in which every key is an entry. -/
def strings : Layout (Dict String) :=
  .plain fun d value => ∃ members, value = .obj members ∧
    ∀ m ∈ members, ∃ text, m.2 = .str text ∧ d.get? m.1 = some text

/-- Values that may be absent. -/
def option (layout : Layout α) : Layout (Option α) where
  known value := value = .null ∨ layout.known value
  shows
    | none, value => value = .null
    | some a, value => layout.shows a value
  pruned := layout.pruned

/-- Lists, item by item. -/
def list (layout : Layout α) : Layout (List α) where
  known
    | .arr items => ∀ item ∈ items, layout.known item
    | _ => True
  shows as value := ∃ items, value = .arr items ∧ List.Forall₂ layout.shows as items
  pruned
    | .arr items => .arr (items.map layout.pruned)
    | value => value

/-- Records. -/
def record (s : Shape α) (layouts : Layouts s.types) : Layout α where
  known
    | .obj members => ∀ m ∈ members, layouts.Knows m.1 m.2 s.fields
    | .arr items => layouts.KnowsItems items
    | _ => True
  shows a
    | .obj members => ∀ m ∈ members, layouts.Shows m.1 m.2 s.fields (s.parts a)
    | .arr items => layouts.ShowsItems (s.parts a) items
    | _ => False
  pruned
    | .obj members => .obj (layouts.prunedMembers s.fields s.strict members)
    | .arr items => .arr (layouts.prunedItems items)
    | value => value

end Layout

/-- A codec passes over what its layout says and over nothing else. -/
structure Codec.LaidOut {α : Type} (c : Codec α) (layout : Layout α) : Prop where
  read_pruned : ∀ origin value,
    c.read origin (.ofJson (layout.pruned value)) = c.read origin (.ofJson value)
  shows_pruned : ∀ {origin value a}, value.Tidy → c.read origin (.ofJson value) = .ok a →
    layout.shows a (layout.pruned value)
  pruned_of_known : ∀ {value}, layout.known value → layout.pruned value = value
  known_of_shows : ∀ {a value}, layout.shows a value → layout.known value
  pruned_canonical : ∀ value, (layout.pruned value).canonical = layout.pruned value.canonical
  pruned_null_iff : ∀ {value}, layout.pruned value = .null ↔ value = .null

/-! ### Plain values, dictionaries, optional values and lists -/

namespace Codec

variable {α : Type} {c : Codec α} {layout : Layout α}

theorem laidOut_plain {shows : α → Json → Prop}
    (h : ∀ {origin value a}, value.Tidy → c.read origin (.ofJson value) = .ok a → shows a value) :
    c.LaidOut (.plain shows) where
  read_pruned _ _ := rfl
  shows_pruned := h
  pruned_of_known _ := rfl
  known_of_shows _ := trivial
  pruned_canonical _ := rfl
  pruned_null_iff := .rfl

theorem eq_of_string_read {origin : Origin} {value : Json} {text : String}
    (h : string.read origin (.ofJson value) = .ok text) : value = .str text := by
  cases value with
  | str s => exact congrArg Json.str (Except.ok.inj h)
  | arr items => rw [Source.ofJson_arr] at h; cases h
  | obj members => rw [Source.ofJson_obj] at h; cases h
  | null => cases h
  | bool b => cases h
  | number n => cases h

/-- Entries that are read stand under their own keys. -/
theorem forall₂_of_readEntries {origin : Origin} {members : List (String × Json)}
    {entries : List (String × α)}
    (h : c.readEntries origin (members.map fun m => (.text m.1, .ofJson m.2)) = .ok entries) :
    List.Forall₂ (fun e m => e.1 = m.1 ∧ c.read origin (.ofJson m.2) = .ok e.2) entries members := by
  induction members generalizing entries with
  | nil =>
    cases h
    exact .nil
  | cons m members ih =>
    rw [List.map_cons, readEntries] at h
    obtain ⟨a, hread, h⟩ := exists_of_bind_ok h
    obtain ⟨rest, hrest, h⟩ := exists_of_bind_ok h
    cases h
    exact .cons ⟨rfl, hread⟩ (ih hrest)

theorem strings_laidOut : Codec.string.dict.LaidOut .strings := by
  refine laidOut_plain fun {origin value d} htidy h => ?_
  cases value with
  | obj members =>
    rw [Source.ofJson_obj] at h
    obtain ⟨entries, hentries, h⟩ := exists_of_bind_ok h
    obtain ⟨_, -, h⟩ := exists_of_bind_ok h
    cases h
    have hall := forall₂_of_readEntries hentries
    have hkeys : entries.map Prod.fst = members.map Prod.fst :=
      List.forall₂_eq_eq_eq ▸ List.forall₂_map_left_iff.2 (List.forall₂_map_right_iff.2
        (hall.imp fun _ _ h => h.1))
    refine ⟨members, rfl, fun m hm => ?_⟩
    obtain ⟨e, he, hkey, hread⟩ := exists_of_mem_right hall hm
    cases htidy with
    | obj hnodup =>
      -- no key is repeated, so the entry is the one that counts
      refine ⟨e.2, eq_of_string_read hread, ?_⟩
      rw [Dict.get?_ofList_of_nodup (hkeys ▸ hnodup), ← hkey]
      exact Dict.lookup_of_mem (hkeys ▸ hnodup) he
  | arr items => rw [Source.ofJson_arr] at h; cases h
  | null => cases h
  | bool b => cases h
  | number n => cases h
  | str s => cases h

theorem LaidOut.option (h : c.LaidOut layout) : c.option.LaidOut layout.option where
  read_pruned origin value := by
    change c.option.read origin (.ofJson (layout.pruned value)) = _
    by_cases hnull : value = .null
    · rw [h.pruned_null_iff.2 hnull, hnull]
    · have hpruned : layout.pruned value ≠ .null := fun hpruned => hnull (h.pruned_null_iff.1 hpruned)
      rw [read_option_of_ne_null origin hnull, read_option_of_ne_null origin hpruned, h.read_pruned]
  shows_pruned := by
    intro origin value o htidy hread
    by_cases hnull : value = .null
    · subst hnull
      cases hread
      exact h.pruned_null_iff.2 rfl
    · rw [read_option_of_ne_null origin hnull] at hread
      obtain ⟨a, hvalue, rfl⟩ := exists_of_map_ok hread
      exact h.shows_pruned htidy hvalue
  pruned_of_known := by
    rintro value (rfl | hknown)
    · exact h.pruned_null_iff.2 rfl
    · exact h.pruned_of_known hknown
  known_of_shows := by
    rintro (_ | a) value hshows
    · exact .inl hshows
    · exact .inr (h.known_of_shows hshows)
  pruned_canonical := h.pruned_canonical
  pruned_null_iff := h.pruned_null_iff

theorem LaidOut.readItems_pruned (h : c.LaidOut layout) (origin : Origin) (items : List Json) :
    c.readItems origin ((items.map layout.pruned).map .ofJson)
      = c.readItems origin (items.map .ofJson) := by
  induction items with
  | nil => rfl
  | cons item items ih => simp only [List.map_cons, Codec.readItems, h.read_pruned, ih]

/-- Items that are read stand in the list in their order. -/
theorem LaidOut.forall₂_of_readItems (h : c.LaidOut layout) {origin : Origin} {items : List Json}
    {as : List α} (htidy : ∀ item ∈ items, item.Tidy)
    (hread : c.readItems origin (items.map .ofJson) = .ok as) :
    List.Forall₂ layout.shows as (items.map layout.pruned) := by
  -- item by item: what is left of the first stands in its value, and so on for the others
  induction items generalizing as with
  | nil =>
    cases hread
    exact .nil
  | cons item items ih =>
    rw [List.map_cons, Codec.readItems] at hread
    obtain ⟨a, hfirst, hread⟩ := exists_of_bind_ok hread
    obtain ⟨rest, hrest, hread⟩ := exists_of_bind_ok hread
    cases hread
    exact .cons (h.shows_pruned (htidy _ List.mem_cons_self) hfirst)
      (ih (fun i hi => htidy i (List.mem_cons_of_mem _ hi)) hrest)

theorem LaidOut.list (h : c.LaidOut layout) : c.list.LaidOut layout.list where
  read_pruned origin value := by
    cases value with
    | arr items =>
      show c.list.read origin (.ofJson (.arr (items.map layout.pruned))) = _
      rw [Source.ofJson_arr, Source.ofJson_arr]
      simp only [Codec.list, h.readItems_pruned]
    | null => rfl
    | bool b => rfl
    | number n => rfl
    | str s => rfl
    | obj members => rfl
  shows_pruned := by
    intro origin value as htidy hread
    cases htidy with
    | arr hitems =>
      rw [Source.ofJson_arr] at hread
      obtain ⟨as, hread, hend⟩ := exists_of_bind_ok hread
      cases hend
      exact ⟨_, rfl, h.forall₂_of_readItems hitems hread⟩
    | obj => rw [Source.ofJson_obj] at hread; cases hread
    | null => cases hread
    | bool b => cases hread
    | number n => cases hread
    | str s => cases hread
  pruned_of_known := by
    intro value hknown
    cases value with
    | arr items =>
      exact congrArg Json.arr ((List.map_congr_left fun item hitem =>
        h.pruned_of_known (hknown item hitem)).trans (List.map_id _))
    | _ => rfl
  known_of_shows := by
    rintro as _ ⟨items, rfl, hitems⟩ item hitem
    obtain ⟨a, -, hshows⟩ := exists_of_mem_right hitems hitem
    exact h.known_of_shows hshows
  pruned_canonical value := by
    cases value with
    | arr items =>
      show (Json.arr (items.map layout.pruned)).canonical = layout.list.pruned (Json.arr items).canonical
      rw [Json.canonical_arr, Json.canonical_arr]
      show Json.arr _ = Json.arr _
      rw [List.map_map, List.map_map]
      exact congrArg Json.arr (List.map_congr_left fun item _ => h.pruned_canonical item)
    | obj members => rfl
    | _ => rfl
  pruned_null_iff := by
    intro value
    cases value with
    | arr items => constructor <;> rintro ⟨⟩
    | _ => exact .rfl

end Codec

/-! ### Records -/

/-- Every field is laid out as its layout says. -/
def Fields.LaidOut : {ts : List Type} → Fields ts → Layouts ts → Prop
  | _, .nil, .nil => True
  | _, .cons field rest, .cons layout others => field.codec.LaidOut layout ∧ rest.LaidOut others

namespace Layouts

variable {origin : Origin} {key : String} {value : Json} {items : List Json}

theorem put?_pruned : {ts : List Type} → {layouts : Layouts ts} → {fields : Fields ts} →
    {slots : Partial ts} → fields.LaidOut layouts →
    fields.put? origin key (.ofJson (layouts.prunedAt key value fields)) slots
      = fields.put? origin key (.ofJson value) slots
  | _, .nil, .nil, _, _ => rfl
  | _, .cons layout others, .cons field rest, (slot, slots), h => by
    rw [prunedAt, Fields.put?, Fields.put?]
    -- the field that the key names reads what is left as it reads all of it; the others are not asked
    by_cases hkey : key ∈ field.spellings
    · have hmine : field.accepts key = true := by simpa [Field.accepts] using hkey
      rw [if_pos hkey, if_pos hmine, if_pos hmine, h.1.read_pruned]
    · have hother : ¬field.accepts key = true := by simpa [Field.accepts] using hkey
      rw [if_neg hkey, if_neg hother, if_neg hother, put?_pruned h.2]

theorem readItems_pruned {expected : String} {total : Nat} : {ts : List Type} →
    {layouts : Layouts ts} → {fields : Fields ts} → {items : List Json} → fields.LaidOut layouts →
    fields.readItems origin expected none total ((layouts.prunedItems items).map .ofJson)
        = fields.readItems origin expected none total (items.map .ofJson)
  | _, .nil, .nil, _, _ => rfl
  | _, .cons _ _, .cons _ _, [], _ => rfl
  | _, .cons layout others, .cons field rest, item :: items, h => by
    rw [prunedItems, List.map_cons, List.map_cons, Fields.readItems, Fields.readItems,
      h.1.read_pruned, readItems_pruned h.2]

theorem length_prunedItems : {ts : List Type} → {layouts : Layouts ts} → {items : List Json} →
    (layouts.prunedItems items).length = items.length
  | _, .nil, _ => rfl
  | _, .cons _ _, [] => rfl
  | _, .cons _ others, _ :: _ => congrArg (· + 1) (@length_prunedItems _ others _)

/-- What is left of a member that is read stands in the value of its field. -/
theorem shows_of_given {members : List (String × Source)} (hm : (key, .ofJson value) ∈ members)
    (htidy : value.Tidy) : {ts : List Type} → {layouts : Layouts ts} → {fields : Fields ts} →
    {row : Row ts} → fields.LaidOut layouts → fields.Given origin members row →
    key ∈ fields.spellings → layouts.Shows key (layouts.prunedAt key value fields) fields row
  | _, .nil, .nil, _, _, _, hkey => nomatch hkey
  | _, .cons layout others, .cons field rest, (a, row), h, hgiven, hkey => by
    rw [Shows, prunedAt]
    by_cases hmine : key ∈ field.spellings
    · rw [if_pos hmine, if_pos hmine]
      exact h.1.shows_pruned htidy (hgiven.1.read hm hmine)
    · rw [if_neg hmine, if_neg hmine]
      exact shows_of_given hm htidy h.2 hgiven.2 ((List.mem_append.1 hkey).resolve_left hmine)

/-- What is left of the items of an array that is read stands in the values of the fields. -/
theorem showsItems_of_given : {ts : List Type} → {layouts : Layouts ts} → {fields : Fields ts} →
    {row : Row ts} → {items : List Json} → (∀ item ∈ items, item.Tidy) → fields.LaidOut layouts →
    fields.GivenInOrder origin row (items.map .ofJson) →
    layouts.ShowsItems row (layouts.prunedItems items)
  | _, .nil, .nil, _, _, _, _, hgiven => List.map_eq_nil_iff.1 hgiven
  | _, .cons _ _, .cons _ _, (_, _), [], _, _, _ => trivial
  | _, .cons _ _, .cons _ _, (_, _), _ :: _, htidy, h, hgiven =>
    ⟨h.1.shows_pruned (htidy _ List.mem_cons_self) hgiven.1,
      showsItems_of_given (fun i hi => htidy i (List.mem_cons_of_mem _ hi)) h.2 hgiven.2⟩

theorem knows_of_shows : {ts : List Type} → {layouts : Layouts ts} → {fields : Fields ts} →
    {row : Row ts} → fields.LaidOut layouts → layouts.Shows key value fields row →
    layouts.Knows key value fields
  | _, .nil, .nil, _, _, h => h
  | _, .cons _ _, .cons field rest, (a, row), h, hshows => by
    rw [Shows] at hshows
    rw [Knows]
    split at hshows
    · next hkey =>
      rw [if_pos hkey]
      exact h.1.known_of_shows hshows
    · next hkey =>
      rw [if_neg hkey]
      exact knows_of_shows h.2 hshows

theorem knowsItems_of_shows : {ts : List Type} → {layouts : Layouts ts} → {fields : Fields ts} →
    {row : Row ts} → {items : List Json} → fields.LaidOut layouts → layouts.ShowsItems row items →
    layouts.KnowsItems items
  | _, .nil, .nil, _, _, _, h => h
  | _, .cons _ _, .cons _ _, (_, _), [], _, _ => trivial
  | _, .cons _ _, .cons _ _, (_, _), _ :: _, h, hshows =>
    ⟨h.1.known_of_shows hshows.1, knowsItems_of_shows h.2 hshows.2⟩

theorem Knows.mem_spellings : {ts : List Type} → {layouts : Layouts ts} → {fields : Fields ts} →
    layouts.Knows key value fields → key ∈ fields.spellings
  | _, .nil, .nil, h => h.elim
  | _, .cons _ _, .cons field rest, h => by
    rw [Knows] at h
    rw [Fields.spellings, List.mem_append]
    split at h
    · next hkey => exact .inl hkey
    · exact .inr (mem_spellings h)

theorem Knows.prunedAt_eq : {ts : List Type} → {layouts : Layouts ts} → {fields : Fields ts} →
    fields.LaidOut layouts → layouts.Knows key value fields →
    layouts.prunedAt key value fields = value
  | _, .nil, .nil, _, _ => rfl
  | _, .cons _ _, .cons field rest, h, hknows => by
    rw [Knows] at hknows
    rw [prunedAt]
    split at hknows
    · next hkey =>
      rw [if_pos hkey]
      exact h.1.pruned_of_known hknows
    · next hkey =>
      rw [if_neg hkey]
      exact prunedAt_eq h.2 hknows

theorem KnowsItems.prunedItems_eq : {ts : List Type} → {layouts : Layouts ts} →
    {fields : Fields ts} → {items : List Json} → fields.LaidOut layouts → layouts.KnowsItems items →
    layouts.prunedItems items = items
  | _, .nil, .nil, _, _, _ => rfl
  | _, .cons _ _, .cons _ _, [], _, _ => rfl
  | _, .cons _ _, .cons _ _, _ :: _, h, hknows => by
    rw [prunedItems, h.1.pruned_of_known hknows.1, prunedItems_eq h.2 hknows.2]

/-! ### Canonical form -/

theorem prunedAt_canonical : {ts : List Type} → {layouts : Layouts ts} → {fields : Fields ts} →
    fields.LaidOut layouts →
    (layouts.prunedAt key value fields).canonical = layouts.prunedAt key value.canonical fields
  | _, .nil, .nil, _ => rfl
  | _, .cons _ _, .cons field rest, h => by
    rw [prunedAt, prunedAt]
    split
    · exact h.1.pruned_canonical _
    · exact prunedAt_canonical h.2

theorem prunedItems_canonical : {ts : List Type} → {layouts : Layouts ts} → {fields : Fields ts} →
    {items : List Json} → fields.LaidOut layouts →
    (layouts.prunedItems items).map Json.canonical = layouts.prunedItems (items.map Json.canonical)
  | _, .nil, .nil, _, _ => rfl
  | _, .cons _ _, .cons _ _, [], _ => rfl
  | _, .cons _ _, .cons _ _, _ :: _, h => by
    rw [prunedItems, List.map_cons, List.map_cons, prunedItems, h.1.pruned_canonical,
      prunedItems_canonical h.2]

variable {ts : List Type} {layouts : Layouts ts} {fields : Fields ts} {strict : Bool}

theorem lookup_prunedMembers (members : List (String × Json)) (key : String) :
    (layouts.prunedMembers fields strict members).lookup key =
      if strict || fields.spellings.contains key then
        (members.lookup key).map fun value => layouts.prunedAt key value fields
      else none := by
  unfold prunedMembers
  induction members with
  | nil => simp
  | cons m members ih =>
    rw [List.filter_cons, Dict.lookup_cons_if]
    split
    · next hkept =>
      rw [List.map_cons, Dict.lookup_cons_if, ih]
      by_cases hkey : key = m.1
      · rw [if_pos hkey, if_pos hkey, hkey, if_pos hkept]
        rfl
      · rw [if_neg hkey, if_neg hkey]
    · next hdropped =>
      rw [ih]
      -- a key that is dropped is dropped from every member, so it is not found further on either
      by_cases hkey : key = m.1
      · rw [hkey, if_neg hdropped, if_neg hdropped]
      · rw [if_neg hkey]

/-- Of the canonical form as much is left as the canonical form of what is left. -/
theorem prunedMembers_canonical (h : fields.LaidOut layouts) (members : List (String × Json)) :
    ((Dict.ofList (layouts.prunedMembers fields strict members)).map Json.canonical).entries
      = layouts.prunedMembers fields strict ((Dict.ofList members).map Json.canonical).entries := by
  have hsorted : (layouts.prunedMembers fields strict
      ((Dict.ofList members).map Json.canonical).entries).Pairwise fun m n => m.1 < n.1 :=
    List.pairwise_map.2 ((Dict.sorted _).filter _)
  -- both sides are in the order of their keys, so it is enough to compare their look-ups
  refine Dict.entries_eq_of_lookup (Dict.sorted _) hsorted fun key => ?_
  have hreverse : (layouts.prunedMembers fields strict members).reverse
      = layouts.prunedMembers fields strict members.reverse := by
    rw [prunedMembers, prunedMembers, List.filter_reverse, List.map_reverse]
  -- the last member under a key counts on both sides
  rw [lookup_prunedMembers]
  change ((Dict.ofList _).map Json.canonical).get? key = if _ then
    (((Dict.ofList members).map Json.canonical).get? key).map _ else none
  rw [Dict.get?_map, Dict.get?_map, Dict.get?_ofList, Dict.get?_ofList, hreverse,
    lookup_prunedMembers]
  split
  · rw [Option.map_map, Option.map_map]
    exact congrArg (Option.map · _) (funext fun value => prunedAt_canonical h)
  · rfl

end Layouts

namespace Shape

variable {α : Type} {s : Shape α} {layouts : Layouts s.types} {origin : Origin}

theorem readMembers_pruned (h : s.fields.LaidOut layouts) (members : List (String × Json))
    (slots : Partial s.types) :
    s.readMembers origin ((layouts.prunedMembers s.fields s.strict members).map
        fun m => (.text m.1, .ofJson m.2)) slots
      = s.readMembers origin (members.map fun m => (.text m.1, .ofJson m.2)) slots := by
  unfold Layouts.prunedMembers
  -- member by member; those in front may have filled any of the slots
  induction members generalizing slots with
  | nil => rfl
  | cons m members ih =>
    by_cases hkey : m.1 ∈ s.fields.spellings
    · rw [List.filter_cons_of_pos (by simp [hkey])]
      simp only [List.map_cons, readMembers, Layouts.put?_pruned h]
      split
      · exact ih _
      · rfl
      · simp only [Source.skipFault_ofJson, ih]
    · have hput : ∀ value, s.fields.put? origin m.1 value slots = none := fun _ =>
        Fields.put?_of_not_mem hkey
      by_cases hstrict : s.strict = true
      · -- what a strict record refuses is still there
        rw [List.filter_cons_of_pos (by simp [hstrict])]
        simp only [List.map_cons, readMembers, hput, hstrict, if_true]
      · -- the member is dropped, and the reader would have skipped it
        rw [List.filter_cons_of_neg (by simp [hkey, hstrict]), ih]
        simp only [List.map_cons, readMembers, hput, hstrict, Source.skipFault_ofJson]
        rfl

/-- **Records are laid out** as their fields are. -/
theorem laidOut (hnodup : s.fields.spellings.Nodup) (h : s.fields.LaidOut layouts)
    (hparts : ∀ row, s.parts (s.build row) = row) : s.codec.LaidOut (.record s layouts) where
  read_pruned origin value := by
    cases value with
    | obj members =>
      change s.read origin (.ofJson (.obj (layouts.prunedMembers s.fields s.strict members)))
        = s.read origin (.ofJson (.obj members))
      rw [Source.ofJson_obj, Source.ofJson_obj]
      simp only [read, readMembers_pruned h]
    | arr items =>
      change s.read origin (.ofJson (.arr (layouts.prunedItems items)))
        = s.read origin (.ofJson (.arr items))
      rw [Source.ofJson_arr, Source.ofJson_arr]
      simp only [read, List.length_map, Layouts.length_prunedItems, Layouts.readItems_pruned h]
    | null => rfl
    | bool b => rfl
    | number n => rfl
    | str s => rfl
  shows_pruned := by
    intro origin value a htidy hread
    cases htidy with
    | @obj members hkeys hitems =>
      obtain ⟨row, rfl, hgiven, hpasses⟩ := (read_ofJson_obj_iff hnodup).1 hread
      intro m hm
      obtain ⟨raw, hraw, rfl⟩ := List.mem_map.1 hm
      obtain ⟨hraw, hkept⟩ := List.mem_filter.1 hraw
      have hsource : (raw.1, Source.ofJson raw.2) ∈ members.map fun m => (m.1, Source.ofJson m.2) :=
        List.mem_map_of_mem hraw
      -- what is left names a field, in a strict record because it has been read
      have hkey : raw.1 ∈ s.fields.spellings := by
        rcases hpasses raw hraw with hkey | ⟨hloose, -⟩
        · exact hkey
        · simpa [hloose] using hkept
      rw [hparts]
      exact Layouts.shows_of_given hsource (hitems raw hraw) h hgiven hkey
    | @arr items hitems =>
      rw [Source.ofJson_arr] at hread
      obtain ⟨row, rfl, hgiven⟩ := read_arr_iff.1 hread
      show layouts.ShowsItems (s.parts (s.build row)) _
      rw [hparts]
      exact Layouts.showsItems_of_given hitems h hgiven
    | null => cases hread
    | bool b => cases hread
    | number n => cases hread
    | str s => cases hread
  pruned_of_known := by
    intro value hknown
    cases value with
    | obj members =>
      have hkept : ∀ m ∈ members, (s.strict || s.fields.spellings.contains m.1) = true :=
        fun m hm => by simp [(hknown m hm).mem_spellings]
      refine congrArg Json.obj ?_
      rw [Layouts.prunedMembers, List.filter_eq_self.2 hkept]
      refine (List.map_congr_left fun m hm => ?_).trans (List.map_id _)
      exact Prod.ext rfl ((hknown m hm).prunedAt_eq h)
    | arr items => exact congrArg Json.arr (Layouts.KnowsItems.prunedItems_eq h hknown)
    | _ => rfl
  known_of_shows := by
    intro a value hshows
    cases value with
    | obj members => exact fun m hm => Layouts.knows_of_shows h (hshows m hm)
    | arr items => exact Layouts.knowsItems_of_shows h hshows
    | _ => exact hshows.elim
  pruned_canonical value := by
    cases value with
    | obj members =>
      show (Json.obj (layouts.prunedMembers s.fields s.strict members)).canonical
        = (Layout.record s layouts).pruned (Json.obj members).canonical
      rw [Json.canonical_obj, Json.canonical_obj, Layouts.prunedMembers_canonical h]
      rfl
    | arr items =>
      show (Json.arr (layouts.prunedItems items)).canonical
        = (Layout.record s layouts).pruned (Json.arr items).canonical
      rw [Json.canonical_arr, Json.canonical_arr, Layouts.prunedItems_canonical h]
      rfl
    | _ => rfl
  pruned_null_iff := by
    intro value
    cases value with
    | obj members => constructor <;> rintro ⟨⟩
    | arr items => constructor <;> rintro ⟨⟩
    | _ => exact .rfl

end Shape

end VolumeBroker
