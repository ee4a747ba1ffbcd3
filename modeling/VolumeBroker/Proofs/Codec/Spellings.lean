import VolumeBroker.Proofs.Codec.Laws
import Mathlib.Data.List.Pairwise
/-!
# One value in many spellings

A value may be written in more ways than the one in which its codec writes it. A `Style` says in which:
`words` relates a value to the documents that stand for it, and `clashes` are the documents that are
no one's, because somewhere in them a field is given under two of its spellings. `Codec.Follows` says
that a codec reads every document of a value as that value, and refuses every document that clashes;
`Codec.Admits` is the first half of it.

The style of a record is made from a `Manner` for each of its fields: the keys under which the field
may stand, the style of its values, and the value that may be left out. Fields are written
independently of each other and in any order (`Manners.Gives`). There is one law for each way to build a
codec; the law of records is `Shape.follows`.
-/

namespace VolumeBroker

/-- How values of a type may be written. -/
structure Style (α : Type) where
  /-- The documents that stand for a value. -/
  words : α → Json → Prop
  /-- The documents that give a field under two spellings, however deep. -/
  clashes : Json → Prop

/-- A codec reads what a style admits and refuses what clashes, and what it writes is one of the
documents that the style admits. Canonical forms are admitted or clash as the documents do. -/
structure Codec.Follows {α : Type} (c : Codec α) (style : Style α) : Prop where
  write : ∀ a, style.words a (c.write a)
  read : ∀ {a value}, style.words a value → ∀ origin, c.read origin (.ofJson value) = .ok a
  refuse : ∀ {value}, style.clashes value →
    ∀ origin, ∃ problem, c.read origin (.ofJson value) = .error problem
  words_canonical : ∀ {a value}, style.words a value → style.words a value.canonical
  clashes_canonical : ∀ {value}, value.Tidy → style.clashes value → style.clashes value.canonical

/-- A codec reads every document that stands for a value as that value. -/
def Codec.Admits {α : Type} (c : Codec α) (style : Style α) : Prop :=
  ∀ a value, style.words a value → ∀ origin, c.read origin (.ofJson value) = .ok a

/-- How a field may be given. -/
structure Manner (α : Type) where
  /-- The keys under which it may stand. -/
  spellings : List String
  /-- How its values may be written. -/
  style : Style α
  /-- The value that may be left out. -/
  fallback : Option α

/-- How the fields of a record may be given, in declared order. -/
inductive Manners : List Type → Type 1 where
  | nil : Manners []
  | cons {α : Type} {ts : List Type} (manner : Manner α) (rest : Manners ts) : Manners (α :: ts)

namespace Manners

/-- Members that give the values of a record: each field under one of its keys, in one of the ways to
write its value, or not at all if it has the value that may be left out. -/
def Gives : {ts : List Type} → Manners ts → Row ts → List (String × Json) → Prop
  | _, .nil, _, members => members = []
  | _, .cons manner rest, (a, row), members =>
    (manner.fallback = some a ∧ rest.Gives row members) ∨
      ∃ key value others, members = (key, value) :: others ∧ key ∈ manner.spellings ∧
        manner.style.words a value ∧ rest.Gives row others

/-- Members of which two give one field under different keys, or one gives a field a value that
clashes in itself. -/
def Clash : {ts : List Type} → Manners ts → List (String × Json) → Prop
  | _, .nil, _ => False
  | _, .cons manner rest, members =>
    (∃ m ∈ members, ∃ n ∈ members,
        m.1 ≠ n.1 ∧ m.1 ∈ manner.spellings ∧ n.1 ∈ manner.spellings) ∨
      (∃ m ∈ members, m.1 ∈ manner.spellings ∧ manner.style.clashes m.2) ∨ rest.Clash members

end Manners

namespace Style

variable {α : Type}

/-- Values without fields. -/
def plain (words : α → Json → Prop) : Style α := ⟨words, fun _ => False⟩

/-- Strings are written in one way. -/
def string : Style String := .plain fun s value => value = .str s

/-- Numbers are written as numbers. -/
def number : Style UInt64 := .plain fun n value => value = .nat n.toNat

/-- Dictionaries of strings; the order of their entries is free. -/
def strings : Style (Dict String) := .plain fun d value =>
  ∃ members, value = .obj members ∧ members.Perm (d.entries.map fun e => (e.1, .str e.2))

/-- A value that is absent is written as `null`. -/
def option (style : Style α) : Style (Option α) where
  words
    | none, value => value = .null
    | some a, value => value ≠ .null ∧ style.words a value
  clashes value := value ≠ .null ∧ style.clashes value

/-- Lists, item by item. -/
def list (style : Style α) : Style (List α) where
  words as value := ∃ items, value = .arr items ∧ List.Forall₂ style.words as items
  clashes value := ∃ items, value = .arr items ∧ ∃ item ∈ items, style.clashes item

/-- Records; the order of their members is free. -/
def record {ts : List Type} (manners : Manners ts) (parts : α → Row ts) : Style α where
  words a value := ∃ members given,
    value = .obj members ∧ members.Perm given ∧ manners.Gives (parts a) given
  clashes value := ∃ members, value = .obj members ∧ manners.Clash members

end Style

/-- The spelling of what is read makes no difference. -/
structure Codec.Indifferent {α : Type} (c : Codec α) (style : Style α) : Prop where
  /-- What is written for a value is one of its spellings. -/
  written : ∀ a, style.words a (c.write a)
  /-- Every spelling of a value is read as that value, in memory and wherever a document comes from. -/
  read : ∀ a value, style.words a value →
    c.ofJson value = .ok a ∧ ∀ origin, c.read origin (.ofJson value) = .ok a
  /-- A document that gives a field under two spellings is not read. -/
  twice : ∀ value, style.clashes value →
    (∀ origin, ∃ problem, c.read origin (.ofJson value) = .error problem) ∧
      (value.Tidy → ∃ problem, c.ofJson value = .error problem)

/-! ### Plain values, optional values and lists -/

namespace Codec

variable {α : Type} {c : Codec α} {style : Style α}

/-- What a codec that follows a style makes of values in memory. -/
theorem Follows.ofJson (h : c.Follows style) {a : α} {value : Json} (hvalue : style.words a value) :
    c.ofJson value = .ok a :=
  h.read (h.words_canonical hvalue) .value

theorem Follows.indifferent (h : c.Follows style) : c.Indifferent style where
  written := h.write
  read _ _ hvalue := ⟨h.ofJson hvalue, h.read hvalue⟩
  twice _ hvalue := ⟨h.refuse hvalue, fun htidy => h.refuse (h.clashes_canonical htidy hvalue) .value⟩

theorem Follows.admits (h : c.Follows style) : c.Admits style := fun _ _ hvalue => h.read hvalue

/-- A codec whose values have no fields. -/
theorem follows_plain {words : α → Json → Prop} (hwrite : ∀ a, words a (c.write a))
    (hread : ∀ {a value}, words a value → ∀ origin, c.read origin (.ofJson value) = .ok a)
    (hcanonical : ∀ {a value}, words a value → words a value.canonical) :
    c.Follows (.plain words) where
  write := hwrite
  read := hread
  refuse h := h.elim
  words_canonical := hcanonical
  clashes_canonical _ h := h.elim

theorem string_follows : string.Follows .string :=
  follows_plain (fun _ => rfl) (by rintro s _ rfl origin; rfl) (by rintro s _ rfl; rfl)

theorem uint64_follows : uint64.Follows .number :=
  follows_plain (fun _ => rfl)
    (by rintro n _ rfl origin; exact (uint64_readsBack n).read origin _ (.number _) rfl)
    (by rintro n _ rfl; rfl)

theorem Admits.option (h : c.Admits style) : c.option.Admits style.option := by
  rintro (_ | a) value hvalue origin
  · rw [show value = .null from hvalue]
    rfl
  · rw [read_option_of_ne_null origin hvalue.1, h a value hvalue.2 origin]
    rfl

theorem Follows.option (h : c.Follows style) (hne : ∀ a, c.write a ≠ .null) :
    c.option.Follows style.option where
  write
    | none => rfl
    | some a => ⟨hne a, h.write a⟩
  read hvalue := h.admits.option _ _ hvalue
  refuse := by
    rintro value ⟨hne, hvalue⟩ origin
    obtain ⟨problem, hread⟩ := h.refuse hvalue origin
    exact ⟨problem, by rw [read_option_of_ne_null origin hne, hread]; rfl⟩
  -- only null has the canonical form null
  words_canonical := by
    rintro (_ | a) value hvalue
    · rw [show value = .null from hvalue]
      rfl
    · exact ⟨fun hnull => hvalue.1 (Json.eq_of_canonical_null hnull), h.words_canonical hvalue.2⟩
  clashes_canonical htidy hvalue :=
    ⟨fun hnull => hvalue.1 (Json.eq_of_canonical_null hnull), h.clashes_canonical htidy hvalue.2⟩

theorem Admits.list (h : c.Admits style) : c.list.Admits style.list := by
  rintro as _ ⟨items, rfl, hitems⟩ origin
  have hread : c.readItems origin (items.map Source.ofJson) = .ok as := by
    induction hitems with
    | nil => rfl
    | cons hitem _ ih =>
      rw [List.map_cons, Codec.readItems, h _ _ hitem origin, ih]
      rfl
  rw [Source.ofJson_arr]
  simp only [Codec.list, hread, endOf, bind, Except.bind]

/-- Of items that are read every one is read. -/
theorem exists_of_readItems {origin : Origin} {items : List Source} {as : List α}
    (h : c.readItems origin items = .ok as) {item : Source} (hitem : item ∈ items) :
    ∃ a, c.read origin item = .ok a := by
  induction items generalizing as with
  | nil => cases hitem
  | cons first items ih =>
    rw [readItems] at h
    obtain ⟨a, hfirst, h⟩ := exists_of_bind_ok h
    obtain ⟨as, hrest, -⟩ := exists_of_bind_ok h
    rcases List.mem_cons.1 hitem with rfl | hitem
    · exact ⟨a, hfirst⟩
    · exact ih hrest hitem

theorem Follows.list (h : c.Follows style) : c.list.Follows style.list where
  write as :=
    ⟨_, rfl, List.forall₂_map_right_iff.2 (List.forall₂_same.2 fun a _ => h.write a)⟩
  read hvalue := h.admits.list _ _ hvalue
  refuse := by
    rintro _ ⟨items, rfl, item, hitem, hclash⟩ origin
    obtain ⟨problem, hread⟩ := h.refuse hclash origin
    cases hlist : c.list.read origin (.ofJson (.arr items)) with
    | error problem => exact ⟨problem, rfl⟩
    | ok as =>
      -- the item that clashes would have been read
      rw [Source.ofJson_arr] at hlist
      obtain ⟨as', hitems, -⟩ := exists_of_bind_ok hlist
      obtain ⟨a, ha⟩ := exists_of_readItems hitems (List.mem_map_of_mem hitem)
      rw [hread] at ha
      cases ha
  words_canonical := by
    rintro as _ ⟨items, rfl, hitems⟩
    refine ⟨_, Json.canonical_arr items, List.forall₂_map_right_iff.2 ?_⟩
    exact hitems.imp fun _ _ => h.words_canonical
  clashes_canonical := by
    rintro _ htidy ⟨items, rfl, item, hitem, hclash⟩
    cases htidy with
    | arr htidy =>
      exact ⟨_, Json.canonical_arr items, _, List.mem_map_of_mem hitem,
        h.clashes_canonical (htidy item hitem) hclash⟩

end Codec

/-! ### Dictionaries -/

namespace Dict

variable {α : Type}

/-- Entries without repeated keys are the entries of their dictionary, in another order. -/
theorem entries_ofList_perm {entries : List (String × α)} (hnodup : (entries.map Prod.fst).Nodup) :
    (ofList entries).entries.Perm entries := by
  refine (List.perm_ext_iff_of_nodup (ofList entries).keys_nodup.of_map hnodup.of_map).2 ?_
  rintro ⟨key, a⟩
  rw [← get?_eq_some_iff, get?_ofList_of_nodup hnodup]
  exact ⟨mem_of_lookup, lookup_of_mem hnodup⟩

/-- Entries that differ in order only make up the same dictionary. -/
theorem ofList_perm {entries entries' : List (String × α)} (hnodup : (entries.map Prod.fst).Nodup)
    (h : entries.Perm entries') : ofList entries = ofList entries' := by
  have hnodup' : (entries'.map Prod.fst).Nodup := (h.map Prod.fst).nodup_iff.1 hnodup
  refine ext_get? fun key => Option.ext fun a => ?_
  rw [get?_eq_some_iff, get?_eq_some_iff, (entries_ofList_perm hnodup).mem_iff,
    (entries_ofList_perm hnodup').mem_iff, h.mem_iff]

end Dict

namespace Json

/-- The canonical form of an object without repeated keys holds the canonical values of its members. -/
theorem canonical_obj_perm {members : List (String × Json)} (hnodup : (members.map Prod.fst).Nodup) :
    ∃ sorted, (obj members).canonical = .obj sorted ∧
      sorted.Perm (members.map fun m => (m.1, m.2.canonical)) :=
  ⟨_, canonical_obj members, (Dict.entries_ofList_perm hnodup).map _⟩

/-- Members in another order make the same canonical object. -/
theorem canonical_obj_of_perm {members members' : List (String × Json)}
    (hnodup : (members.map Prod.fst).Nodup) (h : members.Perm members') :
    (obj members).canonical = (obj members').canonical := by
  rw [canonical_obj, canonical_obj, Dict.ofList_perm hnodup h]

end Json

theorem Codec.strings_follows : Codec.string.dict.Follows .strings := by
  have hkeys : ∀ {d : Dict String} {members : List (String × Json)},
      members.Perm (d.entries.map fun e => (e.1, .str e.2)) → (members.map Prod.fst).Nodup := by
    intro d members hmembers
    rw [(hmembers.map Prod.fst).nodup_iff, List.map_map]
    exact d.keys_nodup
  refine follows_plain (fun d => ⟨_, rfl, .refl _⟩) ?_ ?_
  · rintro d _ ⟨members, rfl, hmembers⟩ origin
    -- the document has the canonical form of the one that is written
    refine (Codec.strings_readsBack d).read origin _ (.obj (hkeys hmembers) fun m hm => ?_) ?_
    · obtain ⟨e, -, rfl⟩ := List.mem_map.1 (hmembers.mem_iff.1 hm)
      exact .str _
    · exact Json.canonical_obj_of_perm (hkeys hmembers) hmembers
  · rintro d _ ⟨members, rfl, hmembers⟩
    obtain ⟨sorted, hsorted, hperm⟩ := Json.canonical_obj_perm (hkeys hmembers)
    refine ⟨sorted, hsorted, hperm.trans ((hmembers.map _).trans ?_)⟩
    rw [List.map_map]
    rfl

/-! ### Records -/

/-- A field can be given as a manner says, and is written in such a way. -/
structure Field.Follows {α : Type} (f : Field α) (manner : Manner α) : Prop where
  spellings : manner.spellings ⊆ f.spellings
  name : f.name ∈ manner.spellings
  codec : f.codec.Follows manner.style
  fallback : f.fallback = manner.fallback
  omitted : ∀ a, f.omitted a = true → f.fallback = some a

/-- All fields can be given as their manners say. -/
def Fields.Follow : {ts : List Type} → Fields ts → Manners ts → Prop
  | _, .nil, .nil => True
  | _, .cons field rest, .cons manner others => field.Follows manner ∧ rest.Follow others

/-- A field that is given as a manner says is read. -/
structure Field.Admits {α : Type} (f : Field α) (manner : Manner α) : Prop where
  spellings : manner.spellings ⊆ f.spellings
  codec : f.codec.Admits manner.style
  fallback : f.fallback = manner.fallback

/-- Fields that are given as their manners say are read. -/
def Fields.Admit : {ts : List Type} → Fields ts → Manners ts → Prop
  | _, .nil, .nil => True
  | _, .cons field rest, .cons manner others => field.Admits manner ∧ rest.Admit others

theorem Fields.Follow.admits : {ts : List Type} → {fields : Fields ts} → {manners : Manners ts} →
    fields.Follow manners → fields.Admit manners
  | _, .nil, .nil, _ => trivial
  | _, .cons _ _, .cons _ _, h => ⟨⟨h.1.spellings, h.1.codec.admits, h.1.fallback⟩, admits h.2⟩

/-- What is written for one value of a field gives it another one. -/
def Field.Renders {α : Type} (f : Field α) (manner : Manner α) (a b : α) : Prop :=
  if f.omitted a = true then manner.fallback = some b
  else f.name ∈ manner.spellings ∧ manner.style.words b (f.codec.write a)

/-- What is written for one row gives another one, field by field. -/
def Fields.Render : {ts : List Type} → Fields ts → Manners ts → Row ts → Row ts → Prop
  | _, .nil, .nil, _, _ => True
  | _, .cons field rest, .cons manner others, (a, row), (b, row') =>
    field.Renders manner a b ∧ rest.Render others row row'

theorem Fields.Follow.render : {ts : List Type} → {fields : Fields ts} → {manners : Manners ts} →
    fields.Follow manners → ∀ row, fields.Render manners row row
  | _, .nil, .nil, _, _ => trivial
  | _, .cons field _, .cons manner _, h, (a, row) => by
    refine ⟨?_, render h.2 row⟩
    unfold Field.Renders
    split
    · next homitted => exact h.1.fallback ▸ h.1.omitted a homitted
    · exact ⟨h.1.name, h.1.codec.write a⟩

section Given

variable {origin : Origin} {members others : List (String × Source)} {key : String} {value : Source}

theorem Field.Given.of_perm {α : Type} {f : Field α} {a : α} (h : f.Given origin members a)
    (hperm : others.Perm members) : f.Given origin others a := by
  have hfilter := hperm.filter fun m => f.accepts m.1
  unfold Given at h ⊢
  -- at most one member is the field's, and lists as short as that have one order only
  rcases hnamed : members.filter fun m => f.accepts m.1 with _ | ⟨m, _ | ⟨n, rest⟩⟩
  · rw [hnamed] at h hfilter
    rw [List.perm_nil.1 hfilter]
    exact h
  · rw [hnamed] at h hfilter
    rw [List.perm_singleton.1 hfilter]
    exact h
  · rw [hnamed] at h
    exact h.elim

/-- The order of members does not matter. -/
theorem Fields.Given.of_perm (hperm : others.Perm members) : {ts : List Type} → {fields : Fields ts} →
    {row : Row ts} → fields.Given origin members row → fields.Given origin others row
  | _, .nil, _, _ => trivial
  | _, .cons _ _, (_, _), h => ⟨h.1.of_perm hperm, of_perm hperm h.2⟩

/-- A member that names no field may be added. -/
theorem Fields.Given.cons : {ts : List Type} → {fields : Fields ts} → {row : Row ts} →
    fields.Given origin members row → key ∉ fields.spellings →
    fields.Given origin ((key, value) :: members) row
  | _, .nil, _, _, _ => trivial
  | _, .cons field rest, (a, row), h, hkey => by
    rw [spellings, List.mem_append, not_or] at hkey
    refine ⟨?_, cons h.2 hkey.2⟩
    unfold Field.Given
    rw [List.filter_cons_of_neg (by simpa [Field.accepts] using hkey.1)]
    exact h.1

end Given

namespace Manners

/-- Members stand under spellings of fields. -/
theorem Gives.mem_spellings : {ts : List Type} → {manners : Manners ts} → {fields : Fields ts} →
    {row : Row ts} → {members : List (String × Json)} → manners.Gives row members →
    fields.Admit manners → ∀ m ∈ members, m.1 ∈ fields.spellings
  | _, .nil, .nil, _, _, h, _, m, hm => by
    rw [show _ = _ from h] at hm
    cases hm
  | _, .cons manner rest, .cons field others, (a, row), _, h, hadmits, m, hm => by
    rw [Fields.spellings, List.mem_append]
    rcases h with ⟨-, h⟩ | ⟨key, value, members, rfl, hkey, -, h⟩
    · exact .inr (mem_spellings h hadmits.2 m hm)
    · rcases List.mem_cons.1 hm with rfl | hm
      · exact .inl (hadmits.1.spellings hkey)
      · exact .inr (mem_spellings h hadmits.2 m hm)

/-- No two members stand under one key. -/
theorem Gives.nodup : {ts : List Type} → {manners : Manners ts} → {fields : Fields ts} →
    {row : Row ts} → {members : List (String × Json)} → manners.Gives row members →
    fields.Admit manners → fields.spellings.Nodup → (members.map Prod.fst).Nodup
  | _, .nil, .nil, _, _, h, _, _ => by
    rw [show _ = _ from h]
    exact List.nodup_nil
  | _, .cons manner rest, .cons field others, (a, row), _, h, hadmits, hnodup => by
    obtain ⟨-, hothers, hdisjoint⟩ := List.nodup_append.1 hnodup
    -- the fields share no name, and each gives one member at most
    rcases h with ⟨-, h⟩ | ⟨key, value, members, rfl, hkey, -, h⟩
    · exact nodup h hadmits.2 hothers
    · rw [List.map_cons, List.nodup_cons]
      refine ⟨fun hmem => ?_, nodup h hadmits.2 hothers⟩
      obtain ⟨m, hm, hname⟩ := List.mem_map.1 hmem
      exact hdisjoint _ (hadmits.1.spellings hkey) _ (h.mem_spellings hadmits.2 m hm) hname.symm

/-- Each field is given the value that it is to have. -/
theorem Gives.given (origin : Origin) : {ts : List Type} → {manners : Manners ts} →
    {fields : Fields ts} → {row : Row ts} → {members : List (String × Json)} →
    manners.Gives row members → fields.Admit manners → fields.spellings.Nodup →
    fields.Given origin (members.map fun m => (m.1, Source.ofJson m.2)) row
  | _, .nil, .nil, _, _, _, _, _ => trivial
  | _, .cons manner rest, .cons field others, (a, row), _, h, hadmits, hnodup => by
    obtain ⟨-, hothers, hdisjoint⟩ := List.nodup_append.1 hnodup
    -- the other members are none of the field's
    have hnone : ∀ {members : List (String × Json)}, rest.Gives row members →
        (members.map fun m => (m.1, Source.ofJson m.2)).filter (fun m => field.accepts m.1) = [] := by
      intro members h
      rw [List.filter_eq_nil_iff, List.forall_mem_map]
      intro m hm hmine
      have hkey : m.1 ∈ field.spellings := by simpa [Field.accepts] using hmine
      exact hdisjoint _ hkey _ (h.mem_spellings hadmits.2 m hm) rfl
    rcases h with ⟨hfallback, h⟩ | ⟨key, value, members, rfl, hkey, hvalue, h⟩
    · refine ⟨?_, given origin h hadmits.2 hothers⟩
      unfold Field.Given
      rw [hnone h]
      exact hadmits.1.fallback.trans hfallback
    · have hmine : key ∈ field.spellings := hadmits.1.spellings hkey
      refine ⟨?_, (given origin h hadmits.2 hothers).cons fun hmem => hdisjoint _ hmine _ hmem rfl⟩
      unfold Field.Given
      rw [List.map_cons, List.filter_cons_of_pos (by simpa [Field.accepts] using hmine), hnone h]
      exact hadmits.1.codec _ _ hvalue origin

theorem Gives.canonical : {ts : List Type} → {manners : Manners ts} → {fields : Fields ts} →
    {row : Row ts} → {members : List (String × Json)} → manners.Gives row members →
    fields.Follow manners → manners.Gives row (members.map fun m => (m.1, m.2.canonical))
  | _, .nil, .nil, _, _, h, _ => by
    rw [show _ = _ from h]
    rfl
  | _, .cons manner rest, .cons field others, (a, row), _, h, hfollow => by
    rcases h with ⟨hfallback, h⟩ | ⟨key, value, members, rfl, hkey, hvalue, h⟩
    · exact .inl ⟨hfallback, canonical h hfollow.2⟩
    · exact .inr ⟨key, _, _, rfl, hkey, hfollow.1.codec.words_canonical hvalue,
        canonical h hfollow.2⟩

/-- What is written for one row gives the values of another one. -/
theorem gives_of_render : {ts : List Type} → {manners : Manners ts} → {fields : Fields ts} →
    {row row' : Row ts} → fields.Render manners row row' → manners.Gives row' (fields.write row)
  | _, .nil, .nil, _, _, _ => rfl
  | _, .cons manner rest, .cons field others, (a, row), (b, row'), h => by
    obtain ⟨hfield, hrest⟩ := h
    unfold Field.Renders at hfield
    rw [Fields.write]
    -- a field that is left out gives its fallback, and one that is written gives its member
    split at hfield
    · next homitted =>
      rw [if_pos homitted]
      exact .inl ⟨hfield, gives_of_render hrest⟩
    · next hwritten =>
      rw [if_neg hwritten]
      exact .inr ⟨_, _, _, rfl, hfield.1, hfield.2, gives_of_render hrest⟩

/-- What is written for a row gives its values. -/
theorem gives_write {ts : List Type} {manners : Manners ts} {fields : Fields ts}
    (h : fields.Follow manners) (row : Row ts) : manners.Gives row (fields.write row) :=
  gives_of_render (h.render row)

/-- Members that clash cannot all have been read by their fields, each field by one member. -/
theorem Clash.refuse (origin : Origin) {members : List (String × Json)} : {ts : List Type} →
    {manners : Manners ts} → {fields : Fields ts} → manners.Clash members →
    fields.Follow manners → fields.spellings.Nodup →
    (∀ m ∈ members, m.1 ∈ fields.spellings → fields.Reads origin m.1 (.ofJson m.2)) →
    (∀ m ∈ members, ∀ n ∈ members, fields.Alike m.1 n.1 → m.1 = n.1) → False
  | _, .nil, .nil, h, _, _, _, _ => h
  | _, .cons manner rest, .cons field others, h, hfollow, hnodup, hreads, halike => by
    obtain ⟨-, hothers, hdisjoint⟩ := List.nodup_append.1 hnodup
    rcases h with ⟨m, hm, n, hn, hne, hkey, hother⟩ | ⟨m, hm, hkey, hclash⟩ | h
    · exact hne (halike m hm n hn (.inl ⟨hfollow.1.spellings hkey, hfollow.1.spellings hother⟩))
    · have hmine : m.1 ∈ field.spellings := hfollow.1.spellings hkey
      have hread := hreads m hm (List.mem_append_left _ hmine)
      rw [Fields.Reads, if_pos (by simpa [Field.accepts] using hmine)] at hread
      obtain ⟨a, hread⟩ := hread
      obtain ⟨problem, hproblem⟩ := hfollow.1.codec.refuse hclash origin
      rw [hread] at hproblem
      cases hproblem
    · refine refuse origin h hfollow.2 hothers (fun m hm hkey => ?_)
        fun m hm n hn hboth => halike m hm n hn (.inr hboth)
      -- a member of another field has been read by that field
      have hread := hreads m hm (List.mem_append_right _ hkey)
      rwa [Fields.Reads, if_neg fun hmine =>
        hdisjoint _ (by simpa [Field.accepts] using hmine) _ hkey rfl] at hread

theorem Clash.canonical {members sorted : List (String × Json)} (htidy : ∀ m ∈ members, m.2.Tidy)
    (hsorted : ∀ m ∈ members, (m.1, m.2.canonical) ∈ sorted) : {ts : List Type} →
    {manners : Manners ts} → {fields : Fields ts} → manners.Clash members →
    fields.Follow manners → manners.Clash sorted
  | _, .nil, .nil, h, _ => h
  | _, .cons _ _, .cons _ _, h, hfollow => by
    rcases h with ⟨m, hm, n, hn, hclash⟩ | ⟨m, hm, hkey, hclash⟩ | h
    · exact .inl ⟨_, hsorted m hm, _, hsorted n hn, hclash⟩
    · exact .inr (.inl ⟨_, hsorted m hm, hkey,
        hfollow.1.codec.clashes_canonical (htidy m hm) hclash⟩)
    · exact .inr (.inr (canonical htidy hsorted h hfollow.2))

end Manners

namespace Shape

variable {α : Type} {s : Shape α} {manners : Manners s.types}

/-- An object that clashes is not read. -/
theorem refuse_of_clash (hnodup : s.fields.spellings.Nodup) (h : s.fields.Follow manners)
    {members : List (String × Json)} (hclash : manners.Clash members) (origin : Origin) :
    ∃ problem, s.read origin (.ofJson (.obj members)) = .error problem := by
  cases hread : s.read origin (.ofJson (.obj members)) with
  | error problem => exact ⟨problem, rfl⟩
  | ok a =>
    rw [Source.ofJson_obj] at hread
    have hmem : ∀ {m}, m ∈ members → (Key.text m.1, Source.ofJson m.2)
        ∈ members.map fun m => (Key.text m.1, Source.ofJson m.2) := fun hm => List.mem_map_of_mem hm
    have hpairs := pairwise_of_read hnodup hread
    refine (hclash.refuse origin h hnodup (fun m hm _ => reads_of_read hread (hmem hm))
      fun m hm n hn halike => ?_).elim
    -- two members under different keys would be two members of one field
    by_contra hne
    have hsymm : Std.Symm fun m n : Key × Source =>
        ∀ k l, m.1 = .text k → n.1 = .text l → ¬s.fields.Alike k l :=
      ⟨fun _ _ hpair k l hk hl hboth => hpair l k hl hk hboth.symm⟩
    have hdistinct : (Key.text m.1, Source.ofJson m.2) ≠ (Key.text n.1, Source.ofJson n.2) :=
      fun heq => hne (Key.text.inj (Prod.ext_iff.1 heq).1)
    exact hpairs.forall (hmem hm) (hmem hn) hdistinct m.1 n.1 rfl rfl halike

/-- **Records follow a style** if their fields do and no two fields share a spelling. -/
theorem follows (hnodup : s.fields.spellings.Nodup) (h : s.fields.Follow manners)
    (hbuild : ∀ a, s.build (s.parts a) = a) : s.codec.Follows (.record manners s.parts) where
  write a := ⟨_, _, rfl, .refl _, Manners.gives_write h _⟩
  read := by
    rintro a _ ⟨members, given, rfl, hperm, hgives⟩ origin
    -- the members give the parts of the record in declared order, and so in any order
    have hgiven := (hgives.given origin h.admits hnodup).of_perm (hperm.map _)
    have hpasses : ∀ m ∈ members.map fun m => (m.1, Source.ofJson m.2), s.Passes m := by
      refine List.forall_mem_map.2 fun m hm => .inl ?_
      exact hgives.mem_spellings h.admits m (hperm.mem_iff.1 hm)
    have hread := read_obj hnodup hpasses hgiven
    rw [Source.ofJson_obj, ← hbuild a, ← hread]
    unfold membersOf
    rw [List.map_map]
    rfl
  refuse := by
    rintro _ ⟨members, rfl, hclash⟩ origin
    exact refuse_of_clash hnodup h hclash origin
  words_canonical := by
    rintro a _ ⟨members, given, rfl, hperm, hgives⟩
    have hkeys : (members.map Prod.fst).Nodup :=
      (hperm.map Prod.fst).nodup_iff.2 (hgives.nodup h.admits hnodup)
    -- sorting is one more order of the same members
    obtain ⟨sorted, hsorted, hcanonical⟩ := Json.canonical_obj_perm hkeys
    exact ⟨sorted, _, hsorted, hcanonical.trans (hperm.map _), hgives.canonical h⟩
  clashes_canonical := by
    rintro _ htidy ⟨members, rfl, hclash⟩
    cases htidy with
    | obj hkeys hitems =>
      obtain ⟨sorted, hsorted, hcanonical⟩ := Json.canonical_obj_perm hkeys
      exact ⟨sorted, hsorted, hclash.canonical hitems
        (fun m hm => hcanonical.mem_iff.2 (List.mem_map_of_mem hm)) h⟩

end Shape

end VolumeBroker
