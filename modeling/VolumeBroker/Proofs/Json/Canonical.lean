import VolumeBroker.Json.Source
import VolumeBroker.Proofs.Dict
import VolumeBroker.Proofs.Outcomes
/-!
# Values, documents and canonical form

Facts about `Json` and `Source` that do not depend on text. Reading a document back into a value gives
canonical values only (`Source.toJson_canonical`), and gives the canonical form of a value that was
made into a document (`Source.toJson_ofJson`). A value is *tidy* if no object in it repeats a key
(`Json.Tidy`); canonical values are. `Json.same`, the equality that records are compared by, is
reflexive and transitive. `Json.depth` counts nested containers, and a nesting limit does to a
document exactly what the depths in it say (`Source.limitNesting_ofJson`,
`Source.toJson_limitNesting`).

Both types nest through lists; `Json.induction` and `Source.induction` are the induction principles
with one hypothesis for all items and all members.
-/

namespace VolumeBroker

/-! ### Induction -/

/-- Induction over values, with a hypothesis for every item and for the value of every member. -/
@[elab_as_elim, induction_eliminator]
theorem Json.induction {P : Json → Prop} (null : P .null) (bool : ∀ b, P (.bool b))
    (number : ∀ n, P (.number n)) (str : ∀ s, P (.str s))
    (arr : ∀ items, (∀ item ∈ items, P item) → P (.arr items))
    (obj : ∀ members, (∀ m ∈ members, P m.2) → P (.obj members)) : ∀ value, P value
  | .null => null
  | .bool b => bool b
  | .number n => number n
  | .str s => str s
  | .arr items => arr items fun item _ => Json.induction null bool number str arr obj item
  | .obj members => obj members fun m _ => Json.induction null bool number str arr obj m.2
termination_by value => sizeOf value
decreasing_by
  · -- every part of a value is smaller than the value
    have := List.sizeOf_lt_of_mem ‹item ∈ items›
    simp only [Json.arr.sizeOf_spec]
    omega
  · have := List.sizeOf_lt_of_mem ‹m ∈ members›
    have : sizeOf m = 1 + sizeOf m.1 + sizeOf m.2 := by cases m; rfl
    simp only [Json.obj.sizeOf_spec]
    omega

/-- Induction over documents, with a hypothesis for every item and for the value of every member. -/
@[elab_as_elim, induction_eliminator]
theorem Source.induction {P : Source → Prop} (null : P .null) (bool : ∀ b, P (.bool b))
    (number : ∀ n, P (.number n)) (str : ∀ s, P (.str s))
    (arr : ∀ items failure, (∀ item ∈ items, P item) → P (.arr items failure))
    (obj : ∀ members failure, (∀ m ∈ members, P m.2) → P (.obj members failure))
    (keyless : ∀ found, P found → P (.keyless found))
    (broken : ∀ onRead onSkip, P (.broken onRead onSkip)) : ∀ source, P source
  | .null => null
  | .bool b => bool b
  | .number n => number n
  | .str s => str s
  | .arr items failure => arr items failure fun item _ =>
    Source.induction null bool number str arr obj keyless broken item
  | .obj members failure => obj members failure fun m _ =>
    Source.induction null bool number str arr obj keyless broken m.2
  | .keyless found => keyless found
    (Source.induction null bool number str arr obj keyless broken found)
  | .broken onRead onSkip => broken onRead onSkip
termination_by source => sizeOf source
decreasing_by
  · have := List.sizeOf_lt_of_mem ‹item ∈ items›
    simp only [Source.arr.sizeOf_spec]
    omega
  · have := List.sizeOf_lt_of_mem ‹m ∈ members›
    have : sizeOf m = 1 + sizeOf m.1 + sizeOf m.2 := by cases m; rfl
    simp only [Source.obj.sizeOf_spec]
    omega
  · simp only [Source.keyless.sizeOf_spec]
    omega

namespace Json

/-! ### Canonical form -/

theorem canonicalItems_eq (items : List Json) : canonicalItems items = items.map canonical := by
  induction items with
  | nil => rfl
  | cons item rest ih => rw [canonicalItems, ih, List.map_cons]

theorem canonicalMembers_eq (members : List (String × Json)) :
    canonicalMembers members = members.map fun m => (m.1, m.2.canonical) := by
  induction members with
  | nil => rfl
  | cons m rest ih => rw [canonicalMembers, ih, List.map_cons]

theorem canonical_arr (items : List Json) :
    canonical (.arr items) = .arr (items.map canonical) := by
  rw [canonical, canonicalItems_eq]

theorem canonical_obj (members : List (String × Json)) :
    canonical (.obj members) = .obj ((Dict.ofList members).map canonical).entries := by
  rw [canonical, canonicalMembers_eq, Dict.ofList_map]

/-- The canonical form of an object has the members of its dictionary. -/
theorem canonical_obj_of_entries {members ordered : List (String × Json)}
    (h : (Dict.ofList members).entries = ordered) :
    (obj members).canonical = .obj (ordered.map fun m => (m.1, m.2.canonical)) := by
  rw [canonical_obj, ← h]
  rfl

/-- Every member of the canonical form of an object comes from a member of the object. -/
theorem exists_of_mem_canonical {members : List (String × Json)} {m : String × Json}
    (hm : m ∈ ((Dict.ofList members).map canonical).entries) :
    ∃ raw ∈ members, raw.2.canonical = m.2 := by
  have hget := Dict.get?_eq_some_iff.2 hm
  rw [Dict.get?_map] at hget
  obtain ⟨value, hvalue, hcanonical⟩ := Option.map_eq_some_iff.1 hget
  exact ⟨(m.1, value), Dict.mem_of_mem_ofList (Dict.get?_eq_some_iff.1 hvalue), hcanonical⟩

/-- Every key of an object is a key of its canonical form. -/
theorem exists_mem_canonical {members : List (String × Json)} {m : String × Json} (hm : m ∈ members) :
    ∃ value, (m.1, value) ∈ ((Dict.ofList members).map canonical).entries := by
  have hget : (Dict.ofList members).get? m.1 ≠ none := by
    rw [Dict.get?_ofList, ne_eq, Dict.lookup_eq_none_iff, not_not, List.map_reverse, List.mem_reverse]
    exact List.mem_map_of_mem hm
  obtain ⟨value, hvalue⟩ := Option.ne_none_iff_exists'.1 hget
  refine ⟨value.canonical, Dict.get?_eq_some_iff.1 ?_⟩
  rw [Dict.get?_map, hvalue]
  rfl

/-- The canonical form of a canonical value is the value itself. -/
@[simp] theorem canonical_canonical (value : Json) : value.canonical.canonical = value.canonical := by
  induction value with
  | null => rfl
  | bool b => rfl
  | number n => rfl
  | str s => rfl
  | arr items ih =>
    rw [canonical_arr, canonical_arr, List.map_map]
    exact congrArg Json.arr (List.map_congr_left ih)
  | obj members ih =>
    rw [canonical_obj, canonical_obj, Dict.ofList_entries]
    -- the members are in order already, so only their values are at stake
    refine congrArg (fun d : Dict Json => Json.obj d.entries) (Dict.map_eq_self fun m hm => ?_)
    obtain ⟨raw, hraw, hcanonical⟩ := exists_of_mem_canonical hm
    rw [← hcanonical]
    exact ih raw hraw

/-- No object in the value repeats a key. -/
inductive Tidy : Json → Prop where
  | null : Tidy .null
  | bool (b : Bool) : Tidy (.bool b)
  | number (n : Number) : Tidy (.number n)
  | str (s : String) : Tidy (.str s)
  | arr {items : List Json} (h : ∀ item ∈ items, Tidy item) : Tidy (.arr items)
  | obj {members : List (String × Json)} (nodup : (members.map Prod.fst).Nodup)
      (h : ∀ m ∈ members, Tidy m.2) : Tidy (.obj members)

theorem tidy_canonical (value : Json) : value.canonical.Tidy := by
  induction value with
  | null => exact .null
  | bool b => exact .bool b
  | number n => exact .number n
  | str s => exact .str s
  | arr items ih =>
    rw [canonical_arr]
    refine .arr fun item hitem => ?_
    obtain ⟨raw, hraw, rfl⟩ := List.mem_map.1 hitem
    exact ih raw hraw
  | obj members ih =>
    rw [canonical_obj]
    -- a dictionary has each key once
    refine .obj (Dict.keys_nodup _) fun m hm => ?_
    obtain ⟨raw, hraw, hcanonical⟩ := exists_of_mem_canonical hm
    rw [← hcanonical]
    exact ih raw hraw

/-! ### Depth -/

mutual

/-- How many containers are nested in each other. -/
def depth : Json → Nat
  | .arr items => depthItems items + 1
  | .obj members => depthMembers members + 1
  | _ => 0

/-- The greatest depth of the items of an array. -/
def depthItems : List Json → Nat
  | [] => 0
  | item :: rest => max (depth item) (depthItems rest)

/-- The greatest depth of the members of an object. -/
def depthMembers : List (String × Json) → Nat
  | [] => 0
  | (_, value) :: rest => max (depth value) (depthMembers rest)

end

theorem depthItems_le {items : List Json} {n : Nat} :
    depthItems items ≤ n ↔ ∀ item ∈ items, item.depth ≤ n := by
  induction items with
  | nil => simp [depthItems]
  | cons item rest ih => rw [depthItems, Nat.max_le, ih, List.forall_mem_cons]

theorem depthMembers_le {members : List (String × Json)} {n : Nat} :
    depthMembers members ≤ n ↔ ∀ m ∈ members, m.2.depth ≤ n := by
  induction members with
  | nil => simp [depthMembers]
  | cons m rest ih => rw [depthMembers, Nat.max_le, ih, List.forall_mem_cons]

theorem depth_arr_le {items : List Json} {n : Nat} :
    (Json.arr items).depth ≤ n ↔ 0 < n ∧ ∀ item ∈ items, item.depth ≤ n - 1 := by
  rw [depth, ← depthItems_le]
  omega

theorem depth_obj_le {members : List (String × Json)} {n : Nat} :
    (Json.obj members).depth ≤ n ↔ 0 < n ∧ ∀ m ∈ members, m.2.depth ≤ n - 1 := by
  rw [depth, ← depthMembers_le]
  omega

/-- Canonical form brings nothing to greater depth. -/
theorem depth_canonical_le {value : Json} : ∀ {n : Nat}, value.depth ≤ n → value.canonical.depth ≤ n := by
  induction value with
  | null => exact id
  | bool b => exact id
  | number n => exact id
  | str s => exact id
  | arr items ih =>
    intro n h
    rw [depth_arr_le] at h
    rw [canonical_arr, depth_arr_le]
    refine ⟨h.1, fun item hitem => ?_⟩
    obtain ⟨raw, hraw, rfl⟩ := List.mem_map.1 hitem
    exact ih raw hraw (h.2 raw hraw)
  | obj members ih =>
    intro n h
    -- a member that is overwritten can only have made the object deeper
    rw [depth_obj_le] at h
    rw [canonical_obj, depth_obj_le]
    refine ⟨h.1, fun m hm => ?_⟩
    obtain ⟨raw, hraw, hcanonical⟩ := exists_of_mem_canonical hm
    rw [← hcanonical]
    exact ih raw hraw (h.2 raw hraw)

end Json

/-! ### Equality -/

theorem Binary64.same_trans {x y z : Binary64} (hxy : x.same y = true) (hyz : y.same z = true) :
    x.same z = true := by
  simp only [same, Bool.or_eq_true, Bool.and_eq_true, decide_eq_true_eq] at hxy hyz ⊢
  rcases hxy with rfl | ⟨hx, hy⟩
  · exact hyz
  · -- the values differ in the sign of a zero at most
    rcases hyz with rfl | ⟨-, hz⟩
    · exact .inr ⟨hx, hy⟩
    · exact .inr ⟨hx, hz⟩

theorem Number.same_refl (n : Number) : n.same n = true := by
  cases n with
  | int a => exact beq_self_eq_true a
  | real x => exact x.same_refl

theorem Number.same_trans {l m n : Number} (hlm : l.same m = true) (hmn : m.same n = true) :
    l.same n = true := by
  -- an integer is never the same as a float
  cases l with
  | int a =>
    cases m with
    | int b => rwa [eq_of_beq hlm]
    | real y => cases hlm
  | real x =>
    cases m with
    | int b => cases hlm
    | real y =>
      cases n with
      | int c => cases hmn
      | real z => exact Binary64.same_trans hlm hmn

namespace Json

theorem sameItems_iff {as bs : List Json} :
    sameItems as bs = true ↔ List.Forall₂ (fun a b => a.same b = true) as bs := by
  induction as generalizing bs with
  | nil => cases bs <;> simp [sameItems]
  | cons a as ih => cases bs <;> simp [sameItems, ih]

theorem sameMembers_iff {as bs : List (String × Json)} :
    sameMembers as bs = true ↔
      List.Forall₂ (fun a b => a.1 = b.1 ∧ a.2.same b.2 = true) as bs := by
  induction as generalizing bs with
  | nil => cases bs <;> simp [sameMembers]
  | cons a as ih => cases bs <;> simp [sameMembers, ih]

/-- Every value is the same as itself. -/
theorem same_refl (value : Json) : value.same value = true := by
  induction value with
  | null => rfl
  | bool b => exact beq_self_eq_true b
  | number n => exact n.same_refl
  | str s => exact beq_self_eq_true s
  | arr items ih => exact sameItems_iff.2 (List.forall₂_same.2 ih)
  | obj members ih =>
    exact sameMembers_iff.2 (List.forall₂_same.2 fun m hm => ⟨rfl, ih m hm⟩)

/-- Values that are the same as one and the same value are the same as each other. -/
theorem same_trans {a : Json} : ∀ {b c : Json}, a.same b = true → b.same c = true →
    a.same c = true := by
  induction a with
  | null =>
    intro b c hab hbc
    cases b <;> first | exact hbc | cases hab
  | bool x =>
    intro b c hab hbc
    cases b with
    | bool y => rwa [eq_of_beq hab]
    | _ => cases hab
  | number n =>
    intro b c hab hbc
    cases b with
    | number m =>
      cases c with
      | number l => exact Number.same_trans hab hbc
      | _ => cases hbc
    | _ => cases hab
  | str x =>
    intro b c hab hbc
    cases b with
    | str y => rwa [eq_of_beq hab]
    | _ => cases hab
  | arr items ih =>
    intro b c hab hbc
    cases b with
    | arr items' =>
      cases c with
      | arr items'' =>
        refine sameItems_iff.2 (forall₂_comp (sameItems_iff.1 hab) (sameItems_iff.1 hbc) ?_)
        exact fun item hitem _ _ h h' => ih item hitem h h'
      | _ => cases hbc
    | _ => cases hab
  | obj members ih =>
    intro b c hab hbc
    cases b with
    | obj members' =>
      cases c with
      | obj members'' =>
        refine sameMembers_iff.2 (forall₂_comp (sameMembers_iff.1 hab) (sameMembers_iff.1 hbc) ?_)
        exact fun m hm _ _ h h' => ⟨h.1.trans h'.1, ih m hm h.2 h'.2⟩
      | _ => cases hbc
    | _ => cases hab

theorem eq_of_same_bool {flag : Bool} {value : Json} (h : (bool flag).same value = true) :
    value = .bool flag := by
  cases value with
  | bool other => rw [eq_of_beq h]
  | _ => cases h

theorem eq_of_same_str {text : String} {value : Json} (h : (str text).same value = true) :
    value = .str text := by
  cases value with
  | str other => rw [eq_of_beq h]
  | _ => cases h

theorem lookup_same {as bs : List (String × Json)}
    (h : List.Forall₂ (fun a b => a.1 = b.1 ∧ a.2.same b.2 = true) as bs) (key : String) :
    Option.Rel (fun v w => v.same w = true) (as.lookup key) (bs.lookup key) := by
  induction h with
  | nil => exact .none
  | @cons a b as bs hab _ ih =>
    rw [Dict.lookup_cons_if, Dict.lookup_cons_if, hab.1]
    split
    · exact .some hab.2
    · exact ih

/-- Objects that are the same have the same members. -/
theorem get?_same {v w : Json} (h : v.same w = true) (key : String) :
    Option.Rel (fun v w => v.same w = true) (v.get? key) (w.get? key) := by
  cases v with
  | obj members =>
    cases w with
    | obj others => exact lookup_same (List.rel_reverse (sameMembers_iff.1 h)) key
    | _ => cases h
  | _ => cases w <;> first | exact .none | cases h

end Json

namespace Source

/-- The parts of a document: the items of an array, the values of the members of an object. -/
def parts : Source → List Source
  | .arr items _ => items
  | .obj members _ => members.map Prod.snd
  | _ => []

/-! ### Values as documents -/

theorem ofItems_eq (items : List Json) : ofItems items = items.map ofJson := by
  induction items with
  | nil => rfl
  | cons item rest ih => rw [ofItems, ih, List.map_cons]

theorem ofMembers_eq (members : List (String × Json)) :
    ofMembers members = members.map fun m => (Key.text m.1, ofJson m.2) := by
  induction members with
  | nil => rfl
  | cons m rest ih => rw [ofMembers, ih, List.map_cons]

theorem ofJson_arr (items : List Json) : ofJson (.arr items) = .arr (items.map ofJson) none := by
  rw [ofJson, ofItems_eq]

theorem ofJson_obj (members : List (String × Json)) :
    ofJson (.obj members) = .obj (members.map fun m => (Key.text m.1, ofJson m.2)) none := by
  rw [ofJson, ofMembers_eq]

/-! ### Reading a value -/

theorem itemsToJson_ok {items : List Source} {values : List Json}
    (h : itemsToJson items = .ok values) :
    List.Forall₂ (fun item value => item.toJson = .ok value) items values := by
  -- item by item, since the first that fails ends the conversion
  induction items generalizing values with
  | nil =>
    cases h
    exact .nil
  | cons item rest ih =>
    rw [itemsToJson] at h
    obtain ⟨value, hitem, h⟩ := exists_of_bind_ok h
    obtain ⟨others, hrest, h⟩ := exists_of_bind_ok h
    cases h
    exact .cons hitem (ih hrest)

theorem membersToJson_ok {members : List (Key × Source)} {entries : List (String × Json)}
    (h : membersToJson members = .ok entries) :
    List.Forall₂ (fun m e => m.1 = .text e.1 ∧ m.2.toJson = .ok e.2) members entries := by
  induction members generalizing entries with
  | nil =>
    cases h
    exact .nil
  | cons m rest ih =>
    obtain ⟨key | fault, value⟩ := m
    · rw [membersToJson] at h
      obtain ⟨a, hvalue, h⟩ := exists_of_bind_ok h
      obtain ⟨others, hrest, h⟩ := exists_of_bind_ok h
      cases h
      exact .cons ⟨rfl, hvalue⟩ (ih hrest)
    · -- a key that is no text fails
      cases h

theorem itemsToJson_of_forall₂ {items : List Source} {values : List Json}
    (h : List.Forall₂ (fun item value => item.toJson = .ok value) items values) :
    itemsToJson items = .ok values := by
  induction h with
  | nil => rfl
  | cons hitem _ ih =>
    rw [itemsToJson, hitem, ih]
    rfl

theorem membersToJson_of_forall₂ {members : List (Key × Source)} {entries : List (String × Json)}
    (h : List.Forall₂ (fun m e => m.1 = .text e.1 ∧ m.2.toJson = .ok e.2) members entries) :
    membersToJson members = .ok entries := by
  induction h with
  | nil => rfl
  | @cons m e _ _ hm _ ih =>
    obtain ⟨key, value⟩ := m
    obtain ⟨rfl, hvalue⟩ := hm
    rw [membersToJson, hvalue, ih]
    rfl

/-- What a readable array holds: a value for each item. -/
theorem toJson_arr {items : List Source} {failure : Option Fault} {value : Json}
    (h : (Source.arr items failure).toJson = .ok value) :
    failure = none ∧ ∃ values, value = .arr values ∧
      List.Forall₂ (fun item value => item.toJson = .ok value) items values := by
  rw [toJson] at h
  obtain ⟨values, hitems, h⟩ := exists_of_bind_ok h
  cases failure with
  | some fault => cases h
  | none =>
    cases h
    exact ⟨rfl, values, rfl, itemsToJson_ok hitems⟩

/-- What a readable object holds: a value for each member, the last one of each key counting. -/
theorem toJson_obj {members : List (Key × Source)} {failure : Option Fault} {value : Json}
    (h : (Source.obj members failure).toJson = .ok value) :
    failure = none ∧ ∃ entries, value = .obj (Dict.ofList entries).entries ∧
      List.Forall₂ (fun m e => m.1 = .text e.1 ∧ m.2.toJson = .ok e.2) members entries := by
  rw [toJson] at h
  obtain ⟨entries, hmembers, h⟩ := exists_of_bind_ok h
  cases failure with
  | some fault => cases h
  | none =>
    cases h
    exact ⟨rfl, entries, rfl, membersToJson_ok hmembers⟩

/-- A value that is made into a document reads back in canonical form. -/
@[simp] theorem toJson_ofJson (value : Json) : (ofJson value).toJson = .ok value.canonical := by
  induction value with
  | null => rfl
  | bool b => rfl
  | number n => rfl
  | str s => rfl
  | arr items ih =>
    have hitems : itemsToJson (items.map ofJson) = .ok (items.map Json.canonical) := by
      refine itemsToJson_of_forall₂ ?_
      rw [List.forall₂_map_left_iff, List.forall₂_map_right_iff]
      exact List.forall₂_same.2 ih
    rw [ofJson_arr, toJson, hitems, Json.canonical_arr]
    rfl
  | obj members ih =>
    have hmembers : membersToJson (members.map fun m => (Key.text m.1, ofJson m.2))
        = .ok (members.map fun m => (m.1, m.2.canonical)) := by
      refine membersToJson_of_forall₂ ?_
      rw [List.forall₂_map_left_iff, List.forall₂_map_right_iff]
      exact List.forall₂_same.2 fun m hm => ⟨rfl, ih m hm⟩
    rw [ofJson_obj, toJson, hmembers, Json.canonical_obj, ← Dict.ofList_map]
    rfl

/-- Whatever is read is canonical. -/
theorem toJson_canonical {source : Source} {value : Json} (h : source.toJson = .ok value) :
    value.canonical = value := by
  induction source generalizing value with
  | null => cases h; rfl
  | bool b => cases h; rfl
  | number n => cases h; rfl
  | str s => cases h; rfl
  | arr items failure ih =>
    obtain ⟨-, values, rfl, hvalues⟩ := toJson_arr h
    rw [Json.canonical_arr]
    refine congrArg Json.arr ((List.map_congr_left ?_).trans (List.map_id values))
    intro v hv
    -- every value of the array has been read from an item
    obtain ⟨item, hitem, hread⟩ := exists_of_mem_right hvalues hv
    exact ih item hitem hread
  | obj members failure ih =>
    obtain ⟨-, entries, rfl, hentries⟩ := toJson_obj h
    rw [Json.canonical_obj, Dict.ofList_entries]
    -- the entries of the dictionary are some of those that have been read
    refine congrArg (fun d : Dict Json => Json.obj d.entries) (Dict.map_eq_self fun e he => ?_)
    obtain ⟨m, hm, -, hread⟩ := exists_of_mem_right hentries (Dict.mem_of_mem_ofList he)
    exact ih m hm hread
  | keyless found => cases h
  | broken onRead onSkip => cases h

/-! ### Skipping -/

theorem skipItems_eq_none {items : List Source} (h : ∀ item ∈ items, item.skipFault = none) :
    skipItems items = none := by
  induction items with
  | nil => rfl
  | cons item rest ih =>
    rw [skipItems, h item List.mem_cons_self, Option.none_or]
    exact ih fun item hitem => h item (List.mem_cons_of_mem _ hitem)

theorem skipMembers_eq_none {members : List (Key × Source)}
    (h : ∀ m ∈ members, m.2.skipFault = none) : skipMembers members = none := by
  induction members with
  | nil => rfl
  | cons m rest ih =>
    rw [skipMembers, h m List.mem_cons_self, Option.none_or]
    exact ih fun m hm => h m (List.mem_cons_of_mem _ hm)

/-- Nothing is met when a value is skipped. -/
@[simp] theorem skipFault_ofJson (value : Json) : (ofJson value).skipFault = none := by
  induction value with
  | null => rfl
  | bool b => rfl
  | number n => rfl
  | str s => rfl
  | arr items ih =>
    rw [ofJson_arr, skipFault, Option.or_none]
    exact skipItems_eq_none (by simpa using ih)
  | obj members ih =>
    rw [ofJson_obj, skipFault, Option.or_none]
    refine skipMembers_eq_none fun m hm => ?_
    obtain ⟨raw, hraw, rfl⟩ := List.mem_map.1 hm
    exact ih raw hraw

/-! ### Complete documents -/

theorem readFaultItems_ofJson {items : List Json} (h : ∀ item ∈ items, (ofJson item).readFault = none) :
    readFaultItems (items.map ofJson) = none := by
  induction items with
  | nil => rfl
  | cons item rest ih =>
    rw [List.map_cons, readFaultItems, h item List.mem_cons_self, Option.none_or]
    exact ih fun item hitem => h item (List.mem_cons_of_mem _ hitem)

theorem readFaultMembers_ofJson {members : List (String × Json)}
    (h : ∀ m ∈ members, (ofJson m.2).readFault = none) :
    readFaultMembers (members.map fun m => (.text m.1, ofJson m.2)) = none := by
  induction members with
  | nil => rfl
  | cons m rest ih =>
    rw [List.map_cons, readFaultMembers, h m List.mem_cons_self, Option.none_or]
    exact ih fun m hm => h m (List.mem_cons_of_mem _ hm)

/-- Nothing is met when a value is set aside. -/
@[simp] theorem readFault_ofJson (value : Json) : (ofJson value).readFault = none := by
  induction value with
  | null => rfl
  | bool b => rfl
  | number n => rfl
  | str s => rfl
  | arr items ih =>
    rw [ofJson_arr, readFault, Option.or_none]
    exact readFaultItems_ofJson ih
  | obj members ih =>
    rw [ofJson_obj, readFault, Option.or_none]
    exact readFaultMembers_ofJson ih

/-! ### The nesting limit -/

theorem limitItems_eq (room : Nat) (items : List Source) :
    limitItems room items = items.map (limitNesting room) := by
  induction items with
  | nil => rfl
  | cons item rest ih => rw [limitItems, ih, List.map_cons]

theorem limitMembers_eq (room : Nat) (members : List (Key × Source)) :
    limitMembers room members = members.map fun m => (m.1, limitNesting room m.2) := by
  induction members with
  | nil => rfl
  | cons m rest ih => rw [limitMembers, ih, List.map_cons]

/-- A value that is nested no deeper than the limit is left as it is. -/
theorem limitNesting_ofJson {value : Json} :
    ∀ {room : Nat}, value.depth ≤ room → limitNesting room (ofJson value) = ofJson value := by
  induction value with
  | null => exact fun _ => rfl
  | bool b => exact fun _ => rfl
  | number n => exact fun _ => rfl
  | str s => exact fun _ => rfl
  | arr items ih =>
    intro room h
    rw [Json.depth_arr_le] at h
    rw [ofJson_arr, limitNesting, if_neg (by omega), limitItems_eq, List.map_map]
    -- the items have one level less to themselves
    refine congrArg (fun items => Source.arr items none) (List.map_congr_left fun item hitem => ?_)
    exact ih item hitem (h.2 item hitem)
  | obj members ih =>
    intro room h
    rw [Json.depth_obj_le] at h
    rw [ofJson_obj, limitNesting, if_neg (by omega), limitMembers_eq, List.map_map]
    refine congrArg (fun members => Source.obj members none) (List.map_congr_left fun m hm => ?_)
    exact congrArg (Prod.mk (Key.text m.1)) (ih m hm (h.2 m hm))

/-- What is read within a limit is what would be read without it, and nested no deeper. -/
theorem toJson_limitNesting {source : Source} : ∀ {room : Nat} {value : Json},
    (limitNesting room source).toJson = .ok value → source.toJson = .ok value ∧ value.depth ≤ room := by
  induction source with
  | null => rintro room value ⟨⟩; exact ⟨rfl, Nat.zero_le _⟩
  | bool b => rintro room value ⟨⟩; exact ⟨rfl, Nat.zero_le _⟩
  | number n => rintro room value ⟨⟩; exact ⟨rfl, Nat.zero_le _⟩
  | str s => rintro room value ⟨⟩; exact ⟨rfl, Nat.zero_le _⟩
  | arr items failure ih =>
    intro room value h
    rw [limitNesting] at h
    by_cases hroom : room = 0
    · -- with no room left the array is refused
      rw [if_pos hroom] at h
      cases h
    · rw [if_neg hroom, limitItems_eq] at h
      obtain ⟨rfl, values, rfl, hvalues⟩ := toJson_arr h
      rw [List.forall₂_map_left_iff] at hvalues
      -- item by item the limit has made no difference
      have hread : itemsToJson items = .ok values :=
        itemsToJson_of_forall₂ (forall₂_imp_of_mem hvalues fun item hitem v hv => (ih item hitem hv).1)
      refine ⟨by rw [toJson, hread]; rfl, Json.depth_arr_le.2 ⟨by omega, fun v hv => ?_⟩⟩
      obtain ⟨item, hitem, hlimited⟩ := exists_of_mem_right hvalues hv
      exact (ih item hitem hlimited).2
  | obj members failure ih =>
    intro room value h
    rw [limitNesting] at h
    by_cases hroom : room = 0
    · rw [if_pos hroom] at h
      cases h
    · rw [if_neg hroom, limitMembers_eq] at h
      obtain ⟨rfl, entries, rfl, hentries⟩ := toJson_obj h
      rw [List.forall₂_map_left_iff] at hentries
      have hread : membersToJson members = .ok entries :=
        membersToJson_of_forall₂ (forall₂_imp_of_mem hentries
          fun m hm e he => ⟨he.1, (ih m hm he.2).1⟩)
      refine ⟨by rw [toJson, hread]; rfl, Json.depth_obj_le.2 ⟨by omega, fun e he => ?_⟩⟩
      obtain ⟨m, hm, -, hlimited⟩ := exists_of_mem_right hentries (Dict.mem_of_mem_ofList he)
      exact (ih m hm hlimited).2
  | keyless found ih =>
    intro room value h
    rw [limitNesting] at h
    split at h <;> cases h
  | broken onRead onSkip => rintro room value ⟨⟩

/-- A value that can be read within a limit is nested no deeper. -/
theorem depth_le_of_toJson {value : Json} : ∀ {room : Nat} {read : Json},
    (limitNesting room (ofJson value)).toJson = .ok read → value.depth ≤ room := by
  induction value with
  | null => exact fun _ => Nat.zero_le _
  | bool b => exact fun _ => Nat.zero_le _
  | number n => exact fun _ => Nat.zero_le _
  | str s => exact fun _ => Nat.zero_le _
  | arr items ih =>
    intro room read h
    rw [ofJson_arr, limitNesting] at h
    by_cases hroom : room = 0
    · rw [if_pos hroom] at h
      cases h
    · rw [if_neg hroom, limitItems_eq, List.map_map] at h
      obtain ⟨-, values, -, hvalues⟩ := toJson_arr h
      refine Json.depth_arr_le.2 ⟨by omega, fun item hitem => ?_⟩
      -- every item has been read, within one level less
      obtain ⟨v, -, hv⟩ := exists_of_mem_left hvalues (List.mem_map_of_mem hitem)
      exact ih item hitem hv
  | obj members ih =>
    intro room read h
    rw [ofJson_obj, limitNesting] at h
    by_cases hroom : room = 0
    · rw [if_pos hroom] at h
      cases h
    · rw [if_neg hroom, limitMembers_eq, List.map_map] at h
      obtain ⟨-, entries, -, hentries⟩ := toJson_obj h
      refine Json.depth_obj_le.2 ⟨by omega, fun m hm => ?_⟩
      obtain ⟨e, -, -, hv⟩ := exists_of_mem_left hentries (List.mem_map_of_mem hm)
      exact ih m hm hv

end Source

end VolumeBroker
