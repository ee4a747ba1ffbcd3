import VolumeBroker.Dict
import Mathlib.Data.List.Induction
import Mathlib.Data.List.Nodup
/-!
# Lists of entries and dictionaries

A list of entries may repeat keys; `Dict.ofList` lets the last entry of each key count. Where no key
is repeated the order of the entries does not matter either, and look-ups in the list and in the
dictionary are the same (`get?_ofList_of_nodup`). The entries of a dictionary never repeat a key, so
listing them and reading the list back is the identity (`ofList_entries`).
-/

namespace VolumeBroker

namespace Dict

universe u v

variable {α : Type u} {β : Type v}

/-! ### Lists without repeated keys -/

theorem lookup_map (f : α → β) (entries : List (String × α)) (k : String) :
    (entries.map fun e => (e.1, f e.2)).lookup k = (entries.lookup k).map f := by
  induction entries with
  | nil => rfl
  | cons e rest ih =>
    rw [List.map_cons, lookup_cons_if, lookup_cons_if, ih]
    split <;> rfl

theorem mem_of_lookup {entries : List (String × α)} {k : String} {a : α}
    (h : entries.lookup k = some a) : (k, a) ∈ entries := by
  induction entries with
  | nil => cases h
  | cons e rest ih =>
    rw [lookup_cons_if] at h
    split at h
    · next hk =>
      rw [hk, ← Option.some.inj h]
      exact List.mem_cons_self
    · -- another key stands in front, so the entry is further behind
      exact List.mem_cons_of_mem _ (ih h)

theorem lookup_of_mem {entries : List (String × α)} (hnodup : (entries.map Prod.fst).Nodup)
    {k : String} {a : α} (h : (k, a) ∈ entries) : entries.lookup k = some a := by
  induction entries with
  | nil => cases h
  | cons e rest ih =>
    rw [List.map_cons, List.nodup_cons] at hnodup
    rw [lookup_cons_if]
    rcases List.mem_cons.1 h with rfl | h
    · rw [if_pos rfl]
    · -- the key occurs further behind, so it is not the first one
      have hne : k ≠ e.1 := fun hk => hnodup.1 (hk ▸ List.mem_map_of_mem h)
      rw [if_neg hne]
      exact ih hnodup.2 h

theorem lookup_eq_none_iff {entries : List (String × α)} {k : String} :
    entries.lookup k = none ↔ k ∉ entries.map Prod.fst := by
  induction entries with
  | nil => simp
  | cons e rest ih =>
    rw [lookup_cons_if, List.map_cons, List.mem_cons, not_or, ← ih]
    split
    · next hk => simp [hk]
    · next hk => simp [hk]

theorem lookup_reverse {entries : List (String × α)} (hnodup : (entries.map Prod.fst).Nodup)
    (k : String) : entries.reverse.lookup k = entries.lookup k := by
  have hreverse : (entries.reverse.map Prod.fst).Nodup := by
    rw [List.map_reverse, List.nodup_reverse]
    exact hnodup
  cases h : entries.lookup k with
  | none =>
    rw [lookup_eq_none_iff] at h ⊢
    rwa [List.map_reverse, List.mem_reverse]
  | some a => exact lookup_of_mem hreverse (List.mem_reverse.2 (mem_of_lookup h))

/-- Where no key is repeated, a condition that holds of one key only picks out its entry. -/
theorem filter_of_mem {entries : List (String × α)} (hnodup : (entries.map Prod.fst).Nodup)
    {k : String} {a : α} (h : (k, a) ∈ entries) {p : String → Bool}
    (hp : ∀ e ∈ entries, p e.1 = true ↔ e.1 = k) : entries.filter (fun e => p e.1) = [(k, a)] := by
  induction entries with
  | nil => cases h
  | cons e rest ih =>
    rw [List.map_cons, List.nodup_cons] at hnodup
    have hrest : ∀ e ∈ rest, p e.1 = true ↔ e.1 = k := fun e he => hp e (List.mem_cons_of_mem _ he)
    rcases List.mem_cons.1 h with rfl | h
    · -- the keys behind are all other ones
      have hnone : rest.filter (fun e => p e.1) = [] := by
        rw [List.filter_eq_nil_iff]
        intro e he hpe
        have hkey : e.1 = k := (hrest e he).1 hpe
        have hmem : e.1 ∈ rest.map Prod.fst := List.mem_map_of_mem he
        rw [hkey] at hmem
        exact hnodup.1 hmem
      rw [List.filter_cons, if_pos ((hp _ List.mem_cons_self).2 rfl), hnone]
    · have hne : e.1 ≠ k := fun hk => hnodup.1 (hk ▸ List.mem_map_of_mem h)
      rw [List.filter_cons, if_neg fun hpe => hne ((hp e List.mem_cons_self).1 hpe)]
      exact ih hnodup.2 h hrest

/-! ### Dictionaries of lists -/

theorem get?_ofList (entries : List (String × α)) (k : String) :
    (ofList entries).get? k = entries.reverse.lookup k := by
  unfold ofList
  -- from the back: the entry that is inserted last is the first one of the reversed list
  induction entries using List.reverseRecOn with
  | nil => rfl
  | append_singleton entries e ih =>
    rw [List.foldl_append, List.foldl_cons, List.foldl_nil, get?_insert, ih, List.reverse_append,
      List.reverse_singleton, List.singleton_append, lookup_cons_if]

theorem get?_ofList_of_nodup {entries : List (String × α)}
    (hnodup : (entries.map Prod.fst).Nodup) (k : String) :
    (ofList entries).get? k = entries.lookup k := by
  rw [get?_ofList, lookup_reverse hnodup]

theorem keys_nodup (d : Dict α) : (d.entries.map Prod.fst).Nodup := by
  rw [List.Nodup, List.pairwise_map]
  refine d.sorted.imp ?_
  intro a b hlt heq
  rw [heq] at hlt
  exact String.lt_irrefl _ hlt

theorem get?_eq_some_iff {d : Dict α} {k : String} {a : α} :
    d.get? k = some a ↔ (k, a) ∈ d.entries :=
  ⟨mem_of_lookup, lookup_of_mem d.keys_nodup⟩

@[simp] theorem ofList_entries (d : Dict α) : ofList d.entries = d :=
  ext_get? fun k => get?_ofList_of_nodup d.keys_nodup k

/-- Two entries in the order of their keys stay where they are. -/
theorem entries_ofList_pair {k l : String} {a b : α} (h : k < l) :
    (ofList [(k, a), (l, b)]).entries = [(k, a), (l, b)] :=
  congrArg entries (ofList_entries ⟨[(k, a), (l, b)], List.pairwise_pair.2 h⟩)

/-- Two entries in the wrong order change places. -/
theorem entries_ofList_swap {k l : String} {a b : α} (h : k < l) :
    (ofList [(l, b), (k, a)]).entries = [(k, a), (l, b)] := by
  simp only [ofList, List.foldl_cons, List.foldl_nil, insert, empty, insertEntry, if_pos h]

theorem ofList_map (f : α → β) (entries : List (String × α)) :
    ofList (entries.map fun e => (e.1, f e.2)) = (ofList entries).map f := by
  refine ext_get? fun k => ?_
  rw [get?_ofList, get?_map, get?_ofList, ← List.map_reverse, lookup_map]

theorem map_insert (f : α → β) (d : Dict α) (key : String) (value : α) :
    (d.insert key value).map f = (d.map f).insert key (f value) := by
  refine ext_get? fun k => ?_
  rw [get?_map, get?_insert, get?_insert, get?_map]
  split <;> rfl

theorem map_erase (f : α → β) (d : Dict α) (key : String) :
    (d.erase key).map f = (d.map f).erase key := by
  refine ext_get? fun k => ?_
  rw [get?_map, get?_erase, get?_erase, get?_map]
  split <;> rfl

/-- What holds of all values holds of them and one more. -/
theorem forall_mem_insert {p : α → Prop} {d : Dict α} (h : ∀ e ∈ d.entries, p e.2) (key : String)
    {value : α} (hvalue : p value) : ∀ e ∈ (d.insert key value).entries, p e.2 := by
  intro e he
  have hget := get?_eq_some_iff.2 he
  rw [get?_insert] at hget
  split at hget
  · rw [← Option.some.inj hget]
    exact hvalue
  · exact h e (get?_eq_some_iff.1 hget)

theorem forall_mem_erase {p : α → Prop} {d : Dict α} (h : ∀ e ∈ d.entries, p e.2) (key : String) :
    ∀ e ∈ (d.erase key).entries, p e.2 := by
  intro e he
  have hget := get?_eq_some_iff.2 he
  rw [get?_erase] at hget
  split at hget
  · cases hget
  · exact h e (get?_eq_some_iff.1 hget)

theorem map_congr {f g : α → β} {d : Dict α} (h : ∀ e ∈ d.entries, f e.2 = g e.2) :
    d.map f = d.map g := by
  refine ext_get? fun k => ?_
  rw [get?_map, get?_map]
  cases hget : d.get? k with
  | none => rfl
  | some a => exact congrArg some (h (k, a) (get?_eq_some_iff.1 hget))

theorem mem_keys_iff {d : Dict α} {k : String} : k ∈ d.keys ↔ d.get? k ≠ none :=
  not_iff_not.1 (lookup_eq_none_iff.symm.trans not_not.symm)

theorem sorted_keys (d : Dict α) : d.keys.Pairwise (· < ·) := List.pairwise_map.2 d.sorted

theorem isEmpty_iff {d : Dict α} : d.isEmpty = true ↔ d = empty := by
  obtain ⟨entries, sorted⟩ := d
  rw [isEmpty, List.isEmpty_iff, empty, Dict.mk.injEq]

/-- A function that keeps every value keeps the dictionary. -/
theorem map_eq_self {f : α → α} {d : Dict α} (h : ∀ e ∈ d.entries, f e.2 = e.2) : d.map f = d := by
  refine ext_get? fun k => ?_
  rw [get?_map]
  cases hget : d.get? k with
  | none => rfl
  | some a => exact congrArg some (h (k, a) (get?_eq_some_iff.1 hget))

theorem map_id (d : Dict α) : d.map id = d := map_eq_self fun _ _ => rfl

theorem mem_of_mem_ofList {entries : List (String × α)} {e : String × α}
    (h : e ∈ (ofList entries).entries) : e ∈ entries := by
  have hget : (ofList entries).get? e.1 = some e.2 := get?_eq_some_iff.2 h
  rw [get?_ofList] at hget
  exact List.mem_reverse.1 (mem_of_lookup hget)

end Dict

end VolumeBroker
