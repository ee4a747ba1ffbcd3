/-!
# Dictionaries in key order

A `Dict α` maps strings to values and keeps its entries in strictly increasing key order, so two
dictionaries with the same look-ups are equal (`Dict.ext_get?`) and a listing of the keys is sorted
without further work. `get?_insert` and `get?_erase` say what each change does to the look-ups.
-/

namespace VolumeBroker

universe u v

/-- A finite map from strings, listed in strictly increasing key order. -/
structure Dict (α : Type u) where
  /-- The keys with their values. -/
  entries : List (String × α)
  /-- Each key stands before all greater keys, and no key occurs twice. -/
  sorted : entries.Pairwise fun a b => a.1 < b.1

namespace Dict

variable {α : Type u} {β : Type v}

/-- Puts a key in its place, replacing the value it had. -/
def insertEntry (key : String) (value : α) : List (String × α) → List (String × α)
  | [] => [(key, value)]
  | entry :: rest =>
    if key < entry.1 then (key, value) :: entry :: rest
    else if entry.1 < key then entry :: insertEntry key value rest
    else (key, value) :: rest

theorem lookup_cons_if (k : String) (e : String × α) (rest : List (String × α)) :
    (e :: rest).lookup k = if k = e.1 then some e.2 else rest.lookup k := by
  obtain ⟨key, value⟩ := e
  show (match k == key with | true => some value | false => rest.lookup k) = _
  by_cases h : k = key
  · simp [h]
  · have : (k == key) = false := by simpa using h
    simp [this, h]

theorem lt_of_mem_insertEntry {low key : String} {value : α} (hlow : low < key) :
    ∀ {entries : List (String × α)}, (∀ e ∈ entries, low < e.1) →
      ∀ e ∈ insertEntry key value entries, low < e.1
  | [], _, e, he => by
    simp only [insertEntry, List.mem_singleton] at he
    subst he; exact hlow
  | entry :: rest, h, e, he => by
    have hrest : ∀ e ∈ rest, low < e.1 := fun e he => h e (List.mem_cons_of_mem _ he)
    simp only [insertEntry] at he
    split at he
    · rcases List.mem_cons.1 he with rfl | he
      · exact hlow
      · exact h e he
    · split at he
      · rcases List.mem_cons.1 he with rfl | he
        · exact h _ List.mem_cons_self
        · exact lt_of_mem_insertEntry hlow hrest e he
      · rcases List.mem_cons.1 he with rfl | he
        · exact hlow
        · exact hrest e he

theorem sorted_insertEntry {key : String} {value : α} :
    ∀ {entries : List (String × α)}, (entries.Pairwise fun a b => a.1 < b.1) →
      (insertEntry key value entries).Pairwise fun a b => a.1 < b.1
  | [], _ => List.pairwise_singleton _ _
  | entry :: rest, h => by
    have ⟨hhead, hrest⟩ := List.pairwise_cons.1 h
    simp only [insertEntry]
    split
    · next hlt =>
      refine List.pairwise_cons.2 ⟨fun e he => ?_, h⟩
      rcases List.mem_cons.1 he with rfl | he
      · exact hlt
      · exact String.lt_trans hlt (hhead e he)
    · split
      · next hgt =>
        exact List.pairwise_cons.2
          ⟨lt_of_mem_insertEntry hgt hhead, sorted_insertEntry hrest⟩
      · next hge hle =>
        have heq : key = entry.1 :=
          String.le_antisymm (String.not_lt.1 hle) (String.not_lt.1 hge)
        exact List.pairwise_cons.2 ⟨fun e he => heq ▸ hhead e he, hrest⟩

/-! ### Operations -/

/-- The dictionary without entries. -/
def empty : Dict α := ⟨[], List.Pairwise.nil⟩

instance : Inhabited (Dict α) := ⟨empty⟩

/-- The value of a key. -/
def get? (d : Dict α) (key : String) : Option α := d.entries.lookup key

/-- Whether a key has a value. -/
def contains (d : Dict α) (key : String) : Bool := (d.get? key).isSome

/-- Gives a key a value, in place of the one it had. -/
def insert (d : Dict α) (key : String) (value : α) : Dict α :=
  ⟨insertEntry key value d.entries, sorted_insertEntry d.sorted⟩

/-- Takes a key and its value away. -/
def erase (d : Dict α) (key : String) : Dict α :=
  ⟨d.entries.filter fun e => e.1 != key, d.sorted.filter _⟩

/-- The keys in increasing order. -/
def keys (d : Dict α) : List String := d.entries.map (·.1)

/-- Whether there is no entry. -/
def isEmpty (d : Dict α) : Bool := d.entries.isEmpty

/-- The number of entries. -/
def size (d : Dict α) : Nat := d.entries.length

/-- The dictionary of a list of entries; of entries with one key the last counts. -/
def ofList (entries : List (String × α)) : Dict α :=
  entries.foldl (fun d e => d.insert e.1 e.2) empty

/-- The same keys with their values changed. -/
def map (f : α → β) (d : Dict α) : Dict β :=
  ⟨d.entries.map fun e => (e.1, f e.2), by
    rw [List.pairwise_map]; exact d.sorted⟩

/-! ### Look-ups after an operation -/

@[simp] theorem get?_empty (key : String) : (empty : Dict α).get? key = none := rfl

theorem lookup_insertEntry (key : String) (value : α) (k : String) :
    ∀ entries : List (String × α),
      (insertEntry key value entries).lookup k = if k = key then some value else entries.lookup k
  | [] => by
    by_cases h : k = key <;> simp [insertEntry, lookup_cons_if, h]
  | entry :: rest => by
    have ih := lookup_insertEntry key value k rest
    simp only [insertEntry]
    split
    · by_cases h : k = key <;> simp [lookup_cons_if, h]
    · split
      · next hgt =>
        by_cases hk : k = entry.1
        · have hne : entry.1 ≠ key := fun h => String.lt_irrefl key (h ▸ hgt)
          simp [lookup_cons_if, hk, hne]
        · simp [lookup_cons_if, hk, ih]
      · next hge hle =>
        have heq : key = entry.1 :=
          String.le_antisymm (String.not_lt.1 hle) (String.not_lt.1 hge)
        by_cases h : k = key
        · simp [h]
        · have h' : ¬ k = entry.1 := heq ▸ h
          simp [lookup_cons_if, h, h']

theorem get?_insert (d : Dict α) (key : String) (value : α) (k : String) :
    (d.insert key value).get? k = if k = key then some value else d.get? k :=
  lookup_insertEntry key value k d.entries

@[simp] theorem get?_insert_self (d : Dict α) (key : String) (value : α) :
    (d.insert key value).get? key = some value := by simp [get?_insert]

theorem get?_erase (d : Dict α) (key k : String) :
    (d.erase key).get? k = if k = key then none else d.get? k := by
  have go : ∀ entries : List (String × α),
      (entries.filter fun e => e.1 != key).lookup k
        = if k = key then none else entries.lookup k := by
    intro entries
    induction entries with
    | nil => simp
    | cons e rest ih =>
      by_cases he : e.1 = key
      · have hdrop : (e :: rest).filter (fun e => e.1 != key)
            = rest.filter fun e => e.1 != key := List.filter_cons_of_neg (by simpa using he)
        rw [hdrop, ih, lookup_cons_if, he]
        by_cases hk : k = key <;> simp [hk]
      · have hkeep : (e :: rest).filter (fun e => e.1 != key)
            = e :: rest.filter fun e => e.1 != key := List.filter_cons_of_pos (by simpa using he)
        rw [hkeep, lookup_cons_if, lookup_cons_if, ih]
        by_cases hk : k = e.1
        · simp [hk, he]
        · simp [hk]
  exact go d.entries

@[simp] theorem get?_erase_self (d : Dict α) (key : String) : (d.erase key).get? key = none := by
  simp [get?_erase]

theorem get?_map (f : α → β) (d : Dict α) (key : String) :
    (d.map f).get? key = (d.get? key).map f := by
  have go : ∀ entries : List (String × α),
      (entries.map fun e => (e.1, f e.2)).lookup key = (entries.lookup key).map f := by
    intro entries
    induction entries with
    | nil => rfl
    | cons e rest ih =>
      by_cases h : key = e.1
      · simp [lookup_cons_if, h]
      · simp [lookup_cons_if, h, ih]
  exact go d.entries

/-! ### Extensionality -/

theorem lookup_of_lt {k : String} : ∀ {entries : List (String × α)},
    (∀ e ∈ entries, k < e.1) → entries.lookup k = none
  | [], _ => rfl
  | e :: rest, h => by
    have hne : ¬ k = e.1 := fun hk => String.lt_irrefl k (by
      have := h e List.mem_cons_self
      exact hk ▸ this)
    simp [lookup_cons_if, hne, lookup_of_lt fun e he => h e (List.mem_cons_of_mem _ he)]

theorem entries_eq_of_lookup : ∀ {xs ys : List (String × α)},
    (xs.Pairwise fun a b => a.1 < b.1) → (ys.Pairwise fun a b => a.1 < b.1) →
      (∀ k, xs.lookup k = ys.lookup k) → xs = ys
  | [], [], _, _, _ => rfl
  | [], y :: ys, _, _, h => by simpa [lookup_cons_if] using h y.1
  | x :: xs, [], _, _, h => by simpa [lookup_cons_if] using h x.1
  | x :: xs, y :: ys, hx, hy, h => by
    have ⟨hxhead, hxrest⟩ := List.pairwise_cons.1 hx
    have ⟨hyhead, hyrest⟩ := List.pairwise_cons.1 hy
    have hkey : x.1 = y.1 := by
      apply Classical.byContradiction
      intro hne
      rcases String.le_total x.1 y.1 with hle | hle
      · have hlt : x.1 < y.1 := String.not_le.1 fun h' => hne (String.le_antisymm hle h')
        have hnone : (y :: ys).lookup x.1 = none := lookup_of_lt fun e he => by
          rcases List.mem_cons.1 he with rfl | he
          · exact hlt
          · exact String.lt_trans hlt (hyhead e he)
        have := h x.1
        rw [hnone] at this
        simp [lookup_cons_if] at this
      · have hlt : y.1 < x.1 :=
          String.not_le.1 fun h' => hne (String.le_antisymm h' hle)
        have hnone : (x :: xs).lookup y.1 = none := lookup_of_lt fun e he => by
          rcases List.mem_cons.1 he with rfl | he
          · exact hlt
          · exact String.lt_trans hlt (hxhead e he)
        have := h y.1
        rw [hnone] at this
        simp [lookup_cons_if] at this
    have hvalue : x.2 = y.2 := by
      have := h x.1
      simpa [lookup_cons_if, hkey] using this
    have hrest : xs = ys := entries_eq_of_lookup hxrest hyrest fun k => by
      by_cases hk : k = x.1
      · rw [hk, lookup_of_lt hxhead, hkey, lookup_of_lt hyhead]
      · have := h k
        have hk' : ¬ k = y.1 := fun h' => hk (h'.trans hkey.symm)
        simpa [lookup_cons_if, hk, hk'] using this
    rw [hrest, Prod.ext hkey hvalue]

/-- Dictionaries with the same look-ups are equal. -/
theorem ext_get? {d e : Dict α} (h : ∀ k, d.get? k = e.get? k) : d = e := by
  have := entries_eq_of_lookup d.sorted e.sorted h
  cases d; cases e; simp_all

end Dict

end VolumeBroker
