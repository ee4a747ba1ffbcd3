import VolumeBroker.Proofs.Codec.Object
/-!
# Values that are written and read back

`Codec.ReadsBack c a b` says that a document for which `a` was written reads as `b`, in whatever order
the members of its objects stand. Mostly `b` is `a` itself; it differs where a codec forgets
something, as the codec of slots does. There is one law for each way to build a codec; the law of
records is `Shape.readsBack`, which asks for one law per field and for spellings that no two fields
share.
-/

namespace VolumeBroker

/-- Whatever has the canonical form of the document that is written for `a` reads as `b`. -/
structure Codec.ReadsBack {α : Type} (c : Codec α) (a b : α) : Prop where
  tidy : (c.write a).Tidy
  read : ∀ origin (value : Json), value.Tidy → value.canonical = (c.write a).canonical →
    c.read origin (.ofJson value) = .ok b

namespace Json

variable {value : Json}

/-! ### Values with a canonical form -/

theorem eq_of_canonical_null (h : value.canonical = .null) : value = .null := by
  cases value <;> simp_all [canonical]

theorem eq_of_canonical_bool {b : Bool} (h : value.canonical = .bool b) : value = .bool b := by
  cases value <;> simp_all [canonical]

theorem eq_of_canonical_number {n : Number} (h : value.canonical = .number n) :
    value = .number n := by
  cases value <;> simp_all [canonical]

theorem eq_of_canonical_str {s : String} (h : value.canonical = .str s) : value = .str s := by
  cases value <;> simp_all [canonical]

theorem eq_of_canonical_arr {items : List Json} (h : value.canonical = .arr items) :
    ∃ raw, value = .arr raw ∧ raw.map canonical = items := by
  cases value with
  | arr raw =>
    rw [canonical_arr] at h
    exact ⟨raw, rfl, Json.arr.inj h⟩
  | obj members => rw [canonical_obj] at h; cases h
  | null => cases h
  | bool b => cases h
  | number n => cases h
  | str s => cases h

/-- Two objects without repeated keys that have one canonical form have the same members up to
canonical form. -/
theorem eq_of_canonical_obj {members : List (String × Json)} (htidy : value.Tidy)
    (hnodup : (members.map Prod.fst).Nodup) (h : value.canonical = (Json.obj members).canonical) :
    ∃ raw, value = .obj raw ∧ (raw.map Prod.fst).Nodup ∧ (∀ m ∈ raw, m.2.Tidy) ∧
      ∀ k, (raw.lookup k).map canonical = (members.lookup k).map canonical := by
  rw [canonical_obj] at h
  cases htidy with
  | obj hraw hitems =>
    next raw =>
    rw [canonical_obj] at h
    refine ⟨raw, rfl, hraw, hitems, fun k => ?_⟩
    -- dictionaries with the same entries have the same look-ups
    have hget := congrArg (fun entries => List.lookup k entries) (Json.obj.inj h)
    change ((Dict.ofList raw).map canonical).get? k = ((Dict.ofList members).map canonical).get? k
      at hget
    rw [Dict.get?_map, Dict.get?_map, Dict.get?_ofList_of_nodup hraw,
      Dict.get?_ofList_of_nodup hnodup] at hget
    exact hget
  | null => cases h
  | bool b => cases h
  | number n => cases h
  | str s => cases h
  | arr hitems => rw [canonical_arr] at h; cases h

end Json

namespace Codec

variable {α : Type} {c : Codec α}

/-- The canonical value that is written reads back. -/
theorem ReadsBack.ofJson {a b : α} (h : c.ReadsBack a b) : c.ofJson (c.toJson a) = .ok b := by
  unfold Codec.ofJson Codec.toJson
  rw [Json.canonical_canonical]
  exact h.read .value _ (Json.tidy_canonical _) (Json.canonical_canonical _)

/-! ### Plain values -/

theorem string_readsBack (s : String) : string.ReadsBack s s where
  tidy := .str s
  read _ _ _ h := by
    rw [Json.eq_of_canonical_str h]
    rfl

theorem bool_readsBack (b : Bool) : bool.ReadsBack b b where
  tidy := .bool b
  read _ _ _ h := by
    rw [Json.eq_of_canonical_bool h]
    rfl

theorem uint64_readsBack (n : UInt64) : uint64.ReadsBack n n where
  tidy := .number _
  read origin value _ h := by
    rw [Json.eq_of_canonical_number h]
    have hpower : twoPow 64 = 2 ^ 64 := by decide
    have hlt := n.toNat_lt
    have hrange : (0 : Int) ≤ n.toNat ∧ (n.toNat : Int) < twoPow 64 := by omega
    simp only [uint64, Source.ofJson]
    rw [if_pos hrange, Int.toNat_natCast, UInt64.ofNat_toNat]

/-- A value that is kept as it is comes back in canonical form. -/
theorem json_readsBack {value : Json} (h : value.Tidy) : json.ReadsBack value value.canonical where
  tidy := h
  read origin j _ hj := by
    simp only [json, Source.toJson_ofJson, hj]

/-! ### Optional values, lists and dictionaries -/

theorem option_readsBack_none : c.option.ReadsBack none none where
  tidy := .null
  read _ _ _ h := by
    rw [Json.eq_of_canonical_null h]
    rfl

theorem read_option_of_ne_null (origin : Origin) {value : Json} (h : value ≠ .null) :
    c.option.read origin (.ofJson value) = (c.read origin (.ofJson value)).map some := by
  cases value with
  | null => exact absurd rfl h
  | arr items => rw [Source.ofJson_arr]; rfl
  | obj members => rw [Source.ofJson_obj]; rfl
  | bool b => rfl
  | number n => rfl
  | str s => rfl

/-- A value that is there comes back, unless it is written as `null`. -/
theorem option_readsBack_some {a b : α} (h : c.ReadsBack a b) (hnull : c.write a ≠ .null) :
    c.option.ReadsBack (some a) (some b) where
  tidy := h.tidy
  read origin value htidy hvalue := by
    -- nothing else has the canonical form of null
    have hne : value ≠ .null := by
      rintro rfl
      exact hnull (Json.eq_of_canonical_null hvalue.symm)
    rw [read_option_of_ne_null origin hne, h.read origin value htidy hvalue]
    rfl

theorem readItems_readsBack {as : List α} {f : α → α} (h : ∀ a ∈ as, c.ReadsBack a (f a))
    (origin : Origin) {raw : List Json} (htidy : ∀ item ∈ raw, item.Tidy)
    (hraw : raw.map Json.canonical = (as.map c.write).map Json.canonical) :
    c.readItems origin (raw.map Source.ofJson) = .ok (as.map f) := by
  -- on the values, since the document has an item for each of them
  induction as generalizing raw with
  | nil =>
    rw [List.map_nil, List.map_nil, List.map_eq_nil_iff] at hraw
    rw [hraw]
    rfl
  | cons a as ih =>
    rw [List.map_cons, List.map_cons] at hraw
    obtain ⟨item, rest, rfl, hitem, hrest⟩ := List.map_eq_cons_iff.1 hraw
    have hfirst := (h a List.mem_cons_self).read origin item (htidy item List.mem_cons_self) hitem
    have hothers := ih (fun a ha => h a (List.mem_cons_of_mem _ ha))
      (fun item hmem => htidy item (List.mem_cons_of_mem _ hmem)) hrest
    rw [List.map_cons, readItems, hfirst, hothers]
    rfl

/-- A list comes back item by item. -/
theorem list_readsBack {as : List α} {f : α → α} (h : ∀ a ∈ as, c.ReadsBack a (f a)) :
    c.list.ReadsBack as (as.map f) where
  tidy := by
    refine .arr fun item hitem => ?_
    obtain ⟨a, ha, rfl⟩ := List.mem_map.1 hitem
    exact (h a ha).tidy
  read origin value htidy hvalue := by
    change value.canonical = (Json.arr (as.map c.write)).canonical at hvalue
    rw [Json.canonical_arr] at hvalue
    obtain ⟨raw, rfl, hraw⟩ := Json.eq_of_canonical_arr hvalue
    cases htidy with
    | arr hitems =>
      have hread := readItems_readsBack h origin hitems hraw
      rw [Source.ofJson_arr]
      simp only [list, hread, endOf, bind, Except.bind]

/-- Each member is read as what was written under its key. -/
theorem readEntries_readsBack {d : Dict α} {f : α → α} (h : ∀ e ∈ d.entries, c.ReadsBack e.2 (f e.2))
    (origin : Origin) {raw : List (String × Json)} (htidy : ∀ m ∈ raw, m.2.Tidy)
    (hraw : ∀ m ∈ raw, some m.2.canonical = (d.get? m.1).map fun a => (c.write a).canonical) :
    ∃ entries, c.readEntries origin (raw.map fun m => (Key.text m.1, Source.ofJson m.2))
        = .ok entries ∧
      List.Forall₂ (fun m e => e.1 = m.1 ∧ (d.get? m.1).map f = some e.2) raw entries := by
  -- on the members of the document, whose order need not be that of the keys
  induction raw with
  | nil => exact ⟨[], rfl, .nil⟩
  | cons m raw ih =>
    obtain ⟨entries, hentries, hall⟩ := ih (fun m hm => htidy m (List.mem_cons_of_mem _ hm))
      (fun m hm => hraw m (List.mem_cons_of_mem _ hm))
    obtain ⟨a, hget, hcanonical⟩ := Option.map_eq_some_iff.1 (hraw m List.mem_cons_self).symm
    have hread := (h (m.1, a) (Dict.get?_eq_some_iff.1 hget)).read origin m.2
      (htidy m List.mem_cons_self) hcanonical.symm
    refine ⟨(m.1, f a) :: entries, ?_, .cons ⟨rfl, by rw [hget]; rfl⟩ hall⟩
    rw [List.map_cons, readEntries, hread, hentries]
    rfl

theorem keys_eq {β γ : Type} {R : String × β → String × γ → Prop} {as : List (String × β)}
    {bs : List (String × γ)} (h : List.Forall₂ (fun a b => b.1 = a.1 ∧ R a b) as bs) :
    bs.map Prod.fst = as.map Prod.fst := by
  induction h with
  | nil => rfl
  | cons hab _ ih => rw [List.map_cons, List.map_cons, hab.1, ih]

/-- Entries that have been read under the keys of a dictionary make up the dictionary. -/
theorem ofList_eq_map {d : Dict α} {f : α → α} {raw : List (String × Json)}
    {entries : List (String × α)} (hraw : (raw.map Prod.fst).Nodup)
    (hall : List.Forall₂ (fun m e => e.1 = m.1 ∧ (d.get? m.1).map f = some e.2) raw entries)
    (habsent : ∀ k, raw.lookup k = none → d.get? k = none) : Dict.ofList entries = d.map f := by
  have hkeys : entries.map Prod.fst = raw.map Prod.fst := keys_eq hall
  refine Dict.ext_get? fun k => ?_
  rw [Dict.get?_ofList_of_nodup (hkeys ▸ hraw), Dict.get?_map]
  -- a key that the document has not is absent on both sides
  cases hget : raw.lookup k with
  | none =>
    rw [habsent k hget, Option.map_none, Dict.lookup_eq_none_iff, hkeys]
    exact Dict.lookup_eq_none_iff.1 hget
  | some v =>
    obtain ⟨e, he, hkey, hvalue⟩ := exists_of_mem_left hall (Dict.mem_of_lookup hget)
    dsimp only at hkey hvalue
    rw [hvalue, ← hkey]
    exact Dict.lookup_of_mem (hkeys ▸ hraw) he

/-- A dictionary comes back entry by entry. -/
theorem dict_readsBack {d : Dict α} {f : α → α} (h : ∀ e ∈ d.entries, c.ReadsBack e.2 (f e.2)) :
    c.dict.ReadsBack d (d.map f) where
  tidy := by
    refine .obj ?_ fun m hm => ?_
    · rw [List.map_map]
      exact d.keys_nodup
    · obtain ⟨e, he, rfl⟩ := List.mem_map.1 hm
      exact (h e he).tidy
  read origin value htidy hvalue := by
    have hnodup : ((d.entries.map fun e => (e.1, c.write e.2)).map Prod.fst).Nodup := by
      rw [List.map_map]
      exact d.keys_nodup
    -- the document is an object with these keys, in some order
    obtain ⟨raw, rfl, hraw, hitems, hlookup⟩ := Json.eq_of_canonical_obj htidy hnodup hvalue
    have hmembers : ∀ k, (raw.lookup k).map Json.canonical
        = (d.get? k).map fun a => (c.write a).canonical := by
      intro k
      rw [hlookup, Dict.lookup_map, Option.map_map]
      rfl
    obtain ⟨entries, hread, hall⟩ := readEntries_readsBack h origin hitems fun m hm => by
      rw [← hmembers, Dict.lookup_of_mem hraw hm]
      rfl
    have habsent : ∀ k, raw.lookup k = none → d.get? k = none := by
      intro k hget
      have hnone := hmembers k
      rw [hget, Option.map_none, eq_comm, Option.map_eq_none_iff] at hnone
      exact hnone
    have hd : Dict.ofList entries = d.map f := ofList_eq_map hraw hall habsent
    rw [Source.ofJson_obj]
    simp only [dict, hread, endOf, bind, Except.bind, hd]

/-! ### Values that come back as themselves -/

/-- A list whose items come back comes back. -/
theorem list_readsBack_self (h : ∀ a, c.ReadsBack a a) (as : List α) : c.list.ReadsBack as as := by
  have hlist : c.list.ReadsBack as (as.map id) := list_readsBack fun a _ => h a
  rwa [List.map_id] at hlist

theorem strings_readsBack (d : Dict String) : string.dict.ReadsBack d d := by
  have h := @dict_readsBack _ string d id fun e _ => string_readsBack e.2
  rwa [Dict.map_id] at h

end Codec

/-! ### Records -/

/-- What a record is written as reads back field by field: a field that is left out has its fallback
to come back to. -/
structure Field.ReadsBack {α : Type} (f : Field α) (a b : α) : Prop where
  name : f.name ∈ f.spellings
  omitted : f.omitted a = true → f.fallback = some b
  written : f.omitted a = false → f.codec.ReadsBack a b

/-- An object gives a field what was written for it, if it holds that under the name of the field,
or nothing if the field was left out. -/
theorem Field.ReadsBack.given {α : Type} {f : Field α} {a b : α} (h : f.ReadsBack a b)
    (origin : Origin) {raw : List (String × Json)} (hnodup : (raw.map Prod.fst).Nodup)
    (htidy : ∀ m ∈ raw, m.2.Tidy)
    (hraw : ∀ k ∈ f.spellings, (raw.lookup k).map Json.canonical
      = if f.omitted a = false ∧ k = f.name then some (f.codec.write a).canonical else none) :
    f.Given origin (raw.map fun m => (m.1, Source.ofJson m.2)) b := by
  have haccepts : ∀ k, f.accepts k = true ↔ k ∈ f.spellings := by simp [Field.accepts]
  have hfilter : (raw.map fun m => (m.1, Source.ofJson m.2)).filter (fun m => f.accepts m.1)
      = (raw.filter fun m => f.accepts m.1).map fun m => (m.1, Source.ofJson m.2) := by
    rw [List.filter_map]
    rfl
  unfold Field.Given
  rw [hfilter]
  cases homitted : f.omitted a with
  | true =>
    -- the object has no member for the field, which has its fallback
    have hnone : raw.filter (fun m => f.accepts m.1) = [] := by
      rw [List.filter_eq_nil_iff]
      intro m hm hkey
      have hlookup := hraw m.1 ((haccepts m.1).1 hkey)
      rw [Dict.lookup_of_mem hnodup hm, if_neg (by simp [homitted])] at hlookup
      cases hlookup
    rw [hnone]
    exact h.omitted homitted
  | false =>
    -- the member under the name of the field is the only one that names it
    have hlookup := hraw f.name h.name
    rw [if_pos ⟨homitted, rfl⟩] at hlookup
    obtain ⟨value, hvalue, hcanonical⟩ := Option.map_eq_some_iff.1 hlookup
    have hmem := Dict.mem_of_lookup hvalue
    have hone : raw.filter (fun m => f.accepts m.1) = [(f.name, value)] := by
      refine Dict.filter_of_mem hnodup hmem fun m hm => ?_
      rw [haccepts]
      refine ⟨fun hkey => ?_, fun hname => hname ▸ h.name⟩
      by_contra hne
      have hother := hraw m.1 hkey
      rw [Dict.lookup_of_mem hnodup hm, if_neg fun hname => hne hname.2] at hother
      cases hother
    rw [hone]
    exact (h.written homitted).read origin value (htidy _ hmem) hcanonical

namespace Field

variable {α : Type} {c : Codec α} {f : Field α} {a b : α}

theorem required_readsBack (name : String) (h : c.ReadsBack a b) :
    (required name c).ReadsBack a b where
  name := List.mem_singleton_self name
  omitted h := nomatch h
  written _ := h

theorem defaulted_readsBack (name : String) (fallback : α) (h : c.ReadsBack a b) :
    (defaulted name c fallback).ReadsBack a b where
  name := List.mem_singleton_self name
  omitted h := nomatch h
  written _ := h

/-- An optional field reads back, unless a value that is there is written as `null`. -/
theorem optional_readsBack (name : String) {o : Option α} {g : α → α}
    (h : ∀ a, o = some a → c.ReadsBack a (g a) ∧ c.write a ≠ .null) :
    (optional name c).ReadsBack o (o.map g) where
  name := List.mem_singleton_self name
  omitted hnone := by
    rw [Option.isNone_iff_eq_none.1 hnone]
    rfl
  written hsome := by
    cases o with
    | none => cases hsome
    | some a => exact Codec.option_readsBack_some (h a rfl).1 (h a rfl).2

/-- An optional field with a value that comes back comes back. -/
theorem optional_readsBack_self (name : String) (o : Option α)
    (h : ∀ a, c.ReadsBack a a ∧ c.write a ≠ .null) : (optional name c).ReadsBack o o := by
  have hoptional := optional_readsBack name (o := o) (g := id) fun a _ => h a
  rwa [Option.map_id] at hoptional

theorem spelled_readsBack {spellings : List String} (hname : f.name ∈ spellings)
    (h : f.ReadsBack a b) : (f.spelled spellings).ReadsBack a b :=
  ⟨hname, h.omitted, h.written⟩

/-- A field that is always written may be left out where its value is the fallback. -/
theorem omittedIf_readsBack {test : α → Bool} (h : f.ReadsBack a b) (hwritten : f.omitted a = false)
    (hfallback : test a = true → f.fallback = some b) : (f.omittedIf test).ReadsBack a b :=
  ⟨h.name, hfallback, fun _ => h.written hwritten⟩

end Field

namespace Fields

/-- Every field reads back. -/
def ReadsBack : {ts : List Type} → Fields ts → Row ts → Row ts → Prop
  | _, .nil, _, _ => True
  | _, .cons field rest, (a, row), (b, row') => field.ReadsBack a b ∧ rest.ReadsBack row row'

/-- Members are written under spellings of their fields. -/
theorem mem_spellings_of_write : {ts : List Type} → {fields : Fields ts} → {row row' : Row ts} →
    fields.ReadsBack row row' → ∀ m ∈ fields.write row, m.1 ∈ fields.spellings
  | _, .nil, _, _, _, _, hm => nomatch hm
  | _, .cons field rest, (a, row), (b, row'), h, m, hm => by
    obtain ⟨hfield, hrest⟩ := h
    rw [write] at hm
    rw [spellings, List.mem_append]
    split at hm
    · exact .inr (mem_spellings_of_write hrest m hm)
    · rcases List.mem_cons.1 hm with rfl | hm
      · exact .inl hfield.name
      · exact .inr (mem_spellings_of_write hrest m hm)

/-- No two members are written under one name. -/
theorem nodup_write : {ts : List Type} → {fields : Fields ts} → {row row' : Row ts} →
    fields.ReadsBack row row' → fields.spellings.Nodup → ((fields.write row).map Prod.fst).Nodup
  | _, .nil, _, _, _, _ => List.nodup_nil
  | _, .cons field rest, (a, row), (b, row'), h, hnodup => by
    obtain ⟨hfield, hrest⟩ := h
    obtain ⟨-, hothers, hdisjoint⟩ := List.nodup_append.1 hnodup
    rw [write]
    split
    · exact nodup_write hrest hothers
    · rw [List.map_cons, List.nodup_cons]
      refine ⟨fun hmem => ?_, nodup_write hrest hothers⟩
      obtain ⟨m, hm, hname⟩ := List.mem_map.1 hmem
      exact hdisjoint _ hfield.name _ (mem_spellings_of_write hrest m hm) hname.symm

/-- What is written is tidy, member by member. -/
theorem tidy_write : {ts : List Type} → {fields : Fields ts} → {row row' : Row ts} →
    fields.ReadsBack row row' → ∀ m ∈ fields.write row, m.2.Tidy
  | _, .nil, _, _, _, _, hm => nomatch hm
  | _, .cons field rest, (a, row), (b, row'), h, m, hm => by
    obtain ⟨hfield, hrest⟩ := h
    rw [write] at hm
    split at hm
    · exact tidy_write hrest m hm
    · next hwritten =>
      rcases List.mem_cons.1 hm with rfl | hm
      · exact (hfield.written (by simpa using hwritten)).tidy
      · exact tidy_write hrest m hm

/-- A field sees its own member only. -/
theorem lookup_write_cons {α : Type} {ts : List Type} {field : Field α} {rest : Fields ts} {a b : α}
    {row row' : Row ts} (h : (Fields.cons field rest).ReadsBack (a, row) (b, row'))
    (hnodup : (Fields.cons field rest).spellings.Nodup) :
    (∀ k ∈ field.spellings, ((Fields.cons field rest).write (a, row)).lookup k
      = if field.omitted a = false ∧ k = field.name then some (field.codec.write a) else none) ∧
    ∀ k ∈ rest.spellings, ((Fields.cons field rest).write (a, row)).lookup k
      = (rest.write row).lookup k := by
  obtain ⟨hfield, hrest⟩ := h
  obtain ⟨-, -, hdisjoint⟩ := List.nodup_append.1 hnodup
  -- the other fields are written under other names
  have hothers : ∀ k ∈ field.spellings, (rest.write row).lookup k = none := by
    intro k hk
    rw [Dict.lookup_eq_none_iff]
    intro hmem
    obtain ⟨m, hm, hname⟩ := List.mem_map.1 hmem
    exact hdisjoint k hk _ (mem_spellings_of_write hrest m hm) hname.symm
  rw [write]
  cases homitted : field.omitted a with
  | true => exact ⟨fun k hk => by simp [hothers k hk], fun _ _ => rfl⟩
  | false =>
    rw [if_neg (by simp)]
    refine ⟨fun k hk => ?_, fun k hk => ?_⟩
    · rw [Dict.lookup_cons_if, hothers k hk]
      simp
    · have hne : k ≠ field.name := fun hname => hdisjoint _ hfield.name k hk hname.symm
      rw [Dict.lookup_cons_if, if_neg hne]

/-- An object that holds what was written gives all fields. -/
theorem ReadsBack.given (origin : Origin) {raw : List (String × Json)}
    (hraw : (raw.map Prod.fst).Nodup) (htidy : ∀ m ∈ raw, m.2.Tidy) :
    {ts : List Type} → {fields : Fields ts} → {row row' : Row ts} → fields.ReadsBack row row' →
    fields.spellings.Nodup →
    (∀ k ∈ fields.spellings, (raw.lookup k).map Json.canonical
      = ((fields.write row).lookup k).map Json.canonical) →
    fields.Given origin (raw.map fun m => (m.1, Source.ofJson m.2)) row'
  | _, .nil, _, _, _, _, _ => trivial
  | _, .cons field rest, (a, row), (b, row'), h, hnodup, hlookup => by
    obtain ⟨hmine, hothers⟩ := lookup_write_cons h hnodup
    obtain ⟨-, hrest, -⟩ := List.nodup_append.1 hnodup
    refine ⟨h.1.given origin hraw htidy fun k hk => ?_,
      given origin hraw htidy h.2 hrest fun k hk => ?_⟩
    · rw [hlookup k (List.mem_append_left _ hk), hmine k hk]
      split <;> rfl
    · rw [hlookup k (List.mem_append_right _ hk), hothers k hk]

end Fields

/-- **Records read back** if their fields do and no two fields share a spelling. -/
theorem Shape.readsBack {α : Type} {s : Shape α} {a b : α} {row : Row s.types}
    (hnodup : s.fields.spellings.Nodup) (h : s.fields.ReadsBack (s.parts a) row)
    (hb : s.build row = b) : s.codec.ReadsBack a b where
  tidy := .obj (Fields.nodup_write h hnodup) (Fields.tidy_write h)
  read origin value htidy hvalue := by
    obtain ⟨raw, rfl, hraw, hitems, hlookup⟩ :=
      Json.eq_of_canonical_obj htidy (Fields.nodup_write h hnodup) hvalue
    have hpasses : ∀ m ∈ raw.map fun m => (m.1, Source.ofJson m.2), s.Passes m := by
      -- whatever the document holds has been written
      intro m hm
      obtain ⟨e, he, rfl⟩ := List.mem_map.1 hm
      have hwritten := hlookup e.1
      rw [Dict.lookup_of_mem hraw he, eq_comm, Option.map_some, Option.map_eq_some_iff] at hwritten
      obtain ⟨v, hv, -⟩ := hwritten
      have hmem : e.1 ∈ s.fields.spellings :=
        Fields.mem_spellings_of_write h (e.1, v) (Dict.mem_of_lookup hv)
      exact .inl hmem
    have hgiven := h.given origin hraw hitems hnodup fun k _ => hlookup k
    have hread := Shape.read_obj hnodup hpasses hgiven
    rw [Source.ofJson_obj, ← hb, ← hread]
    unfold membersOf
    rw [List.map_map]
    rfl

end VolumeBroker
