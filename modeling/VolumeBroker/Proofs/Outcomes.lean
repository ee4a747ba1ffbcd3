import Mathlib.Data.List.Forall2
/-!
# Computations that can fail, item by item

A computation that ends well has been through all of its steps, with a result in each. Where it goes
through a list, the results are related to the items by `List.Forall₂`.
-/

namespace VolumeBroker

section Outcomes

variable {ε α β : Type}

/-- A chain of steps that ends well has passed its first one. -/
theorem exists_of_bind_ok {first : Except ε α} {rest : α → Except ε β} {b : β}
    (h : (first >>= rest) = .ok b) : ∃ a, first = .ok a ∧ rest a = .ok b := by
  cases first with
  | error e => cases h
  | ok a => exact ⟨a, rfl, h⟩

/-- A result that has been changed has been there before. -/
theorem exists_of_map_ok {first : Except ε α} {f : α → β} {b : β} (h : first.map f = .ok b) :
    ∃ a, first = .ok a ∧ f a = b := by
  cases first with
  | error e => cases h
  | ok a => exact ⟨a, rfl, Except.ok.inj h⟩

theorem of_map_error {first : Except ε α} {f : α → β} {e : ε} (h : first.map f = .error e) :
    first = .error e := by
  cases first with
  | ok a => cases h
  | error failure => exact congrArg Except.error (Except.error.inj h)

/-- A result whose failures are reported in other words has been there before. -/
theorem of_mapError_ok {ε' : Type} {first : Except ε α} {f : ε → ε'} {a : α}
    (h : first.mapError f = .ok a) : first = .ok a := by
  cases first with
  | error e => cases h
  | ok b => exact congrArg _ (Except.ok.inj h)

end Outcomes

section Related

variable {α β : Type} {R S : α → β → Prop} {as : List α} {bs : List β}

/-- Every element on the right of two related lists has a partner on the left. -/
theorem exists_of_mem_right (h : List.Forall₂ R as bs) {b : β} (hb : b ∈ bs) : ∃ a ∈ as, R a b := by
  induction h with
  | nil => cases hb
  | @cons a _ _ _ hab _ ih =>
    -- the partner of the first element is at hand, that of any other one further on
    rcases List.mem_cons.1 hb with rfl | hb
    · exact ⟨a, List.mem_cons_self, hab⟩
    · obtain ⟨a', ha', hR⟩ := ih hb
      exact ⟨a', List.mem_cons_of_mem _ ha', hR⟩

/-- Every element on the left of two related lists has a partner on the right. -/
theorem exists_of_mem_left (h : List.Forall₂ R as bs) {a : α} (ha : a ∈ as) : ∃ b ∈ bs, R a b :=
  exists_of_mem_right h.flip ha

/-- A relation between two lists may be weakened element by element. -/
theorem forall₂_imp_of_mem (h : List.Forall₂ R as bs) (himp : ∀ a ∈ as, ∀ b, R a b → S a b) :
    List.Forall₂ S as bs := by
  induction h with
  | nil => exact .nil
  | @cons a b _ _ hab _ ih =>
    exact .cons (himp a List.mem_cons_self b hab) (ih fun a ha => himp a (List.mem_cons_of_mem _ ha))

/-- Two relations between lists, one behind the other. -/
theorem forall₂_comp {γ : Type} {S : β → γ → Prop} {T : α → γ → Prop} {cs : List γ}
    (hR : List.Forall₂ R as bs) (hS : List.Forall₂ S bs cs)
    (h : ∀ a ∈ as, ∀ b c, R a b → S b c → T a c) : List.Forall₂ T as cs := by
  -- along the first relation; the second list has as many elements and is taken apart with it
  induction hR generalizing cs with
  | nil =>
    cases hS
    exact .nil
  | @cons a b as bs hab _ ih =>
    cases hS with
    | cons hbc hrest =>
      refine .cons (h a List.mem_cons_self b _ hab hbc) (ih hrest ?_)
      exact fun a' ha' => h a' (List.mem_cons_of_mem a ha')

end Related

end VolumeBroker
