import VolumeBroker.Proofs.Codec.Exact
import VolumeBroker.Proofs.Codec.Spellings
/-!
# Records among other members

A record that is not strict may stand in an object together with members that name none of its fields.
`Style.openRecord` admits such objects, with the members of the record and all others in any order;
`Shape.admits_openRecord` says that the others make no difference.
-/

namespace VolumeBroker

namespace Manners

/-- The keys under which fields may stand. -/
def spellings : {ts : List Type} → Manners ts → List String
  | _, .nil => []
  | _, .cons manner rest => manner.spellings ++ rest.spellings

end Manners

namespace Style

/-- Truth values. -/
def bool : Style Bool := .plain fun b value => value = .bool b

/-- JSON values, up to their canonical form. -/
def json : Style Json := .plain fun a value => value.canonical = a

/-- Records; other members may stand among theirs. -/
def openRecord {α : Type} {ts : List Type} (manners : Manners ts) (parts : α → Row ts) : Style α :=
  .plain fun a value => ∃ members given others, value = .obj members ∧
    members.Perm (given ++ others) ∧ manners.Gives (parts a) given ∧
      ∀ m ∈ others, m.1 ∉ manners.spellings

end Style

namespace Codec

theorem bool_admits : bool.Admits .bool := by
  rintro b _ rfl origin
  rfl

theorem json_admits : json.Admits .json := by
  rintro _ value rfl origin
  simp only [json, Source.toJson_ofJson]

end Codec

/-- Members that name no field may be added. -/
theorem Fields.Given.append {origin : Origin} {ts : List Type} {fields : Fields ts} {row : Row ts}
    {given others : List (String × Source)} (h : fields.Given origin given row)
    (hothers : ∀ m ∈ others, m.1 ∉ fields.spellings) : fields.Given origin (given ++ others) row := by
  -- the order is free, so the others are put in front, where each of them is passed over by itself
  refine of_perm List.perm_append_comm ?_
  induction others with
  | nil => exact h
  | cons m others ih =>
    rw [List.forall_mem_cons] at hothers
    exact cons (ih hothers.2) hothers.1

/-- **The members of a record among others**, in whatever order, give it its values. -/
theorem Manners.Gives.given_of_perm (origin : Origin) {ts : List Type} {manners : Manners ts}
    {fields : Fields ts} {row : Row ts} {members given others : List (String × Json)}
    (h : manners.Gives row given) (hadmits : fields.Admit manners) (hnodup : fields.spellings.Nodup)
    (hperm : members.Perm (given ++ others)) (hothers : ∀ m ∈ others, m.1 ∉ fields.spellings) :
    fields.Given origin (members.map fun m => (m.1, Source.ofJson m.2)) row := by
  refine Fields.Given.of_perm (hperm.map _) ?_
  rw [List.map_append]
  exact (h.given origin hadmits hnodup).append (List.forall_mem_map.2 hothers)

/-- **Records are read among other members**, unless they are strict. -/
theorem Shape.admits_openRecord {α : Type} {s : Shape α} {manners : Manners s.types}
    (hnodup : s.fields.spellings.Nodup) (hloose : s.strict = false) (h : s.fields.Admit manners)
    (hkeys : s.fields.spellings ⊆ manners.spellings) (hbuild : ∀ a, s.build (s.parts a) = a) :
    s.codec.Admits (.openRecord manners s.parts) := by
  rintro a _ ⟨members, given, others, rfl, hperm, hgives, hothers⟩ origin
  -- a record that is not strict skips what names none of its fields
  have hgiven := hgives.given_of_perm origin h hnodup hperm fun m hm hkey => hothers m hm (hkeys hkey)
  exact (read_ofJson_obj_iff hnodup).2
    ⟨s.parts a, (hbuild a).symm, hgiven, fun m _ => .inr ⟨hloose, Source.skipFault_ofJson _⟩⟩

/-- A field that is never left out is written as its value is. -/
theorem Field.renders_of_kept {α : Type} {f : Field α} {manner : Manner α} {a b : α}
    (hkept : f.omitted a = false) (hname : f.name ∈ manner.spellings)
    (hwords : manner.style.words b (f.codec.write a)) : f.Renders manner a b := by
  unfold Renders
  rw [if_neg (by simp [hkept])]
  exact ⟨hname, hwords⟩

end VolumeBroker
