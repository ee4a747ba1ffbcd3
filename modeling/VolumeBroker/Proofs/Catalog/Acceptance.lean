import VolumeBroker.Catalog.Registry
import Mathlib.Data.List.Induction
import Mathlib.Data.List.Nodup
/-!
# Which specifications are accepted

A registry is built from a specification exactly if the specification is `Acceptable`: it has an entry,
every entry is complete, no id is repeated and every entry can be connected. Otherwise the construction
ends at the first entry that has a `Flaw`, with what is reported of the first check that the entry does
not pass (`StopsAt`). Nothing is connected behind that entry, and the entry itself only if everything
else about it was in order.

An entry is judged by itself and by the entries before it, so specifications are taken apart as
`earlier ++ spec :: later`. `Clear n` says that the first `n` checks of an entry are passed; the
checks are gone through in order, and either one is not passed behind some that are, or all are passed
(`addAll_cons`). What a whole construction comes to is found by one induction on the entries to come
(`addAll_outcome`).
-/

namespace VolumeBroker

/-- An entry by itself lacks nothing. -/
structure ServiceSpec.Complete (spec : ServiceSpec) : Prop where
  id : isBlankText spec.service.id = false
  name : isBlankText spec.service.name = false
  driverName : isBlankText spec.driverName = false
  connectionAddress : isBlankText spec.connectionAddress = false
  plans : spec.service.plans ≠ []
  planTexts : ∀ plan ∈ spec.service.plans,
    isBlankText plan.id = false ∧ isBlankText plan.name = false

namespace Registry

/-- A specification of which a registry can be built. -/
structure Acceptable (connect : Nat → Connector) (specs : List ServiceSpec) : Prop where
  nonempty : specs ≠ []
  complete : ∀ spec ∈ specs, spec.Complete
  distinct : (specs.map fun spec => spec.service.id).Nodup
  connected : ∀ i spec, specs[i]? = some spec → connect i spec.connectionAddress = none

/-! ### The checks of an entry -/

/-- What is checked of an entry. -/
inductive Check where
  | id
  | name
  | driverName
  | connectionAddress
  /-- There is a plan. -/
  | plans
  /-- Every plan has an id and a name. -/
  | planTexts
  | uniqueId
  | connection
deriving DecidableEq

/-- The place of a check in the order of checks. -/
def Check.rank : Check → Nat
  | id => 0
  | name => 1
  | driverName => 2
  | connectionAddress => 3
  | plans => 4
  | planTexts => 5
  | uniqueId => 6
  | connection => 7

theorem Check.rank_injective : Function.Injective Check.rank := by
  intro c d h
  cases c <;> cases d <;> simp_all [rank]

/-- A check that an entry does not pass behind the entries before it, and what is reported of it. Each
check is looked at by itself, whether or not the others are passed. -/
inductive Flaw (connect : Nat → Connector) (earlier : List ServiceSpec) (spec : ServiceSpec) :
    Check → RegistryError → Prop where
  | id (h : isBlankText spec.service.id = true) :
    Flaw connect earlier spec .id (.invalidService earlier.length "missing id")
  | name (h : isBlankText spec.service.name = true) :
    Flaw connect earlier spec .name (.invalidService earlier.length "missing name")
  | driverName (h : isBlankText spec.driverName = true) :
    Flaw connect earlier spec .driverName (.invalidService earlier.length "missing driver_name")
  | connectionAddress (h : isBlankText spec.connectionAddress = true) :
    Flaw connect earlier spec .connectionAddress
      (.invalidService earlier.length "missing connection_address")
  | plans (h : spec.service.plans = []) :
    Flaw connect earlier spec .plans (.invalidService earlier.length "no plans")
  /-- The first plan without an id or a name is named. -/
  | planTexts {before after : List ServicePlan} {plan : ServicePlan}
      (hsplit : spec.service.plans = before ++ plan :: after)
      (hplan : isBlankText plan.id = true ∨ isBlankText plan.name = true)
      (hbefore : ∀ p ∈ before, isBlankText p.id = false ∧ isBlankText p.name = false) :
    Flaw connect earlier spec .planTexts (.invalidService earlier.length
      ("plan " ++ quoted plan.name ++ " needs an id and a name"))
  | uniqueId (h : spec.service.id ∈ earlier.map fun spec => spec.service.id) :
    Flaw connect earlier spec .uniqueId
      (.invalidService earlier.length ("duplicate service id " ++ spec.service.id))
  | connection {source : PluginError}
      (h : connect earlier.length spec.connectionAddress = some source) :
    Flaw connect earlier spec .connection (.connect earlier.length source)

/-- The first checks of an entry are passed. -/
def Clear (connect : Nat → Connector) (earlier : List ServiceSpec) (spec : ServiceSpec) (n : Nat) :
    Prop := ∀ check, check.rank < n → ∀ e, ¬Flaw connect earlier spec check e

/-- An entry passes all checks. -/
def Passes (connect : Nat → Connector) (earlier : List ServiceSpec) (spec : ServiceSpec) : Prop :=
  ∀ check e, ¬Flaw connect earlier spec check e

/-- Every entry passes all checks. -/
def AllPass (connect : Nat → Connector) (specs : List ServiceSpec) : Prop :=
  ∀ earlier spec later, specs = earlier ++ spec :: later → Passes connect earlier spec

/-- Where a construction ends: at the first entry with a flaw, and with the first of its flaws. -/
structure StopsAt (connect : Nat → Connector) (specs earlier : List ServiceSpec) (spec : ServiceSpec)
    (check : Check) (e : RegistryError) : Prop where
  entry : ∃ later, specs = earlier ++ spec :: later
  flaw : Flaw connect earlier spec check e
  firstCheck : ∀ c, c.rank < check.rank → ∀ e, ¬Flaw connect earlier spec c e
  firstEntry : AllPass connect earlier

section Checks

variable {connect : Nat → Connector} {earlier : List ServiceSpec} {spec : ServiceSpec}

theorem clear_zero : Clear connect earlier spec 0 := fun _ h => absurd h (Nat.not_lt_zero _)

/-- Behind the checks that are passed the next one is passed as well. -/
theorem Clear.next {check : Check} (h : Clear connect earlier spec check.rank)
    (hpass : ∀ e, ¬Flaw connect earlier spec check e) :
    Clear connect earlier spec (check.rank + 1) := by
  intro c hc
  rcases Nat.lt_succ_iff_lt_or_eq.1 hc with hlt | heq
  · exact h c hlt
  · rw [Check.rank_injective heq]
    exact hpass

theorem Clear.passes (h : Clear connect earlier spec (Check.connection.rank + 1)) :
    Passes connect earlier spec :=
  fun check => h check (by cases check <;> decide)

/-- The first incomplete plan of an entry is a flaw. -/
theorem Flaw.of_find? {plan : ServicePlan}
    (h : spec.service.plans.find? isIncomplete = some plan) : Flaw connect earlier spec .planTexts
      (.invalidService earlier.length ("plan " ++ quoted plan.name ++ " needs an id and a name")) := by
  obtain ⟨hplan, before, after, hsplit, hbefore⟩ := List.find?_eq_some_iff_append.1 h
  refine .planTexts hsplit ?_ fun p hp => ?_
  · simpa [isIncomplete] using hplan
  · simpa [isIncomplete] using hbefore p hp

/-- No plan is a flaw if all have their texts. -/
theorem not_flaw_planTexts (h : ∀ plan ∈ spec.service.plans,
    isBlankText plan.id = false ∧ isBlankText plan.name = false) (e : RegistryError) :
    ¬Flaw connect earlier spec .planTexts e := by
  rintro (_ | _ | _ | _ | _ | ⟨hsplit, hplan, -⟩)
  have hmem := h _ (hsplit ▸ List.mem_append_right _ List.mem_cons_self)
  rw [hmem.1, hmem.2] at hplan
  cases hplan <;> contradiction

/-- Where no plan is incomplete all have their texts. -/
theorem planTexts_of_find? (h : spec.service.plans.find? isIncomplete = none) :
    ∀ plan ∈ spec.service.plans, isBlankText plan.id = false ∧ isBlankText plan.name = false :=
  fun plan hplan => by simpa [isIncomplete] using List.find?_eq_none.1 h plan hplan

/-- An entry that passes is complete, has an id of its own and can be connected. -/
theorem passes_iff : Passes connect earlier spec ↔
    spec.Complete ∧ (spec.service.id ∉ earlier.map fun spec => spec.service.id) ∧
      connect earlier.length spec.connectionAddress = none := by
  constructor
  · intro h
    refine ⟨⟨?_, ?_, ?_, ?_, fun hplans => h _ _ (.plans hplans), ?_⟩, fun hid => h _ _ (.uniqueId hid),
      ?_⟩
    · exact Bool.eq_false_iff.2 fun hblank => h _ _ (.id hblank)
    · exact Bool.eq_false_iff.2 fun hblank => h _ _ (.name hblank)
    · exact Bool.eq_false_iff.2 fun hblank => h _ _ (.driverName hblank)
    · exact Bool.eq_false_iff.2 fun hblank => h _ _ (.connectionAddress hblank)
    · -- of several incomplete plans the first one would be a flaw
      cases hfind : spec.service.plans.find? isIncomplete with
      | none => exact planTexts_of_find? hfind
      | some plan => exact absurd (.of_find? hfind) (h _ _)
    · cases hconnect : connect earlier.length spec.connectionAddress with
      | none => rfl
      | some source => exact absurd (.connection hconnect) (h _ _)
  · rintro ⟨hcomplete, hid, hconnect⟩ check e hflaw
    have hplans : ∀ e, ¬Flaw connect earlier spec .planTexts e :=
      not_flaw_planTexts hcomplete.planTexts
    cases hflaw with
    | id h => rw [hcomplete.id] at h; cases h
    | name h => rw [hcomplete.name] at h; cases h
    | driverName h => rw [hcomplete.driverName] at h; cases h
    | connectionAddress h => rw [hcomplete.connectionAddress] at h; cases h
    | plans h => exact hcomplete.plans h
    | planTexts hsplit hplan hbefore =>
      exact hplans _ (.planTexts hsplit hplan hbefore)
    | uniqueId h => exact hid h
    | connection h => rw [hconnect] at h; cases h

/-- The texts of an entry: none of them is blank, or the first blank one is named. -/
theorem requiredTexts_outcome (connect : Nat → Connector) (earlier : List ServiceSpec)
    (spec : ServiceSpec) :
    ((requiredTexts spec).find? fun field => isBlankText field.2) = none ∧
        Clear connect earlier spec Check.plans.rank ∨
      ∃ check field value, ((requiredTexts spec).find? fun field => isBlankText field.2)
          = some (field, value) ∧
        check ≠ .connection ∧ Clear connect earlier spec check.rank ∧
        Flaw connect earlier spec check (.invalidService earlier.length ("missing " ++ field)) := by
  have hclear : Clear connect earlier spec Check.id.rank := clear_zero
  -- field by field, in the order of the checks: a blank one stops, the others are cleared
  cases hid : isBlankText spec.service.id with
  | true => exact .inr ⟨.id, "id", spec.service.id, by simp [requiredTexts, hid], nofun, hclear, .id hid⟩
  | false =>
  replace hclear : Clear connect earlier spec Check.name.rank :=
    hclear.next fun e h => by cases h; simp_all
  cases hname : isBlankText spec.service.name with
  | true =>
    exact .inr ⟨.name, "name", spec.service.name, by simp [requiredTexts, hid, hname], nofun, hclear,
      .name hname⟩
  | false =>
  replace hclear : Clear connect earlier spec Check.driverName.rank :=
    hclear.next fun e h => by cases h; simp_all
  cases hdriver : isBlankText spec.driverName with
  | true =>
    exact .inr ⟨.driverName, "driver_name", spec.driverName,
      by simp [requiredTexts, hid, hname, hdriver], nofun, hclear, .driverName hdriver⟩
  | false =>
  replace hclear : Clear connect earlier spec Check.connectionAddress.rank :=
    hclear.next fun e h => by cases h; simp_all
  cases haddress : isBlankText spec.connectionAddress with
  | true =>
    exact .inr ⟨.connectionAddress, "connection_address", spec.connectionAddress,
      by simp [requiredTexts, hid, hname, hdriver, haddress], nofun, hclear,
      .connectionAddress haddress⟩
  | false =>
    exact .inl ⟨by simp [requiredTexts, hid, hname, hdriver, haddress],
      hclear.next fun e h => by cases h; simp_all⟩

/-- The checks of an entry by itself: it has no problem and passes them all, or its problem is the first
check that it does not pass. -/
theorem problem?_outcome (connect : Nat → Connector) (earlier : List ServiceSpec)
    (spec : ServiceSpec) :
    problem? spec = none ∧ Clear connect earlier spec Check.uniqueId.rank ∨
      ∃ check problem, problem? spec = some problem ∧ check ≠ .connection ∧
        Clear connect earlier spec check.rank ∧
        Flaw connect earlier spec check (.invalidService earlier.length problem.reason) := by
  unfold problem?
  rcases requiredTexts_outcome connect earlier spec with
    ⟨hfind, hclear⟩ | ⟨check, field, value, hfind, hcheck, hclear, hflaw⟩
  · rw [hfind]
    dsimp only
    -- the texts are in order, so the plans are next
    by_cases hempty : spec.service.plans = []
    · exact .inr ⟨.plans, .noPlans, by rw [hempty]; rfl, nofun, hclear, .plans hempty⟩
    replace hclear : Clear connect earlier spec Check.planTexts.rank :=
      hclear.next fun e h => by cases h; contradiction
    rw [if_neg (by simpa using hempty)]
    cases hplans : spec.service.plans.find? isIncomplete with
    | none =>
      exact .inl ⟨rfl, hclear.next (not_flaw_planTexts (planTexts_of_find? hplans))⟩
    | some plan =>
      exact .inr ⟨.planTexts, .incompletePlan plan.name, rfl, nofun, hclear, .of_find? hplans⟩
  · rw [hfind]
    exact .inr ⟨check, .blankField field, rfl, hcheck, hclear, hflaw⟩

end Checks

/-! ### Whole specifications -/

section Specifications

variable {connect : Nat → Connector} {specs earlier rest : List ServiceSpec} {spec : ServiceSpec}
  {r : Registry}

/-- The ids of a registry are those of the entries it has been built from. -/
def Holds (r : Registry) (earlier : List ServiceSpec) : Prop :=
  ∀ id, r.entries.contains id = true ↔ id ∈ earlier.map fun spec => spec.service.id

theorem holds_empty : empty.Holds [] := fun _ => by simp [empty, Dict.contains]

theorem Holds.add (h : r.Holds earlier) (spec : ServiceSpec) :
    (r.add spec).Holds (earlier ++ [spec]) := by
  intro id
  have hid := h id
  unfold Dict.contains at hid
  unfold Registry.add Dict.contains
  rw [Dict.get?_insert, List.map_append, List.mem_append, ← hid]
  by_cases heq : id = spec.service.id <;> simp [heq]

theorem allPass_nil : AllPass connect [] := by simp [AllPass]

theorem AllPass.snoc (h : AllPass connect specs) (hspec : Passes connect specs spec) :
    AllPass connect (specs ++ [spec]) := by
  intro earlier s later hsplit
  rcases List.eq_nil_or_concat later with rfl | ⟨later, last, rfl⟩
  · obtain ⟨rfl, hlast⟩ := List.append_inj' hsplit rfl
    cases hlast
    exact hspec
  · -- the entry stands in front of the last one
    rw [List.concat_eq_append, ← List.cons_append, ← List.append_assoc] at hsplit
    exact h earlier s later (List.append_inj' hsplit rfl).1

theorem AllPass.of_snoc (h : AllPass connect (specs ++ [spec])) :
    AllPass connect specs ∧ Passes connect specs spec := by
  refine ⟨fun earlier s later hsplit => h earlier s (later ++ [spec]) ?_, h specs spec [] rfl⟩
  rw [hsplit, List.append_assoc, List.cons_append]

/-- The specifications all of whose entries pass. -/
theorem allPass_iff : AllPass connect specs ↔
    (∀ spec ∈ specs, spec.Complete) ∧ (specs.map fun spec => spec.service.id).Nodup ∧
      ∀ i spec, specs[i]? = some spec → connect i spec.connectionAddress = none := by
  induction specs using List.reverseRecOn with
  | nil => simp [allPass_nil]
  | append_singleton specs spec ih =>
    have hsnoc : AllPass connect (specs ++ [spec])
        ↔ AllPass connect specs ∧ Passes connect specs spec :=
      ⟨AllPass.of_snoc, fun h => h.1.snoc h.2⟩
    -- the last entry has the index behind all others
    have hindex : (∀ i s, (specs ++ [spec])[i]? = some s → connect i s.connectionAddress = none)
        ↔ (∀ i s, specs[i]? = some s → connect i s.connectionAddress = none) ∧
          connect specs.length spec.connectionAddress = none := by
      constructor
      · refine fun h => ⟨fun i s hs => h i s ?_, h _ _ List.getElem?_concat_length⟩
        rw [List.getElem?_append_left (List.getElem?_eq_some_iff.1 hs).1, hs]
      · rintro ⟨hinit, hlast⟩ i s hs
        rw [List.getElem?_append] at hs
        split at hs
        · exact hinit i s hs
        · obtain ⟨hi, rfl⟩ := List.getElem?_eq_some_iff.1 hs
          obtain rfl : i = specs.length := by
            rw [List.length_singleton] at hi
            omega
          simpa using hlast
    rw [hsnoc, ih, passes_iff, hindex, List.map_append, List.map_singleton, List.nodup_append]
    simp only [List.forall_mem_append, List.mem_singleton, forall_eq, List.nodup_singleton, true_and]
    constructor
    · rintro ⟨⟨hcomplete, hnodup, hconnected⟩, hspec, hid, hconnect⟩
      exact ⟨⟨hcomplete, hspec⟩, ⟨hnodup, fun id hmem heq => hid (heq ▸ hmem)⟩, hconnected, hconnect⟩
    · rintro ⟨⟨hcomplete, hspec⟩, ⟨hnodup, hother⟩, hconnected, hconnect⟩
      exact ⟨⟨hcomplete, hnodup, hconnected⟩, hspec, fun hmem => hother _ hmem rfl, hconnect⟩

/-- What is connected for the entry at which a construction ends. -/
def lastAttempt (spec : ServiceSpec) (check : Check) : List String :=
  if check = .connection then [spec.connectionAddress] else []

/-- One entry: it passes and the construction goes on, or the construction ends with its first flaw. -/
theorem addAll_cons (hr : r.Holds earlier) (rest : List ServiceSpec) :
    (Passes connect earlier spec ∧
      addAll connect earlier.length r (spec :: rest)
        = let others := addAll connect (earlier.length + 1) (r.add spec) rest
          ⟨spec.connectionAddress :: others.attempted, others.result⟩) ∨
    ∃ check e, Clear connect earlier spec check.rank ∧ Flaw connect earlier spec check e ∧
      addAll connect earlier.length r (spec :: rest) = ⟨lastAttempt spec check, .error e⟩ := by
  rw [addAll]
  rcases problem?_outcome connect earlier spec with
    ⟨hproblem, hclear⟩ | ⟨check, problem, hproblem, hcheck, hclear, hflaw⟩
  · rw [hproblem]
    dsimp only
    -- the entry by itself is in order, so it depends on the earlier ones and on its driver
    by_cases hid : r.entries.contains spec.service.id = true
    · rw [if_pos hid]
      exact .inr ⟨.uniqueId, _, hclear, .uniqueId ((hr _).1 hid), rfl⟩
    replace hclear : Clear connect earlier spec Check.connection.rank :=
      hclear.next fun e h => by
        cases h with
        | uniqueId h => exact hid ((hr _).2 h)
    rw [if_neg hid]
    cases hconnect : connect earlier.length spec.connectionAddress with
    | some source => exact .inr ⟨.connection, _, hclear, .connection hconnect, rfl⟩
    | none =>
      refine .inl ⟨(hclear.next fun e h => ?_).passes, rfl⟩
      cases h with
      | connection h => rw [hconnect] at h; cases h
  · rw [hproblem]
    exact .inr ⟨check, _, hclear, hflaw, by rw [lastAttempt, if_neg hcheck]⟩

/-- **All entries to come**: they pass and are added, or the construction ends at one of them. -/
theorem addAll_outcome (hr : r.Holds earlier) (hearlier : AllPass connect earlier) :
    (AllPass connect (earlier ++ rest) ∧ addAll connect earlier.length r rest
      = ⟨rest.map fun spec => spec.connectionAddress, .ok (rest.foldl Registry.add r)⟩) ∨
    ∃ passed spec check e, StopsAt connect (earlier ++ rest) (earlier ++ passed) spec check e ∧
      addAll connect earlier.length r rest
        = ⟨(passed.map fun spec => spec.connectionAddress) ++ lastAttempt spec check, .error e⟩ := by
  -- entry by entry; those in front have all passed
  induction rest generalizing earlier r with
  | nil => exact .inl ⟨by rwa [List.append_nil], rfl⟩
  | cons spec rest ih =>
    rcases addAll_cons hr rest with ⟨hpasses, hadd⟩ | ⟨check, e, hclear, hflaw, hadd⟩
    · -- the entry belongs to the earlier ones from now on
      have hsplit : earlier ++ spec :: rest = (earlier ++ [spec]) ++ rest := by simp
      have hlength : earlier.length + 1 = (earlier ++ [spec]).length := by simp
      rw [hadd, hsplit, hlength]
      rcases ih (hr.add spec) (hearlier.snoc hpasses) with
        ⟨hall, hrest⟩ | ⟨passed, last, check, e, hstops, hrest⟩
      · exact .inl ⟨hall, by rw [hrest]; rfl⟩
      · refine .inr ⟨spec :: passed, last, check, e, ?_, by rw [hrest]; rfl⟩
        rwa [List.append_assoc earlier [spec] passed, List.singleton_append] at hstops
    · refine .inr ⟨[], spec, check, e, ?_, hadd⟩
      rw [List.append_nil]
      exact ⟨⟨rest, rfl⟩, hflaw, hclear, hearlier⟩

/-- What a construction comes to. -/
theorem buildEach_outcome (connect : Nat → Connector) (hspecs : specs ≠ []) :
    (AllPass connect specs ∧ buildEach specs connect
      = ⟨specs.map fun spec => spec.connectionAddress, .ok (specs.foldl Registry.add empty)⟩) ∨
    ∃ earlier spec check e, StopsAt connect specs earlier spec check e ∧ buildEach specs connect
      = ⟨(earlier.map fun spec => spec.connectionAddress) ++ lastAttempt spec check, .error e⟩ := by
  rw [buildEach, if_neg (by simpa using hspecs)]
  exact addAll_outcome holds_empty allPass_nil

/-- An entry at which a construction ends does not pass. -/
theorem StopsAt.not_allPass {check : Check} {e : RegistryError}
    (h : StopsAt connect specs earlier spec check e) : ¬AllPass connect specs := by
  obtain ⟨later, hsplit⟩ := h.entry
  exact fun hall => hall earlier spec later hsplit check e h.flaw

theorem buildEach_of_allPass (hspecs : specs ≠ []) (h : AllPass connect specs) :
    buildEach specs connect
      = ⟨specs.map fun spec => spec.connectionAddress, .ok (specs.foldl Registry.add empty)⟩ := by
  rcases buildEach_outcome connect hspecs with ⟨-, hbuilt⟩ | ⟨_, _, _, _, hstops, -⟩
  · exact hbuilt
  · exact absurd h hstops.not_allPass

/-- A registry that has been built holds the entries of a specification all of which pass. -/
theorem of_buildEach_ok (h : (buildEach specs connect).result = .ok r) :
    specs ≠ [] ∧ AllPass connect specs ∧ r = specs.foldl Registry.add empty := by
  have hspecs : specs ≠ [] := by
    rintro rfl
    cases h
  rcases buildEach_outcome connect hspecs with ⟨hall, hbuilt⟩ | ⟨_, _, _, _, -, hbuilt⟩
  · rw [hbuilt] at h
    exact ⟨hspecs, hall, (Except.ok.inj h).symm⟩
  · rw [hbuilt] at h
    cases h

/-- What comes of a construction, said of the specification. -/
structure Judged (connect : Nat → Connector) (specs : List ServiceSpec) (built : Construction) :
    Prop where
  accepted : (∃ r, built.result = .ok r) ↔ Acceptable connect specs
  connected : ∀ r, built.result = .ok r →
    built.attempted = specs.map fun spec => spec.connectionAddress
  /-- The construction ends at the first entry that does not pass, and there with the first check. All
  entries before it have been connected; it has been connected itself if this is what has failed. -/
  refused : ∀ e, built.result = .error e →
    specs = [] ∧ e = .emptySpecFile ∧ built.attempted = [] ∨
    ∃ earlier spec check, StopsAt connect specs earlier spec check e ∧
      built.attempted = (earlier.map fun spec => spec.connectionAddress)
        ++ if check = .connection then [spec.connectionAddress] else []

/-- **Specifications are accepted if they are acceptable, and refused with their first flaw.** This is
so whatever the connector, even if it answers otherwise from entry to entry. -/
theorem buildEach_judged (specs : List ServiceSpec) (connect : Nat → Connector) :
    Judged connect specs (buildEach specs connect) := by
  by_cases hspecs : specs = []
  · subst hspecs
    exact ⟨⟨nofun, fun h => absurd rfl h.nonempty⟩, nofun,
      fun e he => .inl ⟨rfl, (Except.error.inj he).symm, rfl⟩⟩
  rcases buildEach_outcome connect hspecs with
    ⟨hall, hbuilt⟩ | ⟨earlier, spec, check, e, hstops, hbuilt⟩
  · -- either all pass, and then the list is acceptable, or the first that does not is the reason
    obtain ⟨hcomplete, hdistinct, hconnected⟩ := allPass_iff.1 hall
    rw [hbuilt]
    exact ⟨⟨fun _ => ⟨hspecs, hcomplete, hdistinct, hconnected⟩, fun _ => ⟨_, rfl⟩⟩, fun _ _ => rfl,
      nofun⟩
  · rw [hbuilt]
    refine ⟨⟨nofun, fun h => ?_⟩, nofun, fun e' he => .inr ⟨earlier, spec, check, ?_, rfl⟩⟩
    · exact absurd (allPass_iff.2 ⟨h.complete, h.distinct, h.connected⟩) hstops.not_allPass
    · exact Except.error.inj he ▸ hstops

end Specifications

end Registry

end VolumeBroker
