import Mathlib.Data.List.Induction
import VolumeBroker.Proofs.Json.Canonical
import VolumeBroker.Proofs.Session.Durability
/-!
# Ids keep their records

An id that stays in use keeps what it stands for. A provision may put a new record under an id that
is taken, but only one with the service, plan, organization and space of the old one; a bind may put
a binding again, but only one that is the same in everything (`BindingRecord.same`). The check and
the write are one change, so no other call comes between them, however long the request has been
under way: `Change.onInstance` and `Change.onBinding` say what a change can do to the record of one
id, and everything else follows from these two.

`Session.run_stable` states it for whole sessions. While an id stays present, its record stays the
same up to the fingerprint, or altogether (`Stable.instances`, `Stable.bindings`). Of provisions that
race for an id which nobody takes away, the first one to commit decides: a later one commits a record
of the same identity, or it is refused and leaves the records alone (`Stable.races`).
-/

namespace VolumeBroker

/-! ### Records that agree -/

namespace InstanceRecord

theorem sameIdentity_refl (a : InstanceRecord) : a.sameIdentity a = true :=
  sameIdentity_iff.2 ⟨rfl, rfl, rfl, rfl⟩

theorem sameIdentity_trans {a b c : InstanceRecord} (hab : a.sameIdentity b = true)
    (hbc : b.sameIdentity c = true) : a.sameIdentity c = true := by
  obtain ⟨hservice, hplan, horganization, hspace⟩ := sameIdentity_iff.1 hab
  obtain ⟨hservice', hplan', horganization', hspace'⟩ := sameIdentity_iff.1 hbc
  exact sameIdentity_iff.2 ⟨hservice.trans hservice', hplan.trans hplan',
    horganization.trans horganization', hspace.trans hspace'⟩

theorem sameIdentity_symm {a b : InstanceRecord} (h : a.sameIdentity b = true) :
    b.sameIdentity a = true := by
  obtain ⟨hservice, hplan, horganization, hspace⟩ := sameIdentity_iff.1 h
  exact sameIdentity_iff.2 ⟨hservice.symm, hplan.symm, horganization.symm, hspace.symm⟩

end InstanceRecord

namespace BindingRecord

theorem sameParameters_refl (p : Option Json) : sameParameters p p = true := by
  cases p with
  | none => rfl
  | some value => exact value.same_refl

theorem sameParameters_trans {p q t : Option Json} (hpq : sameParameters p q = true)
    (hqt : sameParameters q t = true) : sameParameters p t = true := by
  cases p with
  | none =>
    cases q with
    | none => exact hqt
    | some b => cases hpq
  | some a =>
    cases q with
    | none => cases hpq
    | some b =>
      cases t with
      | none => cases hqt
      | some c => exact Json.same_trans hpq hqt

theorem same_iff {a b : BindingRecord} :
    a.same b = true ↔ a.serviceId = b.serviceId ∧ a.planId = b.planId ∧ a.appGuid = b.appGuid ∧
      a.bindResource = b.bindResource ∧ sameParameters a.parameters b.parameters = true := by
  simp only [same, Bool.and_eq_true, beq_iff_eq, and_assoc]

theorem same_refl (a : BindingRecord) : a.same a = true :=
  same_iff.2 ⟨rfl, rfl, rfl, rfl, sameParameters_refl a.parameters⟩

theorem same_trans {a b c : BindingRecord} (hab : a.same b = true) (hbc : b.same c = true) :
    a.same c = true := by
  obtain ⟨hservice, hplan, happ, hresource, hparameters⟩ := same_iff.1 hab
  obtain ⟨hservice', hplan', happ', hresource', hparameters'⟩ := same_iff.1 hbc
  exact same_iff.2 ⟨hservice.trans hservice', hplan.trans hplan', happ.trans happ',
    hresource.trans hresource', sameParameters_trans hparameters hparameters'⟩

end BindingRecord

/-! ### What a change does to one id -/

namespace Change

/-- What a change does to the instance of an id: nothing, or it puts a record that describes the same
instance as the one before, or it removes the record. -/
inductive OnInstance (c : Change) (id : String) (old new : Option InstanceRecord) : Prop where
  | kept (h : new = old)
  | put (record : InstanceRecord) (change : c = .putInstance id record) (h : new = some record)
      (same : ∀ existing, old = some existing → existing.sameIdentity record = true)
  | removed (change : c = .removeInstance id) (h : new = none)

/-- What a change does to the binding of an id: nothing, or it puts a record that is the same as the
one before, or it removes the record. -/
inductive OnBinding (c : Change) (id : String) (old new : Option BindingRecord) : Prop where
  | kept (h : new = old)
  | put (instanceId : String) (details : BindDetails)
      (change : c = .putBinding instanceId id details) (h : new = some details.toRecord)
      (same : ∀ existing, old = some existing → existing.same details.toRecord = true)
  | removed (instanceId : String) (change : c = .removeBinding instanceId id) (h : new = none)

variable (r : Registry) {records : RecordSet}

/-- A provision under an id that is free. -/
theorem apply_putInstance_of_free {id : String} (h : records.instances.get? id = none)
    (record : InstanceRecord) :
    (putInstance id record).apply r records
      = (records.putInstance id record, .ok (.provisioned .finished)) := by
  simp only [apply, h]

/-- A provision under an id that is taken. -/
theorem apply_putInstance_of_taken {id : String} {existing : InstanceRecord}
    (h : records.instances.get? id = some existing) (record : InstanceRecord) :
    (putInstance id record).apply r records
      = if existing.sameIdentity record = true then
          (records.putInstance id record, .ok (.provisioned .finished))
        else (records, .error (.instanceAlreadyExists id)) := by
  simp only [apply, h, InstanceRecord.sameIdentity_iff]

/-- **What a change does to one instance.** -/
theorem onInstance (records : RecordSet) (c : Change) (id : String) :
    c.OnInstance id (records.instances.get? id) ((c.apply r records).1.instances.get? id) := by
  cases c with
  | putInstance id' record =>
    have hput : (records.putInstance id' record).instances.get? id
        = if id = id' then some record else records.instances.get? id := Dict.get?_insert ..
    cases htaken : records.instances.get? id' with
    | none =>
      -- the id was free, so nothing has to agree
      simp only [apply, htaken, hput]
      by_cases hid : id = id'
      · subst hid
        rw [if_pos rfl]
        exact .put record rfl rfl fun existing hexisting => by rw [htaken] at hexisting; cases hexisting
      · rw [if_neg hid]
        exact .kept rfl
    | some existing =>
      rw [apply_putInstance_of_taken r htaken]
      split
      · next hsame =>
        dsimp only
        rw [hput]
        by_cases hid : id = id'
        · subst hid
          rw [if_pos rfl, htaken]
          exact .put record rfl rfl fun _ hexisting => Option.some.inj hexisting ▸ hsame
        · rw [if_neg hid]
          exact .kept rfl
      · exact .kept rfl
  | removeInstance id' =>
    have herase : (records.removeInstance id').instances.get? id
        = if id = id' then none else records.instances.get? id := Dict.get?_erase ..
    simp only [apply]
    split
    · dsimp only
      rw [herase]
      by_cases hid : id = id'
      · subst hid
        rw [if_pos rfl]
        exact .removed rfl rfl
      · rw [if_neg hid]
        exact .kept rfl
    · exact .kept rfl
  -- the inner changes leave all instances alone
  | putBinding instanceId bindingId details =>
    simp only [apply]
    split
    · exact .kept rfl
    · exact .kept rfl
  | removeBinding instanceId bindingId =>
    simp only [apply]
    split
    · exact .kept rfl
    · exact .kept rfl
    · exact .kept rfl

/-- **What a change does to one binding.** -/
theorem onBinding (records : RecordSet) (c : Change) (id : String) :
    c.OnBinding id (records.bindings.get? id) ((c.apply r records).1.bindings.get? id) := by
  -- the changes of an instance leave all bindings alone
  cases c with
  | putInstance id' record =>
    simp only [apply]
    split
    · exact .kept rfl
    · split
      · exact .kept rfl
      · exact .kept rfl
  | removeInstance id' =>
    simp only [apply]
    split
    · exact .kept rfl
    · exact .kept rfl
  | putBinding instanceId bindingId details =>
    have hput : (records.putBinding bindingId details.toRecord).bindings.get? id
        = if id = bindingId then some details.toRecord else records.bindings.get? id :=
      Dict.get?_insert ..
    simp only [apply]
    split
    · next binding hbinding =>
      dsimp only
      rw [hput]
      by_cases hid : id = bindingId
      · subst hid
        rw [if_pos rfl]
        -- the bind has looked for another binding under the id
        obtain ⟨_, _, _, _, _, _, -, -, hsame, -⟩ := exists_of_bindingFor hbinding
        exact .put instanceId details rfl rfl hsame
      · rw [if_neg hid]
        exact .kept rfl
    · exact .kept rfl
  | removeBinding instanceId bindingId =>
    have herase : (records.removeBinding bindingId).bindings.get? id
        = if id = bindingId then none else records.bindings.get? id := Dict.get?_erase ..
    simp only [apply]
    split
    · dsimp only
      rw [herase]
      by_cases hid : id = bindingId
      · subst hid
        rw [if_pos rfl]
        exact .removed instanceId rfl rfl
      · rw [if_neg hid]
        exact .kept rfl
    · exact .kept rfl
    · exact .kept rfl

/-- An instance that is there before and behind a change keeps its identity. -/
theorem sameIdentity_of_apply {c : Change} {id : String} {a b : InstanceRecord}
    (ha : records.instances.get? id = some a)
    (hb : (c.apply r records).1.instances.get? id = some b) : a.sameIdentity b = true := by
  cases onInstance r records c id with
  | kept h =>
    rw [hb, ha] at h
    exact Option.some.inj h ▸ b.sameIdentity_refl
  | put record _ h same =>
    rw [hb] at h
    exact Option.some.inj h ▸ same a ha
  | removed _ h =>
    rw [hb] at h
    cases h

/-- A binding that is there before and behind a change stays the same. -/
theorem same_of_apply {c : Change} {id : String} {a b : BindingRecord}
    (ha : records.bindings.get? id = some a)
    (hb : (c.apply r records).1.bindings.get? id = some b) : a.same b = true := by
  cases onBinding r records c id with
  | kept h =>
    rw [hb, ha] at h
    exact Option.some.inj h ▸ b.same_refl
  | put _ details _ h same =>
    rw [hb] at h
    exact Option.some.inj h ▸ same a ha
  | removed _ _ h =>
    rw [hb] at h
    cases h

/-- Changes that put nothing under an id do not bring it into use. -/
theorem replay_absent {id : String} {changes : List Change}
    (hnone : ∀ record, Change.putInstance id record ∉ changes) :
    ∀ {records : RecordSet}, records.instances.get? id = none →
      (replay r records changes).instances.get? id = none := by
  induction changes with
  | nil => exact fun habsent => habsent
  | cons c rest ih =>
    intro records habsent
    refine ih (fun record hmem => hnone record (List.mem_cons_of_mem c hmem)) ?_
    cases onInstance r records c id with
    | kept h => exact h.trans habsent
    | put record change => exact absurd (change ▸ List.mem_cons_self) (hnone record)
    | removed _ h => exact h

/-- Changes that do not take an id away keep what it stands for. -/
theorem replay_present {id : String} {changes : List Change}
    (hnone : Change.removeInstance id ∉ changes) :
    ∀ {records : RecordSet} {first : InstanceRecord}, records.instances.get? id = some first →
      ∃ current, (replay r records changes).instances.get? id = some current ∧
        first.sameIdentity current = true := by
  induction changes with
  | nil => exact fun {_ first} hfirst => ⟨first, hfirst, first.sameIdentity_refl⟩
  | cons c rest ih =>
    intro records first hfirst
    have hrest : Change.removeInstance id ∉ rest := fun hmem => hnone (List.mem_cons_of_mem c hmem)
    -- behind the first change the id is still taken
    have hnext : ∃ next, (c.apply r records).1.instances.get? id = some next := by
      cases onInstance r records c id with
      | kept h => exact ⟨first, h.trans hfirst⟩
      | put record _ h => exact ⟨record, h⟩
      | removed change => exact absurd (change ▸ List.mem_cons_self) hnone
    obtain ⟨next, hnext⟩ := hnext
    obtain ⟨current, hcurrent, hsame⟩ := ih hrest hnext
    exact ⟨current, hcurrent, InstanceRecord.sameIdentity_trans (sameIdentity_of_apply r hfirst hnext) hsame⟩

end Change

/-! ### While an id stays present -/

namespace Session

/-- The records satisfy a condition now and behind each of some events. -/
def Throughout (s : Session) (events : List Event) (P : RecordSet → Prop) : Prop :=
  ∀ earlier, earlier <+: events → P (s.run earlier).broker.store.records

theorem Throughout.of_concat {s : Session} {events : List Event} {event : Event}
    {P : RecordSet → Prop} (h : s.Throughout (events ++ [event]) P) :
    s.Throughout events P ∧ P ((s.run events).handle event).broker.store.records := by
  refine ⟨fun earlier hearlier => h earlier (hearlier.trans (List.prefix_append _ _)), ?_⟩
  rw [← run_concat]
  exact h _ List.prefix_rfl

section Related

variable {α : Type} (get : RecordSet → Option α) (R : α → α → Prop) {s : Session}

/-- What a change keeps of an entry as long as it is there, events keep as well. -/
theorem related_of_throughout (refl : ∀ a, R a a) (trans : ∀ a b c, R a b → R b c → R a c)
    (step : ∀ (r : Registry) (records : RecordSet) (c : Change) (a b : α), get records = some a →
      get (c.apply r records).1 = some b → R a b)
    (hs : s.Sound) {first : α} (hfirst : get s.broker.store.records = some first)
    (events : List Event) (hpresent : s.Throughout events fun records => (get records).isSome = true) :
    ∃ current, get (s.run events).broker.store.records = some current ∧ R first current := by
  induction events using List.reverseRecOn with
  | nil => exact ⟨first, hfirst, refl first⟩
  | append_singleton events event ih =>
    obtain ⟨hpresent, hlast⟩ := hpresent.of_concat
    obtain ⟨before, hbefore, hrelated⟩ := ih hpresent
    obtain ⟨current, hcurrent⟩ := Option.isSome_iff_exists.1 hlast
    rw [run_concat]
    refine ⟨current, hcurrent, ?_⟩
    rcases handle_sections (hs.run events) event with hrests | ⟨c, hcommits⟩
    · -- the event has left the records alone
      rw [hrests.records, hbefore] at hcurrent
      exact Option.some.inj hcurrent ▸ hrelated
    · rw [hcommits.records] at hcurrent
      exact trans _ _ _ hrelated (step _ _ c _ _ hbefore hcurrent)

end Related

/-! ### Provisions that race -/

/-- What comes of a provision that commits under an id which a record holds already. -/
inductive Raced (id : String) (first record : InstanceRecord) (records : RecordSet) (turn : Turn) :
    Prop where
  /-- It is the same instance to the caller, and its record is put. -/
  | joins (same : first.sameIdentity record = true)
      (stored : turn.records.instances.get? id = some record)
  /-- It is another instance, and its record is refused. -/
  | refused (differs : first.sameIdentity record = false)
      (answer : turn.progress = .finished (.error (.instanceAlreadyExists id)))
      (untouched : turn.records = records)

variable {r : Registry} {initial : RecordSet} {s : Session} {before after : List Turn} {turn : Turn}

/-- A history in which nobody deprovisions an id has no change that takes it away. -/
theorem Serialized.not_removed (h : s.Serialized r initial) {id : String}
    (hnone : ∀ turn ∈ s.history, ∀ details, turn.operation ≠ .deprovision id details) :
    Change.removeInstance id ∉ Turn.changes s.history := by
  intro hmem
  obtain ⟨turn, hturn, hchange⟩ := List.mem_filterMap.1 hmem
  obtain ⟨before, after, hsplit⟩ := List.append_of_mem hturn
  obtain ⟨hof, -⟩ := h.explained hsplit hchange
  -- only a deprovision asks for the removal of an instance
  obtain ⟨details, -, -, hoperation, -⟩ := hof.of_removeInstance
  exact hnone turn hturn details hoperation

/-- The answer of a change that is refused is the answer of its call, saved or not. -/
theorem Serialized.refused (h : s.Serialized r initial) (hsplit : s.history = before ++ turn :: after)
    {c : Change} (hchange : turn.change = some c) {e : BrokerError}
    (hanswer : (c.apply r (Change.replay r initial (Turn.changes before))).2 = .error e) :
    turn.progress = .finished (.error e) := by
  obtain ⟨-, -, saved, result, -, hend, hsettles⟩ := h.explained hsplit hchange
  rw [hanswer] at hsettles
  cases hsettles with
  | refused => exact hend

/-- The first provision to commit under a free id puts its record, and decides about all others. -/
theorem Serialized.races (h : s.Serialized r initial) {id : String}
    (habsent : initial.instances.get? id = none)
    (hnone : ∀ turn ∈ s.history, ∀ details, turn.operation ≠ .deprovision id details)
    {first : Turn} {record : InstanceRecord} (hsplit : s.history = before ++ first :: after)
    (hfirst : first.change = some (.putInstance id record))
    (hbefore : ∀ earlier ∈ before, ∀ record, earlier.change ≠ some (.putInstance id record)) :
    first.records.instances.get? id = some record ∧
      ∀ middle turn rest record', after = middle ++ turn :: rest →
        turn.change = some (.putInstance id record') →
          Raced id record record' (Change.replay r initial (Turn.changes (before ++ first :: middle)))
            turn := by
  have hkept := h.not_removed hnone
  -- nothing has been put under the id before, so the first one has found it free
  have hfree : (Change.replay r initial (Turn.changes before)).instances.get? id = none := by
    refine Change.replay_absent r (fun record hmem => ?_) habsent
    obtain ⟨turn, hturn, hchange⟩ := List.mem_filterMap.1 hmem
    exact hbefore turn hturn record hchange
  have hstored : first.records.instances.get? id = some record := by
    obtain ⟨-, hrecords, -⟩ := h.explained hsplit hfirst
    rw [hrecords, Change.apply_putInstance_of_free r hfree]
    exact Dict.get?_insert_self ..
  refine ⟨hstored, ?_⟩
  rintro middle turn rest record' rfl hchange
  have hsplit' : s.history = (before ++ first :: middle) ++ turn :: rest := by
    rw [hsplit, List.append_assoc, List.cons_append]
  -- since the first one has committed, the id has stood for one instance
  obtain ⟨existing, hexisting, hsame⟩ : ∃ existing,
      (Change.replay r initial (Turn.changes (before ++ first :: middle))).instances.get? id
        = some existing ∧ record.sameIdentity existing = true := by
    rw [h.replay_behind hsplit middle]
    refine Change.replay_present r (fun hmem => hkept ?_) hstored
    rw [hsplit', Turn.changes_append, Turn.changes_append, Turn.changes_cons]
    simp only [List.mem_append, hmem, or_true, true_or]
  obtain ⟨-, hrecords, -⟩ := h.explained hsplit' hchange
  have happly := Change.apply_putInstance_of_taken r hexisting record'
  by_cases hmatch : existing.sameIdentity record' = true
  · rw [if_pos hmatch] at happly
    refine .joins (InstanceRecord.sameIdentity_trans hsame hmatch) ?_
    rw [hrecords, happly]
    exact Dict.get?_insert_self ..
  · rw [if_neg hmatch] at happly
    refine .refused ?_ (h.refused hsplit' hchange (by rw [happly])) (by rw [hrecords, happly])
    -- a record that agreed with the first one would agree with the one found
    rw [Bool.eq_false_iff]
    exact fun hsame' => hmatch <|
      InstanceRecord.sameIdentity_trans (InstanceRecord.sameIdentity_symm hsame) hsame'

/-! ### Every session -/

/-- **Ids keep their records.** What every session that began on some records satisfies, whatever
events come next. -/
structure Stable (r : Registry) (initial : RecordSet) (s : Session) : Prop where
  /-- As long as an instance stays present its service, plan, organization and space stay. -/
  instances : ∀ id first events, s.broker.store.records.instances.get? id = some first →
    (s.Throughout events fun records => records.instances.contains id = true) →
      ∃ current, (s.run events).broker.store.records.instances.get? id = some current ∧
        current.serviceId = first.serviceId ∧ current.planId = first.planId ∧
        current.organizationGuid = first.organizationGuid ∧ current.spaceGuid = first.spaceGuid
  /-- As long as a binding stays present its record stays the same. -/
  bindings : ∀ id first events, s.broker.store.records.bindings.get? id = some first →
    (s.Throughout events fun records => records.bindings.contains id = true) →
      ∃ current, (s.run events).broker.store.records.bindings.get? id = some current ∧
        first.same current = true
  /-- Of provisions that race for a free id which nobody takes away, the first one to commit puts its
  record, and every later one joins it or is refused. -/
  races : ∀ id, initial.instances.get? id = none →
    (∀ turn ∈ s.history, ∀ details, turn.operation ≠ .deprovision id details) →
    ∀ before first after record, s.history = before ++ first :: after →
      first.change = some (.putInstance id record) →
      (∀ earlier ∈ before, ∀ record, earlier.change ≠ some (.putInstance id record)) →
        first.records.instances.get? id = some record ∧
          ∀ middle turn rest record', after = middle ++ turn :: rest →
            turn.change = some (.putInstance id record') →
              Raced id record record'
                (Change.replay r initial (Turn.changes (before ++ first :: middle))) turn

/-- **Stability of ids.** Whatever calls come in, whatever the plugin answers them and in whatever
order their steps are taken: an id that stays in use keeps what it stands for. -/
theorem run_stable (registry : Registry) (gate : ProbeGate) (medium : Medium) (records : RecordSet)
    (files : FileSystem) (events : List Event) :
    ((opened ⟨registry, gate, ⟨medium, records, .none⟩⟩ files).run events).Stable
      registry records := by
  have hregular := (Regular.of_registry registry gate medium records files).run events
  refine ⟨?_, ?_, ?_⟩
  · intro id first later hfirst hpresent
    obtain ⟨current, hcurrent, hsame⟩ :=
      related_of_throughout (fun records => records.instances.get? id)
        (fun a b => a.sameIdentity b = true)
        InstanceRecord.sameIdentity_refl (fun _ _ _ => InstanceRecord.sameIdentity_trans)
        (fun r _ _ _ _ => Change.sameIdentity_of_apply r) hregular.sound hfirst later hpresent
    exact ⟨current, hcurrent, InstanceRecord.sameIdentity_iff.1 (InstanceRecord.sameIdentity_symm hsame)⟩
  · intro id first later hfirst hpresent
    exact related_of_throughout (fun records => records.bindings.get? id)
      (fun a b => a.same b = true)
      BindingRecord.same_refl (fun _ _ _ => BindingRecord.same_trans)
      (fun r _ _ _ _ => Change.same_of_apply r) hregular.sound hfirst later hpresent
  · intro id habsent hnone before first after record hsplit hfirst hbefore
    exact hregular.serialized.races habsent hnone hsplit hfirst hbefore

end Session

end VolumeBroker
