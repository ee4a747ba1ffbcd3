import VolumeBroker.Proofs.Session.Ledger
import VolumeBroker.Proofs.Session.Serving
import VolumeBroker.Proofs.Session.Saving
/-!
# Volumes and the records that name them

Each volume that a plugin holds ought to be named by the record of an instance, and each record ought to
name one of them. The broker asks for a volume before it looks at the record under the id, and it does
not look at the volumes of other instances, so whether they do depends on the calls.

`Session.run_accounted` keeps the accounts of calls that do not overlap. A volume is held without a
record only if a provision has left it behind, one that was refused or one that put the record of
another volume in place of its own (`Turn.Strands`). A record names a volume that is gone only if
another instance with the same volume has been deprovisioned (`Turn.Spoils`). Provisions that avoid
both, in front of a plugin that tells volumes apart by their names, keep volumes and records in exact
correspondence (`Balanced`).

`VolumeRuns` has a run that is in order, and one for each of the three ways to lose the correspondence.
-/

namespace VolumeBroker

/-! ### Who is to blame -/

namespace Turn

/-- At some turn something has happened, and since then something has held behind each turn. -/
def Since (P : List Turn → Turn → Prop) (Q : Turn → Prop) (history : List Turn) : Prop :=
  ∃ before turn after, history = before ++ turn :: after ∧ P before turn ∧ ∀ later ∈ turn :: after, Q later

section Since

variable {P : List Turn → Turn → Prop} {Q : Turn → Prop} {history : List Turn} {turn : Turn}

theorem Since.concat (h : Since P Q history) (hturn : Q turn) : Since P Q (history ++ [turn]) := by
  obtain ⟨before, first, after, rfl, hfirst, hafter⟩ := h
  refine ⟨before, first, after ++ [turn], ?_, hfirst, ?_⟩
  · rw [List.append_assoc, List.cons_append]
  · intro later hlater
    rw [← List.cons_append, List.mem_append, List.mem_singleton] at hlater
    rcases hlater with hlater | rfl
    · exact hafter later hlater
    · exact hturn

theorem Since.last (h : P history turn) (hturn : Q turn) : Since P Q (history ++ [turn]) := by
  refine ⟨history, turn, [], rfl, h, ?_⟩
  intro later hlater
  rwa [List.mem_singleton.1 hlater]

end Since

/-- A turn leaves a volume behind that no record names. -/
inductive Strands (records : RecordSet) (turn : Turn) (volumeId : String) : Prop where
  /-- The volume was made for a provision that has been refused. -/
  | refused {id name : String} (created : turn.created? = some (name, volumeId))
      (answer : turn.progress = .finished (.error (.instanceAlreadyExists id)))
  /-- A provision of the same instance with another volume has replaced the record of the volume. -/
  | replaced {id : String} {old record : InstanceRecord}
      (found : records.instances.get? id = some old) (carries : old.Carries volumeId)
      (change : turn.change = some (.putInstance id record)) (same : old.sameIdentity record = true)
      (other : ¬ record.Carries volumeId)

/-- A turn deletes the volume of an instance for another instance that has it too. -/
inductive Spoils (records : RecordSet) (turn : Turn) (id volumeId : String) : Prop where
  | shared {other : String} {details : DeprovisionDetails} {record own : InstanceRecord}
      (differs : other ≠ id) (operation : turn.operation = .deprovision other details)
      (deleted : turn.deleted? = some volumeId)
      (found : records.instances.get? other = some record) (carries : record.Carries volumeId)
      (kept : records.instances.get? id = some own) (shares : own.Carries volumeId)

end Turn

namespace Session

variable {r : Registry} {initial : RecordSet} {s s' : Session} {turn : Turn}

/-- Every volume that is held without a record has been left behind by a turn, and has been without a
record since. -/
def StraysTraced (r : Registry) (initial : RecordSet) (s : Session) : Prop :=
  ∀ volumeId, Turn.Holds s.history volumeId → ¬ s.broker.store.records.Claims volumeId →
    Turn.Since
      (fun before turn => turn.Strands (Change.replay r initial (Turn.changes before)) volumeId)
      (fun later => ¬ later.records.Claims volumeId) s.history

/-- Every record of a volume that is not held has lost it to another instance, and has been there
since. -/
def LossesTraced (r : Registry) (initial : RecordSet) (s : Session) : Prop :=
  ∀ id record volumeId, s.broker.store.records.instances.get? id = some record →
    record.Carries volumeId → ¬ Turn.Holds s.history volumeId →
      Turn.Since
        (fun before turn => turn.Spoils (Change.replay r initial (Turn.changes before)) id volumeId)
        (fun later => ∃ record, later.records.instances.get? id = some record ∧
          record.Carries volumeId) s.history

/-- A volume that comes to be held without a record is left behind by the turn. -/
theorem StraysTraced.take (h : s.StraysTraced r initial) (hs : s.Solo r initial)
    (htakes : s.Takes s' turn) : s'.StraysTraced r initial := by
  intro volumeId hheld hfree
  rw [htakes.history] at hheld ⊢
  obtain ⟨hheld, hkept⟩ := Turn.holds_concat.1 hheld
  have hturn : ¬ turn.records.Claims volumeId := htakes.records ▸ hfree
  have hrecords := hs.exchanging.regular.serialized.records
  -- what was without a record before the turn is so behind it
  have hbefore : Turn.Holds s.history volumeId → ¬ s.broker.store.records.Claims volumeId →
      Turn.Since
        (fun before turn => turn.Strands (Change.replay r initial (Turn.changes before)) volumeId)
        (fun later => ¬ later.records.Claims volumeId) (s.history ++ [turn]) :=
    fun hheld hclaims => (h volumeId hheld hclaims).concat hturn
  cases htakes.books hs with
  | rests created _ instances =>
    rcases hheld with ⟨name, hcreated⟩ | hheld
    · exact nomatch created.symm.trans hcreated
    · refine hbefore hheld ?_
      rwa [RecordSet.Claims, ← instances]
  | @stores id record entry created _ describes change same instances =>
    rcases hheld with ⟨name, hcreated⟩ | hheld
    · -- the new volume is named by the record that has been put
      obtain rfl : entry = (name, volumeId) := Option.some.inj (created.symm.trans hcreated)
      exact absurd ⟨id, record, by rw [instances, Dict.get?_insert_self], describes.carries⟩ hfree
    by_cases hclaims : s.broker.store.records.Claims volumeId
    · obtain ⟨other, old, hold, hcarries⟩ := hclaims
      by_cases hid : other = id
      · -- the record that named the volume has been replaced by one that does not
        subst hid
        refine .last (.replaced (hrecords ▸ hold) hcarries change (same old hold) ?_) hturn
        intro hagain
        exact hfree ⟨other, record, by rw [instances, Dict.get?_insert_self], hagain⟩
      · -- the record of another instance is still there
        refine absurd ⟨other, old, ?_, hcarries⟩ hfree
        rw [instances, Dict.get?_insert, if_neg hid]
        exact hold
    · exact hbefore hheld hclaims
  | refuses created _ _ _ _ _ answer instances =>
    rcases hheld with ⟨name, hcreated⟩ | hheld
    · exact .last (.refused hcreated answer) hturn
    · refine hbefore hheld ?_
      rwa [RecordSet.Claims, ← instances]
  | @removes id deleted record _ created hdeleted _ found carries instances =>
    rcases hheld with ⟨name, hcreated⟩ | hheld
    · exact nomatch created.symm.trans hcreated
    refine hbefore hheld ?_
    -- the record that has gone was that of the volume which has been deleted
    rintro ⟨other, old, hold, hcarries⟩
    by_cases hid : other = id
    · -- and this volume has not been deleted
      subst hid
      obtain rfl : old = record := Option.some.inj (hold.symm.trans found)
      exact hkept (hcarries.unique carries ▸ hdeleted)
    · refine hfree ⟨other, old, ?_, hcarries⟩
      rw [instances, Dict.get?_erase, if_neg hid]
      exact hold

/-- A record whose volume goes has lost it to another instance at the turn. -/
theorem LossesTraced.take (h : s.LossesTraced r initial) (hs : s.Solo r initial)
    (htakes : s.Takes s' turn) : s'.LossesTraced r initial := by
  intro id record volumeId hrecord hcarries hgone
  rw [htakes.history] at hgone ⊢
  have hturn : ∃ record, turn.records.instances.get? id = some record ∧ record.Carries volumeId :=
    ⟨record, htakes.records ▸ hrecord, hcarries⟩
  have hrecords := hs.exchanging.regular.serialized.records
  -- what was gone before the turn is so behind it
  have hbefore : s.broker.store.records.instances.get? id = some record →
      ¬ Turn.Holds s.history volumeId →
        Turn.Since
          (fun before turn => turn.Spoils (Change.replay r initial (Turn.changes before)) id volumeId)
          (fun later => ∃ record, later.records.instances.get? id = some record ∧
            record.Carries volumeId) (s.history ++ [turn]) :=
    fun hold hgone => (h id record volumeId hold hcarries hgone).concat hturn
  cases htakes.books hs with
  | rests _ deleted instances =>
    refine hbefore (instances ▸ hrecord) fun hheld => hgone (Turn.holds_concat.2 ⟨.inr hheld, ?_⟩)
    rw [deleted]
    nofun
  | @stores id' record' entry created deleted describes _ _ instances =>
    have hkept : turn.deleted? ≠ some volumeId := by
      rw [deleted]
      nofun
    rw [instances, Dict.get?_insert] at hrecord
    split at hrecord
    · -- the volume of the new record has just been made
      obtain rfl : record' = record := Option.some.inj hrecord
      obtain rfl : entry.2 = volumeId := describes.carries.unique hcarries
      exact absurd (Turn.holds_concat.2 ⟨.inl ⟨entry.1, created⟩, hkept⟩) hgone
    · -- the records of all other instances stay
      exact hbefore hrecord fun hheld => hgone (Turn.holds_concat.2 ⟨.inr hheld, hkept⟩)
  | refuses _ deleted _ _ _ _ _ instances =>
    refine hbefore (instances ▸ hrecord) fun hheld => hgone (Turn.holds_concat.2 ⟨.inr hheld, ?_⟩)
    rw [deleted]
    nofun
  | @removes other deleted old _ _ hdeleted operation found carries instances =>
    rw [instances, Dict.get?_erase] at hrecord
    split at hrecord
    · -- a record that has been removed names nothing
      cases hrecord
    next hid =>
    by_cases hheld : Turn.Holds s.history volumeId
    · -- it was held until this turn, so it is the one that has been deleted
      have hsame : turn.deleted? = some volumeId := by
        by_contra hkept
        exact hgone (Turn.holds_concat.2 ⟨.inr hheld, hkept⟩)
      obtain rfl : deleted = volumeId := Option.some.inj (hdeleted.symm.trans hsame)
      exact .last (.shared (Ne.symm hid) operation hsame (hrecords ▸ found) carries
        (hrecords ▸ hrecord) hcarries) hturn
    · exact hbefore hrecord hheld

end Session

/-! ### Exact accounts -/

namespace Turn

/-- The plugin tells volumes apart by their names: a volume that it makes has the name of one that it
holds exactly if it is the same volume. -/
def Conforms (held : List (String × String)) (turn : Turn) : Prop :=
  ∀ entry, turn.created? = some entry → ∀ other ∈ held, other.1 = entry.1 ↔ other.2 = entry.2

/-- A provision whose volume has been made repeats what it says about an instance that is there, the
name of the volume with it, and has not asked for the volume of another instance. -/
structure Orderly (records : RecordSet) (turn : Turn) : Prop where
  repeats : ∀ id record entry old own, turn.change = some (.putInstance id record) →
    record.Describes entry → records.instances.get? id = some old → old.Describes own →
      old.sameIdentity record = true ∧ own.1 = entry.1
  apart : ∀ id record entry other old own, turn.change = some (.putInstance id record) →
    record.Describes entry → other ≠ id → records.instances.get? other = some old →
      old.Describes own → own.1 ≠ entry.1

end Turn

/-- Volumes that are held and records of instances correspond to each other exactly. -/
structure Balanced (held : List (String × String)) (records : RecordSet) : Prop where
  /-- Each volume is named by a record. -/
  recorded : ∀ entry ∈ held, ∃ id record,
    records.instances.get? id = some record ∧ record.Describes entry
  /-- Each record names a volume. -/
  backed : ∀ id record, records.instances.get? id = some record →
    ∃ entry ∈ held, record.Describes entry
  /-- No two instances have the same volume. -/
  single : ∀ id other a b entry, records.instances.get? id = some a →
    records.instances.get? other = some b → a.Describes entry → b.Describes entry → id = other
  /-- Volumes have the same name exactly if they have the same id. -/
  distinct : ∀ a ∈ held, ∀ b ∈ held, a.1 = b.1 ↔ a.2 = b.2

namespace Balanced

variable {held : List (String × String)} {records records' : RecordSet} {id : String}
  {record : InstanceRecord} {entry : String × String}

theorem empty : Balanced [] .empty where
  recorded := fun _ h => nomatch h
  backed := fun _ _ h => nomatch h
  single := fun _ _ _ _ _ h => nomatch h
  distinct := fun _ h => nomatch h

/-- A turn that does nothing about volumes and instances leaves the accounts as they are. -/
theorem rest (h : Balanced held records) (hinstances : records'.instances = records.instances)
    {turn : Turn} (hcreated : turn.created? = none) (hdeleted : turn.deleted? = none) :
    Balanced (turn.enter held) records' := by
  have hmem : ∀ entry, entry ∈ turn.enter held ↔ entry ∈ held := by
    intro entry
    rw [Turn.mem_enter, hcreated, hdeleted]
    simp
  refine ⟨?_, ?_, ?_, ?_⟩
  · intro entry hentry
    rw [hinstances]
    exact h.recorded entry ((hmem entry).1 hentry)
  · intro id record hrecord
    obtain ⟨entry, hentry, hdescribes⟩ := h.backed id record (hinstances ▸ hrecord)
    exact ⟨entry, (hmem entry).2 hentry, hdescribes⟩
  · rw [hinstances]
    exact h.single
  · intro a ha b hb
    exact h.distinct a ((hmem a).1 ha) b ((hmem b).1 hb)

/-- A volume that no other instance has is added together with its record. -/
theorem store (h : Balanced held records)
    (hinstances : records'.instances = records.instances.insert id record) {turn : Turn}
    (hcreated : turn.created? = some entry) (hdeleted : turn.deleted? = none)
    (hdescribes : record.Describes entry) (hconforms : turn.Conforms held)
    (hrepeats : ∀ old own, records.instances.get? id = some old → old.Describes own →
      own.1 = entry.1)
    (hapart : ∀ other old own, other ≠ id → records.instances.get? other = some old →
      old.Describes own → own.1 ≠ entry.1) :
    Balanced (turn.enter held) records' := by
  have hmem : ∀ other, other ∈ turn.enter held ↔ other = entry ∨ other ∈ held := by
    intro other
    rw [Turn.mem_enter, hcreated, hdeleted, Option.some_inj, eq_comm]
    simp
  have hself : records'.instances.get? id = some record := by
    rw [hinstances, Dict.get?_insert_self]
  have helse : ∀ other, other ≠ id →
      records'.instances.get? other = records.instances.get? other := by
    intro other hne
    rw [hinstances, Dict.get?_insert, if_neg hne]
  refine ⟨?_, ?_, ?_, ?_⟩
  · intro other hother
    rcases (hmem other).1 hother with rfl | hold
    · exact ⟨id, record, hself, hdescribes⟩
    obtain ⟨owner, old, hfound, hown⟩ := h.recorded other hold
    by_cases howner : owner = id
    · -- the instance has asked for the same name again, and has got the same volume
      subst howner
      have hname : other.1 = entry.1 := hrepeats old other hfound hown
      obtain rfl : other = entry := Prod.ext hname ((hconforms entry hcreated other hold).1 hname)
      exact ⟨owner, record, hself, hdescribes⟩
    · exact ⟨owner, old, (helse owner howner).trans hfound, hown⟩
  · intro other old hold
    by_cases hother : other = id
    · -- behind the new record stands the new volume
      subst hother
      obtain rfl : record = old := Option.some.inj (hself.symm.trans hold)
      exact ⟨entry, (hmem entry).2 (.inl rfl), hdescribes⟩
    · obtain ⟨own, hown, hdescribes⟩ := h.backed other old ((helse other hother).symm.trans hold)
      exact ⟨own, (hmem own).2 (.inr hown), hdescribes⟩
  · -- the instance shares its volume with no other one
    have halone : ∀ other a b own, other ≠ id → records'.instances.get? id = some a →
        records'.instances.get? other = some b → a.Describes own → ¬ b.Describes own := by
      intro other a b own hne ha hb howna hownb
      obtain rfl : record = a := Option.some.inj (hself.symm.trans ha)
      obtain rfl : own = entry := howna.unique hdescribes
      exact hapart other b own hne ((helse other hne).symm.trans hb) hownb rfl
    intro first second a b own ha hb howna hownb
    by_cases hfirst : first = id
    · by_contra hne
      exact halone second a b own (fun hsecond => hne (hfirst.trans hsecond.symm)) (hfirst ▸ ha) hb
        howna hownb
    · by_cases hsecond : second = id
      · exact absurd howna (halone first b a own hfirst (hsecond ▸ hb) ha hownb)
      · exact h.single first second a b own ((helse first hfirst).symm.trans ha)
          ((helse second hsecond).symm.trans hb) howna hownb
  · -- a new volume goes with the old ones as the plugin has told them apart
    intro a ha b hb
    rcases (hmem a).1 ha with rfl | ha <;> rcases (hmem b).1 hb with rfl | hb
    · exact ⟨fun _ => rfl, fun _ => rfl⟩
    · rw [eq_comm, @eq_comm _ a.2]
      exact hconforms a hcreated b hb
    · exact hconforms b hcreated a ha
    · exact h.distinct a ha b hb

/-- A volume is taken off together with the record of its instance. -/
theorem remove (h : Balanced held records)
    (hinstances : records'.instances = records.instances.erase id) {turn : Turn} {volumeId : String}
    (hcreated : turn.created? = none) (hdeleted : turn.deleted? = some volumeId)
    (hfound : records.instances.get? id = some record) (hcarries : record.Carries volumeId) :
    Balanced (turn.enter held) records' := by
  have hmem : ∀ entry, entry ∈ turn.enter held ↔ entry ∈ held ∧ volumeId ≠ entry.2 := by
    intro entry
    rw [Turn.mem_enter, hcreated, hdeleted]
    simp
  have helse : ∀ other, other ≠ id →
      records'.instances.get? other = records.instances.get? other := by
    intro other hne
    rw [hinstances, Dict.get?_erase, if_neg hne]
  have hne : ∀ other old, records'.instances.get? other = some old → other ≠ id := by
    rintro other old hold rfl
    rw [hinstances, Dict.get?_erase_self] at hold
    cases hold
  have hold : ∀ other old, records'.instances.get? other = some old →
      records.instances.get? other = some old :=
    fun other old hget => (helse other (hne other old hget)).symm.trans hget
  refine ⟨?_, ?_, ?_, ?_⟩
  · intro entry hentry
    obtain ⟨hentry, hkept⟩ := (hmem entry).1 hentry
    obtain ⟨owner, old, hget, hdescribes⟩ := h.recorded entry hentry
    refine ⟨owner, old, (helse owner ?_).trans hget, hdescribes⟩
    -- the instance that has gone had the volume which has been deleted
    rintro rfl
    obtain rfl : record = old := Option.some.inj (hfound.symm.trans hget)
    exact hkept (hcarries.unique hdescribes.carries)
  · intro other old hget
    obtain ⟨entry, hentry, hdescribes⟩ := h.backed other old (hold other old hget)
    refine ⟨entry, (hmem entry).2 ⟨hentry, ?_⟩, hdescribes⟩
    -- no other instance has that volume
    rintro rfl
    obtain ⟨own, hown, hdescribed⟩ := h.backed id record hfound
    have hid : own.2 = entry.2 := hdescribed.carries.unique hcarries
    obtain rfl : own = entry := Prod.ext ((h.distinct own hown entry hentry).2 hid) hid
    exact hne other old hget (h.single other id old record own (hold other old hget) hfound
      hdescribes hdescribed)
  · intro first second a b entry ha hb
    exact h.single first second a b entry (hold first a ha) (hold second b hb)
  · intro a ha b hb
    exact h.distinct a ((hmem a).1 ha).1 b ((hmem b).1 hb).1

end Balanced

namespace Session

variable {r : Registry} {initial : RecordSet} {s s' : Session} {turn : Turn}

/-- Turns that are in order keep the accounts exact. -/
theorem Takes.balanced (h : s.Takes s' turn) (hs : s.Solo r initial)
    (hbalanced : Balanced (Turn.held s.history) s.broker.store.records)
    (hconforms : turn.Conforms (Turn.held s.history))
    (horderly : turn.Orderly s.broker.store.records) :
    Balanced (Turn.held s'.history) s'.broker.store.records := by
  rw [h.history, Turn.held_concat]
  cases h.books hs with
  | rests created deleted instances => exact hbalanced.rest instances created deleted
  | stores created deleted describes change _ instances =>
    refine hbalanced.store instances created deleted describes hconforms ?_ ?_
    · exact fun old own hold hown => (horderly.repeats _ _ _ old own change describes hold hown).2
    · exact fun other old own => horderly.apart _ _ _ other old own change describes
  | @refuses id record old _ _ _ describes change taken differs =>
    -- a provision that is in order is not refused
    obtain ⟨own, -, hown⟩ := hbalanced.backed id old taken
    have hsame := (horderly.repeats _ _ _ old own change describes taken hown).1
    exact absurd (hsame.symm.trans differs) (by decide)
  | removes created deleted _ found carries instances =>
    exact hbalanced.remove instances created deleted found carries

/-- **The accounts of volumes.** -/
structure Accounted (r : Registry) (initial : RecordSet) (s : Session) : Prop where
  /-- A volume that is held is named by a record, unless a provision has left it behind. -/
  strays : s.StraysTraced r initial
  /-- A record names a volume that is held, unless another instance with the volume has been
  deprovisioned. -/
  losses : s.LossesTraced r initial
  /-- If provisions avoid both, in front of a plugin that tells volumes apart by their names, then
  volumes and records correspond to each other exactly. -/
  exact : Turn.Each (fun before turn => turn.Conforms (Turn.held before)) s.history →
    Turn.Each (fun before turn =>
      turn.Orderly (Change.replay r initial (Turn.changes before))) s.history →
      Balanced (Turn.held s.history) s.broker.store.records

theorem Accounted.of_opened (registry : Registry) (gate : ProbeGate) (medium : Medium)
    (files : FileSystem) :
    (opened ⟨registry, gate, ⟨medium, .empty, .none⟩⟩ files).Accounted registry .empty where
  strays := fun _ ⟨_, hheld⟩ => nomatch hheld
  losses := fun _ _ _ h => nomatch h
  exact := fun _ _ => .empty

/-- No event upsets the accounts. -/
theorem Accounted.handle (h : s.Accounted r initial) (hs : s.Solo r initial) (event : Event) :
    (s.handle event).Accounted r initial := by
  rcases handle_cases hs.exchanging.regular.sound event with hidle | ⟨turn, htakes⟩
  · obtain ⟨hstrays, hlosses, hexact⟩ := h
    unfold StraysTraced at hstrays
    unfold LossesTraced at hlosses
    refine ⟨?_, ?_, ?_⟩
    · unfold StraysTraced
      rwa [hidle.history, hidle.records]
    · unfold LossesTraced
      rwa [hidle.history, hidle.records]
    · rwa [hidle.history, hidle.records]
  · refine ⟨h.strays.take hs htakes, h.losses.take hs htakes, ?_⟩
    intro hconforms horderly
    rw [htakes.history] at hconforms horderly
    -- the last turn is in order for the records that it has found
    have hturn : turn.Orderly (Change.replay r initial (Turn.changes s.history)) :=
      horderly s.history turn [] rfl
    rw [← hs.exchanging.regular.serialized.records] at hturn
    exact htakes.balanced hs (h.exact hconforms.of_concat horderly.of_concat)
      (hconforms s.history turn [] rfl) hturn

/-- **Volumes are accounted for.** Whatever calls come in one after the other, whatever the plugin
answers them and whichever saves fail, on a broker that has begun without records. -/
theorem run_accounted (registry : Registry) (gate : ProbeGate) (medium : Medium) (files : FileSystem)
    (events : List Event)
    (halone : (opened ⟨registry, gate, ⟨medium, .empty, .none⟩⟩ files).OneByOne events) :
    ((opened ⟨registry, gate, ⟨medium, .empty, .none⟩⟩ files).run events).Accounted
      registry .empty := by
  have hopened : (opened ⟨registry, gate, ⟨medium, .empty, .none⟩⟩ files).Solo registry .empty :=
    ⟨⟨Regular.of_registry registry gate medium .empty files, Turn.each_nil⟩, fun _ _ _ _ h => nomatch h⟩
  induction events using List.reverseRecOn with
  | nil => exact Accounted.of_opened registry gate medium files
  | append_singleton events event ih =>
    obtain ⟨halone, -⟩ := halone.of_concat
    rw [run_concat]
    exact (ih halone).handle (hopened.run halone) event

end Session

/-! ### Small runs -/

namespace Turn

variable {history : List Turn} {entry : String × String}

/-- What is held has been made. -/
theorem exists_created (h : entry ∈ held history) : ∃ turn ∈ history, turn.created? = some entry := by
  induction history using List.reverseRecOn with
  | nil => cases h
  | append_singleton history last ih =>
    rw [held_concat] at h
    rcases (mem_enter.1 h).1 with hcreated | hold
    · exact ⟨last, List.mem_concat_self, hcreated⟩
    · obtain ⟨turn, hturn, hcreated⟩ := ih hold
      exact ⟨turn, List.mem_append_left _ hturn, hcreated⟩

/-- A plugin that gives each volume its name for an id tells volumes apart by their names. -/
theorem conforms_of_named (h : ∀ turn ∈ history, ∀ entry, turn.created? = some entry →
    entry.1 = entry.2) : Each (fun before turn => turn.Conforms (held before)) history := by
  rintro before turn after rfl entry hcreated other hother
  obtain ⟨maker, hmaker, hmade⟩ := exists_created hother
  rw [← h turn (List.mem_append_right _ List.mem_cons_self) entry hcreated,
    h maker (List.mem_append_left _ hmaker) other hmade]

theorem orderly_of_unchanged {turn : Turn} (h : turn.change = none) (records : RecordSet) :
    turn.Orderly records :=
  ⟨fun _ _ _ _ _ hchange => (nomatch h.symm.trans hchange),
    fun _ _ _ _ _ _ hchange => (nomatch h.symm.trans hchange)⟩

/-- A provision under a free id is in order if no instance has a volume of its name. -/
theorem orderly_of_free {turn : Turn} {records : RecordSet} {id : String} {record : InstanceRecord}
    (hchange : turn.change = some (.putInstance id record)) (hdescribes : record.Describes entry)
    (hfree : records.instances.get? id = none)
    (hapart : ∀ other old own, records.instances.get? other = some old → old.Describes own →
      own.1 ≠ entry.1) : turn.Orderly records := by
  refine ⟨?_, ?_⟩
  · intro other put _ old _ hput _ hold
    cases hchange.symm.trans hput
    exact nomatch hfree.symm.trans hold
  · intro other put named owner old own hput hnamed _ hold hown
    cases hchange.symm.trans hput
    obtain rfl : named = entry := hnamed.unique hdescribes
    exact hapart owner old own hold hown

end Turn

namespace Session

variable {s : Session}

/-- Each volume that is held is named by a record, and each record names a volume that is held. -/
def Accords (s : Session) : Prop :=
  (∀ volumeId, Turn.Holds s.history volumeId → s.broker.store.records.Claims volumeId) ∧
    ∀ id record, s.broker.store.records.instances.get? id = some record →
      ∃ volumeId, record.Carries volumeId ∧ Turn.Holds s.history volumeId

/-- Calls have come in and ended one after the other, all saves have succeeded, and the plugin has told
volumes apart by their names. -/
structure Faultless (start : Session) (events : List Event) : Prop where
  alone : start.OneByOne events
  still : (start.run events).Still
  saved : ∀ saved ∈ Turn.attempts (start.run events).history, saved = .ok ()
  conforms : Turn.Each (fun before turn => turn.Conforms (Turn.held before)) (start.run events).history

theorem still_of_left (h : (s.calls.all fun call => call.progress.left == 0) = true) : s.Still := by
  intro call hcall
  have hleft := List.all_eq_true.1 h call hcall
  exact Progress.finished_of_left (beq_iff_eq.1 hleft).le

end Session

namespace VolumeRuns

open Installation

/-- Nothing has happened yet. -/
def start : Session := .opened ⟨registry, .empty, ⟨.memory, .empty, .none⟩⟩ .empty

/-- An instance is provisioned. -/
def first : List Event :=
  [.arrival (.provision "i" (details "old")), .answer 0 plugin, .answer 0 plugin]

/-- The record of an instance with a volume of a name. -/
def record (name : String) : InstanceRecord := (details name).toRecord ⟨name, ⟨name, 0, .empty⟩⟩

/-- Runs are faultless here if their calls come in one after the other, all calls and saves have ended
well in the end, and each volume that has been made has its name for an id. -/
theorem faultless_of {events : List Event} (halone : start.OneByOne events)
    (hleft : ((start.run events).calls.all fun call => call.progress.left == 0) = true)
    (hsaved : ∃ n, Turn.attempts (start.run events).history = List.replicate n (.ok ()))
    (hnamed : (((start.run events).history.filterMap Turn.created?).all fun entry =>
      entry.1 == entry.2) = true) : start.Faultless events := by
  refine ⟨halone, Session.still_of_left hleft, ?_, Turn.conforms_of_named ?_⟩
  · obtain ⟨n, hattempts⟩ := hsaved
    rw [hattempts]
    exact fun saved hmem => List.eq_of_mem_replicate hmem
  · intro turn hturn entry hcreated
    have hmem := List.mem_filterMap.2 ⟨turn, hturn, hcreated⟩
    exact beq_iff_eq.1 (List.all_eq_true.1 hnamed entry hmem)

theorem oneByOne_first {later : List Event} (h : (start.run first).OneByOne later) :
    start.OneByOne (first ++ later) :=
  .cons (fun _ _ => Session.still_of_left rfl) (.cons nofun (.cons nofun h))

/-- With one instance there is one record, and one volume that a record names. -/
theorem eq_of_found {records : RecordSet} {name id : String} {found : InstanceRecord}
    (hinstances : records.instances = Dict.empty.insert "i" (record name))
    (hfound : records.instances.get? id = some found) : record name = found := by
  rw [hinstances, Dict.get?_insert] at hfound
  split at hfound
  · exact Option.some.inj hfound
  · cases hfound

theorem eq_of_claims {records : RecordSet} {name volumeId : String}
    (hinstances : records.instances = Dict.empty.insert "i" (record name))
    (h : records.Claims volumeId) : volumeId = name := by
  obtain ⟨id, found, hfound, hcarries⟩ := h
  obtain rfl := eq_of_found hinstances hfound
  exact hcarries.unique ⟨_, rfl, rfl⟩

/-! #### Provisions in order -/

/-- Another instance is provisioned with another volume. -/
def second : List Event := first ++ [.arrival (.provision "j" (details "new")), .answer 1 plugin]

theorem faultless_second : start.Faultless second := by
  refine faultless_of (oneByOne_first ?_) rfl ⟨2, rfl⟩ rfl
  exact .cons (fun _ _ => Session.still_of_left rfl) (.cons nofun (Session.oneByOne_nil _))

/-- Both provisions are of free ids, and ask for different names. -/
theorem orderly_second : Turn.Each
    (fun before turn => turn.Orderly (Change.replay registry .empty (Turn.changes before)))
    (start.run second).history := by
  intro before turn after hsplit
  cases hchange : turn.change with
  | none => exact Turn.orderly_of_unchanged hchange _
  | some c =>
    have hchanges : Turn.changes before ++ c :: Turn.changes after
        = [.putInstance "i" (record "old"), .putInstance "j" (record "new")] := by
      have hall := congrArg Turn.changes hsplit
      rw [Turn.changes_append, Turn.changes_cons, hchange] at hall
      exact hall.symm
    -- the change is the first one, or the second one behind the first
    rcases hbefore : Turn.changes before with _ | ⟨earlier, _ | ⟨_, rest⟩⟩
    · rw [hbefore] at hchanges
      obtain rfl : c = .putInstance "i" (record "old") := (List.cons.inj hchanges).1
      exact Turn.orderly_of_free hchange ⟨_, rfl, rfl⟩ rfl fun _ _ _ hold => nomatch hold
    · rw [hbefore] at hchanges
      obtain ⟨rfl, hrest⟩ := List.cons.inj hchanges
      obtain rfl : c = .putInstance "j" (record "new") := (List.cons.inj hrest).1
      refine Turn.orderly_of_free hchange ⟨_, rfl, rfl⟩ rfl fun other old own hold hown => ?_
      have hrecords : (Change.replay registry .empty [.putInstance "i" (record "old")]).instances
          = Dict.empty.insert "i" (record "old") := rfl
      obtain rfl := eq_of_found hrecords hold
      obtain rfl : own = ("old", "old") := hown.unique ⟨_, rfl, rfl⟩
      decide
    · rw [hbefore] at hchanges
      have hlength := congrArg List.length hchanges
      simp at hlength

/-- The accounts of the two volumes are exact. -/
theorem balanced_second : (start.run second).Accounted registry .empty ∧
    Balanced (Turn.held (start.run second).history) (start.run second).broker.store.records := by
  have haccounted : (start.run second).Accounted registry .empty :=
    Session.run_accounted registry .empty .memory .empty second faultless_second.alone
  exact ⟨haccounted, haccounted.exact faultless_second.conforms orderly_second⟩

/-! #### Provisions that leave a volume behind -/

/-- The instance is provisioned with another plan and another volume, and refused. -/
def refused : List Event :=
  first ++ [.arrival (.provision "i" { details "new" with planId := "other" }), .answer 1 plugin]

/-- It is provisioned again with another volume. -/
def replaced : List Event := first ++ [.arrival (.provision "i" (details "new")), .answer 1 plugin]

/-- Another instance is provisioned with the same volume, and taken away. -/
def shared : List Event :=
  first ++ [.arrival (.provision "j" (details "old")), .answer 1 plugin,
    .arrival (.deprovision "j" ⟨"svc", "plan"⟩), .answer 2 plugin]

theorem faultless_refused : start.Faultless refused := by
  refine faultless_of (oneByOne_first ?_) rfl ⟨2, rfl⟩ rfl
  exact .cons (fun _ _ => Session.still_of_left rfl) (.cons nofun (Session.oneByOne_nil _))

theorem faultless_replaced : start.Faultless replaced := by
  refine faultless_of (oneByOne_first ?_) rfl ⟨2, rfl⟩ rfl
  exact .cons (fun _ _ => Session.still_of_left rfl) (.cons nofun (Session.oneByOne_nil _))

theorem faultless_shared : start.Faultless shared := by
  refine faultless_of (oneByOne_first ?_) rfl ⟨3, rfl⟩ rfl
  exact .cons (fun _ _ => Session.still_of_left rfl) <| .cons nofun <|
    .cons (fun _ _ => Session.still_of_left rfl) <| .cons nofun <| Session.oneByOne_nil _

/-- **Accounts that are not exact.** Without any fault a provision that is refused, or one that repeats
an instance with another volume, leaves a volume behind without a record, and a deprovision takes the
volume of another instance away. -/
theorem not_accords :
    (start.Faultless refused ∧ ¬ (start.run refused).Accords) ∧
      (start.Faultless replaced ∧ ¬ (start.run replaced).Accords) ∧
        start.Faultless shared ∧ ¬ (start.run shared).Accords := by
  refine ⟨⟨faultless_refused, fun h => ?_⟩, ⟨faultless_replaced, fun h => ?_⟩, faultless_shared,
    fun h => ?_⟩
  · -- the new volume is there, and the record still names the old one
    have hheld : ("new", "new") ∈ Turn.held (start.run refused).history := List.mem_cons_self
    exact absurd (@eq_of_claims _ "old" _ rfl (h.1 "new" ⟨_, hheld⟩)) (by decide)
  · -- the old volume is there, and the record names the new one
    have hheld : ("old", "old") ∈ Turn.held (start.run replaced).history :=
      List.mem_cons_of_mem _ List.mem_cons_self
    exact absurd (@eq_of_claims _ "new" _ rfl (h.1 "old" ⟨_, hheld⟩)) (by decide)
  · -- the record is there, and no volume is left
    have hheld : Turn.held (start.run shared).history = [] := rfl
    obtain ⟨volumeId, -, name, hname⟩ := h.2 "i" (record "old") rfl
    rw [hheld] at hname
    cases hname

end VolumeRuns

end VolumeBroker
