import VolumeBroker.Proofs.Session.Apart
import VolumeBroker.Proofs.Session.Gate
/-!
# Books of volumes

The volumes that the plugin of a service holds are those that it has made and not deleted since
(`Turn.held`). Where calls do not overlap, every turn does one of four things about them and about the
records of instances (`Session.Books`): nothing, a volume is made and its record put, a volume is made
and its record refused, or a volume is deleted and its record removed.

That the record removed is the one whose volume has been deleted rests on the calls coming one after
the other: a call that waits has then taken the last turn (`Session.Solo`), so what it has looked up is
still there.
-/

namespace VolumeBroker

/-! ### What a plugin holds -/

/-- The fingerprint in a record is that of a volume, given by its name and its id. -/
def InstanceRecord.Describes (record : InstanceRecord) (entry : String × String) : Prop :=
  ∃ fingerprint, Fingerprint.ofSlot record.fingerprint = .ok fingerprint ∧
    (fingerprint.name, fingerprint.volume.volumeId) = entry

theorem InstanceRecord.Describes.carries {record : InstanceRecord} {entry : String × String}
    (h : record.Describes entry) : record.Carries entry.2 := by
  obtain ⟨fingerprint, hread, rfl⟩ := h
  exact ⟨fingerprint, hread, rfl⟩

/-- A record describes one volume at most. -/
theorem InstanceRecord.Describes.unique {record : InstanceRecord} {a b : String × String}
    (ha : record.Describes a) (hb : record.Describes b) : a = b := by
  obtain ⟨fingerprint, hread, rfl⟩ := ha
  obtain ⟨other, hother, rfl⟩ := hb
  rw [Except.ok.inj (hread.symm.trans hother)]

/-- The record of some instance has a volume in its fingerprint. -/
def RecordSet.Claims (records : RecordSet) (volumeId : String) : Prop :=
  ∃ id record, records.instances.get? id = some record ∧ record.Carries volumeId

/-- The volume that an answer says is made, by its name and its id. -/
def Answered.created? : Answered → Option (String × String)
  | ⟨.probe, _⟩ => none
  | ⟨.createVolume request, .ok response⟩ => some (request.name, response.volume.volumeId)
  | ⟨.createVolume _, .error _⟩ => none
  | ⟨.deleteVolume _, _⟩ => none

/-- The volume that an answer says is deleted. -/
def Answered.deleted? : Answered → Option String
  | ⟨.probe, _⟩ => none
  | ⟨.createVolume _, _⟩ => none
  | ⟨.deleteVolume request, .ok _⟩ => some request.volumeId
  | ⟨.deleteVolume _, .error _⟩ => none

namespace Turn

/-- The volume that the plugin has just made. -/
def created? (turn : Turn) : Option (String × String) := turn.answered.bind Answered.created?

/-- The volume that the plugin has just deleted. -/
def deleted? (turn : Turn) : Option String := turn.answered.bind Answered.deleted?

/-- What the plugin holds behind a turn: a volume that it makes is added, and one that it deletes is
taken off. -/
def enter (held : List (String × String)) (turn : Turn) : List (String × String) :=
  (turn.created?.toList ++ held).filter fun entry => turn.deleted? != some entry.2

/-- The volumes that are held behind some turns, by their names and their ids. Where there is one service,
these are the volumes of its plugin. -/
def held (history : List Turn) : List (String × String) := history.foldl enter []

variable {history before : List Turn} {turn : Turn} {entry : String × String} {volumeId : String}

theorem created?_eq {answered : Option Answered} (h : turn.answered = answered) :
    turn.created? = answered.bind Answered.created? := congrArg (·.bind Answered.created?) h

theorem deleted?_eq {answered : Option Answered} (h : turn.answered = answered) :
    turn.deleted? = answered.bind Answered.deleted? := congrArg (·.bind Answered.deleted?) h

theorem held_concat (history : List Turn) (turn : Turn) :
    held (history ++ [turn]) = enter (held history) turn := List.foldl_concat ..

theorem mem_enter {held : List (String × String)} : entry ∈ enter held turn ↔
    (turn.created? = some entry ∨ entry ∈ held) ∧ turn.deleted? ≠ some entry.2 := by
  rw [enter, List.mem_filter, List.mem_append, Option.mem_toList, bne_iff_ne]

/-- A volume is among those that the plugin holds. -/
def Holds (history : List Turn) (volumeId : String) : Prop := ∃ name, (name, volumeId) ∈ held history

theorem holds_concat : Holds (history ++ [turn]) volumeId ↔
    ((∃ name, turn.created? = some (name, volumeId)) ∨ Holds history volumeId) ∧
      turn.deleted? ≠ some volumeId := by
  unfold Holds
  simp only [held_concat, mem_enter]
  rw [← exists_or, exists_and_right]

end Turn

/-! ### One turn -/

namespace Session

variable {r : Registry} {initial : RecordSet} {s s' : Session} {turn : Turn}

/-- **What a turn does about instances and volumes.** -/
inductive Books (s s' : Session) (turn : Turn) : Prop where
  /-- Nothing. -/
  | rests (created : turn.created? = none) (deleted : turn.deleted? = none)
      (instances : s'.broker.store.records.instances = s.broker.store.records.instances)
  /-- A volume has been made, and its record is put. -/
  | stores {id : String} {record : InstanceRecord} {entry : String × String}
      (created : turn.created? = some entry) (deleted : turn.deleted? = none)
      (describes : record.Describes entry) (change : turn.change = some (.putInstance id record))
      (same : ∀ old, s.broker.store.records.instances.get? id = some old →
        old.sameIdentity record = true)
      (instances : s'.broker.store.records.instances
        = s.broker.store.records.instances.insert id record)
  /-- A volume has been made, and its record is refused. -/
  | refuses {id : String} {record old : InstanceRecord} {entry : String × String}
      (created : turn.created? = some entry) (deleted : turn.deleted? = none)
      (describes : record.Describes entry) (change : turn.change = some (.putInstance id record))
      (taken : s.broker.store.records.instances.get? id = some old)
      (differs : old.sameIdentity record = false)
      (answer : turn.progress = .finished (.error (.instanceAlreadyExists id)))
      (instances : s'.broker.store.records.instances = s.broker.store.records.instances)
  /-- A volume has been deleted, and the record of its instance is removed. -/
  | removes {id volumeId : String} {record : InstanceRecord} {details : DeprovisionDetails}
      (created : turn.created? = none) (deleted : turn.deleted? = some volumeId)
      (operation : turn.operation = .deprovision id details)
      (found : s.broker.store.records.instances.get? id = some record)
      (carries : record.Carries volumeId)
      (instances : s'.broker.store.records.instances = s.broker.store.records.instances.erase id)

/-- What every session keeps whose calls do not overlap: a call that waits has taken the last turn. -/
structure Solo (r : Registry) (initial : RecordSet) (s : Session) : Prop where
  exchanging : s.Exchanging r initial
  waits : ∀ number operation address w,
    s.calls[number]? = some ⟨operation, .waiting address w⟩ →
      ∃ before last, s.history = before ++ [last] ∧ last.call = number ∧
        last.progress = .waiting address w

/-- Only the answer to an order lets a turn do something about the instances. -/
theorem Takes.instances_kept (hs : s.Sound) (h : s.Takes s' turn)
    (hprobe : ∀ answered, turn.answered = some answered → answered.call.isProbe = true) :
    s'.broker.store.records.instances = s.broker.store.records.instances := by
  rcases h.records_cases hs with hsame | ⟨c, hof, hrecords⟩
  · rw [hsame]
  rw [hrecords]
  cases c with
  | putInstance id record =>
    obtain ⟨-, request, response, -, hcreated, -⟩ := hof.of_putInstance
    exact nomatch hprobe _ hcreated
  | removeInstance id =>
    obtain ⟨-, volumeId, response, -, hdeleted⟩ := hof.of_removeInstance
    exact nomatch hprobe _ hdeleted
  -- the inner changes leave all instances alone
  | putBinding instanceId bindingId details =>
    simp only [Change.apply]
    split <;> rfl
  | removeBinding instanceId bindingId =>
    simp only [Change.apply]
    split <;> rfl

/-- A provision whose volume has been made puts its record or is refused. -/
theorem Takes.books_creation (h : s.Takes s' turn) (hexplained : turn.Explained r s.broker.store.records)
    {id : String} {details : ProvisionDetails} {request : CreateVolumeRequest}
    {response : CreateVolumeResponse}
    (hanswered : turn.answered = some ⟨.createVolume request, .ok response⟩)
    (hchange : turn.change
      = some (.putInstance id (details.toRecord ⟨request.name, response.volume⟩))) :
    s.Books s' turn := by
  let record := details.toRecord ⟨request.name, response.volume⟩
  have hcreated : turn.created? = some (request.name, response.volume.volumeId) :=
    Turn.created?_eq hanswered
  have hdeleted : turn.deleted? = none := Turn.deleted?_eq hanswered
  have hdescribes : record.Describes (request.name, response.volume.volumeId) :=
    ⟨⟨request.name, response.volume⟩, rfl, rfl⟩
  unfold Turn.Explained at hexplained
  rw [hchange] at hexplained
  obtain ⟨-, hrecords, saved, result, -, hend, hsettles⟩ := hexplained
  rw [← h.records] at hrecords
  cases htaken : s.broker.store.records.instances.get? id with
  | none =>
    rw [Change.apply_putInstance_of_free r htaken] at hrecords
    refine .stores hcreated hdeleted hdescribes hchange ?_ (congrArg RecordSet.instances hrecords)
    exact fun old hold => nomatch htaken.symm.trans hold
  | some old =>
    -- under a taken id the identity of the old record decides
    have happly := Change.apply_putInstance_of_taken r htaken record
    by_cases hsame : old.sameIdentity record = true
    · rw [if_pos hsame] at happly
      rw [happly] at hrecords
      refine .stores hcreated hdeleted hdescribes hchange ?_ (congrArg RecordSet.instances hrecords)
      exact fun other hother => Option.some.inj (htaken.symm.trans hother) ▸ hsame
    · rw [if_neg hsame] at happly
      rw [happly] at hrecords hsettles
      obtain rfl : result = .error (.instanceAlreadyExists id) := by
        cases hsettles
        rfl
      exact .refuses hcreated hdeleted hdescribes hchange htaken (Bool.eq_false_iff.2 hsame) hend
        (congrArg RecordSet.instances hrecords)

/-- The call that waits has found in the present records what it is about to delete. -/
theorem Solo.found (h : s.Solo r initial) {number : Nat} {operation : Operation}
    {address id volumeId : String} {details : DeprovisionDetails}
    (hcall : s.calls[number]? = some ⟨operation, .waiting address (.deletion id details volumeId)⟩) :
    ∃ record, s.broker.store.records.instances.get? id = some record ∧ record.Carries volumeId := by
  obtain ⟨before, last, hsplit, -, hasked⟩ := h.waits _ _ _ _ hcall
  have hexchanges : last.Exchanges r before := h.exchanging.turns before last [] hsplit
  obtain ⟨record, hrecord, hcarries⟩ := hexchanges.deletes _ _ _ _ hasked
  -- nothing has happened since the call has looked it up
  have hrecords : s.broker.store.records = last.records := by
    rw [h.exchanging.regular.serialized.records, hsplit]
    exact h.exchanging.regular.serialized.replay_behind hsplit []
  exact ⟨record, hrecords ▸ hrecord, hcarries⟩

/-- Each turn of calls that do not overlap is one of those that can be entered in the books. -/
theorem Takes.books (hs : s.Solo r initial) (h : s.Takes s' turn) : s.Books s' turn := by
  have hregular := hs.exchanging.regular
  cases h.advances with
  | opens _ answered _ _ _ _ =>
    -- a call that comes in has not heard of the plugin yet
    exact .rests (Turn.created?_eq answered) (Turn.deleted?_eq answered)
      (h.instances_kept hregular.sound fun _ hsome => nomatch answered.symm.trans hsome)
  | @continues address w answer call answered change _ _ _ =>
    have hw : w.Serves turn.operation :=
      hregular.sound.serves _ (List.mem_of_getElem? call) address w rfl
    generalize hoperation : turn.operation = operation at hw
    cases hw with
    | probe =>
      refine .rests (Turn.created?_eq answered) (Turn.deleted?_eq answered)
        (h.instances_kept hregular.sound fun _ hsome => ?_)
      rw [← Option.some.inj (answered.symm.trans hsome)]
      rfl
    | creation =>
      -- behind an order it is the answer that counts
      cases answer with
      | error e =>
        exact .rests (Turn.created?_eq answered) (Turn.deleted?_eq answered)
          (congrArg RecordSet.instances (h.rests change).records)
      | ok response =>
        exact h.books_creation (h.explained hregular.sound hregular.registry) answered change
    | deletion id details volumeId =>
      cases answer with
      | error e =>
        exact .rests (Turn.created?_eq answered) (Turn.deleted?_eq answered)
          (congrArg RecordSet.instances (h.rests change).records)
      | ok response =>
        obtain ⟨record, hrecord, hcarries⟩ := hs.found call
        have hrecords := (h.commits change).1.records
        simp only [Change.apply, hrecord] at hrecords
        exact .removes (Turn.created?_eq answered) (Turn.deleted?_eq answered) hoperation hrecord
          hcarries (congrArg RecordSet.instances hrecords)

/-- A call that waits has taken the last turn, whatever happens next. -/
theorem Solo.handle (h : s.Solo r initial) {event : Event}
    (hstill : ∀ operation, event = .arrival operation → s.Still) :
    (s.handle event).Solo r initial := by
  refine ⟨h.exchanging.handle event, ?_⟩
  intro number operation address w hcall
  rcases handle_cases h.exchanging.regular.sound event with hidle | ⟨turn, htakes⟩
  · rw [hidle.history]
    exact h.waits number operation address w (hidle.calls ▸ hcall)
  rcases htakes.calls_cases hcall with ⟨rfl, hself⟩ | ⟨hne, hold⟩
  · exact ⟨s.history, turn, htakes.history, rfl, (Call.mk.inj hself).2.symm⟩
  -- no other call can be waiting
  cases htakes.advances with
  | opens _ _ _ calls =>
    obtain ⟨arrived, harrival⟩ := exists_of_arrived calls
    obtain ⟨result, hended⟩ := hstill arrived harrival _ (List.mem_of_getElem? hold)
    cases hended
  | continues call =>
    obtain ⟨before, last, hsplit, hlast, -⟩ := h.waits _ _ _ _ hold
    obtain ⟨before', last', hsplit', hlast', -⟩ := h.waits _ _ _ _ call
    obtain ⟨-, hsame⟩ := List.append_inj' (hsplit.symm.trans hsplit') rfl
    obtain rfl : last = last' := List.singleton_inj.1 hsame
    exact absurd (hlast.symm.trans hlast') hne

theorem Solo.run (h : s.Solo r initial) {events : List Event} (halone : s.OneByOne events) :
    (s.run events).Solo r initial := by
  induction events using List.reverseRecOn with
  | nil => exact h
  | append_singleton events event ih =>
    obtain ⟨halone, hstill⟩ := halone.of_concat
    rw [run_concat]
    exact (ih halone).handle hstill

end Session

end VolumeBroker
