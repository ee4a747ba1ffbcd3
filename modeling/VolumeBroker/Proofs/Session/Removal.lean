import VolumeBroker.Proofs.Session.Exchange
import VolumeBroker.Proofs.Session.Saving
import VolumeBroker.Proofs.Session.Stability
/-!
# What a deprovision removes

A deprovision looks up its instance in one locked section and removes the record in another one, and
in between it has the volume deleted that it has found. The second section removes whatever is under
the id by then. `Session.run_removals` says what that can be: a record with the deleted volume, or a
record that another call has put under the id since the look-up, with the volume that was created for
it (`Turn.Removes`).

The second case does happen. `LostVolume` is a run in which an instance is deprovisioned twice at the
same time, and provisioned again between the two removals: the record of the new instance goes, and its
volume stays behind without a record. So a deprovision does not always remove what it has deleted
(`Turn.RemovesOwn`).
-/

namespace VolumeBroker

/-- What is under an id after some changes was there before, or one of the changes has put it. -/
theorem Change.get?_replay (r : Registry) {id : String} {changes : List Change} :
    ∀ {records : RecordSet} {record : InstanceRecord},
      (replay r records changes).instances.get? id = some record →
        records.instances.get? id = some record ∨ Change.putInstance id record ∈ changes := by
  induction changes with
  | nil => exact fun h => .inl h
  | cons c rest ih =>
    intro records record h
    rcases ih h with hnext | hrest
    · -- the next change has kept the record or put it there
      cases onInstance r records c id with
      | kept hkept => exact .inl (hkept.symm.trans hnext)
      | put record' change hput =>
        obtain rfl : record' = record := Option.some.inj (hput.symm.trans hnext)
        exact .inr (change ▸ List.mem_cons_self)
      | removed _ hremoved => exact absurd (hremoved.symm.trans hnext) nofun
    · exact .inr (List.mem_cons_of_mem c hrest)

namespace Turn

/-- What a turn removes under an id has the volume that its call has had deleted. -/
def RemovesOwn (r : Registry) (initial : RecordSet) (before : List Turn) (turn : Turn) : Prop :=
  ∀ id removed, turn.change = some (.removeInstance id) →
    (Change.replay r initial (changes before)).instances.get? id = some removed →
      ∃ volumeId, turn.HasDeleted volumeId ∧ removed.Carries volumeId

/-- Where the record comes from that a turn removes. -/
inductive Removes (before : List Turn) (turn : Turn) (id : String) (removed : InstanceRecord) :
    Prop where
  /-- It has the volume that the call has had deleted. -/
  | own {volumeId : String} (deleted : turn.HasDeleted volumeId) (carries : removed.Carries volumeId)
  /-- Another call has put it, with a volume of its own, since the call looked up the volume that it
  has had deleted. -/
  | foreign {earlier middle : List Turn} {looking other : Turn} {address volumeId : String}
      {details : DeprovisionDetails} {request : CreateVolumeRequest} {response : CreateVolumeResponse}
      (split : before = earlier ++ looking :: middle) (call : looking.call = turn.call)
      (asked : looking.progress = .waiting address (.deletion id details volumeId))
      (deleted : turn.HasDeleted volumeId)
      (between : other ∈ middle) (caller : other.call ≠ turn.call)
      (put : other.change = some (.putInstance id removed))
      (created : other.answered = some ⟨.createVolume request, .ok response⟩)
      (carries : removed.Carries response.volume.volumeId)

end Turn

namespace Session

variable {r : Registry} {initial : RecordSet} {s : Session} {before after : List Turn} {turn : Turn}

/-- A provision puts a record with the volume that the plugin has made for it. -/
theorem Serialized.created (h : s.Serialized r initial) (hsplit : s.history = before ++ turn :: after)
    {id : String} {record : InstanceRecord} (hchange : turn.change = some (.putInstance id record)) :
    ∃ request response, turn.answered = some ⟨.createVolume request, .ok response⟩ ∧
      record.Carries response.volume.volumeId := by
  obtain ⟨hof, -⟩ := h.explained hsplit hchange
  obtain ⟨details, request, response, -, hcreated, rfl⟩ := hof.of_putInstance
  exact ⟨request, response, hcreated, ⟨request.name, response.volume⟩, rfl, rfl⟩

theorem Exchanging.removes (h : s.Exchanging r initial)
    (hsplit : s.history = before ++ turn :: after) {id : String} {removed : InstanceRecord}
    (hchange : turn.change = some (.removeInstance id))
    (hremoved : (Change.replay r initial (Turn.changes before)).instances.get? id = some removed) :
    turn.Removes before id removed := by
  obtain ⟨earlier, looking, middle, address, details, volumeId, found, rfl, -, hcall, hasked, hmiddle,
    hdeleted, hfound, hcarries⟩ := h.looked_up hsplit hchange
  have hlooking : s.history = earlier ++ looking :: (middle ++ turn :: after) := by
    rw [hsplit, List.append_assoc, List.cons_append]
  -- between look-up and removal the record has stayed, or another call has put a new one
  rw [h.regular.serialized.replay_behind hlooking middle] at hremoved
  rcases Change.get?_replay r hremoved with hsame | hmem
  · obtain rfl : found = removed := Option.some.inj (hfound.symm.trans hsame)
    exact .own hdeleted hcarries
  · obtain ⟨other, hother, hput⟩ := List.mem_filterMap.1 hmem
    obtain ⟨front, back, hmid⟩ := List.append_of_mem hother
    have hother' : s.history = (earlier ++ looking :: front) ++ other :: (back ++ turn :: after) := by
      rw [hlooking, hmid]
      simp only [List.append_assoc, List.cons_append]
    obtain ⟨request, response, hcreated, hvolume⟩ := h.regular.serialized.created hother' hput
    exact .foreign rfl hcall hasked hdeleted hother (hmiddle other hother) hput hcreated hvolume

/-- **Removals.** Whatever calls come in, whatever the plugin answers them and in whatever order their
steps are taken: what a deprovision removes has the volume that it has had deleted, or another call
has put it under the id since the deprovision looked up that volume. -/
theorem run_removals (registry : Registry) (gate : ProbeGate) (medium : Medium) (records : RecordSet)
    (files : FileSystem) (events : List Event) :
    Turn.Each (fun before turn => ∀ id removed, turn.change = some (.removeInstance id) →
        (Change.replay registry records (Turn.changes before)).instances.get? id = some removed →
          turn.Removes before id removed)
      ((opened ⟨registry, gate, ⟨medium, records, .none⟩⟩ files).run events).history := by
  intro before turn after hsplit id removed hchange hremoved
  exact (exchanging_run registry gate medium records files events).removes hsplit hchange hremoved

end Session

/-! ### A record that goes with another one's volume -/

namespace LostVolume

open Installation

/-- The details of a provision for an organization, with a volume of a name. -/
def details (organization name : String) : ProvisionDetails :=
  ⟨"svc", "plan", organization, "space", some (.obj [("name", .str name),
    ("volume_capabilities", .arr [.obj [("mount", .obj [])]])])⟩

/-- The record of the instance behind such a provision. -/
def record (organization name : String) : InstanceRecord :=
  (details organization name).toRecord ⟨name, ⟨name, 0, .empty⟩⟩

/-- Takes the instance away. -/
def deprovision : Operation := .deprovision "i" ⟨"svc", "plan"⟩

/-- An instance is provisioned. Two deprovisions of it have its volume deleted, and one of them removes
the record; then the instance is provisioned anew for another organization. -/
def events : List Event :=
  [.arrival (.provision "i" (details "org" "old")), .answer 0 plugin, .answer 0 plugin,
    .arrival deprovision, .arrival deprovision, .answer 2 plugin,
    .arrival (.provision "i" (details "other" "new")), .answer 3 plugin]

/-- The session before the first deprovision hears of its deletion. -/
def before : Session := (Session.opened ⟨registry, .empty, ⟨.memory, .empty, .none⟩⟩ .empty).run events

/-- The session behind that. -/
def session : Session := before.handle (.answer 1 plugin)

/-- The turn at which the first deprovision removes what is under the id. -/
def removal : Turn :=
  .of 1 deprovision (some ⟨.deleteVolume (.ofVolume "old"), .ok ()⟩) (some (.removeInstance "i"))
    (before.broker.resume before.files (.deletion "i" ⟨"svc", "plan"⟩ "old") (.ok ()))

theorem history_session : session.history = before.history ++ [removal] := rfl

theorem changes_before : Turn.changes before.history =
    [.putInstance "i" (record "org" "old"), .removeInstance "i",
      .putInstance "i" (record "other" "new")] := rfl

/-- Both deletions are of the first volume. -/
theorem deleted_session {volumeId : String} (h : ∃ turn ∈ session.history, turn.HasDeleted volumeId) :
    volumeId = "old" := by
  -- the answers of the whole session, one after the other
  have hdeletions : session.history.filterMap (fun turn => turn.answered.bind fun answered =>
      match answered.call with
      | .deleteVolume request => some request.volumeId
      | _ => none) = ["old", "old"] := rfl
  obtain ⟨turn, hturn, response, hdeleted⟩ := h
  have hmem : volumeId ∈ ["old", "old"] := by
    rw [← hdeletions]
    refine List.mem_filterMap.2 ⟨turn, hturn, ?_⟩
    rw [hdeleted]
    rfl
  simpa using hmem

/-- **A deprovision that removes what it has not deleted.** The record of the second provision goes,
and nobody has deleted its volume. -/
theorem not_removesOwn :
    ¬ Turn.Each (Turn.RemovesOwn registry .empty) session.history ∧
      session.broker.store.records.instances.get? "i" = none ∧
      ∀ turn ∈ session.history, ¬ turn.HasDeleted "new" := by
  refine ⟨?_, ?_, ?_⟩
  · intro h
    have hown : removal.RemovesOwn registry .empty before.history :=
      h before.history removal [] history_session
    obtain ⟨volumeId, hdeleted, fingerprint, hfingerprint, hvolume⟩ :=
      hown "i" (record "other" "new") rfl (by rw [changes_before]; rfl)
    -- the call has deleted the old volume, and the record has the new one
    obtain rfl : volumeId = "old" := deleted_session ⟨removal, List.mem_concat_self, hdeleted⟩
    obtain rfl : (⟨"new", ⟨"new", 0, .empty⟩⟩ : Fingerprint) = fingerprint := Except.ok.inj hfingerprint
    exact absurd hvolume (by decide)
  · rfl
  · intro turn hturn hdeleted
    exact absurd (deleted_session ⟨turn, hturn, hdeleted⟩) (by decide)

end LostVolume

end VolumeBroker
