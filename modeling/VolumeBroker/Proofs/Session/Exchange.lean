import VolumeBroker.Proofs.Session.Serial
/-!
# What calls ask of their plugins

A call that waits for its plugin has asked for something that was due at that moment
(`Waiting.Due`): it has asked the plugin of the service that its operation names, with a probe exactly
if that service has not passed the gate, and if it is about to delete a volume then that volume was the
one in the record which the instance had just then. `begin_due` and `resume_due` say so of the two
kinds of steps.

Nothing holds the records still while the plugin is at work, so what was due when the call was made
need not be due when it is answered. What remains is the link between the two moments: every turn with
an answer has, further up in the history, the turn of the same call that asked (`Turn.Exchanges`).
-/

namespace VolumeBroker

/-- Whether a plugin call is a probe. -/
def PluginCall.isProbe : PluginCall → Bool
  | probe => true
  | createVolume _ => false
  | deleteVolume _ => false

/-- The fingerprint in a record is that of a volume. -/
def InstanceRecord.Carries (record : InstanceRecord) (volumeId : String) : Prop :=
  ∃ fingerprint, Fingerprint.ofSlot record.fingerprint = .ok fingerprint ∧
    fingerprint.volume.volumeId = volumeId

/-- A record is that of one volume at most. -/
theorem InstanceRecord.Carries.unique {record : InstanceRecord} {a b : String} (ha : record.Carries a)
    (hb : record.Carries b) : a = b := by
  obtain ⟨fingerprint, hread, rfl⟩ := ha
  obtain ⟨other, hother, rfl⟩ := hb
  rw [Except.ok.inj (hread.symm.trans hother)]

/-- Of two requests to delete a volume that are the same the volumes are the same. -/
theorem DeleteVolumeRequest.ofVolume_inj {a b : String} (h : ofVolume a = ofVolume b) : a = b :=
  congrArg DeleteVolumeRequest.volumeId h

/-- What holds of a plugin call when it is made. -/
structure Waiting.Due (w : Waiting) (b : Broker) (address : String) : Prop where
  /-- It goes to the plugin of its service. -/
  address : b.registry.address w.serviceId = .ok address
  /-- It is a probe exactly as long as the service has not passed the gate. -/
  gate : b.gate.isPassed w.serviceId = !w.call.isProbe
  /-- The volume to delete is that of the instance. -/
  deletes : ∀ id details volumeId, w = .deletion id details volumeId →
    ∃ record, b.store.records.instances.get? id = some record ∧ record.Carries volumeId

/-- If an operation waits then what it waits for is due. -/
def Step.Due (step : Step) : Prop :=
  ∀ address w, step.progress = .waiting address w → w.Due step.broker address

theorem Waiting.Serves.serviceId {w : Waiting} {operation : Operation} (h : w.Serves operation) :
    w.serviceId = operation.serviceId := by
  cases h <;> rfl

/-! ### Steps -/

namespace Broker

variable {b : Broker}

theorem refuse_due (b : Broker) (files : FileSystem) (e : BrokerError) : (b.refuse files e).Due := by
  rintro address w ⟨⟩

theorem commit_due (b : Broker) (files : FileSystem)
    (outcome : Except BrokerError (Store × Reply)) : (b.commit files outcome).Due := by
  unfold commit
  split
  · rintro address w ⟨⟩
  · rintro address w ⟨⟩

theorem await_due (files : FileSystem) {w : Waiting}
    (hgate : b.gate.isPassed w.serviceId = !w.call.isProbe)
    (hdeletes : ∀ id details volumeId, w = .deletion id details volumeId →
      ∃ record, b.store.records.instances.get? id = some record ∧ record.Carries volumeId) :
    (b.await files w).Due := by
  unfold await
  split
  · exact refuse_due b files _
  · next address haddress =>
    rintro address' w' hw
    cases hw
    exact ⟨haddress, hgate, hdeletes⟩

/-- Behind the gate nothing is asked for but volumes. -/
theorem proceed_due (h : b.store.outage.SparesRecords) (files : FileSystem) {operation : Operation}
    (hpassed : b.gate.isPassed operation.serviceId = true) : (b.proceed files operation).Due := by
  have hproceeds := b.proceed_proceeds files operation
  generalize b.proceed files operation = step at hproceeds ⊢
  cases hproceeds with
  | invalid => exact refuse_due b files _
  | creates =>
    refine await_due files hpassed ?_
    rintro id details volumeId ⟨⟩
  | unfit => exact refuse_due b files _
  | @deletes id details record fingerprint hfound hread =>
    rw [Transaction.findInstance_of_spares h] at hfound
    have hrecord : b.store.records.instances.get? id = some record := by
      split at hfound
      · next hsome => rw [hsome, Except.ok.inj hfound]
      · cases hfound
    -- the volume to delete is that of the record which has been found
    refine await_due files hpassed ?_
    rintro id' details' volumeId ⟨⟩
    exact ⟨record, hrecord, fingerprint, of_mapError_ok hread, rfl⟩
  | commits => exact commit_due b files _

theorem begin_due (h : b.store.outage.SparesRecords) (files : FileSystem) (operation : Operation) :
    (b.begin files operation).Due := by
  unfold begin
  by_cases hgate : b.gate.isPassed operation.serviceId = true
  · rw [if_pos hgate]
    exact proceed_due h files hgate
  · rw [if_neg hgate]
    -- the gate is closed, so the call is a probe
    refine await_due files (Bool.eq_false_iff.2 hgate) ?_
    rintro id details volumeId ⟨⟩

theorem resume_due (h : b.store.outage.SparesRecords) (files : FileSystem) (w : Waiting)
    (answer : Except PluginError w.call.Response) : (b.resume files w answer).Due := by
  cases w with
  | probe operation =>
    cases answer with
    | error e => exact refuse_due b files _
    | ok response =>
      -- the answer has just opened the gate
      let passed : Broker := { b with gate := b.gate.mark operation.serviceId }
      have hpassed : passed.gate.isPassed operation.serviceId = true := by
        rw [ProbeGate.isPassed_mark, decide_eq_true rfl, Bool.true_or]
      exact @proceed_due passed h files operation hpassed
  | creation id details request =>
    cases answer with
    | error e => exact refuse_due b files _
    | ok response => exact commit_due b files _
  | deletion id details volumeId =>
    cases answer with
    | error e => exact refuse_due b files _
    | ok response => exact commit_due b files _

end Broker

/-! ### Histories -/

/-- The plugin has just deleted a volume for the call. -/
def Turn.HasDeleted (turn : Turn) (volumeId : String) : Prop :=
  ∃ response, turn.answered = some ⟨.deleteVolume (.ofVolume volumeId), .ok response⟩

/-- What a turn asks of the plugin, and what it goes on from. -/
structure Turn.Exchanges (r : Registry) (before : List Turn) (turn : Turn) : Prop where
  /-- The plugin of the service is asked for what belongs to the operation. -/
  asks : ∀ address w, turn.progress = .waiting address w →
    w.Serves turn.operation ∧ r.address turn.operation.serviceId = .ok address
  /-- The volume to delete is that of the instance. -/
  deletes : ∀ address id details volumeId,
    turn.progress = .waiting address (.deletion id details volumeId) →
      ∃ record, turn.records.instances.get? id = some record ∧ record.Carries volumeId
  /-- An answer is one to what the call has asked for in its last turn. -/
  answers : ∀ answered, turn.answered = some answered → ∃ earlier asking middle address w,
    before = earlier ++ asking :: middle ∧ asking.call = turn.call ∧
      asking.operation = turn.operation ∧ asking.progress = .waiting address w ∧
      w.call = answered.call ∧ ∀ other ∈ middle, other.call ≠ turn.call

namespace Session

variable {r : Registry} {initial : RecordSet} {s s' : Session} {turn : Turn}

/-- What a call asks for is due in the session behind the turn. -/
theorem Takes.due (hs : s.Sound) (h : s.Takes s' turn) {address : String} {w : Waiting}
    (hw : turn.progress = .waiting address w) : w.Due s'.broker address := by
  cases h.advances with
  | opens _ _ _ _ broker progress =>
    rw [broker]
    exact Broker.begin_due hs.outage s.files turn.operation address w (progress.symm.trans hw)
  | @continues _ w' answer _ _ _ _ broker progress =>
    rw [broker]
    exact Broker.resume_due hs.outage s.files w' answer address w (progress.symm.trans hw)

theorem Takes.exchanges (hs : s.Regular r initial) (h : s.Takes s' turn) :
    turn.Exchanges r s.history := by
  have hregistry : s'.broker.registry = r := h.registry.trans hs.registry
  refine ⟨?_, ?_, ?_⟩
  · intro address w hw
    have hserves := h.serves address w hw
    refine ⟨hserves, ?_⟩
    rw [← hserves.serviceId, ← hregistry]
    exact (h.due hs.sound hw).address
  · intro address id details volumeId hw
    rw [← h.records]
    exact (h.due hs.sound hw).deletes id details volumeId rfl
  · intro answered hanswered
    cases h.advances with
    | opens _ hnone _ _ =>
      rw [hnone] at hanswered
      cases hanswered
    | @continues address w answer call hcall _ _ _ _ =>
      rw [hcall] at hanswered
      -- the call stands where its last turn has left it
      obtain ⟨earlier, asking, middle, hsplit, hnumber, hoperation, hprogress, hlater⟩ :=
        hs.serialized.calls turn.call _ call
      exact ⟨earlier, asking, middle, address, w, hsplit, hnumber, hoperation, hprogress,
        congrArg Answered.call (Option.some.inj hanswered), hlater⟩

/-- What every session keeps, with what its turns have asked for. -/
structure Exchanging (r : Registry) (initial : RecordSet) (s : Session) : Prop where
  regular : s.Regular r initial
  turns : Turn.Each (Turn.Exchanges r) s.history

theorem Exchanging.handle (h : s.Exchanging r initial) (event : Event) :
    (s.handle event).Exchanging r initial := by
  refine ⟨h.regular.handle event, ?_⟩
  rcases handle_cases h.regular.sound event with hidle | ⟨turn, htakes⟩
  · rw [hidle.history]
    exact h.turns
  · rw [htakes.history]
    exact h.turns.concat (htakes.exchanges h.regular)

/-- Every session, whatever happens, asks its plugins for what is due. -/
theorem exchanging_run (registry : Registry) (gate : ProbeGate) (medium : Medium)
    (records : RecordSet) (files : FileSystem) (events : List Event) :
    ((opened ⟨registry, gate, ⟨medium, records, .none⟩⟩ files).run events).Exchanging
      registry records := by
  refine run_induction ⟨?_, Turn.each_nil⟩ (fun _ event hs => hs.handle event) events
  exact Regular.of_registry registry gate medium records files

/-- A removal comes behind the deletion of the volume that the call has found. -/
theorem Exchanging.looked_up (h : s.Exchanging r initial) {before after : List Turn}
    (hsplit : s.history = before ++ turn :: after) {id : String}
    (hchange : turn.change = some (.removeInstance id)) :
    ∃ earlier looking middle address details volumeId found,
      before = earlier ++ looking :: middle ∧ turn.operation = .deprovision id details ∧
        looking.call = turn.call ∧
        looking.progress = .waiting address (.deletion id details volumeId) ∧
        (∀ other ∈ middle, other.call ≠ turn.call) ∧ turn.HasDeleted volumeId ∧
        looking.records.instances.get? id = some found ∧ found.Carries volumeId := by
  obtain ⟨hof, -⟩ := h.regular.serialized.explained hsplit hchange
  obtain ⟨details, volumeId, response, hoperation, hanswered⟩ := hof.of_removeInstance
  have hexchanges : turn.Exchanges r before := h.turns before turn after hsplit
  obtain ⟨earlier, looking, middle, address, w, hbefore, hcall, hsame, hasked, hw, hmiddle⟩ :=
    hexchanges.answers _ hanswered
  have hsplit' : s.history = earlier ++ looking :: (middle ++ turn :: after) := by
    rw [hsplit, hbefore, List.append_assoc, List.cons_append]
  have hlooking : looking.Exchanges r earlier := h.turns earlier looking _ hsplit'
  -- what the call has waited for is the deletion that has been answered
  have hserves := (hlooking.asks address w hasked).1
  rw [hsame, hoperation] at hserves
  cases hserves with
  | probe => cases hw
  | deletion _ _ volumeId' =>
    obtain rfl : volumeId' = volumeId :=
      DeleteVolumeRequest.ofVolume_inj (PluginCall.deleteVolume.inj hw)
    obtain ⟨found, hfound, hcarries⟩ := hlooking.deletes address id details volumeId' hasked
    exact ⟨earlier, looking, middle, address, details, volumeId', found, hbefore, hoperation, hcall,
      hasked, hmiddle, ⟨response, hanswered⟩, hfound, hcarries⟩

end Session

end VolumeBroker
