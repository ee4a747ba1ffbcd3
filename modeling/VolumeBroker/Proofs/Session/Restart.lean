import VolumeBroker.Proofs.Session.Saving
/-!
# Starting again

A broker starts on what it finds at the path of its record file (`FileSystem.Restores`). If all saves
of a session have succeeded, that is what the session has written, so whether another broker starts on
it is a question about the records alone.

The calls of the session come from the management interface (`Event.Accepted`), which reads a body
within the reader's limit on nesting. The records are then legible throughout (`Readable`), but not
shallow: a record file puts three containers around the parameters of a binding where the body that
they came with has one. `run_restarts_iff` says that this is the only obstacle: another broker starts
exactly if no parameters in the records are nested more deeply than `RecordSet.room`.
-/

namespace VolumeBroker

/-! ### Starting -/

/-- What a store finds at the path of its record file. -/
inductive FileSystem.Restores (fs : FileSystem) (path : String) : RecordSet → Prop where
  /-- Nothing is there, and there are no records. -/
  | missing (h : fs.pathExists path = false) : fs.Restores path .empty
  /-- A text is there that can be parsed. -/
  | found {text : String} {records : RecordSet} (read : fs.readText? path = some text)
      (parsed : Store.parseRecords text = .ok records) : fs.Restores path records

namespace FileSystem

variable {fs fs' : FileSystem} {path : String}

theorem node?_congr (hnodes : fs'.nodes = fs.nodes) (hwork : fs'.workDir = fs.workDir)
    (path : String) : fs'.node? path = fs.node? path := by
  have hnode : fs'.nodeAt = fs.nodeAt := by
    funext q
    unfold nodeAt
    rw [hnodes]
  -- the segments are followed from place to place, so the place is generalized
  have hfollow : ∀ segments place, fs'.follow place segments = fs.follow place segments := by
    intro segments
    induction segments with
    | nil => exact fun _ => rfl
    | cons segment rest ih =>
      intro place
      unfold follow isDirectoryAt
      rw [hnode, ih]
  unfold node? place? origin isDirectoryAt
  rw [hnode, hwork, hfollow]

theorem pathExists_of_readText? {text : String} (h : fs.readText? path = some text) :
    fs.pathExists path = true := by
  unfold readText? at h
  unfold pathExists
  split at h
  · next hnode =>
    rw [hnode]
    rfl
  · cases h

/-- What a store finds depends on what stands where, not on what is locked. -/
theorem Restores.of_nodes {records : RecordSet} (h : fs.Restores path records)
    (hnodes : fs'.nodes = fs.nodes) (hwork : fs'.workDir = fs.workDir) :
    fs'.Restores path records := by
  have hnode := node?_congr hnodes hwork path
  cases h with
  | missing h =>
    refine .missing ?_
    unfold pathExists at h ⊢
    rw [hnode, h]
  | found hread hparsed =>
    refine .found ?_ hparsed
    unfold readText? at hread ⊢
    rw [hnode, hread]

/-- Of a text that is there the store has parsed what it finds. -/
theorem Restores.parsed {records : RecordSet} (h : fs.Restores path records) {text : String}
    (hread : fs.readText? path = some text) : Store.parseRecords text = .ok records := by
  cases h with
  | missing hmissing =>
    rw [pathExists_of_readText? hread] at hmissing
    cases hmissing
  | found hread' hparsed =>
    obtain rfl := Option.some.inj (hread.symm.trans hread')
    exact hparsed

/-- A store finds one thing only. -/
theorem Restores.unique {records records' : RecordSet} (h : fs.Restores path records)
    (h' : fs.Restores path records') : records' = records := by
  cases h with
  | missing hmissing =>
    cases h' with
    | missing _ => rfl
    | found hread _ =>
      rw [pathExists_of_readText? hread] at hmissing
      cases hmissing
  | found hread hparsed => exact Except.ok.inj ((h'.parsed hread).symm.trans hparsed)

theorem Restores.legible {records : RecordSet} (h : fs.Restores path records) :
    records.Legible ∧ records.Shallow := by
  cases h with
  | missing _ => exact ⟨RecordSet.legible_empty, RecordSet.shallow_empty⟩
  | found _ hparsed => exact Store.legible_of_parseRecords hparsed

end FileSystem

/-- A broker starts on what its store finds, with a gate that nothing has passed. -/
theorem Broker.start_ok_iff {registry : Registry} {path : String} {files : FileSystem} {b : Broker} :
    start registry (.new (.file path)) files = .ok b ↔
      ∃ records, files.Restores path records ∧ b = ⟨registry, .empty, ⟨.file path, records, .none⟩⟩ := by
  have hrestore : (Store.new (.file path)).restore files
      = (Store.new (.file path)).restoreFile files path := rfl
  unfold start
  rw [hrestore]
  unfold Store.restoreFile
  constructor
  · intro h
    split at h
    · -- a file that is there is read and parsed
      cases htext : files.readText? path with
      | none => rw [htext] at h; cases h
      | some text =>
        cases hparsed : Store.parseRecords text with
        | error problem => simp only [htext, hparsed] at h; cases h
        | ok records =>
          simp only [htext, hparsed] at h
          exact ⟨records, .found htext hparsed, (Except.ok.inj h).symm⟩
    · -- nothing is there, and the broker starts without records
      next hmissing =>
      exact ⟨.empty, .missing (by simpa using hmissing), (Except.ok.inj h).symm⟩
  · rintro ⟨records, hrestores, rfl⟩
    cases hrestores with
    | missing hmissing =>
      rw [if_neg (by simp [hmissing])]
      rfl
    | found hread hparsed =>
      rw [if_pos (FileSystem.pathExists_of_readText? hread)]
      simp only [hread, hparsed]
      rfl

/-! ### Sessions -/

namespace Session

variable {s : Session}

/-- A file that holds the records of a session has their text. -/
theorem Readable.reads (h : s.Readable) {path : String}
    (hholds : s.files.Holds path s.broker.store.records) :
    s.files.readText? path = some (RecordSet.shape.codec.write s.broker.store.records).pretty := by
  obtain ⟨document, hdocument, hread⟩ := hholds
  have hwritten := h.records.storable.writable.toDocument
  rw [hread, Except.ok.inj (hwritten.symm.trans hdocument)]

/-- A broker starts on a file that holds shallow records. -/
theorem Readable.starts (h : s.Readable) {path : String}
    (hholds : s.files.Holds path s.broker.store.records) (hshallow : s.broker.store.records.Shallow)
    (registry : Registry) : ∃ b, Broker.start registry (.new (.file path)) s.files = .ok b := by
  have hparsed := Store.parseRecords_of_shallow h.records hshallow
  exact ⟨_, Broker.start_ok_iff.2 ⟨_, .found (h.reads hholds) hparsed, rfl⟩⟩

/-- As long as nothing is saved, records and files are those of the beginning. -/
structure Unsaved (initial : RecordSet) (files : FileSystem) (s : Session) : Prop where
  sound : s.Sound
  records : Turn.attempts s.history = [] → s.broker.store.records = initial
  nodes : Turn.attempts s.history = [] → s.files.nodes = files.nodes
  workDir : Turn.attempts s.history = [] → s.files.workDir = files.workDir

theorem Unsaved.handle {initial : RecordSet} {files : FileSystem} (h : s.Unsaved initial files)
    (event : Event) : (s.handle event).Unsaved initial files := by
  rcases handle_sections h.sound event with hrests | ⟨c, hcommits⟩
  · refine ⟨h.sound.handle event, fun hnone => ?_, fun hnone => ?_, fun hnone => ?_⟩
    · exact hrests.records.trans (h.records (hrests.attempts ▸ hnone))
    · exact hrests.nodes.trans (h.nodes (hrests.attempts ▸ hnone))
    · exact hrests.workDir.trans (h.workDir (hrests.attempts ▸ hnone))
  · -- a section behind which there is no attempt to save does not exist
    have hsome : Turn.attempts (s.handle event).history ≠ [] := by
      rw [hcommits.attempts]
      exact List.concat_ne_nil _ _
    exact ⟨h.sound.handle event, fun hnone => absurd hnone hsome,
      fun hnone => absurd hnone hsome, fun hnone => absurd hnone hsome⟩

/-- What is known of a session on a record file whose calls have been accepted. -/
theorem run_kept {registry : Registry} {path : String} {files : FileSystem} {b : Broker}
    {events : List Event} (hstart : Broker.start registry (.new (.file path)) files = .ok b)
    (haccepted : ∀ event ∈ events, event.Accepted b.services) :
    ∃ records, files.Restores path records ∧ ((opened b files).run events).Readable ∧
      ((opened b files).run events).Unsaved records files ∧
      ((opened b files).run events).Filed registry path records files := by
  obtain ⟨records, hrestores, rfl⟩ := Broker.start_ok_iff.1 hstart
  let b : Broker := ⟨registry, .empty, ⟨.file path, records, .none⟩⟩
  have hsound : (opened b files).Sound := @Sound.initial b Outage.sparesRecords_none files
  refine ⟨records, hrestores, ?_, ?_, run_filed registry .empty path records files events⟩
  · -- the records that are found are legible, and every accepted event keeps them so
    refine run_induction_mem ⟨hsound, hrestores.legible.1, fun _ hcall => (nomatch hcall)⟩ ?_
    intro s event hevent hs
    exact hs.handle (haccepted event hevent)
  · refine run_induction ⟨hsound, fun _ => rfl, fun _ => rfl, fun _ => rfl⟩ ?_ events
    intro s event hs
    exact hs.handle event

/-- **Starting again.** If every save of a session has succeeded, another broker starts on its record
file exactly if no parameters in its records are nested too deeply for one. -/
theorem run_restarts_iff {registry registry' : Registry} {path : String} {files : FileSystem}
    {b : Broker} {events : List Event}
    (hstart : Broker.start registry (.new (.file path)) files = .ok b)
    (haccepted : ∀ event ∈ events, event.Accepted b.services)
    (hsaved : ∀ saved ∈ Turn.attempts ((opened b files).run events).history, saved = .ok ()) :
    (∃ b', Broker.start registry' (.new (.file path)) ((opened b files).run events).files = .ok b') ↔
      ((opened b files).run events).broker.store.records.Shallow := by
  obtain ⟨records, hrestores, hreadable, hunsaved, hfiled⟩ := run_kept hstart haccepted
  -- the last attempt to save decides what is in the file
  cases hlast : (Turn.attempts ((opened b files).run events).history).getLast? with
  | none =>
    have hnone := List.getLast?_eq_none_iff.1 hlast
    -- nothing has been saved, so what is found is what the first broker has started on
    have hsame := hrestores.of_nodes (hunsaved.nodes hnone) (hunsaved.workDir hnone)
    refine iff_of_true ⟨_, Broker.start_ok_iff.2 ⟨records, hsame, rfl⟩⟩ ?_
    rw [hunsaved.records hnone]
    exact hrestores.legible.2
  | some saved =>
    obtain rfl : saved = .ok () := hsaved saved (List.mem_of_getLast? hlast)
    have hholds := hfiled.current hlast
    constructor
    · rintro ⟨b', hstart'⟩
      obtain ⟨read, hrestores', -⟩ := Broker.start_ok_iff.1 hstart'
      exact Store.shallow_of_parseRecords hreadable.records
        (hrestores'.parsed (hreadable.reads hholds))
    · intro hshallow
      exact hreadable.starts hholds hshallow registry'

end Session

/-! ### A record file that no broker starts on -/

namespace DeepBinding

open Installation

/-- The bind that brings them. -/
def details : BindDetails := ⟨"svc", "", "app", none, some parameters⟩

/-- The records at the start: one instance. -/
def records : RecordSet :=
  ⟨Dict.empty.insert "i" ⟨"svc", "plan", "org", "space",
    .document (.obj [("name", .str "n"), ("volume", .obj [("volume_id", .str "v")])])⟩, .empty⟩

/-- The files at the start: the record file alone. -/
def files : FileSystem :=
  ⟨Dict.empty.insert "/records.json" (.file (.text (RecordSet.shape.codec.write records).pretty)),
    [], []⟩

/-- The broker at the start. -/
def broker : Broker := ⟨registry, .empty, ⟨.file path, records, .none⟩⟩

/-- The request for the bind. -/
def request : HttpRequest :=
  ⟨.put, "/v2/service_instances/i/service_bindings/b", some "application/json",
    (BindDetails.shape.codec.write details).pretty⟩

/-- The bind comes in, and the plugin answers the probe. -/
def events : List Event := [.arrival (.bind "i" "b" details), .answer 0 plugin]

theorem legible_details : details.toRecord.Legible := by
  rintro p (⟨⟩ : some parameters = some p)
  exact ⟨legible_parameters.1, nofun⟩

theorem legible_records : records.Legible := by
  refine ⟨fun e he => ?_, fun e he => (nomatch he)⟩
  rw [List.mem_singleton.1 he]
  refine .inr ⟨_, rfl, ⟨rfl, .obj ?_⟩, by decide⟩
  simp only [List.forall_mem_cons, List.not_mem_nil, false_imp_iff, implies_true, and_true]
  exact ⟨.str _, .obj (by simp [Json.Every.str])⟩

theorem size_lineBreak (level : Nat) : (Json.lineBreak level).utf8ByteSize = 2 * level + 1 := by
  have hblanks : ∀ n, (String.ofList (List.replicate n ' ')).utf8ByteSize = n := by
    intro n
    induction n with
    | zero => rfl
    | succ n ih =>
      rw [List.replicate_succ, ← List.singleton_append, String.ofList_append,
        String.utf8ByteSize_append, ih]
      exact Nat.add_comm 1 n
  rw [Json.lineBreak, String.utf8ByteSize_append, hblanks]
  exact Nat.add_comm 1 _

/-- Every array takes two lines, and a line is indented by the depth. -/
theorem size_nested (level n : Nat) :
    (Json.prettyAt level (nested n)).utf8ByteSize ≤ 4 + n * (4 * (level + n) + 6) := by
  induction n generalizing level with
  | zero =>
    rw [nested, Json.prettyAt]
    exact Nat.le_add_right 4 _
  | succ n ih =>
    have hinner := ih (level + 1)
    have hdepth : level + 1 + n = level + (n + 1) := Nat.succ_add_eq_add_succ level n
    have hlines := Nat.add_one_mul n (4 * (level + (n + 1)) + 6)
    have hopen : "[".utf8ByteSize = 1 := rfl
    have hclose : "]".utf8ByteSize = 1 := rfl
    rw [hdepth] at hinner
    rw [nested, Json.prettyAt, Json.prettyItems]
    · simp only [String.utf8ByteSize_append, size_lineBreak, hopen, hclose]
      omega
    · intro hempty
      cases hempty

/-- The body of the request is within the limit of a body. -/
theorem size_request : request.body.size ≤ HttpRequest.bodyLimit := by
  let text (deep : Json) : String := Json.prettyAt 0 (.obj [("service_id", .str "svc"),
    ("plan_id", .str ""), ("app_guid", .str "app"), ("parameters", .obj [("deep", deep)])])
  -- the text grows with what the parameters hold, and with nothing else
  have hgrows : ∀ deep, (text deep).utf8ByteSize + (Json.prettyAt 2 .null).utf8ByteSize
      = (text .null).utf8ByteSize + (Json.prettyAt 2 deep).utf8ByteSize := by
    intro deep
    simp only [text, Json.prettyAt, Json.prettyMembers, String.utf8ByteSize_append, Nat.zero_add,
      Nat.reduceAdd]
    omega
  have hnull : (text .null).utf8ByteSize ≤ 1000 := by decide +kernel
  have hnested : (Json.prettyAt 2 (nested RecordSet.room)).utf8ByteSize ≤ 100000 :=
    (size_nested 2 RecordSet.room).trans (by decide)
  have hlimit : HttpRequest.bodyLimit = 2097152 := rfl
  have hbody : request.body.size = (text (nested RecordSet.room)).utf8ByteSize := rfl
  have hsum := hgrows (nested RecordSet.room)
  rw [hbody]
  omega

/-- The body is read as the details: it is nested just within the reader's limit. -/
theorem details_request : request.details BindDetails.shape.codec = .ok details := by
  have hstorable : details.toRecord.Storable := by
    intro p hp
    obtain ⟨hlegible, hnull⟩ := legible_details p hp
    exact ⟨hlegible.tidy, hnull⟩
  have hreread : details.toRecord.reread = details.toRecord := by
    change BindingRecord.mk _ _ _ _ (some parameters.reread) = _
    rw [legible_parameters.2]
    rfl
  -- no number in the body changes when it is read
  have hbody : (BindDetails.shape.codec.write details).reread
      = BindDetails.shape.codec.write details := by
    rw [BindDetails.write_eq, BindingRecord.reread_write, hreread]
  have hdepth : (BindDetails.shape.codec.write details).depth ≤ Document.nestingLimit := by
    refine (details.toRecord.depth_write (n := RecordSet.room + 2) (by decide)).2 ?_
    rintro p (⟨⟩ : some parameters = some p)
    exact depth_parameters.le.trans (Nat.le_succ _)
  rw [HttpRequest.details_pretty (by rfl) rfl (BindDetails.readsBack hstorable)
    (BindingRecord.every_write legible_details) (congrArg Json.canonical hbody) hdepth size_request]
  change Except.ok (BindDetails.mk _ _ _ _ (some parameters.canonical)) = _
  rw [legible_parameters.1.canonical]
  rfl

/-- The bind is what the request demands. -/
theorem demand_request (services : List Service) :
    request.demand services = .operation (.bind "i" "b" details) := by
  -- the route depends on the target alone
  have hroute : Route.ofPath? request.path = some (.binding "i" "b") := by
    have hpath : request.path = HttpRequest.path ⟨.put, request.target, none, ""⟩ := rfl
    rw [hpath]
    decide +kernel
  have hbind : request.bind "i" "b" = .ok (.bind "i" "b" details) := by
    unfold HttpRequest.bind
    rw [details_request]
    rfl
  have hon : request.demandOn? services (.binding "i" "b") = some (request.bind "i" "b").toDemand := rfl
  unfold HttpRequest.demand
  rw [hroute]
  dsimp only
  rw [hon, hbind]
  rfl

theorem start_broker : Broker.start registry (.new (.file path)) files = .ok broker := by
  have hread : files.readText? path
      = some (RecordSet.shape.codec.write records).pretty := by
    unfold FileSystem.readText? FileSystem.node?
    rw [place?_path]
    rfl
  have hparsed := Store.parseRecords_of_shallow legible_records fun _ he => (nomatch he)
  exact Broker.start_ok_iff.2 ⟨records, .found hread hparsed, rfl⟩

/-- Every save succeeds. -/
theorem saving_events : ((Session.opened broker files).run events).Saving path := by
  refine Session.Saving.run ⟨⟨?_, legible_records.instances⟩, rfl, rfl, ?_, ?_⟩ ?_
  · exact @Session.Sound.initial broker Outage.sparesRecords_none files
  · exact unhindered rfl rfl rfl
  · exact fun _ hmem => (nomatch hmem)
  · intro event hevent
    rcases List.mem_cons.1 hevent with rfl | hevent
    · trivial
    · rw [List.mem_singleton.1 hevent]
      trivial

/-- The bind is recorded. -/
theorem records_events : ((Session.opened broker files).run events).broker.store.records
    = records.putBinding "b" details.toRecord := by
  -- behind the gate the bind runs its change at once
  let passed : Broker := { broker with gate := ProbeGate.empty.mark "svc" }
  let change : Change := .putBinding "i" "b" details
  have hrun : ((Session.opened broker files).run events).broker
      = (passed.commit files (change.run passed.registry passed.store)).broker := rfl
  rw [hrun, @Change.commit_run passed Outage.sparesRecords_none files change]
  rfl

/-- **A restart that fails.** The first broker starts, every event is accepted and every save succeeds,
and no other broker starts on the record file. -/
theorem not_restarts :
    Broker.start registry (.new (.file path)) files = .ok broker ∧
      (∀ event ∈ events, event.Accepted broker.services) ∧
      (∀ saved ∈ Turn.attempts ((Session.opened broker files).run events).history, saved = .ok ()) ∧
      ∀ registry', ¬ ∃ b, Broker.start registry' (.new (.file path))
        ((Session.opened broker files).run events).files = .ok b := by
  have haccepted : ∀ event ∈ events, event.Accepted broker.services := by
    intro event hevent
    rcases List.mem_cons.1 hevent with rfl | hevent
    · exact ⟨request, demand_request _⟩
    · rw [List.mem_singleton.1 hevent]
      trivial
  have hsaved := saving_events.saved
  refine ⟨start_broker, haccepted, hsaved, fun registry' hstarts => ?_⟩
  -- another broker would only start on shallow records
  have hshallow := (Session.run_restarts_iff start_broker haccepted hsaved).1 hstarts
  rw [records_events] at hshallow
  have hmem : ("b", details.toRecord) ∈ (records.putBinding "b" details.toRecord).bindings.entries :=
    List.mem_singleton_self _
  have hdepth := hshallow _ hmem parameters rfl
  rw [depth_parameters] at hdepth
  omega

end DeepBinding

end VolumeBroker
