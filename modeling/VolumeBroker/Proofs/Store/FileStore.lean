import VolumeBroker.Proofs.Files.Unhindered
import VolumeBroker.Proofs.Store.TwoMaps
/-!
# A file store is two maps

A `FileStore` is a store on a record file together with the files around it, and a run of it a list of
calls between which the surroundings may change. Its records are the working dataset, what its file
stands for is the durable one (`FileStore.view`). `FileStore.run_refines` says that every run of a store is
a run of two maps, whatever gets in the way of its saves: a directory that cannot be made, a file that
cannot be written or moved, or a slot that has no document.

The way there is one inversion lemma for each call that looks at the files (`FileStore.step_save`,
`step_restore`, `step_reopen`), an invariant that a call keeps (`FileStore.Proper.step`), and what a call
does to the two maps (`FileStore.Proper.allows`).
-/

namespace VolumeBroker

/-! ### File stores -/

/-- A file store in its surroundings. -/
structure FileStore where
  /-- The path of the record file. -/
  path : String
  /-- The records in memory. -/
  records : RecordSet
  files : FileSystem

/-- What happens to a file store. -/
inductive StoreEvent where
  | call (call : StoreCall)
  /-- Something else changes the files: what gets in the way of a save comes and goes. -/
  | surroundings (files : FileSystem)

namespace FileStore

/-- The store without its surroundings. -/
def store (s : FileStore) : Store := ⟨.file s.path, s.records, .none⟩

/-- Goes on with the records of a store, if there is one. -/
def adopt {α : Type} (s : FileStore) (answer : α) :
    Except StoreError Store → FileStore × Except StoreError α
  | .ok store => ({ s with records := store.records }, .ok answer)
  | .error e => (s, .error e)

/-- A call on the instances. -/
def onInstances (s : FileStore) :
    TableCall InstanceRecord → FileStore × Except StoreError (TableAnswer InstanceRecord)
  | .create id record => s.adopt .done (s.store.createInstance id record)
  | .retrieve id => (s, (s.store.retrieveInstance id).map .found)
  | .delete id => s.adopt .done (s.store.deleteInstance id)
  | .conflicts id record => (s, .ok (.conflicts (s.records.instanceConflicts id record)))
  | .ids => (s, .ok (.ids s.store.instanceIds))

/-- A call on the bindings. -/
def onBindings (s : FileStore) :
    TableCall BindingRecord → FileStore × Except StoreError (TableAnswer BindingRecord)
  | .create id record => s.adopt .done (s.store.createBinding id record)
  | .retrieve id => (s, (s.store.retrieveBinding id).map .found)
  | .delete id => s.adopt .done (s.store.deleteBinding id)
  | .conflicts id record => (s, .ok (.conflicts (s.records.bindingConflicts id record)))
  | .ids => (s, .ok (.ids s.store.bindingIds))

/-- A call: the store afterwards, and the answer. -/
def step (s : FileStore) : StoreCall → FileStore × Except StoreError StoreAnswer
  | .instances call => ((s.onInstances call).1, (s.onInstances call).2.map .instances)
  | .bindings call => ((s.onBindings call).1, (s.onBindings call).2.map .bindings)
  | .save => ({ s with files := (s.store.save s.files).1 }, (s.store.save s.files).2.map fun () => .done)
  | .restore => s.adopt .done (s.store.restore s.files)
  | .reopen => s.adopt .done (Store.openFile s.path s.files)

/-- The store after an event. -/
def handle (s : FileStore) : StoreEvent → FileStore
  | .call call => (s.step call).1
  | .surroundings files => { s with files }

/-- The store after events. -/
def run (s : FileStore) (events : List StoreEvent) : FileStore := events.foldl handle s

/-- The calls among events, with their answers. -/
def trace (s : FileStore) : List StoreEvent → StoreTrace
  | [] => []
  | .call call :: events => (call, (s.step call).2) :: trace (s.step call).1 events
  | .surroundings files :: events => trace { s with files } events

/-- A store on a path that names a file and finds what it leads to, and with proper records. -/
structure Proper (s : FileStore) : Prop where
  named : (FilePath.fileName? s.path).isSome
  leads : ".." ∉ FilePath.segments s.path → s.files.Leads s.path
  records : s.records.Proper

/-- Calls hand in proper records, and the surroundings leave alone what stands at the path. -/
def Admits (s : FileStore) : StoreEvent → Prop
  | .call call => call.Proper
  | .surroundings files => files.node? s.path = s.files.node? s.path ∧
      (".." ∉ FilePath.segments s.path → files.Leads s.path)

/-- All events of a run are admitted where they happen. -/
def AdmitsAll (s : FileStore) : List StoreEvent → Prop
  | [] => True
  | event :: events => s.Admits event ∧ (s.handle event).AdmitsAll events

end FileStore

/-- A file store as two maps. -/
def FileStore.view (s : FileStore) : TwoMaps := ⟨s.records.dataset, .of s.files s.path⟩

/-! ### One call -/

namespace FileStore

variable {s : FileStore} {call : StoreCall} {event : StoreEvent}

theorem onInstances_eq (s : FileStore) (call : TableCall InstanceRecord) :
    s.onInstances call =
      ({ s with records := ⟨(s.records.instances.answer .serviceInstance
          InstanceRecord.sameIdentity call).1, s.records.bindings⟩ },
        (s.records.instances.answer .serviceInstance InstanceRecord.sameIdentity call).2) := by
  cases call with
  | create id record => rfl
  | retrieve id =>
    unfold onInstances Dict.answer Store.retrieveInstance store
    dsimp only
    cases s.records.instances.get? id <;> rfl
  | delete id =>
    unfold onInstances Dict.answer Store.deleteInstance store
    dsimp only
    cases s.records.instances.contains id <;> rfl
  | conflicts id record => rfl
  | ids => rfl

theorem onBindings_eq (s : FileStore) (call : TableCall BindingRecord) :
    s.onBindings call =
      ({ s with records := ⟨s.records.instances, (s.records.bindings.answer .serviceBinding
          BindingRecord.same call).1⟩ },
        (s.records.bindings.answer .serviceBinding BindingRecord.same call).2) := by
  cases call with
  | create id record => rfl
  | retrieve id =>
    unfold onBindings Dict.answer Store.retrieveBinding store
    dsimp only
    cases s.records.bindings.get? id <;> rfl
  | delete id =>
    unfold onBindings Dict.answer Store.deleteBinding store
    dsimp only
    cases s.records.bindings.contains id <;> rfl
  | conflicts id record => rfl
  | ids => rfl

theorem step_instances (s : FileStore) (call : TableCall InstanceRecord) :
    s.step (.instances call) =
      ({ s with records := ⟨(s.records.instances.answer .serviceInstance
          InstanceRecord.sameIdentity call).1, s.records.bindings⟩ },
        (s.records.instances.answer .serviceInstance InstanceRecord.sameIdentity call).2.map
          .instances) := by
  change ((s.onInstances call).1, (s.onInstances call).2.map _) = _
  rw [onInstances_eq]

theorem step_bindings (s : FileStore) (call : TableCall BindingRecord) :
    s.step (.bindings call) =
      ({ s with records := ⟨s.records.instances, (s.records.bindings.answer .serviceBinding
          BindingRecord.same call).1⟩ },
        (s.records.bindings.answer .serviceBinding BindingRecord.same call).2.map .bindings) := by
  change ((s.onBindings call).1, (s.onBindings call).2.map _) = _
  rw [onBindings_eq]

/-- **What a save does**: it fails on a slot that has no document, replaces the record file, or is
hindered from replacing it. -/
inductive Saving (s : FileStore) : FileStore × Except StoreError StoreAnswer → Prop
  | unencodable {reason id : String} {r : InstanceRecord}
    (hthere : s.records.instances.get? id = some r)
    (hslot : r.fingerprint.toDocument = .error reason) : Saving s (s, .error (.encode reason))
  | replaced {files : FileSystem} (hwritable : s.records.Writable)
    (hreplace : Store.replaceFile s.files s.path (RecordSet.shape.codec.write s.records).pretty
      = (files, .ok ())) : Saving s ({ s with files }, .ok .done)
  | hindered {files : FileSystem} {place reason : String} (hwritable : s.records.Writable)
    (hreplace : Store.replaceFile s.files s.path (RecordSet.shape.codec.write s.records).pretty
      = (files, .error (.io place reason))) : Saving s ({ s with files }, .error (.io place reason))

/-- **What reading the record file does**: without a file it goes on with some records or other, else
with those of the file, or it fails. -/
inductive Reading (s : FileStore) (otherwise : RecordSet) :
    FileStore × Except StoreError StoreAnswer → Prop
  | absent (habsent : Durable.of s.files s.path = .absent) :
    Reading s otherwise ({ s with records := otherwise }, .ok .done)
  | held {records : RecordSet} (hheld : Durable.of s.files s.path = .held records.dataset)
    (hlegible : records.Legible) : Reading s otherwise ({ s with records }, .ok .done)
  | unreadable {e : StoreError} (hunreadable : Durable.of s.files s.path = .unreadable e) :
    Reading s otherwise (s, .error e)

/-- A save ends in one of the three ways. -/
theorem step_save (s : FileStore) : s.Saving (s.step .save) := by
  have hguard : s.store.guardOutage .save = .ok () := rfl
  have hstep : s.step .save = ({ s with files := (s.store.save s.files).1 },
      (s.store.save s.files).2.map fun () => .done) := rfl
  rw [hstep]
  -- nothing is written before all slots have their documents
  rcases s.records.toDocument_cases with hwritable | ⟨reason, id, r, hr, hslot, hdocument⟩
  · rw [Store.save_eq hguard rfl hwritable.toDocument]
    cases hreplace : Store.replaceFile s.files s.path (RecordSet.shape.codec.write s.records).pretty with
    | mk files saved =>
      cases saved with
      | ok _ => exact .replaced hwritable hreplace
      | error e =>
        -- whatever hinders it is something about files
        obtain ⟨place, reason, rfl⟩ := Store.replaceFile_io hreplace
        exact .hindered hwritable hreplace
  · rw [Store.save_eq_of_error hguard rfl hdocument]
    exact .unencodable hr hslot

/-- What the store does with the record file, whatever it falls back on. -/
theorem reading_restoreFile (s : FileStore) (records : RecordSet) :
    s.Reading records
      (s.adopt .done (Store.restoreFile ⟨.file s.path, records, .none⟩ s.files s.path)) := by
  unfold Store.restoreFile FileSystem.pathExists FileSystem.readText?
  cases hnode : s.files.node? s.path with
  | none => exact .absent (Durable.of_eq_absent_iff.2 hnode)
  | some node =>
    -- something is there, but only of a text can records be read
    rw [if_pos Option.isSome_some]
    rcases node with (text | bytes) | _
    · have hdurable := Durable.of_text hnode
      dsimp only
      cases hparsed : Store.parseRecords text with
      | ok read =>
        rw [hparsed] at hdurable
        exact .held hdurable (Store.legible_of_parseRecords hparsed).1
      | error problem =>
        rw [hparsed] at hdurable
        exact .unreadable hdurable
    · exact .unreadable (Durable.of_other hnode nofun)
    · exact .unreadable (Durable.of_other hnode nofun)

/-- A restore without a file goes on with the records in memory. -/
theorem step_restore (s : FileStore) : s.Reading s.records (s.step .restore) :=
  s.reading_restoreFile s.records

/-- Opening the path again without a file goes on without records. -/
theorem step_reopen (s : FileStore) : s.Reading .empty (s.step .reopen) :=
  s.reading_restoreFile .empty

/-- Reading changes the records alone, and not even them if it fails. -/
theorem Reading.frame {otherwise : RecordSet} {outcome : FileStore × Except StoreError StoreAnswer}
    (h : s.Reading otherwise outcome) :
    ∃ records, outcome.1 = { s with records } ∧ ∀ e, outcome.2 = .error e → records = s.records := by
  cases h with
  | absent => exact ⟨otherwise, rfl, fun _ herror => nomatch herror⟩
  | @held records => exact ⟨records, rfl, fun _ herror => nomatch herror⟩
  | unreadable => exact ⟨s.records, rfl, fun _ _ => rfl⟩

/-! ### What a call leaves alone -/

/-- Every call but a save leaves path and files alone, and if it fails the records, too. -/
theorem step_other (s : FileStore) (hcall : call ≠ .save) :
    ∃ records, (s.step call).1 = { s with records } ∧
      ∀ e, (s.step call).2 = .error e → records = s.records := by
  cases call with
  | instances call =>
    rw [step_instances]
    refine ⟨_, rfl, fun e herror => ?_⟩
    rw [Dict.answer_of_error (of_map_error herror)]
  | bindings call =>
    rw [step_bindings]
    refine ⟨_, rfl, fun e herror => ?_⟩
    rw [Dict.answer_of_error (of_map_error herror)]
  | save => exact absurd rfl hcall
  | restore => exact s.step_restore.frame
  | reopen => exact s.step_reopen.frame

theorem step_path (s : FileStore) (call : StoreCall) : (s.step call).1.path = s.path := by
  by_cases hcall : call = .save
  · rw [hcall]
    rfl
  · obtain ⟨records, hstep, -⟩ := s.step_other hcall
    rw [hstep]

/-- What a call does to memory and files, beside what two maps show of it. -/
structure Steady (s : FileStore) : Prop where
  /-- A save leaves the memory alone. -/
  memory : (s.step .save).1.records = s.records
  /-- A save that succeeds leaves the document of the records, and no temporary file. -/
  saved : (s.step .save).2 = .ok .done →
    (s.step .save).1.files.Holds s.path s.records ∧
      (s.step .save).1.files.pathExists (Store.temporaryPath s.path) = false
  /-- A save that fails leaves the record file as it was. -/
  unsaved : ∀ e, (s.step .save).2 = .error e →
    s.files.Spares (s.step .save).1.files (s.files.lexicalPlace s.path)
  /-- A save succeeds where nothing is in its way. -/
  saves : s.records.Writable → Store.Unhindered s.files s.path → (s.step .save).2 = .ok .done
  /-- Nothing but a save touches the files. -/
  files : ∀ call, call ≠ .save → (s.step call).1.files = s.files
  /-- Any other call that fails has changed nothing. -/
  failed : ∀ call e, call ≠ .save → (s.step call).2 = .error e → (s.step call).1 = s

theorem steady (s : FileStore) : s.Steady where
  memory := rfl
  saved hsaved := by
    have hsave := s.step_save
    generalize s.step .save = outcome at hsave hsaved
    cases hsave with
    | unencodable => cases hsaved
    | replaced hwritable hreplace =>
      exact ⟨⟨_, hwritable.toDocument, Store.replaceFile_ok hreplace⟩,
        Store.replaceFile_temporary hreplace⟩
    | hindered => cases hsaved
  unsaved e hunsaved := by
    have hsave := s.step_save
    generalize s.step .save = outcome at hsave hunsaved
    cases hsave with
    | unencodable => exact .refl _ _
    | replaced => cases hunsaved
    | hindered _ hreplace => exact Store.replaceFile_error hreplace
  saves hwritable hunhindered := by
    have hsave := s.step_save
    generalize s.step .save = outcome at hsave
    cases hsave with
    | unencodable hthere hslot =>
      -- every slot has a document, this one as well
      obtain ⟨value, hvalue⟩ := hwritable _ _ hthere
      exact nomatch hslot.symm.trans hvalue
    | replaced => rfl
    | hindered _ hreplace =>
      obtain ⟨files, hreplaced, -⟩ := hunhindered.replaceFile _
      exact nomatch hreplace.symm.trans hreplaced
  files call hcall := by
    obtain ⟨records, hstep, -⟩ := s.step_other hcall
    rw [hstep]
  failed call e hcall herror := by
    obtain ⟨records, hstep, hrecords⟩ := s.step_other hcall
    rw [hstep, hrecords e herror]

/-! ### One event -/

/-- What is read is proper, so only what is fallen back on has to be. -/
theorem Reading.proper {otherwise : RecordSet} {outcome : FileStore × Except StoreError StoreAnswer}
    (h : s.Reading otherwise outcome) (hs : s.Proper) (hotherwise : otherwise.Proper) :
    outcome.1.Proper := by
  cases h with
  | absent => exact ⟨hs.named, hs.leads, hotherwise⟩
  | held _ hlegible => exact ⟨hs.named, hs.leads, hlegible.proper⟩
  | unreadable => exact hs

/-- **A call keeps a store proper.** -/
theorem Proper.step (h : s.Proper) (hcall : call.Proper) : (s.step call).1.Proper := by
  have ⟨hnamed, hleads, hrecords⟩ := h
  cases call with
  | instances call =>
    rw [step_instances]
    exact ⟨hnamed, hleads, Dict.forall_mem_answer hrecords.instances hcall, hrecords.bindings⟩
  | bindings call =>
    rw [step_bindings]
    exact ⟨hnamed, hleads, hrecords.instances, Dict.forall_mem_answer hrecords.bindings hcall⟩
  | save =>
    have hsave := s.step_save
    generalize s.step .save = outcome at hsave
    cases hsave with
    | unencodable => exact ⟨hnamed, hleads, hrecords⟩
    | replaced _ hreplace =>
      -- the path finds what has been written
      have hnode := FileSystem.readText?_eq_some_iff.1 (Store.replaceFile_ok hreplace)
      exact ⟨hnamed, fun _ => .of_node? hnode, hrecords⟩
    | hindered _ hreplace =>
      obtain ⟨name, hname⟩ := Option.isSome_iff_exists.1 hnamed
      refine ⟨hnamed, fun hup => ?_, hrecords⟩
      -- no directory has gone, so the path finds what it found
      exact (Store.replaceFile_node? hreplace hname hup (hleads hup)).2
  | restore => exact s.step_restore.proper h hrecords
  | reopen => exact s.step_reopen.proper h RecordSet.legible_empty.proper

theorem Proper.handle (h : s.Proper) (hevent : s.Admits event) : (s.handle event).Proper := by
  cases event with
  | call call => exact h.step hevent
  | surroundings files => exact ⟨h.named, hevent.2, h.records⟩

/-- A save that fails leaves what the record file stands for. -/
theorem Proper.durable_of_error (h : s.Proper) {files : FileSystem} {text : String} {e : StoreError}
    (hreplace : Store.replaceFile s.files s.path text = (files, .error e)) :
    Durable.of files s.path = Durable.of s.files s.path ∨
      ".." ∈ FilePath.segments s.path ∧ Durable.of s.files s.path = .absent := by
  by_cases hup : ".." ∈ FilePath.segments s.path
  · cases hnode : s.files.node? s.path with
    | none => exact .inr ⟨hup, Durable.of_eq_absent_iff.2 hnode⟩
    | some node =>
      -- what is there stays there, wherever the path leads
      have hstays := (Store.replaceFile_error hreplace).node? hnode
      exact .inl (Durable.of_congr (hstays.trans hnode.symm))
  · -- on a path that does not lead upwards nothing comes to stand
    obtain ⟨name, hname⟩ := Option.isSome_iff_exists.1 h.named
    have hstays := (Store.replaceFile_node? hreplace hname hup (h.leads hup)).1
    exact .inl (Durable.of_congr hstays)

/-- **A call is answered as by two maps**, and leaves what it leaves of them. -/
theorem Proper.allows (h : s.Proper) (call : StoreCall) :
    s.view.Allows s.path call (s.step call).2 (s.step call).1.view := by
  cases call with
  | instances call =>
    rw [step_instances]
    exact .instances (Dict.answer_allows _ _ _ call)
  | bindings call =>
    rw [step_bindings]
    exact .bindings (Dict.answer_allows _ _ _ call)
  | save =>
    have hsave := s.step_save
    generalize s.step .save = outcome at hsave
    cases hsave with
    | unencodable hthere hslot => exact .unencodable hthere hslot
    | replaced hwritable hreplace =>
      have hread := Store.replaceFile_ok hreplace
      exact .saved hwritable (Durable.savedAs_of_pretty h.records hread)
    | hindered hwritable hreplace => exact .unsaved hwritable (h.durable_of_error hreplace)
  | restore =>
    have hrestore := s.step_restore
    generalize s.step .restore = outcome at hrestore
    cases hrestore with
    | absent habsent => exact .kept habsent
    | held hheld => exact .restored hheld
    | unreadable hunreadable => exact .unrestored hunreadable
  | reopen =>
    have hreopen := s.step_reopen
    generalize s.step .reopen = outcome at hreopen
    -- the durable dataset is opened as what the file stands for
    have hopens : ∀ {d : Dataset}, (Durable.of s.files s.path).Opens d →
        s.view.Allows s.path .reopen (.ok .done) ⟨d, Durable.of s.files s.path⟩ :=
      fun h => .reopened h
    cases hreopen with
    | absent habsent => exact hopens (habsent ▸ .absent)
    | held hheld => exact hopens (hheld ▸ .held _)
    | unreadable hunreadable => exact .unopened hunreadable

/-! ### Runs -/

/-- **A file store refines two maps.** For a store and the events that happen to it. -/
structure Refines (s : FileStore) (events : List StoreEvent) : Prop where
  /-- All calls are answered as by two maps, and leave what they leave. -/
  runs : s.view.Runs s.path (s.trace events) (s.run events).view
  /-- Whatever comes next spares memory and files as far as it can. -/
  steady : (s.run events).Steady
  /-- A file that is missing is absent. -/
  missing : (s.run events).files.pathExists s.path = false ↔ (s.run events).view.durable = .absent
  /-- A file that is blank holds the empty dataset. -/
  blank : ∀ text, (s.run events).files.readText? s.path = some text → isBlankText text = true →
    (s.run events).view.durable = .held .empty
  /-- What comes back from a file has other slots, and other numbers only if their texts say so. -/
  exact : (s.run events).view.working.Exact →
    (s.run events).view.working.returned = (s.run events).view.working.documented

theorem run_path (s : FileStore) (events : List StoreEvent) : (s.run events).path = s.path := by
  induction events generalizing s with
  | nil => rfl
  | cons event events ih =>
    refine (ih (s.handle event)).trans ?_
    cases event with
    | call call => exact s.step_path call
    | surroundings files => rfl

/-- Every run of a proper store is a run of two maps. -/
theorem Proper.runs (h : s.Proper) {events : List StoreEvent} (hevents : s.AdmitsAll events) :
    s.view.Runs s.path (s.trace events) (s.run events).view := by
  -- every event leaves a proper store, so the next call is answered as by two maps
  induction events generalizing s with
  | nil => exact .nil _
  | cons event events ih =>
    obtain ⟨hevent, hrest⟩ := hevents
    have hproper := h.handle hevent
    have hruns := ih hproper hrest
    cases event with
    | call call =>
      have hpath : (s.handle (.call call)).path = s.path := s.step_path call
      rw [hpath] at hruns
      exact .cons (h.allows call) hruns
    | surroundings files =>
      -- what the surroundings do cannot be seen in the two maps
      have hview : (s.handle (.surroundings files)).view = s.view := by
        unfold view
        exact congrArg (TwoMaps.mk s.records.dataset) (Durable.of_congr hevent.1)
      rw [hview] at hruns
      exact hruns

/-- **Every run of a file store refines two maps**, whatever gets in the way of its saves: as long as it is
handed proper records, and nothing else touches the record file. -/
theorem run_refines {events : List StoreEvent} (h : s.Proper) (hevents : s.AdmitsAll events) :
    s.Refines events := by
  have hpath := s.run_path events
  refine ⟨h.runs hevents, (s.run events).steady, ?_, ?_, Dataset.Exact.returned_eq⟩
  -- the path is still the one that it began with
  · unfold view FileSystem.pathExists
    rw [Durable.of_eq_absent_iff, hpath, Option.isSome_eq_false_iff, Option.isNone_iff_eq_none]
  · intro text hread hblank
    unfold view
    rw [hpath]
    exact Durable.of_blank hread hblank

end FileStore

/-! ### A save whose file is not read again -/

namespace DeepBinding

open Installation

/-- A store without records and files. -/
def fileStore : FileStore := ⟨path, .empty, .empty⟩

/-- A binding with parameters that are one level too deep. -/
def record : BindingRecord := ⟨"svc", "plan", "app", none, some parameters⟩

/-- The binding is put into the store and saved, and the path is opened again. -/
def storeEvents : List StoreEvent :=
  [.call (.bindings (.create "b" record)), .call .save, .call .reopen]

theorem legible_record : record.Legible := by
  rintro p (⟨⟩ : some parameters = some p)
  exact ⟨legible_parameters.1, nofun⟩

theorem proper_fileStore : fileStore.Proper where
  named := by decide +kernel
  leads hup := FileSystem.isTree_empty.leads hup
  records := RecordSet.legible_empty.proper

/-- The binding does not fit into a record file. -/
theorem not_fits {records : RecordSet} (hrecords : records.bindings.get? "b" = some record) :
    ¬ records.dataset.Fits := by
  intro hfits
  have hdepth := hfits.bindings "b" record hrecords parameters rfl
  rw [depth_parameters] at hdepth
  exact Nat.not_succ_le_self _ hdepth

/-- The store that holds the binding. -/
def holding : FileStore := { fileStore with records := RecordSet.empty.putBinding "b" record }

theorem step_create :
    fileStore.step (.bindings (.create "b" record)) = (holding, .ok (.bindings .done)) := rfl

theorem proper_holding : holding.Proper := by
  have hcall : StoreCall.Proper (.bindings (.create "b" record)) := legible_record
  exact proper_fileStore.step hcall

/-- Nothing is in the way of the save. -/
theorem save_holding : ∃ files, holding.step .save = ({ holding with files }, .ok .done) ∧
    holding.records.dataset.SavedAs path (Durable.of files path) := by
  have hdone : (holding.step .save).2 = .ok .done :=
    holding.steady.saves (fun _ _ hr => (nomatch hr)) (unhindered rfl rfl rfl)
  have hsave := holding.step_save
  generalize holding.step .save = outcome at hsave hdone
  cases hsave with
  | unencodable hthere => cases hthere
  | replaced _ hreplace =>
    have hread := Store.replaceFile_ok hreplace
    exact ⟨_, rfl, Durable.savedAs_of_pretty proper_holding.records hread⟩
  | hindered => cases hdone

/-- What has been saved does not fit, so it is not read. -/
theorem reopen_holding {files : FileSystem}
    (hsaved : holding.records.dataset.SavedAs path (Durable.of files path)) :
    ∃ problem, FileStore.step { holding with files } .reopen
      = ({ holding with files }, .error (.decode path problem)) := by
  have hreopen := FileStore.step_reopen { holding with files }
  generalize FileStore.step { holding with files } .reopen = outcome at hreopen
  -- the binding is in the way of reading what has been saved
  have hbinding : holding.records.bindings.get? "b" = some record := Dict.get?_insert_self ..
  generalize hdurable : Durable.of files path = durable at hsaved
  cases hsaved with
  | held hfits => exact absurd hfits (not_fits hbinding)
  | unreadable _ problem =>
    cases hreopen with
    | absent habsent => exact nomatch hdurable.symm.trans habsent
    | held hheld => exact nomatch hdurable.symm.trans hheld
    | unreadable hunreadable =>
      obtain rfl := Durable.unreadable.inj (hunreadable.symm.trans hdurable)
      exact ⟨problem, rfl⟩

/-- **A durable dataset out of reach.** The save succeeds, and the path does not open again. -/
theorem reopening_fails :
    fileStore.Proper ∧ fileStore.AdmitsAll storeEvents ∧ fileStore.Refines storeEvents ∧
      ∃ problem, (fileStore.trace storeEvents).map Prod.snd
        = [.ok (.bindings .done), .ok .done, .error (.decode path problem)] := by
  have hadmits : fileStore.AdmitsAll storeEvents := ⟨legible_record, trivial, trivial, trivial⟩
  refine ⟨proper_fileStore, hadmits, FileStore.run_refines proper_fileStore hadmits, ?_⟩
  obtain ⟨files, hstep, hsaved⟩ := save_holding
  obtain ⟨problem, hreopen⟩ := reopen_holding hsaved
  refine ⟨problem, ?_⟩
  simp only [storeEvents, FileStore.trace, step_create, hstep, hreopen, List.map_cons, List.map_nil]

end DeepBinding

end VolumeBroker
