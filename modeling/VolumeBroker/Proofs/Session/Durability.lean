import VolumeBroker.Proofs.Files.Replace
import VolumeBroker.Proofs.Session.Serial
/-!
# What the record file holds

In a session on a file store, memory, record file and answers move separately: a section changes the
memory, attempts to save, and answers according to the attempt. `Session.Durable` says how they hang
together at each moment, and `Session.run_durable` that every session satisfies it:

* the file is the start-up file until a save succeeds (`Durable.startup`), and from then on it is the
  encoding of the records after all changes up to the last successful save (`Durable.saved`);
* a section attempts one save of what it leaves in memory, and nothing else touches the files
  (`Durable.sections`);
* an answer that is good is saved when it is given (`Durable.answered`), and what is saved stays
  covered by the file, whatever happens later (`Durable.later`).

The history carries the proof: `Turn.savedPart` is the part of it that the file stands for, and a turn
either extends it to the whole history or leaves it and the file as they are.
-/

namespace VolumeBroker

/-! ### The saved part of a history -/

namespace Turn

/-- Whether a turn has saved the records. -/
def isSaved (turn : Turn) : Bool :=
  match turn.saved with
  | some (.ok ()) => true
  | _ => false

/-- The turns up to the last one that has saved the records. -/
def savedPart (history : List Turn) : List Turn :=
  (history.reverse.dropWhile fun turn => !turn.isSaved).reverse

/-- What came of the attempts to save, in their order. -/
def attempts (history : List Turn) : List (Except StoreError Unit) := history.filterMap Turn.saved

variable {history : List Turn} {turn : Turn}

theorem isSaved_iff : turn.isSaved = true ↔ turn.saved = some (.ok ()) := by
  unfold isSaved
  split
  · next h => exact iff_of_true rfl h
  · next h => exact iff_of_false Bool.false_ne_true h

@[simp] theorem savedPart_nil : savedPart [] = [] := rfl

theorem savedPart_concat_of_saved (h : turn.isSaved = true) :
    savedPart (history ++ [turn]) = history ++ [turn] := by
  unfold savedPart
  rw [List.reverse_concat, List.dropWhile_cons, h]
  simp

theorem savedPart_concat_of_unsaved (h : turn.isSaved = false) :
    savedPart (history ++ [turn]) = savedPart history := by
  unfold savedPart
  rw [List.reverse_concat, List.dropWhile_cons, h]
  simp

theorem savedPart_prefix (history : List Turn) : savedPart history <+: history := by
  rw [← List.reverse_suffix]
  unfold savedPart
  rw [List.reverse_reverse]
  exact List.dropWhile_suffix _

theorem attempts_concat (history : List Turn) (turn : Turn) :
    attempts (history ++ [turn]) = attempts history ++ turn.saved.toList := by
  unfold attempts
  rw [List.filterMap_append]
  cases h : turn.saved <;> simp [h]

end Turn

/-! ### Sessions on a file store -/

namespace Session

/-- Nothing is saved: records and files stay, and no change is run. -/
structure Rests (s s' : Session) : Prop where
  records : s'.broker.store.records = s.broker.store.records
  nodes : s'.files.nodes = s.files.nodes
  workDir : s'.files.workDir = s.files.workDir
  changes : Turn.changes s'.history = Turn.changes s.history
  attempts : Turn.attempts s'.history = Turn.attempts s.history

/-- One change is run, and behind it one attempt is made to save what it has left in memory. -/
structure Commits (s s' : Session) (c : Change) : Prop where
  records : s'.broker.store.records = (c.apply s.broker.registry s.broker.store.records).1
  files : s'.files = (s'.broker.store.save s.files).1
  changes : Turn.changes s'.history = Turn.changes s.history ++ [c]
  attempts : Turn.attempts s'.history
    = Turn.attempts s.history ++ [(s'.broker.store.save s.files).2]

/-- **What the record file holds.** For a session that began on some records and files. -/
structure Durable (r : Registry) (path : String) (initial : RecordSet) (files : FileSystem)
    (s : Session) : Prop where
  /-- Until a save succeeds the file is the one that was there at the start. -/
  startup : Turn.savedPart s.history = [] → files.Spares s.files (files.lexicalPlace path)
  /-- From then on it is the encoding of the records as of the last successful save. -/
  saved : Turn.savedPart s.history ≠ [] →
    s.files.Holds path (Change.replay r initial (Turn.changes (Turn.savedPart s.history)))
  /-- Every event runs a change and attempts to save, or leaves records and files alone. -/
  sections : ∀ event, s.Rests (s.handle event) ∨ ∃ c, s.Commits (s.handle event) c
  /-- If the last attempt to save has succeeded, the file encodes the records in memory. -/
  current : (Turn.attempts s.history).getLast? = some (.ok ()) →
    s.files.Holds path s.broker.store.records
  /-- A good answer is saved when it is given. -/
  answered : ∀ before turn reply, s.history = before ++ [turn] →
    turn.progress = .finished (.ok reply) →
      turn.saved = some (.ok ()) ∧ s.files.Holds path s.broker.store.records
  /-- What has been saved stays saved: later on the file stands for no shorter part of the history. -/
  later : ∀ events, Turn.savedPart s.history <+: Turn.savedPart (s.run events).history

/-! ### One event -/

variable {r : Registry} {path : String} {initial : RecordSet} {files : FileSystem}
  {s s' : Session} {turn : Turn}

theorem Takes.rests (h : s.Takes s' turn) (hc : turn.change = none) : s.Rests s' := by
  obtain ⟨step, hmeets, hbroker, hfiles, hsaved, -, -⟩ := h.step
  rw [hc] at hmeets
  obtain ⟨-, hstore, hsame, hnone, -⟩ := hmeets
  refine ⟨by rw [hbroker, hstore], by rw [hfiles, hsame], by rw [hfiles, hsame], ?_, ?_⟩
  · rw [h.history, Turn.changes_concat, hc]
    exact List.append_nil _
  · rw [h.history, Turn.attempts_concat, hsaved, hnone]
    exact List.append_nil _

theorem Takes.commits (h : s.Takes s' turn) {c : Change} (hc : turn.change = some c) :
    s.Commits s' c ∧ turn.saved = some (s'.broker.store.save s.files).2 := by
  obtain ⟨step, hmeets, hbroker, hfiles, hsaved, -, -⟩ := h.step
  rw [hc] at hmeets
  obtain ⟨-, hstore, hsame, hsome, -⟩ := hmeets
  -- what is saved is the store behind the change
  rw [← hbroker] at hstore hsame hsome
  refine ⟨⟨by rw [hstore], hfiles.trans hsame, ?_, ?_⟩, hsaved.trans hsome⟩
  · rw [h.history, Turn.changes_concat, hc]
    rfl
  · rw [h.history, Turn.attempts_concat, hsaved, hsome]
    rfl

/-- An event at which no call takes a step leaves records and files alone. -/
theorem Idles.rests (h : s.Idles s') : s.Rests s' :=
  ⟨h.records, h.nodes, h.workDir, by rw [h.history], by rw [h.history]⟩

/-- What an event does to the file: it saves the records behind all turns so far, or it leaves the
file and the saved part of the history as they are. -/
theorem handle_file (hs : s.Regular r initial) (hmedium : s.broker.store.medium = .file path)
    (event : Event) :
    ((s.handle event).files.Holds path (s.handle event).broker.store.records ∧
        Turn.savedPart (s.handle event).history = (s.handle event).history ∧
        (s.handle event).history ≠ []) ∨
      (s.files.Spares (s.handle event).files (s.files.lexicalPlace path) ∧
        Turn.savedPart (s.handle event).history = Turn.savedPart s.history) := by
  rcases handle_cases hs.sound event with hidle | ⟨turn, htakes⟩
  · exact .inr ⟨.of_nodes hidle.nodes hidle.workDir _, by rw [hidle.history]⟩
  cases hc : turn.change with
  | none =>
    -- no change is run, so no attempt to save is made either
    have hrests := htakes.rests hc
    have hunsaved : turn.isSaved = false := by
      obtain ⟨step, hmeets, -, -, hsaved, -, -⟩ := htakes.step
      rw [hc] at hmeets
      unfold Turn.isSaved
      rw [hsaved, Step.Spares.saved hmeets]
    exact .inr ⟨.of_nodes hrests.nodes hrests.workDir _,
      by rw [htakes.history, Turn.savedPart_concat_of_unsaved hunsaved]⟩
  | some c =>
    obtain ⟨hcommits, hsaved⟩ := htakes.commits hc
    have hmedium' := htakes.medium.trans hmedium
    -- the attempt decides between the two
    cases hresult : ((s.handle event).broker.store.save s.files).2 with
    | ok _ =>
      rw [hresult] at hsaved
      refine .inl ⟨?_, ?_, ?_⟩
      · rw [hcommits.files]
        exact Store.save_holds hmedium' hresult
      · rw [htakes.history]
        exact Turn.savedPart_concat_of_saved (Turn.isSaved_iff.2 hsaved)
      · rw [htakes.history]
        exact List.concat_ne_nil turn s.history
    | error e =>
      have hunsaved : turn.isSaved = false := by
        unfold Turn.isSaved
        rw [hsaved, hresult]
      refine .inr ⟨?_, by rw [htakes.history, Turn.savedPart_concat_of_unsaved hunsaved]⟩
      rw [hcommits.files]
      exact Store.save_spares hmedium' hresult

/-! ### All events -/

/-- What carries the induction over the events. -/
structure Filed (r : Registry) (path : String) (initial : RecordSet) (files : FileSystem)
    (s : Session) : Prop where
  regular : s.Regular r initial
  medium : s.broker.store.medium = .file path
  startup : Turn.savedPart s.history = [] → files.Spares s.files (files.lexicalPlace path)
  saved : Turn.savedPart s.history ≠ [] →
    s.files.Holds path (Change.replay r initial (Turn.changes (Turn.savedPart s.history)))
  current : (Turn.attempts s.history).getLast? = some (.ok ()) →
    s.files.Holds path s.broker.store.records

theorem handle_medium (hs : s.Sound) (event : Event) :
    (s.handle event).broker.store.medium = s.broker.store.medium := by
  rcases handle_cases hs event with hidle | ⟨turn, htakes⟩
  · exact hidle.medium
  · exact htakes.medium

/-- Every event runs a change and attempts to save, or leaves records and files alone. -/
theorem handle_sections (hs : s.Sound) (event : Event) :
    s.Rests (s.handle event) ∨ ∃ c, s.Commits (s.handle event) c := by
  rcases handle_cases hs event with hidle | ⟨turn, htakes⟩
  · exact .inl hidle.rests
  · cases hc : turn.change with
    | none => exact .inl (htakes.rests hc)
    | some c => exact .inr ⟨c, (htakes.commits hc).1⟩

theorem Filed.handle (h : s.Filed r path initial files) (event : Event) :
    (s.handle event).Filed r path initial files := by
  have hregular := h.regular.handle event
  refine ⟨hregular, (handle_medium h.regular.sound event).trans h.medium, ?_, ?_, ?_⟩
  · intro hnone
    rcases handle_file h.regular h.medium event with ⟨-, hall, hne⟩ | ⟨hspares, hsame⟩
    · exact absurd (hall.symm.trans hnone) hne
    · -- nothing has been saved up to now, so the file is still the one from the start
      have hold := h.startup (hsame.symm.trans hnone)
      rw [FileSystem.lexicalPlace_congr hold.workDir] at hspares
      exact hold.trans hspares
  · intro hsome
    rcases handle_file h.regular h.medium event with ⟨hholds, hall, -⟩ | ⟨hspares, hsame⟩
    · -- all turns are saved now, so the records in memory are those of the saved part
      rw [hall, ← hregular.serialized.records]
      exact hholds
    · rw [hsame] at hsome ⊢
      exact (h.saved hsome).of_spares hspares
  · intro hlast
    rcases handle_sections h.regular.sound event with hrests | ⟨c, hcommits⟩
    · -- the last attempt is an earlier one, and the file has not been touched since
      rw [hrests.attempts] at hlast
      rw [hrests.records]
      exact (h.current hlast).of_spares (.of_nodes hrests.nodes hrests.workDir _)
    · -- the last attempt is the one of this event
      rw [hcommits.attempts, List.getLast?_concat, Option.some.injEq] at hlast
      have hmedium := (handle_medium h.regular.sound event).trans h.medium
      rw [hcommits.files]
      exact Store.save_holds hmedium hlast

/-- The saved part of the history never shrinks. -/
theorem savedPart_handle (hs : s.Sound) (event : Event) :
    Turn.savedPart s.history <+: Turn.savedPart (s.handle event).history := by
  rcases handle_cases hs event with hidle | ⟨turn, htakes⟩
  · exact hidle.history ▸ List.prefix_rfl
  · rw [htakes.history]
    cases hsaved : turn.isSaved with
    | true =>
      rw [Turn.savedPart_concat_of_saved hsaved]
      exact (Turn.savedPart_prefix s.history).trans (List.prefix_append _ _)
    | false => exact (Turn.savedPart_concat_of_unsaved hsaved).symm ▸ List.prefix_rfl

theorem savedPart_run (hs : s.Sound) (events : List Event) :
    Turn.savedPart s.history <+: Turn.savedPart (s.run events).history := by
  -- what one event does to the saved part is known of sound sessions only
  let P (s' : Session) : Prop :=
    s'.Sound ∧ Turn.savedPart s.history <+: Turn.savedPart s'.history
  suffices h : P (s.run events) from h.2
  refine run_induction ⟨hs, List.prefix_rfl⟩ ?_ events
  rintro s' event ⟨hs', hprefix⟩
  exact ⟨hs'.handle event, hprefix.trans (savedPart_handle hs' event)⟩

/-- A turn that gives a good answer has saved the records. -/
theorem Regular.saved_of_ok (h : s.Regular r initial) {before : List Turn}
    (hlast : s.history = before ++ [turn]) {reply : Reply}
    (hok : turn.progress = .finished (.ok reply)) : turn.saved = some (.ok ()) := by
  obtain ⟨c, -, -, -, -, hsaved⟩ := h.serialized.changed hlast hok
  exact hsaved

theorem Filed.toDurable (h : s.Filed r path initial files) : s.Durable r path initial files where
  startup := h.startup
  saved := h.saved
  sections := handle_sections h.regular.sound
  current := h.current
  answered := by
    intro before turn reply hlast hok
    have hsaved := h.regular.saved_of_ok hlast hok
    refine ⟨hsaved, h.current ?_⟩
    rw [hlast, Turn.attempts_concat, hsaved]
    exact List.getLast?_concat
  later := savedPart_run h.regular.sound

theorem run_filed (registry : Registry) (gate : ProbeGate) (path : String) (records : RecordSet)
    (files : FileSystem) (events : List Event) :
    ((opened ⟨registry, gate, ⟨.file path, records, .none⟩⟩ files).run events).Filed
      registry path records files := by
  let b : Broker := ⟨registry, gate, ⟨.file path, records, .none⟩⟩
  have hopened : (opened b files).Filed registry path records files :=
    { regular := @Regular.of_opened b Outage.sparesRecords_none files
      medium := rfl
      startup := fun _ => FileSystem.Spares.refl files _
      saved := fun hne => absurd rfl hne
      current := fun hlast => nomatch hlast }
  exact run_induction hopened (fun s event hs => hs.handle event) events

/-- **Durability.** Whatever calls come in, whatever the plugin answers them, in whatever order their
steps are taken and whichever saves fail: at each moment the record file is the start-up file or the
encoding of the records as of the last successful save. -/
theorem run_durable (registry : Registry) (gate : ProbeGate) (path : String) (records : RecordSet)
    (files : FileSystem) (events : List Event) :
    ((opened ⟨registry, gate, ⟨.file path, records, .none⟩⟩ files).run events).Durable
      registry path records files :=
  (run_filed registry gate path records files events).toDurable

end Session

end VolumeBroker
