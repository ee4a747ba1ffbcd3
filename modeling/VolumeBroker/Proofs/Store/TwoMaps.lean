import Mathlib.Logic.Function.Basic
import VolumeBroker.Proofs.Files.Node
import VolumeBroker.Proofs.Store.Restore
/-!
# A working dataset and a durable one

What a record store is from outside: two datasets (`TwoMaps`), a *working* one, on which alone calls on
records act, and a *durable* one, which a save makes equal to the working one and which opening a path
yields. `TwoMaps.Allows` says what each call may answer, and what it leaves of both.

Two things come out less simple than this. A save succeeds on records that are nested too deeply to be
read, and from then on the durable dataset is out of reach: no open and no restore succeeds until
another save does (`Dataset.SavedAs`). And a path that leads upwards may lead elsewhere once a save that
fails has made a directory on the way, but only if nothing was found there before.

Behind the definitions stands what dictionaries and record files have to do with them: a dictionary
answers as a table does (`Dict.answer_allows`), and the text that is written for records stands for them
or for nothing that is read (`Durable.savedAs_of_pretty`).
-/

namespace VolumeBroker

/-! ### Calls -/

/-- A call on one of the tables of a store. -/
inductive TableCall (ρ : Type) where
  | create (id : String) (record : ρ)
  | retrieve (id : String)
  | delete (id : String)
  /-- Asks whether the id holds another record. -/
  | conflicts (id : String) (record : ρ)
  | ids

/-- The answer to a call on a table. -/
inductive TableAnswer (ρ : Type) where
  | done
  | found (record : ρ)
  | conflicts (answer : Bool)
  | ids (ids : List String)

/-- A call on a store. -/
inductive StoreCall where
  | instances (call : TableCall InstanceRecord)
  | bindings (call : TableCall BindingRecord)
  | save
  | restore
  /-- Opens the path again, and goes on with that store if it opens. -/
  | reopen

/-- The answer to a call on a store. -/
inductive StoreAnswer where
  | instances (answer : TableAnswer InstanceRecord)
  | bindings (answer : TableAnswer BindingRecord)
  | done

/-- Calls with their answers. -/
abbrev StoreTrace := List (StoreCall × Except StoreError StoreAnswer)

/-- What a call hands in satisfies a condition. -/
def TableCall.Hands {ρ : Type} (p : ρ → Prop) : TableCall ρ → Prop
  | .create _ record => p record
  | _ => True

/-- A call hands in nothing but proper records: with legible values, and no parameters that are `null`. -/
def StoreCall.Proper : StoreCall → Prop
  | .instances call => call.Hands fun record => record.fingerprint.Proper
  | .bindings call => call.Hands BindingRecord.Legible
  | _ => True

/-! ### Two maps -/

/-- Instances and bindings by their ids. -/
structure Dataset where
  instances : String → Option InstanceRecord
  bindings : String → Option BindingRecord

/-- The dataset of a record set. -/
def RecordSet.dataset (records : RecordSet) : Dataset :=
  ⟨records.instances.get?, records.bindings.get?⟩

namespace Dataset

/-- No record. -/
def empty : Dataset := ⟨fun _ => none, fun _ => none⟩

/-- Every slot has a document. -/
def Writable (d : Dataset) : Prop :=
  ∀ id r, d.instances id = some r → ∃ value, r.fingerprint.toDocument = .ok value

/-- Nothing is nested more deeply than a record file allows. -/
structure Fits (d : Dataset) : Prop where
  instances : ∀ id r, d.instances id = some r →
    (Slot.codec.write r.fingerprint).depth ≤ RecordSet.room
  bindings : ∀ id r, d.bindings id = some r → ∀ parameters, r.parameters = some parameters →
    parameters.depth ≤ RecordSet.room

/-- The dataset with documents in its slots. -/
def documented (d : Dataset) : Dataset :=
  ⟨fun id => (d.instances id).map fun r =>
    { r with fingerprint := .document (Slot.codec.write r.fingerprint) }, d.bindings⟩

/-- The dataset with documents in its slots and every number as its text is read. -/
def returned (d : Dataset) : Dataset :=
  ⟨fun id => (d.instances id).map InstanceRecord.reread,
    fun id => (d.bindings id).map BindingRecord.reread⟩

/-- Every number is read back from its text as it is. -/
structure Exact (d : Dataset) : Prop where
  instances : ∀ id r, d.instances id = some r →
    (Slot.codec.write r.fingerprint).Every fun n => n.reread = n
  bindings : ∀ id r, d.bindings id = some r → ∀ parameters, r.parameters = some parameters →
    parameters.Every fun n => n.reread = n

end Dataset

/-- What a record file stands for. -/
inductive Durable where
  /-- Nothing is found at the path. -/
  | absent
  | held (dataset : Dataset)
  /-- What is found is not read, for a reason. -/
  | unreadable (e : StoreError)

/-- What opening the path yields, if it succeeds: without a file the empty dataset. -/
inductive Durable.Opens : Durable → Dataset → Prop
  | absent : Opens .absent .empty
  | held (d : Dataset) : Opens (.held d) d

/-- **What a successful save makes of a dataset**: the dataset itself if it fits, and otherwise
something that no open and no restore reads. -/
inductive Dataset.SavedAs (path : String) (d : Dataset) : Durable → Prop
  | held (hfits : d.Fits) : SavedAs path d (.held d.returned)
  | unreadable (hfits : ¬ d.Fits) (problem : Problem) :
    SavedAs path d (.unreadable (.decode path problem))

section Tables

variable {ρ : Type}

/-- What a call on a table may answer, and what it leaves. -/
inductive TableCall.Allows (kind : RecordKind) (same : ρ → ρ → Bool) (table : String → Option ρ) :
    TableCall ρ → Except StoreError (TableAnswer ρ) → (String → Option ρ) → Prop
  | created (id : String) (record : ρ) :
    Allows kind same table (.create id record) (.ok .done) (Function.update table id (some record))
  | retrieved {id : String} {record : ρ} (hthere : table id = some record) :
    Allows kind same table (.retrieve id) (.ok (.found record)) table
  | unretrieved {id : String} (hgone : table id = none) :
    Allows kind same table (.retrieve id) (.error (.notFound kind id)) table
  | deleted {id : String} (hthere : table id ≠ none) :
    Allows kind same table (.delete id) (.ok .done) (Function.update table id none)
  | undeleted {id : String} (hgone : table id = none) :
    Allows kind same table (.delete id) (.error (.notFound kind id)) table
  | conflicts {id : String} {record : ρ} {answer : Bool}
    (hanswer : answer = true ↔ ∃ existing, table id = some existing ∧ same existing record = false) :
    Allows kind same table (.conflicts id record) (.ok (.conflicts answer)) table
  | ids {ids : List String} (hsorted : ids.Pairwise (· < ·)) (hids : ∀ id, id ∈ ids ↔ table id ≠ none) :
    Allows kind same table .ids (.ok (.ids ids)) table

end Tables

/-- A working dataset and a durable one. -/
structure TwoMaps where
  working : Dataset
  durable : Durable

/-- **What a call may answer, and what it leaves**, for a record file at a path. -/
inductive TwoMaps.Allows (path : String) (m : TwoMaps) :
    StoreCall → Except StoreError StoreAnswer → TwoMaps → Prop
  | instances {call : TableCall InstanceRecord} {answer : Except StoreError (TableAnswer InstanceRecord)}
    {table : String → Option InstanceRecord}
    (hcall : call.Allows .serviceInstance InstanceRecord.sameIdentity m.working.instances answer table) :
    Allows path m (.instances call) (answer.map .instances)
      ⟨{ m.working with instances := table }, m.durable⟩
  | bindings {call : TableCall BindingRecord} {answer : Except StoreError (TableAnswer BindingRecord)}
    {table : String → Option BindingRecord}
    (hcall : call.Allows .serviceBinding BindingRecord.same m.working.bindings answer table) :
    Allows path m (.bindings call) (answer.map .bindings)
      ⟨{ m.working with bindings := table }, m.durable⟩
  | saved {durable : Durable} (hwritable : m.working.Writable) (hsaved : m.working.SavedAs path durable) :
    Allows path m .save (.ok .done) ⟨m.working, durable⟩
  /-- A slot has no document: nothing is attempted. -/
  | unencodable {id reason : String} {r : InstanceRecord} (hthere : m.working.instances id = some r)
    (hslot : r.fingerprint.toDocument = .error reason) : Allows path m .save (.error (.encode reason)) m
  /-- A directory or a file cannot be written. -/
  | unsaved {durable : Durable} {place reason : String} (hwritable : m.working.Writable)
    (hdurable : durable = m.durable ∨ ".." ∈ FilePath.segments path ∧ m.durable = .absent) :
    Allows path m .save (.error (.io place reason)) ⟨m.working, durable⟩
  | reopened {d : Dataset} (hopens : m.durable.Opens d) : Allows path m .reopen (.ok .done) ⟨d, m.durable⟩
  | unopened {e : StoreError} (hunreadable : m.durable = .unreadable e) :
    Allows path m .reopen (.error e) m
  | restored {d : Dataset} (hheld : m.durable = .held d) :
    Allows path m .restore (.ok .done) ⟨d, m.durable⟩
  /-- Without a file a restore leaves the working dataset as it is. -/
  | kept (habsent : m.durable = .absent) : Allows path m .restore (.ok .done) m
  | unrestored {e : StoreError} (hunreadable : m.durable = .unreadable e) :
    Allows path m .restore (.error e) m

/-- Runs of two maps, from one state to another. -/
inductive TwoMaps.Runs (path : String) : TwoMaps → StoreTrace → TwoMaps → Prop
  | nil (m : TwoMaps) : Runs path m [] m
  | cons {m m' m'' : TwoMaps} {call : StoreCall} {answer : Except StoreError StoreAnswer}
    {trace : StoreTrace} (hcall : m.Allows path call answer m') (hrest : Runs path m' trace m'') :
    Runs path m ((call, answer) :: trace) m''

/-! ### Tables -/

namespace Dict

variable {ρ : Type} {d : Dict ρ}

/-- A call on a dictionary: the dictionary afterwards, and the answer. -/
def answer (kind : RecordKind) (same : ρ → ρ → Bool) (d : Dict ρ) :
    TableCall ρ → Dict ρ × Except StoreError (TableAnswer ρ)
  | .create id record => (d.insert id record, .ok .done)
  | .retrieve id =>
    (d, match d.get? id with
      | some record => .ok (.found record)
      | none => .error (.notFound kind id))
  | .delete id => if d.contains id then (d.erase id, .ok .done) else (d, .error (.notFound kind id))
  | .conflicts id record => (d, .ok (.conflicts ((d.get? id).any fun existing => !same existing record)))
  | .ids => (d, .ok (.ids d.keys))

theorem get?_insert_eq_update (d : Dict ρ) (id : String) (record : ρ) :
    (d.insert id record).get? = Function.update d.get? id (some record) := by
  funext k
  rw [get?_insert, Function.update_apply]

theorem get?_erase_eq_update (d : Dict ρ) (id : String) :
    (d.erase id).get? = Function.update d.get? id none := by
  funext k
  rw [get?_erase, Function.update_apply]

/-- A dictionary answers as a table does. -/
theorem answer_allows (kind : RecordKind) (same : ρ → ρ → Bool) (d : Dict ρ) (call : TableCall ρ) :
    call.Allows kind same d.get? (d.answer kind same call).2 (d.answer kind same call).1.get? := by
  cases call with
  | create id record =>
    change TableCall.Allows _ _ _ _ _ (d.insert id record).get?
    rw [get?_insert_eq_update]
    exact .created id record
  | retrieve id =>
    unfold answer
    dsimp only
    split
    · next record hthere => exact .retrieved hthere
    · next hgone => exact .unretrieved hgone
  | delete id =>
    unfold answer
    dsimp only
    -- only what is there can be removed
    split
    · next hthere =>
      rw [get?_erase_eq_update]
      exact .deleted (Option.isSome_iff_ne_none.1 hthere)
    · next hgone => exact .undeleted (Option.not_isSome_iff_eq_none.1 hgone)
  | conflicts id record =>
    refine .conflicts ?_
    -- without a record under the id there is nothing to differ from
    rw [Option.any_eq_true]
    simp only [Bool.not_eq_true']
  | ids => exact .ids d.sorted_keys fun id => mem_keys_iff

/-- A call that fails leaves a dictionary as it is. -/
theorem answer_of_error {kind : RecordKind} {same : ρ → ρ → Bool} {call : TableCall ρ} {e : StoreError}
    (h : (d.answer kind same call).2 = .error e) : (d.answer kind same call).1 = d := by
  cases call with
  -- removing is the only change that can fail, and then it has not been made
  | delete id =>
    unfold answer at h ⊢
    dsimp only at h ⊢
    split at h
    · cases h
    · next hgone => rw [if_neg hgone]
  | create id record => cases h
  | retrieve id => rfl
  | conflicts id record => rfl
  | ids => rfl

/-- What a dictionary holds after a call it held before, or it has been handed in. -/
theorem forall_mem_answer {p : ρ → Prop} {kind : RecordKind} {same : ρ → ρ → Bool} {call : TableCall ρ}
    (h : ∀ e ∈ d.entries, p e.2) (hcall : call.Hands p) :
    ∀ e ∈ (d.answer kind same call).1.entries, p e.2 := by
  cases call with
  | create id record => exact forall_mem_insert h id hcall
  | delete id =>
    unfold answer
    dsimp only
    split
    · exact forall_mem_erase h id
    · exact h
  | retrieve id => exact h
  | conflicts id record => exact h
  | ids => exact h

end Dict

/-! ### What is saved and what is found -/

namespace RecordSet

variable {records : RecordSet}

theorem dataset_fits_iff : records.dataset.Fits ↔ records.Fits := by
  -- one goes through the look-ups and the other through the entries
  constructor
  · rintro ⟨hinstances, hbindings⟩
    exact ⟨fun e he => hinstances e.1 e.2 (Dict.get?_eq_some_iff.2 he),
      fun e he => hbindings e.1 e.2 (Dict.get?_eq_some_iff.2 he)⟩
  · rintro ⟨hinstances, hbindings⟩
    exact ⟨fun id r hr => hinstances (id, r) (Dict.get?_eq_some_iff.1 hr),
      fun id r hr => hbindings (id, r) (Dict.get?_eq_some_iff.1 hr)⟩

theorem dataset_reread (records : RecordSet) : records.reread.dataset = records.dataset.returned := by
  unfold dataset Dataset.returned reread
  rw [Dataset.mk.injEq]
  exact ⟨funext fun id => Dict.get?_map .., funext fun id => Dict.get?_map ..⟩

end RecordSet

/-- Where the texts of all numbers are read as these numbers, only slots change on the way through a
file. -/
theorem Dataset.Exact.returned_eq {d : Dataset} (h : d.Exact) : d.returned = d.documented := by
  unfold Dataset.returned Dataset.documented
  rw [Dataset.mk.injEq]
  refine ⟨funext fun id => ?_, funext fun id => ?_⟩
  · cases hr : d.instances id with
    | none => rfl
    | some r =>
      -- the document of the slot has exact numbers
      have hslot := (h.instances id r hr).reread_eq
      change some (InstanceRecord.mk _ _ _ _ (.document (Slot.codec.write r.fingerprint).reread)) = _
      rw [hslot]
      rfl
  · cases hr : d.bindings id with
    | none => rfl
    | some r =>
      change some (BindingRecord.mk _ _ _ _ (r.parameters.map Json.reread)) = some r
      -- and so have the parameters, if there are any
      cases hparameters : r.parameters with
      | none =>
        rw [Option.map_none, ← hparameters]
      | some parameters =>
        have hsame := (h.bindings id r hr parameters hparameters).reread_eq
        rw [Option.map_some, hsame, ← hparameters]

/-- What the file at a path stands for. -/
def Durable.of (files : FileSystem) (path : String) : Durable :=
  match files.node? path with
  | none => .absent
  | some (.file (.text text)) =>
    match Store.parseRecords text with
    | .ok records => .held records.dataset
    | .error problem => .unreadable (.decode path problem)
  | some _ => .unreadable (.io path "not a readable text file")

namespace Durable

variable {files files' : FileSystem} {path text : String}

theorem of_congr (h : files'.node? path = files.node? path) : of files' path = of files path := by
  unfold of
  rw [h]

theorem of_text (h : files.node? path = some (.file (.text text))) :
    of files path = match Store.parseRecords text with
      | .ok records => .held records.dataset
      | .error problem => .unreadable (.decode path problem) := by
  unfold of
  rw [h]

theorem of_other {node : FileNode} (h : files.node? path = some node)
    (hother : ∀ text, node ≠ .file (.text text)) :
    of files path = .unreadable (.io path "not a readable text file") := by
  unfold of
  rw [h]
  split
  · next hnone => cases hnone
  · next text hnode => exact absurd (Option.some.inj hnode) (hother text)
  · rfl

theorem of_eq_absent_iff : of files path = .absent ↔ files.node? path = none := by
  unfold of
  split
  · next hnone => exact iff_of_true rfl hnone
  · next text hnode =>
    refine iff_of_false (fun h => ?_) (hnode ▸ nofun)
    -- a text stands for something, read or not
    split at h <;> cases h
  · next node hnode => exact iff_of_false nofun (hnode ▸ nofun)

/-- A blank file stands for no record. -/
theorem of_blank (h : files.readText? path = some text) (hblank : isBlankText text = true) :
    of files path = .held .empty := by
  rw [of_text (FileSystem.readText?_eq_some_iff.1 h)]
  unfold Store.parseRecords
  rw [if_pos hblank]
  rfl

/-- The text that is written for records stands for them, or for nothing that is read. -/
theorem savedAs_of_pretty {records : RecordSet} (h : records.Proper)
    (hread : files.readText? path = some (RecordSet.shape.codec.write records).pretty) :
    records.dataset.SavedAs path (of files path) := by
  rw [of_text (FileSystem.readText?_eq_some_iff.1 hread)]
  by_cases hfits : records.Fits
  · -- what fits is read, and what is read are the records read back
    rw [Store.parseRecords_of_fits h hfits, h.stored_reread]
    dsimp only
    rw [RecordSet.dataset_reread]
    exact .held (RecordSet.dataset_fits_iff.2 hfits)
  · have hunfit : ¬ records.dataset.Fits := mt RecordSet.dataset_fits_iff.1 hfits
    -- only what fits would be read
    cases hparsed : Store.parseRecords (RecordSet.shape.codec.write records).pretty with
    | ok read => exact absurd (Store.fits_of_parseRecords h hparsed) hfits
    | error problem => exact .unreadable hunfit problem

end Durable

end VolumeBroker
