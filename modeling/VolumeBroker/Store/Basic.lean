import VolumeBroker.Files.FileSystem
import VolumeBroker.Json.Reader
import VolumeBroker.Records.Basic
import VolumeBroker.Store.Error
import VolumeBroker.Text.Blank
/-!
# Record stores

A `Store` keeps all records in memory. Looking up and changing records touches the memory alone;
`Store.save` writes the whole set to the store's medium and `Store.restore` reads it back. A store in
memory has nothing to write or read. A file store writes a temporary file beside its record file and
moves it into place, so a failed save leaves the record file as it was.

An `Outage` makes chosen operations fail before they reach the records.
-/

namespace VolumeBroker

/-- The operations of a store. -/
inductive StoreOperation where
  | restore
  | save
  | createInstance
  | retrieveInstance
  | deleteInstance
  | createBinding
  | retrieveBinding
  | deleteBinding
deriving DecidableEq, Repr

/-- Operations that fail, and the path that their errors name. -/
structure Outage where
  /-- The operations that fail. -/
  operations : List StoreOperation
  /-- The path that the errors name. -/
  path : String
deriving DecidableEq, Repr

/-- No operation fails. -/
def Outage.none : Outage := ⟨[], ""⟩

/-- Where a store keeps its records beyond the memory. -/
inductive Medium where
  | memory
  | file (path : String)
deriving DecidableEq, Repr

/-- A record store. -/
structure Store where
  /-- Where the records are kept. -/
  medium : Medium
  records : RecordSet
  /-- The operations that fail. -/
  outage : Outage

namespace Store

/-- An empty store on a medium. -/
def new (medium : Medium) : Store := ⟨medium, .empty, .none⟩

/-- Fails if an operation is out of order. -/
def guardOutage (s : Store) (operation : StoreOperation) : Except StoreError Unit :=
  if s.outage.operations.contains operation then
    .error (.io s.outage.path "operation refused")
  else .ok ()

/-! ### Records -/

/-- Puts an instance record under an id. -/
def createInstance (s : Store) (id : String) (record : InstanceRecord) : Except StoreError Store := do
  s.guardOutage .createInstance
  .ok { s with records := s.records.putInstance id record }

/-- The instance record of an id. -/
def retrieveInstance (s : Store) (id : String) : Except StoreError InstanceRecord := do
  s.guardOutage .retrieveInstance
  match s.records.instances.get? id with
  | some record => .ok record
  | none => .error (.notFound .serviceInstance id)

/-- Removes the instance record of an id. -/
def deleteInstance (s : Store) (id : String) : Except StoreError Store := do
  s.guardOutage .deleteInstance
  if s.records.instances.contains id then .ok { s with records := s.records.removeInstance id }
  else .error (.notFound .serviceInstance id)

/-- Puts a binding record under an id. -/
def createBinding (s : Store) (id : String) (record : BindingRecord) : Except StoreError Store := do
  s.guardOutage .createBinding
  .ok { s with records := s.records.putBinding id record }

/-- The binding record of an id. -/
def retrieveBinding (s : Store) (id : String) : Except StoreError BindingRecord := do
  s.guardOutage .retrieveBinding
  match s.records.bindings.get? id with
  | some record => .ok record
  | none => .error (.notFound .serviceBinding id)

/-- Removes the binding record of an id. -/
def deleteBinding (s : Store) (id : String) : Except StoreError Store := do
  s.guardOutage .deleteBinding
  if s.records.bindings.contains id then .ok { s with records := s.records.removeBinding id }
  else .error (.notFound .serviceBinding id)

/-- The instance ids in increasing order. -/
def instanceIds (s : Store) : List String := s.records.instances.keys

/-- The binding ids in increasing order. -/
def bindingIds (s : Store) : List String := s.records.bindings.keys

/-! ### The record file -/

/-- The records in the text of a record file; a blank file holds none. -/
def parseRecords (text : String) : Except Problem RecordSet :=
  if isBlankText text then .ok .empty
  else
    let document := Document.ofText text
    match RecordSet.shape.read .text document.root with
    | .error problem => .error problem
    -- text behind the document is a failure, but one inside it is reported first
    | .ok records => if document.trailing then .error (.fault .malformed) else .ok records

/-- The temporary file beside a record file. -/
def temporaryPath (path : String) : String :=
  FilePath.withFileName path ((FilePath.fileName? path).getD "" ++ ".tmp")

/-- Reads the records of a file; a missing file leaves them as they are. -/
def restoreFile (s : Store) (files : FileSystem) (path : String) : Except StoreError Store :=
  if files.pathExists path then
    match files.readText? path with
    | none => .error (.io path "not a readable text file")
    | some text =>
      match parseRecords text with
      | .ok records => .ok { s with records }
      | .error problem => .error (.decode path problem)
  else .ok s

/-- Makes the directory of a record file, if the path names one. -/
def prepareDirectory (files : FileSystem) (path : String) : Except StoreError FileSystem :=
  let parent := FilePath.parent path
  if parent.isEmpty then .ok files
  else
    match files.createDirectories parent with
    | some files => .ok files
    | none => .error (.io parent "cannot create the directory")

/-- Writes text to a record file by way of the temporary file: the files afterwards, and whether it
succeeded. -/
def replaceFile (files : FileSystem) (path text : String) : FileSystem × Except StoreError Unit :=
  match prepareDirectory files path with
  | .error e => (files, .error e)
  | .ok files =>
    let temporary := temporaryPath path
    match files.write temporary (.text text) with
    | none => (files, .error (.io temporary "cannot write the file"))
    | some files =>
      match files.rename temporary path with
      | none => (files, .error (.io path "cannot replace the file"))
      | some files => (files, .ok ())

/-- Reads the records from the medium. -/
def restore (s : Store) (files : FileSystem) : Except StoreError Store := do
  s.guardOutage .restore
  match s.medium with
  | .memory => .ok s
  | .file path => s.restoreFile files path

/-- Writes the records to the medium: the files afterwards, and whether it succeeded. -/
def save (s : Store) (files : FileSystem) : FileSystem × Except StoreError Unit :=
  match s.guardOutage .save with
  | .error e => (files, .error e)
  | .ok () =>
    match s.medium with
    | .memory => (files, .ok ())
    | .file path =>
      match s.records.toDocument with
      | .error reason => (files, .error (.encode reason))
      | .ok document => replaceFile files path document.pretty

/-- A file store with the records of its file. -/
def openFile (path : String) (files : FileSystem) : Except StoreError Store :=
  (new (.file path)).restore files

end Store

end VolumeBroker
