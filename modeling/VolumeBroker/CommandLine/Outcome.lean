import VolumeBroker.Broker.Lifecycle
import VolumeBroker.Catalog.SpecFile
import VolumeBroker.CommandLine.Command
/-!
# Outcomes of commands

What the commands look at and what they answer. A command works on the files of its machine
(`FileWork`), and every step of it that needs them is a `look`. `serve` starts a broker on the
specification and the record file that `catalog` and `records` look at, but reads neither in quite the
same way.
-/

namespace VolumeBroker

/-- An error with the errors that caused it, the nearest first. -/
structure Failure where
  message : String
  /-- The texts of its causes. -/
  causes : List String
deriving DecidableEq, Repr

namespace Failure

/-- A text whose lines behind the first are indented. -/
def indent (blanks text : String) : String :=
  String.join (text.toList.map fun c => if c = '\n' then "\n" ++ blanks else c.toString)

/-- Causes, each with its number. -/
def numbered (index : Nat) : List String → String
  | [] => ""
  | cause :: rest =>
    let number := toString index
    let blanks := String.ofList (List.replicate (5 - number.length) ' ')
    "\n" ++ blanks ++ number ++ ": " ++ indent "       " cause ++ numbered (index + 1) rest

/-- The causes as a report lists them. -/
def renderCauses : List String → String
  | [] => ""
  | [cause] => "\n\nCaused by:\n    " ++ indent "    " cause
  | causes => "\n\nCaused by:" ++ numbered 0 causes

/-- The report of a failure. -/
def render (f : Failure) : String := "Error: " ++ f.message ++ renderCauses f.causes ++ "\n"

end Failure

/-- The failure of a registry. -/
def RegistryError.toFailure (e : RegistryError) : Failure :=
  ⟨e.message, match e with
    | .connect _ source => [source.message]
    | _ => []⟩

/-- The failure of a store. -/
def StoreError.toFailure (e : StoreError) : Failure := ⟨e.message, e.cause?.toList⟩

/-- The failure of a broker that could not start. -/
def BrokerError.toFailure (e : BrokerError) : Failure :=
  ⟨e.message, match e with
    | .store _ source => source.message :: source.cause?.toList
    | .plugin _ source => [source.message]
    | .fingerprint _ source => [source.message]
    | .registry (.connect _ source) => [source.message]
    | _ => []⟩

/-- The failure as the cause of another one. -/
def Failure.inContext (f : Failure) (context : String) : Failure := ⟨context, f.message :: f.causes⟩

/-- What came of a run of the program. -/
inductive Outcome where
  /-- The arguments ask for no command. -/
  | misused
  /-- The command has ended with a text for the standard output. -/
  | done (output : String)
  /-- The command has failed. -/
  | failed (failure : Failure)
  /-- A broker is ready to serve at an address. -/
  | ready (broker : Broker) (listenAddress : String)

/-- Work on files: it may look at them, and it leaves files behind. -/
abbrev FileWork := StateM FileSystem

/-- Work that looks at the files and leaves them alone. -/
def FileWork.look {α : Type} (view : FileSystem → α) : FileWork α := view <$> get

namespace Command

open FileWork (look)

/-- The record file in a data directory. -/
def recordFile (dataDir : String) : String := FilePath.join dataDir "csi-general-services.json"

/-- The paths of the files that a command needs. -/
def paths : Command → List String
  | serve _ dataDir specPath _ => [specPath, recordFile dataDir]
  | catalog specPath => [specPath]
  | records dataDir => [recordFile dataDir]

/-! ### Tables -/

/-- A line of a table. -/
def row (cells : List String) : String := String.intercalate "\t" cells ++ "\n"

/-- The line of an id: the cells of its record, or why there are none. -/
def entryRow (id : String) : Except StoreError (List String) → String
  | .ok cells => row (id :: cells)
  | .error e => row [id, "<error: " ++ e.message ++ ">"]

/-- A table with a line for each id, or a remark if there is no id. -/
def table (remark : String) (heading : List String) (ids : List String)
    (cells : String → Except StoreError (List String)) : String :=
  if ids.isEmpty then remark ++ "\n"
  else row heading ++ String.join (ids.map fun id => entryRow id (cells id))

/-- What is shown of an instance besides its id. -/
def instanceCells (record : InstanceRecord) : List String := [record.serviceId, record.planId]

/-- What is shown of a binding besides its id. -/
def bindingCells (record : BindingRecord) : List String := [record.serviceId, record.appGuid]

/-- The table of the instances in a store. -/
def instanceTable (store : Store) : String :=
  table "(no instances)" ["Instance", "Service", "Plan"] store.instanceIds fun id =>
    (store.retrieveInstance id).map instanceCells

/-- The table of the bindings in a store. -/
def bindingTable (store : Store) : String :=
  table "(no bindings)" ["Binding", "Service", "App"] store.bindingIds fun id =>
    (store.retrieveBinding id).map bindingCells

/-! ### The commands -/

/-- The text of a catalog. -/
def catalogText (c : Catalog) : String := (Catalog.shape.codec.write c).pretty ++ "\n"

/-- Shows the catalog of a specification. -/
def runCatalog (specPath : String) : FileWork Outcome := do
  match ← look fun files => SpecFile.load files specPath with
  | .error e => return .failed e.toFailure
  | .ok specs =>
    match (Registry.build specs .lazy).result with
    | .error e => return .failed e.toFailure
    | .ok registry => return .done (catalogText registry.catalog)

/-- Lists the records in a data directory. -/
def runRecords (dataDir : String) : FileWork Outcome := do
  match ← look (Store.openFile (recordFile dataDir)) with
  | .error e => return .failed e.toFailure
  | .ok store => return .done (instanceTable store ++ bindingTable store)

/-- Starts a broker. -/
def runServe (listenAddress dataDir specPath : String) : FileWork Outcome := do
  match ← look fun files => (Registry.ofFile files specPath .lazy).result with
  | .error e => return .failed (e.toFailure.inContext ("loading service spec " ++ specPath))
  | .ok registry =>
    let path := recordFile dataDir
    match ← look (Broker.start registry (.new (.file path))) with
    | .error e => return .failed (e.toFailure.inContext ("restoring records from " ++ path))
    | .ok broker => return .ready broker listenAddress

/-- Runs a command. -/
def run : Command → FileWork Outcome
  | serve listenAddress dataDir specPath _ => runServe listenAddress dataDir specPath
  | catalog specPath => runCatalog specPath
  | records dataDir => runRecords dataDir

/-- What comes of a command that is run on files. -/
def outcome (command : Command) (files : FileSystem) : Outcome := (command.run.run files).1

end Command

/-- Runs the program on its arguments and environment variables. -/
def Outcome.ofArguments (files : FileSystem) (arguments : List String) (environment : Dict String) :
    Outcome :=
  match Command.parse? arguments environment with
  | none => .misused
  | some command => command.outcome files

namespace Outcome

/-- The exit code of the program. -/
def exitCode : Outcome → Nat
  | misused => 2
  | done _ => 0
  | failed _ => 1
  | ready _ _ => 0

/-- The text for the standard output. -/
def output : Outcome → String
  | done output => output
  | _ => ""

/-- The text for the standard error output. -/
def report : Outcome → String
  | failed failure => failure.render
  | _ => ""

end Outcome

end VolumeBroker
