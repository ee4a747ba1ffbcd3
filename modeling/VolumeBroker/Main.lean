import VolumeBroker.CommandLine.Outcome
/-!
# The program

The command line: it looks up the files and the environment variables that a command may read, runs
the command, and prints what came of it. A broker that is ready is not put on the network from here.
-/

namespace VolumeBroker

/-- What stands at a path of the machine's file system. -/
def nodeOnDisk (path : String) : IO (Option FileNode) := do
  let found ← try some <$> IO.FS.realPath path catch _ => pure none
  match found with
  | none => return none
  | some place =>
    if ← place.isDir then return some .directory
    try
      let content ← IO.FS.readBinFile place
      match String.fromUTF8? content with
      | some text => return some (.file (.text text))
      | none => return some (.file (.bytes content.data.toList))
    catch _ => return some (.file (.bytes []))

/-- Adds what stands on the way to a place and at the place itself. -/
def addPlace (files : FileSystem) (place : List String) : IO FileSystem :=
  (List.range place.length).foldlM (fun files n => do
    let path := FileSystem.pathOf (place.take (n + 1))
    match ← nodeOnDisk path with
    | some node => return { files with nodes := files.nodes.insert path node }
    | none => return files) files

/-- The files that a command may read. -/
def filesFor (command : Command) : IO FileSystem := do
  let workDir := FilePath.segments (← IO.currentDir).toString
  let files ← addPlace ⟨.empty, workDir, []⟩ workDir
  command.paths.foldlM (fun files path => addPlace files (files.origin path ++ FilePath.segments path)) files

/-- The environment variables of all settings. -/
def environment : IO (Dict String) :=
  [Setting.listenAddress, .dataDir, .serviceSpec, .pluginTimeout].foldlM (fun found setting => do
    match ← IO.getEnv setting.environmentName with
    | some value => return found.insert setting.environmentName value
    | none => return found) .empty

/-- Prints what came of a run, and gives its exit code. -/
def present (outcome : Outcome) : IO UInt32 := do
  IO.print outcome.output
  IO.eprint outcome.report
  match outcome with
  | .misused => IO.eprintln "usage: (serve | catalog | records) [--SETTING VALUE]..."
  | .ready _ address => IO.eprintln ("ready to serve at " ++ address)
  | _ => pure ()
  return UInt32.ofNat outcome.exitCode

end VolumeBroker

open VolumeBroker in
/-- Runs the program. -/
def main (arguments : List String) : IO UInt32 := do
  match Command.parse? arguments (← environment) with
  | none => present .misused
  | some command => present (command.outcome (← filesFor command))
