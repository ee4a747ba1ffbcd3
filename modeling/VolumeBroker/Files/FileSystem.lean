import VolumeBroker.Dict
import VolumeBroker.Files.Path
import VolumeBroker.Text.Content
/-!
# File systems

A `FileSystem` maps absolute paths to files and directories. Its operations can fail in the ways
that matter to a program that keeps a file: a directory on the way is missing or is a file, the
target is a directory, or a path is locked against changes. A failed operation changes nothing.
-/

namespace VolumeBroker

/-- What a file holds. -/
abbrev FileContent := Content

/-- What stands at a path. -/
inductive FileNode where
  | file (content : FileContent)
  | directory
deriving DecidableEq, Repr

/-- Files and directories by absolute path. -/
structure FileSystem where
  /-- What stands at each absolute path; the root is not listed. -/
  nodes : Dict FileNode
  /-- The segments of the directory that relative paths start from. -/
  workDir : List String
  /-- Absolute paths that refuse to be created, written or replaced. -/
  locked : List String

namespace FileSystem

/-- The absolute path of segments. -/
def pathOf (segments : List String) : String :=
  String.join (segments.map fun s => "/" ++ s)

/-- A file system without files. -/
def empty : FileSystem := ⟨.empty, [], []⟩

/-- What stands at an absolute path, given by its segments. -/
def nodeAt (fs : FileSystem) (segments : List String) : Option FileNode :=
  if segments.isEmpty then some .directory else fs.nodes.get? (pathOf segments)

/-- Whether segments lead to a directory. -/
def isDirectoryAt (fs : FileSystem) (segments : List String) : Bool :=
  fs.nodeAt segments == some .directory

/-- Follows segments from a place; every place on the way must be a directory. -/
def follow (fs : FileSystem) (place : List String) : List String → Option (List String)
  | [] => some place
  | segment :: rest =>
    if fs.isDirectoryAt place then
      follow fs (if segment = ".." then place.dropLast else place ++ [segment]) rest
    else none

/-- The segments of the place that relative or absolute paths start from. -/
def origin (fs : FileSystem) (path : String) : List String :=
  if FilePath.isAbsolute path then [] else fs.workDir

/-- The place that a path leads to, whether something stands there or not; a path that names a
directory must lead to one. -/
def place? (fs : FileSystem) (path : String) : Option (List String) := do
  let place ← fs.follow (fs.origin path) (FilePath.segments path)
  if FilePath.namesDirectory path && !fs.isDirectoryAt place then none else some place

/-- What stands at a path. -/
def node? (fs : FileSystem) (path : String) : Option FileNode :=
  (fs.place? path).bind fs.nodeAt

/-- Whether something stands at a path. -/
def pathExists (fs : FileSystem) (path : String) : Bool := (fs.node? path).isSome

/-- The text of a file; `none` if there is no file or it holds no text. -/
def readText? (fs : FileSystem) (path : String) : Option String :=
  match fs.node? path with
  | some (.file (.text text)) => some text
  | _ => none

/-- Puts a node at a place that is not locked. -/
def put? (fs : FileSystem) (place : List String) (node : FileNode) : Option FileSystem :=
  if place.isEmpty ∨ fs.locked.contains (pathOf place) then none
  else some { fs with nodes := fs.nodes.insert (pathOf place) node }

/-- Makes directories from a place on; those that exist are kept. -/
def makeDirectories (fs : FileSystem) (place : List String) : List String → Option FileSystem
  | [] => some fs
  | segment :: rest =>
    let next := if segment = ".." then place.dropLast else place ++ [segment]
    match fs.nodeAt next with
    | some .directory => makeDirectories fs next rest
    -- a file stands in the way
    | some (.file _) => none
    | none => (fs.put? next .directory).bind fun fs => makeDirectories fs next rest

/-- Makes a directory and all directories above it that are missing. -/
def createDirectories (fs : FileSystem) (path : String) : Option FileSystem :=
  fs.makeDirectories (fs.origin path) (FilePath.segments path)

/-- Whether a file may stand at a place: its parent is a directory, and it is none itself. -/
def admitsFile (fs : FileSystem) (place : List String) : Bool :=
  fs.isDirectoryAt place.dropLast && !fs.isDirectoryAt place

/-- Writes a file, in place of the one that stood there. -/
def write (fs : FileSystem) (path : String) (content : FileContent) : Option FileSystem := do
  let place ← fs.place? path
  if fs.admitsFile place then fs.put? place (.file content) else none

/-- Moves a file, in place of the one that stood there. -/
def rename (fs : FileSystem) (source target : String) : Option FileSystem := do
  let old ← fs.place? source
  let new ← fs.place? target
  match fs.nodeAt old with
  | some (.file content) =>
    if fs.admitsFile new then do
      let moved ← fs.put? new (.file content)
      some { moved with nodes := moved.nodes.erase (pathOf old) }
    else none
  | _ => none

/-- Takes a file away. -/
def remove (fs : FileSystem) (path : String) : FileSystem :=
  match fs.place? path with
  | some place => { fs with nodes := fs.nodes.erase (pathOf place) }
  | none => fs

end FileSystem

end VolumeBroker
