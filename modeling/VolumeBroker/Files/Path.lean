import VolumeBroker.Text.Split
/-!
# File paths

Paths are texts with slashes between their segments. Repeated slashes and segments `.` name nothing,
so they are passed over at the end of a path, where its last segment is looked for.
-/

namespace VolumeBroker

namespace FilePath

/-- A reversed path without slashes and segments `.` at its end; the root stays. -/
def trimReversed : List Char → List Char
  | ['/'] => ['/']
  | '/' :: rest => trimReversed rest
  | ['.', '/'] => ['/']
  | '.' :: '/' :: rest => trimReversed rest
  | path => path

/-- The path without slashes and segments `.` at its end. -/
def trimmed (path : String) : List Char := (trimReversed path.toList.reverse).reverse

/-- The last segment of a path, unless it leads upwards. -/
def fileName? (path : String) : Option String :=
  let name := String.ofList ((trimmed path).reverse.takeWhile (· != '/')).reverse
  if name = "" ∨ name = "." ∨ name = ".." then none else some name

/-- The path without its last segment. -/
def parent (path : String) : String :=
  let rest := (trimmed path).reverse.dropWhile (· != '/')
  String.ofList (trimReversed rest).reverse

/-- A path below another one. -/
def join (base name : String) : String :=
  if name.startsWith "/" then name
  else if base.isEmpty || base.endsWith "/" then base ++ name
  else base ++ "/" ++ name

/-- The path with another last segment. -/
def withFileName (path name : String) : String :=
  if (fileName? path).isSome then join (parent path) name else join path name

/-- The part of the last segment behind its last point, if another character stands before it. -/
def extension? (path : String) : Option String := do
  let name ← fileName? path
  let reversed := name.toList.reverse
  let ending := reversed.takeWhile (· != '.')
  if (reversed.dropWhile (· != '.')).length ≤ 1 then none
  else some (String.ofList ending.reverse)

/-- Whether a path starts at the root. -/
def isAbsolute (path : String) : Bool := path.startsWith "/"

/-- Whether a path ends as only that of a directory may: with a slash or a segment `.`. -/
def namesDirectory (path : String) : Bool :=
  match path.toList.reverse with
  | '/' :: _ => true
  | ['.'] => true
  | '.' :: '/' :: _ => true
  | _ => false

/-- The segments of a path that name something. -/
def segments (path : String) : List String :=
  ((Split.splitAt '/' path.toList).map String.ofList).filter fun s => s != "" && s != "."

end FilePath

end VolumeBroker
