import VolumeBroker.Text.Split
/-!
# Container paths

Where a volume is mounted unless the caller says so: below `/var/vcap/data`, in a directory named for
the instance. The path is cleaned lexically: repeated slashes collapse, a segment `.` drops, and `..`
takes the segment before it away but never climbs above the root.
-/

namespace VolumeBroker

namespace ContainerPath

/-- The directory below which volumes are mounted. -/
def base : String := "/var/vcap/data"

/-- What a segment makes of the segments before it, the last of them first. -/
def step (before : List (List Char)) (segment : List Char) : List (List Char) :=
  if segment = [] ∨ segment = ['.'] then before
  else if segment = ['.', '.'] then before.drop 1
  else segment :: before

/-- The segments that are left of a path. -/
def resolve (segments : List (List Char)) : List (List Char) := (segments.foldl step []).reverse

/-- The characters of a path that is left after cleaning. -/
def cleanChars (path : List Char) : List Char :=
  '/' :: Split.joinWith '/' (resolve (Split.splitAt '/' path))

/-- A path without repeated slashes and dot segments. -/
def clean (path : String) : String := String.ofList (cleanChars path.toList)

/-- The path of an instance. -/
def ofInstance (instanceId : String) : String := clean (base ++ "/" ++ instanceId)

end ContainerPath

end VolumeBroker
