import VolumeBroker.Api.MediaType
import VolumeBroker.Text.Content
import VolumeBroker.Text.Percent
/-!
# Requests over HTTP

A request names its target by a path and a query. `Route` tells what the path leads to; the ids in it
are kept as they are written until they are needed.
-/

namespace VolumeBroker

/-- Request methods. -/
inductive HttpMethod where
  | get
  /-- Asks what `get` would answer, without the body. -/
  | head
  | put
  | patch
  | delete
  /-- Asks what may be asked. -/
  | options
  | other (name : String)
deriving DecidableEq, Repr

namespace HttpMethod

/-- The name of a method. -/
def name : HttpMethod → String
  | get => "GET"
  | head => "HEAD"
  | put => "PUT"
  | patch => "PATCH"
  | delete => "DELETE"
  | options => "OPTIONS"
  | other name => name

/-- The method of a name. -/
def ofName (name : String) : HttpMethod :=
  ([get, head, put, patch, delete, options].find? fun method => method.name == name).getD (other name)

end HttpMethod

/-- A request. -/
structure HttpRequest where
  method : HttpMethod
  /-- The target: a path with an optional query, or a complete URL. -/
  target : String
  /-- The announced type of the body. -/
  contentType : Option String
  body : Content
deriving DecidableEq, Repr

namespace HttpRequest

/-- Drops a scheme and an authority in front of the path. -/
def dropAuthority (target : List Char) : List Char :=
  match target.dropWhile fun c => c != ':' && c != '/' && c != '?' with
  | ':' :: '/' :: '/' :: rest =>
    match rest.dropWhile fun c => c != '/' && c != '?' with
    | '/' :: path => '/' :: path
    | query => '/' :: query
  | _ => target

/-- The target without authority and fragment. -/
def localTarget (r : HttpRequest) : List Char :=
  dropAuthority (r.target.toList.takeWhile (· != '#'))

/-- The path of the target. -/
def path (r : HttpRequest) : List Char := (Split.cut '?' r.localTarget).1

/-- The query of the target; an absent query is empty. -/
def query (r : HttpRequest) : String := String.ofList ((Split.cut '?' r.localTarget).2.getD [])

/-- Whether the announced type of the body is JSON. -/
def announcesJson (r : HttpRequest) : Bool :=
  (r.contentType.bind MediaType.parse?).any MediaType.isJson

end HttpRequest

/-- What a path leads to; ids are percent-encoded. -/
inductive Route where
  /-- Whether the broker is up. -/
  | health
  | catalog
  | serviceInstance (id : String)
  | lastOperation (instanceId : String)
  | binding (instanceId bindingId : String)
deriving DecidableEq, Repr

namespace Route

/-- The route of the segments of a path; an id at the end of a path is not empty. -/
def ofSegments? : List String → Option Route
  | ["", "health"] => some health
  | ["", "v2", "catalog"] => some catalog
  | ["", "v2", "service_instances", id] => if id.isEmpty then none else some (.serviceInstance id)
  | ["", "v2", "service_instances", id, "last_operation"] => some (.lastOperation id)
  | ["", "v2", "service_instances", id, "service_bindings", bindingId] =>
    if bindingId.isEmpty then none else some (.binding id bindingId)
  | _ => none

/-- The route of a path. -/
def ofPath? (path : List Char) : Option Route :=
  ofSegments? ((Split.splitAt '/' path).map String.ofList)

/-- The methods that a route offers. -/
def methods : Route → List HttpMethod
  | health | catalog | lastOperation _ => [.get, .head]
  | .serviceInstance _ => [.put, .patch, .delete]
  | binding _ _ => [.put, .delete]

end Route

end VolumeBroker
