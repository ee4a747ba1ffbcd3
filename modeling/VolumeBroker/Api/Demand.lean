import VolumeBroker.Api.Response
import VolumeBroker.Broker.Lifecycle
import VolumeBroker.Json.Reader
/-!
# What a request demands

A request of the management interface is either answered at once or demands one operation of the
broker; its response is then the one of the operation's result. Ids come from the path, details from
the JSON body or, where there is no body, from the query.
-/

namespace VolumeBroker

/-- What a request demands of the broker. -/
inductive Demand where
  /-- Nothing; this is the response. -/
  | response (response : HttpResponse)
  | operation (operation : Operation)

namespace HttpRequest

/-! ### The parts of a request -/

/-- A value read from a request, or the response that refuses it. -/
abbrev Part (α : Type) := Except HttpResponse α

/-- An id in the path; a refusal names the parameter of the path. -/
def idPart (name encoded : String) : Part String :=
  match Percent.segment? encoded with
  | some id => .ok id
  | none => .error (.ofText 400 ("Invalid URL: Invalid UTF-8 in " ++ backquoted name))

/-- The text that reports an unreadable query. -/
def badQuery (m : Mismatch) : String := "Failed to deserialize query string: " ++ m.message

/-- A parameter of the query, which may not be given twice. -/
def parameter (r : HttpRequest) (name : String) : Except Mismatch (Option String) :=
  match (Percent.queryPairs r.query).filter fun pair => pair.1 == name with
  | [] => .ok none
  | [(_, value)] => .ok (some value)
  | _ => .error (.duplicateField name)

/-- The service and the plan in the query; what is absent is empty. -/
def serviceAndPlan (r : HttpRequest) : Part (String × String) :=
  match r.parameter "service_id", r.parameter "plan_id" with
  | .error m, _ | _, .error m => .error (.malformedRequest (badQuery m))
  | .ok serviceId, .ok planId => .ok (serviceId.getD "", planId.getD "")

/-- Checks the flag by which a caller says whether an operation may go on after its answer. -/
def asyncFlag (r : HttpRequest) : Part Bool :=
  match r.parameter "accepts_incomplete" with
  | .ok none | .ok (some "false") => .ok false
  | .ok (some "true") => .ok true
  | .ok (some _) =>
    .error (.ofText 400 (badQuery (.refused "provided string was not `true` or `false`")))
  | .error m => .error (.ofText 400 (badQuery m))

/-- The operation that a caller asks about. -/
def operationName (r : HttpRequest) : Part (Option String) :=
  match r.parameter "operation" with
  | .ok operation => .ok operation
  | .error m => .error (.ofText 400 (badQuery m))

/-- How many bytes a body may have. -/
def bodyLimit : Nat := 2 * 1024 * 1024

/-- The details in the body. What stands behind the JSON value in it does not count. -/
def details {α : Type} (r : HttpRequest) (c : Codec α) : Part α :=
  if !r.announcesJson then
    .error (.malformedRequest "Expected request with `Content-Type: application/json`")
  else if bodyLimit < r.body.size then
    .error (.malformedRequest "Failed to buffer the request body: length limit exceeded")
  else
    match c.read .text (Document.ofContent r.body).root with
    | .ok details => .ok details
    | .error (.mismatch m) =>
      .error (.malformedRequest
        ("Failed to deserialize the JSON body into the target type: " ++ m.message))
    | .error (.fault fault) =>
      .error (.malformedRequest
        ("Failed to parse the request body as JSON: " ++ (Problem.fault fault).message))

/-! ### Demands -/

/-- A part of a request that demands an operation. -/
def Part.toDemand : Part Operation → Demand
  | .ok operation => .operation operation
  | .error response => .response response

/-- A part of a request that is the response itself. -/
def Part.toResponse : Part HttpResponse → Demand
  | .ok response => .response response
  | .error response => .response response

/-- A request to make an instance. -/
def provision (r : HttpRequest) (id : String) : Part Operation := do
  let id ← idPart "instance_id" id
  let _ ← r.asyncFlag
  let details ← r.details ProvisionDetails.shape.codec
  .ok (.provision id details)

/-- A request to take an instance away. -/
def deprovision (r : HttpRequest) (id : String) : Part Operation := do
  let id ← idPart "instance_id" id
  let (serviceId, planId) ← r.serviceAndPlan
  .ok (.deprovision id ⟨serviceId, planId⟩)

/-- A request to bind an instance. -/
def bind (r : HttpRequest) (instanceId bindingId : String) : Part Operation := do
  let instanceId ← idPart "instance_id" instanceId
  let bindingId ← idPart "binding_id" bindingId
  let details ← r.details BindDetails.shape.codec
  .ok (.bind instanceId bindingId details)

/-- A request to take a binding away. -/
def unbind (r : HttpRequest) (instanceId bindingId : String) : Part Operation := do
  let instanceId ← idPart "instance_id" instanceId
  let bindingId ← idPart "binding_id" bindingId
  let (serviceId, planId) ← r.serviceAndPlan
  .ok (.unbind instanceId bindingId ⟨serviceId, planId⟩)

/-- The response to a request to change an instance. -/
def update (r : HttpRequest) (id : String) : Part HttpResponse := do
  let id ← idPart "instance_id" id
  let details ← r.details UpdateDetails.shape.codec
  match Broker.update id details with
  | .ok updated => .ok (.ofJson 200 (Updated.shape.codec.toJson updated))
  | .error e => .ok (.ofError e)

/-- The response to a question about the last operation on an instance. -/
def lastOperation (r : HttpRequest) (id : String) : Part HttpResponse := do
  let id ← idPart "instance_id" id
  let operation ← r.operationName
  .ok (.ofJson 200 (LastOperation.shape.codec.toJson (Broker.lastOperation id operation)))

/-- The response of the health check. -/
def healthy : HttpResponse := .ofJson 200 (.obj [("status", .str "ok")])

/-- The response of a route to a method that asks for a resource. -/
def read (r : HttpRequest) (services : List Service) : Route → Option (Part HttpResponse)
  | .health => some (.ok healthy)
  | .catalog => some (.ok (.ofJson 200 (Catalog.shape.codec.toJson ⟨services⟩)))
  | .lastOperation id => some (r.lastOperation id)
  | .serviceInstance _ | .binding _ _ => none

/-- The demand of a request on a route; `none` if the route does not offer the method. -/
def demandOn? (r : HttpRequest) (services : List Service) (route : Route) : Option Demand :=
  match r.method, route with
  | .get, route => (r.read services route).map Part.toResponse
  | .head, route =>
    (r.read services route).map fun part =>
      match part with
      | .ok response | .error response => .response response.withoutBody
  | .put, .serviceInstance id => some (r.provision id).toDemand
  | .patch, .serviceInstance id => some (r.update id).toResponse
  | .delete, .serviceInstance id => some (r.deprovision id).toDemand
  | .put, .binding instanceId bindingId => some (r.bind instanceId bindingId).toDemand
  | .delete, .binding instanceId bindingId => some (r.unbind instanceId bindingId).toDemand
  | _, _ => none

/-- The demand of a request to a broker that offers some services. Questions about options are
answered on every path. -/
def demand (r : HttpRequest) (services : List Service) : Demand :=
  match Route.ofPath? r.path with
  | none => .response (.bare (if r.method = .options then 200 else 404))
  | some route =>
    match r.demandOn? services route with
    | some demand => demand
    | none =>
      .response ((HttpResponse.bare (if r.method = .options then 200 else 405)).allowing route.methods)

end HttpRequest

end VolumeBroker
