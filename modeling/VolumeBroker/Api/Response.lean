import VolumeBroker.Api.Request
import VolumeBroker.Broker.Error
import VolumeBroker.Broker.Operation
import VolumeBroker.Codec.Record
/-!
# Responses over HTTP

How the results of the broker and the faults of a request are answered. An error of the broker is
answered with its status and an `ErrorBody`; so is a request whose body, or whose query where the
query takes the place of a body, cannot be read.
-/

namespace VolumeBroker

/-- The body of a response that reports an error. -/
structure ErrorBody where
  error : String
  description : String
deriving DecidableEq, Repr

namespace ErrorBody

/-- How an error is written. -/
def shape : Shape ErrorBody where
  title := "ErrorBody"
  types := [String, String]
  fields := .cons (.required "error" .string) <| .cons (.required "description" .string) .nil
  strict := false
  build := fun (error, description, ()) => ⟨error, description⟩
  parts b := (b.error, b.description, ())

end ErrorBody

/-- The body of a response. -/
inductive HttpBody where
  | empty
  | json (value : Json)
  | text (text : String)

/-- A response. -/
structure HttpResponse where
  status : Nat
  /-- The type of the body. -/
  contentType : Option String
  /-- The methods that the route offers, where the response tells them. -/
  allow : Option (List HttpMethod)
  body : HttpBody

namespace HttpResponse

/-- A response without a body. -/
def bare (status : Nat) : HttpResponse := ⟨status, none, none, .empty⟩

/-- A response with a JSON body. -/
def ofJson (status : Nat) (value : Json) : HttpResponse :=
  ⟨status, some "application/json", none, .json value⟩

/-- A response with a text. -/
def ofText (status : Nat) (text : String) : HttpResponse :=
  ⟨status, some "text/plain; charset=utf-8", none, .text text⟩

/-- The response that reports an error. -/
def failure (status : Nat) (code description : String) : HttpResponse :=
  ofJson status (ErrorBody.shape.codec.toJson ⟨code, description⟩)

/-- The response to a request that cannot be read. -/
def malformedRequest (description : String) : HttpResponse :=
  failure 400 "MalformedRequest" description

/-- The response that reports an error of the broker. -/
def ofError (e : BrokerError) : HttpResponse := failure e.status e.code e.message

/-- The response to a successful operation: what it made was created. -/
def ofReply : Reply → HttpResponse
  | .provisioned answer => ofJson 201 (Provisioned.shape.codec.toJson answer)
  | .deprovisioned answer => ofJson 200 (Deprovisioned.shape.codec.toJson answer)
  | .bound binding => ofJson 201 (Binding.shape.codec.toJson binding)
  | .unbound => ofJson 200 (.obj [])

/-- The response to an operation. -/
def ofResult : Except BrokerError Reply → HttpResponse
  | .ok reply => ofReply reply
  | .error e => ofError e

/-- The response without its body. -/
def withoutBody (r : HttpResponse) : HttpResponse := { r with body := .empty }

/-- The response of a route that tells its methods. -/
def allowing (r : HttpResponse) (methods : List HttpMethod) : HttpResponse :=
  { r with allow := some methods }

end HttpResponse

end VolumeBroker
