import VolumeBroker.Broker.Details
/-!
# Lifecycle operations

The four operations that manage instances and bindings. Every operation names the service that it is
about; the ids that it names are handed in beside its details.
-/

namespace VolumeBroker

/-- An operation on an instance or a binding, with the details that the caller hands in. -/
inductive Operation where
  /-- Makes an instance. -/
  | provision (instanceId : String) (details : ProvisionDetails)
  /-- Takes an instance away. -/
  | deprovision (instanceId : String) (details : DeprovisionDetails)
  /-- Binds an instance to an application. -/
  | bind (instanceId bindingId : String) (details : BindDetails)
  /-- Takes a binding away. -/
  | unbind (instanceId bindingId : String) (details : UnbindDetails)

namespace Operation

/-- The service that the caller names. -/
def serviceId : Operation → String
  | provision _ details => details.serviceId
  | deprovision _ details => details.serviceId
  | bind _ _ details => details.serviceId
  | unbind _ _ details => details.serviceId

/-- The instance that the caller names. -/
def instanceId : Operation → String
  | provision id _ => id
  | deprovision id _ => id
  | bind id _ _ => id
  | unbind id _ _ => id

/-- The binding that the caller names, if the operation is about one. -/
def bindingId? : Operation → Option String
  | provision _ _ => none
  | deprovision _ _ => none
  | bind _ id _ => some id
  | unbind _ id _ => some id

end Operation

/-- What a successful operation gives. -/
inductive Reply where
  | provisioned (answer : Provisioned)
  | deprovisioned (answer : Deprovisioned)
  | bound (binding : Binding)
  | unbound

end VolumeBroker
