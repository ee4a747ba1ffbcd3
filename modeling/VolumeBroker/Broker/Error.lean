import VolumeBroker.Catalog.Registry
import VolumeBroker.Store.Error
/-!
# Errors of the broker

Each error of a lifecycle operation has a text, a stable code for machines, and a category that
decides how the management interface reports it.
-/

namespace VolumeBroker

/-- Classes of errors. -/
inductive ErrorCategory where
  /-- The caller's input is missing or malformed. -/
  | validation
  /-- An id is used again with other details. -/
  | conflict
  /-- An instance or a binding is absent. -/
  | notFound
  /-- A plugin call failed. -/
  | plugin
  /-- Records could not be saved or loaded. -/
  | persistence
  /-- The operation is not offered. -/
  | unsupported
  /-- Anything else. -/
  | internal
deriving DecidableEq, Repr

/-- Why an operation failed. -/
inductive BrokerError where
  /-- The parameters are not valid. -/
  | invalidParameters (reason : String)
  /-- A required field is empty. -/
  | missingField (field : String)
  /-- The binding names no application. -/
  | appGuidNotProvided
  /-- The instance exists with other details. -/
  | instanceAlreadyExists (id : String)
  | instanceDoesNotExist (id : String)
  /-- The binding exists with other details. -/
  | bindingAlreadyExists (id : String)
  | bindingDoesNotExist (id : String)
  /-- The registry has no answer. -/
  | registry (error : RegistryError)
  /-- A plugin call failed. -/
  | plugin (operation : String) (source : PluginError)
  /-- The stored fingerprint of an instance cannot be read. -/
  | fingerprint (instanceId : String) (source : Mismatch)
  /-- A store operation failed. -/
  | store (operation : String) (source : StoreError)
  /-- The operation is not offered. -/
  | unsupported (operation : String)
deriving DecidableEq

namespace BrokerError

/-- The text of an error. -/
def message : BrokerError → String
  | invalidParameters reason => "The format of the parameters is not valid: " ++ reason
  | missingField field => "Request requires " ++ quoted field
  | appGuidNotProvided => "app_guid is a required field but was not provided"
  | instanceAlreadyExists id => "Instance " ++ id ++ " already exists with different details"
  | instanceDoesNotExist id => "Instance " ++ id ++ " does not exist"
  | bindingAlreadyExists id => "Binding " ++ id ++ " already exists with different details"
  | bindingDoesNotExist id => "Binding " ++ id ++ " does not exist"
  | registry error => error.message
  | plugin operation source =>
    "Plugin call " ++ backquoted operation ++ " failed: " ++ source.message
  | fingerprint instanceId source =>
    "Stored fingerprint for instance " ++ instanceId ++ " is unreadable: " ++ source.message
  | store operation source =>
    "Record store operation " ++ backquoted operation ++ " failed: " ++ source.message
  | unsupported operation =>
    "Operation " ++ backquoted operation ++ " is not supported by this broker"

/-- The category of an error. -/
def category : BrokerError → ErrorCategory
  | invalidParameters _ | missingField _ | appGuidNotProvided => .validation
  | instanceAlreadyExists _ | bindingAlreadyExists _ => .conflict
  | instanceDoesNotExist _ | bindingDoesNotExist _ => .notFound
  | registry (.unknownService _) => .validation
  | registry _ => .internal
  | plugin _ _ => .plugin
  | fingerprint _ _ => .internal
  | store _ _ => .persistence
  | unsupported _ => .unsupported

/-- The code of an error. -/
def code : BrokerError → String
  | invalidParameters _ => "InvalidParameters"
  | missingField _ => "MissingField"
  | appGuidNotProvided => "RequiresApp"
  | instanceAlreadyExists _ => "InstanceAlreadyExists"
  | instanceDoesNotExist _ => "InstanceDoesNotExist"
  | bindingAlreadyExists _ => "BindingAlreadyExists"
  | bindingDoesNotExist _ => "BindingDoesNotExist"
  | registry (.unknownService _) => "UnknownService"
  | registry _ => "RegistryFailure"
  | plugin _ _ => "PluginFailure"
  | fingerprint _ _ => "CorruptRecord"
  | store _ _ => "PersistenceFailure"
  | unsupported _ => "OperationNotSupported"

/-- The HTTP status under which an error is reported. -/
def status : BrokerError → Nat
  | appGuidNotProvided => 422
  | error =>
    match error.category with
    | .validation => 400
    | .conflict => 409
    | .notFound => 410
    | .plugin => 502
    | .unsupported => 422
    | .persistence | .internal => 500

end BrokerError

end VolumeBroker
