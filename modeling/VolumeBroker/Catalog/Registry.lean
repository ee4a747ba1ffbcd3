import VolumeBroker.Catalog.Service
import VolumeBroker.Plugin.Message
import VolumeBroker.Text.Blank
/-!
# The registry of services

A `Registry` tells for each service id which driver mounts its volumes and at which address its plugin
listens, and holds the catalog that is published. `Registry.build` makes it from the entries of a
specification, one after the other: the first entry that is incomplete, repeats an id or cannot be
connected ends the construction.
-/

namespace VolumeBroker

/-- What is wrong with an entry of a specification. -/
inductive SpecProblem where
  | blankField (field : String)
  | noPlans
  /-- A plan has a blank id or name. -/
  | incompletePlan (name : String)
  /-- An earlier entry has the same id. -/
  | duplicateId (id : String)
deriving DecidableEq, Repr

/-- The text of a problem. -/
def SpecProblem.reason : SpecProblem → String
  | blankField field => "missing " ++ field
  | noPlans => "no plans"
  | incompletePlan name => "plan " ++ quoted name ++ " needs an id and a name"
  | duplicateId id => "duplicate service id " ++ id

/-- Why there is no registry, or no entry in it. -/
inductive RegistryError where
  /-- The specification has no entry. -/
  | emptySpecFile
  /-- An entry is wrong. -/
  | invalidService (index : Nat) (reason : String)
  /-- The specification cannot be read. -/
  | invalidSpecFile (path : String) (reason : String)
  /-- The plugin of an entry cannot be connected. -/
  | connect (index : Nat) (source : PluginError)
  /-- No service has this id. -/
  | unknownService (id : String)
deriving DecidableEq, Repr

/-- The text of an error. -/
def RegistryError.message : RegistryError → String
  | emptySpecFile => "At least one service must be provided in specfile"
  | invalidService index reason =>
    "Invalid service in specfile at index " ++ toString index ++ ": " ++ reason
  | invalidSpecFile path reason => "Invalid specfile " ++ path ++ ": " ++ reason
  | connect index source =>
    "Cannot connect service at index " ++ toString index ++ " to its plugin: " ++ source.message
  | unknownService id => "Unknown service " ++ id

/-- The driver and the plugin of a service. -/
structure RegistryEntry where
  /-- The volume driver on the hosts. -/
  driverName : String
  address : String
deriving DecidableEq, Repr

/-- The services of a broker. -/
structure Registry where
  entries : Dict RegistryEntry
  /-- The published services in the order of the specification. -/
  services : List Service

/-- The failure of an attempt to connect to the plugin at an address, if it fails. -/
abbrev Connector := String → Option PluginError

/-- The connector of plugins that are contacted only when they are called. -/
def Connector.lazy : Connector := fun _ => none

/-- What came of building a registry. -/
structure Construction where
  /-- The addresses that were to be connected, in order; only the last attempt can have failed. -/
  attempted : List String
  /-- The registry, or why there is none. -/
  result : Except RegistryError Registry

namespace Registry

/-- No service. -/
def empty : Registry := ⟨.empty, []⟩

/-- The fields of an entry that may not be blank, with their values. -/
def requiredTexts (spec : ServiceSpec) : List (String × String) :=
  [("id", spec.service.id), ("name", spec.service.name), ("driver_name", spec.driverName),
    ("connection_address", spec.connectionAddress)]

/-- Whether a plan lacks an id or a name. -/
def isIncomplete (plan : ServicePlan) : Bool := isBlankText plan.id || isBlankText plan.name

/-- The first problem of an entry by itself. -/
def problem? (spec : ServiceSpec) : Option SpecProblem :=
  match (requiredTexts spec).find? fun field => isBlankText field.2 with
  | some (field, _) => some (.blankField field)
  | none =>
    if spec.service.plans.isEmpty then some .noPlans
    else (spec.service.plans.find? isIncomplete).map fun plan => .incompletePlan plan.name

/-- The registry with one more entry. -/
def add (r : Registry) (spec : ServiceSpec) : Registry :=
  ⟨r.entries.insert spec.service.id ⟨spec.driverName, spec.connectionAddress⟩,
    r.services ++ [spec.service.withVolumeMount]⟩

/-- Adds the entries from an index on. Each entry has the connector that is in force when its turn
comes: a connector with a state may answer otherwise once an entry has been connected. -/
def addAll (connect : Nat → Connector) (index : Nat) (r : Registry) : List ServiceSpec → Construction
  | [] => ⟨[], .ok r⟩
  | spec :: rest =>
    match problem? spec with
    | some problem => ⟨[], .error (.invalidService index problem.reason)⟩
    | none =>
      if r.entries.contains spec.service.id then
        ⟨[], .error (.invalidService index (SpecProblem.duplicateId spec.service.id).reason)⟩
      else
        match connect index spec.connectionAddress with
        | some source => ⟨[spec.connectionAddress], .error (.connect index source)⟩
        | none =>
          let others := addAll connect (index + 1) (r.add spec) rest
          ⟨spec.connectionAddress :: others.attempted, others.result⟩

/-- Builds the registry of a specification, with a connector for each entry. -/
def buildEach (specs : List ServiceSpec) (connect : Nat → Connector) : Construction :=
  if specs.isEmpty then ⟨[], .error .emptySpecFile⟩ else addAll connect 0 empty specs

/-- Builds the registry of a specification. -/
def build (specs : List ServiceSpec) (connect : Connector) : Construction :=
  buildEach specs fun _ => connect

/-- The entry of a service id. -/
def entry (r : Registry) (id : String) : Except RegistryError RegistryEntry :=
  match r.entries.get? id with
  | some entry => .ok entry
  | none => .error (.unknownService id)

/-- The driver of a service. -/
def driverName (r : Registry) (id : String) : Except RegistryError String :=
  (r.entry id).map (·.driverName)

/-- The address of the plugin of a service. -/
def address (r : Registry) (id : String) : Except RegistryError String :=
  (r.entry id).map (·.address)

/-- The published catalog. -/
def catalog (r : Registry) : Catalog := ⟨r.services⟩

end Registry

end VolumeBroker
