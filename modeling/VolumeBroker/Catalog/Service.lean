import VolumeBroker.Codec.Record
/-!
# Services

The catalog entries that the broker offers, and the entries of a specification file, which add the
driver and the plugin address of a service to its catalog entry in one flat object.
-/

namespace VolumeBroker

/-- A plan of a service. -/
structure ServicePlan where
  id : String
  name : String
  description : String
  /-- Whether it costs nothing. -/
  free : Option Bool
  /-- Anything else about it. -/
  metadata : Option Json

/-- How a plan is written. -/
def ServicePlan.shape : Shape ServicePlan where
  title := "ServicePlan"
  types := [String, String, String, Option Bool, Option Json]
  fields :=
    .cons (.required "id" .string) <|
    .cons (.required "name" .string) <|
    .cons (.defaulted "description" .string "") <|
    .cons (.optional "free" .bool) <|
    .cons (.optional "metadata" .json) .nil
  strict := false
  build := fun (id, name, description, free, metadata, ()) => ⟨id, name, description, free, metadata⟩
  parts p := (p.id, p.name, p.description, p.free, p.metadata, ())

/-- A service. -/
structure Service where
  id : String
  name : String
  description : String
  /-- Whether its instances can be bound. -/
  bindable : Bool
  /-- Whether an instance can change its plan. -/
  planUpdateable : Bool
  /-- Words to find it by. -/
  tags : List String
  /-- Permissions that it needs. -/
  requires : List String
  /-- Anything else about it. -/
  metadata : Option Json
  plans : List ServicePlan

namespace Service

/-- How a service is written. -/
def shape : Shape Service where
  title := "Service"
  types := [String, String, String, Bool, Bool, List String, List String, Option Json,
    List ServicePlan]
  fields :=
    .cons (.required "id" .string) <|
    .cons (.required "name" .string) <|
    .cons (.defaulted "description" .string "") <|
    .cons (.defaulted "bindable" .bool false) <|
    .cons (.defaulted "plan_updateable" .bool false) <|
    .cons (.defaulted "tags" Codec.string.list []) <|
    .cons (.defaulted "requires" Codec.string.list []) <|
    .cons (.optional "metadata" .json) <|
    .cons (.defaulted "plans" ServicePlan.shape.codec.list []) .nil
  strict := false
  build := fun (id, name, description, bindable, planUpdateable, tags, requires, metadata, plans, ()) =>
    ⟨id, name, description, bindable, planUpdateable, tags, requires, metadata, plans⟩
  parts s := (s.id, s.name, s.description, s.bindable, s.planUpdateable, s.tags, s.requires,
    s.metadata, s.plans, ())

/-- The permission without which bindings may carry no volume mounts. -/
def volumeMountPermission : String := "volume_mount"

/-- Whether the service asks for the permission to mount volumes. -/
def requiresVolumeMount (s : Service) : Bool := s.requires.contains volumeMountPermission

/-- The service with the permission to mount volumes among those it needs. -/
def withVolumeMount (s : Service) : Service :=
  if s.requiresVolumeMount then s
  else { s with requires := s.requires ++ [volumeMountPermission] }

end Service

/-- What the broker offers. -/
structure Catalog where
  services : List Service

/-- How a catalog is written. -/
def Catalog.shape : Shape Catalog where
  title := "Catalog"
  types := [List Service]
  fields := .cons (.required "services" Service.shape.codec.list) .nil
  strict := false
  build := fun (services, ()) => ⟨services⟩
  parts c := (c.services, ())

/-! ### Entries of a specification -/

/-- A service with the plugin that serves it. -/
structure ServiceSpec where
  /-- The volume driver on the hosts. -/
  driverName : String
  connectionAddress : String
  /-- The catalog entry. -/
  service : Service

namespace ServiceSpec

/-- The types of the fields that an entry adds to its service. -/
abbrev OwnTypes : List Type := [String, String]

/-- The fields that an entry adds to its service. -/
def ownFields : Fields OwnTypes :=
  .cons (.defaulted "driver_name" .string "") <| .cons (.defaulted "connection_address" .string "") .nil

/-- Reads the members of an entry: its own fields at once, all others are set aside in order. -/
def splitMembers (origin : Origin) : List (Key × Source) → Partial OwnTypes →
    Except Problem (Partial OwnTypes × List (Key × Source))
  | [], slots => .ok (slots, [])
  | (.garbled fault, _) :: _, _ => .error (.fault fault)
  | (.text key, value) :: rest, slots =>
    match ownFields.put? origin key value slots with
    | some (.ok slots) => splitMembers origin rest slots
    | some (.error problem) => .error problem
    | none =>
      match value.readFault with
      | some fault => .error (.fault fault)
      | none => do
        let (slots, others) ← splitMembers origin rest slots
        .ok (slots, (.text key, value) :: others)

/-- Entries as documents: objects that hold the fields of entry and service side by side. -/
def codec : Codec ServiceSpec where
  read origin := fun
    | .obj members failure => do
      let (slots, others) ← splitMembers origin members ownFields.blank
      endOf failure
      let (driverName, connectionAddress, ()) ← ownFields.complete slots
      let service ← Service.shape.read .buffered (.obj others none)
      .ok ⟨driverName, connectionAddress, service⟩
    | .keyless _ => .error (.fault .malformed)
    | other => mistyped "struct ServiceSpec" other
  write s :=
    .obj (ownFields.write (s.driverName, s.connectionAddress, ()) ++ Service.shape.write s.service)

end ServiceSpec

end VolumeBroker
