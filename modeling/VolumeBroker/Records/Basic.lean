import VolumeBroker.Records.Slot
/-!
# Records of instances and bindings

What the broker remembers: a `RecordSet` maps instance ids to instance records and binding ids to
binding records. Two instance records *conflict* under one id when what the caller gave differs, two
binding records when anything differs.
-/

namespace VolumeBroker

/-- A provisioned service instance. -/
structure InstanceRecord where
  serviceId : String
  planId : String
  organizationGuid : String
  spaceGuid : String
  /-- The fingerprint of the instance's volume. -/
  fingerprint : Slot

namespace InstanceRecord

/-- How an instance record is written. -/
def shape : Shape InstanceRecord where
  title := "InstanceRecord"
  types := [String, String, String, String, Slot]
  fields :=
    .cons (.required "service_id" .string) <|
    .cons (.required "plan_id" .string) <|
    .cons (.required "organization_guid" .string) <|
    .cons (.required "space_guid" .string) <|
    .cons (.required "fingerprint" Slot.codec) .nil
  strict := false
  build := fun (serviceId, planId, organizationGuid, spaceGuid, fingerprint, ()) =>
    ⟨serviceId, planId, organizationGuid, spaceGuid, fingerprint⟩
  parts r := (r.serviceId, r.planId, r.organizationGuid, r.spaceGuid, r.fingerprint, ())

/-- Whether two records describe one instance to the caller; the fingerprints may differ. -/
def sameIdentity (a b : InstanceRecord) : Bool :=
  a.serviceId == b.serviceId && a.planId == b.planId &&
    a.organizationGuid == b.organizationGuid && a.spaceGuid == b.spaceGuid

theorem sameIdentity_iff {a b : InstanceRecord} :
    a.sameIdentity b = true ↔ a.serviceId = b.serviceId ∧ a.planId = b.planId ∧
      a.organizationGuid = b.organizationGuid ∧ a.spaceGuid = b.spaceGuid := by
  simp [sameIdentity, and_assoc]

end InstanceRecord

/-- What a binding is made for. -/
structure BindResource where
  appGuid : Option String
  route : Option String
deriving DecidableEq, Repr

/-- How a bind resource is written. -/
def BindResource.shape : Shape BindResource where
  title := "BindResource"
  types := [Option String, Option String]
  fields := .cons (.optional "app_guid" .string) <| .cons (.optional "route" .string) .nil
  strict := false
  build := fun (appGuid, route, ()) => ⟨appGuid, route⟩
  parts r := (r.appGuid, r.route, ())

/-- A binding, as the caller gave it. -/
structure BindingRecord where
  serviceId : String
  planId : String
  appGuid : String
  /-- What the binding is made for. -/
  bindResource : Option BindResource
  parameters : Option Json

namespace BindingRecord

/-- How a binding record is written. -/
def shape : Shape BindingRecord where
  title := "BindingRecord"
  types := [String, String, String, Option BindResource, Option Json]
  fields :=
    .cons (.required "service_id" .string) <|
    .cons (.defaulted "plan_id" .string "") <|
    .cons (.defaulted "app_guid" .string "") <|
    .cons (.optional "bind_resource" BindResource.shape.codec) <|
    .cons (.optional "parameters" .json) .nil
  strict := false
  build := fun (serviceId, planId, appGuid, bindResource, parameters, ()) =>
    ⟨serviceId, planId, appGuid, bindResource, parameters⟩
  parts r := (r.serviceId, r.planId, r.appGuid, r.bindResource, r.parameters, ())

/-- Whether optional parameters are the same. -/
def sameParameters : Option Json → Option Json → Bool
  | none, none => true
  | some a, some b => a.same b
  | _, _ => false

/-- Whether two records agree in everything. -/
def same (a b : BindingRecord) : Bool :=
  a.serviceId == b.serviceId && a.planId == b.planId && a.appGuid == b.appGuid &&
    a.bindResource == b.bindResource && sameParameters a.parameters b.parameters

end BindingRecord

/-- All records of a broker. -/
structure RecordSet where
  instances : Dict InstanceRecord
  bindings : Dict BindingRecord

namespace RecordSet

/-- No record. -/
def empty : RecordSet := ⟨.empty, .empty⟩

instance : Inhabited RecordSet := ⟨empty⟩

/-- How a record set is written. -/
def shape : Shape RecordSet where
  title := "RecordSet"
  types := [Dict InstanceRecord, Dict BindingRecord]
  fields :=
    .cons (.defaulted "instances" InstanceRecord.shape.codec.dict .empty) <|
    .cons (.defaulted "bindings" BindingRecord.shape.codec.dict .empty) .nil
  strict := false
  build := fun (instances, bindings, ()) => ⟨instances, bindings⟩
  parts r := (r.instances, r.bindings, ())

/-- Why the record set cannot be written, if a slot in it cannot. -/
def unwritable? (records : RecordSet) : Option String :=
  records.instances.entries.findSome? fun e => e.2.fingerprint.unwritable?

/-- The document of a record set, or why it has none. -/
def toDocument (records : RecordSet) : Except String Json :=
  match records.unwritable? with
  | some reason => .error reason
  | none => .ok (shape.codec.write records)

/-- Whether an id holds an instance that differs to the caller. -/
def instanceConflicts (records : RecordSet) (id : String) (record : InstanceRecord) : Bool :=
  (records.instances.get? id).any fun existing => !existing.sameIdentity record

/-- Whether an id holds a binding that differs. -/
def bindingConflicts (records : RecordSet) (id : String) (record : BindingRecord) : Bool :=
  (records.bindings.get? id).any fun existing => !existing.same record

/-- The records with an instance put under an id. -/
def putInstance (records : RecordSet) (id : String) (record : InstanceRecord) : RecordSet :=
  { records with instances := records.instances.insert id record }

/-- The records with a binding put under an id. -/
def putBinding (records : RecordSet) (id : String) (record : BindingRecord) : RecordSet :=
  { records with bindings := records.bindings.insert id record }

/-- The records without the instance of an id. -/
def removeInstance (records : RecordSet) (id : String) : RecordSet :=
  { records with instances := records.instances.erase id }

/-- The records without the binding of an id. -/
def removeBinding (records : RecordSet) (id : String) : RecordSet :=
  { records with bindings := records.bindings.erase id }

@[simp] theorem putInstance_bindings (records : RecordSet) (id : String) (record : InstanceRecord) :
    (records.putInstance id record).bindings = records.bindings := rfl

@[simp] theorem putBinding_instances (records : RecordSet) (id : String) (record : BindingRecord) :
    (records.putBinding id record).instances = records.instances := rfl

@[simp] theorem removeInstance_bindings (records : RecordSet) (id : String) :
    (records.removeInstance id).bindings = records.bindings := rfl

@[simp] theorem removeBinding_instances (records : RecordSet) (id : String) :
    (records.removeBinding id).instances = records.instances := rfl

/-- Record sets with the same look-ups are equal. -/
theorem ext_get? {a b : RecordSet}
    (hinstances : ∀ id, a.instances.get? id = b.instances.get? id)
    (hbindings : ∀ id, a.bindings.get? id = b.bindings.get? id) : a = b := by
  obtain ⟨instances, bindings⟩ := a
  obtain ⟨instances', bindings'⟩ := b
  have h : instances = instances' := Dict.ext_get? hinstances
  have h' : bindings = bindings' := Dict.ext_get? hbindings
  rw [h, h']

end RecordSet

end VolumeBroker
