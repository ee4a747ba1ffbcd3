import VolumeBroker.Proofs.Catalog.Acceptance
import VolumeBroker.Proofs.Dict
/-!
# What a registry publishes and resolves

A registry that has been built is the fold of `Registry.add` over its specification, which puts each
entry into the catalog and into the dictionary of ids at once. `Registry.Agrees` says what becomes of
the two: the catalog lists the services of the specification, each with the permission to mount volumes
(`foldl_add_services`), and an id of the catalog leads to the driver and the address of the one entry
that has it, because no id is repeated (`get?_foldl_add`). Publishing a service once more changes
nothing (`Service.withVolumeMount_withVolumeMount`), so the published services make the same registry
again.
-/

namespace VolumeBroker

namespace Service

/-- The permission is put behind the others if it is not among them; nothing else changes. -/
theorem withVolumeMount_eq (s : Service) : s.withVolumeMount = { s with
    requires := if "volume_mount" ∈ s.requires then s.requires else s.requires ++ ["volume_mount"] } := by
  unfold withVolumeMount requiresVolumeMount volumeMountPermission
  by_cases h : "volume_mount" ∈ s.requires <;> simp [h]

@[simp] theorem withVolumeMount_id (s : Service) : s.withVolumeMount.id = s.id := by
  rw [withVolumeMount_eq]

@[simp] theorem withVolumeMount_name (s : Service) : s.withVolumeMount.name = s.name := by
  rw [withVolumeMount_eq]

@[simp] theorem withVolumeMount_plans (s : Service) : s.withVolumeMount.plans = s.plans := by
  rw [withVolumeMount_eq]

theorem requiresVolumeMount_withVolumeMount (s : Service) :
    s.withVolumeMount.requiresVolumeMount = true := by
  unfold withVolumeMount
  split
  · assumption
  · simp [requiresVolumeMount]

theorem withVolumeMount_withVolumeMount (s : Service) :
    s.withVolumeMount.withVolumeMount = s.withVolumeMount :=
  if_pos s.requiresVolumeMount_withVolumeMount

end Service

namespace ServiceSpec

/-- The entry of a specification with its service as it is published. -/
def published (spec : ServiceSpec) : ServiceSpec := { spec with service := spec.service.withVolumeMount }

theorem Complete.published {spec : ServiceSpec} (h : spec.Complete) : spec.published.Complete where
  id := (congrArg isBlankText spec.service.withVolumeMount_id).trans h.id
  name := (congrArg isBlankText spec.service.withVolumeMount_name).trans h.name
  driverName := h.driverName
  connectionAddress := h.connectionAddress
  plans := fun hplans => h.plans (spec.service.withVolumeMount_plans.symm.trans hplans)
  planTexts := fun plan hplan => h.planTexts plan (spec.service.withVolumeMount_plans ▸ hplan)

end ServiceSpec

namespace Registry

variable {connect : Nat → Connector} {specs : List ServiceSpec} {r : Registry}

/-! ### The parts of a registry that has been built -/

theorem foldl_add_services (r : Registry) (specs : List ServiceSpec) :
    (specs.foldl add r).services
      = r.services ++ specs.map fun spec => spec.service.withVolumeMount := by
  induction specs generalizing r with
  | nil => simp
  | cons spec specs ih => simp [ih, add]

/-- An id has the driver and the address of the last entry with it. -/
theorem get?_foldl_add (specs : List ServiceSpec) (id : String) :
    (specs.foldl add empty).entries.get? id
      = (specs.filter fun spec => spec.service.id = id).getLast?.map fun spec =>
          ⟨spec.driverName, spec.connectionAddress⟩ := by
  -- from the back, because the entry that was added last is the one that stands
  induction specs using List.reverseRecOn with
  | nil => rfl
  | append_singleton specs spec ih =>
    rw [List.foldl_append, List.foldl_cons, List.foldl_nil, add, Dict.get?_insert, ih,
      List.filter_append]
    -- the last entry hides all earlier ones of its id
    by_cases heq : id = spec.service.id
    · simp [heq]
    · have hother : [spec].filter (fun spec => spec.service.id = id) = [] := by
        simpa using fun h => heq h.symm
      rw [if_neg heq, hother, List.append_nil]

/-- Where no id is repeated, only one entry has it. -/
theorem filter_id_of_mem (hnodup : (specs.map fun spec => spec.service.id).Nodup) {spec : ServiceSpec}
    (hspec : spec ∈ specs) :
    (specs.filter fun other => other.service.id = spec.service.id) = [spec] := by
  -- as a list of entries by id, of which a dictionary law speaks
  have hkeys : ((specs.map fun spec => (spec.service.id, spec)).map Prod.fst).Nodup := by
    rwa [List.map_map]
  have hfilter := Dict.filter_of_mem hkeys (List.mem_map_of_mem hspec)
    (p := fun key => decide (key = spec.service.id)) fun _ _ => decide_eq_true_iff
  rw [List.filter_map] at hfilter
  obtain ⟨other, hother, heq⟩ := List.map_eq_singleton_iff.1 hfilter
  exact hother.trans (congrArg (fun e => [e]) (Prod.ext_iff.1 heq).2)

/-- A published entry is added like the entry itself. -/
theorem add_published (r : Registry) (spec : ServiceSpec) : r.add spec.published = r.add spec := by
  unfold add ServiceSpec.published
  simp only [Service.withVolumeMount_id, Service.withVolumeMount_withVolumeMount]

/-- Published entries pass like the entries themselves. -/
theorem AllPass.published (h : AllPass connect specs) {connect' : Nat → Connector}
    (hconnect : ∀ i spec, specs[i]? = some spec → connect' i spec.connectionAddress = none) :
    AllPass connect' (specs.map ServiceSpec.published) := by
  obtain ⟨hcomplete, hdistinct, -⟩ := allPass_iff.1 h
  -- the permission changes neither the ids nor the addresses that the plugins are connected at
  refine allPass_iff.2 ⟨List.forall_mem_map.2 fun spec hspec => (hcomplete spec hspec).published, ?_,
    fun i spec hspec => ?_⟩
  · rw [List.map_map]
    have hids : (fun spec => spec.service.id) ∘ ServiceSpec.published
        = fun spec => spec.service.id := funext fun spec => spec.service.withVolumeMount_id
    rwa [hids]
  · rw [List.getElem?_map] at hspec
    obtain ⟨original, horiginal, rfl⟩ := Option.map_eq_some_iff.1 hspec
    exact hconnect i original horiginal

/-- An id of the specification has the entry of the one that stands under it. -/
theorem entry_of_mem (hnodup : (specs.map fun spec => spec.service.id).Nodup) {id : String}
    (hid : id ∈ specs.map fun spec => spec.service.id) :
    ∃ spec, (specs.filter fun other => other.service.id = id) = [spec] ∧
      (specs.foldl add empty).entry id = .ok ⟨spec.driverName, spec.connectionAddress⟩ := by
  obtain ⟨spec, hspec, rfl⟩ := List.mem_map.1 hid
  have hone := filter_id_of_mem hnodup hspec
  refine ⟨spec, hone, ?_⟩
  simp only [entry, get?_foldl_add, hone, List.getLast?_singleton, Option.map_some]

/-- Any other id has none. -/
theorem entry_of_not_mem {id : String} (hid : id ∉ specs.map fun spec => spec.service.id) :
    (specs.foldl add empty).entry id = .error (.unknownService id) := by
  have hnone : (specs.filter fun spec => spec.service.id = id) = [] := by
    rw [List.filter_eq_nil_iff]
    exact fun spec hspec heq => hid (List.mem_map.2 ⟨spec, hspec, by simpa using heq⟩)
  simp only [entry, get?_foldl_add, hnone, List.getLast?_nil, Option.map_none]

/-- Whatever is asked of an entry, exactly the ids of the specification have it. -/
theorem resolves_iff (hnodup : (specs.map fun spec => spec.service.id).Nodup) {α : Type}
    (field : RegistryEntry → α) (id : String) :
    (∃ a, ((specs.foldl add empty).entry id).map field = .ok a)
      ↔ id ∈ specs.map fun spec => spec.service.id := by
  constructor
  · rintro ⟨a, ha⟩
    by_contra hid
    rw [entry_of_not_mem hid] at ha
    cases ha
  · intro hid
    obtain ⟨spec, -, hentry⟩ := entry_of_mem hnodup hid
    exact ⟨field ⟨spec.driverName, spec.connectionAddress⟩, by rw [hentry]; rfl⟩

/-! ### Registry, catalog and specification -/

/-- The entries of a specification with other services in them. -/
def withServices (specs : List ServiceSpec) (services : List Service) : List ServiceSpec :=
  specs.zipWith (fun spec service => ⟨spec.driverName, spec.connectionAddress, service⟩) services

theorem withServices_withVolumeMount (specs : List ServiceSpec) :
    withServices specs (specs.map fun spec => spec.service.withVolumeMount)
      = specs.map ServiceSpec.published := by
  rw [withServices, List.zipWith_map_right, List.zipWith_self]
  rfl

/-- The published services make the same registry, wherever the plugins can be connected. -/
theorem buildEach_published (hspecs : specs ≠ []) (hall : AllPass connect specs)
    {connect' : Nat → Connector}
    (hconnect : ∀ i spec, specs[i]? = some spec → connect' i spec.connectionAddress = none) :
    (buildEach (specs.map ServiceSpec.published) connect').result
      = .ok (specs.foldl add empty) := by
  have hnonempty : specs.map ServiceSpec.published ≠ [] := by simpa using hspecs
  rw [buildEach_of_allPass hnonempty (hall.published hconnect), List.foldl_map]
  simp only [add_published]

/-- How a registry belongs to its specification. -/
structure Agrees (r : Registry) (specs : List ServiceSpec) : Prop where
  /-- Services are published in their order, each as it is specified but for the permission. -/
  catalog : r.catalog.services = specs.map fun spec => { spec.service with
    requires := if "volume_mount" ∈ spec.service.requires then spec.service.requires
      else spec.service.requires ++ ["volume_mount"] }
  driverName_iff : ∀ id, (∃ driver, r.driverName id = .ok driver) ↔ id ∈ r.catalog.services.map (·.id)
  address_iff : ∀ id, (∃ address, r.address id = .ok address) ↔ id ∈ r.catalog.services.map (·.id)
  /-- An id of the catalog belongs to one entry, and leads to its driver and its plugin. -/
  known : ∀ id ∈ r.catalog.services.map (·.id), ∃ spec,
    (specs.filter fun other => other.service.id = id) = [spec] ∧
      r.driverName id = .ok spec.driverName ∧ r.address id = .ok spec.connectionAddress
  unknown : ∀ id ∉ r.catalog.services.map (·.id),
    r.driverName id = .error (.unknownService id) ∧ r.address id = .error (.unknownService id)
  /-- The published services make the same registry, wherever the plugins can be connected. -/
  rebuilt : ∀ connect : Nat → Connector,
    (∀ i spec, specs[i]? = some spec → connect i spec.connectionAddress = none) →
    (buildEach (withServices specs r.catalog.services) connect).result = .ok r

/-- **Registry and catalog agree.** The catalog of a registry that has been built lists what has been
specified, the registry resolves the ids of the catalog and no others, and the registry is built again
from the published services, also by the connectors that it has been built with. -/
theorem buildEach_agrees (h : (buildEach specs connect).result = .ok r) :
    r.Agrees specs ∧ (buildEach (withServices specs r.catalog.services) connect).result = .ok r := by
  obtain ⟨hspecs, hall, rfl⟩ := of_buildEach_ok h
  obtain ⟨-, hdistinct, hconnected⟩ := allPass_iff.1 hall
  have hservices : (specs.foldl add empty).catalog.services
      = specs.map fun spec => spec.service.withVolumeMount := foldl_add_services empty specs
  -- so the catalog has the ids of the specification, and look-ups are a matter of the specification
  have hids : (specs.foldl add empty).catalog.services.map (·.id)
      = specs.map fun spec => spec.service.id := by
    rw [hservices, List.map_map]
    exact List.map_congr_left fun spec _ => spec.service.withVolumeMount_id
  -- published entries pass and are added like the ones that they come from
  have hrebuilt : ∀ connect' : Nat → Connector,
      (∀ i spec, specs[i]? = some spec → connect' i spec.connectionAddress = none) →
      (buildEach (withServices specs (specs.foldl add empty).catalog.services) connect').result
        = .ok (specs.foldl add empty) := by
    intro connect' hconnect
    rw [hservices, withServices_withVolumeMount]
    exact buildEach_published hspecs hall hconnect
  refine ⟨⟨?catalog, ?driverName, ?address, ?known, ?unknown, hrebuilt⟩, hrebuilt connect hconnected⟩
  case catalog =>
    rw [hservices]
    exact List.map_congr_left fun spec _ => spec.service.withVolumeMount_eq
  case driverName => exact fun id => hids ▸ resolves_iff hdistinct (·.driverName) id
  case address => exact fun id => hids ▸ resolves_iff hdistinct (·.address) id
  case known =>
    intro id hid
    obtain ⟨spec, hone, hentry⟩ := entry_of_mem hdistinct (hids ▸ hid)
    exact ⟨spec, hone, by rw [driverName, hentry]; rfl, by rw [address, hentry]; rfl⟩
  case unknown =>
    intro id hid
    have hentry := entry_of_not_mem (hids ▸ hid)
    exact ⟨by rw [driverName, hentry]; rfl, by rw [address, hentry]; rfl⟩

end Registry

/-! ### A registry of two services -/

namespace TwoServices

/-- A service that asks for the permission between two others of one name, and one that asks for
none. -/
def specs : List ServiceSpec :=
  [⟨"nfs-driver", "nfs:1", ⟨"nfs", "nfs", "", true, false, [],
      ["syslog_drain", "volume_mount", "syslog_drain"], none, [⟨"small", "small", "", none, none⟩]⟩⟩,
    ⟨"smb-driver", "smb:1", ⟨"smb", "smb", "", true, false, [], [], none,
      [⟨"small", "small", "", none, none⟩]⟩⟩]

/-- The registry of the two. -/
def registry : Registry := specs.foldl Registry.add .empty

/-- Only the second service has gained the permission. -/
theorem registry_agrees : (Registry.buildEach specs fun _ => .lazy).result = .ok registry ∧
    registry.Agrees specs ∧
    registry.catalog.services.map (·.requires)
      = [["syslog_drain", "volume_mount", "syslog_drain"], ["volume_mount"]] := by
  have hbuilt : (Registry.buildEach specs fun _ => .lazy).result = .ok registry := rfl
  exact ⟨hbuilt, (Registry.buildEach_agrees hbuilt).1, rfl⟩

end TwoServices

end VolumeBroker
