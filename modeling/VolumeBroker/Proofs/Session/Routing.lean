import VolumeBroker.Proofs.Session.Exchange
import VolumeBroker.Proofs.Session.Saving
/-!
# Which service serves an instance

The record of an instance names the service that provisioned it, and every later call about the
instance names a service of its own. It is the latter that counts: the gate, the plugin and the driver
are all those of the service in the call, and the former is only looked at when an instance is
provisioned again. `Session.run_routed` states this for the two calls that use it. The deletion of the
volume goes to the plugin of the named service, and a bind hands out the driver of the named service;
both are the ones of the instance's own service as far as the call names that.

A call that names another service is served all the same. `OtherService` is a run in which a service
hands out its driver for a volume that it has never made, and is asked to delete it.
-/

namespace VolumeBroker

/-- A binding mounts one volume, with a driver. -/
def Binding.MountsWith (binding : Binding) (driver : String) : Prop :=
  ∃ mount, binding.volumeMounts = [mount] ∧ mount.driver = driver

namespace Turn

/-- If a turn asks a plugin to delete the volume of an instance, then it is the plugin of the service in
the record of the instance. -/
def DeletedByOwn (r : Registry) (turn : Turn) : Prop :=
  ∀ address id details volumeId record,
    turn.progress = .waiting address (.deletion id details volumeId) →
      turn.records.instances.get? id = some record → r.address record.serviceId = .ok address

/-- If a turn mounts the volume of an instance, then with the driver of the service in the record of the
instance. -/
def MountedByOwn (r : Registry) (turn : Turn) : Prop :=
  ∀ instanceId bindingId details binding driver record,
    turn.operation = .bind instanceId bindingId details →
      turn.progress = .finished (.ok (.bound binding)) → binding.MountsWith driver →
        turn.records.instances.get? instanceId = some record → r.driverName record.serviceId = .ok driver

/-- A turn asks a plugin to delete a volume. -/
structure Deletes (r : Registry) (turn : Turn) (address id : String) (details : DeprovisionDetails)
    (volumeId : String) : Prop where
  operation : turn.operation = .deprovision id details
  /-- The plugin is that of the service that the call names. -/
  named : r.address details.serviceId = .ok address
  /-- The volume is that of the instance, and if the call names the service of the instance then the
  plugin is that of this service. -/
  recorded : ∃ record, turn.records.instances.get? id = some record ∧ record.Carries volumeId ∧
    (record.serviceId = details.serviceId → r.address record.serviceId = .ok address)

/-- A turn hands out the mount of a volume. -/
structure Mounts (r : Registry) (turn : Turn) (instanceId : String) (details : BindDetails)
    (binding : Binding) (driver : String) : Prop where
  mounts : binding.MountsWith driver
  /-- The driver is that of the service that the call names. -/
  named : r.driverName details.serviceId = .ok driver
  /-- The instance is there, and if the call names the service of the instance then the driver is that
  of this service. -/
  recorded : ∃ record, turn.records.instances.get? instanceId = some record ∧
    (record.serviceId = details.serviceId → r.driverName record.serviceId = .ok driver)

end Turn

namespace Session

/-- **Calls are served by the service that they name.** What every session satisfies. -/
structure Routed (r : Registry) (s : Session) : Prop where
  /-- Where a deletion goes to. -/
  deletions : ∀ turn ∈ s.history, ∀ address id details volumeId,
    turn.progress = .waiting address (.deletion id details volumeId) →
      turn.Deletes r address id details volumeId
  /-- A deprovision that ends well has had the volume deleted there. -/
  deprovisions : Turn.Each (fun before turn => ∀ id details reply,
    turn.operation = .deprovision id details → turn.progress = .finished (.ok reply) →
      ∃ asking ∈ before, ∃ address volumeId, asking.call = turn.call ∧
        asking.progress = .waiting address (.deletion id details volumeId) ∧
        asking.Deletes r address id details volumeId ∧ turn.HasDeleted volumeId) s.history
  /-- What a bind that ends well hands out. -/
  binds : ∀ turn ∈ s.history, ∀ instanceId bindingId details reply,
    turn.operation = .bind instanceId bindingId details → turn.progress = .finished (.ok reply) →
      ∃ binding driver, reply = .bound binding ∧ turn.Mounts r instanceId details binding driver

variable {r : Registry} {initial : RecordSet} {s : Session} {before after : List Turn} {turn : Turn}

theorem Exchanging.deletes (h : s.Exchanging r initial) (hsplit : s.history = before ++ turn :: after)
    {address id volumeId : String} {details : DeprovisionDetails}
    (hw : turn.progress = .waiting address (.deletion id details volumeId)) :
    turn.Deletes r address id details volumeId := by
  have hexchanges : turn.Exchanges r before := h.turns before turn after hsplit
  obtain ⟨hserves, haddress⟩ := hexchanges.asks address _ hw
  -- only a deprovision asks for a deletion
  have hoperation : turn.operation = .deprovision id details := by
    generalize turn.operation = operation at hserves
    cases hserves with
    | deletion => rfl
  rw [hoperation] at haddress
  obtain ⟨record, hrecord, hcarries⟩ := hexchanges.deletes address id details volumeId hw
  exact ⟨hoperation, haddress, record, hrecord, hcarries, fun hsame => hsame ▸ haddress⟩

/-- A bind that ends well has passed all its checks. -/
theorem Serialized.mounts (h : s.Serialized r initial) (hsplit : s.history = before ++ turn :: after)
    {instanceId bindingId : String} {details : BindDetails} {reply : Reply}
    (hoperation : turn.operation = .bind instanceId bindingId details)
    (hok : turn.progress = .finished (.ok reply)) :
    ∃ binding driver, reply = .bound binding ∧ turn.Mounts r instanceId details binding driver := by
  obtain ⟨c, -, hof, hrecords, hanswer, -⟩ := h.changed hsplit hok
  rw [hoperation] at hof
  obtain rfl := hof.of_bind
  -- the answer is that of all checks on the records
  simp only [Change.apply] at hanswer hrecords
  split at hanswer
  · next binding hbinding =>
    rw [hbinding] at hrecords
    obtain ⟨record, fingerprint, driver, containerDir, mode, owner, hrecord, -, -, hdriver, rfl⟩ :=
      Change.exists_of_bindingFor hbinding
    refine ⟨_, driver, (Except.ok.inj hanswer).symm, ⟨_, rfl, rfl⟩, hdriver, record, ?_, ?_⟩
    · rw [hrecords]
      exact hrecord
    · exact fun hsame => hsame ▸ hdriver
  · cases hanswer

theorem Exchanging.routed (h : s.Exchanging r initial) : s.Routed r where
  deletions := by
    intro turn hturn address id details volumeId hw
    obtain ⟨before, after, hsplit⟩ := List.append_of_mem hturn
    exact h.deletes hsplit hw
  deprovisions := by
    intro before turn after hsplit id details reply hoperation hok
    obtain ⟨c, hchange, hof, -⟩ := h.regular.serialized.changed hsplit hok
    rw [hoperation] at hof
    -- a deprovision that ends well has removed the record
    obtain rfl := hof.of_deprovision
    obtain ⟨earlier, asking, middle, address, details', volumeId, -, rfl, hsame, hcall, hasked, -,
      hdeleted, -⟩ := h.looked_up hsplit hchange
    obtain rfl : details = details' := (Operation.deprovision.inj (hoperation.symm.trans hsame)).2
    have hasking : s.history = earlier ++ asking :: (middle ++ turn :: after) := by
      rw [hsplit, List.append_assoc, List.cons_append]
    exact ⟨asking, List.mem_append_right _ List.mem_cons_self, address, volumeId, hcall, hasked,
      h.deletes hasking hasked, hdeleted⟩
  binds := by
    intro turn hturn instanceId bindingId details reply hoperation hok
    obtain ⟨before, after, hsplit⟩ := List.append_of_mem hturn
    exact h.regular.serialized.mounts hsplit hoperation hok

/-- **Routing.** Whatever calls come in, whatever the plugin answers them and in whatever order their
steps are taken: a volume is deleted by the plugin, and mounted with the driver, of the service that
the call names, which is the one that has provisioned the instance if the call names that. -/
theorem run_routed (registry : Registry) (gate : ProbeGate) (medium : Medium) (records : RecordSet)
    (files : FileSystem) (events : List Event) :
    ((opened ⟨registry, gate, ⟨medium, records, .none⟩⟩ files).run events).Routed registry :=
  (exchanging_run registry gate medium records files events).routed

end Session

/-! ### Calls that name another service -/

namespace OtherService

open Installation

/-- Two services, each with a driver and a plugin of its own. -/
def specs : List ServiceSpec :=
  [⟨"driver-a", "plugin-a", ⟨"a", "service-a", "", true, false, [], [], none,
      [⟨"plan", "plan", "", none, none⟩]⟩⟩,
    ⟨"driver-b", "plugin-b", ⟨"b", "service-b", "", true, false, [], [], none,
      [⟨"plan", "plan", "", none, none⟩]⟩⟩]

/-- The registry of the two. -/
def services : Registry := specs.foldl Registry.add .empty

example : (Registry.build specs .lazy).result = .ok services := rfl

/-- The details of a provision by the first service. -/
def details : ProvisionDetails :=
  ⟨"a", "plan", "org", "space", some (.obj [("name", .str "n"),
    ("volume_capabilities", .arr [.obj [("mount", .obj [])]])])⟩

/-- The first service provisions an instance; then it is bound and taken away by calls that name the
second one. -/
def events : List Event :=
  [.arrival (.provision "i" details), .answer 0 plugin, .answer 0 plugin,
    .arrival (.bind "i" "x" ⟨"b", "", "app", none, none⟩), .answer 1 plugin,
    .arrival (.deprovision "i" ⟨"b", "plan"⟩)]

/-- The session behind them. -/
def session : Session := (Session.opened ⟨services, .empty, ⟨.memory, .empty, .none⟩⟩ .empty).run events

/-- The record of the instance. -/
def record : InstanceRecord := details.toRecord ⟨"n", ⟨"n", 0, .empty⟩⟩

/-- **An instance that is not served by its own service.** It is mounted with the driver of the other
one, whose plugin is then asked to delete the volume. -/
theorem not_servedByOwn :
    (¬ ∀ turn ∈ session.history, turn.DeletedByOwn services) ∧
      ¬ ∀ turn ∈ session.history, turn.MountedByOwn services := by
  refine ⟨fun h => ?_, fun h => ?_⟩
  · -- the deprovision names the service of the other plugin, and so does the bind
    have hdeletion := h _ (List.mem_of_getElem? (i := 5) rfl)
    have haddress : services.address "a" = .ok "plugin-b" :=
      hdeletion "plugin-b" "i" ⟨"b", "plan"⟩ "n" record rfl rfl
    exact absurd haddress (by decide)
  · have hmount := h _ (List.mem_of_getElem? (i := 4) rfl)
    have hdriver : services.driverName "a" = .ok "driver-b" :=
      hmount "i" "x" ⟨"b", "", "app", none, none⟩ _ "driver-b" record rfl rfl ⟨_, rfl, rfl⟩ rfl
    exact absurd hdriver (by decide)

end OtherService

end VolumeBroker
