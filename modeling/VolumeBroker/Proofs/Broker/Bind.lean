import VolumeBroker.Proofs.Dict
import VolumeBroker.Proofs.Session.Stability
/-!
# What a bind requires and gives

A bind has eight requirements of the records and of its details. Each is stated by itself, as what has to
hold (`BindAttempt.Meets`) and as the error of its failure (`BindAttempt.Fails`); the requirements are
ordered by `Requirement.rank`, and the error of a bind is that of the first one that is not met
(`BindAttempt.FailsFirst`). If all are met the bind gives one mount, which `BindAttempt.Describes` states
by what a caller reads in it.

`BindAttempt.bindingFor_cases` says that the check of the broker is exactly this, given that the service
has a driver. A bind that comes again behind itself (`BindAttempt.Repeats`) gives the same, even if only
the values of its parameters are the same (`Repeats.bindingFor_eq`).
-/

namespace VolumeBroker

/-- What a bind requires. -/
inductive Requirement where
  /-- The instance is there. -/
  | present
  /-- The caller names an application. -/
  | application
  /-- The fingerprint of the instance can be read. -/
  | fingerprint
  /-- The parameters are none or an object. -/
  | parameters
  | readOnly
  | mount
  /-- User and group, if both are given. -/
  | owner
  /-- No other record is stored under the id of the binding. -/
  | vacancy
deriving DecidableEq, Repr

/-- The place of a requirement in their order. -/
def Requirement.rank : Requirement → Nat
  | present => 0
  | application => 1
  | fingerprint => 2
  | parameters => 3
  | readOnly => 4
  | mount => 5
  | owner => 6
  | vacancy => 7

theorem Requirement.eq_of_rank_eq {a b : Requirement} (h : a.rank = b.rank) : a = b := by
  cases a <;> cases b <;> first | rfl | cases h

/-- A bind of an instance, and the records that it finds. -/
structure BindAttempt where
  records : RecordSet
  instanceId : String
  bindingId : String
  details : BindDetails

namespace BindAttempt

variable (a : BindAttempt)

/-- A parameter, if it is given. -/
def parameter? (name : String) : Option Json := a.details.parameters.bind (·.get? name)

/-- The requirements, as what has to hold. -/
def Meets : Requirement → Prop
  | .present => ∃ record, a.records.instances.get? a.instanceId = some record
  | .application => a.details.appGuid ≠ "" ∨ ∃ resource guid,
      a.details.bindResource = some resource ∧ resource.appGuid = some guid ∧ guid ≠ ""
  | .fingerprint => ∀ record, a.records.instances.get? a.instanceId = some record →
      ∃ fingerprint, Fingerprint.ofSlot record.fingerprint = .ok fingerprint
  | .parameters => a.details.parameters = none ∨ a.details.parameters = some .null ∨
      ∃ members, a.details.parameters = some (.obj members)
  | .readOnly => ∀ value, a.parameter? "readonly" = some value → ∃ flag, value = .bool flag
  | .mount => ∀ value, a.parameter? "mount" = some value → ∃ path, value = .str path
  | .owner => ∀ uid gid, a.parameter? "uid" = some uid → a.parameter? "gid" = some gid →
      (∃ text, uid = .str text) ∧ ∃ text, gid = .str text
  | .vacancy => ∀ existing, a.records.bindings.get? a.bindingId = some existing →
      existing.same a.details.toRecord = true

/-- The requirements, as the errors of their failures. -/
inductive Fails : Requirement → BrokerError → Prop where
  | absent (h : a.records.instances.get? a.instanceId = none) :
      Fails .present (.instanceDoesNotExist a.instanceId)
  | anonymous (direct : a.details.appGuid = "")
      (resource : ∀ resource guid, a.details.bindResource = some resource →
        resource.appGuid = some guid → guid = "") :
      Fails .application .appGuidNotProvided
  | unreadable {record : InstanceRecord} {m : Mismatch}
      (stored : a.records.instances.get? a.instanceId = some record)
      (read : Fingerprint.ofSlot record.fingerprint = .error m) :
      Fails .fingerprint (.fingerprint a.instanceId m)
  | noObject {value : Json} (given : a.details.parameters = some value) (filled : value ≠ .null)
      (kind : ∀ members, value ≠ .obj members) :
      Fails .parameters (.invalidParameters ("parameters must be a JSON object, got " ++ value.compact))
  | readOnly {value : Json} (given : a.parameter? "readonly" = some value)
      (kind : ∀ flag, value ≠ .bool flag) :
      Fails .readOnly
        (.invalidParameters ("\"readonly\" must be a boolean, got " ++ value.compact))
  | mount {value : Json} (given : a.parameter? "mount" = some value)
      (kind : ∀ path, value ≠ .str path) :
      Fails .mount (.invalidParameters ("\"mount\" must be a string, got " ++ value.compact))
  | uid {uid gid : Json} (given : a.parameter? "uid" = some uid) (both : a.parameter? "gid" = some gid)
      (kind : ∀ text, uid ≠ .str text) :
      Fails .owner (.invalidParameters ("\"uid\" must be a string, got " ++ uid.compact))
  | gid {text : String} {gid : Json} (uid : a.parameter? "uid" = some (.str text))
      (given : a.parameter? "gid" = some gid) (kind : ∀ text, gid ≠ .str text) :
      Fails .owner (.invalidParameters ("\"gid\" must be a string, got " ++ gid.compact))
  | taken {existing : BindingRecord} (stored : a.records.bindings.get? a.bindingId = some existing)
      (differs : existing.same a.details.toRecord = false) :
      Fails .vacancy (.bindingAlreadyExists a.bindingId)

/-- The requirements before a place are met. -/
def MeetsBefore (n : Nat) : Prop := ∀ earlier : Requirement, earlier.rank < n → a.Meets earlier

/-- The first requirement that is not met, with the error of its failure. -/
def FailsFirst (need : Requirement) (e : BrokerError) : Prop :=
  a.Fails need e ∧ a.MeetsBefore need.rank

variable {a} {need : Requirement} {e : BrokerError}

/-- A requirement is not met and failed at once. -/
theorem Fails.not_meets (h : a.Fails need e) : ¬ a.Meets need := by
  intro hmeets
  cases h with
  | absent h =>
    obtain ⟨record, hrecord⟩ := hmeets
    cases h.symm.trans hrecord
  | anonymous direct resource =>
    rcases hmeets with hdirect | ⟨res, guid, hres, hguid, hne⟩
    · exact hdirect direct
    · exact hne (resource res guid hres hguid)
  | unreadable stored read =>
    obtain ⟨fingerprint, hread⟩ := hmeets _ stored
    cases read.symm.trans hread
  | noObject given filled kind =>
    rcases hmeets with hnone | hnull | ⟨members, hobject⟩
    · cases given.symm.trans hnone
    · exact filled (Option.some.inj (given.symm.trans hnull))
    · exact kind members (Option.some.inj (given.symm.trans hobject))
  | readOnly given kind =>
    obtain ⟨flag, hflag⟩ := hmeets _ given
    exact kind flag hflag
  | mount given kind =>
    obtain ⟨path, hpath⟩ := hmeets _ given
    exact kind path hpath
  | uid given both kind =>
    obtain ⟨⟨text, htext⟩, -⟩ := hmeets _ _ given both
    exact kind text htext
  | gid uid given kind =>
    obtain ⟨-, text, htext⟩ := hmeets _ _ uid given
    exact kind text htext
  | taken stored differs => cases differs.symm.trans (hmeets _ stored)

/-- A requirement fails with one error. -/
theorem Fails.unique {e' : BrokerError} (h : a.Fails need e) (h' : a.Fails need e') : e = e' := by
  cases h with
  | absent => cases h'; rfl
  | anonymous => cases h'; rfl
  | unreadable stored read =>
    cases h' with
    | unreadable stored' read' =>
      cases stored.symm.trans stored'
      cases read.symm.trans read'
      rfl
  | noObject given =>
    cases h' with
    | noObject given' =>
      cases given.symm.trans given'
      rfl
  | readOnly given =>
    cases h' with
    | readOnly given' =>
      cases given.symm.trans given'
      rfl
  | mount given =>
    cases h' with
    | mount given' =>
      cases given.symm.trans given'
      rfl
  | uid given both kind =>
    cases h' with
    | uid given' =>
      cases given.symm.trans given'
      rfl
    -- the user is no text, so it is not the group that fails
    | gid uid' => exact absurd (Option.some.inj (given.symm.trans uid')) (kind _)
  | gid uid given =>
    cases h' with
    | uid given' both' kind' => exact absurd (Option.some.inj (given'.symm.trans uid)) (kind' _)
    | gid uid' given' =>
      cases given.symm.trans given'
      rfl
  | taken => cases h'; rfl

/-- There is one requirement at most that is the first to fail, and it fails with one error. -/
theorem FailsFirst.unique {need' : Requirement} {e' : BrokerError} (h : a.FailsFirst need e)
    (h' : a.FailsFirst need' e') : e = e' := by
  have hrank : need.rank = need'.rank := by
    rcases Nat.lt_trichotomy need.rank need'.rank with hlt | heq | hgt
    · exact absurd (h'.2 need hlt) h.1.not_meets
    · exact heq
    · exact absurd (h.2 need' hgt) h'.1.not_meets
  obtain rfl := Requirement.eq_of_rank_eq hrank
  exact h.1.unique h'.1

/-! ### The checks -/

theorem application_eq_empty_iff : a.details.application = "" ↔ ¬ a.Meets .application := by
  unfold BindDetails.application
  by_cases hdirect : a.details.appGuid = ""
  · rw [if_pos (by rw [hdirect]; rfl)]
    rcases hresource : a.details.bindResource with _ | resource
    · simp [Meets, hdirect, hresource]
    · rcases hguid : resource.appGuid with _ | guid <;> simp [Meets, hdirect, hresource, hguid]
  · rw [if_neg (by simpa [String.isEmpty_iff] using hdirect)]
    simp [Meets, hdirect]

theorem fails_application (h : a.details.application = "") :
    a.Fails .application .appGuidNotProvided := by
  have hunmet := application_eq_empty_iff.1 h
  refine .anonymous (by_contra fun hdirect => hunmet (.inl hdirect)) ?_
  intro resource guid hresource hguid
  exact by_contra fun hne => hunmet (.inr ⟨resource, guid, hresource, hguid, hne⟩)

/-- Parameters are looked up where the caller has put them. -/
theorem ofBind_cases (a : BindAttempt) :
    (a.Meets .parameters ∧ ∃ parameters, Parameters.ofBind a.details.parameters = .ok parameters ∧
      ∀ name, parameters.get? name = a.parameter? name) ∨
    ∃ e, a.Fails .parameters e ∧ Parameters.ofBind a.details.parameters = .error e := by
  unfold parameter? Parameters.ofBind
  split
  · next hgiven =>
    rw [hgiven]
    exact .inl ⟨.inl hgiven, _, rfl, fun name => rfl⟩
  · next hgiven =>
    rw [hgiven]
    exact .inl ⟨.inr (.inl hgiven), _, rfl, fun name => rfl⟩
  · next members hgiven =>
    rw [hgiven]
    exact .inl ⟨.inr (.inr ⟨members, hgiven⟩), _, rfl, Dict.get?_ofList members⟩
  · next value hnull hobject hgiven => exact .inr ⟨_, .noObject hgiven hnull hobject, rfl⟩

/-- How the volume is mounted: for reading only if that is asked for. -/
def mode (a : BindAttempt) : MountMode :=
  match a.parameter? "readonly" with
  | some (.bool true) => .readOnly
  | _ => .readWrite

/-- Where the volume is mounted: where the caller says, unless that is empty. -/
def containerDir (a : BindAttempt) : String :=
  match a.parameter? "mount" with
  | some (.str path) => if path = "" then ContainerPath.ofInstance a.instanceId else path
  | _ => ContainerPath.ofInstance a.instanceId

/-- The user and the group, if both are given. -/
def owner? (a : BindAttempt) : Option (Dict String) :=
  match a.parameter? "uid", a.parameter? "gid" with
  | some (.str uid), some (.str gid) => some (Dict.ofList [("uid", uid), ("gid", gid)])
  | _, _ => none

/-- A user or group is a string, or it is refused. -/
theorem ownerText_cases (name : String) (value : Json) :
    (∃ text, value = .str text ∧ Parameters.ownerText name value = .ok text) ∨
      (Parameters.ownerText name value = .error (Parameters.wrongKind name "a string" value) ∧
        ∀ text, value ≠ .str text) := by
  unfold Parameters.ownerText
  split
  · next text => exact .inl ⟨text, rfl, rfl⟩
  · next hkind => exact .inr ⟨rfl, hkind⟩

section Parameters

variable {parameters : Dict Json} (h : ∀ name, parameters.get? name = a.parameter? name)

include h

theorem mountMode_cases :
    (a.Meets .readOnly ∧ Parameters.mountMode parameters = .ok a.mode) ∨
      ∃ e, a.Fails .readOnly e ∧ Parameters.mountMode parameters = .error e := by
  unfold Parameters.mountMode mode
  rw [h]
  split
  · next hgiven =>
    refine .inl ⟨fun value hvalue => absurd (hgiven.symm.trans hvalue) nofun, ?_⟩
    rw [hgiven]
  · next flag hgiven =>
    refine .inl ⟨fun value hvalue => ⟨flag, Option.some.inj (hvalue.symm.trans hgiven)⟩, ?_⟩
    rw [hgiven]
    cases flag <;> rfl
  · next value hkind hgiven => exact .inr ⟨_, .readOnly hgiven hkind, rfl⟩

theorem containerPath_cases :
    (a.Meets .mount ∧ Parameters.containerPath parameters a.instanceId = .ok a.containerDir) ∨
      ∃ e, a.Fails .mount e ∧ Parameters.containerPath parameters a.instanceId = .error e := by
  unfold Parameters.containerPath containerDir
  rw [h]
  -- no mount, one that is a text, or one that is no text
  split
  · next hgiven =>
    refine .inl ⟨fun value hvalue => absurd (hgiven.symm.trans hvalue) nofun, ?_⟩
    rw [hgiven]
  · next path hgiven =>
    refine .inl ⟨fun value hvalue => ⟨path, Option.some.inj (hvalue.symm.trans hgiven)⟩, ?_⟩
    rw [hgiven]
    simp only [String.isEmpty_iff]
  · next value hkind hgiven => exact .inr ⟨_, .mount hgiven hkind, rfl⟩

theorem owner_cases :
    (a.Meets .owner ∧ Parameters.owner parameters = .ok a.owner?) ∨
      ∃ e, a.Fails .owner e ∧ Parameters.owner parameters = .error e := by
  unfold Parameters.owner owner? Meets
  rw [h, h]
  rcases huid : a.parameter? "uid" with _ | uid
  · exact .inl ⟨nofun, rfl⟩
  rcases hgid : a.parameter? "gid" with _ | gid
  · exact .inl ⟨nofun, by cases uid <;> rfl⟩
  -- both are given, and the user is looked at first
  rcases ownerText_cases "uid" uid with ⟨user, rfl, huser⟩ | ⟨huser, hkind⟩
  · rcases ownerText_cases "gid" gid with ⟨group, rfl, hgroup⟩ | ⟨hgroup, hkind⟩
    · refine .inl ⟨?_, rfl⟩
      rintro _ _ ⟨⟩ ⟨⟩
      exact ⟨⟨user, rfl⟩, group, rfl⟩
    · refine .inr ⟨_, .gid huid hgid hkind, ?_⟩
      simp only [huser, hgroup]
      rfl
  · refine .inr ⟨_, .uid huid hgid hkind, ?_⟩
    simp only [huser]
    rfl

end Parameters

theorem vacancy_cases (a : BindAttempt) :
    (a.Meets .vacancy ∧ ((a.records.bindings.get? a.bindingId).any fun existing =>
        !existing.same a.details.toRecord) = false) ∨
      (a.Fails .vacancy (.bindingAlreadyExists a.bindingId) ∧
        ((a.records.bindings.get? a.bindingId).any fun existing =>
          !existing.same a.details.toRecord) = true) := by
  unfold Meets
  -- without a stored binding there is nothing to differ from
  rcases hstored : a.records.bindings.get? a.bindingId with _ | existing
  · exact .inl ⟨nofun, rfl⟩
  · cases hsame : existing.same a.details.toRecord with
    | true =>
      refine .inl ⟨?_, by simp [hsame]⟩
      rintro _ ⟨⟩
      exact hsame
    | false => exact .inr ⟨.taken hstored hsame, by simp [hsame]⟩

/-! ### All checks -/

theorem meetsBefore_zero : a.MeetsBefore 0 := fun _ h => absurd h (Nat.not_lt_zero _)

theorem MeetsBefore.next (need : Requirement) (h : a.MeetsBefore need.rank) (hmeets : a.Meets need) :
    a.MeetsBefore (need.rank + 1) := by
  intro earlier hrank
  rcases Nat.lt_succ_iff_lt_or_eq.1 hrank with hlt | heq
  · exact h earlier hlt
  · rw [Requirement.eq_of_rank_eq heq]
    exact hmeets

theorem MeetsBefore.all (h : a.MeetsBefore 8) (need : Requirement) : a.Meets need :=
  h need (by cases need <;> decide)

/-- What a bind gives that meets all requirements. -/
def binding (a : BindAttempt) (driver : String) (volume : Volume) : Binding :=
  Transaction.bindingOf driver a.containerDir a.instanceId a.mode volume a.owner?

/-- **The checks of a bind.** It gives a binding if it meets all requirements, and else the error of
the first one that is not met. -/
theorem bindingFor_cases {r : Registry} {driver : String}
    (hdriver : r.driverName a.details.serviceId = .ok driver) :
    ((∀ need, a.Meets need) ∧ ∃ record fingerprint,
      a.records.instances.get? a.instanceId = some record ∧
        Fingerprint.ofSlot record.fingerprint = .ok fingerprint ∧
        Change.bindingFor r a.records a.instanceId a.bindingId a.details
          = .ok (a.binding driver fingerprint.volume)) ∨
      ∃ need e, a.FailsFirst need e ∧
        Change.bindingFor r a.records a.instanceId a.bindingId a.details = .error e := by
  unfold Change.bindingFor
  -- each check that is passed is left behind, and the next one is reached with what it has given
  rcases hrecord : a.records.instances.get? a.instanceId with _ | record
  · exact .inr ⟨.present, _, ⟨.absent hrecord, meetsBefore_zero⟩, rfl⟩
  have hpresent : a.MeetsBefore 1 := meetsBefore_zero.next .present ⟨record, hrecord⟩
  dsimp only
  by_cases happlication : a.details.application = ""
  · rw [if_pos happlication]
    exact .inr ⟨.application, _, ⟨fails_application happlication, hpresent⟩, rfl⟩
  rw [if_neg happlication]
  have hnamed : a.MeetsBefore 2 :=
    hpresent.next .application (not_not.1 (mt application_eq_empty_iff.2 happlication))
  rcases hread : Fingerprint.ofSlot record.fingerprint with m | fingerprint
  · exact .inr ⟨.fingerprint, _, ⟨.unreadable hrecord hread, hnamed⟩, rfl⟩
  have hlegible : a.MeetsBefore 3 := by
    refine hnamed.next .fingerprint ?_
    intro found hfound
    cases hrecord.symm.trans hfound
    exact ⟨fingerprint, hread⟩
  simp only [Except.mapError, bind, Except.bind]
  rcases a.ofBind_cases with ⟨hmeets, parameters, hparameters, hget⟩ | ⟨e, hfails, hparameters⟩
  swap
  · rw [hparameters]
    exact .inr ⟨_, _, ⟨hfails, hlegible⟩, rfl⟩
  rw [hparameters]
  have hobject : a.MeetsBefore 4 := hlegible.next .parameters hmeets
  dsimp only
  rcases mountMode_cases hget with ⟨hmeets, hmode⟩ | ⟨e, hfails, hmode⟩
  swap
  · rw [hmode]
    exact .inr ⟨_, _, ⟨hfails, hobject⟩, rfl⟩
  rw [hmode]
  have hflag : a.MeetsBefore 5 := hobject.next .readOnly hmeets
  dsimp only
  rcases containerPath_cases hget with ⟨hmeets, hpath⟩ | ⟨e, hfails, hpath⟩
  swap
  · rw [hpath]
    exact .inr ⟨_, _, ⟨hfails, hflag⟩, rfl⟩
  rw [hpath]
  have hdir : a.MeetsBefore 6 := hflag.next .mount hmeets
  dsimp only
  rcases owner_cases hget with ⟨hmeets, howner⟩ | ⟨e, hfails, howner⟩
  swap
  · rw [howner]
    exact .inr ⟨_, _, ⟨hfails, hdir⟩, rfl⟩
  rw [howner]
  have howned : a.MeetsBefore 7 := hdir.next .owner hmeets
  dsimp only
  rcases a.vacancy_cases with ⟨hmeets, hvacant⟩ | ⟨hfails, htaken⟩
  · refine .inl ⟨(howned.next .vacancy hmeets).all, record, fingerprint, rfl, hread, ?_⟩
    rw [if_neg (by rw [hvacant]; exact Bool.false_ne_true), hdriver]
    rfl
  · rw [if_pos htaken]
    exact .inr ⟨_, _, ⟨hfails, howned⟩, rfl⟩

/-! ### What a bind gives -/

/-- What a caller reads in a mount. -/
structure DescribesMount (a : BindAttempt) (driver : String) (volume : Volume) (mount : VolumeMount) :
    Prop where
  driver : mount.driver = driver
  shared : mount.deviceType = "shared"
  /-- The mount is for reading only if that is asked for, and else for reading and writing. -/
  reading : mount.mode.name = "r" ↔ a.parameter? "readonly" = some (.bool true)
  writing : mount.mode.name = "rw" ↔ a.parameter? "readonly" ≠ some (.bool true)
  /-- A path that the caller names is taken as it is. -/
  chosen : ∀ path, a.parameter? "mount" = some (.str path) → path ≠ "" → mount.containerDir = path
  unchosen : (∀ path, a.parameter? "mount" = some (.str path) → path = "") →
    mount.containerDir = ContainerPath.clean ("/var/vcap/data/" ++ a.instanceId)
  device : mount.device.volumeId = a.instanceId ++ "-volume"
  settings : mount.device.mountConfig.keys = ["attributes", "binding-params", "id"]
  id : mount.device.mountConfig.get? "id" = some (.str volume.volumeId)
  attributes : mount.device.mountConfig.get? "attributes" = some (.ofStrings volume.volumeContext)
  /-- User and group are handed on if both are given. -/
  owned : ∀ uid gid, a.parameter? "uid" = some (.str uid) → a.parameter? "gid" = some (.str gid) →
    mount.device.mountConfig.get? "binding-params" = some (.obj [("gid", .str gid), ("uid", .str uid)])
  unowned : a.parameter? "uid" = none ∨ a.parameter? "gid" = none →
    mount.device.mountConfig.get? "binding-params" = some .null

/-- What a caller reads in a binding: no credentials and one mount. -/
structure Describes (a : BindAttempt) (driver : String) (volume : Volume) (binding : Binding) :
    Prop where
  credentials : binding.credentials = .empty
  mount : ∃ mount, binding.volumeMounts = [mount] ∧ a.DescribesMount driver volume mount

theorem entries_mountConfig (volume : Volume) (owner : Option (Dict String)) :
    (Transaction.mountConfig volume owner).entries =
      [("attributes", .ofStrings volume.volumeContext),
        ("binding-params", (owner.map Json.ofStrings).getD .null), ("id", .str volume.volumeId)] := by
  have hfirst : "attributes" < "id" := by decide
  have hsecond : "attributes" < "binding-params" := by decide
  have hback : ¬"binding-params" < "attributes" := by decide
  have hthird : "binding-params" < "id" := by decide
  simp only [Transaction.mountConfig, Dict.ofList, List.foldl_cons, List.foldl_nil, Dict.insert,
    Dict.empty, Dict.insertEntry, if_pos hfirst, if_neg hback, if_pos hsecond, if_pos hthird]

theorem ofStrings_owner (uid gid : String) :
    Json.ofStrings (Dict.ofList [("uid", uid), ("gid", gid)])
      = .obj [("gid", .str gid), ("uid", .str uid)] := by
  have hbefore : "gid" < "uid" := by decide
  simp only [Json.ofStrings, Dict.entries_ofList_swap hbefore, List.map_cons, List.map_nil]

theorem mode_eq_readOnly_iff : a.mode = .readOnly ↔ a.parameter? "readonly" = some (.bool true) := by
  unfold mode
  split
  · next h => simp [h]
  · next h => simpa using h

theorem owner?_eq_none (h : a.parameter? "uid" = none ∨ a.parameter? "gid" = none) :
    a.owner? = none := by
  unfold owner?
  rcases h with huid | hgid
  · rw [huid]
  · rw [hgid]
    split
    · next h => cases h
    · rfl

theorem describes_binding (a : BindAttempt) (driver : String) (volume : Volume) :
    a.Describes driver volume (a.binding driver volume) := by
  -- the settings are looked up in their entries
  have hget : ∀ key value, (key, value) ∈ (Transaction.mountConfig volume a.owner?).entries →
      (Transaction.mountConfig volume a.owner?).get? key = some value :=
    fun _ _ => Dict.get?_eq_some_iff.2
  rw [entries_mountConfig] at hget
  refine ⟨rfl, _, rfl, {
    driver := rfl
    shared := rfl
    reading := ?_
    writing := ?_
    chosen := ?_
    unchosen := ?_
    device := rfl
    settings := ?_
    id := hget _ _ (by simp)
    attributes := hget _ _ (by simp)
    owned := ?_
    unowned := ?_ }⟩
  · rw [← mode_eq_readOnly_iff]
    change a.mode.name = "r" ↔ _
    cases a.mode <;> simp [MountMode.name]
  · rw [ne_eq, ← mode_eq_readOnly_iff]
    change a.mode.name = "rw" ↔ _
    cases a.mode <;> simp [MountMode.name]
  · -- a path that is given and not empty is taken as it is
    intro path hpath hne
    change a.containerDir = path
    unfold containerDir
    rw [hpath]
    exact if_neg hne
  · intro hempty
    change a.containerDir = _
    unfold containerDir
    split
    · next path hpath =>
      rw [if_pos (hempty path hpath)]
      rfl
    · rfl
  · exact congrArg (List.map Prod.fst) (entries_mountConfig volume a.owner?)
  · intro uid gid huid hgid
    refine hget _ _ ?_
    have howner : a.owner? = some (Dict.ofList [("uid", uid), ("gid", gid)]) := by
      unfold owner?
      rw [huid, hgid]
    rw [howner, ← ofStrings_owner]
    simp
  · intro hnone
    refine hget _ _ ?_
    rw [owner?_eq_none hnone]
    simp

/-! ### Binding again -/

/-- A bind that comes after another one and is the same as that. -/
structure Repeats (a' a : BindAttempt) : Prop where
  instances : a'.records.instances = a.records.instances
  stored : a'.records.bindings.get? a.bindingId = some a.details.toRecord
  instanceId : a'.instanceId = a.instanceId
  bindingId : a'.bindingId = a.bindingId
  same : a.details.toRecord.same a'.details.toRecord = true

namespace Repeats

variable {a' : BindAttempt}

theorem sameParameters (h : a'.Repeats a) :
    BindingRecord.sameParameters a.details.parameters a'.details.parameters = true :=
  (BindingRecord.same_iff.1 h.same).2.2.2.2

/-- Parameters are given again, and they are the same. -/
theorem parameter? (h : a'.Repeats a) (name : String) :
    Option.Rel (fun v w => v.same w = true) (a.parameter? name) (a'.parameter? name) := by
  have hsame := h.sameParameters
  unfold BindAttempt.parameter?
  rcases hold : a.details.parameters with _ | old <;>
    rcases hnew : a'.details.parameters with _ | new <;> rw [hold, hnew] at hsame
  · exact .none
  · cases hsame
  · cases hsame
  · exact Json.get?_same hsame name

theorem exists_of_parameter? (h : a'.Repeats a) {name : String} {w : Json}
    (hget : a'.parameter? name = some w) : ∃ v, a.parameter? name = some v ∧ v.same w = true := by
  have hrel := h.parameter? name
  rw [hget] at hrel
  generalize a.parameter? name = old at hrel
  cases hrel with
  | some hsame => exact ⟨_, rfl, hsame⟩

theorem parameter?_none (h : a'.Repeats a) {name : String} (hget : a.parameter? name = none) :
    a'.parameter? name = none := by
  have hrel := h.parameter? name
  rw [hget] at hrel
  generalize a'.parameter? name = new at hrel
  cases hrel
  rfl

theorem parameter?_some (h : a'.Repeats a) {name : String} {v : Json}
    (hget : a.parameter? name = some v) (honly : ∀ w, v.same w = true → w = v) : a'.parameter? name = some v := by
  have hrel := h.parameter? name
  rw [hget] at hrel
  generalize a'.parameter? name = new at hrel
  cases hrel with
  | some hsame => rw [honly _ hsame]

theorem meets (h : a'.Repeats a) (hmeets : ∀ need, a.Meets need) (need : Requirement) :
    a'.Meets need := by
  obtain ⟨-, -, happ, hresource, -⟩ := BindingRecord.same_iff.1 h.same
  -- requirement by requirement: it speaks of the record or of a parameter, and both are the same
  cases need with
  | present =>
    unfold Meets
    rw [h.instances, h.instanceId]
    exact hmeets .present
  | application =>
    have happlication : a.Meets .application := hmeets .application
    unfold Meets at happlication ⊢
    rwa [show a'.details.appGuid = a.details.appGuid from happ.symm,
      show a'.details.bindResource = a.details.bindResource from hresource.symm]
  | fingerprint =>
    unfold Meets
    rw [h.instances, h.instanceId]
    exact hmeets .fingerprint
  | parameters =>
    -- values that are the same are of one kind
    have hsame := h.sameParameters
    rcases hmeets .parameters with hold | hold | ⟨members, hold⟩ <;> rw [hold] at hsame <;>
      rcases hnew : a'.details.parameters with _ | new <;> rw [hnew] at hsame
    · exact .inl hnew
    · cases hsame
    · cases hsame
    · refine .inr (.inl ?_)
      cases new <;> first | exact hnew | cases hsame
    · cases hsame
    · refine .inr (.inr ?_)
      cases new <;> first | exact ⟨_, hnew⟩ | cases hsame
  | readOnly =>
    intro value hvalue
    obtain ⟨v, hv, hsame⟩ := h.exists_of_parameter? hvalue
    obtain ⟨flag, rfl⟩ := hmeets .readOnly v hv
    exact ⟨flag, Json.eq_of_same_bool hsame⟩
  | mount =>
    intro value hvalue
    obtain ⟨v, hv, hsame⟩ := h.exists_of_parameter? hvalue
    obtain ⟨path, rfl⟩ := hmeets .mount v hv
    exact ⟨path, Json.eq_of_same_str hsame⟩
  | owner =>
    intro uid gid huid hgid
    obtain ⟨u, hu, hsameUid⟩ := h.exists_of_parameter? huid
    obtain ⟨g, hg, hsameGid⟩ := h.exists_of_parameter? hgid
    obtain ⟨⟨user, rfl⟩, group, rfl⟩ := hmeets .owner u g hu hg
    exact ⟨⟨user, Json.eq_of_same_str hsameUid⟩, group, Json.eq_of_same_str hsameGid⟩
  | vacancy =>
    -- what is stored is the record of the bind before, which is the same
    intro existing hexisting
    rw [h.bindingId, h.stored] at hexisting
    cases hexisting
    exact h.same

theorem mode_eq (h : a'.Repeats a) (hmeets : a.Meets .readOnly) : a'.mode = a.mode := by
  unfold mode
  rcases hold : a.parameter? "readonly" with _ | v
  · rw [h.parameter?_none hold]
  · obtain ⟨flag, rfl⟩ := hmeets v hold
    rw [h.parameter?_some hold fun _ => Json.eq_of_same_bool]

theorem containerDir_eq (h : a'.Repeats a) (hmeets : a.Meets .mount) :
    a'.containerDir = a.containerDir := by
  unfold containerDir
  rw [h.instanceId]
  rcases hold : a.parameter? "mount" with _ | v
  · rw [h.parameter?_none hold]
  · obtain ⟨path, rfl⟩ := hmeets v hold
    rw [h.parameter?_some hold fun _ => Json.eq_of_same_str]

theorem owner?_eq (h : a'.Repeats a) (hmeets : a.Meets .owner) : a'.owner? = a.owner? := by
  rcases huid : a.parameter? "uid" with _ | uid
  · rw [owner?_eq_none (.inl huid), owner?_eq_none (.inl (h.parameter?_none huid))]
  rcases hgid : a.parameter? "gid" with _ | gid
  · rw [owner?_eq_none (.inr hgid), owner?_eq_none (.inr (h.parameter?_none hgid))]
  obtain ⟨⟨user, rfl⟩, group, rfl⟩ := hmeets uid gid huid hgid
  unfold owner?
  rw [huid, hgid, h.parameter?_some huid fun _ => Json.eq_of_same_str,
    h.parameter?_some hgid fun _ => Json.eq_of_same_str]

/-- A bind that is repeated gives the same binding. -/
theorem binding_eq (h : a'.Repeats a) (hmeets : ∀ need, a.Meets need) (driver : String)
    (volume : Volume) : a'.binding driver volume = a.binding driver volume := by
  unfold binding
  rw [h.mode_eq (hmeets .readOnly), h.containerDir_eq (hmeets .mount), h.owner?_eq (hmeets .owner),
    h.instanceId]

theorem bindingFor_eq (h : a'.Repeats a) {r : Registry} {driver : String}
    (hdriver : r.driverName a.details.serviceId = .ok driver) {binding : Binding}
    (hok : Change.bindingFor r a.records a.instanceId a.bindingId a.details = .ok binding) :
    Change.bindingFor r a'.records a'.instanceId a'.bindingId a'.details = .ok binding := by
  have hservice : a.details.serviceId = a'.details.serviceId := (BindingRecord.same_iff.1 h.same).1
  -- the first bind has met all requirements
  rcases bindingFor_cases hdriver with
    ⟨hmeets, record, fingerprint, hrecord, hread, hgives⟩ | ⟨_, e, -, herror⟩
  swap
  · cases herror.symm.trans hok
  rw [hservice] at hdriver
  rcases bindingFor_cases hdriver with
    ⟨-, record', fingerprint', hrecord', hread', hgives'⟩ | ⟨need, e, hfails, -⟩
  · -- both find the same record
    rw [h.instances, h.instanceId, hrecord] at hrecord'
    cases hrecord'
    cases hread.symm.trans hread'
    rw [hgives', h.binding_eq hmeets, ← hgives, hok]
  · -- nothing can fail that has not failed before
    exact absurd (h.meets hmeets need) hfails.1.not_meets

end Repeats

end BindAttempt

end VolumeBroker
