import VolumeBroker.Api.Demand
import VolumeBroker.Proofs.Api.Responses
import VolumeBroker.Proofs.Broker.Answers
import VolumeBroker.Proofs.Outcomes
/-!
# What requests address and ask for

A request to one of the routes of instances and bindings is about a `Target`, if the ids in its path
are text and its further parameters can be read (`HttpRequest.Addresses`). It asks for the one call of
the broker that belongs to the target, with the details of its body or its query, if these can be read
(`HttpRequest.Asks`). Both are stated by the texts of the request alone.

`Addresses.fulfills` says that a request which addresses a target demands exactly the call that it
asks for, and is malformed if there is none; `addresses_of_operation` says that no other request
demands an operation.
-/

namespace VolumeBroker

/-- What a request can be about. -/
inductive Target where
  | provision (instanceId : String)
  | update (instanceId : String)
  | deprovision (instanceId : String)
  | bind (instanceId bindingId : String)
  | unbind (instanceId bindingId : String)
deriving DecidableEq, Repr

/-- The calls that the routes of instances and bindings make. -/
inductive BrokerCall where
  | operation (operation : Operation)
  | update (instanceId : String) (details : UpdateDetails)

/-- A demand that is a call of the broker: an operation is left to the broker, and an update is answered
at once with its result. -/
inductive Demand.Makes : Demand → BrokerCall → Prop where
  | operation (operation : Operation) : Makes (.operation operation) (.operation operation)
  | update {id : String} {details : UpdateDetails} {response : HttpResponse}
      (answers : response.Answers 200 ((Broker.update id details).map Updated.document)) :
      Makes (.response response) (.update id details)

/-- A demand that is the call that is asked for; if none is, it is a malformed request. -/
def Demand.Fulfills (demand : Demand) (Asked : BrokerCall → Prop) : Prop :=
  (∃ call, Asked call ∧ demand.Makes call) ∨
    ((∀ call, ¬ Asked call) ∧
      ∃ description, description ≠ "" ∧ demand = .response (.malformedRequest description))

namespace HttpRequest

variable {α : Type}

/-- A flag of a query that is absent or a truth value. -/
def HasFlag (r : HttpRequest) (name : String) : Prop :=
  r.parameter name = .ok none ∨ r.parameter name = .ok (some "true") ∨
    r.parameter name = .ok (some "false")

/-- A request whose route and method lead to a target, whose ids are text, and whose parameters that
are no details can be read. -/
inductive Addresses (r : HttpRequest) : Target → Prop where
  | provision {encoded id : String} (method : r.method = .put)
      (route : Route.ofPath? r.path = some (.serviceInstance encoded))
      (decodes : Percent.segment? encoded = some id) (flag : r.HasFlag "accepts_incomplete") :
      Addresses r (.provision id)
  | update {encoded id : String} (method : r.method = .patch)
      (route : Route.ofPath? r.path = some (.serviceInstance encoded))
      (decodes : Percent.segment? encoded = some id) : Addresses r (.update id)
  | deprovision {encoded id : String} (method : r.method = .delete)
      (route : Route.ofPath? r.path = some (.serviceInstance encoded))
      (decodes : Percent.segment? encoded = some id) : Addresses r (.deprovision id)
  | bind {outer inner instanceId bindingId : String} (method : r.method = .put)
      (route : Route.ofPath? r.path = some (.binding outer inner))
      (outerDecodes : Percent.segment? outer = some instanceId)
      (innerDecodes : Percent.segment? inner = some bindingId) :
      Addresses r (.bind instanceId bindingId)
  | unbind {outer inner instanceId bindingId : String} (method : r.method = .delete)
      (route : Route.ofPath? r.path = some (.binding outer inner))
      (outerDecodes : Percent.segment? outer = some instanceId)
      (innerDecodes : Percent.segment? inner = some bindingId) :
      Addresses r (.unbind instanceId bindingId)

/-- A body that announces JSON, is not too long, and is read as some details. -/
structure HasBody (r : HttpRequest) (c : Codec α) (details : α) : Prop where
  announced : r.announcesJson = true
  size : r.body.size ≤ bodyLimit
  read : c.read .text (Document.ofContent r.body).root = .ok details

/-- A query that names a service and a plan, each at most once; what is absent is empty. -/
def HasQuery (r : HttpRequest) (serviceId planId : String) : Prop :=
  ∃ service plan, r.parameter "service_id" = .ok service ∧ r.parameter "plan_id" = .ok plan ∧
    service.getD "" = serviceId ∧ plan.getD "" = planId

/-- The call that a request asks for about its target, with the details that it brings. -/
inductive Asks (r : HttpRequest) : Target → BrokerCall → Prop where
  | provision {id : String} {details : ProvisionDetails}
      (body : r.HasBody ProvisionDetails.shape.codec details) :
      Asks r (.provision id) (.operation (.provision id details))
  | update {id : String} {details : UpdateDetails}
      (body : r.HasBody UpdateDetails.shape.codec details) :
      Asks r (.update id) (.update id details)
  | deprovision {id serviceId planId : String} (query : r.HasQuery serviceId planId) :
      Asks r (.deprovision id) (.operation (.deprovision id ⟨serviceId, planId⟩))
  | bind {instanceId bindingId : String} {details : BindDetails}
      (body : r.HasBody BindDetails.shape.codec details) :
      Asks r (.bind instanceId bindingId) (.operation (.bind instanceId bindingId details))
  | unbind {instanceId bindingId serviceId planId : String} (query : r.HasQuery serviceId planId) :
      Asks r (.unbind instanceId bindingId)
        (.operation (.unbind instanceId bindingId ⟨serviceId, planId⟩))

variable {r : HttpRequest}

/-! ### The parts of a request -/

theorem idPart_eq_ok_iff {name encoded id : String} :
    idPart name encoded = .ok id ↔ Percent.segment? encoded = some id := by
  unfold idPart
  cases Percent.segment? encoded <;> simp

theorem idPart_of_none {name encoded : String} (h : Percent.segment? encoded = none) :
    idPart name encoded
      = .error (.ofText 400 ("Invalid URL: Invalid UTF-8 in " ++ backquoted name)) := by
  unfold idPart
  rw [h]

/-- A flag is read, or its query is refused in plain words. -/
theorem asyncFlag_cases (r : HttpRequest) :
    (r.HasFlag "accepts_incomplete" ∧ ∃ flag, r.asyncFlag = .ok flag) ∨
      (¬ r.HasFlag "accepts_incomplete" ∧ ∃ text, r.asyncFlag = .error (.ofText 400 text)) := by
  unfold HasFlag asyncFlag
  -- given twice, absent, or a text of which only two are truth values
  rcases r.parameter "accepts_incomplete" with m | _ | value
  · exact .inr ⟨by simp, _, rfl⟩
  · exact .inl ⟨.inl rfl, _, rfl⟩
  · by_cases htrue : value = "true"
    · subst htrue
      exact .inl ⟨.inr (.inl rfl), _, rfl⟩
    · by_cases hfalse : value = "false"
      · subst hfalse
        exact .inl ⟨.inr (.inr rfl), _, rfl⟩
      · exact .inr ⟨by simp [htrue, hfalse], _, by simp only; rfl⟩

/-- Details are read from a body that has them; otherwise the request is malformed. -/
theorem details_cases (r : HttpRequest) (c : Codec α) :
    (∃ details, r.HasBody c details ∧ r.details c = .ok details) ∨
      ((∀ details, ¬ r.HasBody c details) ∧
        ∃ description, description ≠ "" ∧ r.details c = .error (.malformedRequest description)) := by
  unfold details
  -- what the body is announced as comes first, then its size, and only then what it holds
  split
  · next hsilent =>
    refine .inr ⟨fun details h => ?_, _, by decide, rfl⟩
    rw [h.announced] at hsilent
    cases hsilent
  next hannounced =>
  split
  · next hlong =>
    exact .inr ⟨fun details h => Nat.not_lt.2 h.size hlong, _, by decide, rfl⟩
  next hsize =>
  split
  · next details hread =>
    exact .inl ⟨details, ⟨by simpa using hannounced, Nat.not_lt.1 hsize, hread⟩, rfl⟩
  -- what is not read is told by the reader
  · next hread =>
    refine .inr ⟨fun details h => ?_, _, append_ne_empty (by decide) _, rfl⟩
    rw [h.read] at hread
    cases hread
  · next hread =>
    refine .inr ⟨fun details h => ?_, _, append_ne_empty (by decide) _, rfl⟩
    rw [h.read] at hread
    cases hread

/-- A body holds one value. -/
theorem HasBody.unique {c : Codec α} {a b : α} (ha : r.HasBody c a) (hb : r.HasBody c b) : a = b :=
  Except.ok.inj (ha.read.symm.trans hb.read)

/-- The ids in a query are read if it has them; otherwise the request is malformed. -/
theorem serviceAndPlan_cases (r : HttpRequest) :
    (∃ serviceId planId, r.HasQuery serviceId planId ∧ r.serviceAndPlan = .ok (serviceId, planId)) ∨
      ((∀ serviceId planId, ¬ r.HasQuery serviceId planId) ∧
        ∃ description, description ≠ "" ∧
          r.serviceAndPlan = .error (.malformedRequest description)) := by
  unfold serviceAndPlan HasQuery
  rcases r.parameter "service_id" with m | service
  · exact .inr ⟨by simp, _, append_ne_empty (by decide) _, rfl⟩
  · rcases r.parameter "plan_id" with m | plan
    · exact .inr ⟨by simp, _, append_ne_empty (by decide) _, rfl⟩
    · exact .inl ⟨_, _, ⟨service, plan, rfl, rfl, rfl, rfl⟩, rfl⟩

theorem HasQuery.unique {serviceId planId serviceId' planId' : String}
    (h : r.HasQuery serviceId planId) (h' : r.HasQuery serviceId' planId') :
    serviceId = serviceId' ∧ planId = planId' := by
  obtain ⟨service, plan, hservice, hplan, rfl, rfl⟩ := h
  obtain ⟨service', plan', hservice', hplan', rfl, rfl⟩ := h'
  cases hservice.symm.trans hservice'
  cases hplan.symm.trans hplan'
  exact ⟨rfl, rfl⟩

/-- A request asks for one call at most. -/
theorem Asks.unique {target : Target} {call call' : BrokerCall} (h : r.Asks target call)
    (h' : r.Asks target call') : call = call' := by
  cases h with
  | provision body =>
    cases h' with
    | provision body' => rw [body.unique body']
  | update body =>
    cases h' with
    | update body' => rw [body.unique body']
  | deprovision query =>
    cases h' with
    | deprovision query' =>
      obtain ⟨rfl, rfl⟩ := query.unique query'
      rfl
  | bind body =>
    cases h' with
    | bind body' => rw [body.unique body']
  | unbind query =>
    cases h' with
    | unbind query' =>
      obtain ⟨rfl, rfl⟩ := query.unique query'
      rfl

/-! ### Demands -/

theorem demand_of_route {services : List Service} {route : Route} {demand : Demand}
    (hroute : Route.ofPath? r.path = some route) (hon : r.demandOn? services route = some demand) :
    r.demand services = demand := by
  unfold HttpRequest.demand
  rw [hroute]
  dsimp only
  rw [hon]

/-- A call with details from the body. -/
theorem fulfills_details (r : HttpRequest) (c : Codec α) {Asked : BrokerCall → Prop}
    (make : α → Operation) {part : Part Operation}
    (hpart : part = r.details c >>= fun details => .ok (make details))
    (h : ∀ call, Asked call ↔ ∃ details, r.HasBody c details ∧ call = .operation (make details)) :
    part.toDemand.Fulfills Asked := by
  rcases r.details_cases c with ⟨details, hbody, hread⟩ | ⟨hnone, description, hne, hread⟩
  · rw [hpart, hread]
    exact .inl ⟨_, (h _).2 ⟨details, hbody, rfl⟩, .operation _⟩
  · -- nothing can be read, so no call is asked for
    rw [hpart, hread]
    refine .inr ⟨fun call hasked => ?_, description, hne, rfl⟩
    obtain ⟨details, hbody, -⟩ := (h call).1 hasked
    exact hnone details hbody

/-- A call with details from the query. -/
theorem fulfills_query (r : HttpRequest) {Asked : BrokerCall → Prop}
    (make : String → String → Operation) {part : Part Operation}
    (hread : ∀ serviceId planId, r.serviceAndPlan = .ok (serviceId, planId) →
      part = .ok (make serviceId planId))
    (hrefused : ∀ response, r.serviceAndPlan = .error response → part = .error response)
    (h : ∀ call, Asked call ↔
      ∃ serviceId planId, r.HasQuery serviceId planId ∧ call = .operation (make serviceId planId)) :
    part.toDemand.Fulfills Asked := by
  rcases r.serviceAndPlan_cases with
    ⟨serviceId, planId, hquery, hids⟩ | ⟨hnone, description, hne, hids⟩
  · rw [hread _ _ hids]
    exact .inl ⟨_, (h _).2 ⟨serviceId, planId, hquery, rfl⟩, .operation _⟩
  · -- one of the two ids is given twice, so no call is asked for
    rw [hrefused _ hids]
    refine .inr ⟨fun call hasked => ?_, description, hne, rfl⟩
    obtain ⟨serviceId, planId, hquery, -⟩ := (h call).1 hasked
    exact hnone serviceId planId hquery

theorem fulfills_provision {encoded id : String} (decodes : Percent.segment? encoded = some id)
    (flag : r.HasFlag "accepts_incomplete") :
    (r.provision encoded).toDemand.Fulfills (r.Asks (.provision id)) := by
  obtain ⟨-, value, hflag⟩ := r.asyncFlag_cases.resolve_right fun hrefused => hrefused.1 flag
  refine r.fulfills_details ProvisionDetails.shape.codec (.provision id) ?_ fun call => ⟨?_, ?_⟩
  · unfold HttpRequest.provision
    rw [idPart_eq_ok_iff.2 decodes, hflag]
    rfl
  · intro hasks
    cases hasks with
    | provision hbody => exact ⟨_, hbody, rfl⟩
  · rintro ⟨details, hbody, rfl⟩
    exact .provision hbody

/-- Updates are not offered, so the response is an error whatever the details are. -/
theorem fulfills_update {encoded id : String} (decodes : Percent.segment? encoded = some id) :
    (r.update encoded).toResponse.Fulfills (r.Asks (.update id)) := by
  unfold HttpRequest.update
  rw [idPart_eq_ok_iff.2 decodes]
  rcases r.details_cases UpdateDetails.shape.codec with
    ⟨details, hbody, hread⟩ | ⟨hnone, description, hne, hread⟩
  · -- an update is refused by the broker without a look at the session
    rw [hread]
    exact .inl ⟨_, .update hbody, .update (HttpResponse.ofError_answers _ _)⟩
  · rw [hread]
    refine .inr ⟨fun call hasks => ?_, description, hne, rfl⟩
    cases hasks with
    | update hbody => exact hnone _ hbody

theorem fulfills_deprovision {encoded id : String} (decodes : Percent.segment? encoded = some id) :
    (r.deprovision encoded).toDemand.Fulfills (r.Asks (.deprovision id)) := by
  refine r.fulfills_query (fun serviceId planId => .deprovision id ⟨serviceId, planId⟩)
    (fun serviceId planId hids => ?_) (fun response hids => ?_) fun call => ⟨?_, ?_⟩
  · unfold HttpRequest.deprovision
    rw [idPart_eq_ok_iff.2 decodes, hids]
    rfl
  · unfold HttpRequest.deprovision
    rw [idPart_eq_ok_iff.2 decodes, hids]
    rfl
  · intro hasks
    cases hasks with
    | deprovision hquery => exact ⟨_, _, hquery, rfl⟩
  · rintro ⟨serviceId, planId, hquery, rfl⟩
    exact .deprovision hquery

theorem fulfills_bind {outer inner instanceId bindingId : String}
    (outerDecodes : Percent.segment? outer = some instanceId)
    (innerDecodes : Percent.segment? inner = some bindingId) :
    (r.bind outer inner).toDemand.Fulfills (r.Asks (.bind instanceId bindingId)) := by
  refine r.fulfills_details BindDetails.shape.codec (.bind instanceId bindingId) ?_
    fun call => ⟨?_, ?_⟩
  · unfold HttpRequest.bind
    rw [idPart_eq_ok_iff.2 outerDecodes, idPart_eq_ok_iff.2 innerDecodes]
    rfl
  · intro hasks
    cases hasks with
    | bind hbody => exact ⟨_, hbody, rfl⟩
  · rintro ⟨details, hbody, rfl⟩
    exact .bind hbody

theorem fulfills_unbind {outer inner instanceId bindingId : String}
    (outerDecodes : Percent.segment? outer = some instanceId)
    (innerDecodes : Percent.segment? inner = some bindingId) :
    (r.unbind outer inner).toDemand.Fulfills (r.Asks (.unbind instanceId bindingId)) := by
  refine r.fulfills_query (fun serviceId planId => .unbind instanceId bindingId ⟨serviceId, planId⟩)
    (fun serviceId planId hids => ?_) (fun response hids => ?_) fun call => ⟨?_, ?_⟩
  · unfold HttpRequest.unbind
    rw [idPart_eq_ok_iff.2 outerDecodes, idPart_eq_ok_iff.2 innerDecodes, hids]
    rfl
  · unfold HttpRequest.unbind
    rw [idPart_eq_ok_iff.2 outerDecodes, idPart_eq_ok_iff.2 innerDecodes, hids]
    rfl
  · intro hasks
    cases hasks with
    | unbind hquery => exact ⟨_, _, hquery, rfl⟩
  · rintro ⟨serviceId, planId, hquery, rfl⟩
    exact .unbind hquery

/-- **What a request demands.** A request that addresses a target demands the call that it asks for, and
it is malformed if there is none. -/
theorem Addresses.fulfills {target : Target} (h : r.Addresses target) (services : List Service) :
    (r.demand services).Fulfills (r.Asks target) := by
  -- each target belongs to one handler, which its route and its method select
  cases h with
  | @provision encoded id method route decodes flag =>
    have hdemand : r.demand services = (r.provision encoded).toDemand :=
      demand_of_route route (by simp only [demandOn?, method])
    exact hdemand ▸ fulfills_provision decodes flag
  | @update encoded id method route decodes =>
    have hdemand : r.demand services = (r.update encoded).toResponse :=
      demand_of_route route (by simp only [demandOn?, method])
    exact hdemand ▸ fulfills_update decodes
  | @deprovision encoded id method route decodes =>
    have hdemand : r.demand services = (r.deprovision encoded).toDemand :=
      demand_of_route route (by simp only [demandOn?, method])
    exact hdemand ▸ fulfills_deprovision decodes
  | @bind outer inner instanceId bindingId method route outerDecodes innerDecodes =>
    have hdemand : r.demand services = (r.bind outer inner).toDemand :=
      demand_of_route route (by simp only [demandOn?, method])
    exact hdemand ▸ fulfills_bind outerDecodes innerDecodes
  | @unbind outer inner instanceId bindingId method route outerDecodes innerDecodes =>
    have hdemand : r.demand services = (r.unbind outer inner).toDemand :=
      demand_of_route route (by simp only [demandOn?, method])
    exact hdemand ▸ fulfills_unbind outerDecodes innerDecodes

theorem eq_ok_of_toDemand {part : Part Operation} {operation : Operation}
    (h : part.toDemand = .operation operation) : part = .ok operation := by
  cases part with
  | error response => cases h
  | ok operation' => exact congrArg Except.ok (Demand.operation.inj h)

theorem toResponse_ne (part : Part HttpResponse) (operation : Operation) :
    part.toResponse ≠ .operation operation := by
  cases part <;> exact nofun

/-- Details that are taken from the body are in it. -/
theorem hasBody_of_details {c : Codec α} {details : α} (h : r.details c = .ok details) :
    r.HasBody c details := by
  rcases r.details_cases c with ⟨details', hbody, hread⟩ | ⟨-, description, -, hread⟩
  · rw [h] at hread
    exact Except.ok.inj hread ▸ hbody
  · rw [h] at hread
    cases hread

theorem hasQuery_of_serviceAndPlan {serviceId planId : String}
    (h : r.serviceAndPlan = .ok (serviceId, planId)) : r.HasQuery serviceId planId := by
  rcases r.serviceAndPlan_cases with
    ⟨serviceId', planId', hquery, hread⟩ | ⟨-, description, -, hread⟩
  · rw [h] at hread
    cases hread
    exact hquery
  · rw [h] at hread
    cases hread

/-- **Nothing else demands an operation.** A request that does addresses a target and asks for it. -/
theorem addresses_of_operation {services : List Service} {operation : Operation}
    (h : r.demand services = .operation operation) :
    ∃ target, r.Addresses target ∧ r.Asks target (.operation operation) := by
  unfold HttpRequest.demand at h
  split at h
  · cases h
  next route hroute =>
  split at h
  swap
  · cases h
  next demand hon =>
  subst h
  unfold demandOn? at hon
  split at hon
  · -- reading a resource never demands an operation, and neither does an update
    obtain ⟨part, -, hpart⟩ := Option.map_eq_some_iff.1 hon
    exact absurd hpart (toResponse_ne part operation)
  · obtain ⟨part, -, hpart⟩ := Option.map_eq_some_iff.1 hon
    cases part <;> cases hpart
  · next encoded method =>
    obtain ⟨id, hid, h⟩ := exists_of_bind_ok (eq_ok_of_toDemand (Option.some.inj hon))
    obtain ⟨flag, hflag, h⟩ := exists_of_bind_ok h
    obtain ⟨details, hdetails, h⟩ := exists_of_bind_ok h
    cases h
    -- a flag that cannot be read would have been refused
    have hhas : r.HasFlag "accepts_incomplete" := by
      rcases r.asyncFlag_cases with ⟨hhas, -⟩ | ⟨-, text, hrefused⟩
      · exact hhas
      · cases hflag.symm.trans hrefused
    exact ⟨_, .provision method hroute (idPart_eq_ok_iff.1 hid) hhas,
      .provision (hasBody_of_details hdetails)⟩
  · exact absurd (Option.some.inj hon) (toResponse_ne _ operation)
  · next encoded method =>
    obtain ⟨id, hid, h⟩ := exists_of_bind_ok (eq_ok_of_toDemand (Option.some.inj hon))
    obtain ⟨⟨serviceId, planId⟩, hids, h⟩ := exists_of_bind_ok h
    cases h
    exact ⟨_, .deprovision method hroute (idPart_eq_ok_iff.1 hid),
      .deprovision (hasQuery_of_serviceAndPlan hids)⟩
  · next outer inner method =>
    obtain ⟨instanceId, hinstance, h⟩ := exists_of_bind_ok (eq_ok_of_toDemand (Option.some.inj hon))
    obtain ⟨bindingId, hbinding, h⟩ := exists_of_bind_ok h
    obtain ⟨details, hdetails, h⟩ := exists_of_bind_ok h
    cases h
    exact ⟨_, .bind method hroute (idPart_eq_ok_iff.1 hinstance) (idPart_eq_ok_iff.1 hbinding),
      .bind (hasBody_of_details hdetails)⟩
  · next outer inner method =>
    obtain ⟨instanceId, hinstance, h⟩ := exists_of_bind_ok (eq_ok_of_toDemand (Option.some.inj hon))
    obtain ⟨bindingId, hbinding, h⟩ := exists_of_bind_ok h
    obtain ⟨⟨serviceId, planId⟩, hids, h⟩ := exists_of_bind_ok h
    cases h
    exact ⟨_, .unbind method hroute (idPart_eq_ok_iff.1 hinstance) (idPart_eq_ok_iff.1 hbinding),
      .unbind (hasQuery_of_serviceAndPlan hids)⟩
  · -- no other method is offered
    cases hon

end HttpRequest

end VolumeBroker
