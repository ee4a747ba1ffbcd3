import VolumeBroker.Proofs.Api.Gateway
/-!
# Which errors are reported

Of the requests to a route that offers their method, those that fail are answered with an `ErrorBody`
of a code and a description, except for three kinds that are refused in plain words before a handler
sees them (`HttpRequest.RefusedPlainly`): an id in the path that is no text, a flag of a provision that
is no truth value, and a question that names its operation twice.

`HttpRequest.Handled` names the handler that a request comes to; `Handled.refused` and
`HttpRequest.demand_accepted` say what such requests and all others demand. `Gateway.reports_errors`
carries this to the responses of a gateway, whatever happens between a request and its response, and
`PlainRefusal.not_reportsAll` is a request that shows that there are such kinds.
-/

namespace VolumeBroker

/-- The ids in a path, percent-encoded. -/
def Route.ids : Route → List String
  | health | catalog => []
  | serviceInstance id => [id]
  | lastOperation id => [id]
  | binding outer inner => [outer, inner]

/-- A refusal in plain words; there are no words where no body is sent. -/
structure HttpResponse.RefusesPlainly (r : HttpResponse) : Prop where
  status : r.status = 400
  contentType : r.contentType = some "text/plain; charset=utf-8"
  body : ∀ document, r.body ≠ .json document

/-- A response that succeeds, or reports an error with a code and a description. -/
def HttpResponse.IsOrderly (r : HttpResponse) : Prop :=
  400 ≤ r.status → ∃ body, r.Reports r.status body ∧ body.error ≠ "" ∧ body.description ≠ ""

namespace HttpResponse

variable {response : HttpResponse}

/-- Plain words are no report. -/
theorem RefusesPlainly.not_reports (h : response.RefusesPlainly) (status : Nat) (body : ErrorBody) :
    ¬ response.Reports status body := fun hreports => by
  obtain ⟨document, hbody, -⟩ := hreports.document
  exact h.body document hbody

theorem Reports.isOrderly {status : Nat} {body : ErrorBody} (h : response.Reports status body)
    (herror : body.error ≠ "") (hdescription : body.description ≠ "") : response.IsOrderly :=
  fun _ => ⟨body, ⟨rfl, h.contentType, h.document⟩, herror, hdescription⟩

/-- The response to a result of the broker is orderly. -/
theorem Answers.isOrderly {success : Nat} {result : Except BrokerError Json}
    (h : response.Answers success result) (hsuccess : success < 400) : response.IsOrderly := by
  -- only an error has a status from 400 on, and every error has a code and a text
  cases result with
  | ok document =>
    intro hstatus
    rw [Carries.status h] at hstatus
    omega
  | error e => exact Reports.isOrderly h e.code_ne_empty e.message_ne_empty

end HttpResponse

theorem HttpMethod.success_lt (method : HttpMethod) : method.success < 400 := by
  cases method <;> simp [success]

namespace HttpRequest

variable {r : HttpRequest} {route : Route} {services : List Service}

/-- A request that is refused in plain words. -/
inductive RefusedPlainly (r : HttpRequest) : Route → Prop where
  /-- An id in the path is no text. -/
  | garbledId {route : Route} {encoded : String} (mem : encoded ∈ route.ids)
      (garbled : Percent.segment? encoded = none) : RefusedPlainly r route
  /-- A provision whose flag is given twice or is no truth value. -/
  | unreadableFlag {encoded : String} (method : r.method = .put)
      (unreadable : ¬ r.HasFlag "accepts_incomplete") : RefusedPlainly r (.serviceInstance encoded)
  /-- A question that names its operation twice. -/
  | repeatedOperation {encoded : String} {m : Mismatch}
      (repeated : r.parameter "operation" = .error m) : RefusedPlainly r (.lastOperation encoded)

/-! ### Demands on a route -/

/-- The response that a part of a request comes to. -/
def Part.response : Part HttpResponse → HttpResponse
  | .ok response => response
  | .error response => response

theorem toResponse_eq (part : Part HttpResponse) : part.toResponse = .response part.response := by
  cases part <;> rfl

/-- The handler that a request to a route comes to, and what is demanded there. -/
inductive Handled (r : HttpRequest) (services : List Service) : Route → Demand → Prop where
  | read {route : Route} {part : Part HttpResponse} (read : r.read services route = some part) :
      Handled r services route (.response part.response)
  /-- What reads a resource can be asked without a body. -/
  | head {route : Route} {part : Part HttpResponse} (read : r.read services route = some part) :
      Handled r services route (.response part.response.withoutBody)
  | provision {encoded : String} (method : r.method = .put) :
      Handled r services (.serviceInstance encoded) (r.provision encoded).toDemand
  | update {encoded : String} (method : r.method = .patch) :
      Handled r services (.serviceInstance encoded) (r.update encoded).toResponse
  | deprovision {encoded : String} (method : r.method = .delete) :
      Handled r services (.serviceInstance encoded) (r.deprovision encoded).toDemand
  | bind {outer inner : String} (method : r.method = .put) :
      Handled r services (.binding outer inner) (r.bind outer inner).toDemand
  | unbind {outer inner : String} (method : r.method = .delete) :
      Handled r services (.binding outer inner) (r.unbind outer inner).toDemand

theorem handled_of_read {part : Part HttpResponse} {services : List Service}
    (hmethod : r.method = .get ∨ r.method = .head) (hread : r.read services route = some part) :
    ∃ demand, r.demandOn? services route = some demand ∧ r.Handled services route demand := by
  rcases hmethod with hmethod | hmethod
  · refine ⟨_, ?_, .read hread⟩
    simp only [demandOn?, hmethod, hread, Option.map_some, toResponse_eq]
  · refine ⟨_, ?_, .head hread⟩
    simp only [demandOn?, hmethod, hread, Option.map_some]
    cases part <;> rfl

/-- **A request to a route that offers its method is handled.** -/
theorem handled (hroute : Route.ofPath? r.path = some route) (hoffered : r.method ∈ route.methods)
    (services : List Service) : r.Handled services route (r.demand services) := by
  -- by routes, and on a route by the methods that it offers
  have hon : ∃ demand, r.demandOn? services route = some demand ∧ r.Handled services route demand := by
    cases route <;> simp only [Route.methods, List.mem_cons, List.not_mem_nil, or_false] at hoffered
    case health => exact handled_of_read hoffered rfl
    case catalog => exact handled_of_read hoffered rfl
    case lastOperation encoded => exact handled_of_read hoffered rfl
    case serviceInstance encoded =>
      rcases hoffered with hmethod | hmethod | hmethod
      · exact ⟨_, by simp only [demandOn?, hmethod], .provision hmethod⟩
      · exact ⟨_, by simp only [demandOn?, hmethod], .update hmethod⟩
      · exact ⟨_, by simp only [demandOn?, hmethod], .deprovision hmethod⟩
    case binding outer inner =>
      rcases hoffered with hmethod | hmethod
      · exact ⟨_, by simp only [demandOn?, hmethod], .bind hmethod⟩
      · exact ⟨_, by simp only [demandOn?, hmethod], .unbind hmethod⟩
  obtain ⟨demand, hdemand, hhandled⟩ := hon
  rw [demand_of_route hroute hdemand]
  exact hhandled

/-! ### Refusals -/

theorem ofText_refuses (text : String) : (HttpResponse.ofText 400 text).RefusesPlainly :=
  ⟨rfl, rfl, fun _ h => nomatch h⟩

/-- Words that are not sent are no report either. -/
theorem refuses_withoutBody {response : HttpResponse} (h : response.RefusesPlainly) :
    response.withoutBody.RefusesPlainly :=
  ⟨h.status, h.contentType, fun _ hbody => nomatch hbody⟩

theorem lastOperation_refuses {encoded : String} (h : r.RefusedPlainly (.lastOperation encoded)) :
    (r.lastOperation encoded).response.RefusesPlainly := by
  unfold HttpRequest.lastOperation
  rcases hid : Percent.segment? encoded with _ | id
  · rw [idPart_of_none hid]
    exact ofText_refuses _
  · -- the id is text, so the question must name its operation twice
    rw [idPart_eq_ok_iff.2 hid]
    cases h with
    | garbledId mem garbled =>
      rw [List.mem_singleton.1 mem] at garbled
      cases hid.symm.trans garbled
    | repeatedOperation repeated =>
      unfold operationName
      rw [repeated]
      exact ofText_refuses _

/-- Of the resources that are read, only the last operation is ever refused. -/
theorem read_refuses {services : List Service} {part : Part HttpResponse}
    (hread : r.read services route = some part) (h : r.RefusedPlainly route) :
    part.response.RefusesPlainly := by
  cases route with
  | health => cases h with | garbledId mem garbled => cases mem
  | catalog => cases h with | garbledId mem garbled => cases mem
  | lastOperation encoded => exact Option.some.inj hread ▸ lastOperation_refuses h
  | serviceInstance encoded => cases hread
  | binding outer inner => cases hread

/-- A route of one instance is refused for its id, or as a provision for its flag. -/
theorem RefusedPlainly.of_serviceInstance {encoded : String}
    (h : r.RefusedPlainly (.serviceInstance encoded)) :
    Percent.segment? encoded = none ∨ r.method = .put ∧ ¬ r.HasFlag "accepts_incomplete" := by
  cases h with
  | garbledId mem garbled => exact .inl (List.mem_singleton.1 mem ▸ garbled)
  | unreadableFlag method unreadable => exact .inr ⟨method, unreadable⟩

theorem RefusedPlainly.segment_of_ne {encoded : String}
    (h : r.RefusedPlainly (.serviceInstance encoded)) (hmethod : r.method ≠ .put) :
    Percent.segment? encoded = none :=
  h.of_serviceInstance.resolve_right fun hflag => hmethod hflag.1

theorem RefusedPlainly.of_binding {outer inner : String} (h : r.RefusedPlainly (.binding outer inner)) :
    Percent.segment? outer = none ∨ Percent.segment? inner = none := by
  cases h with
  | garbledId mem garbled =>
    simp only [Route.ids, List.mem_cons, List.not_mem_nil, or_false] at mem
    rcases mem with rfl | rfl
    · exact .inl garbled
    · exact .inr garbled

theorem provision_refuses {encoded : String} (h : r.RefusedPlainly (.serviceInstance encoded)) :
    ∃ response, r.provision encoded = .error response ∧ response.RefusesPlainly := by
  unfold HttpRequest.provision
  rcases hid : Percent.segment? encoded with _ | id
  · rw [idPart_of_none hid]
    exact ⟨_, rfl, ofText_refuses _⟩
  · -- the id is text, so it is the flag
    have hflag := h.of_serviceInstance.resolve_left fun hnone => nomatch hid.symm.trans hnone
    obtain ⟨-, text, hrefused⟩ := r.asyncFlag_cases.resolve_left fun hhas => hflag.2 hhas.1
    rw [idPart_eq_ok_iff.2 hid, hrefused]
    exact ⟨_, rfl, ofText_refuses _⟩

/-- Two ids in a path, one of which is no text. -/
theorem idParts_refuse {outer inner : String} {α : Type} (rest : String → String → Part α)
    (h : Percent.segment? outer = none ∨ Percent.segment? inner = none) :
    ∃ response, (do
        let instanceId ← idPart "instance_id" outer
        let bindingId ← idPart "binding_id" inner
        rest instanceId bindingId) = .error response ∧
      response.RefusesPlainly := by
  rcases houter : Percent.segment? outer with _ | id
  · rw [idPart_of_none houter]
    exact ⟨_, rfl, ofText_refuses _⟩
  · -- the outer id is text and is read first, so it is the inner one
    have hinner := h.resolve_left fun hnone => nomatch houter.symm.trans hnone
    rw [idPart_eq_ok_iff.2 houter, idPart_of_none hinner]
    exact ⟨_, rfl, ofText_refuses _⟩

theorem bind_refuses {outer inner : String} (h : r.RefusedPlainly (.binding outer inner)) :
    ∃ response, r.bind outer inner = .error response ∧ response.RefusesPlainly :=
  idParts_refuse (fun instanceId bindingId => do
    let details ← r.details BindDetails.shape.codec
    .ok (Operation.bind instanceId bindingId details)) h.of_binding

theorem unbind_refuses {outer inner : String} (h : r.RefusedPlainly (.binding outer inner)) :
    ∃ response, r.unbind outer inner = .error response ∧ response.RefusesPlainly :=
  idParts_refuse (fun instanceId bindingId => do
    let ids ← r.serviceAndPlan
    .ok (Operation.unbind instanceId bindingId ⟨ids.1, ids.2⟩)) h.of_binding

/-- **Three kinds of requests are refused in plain words.** -/
theorem Handled.refused {services : List Service} {demand : Demand}
    (h : r.Handled services route demand) (hrefused : r.RefusedPlainly route) :
    ∃ response, demand = .response response ∧ response.RefusesPlainly := by
  -- by handlers; each of them reads the ids before anything else
  cases h with
  | read hread => exact ⟨_, rfl, read_refuses hread hrefused⟩
  | head hread => exact ⟨_, rfl, refuses_withoutBody (read_refuses hread hrefused)⟩
  | provision hmethod =>
    obtain ⟨response, hpart, hrefuses⟩ := provision_refuses hrefused
    rw [hpart]
    exact ⟨response, rfl, hrefuses⟩
  | update hmethod =>
    have hid := hrefused.segment_of_ne (by rw [hmethod]; decide)
    unfold HttpRequest.update
    rw [idPart_of_none hid]
    exact ⟨_, rfl, ofText_refuses _⟩
  | deprovision hmethod =>
    have hid := hrefused.segment_of_ne (by rw [hmethod]; decide)
    unfold HttpRequest.deprovision
    rw [idPart_of_none hid]
    exact ⟨_, rfl, ofText_refuses _⟩
  | bind hmethod =>
    obtain ⟨response, hpart, hrefuses⟩ := bind_refuses hrefused
    rw [hpart]
    exact ⟨response, rfl, hrefuses⟩
  | unbind hmethod =>
    obtain ⟨response, hpart, hrefuses⟩ := unbind_refuses hrefused
    rw [hpart]
    exact ⟨response, rfl, hrefuses⟩

/-! ### Everything else -/

/-- A request that addresses a target becomes a call, or it is answered in an orderly way. -/
theorem Addresses.orderly {target : Target} (h : r.Addresses target) (services : List Service) :
    (∃ operation, r.demand services = .operation operation) ∨
      ∃ response, r.demand services = .response response ∧ response.IsOrderly := by
  rcases h.fulfills services with ⟨call, -, hmakes⟩ | ⟨-, description, hne, hdemand⟩
  · generalize r.demand services = demand at hmakes
    cases hmakes with
    | operation operation => exact .inl ⟨operation, rfl⟩
    | update answers => exact .inr ⟨_, rfl, answers.isOrderly (by decide)⟩
  · -- no details can be read, and that is reported as a malformed request
    have hreports := HttpResponse.malformedRequest_reports description
    exact .inr ⟨_, hdemand, hreports.isOrderly (show "MalformedRequest" ≠ "" by decide) hne⟩

theorem isOrderly_of_success {response : HttpResponse} (h : response.status = 200) :
    response.IsOrderly := fun hstatus => by
  rw [h] at hstatus
  omega

/-- Ids are text unless the request is refused. -/
theorem exists_segment {encoded : String} (h : ¬ r.RefusedPlainly route) (hmem : encoded ∈ route.ids) :
    ∃ id, Percent.segment? encoded = some id := by
  rcases hid : Percent.segment? encoded with _ | id
  · exact absurd (.garbledId hmem hid) h
  · exact ⟨id, rfl⟩

/-- A question about the last operation always has an answer. -/
theorem lastOperation_succeeds {encoded : String} (h : ¬ r.RefusedPlainly (.lastOperation encoded)) :
    (r.lastOperation encoded).response.status = 200 := by
  obtain ⟨id, hid⟩ := exists_segment h List.mem_cons_self
  unfold HttpRequest.lastOperation
  rw [idPart_eq_ok_iff.2 hid]
  unfold operationName
  rcases hoperation : r.parameter "operation" with m | operation
  · exact absurd (.repeatedOperation hoperation) h
  · rfl

/-- What is read without being refused is there. -/
theorem read_succeeds {services : List Service} {part : Part HttpResponse}
    (hread : r.read services route = some part) (h : ¬ r.RefusedPlainly route) :
    part.response.status = 200 := by
  cases route with
  | health => exact Option.some.inj hread ▸ rfl
  | catalog => exact Option.some.inj hread ▸ rfl
  | lastOperation encoded => exact Option.some.inj hread ▸ lastOperation_succeeds h
  | serviceInstance encoded => cases hread
  | binding outer inner => cases hread

/-- A request that changes something and is not refused addresses a target. -/
theorem Handled.addresses {services : List Service} {demand : Demand}
    (h : r.Handled services route demand) (hroute : Route.ofPath? r.path = some route)
    (haccepted : ¬ r.RefusedPlainly route) :
    (∃ target, r.Addresses target) ∨ ∃ response, demand = .response response ∧ response.status = 200 := by
  -- what only reads has its answer; what changes something has all the parts of a target
  cases h with
  | read hread => exact .inr ⟨_, rfl, read_succeeds hread haccepted⟩
  | head hread => exact .inr ⟨_, rfl, read_succeeds hread haccepted⟩
  | provision hmethod =>
    obtain ⟨id, hid⟩ := exists_segment haccepted List.mem_cons_self
    have hflag : r.HasFlag "accepts_incomplete" := by
      by_contra hunreadable
      exact haccepted (.unreadableFlag hmethod hunreadable)
    exact .inl ⟨_, .provision hmethod hroute hid hflag⟩
  | update hmethod =>
    obtain ⟨id, hid⟩ := exists_segment haccepted List.mem_cons_self
    exact .inl ⟨_, .update hmethod hroute hid⟩
  | deprovision hmethod =>
    obtain ⟨id, hid⟩ := exists_segment haccepted List.mem_cons_self
    exact .inl ⟨_, .deprovision hmethod hroute hid⟩
  | bind hmethod =>
    obtain ⟨instanceId, hinstance⟩ := exists_segment haccepted List.mem_cons_self
    obtain ⟨bindingId, hbinding⟩ := exists_segment haccepted (List.mem_cons_of_mem _ List.mem_cons_self)
    exact .inl ⟨_, .bind hmethod hroute hinstance hbinding⟩
  | unbind hmethod =>
    obtain ⟨instanceId, hinstance⟩ := exists_segment haccepted List.mem_cons_self
    obtain ⟨bindingId, hbinding⟩ := exists_segment haccepted (List.mem_cons_of_mem _ List.mem_cons_self)
    exact .inl ⟨_, .unbind hmethod hroute hinstance hbinding⟩

/-- **All other requests become a call, or are answered in an orderly way.** -/
theorem demand_accepted (hroute : Route.ofPath? r.path = some route)
    (hoffered : r.method ∈ route.methods) (h : ¬ r.RefusedPlainly route) (services : List Service) :
    (∃ operation, r.demand services = .operation operation) ∨
      ∃ response, r.demand services = .response response ∧ response.IsOrderly := by
  rcases (handled hroute hoffered services).addresses hroute h with
    ⟨target, haddresses⟩ | ⟨response, hdemand, hsuccess⟩
  · exact haddresses.orderly services
  · exact .inr ⟨response, hdemand, isOrderly_of_success hsuccess⟩

end HttpRequest

/-! ### The errors of a gateway -/

namespace Gateway

variable {g : Gateway} {r : HttpRequest} {route : Route}

/-- The response to a request that is not refused in plain words is orderly, whenever it comes. -/
theorem isOrderly_of_response (hroute : Route.ofPath? r.path = some route)
    (hoffered : r.method ∈ route.methods) (h : ¬ r.RefusedPlainly route) {traffic : List Traffic}
    {response : HttpResponse}
    (hresponse : ((g.receive r).run traffic).response? g.receipts.length = some response) :
    response.IsOrderly := by
  rcases HttpRequest.demand_accepted hroute hoffered h g.session.broker.services with
    ⟨operation, hdemand⟩ | ⟨given, hdemand, horderly⟩
  · -- the request has become a call, and the response is that of its result
    obtain ⟨target, haddresses, hasks⟩ := HttpRequest.addresses_of_operation hdemand
    have hfollows := follows_of_demand haddresses hasks hdemand
    obtain ⟨progress, hcall⟩ := hfollows.held traffic
    -- as long as the call waits there is no response
    cases progress with
    | waiting address w =>
      rw [hfollows.pending traffic address w hcall] at hresponse
      cases hresponse
    | finished result =>
      obtain ⟨given, hgiven, hanswers⟩ := hfollows.replied traffic result hcall
      rw [hgiven] at hresponse
      cases hresponse
      exact hanswers.isOrderly r.method.success_lt
  · -- answered at once, and nothing that happens later changes the answer
    rw [(repliesAtOnce_of_demand hdemand).replied traffic] at hresponse
    cases hresponse
    exact horderly

/-- **Which errors are reported.** Whatever state the session is in, and whatever happens until the
response is there: if a request to a route that offers its method is answered with an error, the
response is an `ErrorBody` with a code and a description, exactly unless it is a request that is
refused in plain words. Such a request is answered at once, and not with an `ErrorBody`. -/
theorem reports_errors (g : Gateway) (r : HttpRequest) (route : Route)
    (hroute : Route.ofPath? r.path = some route) (hoffered : r.method ∈ route.methods) :
    (∀ traffic response,
      ((g.receive r).run traffic).response? g.receipts.length = some response →
      400 ≤ response.status →
      ((∃ body, response.Reports response.status body ∧ body.error ≠ "" ∧ body.description ≠ "") ↔
        ¬ r.RefusedPlainly route)) ∧
    (r.RefusedPlainly route → ∃ response, g.RepliesAtOnce r response ∧ response.RefusesPlainly) := by
  have hrefused : r.RefusedPlainly route →
      ∃ response, g.RepliesAtOnce r response ∧ response.RefusesPlainly := by
    intro h
    obtain ⟨response, hdemand, hrefuses⟩ :=
      (HttpRequest.handled hroute hoffered g.session.broker.services).refused h
    exact ⟨response, repliesAtOnce_of_demand hdemand, hrefuses⟩
  refine ⟨fun traffic response hresponse hstatus => ⟨?_, fun h => ?_⟩, hrefused⟩
  · -- an error in plain words would be an error body as well
    rintro ⟨body, hreports, -⟩ h
    obtain ⟨given, hreplies, hrefuses⟩ := hrefused h
    rw [hreplies.replied traffic] at hresponse
    cases hresponse
    exact hrefuses.not_reports _ _ hreports
  · exact isOrderly_of_response hroute hoffered h hresponse hstatus

/-- Every error is reported, whatever the request is. -/
def ReportsAll : Prop :=
  ∀ (g : Gateway) (r : HttpRequest) (route : Route), Route.ofPath? r.path = some route →
    r.method ∈ route.methods → ∀ traffic response,
      ((g.receive r).run traffic).response? g.receipts.length = some response →
      400 ≤ response.status → ∃ body, response.Reports response.status body

end Gateway

namespace PlainRefusal

/-- A provision whose flag is no truth value. -/
def request : HttpRequest :=
  ⟨.put, "/v2/service_instances/i?accepts_incomplete=maybe", some "application/json", "\x7b\x7d"⟩

/-- A gateway to a broker without services. -/
def gateway : Gateway := ⟨.opened ⟨⟨.empty, []⟩, .empty, .new .memory⟩ .empty, []⟩

theorem route_request : Route.ofPath? request.path = some (.serviceInstance "i") := by
  decide +kernel

theorem refusedPlainly_request : request.RefusedPlainly (.serviceInstance "i") := by
  refine .unreadableFlag rfl ?_
  have hflag : request.parameter "accepts_incomplete" = .ok (some "maybe") := rfl
  unfold HttpRequest.HasFlag
  rw [hflag]
  simp

theorem route_tangled : Route.ofPath? Removals.tangled.path = some (.serviceInstance "i") := by
  decide +kernel

theorem not_refusedPlainly_tangled : ¬ Removals.tangled.RefusedPlainly (.serviceInstance "i") := by
  intro h
  rcases h.of_serviceInstance with hgarbled | ⟨hmethod, -⟩
  · have hid : Percent.segment? "i" = some "i" := by decide +kernel
    cases hid.symm.trans hgarbled
  · cases hmethod

/-- The provision is refused in plain words, and a request that names two plans is reported. -/
theorem gateway_errors :
    (∃ response, gateway.RepliesAtOnce request response ∧ response.RefusesPlainly) ∧
      ∃ response body, gateway.RepliesAtOnce Removals.tangled response ∧
        response.Reports response.status body ∧ body.error ≠ "" ∧ body.description ≠ "" := by
  obtain ⟨-, hrefused⟩ := gateway.reports_errors request _ route_request List.mem_cons_self
  obtain ⟨herrors, -⟩ := gateway.reports_errors Removals.tangled _ route_tangled
    (List.mem_cons_of_mem _ (List.mem_cons_of_mem _ List.mem_cons_self))
  refine ⟨hrefused refusedPlainly_request, ?_⟩
  rcases Removals.addresses_tangled.fulfills gateway.session.broker.services with
    ⟨call, hasks, -⟩ | ⟨-, description, -, hdemand⟩
  · exact absurd hasks (Removals.not_asks_tangled call)
  · have hreplies := Gateway.repliesAtOnce_of_demand hdemand
    obtain ⟨body, hreports⟩ :=
      (herrors [] _ (hreplies.replied []) (Nat.le_refl 400)).2 not_refusedPlainly_tangled
    exact ⟨_, body, hreplies, hreports⟩

/-- So not every error is reported. -/
theorem not_reportsAll : ¬ Gateway.ReportsAll := by
  intro hall
  obtain ⟨response, hdemand, hrefuses⟩ := (HttpRequest.handled route_request List.mem_cons_self
    gateway.session.broker.services).refused refusedPlainly_request
  have hreplies := Gateway.repliesAtOnce_of_demand hdemand
  obtain ⟨body, hreports⟩ := hall gateway request _ route_request List.mem_cons_self [] response
    (hreplies.replied []) (hrefuses.status ▸ Nat.le_refl 400)
  exact hrefuses.not_reports _ _ hreports

end PlainRefusal

end VolumeBroker
