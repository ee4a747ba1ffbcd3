import VolumeBroker.Proofs.Api.Targets
import VolumeBroker.Proofs.Session.Replies
/-!
# The broker behind its routes

A `Gateway` is a session whose calls come in as requests. A request is answered at once, or it becomes
a call of the session and is answered with the result of that call, whenever the call has ended.
`Traffic` is what happens to a gateway: requests come in, and everything else that can happen to the
session happens.

`Gateway.refines_broker` says that nothing is added to the broker and nothing is lost of it. A request
that addresses a target (`HttpRequest.Addresses`) makes the one call that it asks for
(`HttpRequest.Asks`) and leaves what that call leaves; if it asks for none it touches nothing. Over
any traffic the session is the one that the broker's own calls would have made
(`Gateway.session_run`), and the response to a call is the document of its result or its error
(`Gateway.Follows`).
-/

namespace VolumeBroker

/-- The status of a success: what is put has been created. -/
def HttpMethod.success : HttpMethod → Nat
  | put => 201
  | _ => 200

/-- What has come of a request. -/
inductive Receipt where
  /-- It has been answered at once. -/
  | answered (response : HttpResponse)
  /-- It has become the call of this number. -/
  | called (call : Nat)

/-- A session whose calls come in as requests. -/
structure Gateway where
  session : Session
  /-- What has come of the requests, the first one first. -/
  receipts : List Receipt

/-- What can happen to a gateway. -/
inductive Traffic where
  | request (request : HttpRequest)
  /-- What happens to the session without a request. -/
  | event (event : Event)

namespace Gateway

/-- A request that is answered at once. -/
def answer (g : Gateway) (response : HttpResponse) : Gateway :=
  { g with receipts := g.receipts ++ [.answered response] }

/-- A request that becomes a call. -/
def call (g : Gateway) (operation : Operation) : Gateway :=
  ⟨g.session.handle (.arrival operation), g.receipts ++ [.called g.session.calls.length]⟩

/-- A request comes in. -/
def receive (g : Gateway) (r : HttpRequest) : Gateway :=
  match r.demand g.session.broker.services with
  | .response response => g.answer response
  | .operation operation => g.call operation

/-- What happens. -/
def handle (g : Gateway) : Traffic → Gateway
  | .request r => g.receive r
  | .event event => { g with session := g.session.handle event }

/-- What has happened after some traffic, the first first. -/
def run (g : Gateway) (traffic : List Traffic) : Gateway := traffic.foldl handle g

/-- The response to a request, if there is one yet; requests are numbered as they come in. -/
def response? (g : Gateway) (number : Nat) : Option HttpResponse :=
  match g.receipts[number]? with
  | none => none
  | some (.answered response) => some response
  | some (.called call) =>
    match g.session.calls[call]? with
    | some ⟨_, .finished result⟩ => some (.ofResult result)
    | _ => none

end Gateway

/-! ### The session behind a gateway -/

/-- The operation that a request demands, if it demands one. -/
def HttpRequest.operation? (r : HttpRequest) : Option Operation :=
  match r.demand [] with
  | .operation operation => some operation
  | .response _ => none

/-- What happens to the session: a request that demands an operation is a call that comes in. -/
def Traffic.event? : Traffic → Option Event
  | .request r => r.operation?.map .arrival
  | .event happening => some happening

/-- Whether an operation is demanded does not depend on the services on offer. -/
theorem HttpRequest.demand_congr {r : HttpRequest} {services others : List Service}
    {operation : Operation} (h : r.demand services = .operation operation) :
    r.demand others = .operation operation := by
  obtain ⟨target, haddresses, hasks⟩ := addresses_of_operation h
  rcases haddresses.fulfills others with ⟨call, hcall, hmakes⟩ | ⟨hnone, -⟩
  · obtain rfl := hcall.unique hasks
    generalize r.demand others = demand at hmakes
    cases hmakes
    rfl
  · exact absurd hasks (hnone _)

theorem HttpRequest.operation?_eq_some_iff {r : HttpRequest} (services : List Service)
    {operation : Operation} :
    r.operation? = some operation ↔ r.demand services = .operation operation := by
  unfold HttpRequest.operation?
  refine ⟨fun h => ?_, fun h => by rw [demand_congr h]⟩
  split at h
  · next hdemand =>
    cases h
    exact demand_congr hdemand
  · cases h

namespace Gateway

variable {g : Gateway}

theorem session_handle (g : Gateway) (t : Traffic) :
    (g.handle t).session = g.session.run t.event?.toList := by
  cases t with
  | event event => rfl
  | request r =>
    have hiff := @HttpRequest.operation?_eq_some_iff r g.session.broker.services
    simp only [handle, receive, Traffic.event?]
    rcases hdemand : r.demand g.session.broker.services with response | operation
    · -- there is no operation, so nothing happens to the session
      have hnone : r.operation? = none := by
        rcases hoperation : r.operation? with _ | operation
        · rfl
        · cases hdemand.symm.trans (hiff.1 hoperation)
      rw [hnone]
      rfl
    · rw [hiff.2 hdemand]
      rfl

/-- **Over any traffic the session is that of the broker's own calls.** -/
theorem session_run (g : Gateway) (traffic : List Traffic) :
    (g.run traffic).session = g.session.run (traffic.filterMap Traffic.event?) := by
  unfold run
  -- by the traffic: each piece of it is one event of the session or none
  induction traffic generalizing g with
  | nil => rfl
  | cons t traffic ih =>
    rw [List.foldl_cons, ih, session_handle]
    rcases ht : t.event? with _ | event
    · rw [List.filterMap_cons_none ht]
      rfl
    · rw [List.filterMap_cons_some ht]
      rfl

/-! ### Receipts -/

/-- A receipt is kept. -/
theorem receipt_handle {number : Nat} {receipt : Receipt} (h : g.receipts[number]? = some receipt)
    (t : Traffic) : (g.handle t).receipts[number]? = some receipt := by
  have hkept : ∀ next : Receipt, (g.receipts ++ [next])[number]? = some receipt := fun next =>
    (List.getElem?_append_left (List.getElem?_eq_some_iff.1 h).1).trans h
  cases t with
  | event event => exact h
  | request r =>
    simp only [handle, receive]
    split
    · exact hkept _
    · exact hkept _

theorem receipt_run {number : Nat} {receipt : Receipt} (h : g.receipts[number]? = some receipt)
    (traffic : List Traffic) : (g.run traffic).receipts[number]? = some receipt := by
  unfold run
  induction traffic generalizing g with
  | nil => exact h
  | cons t traffic ih => exact ih (receipt_handle h t)

/-- A request is answered at once: the session stays as it is, and the response is there from then
on. -/
structure RepliesAtOnce (g : Gateway) (r : HttpRequest) (response : HttpResponse) : Prop where
  session : (g.receive r).session = g.session
  replied : ∀ traffic, ((g.receive r).run traffic).response? g.receipts.length = some response

theorem repliesAtOnce_of_demand {r : HttpRequest} {response : HttpResponse}
    (h : r.demand g.session.broker.services = .response response) : g.RepliesAtOnce r response := by
  have hreceive : g.receive r = g.answer response := by
    unfold receive
    rw [h]
  refine ⟨by rw [hreceive]; rfl, fun traffic => ?_⟩
  have hreceipt : (g.receive r).receipts[g.receipts.length]? = some (.answered response) := by
    rw [hreceive]
    exact List.getElem?_concat_length
  unfold response?
  rw [receipt_run hreceipt traffic]

/-- A request has become the call of an operation: the session is the one in which that call has come
in, and the response is that of its result as soon as there is one. -/
structure Follows (g : Gateway) (r : HttpRequest) (operation : Operation) : Prop where
  session : (g.receive r).session = g.session.handle (.arrival operation)
  held : ∀ traffic, ∃ progress,
    ((g.receive r).run traffic).session.calls[g.session.calls.length]? = some ⟨operation, progress⟩
  pending : ∀ traffic address w,
    ((g.receive r).run traffic).session.calls[g.session.calls.length]?
      = some ⟨operation, .waiting address w⟩ →
    ((g.receive r).run traffic).response? g.receipts.length = none
  replied : ∀ traffic result,
    ((g.receive r).run traffic).session.calls[g.session.calls.length]?
      = some ⟨operation, .finished result⟩ →
    ∃ response, ((g.receive r).run traffic).response? g.receipts.length = some response ∧
      response.Answers r.method.success (result.map Reply.document)

/-- A reply is sent as its document. -/
theorem ofReply_body (reply : Reply) : (HttpResponse.ofReply reply).body = .json reply.document := by
  cases reply with
  | provisioned answer => exact congrArg HttpBody.json answer.toJson_eq
  | deprovisioned answer => exact congrArg HttpBody.json answer.toJson_eq
  | bound binding => exact congrArg HttpBody.json binding.toJson_eq
  | unbound => rfl

/-- The status of a success is that of the method: what is put has been created. -/
theorem ofReply_carries {r : HttpRequest} {target : Target} {operation : Operation} {reply : Reply}
    (haddresses : r.Addresses target) (hasks : r.Asks target (.operation operation))
    (hfits : reply.Fits operation) :
    (HttpResponse.ofReply reply).Carries r.method.success reply.document := by
  have hbody := ofReply_body reply
  -- by targets; what is asked for fixes the reply, and the target fixes the method
  cases hasks with
  | provision body =>
    cases haddresses with
    | provision method =>
      cases hfits
      rw [method]
      exact ⟨rfl, rfl, hbody⟩
  | deprovision query =>
    cases haddresses with
    | deprovision method =>
      cases hfits
      rw [method]
      exact ⟨rfl, rfl, hbody⟩
  | bind body =>
    cases haddresses with
    | bind method =>
      cases hfits
      rw [method]
      exact ⟨rfl, rfl, hbody⟩
  | unbind query =>
    cases haddresses with
    | unbind method =>
      cases hfits
      rw [method]
      exact ⟨rfl, rfl, hbody⟩

theorem follows_of_demand {r : HttpRequest} {target : Target} {operation : Operation}
    (haddresses : r.Addresses target) (hasks : r.Asks target (.operation operation))
    (h : r.demand g.session.broker.services = .operation operation) : g.Follows r operation := by
  have hreceive : g.receive r = g.call operation := by
    unfold receive
    rw [h]
  have hreceipt : (g.receive r).receipts[g.receipts.length]? = some (.called g.session.calls.length) := by
    rw [hreceive]
    exact List.getElem?_concat_length
  -- the session holds the call from now on
  have hholds : ∀ traffic,
      ((g.receive r).run traffic).session.Holds g.session.calls.length operation := by
    intro traffic
    rw [session_run, hreceive]
    exact (g.session.holds_arrival operation).run _
  refine ⟨by rw [hreceive]; rfl, fun traffic => ?_, fun traffic address w hcall => ?_,
    fun traffic result hcall => ?_⟩
  · obtain ⟨progress, hcall, -⟩ := hholds traffic
    exact ⟨progress, hcall⟩
  · -- as long as it waits there is nothing to answer with
    unfold response?
    rw [receipt_run hreceipt traffic]
    dsimp only
    rw [hcall]
  · refine ⟨.ofResult result, ?_, ?_⟩
    · unfold response?
      rw [receipt_run hreceipt traffic]
      dsimp only
      rw [hcall]
    · obtain ⟨progress, hcall', hfits⟩ := hholds traffic
      obtain rfl : progress = .finished result := by
        rw [hcall] at hcall'
        exact (Call.mk.inj (Option.some.inj hcall')).2.symm
      -- an error is reported as it is, and a reply is one that belongs to the operation
      cases result with
      | error e => exact HttpResponse.ofError_answers _ e
      | ok reply => exact ofReply_carries haddresses hasks (hfits.reply reply rfl)

/-! ### The gateway refines the broker -/

/-- What a gateway does with the call that a request asks for. -/
def Performs (g : Gateway) (r : HttpRequest) : BrokerCall → Prop
  | .operation operation => g.Follows r operation
  | .update id details => ∃ response, g.RepliesAtOnce r response ∧
      response.Answers r.method.success ((Broker.update id details).map Updated.document)

theorem performs_of_makes {r : HttpRequest} {target : Target} {call : BrokerCall}
    (haddresses : r.Addresses target) (hasks : r.Asks target call)
    (hmakes : (r.demand g.session.broker.services).Makes call) : g.Performs r call := by
  generalize hdemand : r.demand g.session.broker.services = demand at hmakes
  cases hmakes with
  | operation operation => exact follows_of_demand haddresses hasks hdemand
  -- an update has been answered already
  | update answers =>
    refine ⟨_, repliesAtOnce_of_demand hdemand, ?_⟩
    cases hasks with
    | update body =>
      cases haddresses with
      | update method =>
        rw [method]
        exact answers

/-- **The gateway refines the broker.** Whatever state the session is in, a request that addresses a
target but brings no details that can be read is malformed and touches nothing. Any other makes the one
call that it asks for, with the decoded ids and details, and is answered with the result of that call.
Over any traffic the session is the one that these calls make by themselves, and only requests that
address a target and ask for an operation make one. -/
theorem refines_broker (g : Gateway) :
    (∀ r target, r.Addresses target → (∀ call, ¬ r.Asks target call) →
      ∃ response description, g.RepliesAtOnce r response ∧ description ≠ "" ∧
        response.Reports 400 ⟨"MalformedRequest", description⟩) ∧
    (∀ r target call, r.Addresses target → r.Asks target call →
      (∀ other, r.Asks target other → other = call) ∧ g.Performs r call) ∧
    (∀ traffic, (g.run traffic).session = g.session.run (traffic.filterMap Traffic.event?)) ∧
    ∀ (r : HttpRequest) operation, r.operation? = some operation ↔
      ∃ target, r.Addresses target ∧ r.Asks target (.operation operation) := by
  refine ⟨fun r target haddresses hnone => ?_, fun r target call haddresses hasks => ?_,
    g.session_run, fun r operation => ⟨fun h => ?_, fun h => ?_⟩⟩
  · rcases haddresses.fulfills g.session.broker.services with
      ⟨call, hasks, -⟩ | ⟨-, description, hne, hdemand⟩
    · exact absurd hasks (hnone call)
    · exact ⟨_, description, repliesAtOnce_of_demand hdemand, hne,
        HttpResponse.malformedRequest_reports description⟩
  · -- a request asks for one call at most, so the call that it makes is the one it asks for
    refine ⟨fun other hother => hother.unique hasks, ?_⟩
    rcases haddresses.fulfills g.session.broker.services with ⟨call', hasks', hmakes⟩ | ⟨hnone, -⟩
    · obtain rfl := hasks'.unique hasks
      exact performs_of_makes haddresses hasks hmakes
    · exact absurd hasks (hnone call)
  · exact HttpRequest.addresses_of_operation ((HttpRequest.operation?_eq_some_iff []).1 h)
  · obtain ⟨target, haddresses, hasks⟩ := h
    rcases haddresses.fulfills [] with ⟨call, hasks', hmakes⟩ | ⟨hnone, -⟩
    · obtain rfl := hasks'.unique hasks
      refine (HttpRequest.operation?_eq_some_iff []).2 ?_
      generalize r.demand [] = demand at hmakes
      cases hmakes
      rfl
    · exact absurd hasks (hnone _)

end Gateway

namespace Removals

/-- A request to take away an instance with a slash in its id. -/
def request : HttpRequest :=
  ⟨.delete, "/v2/service_instances/i%2Fj?service_id=svc&plan_id=plan", none, ""⟩

/-- A request that names two plans. -/
def tangled : HttpRequest := ⟨.delete, "/v2/service_instances/i?plan_id=a&plan_id=b", none, ""⟩

theorem addresses_request : request.Addresses (.deprovision "i/j") :=
  @HttpRequest.Addresses.deprovision request "i%2Fj" "i/j" rfl (by decide +kernel) (by decide +kernel)

theorem asks_request :
    request.Asks (.deprovision "i/j") (.operation (.deprovision "i/j" ⟨"svc", "plan"⟩)) :=
  .deprovision ⟨some "svc", some "plan", rfl, rfl, rfl, rfl⟩

theorem addresses_tangled : tangled.Addresses (.deprovision "i") :=
  @HttpRequest.Addresses.deprovision tangled "i" "i" rfl (by decide +kernel) (by decide +kernel)

theorem not_asks_tangled (call : BrokerCall) : ¬ tangled.Asks (.deprovision "i") call := by
  intro hasks
  cases hasks with
  | deprovision query =>
    obtain ⟨service, plan, -, hplan, -⟩ := query
    have htwice : tangled.parameter "plan_id" = .error (.duplicateField "plan_id") := rfl
    cases hplan.symm.trans htwice

/-- The first request becomes a call with the decoded id, and the second one is malformed. -/
theorem gateway_refines :
    let g : Gateway := ⟨.opened ⟨⟨.empty, []⟩, .empty, .new .memory⟩ .empty, []⟩
    g.Follows request (.deprovision "i/j" ⟨"svc", "plan"⟩) ∧
      ∃ response description, g.RepliesAtOnce tangled response ∧
        response.Reports 400 ⟨"MalformedRequest", description⟩ := by
  intro g
  obtain ⟨hmalformed, hcall, -⟩ := g.refines_broker
  obtain ⟨response, description, hreplies, -, hreports⟩ :=
    hmalformed tangled _ addresses_tangled not_asks_tangled
  obtain ⟨-, hfollows⟩ := hcall request _ _ addresses_request asks_request
  exact ⟨hfollows, response, description, hreplies, hreports⟩

end Removals

end VolumeBroker
