import ObservabilityLab.Agent.Schemas
import ObservabilityLab.Support.Service
import ObservabilityLab.Telemetry.Allowlist

/-!
# The guards of the agent's tools

One service for one authenticated customer and one turn. The model chooses the arguments of the
tools; ownership, eligibility and confirmation are checked here.

## Main definitions

* `TraceSpan`, `span`: the spans that a turn records, with the attributes that a listener reads
* `ServiceState`, `Turn`: the mutable state of the service and of the turn
* `SupportAgentService`: the service; `getOrderStatus`, `getPolicy`, `proposeRefund`,
  `confirmRefund` and `escalate` are its tools

## Main results

* `getOrderStatus_triple`, `getPolicy_triple`, `proposeRefund_triple`, `confirmRefund_triple`,
  `escalate_triple`: what each tool does to the rows and to the service
-/

namespace ObservabilityLab

open Python Raising

/-! ## Schemas -/

/-- The model's routing of a request. -/
structure RoutingDecision where
  intent : RouteIntent
  orderId : Option Uuid := none

/-- A refund that awaits explicit confirmation. -/
structure RefundProposal where
  proposalId : Uuid
  orderId : Uuid
  customerId : Uuid
  amount : Decimal
  policyVersion : String

structure Escalation where
  ticketId : Uuid
  reasonCode : ReasonCode

def acceptedPolicyVersion : String := "2026-07-30"

def policySlug : String := "refund-and-delivery"

def refundNotConfirmed : PyError :=
  .domain "refund_not_confirmed" "The refund was not explicitly confirmed" 409

/-! ## Spans -/

/-- One span, with its allowlisted attributes. -/
structure TraceSpan where
  name : String
  attributes : Record := []
  errorCode : Option String := none

namespace TraceSpan

def setAttribute (span : TraceSpan) (name : String) (value : PyValue) : TraceSpan :=
  -- the names that a turn sets are allowlisted, and its recorder has no forbidden texts
  match sanitizeValue [] value with
  | some clean =>
    { span with attributes := (name, clean.toPy) :: span.attributes.filter (·.1 ≠ name) }
  | none => span

def setError (span : TraceSpan) (reasonCode : String) : TraceSpan :=
  { span with errorCode := some reasonCode }

end TraceSpan

/-- The spans of a recorder: the innermost open one, and the ended ones in order. -/
structure Telemetry where
  current : Option TraceSpan := none
  ended : List TraceSpan := []

namespace Telemetry

variable (telemetry : Telemetry)

def enter (name : String) : Telemetry := { telemetry with current := some { name := name } }

/-- Change the innermost open span. -/
def onSpan (f : TraceSpan → TraceSpan) : Telemetry :=
  { telemetry with current := telemetry.current.map f }

/-- End the innermost open span, inside the span that was open around it. -/
def leave (name : String) (outer : Option TraceSpan) : Telemetry where
  current := outer
  ended := telemetry.ended ++ [{ telemetry.current.getD { name := name } with name := name }]

end Telemetry

/-! ## The state of a turn -/

/-- The mutable fields of a service. -/
structure ServiceState where
  pendingProposals : Uuid → Option RefundProposal := fun _ => none
  confirmedOrderIds : List Uuid := []
  toolCalls : List String := []
  retrievedPolicyVersion : Option String := none
  lastToolError : Option ReasonCode := none
  lastOrder : Option OrderRead := none
  lastPolicy : Option PolicyDocumentRead := none
  lastTicket : Option TicketRead := none
  lastEscalation : Option Escalation := none
  /-- How many identifiers of proposals were drawn. -/
  proposalsDrawn : ℕ := 0

namespace ServiceState

variable (state : ServiceState)

def pendingProposal (orderId : Option Uuid) : Option RefundProposal :=
  orderId.bind state.pendingProposals

/-- The confirmed refund of an order, if it is also the order that the service saw last. -/
def confirmedRefundFor : Option Uuid → Option OrderRead
  | none => none
  | some orderId =>
    if orderId ∉ state.confirmedOrderIds then none
    else state.lastOrder.filter (·.id = orderId)

/-- The state after a proposal. -/
def proposed (order : OrderRead) (proposal : RefundProposal) : ServiceState :=
  { state with
    lastOrder := some order
    pendingProposals := Function.update state.pendingProposals order.id (some proposal)
    proposalsDrawn := state.proposalsDrawn + 1
    lastToolError := none }

/-- The state after a confirmed refund. -/
def confirmed (orderId : Uuid) (refunded : OrderRead) : ServiceState :=
  { state with
    pendingProposals := Function.update state.pendingProposals orderId none
    confirmedOrderIds := orderId :: state.confirmedOrderIds
    lastOrder := some refunded
    lastToolError := none }

@[simp] theorem pendingProposals_proposed (order : OrderRead) (proposal : RefundProposal)
    (id : Uuid) : (state.proposed order proposal).pendingProposals id =
      if id = order.id then some proposal else state.pendingProposals id :=
  Function.update_apply ..

@[simp] theorem pendingProposals_confirmed (orderId : Uuid) (refunded : OrderRead) (id : Uuid) :
    (state.confirmed orderId refunded).pendingProposals id =
      if id = orderId then none else state.pendingProposals id :=
  Function.update_apply ..

/-- The state after an escalation. -/
def escalated (ticket : TicketRead) : ServiceState :=
  { state with
    lastTicket := some ticket
    lastEscalation := some ⟨ticket.id, .escalated⟩ }

/-- The error that a failed tool leaves behind: the one before it, or a reason of its own. -/
def FailsWith (reason : Option ReasonCode) : Prop :=
  reason = state.lastToolError ∨
    reason ∈ [some .refundBlockedForbidden, some .orderNotFound, some .refundBlockedIneligible,
      some .refundBlockedUnconfirmed]

end ServiceState

/-- A turn on a world. -/
structure Turn (World : Type) where
  world : World
  service : ServiceState := {}
  retryCount : ℕ := 0
  telemetry : Telemetry := {}

section Turns

variable {World α : Type}

/-- A call on the world of a turn. -/
def onWorld (x : Action World α) : Action (Turn World) α :=
  zoom Turn.world (fun world turn => { turn with world := world }) x

def updateService (f : ServiceState → ServiceState) : Action (Turn World) Unit :=
  modify fun turn => { turn with service := f turn.service }

def updateTelemetry (f : Telemetry → Telemetry) : Action (Turn World) Unit :=
  modify fun turn => { turn with telemetry := f turn.telemetry }

def setAttribute (name : String) (value : PyValue) : Action (Turn World) Unit :=
  updateTelemetry (·.onSpan (·.setAttribute name value))

def setError (reason : ReasonCode) : Action (Turn World) Unit :=
  updateTelemetry (·.onSpan (·.setError reason.value))

/-- `with recorder.span(name): ...`; the span ends whether the body returns or raises. -/
def span (name : String) (body : Action (Turn World) α) : Action (Turn World) α := do
  let outer := (← get).telemetry.current
  updateTelemetry (·.enter name)
  let result ← attempt body
  updateTelemetry (·.leave name outer)
  match result with
  | .ok a => return a
  | .error e => throw e

end Turns

theorem run_span {World α : Type} (name : String) (body : Action (Turn World) α)
    (turn : Turn World) :
    (span name body).run turn =
      match body.run { turn with telemetry := turn.telemetry.enter name } with
      | .ok a after => .ok a
        { after with telemetry := after.telemetry.leave name turn.telemetry.current }
      | .error e after => .error e
        { after with telemetry := after.telemetry.leave name turn.telemetry.current } := by
  change EStateM.run (attempt body >>= fun result => _) _ = _
  rw [EStateM.run_bind, run_attempt]
  cases body.run { turn with telemetry := turn.telemetry.enter name } with
  | ok a after => rfl
  | error e after => rfl

/-! ## The service -/

/-- A service for one customer. `proposalIds` are the identifiers that `uuid4()` draws for its
proposals. -/
structure SupportAgentService (World : Type) where
  repository : SupportRepository (Action World)
  customerId : Uuid
  refundConfirmed : Bool
  proposalIds : ℕ → Uuid

/-- The reason code that a failed proposal leaves behind. -/
def proposalError (error : PyError) : Option ReasonCode :=
  if error = forbidden then some .refundBlockedForbidden
  else if error = orderNotFound then some .orderNotFound
  else if error = invalidTransition then some .refundBlockedIneligible
  else none

namespace SupportAgentService

variable {World α : Type} (service : SupportAgentService World)

def databaseCall (call : Action World α) : Action (Turn World) α :=
  span "support_agent.database.read" (onWorld call)

/-- The order, after the bound customer passes the ownership check. -/
def getOrderStatus (orderId : Uuid) : Action (Turn World) OrderRead := do
  let order ← databaseCall (getOrder service.repository orderId service.customerId)
  updateService ({ · with lastOrder := some order })
  return order

def getPolicy (slug : String) : Action (Turn World) PolicyDocumentRead :=
  span "support_agent.retrieval.policy" do
    let policy ← databaseCall (getLatestPolicy service.repository slug)
    setAttribute "retrieval.policy.version" (.str policy.version)
    updateService
      ({ · with retrievedPolicyVersion := some policy.version, lastPolicy := some policy })
    return policy

/-- `_propose_refund(order_id, reason)` -/
def proposeEligible (orderId : Uuid) : Action (Turn World) RefundProposal := do
  let order ← service.getOrderStatus orderId
  if order.status ∉ refundableOrderStatuses then
    span "support_agent.policy.check" (pure ())
    updateService ({ · with lastToolError := some .refundBlockedIneligible })
    throw invalidTransition
  else
    span "support_agent.policy.check" (pure ())
    let state := (← get).service
    let proposal : RefundProposal :=
      { proposalId := service.proposalIds state.proposalsDrawn
        orderId := order.id
        customerId := service.customerId
        amount := order.totalAmount
        policyVersion := match state.retrievedPolicyVersion with
          | some version => if version = "" then acceptedPolicyVersion else version
          | none => acceptedPolicyVersion }
    updateService fun state =>
      { state with
        pendingProposals := Function.update state.pendingProposals order.id (some proposal)
        proposalsDrawn := state.proposalsDrawn + 1 }
    span "support_agent.confirmation" (pure ())
    updateService ({ · with lastToolError := none })
    return proposal

/-- Propose the refund of an order that the customer owns and that can be refunded. -/
def proposeRefund (orderId : Uuid) : Action (Turn World) RefundProposal := do
  match ← attempt (service.proposeEligible orderId) with
  | .ok proposal => return proposal
  | .error e =>
    updateService fun state =>
      { state with lastToolError := (proposalError e).or state.lastToolError }
    throw e

/-- Execute a proposed refund only when the trusted request confirms it. -/
def confirmRefund (orderId : Uuid) : Action (Turn World) OrderRead := do
  if ((← get).service.pendingProposals orderId).isNone || !service.refundConfirmed then
    span "support_agent.confirmation" (pure ())
    updateService ({ · with lastToolError := some .refundBlockedUnconfirmed })
    throw refundNotConfirmed
  else
    let refunded ← span "support_agent.confirmation"
      (databaseCall (requestRefund service.repository ⟨service.customerId, orderId⟩))
    updateService (·.confirmed orderId refunded)
    return refunded

/-- Create a ticket for human escalation. -/
def escalate (subject : String) : Action (Turn World) TicketRead :=
  span "support_agent.escalation" do
    let command ← match CreateTicketCommand.new service.customerId subject with
      | .ok command => pure command
      | .error e => throw e
    let ticket ← onWorld (createTicket service.repository command)
    updateService (·.escalated ticket)
    return ticket

end SupportAgentService

/-- One call of a tool, with the arguments that the service reads. -/
inductive ToolCall where
  | getOrderStatus (orderId : Uuid)
  | getPolicy (slug : String)
  | proposeRefund (orderId : Uuid)
  | confirmRefund (orderId : Uuid)
  | escalate (subject : String)
deriving DecidableEq

/-- A call with a text that reaches the database and that the database refuses. -/
def ToolCall.Refused : ToolCall → Prop
  | .getPolicy slug => isStorableText slug = false
  | .escalate subject => lengthWithin 1 300 subject = true ∧ isStorableText subject = false
  | _ => False

/-! ## What the tools do -/

section Rules

variable {World α : Type} {P : Turn World → Prop} {Q : α → Turn World → Prop}
  {E : PyError → Turn World → Prop}

/-- A property of a turn that further spans do not falsify. -/
def Stable (P : Turn World → Prop) : Prop :=
  ∀ turn telemetry, turn.telemetry.ended <+: telemetry.ended → P turn →
    P { turn with telemetry := telemetry }

theorem enter_triple {name : String} (hP : Stable P) :
    Triple P (updateTelemetry (·.enter name)) (fun _ => P) E :=
  triple_modify fun turn h => hP turn _ (List.prefix_refl _) h

theorem setAttribute_triple {name : String} {value : PyValue} (hP : Stable P) :
    Triple P (setAttribute name value) (fun _ => P) E :=
  triple_modify fun turn h => hP turn _ (List.prefix_refl _) h

theorem setError_triple {reason : ReasonCode} (hP : Stable P) :
    Triple P (setError reason) (fun _ => P) E :=
  triple_modify fun turn h => hP turn _ (List.prefix_refl _) h

theorem leave_triple {name : String} {outer : Option TraceSpan} (hP : Stable P) :
    Triple P (updateTelemetry (·.leave name outer)) (fun _ => P) E :=
  triple_modify fun turn h => hP turn _ (List.prefix_append _ _) h

/-- What the body of a span does, the span does. -/
theorem span_triple {name : String} {body : Action (Turn World) α} (hP : Stable P)
    (hQ : ∀ a, Stable (Q a)) (hE : ∀ e, Stable (E e)) (hbody : Triple P body Q E) :
    Triple P (span name body) Q E := by
  refine triple_bind (Q := fun _ => P) (triple_get fun _ h => h) fun before => ?_
  refine triple_bind (enter_triple hP) fun _ => ?_
  refine triple_attempt_bind hbody (fun a => ?_) fun e => ?_
  · exact triple_bind (leave_triple (hQ a)) fun _ => triple_pure fun _ h => h
  · exact triple_bind (leave_triple (hE e)) fun _ => triple_throw fun _ h => h

/-- A span without a body changes nothing but the telemetry. -/
theorem span_pure_triple {name : String} (hP : Stable P) :
    Triple P (span name (pure ())) (fun _ => P) E :=
  triple_mono (span_triple (E := fun _ _ => False) hP (fun _ => hP) (fun _ _ _ _ h => h)
    (triple_pure fun _ h => h)) (fun _ h => h) (fun _ _ h => h) fun _ _ h => h.elim

/-- A call on the world leaves the service as it is. -/
theorem onWorld_triple {P : World → Prop} {Q : α → World → Prop} {E : PyError → World → Prop}
    {x : Action World α} (h : Triple P x Q E) (state : ServiceState) :
    Triple (fun turn => P turn.world ∧ turn.service = state) (onWorld x)
      (fun a turn => Q a turn.world ∧ turn.service = state)
      fun e turn => E e turn.world ∧ turn.service = state :=
  triple_zoom fun turn hpre => triple_mono h (by rintro _ rfl; exact hpre.1)
    (fun _ _ hQ => ⟨hQ, hpre.2⟩) fun _ _ hE => ⟨hE, hpre.2⟩

theorem databaseCall_triple {P : World → Prop} {Q : α → World → Prop}
    {E : PyError → World → Prop} {x : Action World α} (h : Triple P x Q E) (state : ServiceState) :
    Triple (fun turn => P turn.world ∧ turn.service = state)
      (SupportAgentService.databaseCall x)
      (fun a turn => Q a turn.world ∧ turn.service = state)
      fun e turn => E e turn.world ∧ turn.service = state :=
  span_triple (fun _ _ _ h => h) (fun _ _ _ _ h => h) (fun _ _ _ _ h => h) (onWorld_triple h state)

end Rules

section Tools

variable {World : Type} {service : SupportAgentService World} {tables : World → SupportTables}
  {ready lost : World → Prop}

/-- The rows and the service state of a turn. -/
def At (tables : World → SupportTables) (ready : World → Prop) (rows : SupportTables)
    (state : ServiceState) (turn : Turn World) : Prop :=
  Holds tables ready rows turn.world ∧ turn.service = state

theorem at_stable {rows : SupportTables} {state : ServiceState} :
    Stable (At tables ready rows state) := fun _ _ _ h => h

theorem updateService_triple {f : ServiceState → ServiceState} {rows : SupportTables}
    {state : ServiceState} {E : PyError → Turn World → Prop} :
    Triple (At tables ready rows state) (updateService f)
      (fun _ => At tables ready rows (f state)) E :=
  triple_modify fun _ h => ⟨h.1, congrArg f h.2⟩

theorem getOrderStatus_triple
    (hstores : Stores service.repository service.customerId tables ready lost)
    (orderId : Uuid) (rows : SupportTables) (state : ServiceState) :
    Triple (At tables ready rows state) (service.getOrderStatus orderId)
      (fun order turn => rows.order? orderId = some order ∧
        order.customerId = service.customerId ∧
        At tables ready rows { state with lastOrder := some order } turn)
      fun _ => At tables ready rows state := by
  refine triple_bind (databaseCall_triple
    (getOrder_triple hstores orderId service.customerId rows) state) fun order => ?_
  refine triple_bind (Q := fun _ turn => rows.order? orderId = some order ∧
    order.customerId = service.customerId ∧
    At tables ready rows { state with lastOrder := some order } turn) ?_
    fun _ => triple_pure fun _ h => h
  refine triple_modify ?_
  rintro turn ⟨⟨horder, howner, hrows⟩, hstate⟩
  exact ⟨horder, howner, hrows, congrArg (fun s => { s with lastOrder := some order }) hstate⟩

/-- The rows and the service state of a turn whose tool raised: as they were, unless the database
refused the text of the call and the transaction is lost. -/
def AtOrLost (tables : World → SupportTables) (ready lost : World → Prop) (rows : SupportTables)
    (state : ServiceState) (call : ToolCall) (e : PyError) (turn : Turn World) : Prop :=
  At tables ready rows state turn ∨ call.Refused ∧ e = invalidText ∧ lost turn.world

theorem atOrLost_stable {rows : SupportTables} {state : ServiceState} {call : ToolCall}
    {e : PyError} : Stable (AtOrLost tables ready lost rows state call e) := fun _ _ _ h => h

/-- A service that raises on a world leaves the turn as it leaves the world. -/
theorem atOrLost_of_world {rows : SupportTables} {state : ServiceState} {call : ToolCall}
    {e : PyError} {turn : Turn World} {refused : Prop} (hcall : refused → call.Refused)
    (h : (Holds tables ready rows turn.world ∨ refused ∧ e = invalidText ∧ lost turn.world) ∧
      turn.service = state) : AtOrLost tables ready lost rows state call e turn :=
  h.1.imp (fun hrows => ⟨hrows, h.2⟩) fun hrefused => ⟨hcall hrefused.1, hrefused.2⟩

/-- **A policy is read** and changes no rows, unless the database refuses its slug. -/
theorem getPolicy_triple (hstores : Stores service.repository service.customerId tables ready lost)
    (slug : String) (rows : SupportTables) (state : ServiceState) :
    Triple (At tables ready rows state) (service.getPolicy slug)
      (fun policy => At tables ready rows
        { state with retrievedPolicyVersion := some policy.version, lastPolicy := some policy })
      (AtOrLost tables ready lost rows state (.getPolicy slug)) := by
  refine span_triple at_stable (fun _ => at_stable) (fun _ => atOrLost_stable) ?_
  refine triple_bind (triple_mono
    (databaseCall_triple (getLatestPolicy_triple hstores slug rows) state)
    (fun _ h => h) (fun _ _ h => h) fun _ _ h => atOrLost_of_world id h) fun policy => ?_
  refine triple_bind (setAttribute_triple at_stable) fun _ => ?_
  exact triple_bind updateService_triple fun _ => triple_pure fun _ h => h

theorem failsWith_proposalError {state : ServiceState} {before : Option ReasonCode}
    (h : state.FailsWith before) (e : PyError) :
    state.FailsWith ((proposalError e).or before) := by
  unfold proposalError
  split_ifs
  · exact Or.inr (by simp)
  · exact Or.inr (by simp)
  · exact Or.inr (by simp)
  · exact h

theorem proposeEligible_triple
    (hstores : Stores service.repository service.customerId tables ready lost)
    (orderId : Uuid) (rows : SupportTables) (state : ServiceState) :
    Triple (At tables ready rows state) (service.proposeEligible orderId)
      (fun proposal turn => ∃ order, rows.order? orderId = some order ∧
        order.customerId = service.customerId ∧ order.status = .delivered ∧
        At tables ready rows (state.proposed order proposal) turn)
      fun _ turn => ∃ lastOrder reason, state.FailsWith reason ∧
        At tables ready rows
          { state with lastOrder := lastOrder, lastToolError := reason } turn := by
  refine triple_bind (triple_mono (getOrderStatus_triple hstores orderId rows state)
    (fun _ h => h) (fun _ _ h => h) fun _ _ h => ⟨_, _, Or.inl rfl, h⟩) fun order => ?_
  split
  · -- the order cannot be refunded
    refine triple_bind (triple_mono (span_pure_triple at_stable) (fun _ h => h.2.2)
      (fun _ _ h => h) fun _ _ h => h) fun _ => ?_
    refine triple_bind updateService_triple fun _ => triple_throw fun turn h => ?_
    exact ⟨_, _, Or.inr (by decide), h⟩
  · rename_i hstatus
    have hdelivered : order.status = .delivered := by
      simpa [refundableOrderStatuses] using hstatus
    refine triple_of_eq ?_
    rintro turn ⟨horder, howner, hat⟩
    refine triple_bind (triple_mono (span_pure_triple at_stable) (by rintro _ rfl; exact hat)
      (fun _ _ h => h) fun _ _ h => h) fun _ => ?_
    refine triple_bind (Q := fun read turn =>
      read = turn ∧ At tables ready rows { state with lastOrder := some order } turn)
      (triple_get fun _ h => ⟨rfl, h⟩) fun read => ?_
    refine triple_bind (triple_mono updateService_triple (fun _ h => h.2) (fun _ _ h => h)
      fun _ _ h => h) fun _ => ?_
    refine triple_bind (span_pure_triple at_stable) fun _ => ?_
    refine triple_bind updateService_triple fun _ => triple_pure fun turn h => ?_
    exact ⟨order, horder, howner, hdelivered, h⟩

/-- **A proposal needs a delivered order of the customer**, and changes no rows. -/
theorem proposeRefund_triple
    (hstores : Stores service.repository service.customerId tables ready lost)
    (orderId : Uuid) (rows : SupportTables) (state : ServiceState) :
    Triple (At tables ready rows state) (service.proposeRefund orderId)
      (fun proposal turn => ∃ order, rows.order? orderId = some order ∧
        order.customerId = service.customerId ∧ order.status = .delivered ∧
        At tables ready rows (state.proposed order proposal) turn)
      fun _ turn => ∃ lastOrder reason, state.FailsWith reason ∧
        At tables ready rows
          { state with lastOrder := lastOrder, lastToolError := reason } turn := by
  refine triple_attempt_bind (proposeEligible_triple hstores orderId rows state)
    (fun proposal => triple_pure fun _ h => h) fun e => ?_
  · refine triple_of_eq ?_
    rintro turn ⟨lastOrder, before, hbefore, hat⟩
    refine triple_bind (triple_mono updateService_triple (fun _ h => by rw [h]; exact hat)
      (fun _ _ h => h) fun _ _ h => h) fun _ => triple_throw fun _ h => ?_
    exact ⟨lastOrder, _, failsWith_proposalError hbefore e, h⟩

/-- **A confirmation refunds an order that is proposed, confirmed by the request, delivered and
owned**, or changes no rows. -/
theorem confirmRefund_triple
    (hstores : Stores service.repository service.customerId tables ready lost)
    (orderId : Uuid) (rows : SupportTables) (state : ServiceState) :
    Triple (At tables ready rows state) (service.confirmRefund orderId)
      (fun refunded turn => (state.pendingProposals orderId).isSome = true ∧
        service.refundConfirmed = true ∧
        (∃ order, rows.order? orderId = some order ∧ order.customerId = service.customerId ∧
          order.status = .delivered ∧ refunded = order.refund) ∧
        At tables ready (rows.withRefund orderId service.customerId)
          (state.confirmed orderId refunded) turn)
      fun _ turn => ∃ reason, state.FailsWith reason ∧
        At tables ready rows { state with lastToolError := reason } turn := by
  refine triple_bind (Q := fun read turn => read = turn ∧ At tables ready rows state turn)
    (triple_get fun _ h => ⟨rfl, h⟩) fun read => ?_
  split
  · refine triple_bind (triple_mono (span_pure_triple at_stable) (fun _ h => h.2)
      (fun _ _ h => h) fun _ _ h => h) fun _ => ?_
    refine triple_bind updateService_triple fun _ => triple_throw fun turn h => ?_
    exact ⟨_, Or.inr (by decide), h⟩
  · rename_i hguard
    refine triple_of_eq ?_
    rintro turn ⟨hread, hat⟩
    have hpending : (state.pendingProposals orderId).isSome = true ∧
        service.refundConfirmed = true := by
      rw [hread, hat.2] at hguard
      simpa [Option.isSome_iff_ne_none] using hguard
    refine triple_bind (triple_mono (span_triple (fun _ _ _ h => h) (fun _ _ _ _ h => h)
      (fun _ _ _ _ h => h) (databaseCall_triple (requestRefund_triple hstores orderId rows) state))
      (by rintro _ rfl; exact hat) (fun _ _ h => h)
      fun _ _ h => ⟨state.lastToolError, Or.inl rfl, h⟩) fun refunded => ?_
    refine triple_of_eq ?_
    rintro turn ⟨⟨order, horder, howner, hdelivered, hsaved, hrows⟩, hstate⟩
    refine triple_bind (triple_mono updateService_triple
      (by rintro _ rfl; exact ⟨hrows, hstate⟩) (fun _ _ h => h) fun _ _ h => h) fun _ => ?_
    exact triple_pure fun turn h =>
      ⟨hpending.1, hpending.2, ⟨order, horder, howner, hdelivered, hsaved⟩, h⟩

/-- **An escalation creates a ticket of the customer**, or changes nothing, unless the database
refuses its subject. -/
theorem escalate_triple (hstores : Stores service.repository service.customerId tables ready lost)
    (subject : String) (rows : SupportTables) (state : ServiceState) :
    Triple (At tables ready rows state) (service.escalate subject)
      (fun ticket turn => ticket.customerId = service.customerId ∧
        At tables ready (rows.withTicket ticket) (state.escalated ticket) turn)
      (AtOrLost tables ready lost rows state (.escalate subject)) := by
  refine span_triple at_stable (fun _ _ _ _ h => h) (fun _ => atOrLost_stable) ?_
  by_cases hsubject : lengthWithin 1 300 subject = true
  · simp only [CreateTicketCommand.new, dif_pos hsubject]
    refine triple_bind (triple_pure (Q := fun command turn =>
      command = { actorId := service.customerId, subject := subject, validSubject := hsubject } ∧
        At tables ready rows state turn) fun _ h => ⟨rfl, h⟩) fun command => ?_
    refine triple_of_eq ?_
    rintro turn ⟨hcommand, hat⟩
    rw [hcommand]
    refine triple_bind (triple_mono (onWorld_triple (createTicket_triple hstores hsubject rows)
      state) (by rintro _ rfl; exact hat) (fun _ _ h => h)
      fun _ _ h => atOrLost_of_world (fun hrefused => ⟨hsubject, hrefused⟩) h) fun ticket => ?_
    refine triple_bind (Q := fun _ turn => ticket.customerId = service.customerId ∧
      At tables ready (rows.withTicket ticket) (state.escalated ticket) turn)
      (triple_modify fun turn h => ?_) fun _ => triple_pure fun _ h => h
    exact ⟨h.1.1, h.1.2, congrArg (·.escalated ticket) h.2⟩
  · simp only [CreateTicketCommand.new, dif_neg hsubject]
    exact triple_bind (triple_throw (Q := fun _ _ => False) fun _ h => Or.inl h)
      fun _ _ h => h.elim

end Tools

end ObservabilityLab
