import ObservabilityLab.Agent.Schemas
import ObservabilityLab.Python.DateTime
import ObservabilityLab.Python.Float
import ObservabilityLab.Support.Service

/-!
# Workflow models

The typed values that the nodes of the support workflow share, and the state that is checkpointed
between them. What a model requires of its fields is a field of the structure.

## Main definitions

* `RoutingDecision`, `ProposedAction`, `SupportResponse`: values with constraints
* `WorkflowStatus`, `Node`, `EscalationReason`: the texts that the workflow writes
* `SupportState`: the state of one workflow
* `errorDelta`, `escalationDelta`, `escalated`: the errors and the escalation that a node notes

## Main results

* `length_reason`: every reason of an escalation passes its own check
* `exists_errorDelta`: an error with a short class name can be noted
-/

namespace ObservabilityLab.Workflow

open Python

/-! ## Values -/

/-- A route, by a model or by rules. -/
structure RoutingDecision where
  intent : RouteIntent
  confidence : PyFloat
  orderId : Option Uuid := none
  policySlug : Option String := none
  validConfidence : ((0 : PyFloat).le confidence && confidence.le (.ofRat 1)) = true

/-- `WorkflowRequest` -/
structure WorkflowRequest where
  actorId : Uuid
  requestId : String
  message : String
  expiresAt : Option DateTime := none
  validRequestId : lengthWithin 1 200 requestId = true
  validMessage : lengthWithin 1 2000 message = true

structure EvidenceBundle where
  order : Option OrderRead := none
  policy : Option PolicyDocumentRead := none

/-- `^[a-z][a-z_]{1,49}$` -/
def isKind (kind : String) : Bool :=
  match kind.toList with
  | [] => false
  | c :: rest =>
    c.isLower && 1 ≤ rest.length && rest.length ≤ 49 && rest.all fun c => c.isLower || c = '_'

/-- A proposal that has changed nothing yet. -/
structure ProposedAction where
  kind : String
  proposalId : Uuid
  actorId : Uuid
  requestId : String
  orderId : Uuid
  amount : Decimal
  policyVersion : String
  createdAt : DateTime
  validKind : isKind kind = true
  validAmount : isAmount amount = true
  validPolicyVersion : lengthWithin 1 50 policyVersion = true

inductive ConfirmationDecision where
  | pending | confirm | reject
deriving DecidableEq

def ConfirmationDecision.value : ConfirmationDecision → String
  | pending => "pending"
  | confirm => "confirm"
  | reject => "reject"

/-- `ConfirmationDecision(text)`; `none` is a `ValueError`. -/
def ConfirmationDecision.ofValue (text : String) : Option ConfirmationDecision :=
  [pending, confirm, reject].find? (·.value = text)

@[simp] theorem ConfirmationDecision.ofValue_value (d : ConfirmationDecision) :
    ofValue d.value = some d := by
  cases d <;> decide +kernel

/-- The decision of a checkpoint, bound to the actor and the request of the workflow. -/
structure Confirmation where
  decision : ConfirmationDecision := .pending
  actorId : Uuid
  requestId : String
  decidedAt : Option DateTime := none

/-- What an answer rests on. -/
structure AnswerContext where
  routing : RoutingDecision
  order : Option OrderRead := none
  policy : Option PolicyDocumentRead := none

/-- `SupportResponse` -/
structure SupportResponse where
  intent : RouteIntent
  outcome : SupportOutcome
  reasonCode : ReasonCode
  message : String
  context : AnswerContext
  validMessage : lengthWithin 1 4000 message = true

/-- `SupportResponse(...)` -/
def SupportResponse.new (intent : RouteIntent) (outcome : SupportOutcome) (reasonCode : ReasonCode)
    (message : String) (context : AnswerContext) : Raises SupportResponse :=
  if h : lengthWithin 1 4000 message = true then
    .ok ⟨intent, outcome, reasonCode, message, context, h⟩
  else .error (.validation "SupportResponse" "message")

/-! ## The texts of a workflow -/

/-- The statuses that the service and the nodes write. -/
inductive WorkflowStatus where
  | received | routed | evidenceReady | awaitingConfirmation | confirmed | rejected | completed
  | escalating | escalated
deriving DecidableEq

def WorkflowStatus.value : WorkflowStatus → String
  | received => "received"
  | routed => "routed"
  | evidenceReady => "evidence_ready"
  | awaitingConfirmation => "awaiting_confirmation"
  | confirmed => "confirmed"
  | rejected => "rejected"
  | completed => "completed"
  | escalating => "escalating"
  | escalated => "escalated"

/-- The nodes of the graph. -/
inductive Node where
  | route | retrieveOrder | retrievePolicy | proposeRefund | confirmation | executeRefund | reject
  | respond | escalate
deriving DecidableEq

def Node.value : Node → String
  | route => "route"
  | retrieveOrder => "retrieve_order"
  | retrievePolicy => "retrieve_policy"
  | proposeRefund => "propose_refund"
  | confirmation => "confirmation"
  | executeRefund => "execute_refund"
  | reject => "reject"
  | respond => "respond"
  | escalate => "escalate"

/-- The reasons of escalations. -/
inductive EscalationReason where
  | modelRetryExhausted | unsafeRouting | missingOrderReference | retrievalRetryExhausted
  | orderAccessDenied | missingPolicyReference | policyEvidenceUnavailable | missingOrderEvidence
  | refundActionUnsafe | missingRefundProposal | missingConfirmation | refundExecutionUnsafe
  | unsafeResponse | requestedByRoute
deriving DecidableEq

def EscalationReason.value : EscalationReason → String
  | modelRetryExhausted => "model_retry_exhausted"
  | unsafeRouting => "unsafe_routing"
  | missingOrderReference => "missing_order_reference"
  | retrievalRetryExhausted => "retrieval_retry_exhausted"
  | orderAccessDenied => "order_access_denied"
  | missingPolicyReference => "missing_policy_reference"
  | policyEvidenceUnavailable => "policy_evidence_unavailable"
  | missingOrderEvidence => "missing_order_evidence"
  | refundActionUnsafe => "refund_action_unsafe"
  | missingRefundProposal => "missing_refund_proposal"
  | missingConfirmation => "missing_confirmation"
  | refundExecutionUnsafe => "refund_execution_unsafe"
  | unsafeResponse => "unsafe_response"
  | requestedByRoute => "requested_by_route"

/-- Every reason passes the check of `EscalationState`, and leaves room in a ticket subject. -/
theorem length_reason (reason : EscalationReason) :
    1 ≤ reason.value.length ∧ reason.value.length ≤ 27 := by
  cases reason <;> decide +kernel

structure EscalationState where
  reason : EscalationReason
  status : String := "pending"
  ticketId : Option Uuid := none

structure Transition where
  node : Node
  status : String
  changedKeys : List String

/-- A typed error in the transcript. -/
structure WorkflowErrorDetail where
  code : String
  message : String
  retryable : Bool := false
  validCode : lengthWithin 1 100 code = true
  validMessage : lengthWithin 1 400 message = true

/-- `WorkflowErrorDetail(code=code, message=message, retryable=False)` -/
def WorkflowErrorDetail.new (code message : String) : Raises WorkflowErrorDetail :=
  if hcode : lengthWithin 1 100 code = true then
    if hmessage : lengthWithin 1 400 message = true then
      .ok { code := code, message := message, validCode := hcode, validMessage := hmessage }
    else .error (.validation "WorkflowErrorDetail" "message")
  else .error (.validation "WorkflowErrorDetail" "code")

/-- The checkpointed state of one workflow. A key that is missing is `none`, or empty. -/
structure SupportState where
  workflowId : String
  runId : String
  request : WorkflowRequest
  route : Option RoutingDecision := none
  evidence : EvidenceBundle := {}
  proposedAction : Option ProposedAction := none
  confirmation : Option Confirmation := none
  response : Option SupportResponse := none
  errors : List WorkflowErrorDetail := []
  escalation : Option EscalationState := none
  transcript : List Transition := []
  status : WorkflowStatus := .received

def workflowVersion : String := "4.1.0"

/-- `WORKFLOW_ID` -/
def workflowName : String := "support-controlled-actions"

/-! ## Errors -/

def unsafeWorkflowError (message : String) : PyError := .other "UnsafeWorkflowError" message

/-- `type(error).__name__` -/
def className : PyError → String
  | .value _ => "ValueError"
  | .validation .. => "ValidationError"
  | .other name _ => name
  | .domain code _ _ =>
    if code = "forbidden" then "Forbidden"
    else if code = "order_not_found" then "OrderNotFound"
    else if code = "invalid_transition" then "InvalidTransition"
    else if code = "policy_not_found" then "PolicyNotFound"
    else "DomainError"

def isTransientModel (error : PyError) : Bool := className error = "TransientModelError"

def isTransientRetrieval (error : PyError) : Bool := className error = "TransientRetrievalError"

def isUnsafe (error : PyError) : Bool := className error = "UnsafeWorkflowError"

/-- `(Forbidden, OrderNotFound, InvalidTransition, UnsafeWorkflowError)` -/
def isRefusal (error : PyError) : Bool :=
  error = forbidden || error = orderNotFound || error = invalidTransition || isUnsafe error

/-- `(PolicyNotFound, UnsafeWorkflowError)` -/
def isPolicyRefusal (error : PyError) : Bool := error = policyNotFound || isUnsafe error

/-! ## Deltas that every node makes -/

namespace SupportState

variable (state : SupportState)

/-- `_transition(state, node, status, *keys)` -/
def transition (node : Node) (status : String) (keys : List String) : List Transition :=
  state.transcript ++ [⟨node, status, keys⟩]

/-- `state["route"]` -/
def requireRoute : Raises RoutingDecision :=
  match state.route with
  | some route => .ok route
  | none => .error (.other "KeyError" "'route'")

end SupportState

variable [ValidationTexts]

/-- `str(error)[:400] or "Workflow dependency failed"` -/
def errorMessage (error : PyError) : String :=
  let message := String.ofList (error.str.toList.take 400)
  if message = "" then "Workflow dependency failed" else message

/-- The errors of a state with one more. -/
def errorDelta (state : SupportState) (error : PyError) : Raises (List WorkflowErrorDetail) := do
  let detail ← WorkflowErrorDetail.new (className error) (errorMessage error)
  return state.errors ++ [detail]

/-- The state with an escalation, and the error that led to it if there is one. -/
def escalationDelta (state : SupportState) (reason : EscalationReason)
    (error : Option PyError := none) : Raises SupportState := do
  let errors ← match error with
    | none => pure state.errors
    | some error => errorDelta state error
  return { state with
    escalation := some { reason := reason }
    status := .escalating
    transcript := state.transition .escalate "pending" ["escalation"]
    errors := errors }

/-- The delta of a node that escalates because of an error. -/
def escalated (state : SupportState) (node : Node) (reason : EscalationReason) (error : PyError) :
    Raises SupportState := do
  let delta ← escalationDelta state reason error
  return { delta with
    transcript := state.transition node "escalated" ["escalation", "errors"] }

theorem lengthWithin_errorMessage (error : PyError) :
    lengthWithin 1 400 (errorMessage error) = true := by
  unfold errorMessage lengthWithin
  dsimp only
  split
  · decide +kernel
  · rename_i hne
    simp only [Bool.and_eq_true, decide_eq_true_eq]
    constructor
    · rw [Nat.one_le_iff_ne_zero]
      intro hzero
      exact hne (String.length_eq_zero_iff.mp hzero)
    · rw [String.length_ofList, List.length_take]
      exact Nat.min_le_left ..

/-- An error with a short class name can be noted. -/
theorem exists_errorDelta {state : SupportState} {error : PyError}
    (h : lengthWithin 1 100 (className error) = true) :
    ∃ errors, errorDelta state error = .ok errors := by
  unfold errorDelta WorkflowErrorDetail.new
  rw [dif_pos h, dif_pos (lengthWithin_errorMessage error)]
  exact ⟨_, rfl⟩

end ObservabilityLab.Workflow
