import ObservabilityLab.Library.Programs
import ObservabilityLab.Workflow.Models

/-!
# The support graph

The nodes of the support workflow, its edges, and a run of the graph. A node calls one dependency,
and makes its delta from what the call returned or raised; a delta is taken as the state with its
keys written. After every node the state is checkpointed with the node that comes next. A node with
a retry policy is tried again after a transient error. The confirmation interrupts a run, which a
resume command goes on with.

## Main definitions

* `Dependency`, `Op`: the calls of a workflow, to its dependencies and to its runtime
* `routeDelta`, `orderDelta`, `policyDelta`, `proposalDelta`, `executionDelta`, `responseDelta`,
  `ticketDelta`: what a node makes of the answer to its call
* `runNode`, `runTask`: a node, and a node with its retry policy
* `afterNode`: the edges
* `runGraph`: a run from a node
-/

namespace ObservabilityLab.Workflow

open Python

/-! ## Calls -/

/-- The calls of the nodes to their dependencies. -/
inductive Dependency where
  | route (message : String)
  | getOrder (orderId actorId : Uuid)
  | getPolicy (slug : String)
  | generate (message : String) (route : RoutingDecision) (evidence : EvidenceBundle)
      (proposal : Option ProposedAction)
  | propose (actorId : Uuid) (requestId : String) (order : OrderRead)
      (policy : Option PolicyDocumentRead)
  | execute (actorId orderId : Uuid)
  | escalate (actorId : Uuid) (reason : EscalationReason) (requestId : String)

@[reducible] def Dependency.Answer : Dependency → Type
  | route _ => RoutingDecision
  | getOrder .. => OrderRead
  | getPolicy _ => PolicyDocumentRead
  | generate .. => String
  | propose .. => ProposedAction
  | execute .. => OrderRead
  | escalate .. => TicketRead

/-- A checkpoint: the state, the node that comes next, and whether that node interrupted the run. -/
structure Checkpoint where
  values : SupportState
  next : Option Node
  interrupted : Bool

/-- The payload of a resume command. -/
structure ResumeDecision where
  decision : String
  actorId : String
  requestId : String

/-- The calls of a workflow. -/
inductive Op where
  /-- A call of a node to a dependency, in the run of a thread. -/
  | dependency (thread : String) (call : Dependency)
  /-- `attempts.next(state, node)` -/
  | nextAttempt (runId : String) (node : Node)
  /-- `datetime.now(UTC)` -/
  | now
  /-- The runtime starts a node. -/
  | task (thread : String) (node : Node)
  /-- The runtime stores a checkpoint, after a node that is completed. -/
  | put (thread : String) (completed : Option Node) (checkpoint : Checkpoint)
  /-- `graph.aget_state(config)` -/
  | getState (thread : String)
  /-- The runtime takes a resume command, and loads the checkpoint of the thread. -/
  | resume (thread : String) (decision : ResumeDecision)
  | uuid4
  /-- The clock of the service. -/
  | clock
  | acquire (thread : String)
  | release (thread : String)

@[reducible] def Op.Answer : Op → Type
  | dependency _ call => call.Answer
  | nextAttempt .. => ℕ
  | now => DateTime
  | task .. => Unit
  | put .. => Unit
  | getState _ => Option Checkpoint
  | resume .. => Option Checkpoint
  | uuid4 => Uuid
  | clock => DateTime
  | acquire _ => Unit
  | release _ => Unit

/-- A program of the workflow. -/
abbrev Flow (α : Type) := Program Op.Answer PyError α

/-- One call of the workflow. -/
def invoke (op : Op) : Flow op.Answer := .perform op

/-- A call to a dependency in the run of a thread, with its exceptions caught. -/
def ask (thread : String) (call : Dependency) : Flow (Except PyError call.Answer) :=
  (invoke (.dependency thread call)).caught

/-! ## Deltas -/

def maxNodeAttempts : ℕ := 2

variable [ValidationTexts]

/-- The handlers of a node with a retry policy: a transient error is raised again, unless it was the
last attempt, and an expected refusal escalates. -/
def recover (state : SupportState) (node : Node) (attempt : ℕ) (transient refusal : PyError → Bool)
    (exhausted denied : EscalationReason) (error : PyError) : Raises SupportState :=
  if transient error then
    if attempt < maxNodeAttempts then .error error else escalated state node exhausted error
  else if refusal error then escalated state node denied error
  else .error error

def routeDelta (state : SupportState) (attempt : ℕ) :
    Except PyError RoutingDecision → Raises SupportState
  | .ok route => .ok { state with
      route := some route
      status := .routed
      transcript := state.transition .route "completed" ["route"] }
  | .error error =>
    recover state .route attempt isTransientModel isUnsafe .modelRetryExhausted .unsafeRouting error

def orderDelta (state : SupportState) (attempt : ℕ) :
    Except PyError OrderRead → Raises SupportState
  | .ok order => .ok { state with
      evidence := { state.evidence with order := some order }
      status := .evidenceReady
      transcript := state.transition .retrieveOrder "completed" ["evidence"] }
  | .error error =>
    recover state .retrieveOrder attempt isTransientRetrieval isRefusal .retrievalRetryExhausted
      .orderAccessDenied error

def policyDelta (state : SupportState) (attempt : ℕ) :
    Except PyError PolicyDocumentRead → Raises SupportState
  | .ok policy => .ok { state with
      evidence := { state.evidence with policy := some policy }
      status := .evidenceReady
      transcript := state.transition .retrievePolicy "completed" ["evidence"] }
  | .error error =>
    recover state .retrievePolicy attempt isTransientRetrieval isPolicyRefusal
      .retrievalRetryExhausted .policyEvidenceUnavailable error

def proposalDelta (state : SupportState) : Except PyError ProposedAction → Raises SupportState
  | .ok proposal => .ok { state with
      proposedAction := some proposal
      confirmation :=
        some { actorId := state.request.actorId, requestId := state.request.requestId }
      status := .awaitingConfirmation
      transcript :=
        state.transition .proposeRefund "interrupted" ["proposed_action", "confirmation"] }
  | .error error =>
    if isRefusal error then escalated state .proposeRefund .refundActionUnsafe error
    else .error error

def executionDelta (state : SupportState) : Except PyError OrderRead → Raises SupportState
  | .ok order => do
    let route ← state.requireRoute
    let response ← SupportResponse.new .refund .completed .refundConfirmed
      "Your refund was confirmed and the order is now marked as refunded."
      { routing := route, order := some order }
    return { state with
      evidence := { state.evidence with order := some order }
      response := some response
      status := .completed
      transcript :=
        state.transition .executeRefund "completed" ["evidence", "response", "status"] }
  | .error error =>
    if isRefusal error then escalated state .executeRefund .refundExecutionUnsafe error
    else .error error

def responseDelta (state : SupportState) (route : RoutingDecision) (attempt : ℕ) :
    Except PyError String → Raises SupportState
  | .ok message => do
    let response ← SupportResponse.new route.intent .completed
      (if route.intent = .orderStatus then .orderStatusOk else .policyAnswer) message
      { routing := route, order := state.evidence.order, policy := state.evidence.policy }
    return { state with
      response := some response
      status := .completed
      transcript := state.transition .respond "completed" ["response", "status"] }
  | .error error =>
    recover state .respond attempt isTransientModel isUnsafe .modelRetryExhausted .unsafeResponse
      error

omit [ValidationTexts] in
theorem validConfidence_one :
    ((0 : PyFloat).le (.ofRat 1) && (PyFloat.ofRat 1).le (.ofRat 1)) = true :=
  PyFloat.ofRat_mem_unit zero_le_one le_rfl

/-- `RoutingDecision(intent=RouteIntent.ESCALATE, confidence=1.0)` -/
def certainEscalation : RoutingDecision where
  intent := .escalate
  confidence := .ofRat 1
  validConfidence := validConfidence_one

def ticketDelta (state : SupportState) (reason : EscalationReason) :
    Except PyError TicketRead → Raises SupportState
  | .ok ticket => do
    let response ← SupportResponse.new .escalate .escalated .escalated
      "I have handed this request to a human support agent."
      { routing := state.route.getD certainEscalation }
    return { state with
      escalation := some { reason := reason, status := "completed", ticketId := some ticket.id }
      response := some response
      status := .escalated
      transcript :=
        state.transition .escalate "completed" ["escalation", "response", "status"] }
  | .error error => .error error

def rejectionDelta (state : SupportState) (route : RoutingDecision) : Raises SupportState := do
  let response ← SupportResponse.new route.intent .blocked .refundBlockedUnconfirmed
    "No refund was made because the proposed action was rejected."
    { routing := route, order := state.evidence.order }
  return { state with
    response := some response
    status := .rejected
    transcript := state.transition .reject "completed" ["response", "status"] }

/-- The confirmation with a decision. -/
def confirmationDelta (state : SupportState) (decision : ConfirmationDecision)
    (decidedAt : DateTime) : SupportState :=
  let status := if decision = .confirm then .confirmed else .rejected
  { state with
    confirmation := some
      { decision := decision
        actorId := state.request.actorId
        requestId := state.request.requestId
        decidedAt := some decidedAt }
    status := status
    transcript := state.transition .confirmation status.value ["confirmation"] }

/-! ## Nodes -/

/-- What a node came to: an update, or an interrupt. -/
inductive NodeResult where
  | update (state : SupportState)
  | interrupt

section Nodes

variable (thread : String)

def routeNode (state : SupportState) : Flow SupportState := do
  let attempt ← invoke (.nextAttempt state.runId .route)
  let answer ← ask thread (.route state.request.message)
  .done (routeDelta state attempt answer)

def orderNode (state : SupportState) : Flow SupportState := do
  let route ← .done state.requireRoute
  match route.orderId with
  | none => .done (escalationDelta state .missingOrderReference)
  | some orderId => do
    let attempt ← invoke (.nextAttempt state.runId .retrieveOrder)
    let answer ← ask thread (.getOrder orderId state.request.actorId)
    .done (orderDelta state attempt answer)

def policyNode (state : SupportState) : Flow SupportState := do
  let route ← .done state.requireRoute
  match route.policySlug with
  | none => .done (escalationDelta state .missingPolicyReference)
  | some slug => do
    let attempt ← invoke (.nextAttempt state.runId .retrievePolicy)
    let answer ← ask thread (.getPolicy slug)
    .done (policyDelta state attempt answer)

def proposalNode (state : SupportState) : Flow SupportState :=
  match state.evidence.order with
  | none => .done (escalationDelta state .missingOrderEvidence)
  | some order => do
    let answer ← ask thread
      (.propose state.request.actorId state.request.requestId order state.evidence.policy)
    .done (proposalDelta state answer)

/-- The confirmation; `resume` is the payload of the resume command, if the run has one. -/
def confirmationNode (resume : Option ResumeDecision) (state : SupportState) : Flow NodeResult :=
  match state.proposedAction, resume with
  | none, _ => do return .update (← .done (escalationDelta state .missingRefundProposal))
  | some _, none => return .interrupt
  | some _, some decision =>
    if decision.actorId ≠ state.request.actorId.str
        ∨ decision.requestId ≠ state.request.requestId then
      .done (.error (unsafeWorkflowError "Confirmation identity does not match the workflow"))
    else
      match ConfirmationDecision.ofValue decision.decision with
      | none | some .pending =>
        .done (.error (unsafeWorkflowError "Confirmation must be confirm or reject"))
      | some selected => do
        let decidedAt ← invoke .now
        return .update (confirmationDelta state selected decidedAt)

def executeNode (state : SupportState) : Flow SupportState :=
  match state.proposedAction, state.confirmation with
  | some proposal, some confirmation =>
    if confirmation.decision ≠ .confirm then
      return { state with
        status := .rejected
        transcript := state.transition .executeRefund "skipped" ["status"] }
    else do
      let answer ← ask thread (.execute confirmation.actorId proposal.orderId)
      .done (executionDelta state answer)
  | _, _ => .done (escalationDelta state .missingConfirmation (some (unsafeWorkflowError "")))

def rejectionNode (state : SupportState) : Flow SupportState := do
  let route ← .done state.requireRoute
  .done (rejectionDelta state route)

def responseNode (state : SupportState) : Flow SupportState := do
  let route ← .done state.requireRoute
  let attempt ← invoke (.nextAttempt state.runId .respond)
  let answer ← ask thread
    (.generate state.request.message route state.evidence state.proposedAction)
  .done (responseDelta state route attempt answer)

def escalationNode (state : SupportState) : Flow SupportState := do
  let reason := state.escalation.elim .requestedByRoute (·.reason)
  let answer ← ask thread (.escalate state.request.actorId reason state.request.requestId)
  .done (ticketDelta state reason answer)

/-- One attempt of a node. -/
def runNode (resume : Option ResumeDecision) (node : Node) (state : SupportState) :
    Flow NodeResult := do
  match node with
  | .route => return .update (← routeNode thread state)
  | .retrieveOrder => return .update (← orderNode thread state)
  | .retrievePolicy => return .update (← policyNode thread state)
  | .proposeRefund => return .update (← proposalNode thread state)
  | .confirmation => confirmationNode resume state
  | .executeRefund => return .update (← executeNode thread state)
  | .reject => return .update (← rejectionNode state)
  | .respond => return .update (← responseNode thread state)
  | .escalate => return .update (← escalationNode thread state)

/-! ## The graph -/

/-- Whether a node has the retry policy. -/
def Node.retries : Node → Bool
  | .route | .retrieveOrder | .retrievePolicy | .respond => true
  | _ => false

/-- `retry_on=(TransientModelError, TransientRetrievalError)` -/
def isRetried (error : PyError) : Bool := isTransientModel error || isTransientRetrieval error

/-- A node that the runtime may try again some more times. -/
def tryNode (resume : Option ResumeDecision) (node : Node) (state : SupportState) :
    ℕ → Flow NodeResult
  | 0 => do
    invoke (.task thread node)
    runNode thread resume node state
  | more + 1 => do
    invoke (.task thread node)
    match ← (runNode thread resume node state).caught with
    | .ok result => return result
    | .error error =>
      if isRetried error then tryNode resume node state more else .done (.error error)

/-- A node with its retry policy. -/
def runTask (resume : Option ResumeDecision) (node : Node) (state : SupportState) :
    Flow NodeResult :=
  tryNode thread resume node state (if node.retries then maxNodeAttempts - 1 else 0)

/-- The confirmation of a resumed run takes the decision. -/
theorem runTask_confirmation {decision : ResumeDecision} {state : SupportState}
    {proposal : ProposedAction} {d : ConfirmationDecision}
    (hproposal : state.proposedAction = some proposal)
    (hactor : decision.actorId = state.request.actorId.str)
    (hrequest : decision.requestId = state.request.requestId) (hd : decision.decision = d.value)
    (hpending : d ≠ .pending) :
    runTask thread (some decision) .confirmation state = do
      invoke (.task thread .confirmation)
      let decidedAt ← invoke .now
      return .update (confirmationDelta state d decidedAt) := by
  have hnode : runNode thread (some decision) .confirmation state = do
      let decidedAt ← invoke .now
      return .update (confirmationDelta state d decidedAt) := by
    unfold runNode confirmationNode
    dsimp only
    rw [hproposal]
    dsimp only
    rw [if_neg (by rw [hactor, hrequest]; simp), hd, ConfirmationDecision.ofValue_value]
    cases d with
    | pending => exact absurd rfl hpending
    | confirm => rfl
    | reject => rfl
  change (do
    invoke (.task thread .confirmation)
    runNode thread (some decision) .confirmation state) = _
  rw [hnode]

end Nodes

def afterRoute (state : SupportState) : Raises (Option Node) := do
  if state.escalation.isSome then return some .escalate
  match (← state.requireRoute).intent with
  | .orderStatus => return some .retrieveOrder
  | .policy => return some .retrievePolicy
  | .refund => return some .retrieveOrder
  | .escalate => return some .escalate

def afterEvidence (state : SupportState) : Raises (Option Node) := do
  if state.escalation.isSome then return some .escalate
  if (← state.requireRoute).intent = .refund then
    return some (if state.evidence.policy.isNone then .retrievePolicy else .proposeRefund)
  return some .respond

def afterProposal (state : SupportState) : Raises (Option Node) :=
  .ok (some (if state.escalation.isSome then .escalate else .confirmation))

def afterConfirmation (state : SupportState) : Raises (Option Node) :=
  match state.confirmation with
  | none => .ok (some .escalate)
  | some confirmation =>
    .ok (some (if confirmation.decision = .confirm then .executeRefund else .reject))

def afterExecution (state : SupportState) : Raises (Option Node) :=
  .ok (if state.escalation.isSome then some .escalate else none)

def afterResponse (state : SupportState) : Raises (Option Node) :=
  .ok (if state.escalation.isSome then some .escalate else none)

/-- The edge of a node; `none` is `END`. -/
def afterNode (state : SupportState) : Node → Raises (Option Node)
  | .route => afterRoute state
  | .retrieveOrder => afterEvidence state
  | .retrievePolicy => afterEvidence state
  | .proposeRefund => afterProposal state
  | .confirmation => afterConfirmation state
  | .executeRefund => afterExecution state
  | .reject => .ok none
  | .respond => afterResponse state
  | .escalate => .ok none

/-- The default limit on the steps of one run. -/
def recursionLimit : ℕ := 25

def graphRecursionError : PyError :=
  .other "GraphRecursionError" "Recursion limit reached without hitting a stop condition."

/-- A run from a node, within a number of steps, and whether it was interrupted. -/
def runGraph (thread : String) (resume : Option ResumeDecision) :
    ℕ → Node → SupportState → Flow Bool
  | 0, _, _ => .done (.error graphRecursionError)
  | steps + 1, node, state => do
    match ← runTask thread resume node state with
    | .interrupt => do
      invoke (.put thread none ⟨state, some node, true⟩)
      return true
    | .update state => do
      let next ← .done (afterNode state node)
      invoke (.put thread (some node) ⟨state, next, false⟩)
      match next with
      | none => return false
      | some next => runGraph thread resume steps next state

end ObservabilityLab.Workflow
