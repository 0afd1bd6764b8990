import ObservabilityLab.Workflow.Nodes

/-!
# The workflow service

A call of the service starts a workflow, inspects one, or confirms or rejects the refund that one
waits for. A decision is taken under the lock of its workflow, after the expiry, the actor, the
request and the status of the stored workflow were checked.

## Main definitions

* `WorkflowResponse`: what a call returns
* `start`, `inspect`, `resume`, `confirm`, `reject`: the calls
* `ServiceCall`: a call with its arguments
-/

namespace ObservabilityLab.Workflow

open Python

/-! ## Errors -/

def workflowNotFound : PyError := .domain "workflow_not_found" "The workflow does not exist." 404

def workflowExpired : PyError :=
  .domain "workflow_expired" "The workflow confirmation has expired." 409

def invalidWorkflowResume (message : String) : PyError :=
  .domain "invalid_workflow_resume" message 409

def workflowActorMismatch : PyError :=
  .domain "workflow_actor_mismatch"
    "The workflow actor does not match the confirmation request." 403

/-- The comparison of a naive and an aware time. -/
def naiveComparison : PyError :=
  .other "TypeError" "can't compare offset-naive and offset-aware datetimes"

/-! ## Responses -/

/-- `WorkflowResponse` -/
structure WorkflowResponse where
  workflowId : String
  runId : String
  version : String := workflowVersion
  name : String := workflowName
  status : WorkflowStatus
  state : SupportState
  interrupted : Bool

/-- `self._response(values, interrupted=...)` -/
def Checkpoint.response (snapshot : Checkpoint) (interrupted : Bool) : WorkflowResponse where
  workflowId := snapshot.values.workflowId
  runId := snapshot.values.runId
  status := snapshot.values.status
  state := snapshot.values
  interrupted := snapshot.interrupted || interrupted

/-! ## Calls -/

section Calls

variable [ValidationTexts]

/-- `request.model_copy(update={"expires_at": expires_at})` -/
def WorkflowRequest.until (request : WorkflowRequest) (expiresAt : DateTime) : WorkflowRequest :=
  { request with expiresAt := some expiresAt }

/-- The state that a workflow starts with. -/
def initialState (request : WorkflowRequest) (workflowId runId : String) (expiresAt : DateTime) :
    SupportState where
  workflowId := workflowId
  runId := runId
  request := request.until expiresAt

/-- `now + ttl` -/
def expiry (request : WorkflowRequest) (now : DateTime) (ttl : ℤ) : DateTime :=
  request.expiresAt.getD { now with wall := now.wall + ttl }

/-- The response with the state of a workflow after a run. -/
def respond (workflowId : String) (interrupted : Bool) : Flow WorkflowResponse := do
  match ← invoke (.getState workflowId) with
  | some snapshot => return snapshot.response interrupted
  | none => .done (.error (.other "KeyError" "'workflow_id'"))

def start (ttl : ℤ) (request : WorkflowRequest) : Flow WorkflowResponse := do
  let workflowId ← invoke .uuid4
  let runId ← invoke .uuid4
  let now ← invoke .clock
  let state := initialState request workflowId.str runId.str (expiry request now ttl)
  invoke (.put workflowId.str none ⟨state, some .route, false⟩)
  let interrupted ← runGraph workflowId.str none recursionLimit .route state
  respond workflowId.str interrupted

def checkNotExpired (state : SupportState) : Flow Unit :=
  match state.request.expiresAt with
  | none => return ()
  | some expiresAt => do
    let now ← invoke .clock
    match now.since expiresAt with
    | none => .done (.error naiveComparison)
    | some elapsed => .done (raiseIf (0 ≤ elapsed) workflowExpired)

def inspect (workflowId : String) : Flow WorkflowResponse := do
  match ← (invoke (.getState workflowId)).caught with
  | .ok (some snapshot) => do
    checkNotExpired snapshot.values
    return snapshot.response false
  | _ => .done (.error workflowNotFound)

/-- The checks of a decision on the inspected workflow. -/
def checkDecision (current : WorkflowResponse) (actorId : Uuid) (requestId : String) :
    Raises Unit := do
  raiseIf (current.state.request.actorId ≠ actorId) workflowActorMismatch
  raiseIf (current.state.request.requestId ≠ requestId)
    (invalidWorkflowResume "The request ID does not match the workflow.")
  raiseIf (current.status ≠ .awaitingConfirmation || !current.interrupted)
    (invalidWorkflowResume "The workflow is not waiting for confirmation.")

omit [ValidationTexts] in
/-- What a decision that is not refused has to match. -/
theorem checkDecision_eq_ok {snapshot : Checkpoint} {actorId : Uuid} {requestId : String}
    (h : checkDecision (snapshot.response false) actorId requestId = .ok ()) :
    snapshot.values.request.actorId = actorId ∧ snapshot.values.request.requestId = requestId ∧
      snapshot.values.status = .awaitingConfirmation ∧ snapshot.interrupted = true := by
  unfold checkDecision at h
  obtain ⟨hactor, h⟩ := check_bind_eq_ok.mp h
  obtain ⟨hrequest, hwaits⟩ := check_bind_eq_ok.mp h
  have hactor := raiseIf_eq_ok.mp hactor
  have hrequest := raiseIf_eq_ok.mp hrequest
  have hwaits := raiseIf_eq_ok.mp hwaits
  simpa [Checkpoint.response] using And.intro hactor (And.intro hrequest hwaits)

/-- A run that goes on with a resume command. -/
def resumeGraph (workflowId : String) (decision : ResumeDecision) : Flow Bool := do
  match ← invoke (.resume workflowId decision) with
  | some ⟨state, some node, _⟩ => runGraph workflowId (some decision) recursionLimit node state
  | _ => return false

/-- A decision under the lock of its workflow. -/
def decide (workflowId : String) (actorId : Uuid) (requestId : String)
    (decision : ConfirmationDecision) : Flow WorkflowResponse := do
  let current ← inspect workflowId
  .done (checkDecision current actorId requestId)
  let interrupted ← resumeGraph workflowId ⟨decision.value, actorId.str, requestId⟩
  respond workflowId interrupted

/-- `_resume(workflow_id, actor_id=..., request_id=..., decision=...)` -/
def resume (workflowId : String) (actorId : Uuid) (requestId : String)
    (decision : ConfirmationDecision) : Flow WorkflowResponse := do
  invoke (.acquire workflowId)
  let result ← (decide workflowId actorId requestId decision).caught
  invoke (.release workflowId)
  .done result

def confirm (workflowId : String) (actorId : Uuid) (requestId : String) : Flow WorkflowResponse :=
  resume workflowId actorId requestId .confirm

def reject (workflowId : String) (actorId : Uuid) (requestId : String) : Flow WorkflowResponse :=
  resume workflowId actorId requestId .reject

end Calls

/-- A call of the service. -/
inductive ServiceCall where
  | start (request : WorkflowRequest)
  | inspect (workflowId : String)
  | confirm (workflowId : String) (actorId : Uuid) (requestId : String)
  | reject (workflowId : String) (actorId : Uuid) (requestId : String)

def ServiceCall.program [ValidationTexts] (ttl : ℤ) : ServiceCall → Flow WorkflowResponse
  | start request => Workflow.start ttl request
  | inspect workflowId => Workflow.inspect workflowId
  | confirm workflowId actorId requestId => Workflow.confirm workflowId actorId requestId
  | reject workflowId actorId requestId => Workflow.reject workflowId actorId requestId

end ObservabilityLab.Workflow
