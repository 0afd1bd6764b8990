import ObservabilityLab.Agent.Service

/-!
# Support turns

One complete turn of the reference agent: routing, a plan, and either an escalation without another
model call or the answer of the model, which calls tools and ends with a draft. The response is
assembled from the draft and from the state of the service.

The hosted model is not modelled: a `TurnScript` says what it does in one turn, by any strategy that
sees the replies of its tools. An exception that a tool raises ends the run of the model, unless it
asks the model to retry.

## Main definitions

* `runTool`: the tool functions, with their handlers
* `AnswerModel`, `runAnswer`: a run of the answer model
* `planTurn`, `confirmationDue`, `assemble`: the decisions of a turn
* `PydanticAISupportAgent.handle`: one turn

## Main results

* `runAnswer_keeps`: what every tool function keeps, the run of any model keeps
* `ToolInvariant.runModel`: what every tool of the service keeps, the run of any model keeps
* `run_handle`: a turn returns or raises what its plan does
-/

namespace ObservabilityLab

open Python Raising

/-! ## Tool functions -/

/-- What a tool returns to the model: a text, or the request to retry. -/
inductive ToolReply where
  | text (text : String)
  | retry (message : String)
deriving DecidableEq

def ToolCall.name : ToolCall → String
  | .getOrderStatus _ => "get_order_status"
  | .getPolicy _ => "get_policy"
  | .proposeRefund _ => "propose_refund"
  | .confirmRefund _ => "confirm_refund"
  | .escalate _ => "escalate"

/-- `isinstance(error, (TimeoutError, ConnectionError))` -/
def isTransient : PyError → Bool
  | .other name _ => name = "TimeoutError" || name = "ConnectionError"
  | _ => false

/-- An error that a tool function turns into a text, with the reason code on its span. -/
structure Refusal where
  error : PyError
  reason : ReasonCode
  text : String

section Tools

variable {World : Type}

/-- `_transient_failure`: record a retry and ask the model to repeat the call. -/
def transientFailure : Action (Turn World) ToolReply := do
  modify fun turn => { turn with retryCount := turn.retryCount + 1 }
  span "support_agent.retry" (setError .timeout)
  setAttribute "tool.error.code" (.str ReasonCode.timeout.value)
  return .retry "The service timed out. Try the same call once more."

/-- The body of a tool function: the call of the service, with the handlers of its errors. -/
def toolBody {α : Type} (name : String) (refusals : List Refusal) (retries : Bool)
    (call : Action (Turn World) α) (reply : α → String) : Action (Turn World) ToolReply := do
  match ← attempt call with
  | .ok a =>
    updateService fun state => { state with toolCalls := state.toolCalls ++ [name] }
    return .text (reply a)
  | .error e =>
    match refusals.find? (·.error = e) with
    | some refusal =>
      setAttribute "tool.error.code" (.str refusal.reason.value)
      setError refusal.reason
      return .text refusal.text
    | none => if retries && isTransient e then transientFailure else throw e

/-- A tool function, inside its span. -/
def toolFunction {α : Type} (name : String) (refusals : List Refusal) (retries : Bool)
    (call : Action (Turn World) α) (reply : α → String) : Action (Turn World) ToolReply :=
  span ("support_agent.tool." ++ name) (toolBody name refusals retries call reply)

def orderNotFoundRefusal : Refusal where
  error := orderNotFound
  reason := .orderNotFound
  text := "ORDER_NOT_FOUND: no order with that identifier is visible to this customer."

def refundForbiddenRefusal : Refusal where
  error := forbidden
  reason := .refundBlockedForbidden
  text := "REFUND_FORBIDDEN: this customer cannot refund that order."

def refundIneligibleRefusal : Refusal where
  error := invalidTransition
  reason := .refundBlockedIneligible
  text := "REFUND_INELIGIBLE: the order cannot be refunded from its current state."

variable (service : SupportAgentService World)

/-- The tool functions; only `get_policy` does not ask the model to retry. -/
def runTool : ToolCall → Action (Turn World) ToolReply
  | .getOrderStatus orderId =>
    toolFunction "get_order_status"
      [orderNotFoundRefusal,
        ⟨forbidden, .forbidden, "FORBIDDEN: this customer cannot access that order."⟩]
      true (service.getOrderStatus orderId)
      fun order => "ORDER " ++ order.id.str ++ " STATUS " ++ order.status.value
  | .getPolicy slug =>
    toolFunction "get_policy"
      [⟨policyNotFound, .toolError,
        "POLICY_NOT_FOUND: no policy document is available; escalate."⟩]
      false (service.getPolicy slug)
      fun policy => "POLICY VERSION " ++ policy.version ++ "\n" ++ policy.content
  | .proposeRefund orderId =>
    toolFunction "propose_refund"
      [refundForbiddenRefusal, orderNotFoundRefusal, refundIneligibleRefusal]
      true (service.proposeRefund orderId)
      fun proposal => "PROPOSAL " ++ proposal.proposalId.str ++ " READY for order " ++
        proposal.orderId.str ++ "; amount " ++ proposal.amount.str ++ "; policy version " ++
        proposal.policyVersion ++
        ". Explicit customer confirmation is required before execution."
  | .confirmRefund orderId =>
    toolFunction "confirm_refund"
      [⟨refundNotConfirmed, .refundBlockedUnconfirmed,
          "REFUND_NOT_CONFIRMED: there is no matching confirmation for this " ++
            "order. Propose the refund again or escalate."⟩,
        refundForbiddenRefusal, refundIneligibleRefusal]
      true (service.confirmRefund orderId)
      fun order => "REFUND CONFIRMED for order " ++ order.id.str ++ "; status is now " ++
        order.status.value ++ "."
  | .escalate subject =>
    toolFunction "escalate" [] true (service.escalate (String.ofList (subject.toList.take 200)))
      fun ticket => "ESCALATED: support ticket " ++ ticket.id.str ++ " was created."

end Tools

/-! ## The answer model -/

/-- The final answer of the model. -/
structure AnswerDraft where
  intent : RouteIntent
deriving DecidableEq

/-- A strategy of the answer model: it ends with a draft or with an exception of the model library,
or calls a tool and goes on from the reply. -/
inductive AnswerModel where
  | draft (draft : AnswerDraft)
  | fails (name message : String)
  | calls (call : ToolCall) (next : ToolReply → AnswerModel)

section Answer

variable {World : Type} (service : SupportAgentService World) (tools : List String)

/-- One tool call of the model. A call of a tool that is not registered has no effect. -/
def answerCall (call : ToolCall) : Action (Turn World) ToolReply :=
  if call.name ∈ tools then runTool service call
  else pure (.retry ("Unknown tool name: " ++ call.name))

/-- `agent.run(...)` -/
def runAnswer : AnswerModel → Action (Turn World) AnswerDraft
  | .draft draft => return draft
  | .fails name message => throw (.other name message)
  | .calls call next => do
    let reply ← answerCall service tools call
    runAnswer (next reply)

end Answer

/-! ## The plan of a turn -/

def toolsByIntent : RouteIntent → List String
  | .orderStatus => ["get_order_status", "escalate"]
  | .policy => ["get_policy", "escalate"]
  | .refund => ["get_order_status", "propose_refund", "confirm_refund", "escalate"]
  | .escalate => []

inductive PlannedAction where
  | answer | escalate
deriving DecidableEq

structure RoutingPlan where
  action : PlannedAction
  reasonCode : ReasonCode

/-- A request that needs an order reference and lacks one is escalated. -/
def planTurn (routing : RoutingDecision) : RoutingPlan :=
  if routing.intent = .escalate then ⟨.escalate, .escalated⟩
  else if routing.intent = .orderStatus ∧ routing.orderId = none then
    ⟨.escalate, .escalatedMissingReference⟩
  else if routing.intent = .refund ∧ routing.orderId = none then
    ⟨.escalate, .refundBlockedMissingReference⟩
  else ⟨.answer, .orderStatusOk⟩

/-- What the hosted model does in one turn; `none` is a routing that fails. -/
structure TurnScript where
  routing : Option RoutingDecision
  answer : AnswerModel

def failedResponse : SupportResponse where
  intent := .escalate
  outcome := .failed
  reasonCode := .modelError

/-- `escalate_turn(...)`: escalate without another model call. -/
def escalateTurn {World : Type} (service : SupportAgentService World) (reasonCode : ReasonCode) :
    Action (Turn World) SupportResponse := do
  let _ ← service.escalate ("Escalated support request (" ++ reasonCode.value ++ ")")
  return { intent := .escalate, outcome := .escalated, reasonCode := reasonCode }

/-- The order whose refund is confirmed after the answer: proposed, confirmed by the request, and
not confirmed yet. -/
def confirmationDue (routing : RoutingDecision) (refundConfirmed : Bool) (state : ServiceState) :
    Option Uuid :=
  if routing.intent = .refund ∧ refundConfirmed = true ∧
      (state.pendingProposal routing.orderId).isSome = true ∧
      (state.confirmedRefundFor routing.orderId).isNone = true then routing.orderId
  else none

/-- Whether a policy answer is grounded in the accepted policy. -/
def isGrounded (instructionsVersion : String) (state : ServiceState) : Bool :=
  state.retrievedPolicyVersion = some acceptedPolicyVersion && instructionsVersion = "1" &&
    decide ("get_policy" ∈ state.toolCalls)

/-- `_assemble(...)`: the response, and whether a policy answer was grounded. -/
def assemble (instructionsVersion : String) (routing : RoutingDecision) (draft : AnswerDraft)
    (state : ServiceState) (retryCount : ℕ) : SupportResponse × Option Bool :=
  match draft.intent with
  | .orderStatus =>
    let reason : ReasonCode :=
      if state.lastOrder.isNone then .orderNotFound
      else if 0 < retryCount then .okWithRetry
      else .orderStatusOk
    (⟨.orderStatus, .completed, reason⟩, none)
  | .policy =>
    if isGrounded instructionsVersion state then
      (⟨.policy, .completed, .policyAnswer⟩, some true)
    else (⟨.policy, .blocked, .policyAnswerUngrounded⟩, some false)
  | .refund =>
    if (state.confirmedRefundFor routing.orderId).isSome then
      (⟨.refund, .completed, .refundConfirmed⟩, none)
    else if (state.pendingProposal routing.orderId).isSome then
      (⟨.refund, .completed, .refundProposed⟩, none)
    else (⟨.refund, .blocked, state.lastToolError.getD .refundBlockedUnconfirmed⟩, none)
  | .escalate =>
    if state.lastEscalation.isNone then (⟨.escalate, .blocked, .toolError⟩, none)
    else (⟨.escalate, .escalated, .escalated⟩, none)

/-! ## The agent -/

/-- The reference agent, without its model. -/
structure PydanticAISupportAgent (World : Type) where
  repository : SupportRepository (Action World)
  answerInstructionsVersion : String
  toolsOverride : Option (List String) := none
  proposalIds : ℕ → Uuid

namespace PydanticAISupportAgent

variable {World : Type} (agent : PydanticAISupportAgent World)

/-- The tools that the answer model of an intent may call. -/
def tools (intent : RouteIntent) : List String := agent.toolsOverride.getD (toolsByIntent intent)

/-- The service of a turn. -/
def service (request : SupportRequest) : SupportAgentService World where
  repository := agent.repository
  customerId := request.customerId
  refundConfirmed := request.refundConfirmed
  proposalIds := agent.proposalIds

/-- The response after the model answered, with the automatic confirmation before it. -/
def respond (request : SupportRequest) (routing : RoutingDecision) (draft : AnswerDraft) :
    Action (Turn World) (SupportResponse × Option Bool) := do
  let state := (← get).service
  match confirmationDue routing request.refundConfirmed state with
  | some orderId => do
    let _ ← (agent.service request).confirmRefund orderId
  | none => pure ()
  let turn ← get
  return assemble agent.answerInstructionsVersion routing draft turn.service turn.retryCount

/-- The run of the answer model of a turn. -/
def runModel (request : SupportRequest) (routing : RoutingDecision) (model : AnswerModel) :
    Action (Turn World) AnswerDraft :=
  span "support_agent.answer"
    (runAnswer (agent.service request) (agent.tools routing.intent) model)

/-- `_answer(...)` -/
def answer (request : SupportRequest) (routing : RoutingDecision) (model : AnswerModel) :
    Action (Turn World) (SupportResponse × Option Bool) := do
  match ← attempt (agent.runModel request routing model) with
  | .error _ => return (failedResponse, none)
  | .ok draft => agent.respond request routing draft

/-- A turn after its routing. -/
def act (request : SupportRequest) (routing : Option RoutingDecision) (model : AnswerModel) :
    Action (Turn World) (SupportResponse × Option Bool) :=
  match routing with
  | none => return (failedResponse, none)
  | some routing =>
    match (planTurn routing).action with
    | .escalate => do
      let response ← escalateTurn (agent.service request) (planTurn routing).reasonCode
      return (response, none)
    | .answer => agent.answer request routing model

/-- `handle(request)`: one complete turn, on a new service. -/
def handle (request : SupportRequest) (script : TurnScript) :
    Action (Turn World) SupportResponse := do
  modify fun turn => { turn with service := {}, retryCount := 0 }
  span "support_agent.turn" do
    span "support_agent.routing" (pure ())
    let (response, grounded) ← agent.act request script.routing script.answer
    if let some grounded := grounded then
      setAttribute "support.policy.grounded" (.bool grounded)
    return response

end PydanticAISupportAgent

/-! ## What every tool keeps -/

section Invariant

variable {World : Type} {service : SupportAgentService World} {I broken : Turn World → Prop}

/-- A property of a turn that no log of its spans, retries and tool calls falsifies. -/
structure LogStable (I : Turn World → Prop) : Prop where
  stable : Stable I
  retried : ∀ turn n, I turn → I { turn with retryCount := n }
  recorded : ∀ turn calls, I turn →
    I { turn with service := { turn.service with toolCalls := calls } }

/-- The database refused the text of a tool, and left a broken turn behind. -/
def Refused (broken : Turn World → Prop) (e : PyError) (turn : Turn World) : Prop :=
  e = invalidText ∧ broken turn

theorem stable_or_refused (hI : Stable I) (hbroken : Stable broken) (e : PyError) :
    Stable fun turn => I turn ∨ Refused broken e turn := fun turn _ hmore =>
  Or.imp (hI turn _ hmore) fun hrefused => ⟨hrefused.1, hbroken turn _ hmore hrefused.2⟩

namespace LogStable

theorem transientFailure (h : LogStable I) : Keeps I transientFailure := by
  refine Keeps.bind (triple_modify fun turn hI => h.retried turn _ hI) fun _ => ?_
  refine Keeps.bind (span_triple h.stable (fun _ => h.stable) (fun _ => h.stable)
    (setError_triple h.stable)) fun _ => ?_
  exact Keeps.bind (setAttribute_triple h.stable) fun _ => triple_pure fun _ hI => hI

/-- **What the call of the service leaves behind, its tool function leaves behind.** It hands the
error of a refused text on. -/
theorem toolFunction (h : LogStable I) {P : Turn World → Prop} (hP : Stable P)
    (hbroken : Stable broken) {α : Type} {name : String} {refusals : List Refusal}
    (hrefusals : refusals.find? (·.error = invalidText) = none) {retries : Bool}
    {call : Action (Turn World) α} {reply : α → String}
    (hcall : Triple P call (fun _ => I) fun e turn => I turn ∨ Refused broken e turn) :
    Triple P (toolFunction name refusals retries call reply) (fun _ => I)
      fun e turn => I turn ∨ Refused broken e turn := by
  refine span_triple hP (fun _ => h.stable) (stable_or_refused h.stable hbroken) ?_
  refine triple_attempt_bind hcall (fun a => ?_) fun e => ?_
  · exact triple_bind (triple_modify fun turn hI => h.recorded turn _ hI) fun _ =>
      triple_pure fun _ hI => hI
  · cases hrefusal : refusals.find? (·.error = e) with
    | some refusal =>
      have hhandled : e ≠ invalidText := by
        rintro rfl
        rw [hrefusals] at hrefusal
        cases hrefusal
      simp only [hrefusal]
      refine triple_mono (P := I) ?_ (fun turn hE => hE.resolve_right fun hrefused =>
        hhandled hrefused.1) (fun _ _ hQ => hQ) fun _ _ hE => Or.inl hE
      exact Keeps.bind (setAttribute_triple h.stable) fun _ =>
        Keeps.bind (setError_triple h.stable) fun _ => triple_pure fun _ hI => hI
    | none =>
      simp only [hrefusal]
      split
      · rename_i hretry
        have hhandled : e ≠ invalidText := by
          rintro rfl
          rw [Bool.and_eq_true] at hretry
          cases hretry.2
        exact triple_mono h.transientFailure (fun turn hE => hE.resolve_right fun hrefused =>
          hhandled hrefused.1) (fun _ _ hQ => hQ) fun _ _ hE => Or.inl hE
      · exact triple_throw fun _ hE => hE

end LogStable

/-- **What every tool function keeps, the run of any model keeps**, by induction on the strategy of
the model. -/
theorem runAnswer_keeps (h : ∀ call, KeepsUnless (Refused broken) I (runTool service call))
    (tools : List String) (model : AnswerModel) :
    KeepsUnless (Refused broken) I (runAnswer service tools model) := by
  induction model with
  | draft draft => exact triple_pure fun _ hI => hI
  | fails name message => exact triple_throw fun _ hI => Or.inl hI
  | calls call next ih =>
    refine KeepsUnless.bind ?_ ih
    unfold answerCall
    split
    · exact h call
    · exact triple_pure fun _ hI => hI

/-- What a confirmation keeps, the response keeps. -/
theorem respond_keeps {agent : PydanticAISupportAgent World} {request : SupportRequest}
    (h : ∀ orderId, Keeps I ((agent.service request).confirmRefund orderId))
    (routing : RoutingDecision) (draft : AnswerDraft) :
    Keeps I (agent.respond request routing draft) := by
  have hassemble : Keeps (ε := PyError) I (do
      let turn ← get
      return assemble agent.answerInstructionsVersion routing draft turn.service turn.retryCount) :=
    fun _ hI => hI
  refine Keeps.bind (triple_get fun _ hI => hI) fun read => ?_
  cases hdue : confirmationDue routing request.refundConfirmed read.service with
  | none =>
    simp only [hdue]
    exact hassemble
  | some orderId =>
    simp only [hdue]
    exact (h orderId).bind fun _ => hassemble

/-- **What every tool of a service keeps**, whatever the turn logs of its spans, retries and tool
calls. A text that the database refuses breaks the turn. -/
structure ToolInvariant (service : SupportAgentService World) (I broken : Turn World → Prop) :
    Prop where
  stable : Stable I
  retried : ∀ turn n, I turn → I { turn with retryCount := n }
  recorded : ∀ turn calls, I turn →
    I { turn with service := { turn.service with toolCalls := calls } }
  brokenStable : Stable broken
  getOrderStatus : ∀ orderId, Keeps I (service.getOrderStatus orderId)
  getPolicy : ∀ slug, KeepsUnless (Refused broken) I (service.getPolicy slug)
  proposeRefund : ∀ orderId, Keeps I (service.proposeRefund orderId)
  confirmRefund : ∀ orderId, Keeps I (service.confirmRefund orderId)
  escalate : ∀ subject, KeepsUnless (Refused broken) I (service.escalate subject)

namespace ToolInvariant

theorem logStable (h : ToolInvariant service I broken) : LogStable I :=
  ⟨h.stable, h.retried, h.recorded⟩

theorem runTool (h : ToolInvariant service I broken) (call : ToolCall) :
    KeepsUnless (Refused broken) I (runTool service call) := by
  cases call with
  | getOrderStatus orderId =>
    exact h.logStable.toolFunction h.stable h.brokenStable rfl (h.getOrderStatus orderId).unless
  | getPolicy slug =>
    exact h.logStable.toolFunction h.stable h.brokenStable rfl (h.getPolicy slug)
  | proposeRefund orderId =>
    exact h.logStable.toolFunction h.stable h.brokenStable rfl (h.proposeRefund orderId).unless
  | confirmRefund orderId =>
    exact h.logStable.toolFunction h.stable h.brokenStable rfl (h.confirmRefund orderId).unless
  | escalate subject =>
    exact h.logStable.toolFunction h.stable h.brokenStable rfl (h.escalate _)

theorem runAnswer (h : ToolInvariant service I broken) (tools : List String)
    (model : AnswerModel) : KeepsUnless (Refused broken) I (runAnswer service tools model) :=
  runAnswer_keeps h.runTool tools model

theorem runModel {agent : PydanticAISupportAgent World} {request : SupportRequest}
    (h : ToolInvariant (agent.service request) I broken) (routing : RoutingDecision)
    (model : AnswerModel) :
    KeepsUnless (Refused broken) I (agent.runModel request routing model) :=
  span_triple h.stable (fun _ => h.stable) (stable_or_refused h.stable h.brokenStable)
    (h.runAnswer _ model)

end ToolInvariant

end Invariant

/-! ## The names of the spans -/

section Names

variable {World α : Type}

/-- The names of the ended spans of a turn. -/
def Turn.spanNames (turn : Turn World) : List String := turn.telemetry.ended.map (·.name)

/-- **A span ends after the spans of its body**, whether the body returns or raises. -/
theorem span_names {names : List String} {body : Action (Turn World) α} {more : List String}
    (name : String) (h : Triple (·.spanNames = names) body (fun _ turn => turn.spanNames = more)
      fun _ turn => turn.spanNames = more) :
    Triple (·.spanNames = names) (span name body) (fun _ turn => turn.spanNames = more ++ [name])
      fun _ turn => turn.spanNames = more ++ [name] := by
  intro turn hnames
  have hleave : ∀ after : Turn World, after.spanNames = more →
      ({ after with telemetry := after.telemetry.leave name turn.telemetry.current } :
        Turn World).spanNames = more ++ [name] := by
    intro after hafter
    rw [← hafter]
    exact List.map_append
  have hentered : ({ turn with telemetry := turn.telemetry.enter name } :
      Turn World).spanNames = names := hnames
  rw [run_span]
  cases hrun : body.run { turn with telemetry := turn.telemetry.enter name } with
  | ok a after => exact hleave after (h.ok hentered hrun)
  | error e after => exact hleave after (h.error hentered hrun)

/-- After a span, it has ended. -/
theorem span_ended (name : String) (body : Action (Turn World) α) :
    Triple (fun _ => True) (span name body) (fun _ turn => name ∈ turn.spanNames)
      fun _ turn => name ∈ turn.spanNames := by
  intro turn _
  have hleave : ∀ after : Turn World, name ∈
      ({ after with telemetry := after.telemetry.leave name turn.telemetry.current } :
        Turn World).spanNames := fun _ =>
    List.mem_map.mpr ⟨_, List.mem_append_right _ (List.mem_singleton_self _), rfl⟩
  rw [run_span]
  cases body.run { turn with telemetry := turn.telemetry.enter name } with
  | ok a after => exact hleave after
  | error e after => exact hleave after

end Names

/-! ## The whole turn -/

section Handle

variable {World : Type} {agent : PydanticAISupportAgent World} {request : SupportRequest}
  {script : TurnScript}

/-- The turn in which the plan of a request is carried out: a new service, after the routing. -/
def Turn.start (turn : Turn World) : Turn World where
  world := turn.world
  telemetry :=
    { current := some { name := "support_agent.turn" }
      ended := turn.telemetry.ended ++ [{ name := "support_agent.routing" }] }

/-- The turn after its plan, with its span ended. -/
def Turn.finish (turn : Turn World) (grounded : Option Bool) (outer : Option TraceSpan) :
    Turn World :=
  let telemetry := match grounded with
    | some grounded =>
      turn.telemetry.onSpan (·.setAttribute "support.policy.grounded" (.bool grounded))
    | none => turn.telemetry
  { turn with telemetry := telemetry.leave "support_agent.turn" outer }

/-- **A turn returns or raises what its plan does**, and after the plan it only ends its span. -/
theorem run_handle (turn : Turn World) :
    (agent.handle request script).run turn =
      match (agent.act request script.routing script.answer).run turn.start with
      | .ok (response, grounded) acted =>
        .ok response (acted.finish grounded turn.telemetry.current)
      | .error e acted => .error e (acted.finish none turn.telemetry.current) := by
  unfold PydanticAISupportAgent.handle
  rw [EStateM.run_bind]
  change EStateM.run (span _ _) { turn with service := {}, retryCount := 0 } = _
  rw [run_span, EStateM.run_bind, run_span]
  simp only [EStateM.run_pure, EStateM.run_bind]
  have hstart : Turn.mk turn.world {} 0
      (((turn.telemetry.enter "support_agent.turn").enter "support_agent.routing").leave
        "support_agent.routing" (turn.telemetry.enter "support_agent.turn").current) =
      turn.start := rfl
  rw [hstart]
  cases (agent.act request script.routing script.answer).run turn.start with
  | ok result acted =>
    obtain ⟨response, grounded⟩ := result
    cases grounded with
    | none => rfl
    | some grounded => rfl
  | error e acted => rfl

end Handle

end ObservabilityLab
