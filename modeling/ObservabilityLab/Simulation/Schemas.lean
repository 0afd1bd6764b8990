import ObservabilityLab.Agent.Schemas
import ObservabilityLab.Support.Schemas

/-!
# Simulation scenarios

The vendor-neutral scenario: its request, workflow context, initial state, eligible actions,
expected behavior, budgets and required coverage, with the JSON dump that its content hash covers.

## Main definitions

* `ExpectedStateTransition`: a transition with the contract of its resource id as a field
* `ExpectedBehavior`: what a reviewer accepts
* `SimulationScenario`, `SimulationScenario.new`: a scenario, and its validating constructor
* `computeScenarioHash`: the content hash of a scenario
-/

namespace ObservabilityLab

open Python

inductive SimulationCategory where
  | answerFailure | retrievalFailure | infrastructureFailure | toolFailure | policyFailure
  | inefficiency | latencyFailure | costComparison
deriving DecidableEq

def SimulationCategory.value : SimulationCategory → String
  | answerFailure => "answer_failure"
  | retrievalFailure => "retrieval_failure"
  | infrastructureFailure => "infrastructure_failure"
  | toolFailure => "tool_failure"
  | policyFailure => "policy_failure"
  | inefficiency => "inefficiency"
  | latencyFailure => "latency_failure"
  | costComparison => "cost_comparison"

/-- The approved business state of one scenario. -/
structure SimulationState where
  orders : List OrderRead := []
  tickets : List TicketRead := []
  policies : List PolicyDocumentRead := []
deriving DecidableEq

structure WorkflowContext where
  workflow : String
  workflowVersion : String
  environment : String := "local"
  routingInstructionsVersion : Option String := none
  answerInstructionsVersion : Option String := none
  modelProvider : Option String := none
  modelName : Option String := none
deriving DecidableEq

structure SimulationBudgets where
  performanceBudgetMs : Option ℕ := none
  maxTokens : Option ℕ := none
  maxCostUsd : Option PyFloat := none

/-- The resources that a transition may name. -/
inductive TransitionResource where
  | order | ticket
deriving DecidableEq

def TransitionResource.value : TransitionResource → String
  | order => "order"
  | ticket => "ticket"

/-- Either one concrete identifier, or the wildcard of a newly created ticket. -/
def resourceIdContract (resource : TransitionResource) (resourceId : Option Uuid)
    (anyResourceId : Bool) (fromStatus : Option String) (toStatus reasonCode : String) : Bool :=
  if anyResourceId then
    resourceId.isNone && resource = .ticket && reasonCode = "ticket_created" &&
      fromStatus.isNone && toStatus = "created"
  else resourceId.isSome

/-- One accepted business-state transition. -/
structure ExpectedStateTransition where
  resource : TransitionResource
  resourceId : Option Uuid
  anyResourceId : Bool
  fromStatus : Option String
  toStatus : String
  reasonCode : String
  contract :
    resourceIdContract resource resourceId anyResourceId fromStatus toStatus reasonCode = true

/-- The behavior that the lab accepts for one scenario. -/
structure ExpectedBehavior where
  outcome : SupportOutcome
  reasonCodes : List ReasonCode
  policyGrounded : Option Bool := none
  policyVersion : Option String := none
  stateTransitions : List ExpectedStateTransition := []
  permittedStateTransitions : List ExpectedStateTransition := []
  budgets : SimulationBudgets := {}
  note : Option String := none
  policyVersionLength : optionWithin 50 policyVersion = true

theorem optionWithin_none : optionWithin 50 none = true := rfl

/-- What production did. -/
structure OriginalProductionBehavior where
  outcome : SupportOutcome
  reasonCode : Option ReasonCode
  source : Option String
  note : Option String

/-- How a required dependency may be simulated. -/
inductive RequirementKind where
  | recorded | stateful | either
deriving DecidableEq

def RequirementKind.value : RequirementKind → String
  | recorded => "recorded"
  | stateful => "stateful"
  | either => "either"

structure DependencyCoverageRequirement where
  dependency : String
  kind : RequirementKind := .either
  tools : List String := []
deriving DecidableEq

structure ScenarioEvidenceRef where
  platform : String
  project : Option String
  traceId : String
  url : Option String

/-- One versioned simulation scenario. -/
structure SimulationScenario where
  schemaVersion : String := "1.0.0"
  scenarioId : String
  title : String
  category : SimulationCategory
  request : SupportRequest
  workflowContext : WorkflowContext
  initialState : SimulationState
  eligibleActions : List String
  expectedBehavior : ExpectedBehavior
  originalProductionBehavior : Option OriginalProductionBehavior := none
  requiredDependencyCoverage : List DependencyCoverageRequirement := []
  evidenceRef : Option ScenarioEvidenceRef := none
  localOnlyFields : List String := []
  contentHash : Option HexDigest := none
  titleLength : lengthWithin 1 300 title = true
  actionsNodup : eligibleActions.Nodup
  dependenciesNodup : (requiredDependencyCoverage.map (·.dependency)).Nodup

/-! ## JSON dumps -/

section Dumps

open PyValue

def OrderRead.dump (o : OrderRead) : PyValue :=
  dict [("customer_id", str o.customerId.str), ("status", str o.status.value),
    ("total_amount", str o.totalAmount.str), ("id", str o.id.str)]

def TicketRead.dump (t : TicketRead) : PyValue :=
  dict [("customer_id", str t.customerId.str), ("order_id", ofOption (t.orderId.map Uuid.str)),
    ("subject", str t.subject), ("status", str t.status.value), ("id", str t.id.str)]

def PolicyDocumentRead.dump (p : PolicyDocumentRead) : PyValue :=
  dict [("id", str p.id.str), ("slug", str p.slug), ("version", str p.version),
    ("title", str p.title), ("content", str p.content), ("content_hash", str p.contentHash)]

def SimulationState.dump (s : SimulationState) : PyValue :=
  dict [("orders", list (s.orders.map OrderRead.dump)),
    ("tickets", list (s.tickets.map TicketRead.dump)),
    ("policies", list (s.policies.map PolicyDocumentRead.dump))]

def SupportRequest.dump (r : SupportRequest) : PyValue :=
  dict [("customer_id", str r.customerId.str), ("message", str r.message),
    ("refund_confirmed", bool r.refundConfirmed)]

def WorkflowContext.dump (w : WorkflowContext) : PyValue :=
  dict [("workflow", str w.workflow), ("workflow_version", str w.workflowVersion),
    ("environment", str w.environment),
    ("routing_instructions_version", ofOption w.routingInstructionsVersion),
    ("answer_instructions_version", ofOption w.answerInstructionsVersion),
    ("model_provider", ofOption w.modelProvider), ("model_name", ofOption w.modelName)]

def SimulationBudgets.dump (b : SimulationBudgets) : PyValue :=
  dict [("performance_budget_ms", b.performanceBudgetMs.elim none fun n => int n),
    ("max_tokens", b.maxTokens.elim none fun n => int n),
    ("max_cost_usd", b.maxCostUsd.elim none float)]

def ExpectedStateTransition.dump (t : ExpectedStateTransition) : PyValue :=
  dict [("resource", str t.resource.value), ("resource_id", ofOption (t.resourceId.map Uuid.str)),
    ("any_resource_id", bool t.anyResourceId), ("from_status", ofOption t.fromStatus),
    ("to_status", str t.toStatus), ("reason_code", str t.reasonCode)]

def ExpectedBehavior.dump (e : ExpectedBehavior) : PyValue :=
  dict [("outcome", str e.outcome.value),
    ("reason_codes", ofTexts (e.reasonCodes.map ReasonCode.value)),
    ("policy_grounded", e.policyGrounded.elim none bool),
    ("policy_version", ofOption e.policyVersion),
    ("state_transitions", list (e.stateTransitions.map ExpectedStateTransition.dump)),
    ("permitted_state_transitions",
      list (e.permittedStateTransitions.map ExpectedStateTransition.dump)),
    ("budgets", e.budgets.dump), ("note", ofOption e.note)]

def OriginalProductionBehavior.dump (o : OriginalProductionBehavior) : PyValue :=
  dict [("outcome", str o.outcome.value), ("reason_code", ofOption (o.reasonCode.map (·.value))),
    ("source", ofOption o.source), ("note", ofOption o.note)]

def DependencyCoverageRequirement.dump (r : DependencyCoverageRequirement) : PyValue :=
  dict [("dependency", str r.dependency), ("kind", str r.kind.value), ("tools", ofTexts r.tools)]

def ScenarioEvidenceRef.dump (r : ScenarioEvidenceRef) : PyValue :=
  dict [("platform", str r.platform), ("project", ofOption r.project),
    ("trace_id", str r.traceId), ("url", ofOption r.url)]

/-- `scenario.model_dump(mode="json", exclude={"content_hash"})` -/
def SimulationScenario.dump (s : SimulationScenario) : PyValue :=
  dict [("schema_version", str s.schemaVersion), ("scenario_id", str s.scenarioId),
    ("title", str s.title), ("category", str s.category.value), ("request", s.request.dump),
    ("workflow_context", s.workflowContext.dump), ("initial_state", s.initialState.dump),
    ("eligible_actions", ofTexts s.eligibleActions),
    ("expected_behavior", s.expectedBehavior.dump),
    ("original_production_behavior",
      s.originalProductionBehavior.elim none OriginalProductionBehavior.dump),
    ("required_dependency_coverage",
      list (s.requiredDependencyCoverage.map DependencyCoverageRequirement.dump)),
    ("evidence_ref", s.evidenceRef.elim none ScenarioEvidenceRef.dump),
    ("local_only_fields", ofTexts s.localOnlyFields)]

end Dumps

/-- The stable hash of a scenario, which excludes the stored hash itself. -/
def computeScenarioHash [HashFunctions] (scenario : SimulationScenario) : HexDigest :=
  HashFunctions.jsonSha256 scenario.dump

/-! ## Constructors -/

section Constructors

variable [UnicodeTables]

/-- A full match of `^phase2-\d{2}-[a-z0-9-]+$`. -/
def isScenarioId (s : String) : Bool :=
  "phase2-".toList.isPrefixOf s.toList &&
    match s.toList.drop 7 with
    | d₁ :: d₂ :: '-' :: c :: cs =>
      isDecimalDigit d₁ && isDecimalDigit d₂ &&
        (c :: cs).all fun c => isLower c || isAsciiDigit c || c = '-'
    | _ => false

/-- `SupportRequest(...)` -/
def SupportRequest.new (customerId : Uuid) (message : String) (refundConfirmed : Bool) :
    Raises SupportRequest :=
  if h : lengthWithin 1 2000 message = true then .ok ⟨customerId, message, refundConfirmed, h⟩
  else .error (.validation "SupportRequest" "message")

/-- `SimulationScenario(...)` of the fields that a bundle carries. The fields are checked in order,
then the actions and the requirements; the validator stores the content hash. -/
def SimulationScenario.new [HashFunctions] (schemaVersion scenarioId title : String)
    (category : SimulationCategory) (request : SupportRequest) (workflowContext : WorkflowContext)
    (initialState : SimulationState) (eligibleActions : List String)
    (expectedBehavior : ExpectedBehavior)
    (requiredDependencyCoverage : List DependencyCoverageRequirement) :
    Raises SimulationScenario := do
  checkField (matchesVersion schemaVersion) "SimulationScenario" "schema_version"
  checkField (isScenarioId scenarioId) "SimulationScenario" "scenario_id"
  if hTitle : lengthWithin 1 300 title = true then
    if hActions : eligibleActions.Nodup then
      if hDependencies : (requiredDependencyCoverage.map (·.dependency)).Nodup then
        let scenario : SimulationScenario :=
          { schemaVersion, scenarioId, title, category, request, workflowContext, initialState,
            eligibleActions, expectedBehavior, requiredDependencyCoverage,
            titleLength := hTitle, actionsNodup := hActions, dependenciesNodup := hDependencies }
        .ok { scenario with contentHash := some (computeScenarioHash scenario) }
      else .error (.validation "SimulationScenario" "required_dependency_coverage")
    else .error (.validation "SimulationScenario" "eligible_actions")
  else .error (.validation "SimulationScenario" "title")

/-- A scenario whose other fields are valid is built exactly when its title fits. -/
theorem SimulationScenario.new_eq_ok [HashFunctions] {schemaVersion scenarioId title : String}
    {category : SimulationCategory} {request : SupportRequest} {workflowContext : WorkflowContext}
    {initialState : SimulationState} {eligibleActions : List String}
    {expectedBehavior : ExpectedBehavior}
    {requiredDependencyCoverage : List DependencyCoverageRequirement}
    (hversion : matchesVersion schemaVersion = true) (hid : isScenarioId scenarioId = true)
    (hactions : eligibleActions.Nodup)
    (hdependencies : (requiredDependencyCoverage.map (·.dependency)).Nodup)
    {scenario : SimulationScenario} :
    SimulationScenario.new schemaVersion scenarioId title category request workflowContext
        initialState eligibleActions expectedBehavior requiredDependencyCoverage = .ok scenario ↔
      ∃ (htitle : lengthWithin 1 300 title = true) (draft : SimulationScenario),
        draft =
          { schemaVersion := schemaVersion
            scenarioId := scenarioId
            title := title
            category := category
            request := request
            workflowContext := workflowContext
            initialState := initialState
            eligibleActions := eligibleActions
            expectedBehavior := expectedBehavior
            requiredDependencyCoverage := requiredDependencyCoverage
            titleLength := htitle
            actionsNodup := hactions
            dependenciesNodup := hdependencies } ∧
        { draft with contentHash := some (computeScenarioHash draft) } = scenario := by
  rw [SimulationScenario.new, check_bind_eq_ok, check_bind_eq_ok, checkField_eq_ok,
    checkField_eq_ok]
  split_ifs with htitle
  · simp only [hversion, hid, true_and, Except.ok.injEq, exists_eq_left, htitle, exists_true_left]
  · simp only [htitle, reduceCtorEq, and_false, IsEmpty.exists_iff]

end Constructors

end ObservabilityLab
