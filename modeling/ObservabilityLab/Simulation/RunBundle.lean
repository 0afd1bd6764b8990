import ObservabilityLab.Agent.Turn
import ObservabilityLab.Bundle.Compiler
import ObservabilityLab.Simulation.Faults
import ObservabilityLab.Simulation.Runner

/-!
# The single-bundle runner

A run checks its bundle, provisions a disposable environment, runs one turn of an agent in it,
captures the final state, evaluates the run, and always destroys the environment. Every failure of
a step becomes a typed error; a failure of the cleanup never replaces an earlier one.

The state of a run keeps the steps that were called, with what each raised.

## Main definitions

* `Provisioner`: a disposable environment, by the effect of its steps
* `Metrics.onSpanEnded`: the measurements that the runner takes from the spans of a turn
* `classify`, `runVerdict`: the classification of a turn and of a run
* `runBundle`: one run

## Main results

* `run_execute`: in an opened environment, a run captures what its turn left behind
* `runBundle_returns_iff`: when a run returns, and what it returns
-/

namespace ObservabilityLab

open Python Raising

/-! ## Errors -/

/-- `isinstance(error, DomainError)` -/
def PyError.isDomain : PyError → Bool
  | .domain .. => true
  | _ => false

def invalidSimulationBundleError (detail : String) : PyError :=
  .domain "invalid_simulation_bundle" ("Simulation bundle cannot drive a run: " ++ detail)
    unprocessableEntity

def environmentRunError (detail : String) : PyError :=
  .domain "environment_failure" ("The simulation environment failed: " ++ detail)
    unprocessableEntity

def modelRunError (detail : String) : PyError :=
  .domain "model_failure" ("The hosted model failed during the simulation: " ++ detail)
    unprocessableEntity

def cleanupRunError (detail : String) : PyError :=
  .domain "cleanup_failure" ("The simulation environment could not be cleaned up: " ++ detail)
    unprocessableEntity

/-- `MissingSimulationCoverageError`, which shares its code with the error of the compiler. -/
def isMissingSimulationCoverage : PyError → Bool
  | .domain code message _ =>
    code = "missing_simulation_coverage" &&
      "No simulated dependency covers tool ".toList.isPrefixOf message.toList
  | _ => false

/-! ## The environment -/

/-- What a provisioner factory builds an environment from. -/
structure EnvironmentRequest where
  scenario : SimulationScenario
  faultScript : Option FaultScript

/-- One disposable environment: its coverage, and its steps. -/
structure Provisioner (World : Type) where
  coverage : CoverageItem
  create : Action World Unit
  seed : SimulationState → Action World Unit
  connect : Action World (SupportRepository (Action World))
  finalState : Action World SimulationState
  mutations : Action World (List StateMutation)
  destroy : Action World Unit

/-- One turn of an agent on its repository, by the version of its answer instructions; building the
agent may raise. -/
abbrev AgentFactory (World : Type) :=
  SupportRepository (Action World) → String →
    Raises (SupportRequest → Action (Turn World) SupportResponse)

def ownedDatabase : String := "support.database"

section Checks

variable [UnicodeTables]

/-- Reject dependencies that the reference agent cannot reach. -/
def rejectUnreachableDependencies (scenario : SimulationScenario) (bundle : SimulationBundle) :
    Raises Unit := do
  forM scenario.requiredDependencyCoverage fun requirement =>
    raiseIf (requirement.dependency ≠ ownedDatabase)
      (invalidSimulationBundleError ("the reference agent cannot use declared dependency " ++
        reprText requirement.dependency ++ " during execution; the reference agent " ++
        "is wired only to the owned support.database"))
  forM bundle.dependencyFixtures fun fixture =>
    .error <| invalidSimulationBundleError <|
      if fixture.dependency = ownedDatabase then
        "recorded fixtures must not replace support.database; owned-system " ++
          "state must use stateful environment seeds"
      else
        "recorded fixtures for dependency " ++ reprText fixture.dependency ++ " cannot " ++
          "reach the reference agent during execution; the reference agent " ++
          "is wired only to the owned support.database"

/-- Reject fault scripts that name another boundary. -/
def rejectInvalidFaultBoundary (bundle : SimulationBundle) : Raises Unit :=
  match bundle.faultScript with
  | none => .ok ()
  | some script =>
    raiseIf (!script.entries.isEmpty && script.dependency ≠ ownedDatabase)
      (invalidSimulationBundleError ("fault script targets dependency " ++
        reprText script.dependency ++ ", but the run environment is " ++
        reprText ownedDatabase ++
          "; a fault script may only wrap the environment that receives it"))

variable [FloatRepr] [HashFunctions] [ValidationTexts]

/-- A bundle that may run: its identity, its scenario and its environment. -/
structure Prepared (World : Type) where
  bundleId : Uuid
  contentHash : HexDigest
  scenario : SimulationScenario
  provisioner : Provisioner World

/-- The checks of a run before its environment is created. -/
def prepareRun {World : Type} (factory : EnvironmentRequest → Raises (Provisioner World))
    (bundle : SimulationBundle) : Raises (Prepared World) :=
  match bundle.bundleId, bundle.contentHash with
  | some bundleId, some contentHash => do
    let scenario ← match scenarioFromBundle bundle with
      | .error (.validation model detail) =>
        .error (invalidSimulationBundleError ("bundle cannot reconstruct a scenario: " ++
          (PyError.validation model detail).str))
      | result => result
    rejectInvalidFaultBoundary bundle
    rejectUnreachableDependencies scenario bundle
    let provisioner ← factory { scenario := scenario, faultScript := bundle.faultScript }
    raiseIf (!provisioner.coverage.tools.Nodup)
      (.value "tools offered by more than one adapter")
    let missing := (scenario.requiredDependencyCoverage.filter fun requirement =>
      !requirementIsCovered requirement [provisioner.coverage]).map (·.dependency)
    raiseIf (missing ≠ []) (missingCoverageError scenario.scenarioId missing)
    .ok { bundleId, contentHash, scenario, provisioner }
  | _, _ => .error (invalidSimulationBundleError "bundle has no derived identifier or content hash")

end Checks

/-- The request of a bundle, as the agent takes it. -/
def BundleRequest.toSupportRequest (request : BundleRequest) : SupportRequest where
  customerId := request.customerId
  message := request.message
  refundConfirmed := request.refundConfirmed
  messageLength := request.messageLength

theorem BundleRequest.new_eq_ok (request : BundleRequest) :
    SupportRequest.new request.customerId request.message request.refundConfirmed =
      .ok request.toSupportRequest := dif_pos request.messageLength

/-! ## Measurements -/

/-- The measurements that a run takes from the spans of its turn. -/
structure Metrics where
  retries : ℕ := 0
  toolCalls : List String := []
  toolErrors : List String := []
  retrievedPolicyVersion : Option String := none
  policyGrounded : Option Bool := none

/-- What the clock and the hosted model measure. -/
structure RunMeasurements where
  totalLatencyMs : PyFloat
  totalTokens : ℕ
  costUsd : Option PyFloat

def toolSpanPrefix : String := "support_agent.tool."

/-- The tool of a tool span. -/
def toolOfSpan (name : String) : Option String :=
  if toolSpanPrefix.toList.isPrefixOf name.toList then
    some (String.ofList (name.toList.drop toolSpanPrefix.length))
  else none

section Spans

variable [UnicodeTables] [FloatRepr]

/-- `span.error_code or span.attributes.get("tool.error.code")` -/
def TraceSpan.toolError (span : TraceSpan) : Option String :=
  match span.errorCode.filter (· ≠ "") with
  | some code => some code
  | none => (span.attributes.lookup "tool.error.code").map PyValue.toText

/-- `_SpanEventMapper.__call__(span, ended=True)`, without its events. -/
def Metrics.onSpanEnded (metrics : Metrics) (span : TraceSpan) : Metrics :=
  match toolOfSpan span.name with
  | some tool =>
    { metrics with
      toolCalls := metrics.toolCalls ++ [tool]
      toolErrors := metrics.toolErrors ++ span.toolError.toList }
  | none =>
    if span.name = "support_agent.retry" then { metrics with retries := metrics.retries + 1 }
    else if span.name = "support_agent.retrieval.policy" then
      match span.attributes.lookup "retrieval.policy.version" with
      | some (.str version) => { metrics with retrievedPolicyVersion := some version }
      | _ => metrics
    else if span.name = "support_agent.turn" then
      match span.attributes.lookup "support.policy.grounded" with
      | some (.bool grounded) => { metrics with policyGrounded := some grounded }
      | _ => metrics
    else metrics

/-- The measurements after all ended spans. -/
def metricsOfSpans (spans : List TraceSpan) : Metrics := spans.foldl Metrics.onSpanEnded {}

end Spans

/-! ## The run -/

/-- The steps of a run in its environment. -/
inductive RunStep where
  | create | seed | connect | agent | handle | finalState | mutations | destroy
deriving DecidableEq

/-- The state of a run: the world, and the steps that were called with what they raised. -/
structure Running (World : Type) where
  world : World
  calls : List (RunStep × Option PyError) := []

/-- The error of a run, with the cleanup failure that is attached to it. -/
structure RunFailure where
  error : PyError
  cleanupFailure : Option PyError := none

/-- What a run knows when its environment was used. -/
structure Execution where
  response : Option SupportResponse
  aborted : Option RunVerdict
  spans : List TraceSpan
  finalState : SimulationState
  mutations : List StateMutation

section Run

variable {World : Type} [ValidationTexts]

omit [ValidationTexts] in
/-- A call on the world of a run. -/
def onRunWorld {α : Type} (x : Action World α) : Action (Running World) α :=
  zoom Running.world (fun world run => { run with world := world }) x

/-- What a call raised. -/
def raisedBy {α : Type} : Except PyError α → Option PyError
  | .ok _ => none
  | .error e => some e

omit [ValidationTexts] in
def recordStep (step : RunStep) (raised : Option PyError) : Action (Running World) Unit :=
  modify fun run => { run with calls := run.calls ++ [(step, raised)] }

omit [ValidationTexts] in
/-- One step of the environment. -/
def runStep {α : Type} (step : RunStep) (x : Action World α) : Action (Running World) α := do
  let result ← attempt (onRunWorld x)
  recordStep step (raisedBy result)
  MonadExcept.ofExcept result

omit [ValidationTexts] in
/-- What a turn on a world returns or raises, with the spans that it ended. -/
def turnOn (turn : Action (Turn World) SupportResponse) :
    Action World (Except PyError SupportResponse × List TraceSpan) := fun world =>
  let result := turn.run { world := world }
  .ok (outcome result, (finalState result).telemetry.ended) (finalState result).world

/-- The exceptions of a turn that classify its run, instead of failing it. -/
def abortVerdict (e : PyError) : Option RunVerdict :=
  if isUnexpectedAccess e then some .unexpectedAccess
  else if isMissingSimulationCoverage e then some .missingCoverage
  else none

/-- The typed error of a turn that fails its run. -/
def turnError (e : PyError) : PyError := if e.isDomain then e else modelRunError e.str

/-- The typed error of another step. -/
def environmentError (e : PyError) : PyError := if e.isDomain then e else environmentRunError e.str

/-- The error that a failed step raises out of a run. -/
def stepError : RunStep → PyError → PyError
  | .handle, e => turnError e
  | .destroy, e => cleanupRunError e.str
  | _, e => environmentError e

/-- The response of a turn, or the verdict of a turn that aborts its run. -/
def classify : Except PyError SupportResponse → Raises (Option SupportResponse × Option RunVerdict)
  | .ok response => .ok (some response, none)
  | .error e =>
    match abortVerdict e with
    | some verdict => .ok (none, some verdict)
    | none => .error (turnError e)

def answerInstructionsVersion : String := "1"

/-- `a or b` of optional texts. -/
def orText (a b : Option String) : Option String := (a.filter (· ≠ "")).or b

/-- The version of the answer instructions that a run uses. -/
def instructionsVersion (options : RunOptions) (bundle : SimulationBundle) : String :=
  (orText options.answerInstructionsVersion
    (orText bundle.configurationVersions.answerInstructionsVersion
      (some answerInstructionsVersion))).getD answerInstructionsVersion

omit [ValidationTexts] in
/-- The steps that make an environment ready for its agent. -/
def openEnvironment (prepared : Prepared World) :
    Action (Running World) (SupportRepository (Action World)) := do
  runStep .create prepared.provisioner.create
  runStep .seed (prepared.provisioner.seed prepared.scenario.initialState)
  runStep .connect prepared.provisioner.connect

/-- The classification of a turn, and the capture of its final state. -/
def captureRun (prepared : Prepared World) (result : Except PyError SupportResponse)
    (spans : List TraceSpan) : Action (Running World) Execution := do
  let (response, aborted) ← MonadExcept.ofExcept (classify result)
  let finalState ← runStep .finalState prepared.provisioner.finalState
  let mutations ← runStep .mutations prepared.provisioner.mutations
  return { response, aborted, spans, finalState, mutations }

/-- The steps of a run until its state is captured. -/
def execute (prepared : Prepared World) (agents : AgentFactory World) (options : RunOptions)
    (bundle : SimulationBundle) : Action (Running World) Execution := do
  let repository ← openEnvironment prepared
  let request ← MonadExcept.ofExcept (SupportRequest.new bundle.scenario.request.customerId
    bundle.scenario.request.message bundle.scenario.request.refundConfirmed)
  let handle ← runStep .agent
    (MonadExcept.ofExcept (agents repository (instructionsVersion options bundle)))
  let (result, spans) ← onRunWorld (turnOn (handle request))
  recordStep .handle (raisedBy result)
  captureRun prepared result spans

/-- A failure inside the environment becomes a typed error. -/
def typedErrors {α : Type} (x : Action (Running World) α) : Action (Running World) α := do
  match ← attempt x with
  | .ok a => return a
  | .error e => throw (environmentError e)

/-- `try: ... finally: await provisioner.destroy()`. A cleanup failure alone is raised; with an
exception in flight, it is attached to that exception. -/
def destroying {α : Type} (destroy : Action World Unit) (body : Action (Running World) α) :
    EStateM RunFailure (Running World) α := fun run =>
  let result := body.run run
  let cleanup := (runStep .destroy destroy).run (finalState result)
  match outcome result, outcome cleanup with
  | .ok a, .ok () => .ok a (finalState cleanup)
  | .ok _, .error e => .error { error := cleanupRunError e.str } (finalState cleanup)
  | .error pending, .ok () => .error { error := pending } (finalState cleanup)
  | .error pending, .error e =>
    .error { error := pending, cleanupFailure := some (cleanupRunError e.str) } (finalState cleanup)

end Run

/-! ## The classification of a run -/

section Judge

variable [UnicodeTables] [FloatRepr]

/-- The facts that the evaluators read. -/
def metricsFor (measured : RunMeasurements) (execution : Execution) : RunMetrics :=
  let metrics := metricsOfSpans execution.spans
  { outcome := execution.response.elim .failed (·.outcome)
    reasonCode := execution.response.elim .toolError (·.reasonCode)
    intent := execution.response.elim .escalate (·.intent)
    toolCalls := metrics.toolCalls
    toolErrors := metrics.toolErrors
    totalLatencyMs := execution.response.map fun _ => measured.totalLatencyMs
    tokens := some measured.totalTokens
    costUsd := measured.costUsd
    mutations := execution.mutations
    policyGrounded := metrics.policyGrounded
    retrievedPolicyVersion := metrics.retrievedPolicyVersion }

omit [UnicodeTables] [FloatRepr] in
/-- `_verdict(bundle, metrics, aborted)` -/
def runVerdict (bundle : SimulationBundle) (metrics : RunMetrics) (aborted : Option RunVerdict) :
    RunVerdict :=
  match aborted with
  | some verdict => verdict
  | none =>
    let expected := bundle.expectedBehavior
    if metrics.outcome = expected.outcome ∧ metrics.reasonCode ∈ expected.reasonCodes ∧
        (expected.policyGrounded = none ∨ metrics.policyGrounded = expected.policyGrounded) then
      .reproduced
    else if metrics.outcome = expected.outcome then .accepted
    else .failed

/-- The report of a run; a run without a response is not evaluated. -/
def reportFor (bundle : SimulationBundle) (evaluators : List Evaluator) (measured : RunMeasurements)
    (execution : Execution) : Raises EvaluatorReport :=
  if execution.response.isSome ∧ execution.aborted.isNone then
    runEvaluators bundle (metricsFor measured execution) evaluators
  else .ok {}

variable {World : Type}

/-- The transcript of a run. -/
def simulationRun (prepared : Prepared World) (bundle : SimulationBundle)
    (measured : RunMeasurements) (execution : Execution) (report : EvaluatorReport) :
    SimulationRun :=
  let metrics := metricsFor measured execution
  { bundleId := prepared.bundleId
    bundleContentHash := prepared.contentHash
    scenarioId := bundle.scenario.scenarioId
    verdict := runVerdict bundle metrics execution.aborted
    response := execution.response
    mutations := execution.mutations
    evaluators := report
    totalLatencyMs := metrics.totalLatencyMs
    totalTokens := measured.totalTokens
    costUsd := measured.costUsd
    retries := (metricsOfSpans execution.spans).retries
    toolCalls := metrics.toolCalls }

variable [HashFunctions] [ValidationTexts]

/-- `run_bundle(...)` -/
def runBundle (factory : EnvironmentRequest → Raises (Provisioner World))
    (agents : AgentFactory World) (evaluators : List Evaluator) (measured : RunMeasurements)
    (options : RunOptions) (bundle : SimulationBundle) :
    EStateM RunFailure (Running World) SimulationRun := do
  let prepared ← MonadExcept.ofExcept
    ((prepareRun factory bundle).mapError fun e => ({ error := e } : RunFailure))
  let (execution, report) ← destroying prepared.provisioner.destroy do
    let execution ← typedErrors (execute prepared agents options bundle)
    let report ← MonadExcept.ofExcept (reportFor bundle evaluators measured execution)
    return (execution, report)
  return simulationRun prepared bundle measured execution report

end Judge

/-! ## What a run that returns did -/

section Returned

variable {World : Type}

theorem run_onRunWorld {α : Type} (x : Action World α) (run : Running World) :
    (onRunWorld x).run run = match x.run run.world with
      | .ok a world => .ok a { run with world := world }
      | .error e world => .error e { run with world := world } := by
  unfold onRunWorld
  rw [run_zoom]
  cases x.run run.world with
  | ok a world => rfl
  | error e world => rfl

theorem ofExcept_eq_ok {α : Type} {result : Except PyError α} {run after : Running World} {a : α} :
    (MonadExcept.ofExcept result : Action (Running World) α).run run = .ok a after ↔
      result = .ok a ∧ run = after := by
  cases result with
  | ok b =>
    change EStateM.Result.ok b run = .ok a after ↔ _
    simp
  | error e =>
    change EStateM.Result.error e run = .ok a after ↔ _
    simp

/-- A step of the environment returns when its call does. -/
theorem runStep_eq_ok {α : Type} {step : RunStep} {x : Action World α} {run after : Running World}
    {a : α} :
    (runStep step x).run run = .ok a after ↔ ∃ world, x.run run.world = .ok a world ∧
      after = { world := world, calls := run.calls ++ [(step, none)] } := by
  unfold runStep
  rw [EStateM.run_bind, run_attempt, run_onRunWorld]
  cases x.run run.world with
  | ok b world =>
    change EStateM.Result.ok b _ = .ok a after ↔ _
    constructor
    · intro h
      cases h
      exact ⟨world, rfl, rfl⟩
    · rintro ⟨_, h, rfl⟩
      cases h
      rfl
  | error e world =>
    change EStateM.Result.error e _ = .ok a after ↔ _
    simp

variable [ValidationTexts]

theorem run_destroying {α : Type} (destroy : Action World Unit) (body : Action (Running World) α)
    (run : Running World) :
    (destroying destroy body).run run =
      let cleanup := (runStep .destroy destroy).run (finalState (body.run run))
      match outcome (body.run run), outcome cleanup with
      | .ok a, .ok () => .ok a (finalState cleanup)
      | .ok _, .error e => .error { error := cleanupRunError e.str } (finalState cleanup)
      | .error pending, .ok () => .error { error := pending } (finalState cleanup)
      | .error pending, .error e => .error
        { error := pending, cleanupFailure := some (cleanupRunError e.str) } (finalState cleanup) :=
  rfl

/-- The body of a run returns when its cleanup does. -/
theorem destroying_eq_ok {α : Type} {destroy : Action World Unit} {body : Action (Running World) α}
    {run after : Running World} {a : α} :
    (destroying destroy body).run run = .ok a after ↔ ∃ before world,
      body.run run = .ok a before ∧ destroy.run before.world = .ok () world ∧
        after = { world := world, calls := before.calls ++ [(.destroy, none)] } := by
  rw [run_destroying]
  constructor
  · intro h
    cases hbody : body.run run with
    | error e before =>
      rw [hbody] at h
      cases hcleanup : (runStep .destroy destroy).run before with
      | ok a closed => simp [hcleanup] at h
      | error e closed => simp [hcleanup] at h
    | ok b before =>
      rw [hbody] at h
      cases hcleanup : (runStep .destroy destroy).run before with
      | error e closed => simp [hcleanup] at h
      | ok u closed =>
        simp only [finalState_ok, outcome_ok, hcleanup, EStateM.Result.ok.injEq] at h
        obtain ⟨rfl, rfl⟩ := h
        obtain ⟨world, hworld, hafter⟩ := runStep_eq_ok.mp hcleanup
        exact ⟨before, world, rfl, hworld, hafter⟩
  · rintro ⟨before, world, hbody, hdestroy, rfl⟩
    have hcleanup : (runStep .destroy destroy).run before = .ok ()
        { world := world, calls := before.calls ++ [(.destroy, none)] } :=
      runStep_eq_ok.mpr ⟨world, hdestroy, rfl⟩
    simp only [hbody, finalState_ok, outcome_ok, hcleanup]

/-- A run of typed errors returns when its body does. -/
theorem typedErrors_eq_ok {α : Type} {x : Action (Running World) α} {run after : Running World}
    {a : α} : (typedErrors x).run run = .ok a after ↔ x.run run = .ok a after := by
  unfold typedErrors
  rw [EStateM.run_bind, run_attempt]
  cases x.run run with
  | ok b before => rfl
  | error e before =>
    change EStateM.Result.error _ before = .ok a after ↔ _
    simp

/-- What the capture of a run returned. -/
theorem captureRun_eq_ok {prepared : Prepared World} {result : Except PyError SupportResponse}
    {spans : List TraceSpan} {run after : Running World} {execution : Execution} :
    (captureRun prepared result spans).run run = .ok execution after ↔
      ∃ classified state captured mutations world, classify result = .ok classified ∧
        prepared.provisioner.finalState.run run.world = .ok state captured ∧
        prepared.provisioner.mutations.run captured = .ok mutations world ∧
        execution = { response := classified.1, aborted := classified.2, spans := spans,
                      finalState := state, mutations := mutations } ∧
        after = { world := world
                  calls := run.calls ++ [(.finalState, none)] ++ [(.mutations, none)] } := by
  unfold captureRun
  simp only [run_bind_eq_ok, ofExcept_eq_ok, runStep_eq_ok]
  constructor
  · rintro ⟨classified, _, ⟨hclassified, rfl⟩, state, _, ⟨captured, hstate, rfl⟩, mutations, _,
      ⟨world, hmutations, rfl⟩, hrun⟩
    cases hrun
    exact ⟨classified, state, captured, mutations, world, hclassified, hstate, hmutations, rfl, rfl⟩
  · rintro ⟨classified, state, captured, mutations, world, hclassified, hstate, hmutations, rfl,
      rfl⟩
    exact ⟨classified, _, ⟨hclassified, rfl⟩, state, _, ⟨captured, hstate, rfl⟩, mutations, _,
      ⟨world, hmutations, rfl⟩, rfl⟩

variable {prepared : Prepared World} {bundle : SimulationBundle} {options : RunOptions}
  {agents : AgentFactory World} {repository : SupportRepository (Action World)}
  {handle : SupportRequest → Action (Turn World) SupportResponse} {run opened : Running World}

/-- The turn of a run in an opened environment. -/
def turnResult (bundle : SimulationBundle)
    (handle : SupportRequest → Action (Turn World) SupportResponse) (opened : Running World) :
    EStateM.Result PyError (Turn World) SupportResponse :=
  (handle bundle.scenario.request.toSupportRequest).run { world := opened.world }

/-- An execution in an opened environment captures the run after its turn. -/
theorem run_execute (hopened : (openEnvironment prepared).run run = .ok repository opened)
    (hagent : agents repository (instructionsVersion options bundle) = .ok handle) :
    (execute prepared agents options bundle).run run =
      (captureRun prepared (outcome (turnResult bundle handle opened))
        (finalState (turnResult bundle handle opened)).telemetry.ended).run
        { world := (finalState (turnResult bundle handle opened)).world
          calls := opened.calls ++ [(.agent, none)] ++
            [(.handle, raisedBy (outcome (turnResult bundle handle opened)))] } := by
  unfold execute
  rw [EStateM.run_bind, hopened, BundleRequest.new_eq_ok]
  simp only [hagent]
  rfl

variable [UnicodeTables] [FloatRepr] [HashFunctions]

/-- **When a run in an opened environment returns**: its turn is classified, its state is captured,
its evaluators return, and its environment is destroyed. -/
theorem runBundle_returns_iff {factory : EnvironmentRequest → Raises (Provisioner World)}
    {evaluators : List Evaluator} {measured : RunMeasurements} {world : World}
    (hprepared : prepareRun factory bundle = .ok prepared)
    (hopened : (openEnvironment prepared).run { world := world } = .ok repository opened)
    (hagent : agents repository (instructionsVersion options bundle) = .ok handle)
    {run : SimulationRun} :
    (∃ after, (runBundle factory agents evaluators measured options bundle).run
        { world := world } = .ok run after) ↔
      ∃ execution captured written report closed,
        classify (outcome (turnResult bundle handle opened)) =
          .ok (execution.response, execution.aborted) ∧
        execution.spans = (finalState (turnResult bundle handle opened)).telemetry.ended ∧
        prepared.provisioner.finalState.run (finalState (turnResult bundle handle opened)).world =
          .ok execution.finalState captured ∧
        prepared.provisioner.mutations.run captured = .ok execution.mutations written ∧
        reportFor bundle evaluators measured execution = .ok report ∧
        prepared.provisioner.destroy.run written = .ok () closed ∧
        run = simulationRun prepared bundle measured execution report := by
  unfold runBundle
  rw [hprepared]
  change (∃ after, (destroying _ _ >>= _).run _ = _) ↔ _
  simp only [run_bind_eq_ok, destroying_eq_ok, typedErrors_eq_ok, ofExcept_eq_ok,
    run_execute hopened hagent, captureRun_eq_ok]
  constructor
  · rintro ⟨after, ⟨execution, report⟩, _, ⟨_, closed, ⟨_, _, ⟨classified, state, captured,
      mutations, written, hclassify, hstate, hmutations, rfl, rfl⟩, _, _, ⟨hreport, rfl⟩, hpair⟩,
      hdestroy, rfl⟩, hrun⟩
    cases hpair
    cases hrun
    exact ⟨_, captured, written, report, closed, hclassify, rfl, hstate, hmutations, hreport,
      hdestroy, rfl⟩
  · rintro ⟨execution, captured, written, report, closed, hclassify, hspans, hstate, hmutations,
      hreport, hdestroy, rfl⟩
    refine ⟨_, (execution, report), _, ⟨_, closed, ⟨execution, _, ⟨_, _, captured, _, written,
      hclassify, hstate, hmutations, ?_, rfl⟩, report, _, ⟨hreport, rfl⟩, rfl⟩, hdestroy, rfl⟩, rfl⟩
    rw [← hspans]

end Returned

end ObservabilityLab
