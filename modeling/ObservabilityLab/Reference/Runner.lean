import ObservabilityLab.Library.Dictionary
import ObservabilityLab.Library.Iterations
import ObservabilityLab.Library.Raising
import ObservabilityLab.Reference.Faults
import ObservabilityLab.Simulation.Events

/-!
# The reference runner

`run_reference_case`: the tools of a workflow are called in the order of a plan, with the fault
script at the tool boundary, and a call that times out is tried again. What the case came to is
decided by the observer and the state transitions.

## Main definitions

* `resolveArguments`, `captureResult`: arguments that refer to the results of earlier tools
* `CaseState`, `CaseState.turn`: the state of the loop, and one turn
* `executePlan`: the loop
* `ReferenceRun`, `runReferenceCase`: one side of one case

## Main results

* `Turn`, `turn_cases`: what one turn does
* `executePlan_stops`: the loop ends
* `runReferenceCase_eq_ok`: which runs return, and what they report
-/

namespace ObservabilityLab.Reference

open Python

/-! ## Arguments and results -/

/-- `[A-Za-z0-9_]` -/
def isNameChar (c : Char) : Bool := isAsciiLetter c || isAsciiDigit c || c = '_'

/-- `[^ ;,]` -/
def isValueChar (c : Char) : Bool := c ∉ [' ', ';', ',']

/-- A match of `([A-Za-z][A-Za-z0-9_]{1,31})=([^ ;,]+)` at the beginning: its groups, and the
characters behind it. -/
def matchCapture : List Char → Option ((String × String) × List Char)
  | [] => none
  | c :: cs =>
    let name := (cs.take 31).takeWhile isNameChar
    match isAsciiLetter c && !name.isEmpty, cs.drop name.length with
    | true, '=' :: behind =>
      if behind.takeWhile isValueChar = [] then none
      else some ((String.ofList (c :: name), String.ofList (behind.takeWhile isValueChar)),
        behind.dropWhile isValueChar)
    | _, _ => none

/-- The matches in some characters, from the left and without overlap; the fuel is their number. -/
def capturesIn : ℕ → List Char → List (String × String)
  | 0, _ => []
  | _ + 1, [] => []
  | fuel + 1, c :: cs =>
    match matchCapture (c :: cs) with
    | some (capture, behind) => capture :: capturesIn fuel behind
    | none => capturesIn fuel cs

/-- `_capture_result(tool_name, result)` -/
def captureResult (result : String) : List (String × String) :=
  Dictionary.alters ((capturesIn result.length result.toList).map fun capture =>
    (capture.1, fun _ => capture.2))

/-- `text.partition(".")`, without the separator. -/
def partitionDot (text : String) : String × String :=
  (String.ofList (text.toList.takeWhile (· ≠ '.')),
    String.ofList ((text.toList.dropWhile (· ≠ '.')).drop 1))

section Runner

variable [UnicodeTables] [FloatRepr]

omit [FloatRepr] in
/-- One argument; a text `$tool.key` stands for what the tool returned under the key. -/
def resolveArgument (results : List (String × List (String × String))) (value : PyValue) :
    Raises PyValue :=
  match value with
  | .str text =>
    match text.toList with
    | '$' :: reference =>
      let (tool, field) := partitionDot (String.ofList reference)
      match ((results.lookup tool).getD []).lookup field with
      | some captured => .ok (.str captured)
      | none => .error (.value ("unresolved argument " ++ reprText text ++ ": " ++ reprText tool ++
          " returned no captured " ++ reprText field))
    | _ => .ok value
  | _ => .ok value

omit [FloatRepr] in
/-- `_resolve_arguments(call, results)` -/
def resolveArguments (call : ReferenceToolCall)
    (results : List (String × List (String × String))) : Raises Record :=
  call.arguments.mapM fun entry => do
    let value ← resolveArgument results entry.2
    .ok (entry.1, value)

omit [FloatRepr] in
/-- An argument that is not resolved is a `ValueError`. -/
theorem resolveArguments_eq_error {call : ReferenceToolCall}
    {results : List (String × List (String × String))} {e : PyError}
    (h : resolveArguments call results = .error e) : ∃ message, e = .value message := by
  have honly : OnlyRaises (fun e => ∃ message, e = .value message)
      (resolveArguments call results) := by
    unfold resolveArguments
    apply onlyRaises_mapM
    intro entry
    apply OnlyRaises.bind
    · unfold resolveArgument
      split
      · split
        · dsimp only
          split
          · exact onlyRaises_ok _
          · exact onlyRaises_error ⟨_, rfl⟩
        · exact onlyRaises_ok _
      · exact onlyRaises_ok _
    · intro value
      exact onlyRaises_ok _
  exact honly e h

/-! ## The loop -/

/-- Where the loop stands: it goes on, or it ended behind the last call, with a tool that the
workflow does not offer, at a gate that was not verified, with the last retry of a call, or by an
exception. -/
inductive LoopStatus where
  | running | finished | unknownTool | gateMissing | retriesExhausted
  | raised (error : PyError)
deriving DecidableEq

def maxRetriesPerCall : ℕ := 2

/-- `except TimeoutError` -/
def isTimeout : PyError → Bool
  | .other name _ => name = "TimeoutError"
  | _ => false

/-- The repository and the local variables of the loop. -/
structure CaseState (σ : Type) where
  repository : σ
  status : LoopStatus := .running
  index : ℕ := 0
  attempts : ℕ := 0
  toolCalls : List String := []
  errors : List String := []
  retries : ℕ := 0
  safetyOk : Bool := true
  tokens : ℕ := 0
  results : List (String × List (String × String)) := []
  consumed : List ℕ := []
  events : List (SimulationEventKind × Record) := []

/-- The event of an injected fault. -/
def faultEvent (tool : String) (entry : FaultScriptEntry) : SimulationEventKind × Record :=
  (.faultInjected, [("fault.kind", .str entry.kind.value), ("fault.tool", .str tool)])

/-- The event of a dependency result, with its error code. -/
def dependencyResult (tool : String) (errorCode : Option String) : SimulationEventKind × Record :=
  (.dependencyResult, ("tool", .str tool) ::
    errorCode.toList.map fun code => ("tool.error.code", .str code))

namespace CaseState

variable {σ : Type} (workflow : ReferenceWorkflow σ) (plan : ReferencePlan) (state : CaseState σ)

/-- A planned call of a tool that the workflow does not offer. -/
def refuseTool (name : String) : CaseState σ :=
  { state with
    errors := state.errors ++ ["unknown tool " ++ reprText name]
    safetyOk := false
    status := .unknownTool }

/-- The tool of a planned call is selected. -/
def selectTool (tool : ReferenceTool σ) : CaseState σ :=
  { state with
    events := state.events ++ [(.toolSelected, [("tool", .str tool.name)])]
    toolCalls := state.toolCalls ++ [tool.name] }

/-- A selected tool without its approval gate. -/
def refuseGate (tool : ReferenceTool σ) : CaseState σ :=
  { state with
    errors := state.errors ++
      ["sensitive tool " ++ reprText tool.name ++ " used without the approval gate"]
    events := state.events ++ [dependencyResult tool.name (some "approval_required")]
    safetyOk := false
    status := .gateMissing }

/-- A call that returned. -/
def succeed (tool : ReferenceTool σ) (result : String) : CaseState σ :=
  let captured := captureResult result
  { state with
    events := state.events ++ [dependencyResult tool.name none]
    tokens := state.tokens + 18
    results := if captured = [] then state.results
      else Dictionary.alter state.results tool.name fun _ => captured
    attempts := 0
    index := state.index + 1 }

/-- A call that timed out; it is tried again, unless its retries are exhausted. -/
def timeOut (tool : ReferenceTool σ) : CaseState σ :=
  let failed := { state with
    errors := state.errors ++ [tool.name ++ ":timeout"]
    events := state.events ++ [dependencyResult tool.name (some "timeout")]
    attempts := state.attempts + 1 }
  if failed.attempts ≤ maxRetriesPerCall then
    { failed with
      retries := failed.retries + 1
      events := failed.events ++ [(.retry, [("retry.count", .int (failed.retries + 1))])] }
  else
    { failed with
      errors := failed.errors ++ [tool.name ++ ":retries_exhausted"]
      safetyOk := false
      status := .retriesExhausted }

/-- A tool that must not run: it is unsafe and protected by a gate that was not verified. -/
def Gated (tool : ReferenceTool σ) : Prop :=
  ¬ tool.safe = true ∧ workflow.expectation.gateRequired = true ∧ ¬ plan.gateVerified = true ∧
    tool.name ∈ workflow.expectation.protectedTools

instance (tool : ReferenceTool σ) : Decidable (Gated workflow plan tool) :=
  inferInstanceAs (Decidable (_ ∧ _))

/-- The body of the `try`: the arguments, the faults, and the tool. -/
def callTool (call : ReferenceToolCall) (tool : ReferenceTool σ) :
    Except PyError String × CaseState σ :=
  match resolveArguments call state.results with
  | .error e => (.error e, state)
  | .ok arguments =>
    let injection := applyFaults workflow.faultScript state.consumed tool.name arguments
    let faulted := { state with
      consumed := injection.consumed
      events := state.events ++
        injection.injected.map fun indexed => faultEvent tool.name indexed.1 }
    match injection.error with
    | some e => (.error e, faulted)
    | none =>
      match (tool.run arguments).run faulted.repository with
      | .ok result repository => (.ok result, { faulted with repository })
      | .error e repository => (.error e, { faulted with repository })

/-- What follows the `try`. -/
def settle (tool : ReferenceTool σ) : Except PyError String × CaseState σ → CaseState σ
  | (.ok result, called) => called.succeed tool result
  | (.error e, called) =>
    if isTimeout e then called.timeOut tool else { called with status := .raised e }

/-- One turn of the loop. -/
def turn : CaseState σ :=
  if state.status ≠ .running then state
  else match plan.toolCalls[state.index]? with
    | none => { state with status := .finished }
    | some call =>
      match workflow.toolByName call.tool with
      | none => state.refuseTool call.tool
      | some tool =>
        if Gated workflow plan tool then (state.selectTool tool).refuseGate tool
        else settle tool ((state.selectTool tool).callTool workflow call tool)

end CaseState

/-- The loop over the plan: every call has at most three attempts, and one more turn ends it. -/
def executePlan {σ : Type} (workflow : ReferenceWorkflow σ) (plan : ReferencePlan)
    (state : CaseState σ) : CaseState σ :=
  (CaseState.turn workflow plan)^[3 * plan.toolCalls.length + 1] state

/-! ## The run -/

/-- `_transition(mutation)` -/
def mutationTransition (mutation : Record) : Option String :=
  let field := ((mutation.lookup "field").getD (.str "")).toText
  let resource := ((mutation.lookup "resource").getD (.str "")).toText
  if field = "created" then some (resource ++ ":created")
  else if field = "status" then
    some (resource ++ ":" ++ ((mutation.lookup "before").getD (.str "?")).toText ++ "->" ++
      ((mutation.lookup "after").getD (.str "?")).toText)
  else none

/-- `_check_transitions(observed, expectation)` -/
def checkTransitions (observed : List String) (expectation : ReferenceExpectation) : List String :=
  (observed.filter (· ∉ expectation.permittedTransitions)).map
      (fun transition => "disallowed state transition " ++ reprText transition) ++
    (expectation.requiredTransitions.filter (· ∉ observed)).map
      fun transition => "missing required state transition " ++ reprText transition

inductive ReferenceVerdict where
  | reproduced | accepted | failed | unexpectedAccess | missingCoverage
deriving DecidableEq

def ReferenceVerdict.value : ReferenceVerdict → String
  | reproduced => "reproduced"
  | accepted => "accepted"
  | failed => "failed"
  | unexpectedAccess => "unexpected_access"
  | missingCoverage => "missing_coverage"

inductive ReferenceSide where
  | baseline | candidate
deriving DecidableEq

/-- The label of a side. -/
structure ReferenceLabel where
  text : String
  length : lengthWithin 1 200 text = true

/-- One normalized run, without its identifiers and clock readings. -/
structure ReferenceRun where
  workflowId : String
  side : ReferenceSide
  label : ReferenceLabel
  verdict : ReferenceVerdict
  outcome : String
  reasonCode : String
  gateVerified : Bool
  safetyOk : Bool
  events : List (SimulationEventKind × Record)
  mutations : List Record
  transitions : List String
  toolCalls : List String
  retries : ℕ
  tokens : ℕ
  costUsd : Option PyFloat
  errors : List String
  finalState : Record
  finalStateHash : String
  businessOutcome : String
  businessMetrics : Record
  cleanupOk : Bool
  outcomeLength : lengthWithin 1 100 outcome = true
  reasonLength : lengthWithin 1 100 reasonCode = true
  hashLength : lengthWithin 1 100 finalStateHash = true
  businessLength : lengthWithin 1 200 businessOutcome = true

/-- What the observer derived, or that it raised. -/
def observe {σ : Type} [ValidationTexts] (workflow : ReferenceWorkflow σ) (finalState : PyValue)
    (mutations : List Record) : ReferenceObservation × List String :=
  match workflow.observer finalState mutations with
  | .ok observation => (observation, [])
  | .error e =>
    ({ outcome := "failed"
       reasonCode := "observer_error"
       businessOutcome := "failed"
       metrics := [("error", .str (String.ofList (e.str.toList.take 200)))]
       outcomeLength := by decide
       reasonLength := by decide
       businessLength := by decide }, ["observer error: " ++ e.str])

/-- The verdict of a case, with its outcome and its reason. -/
structure CaseJudgement where
  verdict : ReferenceVerdict
  outcome : String
  reasonCode : String
  outcomeLength : lengthWithin 1 100 outcome = true
  reasonLength : lengthWithin 1 100 reasonCode = true

/-- The verdict, from whether the cleanup failed, the errors of the transitions, and the
observation. -/
def judgeCase (expectation : ReferenceExpectation) (cleanupFailed : Bool)
    (transitionErrors : List String) (observation : ReferenceObservation) : CaseJudgement :=
  if cleanupFailed then
    { verdict := .failed
      outcome := "failed"
      reasonCode := "cleanup_failed"
      outcomeLength := by decide
      reasonLength := by decide }
  else if transitionErrors ≠ [] then
    { verdict := .failed
      outcome := "failed"
      reasonCode := "transition_contract_violation"
      outcomeLength := by decide
      reasonLength := by decide }
  else
    { verdict :=
        if observation.outcome = expectation.outcome then
          if observation.reasonCode ∈ expectation.reasonCodes then .reproduced else .accepted
        else .failed
      outcome := observation.outcome
      reasonCode := observation.reasonCode
      outcomeLength := observation.outcomeLength
      reasonLength := observation.reasonLength }

omit [UnicodeTables] [FloatRepr] in
theorem digest_length (digest : HexDigest) : lengthWithin 1 100 digest.text = true := by
  have hdigest := digest.wellFormed
  rw [isHexDigest, Bool.and_eq_true, decide_eq_true_eq] at hdigest
  rw [lengthWithin, hdigest.1]
  rfl

variable [HashFunctions] [ValidationTexts] {σ : Type} (workflow : ReferenceWorkflow σ)
  (plan : ReferencePlan)

/-- The run that the finished loop, the final state and the cleanup come to. -/
def reportCase (side : ReferenceSide) (label : ReferenceLabel) (state : CaseState σ)
    (finalState : PyValue) (mutations : List Record) (cleanup : Except PyError Unit) :
    ReferenceRun :=
  let transitions := mutations.filterMap mutationTransition
  let observed := observe workflow finalState mutations
  let transitionErrors := checkTransitions transitions workflow.expectation
  let cleanupErrors := match cleanup with
    | .ok _ => []
    | .error e => ["cleanup failed: " ++ e.str]
  let errors := state.errors ++ observed.2 ++ transitionErrors ++ cleanupErrors
  let judgement := judgeCase workflow.expectation (!cleanupErrors.isEmpty) transitionErrors
    observed.1
  let destroyed := if cleanupErrors.isEmpty then
    [(SimulationEventKind.environmentDestroyed, [("environment.id", PyValue.str "reference")])]
    else []
  { workflowId := workflow.workflowId
    side, label
    verdict := judgement.verdict
    outcome := judgement.outcome
    reasonCode := judgement.reasonCode
    gateVerified := plan.gateVerified
    safetyOk := state.safetyOk
    events := state.events ++ destroyed ++
      [(.runCompleted, [("run.verdict", .str judgement.verdict.value),
        ("run.retries", .int state.retries), ("run.tokens.total", .int state.tokens),
        ("run.errors", .str (",".intercalate errors))])]
    mutations, transitions
    toolCalls := state.toolCalls
    retries := state.retries
    tokens := state.tokens
    costUsd := some (((PyFloat.ofRat state.tokens).mul (.ofRat (5 / 100000))).round 6)
    errors
    finalState := match finalState with
      | .dict entries => entries
      | _ => []
    finalStateHash := (HashFunctions.jsonSha256 finalState.jsonMode).text
    businessOutcome := observed.1.businessOutcome
    businessMetrics := observed.1.metrics
    cleanupOk := cleanupErrors.isEmpty
    outcomeLength := judgement.outcomeLength
    reasonLength := judgement.reasonLength
    hashLength := digest_length _
    businessLength := observed.1.businessLength }

/-- The loop starts with the events of the seeded environment. -/
def startCase (environmentId : String) (repository : σ) : CaseState σ where
  repository
  events := [(.environmentCreated, [("environment.id", .str environmentId)]),
    (.environmentSeeded, [("seed.orders", .int 0)])]

/-- The loop as a computation on the repository. -/
def executeCase (environmentId : String) : EStateM PyError σ (CaseState σ) := fun repository =>
  let state := executePlan workflow plan (startCase environmentId repository)
  match state.status with
  | .raised e => .error e state.repository
  | _ => .ok state state.repository

/-- `run_reference_case(workflow, plan, side, label)`; the repository is destroyed whatever happens
behind its seed, and what that raises is kept for the report. -/
def runReferenceCase (side : ReferenceSide) (label : ReferenceLabel) (environmentId : String) :
    EStateM PyError σ ReferenceRun := do
  workflow.repository.seed workflow.seedState
  workflow.repository.reset
  let evidence ← Raising.attempt do
    let state ← executeCase workflow plan environmentId
    let finalState ← workflow.repository.snapshot
    let mutations ← workflow.repository.mutations
    pure (state, finalState, mutations)
  let cleanup ← Raising.attempt workflow.repository.destroy
  let (state, finalState, mutations) ← MonadExcept.ofExcept evidence
  pure (reportCase workflow plan side label state finalState mutations cleanup)

end Runner

/-! ## What one turn does -/

section Turns

variable [UnicodeTables] [FloatRepr] {σ : Type} {workflow : ReferenceWorkflow σ}
  {plan : ReferencePlan} {state after : CaseState σ}

namespace CaseState

/-- One turn of the loop: it stands still, ends behind the last call, refuses a tool or a gate, or
tries a call, which returns, times out or raises. -/
inductive Turn (workflow : ReferenceWorkflow σ) (plan : ReferencePlan) (state : CaseState σ) :
    CaseState σ → Prop
  | stands (hstatus : state.status ≠ .running) : Turn workflow plan state state
  | finishes (hstatus : state.status = .running) (hcall : plan.toolCalls[state.index]? = none) :
    Turn workflow plan state { state with status := .finished }
  | refusesTool (call : ReferenceToolCall) (hstatus : state.status = .running)
      (hcall : plan.toolCalls[state.index]? = some call)
      (htool : workflow.toolByName call.tool = none) :
    Turn workflow plan state (state.refuseTool call.tool)
  | refusesGate (call : ReferenceToolCall) (tool : ReferenceTool σ)
      (hstatus : state.status = .running) (hcall : plan.toolCalls[state.index]? = some call)
      (htool : workflow.toolByName call.tool = some tool) (hgated : Gated workflow plan tool) :
    Turn workflow plan state ((state.selectTool tool).refuseGate tool)
  | returns (call : ReferenceToolCall) (tool : ReferenceTool σ) (result : String)
      (called : CaseState σ) (hstatus : state.status = .running)
      (hcall : plan.toolCalls[state.index]? = some call)
      (htool : workflow.toolByName call.tool = some tool) (hgated : ¬ Gated workflow plan tool)
      (hcalled : (state.selectTool tool).callTool workflow call tool = (.ok result, called)) :
    Turn workflow plan state (called.succeed tool result)
  | timesOut (call : ReferenceToolCall) (tool : ReferenceTool σ) (error : PyError)
      (called : CaseState σ) (hstatus : state.status = .running)
      (hcall : plan.toolCalls[state.index]? = some call)
      (htool : workflow.toolByName call.tool = some tool) (hgated : ¬ Gated workflow plan tool)
      (hcalled : (state.selectTool tool).callTool workflow call tool = (.error error, called))
      (htimeout : isTimeout error = true) :
    Turn workflow plan state (called.timeOut tool)
  | raises (call : ReferenceToolCall) (tool : ReferenceTool σ) (error : PyError)
      (called : CaseState σ) (hstatus : state.status = .running)
      (hcall : plan.toolCalls[state.index]? = some call)
      (htool : workflow.toolByName call.tool = some tool) (hgated : ¬ Gated workflow plan tool)
      (hcalled : (state.selectTool tool).callTool workflow call tool = (.error error, called))
      (htimeout : isTimeout error = false) :
    Turn workflow plan state { called with status := .raised error }

theorem turn_cases (workflow : ReferenceWorkflow σ) (plan : ReferencePlan) (state : CaseState σ) :
    Turn workflow plan state (state.turn workflow plan) := by
  unfold turn
  split_ifs with hstatus
  · exact .stands hstatus
  · rw [not_not] at hstatus
    cases hcall : plan.toolCalls[state.index]? with
    | none => exact .finishes hstatus hcall
    | some call =>
      dsimp only
      cases htool : workflow.toolByName call.tool with
      | none => exact .refusesTool call hstatus hcall htool
      | some tool =>
        dsimp only
        split_ifs with hgated
        · exact .refusesGate call tool hstatus hcall htool hgated
        · rcases hcalled : (state.selectTool tool).callTool workflow call tool with ⟨result, called⟩
          cases result with
          | ok result => exact .returns call tool result called hstatus hcall htool hgated hcalled
          | error error =>
            change Turn workflow plan state (if isTimeout error then called.timeOut tool
              else { called with status := .raised error })
            split_ifs with htimeout
            · exact .timesOut call tool error called hstatus hcall htool hgated hcalled htimeout
            · exact .raises call tool error called hstatus hcall htool hgated hcalled
                (Bool.eq_false_of_not_eq_true htimeout)

/-- A call changes the repository, the consumed faults and the events, and nothing else. -/
theorem callTool_frame (workflow : ReferenceWorkflow σ) (call : ReferenceToolCall)
    (tool : ReferenceTool σ) (state : CaseState σ) :
    ∃ repository consumed events, (state.callTool workflow call tool).2 =
      { state with repository, consumed, events } := by
  unfold callTool
  cases resolveArguments call state.results with
  | error e => exact ⟨_, _, _, rfl⟩
  | ok arguments =>
    dsimp only
    cases (applyFaults workflow.faultScript state.consumed tool.name arguments).error with
    | some e => exact ⟨_, _, _, rfl⟩
    | none =>
      dsimp only
      cases (tool.run arguments).run state.repository with
      | ok result repository => exact ⟨_, _, _, rfl⟩
      | error e repository => exact ⟨_, _, _, rfl⟩

/-- The state of a call that was tried. -/
theorem called_frame {call : ReferenceToolCall} {tool : ReferenceTool σ}
    {result : Except PyError String} {called : CaseState σ}
    (h : (state.selectTool tool).callTool workflow call tool = (result, called)) :
    ∃ repository consumed events,
      called = { state.selectTool tool with repository, consumed, events } := by
  obtain ⟨repository, consumed, events, hframe⟩ :=
    callTool_frame workflow call tool (state.selectTool tool)
  rw [h] at hframe
  exact ⟨repository, consumed, events, hframe⟩

end CaseState

/-! ## The loop ends -/

/-- A loop that still runs has made a turn for every attempt of every call so far. -/
structure Bounded (plan : ReferencePlan) (turns : ℕ) (state : CaseState σ) : Prop where
  turns : turns ≤ 3 * state.index + state.attempts
  attempts : state.attempts ≤ maxRetriesPerCall
  index : state.index ≤ plan.toolCalls.length
  pending : 0 < state.attempts → state.index < plan.toolCalls.length

theorem bounded_turn {turns : ℕ} (h : state.status = .running → Bounded plan turns state)
    (hrunning : (state.turn workflow plan).status = .running) :
    Bounded plan (turns + 1) (state.turn workflow plan) := by
  have hturn := state.turn_cases workflow plan
  generalize state.turn workflow plan = after at hturn hrunning
  cases hturn with
  | stands hstatus => exact absurd hrunning hstatus
  | finishes hstatus hcall => cases hrunning
  | refusesTool call hstatus hcall htool => cases hrunning
  | refusesGate call tool hstatus hcall htool hgated => cases hrunning
  | raises call tool error called hstatus hcall htool hgated hcalled htimeout => cases hrunning
  | returns call tool result called hstatus hcall htool hgated hcalled =>
    obtain ⟨repository, consumed, events, rfl⟩ := CaseState.called_frame hcalled
    have hbound := h hstatus
    have hturns := hbound.turns
    have hattempts := hbound.attempts
    have hindex := (List.getElem?_eq_some_iff.mp hcall).1
    constructor
    · change turns + 1 ≤ 3 * (state.index + 1) + 0
      unfold maxRetriesPerCall at hattempts
      omega
    · exact Nat.zero_le _
    · exact hindex
    · intro hpending
      cases hpending
  | timesOut call tool error called hstatus hcall htool hgated hcalled htimeout =>
    obtain ⟨repository, consumed, events, rfl⟩ := CaseState.called_frame hcalled
    have hbound := h hstatus
    have hturns := hbound.turns
    have hindex := (List.getElem?_eq_some_iff.mp hcall).1
    unfold CaseState.timeOut at hrunning ⊢
    dsimp only at hrunning ⊢
    split_ifs at hrunning ⊢ with hretry
    exact ⟨by change turns + 1 ≤ 3 * state.index + (state.attempts + 1); omega, hretry, hindex.le,
      fun _ => hindex⟩

/-- **The loop ends.** -/
theorem executePlan_stops (workflow : ReferenceWorkflow σ) (plan : ReferencePlan)
    (repository : σ) (environmentId : String) :
    (executePlan workflow plan (startCase environmentId repository)).status ≠ .running := by
  intro hrunning
  have hbounded : ∀ n, ((CaseState.turn workflow plan)^[n]
      (startCase environmentId repository)).status = .running →
        Bounded plan n ((CaseState.turn workflow plan)^[n]
          (startCase environmentId repository)) := by
    apply Iterations.iterate_preserves
      (I := fun n (state : CaseState σ) => state.status = .running → Bounded plan n state)
    · intro n state h
      exact bounded_turn h
    · intro _
      exact ⟨Nat.zero_le _, Nat.zero_le _, Nat.zero_le _, fun h => absurd h (lt_irrefl 0)⟩
  obtain ⟨hturns, hattempts, hindex, hpending⟩ := hbounded _ hrunning
  rw [maxRetriesPerCall] at hattempts
  by_cases hzero : 0 < (executePlan workflow plan (startCase environmentId repository)).attempts
  · have hlt := hpending hzero
    unfold executePlan at *
    omega
  · unfold executePlan at *
    omega

end Turns

/-! ## Runs that return -/

section Returned

variable [UnicodeTables] [FloatRepr] [HashFunctions] [ValidationTexts] {σ : Type}
  {workflow : ReferenceWorkflow σ} {plan : ReferencePlan} {side : ReferenceSide}
  {label : ReferenceLabel} {environmentId : String} {before after start left : σ}
  {run : ReferenceRun} {finalState : PyValue} {mutations : List Record}

omit [UnicodeTables] [FloatRepr] [HashFunctions] [ValidationTexts] in
/-- The repository at the start of the loop: it was seeded and reset. -/
def Seeded (workflow : ReferenceWorkflow σ) (before start : σ) : Prop :=
  ∃ seeded, (workflow.repository.seed workflow.seedState).run before = .ok () seeded ∧
    workflow.repository.reset.run seeded = .ok () start

/-- The evidence behind the loop: it did not end by an exception, and the final state and the
mutations were read. -/
def Gathered (workflow : ReferenceWorkflow σ) (plan : ReferencePlan) (environmentId : String)
    (start : σ) (finalState : PyValue) (mutations : List Record) (left : σ) : Prop :=
  (∀ e, (executePlan workflow plan (startCase environmentId start)).status ≠ .raised e) ∧
    ∃ read, workflow.repository.snapshot.run
        (executePlan workflow plan (startCase environmentId start)).repository =
          .ok finalState read ∧
      workflow.repository.mutations.run read = .ok mutations left

omit [HashFunctions] [ValidationTexts] in
theorem executeCase_eq_ok {state : CaseState σ} {stopped : σ} :
    (executeCase workflow plan environmentId).run start = .ok state stopped ↔
      (∀ e, (executePlan workflow plan (startCase environmentId start)).status ≠ .raised e) ∧
        state = executePlan workflow plan (startCase environmentId start) ∧
        stopped = (executePlan workflow plan (startCase environmentId start)).repository := by
  change executeCase workflow plan environmentId start = _ ↔ _
  unfold executeCase
  cases hstatus : (executePlan workflow plan (startCase environmentId start)).status with
  | raised e => simp [hstatus]
  | _ => simp [hstatus, eq_comm]

/-- **Which runs return**, and what they report. -/
theorem runReferenceCase_eq_ok :
    (runReferenceCase workflow plan side label environmentId).run before = .ok run after ↔
      ∃ start, Seeded workflow before start ∧ ∃ finalState mutations left,
        Gathered workflow plan environmentId start finalState mutations left ∧
        run = reportCase workflow plan side label
          (executePlan workflow plan (startCase environmentId start)) finalState mutations
          (Raising.outcome (workflow.repository.destroy.run left)) ∧
        after = Raising.finalState (workflow.repository.destroy.run left) := by
  unfold runReferenceCase
  constructor
  · intro h
    obtain ⟨⟨⟩, seeded, hseed, h⟩ := Raising.run_bind_eq_ok.mp h
    obtain ⟨⟨⟩, start, hreset, h⟩ := Raising.run_bind_eq_ok.mp h
    obtain ⟨evidence, left, hevidence, h⟩ := Raising.run_bind_eq_ok.mp h
    obtain ⟨cleanup, destroyed, hcleanup, h⟩ := Raising.run_bind_eq_ok.mp h
    obtain ⟨rfl, rfl⟩ := Raising.run_attempt_eq_ok.mp hcleanup
    obtain ⟨hreturned, hleft⟩ := Raising.run_attempt_eq_ok.mp hevidence
    -- the repository is destroyed on both paths, and an error is raised again after it
    cases evidence with
    | error e =>
      obtain ⟨_, _, hthrow, -⟩ := Raising.run_bind_eq_ok.mp h
      cases hthrow
    | ok evidence =>
      have hbody := Raising.eq_ok_of_outcome hreturned.symm
      rw [← hleft] at hbody
      obtain ⟨state, stopped, hexecute, hread⟩ := Raising.run_bind_eq_ok.mp hbody
      obtain ⟨finalState, read, hsnapshot, hrest⟩ := Raising.run_bind_eq_ok.mp hread
      obtain ⟨mutations, last, hmutations, hpure⟩ := Raising.run_bind_eq_ok.mp hrest
      obtain ⟨hended, rfl, rfl⟩ := executeCase_eq_ok.mp hexecute
      obtain ⟨rfl, rfl⟩ := EStateM.Result.ok.inj hpure
      obtain ⟨rfl, rfl⟩ := EStateM.Result.ok.inj h
      exact ⟨start, ⟨seeded, hseed, hreset⟩, finalState, mutations, last,
        ⟨hended, read, hsnapshot, hmutations⟩, rfl, rfl⟩
  · rintro ⟨start, ⟨seeded, hseed, hreset⟩, finalState, mutations, left,
      ⟨hended, read, hsnapshot, hmutations⟩, rfl, rfl⟩
    refine Raising.run_bind_eq_ok.mpr ⟨(), seeded, hseed, ?_⟩
    refine Raising.run_bind_eq_ok.mpr ⟨(), start, hreset, ?_⟩
    refine Raising.run_bind_eq_ok.mpr ⟨.ok (executePlan workflow plan
      (startCase environmentId start), finalState, mutations), left, ?_, ?_⟩
    · rw [Raising.run_attempt_eq_ok]
      have hbody : (do
          let state ← executeCase workflow plan environmentId
          let finalState ← workflow.repository.snapshot
          let mutations ← workflow.repository.mutations
          pure (state, finalState, mutations) :
            EStateM PyError σ (CaseState σ × PyValue × List Record)).run start =
          .ok (executePlan workflow plan (startCase environmentId start), finalState, mutations)
            left := by
        refine Raising.run_bind_eq_ok.mpr ⟨_, _, executeCase_eq_ok.mpr ⟨hended, rfl, rfl⟩, ?_⟩
        refine Raising.run_bind_eq_ok.mpr ⟨finalState, read, hsnapshot, ?_⟩
        exact Raising.run_bind_eq_ok.mpr ⟨mutations, left, hmutations, rfl⟩
      rw [hbody]
      exact ⟨rfl, rfl⟩
    · refine Raising.run_bind_eq_ok.mpr ⟨_, _, Raising.run_attempt_eq_ok.mpr ⟨rfl, rfl⟩, ?_⟩
      rfl

end Returned

/-! ## A small workflow -/

/-- A repository that counts the calls of its tools. -/
def countingRepository : ReferenceRepository ℕ where
  seed _ := set 0
  snapshot := do pure (.dict [("calls", .int (← get))])
  mutations := pure []
  reset := set 0
  destroy := pure ()

/-- A tool whose first call times out. -/
def slowTool : ReferenceTool ℕ where
  name := "ping"
  safe := true
  run _ := do
    modify (· + 1)
    if (← get) ≤ 1 then throw (.other "TimeoutError" "the first call is slow")
    pure "pong=1"

/-- A tool whose calls return. -/
def steadyTool (name : String) (safe : Bool) : ReferenceTool ℕ where
  name := name
  safe := safe
  run _ := do
    modify (· + 1)
    pure "echo=1"

theorem countedOutcome_length : lengthWithin 1 100 "counted" = true := by decide

theorem countedBusiness_length : lengthWithin 1 200 "all calls were counted" = true := by decide

/-- What the small workflow observes. -/
def countedObservation : ReferenceObservation where
  outcome := "counted"
  reasonCode := "counted"
  businessOutcome := "all calls were counted"
  outcomeLength := countedOutcome_length
  reasonLength := countedOutcome_length
  businessLength := countedBusiness_length

/-- A workflow with a slow tool, a steady one, and one behind a gate. -/
def countingWorkflow : ReferenceWorkflow ℕ where
  workflowId := "counting"
  seedState := .none
  repository := countingRepository
  tools := [slowTool, steadyTool "echo" true, steadyTool "refund" false]
  expectation :=
    { outcome := "counted"
      reasonCodes := ["counted"]
      gateRequired := true
      protectedTools := ["refund"] }
  observer _ _ := .ok countedObservation

theorem countingLabel_length : lengthWithin 1 200 "counting" = true := by decide

/-- The label of both sides. -/
def countingLabel : ReferenceLabel := ⟨"counting", countingLabel_length⟩

section Examples

variable [UnicodeTables] [FloatRepr] [HashFunctions] [ValidationTexts]

/-- A case of the small workflow returns when its loop ends without an exception. -/
theorem countingCase_returns {plan : ReferencePlan} {side : ReferenceSide}
    (h : ∀ e, (executePlan countingWorkflow plan (startCase "lab" 0)).status ≠ .raised e) :
    ∃ run after, (runReferenceCase countingWorkflow plan side countingLabel "lab").run 0 =
      .ok run after := by
  refine ⟨_, _, runReferenceCase_eq_ok.mpr ⟨0, ⟨0, rfl, rfl⟩, _, _, _, ⟨h, _, rfl, rfl⟩, rfl, rfl⟩⟩

end Examples

end ObservabilityLab.Reference
