import ObservabilityLab.Simulation.Runner

/-!
# The baseline/candidate comparison

`compare_runs`: two runs of one bundle are compared criterion by criterion, and the deltas, the
missing measurements and the recomputed improvements give one of four verdicts.

## Main definitions

* `CriterionDelta`: one measured difference, with bounded texts
* `criterionDeltas`, `deltas`: the differences of two runs, and their validated form
* `missingMeasurements`, `blockedReasons`, `improvements`
* `RunComparison`, `compareRuns`

## Main results

* `compareRuns_eq_ok`: what a comparison that returns has checked, and its verdict
-/

namespace ObservabilityLab

open Python

inductive ComparisonVerdict where
  | candidatePasses | candidateRegresses | noMaterialDifference | insufficientEvidence
deriving DecidableEq

/-- One measured difference between two runs. -/
structure CriterionDelta where
  criterion : String
  baseline : String
  candidate : String
  changed : Bool
  regression : Bool
deriving DecidableEq

/-- `CriterionDelta(...)` -/
def CriterionDelta.new (d : CriterionDelta) : Raises CriterionDelta := do
  checkField (lengthWithin 1 200 d.criterion) "CriterionDelta" "criterion"
  checkField (lengthWithin 1 1000 d.baseline) "CriterionDelta" "baseline"
  checkField (lengthWithin 1 1000 d.candidate) "CriterionDelta" "candidate"
  .ok d

/-- The evidence-linked result of one comparison. -/
structure RunComparison where
  bundleId : Uuid
  bundleContentHash : HexDigest
  scenarioId : String
  evidenceRef : Option TraceSourceRef
  evidenceContentHash : Option HexDigest
  baselineRun : SimulationRun
  candidateRun : SimulationRun
  verdict : ComparisonVerdict
  deltas : List CriterionDelta
  regressions : List String
  blockedReasons : List String

/-! ## Single runs -/

/-- Whether the run completed. -/
def comparable (run : SimulationRun) : Bool :=
  run.verdict ∈ [.reproduced, .accepted, .failed]

namespace EvaluatorReport

/-- `_evaluator_map(report).get(evaluator)`: the last result of a name counts. -/
def lastPassed (report : EvaluatorReport) (evaluator : String) : Option Bool :=
  (report.results.reverse.find? (·.evaluator = evaluator)).map (·.passed)

/-- `_evaluator_map(report).get(evaluator, False)` -/
def passes (report : EvaluatorReport) (evaluator : String) : Bool :=
  (report.lastPassed evaluator).getD false

def names (report : EvaluatorReport) : List String := report.results.map (·.evaluator)

/-- An evaluator without a result does not pass. -/
theorem passes_eq_false_of_not_mem {report : EvaluatorReport} {evaluator : String}
    (h : evaluator ∉ report.names) : report.passes evaluator = false := by
  have hnone : report.results.reverse.find? (·.evaluator = evaluator) = none := by
    rw [List.find?_eq_none]
    intro result hresult
    rw [decide_eq_true_eq]
    rintro rfl
    exact h (List.mem_map_of_mem (List.mem_reverse.mp hresult))
  rw [passes, lastPassed, hnone]
  rfl

end EvaluatorReport

/-- Measured token usage, where an unreported default is none. -/
def tokenMeasurement (run : SimulationRun) : Option ℕ :=
  if run.totalTokens > 0 then some run.totalTokens else none

/-- Whether the run has the expected business outcome. -/
def outcomeMatches (bundle : SimulationBundle) (run : SimulationRun) : Bool :=
  run.response.any fun response => response.outcome = bundle.expectedBehavior.outcome

def behaviorText (run : SimulationRun) : String :=
  match run.response with
  | none => run.verdict.value ++ ":no-response"
  | some response =>
    run.verdict.value ++ ":" ++ response.outcome.value ++ ":" ++ response.reasonCode.value

/-- `text or "none"` -/
def orNone (text : String) : String := if text = "" then "none" else text

/-- The display text of the mutations. -/
def stateText (run : SimulationRun) : String :=
  orNone ("; ".intercalate (run.mutations.map fun mutation =>
    mutation.resource ++ ":" ++ mutation.resourceId ++ ":" ++ mutation.reasonCode))

/-- The display text of the tool calls. -/
def trajectoryText (run : SimulationRun) : String := orNone (",".intercalate run.toolCalls)

/-- `_measured(value, digits)` -/
def measuredText (digits : ℕ) (value : Option PyFloat) : String :=
  value.elim "none" (PyFloat.format digits)

def tokensText (run : SimulationRun) : String := (tokenMeasurement run).elim "none" toString

/-- Whether two mutations have the same key. -/
def sameMutation (m n : StateMutation) : Bool :=
  m.resource = n.resource && m.resourceId = n.resourceId && m.field = n.field &&
    m.before.eq n.before && m.after.eq n.after && m.reasonCode = n.reasonCode

/-- Whether two runs have the same mutation keys, in order. -/
def sameMutations : List StateMutation → List StateMutation → Bool
  | [], [] => true
  | m :: ms, n :: ns => sameMutation m n && sameMutations ms ns
  | _, _ => false

/-- `x == y` of optional floats. -/
def sameMeasurement : Option PyFloat → Option PyFloat → Bool
  | none, none => true
  | some x, some y => x.eq y
  | _, _ => false

/-! ## Deltas -/

section Deltas

variable (baseline candidate : SimulationRun)

def outcomeDelta (bundle : SimulationBundle) : CriterionDelta where
  criterion := "outcome"
  baseline := behaviorText baseline
  candidate := behaviorText candidate
  changed := behaviorText baseline ≠ behaviorText candidate
  regression := outcomeMatches bundle baseline && !outcomeMatches bundle candidate

def passText (passed : Bool) : String := if passed then "pass" else "fail"

def evaluatorDelta (evaluator : String) : CriterionDelta :=
  let baselinePassed := baseline.evaluators.passes evaluator
  let candidatePassed := candidate.evaluators.passes evaluator
  { criterion := "evaluator:" ++ evaluator
    baseline := passText baselinePassed
    candidate := passText candidatePassed
    changed := baselinePassed ≠ candidatePassed
    regression := baselinePassed && !candidatePassed }

def stateDelta : CriterionDelta where
  criterion := "state"
  baseline := stateText baseline
  candidate := stateText candidate
  changed := !sameMutations baseline.mutations candidate.mutations
  regression := false

def trajectoryDelta : CriterionDelta where
  criterion := "trajectory"
  baseline := trajectoryText baseline
  candidate := trajectoryText candidate
  changed := baseline.toolCalls ≠ candidate.toolCalls
  regression := false

def retriesDelta : CriterionDelta where
  criterion := "retries"
  baseline := toString baseline.retries
  candidate := toString candidate.retries
  changed := baseline.retries ≠ candidate.retries
  regression := candidate.retries > baseline.retries

def latencyDelta : CriterionDelta where
  criterion := "latency_ms"
  baseline := measuredText 2 baseline.totalLatencyMs
  candidate := measuredText 2 candidate.totalLatencyMs
  changed := !sameMeasurement baseline.totalLatencyMs candidate.totalLatencyMs
  regression := false

def tokensDelta : CriterionDelta where
  criterion := "tokens"
  baseline := tokensText baseline
  candidate := tokensText candidate
  changed := tokenMeasurement baseline ≠ tokenMeasurement candidate
  regression := false

def costDelta : CriterionDelta where
  criterion := "cost_usd"
  baseline := measuredText 6 baseline.costUsd
  candidate := measuredText 6 candidate.costUsd
  changed := !sameMeasurement baseline.costUsd candidate.costUsd
  regression := false

/-- The evaluators that either run reports, sorted. -/
def comparedEvaluators : List String :=
  sortedSet (baseline.evaluators.names ++ candidate.evaluators.names)

/-- The differences of two runs, in order, before their validation. -/
def criterionDeltas (bundle : SimulationBundle) : List CriterionDelta :=
  outcomeDelta baseline candidate bundle ::
    (comparedEvaluators baseline candidate).map (evaluatorDelta baseline candidate) ++
    [stateDelta baseline candidate, trajectoryDelta baseline candidate,
      retriesDelta baseline candidate, latencyDelta baseline candidate,
      tokensDelta baseline candidate, costDelta baseline candidate]

/-- `_deltas` -/
def deltas (bundle : SimulationBundle) : Raises (List CriterionDelta) :=
  (criterionDeltas baseline candidate bundle).mapM CriterionDelta.new

end Deltas

theorem CriterionDelta.new_eq_ok {d r : CriterionDelta} (h : d.new = .ok r) : d = r := by
  simp only [CriterionDelta.new, check_bind_eq_ok] at h
  exact Except.ok.inj h.2.2.2

/-- The validated deltas are the differences themselves. -/
theorem deltas_eq_ok {baseline candidate : SimulationRun} {bundle : SimulationBundle}
    {ds : List CriterionDelta} (h : deltas baseline candidate bundle = .ok ds) :
    criterionDeltas baseline candidate bundle = ds := by
  have hmap := mapM_eq_ok_map (g := id) (fun _ _ hnew => CriterionDelta.new_eq_ok hnew) h
  rwa [List.map_id] at hmap

/-! ## The verdict -/

section Verdict

variable (bundle : SimulationBundle) (baseline candidate : SimulationRun)

/-- The budget-declared measurements that a run lacks. -/
def missingMeasurements : List String :=
  let budgets := bundle.expectedBehavior.budgets
  (if budgets.performanceBudgetMs.isSome &&
      (baseline.totalLatencyMs.isNone || candidate.totalLatencyMs.isNone) then
    ["total latency"] else []) ++
  (if budgets.maxCostUsd.isSome && (baseline.costUsd.isNone || candidate.costUsd.isNone) then
    ["estimated cost"] else []) ++
  (if budgets.maxTokens.isSome &&
      ((tokenMeasurement baseline).isNone || (tokenMeasurement candidate).isNone) then
    ["token usage"] else [])

/-- The evaluator that a criterion names. -/
def evaluatorOf (criterion : String) : Option String :=
  if "evaluator:".toList.isPrefixOf criterion.toList then
    some (String.ofList (criterion.toList.drop 10))
  else none

/-- The improvements of a candidate without regressions. -/
def improvements (ds : List CriterionDelta) : List String :=
  (if !outcomeMatches bundle baseline && outcomeMatches bundle candidate then ["outcome"]
    else []) ++
  (ds.filter fun d => (evaluatorOf d.criterion).isSome && d.baseline = "fail" &&
    d.candidate = "pass").map (·.criterion) ++
  (if candidate.retries < baseline.retries then ["retries"] else [])

variable [UnicodeTables]

/-- The reason that a regressed criterion blocks the candidate with, if it does. -/
def blockingRegression (d : CriterionDelta) : Option String :=
  if d.regression then
    match evaluatorOf d.criterion with
    | some evaluator =>
      if evaluator ∈ safetyEvaluators then
        some ("safety regression on evaluator " ++ reprText evaluator)
      else none
    | none => if d.criterion = "outcome" then some "business outcome regression" else none
  else none

def blockedReasons (ds : List CriterionDelta) : List String :=
  (missingMeasurements bundle baseline candidate).map
    ("missing required measurement: " ++ ·) ++ ds.filterMap blockingRegression

/-- The criteria that regressed. -/
def regressions (ds : List CriterionDelta) : List String :=
  (ds.filter (·.regression)).map (·.criterion)

/-- The verdict of two completed runs. -/
def completedVerdict (ds : List CriterionDelta) : ComparisonVerdict :=
  let blocked := blockedReasons bundle baseline candidate ds
  if blocked ≠ [] then
    if blocked.any (fun reason => Contains "missing required measurement" reason) then
      .insufficientEvidence
    else .candidateRegresses
  else if regressions ds ≠ [] then .candidateRegresses
  else if improvements bundle baseline candidate ds ≠ [] then .candidatePasses
  else .noMaterialDifference

end Verdict

section Compare

/-- `_validate_run_identity` -/
def validateRunIdentity (run : SimulationRun) (bundle : SimulationBundle) (side : String) :
    Raises Unit :=
  let mismatches :=
    (if bundle.bundleId ≠ some run.bundleId then ["bundle_id"] else []) ++
    (if bundle.contentHash ≠ some run.bundleContentHash then ["bundle_content_hash"] else []) ++
    (if bundle.scenario.scenarioId ≠ run.scenarioId then ["scenario_id"] else [])
  raiseIf (mismatches ≠ []) (.value (side ++
    " run does not belong to the supplied bundle: mismatched " ++ ", ".intercalate mismatches))

/-- A run of a bundle: it carries the identity of the bundle. -/
structure RunOf (bundle : SimulationBundle) (run : SimulationRun) : Prop where
  bundleId : bundle.bundleId = some run.bundleId
  contentHash : bundle.contentHash = some run.bundleContentHash
  scenarioId : bundle.scenario.scenarioId = run.scenarioId

theorem validateRunIdentity_eq_ok {run : SimulationRun} {bundle : SimulationBundle}
    {side : String} : validateRunIdentity run bundle side = .ok () ↔ RunOf bundle run := by
  unfold validateRunIdentity
  dsimp only
  rw [raiseIf_eq_ok, decide_eq_false_iff_not, not_not, List.append_eq_nil_iff,
    List.append_eq_nil_iff]
  simp only [ite_eq_right_iff, List.cons_ne_nil, imp_false, ne_eq, not_not]
  constructor
  · rintro ⟨⟨hid, hhash⟩, hscenario⟩
    exact ⟨hid, hhash, hscenario⟩
  · rintro ⟨hid, hhash, hscenario⟩
    exact ⟨⟨hid, hhash⟩, hscenario⟩

variable [UnicodeTables]

/-- The result of a comparison, before its verdict. -/
def comparisonOf (baseline candidate : SimulationRun) (bundle : SimulationBundle)
    (bundleId : Uuid) (contentHash : HexDigest) (ds : List CriterionDelta) : RunComparison :=
  if !comparable baseline || !comparable candidate then
    { bundleId := bundleId
      bundleContentHash := contentHash
      scenarioId := bundle.scenario.scenarioId
      evidenceRef := bundle.evidenceRef
      evidenceContentHash := bundle.evidenceContentHash
      baselineRun := baseline
      candidateRun := candidate
      verdict := .insufficientEvidence
      deltas := ds
      regressions := []
      blockedReasons :=
        ["baseline verdict " ++ reprText baseline.verdict.value ++ " or candidate verdict " ++
          reprText candidate.verdict.value ++ " is not a completed comparable run"] }
  else
    { bundleId := bundleId
      bundleContentHash := contentHash
      scenarioId := bundle.scenario.scenarioId
      evidenceRef := bundle.evidenceRef
      evidenceContentHash := bundle.evidenceContentHash
      baselineRun := baseline
      candidateRun := candidate
      verdict := completedVerdict bundle baseline candidate ds
      deltas := ds
      regressions := regressions ds
      blockedReasons := blockedReasons bundle baseline candidate ds }

/-- Compare two runs of the same bundle. -/
def compareRuns (baseline candidate : SimulationRun) (bundle : SimulationBundle) :
    Raises RunComparison :=
  match bundle.bundleId, bundle.contentHash with
  | some bundleId, some contentHash => do
    validateRunIdentity baseline bundle "baseline"
    validateRunIdentity candidate bundle "candidate"
    let ds ← deltas baseline candidate bundle
    .ok (comparisonOf baseline candidate bundle bundleId contentHash ds)
  | _, _ => .error (.value "bundle has no derived identifier or content hash")

variable {baseline candidate : SimulationRun} {bundle : SimulationBundle}

/-- **A comparison returns exactly on runs of the bundle whose deltas are valid.** -/
theorem compareRuns_eq_ok {result : RunComparison} :
    compareRuns baseline candidate bundle = .ok result ↔
      RunOf bundle baseline ∧ RunOf bundle candidate ∧
        deltas baseline candidate bundle = .ok (criterionDeltas baseline candidate bundle) ∧
        comparisonOf baseline candidate bundle baseline.bundleId baseline.bundleContentHash
          (criterionDeltas baseline candidate bundle) = result := by
  constructor
  · intro h
    unfold compareRuns at h
    split at h
    · rename_i bundleId contentHash hid hhash
      rw [check_bind_eq_ok, check_bind_eq_ok, validateRunIdentity_eq_ok,
        validateRunIdentity_eq_ok] at h
      obtain ⟨hbaseline, hcandidate, hrest⟩ := h
      obtain ⟨ds, hds, hresult⟩ := bind_eq_ok.mp hrest
      obtain rfl := deltas_eq_ok hds
      obtain rfl := Option.some.inj (hid.symm.trans hbaseline.bundleId)
      obtain rfl := Option.some.inj (hhash.symm.trans hbaseline.contentHash)
      exact ⟨hbaseline, hcandidate, hds, Except.ok.inj hresult⟩
    · cases h
  · rintro ⟨hbaseline, hcandidate, hds, rfl⟩
    unfold compareRuns
    rw [hbaseline.bundleId, hbaseline.contentHash]
    dsimp only
    rw [check_bind_eq_ok, check_bind_eq_ok, validateRunIdentity_eq_ok, validateRunIdentity_eq_ok]
    exact ⟨hbaseline, hcandidate, bind_eq_ok.mpr ⟨_, hds, rfl⟩⟩

end Compare

end ObservabilityLab
