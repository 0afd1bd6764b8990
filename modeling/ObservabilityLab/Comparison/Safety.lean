import ObservabilityLab.Comparison.Verdict

/-!
# Task success and the safety block

A run succeeds at its task when it has the expected outcome and passes every required evaluator.
`compare_runs` blocks a candidate that loses a safety evaluator; the cohort runners find that block
again in the texts of the blocked reasons.

## Main definitions

* `requiredEvaluatorsPass`, `taskSuccess`: the `_task_success` of the Model Lab and of the suites
* `RunComparison.mentions`: the text search of the cohort runners in the blocked reasons
* `SafetyRegression`: some safety evaluator that the baseline passes and the candidate does not

## Main results

* `mentions_safetyRegression_iff`: a comparison of completed runs reports a safety regression
  exactly when there is one
* `taskSuccess_of_not_better`: a candidate that regresses on no criterion keeps the task success
-/

namespace ObservabilityLab

open Python

section Definitions

/-- Whether every required safety and state evaluator passed; a missing result is a failure. -/
def requiredEvaluatorsPass (run : SimulationRun) : Bool :=
  safetyEvaluators.all fun name => run.evaluators.passes name

/-- `_task_success(run, bundle)` -/
def taskSuccess (bundle : SimulationBundle) (run : SimulationRun) : Bool :=
  outcomeMatches bundle run && requiredEvaluatorsPass run

/-- `any(text in reason for reason in comparison.blocked_reasons)` -/
def RunComparison.mentions (comparison : RunComparison) (text : String) : Bool :=
  comparison.blockedReasons.any fun reason => Contains text reason

/-- Some safety evaluator that the baseline passes and the candidate does not. -/
def SafetyRegression (baseline candidate : SimulationRun) : Prop :=
  ∃ evaluator ∈ safetyEvaluators, baseline.evaluators.passes evaluator = true ∧
    candidate.evaluators.passes evaluator = false

end Definitions

variable {bundle : SimulationBundle} {baseline candidate : SimulationRun}

/-! ## Task success -/

theorem requiredEvaluatorsPass_eq_true {run : SimulationRun} :
    requiredEvaluatorsPass run = true ↔
      ∀ evaluator ∈ safetyEvaluators, run.evaluators.passes evaluator = true := by
  rw [requiredEvaluatorsPass, List.all_eq_true]

/-- A safety regression leaves the candidate without task success. -/
theorem taskSuccess_eq_false_of_safetyRegression (h : SafetyRegression baseline candidate) :
    taskSuccess bundle candidate = false := by
  obtain ⟨evaluator, hmem, -, hfails⟩ := h
  rw [taskSuccess, Bool.and_eq_false_iff]
  refine Or.inr (Bool.eq_false_iff.mpr fun hall => ?_)
  rw [requiredEvaluatorsPass_eq_true.mp hall evaluator hmem] at hfails
  cases hfails

/-- **A candidate that regresses on no criterion keeps the task success.** -/
theorem taskSuccess_of_not_better (h : ¬ Better bundle baseline candidate)
    (hsuccess : taskSuccess bundle baseline = true) : taskSuccess bundle candidate = true := by
  obtain ⟨houtcome, hevaluators, -⟩ := not_not.mp fun hle => h (not_profile_le_iff.mp hle)
  rw [taskSuccess, Bool.and_eq_true, requiredEvaluatorsPass_eq_true] at hsuccess ⊢
  exact ⟨houtcome hsuccess.1, fun evaluator hmem =>
    hevaluators evaluator (hsuccess.2 evaluator hmem)⟩

/-! ## The texts of the blocked reasons -/

theorem contains_safetyRegression (evaluator : String) :
    Contains "safety regression" ("safety regression on evaluator " ++ evaluator) := by
  rw [Contains, String.toList_append, String.toList_ofList, String.toList_ofList]
  exact ⟨[], " on evaluator ".toList ++ evaluator.toList, by rw [String.toList_ofList]; rfl⟩

/-- The reasons of missing measurements have no `f`. -/
theorem not_contains_missingMeasurement {measurement : String}
    (h : measurement ∈ missingMeasurements bundle baseline candidate) :
    ¬ Contains "safety regression" ("missing required measurement: " ++ measurement) := by
  have hnames : ∀ name ∈ ["total latency", "estimated cost", "token usage"],
      'f' ∉ name.toList := by
    decide +kernel
  have hname : measurement ∈ ["total latency", "estimated cost", "token usage"] := by
    simp only [missingMeasurements, List.mem_append] at h
    rcases h with (h | h) | h
    all_goals
      split_ifs at h
      · rw [List.mem_singleton] at h
        simp [h]
      · cases h
  refine not_contains_of_not_mem (show 'f' ∈ _ by rw [String.toList_ofList]; decide) ?_
  rw [String.toList_append, List.mem_append, String.toList_ofList, not_or]
  exact ⟨by decide, hnames measurement hname⟩

section Compare

variable [UnicodeTables]

/-- The reason of an incomparable pair has no `y`. -/
theorem not_contains_notComparable (b c : RunVerdict) :
    ¬ Contains "safety regression" ("baseline verdict " ++ reprText b.value ++
      " or candidate verdict " ++ reprText c.value ++ " is not a completed comparable run") := by
  have hvalue (v : RunVerdict) : isPlainText v.value = true ∧ 'y' ∉ v.value.toList := by
    cases v <;> decide +kernel
  have hrepr (v : RunVerdict) : 'y' ∉ (reprText v.value).toList := by
    rw [toList_reprText_of_plain (hvalue v).1]
    simp only [List.mem_append, List.mem_cons, List.not_mem_nil, or_false, not_or]
    exact ⟨⟨by decide, (hvalue v).2⟩, by decide⟩
  refine not_contains_of_not_mem (show 'y' ∈ _ by rw [String.toList_ofList]; decide) ?_
  simp only [String.toList_append, List.mem_append, not_or]
  refine ⟨⟨⟨⟨?_, hrepr b⟩, ?_⟩, hrepr c⟩, ?_⟩
  all_goals
    rw [String.toList_ofList]
    decide

/-- A regressed criterion is blocked for safety exactly when it is that of a safety evaluator. -/
theorem contains_blockingRegression_iff {d : CriterionDelta} :
    (∃ reason, blockingRegression d = some reason ∧ Contains "safety regression" reason) ↔
      d.regression = true ∧ ∃ evaluator ∈ safetyEvaluators,
        evaluatorOf d.criterion = some evaluator := by
  constructor
  · rintro ⟨reason, hblock, hcontains⟩
    unfold blockingRegression at hblock
    split at hblock
    · rename_i hregression
      refine ⟨hregression, ?_⟩
      split at hblock
      · rename_i evaluator hevaluator
        split_ifs at hblock with hsafety
        exact ⟨evaluator, hsafety, hevaluator⟩
      · split_ifs at hblock
        obtain rfl := Option.some.inj hblock
        refine absurd hcontains (not_contains_of_not_mem
          (show 'f' ∈ _ by rw [String.toList_ofList]; decide) ?_)
        rw [String.toList_ofList]
        decide
    · cases hblock
  · rintro ⟨hregression, evaluator, hsafety, hevaluator⟩
    refine ⟨_, ?_, contains_safetyRegression (reprText evaluator)⟩
    rw [blockingRegression, if_pos hregression, hevaluator]
    exact if_pos hsafety

omit [UnicodeTables] in
/-- A safety criterion regresses exactly when there is a safety regression. -/
theorem exists_safety_delta_iff :
    (∃ d ∈ criterionDeltas baseline candidate bundle, d.regression = true ∧
        ∃ evaluator ∈ safetyEvaluators, evaluatorOf d.criterion = some evaluator) ↔
      SafetyRegression baseline candidate := by
  constructor
  · rintro ⟨d, hd, hregression, evaluator, hsafety, hevaluator⟩
    simp only [criterionDeltas, List.mem_append, List.mem_cons, List.mem_map, List.not_mem_nil,
      or_false] at hd
    rcases hd with (rfl | ⟨name, -, rfl⟩) | rfl | rfl | rfl | rfl | rfl | rfl
    case inl.inr =>
      have hname : some name = some evaluator :=
        (evaluatorOf_evaluator name).symm.trans hevaluator
      obtain rfl := Option.some.inj hname
      simp only [evaluatorDelta, Bool.and_eq_true, Bool.not_eq_true'] at hregression
      exact ⟨name, hsafety, hregression⟩
    all_goals
      rw [evaluatorOf_eq_none _ (by simp [outcomeDelta, stateDelta, trajectoryDelta, retriesDelta,
        latencyDelta, tokensDelta, costDelta])] at hevaluator
      cases hevaluator
  · rintro ⟨evaluator, hsafety, hpasses, hfails⟩
    refine ⟨evaluatorDelta baseline candidate evaluator, ?_, by simp [evaluatorDelta, hpasses,
      hfails], evaluator, hsafety, evaluatorOf_evaluator evaluator⟩
    rw [criterionDeltas, List.mem_append, List.mem_cons, List.mem_map]
    exact Or.inl (Or.inr
      ⟨evaluator, mem_comparedEvaluators_of_passes (Or.inl hpasses), rfl⟩)

/-- **A comparison reports a safety regression exactly when there is one**, between completed
runs. -/
theorem mentions_safetyRegression_iff {comparison : RunComparison}
    (h : compareRuns baseline candidate bundle = .ok comparison) :
    comparison.mentions "safety regression" = true ↔
      (comparable baseline = true ∧ comparable candidate = true) ∧
        SafetyRegression baseline candidate := by
  obtain ⟨-, -, -, rfl⟩ := compareRuns_eq_ok.mp h
  unfold comparisonOf
  split_ifs with hincomparable
  · refine iff_of_false ?_ ?_
    · simpa [RunComparison.mentions] using
        not_contains_notComparable baseline.verdict candidate.verdict
    · rintro ⟨⟨hbaseline, hcandidate⟩, -⟩
      rw [hbaseline, hcandidate] at hincomparable
      cases hincomparable
  · simp only [Bool.or_eq_true, Bool.not_eq_true', not_or, Bool.not_eq_false] at hincomparable
    rw [and_iff_right hincomparable, ← @exists_safety_delta_iff bundle baseline candidate]
    simp only [RunComparison.mentions, blockedReasons, List.any_append, Bool.or_eq_true,
      List.any_eq_true, List.mem_filterMap, decide_eq_true_eq]
    constructor
    · rintro (⟨reason, hreason, hcontains⟩ | ⟨reason, ⟨d, hd, hblock⟩, hcontains⟩)
      · obtain ⟨measurement, hmeasurement, rfl⟩ := List.mem_map.mp hreason
        exact absurd hcontains (not_contains_missingMeasurement hmeasurement)
      · exact ⟨d, hd, contains_blockingRegression_iff.mp ⟨reason, hblock, hcontains⟩⟩
    · rintro ⟨d, hd, hsafety⟩
      obtain ⟨reason, hblock, hcontains⟩ := contains_blockingRegression_iff.mpr hsafety
      exact Or.inr ⟨reason, ⟨d, hd, hblock⟩, hcontains⟩

end Compare

/-! ## Concrete reports -/

section Small

attribute [local instance] asciiTables oneDecimalRepr constantHashes

/-- The runs of a list, one after the other. -/
def scriptedRuns : RunBundle (List SimulationRun) := fun _ _ runs =>
  match runs with
  | run :: rest => .ok (run, rest)
  | [] => .error (.value "no run is left")

/-- A measured run of the small bundle, whose report fails some evaluators. -/
def reportedRun (cost : ℚ) (failing : List String) : SimulationRun :=
  { completedRun .completed 0 with
    totalLatencyMs := some (.ofRat 100)
    totalTokens := 50
    costUsd := some (.ofRat cost)
    evaluators :=
      { results := evaluatorNames.map fun name =>
          { evaluator := name, passed := name ∉ failing, reason := "checked" } } }

end Small

end ObservabilityLab
