import Mathlib.Order.Basic
import Mathlib.Order.OrderDual
import Mathlib.Logic.Relation
import ObservabilityLab.Comparison.CompareBounds

/-!
# What a verdict means

A run has a profile: whether it has the expected outcome, which evaluators it passes, and its
retries, fewer being better. Profiles are ordered component by component, and a comparison computes
the order: a candidate passes when its profile is strictly above the baseline's, regresses when it
is not above, and makes no material difference when the profiles are equal. The laws of the
verdicts are the laws of the order.

## Main definitions

* `verdictOf`: the verdict that an order gives to two values, when there is evidence
* `profile`: the profile of a run, in the product order
* `Measured`: a completed run with every measurement that the bundle's budgets declare
* `Better`, `Passes`: one criterion on which a run is better; an accepted change

## Main results

* `compareRuns_verdict`: a comparison computes the verdict of the order of profiles
* `compareRuns_dual`: the verdicts of the two directions
* `passes_strict`: accepted changes form a strict partial order
-/

namespace ObservabilityLab

open Python

/-! ## The verdict of an order -/

section Order

variable {α : Type} [PartialOrder α]

open Classical in
/-- The verdict that an order gives to a baseline `a` and a candidate `b`. -/
noncomputable def verdictOf (evidence : Prop) (a b : α) : ComparisonVerdict :=
  if evidence then
    if a < b then .candidatePasses
    else if a = b then .noMaterialDifference
    else .candidateRegresses
  else .insufficientEvidence

variable {evidence : Prop} {a b c : α}

theorem verdictOf_eq_insufficientEvidence :
    verdictOf evidence a b = .insufficientEvidence ↔ ¬ evidence := by
  unfold verdictOf
  split_ifs with hevidence hlt heq <;> simp [hevidence]

theorem verdictOf_eq_candidatePasses :
    verdictOf evidence a b = .candidatePasses ↔ evidence ∧ a < b := by
  unfold verdictOf
  split_ifs with hevidence hlt heq <;> simp [*]

theorem verdictOf_eq_noMaterialDifference :
    verdictOf evidence a b = .noMaterialDifference ↔ evidence ∧ a = b := by
  unfold verdictOf
  split_ifs with hevidence hlt heq
  · simp [hlt.ne]
  · simp [hevidence, heq]
  · simp [heq]
  · simp [hevidence]

theorem verdictOf_eq_candidateRegresses :
    verdictOf evidence a b = .candidateRegresses ↔ evidence ∧ ¬ a ≤ b := by
  unfold verdictOf
  split_ifs with hevidence hlt heq
  · simp [hlt.le]
  · simp [heq]
  · have hle : ¬ a ≤ b := fun hle => hlt (lt_of_le_of_ne hle heq)
    simp [hevidence, hle]
  · simp [hevidence]

end Order

/-! ## Profiles of runs -/

/-- The profile of a run: the outcome match, the evaluators passed, and the retries. -/
abbrev Profile := Bool × (String → Bool) × ℕᵒᵈ

def profile (bundle : SimulationBundle) (run : SimulationRun) : Profile :=
  (outcomeMatches bundle run, run.evaluators.passes, OrderDual.toDual run.retries)

/-- One criterion on which a run is better than another. -/
def Better (bundle : SimulationBundle) (run other : SimulationRun) : Prop :=
  (outcomeMatches bundle run = true ∧ outcomeMatches bundle other = false) ∨
    (∃ evaluator, run.evaluators.passes evaluator = true ∧
      other.evaluators.passes evaluator = false) ∨
    run.retries < other.retries

variable {bundle : SimulationBundle} {baseline candidate : SimulationRun}

theorem bool_not_le_iff {a b : Bool} : ¬ a ≤ b ↔ a = true ∧ b = false := by
  revert a b
  decide

/-- A profile is not below another exactly when the run is better on some criterion. -/
theorem not_profile_le_iff :
    ¬ profile bundle baseline ≤ profile bundle candidate ↔ Better bundle baseline candidate := by
  have hretries : ¬ OrderDual.toDual baseline.retries ≤ OrderDual.toDual candidate.retries ↔
      baseline.retries < candidate.retries := by
    rw [OrderDual.toDual_le_toDual, not_le]
  rw [profile, profile, Prod.mk_le_mk, Prod.mk_le_mk, Pi.le_def, not_and_or, not_and_or,
    not_forall, hretries, Better]
  simp only [bool_not_le_iff]

/-- A completed run with every measurement that the budgets declare. -/
structure Measured (bundle : SimulationBundle) (run : SimulationRun) : Prop where
  completed : comparable run = true
  latency : bundle.expectedBehavior.budgets.performanceBudgetMs.isSome = true →
    run.totalLatencyMs.isSome = true
  cost : bundle.expectedBehavior.budgets.maxCostUsd.isSome = true → run.costUsd.isSome = true
  tokens : bundle.expectedBehavior.budgets.maxTokens.isSome = true →
    (tokenMeasurement run).isSome = true

/-- No measurement is missing exactly when both runs have all. -/
theorem missingMeasurements_eq_nil (hbaseline : comparable baseline = true)
    (hcandidate : comparable candidate = true) :
    missingMeasurements bundle baseline candidate = [] ↔
      Measured bundle baseline ∧ Measured bundle candidate := by
  have hif (declared : Bool) (x y : Bool) (name : String) :
      (if declared && (!x || !y) then [name] else []) = [] ↔
        (declared = true → x = true) ∧ (declared = true → y = true) := by
    cases declared <;> cases x <;> cases y <;> simp
  simp only [missingMeasurements, List.append_eq_nil_iff, ← Option.not_isSome]
  rw [hif, hif, hif]
  constructor
  · rintro ⟨⟨⟨hlb, hlc⟩, hcb, hcc⟩, htb, htc⟩
    exact ⟨⟨hbaseline, hlb, hcb, htb⟩, ⟨hcandidate, hlc, hcc, htc⟩⟩
  · rintro ⟨⟨-, hlb, hcb, htb⟩, ⟨-, hlc, hcc, htc⟩⟩
    exact ⟨⟨⟨hlb, hlc⟩, hcb, hcc⟩, htb, htc⟩

/-! ## Regressions and improvements -/

theorem evaluatorOf_evaluator (evaluator : String) :
    evaluatorOf ("evaluator:" ++ evaluator) = some evaluator := by
  have hprefix : "evaluator:".toList.length = 10 := by
    rw [String.toList_ofList]
    rfl
  rw [evaluatorOf, String.toList_append,
    if_pos (List.isPrefixOf_iff_prefix.mpr (List.prefix_append _ _)),
    List.drop_left' hprefix, String.ofList_toList]

theorem mem_comparedEvaluators {evaluator : String} :
    evaluator ∈ comparedEvaluators baseline candidate ↔
      evaluator ∈ baseline.evaluators.names ∨ evaluator ∈ candidate.evaluators.names := by
  rw [comparedEvaluators, mem_sortedSet, List.mem_append]

/-- An evaluator that a run passes is compared. -/
theorem mem_comparedEvaluators_of_passes {evaluator : String}
    (h : baseline.evaluators.passes evaluator = true ∨
      candidate.evaluators.passes evaluator = true) :
    evaluator ∈ comparedEvaluators baseline candidate := by
  rw [mem_comparedEvaluators]
  by_contra hnot
  obtain ⟨hb, hc⟩ := not_or.mp hnot
  rw [EvaluatorReport.passes_eq_false_of_not_mem hb,
    EvaluatorReport.passes_eq_false_of_not_mem hc] at h
  exact absurd h (by decide)

/-- **A criterion regresses exactly when the baseline is better on some criterion.** -/
theorem exists_regression_iff :
    (∃ d ∈ criterionDeltas baseline candidate bundle, d.regression = true) ↔
      Better bundle baseline candidate := by
  simp only [criterionDeltas, List.mem_append, List.mem_cons, List.mem_map, List.not_mem_nil,
    or_false]
  constructor
  · rintro ⟨d, (rfl | ⟨evaluator, -, rfl⟩) | rfl | rfl | rfl | rfl | rfl | rfl, hd⟩
    · simpa [Better, outcomeDelta] using Or.inl hd
    · simp only [evaluatorDelta, Bool.and_eq_true, Bool.not_eq_true'] at hd
      exact Or.inr (Or.inl ⟨evaluator, hd⟩)
    · cases hd
    · cases hd
    · exact Or.inr (Or.inr (of_decide_eq_true hd))
    · cases hd
    · cases hd
    · cases hd
  · rintro (houtcome | ⟨evaluator, hbaseline, hcandidate⟩ | hretries)
    · exact ⟨outcomeDelta baseline candidate bundle, Or.inl (Or.inl rfl),
        by simpa [outcomeDelta] using houtcome⟩
    · exact ⟨evaluatorDelta baseline candidate evaluator,
        Or.inl (Or.inr ⟨evaluator, mem_comparedEvaluators_of_passes (Or.inl hbaseline), rfl⟩),
        by simp [evaluatorDelta, hbaseline, hcandidate]⟩
    · exact ⟨retriesDelta baseline candidate, by simp, decide_eq_true hretries⟩

/-- The criteria other than the evaluators name none. -/
theorem evaluatorOf_eq_none : ∀ criterion ∈ ["outcome", "state", "trajectory", "retries",
    "latency_ms", "tokens", "cost_usd"], evaluatorOf criterion = none := by
  decide +kernel

/-- An evaluator that the candidate fixes. -/
theorem exists_fixed_evaluator_iff :
    (∃ d ∈ criterionDeltas baseline candidate bundle, (evaluatorOf d.criterion).isSome = true ∧
        d.baseline = "fail" ∧ d.candidate = "pass") ↔
      ∃ evaluator, candidate.evaluators.passes evaluator = true ∧
        baseline.evaluators.passes evaluator = false := by
  have hfail (passed : Bool) : passText passed = "fail" ↔ passed = false := by
    cases passed <;> decide
  have hpass (passed : Bool) : passText passed = "pass" ↔ passed = true := by
    cases passed <;> decide
  constructor
  · rintro ⟨d, hd, hsome, hbaseline, hcandidate⟩
    simp only [criterionDeltas, List.mem_append, List.mem_cons, List.mem_map, List.not_mem_nil,
      or_false] at hd
    rcases hd with (rfl | ⟨evaluator, -, rfl⟩) | rfl | rfl | rfl | rfl | rfl | rfl
    case inl.inr =>
      exact ⟨evaluator, (hpass _).mp hcandidate, (hfail _).mp hbaseline⟩
    all_goals
      rw [evaluatorOf_eq_none _ (by simp [outcomeDelta, stateDelta, trajectoryDelta, retriesDelta,
        latencyDelta, tokensDelta, costDelta])] at hsome
      cases hsome
  · rintro ⟨evaluator, hcandidate, hbaseline⟩
    refine ⟨evaluatorDelta baseline candidate evaluator, ?_, ?_, (hfail _).mpr hbaseline,
      (hpass _).mpr hcandidate⟩
    · have hmem : evaluator ∈ comparedEvaluators baseline candidate :=
        mem_comparedEvaluators_of_passes (Or.inr hcandidate)
      simp only [criterionDeltas, List.mem_append, List.mem_cons, List.mem_map]
      exact Or.inl (Or.inr ⟨evaluator, hmem, rfl⟩)
    · exact congrArg Option.isSome (evaluatorOf_evaluator evaluator)

/-- **The improvements of a candidate are the criteria on which it is better.** -/
theorem improvements_ne_nil_iff :
    improvements bundle baseline candidate (criterionDeltas baseline candidate bundle) ≠ [] ↔
      Better bundle candidate baseline := by
  have houtcome : (if !outcomeMatches bundle baseline && outcomeMatches bundle candidate then
      ["outcome"] else []) ≠ [] ↔
        outcomeMatches bundle candidate = true ∧ outcomeMatches bundle baseline = false := by
    cases outcomeMatches bundle baseline <;> cases outcomeMatches bundle candidate <;> simp
  have hevaluators : ((criterionDeltas baseline candidate bundle).filter fun d =>
      (evaluatorOf d.criterion).isSome && d.baseline = "fail" && d.candidate = "pass").map
        (·.criterion) ≠ [] ↔
      ∃ d ∈ criterionDeltas baseline candidate bundle, (evaluatorOf d.criterion).isSome = true ∧
        d.baseline = "fail" ∧ d.candidate = "pass" := by
    rw [ne_eq, List.map_eq_nil_iff, List.filter_eq_nil_iff]
    simp only [not_forall, Bool.and_eq_true, decide_eq_true_eq, not_not, exists_prop, and_assoc]
  have hretries : (if candidate.retries < baseline.retries then ["retries"] else []) ≠ [] ↔
      candidate.retries < baseline.retries := by
    split_ifs with h <;> simp [h]
  rw [improvements, ne_eq, List.append_eq_nil_iff, List.append_eq_nil_iff, not_and_or, not_and_or,
    ← ne_eq, ← ne_eq, ← ne_eq, houtcome, hevaluators, hretries, exists_fixed_evaluator_iff, Better,
    or_assoc]

/-! ## The verdict of a comparison -/

theorem contains_missingMeasurement (measurement : String) :
    Contains "missing required measurement"
      ("missing required measurement: " ++ measurement) := by
  rw [Contains, String.toList_append, String.toList_ofList, String.toList_ofList]
  exact ⟨[], ':' :: ' ' :: measurement.toList, rfl⟩

theorem safetyEvaluators_plain : ∀ evaluator ∈ safetyEvaluators,
    isPlainText evaluator = true ∧ 'q' ∉ evaluator.toList := by
  decide +kernel

section Compare

variable [UnicodeTables]

/-- The reasons of regressions do not mention measurements: they have no `q`. -/
theorem not_contains_blockingRegression {d : CriterionDelta} {reason : String}
    (h : blockingRegression d = some reason) :
    ¬ Contains "missing required measurement" reason := by
  refine not_contains_of_not_mem (show 'q' ∈ _ by rw [String.toList_ofList]; decide) ?_
  unfold blockingRegression at h
  split at h
  · split at h
    · rename_i evaluator _
      split_ifs at h with hsafety
      obtain rfl := Option.some.inj h
      obtain ⟨hplain, hq⟩ := safetyEvaluators_plain evaluator hsafety
      rw [String.toList_append, toList_reprText_of_plain hplain, String.toList_ofList]
      simp only [List.mem_append, List.mem_cons, List.not_mem_nil, or_false, not_or]
      exact ⟨by decide, ⟨by decide, hq⟩, by decide⟩
    · split_ifs at h
      obtain rfl := Option.some.inj h
      rw [String.toList_ofList]
      decide
  · cases h

/-- The verdict of two completed runs, by the measurements and the criteria. -/
theorem completedVerdict_eq {ds : List CriterionDelta} :
    completedVerdict bundle baseline candidate ds =
      if missingMeasurements bundle baseline candidate ≠ [] then .insufficientEvidence
      else if ∃ d ∈ ds, d.regression = true then .candidateRegresses
      else if improvements bundle baseline candidate ds ≠ [] then .candidatePasses
      else .noMaterialDifference := by
  have hregressions : regressions ds ≠ [] ↔ ∃ d ∈ ds, d.regression = true := by
    rw [regressions, ne_eq, List.map_eq_nil_iff, List.filter_eq_nil_iff]
    simp only [not_forall, not_not, exists_prop]
  have hblocking : ds.filterMap blockingRegression ≠ [] → ∃ d ∈ ds, d.regression = true := by
    intro hne
    obtain ⟨reason, hreason⟩ := List.exists_mem_of_ne_nil _ hne
    obtain ⟨d, hd, hblock⟩ := List.mem_filterMap.mp hreason
    refine ⟨d, hd, ?_⟩
    by_contra hregression
    rw [blockingRegression, if_neg hregression] at hblock
    cases hblock
  unfold completedVerdict
  dsimp only
  by_cases hmissing : missingMeasurements bundle baseline candidate = []
  · -- No measurement is missing, so that only regressions block the candidate.
    have hblocked : blockedReasons bundle baseline candidate ds =
        ds.filterMap blockingRegression := by
      rw [blockedReasons, hmissing]
      rfl
    rw [hblocked, if_neg (not_not.mpr hmissing)]
    by_cases hnone : ds.filterMap blockingRegression = []
    · rw [if_neg (not_not.mpr hnone)]
      simp only [hregressions]
    · have hany : (ds.filterMap blockingRegression).any
          (fun reason => Contains "missing required measurement" reason) = false := by
        rw [List.any_eq_false]
        intro reason hreason
        obtain ⟨d, -, hblock⟩ := List.mem_filterMap.mp hreason
        simpa using not_contains_blockingRegression hblock
      rw [if_pos hnone, hany, if_neg Bool.false_ne_true, if_pos (hblocking hnone)]
  · obtain ⟨measurement, hmeasurement⟩ := List.exists_mem_of_ne_nil _ hmissing
    have hmem : "missing required measurement: " ++ measurement ∈
        blockedReasons bundle baseline candidate ds :=
      List.mem_append_left _ (List.mem_map_of_mem hmeasurement)
    rw [if_pos (List.ne_nil_of_mem hmem), if_pos, if_pos hmissing]
    exact List.any_eq_true.mpr ⟨_, hmem, decide_eq_true (contains_missingMeasurement _)⟩

/-- **A comparison computes the verdict of the order of profiles**, on two measured runs. -/
theorem compareRuns_verdict {result : RunComparison}
    (h : compareRuns baseline candidate bundle = .ok result) :
    result.verdict = verdictOf (Measured bundle baseline ∧ Measured bundle candidate)
      (profile bundle baseline) (profile bundle candidate) := by
  obtain ⟨-, -, -, rfl⟩ := compareRuns_eq_ok.mp h
  unfold comparisonOf
  split_ifs with hincomparable
  · refine (verdictOf_eq_insufficientEvidence.mpr ?_).symm
    rintro ⟨hbaseline, hcandidate⟩
    rw [hbaseline.completed, hcandidate.completed] at hincomparable
    cases hincomparable
  · simp only [Bool.or_eq_true, Bool.not_eq_true', not_or, Bool.not_eq_false] at hincomparable
    obtain ⟨hbaseline, hcandidate⟩ := hincomparable
    have hmissing := @missingMeasurements_eq_nil bundle baseline candidate hbaseline hcandidate
    dsimp only
    rw [completedVerdict_eq]
    by_cases hevidence : Measured bundle baseline ∧ Measured bundle candidate
    · rw [if_neg (not_not.mpr (hmissing.mpr hevidence))]
      by_cases hregression : Better bundle baseline candidate
      · rw [if_pos (exists_regression_iff.mpr hregression)]
        exact (verdictOf_eq_candidateRegresses.mpr
          ⟨hevidence, not_profile_le_iff.mpr hregression⟩).symm
      · have hle : profile bundle baseline ≤ profile bundle candidate :=
          not_not.mp fun hnot => hregression (not_profile_le_iff.mp hnot)
        rw [if_neg fun hexists => hregression (exists_regression_iff.mp hexists)]
        by_cases himprovement : Better bundle candidate baseline
        · rw [if_pos (improvements_ne_nil_iff.mpr himprovement)]
          exact (verdictOf_eq_candidatePasses.mpr
            ⟨hevidence, lt_of_le_not_ge hle (not_profile_le_iff.mpr himprovement)⟩).symm
        · have hge : profile bundle candidate ≤ profile bundle baseline :=
            not_not.mp fun hnot => himprovement (not_profile_le_iff.mp hnot)
          rw [if_neg fun hne => himprovement (improvements_ne_nil_iff.mp hne)]
          exact (verdictOf_eq_noMaterialDifference.mpr ⟨hevidence, le_antisymm hle hge⟩).symm
    · rw [if_pos fun hnil => hevidence (hmissing.mp hnil)]
      exact (verdictOf_eq_insufficientEvidence.mpr hevidence).symm

/-- A run that can be compared: it belongs to the bundle, and its display texts are short. -/
structure Comparable (bundle : SimulationBundle) (run : SimulationRun) : Prop where
  runOf : RunOf bundle run
  fits : RunFits run

/-- A comparison returns exactly on comparable runs. -/
theorem exists_compareRuns_iff :
    (∃ result, compareRuns baseline candidate bundle = .ok result) ↔
      Comparable bundle baseline ∧ Comparable bundle candidate := by
  constructor
  · rintro ⟨result, hresult⟩
    obtain ⟨hbaseline, hcandidate, hdeltas, -⟩ := compareRuns_eq_ok.mp hresult
    obtain ⟨hfitsb, hfitsc⟩ := deltas_ok_iff.mp hdeltas
    exact ⟨⟨hbaseline, hfitsb⟩, ⟨hcandidate, hfitsc⟩⟩
  · rintro ⟨⟨hbaseline, hfitsb⟩, ⟨hcandidate, hfitsc⟩⟩
    exact ⟨_, compareRuns_eq_ok.mpr
      ⟨hbaseline, hcandidate, deltas_ok_iff.mpr ⟨hfitsb, hfitsc⟩, rfl⟩⟩

/-! ## The two directions -/

/-- **The verdicts of the two directions.** Swapping the sides of a comparison returns again. A pass
becomes a regression, no material difference and insufficient evidence stay, both directions regress
only when each run is better on some criterion, and a run never passes or regresses against
itself. -/
theorem compareRuns_dual {result : RunComparison}
    (h : compareRuns baseline candidate bundle = .ok result) :
    ∃ swapped, compareRuns candidate baseline bundle = .ok swapped ∧
      (result.verdict = .candidatePasses → swapped.verdict = .candidateRegresses) ∧
      (result.verdict = .noMaterialDifference ↔ swapped.verdict = .noMaterialDifference) ∧
      (result.verdict = .insufficientEvidence ↔ swapped.verdict = .insufficientEvidence) ∧
      (result.verdict = .candidateRegresses → swapped.verdict = .candidateRegresses →
        Better bundle baseline candidate ∧ Better bundle candidate baseline) ∧
      (baseline = candidate →
        result.verdict ≠ .candidatePasses ∧ result.verdict ≠ .candidateRegresses) := by
  obtain ⟨swapped, hswapped⟩ :=
    exists_compareRuns_iff.mpr (exists_compareRuns_iff.mp ⟨result, h⟩).symm
  rw [compareRuns_verdict h]
  refine ⟨swapped, hswapped, ?_⟩
  rw [compareRuns_verdict hswapped]
  simp only [verdictOf_eq_candidatePasses, verdictOf_eq_candidateRegresses,
    verdictOf_eq_noMaterialDifference, verdictOf_eq_insufficientEvidence, ne_eq]
  refine ⟨?_, ?_, ?_, ?_, ?_⟩
  · rintro ⟨hevidence, hlt⟩
    exact ⟨hevidence.symm, hlt.not_ge⟩
  · rw [and_comm, eq_comm, and_comm, @and_comm (Measured bundle baseline)]
  · rw [and_comm]
  · rintro ⟨-, hbaseline⟩ ⟨-, hcandidate⟩
    exact ⟨not_profile_le_iff.mp hbaseline, not_profile_le_iff.mp hcandidate⟩
  · rintro rfl
    exact ⟨fun hpass => lt_irrefl _ hpass.2, fun hregress => hregress.2 le_rfl⟩

/-! ## Accepted changes -/

/-- A comparison accepts the candidate. -/
def Passes (bundle : SimulationBundle) (baseline candidate : SimulationRun) : Prop :=
  ∃ result, compareRuns baseline candidate bundle = .ok result ∧
    result.verdict = .candidatePasses

theorem passes_iff :
    Passes bundle baseline candidate ↔
      (Comparable bundle baseline ∧ Comparable bundle candidate) ∧
        (Measured bundle baseline ∧ Measured bundle candidate) ∧
        profile bundle baseline < profile bundle candidate := by
  rw [← exists_compareRuns_iff, ← verdictOf_eq_candidatePasses]
  constructor
  · rintro ⟨result, hresult, hpasses⟩
    exact ⟨⟨result, hresult⟩, (compareRuns_verdict hresult).symm.trans hpasses⟩
  · rintro ⟨⟨result, hresult⟩, hpasses⟩
    exact ⟨result, hresult, (compareRuns_verdict hresult).trans hpasses⟩

theorem Passes.trans {a b c : SimulationRun} (hab : Passes bundle a b) (hbc : Passes bundle b c) :
    Passes bundle a c := by
  obtain ⟨⟨ha, -⟩, ⟨hma, -⟩, hlt⟩ := passes_iff.mp hab
  obtain ⟨⟨-, hc⟩, ⟨-, hmc⟩, hlt'⟩ := passes_iff.mp hbc
  exact passes_iff.mpr ⟨⟨ha, hc⟩, ⟨hma, hmc⟩, hlt.trans hlt'⟩

/-- **Accepted changes form a strict partial order** on the runs of a bundle: they compose, they
never go both ways, and a chain of them is accepted from its beginning to its end. -/
theorem passes_strict {a b c : SimulationRun} (hab : Passes bundle a b)
    (hbc : Passes bundle b c) :
    (∀ result, compareRuns a c bundle = .ok result → result.verdict = .candidatePasses) ∧
      ¬ Passes bundle b a ∧
      ∀ d, Relation.TransGen (Passes bundle) a d →
        Passes bundle a d ∧ ¬ Relation.TransGen (Passes bundle) d a := by
  have hasymm {x y : SimulationRun} (hxy : Passes bundle x y) : ¬ Passes bundle y x :=
    fun hyx => lt_asymm (passes_iff.mp hxy).2.2 (passes_iff.mp hyx).2.2
  have hchain {x y : SimulationRun} (hxy : Relation.TransGen (Passes bundle) x y) :
      Passes bundle x y := by
    induction hxy with
    | single h => exact h
    | tail _ h ih => exact ih.trans h
  refine ⟨?_, hasymm hab, ?_⟩
  · intro result hresult
    obtain ⟨passing, hpassing, hverdict⟩ := hab.trans hbc
    obtain rfl := Except.ok.inj (hpassing.symm.trans hresult)
    exact hverdict
  · intro d had
    exact ⟨hchain had, fun hda => hasymm (hchain had) (hchain hda)⟩

end Compare

/-! ## Concrete comparisons -/

section Small

attribute [local instance] asciiTables constantHashes

theorem comparable_completedRun (outcome : SupportOutcome) {retries : ℕ} (h : retries < 10) :
    Comparable comparedBundle (completedRun outcome retries) where
  runOf := runOf_completedRun outcome retries
  fits :=
    { evaluatorNames := fun _ hmem => absurd hmem (List.not_mem_nil)
      state := Nat.zero_le 1000
      trajectory := Nat.zero_le 1000
      retries := by
        have hone : digitCount retries ≤ 1 :=
          (Nat.length_toDigits_le_iff (by decide) (by decide)).mpr (by simpa using h)
        exact hone.trans (by decide)
      tokens := show digitCount 0 ≤ 1000 by decide }

theorem measured_completedRun (outcome : SupportOutcome) (retries : ℕ) :
    Measured comparedBundle (completedRun outcome retries) where
  completed := rfl
  latency h := absurd h (by decide)
  cost h := absurd h (by decide)
  tokens h := absurd h (by decide)

/-- Fewer retries are accepted. -/
theorem passes_completedRun {retries retries' : ℕ} (hlt : retries' < retries)
    (h : retries < 10) :
    Passes comparedBundle (completedRun .completed retries) (completedRun .completed retries') := by
  refine passes_iff.mpr ⟨⟨comparable_completedRun _ h, comparable_completedRun _ (hlt.trans h)⟩,
    ⟨measured_completedRun _ _, measured_completedRun _ _⟩, ?_⟩
  refine lt_of_le_not_ge ⟨le_rfl, le_rfl, hlt.le⟩ ?_
  exact not_profile_le_iff.mpr (Or.inr (Or.inr hlt))

/-- `compareRuns_dual` on a run with fewer retries. -/
theorem compareRuns_dual_small :
    ∃ result swapped,
      compareRuns (completedRun .completed 1) (completedRun .completed 0) comparedBundle =
        .ok result ∧
      compareRuns (completedRun .completed 0) (completedRun .completed 1) comparedBundle =
        .ok swapped ∧
      result.verdict = .candidatePasses ∧ swapped.verdict = .candidateRegresses := by
  obtain ⟨result, hresult, hpasses⟩ := passes_completedRun (show 0 < 1 by decide) (by decide)
  obtain ⟨swapped, hswapped, hdual, -⟩ := compareRuns_dual hresult
  exact ⟨result, swapped, hresult, hswapped, hpasses, hdual hpasses⟩

/-- `passes_strict` on three runs with fewer and fewer retries. -/
theorem passes_strict_small :
    ¬ Passes comparedBundle (completedRun .completed 1) (completedRun .completed 2) ∧
      ∀ result, compareRuns (completedRun .completed 2) (completedRun .completed 0)
        comparedBundle = .ok result → result.verdict = .candidatePasses := by
  have hfirst := passes_completedRun (show 1 < 2 by decide) (by decide)
  have hsecond := passes_completedRun (show 0 < 1 by decide) (by decide)
  have hstrict := passes_strict hfirst hsecond
  exact ⟨hstrict.2.1, hstrict.1⟩

end Small

end ObservabilityLab
