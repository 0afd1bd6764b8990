import ObservabilityLab.Comparison.ModelLab

/-!
# The safety veto of the Model Lab

The Model Lab counts a safety regression when the candidate run has a failing safety result and the
baseline run has none. `compare_runs` blocks a candidate that loses any one safety evaluator. The
two agree on a cohort unless a case loses an evaluator while another one already fails in the
baseline run, or while the candidate run has no failing result, and nothing else holds back the
recommendation.

## Main definitions

* `VetoHolds`: a recommended candidate loses no safety evaluator in any comparable case
* `TripsNoVeto`, `Favours`: the conditions of a recommendation on the cases and on the totals
* `Undetected`: a safety regression that no veto counts

## Main results

* `cohort_foldl`: the counters and lists of a cohort
* `recommendation_eq_recommendCandidate`: when the totals recommend the candidate
* `vetoHolds_iff`: when the cohort veto agrees with the safety block of the comparisons
-/

namespace ObservabilityLab

open Python

/-! ## The totals of a cohort -/

/-- The comparable cases of a cohort. -/
def comparablePairs (pairs : List PairedRun) : List PairedRun := pairs.filter (·.comparable)

/-- The lists and counters of a cohort, all at once. -/
def cohortOf (pairs : List PairedRun) : Cohort where
  cases := pairs.map (·.result)
  baselineOutcomes := (comparablePairs pairs).map (·.baselineOutcome)
  candidateOutcomes := (comparablePairs pairs).map (·.candidateOutcome)
  regressions := pairs.countP (·.regression)
  safetyRegressions := pairs.countP (·.safetyRegression)
  unexpectedStateChanges := pairs.countP (·.unexpectedStateChange)

/-- One case more at the end. -/
theorem cohortOf_concat (pairs : List PairedRun) (pair : PairedRun) :
    (cohortOf pairs).add pair = cohortOf (pairs ++ [pair]) := by
  simp only [Cohort.add, cohortOf, comparablePairs, List.map_append, List.map_cons, List.map_nil,
    List.filter_append, List.countP_append, List.filter_cons, List.filter_nil, List.countP_cons,
    List.countP_nil, Nat.zero_add]
  cases pair.comparable <;> cases pair.regression <;> cases pair.safetyRegression <;>
    cases pair.unexpectedStateChange <;> simp

/-- **The counters of the loop count the cases.** -/
theorem cohort_foldl (pairs : List PairedRun) : pairs.foldl Cohort.add {} = cohortOf pairs := by
  induction pairs using List.reverseRecOn with
  | nil => rfl
  | append_singleton pairs pair ih =>
    rw [List.foldl_append, ih, List.foldl_cons, List.foldl_nil, cohortOf_concat]

/-! ## When the totals recommend the candidate -/

section Recommendation

variable {totals : ModelLabTotals} {minComparableCases : ℤ}

/-- The success rate is not lower, the cost per successful task is not higher, and the two are not
both equal. -/
def ModelLabTotals.preferCandidate (totals : ModelLabTotals) : Bool :=
  totals.baseline.successRate.le totals.candidate.successRate &&
    (totals.costsIfAny fun baselineCost candidateCost => candidateCost.le baselineCost) &&
    !(totals.candidate.successRate.eq totals.baseline.successRate &&
      totals.costs fun baselineCost candidateCost => candidateCost.eq baselineCost)

theorem costs_lt_eq_false
    (h : (totals.costsIfAny fun baselineCost candidateCost => candidateCost.le baselineCost) =
      true) :
    (totals.costs fun baselineCost candidateCost => baselineCost.lt candidateCost) = false := by
  unfold ModelLabTotals.costsIfAny at h
  unfold ModelLabTotals.costs
  split
  · rename_i baselineCost candidateCost hbaseline hcandidate
    rw [hbaseline, hcandidate] at h
    exact PyFloat.lt_eq_false_of_le h
  · rfl

/-- **When the totals recommend the candidate.** -/
theorem recommendation_eq_recommendCandidate [FloatRepr] :
    (recommendation totals minComparableCases).1 = .recommendCandidate ↔
      minComparableCases ≤ totals.comparableCases ∧
        (totals.regressions = 0 ∧ totals.safetyRegressions = 0 ∧
          totals.unexpectedStateChanges = 0) ∧
        ¬ (totals.baseline.successCount = 0 ∧ totals.candidate.successCount = 0) ∧
        totals.missing = [] ∧ totals.preferCandidate = true := by
  unfold recommendation
  dsimp only
  constructor
  · intro h
    split_ifs at h with hfew hregressed hunsafe hchanged hnone hmissing hrate hcost hequal hbetter
    refine ⟨not_lt.mp hfew, ⟨by omega, by omega, by omega⟩, hnone, not_not.mp hmissing, ?_⟩
    simp only [ModelLabTotals.preferCandidate, Bool.and_eq_true, Bool.not_eq_true',
      Bool.and_eq_false_iff]
    refine ⟨hbetter, ?_⟩
    by_contra hboth
    simp only [not_or, Bool.not_eq_false] at hboth
    exact hequal hboth
  · rintro ⟨henough, ⟨hregressed, hunsafe, hchanged⟩, hsome, hmissing, hprefer⟩
    simp only [ModelLabTotals.preferCandidate, Bool.and_eq_true, Bool.not_eq_true'] at hprefer
    obtain ⟨⟨hrate, hcost⟩, hequal⟩ := hprefer
    have hequal' : ¬ (totals.candidate.successRate.eq totals.baseline.successRate = true ∧
        (totals.costs fun baselineCost candidateCost => candidateCost.eq baselineCost) = true) :=
      fun hboth => Bool.eq_false_iff.mp hequal (Bool.and_eq_true_iff.mpr hboth)
    rw [if_neg (not_lt.mpr henough), if_neg (by omega), if_neg (by omega), if_neg (by omega),
      if_neg hsome, if_neg (not_not.mpr hmissing), PyFloat.lt_eq_false_of_le hrate,
      if_neg Bool.false_ne_true, costs_lt_eq_false hcost, if_neg Bool.false_ne_true,
      if_neg hequal', if_pos ⟨hrate, hcost⟩]

end Recommendation

/-! ## The conditions on the runs -/

section Conditions

variable (pairs : List PairedRun)

/-- No case trips one of the three vetoes that the Model Lab counts. -/
def TripsNoVeto : Prop :=
  ∀ pair ∈ pairs, pair.regression = false ∧ pair.safetyRegression = false ∧
    pair.unexpectedStateChange = false

/-- Both runs of a case have every measurement. -/
def PairedRun.Measured (pair : PairedRun) : Prop :=
  (pair.baseline.totalLatencyMs.isSome = true ∧ pair.candidate.totalLatencyMs.isSome = true) ∧
    (0 < pair.baseline.totalTokens ∧ 0 < pair.candidate.totalTokens) ∧
    (pair.baseline.costUsd.isSome = true ∧ pair.candidate.costUsd.isSome = true)

/-- The totals favour the candidate: enough comparable cases, all measured, some of them a success,
and a success rate and cost per successful task that prefer the candidate. -/
structure Favours (minComparableCases : ℤ) : Prop where
  enough : minComparableCases ≤ (comparablePairs pairs).length
  measured : ∀ pair ∈ comparablePairs pairs, pair.Measured
  success : ∃ pair ∈ comparablePairs pairs, taskSuccess pair.bundle pair.baseline = true ∨
    taskSuccess pair.bundle pair.candidate = true
  prefers : (cohortOf pairs).totals.preferCandidate = true

/-- A safety regression of a comparable case that no veto counts: the baseline is not a success and
already has a failing safety result, or the candidate has none. -/
structure Undetected (pair : PairedRun) : Prop where
  comparable : pair.comparable = true
  regression : SafetyRegression pair.baseline pair.candidate
  noSuccess : taskSuccess pair.bundle pair.baseline = false
  masked : safetyFailure pair.baseline = true ∨ safetyFailure pair.candidate = false
  stateKept : evaluatorFailed pair.candidate "unexpected_state_changes" = false

/-- **The veto**: when the candidate is recommended, then no comparable case has a safety
regression, and the comparison of its two runs reports none. -/
def VetoHolds [UnicodeTables] (result : ModelLabResult) : Prop :=
  result.verdict = .recommendCandidate → ∀ pair ∈ pairs, pair.comparable = true →
    ¬ SafetyRegression pair.baseline pair.candidate ∧
      ∀ comparison, compareRuns pair.baseline pair.candidate pair.bundle = .ok comparison →
        comparison.mentions "safety regression" = false

end Conditions

variable {pairs : List PairedRun}

/-- The undetected regressions are the safety regressions that trip no veto. -/
theorem undetected_iff {pair : PairedRun} :
    Undetected pair ↔ pair.comparable = true ∧ SafetyRegression pair.baseline pair.candidate ∧
      pair.regression = false ∧ pair.safetyRegression = false ∧
      pair.unexpectedStateChange = false := by
  constructor
  · rintro ⟨hcomparable, hregression, hnosuccess, hmasked, hkept⟩
    refine ⟨hcomparable, hregression, ?_, ?_, ?_⟩
    · rw [PairedRun.regression, hnosuccess, Bool.and_false, Bool.false_and]
    · rcases hmasked with hmasked | hmasked <;> simp [PairedRun.safetyRegression, hmasked]
    · rw [PairedRun.unexpectedStateChange, hkept, Bool.and_false]
  · rintro ⟨hcomparable, hregression, hkept, hmasked, hchange⟩
    have hfails := @taskSuccess_eq_false_of_safetyRegression pair.bundle _ _ hregression
    rw [PairedRun.regression, hcomparable, hfails, Bool.true_and, Bool.not_false,
      Bool.and_true] at hkept
    rw [PairedRun.safetyRegression, hcomparable, Bool.true_and, Bool.and_eq_false_iff,
      Bool.not_eq_false'] at hmasked
    rw [PairedRun.unexpectedStateChange, hcomparable, Bool.true_and] at hchange
    exact ⟨hcomparable, hregression, hkept, hmasked, hchange⟩

/-- No measurement is missing exactly when every comparable case is measured. -/
theorem missing_eq_nil_iff :
    (cohortOf pairs).totals.missing = [] ↔ ∀ pair ∈ comparablePairs pairs, pair.Measured := by
  have htokens (run : SimulationRun) :
      (tokenMeasurement run).isSome = true ↔ 0 < run.totalTokens := by
    unfold tokenMeasurement
    split_ifs with h <;> simp [h]
  have hcount (p : ModelCaseOutcome → Bool) (f : PairedRun → ModelCaseOutcome) :
      ¬ ((comparablePairs pairs).map f).countP p < (comparablePairs pairs).length ↔
        ∀ pair ∈ comparablePairs pairs, p (f pair) = true := by
    rw [List.countP_map, not_lt, ← List.countP_eq_length]
    exact ⟨fun h => le_antisymm List.countP_le_length h, fun h => h.ge⟩
  simp only [ModelLabTotals.missing, List.map_eq_nil_iff, List.filter_eq_nil_iff,
    List.forall_mem_cons, List.not_mem_nil, false_imp_iff, implies_true, and_true,
    decide_eq_true_eq, Cohort.totals, cohortOf, sideTotals, List.length_map, hcount,
    PairedRun.Measured, PairedRun.baselineOutcome, PairedRun.candidateOutcome,
    ModelCaseOutcome.ofRun, htokens]
  constructor
  · rintro ⟨hlb, hlc, htb, htc, hcb, hcc⟩ pair hpair
    exact ⟨⟨hlb pair hpair, hlc pair hpair⟩, ⟨htb pair hpair, htc pair hpair⟩,
      ⟨hcb pair hpair, hcc pair hpair⟩⟩
  · intro h
    exact ⟨fun pair hpair => (h pair hpair).1.1, fun pair hpair => (h pair hpair).1.2,
      fun pair hpair => (h pair hpair).2.1.1, fun pair hpair => (h pair hpair).2.1.2,
      fun pair hpair => (h pair hpair).2.2.1, fun pair hpair => (h pair hpair).2.2.2⟩

/-- Some comparable case is a success. -/
theorem successCount_ne_zero_iff :
    ¬ ((cohortOf pairs).totals.baseline.successCount = 0 ∧
        (cohortOf pairs).totals.candidate.successCount = 0) ↔
      ∃ pair ∈ comparablePairs pairs, taskSuccess pair.bundle pair.baseline = true ∨
        taskSuccess pair.bundle pair.candidate = true := by
  simp only [Cohort.totals, cohortOf, sideTotals, List.countP_map, List.countP_eq_zero,
    Function.comp_apply, PairedRun.baselineOutcome, PairedRun.candidateOutcome,
    ModelCaseOutcome.ofRun]
  simp only [not_and_or, not_forall, not_not, exists_prop]
  constructor
  · rintro (⟨pair, hpair, h⟩ | ⟨pair, hpair, h⟩)
    · exact ⟨pair, hpair, Or.inl h⟩
    · exact ⟨pair, hpair, Or.inr h⟩
  · rintro ⟨pair, hpair, h | h⟩
    · exact Or.inl ⟨pair, hpair, h⟩
    · exact Or.inr ⟨pair, hpair, h⟩

/-- The cohort recommends the candidate exactly when no case trips a veto and the totals favour
it. -/
theorem recommends_iff [FloatRepr] {minComparableCases : ℤ} {result : ModelLabResult}
    (h : (pairs.foldl Cohort.add {}).result minComparableCases = .ok result) :
    result.verdict = .recommendCandidate ↔
      TripsNoVeto pairs ∧ Favours pairs minComparableCases := by
  have hcounts : ((cohortOf pairs).totals.regressions = 0 ∧
      (cohortOf pairs).totals.safetyRegressions = 0 ∧
      (cohortOf pairs).totals.unexpectedStateChanges = 0) ↔ TripsNoVeto pairs := by
    simp only [Cohort.totals, cohortOf, List.countP_eq_zero, Bool.not_eq_true, TripsNoVeto]
    exact ⟨fun h pair hpair => ⟨h.1 pair hpair, h.2.1 pair hpair, h.2.2 pair hpair⟩,
      fun h => ⟨fun pair hpair => (h pair hpair).1, fun pair hpair => (h pair hpair).2.1,
        fun pair hpair => (h pair hpair).2.2⟩⟩
  have hlength : (cohortOf pairs).totals.comparableCases = (comparablePairs pairs).length :=
    List.length_map _
  rw [cohort_foldl, Cohort.result, ModelLabResult.new, check_bind_eq_ok] at h
  obtain rfl := Except.ok.inj h.2
  dsimp only
  rw [recommendation_eq_recommendCandidate, hcounts, missing_eq_nil_iff, successCount_ne_zero_iff,
    hlength]
  constructor
  · rintro ⟨henough, hveto, hsuccess, hmeasured, hprefers⟩
    exact ⟨hveto, henough, hmeasured, hsuccess, hprefers⟩
  · rintro ⟨hveto, henough, hmeasured, hsuccess, hprefers⟩
    exact ⟨henough, hveto, hsuccess, hmeasured, hprefers⟩

/-! ## The veto -/

section Veto

variable [FloatRepr] {World : Type} {runBundle : RunBundle World}
  {baselineModelConfig candidateModelConfig : ModelConfig} {bundles : List SimulationBundle}
  {minComparableCases maxBundles : ℤ} {world world' world'' : World} {result : ModelLabResult}

/-- A result is that of the cohort's own runs, or the cohort is empty. -/
theorem result_of_executeCohort
    (hruns : executeCohort runBundle baselineModelConfig candidateModelConfig bundles world =
      .ok (pairs, world'))
    (hresult : runModelLab runBundle baselineModelConfig candidateModelConfig bundles
      minComparableCases maxBundles world = .ok (result, world'')) :
    (pairs = [] ∧ result.verdict = .inconclusive) ∨
      (pairs.foldl Cohort.add {}).result minComparableCases = .ok result := by
  by_cases hempty : bundles = []
  · subst hempty
    obtain ⟨hpairs, -⟩ := Prod.mk.inj (Except.ok.inj hruns)
    obtain ⟨rfl, -⟩ := Prod.mk.inj (Except.ok.inj hresult)
    exact Or.inl ⟨hpairs.symm, rfl⟩
  · obtain ⟨-, executed, hexecuted, htotals⟩ := (runModelLab_eq_ok hempty).mp hresult
    obtain ⟨rfl, -⟩ := Prod.mk.inj (Except.ok.inj (hruns.symm.trans hexecuted))
    exact Or.inr htotals

/-- **When the cohort veto agrees with the safety block of the comparisons**: exactly when no case
is an undetected regression, or a veto or the totals hold back the recommendation anyway. -/
theorem vetoHolds_iff [UnicodeTables]
    (hruns : executeCohort runBundle baselineModelConfig candidateModelConfig bundles world =
      .ok (pairs, world'))
    (hresult : runModelLab runBundle baselineModelConfig candidateModelConfig bundles
      minComparableCases maxBundles world = .ok (result, world'')) :
    VetoHolds pairs result ↔
      ¬ (TripsNoVeto pairs ∧ Favours pairs minComparableCases ∧
        ∃ pair ∈ pairs, Undetected pair) := by
  rcases result_of_executeCohort hruns hresult with ⟨rfl, hinconclusive⟩ | htotals
  · refine iff_of_true (fun hrecommends => ?_) ?_
    · rw [hinconclusive] at hrecommends
      cases hrecommends
    · rintro ⟨-, -, pair, hpair, -⟩
      cases hpair
  have hrecommends := recommends_iff htotals
  constructor
  · rintro hveto ⟨htrips, hfavours, pair, hpair, hundetected⟩
    exact (hveto (hrecommends.mpr ⟨htrips, hfavours⟩) pair hpair hundetected.comparable).1
      hundetected.regression
  · intro hnone hverdict pair hpair hcomparable
    obtain ⟨htrips, hfavours⟩ := hrecommends.mp hverdict
    have hsafe : ¬ SafetyRegression pair.baseline pair.candidate := by
      intro hregression
      exact hnone ⟨htrips, hfavours, pair, hpair,
        undetected_iff.mpr ⟨hcomparable, hregression, htrips pair hpair⟩⟩
    refine ⟨hsafe, fun comparison hcomparison => ?_⟩
    exact Bool.eq_false_iff.mpr fun hmentions =>
      hsafe ((mentions_safetyRegression_iff hcomparison).mp hmentions).2

end Veto

/-! ## A concrete cohort -/

section Small

attribute [local instance] asciiTables oneDecimalRepr constantHashes

/-- Three cases: the third loses `refund_confirmation` while its baseline fails `authorization`. -/
def maskedPairs : List PairedRun :=
  [⟨comparedBundle, reportedRun 2 [], reportedRun 1 []⟩,
    ⟨comparedBundle, reportedRun 2 [], reportedRun 1 []⟩,
    ⟨comparedBundle, reportedRun 2 ["authorization"], reportedRun 1 ["refund_confirmation"]⟩]

def maskedScript : List SimulationRun :=
  maskedPairs.flatMap fun pair => [pair.baseline, pair.candidate]

def hostedModel : ModelConfig := { provider := "openai", name := "gpt" }

theorem executeCohort_maskedPairs :
    executeCohort scriptedRuns hostedModel hostedModel
      [comparedBundle, comparedBundle, comparedBundle] maskedScript = .ok (maskedPairs, []) := rfl

theorem tripsNoVeto_maskedPairs : TripsNoVeto maskedPairs := by
  unfold TripsNoVeto
  decide +kernel

theorem favours_maskedPairs : Favours maskedPairs minComparableCases where
  enough := by decide +kernel
  measured := by
    unfold PairedRun.Measured
    decide +kernel
  success := by decide +kernel
  prefers := by decide +kernel

/-- The result of the cohort. -/
def maskedResult : ModelLabResult :=
  let totals := (cohortOf maskedPairs).totals
  { cohort := (cohortOf maskedPairs).cases
    totals := totals
    verdict := (recommendation totals minComparableCases).1
    verdictReason := (recommendation totals minComparableCases).2 }

theorem result_maskedPairs :
    (maskedPairs.foldl Cohort.add {}).result minComparableCases = .ok maskedResult := by
  have hreason : lengthWithin 1 1000
      (recommendation (cohortOf maskedPairs).totals minComparableCases).2 = true := by
    decide +kernel
  rw [cohort_foldl, Cohort.result, ModelLabResult.new, check_bind_eq_ok]
  exact ⟨checkField_eq_ok.mpr hreason, rfl⟩

theorem runModelLab_maskedPairs :
    runModelLab scriptedRuns hostedModel hostedModel
      [comparedBundle, comparedBundle, comparedBundle] minComparableCases maxCohortBundles
      maskedScript = .ok (maskedResult, []) :=
  (runModelLab_eq_ok (List.cons_ne_nil _ _)).mpr
    ⟨by decide, maskedPairs, executeCohort_maskedPairs, result_maskedPairs⟩

/-- `vetoHolds_iff` on this cohort. -/
theorem vetoHolds_maskedPairs :
    VetoHolds maskedPairs maskedResult ↔
      ¬ (TripsNoVeto maskedPairs ∧ Favours maskedPairs minComparableCases ∧
        ∃ pair ∈ maskedPairs, Undetected pair) :=
  vetoHolds_iff executeCohort_maskedPairs runModelLab_maskedPairs

/-- **A cohort that loses a safety evaluator is recommended.** -/
theorem not_vetoHolds_maskedPairs :
    runModelLab scriptedRuns hostedModel hostedModel
        [comparedBundle, comparedBundle, comparedBundle] minComparableCases maxCohortBundles
        maskedScript = .ok (maskedResult, []) ∧
      executeCohort scriptedRuns hostedModel hostedModel
        [comparedBundle, comparedBundle, comparedBundle] maskedScript = .ok (maskedPairs, []) ∧
      ¬ VetoHolds maskedPairs maskedResult := by
  refine ⟨runModelLab_maskedPairs, executeCohort_maskedPairs, fun hveto => ?_⟩
  have hrecommended : maskedResult.verdict = .recommendCandidate :=
    (recommends_iff result_maskedPairs).mpr ⟨tripsNoVeto_maskedPairs, favours_maskedPairs⟩
  refine (hveto hrecommended _ (List.mem_of_getElem? (i := 2) rfl) (by decide +kernel)).1
    ⟨"refund_confirmation", ?_, ?_⟩
  all_goals decide +kernel

end Small

end ObservabilityLab
