import ObservabilityLab.Comparison.ModelLabVeto
import ObservabilityLab.Python.FloatOrder

/-!
# What a recommendation rests on

A recommended candidate keeps every success of the baseline, at no higher cost per success. More
successes never give a lower success rate, so that a cohort without a regression is never decided by
the rates. The baseline is kept for its cost even when the candidate succeeds more often.

## Main definitions

* `SoundRecommendation`: what holds case by case when the candidate is recommended
* `CohortTotals`, `ModelLabTotals.Clean`: the totals of a cohort that no veto decides
* `KeepsOnlyWithoutGain`: the baseline is kept only when the candidate has no success gain

## Main results

* `successRate_mono`: more successes do not lower the success rate
* `recommendation_sound`: the recommendations of the Model Lab are sound
* `keepsOnlyWithoutGain_iff`: when the baseline is kept only without a success gain
-/

namespace ObservabilityLab

open Python

/-! ## Success rates -/

section Rates

variable {baseline candidate : List ModelCaseOutcome} {pairs : List PairedRun}

/-- **More successes do not lower the success rate.** -/
theorem successRate_mono (hlength : baseline.length = candidate.length)
    (hcount : (sideTotals baseline).successCount ≤ (sideTotals candidate).successCount) :
    (sideTotals candidate).successRate.lt (sideTotals baseline).successRate = false := by
  by_cases hempty : baseline = []
  · subst hempty
    obtain rfl := List.length_eq_zero_iff.mp hlength.symm
    decide +kernel
  · have hcandidate : candidate ≠ [] := by
      rintro rfl
      exact hempty (List.length_eq_zero_iff.mp hlength)
    have hsuccesses : (baseline.countP (·.taskSuccess) : ℚ) / baseline.length ≤
        candidate.countP (·.taskSuccess) / candidate.length := by
      rw [hlength]
      exact div_le_div_of_nonneg_right (Nat.cast_le.mpr hcount) (Nat.cast_nonneg _)
    have hnonneg : (0 : ℚ) ≤ baseline.countP (·.taskSuccess) / baseline.length :=
      div_nonneg (Nat.cast_nonneg _) (Nat.cast_nonneg _)
    simp only [sideTotals, if_neg hempty, if_neg hcandidate]
    apply PyFloat.lt_round_of_lt (PyFloat.nonneg_ofRat hnonneg)
    exact PyFloat.lt_ofRat_of_le hnonneg hsuccesses

/-- The successes of the candidate are at least those of the baseline when no case regressed. -/
theorem successCount_le_of_no_regression (h : ∀ pair ∈ pairs, pair.regression = false) :
    (cohortOf pairs).totals.baseline.successCount ≤
      (cohortOf pairs).totals.candidate.successCount := by
  simp only [Cohort.totals, cohortOf, sideTotals, List.countP_map]
  apply List.countP_mono_left
  intro pair hpair hbaseline
  obtain ⟨hmem, hcomparable⟩ := List.mem_filter.mp hpair
  have hkept := h pair hmem
  by_contra hcandidate
  have hlost : taskSuccess pair.bundle pair.candidate = false := Bool.eq_false_iff.mpr hcandidate
  have hregression : pair.regression = true := by
    rw [PairedRun.regression, hcomparable, hlost, Bool.not_false, Bool.and_true, Bool.true_and]
    exact hbaseline
  rw [hregression] at hkept
  cases hkept

/-- **A cohort without a regression is not decided by a lower success rate.** -/
theorem successRate_of_no_regression (h : ∀ pair ∈ pairs, pair.regression = false) :
    (cohortOf pairs).totals.candidate.successRate.lt
      (cohortOf pairs).totals.baseline.successRate = false := by
  apply successRate_mono
  · rw [cohortOf, List.length_map, List.length_map]
  · exact successCount_le_of_no_regression h

end Rates

/-! ## Soundness -/

/-- **What a recommendation says of the cases of a cohort.** -/
structure SoundRecommendation (pairs : List PairedRun) (minComparableCases : ℤ)
    (result : ModelLabResult) : Prop where
  enough : minComparableCases ≤ (pairs.filter (·.comparable)).length
  successKept : ∀ pair ∈ pairs, pair.comparable = true →
    taskSuccess pair.bundle pair.baseline = true → taskSuccess pair.bundle pair.candidate = true
  stateKept : ∀ pair ∈ pairs, pair.comparable = true →
    evaluatorFailed pair.candidate "unexpected_state_changes" = false
  measured : ∀ pair ∈ pairs, pair.comparable = true → pair.Measured
  success : ∃ pair ∈ pairs, pair.comparable = true ∧
    taskSuccess pair.bundle pair.candidate = true
  cost : ∀ baselineCost, result.totals.baseline.costPerSuccessfulTask = some baselineCost →
    ∃ candidateCost, result.totals.candidate.costPerSuccessfulTask = some candidateCost ∧
      candidateCost.le baselineCost = true

section Soundness

variable [FloatRepr] {pairs : List PairedRun} {minComparableCases : ℤ} {result : ModelLabResult}

theorem totals_of_result
    (h : (pairs.foldl Cohort.add {}).result minComparableCases = .ok result) :
    result.totals = (cohortOf pairs).totals := by
  rw [cohort_foldl, Cohort.result, ModelLabResult.new, check_bind_eq_ok] at h
  obtain rfl := Except.ok.inj h.2
  rfl

omit [FloatRepr] in
theorem successKept_of_no_regression {pair : PairedRun} (h : pair.regression = false)
    (hcomparable : pair.comparable = true)
    (hbaseline : taskSuccess pair.bundle pair.baseline = true) :
    taskSuccess pair.bundle pair.candidate = true := by
  rw [PairedRun.regression, hcomparable, hbaseline, Bool.true_and, Bool.true_and,
    Bool.not_eq_false'] at h
  exact h

omit [FloatRepr] in
/-- The candidate has a cost per successful task when it has a success. -/
theorem candidateCost_isSome {pair : PairedRun} (hpair : pair ∈ comparablePairs pairs)
    (hsuccess : taskSuccess pair.bundle pair.candidate = true) :
    ∃ cost, (cohortOf pairs).totals.candidate.costPerSuccessfulTask = some cost := by
  have hcount : ¬ (cohortOf pairs).candidateOutcomes.countP (·.taskSuccess) = 0 := by
    rw [List.countP_eq_zero]
    intro hnone
    exact hnone _ (List.mem_map_of_mem hpair) hsuccess
  exact ⟨_, if_neg hcount⟩

/-- **A recommended candidate is a sound choice.** -/
theorem soundRecommendation_of_recommends
    (h : (pairs.foldl Cohort.add {}).result minComparableCases = .ok result)
    (hverdict : result.verdict = .recommendCandidate) :
    SoundRecommendation pairs minComparableCases result := by
  obtain ⟨hveto, hfavours⟩ := (recommends_iff h).mp hverdict
  have hmem {pair : PairedRun} (hpair : pair ∈ pairs) (hcomparable : pair.comparable = true) :
      pair ∈ comparablePairs pairs := List.mem_filter.mpr ⟨hpair, hcomparable⟩
  have hkept {pair : PairedRun} (hpair : pair ∈ pairs) (hcomparable : pair.comparable = true) :=
    successKept_of_no_regression (hveto pair hpair).1 hcomparable
  -- A success of the baseline is one of the candidate, so that some success is the candidate's.
  have hsuccess : ∃ pair ∈ comparablePairs pairs,
      taskSuccess pair.bundle pair.candidate = true := by
    obtain ⟨pair, hpair, hbaseline | hcandidate⟩ := hfavours.success
    · obtain ⟨hpair', hcomparable⟩ := List.mem_filter.mp hpair
      exact ⟨pair, hpair, hkept hpair' hcomparable hbaseline⟩
    · exact ⟨pair, hpair, hcandidate⟩
  obtain ⟨chosen, hchosen, hchosenSuccess⟩ := hsuccess
  constructor
  case enough => exact hfavours.enough
  case successKept => exact fun pair hpair hcomparable => hkept hpair hcomparable
  case stateKept =>
    intro pair hpair hcomparable
    have hchange := (hveto pair hpair).2.2
    rw [PairedRun.unexpectedStateChange, hcomparable, Bool.true_and] at hchange
    exact hchange
  case measured => exact fun pair hpair hcomparable =>
    hfavours.measured pair (hmem hpair hcomparable)
  case success =>
    obtain ⟨hpair, hcomparable⟩ := List.mem_filter.mp hchosen
    exact ⟨chosen, hpair, hcomparable, hchosenSuccess⟩
  case cost =>
    intro baselineCost hbaseline
    obtain ⟨candidateCost, hcandidate⟩ := candidateCost_isSome hchosen hchosenSuccess
    rw [totals_of_result h] at hbaseline ⊢
    have hprefers := hfavours.prefers
    simp only [ModelLabTotals.preferCandidate, Bool.and_eq_true] at hprefers
    have hcosts := hprefers.1.2
    rw [ModelLabTotals.costsIfAny, hbaseline, hcandidate] at hcosts
    exact ⟨candidateCost, hcandidate, hcosts⟩

variable {World : Type} {runBundle : RunBundle World}
  {baselineModelConfig candidateModelConfig : ModelConfig} {bundles : List SimulationBundle}
  {maxBundles : ℤ} {world world' : World}

/-- **The recommendations of the Model Lab are sound**, and without a regression the baseline is
not kept for a lower success rate. -/
theorem recommendation_sound
    (h : runModelLab runBundle baselineModelConfig candidateModelConfig bundles
      minComparableCases maxBundles world = .ok (result, world')) :
    ∃ pairs, executeCohort runBundle baselineModelConfig candidateModelConfig bundles world =
        .ok (pairs, world') ∧
      (result.verdict = .recommendCandidate →
        SoundRecommendation pairs minComparableCases result) ∧
      ((∀ pair ∈ pairs, pair.regression = false) →
        result.totals.candidate.successRate.lt result.totals.baseline.successRate = false) := by
  by_cases hempty : bundles = []
  · subst hempty
    obtain ⟨rfl, rfl⟩ := Prod.mk.inj (Except.ok.inj h)
    refine ⟨[], rfl, ?_, ?_⟩
    · intro hverdict
      cases hverdict
    · intro _
      decide +kernel
  · obtain ⟨-, pairs, hruns, hresult⟩ := (runModelLab_eq_ok hempty).mp h
    refine ⟨pairs, hruns, soundRecommendation_of_recommends hresult, ?_⟩
    intro hkept
    rw [totals_of_result hresult]
    exact successRate_of_no_regression hkept

end Soundness

section Example

attribute [local instance] asciiTables oneDecimalRepr constantHashes

/-- `recommendation_sound` on the cohort `maskedPairs`. -/
theorem recommendation_sound_maskedPairs :
    ∃ pairs, executeCohort scriptedRuns hostedModel hostedModel
        [comparedBundle, comparedBundle, comparedBundle] maskedScript = .ok (pairs, []) ∧
      (maskedResult.verdict = .recommendCandidate →
        SoundRecommendation pairs minComparableCases maskedResult) ∧
      ((∀ pair ∈ pairs, pair.regression = false) →
        maskedResult.totals.candidate.successRate.lt
          maskedResult.totals.baseline.successRate = false) :=
  recommendation_sound runModelLab_maskedPairs

end Example

/-! ## The baseline's cost -/

/-- The totals of two sides over the same cases. -/
structure CohortTotals (baseline candidate : List ModelCaseOutcome) (totals : ModelLabTotals) :
    Prop where
  baseline_length : baseline.length = totals.comparableCases
  candidate_length : candidate.length = totals.comparableCases
  baseline_eq : totals.baseline = sideTotals baseline
  candidate_eq : totals.candidate = sideTotals candidate

namespace ModelLabTotals

variable (totals : ModelLabTotals)

/-- Enough comparable cases, all measured, and nothing that a veto counts. -/
structure Clean (minComparableCases : ℤ) : Prop where
  enough : minComparableCases ≤ totals.comparableCases
  regressions : totals.regressions = 0
  safetyRegressions : totals.safetyRegressions = 0
  unexpectedStateChanges : totals.unexpectedStateChanges = 0
  measured : totals.missing = []

/-- The candidate succeeds on strictly more cases. -/
def SuccessGain : Prop := totals.baseline.successCount < totals.candidate.successCount

/-- The candidate's cost per successful task exceeds the baseline's. -/
def CostsMore : Prop :=
  (totals.costs fun baselineCost candidateCost => baselineCost.lt candidateCost) = true

end ModelLabTotals

/-- **The baseline is kept only without a success gain**: neither in the success rate nor in the
count of the successes. -/
structure KeepsOnlyWithoutGain [FloatRepr] (totals : ModelLabTotals) (minComparableCases : ℤ) :
    Prop where
  rate : (recommendation totals minComparableCases).1 = .keepBaseline →
    totals.baseline.successRate.lt totals.candidate.successRate = false
  count : totals.SuccessGain → (recommendation totals minComparableCases).1 = .recommendCandidate ∨
    (recommendation totals minComparableCases).1 = .inconclusive

section Cost

variable {totals : ModelLabTotals} {minComparableCases : ℤ}
  {baseline candidate : List ModelCaseOutcome} {pairs : List PairedRun}

/-- **When clean totals keep the baseline.** -/
theorem recommendation_eq_keepBaseline [FloatRepr] (h : totals.Clean minComparableCases) :
    (recommendation totals minComparableCases).1 = .keepBaseline ↔
      ¬ (totals.baseline.successCount = 0 ∧ totals.candidate.successCount = 0) ∧
        (totals.candidate.successRate.lt totals.baseline.successRate = true ∨
          totals.CostsMore) := by
  obtain ⟨henough, hregressed, hunsafe, hchanged, hmeasured⟩ := h
  unfold recommendation
  dsimp only
  rw [if_neg (not_lt.mpr henough), if_neg (by omega), if_neg (by omega), if_neg (by omega)]
  constructor
  · intro hkeep
    split_ifs at hkeep with hnone hmissing hrate hcost
    · exact ⟨hnone, Or.inl hrate⟩
    · exact ⟨hnone, Or.inr hcost⟩
  · rintro ⟨hsome, hworse⟩
    rw [if_neg hsome, if_neg (not_not.mpr hmeasured)]
    by_cases hrate : totals.candidate.successRate.lt totals.baseline.successRate = true
    · rw [if_pos hrate]
    · have hcosts := hworse.resolve_left hrate
      rw [ModelLabTotals.CostsMore] at hcosts
      rw [if_neg hrate, if_pos hcosts]

/-- **When the baseline is kept only without a success gain**: unless the candidate succeeds on more
cases at a higher cost per successful task. -/
theorem keepsOnlyWithoutGain_iff [FloatRepr] (hcohort : CohortTotals baseline candidate totals)
    (hclean : totals.Clean minComparableCases) :
    KeepsOnlyWithoutGain totals minComparableCases ↔
      ¬ (totals.SuccessGain ∧ totals.CostsMore) := by
  obtain ⟨hbaselineLength, hcandidateLength, hbaseline, hcandidate⟩ := hcohort
  have hlength := hbaselineLength.trans hcandidateLength.symm
  have hkeep := recommendation_eq_keepBaseline hclean
  constructor
  · rintro h ⟨hgain, hcosts⟩
    have hsome : ¬ (totals.baseline.successCount = 0 ∧ totals.candidate.successCount = 0) := by
      rintro ⟨-, hnone⟩
      rw [ModelLabTotals.SuccessGain, hnone] at hgain
      exact absurd hgain (Nat.not_lt_zero _)
    have hkept := hkeep.mpr ⟨hsome, Or.inr hcosts⟩
    rcases h.count hgain with hverdict | hverdict
    · exact absurd (hkept.symm.trans hverdict) (by simp)
    · exact absurd (hkept.symm.trans hverdict) (by simp)
  · intro hnot
    constructor
    · intro hkept
      -- kept for its rate, or for a cost that rose
      rcases (hkeep.mp hkept).2 with hrate | hcosts
      · apply PyFloat.lt_eq_false_of_le
        rw [PyFloat.le, hrate, Bool.true_or]
      · have hle : totals.candidate.successCount ≤ totals.baseline.successCount := by
          by_contra hgain
          exact hnot ⟨not_le.mp hgain, hcosts⟩
        rw [hbaseline, hcandidate] at hle ⊢
        exact successRate_mono hlength.symm hle
    · intro hgain
      have hnotKept : (recommendation totals minComparableCases).1 ≠ .keepBaseline := by
        intro hkept
        rcases (hkeep.mp hkept).2 with hrate | hcosts
        · have hle := Nat.le_of_lt hgain
          rw [hbaseline, hcandidate] at hle hrate
          rw [successRate_mono hlength hle] at hrate
          cases hrate
        · exact hnot ⟨hgain, hcosts⟩
      cases hverdict : (recommendation totals minComparableCases).1 with
      | recommendCandidate => exact Or.inl rfl
      | keepBaseline => exact absurd hverdict hnotKept
      | inconclusive => exact Or.inr rfl

end Cost

/-! ## A more successful candidate -/

section Small

attribute [local instance] oneDecimalRepr

/-- An outcome with every measurement, at a cost in cents. -/
def measuredOutcome (taskSuccess : Bool) (cents : ℚ) : ModelCaseOutcome where
  verdict := if taskSuccess then .accepted else .failed
  taskSuccess := taskSuccess
  totalLatencyMs := some (.ofRat 10)
  tokens := some 100
  costUsd := some (.ofRat (cents / 100))

/-- One success in four cases, at one cent a run. -/
def cheapOutcomes : List ModelCaseOutcome :=
  [measuredOutcome true 1, measuredOutcome false 1, measuredOutcome false 1,
    measuredOutcome false 1]

/-- Four successes in four cases, at five cents a run. -/
def reliableOutcomes : List ModelCaseOutcome :=
  [measuredOutcome true 5, measuredOutcome true 5, measuredOutcome true 5, measuredOutcome true 5]

def reliableTotals : ModelLabTotals where
  comparableCases := 4
  baseline := sideTotals cheapOutcomes
  candidate := sideTotals reliableOutcomes

theorem cohortTotals_reliable : CohortTotals cheapOutcomes reliableOutcomes reliableTotals :=
  ⟨rfl, rfl, rfl, rfl⟩

theorem clean_reliable : reliableTotals.Clean minComparableCases where
  enough := by decide +kernel
  regressions := rfl
  safetyRegressions := rfl
  unexpectedStateChanges := rfl
  measured := by decide +kernel

/-- `keepsOnlyWithoutGain_iff` on these totals. -/
theorem keepsOnlyWithoutGain_iff_reliable :
    KeepsOnlyWithoutGain reliableTotals minComparableCases ↔
      ¬ (reliableTotals.SuccessGain ∧ reliableTotals.CostsMore) :=
  keepsOnlyWithoutGain_iff cohortTotals_reliable clean_reliable

/-- **Four successes instead of one, and the baseline is kept.** -/
theorem not_keepsOnlyWithoutGain_reliable :
    CohortTotals cheapOutcomes reliableOutcomes reliableTotals ∧
      reliableTotals.Clean minComparableCases ∧
      ¬ KeepsOnlyWithoutGain reliableTotals minComparableCases := by
  refine ⟨cohortTotals_reliable, clean_reliable, ?_⟩
  intro h
  have hkept : (recommendation reliableTotals minComparableCases).1 = .keepBaseline := by
    decide +kernel
  have hgain := h.rate hkept
  exact absurd hgain (by decide +kernel)

end Small

end ObservabilityLab
