import ObservabilityLab.Comparison.Safety
import ObservabilityLab.Library.Effects
import ObservabilityLab.Suite.Schemas

/-!
# Suite comparisons

Every saved case of a suite runs once with the baseline configuration and once with one declared
change, and the two runs are compared. Any regression keeps the baseline, any incomplete evidence
makes the cohort inconclusive, and only then the completed tasks decide.

## Main definitions

* `ComparedCase`: a case with its two runs and their comparison
* `runAndCompareCases`: the runs and comparisons of a cohort
* `finalizeResult`: the deterministic result of a cohort

## Main results

* `sound_of_runAndCompareCases`: every compared case holds the comparison of its runs
* `suite_recommendation`: what a recommendation promises, and when the baseline is kept
-/

namespace ObservabilityLab

open Python

/-- `SuiteRunError(detail=detail)` -/
def suiteRunError (detail : String) : PyError :=
  .domain "suite_run_rejected" ("The suite comparison cannot run: " ++ detail) unprocessableEntity

/-- `ModelConfig(provider=provider, name=name)` -/
def ModelConfig.new (provider name : String) : Raises ModelConfig := do
  checkField (provider ∈ ["openai", "anthropic"]) "ModelConfig" "provider"
  checkField (name ≠ "") "ModelConfig" "name"
  .ok { provider, name }

/-- A case with its two runs, their comparison, and the task successes. -/
structure ComparedCase where
  case : RegressionCase
  caseResult : SuiteCaseResult
  baselineRun : SimulationRun
  candidateRun : SimulationRun
  baselineSuccess : Bool
  candidateSuccess : Bool

/-! ## Running the cases -/

/-- What `_run_and_compare_cases` is called with, besides the cases. -/
structure SuiteRunOptions where
  changeType : ConfigurationChangeType
  candidate : Option ConfigurationVersions
  baselineModelConfig : ModelConfig
  candidatePrompt : Option String := none
  candidatePromptVersion : Option String := none
  candidateModelConfig : Option ModelConfig := none

/-- `first or second` -/
def orElseText (first second : Option String) : Option String :=
  match first with
  | some text => if text = "" then second else some text
  | none => second

section Run

/-- The options of the candidate run of a case. -/
def SuiteRunOptions.candidateOptions (options : SuiteRunOptions) : Raises RunOptions :=
  if options.changeType = .model then
    match options.candidateModelConfig, options.candidate with
    | some modelConfig, _ => .ok { modelConfig }
    | none, none => .error (.other "AssertionError" "")
    | none, some candidate =>
      match candidate.modelProvider, candidate.modelName with
      | some provider, some name => do
        let modelConfig ← ModelConfig.new provider name
        .ok { modelConfig }
      | _, _ =>
        .error (suiteRunError "a model change requires provider and name on the candidate")
  else
    match options.candidate, options.candidatePrompt with
    | none, _ => .error (.other "AssertionError" "")
    | some _, none => .error (suiteRunError "a prompt change requires candidate prompt text")
    | some candidate, some prompt => .ok
      { modelConfig := options.baselineModelConfig
        answerInstructions := some prompt
        answerInstructionsVersion :=
          orElseText options.candidatePromptVersion candidate.answerInstructionsVersion }

variable [UnicodeTables]

/-- A model change starts from the model that the bundle records. -/
def checkRecordedModel (options : SuiteRunOptions) (case : RegressionCase) : Raises Unit :=
  let recorded := case.bundle.configurationVersions
  raiseIf (options.changeType = .model ∧
      (recorded.modelProvider ≠ some options.baselineModelConfig.provider ∨
        recorded.modelName ≠ some options.baselineModelConfig.name))
    (suiteRunError ("baseline model " ++ reprText options.baselineModelConfig.provider ++ "/" ++
      reprText options.baselineModelConfig.name ++ " does not match the model recorded on case " ++
      "UUID(" ++ reprText case.caseId.str ++ ") v" ++ toString case.caseVersion))

/-- The comparison of the two runs of a case, with the task successes. -/
def compareCase (case : RegressionCase) (baselineRun candidateRun : SimulationRun) :
    Raises ComparedCase := do
  let comparison ← compareRuns baselineRun candidateRun case.bundle
  let caseResult ← SuiteCaseResult.new
    { caseId := case.caseId
      caseVersion := case.caseVersion
      scenarioId := case.scenarioId
      bundleContentHash := case.bundleContentHash
      evidenceRef := case.evidenceRef
      evidenceContentHash := case.evidenceContentHash
      comparison := comparison }
  .ok
    { case, caseResult, baselineRun, candidateRun
      baselineSuccess := taskSuccess case.bundle baselineRun
      candidateSuccess := taskSuccess case.bundle candidateRun }

variable {World : Type} (runBundle : RunBundle World) (options : SuiteRunOptions)

/-- One case of `_run_and_compare_cases`. -/
def runAndCompareCase (case : RegressionCase) : StateT World Raises ComparedCase := do
  liftM (checkRecordedModel options case)
  let baselineRun ← runBundle { modelConfig := options.baselineModelConfig } case.bundle
  let candidateOptions ← liftM options.candidateOptions
  let candidateRun ← runBundle candidateOptions case.bundle
  liftM (compareCase case baselineRun candidateRun)

/-- `_run_and_compare_cases` -/
def runAndCompareCases (cases : List RegressionCase) : StateT World Raises (List ComparedCase) :=
  cases.mapM (runAndCompareCase runBundle options)

end Run

/-! ## The result of a cohort -/

section Result

/-- One run more in a side's totals. -/
def SuiteSideTotals.add (totals : SuiteSideTotals) (run : SimulationRun) (success : Bool) :
    SuiteSideTotals where
  successCount := if success then totals.successCount + 1 else totals.successCount
  totalLatencyMs := totals.totalLatencyMs.add (run.totalLatencyMs.getD 0)
  totalTokens := totals.totalTokens + run.totalTokens
  totalCostUsd := totals.totalCostUsd.add (run.costUsd.getD 0)
  totalRetries := totals.totalRetries + run.retries

/-- `_side_totals` -/
def suiteSideTotals (runs : List SimulationRun) (successFlags : List Bool) : SuiteSideTotals :=
  (runs.zip successFlags).foldl (fun totals entry => totals.add entry.1 entry.2) {}

/-- The totals of a cohort. -/
def suiteTotals [UnicodeTables] (caseResults : List SuiteCaseResult)
    (baseline candidate : SuiteSideTotals) : SuiteComparisonTotals :=
  let verdicts := caseResults.map (·.comparison.verdict)
  let insufficient := verdicts.count .insufficientEvidence
  { cases := caseResults.length
    comparable := caseResults.length - insufficient
    candidatePasses := verdicts.count .candidatePasses
    candidateRegresses := verdicts.count .candidateRegresses
    noMaterialDifference := verdicts.count .noMaterialDifference
    insufficientEvidence := insufficient
    safetyRegressions := caseResults.countP fun caseResult =>
      caseResult.comparison.mentions "safety regression"
    missingMeasurementCases := caseResults.countP fun caseResult =>
      caseResult.comparison.mentions "missing required measurement"
    coverageFailureCases := caseResults.countP fun caseResult =>
      caseResult.comparison.baselineRun.verdict = .missingCoverage ||
        caseResult.comparison.candidateRun.verdict = .missingCoverage
    baseline := baseline
    candidate := candidate }

/-- The verdict of the totals, with its reason. -/
def suiteVerdict (totals : SuiteComparisonTotals) : SuiteVerdict × String :=
  let completed := toString totals.candidate.successCount ++ " task(s) versus " ++
    toString totals.baseline.successCount ++ " for the baseline"
  if totals.candidateRegresses > 0 ∨ totals.safetyRegressions > 0 then
    (.keepBaseline, "the candidate regressed " ++ toString totals.candidateRegresses ++
      " case(s) (" ++ toString totals.safetyRegressions ++
      " safety regression(s)); the baseline stays")
  else if totals.insufficientEvidence > 0 then
    (.inconclusive, toString totals.insufficientEvidence ++
      " case(s) lack comparable evidence (" ++ toString totals.missingMeasurementCases ++
      " missing measurement, " ++ toString totals.coverageFailureCases ++
      " coverage failure); no recommendation")
  else if totals.candidate.successCount > totals.baseline.successCount then
    (.recommendCandidate, "the candidate completes " ++ completed)
  else if totals.candidate.successCount < totals.baseline.successCount then
    (.keepBaseline, "the candidate completes " ++ completed ++ "; the baseline stays")
  else (.inconclusive, "baseline and candidate complete the same number of tasks and no case " ++
    "regressed; the cohort evidence is not decisive")

variable [UnicodeTables]

/-- `_finalize_result` -/
def finalizeResult (suite : CaseSuite) (changeType : ConfigurationChangeType)
    (caseResults : List SuiteCaseResult) (baselineRuns candidateRuns : List SimulationRun)
    (baselineSuccesses candidateSuccesses : List Bool) (baselineLabel candidateLabel : String) :
    Raises SuiteComparisonResult :=
  let totals := suiteTotals caseResults (suiteSideTotals baselineRuns baselineSuccesses)
    (suiteSideTotals candidateRuns candidateSuccesses)
  SuiteComparisonResult.new
    { suiteId := suite.suiteId
      suiteVersion := suite.suiteVersion
      suiteName := suite.name
      changeType := changeType
      baselineLabel := baselineLabel
      candidateLabel := candidateLabel
      cases := caseResults
      totals := totals
      verdict := (suiteVerdict totals).1
      verdictReason := (suiteVerdict totals).2 }

/-- The result of compared cases: `_finalize_result` on the five lists. -/
def finalizeCases (suite : CaseSuite) (changeType : ConfigurationChangeType)
    (cases : List ComparedCase) (baselineLabel candidateLabel : String) :
    Raises SuiteComparisonResult :=
  finalizeResult suite changeType (cases.map (·.caseResult)) (cases.map (·.baselineRun))
    (cases.map (·.candidateRun)) (cases.map (·.baselineSuccess)) (cases.map (·.candidateSuccess))
    baselineLabel candidateLabel

end Result

/-! ## What a compared case holds -/

section Compared

variable [UnicodeTables]

/-- A case holds the comparison of its runs against its bundle, and their task successes. -/
structure ComparedCase.Sound (compared : ComparedCase) : Prop where
  comparison : compareRuns compared.baselineRun compared.candidateRun compared.case.bundle =
    .ok compared.caseResult.comparison
  baselineSuccess : compared.baselineSuccess =
    taskSuccess compared.case.bundle compared.baselineRun
  candidateSuccess : compared.candidateSuccess =
    taskSuccess compared.case.bundle compared.candidateRun

theorem sound_of_compareCase {case : RegressionCase} {baselineRun candidateRun : SimulationRun}
    {compared : ComparedCase} (h : compareCase case baselineRun candidateRun = .ok compared) :
    compared.Sound := by
  obtain ⟨comparison, hcomparison, hrest⟩ := bind_eq_ok.mp h
  obtain ⟨caseResult, hnew, hcompared⟩ := bind_eq_ok.mp hrest
  rw [SuiteCaseResult.new, check_bind_eq_ok] at hnew
  obtain rfl := Except.ok.inj hnew.2
  obtain rfl := Except.ok.inj hcompared
  exact ⟨hcomparison, rfl, rfl⟩

variable {World : Type} {runBundle : RunBundle World} {options : SuiteRunOptions}

/-- **Every compared case of a cohort is sound.** -/
theorem sound_of_runAndCompareCases {cases : List RegressionCase} {world world' : World}
    {compared : List ComparedCase}
    (h : runAndCompareCases runBundle options cases world = .ok (compared, world')) :
    ∀ case ∈ compared, case.Sound := by
  induction cases generalizing world compared with
  | nil =>
    obtain ⟨rfl, -⟩ := Prod.mk.inj (Except.ok.inj h)
    exact fun _ hmem => absurd hmem List.not_mem_nil
  | cons case cases ih =>
    rw [runAndCompareCases, List.mapM_cons] at h
    obtain ⟨first, world₁, hfirst, hrest⟩ := Effects.stateT_bind_eq_ok.mp h
    obtain ⟨others, world₂, hothers, hpure⟩ := Effects.stateT_bind_eq_ok.mp hrest
    obtain ⟨rfl, rfl⟩ := Prod.mk.inj (Except.ok.inj hpure)
    refine List.forall_mem_cons.mpr ⟨?_, ih hothers⟩
    obtain ⟨⟨⟩, _, -, hbaseline⟩ := Effects.stateT_bind_eq_ok.mp hfirst
    obtain ⟨baselineRun, _, -, hoptions⟩ := Effects.stateT_bind_eq_ok.mp hbaseline
    obtain ⟨candidateOptions, _, -, hcandidate⟩ := Effects.stateT_bind_eq_ok.mp hoptions
    obtain ⟨candidateRun, _, -, hcompare⟩ := Effects.stateT_bind_eq_ok.mp hcandidate
    exact sound_of_compareCase (Effects.stateT_lift_eq_ok.mp hcompare).1

end Compared

/-! ## The recommendation -/

section Recommendation

/-- A loop over both lists counts the successes. -/
theorem successCount_suiteSideTotals (cases : List ComparedCase)
    (run : ComparedCase → SimulationRun) (success : ComparedCase → Bool) :
    (suiteSideTotals (cases.map run) (cases.map success)).successCount = cases.countP success := by
  have hloop (totals : SuiteSideTotals) :
      (((cases.map run).zip (cases.map success)).foldl
        (fun totals entry => totals.add entry.1 entry.2) totals).successCount =
        totals.successCount + cases.countP success := by
    induction cases generalizing totals with
    | nil => simp
    | cons case cases ih =>
      rw [List.map_cons, List.map_cons, List.zip_cons_cons, List.foldl_cons, ih,
        List.countP_cons, SuiteSideTotals.add]
      dsimp only
      split_ifs <;> omega
  rw [suiteSideTotals, hloop, Nat.zero_add]

theorem suiteVerdict_eq_keepBaseline {totals : SuiteComparisonTotals} :
    (suiteVerdict totals).1 = .keepBaseline ↔
      (0 < totals.candidateRegresses ∨ 0 < totals.safetyRegressions) ∨
        totals.insufficientEvidence = 0 ∧
          totals.candidate.successCount < totals.baseline.successCount := by
  unfold suiteVerdict
  dsimp only
  split_ifs with hregresses hlacking hmore hfewer
  · exact iff_of_true rfl (Or.inl hregresses)
  · exact iff_of_false (by decide) (by omega)
  · exact iff_of_false (by decide) (by omega)
  · exact iff_of_true rfl (Or.inr ⟨by omega, hfewer⟩)
  · exact iff_of_false (by decide) (by omega)

theorem suiteVerdict_eq_recommendCandidate {totals : SuiteComparisonTotals} :
    (suiteVerdict totals).1 = .recommendCandidate ↔
      ¬ (0 < totals.candidateRegresses ∨ 0 < totals.safetyRegressions) ∧
        totals.insufficientEvidence = 0 ∧
          totals.baseline.successCount < totals.candidate.successCount := by
  unfold suiteVerdict
  dsimp only
  split_ifs with hregresses hlacking hmore hfewer
  · exact iff_of_false (by decide) fun h => h.1 hregresses
  · exact iff_of_false (by decide) (by omega)
  · exact iff_of_true rfl ⟨hregresses, by omega, hmore⟩
  · exact iff_of_false (by decide) (by omega)
  · exact iff_of_false (by decide) (by omega)

variable [UnicodeTables]

/-- A case reports a regression: its verdict, or a blocked reason. -/
def ComparedCase.Regresses (compared : ComparedCase) : Prop :=
  compared.caseResult.comparison.verdict = .candidateRegresses ∨
    compared.caseResult.comparison.mentions "safety regression" = true

/-- Both runs are comparable and measured, and the candidate is worse on no criterion. -/
structure ComparedCase.Kept (compared : ComparedCase) : Prop where
  baselineMeasured : Measured compared.case.bundle compared.baselineRun
  candidateMeasured : Measured compared.case.bundle compared.candidateRun
  notWorse : ¬ Better compared.case.bundle compared.baselineRun compared.candidateRun

/-- A case that neither regresses nor lacks evidence is kept. -/
theorem ComparedCase.Sound.kept {compared : ComparedCase} (hsound : compared.Sound)
    (hregresses : ¬ compared.Regresses)
    (hevidence : compared.caseResult.comparison.verdict ≠ .insufficientEvidence) :
    compared.Kept := by
  have hverdict := compareRuns_verdict hsound.comparison
  have hmeasured : Measured compared.case.bundle compared.baselineRun ∧
      Measured compared.case.bundle compared.candidateRun := by
    by_contra hnot
    exact hevidence (hverdict.trans (verdictOf_eq_insufficientEvidence.mpr hnot))
  refine ⟨hmeasured.1, hmeasured.2, fun hbetter => hregresses (Or.inl ?_)⟩
  exact hverdict.trans
    (verdictOf_eq_candidateRegresses.mpr ⟨hmeasured, not_profile_le_iff.mpr hbetter⟩)

/-- A kept case keeps the task success. -/
theorem ComparedCase.Sound.success_of_kept {compared : ComparedCase} (hsound : compared.Sound)
    (hkept : compared.Kept) (hsuccess : compared.baselineSuccess = true) :
    compared.candidateSuccess = true := by
  rw [hsound.baselineSuccess] at hsuccess
  rw [hsound.candidateSuccess]
  exact taskSuccess_of_not_better hkept.notWorse hsuccess

omit [UnicodeTables] in
/-- Where every baseline success is kept, more candidate successes are a further one. -/
theorem exists_of_countP_lt {α : Type} {p q : α → Bool} {l : List α}
    (h : l.countP p < l.countP q) : ∃ a ∈ l, p a = false ∧ q a = true := by
  by_contra hnone
  refine absurd h (not_lt.mpr (List.countP_mono_left fun a ha hq => ?_))
  by_contra hp
  exact hnone ⟨a, ha, by simpa using hp, hq⟩

variable {suite : CaseSuite} {changeType : ConfigurationChangeType} {cases : List ComparedCase}
  {baselineLabel candidateLabel : String} {result : SuiteComparisonResult}

/-- The totals count a regression exactly when some case reports one. -/
theorem regresses_totals_iff {baseline candidate : SuiteSideTotals} :
    (0 < (suiteTotals (cases.map (·.caseResult)) baseline candidate).candidateRegresses ∨
      0 < (suiteTotals (cases.map (·.caseResult)) baseline candidate).safetyRegressions) ↔
      ∃ case ∈ cases, case.Regresses := by
  unfold suiteTotals
  dsimp only
  rw [List.count_pos_iff, List.countP_pos_iff]
  simp only [List.mem_map, exists_exists_and_eq_and, ComparedCase.Regresses, and_or_left,
    exists_or]

/-- The totals count no case without evidence exactly when every case has some. -/
theorem insufficientEvidence_totals_iff {baseline candidate : SuiteSideTotals} :
    (suiteTotals (cases.map (·.caseResult)) baseline candidate).insufficientEvidence = 0 ↔
      ∀ case ∈ cases, case.caseResult.comparison.verdict ≠ .insufficientEvidence := by
  unfold suiteTotals
  dsimp only
  rw [List.count_eq_zero]
  simp only [List.mem_map, exists_exists_and_eq_and, not_exists, not_and, ne_eq]

/-- **The verdict of a cohort of sound cases**: a regression keeps the baseline, and a recommended
candidate completes more tasks on kept cases. -/
theorem finalizeCases_verdict (hsound : ∀ case ∈ cases, case.Sound)
    (h : finalizeCases suite changeType cases baselineLabel candidateLabel = .ok result) :
    (result.verdict = .keepBaseline ↔ ∃ case ∈ cases, case.Regresses) ∧
      (result.verdict = .recommendCandidate → (∀ case ∈ cases, case.Kept) ∧
        cases.countP (·.baselineSuccess) < cases.countP (·.candidateSuccess)) := by
  unfold finalizeCases finalizeResult SuiteComparisonResult.new at h
  rw [check_bind_eq_ok, check_bind_eq_ok] at h
  obtain rfl := Except.ok.inj h.2.2
  dsimp only
  have hkept (hnone : ¬ ∃ case ∈ cases, case.Regresses)
      (hevidence : ∀ case ∈ cases, case.caseResult.comparison.verdict ≠ .insufficientEvidence) :
      ∀ case ∈ cases, case.Kept := fun case hcase =>
    (hsound case hcase).kept (fun hregresses => hnone ⟨case, hcase, hregresses⟩)
      (hevidence case hcase)
  rw [suiteVerdict_eq_keepBaseline, suiteVerdict_eq_recommendCandidate, regresses_totals_iff,
    insufficientEvidence_totals_iff]
  change (_ ∨ _ ∧ (suiteSideTotals _ _).successCount < (suiteSideTotals _ _).successCount ↔ _) ∧
    (_ ∧ _ ∧ (suiteSideTotals _ _).successCount < (suiteSideTotals _ _).successCount → _)
  rw [successCount_suiteSideTotals, successCount_suiteSideTotals]
  constructor
  · refine or_iff_left_of_imp ?_
    rintro ⟨hevidence, hfewer⟩
    -- The candidate cannot complete fewer tasks, as every kept case keeps its success.
    by_contra hnone
    refine absurd hfewer (not_lt.mpr (List.countP_mono_left fun case hcase hsuccess => ?_))
    exact (hsound case hcase).success_of_kept (hkept hnone hevidence case hcase) hsuccess
  · rintro ⟨hnone, hevidence, hmore⟩
    exact ⟨hkept hnone hevidence, hmore⟩

/-- **A suite recommendation is sound.** When the candidate is recommended, every case is measured
on both sides, no criterion of it regresses, every baseline success is a candidate success, and some
case is a success of the candidate alone. The baseline is kept exactly when some comparison
regresses, or two completed runs lose a safety evaluator. -/
theorem suite_recommendation {World : Type} {runBundle : RunBundle World}
    {options : SuiteRunOptions} {regressionCases : List RegressionCase} {world world' : World}
    (hruns : runAndCompareCases runBundle options regressionCases world = .ok (cases, world'))
    (h : finalizeCases suite changeType cases baselineLabel candidateLabel = .ok result) :
    (result.verdict = .recommendCandidate →
      (∀ case ∈ cases, Measured case.case.bundle case.baselineRun ∧
        Measured case.case.bundle case.candidateRun ∧
        ¬ Better case.case.bundle case.baselineRun case.candidateRun ∧
        (taskSuccess case.case.bundle case.baselineRun = true →
          taskSuccess case.case.bundle case.candidateRun = true)) ∧
      ∃ case ∈ cases, taskSuccess case.case.bundle case.baselineRun = false ∧
        taskSuccess case.case.bundle case.candidateRun = true) ∧
    (result.verdict = .keepBaseline ↔ ∃ case ∈ cases,
      case.caseResult.comparison.verdict = .candidateRegresses ∨
        (comparable case.baselineRun = true ∧ comparable case.candidateRun = true) ∧
          SafetyRegression case.baselineRun case.candidateRun) := by
  have hsound := sound_of_runAndCompareCases hruns
  obtain ⟨hkeep, hrecommend⟩ := finalizeCases_verdict hsound h
  constructor
  · intro hverdict
    obtain ⟨hkept, hmore⟩ := hrecommend hverdict
    obtain ⟨case, hcase, hbaseline, hcandidate⟩ := exists_of_countP_lt hmore
    refine ⟨fun case hcase => ?_, case, hcase, ?_, ?_⟩
    · have hk := hkept case hcase
      exact ⟨hk.baselineMeasured, hk.candidateMeasured, hk.notWorse,
        taskSuccess_of_not_better hk.notWorse⟩
    · rw [← (hsound case hcase).baselineSuccess, hbaseline]
    · rw [← (hsound case hcase).candidateSuccess, hcandidate]
  · rw [hkeep]
    refine exists_congr fun case => and_congr_right fun hcase => or_congr_right ?_
    exact mentions_safetyRegression_iff (hsound case hcase).comparison

end Recommendation

/-! ## A concrete suite -/

section Small

attribute [local instance] asciiTables oneDecimalRepr constantHashes

/-- The small bundle as a saved case. -/
def smallCase : RegressionCase where
  caseId := .repeated 2
  caseVersion := 1
  sourceType := .incident
  scenarioId := "phase2-01-refund"
  bundle := comparedBundle
  bundleContentHash := .repeated 0
  evidenceRef := none
  evidenceContentHash := none
  configurationVersions := {}
  createdAt := ⟨"2026-01-01T00:00:00+00:00", rfl⟩
  versionPositive := Nat.one_pos
  hashMatches := rfl
  evidenceRefMatches := rfl
  evidenceHashMatches := rfl
  versionsMatch := rfl
  scenarioMatches := rfl

/-- A suite of this case. -/
def smallSuite : CaseSuite where
  suiteId := .repeated 3
  suiteVersion := 1
  name := "refunds"
  members := [⟨.repeated 2, 1, Nat.one_pos⟩]
  createdAt := ⟨"2026-01-01T00:00:00+00:00", rfl⟩
  versionPositive := Nat.one_pos
  nameMatches := by decide
  membersNonempty := List.cons_ne_nil _ _
  membersDistinct := List.nodup_singleton _

/-- A prompt change. -/
def promptChange : SuiteRunOptions where
  changeType := .prompt
  candidate := some {}
  baselineModelConfig := { provider := "openai", name := "gpt" }
  candidatePrompt := some "Answer briefly."

/-- The cases and the verdict of a candidate that fixes `escalation`. -/
def fixedEscalation : Raises (List ComparedCase × SuiteComparisonResult) := do
  let (cases, _) ← runAndCompareCases scriptedRuns promptChange [smallCase]
    [reportedRun 2 ["escalation"], reportedRun 1 []]
  let result ← finalizeCases smallSuite .prompt cases "old" "new"
  .ok (cases, result)

/-- `suite_recommendation` on this candidate, which is recommended. -/
theorem suite_recommendation_fixedEscalation :
    ∃ cases result, fixedEscalation = .ok (cases, result) ∧
      result.verdict = .recommendCandidate ∧
      ∃ case ∈ cases, taskSuccess case.case.bundle case.baselineRun = false ∧
        taskSuccess case.case.bundle case.candidateRun = true := by
  have hverdict : fixedEscalation.toOption.map (·.2.verdict) = some .recommendCandidate := by
    decide +kernel
  obtain ⟨⟨cases, result⟩, hresult, hrecommended⟩ := Option.map_eq_some_iff.mp hverdict
  have hok : fixedEscalation = .ok (cases, result) := by
    cases hfixed : fixedEscalation with
    | error e => rw [hfixed] at hresult; cases hresult
    | ok r => rw [hfixed] at hresult; exact congrArg Except.ok (Option.some.inj hresult)
  obtain ⟨⟨compared, world'⟩, hruns, hrest⟩ := bind_eq_ok.mp hok
  obtain ⟨finalized, hfinalized, hpure⟩ := bind_eq_ok.mp hrest
  obtain ⟨rfl, rfl⟩ := Prod.mk.inj (Except.ok.inj hpure)
  exact ⟨_, _, hok, hrecommended, ((suite_recommendation hruns hfinalized).1 hrecommended).2⟩

end Small

end ObservabilityLab
