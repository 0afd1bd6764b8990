import ObservabilityLab.Comparison.Experiment
import ObservabilityLab.Suite.Runner
import ObservabilityLab.Suite.Service

/-!
# One-variable suite comparisons

`run_suite_comparison` validates the declared change on version records, and drives its runs by a
model configuration, a prompt and a prompt version of their own.

## Main definitions

* `SuiteComparisonCall`, `runSuiteComparison`: a call, and what it does
* `recording`: the runs of a comparison, with what each was started with
* `DeclaredChange`: two runs of a case that differ in the declared dimension
* `OneVariable`: a call makes such runs, or raises a typed error before the first run
* `RejectedUpfront`, `Supported`: when it does

## Main results

* `started_of_runAndCompareCases`: what the runs of a comparison were started with
* `oneVariable_iff`: a call is a one-variable experiment exactly when it is rejected up front or
  supported
-/

namespace ObservabilityLab

open Python

/-- `UnsupportedChangeError(change_type=...)` -/
def unsupportedChangeError [UnicodeTables] (changeType : ConfigurationChangeType) : PyError :=
  .domain "unsupported_change_dimension" ("The " ++ reprText changeType.value ++
    " change dimension is validated but not executable by the reference runner; " ++
    "use a model or prompt change") unprocessableEntity

def executableChangeTypes : List ConfigurationChangeType := [.model, .prompt]

/-- What `run_suite_comparison` is called with. -/
structure SuiteComparisonCall where
  suite : CaseSuite
  cases : List RegressionCase
  changeType : ConfigurationChangeType
  candidate : ConfigurationVersions
  baselineModelConfig : ModelConfig
  candidatePrompt : Option String := none
  candidatePromptVersion : Option String := none

/-! ## The checks -/

section Checks

variable [UnicodeTables]

/-- `f"{case.case_id!r} v{case.case_version}"` -/
def RegressionCase.text (case : RegressionCase) : String :=
  "UUID(" ++ reprText case.caseId.str ++ ") v" ++ toString case.caseVersion

/-- `_validate_cases` -/
def validateCases (suite : CaseSuite) (cases : List RegressionCase) : Raises Unit := do
  raiseIf (cases.length ≠ suite.members.length) (invalidSuiteError ("resolved " ++
    toString cases.length ++ " cases for " ++ toString suite.members.length ++ " suite members"))
  forM (suite.members.zip cases) fun (member, case) =>
    raiseIf (member.caseId ≠ case.caseId || member.caseVersion ≠ case.caseVersion)
      (invalidSuiteError ("resolved case " ++ case.text ++ " does not match member " ++
        member.text))

/-- `_validate_experiment` -/
def validateExperiment [ValidationTexts] (case : RegressionCase)
    (changeType : ConfigurationChangeType) (candidate : ConfigurationVersions) : Raises Unit :=
  match case.bundle.bundleId with
  | none => .error (invalidSuiteError
      ("case UUID(" ++ reprText case.caseId.str ++ ") bundle has no derived id"))
  | some bundleId =>
    match (do
        let experiment ← ConfigurationSet.new bundleId changeType
          case.bundle.configurationVersions candidate
        validateBaselineMatchesBundle experiment case.bundle) with
    | .ok () => .ok ()
    | .error e => .error (suiteRunError ("case " ++ case.text ++ ": " ++ e.str))

/-- The checks of a call before its cases are run. -/
def SuiteComparisonCall.validate [ValidationTexts] (call : SuiteComparisonCall) :
    Raises Unit := do
  validateCases call.suite call.cases
  raiseIf (call.changeType ∉ executableChangeTypes) (unsupportedChangeError call.changeType)
  forM call.cases fun case => validateExperiment case call.changeType call.candidate

end Checks

/-! ## The comparison -/

namespace SuiteComparisonCall

variable (call : SuiteComparisonCall)

def options : SuiteRunOptions where
  changeType := call.changeType
  candidate := some call.candidate
  baselineModelConfig := call.baselineModelConfig
  candidatePrompt := call.candidatePrompt
  candidatePromptVersion := call.candidatePromptVersion

/-- `f"{versions.model_provider or 'unknown'}/{versions.model_name or 'unknown'}"` -/
def modelLabel (versions : ConfigurationVersions) : String :=
  (orText versions.modelProvider (some "unknown")).getD "unknown" ++ "/" ++
    (orText versions.modelName (some "unknown")).getD "unknown"

/-- The label of the baseline, from the first case. -/
def baselineLabel : Raises String :=
  match call.cases with
  | [] => .error (.other "IndexError" "tuple index out of range")
  | case :: _ =>
    if call.changeType = .model then .ok (modelLabel case.bundle.configurationVersions)
    else .ok ((orText case.bundle.configurationVersions.answerInstructionsVersion
      (some "baseline")).getD "baseline")

def candidateLabel : String :=
  if call.changeType = .model then modelLabel call.candidate
  else (orText call.candidatePromptVersion
    (orText call.candidate.answerInstructionsVersion (some "candidate"))).getD "candidate"

end SuiteComparisonCall

section Comparison

variable [UnicodeTables] [ValidationTexts]

/-- `run_suite_comparison` -/
def runSuiteComparison {World : Type} (runBundle : RunBundle World) (call : SuiteComparisonCall) :
    StateT World Raises SuiteComparisonResult := do
  liftM call.validate
  let cases ← runAndCompareCases runBundle call.options call.cases
  let baselineLabel ← liftM call.baselineLabel
  liftM (finalizeCases call.suite call.changeType cases baselineLabel call.candidateLabel)

/-! ## The runs of a comparison -/

/-- What a run was started with. -/
structure Started where
  options : RunOptions
  bundle : SimulationBundle

/-- The runs of a world, with what each was started with. -/
def recording {World : Type} (runBundle : RunBundle World) : RunBundle (World × List Started) :=
  fun options bundle => fun (world, started) => do
    let (run, after) ← runBundle options bundle world
    return (run, (after, started ++ [⟨options, bundle⟩]))

/-- **Two runs of a case differ in the declared dimension only**: the baseline run uses the model
that the bundle records; a model change keeps the prompt, its version and the endpoint; a prompt
change keeps the model, and carries the version that was validated on the candidate. -/
structure DeclaredChange (call : SuiteComparisonCall) (case : RegressionCase)
    (baseline candidate : RunOptions) : Prop where
  recordedProvider : case.bundle.configurationVersions.modelProvider =
    some baseline.modelConfig.provider
  recordedName : case.bundle.configurationVersions.modelName = some baseline.modelConfig.name
  versions : ∀ field : VersionField,
    field.differs case.bundle.configurationVersions call.candidate = true →
      field ∈ changeDimension call.changeType
  model : call.changeType = .model →
    candidate.answerInstructions = baseline.answerInstructions ∧
    instructionsVersion candidate case.bundle = instructionsVersion baseline case.bundle ∧
    ∃ provider name, call.candidate.modelProvider = some provider ∧
      call.candidate.modelName = some name ∧
      candidate.modelConfig = { baseline.modelConfig with provider := provider, name := name }
  prompt : call.changeType = .prompt →
    candidate.modelConfig = baseline.modelConfig ∧
    call.candidate.answerInstructionsVersion = some (instructionsVersion candidate case.bundle)

/-- The options of the baseline run of a case. -/
def SuiteComparisonCall.baselineOptions (call : SuiteComparisonCall) : RunOptions where
  modelConfig := call.baselineModelConfig

/-- The runs of every case would differ in the declared dimension only. -/
def SuiteComparisonCall.Declares (call : SuiteComparisonCall) : Prop :=
  ∃ candidate, call.options.candidateOptions = .ok candidate ∧
    ∀ case ∈ call.cases, DeclaredChange call case call.baselineOptions candidate

/-- **A one-variable experiment**: whenever the call returns a result, every case ran once with the
baseline and once with a candidate that differs in the declared dimension only; and a call whose
runs would not raises a typed error, whatever a run does: before the first run. -/
structure OneVariable (call : SuiteComparisonCall) : Prop where
  returned : ∀ {World : Type} (runBundle : RunBundle World) (world world' : World)
    (result : SuiteComparisonResult) (started : List Started),
    runSuiteComparison (recording runBundle) call (world, []) = .ok (result, (world', started)) →
    ∃ candidate, started = call.cases.flatMap (fun case =>
        [⟨call.baselineOptions, case.bundle⟩, ⟨candidate, case.bundle⟩]) ∧
      ∀ case ∈ call.cases, DeclaredChange call case call.baselineOptions candidate
  rejected : ¬ call.Declares → ∃ error : PyError, error.isDomain = true ∧
    ∀ {World : Type} (runBundle : RunBundle World) (world : World),
      runSuiteComparison runBundle call world = .error error

/-! ## When a call is a one-variable experiment -/

/-- The checks before the first run reject a call: those of the call, or the one of the first
case. -/
def SuiteComparisonCall.RejectedUpfront (call : SuiteComparisonCall) : Prop :=
  call.validate ≠ .ok () ∨
    ∃ case, call.cases.head? = some case ∧ checkRecordedModel call.options case ≠ .ok ()

/-- **The runner supports a call**: every bundle records the model of the baseline; a model change
names a hosted model, and the baseline has no endpoint of its own; a prompt change has a prompt,
and no version besides the one of the candidate. -/
structure SuiteComparisonCall.Supported (call : SuiteComparisonCall) : Prop where
  recorded : ∀ case ∈ call.cases,
    case.bundle.configurationVersions.modelProvider = some call.baselineModelConfig.provider ∧
      case.bundle.configurationVersions.modelName = some call.baselineModelConfig.name
  model : call.changeType = .model →
    call.baselineModelConfig.baseUrl = none ∧ call.baselineModelConfig.apiKey = none ∧
    ∃ provider name, call.candidate.modelProvider = some provider ∧
      call.candidate.modelName = some name ∧ provider ∈ ["openai", "anthropic"] ∧ name ≠ ""
  prompt : call.changeType = .prompt →
    call.candidatePrompt.isSome = true ∧
    ∃ version, call.candidate.answerInstructionsVersion = some version ∧ version ≠ "" ∧
      call.candidatePromptVersion ∈ [none, some "", some version]

/-! ### The checks that reject a call -/

omit [ValidationTexts] in
theorem validateCases_typed (suite : CaseSuite) (cases : List RegressionCase) :
    OnlyRaises (·.isDomain = true) (validateCases suite cases) := by
  refine OnlyRaises.bind (P := (·.isDomain = true)) (onlyRaises_raiseIf rfl) fun _ => ?_
  exact onlyRaises_forM fun pair => onlyRaises_raiseIf rfl

theorem validateExperiment_typed (case : RegressionCase) (changeType : ConfigurationChangeType)
    (candidate : ConfigurationVersions) :
    OnlyRaises (·.isDomain = true) (validateExperiment case changeType candidate) := by
  unfold validateExperiment
  split
  · exact onlyRaises_error rfl
  · split
    · exact onlyRaises_ok _
    · exact onlyRaises_error rfl

/-- A call that its checks reject raises a typed error. -/
theorem validate_typed (call : SuiteComparisonCall) :
    OnlyRaises (·.isDomain = true) call.validate := by
  refine (validateCases_typed call.suite call.cases).bind fun _ => ?_
  refine OnlyRaises.bind (P := (·.isDomain = true)) (onlyRaises_raiseIf rfl) fun _ => ?_
  exact onlyRaises_forM fun case => validateExperiment_typed case call.changeType call.candidate

omit [ValidationTexts] in
theorem checkRecordedModel_typed (options : SuiteRunOptions) (case : RegressionCase) :
    OnlyRaises (·.isDomain = true) (checkRecordedModel options case) := onlyRaises_raiseIf rfl

omit [ValidationTexts] in
/-- A comparison whose first case does not record the model of the baseline fails before its first
run. -/
theorem runAndCompareCases_eq_error {World : Type} {runBundle : RunBundle World}
    {options : SuiteRunOptions} {case : RegressionCase} {cases : List RegressionCase} {e : PyError}
    (h : checkRecordedModel options case = .error e) (world : World) :
    runAndCompareCases runBundle options (case :: cases) world = .error e := by
  rw [runAndCompareCases, List.mapM_cons]
  refine Effects.stateT_bind_eq_error (Effects.stateT_bind_eq_error ?_)
  exact Effects.stateT_lift_eq_error h

/-- **A call that is rejected up front** raises the same typed error whatever its runs do. -/
theorem rejected_of_rejectedUpfront {call : SuiteComparisonCall} (h : call.RejectedUpfront) :
    ∃ error : PyError, error.isDomain = true ∧
      ∀ {World : Type} (runBundle : RunBundle World) (world : World),
        runSuiteComparison runBundle call world = .error error := by
  cases hvalidate : call.validate with
  | error e =>
    refine ⟨e, validate_typed call e hvalidate, fun runBundle world => ?_⟩
    exact Effects.stateT_bind_eq_error (Effects.stateT_lift_eq_error hvalidate)
  | ok checked =>
    obtain ⟨case, hcase, hmodel⟩ := h.resolve_left (not_not.mpr hvalidate)
    obtain ⟨cases, hcases⟩ := List.head?_eq_some_iff.mp hcase
    cases hchecked : checkRecordedModel call.options case with
    | ok checked => exact (hmodel hchecked).elim
    | error e =>
      refine ⟨e, checkRecordedModel_typed _ _ e hchecked, fun runBundle world => ?_⟩
      rw [runSuiteComparison, Effects.stateT_bind_of_ok (Effects.stateT_lift_of_ok hvalidate),
        hcases]
      exact Effects.stateT_bind_eq_error (runAndCompareCases_eq_error hchecked world)

omit [ValidationTexts] in
theorem length_of_validateCases {suite : CaseSuite} {cases : List RegressionCase}
    (h : validateCases suite cases = .ok ()) : cases.length = suite.members.length := by
  have hlength := (check_bind_eq_ok.mp h).1
  simpa using hlength

theorem cases_ne_nil_of_validate {call : SuiteComparisonCall} (h : call.validate = .ok ()) :
    call.cases ≠ [] := by
  have hlength := length_of_validateCases (check_bind_eq_ok.mp h).1
  rw [← List.length_pos_iff, hlength, List.length_pos_iff]
  exact call.suite.membersNonempty

/-- **A call that is not rejected up front starts a run**: if its runs fail, it fails as they
do. -/
theorem starts_of_not_rejectedUpfront {call : SuiteComparisonCall} (h : ¬ call.RejectedUpfront)
    (error : PyError) :
    runSuiteComparison (fun _ _ _ => .error error) call () = .error error := by
  have hvalidate : call.validate = .ok () := by
    by_contra hrejects
    exact h (Or.inl hrejects)
  obtain ⟨case, cases, hcases⟩ := List.exists_cons_of_ne_nil (cases_ne_nil_of_validate hvalidate)
  have hmodel : checkRecordedModel call.options case = .ok () := by
    by_contra hrejects
    exact h (Or.inr ⟨case, by rw [hcases]; rfl, hrejects⟩)
  rw [runSuiteComparison, Effects.stateT_bind_of_ok (Effects.stateT_lift_of_ok hvalidate),
    runAndCompareCases, hcases, List.mapM_cons]
  refine Effects.stateT_bind_eq_error (Effects.stateT_bind_eq_error ?_)
  rw [runAndCompareCase, Effects.stateT_bind_of_ok (Effects.stateT_lift_of_ok hmodel)]
  exact Effects.stateT_bind_eq_error rfl

/-! ### The runs that a call starts -/

omit [UnicodeTables] [ValidationTexts] in
/-- A run that returns is recorded. -/
theorem recording_eq_ok {World : Type} {runBundle : RunBundle World} {options : RunOptions}
    {bundle : SimulationBundle} {before after : World × List Started} {run : SimulationRun}
    (h : recording runBundle options bundle before = .ok (run, after)) :
    after.2 = before.2 ++ [⟨options, bundle⟩] := by
  obtain ⟨result, hresult, hpure⟩ := bind_eq_ok.mp h
  obtain ⟨-, hafter⟩ := Prod.mk.inj (Except.ok.inj hpure)
  rw [← hafter]

omit [ValidationTexts] in
/-- **The runs of a comparison**: each case starts one run with the baseline, and one with the
candidate. -/
theorem started_of_runAndCompareCases {World : Type} {runBundle : RunBundle World}
    {options : SuiteRunOptions} {candidate : RunOptions}
    (hcandidate : options.candidateOptions = .ok candidate) {cases : List RegressionCase}
    {before after : World × List Started} {compared : List ComparedCase}
    (h : runAndCompareCases (recording runBundle) options cases before = .ok (compared, after)) :
    after.2 = before.2 ++ cases.flatMap fun case =>
      [⟨{ modelConfig := options.baselineModelConfig }, case.bundle⟩,
        ⟨candidate, case.bundle⟩] := by
  induction cases generalizing before compared with
  | nil =>
    obtain ⟨-, rfl⟩ := Prod.mk.inj (Except.ok.inj h)
    exact (List.append_nil _).symm
  | cons case cases ih =>
    rw [runAndCompareCases, List.mapM_cons] at h
    obtain ⟨first, middle, hfirst, hrest⟩ := Effects.stateT_bind_eq_ok.mp h
    obtain ⟨others, last, hothers, hpure⟩ := Effects.stateT_bind_eq_ok.mp hrest
    obtain ⟨-, rfl⟩ := Prod.mk.inj (Except.ok.inj hpure)
    -- the steps of one case
    obtain ⟨⟨⟩, _, hcheck, hbaseline⟩ := Effects.stateT_bind_eq_ok.mp hfirst
    obtain ⟨baselineRun, _, hstart, hoptions⟩ := Effects.stateT_bind_eq_ok.mp hbaseline
    obtain ⟨chosen, _, hchosen, hsecond⟩ := Effects.stateT_bind_eq_ok.mp hoptions
    obtain ⟨candidateRun, _, hrun, hcompare⟩ := Effects.stateT_bind_eq_ok.mp hsecond
    obtain ⟨hchosen, hsame⟩ := Effects.stateT_lift_eq_ok.mp hchosen
    have hunchecked := (Effects.stateT_lift_eq_ok.mp hcheck).2
    have huncompared := (Effects.stateT_lift_eq_ok.mp hcompare).2
    dsimp only at hchosen hsame hunchecked huncompared
    rw [hcandidate] at hchosen
    obtain rfl := Except.ok.inj hchosen
    have hlog := recording_eq_ok hrun
    rw [huncompared, ← hsame, recording_eq_ok hstart, ← hunchecked] at hlog
    rw [ih hothers, hlog, List.flatMap_cons, List.append_assoc, List.append_assoc]
    rfl

/-! ### The experiments that the runner supports -/

theorem oneVariable_of_validateExperiment {case : RegressionCase}
    {changeType : ConfigurationChangeType} {candidate : ConfigurationVersions}
    (h : validateExperiment case changeType candidate = .ok ()) :
    validateOneVariable changeType case.bundle.configurationVersions candidate = .ok () := by
  unfold validateExperiment at h
  split at h
  · cases h
  · split at h
    · rename_i hexperiment
      obtain ⟨experiment, hnew, -⟩ := bind_eq_ok.mp hexperiment
      unfold ConfigurationSet.new at hnew
      split at hnew
      · assumption
      · cases hnew
    · cases h

/-- A call that passes its checks declares an executable one-variable change for every case. -/
theorem checked_of_validate {call : SuiteComparisonCall} (h : call.validate = .ok ()) :
    call.changeType ∈ executableChangeTypes ∧ ∀ case ∈ call.cases,
      validateOneVariable call.changeType case.bundle.configurationVersions call.candidate =
        .ok () := by
  obtain ⟨-, hrest⟩ := check_bind_eq_ok.mp h
  obtain ⟨hexecutable, hcases⟩ := check_bind_eq_ok.mp hrest
  refine ⟨by simpa using hexecutable, fun case hcase => ?_⟩
  exact oneVariable_of_validateExperiment (forM_eq_ok.mp hcases case hcase)

/-- A prompt change of a checked call changes a version that every bundle records. -/
theorem recorded_of_prompt {call : SuiteComparisonCall} (h : call.validate = .ok ())
    (hprompt : call.changeType = .prompt) (case : RegressionCase) (hcase : case ∈ call.cases) :
    ∃ recorded, case.bundle.configurationVersions.answerInstructionsVersion = some recorded ∧
      call.candidate.answerInstructionsVersion ≠ some recorded := by
  obtain ⟨hdimension, ⟨field, hdiffers⟩, hset⟩ :=
    validateOneVariable_eq_ok.mp ((checked_of_validate h).2 case hcase)
  have hfield := hdimension field hdiffers
  rw [hprompt] at hfield
  obtain rfl := List.mem_singleton.mp hfield
  obtain ⟨recorded, hrecorded⟩ := Option.ne_none_iff_exists'.mp (by
    simpa [VersionField.isNone, ← Option.isSome_iff_ne_none] using (hset _ hdiffers).1)
  refine ⟨recorded, hrecorded, fun hsame => ?_⟩
  rw [VersionField.differs, hrecorded, hsame] at hdiffers
  simp at hdiffers

omit [UnicodeTables] [ValidationTexts] in
/-- The options of the candidate run of a model change. -/
theorem candidateOptions_model {call : SuiteComparisonCall} (hmodel : call.changeType = .model)
    {candidate : RunOptions} : call.options.candidateOptions = .ok candidate ↔
      ∃ provider name, call.candidate.modelProvider = some provider ∧
        call.candidate.modelName = some name ∧ provider ∈ ["openai", "anthropic"] ∧ name ≠ "" ∧
        candidate = { modelConfig := { provider := provider, name := name } } := by
  rw [SuiteRunOptions.candidateOptions,
    if_pos (show call.options.changeType = .model from hmodel)]
  dsimp only [SuiteComparisonCall.options]
  cases call.candidate.modelProvider with
  | none => simp
  | some provider =>
    cases call.candidate.modelName with
    | none => simp
    | some name =>
      dsimp only
      rw [ModelConfig.new, bind_eq_ok]
      constructor
      · rintro ⟨modelConfig, hnew, hcandidate⟩
        obtain ⟨hprovider, hrest⟩ := check_bind_eq_ok.mp hnew
        obtain ⟨hname, hconfig⟩ := check_bind_eq_ok.mp hrest
        rw [← Except.ok.inj hconfig] at hcandidate
        exact ⟨provider, name, rfl, rfl, of_decide_eq_true (checkField_eq_ok.mp hprovider),
          of_decide_eq_true (checkField_eq_ok.mp hname), (Except.ok.inj hcandidate).symm⟩
      · rintro ⟨_, _, ⟨⟩, ⟨⟩, hprovider, hname, rfl⟩
        refine ⟨_, check_bind_eq_ok.mpr ⟨checkField_eq_ok.mpr (decide_eq_true hprovider), ?_⟩, rfl⟩
        exact check_bind_eq_ok.mpr ⟨checkField_eq_ok.mpr (decide_eq_true hname), rfl⟩

omit [UnicodeTables] [ValidationTexts] in
/-- The options of the candidate run of a prompt change. -/
theorem candidateOptions_prompt {call : SuiteComparisonCall} (hprompt : call.changeType = .prompt)
    {candidate : RunOptions} : call.options.candidateOptions = .ok candidate ↔
      ∃ prompt, call.candidatePrompt = some prompt ∧ candidate =
        { modelConfig := call.baselineModelConfig
          answerInstructions := some prompt
          answerInstructionsVersion := orElseText call.candidatePromptVersion
            call.candidate.answerInstructionsVersion } := by
  have hother : call.options.changeType ≠ .model := by
    rw [show call.options.changeType = .prompt from hprompt]
    decide
  rw [SuiteRunOptions.candidateOptions, if_neg hother]
  dsimp only [SuiteComparisonCall.options]
  cases call.candidatePrompt with
  | none => simp
  | some prompt =>
    constructor
    · exact fun h => ⟨prompt, rfl, (Except.ok.inj h).symm⟩
    · rintro ⟨_, ⟨⟩, rfl⟩
      rfl

/-! ### The version of the instructions -/

omit [UnicodeTables] [ValidationTexts] in
theorem orText_of_ne {text : String} (h : text ≠ "") (other : Option String) :
    orText (some text) other = some text := by
  simp [orText, h]

omit [UnicodeTables] [ValidationTexts] in
theorem orText_empty (other : Option String) : orText (some "") other = other := by
  rw [orText, Option.filter_some, if_neg (by simp)]
  rfl

omit [UnicodeTables] [ValidationTexts] in
/-- **A prompt change carries the version of the candidate** exactly when that version is a text,
and no other text is given in its place. -/
theorem carries_iff {bundle : SimulationBundle} {candidate : RunOptions}
    {given version : Option String} {recorded : String}
    (hversion : candidate.answerInstructionsVersion = orElseText given version)
    (hrecorded : bundle.configurationVersions.answerInstructionsVersion = some recorded)
    (hchanged : version ≠ some recorded) :
    version = some (instructionsVersion candidate bundle) ↔
      ∃ text, version = some text ∧ text ≠ "" ∧ given ∈ [none, some "", some text] := by
  have hcarried (text : String) (hgiven : orElseText given version = some text)
      (htext : text ≠ "") :
      instructionsVersion candidate bundle = text := by
    rw [instructionsVersion, hversion, hgiven, orText_of_ne htext]
    rfl
  by_cases hother : ∃ other, given = some other ∧ other ≠ ""
  · -- the given version replaces the one of the candidate
    obtain ⟨other, rfl, hother⟩ := hother
    rw [hcarried other (by rw [orElseText]; exact if_neg hother) hother]
    constructor
    · exact fun h => ⟨other, h, hother, by simp⟩
    · rintro ⟨text, htext, -, hmem⟩
      have hsame : other = text := by simpa [hother] using hmem
      rw [htext, hsame]
  · have hgiven : given ∈ [none, some ""] := by
      cases given with
      | none => exact List.mem_cons_self
      | some other =>
        obtain rfl : other = "" := by
          by_contra hne
          exact hother ⟨other, rfl, hne⟩
        simp
    have hvalidated : orElseText given version = version := by
      rcases List.mem_cons.mp hgiven with rfl | hempty
      · rfl
      · rw [List.mem_singleton.mp hempty]
        rfl
    constructor
    · intro h
      refine ⟨_, h, fun hempty => ?_, ?_⟩
      · -- an empty version is replaced by the one that the bundle records
        rw [hempty] at h
        have hrecordedText : recorded ≠ "" := fun heq => hchanged (by rw [h, heq])
        rw [instructionsVersion, hversion, hvalidated, h, orText_empty, hrecorded,
          orText_of_ne hrecordedText] at hempty
        exact hrecordedText hempty
      · exact List.mem_append_left [some _] hgiven
    · rintro ⟨text, htext, hne, -⟩
      rw [hcarried text (hvalidated.trans htext) hne, htext]

/-- A declared change is supported, when some case is run. -/
theorem supported_of_declares {call : SuiteComparisonCall} (hvalidate : call.validate = .ok ())
    (h : call.Declares) : call.Supported := by
  obtain ⟨candidate, hcandidate, hdeclared⟩ := h
  obtain ⟨case, hcase⟩ := List.exists_mem_of_ne_nil _ (cases_ne_nil_of_validate hvalidate)
  have hchange := hdeclared case hcase
  refine ⟨fun other hother => ?_, fun hmodel => ?_, fun hprompt => ?_⟩
  · exact ⟨(hdeclared other hother).recordedProvider, (hdeclared other hother).recordedName⟩
  · obtain ⟨provider, name, hprovider, hname, hhosted, hne, rfl⟩ :=
      (candidateOptions_model hmodel).mp hcandidate
    obtain ⟨-, -, _, _, -, -, hconfig⟩ := hchange.model hmodel
    -- the model of the candidate has no endpoint settings
    have hurl := congrArg ModelConfig.baseUrl hconfig
    have hkey := congrArg ModelConfig.apiKey hconfig
    exact ⟨hurl.symm, hkey.symm, provider, name, hprovider, hname, hhosted, hne⟩
  · obtain ⟨prompt, hgiven, rfl⟩ := (candidateOptions_prompt hprompt).mp hcandidate
    refine ⟨by rw [hgiven]; rfl, ?_⟩
    obtain ⟨recorded, hrecorded, hchanged⟩ := recorded_of_prompt hvalidate hprompt case hcase
    exact (carries_iff rfl hrecorded hchanged).mp (hchange.prompt hprompt).2

/-- A supported call that passes its checks declares its change. -/
theorem declares_of_supported {call : SuiteComparisonCall} (hvalidate : call.validate = .ok ())
    (h : call.Supported) : call.Declares := by
  obtain ⟨hexecutable, hchecked⟩ := checked_of_validate hvalidate
  rcases List.mem_pair.mp hexecutable with hmodel | hprompt
  · obtain ⟨hurl, hkey, provider, name, hprovider, hname, hhosted, hne⟩ := h.model hmodel
    refine ⟨_, (candidateOptions_model hmodel).mpr
      ⟨provider, name, hprovider, hname, hhosted, hne, rfl⟩, fun case hcase => ?_⟩
    exact {
      recordedProvider := (h.recorded case hcase).1
      recordedName := (h.recorded case hcase).2
      versions := (validateOneVariable_eq_ok.mp (hchecked case hcase)).1
      model := fun _ => ⟨rfl, rfl, provider, name, hprovider, hname, by
        dsimp only [SuiteComparisonCall.baselineOptions]
        rw [hurl, hkey]⟩
      prompt := fun hprompt => by rw [hmodel] at hprompt; cases hprompt }
  · obtain ⟨hgiven, hversion⟩ := h.prompt hprompt
    obtain ⟨prompt, hgiven⟩ := Option.isSome_iff_exists.mp hgiven
    refine ⟨_, (candidateOptions_prompt hprompt).mpr ⟨prompt, hgiven, rfl⟩, fun case hcase => ?_⟩
    obtain ⟨recorded, hrecorded, hchanged⟩ := recorded_of_prompt hvalidate hprompt case hcase
    exact {
      recordedProvider := (h.recorded case hcase).1
      recordedName := (h.recorded case hcase).2
      versions := (validateOneVariable_eq_ok.mp (hchecked case hcase)).1
      model := fun hmodel => by rw [hprompt] at hmodel; cases hmodel
      prompt := fun _ => ⟨rfl, (carries_iff rfl hrecorded hchanged).mpr hversion⟩ }

/-- **When a suite comparison is a one-variable experiment**: exactly when it is rejected up front
or supported by the runner. -/
theorem oneVariable_iff (call : SuiteComparisonCall) :
    OneVariable call ↔ call.RejectedUpfront ∨ call.Supported := by
  constructor
  · intro hone
    by_contra hneither
    obtain ⟨hstarts, hunsupported⟩ := not_or.mp hneither
    have hvalidate : call.validate = .ok () := by
      by_contra hrejects
      exact hstarts (Or.inl hrejects)
    -- the call starts a run, so that its error may be one of the run
    obtain ⟨error, htyped, hrejected⟩ := hone.rejected fun hdeclares =>
      hunsupported (supported_of_declares hvalidate hdeclares)
    have hrun := hrejected (fun _ _ _ => .error (.value "")) ()
    rw [starts_of_not_rejectedUpfront hstarts] at hrun
    rw [← Except.error.inj hrun] at htyped
    cases htyped
  · intro hcondition
    by_cases hupfront : call.RejectedUpfront
    · obtain ⟨error, htyped, hrejected⟩ := rejected_of_rejectedUpfront hupfront
      refine ⟨fun runBundle world world' result started hresult => ?_, fun _ =>
        ⟨error, htyped, hrejected⟩⟩
      rw [hrejected] at hresult
      cases hresult
    · have hvalidate : call.validate = .ok () := by
        by_contra hrejects
        exact hupfront (Or.inl hrejects)
      have hdeclares := declares_of_supported hvalidate (hcondition.resolve_left hupfront)
      refine ⟨fun runBundle world world' result started hresult => ?_, fun hnot =>
        (hnot hdeclares).elim⟩
      obtain ⟨candidate, hcandidate, hdeclared⟩ := hdeclares
      refine ⟨candidate, ?_, hdeclared⟩
      obtain ⟨⟨⟩, _, hcheck, hcompared⟩ := Effects.stateT_bind_eq_ok.mp hresult
      obtain ⟨compared, _, hruns, hlabel⟩ := Effects.stateT_bind_eq_ok.mp hcompared
      obtain ⟨label, _, hlabel, hfinal⟩ := Effects.stateT_bind_eq_ok.mp hlabel
      have hstart := (Effects.stateT_lift_eq_ok.mp hcheck).2
      have hsame := (Effects.stateT_lift_eq_ok.mp hlabel).2
      have hend := (Effects.stateT_lift_eq_ok.mp hfinal).2
      dsimp only at hstart hsame hend
      have hstarted := started_of_runAndCompareCases hcandidate hruns
      rw [hsame, hend, ← hstart] at hstarted
      exact hstarted

end Comparison

/-! ### A prompt change on another model -/

section Other

attribute [local instance] asciiTables oneDecimalRepr constantHashes plainTexts

/-- The versions that a bundle records. -/
def recordedVersions : ConfigurationVersions where
  answerInstructionsVersion := some "1"
  modelProvider := some "anthropic"
  modelName := some "claude"

/-- The small case, with recorded versions. -/
def recordedCase : RegressionCase :=
  { smallCase with
    bundle := { comparedBundle with configurationVersions := recordedVersions }
    configurationVersions := recordedVersions
    hashMatches := rfl
    evidenceRefMatches := rfl
    evidenceHashMatches := rfl
    versionsMatch := rfl
    scenarioMatches := rfl }

/-- A prompt change of this case, on a model that it does not record. -/
def otherModelCall : SuiteComparisonCall where
  suite := smallSuite
  cases := [recordedCase]
  changeType := .prompt
  candidate := { recordedVersions with answerInstructionsVersion := some "2" }
  baselineModelConfig := { provider := "openai", name := "gpt" }
  candidatePrompt := some "Answer briefly."

/-- The comparison returns a result, although its baseline is not the deployed model. -/
theorem not_oneVariable_otherModel : ¬ OneVariable otherModelCall := by
  intro hone
  have hreturns : (runSuiteComparison (recording scriptedRuns) otherModelCall
      ([reportedRun 2 [], reportedRun 1 []], [])).isOk = true := by
    decide +kernel
  cases hrun : runSuiteComparison (recording scriptedRuns) otherModelCall
      ([reportedRun 2 [], reportedRun 1 []], []) with
  | error e =>
    rw [hrun] at hreturns
    cases hreturns
  | ok result =>
    obtain ⟨candidate, -, hdeclared⟩ := hone.returned _ _ _ _ _ hrun
    have hrecorded := (hdeclared recordedCase List.mem_cons_self).recordedProvider
    exact absurd hrecorded (show some "anthropic" ≠ some "openai" by decide)

end Other

end ObservabilityLab
