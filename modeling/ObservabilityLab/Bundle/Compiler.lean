import ObservabilityLab.Bundle.Extract

/-!
# The bundle compiler

`compile_bundle`: a reviewed scenario becomes a portable bundle, or the call fails closed with a
typed error.

## Main definitions

* `privateSourceValues`: the source values that a portable bundle must not repeat
* `safeExpectedBehavior`: expected transitions on synthetic identifiers
* `CompileArguments`, `compileBundle`: the compiler and its keyword arguments
* `draftBundle`: the bundle that the compiler hands to the validators

## Main results

* `compileBundle_eq_ok`: a compiled bundle is the draft with its identity, and every scan passed
-/

namespace ObservabilityLab

open Python

/-! ## Private source values -/

section PrivateValues

def isHexChar (c : Char) : Bool := isAsciiDigit c || ('a' ≤ c && c ≤ 'f') || ('A' ≤ c && c ≤ 'F')

/-- The character classes of one UUID, without the word boundaries around it. -/
def uuidShape : List (Char → Bool) :=
  let hex (n : ℕ) := List.replicate n isHexChar
  let hyphen : List (Char → Bool) := [fun c => c = '-']
  let version : List (Char → Bool) := [fun c => '1' ≤ c && c ≤ '5']
  let variant : List (Char → Bool) := [fun c => c ∈ ['8', '9', 'a', 'b', 'A', 'B']]
  hex 8 ++ hyphen ++ hex 4 ++ hyphen ++ version ++ hex 3 ++ hyphen ++ variant ++ hex 3 ++
    hyphen ++ hex 12

variable [UnicodeTables]

/-- Whether a UUID stands at the beginning of `cs` and ends at a word boundary. -/
def uuidAt (cs : List Char) : Bool :=
  uuidShape.length ≤ cs.length && (List.zipWith (fun p c => p c) uuidShape cs).all id &&
    !((cs.drop uuidShape.length).head?.any isWordChar)

/-- `_UUID_PATTERN.findall`: the leftmost matches, without overlap. `skip` counts the characters of
the last match still to pass, and `inWord` says whether the previous character is a word one. -/
def findUuids : ℕ → Bool → List Char → List String
  | _, _, [] => []
  | skip + 1, _, c :: cs => findUuids skip (isWordChar c) cs
  | 0, inWord, c :: cs =>
    if !inWord && uuidAt (c :: cs) then
      String.ofList ((c :: cs).take uuidShape.length) ::
        findUuids (uuidShape.length - 1) (isWordChar c) cs
    else findUuids 0 (isWordChar c) cs

/-- The identifiers of a scenario's source records and message, sorted. -/
def sourceIdentifiers (scenario : SimulationScenario) : List String :=
  let state := scenario.initialState
  sortedSet (scenario.request.customerId.str ::
    state.orders.map (·.id.str) ++ state.orders.map (·.customerId.str) ++
    state.tickets.map (·.id.str) ++ state.tickets.map (·.customerId.str) ++
    state.tickets.filterMap (fun ticket => ticket.orderId.map Uuid.str) ++
    state.policies.map (·.id.str) ++
    findUuids 0 false scenario.request.message.toList)

/-- The source values that a portable bundle must not repeat. -/
def privateSourceValues (scenario : SimulationScenario) : List String :=
  scenario.request.message :: scenario.title :: sourceIdentifiers scenario

end PrivateValues

/-! ## Projections -/

section Projections

variable [HashFunctions]

omit [HashFunctions] in
theorem resourceIdContract_map {resource : TransitionResource} {resourceId : Option Uuid}
    {anyResourceId : Bool} {fromStatus : Option String} {toStatus reasonCode : String}
    (f : Uuid → Uuid) :
    resourceIdContract resource (resourceId.map f) anyResourceId fromStatus toStatus reasonCode =
      resourceIdContract resource resourceId anyResourceId fromStatus toStatus reasonCode := by
  simp [resourceIdContract]

/-- A transition on the synthetic identifier of its resource. -/
def safeTransition (t : ExpectedStateTransition) : ExpectedStateTransition :=
  { t with
    resourceId := t.resourceId.map syntheticId
    contract := by rw [resourceIdContract_map]; exact t.contract }

/-- Replace identifiers in expected transitions with stable synthetic values. -/
def safeExpectedBehavior (expected : ExpectedBehavior) : ExpectedBehavior :=
  { expected with
    stateTransitions := expected.stateTransitions.map safeTransition
    permittedStateTransitions := expected.permittedStateTransitions.map safeTransition }

/-- The stored content hash of a scenario, or the computed one. -/
def sourceContentHash (scenario : SimulationScenario) : HexDigest :=
  scenario.contentHash.getD (computeScenarioHash scenario)

/-- The portable scenario projection from reviewer-approved input. -/
def safeScenario [UnicodeTables] (scenario : SimulationScenario)
    (approvedRequestMessage : String) : Raises BundleScenario := do
  let request ← BundleRequest.new (syntheticId scenario.request.customerId)
    approvedRequestMessage scenario.request.refundConfirmed
  BundleScenario.new
    { scenarioId := scenario.scenarioId
      sourceSchemaVersion := scenario.schemaVersion
      sourceContentHash := sourceContentHash scenario
      category := scenario.category
      request := request
      workflowContext := scenario.workflowContext
      eligibleActions := scenario.eligibleActions
      requiredDependencyCoverage := scenario.requiredDependencyCoverage }

end Projections

/-! ## The compiler -/

/-- The keyword arguments of `compile_bundle`. -/
structure CompileArguments where
  scenario : SimulationScenario
  evidence : Option TraceEvidence := none
  approvedRequestMessage : String
  reviewer : String
  reviewedAt : String
  reason : String
  reviewStatus : ReviewStatus := .pending
  sourceEvidence : Option String := none
  correctedExpectedBehavior : Option ExpectedBehavior := none
  dependencyFixtures : List DependencyFixture := []
  faultScript : Option FaultScript := none
  adapterVersions : List (String × String) := []
  redactionDecisions : List RedactionDecision := []
  coverageItems : List CoverageItem := []
  forbiddenSubstrings : List String := []

section Compile

variable [UnicodeTables] [HashFunctions]

/-- `MissingEvidenceError` -/
def missingEvidenceError (scenarioId : String) : Option String → PyError
  | none => .domain "missing_evidence" ("Scenario " ++ reprText scenarioId ++
      " has no linked trace evidence; attach evidence before compiling a bundle")
      unprocessableEntity
  | some detail => .domain "missing_evidence" ("Scenario " ++ reprText scenarioId ++
      " cannot compile: " ++ detail) unprocessableEntity

/-- `MissingCoverageError` -/
def missingCoverageError (scenarioId : String) (missing : List String) : PyError :=
  .domain "missing_simulation_coverage" ("Scenario " ++ reprText scenarioId ++
    " requires unsupported dependencies " ++ reprTupleText (missing.map reprText) ++
    "; add recorded or stateful adapters before compiling") unprocessableEntity

/-- `RejectedReviewError` -/
def rejectedReviewError (scenarioId state : String) : PyError :=
  .domain "review_not_approved" ("Scenario " ++ reprText scenarioId ++ " has review state " ++
    reprText state ++ "; only an approved review may produce an accepted bundle")
    unprocessableEntity

/-- The evidence must be there when the scenario links a trace, and belong to the scenario. -/
def checkEvidence (scenario : SimulationScenario) : Option TraceEvidence → Raises Unit
  | none => raiseIf scenario.evidenceRef.isSome (missingEvidenceError scenario.scenarioId none)
  | some evidence => do
    raiseIf (evidence.scenarioId.any (· ≠ scenario.scenarioId))
      (missingEvidenceError scenario.scenarioId (some
        ("evidence belongs to scenario " ++ reprText (evidence.scenarioId.getD ""))))
    raiseIf (scenario.evidenceRef.any (·.traceId ≠ evidence.source.traceId))
      (missingEvidenceError scenario.scenarioId (some
        ("scenario links trace " ++ reprText (scenario.evidenceRef.elim "" (·.traceId)) ++
          ", not " ++ reprText evidence.source.traceId)))

/-- Build one review decision, rejecting unapproved states. -/
def compileReview (args : CompileArguments) (corrected : Option ExpectedBehavior) :
    Raises ReviewDecision := do
  raiseIf (args.reviewStatus ≠ .approved)
    (rejectedReviewError args.scenario.scenarioId args.reviewStatus.value)
  ReviewDecision.new
    { status := .approved
      reviewer := args.reviewer
      reviewedAt := args.reviewedAt
      reason := args.reason
      sourceEvidence := args.sourceEvidence
      correctedExpectedBehavior := corrected }

/-- The coverage of one scenario; missing requirements raise. -/
def compileCoverage (scenario : SimulationScenario) (items : List CoverageItem) :
    Raises CoverageInfo := do
  let missing := (scenario.requiredDependencyCoverage.filter
    fun requirement => !requirementIsCovered requirement items).map (·.dependency)
  raiseIf (missing ≠ []) (missingCoverageError scenario.scenarioId missing)
  .ok { covered := sortedSet ((items.map (·.dependency)).filter (· ≠ "")), missing := [] }

omit [UnicodeTables] [HashFunctions] in
/-- `mapping[key] = value` -/
def setKey (mapping : List (String × String)) (key value : String) : List (String × String) :=
  if mapping.any (·.1 = key) then
    mapping.map fun entry => if entry.1 = key then (key, value) else entry
  else mapping ++ [(key, value)]

omit [UnicodeTables] [HashFunctions] in
/-- The tool versions of the adapters that serve them, sorted by tool. -/
def compileToolVersions (items : List CoverageItem) (versions : List (String × String)) :
    List (String × String) :=
  (items.foldl (fun mapping item =>
    match versions.lookup item.dependency with
    | none => mapping
    | some version => item.tools.foldl (fun mapping tool => setKey mapping tool version) mapping)
    []).insertionSort fun a b => a.1 ≤ b.1

omit [UnicodeTables] [HashFunctions] in
/-- The policy version of a scenario with exactly one. -/
def singlePolicyVersion (state : SimulationState) : Option String :=
  match (state.policies.map (·.version)).dedup with
  | [version] => some version
  | _ => none

/-- The expected behavior of a bundle: the correction, or the scenario's own. -/
def CompileArguments.expected (args : CompileArguments) : ExpectedBehavior :=
  safeExpectedBehavior (args.correctedExpectedBehavior.getD args.scenario.expectedBehavior)

/-- The correction that the review stores. -/
def CompileArguments.corrected (args : CompileArguments) : Option ExpectedBehavior :=
  args.correctedExpectedBehavior.map fun _ => args.expected

/-- The redaction decisions of a bundle: the caller's, and the defaults. -/
def CompileArguments.allRedactions (args : CompileArguments)
    (seeds : List EnvironmentResourceSeed) : List RedactionDecision :=
  args.redactionDecisions ++
    [⟨"scenario.request.customer_id", "Replaced with a stable synthetic value"⟩,
      ⟨"scenario.request.message", "Replaced with reviewer-approved simulation text"⟩] ++
    redactionDecisionsForSeeds seeds

/-- The configuration versions of a bundle, before their validation. -/
def CompileArguments.versions (args : CompileArguments) : ConfigurationVersions :=
  let context := args.scenario.workflowContext
  { workflow := some context.workflow
    workflowVersion := some context.workflowVersion
    routingInstructionsVersion := context.routingInstructionsVersion
    answerInstructionsVersion := context.answerInstructionsVersion
    modelProvider := context.modelProvider
    modelName := context.modelName
    policyVersion := singlePolicyVersion args.scenario.initialState
    toolVersions := compileToolVersions args.coverageItems args.adapterVersions
    configurationVersion := some context.workflowVersion }

/-- The texts that the scans of the compiler forbid. -/
def CompileArguments.forbidden (args : CompileArguments) : List String :=
  args.forbiddenSubstrings ++ privateSourceValues args.scenario

variable [FloatRepr]

/-- Compile one reviewed scenario into a portable bundle. -/
def compileBundle (args : CompileArguments) : Raises SimulationBundle := do
  checkEvidence args.scenario args.evidence
  validateSafeText args.approvedRequestMessage "approved simulation request"
    (privateSourceValues args.scenario)
  let reviewed ← compileReview args args.corrected
  let coverage ← compileCoverage args.scenario args.coverageItems
  let seeds ← extractResourceSeeds args.scenario.initialState
  let fixtures ← extractDependencyFixtures args.scenario args.dependencyFixtures
  validateFaultScript args.faultScript
    (declaredTools args.scenario.requiredDependencyCoverage)
    (args.scenario.requiredDependencyCoverage.map (·.dependency)) args.forbidden
  scanBundleContent (seeds.map fun seed => (seed.resource, seed.records))
    (fixtures.map (·.dumpFields)) args.forbidden
  let scenario ← safeScenario args.scenario args.approvedRequestMessage
  let versions ← ConfigurationVersions.new args.versions
  SimulationBundle.validate
    { scenario := scenario
      evidenceRef := args.evidence.map (·.source)
      evidenceContentHash := args.evidence.map computeContentHash
      expectedBehavior := args.expected
      configurationVersions := versions
      resourceSeeds := seeds
      dependencyFixtures := fixtures
      faultScript := args.faultScript
      adapterVersions := args.adapterVersions
      coverage := coverage
      redactionDecisions := args.allRedactions seeds
      review := reviewed }

/-! ## What a compiled bundle is -/

/-- The review of a bundle that the compiler accepts. -/
def CompileArguments.review (args : CompileArguments) : ReviewDecision where
  status := .approved
  reviewer := args.reviewer
  reviewedAt := args.reviewedAt
  reason := args.reason
  sourceEvidence := args.sourceEvidence
  correctedExpectedBehavior := args.corrected

/-- The scenario projection of a bundle, for a message of valid length. -/
def CompileArguments.bundleScenario (args : CompileArguments)
    (hmessage : lengthWithin 1 2000 args.approvedRequestMessage = true) : BundleScenario where
  scenarioId := args.scenario.scenarioId
  sourceSchemaVersion := args.scenario.schemaVersion
  sourceContentHash := sourceContentHash args.scenario
  category := args.scenario.category
  request :=
    { customerId := syntheticId args.scenario.request.customerId
      message := args.approvedRequestMessage
      refundConfirmed := args.scenario.request.refundConfirmed
      messageLength := hmessage }
  workflowContext := args.scenario.workflowContext
  eligibleActions := args.scenario.eligibleActions
  requiredDependencyCoverage := args.scenario.requiredDependencyCoverage

/-- The bundle that the compiler hands to the validators. -/
def draftBundle (args : CompileArguments)
    (hmessage : lengthWithin 1 2000 args.approvedRequestMessage = true) : SimulationBundle where
  scenario := args.bundleScenario hmessage
  evidenceRef := args.evidence.map (·.source)
  evidenceContentHash := args.evidence.map computeContentHash
  expectedBehavior := args.expected
  configurationVersions := args.versions
  resourceSeeds := stateSeeds args.scenario.initialState
  dependencyFixtures := args.dependencyFixtures
  faultScript := args.faultScript
  adapterVersions := args.adapterVersions
  coverage :=
    { covered := sortedSet ((args.coverageItems.map (·.dependency)).filter (· ≠ "")),
      missing := [] }
  redactionDecisions := args.allRedactions (stateSeeds args.scenario.initialState)
  review := args.review

omit [FloatRepr] in
theorem compileReview_eq_ok {args : CompileArguments} {reviewed : ReviewDecision}
    (h : compileReview args args.corrected = .ok reviewed) : args.review = reviewed := by
  simp only [compileReview, ReviewDecision.new, check_bind_eq_ok] at h
  exact Except.ok.inj h.2.2.2.2.2

omit [HashFunctions] [FloatRepr] in
theorem compileCoverage_eq_ok {scenario : SimulationScenario} {items : List CoverageItem}
    {coverage : CoverageInfo} (h : compileCoverage scenario items = .ok coverage) :
    { covered := sortedSet ((items.map (·.dependency)).filter (· ≠ "")), missing := [] } =
      coverage := by
  simp only [compileCoverage, check_bind_eq_ok] at h
  exact Except.ok.inj h.2

omit [UnicodeTables] [HashFunctions] [FloatRepr] in
theorem ConfigurationVersions.new_eq_ok {versions built : ConfigurationVersions}
    (h : versions.new = .ok built) : versions = built := by
  simp only [ConfigurationVersions.new, check_bind_eq_ok] at h
  exact Except.ok.inj h.2.2.2.2.2.2.2.2

omit [FloatRepr] in
theorem safeScenario_eq_ok {args : CompileArguments} {scenario : BundleScenario}
    (h : safeScenario args.scenario args.approvedRequestMessage = .ok scenario) :
    isScenarioId args.scenario.scenarioId = true ∧
      matchesVersion args.scenario.schemaVersion = true ∧
      ∃ hmessage, args.bundleScenario hmessage = scenario := by
  obtain ⟨request, hrequest, hnew⟩ := bind_eq_ok.mp h
  unfold BundleRequest.new at hrequest
  split_ifs at hrequest with hmessage
  obtain rfl := Except.ok.inj hrequest
  simp only [BundleScenario.new, check_bind_eq_ok, checkField_eq_ok] at hnew
  exact ⟨hnew.1, hnew.2.1, hmessage, Except.ok.inj hnew.2.2⟩

/-- **A compiled bundle is the draft with its identity**, and every scan passed. -/
theorem compileBundle_eq_ok {args : CompileArguments} {bundle : SimulationBundle}
    (h : compileBundle args = .ok bundle) :
    isScenarioId args.scenario.scenarioId = true ∧
      matchesVersion args.scenario.schemaVersion = true ∧
      validateSafeText args.approvedRequestMessage "approved simulation request"
        (privateSourceValues args.scenario) = .ok () ∧
      validateFaultScript args.faultScript
        (declaredTools args.scenario.requiredDependencyCoverage)
        (args.scenario.requiredDependencyCoverage.map (·.dependency)) args.forbidden = .ok () ∧
      scanBundleContent ((stateSeeds args.scenario.initialState).map
        fun seed => (seed.resource, seed.records)) (args.dependencyFixtures.map (·.dumpFields))
        args.forbidden = .ok () ∧
      ∃ hmessage, validateBundleContent (draftBundle args hmessage) = .ok () ∧
        bundle = (draftBundle args hmessage).withIdentity := by
  rw [compileBundle, check_bind_eq_ok, check_bind_eq_ok] at h
  obtain ⟨-, hmessage, h⟩ := h
  obtain ⟨reviewed, hreviewed, h⟩ := bind_eq_ok.mp h
  obtain ⟨coverage, hcoverage, h⟩ := bind_eq_ok.mp h
  obtain ⟨seeds, hseeds, h⟩ := bind_eq_ok.mp h
  obtain ⟨fixtures, hfixtures, h⟩ := bind_eq_ok.mp h
  obtain rfl := compileReview_eq_ok hreviewed
  obtain rfl := compileCoverage_eq_ok hcoverage
  obtain rfl := extractResourceSeeds_eq_ok hseeds
  obtain rfl := extractDependencyFixtures_eq_ok hfixtures
  rw [check_bind_eq_ok, check_bind_eq_ok] at h
  obtain ⟨hfaults, hscan, h⟩ := h
  obtain ⟨scenario, hscenario, h⟩ := bind_eq_ok.mp h
  obtain ⟨versions, hversions, h⟩ := bind_eq_ok.mp h
  obtain rfl := ConfigurationVersions.new_eq_ok hversions
  obtain ⟨hid, hversion, hlength, rfl⟩ := safeScenario_eq_ok hscenario
  obtain ⟨hcontent, -, -, -, hbundle⟩ := SimulationBundle.validate_eq_ok.mp h
  exact ⟨hid, hversion, hmessage, hfaults, hscan, hlength, hcontent, hbundle.symm⟩

/-- The compiler accepts arguments that pass every check. -/
theorem compileBundle_of_checks {args : CompileArguments}
    (hlength : lengthWithin 1 2000 args.approvedRequestMessage = true)
    (hevidence : checkEvidence args.scenario args.evidence = .ok ())
    (hmessage : validateSafeText args.approvedRequestMessage "approved simulation request"
      (privateSourceValues args.scenario) = .ok ())
    (hreview : compileReview args args.corrected = .ok args.review)
    (hcoverage : compileCoverage args.scenario args.coverageItems =
      .ok (draftBundle args hlength).coverage)
    (hseeds : extractResourceSeeds args.scenario.initialState =
      .ok (stateSeeds args.scenario.initialState))
    (hfixtures : extractDependencyFixtures args.scenario args.dependencyFixtures =
      .ok args.dependencyFixtures)
    (hfaults : validateFaultScript args.faultScript
      (declaredTools args.scenario.requiredDependencyCoverage)
      (args.scenario.requiredDependencyCoverage.map (·.dependency)) args.forbidden = .ok ())
    (hscan : scanBundleContent ((stateSeeds args.scenario.initialState).map
      fun seed => (seed.resource, seed.records)) (args.dependencyFixtures.map (·.dumpFields))
      args.forbidden = .ok ())
    (hscenario : safeScenario args.scenario args.approvedRequestMessage =
      .ok (args.bundleScenario hlength))
    (hversions : args.versions.new = .ok args.versions)
    (hcontent : validateBundleContent (draftBundle args hlength) = .ok ()) :
    compileBundle args = .ok (draftBundle args hlength).withIdentity := by
  rw [compileBundle, check_bind_eq_ok, check_bind_eq_ok]
  refine ⟨hevidence, hmessage, bind_eq_ok.mpr ⟨_, hreview, bind_eq_ok.mpr ⟨_, hcoverage,
    bind_eq_ok.mpr ⟨_, hseeds, bind_eq_ok.mpr ⟨_, hfixtures, ?_⟩⟩⟩⟩⟩
  rw [check_bind_eq_ok, check_bind_eq_ok]
  refine ⟨hfaults, hscan, bind_eq_ok.mpr ⟨_, hscenario, bind_eq_ok.mpr ⟨_, hversions, ?_⟩⟩⟩
  exact SimulationBundle.validate_eq_ok.mpr
    ⟨hcontent, fun _ h => (Option.not_mem_none _ h).elim,
      fun _ h => (Option.not_mem_none _ h).elim, rfl, rfl⟩

end Compile

/-! ## A small compilation -/

section Small

/-- A scenario without records, with a note on its expected behavior. -/
def smallScenario (scenarioId : String) (note : Option String) : SimulationScenario where
  scenarioId := scenarioId
  title := "Refund a shipped order"
  category := .answerFailure
  request :=
    { customerId := .repeated 1
      message := "please refund my order"
      refundConfirmed := true
      messageLength := by decide }
  workflowContext := { workflow := "support", workflowVersion := "1" }
  initialState := {}
  eligibleActions := ["get_order_status"]
  expectedBehavior :=
    { outcome := .completed
      reasonCodes := [.refundProposed]
      note := note
      policyVersionLength := optionWithin_none }
  titleLength := by decide
  actionsNodup := by decide
  dependenciesNodup := by decide

/-- The compilation of a small scenario after an approved review. -/
def smallArguments (scenarioId : String) (note : Option String) : CompileArguments where
  scenario := smallScenario scenarioId note
  approvedRequestMessage := "refund"
  reviewer := "ada"
  reviewedAt := "2026-01-01"
  reason := "reviewed"
  reviewStatus := .approved

variable [UnicodeTables]

/-- Text that is shorter than an identifier has none. -/
theorem findUuids_eq_nil {cs : List Char} (h : cs.length < uuidShape.length) :
    ∀ skip inWord, findUuids skip inWord cs = [] := by
  induction cs with
  | nil =>
    rintro (_ | skip) inWord <;> rfl
  | cons c cs ih =>
    have hrest : cs.length < uuidShape.length := by
      rw [List.length_cons] at h
      omega
    rintro (_ | skip) inWord
    · have hat : uuidAt (c :: cs) = false := by
        rw [uuidAt, decide_eq_false (by omega), Bool.false_and, Bool.false_and]
      rw [findUuids, hat, Bool.and_false, if_neg Bool.false_ne_true]
      exact ih hrest 0 _
    · rw [findUuids]
      exact ih hrest skip _

omit [UnicodeTables] in
theorem smallArguments_message {scenarioId : String} {note : Option String} :
    lengthWithin 1 2000 (smallArguments scenarioId note).approvedRequestMessage = true :=
  show lengthWithin 1 2000 "refund" = true by decide

/-- The private values of a small scenario: its message, its title and its customer. -/
theorem privateSourceValues_smallScenario (scenarioId : String) (note : Option String) :
    privateSourceValues (smallScenario scenarioId note) =
      ["please refund my order", "Refund a shipped order", (Uuid.repeated 1).str] := by
  have hlength : "please refund my order".toList.length < uuidShape.length := by
    rw [String.toList_ofList]
    decide
  have hnone : findUuids 0 false "please refund my order".toList = [] :=
    findUuids_eq_nil hlength _ _
  have hids : sourceIdentifiers (smallScenario scenarioId note) = [(Uuid.repeated 1).str] := by
    simp only [sourceIdentifiers, smallScenario, List.map_nil, List.filterMap_nil,
      List.append_nil, hnone]
    rfl
  rw [privateSourceValues, hids]
  rfl

end Small

section SmallCompiles

attribute [local instance] asciiTables

variable [HashFunctions] [FloatRepr]

omit [HashFunctions] [FloatRepr] in
theorem isSafeText_redactionReasons :
    isSafeText "Replaced with a stable synthetic value" = true ∧
      isSafeText "Replaced with reviewer-approved simulation text" = true := by
  decide +kernel

/-- A small scenario compiles when its identifier and its note are safe. -/
theorem compileBundle_smallArguments (scenarioId : String) (note : Option String)
    (hid : isScenarioId scenarioId = true) (hsafe : isSafeText scenarioId = true)
    (hnote : ∀ n ∈ note, isSafeText n = true)
    (hdigest : isSafeText (computeScenarioHash (smallScenario scenarioId note)).text = true) :
    compileBundle (smallArguments scenarioId note) =
      .ok (draftBundle (smallArguments scenarioId note) smallArguments_message).withIdentity := by
  -- the checks in the order in which the compiler makes them
  have hprivate : validateSafeText "refund" "approved simulation request"
      (privateSourceValues (smallScenario scenarioId note)) = .ok () := by
    rw [privateSourceValues_smallScenario]
    refine validateSafeText_of_freeOf (isSafeText_of_chars (by decide)) (freeOf_of_length_lt ?_)
    decide +kernel
  have hreview : compileReview (smallArguments scenarioId note)
      (smallArguments scenarioId note).corrected =
        .ok (smallArguments scenarioId note).review := by
    simp only [compileReview, ReviewDecision.new, check_bind_eq_ok, checkField_eq_ok,
      raiseIf_eq_ok]
    exact ⟨rfl, show lengthWithin 1 200 "ada" = true by decide,
      show lengthWithin 1 100 "2026-01-01" = true by decide,
      show lengthWithin 1 1000 "reviewed" = true by decide, rfl, rfl⟩
  have hversions : (smallArguments scenarioId note).versions.new =
      .ok (smallArguments scenarioId note).versions := by
    have hone : optionWithin 50 (some "1") = true := by decide
    simp only [ConfigurationVersions.new, check_bind_eq_ok, checkField_eq_ok, and_true]
    exact ⟨show optionWithin 100 (some "support") = true by decide, hone, rfl, rfl, rfl, rfl, rfl,
      hone⟩
  have hscenario : safeScenario (smallArguments scenarioId note).scenario
      (smallArguments scenarioId note).approvedRequestMessage =
        .ok ((smallArguments scenarioId note).bundleScenario smallArguments_message) := by
    rw [safeScenario, BundleRequest.new, dif_pos smallArguments_message, bind_eq_ok]
    refine ⟨_, rfl, ?_⟩
    simp only [BundleScenario.new, check_bind_eq_ok, checkField_eq_ok]
    exact ⟨hid, show matchesVersion "1.0.0" = true from rfl, rfl⟩
  have hcontent : validateBundleContent
      (draftBundle (smallArguments scenarioId note) smallArguments_message) = .ok () := by
    rw [validateBundleContent, check_bind_eq_ok, check_bind_eq_ok]
    refine ⟨rfl, rfl, (validateMetadataContent_eq_ok _ _).mpr ⟨?_, ?_⟩⟩
    · cases note <;> rfl
    -- every text is a constant but for the id, the note and the digest
    have htexts : (PyValue.dict (draftBundle (smallArguments scenarioId note)
        smallArguments_message).metadataFields).texts =
      ["1.0.0", scenarioId, "1.0.0", (computeScenarioHash (smallScenario scenarioId note)).text,
        "answer_failure", (syntheticId (.repeated 1)).str, "refund", "support", "1", "local",
        "get_order_status", "completed", "refund_proposed"] ++ note.toList ++
      ["support", "1", "1", "scenario.request.customer_id",
        "Replaced with a stable synthetic value", "scenario.request.message",
        "Replaced with reviewer-approved simulation text", "approved", "ada", "2026-01-01",
        "reviewed"] := by
      cases note <;> rfl
    have hnotes : ∀ n ∈ note.toList, isSafeText n = true :=
      fun n hn => hnote n (Option.mem_toList.mp hn)
    rw [htexts, List.forall_mem_append, List.forall_mem_append]
    refine ⟨⟨?_, hnotes⟩, ?_⟩
    all_goals
      simp only [List.forall_mem_cons, List.not_mem_nil, false_imp_iff, implies_true, and_true,
        hsafe, hdigest, isSafeText_str, isSafeText_redactionReasons, true_and]
      and_intros
    all_goals exact isSafeText_of_chars (by decide)
  exact compileBundle_of_checks smallArguments_message rfl hprivate hreview rfl rfl rfl rfl rfl
    hscenario hversions hcontent

end SmallCompiles

end ObservabilityLab
