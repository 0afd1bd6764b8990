import ObservabilityLab.Bundle.Allowlist
import ObservabilityLab.Evidence.Schemas

/-!
# Simulation bundles

The portable artifact: a privacy-safe scenario, seeds, fixtures, a fault script, the approved
expected behavior, versions, coverage, redaction decisions and the review. The three validators of
the schema scan the content, derive the identity from the content hash, and require an approved
review.

## Main definitions

* `SimulationBundle`: the bundle as a value, not yet validated
* `SimulationBundle.validate`: the validators that run when a bundle is built or read back
* `computeBundleHash`: the content hash, over everything but the identity
* `resourcesByType`: the seed records grouped by resource

## Main results

* `SimulationBundle.validate_eq_ok`: what an accepted bundle satisfies
-/

namespace ObservabilityLab

open Python

inductive ReviewStatus where
  | pending | approved | rejected | superseded
deriving DecidableEq

def ReviewStatus.value : ReviewStatus → String
  | pending => "pending"
  | approved => "approved"
  | rejected => "rejected"
  | superseded => "superseded"

/-- One human review of the expected behavior. -/
structure ReviewDecision where
  status : ReviewStatus
  reviewer : String
  reviewedAt : String
  reason : String
  sourceEvidence : Option String := none
  correctedExpectedBehavior : Option ExpectedBehavior := none

/-- One recorded response for an unsafe external dependency. -/
structure DependencyFixture where
  dependency : String
  adapterName : String
  adapterVersion : String
  tool : String
  arguments : Record := []
  payload : PyValue := .none
  errorCode : Option String := none
  malformed : Bool := false

/-- One seed for an ephemeral owned system. -/
structure EnvironmentResourceSeed where
  resource : String
  adapterName : String
  adapterVersion : String
  records : List Record := []

/-- The workflow, model, prompt, tool and policy versions. -/
structure ConfigurationVersions where
  workflow : Option String := none
  workflowVersion : Option String := none
  routingInstructionsVersion : Option String := none
  answerInstructionsVersion : Option String := none
  modelProvider : Option String := none
  modelName : Option String := none
  policyVersion : Option String := none
  toolVersions : List (String × String) := []
  configurationVersion : Option String := none
deriving DecidableEq

structure CoverageInfo where
  covered : List String := []
  missing : List String := []

structure RedactionDecision where
  field : String
  reason : String

/-- The reviewer-approved request used during simulation. -/
structure BundleRequest where
  customerId : Uuid
  message : String
  refundConfirmed : Bool := false
  messageLength : lengthWithin 1 2000 message = true

/-- A privacy-safe projection of the source scenario. -/
structure BundleScenario where
  scenarioId : String
  sourceSchemaVersion : String
  sourceContentHash : HexDigest
  category : SimulationCategory
  request : BundleRequest
  workflowContext : WorkflowContext
  eligibleActions : List String
  requiredDependencyCoverage : List DependencyCoverageRequirement := []

/-- One portable simulation bundle. -/
structure SimulationBundle where
  schemaVersion : String := "1.0.0"
  bundleId : Option Uuid := none
  scenario : BundleScenario
  evidenceRef : Option TraceSourceRef := none
  evidenceContentHash : Option HexDigest := none
  expectedBehavior : ExpectedBehavior
  configurationVersions : ConfigurationVersions := {}
  resourceSeeds : List EnvironmentResourceSeed := []
  dependencyFixtures : List DependencyFixture := []
  faultScript : Option FaultScript := none
  adapterVersions : List (String × String) := []
  coverage : CoverageInfo := {}
  redactionDecisions : List RedactionDecision := []
  review : ReviewDecision
  contentHash : Option HexDigest := none

/-! ## JSON dumps -/

section Dumps

open PyValue

/-- A mapping from text to text. -/
def dumpTexts (entries : List (String × String)) : PyValue :=
  dict (entries.map fun entry => (entry.1, str entry.2))

def ReviewDecision.dump (r : ReviewDecision) : PyValue :=
  dict [("status", str r.status.value), ("reviewer", str r.reviewer),
    ("reviewed_at", str r.reviewedAt), ("reason", str r.reason),
    ("source_evidence", ofOption r.sourceEvidence),
    ("corrected_expected_behavior", r.correctedExpectedBehavior.elim none ExpectedBehavior.dump)]

/-- The fields of `fixture.model_dump(mode="json")`. -/
def DependencyFixture.dumpFields (f : DependencyFixture) : Record :=
  [("dependency", str f.dependency), ("adapter_name", str f.adapterName),
    ("adapter_version", str f.adapterVersion), ("tool", str f.tool),
    ("arguments", (dict f.arguments).jsonMode), ("payload", f.payload.jsonMode),
    ("error_code", ofOption f.errorCode), ("malformed", bool f.malformed)]

def EnvironmentResourceSeed.dump (s : EnvironmentResourceSeed) : PyValue :=
  dict [("resource", str s.resource), ("adapter_name", str s.adapterName),
    ("adapter_version", str s.adapterVersion),
    ("records", list (s.records.map fun record => (dict record).jsonMode))]

def ConfigurationVersions.dump (c : ConfigurationVersions) : PyValue :=
  dict [("workflow", ofOption c.workflow), ("workflow_version", ofOption c.workflowVersion),
    ("routing_instructions_version", ofOption c.routingInstructionsVersion),
    ("answer_instructions_version", ofOption c.answerInstructionsVersion),
    ("model_provider", ofOption c.modelProvider), ("model_name", ofOption c.modelName),
    ("policy_version", ofOption c.policyVersion), ("tool_versions", dumpTexts c.toolVersions),
    ("configuration_version", ofOption c.configurationVersion)]

def CoverageInfo.dump (c : CoverageInfo) : PyValue :=
  dict [("covered", ofTexts c.covered), ("missing", ofTexts c.missing)]

def RedactionDecision.dump (r : RedactionDecision) : PyValue :=
  dict [("field", str r.field), ("reason", str r.reason)]

def BundleRequest.dump (r : BundleRequest) : PyValue :=
  dict [("customer_id", str r.customerId.str), ("message", str r.message),
    ("refund_confirmed", bool r.refundConfirmed)]

def BundleScenario.dump (s : BundleScenario) : PyValue :=
  dict [("scenario_id", str s.scenarioId), ("source_schema_version", str s.sourceSchemaVersion),
    ("source_content_hash", str s.sourceContentHash.text), ("category", str s.category.value),
    ("request", s.request.dump), ("workflow_context", s.workflowContext.dump),
    ("eligible_actions", ofTexts s.eligibleActions),
    ("required_dependency_coverage",
      list (s.requiredDependencyCoverage.map DependencyCoverageRequirement.dump))]

/-- The typed metadata: the dump without identity, seeds, fixtures and fault script. -/
def SimulationBundle.metadataFields (b : SimulationBundle) : Record :=
  [("schema_version", str b.schemaVersion), ("scenario", b.scenario.dump),
    ("evidence_ref", b.evidenceRef.elim none TraceSourceRef.dump),
    ("evidence_content_hash", ofOption (b.evidenceContentHash.map (·.text))),
    ("expected_behavior", b.expectedBehavior.dump),
    ("configuration_versions", b.configurationVersions.dump),
    ("adapter_versions", dumpTexts b.adapterVersions), ("coverage", b.coverage.dump),
    ("redaction_decisions", list (b.redactionDecisions.map RedactionDecision.dump)),
    ("review", b.review.dump)]

/-- `bundle.model_dump(mode="json", exclude={"bundle_id", "content_hash"})` -/
def SimulationBundle.dump (b : SimulationBundle) : PyValue :=
  dict (b.metadataFields ++
    [("resource_seeds", list (b.resourceSeeds.map EnvironmentResourceSeed.dump)),
      ("dependency_fixtures", list (b.dependencyFixtures.map fun f => dict f.dumpFields)),
      ("fault_script", b.faultScript.elim none FaultScript.dump)])

end Dumps

/-! ## Identity -/

section Identity

variable [HashFunctions]

/-- The stable hash of a bundle, which excludes the derived identifier and the stored hash. -/
def computeBundleHash (bundle : SimulationBundle) : HexDigest :=
  HashFunctions.jsonSha256 bundle.dump

def bundleIdNamespace : Uuid :=
  (Uuid.parse "7e0c9d8b-4f6a-4b3e-9d1c-2e8f4a6b0d5c").get (by decide +kernel)

/-- The bundle identifier that a content hash determines. -/
def derivedBundleId (contentHash : HexDigest) : Uuid :=
  HashFunctions.uuid5 bundleIdNamespace ("bundle:" ++ contentHash.text)

/-- The bundle with the identity that its content determines. -/
def SimulationBundle.withIdentity (b : SimulationBundle) : SimulationBundle :=
  { b with
    contentHash := some (computeBundleHash b)
    bundleId := some (derivedBundleId (computeBundleHash b)) }

@[simp] theorem SimulationBundle.dump_withIdentity (b : SimulationBundle) :
    b.withIdentity.dump = b.dump := rfl

@[simp] theorem computeBundleHash_withIdentity (b : SimulationBundle) :
    computeBundleHash b.withIdentity = computeBundleHash b := rfl

/-- Derive the identity, or reject a supplied one that does not match. -/
def ensureBundleIdentity (b : SimulationBundle) : Raises SimulationBundle := do
  raiseIf (b.contentHash.any (· ≠ computeBundleHash b))
    (.validation "SimulationBundle" "content hash does not match the bundle content")
  raiseIf (b.bundleId.any (· ≠ derivedBundleId (computeBundleHash b)))
    (.validation "SimulationBundle" "bundle id does not match the bundle content hash")
  .ok b.withIdentity

theorem ensureBundleIdentity_eq_ok {b r : SimulationBundle} :
    ensureBundleIdentity b = .ok r ↔
      (∀ h ∈ b.contentHash, h = computeBundleHash b) ∧
        (∀ i ∈ b.bundleId, i = derivedBundleId (computeBundleHash b)) ∧ b.withIdentity = r := by
  rw [ensureBundleIdentity, check_bind_eq_ok, check_bind_eq_ok]
  cases hc : b.contentHash <;> cases hi : b.bundleId <;> simp

theorem SimulationBundle.withIdentity_idem (b : SimulationBundle) :
    b.withIdentity.withIdentity = b.withIdentity := rfl

end Identity

/-! ## Validators -/

/-- Append the records of one seed to its group. -/
def groupSeed (grouped : List (String × List Record)) (seed : EnvironmentResourceSeed) :
    List (String × List Record) :=
  if grouped.any (·.1 = seed.resource) then
    grouped.map fun entry =>
      if entry.1 = seed.resource then (entry.1, entry.2 ++ seed.records) else entry
  else grouped ++ [(seed.resource, seed.records)]

/-- The seed records grouped by resource type, in order of first appearance. -/
def resourcesByType (b : SimulationBundle) : List (String × List Record) :=
  b.resourceSeeds.foldl groupSeed []

/-- Every tool that the requirements declare, sorted. -/
def declaredTools (requirements : List DependencyCoverageRequirement) : List String :=
  sortedSet (requirements.flatMap (·.tools))

/-- Every dependency that the requirements declare, sorted. -/
def declaredDependencies (requirements : List DependencyCoverageRequirement) : List String :=
  sortedSet (requirements.map (·.dependency))

section Validators

variable [UnicodeTables] [FloatRepr]

/-- Scan every seed, fixture and fault script, and the metadata, before accepting a bundle. -/
def validateBundleContent (b : SimulationBundle) : Raises Unit := do
  scanBundleContent (resourcesByType b) (b.dependencyFixtures.map (·.dumpFields)) []
  validateFaultScript b.faultScript (declaredTools b.scenario.requiredDependencyCoverage)
    (declaredDependencies b.scenario.requiredDependencyCoverage) []
  validateMetadataContent "bundle metadata" (.dict b.metadataFields)

/-- Reject bundles whose review is not approved. -/
def validateReviewState (b : SimulationBundle) : Raises Unit :=
  raiseIf (b.review.status ≠ .approved)
    (.validation "SimulationBundle" "only an approved review may produce an accepted bundle")

omit [UnicodeTables] [FloatRepr] in
theorem validateReviewState_eq_ok {b : SimulationBundle} :
    validateReviewState b = .ok () ↔ b.review.status = .approved := by
  rw [validateReviewState, raiseIf_eq_ok, decide_eq_false_iff_not, not_not]

variable [HashFunctions]

/-- The model validators of a bundle, in their order. -/
def SimulationBundle.validate (b : SimulationBundle) : Raises SimulationBundle := do
  validateBundleContent b
  let identified ← ensureBundleIdentity b
  validateReviewState identified
  .ok identified

/-- **What an accepted bundle satisfies**: its content was scanned, a supplied identity is the
derived one, and its review is approved. -/
theorem SimulationBundle.validate_eq_ok {b r : SimulationBundle} :
    b.validate = .ok r ↔ validateBundleContent b = .ok () ∧
      (∀ h ∈ b.contentHash, h = computeBundleHash b) ∧
      (∀ i ∈ b.bundleId, i = derivedBundleId (computeBundleHash b)) ∧
      b.review.status = .approved ∧ b.withIdentity = r := by
  rw [SimulationBundle.validate, check_bind_eq_ok, bind_eq_ok]
  constructor
  · rintro ⟨hscan, identified, hid, hrest⟩
    rw [check_bind_eq_ok] at hrest
    obtain ⟨hreview, hr⟩ := hrest
    obtain ⟨hhash, hbid, rfl⟩ := ensureBundleIdentity_eq_ok.mp hid
    exact ⟨hscan, hhash, hbid, validateReviewState_eq_ok.mp hreview, Except.ok.inj hr⟩
  · rintro ⟨hscan, hhash, hbid, hreview, hr⟩
    refine ⟨hscan, b.withIdentity, ensureBundleIdentity_eq_ok.mpr ⟨hhash, hbid, rfl⟩, ?_⟩
    rw [check_bind_eq_ok]
    exact ⟨validateReviewState_eq_ok.mpr hreview, by rw [hr]⟩

/-- A bundle with its derived identity is accepted when its content and its review are. -/
theorem SimulationBundle.validate_withIdentity {b : SimulationBundle}
    (hscan : validateBundleContent b = .ok ()) (hreview : b.review.status = .approved) :
    b.withIdentity.validate = .ok b.withIdentity := by
  refine SimulationBundle.validate_eq_ok.mpr ⟨hscan, ?_, ?_, hreview, b.withIdentity_idem⟩
  · intro d hd
    exact (Option.some.inj hd).symm
  · intro i hi
    exact (Option.some.inj hi).symm

end Validators

/-! ## A small bundle -/

section Small

theorem validMessage_refund : lengthWithin 1 2000 "refund" = true := by decide

theorem validMessage_help : lengthWithin 1 2000 "help" = true := by decide

/-- A bundle without seeds, fixtures or faults, as a reviewer approves it. -/
def smallBundle (scenarioId message : String) (h : lengthWithin 1 2000 message = true) :
    SimulationBundle where
  scenario :=
    { scenarioId := scenarioId
      sourceSchemaVersion := "1.0.0"
      sourceContentHash := .repeated 0
      category := .answerFailure
      request := { customerId := .repeated 1, message := message, messageLength := h }
      workflowContext := { workflow := "support", workflowVersion := "1" }
      eligibleActions := ["get_order_status"] }
  expectedBehavior :=
    { outcome := .completed, reasonCodes := [.refundProposed],
      policyVersionLength := optionWithin_none }
  review :=
    { status := .approved, reviewer := "ada", reviewedAt := "2026-01-01", reason := "reviewed" }

attribute [local instance] asciiTables

/-- A small bundle is accepted when its identifier and its message are safe. -/
theorem validateBundleContent_smallBundle [FloatRepr] {scenarioId message : String}
    {hlength : lengthWithin 1 2000 message = true} (hid : isSafeText scenarioId = true)
    (hmessage : isSafeText message = true) :
    validateBundleContent (smallBundle scenarioId message hlength) = .ok () := by
  rw [validateBundleContent, check_bind_eq_ok, check_bind_eq_ok]
  refine ⟨rfl, rfl, (validateMetadataContent_eq_ok _ _).mpr ⟨rfl, ?_⟩⟩
  have htexts : (PyValue.dict (smallBundle scenarioId message hlength).metadataFields).texts =
      ["1.0.0", scenarioId, "1.0.0", (HexDigest.repeated 0).text, "answer_failure",
        (Uuid.repeated 1).str, message, "support", "1", "local", "get_order_status", "completed",
        "refund_proposed", "approved", "ada", "2026-01-01", "reviewed"] := rfl
  rw [htexts]
  simp only [List.forall_mem_cons, List.not_mem_nil, false_imp_iff, implies_true, and_true,
    hid, hmessage, isSafeText_str, true_and]
  and_intros
  all_goals exact isSafeText_of_chars (by decide)

end Small

/-! ## Constructors -/

section Constructors

variable [UnicodeTables]

/-- `ReviewDecision(...)` -/
def ReviewDecision.new (r : ReviewDecision) : Raises ReviewDecision := do
  checkField (lengthWithin 1 200 r.reviewer) "ReviewDecision" "reviewer"
  checkField (lengthWithin 1 100 r.reviewedAt) "ReviewDecision" "reviewed_at"
  checkField (lengthWithin 1 1000 r.reason) "ReviewDecision" "reason"
  checkField (optionWithin 2000 r.sourceEvidence) "ReviewDecision" "source_evidence"
  .ok r

/-- `ConfigurationVersions(...)` -/
def ConfigurationVersions.new (c : ConfigurationVersions) : Raises ConfigurationVersions := do
  checkField (optionWithin 100 c.workflow) "ConfigurationVersions" "workflow"
  checkField (optionWithin 50 c.workflowVersion) "ConfigurationVersions" "workflow_version"
  checkField (optionWithin 50 c.routingInstructionsVersion) "ConfigurationVersions"
    "routing_instructions_version"
  checkField (optionWithin 50 c.answerInstructionsVersion) "ConfigurationVersions"
    "answer_instructions_version"
  checkField (optionWithin 100 c.modelProvider) "ConfigurationVersions" "model_provider"
  checkField (optionWithin 200 c.modelName) "ConfigurationVersions" "model_name"
  checkField (optionWithin 50 c.policyVersion) "ConfigurationVersions" "policy_version"
  checkField (optionWithin 50 c.configurationVersion) "ConfigurationVersions"
    "configuration_version"
  .ok c

/-- `BundleRequest(...)` -/
def BundleRequest.new (customerId : Uuid) (message : String) (refundConfirmed : Bool) :
    Raises BundleRequest :=
  if h : lengthWithin 1 2000 message = true then .ok ⟨customerId, message, refundConfirmed, h⟩
  else .error (.validation "BundleRequest" "message")

/-- `BundleScenario(...)` -/
def BundleScenario.new (s : BundleScenario) : Raises BundleScenario := do
  checkField (isScenarioId s.scenarioId) "BundleScenario" "scenario_id"
  checkField (matchesVersion s.sourceSchemaVersion) "BundleScenario" "source_schema_version"
  .ok s

/-- `EnvironmentResourceSeed(...)` -/
def EnvironmentResourceSeed.new [FloatRepr] (s : EnvironmentResourceSeed) :
    Raises EnvironmentResourceSeed := do
  checkField (s.resource ∈ ["customer", "order", "ticket", "policy"]) "EnvironmentResourceSeed"
    "resource"
  checkField (lengthWithin 1 200 s.adapterName) "EnvironmentResourceSeed" "adapter_name"
  checkField (lengthWithin 1 50 s.adapterVersion) "EnvironmentResourceSeed" "adapter_version"
  forM s.records fun record => validateResourceSeed s.resource record []
  .ok s

end Constructors

end ObservabilityLab
