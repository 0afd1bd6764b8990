import ObservabilityLab.Bundle.Schemas

/-!
# Regression cases

The permanent record of one accepted bundle: a case has a stable identifier and immutable versions.
A case that is read back carries the proof that its provenance is that of its bundle.

## Main definitions

* `CaseSourceType`, `SaveStatus`: why a case entered the library, and what a save did
* `RegressionCase`, `RegressionCase.new`: one version of a saved case, and its validation
-/

namespace ObservabilityLab

open Python

inductive CaseSourceType where
  | incident | suspiciousSuccess | designedEdgeCase | modelComparison
deriving DecidableEq

def CaseSourceType.value : CaseSourceType → String
  | incident => "incident"
  | suspiciousSuccess => "suspicious_success"
  | designedEdgeCase => "designed_edge_case"
  | modelComparison => "model_comparison"

def CaseSourceType.all : List CaseSourceType :=
  [incident, suspiciousSuccess, designedEdgeCase, modelComparison]

/-- `CaseSourceType(text)`, when the text is a value. -/
def CaseSourceType.ofValue (text : String) : Option CaseSourceType :=
  CaseSourceType.all.find? (·.value = text)

@[simp] theorem CaseSourceType.ofValue_value (t : CaseSourceType) : ofValue t.value = some t := by
  cases t <;> decide +kernel

/-- What one save did: `CaseSaveStatus` and `SuiteSaveStatus`. -/
inductive SaveStatus where
  | created | unchanged | updated
deriving DecidableEq

/-- An instant, as its `isoformat` text. -/
structure Timestamp where
  isoformat : String
  length : lengthWithin 1 100 isoformat = true

/-- One day. -/
def smallTimestamp : Timestamp := ⟨"2026-08-08", by decide +kernel⟩

/-- The outcome of one case save. -/
structure CaseSaveResult where
  status : SaveStatus
  caseId : Uuid
  caseVersion : ℕ
  bundleContentHash : HexDigest
deriving DecidableEq

/-- One exact version of a saved case, whose provenance is that of its bundle. -/
structure RegressionCase where
  schemaVersion : String := "1.0.0"
  caseId : Uuid
  caseVersion : ℕ
  sourceType : CaseSourceType
  scenarioId : String
  bundle : SimulationBundle
  bundleContentHash : HexDigest
  evidenceRef : Option TraceSourceRef
  evidenceContentHash : Option HexDigest
  configurationVersions : ConfigurationVersions
  createdAt : Timestamp
  versionPositive : 1 ≤ caseVersion
  hashMatches : bundle.contentHash = some bundleContentHash
  evidenceRefMatches : evidenceRef = bundle.evidenceRef
  evidenceHashMatches : evidenceContentHash = bundle.evidenceContentHash
  versionsMatch : configurationVersions = bundle.configurationVersions
  scenarioMatches : scenarioId = bundle.scenario.scenarioId

/-- `RegressionCase(...)`, with its `validate_provenance` -/
def RegressionCase.new (caseId : Uuid) (caseVersion : ℕ) (sourceType : CaseSourceType)
    (scenarioId : String) (bundle : SimulationBundle) (bundleContentHash : HexDigest)
    (evidenceRef : Option TraceSourceRef) (evidenceContentHash : Option HexDigest)
    (configurationVersions : ConfigurationVersions) (createdAt : Timestamp) :
    Raises RegressionCase :=
  if hversion : ¬ 1 ≤ caseVersion then .error (.validation "RegressionCase" "case_version")
  else if hhash : bundle.contentHash ≠ some bundleContentHash then
    .error (.validation "RegressionCase"
      "case bundle hash must match the stored bundle content hash")
  else if href : evidenceRef ≠ bundle.evidenceRef then
    .error (.validation "RegressionCase"
      "case evidence link must match the stored bundle evidence link")
  else if hevidence : evidenceContentHash ≠ bundle.evidenceContentHash then
    .error (.validation "RegressionCase"
      "case evidence hash must match the stored bundle evidence hash")
  else if hversions : configurationVersions ≠ bundle.configurationVersions then
    .error (.validation "RegressionCase"
      "case configuration versions must match the stored bundle configuration versions")
  else if hscenario : scenarioId ≠ bundle.scenario.scenarioId then
    .error (.validation "RegressionCase"
      "case scenario id must match the stored bundle scenario id")
  else .ok
    { caseId, caseVersion, sourceType, scenarioId, bundle, bundleContentHash, evidenceRef,
      evidenceContentHash, configurationVersions, createdAt,
      versionPositive := one_le_of_check hversion
      hashMatches := not_not.mp hhash
      evidenceRefMatches := not_not.mp href
      evidenceHashMatches := not_not.mp hevidence
      versionsMatch := not_not.mp hversions
      scenarioMatches := not_not.mp hscenario }

/-- A case with the provenance of its bundle is valid. -/
theorem RegressionCase.exists_new {caseId : Uuid} {caseVersion : ℕ} {sourceType : CaseSourceType}
    {scenarioId : String} {bundle : SimulationBundle} {bundleContentHash : HexDigest}
    {createdAt : Timestamp} (hversion : 1 ≤ caseVersion)
    (hhash : bundle.contentHash = some bundleContentHash)
    (hscenario : scenarioId = bundle.scenario.scenarioId) :
    ∃ case, RegressionCase.new caseId caseVersion sourceType scenarioId bundle bundleContentHash
        bundle.evidenceRef bundle.evidenceContentHash bundle.configurationVersions createdAt =
          .ok case ∧
      case.bundle = bundle := by
  rw [RegressionCase.new, dif_neg (not_not.mpr hversion), dif_neg (not_not.mpr hhash),
    dif_neg (not_not.mpr rfl), dif_neg (not_not.mpr rfl), dif_neg (not_not.mpr rfl),
    dif_neg (not_not.mpr hscenario)]
  exact ⟨_, rfl, rfl⟩

end ObservabilityLab
