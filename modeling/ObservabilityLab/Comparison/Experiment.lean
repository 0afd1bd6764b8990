import ObservabilityLab.Simulation.RunBundle
import ObservabilityLab.Suite.Schemas

/-!
# One-variable experiments

An experiment compares the deployed configuration of a bundle with one declared change. Only the
fields of the declared dimension may differ, at least one of them does, and a field that differs is
set on both sides.

## Main definitions

* `VersionField`, `versionDifference`: the fields of a configuration, and those that differ
* `ConfigurationSet`: a baseline and a candidate that differ in the declared dimension
* `validateBaselineMatchesBundle`: the baseline is the deployed configuration

## Main results

* `validateOneVariable_eq_ok`: which pairs of configurations are one-variable changes
-/

namespace ObservabilityLab

open Python

/-! ## The fields of a configuration -/

/-- The fields that an experiment compares. -/
inductive VersionField where
  | answerInstructionsVersion | configurationVersion | modelName | modelProvider | policyVersion
  | routingInstructionsVersion | toolVersions | workflow | workflowVersion
deriving DecidableEq

namespace VersionField

def name : VersionField → String
  | answerInstructionsVersion => "answer_instructions_version"
  | configurationVersion => "configuration_version"
  | modelName => "model_name"
  | modelProvider => "model_provider"
  | policyVersion => "policy_version"
  | routingInstructionsVersion => "routing_instructions_version"
  | toolVersions => "tool_versions"
  | workflow => "workflow"
  | workflowVersion => "workflow_version"

/-- The fields in the order of their names, in which a set of fields is sorted. -/
def all : List VersionField :=
  [answerInstructionsVersion, configurationVersion, modelName, modelProvider, policyVersion,
    routingInstructionsVersion, toolVersions, workflow, workflowVersion]

theorem mem_all (field : VersionField) : field ∈ all := by
  cases field <;> decide

/-- Two dictionaries of texts are equal, whatever the order of their keys. -/
def sameTexts (a b : List (String × String)) : Bool :=
  ((a ++ b).map Prod.fst).all fun key => a.lookup key = b.lookup key

/-- `getattr(baseline, field) != getattr(candidate, field)` -/
def differs (baseline candidate : ConfigurationVersions) : VersionField → Bool
  | answerInstructionsVersion =>
    baseline.answerInstructionsVersion ≠ candidate.answerInstructionsVersion
  | configurationVersion => baseline.configurationVersion ≠ candidate.configurationVersion
  | modelName => baseline.modelName ≠ candidate.modelName
  | modelProvider => baseline.modelProvider ≠ candidate.modelProvider
  | policyVersion => baseline.policyVersion ≠ candidate.policyVersion
  | routingInstructionsVersion =>
    baseline.routingInstructionsVersion ≠ candidate.routingInstructionsVersion
  | toolVersions => !sameTexts baseline.toolVersions candidate.toolVersions
  | workflow => baseline.workflow ≠ candidate.workflow
  | workflowVersion => baseline.workflowVersion ≠ candidate.workflowVersion

/-- `getattr(versions, field) is None`; the tool versions are never `None`. -/
def isNone (versions : ConfigurationVersions) : VersionField → Bool
  | answerInstructionsVersion => versions.answerInstructionsVersion.isNone
  | configurationVersion => versions.configurationVersion.isNone
  | modelName => versions.modelName.isNone
  | modelProvider => versions.modelProvider.isNone
  | policyVersion => versions.policyVersion.isNone
  | routingInstructionsVersion => versions.routingInstructionsVersion.isNone
  | toolVersions => false
  | workflow => versions.workflow.isNone
  | workflowVersion => versions.workflowVersion.isNone

end VersionField

/-- `_difference(baseline, candidate)` -/
def versionDifference (baseline candidate : ConfigurationVersions) : List VersionField :=
  VersionField.all.filter (·.differs baseline candidate)

theorem mem_versionDifference {baseline candidate : ConfigurationVersions} {field : VersionField} :
    field ∈ versionDifference baseline candidate ↔ field.differs baseline candidate = true := by
  rw [versionDifference, List.mem_filter]
  exact and_iff_right field.mem_all

/-! ## The contract -/

def ConfigurationChangeType.value : ConfigurationChangeType → String
  | model => "model"
  | prompt => "prompt"
  | retrieval => "retrieval"
  | tools => "tools"
  | workflow => "workflow"
  | routing => "routing"
  | policy => "policy"

/-- `CHANGE_DIMENSIONS` -/
def changeDimension : ConfigurationChangeType → List VersionField
  | .model => [.modelProvider, .modelName]
  | .prompt => [.answerInstructionsVersion]
  | .routing => [.routingInstructionsVersion]
  | .workflow => [.workflow, .workflowVersion, .configurationVersion]
  | .tools => [.toolVersions]
  | .retrieval => [.policyVersion]
  | .policy => [.policyVersion]

section Contract

variable [UnicodeTables]

/-- `validate_one_variable`; an `ExperimentError` is a `ValueError`. -/
def validateOneVariable (changeType : ConfigurationChangeType)
    (baseline candidate : ConfigurationVersions) : Raises Unit := do
  let dimension := changeDimension changeType
  let difference := versionDifference baseline candidate
  let hidden := difference.filter (· ∉ dimension)
  raiseIf (hidden ≠ []) (.value ("hidden change: fields " ++
    reprList (hidden.map fun field => reprText field.name) ++
    " differ but the declared change dimension is " ++ reprText changeType.value))
  let changed := difference.filter (· ∈ dimension)
  raiseIf (changed = []) (.value ("no change in the declared dimension " ++
    reprText changeType.value ++ ": baseline and candidate are identical"))
  forM changed fun field =>
    raiseIf (field.isNone baseline || field.isNone candidate) (.value ("missing version: field " ++
      reprText field.name ++ " must be set on both baseline and candidate"))

/-- **A one-variable change** differs in the declared dimension only, differs there, and is set on
both sides where it differs. -/
theorem validateOneVariable_eq_ok {changeType : ConfigurationChangeType}
    {baseline candidate : ConfigurationVersions} :
    validateOneVariable changeType baseline candidate = .ok () ↔
      (∀ field : VersionField, field.differs baseline candidate = true →
          field ∈ changeDimension changeType) ∧
        (∃ field : VersionField, field.differs baseline candidate = true) ∧
        ∀ field : VersionField, field.differs baseline candidate = true →
          field.isNone baseline = false ∧ field.isNone candidate = false := by
  unfold validateOneVariable
  rw [check_bind_eq_ok, check_bind_eq_ok, forM_eq_ok]
  simp only [raiseIf_eq_ok, decide_eq_false_iff_not, not_not, Bool.or_eq_false_iff,
    List.filter_eq_nil_iff, List.mem_filter, mem_versionDifference, decide_eq_true_eq]
  refine and_congr_right fun hdimension => and_congr ?_ ?_
  · constructor
    · intro hsome
      by_contra hnone
      exact hsome fun field hdiffers => absurd ⟨field, hdiffers⟩ hnone
    · rintro ⟨field, hdiffers⟩ hnone
      exact hnone field hdiffers (hdimension field hdiffers)
  · exact forall_congr' fun field => ⟨fun h hdiffers => h ⟨hdiffers, hdimension field hdiffers⟩,
      fun h hfield => h hfield.1⟩

/-- A baseline and a candidate, of which the candidate is one declared change. -/
structure ConfigurationSet where
  schemaVersion : String := "1.0.0"
  bundleId : Uuid
  changeType : ConfigurationChangeType
  baseline : ConfigurationVersions
  candidate : ConfigurationVersions
  oneVariable : validateOneVariable changeType baseline candidate = .ok ()

/-- `ConfigurationSet(...)`, with its `validate_one_variable` -/
def ConfigurationSet.new [ValidationTexts] (bundleId : Uuid)
    (changeType : ConfigurationChangeType) (baseline candidate : ConfigurationVersions) :
    Raises ConfigurationSet :=
  match hcheck : validateOneVariable changeType baseline candidate with
  | .ok () => .ok { bundleId, changeType, baseline, candidate, oneVariable := hcheck }
  | .error e => .error (.validation "ConfigurationSet" e.str)

/-- The baseline of an experiment is the configuration that the bundle records. -/
def validateBaselineMatchesBundle (experiment : ConfigurationSet) (bundle : SimulationBundle) :
    Raises Unit := do
  raiseIf (bundle.bundleId ≠ some experiment.bundleId) (.value ("experiment bundle " ++
    experiment.bundleId.str ++ " does not match bundle " ++ bundle.bundleId.elim "None" Uuid.str))
  raiseIf (versionDifference experiment.baseline bundle.configurationVersions ≠ [])
    (.value ("baseline configuration differs from the configuration recorded on " ++
      "the bundle; the baseline must be the deployed configuration"))

end Contract

end ObservabilityLab
