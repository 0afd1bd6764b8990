import ObservabilityLab.Evidence.Trace

/-!
# Failure schemas

Predicted failures with their features and the events that they rest on, groups of them, the
proposals of groups to a reviewer, and the review of a proposal. What a schema requires of its
values is a field of the structure.

## Main definitions

* `FailureCandidate`: one predicted failure
* `FailureGroupResult`: what the grouping of candidates returns
* `FailureGroupProposal`, `FailureGroupReview`: a proposed group, and the decision of a reviewer
* `ConfirmedFailureGroup`: what only a confirmed or corrected proposal yields
-/

namespace ObservabilityLab

open Python

inductive FailureKind where
  | routing | retrieval | tool | generation | policy | infrastructure
deriving DecidableEq

def FailureKind.value : FailureKind → String
  | routing => "routing"
  | retrieval => "retrieval"
  | tool => "tool"
  | generation => "generation"
  | policy => "policy"
  | infrastructure => "infrastructure"

/-- The value of a feature: `bool | int | float | str`. -/
abbrev FeatureValue := Scalar

/-- The features of a candidate, by name. -/
abbrev Features := List (String × FeatureValue)

def featureSchemaVersion : String := "1.0.0"

def groupingAlgorithmVersion : String := "deterministic-dbscan-v1"

structure FailureCandidate where
  candidateId : Uuid
  evidenceId : Uuid
  source : TraceSourceRef
  predictedKind : FailureKind
  features : Features
  evidenceEventIds : List String
  feedbackIds : List String := []
  schemaVersion : String := featureSchemaVersion
  datasetVersion : Option ℕ := none
  hasEvents : evidenceEventIds ≠ []
  versionPositive : ∀ version ∈ datasetVersion, 1 ≤ version
deriving DecidableEq

/-- A candidate of no dataset version. -/
theorem versionPositive_none : ∀ version ∈ (none : Option ℕ), 1 ≤ version :=
  fun _ h => absurd h (Option.not_mem_none _)

/-- The parameters of a grouping: `configuration`. -/
structure GroupingConfiguration where
  epsilon : ℚ
  minSamples : ℤ
deriving DecidableEq

structure FailureGroupingMetrics where
  candidateCount : ℕ
  groupedCandidateCount : ℕ
  outlierCount : ℕ
  groupCount : ℕ
  coverage : PyFloat
deriving DecidableEq

/-- `FailureGroupingMetrics(...)`, whose coverage is at most one. -/
def FailureGroupingMetrics.new (metrics : FailureGroupingMetrics) :
    Raises FailureGroupingMetrics := do
  checkField ((0 : PyFloat).le metrics.coverage && metrics.coverage.le (.ofRat 1))
    "FailureGroupingMetrics" "coverage"
  return metrics

structure FailureGroupResult where
  algorithmVersion : String := groupingAlgorithmVersion
  datasetId : String
  datasetVersion : ℤ
  configuration : GroupingConfiguration
  groups : List (List FailureCandidate)
  outliers : List FailureCandidate
  stableGroupIds : List Uuid
  metrics : FailureGroupingMetrics
deriving DecidableEq

/-- `FailureGroupResult(...)`, whose dataset version is positive. -/
def FailureGroupResult.new (result : FailureGroupResult) : Raises FailureGroupResult := do
  checkField (1 ≤ result.datasetVersion) "FailureGroupResult" "dataset_version"
  return result

/-! ## Proposals and reviews -/

inductive ProposalStatus where
  | proposed | confirmed | corrected | rejected
deriving DecidableEq

def ProposalStatus.value : ProposalStatus → String
  | proposed => "proposed"
  | confirmed => "confirmed"
  | corrected => "corrected"
  | rejected => "rejected"

/-- `ReviewDecision` -/
inductive ProposalDecision where
  | confirm | correct | reject
deriving DecidableEq

def ProposalDecision.value : ProposalDecision → String
  | confirm => "confirm"
  | correct => "correct"
  | reject => "reject"

/-- The status that a decision gives a proposal. -/
def ProposalDecision.status : ProposalDecision → ProposalStatus
  | confirm => .confirmed
  | correct => .corrected
  | reject => .rejected

/-- `FailureKind(text)`, when the text is a value. -/
def FailureKind.ofValue (text : String) : Option FailureKind :=
  [routing, retrieval, tool, generation, policy, infrastructure].find? (·.value = text)

/-- `ProposalStatus(text)`, when the text is a value. -/
def ProposalStatus.ofValue (text : String) : Option ProposalStatus :=
  [proposed, confirmed, corrected, rejected].find? (·.value = text)

/-- `ReviewDecision(text)`, when the text is a value. -/
def ProposalDecision.ofValue (text : String) : Option ProposalDecision :=
  [confirm, correct, reject].find? (·.value = text)

theorem FailureKind.ofValue_value (kind : FailureKind) : ofValue kind.value = some kind := by
  cases kind <;> decide +kernel

theorem ProposalStatus.ofValue_value (status : ProposalStatus) :
    ofValue status.value = some status := by
  cases status <;> decide +kernel

theorem ProposalDecision.ofValue_value (decision : ProposalDecision) :
    ofValue decision.value = some decision := by
  cases decision <;> decide +kernel

/-- The events of the evidence that a group rests on, by the texts of the evidence ids. -/
abbrev EvidenceEvents := List (String × List String)

structure FailureGroupProposal where
  proposalId : Uuid
  groupId : Uuid
  proposalFingerprint : HexDigest
  datasetId : String
  datasetVersion : ℤ
  algorithmVersion : String
  predictedKind : FailureKind
  candidateIds : List Uuid
  evidenceIds : List Uuid
  evidenceEventIds : EvidenceEvents
  sharedFeatures : Features
  status : ProposalStatus := .proposed
  createdAt : DateTime
  reviewedAt : Option DateTime := none
  reviewedBy : Option String := none
  reviewReason : Option String := none
  correctedKind : Option FailureKind := none
deriving DecidableEq

/-- `validate_review` -/
def FailureGroupProposal.validateReview (proposal : FailureGroupProposal) : Raises Unit := do
  let error := PyError.validation "FailureGroupProposal"
  if proposal.status = .proposed then
    raiseIf (proposal.reviewedAt.isSome || proposal.reviewedBy.isSome ||
        proposal.correctedKind.isSome)
      (error "a proposed group cannot have review provenance")
  else
    raiseIf (proposal.reviewedBy.getD "" = "" || proposal.reviewedAt.isNone ||
        proposal.reviewReason.getD "" = "")
      (error "reviewed groups require reviewer, timestamp, and reason")
  raiseIf (proposal.status = .corrected && proposal.correctedKind.isNone)
    (error "corrected groups require a corrected failure kind")

/-- `FailureGroupProposal(...)` -/
def FailureGroupProposal.new (proposal : FailureGroupProposal) : Raises FailureGroupProposal := do
  checkField (lengthWithin 1 100 proposal.datasetId) "FailureGroupProposal" "dataset_id"
  checkField (1 ≤ proposal.datasetVersion) "FailureGroupProposal" "dataset_version"
  checkField (lengthWithin 1 100 proposal.algorithmVersion) "FailureGroupProposal"
    "algorithm_version"
  checkField (proposal.candidateIds ≠ []) "FailureGroupProposal" "candidate_ids"
  checkField (proposal.evidenceIds ≠ []) "FailureGroupProposal" "evidence_ids"
  proposal.validateReview
  return proposal

theorem FailureGroupProposal.eq_of_new {proposal result : FailureGroupProposal}
    (h : proposal.new = .ok result) : result = proposal := by
  simp only [new, check_bind_eq_ok] at h
  exact (Except.ok.inj h.2.2.2.2.2.2).symm

theorem FailureGroupProposal.validateReview_eq_ok {proposal : FailureGroupProposal} :
    proposal.validateReview = .ok () ↔
      (if proposal.status = .proposed then
        proposal.reviewedAt = none ∧ proposal.reviewedBy = none ∧ proposal.correctedKind = none
      else proposal.reviewedBy.getD "" ≠ "" ∧ proposal.reviewedAt ≠ none ∧
        proposal.reviewReason.getD "" ≠ "") ∧
      (proposal.status = .corrected → proposal.correctedKind ≠ none) := by
  unfold validateReview
  split_ifs with h
  · simp [check_bind_eq_ok, h, and_assoc]
  · simp [check_bind_eq_ok, and_assoc, Option.isSome_iff_ne_none]

structure FailureGroupReview where
  reviewId : Uuid
  proposalId : Uuid
  decision : ProposalDecision
  reviewer : String
  reason : String
  reviewedAt : DateTime
  correctedKind : Option FailureKind
  sourceEvidenceIds : List Uuid
  evidenceEventIds : EvidenceEvents
  algorithmVersion : String
deriving DecidableEq

/-- `FailureGroupReview(...)` -/
def FailureGroupReview.new (review : FailureGroupReview) : Raises FailureGroupReview := do
  checkField (lengthWithin 1 200 review.reviewer) "FailureGroupReview" "reviewer"
  checkField (lengthWithin 1 2000 review.reason) "FailureGroupReview" "reason"
  checkField (review.sourceEvidenceIds ≠ []) "FailureGroupReview" "source_evidence_ids"
  checkField (lengthWithin 1 100 review.algorithmVersion) "FailureGroupReview" "algorithm_version"
  let error := PyError.validation "FailureGroupReview"
  raiseIf (review.decision = .correct && review.correctedKind.isNone)
    (error "a correct decision requires a corrected failure kind")
  raiseIf (review.decision ≠ .correct && review.correctedKind.isSome)
    (error "only a correct decision may include a corrected failure kind")
  return review

theorem FailureGroupReview.eq_of_new {review result : FailureGroupReview}
    (h : review.new = .ok result) : result = review := by
  simp only [new, check_bind_eq_ok] at h
  exact (Except.ok.inj h.2.2.2.2.2.2).symm

/-- The group that may become a regression case. -/
structure ConfirmedFailureGroup where
  proposalId : Uuid
  groupId : Uuid
  failureKind : FailureKind
  evidenceIds : List Uuid
  evidenceEventIds : EvidenceEvents
  review : FailureGroupReview
  datasetId : String
  datasetVersion : ℤ
  algorithmVersion : String
deriving DecidableEq

/-- `ConfirmedFailureGroup(...)` -/
def ConfirmedFailureGroup.new (group : ConfirmedFailureGroup) : Raises ConfirmedFailureGroup := do
  checkField (group.evidenceIds ≠ []) "ConfirmedFailureGroup" "evidence_ids"
  return group

theorem ConfirmedFailureGroup.eq_of_new {group result : ConfirmedFailureGroup}
    (h : group.new = .ok result) : result = group := by
  simp only [new, check_bind_eq_ok] at h
  exact (Except.ok.inj h.2).symm

end ObservabilityLab
