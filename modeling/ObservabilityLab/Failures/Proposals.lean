import ObservabilityLab.Failures.Grouping
import ObservabilityLab.Python.Mapping

/-!
# Proposals of groups

A group of candidates as a proposal to a reviewer: its evidence, the events that each piece of
evidence rests on, the features that the candidates share, and a fingerprint of all but the events.

## Main definitions

* `sharedFeatures`, `evidenceEvents`: what a group shares, and the events of its evidence
* `proposalOf`, `proposalsFromResult`: the proposal of a group, and of each group of a grouping

## Main results

* `of_mem_proposalsFromResult`: every proposal is that of a group, and valid
* `mem_evidenceEvents`: the events of a piece of evidence are those of a candidate
* `lookup_evidenceEvents`: every piece of evidence has its events
-/

namespace ObservabilityLab

open Python

/-- `{**shared}` with the features that a candidate has too -/
def keepShared (shared : Features) (candidate : FailureCandidate) : Features :=
  shared.filter fun entry => (candidate.features.lookup entry.1).any (·.eq entry.2)

/-- `_shared_features(group)`, of a group with a first member -/
def sharedFeatures (first : FailureCandidate) (others : List FailureCandidate) : Features :=
  (others.foldl keepShared first.features).insertionSort fun a b => a.1 ≤ b.1

/-- The events of the evidence of a group, by the texts of the evidence ids. -/
def evidenceEvents (group : List FailureCandidate) : EvidenceEvents :=
  (sortedByText (·.evidenceId) group).foldl
    (fun mapping candidate =>
      assignKey mapping candidate.evidenceId.str candidate.evidenceEventIds) []

section Proposals

variable [HashFunctions] (result : FailureGroupResult) (createdAt : DateTime)

/-- `sorted({candidate.evidence_id for candidate in group}, key=str)` -/
def groupEvidence (group : List FailureCandidate) : List Uuid :=
  sortedByText id (group.map (·.evidenceId)).dedup

/-- What the fingerprint of a proposal covers. -/
def proposalPayload (first : FailureCandidate) (others : List FailureCandidate) : PyValue :=
  let group := first :: others
  .dict
    [("dataset_id", .str result.datasetId), ("dataset_version", .int result.datasetVersion),
      ("algorithm_version", .str result.algorithmVersion),
      ("predicted_kind", .str first.predictedKind.value),
      ("candidate_ids", .ofTexts ((group.map (·.candidateId.str)).insertionSort (· ≤ ·))),
      ("evidence_ids", .ofTexts (((groupEvidence group).map (·.str)).insertionSort (· ≤ ·))),
      ("shared_features", Attributes.toPy (sharedFeatures first others))]

/-- The proposal of a group with a first member. -/
def proposalOf (groupId : Uuid) (first : FailureCandidate) (others : List FailureCandidate) :
    FailureGroupProposal :=
  let group := first :: others
  let fingerprint := HashFunctions.jsonSha256 (proposalPayload result first others)
  { proposalId := HashFunctions.uuid5 groupNamespace ("proposal:" ++ fingerprint.text)
    groupId := groupId
    proposalFingerprint := fingerprint
    datasetId := result.datasetId
    datasetVersion := result.datasetVersion
    algorithmVersion := result.algorithmVersion
    predictedKind := first.predictedKind
    candidateIds := sortedByText id (group.map (·.candidateId))
    evidenceIds := groupEvidence group
    evidenceEventIds := evidenceEvents group
    sharedFeatures := sharedFeatures first others
    createdAt := createdAt }

/-- The proposal of one group of a grouping. -/
def proposeGroup (entry : Uuid × List FailureCandidate) : Raises FailureGroupProposal :=
  match entry.2 with
  | [] => .error (.other "IndexError" "tuple index out of range")
  | first :: others => (proposalOf result createdAt entry.1 first others).new

/-- `proposals_from_result(result, created_at=created_at)` -/
def proposalsFromResult : Raises (List FailureGroupProposal) := do
  let proposals ← (result.stableGroupIds.zip result.groups).mapM (proposeGroup result createdAt)
  raiseIf (result.stableGroupIds.length ≠ result.groups.length)
    (.value "zip() argument 2 has another length than argument 1")
  return proposals

variable {result createdAt}

/-- **Every proposal of a grouping is that of one of its groups, and valid.** -/
theorem of_mem_proposalsFromResult {proposals : List FailureGroupProposal}
    {proposal : FailureGroupProposal} (h : proposalsFromResult result createdAt = .ok proposals)
    (hproposal : proposal ∈ proposals) :
    proposal.new = .ok proposal ∧ ∃ groupId first others, first :: others ∈ result.groups ∧
      proposal = proposalOf result createdAt groupId first others := by
  obtain ⟨saved, hsaved, hrest⟩ := bind_eq_ok.mp h
  obtain rfl : saved = proposals := Except.ok.inj (check_bind_eq_ok.mp hrest).2
  obtain ⟨⟨groupId, group⟩, hgroup, hnew⟩ := exists_of_mem_mapM hsaved hproposal
  cases group with
  | nil => cases hnew
  | cons first others =>
    obtain rfl := FailureGroupProposal.eq_of_new hnew
    exact ⟨hnew, groupId, first, others, (List.of_mem_zip hgroup).2, rfl⟩

end Proposals

/-! ## The events of a proposal -/

theorem mem_foldl_evidenceEvents {candidates : List FailureCandidate} {mapping : EvidenceEvents}
    {entry : String × List String}
    (h : entry ∈ candidates.foldl (fun mapping candidate =>
      assignKey mapping candidate.evidenceId.str candidate.evidenceEventIds) mapping) :
    entry ∈ mapping ∨ ∃ candidate ∈ candidates,
      entry = (candidate.evidenceId.str, candidate.evidenceEventIds) := by
  induction candidates generalizing mapping with
  | nil => exact Or.inl h
  | cons first candidates ih =>
    rcases ih h with hmapping | ⟨candidate, hcandidate, rfl⟩
    · rcases mem_assignKey hmapping with rfl | hmapping
      · exact Or.inr ⟨first, List.mem_cons_self .., rfl⟩
      · exact Or.inl hmapping
    · exact Or.inr ⟨candidate, List.mem_cons_of_mem _ hcandidate, rfl⟩

theorem key_mem_foldl_evidenceEvents {candidates : List FailureCandidate}
    {mapping : EvidenceEvents} {name : String} :
    name ∈ (candidates.foldl (fun mapping candidate =>
        assignKey mapping candidate.evidenceId.str candidate.evidenceEventIds) mapping).map (·.1) ↔
      name ∈ mapping.map (·.1) ∨ ∃ candidate ∈ candidates, candidate.evidenceId.str = name := by
  induction candidates generalizing mapping with
  | nil => simp
  | cons first candidates ih =>
    rw [List.foldl_cons, ih, key_mem_assignKey, List.exists_mem_cons_iff]
    tauto

section Events

variable {group : List FailureCandidate}

/-- **The events of a piece of evidence are those of a candidate of the group.** -/
theorem mem_evidenceEvents {entry : String × List String} (h : entry ∈ evidenceEvents group) :
    ∃ candidate ∈ group, entry = (candidate.evidenceId.str, candidate.evidenceEventIds) := by
  rcases mem_foldl_evidenceEvents h with hnone | ⟨candidate, hcandidate, heq⟩
  · exact absurd hnone List.not_mem_nil
  · exact ⟨candidate, (List.mem_insertionSort _).mp hcandidate, heq⟩

theorem mem_groupEvidence {evidenceId : Uuid} :
    evidenceId ∈ groupEvidence group ↔ ∃ candidate ∈ group, candidate.evidenceId = evidenceId := by
  rw [groupEvidence, sortedByText, List.mem_insertionSort, List.mem_dedup, List.mem_map]

/-- **Every piece of evidence of a group has the events of one of its candidates.** -/
theorem lookup_evidenceEvents {evidenceId : Uuid} (h : evidenceId ∈ groupEvidence group) :
    ∃ candidate ∈ group, candidate.evidenceId = evidenceId ∧
      (evidenceEvents group).lookup evidenceId.str = some candidate.evidenceEventIds := by
  obtain ⟨member, hmember, rfl⟩ := mem_groupEvidence.mp h
  have hkey : member.evidenceId.str ∈ (evidenceEvents group).map (·.1) :=
    key_mem_foldl_evidenceEvents.mpr
      (Or.inr ⟨member, (List.mem_insertionSort _).mpr hmember, rfl⟩)
  cases hlookup : (evidenceEvents group).lookup member.evidenceId.str with
  | none =>
    obtain ⟨entry, hentry, hname⟩ := List.mem_map.mp hkey
    have hne := List.lookup_eq_none_iff.mp hlookup entry hentry
    rw [bne_iff_ne] at hne
    exact absurd hname.symm hne
  | some events =>
    obtain ⟨before, after, hsplit, -⟩ := List.lookup_eq_some_iff.mp hlookup
    have hentry : (member.evidenceId.str, events) ∈ evidenceEvents group := by
      rw [hsplit]
      exact List.mem_append_cons_self
    obtain ⟨candidate, hcandidate, heq⟩ := mem_evidenceEvents hentry
    obtain ⟨hid, rfl⟩ := Prod.mk.inj heq
    exact ⟨candidate, hcandidate, (Uuid.str_injective hid).symm, rfl⟩

end Events

end ObservabilityLab
