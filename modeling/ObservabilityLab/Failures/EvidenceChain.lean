import ObservabilityLab.Bundle.Compiler
import ObservabilityLab.Failures.Features
import ObservabilityLab.Failures.FeedbackHistory
import ObservabilityLab.Failures.Partition
import ObservabilityLab.Failures.ReviewLifecycle

/-!
# From a failure to a bundle

The events that show a failure are handed on from the extraction of candidates over their grouping,
the proposals and their review to the compiler of bundles, which asks for every event in the trace.

## Main definitions

* `compileConfirmedFailureBundle`: a bundle of a confirmed group and one of its traces
* `Resolves`: evidence whose events are events of its trace
* `ProposesFrom`: a grouping of the candidates of some of the traces

## Main results

* `resolves_proposalsFromResult`: what is proposed rests on events of the traces
* `confirmed_evidence_resolves`: a confirmed group passes the checks of the compiler
-/

namespace ObservabilityLab

open Python Interleaving

/-! ## The compiler of confirmed failures -/

section Compiler

variable [UnicodeTables]

/-- The arguments of `compile_confirmed_failure_bundle` besides the group and the evidence. -/
structure ConfirmedArguments where
  scenario : SimulationScenario
  approvedRequestMessage : String
  correctedExpectedBehavior : Option ExpectedBehavior := none
  dependencyFixtures : List DependencyFixture := []
  faultScript : Option FaultScript := none
  adapterVersions : List (String × String) := []
  redactionDecisions : List RedactionDecision := []
  coverageItems : List CoverageItem := []
  forbiddenSubstrings : List String := []

/-- The checks of the evidence of a confirmed group. -/
def checkConfirmedEvidence (group : ConfirmedFailureGroup) (trace : NormalizedTrace)
    (scenarioId : String) : Raises Unit := do
  raiseIf (trace.evidenceId ∉ group.evidenceIds) (missingEvidenceError scenarioId
    (some "the confirmed failure group does not include this evidence"))
  let expectedEventIds := (group.evidenceEventIds.lookup trace.evidenceId.str).getD []
  let actualEventIds := trace.events.map (·.eventId)
  raiseIf (expectedEventIds.isEmpty || !expectedEventIds.all (· ∈ actualEventIds))
    (missingEvidenceError scenarioId
      (some "confirmed failure evidence events do not resolve in the source trace"))

/-- `compile_confirmed_failure_bundle(...)` -/
def compileConfirmedFailureBundle [HashFunctions] [FloatRepr] [DateTimeTexts]
    (group : ConfirmedFailureGroup) (trace : NormalizedTrace) (args : ConfirmedArguments) :
    Raises SimulationBundle := do
  checkConfirmedEvidence group trace args.scenario.scenarioId
  compileBundle
    { scenario := args.scenario
      evidence := some trace.evidence
      approvedRequestMessage := args.approvedRequestMessage
      reviewer := group.review.reviewer
      reviewedAt := DateTimeTexts.isoformat group.review.reviewedAt
      reason := group.review.reason
      reviewStatus := .approved
      sourceEvidence := some ("failure-group:" ++ group.groupId.str)
      correctedExpectedBehavior := args.correctedExpectedBehavior
      dependencyFixtures := args.dependencyFixtures
      faultScript := args.faultScript
      adapterVersions := args.adapterVersions
      redactionDecisions := args.redactionDecisions
      coverageItems := args.coverageItems
      forbiddenSubstrings := args.forbiddenSubstrings }

/-! ## Evidence that resolves -/

/-- **Every piece of evidence has events, which are events of its trace.** -/
def Resolves (traces : List NormalizedTrace) (evidenceIds : List Uuid) (events : EvidenceEvents) :
    Prop :=
  ∀ evidenceId ∈ evidenceIds, ∃ trace ∈ traces, trace.evidenceId = evidenceId ∧
    ∃ eventIds, events.lookup evidenceId.str = some eventIds ∧ eventIds ≠ [] ∧
      ∀ eventId ∈ eventIds, trace.HasEvent eventId

/-- The evidence identifiers of traces are distinct. -/
def DistinctEvidence (traces : List NormalizedTrace) : Prop :=
  (traces.map (·.evidenceId)).Nodup

/-- **Evidence that resolves passes the checks of the compiler.** -/
theorem Resolves.checkConfirmedEvidence {traces : List NormalizedTrace}
    {group : ConfirmedFailureGroup} (hdistinct : DistinctEvidence traces)
    (h : Resolves traces group.evidenceIds group.evidenceEventIds) {trace : NormalizedTrace}
    (htrace : trace ∈ traces) (hmember : trace.evidenceId ∈ group.evidenceIds)
    (scenarioId : String) : checkConfirmedEvidence group trace scenarioId = .ok () := by
  obtain ⟨other, hother, hid, eventIds, hlookup, hnonempty, hevents⟩ := h _ hmember
  obtain rfl : other = trace := List.inj_on_of_nodup_map hdistinct hother htrace hid
  unfold ObservabilityLab.checkConfirmedEvidence
  rw [check_bind_eq_ok, raiseIf_eq_ok, raiseIf_eq_ok, hlookup]
  refine ⟨decide_eq_false (not_not.mpr hmember), ?_⟩
  have hall : eventIds.all (· ∈ other.events.map (·.eventId)) = true :=
    List.all_eq_true.mpr fun eventId heventId => decide_eq_true (hevents eventId heventId)
  change (eventIds.isEmpty || !eventIds.all (· ∈ other.events.map (·.eventId))) = false
  rw [hall, Bool.not_true, Bool.or_false]
  exact List.isEmpty_eq_false_iff.mpr hnonempty

/-! ## From traces to proposals -/

variable [HashFunctions] [FloatRepr]

/-- **A grouping of the candidates of some of the traces**, with feedback on their own events. -/
def ProposesFrom (traces : List NormalizedTrace) (result : FailureGroupResult) : Prop :=
  ∃ (selected : List NormalizedTrace) (feedbackByTrace : List (String × List FeedbackAnnotation))
    (candidateVersion : Option ℤ) (candidates : List FailureCandidate) (datasetId : String)
    (datasetVersion : ℤ) (epsilon : ℚ) (minSamples : ℤ),
    selected ⊆ traces ∧
    (∀ trace ∈ selected, ∀ annotation ∈ feedbackOf feedbackByTrace trace.source.traceId,
      ∀ eventId ∈ annotation.eventId, trace.HasEvent eventId) ∧
    extractCandidates selected feedbackByTrace candidateVersion = .ok candidates ∧
    groupCandidates datasetId datasetVersion candidates epsilon minSamples = .ok result

/-- **What is proposed rests on events of the traces.** -/
theorem resolves_proposalsFromResult {traces : List NormalizedTrace} {result : FailureGroupResult}
    {createdAt : DateTime} {proposals : List FailureGroupProposal}
    (h : ProposesFrom traces result)
    (hproposals : proposalsFromResult result createdAt = .ok proposals)
    {proposal : FailureGroupProposal} (hproposal : proposal ∈ proposals) :
    Resolves traces proposal.evidenceIds proposal.evidenceEventIds := by
  obtain ⟨selected, feedbackByTrace, candidateVersion, candidates, datasetId, datasetVersion,
    epsilon, minSamples, hselected, hfeedback, hextract, hgroup⟩ := h
  obtain ⟨-, groupId, first, others, hmember, rfl⟩ :=
    of_mem_proposalsFromResult hproposals hproposal
  obtain ⟨-, -, hgroups, -⟩ := groupCandidates_eq_ok hgroup
  rw [hgroups] at hmember
  intro evidenceId hevidence
  obtain ⟨candidate, hcandidate, hid, hlookup⟩ := lookup_evidenceEvents hevidence
  have hcandidates : candidate ∈ candidates :=
    (mem_sortedByText _).mp (mem_of_mem_sortedClusters hmember hcandidate)
  obtain ⟨trace, htrace, htraceId, heventIds⟩ := of_mem_extractCandidates hextract hcandidates
  refine ⟨trace, hselected htrace, htraceId.symm.trans hid, candidate.evidenceEventIds, hlookup,
    candidate.hasEvents, ?_⟩
  rw [heventIds]
  intro eventId heventId
  exact hasEvent_of_mem_evidenceEventIds (hfeedback trace htrace) heventId

/-- **The evidence chain does not break.** Over every schedule of calls that propose groups of
candidates of the traces, review them and ask for confirmed ones: every piece of evidence of a
confirmed group is that of a trace, and the trace passes the checks of the compiler. -/
theorem confirmed_evidence_resolves {Id : Type} [DecidableEq Id] (traces : List NormalizedTrace)
    (hdistinct : DistinctEvidence traces) (calls : Id → ReviewCall) (lost : Id → Option ℕ)
    (hcalls : ∀ i result createdAt, calls i = .propose result createdAt →
      ProposesFrom traces result)
    (schedule : List Id) (i : Id) (proposalId : Uuid) (group : ConfirmedFailureGroup)
    (hcall : calls i = .require proposalId)
    (hgroup : ((reviewRun calls lost schedule).locals i).stage =
      .finished (.ok (.group group))) :
    ∀ evidenceId ∈ group.evidenceIds, ∃ trace ∈ traces, trace.evidenceId = evidenceId ∧
      ∀ scenarioId, checkConfirmedEvidence group trace scenarioId = .ok () := by
  have hmakes (j : Id) : (calls j).Makes fun proposal =>
      Resolves traces proposal.evidenceIds proposal.evidenceEventIds := by
    intro result createdAt proposals hpropose hproposals proposal hproposal
    exact resolves_proposalsFromResult (hcalls j result createdAt hpropose) hproposals hproposal
  obtain ⟨hsound, hknown⟩ := known_reviewRun lost hmakes schedule
  have hfinished := hknown i
  rw [hgroup] at hfinished
  obtain ⟨proposal, review, hstored, -, -, -, -, rfl⟩ := hfinished.2.2 proposalId group hcall rfl
  have hresolves : Resolves traces proposal.evidenceIds proposal.evidenceEventIds :=
    (hsound.of_stored hstored).2.1
  intro evidenceId hevidence
  obtain ⟨trace, htrace, rfl, -⟩ := hresolves evidenceId hevidence
  refine ⟨trace, htrace, rfl, fun scenarioId => ?_⟩
  have hgroup : Resolves traces (confirmedGroup proposal review).evidenceIds
      (confirmedGroup proposal review).evidenceEventIds := hresolves
  exact hgroup.checkConfirmedEvidence hdistinct htrace hevidence scenarioId

end Compiler

/-! ## A confirmed group of one trace -/

section Examples

attribute [local instance] asciiTables oneDecimalRepr constantHashes

/-- The candidate of the trace. -/
def candidateExample : FailureCandidate where
  candidateId := HashFunctions.uuid5 featureNamespace "failure"
  evidenceId := traceExample.evidenceId
  source := traceExample.source
  predictedKind := .generation
  features := [("retry_count", .int 0), ("escalated", .bool false),
    ("reason_code", .str "routing_failed")]
  evidenceEventIds := ["run-1"]
  hasEvents := List.cons_ne_nil _ _
  versionPositive := versionPositive_none

/-- The grouping of the candidate. -/
def groupingExample : FailureGroupResult where
  datasetId := "failures"
  datasetVersion := 1
  configuration := ⟨1 / 2, 1⟩
  groups := [[candidateExample]]
  outliers := []
  stableGroupIds := [stableGroupId "failures" 1 [candidateExample.candidateId]]
  metrics := ⟨1, 1, 0, 1, .ofRat 1⟩

theorem extractCandidates_example :
    extractCandidates [traceExample] [] none = .ok [candidateExample] := by decide +kernel

theorem groupCandidates_example :
    groupCandidates "failures" 1 [candidateExample] (1 / 2) 1 = .ok groupingExample := by
  decide +kernel

/-- The proposal of the group. -/
def proposalExample : FailureGroupProposal :=
  proposalOf groupingExample .epoch (stableGroupId "failures" 1 [candidateExample.candidateId])
    candidateExample []

/-- The review that confirms the proposal. -/
def confirmExample : ReviewArguments where
  proposalId := proposalExample.proposalId
  decision := .confirm
  reviewer := "reviewer"
  reason := "reproduced"
  reviewId := .repeated 0
  reviewedAt := .epoch

/-- A proposal, its review, and the request of the confirmed group. -/
def callsExample : ℕ → ReviewCall
  | 0 => .propose groupingExample .epoch
  | 1 => .review confirmExample
  | _ => .require proposalExample.proposalId

/-- The confirmed group. -/
def groupExample : ConfirmedFailureGroup :=
  confirmedGroup (confirmExample.reviewed proposalExample) (confirmExample.reviewOf proposalExample)

theorem stage_example :
    ((reviewRun callsExample (fun _ => none) [0, 0, 0, 0, 1, 1, 1, 1, 1, 2, 2, 2]).locals 2).stage =
      .finished (.ok (.group groupExample)) := by
  decide +kernel

theorem proposesFrom_example (i : ℕ) (result : FailureGroupResult) (createdAt : DateTime)
    (h : callsExample i = .propose result createdAt) : ProposesFrom [traceExample] result := by
  rcases i with _ | _ | i
  · obtain ⟨rfl, rfl⟩ := ReviewCall.propose.inj h
    refine ⟨[traceExample], [], none, [candidateExample], "failures", 1, 1 / 2, 1,
      List.Subset.refl _, ?_, extractCandidates_example, groupCandidates_example⟩
    intro trace _ annotation hannotation
    exact absurd hannotation List.not_mem_nil
  · cases h
  · cases h

theorem confirmed_evidence_resolves_example :
    ∃ trace ∈ [traceExample], trace.evidenceId = traceExample.evidenceId ∧
      ∀ scenarioId, checkConfirmedEvidence groupExample trace scenarioId = .ok () :=
  confirmed_evidence_resolves [traceExample] (List.nodup_singleton _) callsExample (fun _ => none)
    proposesFrom_example [0, 0, 0, 0, 1, 1, 1, 1, 1, 2, 2, 2] 2 proposalExample.proposalId
    groupExample rfl stage_example traceExample.evidenceId (by decide +kernel)

end Examples

end ObservabilityLab
