import ObservabilityLab.Failures.Feedback
import ObservabilityLab.Failures.Grouping

/-!
# Failure features

One trace with its feedback as a failure candidate: ordered rules give its kind and the events that
show it, and its features are read from the events. A trace of an accepted success is no candidate.

## Main definitions

* `acceptedSuccess`: a completed trace without a failure signal
* `kindAndEvents`: the kind of a failure and the events that show it
* `extractFailureCandidate`, `extractCandidates`: the candidate of a trace, and those of many

## Main results

* `hasEvent_of_mem_evidenceEventIds`: the events of a candidate are events of its trace
* `of_mem_extractCandidates`: every candidate is that of one of the traces
-/

namespace ObservabilityLab

open Python

def featureNamespace : Uuid :=
  (Uuid.parse "f58b8d61-8c80-46d7-9db7-8f5d10d3ed35").get (by decide +kernel)

def acceptedSuccessReasons : List String := ["ok", "order_status_ok", "policy_answer"]

/-- `text.startswith(head)` -/
def hasPrefix (head text : String) : Bool := head.toList.isPrefixOf text.toList

/-- The truth of an optional text. -/
def isGiven (text : Option String) : Bool := text.any (· ≠ "")

section Rules

variable [UnicodeTables]

namespace NormalizedTrace

variable (trace : NormalizedTrace)

theorem events_ne_nil : trace.events ≠ [] := by
  have hchecked := trace.checked
  simp only [TraceFields.check, check_bind_eq_ok, checkField_eq_ok] at hchecked
  have hevents := hchecked.2.2.2.1
  intro hnil
  rw [hnil] at hevents
  cases hevents

/-- `_event_values(evidence, key)` -/
def eventValues (key : String) : List Scalar := trace.events.filterMap (·.get key)

/-- The events of a kind. -/
def eventsOf (kind : TraceEventKind) : List TraceEvent := trace.events.filter (·.kind = kind)

/-- Whether the trace took longer than its budget. -/
def overBudget : Option Bool :=
  match trace.timing.budgetMs, trace.timing.totalLatencyMs with
  | some budget, some latency => some (latency.gtInt budget)
  | _, _ => none

/-- `_accepted_success(evidence)` -/
def acceptedSuccess : Bool :=
  trace.outcome = .completed && trace.reasonCode ∈ acceptedSuccessReasons &&
    !(trace.retryCount ≠ 0 ||
      trace.confirmation.any fun confirmation => confirmation.required && !confirmation.verified) &&
    !trace.events.any (isGiven ·.errorCode) && !trace.dependencyCalls.any (isGiven ·.errorCode) &&
    -- a budget or a latency of zero is as none
    !(trace.timing.budgetMs.any (· ≠ 0) && trace.timing.totalLatencyMs.any (!·.eq 0) &&
      trace.overBudget = some true) &&
    (trace.eventValues "support.policy.grounded").all (· = .bool true)

/-- A database call with one of these errors. -/
def databaseFailed (errors : List String) : Bool :=
  trace.dependencyCalls.any fun call => call.kind = .database && call.errorCode.any (· ∈ errors)

/-- The database events of a failed connection. -/
def infrastructureEvents : List TraceEvent :=
  (trace.eventsOf .database).filter fun event =>
    event.errorCode.any (· ∈ ["timeout", "unavailable", "connection_error"])

def ungrounded : Bool := (trace.eventValues "support.policy.grounded").any (· = .bool false)

/-- `_kind_and_events(evidence)` -/
def kindAndEvents : FailureKind × List TraceEvent :=
  let routing := trace.eventsOf .routing
  let retrieval := trace.eventsOf .retrieval
  let tools := trace.eventsOf .tool
  let generation := trace.events.filter fun event => event.kind = .answer || event.kind = .model
  let policy := trace.eventsOf .policy
  let failed := fun events : List TraceEvent => events.any (isGiven ·.errorCode)
  let reasonIs := fun head => hasPrefix head trace.reasonCode
  if !routing.isEmpty && (reasonIs "routing" || failed routing) then (.routing, routing)
  else if !retrieval.isEmpty && (reasonIs "retrieval" || failed retrieval || trace.ungrounded) then
    (.retrieval, retrieval)
  else if !policy.isEmpty || trace.confirmation.isSome || trace.ungrounded || reasonIs "policy" ||
      reasonIs "refund_blocked" then
    (.policy, if policy.isEmpty then trace.eventsOf .confirmation else policy)
  else if !trace.infrastructureEvents.isEmpty ||
      (trace.retryCount ≠ 0 && trace.databaseFailed ["timeout", "unavailable"]) ||
      trace.databaseFailed ["timeout", "unavailable", "connection_error"] ||
      reasonIs "timeout" || reasonIs "infrastructure" || reasonIs "db_" ||
      trace.overBudget = some true then
    (.infrastructure, if trace.infrastructureEvents.isEmpty then
      trace.events.filter fun event => event.kind = .retry || event.errorCode.isSome
    else trace.infrastructureEvents)
  else if !generation.isEmpty && (reasonIs "generation" || failed generation) then
    (.generation, generation)
  else if failed tools then (.tool, tools)
  else (.generation, [trace.events.getLast trace.events_ne_nil])

/-! ## Features -/

/-- `float(value)` of a number. -/
def scoreOf : Scalar → Option (Raises PyFloat)
  | .bool b => some (.ok (.ofRat (if b then 1 else 0)))
  | .int n => some (floatOfInt n)
  | .float x => some (.ok x)
  | .str _ => none

/-- `min(scores)` -/
def minScore (first : PyFloat) (others : List PyFloat) : PyFloat :=
  others.foldl (fun least score => if score.lt least then score else least) first

/-- `{"min_retrieval_score": min(scores)}`, when there are scores -/
def scoreFeature : Raises Features := do
  let scores ← ((trace.eventValues "retrieval.score").filterMap scoreOf).mapM id
  return match scores with
    | [] => []
    | first :: others => [("min_retrieval_score", .float (minScore first others))]

variable [FloatRepr]

/-- The first error of the events of a kind, which an event or one of its attributes gives. -/
def errorFeature (name : String) (kind : TraceEventKind) (key : String) : Features :=
  (((trace.eventsOf kind).filterMap fun event =>
    if isGiven event.errorCode then event.errorCode
    else match event.get key with
      | some value => if value.truthy then some value.toPy.toText else none
      | none => none).head?.map fun error => (name, Scalar.str error)).toList

/-- The features of a trace with its feedback. -/
def features (feedback : List FeedbackAnnotation) : Raises Features := do
  let scores ← trace.scoreFeature
  let grounded := trace.eventValues "support.policy.grounded"
  return [("retry_count", Scalar.int trace.retryCount),
      ("escalated", .bool (trace.events.any (·.kind = .escalation)))] ++ scores ++
    trace.errorFeature "tool_error_code" .tool "tool.error.code" ++
    trace.errorFeature "db_error_code" .database "db.error.code" ++
    (if grounded.isEmpty then [] else
      [("policy_grounded", Scalar.bool (grounded.all (· = .bool true)))]) ++
    (trace.overBudget.map fun late => ("latency_over_budget", Scalar.bool late)).toList ++
    (if trace.reasonCode = "" then [] else [("reason_code", .str trace.reasonCode)]) ++
    (feedback.getLast?.map fun last => ("feedback_label", Scalar.str last.label)).toList

end NormalizedTrace

/-! ## Candidates -/

/-- The events that every candidate rests on. -/
def alwaysEvidence (event : TraceEvent) : Bool :=
  event.errorCode.isSome || event.kind = .retry || event.kind = .escalation ||
    ["support.policy.grounded", "retrieval.score", "db.latency.ms", "tool.error.code"].any
      fun key => (event.get key).isSome

/-- The events that a candidate rests on, before the fallback. -/
def selectedEventIds (trace : NormalizedTrace) (feedback : List FeedbackAnnotation) : List String :=
  sortedSet (trace.kindAndEvents.2.map (·.eventId) ++ feedback.filterMap (·.eventId) ++
    (trace.events.filter alwaysEvidence).map (·.eventId))

/-- The events that a candidate rests on. -/
def evidenceEventIds (trace : NormalizedTrace) (feedback : List FeedbackAnnotation) : List String :=
  let selected := selectedEventIds trace feedback
  if selected = [] then [(trace.events.head trace.events_ne_nil).eventId] else selected

theorem evidenceEventIds_ne_nil (trace : NormalizedTrace) (feedback : List FeedbackAnnotation) :
    evidenceEventIds trace feedback ≠ [] := by
  dsimp only [evidenceEventIds]
  split_ifs with h
  · exact List.cons_ne_nil _ _
  · exact h

variable [HashFunctions] [FloatRepr]

/-- `extract_failure_candidate(evidence, feedback, dataset_version=dataset_version)` -/
def extractFailureCandidate (trace : NormalizedTrace) (feedback : List FeedbackAnnotation)
    (datasetVersion : Option ℤ) : Raises (Option FailureCandidate) :=
  if trace.acceptedSuccess then .ok none
  else do
    let features ← trace.features feedback
    let kind := trace.kindAndEvents.1
    if hversion : ∀ version ∈ datasetVersion, 1 ≤ version then
      return some
        { candidateId := HashFunctions.uuid5 featureNamespace
            (trace.evidenceId.str ++ "|" ++ kind.value)
          evidenceId := trace.evidenceId
          source := trace.source
          predictedKind := kind
          features := features
          evidenceEventIds := evidenceEventIds trace feedback
          feedbackIds := feedback.map (·.annotationId)
          datasetVersion := datasetVersion.map (·.toNat)
          hasEvents := evidenceEventIds_ne_nil trace feedback
          versionPositive := by
            intro version hmem
            obtain ⟨given, hgiven, rfl⟩ := Option.map_eq_some_iff.mp hmem
            have := hversion given hgiven
            omega }
    else .error (.validation "FailureCandidate" "dataset_version")

/-- `feedback_by_trace.get(trace_id, ())` -/
def feedbackOf (feedbackByTrace : List (String × List FeedbackAnnotation)) (traceId : String) :
    List FeedbackAnnotation :=
  (feedbackByTrace.lookup traceId).getD []

/-- `extract_candidates(traces, feedback_by_trace, dataset_version=dataset_version)` -/
def extractCandidates (traces : List NormalizedTrace)
    (feedbackByTrace : List (String × List FeedbackAnnotation)) (datasetVersion : Option ℤ) :
    Raises (List FailureCandidate) := do
  let found ← traces.mapM fun trace =>
    extractFailureCandidate trace (feedbackOf feedbackByTrace trace.source.traceId) datasetVersion
  return sortedByText (·.evidenceId) (found.filterMap id)

/-! ## The evidence of a candidate -/

section Evidence

omit [HashFunctions] [FloatRepr]

variable {trace : NormalizedTrace} {feedback : List FeedbackAnnotation}

/-- An event identifier that a trace has. -/
def NormalizedTrace.HasEvent (trace : NormalizedTrace) (eventId : String) : Prop :=
  eventId ∈ trace.events.map (·.eventId)

/-- **Whatever rule classified a trace, the events it selects are events of the trace.** -/
theorem kindAndEvents_subset : trace.kindAndEvents.2 ⊆ trace.events := by
  have hfilter {p : TraceEvent → Bool} : trace.events.filter p ⊆ trace.events :=
    List.filter_subset_self _
  have hinfrastructure : trace.infrastructureEvents ⊆ trace.events :=
    List.Subset.trans (List.filter_subset_self _) hfilter
  unfold NormalizedTrace.kindAndEvents
  dsimp only
  split_ifs
  case pos => exact hfilter
  all_goals
    dsimp only
    first
      | exact hfilter
      | exact hinfrastructure
      | exact List.cons_subset.mpr ⟨List.getLast_mem trace.events_ne_nil, List.nil_subset _⟩

/-- **The events of a candidate are events of its trace**, when the feedback names only these. -/
theorem hasEvent_of_mem_evidenceEventIds
    (hfeedback : ∀ note ∈ feedback, ∀ eventId ∈ note.eventId, trace.HasEvent eventId)
    {eventId : String} (h : eventId ∈ evidenceEventIds trace feedback) :
    trace.HasEvent eventId := by
  dsimp only [evidenceEventIds] at h
  split_ifs at h
  · obtain rfl := List.mem_singleton.mp h
    exact List.mem_map_of_mem (List.head_mem _)
  · rw [selectedEventIds, mem_sortedSet, List.mem_append, List.mem_append] at h
    rcases h with (h | h) | h
    · obtain ⟨event, hevent, rfl⟩ := List.mem_map.mp h
      exact List.mem_map_of_mem (kindAndEvents_subset hevent)
    · obtain ⟨note, hnote, hid⟩ := List.mem_filterMap.mp h
      exact hfeedback note hnote eventId hid
    · obtain ⟨event, hevent, rfl⟩ := List.mem_map.mp h
      exact List.mem_map_of_mem (List.mem_of_mem_filter hevent)

end Evidence

/-- What a candidate takes from its trace. -/
theorem extractFailureCandidate_eq_ok {trace : NormalizedTrace} {feedback : List FeedbackAnnotation}
    {datasetVersion : Option ℤ} {candidate : FailureCandidate}
    (h : extractFailureCandidate trace feedback datasetVersion = .ok (some candidate)) :
    candidate.evidenceId = trace.evidenceId ∧
      candidate.evidenceEventIds = evidenceEventIds trace feedback := by
  unfold extractFailureCandidate at h
  split_ifs at h
  · cases h
  · obtain ⟨features, -, hreturn⟩ := bind_eq_ok.mp h
    obtain rfl := Option.some.inj (Except.ok.inj hreturn)
    exact ⟨rfl, rfl⟩
  · obtain ⟨features, -, hreturn⟩ := bind_eq_ok.mp h
    cases hreturn

/-- **Every candidate is that of one of the traces.** -/
theorem of_mem_extractCandidates {traces : List NormalizedTrace}
    {feedbackByTrace : List (String × List FeedbackAnnotation)} {datasetVersion : Option ℤ}
    {candidates : List FailureCandidate} {candidate : FailureCandidate}
    (h : extractCandidates traces feedbackByTrace datasetVersion = .ok candidates)
    (hcandidate : candidate ∈ candidates) :
    ∃ trace ∈ traces, candidate.evidenceId = trace.evidenceId ∧ candidate.evidenceEventIds =
      evidenceEventIds trace (feedbackOf feedbackByTrace trace.source.traceId) := by
  obtain ⟨found, hfound, h⟩ := bind_eq_ok.mp h
  obtain rfl := Except.ok.inj h
  rw [mem_sortedByText] at hcandidate
  obtain ⟨result, hresult, hsome⟩ := List.mem_filterMap.mp hcandidate
  obtain rfl : result = some candidate := hsome
  obtain ⟨trace, htrace, hextract⟩ := exists_of_mem_mapM hfound hresult
  exact ⟨trace, htrace, extractFailureCandidate_eq_ok hextract⟩

end Rules

end ObservabilityLab
