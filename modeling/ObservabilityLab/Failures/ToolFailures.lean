import ObservabilityLab.Failures.FeedbackHistory
import ObservabilityLab.Failures.Features
import ObservabilityLab.Python.Mapping

/-!
# Failures of tools

A failed tool shows in the feature `tool_error_code`, which is read from the error codes of the tool
events or from their attributes. The rules look at the error codes only.

## Main definitions

* `NormalizedTrace.Unmarked`: no routing, retrieval, policy, infrastructure or generation marker
* `NormalizedTrace.ToolFailed`: a tool event with an error, as its error code or as an attribute
* `ReportsToolFailure`: a candidate with the feature, classified as a failure of a tool

## Main results

* `kind_eq`: the kind of a trace is that of its first marker
* `isSome_toolErrorCode_iff`: a failed tool is exactly what the feature shows
* `reportsToolFailure_iff`: when a failed tool is classified as such
-/

namespace ObservabilityLab

open Python

namespace NormalizedTrace

variable [UnicodeTables] (trace : NormalizedTrace)

/-! ## Markers -/

/-- Whether some of the events of a kind has an error code. -/
def kindFailed (kind : TraceEventKind) : Bool :=
  (trace.eventsOf kind).any fun event => isGiven event.errorCode

/-- Whether the reason of the trace starts with a text. -/
def reasonStarts (head : String) : Bool := hasPrefix head trace.reasonCode

def routingMarker : Bool :=
  !(trace.eventsOf .routing).isEmpty && (trace.reasonStarts "routing" || trace.kindFailed .routing)

def retrievalMarker : Bool :=
  !(trace.eventsOf .retrieval).isEmpty &&
    (trace.reasonStarts "retrieval" || trace.kindFailed .retrieval || trace.ungrounded)

def policyMarker : Bool :=
  !(trace.eventsOf .policy).isEmpty || trace.confirmation.isSome || trace.ungrounded ||
    trace.reasonStarts "policy" || trace.reasonStarts "refund_blocked"

def infrastructureMarker : Bool :=
  !trace.infrastructureEvents.isEmpty ||
    trace.databaseFailed ["timeout", "unavailable", "connection_error"] ||
    trace.reasonStarts "timeout" || trace.reasonStarts "infrastructure" ||
    trace.reasonStarts "db_" || trace.overBudget = some true

def generationMarker : Bool :=
  (!(trace.eventsOf .answer).isEmpty || !(trace.eventsOf .model).isEmpty) &&
    (trace.reasonStarts "generation" || trace.kindFailed .answer || trace.kindFailed .model)

/-- No marker of a rule before the last two. -/
structure Unmarked : Prop where
  routing : trace.routingMarker = false
  retrieval : trace.retrievalMarker = false
  policy : trace.policyMarker = false
  infrastructure : trace.infrastructureMarker = false
  generation : trace.generationMarker = false

variable {trace}

theorem kindFailed_iff {kind : TraceEventKind} : trace.kindFailed kind = true ↔
    ∃ event ∈ trace.events, event.kind = kind ∧ isGiven event.errorCode = true := by
  simp [kindFailed, eventsOf]

theorem databaseFailed_of_subset {errors others : List String} (h : errors ⊆ others)
    (hfailed : trace.databaseFailed errors = true) : trace.databaseFailed others = true := by
  simp only [databaseFailed, List.any_eq_true, Bool.and_eq_true, Option.any_eq_true,
    decide_eq_true_eq] at hfailed ⊢
  obtain ⟨call, hcall, hkind, code, herror, hmem⟩ := hfailed
  exact ⟨call, hcall, hkind, code, herror, h hmem⟩

/-- A test of the answers and the model calls. -/
theorem any_generation {p : TraceEvent → Bool} :
    (trace.events.filter fun event => event.kind = .answer || event.kind = .model).any p =
      ((trace.eventsOf .answer).any p || (trace.eventsOf .model).any p) := by
  rw [Bool.eq_iff_iff]
  simp only [eventsOf, List.any_filter, List.any_eq_true, Bool.and_eq_true, Bool.or_eq_true,
    decide_eq_true_eq]
  constructor
  · rintro ⟨event, hevent, hkind | hkind, hp⟩
    · exact Or.inl ⟨event, hevent, hkind, hp⟩
    · exact Or.inr ⟨event, hevent, hkind, hp⟩
  · rintro (⟨event, hevent, hkind, hp⟩ | ⟨event, hevent, hkind, hp⟩)
    · exact ⟨event, hevent, Or.inl hkind, hp⟩
    · exact ⟨event, hevent, Or.inr hkind, hp⟩

omit [UnicodeTables] in
theorem isEmpty_eq_any {events : List TraceEvent} :
    (!events.isEmpty) = events.any fun _ => true := by
  cases events <;> rfl

/-- **The kind of a trace is that of its first marker**; a failed tool comes after all others. -/
theorem kind_eq : trace.kindAndEvents.1 =
    if trace.routingMarker then .routing
    else if trace.retrievalMarker then .retrieval
    else if trace.policyMarker then .policy
    else if trace.infrastructureMarker then .infrastructure
    else if trace.generationMarker then .generation
    else if trace.kindFailed .tool then .tool
    else .generation := by
  -- the rule with a retry count asks for less than the rule after it
  have hretried : (trace.retryCount ≠ 0 && trace.databaseFailed ["timeout", "unavailable"] ||
      trace.databaseFailed ["timeout", "unavailable", "connection_error"]) =
      trace.databaseFailed ["timeout", "unavailable", "connection_error"] := by
    rw [Bool.or_eq_right_iff_imp, Bool.and_eq_true]
    intro hboth
    exact databaseFailed_of_subset (by simp) hboth.2
  have hgeneration : (!(trace.events.filter fun event =>
      event.kind = .answer || event.kind = .model).isEmpty &&
      (hasPrefix "generation" trace.reasonCode || (trace.events.filter fun event =>
        event.kind = .answer || event.kind = .model).any fun event => isGiven event.errorCode)) =
      trace.generationMarker := by
    rw [generationMarker, isEmpty_eq_any, isEmpty_eq_any, isEmpty_eq_any, any_generation,
      any_generation, Bool.or_assoc (trace.reasonStarts "generation")]
    rfl
  rw [kindAndEvents]
  dsimp only
  rw [hgeneration, Bool.or_assoc (!trace.infrastructureEvents.isEmpty), hretried]
  simp only [apply_ite Prod.fst]
  rfl

/-! ## The feature of a failed tool -/

variable (trace) in
/-- A tool event with an error, as its own error code or as an attribute. -/
def ToolFailed : Prop :=
  ∃ event ∈ trace.events, event.kind = .tool ∧ (isGiven event.errorCode = true ∨
    ∃ code, event.get "tool.error.code" = some code ∧ code.truthy = true)

variable [FloatRepr]

/-- The error that an event gives to the feature. -/
def errorOf (key : String) (event : TraceEvent) : Option String :=
  if isGiven event.errorCode then event.errorCode
  else match event.get key with
    | some value => if value.truthy then some value.toPy.toText else none
    | none => none

theorem isSome_errorOf {key : String} {event : TraceEvent} : (errorOf key event).isSome = true ↔
    isGiven event.errorCode = true ∨
      ∃ code, event.get key = some code ∧ code.truthy = true := by
  rw [errorOf]
  by_cases hgiven : isGiven event.errorCode = true
  · obtain ⟨code, hcode, -⟩ := (Option.any_eq_true _ _).mp hgiven
    rw [if_pos hgiven, hcode]
    rw [hcode] at hgiven
    simp [hgiven]
  · rw [if_neg hgiven]
    cases event.get key with
    | none => simp [hgiven]
    | some value =>
      by_cases htruthy : value.truthy = true
      · simp [htruthy]
      · simp [hgiven, htruthy]

omit [UnicodeTables] [FloatRepr] in
/-- A feature that is there when a value is. -/
theorem mem_names_toList {α : Type} {name label : String} {value : Option α} {f : α → Scalar} :
    name ∈ ((value.map fun a => (label, f a)).toList).map (·.1) ↔
      name = label ∧ value.isSome = true := by
  cases value <;> simp

omit [UnicodeTables] [FloatRepr] in
/-- A feature that is there unless a test holds. -/
theorem mem_names_ite {c : Prop} [Decidable c] {name label : String} {value : Scalar} :
    name ∈ (if c then [] else [(label, value)]).map (·.1) ↔ name = label ∧ ¬ c := by
  by_cases h : c <;> simp [h]

theorem mem_names_errorFeature {name label key : String} {kind : TraceEventKind} :
    name ∈ (trace.errorFeature label kind key).map (·.1) ↔
      name = label ∧ ∃ event ∈ trace.events, event.kind = kind ∧
        (isGiven event.errorCode = true ∨
          ∃ code, event.get key = some code ∧ code.truthy = true) := by
  have hfeature : trace.errorFeature label kind key =
      ((((trace.eventsOf kind).filterMap (errorOf key)).head?).map fun error =>
        (label, Scalar.str error)).toList := rfl
  have hsome : ((trace.eventsOf kind).filterMap (errorOf key)).head?.isSome = true ↔
      ∃ event ∈ trace.events, event.kind = kind ∧ (errorOf key event).isSome = true := by
    rw [List.isSome_head?]
    constructor
    · intro h
      obtain ⟨error, hmem⟩ := List.exists_mem_of_ne_nil _ h
      obtain ⟨event, hevent, herror⟩ := List.mem_filterMap.mp hmem
      obtain ⟨hevent, hkind⟩ := List.mem_filter.mp hevent
      exact ⟨event, hevent, of_decide_eq_true hkind, Option.isSome_of_eq_some herror⟩
    · rintro ⟨event, hevent, hkind, herror⟩
      obtain ⟨error, herror⟩ := Option.isSome_iff_exists.mp herror
      have hevent' : event ∈ trace.eventsOf kind :=
        List.mem_filter.mpr ⟨hevent, decide_eq_true hkind⟩
      exact List.ne_nil_of_mem (List.mem_filterMap.mpr ⟨event, hevent', herror⟩)
  rw [hfeature, mem_names_toList, hsome]
  simp only [isSome_errorOf]

omit [FloatRepr] in
theorem names_scoreFeature {scores : Features} (h : trace.scoreFeature = .ok scores) :
    ∀ name ∈ scores.map (·.1), name = "min_retrieval_score" := by
  obtain ⟨values, -, h⟩ := bind_eq_ok.mp h
  obtain rfl := Except.ok.inj h
  intro name hname
  cases values with
  | nil => exact absurd hname List.not_mem_nil
  | cons first others => exact List.mem_singleton.mp hname

/-- **The feature shows exactly the failed tools.** -/
theorem isSome_toolErrorCode_iff {feedback : List FeedbackAnnotation} {found : Features}
    (h : trace.features feedback = .ok found) :
    (found.lookup "tool_error_code").isSome = true ↔ trace.ToolFailed := by
  obtain ⟨scores, hscores, h⟩ := bind_eq_ok.mp h
  obtain rfl := Except.ok.inj h
  have hscore : "tool_error_code" ∉ scores.map (·.1) := fun hmem =>
    absurd (names_scoreFeature hscores _ hmem) (by decide)
  rw [isSome_lookup_iff]
  simp only [List.map_append, List.mem_append, hscore, mem_names_errorFeature, mem_names_toList,
    mem_names_ite, ToolFailed]
  simp

end NormalizedTrace

/-! ## The kind of a candidate -/

/-- A candidate with the feature of a failed tool, classified as a failure of a tool. -/
structure ReportsToolFailure (candidate : FailureCandidate) : Prop where
  feature : (candidate.features.lookup "tool_error_code").isSome = true
  kind : candidate.predictedKind = .tool

section Candidates

variable [UnicodeTables] [FloatRepr] [HashFunctions] {trace : NormalizedTrace}
  {feedback : List FeedbackAnnotation} {datasetVersion : Option ℤ} {candidate : FailureCandidate}

theorem kind_of_extract
    (h : extractFailureCandidate trace feedback datasetVersion = .ok (some candidate)) :
    candidate.predictedKind = trace.kindAndEvents.1 ∧
      trace.features feedback = .ok candidate.features := by
  unfold extractFailureCandidate at h
  split_ifs at h
  · cases h
  · obtain ⟨features, hfeatures, hreturn⟩ := bind_eq_ok.mp h
    obtain rfl := Option.some.inj (Except.ok.inj hreturn)
    exact ⟨rfl, hfeatures⟩
  · obtain ⟨features, -, hreturn⟩ := bind_eq_ok.mp h
    cases hreturn

/-- **When a failed tool is classified as such**, in a trace without another marker: a tool event
has an error code of its own. -/
theorem reportsToolFailure_iff
    (h : extractFailureCandidate trace feedback datasetVersion = .ok (some candidate))
    (hunmarked : trace.Unmarked) (hfailed : trace.ToolFailed) :
    ReportsToolFailure candidate ↔
      ∃ event ∈ trace.events, event.kind = .tool ∧ isGiven event.errorCode = true := by
  obtain ⟨hkind, hfeatures⟩ := kind_of_extract h
  rw [← NormalizedTrace.kindFailed_iff]
  have hlast : candidate.predictedKind =
      if trace.kindFailed .tool then .tool else .generation := by
    rw [hkind, NormalizedTrace.kind_eq]
    simp only [hunmarked.routing, hunmarked.retrieval, hunmarked.policy, hunmarked.infrastructure,
      hunmarked.generation, Bool.false_eq_true, if_false]
  constructor
  · rintro ⟨-, htool⟩
    by_contra hnone
    rw [hlast, if_neg hnone] at htool
    cases htool
  · intro hown
    refine ⟨(NormalizedTrace.isSome_toolErrorCode_iff hfeatures).mpr hfailed, ?_⟩
    rw [hlast, if_pos hown]

end Candidates

/-! ## A tool that failed once -/

section Examples

attribute [local instance] asciiTables oneDecimalRepr constantHashes

/-- A call of a tool in a turn; the error that the agent records of a timeout is an attribute. -/
def timedOutCall : TraceEvent where
  eventId := "run-2"
  kind := .tool
  name := "support_agent.tool.get_order_status"
  parentId := some "run-1"
  startTime := .epoch
  endTime := none
  durationMs := none
  errorCode := none
  attributes := [("tool.error.code", .str "timeout")]
  valid := by decide +kernel

/-- The same call with the error as its own. -/
def failedCall : TraceEvent where
  eventId := "run-2"
  kind := .tool
  name := "support_agent.tool.get_order_status"
  parentId := some "run-1"
  startTime := .epoch
  endTime := none
  durationMs := none
  errorCode := some "timeout"
  attributes := [("tool.error.code", .str "timeout")]
  valid := by decide +kernel

/-- A completed turn that repeated the call. -/
def timedOutTrace : NormalizedTrace where
  toTraceFields :=
    { traceExample.toTraceFields with
      outcome := .completed
      reasonCode := "order_status_ok"
      events := [rootEventExample, timedOutCall]
      retryCount := 1 }
  checked := by decide +kernel

def failedTrace : NormalizedTrace where
  toTraceFields :=
    { traceExample.toTraceFields with
      outcome := .completed
      reasonCode := "order_status_ok"
      events := [rootEventExample, failedCall]
      retryCount := 1 }
  checked := by decide +kernel

theorem unmarked_timedOutTrace : timedOutTrace.Unmarked := by
  constructor <;> decide +kernel

theorem unmarked_failedTrace : failedTrace.Unmarked := by
  constructor <;> decide +kernel

/-- The candidate of these traces, by its kind. -/
def repeatedCallCandidate (kind : FailureKind) : FailureCandidate where
  candidateId := HashFunctions.uuid5 featureNamespace
    (traceExample.evidenceId.str ++ "|" ++ kind.value)
  evidenceId := traceExample.evidenceId
  source := traceExample.source
  predictedKind := kind
  features := [("retry_count", .int 1), ("escalated", .bool false),
    ("tool_error_code", .str "timeout"), ("reason_code", .str "order_status_ok")]
  evidenceEventIds := ["run-2"]
  hasEvents := List.cons_ne_nil _ _
  versionPositive := versionPositive_none

theorem extract_failedTrace :
    extractFailureCandidate failedTrace [] none = .ok (some (repeatedCallCandidate .tool)) := by
  decide +kernel

theorem extract_timedOutTrace : extractFailureCandidate timedOutTrace [] none =
    .ok (some (repeatedCallCandidate .generation)) := by
  decide +kernel

theorem toolFailed_failedTrace : failedTrace.ToolFailed :=
  ⟨failedCall, List.mem_cons_of_mem _ List.mem_cons_self, rfl, Or.inl (by decide +kernel)⟩

theorem toolFailed_timedOutTrace : timedOutTrace.ToolFailed :=
  ⟨timedOutCall, List.mem_cons_of_mem _ List.mem_cons_self, rfl,
    Or.inr ⟨.str "timeout", by decide +kernel, by decide +kernel⟩⟩

theorem reportsToolFailure_failedTrace : ReportsToolFailure (repeatedCallCandidate .tool) :=
  (reportsToolFailure_iff extract_failedTrace unmarked_failedTrace toolFailed_failedTrace).mpr
    ⟨failedCall, List.mem_cons_of_mem _ List.mem_cons_self, rfl, by decide +kernel⟩

/-- **A recorded timeout is classified as a generation failure**, as its error is an attribute. -/
theorem not_reportsToolFailure_timedOutTrace :
    extractFailureCandidate timedOutTrace [] none =
        .ok (some (repeatedCallCandidate .generation)) ∧
      timedOutTrace.Unmarked ∧ timedOutTrace.ToolFailed ∧
      ¬ ReportsToolFailure (repeatedCallCandidate .generation) := by
  refine ⟨extract_timedOutTrace, unmarked_timedOutTrace, toolFailed_timedOutTrace, ?_⟩
  intro h
  exact absurd h.kind (by decide)

end Examples

end ObservabilityLab
