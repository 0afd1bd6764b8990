import ObservabilityLab.Evidence.Import
import ObservabilityLab.Evidence.Trace

/-!
# Normalizing a trace

The mapping of the runs of a provider to one trace. The structure of the runs is checked, each run
becomes an event with its allowlisted attributes, and a trace is built from the events. Whatever
the last step raises is turned into a typed error.

## Main definitions

* `SourceRun`: one record of a provider
* `allowlistedAttributes`, `sanitizeError`, `durationMs`, `toEvent`: one run as an event
* `buildEvidence`: the trace of the events
* `normalizeRuns`: the mapping
-/

namespace ObservabilityLab

open Python

/-- `UnsupportedTrace(message=message)` -/
def unsupportedTrace (message : String) : PyError :=
  .domain "unsupported_trace" message unprocessableEntity

/-- The numbers that texts are read as. -/
class NumberTexts where
  /-- `int(text)`; `none` is a `ValueError`. -/
  int : String → Option ℤ
  /-- `float(text)`; `none` is a `ValueError`. -/
  float : String → Option PyFloat

/-- The numbers of texts without blanks and underscores. -/
@[reducible] def plainNumbers : NumberTexts where
  int := intOfText
  float text := (Decimal.parse text).map fun d => .ofRat d.toRat

/-! ## Runs -/

/-- One record of a provider after extraction. -/
structure SourceRun where
  runId : String
  name : String
  parentId : Option String
  startTime : DateTime
  endTime : Option DateTime
  attributes : Record
  error : Option String := none
  traceId : Option String := none

def kindPrefixes : List (String × TraceEventKind) :=
  [("support_agent.turn", .turn), ("support_agent.routing", .routing),
    ("support_agent.answer", .answer), ("support_agent.tool.", .tool),
    ("support_agent.database.", .database), ("support_agent.retrieval.", .retrieval),
    ("support_agent.policy.", .policy), ("support_agent.confirmation", .confirmation),
    ("support_agent.escalation", .escalation), ("support_agent.retry", .retry)]

/-- The normalized kind of an event, by its span name. -/
def inferEventKind (name : String) : TraceEventKind :=
  match kindPrefixes.find? fun entry => entry.1.toList.isPrefixOf name.toList with
  | some entry => entry.2
  | none => .step

def sensitiveAttributeParts : List String :=
  ["api_key", "secret", "password", "token", "authorization", "credential", "credit", "ssn",
    "email", "phone", "message"]

/-- `[event.attributes[key] for event in events if key in event.attributes]` -/
def eventValues (events : List TraceEvent) (key : String) : List Scalar :=
  events.filterMap (·.get key)

/-- The name up to its first dot: `name.split(".", maxsplit=1)[0]`. -/
def workflowOf (name : String) : String := String.ofList (name.toList.takeWhile (· ≠ '.'))

/-- What a run contributes: an event, and the keys that were dropped. -/
abbrev Entry := TraceEvent × List String

section Runs

variable [UnicodeTables]

def isSensitiveAttribute (key : String) : Bool :=
  sensitiveAttributeParts.any fun part => part.toList <:+: UnicodeTables.lower key.toList

/-- `UnsupportedTrace` of a run with a sensitive key that is not allowlisted. -/
def sensitiveFieldError (runId key : String) : PyError :=
  unsupportedTrace
    ("run " ++ reprText runId ++ " records unknown sensitive field " ++ reprText key)

/-- `isinstance(value, (bool, int, float, str)) and value != ""` -/
def keptScalar (value : PyValue) : Option Scalar := (Scalar.ofPy value).filter (· ≠ .str "")

/-- The allowlisted scalars of a run, and the keys that were dropped. -/
def allowlistedAttributes (runId : String) : Record → Raises (Attributes × List String)
  | [] => .ok ([], [])
  | (key, value) :: attributes => do
    if key ∈ traceAttributeAllowlist then
      let (clean, dropped) ← allowlistedAttributes runId attributes
      match keptScalar value with
      | some scalar => return ((key, scalar) :: clean, dropped)
      | none => return (clean, key :: dropped)
    else
      raiseIf (isSensitiveAttribute key) (sensitiveFieldError runId key)
      let (clean, dropped) ← allowlistedAttributes runId attributes
      return (clean, key :: dropped)

omit [UnicodeTables] in
/-- Only stable codes are kept of the texts of errors. -/
def sanitizeError : Option String → Option String × List String
  | none => (none, [])
  | some error => if isStableCode error then (some error, []) else (none, ["error"])

omit [UnicodeTables] in
/-- `round(elapsed.total_seconds() * 1000, 2)`, of a difference in microseconds -/
def roundedMs (elapsed : ℤ) : PyFloat :=
  ((PyFloat.ofRat (elapsed / 1000000)).mul (.ofRat 1000)).round 2

omit [UnicodeTables] in
/-- `_duration_ms(start_time, end_time)` -/
def durationMs (startTime : DateTime) : Option DateTime → Raises (Option PyFloat)
  | none => .ok none
  | some endTime =>
    match endTime.since startTime with
    | none => .error (.other "TypeError" "can't subtract offset-naive and offset-aware datetimes")
    | some elapsed => .ok (some (roundedMs elapsed))

/-- The event of a run. -/
def toEvent (run : SourceRun) : Raises Entry := do
  let (attributes, dropped) ← allowlistedAttributes run.runId run.attributes
  let duration ← durationMs run.startTime run.endTime
  let (errorCode, droppedError) := sanitizeError run.error
  let event ← TraceEvent.new run.runId (inferEventKind run.name) run.name run.parentId run.startTime
    run.endTime duration errorCode attributes
  return (event, dropped ++ droppedError)

/-- The check of duplicate identifiers, `seen` being those of the runs before. -/
def checkRunIds (seen : List String) : List SourceRun → Raises Unit
  | [] => .ok ()
  | run :: runs => do
    raiseIf (run.runId ∈ seen) (unsupportedTrace ("duplicate run id " ++ reprText run.runId))
    checkRunIds (run.runId :: seen) runs

/-- The check of the parent of a run. -/
def checkParent (runs : List SourceRun) (run : SourceRun) : Raises Unit :=
  match run.parentId with
  | some parentId => raiseIf (runs.all (·.runId ≠ parentId))
      (unsupportedTrace
        ("run " ++ reprText run.runId ++ " references unknown parent " ++ reprText parentId))
  | none => .ok ()

/-- The checks of the structure of the runs. -/
def checkRuns (runs : List SourceRun) : Raises Unit := do
  raiseIf runs.isEmpty (unsupportedTrace "the source returned no runs for this trace")
  checkRunIds [] runs
  let roots := runs.countP (·.parentId.isNone)
  raiseIf (roots ≠ 1)
    (unsupportedTrace ("expected exactly one root run, found " ++ toString roots))
  runs.forM (checkParent runs)

end Runs

/-! ## What is aggregated from the events -/

section Aggregates

variable [NumberTexts]

/-- `int(value)` -/
def Scalar.toInt : Scalar → Raises ℤ
  | bool b => .ok b.toNat
  | int n => .ok n
  | float .nan => .error (.value "cannot convert float NaN to integer")
  | float (.infinite _) =>
    .error (.other "OverflowError" "cannot convert float infinity to integer")
  | float (.finite q) => .ok (q.1.num.tdiv q.1.den)
  | str s =>
    match NumberTexts.int s with
    | some n => .ok n
    | none => .error (.value "invalid literal for int()")

/-- `float(value)` -/
def Scalar.toFloat : Scalar → Raises PyFloat
  | bool b => .ok (.ofRat b.toNat)
  | int n => floatOfInt n
  | float x => .ok x
  | str s =>
    match NumberTexts.float s with
    | some x => .ok x
    | none => .error (.value "could not convert string to float")

/-- `sum(int(event.attributes[key]) for event in events if key in event.attributes)` -/
def sumInts (events : List TraceEvent) (key : String) : Raises ℤ := do
  let values ← (eventValues events key).mapM (·.toInt)
  return values.sum

/-- The rounded sum of an attribute as a float, when an event has it. -/
def sumFloats (digits : ℕ) (events : List TraceEvent) (key : String) :
    Raises (Option PyFloat) :=
  match eventValues events key with
  | [] => .ok none
  | values => do
    let values ← values.mapM (·.toFloat)
    return some ((PyFloat.sum values).round digits)

/-- `int(root.attributes.get(key, 0))` -/
def rootInt (root : TraceEvent) (key : String) : Raises ℤ :=
  ((root.get key).getD (.int 0)).toInt

/-- `float(root.attributes[key]) if key in root.attributes else None` -/
def rootFloat (root : TraceEvent) (key : String) : Raises (Option PyFloat) :=
  match root.get key with
  | some value => some <$> value.toFloat
  | none => .ok none

/-- The text of an attribute, when it is one. -/
def TraceEvent.textOf (event : TraceEvent) (key : String) : Option String :=
  (event.get key).bind Scalar.text

def aggregateTokens (events : List TraceEvent) (root : TraceEvent) : Raises TokenUsage := do
  let modelEvents := events.filter fun event => event.kind ∈ [.routing, .answer, .model]
  if modelEvents ≠ [] then
    let inputTokens ← sumInts modelEvents "model.tokens.input"
    let outputTokens ← sumInts modelEvents "model.tokens.output"
    let totalTokens ← sumInts modelEvents "model.tokens.total"
    let costUsd ← sumFloats 6 modelEvents "model.cost.usd"
    TokenUsage.new ⟨inputTokens, outputTokens, totalTokens, costUsd⟩
  else
    let inputTokens ← rootInt root "support.tokens.input"
    let outputTokens ← rootInt root "support.tokens.output"
    let totalTokens ← rootInt root "support.tokens.total"
    let costUsd ← rootFloat root "support.cost.usd"
    TokenUsage.new ⟨inputTokens, outputTokens, totalTokens, costUsd⟩

def aggregateTiming (events : List TraceEvent) (root : TraceEvent) : Raises TurnTiming := do
  let totalLatencyMs ← match root.durationMs with
    | some duration => .ok (some duration)
    | none => rootFloat root "support.latency.ms"
  let modelLatencyMs ← sumFloats 2 events "model.latency.ms"
  let dbLatencyMs ← sumFloats 2 events "db.latency.ms"
  let retrievalLatencyMs ← sumFloats 2 events "retrieval.latency.ms"
  TurnTiming.new ⟨totalLatencyMs, modelLatencyMs, dbLatencyMs, retrievalLatencyMs, none⟩

/-- The error code of a call: the one of its event, or the one among its attributes. -/
def callErrorCode (event : TraceEvent) : Option String :=
  match event.errorCode with
  | some code => some code
  | none =>
    ((event.get "tool.error.code").or (event.get "db.error.code")).bind Scalar.text

def dependencyCalls (events : List TraceEvent) : Raises (List DependencyCall) :=
  (events.filter fun event => event.kind ∈ [.tool, .database, .retrieval]).mapM fun event =>
    DependencyCall.new ⟨event.kind, event.name, callErrorCode event, event.durationMs⟩

def policyDecisions (events : List TraceEvent) : Raises (List PolicyDecision) :=
  (events.filter fun event => event.kind = .policy).mapM fun event =>
    PolicyDecision.new ⟨event.textOf "policy.version", event.textOf "policy.decision",
      event.textOf "policy.reason.code"⟩

/-- The decision of the first confirmation event. -/
def confirmationOf (events : List TraceEvent) : Option ConfirmationDecision :=
  (events.find? fun event => event.kind = .confirmation).map fun event =>
    { required := ((event.get "confirmation.required").getD (.bool true)).truthy
      verified := ((event.get "confirmation.verified").getD (.bool false)).truthy }

/-- `{key: root.attributes[key] for key in allowlist if key in root.attributes}` -/
def selectAttributes (root : TraceEvent) (allowlist : List String) : Attributes :=
  allowlist.filterMap fun key => (root.get key).map fun value => (key, value)

def retryCountOf (events : List TraceEvent) (root : TraceEvent) : Raises ℤ :=
  match root.get "support.retry.count" with
  | some value => value.toInt
  | none => .ok (events.countP fun event => event.kind = .retry)

end Aggregates

/-! ## The trace -/

/-- The keyword arguments of `normalize_runs`. -/
structure NormalizeArguments where
  platform : String
  project : Option String
  scenarioId : Option String := none
  sourceUrl : Option String := none
  budgetMs : Option ℤ := none

/-- `tuple(dict.fromkeys(keys))`: the first occurrence of each key. -/
def uniqueKeys : List String → List String
  | [] => []
  | key :: keys => key :: (uniqueKeys keys).filter (· ≠ key)

theorem mem_uniqueKeys {keys : List String} {key : String} :
    key ∈ uniqueKeys keys ↔ key ∈ keys := by
  induction keys with
  | nil => rfl
  | cons first keys ih =>
    rw [uniqueKeys, List.mem_cons, List.mem_cons, List.mem_filter, ih, decide_eq_true_eq]
    by_cases h : key = first
    · simp [h]
    · simp [h]

theorem uniqueKeys_concat {keys : List String} {key : String} :
    uniqueKeys (keys ++ [key]) =
      if key ∈ keys then uniqueKeys keys else uniqueKeys keys ++ [key] := by
  induction keys with
  | nil => rfl
  | cons first keys ih =>
    rw [List.cons_append, uniqueKeys, ih, uniqueKeys]
    by_cases hfirst : key = first
    · subst hfirst
      split_ifs <;> simp_all
    · by_cases hmem : key ∈ keys
      · simp [hmem]
      · simp [hmem, hfirst]

theorem nodup_uniqueKeys (keys : List String) : (uniqueKeys keys).Nodup := by
  induction keys with
  | nil => exact List.nodup_nil
  | cons key keys ih =>
    rw [uniqueKeys, List.nodup_cons]
    refine ⟨?_, ih.filter _⟩
    intro hmem
    exact of_decide_eq_true (List.mem_filter.mp hmem).2 rfl

section Build

variable [UnicodeTables] [NumberTexts] [HashFunctions] [ValidationTexts]

/-- `_root_event` -/
def rootEvent (events : List TraceEvent) : Raises TraceEvent :=
  match events.filter (·.parentId.isNone) with
  | [root] => .ok root
  | roots =>
    .error (unsupportedTrace ("expected exactly one root run, found " ++ toString roots.length))

/-- The outcome that the root records. -/
def outcomeOf (root : TraceEvent) : Raises TraceOutcome :=
  match root.textOf "support.outcome" with
  | none => .error (unsupportedTrace
      "the selected trace does not record a task outcome (support.outcome)")
  | some text =>
    match root.textOf "support.reason.code", TraceOutcome.ofValue text with
    | none, _ => .error (unsupportedTrace
        "the selected trace does not record a reason code (support.reason.code)")
    | some _, none => .error (unsupportedTrace ("unknown task outcome " ++ reprText text))
    | some _, some outcome => .ok outcome

/-- `_build_evidence(...)`, of the first run and the root among the runs. -/
def buildEvidence (events : List TraceEvent) (first root : SourceRun) (droppedKeys : List String)
    (args : NormalizeArguments) : Raises NormalizedTrace := do
  let event ← rootEvent events
  let outcome ← outcomeOf event
  let source ← TraceSourceRef.new
    { platform := args.platform
      project := args.project
      traceId := (first.traceId.filter (· ≠ "")).getD first.runId
      runId := some root.runId
      url := args.sourceUrl }
  let model ← TraceModelRef.new
    ⟨event.textOf "agent.model.provider", event.textOf "agent.model.name"⟩
  let retryCount ← retryCountOf events event
  let policyDecisions ← policyDecisions events
  let timing ← aggregateTiming events event
  let tokens ← aggregateTokens events event
  let dependencyCalls ← dependencyCalls events
  NormalizedTrace.new
    { evidenceId := stableEvidenceId source
      source := source
      scenarioId := args.scenarioId
      workflow := some (workflowOf root.name)
      environment := event.textOf "service.environment"
      workflowVersion := event.textOf "agent.workflow.version"
      model := some model
      outcome := outcome
      reasonCode := (event.textOf "support.reason.code").getD ""
      events := events
      taskInput := selectAttributes event taskInputAllowlist
      taskOutput := selectAttributes event taskOutputAllowlist
      tokens := tokens
      -- the budget is set after the checks of the timing
      timing := { timing with budgetMs := args.budgetMs }
      retryCount := retryCount
      dependencyCalls := dependencyCalls
      policyDecisions := policyDecisions
      confirmation := confirmationOf events
      redaction := { droppedKeys := uniqueKeys droppedKeys } }

/-- Whether an error is `InvalidEvidence` or `UnsupportedTrace`. -/
def isMappingError : PyError → Bool
  | .domain code _ _ => code = "invalid_evidence" || code = "unsupported_trace"
  | _ => false

/-- `except Exception as error: raise InvalidEvidence(...)`, around the build of a trace. -/
def guarded {α : Type} : Raises α → Raises α
  | .ok a => .ok a
  | .error error =>
    .error (if isMappingError error then error else invalidEvidence error.str)

/-- `normalize_runs(...)` -/
def normalizeRuns (runs : List SourceRun) (args : NormalizeArguments) : Raises NormalizedTrace := do
  checkRuns runs
  let entries ← runs.mapM toEvent
  match runs.head?, runs.find? (·.parentId.isNone) with
  | some first, some root =>
    guarded (buildEvidence (entries.map (·.1)) first root (entries.map (·.2)).flatten args)
  -- the checks found a root
  | _, _ => .error (unsupportedTrace "expected exactly one root run, found 0")

end Build

end ObservabilityLab
