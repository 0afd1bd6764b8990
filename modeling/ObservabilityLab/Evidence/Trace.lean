import ObservabilityLab.Evidence.Document
import ObservabilityLab.Python.DateTime

/-!
# Normalized traces

One selected run of a provider after normalization: its source, its outcome, its ordered events, and
what is aggregated from them. An event carries the bounds of its fields, and a trace the checks of
its schema, the order of its events among them.

## Main definitions

* `Scalar`: the value of an attribute
* `TraceEvent`, `TraceEvent.new`: one event, and its schema
* `checkEvents`: the validator of the event tree
* `NormalizedTrace`, `NormalizedTrace.new`: a trace, and its schema
* `NormalizedTrace.evidence`: the trace as a bundle compiler reads it
-/

namespace ObservabilityLab

open Python

/-! ## Scalars -/

/-- The value of an attribute: `bool | int | float | str`. -/
inductive Scalar where
  | bool (b : Bool)
  | int (n : ℤ)
  | float (x : PyFloat)
  | str (s : String)
deriving DecidableEq

namespace Scalar

/-- The value as an untyped one. -/
def toPy : Scalar → PyValue
  | bool b => .bool b
  | int n => .int n
  | float x => .float x
  | str s => .str s

/-- The scalar that an untyped value is. -/
def ofPy : PyValue → Option Scalar
  | .bool b => some (bool b)
  | .int n => some (int n)
  | .float x => some (float x)
  | .str s => some (str s)
  | _ => none

/-- `left == right` -/
def eq (left right : Scalar) : Bool := left.toPy.eq right.toPy

/-- `bool(value)` -/
def truthy (value : Scalar) : Bool := value.toPy.truthy

/-- The text, if the value is one. -/
def text : Scalar → Option String
  | str s => some s
  | _ => none

end Scalar

/-- `float(n)` -/
def floatOfInt (n : ℤ) : Raises PyFloat :=
  match PyFloat.ofRat n with
  | .infinite _ => .error (.other "OverflowError" "int too large to convert to float")
  | x => .ok x

/-- Attributes by their names. -/
abbrev Attributes := List (String × Scalar)

/-- The attributes as untyped values. -/
def Attributes.toPy (attributes : Attributes) : PyValue :=
  .dict (attributes.map fun entry => (entry.1, entry.2.toPy))

/-! ## The parts of a trace -/

/-- A full match of `^[a-z0-9_]+$`. -/
def isStableCode (s : String) : Bool :=
  matchesAll (fun c => isLower c || isAsciiDigit c || c = '_') s

/-- `Field(ge=0)`, which NaN passes. -/
def isNonNegative (x : PyFloat) : Bool := !x.lt 0

inductive TraceEventKind where
  | turn | routing | answer | model | tool | retrieval | database | policy | confirmation
  | escalation | retry | step
deriving DecidableEq

def TraceEventKind.value : TraceEventKind → String
  | turn => "turn"
  | routing => "routing"
  | answer => "answer"
  | model => "model"
  | tool => "tool"
  | retrieval => "retrieval"
  | database => "database"
  | policy => "policy"
  | confirmation => "confirmation"
  | escalation => "escalation"
  | retry => "retry"
  | step => "step"

/-- The bounds of the fields of a `TraceEvent`. -/
def validEvent (eventId name : String) (parentId : Option String) (durationMs : Option PyFloat)
    (errorCode : Option String) : Bool :=
  lengthWithin 1 200 eventId && lengthWithin 1 200 name && optionWithin 200 parentId &&
    durationMs.all isNonNegative && errorCode.all isStableCode

structure TraceEvent where
  eventId : String
  kind : TraceEventKind
  name : String
  parentId : Option String
  startTime : DateTime
  endTime : Option DateTime
  durationMs : Option PyFloat
  errorCode : Option String
  attributes : Attributes
  valid : validEvent eventId name parentId durationMs errorCode = true
deriving DecidableEq

/-- `TraceEvent(...)` -/
def TraceEvent.new (eventId : String) (kind : TraceEventKind) (name : String)
    (parentId : Option String) (startTime : DateTime) (endTime : Option DateTime)
    (durationMs : Option PyFloat) (errorCode : Option String) (attributes : Attributes) :
    Raises TraceEvent :=
  if h : validEvent eventId name parentId durationMs errorCode = true then
    .ok ⟨eventId, kind, name, parentId, startTime, endTime, durationMs, errorCode, attributes, h⟩
  else .error (.validation "TraceEvent" "constraints")

/-- `event.attributes.get(key)` -/
def TraceEvent.get (event : TraceEvent) (key : String) : Option Scalar :=
  event.attributes.lookup key

structure TraceModelRef where
  provider : Option String
  name : Option String
deriving DecidableEq

/-- `TraceModelRef(...)` -/
def TraceModelRef.new (model : TraceModelRef) : Raises TraceModelRef := do
  checkField (optionWithin 100 model.provider) "TraceModelRef" "provider"
  checkField (optionWithin 200 model.name) "TraceModelRef" "name"
  return model

structure TokenUsage where
  inputTokens : ℤ := 0
  outputTokens : ℤ := 0
  totalTokens : ℤ := 0
  costUsd : Option PyFloat := none
deriving DecidableEq

/-- `TokenUsage(...)` -/
def TokenUsage.new (usage : TokenUsage) : Raises TokenUsage := do
  checkField (0 ≤ usage.inputTokens) "TokenUsage" "input_tokens"
  checkField (0 ≤ usage.outputTokens) "TokenUsage" "output_tokens"
  checkField (0 ≤ usage.totalTokens) "TokenUsage" "total_tokens"
  checkField (usage.costUsd.all isNonNegative) "TokenUsage" "cost_usd"
  return usage

structure TurnTiming where
  totalLatencyMs : Option PyFloat := none
  modelLatencyMs : Option PyFloat := none
  dbLatencyMs : Option PyFloat := none
  retrievalLatencyMs : Option PyFloat := none
  budgetMs : Option ℤ := none
deriving DecidableEq

/-- `TurnTiming(...)` without a budget -/
def TurnTiming.new (timing : TurnTiming) : Raises TurnTiming := do
  checkField (timing.totalLatencyMs.all isNonNegative) "TurnTiming" "total_latency_ms"
  checkField (timing.modelLatencyMs.all isNonNegative) "TurnTiming" "model_latency_ms"
  checkField (timing.dbLatencyMs.all isNonNegative) "TurnTiming" "db_latency_ms"
  checkField (timing.retrievalLatencyMs.all isNonNegative) "TurnTiming" "retrieval_latency_ms"
  return timing

structure DependencyCall where
  kind : TraceEventKind
  name : String
  errorCode : Option String
  durationMs : Option PyFloat
deriving DecidableEq

/-- `DependencyCall(...)` -/
def DependencyCall.new (call : DependencyCall) : Raises DependencyCall := do
  checkField (lengthWithin 1 200 call.name) "DependencyCall" "name"
  checkField (call.errorCode.all isStableCode) "DependencyCall" "error_code"
  checkField (call.durationMs.all isNonNegative) "DependencyCall" "duration_ms"
  return call

structure PolicyDecision where
  version : Option String
  decision : Option String
  reasonCode : Option String
deriving DecidableEq

/-- `PolicyDecision(...)` -/
def PolicyDecision.new (decision : PolicyDecision) : Raises PolicyDecision := do
  checkField (optionWithin 100 decision.version) "PolicyDecision" "version"
  checkField (optionWithin 100 decision.decision) "PolicyDecision" "decision"
  checkField (decision.reasonCode.all isStableCode) "PolicyDecision" "reason_code"
  return decision

structure ConfirmationDecision where
  required : Bool
  verified : Bool
deriving DecidableEq

structure RedactionMetadata where
  note : String := "Only allowlisted attributes are kept. Unknown sensitive fields are " ++
    "rejected. Unneeded vendor keys are dropped."
  droppedKeys : List String := []
deriving DecidableEq

/-- `TraceSourceRef(...)` -/
def TraceSourceRef.new (source : TraceSourceRef) : Raises TraceSourceRef := do
  checkField source.isValid "TraceSourceRef" "constraints"
  return source

/-! ## The tree of events -/

def taskInputAllowlist : List String :=
  ["agent.workflow.version", "prompt.version", "agent.routing.instructions.version",
    "agent.answer.instructions.version", "support.intent", "support.confidence",
    "support.message.length"]

def taskOutputAllowlist : List String :=
  ["support.outcome", "support.reason.code", "support.policy.grounded", "support.retry.count"]

/-- The attributes that a trace may record. -/
def traceAttributeAllowlist : List String :=
  ["agent.workflow.version", "workflow.id", "workflow.run.id", "workflow.node", "workflow.route",
    "prompt.version", "agent.routing.instructions.version", "agent.answer.instructions.version",
    "routing.route", "routing.confidence", "agent.model.provider", "agent.model.name",
    "support.intent", "support.confidence", "support.outcome", "support.reason.code",
    "support.policy.grounded", "support.message.length", "support.latency.ms",
    "support.tokens.input", "support.tokens.output", "support.tokens.total", "support.cost.usd",
    "support.retry.count", "model.latency.ms", "model.tokens.input", "model.tokens.output",
    "model.tokens.total", "model.cost.usd", "model.run.id", "retrieval.source",
    "retrieval.policy.slug", "retrieval.policy.version", "retrieval.latency.ms", "retrieval.score",
    "retrieval.query.hash", "retrieval.corpus.version", "retrieval.hit.ids", "retrieval.hit.ranks",
    "retrieval.hit.scores", "retrieval.fusion.k", "retrieval.dataset.version", "tool.name",
    "tool.order.id", "tool.latency.ms", "tool.error.code", "generation.error.code",
    "generation.finish.reason", "db.operation", "db.latency.ms", "db.error.code", "policy.version",
    "policy.decision", "policy.reason.code", "confirmation.required", "confirmation.verified",
    "escalation.ticket.id", "escalation.reason.code", "scenario.id", "scenario.category",
    "scenario.cause", "langsmith.project", "service.name", "service.environment"]

/-- `d < e` -/
def isBefore (d e : DateTime) : Raises Bool :=
  match d.since e with
  | some elapsed => .ok (elapsed < 0)
  | none => .error (.other "TypeError" "can't compare offset-naive and offset-aware datetimes")

section Schema

variable [UnicodeTables]

/-- What a validator of a trace raises, as pydantic reports it. -/
def traceError (message : String) : PyError := .validation "TraceEvidence" message

/-- A mapping records allowlisted fields only. -/
def checkAllowlist (field : String) (values : Attributes) (allowlist : List String) :
    Raises Unit :=
  let unknown := sortedSet ((values.map (·.1)).filter (· ∉ allowlist))
  raiseIf (!unknown.isEmpty)
    (traceError (field ++ " records non-allowlisted fields " ++ reprList (unknown.map reprText)))

/-- The checks of one event, `seen` being the events before it; the result tells a root. -/
def checkEvent (seen : List TraceEvent) (event : TraceEvent) : Raises Bool := do
  let name := "event " ++ reprText event.eventId
  raiseIf (seen.any (·.eventId = event.eventId))
    (traceError ("duplicate event id " ++ reprText event.eventId))
  let endsEarly ← match event.endTime with
    | some endTime => isBefore endTime event.startTime
    | none => .ok false
  raiseIf endsEarly (traceError (name ++ " ends before it starts"))
  event.attributes.forM fun entry => raiseIf (entry.1 ∉ traceAttributeAllowlist)
    (traceError (name ++ " records non-allowlisted attribute " ++ reprText entry.1))
  match event.parentId with
  | none => return true
  | some parentId =>
    -- an event that names itself as its parent finds itself
    match (event :: seen).find? (·.eventId = parentId) with
    | none => .error (traceError (name ++ " references unknown parent " ++ reprText parentId))
    | some parent =>
      let startsEarly ← isBefore event.startTime parent.startTime
      raiseIf startsEarly (traceError (name ++ " starts before its parent " ++ reprText parentId))
      return false

/-- The number of roots among the events, each of which is checked against the ones before it. -/
def checkEvents (seen : List TraceEvent) : List TraceEvent → Raises ℕ
  | [] => .ok 0
  | event :: events => do
    let isRoot ← checkEvent seen event
    let roots ← checkEvents (event :: seen) events
    return roots + isRoot.toNat

/-- The fields of a trace. -/
structure TraceFields where
  schemaVersion : String := "3.0.0"
  evidenceId : Uuid
  source : TraceSourceRef
  scenarioId : Option String
  workflow : Option String
  environment : Option String
  workflowVersion : Option String
  model : Option TraceModelRef
  outcome : TraceOutcome
  reasonCode : String
  events : List TraceEvent
  taskInput : Attributes
  taskOutput : Attributes
  tokens : TokenUsage
  timing : TurnTiming
  retryCount : ℤ
  dependencyCalls : List DependencyCall
  policyDecisions : List PolicyDecision
  confirmation : Option ConfirmationDecision
  redaction : RedactionMetadata
  contentHash : Option HexDigest := none
deriving DecidableEq

/-- `validate_event_tree` -/
def TraceFields.validateEventTree (fields : TraceFields) : Raises Unit := do
  checkAllowlist "task_input" fields.taskInput taskInputAllowlist
  checkAllowlist "task_output" fields.taskOutput taskOutputAllowlist
  let roots ← checkEvents [] fields.events
  raiseIf (roots ≠ 1)
    (traceError ("a trace must have exactly one root event, found " ++ toString roots))

/-- The checks of the schema. -/
def TraceFields.check (fields : TraceFields) : Raises Unit := do
  checkField (validFields fields.schemaVersion fields.source fields.scenarioId
    fields.workflowVersion fields.reasonCode) "TraceEvidence" "constraints"
  checkField (optionWithin 100 fields.workflow) "TraceEvidence" "workflow"
  checkField (optionWithin 100 fields.environment) "TraceEvidence" "environment"
  checkField (!fields.events.isEmpty) "TraceEvidence" "events"
  checkField (0 ≤ fields.retryCount) "TraceEvidence" "retry_count"
  fields.validateEventTree

/-- A trace that its schema accepts. -/
structure NormalizedTrace extends TraceFields where
  checked : toTraceFields.check = .ok ()

/-- `TraceEvidence(...)` -/
def NormalizedTrace.new (fields : TraceFields) : Raises NormalizedTrace :=
  match h : fields.check with
  | .ok () => .ok ⟨fields, h⟩
  | .error error => .error error

/-! ## The dump -/

section Dump

variable [DateTimeTexts]

open PyValue (ofOption ofTexts)

/-- `None`, or the dump of a value. -/
def dumpOption {α : Type} (dump : α → PyValue) (value : Option α) : PyValue :=
  value.elim .none dump

def TraceEvent.dump (event : TraceEvent) : PyValue :=
  .dict [("event_id", .str event.eventId), ("kind", .str event.kind.value),
    ("name", .str event.name), ("parent_id", ofOption event.parentId),
    ("start_time", .str (DateTimeTexts.json event.startTime)),
    ("end_time", ofOption (event.endTime.map DateTimeTexts.json)),
    ("duration_ms", dumpOption .float event.durationMs), ("error_code", ofOption event.errorCode),
    ("attributes", event.attributes.toPy)]

omit [UnicodeTables] [DateTimeTexts] in
def TokenUsage.dump (usage : TokenUsage) : PyValue :=
  .dict [("input_tokens", .int usage.inputTokens), ("output_tokens", .int usage.outputTokens),
    ("total_tokens", .int usage.totalTokens), ("cost_usd", dumpOption .float usage.costUsd)]

omit [UnicodeTables] [DateTimeTexts] in
def TurnTiming.dump (timing : TurnTiming) : PyValue :=
  .dict [("total_latency_ms", dumpOption .float timing.totalLatencyMs),
    ("model_latency_ms", dumpOption .float timing.modelLatencyMs),
    ("db_latency_ms", dumpOption .float timing.dbLatencyMs),
    ("retrieval_latency_ms", dumpOption .float timing.retrievalLatencyMs),
    ("budget_ms", dumpOption .int timing.budgetMs)]

omit [UnicodeTables] [DateTimeTexts] in
def DependencyCall.dump (call : DependencyCall) : PyValue :=
  .dict [("kind", .str call.kind.value), ("name", .str call.name),
    ("error_code", ofOption call.errorCode), ("duration_ms", dumpOption .float call.durationMs)]

omit [UnicodeTables] [DateTimeTexts] in
def PolicyDecision.dump (decision : PolicyDecision) : PyValue :=
  .dict [("version", ofOption decision.version), ("decision", ofOption decision.decision),
    ("reason_code", ofOption decision.reasonCode)]

/-- The trace as a bundle compiler reads it. -/
def NormalizedTrace.evidence (trace : NormalizedTrace) : TraceEvidence where
  source := trace.source
  scenarioId := trace.scenarioId
  fields :=
    [("schema_version", .str trace.schemaVersion), ("evidence_id", .str trace.evidenceId.str),
      ("workflow", ofOption trace.workflow), ("environment", ofOption trace.environment),
      ("workflow_version", ofOption trace.workflowVersion),
      ("model", dumpOption (fun model => .dict
        [("provider", ofOption model.provider), ("name", ofOption model.name)]) trace.model),
      ("outcome", .str trace.outcome.value), ("reason_code", .str trace.reasonCode),
      ("events", .list (trace.events.map (·.dump))), ("task_input", trace.taskInput.toPy),
      ("task_output", trace.taskOutput.toPy), ("tokens", trace.tokens.dump),
      ("timing", trace.timing.dump), ("retry_count", .int trace.retryCount),
      ("dependency_calls", .list (trace.dependencyCalls.map (·.dump))),
      ("policy_decisions", .list (trace.policyDecisions.map (·.dump))),
      ("confirmation", dumpOption (fun confirmation => .dict
        [("required", .bool confirmation.required), ("verified", .bool confirmation.verified)])
        trace.confirmation),
      ("redaction", .dict [("note", .str trace.redaction.note),
        ("dropped_keys", ofTexts trace.redaction.droppedKeys)])]

end Dump

end Schema

end ObservabilityLab
