import ObservabilityLab.Evidence.Trace
import ObservabilityLab.Simulation.Events
import ObservabilityLab.Simulation.RunBundle

/-!
# The events of spans

The listener of a run maps the start and the end of every span of the agent to events, and adds up
the measurements of the run on the side.

## Main definitions

* `SpanMetrics`, `pick`, `accumulateModel`: the measurements, and those of one answer of the model
* `SpanEventMapper.onSpan`: one notification
* `deliver`: a sequence of notifications, whatever they raise
-/

namespace ObservabilityLab

open Python Raising

/-! ## Measurements -/

/-- `_Metrics` -/
structure SpanMetrics extends Metrics where
  modelLatencyMs : PyFloat := 0
  inputTokens : ℤ := 0
  outputTokens : ℤ := 0
  totalTokens : ℤ := 0
  costUsd : Option PyFloat := none

/-- `float(value)`, of a number -/
def readFloat : PyValue → Option (Raises PyFloat)
  | .bool b => some (.ok (.ofRat b.toNat))
  | .int n => some (floatOfInt n)
  | .float x => some (.ok x)
  | _ => none

/-- `int(value)`, of a number -/
def readInt : PyValue → Option (Raises ℤ)
  | .bool b => some (.ok b.toNat)
  | .int n => some (.ok n)
  | .float .nan => some (.error (.value "cannot convert float NaN to integer"))
  | .float (.infinite _) =>
    some (.error (.other "OverflowError" "cannot convert float infinity to integer"))
  | .float (.finite q) => some (.ok (q.1.num.tdiv q.1.den))
  | _ => none

/-- The attribute that `_pick` keeps at a key. -/
def pickKey (attributes : Record) (key : String) : Option (String × PyValue) :=
  if key ∈ simulationEventAttributeAllowlist then
    ((attributes.lookup key).filter isScalar).map fun value => (key, value)
  else none

/-- `_pick(attributes, *keys)` -/
def pick (attributes : Record) (keys : List String) : Record := keys.filterMap (pickKey attributes)

/-- The collector and the measurements of a run. -/
structure RunRecording where
  collector : SimulationEventCollector
  metrics : SpanMetrics := {}

/-- A run before its first notification. -/
def RunRecording.fresh (collector : SimulationEventCollector) : RunRecording where
  collector := collector

/-- `self._collector.emit(kind, attributes)`, at a reading of the collector's clock -/
def emitSpanEvent (elapsedMs : PyFloat) (kind : SimulationEventKind) (attributes : Record) :
    EStateM PyError RunRecording Unit := fun recording =>
  match recording.collector.emit kind elapsedMs attributes with
  | (.ok _, collector) => .ok () { recording with collector := collector }
  | (.error e, collector) => .error e { recording with collector := collector }

/-- `setattr(self._metrics, ...)` -/
def updateMetrics (f : SpanMetrics → SpanMetrics) : EStateM PyError RunRecording Unit :=
  modify fun recording => { recording with metrics := f recording.metrics }

/-- Add an attribute that is a number to the measurements. -/
def accumulate {α : Type} (read : PyValue → Option (Raises α)) (attributes : Record) (key : String)
    (add : α → SpanMetrics → SpanMetrics) : EStateM PyError RunRecording Unit :=
  match (attributes.lookup key).bind read with
  | some result => do
    let value ← ofExcept result
    updateMetrics (add value)
  | none => pure ()

/-- `_accumulate_model(attributes)` -/
def accumulateModel (attributes : Record) : EStateM PyError RunRecording Unit := do
  accumulate readFloat attributes "model.latency.ms" fun latency metrics =>
    { metrics with modelLatencyMs := metrics.modelLatencyMs.add latency }
  accumulate readInt attributes "model.tokens.input" fun count metrics =>
    { metrics with inputTokens := metrics.inputTokens + count }
  accumulate readInt attributes "model.tokens.output" fun count metrics =>
    { metrics with outputTokens := metrics.outputTokens + count }
  accumulate readInt attributes "model.tokens.total" fun count metrics =>
    { metrics with totalTokens := metrics.totalTokens + count }
  accumulate readFloat attributes "model.cost.usd" fun cost metrics =>
    { metrics with costUsd := some ((metrics.costUsd.getD 0).add cost) }

/-! ## The listener -/

/-- One notification of the recorder, with the reading of the collector's clock. -/
structure Notification where
  span : TraceSpan
  ended : Bool
  elapsedMs : PyFloat

/-- `_SpanEventMapper` -/
structure SpanEventMapper where
  modelProvider : Option String
  modelName : Option String

section Mapper

variable [UnicodeTables] [FloatRepr] (mapper : SpanEventMapper)

omit [UnicodeTables] [FloatRepr] in
def SpanEventMapper.requestAttributes : Record :=
  (mapper.modelProvider.map fun provider => ("model.provider", PyValue.str provider)).toList ++
    (mapper.modelName.map fun name => ("model.name", PyValue.str name)).toList

/-- The attributes of a tool that ended. -/
def toolAttributes (tool : String) (span : TraceSpan) : Record :=
  ("tool", .str tool) :: pick span.attributes ["tool.order.id"] ++
    (span.toolError.map fun error => ("tool.error.code", PyValue.str error)).toList

/-- `_SpanEventMapper.__call__(span, ended)` -/
def SpanEventMapper.onSpan (notification : Notification) : EStateM PyError RunRecording Unit :=
  let span := notification.span
  let emit := emitSpanEvent notification.elapsedMs
  if span.name = "support_agent.routing" ∨ span.name = "support_agent.answer" then
    if !notification.ended then emit .modelRequest mapper.requestAttributes
    else do
      let attributes := pick span.attributes
        ["model.latency.ms", "model.tokens.input", "model.tokens.output", "model.tokens.total",
          "model.cost.usd", "model.run.id"]
      emit .modelResponse attributes
      accumulateModel attributes
  else
    match toolOfSpan span.name with
    | some tool =>
      if !notification.ended then emit .toolSelected [("tool", .str tool)]
      else do
        emit .dependencyResult (toolAttributes tool span)
        updateMetrics fun metrics =>
          { metrics with
            toolCalls := metrics.toolCalls ++ [tool]
            toolErrors := metrics.toolErrors ++ span.toolError.toList }
    | none =>
      if span.name = "support_agent.retry" ∧ notification.ended then do
        let retries := (← get).metrics.retries
        emit .retry [("retry.count",
          (span.attributes.lookup "support.retry.count").getD (.int (retries + 1)))]
        updateMetrics fun metrics => { metrics with retries := metrics.retries + 1 }
      else if span.name = "support_agent.database.read" ∧ notification.ended then
        let attributes := pick span.attributes ["db.operation", "db.latency.ms", "db.error.code"]
        if attributes ≠ [] then emit .dependencyResult attributes else pure ()
      else if span.name = "support_agent.retrieval.policy" ∧ notification.ended then
        let attributes := pick span.attributes ["retrieval.policy.version"]
        if attributes ≠ [] then do
          emit .dependencyResult attributes
          match attributes.lookup "retrieval.policy.version" with
          | some (.str version) => updateMetrics fun metrics =>
            { metrics with retrievedPolicyVersion := some version }
          | _ => pure ()
        else pure ()
      else if span.name = "support_agent.turn" ∧ notification.ended then
        match span.attributes.lookup "support.policy.grounded" with
        | some (.bool grounded) => updateMetrics fun metrics =>
          { metrics with policyGrounded := some grounded }
        | _ => pure ()
      else pure ()

/-- A sequence of notifications; what one raises does not stop the next one. -/
def deliver (notifications : List Notification) (recording : RunRecording) : RunRecording :=
  notifications.foldl (fun recording notification =>
    finalState ((mapper.onSpan notification).run recording)) recording

end Mapper

end ObservabilityLab
