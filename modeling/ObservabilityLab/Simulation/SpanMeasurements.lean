import ObservabilityLab.Simulation.Numbering
import ObservabilityLab.Simulation.SpanEvents

/-!
# The measurements of a run

What the listener of a run adds up is the fold of the transcript that it emits. A notification emits
its event first and measures it then, so that a rejected event is not measured.

## Main definitions

* `Measurements.add`, `measuredOf`: what one event adds, and the fold of a transcript
* `MeasuresTranscript`: the measurements as sums and lists over the events

## Main results

* `keeps_onSpan`: a notification keeps the measurements the fold of the transcript
* `measuresTranscript_deliver`: so does every sequence of notifications
-/

namespace ObservabilityLab

open Python Raising

/-! ## The fold of a transcript -/

/-- The count of tokens that an event carries. -/
def tokenCount (key : String) (event : SimulationEvent) : ℤ :=
  match event.attributes.lookup key with
  | some (.int n) => n
  | _ => 0

/-- The text of an attribute of the result of a dependency. -/
def dependencyText (key : String) (event : SimulationEvent) : Option String :=
  if event.kind = .dependencyResult then
    match event.attributes.lookup key with
    | some (.str text) => some text
    | _ => none
  else none

/-- The error code of a tool that ended. -/
def toolErrorText (event : SimulationEvent) : Option String :=
  (dependencyText "tool" event).bind fun _ => dependencyText "tool.error.code" event

/-- The measurements of a run that its transcript determines. -/
structure Measurements where
  inputTokens : ℤ := 0
  outputTokens : ℤ := 0
  totalTokens : ℤ := 0
  retries : ℕ := 0
  toolCalls : List String := []
  toolErrors : List String := []
  retrievedPolicyVersion : Option String := none

def SpanMetrics.measured (metrics : SpanMetrics) : Measurements where
  inputTokens := metrics.inputTokens
  outputTokens := metrics.outputTokens
  totalTokens := metrics.totalTokens
  retries := metrics.retries
  toolCalls := metrics.toolCalls
  toolErrors := metrics.toolErrors
  retrievedPolicyVersion := metrics.retrievedPolicyVersion

/-- What one event adds. -/
def Measurements.add (measured : Measurements) (event : SimulationEvent) : Measurements :=
  if event.kind = .modelResponse then
    { measured with
      inputTokens := measured.inputTokens + tokenCount "model.tokens.input" event
      outputTokens := measured.outputTokens + tokenCount "model.tokens.output" event
      totalTokens := measured.totalTokens + tokenCount "model.tokens.total" event }
  else if event.kind = .retry then { measured with retries := measured.retries + 1 }
  else
    { measured with
      toolCalls := measured.toolCalls ++ (dependencyText "tool" event).toList
      toolErrors := measured.toolErrors ++ (toolErrorText event).toList
      retrievedPolicyVersion :=
        (dependencyText "retrieval.policy.version" event).or measured.retrievedPolicyVersion }

/-- **The fold of a transcript.** -/
def measuredOf (events : List SimulationEvent) : Measurements := events.foldl Measurements.add {}

theorem measuredOf_concat (events : List SimulationEvent) (event : SimulationEvent) :
    measuredOf (events ++ [event]) = (measuredOf events).add event := by
  rw [measuredOf, List.foldl_append]
  rfl

/-- The sum of the token counts that the answers of the model carry. -/
def responseTokens (key : String) (events : List SimulationEvent) : ℤ :=
  ((events.filter (·.kind = .modelResponse)).map (tokenCount key)).sum

/-- **The measurements of a run, over its transcript.** -/
structure MeasuresTranscript (events : List SimulationEvent) (metrics : SpanMetrics) : Prop where
  inputTokens : metrics.inputTokens = responseTokens "model.tokens.input" events
  outputTokens : metrics.outputTokens = responseTokens "model.tokens.output" events
  totalTokens : metrics.totalTokens = responseTokens "model.tokens.total" events
  retries : metrics.retries = events.countP (·.kind = .retry)
  toolCalls : metrics.toolCalls = events.filterMap (dependencyText "tool")
  toolErrors : metrics.toolErrors = events.filterMap toolErrorText
  retrievedPolicyVersion : metrics.retrievedPolicyVersion =
    (events.filterMap (dependencyText "retrieval.policy.version")).getLast?

theorem responseTokens_concat (key : String) (events : List SimulationEvent)
    (event : SimulationEvent) : responseTokens key (events ++ [event]) =
      responseTokens key events +
        if event.kind = .modelResponse then tokenCount key event else 0 := by
  rw [responseTokens, List.filter_append, List.map_append, List.sum_append, responseTokens]
  by_cases h : event.kind = .modelResponse
  · simp [h]
  · simp [h]

theorem filterMap_concat (f : SimulationEvent → Option String) (events : List SimulationEvent)
    (event : SimulationEvent) :
    (events ++ [event]).filterMap f = events.filterMap f ++ (f event).toList := by
  rw [List.filterMap_append]
  cases h : f event <;> simp [h]

/-- The fold of a transcript, part by part. -/
theorem measuredOf_eq (events : List SimulationEvent) : measuredOf events =
    { inputTokens := responseTokens "model.tokens.input" events
      outputTokens := responseTokens "model.tokens.output" events
      totalTokens := responseTokens "model.tokens.total" events
      retries := events.countP (·.kind = .retry)
      toolCalls := events.filterMap (dependencyText "tool")
      toolErrors := events.filterMap toolErrorText
      retrievedPolicyVersion :=
        (events.filterMap (dependencyText "retrieval.policy.version")).getLast? } := by
  induction events using List.reverseRecOn with
  | nil => rfl
  | append_singleton events event ih =>
    rw [measuredOf_concat, ih, Measurements.add]
    simp only [responseTokens_concat, filterMap_concat, List.countP_append, List.getLast?_append]
    by_cases hresponse : event.kind = .modelResponse
    · simp [hresponse, dependencyText, toolErrorText]
    · by_cases hretry : event.kind = .retry
      · simp [hretry, dependencyText, toolErrorText]
      · cases dependencyText "retrieval.policy.version" event <;> simp [hresponse, hretry]

theorem measuresTranscript_iff {events : List SimulationEvent} {metrics : SpanMetrics} :
    MeasuresTranscript events metrics ↔ metrics.measured = measuredOf events := by
  rw [measuredOf_eq, SpanMetrics.measured, Measurements.mk.injEq]
  constructor
  · rintro ⟨hinput, houtput, htotal, hretries, hcalls, herrors, hversion⟩
    exact ⟨hinput, houtput, htotal, hretries, hcalls, herrors, hversion⟩
  · rintro ⟨hinput, houtput, htotal, hretries, hcalls, herrors, hversion⟩
    exact ⟨hinput, houtput, htotal, hretries, hcalls, herrors, hversion⟩

/-! ## Picked attributes -/

section Picked

variable {attributes : Record} {key : String} {keys : List String}

/-- What is kept of an attribute. -/
theorem lookup_pick : (pick attributes keys).lookup key =
    if key ∈ keys then (pickKey attributes key).map (·.2) else none := by
  induction keys with
  | nil => rfl
  | cons first keys ih =>
    rw [pick, List.filterMap_cons]
    have hfirst : ∀ entry, pickKey attributes first = some entry → entry.1 = first := by
      intro entry hentry
      unfold pickKey at hentry
      split_ifs at hentry
      obtain ⟨value, -, rfl⟩ := Option.map_eq_some_iff.mp hentry
      rfl
    cases hpick : pickKey attributes first with
    | none =>
      dsimp only
      rw [← pick, ih]
      by_cases hkey : key = first
      · rw [hkey, hpick]
        simp
      · simp [hkey]
    | some entry =>
      obtain rfl := hfirst entry hpick
      dsimp only
      rw [← pick, List.lookup_cons, ih]
      by_cases hkey : key = entry.1
      · simp [hkey, hpick]
      · rw [beq_false_of_ne hkey]
        simp [hkey]

/-- The token counts of a span are integers, and its latency is no integer beyond the floats. -/
structure Countable (attributes : Record) : Prop where
  tokens : ∀ key ∈ ["model.tokens.input", "model.tokens.output", "model.tokens.total"],
    ∀ value, attributes.lookup key = some value → ∃ n, value = .int n
  latency : ∀ n, attributes.lookup "model.latency.ms" = some (.int n) →
    ∃ x, floatOfInt n = .ok x

/-- The picked attributes of an answer of the model. -/
def modelAttributes (attributes : Record) : Record :=
  pick attributes
    ["model.latency.ms", "model.tokens.input", "model.tokens.output", "model.tokens.total",
      "model.cost.usd", "model.run.id"]

theorem lookup_of_pickKey {entry : String × PyValue} (h : pickKey attributes key = some entry) :
    attributes.lookup key = some entry.2 := by
  unfold pickKey at h
  split_ifs at h
  obtain ⟨value, hvalue, rfl⟩ := Option.map_eq_some_iff.mp h
  exact (Option.filter_eq_some_iff.mp hvalue).1

/-- A picked attribute is one of the span. -/
theorem lookup_of_pick {value : PyValue} (h : (pick attributes keys).lookup key = some value) :
    attributes.lookup key = some value := by
  rw [lookup_pick] at h
  split_ifs at h
  obtain ⟨entry, hentry, rfl⟩ := Option.map_eq_some_iff.mp h
  exact lookup_of_pickKey hentry

end Picked

/-! ## One notification -/

/-- The measurements are the fold of the transcript. -/
def Folded (recording : RunRecording) : Prop :=
  recording.metrics.measured = measuredOf recording.collector.events

/-- An event was emitted, and is not measured yet. -/
def Emitted (kind : SimulationEventKind) (attributes : Record) (recording : RunRecording) : Prop :=
  ∃ event : SimulationEvent, event.kind = kind ∧ event.attributes = attributes ∧
    recording.metrics.measured.add event = measuredOf recording.collector.events

section Step

variable {kind : SimulationEventKind} {attributes : Record} {elapsedMs : PyFloat}

/-- An accepted emission appends an event of the kind and with the attributes that it was given. -/
theorem emit_eq_ok {collector after : SimulationEventCollector} {event : SimulationEvent}
    (h : collector.emit kind elapsedMs attributes = (.ok event, after)) :
    event.kind = kind ∧ event.attributes = attributes ∧
      after.events = collector.events ++ [event] := by
  unfold SimulationEventCollector.emit at h
  cases hnew : SimulationEvent.new (collector.sequence + 1) kind elapsedMs attributes with
  | error e => simp [hnew] at h
  | ok new =>
    rw [hnew] at h
    obtain ⟨hevent, rfl⟩ := Prod.mk.inj h
    obtain rfl := Except.ok.inj hevent
    unfold SimulationEvent.new at hnew
    split_ifs at hnew
    obtain rfl := Except.ok.inj hnew
    exact ⟨rfl, rfl, rfl⟩

theorem events_emit_error {collector after : SimulationEventCollector} {e : PyError}
    (h : collector.emit kind elapsedMs attributes = (.error e, after)) :
    after.events = collector.events := by
  unfold SimulationEventCollector.emit at h
  cases hnew : SimulationEvent.new (collector.sequence + 1) kind elapsedMs attributes with
  | error e =>
    rw [hnew] at h
    rw [← (Prod.mk.inj h).2]
  | ok new => simp [hnew] at h

/-- **An emission** appends its event, or leaves the transcript as it was. -/
theorem triple_emitSpanEvent : Triple Folded (emitSpanEvent elapsedMs kind attributes)
    (fun _ => Emitted kind attributes) fun _ => Folded := by
  intro recording hfolded
  cases hemit : recording.collector.emit kind elapsedMs attributes with
  | mk result after =>
    cases result with
    | ok event =>
      have hrun : (emitSpanEvent elapsedMs kind attributes).run recording =
          .ok () { recording with collector := after } := by
        simp only [emitSpanEvent, EStateM.run, hemit]
      obtain ⟨hkind, hattributes, hevents⟩ := emit_eq_ok hemit
      rw [hrun]
      refine ⟨event, hkind, hattributes, ?_⟩
      rw [hevents, measuredOf_concat, ← hfolded]
    | error e =>
      have hrun : (emitSpanEvent elapsedMs kind attributes).run recording =
          .error e { recording with collector := after } := by
        simp only [emitSpanEvent, EStateM.run, hemit]
      rw [hrun]
      dsimp only
      rw [Folded, events_emit_error hemit]
      exact hfolded

/-- An event that measures nothing. -/
theorem keeps_emitSpanEvent (h : ∀ event : SimulationEvent, event.kind = kind →
    event.attributes = attributes → ∀ measured : Measurements, measured.add event = measured) :
    Keeps Folded (emitSpanEvent elapsedMs kind attributes) := by
  apply triple_mono triple_emitSpanEvent
  · exact fun _ hfolded => hfolded
  · rintro _ recording ⟨event, hkind, hattributes, hmeasured⟩
    rw [h event hkind hattributes] at hmeasured
    exact hmeasured
  · exact fun _ _ hfolded => hfolded

/-- An event, and then its measurements. -/
theorem keeps_emitSpanEvent_bind {rest : Unit → EStateM PyError RunRecording Unit}
    (h : Triple (Emitted kind attributes) (rest ()) (fun _ => Folded) fun _ => Folded) :
    Keeps Folded (emitSpanEvent elapsedMs kind attributes >>= rest) :=
  triple_bind triple_emitSpanEvent fun _ => h

theorem triple_updateMetrics {f : SpanMetrics → SpanMetrics}
    (h : ∀ event : SimulationEvent, event.kind = kind → event.attributes = attributes →
      ∀ metrics : SpanMetrics, (f metrics).measured = metrics.measured.add event) :
    Triple (Emitted kind attributes) (updateMetrics f) (fun _ => Folded) fun _ => Folded := by
  apply triple_modify
  rintro recording ⟨event, hkind, hattributes, hmeasured⟩
  rw [Folded, ← hmeasured]
  exact h event hkind hattributes recording.metrics

/-- A part of the measurements that the transcript does not determine. -/
theorem keeps_updateMetrics {f : SpanMetrics → SpanMetrics}
    (h : ∀ metrics : SpanMetrics, (f metrics).measured = metrics.measured) :
    Keeps Folded (updateMetrics f) := by
  apply triple_modify
  intro recording hfolded
  exact (h recording.metrics).trans hfolded

/-! ## The answers of the model -/

/-- The measurements that a part of an answer changes. -/
theorem triple_accumulate {α : Type} {read : PyValue → Option (Raises α)} {key : String}
    {add : α → SpanMetrics → SpanMetrics} {P Q E : RunRecording → Prop}
    (hok : ∀ value, (attributes.lookup key).bind read = some (.ok value) → ∀ recording,
      P recording → Q { recording with metrics := add value recording.metrics })
    (hnone : (attributes.lookup key).bind read = none → ∀ recording, P recording → Q recording)
    (herror : ∀ e, (attributes.lookup key).bind read = some (.error e) → ∀ recording,
      P recording → E recording) :
    Triple P (accumulate read attributes key add) (fun _ => Q) fun _ => E := by
  unfold accumulate
  cases hread : (attributes.lookup key).bind read with
  | none => exact triple_pure (hnone hread)
  | some result =>
    cases result with
    | ok value => exact triple_modify (hok value hread)
    | error e => exact triple_throw (herror e hread)

/-- The integer that a picked token count is. -/
def pickedCount (key : String) (attributes : Record) : ℤ :=
  match (modelAttributes attributes).lookup key with
  | some (.int n) => n
  | _ => 0

/-- The transcript, and the measurements of a recording. -/
def RecordingIs (events : List SimulationEvent) (measured : Measurements)
    (recording : RunRecording) : Prop :=
  recording.collector.events = events ∧ recording.metrics.measured = measured

/-- One count of tokens is added. -/
theorem triple_accumulate_tokens {events : List SimulationEvent} {measured : Measurements}
    {add : ℤ → SpanMetrics → SpanMetrics} {key : String}
    (addMeasured : ℤ → Measurements → Measurements) (hcountable : Countable attributes)
    (hkey : key ∈ ["model.tokens.input", "model.tokens.output", "model.tokens.total"])
    (hadd : ∀ n metrics, (add n metrics).measured = addMeasured n metrics.measured)
    (hzero : ∀ measured, addMeasured 0 measured = measured) {E : RunRecording → Prop} :
    Triple (RecordingIs events measured) (accumulate readInt (modelAttributes attributes) key add)
      (fun _ => RecordingIs events (addMeasured (pickedCount key attributes) measured))
      fun _ => E := by
  have hint (value : PyValue) (h : (modelAttributes attributes).lookup key = some value) :
      ∃ n, value = .int n := hcountable.tokens key hkey value (lookup_of_pick h)
  apply triple_accumulate
  · rintro n hread recording ⟨hevents, hmeasured⟩
    obtain ⟨value, hvalue, hread⟩ := Option.bind_eq_some_iff.mp hread
    obtain ⟨m, rfl⟩ := hint value hvalue
    obtain rfl := Except.ok.inj (Option.some.inj hread)
    refine ⟨hevents, ?_⟩
    rw [hadd, hmeasured, pickedCount, hvalue]
  · rintro hread recording ⟨hevents, hmeasured⟩
    refine ⟨hevents, ?_⟩
    cases hvalue : (modelAttributes attributes).lookup key with
    | none => rw [pickedCount, hvalue, hmeasured, hzero]
    | some value =>
      obtain ⟨m, rfl⟩ := hint value hvalue
      rw [hvalue] at hread
      cases hread
  · intro e hread
    obtain ⟨value, hvalue, hread⟩ := Option.bind_eq_some_iff.mp hread
    obtain ⟨m, rfl⟩ := hint value hvalue
    cases hread

/-- The latency is no part of what the transcript determines. -/
theorem triple_accumulate_latency {events : List SimulationEvent} {measured : Measurements}
    (hcountable : Countable attributes) {E : RunRecording → Prop} :
    Triple (RecordingIs events measured)
      (accumulate readFloat (modelAttributes attributes) "model.latency.ms" fun latency metrics =>
        { metrics with modelLatencyMs := metrics.modelLatencyMs.add latency })
      (fun _ => RecordingIs events measured) fun _ => E := by
  apply triple_accumulate
  · exact fun _ _ _ h => h
  · exact fun _ _ h => h
  · intro e hread
    obtain ⟨value, hvalue, hread⟩ := Option.bind_eq_some_iff.mp hread
    cases value with
    | int n =>
      obtain ⟨x, hx⟩ := hcountable.latency n (lookup_of_pick hvalue)
      rw [readFloat, hx] at hread
      cases hread
    | _ => cases hread

/-- A cost that no float reaches raises after the tokens were counted. -/
theorem triple_accumulate_cost {events : List SimulationEvent} {measured : Measurements} :
    Triple (RecordingIs events measured)
      (accumulate readFloat (modelAttributes attributes) "model.cost.usd" fun cost metrics =>
        { metrics with costUsd := some ((metrics.costUsd.getD 0).add cost) })
      (fun _ => RecordingIs events measured) fun _ => RecordingIs events measured := by
  apply triple_accumulate
  · exact fun _ _ _ h => h
  · exact fun _ _ h => h
  · exact fun _ _ _ h => h

/-- **The measurements of an answer** are those of its event. -/
theorem triple_accumulateModel (hcountable : Countable attributes) :
    Triple (Emitted .modelResponse (modelAttributes attributes))
      (accumulateModel (modelAttributes attributes)) (fun _ => Folded) fun _ => Folded := by
  apply triple_of_eq
  rintro recording ⟨event, hkind, hattributes, hmeasured⟩
  have hcount (key : String) : tokenCount key event = pickedCount key attributes := by
    rw [tokenCount, pickedCount, hattributes]
  rw [Measurements.add, if_pos hkind, hcount, hcount, hcount] at hmeasured
  have hmodel : Triple (RecordingIs recording.collector.events recording.metrics.measured)
      (accumulateModel (modelAttributes attributes))
      (fun _ => RecordingIs recording.collector.events (measuredOf recording.collector.events))
      fun _ => RecordingIs recording.collector.events (measuredOf recording.collector.events) := by
    rw [← hmeasured]
    unfold accumulateModel
    refine triple_bind (triple_accumulate_latency hcountable) fun _ => ?_
    refine triple_bind (triple_accumulate_tokens
      (fun n measured => { measured with inputTokens := measured.inputTokens + n })
      hcountable (by simp) (fun _ _ => rfl) fun measured => by simp) fun _ => ?_
    refine triple_bind (triple_accumulate_tokens
      (fun n measured => { measured with outputTokens := measured.outputTokens + n })
      hcountable (by simp) (fun _ _ => rfl) fun measured => by simp) fun _ => ?_
    refine triple_bind (triple_accumulate_tokens
      (fun n measured => { measured with totalTokens := measured.totalTokens + n })
      hcountable (by simp) (fun _ _ => rfl) fun measured => by simp) fun _ => ?_
    exact triple_accumulate_cost
  apply triple_mono hmodel
  · rintro _ rfl
    exact ⟨rfl, rfl⟩
  · rintro _ after ⟨hevents, hfolded⟩
    rw [Folded, hevents, hfolded]
  · rintro _ after ⟨hevents, hfolded⟩
    rw [Folded, hevents, hfolded]

end Step

section Listener

variable [UnicodeTables] [FloatRepr] (mapper : SpanEventMapper)

omit [UnicodeTables] [FloatRepr] in
/-- An event that is neither an answer, nor a retry, nor the result of a dependency. -/
theorem add_of_other {event : SimulationEvent} (hresponse : event.kind ≠ .modelResponse)
    (hretry : event.kind ≠ .retry) (hdependency : event.kind ≠ .dependencyResult)
    (measured : Measurements) : measured.add event = measured := by
  simp [Measurements.add, hresponse, hretry, hdependency, dependencyText, toolErrorText]

omit [UnicodeTables] [FloatRepr] in
/-- The result of a dependency. -/
theorem add_of_dependency {event : SimulationEvent} (hkind : event.kind = .dependencyResult)
    (measured : Measurements) : measured.add event =
      { measured with
        toolCalls := measured.toolCalls ++ (dependencyText "tool" event).toList
        toolErrors := measured.toolErrors ++ (toolErrorText event).toList
        retrievedPolicyVersion := (dependencyText "retrieval.policy.version" event).or
          measured.retrievedPolicyVersion } := by
  rw [Measurements.add, hkind, if_neg (by decide), if_neg (by decide)]

omit [UnicodeTables] [FloatRepr] in
/-- What the result of a dependency does not carry. -/
theorem dependencyText_eq_none {event : SimulationEvent} {key : String}
    (h : event.attributes.lookup key = none) : dependencyText key event = none := by
  simp [dependencyText, h]

theorem keeps_tool {tool : String} {span : TraceSpan} {elapsedMs : PyFloat} :
    Keeps Folded (do
      emitSpanEvent elapsedMs .dependencyResult (toolAttributes tool span)
      updateMetrics fun metrics =>
        { metrics with
          toolCalls := metrics.toolCalls ++ [tool]
          toolErrors := metrics.toolErrors ++ span.toolError.toList }) := by
  apply keeps_emitSpanEvent_bind
  apply triple_updateMetrics
  intro event hkind hattributes metrics
  have horder : (pick span.attributes ["tool.order.id"]).lookup "tool.error.code" = none := by
    rw [lookup_pick, if_neg (by decide)]
  have hversion : (pick span.attributes ["tool.order.id"]).lookup "retrieval.policy.version" =
      none := by
    rw [lookup_pick, if_neg (by decide)]
  have htool : dependencyText "tool" event = some tool := by
    simp [dependencyText, hkind, hattributes, toolAttributes]
  have herror : toolErrorText event = span.toolError := by
    rw [toolErrorText, htool, Option.bind_some, dependencyText, if_pos hkind, hattributes,
      toolAttributes, List.cons_append, List.lookup_cons, List.lookup_append, horder]
    cases span.toolError <;> rfl
  have hpolicy : dependencyText "retrieval.policy.version" event = none := by
    apply dependencyText_eq_none
    rw [hattributes, toolAttributes, List.cons_append, List.lookup_cons, List.lookup_append,
      hversion]
    cases span.toolError <;> rfl
  rw [add_of_dependency hkind, htool, herror, hpolicy]
  rfl

omit [UnicodeTables] [FloatRepr] in
theorem keeps_retry {elapsedMs : PyFloat} {span : TraceSpan} :
    Keeps Folded (do
      let retries := (← get).metrics.retries
      emitSpanEvent elapsedMs .retry [("retry.count",
        (span.attributes.lookup "support.retry.count").getD (.int (retries + 1)))]
      updateMetrics fun metrics => { metrics with retries := metrics.retries + 1 }) := by
  apply triple_of_eq
  intro recording hfolded
  refine triple_bind (Q := fun _ => Folded) (triple_get ?_) fun read => ?_
  · rintro _ rfl
    exact hfolded
  · apply keeps_emitSpanEvent_bind
    apply triple_updateMetrics
    intro event hkind _ metrics
    rw [Measurements.add, hkind, if_neg (by decide), if_pos rfl]
    rfl

omit [UnicodeTables] [FloatRepr] in
theorem keeps_database {elapsedMs : PyFloat} {span : TraceSpan} :
    Keeps Folded (emitSpanEvent elapsedMs .dependencyResult
      (pick span.attributes ["db.operation", "db.latency.ms", "db.error.code"])) := by
  apply keeps_emitSpanEvent
  intro event hkind hattributes measured
  have hnone (key : String) (hkey : key ∉ ["db.operation", "db.latency.ms", "db.error.code"]) :
      dependencyText key event = none := by
    apply dependencyText_eq_none
    rw [hattributes, lookup_pick, if_neg hkey]
  rw [add_of_dependency hkind, toolErrorText, hnone "tool" (by decide),
    hnone "retrieval.policy.version" (by decide)]
  simp

omit [UnicodeTables] [FloatRepr] in
/-- The version of a retrieval is measured when it is a text. -/
theorem keeps_retrieval {elapsedMs : PyFloat} {span : TraceSpan}
    {rest : Unit → EStateM PyError RunRecording Unit}
    (hrest : rest () = match (pick span.attributes ["retrieval.policy.version"]).lookup
        "retrieval.policy.version" with
      | some (.str version) => updateMetrics fun metrics =>
        { metrics with retrievedPolicyVersion := some version }
      | _ => pure ()) :
    Keeps Folded (emitSpanEvent elapsedMs .dependencyResult
      (pick span.attributes ["retrieval.policy.version"]) >>= rest) := by
  apply keeps_emitSpanEvent_bind
  rw [hrest]
  have hmeasures {event : SimulationEvent} (hkind : event.kind = .dependencyResult)
      (hattributes : event.attributes = pick span.attributes ["retrieval.policy.version"])
      (measured : Measurements) : measured.add event =
        { measured with
          retrievedPolicyVersion :=
            (dependencyText "retrieval.policy.version" event).or
              measured.retrievedPolicyVersion } := by
    have htool : dependencyText "tool" event = none := by
      apply dependencyText_eq_none
      rw [hattributes, lookup_pick, if_neg (by decide)]
    rw [add_of_dependency hkind, toolErrorText, htool]
    simp
  split
  · rename_i version hversion
    apply triple_updateMetrics
    intro event hkind hattributes metrics
    have htext : dependencyText "retrieval.policy.version" event = some version := by
      simp [dependencyText, hkind, hattributes, hversion]
    rw [hmeasures hkind hattributes, htext]
    rfl
  · rename_i hother
    apply triple_pure
    rintro recording ⟨event, hkind, hattributes, hmeasured⟩
    have hnone : dependencyText "retrieval.policy.version" event = none := by
      rw [dependencyText, if_pos hkind, hattributes]
      split
      · rename_i text htext
        exact absurd htext (hother text)
      · rfl
    rw [hmeasures hkind hattributes, hnone] at hmeasured
    exact hmeasured

/-- **A notification keeps the measurements the fold of the transcript.** -/
theorem keeps_onSpan {notification : Notification}
    (h : Countable notification.span.attributes) :
    Keeps Folded (mapper.onSpan notification) := by
  have hidle : Keeps Folded (pure () : EStateM PyError RunRecording Unit) :=
    triple_pure fun _ h => h
  unfold SpanEventMapper.onSpan
  dsimp only
  -- the branches of the mapper in their order; only closed model spans carry tokens
  by_cases hmodel : notification.span.name = "support_agent.routing" ∨
      notification.span.name = "support_agent.answer"
  · rw [if_pos hmodel]
    cases notification.ended with
    | false =>
      apply keeps_emitSpanEvent
      intro event hkind _
      apply add_of_other <;> rw [hkind] <;> decide
    | true => exact keeps_emitSpanEvent_bind (triple_accumulateModel h)
  rw [if_neg hmodel]
  cases toolOfSpan notification.span.name with
  | some tool =>
    dsimp only
    cases notification.ended with
    | false =>
      apply keeps_emitSpanEvent
      intro event hkind _
      apply add_of_other <;> rw [hkind] <;> decide
    | true => exact keeps_tool
  | none =>
    dsimp only
    split
    · exact keeps_retry
    split
    · split
      · exact keeps_database
      · exact hidle
    split
    · split
      · exact keeps_retrieval rfl
      · exact hidle
    split
    · split
      · exact keeps_updateMetrics fun _ => rfl
      · exact hidle
    · exact hidle

/-- **The measurements of a run are the fold of its transcript**, after every sequence of
notifications with integer token counts. -/
theorem measuresTranscript_deliver {subscriberBuffer : ℤ} {collector : SimulationEventCollector}
    {notifications : List Notification}
    (hnew : SimulationEventCollector.new subscriberBuffer = .ok collector)
    (hcountable : ∀ notification ∈ notifications, Countable notification.span.attributes) :
    MeasuresTranscript (deliver mapper notifications (.fresh collector)).collector.events
      (deliver mapper notifications (.fresh collector)).metrics := by
  have hstart : Folded (.fresh collector) := by
    rw [Folded, RunRecording.fresh, (SimulationEventCollector.counted_new hnew).1]
    rfl
  rw [measuresTranscript_iff]
  apply Keeps.foldl _ hstart
  exact fun notification hmem => keeps_onSpan mapper (hcountable notification hmem)

end Listener

/-! ## A version that is no text -/

section Example

attribute [local instance] asciiTables oneDecimalRepr

def hostedMapper : SpanEventMapper := { modelProvider := some "openai", modelName := some "gpt" }

/-- The end of a retrieval with a version. -/
def retrievalOf (version : PyValue) : Notification where
  span := { name := "support_agent.retrieval.policy"
            attributes := [("retrieval.policy.version", version)] }
  ended := true
  elapsedMs := 0

/-- A text, and then a number. -/
def mixedVersions : List Notification := [retrievalOf (.str "2024-01"), retrievalOf (.int 2)]

theorem countable_mixedVersions :
    ∀ notification ∈ mixedVersions, Countable notification.span.attributes := by
  intro notification hmem
  have hnone : ∀ key ∈ ["model.latency.ms", "model.tokens.input", "model.tokens.output",
      "model.tokens.total"], notification.span.attributes.lookup key = none := by
    intro key hkey
    rcases List.mem_pair.mp hmem with rfl | rfl
    · rw [List.lookup_eq_none_iff]
      revert key
      decide
    · rw [List.lookup_eq_none_iff]
      revert key
      decide
  constructor
  · intro key hkey value hvalue
    rw [hnone key (List.mem_cons_of_mem _ hkey)] at hvalue
    cases hvalue
  · intro n hn
    rw [hnone _ List.mem_cons_self] at hn
    cases hn

/-- `measuresTranscript_deliver` on these notifications. -/
theorem measuresTranscript_deliver_mixedVersions :
    MeasuresTranscript
      (deliver hostedMapper mixedVersions (.fresh smallCollector)).collector.events
      (deliver hostedMapper mixedVersions (.fresh smallCollector)).metrics :=
  measuresTranscript_deliver hostedMapper new_smallCollector countable_mixedVersions

/-- The version of the last retrieval in a transcript. -/
def lastVersion (events : List SimulationEvent) : Option PyValue :=
  (events.filterMap fun event =>
    if event.kind = .dependencyResult then event.attributes.lookup "retrieval.policy.version"
    else none).getLast?

def isTextValue : PyValue → Bool
  | .str _ => true
  | _ => false

/-- **The measured version is not that of the last retrieval**, which is no text. -/
theorem version_ne_lastVersion :
    (∀ notification ∈ mixedVersions, Countable notification.span.attributes) ∧
      ¬ (deliver hostedMapper mixedVersions
            (.fresh smallCollector)).metrics.retrievedPolicyVersion.map PyValue.str =
          lastVersion
            (deliver hostedMapper mixedVersions (.fresh smallCollector)).collector.events := by
  refine ⟨countable_mixedVersions, ?_⟩
  intro h
  have hlast : (lastVersion (deliver hostedMapper mixedVersions
      (.fresh smallCollector)).collector.events).any isTextValue = false := by
    decide +kernel
  have hmeasured : ((deliver hostedMapper mixedVersions
      (.fresh smallCollector)).metrics.retrievedPolicyVersion.map PyValue.str).any
        isTextValue = true := by
    decide +kernel
  rw [h, hlast] at hmeasured
  cases hmeasured

end Example

end ObservabilityLab
