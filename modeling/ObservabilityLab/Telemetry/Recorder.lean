import ObservabilityLab.Errors
import ObservabilityLab.Library.Scopes
import ObservabilityLab.Telemetry.Allowlist

/-!
# The trace recorder

Spans are recorded only through the recorder: it sanitizes every attribute, tells a listener when a
span starts and when it ends, and mirrors the span to OpenTelemetry when tracing is enabled. A
program uses the recorder within nested `with` blocks, from which exceptions may escape. It may
write to any span that it has seen, end it before its block does, and ask about the tracing.

What OpenTelemetry does with a span is left open: a `SpanSdk` says it.

## Main definitions

* `RecorderSpan`, `SpanSdk`: a span of the recorder, and a span of OpenTelemetry
* `SpanAction`: what a program does with the recorder and its spans
* `TraceRecorder.enter`, `TraceRecorder.act`, `TraceRecorder.leave`: the parts of a `with` block
* `RecorderState`: the spans, what the listener heard, and what was exported
-/

namespace ObservabilityLab

open Python Scopes

/-! ## Spans -/

/-- One span of the recorder: its name, its attributes and its stable reason code. -/
structure RecorderSpan where
  name : String
  attributes : Attributes := []
  errorCode : Option String := none

namespace RecorderSpan

variable (span : RecorderSpan)

/-- `self._attributes.update(sanitized)` -/
def update (sanitized : Attributes) : RecorderSpan :=
  { span with
    attributes := Dictionary.altersFrom span.attributes
      (sanitized.map fun entry => (entry.1, fun _ => entry.2)) }

def setError (reasonCode : String) : RecorderSpan := { span with errorCode := some reasonCode }

/-- Every attribute may be recorded, each name once. -/
structure Clean (forbidden : List String) : Prop where
  attributes : ∀ entry ∈ span.attributes, CleanAttribute forbidden entry.1 entry.2
  keys : (span.attributes.map (·.1)).Nodup

/-- A later state of the span: it has no attribute less. -/
structure Grows (later : RecorderSpan) : Prop where
  name : later.name = span.name
  keys : ∀ key ∈ span.attributes.map (·.1), key ∈ later.attributes.map (·.1)

variable {span} {later latest : RecorderSpan} {forbidden : List String} {sanitized : Attributes}

theorem Clean.update (h : span.Clean forbidden)
    (hclean : ∀ entry ∈ sanitized, CleanAttribute forbidden entry.1 entry.2) :
    (span.update sanitized).Clean forbidden := by
  refine ⟨Dictionary.forall_mem_altersFrom h.attributes fun update hupdate value _ => ?_,
    Dictionary.nodup_keys_altersFrom h.keys⟩
  obtain ⟨entry, hentry, rfl⟩ := List.mem_map.mp hupdate
  exact hclean entry hentry

theorem Grows.refl (span : RecorderSpan) : span.Grows span := ⟨rfl, fun _ h => h⟩

theorem Grows.trans (h : span.Grows later) (h' : later.Grows latest) : span.Grows latest :=
  ⟨h'.name.trans h.name, fun key hkey => h'.keys key (h.keys key hkey)⟩

theorem grows_update (span : RecorderSpan) (sanitized : Attributes) :
    span.Grows (span.update sanitized) :=
  ⟨rfl, fun _ hkey => Dictionary.mem_keys_altersFrom.mpr (Or.inl hkey)⟩

end RecorderSpan

/-- What OpenTelemetry identifies a span by. -/
structure SpanContext where
  traceId : ℕ
  spanId : ℕ

/-- What OpenTelemetry does with a span: `Tracer.start_as_current_span` within the current span,
`Span.get_span_context`, `Span.set_attribute`, `Span.set_status` with an error status, and what an
exporter reads of the ended span. The ids that it draws may depend on the number of the span. Every
span is sampled, which is its default. -/
structure SpanSdk (Exported : Type) where
  /-- The current span outside of the recorder's blocks, usually the invalid one. -/
  ambient : SpanContext
  start : SpanContext → ℕ → String → Exported
  context : Exported → SpanContext
  setAttribute : Exported → String → Scalar → Exported
  setStatus : Exported → String → Exported
  name : Exported → String
  value : Exported → String → Option Scalar
  errorStatus : Exported → Option String

/-! ## The recorder -/

/-- A recorder with a listener. Without a tracer, tracing is disabled. -/
structure TraceRecorder (Exported : Type) where
  tracer : Option (SpanSdk Exported)
  forbidden : List String := []

/-- One call of the listener: the span as it was then, and whether it had ended. -/
structure Heard where
  id : ℕ
  span : RecorderSpan
  ended : Bool

/-- A span of OpenTelemetry as it was when it ended, with the number of the span. -/
structure EndedSpan (Exported : Type) where
  id : ℕ
  span : Exported

/-- The spans by their numbers, the open blocks with the innermost first, what the listener heard,
the spans of OpenTelemetry, and those that have ended, which are exported. -/
structure RecorderState (Exported : Type) where
  spans : List RecorderSpan := []
  entered : List ℕ := []
  heard : List Heard := []
  mirrored : List Exported := []
  exported : List (EndedSpan Exported) := []

/-- The name under which LangSmith indexes an attribute. -/
def metadataName (key : String) : String := "langsmith.metadata." ++ key

/-- The loop of `_OtelSpanWrapper.set_attribute` over the sanitized values. -/
def SpanSdk.mirror {Exported : Type} (sdk : SpanSdk Exported) (span : Exported)
    (sanitized : Attributes) : Exported :=
  sanitized.foldl (fun span entry =>
    sdk.setAttribute (sdk.setAttribute span entry.1 entry.2) (metadataName entry.1) entry.2) span

/-- What a `with` block is entered with. -/
structure SpanArguments where
  name : String
  attributes : Option Record := none

/-- What a program does with a span (set an attribute, mark it as failed, end it, read it or its
context), and what it asks the recorder. -/
inductive SpanAction where
  | setAttribute (id : ℕ) (name : String) (value : PyValue)
  | setError (id : ℕ) (reasonCode : String)
  | endSpan (id : ℕ)
  | read (id : ℕ)
  | spanContext (id : ℕ)
  | enabled
  | currentTraceId

namespace SpanAction

/-- What an action returns. -/
def Answer : SpanAction → Type
  | setAttribute _ _ _ => Attributes
  | setError _ _ => Unit
  | endSpan _ => Unit
  | read _ => RecorderSpan
  | spanContext _ => Option SpanContext
  | enabled => Bool
  | currentTraceId => Option String

/-- The actions that ask about the tracing. -/
def AsksTracing : SpanAction → Prop
  | spanContext _ => True
  | enabled => True
  | currentTraceId => True
  | _ => False

/-- The action that ends a span before its block does. -/
def EndsSpan : SpanAction → Prop
  | endSpan _ => True
  | _ => False

end SpanAction

namespace RecorderState

variable {Exported : Type} (state : RecorderState Exported)

/-- The span of a number. -/
def span (id : ℕ) : RecorderSpan := state.spans.getD id { name := "" }

/-- `_notify` -/
def notify (id : ℕ) (ended : Bool) : RecorderState Exported :=
  { state with heard := state.heard ++ [⟨id, state.span id, ended⟩] }

/-- The numbers of the spans that OpenTelemetry has ended. -/
def ended : List ℕ := state.exported.map (·.id)

/-- A change of a span of OpenTelemetry, which ignores it once it has ended. -/
def mirror (f : Exported → Exported) (id : ℕ) : List Exported :=
  if id ∈ state.ended then state.mirrored else state.mirrored.modify id f

/-- A block is left: the listener hears that its span has ended, and the block around it is the
innermost one again. -/
def left (id : ℕ) : RecorderState Exported :=
  { state.notify id true with entered := state.entered.tail }

/-- `trace.get_current_span().get_span_context()` -/
def current (sdk : SpanSdk Exported) : SpanContext :=
  match state.entered.head?.bind (state.mirrored[·]?) with
  | some span => sdk.context span
  | none => sdk.ambient

end RecorderState

namespace TraceRecorder

variable {Exported : Type} (recorder : TraceRecorder Exported)

/-- A new span, with its mirror when tracing is enabled, a child of the current span. -/
def start (name : String) (state : RecorderState Exported) : RecorderState Exported :=
  let id := state.spans.length
  { state with
    spans := state.spans ++ [{ name := name }]
    entered := id :: state.entered
    mirrored := state.mirrored ++
      recorder.tracer.toList.map fun sdk => sdk.start (state.current sdk) id name }

/-- `TraceSpan.set_attribute`, and what it returns. -/
def setAttribute (id : ℕ) (name : String) (value : PyValue) (state : RecorderState Exported) :
    Attributes × RecorderState Exported :=
  let sanitized := sanitizeAttributes recorder.forbidden [(name, value)]
  (sanitized,
    { state with
      spans := state.spans.modify id (·.update sanitized)
      mirrored := match recorder.tracer with
        | some sdk => state.mirror (sdk.mirror · sanitized) id
        | none => state.mirrored })

/-- `TraceSpan.set_error` -/
def setError (id : ℕ) (reasonCode : String) (state : RecorderState Exported) :
    RecorderState Exported :=
  { state with
    spans := state.spans.modify id (·.setError reasonCode)
    mirrored := match recorder.tracer with
      | some sdk => state.mirror (sdk.setStatus · reasonCode) id
      | none => state.mirrored }

/-- `TraceSpan.end`: a span of OpenTelemetry is exported when it ends, which it does once. -/
def endSpan (id : ℕ) (state : RecorderState Exported) : RecorderState Exported :=
  match recorder.tracer with
  | some _ =>
    if id ∈ state.ended then state
    else { state with exported := state.exported ++ (state.mirrored[id]?.map (⟨id, ·⟩)).toList }
  | none => state

/-- `TraceSpan.span_context` -/
def spanContext (id : ℕ) (state : RecorderState Exported) : Option SpanContext :=
  recorder.tracer.bind fun sdk => state.mirrored[id]?.map sdk.context

def enabled : Bool := recorder.tracer.isSome

/-- `f"{trace_id:032x}"` -/
def traceIdText (traceId : ℕ) : String :=
  String.ofList (List.leftpad 32 '0' (Nat.toDigits 16 traceId))

def currentTraceId (state : RecorderState Exported) : Option String :=
  match recorder.tracer with
  | some sdk =>
    if (state.current sdk).traceId = 0 then none
    else some (traceIdText (state.current sdk).traceId)
  | none => none

/-- `_apply_initial_attributes` -/
def applyInitialAttributes (id : ℕ) (attributes : Option Record)
    (state : RecorderState Exported) : RecorderState Exported :=
  match attributes with
  | none => state
  | some attributes => (sanitizeAttributes recorder.forbidden attributes).foldl
      (fun state entry => (recorder.setAttribute id entry.1 entry.2.toPy state).2) state

/-- `with recorder.span(name, attributes)`, up to the body. -/
def enter (arguments : SpanArguments) (state : RecorderState Exported) :
    ℕ × RecorderState Exported :=
  let id := state.spans.length
  (id, (recorder.applyInitialAttributes id arguments.attributes
    (recorder.start arguments.name state)).notify id false)

/-- What a body does with a span or asks the recorder. -/
def act (action : SpanAction) (state : RecorderState Exported) :
    action.Answer × RecorderState Exported :=
  match action with
  | .setAttribute id name value => recorder.setAttribute id name value state
  | .setError id reasonCode => ((), recorder.setError id reasonCode state)
  | .endSpan id => ((), recorder.endSpan id state)
  -- the properties of a span, which return copies
  | .read id => (state.span id, state)
  | .spanContext id => (recorder.spanContext id state, state)
  | .enabled => (recorder.enabled, state)
  | .currentTraceId => (recorder.currentTraceId state, state)

/-- The end of the `with` block, whether its body returned or raised: the listener hears the span,
and then OpenTelemetry ends its own. -/
def leave (id : ℕ) (state : RecorderState Exported) : RecorderState Exported :=
  -- the `finally` block runs before `start_as_current_span` ends its span
  recorder.endSpan id (state.left id)

/-- The recorder, for a program that uses it. -/
def handler : Handler SpanArguments SpanAction.Answer (RecorderState Exported) where
  enter := recorder.enter
  act := recorder.act
  leave := recorder.leave

end TraceRecorder

/-- A program that uses the recorder and returns or raises. -/
abbrev TracedProgram (α : Type) := ScopedProgram SpanArguments SpanAction.Answer PyError α

end ObservabilityLab
