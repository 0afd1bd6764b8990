import ObservabilityLab.Errors
import ObservabilityLab.Library.DropOldest
import ObservabilityLab.Support.Schemas

/-!
# The live event stream

A collector keeps the ordered transcript of a run, and hands every event to the bounded queues of
its subscribers. Emissions, and the iterations of the subscribers, interleave in any order.

## Main definitions

* `SimulationEvent`: one event, with allowlisted attributes
* `SimulationEventCollector`, `emit`: the transcript and the subscribers; one emission
* `EventStream`: one iteration of `stream`, as a state machine
* `StreamAction`, `SimulationEventCollector.run`: the atomic steps, and their interleavings
* `EventStream.Sound`: what was received, and what is still in the queue

## Main results

* `step_cases`, `emit_cases`: what a step does
* `delivers_run`: every delivery of a run is sound
-/

namespace ObservabilityLab

open Python

/-! ## Events -/

def simulationEventAttributeAllowlist : List String :=
  ["environment.id", "seed.customers", "seed.orders", "seed.tickets", "seed.policies",
    "model.provider", "model.name", "model.latency.ms", "model.tokens.input",
    "model.tokens.output", "model.tokens.total", "model.cost.usd", "model.run.id",
    "tool", "tool.order.id", "tool.error.code", "db.operation", "db.latency.ms", "db.error.code",
    "retrieval.policy.version", "retry.count", "fault.kind", "fault.tool", "fault.delay.ms",
    "mutation.resource", "mutation.resource_id", "mutation.field", "mutation.before",
    "mutation.after", "mutation.reason.code", "evaluator", "evaluator.version",
    "evaluator.passed", "evaluator.reason", "support.intent", "support.confidence",
    "support.outcome", "support.reason.code", "support.policy.grounded", "run.verdict",
    "run.total.latency.ms", "run.model.latency.ms", "run.tokens.input", "run.tokens.output",
    "run.tokens.total", "run.cost.usd", "run.retries", "run.errors"]

inductive SimulationEventKind where
  | environmentCreated | environmentSeeded | environmentDestroyed | modelRequest | modelResponse
  | toolSelected | dependencyResult | retry | faultInjected | stateMutation | evaluatorResult
  | runCompleted
deriving DecidableEq

/-- `bool | int | float | str` -/
def isScalar : PyValue → Bool
  | .bool _ => true
  | .int _ => true
  | .float _ => true
  | .str _ => true
  | _ => false

/-- One ordered event of a run. -/
structure SimulationEvent where
  schemaVersion : String := "1.0.0"
  sequence : ℕ
  kind : SimulationEventKind
  elapsedMs : PyFloat
  attributes : Record
  sequencePositive : 1 ≤ sequence
  elapsedNonneg : PyFloat.le 0 elapsedMs = true
  attributesScalar : (attributes.all fun entry => isScalar entry.2) = true
  attributesAllowed :
    (attributes.all fun entry => entry.1 ∈ simulationEventAttributeAllowlist) = true

/-- `SimulationEvent(...)`, with its `validate_attributes` -/
def SimulationEvent.new (sequence : ℕ) (kind : SimulationEventKind) (elapsedMs : PyFloat)
    (attributes : Record) : Raises SimulationEvent :=
  if hsequence : ¬ 1 ≤ sequence then .error (.validation "SimulationEvent" "sequence")
  else if helapsed : ¬ PyFloat.le 0 elapsedMs = true then
    .error (.validation "SimulationEvent" "elapsed_ms")
  else if hscalar : ¬ (attributes.all fun entry => isScalar entry.2) = true then
    .error (.validation "SimulationEvent" "attributes")
  else if hallowed :
      ¬ (attributes.all fun entry => entry.1 ∈ simulationEventAttributeAllowlist) = true then
    .error (.validation "SimulationEvent" "simulation event records non-allowlisted attributes")
  else .ok
    { sequence, kind, elapsedMs, attributes
      sequencePositive := one_le_of_check hsequence
      elapsedNonneg := not_not.mp helapsed
      attributesScalar := not_not.mp hscalar
      attributesAllowed := not_not.mp hallowed }

/-! ## Streams -/

/-- Where an iteration of `stream` stands: not started, at the head of its loop, waiting for an
event, returned, or closed by its consumer. -/
inductive StreamPhase where
  | idle | ready | waiting | returned | closed
deriving DecidableEq

/-- One iteration of `stream`, with the events that its consumer received and the length of the
transcript when it subscribed. -/
structure EventStream where
  phase : StreamPhase := .idle
  queue : List SimulationEvent := []
  received : List SimulationEvent := []
  since : ℕ := 0

namespace EventStream

variable (stream : EventStream)

/-- The queue of the stream is registered. -/
def Subscribed : Prop := stream.phase = .ready ∨ stream.phase = .waiting

instance : Decidable stream.Subscribed := inferInstanceAs (Decidable (_ ∨ _))

/-- An emitted event goes to a registered queue. -/
def offer (buffer : ℕ) (event : SimulationEvent) : EventStream :=
  if stream.Subscribed then { stream with queue := DropOldest.push buffer stream.queue event }
  else stream

/-- Yield one event. -/
def deliver (event : SimulationEvent) (rest : List SimulationEvent) : EventStream :=
  { stream with phase := .ready, queue := rest, received := stream.received ++ [event] }

/-- The first step: create the queue and register it. -/
def subscribe (emitted : ℕ) : Option EventStream :=
  if stream.phase = .idle then some { stream with phase := .ready, since := emitted } else none

/-- The head of the loop, with the value of `until`: return, take an event, or wait for one. -/
def check (done : Bool) : Option EventStream :=
  if stream.phase = .ready then
    match stream.queue with
    | [] => some { stream with phase := if done then .returned else .waiting }
    | event :: rest => some (stream.deliver event rest)
  else none

/-- An event arrives while the stream waits. -/
def wake : Option EventStream :=
  if stream.phase = .waiting then
    match stream.queue with
    | [] => none
    | event :: rest => some (stream.deliver event rest)
  else none

/-- The wait times out. -/
def expire : Option EventStream :=
  if stream.phase = .waiting then some { stream with phase := .ready } else none

/-- The consumer stops the iteration. -/
def close : Option EventStream :=
  if stream.Subscribed then some { stream with phase := .closed } else none

end EventStream

/-! ## The collector -/

/-- One transcript, and the streams of its subscribers. -/
structure SimulationEventCollector where
  subscriberBuffer : ℕ
  bufferPositive : 1 ≤ subscriberBuffer
  events : List SimulationEvent := []
  sequence : ℕ := 0
  streams : ℕ → EventStream := fun _ => {}

/-- `SimulationEventCollector(subscriber_buffer=...)` -/
def SimulationEventCollector.new (subscriberBuffer : ℤ) : Raises SimulationEventCollector :=
  if h : subscriberBuffer < 1 then .error (.value "subscriber_buffer must be at least 1")
  else .ok { subscriberBuffer := subscriberBuffer.toNat, bufferPositive := by omega }

/-- One atomic step: an emission, or a step of one subscriber. -/
inductive StreamAction where
  | emit (kind : SimulationEventKind) (elapsedMs : PyFloat) (attributes : Record)
  | subscribe (id : ℕ)
  | check (id : ℕ) (done : Bool)
  | wake (id : ℕ)
  | expire (id : ℕ)
  | close (id : ℕ)

namespace SimulationEventCollector

variable (collector : SimulationEventCollector)

/-- `emit`; a rejected event uses up its sequence number. -/
def emit (kind : SimulationEventKind) (elapsedMs : PyFloat) (attributes : Record) :
    Raises SimulationEvent × SimulationEventCollector :=
  match SimulationEvent.new (collector.sequence + 1) kind elapsedMs attributes with
  | .error e => (.error e, { collector with sequence := collector.sequence + 1 })
  | .ok event => (.ok event,
    { collector with
      sequence := collector.sequence + 1
      events := collector.events ++ [event]
      streams := fun id => (collector.streams id).offer collector.subscriberBuffer event })

/-- The collector after a change of one stream. -/
def withStream (id : ℕ) (stream : EventStream) : SimulationEventCollector :=
  { collector with streams := Function.update collector.streams id stream }

/-- A step of one stream. -/
def onStream (id : ℕ) (next : EventStream → Option EventStream) :
    Option SimulationEventCollector :=
  (next (collector.streams id)).map (collector.withStream id)

/-- One atomic step, where it is possible. -/
def step : StreamAction → Option SimulationEventCollector
  | .emit kind elapsedMs attributes => some (collector.emit kind elapsedMs attributes).2
  | .subscribe id => collector.onStream id (·.subscribe collector.events.length)
  | .check id done => collector.onStream id (·.check done)
  | .wake id => collector.onStream id (·.wake)
  | .expire id => collector.onStream id (·.expire)
  | .close id => collector.onStream id (·.close)

/-- The steps of an interleaving, one after the other. -/
def run (actions : List StreamAction) : Option SimulationEventCollector :=
  actions.foldlM step collector

end SimulationEventCollector

/-! ## What a step does -/

/-- A step of one stream: it subscribes, moves on in its loop, or takes the oldest event of its
queue. A stream returns only when its queue is empty. -/
inductive EventStream.Step (emitted : ℕ) (stream : EventStream) : EventStream → Prop
  | subscribes (hidle : stream.phase = .idle) :
    Step emitted stream { stream with phase := .ready, since := emitted }
  | turns (phase : StreamPhase) (hsubscribed : stream.Subscribed) (hphase : phase ≠ .idle)
      (hreturned : phase ≠ .returned ∨ stream.queue = []) :
    Step emitted stream { stream with phase := phase }
  | takes (event : SimulationEvent) (rest : List SimulationEvent)
      (hsubscribed : stream.Subscribed) (hqueue : stream.queue = event :: rest) :
    Step emitted stream (stream.deliver event rest)

namespace EventStream

variable {stream after : EventStream} {emitted : ℕ}

theorem subscribe_step (h : stream.subscribe emitted = some after) : stream.Step emitted after := by
  unfold subscribe at h
  split at h
  · rename_i hidle
    rw [← Option.some.inj h]
    exact .subscribes hidle
  · cases h

theorem check_step {done : Bool} (h : stream.check done = some after) :
    stream.Step emitted after := by
  unfold check at h
  split at h
  · rename_i hready
    split at h
    · rename_i hqueue
      rw [← Option.some.inj h]
      refine .turns _ (Or.inl hready) ?_ (Or.inr hqueue)
      cases done <;> decide
    · rename_i event rest hqueue
      rw [← Option.some.inj h]
      exact .takes event rest (Or.inl hready) hqueue
  · cases h

theorem wake_step (h : stream.wake = some after) : stream.Step emitted after := by
  unfold wake at h
  split at h
  · rename_i hwaiting
    split at h
    · cases h
    · rename_i event rest hqueue
      rw [← Option.some.inj h]
      exact .takes event rest (Or.inr hwaiting) hqueue
  · cases h

theorem expire_step (h : stream.expire = some after) : stream.Step emitted after := by
  unfold expire at h
  split at h
  · rename_i hwaiting
    rw [← Option.some.inj h]
    exact .turns .ready (Or.inr hwaiting) (by decide) (Or.inl (by decide))
  · cases h

theorem close_step (h : stream.close = some after) : stream.Step emitted after := by
  unfold close at h
  split at h
  · rename_i hsubscribed
    rw [← Option.some.inj h]
    exact .turns .closed hsubscribed (by decide) (Or.inl (by decide))
  · cases h

end EventStream

/-- The stream that an action is a step of. -/
def StreamAction.id? : StreamAction → Option ℕ
  | .emit .. => none
  | .subscribe id => some id
  | .check id _ => some id
  | .wake id => some id
  | .expire id => some id
  | .close id => some id

namespace SimulationEventCollector

variable {collector after : SimulationEventCollector} {action : StreamAction} {id : ℕ}

theorem streams_withStream_self (stream : EventStream) :
    (collector.withStream id stream).streams id = stream := Function.update_self ..

theorem streams_withStream_of_ne {other : ℕ} (h : other ≠ id) (stream : EventStream) :
    (collector.withStream id stream).streams other = collector.streams other :=
  Function.update_of_ne h ..

theorem onStream_eq_some {next : EventStream → Option EventStream} :
    collector.onStream id next = some after ↔ ∃ stream, next (collector.streams id) = some stream ∧
      collector.withStream id stream = after := by
  rw [onStream, Option.map_eq_some_iff]

/-- **A step is an emission or a step of one stream.** -/
theorem step_cases (h : collector.step action = some after) :
    (∃ kind elapsedMs attributes, action = .emit kind elapsedMs attributes ∧
      after = (collector.emit kind elapsedMs attributes).2) ∨
    ∃ id stream, action.id? = some id ∧
      (collector.streams id).Step collector.events.length stream ∧
      after = collector.withStream id stream := by
  cases action with
  | emit kind elapsedMs attributes => exact Or.inl ⟨_, _, _, rfl, (Option.some.inj h).symm⟩
  | subscribe id =>
    have h : collector.onStream id (·.subscribe collector.events.length) = some after := h
    obtain ⟨stream, hstream, rfl⟩ := onStream_eq_some.mp h
    exact Or.inr ⟨id, stream, rfl, EventStream.subscribe_step hstream, rfl⟩
  | check id done =>
    have h : collector.onStream id (·.check done) = some after := h
    obtain ⟨stream, hstream, rfl⟩ := onStream_eq_some.mp h
    exact Or.inr ⟨id, stream, rfl, EventStream.check_step hstream, rfl⟩
  | wake id =>
    obtain ⟨stream, hstream, rfl⟩ := onStream_eq_some.mp h
    exact Or.inr ⟨id, stream, rfl, EventStream.wake_step hstream, rfl⟩
  | expire id =>
    obtain ⟨stream, hstream, rfl⟩ := onStream_eq_some.mp h
    exact Or.inr ⟨id, stream, rfl, EventStream.expire_step hstream, rfl⟩
  | close id =>
    obtain ⟨stream, hstream, rfl⟩ := onStream_eq_some.mp h
    exact Or.inr ⟨id, stream, rfl, EventStream.close_step hstream, rfl⟩

/-- An emission uses up a sequence number; an accepted event gets it, is appended to the transcript,
and is offered to every stream. -/
theorem emit_cases (collector : SimulationEventCollector) (kind : SimulationEventKind)
    (elapsedMs : PyFloat) (attributes : Record) :
    (∃ e, collector.emit kind elapsedMs attributes =
      (.error e, { collector with sequence := collector.sequence + 1 })) ∨
    ∃ event : SimulationEvent, event.sequence = collector.sequence + 1 ∧
      collector.emit kind elapsedMs attributes = (.ok event,
        { collector with
          sequence := collector.sequence + 1
          events := collector.events ++ [event]
          streams := fun id =>
            (collector.streams id).offer collector.subscriberBuffer event }) := by
  unfold emit
  cases hnew : SimulationEvent.new (collector.sequence + 1) kind elapsedMs attributes with
  | error e => exact Or.inl ⟨e, rfl⟩
  | ok event =>
    refine Or.inr ⟨event, ?_, rfl⟩
    unfold SimulationEvent.new at hnew
    split_ifs at hnew
    rw [← Except.ok.inj hnew]

end SimulationEventCollector

/-! ## The state of every delivery -/

/-- **What holds of one stream**: what it received and what is in its queue was emitted in this
order; the delivery to a subscribed stream keeps the last events. -/
structure EventStream.Sound (buffer : ℕ) (events : List SimulationEvent) (stream : EventStream) :
    Prop where
  fresh : stream.phase = .idle → stream.received = [] ∧ stream.queue = []
  ordered : (stream.received ++ stream.queue).Sublist events
  since : stream.since ≤ events.length
  delivers : stream.Subscribed → DropOldest.Delivers buffer (events.drop stream.since)
    stream.received stream.queue

namespace EventStream.Sound

variable {buffer : ℕ} {events : List SimulationEvent} {stream after : EventStream}

theorem new (buffer : ℕ) (events : List SimulationEvent) : EventStream.Sound buffer events {} where
  fresh _ := ⟨rfl, rfl⟩
  ordered := List.nil_sublist events
  since := Nat.zero_le _
  delivers h := by rcases h with h | h <;> cases h

/-- A step of a stream keeps its delivery. -/
theorem step (h : stream.Sound buffer events) (hstep : stream.Step events.length after) :
    after.Sound buffer events := by
  cases hstep with
  | subscribes hidle =>
    obtain ⟨hreceived, hqueue⟩ := h.fresh hidle
    refine ⟨fun hphase => (by cases hphase), h.ordered, le_rfl, fun _ => ?_⟩
    rw [hreceived, hqueue, List.drop_length]
    exact .nil buffer
  | turns phase hsubscribed hphase _ =>
    exact ⟨fun hidle => absurd hidle hphase, h.ordered, h.since, fun _ => h.delivers hsubscribed⟩
  | takes event rest hsubscribed hqueue =>
    have hordered := h.ordered
    have hdelivers := h.delivers hsubscribed
    rw [hqueue] at hordered hdelivers
    refine ⟨fun hidle => (by cases hidle), ?_, h.since, fun _ => hdelivers.take⟩
    rw [EventStream.deliver, List.append_assoc]
    exact hordered

/-- An emission keeps the delivery. -/
theorem offer (h : stream.Sound buffer events) (hbuffer : 1 ≤ buffer) (event : SimulationEvent) :
    (stream.offer buffer event).Sound buffer (events ++ [event]) := by
  have hlength : stream.since ≤ (events ++ [event]).length :=
    h.since.trans (by rw [List.length_append]; omega)
  have hkept : (stream.received ++ stream.queue).Sublist (events ++ [event]) :=
    h.ordered.trans (List.sublist_append_left ..)
  unfold EventStream.offer
  split
  · rename_i hsubscribed
    have hdelivers := (h.delivers hsubscribed).push hbuffer event
    rw [← List.drop_append_of_le_length h.since] at hdelivers
    refine ⟨fun hidle => ?_, ?_, hlength, fun _ => hdelivers⟩
    · rcases hsubscribed with hready | hwaiting
      · exact absurd (hready.symm.trans hidle) (by decide)
      · exact absurd (hwaiting.symm.trans hidle) (by decide)
    · exact hdelivers.ordered.trans (List.drop_sublist ..)
  · rename_i hclosed
    exact ⟨h.fresh, hkept, hlength, fun hsubscribed => absurd hsubscribed hclosed⟩

end EventStream.Sound

/-- **What holds of a collector**: its sequence numbers increase, and every delivery is sound. -/
structure SimulationEventCollector.Sound (collector : SimulationEventCollector) : Prop where
  numbered : ∀ event ∈ collector.events, event.sequence ≤ collector.sequence
  increasing : collector.events.Pairwise (·.sequence < ·.sequence)
  streams : ∀ id, (collector.streams id).Sound collector.subscriberBuffer collector.events

namespace SimulationEventCollector

variable {collector after start : SimulationEventCollector} {action : StreamAction} {id : ℕ}

theorem Sound.emit (h : collector.Sound) (kind : SimulationEventKind) (elapsedMs : PyFloat)
    (attributes : Record) : (collector.emit kind elapsedMs attributes).2.Sound := by
  rcases emit_cases collector kind elapsedMs attributes with ⟨e, hemit⟩ | ⟨event, hevent, hemit⟩
  · rw [hemit]
    exact ⟨fun event hmem => (h.numbered event hmem).trans (Nat.le_succ _), h.increasing, h.streams⟩
  · rw [hemit]
    refine ⟨fun other hmem => ?_, ?_, fun id => (h.streams id).offer collector.bufferPositive event⟩
    · rcases List.mem_append.mp hmem with hold | hnew
      · exact (h.numbered other hold).trans (Nat.le_succ _)
      · rw [List.mem_singleton.mp hnew, hevent]
    · refine List.pairwise_append.mpr ⟨h.increasing, List.pairwise_singleton .., ?_⟩
      intro other hmem new hnew
      rw [List.mem_singleton.mp hnew, hevent]
      exact Nat.lt_succ_of_le (h.numbered other hmem)

/-- **Every step keeps the deliveries sound.** -/
theorem Sound.step (h : collector.Sound) (hstep : collector.step action = some after) :
    after.Sound := by
  rcases step_cases hstep with ⟨kind, elapsedMs, attributes, -, rfl⟩ | ⟨id, stream, -, hown, rfl⟩
  · exact h.emit kind elapsedMs attributes
  · refine ⟨h.numbered, h.increasing, fun other => ?_⟩
    by_cases hother : other = id
    · subst hother
      rw [streams_withStream_self]
      exact (h.streams other).step hown
    · rw [streams_withStream_of_ne hother]
      exact h.streams other

theorem run_concat {actions : List StreamAction} :
    start.run (actions ++ [action]) = some after ↔
      ∃ before, start.run actions = some before ∧ before.step action = some after := by
  rw [run, List.foldlM_append, Option.bind_eq_bind, Option.bind_eq_some_iff]
  simp only [List.foldlM_cons, List.foldlM_nil, bind_pure]
  rfl

/-- What every step of a run keeps, the run keeps. -/
theorem run_invariant {actions : List StreamAction}
    (invariant : List StreamAction → SimulationEventCollector → Prop) (hstart : invariant [] start)
    (hstep : ∀ before action collector after, before ++ [action] <+: actions →
      invariant before collector → collector.step action = some after →
      invariant (before ++ [action]) after)
    (hrun : start.run actions = some after) : invariant actions after := by
  induction actions using List.reverseRecOn generalizing after with
  | nil =>
    rw [← Option.some.inj hrun]
    exact hstart
  | append_singleton actions action ih =>
    obtain ⟨before, hbefore, haction⟩ := run_concat.mp hrun
    refine hstep actions action before after (List.prefix_rfl) (ih ?_ hbefore) haction
    intro earlier other collector next hprefix
    exact hstep earlier other collector next (List.IsPrefix.trans hprefix (List.prefix_append ..))

/-- **Every delivery of a run is sound.** -/
theorem delivers_run {actions : List StreamAction} (hstart : start.Sound)
    (hrun : start.run actions = some collector) : collector.Sound :=
  run_invariant (fun _ => Sound) hstart (fun _ _ _ _ _ hsound hstep => hsound.step hstep) hrun

end SimulationEventCollector

end ObservabilityLab
