import ObservabilityLab.Library.Raising
import ObservabilityLab.Python.Mapping
import ObservabilityLab.Simulation.Events

/-!
# The event stream of a simulator run

An emitted event goes to the log, to the display memory and to the external renderer. The first
exception of the renderer is noted by an event of its own, which goes the same way while the first
one is still on it.

## Main definitions

* `PersistentEvent.payload`: what the log keeps of an event
* `Emitter`, `EmitterState`: a run's emitter, with the renderer as the pattern of its failures
* `nonFatalEmit`, `emit`, `emitAll`: a guarded sink; one emitted event, and a sequence of them
* `Noticed`: the calls with the notice of the first failure

## Main results

* `emit_failed`, `emit_first_failure`: what one call of `emit` does under a failing renderer
* `emitAll_complete`: the log is complete, whatever the renderer does
-/

namespace ObservabilityLab.UserSimulator

open Python Raising

/-! ## Events -/

/-- `PERSISTENT_FIELDS` -/
def persistentFields : List String :=
  ["turn", "tool", "outcome", "reason", "error", "model_provider", "model_name", "tokens",
    "latency_ms", "attempts", "transition", "state", "workflow_id", "verified"]

inductive EventKind where
  | start | user | agent | model | toolSelected | toolResult | approval | retry | state | done
  | error | cleanup

def EventKind.value : EventKind → String
  | start => "start"
  | user => "user"
  | agent => "agent"
  | model => "model"
  | toolSelected => "tool_selected"
  | toolResult => "tool_result"
  | approval => "approval"
  | retry => "retry"
  | state => "state"
  | done => "done"
  | error => "error"
  | cleanup => "cleanup"

inductive EventSource where
  | persona | support | reference | engine | cli

def EventSource.value : EventSource → String
  | persona => "persona"
  | support => "support"
  | reference => "reference"
  | engine => "engine"
  | cli => "cli"

/-- What is displayed of an event. -/
structure DisplayEvent where
  kind : EventKind
  source : EventSource
  seq : ℕ
  timestamp : String
  text : String
  detail : List String

/-- What may be written of an event; an instant is its `isoformat` text. -/
structure PersistentEvent where
  kind : EventKind
  source : EventSource
  seq : ℕ
  runId : String
  caseId : String
  timestamp : String
  fields : Record

/-- The entries of every payload. -/
def PersistentEvent.header (event : PersistentEvent) : Record :=
  [("timestamp", .str event.timestamp), ("event", .str event.kind.value),
    ("source", .str event.source.value), ("seq", .int event.seq), ("run_id", .str event.runId),
    ("case_id", .str event.caseId)]

/-- The mapping that `to_json` dumps: the header, and the fields that are allowed and scalar. -/
def PersistentEvent.payload (event : PersistentEvent) : Record :=
  event.fields.foldl (fun payload field =>
    if field.1 ∉ persistentFields then payload
    else if ¬ isScalar field.2 then payload
    else assignKey payload field.1 field.2) event.header

structure SimulationEvent where
  persistent : PersistentEvent
  display : Option DisplayEvent

/-- The arguments of one call of `emit`. -/
structure EmitCall where
  kind : EventKind
  source : EventSource
  text : String := ""
  detail : List String := []
  fields : Record := []

/-! ## The emitter -/

/-- The emitter of a run. The external sink, if there is one, is what each of its calls raises, and
the clock is read once for each event. -/
structure Emitter where
  runId : String
  caseId : String
  externalSink : Option (ℕ → Option PyError)
  clock : ℕ → String

/-- The sequence counter, the log, the display memory, the calls of the external sink, and the
variables of its guard. -/
structure EmitterState where
  sequence : ℕ := 0
  log : List Record
  displayed : List DisplayEvent := []
  rendered : ℕ := 0
  errorCount : ℕ := 0
  notifying : Bool := false

/-- The class that a domain error of a code is raised as. -/
class DomainErrorClasses where
  name : String → String

/-- `type(error).__name__` -/
def exceptionName [DomainErrorClasses] : PyError → String
  | .value _ => "ValueError"
  | .validation _ _ => "ValidationError"
  | .domain code _ _ => DomainErrorClasses.name code
  | .other name _ => name

namespace Emitter

variable (emitter : Emitter)

/-- The event of a call with its sequence number. -/
def event (seq : ℕ) (call : EmitCall) : SimulationEvent where
  persistent := ⟨call.kind, call.source, seq, emitter.runId, emitter.caseId, emitter.clock seq,
    call.fields⟩
  display := some ⟨call.kind, call.source, seq, emitter.clock seq, call.text, call.detail⟩

/-- `EventFactory.build(...)` -/
def build (call : EmitCall) : EStateM PyError EmitterState SimulationEvent := do
  modify fun state => { state with sequence := state.sequence + 1 }
  return emitter.event (← get).sequence call

end Emitter

/-- `JsonlPersistentSink.emit(event)`, which succeeds -/
def persist (event : SimulationEvent) : EStateM PyError EmitterState Unit :=
  modify fun state => { state with log := state.log ++ [event.persistent.payload] }

/-- `DisplayMemory.emit(event)` -/
def remember (event : SimulationEvent) : EStateM PyError EmitterState Unit :=
  modify fun state => { state with displayed := state.displayed ++ event.display.toList }

/-- A call of the external sink. -/
def render (failure : ℕ → Option PyError) : EStateM PyError EmitterState Unit := do
  let number := (← get).rendered
  modify fun state => { state with rendered := number + 1 }
  match failure number with
  | none => pure ()
  | some error => throw error

/-- `NonFatalSink.emit`, around a sink and with a callback for its errors -/
def nonFatalEmit (inner : EStateM PyError EmitterState Unit)
    (onError : Option (PyError → EStateM PyError EmitterState Unit)) :
    EStateM PyError EmitterState Unit := do
  match ← attempt inner with
  | .ok () => pure ()
  | .error error =>
    modify fun state => { state with errorCount := state.errorCount + 1 }
    match onError with
    | none => pure ()
    | some onError =>
      let state ← get
      if state.errorCount = 1 ∧ state.notifying = false then
        modify fun state => { state with notifying := true }
        -- what the callback raises is dropped, and the guard is free again in either case
        let _ ← attempt (onError error)
        modify fun state => { state with notifying := false }

/-- The event that notes the first failure of the renderer. -/
def rendererNotice [DomainErrorClasses] (error : PyError) : EmitCall where
  kind := .error
  source := .engine
  text := "renderer notice: " ++ exceptionName error
  fields := [("error", .str "renderer")]

/-- `notice(error)` of `build_emitter`, with the emitter's `emit` -/
def notice [DomainErrorClasses]
    (emit : EmitCall → EStateM PyError EmitterState SimulationEvent) (error : PyError) :
    EStateM PyError EmitterState Unit := do
  if (← get).errorCount = 1 then
    let _ ← emit (rendererNotice error)

namespace Emitter

variable (emitter : Emitter)

/-- `emitter.emit(...)` of the emitter that `build_emitter` returns: the callback of its guard calls
it again, up to a number of nested calls. -/
def emit [DomainErrorClasses] : ℕ → EmitCall → EStateM PyError EmitterState SimulationEvent
  | 0, _ => throw (.other "RecursionError" "maximum recursion depth exceeded")
  | depth + 1, call => do
    let event ← emitter.build call
    persist event
    remember event
    match emitter.externalSink with
    | none => pure ()
    | some failure => nonFatalEmit (render failure) (some (notice (emit depth)))
    return event

/-- The calls of a run, one after the other. -/
def emitAll [DomainErrorClasses] (depth : ℕ) (calls : List EmitCall) :
    EStateM PyError EmitterState Unit :=
  calls.forM fun call => do let _ ← emitter.emit depth call

/-- The lines of some events, numbered from the one after `seq`. -/
def lines (seq : ℕ) (events : List EmitCall) : List Record :=
  events.mapIdx fun i call => (emitter.event (seq + i + 1) call).persistent.payload

end Emitter

/-- The calls, with a notice directly after the first one on which the renderer fails. -/
def Noticed [DomainErrorClasses] (failure : ℕ → Option PyError) (calls events : List EmitCall) :
    Prop :=
  ((∀ n < calls.length, failure n = none) ∧ events = calls) ∨
  ∃ before call after error, calls = before ++ call :: after ∧
    (∀ n < before.length, failure n = none) ∧ failure before.length = some error ∧
    events = before ++ call :: rendererNotice error :: after

/-! ## Payloads -/

/-- A field never replaces an entry of the header. -/
theorem PersistentEvent.payload_lookup (event : PersistentEvent) {key : String}
    (hkey : key ∉ persistentFields) : event.payload.lookup key = event.header.lookup key := by
  unfold payload
  generalize event.header = header
  induction event.fields generalizing header with
  | nil => rfl
  | cons field fields ih =>
    rw [List.foldl_cons, ih]
    by_cases hallowed : field.1 ∈ persistentFields
    · have hne : key ≠ field.1 := by
        rintro rfl
        exact hkey hallowed
      rw [if_neg (not_not.mpr hallowed)]
      by_cases hscalar : isScalar field.2 = true
      · rw [if_neg (not_not.mpr hscalar), lookup_assignKey, if_neg hne]
      · rw [if_pos hscalar]
    · rw [if_pos hallowed]

theorem PersistentEvent.payload_seq (event : PersistentEvent) :
    event.payload.lookup "seq" = some (.int event.seq) := by
  rw [event.payload_lookup (by decide)]
  simp [header, List.lookup_cons]

/-! ## Notices -/

namespace Noticed

variable [DomainErrorClasses]

variable {failure later : ℕ → Option PyError} {call : EmitCall} {calls events : List EmitCall}

theorem nil : Noticed failure [] [] := by
  left
  simp

/-- The renderer fails on the first event. -/
theorem first {error : PyError} (hfailure : failure 0 = some error) :
    Noticed failure (call :: calls) (call :: rendererNotice error :: calls) := by
  right
  refine ⟨[], call, calls, error, rfl, ?_, hfailure, rfl⟩
  simp

/-- The renderer does not fail on the first event. -/
theorem cons (h : Noticed later calls events) (hfailure : failure 0 = none)
    (hlater : ∀ n, later n = failure (n + 1)) :
    Noticed failure (call :: calls) (call :: events) := by
  rcases h with ⟨hnone, rfl⟩ | ⟨before, failed, after, error, rfl, hnone, hsome, rfl⟩
  · left
    refine ⟨?_, rfl⟩
    rintro (_ | n) hn
    · exact hfailure
    · rw [← hlater]
      exact hnone n (Nat.succ_lt_succ_iff.mp hn)
  · right
    refine ⟨call :: before, failed, after, error, rfl, ?_, ?_, rfl⟩
    · rintro (_ | n) hn
      · exact hfailure
      · rw [← hlater]
        exact hnone n (Nat.succ_lt_succ_iff.mp hn)
    · rw [List.length_cons, ← hlater]
      exact hsome

/-- There is one more event than calls exactly when the renderer ever failed. -/
theorem failed_iff (h : Noticed failure calls events) :
    (∃ n < events.length, failure n ≠ none) ↔ events.length = calls.length + 1 := by
  rcases h with ⟨hnone, rfl⟩ | ⟨before, failed, after, error, rfl, -, hsome, rfl⟩
  · apply iff_of_false
    · rintro ⟨n, hn, hfailed⟩
      exact hfailed (hnone n hn)
    · omega
  · apply iff_of_true
    · refine ⟨before.length, ?_, by simp [hsome]⟩
      simp
    · simp only [List.length_append, List.length_cons]
      omega

end Noticed

/-! ## The guard -/

section Guard

variable {inner : EStateM PyError EmitterState Unit} {s s' : EmitterState} {error : PyError}

theorem nonFatalEmit_of_ok (hinner : inner.run s = .ok () s')
    (onError : Option (PyError → EStateM PyError EmitterState Unit)) :
    (nonFatalEmit inner onError).run s = .ok () s' := by
  simp only [nonFatalEmit, EStateM.run_bind, run_attempt, hinner]
  rfl

/-- A failure after the first one is counted. -/
theorem nonFatalEmit_of_later (hinner : inner.run s = .error error s') (hcount : s'.errorCount ≠ 0)
    (onError : PyError → EStateM PyError EmitterState Unit) :
    (nonFatalEmit inner (some onError)).run s =
      .ok () { s' with errorCount := s'.errorCount + 1 } := by
  have hlater : ¬ (s'.errorCount + 1 = 1 ∧ s'.notifying = false) := by omega
  simp only [nonFatalEmit, EStateM.run_bind, run_attempt, hinner, EStateM.run_modify,
    EStateM.run_get, if_neg hlater]
  rfl

/-- The first failure runs the callback, whatever it raises. -/
theorem nonFatalEmit_of_first (hinner : inner.run s = .error error s') (hcount : s'.errorCount = 0)
    (hfree : s'.notifying = false) (onError : PyError → EStateM PyError EmitterState Unit) :
    (nonFatalEmit inner (some onError)).run s =
      .ok () { finalState ((onError error).run { s' with errorCount := 1, notifying := true }) with
        notifying := false } := by
  simp only [nonFatalEmit, EStateM.run_bind, run_attempt, hinner, EStateM.run_modify,
    EStateM.run_get, hcount, hfree, Nat.zero_add, and_self, if_true]
  cases (onError error).run { s' with errorCount := 1, notifying := true } <;> rfl

end Guard

/-! ## One call -/

namespace Emitter

variable (emitter : Emitter)

theorem lines_append (seq : ℕ) (events later : List EmitCall) :
    emitter.lines seq (events ++ later) =
      emitter.lines seq events ++ emitter.lines (seq + events.length) later := by
  rw [lines, List.mapIdx_append]
  simp only [lines, Nat.add_assoc, Nat.add_comm, Nat.add_left_comm]

/-- The events of the log are numbered one after the other. -/
theorem lines_seq (seq : ℕ) (events : List EmitCall) :
    (emitter.lines seq events).map (·.lookup "seq") =
      (List.range events.length).map fun i => some (.int ↑(seq + i + 1)) := by
  apply List.ext_getElem
  · simp [lines]
  · intro i _ _
    simp [lines, PersistentEvent.payload_seq, event]

/-- A run appended the lines of some events, and called the external sink for each of them. -/
structure Advanced (events : List EmitCall) (before after : EmitterState) : Prop where
  sequence : after.sequence = before.sequence + events.length
  log : after.log = before.log ++ emitter.lines before.sequence events
  rendered : emitter.externalSink ≠ none → after.rendered = before.rendered + events.length

variable {emitter}

theorem Advanced.refl (state : EmitterState) : emitter.Advanced [] state state where
  sequence := rfl
  log := by simp [lines]
  rendered _ := rfl

theorem Advanced.trans {events later : List EmitCall} {s s' s'' : EmitterState}
    (h : emitter.Advanced events s s') (hlater : emitter.Advanced later s' s'') :
    emitter.Advanced (events ++ later) s s'' where
  sequence := by rw [hlater.sequence, h.sequence, List.length_append, Nat.add_assoc]
  log := by rw [hlater.log, h.log, h.sequence, lines_append, List.append_assoc]
  rendered hsink := by
    rw [hlater.rendered hsink, h.rendered hsink, List.length_append, Nat.add_assoc]

/-- The state after an event was written and displayed. -/
def written (emitter : Emitter) (call : EmitCall) (state : EmitterState) : EmitterState :=
  { state with
    sequence := state.sequence + 1
    log := state.log ++ [(emitter.event (state.sequence + 1) call).persistent.payload]
    displayed := state.displayed ++ (emitter.event (state.sequence + 1) call).display.toList }

/-- One event was written, and the renderer was called once if there is one. -/
theorem Advanced.single {call : EmitCall} {s s' : EmitterState}
    (hsequence : s'.sequence = s.sequence + 1) (hlog : s'.log = (emitter.written call s).log)
    (hrendered : emitter.externalSink ≠ none → s'.rendered = s.rendered + 1) :
    emitter.Advanced [call] s s' where
  sequence := hsequence
  log := by rw [hlog]; simp [written, lines]
  rendered := hrendered

variable {failure : ℕ → Option PyError}

theorem render_of_none {s : EmitterState} (hfailure : failure s.rendered = none) :
    (render failure).run s = .ok () { s with rendered := s.rendered + 1 } := by
  simp only [render, EStateM.run_bind, EStateM.run_get, EStateM.run_modify, hfailure]
  rfl

theorem render_of_some {s : EmitterState} {error : PyError}
    (hfailure : failure s.rendered = some error) :
    (render failure).run s = .error error { s with rendered := s.rendered + 1 } := by
  simp only [render, EStateM.run_bind, EStateM.run_get, EStateM.run_modify, hfailure]
  rfl

variable [DomainErrorClasses]

/-- Without a renderer an event is written and displayed. -/
theorem emit_of_none (hsink : emitter.externalSink = none) (depth : ℕ) (call : EmitCall)
    (s : EmitterState) :
    (emitter.emit (depth + 1) call).run s =
      .ok (emitter.event (s.sequence + 1) call) (emitter.written call s) := by
  rw [emit, hsink]
  rfl

/-- With a renderer the event then goes through its guard. -/
theorem emit_of_some (hsink : emitter.externalSink = some failure) {s s' : EmitterState}
    {depth : ℕ} {call : EmitCall}
    (hguard : (nonFatalEmit (render failure) (some (notice (emitter.emit depth)))).run
      (emitter.written call s) = .ok () s') :
    (emitter.emit (depth + 1) call).run s = .ok (emitter.event (s.sequence + 1) call) s' := by
  rw [emit, hsink]
  change (nonFatalEmit (render failure) (some (notice (emitter.emit depth))) >>=
    fun _ => pure (emitter.event (s.sequence + 1) call)).run (emitter.written call s) = _
  rw [EStateM.run_bind, hguard]
  rfl

/-- A renderer that succeeds changes nothing else. -/
theorem emit_of_rendered (hsink : emitter.externalSink = some failure) {s : EmitterState}
    (hfailure : failure s.rendered = none) (depth : ℕ) (call : EmitCall) :
    (emitter.emit (depth + 1) call).run s =
      .ok (emitter.event (s.sequence + 1) call)
        { emitter.written call s with rendered := s.rendered + 1 } := by
  have hrender : (render failure).run (emitter.written call s) =
      .ok () { emitter.written call s with rendered := s.rendered + 1 } := render_of_none hfailure
  exact emit_of_some hsink (nonFatalEmit_of_ok hrender _)

/-- After the first failure another one is only counted. -/
theorem emit_of_later (hsink : emitter.externalSink = some failure) {s : EmitterState}
    {error : PyError} (hfailure : failure s.rendered = some error) (hcount : s.errorCount ≠ 0)
    (depth : ℕ) (call : EmitCall) :
    (emitter.emit (depth + 1) call).run s =
      .ok (emitter.event (s.sequence + 1) call)
        { emitter.written call s with
          rendered := s.rendered + 1
          errorCount := s.errorCount + 1 } := by
  have hrender : (render failure).run (emitter.written call s) =
      .error error { emitter.written call s with rendered := s.rendered + 1 } :=
    render_of_some hfailure
  exact emit_of_some hsink (nonFatalEmit_of_later hrender hcount _)

/-- Once the renderer has failed, an event is written and nothing else is. -/
theorem emit_failed (hsink : emitter.externalSink = some failure) {s : EmitterState}
    (hcount : s.errorCount ≠ 0) (depth : ℕ) (call : EmitCall) :
    ∃ s', (emitter.emit (depth + 1) call).run s = .ok (emitter.event (s.sequence + 1) call) s' ∧
      emitter.Advanced [call] s s' ∧ s'.errorCount ≠ 0 := by
  cases hfailure : failure s.rendered with
  | none =>
    exact ⟨_, emit_of_rendered hsink hfailure depth call, .single rfl rfl fun _ => rfl, hcount⟩
  | some error =>
    exact ⟨_, emit_of_later hsink hfailure hcount depth call, .single rfl rfl fun _ => rfl,
      Nat.succ_ne_zero _⟩

/-- The first failure of the renderer writes the event and then its notice, which goes through the
same guard once more. -/
theorem emit_first_failure (hsink : emitter.externalSink = some failure) {s : EmitterState}
    {error : PyError} (hfailure : failure s.rendered = some error) (hcount : s.errorCount = 0)
    (hfree : s.notifying = false) (depth : ℕ) (call : EmitCall) :
    ∃ s', (emitter.emit (depth + 2) call).run s = .ok (emitter.event (s.sequence + 1) call) s' ∧
      emitter.Advanced [call, rendererNotice error] s s' ∧ s'.errorCount ≠ 0 := by
  have hrender : (render failure).run (emitter.written call s) =
      .error error { emitter.written call s with rendered := s.rendered + 1 } :=
    render_of_some hfailure
  have hguard := nonFatalEmit_of_first hrender hcount hfree (notice (emitter.emit (depth + 1)))
  -- the state in which the callback runs
  let noticing : EmitterState :=
    { emitter.written call s with
      rendered := s.rendered + 1
      errorCount := 1
      notifying := true }
  obtain ⟨s', hrun, hadvanced, hcount'⟩ :=
    emit_failed hsink (show noticing.errorCount ≠ 0 from one_ne_zero) depth (rendererNotice error)
  have hnotice : (notice (emitter.emit (depth + 1)) error).run noticing = .ok () s' := by
    have hone : noticing.errorCount = 1 := rfl
    simp only [notice, EStateM.run_bind, EStateM.run_get, hone, if_true, hrun]
    rfl
  refine ⟨{ s' with notifying := false }, ?_, ?_, hcount'⟩
  · apply emit_of_some hsink
    rw [hguard, hnotice]
    rfl
  · have hfirst : emitter.Advanced [call] s noticing := .single rfl rfl fun _ => rfl
    have hboth := hfirst.trans hadvanced
    exact ⟨hboth.sequence, hboth.log, hboth.rendered⟩

/-! ## A run -/

theorem emitAll_cons {depth : ℕ} {call : EmitCall} {calls : List EmitCall} {s s' : EmitterState}
    {event : SimulationEvent} (hrun : (emitter.emit depth call).run s = .ok event s') :
    (emitter.emitAll depth (call :: calls)).run s = (emitter.emitAll depth calls).run s' := by
  change ((emitter.emit depth call >>= fun _ => pure ()) >>=
    fun _ => emitter.emitAll depth calls).run s = _
  rw [EStateM.run_bind, EStateM.run_bind, hrun]
  rfl

/-- Without a renderer the calls are written. -/
theorem emitAll_of_none (hsink : emitter.externalSink = none) (depth : ℕ) (calls : List EmitCall)
    (s : EmitterState) :
    ∃ s', (emitter.emitAll (depth + 1) calls).run s = .ok () s' ∧ emitter.Advanced calls s s' := by
  induction calls generalizing s with
  | nil => exact ⟨s, rfl, .refl s⟩
  | cons call calls ih =>
    obtain ⟨s', hrun, hadvanced⟩ := ih (emitter.written call s)
    refine ⟨s', ?_, ?_⟩
    · rw [emitAll_cons (emit_of_none hsink depth call s), hrun]
    · have hsingle : emitter.Advanced [call] s (emitter.written call s) :=
        .single rfl rfl fun h => absurd hsink h
      exact hsingle.trans hadvanced

/-- Once the renderer has failed, the calls are written. -/
theorem emitAll_failed (hsink : emitter.externalSink = some failure) (depth : ℕ)
    (calls : List EmitCall) {s : EmitterState} (hcount : s.errorCount ≠ 0) :
    ∃ s', (emitter.emitAll (depth + 1) calls).run s = .ok () s' ∧ emitter.Advanced calls s s' := by
  induction calls generalizing s with
  | nil => exact ⟨s, rfl, .refl s⟩
  | cons call calls ih =>
    obtain ⟨t, hcall, hsingle, hcount⟩ := emit_failed hsink hcount depth call
    obtain ⟨s', hrun, hadvanced⟩ := ih hcount
    refine ⟨s', ?_, hsingle.trans hadvanced⟩
    rw [emitAll_cons hcall, hrun]

/-- While the renderer has not failed, the calls are written up to its first failure, and the notice
comes after it. -/
theorem emitAll_quiet (hsink : emitter.externalSink = some failure) (depth : ℕ)
    (calls : List EmitCall) {s : EmitterState} (hcount : s.errorCount = 0)
    (hfree : s.notifying = false) :
    ∃ s' events, (emitter.emitAll (depth + 2) calls).run s = .ok () s' ∧
      emitter.Advanced events s s' ∧ Noticed (fun n => failure (s.rendered + n)) calls events := by
  induction calls generalizing s with
  | nil => exact ⟨s, [], rfl, .refl s, .nil⟩
  | cons call calls ih =>
    cases hfailure : failure s.rendered with
    | none =>
      obtain ⟨s', events, hrun, hadvanced, hnoticed⟩ :=
        ih (s := { emitter.written call s with rendered := s.rendered + 1 }) hcount hfree
      refine ⟨s', call :: events, ?_, ?_, ?_⟩
      · rw [emitAll_cons (emit_of_rendered hsink hfailure (depth + 1) call), hrun]
      · have hsingle : emitter.Advanced [call] s
            { emitter.written call s with rendered := s.rendered + 1 } :=
          .single rfl rfl fun _ => rfl
        exact hsingle.trans hadvanced
      · apply hnoticed.cons hfailure
        intro n
        exact congrArg failure (Nat.add_right_comm s.rendered 1 n)
    | some error =>
      obtain ⟨t, hcall, hpair, hcount⟩ := emit_first_failure hsink hfailure hcount hfree depth call
      obtain ⟨s', hrun, hadvanced⟩ := emitAll_failed hsink (depth + 1) calls hcount
      refine ⟨s', call :: rendererNotice error :: calls, ?_, hpair.trans hadvanced, ?_⟩
      · rw [emitAll_cons hcall, hrun]
      · exact .first hfailure

/-- **The log is complete, whatever the renderer does**: no call raises, the calls are logged in
their order with consecutive numbers, and a notice follows the first of them that the renderer fails
on, if it fails on any event. -/
theorem emitAll_complete (emitter : Emitter) (depth : ℕ) (calls : List EmitCall)
    (earlier : List Record) :
    ∃ s' events, (emitter.emitAll (depth + 2) calls).run { log := earlier } = .ok () s' ∧
      s'.log = earlier ++ emitter.lines 0 events ∧
      (emitter.lines 0 events).map (·.lookup "seq") =
        (List.range events.length).map (fun i => some (.int ↑(i + 1))) ∧
      (emitter.externalSink = none → events = calls) ∧
      ∀ failure, emitter.externalSink = some failure →
        Noticed failure calls events ∧
        ((∃ n < s'.rendered, failure n ≠ none) ↔ events.length = calls.length + 1) := by
  have hnumbers (events : List EmitCall) := by simpa using emitter.lines_seq 0 events
  cases hsink : emitter.externalSink with
  | none =>
    obtain ⟨s', hrun, hadvanced⟩ := emitAll_of_none hsink (depth + 1) calls { log := earlier }
    exact ⟨s', calls, hrun, hadvanced.log, hnumbers calls, fun _ => rfl, fun _ h => by cases h⟩
  | some failure =>
    obtain ⟨s', events, hrun, hadvanced, hnoticed⟩ :=
      emitAll_quiet hsink depth calls (s := { log := earlier }) rfl rfl
    refine ⟨s', events, hrun, hadvanced.log, hnumbers events, fun h => (by cases h), ?_⟩
    rintro _ ⟨⟩
    have hrendered := hadvanced.rendered (by simp [hsink])
    simp only [Nat.zero_add] at hrendered hnoticed
    rw [hrendered]
    exact ⟨hnoticed, hnoticed.failed_iff⟩

end Emitter

end ObservabilityLab.UserSimulator
