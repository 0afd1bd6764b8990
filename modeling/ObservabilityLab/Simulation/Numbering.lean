import ObservabilityLab.Simulation.LiveStream

/-!
# The numbers of a transcript

An emission takes its number before the event is checked, so that a rejected event leaves a gap. The
numbers of a transcript count its events exactly when no emission of the run is rejected.

## Main definitions

* `StreamAction.Allowed`: an emission that the event model accepts
* `NumberedTranscript`: the accepted events with consecutive numbers, and no trace of the rejected
  ones

## Main results

* `emit_isOk_iff`: when an emission is accepted
* `sequence_run`: the numbers of a run without rejections
* `numberedTranscript_iff`: when the transcript of a run is numbered
-/

namespace ObservabilityLab

open Python

/-- An emission that the event model accepts: allowlisted attributes, which are scalars, at a time
that is not negative. -/
def StreamAction.Allowed : StreamAction → Prop
  | .emit _ elapsedMs attributes => PyFloat.le 0 elapsedMs = true ∧
      (attributes.all fun entry => isScalar entry.2) = true ∧
      (attributes.all fun entry => entry.1 ∈ simulationEventAttributeAllowlist) = true
  | _ => True

/-- **A numbered transcript**: the accepted events in call order with consecutive numbers, and every
rejected emission left the collector as it was. -/
structure NumberedTranscript (start : SimulationEventCollector) (actions : List StreamAction)
    (collector : SimulationEventCollector) : Prop where
  transcript : collector.events = start.emissions actions
  consecutive : collector.events.map (·.sequence) = List.range' 1 collector.events.length
  unchanged : ∀ before kind elapsedMs attributes after reached,
    actions = before ++ .emit kind elapsedMs attributes :: after →
    start.run before = some reached → (reached.emit kind elapsedMs attributes).1.isOk = false →
    (reached.emit kind elapsedMs attributes).2 = reached

namespace SimulationEventCollector

variable {start collector after : SimulationEventCollector} {action : StreamAction}
  {actions : List StreamAction} {kind : SimulationEventKind} {elapsedMs : PyFloat}
  {attributes : Record}

/-! ## One emission -/

/-- **When an emission is accepted.** -/
theorem emit_isOk_iff : (collector.emit kind elapsedMs attributes).1.isOk = true ↔
    (StreamAction.emit kind elapsedMs attributes).Allowed := by
  rw [StreamAction.Allowed, emit, SimulationEvent.new]
  by_cases helapsed : PyFloat.le 0 elapsedMs = true
  · by_cases hscalar : (attributes.all fun entry => isScalar entry.2) = true
    · by_cases hallowed :
        (attributes.all fun entry => entry.1 ∈ simulationEventAttributeAllowlist) = true
      · simp [helapsed, hscalar, hallowed, Except.isOk, Except.toBool]
      · simp [helapsed, hscalar, hallowed, Except.isOk, Except.toBool]
    · simp [helapsed, hscalar, Except.isOk, Except.toBool]
  · simp [helapsed, Except.isOk, Except.toBool]

/-- Every emission uses up a number, also one that is rejected. -/
theorem sequence_emit (collector : SimulationEventCollector) (kind : SimulationEventKind)
    (elapsedMs : PyFloat) (attributes : Record) :
    (collector.emit kind elapsedMs attributes).2.sequence = collector.sequence + 1 := by
  rcases emit_cases collector kind elapsedMs attributes with ⟨e, hemit⟩ | ⟨event, -, hemit⟩
  · rw [hemit]
  · rw [hemit]

/-! ## Runs without rejections -/

/-- The next number counts the events, which have the numbers before it. -/
structure Counted (collector : SimulationEventCollector) : Prop where
  next : collector.sequence = collector.events.length
  consecutive : collector.events.map (·.sequence) = List.range' 1 collector.events.length

theorem counted_new {subscriberBuffer : ℤ}
    (h : SimulationEventCollector.new subscriberBuffer = .ok start) :
    start.events = [] ∧ start.Counted := by
  unfold SimulationEventCollector.new at h
  split_ifs at h
  obtain rfl := Except.ok.inj h
  exact ⟨rfl, rfl, rfl⟩

/-- **A step without a rejection keeps the count.** -/
theorem Counted.step (h : collector.Counted) (hallowed : action.Allowed)
    (hstep : collector.step action = some after) : after.Counted := by
  rcases step_cases hstep with ⟨kind, elapsedMs, attributes, rfl, rfl⟩ | ⟨id, stream, -, -, rfl⟩
  · have hok : (collector.emit kind elapsedMs attributes).1.isOk = true :=
      emit_isOk_iff.mpr hallowed
    rcases emit_cases collector kind elapsedMs attributes with ⟨e, hemit⟩ | ⟨event, hevent, hemit⟩
    · rw [hemit] at hok
      cases hok
    · rw [hemit]
      constructor
      · dsimp only
        rw [List.length_append, List.length_singleton, h.next]
      · dsimp only
        rw [List.map_append, h.consecutive, List.length_append, List.length_singleton,
          List.range'_concat, List.map_singleton, hevent, h.next, Nat.one_mul, Nat.add_comm 1]
  · exact ⟨h.next, h.consecutive⟩

/-- **The numbers of a run without rejections.** -/
theorem sequence_run (hstart : start.Counted) (hallowed : ∀ action ∈ actions, action.Allowed)
    (hrun : start.run actions = some collector) : collector.Counted := by
  refine run_invariant (fun _ => Counted) hstart ?_ hrun
  intro before action collector after hprefix hcounted hstep
  apply hcounted.step _ hstep
  apply hallowed
  exact hprefix.subset (List.mem_append_right _ List.mem_cons_self)

/-- A run reaches its every step. -/
theorem run_prefix {before later : List StreamAction}
    (hrun : start.run (before ++ later) = some collector) :
    ∃ reached, start.run before = some reached := by
  rw [run, List.foldlM_append, Option.bind_eq_bind, Option.bind_eq_some_iff] at hrun
  obtain ⟨reached, hreached, -⟩ := hrun
  exact ⟨reached, hreached⟩

end SimulationEventCollector

open SimulationEventCollector

variable {start collector : SimulationEventCollector} {actions : List StreamAction}

/-- **When the transcript of a run is numbered**: exactly when none of its emissions is rejected. -/
theorem numberedTranscript_iff {subscriberBuffer : ℤ}
    (hnew : SimulationEventCollector.new subscriberBuffer = .ok start)
    (hrun : start.run actions = some collector) :
    NumberedTranscript start actions collector ↔ ∀ action ∈ actions, action.Allowed := by
  obtain ⟨hempty, hcounted⟩ := counted_new hnew
  constructor
  · intro h action haction
    by_contra hrejected
    obtain ⟨before, later, rfl⟩ := List.append_of_mem haction
    obtain ⟨reached, hreached⟩ := run_prefix hrun
    cases action with
    | emit kind elapsedMs attributes =>
      have hnot : (reached.emit kind elapsedMs attributes).1.isOk = false :=
        Bool.eq_false_iff.mpr (mt emit_isOk_iff.mp hrejected)
      have hsame := h.unchanged before kind elapsedMs attributes later reached rfl hreached hnot
      -- The rejected emission has used up a number.
      have hsequence := sequence_emit reached kind elapsedMs attributes
      rw [hsame] at hsequence
      omega
    | subscribe => exact hrejected trivial
    | check => exact hrejected trivial
    | wake => exact hrejected trivial
    | expire => exact hrejected trivial
    | close => exact hrejected trivial
  · intro hallowed
    constructor
    case transcript => exact events_run hempty hrun
    case consecutive => exact (sequence_run hcounted hallowed hrun).consecutive
    case unchanged =>
      rintro before kind elapsedMs attributes later reached rfl - hrejected
      have hok : (reached.emit kind elapsedMs attributes).1.isOk = true :=
        emit_isOk_iff.mpr (hallowed _ (List.mem_append_right _ List.mem_cons_self))
      rw [hrejected] at hok
      cases hok

/-! ## A rejected event -/

/-- An emission with an attribute outside the allowlist. -/
def secretEmission : StreamAction := .emit .modelRequest 0 [("secret", .str "hidden")]

def toolEmission : StreamAction := .emit .toolSelected 0 [("tool", .str "get_order_status")]

theorem new_smallCollector : SimulationEventCollector.new 2 = .ok smallCollector := rfl

/-- `numberedTranscript_iff` on a run of one emission. -/
theorem numberedTranscript_iff_toolEmission :
    NumberedTranscript smallCollector [toolEmission]
        (smallCollector.emit .toolSelected 0 [("tool", .str "get_order_status")]).2 ↔
      ∀ action ∈ [toolEmission], action.Allowed :=
  numberedTranscript_iff new_smallCollector rfl

/-- **The first event of a transcript has the number two**, after a rejected emission. -/
theorem not_numberedTranscript_secretEmission :
    SimulationEventCollector.new 2 = .ok smallCollector ∧
      ∃ collector, smallCollector.run [secretEmission, toolEmission] = some collector ∧
        collector.events.map (·.sequence) = [2] ∧
        ¬ NumberedTranscript smallCollector [secretEmission, toolEmission] collector := by
  have hevents : ∃ collector ∈ smallCollector.run [secretEmission, toolEmission],
      collector.events.map (·.sequence) = [2] ∧
      ¬ collector.events.map (·.sequence) = List.range' 1 collector.events.length := by
    decide +kernel
  obtain ⟨collector, hrun, hsequence, hgap⟩ := hevents
  exact ⟨new_smallCollector, collector, hrun, hsequence, fun h => hgap h.consecutive⟩

end ObservabilityLab
