import ObservabilityLab.Simulation.Events

/-!
# Live delivery

What the subscribers of a collector receive, for every interleaving of emissions with their
iterations.

## Main definitions

* `SimulationEventCollector.emissions`: the events that the emissions of a run return
* `Accounts`: every event is taken, lost, or still in the queue
* `Ends`: how a stream ends after the last emission
* `LiveDelivery`: what holds after a run

## Main results

* `accounts_step`: a step loses at most the oldest event of a full queue
* `ends_run`: a stream ends after the last emission, with the last events
* `liveDelivery_run`: live delivery, for every run
-/

namespace ObservabilityLab

open Python

/-- The event that an emission returns. -/
def SimulationEventCollector.emitted (collector : SimulationEventCollector) :
    StreamAction → List SimulationEvent
  | .emit kind elapsedMs attributes =>
    (collector.emit kind elapsedMs attributes).1.toOption.toList
  | _ => []

/-- The events that the emissions of a run return. -/
def SimulationEventCollector.emissions :
    SimulationEventCollector → List StreamAction → List SimulationEvent
  | _, [] => []
  | collector, action :: actions =>
    collector.emitted action ++
      match collector.step action with
      | some after => after.emissions actions
      | none => []

/-- **Every event of a queue is taken, lost or kept**: what was in the queue and what is offered to
it is lost, then taken, then still in the queue; and only a full queue loses, its oldest event. -/
def Accounts (buffer : ℕ) (before after : EventStream) (offered : List SimulationEvent) : Prop :=
  ∃ lost taken, before.queue ++ offered = lost ++ taken ++ after.queue ∧
    after.received = before.received ++ taken ∧
    (lost = [] ∨ before.queue.length = buffer ∧ lost = before.queue.take 1)

/-- A step of the loop of a stream. -/
def StreamAction.isOwn (id : ℕ) : StreamAction → Bool
  | .check other _ => other = id
  | .wake other => other = id
  | .expire other => other = id
  | _ => false

def StreamAction.isEmit : StreamAction → Bool
  | .emit .. => true
  | _ => false

/-- `until` has one value at every head of the loop of a stream. -/
def UntilIs (id : ℕ) (value : Bool) (actions : List StreamAction) : Prop :=
  ∀ done, .check id done ∈ actions → done = value

/-- **A stream ends**: after boundedly many steps of its loop it has returned, and until then it
has a next one; when it has returned, it delivered the last events, up to the size of its queue. -/
structure Ends (id : ℕ) (ending : List StreamAction) (last : SimulationEventCollector) : Prop where
  bounded : ending.countP (·.isOwn id) ≤ 2 * last.subscriberBuffer + 2
  continues : (last.streams id).phase ≠ .returned →
    ∃ action ∈ [.check id true, .expire id], (last.step action).isSome = true
  latest : (last.streams id).phase = .returned →
    (last.events.drop (last.streams id).since).drop
      ((last.events.drop (last.streams id).since).length - last.subscriberBuffer) <:+
        (last.streams id).received

/-- **Live delivery** after a run. -/
structure LiveDelivery (start : SimulationEventCollector) (actions : List StreamAction)
    (collector : SimulationEventCollector) : Prop where
  /-- The transcript contains every emitted event. -/
  transcript : collector.events = start.emissions actions
  /-- A subscriber receives a strictly increasing subsequence of the transcript. -/
  received : ∀ id, (collector.streams id).received.Sublist collector.events ∧
    (collector.streams id).received.Pairwise (·.sequence < ·.sequence)
  /-- A step loses at most the oldest event of a full queue. -/
  losses : ∀ action after id, collector.step action = some after →
    (collector.streams id).Subscribed →
    Accounts collector.subscriberBuffer (collector.streams id) (after.streams id)
      (after.events.drop collector.events.length)
  /-- A stream ends, when `until` becomes true after the last emission and stays true. -/
  ends : ∀ ending last id, collector.run ending = some last →
    (∀ action ∈ ending, action.isEmit = false) → UntilIs id false actions →
    UntilIs id true ending → .close id ∉ actions ++ ending → (last.streams id).phase ≠ .idle →
    Ends id ending last

namespace SimulationEventCollector

variable {start collector after : SimulationEventCollector} {action : StreamAction} {id : ℕ}
  {actions : List StreamAction}

/-! ## The transcript -/

theorem emissions_append {later : List StreamAction}
    (hrun : start.run actions = some collector) :
    start.emissions (actions ++ later) = start.emissions actions ++ collector.emissions later := by
  induction actions generalizing start with
  | nil =>
    rw [← Option.some.inj hrun]
    rfl
  | cons action actions ih =>
    obtain ⟨next, hnext, hrest⟩ := Option.bind_eq_some_iff.mp hrun
    rw [List.cons_append, emissions, emissions, hnext, List.append_assoc, ← ih hrest]

/-- A step adds to the transcript what an emission returns. -/
theorem events_step (hstep : collector.step action = some after) :
    after.events = collector.events ++ collector.emitted action := by
  rcases step_cases hstep with ⟨kind, elapsedMs, attributes, rfl, rfl⟩ | ⟨id, stream, hid, -, rfl⟩
  · rw [emitted]
    rcases emit_cases collector kind elapsedMs attributes with ⟨e, hemit⟩ | ⟨event, -, hemit⟩
    · rw [hemit]
      exact (List.append_nil _).symm
    · rw [hemit]
      rfl
  · cases action with
    | emit => cases hid
    | _ => exact (List.append_nil _).symm

/-- **The transcript of a run** is what its emissions return. -/
theorem events_run (hstart : start.events = []) (hrun : start.run actions = some collector) :
    collector.events = start.emissions actions := by
  induction actions using List.reverseRecOn generalizing collector with
  | nil =>
    rw [← Option.some.inj hrun]
    exact hstart
  | append_singleton actions action ih =>
    obtain ⟨before, hbefore, hstep⟩ := run_concat.mp hrun
    rw [emissions_append hbefore, ← ih hbefore, events_step hstep, emissions, hstep]
    exact congrArg _ (List.append_nil _).symm

/-! ## What a step loses -/

/-- **A step loses at most the oldest event of a full queue.** -/
theorem accounts_step (hsound : collector.Sound) (hstep : collector.step action = some after)
    (hsubscribed : (collector.streams id).Subscribed) :
    Accounts collector.subscriberBuffer (collector.streams id) (after.streams id)
      (after.events.drop collector.events.length) := by
  rcases step_cases hstep with ⟨kind, elapsedMs, attributes, -, rfl⟩ | ⟨own, stream, -, hown, rfl⟩
  · rcases emit_cases collector kind elapsedMs attributes with ⟨e, hemit⟩ | ⟨event, -, hemit⟩
    · rw [hemit, List.drop_length]
      exact ⟨[], [], List.append_nil _, (List.append_nil _).symm, Or.inl rfl⟩
    · rw [hemit]
      dsimp only
      rw [List.drop_left, EventStream.offer, if_pos hsubscribed]
      by_cases hfull : collector.subscriberBuffer ≤ (collector.streams id).queue.length
      · have hbounded := ((hsound.streams id).delivers hsubscribed).bounded
        refine ⟨(collector.streams id).queue.take 1, [], ?_, (List.append_nil _).symm,
          Or.inr ⟨hbounded.antisymm hfull, rfl⟩⟩
        rw [DropOldest.push_of_le hfull, List.append_nil, ← List.append_assoc, ← List.drop_one,
          List.take_append_drop]
      · refine ⟨[], [], ?_, (List.append_nil _).symm, Or.inl rfl⟩
        rw [DropOldest.push_of_lt (Nat.lt_of_not_le hfull)]
        rfl
  · change Accounts _ _ _ (collector.events.drop collector.events.length)
    rw [List.drop_length]
    by_cases hother : id = own
    · subst hother
      rw [streams_withStream_self]
      cases hown with
      | subscribes hidle =>
        rcases hsubscribed with hready | hwaiting
        · exact absurd (hready.symm.trans hidle) (by decide)
        · exact absurd (hwaiting.symm.trans hidle) (by decide)
      | turns =>
        exact ⟨[], [], List.append_nil _, (List.append_nil _).symm, Or.inl rfl⟩
      | takes event rest _ hqueue =>
        refine ⟨[], [event], ?_, rfl, Or.inl rfl⟩
        rw [hqueue, List.append_nil]
        rfl
    · rw [streams_withStream_of_ne hother]
      exact ⟨[], [], List.append_nil _, (List.append_nil _).symm, Or.inl rfl⟩

end SimulationEventCollector

/-! ## How a stream ends -/

/-- How many steps of its loop a stream takes at most, when no further event is emitted and `until`
is true. -/
def EventStream.remaining (buffer : ℕ) (stream : EventStream) : ℕ :=
  match stream.phase with
  | .idle => 2 * buffer + 2
  | .ready => 2 * stream.queue.length + 1
  | .waiting => 2 * stream.queue.length + 2
  | .returned => 0
  | .closed => 0

namespace EventStream

variable {stream : EventStream}

theorem remaining_ready (buffer : ℕ) (h : stream.phase = .ready) :
    stream.remaining buffer = 2 * stream.queue.length + 1 := by
  rw [remaining, h]

theorem remaining_waiting (buffer : ℕ) (h : stream.phase = .waiting) :
    stream.remaining buffer = 2 * stream.queue.length + 2 := by
  rw [remaining, h]

/-- The iteration of a stream goes on, or has not started. -/
def Running (stream : EventStream) : Prop := stream.phase ≠ .returned ∧ stream.phase ≠ .closed

theorem running_of_ready (h : stream.phase = .ready) : stream.Running := by
  rw [Running, h]
  decide

theorem running_of_waiting (h : stream.phase = .waiting) : stream.Running := by
  rw [Running, h]
  decide

end EventStream

/-- **A stream drains** its queue: it took some steps of its loop, and boundedly many remain. -/
structure EventStream.Draining (buffer : ℕ) (events : List SimulationEvent) (stream : EventStream)
    (steps : ℕ) : Prop where
  sound : stream.Sound buffer events
  notClosed : stream.phase ≠ .closed
  returned : stream.phase = .returned → DropOldest.Delivers buffer (events.drop stream.since)
    stream.received []
  bounded : steps + stream.remaining buffer ≤ 2 * buffer + 2

namespace EventStream.Draining

variable {buffer steps : ℕ} {events : List SimulationEvent} {stream after : EventStream}

/-- A stream that has not ended starts to drain. -/
theorem start (hsound : stream.Sound buffer events) (hrunning : stream.Running) :
    stream.Draining buffer events 0 := by
  refine ⟨hsound, hrunning.2, fun h => absurd h hrunning.1, ?_⟩
  have hqueue (hsubscribed : stream.Subscribed) := (hsound.delivers hsubscribed).bounded
  rw [Nat.zero_add]
  unfold EventStream.remaining
  split
  · exact le_rfl
  · rename_i hready
    have := hqueue (Or.inl hready)
    omega
  · rename_i hwaiting
    have := hqueue (Or.inr hwaiting)
    omega
  · omega
  · omega

theorem subscribe (h : stream.Draining buffer events steps)
    (hstep : stream.subscribe events.length = some after) : after.Draining buffer events steps := by
  have hsound := h.sound.step (EventStream.subscribe_step hstep)
  have hbounded := h.bounded
  unfold EventStream.subscribe at hstep
  split at hstep
  · rename_i hidle
    have hready : after.phase = .ready := by rw [← Option.some.inj hstep]
    have hqueue : after.queue = [] := by
      rw [← Option.some.inj hstep]
      exact (h.sound.fresh hidle).2
    have hrunning := EventStream.running_of_ready hready
    refine ⟨hsound, hrunning.2, fun hreturned => absurd hreturned hrunning.1, ?_⟩
    rw [EventStream.remaining, hidle] at hbounded
    dsimp only at hbounded
    rw [EventStream.remaining_ready buffer hready, hqueue, List.length_nil]
    omega
  · cases hstep

/-- Taking an event is a step of the loop. -/
theorem deliver {event : SimulationEvent} {rest : List SimulationEvent}
    (h : stream.Draining buffer events steps)
    (hsound : (stream.deliver event rest).Sound buffer events)
    (hsubscribed : stream.Subscribed) (hqueue : stream.queue = event :: rest) :
    (stream.deliver event rest).Draining buffer events (steps + 1) := by
  have hready : (stream.deliver event rest).phase = .ready := rfl
  have hrunning := EventStream.running_of_ready hready
  refine ⟨hsound, hrunning.2, fun hreturned => absurd hreturned hrunning.1, ?_⟩
  have hlength : (stream.deliver event rest).queue.length + 1 = stream.queue.length := by
    rw [hqueue]
    rfl
  have hbounded := h.bounded
  rw [EventStream.remaining_ready buffer hready]
  rcases hsubscribed with hready | hwaiting
  · rw [EventStream.remaining_ready buffer hready] at hbounded
    omega
  · rw [EventStream.remaining_waiting buffer hwaiting] at hbounded
    omega

/-- The head of the loop returns, or takes an event. -/
theorem check (h : stream.Draining buffer events steps) (hstep : stream.check true = some after) :
    after.Draining buffer events (steps + 1) := by
  have hsound := h.sound.step (EventStream.check_step hstep)
  unfold EventStream.check at hstep
  split at hstep
  · rename_i hready
    split at hstep
    · rename_i hqueue
      rw [if_pos rfl] at hstep
      obtain rfl := Option.some.inj hstep
      have hdelivers := h.sound.delivers (Or.inl hready)
      rw [hqueue] at hdelivers
      refine ⟨hsound, fun hclosed => (by cases hclosed), fun _ => hdelivers, ?_⟩
      have hbounded := h.bounded
      rw [EventStream.remaining_ready buffer hready] at hbounded
      rw [EventStream.remaining]
      dsimp only
      omega
    · rename_i event rest hqueue
      obtain rfl := Option.some.inj hstep
      exact h.deliver hsound (Or.inl hready) hqueue
  · cases hstep

theorem wake (h : stream.Draining buffer events steps) (hstep : stream.wake = some after) :
    after.Draining buffer events (steps + 1) := by
  have hsound := h.sound.step (EventStream.wake_step hstep)
  unfold EventStream.wake at hstep
  split at hstep
  · rename_i hwaiting
    split at hstep
    · cases hstep
    · rename_i event rest hqueue
      obtain rfl := Option.some.inj hstep
      exact h.deliver hsound (Or.inr hwaiting) hqueue
  · cases hstep

theorem expire (h : stream.Draining buffer events steps) (hstep : stream.expire = some after) :
    after.Draining buffer events (steps + 1) := by
  have hsound := h.sound.step (EventStream.expire_step hstep)
  have hbounded := h.bounded
  unfold EventStream.expire at hstep
  split at hstep
  · rename_i hwaiting
    have hready : after.phase = .ready := by rw [← Option.some.inj hstep]
    have hqueue : after.queue = stream.queue := by rw [← Option.some.inj hstep]
    have hrunning := EventStream.running_of_ready hready
    refine ⟨hsound, hrunning.2, fun hreturned => absurd hreturned hrunning.1, ?_⟩
    rw [EventStream.remaining_waiting buffer hwaiting] at hbounded
    rw [EventStream.remaining_ready buffer hready, hqueue]
    omega
  · cases hstep

end EventStream.Draining

namespace SimulationEventCollector

variable {start collector after last : SimulationEventCollector} {action : StreamAction} {id : ℕ}
  {actions ending : List StreamAction}

/-- A step of another stream leaves a stream as it is. -/
theorem streams_step_of_ne (hstep : collector.step action = some after)
    (hemit : action.isEmit = false) (hother : action.id? ≠ some id) :
    after.streams id = collector.streams id := by
  rcases step_cases hstep with ⟨_, _, _, rfl, -⟩ | ⟨own, stream, hown, -, rfl⟩
  · cases hemit
  · refine streams_withStream_of_ne (fun hsame => hother ?_) stream
    rw [hown, hsame]

/-- A step that is no emission leaves the transcript as it is. -/
theorem events_step_of_not_emit (hstep : collector.step action = some after)
    (hemit : action.isEmit = false) :
    after.events = collector.events ∧ after.subscriberBuffer = collector.subscriberBuffer := by
  rcases step_cases hstep with ⟨_, _, _, rfl, -⟩ | ⟨_, _, -, -, rfl⟩
  · cases hemit
  · exact ⟨rfl, rfl⟩

/-- A stream has not ended, as long as `until` is false and its consumer goes on. -/
theorem running_step (hstep : collector.step action = some after)
    (hrunning : (collector.streams id).Running)
    (huntil : ∀ done, action = .check id done → done = false) (hclose : action ≠ .close id) :
    (after.streams id).Running := by
  -- actions of the other streams leave this one alone, and a rejected event is not offered
  cases action with
  | emit kind elapsedMs attributes =>
    obtain rfl := Option.some.inj hstep
    rcases emit_cases collector kind elapsedMs attributes with ⟨e, hemit⟩ | ⟨event, -, hemit⟩
    · rw [hemit]
      exact hrunning
    · rw [hemit]
      dsimp only
      unfold EventStream.offer
      split
      · exact hrunning
      · exact hrunning
  | subscribe own =>
    by_cases hown : own = id
    · subst hown
      have hstep : collector.onStream own (·.subscribe collector.events.length) = some after :=
        hstep
      obtain ⟨stream, hstream, rfl⟩ := onStream_eq_some.mp hstep
      rw [streams_withStream_self]
      unfold EventStream.subscribe at hstream
      split at hstream
      · rw [← Option.some.inj hstream]
        exact EventStream.running_of_ready rfl
      · cases hstream
    · rw [streams_step_of_ne hstep rfl fun hsame => hown (Option.some.inj hsame)]
      exact hrunning
  | check own done =>
    by_cases hown : own = id
    · subst hown
      obtain rfl := huntil done rfl
      have hstep : collector.onStream own (·.check false) = some after := hstep
      obtain ⟨stream, hstream, rfl⟩ := onStream_eq_some.mp hstep
      rw [streams_withStream_self]
      unfold EventStream.check at hstream
      split at hstream
      · split at hstream
        · rw [← Option.some.inj hstream]
          exact EventStream.running_of_waiting rfl
        · rw [← Option.some.inj hstream]
          exact EventStream.running_of_ready rfl
      · cases hstream
    · rw [streams_step_of_ne hstep rfl fun hsame => hown (Option.some.inj hsame)]
      exact hrunning
  | wake own =>
    by_cases hown : own = id
    · subst hown
      obtain ⟨stream, hstream, rfl⟩ := onStream_eq_some.mp hstep
      rw [streams_withStream_self]
      unfold EventStream.wake at hstream
      split at hstream
      · split at hstream
        · cases hstream
        · rw [← Option.some.inj hstream]
          exact EventStream.running_of_ready rfl
      · cases hstream
    · rw [streams_step_of_ne hstep rfl fun hsame => hown (Option.some.inj hsame)]
      exact hrunning
  | expire own =>
    by_cases hown : own = id
    · subst hown
      obtain ⟨stream, hstream, rfl⟩ := onStream_eq_some.mp hstep
      rw [streams_withStream_self]
      unfold EventStream.expire at hstream
      split at hstream
      · rw [← Option.some.inj hstream]
        exact EventStream.running_of_ready rfl
      · cases hstream
    · rw [streams_step_of_ne hstep rfl fun hsame => hown (Option.some.inj hsame)]
      exact hrunning
  | close own =>
    have hown : own ≠ id := fun hsame => hclose (by rw [hsame])
    rw [streams_step_of_ne hstep rfl fun hsame => hown (Option.some.inj hsame)]
    exact hrunning

/-- A stream goes on draining. -/
theorem draining_step {steps : ℕ} (hstep : collector.step action = some after)
    (hdraining : (collector.streams id).Draining collector.subscriberBuffer collector.events steps)
    (hemit : action.isEmit = false) (huntil : ∀ done, action = .check id done → done = true)
    (hclose : action ≠ .close id) :
    (after.streams id).Draining after.subscriberBuffer after.events
      (steps + if action.isOwn id then 1 else 0) := by
  obtain ⟨hevents, hbuffer⟩ := events_step_of_not_emit hstep hemit
  rw [hevents, hbuffer]
  -- only the own actions of a stream take one of its steps
  by_cases hother : action.id? = some id
  · cases action with
    | emit => cases hother
    | subscribe own =>
      obtain rfl := Option.some.inj hother
      have hstep : collector.onStream own (·.subscribe collector.events.length) = some after :=
        hstep
      obtain ⟨stream, hstream, rfl⟩ := onStream_eq_some.mp hstep
      rw [streams_withStream_self]
      exact hdraining.subscribe hstream
    | check own done =>
      obtain rfl := Option.some.inj hother
      obtain rfl := huntil done rfl
      have hstep : collector.onStream own (·.check true) = some after := hstep
      obtain ⟨stream, hstream, rfl⟩ := onStream_eq_some.mp hstep
      rw [streams_withStream_self, StreamAction.isOwn, if_pos (decide_eq_true rfl)]
      exact hdraining.check hstream
    | wake own =>
      obtain rfl := Option.some.inj hother
      obtain ⟨stream, hstream, rfl⟩ := onStream_eq_some.mp hstep
      rw [streams_withStream_self, StreamAction.isOwn, if_pos (decide_eq_true rfl)]
      exact hdraining.wake hstream
    | expire own =>
      obtain rfl := Option.some.inj hother
      obtain ⟨stream, hstream, rfl⟩ := onStream_eq_some.mp hstep
      rw [streams_withStream_self, StreamAction.isOwn, if_pos (decide_eq_true rfl)]
      exact hdraining.expire hstream
    | close own => exact (hclose (by rw [Option.some.inj hother])).elim
  · have hown : ¬ action.isOwn id = true := by
      intro hown
      cases action with
      | check own done => exact hother (congrArg some (of_decide_eq_true hown))
      | wake own => exact hother (congrArg some (of_decide_eq_true hown))
      | expire own => exact hother (congrArg some (of_decide_eq_true hown))
      | _ => cases hown
    rw [streams_step_of_ne hstep hemit hother, if_neg hown]
    exact hdraining

/-- A new collector has no events, and no stream has started. -/
theorem new_sound {buffer : ℤ} (hnew : SimulationEventCollector.new buffer = .ok start) :
    start.Sound ∧ start.events = [] ∧ ∀ id, (start.streams id).phase = .idle := by
  unfold SimulationEventCollector.new at hnew
  split at hnew
  · cases hnew
  · rw [← Except.ok.inj hnew]
    exact ⟨⟨fun _ h => absurd h List.not_mem_nil, .nil, fun _ => .new ..⟩, rfl, fun _ => rfl⟩

/-- **A stream has not ended before `until` is true**, if its consumer goes on. -/
theorem running_run (hstart : (start.streams id).Running)
    (hrun : start.run actions = some collector) (huntil : UntilIs id false actions)
    (hclose : .close id ∉ actions) : (collector.streams id).Running := by
  refine run_invariant (fun _ collector => (collector.streams id).Running) hstart ?_ hrun
  intro before action collector after hprefix hrunning hstep
  have hmem : action ∈ actions :=
    hprefix.subset (List.mem_append_right _ (List.mem_singleton_self _))
  refine running_step hstep hrunning (fun done hcheck => huntil done (hcheck ▸ hmem)) ?_
  exact fun hsame => hclose (hsame ▸ hmem)

/-- **A stream drains** after the last emission, once `until` is true. -/
theorem draining_run
    (hstart : (collector.streams id).Draining collector.subscriberBuffer collector.events 0)
    (hrun : collector.run ending = some last) (hemit : ∀ action ∈ ending, action.isEmit = false)
    (huntil : UntilIs id true ending) (hclose : .close id ∉ ending) :
    (last.streams id).Draining last.subscriberBuffer last.events
      (ending.countP (·.isOwn id)) := by
  refine run_invariant (fun before collector => (collector.streams id).Draining
    collector.subscriberBuffer collector.events (before.countP (·.isOwn id))) hstart ?_ hrun
  intro before action collector after hprefix hdraining hstep
  have hmem : action ∈ ending :=
    hprefix.subset (List.mem_append_right _ (List.mem_singleton_self _))
  rw [List.countP_append, List.countP_singleton]
  exact draining_step hstep hdraining (hemit action hmem)
    (fun done hcheck => huntil done (hcheck ▸ hmem)) fun hsame => hclose (hsame ▸ hmem)

/-- A stream that drains ends. -/
theorem ends_of_draining
    (hdraining : (last.streams id).Draining last.subscriberBuffer last.events
      (ending.countP (·.isOwn id)))
    (hstarted : (last.streams id).phase ≠ .idle) : Ends id ending last where
  bounded := (Nat.le_add_right ..).trans hdraining.bounded
  continues hrunning := by
    cases hphase : (last.streams id).phase with
    | idle => exact absurd hphase hstarted
    | ready =>
      refine ⟨.check id true, List.mem_cons_self, ?_⟩
      rw [step, onStream, Option.isSome_map, EventStream.check, if_pos hphase]
      split <;> rfl
    | waiting =>
      refine ⟨.expire id, List.mem_cons_of_mem _ List.mem_cons_self, ?_⟩
      rw [step, onStream, Option.isSome_map, EventStream.expire, if_pos hphase]
      rfl
    | returned => exact absurd hphase hrunning
    | closed => exact absurd hphase hdraining.notClosed
  latest hreturned := (hdraining.returned hreturned).latest_of_nil

/-- **A stream ends** after the last emission, with the last events. -/
theorem ends_run (hsound : start.Sound) (hidle : ∀ id, (start.streams id).phase = .idle)
    (hrun : start.run actions = some collector) (hlast : collector.run ending = some last)
    (hemit : ∀ action ∈ ending, action.isEmit = false) (hfalse : UntilIs id false actions)
    (htrue : UntilIs id true ending) (hclose : .close id ∉ actions ++ ending)
    (hstarted : (last.streams id).phase ≠ .idle) : Ends id ending last := by
  have hclosed (h : StreamAction.close id ∈ actions ∨ .close id ∈ ending) : False :=
    hclose (List.mem_append.mpr h)
  have hfirst : (start.streams id).Running := by
    rw [EventStream.Running, hidle id]
    decide
  have hrunning := running_run hfirst hrun hfalse fun h => hclosed (Or.inl h)
  have hdraining := EventStream.Draining.start ((delivers_run hsound hrun).streams id) hrunning
  have hend := draining_run hdraining hlast hemit htrue fun h => hclosed (Or.inr h)
  exact ends_of_draining hend hstarted

end SimulationEventCollector

open SimulationEventCollector

/-- **Live delivery**: for every size of the queues and every interleaving of emissions with the
iterations of the subscribers, the transcript is complete, a subscriber receives an increasing
subsequence of it and loses only the oldest events of a full queue, and its stream ends with the
last events. -/
theorem liveDelivery_run {buffer : ℤ} {start collector : SimulationEventCollector}
    {actions : List StreamAction} (hnew : SimulationEventCollector.new buffer = .ok start)
    (hrun : start.run actions = some collector) : LiveDelivery start actions collector := by
  obtain ⟨hstart, hempty, hidle⟩ := new_sound hnew
  have hsound := delivers_run hstart hrun
  refine ⟨events_run hempty hrun, fun id => ?_, ?_, ?_⟩
  · have hordered : (collector.streams id).received.Sublist collector.events :=
      (List.sublist_append_left ..).trans (hsound.streams id).ordered
    exact ⟨hordered, hsound.increasing.sublist hordered⟩
  · intro action after id hstep hsubscribed
    exact accounts_step hsound hstep hsubscribed
  · intro ending last id hlast hemit hfalse htrue hclose hstarted
    exact ends_run hstart hidle hrun hlast hemit hfalse htrue hclose hstarted

section Example

/-- A collector with queues of two events. -/
def smallCollector : SimulationEventCollector where
  subscriberBuffer := 2
  bufferPositive := Nat.le_succ 1

/-- One stream reads every event, and the other one reads too late. -/
def lateReader : List StreamAction :=
  [.subscribe 0, .check 0 false, .subscribe 1, .emit .environmentCreated 0 [], .wake 0,
    .emit .environmentSeeded 0 [], .check 0 false, .emit .runCompleted 0 [], .check 0 false,
    .check 0 true, .check 1 true, .check 1 true, .check 1 true]

theorem liveDelivery_run_lateReader :
    ∃ collector, smallCollector.run lateReader = some collector ∧
      LiveDelivery smallCollector lateReader collector ∧
      (collector.streams 0).received.map (·.sequence) = [1, 2, 3] ∧
      (collector.streams 1).received.map (·.sequence) = [2, 3] ∧
      (collector.streams 1).phase = .returned := by
  have hreads : ∃ collector ∈ smallCollector.run lateReader,
      (collector.streams 0).received.map (·.sequence) = [1, 2, 3] ∧
      (collector.streams 1).received.map (·.sequence) = [2, 3] ∧
      (collector.streams 1).phase = .returned := by decide +kernel
  obtain ⟨collector, hrun, hreads⟩ := hreads
  have hnew : SimulationEventCollector.new 2 = .ok smallCollector := rfl
  exact ⟨collector, hrun, liveDelivery_run hnew hrun, hreads⟩

end Example

end ObservabilityLab
