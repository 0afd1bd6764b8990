import ObservabilityLab.Execution.Handles

/-!
# The event streams of executions

A client that asks for the events of an execution is refused where there is no run, gets the whole
transcript of a run that is done, or streams the events of a run that goes on. The steps of the
service, seen from one execution, are steps of its collector; so the stream delivers what the
collector delivers, and it ends when the task of the run is done.

## Main definitions

* `ExecutionAction.isOwn`: a step of one client in its stream
* `StreamEnded`: how a stream ends after the task
* `EventsServed`: what a client that asked for events comes to

## Main results

* `projects_collector`: a step of the service is a step of the collector of one execution, or leaves
  the collector as it is
* `sound_run`: the collector of every execution is sound
* `ended_run`: a stream ends after the task, with the last events
* `eventsServed_run`: what a client comes to, in every interleaving
-/

namespace ObservabilityLab

open Python GuardedRuns

/-- A step of one client in its stream. -/
def ExecutionAction.isOwn {Run Comparison : Type} (client : ℕ) :
    ExecutionAction Run Comparison → Bool
  | .check other => other = client
  | .wake other => other = client
  | .expire other => other = client
  | _ => false

/-! ## What a collector keeps -/

/-- A stream receives only events that were emitted after it subscribed. -/
def SimulationEventCollector.SinceSubscribed (collector : SimulationEventCollector) : Prop :=
  ∀ client, ((collector.streams client).received ++ (collector.streams client).queue).Sublist
    (collector.events.drop (collector.streams client).since)

namespace SimulationEventCollector

variable {collector after : SimulationEventCollector} {action : StreamAction} {client : ℕ}

theorem subscriberBuffer_step (hstep : collector.step action = some after) :
    after.subscriberBuffer = collector.subscriberBuffer := by
  rcases step_cases hstep with ⟨kind, elapsedMs, attributes, -, rfl⟩ | ⟨id, stream, -, -, rfl⟩
  · rcases emit_cases collector kind elapsedMs attributes with ⟨e, hemit⟩ | ⟨event, -, hemit⟩
    · rw [hemit]
    · rw [hemit]
  · rfl

theorem SinceSubscribed.step (h : collector.SinceSubscribed) (hsound : collector.Sound)
    (hstep : collector.step action = some after) : after.SinceSubscribed := by
  intro client
  rcases step_cases hstep with ⟨kind, elapsedMs, attributes, -, rfl⟩ | ⟨id, stream, -, hown, rfl⟩
  · rcases emit_cases collector kind elapsedMs attributes with ⟨e, hemit⟩ | ⟨event, -, hemit⟩
    · rw [hemit]
      exact h client
    · rw [hemit]
      have hsince := (hsound.streams client).since
      dsimp only
      unfold EventStream.offer
      split
      · dsimp only
        rw [List.drop_append_of_le_length hsince]
        refine (DropOldest.push_sublist.append_left _).trans ?_
        rw [← List.append_assoc]
        exact (h client).append_right [event]
      · rw [List.drop_append_of_le_length hsince]
        exact (h client).trans (List.sublist_append_left ..)
  · by_cases hclient : client = id
    · subst hclient
      rw [streams_withStream_self]
      cases hown with
      | subscribes hidle =>
        obtain ⟨hreceived, hqueue⟩ := (hsound.streams client).fresh hidle
        dsimp only
        rw [hreceived, hqueue]
        exact List.nil_sublist _
      | turns => exact h client
      | takes event rest _ hqueue =>
        have htaken := h client
        rw [hqueue] at htaken
        rw [EventStream.deliver, List.append_assoc]
        exact htaken
    · rw [streams_withStream_of_ne hclient]
      exact h client

/-- A stream keeps the time of its subscription. -/
theorem since_step (hstep : collector.step action = some after)
    (hstarted : (collector.streams client).phase ≠ .idle) :
    (after.streams client).phase ≠ .idle ∧
      (after.streams client).since = (collector.streams client).since := by
  rcases step_cases hstep with ⟨kind, elapsedMs, attributes, -, rfl⟩ | ⟨id, stream, -, hown, rfl⟩
  · rcases emit_cases collector kind elapsedMs attributes with ⟨e, hemit⟩ | ⟨event, -, hemit⟩
    · rw [hemit]
      exact ⟨hstarted, rfl⟩
    · rw [hemit]
      dsimp only
      unfold EventStream.offer
      split
      · exact ⟨hstarted, rfl⟩
      · exact ⟨hstarted, rfl⟩
  · by_cases hclient : client = id
    · subst hclient
      rw [streams_withStream_self]
      cases hown with
      | subscribes hidle => exact absurd hidle hstarted
      | turns phase _ hphase => exact ⟨hphase, rfl⟩
      | takes event rest => exact ⟨fun hidle => (by cases hidle), rfl⟩
    · rw [streams_withStream_of_ne hclient]
      exact ⟨hstarted, rfl⟩

end SimulationEventCollector

/-! ## The collector of one execution -/

namespace ExecutionService

variable {Run Comparison : Type} {service after last : ExecutionService Run Comparison} {id : Uuid}
  {action : ExecutionAction Run Comparison} {actions : List (ExecutionAction Run Comparison)}
  {client : ℕ} {act : StreamAction}

theorem streamAction_of_settles {outcome : TaskOutcome Run Comparison} {other : Uuid}
    (h : action.settles? other = some outcome) : service.streamAction id action = none := by
  cases action with
  | settle => rfl
  | _ => cases h

/-- `until` is `task.done`. -/
theorem until_of_streamAction {done : Bool}
    (h : service.streamAction id action = some (.check client done)) :
    done = service.taskDone id := by
  cases action with
  | check => exact (StreamAction.check.inj (stepIf_eq_some.mp h).2).2.symm
  | startRun => cases h
  | startComparison => cases h
  | settle => cases h
  | _ => cases (stepIf_eq_some.mp h).2

/-- Only a client closes its stream. -/
theorem close_of_streamAction (h : service.streamAction id action = some (.close client)) :
    action = .close client := by
  cases action with
  | close => rw [StreamAction.close.inj (stepIf_eq_some.mp h).2]
  | startRun => cases h
  | startComparison => cases h
  | settle => cases h
  | _ => cases (stepIf_eq_some.mp h).2

/-- The steps of a client in a stream are steps of the stream. -/
theorem own_streamAction (hclient : service.clients client = .streaming id)
    (hown : action.isOwn client = true) :
    ∃ act, service.streamAction id action = some act ∧ act.isOwn client = true := by
  have hstreamed : service.Streams client id := by
    rw [Streams, hclient]
    rfl
  cases action with
  | check own =>
    obtain rfl : own = client := of_decide_eq_true hown
    exact ⟨_, if_pos hstreamed, hown⟩
  | wake own =>
    obtain rfl : own = client := of_decide_eq_true hown
    exact ⟨_, if_pos hstreamed, hown⟩
  | expire own =>
    obtain rfl : own = client := of_decide_eq_true hown
    exact ⟨_, if_pos hstreamed, hown⟩
  | _ => cases hown

section Runs

variable [ValidationTexts]

/-- **A step of the service is a step of the collector of one execution**, or leaves the collector
as it is. -/
theorem projects_collector (id : Uuid) :
    Projects (fun action : ExecutionAction Run Comparison =>
        ∀ kind, action.starts? ≠ some (id, kind)) step SimulationEventCollector.step
      (fun service => service.collector? id) fun service => service.streamAction id := by
  intro service action after collector hstarts hstep hcollector
  have hmove := handleStep_of_step hstep id
  have hcollector : (service.handles id).bind (·.collector) = some collector := hcollector
  show service.streamAction id action = none ∧
      (after.handles id).bind (·.collector) = some collector ∨
    ∃ act next, service.streamAction id action = some act ∧ collector.step act = some next ∧
      (after.handles id).bind (·.collector) = some next
  generalize service.handles id = before at hmove hcollector
  generalize after.handles id = next at hmove ⊢
  cases hmove with
  | starts kind _ hstarted => exact absurd hstarted (hstarts kind)
  | settles outcome handle hsettles =>
    have hcollector : handle.collector = some collector := hcollector
    refine Or.inl ⟨streamAction_of_settles hsettles, ?_⟩
    exact (ExecutionHandle.collector_settled handle outcome).trans hcollector
  | streams act handle own next hstream hown hmade =>
    obtain rfl : own = collector := Option.some.inj (hown.symm.trans hcollector)
    exact Or.inr ⟨act, next, hstream, hmade, rfl⟩
  | stays _ _ _ hstream => exact Or.inl ⟨hstream, hcollector⟩

/-- The steps of the collector of one execution in a run. -/
def streamActions (id : Uuid) (service : ExecutionService Run Comparison)
    (actions : List (ExecutionAction Run Comparison)) : List StreamAction :=
  projection step (fun service => service.streamAction id) service actions

theorem collector_run {collector : SimulationEventCollector}
    (hstarts : ∀ action ∈ actions, ∀ kind, action.starts? ≠ some (id, kind))
    (hrun : service.run actions = some last) (hcollector : service.collector? id = some collector) :
    ∃ current, last.collector? id = some current ∧
      collector.run (service.streamActions id actions) = some current :=
  (projects_collector id).run hstarts hrun hcollector

/-- **Every collector is sound**, in every interleaving. -/
theorem sound_run (hrun : ExecutionService.run {} actions = some service) (id : Uuid)
    (collector : SimulationEventCollector) (hcollector : service.collector? id = some collector) :
    collector.Sound ∧ collector.subscriberBuffer = 256 ∧ collector.SinceSubscribed := by
  refine invariant_run (fun s => ∀ collector, s.collector? id = some collector →
    collector.Sound ∧ collector.subscriberBuffer = 256 ∧ collector.SinceSubscribed) ?_ ?_ hrun
    collector hcollector
  · intro s action s' _ hstep hsound collector hcollector
    have hmove := handleStep_of_step hstep id
    unfold collector? at hsound hcollector
    generalize s.handles id = before at hmove hsound
    generalize s'.handles id = next at hmove hcollector
    cases hmove with
    | starts kind =>
      cases kind with
      | run =>
        obtain rfl := Option.some.inj hcollector
        have hnew : SimulationEventCollector.new 256 = .ok defaultCollector := rfl
        exact ⟨(SimulationEventCollector.new_sound hnew).1, rfl, fun client => List.nil_sublist _⟩
      | comparison => cases hcollector
    | settles outcome handle =>
      refine hsound collector ?_
      exact (ExecutionHandle.collector_settled handle outcome).symm.trans hcollector
    | streams act handle own next _ hown hmade =>
      obtain rfl := Option.some.inj hcollector
      obtain ⟨hbefore, hbuffer, hsince⟩ := hsound own hown
      exact ⟨hbefore.step hmade,
        (SimulationEventCollector.subscriberBuffer_step hmade).trans hbuffer,
        hsince.step hbefore hmade⟩
    | stays => exact hsound collector hcollector
  · intro collector hnone
    cases hnone

/-- Only a task that goes on emits. -/
theorem pending_of_emit (hstep : service.step action = some after)
    (hact : service.streamAction id action = some act) (hemit : act.isEmit = true) :
    service.taskDone id = false := by
  cases action with
  | emit other kind elapsedMs attributes =>
    obtain ⟨rfl, -⟩ := stepIf_eq_some.mp hact
    have h : service.emit other kind elapsedMs attributes = some after := hstep
    unfold emit at h
    split at h
    · cases h
    · rename_i handle hhandle
      split at h
      · cases h
      · rename_i hpending
        rw [taskDone_eq hhandle]
        exact Bool.eq_false_of_not_eq_true hpending
  | startRun => cases hact
  | startComparison => cases hact
  | settle => cases hact
  | _ =>
    obtain ⟨-, rfl⟩ := stepIf_eq_some.mp hact
    cases hemit

/-- A task that is done stays done. -/
theorem taskDone_run (hstarts : ∀ action ∈ actions, ∀ kind, action.starts? ≠ some (id, kind))
    (hrun : service.run actions = some last) (hdone : service.taskDone id = true) :
    last.taskDone id = true := by
  obtain ⟨handle, hhandle, htask⟩ := (Option.any_eq_true _ _).mp hdone
  obtain ⟨collector, hlast, -⟩ := settled_run hstarts htask hhandle hrun
  rw [taskDone_eq hlast]
  exact htask

/-! ## The clients -/

omit [ValidationTexts] in
theorem clients_onCollector (h : service.onCollector id act = some after) :
    after.clients = service.clients := by
  obtain ⟨handle, collector, collector', -, -, -, rfl⟩ := onCollector_eq_some.mp h
  rfl

omit [ValidationTexts] in
theorem clients_onStream {own : ℕ} {step : Bool → StreamAction}
    (h : service.onStream own step = some after) : after.clients = service.clients := by
  obtain ⟨other, handle, -, -, honCollector⟩ := onStream_eq_some.mp h
  exact clients_onCollector honCollector

/-- **A step leaves a client where it is**, or answers it. -/
theorem clients_step (h : service.step action = some after) (client : ℕ) :
    after.clients client = service.clients client ∨
      ∃ id, action = .openEvents client id ∧ after.clients client = service.answer id := by
  -- what a client was answered changes only when it asks again
  cases action with
  | startRun =>
    rw [← Option.some.inj h]
    exact Or.inl rfl
  | startComparison =>
    rw [← Option.some.inj h]
    exact Or.inl rfl
  | emit other kind elapsedMs attributes =>
    have h : service.emit other kind elapsedMs attributes = some after := h
    unfold emit at h
    split at h
    · cases h
    · split at h
      · cases h
      · exact Or.inl (congrFun (clients_onCollector h) client)
  | settle other outcome =>
    obtain ⟨handle, -, -, rfl⟩ := settle_eq_some h
    exact Or.inl rfl
  | openEvents own other =>
    have h : service.openEvents own other = some after := h
    have hclients : after.clients = (service.withClient own (service.answer other)).clients := by
      unfold openEvents at h
      split at h
      · rcases events_cases h with ⟨-, rfl⟩ | ⟨-, honCollector⟩
        · rfl
        · exact clients_onCollector honCollector
      · cases h
    rw [hclients, withClient]
    by_cases hown : client = own
    · subst hown
      exact Or.inr ⟨other, rfl, Function.update_self ..⟩
    · exact Or.inl (Function.update_of_ne hown ..)
  | check own => exact Or.inl (congrFun (clients_onStream h) client)
  | wake own =>
    have h : service.onStream own (fun _ => .wake own) = some after := h
    exact Or.inl (congrFun (clients_onStream h) client)
  | expire own =>
    have h : service.onStream own (fun _ => .expire own) = some after := h
    exact Or.inl (congrFun (clients_onStream h) client)
  | close own =>
    have h : service.onStream own (fun _ => .close own) = some after := h
    exact Or.inl (congrFun (clients_onStream h) client)

omit [ValidationTexts] in
theorem answer_ne_idle (id : Uuid) : service.answer id ≠ .idle := by
  unfold answer
  split
  · exact fun h => (by cases h)
  · split
    · exact fun h => (by cases h)
    · exact fun h => (by cases h)

/-- Only a client that has not started is answered. -/
theorem openEvents_eq_some (h : service.step (.openEvents client id) = some after) :
    service.clients client = .idle ∧ after.clients client = service.answer id := by
  have hopen : service.openEvents client id = some after := h
  unfold openEvents at hopen
  split at hopen
  · rename_i hidle
    refine ⟨hidle, ?_⟩
    rcases clients_step h client with hsame | ⟨other, hother, hanswer⟩
    · rcases events_cases hopen with ⟨-, rfl⟩ | ⟨-, honCollector⟩
      · exact Function.update_self ..
      · rw [clients_onCollector honCollector]
        exact Function.update_self ..
    · rw [(ExecutionAction.openEvents.inj hother).2]
      exact hanswer
  · cases hopen

/-- A client that was answered stays answered. -/
theorem clients_run (hrun : service.run actions = some last)
    (hstarted : service.clients client ≠ .idle) :
    last.clients client = service.clients client := by
  refine invariant_run (fun s => s.clients client = service.clients client) ?_ rfl hrun
  intro s action s' _ hstep hsame
  rcases clients_step hstep client with hkept | ⟨id, rfl, hanswer⟩
  · exact hkept.trans hsame
  · rw [(openEvents_eq_some hstep).1] at hsame
    exact absurd hsame.symm hstarted

end Runs

end ExecutionService

/-! ## What a client comes to -/

/-- **How a stream ends** after the task: it takes boundedly many steps, and until it has returned
it has a next one. When it has returned, it delivered the last events, up to the size of its queue;
and all of them, if there were no more. -/
structure StreamEnded {Run Comparison : Type} [ValidationTexts]
    (service : ExecutionService Run Comparison) (client : ℕ) (sent : List SimulationEvent)
    (stream : EventStream) (ending : List (ExecutionAction Run Comparison)) : Prop where
  bounded : ending.countP (·.isOwn client) ≤ 2 * 256 + 2
  continues : stream.phase ≠ .returned →
    (service.step (.check client)).isSome = true ∨ (service.step (.expire client)).isSome = true
  latest : stream.phase = .returned → sent.drop (sent.length - 256) <:+ stream.received
  whole : stream.phase = .returned → sent.length ≤ 256 → stream.received = sent

/-- **What a client comes to** that asked for the events of an execution. -/
structure EventsServed {Run Comparison : Type} [ValidationTexts]
    (opened service : ExecutionService Run Comparison) (client : ℕ) (id : Uuid)
    (later : List (ExecutionAction Run Comparison)) : Prop where
  /-- It is refused, if there is no such run. -/
  refused : opened.collector? id = none →
    service.clients client = .failed (executionNotFoundError id)
  /-- It gets the whole transcript of a run that is done. -/
  replayed : ∀ collector, opened.collector? id = some collector → opened.taskDone id = true →
    service.clients client = .replayed collector.events ∧
      ∃ current, service.collector? id = some current ∧ current.events = collector.events
  /-- It streams a run that goes on, and receives events in the order of the transcript, from the
  time at which it asked. -/
  streamed : ∀ collector, opened.collector? id = some collector → opened.taskDone id = false →
    service.clients client = .streaming id ∧
      ∃ current, service.collector? id = some current ∧
        (current.streams client).received.Sublist (current.events.drop collector.events.length) ∧
        (current.streams client).received.Pairwise (·.sequence < ·.sequence)
  /-- The stream ends after the task of the run, unless the client closes it. -/
  ends : ∀ collector, opened.collector? id = some collector → opened.taskDone id = false →
    ∀ during outcome ending current, later = during ++ .settle id outcome :: ending →
      .close client ∉ later → service.collector? id = some current →
        StreamEnded service client (current.events.drop collector.events.length)
          (current.streams client) ending

namespace ExecutionService

variable {Run Comparison : Type} [ValidationTexts]
  {service opened subscribed settled last : ExecutionService Run Comparison} {id : Uuid}
  {before during ending later : List (ExecutionAction Run Comparison)} {client : ℕ}
  {collector joined current : SimulationEventCollector}

omit [ValidationTexts] in
/-- A subscription changes no event. -/
theorem subscribe_step (h : collector.step (.subscribe client) = some joined) :
    (joined.streams client).phase = .ready ∧
      (joined.streams client).since = collector.events.length := by
  have h : collector.onStream client (·.subscribe collector.events.length) = some joined := h
  obtain ⟨stream, hstream, rfl⟩ := SimulationEventCollector.onStream_eq_some.mp h
  rw [SimulationEventCollector.streams_withStream_self]
  unfold EventStream.subscribe at hstream
  split at hstream
  · rw [← Option.some.inj hstream]
    exact ⟨rfl, rfl⟩
  · cases hstream

/-- A client that asks for the events of a run that goes on subscribes to its collector. -/
theorem subscribed_openEvents (hstep : opened.step (.openEvents client id) = some subscribed)
    (hcollector : opened.collector? id = some collector) (hpending : opened.taskDone id = false) :
    ∃ joined, subscribed.collector? id = some joined ∧
      collector.step (.subscribe client) = some joined := by
  have hlive : opened.Live id := ⟨by rw [hcollector]; rfl, hpending⟩
  have hsome : opened.streamAction id (.openEvents client id) = some (.subscribe client) :=
    if_pos ⟨rfl, hlive⟩
  have hstarts (kind : ExecutionKind) :
      (ExecutionAction.openEvents client id : ExecutionAction Run Comparison).starts? ≠
        some (id, kind) := fun h => by cases h
  rcases projects_collector id opened _ subscribed collector hstarts hstep hcollector with
    ⟨hnone, -⟩ | ⟨act, joined, hact, hjoined, hview⟩
  · cases hsome.symm.trans hnone
  · obtain rfl := Option.some.inj (hsome.symm.trans hact)
    exact ⟨joined, hview, hjoined⟩

/-- While the task goes on, `until` is false. -/
theorem until_during (hstarts : ∀ action ∈ during, ∀ kind, action.starts? ≠ some (id, kind))
    (hrun : subscribed.run during = some service) (hpending : service.taskDone id = false) :
    UntilIs client false (subscribed.streamActions id during) := by
  intro done hmem
  obtain ⟨earlier, action, later, s, s', rfl, -, hstep, hlater, hact⟩ := mem_projection hrun hmem
  rw [until_of_streamAction hact]
  refine Bool.eq_false_of_not_eq_true fun hdone => ?_
  have hrest : s.run (action :: later) = some service := run_cons.mpr ⟨s', hstep, hlater⟩
  have hfinal := taskDone_run (fun a ha => hstarts a (List.mem_append_right _ ha)) hrest hdone
  rw [hpending] at hfinal
  cases hfinal

/-- When the task is done, `until` is true. -/
theorem until_ending (hstarts : ∀ action ∈ ending, ∀ kind, action.starts? ≠ some (id, kind))
    (hrun : settled.run ending = some service) (hdone : settled.taskDone id = true) :
    UntilIs client true (settled.streamActions id ending) := by
  intro done hmem
  obtain ⟨earlier, action, later, s, s', rfl, hearlier, -, -, hact⟩ := mem_projection hrun hmem
  rw [until_of_streamAction hact]
  exact taskDone_run (fun a ha => hstarts a (List.mem_append_left _ ha)) hearlier hdone

/-- When the task is done, nothing is emitted. -/
theorem silent_ending (hstarts : ∀ action ∈ ending, ∀ kind, action.starts? ≠ some (id, kind))
    (hrun : settled.run ending = some service) (hdone : settled.taskDone id = true) :
    ∀ act ∈ settled.streamActions id ending, act.isEmit = false := by
  intro act hmem
  obtain ⟨earlier, action, later, s, s', rfl, hearlier, hstep, -, hact⟩ := mem_projection hrun hmem
  have hcurrent := taskDone_run (fun a ha => hstarts a (List.mem_append_left _ ha)) hearlier hdone
  refine Bool.eq_false_of_not_eq_true fun hemit => ?_
  rw [pending_of_emit hstep hact hemit] at hcurrent
  cases hcurrent

theorem close_notMem (hrun : service.run later = some last) (hclose : .close client ∉ later) :
    .close client ∉ service.streamActions id later := by
  intro hmem
  obtain ⟨earlier, action, rest, s, s', rfl, -, -, -, hact⟩ := mem_projection hrun hmem
  rw [close_of_streamAction hact] at hclose
  exact hclose (List.mem_append_right _ List.mem_cons_self)

omit [ValidationTexts] in
/-- A step of the collector is a step of the client that streams it. -/
theorem isSome_onStream {act : Bool → StreamAction}
    (hclient : service.clients client = .streaming id)
    (hcurrent : service.collector? id = some current)
    (hact : (current.step (act (service.taskDone id))).isSome = true) :
    (service.onStream client act).isSome = true := by
  obtain ⟨handle, hhandle, hcollector⟩ := Option.bind_eq_some_iff.mp hcurrent
  obtain ⟨next, hnext⟩ := Option.isSome_iff_exists.mp hact
  rw [taskDone_eq hhandle] at hnext
  have honCollector :=
    onCollector_eq_some.mpr ⟨handle, current, next, hhandle, hcollector, hnext, rfl⟩
  have hstreamed : (service.clients client).streamed? = some id := by
    rw [hclient]
    rfl
  exact Option.isSome_iff_exists.mpr
    ⟨_, onStream_eq_some.mpr ⟨id, handle, hstreamed, hhandle, honCollector⟩⟩

/-- The stream of a collector drains after the task. -/
theorem draining_settled {outcome : TaskOutcome Run Comparison}
    {waiting : ExecutionService Run Comparison} {waited : SimulationEventCollector}
    (hstarts : ∀ action ∈ ending, ∀ kind, action.starts? ≠ some (id, kind))
    (hsettle : waiting.step (.settle id outcome) = some settled)
    (hwaited : waiting.collector? id = some waited) (hsound : waited.Sound)
    (hrunning : (waited.streams client).Running) (hending : settled.run ending = some service)
    (hclose : .close client ∉ ending) (hcurrent : service.collector? id = some current) :
    (current.streams client).Draining current.subscriberBuffer current.events
      ((settled.streamActions id ending).countP (·.isOwn client)) := by
  obtain ⟨handle, hhandle, -, rfl⟩ := settle_eq_some hsettle
  have hdone : (waiting.withHandle id (handle.settled outcome)).taskDone id = true := by
    rw [taskDone_eq (handles_withHandle_self waiting)]
    exact ExecutionHandle.taskDone_settled handle outcome
  have hsame : (waiting.withHandle id (handle.settled outcome)).collector? id = some waited := by
    rw [collector?_eq (handles_withHandle_self waiting), ExecutionHandle.collector_settled,
      ← collector?_eq hhandle, hwaited]
  obtain ⟨current', hlast, hruns⟩ := collector_run hstarts hending hsame
  obtain rfl : current' = current := Option.some.inj (hlast.symm.trans hcurrent)
  exact SimulationEventCollector.draining_run
    (EventStream.Draining.start (hsound.streams client) hrunning) hruns
    (silent_ending hstarts hending hdone) (until_ending hstarts hending hdone)
    (close_notMem hending hclose)

/-- **A stream ends after the task**, with the last events. -/
theorem ended_of_draining {acts : List StreamAction}
    (hbuffer : current.subscriberBuffer = 256) (hordered : current.SinceSubscribed)
    (hdraining : (current.streams client).Draining current.subscriberBuffer current.events
      (acts.countP (·.isOwn client)))
    (hcount : ending.countP (·.isOwn client) ≤ acts.countP (·.isOwn client))
    (hclient : service.clients client = .streaming id) (hdone : service.taskDone id = true)
    (hcurrent : service.collector? id = some current)
    (hstarted : (current.streams client).phase ≠ .idle)
    (hsince : (current.streams client).since = collector.events.length) :
    StreamEnded service client (current.events.drop collector.events.length)
      (current.streams client) ending := by
  have hends := SimulationEventCollector.ends_of_draining hdraining hstarted
  have hreceived := (List.sublist_append_left ..).trans (hordered client)
  rw [← hsince]
  have hlatest (hreturned : (current.streams client).phase = .returned) := hends.latest hreturned
  rw [hbuffer] at hlatest
  refine ⟨?_, fun hrunning => ?_, hlatest, fun hreturned hshort => ?_⟩
  · rw [← hbuffer]
    exact hcount.trans hends.bounded
  · obtain ⟨act, hmem, hact⟩ := hends.continues hrunning
    rw [List.mem_cons, List.mem_singleton] at hmem
    rcases hmem with rfl | rfl
    · refine Or.inl (isSome_onStream hclient hcurrent ?_)
      rw [hdone]
      exact hact
    · have hexpires : (service.onStream client fun _ => .expire client).isSome = true :=
        isSome_onStream hclient hcurrent hact
      exact Or.inr hexpires
  · have hall := hlatest hreturned
    rw [Nat.sub_eq_zero_of_le hshort, List.drop_zero] at hall
    exact hreceived.eq_of_length_le hall.length_le

/-- The number of steps of a client in its stream. -/
theorem countP_streamActions (hrun : settled.run ending = some service)
    (hclient : settled.clients client = .streaming id) :
    ending.countP (·.isOwn client) ≤
      (settled.streamActions id ending).countP (·.isOwn client) := by
  refine countP_le_projection (fun s => s.clients client = .streaming id) ?_ ?_ hclient hrun
  · intro s action s' hstep hstreaming
    rcases clients_step hstep client with hsame | ⟨other, rfl, -⟩
    · exact hsame.trans hstreaming
    · rw [(openEvents_eq_some hstep).1] at hstreaming
      cases hstreaming
  · intro s action s' _ hstreaming hown
    exact own_streamAction hstreaming hown

/-- A stream keeps the time of its subscription. -/
theorem joined_run (hstarts : ∀ action ∈ later, ∀ kind, action.starts? ≠ some (id, kind))
    (hlater : subscribed.run later = some service)
    (hjoined : subscribed.collector? id = some joined)
    (hready : (joined.streams client).phase = .ready) :
    ∃ current, service.collector? id = some current ∧ (current.streams client).phase ≠ .idle ∧
      (current.streams client).since = (joined.streams client).since := by
  obtain ⟨current, hcurrent, hruns⟩ := collector_run hstarts hlater hjoined
  refine ⟨current, hcurrent, ?_⟩
  refine SimulationEventCollector.run_invariant (fun _ c => (c.streams client).phase ≠ .idle ∧
    (c.streams client).since = (joined.streams client).since) ⟨?_, rfl⟩ ?_ hruns
  · rw [hready]
    decide
  · intro _ act c after _ hkept hstep
    obtain ⟨hphase, hsince⟩ := SimulationEventCollector.since_step hstep hkept.1
    exact ⟨hphase, hsince.trans hkept.2⟩

/-- **A stream ends after the task of the run**, unless the client closes it. -/
theorem ended_run {outcome : TaskOutcome Run Comparison}
    (hearlier : ExecutionService.run {} before = some subscribed)
    (hstarts : ∀ action ∈ during ++ .settle id outcome :: ending,
      ∀ kind, action.starts? ≠ some (id, kind))
    (hjoined : subscribed.collector? id = some joined)
    (hready : (joined.streams client).phase = .ready)
    (hsince : (joined.streams client).since = collector.events.length)
    (hstreaming : subscribed.clients client = .streaming id)
    (hlater : subscribed.run (during ++ .settle id outcome :: ending) = some service)
    (hclose : .close client ∉ during ++ .settle id outcome :: ending)
    (hcurrent : service.collector? id = some current) :
    StreamEnded service client (current.events.drop collector.events.length)
      (current.streams client) ending := by
  have hduring (a) (ha : a ∈ during) := hstarts a (List.mem_append_left _ ha)
  have hending (a) (ha : a ∈ ending) :=
    hstarts a (List.mem_append_right _ (List.mem_cons_of_mem _ ha))
  have hstarted : subscribed.clients client ≠ .idle := by
    rw [hstreaming]
    exact fun h => by cases h
  obtain ⟨waiting, hwaiting, hafter⟩ := run_append.mp hlater
  obtain ⟨settled, hsettle, hended⟩ := run_cons.mp hafter
  obtain ⟨handle, hhandle, hpending, hsettled⟩ := settle_eq_some hsettle
  have hdone : settled.taskDone id = true := by
    rw [hsettled, taskDone_eq (handles_withHandle_self waiting)]
    exact ExecutionHandle.taskDone_settled handle outcome
  -- until the task ends, the stream goes on
  obtain ⟨waited, hwaited, hruns⟩ := collector_run hduring hwaiting hjoined
  have hsound := (sound_run (run_append.mpr ⟨subscribed, hearlier, hwaiting⟩) id waited hwaited).1
  have huntil : UntilIs client false (subscribed.streamActions id during) :=
    until_during hduring hwaiting ((taskDone_eq hhandle).trans hpending)
  have hrunning := SimulationEventCollector.running_run (EventStream.running_of_ready hready) hruns
    huntil (close_notMem hwaiting fun h => hclose (List.mem_append_left _ h))
  -- and then it drains
  have hdraining := draining_settled hending hsettle hwaited hsound hrunning hended
    (fun h => hclose (List.mem_append_right _ (List.mem_cons_of_mem _ h))) hcurrent
  obtain ⟨-, hbuffer, hordered⟩ :=
    sound_run (run_append.mpr ⟨subscribed, hearlier, hlater⟩) id current hcurrent
  obtain ⟨current', hcurrent', hphase, hkept⟩ := joined_run hstarts hlater hjoined hready
  obtain rfl : current' = current := Option.some.inj (hcurrent'.symm.trans hcurrent)
  have hsettling : settled.clients client = .streaming id :=
    (clients_run (run_concat.mpr ⟨waiting, hwaiting, hsettle⟩) hstarted).trans hstreaming
  exact ended_of_draining hbuffer hordered hdraining (countP_streamActions hended hsettling)
    ((clients_run hlater hstarted).trans hstreaming) (taskDone_run hending hended hdone) hcurrent
    hphase (hkept.trans hsince)

/-- An execution with a collector is not started again. -/
theorem not_restarted {actions : List (ExecutionAction Run Comparison)}
    (hfresh : Fresh (before ++ actions)) (hopened : ExecutionService.run {} before = some opened)
    (hcollector : opened.collector? id = some collector) :
    ∀ action ∈ actions, ∀ kind, action.starts? ≠ some (id, kind) := by
  obtain ⟨handle, hhandle, -⟩ := Option.bind_eq_some_iff.mp hcollector
  have htracked := tracked_run id hfresh.of_append hopened
  rw [hhandle] at htracked
  cases htracked with
  | known kind _ _ hstarts => exact hfresh.not_starts hstarts

end ExecutionService

open ExecutionService

/-- **What a client comes to that asks for the events of an execution**, in every interleaving of
tasks and clients: it is refused, gets the whole transcript, or streams the events in order; and
after the task its stream ends, with the last events. -/
theorem eventsServed_run {Run Comparison : Type} [ValidationTexts]
    {before later : List (ExecutionAction Run Comparison)} {client : ℕ} {id : Uuid}
    {opened service : ExecutionService Run Comparison}
    (hfresh : Fresh (before ++ .openEvents client id :: later))
    (hopened : ExecutionService.run {} before = some opened)
    (hrun : ExecutionService.run {} (before ++ .openEvents client id :: later) = some service) :
    EventsServed opened service client id later := by
  obtain ⟨opened', hopened', hrest⟩ := run_append.mp hrun
  obtain rfl : opened' = opened := Option.some.inj (hopened'.symm.trans hopened)
  obtain ⟨subscribed, hstep, hlater⟩ := run_cons.mp hrest
  have hanswer := (openEvents_eq_some hstep).2
  have hclient : service.clients client = opened'.answer id := by
    rw [clients_run hlater (by rw [hanswer]; exact answer_ne_idle id), hanswer]
  -- the answers of the route: unknown, already finished, streaming, and the end of a stream
  refine ⟨fun hnone => ?_, fun collector hcollector hdone => ?_,
    fun collector hcollector hpending => ?_, fun collector hcollector hpending => ?_⟩
  · rw [hclient, answer, hnone]
  · have hstarts := not_restarted hfresh hopened hcollector
    obtain ⟨handle, hhandle, hown⟩ := Option.bind_eq_some_iff.mp hcollector
    rw [taskDone_eq hhandle] at hdone
    obtain ⟨current, hlast, htranscript⟩ := settled_run hstarts hdone hhandle hrest
    refine ⟨?_, ?_⟩
    · rw [hclient, answer, hcollector, taskDone_eq hhandle]
      exact if_pos hdone
    · obtain ⟨after, hafter, -⟩ := collector_run hstarts hrest hcollector
      refine ⟨after, hafter, ?_⟩
      rw [collector?_eq hlast] at hafter
      have hafter : current = some after := hafter
      rw [hafter, hown] at htranscript
      exact htranscript
  · have hstarts := not_restarted hfresh hopened hcollector
    obtain ⟨joined, hjoined, hsubscribe⟩ := subscribed_openEvents hstep hcollector hpending
    obtain ⟨hready, hsince⟩ := subscribe_step hsubscribe
    obtain ⟨current, hcurrent, -, hkept⟩ :=
      joined_run (fun a ha => hstarts a (List.mem_cons_of_mem _ ha)) hlater hjoined hready
    obtain ⟨hsound, -, hordered⟩ := sound_run hrun id current hcurrent
    have hreceived := (List.sublist_append_left ..).trans (hordered client)
    rw [hkept, hsince] at hreceived
    refine ⟨?_, current, hcurrent, hreceived, ?_⟩
    · rw [hclient, answer, hcollector, hpending]
      rfl
    · exact hsound.increasing.sublist (hreceived.trans (List.drop_sublist ..))
  · rintro during outcome ending current rfl hclose hcurrent
    have hstarts := not_restarted hfresh hopened hcollector
    obtain ⟨joined, hjoined, hsubscribe⟩ := subscribed_openEvents hstep hcollector hpending
    obtain ⟨hready, hsince⟩ := subscribe_step hsubscribe
    have hstreaming : subscribed.clients client = .streaming id := by
      rw [hanswer, answer, hcollector, hpending]
      rfl
    have hearlier : ExecutionService.run {} (before ++ [.openEvents client id]) = some subscribed :=
      run_concat.mpr ⟨opened', hopened, hstep⟩
    exact ended_run hearlier (fun a ha => hstarts a (List.mem_cons_of_mem _ ha)) hjoined hready
      hsince hstreaming hlater hclose hcurrent

section Example

attribute [local instance] plainTexts

/-- A client that streams a run from its first event on. -/
def streamedRun : List (ExecutionAction String String) :=
  [.emit (.repeated 1) .environmentCreated 0 [], .check 0, .check 0,
    .emit (.repeated 1) .runCompleted 0 [], .settle (.repeated 1) (.ranCase (.ok "passed")),
    .wake 0, .openEvents 1 (.repeated 1), .check 0]

/-- A run, and its first client. -/
def startedRun : List (ExecutionAction String String) := [.startRun (.repeated 1)]

theorem eventsServed_streamedRun :
    ∃ opened service, ExecutionService.run {} startedRun = some opened ∧
      ExecutionService.run {} (startedRun ++ .openEvents 0 (.repeated 1) :: streamedRun) =
        some service ∧
      EventsServed opened service 0 (.repeated 1) streamedRun ∧
      (service.collector? (.repeated 1)).map (fun collector =>
        ((collector.streams 0).phase, (collector.streams 0).received.map (·.sequence))) =
          some (.returned, [1, 2]) := by
  have hfresh : Fresh (startedRun ++ .openEvents 0 (.repeated 1) :: streamedRun) := by
    unfold Fresh
    decide +kernel
  have hruns : ∃ service ∈ ExecutionService.run {} (startedRun ++ .openEvents 0 (.repeated 1) ::
      streamedRun), (service.collector? (.repeated 1)).map (fun collector =>
        ((collector.streams 0).phase, (collector.streams 0).received.map (·.sequence))) =
          some (.returned, [1, 2]) := by decide +kernel
  obtain ⟨service, hrun, hreceived⟩ := hruns
  obtain ⟨opened, hopened, -⟩ := run_append.mp hrun
  exact ⟨opened, service, hopened, hrun, eventsServed_run hfresh hopened hrun, hreceived⟩

end Example

end ObservabilityLab
