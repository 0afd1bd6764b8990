import ObservabilityLab.Library.GuardedRuns
import ObservabilityLab.Python.Uuid
import ObservabilityLab.Simulation.LiveStream

/-!
# The execution service

Saved cases and suite comparisons run in background tasks. A handle tracks one task: its status,
its result or its error, and for a saved case the collector of its events, which clients stream
while the task goes on. Between two awaits of one task or client, others take their steps.

## Main definitions

* `ExecutionHandle`, `EventClient`: one execution, and one iteration over its events
* `ExecutionService`: the handles and the clients
* `ExecutionService.startRun`, `startComparison`, `finish`, `fail`, `events`: the operations
* `ExecutionAction`, `ExecutionService.step`, `ExecutionService.run`: an interleaving

## Main results

* `settle_eq_some`, `events_cases`: the last step of a task, and the first one of a client
* `handleStep_of_step`: what a step does to the handle of one execution
-/

namespace ObservabilityLab

open Python

/-! ## Handles -/

inductive ExecutionKind where
  | run | comparison
deriving DecidableEq

def ExecutionKind.value : ExecutionKind → String
  | run => "run"
  | comparison => "comparison"

/-- `EXECUTION_STATUS_RUNNING`, `EXECUTION_STATUS_COMPLETED` and `EXECUTION_STATUS_FAILED` -/
inductive ExecutionStatus where
  | running | completed | failed
deriving DecidableEq

def ExecutionStatus.value : ExecutionStatus → String
  | running => "running"
  | completed => "completed"
  | failed => "failed"

/-- What a task returned: a run with the transcript of its collector, or a comparison. -/
inductive ExecutionResult (Run Comparison : Type) where
  | run (run : Run) (events : List SimulationEvent)
  | comparison (comparison : Comparison)

/-- One background execution. -/
structure ExecutionHandle (Run Comparison : Type) where
  executionId : Uuid
  kind : ExecutionKind
  taskDone : Bool := false
  collector : Option SimulationEventCollector := none
  status : ExecutionStatus := .running
  result : Option (ExecutionResult Run Comparison) := none
  errorCode : Option String := none
  errorMessage : Option String := none
  finished : Bool := false

/-- One iteration over `events`: not started, raised, over after the transcript of a done task, or
in the stream of a collector, where it is the stream of the client's number. -/
inductive EventClient where
  | idle
  | failed (e : PyError)
  | replayed (events : List SimulationEvent)
  | streaming (executionId : Uuid)

/-- The execution in whose stream a client is. -/
def EventClient.streamed? : EventClient → Option Uuid
  | streaming executionId => some executionId
  | _ => none

/-- The handles by their identifiers, and the clients. -/
structure ExecutionService (Run Comparison : Type) where
  handles : Uuid → Option (ExecutionHandle Run Comparison) := fun _ => none
  clients : ℕ → EventClient := fun _ => .idle

/-- How the awaited call of a task ends: `run_bundle` or `run_suite_comparison` returns or raises an
`Exception`, or the task is cancelled. -/
inductive TaskOutcome (Run Comparison : Type) where
  | ranCase (result : Raises Run)
  | compared (result : Raises Comparison)
  | cancelled

/-- One atomic step: a start with the identifier that `uuid4()` draws, a step of a task, or a step
of a client. -/
inductive ExecutionAction (Run Comparison : Type) where
  | startRun (id : Uuid)
  | startComparison (id : Uuid)
  | emit (id : Uuid) (kind : SimulationEventKind) (elapsedMs : PyFloat) (attributes : Record)
  | settle (id : Uuid) (outcome : TaskOutcome Run Comparison)
  | openEvents (client : ℕ) (id : Uuid)
  | check (client : ℕ)
  | wake (client : ℕ)
  | expire (client : ℕ)
  | close (client : ℕ)

/-- The code and the message that a failed task records: those of a `DomainError`, or the text of
any other exception. -/
def PyError.failure [ValidationTexts] : PyError → String × String
  | .domain code message _ => (code, message)
  | e => ("execution_failed", e.str)

/-- `ExecutionNotFoundError(execution_id=...)` -/
def executionNotFoundError (id : Uuid) : PyError :=
  .domain "execution_not_found" ("No execution " ++ id.str ++ " exists") notFound

/-- `SimulationEventCollector()` -/
def defaultCollector : SimulationEventCollector where
  subscriberBuffer := 256
  bufferPositive := Nat.le_add_left 1 255

namespace ExecutionService

variable {Run Comparison : Type} (service : ExecutionService Run Comparison)

def withHandle (id : Uuid) (handle : ExecutionHandle Run Comparison) :
    ExecutionService Run Comparison :=
  { service with handles := Function.update service.handles id (some handle) }

def withClient (client : ℕ) (state : EventClient) : ExecutionService Run Comparison :=
  { service with clients := Function.update service.clients client state }

/-! ## Starts and tasks -/

def startRun (id : Uuid) : ExecutionService Run Comparison :=
  service.withHandle id { executionId := id, kind := .run, collector := some defaultCollector }

def startComparison (id : Uuid) : ExecutionService Run Comparison :=
  service.withHandle id { executionId := id, kind := .comparison }

def require (id : Uuid) : Raises (ExecutionHandle Run Comparison) :=
  match service.handles id with
  | none => .error (executionNotFoundError id)
  | some handle => .ok handle

def finish (id : Uuid) (result : ExecutionResult Run Comparison) :
    ExecutionService Run Comparison :=
  match service.handles id with
  | none => service
  | some handle =>
    service.withHandle id
      { handle with status := .completed, result := some result, finished := true }

def fail (id : Uuid) (code message : String) : ExecutionService Run Comparison :=
  match service.handles id with
  | none => service
  | some handle =>
    service.withHandle id
      { handle with
        status := .failed
        errorCode := some code
        errorMessage := some message
        finished := true }

section Tasks

variable [ValidationTexts]

/-- The `except` clauses of both tasks. -/
def failed (id : Uuid) (e : PyError) : ExecutionService Run Comparison :=
  service.fail id e.failure.1 e.failure.2

/-- `_run_case_task`, when `run_bundle` returned with the transcript of its collector, or raised -/
def runCaseTask (id : Uuid) (collector : SimulationEventCollector) :
    Raises Run → ExecutionService Run Comparison
  | .ok run => service.finish id (.run run collector.events)
  | .error e => service.failed id e

/-- `_comparison_task`, when `run_suite_comparison` returned or raised -/
def comparisonTask (id : Uuid) : Raises Comparison → ExecutionService Run Comparison
  | .ok comparison => service.finish id (.comparison comparison)
  | .error e => service.failed id e

/-- `task.done()` is true from now on. -/
def endTask (id : Uuid) : ExecutionService Run Comparison :=
  match service.handles id with
  | none => service
  | some handle => service.withHandle id { handle with taskDone := true }

/-- The last step of a task. -/
def settle (id : Uuid) (outcome : TaskOutcome Run Comparison) :
    Option (ExecutionService Run Comparison) :=
  match service.handles id with
  | none => none
  | some handle =>
    if handle.taskDone then none
    else
      match outcome, handle.collector with
      | .ranCase result, some collector =>
        some ((service.runCaseTask id collector result).endTask id)
      | .compared result, none => some ((service.comparisonTask id result).endTask id)
      | .cancelled, _ => some (service.endTask id)
      | _, _ => none

end Tasks

/-! ## Events -/

/-- A step of the collector of an execution. -/
def onCollector (id : Uuid) (action : StreamAction) : Option (ExecutionService Run Comparison) :=
  match service.handles id with
  | none => none
  | some handle =>
    match handle.collector with
    | none => none
    | some collector =>
      (collector.step action).map fun after =>
        service.withHandle id { handle with collector := some after }

/-- The task of a run emits an event. -/
def emit (id : Uuid) (kind : SimulationEventKind) (elapsedMs : PyFloat) (attributes : Record) :
    Option (ExecutionService Run Comparison) :=
  match service.handles id with
  | none => none
  | some handle =>
    if handle.taskDone then none else service.onCollector id (.emit kind elapsedMs attributes)

/-- The first step of `events`. -/
def events (client : ℕ) (id : Uuid) : Option (ExecutionService Run Comparison) :=
  match service.require id with
  | .error e => some (service.withClient client (.failed e))
  | .ok handle =>
    match handle.collector with
    | none => some (service.withClient client (.failed (executionNotFoundError id)))
    | some collector =>
      if handle.taskDone then some (service.withClient client (.replayed collector.events))
      else (service.withClient client (.streaming id)).onCollector id (.subscribe client)

/-- A client starts an iteration over the events of an execution. -/
def openEvents (client : ℕ) (id : Uuid) : Option (ExecutionService Run Comparison) :=
  match service.clients client with
  | .idle => service.events client id
  | _ => none

/-- A further step of `events`, in the stream of a collector; `until` is `task.done`. -/
def onStream (client : ℕ) (action : Bool → StreamAction) :
    Option (ExecutionService Run Comparison) :=
  match (service.clients client).streamed? with
  | none => none
  | some id =>
    match service.handles id with
    | none => none
    | some handle => service.onCollector id (action handle.taskDone)

end ExecutionService

/-! ## Interleavings -/

namespace ExecutionService

variable {Run Comparison : Type} [ValidationTexts] (service : ExecutionService Run Comparison)

/-- One atomic step, where it is possible. -/
def step : ExecutionAction Run Comparison → Option (ExecutionService Run Comparison)
  | .startRun id => some (service.startRun id)
  | .startComparison id => some (service.startComparison id)
  | .emit id kind elapsedMs attributes => service.emit id kind elapsedMs attributes
  | .settle id outcome => service.settle id outcome
  | .openEvents client id => service.openEvents client id
  | .check client => service.onStream client (.check client)
  | .wake client => service.onStream client fun _ => .wake client
  | .expire client => service.onStream client fun _ => .expire client
  | .close client => service.onStream client fun _ => .close client

/-- The steps of an interleaving, one after the other. -/
def run (actions : List (ExecutionAction Run Comparison)) :
    Option (ExecutionService Run Comparison) :=
  GuardedRuns.run step service actions

end ExecutionService

/-! ## What a step does -/

/-- The handle of a new execution. -/
def ExecutionHandle.started {Run Comparison : Type} (id : Uuid) (kind : ExecutionKind)
    (collector : Option SimulationEventCollector) : ExecutionHandle Run Comparison where
  executionId := id
  kind := kind
  collector := collector

/-- The handle of a task that raised. -/
def ExecutionHandle.failed {Run Comparison : Type} [ValidationTexts]
    (handle : ExecutionHandle Run Comparison) (e : PyError) : ExecutionHandle Run Comparison :=
  { handle with
    taskDone := true
    status := .failed
    errorCode := some e.failure.1
    errorMessage := some e.failure.2
    finished := true }

/-- The handle of a task that returned. -/
def ExecutionHandle.completed {Run Comparison : Type} (handle : ExecutionHandle Run Comparison)
    (result : ExecutionResult Run Comparison) : ExecutionHandle Run Comparison :=
  { handle with
    taskDone := true
    status := .completed
    result := some result
    finished := true }

/-- The events of a collector, if there is one. -/
def transcriptOf : Option SimulationEventCollector → List SimulationEvent
  | none => []
  | some collector => collector.events

/-- **What a task comes to**: a cancelled one stays without a status of its own. -/
def ExecutionHandle.settled {Run Comparison : Type} [ValidationTexts]
    (handle : ExecutionHandle Run Comparison) :
    TaskOutcome Run Comparison → ExecutionHandle Run Comparison
  | .ranCase (.ok run) => handle.completed (.run run (transcriptOf handle.collector))
  | .ranCase (.error e) => handle.failed e
  | .compared (.ok comparison) => handle.completed (.comparison comparison)
  | .compared (.error e) => handle.failed e
  | .cancelled => { handle with taskDone := true }

namespace ExecutionService

variable {Run Comparison : Type} {service after : ExecutionService Run Comparison} {id other : Uuid}
  {handle : ExecutionHandle Run Comparison} {client : ℕ} {collector : SimulationEventCollector}

@[simp] theorem handles_withHandle_self (service : ExecutionService Run Comparison) :
    (service.withHandle id handle).handles id = some handle := Function.update_self ..

theorem handles_withHandle_of_ne (h : other ≠ id) :
    (service.withHandle id handle).handles other = service.handles other :=
  Function.update_of_ne h ..

@[simp] theorem withHandle_withHandle (first : ExecutionHandle Run Comparison) :
    (service.withHandle id first).withHandle id handle = service.withHandle id handle := by
  rw [withHandle, withHandle, withHandle, Function.update_idem]

theorem onCollector_eq_some {action : StreamAction} :
    service.onCollector id action = some after ↔
      ∃ handle collector collector', service.handles id = some handle ∧
        handle.collector = some collector ∧ collector.step action = some collector' ∧
        service.withHandle id { handle with collector := some collector' } = after := by
  unfold onCollector
  constructor
  · intro h
    split at h
    · cases h
    · rename_i handle hhandle
      split at h
      · cases h
      · rename_i collector hcollector
        obtain ⟨collector', hstep, hafter⟩ := Option.map_eq_some_iff.mp h
        exact ⟨handle, collector, collector', hhandle, hcollector, hstep, hafter⟩
  · rintro ⟨handle, collector, collector', hhandle, hcollector, hstep, hafter⟩
    rw [hhandle]
    dsimp only
    rw [hcollector]
    exact Option.map_eq_some_iff.mpr ⟨collector', hstep, hafter⟩

theorem onStream_eq_some {action : Bool → StreamAction} :
    service.onStream client action = some after ↔
      ∃ id handle, (service.clients client).streamed? = some id ∧
        service.handles id = some handle ∧
        service.onCollector id (action handle.taskDone) = some after := by
  unfold onStream
  constructor
  · intro h
    split at h
    · cases h
    · rename_i id hclient
      split at h
      · cases h
      · rename_i handle hhandle
        exact ⟨id, handle, hclient, hhandle, h⟩
  · rintro ⟨id, handle, hclient, hhandle, h⟩
    rw [hclient]
    dsimp only
    rw [hhandle]
    exact h

theorem finish_endTask (hhandle : service.handles id = some handle)
    (result : ExecutionResult Run Comparison) :
    (service.finish id result).endTask id = service.withHandle id (handle.completed result) := by
  rw [finish, hhandle]
  dsimp only
  rw [endTask, handles_withHandle_self]
  exact withHandle_withHandle _

section Settle

variable [ValidationTexts]

theorem failed_endTask (hhandle : service.handles id = some handle) (e : PyError) :
    (service.failed id e).endTask id = service.withHandle id (handle.failed e) := by
  rw [failed, fail, hhandle]
  dsimp only
  rw [endTask, handles_withHandle_self]
  exact withHandle_withHandle _

/-- **The last step of a task** settles its handle, and nothing else. -/
theorem settle_eq_some {outcome : TaskOutcome Run Comparison}
    (h : service.settle id outcome = some after) :
    ∃ handle, service.handles id = some handle ∧ handle.taskDone = false ∧
      after = service.withHandle id (handle.settled outcome) := by
  unfold settle at h
  split at h
  · cases h
  · rename_i handle hhandle
    split at h
    · cases h
    · rename_i hpending
      refine ⟨handle, hhandle, Bool.eq_false_of_not_eq_true hpending, ?_⟩
      split at h
      · rename_i result collector hcollector
        rw [← Option.some.inj h]
        cases result with
        | ok run =>
          rw [ExecutionHandle.settled, hcollector]
          exact finish_endTask hhandle _
        | error e => exact failed_endTask hhandle e
      · rename_i result hcollector
        rw [← Option.some.inj h]
        cases result with
        | ok comparison => exact finish_endTask hhandle _
        | error e => exact failed_endTask hhandle e
      · rw [← Option.some.inj h, endTask, hhandle]
        rfl
      · cases h

end Settle

end ExecutionService

/-- The execution that an action starts. -/
def ExecutionAction.starts? {Run Comparison : Type} :
    ExecutionAction Run Comparison → Option (Uuid × ExecutionKind)
  | .startRun id => some (id, .run)
  | .startComparison id => some (id, .comparison)
  | _ => none

/-- The outcome with which an action settles an execution. -/
def ExecutionAction.settles? {Run Comparison : Type} (id : Uuid) :
    ExecutionAction Run Comparison → Option (TaskOutcome Run Comparison)
  | .settle other outcome => if other = id then some outcome else none
  | _ => none

/-- A step of a collector, under a condition. -/
def stepIf (condition : Prop) [Decidable condition] (action : StreamAction) : Option StreamAction :=
  if condition then some action else none

theorem stepIf_eq_some {condition : Prop} [Decidable condition] {action other : StreamAction} :
    stepIf condition action = some other ↔ condition ∧ action = other := by
  unfold stepIf
  split
  · rename_i h
    exact ⟨fun hsame => ⟨h, Option.some.inj hsame⟩, fun hsame => congrArg some hsame.2⟩
  · rename_i h
    exact ⟨nofun, fun hsame => absurd hsame.1 h⟩

/-- The collector of a new execution. -/
def ExecutionKind.collector? : ExecutionKind → Option SimulationEventCollector
  | run => some defaultCollector
  | comparison => none

namespace ExecutionService

variable {Run Comparison : Type} (service : ExecutionService Run Comparison)

def taskDone (id : Uuid) : Bool := (service.handles id).any (·.taskDone)

/-- The collector of one execution. -/
def collector? (id : Uuid) : Option SimulationEventCollector :=
  (service.handles id).bind (·.collector)

/-- A run that goes on. -/
def Live (id : Uuid) : Prop := (service.collector? id).isSome ∧ service.taskDone id = false

instance (id : Uuid) : Decidable (service.Live id) := inferInstanceAs (Decidable (_ ∧ _))

/-- A client is in the stream of an execution. -/
def Streams (client : ℕ) (id : Uuid) : Prop := (service.clients client).streamed? = some id

instance (client : ℕ) (id : Uuid) : Decidable (service.Streams client id) :=
  inferInstanceAs (Decidable (_ = _))

/-- The step of the collector of an execution that an action is. -/
def streamAction (id : Uuid) : ExecutionAction Run Comparison → Option StreamAction
  | .emit other kind elapsedMs attributes => stepIf (other = id) (.emit kind elapsedMs attributes)
  | .openEvents client other => stepIf (other = id ∧ service.Live id) (.subscribe client)
  | .check client => stepIf (service.Streams client id) (.check client (service.taskDone id))
  | .wake client => stepIf (service.Streams client id) (.wake client)
  | .expire client => stepIf (service.Streams client id) (.expire client)
  | .close client => stepIf (service.Streams client id) (.close client)
  | _ => none

/-- Where the first step of `events` leads a client. -/
def answer (id : Uuid) : EventClient :=
  match service.collector? id with
  | none => .failed (executionNotFoundError id)
  | some collector =>
    if service.taskDone id then .replayed collector.events else .streaming id

variable {service} {after : ExecutionService Run Comparison} {client : ℕ} {other : Uuid}

theorem collector?_eq {handle : ExecutionHandle Run Comparison}
    (hhandle : service.handles other = some handle) :
    service.collector? other = handle.collector := by
  rw [collector?, hhandle]
  rfl

theorem taskDone_eq {handle : ExecutionHandle Run Comparison}
    (hhandle : service.handles other = some handle) : service.taskDone other = handle.taskDone := by
  rw [taskDone, hhandle]
  rfl

/-- **The first step of `events`**: the client is answered, or subscribes to a run that goes on. -/
theorem events_cases (h : service.events client other = some after) :
    ¬ service.Live other ∧ after = service.withClient client (service.answer other) ∨
    service.Live other ∧
      (service.withClient client (service.answer other)).onCollector other (.subscribe client) =
        some after := by
  unfold events require at h
  cases hhandle : service.handles other with
  | none =>
    rw [hhandle] at h
    have hnone : service.collector? other = none := by rw [collector?, hhandle]; rfl
    refine Or.inl ⟨fun hlive => ?_, ?_⟩
    · have hsome := hlive.1
      rw [hnone] at hsome
      cases hsome
    · rw [answer, hnone]
      exact (Option.some.inj h).symm
  | some handle =>
    rw [hhandle] at h
    dsimp only at h
    cases hcollector : handle.collector with
    | none =>
      rw [hcollector] at h
      have hnone : service.collector? other = none := (collector?_eq hhandle).trans hcollector
      refine Or.inl ⟨fun hlive => ?_, ?_⟩
      · have hsome := hlive.1
        rw [hnone] at hsome
        cases hsome
      · rw [answer, hnone]
        exact (Option.some.inj h).symm
    | some collector =>
      rw [hcollector] at h
      have hsome : service.collector? other = some collector :=
        (collector?_eq hhandle).trans hcollector
      have hdone := taskDone_eq hhandle
      dsimp only at h
      rw [Live, answer, hsome, hdone]
      cases htask : handle.taskDone with
      | true =>
        rw [htask] at h
        exact Or.inl ⟨fun hlive => (by cases hlive.2), (Option.some.inj h).symm⟩
      | false =>
        rw [htask] at h
        exact Or.inr ⟨⟨rfl, rfl⟩, h⟩

section Steps

variable [ValidationTexts]

/-- **What an action does to the handle of one execution**: it starts or settles the execution, is a
step of its collector, or leaves the handle as it is. -/
inductive HandleStep (service : ExecutionService Run Comparison)
    (action : ExecutionAction Run Comparison) (id : Uuid) :
    Option (ExecutionHandle Run Comparison) → Option (ExecutionHandle Run Comparison) → Prop
  | starts (kind : ExecutionKind) (before : Option (ExecutionHandle Run Comparison))
      (hstarts : action.starts? = some (id, kind)) :
    service.HandleStep action id before (some (.started id kind kind.collector?))
  | settles (outcome : TaskOutcome Run Comparison) (handle : ExecutionHandle Run Comparison)
      (hsettles : action.settles? id = some outcome) (hpending : handle.taskDone = false) :
    service.HandleStep action id (some handle) (some (handle.settled outcome))
  | streams (act : StreamAction) (handle : ExecutionHandle Run Comparison)
      (collector after : SimulationEventCollector)
      (hstream : service.streamAction id action = some act)
      (hcollector : handle.collector = some collector) (hstep : collector.step act = some after)
      (hemit : act.isEmit = true → handle.taskDone = false) :
    service.HandleStep action id (some handle) (some { handle with collector := some after })
  | stays (before : Option (ExecutionHandle Run Comparison))
      (hstarts : ∀ kind, action.starts? ≠ some (id, kind)) (hsettles : action.settles? id = none)
      (hstream : service.streamAction id action = none) :
    service.HandleStep action id before before

variable {action : ExecutionAction Run Comparison}

/-- A start changes no other handle. -/
theorem handleStep_start {kind : ExecutionKind} (hstarts : action.starts? = some (other, kind))
    (hsettles : ∀ id, action.settles? id = none)
    (hstream : ∀ id, service.streamAction id action = none) (id : Uuid) :
    service.HandleStep action id (service.handles id)
      ((service.withHandle other (.started other kind kind.collector?)).handles id) := by
  by_cases hid : id = other
  · subst hid
    rw [handles_withHandle_self]
    exact .starts kind _ hstarts
  · rw [handles_withHandle_of_ne hid]
    refine .stays _ (fun kind' hstarts' => hid ?_) (hsettles id) (hstream id)
    exact congrArg Prod.fst (Option.some.inj (hstarts'.symm.trans hstarts))

/-- A step of one collector changes no other handle. -/
theorem handleStep_onCollector {act : StreamAction} {opened : ExecutionService Run Comparison}
    (h : opened.onCollector other act = some after) (hsame : opened.handles = service.handles)
    (hstarts : action.starts? = none) (hsettles : ∀ id, action.settles? id = none)
    (hstream : service.streamAction other action = some act)
    (hother : ∀ id, id ≠ other → service.streamAction id action = none)
    (hemit : act.isEmit = true → service.taskDone other = false) (id : Uuid) :
    service.HandleStep action id (service.handles id) (after.handles id) := by
  obtain ⟨handle, collector, collector', hhandle, hcollector, hstep, rfl⟩ :=
    onCollector_eq_some.mp h
  rw [hsame] at hhandle
  by_cases hid : id = other
  · subst hid
    rw [handles_withHandle_self, hhandle]
    refine .streams act handle collector collector' hstream hcollector hstep fun hact => ?_
    have hpending := hemit hact
    rwa [taskDone, hhandle] at hpending
  · rw [handles_withHandle_of_ne hid, hsame]
    refine .stays _ (fun kind hkind => ?_) (hsettles id) (hother id hid)
    rw [hstarts] at hkind
    cases hkind

/-- A step of a client is a step of the collector in whose stream it is. -/
theorem handleStep_onStream {act : Bool → StreamAction}
    (h : service.onStream client act = some after)
    (hstarts : action.starts? = none) (hsettles : ∀ id, action.settles? id = none)
    (hstream : ∀ id, service.streamAction id action =
      stepIf (service.Streams client id) (act (service.taskDone id)))
    (hemit : ∀ done, (act done).isEmit = false) (id : Uuid) :
    service.HandleStep action id (service.handles id) (after.handles id) := by
  obtain ⟨other, handle, hclient, hhandle, honCollector⟩ := onStream_eq_some.mp h
  have hdone : service.taskDone other = handle.taskDone := by rw [taskDone, hhandle]; rfl
  refine handleStep_onCollector honCollector rfl hstarts hsettles ?_ (fun id hid => ?_) ?_ id
  · rw [hstream, hdone]
    exact if_pos hclient
  · rw [hstream]
    exact if_neg fun hsame => hid (Option.some.inj (hsame.symm.trans hclient))
  · intro hact
    rw [hemit] at hact
    cases hact

theorem handleStep_events (h : service.events client other = some after) (id : Uuid) :
    service.HandleStep (.openEvents client other) id (service.handles id) (after.handles id) := by
  rcases events_cases h with ⟨hclosed, rfl⟩ | ⟨hlive, honCollector⟩
  · refine .stays _ nofun rfl (if_neg ?_)
    rintro ⟨rfl, hopen⟩
    exact hclosed hopen
  · have hstream : service.streamAction other (.openEvents client other) =
        some (.subscribe client) := if_pos ⟨rfl, hlive⟩
    have hother (id : Uuid) (hid : id ≠ other) :
        service.streamAction id (.openEvents client other) = none :=
      if_neg fun hopen => hid hopen.1.symm
    have hsame : (service.withClient client (service.answer other)).handles = service.handles := rfl
    exact handleStep_onCollector honCollector hsame rfl (fun _ => rfl) hstream hother
      (fun hact => (by cases hact)) id

/-- **A step of the service, for the handle of every execution.** -/
theorem handleStep_of_step (h : service.step action = some after) (id : Uuid) :
    service.HandleStep action id (service.handles id) (after.handles id) := by
  cases action with
  | startRun other =>
    rw [← Option.some.inj h]
    exact handleStep_start rfl (fun _ => rfl) (fun _ => rfl) id
  | startComparison other =>
    rw [← Option.some.inj h]
    exact handleStep_start rfl (fun _ => rfl) (fun _ => rfl) id
  | emit other kind elapsedMs attributes =>
    have h : service.emit other kind elapsedMs attributes = some after := h
    unfold emit at h
    cases hhandle : service.handles other with
    | none =>
      rw [hhandle] at h
      cases h
    | some handle =>
      rw [hhandle] at h
      dsimp only at h
      -- only a task that is still running emits events
      cases htask : handle.taskDone with
      | true =>
        rw [htask] at h
        cases h
      | false =>
        rw [htask] at h
        have hstream : service.streamAction other (.emit other kind elapsedMs attributes) =
            some (.emit kind elapsedMs attributes) := if_pos rfl
        have hother (id : Uuid) (hid : id ≠ other) :
            service.streamAction id (.emit other kind elapsedMs attributes) = none :=
          if_neg hid.symm
        exact handleStep_onCollector h rfl rfl (fun _ => rfl) hstream hother
          (fun _ => (taskDone_eq hhandle).trans htask) id
  | settle other outcome =>
    obtain ⟨handle, hhandle, hpending, rfl⟩ := settle_eq_some h
    by_cases hid : id = other
    · subst hid
      rw [handles_withHandle_self, hhandle]
      exact .settles outcome handle (if_pos rfl) hpending
    · rw [handles_withHandle_of_ne hid]
      exact .stays _ nofun (if_neg (Ne.symm hid)) rfl
  | openEvents client other =>
    have h : service.openEvents client other = some after := h
    unfold openEvents at h
    split at h
    · exact handleStep_events h id
    · cases h
  -- the actions of a client move its stream alone
  | check client => exact handleStep_onStream h rfl (fun _ => rfl) (fun _ => rfl) (fun _ => rfl) id
  | wake client =>
    have h : service.onStream client (fun _ => .wake client) = some after := h
    exact handleStep_onStream h rfl (fun _ => rfl) (fun _ => rfl) (fun _ => rfl) id
  | expire client =>
    have h : service.onStream client (fun _ => .expire client) = some after := h
    exact handleStep_onStream h rfl (fun _ => rfl) (fun _ => rfl) (fun _ => rfl) id
  | close client =>
    have h : service.onStream client (fun _ => .close client) = some after := h
    exact handleStep_onStream h rfl (fun _ => rfl) (fun _ => rfl) (fun _ => rfl) id

end Steps

end ExecutionService

end ObservabilityLab
