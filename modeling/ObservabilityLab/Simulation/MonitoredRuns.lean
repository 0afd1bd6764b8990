import ObservabilityLab.Library.StateMaps
import ObservabilityLab.Simulation.Boundary

/-!
# Monitored runs

A monitored boundary keeps what its calls raised, and changes nothing else: a turn reaches its world
only through the calls of its repository, so it follows the turn on the boundary without a monitor,
and so does the run of a bundle.

## Main definitions

* `Turn.mapWorld`, `Running.mapWorld`: the states of a turn and of a run, with their world mapped
* `MirrorsCalls`: every call of a repository follows the call of another one

## Main results

* `MirrorsCalls.handle`: the turns on two such repositories
* `mirrorsCalls_monitored`: a monitored repository follows the repository
* `runBundle_monitored`: a run in a monitored environment follows the run in the environment
-/

namespace ObservabilityLab

open Python Raising

section Calls

variable {World World' α : Type} {view : World' → World}

/-- A turn with its world mapped. -/
def Turn.mapWorld (view : World' → World) (turn : Turn World') : Turn World where
  world := view turn.world
  service := turn.service
  retryCount := turn.retryCount
  telemetry := turn.telemetry

/-- The service of a turn, on another repository. -/
def SupportAgentService.on (service : SupportAgentService World')
    (repository : SupportRepository (Action World)) : SupportAgentService World where
  repository := repository
  customerId := service.customerId
  refundConfirmed := service.refundConfirmed
  proposalIds := service.proposalIds

/-- Every call of the first repository follows the call of the second one. -/
structure MirrorsCalls (view : World' → World) (repository' : SupportRepository (Action World'))
    (repository : SupportRepository (Action World)) : Prop where
  getOrder : ∀ orderId, Mirrors view (repository'.getOrder orderId) (repository.getOrder orderId)
  refundOrderIfDelivered : ∀ orderId customerId,
    Mirrors view (repository'.refundOrderIfDelivered orderId customerId)
      (repository.refundOrderIfDelivered orderId customerId)
  createTicket : ∀ ticket, Mirrors view (repository'.createTicket ticket)
    (repository.createTicket ticket)
  getPolicy : ∀ slug version, Mirrors view (repository'.getPolicy slug version)
    (repository.getPolicy slug version)

/-! ## Spans -/

theorem mirrors_onWorld {y : Action World' α} {x : Action World α} (h : Mirrors view y x) :
    Mirrors (Turn.mapWorld view) (onWorld y) (onWorld x) :=
  h.zoom (fun _ => rfl) fun _ _ => rfl

theorem mirrors_updateService (f : ServiceState → ServiceState) :
    Mirrors (Turn.mapWorld view) (updateService f) (updateService f) :=
  mirrors_modify fun _ => rfl

theorem mirrors_updateTelemetry (f : Telemetry → Telemetry) :
    Mirrors (Turn.mapWorld view) (updateTelemetry f) (updateTelemetry f) :=
  mirrors_modify fun _ => rfl

theorem mirrors_span (name : String) {y : Action (Turn World') α} {x : Action (Turn World) α}
    (h : Mirrors (Turn.mapWorld view) y x) :
    Mirrors (Turn.mapWorld view) (span name y) (span name x) := by
  refine mirrors_get_bind fun turn => ?_
  -- a span closes whether its block returns or raises, and raises what the block raised
  refine (mirrors_updateTelemetry _).bind fun _ => h.attempt.bind fun result => ?_
  refine (mirrors_updateTelemetry _).bind fun _ => ?_
  cases result with
  | ok a => exact mirrors_pure a
  | error e => exact mirrors_throw e

theorem mirrors_databaseCall {y : Action World' α} {x : Action World α} (h : Mirrors view y x) :
    Mirrors (Turn.mapWorld view) (SupportAgentService.databaseCall y)
      (SupportAgentService.databaseCall x) :=
  mirrors_span _ (mirrors_onWorld h)

theorem mirrors_transientFailure :
    Mirrors (Turn.mapWorld view) transientFailure transientFailure := by
  have hcount : Mirrors (Turn.mapWorld view)
      (modify fun turn => { turn with retryCount := turn.retryCount + 1 } :
        Action (Turn World') Unit)
      (modify fun turn => { turn with retryCount := turn.retryCount + 1 }) :=
    mirrors_modify fun _ => rfl
  refine hcount.bind fun _ => ?_
  refine (mirrors_span _ (mirrors_updateTelemetry _)).bind fun _ => ?_
  exact (mirrors_updateTelemetry _).bind fun _ => mirrors_pure _

/-- A tool function follows another one when their services do. -/
theorem mirrors_toolFunction (name : String) (refusals : List Refusal) (retries : Bool)
    (reply : α → String) {y : Action (Turn World') α} {x : Action (Turn World) α}
    (h : Mirrors (Turn.mapWorld view) y x) :
    Mirrors (Turn.mapWorld view) (toolFunction name refusals retries y reply)
      (toolFunction name refusals retries x reply) := by
  refine mirrors_span _ (h.attempt.bind fun result => ?_)
  cases result with
  | ok a => exact (mirrors_updateService _).bind fun _ => mirrors_pure _
  | error e =>
    dsimp only
    -- a listed refusal becomes a reply, a listed retry is counted, all else is raised
    cases refusals.find? (·.error = e) with
    | some refusal =>
      refine (mirrors_updateTelemetry _).bind fun _ => ?_
      exact (mirrors_updateTelemetry _).bind fun _ => mirrors_pure _
    | none => exact mirrors_ite mirrors_transientFailure (mirrors_throw e)

namespace MirrorsCalls

variable {repository' : SupportRepository (Action World')}
  {repository : SupportRepository (Action World)}

/-! ## The support services -/

theorem serviceGetOrder (h : MirrorsCalls view repository' repository) (orderId actorId : Uuid) :
    Mirrors view (ObservabilityLab.getOrder repository' orderId actorId)
      (ObservabilityLab.getOrder repository orderId actorId) := by
  refine (h.getOrder orderId).bind fun found => ?_
  cases found with
  | none => exact mirrors_throw _
  | some order => exact mirrors_ite (mirrors_throw _) (mirrors_pure _)

theorem serviceGetLatestPolicy (h : MirrorsCalls view repository' repository) (slug : String) :
    Mirrors view (getLatestPolicy repository' slug) (getLatestPolicy repository slug) := by
  refine (h.getPolicy slug none).bind fun found => ?_
  cases found with
  | none => exact mirrors_throw _
  | some policy => exact mirrors_pure _

theorem serviceRequestRefund (h : MirrorsCalls view repository' repository)
    (command : RefundCommand) :
    Mirrors view (requestRefund repository' command) (requestRefund repository command) := by
  refine (h.serviceGetOrder _ _).bind fun order => mirrors_ite (mirrors_throw _) ?_
  refine (h.refundOrderIfDelivered _ _).bind fun saved => ?_
  cases saved with
  | some saved => exact mirrors_pure _
  | none =>
    -- the refund was lost to another one: the order is read again for the text of the error
    refine (h.getOrder _).bind fun found => ?_
    cases found with
    | none => exact mirrors_throw _
    | some current => exact mirrors_ite (mirrors_throw _) (mirrors_throw _)

theorem serviceCreateTicket (h : MirrorsCalls view repository' repository)
    (command : CreateTicketCommand) :
    Mirrors view (ObservabilityLab.createTicket repository' command)
      (ObservabilityLab.createTicket repository command) := by
  unfold ObservabilityLab.createTicket
  cases command.orderId with
  | none => exact h.createTicket _
  | some orderId => exact (h.serviceGetOrder _ _).bind fun _ => h.createTicket _

/-! ## The tools -/

variable {service : SupportAgentService World'}

theorem getOrderStatus (h : MirrorsCalls view service.repository repository) (orderId : Uuid) :
    Mirrors (Turn.mapWorld view) (service.getOrderStatus orderId)
      ((service.on repository).getOrderStatus orderId) := by
  refine (mirrors_databaseCall (h.serviceGetOrder _ _)).bind fun order => ?_
  exact (mirrors_updateService _).bind fun _ => mirrors_pure order

theorem getPolicyTool (h : MirrorsCalls view service.repository repository) (slug : String) :
    Mirrors (Turn.mapWorld view) (service.getPolicy slug)
      ((service.on repository).getPolicy slug) := by
  refine mirrors_span _ ?_
  refine (mirrors_databaseCall (h.serviceGetLatestPolicy slug)).bind fun policy => ?_
  refine (mirrors_updateTelemetry _).bind fun _ => ?_
  exact (mirrors_updateService _).bind fun _ => mirrors_pure policy

theorem proposeRefund (h : MirrorsCalls view service.repository repository) (orderId : Uuid) :
    Mirrors (Turn.mapWorld view) (service.proposeRefund orderId)
      ((service.on repository).proposeRefund orderId) := by
  have heligible : Mirrors (Turn.mapWorld view) (service.proposeEligible orderId)
      ((service.on repository).proposeEligible orderId) := by
    refine (h.getOrderStatus orderId).bind fun order => mirrors_ite ?_ ?_
    · refine (mirrors_span _ (mirrors_pure ())).bind fun _ => ?_
      exact (mirrors_updateService _).bind fun _ => mirrors_throw _
    · refine (mirrors_span _ (mirrors_pure ())).bind fun _ => mirrors_get_bind fun turn => ?_
      refine (mirrors_updateService _).bind fun _ => ?_
      refine (mirrors_span _ (mirrors_pure ())).bind fun _ => ?_
      exact (mirrors_updateService _).bind fun _ => mirrors_pure _
  -- the status is recorded when the proposal raises, and the error raised again
  refine heligible.attempt.bind fun result => ?_
  cases result with
  | ok proposal => exact mirrors_pure proposal
  | error e => exact (mirrors_updateService _).bind fun _ => mirrors_throw e

theorem confirmRefund (h : MirrorsCalls view service.repository repository) (orderId : Uuid) :
    Mirrors (Turn.mapWorld view) (service.confirmRefund orderId)
      ((service.on repository).confirmRefund orderId) := by
  refine mirrors_get_bind fun turn => mirrors_ite ?_ ?_
  · refine (mirrors_span _ (mirrors_pure ())).bind fun _ => ?_
    exact (mirrors_updateService _).bind fun _ => mirrors_throw _
  · refine (mirrors_span _ (mirrors_databaseCall (h.serviceRequestRefund _))).bind
      fun refunded => ?_
    exact (mirrors_updateService _).bind fun _ => mirrors_pure refunded

theorem escalate (h : MirrorsCalls view service.repository repository) (subject : String) :
    Mirrors (Turn.mapWorld view) (service.escalate subject)
      ((service.on repository).escalate subject) := by
  have hcreate (command : CreateTicketCommand) : Mirrors (Turn.mapWorld view)
      (do
        let ticket ← onWorld (ObservabilityLab.createTicket service.repository command)
        updateService (·.escalated ticket)
        return ticket)
      (do
        let ticket ← onWorld (ObservabilityLab.createTicket repository command)
        updateService (·.escalated ticket)
        return ticket) := by
    refine (mirrors_onWorld (h.serviceCreateTicket command)).bind fun ticket => ?_
    exact (mirrors_updateService _).bind fun _ => mirrors_pure ticket
  refine mirrors_span _ ?_
  dsimp only [SupportAgentService.on]
  cases CreateTicketCommand.new service.customerId subject with
  | ok command => exact (mirrors_pure command).bind hcreate
  | error e => exact (mirrors_throw e).bind hcreate

theorem runTool (h : MirrorsCalls view service.repository repository) (call : ToolCall) :
    Mirrors (Turn.mapWorld view) (ObservabilityLab.runTool service call)
      (ObservabilityLab.runTool (service.on repository) call) := by
  cases call with
  | getOrderStatus orderId => exact mirrors_toolFunction _ _ _ _ (h.getOrderStatus orderId)
  | getPolicy slug => exact mirrors_toolFunction _ _ _ _ (h.getPolicyTool slug)
  | proposeRefund orderId => exact mirrors_toolFunction _ _ _ _ (h.proposeRefund orderId)
  | confirmRefund orderId => exact mirrors_toolFunction _ _ _ _ (h.confirmRefund orderId)
  | escalate subject => exact mirrors_toolFunction _ _ _ _ (h.escalate _)

/-- **The run of any model** follows the run on the other repository. -/
theorem runAnswer (h : MirrorsCalls view service.repository repository) (tools : List String)
    (model : AnswerModel) :
    Mirrors (Turn.mapWorld view) (ObservabilityLab.runAnswer service tools model)
      (ObservabilityLab.runAnswer (service.on repository) tools model) := by
  induction model with
  | draft draft => exact mirrors_pure draft
  | fails name message => exact mirrors_throw _
  | calls call next ih =>
    -- the replies are the same, so the model goes on alike
    have hcall : Mirrors (Turn.mapWorld view) (answerCall service tools call)
        (answerCall (service.on repository) tools call) :=
      mirrors_ite (h.runTool call) (mirrors_pure _)
    exact hcall.bind ih

/-! ## The turn -/

variable {toolsOverride : Option (List String)} {proposalIds : ℕ → Uuid} {version : String}
  {request : SupportRequest}

theorem respond (h : MirrorsCalls view repository' repository) (routing : RoutingDecision)
    (draft : AnswerDraft) :
    Mirrors (Turn.mapWorld view)
      ((supportAgent toolsOverride proposalIds repository' version).respond request routing draft)
      ((supportAgent toolsOverride proposalIds repository version).respond
        request routing draft) := by
  have hassemble : Mirrors (Turn.mapWorld view)
      (do
        let turn ← get
        return assemble version routing draft turn.service turn.retryCount :
          Action (Turn World') (SupportResponse × Option Bool))
      (do
        let turn ← get
        return assemble version routing draft turn.service turn.retryCount) :=
    mirrors_get_bind fun _ => mirrors_pure _
  refine mirrors_get_bind fun turn => ?_
  -- whether a confirmation is due depends on the service state alone, which both turns share
  have hservice : (turn.mapWorld view).service = turn.service := rfl
  rw [hservice]
  cases hdue : confirmationDue routing request.refundConfirmed turn.service with
  | none =>
    simp only [hdue]
    exact hassemble
  | some orderId =>
    simp only [hdue]
    exact (confirmRefund h orderId).bind fun _ => hassemble

/-- A turn after its routing. -/
theorem act (h : MirrorsCalls view repository' repository) (routing : Option RoutingDecision)
    (model : AnswerModel) :
    Mirrors (Turn.mapWorld view)
      ((supportAgent toolsOverride proposalIds repository' version).act request routing model)
      ((supportAgent toolsOverride proposalIds repository version).act request routing model) := by
  cases routing with
  | none => exact mirrors_pure _
  | some routing =>
    unfold PydanticAISupportAgent.act
    dsimp only
    cases (planTurn routing).action with
    | escalate =>
      refine Mirrors.bind ?_ fun response => mirrors_pure _
      exact (escalate h _).bind fun _ => mirrors_pure _
    | answer =>
      refine (mirrors_span _ (runAnswer h _ model)).attempt.bind fun result => ?_
      cases result with
      | ok draft => exact h.respond routing draft
      | error e => exact mirrors_pure _

/-- **A turn follows the turn on the other repository.** -/
theorem handle (h : MirrorsCalls view repository' repository) (script : TurnScript) :
    Mirrors (Turn.mapWorld view)
      ((supportAgent toolsOverride proposalIds repository' version).handle request script)
      ((supportAgent toolsOverride proposalIds repository version).handle request script) := by
  have hreset : Mirrors (Turn.mapWorld view)
      (modify fun turn => { turn with service := {}, retryCount := 0 } : Action (Turn World') Unit)
      (modify fun turn => { turn with service := {}, retryCount := 0 }) :=
    mirrors_modify fun _ => rfl
  refine hreset.bind fun _ => mirrors_span _ ?_
  refine (mirrors_span _ (mirrors_pure ())).bind fun _ => (h.act _ _).bind fun result => ?_
  obtain ⟨response, grounded⟩ := result
  cases grounded with
  | none => exact (mirrors_pure _).bind fun _ => mirrors_pure _
  | some grounded => exact (mirrors_updateTelemetry _).bind fun _ => mirrors_pure _

end MirrorsCalls

end Calls

/-! ## The run -/

section Runs

variable {World World' α β : Type} {view : World' → World}

/-- A run with its world mapped. -/
def Running.mapWorld (view : World' → World) (run : Running World') : Running World where
  world := view run.world
  calls := run.calls

theorem mirrors_recordStep (step : RunStep) (raised : Option PyError) :
    Mirrors (Running.mapWorld view) (recordStep step raised) (recordStep step raised) :=
  mirrors_modify fun _ => rfl

theorem mirrors_onRunWorld {y : Action World' α} {x : Action World α} (h : Mirrors view y x) :
    Mirrors (Running.mapWorld view) (onRunWorld y) (onRunWorld x) :=
  h.zoom (fun _ => rfl) fun _ _ => rfl

theorem mirrors_runStep (step : RunStep) {y : Action World' α} {x : Action World α}
    (h : Mirrors view y x) :
    Mirrors (Running.mapWorld view) (runStep step y) (runStep step x) := by
  refine (mirrors_onRunWorld h).attempt.bind fun result => ?_
  exact (mirrors_recordStep _ _).bind fun _ => mirrors_ofExcept result

/-- What a turn returns or raises follows the turn. -/
theorem mirrors_turnOn {y : Action (Turn World') SupportResponse}
    {x : Action (Turn World) SupportResponse} (h : Mirrors (Turn.mapWorld view) y x) :
    Mirrors view (turnOn y) (turnOn x) := by
  intro world
  have hturn : mapState (Turn.mapWorld view) (y.run { world := world }) =
      x.run { world := view world } := h { world := world }
  change _ = EStateM.Result.ok (outcome (x.run { world := view world }), _) _
  rw [← hturn]
  change mapState view (.ok (outcome (y.run { world := world }), _) _) = _
  cases y.run { world := world } <;> rfl

/-- The result of a step may be mapped before or after it is recorded. -/
theorem runStep_map (step : RunStep) (f : α → β) (x : Action World α) :
    runStep step (f <$> x) = f <$> runStep step x := by
  funext run
  change (runStep step (f <$> x)).run run = (f <$> runStep step x).run run
  rw [map_eq_pure_bind, map_eq_pure_bind]
  unfold runStep
  simp only [EStateM.run_bind, run_attempt, run_onRunWorld]
  cases x.run run.world <;> rfl

/-- A result that is mapped before the computation goes on. -/
theorem mirrors_map_bind {γ : Type} {f : α → γ} {y : Action (Running World') α}
    {x : Action (Running World) α} {g : γ → Action (Running World') β}
    {k : α → Action (Running World) β} (h : Mirrors (Running.mapWorld view) y x)
    (hrest : ∀ a, Mirrors (Running.mapWorld view) (g (f a)) (k a)) :
    Mirrors (Running.mapWorld view) ((f <$> y) >>= g) (x >>= k) := by
  rw [map_eq_pure_bind, bind_assoc]
  refine h.bind fun a => ?_
  rw [pure_bind]
  exact hrest a

/-- A step that returns at once is only recorded. -/
theorem runStep_ok_bind (step : RunStep) (a : α) (rest : α → Action (Running World) β) :
    (runStep step (MonadExcept.ofExcept (.ok a)) >>= rest) =
      (recordStep step none >>= fun _ => rest a) := rfl

/-! ### A monitored environment -/

theorem mirrors_onBoundary (x : Action World α) : Mirrors Monitored.inner (onBoundary x) x := by
  intro world
  unfold onBoundary
  rw [run_zoom]
  cases x.run world.inner <;> rfl

/-- A call behind the monitor returns and raises what the call does. -/
theorem mirrors_monitoredCall (x : Action World α) :
    Mirrors Monitored.inner (monitoredCall x) x := by
  intro world
  have hcall := mirrors_onBoundary x world
  unfold monitoredCall
  rw [EStateM.run_bind, run_attempt, ← hcall]
  cases (onBoundary x).run world <;> rfl

/-- **A monitored repository follows the repository.** -/
theorem mirrorsCalls_monitored (repository : SupportRepository (Action World)) :
    MirrorsCalls Monitored.inner (monitoredRepository repository) repository where
  getOrder _ := mirrors_monitoredCall _
  refundOrderIfDelivered _ _ := mirrors_monitoredCall _
  createTicket _ := mirrors_monitoredCall _
  getPolicy _ _ := mirrors_monitoredCall _

/-- The bundle with its environment monitored. -/
def Prepared.monitored (prepared : Prepared World) : Prepared (Monitored World) where
  bundleId := prepared.bundleId
  contentHash := prepared.contentHash
  scenario := prepared.scenario
  provisioner := prepared.provisioner.monitored

/-- A monitored environment hands out its repository behind the monitor. -/
theorem openEnvironment_monitored (prepared : Prepared World) :
    openEnvironment prepared.monitored = monitoredRepository <$> (do
      runStep .create (onBoundary prepared.provisioner.create)
      runStep .seed (onBoundary (prepared.provisioner.seed prepared.scenario.initialState))
      runStep .connect (onBoundary prepared.provisioner.connect)) := by
  simp only [map_bind, ← runStep_map]
  rfl

/-! ### The run of a bundle -/

variable [ValidationTexts] {factory : EnvironmentRequest → Raises (Provisioner World)}
  {bundle : SimulationBundle}

theorem mirrors_typedErrors {y : Action (Running World') α} {x : Action (Running World) α}
    (h : Mirrors (Running.mapWorld view) y x) :
    Mirrors (Running.mapWorld view) (typedErrors y) (typedErrors x) := by
  refine h.attempt.bind fun result => ?_
  cases result with
  | ok a => exact mirrors_pure a
  | error e => exact mirrors_throw _

theorem mirrors_destroying {destroy' : Action World' Unit} {destroy : Action World Unit}
    (hdestroy : Mirrors view destroy' destroy) {y : Action (Running World') α}
    {x : Action (Running World) α} (h : Mirrors (Running.mapWorld view) y x) :
    Mirrors (Running.mapWorld view) (destroying destroy' y) (destroying destroy x) := by
  intro run
  have hcleanup := mirrors_runStep .destroy hdestroy (finalState (y.run run))
  rw [h.finalState] at hcleanup
  rw [run_destroying, run_destroying, ← hcleanup, ← h run]
  generalize (runStep .destroy destroy').run (finalState (y.run run)) = cleanup
  -- either part may return or raise
  cases y.run run with
  | ok a after => cases cleanup <;> rfl
  | error e after => cases cleanup <;> rfl

theorem mirrors_captureRun (prepared : Prepared World) (result : Except PyError SupportResponse)
    (spans : List TraceSpan) :
    Mirrors (Running.mapWorld Monitored.inner) (captureRun prepared.monitored result spans)
      (captureRun prepared result spans) := by
  refine (mirrors_ofExcept _).bind fun classified => ?_
  refine (mirrors_runStep _ (mirrors_onBoundary _)).bind fun state => ?_
  exact (mirrors_runStep _ (mirrors_onBoundary _)).bind fun mutations => mirrors_pure _

theorem mirrors_execute (prepared : Prepared World) (toolsOverride : Option (List String))
    (proposalIds : ℕ → Uuid) (script : TurnScript) (options : RunOptions) :
    Mirrors (Running.mapWorld Monitored.inner)
      (execute prepared.monitored (supportAgents toolsOverride proposalIds script) options bundle)
      (execute prepared (supportAgents toolsOverride proposalIds script) options bundle) := by
  unfold execute
  rw [openEnvironment_monitored]
  refine mirrors_map_bind ?_ fun repository => ?_
  · refine (mirrors_runStep _ (mirrors_onBoundary _)).bind fun _ => ?_
    refine (mirrors_runStep _ (mirrors_onBoundary _)).bind fun _ => ?_
    exact mirrors_runStep _ (mirrors_onBoundary _)
  · refine (mirrors_ofExcept _).bind fun request => ?_
    unfold supportAgents
    rw [runStep_ok_bind, runStep_ok_bind]
    refine (mirrors_recordStep _ _).bind fun _ => ?_
    have hturn : Mirrors (Turn.mapWorld Monitored.inner)
        ((supportAgent toolsOverride proposalIds (monitoredRepository repository)
          (instructionsVersion options bundle)).handle request script)
        ((supportAgent toolsOverride proposalIds repository
          (instructionsVersion options bundle)).handle request script) :=
      (mirrorsCalls_monitored repository).handle script
    refine (mirrors_onRunWorld (mirrors_turnOn hturn)).bind fun ended => ?_
    exact (mirrors_recordStep _ _).bind fun _ => mirrors_captureRun _ _ _

variable [UnicodeTables] [FloatRepr] [HashFunctions]

/-- A monitored environment covers what the environment covers, so it passes the same checks. -/
theorem prepareRun_monitored :
    prepareRun (fun request => Provisioner.monitored <$> factory request) bundle =
      Prepared.monitored <$> prepareRun factory bundle := by
  unfold prepareRun
  split
  case h_2 => rfl
  case h_1 =>
    generalize scenarioFromBundle bundle = read
    cases read with
    | error e => cases e <;> rfl
    | ok scenario =>
      simp only [map_bind, bind_map_left]
      rfl

/-- **A run in a monitored environment follows the run in the environment**: it returns and raises
the same, and leaves the same world behind. -/
theorem runBundle_monitored (toolsOverride : Option (List String)) (proposalIds : ℕ → Uuid)
    (script : TurnScript) (evaluators : List Evaluator) (measured : RunMeasurements)
    (options : RunOptions) :
    Mirrors (Running.mapWorld Monitored.inner)
      (runBundle (fun request => Provisioner.monitored <$> factory request)
        (supportAgents toolsOverride proposalIds script) evaluators measured options bundle)
      (runBundle factory (supportAgents toolsOverride proposalIds script) evaluators measured
        options bundle) := by
  unfold runBundle
  rw [prepareRun_monitored]
  cases prepareRun factory bundle with
  | error e => exact mirrors_throw _
  | ok prepared =>
    have hbody : Mirrors (Running.mapWorld Monitored.inner)
        (do
          let execution ← typedErrors (execute prepared.monitored
            (supportAgents toolsOverride proposalIds script) options bundle)
          let report ← MonadExcept.ofExcept (reportFor bundle evaluators measured execution)
          return (execution, report))
        (do
          let execution ← typedErrors (execute prepared
            (supportAgents toolsOverride proposalIds script) options bundle)
          let report ← MonadExcept.ofExcept (reportFor bundle evaluators measured execution)
          return (execution, report)) := by
      refine (mirrors_typedErrors (mirrors_execute prepared _ _ _ _)).bind fun execution => ?_
      exact (mirrors_ofExcept _).bind fun report => mirrors_pure _
    exact (mirrors_destroying (mirrors_onBoundary _) hbody).bind fun judged => mirrors_pure _

end Runs

end ObservabilityLab
