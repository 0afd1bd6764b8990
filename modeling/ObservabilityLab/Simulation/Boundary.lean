import ObservabilityLab.Agent.Invariants
import ObservabilityLab.Simulation.Provisioner

/-!
# Violations of the dependency boundary

A boundary that rejects an access raises out of a repository call. No tool of the agent handles that
error, so it ends the call, the tool and the run of the model; but the agent handles every exception
of its answer model, and so the run goes on as an ordinary failure.

## Main definitions

* `Monitored`, `monitoredRepository`: a repository that keeps what its calls raised
* `Violated`: a call was rejected
* `AnswerViolated`: a call of the answer model was rejected

## Main results

* `monitoredRepository_kept`: a rejected call is the last call of its tool
* `handle_raises_iff`: when a turn raises the violation
* `unexpectedAccess_iff`: when a run is classified by it
-/

namespace ObservabilityLab

open Python Raising

/-! ## Monitored repositories -/

/-- A world with the exceptions that its repository raised. -/
structure Monitored (World : Type) where
  inner : World
  raised : List PyError := []

section Monitor

variable {World : Type}

/-- A call behind the monitor. -/
def onBoundary {α : Type} (x : Action World α) : Action (Monitored World) α :=
  zoom Monitored.inner (fun inner world => { world with inner := inner }) x

/-- A call whose exception is recorded. -/
def monitoredCall {α : Type} (x : Action World α) : Action (Monitored World) α := do
  match ← attempt (onBoundary x) with
  | .ok a => return a
  | .error e =>
    modify fun world => { world with raised := world.raised ++ [e] }
    throw e

/-- A repository that keeps what its calls raised. -/
def monitoredRepository (repository : SupportRepository (Action World)) :
    SupportRepository (Action (Monitored World)) := repository.map monitoredCall

/-- An environment whose agent uses a monitored boundary. -/
def Provisioner.monitored (provisioner : Provisioner World) : Provisioner (Monitored World) where
  coverage := provisioner.coverage
  create := onBoundary provisioner.create
  seed state := onBoundary (provisioner.seed state)
  connect := monitoredRepository <$> onBoundary provisioner.connect
  finalState := onBoundary provisioner.finalState
  mutations := onBoundary provisioner.mutations
  destroy := onBoundary provisioner.destroy

/-- The boundary rejected a call. -/
def Violated (world : Monitored World) : Prop := ∃ e ∈ world.raised, isUnexpectedAccess e = true

/-- What holds when a monitored call raised: the boundary rejected it, or no call yet. -/
def Reported (e : PyError) (world : Monitored World) : Prop :=
  if isUnexpectedAccess e = true then Violated world else ¬ Violated world

theorem monitoredCall_triple {α : Type} (x : Action World α) :
    Triple (¬ Violated ·) (monitoredCall x) (fun _ => (¬ Violated ·)) Reported := by
  refine triple_bind (Q := fun _ => (¬ Violated ·)) (triple_attempt ?_) fun result => ?_
  · exact triple_zoom fun world hworld => triple_of_runs (fun _ _ _ _ _ => hworld)
      fun _ _ _ _ _ => hworld
  · cases result with
    | ok a => exact triple_pure fun _ hworld => hworld
    | error e =>
      refine triple_bind (Q := fun _ => Reported e) (triple_modify fun world hworld => ?_) fun _ =>
        triple_throw fun _ h => h
      unfold Reported
      split_ifs with hunexpected
      · exact ⟨e, List.mem_append_right _ (List.mem_singleton_self _), hunexpected⟩
      · rintro ⟨e', hmem, he'⟩
        rcases List.mem_append.mp hmem with hmem | hmem
        · exact hworld ⟨e', hmem, he'⟩
        · rw [List.mem_singleton.mp hmem] at he'
          exact hunexpected he'

/-- **A rejected call is reported with its error**, by every monitored repository. -/
theorem monitoredRepository_kept (repository : SupportRepository (Action World))
    (customerId : Uuid) :
    Kept (monitoredRepository repository) customerId (fun world _ => ¬ Violated world)
      fun _ world _ => Violated world := by
  have hcall : ∀ {α : Type} (x : Action World α) (spans : List TraceSpan),
      Triple (fun world => ¬ Violated world) (monitoredCall x) (fun _ world => ¬ Violated world)
        fun e world => Raised (fun world _ => ¬ Violated world) (fun _ world _ => Violated world) e
          world spans := by
    intro α x spans
    refine triple_mono (monitoredCall_triple x) (fun _ h => h) (fun _ _ h => h) fun e world h => ?_
    unfold Reported at h
    unfold Raised
    split_ifs at h ⊢
    · exact h
    · exact h
  exact
    { mono := fun _ _ _ h => h
      monoViolated := fun _ _ _ _ h => h
      getOrder := fun _ => hcall _
      refundOrderIfDelivered := fun _ => hcall _
      createTicket := fun _ spans _ _ => hcall _ spans
      getPolicy := fun _ _ => hcall _ }

end Monitor

/-! ## The turn -/

section Turns

variable {World : Type}

/-- **A computation of a turn that reports**: it raises a violation exactly when a call was
rejected. -/
def Reports {α : Type} (x : Action (Turn (Monitored World)) α) : Prop :=
  Triple (fun turn => ¬ Violated turn.world) x (fun _ turn => ¬ Violated turn.world)
    fun e turn => Reported e turn.world

namespace Reports

variable {α β : Type} {x : Action (Turn (Monitored World)) α}

theorem violated_iff (h : Reports x) {turn : Turn (Monitored World)}
    (hturn : ¬ Violated turn.world) :
    Violated (finalState (x.run turn)).world ↔
      ∃ e, outcome (x.run turn) = .error e ∧ isUnexpectedAccess e = true := by
  cases hrun : x.run turn with
  | ok a after =>
    have hafter : ¬ Violated after.world := h.ok hturn hrun
    simp [hafter]
  | error e after =>
    have hreported : Reported e after.world := h.error hturn hrun
    unfold Reported at hreported
    split_ifs at hreported with hunexpected
    · simp [hreported, hunexpected]
    · simp [hreported, hunexpected]

theorem bind {f : α → Action (Turn (Monitored World)) β} (hx : Reports x)
    (hf : ∀ a, Reports (f a)) : Reports (x >>= f) := triple_bind hx hf

theorem pure (a : α) : Reports (Pure.pure a : Action (Turn (Monitored World)) α) :=
  triple_pure fun _ h => h

theorem span (h : Reports x) (name : String) : Reports (span name x) :=
  span_triple (fun _ _ _ h => h) (fun _ _ _ _ h => h) (fun _ _ _ _ h => h) h

end Reports

/-- What a computation keeps of a monitored boundary, it reports. -/
theorem reports_of_kept {α : Type} {x : Action (Turn (Monitored World)) α}
    (h : Triple (During fun world _ => ¬ Violated world) x
      (fun _ => During fun world _ => ¬ Violated world)
      fun e => During (Raised (fun world _ => ¬ Violated world)
        (fun _ world _ => Violated world) e)) :
    Reports x := by
  refine triple_mono h (fun _ h => h) (fun _ _ h => h) fun e turn h => ?_
  unfold During Raised at h
  unfold Reported
  split_ifs at h ⊢
  · exact h
  · exact h

variable {agent : PydanticAISupportAgent (Monitored World)}
  {boundary : SupportRepository (Action World)}

/-- The service of a turn, on a monitored boundary. -/
theorem service_kept (hrepository : agent.repository = monitoredRepository boundary)
    (request : SupportRequest) :
    Kept (agent.service request).repository (agent.service request).customerId
      (fun world _ => ¬ Violated world) fun _ world _ => Violated world := by
  change Kept agent.repository request.customerId _ _
  rw [hrepository]
  exact monitoredRepository_kept boundary request.customerId

theorem runModel_reports (hrepository : agent.repository = monitoredRepository boundary)
    (request : SupportRequest) (routing : RoutingDecision) (model : AnswerModel) :
    Reports (agent.runModel request routing model) :=
  (reports_of_kept ((service_kept hrepository request).runAnswer _ model)).span _

theorem escalateTurn_reports (hrepository : agent.repository = monitoredRepository boundary)
    (request : SupportRequest) (reasonCode : ReasonCode) :
    Reports (escalateTurn (agent.service request) reasonCode) :=
  (reports_of_kept ((service_kept hrepository request).escalate _)).bind fun _ => Reports.pure _

theorem respond_reports (hrepository : agent.repository = monitoredRepository boundary)
    (request : SupportRequest) (routing : RoutingDecision) (draft : AnswerDraft) :
    Reports (agent.respond request routing draft) := by
  have hassemble : Reports (do
      let turn : Turn (Monitored World) ← get
      return assemble agent.answerInstructionsVersion routing draft turn.service turn.retryCount) :=
    fun _ h => h
  refine triple_bind (Q := fun _ turn => ¬ Violated turn.world) (triple_get fun _ h => h)
    fun read => ?_
  cases hdue : confirmationDue routing request.refundConfirmed read.service with
  | none =>
    simp only [hdue]
    exact hassemble
  | some orderId =>
    simp only [hdue]
    exact (reports_of_kept ((service_kept hrepository request).confirmRefund orderId)).bind
      fun _ => hassemble

variable {request : SupportRequest} {script : TurnScript}

/-- A call of the answer model was rejected. -/
def AnswerViolated (agent : PydanticAISupportAgent (Monitored World)) (request : SupportRequest)
    (script : TurnScript) (turn : Turn (Monitored World)) : Prop :=
  ∃ routing, script.routing = some routing ∧ (planTurn routing).action = .answer ∧
    Violated (finalState ((agent.runModel request routing script.answer).run turn.start)).world

/-- **When the plan of a turn raises the violation that occurred in it**: exactly when it was not in
a call of the answer model, whose exceptions the agent handles. -/
theorem act_raises_iff (hrepository : agent.repository = monitoredRepository boundary)
    {turn : Turn (Monitored World)} (hturn : ¬ Violated turn.world)
    (hviolated : Violated
      (finalState ((agent.act request script.routing script.answer).run turn.start)).world) :
    (∃ e, outcome ((agent.act request script.routing script.answer).run turn.start) = .error e ∧
        isUnexpectedAccess e = true) ↔ ¬ AnswerViolated agent request script turn := by
  have hstart : ¬ Violated turn.start.world := hturn
  cases hrouting : script.routing with
  | none =>
    rw [hrouting] at hviolated
    exact absurd hviolated hturn
  | some routing =>
    rw [hrouting] at hviolated
    cases hplan : (planTurn routing).action with
    | escalate =>
      have hact : Reports (agent.act request (some routing) script.answer) := by
        unfold PydanticAISupportAgent.act
        simp only [hplan]
        exact (escalateTurn_reports hrepository request _).bind fun _ => Reports.pure _
      refine iff_of_true ((hact.violated_iff hstart).mp hviolated) ?_
      rintro ⟨other, hother, hanswer, -⟩
      rw [hrouting, Option.some.injEq] at hother
      rw [← hother, hplan] at hanswer
      cases hanswer
    | answer =>
      have hmodel := runModel_reports hrepository request routing script.answer
      have hanswered : AnswerViolated agent request script turn ↔ Violated
          (finalState ((agent.runModel request routing script.answer).run turn.start)).world := by
        simp only [AnswerViolated, hrouting, Option.some.injEq, exists_eq_left', hplan, true_and]
      rw [hanswered]
      simp only [PydanticAISupportAgent.act, hplan, PydanticAISupportAgent.answer,
        EStateM.run_bind, run_attempt] at hviolated ⊢
      cases hrun : (agent.runModel request routing script.answer).run turn.start with
      | error e failed =>
        -- the exception of the model ends its run, and the turn goes on
        rw [hrun] at hviolated
        refine iff_of_false ?_ (not_not.mpr hviolated)
        rintro ⟨e', he', -⟩
        cases he'
      | ok draft answered =>
        rw [hrun] at hviolated
        have hclean : ¬ Violated answered.world := hmodel.ok hstart hrun
        exact iff_of_true
          (((respond_reports hrepository request routing draft).violated_iff hclean).mp hviolated)
          hclean

/-- **When a turn raises the violation that occurred in it.** -/
theorem handle_raises_iff (hrepository : agent.repository = monitoredRepository boundary)
    {turn : Turn (Monitored World)} (hturn : ¬ Violated turn.world)
    (hviolated : Violated (finalState ((agent.handle request script).run turn)).world) :
    (∃ e, outcome ((agent.handle request script).run turn) = .error e ∧
        isUnexpectedAccess e = true) ↔ ¬ AnswerViolated agent request script turn := by
  rw [← act_raises_iff hrepository hturn ?_, run_handle]
  · cases (agent.act request script.routing script.answer).run turn.start with
    | ok result acted => simp
    | error e acted => simp
  · rw [run_handle] at hviolated
    cases hact : (agent.act request script.routing script.answer).run turn.start with
    | ok result acted =>
      rw [hact] at hviolated
      exact hviolated
    | error e acted =>
      rw [hact] at hviolated
      exact hviolated

end Turns

/-! ## The run -/

section Run

variable {World : Type}

/-- The environment can be captured and destroyed. -/
def Closes (provisioner : Provisioner World) (world : World) : Prop :=
  ∃ state captured mutations written closed,
    provisioner.finalState.run world = .ok state captured ∧
    provisioner.mutations.run captured = .ok mutations written ∧
    provisioner.destroy.run written = .ok () closed

theorem runVerdict_eq_unexpectedAccess {bundle : SimulationBundle} {metrics : RunMetrics}
    {aborted : Option RunVerdict} :
    runVerdict bundle metrics aborted = .unexpectedAccess ↔ aborted = some .unexpectedAccess := by
  unfold runVerdict
  cases aborted with
  | some verdict => simp
  | none =>
    dsimp only
    split_ifs
    all_goals simp

variable [ValidationTexts]

theorem classify_eq_unexpectedAccess {result : Except PyError SupportResponse}
    {response : Option SupportResponse} :
    classify result = .ok (response, some .unexpectedAccess) ↔
      response = none ∧ ∃ e, result = .error e ∧ isUnexpectedAccess e = true := by
  cases result with
  | ok r => simp [classify]
  | error e =>
    simp only [classify, abortVerdict]
    by_cases hunexpected : isUnexpectedAccess e = true
    · rw [if_pos hunexpected]
      constructor
      · intro h
        cases h
        exact ⟨rfl, e, rfl, hunexpected⟩
      · rintro ⟨rfl, -⟩
        rfl
    · by_cases hcoverage : isMissingSimulationCoverage e = true
      · simp [hunexpected, hcoverage]
      · simp [hunexpected, hcoverage]

variable [UnicodeTables] [FloatRepr] [HashFunctions]

/-- The agent of a run, on a monitored boundary. -/
def monitoredAgent (toolsOverride : Option (List String)) (proposalIds : ℕ → Uuid)
    (boundary : SupportRepository (Action World)) (options : RunOptions)
    (bundle : SimulationBundle) : PydanticAISupportAgent (Monitored World) :=
  supportAgent toolsOverride proposalIds (monitoredRepository boundary)
    (instructionsVersion options bundle)

/-- **When a run is classified by the violation of its boundary.** In every environment that was
opened with a monitored boundary, for every routing, every strategy of the model and every boundary
that rejected a call of the turn: exactly when it was not a call of the answer model, and the
environment can be captured and destroyed. -/
theorem unexpectedAccess_iff
    {factory : EnvironmentRequest → Raises (Provisioner (Monitored World))}
    {bundle : SimulationBundle} {prepared : Prepared (Monitored World)} {world : Monitored World}
    {boundary : SupportRepository (Action World)} {opened : Running (Monitored World)}
    (hprepared : prepareRun factory bundle = .ok prepared)
    (hopened : (openEnvironment prepared).run { world := world } =
      .ok (monitoredRepository boundary) opened)
    (hsilent : opened.world.raised = []) (toolsOverride : Option (List String))
    (proposalIds : ℕ → Uuid) (script : TurnScript) (evaluators : List Evaluator)
    (measured : RunMeasurements) (options : RunOptions)
    (hviolated : Violated (finalState (turnResult bundle
      (monitoredAgent toolsOverride proposalIds boundary options bundle |>.handle · script)
      opened)).world) :
    (∃ run after, (runBundle factory (supportAgents toolsOverride proposalIds script) evaluators
        measured options bundle).run { world := world } = .ok run after ∧
        run.verdict = .unexpectedAccess) ↔
      ¬ AnswerViolated (monitoredAgent toolsOverride proposalIds boundary options bundle)
          bundle.scenario.request.toSupportRequest script { world := opened.world } ∧
        Closes prepared.provisioner (finalState (turnResult bundle
          (monitoredAgent toolsOverride proposalIds boundary options bundle |>.handle · script)
          opened)).world := by
  have hturn : ¬ Violated opened.world := by
    rintro ⟨e, hmem, -⟩
    rw [hsilent] at hmem
    cases hmem
  have hagent : supportAgents toolsOverride proposalIds script (monitoredRepository boundary)
      (instructionsVersion options bundle) = .ok
        (monitoredAgent toolsOverride proposalIds boundary options bundle |>.handle · script) := rfl
  -- the turn raises exactly when no model call of it swallowed the violation
  rw [← handle_raises_iff rfl hturn hviolated]
  constructor
  · rintro ⟨run, after, hrun, hverdict⟩
    obtain ⟨execution, captured, written, report, closed, hclassify, -, hstate, hmutations, -,
      hdestroy, rfl⟩ := (runBundle_returns_iff hprepared hopened hagent).mp ⟨after, hrun⟩
    rw [simulationRun] at hverdict
    rw [runVerdict_eq_unexpectedAccess.mp hverdict] at hclassify
    exact ⟨(classify_eq_unexpectedAccess.mp hclassify).2, _, _, _, _, _, hstate, hmutations,
      hdestroy⟩
  · rintro ⟨hraised, state, captured, mutations, written, closed, hstate, hmutations, hdestroy⟩
    have hclassify := classify_eq_unexpectedAccess.mpr ⟨rfl, hraised⟩
    obtain ⟨after, hafter⟩ := (runBundle_returns_iff hprepared hopened hagent).mpr
      ⟨⟨none, some .unexpectedAccess, _, state, mutations⟩, captured, written, {}, closed,
        hclassify, rfl, hstate, hmutations, rfl, hdestroy, rfl⟩
    exact ⟨_, after, hafter, rfl⟩

end Run

/-! ### A malformed response -/

section Malformed

attribute [local instance] asciiTables oneDecimalRepr constantHashes constantIds codePointOrder
  plainTexts

/-- A database that answers two tools with malformed responses. -/
def malformedScript : FaultScript where
  scriptVersion := "1"
  dependency := ownedDatabase
  entries :=
    [{ kind := .malformedResponse, tool := "get_order_status", validDelay := by decide },
      { kind := .malformedResponse, tool := "escalate", validDelay := by decide }]

/-- A bundle with that database. -/
def malformedBundle : SimulationBundle :=
  ({ smallBundle "phase2-01-refund" "refund" validMessage_refund with
    faultScript := some malformedScript } : SimulationBundle).withIdentity

/-- A model that asks for the status of the order in its request. -/
def orderStatusTurn (orderId : Option Uuid) : TurnScript where
  routing := some ⟨.orderStatus, orderId⟩
  answer := .calls (.getOrderStatus (.repeated 0)) fun _ => .draft ⟨.orderStatus⟩

/-- A run of the bundle in a monitored sandbox. -/
def malformedRun (script : TurnScript) :
    EStateM.Result RunFailure (Running (Monitored Sandbox)) SimulationRun :=
  (runBundle (fun request => .ok (postgresSandboxProvisioner request).monitored)
    (supportAgents none (fun _ => .repeated 3) script) [] ⟨.ofRat 1, 0, none⟩
    ⟨⟨"openai", "offline", none, none⟩, none, none⟩ malformedBundle).run
      { world := ⟨Sandbox.begin .empty, []⟩ }

theorem exists_ok_of_verdict {World : Type}
    {result : EStateM.Result RunFailure (Running World) SimulationRun} {verdict : RunVerdict}
    (h : (outcome result).toOption.map (·.verdict) = some verdict) :
    ∃ run, result = .ok run (finalState result) ∧ run.verdict = verdict := by
  cases result with
  | ok run after => exact ⟨run, rfl, Option.some.inj h⟩
  | error failure after => cases h

/-- The model asks for the order: the malformed response is handled by the agent, and the run is
reported as an ordinary failure. -/
theorem unexpectedAccess_swallowed :
    ∃ run after, malformedRun (orderStatusTurn (some (.repeated 0))) = .ok run after ∧
      Violated after.world ∧ run.verdict = .failed := by
  have hfailed : (outcome (malformedRun (orderStatusTurn (some (.repeated 0))))).toOption.map
      (·.verdict) = some .failed := by decide +kernel
  obtain ⟨run, hrun, hverdict⟩ := exists_ok_of_verdict hfailed
  refine ⟨run, _, hrun, List.any_eq_true.mp ?_, hverdict⟩
  decide +kernel

/-- The planner escalates without the model: the malformed response classifies the run. -/
theorem unexpectedAccess_iff_escalated :
    ∃ run after, malformedRun (orderStatusTurn none) = .ok run after ∧
      run.verdict = .unexpectedAccess := by
  refine (unexpectedAccess_iff rfl rfl rfl none (fun _ => .repeated 3) (orderStatusTurn none) []
    ⟨.ofRat 1, 0, none⟩ ⟨⟨"openai", "offline", none, none⟩, none, none⟩ ?_).mpr ⟨?_, ?_⟩
  · refine List.any_eq_true.mp ?_
    decide +kernel
  · rintro ⟨routing, hrouting, hanswer, -⟩
    cases hrouting
    cases hanswer
  · exact ⟨_, _, _, _, _, rfl, rfl, rfl⟩

end Malformed

end ObservabilityLab
