import ObservabilityLab.Library.StateMaps
import ObservabilityLab.UserSimulator.Reference

/-!
# Outcomes of the tools of a session

A workflow whose repository also keeps the outcome of every run of a tool, in order. The record
changes nothing: without it a session is the same.

## Main definitions

* `ToolOutcome`: one run of a tool, with what it raised
* `ReferenceWorkflow.recorded`: the workflow with the record
* `ReferenceSession.forget`: a session without the record

## Main results

* `mirrors_session`: a session of the recorded workflow follows one of the workflow
-/

namespace ObservabilityLab

open Python Raising

/-- One run of a tool, with what it raised; none when it returned. -/
structure ToolOutcome where
  tool : String
  error : Option PyError

/-- A repository with the outcomes of the runs of the tools so far. -/
structure RecordedWorld (World : Type) where
  world : World
  outcomes : List ToolOutcome := []

section Recorded

variable {World : Type}

/-- A tool that records the outcomes of its runs. -/
def ReferenceTool.recorded (tool : ReferenceTool World) : ReferenceTool (RecordedWorld World) where
  name := tool.name
  safe := tool.safe
  run arguments recorded :=
    match (tool.run arguments).run recorded.world with
    | .ok result world => .ok result ⟨world, recorded.outcomes ++ [⟨tool.name, none⟩]⟩
    | .error e world => .error e ⟨world, recorded.outcomes ++ [⟨tool.name, some e⟩]⟩

/-- The workflow with the outcomes of its tools. -/
def ReferenceWorkflow.recorded (workflow : ReferenceWorkflow World) :
    ReferenceWorkflow (RecordedWorld World) where
  workflowId := workflow.workflowId
  mutations recorded := workflow.mutations recorded.world
  tools := workflow.tools.map (·.recorded)
  expectation := workflow.expectation

/-- The session without the outcomes. -/
def ReferenceSession.forget (session : ReferenceSession (RecordedWorld World)) :
    ReferenceSession World where
  repository := session.repository.world
  confirmed := session.confirmed
  approvalPending := session.approvalPending
  pendingAction := session.pendingAction
  executedTools := session.executedTools
  events := session.events
  steps := session.steps

/-! ## A session without the record -/

open ReferenceSession (forget)

variable {workflow : ReferenceWorkflow World} {projector : Option ToolProjector} {name : String}
  {arguments : Record}

theorem tool?_recorded :
    workflow.recorded.tool? name = (workflow.tool? name).map (·.recorded) := by
  rw [ReferenceWorkflow.tool?, ReferenceWorkflow.tool?, ReferenceWorkflow.recorded,
    ← List.map_reverse, List.find?_map]
  rfl

/-- A run that returns is recorded. -/
theorem run_recorded_ok {tool : ReferenceTool World} {recorded : RecordedWorld World}
    {result : String} {world : World}
    (h : (tool.run arguments).run recorded.world = .ok result world) :
    (tool.recorded.run arguments).run recorded =
      .ok result ⟨world, recorded.outcomes ++ [⟨tool.name, none⟩]⟩ := by
  rw [EStateM.run, ReferenceTool.recorded]
  simp only [h]

/-- A run that raises is recorded. -/
theorem run_recorded_error {tool : ReferenceTool World} {recorded : RecordedWorld World}
    {e : PyError} {world : World}
    (h : (tool.run arguments).run recorded.world = .error e world) :
    (tool.recorded.run arguments).run recorded =
      .error e ⟨world, recorded.outcomes ++ [⟨tool.name, some e⟩]⟩ := by
  rw [EStateM.run, ReferenceTool.recorded]
  simp only [h]

theorem mirrors_takeStep (step : GateStep) :
    Mirrors forget (takeStep step) (takeStep step : Action (ReferenceSession World) Unit) :=
  mirrors_modify fun _ => rfl

theorem mirrors_call (tool : ReferenceTool World) :
    Mirrors forget (tool.recorded.call arguments) (tool.call arguments) := by
  refine (mirrors_takeStep _).bind fun _ => ?_
  intro session
  rw [run_zoom, run_zoom]
  cases hrun : (tool.run arguments).run (forget session).repository with
  | ok result world =>
    rw [run_recorded_ok hrun]
    rfl
  | error e world =>
    rw [run_recorded_error hrun]
    rfl

theorem mirrors_emitEvent (kind : SimulatorEventKind) (text : String) (fields : Record) :
    Mirrors forget (emitEvent kind text fields)
      (emitEvent kind text fields : Action (ReferenceSession World) Unit) :=
  mirrors_modify fun _ => rfl

theorem mirrors_reportResult (label result : String) :
    Mirrors forget (workflow.recorded.reportResult projector label name result)
      (workflow.reportResult projector label name result) := by
  refine (mirrors_ofExcept _).bind fun _ => ?_
  exact (mirrors_emitEvent _ _ _).bind fun _ => mirrors_pure _

theorem mirrors_retryTool (tool : ReferenceTool World) (label : String) (error : PyError) :
    Mirrors forget
      (workflow.recorded.retryTool projector tool.recorded label arguments error)
      (workflow.retryTool projector tool label arguments error) := by
  refine (mirrors_emitEvent _ _ _).bind fun _ => ?_
  refine (mirrors_call tool).attempt.bind fun outcome => ?_
  cases outcome with
  | ok result => exact mirrors_reportResult label result
  | error again =>
    dsimp only
    split
    · exact (mirrors_emitEvent _ _ _).bind fun _ => mirrors_pure _
    · exact mirrors_throw _

theorem mirrors_runTool :
    Mirrors forget (workflow.recorded.runTool projector name arguments)
      (workflow.runTool projector name arguments) := by
  rw [ReferenceWorkflow.runTool, ReferenceWorkflow.runTool, tool?_recorded]
  cases workflow.tool? name with
  | none => exact mirrors_throw _
  | some tool =>
    refine (mirrors_ofExcept _).bind fun label => ?_
    refine (mirrors_emitEvent _ _ _).bind fun _ => ?_
    refine (mirrors_call tool).attempt.bind fun outcome => ?_
    cases outcome with
    | ok result => exact mirrors_reportResult label result
    | error error =>
      dsimp only
      split
      · exact mirrors_retryTool tool label error
      · exact mirrors_throw _

theorem mirrors_executeTool :
    Mirrors forget (workflow.recorded.executeTool projector name arguments)
      (workflow.executeTool projector name arguments) := by
  refine mirrors_runTool.bind fun _ => ?_
  exact (mirrors_takeStep _).bind fun _ => mirrors_modify fun _ => rfl

theorem mirrors_confirmPending (trusted : Bool) :
    Mirrors forget (workflow.recorded.confirmPending projector trusted)
      (workflow.confirmPending projector trusted) := by
  refine mirrors_get_bind fun session => ?_
  have hpending : (forget session).pendingAction = session.pendingAction := rfl
  rw [hpending]
  cases session.pendingAction with
  | none => exact mirrors_pure _
  | some pending =>
    have happroval : (forget session).approvalPending = session.approvalPending := rfl
    dsimp only
    rw [happroval]
    split
    · exact (mirrors_set rfl).bind fun _ => mirrors_executeTool
    · exact mirrors_pure _

theorem mirrors_announce :
    Mirrors forget (ReferenceWorkflow.announce name arguments)
      (ReferenceWorkflow.announce name arguments :
        Action (ReferenceSession World) (Option String)) := by
  refine (mirrors_takeStep _).bind fun _ => ?_
  refine Mirrors.bind (mirrors_modify fun _ => rfl) fun _ => ?_
  exact (mirrors_emitEvent _ _ _).bind fun _ => mirrors_pure _

theorem mirrors_choose (choice : BusinessChoice) :
    Mirrors forget (workflow.recorded.choose projector choice)
      (workflow.choose projector choice) := by
  refine mirrors_get_bind fun session => ?_
  obtain ⟨tool, arguments, message, ends, hbounded⟩ := choice
  cases ends with
  | true => exact mirrors_ite (mirrors_pure _) (mirrors_pure _)
  | false =>
    cases tool with
    | none => exact mirrors_ite (mirrors_pure _) (mirrors_pure _)
    | some name =>
      refine mirrors_ite ((mirrors_emitEvent _ _ _).bind fun _ => mirrors_pure _) ?_
      rw [tool?_recorded]
      cases workflow.tool? name with
      | none => exact (mirrors_emitEvent _ _ _).bind fun _ => mirrors_pure _
      | some tool =>
        refine mirrors_ite mirrors_announce ?_
        exact mirrors_executeTool.bind fun _ => mirrors_pure _

theorem mirrors_chooseTools (choices : List (Raises BusinessChoice)) :
    Mirrors forget (workflow.recorded.chooseTools projector choices)
      (workflow.chooseTools projector choices) := by
  induction choices with
  | nil => exact mirrors_pure _
  | cons choice choices ih =>
    refine (mirrors_ofExcept _).bind fun choice => ?_
    refine (mirrors_choose choice).bind fun answer => ?_
    cases answer with
    | some answer => exact mirrors_pure _
    | none => exact ih

theorem mirrors_agentTurn (turn : ReferenceTurn) :
    Mirrors forget (workflow.recorded.agentTurn projector turn)
      (workflow.agentTurn projector turn) := by
  refine (mirrors_takeStep _).bind fun _ => ?_
  exact (mirrors_confirmPending _).bind fun _ => mirrors_chooseTools _

/-- **The record changes nothing**: without it, a session of the recorded workflow is one of the
workflow. -/
theorem mirrors_session (turns : List ReferenceTurn) :
    Mirrors forget (workflow.recorded.session projector turns)
      (workflow.session projector turns) :=
  mirrors_forM fun turn _ => (mirrors_agentTurn turn).bind fun _ => mirrors_pure _

end Recorded

end ObservabilityLab
