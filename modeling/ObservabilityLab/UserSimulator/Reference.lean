import ObservabilityLab.Agent.Turn

/-!
# Live sessions of the reference workflows

A business model chooses the tools of a workflow, up to eight in a turn of the user. A sensitive
tool of a gated workflow is announced instead of run, until a trusted confirmation arrives.

A session keeps the steps that its approval gate is about, in their order.

## Main definitions

* `ReferenceWorkflow`, `ReferenceTool`: a workflow with its tools and expectation
* `ReferenceSession`: the variables of a session
* `runTool`, `agentTurn`: one tool call with its retry; one turn of the user
* `session`: the turns of a session
-/

namespace ObservabilityLab

open Python Raising

/-! ## Workflows -/

/-- One tool of a workflow, on the repository of the workflow. -/
structure ReferenceTool (World : Type) where
  name : String
  safe : Bool
  run : Record → Action World String

/-- One mutation that a repository records. -/
structure ReferenceMutation where
  resource : String
  resourceId : String
  field : String
  before : String
  after : String
  reasonCode : String

/-- The label of an observed transition. -/
def ReferenceMutation.transition (mutation : ReferenceMutation) : String :=
  if mutation.field = "created" then mutation.resource ++ ":created"
  else mutation.resource ++ ":" ++ mutation.before ++ "->" ++ mutation.after

/-- What one workflow case must produce, as a session reads it. -/
structure ReferenceExpectation where
  requiredTransitions : List String := []
  gateRequired : Bool := false
  protectedTools : List String := []

structure ReferenceWorkflow (World : Type) where
  workflowId : String
  mutations : World → List ReferenceMutation
  tools : List (ReferenceTool World)
  expectation : ReferenceExpectation

/-- One choice of the business model. -/
structure BusinessChoice where
  tool : Option String := none
  arguments : Record := []
  message : String
  ends : Bool := false
  messageBounded : lengthWithin 1 4000 message = true

/-- The labels of tool calls and of their results. -/
structure ToolProjector where
  project : (flowId tool : String) → Record → Raises String
  projectResult : (flowId tool result : String) → Raises String

/-! ## Sessions -/

inductive SimulatorEventKind where
  | toolSelected | toolResult | approval | retry
deriving DecidableEq

/-- One event of a session, with the fields that persist. -/
structure SimulatorEvent where
  kind : SimulatorEventKind
  text : String
  fields : Record

/-- A step that the approval gate is about: a turn starts, a tool is announced for approval, a tool
is run, or a tool is recorded as executed. -/
inductive GateStep where
  | turn (trusted : Bool)
  | announced (tool : String) (arguments : Record)
  | ran (tool : String) (arguments : Record)
  | executed (tool : String)

/-- The variables of `run_reference`, with the repository and the events, and the steps so far. -/
structure ReferenceSession (World : Type) where
  repository : World
  confirmed : Bool := false
  approvalPending : Bool := false
  pendingAction : Option (String × Record) := none
  executedTools : List String := []
  events : List SimulatorEvent := []
  steps : List GateStep := []

/-- The session before its first turn -/
def ReferenceSession.new {World : Type} (repository : World) : ReferenceSession World where
  repository := repository

/-- One turn of the user: whether it carries a trusted confirmation, and what the business model
answers in it. -/
structure ReferenceTurn where
  trustedConfirmation : Bool
  choices : ℕ → Raises BusinessChoice

section Session

variable {World : Type}

/-- Record a step of the session. -/
def takeStep (step : GateStep) : Action (ReferenceSession World) Unit :=
  modify fun session => { session with steps := session.steps ++ [step] }

/-- `emitter.emit`, with the source `reference` -/
def emitEvent (kind : SimulatorEventKind) (text : String) (fields : Record) :
    Action (ReferenceSession World) Unit :=
  modify fun session => { session with events := session.events ++ [⟨kind, text, fields⟩] }

/-- `type(exc).__name__`, of an exception that a retry handles -/
def transientName : PyError → String
  | .other name _ => name
  | _ => ""

/-- `tool.run(repository, arguments)` -/
def ReferenceTool.call (tool : ReferenceTool World) (arguments : Record) :
    Action (ReferenceSession World) String := do
  takeStep (.ran tool.name arguments)
  zoom (·.repository) (fun repository session => { session with repository := repository })
    (tool.run arguments)

namespace ReferenceWorkflow

variable (workflow : ReferenceWorkflow World) (projector : Option ToolProjector)

/-- `tool_map.get(name)`; of two tools with one name the later counts. -/
def tool? (name : String) : Option (ReferenceTool World) :=
  workflow.tools.reverse.find? (·.name = name)

theorem tool?_name {workflow : ReferenceWorkflow World} {name : String}
    {tool : ReferenceTool World} (h : workflow.tool? name = some tool) : tool.name = name := by
  have hname := List.find?_some h
  exact of_decide_eq_true hname

/-- `project_tool` -/
def projectTool (tool : String) (arguments : Record) : Raises String :=
  match projector with
  | some projector => projector.project workflow.workflowId tool arguments
  | none => .ok (tool ++ " (details hidden)")

/-- `project_result` -/
def projectResult (tool result : String) : Raises String :=
  match projector with
  | some projector => projector.projectResult workflow.workflowId tool result
  | none => .ok "(result details hidden)"

/-- `required_done` -/
def requiredDone (repository : World) : Bool :=
  workflow.expectation.requiredTransitions.all fun required =>
    required ∈ ((workflow.mutations repository).filter
      fun mutation => mutation.field ∈ ["created", "status"]).map (·.transition)

/-- The result of a call is reported. -/
def reportResult (label name result : String) : Action (ReferenceSession World) String := do
  let summary ← MonadExcept.ofExcept (workflow.projectResult projector name result)
  emitEvent .toolResult (label ++ " -> " ++ summary) [("tool", .str name), ("outcome", .str "ok")]
  return result

/-- The same call again, after an error of the first one. -/
def retryTool (tool : ReferenceTool World) (label : String) (arguments : Record) (error : PyError) :
    Action (ReferenceSession World) String := do
  emitEvent .retry (label ++ " " ++ transientName error ++ "; retrying the same call")
    [("tool", .str tool.name), ("attempts", .int 2)]
  match ← attempt (tool.call arguments) with
  | .ok result => workflow.reportResult projector label tool.name result
  | .error again =>
    -- the reported error is the first one
    if isTransient again then do
      emitEvent .toolResult (label ++ " failed (" ++ transientName error ++ ")")
        [("tool", .str tool.name), ("outcome", .str "error"),
          ("error", .str (transientName error))]
      return "Temporary tool failure: " ++ transientName error
    else throw again

/-- `run_tool` -/
def runTool (name : String) (arguments : Record) : Action (ReferenceSession World) String :=
  match workflow.tool? name with
  | none => throw (.other "KeyError" name)
  | some tool => do
    let label ← MonadExcept.ofExcept (workflow.projectTool projector tool.name arguments)
    emitEvent .toolSelected label [("tool", .str tool.name), ("outcome", .str "selected")]
    match ← attempt (tool.call arguments) with
    | .ok result => workflow.reportResult projector label tool.name result
    | .error error =>
      if isTransient error then workflow.retryTool projector tool label arguments error
      else throw error

/-- Run a tool, and record it as executed. -/
def executeTool (name : String) (arguments : Record) : Action (ReferenceSession World) Unit := do
  let _ ← workflow.runTool projector name arguments
  takeStep (.executed name)
  modify fun session => { session with executedTools := session.executedTools ++ [name] }

/-- The start of a turn: a trusted confirmation runs the pending action. -/
def confirmPending (trusted : Bool) : Action (ReferenceSession World) Unit := do
  let session ← get
  match session.pendingAction with
  | some (name, arguments) =>
    if trusted && session.approvalPending then do
      set { session with confirmed := true, approvalPending := false, pendingAction := none }
      workflow.executeTool projector name arguments
    else return ()
  | none => return ()

/-- `requires_confirmation` -/
def requiresConfirmation (name : String) (tool : ReferenceTool World) : Bool :=
  workflow.expectation.gateRequired &&
    (name ∈ workflow.expectation.protectedTools || !tool.safe)

/-- A sensitive tool is announced for approval. -/
def announce (name : String) (arguments : Record) :
    Action (ReferenceSession World) (Option String) := do
  takeStep (.announced name arguments)
  modify fun session =>
    { session with approvalPending := true, pendingAction := some (name, arguments) }
  emitEvent .approval ("approval required before " ++ name)
    [("tool", .str name), ("reason", .str "protected tool")]
  return some ("Approval is required before " ++ name ++
    ". Please provide explicit confirmation using the trusted confirmation action.")

/-- One choice of the business model: the answer that ends the turn, or none. -/
def choose (choice : BusinessChoice) : Action (ReferenceSession World) (Option String) := do
  let session ← get
  match choice.ends, choice.tool with
  | false, some name =>
    if name ∈ session.executedTools then do
      emitEvent .toolResult (name ++ " already succeeded; skipping repeat")
        [("tool", .str name), ("outcome", .str "skipped")]
      return none
    else
      match workflow.tool? name with
      | none => do
        emitEvent .toolResult (name ++ " is not an allowed tool")
          [("tool", .str name), ("outcome", .str "rejected")]
        return none
      | some tool =>
        if workflow.requiresConfirmation name tool && !session.confirmed then
          announce name choice.arguments
        else do
          workflow.executeTool projector name choice.arguments
          return none
  | _, _ =>
    if workflow.requiredDone session.repository &&
        (!workflow.expectation.gateRequired || session.confirmed) then
      return some choice.message
    else return none

/-- The loop over the choices of a turn. -/
def chooseTools : List (Raises BusinessChoice) → Action (ReferenceSession World) String
  | [] => return "The workflow is still in progress; continue with the next user turn."
  | choice :: choices => do
    let choice ← MonadExcept.ofExcept choice
    match ← workflow.choose projector choice with
    | some answer => return answer
    | none => chooseTools choices

/-- `agent_turn` -/
def agentTurn (turn : ReferenceTurn) : Action (ReferenceSession World) String := do
  takeStep (.turn turn.trustedConfirmation)
  workflow.confirmPending projector turn.trustedConfirmation
  workflow.chooseTools projector ((List.range 8).map turn.choices)

/-- The turns of a session; one that raises ends it. -/
def session (turns : List ReferenceTurn) : Action (ReferenceSession World) Unit :=
  forM turns fun turn => do
    let _ ← workflow.agentTurn projector turn

end ReferenceWorkflow

end Session

end ObservabilityLab
