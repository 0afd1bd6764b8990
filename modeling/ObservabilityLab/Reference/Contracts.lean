import ObservabilityLab.Simulation.Adapters

/-!
# Reference workflows

A reference workflow is a small agentic system outside the support example: a disposable repository,
tools that act on it, a plan of tool calls, and an observer that judges the state that is left. The
code of a workflow is a computation on the states of its repository that may raise.

## Main definitions

* `ReferenceTool`, `ReferenceRepository`: the tools and the state container of a workflow
* `ReferencePlan`, `ReferenceExpectation`: the planned calls, and what a case must produce
* `ReferenceObservation`: what the observer derived, with bounded texts
* `ReferenceWorkflow`, `ReferenceWorkflow.toolByName`: the workflow, and its tools by name
-/

namespace ObservabilityLab.Reference

open Python

/-- One tool of a workflow whose repository has the states `σ`. -/
structure ReferenceTool (σ : Type) where
  name : String
  safe : Bool
  run : Record → EStateM PyError σ String

/-- The disposable state container of a workflow. -/
structure ReferenceRepository (σ : Type) where
  seed : PyValue → EStateM PyError σ Unit
  snapshot : EStateM PyError σ PyValue
  mutations : EStateM PyError σ (List Record)
  reset : EStateM PyError σ Unit
  destroy : EStateM PyError σ Unit

/-- What one workflow case must produce. -/
structure ReferenceExpectation where
  outcome : String
  reasonCodes : List String
  permittedTransitions : List String := []
  requiredTransitions : List String := []
  gateRequired : Bool := false
  protectedTools : List String := []

/-- One planned tool call. -/
structure ReferenceToolCall where
  tool : String
  arguments : Record := []

/-- The planned calls of one side, and whether the approval gate was verified. -/
structure ReferencePlan where
  toolCalls : List ReferenceToolCall := []
  gateVerified : Bool := false

/-- What the observer of a workflow derived from the evidence. -/
structure ReferenceObservation where
  outcome : String
  reasonCode : String
  businessOutcome : String
  metrics : Record := []
  outcomeLength : lengthWithin 1 100 outcome = true
  reasonLength : lengthWithin 1 100 reasonCode = true
  businessLength : lengthWithin 1 200 businessOutcome = true

/-- One approved workflow in the harness. -/
structure ReferenceWorkflow (σ : Type) where
  workflowId : String
  seedState : PyValue
  repository : ReferenceRepository σ
  tools : List (ReferenceTool σ)
  expectation : ReferenceExpectation
  observer : PyValue → List Record → Raises ReferenceObservation
  faultScript : Option FaultScript := none

/-- `_tool_by_name(workflow, name)` -/
def ReferenceWorkflow.toolByName {σ : Type} (workflow : ReferenceWorkflow σ) (name : String) :
    Option (ReferenceTool σ) :=
  workflow.tools.find? (·.name = name)

end ObservabilityLab.Reference
