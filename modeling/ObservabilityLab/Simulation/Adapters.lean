import ObservabilityLab.Simulation.Schemas

/-!
# Dependency adapters and fault scripts

The mutations that an environment reports, the coverage that adapters offer, the canonical form of
tool arguments, and the fault scripts that wrap a dependency boundary.
-/

namespace ObservabilityLab

open Python

/-- One accepted mutation of disposable state. -/
structure StateMutation where
  sequence : ℕ
  resource : String
  resourceId : String
  field : String
  before : PyValue
  after : PyValue
  reasonCode : String

inductive AdapterKind where
  | recorded | stateful
deriving DecidableEq

def AdapterKind.value : AdapterKind → String
  | recorded => "recorded"
  | stateful => "stateful"

/-- One dependency that a registry can simulate. -/
structure CoverageItem where
  dependency : String
  kind : AdapterKind
  tools : List String
  stateTransitions : List String

/-- Whether one requirement has a matching adapter. -/
def requirementIsCovered (requirement : DependencyCoverageRequirement)
    (items : List CoverageItem) : Bool :=
  items.any fun item =>
    item.dependency = requirement.dependency &&
    (requirement.kind = .either || item.kind.value = requirement.kind.value) &&
    (requirement.tools = [] || requirement.tools.all fun tool => tool ∈ item.tools)

section NormalizeArguments

variable [FloatRepr]

/-- The canonical text of one scalar argument; `none` fails closed. -/
def normalizeScalar : PyValue → Option String
  | .uuid u => some u.str
  | .bool b => some (if b then "true" else "false")
  | .none => some "null"
  | .int n => some (toString n)
  | .float x => some (FloatRepr.repr x)
  | .str s => some s
  | .list _ | .dict _ => none

/-- The canonical form of tool arguments: their names and texts, sorted by name. `none` is an
`UnsupportedArgumentsError`. -/
def normalizeArguments (arguments : List (String × PyValue)) : Option (List (String × String)) :=
  (arguments.mapM fun entry => (normalizeScalar entry.2).map fun text => (entry.1, text)).map
    (List.insertionSort fun a b => a.1 ≤ b.1)

end NormalizeArguments

/-! ## Fault scripts -/

inductive FaultKind where
  | timeout | transientError | delay | malformedResponse
deriving DecidableEq

def FaultKind.value : FaultKind → String
  | timeout => "timeout"
  | transientError => "transient_error"
  | delay => "delay"
  | malformedResponse => "malformed_response"

/-- One fault injection for one tool boundary; a delay value stands exactly with the delay kind. -/
structure FaultScriptEntry where
  kind : FaultKind
  tool : String
  arguments : List (String × PyValue) := []
  delayMs : Option ℕ := none
  repeats : Bool := false
  validDelay : (kind = .delay) = (delayMs.isSome = true)

structure FaultScript where
  schemaVersion : String := "1.0.0"
  scriptVersion : String
  dependency : String
  entries : List FaultScriptEntry := []

def FaultScriptEntry.dump (e : FaultScriptEntry) : PyValue :=
  .dict [("kind", .str e.kind.value), ("tool", .str e.tool),
    ("arguments", (PyValue.dict e.arguments).jsonMode),
    ("delay_ms", e.delayMs.elim .none fun n => .int n), ("repeat", .bool e.repeats)]

def FaultScript.dump (s : FaultScript) : PyValue :=
  .dict [("schema_version", .str s.schemaVersion), ("script_version", .str s.scriptVersion),
    ("dependency", .str s.dependency), ("entries", .list (s.entries.map FaultScriptEntry.dump))]

end ObservabilityLab
