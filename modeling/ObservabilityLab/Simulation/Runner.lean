import ObservabilityLab.Comparison.Evaluators

/-!
# Simulation runs

The transcript of one run, as far as the comparisons read it, and the reconstruction of the
starting conditions from a bundle.

## Main definitions

* `RunVerdict`, `SimulationRun`: one normalized run
* `RunBundle`: the effect that runs a bundle
* `stateFromBundle`: the disposable state that the seeds describe
* `scenarioFromBundle`: the runnable scenario of a bundle
-/

namespace ObservabilityLab

open Python

inductive RunVerdict where
  | reproduced | accepted | failed | unexpectedAccess | missingCoverage
deriving DecidableEq

def RunVerdict.value : RunVerdict → String
  | reproduced => "reproduced"
  | accepted => "accepted"
  | failed => "failed"
  | unexpectedAccess => "unexpected_access"
  | missingCoverage => "missing_coverage"

/-- One normalized run. -/
structure SimulationRun where
  bundleId : Uuid
  bundleContentHash : HexDigest
  scenarioId : String
  verdict : RunVerdict
  response : Option SupportResponse := none
  mutations : List StateMutation := []
  evaluators : EvaluatorReport := {}
  totalLatencyMs : Option PyFloat := none
  totalTokens : ℕ := 0
  costUsd : Option PyFloat := none
  retries : ℕ := 0
  toolCalls : List String := []

/-- The configuration of a hosted model. -/
structure ModelConfig where
  provider : String
  name : String
  baseUrl : Option String := none
  apiKey : Option String := none

/-- What `run_bundle` is called with, besides the bundle. -/
structure RunOptions where
  modelConfig : ModelConfig
  answerInstructions : Option String := none
  answerInstructionsVersion : Option String := none

/-- `run_bundle`: a run of a bundle is an effect on the outside world. -/
abbrev RunBundle (World : Type) := RunOptions → SimulationBundle → StateT World Raises SimulationRun

section Reconstruction

variable [UnicodeTables] [FloatRepr]

/-- `str(record[key])` -/
def textField (record : Record) (key : String) : Raises String :=
  match record.lookup key with
  | some value => .ok value.toText
  | none => .error (.other "KeyError" (reprText key))

omit [UnicodeTables] [FloatRepr] in
/-- `UUID(text)` -/
def parseUuid (text : String) : Raises Uuid :=
  match Uuid.parse text with
  | some id => .ok id
  | none => .error (.value "badly formed hexadecimal UUID string")

def uuidField (record : Record) (key : String) : Raises Uuid :=
  textField record key >>= parseUuid

theorem textField_str {record : Record} {key text : String}
    (h : record.lookup key = some (.str text)) : textField record key = .ok text := by
  rw [textField, h]
  rfl

theorem uuidField_str {record : Record} {key : String} {id : Uuid}
    (h : record.lookup key = some (.str id.str)) : uuidField record key = .ok id := by
  rw [uuidField, textField_str h, bind_eq_ok]
  exact ⟨id.str, rfl, by rw [parseUuid, Uuid.parse_str]⟩

/-- `OrderStatus(text)` -/
def parseOrderStatus (text : String) : Raises OrderStatus :=
  match OrderStatus.ofValue text with
  | some status => .ok status
  | none => .error (.value (reprText text ++ " is not a valid OrderStatus"))

/-- `TicketStatus(text)` -/
def parseTicketStatus (text : String) : Raises TicketStatus :=
  match TicketStatus.ofValue text with
  | some status => .ok status
  | none => .error (.value (reprText text ++ " is not a valid TicketStatus"))

omit [UnicodeTables] [FloatRepr] in
/-- `Decimal(text)` -/
def parseDecimal (text : String) : Raises Decimal :=
  match Decimal.parse text with
  | some amount => .ok amount
  | none => .error (.other "InvalidOperation" "[<class 'decimal.ConversionSyntax'>]")

def readOrder (record : Record) : Raises OrderRead := do
  let id ← uuidField record "id"
  let customerId ← uuidField record "customer_id"
  let status ← textField record "status" >>= parseOrderStatus
  let totalAmount ← textField record "total_amount" >>= parseDecimal
  OrderRead.new id customerId status totalAmount

/-- `UUID(str(record["order_id"])) if record.get("order_id") else None` -/
def readOrderId (record : Record) : Raises (Option Uuid) :=
  match record.lookup "order_id" with
  | none => .ok none
  | some value => if value.truthy then some <$> parseUuid value.toText else .ok none

def readTicket (record : Record) : Raises TicketRead := do
  let id ← uuidField record "id"
  let customerId ← uuidField record "customer_id"
  let orderId ← readOrderId record
  let subject ← textField record "subject"
  let status ← textField record "status" >>= parseTicketStatus
  TicketRead.new id customerId orderId subject status

def readPolicy (record : Record) : Raises PolicyDocumentRead := do
  let id ← uuidField record "id"
  let slug ← textField record "slug"
  let version ← textField record "version"
  let title ← textField record "title"
  let content ← textField record "content"
  let contentHash ← textField record "content_hash"
  .ok { id, slug, version, title, content, contentHash }

/-- Reconstruct the synthetic disposable state from the seeds. -/
def stateFromBundle (bundle : SimulationBundle) : Raises SimulationState := do
  let resources := resourcesByType bundle
  let orders ← ((resources.lookup "order").getD []).mapM readOrder
  let tickets ← ((resources.lookup "ticket").getD []).mapM readTicket
  let policies ← ((resources.lookup "policy").getD []).mapM readPolicy
  .ok { orders, tickets, policies }

/-- Reconstruct the runnable scenario from one bundle. -/
def scenarioFromBundle [HashFunctions] (bundle : SimulationBundle) :
    Raises SimulationScenario := do
  let scenario := bundle.scenario
  let request ← SupportRequest.new scenario.request.customerId scenario.request.message
    scenario.request.refundConfirmed
  let state ← stateFromBundle bundle
  SimulationScenario.new scenario.sourceSchemaVersion scenario.scenarioId
    ("Simulated " ++ scenario.scenarioId) scenario.category request scenario.workflowContext state
    scenario.eligibleActions bundle.expectedBehavior scenario.requiredDependencyCoverage

end Reconstruction

end ObservabilityLab
