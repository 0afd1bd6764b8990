import ObservabilityLab.Bundle.Schemas

/-!
# Extraction of seeds and fixtures

The records that a bundle carries for the owned systems, with every identifier replaced by its
synthetic value, and the checks on recorded fixtures.

## Main definitions

* `syntheticId`: the stable synthetic value of an identifier
* `customerRecords`, `orderRecords`, `ticketRecords`, `policyRecords`: the records of each resource
* `extractResourceSeeds`, `extractDependencyFixtures`

## Main results

* `extractResourceSeeds_eq_ok`: the seeds of an accepted extraction
-/

namespace ObservabilityLab

open Python

section Records

variable [HashFunctions]

def syntheticNamespace : Uuid :=
  (Uuid.parse "9d4e5f6a-7b8c-4d1e-9f2a-3b4c5d6e7f80").get (by decide +kernel)

/-- The stable synthetic value of one identifier. -/
def syntheticId (original : Uuid) : Uuid :=
  HashFunctions.uuid5 syntheticNamespace ("synth:" ++ original.str)

/-- `str(synthetic_id(customer_id))[:8]` -/
def syntheticPrefix (customerId : Uuid) : String :=
  String.ofList ((syntheticId customerId).str.toList.take 8)

/-- The customers that orders or tickets reference, sorted by their text. -/
def referencedCustomers (state : SimulationState) : List Uuid :=
  ((state.orders.map (·.customerId) ++ state.tickets.map (·.customerId)).dedup).insertionSort
    fun a b => a.str ≤ b.str

def customerRecords (state : SimulationState) : List Record :=
  (referencedCustomers state).map fun customerId =>
    [("id", .str (syntheticId customerId).str),
      ("name", .str ("customer-" ++ syntheticPrefix customerId)),
      ("email", .str ("customer-" ++ syntheticPrefix customerId ++ "@example.invalid"))]

def orderRecord (order : OrderRead) : Record :=
  [("id", .str (syntheticId order.id).str),
    ("customer_id", .str (syntheticId order.customerId).str),
    ("status", .str order.status.value),
    ("total_amount", .str order.totalAmount.str)]

def ticketRecord (ticket : TicketRead) : Record :=
  [("id", .str (syntheticId ticket.id).str),
    ("customer_id", .str (syntheticId ticket.customerId).str),
    ("order_id", .ofOption (ticket.orderId.map fun id => (syntheticId id).str)),
    ("subject", .str ticket.subject),
    ("status", .str ticket.status.value)]

def policyRecord (policy : PolicyDocumentRead) : Record :=
  [("id", .str (syntheticId policy.id).str), ("slug", .str policy.slug),
    ("version", .str policy.version), ("title", .str policy.title),
    ("content", .str policy.content), ("content_hash", .str policy.contentHash)]

def orderRecords (state : SimulationState) : List Record := state.orders.map orderRecord

def ticketRecords (state : SimulationState) : List Record := state.tickets.map ticketRecord

def policyRecords (state : SimulationState) : List Record := state.policies.map policyRecord

/-- The extractors, in their order. -/
def extractedRecords (state : SimulationState) : List (String × List Record) :=
  [("customer", customerRecords state), ("order", orderRecords state),
    ("ticket", ticketRecords state), ("policy", policyRecords state)]

/-- The seed of one resource. -/
def seedOf (entry : String × List Record) : EnvironmentResourceSeed where
  resource := entry.1
  adapterName := "support.database"
  adapterVersion := "4.0.0"
  records := entry.2

/-- The seeds of one state: one for each resource that has records. -/
def stateSeeds (state : SimulationState) : List EnvironmentResourceSeed :=
  ((extractedRecords state).filter (·.2 ≠ [])).map seedOf

end Records

section Extraction

variable [UnicodeTables] [FloatRepr] [HashFunctions]

/-- Extract the owned-system seeds of one scenario state. -/
def extractResourceSeeds (state : SimulationState) : Raises (List EnvironmentResourceSeed) :=
  ((extractedRecords state).filter (·.2 ≠ [])).mapM fun entry => do
    let seed ← EnvironmentResourceSeed.new (seedOf entry)
    forM entry.2 fun record => validateResourceSeed entry.1 record []
    .ok seed

/-- The seeds of an accepted extraction are the seeds of the state. -/
theorem extractResourceSeeds_eq_ok {state : SimulationState}
    {seeds : List EnvironmentResourceSeed} (h : extractResourceSeeds state = .ok seeds) :
    stateSeeds state = seeds := by
  refine mapM_eq_ok_map ?_ h
  intro entry seed hseed
  obtain ⟨built, hbuilt, hrest⟩ := bind_eq_ok.mp hseed
  rw [check_bind_eq_ok] at hrest
  simp only [EnvironmentResourceSeed.new, check_bind_eq_ok] at hbuilt
  obtain ⟨-, -, -, -, hnew⟩ := hbuilt
  rw [← Except.ok.inj hrest.2, ← Except.ok.inj hnew]

end Extraction

/-- The default redaction decisions for one seed set. -/
def redactionFields : String → List String
  | "customer" => ["customer.id", "customer.name", "customer.email"]
  | "order" => ["order.id", "order.customer_id"]
  | "ticket" => ["ticket.id", "ticket.customer_id", "ticket.order_id"]
  | "policy" => ["policy.id"]
  | _ => []

def redactionDecisionsForSeeds (seeds : List EnvironmentResourceSeed) :
    List RedactionDecision :=
  seeds.flatMap fun seed => (redactionFields seed.resource).map fun field =>
    ⟨field, "Replaced with a stable synthetic value to preserve relationships"⟩

section Fixtures

variable [UnicodeTables] [FloatRepr]

/-- One recorded fixture: a declared recorded dependency, a declared tool, scalar arguments. -/
def checkFixture (scenario : SimulationScenario) (fixture : DependencyFixture) : Raises Unit :=
  match scenario.requiredDependencyCoverage.find? (·.dependency = fixture.dependency) with
  | none =>
    .error (invalidBundleFixtureError ("dependency " ++ reprText fixture.dependency ++
      " is not declared by scenario " ++ reprText scenario.scenarioId))
  | some requirement => do
    raiseIf (requirement.kind ≠ .recorded)
      (invalidBundleFixtureError ("dependency " ++ reprText fixture.dependency ++ " is " ++
        reprText requirement.kind.value ++
        ", not recorded; owned-system state must use an ephemeral resource seed"))
    raiseIf (requirement.tools ≠ [] && fixture.tool ∉ requirement.tools)
      (invalidBundleFixtureError ("fixture tool " ++ reprText fixture.tool ++
        " is not in the declared tools " ++ reprTupleText (requirement.tools.map reprText) ++
        " for dependency " ++ reprText fixture.dependency))
    raiseIf (normalizeArguments fixture.arguments).isNone
      (invalidBundleFixtureError ("fixture arguments for " ++ reprText fixture.dependency ++
        " are not scalar"))

/-- Validate the recorded fixtures of one scenario. The declared dependencies are distinct, so that
looking one up is a search of the requirements. -/
def extractDependencyFixtures (scenario : SimulationScenario)
    (fixtures : List DependencyFixture) : Raises (List DependencyFixture) := do
  forM (scenario.requiredDependencyCoverage.filter (·.kind = .recorded)) fun requirement =>
    raiseIf (!fixtures.any (·.dependency = requirement.dependency))
      (invalidBundleFixtureError ("recorded dependency " ++ reprText requirement.dependency ++
        " of scenario " ++ reprText scenario.scenarioId ++ " has no recorded fixture; " ++
        "a recorded dependency must carry at least one response"))
  forM fixtures (checkFixture scenario)
  .ok fixtures

theorem extractDependencyFixtures_eq_ok {scenario : SimulationScenario}
    {fixtures extracted : List DependencyFixture}
    (h : extractDependencyFixtures scenario fixtures = .ok extracted) : fixtures = extracted := by
  rw [extractDependencyFixtures, check_bind_eq_ok, check_bind_eq_ok] at h
  exact Except.ok.inj h.2.2

end Fixtures

end ObservabilityLab
