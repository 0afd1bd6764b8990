import ObservabilityLab.Simulation.RunBundle

/-!
# The sandbox of a run

The reference environment is one transaction on temporary support tables. Seeding fills them with
the approved state and registers its customers and the customer of the request; destroying rolls the
transaction back.

## Main definitions

* `seedTables`: the rows that a seed makes, when no constraint rejects it
* `postgresSandboxProvisioner`: the environment
* `supportAgents`: the reference agent, with what its hosted model does

## Main results

* `connectSandbox_eq_ok`: the repository of a sandbox is the one behind its fault script
* `openEnvironment_sandbox`: an opened sandbox has the rows of its seed, and knows the customer of
  its request
-/

namespace ObservabilityLab

open Python Raising

/-! ## Seeding -/

/-- The customers that a seed registers. -/
def seededCustomers (customerId : Uuid) (state : SimulationState) : List Uuid :=
  customerId :: state.orders.map (·.customerId) ++ state.tickets.map (·.customerId)

/-- The constraints of the tables besides the primary key of the orders. -/
def validRows (state : SimulationState) : Bool :=
  (state.tickets.map (·.id)).Nodup &&
    state.tickets.all (fun ticket => ticket.orderId.all (· ∈ state.orders.map (·.id))) &&
    (state.policies.map (·.id)).Nodup &&
    (state.policies.map fun policy => (policy.slug, policy.version)).Nodup

/-- The rows have text that the database can store. -/
def storableRows (state : SimulationState) : Bool :=
  state.tickets.all (fun ticket => isStorableText ticket.subject) &&
    state.policies.all fun policy =>
      [policy.slug, policy.version, policy.title, policy.content, policy.contentHash].all
        isStorableText

/-- The rows that a seed makes, or why the database refuses them. -/
def seedTables (customerId : Uuid) (state : SimulationState) : Raises SupportTables :=
  if ¬ storableRows state then .error invalidText
  else if hunique : (state.orders.map (·.id)).Nodup then
    if validRows state then
      .ok {
        customers := seededCustomers customerId state
        orders := state.orders
        tickets := state.tickets
        policies := state.policies
        ordersUnique := hunique
        ordersOwned := fun _ hmem => List.mem_append_left _
          (List.mem_cons_of_mem _ (List.mem_map_of_mem hmem)) }
    else .error (integrityError "a seeded row violates a constraint")
  else .error (integrityError "orders_pkey")

/-- Tables without rows. -/
def SupportTables.empty : SupportTables where
  orders := []
  ordersUnique := List.nodup_nil
  ordersOwned _ hmem := absurd hmem List.not_mem_nil

/-- Tables with one customer, and no other row. -/
def SupportTables.ofCustomer (customerId : Uuid) : SupportTables where
  customers := [customerId]
  orders := []
  ordersUnique := List.nodup_nil
  ordersOwned _ hmem := absurd hmem List.not_mem_nil

/-! ## The environment -/

section Provisioner

variable [UnicodeTables] [FloatRepr] [RandomIds] [Collation]

/-- The session of a sandbox. -/
def onSession {α : Type} (x : Action SupportSession α) : Action Sandbox α :=
  Faulted.onInner (Observed.onInner x)

/-- The repository that a sandbox hands to its agent; only a script with entries wraps it. -/
def connectSandbox (faultScript : Option FaultScript) :
    Raises (SupportRepository (Action Sandbox)) :=
  match faultScript with
  | none => .ok ((observedRepository sqlAlchemySupportRepository).map Faulted.onInner)
  | some script =>
    if script.entries.isEmpty then
      .ok ((observedRepository sqlAlchemySupportRepository).map Faulted.onInner)
    else if script.dependency ≠ ownedDatabase then
      .error (environmentRunError ("fault script targets dependency " ++
        reprText script.dependency ++ ", but this environment is " ++ reprText ownedDatabase ++
        "; a fault script may only wrap the boundary that receives it"))
    else .ok (sandboxRepository script)

/-- The state of the tables, as the session reads it. -/
def capturedState : Action SupportSession SimulationState := do
  let tables ← openTables
  return { orders := tables.orders, tickets := tables.tickets, policies := tables.policies }

/-- One transaction on temporary support tables. -/
def postgresSandboxProvisioner (request : EnvironmentRequest) : Provisioner Sandbox where
  coverage :=
    { dependency := ownedDatabase
      kind := .stateful
      tools := ["get_order_status", "get_policy", "propose_refund", "confirm_refund", "escalate"]
      stateTransitions := ["order:delivered->refunded", "ticket:created"] }
  create := set (Sandbox.begin .empty)
  seed state := do
    let tables ← MonadExcept.ofExcept (seedTables request.scenario.request.customerId state)
    onSession (setTables tables)
    modify fun sandbox => { sandbox with inner := { sandbox.inner with log := {} } }
  connect := MonadExcept.ofExcept (connectSandbox request.faultScript)
  finalState := onSession capturedState
  mutations := return (← get).mutations
  destroy := onSession (modify fun session => .begin session.begun)

end Provisioner

/-! ## An opened sandbox -/

section Opened

/-- The fault script of a sandbox; no script is one without entries. -/
def sandboxScript (faultScript : Option FaultScript) : FaultScript :=
  faultScript.getD { scriptVersion := "1", dependency := ownedDatabase }

variable [UnicodeTables] [FloatRepr]

/-- A script without entries leaves every call as it is. -/
theorem maybeFault_eq_pure {World : Type} {script : FaultScript} (h : script.entries = [])
    (tool : String) (arguments : List (String × PyValue)) :
    maybeFault script tool arguments = (pure () : Action (Faulted World) Unit) := by
  have hnext : ∀ consumed, script.nextEntry consumed tool arguments = none := by
    intro consumed
    rw [FaultScript.nextEntry, h]
    rfl
  funext world
  simp only [maybeFault, FaultScript.consume, FaultScript.nextError, hnext]
  rfl

theorem faultInjectingRepository_of_no_entries {World : Type} {script : FaultScript}
    (h : script.entries = []) (repository : SupportRepository (Action World)) :
    faultInjectingRepository script repository = repository.map Faulted.onInner := by
  unfold faultInjectingRepository SupportRepository.map
  simp only [maybeFault_eq_pure h, pure_bind]

variable [RandomIds] [Collation]

/-- A connected sandbox hands out its repository behind its fault script. -/
theorem connectSandbox_eq_ok {faultScript : Option FaultScript}
    {repository : SupportRepository (Action Sandbox)}
    (h : connectSandbox faultScript = .ok repository) :
    repository = sandboxRepository (sandboxScript faultScript) := by
  unfold connectSandbox at h
  cases faultScript with
  | none =>
    rw [← Except.ok.inj h]
    exact (faultInjectingRepository_of_no_entries rfl _).symm
  | some script =>
    dsimp only at h
    split at h
    · rename_i hempty
      rw [← Except.ok.inj h]
      exact (faultInjectingRepository_of_no_entries (List.isEmpty_iff.mp hempty) _).symm
    · split at h
      · cases h
      · exact (Except.ok.inj h).symm

/-- The world of a seeded sandbox. -/
def Sandbox.seeded (tables : SupportTables) : Sandbox := ⟨⟨⟨tables, .empty, false⟩, {}⟩, []⟩

theorem run_seed (request : EnvironmentRequest) (state : SimulationState) :
    ((postgresSandboxProvisioner request).seed state).run (Sandbox.begin .empty) =
      match seedTables request.scenario.request.customerId state with
      | .ok tables => .ok () (.seeded tables)
      | .error e => .error e (Sandbox.begin .empty) := by
  simp only [postgresSandboxProvisioner]
  cases seedTables request.scenario.request.customerId state with
  | ok tables => rfl
  | error e => rfl

omit [UnicodeTables] [FloatRepr] [RandomIds] [Collation] in
theorem customers_of_seedTables {customerId : Uuid} {state : SimulationState}
    {tables : SupportTables} (h : seedTables customerId state = .ok tables) :
    tables.customers = seededCustomers customerId state := by
  unfold seedTables at h
  split_ifs at h
  rw [← Except.ok.inj h]

omit [UnicodeTables] [FloatRepr] [RandomIds] [Collation] in
/-- A seeded sandbox knows the customer of its request. -/
theorem serving_of_seedTables {customerId : Uuid} {state : SimulationState}
    {tables : SupportTables} (h : seedTables customerId state = .ok tables) :
    (Sandbox.seeded tables).inner.inner.Serving customerId := by
  refine ⟨rfl, ?_⟩
  change customerId ∈ tables.customers
  rw [customers_of_seedTables h]
  exact List.mem_append_left _ List.mem_cons_self

variable [HashFunctions] [ValidationTexts]

omit [RandomIds] [Collation] in
/-- A prepared run reconstructed its scenario, and built its environment from it. -/
theorem prepareRun_eq_ok {World : Type}
    {factory : EnvironmentRequest → Raises (Provisioner World)} {bundle : SimulationBundle}
    {prepared : Prepared World} (h : prepareRun factory bundle = .ok prepared) :
    scenarioFromBundle bundle = .ok prepared.scenario ∧
      factory ⟨prepared.scenario, bundle.faultScript⟩ = .ok prepared.provisioner := by
  unfold prepareRun at h
  split at h
  · cases hscenario : scenarioFromBundle bundle with
    | error e =>
      rw [hscenario] at h
      cases e with
      | validation model detail => cases h
      | value message => cases h
      | domain code message status => cases h
      | other name message => cases h
    | ok scenario =>
      rw [hscenario] at h
      replace h := check_bind_eq_ok.mp h
      obtain ⟨provisioner, hprovisioner, hrest⟩ := bind_eq_ok.mp (check_bind_eq_ok.mp h.2).2
      rw [check_bind_eq_ok, check_bind_eq_ok] at hrest
      rw [← Except.ok.inj hrest.2.2]
      exact ⟨rfl, hprovisioner⟩
  · cases h

omit [RandomIds] [Collation] [ValidationTexts] in
/-- A reconstructed scenario has the request of its bundle. -/
theorem request_of_scenarioFromBundle {bundle : SimulationBundle} {scenario : SimulationScenario}
    (h : scenarioFromBundle bundle = .ok scenario) :
    scenario.request = bundle.scenario.request.toSupportRequest := by
  simp only [scenarioFromBundle, BundleRequest.new_eq_ok] at h
  replace h : (stateFromBundle bundle >>= _) = Except.ok scenario := h
  obtain ⟨state, -, h⟩ := bind_eq_ok.mp h
  rw [SimulationScenario.new, check_bind_eq_ok, check_bind_eq_ok] at h
  obtain ⟨-, -, h⟩ := h
  split_ifs at h
  rw [← Except.ok.inj h]

omit [UnicodeTables] [FloatRepr] [RandomIds] [Collation] [HashFunctions] [ValidationTexts] in
/-- The steps of an environment that open it. -/
theorem openEnvironment_eq_ok {World : Type} {prepared : Prepared World}
    {run opened : Running World} {repository : SupportRepository (Action World)}
    (h : (openEnvironment prepared).run run = .ok repository opened) :
    ∃ created seeded, prepared.provisioner.create.run run.world = .ok () created ∧
      (prepared.provisioner.seed prepared.scenario.initialState).run created = .ok () seeded ∧
      prepared.provisioner.connect.run seeded = .ok repository opened.world := by
  simp only [openEnvironment, run_bind_eq_ok, runStep_eq_ok] at h
  obtain ⟨_, _, ⟨created, hcreate, rfl⟩, _, _, ⟨seeded, hseed, rfl⟩, connected, hconnect, rfl⟩ := h
  exact ⟨created, seeded, hcreate, hseed, hconnect⟩

/-- **An opened sandbox** hands out its repository behind the fault script of the bundle, and has
the rows of its seed. -/
theorem openEnvironment_sandbox {bundle : SimulationBundle} {prepared : Prepared Sandbox}
    {world : Sandbox} {repository : SupportRepository (Action Sandbox)} {opened : Running Sandbox}
    (hprepared : prepareRun (fun request => .ok (postgresSandboxProvisioner request)) bundle =
      .ok prepared)
    (hopened : (openEnvironment prepared).run { world := world } = .ok repository opened) :
    repository = sandboxRepository (sandboxScript bundle.faultScript) ∧
      ∃ tables, seedTables bundle.scenario.request.customerId prepared.scenario.initialState =
        .ok tables ∧ opened.world = .seeded tables := by
  obtain ⟨hscenario, hprovisioner⟩ := prepareRun_eq_ok hprepared
  obtain ⟨created, seeded, hcreate, hseed, hconnect⟩ := openEnvironment_eq_ok hopened
  rw [← Except.ok.inj hprovisioner] at hcreate hseed hconnect
  have hcreated : Sandbox.begin .empty = created := (EStateM.Result.ok.inj hcreate).2
  rw [← hcreated, run_seed, request_of_scenarioFromBundle hscenario] at hseed
  change EStateM.run (MonadExcept.ofExcept (connectSandbox bundle.faultScript)) seeded = _
    at hconnect
  cases hconnected : connectSandbox bundle.faultScript with
  | error e =>
    rw [hconnected] at hconnect
    cases hconnect
  | ok connected =>
    rw [hconnected] at hconnect
    rw [← (EStateM.Result.ok.inj hconnect).1]
    refine ⟨connectSandbox_eq_ok hconnected, ?_⟩
    cases htables :
      seedTables bundle.scenario.request.customerId prepared.scenario.initialState with
    | error e =>
      simp only [BundleRequest.toSupportRequest, htables] at hseed
      cases hseed
    | ok tables =>
      simp only [BundleRequest.toSupportRequest, htables] at hseed
      exact ⟨tables, rfl, ((EStateM.Result.ok.inj hconnect).2.symm.trans
        (EStateM.Result.ok.inj hseed).2.symm)⟩

omit [HashFunctions] [ValidationTexts] in
/-- A sandbox that is captured has a session that takes statements. -/
theorem open_of_finalState {request : EnvironmentRequest} {sandbox captured : Sandbox}
    {state : SimulationState}
    (h : (postgresSandboxProvisioner request).finalState.run sandbox = .ok state captured) :
    sandbox.inner.inner.needsRollback = false := by
  obtain ⟨⟨⟨tables, begun, needsRollback⟩, log⟩, consumed⟩ := sandbox
  cases needsRollback with
  | false => rfl
  | true => cases h

omit [HashFunctions] [ValidationTexts] in
/-- A sandbox whose session takes statements is captured as it is, and destroyed. -/
theorem run_closing (request : EnvironmentRequest) {sandbox : Sandbox}
    (h : sandbox.inner.inner.needsRollback = false) :
    (postgresSandboxProvisioner request).finalState.run sandbox =
        .ok { orders := sandbox.tables.orders, tickets := sandbox.tables.tickets,
              policies := sandbox.tables.policies } sandbox ∧
      (postgresSandboxProvisioner request).mutations.run sandbox = .ok sandbox.mutations sandbox ∧
      ∃ closed, (postgresSandboxProvisioner request).destroy.run sandbox = .ok () closed := by
  obtain ⟨⟨⟨tables, begun, needsRollback⟩, log⟩, consumed⟩ := sandbox
  cases h
  exact ⟨rfl, rfl, _, rfl⟩

end Opened

/-! ## The reference agent -/

section Agents

variable {World : Type}

/-- The reference agent of a repository. -/
def supportAgent (toolsOverride : Option (List String)) (proposalIds : ℕ → Uuid)
    (repository : SupportRepository (Action World)) (version : String) :
    PydanticAISupportAgent World where
  repository := repository
  answerInstructionsVersion := version
  toolsOverride := toolsOverride
  proposalIds := proposalIds

/-- The reference agent, with what its hosted model does in its turn. -/
def supportAgents (toolsOverride : Option (List String)) (proposalIds : ℕ → Uuid)
    (script : TurnScript) : AgentFactory World := fun repository version =>
  .ok fun request =>
    (supportAgent toolsOverride proposalIds repository version).handle request script

end Agents

end ObservabilityLab
