import ObservabilityLab.Simulation.Provisioner
import ObservabilityLab.Simulation.Stateful

/-!
# The calls of the sandbox

The sandbox runs the real support services on an isolated database. A call checks that it has
exactly the arguments of its tool, and answers a refusal of the services with its error code.

## Main definitions

* `PostgresSupportSandbox`: the fields of the sandbox; `seed` and `call` are its operations
* `PostgresSupportSandbox.At`: the rows, the log and the proposals of a sandbox

## Main results

* `run_call_ok`, `run_call_refused`: what a seeded sandbox answers, from what its service does
* `getOrderStatus_returns`, `getPolicy_returns`, `proposeRefund_returns`, `confirmRefund_returns`,
  `escalate_returns`: what the service of a sandbox does
* `getPolicy_unanswered`, `escalate_unanswered`: text that the database cannot store is not answered
-/

namespace ObservabilityLab

open Python Raising

/-- The error code of an `AgentError` or a `SupportError`, which a call answers instead of
raising. -/
def refusalCode (error : PyError) : Option String :=
  if error = orderNotFound then some "order_not_found"
  else if error = forbidden then some "forbidden"
  else if error = invalidTransition then some "invalid_transition"
  else if error = policyNotFound then some "policy_not_found"
  else if error = refundNotConfirmed then some "refund_not_confirmed"
  else none

/-- `proposal.model_dump(mode="json")` -/
def RefundProposal.dump (proposal : RefundProposal) : PyValue :=
  .dict [("proposal_id", .str proposal.proposalId.str), ("order_id", .str proposal.orderId.str),
    ("customer_id", .str proposal.customerId.str), ("amount", .str proposal.amount.str),
    ("policy_version", .str proposal.policyVersion)]

/-! ## Arguments -/

section Arguments

variable [UnicodeTables] [FloatRepr]

/-- `_require_exact_arguments(tool, arguments, allowed, optional=optional)` -/
def requireExactArguments (tool : String) (arguments : Record) (allowed : List String)
    (optional : List String := []) : Raises Unit :=
  raiseIf (arguments.any (·.1 ∉ allowed) ||
      (allowed.filter (· ∉ optional)).any fun name => (arguments.lookup name).isNone)
    (unsupportedArguments supportDatabase tool arguments)

/-- `_uuid_argument(tool, arguments, name)` -/
def uuidArgument (tool : String) (arguments : Record) (name : String) : Raises Uuid :=
  match (arguments.lookup name).bind fun value => Uuid.parse value.toText with
  | some id => .ok id
  | none => .error (unsupportedArguments supportDatabase tool arguments)

/-- `_required_string_argument(tool, arguments, name)` -/
def requiredStringArgument (tool : String) (arguments : Record) (name : String) : Raises String :=
  match arguments.lookup name with
  | some (.str text) =>
    if text = "" then .error (unsupportedArguments supportDatabase tool arguments) else .ok text
  | _ => .error (unsupportedArguments supportDatabase tool arguments)

/-- `_optional_string_argument(tool, arguments, name)` -/
def optionalStringArgument (tool : String) (arguments : Record) (name : String) :
    Raises (Option String) :=
  match arguments.lookup name with
  | none => .ok none
  | some .none => .ok none
  | some (.str text) =>
    if text = "" then .error (unsupportedArguments supportDatabase tool arguments)
    else .ok (some text)
  | some _ => .error (unsupportedArguments supportDatabase tool arguments)

/-- The arguments of a call, checked and read for its tool. -/
def sandboxToolCall (tool : String) (arguments : Record) : Raises ToolCall :=
  if tool = "get_order_status" then do
    requireExactArguments tool arguments ["order_id"]
    return .getOrderStatus (← uuidArgument tool arguments "order_id")
  else if tool = "get_policy" then do
    requireExactArguments tool arguments ["slug"] ["slug"]
    return .getPolicy ((← optionalStringArgument tool arguments "slug").getD policySlug)
  else if tool = "propose_refund" then do
    requireExactArguments tool arguments ["order_id", "reason"]
    let orderId ← uuidArgument tool arguments "order_id"
    -- the service stores the reason in no field that a later call reads
    let _ ← requiredStringArgument tool arguments "reason"
    return .proposeRefund orderId
  else if tool = "confirm_refund" then do
    requireExactArguments tool arguments ["order_id"]
    return .confirmRefund (← uuidArgument tool arguments "order_id")
  else do
    requireExactArguments tool arguments ["subject"]
    return .escalate (← requiredStringArgument tool arguments "subject")

end Arguments

/-! ## The sandbox -/

/-- The fields of the sandbox. -/
structure PostgresSupportSandbox where
  /-- The requesting customer of the scenario, and whether the request confirms a refund. -/
  customerId : Uuid
  refundConfirmed : Bool
  /-- The identifiers that `uuid4()` draws for proposals. -/
  proposalIds : ℕ → Uuid
  initial : Option SimulationState := none
  agentService : Option (SupportAgentService (Observed SupportSession)) := none
  /-- The session with its observer, and the mutable fields of the service. -/
  turn : Turn (Observed SupportSession) := { world := { inner := .begin .empty } }

namespace PostgresSupportSandbox

def onTurn {α : Type} (x : Action (Turn (Observed SupportSession)) α) :
    Action PostgresSupportSandbox α :=
  zoom PostgresSupportSandbox.turn (fun turn sandbox => { sandbox with turn := turn }) x

variable [RandomIds] [Collation]

/-- The service that a seed creates. -/
def newService (sandbox : PostgresSupportSandbox) :
    SupportAgentService (Observed SupportSession) where
  repository := observedRepository sqlAlchemySupportRepository
  customerId := sandbox.customerId
  refundConfirmed := sandbox.refundConfirmed
  proposalIds := sandbox.proposalIds

/-- `_replace_database_state(state)` -/
def replaceDatabaseState (state : SimulationState) : Action PostgresSupportSandbox Unit := do
  let _ ← onTurn (onWorld (Observed.onInner openTables))
  match seedTables (← get).customerId state with
  | .error e => onTurn (onWorld (Observed.onInner (refuse e)))
  | .ok tables =>
    onTurn (onWorld (Observed.onInner (setTables tables)))
    modify fun sandbox =>
      { sandbox with
        turn := { world := { inner := sandbox.turn.world.inner } }
        agentService := some sandbox.newService }

/-- `seed(state)` -/
def seed (state : SimulationState) : Action PostgresSupportSandbox Unit := do
  modify ({ · with initial := some state })
  replaceDatabaseState state

/-- `_success(result)`, with the dump of the result -/
def success (payload : PyValue) : Action (Turn (Observed SupportSession)) DependencyCallResult :=
  return { ok := true, payload := payload, mutations := (← get).world.log.mutations }

/-- What the service does for a checked call. -/
def perform (service : SupportAgentService (Observed SupportSession)) :
    ToolCall → Action (Turn (Observed SupportSession)) DependencyCallResult
  | .getOrderStatus orderId => do success (← service.getOrderStatus orderId).dump
  | .getPolicy slug => do success (← service.getPolicy slug).dump
  | .proposeRefund orderId => do success (← service.proposeRefund orderId).dump
  | .confirmRefund orderId => do success (← service.confirmRefund orderId).dump
  | .escalate subject => do success (← service.escalate subject).dump

variable [UnicodeTables] [FloatRepr]

/-- `call(tool, arguments)` -/
def call (tool : String) (arguments : Record) :
    Action PostgresSupportSandbox DependencyCallResult := do
  if tool ∉ supportToolNames then throw (unsupportedTool supportDatabase tool)
  match (← get).agentService with
  | none =>
    throw (unsupportedState supportDatabase "no scenario state was seeded before the first call")
  | some service =>
    let body : Action (Turn (Observed SupportSession)) DependencyCallResult := do
      perform service (← MonadExcept.ofExcept (sandboxToolCall tool arguments))
    match ← attempt (onTurn body) with
    | .ok result => return result
    | .error e =>
      match refusalCode e with
      | some errorCode => return refusedCall errorCode
      | none => throw e

end PostgresSupportSandbox

/-! ## What the services do on an open session -/

section Services

variable [RandomIds] [Collation] {rows begun : SupportTables} {log : MutationLog}

/-- The observed session of a sandbox whose transaction is open. -/
def openSession (rows begun : SupportTables) (log : MutationLog) : Observed SupportSession where
  inner := ⟨rows, begun, false⟩
  log := log

/-- The observer passes reads of orders on. -/
theorem run_getOrder_observed (orderId : Uuid) :
    ((observedRepository sqlAlchemySupportRepository).getOrder orderId).run
      (openSession rows begun log) = .ok (rows.order? orderId) (openSession rows begun log) :=
  rfl

theorem run_getOrder_missing {orderId : Uuid} (actorId : Uuid)
    (horder : rows.order? orderId = none) :
    (getOrder (observedRepository sqlAlchemySupportRepository) orderId actorId).run
      (openSession rows begun log) = .error orderNotFound (openSession rows begun log) := by
  unfold getOrder
  rw [EStateM.run_bind, run_getOrder_observed, horder]
  rfl

theorem run_getOrder_foreign {orderId actorId : Uuid} {order : OrderRead}
    (horder : rows.order? orderId = some order) (hforeign : order.customerId ≠ actorId) :
    (getOrder (observedRepository sqlAlchemySupportRepository) orderId actorId).run
      (openSession rows begun log) = .error forbidden (openSession rows begun log) := by
  unfold getOrder
  rw [EStateM.run_bind, run_getOrder_observed, horder]
  dsimp only
  rw [if_pos hforeign]
  rfl

theorem run_getOrder_owned {orderId actorId : Uuid} {order : OrderRead}
    (horder : rows.order? orderId = some order) (howner : order.customerId = actorId) :
    (getOrder (observedRepository sqlAlchemySupportRepository) orderId actorId).run
      (openSession rows begun log) = .ok order (openSession rows begun log) := by
  unfold getOrder
  rw [EStateM.run_bind, run_getOrder_observed, horder]
  dsimp only
  rw [if_neg (not_not.mpr howner)]
  rfl

/-- The log after the refund of an order. -/
def MutationLog.refund (log : MutationLog) (order : OrderRead) : MutationLog :=
  log.record "order" order.id "status" (.str order.status.value) (.str OrderStatus.refunded.value)
    "refund_executed"

/-- The log after the creation of a ticket. -/
def MutationLog.create (log : MutationLog) (ticket : TicketRead) : MutationLog :=
  log.record "ticket" ticket.id "created" .none ticket.dump "ticket_created"

theorem run_requestRefund {orderId actorId : Uuid} {order : OrderRead}
    (horder : rows.order? orderId = some order) (howner : order.customerId = actorId)
    (hdelivered : order.status = .delivered) :
    (requestRefund (observedRepository sqlAlchemySupportRepository) ⟨actorId, orderId⟩).run
        (openSession rows begun log) =
      .ok order.refund (openSession (rows.withRefund orderId actorId) begun
        (log.refund order)) := by
  have hmatch : refundable orderId actorId order = true :=
    refundable_iff.mpr ⟨SupportTables.id_of_order? horder, howner, hdelivered⟩
  have hrefunded : (rows.orders.find? (refundable orderId actorId)).map OrderRead.refund =
      some order.refund := by
    rw [rows.find?_refundable, SupportTables.refunded?, horder, Option.bind_some, if_pos hmatch]
  have hchanged : order.status ≠ order.refund.status := by
    rw [hdelivered]
    exact fun h => by cases h
  have hrow : ((observedRepository sqlAlchemySupportRepository).refundOrderIfDelivered orderId
      actorId).run (openSession rows begun log) = .ok (some order.refund)
        (openSession (rows.withRefund orderId actorId) begun (log.refund order)) := by
    change EStateM.run (do
      recordOrder Observed.updateLog (rows.order? orderId)
        ((rows.orders.find? (refundable orderId actorId)).map OrderRead.refund)
      return (rows.orders.find? (refundable orderId actorId)).map OrderRead.refund)
        (openSession (rows.withRefund orderId actorId) begun log) = _
    rw [horder, hrefunded, recordOrder, if_pos hchanged]
    rfl
  unfold requestRefund
  rw [EStateM.run_bind, run_getOrder_owned horder howner]
  dsimp only
  rw [if_neg (not_not.mpr (by rw [hdelivered]; exact List.mem_singleton_self _)), EStateM.run_bind,
    hrow]
  rfl

theorem run_createTicket_observed {subject : String} {actorId : Uuid}
    (hsubject : lengthWithin 1 300 subject = true) (hstorable : isStorableText subject = true)
    (hcustomer : actorId ∈ rows.customers) :
    ∃ ticket : TicketRead, ticket.subject = subject ∧ ticket.orderId = none ∧
      ticket.status = .open ∧
      (createTicket (observedRepository sqlAlchemySupportRepository)
        { actorId := actorId, subject := subject, validSubject := hsubject }).run
          (openSession rows begun log) =
        .ok ticket (openSession (rows.withTicket ticket) begun (log.create ticket)) := by
  refine ⟨ticketRow rows
    { customerId := actorId, orderId := none, subject := subject, validSubject := hsubject },
    rfl, rfl, rfl, ?_⟩
  change EStateM.run (Observed.onInner (sqlAlchemySupportRepository.createTicket
    { customerId := actorId, orderId := none, subject := subject, validSubject := hsubject }) >>=
      fun created => _) (openSession rows begun log) = _
  rw [EStateM.run_bind, Observed.onInner, run_zoom, openSession,
    run_createTicket hstorable hcustomer rfl]
  rfl

omit [RandomIds] in
/-- The policies of a slug have a newest version as soon as there is one. -/
theorem isSome_newestPolicy (policies : List PolicyDocumentRead) :
    (newestPolicy policies).isSome = !policies.isEmpty := by
  cases policies with
  | nil => rfl
  | cons policy policies =>
    unfold newestPolicy
    cases newestPolicy policies with
    | none => rfl
    | some newest =>
      dsimp only
      split
      · rfl
      · rfl

theorem run_getLatestPolicy {slug : String} (hslug : isStorableText slug = true) :
    (getLatestPolicy (observedRepository sqlAlchemySupportRepository) slug).run
        (openSession rows begun log) =
      match newestPolicy (rows.policies.filter (·.slug = slug)) with
      | none => .error policyNotFound (openSession rows begun log)
      | some policy => .ok policy (openSession rows begun log) := by
  have hquery : isStorableQuery slug none = true := (isStorableQuery_latest slug).trans hslug
  have hread : ((observedRepository sqlAlchemySupportRepository).getPolicy slug none).run
      (openSession rows begun log) =
        .ok (newestPolicy (rows.policies.filter (·.slug = slug))) (openSession rows begun log) := by
    change EStateM.run (Observed.onInner (sqlAlchemySupportRepository.getPolicy slug none)) _ = _
    rw [Observed.onInner, run_zoom, openSession, run_getPolicy hquery]
  unfold getLatestPolicy
  rw [EStateM.run_bind, hread]
  dsimp only
  cases newestPolicy (rows.policies.filter (·.slug = slug)) with
  | none => rfl
  | some policy => rfl

end Services

/-! ## What the service of a sandbox does -/

section Answers

variable {World α : Type} {world world' : World} {proposed : Uuid → Bool} {x : Action World α}
  {a : α} {error : PyError} {Q : α → Turn World → Prop} {E : PyError → Turn World → Prop}

/-- The world of a turn, and the orders with a pending proposal. -/
def ServiceAt (world : World) (proposed : Uuid → Bool) (turn : Turn World) : Prop :=
  turn.world = world ∧ ∀ id, (turn.service.pendingProposals id).isSome = proposed id

theorem serviceAt_stable : Stable (ServiceAt world proposed) := fun _ _ _ h => h

theorem onWorld_ok (h : x.run world = .ok a world') :
    Triple (ServiceAt world proposed) (onWorld x)
      (fun b turn => b = a ∧ ServiceAt world' proposed turn) E := by
  refine triple_zoom ?_
  rintro turn ⟨rfl, hproposed⟩
  exact triple_of_run_ok h ⟨rfl, rfl, hproposed⟩

theorem onWorld_error (h : x.run world = .error error world') :
    Triple (ServiceAt world proposed) (onWorld x) Q
      fun e turn => e = error ∧ ServiceAt world' proposed turn := by
  refine triple_zoom ?_
  rintro turn ⟨rfl, hproposed⟩
  exact triple_of_run_error h ⟨rfl, rfl, hproposed⟩

theorem databaseCall_ok (h : x.run world = .ok a world') :
    Triple (ServiceAt world proposed) (SupportAgentService.databaseCall x)
      (fun b turn => b = a ∧ ServiceAt world' proposed turn) fun _ _ => False :=
  span_triple serviceAt_stable (fun _ _ _ _ h => h) (fun _ _ _ _ h => h) (onWorld_ok h)

theorem databaseCall_error (h : x.run world = .error error world') :
    Triple (ServiceAt world proposed) (SupportAgentService.databaseCall x) (fun _ _ => False)
      fun e turn => e = error ∧ ServiceAt world' proposed turn :=
  span_triple serviceAt_stable (fun _ _ _ _ h => h) (fun _ _ _ _ h => h) (onWorld_error h)

/-- A change of the service that keeps its proposals. -/
theorem updateService_keeps {f : ServiceState → ServiceState}
    (hf : ∀ state, (f state).pendingProposals = state.pendingProposals) :
    Triple (ServiceAt world proposed) (updateService f) (fun _ => ServiceAt world proposed) E := by
  refine triple_modify ?_
  rintro turn ⟨hworld, hproposed⟩
  refine ⟨hworld, fun id => ?_⟩
  rw [hf]
  exact hproposed id

namespace SupportAgentService

variable {service : SupportAgentService World} {orderId : Uuid} {order : OrderRead}

/-- The read of an order that the services return. -/
theorem getOrderStatus_returns
    (h : (getOrder service.repository orderId service.customerId).run world = .ok order world') :
    Triple (ServiceAt world proposed) (service.getOrderStatus orderId)
      (fun read turn => read = order ∧ ServiceAt world' proposed turn) fun _ _ => False := by
  refine triple_bind (databaseCall_ok h) fun read => ?_
  refine triple_of_eq ?_
  rintro turn ⟨rfl, hat⟩
  refine triple_bind (triple_mono (updateService_keeps fun _ => rfl) (by rintro _ rfl; exact hat)
    (fun _ _ h => h) fun _ _ h => h) fun _ => ?_
  exact triple_pure fun _ h => ⟨rfl, h⟩

theorem getOrderStatus_raises
    (h : (getOrder service.repository orderId service.customerId).run world = .error error world') :
    Triple (ServiceAt world proposed) (service.getOrderStatus orderId) (fun _ _ => False)
      fun e turn => e = error ∧ ServiceAt world' proposed turn :=
  triple_bind (databaseCall_error h) fun _ => triple_false

theorem getPolicy_returns {slug : String} {policy : PolicyDocumentRead}
    (h : (getLatestPolicy service.repository slug).run world = .ok policy world') :
    Triple (ServiceAt world proposed) (service.getPolicy slug)
      (fun _ => ServiceAt world' proposed) fun _ _ => False := by
  refine span_triple serviceAt_stable (fun _ => serviceAt_stable) (fun _ _ _ _ h => h) ?_
  refine triple_bind (databaseCall_ok h) fun read => ?_
  refine triple_bind (triple_mono (setAttribute_triple serviceAt_stable) (fun _ h => h.2)
    (fun _ _ h => h) fun _ _ h => h) fun _ => ?_
  exact triple_bind (updateService_keeps fun _ => rfl) fun _ => triple_pure fun _ h => h

theorem getPolicy_raises {slug : String}
    (h : (getLatestPolicy service.repository slug).run world = .error error world') :
    Triple (ServiceAt world proposed) (service.getPolicy slug) (fun _ _ => False)
      fun e turn => e = error ∧ ServiceAt world' proposed turn :=
  span_triple serviceAt_stable (fun _ _ _ _ h => h) (fun _ _ _ _ h => h)
    (triple_bind (databaseCall_error h) fun _ => triple_false)

/-- A proposal that fails keeps the proposals. -/
theorem proposeRefund_of_eligible_raises
    (h : Triple (ServiceAt world proposed) (service.proposeEligible orderId) (fun _ _ => False)
      fun e turn => e = error ∧ ServiceAt world' proposed turn) :
    Triple (ServiceAt world proposed) (service.proposeRefund orderId) (fun _ _ => False)
      fun e turn => e = error ∧ ServiceAt world' proposed turn := by
  refine triple_attempt_bind h (fun _ => triple_false) fun e => ?_
  refine triple_of_eq ?_
  rintro turn ⟨rfl, hat⟩
  refine triple_bind (triple_mono (updateService_keeps fun _ => rfl) (by rintro _ rfl; exact hat)
    (fun _ _ h => h) fun _ _ h => h) fun _ => ?_
  exact triple_throw fun _ h => ⟨rfl, h⟩

theorem proposeRefund_raises
    (h : (getOrder service.repository orderId service.customerId).run world = .error error world') :
    Triple (ServiceAt world proposed) (service.proposeRefund orderId) (fun _ _ => False)
      fun e turn => e = error ∧ ServiceAt world' proposed turn :=
  proposeRefund_of_eligible_raises (triple_bind (getOrderStatus_raises h) fun _ => triple_false)

theorem proposeRefund_ineligible
    (h : (getOrder service.repository orderId service.customerId).run world = .ok order world')
    (hstatus : order.status ≠ .delivered) :
    Triple (ServiceAt world proposed) (service.proposeRefund orderId) (fun _ _ => False)
      fun e turn => e = invalidTransition ∧ ServiceAt world' proposed turn := by
  refine proposeRefund_of_eligible_raises ?_
  refine triple_bind (triple_mono (getOrderStatus_returns h) (fun _ h => h) (fun _ _ h => h)
    fun _ _ h => h.elim) fun read => ?_
  refine triple_of_eq ?_
  rintro turn ⟨rfl, hat⟩
  have hineligible : read.status ∉ refundableOrderStatuses := fun hmem =>
    hstatus (List.mem_singleton.mp hmem)
  rw [if_pos hineligible]
  refine triple_bind (triple_mono (span_pure_triple serviceAt_stable) (by rintro _ rfl; exact hat)
    (fun _ _ h => h) fun _ _ h => h) fun _ => ?_
  refine triple_bind (updateService_keeps fun _ => rfl) fun _ => ?_
  exact triple_throw fun _ h => ⟨rfl, h⟩

theorem proposeRefund_returns
    (h : (getOrder service.repository orderId service.customerId).run world = .ok order world')
    (hdelivered : order.status = .delivered) :
    Triple (ServiceAt world proposed) (service.proposeRefund orderId)
      (fun _ => ServiceAt world' (Function.update proposed order.id true)) fun _ _ => False := by
  refine triple_attempt_bind (Q := fun _ =>
    ServiceAt world' (Function.update proposed order.id true)) ?_
    (fun _ => triple_pure fun _ h => h) fun _ => triple_false
  refine triple_bind (getOrderStatus_returns h) fun read => ?_
  refine triple_of_eq ?_
  rintro turn ⟨rfl, hat⟩
  have heligible : read.status ∈ refundableOrderStatuses := List.mem_singleton.mpr hdelivered
  rw [if_neg (not_not.mpr heligible)]
  refine triple_bind (triple_mono (span_pure_triple serviceAt_stable) (by rintro _ rfl; exact hat)
    (fun _ _ h => h) fun _ _ h => h) fun _ => ?_
  refine triple_bind (Q := fun _ => ServiceAt world' proposed) (triple_get fun _ h => h)
    fun before => ?_
  refine triple_bind (Q := fun _ => ServiceAt world' (Function.update proposed read.id true))
    (triple_modify ?_) fun _ => ?_
  · rintro turn ⟨hworld, hproposed⟩
    refine ⟨hworld, fun id => ?_⟩
    by_cases hid : id = read.id
    · subst hid
      simp
    · simpa [hid] using hproposed id
  · refine triple_bind (span_pure_triple serviceAt_stable) fun _ => ?_
    exact triple_bind (updateService_keeps fun _ => rfl) fun _ => triple_pure fun _ h => h

/-- A confirmation without a proposal, or without the flag, changes nothing. -/
theorem confirmRefund_refused (h : ¬ (proposed orderId = true ∧ service.refundConfirmed = true)) :
    Triple (ServiceAt world proposed) (service.confirmRefund orderId) (fun _ _ => False)
      fun e turn => e = refundNotConfirmed ∧ ServiceAt world proposed turn := by
  refine triple_bind (Q := fun read turn => read = turn ∧ ServiceAt world proposed turn)
    (triple_get fun _ h => ⟨rfl, h⟩) fun read => ?_
  refine triple_of_eq ?_
  rintro turn ⟨rfl, hat⟩
  have hguard :
      ((read.service.pendingProposals orderId).isNone || !service.refundConfirmed) = true := by
    rw [← Option.not_isSome, hat.2 orderId]
    simpa [imp_iff_not_or] using h
  rw [if_pos hguard]
  refine triple_bind (triple_mono (span_pure_triple serviceAt_stable) (by rintro _ rfl; exact hat)
    (fun _ _ h => h) fun _ _ h => h) fun _ => ?_
  refine triple_bind (updateService_keeps fun _ => rfl) fun _ => ?_
  exact triple_throw fun _ h => ⟨rfl, h⟩

theorem confirmRefund_returns (hproposed : proposed orderId = true)
    (hconfirmed : service.refundConfirmed = true)
    (h : (requestRefund service.repository ⟨service.customerId, orderId⟩).run world =
      .ok order world') :
    Triple (ServiceAt world proposed) (service.confirmRefund orderId)
      (fun _ => ServiceAt world' (Function.update proposed orderId false)) fun _ _ => False := by
  refine triple_bind (Q := fun read turn => read = turn ∧ ServiceAt world proposed turn)
    (triple_get fun _ h => ⟨rfl, h⟩) fun read => ?_
  refine triple_of_eq ?_
  rintro turn ⟨rfl, hat⟩
  have hguard :
      ¬ ((read.service.pendingProposals orderId).isNone || !service.refundConfirmed) = true := by
    rw [← Option.not_isSome, hat.2 orderId, hproposed, hconfirmed]
    decide
  rw [if_neg hguard]
  refine triple_bind (triple_mono (span_triple serviceAt_stable (fun _ _ _ _ h => h)
    (fun _ _ _ _ h => h) (databaseCall_ok h)) (by rintro _ rfl; exact hat) (fun _ _ h => h)
    fun _ _ h => h) fun refunded => ?_
  refine triple_bind (Q := fun _ => ServiceAt world' (Function.update proposed orderId false))
    (triple_modify ?_) fun _ => triple_pure fun _ h => h
  rintro turn ⟨-, hworld, hpending⟩
  refine ⟨hworld, fun id => ?_⟩
  rw [ServiceState.pendingProposals_confirmed, Function.update_apply]
  split
  · rfl
  · exact hpending id

theorem escalate_returns {subject : String} (hsubject : lengthWithin 1 300 subject = true)
    {ticket : TicketRead}
    (h : (createTicket service.repository
      { actorId := service.customerId, subject := subject, validSubject := hsubject }).run world =
        .ok ticket world') :
    Triple (ServiceAt world proposed) (service.escalate subject)
      (fun _ => ServiceAt world' proposed) fun _ _ => False := by
  refine span_triple serviceAt_stable (fun _ => serviceAt_stable) (fun _ _ _ _ h => h) ?_
  rw [CreateTicketCommand.new, dif_pos hsubject]
  refine triple_bind (Q := fun command turn =>
    command = { actorId := service.customerId, subject := subject, validSubject := hsubject } ∧
      ServiceAt world proposed turn) (triple_pure fun _ h => ⟨rfl, h⟩) fun command => ?_
  refine triple_of_eq ?_
  rintro turn ⟨rfl, hat⟩
  refine triple_bind (triple_mono (onWorld_ok h) (by rintro _ rfl; exact hat) (fun _ _ h => h)
    fun _ _ h => h) fun created => ?_
  refine triple_bind (triple_mono (updateService_keeps fun _ => rfl) (fun _ h => h.2)
    (fun _ _ h => h) fun _ _ h => h) fun _ => ?_
  exact triple_pure fun _ h => h

end SupportAgentService

end Answers

/-! ### Text that the database cannot store -/

section RefusedText

variable [RandomIds] [Collation] {service : SupportAgentService (Observed SupportSession)}

omit [RandomIds] [Collation] in
/-- A session refuses a statement with such text, or every statement. No call answers the error. -/
theorem refusalCode_of_unstorable {statement : SupportTables → Action SupportSession α}
    (h : ∀ tables, statement tables = refuse invalidText) :
    Triple (fun _ => True) (openTables >>= statement) (fun _ _ => False)
      fun e _ => refusalCode e = none := by
  refine triple_bind (triple_mono openTables_triple (fun _ h => h) (fun _ _ h => h) ?_)
    fun tables => ?_
  · rintro e session ⟨rfl, -⟩
    decide +kernel
  · rw [h]
    refine triple_bind (Q := fun _ _ => True) (triple_modify fun _ _ => trivial) fun _ => ?_
    exact triple_throw fun _ _ => by decide +kernel

theorem getPolicy_unanswered {slug : String} (hslug : isStorableText slug = false)
    (hrepository : service.repository = observedRepository sqlAlchemySupportRepository) :
    Triple (fun _ => True) (service.getPolicy slug) (fun _ _ => False)
      fun e _ => refusalCode e = none := by
  have hquery : isStorableQuery slug none = false := (isStorableQuery_latest slug).trans hslug
  have hread : Triple (fun _ => True)
      ((observedRepository sqlAlchemySupportRepository).getPolicy slug none) (fun _ _ => False)
      fun e _ => refusalCode e = none :=
    triple_zoom fun _ _ => triple_mono
      (refusalCode_of_unstorable fun _ => if_pos (Bool.eq_false_iff.mp hquery))
      (fun _ _ => trivial) (fun _ _ h => h) fun _ _ h => h
  refine span_triple (fun _ _ _ h => h) (fun _ _ _ _ h => h) (fun _ _ _ _ h => h) ?_
  refine triple_bind (Q := fun _ _ => False) ?_ fun _ => triple_false
  refine span_triple (fun _ _ _ h => h) (fun _ _ _ _ h => h) (fun _ _ _ _ h => h) ?_
  rw [hrepository]
  refine triple_zoom fun _ _ => ?_
  exact triple_mono (triple_bind hread fun _ => triple_false) (fun _ _ => trivial)
    (fun _ _ h => h) fun _ _ h => h

theorem escalate_unanswered {subject : String}
    (hsubject : ¬ (lengthWithin 1 300 subject = true ∧ isStorableText subject = true))
    (hrepository : service.repository = observedRepository sqlAlchemySupportRepository) :
    Triple (fun _ => True) (service.escalate subject) (fun _ _ => False)
      fun e _ => refusalCode e = none := by
  refine span_triple (fun _ _ _ h => h) (fun _ _ _ _ h => h) (fun _ _ _ _ h => h) ?_
  by_cases hlength : lengthWithin 1 300 subject = true
  · have hstorable : ¬ isStorableText subject = true := fun h => hsubject ⟨hlength, h⟩
    have hcreate : Triple (fun _ => True) (createTicket service.repository
        { actorId := service.customerId, subject := subject, validSubject := hlength })
        (fun _ _ => False) fun e _ => refusalCode e = none := by
      rw [hrepository]
      refine triple_bind (Q := fun _ _ => False) ?_ fun _ => triple_false
      exact triple_zoom fun _ _ => triple_mono
        (refusalCode_of_unstorable fun _ => if_pos hstorable) (fun _ _ => trivial)
        (fun _ _ h => h) fun _ _ h => h
    rw [CreateTicketCommand.new, dif_pos hlength]
    refine triple_bind (Q := fun command _ => command =
      { actorId := service.customerId, subject := subject, validSubject := hlength })
      (triple_pure fun _ _ => rfl) fun command => ?_
    refine triple_of_eq ?_
    rintro turn rfl
    refine triple_bind (Q := fun _ _ => False) ?_ fun _ => triple_false
    exact triple_zoom fun _ _ => triple_mono hcreate (fun _ _ => trivial) (fun _ _ h => h)
      fun _ _ h => h
  · rw [CreateTicketCommand.new, dif_neg hlength]
    exact triple_bind (triple_throw fun _ _ => by decide +kernel) fun _ => triple_false

end RefusedText

/-! ## What a call answers -/

namespace PostgresSupportSandbox

variable [RandomIds] [Collation] {sandbox : PostgresSupportSandbox}
  {world world' : Observed SupportSession} {proposed proposed' : Uuid → Bool}

/-- The seeded service of a sandbox, its session and its pending proposals. -/
structure At (sandbox : PostgresSupportSandbox) (world : Observed SupportSession)
    (proposed : Uuid → Bool) : Prop where
  service : sandbox.agentService = some sandbox.newService
  turn : ServiceAt world proposed sandbox.turn

/-- A seeded sandbox. -/
theorem at_seed {state : SimulationState} {rows : SupportTables}
    (hrows : seedTables sandbox.customerId state = .ok rows)
    (hopen : sandbox.turn.world.inner.needsRollback = false) :
    ∃ after, (seed state).run sandbox = .ok () after ∧ after.newService = sandbox.newService ∧
      after.At (openSession rows sandbox.turn.world.inner.begun {}) fun _ => false := by
  obtain ⟨customerId, confirmed, ids, initial, service, ⟨⟨⟨tables, begun, rollback⟩, log⟩, state',
    retries, telemetry⟩⟩ := sandbox
  cases hopen
  let seeded : PostgresSupportSandbox :=
    { customerId := customerId
      refundConfirmed := confirmed
      proposalIds := ids
      initial := some state
      turn := { world := openSession rows begun {} } }
  refine ⟨{ seeded with agentService := some seeded.newService }, ?_, rfl, rfl, rfl, fun _ => rfl⟩
  unfold seed replaceDatabaseState
  change EStateM.run (match seedTables customerId state with
    | .error e => _
    | .ok tables => _) _ = _
  rw [hrows]
  rfl

/-- A state whose tables cannot be seeded is refused. -/
theorem seed_fails {state : SimulationState} {e : PyError} {after : PostgresSupportSandbox}
    (hrows : seedTables sandbox.customerId state = .error e)
    (hopen : sandbox.turn.world.inner.needsRollback = false) :
    (seed state).run sandbox ≠ .ok () after := by
  intro hseed
  obtain ⟨customerId, confirmed, ids, initial, service, ⟨⟨⟨tables, begun, rollback⟩, log⟩, state',
    retries, telemetry⟩⟩ := sandbox
  cases hopen
  unfold seed replaceDatabaseState at hseed
  change EStateM.run (match seedTables customerId state with
    | .error e => _
    | .ok tables => _) _ = _ at hseed
  rw [hrows] at hseed
  cases hseed

omit [RandomIds] [Collation] in
/-- A result of the service that is a success. -/
theorem success_triple {α : Type} {x : Action (Turn (Observed SupportSession)) α}
    (dump : α → PyValue)
    (h : Triple (ServiceAt world proposed) x (fun _ => ServiceAt world' proposed')
      fun _ _ => False) :
    Triple (ServiceAt world proposed) (x >>= fun a => success (dump a))
      (fun result turn => result.ok = true ∧ result.errorCode = none ∧
        ServiceAt world' proposed' turn) fun _ _ => False := by
  refine triple_bind h fun a => ?_
  refine triple_bind (Q := fun _ => ServiceAt world' proposed') (triple_get fun _ h => h)
    fun read => ?_
  exact triple_pure fun _ h => ⟨rfl, rfl, h⟩

omit [RandomIds] [Collation] in
/-- A refusal of the service. -/
theorem refused_triple {α : Type} {x : Action (Turn (Observed SupportSession)) α} {error : PyError}
    (dump : α → PyValue)
    (h : Triple (ServiceAt world proposed) x (fun _ _ => False)
      fun e turn => e = error ∧ ServiceAt world' proposed turn) :
    Triple (ServiceAt world proposed) (x >>= fun a => success (dump a)) (fun _ _ => False)
      fun e turn => e = error ∧ ServiceAt world' proposed turn :=
  triple_bind h fun _ => triple_false

variable [UnicodeTables] [FloatRepr] {tool : String} {arguments : Record} {toolCall : ToolCall}

theorem run_call_seeded (htool : tool ∈ supportToolNames)
    (hservice : sandbox.agentService = some sandbox.newService)
    (hread : sandboxToolCall tool arguments = .ok toolCall) :
    (call tool arguments).run sandbox =
      (attempt (onTurn (perform sandbox.newService toolCall)) >>= fun result =>
        match result with
        | .ok result => pure result
        | .error e =>
          match refusalCode e with
          | some errorCode => pure (refusedCall errorCode)
          | none => throw e).run sandbox := by
  unfold call
  rw [if_neg (not_not.mpr htool)]
  change EStateM.run (match sandbox.agentService with
    | none => _
    | some service => _) sandbox = _
  rw [hservice, hread]
  rfl

/-- A call whose service succeeds. -/
theorem run_call_ok (htool : tool ∈ supportToolNames) (hat : sandbox.At world proposed)
    (hread : sandboxToolCall tool arguments = .ok toolCall)
    (hperform : Triple (ServiceAt world proposed) (perform sandbox.newService toolCall)
      (fun result turn => result.ok = true ∧ result.errorCode = none ∧
        ServiceAt world' proposed' turn) fun _ _ => False) :
    ∃ result after, (call tool arguments).run sandbox = .ok result after ∧ result.ok = true ∧
      result.errorCode = none ∧ after.newService = sandbox.newService ∧
      after.At world' proposed' := by
  rw [run_call_seeded htool hat.service hread, EStateM.run_bind, run_attempt, onTurn, run_zoom]
  cases hrun : (perform sandbox.newService toolCall).run sandbox.turn with
  | ok result turn =>
    obtain ⟨hok, hcode, hturn⟩ := hperform.ok hat.turn hrun
    exact ⟨result, _, rfl, hok, hcode, rfl, hat.service, hturn⟩
  | error e turn => exact (hperform.error hat.turn hrun).elim

/-- A call whose service refuses. -/
theorem run_call_refused {error : PyError} {errorCode : String} (htool : tool ∈ supportToolNames)
    (hat : sandbox.At world proposed) (hread : sandboxToolCall tool arguments = .ok toolCall)
    (hcode : refusalCode error = some errorCode)
    (hperform : Triple (ServiceAt world proposed) (perform sandbox.newService toolCall)
      (fun _ _ => False) fun e turn => e = error ∧ ServiceAt world' proposed turn) :
    ∃ after, (call tool arguments).run sandbox = .ok (refusedCall errorCode) after ∧
      after.newService = sandbox.newService ∧ after.At world' proposed := by
  rw [run_call_seeded htool hat.service hread, EStateM.run_bind, run_attempt, onTurn, run_zoom]
  cases hrun : (perform sandbox.newService toolCall).run sandbox.turn with
  | ok result turn => exact (hperform.ok hat.turn hrun).elim
  | error e turn =>
    obtain ⟨rfl, hturn⟩ := hperform.error hat.turn hrun
    dsimp only
    rw [hcode]
    exact ⟨_, rfl, rfl, hat.service, hturn⟩

end PostgresSupportSandbox

end ObservabilityLab
