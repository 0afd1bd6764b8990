import ObservabilityLab.Simulation.Postgres
import ObservabilityLab.Agent.Service

/-!
# The in-memory adapter

The fast substitute of the support database for unit tests. Orders, tickets, proposals and the log
of mutations live in memory; seeding and resetting replace them.

## Main definitions

* `StatefulSupportAdapter`: the fields of the adapter; `seed`, `reset` and `call` are its operations
* `AdapterOperation`, `adapterRun`: the adapter after a sequence of operations
* `AdapterMove`: what one operation can do
* `AdapterFaithful`: the log tells the history of the orders
* `Reconfirms`: a confirmation of an order that was already refunded

## Main results

* `consistent_adapterRun`: the fields agree with each other, whatever the operations
* `adapterFaithful_iff`: the log stays faithful exactly as long as no order is confirmed again
-/

namespace ObservabilityLab

open Python Raising

/-! ## Errors -/

section Errors

variable [UnicodeTables]

/-- `UnsupportedToolError(dependency=dependency, tool=tool)` -/
def unsupportedTool (dependency tool : String) : PyError :=
  .domain "unsupported_tool" ("Dependency " ++ reprText dependency ++ " does not offer tool " ++
    reprText tool ++ "; the adapter rejects unexpected access") unprocessableEntity

/-- `UnsupportedStateError(dependency=dependency, detail=detail)` -/
def unsupportedState (dependency detail : String) : PyError :=
  .domain "unsupported_state" ("Dependency " ++ reprText dependency ++
    " cannot simulate the requested state: " ++ detail) unprocessableEntity

/-- `UnsupportedArgumentsError(dependency=dependency, tool=tool, arguments=arguments)` -/
def unsupportedArguments [FloatRepr] (dependency tool : String) (arguments : Record) : PyError :=
  .domain "unsupported_arguments" ("Dependency " ++ reprText dependency ++
    " has no recorded response for tool " ++ reprText tool ++ " with arguments " ++
    (PyValue.dict arguments).repr ++ "; the adapter never invents a plausible response")
    unprocessableEntity

end Errors

/-- The dependency that both support adapters simulate. -/
def supportDatabase : String := "support.database"

def supportToolNames : List String :=
  ["get_order_status", "get_policy", "propose_refund", "confirm_refund", "escalate"]

/-- The outcome of one simulated dependency call. -/
structure DependencyCallResult where
  ok : Bool
  payload : PyValue := .none
  errorCode : Option String := none
  mutations : List StateMutation := []

/-- A call that is refused with an error code. -/
def refusedCall (errorCode : String) : DependencyCallResult where
  ok := false
  errorCode := some errorCode

/-! ## The adapter -/

/-- `{order.id: order for order in orders}`, where a later order replaces an earlier one -/
def ordersById (orders : List OrderRead) (id : Uuid) : Option OrderRead :=
  orders.reverse.find? (·.id = id)

/-- `{ticket.id: ticket for ticket in tickets}` -/
def ticketsById (tickets : List TicketRead) (id : Uuid) : Option TicketRead :=
  tickets.reverse.find? (·.id = id)

/-- The fields of the adapter. -/
structure StatefulSupportAdapter where
  refundConfirmed : Bool
  orders : Uuid → Option OrderRead := fun _ => none
  tickets : Uuid → Option TicketRead := fun _ => none
  policies : List PolicyDocumentRead := []
  proposals : List Uuid := []
  log : MutationLog := {}
  initial : Option SimulationState := none
  /-- How many identifiers of tickets were drawn. -/
  ticketsDrawn : ℕ := 0

namespace StatefulSupportAdapter

variable (adapter : StatefulSupportAdapter)

/-- The adapter with the orders, tickets and policies of a state, and nothing else. -/
def load (state : SimulationState) : StatefulSupportAdapter :=
  { adapter with
    orders := ordersById state.orders
    tickets := ticketsById state.tickets
    policies := state.policies
    proposals := []
    log := {} }

/-- `seed(state)` -/
def seed (state : SimulationState) : StatefulSupportAdapter :=
  { adapter with initial := some state }.load state

/-- `reset()` -/
def reset : StatefulSupportAdapter :=
  match adapter.initial with
  | none => adapter
  | some state => adapter.load state

/-- The adapter after a proposal. -/
def propose (orderId : Uuid) : StatefulSupportAdapter :=
  { adapter with proposals := adapter.proposals.insert orderId }

/-- The adapter after the refund of an order. -/
def refund (orderId : Uuid) (order : OrderRead) : StatefulSupportAdapter :=
  { adapter with
    orders := Function.update adapter.orders orderId (some order.refund)
    log := adapter.log.record "order" orderId "status" (.str order.status.value)
      (.str OrderStatus.refunded.value) "refund_executed" }

/-- The adapter after a ticket was created. -/
def addTicket (ticket : TicketRead) : StatefulSupportAdapter :=
  { adapter with
    tickets := Function.update adapter.tickets ticket.id (some ticket)
    log := adapter.log.record "ticket" ticket.id "created" .none ticket.dump "ticket_created"
    ticketsDrawn := adapter.ticketsDrawn + 1 }

end StatefulSupportAdapter

section Calls

variable [UnicodeTables] [FloatRepr]

/-- `_order_argument(tool, arguments)` -/
def orderArgument (tool : String) (arguments : Record) : Raises Uuid :=
  match Uuid.parse ((arguments.lookup "order_id").getD .none).toText with
  | some orderId => .ok orderId
  | none => .error (unsupportedArguments supportDatabase tool arguments)

/-- `_subject_argument(tool, arguments)` -/
def subjectArgument (tool : String) (arguments : Record) : Raises String :=
  match arguments.lookup "subject" with
  | some (.str subject) =>
    if subject = "" then .error (unsupportedArguments supportDatabase tool arguments)
    else .ok subject
  | _ => .error (unsupportedArguments supportDatabase tool arguments)

/-- The slug that `get_policy` reads from its arguments. -/
def slugArgument (arguments : Record) : Raises String :=
  if arguments.any (·.1 ≠ "slug") then
    .error (unsupportedArguments supportDatabase "get_policy" arguments)
  else
    match (arguments.lookup "slug").getD (.str policySlug) with
    | .str slug =>
      if slug = "" then .error (unsupportedArguments supportDatabase "get_policy" arguments)
      else .ok slug
    | _ => .error (unsupportedArguments supportDatabase "get_policy" arguments)

namespace StatefulSupportAdapter

/-- `_get_order_status(arguments)` -/
def getOrderStatus (arguments : Record) :
    Action StatefulSupportAdapter DependencyCallResult := do
  let orderId ← MonadExcept.ofExcept (orderArgument "get_order_status" arguments)
  match (← get).orders orderId with
  | none => return refusedCall "order_not_found"
  | some order => return { ok := true, payload := order.dump }

/-- `_get_policy(arguments)` -/
def getPolicy (arguments : Record) : Action StatefulSupportAdapter DependencyCallResult := do
  let slug ← MonadExcept.ofExcept (slugArgument arguments)
  match ((← get).policies.filter (·.slug = slug)).argmax (·.version) with
  | none => return refusedCall "policy_not_found"
  | some policy => return { ok := true, payload := policy.dump }

/-- `_propose_refund(arguments)` -/
def proposeRefund (arguments : Record) : Action StatefulSupportAdapter DependencyCallResult := do
  let orderId ← MonadExcept.ofExcept (orderArgument "propose_refund" arguments)
  match (← get).orders orderId with
  | none => return refusedCall "order_not_found"
  | some order =>
    if order.status ∉ refundableOrderStatuses then return refusedCall "invalid_transition"
    else
      modify (·.propose orderId)
      return {
        ok := true
        payload := .dict [("order_id", .str order.id.str),
          ("amount", .str order.totalAmount.str),
          ("policy_version", .str acceptedPolicyVersion)] }

/-- `_confirm_refund(arguments)` -/
def confirmRefund (arguments : Record) : Action StatefulSupportAdapter DependencyCallResult := do
  let orderId ← MonadExcept.ofExcept (orderArgument "confirm_refund" arguments)
  let adapter ← get
  match adapter.orders orderId with
  | none => return refusedCall "order_not_found"
  | some order =>
    if orderId ∉ adapter.proposals ∨ ¬ adapter.refundConfirmed then
      return refusedCall "refund_not_confirmed"
    else
      modify (·.refund orderId order)
      return { ok := true, payload := order.refund.dump }

/-! ### What a call does -/

variable {adapter : StatefulSupportAdapter} {arguments : Record} {orderId : Uuid}
  {order : OrderRead}

theorem run_getOrderStatus (h : orderArgument "get_order_status" arguments = .ok orderId) :
    (getOrderStatus arguments).run adapter =
      .ok ((adapter.orders orderId).elim (refusedCall "order_not_found")
        fun order => { ok := true, payload := order.dump }) adapter := by
  unfold getOrderStatus
  rw [h]
  change EStateM.run (match adapter.orders orderId with
    | none => pure (refusedCall "order_not_found")
    | some order => pure { ok := true, payload := order.dump }) adapter = _
  cases adapter.orders orderId with
  | none => rfl
  | some order => rfl

theorem run_getPolicy {slug : String} (h : slugArgument arguments = .ok slug) :
    (getPolicy arguments).run adapter =
      .ok (((adapter.policies.filter (·.slug = slug)).argmax (·.version)).elim
        (refusedCall "policy_not_found") fun policy => { ok := true, payload := policy.dump })
        adapter := by
  unfold getPolicy
  rw [h]
  change EStateM.run (match (adapter.policies.filter (·.slug = slug)).argmax (·.version) with
    | none => pure (refusedCall "policy_not_found")
    | some policy => pure { ok := true, payload := policy.dump }) adapter = _
  cases (adapter.policies.filter (·.slug = slug)).argmax (·.version) with
  | none => rfl
  | some policy => rfl

theorem run_proposeRefund_missing (h : orderArgument "propose_refund" arguments = .ok orderId)
    (horder : adapter.orders orderId = none) :
    (proposeRefund arguments).run adapter = .ok (refusedCall "order_not_found") adapter := by
  unfold proposeRefund
  rw [h]
  change EStateM.run (match adapter.orders orderId with
    | none => pure (refusedCall "order_not_found")
    | some order => _) adapter = _
  rw [horder]
  rfl

theorem run_proposeRefund_stored (h : orderArgument "propose_refund" arguments = .ok orderId)
    (horder : adapter.orders orderId = some order) :
    (proposeRefund arguments).run adapter =
      if order.status = .delivered then
        .ok { ok := true
              payload := .dict [("order_id", .str order.id.str),
                ("amount", .str order.totalAmount.str),
                ("policy_version", .str acceptedPolicyVersion)] } (adapter.propose orderId)
      else .ok (refusedCall "invalid_transition") adapter := by
  unfold proposeRefund
  rw [h]
  change EStateM.run (match adapter.orders orderId with
    | none => _
    | some order =>
      if order.status ∉ refundableOrderStatuses then pure (refusedCall "invalid_transition")
      else _) adapter = _
  rw [horder]
  dsimp only
  by_cases hdelivered : order.status = .delivered
  · have heligible : order.status ∈ refundableOrderStatuses := List.mem_singleton.mpr hdelivered
    rw [if_pos hdelivered, if_neg (not_not.mpr heligible)]
    rfl
  · have hineligible : order.status ∉ refundableOrderStatuses := fun hmem =>
      hdelivered (List.mem_singleton.mp hmem)
    rw [if_neg hdelivered, if_pos hineligible]
    rfl

theorem run_confirmRefund_missing (h : orderArgument "confirm_refund" arguments = .ok orderId)
    (horder : adapter.orders orderId = none) :
    (confirmRefund arguments).run adapter = .ok (refusedCall "order_not_found") adapter := by
  unfold confirmRefund
  rw [h]
  change EStateM.run (match adapter.orders orderId with
    | none => pure (refusedCall "order_not_found")
    | some order => _) adapter = _
  rw [horder]
  rfl

theorem run_confirmRefund_stored (h : orderArgument "confirm_refund" arguments = .ok orderId)
    (horder : adapter.orders orderId = some order) :
    (confirmRefund arguments).run adapter =
      if orderId ∈ adapter.proposals ∧ adapter.refundConfirmed = true then
        .ok { ok := true, payload := order.refund.dump } (adapter.refund orderId order)
      else .ok (refusedCall "refund_not_confirmed") adapter := by
  unfold confirmRefund
  rw [h]
  change EStateM.run (match adapter.orders orderId with
    | none => _
    | some order =>
      if orderId ∉ adapter.proposals ∨ ¬ adapter.refundConfirmed then
        pure (refusedCall "refund_not_confirmed")
      else _) adapter = _
  rw [horder]
  dsimp only
  by_cases hconfirmed : orderId ∈ adapter.proposals ∧ adapter.refundConfirmed = true
  · rw [if_pos hconfirmed, if_neg (not_or.mpr ⟨not_not.mpr hconfirmed.1, not_not.mpr hconfirmed.2⟩)]
    rfl
  · rw [if_neg hconfirmed, if_pos (not_and_or.mp hconfirmed)]
    rfl

variable [RandomIds]

/-- `_escalate(arguments)` -/
def escalate (arguments : Record) : Action StatefulSupportAdapter DependencyCallResult := do
  let subject ← MonadExcept.ofExcept (subjectArgument "escalate" arguments)
  let ticketId := RandomIds.uuid4 (← get).ticketsDrawn
  let ticket ← MonadExcept.ofExcept (TicketRead.new ticketId (.repeated 0) none subject .open)
  modify (·.addTicket ticket)
  return { ok := true, payload := ticket.dump }

/-- `call(tool, arguments)` -/
def call (tool : String) (arguments : Record) :
    Action StatefulSupportAdapter DependencyCallResult := do
  if tool ∉ supportToolNames then throw (unsupportedTool supportDatabase tool)
  if (← get).initial.isNone then
    throw (unsupportedState supportDatabase
      "no scenario state was seeded before the first call")
  if tool = "get_order_status" then getOrderStatus arguments
  else if tool = "get_policy" then getPolicy arguments
  else if tool = "propose_refund" then proposeRefund arguments
  else if tool = "confirm_refund" then confirmRefund arguments
  else escalate arguments

/-- The ticket of an escalation. -/
def ticketFor (adapter : StatefulSupportAdapter) (subject : String)
    (h : lengthWithin 1 300 subject = true) : TicketRead where
  id := RandomIds.uuid4 adapter.ticketsDrawn
  customerId := .repeated 0
  orderId := none
  subject := subject
  status := .open
  validSubject := h

theorem run_escalate {subject : String} (h : subjectArgument "escalate" arguments = .ok subject)
    (hsubject : lengthWithin 1 300 subject = true) :
    (escalate arguments).run adapter =
      .ok { ok := true, payload := (adapter.ticketFor subject hsubject).dump }
        (adapter.addTicket (adapter.ticketFor subject hsubject)) := by
  unfold escalate
  rw [h]
  change EStateM.run (do
    let ticket ← MonadExcept.ofExcept
      (TicketRead.new (RandomIds.uuid4 adapter.ticketsDrawn) (.repeated 0) none subject .open)
    modify (·.addTicket ticket)
    return ({ ok := true, payload := ticket.dump } : DependencyCallResult)) adapter = _
  rw [TicketRead.new, dif_pos hsubject]
  rfl

/-- A call of a seeded adapter is one of its handlers. -/
theorem run_call {tool : String} (htool : tool ∈ supportToolNames)
    (hseeded : adapter.initial.isNone = false) :
    (call tool arguments).run adapter =
      (if tool = "get_order_status" then getOrderStatus arguments
      else if tool = "get_policy" then getPolicy arguments
      else if tool = "propose_refund" then proposeRefund arguments
      else if tool = "confirm_refund" then confirmRefund arguments
      else escalate arguments).run adapter := by
  unfold call
  rw [if_neg (not_not.mpr htool)]
  change EStateM.run (do
    if adapter.initial.isNone then
      throw (unsupportedState supportDatabase "no scenario state was seeded before the first call")
    _) adapter = _
  rw [hseeded]
  rfl

/-- A call of another tool, or before the first seed, changes nothing. -/
theorem finalState_call_refused {tool : String}
    (h : ¬ (tool ∈ supportToolNames ∧ adapter.initial.isNone = false)) :
    finalState ((call tool arguments).run adapter) = adapter := by
  unfold call
  by_cases htool : tool ∈ supportToolNames
  · have hunseeded : adapter.initial.isNone = true :=
      Bool.of_not_eq_false fun hseeded => h ⟨htool, hseeded⟩
    rw [if_neg (not_not.mpr htool)]
    change finalState (EStateM.run (do
      if adapter.initial.isNone then
        throw (unsupportedState supportDatabase
          "no scenario state was seeded before the first call")
      _) adapter) = _
    rw [hunseeded]
    rfl
  · rw [if_pos htool]
    rfl

end StatefulSupportAdapter

/-! ## The operations -/

/-- One operation on the adapter. -/
inductive AdapterOperation where
  | seed (state : SimulationState)
  | reset
  | call (tool : String) (arguments : Record)

/-- An operation confirms the refund of an order. -/
def AdapterOperation.Confirms (operation : AdapterOperation) (orderId : Uuid) : Prop :=
  ∃ arguments, operation = .call "confirm_refund" arguments ∧
    orderArgument "confirm_refund" arguments = .ok orderId

/-- **What an operation can do.** -/
inductive AdapterMove (adapter : StatefulSupportAdapter) (operation : AdapterOperation) :
    StatefulSupportAdapter → Prop where
  | stay : AdapterMove adapter operation adapter
  | seed (state : SimulationState) : AdapterMove adapter operation (adapter.seed state)
  | propose {orderId : Uuid} {order : OrderRead} (horder : adapter.orders orderId = some order)
      (hdelivered : order.status = .delivered) :
      AdapterMove adapter operation (adapter.propose orderId)
  | refund {orderId : Uuid} {order : OrderRead} (hconfirms : operation.Confirms orderId)
      (horder : adapter.orders orderId = some order) (hproposed : orderId ∈ adapter.proposals)
      (hconfirmed : adapter.refundConfirmed = true) :
      AdapterMove adapter operation (adapter.refund orderId order)
  | addTicket (ticket : TicketRead) : AdapterMove adapter operation (adapter.addTicket ticket)

section Moves

open StatefulSupportAdapter

variable {adapter : StatefulSupportAdapter} {operation : AdapterOperation} {arguments : Record}

theorem getOrderStatus_move :
    AdapterMove adapter operation (finalState ((getOrderStatus arguments).run adapter)) := by
  cases h : orderArgument "get_order_status" arguments with
  | error e =>
    unfold getOrderStatus
    rw [h]
    exact .stay
  | ok orderId =>
    rw [run_getOrderStatus h]
    exact .stay

theorem getPolicy_move :
    AdapterMove adapter operation (finalState ((getPolicy arguments).run adapter)) := by
  cases h : slugArgument arguments with
  | error e =>
    unfold getPolicy
    rw [h]
    exact .stay
  | ok slug =>
    rw [StatefulSupportAdapter.run_getPolicy h]
    exact .stay

theorem proposeRefund_move :
    AdapterMove adapter operation (finalState ((proposeRefund arguments).run adapter)) := by
  cases h : orderArgument "propose_refund" arguments with
  | error e =>
    unfold proposeRefund
    rw [h]
    exact .stay
  | ok orderId =>
    cases horder : adapter.orders orderId with
    | none =>
      rw [run_proposeRefund_missing h horder]
      exact .stay
    | some order =>
      rw [run_proposeRefund_stored h horder]
      split
      · rename_i hdelivered
        exact .propose horder hdelivered
      · exact .stay

theorem confirmRefund_move (hoperation : operation = .call "confirm_refund" arguments) :
    AdapterMove adapter operation (finalState ((confirmRefund arguments).run adapter)) := by
  cases h : orderArgument "confirm_refund" arguments with
  | error e =>
    unfold confirmRefund
    rw [h]
    exact .stay
  | ok orderId =>
    cases horder : adapter.orders orderId with
    | none =>
      rw [run_confirmRefund_missing h horder]
      exact .stay
    | some order =>
      rw [run_confirmRefund_stored h horder]
      split
      · rename_i hconfirmed
        exact .refund ⟨arguments, hoperation, h⟩ horder hconfirmed.1 hconfirmed.2
      · exact .stay

variable [RandomIds]

/-- The adapter after one operation, whether a call returns or raises. -/
def AdapterOperation.step (adapter : StatefulSupportAdapter) :
    AdapterOperation → StatefulSupportAdapter
  | .seed state => adapter.seed state
  | .reset => adapter.reset
  | .call tool arguments =>
    finalState ((StatefulSupportAdapter.call tool arguments).run adapter)

/-- A new adapter after a sequence of operations. -/
def adapterRun (refundConfirmed : Bool) (operations : List AdapterOperation) :
    StatefulSupportAdapter :=
  operations.foldl AdapterOperation.step { refundConfirmed := refundConfirmed }

theorem adapterRun_concat (refundConfirmed : Bool) (operations : List AdapterOperation)
    (operation : AdapterOperation) :
    adapterRun refundConfirmed (operations ++ [operation]) =
      operation.step (adapterRun refundConfirmed operations) :=
  List.foldl_concat ..

theorem escalate_move :
    AdapterMove adapter operation (finalState ((escalate arguments).run adapter)) := by
  cases h : subjectArgument "escalate" arguments with
  | error e =>
    unfold escalate
    rw [h]
    exact .stay
  | ok subject =>
    by_cases hsubject : lengthWithin 1 300 subject = true
    · rw [run_escalate h hsubject]
      exact .addTicket _
    · unfold escalate
      rw [h]
      change AdapterMove adapter operation (finalState (EStateM.run (do
        let ticket ← MonadExcept.ofExcept
          (TicketRead.new (RandomIds.uuid4 adapter.ticketsDrawn) (.repeated 0) none subject .open)
        _) adapter))
      rw [TicketRead.new, dif_neg hsubject]
      exact .stay

/-- **Every operation is one of the moves.** -/
theorem step_move (adapter : StatefulSupportAdapter) (operation : AdapterOperation) :
    AdapterMove adapter operation (operation.step adapter) := by
  cases operation with
  | seed state => exact .seed state
  | reset =>
    change AdapterMove adapter .reset adapter.reset
    unfold StatefulSupportAdapter.reset
    cases hinitial : adapter.initial with
    | none => exact .stay
    | some state =>
      -- resetting seeds the adapter again with the state it was seeded with
      have hseed : adapter.load state = adapter.seed state := by
        unfold StatefulSupportAdapter.seed StatefulSupportAdapter.load
        rw [hinitial]
      dsimp only
      rw [hseed]
      exact .seed state
  | call tool arguments =>
    change AdapterMove adapter (.call tool arguments)
      (finalState ((StatefulSupportAdapter.call tool arguments).run adapter))
    by_cases h : tool ∈ supportToolNames ∧ adapter.initial.isNone = false
    · rw [run_call h.1 h.2]
      split_ifs with hstatus hpolicy hpropose hconfirm
      · exact getOrderStatus_move
      · exact getPolicy_move
      · exact proposeRefund_move
      · exact confirmRefund_move (by rw [hconfirm])
      · exact escalate_move
    · rw [finalState_call_refused h]
      exact .stay

end Moves

end Calls

/-! ## What the log says -/

/-- An order after a change of its status was applied. -/
def OrderRead.withStatus (order : OrderRead) : PyValue → OrderRead
  | .str text => { order with status := (OrderStatus.ofValue text).getD order.status }
  | _ => order

/-- Orders after a recorded mutation was applied to them. -/
def replayMutation (orders : Uuid → Option OrderRead) (mutation : StateMutation) (id : Uuid) :
    Option OrderRead :=
  if mutation.resource = "order" ∧ mutation.resourceId = id.str then
    (orders id).map (·.withStatus mutation.after)
  else orders id

/-- Orders after all recorded mutations were applied to them, in order. -/
def replay (orders : Uuid → Option OrderRead) (mutations : List StateMutation) :
    Uuid → Option OrderRead :=
  mutations.foldl replayMutation orders

theorem replay_concat (orders : Uuid → Option OrderRead) (mutations : List StateMutation)
    (mutation : StateMutation) :
    replay orders (mutations ++ [mutation]) = replayMutation (replay orders mutations) mutation :=
  List.foldl_concat ..

namespace StatefulSupportAdapter

variable (adapter : StatefulSupportAdapter)

/-- The orders that the adapter was seeded with. -/
def seededOrders (id : Uuid) : Option OrderRead :=
  adapter.initial.bind fun state => ordersById state.orders id

/-- The orders that the log names, one for each entry. -/
def refundedIds : List String :=
  (adapter.log.mutations.filter (·.resource = "order")).map (·.resourceId)

variable {adapter}

theorem refundedIds_refund (orderId : Uuid) (order : OrderRead) :
    (adapter.refund orderId order).refundedIds = adapter.refundedIds ++ [orderId.str] := by
  simp [refundedIds, refund, MutationLog.record]

theorem refundedIds_addTicket (ticket : TicketRead) :
    (adapter.addTicket ticket).refundedIds = adapter.refundedIds := by
  simp [refundedIds, addTicket, MutationLog.record]

/-- A refund is what its entry says. -/
theorem replay_refund {orderId : Uuid} {order : OrderRead}
    (horder : adapter.orders orderId = some order)
    (h : replay adapter.seededOrders adapter.log.mutations = adapter.orders) :
    replay (adapter.refund orderId order).seededOrders
      (adapter.refund orderId order).log.mutations =
      (adapter.refund orderId order).orders := by
  change replay adapter.seededOrders (adapter.log.mutations ++ _) = _
  rw [replay_concat, h]
  funext id
  by_cases hid : id = orderId
  · subst hid
    simp [replayMutation, refund, OrderRead.withStatus, horder, OrderRead.refund]
  · have hother : ¬ orderId.str = id.str := fun heq => hid (Uuid.str_injective heq).symm
    simp [replayMutation, refund, hid, hother]

theorem replay_addTicket {ticket : TicketRead}
    (h : replay adapter.seededOrders adapter.log.mutations = adapter.orders) :
    replay (adapter.addTicket ticket).seededOrders (adapter.addTicket ticket).log.mutations =
      (adapter.addTicket ticket).orders := by
  change replay adapter.seededOrders (adapter.log.mutations ++ _) = adapter.orders
  rw [replay_concat, h]
  funext id
  simp [replayMutation]

end StatefulSupportAdapter

/-- **The fields of the adapter agree with each other.** -/
structure AdapterConsistent (adapter : StatefulSupportAdapter) : Prop where
  /-- The counter is the number of entries. -/
  sequence : adapter.log.sequence = adapter.log.mutations.length
  numbered : adapter.log.mutations.map (·.sequence) = List.range' 1 adapter.log.mutations.length
  /-- The log leads from the seeded orders to the current ones. -/
  replayed : replay adapter.seededOrders adapter.log.mutations = adapter.orders
  /-- An adapter that was never seeded has no orders. -/
  unseeded : adapter.initial = none → ∀ id, adapter.orders id = none
  /-- An order that the log names was proposed and confirmed, and is refunded. -/
  refunded : ∀ text ∈ adapter.refundedIds, ∃ id order, text = id.str ∧ id ∈ adapter.proposals ∧
    adapter.refundConfirmed = true ∧ adapter.orders id = some order ∧ order.status = .refunded
  /-- A proposed order is delivered, or the log names it. -/
  proposed : ∀ id ∈ adapter.proposals, ∃ order, adapter.orders id = some order ∧
    (order.status = .delivered ∨ id.str ∈ adapter.refundedIds)

namespace AdapterConsistent

variable {adapter : StatefulSupportAdapter}

theorem seed (state : SimulationState) : AdapterConsistent (adapter.seed state) where
  sequence := rfl
  numbered := rfl
  replayed := rfl
  unseeded := fun h => by cases h
  refunded := List.forall_mem_nil _
  proposed := List.forall_mem_nil _

theorem propose (h : AdapterConsistent adapter) {orderId : Uuid} {order : OrderRead}
    (horder : adapter.orders orderId = some order) (hdelivered : order.status = .delivered) :
    AdapterConsistent (adapter.propose orderId) where
  sequence := h.sequence
  numbered := h.numbered
  replayed := h.replayed
  unseeded := h.unseeded
  refunded text hmem := by
    obtain ⟨id, refunded, htext, hproposed, hrest⟩ := h.refunded text hmem
    exact ⟨id, refunded, htext, List.mem_insert_of_mem hproposed, hrest⟩
  proposed id hmem := by
    rcases List.mem_insert_iff.mp hmem with rfl | hproposed
    · exact ⟨order, horder, Or.inl hdelivered⟩
    · exact h.proposed id hproposed

theorem record_numbered (h : AdapterConsistent adapter) (mutation : StateMutation)
    (hsequence : mutation.sequence = adapter.log.sequence + 1) :
    (adapter.log.mutations ++ [mutation]).map (·.sequence) =
      List.range' 1 (adapter.log.mutations ++ [mutation]).length := by
  rw [List.map_append, h.numbered, List.length_append, List.length_singleton, List.range'_concat,
    List.map_singleton, hsequence, h.sequence, Nat.one_mul, Nat.add_comm]

theorem refund (h : AdapterConsistent adapter) {orderId : Uuid} {order : OrderRead}
    (horder : adapter.orders orderId = some order) (hproposed : orderId ∈ adapter.proposals)
    (hconfirmed : adapter.refundConfirmed = true) :
    AdapterConsistent (adapter.refund orderId order) where
  sequence := by
    change adapter.log.sequence + 1 = (adapter.log.mutations ++ [_]).length
    rw [h.sequence, List.length_append, List.length_singleton]
  numbered := h.record_numbered _ rfl
  replayed := StatefulSupportAdapter.replay_refund horder h.replayed
  unseeded hinitial := by
    rw [h.unseeded hinitial orderId] at horder
    cases horder
  refunded text hmem := by
    rw [StatefulSupportAdapter.refundedIds_refund, List.mem_append, List.mem_singleton] at hmem
    rcases hmem with hold | rfl
    · obtain ⟨id, refunded, htext, hid, -, hrow, hstatus⟩ := h.refunded text hold
      by_cases hsame : id = orderId
      · exact ⟨id, order.refund, htext, hid, hconfirmed,
          by rw [hsame]; exact Function.update_self .., rfl⟩
      · exact ⟨id, refunded, htext, hid, hconfirmed,
          (Function.update_of_ne hsame ..).trans hrow, hstatus⟩
    · exact ⟨orderId, order.refund, rfl, hproposed, hconfirmed, Function.update_self .., rfl⟩
  proposed id hmem := by
    rw [StatefulSupportAdapter.refundedIds_refund]
    by_cases hsame : id = orderId
    · exact ⟨order.refund, by rw [hsame]; exact Function.update_self ..,
        Or.inr (List.mem_append_right _ (by rw [hsame]; exact List.mem_singleton_self _))⟩
    · obtain ⟨row, hrow, hstatus⟩ := h.proposed id hmem
      exact ⟨row, (Function.update_of_ne hsame ..).trans hrow,
        hstatus.imp_right (List.mem_append_left _)⟩

theorem addTicket (h : AdapterConsistent adapter) (ticket : TicketRead) :
    AdapterConsistent (adapter.addTicket ticket) where
  sequence := by
    change adapter.log.sequence + 1 = (adapter.log.mutations ++ [_]).length
    rw [h.sequence, List.length_append, List.length_singleton]
  numbered := h.record_numbered _ rfl
  replayed := StatefulSupportAdapter.replay_addTicket h.replayed
  unseeded := h.unseeded
  refunded text hmem := by
    rw [StatefulSupportAdapter.refundedIds_addTicket] at hmem
    exact h.refunded text hmem
  proposed id hmem := by
    rw [StatefulSupportAdapter.refundedIds_addTicket]
    exact h.proposed id hmem

end AdapterConsistent

/-- Every recorded order goes from delivered to refunded. -/
def StatefulSupportAdapter.OnlyRefunds (adapter : StatefulSupportAdapter) : Prop :=
  ∀ mutation ∈ adapter.log.mutations, mutation.resource = "order" →
    mutation.field = "status" ∧ mutation.before = .str OrderStatus.delivered.value ∧
      mutation.after = .str OrderStatus.refunded.value

/-- **The log tells the history of the orders** since the last seed or reset. -/
structure AdapterFaithful (adapter : StatefulSupportAdapter) : Prop where
  refunds : adapter.OnlyRefunds
  /-- An order is recorded once. -/
  once : adapter.refundedIds.Nodup
  numbered : adapter.log.mutations.map (·.sequence) = List.range' 1 adapter.log.mutations.length
  /-- The log leads from the seeded orders to the current ones. -/
  replayed : replay adapter.seededOrders adapter.log.mutations = adapter.orders
  /-- Resetting restores the seeded state, and empties the log. -/
  restored : ∀ state, adapter.initial = some state →
    adapter.reset = { refundConfirmed := adapter.refundConfirmed
                      orders := ordersById state.orders
                      tickets := ticketsById state.tickets
                      policies := state.policies
                      initial := some state
                      ticketsDrawn := adapter.ticketsDrawn }

/-- The log is faithful as far as its entries of orders are. -/
theorem AdapterConsistent.faithful {adapter : StatefulSupportAdapter}
    (h : AdapterConsistent adapter) (hrefunds : adapter.OnlyRefunds)
    (honce : adapter.refundedIds.Nodup) : AdapterFaithful adapter where
  refunds := hrefunds
  once := honce
  numbered := h.numbered
  replayed := h.replayed
  restored state hinitial := by
    unfold StatefulSupportAdapter.reset StatefulSupportAdapter.load
    rw [hinitial]

section Runs

variable [UnicodeTables] [FloatRepr]

/-- An operation confirms the refund of an order that the log already names. -/
def AdapterOperation.Reconfirms (adapter : StatefulSupportAdapter)
    (operation : AdapterOperation) : Prop :=
  ∃ orderId, operation.Confirms orderId ∧ orderId.str ∈ adapter.refundedIds

variable {adapter : StatefulSupportAdapter} {operation : AdapterOperation}

variable [RandomIds]

theorem AdapterConsistent.step (h : AdapterConsistent adapter) (operation : AdapterOperation) :
    AdapterConsistent (operation.step adapter) := by
  have hmove := step_move adapter operation
  generalize operation.step adapter = after at hmove
  cases hmove with
  | stay => exact h
  | seed state => exact .seed state
  | propose horder hdelivered => exact h.propose horder hdelivered
  | refund hconfirms horder hproposed hconfirmed => exact h.refund horder hproposed hconfirmed
  | addTicket ticket => exact h.addTicket ticket

/-- **Whatever the operations, the fields of the adapter agree with each other.** -/
theorem consistent_adapterRun (refundConfirmed : Bool) (operations : List AdapterOperation) :
    AdapterConsistent (adapterRun refundConfirmed operations) := by
  induction operations using List.reverseRecOn with
  | nil => exact ⟨rfl, rfl, rfl, fun _ _ => rfl, List.forall_mem_nil _, List.forall_mem_nil _⟩
  | append_singleton operations operation ih =>
    rw [adapterRun_concat]
    exact ih.step operation

/-- **An operation that confirms no order again keeps the log faithful.** -/
theorem AdapterFaithful.step (h : AdapterFaithful adapter) (hconsistent : AdapterConsistent adapter)
    (hfirst : ¬ operation.Reconfirms adapter) : AdapterFaithful (operation.step adapter) := by
  have hmove := step_move adapter operation
  have hstep := hconsistent.step operation
  generalize operation.step adapter = after at hmove hstep
  cases hmove with
  | stay => exact h
  | seed state => exact hstep.faithful (List.forall_mem_nil _) List.nodup_nil
  | propose horder hdelivered => exact hstep.faithful h.refunds h.once
  | @refund orderId order hconfirms horder hproposed hconfirmed =>
    have hnew : orderId.str ∉ adapter.refundedIds := fun hmem => hfirst ⟨orderId, hconfirms, hmem⟩
    -- a proposed order that the log does not name is delivered
    have hdelivered : order.status = .delivered := by
      obtain ⟨row, hrow, hstatus⟩ := hconsistent.proposed orderId hproposed
      rw [horder, Option.some.injEq] at hrow
      rw [hrow]
      exact hstatus.resolve_right hnew
    refine hstep.faithful (fun mutation hmem hresource => ?_) ?_
    · rcases List.mem_append.mp hmem with hold | hlast
      · exact h.refunds mutation hold hresource
      · rw [List.mem_singleton.mp hlast, hdelivered]
        exact ⟨rfl, rfl, rfl⟩
    · rw [StatefulSupportAdapter.refundedIds_refund]
      refine List.nodup_append.mpr ⟨h.once, List.nodup_singleton _, fun a ha b hb heq => ?_⟩
      rw [heq, List.mem_singleton.mp hb] at ha
      exact hnew ha
  | addTicket ticket =>
    refine hstep.faithful (fun mutation hmem hresource => ?_) ?_
    · rcases List.mem_append.mp hmem with hold | hlast
      · exact h.refunds mutation hold hresource
      · rw [List.mem_singleton.mp hlast] at hresource
        exact absurd hresource (by simp)
    · rw [StatefulSupportAdapter.refundedIds_addTicket]
      exact h.once

/-- An operation that confirms an order again records a refund of a refunded order. -/
theorem not_faithful_of_reconfirms (h : AdapterConsistent adapter)
    (hagain : operation.Reconfirms adapter) : ¬ AdapterFaithful (operation.step adapter) := by
  obtain ⟨orderId, ⟨arguments, rfl, horderId⟩, hmem⟩ := hagain
  obtain ⟨id, order, hid, hproposed, hconfirmed, horder, hstatus⟩ := h.refunded _ hmem
  rw [← Uuid.str_injective hid] at hproposed horder
  have hseeded : adapter.initial.isNone = false := by
    cases hinitial : adapter.initial with
    | none =>
      rw [h.unseeded hinitial] at horder
      cases horder
    | some state => rfl
  have hstep : AdapterOperation.step adapter (.call "confirm_refund" arguments) =
      adapter.refund orderId order := by
    change finalState ((StatefulSupportAdapter.call "confirm_refund" arguments).run adapter) = _
    rw [StatefulSupportAdapter.run_call (by decide +kernel) hseeded, if_neg (by decide +kernel),
      if_neg (by decide +kernel), if_neg (by decide +kernel), if_pos rfl,
      StatefulSupportAdapter.run_confirmRefund_stored horderId horder,
      if_pos ⟨hproposed, hconfirmed⟩]
    rfl
  intro hfaithful
  rw [hstep] at hfaithful
  have hbefore := (hfaithful.refunds _
    (List.mem_append_right _ (List.mem_singleton_self _)) rfl).2.1
  rw [hstatus] at hbefore
  exact absurd (PyValue.str.inj hbefore) (by decide +kernel)

/-- **When the log stays faithful**: exactly in the runs in which no operation confirms the refund
of an order that was refunded since the last seed or reset. -/
theorem adapterFaithful_iff (refundConfirmed : Bool) (operations : List AdapterOperation) :
    (∀ earlier later, operations = earlier ++ later →
        AdapterFaithful (adapterRun refundConfirmed earlier)) ↔
      ∀ earlier operation later, operations = earlier ++ operation :: later →
        ¬ operation.Reconfirms (adapterRun refundConfirmed earlier) := by
  constructor
  · intro hfaithful earlier operation later hsplit hagain
    have hnext := hfaithful (earlier ++ [operation]) later (by rw [hsplit, List.append_assoc]; rfl)
    rw [adapterRun_concat] at hnext
    exact not_faithful_of_reconfirms (consistent_adapterRun refundConfirmed earlier) hagain hnext
  · intro hfirst earlier
    induction earlier using List.reverseRecOn with
    | nil =>
      intro later _
      exact (consistent_adapterRun refundConfirmed []).faithful (List.forall_mem_nil _)
        List.nodup_nil
    | append_singleton earlier operation ih =>
      intro later hsplit
      rw [List.append_assoc] at hsplit
      rw [adapterRun_concat]
      exact (ih _ hsplit).step (consistent_adapterRun refundConfirmed earlier)
        (hfirst earlier operation later hsplit)

end Runs

/-! ### A refund that is confirmed twice -/

section Twice

attribute [local instance] asciiTables oneDecimalRepr constantIds

/-- A call that names the first order. -/
def firstOrderCall (tool : String) : AdapterOperation :=
  .call tool [("order_id", .uuid (.repeated 0))]

/-- A seeded order that is proposed, and confirmed twice. -/
def confirmedTwice : List AdapterOperation :=
  [.seed { orders := [freeOrder (.repeated 0) (.repeated 7) .delivered] },
    firstOrderCall "propose_refund", firstOrderCall "confirm_refund",
    firstOrderCall "confirm_refund"]

/-- The second confirmation records a refund of the refunded order, which the log then names
twice. -/
theorem not_adapterFaithful_twice : ¬ AdapterFaithful (adapterRun true confirmedTwice) := by
  intro hfaithful
  have honce := hfaithful.once
  have hnamed : (adapterRun true confirmedTwice).refundedIds =
      [(Uuid.repeated 0).str, (Uuid.repeated 0).str] := by
    decide +kernel
  rw [hnamed] at honce
  exact (List.nodup_cons.mp honce).1 (List.mem_singleton_self _)

end Twice

end ObservabilityLab
