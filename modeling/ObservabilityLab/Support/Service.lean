import ObservabilityLab.Support.Repository

/-!
# The support service

The application services of the support domain: ownership checks, tickets, refunds and policies.
The services are generic in the effect of the repository calls, so that one definition serves a
call that runs alone and calls whose steps interleave.

## Main definitions

* `getOrder`, `createTicket`, `requestRefund`, `getLatestPolicy`

## Main results

* `getOrder_triple`, `createTicket_triple`, `requestRefund_triple`, `getLatestPolicy_triple`: what a
  service that runs alone does to the rows
-/

namespace ObservabilityLab

open Python Raising

/-! ## Errors -/

def orderNotFound : PyError := .domain "order_not_found" "The order was not found" notFound

/-- `Forbidden()` -/
def forbidden : PyError := .domain "forbidden" "You are not allowed to view this order" 403

/-- `InvalidTransition()` -/
def invalidTransition : PyError :=
  .domain "invalid_transition" "The order cannot be refunded from its current status" 409

def policyNotFound : PyError :=
  .domain "policy_not_found" "The policy document was not found" notFound

/-! ## Commands -/

structure CreateTicketCommand where
  actorId : Uuid
  orderId : Option Uuid := none
  subject : String
  validSubject : lengthWithin 1 300 subject = true

/-- `CreateTicketCommand(actor_id=actor_id, subject=subject)` -/
def CreateTicketCommand.new (actorId : Uuid) (subject : String) : Raises CreateTicketCommand :=
  if h : lengthWithin 1 300 subject = true then
    .ok { actorId := actorId, subject := subject, validSubject := h }
  else .error (.validation "CreateTicketCommand" "subject")

structure RefundCommand where
  actorId : Uuid
  orderId : Uuid
deriving DecidableEq

def refundableOrderStatuses : List OrderStatus := [.delivered]

/-! ## Services -/

section Services

variable {m : Type → Type} [Monad m] [MonadExcept PyError m] (repository : SupportRepository m)

/-- One order, after the requesting actor passes the ownership check. -/
def getOrder (orderId actorId : Uuid) : m OrderRead := do
  match ← repository.getOrder orderId with
  | none => throw orderNotFound
  | some order =>
    if order.customerId ≠ actorId then throw forbidden
    else return order

/-- Create an open ticket for the requesting actor. -/
def createTicket (command : CreateTicketCommand) : m TicketRead := do
  if let some orderId := command.orderId then
    let _ ← getOrder repository orderId command.actorId
  repository.createTicket
    { customerId := command.actorId
      orderId := command.orderId
      subject := command.subject
      validSubject := command.validSubject }

/-- Refund an order of the actor. -/
def requestRefund (command : RefundCommand) : m OrderRead := do
  let order ← getOrder repository command.orderId command.actorId
  if order.status ∉ refundableOrderStatuses then throw invalidTransition
  else
    match ← repository.refundOrderIfDelivered command.orderId command.actorId with
    | some saved => return saved
    | none =>
      match ← repository.getOrder command.orderId with
      | none => throw orderNotFound
      | some current =>
        if current.customerId ≠ command.actorId then throw forbidden
        else throw invalidTransition

/-- The newest version of one policy document. -/
def getLatestPolicy (slug : String) : m PolicyDocumentRead := do
  match ← repository.getPolicy slug none with
  | none => throw policyNotFound
  | some policy => return policy

end Services

/-! ## What a service does to the rows -/

section Rows

variable {World : Type} {repository : SupportRepository (Action World)} {customerId : Uuid}
  {tables : World → SupportTables} {ready lost : World → Prop}

/-- An order that a service returns is stored and belongs to the actor. -/
theorem getOrder_triple (hstores : Stores repository customerId tables ready lost)
    (orderId actorId : Uuid) (rows : SupportTables) :
    Triple (Holds tables ready rows) (getOrder repository orderId actorId)
      (fun order world => rows.order? orderId = some order ∧ order.customerId = actorId ∧
        Holds tables ready rows world)
      fun _ => Holds tables ready rows := by
  refine triple_bind (hstores.getOrder orderId rows) fun found => ?_
  cases found with
  | none => exact triple_throw fun _ h => h.2
  | some order =>
    dsimp only
    split
    · exact triple_throw fun _ h => h.2
    · rename_i howner
      exact triple_pure fun world h => ⟨h.1.symm, not_not.mp howner, h.2⟩

/-- A ticket of the actor is stored, unless the database refuses its subject. -/
theorem createTicket_triple (hstores : Stores repository customerId tables ready lost)
    {subject : String} (hsubject : lengthWithin 1 300 subject = true) (rows : SupportTables) :
    Triple (Holds tables ready rows)
      (createTicket repository
        { actorId := customerId, subject := subject, validSubject := hsubject })
      (fun row world => row.customerId = customerId ∧
        Holds tables ready (rows.withTicket row) world)
      fun e world => Holds tables ready rows world ∨
        isStorableText subject = false ∧ e = invalidText ∧ lost world :=
  hstores.createTicket _ rows rfl rfl

/-- A policy that a service returns is read, unless the database refuses its slug. -/
theorem getLatestPolicy_triple (hstores : Stores repository customerId tables ready lost)
    (slug : String) (rows : SupportTables) :
    Triple (Holds tables ready rows) (getLatestPolicy repository slug)
      (fun _ => Holds tables ready rows)
      fun e world => Holds tables ready rows world ∨
        isStorableText slug = false ∧ e = invalidText ∧ lost world := by
  refine triple_bind (triple_mono (hstores.getPolicy slug none rows) (fun _ h => h) (fun _ _ h => h)
    fun e world h => ?_) fun policy => ?_
  · rw [isStorableQuery_latest] at h
    exact h
  · cases policy with
    | none => exact triple_throw fun _ h => Or.inl h
    | some policy => exact triple_pure fun _ h => h

/-- **A refund that runs alone** changes the order of the actor from delivered to refunded, or
raises and changes nothing. -/
theorem requestRefund_triple (hstores : Stores repository customerId tables ready lost)
    (orderId : Uuid) (rows : SupportTables) :
    Triple (Holds tables ready rows) (requestRefund repository ⟨customerId, orderId⟩)
      (fun saved world => ∃ order, rows.order? orderId = some order ∧
        order.customerId = customerId ∧ order.status = .delivered ∧ saved = order.refund ∧
        Holds tables ready (rows.withRefund orderId customerId) world)
      fun _ => Holds tables ready rows := by
  refine triple_bind (getOrder_triple hstores orderId customerId rows) fun order => ?_
  split
  · exact triple_throw fun _ h => h.2.2
  · rename_i hstatus
    have hdelivered : order.status = .delivered := by
      simpa [refundableOrderStatuses] using hstatus
    refine triple_of_eq ?_
    rintro world ⟨horder, howner, hrows⟩
    have hmatch : refundable orderId customerId order = true :=
      refundable_iff.mpr ⟨SupportTables.id_of_order? horder, howner, hdelivered⟩
    have hrefunded : rows.refunded? orderId customerId = some order.refund := by
      rw [SupportTables.refunded?, horder, Option.bind_some, if_pos hmatch]
    refine triple_bind (triple_mono (hstores.refundOrderIfDelivered orderId rows)
      (by rintro _ rfl; exact hrows) (fun _ _ h => h) fun _ _ h => h) fun saved => ?_
    cases saved with
    | some saved =>
      refine triple_pure ?_
      rintro world' ⟨hsaved, htables⟩
      rw [hrefunded, Option.some.injEq] at hsaved
      exact ⟨order, horder, howner, hdelivered, hsaved, htables⟩
    | none =>
      -- The order was delivered when it was read, so a call that runs alone never comes here.
      rintro world' ⟨hsaved, -⟩
      rw [hrefunded] at hsaved
      cases hsaved

end Rows

end ObservabilityLab
