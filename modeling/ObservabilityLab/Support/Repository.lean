import ObservabilityLab.Library.FirstMatch
import ObservabilityLab.Library.Raising
import ObservabilityLab.Support.Schemas

/-!
# The support repository

The persistence boundary of the support domain, and its SQL implementation on the rows of one
database session. The boundary is generic in the effect of its calls; an `Action` is a call that
changes a world and returns or raises.

## Main definitions

* `Action`: a call of the application on a world
* `SupportTables`: the rows of the support tables, with the primary key of the orders
* `SupportRepository`: the persistence boundary
* `isStorableText`: the text that the database can store
* `sqlAlchemySupportRepository`: the boundary on the rows of a session
* `Stores`, `Serves`, `Loses`: a repository whose calls read and write support tables, and raise
  when the database refuses their text

## Main results

* `order?_withRefund`: what a conditional refund changes
* `sqlAlchemySupportRepository_stores`, `sqlAlchemySupportRepository_serves`
* `sqlAlchemySupportRepository_loses`: a transaction that was rolled back stays so
-/

namespace ObservabilityLab

open Python Raising

/-- A call of the application on a world. -/
abbrev Action (World : Type) := EStateM PyError World

/-- The identifiers that `uuid4()` draws. -/
class RandomIds where
  uuid4 : ℕ → Uuid

/-- The order of text in the database. -/
class Collation where
  le : String → String → Bool

/-- Identifiers that do not depend on the draw. -/
@[reducible] def constantIds : RandomIds where
  uuid4 _ := .repeated 3

/-- The order of the code points. -/
@[reducible] def codePointOrder : Collation where
  le a b := decide (a ≤ b)

structure TicketCreate where
  customerId : Uuid
  orderId : Option Uuid := none
  subject : String
  status : TicketStatus := .open
  validSubject : lengthWithin 1 300 subject = true

/-! ## Rows -/

/-- The rows of the support tables. The orders have a primary key, and belong to customers. -/
structure SupportTables where
  customers : List Uuid := []
  orders : List OrderRead := []
  tickets : List TicketRead := []
  policies : List PolicyDocumentRead := []
  ordersUnique : (orders.map (·.id)).Nodup
  ordersOwned : ∀ order ∈ orders, order.customerId ∈ customers

def OrderRead.refund (order : OrderRead) : OrderRead := { order with status := .refunded }

/-- The condition of the conditional refund: the order, its owner, and delivered. -/
def refundable (orderId customerId : Uuid) (order : OrderRead) : Bool :=
  order.id = orderId && order.customerId = customerId && order.status = .delivered

theorem refundable_iff {orderId customerId : Uuid} {order : OrderRead} :
    refundable orderId customerId order = true ↔
      order.id = orderId ∧ order.customerId = customerId ∧ order.status = .delivered := by
  simp only [refundable, Bool.and_eq_true, decide_eq_true_eq, and_assoc]

namespace SupportTables

variable (tables : SupportTables)

/-- The row of one order. -/
def order? (id : Uuid) : Option OrderRead := tables.orders.find? (·.id = id)

variable {tables} in
theorem order?_eq_some {id : Uuid} {order : OrderRead} :
    tables.order? id = some order ↔ order ∈ tables.orders ∧ order.id = id :=
  FirstMatch.find?_key_eq_some tables.ordersUnique

variable {tables} in
theorem id_of_order? {id : Uuid} {order : OrderRead} (h : tables.order? id = some order) :
    order.id = id := (order?_eq_some.mp h).2

/-- The rows after a change of orders that keeps their identifiers and registered owners. -/
def mapOrders (f : OrderRead → OrderRead) (hid : ∀ order, (f order).id = order.id)
    (howner : ∀ order ∈ tables.orders, (f order).customerId ∈ tables.customers) :
    SupportTables where
  customers := tables.customers
  orders := tables.orders.map f
  tickets := tables.tickets
  policies := tables.policies
  ordersUnique := by
    rw [List.map_map]
    exact (List.map_congr_left fun order _ => hid order).symm ▸ tables.ordersUnique
  ordersOwned := List.forall_mem_map.mpr howner

theorem order?_mapOrders (f : OrderRead → OrderRead) (hid : ∀ order, (f order).id = order.id)
    (howner : ∀ order ∈ tables.orders, (f order).customerId ∈ tables.customers) (id : Uuid) :
    (tables.mapOrders f hid howner).order? id = (tables.order? id).map f := by
  rw [order?, mapOrders, List.find?_map]
  simp only [Function.comp_def, hid]
  rfl

/-- `UPDATE orders SET status = 'refunded' WHERE ...` -/
def withRefund (orderId customerId : Uuid) : SupportTables :=
  tables.mapOrders (fun order =>
    if refundable orderId customerId order then order.refund else order)
    (fun order => by split <;> rfl)
    fun order hmem => by
      split
      · exact tables.ordersOwned order hmem
      · exact tables.ordersOwned order hmem

/-- **What a conditional refund changes**: the matching order, to refunded. -/
theorem order?_withRefund (orderId customerId id : Uuid) :
    (tables.withRefund orderId customerId).order? id =
      (tables.order? id).map fun order =>
        if refundable orderId customerId order then order.refund else order :=
  tables.order?_mapOrders ..

/-- The row that a conditional refund returns. -/
def refunded? (orderId customerId : Uuid) : Option OrderRead :=
  (tables.order? orderId).bind fun order =>
    if refundable orderId customerId order then some order.refund else none

/-- The primary key leaves one candidate for a conditional refund. -/
theorem find?_refundable (orderId customerId : Uuid) :
    (tables.orders.find? (refundable orderId customerId)).map OrderRead.refund =
      tables.refunded? orderId customerId := by
  unfold refunded?
  cases hmatch : tables.orders.find? (refundable orderId customerId) with
  | some order =>
    have hrefundable : refundable orderId customerId order = true := List.find?_some hmatch
    have horder : tables.order? orderId = some order :=
      order?_eq_some.mpr ⟨List.mem_of_find?_eq_some hmatch, (refundable_iff.mp hrefundable).1⟩
    rw [horder, Option.bind_some, if_pos hrefundable, Option.map_some]
  | none =>
    cases horder : tables.order? orderId with
    | none => rfl
    | some order =>
      have hmem := (order?_eq_some.mp horder).1
      rw [Option.bind_some, if_neg (List.find?_eq_none.mp hmatch order hmem), Option.map_none]

/-- A conditional refund that matches no order changes nothing. -/
theorem withRefund_of_refunded?_eq_none {orderId customerId : Uuid}
    (h : tables.refunded? orderId customerId = none) :
    tables.withRefund orderId customerId = tables := by
  have hnone : ∀ order ∈ tables.orders, ¬ refundable orderId customerId order = true := by
    rw [← find?_refundable, Option.map_eq_none_iff] at h
    exact List.find?_eq_none.mp h
  have horders : tables.orders.map (fun order =>
      if refundable orderId customerId order then order.refund else order) = tables.orders := by
    conv_rhs => rw [← List.map_id tables.orders]
    exact List.map_congr_left fun order hmem => if_neg (hnone order hmem)
  unfold withRefund mapOrders
  simp only [horders]

/-- The rows with one order overwritten. -/
def withOrder (order : OrderRead) (h : order.customerId ∈ tables.customers) : SupportTables :=
  tables.mapOrders (fun row => if row.id = order.id then order else row)
    (fun row => by
      split
      · rename_i hid
        exact hid.symm
      · rfl)
    fun row hmem => by
      split
      · exact h
      · exact tables.ordersOwned row hmem

/-- The rows with one more ticket. -/
def withTicket (ticket : TicketRead) : SupportTables :=
  { tables with tickets := tables.tickets ++ [ticket] }

@[simp] theorem order?_withTicket (ticket : TicketRead) (id : Uuid) :
    (tables.withTicket ticket).order? id = tables.order? id := rfl

end SupportTables

theorem isAmount_zero : isAmount ⟨false, 0, 0⟩ = true := by decide +kernel

/-- An order that costs nothing. -/
def freeOrder (id customerId : Uuid) (status : OrderStatus) : OrderRead where
  id := id
  customerId := customerId
  status := status
  totalAmount := ⟨false, 0, 0⟩
  validAmount := isAmount_zero

/-- The rows of one order and its customer. -/
def SupportTables.single (order : OrderRead) : SupportTables where
  customers := [order.customerId]
  orders := [order]
  ordersUnique := List.nodup_singleton _
  ordersOwned := fun row hmem => by
    rw [List.mem_singleton.mp hmem]
    exact List.mem_singleton_self _

theorem SupportTables.order?_single (order : OrderRead) :
    (single order).order? order.id = some order :=
  order?_eq_some.mpr ⟨List.mem_singleton_self _, rfl⟩

/-! ## The boundary -/

/-- The persistence boundary of the support domain, by the effect of its calls. -/
structure SupportRepository (m : Type → Type) where
  getOrder : Uuid → m (Option OrderRead)
  saveOrder : OrderRead → m (Option OrderRead)
  refundOrderIfDelivered : Uuid → Uuid → m (Option OrderRead)
  createTicket : TicketCreate → m TicketRead
  getTicket : Uuid → m (Option TicketRead)
  getPolicy : String → Option String → m (Option PolicyDocumentRead)

/-- Text that the database can store: it has no U+0000. -/
def isStorableText (text : String) : Bool := Char.ofNat 0 ∉ text.toList

/-- The text of a query that the database takes. -/
def isStorableQuery (slug : String) (version : Option String) : Bool :=
  isStorableText slug && version.all isStorableText

theorem isStorableQuery_latest (slug : String) : isStorableQuery slug none = isStorableText slug :=
  Bool.and_true _

/-- One database session, with the rows at the beginning of its transaction. A statement that the
database refuses rolls the transaction back, and the session refuses every later call. -/
structure SupportSession where
  tables : SupportTables
  begun : SupportTables
  needsRollback : Bool := false

/-- A session whose transaction begins on the given rows. -/
def SupportSession.begin (tables : SupportTables) : SupportSession where
  tables := tables
  begun := tables

def pendingRollback : PyError :=
  .other "PendingRollbackError" "This Session's transaction has been rolled back"

def integrityError (constraint : String) : PyError := .other "IntegrityError" constraint

/-- The error of a statement whose text the database cannot store. -/
def invalidText : PyError :=
  .other "DBAPIError" "invalid byte sequence for encoding \"UTF8\": 0x00"

section Session

/-- The rows of a session that takes statements. -/
def openTables : Action SupportSession SupportTables := do
  let session ← get
  if session.needsRollback then throw pendingRollback
  return session.tables

def setTables (tables : SupportTables) : Action SupportSession Unit :=
  modify fun session => { session with tables := tables }

/-- A statement that the database refuses. -/
def refuse {α : Type} (error : PyError) : Action SupportSession α := do
  modify fun session => { session with tables := session.begun, needsRollback := true }
  throw error

/-- A statement that violates a constraint. -/
def violate {α : Type} (constraint : String) : Action SupportSession α :=
  refuse (integrityError constraint)

variable [RandomIds] [Collation]

/-- The newest version of a policy document. -/
def newestPolicy : List PolicyDocumentRead → Option PolicyDocumentRead
  | [] => none
  | policy :: policies =>
    match newestPolicy policies with
    | none => some policy
    | some newest => if Collation.le newest.version policy.version then some policy else some newest

/-- The row that the session inserts for a new ticket. -/
def ticketRow (tables : SupportTables) (ticket : TicketCreate) : TicketRead where
  id := RandomIds.uuid4 tables.tickets.length
  customerId := ticket.customerId
  orderId := ticket.orderId
  subject := ticket.subject
  status := ticket.status
  validSubject := ticket.validSubject

/-- The boundary on the rows of a session. -/
def sqlAlchemySupportRepository : SupportRepository (Action SupportSession) where
  getOrder orderId := do
    let tables ← openTables
    return tables.order? orderId
  saveOrder order := do
    let tables ← openTables
    if (tables.order? order.id).isNone then return none
    else if h : order.customerId ∈ tables.customers then
      setTables (tables.withOrder order h)
      return some order
    else violate "orders_customer_id_fkey"
  refundOrderIfDelivered orderId customerId := do
    let tables ← openTables
    setTables (tables.withRefund orderId customerId)
    return (tables.orders.find? (refundable orderId customerId)).map OrderRead.refund
  createTicket ticket := do
    let tables ← openTables
    if ¬ isStorableText ticket.subject then refuse invalidText
    else if ticket.customerId ∉ tables.customers then violate "tickets_customer_id_fkey"
    else if ¬ ticket.orderId.all fun orderId => (tables.order? orderId).isSome then
      violate "tickets_order_id_fkey"
    else
      setTables (tables.withTicket (ticketRow tables ticket))
      return ticketRow tables ticket
  getTicket ticketId := do
    let tables ← openTables
    return tables.tickets.find? (·.id = ticketId)
  getPolicy slug version := do
    let tables ← openTables
    if ¬ isStorableQuery slug version then refuse invalidText
    else
      let policies := tables.policies.filter (·.slug = slug)
      match version with
      | some version => return policies.find? (·.version = version)
      | none => return newestPolicy policies

/-! ### Calls on an open session -/

variable {tables begun : SupportTables}

theorem run_getOrder (orderId : Uuid) :
    (sqlAlchemySupportRepository.getOrder orderId).run ⟨tables, begun, false⟩ =
      .ok (tables.order? orderId) ⟨tables, begun, false⟩ := rfl

theorem run_saveOrder {order row : OrderRead} (hrow : tables.order? order.id = some row)
    (hcustomer : order.customerId ∈ tables.customers) :
    (sqlAlchemySupportRepository.saveOrder order).run ⟨tables, begun, false⟩ =
      .ok (some order) ⟨tables.withOrder order hcustomer, begun, false⟩ := by
  change EStateM.run (if (tables.order? order.id).isNone then _ else
    if h : order.customerId ∈ tables.customers then _ else _) _ = _
  rw [if_neg (by simp [hrow]), dif_pos hcustomer]
  rfl

theorem run_refundOrderIfDelivered (orderId customerId : Uuid) :
    (sqlAlchemySupportRepository.refundOrderIfDelivered orderId customerId).run
        ⟨tables, begun, false⟩ =
      .ok (tables.refunded? orderId customerId)
        ⟨tables.withRefund orderId customerId, begun, false⟩ := by
  rw [← SupportTables.find?_refundable]
  rfl

/-- A ticket of a known customer, about no order or a stored one, is created. -/
theorem run_createTicket {ticket : TicketCreate} (hsubject : isStorableText ticket.subject = true)
    (hcustomer : ticket.customerId ∈ tables.customers)
    (horder : ticket.orderId.all fun orderId => (tables.order? orderId).isSome) :
    (sqlAlchemySupportRepository.createTicket ticket).run ⟨tables, begun, false⟩ =
      .ok (ticketRow tables ticket)
        ⟨tables.withTicket (ticketRow tables ticket), begun, false⟩ := by
  change EStateM.run (if ¬ isStorableText ticket.subject = true then _ else if
    ticket.customerId ∉ tables.customers then _ else if
    ¬ ticket.orderId.all (fun orderId => (tables.order? orderId).isSome) = true then _ else _) _ = _
  rw [if_neg (not_not.mpr hsubject), if_neg (not_not.mpr hcustomer), if_neg (not_not.mpr horder)]
  rfl

/-- A ticket whose subject the database cannot store rolls the transaction back. -/
theorem run_createTicket_refused {ticket : TicketCreate}
    (hsubject : isStorableText ticket.subject = false) :
    (sqlAlchemySupportRepository.createTicket ticket).run ⟨tables, begun, false⟩ =
      .error invalidText ⟨begun, begun, true⟩ := by
  change EStateM.run (if ¬ isStorableText ticket.subject = true then _ else _) _ = _
  rw [if_pos (Bool.eq_false_iff.mp hsubject)]
  rfl

/-- So does a ticket of an unknown customer. -/
theorem run_createTicket_unknown {ticket : TicketCreate}
    (hsubject : isStorableText ticket.subject = true)
    (hcustomer : ticket.customerId ∉ tables.customers) :
    (sqlAlchemySupportRepository.createTicket ticket).run ⟨tables, begun, false⟩ =
      .error (integrityError "tickets_customer_id_fkey") ⟨begun, begun, true⟩ := by
  change EStateM.run (if ¬ isStorableText ticket.subject = true then _ else if
    ticket.customerId ∉ tables.customers then _ else _) _ = _
  rw [if_neg (not_not.mpr hsubject), if_pos hcustomer]
  rfl

theorem run_getPolicy {slug : String} {version : Option String}
    (hquery : isStorableQuery slug version = true) :
    (sqlAlchemySupportRepository.getPolicy slug version).run ⟨tables, begun, false⟩ =
      .ok (match version with
        | some version => (tables.policies.filter (·.slug = slug)).find? (·.version = version)
        | none => newestPolicy (tables.policies.filter (·.slug = slug)))
          ⟨tables, begun, false⟩ := by
  change EStateM.run (if ¬ isStorableQuery slug version = true then _ else _) _ = _
  rw [if_neg (not_not.mpr hquery)]
  cases version with
  | none => rfl
  | some version => rfl

/-- A query whose text the database cannot store rolls the transaction back. -/
theorem run_getPolicy_refused {slug : String} {version : Option String}
    (hquery : isStorableQuery slug version = false) :
    (sqlAlchemySupportRepository.getPolicy slug version).run ⟨tables, begun, false⟩ =
      .error invalidText ⟨begun, begun, true⟩ := by
  change EStateM.run (if ¬ isStorableQuery slug version = true then _ else _) _ = _
  rw [if_pos (Bool.eq_false_iff.mp hquery)]
  rfl

end Session

/-! ## What a repository does to the rows -/

section Stores

variable {World : Type}

/-- A world is ready for the calls of a repository, and its rows are the given ones. -/
def Holds (tables : World → SupportTables) (ready : World → Prop) (rows : SupportTables)
    (world : World) : Prop :=
  tables world = rows ∧ ready world

/-- **A repository whose calls for one customer read and write support tables.** A call that raises
leaves the rows as they are, unless the database refuses its text and the transaction is lost. -/
structure Stores (repository : SupportRepository (Action World)) (customerId : Uuid)
    (tables : World → SupportTables) (ready lost : World → Prop) : Prop where
  getOrder : ∀ orderId rows, Triple (Holds tables ready rows) (repository.getOrder orderId)
    (fun order world => order = rows.order? orderId ∧ Holds tables ready rows world)
    fun _ => Holds tables ready rows
  refundOrderIfDelivered : ∀ orderId rows,
    Triple (Holds tables ready rows) (repository.refundOrderIfDelivered orderId customerId)
      (fun saved world => saved = rows.refunded? orderId customerId ∧
        Holds tables ready (rows.withRefund orderId customerId) world)
      fun _ => Holds tables ready rows
  createTicket : ∀ ticket rows, ticket.customerId = customerId → ticket.orderId = none →
    Triple (Holds tables ready rows) (repository.createTicket ticket)
      (fun row world => row.customerId = customerId ∧
        Holds tables ready (rows.withTicket row) world)
      fun e world => Holds tables ready rows world ∨
        isStorableText ticket.subject = false ∧ e = invalidText ∧ lost world
  getPolicy : ∀ slug version rows,
    Triple (Holds tables ready rows) (repository.getPolicy slug version)
      (fun _ => Holds tables ready rows)
      fun e world => Holds tables ready rows world ∨
        isStorableQuery slug version = false ∧ e = invalidText ∧ lost world

end Stores

namespace SupportSession

/-- A session whose transaction was rolled back. -/
def Lost (begun : SupportTables) (session : SupportSession) : Prop := session = ⟨begun, begun, true⟩

/-- A session that a violated constraint cannot roll back to other rows: its transaction changed
nothing yet, or the customer of its calls is registered. -/
def Settled (customerId : Uuid) (begun : SupportTables) (session : SupportSession) : Prop :=
  session.Lost begun ∨ session.begun = begun ∧ session.needsRollback = false ∧
    (session.tables = begun ∨ customerId ∈ session.tables.customers)

theorem settled_begin (customerId : Uuid) (database : SupportTables) :
    (begin database).Settled customerId database := Or.inr ⟨rfl, rfl, Or.inl rfl⟩

end SupportSession

/-- A session that takes a statement returns its rows. -/
theorem openTables_triple {P : SupportSession → Prop} :
    Triple P openTables
      (fun read session => read = session.tables ∧ session.needsRollback = false ∧ P session)
      fun e session => e = pendingRollback ∧ session.needsRollback = true ∧ P session := by
  rintro ⟨tables, begun, needsRollback⟩ h
  cases needsRollback with
  | false => exact ⟨rfl, rfl, h⟩
  | true => exact ⟨rfl, rfl, h⟩

/-- A refused statement rolls the transaction back. -/
theorem refuse_triple {α : Type} {error : PyError} {begun : SupportTables}
    {Q : α → SupportSession → Prop} :
    Triple (fun session => session.begun = begun) (refuse error : Action SupportSession α) Q
      fun e session => e = error ∧ session.Lost begun := by
  rintro session rfl
  exact ⟨rfl, rfl⟩

/-- A conditional refund keeps a session settled: a customer with an order is registered. -/
theorem registered_withRefund {tables begun : SupportTables} {orderId customerId : Uuid}
    (h : tables = begun ∨ customerId ∈ tables.customers) :
    tables.withRefund orderId customerId = begun ∨
      customerId ∈ (tables.withRefund orderId customerId).customers := by
  rcases h with hbegun | hcustomer
  · cases hrefunded : tables.refunded? orderId customerId with
    | none =>
      rw [tables.withRefund_of_refunded?_eq_none hrefunded]
      exact Or.inl hbegun
    | some saved =>
      rw [SupportTables.refunded?, Option.bind_eq_some_iff] at hrefunded
      obtain ⟨order, horder, hmatch⟩ := hrefunded
      -- a refund that matched names the owner, and every order of the table has a customer
      have howner : order.customerId = customerId := by
        by_contra hother
        rw [if_neg fun h => hother (refundable_iff.mp h).2.1] at hmatch
        cases hmatch
      rw [← howner]
      exact Or.inr (tables.ordersOwned order (SupportTables.order?_eq_some.mp horder).1)
  · exact Or.inr hcustomer

section Session

variable {customerId : Uuid} {begun : SupportTables}

/-- A settled session that takes statements has the rows of a transaction that is not lost. -/
theorem SupportSession.Settled.of_open {session : SupportSession}
    (h : session.Settled customerId begun) (hopen : session.needsRollback = false) :
    session.begun = begun ∧ (session.tables = begun ∨ customerId ∈ session.tables.customers) := by
  rcases h with hlost | ⟨hbegun, -, hsettled⟩
  · rw [hlost] at hopen
    cases hopen
  · exact ⟨hbegun, hsettled⟩

/-- A call of a lost transaction is refused before its statement. -/
theorem openTables_lost {α : Type} {statement : SupportTables → Action SupportSession α} :
    Triple (SupportSession.Lost begun) (openTables >>= statement) (fun _ _ => False)
      fun _ => SupportSession.Lost begun := by
  rintro _ rfl
  exact rfl

/-- A refused statement of a settled session loses its transaction. -/
theorem openTables_refuse {α : Type} {statement : SupportTables → Action SupportSession α}
    {error : PyError} (h : ∀ tables, statement tables = refuse error) :
    Triple (SupportSession.Settled customerId begun) (openTables >>= statement) (fun _ _ => False)
      fun _ => SupportSession.Lost begun := by
  refine triple_bind (triple_mono openTables_triple (fun _ h => h) (fun _ _ h => h) ?_)
    fun tables => ?_
  · rintro e session ⟨-, hclosed, hlost | ⟨-, hopen, -⟩⟩
    · exact hlost
    · rw [hopen] at hclosed
      cases hclosed
  · rw [h]
    exact triple_mono refuse_triple (fun _ h => (h.2.2.of_open h.2.1).1) (fun _ _ h => h)
      fun _ _ h => h.2

variable [RandomIds] [Collation]

/-- The SQL implementation reads and writes the rows of its session. -/
theorem sqlAlchemySupportRepository_stores (customerId : Uuid) (begun : SupportTables) :
    Stores sqlAlchemySupportRepository customerId SupportSession.tables
      (SupportSession.Settled customerId begun) (SupportSession.Lost begun) where
  getOrder orderId rows := by
    refine triple_bind (triple_mono openTables_triple (fun _ h => h) (fun _ _ h => h)
      fun _ _ h => h.2.2) fun read => triple_pure ?_
    rintro session ⟨rfl, -, h⟩
    exact ⟨by rw [h.1], h⟩
  refundOrderIfDelivered orderId rows := by
    refine triple_bind (triple_mono openTables_triple (fun _ h => h) (fun _ _ h => h)
      fun _ _ h => h.2.2) fun read => ?_
    refine triple_bind (Q := fun _ session => read = rows ∧
      Holds SupportSession.tables (SupportSession.Settled customerId begun)
        (rows.withRefund orderId customerId) session) (triple_modify ?_) fun _ => triple_pure ?_
    · rintro session ⟨rfl, hopen, rfl, h⟩
      obtain ⟨hbegun, hsettled⟩ := h.of_open hopen
      exact ⟨rfl, rfl, Or.inr ⟨hbegun, hopen, registered_withRefund hsettled⟩⟩
    -- the row returned is the one candidate that the primary key leaves
    · rintro session ⟨rfl, h⟩
      exact ⟨read.find?_refundable orderId customerId, h⟩
  createTicket ticket rows hcustomer horder := by
    refine triple_bind (triple_mono openTables_triple (fun _ h => h) (fun _ _ h => h)
      fun _ _ h => Or.inl h.2.2) fun read => ?_
    split
    · rename_i hrefused
      refine triple_mono refuse_triple (fun session h => (h.2.2.2.of_open h.2.1).1)
        (fun _ _ h => h) fun e session h => ?_
      exact Or.inr ⟨Bool.eq_false_iff.mpr hrefused, h⟩
    split
    · rename_i hunknown
      -- an unknown customer has changed nothing, so the rollback changes nothing
      refine triple_mono (Q := fun _ _ => False)
        (E := fun e session => rows = begun ∧ e = integrityError "tickets_customer_id_fkey" ∧
          session.Lost begun) ?_ (fun _ h => h) (fun _ _ h => h.elim) ?_
      · rintro session ⟨rfl, hopen, rfl, h⟩
        obtain ⟨hbegun, hsettled⟩ := h.of_open hopen
        rw [hcustomer] at hunknown
        refine ⟨hsettled.resolve_right hunknown, rfl, ?_⟩
        rw [← hbegun]
        rfl
      · rintro e session ⟨rfl, -, hlost⟩
        exact Or.inl ⟨by rw [hlost], Or.inl hlost⟩
    · rename_i hknown
      split
      · rename_i hmissing
        exact absurd (by rw [horder]; rfl) hmissing
      · refine triple_bind (Q := fun _ => Holds SupportSession.tables
          (SupportSession.Settled customerId begun) (rows.withTicket (ticketRow read ticket)))
          (triple_modify ?_) fun _ => triple_pure fun session h => ⟨hcustomer, h⟩
        rintro session ⟨rfl, hopen, rfl, h⟩
        refine ⟨rfl, Or.inr ⟨(h.of_open hopen).1, hopen, Or.inr ?_⟩⟩
        rw [← hcustomer]
        exact not_not.mp hknown
  getPolicy slug version rows := by
    refine triple_bind (triple_mono openTables_triple (fun _ h => h) (fun _ _ h => h)
      fun _ _ h => Or.inl h.2.2) fun read => ?_
    split
    · rename_i hrefused
      refine triple_mono refuse_triple (fun session h => (h.2.2.2.of_open h.2.1).1)
        (fun _ _ h => h) fun e session h => ?_
      exact Or.inr ⟨Bool.eq_false_iff.mpr hrefused, h⟩
    split
    · exact triple_pure fun _ h => h.2.2
    · exact triple_pure fun _ h => h.2.2

/-! ### A lost transaction -/

/-- **A repository that refuses every call** of a lost transaction, and loses the transaction of a
call whose text the database refuses. -/
structure Loses {World : Type} (repository : SupportRepository (Action World)) (customerId : Uuid)
    (ready lost : World → Prop) : Prop where
  getOrder : ∀ orderId, Triple lost (repository.getOrder orderId) (fun _ _ => False) fun _ => lost
  refundOrderIfDelivered : ∀ orderId,
    Triple lost (repository.refundOrderIfDelivered orderId customerId) (fun _ _ => False)
      fun _ => lost
  createTicket : ∀ ticket,
    Triple lost (repository.createTicket ticket) (fun _ _ => False) fun _ => lost
  getPolicy : ∀ slug version,
    Triple lost (repository.getPolicy slug version) (fun _ _ => False) fun _ => lost
  refusesTicket : ∀ ticket, isStorableText ticket.subject = false →
    Triple ready (repository.createTicket ticket) (fun _ _ => False) fun _ => lost
  refusesQuery : ∀ slug version, isStorableQuery slug version = false →
    Triple ready (repository.getPolicy slug version) (fun _ _ => False) fun _ => lost

/-- **A lost transaction stays lost**, and every later call is refused. -/
theorem sqlAlchemySupportRepository_loses (customerId : Uuid) (begun : SupportTables) :
    Loses sqlAlchemySupportRepository customerId (SupportSession.Settled customerId begun)
      (SupportSession.Lost begun) where
  getOrder _ := openTables_lost
  refundOrderIfDelivered _ := openTables_lost
  createTicket _ := openTables_lost
  getPolicy _ _ := openTables_lost
  refusesTicket _ h := openTables_refuse fun _ => if_pos (Bool.eq_false_iff.mp h)
  refusesQuery _ _ h := openTables_refuse fun _ => if_pos (Bool.eq_false_iff.mp h)

end Session

/-! ## What a repository always does -/

section Serves

variable {World : Type}

/-- **A repository whose calls for one customer return**, unless the database refuses their text. -/
structure Serves (repository : SupportRepository (Action World)) (customerId : Uuid)
    (tables : World → SupportTables) (ready lost : World → Prop) : Prop where
  getOrder : ∀ orderId rows, Triple (Holds tables ready rows) (repository.getOrder orderId)
    (fun order world => order = rows.order? orderId ∧ Holds tables ready rows world)
    fun _ _ => False
  refundOrderIfDelivered : ∀ orderId rows,
    Triple (Holds tables ready rows) (repository.refundOrderIfDelivered orderId customerId)
      (fun saved world => saved = rows.refunded? orderId customerId ∧
        Holds tables ready (rows.withRefund orderId customerId) world)
      fun _ _ => False
  createTicket : ∀ ticket rows, ticket.customerId = customerId → ticket.orderId = none →
    Triple (Holds tables ready rows) (repository.createTicket ticket)
      (fun row world => isStorableText ticket.subject = true ∧ row.customerId = customerId ∧
        Holds tables ready (rows.withTicket row) world)
      fun e world => isStorableText ticket.subject = false ∧ e = invalidText ∧ lost world
  getPolicy : ∀ slug version rows,
    Triple (Holds tables ready rows) (repository.getPolicy slug version)
      (fun _ world => isStorableQuery slug version = true ∧ Holds tables ready rows world)
      fun e world => isStorableQuery slug version = false ∧ e = invalidText ∧ lost world

/-- Calls that return unless their text is refused leave no other rows behind when they raise. -/
theorem Serves.stores {repository : SupportRepository (Action World)} {customerId : Uuid}
    {tables : World → SupportTables} {ready lost : World → Prop}
    (h : Serves repository customerId tables ready lost) :
    Stores repository customerId tables ready lost where
  getOrder orderId rows := (h.getOrder orderId rows).of_returns
  refundOrderIfDelivered orderId rows := (h.refundOrderIfDelivered orderId rows).of_returns
  createTicket ticket rows hcustomer horder :=
    triple_mono (h.createTicket ticket rows hcustomer horder) (fun _ hP => hP)
      (fun _ _ hQ => hQ.2) fun _ _ hE => Or.inr hE
  getPolicy slug version rows :=
    triple_mono (h.getPolicy slug version rows) (fun _ hP => hP) (fun _ _ hQ => hQ.2)
      fun _ _ hE => Or.inr hE

end Serves

namespace SupportSession

/-- A session that takes statements, and knows a customer. -/
def Serving (customerId : Uuid) (session : SupportSession) : Prop :=
  session.needsRollback = false ∧ customerId ∈ session.tables.customers

/-- A session that takes no more statements. -/
def Closed (session : SupportSession) : Prop := session.needsRollback = true

end SupportSession

/-- **The SQL implementation serves a registered customer.** -/
theorem sqlAlchemySupportRepository_serves [RandomIds] [Collation] (customerId : Uuid) :
    Serves sqlAlchemySupportRepository customerId SupportSession.tables
      (SupportSession.Serving customerId) SupportSession.Closed where
  getOrder orderId rows := by
    rintro ⟨_, begun, _⟩ ⟨rfl, rfl, hcustomer⟩
    rw [run_getOrder]
    exact ⟨rfl, rfl, rfl, hcustomer⟩
  refundOrderIfDelivered orderId rows := by
    rintro ⟨_, begun, _⟩ ⟨rfl, rfl, hcustomer⟩
    rw [run_refundOrderIfDelivered]
    exact ⟨rfl, rfl, rfl, hcustomer⟩
  createTicket ticket rows hticket horder := by
    rintro ⟨_, begun, _⟩ ⟨rfl, rfl, hcustomer⟩
    cases hsubject : isStorableText ticket.subject with
    | true =>
      rw [run_createTicket hsubject (by rw [hticket]; exact hcustomer) (by rw [horder]; rfl)]
      exact ⟨rfl, hticket, rfl, rfl, hcustomer⟩
    | false =>
      rw [run_createTicket_refused hsubject]
      exact ⟨rfl, rfl, rfl⟩
  getPolicy slug version rows := by
    rintro ⟨_, begun, _⟩ ⟨rfl, rfl, hcustomer⟩
    cases hquery : isStorableQuery slug version with
    | true =>
      rw [run_getPolicy hquery]
      exact ⟨rfl, rfl, rfl, hcustomer⟩
    | false =>
      rw [run_getPolicy_refused hquery]
      exact ⟨rfl, rfl, rfl⟩

end ObservabilityLab
