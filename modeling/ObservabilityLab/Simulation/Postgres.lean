import ObservabilityLab.Simulation.Adapters
import ObservabilityLab.Support.Repository

/-!
# The observed repository

The sandbox wraps the real repository in an observer that records every accepted write as a state
mutation: an order whose status changed, or a ticket that was created.

## Main definitions

* `MutationLog`: the recorded mutations, with their sequence numbers
* `observedSupportRepository`: the repository with its observer
* `Recordable`: the mutations that the observer can record

## Main results

* `observedRepository_stores`: the observer does not change what a repository does to the rows
* `observedRepository_keeps_wellFormed`, `exists_recorded`: it records the recordable mutations
-/

namespace ObservabilityLab

open Python Raising

/-- The mutations that an observer recorded. -/
structure MutationLog where
  mutations : List StateMutation := []
  sequence : ℕ := 0

/-- `_record(...)` -/
def MutationLog.record (log : MutationLog) (resource : String) (resourceId : Uuid) (field : String)
    (before after : PyValue) (reasonCode : String) : MutationLog where
  mutations := log.mutations ++
    [{ sequence := log.sequence + 1
       resource := resource
       resourceId := resourceId.str
       field := field
       before := before
       after := after
       reasonCode := reasonCode }]
  sequence := log.sequence + 1

section Observer

variable {m : Type → Type} [Monad m] (updateLog : (MutationLog → MutationLog) → m Unit)

/-- Record a write to an order when its status changed. -/
def recordOrder (before saved : Option OrderRead) : m Unit :=
  match before, saved with
  | some before, some saved =>
    if before.status ≠ saved.status then
      updateLog fun log =>
        log.record "order" saved.id "status" (.str before.status.value) (.str saved.status.value)
          "refund_executed"
    else pure ()
  | _, _ => pure ()

/-- Record the creation of a ticket. -/
def recordTicket (created : TicketRead) : m Unit :=
  updateLog fun log => log.record "ticket" created.id "created" .none created.dump "ticket_created"

/-- Delegate to a repository and report accepted writes; `updateLog` changes the observer's log. -/
def observedSupportRepository (repository : SupportRepository m) : SupportRepository m where
  getOrder := repository.getOrder
  saveOrder order := do
    let before ← repository.getOrder order.id
    let saved ← repository.saveOrder order
    recordOrder updateLog before saved
    return saved
  refundOrderIfDelivered orderId customerId := do
    let before ← repository.getOrder orderId
    let saved ← repository.refundOrderIfDelivered orderId customerId
    recordOrder updateLog before saved
    return saved
  createTicket ticket := do
    let created ← repository.createTicket ticket
    recordTicket updateLog created
    return created
  getTicket := repository.getTicket
  getPolicy := repository.getPolicy

end Observer

/-- The calls of a repository under another effect. -/
def SupportRepository.map {m n : Type → Type} (f : ∀ {α : Type}, m α → n α)
    (repository : SupportRepository m) : SupportRepository n where
  getOrder orderId := f (repository.getOrder orderId)
  saveOrder order := f (repository.saveOrder order)
  refundOrderIfDelivered orderId customerId :=
    f (repository.refundOrderIfDelivered orderId customerId)
  createTicket ticket := f (repository.createTicket ticket)
  getTicket ticketId := f (repository.getTicket ticketId)
  getPolicy slug version := f (repository.getPolicy slug version)

/-! ## The observer of a repository on a world -/

/-- A world with the log of an observer. -/
structure Observed (World : Type) where
  inner : World
  log : MutationLog := {}

namespace Observed

variable {World : Type}

/-- An action on the observed world. -/
def onInner {α : Type} (x : Action World α) : Action (Observed World) α :=
  zoom Observed.inner (fun inner world => { world with inner := inner }) x

def updateLog (f : MutationLog → MutationLog) : Action (Observed World) Unit :=
  modify fun world => { world with log := f world.log }

end Observed

/-- The repository of a sandbox: the real one, observed. -/
def observedRepository {World : Type} (repository : SupportRepository (Action World)) :
    SupportRepository (Action (Observed World)) :=
  observedSupportRepository Observed.updateLog (repository.map Observed.onInner)

section Stores

variable {World : Type} {repository : SupportRepository (Action World)} {customerId : Uuid}
  {tables : World → SupportTables} {ready lost : World → Prop}

/-- What an action does to a world, it does to the observed world. -/
theorem onInner_triple {α : Type} {P : World → Prop} {Q : α → World → Prop}
    {E : PyError → World → Prop} {x : Action World α} (h : Triple P x Q E) :
    Triple (P ·.inner) (Observed.onInner x) (fun a world => Q a world.inner)
      fun e world => E e world.inner :=
  triple_zoom fun world hP => triple_mono h (by rintro _ rfl; exact hP) (fun _ _ hQ => hQ)
    fun _ _ hE => hE

/-- Recording writes only the log, and raises nothing. -/
theorem recordOrder_triple {Q : World → Prop} {E : PyError → Observed World → Prop}
    (before saved : Option OrderRead) :
    Triple (Q ·.inner) (recordOrder Observed.updateLog before saved) (fun _ world => Q world.inner)
      E := by
  unfold recordOrder
  split
  · split
    · exact triple_modify fun _ h => h
    · exact triple_pure fun _ h => h
  · exact triple_pure fun _ h => h

/-- The observer does not change what a repository does to the rows. -/
theorem observedRepository_stores (hstores : Stores repository customerId tables ready lost) :
    Stores (observedRepository repository) customerId (tables ·.inner) (ready ·.inner)
      (lost ·.inner) where
  getOrder orderId rows := onInner_triple (hstores.getOrder orderId rows)
  refundOrderIfDelivered orderId rows := by
    refine triple_bind (onInner_triple (hstores.getOrder orderId rows)) fun before => ?_
    refine triple_bind (triple_mono (onInner_triple (hstores.refundOrderIfDelivered orderId rows))
      (fun _ h => h.2) (fun _ _ h => h) fun _ _ h => h) fun saved => ?_
    refine triple_bind (recordOrder_triple (Q := fun inner =>
      saved = rows.refunded? orderId customerId ∧
        Holds tables ready (rows.withRefund orderId customerId) inner) before saved) fun _ => ?_
    exact triple_pure fun _ h => h
  createTicket ticket rows hcustomer horder := by
    refine triple_bind (onInner_triple (hstores.createTicket ticket rows hcustomer horder))
      fun created => ?_
    exact triple_bind (Q := fun _ (world : Observed World) => created.customerId = customerId ∧
      Holds tables ready (rows.withTicket created) world.inner) (triple_modify fun _ h => h)
      fun _ => triple_pure (Q := fun row (world : Observed World) => row.customerId = customerId ∧
        Holds tables ready (rows.withTicket row) world.inner) fun _ h => h
  getPolicy slug version rows := onInner_triple (hstores.getPolicy slug version rows)

end Stores

/-! ## What the log says about the rows -/

/-- **A relation of the rows and the log that the observer keeps.** -/
structure LogInvariant (customerId : Uuid) (J : SupportTables → MutationLog → Prop) : Prop where
  refunded : ∀ rows log orderId, J rows log → J (rows.withRefund orderId customerId) log
  recorded : ∀ rows log orderId before after, J rows log →
    J rows (log.record "order" orderId "status" before after "refund_executed")
  created : ∀ rows log ticket, ticket.customerId = customerId → J rows log →
    J (rows.withTicket ticket)
      (log.record "ticket" ticket.id "created" .none ticket.dump "ticket_created")

section LogInvariant

variable {World : Type} {repository : SupportRepository (Action World)} {customerId : Uuid}
  {tables : World → SupportTables} {ready lost : World → Prop}
  {J : SupportTables → MutationLog → Prop}

/-- An observed world that is ready, and whose log says of the rows what the observer keeps. -/
def Logged (tables : World → SupportTables) (ready : World → Prop)
    (J : SupportTables → MutationLog → Prop) (world : Observed World) : Prop :=
  ready world.inner ∧ J (tables world.inner) world.log

theorem holds_logged_iff {rows : SupportTables} {world : Observed World} :
    Holds (tables ·.inner) (Logged tables ready J) rows world ↔
      Holds tables ready rows world.inner ∧ J rows world.log := by
  constructor
  · rintro ⟨rfl, hready, hJ⟩
    exact ⟨⟨rfl, hready⟩, hJ⟩
  · rintro ⟨⟨rfl, hready⟩, hJ⟩
    exact ⟨rfl, hready, hJ⟩

/-- What an action does to the rows of a world, it does to those of the observed world; the log
stays. -/
theorem onInner_logged_triple {α : Type} {P : World → Prop} {Q : α → World → Prop}
    {E : PyError → World → Prop} {K : MutationLog → Prop} {x : Action World α}
    (h : Triple P x Q E) :
    Triple (fun world : Observed World => P world.inner ∧ K world.log) (Observed.onInner x)
      (fun a world => Q a world.inner ∧ K world.log) fun e world => E e world.inner :=
  triple_zoom fun world hP => triple_mono h (by rintro _ rfl; exact hP.1)
    (fun _ _ hQ => ⟨hQ, hP.2⟩) fun _ _ hE => hE

/-- The observer serves what the repository serves, and keeps what its log says of the rows. -/
theorem observedRepository_serves (hserves : Serves repository customerId tables ready lost)
    (hlog : LogInvariant customerId J) :
    Serves (observedRepository repository) customerId (tables ·.inner) (Logged tables ready J)
      (lost ·.inner) where
  getOrder orderId rows :=
    triple_mono (onInner_logged_triple (K := J rows) (hserves.getOrder orderId rows))
      (fun _ h => holds_logged_iff.mp h)
      (fun _ _ h => ⟨h.1.1, holds_logged_iff.mpr ⟨h.1.2, h.2⟩⟩) fun _ _ h => h
  refundOrderIfDelivered orderId rows := by
    refine triple_bind (triple_mono
      (onInner_logged_triple (K := J rows) (hserves.getOrder orderId rows))
      (fun _ h => holds_logged_iff.mp h) (fun _ _ h => h) fun _ _ h => h) fun before => ?_
    refine triple_bind (Q := fun saved world => (saved = rows.refunded? orderId customerId ∧
      Holds tables ready (rows.withRefund orderId customerId) world.inner) ∧
      J (rows.withRefund orderId customerId) world.log) (triple_mono
        (onInner_logged_triple (K := J rows) (hserves.refundOrderIfDelivered orderId rows))
        (fun _ h => ⟨h.1.2, h.2⟩) (fun _ _ h => ⟨h.1, hlog.refunded _ _ orderId h.2⟩)
        fun _ _ h => h) fun saved => ?_
    refine triple_bind (Q := fun _ world => (saved = rows.refunded? orderId customerId ∧
      Holds tables ready (rows.withRefund orderId customerId) world.inner) ∧
      J (rows.withRefund orderId customerId) world.log) ?_ fun _ =>
        triple_pure fun _ h => ⟨h.1.1, holds_logged_iff.mpr ⟨h.1.2, h.2⟩⟩
    -- a changed status is logged; a row that stayed as it was is not
    unfold recordOrder
    split
    · split
      · exact triple_modify fun world h => ⟨h.1, hlog.recorded _ _ _ _ _ h.2⟩
      · exact triple_pure fun _ h => h
    · exact triple_pure fun _ h => h
  createTicket ticket rows hcustomer horder := by
    refine triple_bind (triple_mono
      (onInner_logged_triple (K := J rows) (hserves.createTicket ticket rows hcustomer horder))
      (fun _ h => holds_logged_iff.mp h) (fun _ _ h => h) fun _ _ h => h) fun created => ?_
    refine triple_bind (Q := fun _ world => (isStorableText ticket.subject = true ∧
      created.customerId = customerId ∧
      Holds tables ready (rows.withTicket created) world.inner) ∧
      J (rows.withTicket created) world.log) (triple_modify fun world h => ?_) fun _ =>
        triple_pure fun _ h => ⟨h.1.1, h.1.2.1, holds_logged_iff.mpr ⟨h.1.2.2, h.2⟩⟩
    exact ⟨h.1, hlog.created rows world.log created h.1.2.1 h.2⟩
  getPolicy slug version rows :=
    triple_mono (onInner_logged_triple (K := J rows) (hserves.getPolicy slug version rows))
      (fun _ h => holds_logged_iff.mp h)
      (fun _ _ h => ⟨h.1.1, holds_logged_iff.mpr ⟨h.1.2, h.2⟩⟩) fun _ _ h => h

end LogInvariant

/-! ## The recordable mutations -/

/-- The mutation of an order whose status changed. -/
def statusMutation (sequence : ℕ) (orderId : Uuid) (before after : OrderStatus) :
    StateMutation where
  sequence := sequence
  resource := "order"
  resourceId := orderId.str
  field := "status"
  before := .str before.value
  after := .str after.value
  reasonCode := "refund_executed"

/-- The mutation of a created ticket. -/
def creationMutation (sequence : ℕ) (ticket : TicketRead) : StateMutation where
  sequence := sequence
  resource := "ticket"
  resourceId := ticket.id.str
  field := "created"
  before := .none
  after := ticket.dump
  reasonCode := "ticket_created"

/-- **What the observer can record**: the change of an order's status, or the creation of a
ticket. -/
inductive Recordable : StateMutation → Prop where
  | statusChange (sequence : ℕ) (orderId : Uuid) (before after : OrderStatus)
      (changed : before ≠ after) : Recordable (statusMutation sequence orderId before after)
  | ticketCreated (sequence : ℕ) (ticket : TicketRead) :
      Recordable (creationMutation sequence ticket)

namespace MutationLog

/-- Every recorded mutation is recordable, and they are numbered in order. -/
structure WellFormed (log : MutationLog) : Prop where
  recordable : ∀ mutation ∈ log.mutations, Recordable mutation
  numbered : log.mutations.map (·.sequence) = List.range' 1 log.sequence

theorem WellFormed.record {log : MutationLog} (hlog : log.WellFormed) {resource : String}
    {resourceId : Uuid} {field : String} {before after : PyValue} {reasonCode : String}
    (h : Recordable
      { sequence := log.sequence + 1
        resource := resource
        resourceId := resourceId.str
        field := field
        before := before
        after := after
        reasonCode := reasonCode }) :
    (log.record resource resourceId field before after reasonCode).WellFormed where
  recordable := by
    intro mutation hmem
    rcases List.mem_append.mp hmem with hold | hnew
    · exact hlog.recordable mutation hold
    · rw [List.mem_singleton.mp hnew]
      exact h
  numbered := by
    rw [MutationLog.record, List.map_append, hlog.numbered, List.range'_concat]
    simp [Nat.add_comm]

end MutationLog

section Recorded

variable {World : Type} {repository : SupportRepository (Action World)}

theorem onInner_keeps_log {α : Type} {P : MutationLog → Prop} (x : Action World α) :
    Keeps (P ·.log) (Observed.onInner x) :=
  triple_zoom fun _ h => triple_of_runs (fun _ _ _ _ _ => h) fun _ _ _ _ _ => h

theorem recordOrder_keeps_wellFormed (before saved : Option OrderRead) :
    Keeps (fun world : Observed World => world.log.WellFormed)
      (recordOrder Observed.updateLog before saved) := by
  unfold recordOrder
  split
  · split
    · rename_i before saved hchanged
      exact triple_modify fun world hlog =>
        hlog.record (.statusChange _ saved.id before.status saved.status hchanged)
    · exact triple_pure fun _ h => h
  · exact triple_pure fun _ h => h

/-- **Whatever the repository does, the observer records recordable mutations**, numbered in
order. -/
theorem observedRepository_keeps_wellFormed :
    (∀ orderId, Keeps (·.log.WellFormed) ((observedRepository repository).getOrder orderId)) ∧
      (∀ order, Keeps (·.log.WellFormed) ((observedRepository repository).saveOrder order)) ∧
      (∀ orderId customerId, Keeps (·.log.WellFormed)
        ((observedRepository repository).refundOrderIfDelivered orderId customerId)) ∧
      (∀ ticket, Keeps (·.log.WellFormed) ((observedRepository repository).createTicket ticket)) ∧
      ∀ slug version, Keeps (·.log.WellFormed)
        ((observedRepository repository).getPolicy slug version) := by
  refine ⟨fun _ => onInner_keeps_log _, fun order => ?_, fun orderId customerId => ?_,
    fun ticket => ?_, fun _ _ => onInner_keeps_log _⟩
  · exact (onInner_keeps_log _).bind fun _ => (onInner_keeps_log _).bind fun _ =>
      (recordOrder_keeps_wellFormed _ _).bind fun _ => triple_pure fun _ h => h
  · exact (onInner_keeps_log _).bind fun _ => (onInner_keeps_log _).bind fun _ =>
      (recordOrder_keeps_wellFormed _ _).bind fun _ => triple_pure fun _ h => h
  · refine (onInner_keeps_log _).bind fun created => ?_
    refine Keeps.bind (triple_modify fun world hlog => ?_) fun _ => triple_pure fun _ h => h
    exact hlog.record (.ticketCreated _ created)

end Recorded

section Completeness

variable [RandomIds] [Collation]

/-- The mutations that a call on an open session records. -/
def recordedBy {α : Type} (tables : SupportTables)
    (call : SupportRepository (Action (Observed SupportSession)) →
      Action (Observed SupportSession) α) : List StateMutation :=
  (finalState ((call (observedRepository sqlAlchemySupportRepository)).run
    ⟨.begin tables, {}⟩)).log.mutations

theorem recordedBy_saveOrder (orderId : Uuid) {before after : OrderStatus}
    (changed : before ≠ after) :
    recordedBy (.single (freeOrder orderId orderId before))
        (·.saveOrder (freeOrder orderId orderId after)) =
      [statusMutation 1 orderId before after] := by
  have hrow : (SupportTables.single (freeOrder orderId orderId before)).order?
      (freeOrder orderId orderId after).id = some (freeOrder orderId orderId before) :=
    SupportTables.order?_single (freeOrder orderId orderId before)
  have hchanged : (freeOrder orderId orderId before).status ≠
    (freeOrder orderId orderId after).status := changed
  simp only [recordedBy, SupportSession.begin, observedRepository, observedSupportRepository,
    SupportRepository.map, EStateM.run_bind, Observed.onInner, run_zoom, run_getOrder,
    run_saveOrder hrow (List.mem_singleton_self _), hrow, recordOrder, if_pos hchanged]
  rfl

/-- The request that creates a given ticket. -/
def TicketRead.request (ticket : TicketRead) : TicketCreate where
  customerId := ticket.customerId
  orderId := ticket.orderId
  subject := ticket.subject
  status := ticket.status
  validSubject := ticket.validSubject

/-- The rows of a ticket's customer, and of its order. -/
def TicketRead.surroundings (ticket : TicketRead) : SupportTables :=
  .single (freeOrder (ticket.orderId.getD ticket.id) ticket.customerId .pending)

theorem recordedBy_createTicket (ticket : TicketRead) (hid : RandomIds.uuid4 0 = ticket.id)
    (hsubject : isStorableText ticket.subject = true) :
    recordedBy ticket.surroundings (·.createTicket ticket.request) =
      [creationMutation 1 ticket] := by
  have hcustomer : ticket.request.customerId ∈ ticket.surroundings.customers :=
    List.mem_singleton_self _
  have horder : ticket.request.orderId.all fun orderId =>
      (ticket.surroundings.order? orderId).isSome := by
    change ticket.orderId.all _ = true
    cases horderId : ticket.orderId with
    | none => rfl
    | some orderId =>
      rw [Option.all_some, TicketRead.surroundings, horderId, Option.getD_some]
      exact Option.isSome_of_eq_some (SupportTables.order?_single (freeOrder orderId _ _))
  have hrow : ticketRow ticket.surroundings ticket.request = ticket := by
    have hfresh : RandomIds.uuid4 ticket.surroundings.tickets.length = ticket.id := hid
    rw [ticketRow, hfresh]
    rfl
  simp only [recordedBy, SupportSession.begin, observedRepository, observedSupportRepository,
    SupportRepository.map, EStateM.run_bind, Observed.onInner, run_zoom,
    run_createTicket hsubject hcustomer horder, hrow]
  rfl

end Completeness

/-- **Every recordable mutation is recorded** by some call on some session, as its first one; the
ticket of a creation has a subject that the database can store. -/
theorem exists_recorded {mutation : StateMutation} (h : Recordable mutation)
    (hstorable : ∀ sequence ticket, mutation = creationMutation sequence ticket →
      isStorableText ticket.subject = true) :
    ∃ (ids : RandomIds) (order : Collation) (tables : SupportTables) (α : Type)
      (call : SupportRepository (Action (Observed SupportSession)) →
        Action (Observed SupportSession) α),
      @recordedBy ids order α tables call = [{ mutation with sequence := 1 }] := by
  cases h with
  | statusChange sequence orderId before after changed =>
    exact ⟨⟨fun _ => orderId⟩, ⟨fun _ _ => true⟩, _, _, _,
      @recordedBy_saveOrder ⟨fun _ => orderId⟩ ⟨fun _ _ => true⟩ orderId before after changed⟩
  | ticketCreated sequence ticket =>
    exact ⟨⟨fun _ => ticket.id⟩, ⟨fun _ _ => true⟩, _, _, _,
      @recordedBy_createTicket ⟨fun _ => ticket.id⟩ ⟨fun _ _ => true⟩ ticket rfl
        (hstorable sequence ticket rfl)⟩

end ObservabilityLab
