import ObservabilityLab.Agent.Turn
import ObservabilityLab.Simulation.Faults

/-!
# The answer to a refund request

After the model answered, the response to a refund request is assembled from the fields of the
service: the confirmed orders, the order that was seen last, the pending proposals and the last
error. A later read of another order overwrites the order that was seen last, and with it the
evidence of the refund.

## Main definitions

* `Refunded`: an order was refunded between two states of the rows
* `RefundHistory`: how the fields of the service follow the rows

## Main results

* `refundHistory_toolInvariant`: every tool keeps the history
* `refundAnswer_iff`: when the response tells the truth about the refund
-/

namespace ObservabilityLab

open Python Raising

/-- An order was refunded: it was delivered before, and is refunded now. -/
def Refunded (before rows : SupportTables) (orderId : Uuid) : Prop :=
  ∃ order, before.order? orderId = some order ∧ order.status = .delivered ∧
    rows.order? orderId = some order.refund

/-- **How a service follows the rows**, from the rows before its turn: its proposals are for
delivered orders of the customer, and its confirmed orders are exactly the refunded ones. -/
structure RefundHistory (customerId : Uuid) (before rows : SupportTables) (state : ServiceState) :
    Prop where
  pending : ∀ id, (state.pendingProposals id).isSome = true →
    ∃ order, rows.order? id = some order ∧ order.customerId = customerId ∧
      order.status = .delivered
  confirmed : ∀ id ∈ state.confirmedOrderIds, Refunded before rows id
  unchanged : ∀ id, id ∉ state.confirmedOrderIds → rows.order? id = before.order? id
  reason : state.lastToolError ≠ some .refundConfirmed

namespace RefundHistory

variable {customerId : Uuid} {before rows : SupportTables} {state : ServiceState}

theorem new (before : SupportTables) : RefundHistory customerId before before {} where
  pending _ h := by cases h
  confirmed _ h := by cases h
  unchanged _ _ := rfl
  reason := by simp

theorem refunded_iff (h : RefundHistory customerId before rows state) {id : Uuid} :
    Refunded before rows id ↔ id ∈ state.confirmedOrderIds := by
  constructor
  · rintro ⟨order, hbefore, hdelivered, hrows⟩
    by_contra hnot
    rw [h.unchanged id hnot, hbefore, Option.some.injEq] at hrows
    rw [hrows] at hdelivered
    cases hdelivered
  · exact h.confirmed id

/-- A confirmed order is no longer pending. -/
theorem not_pending_of_confirmed (h : RefundHistory customerId before rows state) {id : Uuid}
    (hid : id ∈ state.confirmedOrderIds) : state.pendingProposals id = none := by
  cases hpending : state.pendingProposals id with
  | none => rfl
  | some proposal =>
    obtain ⟨order, horder, -, hdelivered⟩ := h.pending id (by rw [hpending]; rfl)
    obtain ⟨original, -, -, hrefunded⟩ := h.confirmed id hid
    rw [hrefunded, Option.some.injEq] at horder
    rw [← horder] at hdelivered
    cases hdelivered

/-- Fields that the history does not read may change; a failure leaves one of its own reasons. -/
theorem of_fields (h : RefundHistory customerId before rows state) {state' : ServiceState}
    (hpending : state'.pendingProposals = state.pendingProposals)
    (hconfirmed : state'.confirmedOrderIds = state.confirmedOrderIds)
    (hreason : state.FailsWith state'.lastToolError) :
    RefundHistory customerId before rows state' where
  pending id := by
    rw [hpending]
    exact h.pending id
  confirmed id := by
    rw [hconfirmed]
    exact h.confirmed id
  unchanged id := by
    rw [hconfirmed]
    exact h.unchanged id
  reason := by
    rcases hreason with hsame | hown
    · rw [hsame]
      exact h.reason
    · intro hrefund
      rw [hrefund] at hown
      revert hown
      decide

theorem withTicket (h : RefundHistory customerId before rows state) (ticket : TicketRead) :
    RefundHistory customerId before (rows.withTicket ticket) state :=
  ⟨h.pending, h.confirmed, h.unchanged, h.reason⟩

theorem proposed (h : RefundHistory customerId before rows state) {orderId : Uuid}
    {order : OrderRead} (horder : rows.order? orderId = some order)
    (howner : order.customerId = customerId) (hdelivered : order.status = .delivered)
    (proposal : RefundProposal) :
    RefundHistory customerId before rows (state.proposed order proposal) where
  pending id hpending := by
    rw [ServiceState.pendingProposals_proposed, SupportTables.id_of_order? horder] at hpending
    split_ifs at hpending with hid
    · exact ⟨order, by rw [hid, horder], howner, hdelivered⟩
    · exact h.pending id hpending
  confirmed := h.confirmed
  unchanged := h.unchanged
  reason := (Option.some_ne_none _).symm

theorem confirm (h : RefundHistory customerId before rows state) {orderId : Uuid}
    {order : OrderRead} (horder : rows.order? orderId = some order)
    (howner : order.customerId = customerId) (hdelivered : order.status = .delivered)
    (refunded : OrderRead) :
    RefundHistory customerId before (rows.withRefund orderId customerId)
      (state.confirmed orderId refunded) := by
  have hother : ∀ id, id ≠ orderId →
      (rows.withRefund orderId customerId).order? id = rows.order? id := by
    intro id hid
    rw [SupportTables.order?_withRefund]
    cases hfound : rows.order? id with
    | none => rfl
    | some found =>
      rw [Option.map_some, if_neg fun hmatch => hid
        ((SupportTables.id_of_order? hfound).symm.trans (refundable_iff.mp hmatch).1)]
  have hnew : orderId ∉ state.confirmedOrderIds := by
    intro hmem
    obtain ⟨original, -, -, hrefunded⟩ := h.confirmed orderId hmem
    rw [hrefunded, Option.some.injEq] at horder
    rw [← horder] at hdelivered
    cases hdelivered
  refine ⟨fun id hpending => ?_, fun id hmem => ?_, fun id hnot => ?_,
    (Option.some_ne_none _).symm⟩
  · rw [ServiceState.pendingProposals_confirmed] at hpending
    split_ifs at hpending with hid
    · cases hpending
    · rw [hother id hid]
      exact h.pending id hpending
  · rcases List.mem_cons.mp hmem with rfl | hmem
    · refine ⟨order, by rw [← h.unchanged id hnew, horder], hdelivered, ?_⟩
      rw [SupportTables.order?_withRefund, horder, Option.map_some, if_pos (refundable_iff.mpr
        ⟨SupportTables.id_of_order? horder, howner, hdelivered⟩)]
    · obtain ⟨original, hbefore, hwas, hrows⟩ := h.confirmed id hmem
      refine ⟨original, hbefore, hwas, ?_⟩
      rw [hother id fun hid => hnew (hid ▸ hmem), hrows]
  · obtain ⟨hid, hnot⟩ := not_or.mp (List.mem_cons.not.mp hnot)
    rw [hother id hid]
    exact h.unchanged id hnot

end RefundHistory

/-! ## Every tool keeps the history -/

section Tools

variable {World : Type} {tables : World → SupportTables} {ready lost : World → Prop}
  {service : SupportAgentService World} {before : SupportTables}

/-- A turn whose service follows the rows. -/
def Follows (tables : World → SupportTables) (ready : World → Prop) (customerId : Uuid)
    (before : SupportTables) (turn : Turn World) : Prop :=
  ready turn.world ∧ RefundHistory customerId before (tables turn.world) turn.service

theorem Follows.at {customerId : Uuid} {turn : Turn World}
    (h : Follows tables ready customerId before turn) :
    At tables ready (tables turn.world) turn.service turn := ⟨⟨rfl, h.1⟩, rfl⟩

theorem follows_of_at {customerId : Uuid} {rows : SupportTables} {state : ServiceState}
    {turn : Turn World} (hat : At tables ready rows state turn)
    (h : RefundHistory customerId before rows state) :
    Follows tables ready customerId before turn := by
  obtain ⟨⟨hrows, hready⟩, hstate⟩ := hat
  refine ⟨hready, ?_⟩
  rwa [hrows, hstate]

/-- A computation keeps the history when its specification does. -/
theorem follows_keeps {α : Type} {x : Action (Turn World) α}
    {Q : SupportTables → ServiceState → α → Turn World → Prop}
    {E : SupportTables → ServiceState → PyError → Turn World → Prop}
    (hx : ∀ rows state, Triple (At tables ready rows state) x (Q rows state) (E rows state))
    (hQ : ∀ rows state a turn, RefundHistory service.customerId before rows state →
      Q rows state a turn → Follows tables ready service.customerId before turn)
    (hE : ∀ rows state e turn, RefundHistory service.customerId before rows state →
      E rows state e turn → Follows tables ready service.customerId before turn) :
    Keeps (Follows tables ready service.customerId before) x :=
  triple_of_eq fun turn h => triple_mono (hx _ _) (by rintro _ rfl; exact h.at)
    (fun a _ hpost => hQ _ _ a _ h.2 hpost) fun e _ hpost => hE _ _ e _ h.2 hpost

/-- A tool whose text the database may refuse keeps the history, or loses the transaction. -/
theorem follows_keepsUnless {α : Type} {x : Action (Turn World) α} {call : ToolCall}
    {Q : SupportTables → ServiceState → α → Turn World → Prop}
    (hx : ∀ rows state, Triple (At tables ready rows state) x (Q rows state)
      (AtOrLost tables ready lost rows state call))
    (hQ : ∀ rows state a turn, RefundHistory service.customerId before rows state →
      Q rows state a turn → Follows tables ready service.customerId before turn) :
    KeepsUnless (Refused (lost ·.world)) (Follows tables ready service.customerId before) x :=
  triple_of_eq fun turn h => triple_mono (hx _ _) (by rintro _ rfl; exact h.at)
    (fun a _ hpost => hQ _ _ a _ h.2 hpost)
    fun _ _ hpost => hpost.imp (fun hat => follows_of_at hat h.2) And.right

/-- **Every tool keeps the history**, each by its own specification. -/
theorem refundHistory_toolInvariant
    (hstores : Stores service.repository service.customerId tables ready lost) :
    ToolInvariant service (Follows tables ready service.customerId before) (lost ·.world) where
  stable _ _ _ h := h
  retried _ _ h := h
  recorded turn _ h := ⟨h.1, h.2.of_fields rfl rfl (Or.inl rfl)⟩
  brokenStable _ _ _ h := h
  getOrderStatus orderId := by
    refine follows_keeps (getOrderStatus_triple hstores orderId) ?_ ?_
    · rintro rows state order turn h ⟨-, -, hat⟩
      exact follows_of_at hat (h.of_fields rfl rfl (Or.inl rfl))
    · exact fun rows state _ turn h hat => follows_of_at hat h
  getPolicy slug := by
    refine follows_keepsUnless (getPolicy_triple hstores slug) ?_
    exact fun rows state policy turn h hat =>
      follows_of_at hat (h.of_fields rfl rfl (Or.inl rfl))
  proposeRefund orderId := by
    refine follows_keeps (proposeRefund_triple hstores orderId) ?_ ?_
    · rintro rows state proposal turn h ⟨order, horder, howner, hdelivered, hat⟩
      exact follows_of_at hat (h.proposed horder howner hdelivered proposal)
    · rintro rows state _ turn h ⟨lastOrder, reason, hreason, hat⟩
      exact follows_of_at hat (h.of_fields rfl rfl hreason)
  confirmRefund orderId := by
    refine follows_keeps (confirmRefund_triple hstores orderId) ?_ ?_
    · rintro rows state refunded turn h ⟨-, -, ⟨order, horder, howner, hdelivered, -⟩, hat⟩
      exact follows_of_at hat (h.confirm horder howner hdelivered refunded)
    · rintro rows state _ turn h ⟨reason, hreason, hat⟩
      exact follows_of_at hat (h.of_fields rfl rfl hreason)
  escalate subject := by
    refine follows_keepsUnless (escalate_triple hstores subject) ?_
    rintro rows state ticket turn h ⟨-, hat⟩
    exact follows_of_at hat ((h.withTicket ticket).of_fields rfl rfl (Or.inl rfl))

end Tools

/-! ## The response -/

section Response

variable {World : Type} {tables : World → SupportTables} {ready lost : World → Prop}
  {agent : PydanticAISupportAgent World} {request : SupportRequest}

/-- The response tells the truth about the refund of an order. -/
def Truthful (before rows : SupportTables) (orderId : Uuid) (response : SupportResponse) : Prop :=
  (response.reasonCode = .refundConfirmed ↔ Refunded before rows orderId) ∧
    (Refunded before rows orderId →
      response.outcome ≠ .blocked ∧ response.reasonCode ≠ .refundProposed)

/-- The evidence of a refund survived the tools of the model: either none of them confirmed it, or
the order is still the one that the service saw last. -/
def EvidenceKept (state : ServiceState) (orderId : Uuid) : Prop :=
  orderId ∉ state.confirmedOrderIds ∨ state.lastOrder.map (·.id) = some orderId

theorem isSome_confirmedRefundFor {state : ServiceState} {orderId : Uuid} :
    (state.confirmedRefundFor (some orderId)).isSome = true ↔
      orderId ∈ state.confirmedOrderIds ∧ state.lastOrder.map (·.id) = some orderId := by
  unfold ServiceState.confirmedRefundFor
  by_cases hmem : orderId ∈ state.confirmedOrderIds
  · cases state.lastOrder with
    | none => simp [hmem]
    | some order => simp [hmem, Option.filter]
  · simp [hmem]

/-- **When the assembled response tells the truth**, in a state that follows the rows. -/
theorem truthful_assemble_iff {customerId : Uuid} {before rows : SupportTables}
    {state : ServiceState} (h : RefundHistory customerId before rows state) (version : String)
    (orderId : Uuid) (retryCount : ℕ) :
    Truthful before rows orderId
        (assemble version ⟨.refund, some orderId⟩ ⟨.refund⟩ state retryCount).1 ↔
      EvidenceKept state orderId := by
  unfold Truthful EvidenceKept assemble
  rw [h.refunded_iff]
  by_cases hmem : orderId ∈ state.confirmedOrderIds
  · by_cases hseen : state.lastOrder.map (·.id) = some orderId
    · simp [isSome_confirmedRefundFor.mpr ⟨hmem, hseen⟩, hmem, hseen]
    · have hlost : ¬ (state.confirmedRefundFor (some orderId)).isSome = true :=
        fun hsome => hseen (isSome_confirmedRefundFor.mp hsome).2
      -- a confirmed order is not pending, so the response falls through to the last error
      have hpending : (state.pendingProposal (some orderId)).isSome = false := by
        rw [ServiceState.pendingProposal, Option.bind_some, h.not_pending_of_confirmed hmem]
        rfl
      simp [hlost, hpending, hmem, hseen]
  · have hnone : ¬ (state.confirmedRefundFor (some orderId)).isSome = true :=
      fun hsome => hmem (isSome_confirmedRefundFor.mp hsome).1
    have hreason : state.lastToolError.getD .refundBlockedUnconfirmed ≠ .refundConfirmed := by
      cases herror : state.lastToolError with
      | none => decide
      | some reason =>
        intro hconfirmed
        exact h.reason (by rw [herror, ← hconfirmed]; rfl)
    by_cases hpending : (state.pendingProposal (some orderId)).isSome = true
    · simp [hnone, hpending, hmem]
    · simp [hnone, hpending, hmem, hreason]

theorem evidenceKept_confirmed {state : ServiceState} {orderId : Uuid} {refunded : OrderRead}
    (hid : refunded.id = orderId) : EvidenceKept (state.confirmed orderId refunded) orderId :=
  Or.inr (congrArg some hid)

/-- The order whose refund is confirmed after the answer is the routed one, and it is pending. -/
theorem confirmationDue_eq_some {routing : RoutingDecision} {refundConfirmed : Bool}
    {state : ServiceState} {orderId : Uuid}
    (h : confirmationDue routing refundConfirmed state = some orderId) :
    routing.orderId = some orderId ∧ (state.pendingProposals orderId).isSome = true := by
  unfold confirmationDue at h
  split at h
  · rename_i hdue
    have hpending := hdue.2.2.1
    rw [h, ServiceState.pendingProposal, Option.bind_some] at hpending
    exact ⟨h, hpending⟩
  · cases h

/-- **The response is assembled from a state that follows the rows**, and the automatic
confirmation keeps the evidence of its refund. -/
theorem respond_triple (hstores : Stores agent.repository request.customerId tables ready lost)
    {before : SupportTables} {orderId : Uuid} {draft : AnswerDraft} {answered : Turn World}
    (hfollows : Follows tables ready request.customerId before answered) :
    Triple (· = answered) (agent.respond request ⟨.refund, some orderId⟩ draft)
      (fun result turn => Follows tables ready request.customerId before turn ∧
        (EvidenceKept turn.service orderId ↔ EvidenceKept answered.service orderId) ∧
        result = assemble agent.answerInstructionsVersion ⟨.refund, some orderId⟩ draft
          turn.service turn.retryCount)
      fun _ _ => True := by
  refine triple_bind (Q := fun (read turn : Turn World) => read = answered ∧ turn = answered)
    (triple_get fun _ h => ⟨h, h⟩) fun read => triple_of_eq ?_
  rintro turn ⟨hread, hturn⟩
  rw [hread, hturn]
  have hassemble : Triple (fun turn => Follows tables ready request.customerId before turn ∧
      (EvidenceKept turn.service orderId ↔ EvidenceKept answered.service orderId))
      (do
        let turn ← get
        return assemble agent.answerInstructionsVersion ⟨.refund, some orderId⟩ draft turn.service
          turn.retryCount)
      (fun result turn => Follows tables ready request.customerId before turn ∧
        (EvidenceKept turn.service orderId ↔ EvidenceKept answered.service orderId) ∧
        result = assemble agent.answerInstructionsVersion ⟨.refund, some orderId⟩ draft
          turn.service turn.retryCount) fun (_ : PyError) _ => True :=
    fun _ h => ⟨h.1, h.2, rfl⟩
  -- a proposal that the model left pending is confirmed before the response is assembled
  cases hdue : confirmationDue ⟨.refund, some orderId⟩ request.refundConfirmed answered.service with
  | none =>
    simp only [hdue]
    refine triple_mono hassemble ?_ (fun _ _ h => h) fun _ _ h => h
    rintro _ rfl
    exact ⟨hfollows, Iff.rfl⟩
  | some due =>
    obtain ⟨hrouted, hpending⟩ := confirmationDue_eq_some hdue
    cases hrouted
    have hnew : orderId ∉ answered.service.confirmedOrderIds := by
      intro hmem
      rw [hfollows.2.not_pending_of_confirmed hmem] at hpending
      cases hpending
    simp only [hdue]
    have hservice : Stores (agent.service request).repository (agent.service request).customerId
        tables ready lost := hstores
    refine triple_bind (triple_mono (confirmRefund_triple hservice orderId _ _)
      (by rintro _ rfl; exact hfollows.at) (fun _ _ h => h) fun _ _ _ => trivial)
      fun refunded => triple_mono hassemble ?_ (fun _ _ h => h) fun _ _ h => h
    rintro turn ⟨-, -, ⟨order, horder, howner, hdelivered, hsaved⟩, hat⟩
    refine ⟨follows_of_at hat (hfollows.2.confirm horder howner hdelivered refunded), ?_⟩
    rw [hat.2]
    refine iff_of_true (evidenceKept_confirmed ?_) (Or.inl hnew)
    rw [hsaved]
    change order.id = orderId
    exact SupportTables.id_of_order? horder

/-- A turn that returns has answered: its model ended with a draft, and the response was assembled
after it. -/
theorem respond_of_handle {routing : RoutingDecision} {model : AnswerModel}
    {draft : AnswerDraft} {turn answered after : Turn World} {response : SupportResponse}
    (hplan : (planTurn routing).action = .answer)
    (hmodel : (agent.runModel request routing model).run turn.start = .ok draft answered)
    (hhandle : (agent.handle request ⟨some routing, model⟩).run turn = .ok response after) :
    ∃ grounded acted, (agent.respond request routing draft).run answered =
      .ok (response, grounded) acted ∧ after = acted.finish grounded turn.telemetry.current := by
  rw [run_handle, PydanticAISupportAgent.act] at hhandle
  simp only [hplan, PydanticAISupportAgent.answer, EStateM.run_bind, run_attempt, hmodel] at hhandle
  cases hrespond : (agent.respond request routing draft).run answered with
  | ok result acted =>
    obtain ⟨response', grounded⟩ := result
    rw [hrespond] at hhandle
    simp only [EStateM.Result.ok.injEq] at hhandle
    obtain ⟨rfl, rfl⟩ := hhandle
    exact ⟨grounded, acted, rfl, rfl⟩
  | error e acted =>
    rw [hrespond] at hhandle
    cases hhandle

end Response

/-! ## The answer of a sandboxed agent -/

section Sandboxed

variable [UnicodeTables] [FloatRepr] [RandomIds] [Collation]

/-- **When the refund answer tells the truth.** In every turn that is routed to the refund of an
order and whose model ends with a refund draft, from every database and behind every fault script:
exactly when the evidence of the refund survived the tools of the model. -/
theorem refundAnswer_iff {agent : PydanticAISupportAgent Sandbox} {script : FaultScript}
    (hrepository : agent.repository = sandboxRepository script) (database : SupportTables)
    {request : SupportRequest} {orderId : Uuid} {model : AnswerModel}
    {answered after : Turn Sandbox} {response : SupportResponse}
    (hmodel : (agent.runModel request ⟨.refund, some orderId⟩ model).run
      (Turn.start { world := Sandbox.begin database }) = .ok ⟨.refund⟩ answered)
    (hhandle : (agent.handle request ⟨some ⟨.refund, some orderId⟩, model⟩).run
      { world := Sandbox.begin database } = .ok response after) :
    Truthful database after.world.tables orderId response ↔
      EvidenceKept answered.service orderId := by
  have hstores : Stores (agent.service request).repository (agent.service request).customerId
      Sandbox.tables (fun sandbox => sandbox.inner.inner.Settled request.customerId database)
      fun sandbox => sandbox.inner.inner.Lost database := by
    change Stores agent.repository request.customerId _ _ _
    rw [hrepository]
    exact sandboxRepository_stores script request.customerId database
  have hfollows : Follows Sandbox.tables
      (fun sandbox => sandbox.inner.inner.Settled request.customerId database) request.customerId
      database answered :=
    ((refundHistory_toolInvariant hstores).runModel _ model).ok
      ⟨SupportSession.settled_begin _ _, RefundHistory.new database⟩ hmodel
  obtain ⟨grounded, acted, hrespond, rfl⟩ := respond_of_handle rfl hmodel hhandle
  obtain ⟨hacted, hevidence, hresponse⟩ := (respond_triple hstores hfollows).ok rfl hrespond
  rw [← hevidence, ← truthful_assemble_iff hacted.2 agent.answerInstructionsVersion orderId
    acted.retryCount, ← hresponse]
  rfl

end Sandboxed

/-! ### A refund whose evidence is lost -/

section Lost

attribute [local instance] asciiTables oneDecimalRepr constantIds codePointOrder

/-- The reference agent of a sandbox. -/
def sandboxAgent (script : FaultScript) : PydanticAISupportAgent Sandbox where
  repository := sandboxRepository script
  answerInstructionsVersion := "1"
  proposalIds := fun _ => .repeated 3

/-- A fault script without faults. -/
def quietScript : FaultScript where
  scriptVersion := "1"
  dependency := "support"

/-- Two delivered orders of one customer. -/
def twoOrders : SupportTables where
  customers := [.repeated 7]
  orders := [freeOrder (.repeated 0) (.repeated 7) .delivered,
    freeOrder (.repeated 1) (.repeated 7) .delivered]
  ordersUnique := by decide
  ordersOwned := by decide

theorem messageLength_refund : lengthWithin 1 2000 "refund" = true := by decide

/-- A customer who confirms the refund. -/
def confirmingRequest : SupportRequest where
  customerId := .repeated 7
  message := "refund"
  refundConfirmed := true
  messageLength := messageLength_refund

/-- A model that refunds the first order, then makes the given calls, and drafts a refund. -/
def refundThen (calls : List ToolCall) : AnswerModel :=
  (ToolCall.proposeRefund (.repeated 0) :: .confirmRefund (.repeated 0) :: calls).foldr
    (fun call next => .calls call fun _ => next) (.draft ⟨.refund⟩)

/-- The turn of a customer who confirms the refund of the first order, until the model drafts its
answer. -/
def draftedRefund (calls : List ToolCall) : EStateM.Result PyError (Turn Sandbox) AnswerDraft :=
  ((sandboxAgent quietScript).runModel confirmingRequest ⟨.refund, some (.repeated 0)⟩
    (refundThen calls)).run (Turn.start { world := Sandbox.begin twoOrders })

/-- The whole turn. -/
def answeredRefund (calls : List ToolCall) :
    EStateM.Result PyError (Turn Sandbox) SupportResponse :=
  ((sandboxAgent quietScript).handle confirmingRequest
    ⟨some ⟨.refund, some (.repeated 0)⟩, refundThen calls⟩).run { world := Sandbox.begin twoOrders }

/-- Without a later read, the turn answers that the refund is confirmed. -/
theorem refundAnswer_iff_kept :
    ∃ answered after, draftedRefund [] = .ok ⟨.refund⟩ answered ∧
      answeredRefund [] = .ok ⟨.refund, .completed, .refundConfirmed⟩ after ∧
      (Truthful twoOrders after.world.tables (.repeated 0) ⟨.refund, .completed, .refundConfirmed⟩ ↔
        EvidenceKept answered.service (.repeated 0)) := by
  have hdrafted : draftedRefund [] = .ok ⟨.refund⟩ (finalState (draftedRefund [])) :=
    eq_ok_of_outcome (by decide +kernel)
  have hanswered : answeredRefund [] = .ok ⟨.refund, .completed, .refundConfirmed⟩
      (finalState (answeredRefund [])) := eq_ok_of_outcome (by decide +kernel)
  exact ⟨_, _, hdrafted, hanswered, refundAnswer_iff rfl twoOrders hdrafted hanswered⟩

/-- After a read of another order, the turn answers that the refund is blocked: the order was
refunded all the same. -/
theorem refundAnswer_lost :
    ∃ answered after, draftedRefund [.getOrderStatus (.repeated 1)] = .ok ⟨.refund⟩ answered ∧
      answeredRefund [.getOrderStatus (.repeated 1)] =
        .ok ⟨.refund, .blocked, .refundBlockedUnconfirmed⟩ after ∧
      Refunded twoOrders after.world.tables (.repeated 0) ∧
      ¬ Truthful twoOrders after.world.tables (.repeated 0)
        ⟨.refund, .blocked, .refundBlockedUnconfirmed⟩ := by
  have hrefunded : Refunded twoOrders
      (finalState (answeredRefund [.getOrderStatus (.repeated 1)])).world.tables (.repeated 0) :=
    ⟨freeOrder (.repeated 0) (.repeated 7) .delivered, by decide +kernel, rfl, by decide +kernel⟩
  refine ⟨_, _, eq_ok_of_outcome (by decide +kernel), eq_ok_of_outcome (by decide +kernel),
    hrefunded, fun htruthful => ?_⟩
  exact (htruthful.2 hrefunded).1 rfl

end Lost

end ObservabilityLab
