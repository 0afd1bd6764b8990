import ObservabilityLab.Workflow.Decisions
import ObservabilityLab.Workflow.Offline

/-!
# The refunds of the offline workflow

The offline workflow on one session of the database: whatever calls of the service run at the same
time, an order changes only by a refund, and every refunded order was delivered and confirmed by
the customer who owns it. The refunds are recorded exactly: all the refunds that the executor
returned, unless the transaction was rolled back, and then none.

## Main definitions

* `offlineEnvironment`: the default dependencies, with identifiers that are never drawn twice
* `refundedOrders`: the orders whose refund the executor returned
* `Recorded`: the session records the refunds of the calls so far
* `RefundsConfirmed`: what the orders of a session came to

## Main results

* `run_requestRefund`: a refund on an open session
* `undisturbed_defaultCall`: no other call changes an order
* `recorded_step`: every call keeps the record
* `refundsConfirmed_of_run`: every refund was confirmed by its customer
-/

namespace ObservabilityLab.Workflow

open Python Interleaving RelyGuarantee Histories Raising

/-- The default dependencies, where `uuid4()` draws no identifier twice. -/
def offlineEnvironment {World : Type} [UnicodeTables]
    (repository : SupportRepository (Action World)) : Environment World where
  behaves := (defaultDependencies repository).behaves
  draws before u := u ∉ before

/-! ## Calls on a session -/

/-- A call leaves the orders as they are, or rolls the transaction back for good. -/
structure Undisturbed (session session' : SupportSession) : Prop where
  begun : session'.begun = session.begun
  closed : session.needsRollback = true → session' = session
  orders : session'.needsRollback = session.needsRollback ∧
      session'.tables.orders = session.tables.orders ∨
    session'.needsRollback = true ∧ session'.tables = session.begun

theorem Undisturbed.refl (session : SupportSession) : Undisturbed session session where
  begun := rfl
  closed _ := rfl
  orders := Or.inl ⟨rfl, rfl⟩

theorem undisturbed_ofExcept {α : Type} (result : Except PyError α) (session : SupportSession) :
    Undisturbed session
      (finalState ((MonadExcept.ofExcept result : Action SupportSession α).run session)) := by
  cases result with
  | ok a => exact .refl session
  | error e => exact .refl session

section Session

variable [RandomIds] [Collation] {tables begun : SupportTables}

/-- **A refund on an open session**, by the stored order. -/
theorem run_requestRefund (actorId orderId : Uuid) :
    (requestRefund sqlAlchemySupportRepository ⟨actorId, orderId⟩).run ⟨tables, begun, false⟩ =
      match tables.order? orderId with
      | none => .error orderNotFound ⟨tables, begun, false⟩
      | some order =>
        if order.customerId ≠ actorId then .error forbidden ⟨tables, begun, false⟩
        else if order.status ≠ .delivered then .error invalidTransition ⟨tables, begun, false⟩
        else .ok order.refund ⟨tables.withRefund orderId actorId, begun, false⟩ := by
  unfold requestRefund getOrder
  dsimp only
  rw [bind_assoc, EStateM.run_bind, run_getOrder]
  dsimp only
  cases horder : tables.order? orderId with
  | none => rfl
  | some order =>
    dsimp only
    by_cases howner : order.customerId = actorId
    · rw [if_neg (not_not.mpr howner), if_neg (not_not.mpr howner)]
      by_cases hstatus : order.status = .delivered
      · have hmatch : refundable orderId actorId order = true :=
          refundable_iff.mpr ⟨SupportTables.id_of_order? horder, howner, hstatus⟩
        have hrefunded : tables.refunded? orderId actorId = some order.refund := by
          rw [SupportTables.refunded?, horder, Option.bind_some, if_pos hmatch]
        rw [if_neg (not_not.mpr hstatus), pure_bind,
          if_neg (by simp [refundableOrderStatuses, hstatus]), EStateM.run_bind,
          run_refundOrderIfDelivered, hrefunded]
        rfl
      · rw [if_pos hstatus, pure_bind, if_pos (by simpa [refundableOrderStatuses] using hstatus)]
        rfl
    · rw [if_pos howner, if_pos howner]
      rfl

omit [RandomIds] [Collation] in
/-- A refused statement rolls an open session back. -/
theorem undisturbed_refused (tables begun : SupportTables) :
    Undisturbed ⟨tables, begun, false⟩ ⟨begun, begun, true⟩ where
  begun := rfl
  closed := nofun
  orders := Or.inr ⟨rfl, rfl⟩

theorem undisturbed_getOrder (orderId actorId : Uuid) (session : SupportSession) :
    Undisturbed session
      (finalState ((getOrder sqlAlchemySupportRepository orderId actorId).run session)) := by
  obtain ⟨tables, begun, needsRollback⟩ := session
  cases needsRollback with
  | true => exact .refl _
  | false =>
    unfold getOrder
    rw [EStateM.run_bind, run_getOrder]
    dsimp only
    cases tables.order? orderId with
    | none => exact .refl _
    | some order =>
      dsimp only
      split
      · exact .refl _
      · exact .refl _

/-- The newest version of a policy, read from an open session. -/
theorem run_getLatestPolicy_stored {slug : String} (hslug : isStorableText slug = true) :
    (getLatestPolicy sqlAlchemySupportRepository slug).run ⟨tables, begun, false⟩ =
      match newestPolicy (tables.policies.filter (·.slug = slug)) with
      | none => .error policyNotFound ⟨tables, begun, false⟩
      | some policy => .ok policy ⟨tables, begun, false⟩ := by
  unfold getLatestPolicy
  rw [EStateM.run_bind, run_getPolicy ((isStorableQuery_latest slug).trans hslug)]
  dsimp only
  cases newestPolicy (tables.policies.filter (·.slug = slug)) with
  | none => rfl
  | some policy => rfl

theorem undisturbed_getLatestPolicy (slug : String) (session : SupportSession) :
    Undisturbed session
      (finalState ((getLatestPolicy sqlAlchemySupportRepository slug).run session)) := by
  obtain ⟨tables, begun, needsRollback⟩ := session
  cases needsRollback with
  | true => exact .refl _
  | false =>
    cases hslug : isStorableText slug with
    | true =>
      rw [run_getLatestPolicy_stored hslug]
      cases newestPolicy (tables.policies.filter (·.slug = slug)) with
      | none => exact .refl _
      | some policy => exact .refl _
    | false =>
      unfold getLatestPolicy
      rw [EStateM.run_bind, run_getPolicy_refused ((isStorableQuery_latest slug).trans hslug)]
      exact undisturbed_refused tables begun

/-- A ticket about no order is created, unless the database refuses it. -/
theorem undisturbed_createTicket {ticket : TicketCreate} (horder : ticket.orderId = none)
    (session : SupportSession) :
    Undisturbed session
      (finalState ((sqlAlchemySupportRepository.createTicket ticket).run session)) := by
  obtain ⟨tables, begun, needsRollback⟩ := session
  cases needsRollback with
  | true => exact .refl _
  | false =>
    cases hsubject : isStorableText ticket.subject with
    | false =>
      rw [run_createTicket_refused hsubject]
      exact undisturbed_refused tables begun
    | true =>
      by_cases hknown : ticket.customerId ∈ tables.customers
      · rw [run_createTicket hsubject hknown (by rw [horder]; rfl)]
        exact ⟨rfl, nofun, Or.inl ⟨rfl, rfl⟩⟩
      · rw [run_createTicket_unknown hsubject hknown]
        exact undisturbed_refused tables begun

theorem undisturbed_escalate (actorId : Uuid) (reason : EscalationReason) (requestId : String)
    (session : SupportSession) :
    Undisturbed session (finalState ((SupportServiceEscalator.escalate sqlAlchemySupportRepository
      actorId reason requestId).run session)) := by
  unfold SupportServiceEscalator.escalate CreateTicketCommand.new
  split
  · exact undisturbed_createTicket rfl session
  · exact .refl session

variable [UnicodeTables]

/-- **No other call changes an order.** -/
theorem undisturbed_defaultCall (proposalId : Uuid) (now : DateTime) {call : Dependency}
    (hcall : ∀ actorId orderId, call ≠ .execute actorId orderId) (session : SupportSession) :
    Undisturbed session (finalState
      ((defaultCall sqlAlchemySupportRepository proposalId now call).run session)) := by
  cases call with
  | route message => exact undisturbed_ofExcept _ session
  | getOrder orderId actorId => exact undisturbed_getOrder orderId actorId session
  | getPolicy slug => exact undisturbed_getLatestPolicy slug session
  | generate message route evidence proposal => exact .refl session
  | propose actorId requestId order policy => exact undisturbed_ofExcept _ session
  | execute actorId orderId => exact absurd rfl (hcall actorId orderId)
  | escalate actorId reason requestId => exact undisturbed_escalate actorId reason requestId session

end Session

/-! ## The record of the refunds -/

variable {Id : Type}

/-- The order whose refund the executor returned. -/
def Event.refundedOrder? : Event Id → Option Uuid
  | ⟨_, .dependency _ (.execute _ orderId), .ok _⟩ => some orderId
  | _ => none

def refundedOrders (history : List (Event Id)) : List Uuid :=
  history.filterMap Event.refundedOrder?

theorem refundedOrders_concat (history : List (Event Id)) (event : Event Id) :
    refundedOrders (history ++ [event]) =
      refundedOrders history ++ event.refundedOrder?.toList := by
  rw [refundedOrders, List.filterMap_append]
  cases hevent : event.refundedOrder? with
  | none => rw [List.filterMap_cons_none hevent]; rfl
  | some orderId => rw [List.filterMap_cons_some hevent]; rfl

/-- An order, with the refund that was recorded for it. -/
def settleOrder (refunded : List Uuid) (order : OrderRead) : OrderRead :=
  if order.id ∈ refunded then order.refund else order

theorem id_settleOrder (refunded : List Uuid) (order : OrderRead) :
    (settleOrder refunded order).id = order.id := by
  unfold settleOrder
  split
  · rfl
  · rfl

/-- **A session records the refunds**, from the rows that its transaction began on: all of them, or
none after a rollback; and a refunded order was delivered, and belongs to the actor. -/
structure Recorded (tables : SupportTables) (s : Shared SupportSession Id) : Prop where
  begun : s.world.begun = tables
  rolledBack : s.world.needsRollback = true → s.world.tables = tables
  orders : s.world.needsRollback = false →
    s.world.tables.orders = tables.orders.map (settleOrder (refundedOrders s.history))
  once : (refundedOrders s.history).Nodup
  delivered : ∀ i w actorId orderId saved,
    ⟨i, .dependency w (.execute actorId orderId), .ok saved⟩ ∈ s.history →
      ∃ order, tables.order? orderId = some order ∧ order.customerId = actorId ∧
        order.status = .delivered ∧ saved = order.refund

/-- Nothing was refunded yet. -/
theorem recorded_start (tables : SupportTables) :
    Recorded tables ({ world := .begin tables } : Shared SupportSession Id) where
  begun := rfl
  rolledBack _ := rfl
  orders _ := by
    have hsettle : settleOrder [] = id := funext fun order => if_neg List.not_mem_nil
    change tables.orders = tables.orders.map (settleOrder [])
    rw [hsettle, List.map_id]
  once := List.nodup_nil
  delivered i w actorId orderId saved h := by cases h

section Steps

variable {tables : SupportTables} {s s' : Shared SupportSession Id} {i : Id}

/-- A call that refunds nothing and disturbs no order keeps the record. -/
theorem Recorded.undisturbed (h : Recorded tables s) {event : Event Id}
    (hworld : Undisturbed s.world s'.world) (hhistory : s'.history = s.history ++ [event])
    (hevent : event.refundedOrder? = none) : Recorded tables s' := by
  have hrefunded : refundedOrders s'.history = refundedOrders s.history := by
    rw [hhistory, refundedOrders_concat, hevent]
    exact List.append_nil _
  refine ⟨hworld.begun.trans h.begun, fun hrolled => ?_, fun hopen => ?_, ?_, ?_⟩
  · rcases hworld.orders with ⟨hsame, -⟩ | ⟨-, hback⟩
    · have hclosed : s.world.needsRollback = true := hsame.symm.trans hrolled
      rw [hworld.closed hclosed, h.rolledBack hclosed]
    · rw [hback, h.begun]
  · rcases hworld.orders with ⟨hsame, horders⟩ | ⟨hback, -⟩
    · rw [horders, hrefunded, h.orders (hsame.symm.trans hopen)]
    · rw [hback] at hopen
      cases hopen
  · rw [hrefunded]
    exact h.once
  · intro i w actorId orderId saved hmem
    rw [hhistory, List.mem_append, List.mem_singleton] at hmem
    rcases hmem with hmem | rfl
    · exact h.delivered i w actorId orderId saved hmem
    · cases hevent

theorem order?_of_orders {tables' : SupportTables} {refunded : List Uuid}
    (h : tables'.orders = tables.orders.map (settleOrder refunded)) (orderId : Uuid) :
    tables'.order? orderId = (tables.order? orderId).map (settleOrder refunded) := by
  rw [SupportTables.order?, h, List.find?_map]
  simp only [Function.comp_def, id_settleOrder]
  rfl

/-- A refund settles one more order. -/
theorem orders_withRefund {tables' : SupportTables} {refunded : List Uuid} {order : OrderRead}
    {orderId : Uuid} (h : tables'.orders = tables.orders.map (settleOrder refunded))
    (horder : tables.order? orderId = some order) (hnew : orderId ∉ refunded)
    (hstatus : order.status = .delivered) :
    (tables'.withRefund orderId order.customerId).orders =
      tables.orders.map (settleOrder (refunded ++ [orderId])) := by
  have hid := SupportTables.id_of_order? horder
  change tables'.orders.map _ = _
  rw [h, List.map_map]
  refine List.map_congr_left fun row hrow => ?_
  rw [Function.comp_apply]
  by_cases hsame : row.id = orderId
  · obtain rfl : row = order := by
      have hfound := SupportTables.order?_eq_some.mpr ⟨hrow, hsame⟩
      rw [horder] at hfound
      exact (Option.some.inj hfound).symm
    have hunsettled : settleOrder refunded row = row := if_neg (by rwa [hsame])
    rw [hunsettled, if_pos (refundable_iff.mpr ⟨hsame, rfl, hstatus⟩)]
    exact (if_pos (List.mem_append_right _ (List.mem_singleton.mpr hsame))).symm
  · rw [if_neg fun hmatch => hsame ((id_settleOrder ..).symm.trans (refundable_iff.mp hmatch).1)]
    unfold settleOrder
    simp only [List.mem_append, List.mem_singleton, hsame, or_false]

variable [RandomIds] [Collation]

/-- **A call of the executor** records the refund that it returns. -/
theorem Recorded.execute (h : Recorded tables s) {w : String} {actorId orderId : Uuid}
    {answer : Except PyError OrderRead}
    (hanswer : answer = outcome
      ((requestRefund sqlAlchemySupportRepository ⟨actorId, orderId⟩).run s.world))
    (hworld : s'.world = finalState
      ((requestRefund sqlAlchemySupportRepository ⟨actorId, orderId⟩).run s.world))
    (hhistory : s'.history =
      s.history ++ [⟨i, .dependency w (.execute actorId orderId), answer⟩]) :
    Recorded tables s' := by
  have hrefused : ∀ e, outcome ((requestRefund sqlAlchemySupportRepository
      ⟨actorId, orderId⟩).run s.world) = .error e → finalState ((requestRefund
        sqlAlchemySupportRepository ⟨actorId, orderId⟩).run s.world) = s.world →
      Recorded tables s' := by
    intro e he hsame
    refine h.undisturbed (by rw [hworld, hsame]; exact .refl _) hhistory ?_
    rw [hanswer, he]
    rfl
  obtain ⟨⟨current, begun, needsRollback⟩, checkpoints, locks, attempts, history⟩ := s
  dsimp only at hanswer hworld hrefused hhistory
  -- the service refunds in one case only: an open transaction, the own order, delivered
  cases needsRollback with
  | true => exact hrefused _ rfl rfl
  | false =>
    rw [run_requestRefund] at hanswer hworld hrefused
    have horders := h.orders rfl
    have hfound := order?_of_orders horders orderId
    dsimp only at horders hfound
    cases hcurrent : current.order? orderId with
    | none =>
      rw [hcurrent] at hrefused
      exact hrefused _ rfl rfl
    | some order =>
      rw [hcurrent] at hanswer hworld hrefused hfound
      dsimp only at hanswer hworld hrefused
      by_cases howner : order.customerId = actorId
      · rw [if_neg (not_not.mpr howner)] at hanswer hworld hrefused
        by_cases hstatus : order.status = .delivered
        · rw [if_neg (not_not.mpr hstatus)] at hanswer hworld
          obtain ⟨row, hrow, hsettled⟩ := Option.map_eq_some_iff.mp hfound.symm
          have hid := SupportTables.id_of_order? hrow
          -- a delivered order has not been refunded by the run
          have hnew : orderId ∉ refundedOrders history := by
            intro hmem
            rw [settleOrder, if_pos (by rwa [hid])] at hsettled
            rw [← hsettled] at hstatus
            cases hstatus
          rw [settleOrder, if_neg (by rwa [hid])] at hsettled
          subst hsettled
          have hrefunded : refundedOrders s'.history = refundedOrders history ++ [orderId] := by
            rw [hhistory, refundedOrders_concat, hanswer]
            rfl
          refine ⟨?_, ?_, ?_, ?_, ?_⟩
          · rw [hworld]
            exact h.begun
          · rw [hworld]
            rintro ⟨⟩
          · intro _
            rw [hworld, hrefunded, ← howner]
            exact orders_withRefund horders hrow hnew hstatus
          · rw [hrefunded]
            refine List.nodup_append.mpr ⟨h.once, List.nodup_singleton _, ?_⟩
            rintro other hother _ hmem rfl
            rw [List.mem_singleton.mp hmem] at hother
            exact hnew hother
          · intro j w' actorId' orderId' saved hmem
            rw [hhistory, List.mem_append, List.mem_singleton] at hmem
            rcases hmem with hmem | hnow
            · exact h.delivered j w' actorId' orderId' saved hmem
            · rw [hanswer, outcome_ok] at hnow
              cases hnow
              exact ⟨row, hrow, howner, hstatus, rfl⟩
        · rw [if_pos hstatus] at hrefused
          exact hrefused _ rfl rfl
      · rw [if_pos howner] at hrefused
        exact hrefused _ rfl rfl

/-- **Every call keeps the record.** -/
theorem recorded_step [UnicodeTables] {op : Op} {answer : Except PyError op.Answer}
    (hperforms : Performs (offlineEnvironment sqlAlchemySupportRepository) i s op answer s')
    (h : Recorded tables s) : Recorded tables s' := by
  cases hperforms with
  | @dependency thread call _ world hbehaves =>
    obtain ⟨proposalId, now, hanswer, hworld⟩ := hbehaves
    by_cases hcall : ∃ actorId orderId, call = .execute actorId orderId
    · obtain ⟨actorId, orderId, rfl⟩ := hcall
      exact h.execute hanswer hworld rfl
    · have hother : ∀ actorId orderId, call ≠ .execute actorId orderId :=
        fun actorId orderId heq => hcall ⟨actorId, orderId, heq⟩
      refine h.undisturbed ?_ rfl ?_
      · change Undisturbed s.world world
        rw [hworld]
        exact undisturbed_defaultCall proposalId now hother s.world
      · cases call with
        | execute actorId orderId => exact absurd rfl (hother actorId orderId)
        | _ => rfl
  | _ => exact h.undisturbed (.refl _) rfl rfl

end Steps

/-! ## Every refund -/

theorem mem_refundedOrders {history : List (Event Id)} {orderId : Uuid}
    (h : orderId ∈ refundedOrders history) : ∃ i w actorId saved,
      ⟨i, .dependency w (.execute actorId orderId), .ok saved⟩ ∈ history := by
  obtain ⟨⟨i, op, answer⟩, hmem, hevent⟩ := List.mem_filterMap.mp h
  unfold Event.refundedOrder? at hevent
  split at hevent
  · rename_i j w actorId orderId' saved heq
    obtain rfl := Option.some.inj hevent
    rw [heq] at hmem
    exact ⟨j, w, actorId, saved, hmem⟩
  · cases hevent

/-- **What the orders of a session came to**, from the rows that its transaction began on. -/
structure RefundsConfirmed (calls : Id → ServiceCall) (tables : SupportTables)
    (s : Shared SupportSession Id) : Prop where
  /-- Every order is as it was, or refunded: it was delivered, and the customer who owns it
  confirmed the refund. -/
  orders : ∀ order ∈ s.world.tables.orders, order ∈ tables.orders ∨
    ∃ before ∈ tables.orders, order = before.refund ∧ before.status = .delivered ∧
      ∃ earlier i w snapshot, earlier <+: s.history ∧
        Entitled calls earlier i w snapshot before.customerId before.id
  /-- No order is added or removed. -/
  kept : s.world.tables.orders.map (·.id) = tables.orders.map (·.id)
  /-- A refund that the executor returned is recorded, unless the transaction was rolled back. -/
  recorded : ∀ i w actorId orderId saved,
    ⟨i, .dependency w (.execute actorId orderId), .ok saved⟩ ∈ s.history →
      s.world.needsRollback = false → s.world.tables.order? orderId = some saved
  /-- A transaction that was rolled back leaves the rows that it began on. -/
  rolledBack : s.world.needsRollback = true → s.world.tables = tables
  /-- No order is refunded twice, and no workflow refunds two orders. -/
  once : (refundedOrders s.history).Nodup ∧ ∀ w, (s.history.filter (executes w)).length ≤ 1

/-- A record of safe calls is a record of confirmed refunds. -/
theorem Recorded.refundsConfirmed {calls : Id → ServiceCall} {tables : SupportTables}
    {s : Shared SupportSession Id} (h : Recorded tables s) (hsafe : Safe calls s) :
    RefundsConfirmed calls tables s where
  orders order hmem := by
    cases hopen : s.world.needsRollback with
    | true =>
      rw [h.rolledBack hopen] at hmem
      exact Or.inl hmem
    | false =>
      rw [h.orders hopen] at hmem
      obtain ⟨before, hbefore, rfl⟩ := List.mem_map.mp hmem
      -- a row that differs was refunded by a call that returned, and each of these was entitled
      by_cases hrefunded : before.id ∈ refundedOrders s.history
      · obtain ⟨i, w, actorId, saved, hevent⟩ := mem_refundedOrders hrefunded
        obtain ⟨row, hrow, howner, hstatus, -⟩ := h.delivered _ _ _ _ _ hevent
        rw [SupportTables.order?_eq_some.mpr ⟨hbefore, rfl⟩] at hrow
        obtain rfl := Option.some.inj hrow
        obtain ⟨earlier, after, hhistory⟩ := List.append_of_mem hevent
        obtain ⟨start, decision, snapshot, rest, hearlier, hentitled⟩ :=
          (hsafe.refundSafe w).entitled _ _ _ _ _ (mem_histories_iff.mpr ⟨after, hhistory⟩)
        have hprefix : start <+: s.history := by
          rw [hhistory, hearlier, List.append_assoc]
          exact List.prefix_append ..
        refine Or.inr ⟨before, hbefore, if_pos hrefunded, hstatus, start, i, w, snapshot,
          hprefix, ?_⟩
        rw [howner]
        exact hentitled
      · refine Or.inl ?_
        rwa [settleOrder, if_neg hrefunded]
  kept := by
    cases hopen : s.world.needsRollback with
    | true => rw [h.rolledBack hopen]
    | false =>
      rw [h.orders hopen, List.map_map]
      exact List.map_congr_left fun order _ => id_settleOrder ..
  recorded i w actorId orderId saved hevent hopen := by
    obtain ⟨row, hrow, -, -, rfl⟩ := h.delivered _ _ _ _ _ hevent
    have hrefunded : row.id ∈ refundedOrders s.history := by
      rw [SupportTables.id_of_order? hrow]
      exact List.mem_filterMap.mpr ⟨_, hevent, rfl⟩
    rw [order?_of_orders (h.orders hopen), hrow, Option.map_some, settleOrder, if_pos hrefunded]
  rolledBack := h.rolledBack
  once := ⟨h.once, fun w => (hsafe.refundSafe w).once⟩

/-- **Every refund of the offline workflow was confirmed by its customer.** Whatever calls of the
service run at the same time on one session, in any interleaving, an order changes only from
delivered to refunded, behind a confirmation by its owner that passed every check; and every refund
that the executor returned is recorded, unless the transaction was rolled back and the rows are
those that it began on. -/
theorem refundsConfirmed_of_run [DecidableEq Id] [ValidationTexts] [UnicodeTables] [RandomIds]
    [Collation] {calls : Id → ServiceCall} {ttl : ℤ} {tables : SupportTables}
    {p : Pool Id (Shared SupportSession Id) (Flow WorkflowResponse)}
    (hrun : ServiceRun (offlineEnvironment sqlAlchemySupportRepository) ttl calls
      (.begin tables) p) :
    RefundsConfirmed calls tables p.shared := by
  have hsafe : Safe calls p.shared := safe_of_run (fun _ _ h => h) hrun
  have hrecorded : Recorded tables p.shared :=
    invariant_of_steps (fun _ _ _ _ _ hperforms h => recorded_step hperforms h)
      (recorded_start tables) hrun
  exact hrecorded.refundsConfirmed hsafe

/-! ## A refund that is recorded -/

section Executed

variable {World : Type} {env : Environment World} {i : Id} {w : String} [ValidationTexts]
  {s : Shared World Id} {values : SupportState} {proposal : ProposedAction}
  {route : RoutingDecision} {saved : OrderRead} {world : World}

/-- The executor ends a run, where it returns. -/
theorem runs_execution (hproposal : values.proposedAction = some proposal)
    (hroute : values.route = some route) (hescalation : values.escalation = none)
    (hbehaves : env.behaves s.world (.execute values.request.actorId proposal.orderId) (.ok saved)
      world) :
    ∃ s₂, Program.Runs (Performs env i) s
      (runGraph w (some (values.request.decided .confirm)) 24 .executeRefund
        (confirmationDelta values .confirm .epoch)) (.ok false) s₂ ∧
      (∃ snapshot, s₂.checkpoints w = some snapshot) ∧ s₂.world = world := by
  have hstated : (confirmationDelta values .confirm .epoch).route = some route := hroute
  obtain ⟨state, hdelta, hresponds⟩ := responds_executionDelta saved hstated
  -- a confirmed state goes straight to the executor
  have hnode : executeNode w (confirmationDelta values .confirm .epoch) = (do
      let answer ← ask w (.execute values.request.actorId proposal.orderId)
      .done (executionDelta (confirmationDelta values .confirm .epoch) answer)) := by
    unfold executeNode
    rw [show (confirmationDelta values .confirm .epoch).proposedAction = some proposal
      from hproposal]
    rfl
  obtain ⟨s₂, hperforms, hworld⟩ : ∃ s₂,
      Performs env i (s.record i (.task w .executeRefund) (.ok ()))
      (.dependency w (.execute values.request.actorId proposal.orderId)) (.ok saved) s₂ ∧
        s₂.world = world := ⟨_, .dependency hbehaves, rfl⟩
  have hexecutes : Program.Runs (Performs env i) (s.record i (.task w .executeRefund) (.ok ()))
      (executeNode w (confirmationDelta values .confirm .epoch)) (.ok state) s₂ := by
    rw [hnode]
    refine .bind (.caught (.perform hperforms)) ?_
    rw [hdelta]
    exact .done _
  have hafter : afterNode state .executeRefund = .ok none := by
    unfold afterNode afterExecution
    dsimp only
    rw [hresponds.escalation, show (confirmationDelta values .confirm .epoch).escalation = none
      from hescalation]
    rfl
  have hedge : Program.Runs (Performs env i) s₂ (.done (afterNode state .executeRefund)) (.ok none)
      s₂ := by
    rw [hafter]
    exact .done _
  rw [runGraph]
  exact ⟨s₂.stored i w (some .executeRefund) ⟨state, none, false⟩,
    .bind (.bind (.perform (.task ..)) (.bind hexecutes (.done _)))
      (.bind hedge (.bind (.perform (.put ..)) (.done _))),
    ⟨_, checkpoints_stored_self⟩, hworld⟩

/-- A confirmation that matches the request of a workflow that waits returns, before the expiry,
where the executor returns. -/
theorem runs_confirm_executed {expiresAt now : DateTime} {elapsed : ℤ}
    (hstored : s.checkpoints w = some ⟨values, some .confirmation, true⟩)
    (hfree : s.locks w = none) (hproposal : values.proposedAction = some proposal)
    (hroute : values.route = some route) (hescalation : values.escalation = none)
    (hstatus : values.status = .awaitingConfirmation)
    (hexpires : values.request.expiresAt = some expiresAt)
    (hsince : now.since expiresAt = some elapsed) (hlt : elapsed < 0)
    (hbehaves : env.behaves s.world (.execute values.request.actorId proposal.orderId) (.ok saved)
      world) :
    ∃ response s', Program.Runs (Performs env i) s
      (confirm w values.request.actorId values.request.requestId) (.ok response) s' ∧
        s'.world = world := by
  refine runs_resume (d := .confirm) (Q := (· = world)) hstored hfree hstatus hexpires hsince hlt ?_
  intro s₁ hsame hworld
  have hstored₁ : s₁.checkpoints w = some ⟨values, some .confirmation, true⟩ := by
    rw [hsame]
    exact hstored
  obtain ⟨s₂, hruns, ⟨snapshot, hended⟩, hworld'⟩ :=
    runs_confirmation (i := i) hstored₁ hproposal (by decide) rfl fun s₂ hworld₂ =>
      runs_execution hproposal hroute hescalation (by rw [hworld₂, hworld]; exact hbehaves)
  exact ⟨snapshot, s₂, hruns, hended, hworld'⟩

end Executed

section Sample

attribute [local instance] asciiTables plainTexts constantIds codePointOrder

def offlineOrderId : Uuid :=
  (Uuid.parse "11111111-1111-4111-8111-111111111111").get (by decide +kernel)

def offlineOrder : OrderRead := freeOrder offlineOrderId (.repeated 1) .delivered

def offlinePolicy : PolicyDocumentRead where
  id := .repeated 4
  slug := policySlug
  version := "2026-07-30"
  title := "Refunds"
  content := "Refunds take ten days."
  contentHash := ""

/-- The rows of one delivered order, and a policy. -/
def offlineTables : SupportTables :=
  { SupportTables.single offlineOrder with policies := [offlinePolicy] }

def offlineRequest : WorkflowRequest where
  actorId := .repeated 1
  requestId := "offline"
  message := "Refund 11111111-1111-4111-8111-111111111111"
  validRequestId := by decide +kernel
  validMessage := by decide +kernel

def offlineRoute : RoutingDecision where
  intent := .refund
  confidence := .ofRat (99 / 100)
  orderId := some offlineOrderId
  policySlug := some policySlug
  validConfidence := validConfidence_refund

/-- A start, and a confirmation of what it started. -/
def offlineCalls : Bool → ServiceCall
  | false => .start offlineRequest
  | true => .confirm (Uuid.repeated 5).str (.repeated 1) "offline"

theorem route_offlineRequest : RuleRouter.route offlineRequest.message = .ok offlineRoute := by
  have hreference : orderReference offlineRequest.message = .ok (some offlineOrderId) := by
    decide +kernel
  have hrefund : mentions ["refund", "money back", "cancel"]
      (String.ofList (UnicodeTables.lower offlineRequest.message.toList)) = true := by
    decide +kernel
  unfold RuleRouter.route
  rw [hreference]
  dsimp only
  rw [hrefund]
  rfl

theorem policy_offlineTables :
    newestPolicy (offlineTables.policies.filter (·.slug = policySlug)) = some offlinePolicy := by
  have hfilter : offlineTables.policies.filter (·.slug = policySlug) = [offlinePolicy] :=
    List.filter_cons_of_pos (decide_eq_true rfl)
  rw [hfilter]
  rfl

theorem propose_offlineOrder : ∃ proposal, SupportServiceRefundProposer.propose (.repeated 7) .epoch
    (.repeated 1) "offline" offlineOrder (some offlinePolicy) = .ok proposal ∧
      proposal.orderId = offlineOrderId := by
  have hversion : lengthWithin 1 50 ((some offlinePolicy).elim "unknown" (·.version)) = true := by
    decide +kernel
  unfold SupportServiceRefundProposer.propose
  rw [if_neg (by decide +kernel), if_neg (by decide +kernel), dif_pos hversion]
  exact ⟨_, rfl, rfl⟩

def offlineSession : SupportSession := .begin offlineTables

/-- A default dependency returns, and leaves the session as it is. -/
def AnswersOffline (call : Dependency) (answer : call.Answer) : Prop :=
  (defaultCall sqlAlchemySupportRepository (.repeated 7) .epoch call).run offlineSession =
    .ok answer offlineSession

theorem performs_offline {call : Dependency} {answer : call.Answer}
    {s : Shared SupportSession Bool} (h : AnswersOffline call answer)
    (hworld : s.world = offlineSession) (i : Bool) (thread : String) :
    Performs (offlineEnvironment sqlAlchemySupportRepository) i s (.dependency thread call)
      (.ok answer) (s.record i (.dependency thread call) (.ok answer)) := by
  have hbehaves : (offlineEnvironment sqlAlchemySupportRepository).behaves s.world call
      (.ok answer) s.world := by
    unfold AnswersOffline at h
    refine ⟨.repeated 7, .epoch, ?_, ?_⟩
    · rw [hworld, h]
      rfl
    · rw [hworld, h]
      rfl
  exact .dependency hbehaves

theorem answersOffline_route : AnswersOffline (.route offlineRequest.message) offlineRoute := by
  change EStateM.run (MonadExcept.ofExcept (RuleRouter.route offlineRequest.message) :
    Action SupportSession RoutingDecision) offlineSession = _
  rw [route_offlineRequest]
  rfl

theorem order_offlineTables : offlineTables.order? offlineOrderId = some offlineOrder :=
  SupportTables.order?_single offlineOrder

theorem owner_offlineOrder : offlineOrder.customerId = .repeated 1 := rfl

theorem answersOffline_getOrder :
    AnswersOffline (.getOrder offlineOrderId (.repeated 1)) offlineOrder := by
  change EStateM.run (getOrder sqlAlchemySupportRepository offlineOrderId (.repeated 1))
    ⟨offlineTables, offlineTables, false⟩ = _
  unfold getOrder
  rw [EStateM.run_bind, run_getOrder, order_offlineTables]
  dsimp only
  rw [if_neg (not_not.mpr owner_offlineOrder)]
  rfl

theorem answersOffline_getPolicy : AnswersOffline (.getPolicy policySlug) offlinePolicy := by
  change EStateM.run (getLatestPolicy sqlAlchemySupportRepository policySlug)
    ⟨offlineTables, offlineTables, false⟩ = _
  rw [run_getLatestPolicy_stored (by decide +kernel), policy_offlineTables]
  rfl

/-- The start waits for the confirmation of the refund. -/
theorem runs_offlineRequest : ∃ result s',
    Program.Runs (Performs (offlineEnvironment sqlAlchemySupportRepository) false)
      ({ world := offlineSession } : Shared SupportSession Bool) (start 1 offlineRequest)
      result s' ∧
    s'.world = offlineSession ∧ s'.locks (Uuid.repeated 5).str = none ∧
    ∃ values proposal,
      s'.checkpoints (Uuid.repeated 5).str = some ⟨values, some .confirmation, true⟩ ∧
        values.route = some offlineRoute ∧ values.escalation = none ∧
        values.proposedAction = some proposal ∧ proposal.orderId = offlineOrderId ∧
        values.status = .awaitingConfirmation ∧
        values.request = offlineRequest.until ⟨1, some (.fixed 0)⟩ := by
  obtain ⟨proposal, hproposal, horder⟩ := propose_offlineOrder
  have hproposes : AnswersOffline
      (.propose (.repeated 1) "offline" offlineOrder (some offlinePolicy)) proposal := by
    change EStateM.run (MonadExcept.ofExcept (SupportServiceRefundProposer.propose (.repeated 7)
      .epoch (.repeated 1) "offline" offlineOrder (some offlinePolicy)) :
        Action SupportSession ProposedAction) offlineSession = _
    rw [hproposal]
    rfl
  have hdraws : Uuid.repeated 6 ∉ [Uuid.repeated 5] := by decide +kernel
  refine Program.exists_runs_call (.uuid4 (u := .repeated 5) List.not_mem_nil) ?_
  refine Program.exists_runs_call (.uuid4 (u := .repeated 6) hdraws) ?_
  refine Program.exists_runs_call (.clock .epoch) (Program.exists_runs_call (.put ..) ?_)
  -- the route
  refine Program.exists_runs_call (.task ..) (Program.exists_runs_call (.nextAttempt ..) ?_)
  refine Program.exists_runs_call (performs_offline answersOffline_route rfl _ _) ?_
  refine Program.exists_runs_call (.put ..) (Program.exists_runs_call (.task ..) ?_)
  -- the order
  refine Program.exists_runs_call (.nextAttempt ..) ?_
  refine Program.exists_runs_call (performs_offline answersOffline_getOrder rfl _ _) ?_
  refine Program.exists_runs_call (.put ..) (Program.exists_runs_call (.task ..) ?_)
  -- the policy
  refine Program.exists_runs_call (.nextAttempt ..) ?_
  refine Program.exists_runs_call (performs_offline answersOffline_getPolicy rfl _ _) ?_
  refine Program.exists_runs_call (.put ..) (Program.exists_runs_call (.task ..) ?_)
  -- the proposal, and the interrupt
  refine Program.exists_runs_call (performs_offline hproposes rfl _ _) ?_
  refine Program.exists_runs_call (.put ..) (Program.exists_runs_call (.task ..) ?_)
  refine Program.exists_runs_call (.put ..)
    (runs_respond checkpoints_stored_self fun s' hcheckpoints hlocks hworld => ?_)
  exact ⟨hworld, by rw [hlocks]; rfl, _, proposal,
    (congrFun hcheckpoints _).trans checkpoints_stored_self, rfl, rfl, rfl, horder, rfl, rfl⟩

theorem status_offlineOrder : offlineOrder.status = .delivered := rfl

/-- A run that refunds an order. -/
theorem refundsConfirmed_offlineCalls : ∃ p,
    ServiceRun (offlineEnvironment sqlAlchemySupportRepository) 1 offlineCalls offlineSession p ∧
    p.shared.world.tables.order? offlineOrderId = some offlineOrder.refund ∧
    RefundsConfirmed offlineCalls offlineTables p.shared := by
  obtain ⟨result, s', hstart, hworld, hfree, values, proposal, hstored, hroute, hescalation,
    hproposal, horder, hstatus, hrequest⟩ := runs_offlineRequest
  have hnow : DateTime.epoch.since ⟨1, some (.fixed 0)⟩ = some (-1) := by decide +kernel
  have hrefund : (requestRefund sqlAlchemySupportRepository ⟨.repeated 1, offlineOrderId⟩).run
      ⟨offlineTables, offlineTables, false⟩ = .ok offlineOrder.refund
        ⟨offlineTables.withRefund offlineOrderId (.repeated 1), offlineTables, false⟩ := by
    rw [run_requestRefund, order_offlineTables]
    dsimp only
    rw [if_neg (not_not.mpr owner_offlineOrder), if_neg (not_not.mpr status_offlineOrder)]
  have hbehaves : (offlineEnvironment sqlAlchemySupportRepository).behaves s'.world
      (.execute values.request.actorId proposal.orderId) (.ok offlineOrder.refund)
      ⟨offlineTables.withRefund offlineOrderId (.repeated 1), offlineTables, false⟩ := by
    rw [hworld, hrequest, horder]
    refine ⟨.repeated 7, .epoch, ?_, ?_⟩
    · exact (congrArg outcome hrefund).symm
    · exact (congrArg finalState hrefund).symm
  obtain ⟨response, s'', hconfirm, hworld'⟩ := runs_confirm_executed (i := true) hstored hfree
    hproposal hroute hescalation hstatus (by rw [hrequest]; rfl) hnow (by decide) hbehaves
  rw [hrequest] at hconfirm
  have hrun : ServiceRun (offlineEnvironment sqlAlchemySupportRepository) 1 offlineCalls
      offlineSession ⟨s'', _⟩ :=
    (steps_of_runs (i := false) rfl hstart).trans (steps_of_runs (i := true) rfl hconfirm)
  refine ⟨_, hrun, ?_, refundsConfirmed_of_run hrun⟩
  have hrefundable : refundable offlineOrderId (.repeated 1) offlineOrder = true :=
    refundable_iff.mpr ⟨rfl, owner_offlineOrder, status_offlineOrder⟩
  dsimp only
  rw [hworld', SupportTables.order?_withRefund, order_offlineTables, Option.map_some,
    if_pos hrefundable]

end Sample

end ObservabilityLab.Workflow
