import ObservabilityLab.Library.Stepwise
import ObservabilityLab.Simulation.Postgres
import ObservabilityLab.Support.Service

/-!
# Concurrent refunds

Any number of refund requests run at the same time on shared tables, with or without the observer
between them and the repository. Every call of the repository is one atomic step, and so is every
record of the observer; the steps of the requests interleave in any order.

## Main definitions

* `atomically`, `sharedRepository`: the repository whose calls are atomic steps
* `refundPool`: the requests
* `RefundStage`, `stageStep`: where a request stands, and its next step
* `RefundMove`: what one step can do
* `stageRun`: the stages that a schedule reaches
* `RefundsConsistent`: what holds after a schedule

## Main results

* `program_advance`: a request steps as its stages do
* `won_unique`, `exists_refund_of_won`, `before_of_not_won`, `log_stageRun`: who wins an order, when
  it was refunded, what the others changed, and what the observer recorded
* `concurrentRefunds`: the refunds are consistent after every schedule
-/

namespace ObservabilityLab

open Python Raising Interleaving

/-! ## The requests -/

section Requests

variable [RandomIds] [Collation]

/-- One call of the repository, in a transaction of its own. -/
def atomically {α : Type} (x : Action SupportSession α) :
    Stepwise PyError (Observed SupportTables) α :=
  .step (fun shared => { shared with inner := (finalState (x.run (.begin shared.inner))).tables })
    fun shared => .done (outcome (x.run (.begin shared.inner)))

/-- One change of the observer's log. -/
def logStep (f : MutationLog → MutationLog) : Stepwise PyError (Observed SupportTables) Unit :=
  .perform (fun _ => ()) fun shared => { shared with log := f shared.log }

/-- The repository whose calls are atomic steps, with or without its observer. -/
def sharedRepository (observes : Bool) :
    SupportRepository (Stepwise PyError (Observed SupportTables)) :=
  if observes then
    observedSupportRepository logStep (sqlAlchemySupportRepository.map atomically)
  else sqlAlchemySupportRepository.map atomically

theorem atomically_refundOrderIfDelivered (orderId customerId : Uuid) :
    atomically (sqlAlchemySupportRepository.refundOrderIfDelivered orderId customerId) =
      .perform (fun shared => shared.inner.refunded? orderId customerId)
        fun shared => { shared with inner := shared.inner.withRefund orderId customerId } := by
  unfold atomically SupportSession.begin
  simp only [run_refundOrderIfDelivered]
  rfl

variable {Id : Type}

/-- The requests of a pool, on shared tables. -/
def refundPool (observes : Bool) (commands : Id → RefundCommand) (tables : SupportTables)
    (log : MutationLog) :
    Pool Id (Observed SupportTables) (Stepwise PyError (Observed SupportTables) OrderRead) where
  shared := ⟨tables, log⟩
  locals i := requestRefund (sharedRepository observes) (commands i)

/-- The pool after the steps of a schedule. -/
def refundRun [DecidableEq Id] (observes : Bool) (commands : Id → RefundCommand)
    (tables : SupportTables) (log : MutationLog) (schedule : List Id) :
    Pool Id (Observed SupportTables) (Stepwise PyError (Observed SupportTables) OrderRead) :=
  (refundPool observes commands tables log).run (fun _ shared x => x.advance shared) schedule

end Requests

/-! ## The stages of a request -/

/-- Where a request stands. -/
inductive RefundStage where
  | reading
  | observing
  | updating (before : Option OrderRead)
  | recording (before saved : OrderRead)
  | rereading
  | finished (result : Except PyError OrderRead)

/-- The stage after an order was read: it is refused, or goes on. -/
def afterReading (observes : Bool) (command : RefundCommand) : Option OrderRead → RefundStage
  | none => .finished (.error orderNotFound)
  | some order =>
    if order.customerId ≠ command.actorId then .finished (.error forbidden)
    else if order.status ∉ refundableOrderStatuses then .finished (.error invalidTransition)
    else if observes then .observing
    else .updating none

/-- The stage after the update: it matched, or the order is read again. -/
def afterUpdating (before : Option OrderRead) : Option OrderRead → RefundStage
  | none => .rereading
  | some saved =>
    match before with
    | none => .finished (.ok saved)
    | some before =>
      if before.status ≠ saved.status then .recording before saved else .finished (.ok saved)

/-- What a request that lost its order raises. -/
def afterRereading (command : RefundCommand) : Option OrderRead → RefundStage
  | none => .finished (.error orderNotFound)
  | some current =>
    if current.customerId ≠ command.actorId then .finished (.error forbidden)
    else .finished (.error invalidTransition)

/-- The record of a refund. -/
def MutationLog.recordRefund (log : MutationLog) (before saved : OrderRead) : MutationLog :=
  log.record "order" saved.id "status" (.str before.status.value) (.str saved.status.value)
    "refund_executed"

/-- The next step of a request. -/
def stageStep (observes : Bool) (command : RefundCommand) (shared : Observed SupportTables) :
    RefundStage → Observed SupportTables × RefundStage
  | .reading => (shared, afterReading observes command (shared.inner.order? command.orderId))
  | .observing => (shared, .updating (shared.inner.order? command.orderId))
  | .updating before =>
    ({ shared with inner := shared.inner.withRefund command.orderId command.actorId },
      afterUpdating before (shared.inner.refunded? command.orderId command.actorId))
  | .recording before saved =>
    ({ shared with log := shared.log.recordRefund before saved }, .finished (.ok saved))
  | .rereading => (shared, afterRereading command (shared.inner.order? command.orderId))
  | .finished result => (shared, .finished result)

section Program

variable [RandomIds] [Collation]

/-- What is left of a request after its update. -/
def conclude (command : RefundCommand) (saved : Option OrderRead) :
    Stepwise PyError (Observed SupportTables) OrderRead :=
  match saved with
  | some saved => return saved
  | none => do
    match ← atomically (sqlAlchemySupportRepository.getOrder command.orderId) with
    | none => throw orderNotFound
    | some current =>
      if current.customerId ≠ command.actorId then throw forbidden
      else throw invalidTransition

/-- What is left of a request at its stage. -/
def RefundStage.program (observes : Bool) (command : RefundCommand) :
    RefundStage → Stepwise PyError (Observed SupportTables) OrderRead
  | .reading => requestRefund (sharedRepository observes) command
  | .observing => do
    let before ← atomically (sqlAlchemySupportRepository.getOrder command.orderId)
    let saved ← atomically
      (sqlAlchemySupportRepository.refundOrderIfDelivered command.orderId command.actorId)
    recordOrder logStep before saved
    conclude command saved
  | .updating before => do
    let saved ← atomically
      (sqlAlchemySupportRepository.refundOrderIfDelivered command.orderId command.actorId)
    recordOrder logStep before saved
    conclude command saved
  | .recording before saved => do
    logStep (·.recordRefund before saved)
    return saved
  | .rereading => conclude command none
  | .finished result => .done result

/-- What is left of a request that read its order. -/
def refundRead (observes : Bool) (command : RefundCommand) (order : OrderRead) :
    Stepwise PyError (Observed SupportTables) OrderRead :=
  if order.status ∉ refundableOrderStatuses then throw invalidTransition
  else do
    let saved ← (sharedRepository observes).refundOrderIfDelivered command.orderId command.actorId
    match saved with
    | some saved => return saved
    | none =>
      match ← (sharedRepository observes).getOrder command.orderId with
      | none => throw orderNotFound
      | some current =>
        if current.customerId ≠ command.actorId then throw forbidden
        else throw invalidTransition

/-- The first step of a request reads its order. -/
theorem requestRefund_advance (observes : Bool) (command : RefundCommand)
    (shared : Observed SupportTables) :
    (requestRefund (sharedRepository observes) command).advance shared =
      (shared, match shared.inner.order? command.orderId with
        | none => throw orderNotFound
        | some order =>
          if order.customerId ≠ command.actorId then throw forbidden
          else refundRead observes command order) := by
  have hstart : (requestRefund (sharedRepository observes) command).advance shared =
      (shared, Stepwise.bind (match shared.inner.order? command.orderId with
        | none => throw orderNotFound
        | some order =>
          if order.customerId ≠ command.actorId then throw forbidden else return order)
        (refundRead observes command)) := by
    cases observes with
    | false => rfl
    | true => rfl
  rw [hstart]
  cases shared.inner.order? command.orderId with
  | none => rfl
  | some order =>
    dsimp only
    split
    · rfl
    · rfl

/-- **A request steps as its stages do.** -/
theorem program_advance (observes : Bool) (command : RefundCommand)
    (shared : Observed SupportTables) (stage : RefundStage) :
    (stage.program observes command).advance shared =
      ((stageStep observes command shared stage).1,
        (stageStep observes command shared stage).2.program observes command) := by
  -- the program reaches its next statement, and what lies between the two is pure
  cases stage with
  | reading =>
    refine (requestRefund_advance observes command shared).trans (Prod.ext rfl ?_)
    unfold stageStep afterReading
    cases shared.inner.order? command.orderId with
    | none => rfl
    | some order =>
      dsimp only [refundRead]
      split
      · rfl
      · split
        · rfl
        · cases observes with
          | false => rfl
          | true =>
            simp only [sharedRepository, if_true, observedSupportRepository, SupportRepository.map,
              bind_assoc, pure_bind]
            rfl
  | observing => rfl
  | updating before =>
    change Stepwise.advance shared (atomically (sqlAlchemySupportRepository.refundOrderIfDelivered
      command.orderId command.actorId) >>= _) = _
    rw [atomically_refundOrderIfDelivered, Stepwise.perform_bind]
    dsimp only [Stepwise.advance, stageStep]
    unfold afterUpdating
    cases shared.inner.refunded? command.orderId command.actorId with
    | none =>
      cases before with
      | none => rfl
      | some before => rfl
    | some saved =>
      cases before with
      | none => rfl
      | some before =>
        dsimp only [recordOrder]
        split
        · rfl
        · rfl
  | recording before saved => rfl
  | rereading =>
    change (shared, Stepwise.bind (.done (.ok (shared.inner.order? command.orderId))) _) = _
    unfold stageStep afterRereading
    cases shared.inner.order? command.orderId with
    | none => rfl
    | some current =>
      dsimp only [Stepwise.bind]
      split
      · rfl
      · rfl
  | finished result => rfl

end Program

/-! ## What refunds do to the rows -/

/-- A row after some refunds: as it was, or from delivered to refunded. -/
def MaybeRefunded (before after : Option OrderRead) : Prop :=
  after = before ∨
    ∃ order, before = some order ∧ order.status = .delivered ∧ after = some order.refund

theorem MaybeRefunded.trans {before between after : Option OrderRead}
    (h : MaybeRefunded before between) (h' : MaybeRefunded between after) :
    MaybeRefunded before after := by
  rcases h with rfl | ⟨order, rfl, hdelivered, rfl⟩
  · exact h'
  · rcases h' with rfl | ⟨refunded, hrow, hstatus, -⟩
    · exact Or.inr ⟨order, rfl, hdelivered, rfl⟩
    · rw [← Option.some.inj hrow] at hstatus
      cases hstatus

section Rows

variable {tables : SupportTables} {orderId customerId : Uuid}

theorem refunded?_eq_some {saved : OrderRead} :
    tables.refunded? orderId customerId = some saved ↔
      ∃ order, tables.order? orderId = some order ∧ order.customerId = customerId ∧
        order.status = .delivered ∧ saved = order.refund := by
  unfold SupportTables.refunded?
  rw [Option.bind_eq_some_iff]
  constructor
  · rintro ⟨order, horder, hmatch⟩
    split at hmatch
    · rename_i hrefundable
      obtain ⟨-, howner, hdelivered⟩ := refundable_iff.mp hrefundable
      exact ⟨order, horder, howner, hdelivered, (Option.some.inj hmatch).symm⟩
    · cases hmatch
  · rintro ⟨order, horder, howner, hdelivered, rfl⟩
    exact ⟨order, horder, if_pos (refundable_iff.mpr
      ⟨SupportTables.id_of_order? horder, howner, hdelivered⟩)⟩

theorem maybeRefunded_withRefund (tables : SupportTables) (orderId customerId id : Uuid) :
    MaybeRefunded (tables.order? id) ((tables.withRefund orderId customerId).order? id) := by
  rw [SupportTables.order?_withRefund]
  cases horder : tables.order? id with
  | none => exact Or.inl rfl
  | some order =>
    rw [Option.map_some]
    split
    · rename_i hrefundable
      exact Or.inr ⟨order, rfl, (refundable_iff.mp hrefundable).2.2, rfl⟩
    · exact Or.inl rfl

/-- A refund that matched is what the table then holds. -/
theorem order?_withRefund_of_refunded? {saved : OrderRead}
    (h : tables.refunded? orderId customerId = some saved) :
    (tables.withRefund orderId customerId).order? orderId = some saved := by
  obtain ⟨order, horder, howner, hdelivered, rfl⟩ := refunded?_eq_some.mp h
  rw [SupportTables.order?_withRefund, horder, Option.map_some, if_pos (refundable_iff.mpr
    ⟨SupportTables.id_of_order? horder, howner, hdelivered⟩)]

/-- A refunded order stays as it is. -/
theorem order?_withRefund_of_refunded {id : Uuid} {saved : OrderRead}
    (h : tables.order? id = some saved) (hstatus : saved.status = .refunded) :
    (tables.withRefund orderId customerId).order? id = some saved := by
  rcases maybeRefunded_withRefund tables orderId customerId id with
    hsame | ⟨order, horder, hdelivered, -⟩
  · rw [hsame, h]
  · rw [h, Option.some.injEq] at horder
    rw [← horder, hstatus] at hdelivered
    cases hdelivered

/-- An order that cannot be refunded does not become refundable. -/
theorem refunded?_withRefund {id actorId : Uuid} (h : tables.refunded? id actorId = none) :
    (tables.withRefund orderId customerId).refunded? id actorId = none := by
  by_contra hsome
  obtain ⟨saved, hsaved⟩ := Option.ne_none_iff_exists'.mp hsome
  obtain ⟨order, horder, howner, hdelivered, -⟩ := refunded?_eq_some.mp hsaved
  rcases maybeRefunded_withRefund tables orderId customerId id with hsame | ⟨before, -, -, hafter⟩
  · rw [horder] at hsame
    rw [refunded?_eq_some.mpr ⟨order, hsame.symm, howner, hdelivered, rfl⟩] at h
    cases h
  · rw [horder, Option.some.injEq] at hafter
    rw [hafter] at hdelivered
    cases hdelivered

end Rows

/-! ## What a request knows -/

/-- The record of a refund, or the return of the refunded order. -/
def RefundStage.won : RefundStage → Option OrderRead
  | .recording _ saved => some saved
  | .finished (.ok saved) => some saved
  | _ => none

/-- The errors of a refund request. -/
def refundErrors : List PyError := [orderNotFound, forbidden, invalidTransition]

/-- What a request knows of the rows. The order that the observer read is still stored as it was
read, or it cannot be refunded any more. -/
def RefundStage.Known (observes : Bool) (command : RefundCommand) (tables : SupportTables) :
    RefundStage → Prop
  | .reading => True
  | .observing => observes = true
  | .updating before =>
    (observes = true → before = tables.order? command.orderId ∨
      tables.refunded? command.orderId command.actorId = none) ∧
    (observes = false → before = none)
  | .recording before saved =>
    observes = true ∧ before.status = .delivered ∧
      tables.order? command.orderId = some saved ∧ saved.status = .refunded
  | .rereading => True
  | .finished (.ok saved) => tables.order? command.orderId = some saved ∧ saved.status = .refunded
  | .finished (.error e) => e ∈ refundErrors

section Known

variable {observes : Bool} {command : RefundCommand} {tables : SupportTables} {stage : RefundStage}

/-- A won order is stored, refunded. -/
theorem order?_of_won {saved : OrderRead} (h : stage.Known observes command tables)
    (hwon : stage.won = some saved) :
    tables.order? command.orderId = some saved ∧ saved.status = .refunded := by
  cases stage with
  | recording before saved' =>
    obtain rfl := Option.some.inj hwon
    exact h.2.2
  | finished result =>
    cases result with
    | ok saved' =>
      obtain rfl := Option.some.inj hwon
      exact h
    | error e => cases hwon
  | _ => cases hwon

/-- A refund of any request keeps what the others know. -/
theorem known_withRefund (h : stage.Known observes command tables) (orderId customerId : Uuid) :
    stage.Known observes command (tables.withRefund orderId customerId) := by
  cases stage with
  | updating before =>
    refine ⟨fun hobserves => ?_, h.2⟩
    rcases h.1 hobserves with rfl | hnone
    · rcases maybeRefunded_withRefund tables orderId customerId command.orderId with
        hsame | ⟨order, -, -, hafter⟩
      · exact Or.inl hsame.symm
      · refine Or.inr (Option.eq_none_iff_forall_ne_some.mpr fun saved hsaved => ?_)
        obtain ⟨current, hcurrent, -, hdelivered, -⟩ := refunded?_eq_some.mp hsaved
        rw [hafter, Option.some.injEq] at hcurrent
        rw [← hcurrent] at hdelivered
        cases hdelivered
    · exact Or.inr (refunded?_withRefund hnone)
  | recording before saved =>
    obtain ⟨hobserves, hbefore, hrow, hstatus⟩ := h
    exact ⟨hobserves, hbefore, order?_withRefund_of_refunded hrow hstatus, hstatus⟩
  | finished result =>
    cases result with
    | ok saved => exact ⟨order?_withRefund_of_refunded h.1 h.2, h.2⟩
    | error e => exact h
  | _ => exact h

/-- An update that matched has a change to record, if it is observed. -/
theorem afterUpdating_of_known {before : Option OrderRead} {saved : OrderRead}
    (h : (RefundStage.updating before).Known true command tables)
    (hmatch : tables.refunded? command.orderId command.actorId = some saved) :
    ∃ order, order.status = .delivered ∧
      afterUpdating before (some saved) = .recording order saved := by
  obtain ⟨order, horder, -, hdelivered, rfl⟩ := refunded?_eq_some.mp hmatch
  rcases h.1 rfl with rfl | hnone
  · -- the order that the observer read is the one that the update matched
    have hchanged : order.status ≠ order.refund.status := by
      rw [hdelivered]
      exact nofun
    refine ⟨order, hdelivered, ?_⟩
    rw [horder]
    exact if_pos hchanged
  · rw [hmatch] at hnone
    cases hnone

/-- The own step of a request keeps what it knows. -/
theorem known_stageStep {shared : Observed SupportTables}
    (h : stage.Known observes command shared.inner) :
    (stageStep observes command shared stage).2.Known observes command
      (stageStep observes command shared stage).1.inner := by
  -- what a request knows of the rows: what it read may be old, what it wrote is final
  cases stage with
  | reading =>
    unfold stageStep afterReading
    cases shared.inner.order? command.orderId with
    | none => exact List.mem_cons_self
    | some order =>
      dsimp only
      split
      · exact List.mem_cons_of_mem _ List.mem_cons_self
      · split
        · exact List.mem_cons_of_mem _ (List.mem_cons_of_mem _ List.mem_cons_self)
        · cases observes with
          | false => exact ⟨fun h => absurd h Bool.false_ne_true, fun _ => rfl⟩
          | true => rfl
  | observing => exact ⟨fun _ => Or.inl rfl, fun h' => by rw [h] at h'; cases h'⟩
  | updating before =>
    unfold stageStep
    cases hsaved : shared.inner.refunded? command.orderId command.actorId with
    | none => trivial
    | some saved =>
      have hrow := order?_withRefund_of_refunded? hsaved
      have hstatus : saved.status = .refunded := by
        obtain ⟨order, -, -, -, hrefund⟩ := refunded?_eq_some.mp hsaved
        rw [hrefund]
        rfl
      cases observes with
      | false =>
        rw [h.2 rfl]
        exact ⟨hrow, hstatus⟩
      | true =>
        obtain ⟨order, hdelivered, hnext⟩ := afterUpdating_of_known h hsaved
        dsimp only
        rw [hnext]
        exact ⟨rfl, hdelivered, hrow, hstatus⟩
  | recording before saved => exact h.2.2
  | rereading =>
    unfold stageStep afterRereading
    cases shared.inner.order? command.orderId with
    | none => exact List.mem_cons_self
    | some current =>
      dsimp only
      split
      · exact List.mem_cons_of_mem _ List.mem_cons_self
      · exact List.mem_cons_of_mem _ (List.mem_cons_of_mem _ List.mem_cons_self)
  | finished result => exact h

end Known

/-! ## What one step does -/

/-- **The steps of a request**: it reads, it refunds its order, or it records its refund. -/
inductive RefundMove (command : RefundCommand) (shared : Observed SupportTables) :
    RefundStage → Observed SupportTables → RefundStage → Prop where
  | read {stage next : RefundStage} (hwon : stage.won = none ∧ next.won = none ∨ stage = next) :
      RefundMove command shared stage shared next
  | refund {before : Option OrderRead} {saved : OrderRead}
      (hmatch : shared.inner.refunded? command.orderId command.actorId = some saved) :
      RefundMove command shared (.updating before)
        { shared with inner := shared.inner.withRefund command.orderId command.actorId }
        (afterUpdating before (some saved))
  | record (before saved : OrderRead) :
      RefundMove command shared (.recording before saved)
        { shared with log := shared.log.recordRefund before saved } (.finished (.ok saved))

theorem won_afterReading (observes : Bool) (command : RefundCommand) (row : Option OrderRead) :
    (afterReading observes command row).won = none := by
  unfold afterReading
  cases row with
  | none => rfl
  | some order =>
    dsimp only
    split
    · rfl
    · split
      · rfl
      · cases observes with
        | false => rfl
        | true => rfl

theorem won_afterRereading (command : RefundCommand) (row : Option OrderRead) :
    (afterRereading command row).won = none := by
  unfold afterRereading
  cases row with
  | none => rfl
  | some current =>
    dsimp only
    split
    · rfl
    · rfl

theorem won_afterUpdating (before : Option OrderRead) (saved : OrderRead) :
    (afterUpdating before (some saved)).won = some saved := by
  unfold afterUpdating
  cases before with
  | none => rfl
  | some before =>
    dsimp only
    split
    · rfl
    · rfl

theorem stageStep_move (observes : Bool) (command : RefundCommand) (shared : Observed SupportTables)
    (stage : RefundStage) :
    RefundMove command shared stage (stageStep observes command shared stage).1
      (stageStep observes command shared stage).2 := by
  cases stage with
  | reading => exact .read (Or.inl ⟨rfl, won_afterReading ..⟩)
  | observing => exact .read (Or.inl ⟨rfl, rfl⟩)
  | updating before =>
    unfold stageStep
    cases hmatch : shared.inner.refunded? command.orderId command.actorId with
    | none =>
      rw [shared.inner.withRefund_of_refunded?_eq_none hmatch]
      exact .read (Or.inl ⟨rfl, rfl⟩)
    | some saved => exact .refund hmatch
  | recording before saved => exact .record before saved
  | rereading => exact .read (Or.inl ⟨rfl, won_afterRereading ..⟩)
  | finished result => exact .read (Or.inr rfl)

section Move

variable {command : RefundCommand} {shared shared' : Observed SupportTables}
  {stage next : RefundStage}

/-- A step leaves the rows as they are, or refunds the order of its request. -/
theorem RefundMove.rows (h : RefundMove command shared stage shared' next) :
    shared'.inner = shared.inner ∨
      shared'.inner = shared.inner.withRefund command.orderId command.actorId := by
  cases h with
  | read => exact Or.inl rfl
  | refund => exact Or.inr rfl
  | record => exact Or.inl rfl

theorem RefundMove.maybeRefunded (h : RefundMove command shared stage shared' next) (id : Uuid) :
    MaybeRefunded (shared.inner.order? id) (shared'.inner.order? id) := by
  rcases h.rows with hsame | hrefund
  · rw [hsame]
    exact Or.inl rfl
  · rw [hrefund]
    exact maybeRefunded_withRefund ..

/-- A refund that was won stays won. -/
theorem RefundMove.won_mono (h : RefundMove command shared stage shared' next) {saved : OrderRead}
    (hwon : stage.won = some saved) : next.won = some saved := by
  cases h with
  | read hsame =>
    rcases hsame with ⟨hnone, -⟩ | rfl
    · rw [hnone] at hwon
      cases hwon
    · exact hwon
  | refund => cases hwon
  | record => exact hwon

/-- **Only the conditional update wins a refund**, of an order that is delivered and the
actor's. -/
theorem RefundMove.refund_of_won (h : RefundMove command shared stage shared' next)
    {saved : OrderRead} (hbefore : stage.won = none) (hwon : next.won = some saved) :
    shared.inner.refunded? command.orderId command.actorId = some saved ∧
      shared'.inner = shared.inner.withRefund command.orderId command.actorId := by
  cases h with
  | read hsame =>
    rcases hsame with ⟨-, hnone⟩ | rfl
    · rw [hnone] at hwon
      cases hwon
    · rw [hbefore] at hwon
      cases hwon
  | refund hmatch =>
    rw [won_afterUpdating, Option.some.injEq] at hwon
    exact ⟨by rw [hmatch, hwon], rfl⟩
  | record => cases hbefore

/-- A request that has not won its refund has changed nothing. -/
theorem RefundMove.shared_of_not_won (h : RefundMove command shared stage shared' next)
    (hwon : next.won = none) : shared' = shared := by
  cases h with
  | read => rfl
  | refund =>
    rw [won_afterUpdating] at hwon
    cases hwon
  | record => cases hwon

/-- A request returned the refunded order. -/
def RefundStage.Returned (stage : RefundStage) : Prop := ∃ saved, stage = .finished (.ok saved)

/-- **An observed request writes the log when it returns**, one entry from delivered to refunded; no
other step writes the log. -/
theorem RefundMove.log {observes : Bool} (h : RefundMove command shared stage shared' next)
    (hknown : stage.Known observes command shared.inner) :
    (shared'.log = shared.log ∧
      (observes = true ∧ next.Returned ↔ observes = true ∧ stage.Returned)) ∨
    (observes = true ∧ next.Returned ∧ ¬ stage.Returned ∧
      shared'.log = ⟨shared.log.mutations ++
        [statusMutation (shared.log.sequence + 1) command.orderId .delivered .refunded],
        shared.log.sequence + 1⟩) := by
  cases h with
  | read hsame =>
    refine Or.inl ⟨rfl, ?_⟩
    rcases hsame with ⟨hbefore, hafter⟩ | rfl
    · have hnot : ∀ {other : RefundStage}, other.won = none → ¬ other.Returned := by
        rintro _ hnone ⟨saved, rfl⟩
        cases hnone
      rw [iff_false_intro (hnot hbefore), iff_false_intro (hnot hafter)]
    · rfl
  | @refund before saved hmatch =>
    refine Or.inl ⟨rfl, ?_⟩
    constructor
    · rintro ⟨rfl, saved', hreturned⟩
      obtain ⟨order, -, hnext⟩ := afterUpdating_of_known hknown hmatch
      rw [hnext] at hreturned
      cases hreturned
    · rintro ⟨-, saved', hreturned⟩
      cases hreturned
  | record before saved =>
    obtain ⟨hobserves, hdelivered, hrow, hrefunded⟩ := hknown
    refine Or.inr ⟨hobserves, ⟨saved, rfl⟩, nofun, ?_⟩
    dsimp only [MutationLog.recordRefund, MutationLog.record]
    rw [hdelivered, hrefunded, SupportTables.id_of_order? hrow]
    rfl

end Move

/-! ## What holds after every schedule -/

section Runs

variable {Id : Type} [DecidableEq Id] (observes : Bool) (commands : Id → RefundCommand)
  (tables : SupportTables) (log : MutationLog)

/-- The stages of the requests after the steps of a schedule. -/
def stageRun (schedule : List Id) : Pool Id (Observed SupportTables) RefundStage :=
  Pool.run (fun i => stageStep observes (commands i)) ⟨⟨tables, log⟩, fun _ => .reading⟩ schedule

variable (schedule : List Id)

theorem stageRun_concat (i : Id) :
    stageRun observes commands tables log (schedule ++ [i]) =
      (stageRun observes commands tables log schedule).step
        (fun i => stageStep observes (commands i)) i :=
  Pool.run_concat

/-- The move of a request at the end of a schedule. -/
theorem stageRun_move (i : Id) :
    RefundMove (commands i) (stageRun observes commands tables log schedule).shared
      ((stageRun observes commands tables log schedule).locals i)
      (stageRun observes commands tables log (schedule ++ [i])).shared
      ((stageRun observes commands tables log (schedule ++ [i])).locals i) := by
  rw [stageRun_concat, Pool.locals_step_self]
  exact stageStep_move ..

theorem locals_stageRun_of_ne {i j : Id} (h : i ≠ j) :
    (stageRun observes commands tables log (schedule ++ [j])).locals i =
      (stageRun observes commands tables log schedule).locals i := by
  rw [stageRun_concat]
  exact Pool.locals_step_of_ne h

theorem known_stageRun (i : Id) :
    ((stageRun observes commands tables log schedule).locals i).Known observes (commands i)
      (stageRun observes commands tables log schedule).shared.inner := by
  have hinit : ∀ i, RefundStage.Known observes (commands i) tables .reading := fun _ => trivial
  refine (Pool.run_localInvariant (fun _ => True)
    (fun i (shared : Observed SupportTables) =>
      RefundStage.Known observes (commands i) shared.inner)
    (p := ⟨⟨tables, log⟩, fun _ => .reading⟩) ⟨trivial, hinit⟩
    (fun _ _ _ _ _ => trivial) (fun _ _ _ _ h => known_stageStep h)
    fun i j shared stage other _ h => ?_).2 i
  rcases (stageStep_move observes (commands j) shared other).rows with hsame | hrefund
  · rw [hsame]
    exact h
  · rw [hrefund]
    exact known_withRefund h ..

/-- **The history of an order**: unchanged, or from delivered to refunded. -/
theorem maybeRefunded_stageRun (earlier later : List Id) (id : Uuid) :
    MaybeRefunded ((stageRun observes commands tables log earlier).shared.inner.order? id)
      ((stageRun observes commands tables log (earlier ++ later)).shared.inner.order? id) := by
  induction later using List.reverseRecOn with
  | nil =>
    rw [List.append_nil]
    exact Or.inl rfl
  | append_singleton later i ih =>
    rw [← List.append_assoc]
    exact ih.trans
      ((stageRun_move observes commands tables log (earlier ++ later) i).maybeRefunded id)

/-- **At most one request wins each order.** -/
theorem won_unique {i j : Id} {saved saved' : OrderRead}
    (hi : ((stageRun observes commands tables log schedule).locals i).won = some saved)
    (hj : ((stageRun observes commands tables log schedule).locals j).won = some saved')
    (horder : (commands i).orderId = (commands j).orderId) : i = j := by
  induction schedule using List.reverseRecOn generalizing i j saved saved' with
  | nil => cases hi
  | append_singleton schedule k ih =>
    -- The request that moves wins only an order that is delivered, so that no other has won it.
    have hmoves : ∀ {i j : Id} {saved saved' : OrderRead}, i = k → j ≠ k →
        ((stageRun observes commands tables log (schedule ++ [k])).locals i).won = some saved →
        ((stageRun observes commands tables log (schedule ++ [k])).locals j).won = some saved' →
        (commands i).orderId = (commands j).orderId → i = j := by
      rintro i j saved saved' rfl hjk hi hj horder
      rw [locals_stageRun_of_ne observes commands tables log schedule hjk] at hj
      have hmove := stageRun_move observes commands tables log schedule i
      cases hbefore : ((stageRun observes commands tables log schedule).locals i).won with
      | some won => exact ih hbefore hj horder
      | none =>
        obtain ⟨order, hrow, -, hdelivered, -⟩ :=
          refunded?_eq_some.mp (hmove.refund_of_won hbefore hi).1
        have hrefunded := order?_of_won (known_stageRun observes commands tables log schedule j) hj
        rw [horder, hrefunded.1, Option.some.injEq] at hrow
        rw [← hrow, hrefunded.2] at hdelivered
        cases hdelivered
    by_cases hik : i = k
    · by_cases hjk : j = k
      · rw [hik, hjk]
      · exact hmoves hik hjk hi hj horder
    · by_cases hjk : j = k
      · exact (hmoves hjk hik hj hi horder.symm).symm
      · rw [locals_stageRun_of_ne observes commands tables log schedule hik] at hi
        rw [locals_stageRun_of_ne observes commands tables log schedule hjk] at hj
        exact ih hi hj horder

/-- **A refund is won at one step**, which finds the order delivered and the actor's. -/
theorem exists_refund_of_won {i : Id} {saved : OrderRead}
    (hwon : ((stageRun observes commands tables log schedule).locals i).won = some saved) :
    ∃ earlier later, schedule = earlier ++ i :: later ∧
      (stageRun observes commands tables log earlier).shared.inner.refunded?
        (commands i).orderId (commands i).actorId = some saved ∧
      (stageRun observes commands tables log (earlier ++ [i])).shared.inner =
        (stageRun observes commands tables log earlier).shared.inner.withRefund
          (commands i).orderId (commands i).actorId := by
  induction schedule using List.reverseRecOn with
  | nil => cases hwon
  | append_singleton schedule j ih =>
    have hlater : ((stageRun observes commands tables log schedule).locals i).won = some saved →
        ∃ earlier later, schedule ++ [j] = earlier ++ i :: later ∧
          (stageRun observes commands tables log earlier).shared.inner.refunded?
            (commands i).orderId (commands i).actorId = some saved ∧
          (stageRun observes commands tables log (earlier ++ [i])).shared.inner =
            (stageRun observes commands tables log earlier).shared.inner.withRefund
              (commands i).orderId (commands i).actorId := by
      intro hbefore
      obtain ⟨earlier, later, hsplit, hrefund⟩ := ih hbefore
      refine ⟨earlier, later ++ [j], ?_, hrefund⟩
      rw [hsplit, List.append_assoc, List.cons_append]
    by_cases hij : i = j
    · subst hij
      have hmove := stageRun_move observes commands tables log schedule i
      cases hbefore : ((stageRun observes commands tables log schedule).locals i).won with
      | some won =>
        rw [hmove.won_mono hbefore] at hwon
        exact hlater (hbefore.trans hwon)
      | none => exact ⟨schedule, [], rfl, hmove.refund_of_won hbefore hwon⟩
    · rw [locals_stageRun_of_ne observes commands tables log schedule hij] at hwon
      exact hlater hwon

/-- **A request that has not won its refund has changed nothing.** -/
theorem before_of_not_won {i : Id}
    (hwon : ((stageRun observes commands tables log schedule).locals i).won = none)
    {earlier later : List Id} (hsplit : schedule = earlier ++ i :: later) :
    (stageRun observes commands tables log (earlier ++ [i])).shared =
      (stageRun observes commands tables log earlier).shared := by
  induction schedule using List.reverseRecOn generalizing later with
  | nil => exact absurd hsplit.symm (List.append_ne_nil_of_right_ne_nil _ (List.cons_ne_nil _ _))
  | append_singleton schedule j ih =>
    rcases Pool.eq_concat_iff.mp hsplit with ⟨-, rfl, rfl⟩ | ⟨rest, -, hrest⟩
    · exact (stageRun_move observes commands tables log earlier j).shared_of_not_won hwon
    · refine ih ?_ hrest
      by_cases hij : i = j
      · subst hij
        by_contra hsome
        obtain ⟨saved, hsaved⟩ := Option.ne_none_iff_exists'.mp hsome
        rw [(stageRun_move observes commands tables log schedule i).won_mono hsaved] at hwon
        cases hwon
      · rwa [locals_stageRun_of_ne observes commands tables log schedule hij] at hwon

/-- The entries of recorded refunds, numbered after a sequence. -/
def refundEntries (sequence : ℕ) (recorded : List Id) : List StateMutation :=
  recorded.mapIdx fun k i =>
    statusMutation (sequence + k + 1) (commands i).orderId .delivered .refunded

/-- **The log holds one entry for each request that returned**, if the requests are observed. -/
theorem log_stageRun :
    ∃ recorded : List Id, recorded.Nodup ∧
      (∀ i, i ∈ recorded ↔ observes = true ∧
        ((stageRun observes commands tables log schedule).locals i).Returned) ∧
      (stageRun observes commands tables log schedule).shared.log =
        ⟨log.mutations ++ refundEntries commands log.sequence recorded,
          log.sequence + recorded.length⟩ := by
  induction schedule using List.reverseRecOn with
  | nil =>
    refine ⟨[], List.nodup_nil, fun i => ⟨nofun, ?_⟩, ?_⟩
    · rintro ⟨-, saved, h⟩
      cases h
    · rw [refundEntries, List.mapIdx_nil, List.append_nil]
      rfl
  | append_singleton schedule i ih =>
    obtain ⟨recorded, hnodup, hmem, hlog⟩ := ih
    have hother : ∀ j, j ≠ i → (j ∈ recorded ↔ observes = true ∧
        ((stageRun observes commands tables log (schedule ++ [i])).locals j).Returned) := by
      intro j hj
      rw [locals_stageRun_of_ne observes commands tables log schedule hj]
      exact hmem j
    -- a step writes no entry, or the one entry of a request that returns with it
    rcases (stageRun_move observes commands tables log schedule i).log
      (known_stageRun observes commands tables log schedule i) with
      ⟨hsame, hiff⟩ | ⟨hobserves, hreturned, hnot, hrecord⟩
    · refine ⟨recorded, hnodup, fun j => ?_, hsame.trans hlog⟩
      by_cases hj : j = i
      · rw [hj, hiff]
        exact hmem i
      · exact hother j hj
    · have hnew : i ∉ recorded := fun h => hnot ((hmem i).mp h).2
      refine ⟨recorded ++ [i], ?_, fun j => ?_, ?_⟩
      · exact List.nodup_append.mpr ⟨hnodup, List.nodup_singleton i, fun a ha b hb heq => by
          rw [heq, List.mem_singleton.mp hb] at ha
          exact hnew ha⟩
      · rw [List.mem_append, List.mem_singleton]
        by_cases hj : j = i
        · rw [hj]
          exact iff_of_true (Or.inr rfl) ⟨hobserves, hreturned⟩
        · rw [or_iff_left hj]
          exact hother j hj
      · rw [hrecord, hlog, refundEntries, refundEntries, List.mapIdx_concat, List.append_assoc,
          List.length_append, List.length_singleton, Nat.add_assoc]

/-- The steps that a request still takes, at most. -/
def RefundStage.remaining : RefundStage → ℕ
  | .reading => 4
  | .observing => 3
  | .updating _ => 2
  | .recording .. => 1
  | .rereading => 1
  | .finished _ => 0

omit [DecidableEq Id] in
theorem remaining_stageStep (command : RefundCommand) (shared : Observed SupportTables)
    (stage : RefundStage) :
    (stageStep observes command shared stage).2.remaining ≤ stage.remaining - 1 := by
  cases stage with
  | reading =>
    unfold stageStep afterReading
    cases shared.inner.order? command.orderId with
    | none => exact Nat.zero_le _
    | some order =>
      dsimp only
      split
      · exact Nat.zero_le _
      · split
        · exact Nat.zero_le _
        · cases observes with
          | false => exact Nat.le_succ 2
          | true => exact le_rfl
  | observing => exact le_rfl
  | updating before =>
    unfold stageStep afterUpdating
    cases shared.inner.refunded? command.orderId command.actorId with
    | none => exact le_rfl
    | some saved =>
      cases before with
      | none => exact Nat.zero_le _
      | some before =>
        dsimp only
        split
        · exact le_rfl
        · exact Nat.zero_le _
  | recording before saved => exact le_rfl
  | rereading =>
    unfold stageStep afterRereading
    cases shared.inner.order? command.orderId with
    | none => exact le_rfl
    | some current =>
      dsimp only
      split
      · exact le_rfl
      · exact le_rfl
  | finished result => exact le_rfl

/-- **A request takes at most four steps.** -/
theorem remaining_stageRun (i : Id) :
    ((stageRun observes commands tables log schedule).locals i).remaining ≤
      4 - schedule.count i := by
  induction schedule using List.reverseRecOn with
  | nil => exact le_rfl
  | append_singleton schedule j ih =>
    rw [List.count_append]
    by_cases hij : i = j
    · subst hij
      rw [stageRun_concat, Pool.locals_step_self, List.count_singleton_self]
      have hstep := remaining_stageStep observes (commands i)
        (stageRun observes commands tables log schedule).shared
        ((stageRun observes commands tables log schedule).locals i)
      omega
    · rw [locals_stageRun_of_ne observes commands tables log schedule hij,
        List.count_singleton, if_neg (by simpa using Ne.symm hij), Nat.add_zero]
      exact ih

end Runs

/-! ## The requests themselves -/

section Requests

variable [RandomIds] [Collation] {Id : Type} [DecidableEq Id] (observes : Bool)
  (commands : Id → RefundCommand) (tables : SupportTables) (log : MutationLog)

theorem refundRun_eq (schedule : List Id) :
    refundRun observes commands tables log schedule =
      ⟨(stageRun observes commands tables log schedule).shared,
        fun i => ((stageRun observes commands tables log schedule).locals i).program observes
          (commands i)⟩ :=
  Stepwise.run_eq_map (fun i shared stage => program_advance observes (commands i) shared stage)
    ⟨⟨tables, log⟩, fun _ => .reading⟩ schedule

/-- A request is done when its last stage is reached. -/
theorem program_eq_done {command : RefundCommand} {stage : RefundStage}
    {result : Except PyError OrderRead} :
    stage.program observes command = .done result ↔ stage = .finished result := by
  constructor
  · intro h
    cases stage with
    | reading =>
      cases observes with
      | false => cases h
      | true => cases h
    | finished result' =>
      cases h
      rfl
    | updating before => cases h
    | _ => cases h
  · rintro rfl
    rfl

/-- What holds of concurrent refunds after a schedule, where `reached` is the pool that each
schedule reaches. -/
structure RefundsConsistent
    (reached : List Id →
      Pool Id (Observed SupportTables) (Stepwise PyError (Observed SupportTables) OrderRead))
    (schedule : List Id) : Prop where
  /-- At most one request for each order returns. -/
  unique : ∀ i j saved saved', (reached schedule).locals i = .done (.ok saved) →
    (reached schedule).locals j = .done (.ok saved') →
    (commands i).orderId = (commands j).orderId → i = j
  /-- A request returns what one of its steps wrote, to the order that was then delivered and the
  actor's. -/
  owned : ∀ i saved, (reached schedule).locals i = .done (.ok saved) →
    ∃ earlier later order, schedule = earlier ++ i :: later ∧
      (reached earlier).shared.inner.order? (commands i).orderId = some order ∧
      order.customerId = (commands i).actorId ∧ order.status = .delivered ∧
      saved = order.refund ∧
      (reached (earlier ++ [i])).shared.inner.order? (commands i).orderId = some saved
  /-- Between any two moments an order stays as it is, or goes from delivered to refunded. -/
  history : ∀ earlier later id, schedule = earlier ++ later →
    MaybeRefunded ((reached earlier).shared.inner.order? id)
      ((reached schedule).shared.inner.order? id)
  /-- A request that raised raised one of three errors, and its steps changed nothing. -/
  refused : ∀ i e, (reached schedule).locals i = .done (.error e) → e ∈ refundErrors ∧
    ∀ earlier later, schedule = earlier ++ i :: later →
      (reached (earlier ++ [i])).shared = (reached earlier).shared
  /-- A request ends within four of its steps. -/
  ended : ∀ i, 4 ≤ schedule.count i → ∃ result, (reached schedule).locals i = .done result
  /-- The log holds one entry for each observed request that returned, numbered in order. -/
  logged : ∃ recorded : List Id, recorded.Nodup ∧
    (∀ i, i ∈ recorded ↔
      observes = true ∧ ∃ saved, (reached schedule).locals i = .done (.ok saved)) ∧
    (reached schedule).shared.log = ⟨log.mutations ++ refundEntries commands log.sequence recorded,
      log.sequence + recorded.length⟩

/-- **Concurrent refunds are consistent**, observed or not, after every schedule of the steps of any
requests. -/
theorem concurrentRefunds (schedule : List Id) :
    RefundsConsistent observes commands log (refundRun observes commands tables log) schedule := by
  have hreached : ∀ schedule, (refundRun observes commands tables log schedule).shared =
      (stageRun observes commands tables log schedule).shared :=
    fun schedule => by rw [refundRun_eq]
  have hdone : ∀ {i result},
      (refundRun observes commands tables log schedule).locals i = .done result ↔
        (stageRun observes commands tables log schedule).locals i = .finished result := by
    intro i result
    rw [refundRun_eq]
    exact program_eq_done observes
  have hwon : ∀ {i saved},
      (refundRun observes commands tables log schedule).locals i = .done (.ok saved) →
      ((stageRun observes commands tables log schedule).locals i).won = some saved :=
    fun h => by rw [hdone.mp h, RefundStage.won]
  -- one winner for each order, what it won, what is refunded for good, refusals, end, log
  refine ⟨?_, ?_, ?_, ?_, ?_, ?_⟩
  · intro i j saved saved' hi hj horder
    exact won_unique observes commands tables log schedule (hwon hi) (hwon hj) horder
  · intro i saved h
    obtain ⟨earlier, later, hsplit, hmatch, hrows⟩ :=
      exists_refund_of_won observes commands tables log schedule (hwon h)
    obtain ⟨order, hrow, howner, hdelivered, hsaved⟩ := refunded?_eq_some.mp hmatch
    refine ⟨earlier, later, order, hsplit, ?_, howner, hdelivered, hsaved, ?_⟩
    · rw [hreached, hrow]
    · rw [hreached, hrows]
      exact order?_withRefund_of_refunded? hmatch
  · rintro earlier later id rfl
    rw [hreached, hreached]
    exact maybeRefunded_stageRun ..
  · intro i e h
    have hstage := hdone.mp h
    constructor
    · have hknown := known_stageRun observes commands tables log schedule i
      rw [hstage] at hknown
      exact hknown
    · intro earlier later hsplit
      rw [hreached, hreached]
      exact before_of_not_won observes commands tables log schedule (by rw [hstage]; rfl) hsplit
  · intro i hcount
    have hremaining := remaining_stageRun observes commands tables log schedule i
    rw [Nat.sub_eq_zero_of_le hcount, Nat.le_zero] at hremaining
    cases hstage : (stageRun observes commands tables log schedule).locals i with
    | finished result => exact ⟨result, hdone.mpr hstage⟩
    | _ => rw [hstage] at hremaining; cases hremaining
  · obtain ⟨recorded, hnodup, hmem, hlog⟩ := log_stageRun observes commands tables log schedule
    refine ⟨recorded, hnodup, fun i => ?_, (congrArg Observed.log (hreached schedule)).trans hlog⟩
    rw [hmem i]
    refine and_congr_right fun _ => exists_congr fun saved => hdone.symm

end Requests

end ObservabilityLab
