import ObservabilityLab.Agent.Service

/-!
# Refund safety

The model may call the tools of a service in any order and with any arguments. Whatever it does, an
order changes only when it is refunded, and that takes a delivered order of the bound customer, a
request that confirms the refund, and an earlier proposal for the same order. The calls of a service
share one transaction: a text that the database refuses takes all of them back.

## Main definitions

* `SupportAgentService.call`: one call of a tool
* `afterCalls`: the turn after a list of calls, some of which may raise
* `Proposed`: a proposal for an order succeeded
* `RefundGuarded`: what the guards promise of one call after others

## Main results

* `callStep`: what one call does to the rows and to the pending proposals
* `transaction_afterCalls`: what every list of calls leaves of the transaction
* `toolCalls_refundGuarded`: the promise holds of every call after every list of calls
-/

namespace ObservabilityLab

open Python Raising

section Calls

variable {World : Type} (service : SupportAgentService World)

/-- A call of a tool, without its result. -/
def SupportAgentService.call : ToolCall → Action (Turn World) Unit
  | .getOrderStatus orderId => do let _ ← service.getOrderStatus orderId
  | .getPolicy slug => do let _ ← service.getPolicy slug
  | .proposeRefund orderId => do let _ ← service.proposeRefund orderId
  | .confirmRefund orderId => do let _ ← service.confirmRefund orderId
  | .escalate subject => do let _ ← service.escalate subject

/-- The turn after a list of calls; a call that raises does not stop the next one. -/
def afterCalls (calls : List ToolCall) (turn : Turn World) : Turn World :=
  calls.foldl (fun turn call => finalState ((service.call call).run turn)) turn

/-- Among some calls, a proposal for an order succeeded. -/
def Proposed (start : Turn World) (calls : List ToolCall) (orderId : Uuid) : Prop :=
  ∃ before after, calls = before ++ .proposeRefund orderId :: after ∧
    outcome ((service.call (.proposeRefund orderId)).run (afterCalls service before start)) = .ok ()

theorem afterCalls_append (calls more : List ToolCall) (turn : Turn World) :
    afterCalls service (calls ++ more) turn =
      afterCalls service more (afterCalls service calls turn) :=
  List.foldl_append

theorem afterCalls_concat (calls : List ToolCall) (call : ToolCall) (turn : Turn World) :
    afterCalls service (calls ++ [call]) turn =
      finalState ((service.call call).run (afterCalls service calls turn)) :=
  afterCalls_append service calls [call] turn

variable {service} in
theorem Proposed.append {start : Turn World} {calls : List ToolCall} {orderId : Uuid}
    (h : Proposed service start calls orderId) (more : List ToolCall) :
    Proposed service start (calls ++ more) orderId := by
  obtain ⟨before, after, rfl, hok⟩ := h
  exact ⟨before, after ++ more, by rw [List.append_assoc, List.cons_append], hok⟩

/-- **What the guards promise** of a call after some earlier calls: an order changes only by the
confirmation of its proposed refund, and never again; and a call that raises changes no order and
no ticket. A call whose text the database refuses raises and takes everything back, to the database
on which the transaction began and for good. -/
structure RefundGuarded (tables : World → SupportTables) (database : SupportTables)
    (start : Turn World) (earlier : List ToolCall) (call : ToolCall) : Prop where
  changed : ∀ orderId,
    (tables (afterCalls service (earlier ++ [call]) start).world).order? orderId ≠
        (tables (afterCalls service earlier start).world).order? orderId →
      ¬ call.Refused →
      call = .confirmRefund orderId ∧ service.refundConfirmed = true ∧
        Proposed service start earlier orderId ∧
        ∃ order, (tables (afterCalls service earlier start).world).order? orderId = some order ∧
          order.customerId = service.customerId ∧ order.status = .delivered ∧
          (tables (afterCalls service (earlier ++ [call]) start).world).order? orderId =
            some { order with status := .refunded }
  once : ∀ orderId,
    (tables (afterCalls service (earlier ++ [call]) start).world).order? orderId ≠
        (tables (afterCalls service earlier start).world).order? orderId →
      ∀ later, (∀ call ∈ later, ¬ call.Refused) →
        (tables (afterCalls service (earlier ++ [call] ++ later) start).world).order? orderId =
          (tables (afterCalls service (earlier ++ [call]) start).world).order? orderId
  raised : ∀ e, outcome ((service.call call).run (afterCalls service earlier start)) = .error e →
    ¬ call.Refused →
    (tables (afterCalls service (earlier ++ [call]) start).world).orders =
        (tables (afterCalls service earlier start).world).orders ∧
      (tables (afterCalls service (earlier ++ [call]) start).world).tickets =
        (tables (afterCalls service earlier start).world).tickets
  rolledBack : call.Refused →
    (∃ e, outcome ((service.call call).run (afterCalls service earlier start)) = .error e) ∧
      ∀ later, tables (afterCalls service (earlier ++ [call] ++ later) start).world = database

end Calls

/-! ## One call -/

section Step

variable {World : Type} {service : SupportAgentService World} {tables : World → SupportTables}
  {ready lost : World → Prop} {database : SupportTables}

/-- What one call does, from the rows and the proposals before it. -/
structure CallStep (service : SupportAgentService World) (tables : World → SupportTables)
    (ready : World → Prop) (call : ToolCall) (turn : Turn World) : Prop where
  ready : ready (finalState ((service.call call).run turn)).world
  raised : ∀ e, outcome ((service.call call).run turn) = .error e →
    tables (finalState ((service.call call).run turn)).world = tables turn.world
  orders : (tables (finalState ((service.call call).run turn)).world).orders =
      (tables turn.world).orders ∨
    ∃ orderId order, call = .confirmRefund orderId ∧
      (turn.service.pendingProposals orderId).isSome = true ∧ service.refundConfirmed = true ∧
      (tables turn.world).order? orderId = some order ∧ order.customerId = service.customerId ∧
      order.status = .delivered ∧
      tables (finalState ((service.call call).run turn)).world =
        (tables turn.world).withRefund orderId service.customerId
  proposals : ∀ orderId,
    ((finalState ((service.call call).run turn)).service.pendingProposals orderId).isSome = true →
      (turn.service.pendingProposals orderId).isSome = true ∨
        call = .proposeRefund orderId ∧ outcome ((service.call call).run turn) = .ok ()

/-- A call whose result is dropped. -/
theorem triple_drop {α : Type} {P : Turn World → Prop} {Q : α → Turn World → Prop}
    {E : PyError → Turn World → Prop} {x : Action (Turn World) α} (h : Triple P x Q E) :
    Triple P (do let _ ← x) (fun _ turn => ∃ a, Q a turn) E :=
  triple_bind h fun a => triple_pure fun _ hQ => ⟨a, hQ⟩

/-- A step, from what the call does when it returns and when it raises. -/
theorem callStep_of_triple {call : ToolCall} {turn : Turn World} (hready : ready turn.world)
    (h : Triple (At tables ready (tables turn.world) turn.service) (service.call call)
      (fun _ turn' => ready turn'.world ∧
        ((tables turn'.world).orders = (tables turn.world).orders ∨
          ∃ orderId order, call = .confirmRefund orderId ∧
            (turn.service.pendingProposals orderId).isSome = true ∧
            service.refundConfirmed = true ∧ (tables turn.world).order? orderId = some order ∧
            order.customerId = service.customerId ∧ order.status = .delivered ∧
            tables turn'.world = (tables turn.world).withRefund orderId service.customerId) ∧
        ∀ orderId, (turn'.service.pendingProposals orderId).isSome = true →
          (turn.service.pendingProposals orderId).isSome = true ∨ call = .proposeRefund orderId)
      fun _ turn' => Holds tables ready (tables turn.world) turn'.world ∧
        turn'.service.pendingProposals = turn.service.pendingProposals) :
    CallStep service tables ready call turn := by
  cases hrun : (service.call call).run turn with
  | ok a turn' =>
    obtain ⟨hready', horders, hproposals⟩ := h.ok ⟨⟨rfl, hready⟩, rfl⟩ hrun
    refine ⟨?_, ?_, ?_, ?_⟩
    · rw [hrun]
      exact hready'
    · rw [hrun]
      intro e he
      cases he
    · rw [hrun]
      exact horders
    · rw [hrun]
      exact fun orderId hpending => (hproposals orderId hpending).imp id fun hcall => ⟨hcall, rfl⟩
  | error e turn' =>
    obtain ⟨⟨htables, hready'⟩, hpending⟩ := h.error ⟨⟨rfl, hready⟩, rfl⟩ hrun
    refine ⟨?_, ?_, ?_, ?_⟩
    · rw [hrun]
      exact hready'
    · rw [hrun]
      exact fun _ _ => htables
    · rw [hrun]
      exact Or.inl (congrArg SupportTables.orders htables)
    · rw [hrun]
      exact fun orderId h => Or.inl (hpending ▸ h)

/-- **What one call does**, unless the database refuses its text: each tool by its own
specification. -/
theorem callStep (hstores : Stores service.repository service.customerId tables ready lost)
    {call : ToolCall} (hcall : ¬ call.Refused) {turn : Turn World} (hready : ready turn.world) :
    CallStep service tables ready call turn := by
  refine callStep_of_triple hready ?_
  have hraised : ∀ e after,
      AtOrLost tables ready lost (tables turn.world) turn.service call e after →
      Holds tables ready (tables turn.world) after.world ∧
        after.service.pendingProposals = turn.service.pendingProposals := by
    rintro e after (⟨hrows, hstate⟩ | ⟨hrefused, -⟩)
    · exact ⟨hrows, by rw [hstate]⟩
    · exact absurd hrefused hcall
  -- only a confirmation writes an order, and only a proposal adds to the pending ones
  cases call with
  | getOrderStatus orderId =>
    refine triple_mono (triple_drop (getOrderStatus_triple hstores orderId _ _))
      (fun _ h => h) ?_ ?_
    · rintro _ turn' ⟨order, -, -, ⟨hrows, hready'⟩, hstate⟩
      exact ⟨hready', Or.inl (by rw [hrows]), fun id h => Or.inl (by rwa [hstate] at h)⟩
    · rintro _ turn' ⟨hrows, hstate⟩
      exact ⟨hrows, by rw [hstate]⟩
  | getPolicy slug =>
    refine triple_mono (triple_drop (getPolicy_triple hstores slug _ _)) (fun _ h => h) ?_ hraised
    rintro _ turn' ⟨policy, ⟨hrows, hready'⟩, hstate⟩
    exact ⟨hready', Or.inl (by rw [hrows]), fun id h => Or.inl (by rwa [hstate] at h)⟩
  | proposeRefund orderId =>
    refine triple_mono (triple_drop (proposeRefund_triple hstores orderId _ _)) (fun _ h => h) ?_ ?_
    · rintro _ turn' ⟨proposal, order, horder, -, -, ⟨hrows, hready'⟩, hstate⟩
      refine ⟨hready', Or.inl (by rw [hrows]), fun id h => ?_⟩
      rw [hstate, ServiceState.pendingProposals_proposed, SupportTables.id_of_order? horder] at h
      by_cases hid : id = orderId
      · exact Or.inr (by rw [hid])
      · exact Or.inl (by rwa [if_neg hid] at h)
    · rintro _ turn' ⟨lastOrder, reason, -, hrows, hstate⟩
      exact ⟨hrows, by rw [hstate]⟩
  | confirmRefund orderId =>
    refine triple_mono (triple_drop (confirmRefund_triple hstores orderId _ _)) (fun _ h => h) ?_ ?_
    · rintro _ turn' ⟨refunded, hpending, hconfirmed, ⟨order, horder, howner, hdelivered, -⟩,
        ⟨hrows, hready'⟩, hstate⟩
      refine ⟨hready', Or.inr ⟨orderId, order, rfl, hpending, hconfirmed, horder, howner,
        hdelivered, hrows⟩, fun id h => ?_⟩
      rw [hstate, ServiceState.pendingProposals_confirmed] at h
      by_cases hid : id = orderId
      · rw [if_pos hid] at h
        cases h
      · exact Or.inl (by rwa [if_neg hid] at h)
    · rintro _ turn' ⟨reason, -, hrows, hstate⟩
      exact ⟨hrows, by rw [hstate]⟩
  | escalate subject =>
    refine triple_mono (triple_drop (escalate_triple hstores subject _ _)) (fun _ h => h) ?_ hraised
    rintro _ turn' ⟨ticket, -, ⟨hrows, hready'⟩, hstate⟩
    exact ⟨hready', Or.inl (by rw [hrows]; rfl), fun id h => Or.inl (by rwa [hstate] at h)⟩

/-! ## One call of a lost transaction -/

/-- A call of the repository that raises, raises in a turn. -/
theorem onWorld_raises {α : Type} {x : Action World α} {P : World → Prop}
    (h : Triple P x (fun _ _ => False) fun _ => lost) :
    Triple (P ·.world) (onWorld x) (fun _ _ => False) fun _ (turn : Turn World) =>
      lost turn.world :=
  triple_zoom fun turn hP => triple_mono h (by rintro _ rfl; exact hP) (fun _ _ hQ => hQ)
    fun _ _ hE => hE

theorem databaseCall_raises {α : Type} {x : Action World α} {P : World → Prop}
    (h : Triple P x (fun _ _ => False) fun _ => lost) :
    Triple (P ·.world) (SupportAgentService.databaseCall x) (fun _ _ => False)
      fun _ (turn : Turn World) => lost turn.world :=
  span_triple (fun _ _ _ h => h) (fun _ _ _ _ h => h) (fun _ _ _ _ h => h) (onWorld_raises h)

theorem getOrderStatus_lost (hloses : Loses service.repository service.customerId ready lost)
    (orderId : Uuid) :
    Triple (lost ·.world) (service.getOrderStatus orderId) (fun _ _ => False)
      fun _ turn => lost turn.world :=
  triple_bind (databaseCall_raises (triple_bind (hloses.getOrder orderId) fun _ => triple_false))
    fun _ => triple_false

/-- A policy whose query raises is not read. -/
theorem getPolicy_raises {slug : String} {P : World → Prop}
    (h : Triple P (service.repository.getPolicy slug none) (fun _ _ => False) fun _ => lost) :
    Triple (P ·.world) (service.getPolicy slug) (fun _ _ => False) fun _ turn => lost turn.world :=
  span_triple (fun _ _ _ h => h) (fun _ _ _ _ h => h) (fun _ _ _ _ h => h)
    (triple_bind (databaseCall_raises (triple_bind h fun _ => triple_false)) fun _ => triple_false)

/-- An escalation whose ticket raises is not recorded. -/
theorem escalate_raises_of_ticket {subject : String} (hsubject : lengthWithin 1 300 subject = true)
    {P : World → Prop}
    (h : ∀ ticket : TicketCreate, ticket.subject = subject →
      Triple P (service.repository.createTicket ticket) (fun _ _ => False) fun _ => lost) :
    Triple (P ·.world) (service.escalate subject) (fun _ _ => False)
      fun _ turn => lost turn.world := by
  refine span_triple (fun _ _ _ h => h) (fun _ _ _ _ h => h) (fun _ _ _ _ h => h) ?_
  simp only [CreateTicketCommand.new, dif_pos hsubject]
  refine triple_bind (triple_pure (Q := fun command turn =>
    command = { actorId := service.customerId, subject := subject, validSubject := hsubject } ∧
      P turn.world) fun _ h => ⟨rfl, h⟩) fun command => triple_of_eq ?_
  rintro turn ⟨hcommand, hP⟩
  rw [hcommand]
  exact triple_bind (triple_mono (onWorld_raises (h _ rfl)) (by rintro _ rfl; exact hP)
    (fun _ _ h => h) fun _ _ h => h) fun _ => triple_false

theorem proposeRefund_lost (hloses : Loses service.repository service.customerId ready lost)
    (orderId : Uuid) :
    Triple (lost ·.world) (service.proposeRefund orderId) (fun _ _ => False)
      fun _ turn => lost turn.world := by
  refine triple_attempt_bind (triple_bind (getOrderStatus_lost hloses orderId) fun _ =>
    triple_false) (fun _ => triple_false) fun e => ?_
  exact triple_bind (Q := fun _ (turn : Turn World) => lost turn.world)
    (triple_modify fun _ h => h) fun _ => triple_throw fun _ h => h

theorem confirmRefund_lost (hloses : Loses service.repository service.customerId ready lost)
    (orderId : Uuid) :
    Triple (lost ·.world) (service.confirmRefund orderId) (fun _ _ => False)
      fun _ turn => lost turn.world := by
  have hstable : Stable fun turn : Turn World => lost turn.world := fun _ _ _ h => h
  refine triple_bind (Q := fun _ (turn : Turn World) => lost turn.world)
    (triple_get fun _ h => h) fun read => ?_
  split
  · refine triple_bind (span_pure_triple hstable) fun _ => ?_
    exact triple_bind (Q := fun _ (turn : Turn World) => lost turn.world)
      (triple_modify fun _ h => h) fun _ => triple_throw fun _ h => h
  · refine triple_bind (Q := fun _ _ => False) (span_triple hstable (fun _ _ _ _ h => h)
      (fun _ => hstable) (databaseCall_raises ?_)) fun _ => triple_false
    exact triple_bind (triple_bind (hloses.getOrder orderId) fun _ => triple_false)
      fun _ => triple_false

/-- **Every call of a lost transaction raises**, and the transaction stays lost. -/
theorem call_lost (hloses : Loses service.repository service.customerId ready lost)
    (call : ToolCall) :
    Triple (lost ·.world) (service.call call) (fun _ _ => False) fun _ turn => lost turn.world := by
  cases call with
  | getOrderStatus orderId =>
    exact triple_bind (getOrderStatus_lost hloses orderId) fun _ => triple_false
  | getPolicy slug =>
    exact triple_bind (getPolicy_raises (hloses.getPolicy slug none)) fun _ => triple_false
  | proposeRefund orderId =>
    exact triple_bind (proposeRefund_lost hloses orderId) fun _ => triple_false
  | confirmRefund orderId =>
    exact triple_bind (confirmRefund_lost hloses orderId) fun _ => triple_false
  | escalate subject =>
    refine triple_bind (Q := fun _ _ => False) ?_ fun _ => triple_false
    -- a subject of a wrong length raises before the database is asked
    by_cases hsubject : lengthWithin 1 300 subject = true
    · exact escalate_raises_of_ticket hsubject fun ticket _ => hloses.createTicket ticket
    · refine span_triple (fun _ _ _ h => h) (fun _ _ _ _ h => h) (fun _ _ _ _ h => h) ?_
      simp only [CreateTicketCommand.new, dif_neg hsubject]
      exact triple_bind (triple_throw (Q := fun _ _ => False) fun _ h => h) fun _ => triple_false

/-- **A call whose text the database refuses loses the transaction.** -/
theorem call_refused (hloses : Loses service.repository service.customerId ready lost)
    {call : ToolCall} (hcall : call.Refused) :
    Triple (ready ·.world) (service.call call) (fun _ _ => False)
      fun _ turn => lost turn.world := by
  cases call with
  | getPolicy slug =>
    refine triple_bind (getPolicy_raises (hloses.refusesQuery slug none ?_)) fun _ => triple_false
    rw [isStorableQuery_latest]
    exact hcall
  | escalate subject =>
    refine triple_bind (escalate_raises_of_ticket hcall.1 fun ticket hticket =>
      hloses.refusesTicket ticket ?_) fun _ => triple_false
    rw [hticket]
    exact hcall.2
  | getOrderStatus | proposeRefund | confirmRefund => exact hcall.elim

/-! ## Every list of calls -/

/-- The transaction of a service after some calls. Without a refused call it takes statements, and
every pending proposal comes from one that succeeded; a refused call loses it. -/
def Transaction (service : SupportAgentService World) (ready lost : World → Prop)
    (start : Turn World) (calls : List ToolCall) : Prop :=
  (∀ call ∈ calls, ¬ call.Refused) ∧ ready (afterCalls service calls start).world ∧
      (∀ orderId,
        ((afterCalls service calls start).service.pendingProposals orderId).isSome = true →
          Proposed service start calls orderId) ∨
    (∃ call ∈ calls, call.Refused) ∧ lost (afterCalls service calls start).world

/-- **What every list of calls leaves of the transaction**, by induction on the calls. -/
theorem transaction_afterCalls
    (hstores : Stores service.repository service.customerId tables ready lost)
    (hloses : Loses service.repository service.customerId ready lost) {session : World}
    (hready : ready session) (calls : List ToolCall) :
    Transaction service ready lost { world := session } calls := by
  -- a lost transaction stays lost; an open one is lost by the first refused call
  induction calls using List.reverseRecOn with
  | nil => exact Or.inl ⟨fun _ h => absurd h List.not_mem_nil, hready, fun _ h => by cases h⟩
  | append_singleton calls call ih =>
    unfold Transaction
    rw [afterCalls_concat]
    rcases ih with ⟨hcalls, hopen, hproposed⟩ | ⟨⟨other, hmem, hother⟩, hlost⟩
    · by_cases hcall : call.Refused
      · have hafter : Leads (ready ·.world) (service.call call) (lost ·.world) :=
          (triple_mono (call_refused hloses hcall) (fun _ h => h) (fun _ _ h => h.elim)
            fun _ _ h => h)
        exact Or.inr ⟨⟨call, List.mem_append_right _ List.mem_cons_self, hcall⟩,
          hafter.finalState hopen⟩
      · have hstep := callStep hstores hcall hopen
        refine Or.inl ⟨fun c hmem => ?_, hstep.ready, fun orderId hpending => ?_⟩
        · rcases List.mem_append.mp hmem with hmem | hmem
          · exact hcalls c hmem
          · rw [List.mem_singleton.mp hmem]
            exact hcall
        · rcases hstep.proposals orderId hpending with hbefore | ⟨rfl, hok⟩
          · exact (hproposed orderId hbefore).append [call]
          · exact ⟨calls, [], rfl, hok⟩
    · have hafter : Keeps (lost ·.world) (service.call call) :=
        triple_mono (call_lost hloses call) (fun _ h => h) (fun _ _ h => h.elim) fun _ _ h => h
      exact Or.inr ⟨⟨other, List.mem_append_left _ hmem, hother⟩, hafter.finalState hlost⟩

/-- A call changes only delivered orders. -/
theorem order?_call_of_ne_delivered
    (hstores : Stores service.repository service.customerId tables ready lost) {call : ToolCall}
    (hcall : ¬ call.Refused) {turn : Turn World} (hready : ready turn.world) {orderId : Uuid}
    (h : ∀ order, (tables turn.world).order? orderId = some order → order.status ≠ .delivered) :
    (tables (finalState ((service.call call).run turn)).world).order? orderId =
      (tables turn.world).order? orderId := by
  rcases (callStep hstores hcall hready).orders with hsame | ⟨id, order, -, -, -, -, -, -, hrows⟩
  · unfold SupportTables.order?
    rw [hsame]
  · rw [hrows, SupportTables.order?_withRefund]
    cases hfound : (tables turn.world).order? orderId with
    | none => rfl
    | some found =>
      have hnot : ¬ refundable id service.customerId found = true := fun hmatch =>
        h found hfound (refundable_iff.mp hmatch).2.2
      rw [Option.map_some, if_neg hnot]

/-- An order that is not delivered stays as it is. -/
theorem order?_afterCalls_of_ne_delivered
    (hstores : Stores service.repository service.customerId tables ready lost)
    {calls : List ToolCall} (hcalls : ∀ call ∈ calls, ¬ call.Refused) {turn : Turn World}
    (hready : ready turn.world) {orderId : Uuid}
    (h : ∀ order, (tables turn.world).order? orderId = some order → order.status ≠ .delivered) :
    (tables (afterCalls service calls turn).world).order? orderId =
      (tables turn.world).order? orderId := by
  induction calls generalizing turn with
  | nil => rfl
  | cons call calls ih =>
    have hcall : ¬ call.Refused := hcalls call List.mem_cons_self
    have hsame := order?_call_of_ne_delivered hstores hcall hready h
    change (tables (afterCalls service calls
      (finalState ((service.call call).run turn))).world).order?
      orderId = _
    rw [ih (fun other hmem => hcalls other (List.mem_cons_of_mem _ hmem))
      (callStep hstores hcall hready).ready (by rwa [hsame]), hsame]

/-- A call that changes an order confirms its refund. -/
theorem CallStep.changed {call : ToolCall} {turn : Turn World} {orderId : Uuid}
    (h : CallStep service tables ready call turn)
    (hne : (tables (finalState ((service.call call).run turn)).world).order? orderId ≠
      (tables turn.world).order? orderId) :
    call = .confirmRefund orderId ∧ (turn.service.pendingProposals orderId).isSome = true ∧
      service.refundConfirmed = true ∧
      ∃ order, (tables turn.world).order? orderId = some order ∧
        order.customerId = service.customerId ∧ order.status = .delivered ∧
        (tables (finalState ((service.call call).run turn)).world).order? orderId =
          some { order with status := .refunded } := by
  rcases h.orders with hsame | ⟨id, order, hcall, hpending, hconfirmed, horder, howner, hdelivered,
    hrows⟩
  · refine absurd ?_ hne
    unfold SupportTables.order?
    rw [hsame]
  · have hmatch : refundable id service.customerId order = true :=
      refundable_iff.mpr ⟨SupportTables.id_of_order? horder, howner, hdelivered⟩
    -- the statement writes one row, so the order that changed is the one confirmed
    have hid : orderId = id := by
      by_contra hother
      refine hne ?_
      rw [hrows, SupportTables.order?_withRefund]
      cases hfound : (tables turn.world).order? orderId with
      | none => rfl
      | some found =>
        have hnot : ¬ refundable id service.customerId found = true := fun hmatch =>
          hother ((SupportTables.id_of_order? hfound).symm.trans (refundable_iff.mp hmatch).1)
        rw [Option.map_some, if_neg hnot]
    subst hid
    refine ⟨hcall, hpending, hconfirmed, order, horder, howner, hdelivered, ?_⟩
    rw [hrows, SupportTables.order?_withRefund, horder, Option.map_some, if_pos hmatch]
    rfl

/-- Every call after every list of calls on a new service is guarded. -/
theorem refundGuarded_of_stores
    (hstores : Stores service.repository service.customerId tables ready lost)
    (hloses : Loses service.repository service.customerId ready lost)
    (hrows : ∀ world, lost world → tables world = database) {session : World}
    (hready : ready session) (earlier : List ToolCall) (call : ToolCall) :
    RefundGuarded service tables database { world := session } earlier call := by
  have hafter := transaction_afterCalls hstores hloses hready
  have hlast : call ∈ earlier ++ [call] := List.mem_append_right _ List.mem_cons_self
  have hrefused : ∀ calls, (∃ c ∈ calls, c.Refused) →
      tables (afterCalls service calls { world := session }).world = database := by
    rintro calls ⟨c, hmem, hc⟩
    rcases hafter calls with ⟨hcalls, -⟩ | ⟨-, hlost⟩
    · exact absurd hc (hcalls c hmem)
    · exact hrows _ hlost
  -- after a refused call the rows are those of the beginning, before the call and after it
  have hkept : (∃ c ∈ earlier, c.Refused) → ∀ more,
      tables (afterCalls service (earlier ++ more) { world := session }).world =
        tables (afterCalls service earlier { world := session }).world := by
    rintro ⟨c, hmem, hc⟩ more
    rw [hrefused _ ⟨c, List.mem_append_left _ hmem, hc⟩, hrefused _ ⟨c, hmem, hc⟩]
  refine ⟨fun orderId hne hcall => ?_, fun orderId hne later hlater => ?_, fun e he hcall => ?_,
    fun hcall => ⟨?_, fun later => ?_⟩⟩
  · rcases hafter earlier with ⟨-, hopen, hproposed⟩ | ⟨hlost, -⟩
    · rw [afterCalls_concat] at hne ⊢
      obtain ⟨hconfirm, hpending, hconfirmed, hrefund⟩ := (callStep hstores hcall hopen).changed hne
      exact ⟨hconfirm, hconfirmed, hproposed orderId hpending, hrefund⟩
    · exact absurd (by rw [hkept hlost]) hne
  · by_cases hcall : call.Refused
    · rw [hrefused _ ⟨call, List.mem_append_left _ hlast, hcall⟩, hrefused _ ⟨call, hlast, hcall⟩]
    · rcases hafter earlier with ⟨-, hopen, -⟩ | ⟨hlost, -⟩
      · have hstep := callStep hstores hcall hopen
        rw [afterCalls_append]
        rw [afterCalls_concat] at hne ⊢
        -- the changed order is refunded now, and a call changes only delivered orders
        refine order?_afterCalls_of_ne_delivered hstores hlater hstep.ready fun order horder => ?_
        obtain ⟨-, -, -, before, -, -, -, hchanged⟩ := hstep.changed hne
        rw [hchanged, Option.some.injEq] at horder
        rw [← horder]
        exact OrderStatus.noConfusion
      · exact absurd (by rw [hkept hlost]) hne
  · rcases hafter earlier with ⟨-, hopen, -⟩ | ⟨hlost, -⟩
    · rw [afterCalls_concat, (callStep hstores hcall hopen).raised e he]
      exact ⟨rfl, rfl⟩
    · rw [hkept hlost]
      exact ⟨rfl, rfl⟩
  · have hraises : Triple (fun turn => ready turn.world ∨ lost turn.world) (service.call call)
        (fun _ _ => False) fun _ _ => True := by
      rintro turn (hopen | hlost)
      · exact triple_mono (call_refused hloses hcall) (fun _ h => h) (fun _ _ h => h)
          (fun _ _ _ => trivial) turn hopen
      · exact triple_mono (call_lost hloses call) (fun _ h => h) (fun _ _ h => h)
          (fun _ _ _ => trivial) turn hlost
    cases hrun : (service.call call).run (afterCalls service earlier { world := session }) with
    | ok a after => exact (hraises.ok ((hafter earlier).imp (·.2.1) And.right) hrun).elim
    | error e after => exact ⟨e, rfl⟩
  · exact hrefused _ ⟨call, List.mem_append_left _ hlast, hcall⟩

end Step

/-- **Refund safety of the agent's guards.** On the SQL repository, from every database state, for
every customer and every value of the trusted flag: every call of a tool after every list of calls
is guarded. -/
theorem toolCalls_refundGuarded [RandomIds] [Collation] (database : SupportTables)
    (customerId : Uuid) (refundConfirmed : Bool) (proposalIds : ℕ → Uuid)
    (earlier : List ToolCall) (call : ToolCall) :
    RefundGuarded ⟨sqlAlchemySupportRepository, customerId, refundConfirmed, proposalIds⟩
      SupportSession.tables database { world := .begin database } earlier call := by
  refine refundGuarded_of_stores (sqlAlchemySupportRepository_stores customerId database)
    (sqlAlchemySupportRepository_loses customerId database) ?_
    (SupportSession.settled_begin customerId database) earlier call
  rintro _ rfl
  rfl

/-! ### A refund that is taken back -/

section TakenBack

attribute [local instance] constantIds codePointOrder

/-- A service of a customer who confirms refunds. -/
def confirmingService : SupportAgentService SupportSession where
  repository := sqlAlchemySupportRepository
  customerId := .repeated 7
  refundConfirmed := true
  proposalIds := fun _ => .repeated 3

/-- A transaction on one delivered order of the customer. -/
def deliveredOrder : Turn SupportSession where
  world := .begin (.single (freeOrder (.repeated 0) (.repeated 7) .delivered))

/-- The status of that order after some calls. -/
def statusAfter (calls : List ToolCall) : Option OrderStatus :=
  ((afterCalls confirmingService calls deliveredOrder).world.tables.order? (.repeated 0)).map
    (·.status)

/-- An escalation whose subject is U+0000 raises, and takes the refund before it back: the order
goes from refunded to delivered. -/
theorem refund_taken_back :
    statusAfter [.proposeRefund (.repeated 0), .confirmRefund (.repeated 0)] = some .refunded ∧
      outcome ((confirmingService.call (.escalate (.singleton (.ofNat 0)))).run
        (afterCalls confirmingService [.proposeRefund (.repeated 0), .confirmRefund (.repeated 0)]
          deliveredOrder)) = .error invalidText ∧
      statusAfter [.proposeRefund (.repeated 0), .confirmRefund (.repeated 0),
        .escalate (.singleton (.ofNat 0))] = some .delivered := by
  decide +kernel

end TakenBack

end ObservabilityLab
