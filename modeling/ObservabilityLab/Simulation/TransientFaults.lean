import ObservabilityLab.Comparison.EvaluatorBounds
import ObservabilityLab.Simulation.Provisioner
import ObservabilityLab.Simulation.RefusedText
import ObservabilityLab.Simulation.RunProtocol

/-!
# Transient faults in a turn

The tools of the answer model ask it to retry after a transient fault, and the agent handles every
exception of its model. Two calls are made outside the model: the escalation of the planner, and the
confirmation after the answer. A fault that hits one of them is raised out of the turn, and fails
its run. After its turn, a run reads its sandbox, whose transaction a refused text has lost, and the
evaluators read the facts of the run.

## Main definitions

* `FaultScript.Confirmable`: a script that lets a refund pass
* `Interrupted`: a fault hits a call outside the model
* `SubmitsRefused`: the model of a turn sends a text that the database refuses
* `turnMetrics`: the facts of a run, from its turn

## Main results

* `requestRefund_returns`, `escalate_returns`: when a call behind a fault script returns
* `handle_returns_iff`, `handle_leaves`: when a turn returns, and what it leaves behind
* `comparable_iff`: when a run returns with the response of its turn
-/

namespace ObservabilityLab

open Python Raising

/-! ## Calls behind a fault script -/

section Script

variable [UnicodeTables] [FloatRepr]

namespace FaultScript

variable (script : FaultScript) (consumed : List ℕ)

/-- The script lets a refund pass: the read of its order, and the conditional update. -/
def Confirmable (orderId : Uuid) : Prop :=
  script.nextError consumed "get_order_status" [("order_id", .str orderId.str)] = none ∧
    script.nextError
      (script.consume consumed "get_order_status" [("order_id", .str orderId.str)])
      "confirm_refund" [("order_id", .str orderId.str)] = none

end FaultScript

variable {World : Type} {script : FaultScript} {consumed : List ℕ}

/-- **A call that always returns, behind a fault script**: it returns exactly when the script lets
it pass. -/
theorem faulted_returns {α : Type} {P : World → Prop} {Q : α → World → Prop} {tool : String}
    {arguments : List (String × PyValue)} {x : Action World α} (h : Triple P x Q fun _ _ => False) :
    Triple (fun world : Faulted World => P world.inner ∧ world.consumed = consumed)
      (do maybeFault script tool arguments; Faulted.onInner x)
      (fun a world => script.nextError consumed tool arguments = none ∧ Q a world.inner ∧
        world.consumed = script.consume consumed tool arguments)
      fun _ _ => script.nextError consumed tool arguments ≠ none := by
  refine triple_bind (triple_mono (maybeFault_triple script tool arguments consumed)
    (fun _ h => h) (fun _ _ h => h) fun e _ h => ?_) fun _ => ?_
  · -- the script raises its next error
    rw [h.1]
    exact Option.some_ne_none e
  · refine triple_of_eq ?_
    rintro world ⟨hnone, hP, hconsumed⟩
    exact triple_mono (faulted_onInner_triple h _) (by rintro _ rfl; exact ⟨hP, hconsumed⟩)
      (fun _ _ hQ => ⟨hnone, hQ⟩) fun _ _ hE => hE.1.elim

variable {repository : SupportRepository (Action World)} {customerId : Uuid}
  {tables : World → SupportTables} {ready lost : World → Prop} {rows : SupportTables}

/-- When the read of an order of the customer returns. -/
theorem getOrder_returns (hserves : Serves repository customerId tables ready lost)
    {orderId : Uuid} {order : OrderRead} (horder : rows.order? orderId = some order)
    (howner : order.customerId = customerId) :
    Triple (fun world : Faulted World => Holds tables ready rows world.inner ∧
        world.consumed = consumed)
      (getOrder (faultInjectingRepository script repository) orderId customerId)
      (fun read world => read = order ∧
        script.nextError consumed "get_order_status" [("order_id", .str orderId.str)] = none ∧
        Holds tables ready rows world.inner ∧ world.consumed =
          script.consume consumed "get_order_status" [("order_id", .str orderId.str)])
      fun _ _ =>
        script.nextError consumed "get_order_status" [("order_id", .str orderId.str)] ≠ none := by
  refine triple_bind (faulted_returns (hserves.getOrder orderId rows)) fun found => ?_
  -- the order is stored and the customer's, so neither refusal of the service applies
  cases found with
  | none =>
    rintro world ⟨-, ⟨hfound, -⟩, -⟩
    rw [horder] at hfound
    cases hfound
  | some read =>
    dsimp only
    split
    · rename_i hforbidden
      rintro world ⟨-, ⟨hfound, -⟩, -⟩
      rw [horder, Option.some.injEq] at hfound
      rw [hfound] at hforbidden
      exact absurd howner hforbidden
    · refine triple_pure ?_
      rintro world ⟨hnone, ⟨hfound, hrows⟩, hconsumed⟩
      rw [horder, Option.some.injEq] at hfound
      exact ⟨hfound, hnone, hrows, hconsumed⟩

/-- **When the refund of a delivered order of the customer returns.** -/
theorem requestRefund_returns (hserves : Serves repository customerId tables ready lost)
    {orderId : Uuid} {order : OrderRead} (horder : rows.order? orderId = some order)
    (howner : order.customerId = customerId) (hdelivered : order.status = .delivered) :
    Triple (fun world : Faulted World => Holds tables ready rows world.inner ∧
        world.consumed = consumed)
      (requestRefund (faultInjectingRepository script repository) ⟨customerId, orderId⟩)
      (fun _ _ => script.Confirmable consumed orderId)
      fun _ _ => ¬ script.Confirmable consumed orderId := by
  refine triple_bind (triple_mono (getOrder_returns hserves horder howner) (fun _ h => h)
    (fun _ _ h => h) fun _ _ hread hconfirmable => hread hconfirmable.1) fun read => ?_
  refine triple_of_eq ?_
  rintro world ⟨hread, hnone, hrows, hconsumed⟩
  have hstatus : ¬ read.status ∉ refundableOrderStatuses := by
    rw [hread, hdelivered]
    decide
  simp only [hstatus, if_false]
  -- the update finds the row that was read, so no second read explains its failure
  have hrefunded : rows.refunded? orderId customerId = some order.refund := by
    rw [SupportTables.refunded?, horder, Option.bind_some, if_pos (refundable_iff.mpr
      ⟨SupportTables.id_of_order? horder, howner, hdelivered⟩)]
  refine triple_bind (triple_mono (faulted_returns (hserves.refundOrderIfDelivered orderId rows))
    (by rintro _ rfl; exact ⟨hrows, hconsumed⟩) (fun _ _ h => h)
    fun _ _ hupdate hconfirmable => hupdate hconfirmable.2) fun saved => ?_
  cases saved with
  | some saved => exact triple_pure fun _ h => ⟨hnone, h.1⟩
  | none =>
    rintro world' ⟨-, ⟨hsaved, -⟩, -⟩
    rw [hrefunded] at hsaved
    cases hsaved

/-- **When a ticket is created**, with a subject that the database can store. -/
theorem createTicket_returns (hserves : Serves repository customerId tables ready lost)
    {subject : String} (hsubject : lengthWithin 1 300 subject = true)
    (hstorable : isStorableText subject = true) :
    Triple (fun world : Faulted World => Holds tables ready rows world.inner ∧
        world.consumed = consumed)
      (createTicket (faultInjectingRepository script repository)
        { actorId := customerId, subject := subject, validSubject := hsubject })
      (fun _ _ => script.Escalable consumed subject)
      fun _ _ => ¬ script.Escalable consumed subject := by
  refine triple_mono (faulted_returns (triple_mono (hserves.createTicket _ rows rfl rfl)
    (fun _ h => h) (fun _ _ h => h) ?_)) (fun _ h => h) (fun _ _ h => h.1) fun _ _ h => h
  rintro _ _ ⟨hrefused, -⟩
  rw [hstorable] at hrefused
  cases hrefused

end Script

/-! ## The calls of a turn -/

section Calls

variable [UnicodeTables] [FloatRepr] {World : Type} {script : FaultScript}
  {boundary : SupportRepository (Action World)} {tables : World → SupportTables}
  {ready lost : World → Prop} {service : SupportAgentService (Faulted World)}

omit [UnicodeTables] [FloatRepr] in
/-- A call of the repository returns in a turn when it returns on the world. -/
theorem onWorld_returns {α : Type} {P : World → Prop} {c : Prop} {x : Action World α}
    (h : Triple P x (fun _ _ => c) fun _ _ => ¬ c) :
    Triple (fun turn : Turn World => P turn.world) (onWorld x) (fun _ _ => c) fun _ _ => ¬ c :=
  triple_zoom fun turn hP => triple_mono h (by rintro _ rfl; exact hP) (fun _ _ hc => hc)
    fun _ _ hc => hc

variable (service) in
/-- **When an escalation returns.** -/
theorem escalate_returns (hserves : Serves boundary service.customerId tables ready lost)
    (hrepository : service.repository = faultInjectingRepository script boundary)
    {subject : String} (hsubject : lengthWithin 1 300 subject = true)
    (hstorable : isStorableText subject = true) (turn : Turn (Faulted World))
    (hready : ready turn.world.inner) :
    Triple (· = turn) (service.escalate subject)
      (fun _ _ => script.Escalable turn.world.consumed subject)
      fun _ _ => ¬ script.Escalable turn.world.consumed subject := by
  refine triple_mono (P := fun now : Turn (Faulted World) =>
    Holds tables ready (tables turn.world.inner) now.world.inner ∧
      now.world.consumed = turn.world.consumed) ?_ (by rintro _ rfl; exact ⟨⟨rfl, hready⟩, rfl⟩)
    (fun _ _ h => h) fun _ _ h => h
  refine span_triple (fun _ _ _ h => h) (fun _ _ _ _ h => h) (fun _ _ _ _ h => h) ?_
  simp only [CreateTicketCommand.new, dif_pos hsubject, hrepository]
  refine triple_bind (triple_pure (Q := fun command now =>
    command = { actorId := service.customerId, subject := subject, validSubject := hsubject } ∧
      Holds tables ready (tables turn.world.inner) now.world.inner ∧
      now.world.consumed = turn.world.consumed) fun _ h => ⟨rfl, h⟩) fun command => ?_
  refine triple_of_eq ?_
  rintro now ⟨hcommand, hnow⟩
  rw [hcommand]
  refine triple_bind (triple_mono (onWorld_returns
    (createTicket_returns hserves hsubject hstorable)) (by rintro _ rfl; exact hnow)
    (fun _ _ h => h) fun _ _ h => h) fun ticket => ?_
  exact triple_bind (triple_modify fun _ h => h) fun _ => triple_pure fun _ h => h

variable (service) in
/-- **When a confirmation returns**, of a pending refund that the request confirms. -/
theorem confirmRefund_returns (hserves : Serves boundary service.customerId tables ready lost)
    (hrepository : service.repository = faultInjectingRepository script boundary)
    (hconfirmed : service.refundConfirmed = true) {orderId : Uuid} {turn : Turn (Faulted World)}
    {before : SupportTables}
    (hfollows : Follows (fun world : Faulted World => tables world.inner)
      (fun world => ready world.inner) service.customerId before turn)
    (hpending : (turn.service.pendingProposals orderId).isSome = true) :
    Triple (· = turn) (service.confirmRefund orderId)
      (fun _ _ => script.Confirmable turn.world.consumed orderId)
      fun _ _ => ¬ script.Confirmable turn.world.consumed orderId := by
  -- a pending proposal is for a delivered order of the customer
  obtain ⟨order, horder, howner, hdelivered⟩ := hfollows.2.pending orderId hpending
  refine triple_bind (Q := fun (read now : Turn (Faulted World)) => read = turn ∧ now = turn)
    (triple_get fun _ h => ⟨h, h⟩) fun read => triple_of_eq ?_
  rintro now ⟨hread, hnow⟩
  rw [hread, hnow]
  have hguard : ¬ ((turn.service.pendingProposals orderId).isNone ||
      !service.refundConfirmed) = true := by
    rw [hconfirmed, Option.isNone_eq_false_iff.mpr hpending]
    decide
  rw [if_neg hguard, hrepository]
  refine triple_bind (triple_mono (P := fun now : Turn (Faulted World) =>
    Holds tables ready (tables turn.world.inner) now.world.inner ∧
      now.world.consumed = turn.world.consumed) ?_
    (by rintro _ rfl; exact ⟨⟨rfl, hfollows.1⟩, rfl⟩) (fun _ _ h => h) fun _ _ h => h)
    fun refunded => triple_bind (triple_modify fun _ h => h) fun _ => triple_pure fun _ h => h
  refine span_triple (fun _ _ _ h => h) (fun _ _ _ _ h => h) (fun _ _ _ _ h => h) ?_
  refine span_triple (fun _ _ _ h => h) (fun _ _ _ _ h => h) (fun _ _ _ _ h => h) ?_
  exact onWorld_returns (requestRefund_returns hserves horder howner hdelivered)

end Calls

/-! ## The turn -/

/-- The subject of an escalation by the planner. -/
def escalationSubject (reasonCode : ReasonCode) : String :=
  "Escalated support request (" ++ reasonCode.value ++ ")"

theorem length_value_le (reasonCode : ReasonCode) : reasonCode.value.length ≤ 32 := by
  cases reasonCode <;> decide +kernel

theorem validSubject_escalationSubject (reasonCode : ReasonCode) :
    lengthWithin 1 300 (escalationSubject reasonCode) = true := by
  have hprefix : "Escalated support request (".length = 27 := by decide +kernel
  have hsuffix : ")".length = 1 := by decide +kernel
  have hlength : (escalationSubject reasonCode).length = 27 + reasonCode.value.length + 1 := by
    rw [← hprefix, ← hsuffix, ← String.length_append, ← String.length_append]
    exact congrArg String.length rfl
  have hvalue := length_value_le reasonCode
  unfold lengthWithin
  simp only [hlength, Bool.and_eq_true, decide_eq_true_eq]
  omega

theorem isStorableText_escalationSubject (reasonCode : ReasonCode) :
    isStorableText (escalationSubject reasonCode) = true := by
  cases reasonCode <;> decide +kernel

section Turns

variable [UnicodeTables] [FloatRepr] {World : Type}

/-- **A fault hits a call outside the model**: the escalation of the planner, or the confirmation
after the answer. -/
def Interrupted (script : FaultScript) (agent : PydanticAISupportAgent (Faulted World))
    (request : SupportRequest) (turnScript : TurnScript) (turn : Turn (Faulted World)) : Prop :=
  ∃ routing, turnScript.routing = some routing ∧
    ((planTurn routing).action = .escalate ∧
        ¬ script.Escalable turn.world.consumed (escalationSubject (planTurn routing).reasonCode) ∨
      (planTurn routing).action = .answer ∧ ∃ draft answered orderId,
        (agent.runModel request routing turnScript.answer).run turn.start = .ok draft answered ∧
        confirmationDue routing request.refundConfirmed answered.service = some orderId ∧
        ¬ script.Confirmable answered.world.consumed orderId)

/-- The turn in which the model of a plan runs. -/
def Turn.answering (turn : Turn (Faulted World)) : Turn (Faulted World) :=
  { turn.start with telemetry := turn.start.telemetry.enter "support_agent.answer" }

/-- **The model of a turn sends a text that the database refuses**: the slug of a policy or the
subject of an escalation, at a call that the script lets pass. -/
def SubmitsRefused (script : FaultScript) (agent : PydanticAISupportAgent (Faulted World))
    (request : SupportRequest) (turnScript : TurnScript) (turn : Turn (Faulted World)) : Prop :=
  ∃ routing, turnScript.routing = some routing ∧ (planTurn routing).action = .answer ∧
    Submits script (agent.service request) (agent.tools routing.intent) turnScript.answer
      turn.answering

variable {script : FaultScript} {boundary : SupportRepository (Action World)}
  {tables : World → SupportTables} {ready lost : World → Prop}
  {agent : PydanticAISupportAgent (Faulted World)} {request : SupportRequest}
  {turnScript : TurnScript}

omit [UnicodeTables] [FloatRepr] in
/-- The confirmation that is due after an answer is confirmed by the request. -/
theorem refundConfirmed_of_due {routing : RoutingDecision} {refundConfirmed : Bool}
    {state : ServiceState} {orderId : Uuid}
    (h : confirmationDue routing refundConfirmed state = some orderId) :
    refundConfirmed = true := by
  unfold confirmationDue at h
  split at h
  · rename_i hdue
    exact hdue.2.1
  · cases h

/-- **When the response to an answer returns.** -/
theorem respond_returns (hserves : Serves boundary request.customerId tables ready lost)
    (hrepository : agent.repository = faultInjectingRepository script boundary)
    {routing : RoutingDecision} {draft : AnswerDraft} {answered : Turn (Faulted World)}
    {before : SupportTables}
    (hfollows : Follows (fun world : Faulted World => tables world.inner)
      (fun world => ready world.inner) request.customerId before answered) :
    (∃ result, outcome ((agent.respond request routing draft).run answered) = .ok result) ↔
      ∀ orderId, confirmationDue routing request.refundConfirmed answered.service = some orderId →
        script.Confirmable answered.world.consumed orderId := by
  refine Triple.returns_iff (P := (· = answered)) ?_ rfl
  refine triple_bind
    (Q := fun (read now : Turn (Faulted World)) => read = answered ∧ now = answered)
    (triple_get fun _ h => ⟨h, h⟩) fun read => triple_of_eq ?_
  rintro now ⟨hread, hnow⟩
  rw [hread, hnow]
  cases hdue : confirmationDue routing request.refundConfirmed answered.service with
  | none =>
    simp only [hdue]
    rintro _ rfl orderId hsome
    cases hsome
  | some orderId =>
    simp only [hdue]
    have hconfirm := confirmRefund_returns (agent.service request) hserves hrepository
      (refundConfirmed_of_due hdue) hfollows (confirmationDue_eq_some hdue).2
    refine triple_bind (triple_mono hconfirm (fun _ h => h) (fun _ _ h => h)
      fun _ _ hfault hall => hfault (hall orderId rfl)) fun _ => ?_
    rintro now hconfirmable other hother
    cases hother
    exact hconfirmable

/-- The tools of a turn keep the history of its rows, which a turn starts with. -/
theorem follows_start (hserves : Serves boundary request.customerId tables ready lost)
    (hrepository : agent.repository = faultInjectingRepository script boundary)
    {turn : Turn (Faulted World)} (hready : ready turn.world.inner) :
    ToolInvariant (agent.service request) (Follows (fun world : Faulted World => tables world.inner)
        (fun world => ready world.inner) request.customerId (tables turn.world.inner))
        (fun turn => lost turn.world.inner) ∧
      Follows (fun world : Faulted World => tables world.inner) (fun world => ready world.inner)
        request.customerId (tables turn.world.inner) turn.start := by
  have hstores : Stores (agent.service request).repository (agent.service request).customerId
      (fun world : Faulted World => tables world.inner) (fun world => ready world.inner)
      fun world => lost world.inner := ?_
  · exact ⟨refundHistory_toolInvariant hstores, hready, RefundHistory.new _⟩
  change Stores agent.repository request.customerId _ _ _
  rw [hrepository]
  exact faultInjectingRepository_stores script hserves.stores

/-- **When the plan of a turn returns**: exactly when no fault hits a call outside the model. -/
theorem act_returns_iff (hserves : Serves boundary request.customerId tables ready lost)
    (hrepository : agent.repository = faultInjectingRepository script boundary)
    {turn : Turn (Faulted World)} (hready : ready turn.world.inner) :
    (∃ result, outcome ((agent.act request turnScript.routing turnScript.answer).run turn.start) =
        .ok result) ↔ ¬ Interrupted script agent request turnScript turn := by
  unfold Interrupted
  cases turnScript.routing with
  | none => exact iff_of_true ⟨_, rfl⟩ (by rintro ⟨_, h, -⟩; cases h)
  | some routing =>
    simp only [Option.some.injEq, exists_eq_left']
    cases hplan : (planTurn routing).action with
    | escalate =>
      -- the planner escalates outside the model, so an exception leaves the turn
      simp only [PydanticAISupportAgent.act, hplan, true_and, reduceCtorEq, false_and, or_false,
        not_not]
      refine Triple.returns_iff (P := (· = turn.start)) ?_ rfl
      have hescalate := escalate_returns (agent.service request) hserves hrepository
        (validSubject_escalationSubject (planTurn routing).reasonCode)
        (isStorableText_escalationSubject _) turn.start hready
      exact triple_bind (triple_bind hescalate fun _ => triple_pure fun _ h => h) fun _ =>
        triple_pure fun _ h => h
    | answer =>
      obtain ⟨htools, hstart⟩ := follows_start hserves hrepository hready
      simp only [PydanticAISupportAgent.act, hplan, PydanticAISupportAgent.answer,
        EStateM.run_bind, run_attempt, reduceCtorEq, false_and, false_or, true_and]
      cases hrun : (agent.runModel request routing turnScript.answer).run turn.start with
      | error e failed =>
        -- the exception of the model ends its run, and the turn answers that it failed
        refine iff_of_true ⟨_, rfl⟩ ?_
        rintro ⟨draft, answered, orderId, h, -⟩
        cases h
      | ok draft answered =>
        -- the confirmation that is due comes after the run of the model
        have hanswered := (htools.runModel routing turnScript.answer).ok hstart hrun
        refine (respond_returns hserves hrepository hanswered).trans ?_
        simp only [EStateM.Result.ok.injEq, not_exists, not_and, not_not]
        constructor
        · rintro hall _ _ orderId ⟨rfl, rfl⟩ hdue
          exact hall orderId hdue
        · exact fun hall orderId hdue => hall draft answered orderId ⟨rfl, rfl⟩ hdue

variable (agent request) in
/-- **When a turn returns**: exactly when no fault hits a call outside the model. -/
theorem handle_returns_iff (hserves : Serves boundary request.customerId tables ready lost)
    (hrepository : agent.repository = faultInjectingRepository script boundary)
    (turnScript : TurnScript) (turn : Turn (Faulted World)) (hready : ready turn.world.inner) :
    (∃ response, outcome ((agent.handle request turnScript).run turn) = .ok response) ↔
      ¬ Interrupted script agent request turnScript turn := by
  rw [← act_returns_iff hserves hrepository hready, run_handle]
  cases (agent.act request turnScript.routing turnScript.answer).run turn.start with
  | ok result acted => exact iff_of_true ⟨_, rfl⟩ ⟨_, rfl⟩
  | error e acted => simp only [outcome_error, reduceCtorEq, exists_false]

/-- Whether the run of the model of a plan loses the transaction. -/
theorem runModel_leaves (hserves : Serves boundary request.customerId tables ready lost)
    (hrepository : agent.repository = faultInjectingRepository script boundary)
    (routing : RoutingDecision) (model : AnswerModel) {turn : Turn (Faulted World)}
    (hready : ready turn.world.inner) :
    Triple (· = turn.start) (agent.runModel request routing model)
      (fun _ => StaysReady ready (Submits script (agent.service request)
        (agent.tools routing.intent) model turn.answering))
      fun _ after => StaysReady ready (Submits script (agent.service request)
          (agent.tools routing.intent) model turn.answering) after ∨
        LostBy lost (Submits script (agent.service request) (agent.tools routing.intent) model
          turn.answering) after := by
  have hbody := runAnswer_leaves (agent.service request) hserves hrepository
    (agent.tools routing.intent) model turn.answering hready
  rintro _ rfl
  have hanswering : Turn.mk turn.start.world turn.start.service turn.start.retryCount
    (turn.start.telemetry.enter "support_agent.answer") = turn.answering := rfl
  rw [PydanticAISupportAgent.runModel, run_span, hanswering]
  cases hrun : (runAnswer (agent.service request) (agent.tools routing.intent) model).run
      turn.answering with
  | ok draft after =>
    have hpost := hbody.ok rfl hrun
    exact hpost
  | error e after =>
    have hpost := hbody.error rfl hrun
    exact hpost

variable (turnScript) in
/-- **What the plan of a turn leaves behind**: a lost transaction exactly when its model sends a
text that the database refuses. -/
theorem act_leaves (hserves : Serves boundary request.customerId tables ready lost)
    (hrepository : agent.repository = faultInjectingRepository script boundary)
    {turn : Turn (Faulted World)} (hready : ready turn.world.inner) :
    Leads (· = turn.start) (agent.act request turnScript.routing turnScript.answer) fun acted =>
      StaysReady ready (SubmitsRefused script agent request turnScript turn) acted ∨
        LostBy lost (SubmitsRefused script agent request turnScript turn) acted := by
  unfold SubmitsRefused
  cases turnScript.routing with
  | none =>
    refine triple_pure ?_
    rintro _ rfl
    exact Or.inl ⟨hready, by rintro ⟨_, h, -⟩; cases h⟩
  | some routing =>
    simp only [Option.some.injEq, exists_eq_left']
    cases hplan : (planTurn routing).action with
    | escalate =>
      simp only [PydanticAISupportAgent.act, hplan, reduceCtorEq, false_and]
      -- the subject of the planner has no character that the database refuses
      have hpassed : ¬ script.Refuses turn.world.consumed
          (.escalate (escalationSubject (planTurn routing).reasonCode)) := by
        rintro ⟨⟨-, hrefused⟩, -⟩
        rw [isStorableText_escalationSubject] at hrefused
        cases hrefused
      have hescalate : Leads (· = turn.start) ((agent.service request).escalate
          (escalationSubject (planTurn routing).reasonCode)) (StaysReady ready False) :=
        triple_mono (escalate_leaves turn.world.consumed (agent.service request) hserves
          hrepository _) (by rintro _ rfl; exact ⟨hready, rfl⟩) (fun _ _ h => ⟨h.1, id⟩)
          fun _ _ h => ⟨(h.resolve_right fun hbroken => hpassed hbroken.2.2).1, id⟩
      refine triple_bind (triple_bind (triple_mono hescalate (fun _ h => h) (fun _ _ h => h)
        fun _ _ h => Or.inl h) fun ticket => triple_pure fun _ h => h)
          fun response => triple_pure fun _ h => Or.inl h
    | answer =>
      obtain ⟨htools, hstart⟩ := follows_start hserves hrepository hready
      simp only [PydanticAISupportAgent.act, hplan, true_and]
      -- what the model kept of the rows is needed for the response, which sends no text
      have hmodel := triple_and (triple_mono (R := (· = turn.start))
        (htools.runModel routing turnScript.answer) (by rintro _ rfl; exact hstart)
        (fun _ _ h => h) fun _ _ h => h) (runModel_leaves hserves hrepository routing
        turnScript.answer hready)
      refine triple_attempt_bind hmodel (fun draft => triple_of_eq fun answered hanswered => ?_)
        fun e => triple_pure fun _ h => h.2
      exact triple_mono (respond_keeps htools.confirmRefund routing draft)
        (by rintro _ rfl; exact hanswered.1) (fun _ _ h => Or.inl ⟨h.1, hanswered.2.2⟩)
        fun _ _ h => Or.inl ⟨h.1, hanswered.2.2⟩

variable (agent request) in
/-- **What a turn leaves behind**: a lost transaction exactly when its model sends a text that the
database refuses. -/
theorem handle_leaves (hserves : Serves boundary request.customerId tables ready lost)
    (hrepository : agent.repository = faultInjectingRepository script boundary)
    (turnScript : TurnScript) (turn : Turn (Faulted World)) (hready : ready turn.world.inner) :
    StaysReady ready (SubmitsRefused script agent request turnScript turn)
        (finalState ((agent.handle request turnScript).run turn)) ∨
      LostBy lost (SubmitsRefused script agent request turnScript turn)
        (finalState ((agent.handle request turnScript).run turn)) := by
  have hacted := (act_leaves turnScript hserves hrepository hready).finalState rfl
  rw [run_handle]
  cases hact : (agent.act request turnScript.routing turnScript.answer).run turn.start with
  | ok result acted =>
    rw [hact] at hacted
    exact hacted
  | error e acted =>
    rw [hact] at hacted
    exact hacted

end Turns

/-! ## The run -/

section Run

variable [UnicodeTables] [FloatRepr] [HashFunctions] [ValidationTexts] [RandomIds] [Collation]

/-- The agent of a run in a sandbox. -/
def sandboxedAgent (toolsOverride : Option (List String)) (proposalIds : ℕ → Uuid)
    (options : RunOptions) (bundle : SimulationBundle) : PydanticAISupportAgent Sandbox :=
  supportAgent toolsOverride proposalIds (sandboxRepository (sandboxScript bundle.faultScript))
    (instructionsVersion options bundle)

/-- A run ended with the response of its turn, and with a verdict that can be compared. -/
def EndsComparably (result : EStateM.Result RunFailure (Running Sandbox) SimulationRun)
    (turn : EStateM.Result PyError (Turn Sandbox) SupportResponse) : Prop :=
  ∃ response run, outcome turn = .ok response ∧ outcome result = .ok run ∧
    run.response = some response ∧ run.verdict ∉ [.unexpectedAccess, .missingCoverage]

omit [HashFunctions] [ValidationTexts] [RandomIds] [Collation] [UnicodeTables] [FloatRepr] in
/-- A turn that was not aborted has a verdict that can be compared. -/
theorem runVerdict_comparable (bundle : SimulationBundle) (metrics : RunMetrics) :
    runVerdict bundle metrics none ∉ [.unexpectedAccess, .missingCoverage] := by
  unfold runVerdict
  dsimp only
  split_ifs
  all_goals decide

omit [UnicodeTables] [FloatRepr] [HashFunctions] [ValidationTexts] in
/-- An observed session serves a registered customer. -/
theorem sandbox_serves (customerId : Uuid) :
    Serves (observedRepository sqlAlchemySupportRepository) customerId
      (fun observed => observed.inner.tables)
      (Logged SupportSession.tables (SupportSession.Serving customerId) fun _ _ => True)
      fun observed => observed.inner.Closed :=
  observedRepository_serves (sqlAlchemySupportRepository_serves customerId)
    ⟨fun _ _ _ h => h, fun _ _ _ _ _ h => h, fun _ _ _ _ h => h⟩

/-- What a run reads of its sandbox after its turn. -/
def sandboxExecution (turn : EStateM.Result PyError (Turn Sandbox) SupportResponse) :
    Execution where
  response := (outcome turn).toOption
  aborted := none
  spans := (finalState turn).telemetry.ended
  finalState :=
    { orders := (finalState turn).world.tables.orders
      tickets := (finalState turn).world.tables.tickets
      policies := (finalState turn).world.tables.policies }
  mutations := (finalState turn).world.mutations

/-- The facts of a run that its evaluators read. -/
def turnMetrics (measured : RunMeasurements)
    (turn : EStateM.Result PyError (Turn Sandbox) SupportResponse) : RunMetrics :=
  metricsFor measured (sandboxExecution turn)

omit [HashFunctions] in
/-- A run whose turn returned reads the sandbox that the turn left behind. -/
theorem execution_eq_sandboxExecution {request : EnvironmentRequest} {execution : Execution}
    {turn : EStateM.Result PyError (Turn Sandbox) SupportResponse} {response : SupportResponse}
    {captured written : Sandbox} (hturn : outcome turn = .ok response)
    (hclassify : classify (outcome turn) = .ok (execution.response, execution.aborted))
    (hspans : execution.spans = (finalState turn).telemetry.ended)
    (hstate : (postgresSandboxProvisioner request).finalState.run (finalState turn).world =
      .ok execution.finalState captured)
    (hmutations : (postgresSandboxProvisioner request).mutations.run captured =
      .ok execution.mutations written) :
    execution = sandboxExecution turn := by
  -- the reads of an open sandbox return what it holds, so they are the reads of the run
  obtain ⟨hstate', hmutations', -⟩ := run_closing request (open_of_finalState hstate)
  obtain ⟨hcaptured, rfl⟩ := EStateM.Result.ok.inj (hstate'.symm.trans hstate)
  obtain ⟨hwritten, -⟩ := EStateM.Result.ok.inj (hmutations'.symm.trans hmutations)
  obtain ⟨response', aborted, spans, state, mutations⟩ := execution
  rw [hturn] at hclassify
  cases hclassify
  cases hspans
  cases hcaptured
  cases hwritten
  rw [sandboxExecution, hturn]
  rfl

/-- **When a run ends with the response of its turn.** In every opened sandbox, for every routing,
every strategy of the model and every fault script: exactly when no fault hits a call outside the
model, the model sends no text that the database refuses, and every evaluator returns on the facts
of the run. -/
theorem comparable_iff {bundle : SimulationBundle} {prepared : Prepared Sandbox} {world : Sandbox}
    {repository : SupportRepository (Action Sandbox)} {opened : Running Sandbox}
    (hprepared : prepareRun (fun request => .ok (postgresSandboxProvisioner request)) bundle =
      .ok prepared)
    (hopened : (openEnvironment prepared).run { world := world } = .ok repository opened)
    (evaluators : List Evaluator) (toolsOverride : Option (List String)) (proposalIds : ℕ → Uuid)
    (script : TurnScript) (measured : RunMeasurements) (options : RunOptions) :
    EndsComparably
        ((runBundle (fun request => .ok (postgresSandboxProvisioner request))
          (supportAgents toolsOverride proposalIds script) evaluators measured options bundle).run
          { world := world })
        (turnResult bundle
          (sandboxedAgent toolsOverride proposalIds options bundle |>.handle · script) opened) ↔
      ¬ Interrupted (sandboxScript bundle.faultScript)
          (sandboxedAgent toolsOverride proposalIds options bundle)
          bundle.scenario.request.toSupportRequest script { world := opened.world } ∧
        ¬ SubmitsRefused (sandboxScript bundle.faultScript)
          (sandboxedAgent toolsOverride proposalIds options bundle)
          bundle.scenario.request.toSupportRequest script { world := opened.world } ∧
        ∀ evaluator ∈ evaluators, ∃ result, evaluator.check bundle (turnMetrics measured
          (turnResult bundle
            (sandboxedAgent toolsOverride proposalIds options bundle |>.handle · script) opened)) =
          .ok result := by
  obtain ⟨hrepository, tables, htables, hworld⟩ := openEnvironment_sandbox hprepared hopened
  have hready : Logged SupportSession.tables
      (SupportSession.Serving bundle.scenario.request.customerId) (fun _ _ => True)
      opened.world.inner := by
    rw [hworld]
    exact ⟨serving_of_seedTables htables, trivial⟩
  have hagent : supportAgents toolsOverride proposalIds script repository
      (instructionsVersion options bundle) =
      .ok (sandboxedAgent toolsOverride proposalIds options bundle |>.handle · script) := by
    rw [hrepository]
    rfl
  have hreturns := handle_returns_iff (sandboxedAgent toolsOverride proposalIds options bundle)
    bundle.scenario.request.toSupportRequest (sandbox_serves _) rfl script { world := opened.world }
    hready
  have hleaves := handle_leaves (sandboxedAgent toolsOverride proposalIds options bundle)
    bundle.scenario.request.toSupportRequest (sandbox_serves _) rfl script { world := opened.world }
    hready
  have hprovisioner := Except.ok.inj (prepareRun_eq_ok hprepared).2
  rw [← hreturns]
  constructor
  · rintro ⟨response, run, hresponse, hrun, -⟩
    obtain ⟨execution, captured, written, report, closed, hclassify, hspans, hstate, hmutations,
      hreport, -, -⟩ := (runBundle_returns_iff hprepared hopened hagent).mp
        ⟨_, eq_ok_of_outcome hrun⟩
    rw [← hprovisioner] at hstate hmutations
    -- the state was read after the turn, so the transaction was not lost
    have hopen := open_of_finalState hstate
    refine ⟨⟨response, hresponse⟩, fun hsubmits => ?_, ?_⟩
    · have hclosed := (hleaves.resolve_left fun hstays => hstays.2 hsubmits).1
      cases hopen.symm.trans hclosed
    · have hexecution := execution_eq_sandboxExecution hresponse hclassify hspans hstate hmutations
      have hanswered : (sandboxExecution (turnResult bundle
          (sandboxedAgent toolsOverride proposalIds options bundle |>.handle · script)
          opened)).response.isSome = true := by
        rw [sandboxExecution, hresponse]
        rfl
      rw [hexecution, reportFor, if_pos ⟨hanswered, rfl⟩] at hreport
      exact runEvaluators_returns.mp ⟨report, hreport⟩
  · rintro ⟨⟨response, hresponse⟩, hsubmits, hevaluators⟩
    have hturn : outcome (turnResult bundle
        (sandboxedAgent toolsOverride proposalIds options bundle |>.handle · script) opened) =
        .ok response := hresponse
    -- the sandbox is still open, so its reads and its cleanup return
    have hafter := (hleaves.resolve_right fun hlost => hsubmits hlost.2).1
    obtain ⟨hstate, hmutations, closed, hdestroy⟩ := run_closing
      ⟨prepared.scenario, bundle.faultScript⟩ hafter.1.1
    rw [hprovisioner] at hstate hmutations hdestroy
    obtain ⟨report, hreport⟩ := exists_report hevaluators
    obtain ⟨after, hrun⟩ := (runBundle_returns_iff hprepared hopened hagent).mpr
      ⟨sandboxExecution _, _, _, report, closed, by rw [sandboxExecution, hturn]; rfl, rfl, hstate,
        hmutations, hreport, hdestroy, rfl⟩
    refine ⟨response, _, hresponse, by rw [hrun]; rfl, ?_, runVerdict_comparable _ _⟩
    change (sandboxExecution _).response = some response
    rw [sandboxExecution, hturn]
    rfl

end Run

/-! ### A timeout of the escalation -/

section Timeout

attribute [local instance] asciiTables oneDecimalRepr constantHashes constantIds codePointOrder
  plainTexts

/-- A database whose first escalation times out. -/
def timeoutScript : FaultScript where
  scriptVersion := "1"
  dependency := ownedDatabase
  entries := [{ kind := .timeout, tool := "escalate", validDelay := by decide }]

/-- A bundle with that database. -/
def timeoutBundle : SimulationBundle :=
  ({ smallBundle "phase2-02-escalate" "help" validMessage_help with
    faultScript := some timeoutScript } : SimulationBundle).withIdentity

/-- A turn whose model escalates and drafts an answer. -/
def escalatingTurn (intent : RouteIntent) : TurnScript where
  routing := some ⟨intent, none⟩
  answer := .calls (.escalate "help") fun _ => .draft ⟨intent⟩

def timeoutOptions : RunOptions := ⟨⟨"openai", "offline", none, none⟩, none, none⟩

/-- A run of the bundle in a sandbox, with all evaluators. -/
def timeoutRun (script : TurnScript) :
    EStateM.Result RunFailure (Running Sandbox) SimulationRun :=
  (runBundle (fun request => .ok (postgresSandboxProvisioner request))
    (supportAgents none (fun _ => .repeated 3) script) allEvaluators ⟨.ofRat 1, 0, none⟩
    timeoutOptions timeoutBundle).run { world := Sandbox.begin .empty }

/-- That run, with its environment opened: no order is seeded, and one customer. -/
def timeoutOpened : Running Sandbox where
  world := .seeded (.ofCustomer (.repeated 1))
  calls := [(.create, none), (.seed, none), (.connect, none)]

/-- The turn of that run. -/
def timeoutTurn (script : TurnScript) : EStateM.Result PyError (Turn Sandbox) SupportResponse :=
  turnResult timeoutBundle (sandboxedAgent none (fun _ => .repeated 3) timeoutOptions timeoutBundle
    |>.handle · script) timeoutOpened

/-- The model escalates: it is asked to retry, and the run ends with the answer of its turn, which
all evaluators read. -/
theorem comparable_iff_answered :
    EndsComparably (timeoutRun (escalatingTurn .policy))
      (timeoutTurn (escalatingTurn .policy)) := by
  refine (comparable_iff rfl rfl allEvaluators none (fun _ => .repeated 3) (escalatingTurn .policy)
    ⟨.ofRat 1, 0, none⟩ timeoutOptions).mpr ⟨?_, ?_, ?_⟩
  · rintro ⟨routing, hrouting, ⟨hplan, -⟩ | ⟨-, draft, answered, orderId, -, hdue, -⟩⟩
    · cases hrouting
      cases hplan
    · cases hrouting
      -- only a refund is confirmed after the answer
      cases (confirmationDue_eq_some hdue).1
  · rintro ⟨routing, hrouting, -, ⟨-, ⟨-, hrefused⟩, -⟩ | ⟨reply, after, -, hdraft⟩⟩
    · cases hrefused
    · exact hdraft
  · have hreport : (runEvaluators timeoutBundle
        (turnMetrics ⟨.ofRat 1, 0, none⟩ (timeoutTurn (escalatingTurn .policy)))
        allEvaluators).isOk = true := by decide +kernel
    cases hrun : runEvaluators timeoutBundle
        (turnMetrics ⟨.ofRat 1, 0, none⟩ (timeoutTurn (escalatingTurn .policy))) allEvaluators with
    | error e =>
      rw [hrun] at hreport
      cases hreport
    | ok report => exact runEvaluators_returns.mp ⟨report, hrun⟩

/-- The planner escalates: the timeout is raised out of the turn, and fails the run as an error of
the model. -/
theorem comparable_fails :
    ∃ failure after, timeoutRun (escalatingTurn .escalate) = .error failure after ∧
      failure.error = modelRunError "injected timeout for tool 'escalate'" := by
  have hfailed : (match outcome (timeoutRun (escalatingTurn .escalate)) with
      | .ok _ => none
      | .error failure => some failure.error) =
        some (modelRunError "injected timeout for tool 'escalate'") := by decide +kernel
  cases hrun : timeoutRun (escalatingTurn .escalate) with
  | ok run after =>
    rw [hrun] at hfailed
    cases hfailed
  | error failure after =>
    rw [hrun] at hfailed
    exact ⟨failure, after, rfl, Option.some.inj hfailed⟩

end Timeout

end ObservabilityLab
