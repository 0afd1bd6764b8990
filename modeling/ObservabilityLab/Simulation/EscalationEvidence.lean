import ObservabilityLab.Agent.Invariants
import ObservabilityLab.Comparison.EvaluatorBounds
import ObservabilityLab.Simulation.Provisioner

/-!
# The evidence of an escalation

The escalation evaluator reads two signals: the calls of the escalation tool, which the runner takes
from the ended spans, and the mutations that the observer recorded. A ticket that the model created
leaves both behind. A ticket that the planner created leaves only the mutation, because no tool of
the agent ran.

## Main definitions

* `TicketCreated`, `TicketRecorded`: a ticket in the rows, and in the recorded mutations
* `Evidenced`: a recorded ticket comes with the span of the escalation tool
* `EscalationFaithful`: the evaluator agrees with the rows

## Main results

* `TicketsRecorded.created_iff`: the observer records exactly the tickets of the rows
* `runTool_evidenced`, `answer_evidenced`: the tools and the answer of a turn keep the evidence
* `escalationFaithful_iff`: when the evaluator is faithful
-/

namespace ObservabilityLab

open Python Raising

-- the goals below name whole tools and turns, which no step needs to unfold
attribute [local irreducible] Triple

/-! ## Tickets and their mutations -/

/-- The rows have a new ticket of a customer. -/
def TicketCreated (customerId : Uuid) (before rows : SupportTables) : Prop :=
  ∃ created ticket, rows.tickets = before.tickets ++ created ∧ ticket ∈ created ∧
    ticket.customerId = customerId

/-- A mutation records a created ticket. -/
def TicketRecorded (mutations : List StateMutation) : Prop :=
  ∃ mutation ∈ mutations, mutation.reasonCode = "ticket_created"

/-- **The log records whether tickets were created**, all of one customer. -/
def TicketsRecorded (customerId : Uuid) (before rows : SupportTables) (log : MutationLog) : Prop :=
  ∃ created, rows.tickets = before.tickets ++ created ∧
    (∀ ticket ∈ created, ticket.customerId = customerId) ∧
    (TicketRecorded log.mutations ↔ created ≠ [])

theorem ticketRecorded_record {log : MutationLog} {resource : String} {resourceId : Uuid}
    {field : String} {before after : PyValue} {reasonCode : String} :
    TicketRecorded (log.record resource resourceId field before after reasonCode).mutations ↔
      TicketRecorded log.mutations ∨ reasonCode = "ticket_created" := by
  unfold TicketRecorded MutationLog.record
  simp only [List.mem_append, List.mem_singleton]
  constructor
  · rintro ⟨mutation, hmem | rfl, hreason⟩
    · exact Or.inl ⟨mutation, hmem, hreason⟩
    · exact Or.inr hreason
  · rintro (⟨mutation, hmem, hreason⟩ | hreason)
    · exact ⟨mutation, Or.inl hmem, hreason⟩
    · exact ⟨_, Or.inr rfl, hreason⟩

/-- The observer keeps the record of the tickets. -/
theorem ticketsRecorded_logInvariant (customerId : Uuid) (before : SupportTables) :
    LogInvariant customerId (TicketsRecorded customerId before) where
  refunded _ _ _ h := h
  recorded := by
    rintro rows log orderId value value' ⟨created, hrows, howners, hrecorded⟩
    refine ⟨created, hrows, howners, ?_⟩
    rw [ticketRecorded_record, or_iff_left (by decide)]
    exact hrecorded
  created := by
    rintro rows log ticket howner ⟨created, hrows, howners, hrecorded⟩
    refine ⟨created ++ [ticket], ?_, ?_, ?_⟩
    · rw [SupportTables.withTicket, hrows, List.append_assoc]
    · intro other hmem
      rcases List.mem_append.mp hmem with hmem | hmem
      · exact howners other hmem
      · rw [List.mem_singleton.mp hmem]
        exact howner
    · rw [ticketRecorded_record]
      exact iff_of_true (Or.inr rfl) (by simp)

namespace TicketsRecorded

variable {customerId : Uuid} {before rows : SupportTables} {log : MutationLog}

theorem new (before : SupportTables) : TicketsRecorded customerId before before {} :=
  ⟨[], (List.append_nil _).symm, by simp, by simp [TicketRecorded]⟩

/-- **The observer records exactly the tickets of the rows.** -/
theorem created_iff (h : TicketsRecorded customerId before rows log) :
    TicketCreated customerId before rows ↔ TicketRecorded log.mutations := by
  obtain ⟨created, hrows, howners, hrecorded⟩ := h
  rw [hrecorded]
  constructor
  · rintro ⟨created', ticket, hrows', hmem, -⟩
    rw [hrows, List.append_cancel_left_eq] at hrows'
    rw [hrows']
    exact List.ne_nil_of_mem hmem
  · intro hcreated
    obtain ⟨ticket, hmem⟩ := List.exists_mem_of_ne_nil created hcreated
    exact ⟨created, ticket, hrows, hmem, howners ticket hmem⟩

/-- Whether a ticket is recorded depends on the tickets of the rows only. -/
theorem recorded_iff_of_tickets {rows' : SupportTables} {log' : MutationLog}
    (h : TicketsRecorded customerId before rows log)
    (h' : TicketsRecorded customerId before rows' log') (htickets : rows.tickets = rows'.tickets) :
    TicketRecorded log.mutations ↔ TicketRecorded log'.mutations := by
  rw [← h.created_iff, ← h'.created_iff, TicketCreated, TicketCreated, htickets]

end TicketsRecorded

/-! ## What the tools leave behind -/

section Tools

/-- A sandbox that serves a customer, and records the tickets since given rows. -/
def Recording (customerId : Uuid) (before : SupportTables) (sandbox : Sandbox) : Prop :=
  Logged SupportSession.tables (SupportSession.Serving customerId)
    (TicketsRecorded customerId before) sandbox.inner

/-- A sandbox whose transaction is lost. -/
def TransactionLost (sandbox : Sandbox) : Prop := sandbox.inner.inner.Closed

theorem sandbox_stores_recording [UnicodeTables] [FloatRepr] [RandomIds] [Collation]
    (script : FaultScript) (customerId : Uuid) (before : SupportTables) :
    Stores (sandboxRepository script) customerId Sandbox.tables (Recording customerId before)
      TransactionLost :=
  faultInjectingRepository_stores script (observedRepository_serves
    (sqlAlchemySupportRepository_serves customerId)
    (ticketsRecorded_logInvariant customerId before)).stores

/-- A turn on a recording sandbox with the given tickets. -/
def TicketsKept (customerId : Uuid) (before : SupportTables) (tickets : List TicketRead)
    (turn : Turn Sandbox) : Prop :=
  Recording customerId before turn.world ∧ turn.world.tables.tickets = tickets

def escalateSpan : String := "support_agent.tool." ++ "escalate"

/-- **A recorded ticket comes with the span of the escalation tool.** -/
def Evidenced (customerId : Uuid) (before : SupportTables) (turn : Turn Sandbox) : Prop :=
  Recording customerId before turn.world ∧
    (TicketRecorded turn.world.mutations → escalateSpan ∈ turn.spanNames)

variable {customerId : Uuid} {before : SupportTables} {tickets : List TicketRead}

theorem ticketsKept_of_at {rows : SupportTables} {state : ServiceState} {turn : Turn Sandbox}
    (h : At Sandbox.tables (Recording customerId before) rows state turn)
    (hrows : rows.tickets = tickets) : TicketsKept customerId before tickets turn := by
  obtain ⟨⟨htables, hrecording⟩, -⟩ := h
  exact ⟨hrecording, by rw [htables, hrows]⟩

/-- What a turn loses when the database refuses a text. -/
abbrev LosesTransaction : PyError → Turn Sandbox → Prop :=
  ObservabilityLab.Refused fun turn => TransactionLost turn.world

/-- A computation keeps the tickets when its specification does. -/
theorem ticketsKept_keeps {α : Type} {x : Action (Turn Sandbox) α}
    {Q : SupportTables → ServiceState → α → Turn Sandbox → Prop}
    {E : SupportTables → ServiceState → PyError → Turn Sandbox → Prop}
    (hx : ∀ rows state, Triple (At Sandbox.tables (Recording customerId before) rows state) x
      (Q rows state) (E rows state))
    (hQ : ∀ rows state a turn,
      Q rows state a turn → TicketsKept customerId before rows.tickets turn)
    (hE : ∀ rows state e turn, E rows state e turn →
      TicketsKept customerId before rows.tickets turn) :
    Keeps (TicketsKept customerId before tickets) x := by
  refine triple_of_eq ?_
  rintro turn ⟨hrecording, htickets⟩
  rw [← htickets]
  exact triple_mono (hx turn.world.tables turn.service)
    (by rintro _ rfl; exact ⟨⟨rfl, hrecording⟩, rfl⟩)
    (fun a _ h => hQ _ _ a _ h) fun e _ h => hE _ _ e _ h

theorem ticketsKept_logStable : LogStable (TicketsKept customerId before tickets) :=
  ⟨fun _ _ _ h => h, fun _ _ h => h, fun _ _ h => h⟩

variable {service : SupportAgentService Sandbox}

theorem confirmRefund_ticketsKept
    (hstores : Stores service.repository service.customerId Sandbox.tables
      (Recording service.customerId before) TransactionLost) (orderId : Uuid) :
    Keeps (TicketsKept service.customerId before tickets) (service.confirmRefund orderId) := by
  refine ticketsKept_keeps (confirmRefund_triple hstores orderId) ?_ ?_
  · rintro rows state refunded turn ⟨-, -, -, hat⟩
    exact ticketsKept_of_at hat rfl
  · rintro rows state e turn ⟨reason, -, hat⟩
    exact ticketsKept_of_at hat rfl

/-- **Only the escalation creates tickets.** -/
theorem runTool_ticketsKept
    (hstores : Stores service.repository service.customerId Sandbox.tables
      (Recording service.customerId before) TransactionLost) {call : ToolCall}
    (hcall : ∀ subject, call ≠ .escalate subject) :
    KeepsUnless LosesTransaction (TicketsKept service.customerId before tickets)
      (runTool service call) := by
  have hstable : Stable fun turn : Turn Sandbox => TransactionLost turn.world := fun _ _ _ h => h
  cases call with
  | getOrderStatus orderId =>
    exact ticketsKept_logStable.toolFunction ticketsKept_logStable.stable hstable rfl
      (ticketsKept_keeps (getOrderStatus_triple hstores orderId)
        (fun _ _ _ _ h => ticketsKept_of_at h.2.2 rfl)
        fun _ _ _ _ h => ticketsKept_of_at h rfl).unless
  | getPolicy slug =>
    refine ticketsKept_logStable.toolFunction ticketsKept_logStable.stable hstable rfl
      (triple_of_eq ?_)
    rintro turn ⟨hrecording, htickets⟩
    rw [← htickets]
    exact triple_mono (getPolicy_triple hstores slug turn.world.tables turn.service)
      (by rintro _ rfl; exact ⟨⟨rfl, hrecording⟩, rfl⟩) (fun _ _ h => ticketsKept_of_at h rfl)
      fun _ _ h => h.imp (fun hat => ticketsKept_of_at hat rfl) And.right
  | proposeRefund orderId =>
    refine ticketsKept_logStable.toolFunction ticketsKept_logStable.stable hstable rfl
      (ticketsKept_keeps (proposeRefund_triple hstores orderId) ?_ ?_).unless
    · rintro rows state proposal turn ⟨order, -, -, -, hat⟩
      exact ticketsKept_of_at hat rfl
    · rintro rows state e turn ⟨lastOrder, reason, -, hat⟩
      exact ticketsKept_of_at hat rfl
  | confirmRefund orderId =>
    exact ticketsKept_logStable.toolFunction ticketsKept_logStable.stable hstable rfl
      (confirmRefund_ticketsKept hstores orderId).unless
  | escalate subject => exact (hcall subject rfl).elim

theorem recording_logStable :
    LogStable fun turn : Turn Sandbox => Recording customerId before turn.world :=
  ⟨fun _ _ _ h => h, fun _ _ h => h, fun _ _ h => h⟩

theorem escalate_recording
    (hstores : Stores service.repository service.customerId Sandbox.tables
      (Recording service.customerId before) TransactionLost) (subject : String) :
    KeepsUnless LosesTransaction
      (fun turn : Turn Sandbox => Recording service.customerId before turn.world)
      (service.escalate subject) :=
  triple_of_eq fun turn hturn => triple_mono
    (escalate_triple hstores subject turn.world.tables turn.service)
    (by rintro _ rfl; exact ⟨⟨rfl, hturn⟩, rfl⟩) (fun _ _ h => h.2.1.2)
    fun _ _ h => h.imp (fun hat => hat.1.2) And.right

/-- What keeps the record of the tickets and ends the span of the tool keeps the evidence. -/
theorem evidenced_of_ended {α : Type} {x : Action (Turn Sandbox) α}
    (hrecording : KeepsUnless LosesTransaction
      (fun turn : Turn Sandbox => Recording customerId before turn.world) x)
    (hended : Triple (fun _ => True) x (fun _ turn => escalateSpan ∈ turn.spanNames)
      fun _ turn => escalateSpan ∈ turn.spanNames) :
    KeepsUnless LosesTransaction (Evidenced customerId before) x :=
  triple_of_runs
    (fun _ _ _ h hrun => ⟨hrecording.ok h.1 hrun, fun _ => hended.ok trivial hrun⟩)
    fun _ _ _ h hrun => (hrecording.error h.1 hrun).imp_left fun hafter =>
      ⟨hafter, fun _ => hended.error trivial hrun⟩

/-- What keeps the tickets and the spans keeps the evidence. -/
theorem evidenced_of_ticketsKept {α : Type} {x : Action (Turn Sandbox) α}
    {B : PyError → Turn Sandbox → Prop}
    (htickets : ∀ tickets, KeepsUnless B (TicketsKept customerId before tickets) x)
    (hspans : ∀ older, Keeps (fun turn : Turn Sandbox => older <+: turn.telemetry.ended) x) :
    KeepsUnless B (Evidenced customerId before) x := by
  have hevidenced : ∀ turn after : Turn Sandbox, Evidenced customerId before turn →
      TicketsKept customerId before turn.world.tables.tickets after →
      turn.telemetry.ended <+: after.telemetry.ended → Evidenced customerId before after := by
    rintro turn after ⟨hrecording, hspan⟩ ⟨hafter, hsame⟩ hprefix
    refine ⟨hafter, fun hrecorded => ?_⟩
    have hbefore := hspan ((hafter.2.recorded_iff_of_tickets hrecording.2 hsame).mp hrecorded)
    exact (List.IsPrefix.map _ hprefix).subset hbefore
  exact triple_of_runs
    (fun turn _ after h hrun => hevidenced turn after h ((htickets _).ok ⟨h.1, rfl⟩ hrun)
      ((hspans _).ok (List.prefix_refl _) hrun))
    fun turn _ after h hrun => ((htickets _).error ⟨h.1, rfl⟩ hrun).imp_left fun hkept =>
      hevidenced turn after h hkept ((hspans _).error (List.prefix_refl _) hrun)

/-- **Every tool keeps the evidence.** -/
theorem runTool_evidenced
    (hstores : Stores service.repository service.customerId Sandbox.tables
      (Recording service.customerId before) TransactionLost) (call : ToolCall) :
    KeepsUnless LosesTransaction (Evidenced service.customerId before) (runTool service call) := by
  cases call with
  | escalate subject =>
    exact evidenced_of_ended (recording_logStable.toolFunction recording_logStable.stable
      (fun _ _ _ h => h) rfl (escalate_recording hstores _)) (span_ended _ _)
  | getOrderStatus | getPolicy | proposeRefund | confirmRefund =>
    exact evidenced_of_ticketsKept (fun _ => runTool_ticketsKept hstores nofun)
      fun _ => runTool_spans service _ _

theorem evidenced_stable : Stable (Evidenced customerId before) := by
  rintro turn telemetry hprefix ⟨hrecording, hspan⟩
  exact ⟨hrecording, fun hrecorded => (List.IsPrefix.map _ hprefix).subset (hspan hrecorded)⟩

end Tools

/-! ## What a turn leaves behind -/

section Turns

variable {agent : PydanticAISupportAgent Sandbox} {request : SupportRequest}
  {before : SupportTables}

/-- **The answer of a turn keeps the evidence**, unless the database refused a text of its model:
the run of the model, and the response after it. -/
theorem answer_evidenced
    (hstores : Stores agent.repository request.customerId Sandbox.tables
      (Recording request.customerId before) TransactionLost) (routing : RoutingDecision)
    (model : AnswerModel) :
    Leads (Evidenced request.customerId before) (agent.answer request routing model)
      fun turn => Evidenced request.customerId before turn ∨ TransactionLost turn.world := by
  have hservice : Stores (agent.service request).repository (agent.service request).customerId
      Sandbox.tables (Recording (agent.service request).customerId before) TransactionLost :=
    hstores
  have hmodel : KeepsUnless LosesTransaction (Evidenced request.customerId before)
      (agent.runModel request routing model) :=
    span_triple evidenced_stable (fun _ => evidenced_stable)
      (stable_or_refused evidenced_stable fun _ _ _ h => h)
      (runAnswer_keeps (runTool_evidenced hservice) _ model)
  refine triple_attempt_bind hmodel (fun draft => ?_) fun e =>
    triple_pure fun _ h => h.imp_right And.right
  have hrespond : Keeps (Evidenced request.customerId before)
      (agent.respond request routing draft) :=
    respond_keeps (fun orderId => (evidenced_of_ticketsKept
      (fun _ => (confirmRefund_ticketsKept hservice orderId).unless)
      fun _ => confirmRefund_spans _ _ orderId).keeps) routing draft
  exact triple_mono hrespond (fun _ h => h) (fun _ _ h => Or.inl h) fun _ _ h => Or.inl h

/-- An escalation ends one span. -/
theorem escalate_names {World : Type} (service : SupportAgentService World) (subject : String)
    (names : List String) :
    Triple (·.spanNames = names) (service.escalate subject)
      (fun _ turn => turn.spanNames = names ++ ["support_agent.escalation"])
      fun _ turn => turn.spanNames = names ++ ["support_agent.escalation"] := by
  refine span_names _ ?_
  cases CreateTicketCommand.new service.customerId subject with
  | error e =>
    exact triple_bind (Q := fun _ _ => False) (triple_throw fun _ h => h) fun _ => triple_false
  | ok command =>
    refine triple_bind (Q := fun _ (turn : Turn World) => turn.spanNames = names)
      (triple_pure fun _ h => h) fun command => ?_
    refine triple_bind (Q := fun _ (turn : Turn World) => turn.spanNames = names) ?_
      fun ticket => ?_
    · exact triple_zoom fun turn h => triple_of_runs (fun _ _ _ _ _ => h) fun _ _ _ _ _ => h
    · exact triple_bind (Q := fun _ (turn : Turn World) => turn.spanNames = names)
        (triple_modify fun _ h => h) fun _ => triple_pure fun _ h => h

/-- **An escalation of the planner leaves its ticket behind, and no span of a tool.** -/
theorem escalateTurn_triple
    (hstores : Stores agent.repository request.customerId Sandbox.tables
      (Recording request.customerId before) TransactionLost)
    (reasonCode : ReasonCode) (turn : Turn Sandbox)
    (hrecording : Recording request.customerId before turn.world) :
    Triple (· = turn) (escalateTurn (agent.service request) reasonCode)
      (fun response after => response.outcome = .escalated ∧
        Recording request.customerId before after.world ∧
        TicketCreated request.customerId turn.world.tables after.world.tables ∧
        after.spanNames = turn.spanNames ++ ["support_agent.escalation"])
      fun _ _ => True := by
  have hstores' : Stores (agent.service request).repository (agent.service request).customerId
      Sandbox.tables (Recording request.customerId before) TransactionLost := hstores
  have hescalate := triple_and
    (triple_mono (R := (· = turn)) (escalate_triple hstores'
      ("Escalated support request (" ++ reasonCode.value ++ ")") turn.world.tables turn.service)
      (by rintro _ rfl; exact ⟨⟨rfl, hrecording⟩, rfl⟩) (fun _ _ h => h) fun _ _ h => h)
    (triple_mono (R := (· = turn)) (escalate_names (agent.service request)
      ("Escalated support request (" ++ reasonCode.value ++ ")") turn.spanNames)
      (by rintro _ rfl; rfl) (fun _ _ h => h) fun _ _ h => h)
  refine triple_bind (triple_mono hescalate (fun _ h => h) (fun _ _ h => h) fun _ _ _ => trivial)
    fun ticket => triple_pure ?_
  rintro after ⟨⟨howner, ⟨hrows, hafter⟩, -⟩, hnames⟩
  refine ⟨rfl, hafter, ⟨[ticket], ticket, ?_, List.mem_singleton_self _, howner⟩, hnames⟩
  rw [hrows]
  rfl

/-- The planner escalates without the model. -/
def EscalatedByPlanner (script : TurnScript) : Prop :=
  ∃ routing, script.routing = some routing ∧ (planTurn routing).action = .escalate

theorem spanNames_finish (turn : Turn Sandbox) (grounded : Option Bool) (outer : Option TraceSpan) :
    (turn.finish grounded outer).spanNames = turn.spanNames ++ ["support_agent.turn"] := by
  cases grounded with
  | none => exact List.map_append
  | some grounded => exact List.map_append

theorem world_finish (turn : Turn Sandbox) (grounded : Option Bool) (outer : Option TraceSpan) :
    (turn.finish grounded outer).world = turn.world := by
  cases grounded with
  | none => rfl
  | some grounded => rfl

/-- A turn that starts on recording rows has no ticket yet. -/
theorem not_ticketRecorded_start {customerId : Uuid} {turn : Turn Sandbox}
    (h : Recording customerId turn.world.tables turn.world) :
    ¬ TicketRecorded turn.world.mutations := by
  rintro hrecorded
  obtain ⟨created, ticket, htickets, hmem, -⟩ := h.2.created_iff.mpr hrecorded
  have hnil : created = [] := List.append_right_eq_self.mp htickets.symm
  rw [hnil] at hmem
  cases hmem

variable (agent request) in
/-- **What a turn that returns leaves behind**, by who escalated, unless its transaction is lost. -/
theorem handle_evidence (turn : Turn Sandbox) {after : Turn Sandbox} {script : TurnScript}
    {response : SupportResponse}
    (hstores : Stores agent.repository request.customerId Sandbox.tables
      (Recording request.customerId turn.world.tables) TransactionLost)
    (hrecording : Recording request.customerId turn.world.tables turn.world)
    (hhandle : (agent.handle request script).run turn = .ok response after)
    (hopen : ¬ TransactionLost after.world) :
    Recording request.customerId turn.world.tables after.world ∧
      (EscalatedByPlanner script → response.outcome = .escalated ∧
        TicketCreated request.customerId turn.world.tables after.world.tables ∧
        after.spanNames = turn.spanNames ++
          ["support_agent.routing", "support_agent.escalation", "support_agent.turn"]) ∧
      (¬ EscalatedByPlanner script → TicketRecorded after.world.mutations →
        escalateSpan ∈ after.spanNames) := by
  rw [run_handle] at hhandle
  cases hact : (agent.act request script.routing script.answer).run turn.start with
  | error e acted =>
    rw [hact] at hhandle
    cases hhandle
  | ok result acted =>
    obtain ⟨response', grounded⟩ := result
    rw [hact] at hhandle
    simp only [EStateM.Result.ok.injEq] at hhandle
    obtain ⟨rfl, rfl⟩ := hhandle
    rw [world_finish, spanNames_finish]
    have hevidenced : Evidenced request.customerId turn.world.tables turn.start :=
      ⟨hrecording, fun hrecorded => absurd hrecorded (not_ticketRecorded_start hrecording)⟩
    have hfinished : Evidenced request.customerId turn.world.tables acted →
        TicketRecorded acted.world.mutations →
        escalateSpan ∈ acted.spanNames ++ ["support_agent.turn"] := fun h hrecorded =>
      List.mem_append_left _ (h.2 hrecorded)
    unfold EscalatedByPlanner
    -- only a routing can escalate by itself; without one the turn ends at once
    cases hrouting : script.routing with
    | none =>
      rw [hrouting] at hact
      cases hact
      refine ⟨hrecording, ?_, fun _ => hfinished hevidenced⟩
      rintro ⟨_, h, -⟩
      cases h
    | some routing =>
      rw [hrouting] at hact
      simp only [Option.some.injEq, exists_eq_left']
      cases hplan : (planTurn routing).action with
      | answer =>
        -- the tools run here, and `escalate` is the one that records a ticket
        simp only [PydanticAISupportAgent.act, hplan] at hact
        rw [world_finish] at hopen
        have hacted := ((answer_evidenced hstores routing script.answer).ok hevidenced
          hact).resolve_right hopen
        exact ⟨hacted.1, fun h => (by cases h), fun _ => hfinished hacted⟩
      | escalate =>
        simp only [PydanticAISupportAgent.act, hplan] at hact
        obtain ⟨response, before, hescalate, hpure⟩ := run_bind_eq_ok.mp hact
        cases hpure
        obtain ⟨houtcome, hafter, hcreated, hnames⟩ := (escalateTurn_triple hstores
          (planTurn routing).reasonCode turn.start hrecording).ok rfl hescalate
        refine ⟨hafter, fun _ => ⟨houtcome, hcreated, ?_⟩, fun h => absurd rfl h⟩
        rw [hnames]
        simp [Turn.spanNames, Turn.start]

end Turns

/-! ## What the evaluator reads -/

section Evaluator

variable [UnicodeTables] [FloatRepr]

omit [UnicodeTables] [FloatRepr] in
/-- The span of a tool names it. -/
theorem toolOfSpan_tool (tool : String) :
    toolOfSpan ("support_agent.tool." ++ tool) = some tool := by
  have hprefix : toolSpanPrefix.toList.isPrefixOf ("support_agent.tool." ++ tool).toList =
      true := by
    rw [String.toList_append]
    exact List.isPrefixOf_iff_prefix.mpr (List.prefix_append _ _)
  rw [toolOfSpan, if_pos hprefix, String.toList_append, toolSpanPrefix, ← String.length_toList,
    List.drop_left, String.ofList_toList]

/-- The tool calls of a run are the tools of its ended spans, in order. -/
theorem toolCalls_metricsOfSpans (spans : List TraceSpan) :
    (metricsOfSpans spans).toolCalls = (spans.map (·.name)).filterMap toolOfSpan := by
  have hfold : ∀ metrics : Metrics, (spans.foldl Metrics.onSpanEnded metrics).toolCalls =
      metrics.toolCalls ++ (spans.map (·.name)).filterMap toolOfSpan := by
    induction spans with
    | nil => exact fun metrics => (List.append_nil _).symm
    | cons span spans ih =>
      intro metrics
      rw [List.foldl_cons, ih, List.map_cons, List.filterMap_cons]
      unfold Metrics.onSpanEnded
      cases toolOfSpan span.name with
      | some tool => simp
      | none =>
        dsimp only
        split_ifs
        · rfl
        · split <;> rfl
        · split <;> rfl
        · rfl
  exact hfold {}

omit [FloatRepr] in
/-- When the escalation evaluator passes, for a bundle that expects an escalation. -/
theorem passed_checkEscalation_iff {bundle : SimulationBundle} {metrics : RunMetrics}
    {result : EvaluatorResult} (hexpected : bundle.expectedBehavior.outcome = .escalated)
    (hresult : checkEscalation bundle metrics = .ok result) :
    result.passed = true ↔
      "escalate" ∈ metrics.toolCalls ∧ TicketRecorded metrics.mutations := by
  have hany : (metrics.mutations.any (·.reasonCode = "ticket_created")) = true ↔
      TicketRecorded metrics.mutations := by
    simp [TicketRecorded, List.any_eq_true]
  have hfailed : ∀ {reason : String} {facts : Record},
      failResult "escalation" reason facts = .ok result → ¬ result.passed = true := by
    intro reason facts h
    rw [verdictResult_passed h]
    exact Bool.false_ne_true
  unfold checkEscalation at hresult
  dsimp only at hresult
  rw [← hany]
  by_cases hcalled : "escalate" ∈ metrics.toolCalls
  · rw [if_neg fun h => h.2 hcalled] at hresult
    by_cases hcreated : (metrics.mutations.any (·.reasonCode = "ticket_created")) = true
    · rw [if_neg fun h => h.2 hcreated] at hresult
      exact iff_of_true (verdictResult_passed hresult) ⟨hcalled, hcreated⟩
    · rw [if_pos ⟨hcalled, hcreated⟩] at hresult
      exact iff_of_false (hfailed hresult) fun h => hcreated h.2
  · rw [if_pos ⟨hexpected, hcalled⟩] at hresult
    exact iff_of_false (hfailed hresult) fun h => hcalled h.1

end Evaluator

/-! ## The run -/

section Run

/-- **The evaluator agrees with the rows**, about an escalation that is expected. -/
structure EscalationFaithful (response : SupportResponse) (created : Prop)
    (verdict : Option EvaluatorResult) : Prop where
  passes : response.outcome = .escalated → created → verdict.map (·.passed) = some true
  fails : ¬ created → verdict.map (·.passed) = some false

/-- The verdict on a turn that nothing aborted is from its evaluators. -/
theorem EscalationFaithful.of_passed_iff {response : SupportResponse} {created called : Prop}
    {result : EvaluatorResult} (hpassed : result.passed = true ↔ called ∧ created)
    (hcalled : created → called) : EscalationFaithful response created (some result) where
  passes _ hcreated := congrArg some (hpassed.mpr ⟨hcalled hcreated, hcreated⟩)
  fails hcreated := congrArg some (Bool.eq_false_iff.mpr fun h => hcreated (hpassed.mp h).2)

/-- **The evaluator is faithful to a turn exactly when the planner did not escalate.** -/
theorem escalationFaithful_turn_iff {customerId : Uuid} {before : SupportTables}
    {acted : Turn Sandbox} {script : TurnScript} {response : SupportResponse}
    {result : EvaluatorResult} (hrecording : Recording customerId before acted.world)
    (hplanned : EscalatedByPlanner script → response.outcome = .escalated ∧
      TicketCreated customerId before acted.world.tables ∧
      acted.spanNames = ["support_agent.routing", "support_agent.escalation", "support_agent.turn"])
    (hanswered : ¬ EscalatedByPlanner script → TicketRecorded acted.world.mutations →
      escalateSpan ∈ acted.spanNames)
    (hpassed : result.passed = true ↔ "escalate" ∈ acted.spanNames.filterMap toolOfSpan ∧
      TicketRecorded acted.world.mutations) :
    EscalationFaithful response (TicketCreated customerId before acted.world.tables)
        (some result) ↔ ¬ EscalatedByPlanner script := by
  have hcreated_iff : TicketCreated customerId before acted.world.tables ↔
      TicketRecorded acted.world.mutations := hrecording.2.created_iff
  rw [← hcreated_iff] at hpassed
  constructor
  · intro hfaithful hescalated
    obtain ⟨houtcome, hcreated, hnames⟩ := hplanned hescalated
    have hcalled := (hpassed.mp (Option.some.inj (hfaithful.passes houtcome hcreated))).1
    -- no span of the planner's escalation is the span of a tool
    have hnone : ["support_agent.routing", "support_agent.escalation",
        "support_agent.turn"].filterMap toolOfSpan = [] := by decide +kernel
    rw [hnames, hnone] at hcalled
    cases hcalled
  · intro hescalated
    refine .of_passed_iff hpassed fun hcreated => ?_
    exact List.mem_filterMap.mpr ⟨escalateSpan,
      hanswered hescalated (hcreated_iff.mp hcreated), toolOfSpan_tool "escalate"⟩

theorem classify_eq_response [ValidationTexts] {result : Except PyError SupportResponse}
    {response : SupportResponse} {aborted : Option RunVerdict}
    (h : classify result = .ok (some response, aborted)) :
    result = .ok response ∧ aborted = none := by
  cases result with
  | ok r =>
    cases h
    exact ⟨rfl, rfl⟩
  | error e =>
    unfold classify at h
    cases hverdict : abortVerdict e with
    | none => simp [hverdict] at h
    | some verdict => simp [hverdict] at h

variable [UnicodeTables] [FloatRepr] [HashFunctions] [ValidationTexts] [RandomIds] [Collation]

/-- **When the escalation evaluator is faithful.** In every run of a sandbox that ends with a
response, for every routing, every strategy of the model and every fault script, with a bundle that
expects an escalation: exactly when the planner does not escalate without the model. -/
theorem escalationFaithful_iff {bundle : SimulationBundle} {prepared : Prepared Sandbox}
    {world : Sandbox} {repository : SupportRepository (Action Sandbox)} {opened : Running Sandbox}
    (hprepared : prepareRun (fun request => .ok (postgresSandboxProvisioner request)) bundle =
      .ok prepared)
    (hopened : (openEnvironment prepared).run { world := world } = .ok repository opened)
    (hexpected : bundle.expectedBehavior.outcome = .escalated) {evaluators : List Evaluator}
    {index : ℕ} (hevaluator : evaluators[index]? = some ⟨"escalation", checkEscalation⟩)
    (toolsOverride : Option (List String)) (proposalIds : ℕ → Uuid) (script : TurnScript)
    (measured : RunMeasurements) (options : RunOptions) {run : SimulationRun}
    {after : Running Sandbox}
    (hrun : (runBundle (fun request => .ok (postgresSandboxProvisioner request))
      (supportAgents toolsOverride proposalIds script) evaluators measured options bundle).run
        { world := world } = .ok run after)
    {response : SupportResponse} (hresponse : run.response = some response) :
    EscalationFaithful response
        (TicketCreated bundle.scenario.request.customerId opened.world.tables
          (finalState (turnResult bundle
            (supportAgent toolsOverride proposalIds repository (instructionsVersion options bundle)
              |>.handle · script) opened)).world.tables)
        run.evaluators.results[index]? ↔
      ¬ EscalatedByPlanner script := by
  obtain ⟨hrepository, tables, htables, hworld⟩ := openEnvironment_sandbox hprepared hopened
  have hrecording : Recording bundle.scenario.request.customerId opened.world.tables
      opened.world := by
    rw [hworld]
    exact ⟨serving_of_seedTables htables, .new tables⟩
  obtain ⟨execution, captured, written, report, closed, hclassify, hspans, hstate, hmutations,
    hreport, -, rfl⟩ := (runBundle_returns_iff hprepared hopened rfl).mp ⟨after, hrun⟩
  obtain ⟨response', aborted, spans, state, mutations⟩ := execution
  cases hresponse
  obtain ⟨hturn, rfl⟩ := classify_eq_response hclassify
  rw [← Except.ok.inj (prepareRun_eq_ok hprepared).2] at hstate hmutations
  -- a run whose transaction is lost is not captured
  have hopen := open_of_finalState hstate
  obtain ⟨hafter, hplanned, hanswered⟩ := handle_evidence
    (supportAgent toolsOverride proposalIds repository (instructionsVersion options bundle))
    bundle.scenario.request.toSupportRequest { world := opened.world }
    (by
      rw [hrepository]
      exact sandbox_stores_recording _ _ _)
    hrecording (eq_ok_of_outcome hturn) fun hclosed => by cases hopen.symm.trans hclosed
  -- the run captured the sandbox as its turn left it
  obtain ⟨hstate', hmutations', -⟩ := run_closing ⟨prepared.scenario, bundle.faultScript⟩ hafter.1.1
  cases hstate.symm.trans hstate'
  cases hmutations.symm.trans hmutations'
  obtain ⟨results, hresults, hreported⟩ := bind_eq_ok.mp hreport
  cases hreported
  obtain ⟨result, hresult, hcheck⟩ := getElem?_of_mapM hresults hevaluator
  have hpassed := passed_checkEscalation_iff hexpected hcheck
  rw [metricsFor, toolCalls_metricsOfSpans, hspans] at hpassed
  change EscalationFaithful response _ results[index]? ↔ _
  rw [hresult]
  exact escalationFaithful_turn_iff hafter hplanned hanswered hpassed

end Run

/-! ### An escalation of the planner -/

section Planned

attribute [local instance] asciiTables oneDecimalRepr constantHashes constantIds codePointOrder
  plainTexts

/-- A bundle that expects an escalation. -/
def escalationBundle : SimulationBundle :=
  ({ smallBundle "phase2-03-escalate" "help" validMessage_help with
    expectedBehavior :=
      { outcome := .escalated
        reasonCodes := [.escalated]
        policyVersionLength := optionWithin_none } } : SimulationBundle).withIdentity

/-- A turn of the given intent, whose model creates a ticket and drafts an escalation. -/
def ticketTurn (intent : RouteIntent) : TurnScript where
  routing := some ⟨intent, none⟩
  answer := .calls (.escalate "help") fun _ => .draft ⟨.escalate⟩

def offlineOptions : RunOptions := ⟨⟨"openai", "offline", none, none⟩, none, none⟩

/-- A run of the bundle, with the escalation evaluator. -/
def escalationRun (script : TurnScript) :
    EStateM.Result RunFailure (Running Sandbox) SimulationRun :=
  (runBundle (fun request => .ok (postgresSandboxProvisioner request))
    (supportAgents none (fun _ => .repeated 3) script) [⟨"escalation", checkEscalation⟩]
    ⟨.ofRat 1, 0, none⟩ offlineOptions escalationBundle).run { world := Sandbox.begin .empty }

/-- The seeded rows of that run. -/
def escalationTables : SupportTables where
  customers := [.repeated 1]
  orders := []
  ordersUnique := List.nodup_nil
  ordersOwned _ hmem := absurd hmem List.not_mem_nil

/-- The turn of that run. -/
def escalationTurn (script : TurnScript) : EStateM.Result PyError (Turn Sandbox) SupportResponse :=
  turnResult escalationBundle (supportAgent none (fun _ => .repeated 3)
    ((observedRepository sqlAlchemySupportRepository).map Faulted.onInner)
    (instructionsVersion offlineOptions escalationBundle) |>.handle · script)
    { world := .seeded escalationTables }

/-- The model creates the ticket: the evaluator is faithful. -/
theorem escalationFaithful_iff_called :
    ∃ run after, escalationRun (ticketTurn .policy) = .ok run after ∧
      EscalationFaithful ⟨.escalate, .escalated, .escalated⟩
        (TicketCreated (.repeated 1) escalationTables
          (finalState (escalationTurn (ticketTurn .policy))).world.tables)
        run.evaluators.results[0]? := by
  have hresponse : (outcome (escalationRun (ticketTurn .policy))).toOption.bind (·.response) =
      some ⟨.escalate, .escalated, .escalated⟩ := by decide +kernel
  cases hrun : escalationRun (ticketTurn .policy) with
  | error failure after =>
    rw [hrun] at hresponse
    cases hresponse
  | ok run after =>
    rw [hrun] at hresponse
    have hplan : ¬ EscalatedByPlanner (ticketTurn .policy) := by
      rintro ⟨routing, hrouting, hplan⟩
      cases hrouting
      cases hplan
    have hevaluator : [(⟨"escalation", checkEscalation⟩ : Evaluator)][0]? = some _ := rfl
    have hfaithful := (escalationFaithful_iff rfl rfl rfl hevaluator none (fun _ => .repeated 3)
      (ticketTurn .policy) ⟨.ofRat 1, 0, none⟩ offlineOptions hrun hresponse).mpr hplan
    exact ⟨run, after, rfl, hfaithful⟩

/-- The planner creates the ticket: the evaluator fails all the same. -/
theorem escalationFaithful_missed :
    ∃ run after acted, escalationRun (ticketTurn .escalate) = .ok run after ∧
      escalationTurn (ticketTurn .escalate) = .ok ⟨.escalate, .escalated, .escalated⟩ acted ∧
      run.response = some ⟨.escalate, .escalated, .escalated⟩ ∧
      TicketCreated (.repeated 1) escalationTables acted.world.tables ∧
      run.evaluators.results[0]?.map (·.passed) = some false := by
  have hresponse : (outcome (escalationRun (ticketTurn .escalate))).toOption.map
      (fun run => (run.response, run.evaluators.results[0]?.map (·.passed))) =
      some (some ⟨.escalate, .escalated, .escalated⟩, some false) := by decide +kernel
  have hturn : escalationTurn (ticketTurn .escalate) = .ok ⟨.escalate, .escalated, .escalated⟩
      (finalState (escalationTurn (ticketTurn .escalate))) := eq_ok_of_outcome (by decide +kernel)
  cases hrun : escalationRun (ticketTurn .escalate) with
  | error failure after =>
    rw [hrun] at hresponse
    cases hresponse
  | ok run after =>
    rw [hrun] at hresponse
    have hboth := Prod.ext_iff.mp (Option.some.inj hresponse)
    exact ⟨run, after, _, rfl, hturn, hboth.1, ⟨_, _, rfl, List.mem_singleton_self _, rfl⟩, hboth.2⟩

end Planned

end ObservabilityLab
