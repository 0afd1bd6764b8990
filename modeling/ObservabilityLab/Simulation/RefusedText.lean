import ObservabilityLab.Agent.RefundAnswer

/-!
# Texts that the database refuses

The database stores no text with U+0000. A tool of the answer model that sends such a text raises,
which ends the run of the model, and the transaction of the turn is lost: every later statement on
it is refused. A fault script may raise before the text reaches the database.

## Main definitions

* `FaultScript.Refuses`: the database refuses a call behind a fault script
* `LosesIf`: a call of a turn loses the transaction exactly when its text is refused
* `Submits`: the model sends a text that the database refuses

## Main results

* `runTool_leaves`: whether a tool loses the transaction
* `runAnswer_leaves`: whether the run of a model loses the transaction
-/

namespace ObservabilityLab

open Python Raising

/-! ## Calls behind a fault script -/

section Script

variable [UnicodeTables] [FloatRepr]

namespace FaultScript

variable (script : FaultScript) (consumed : List ℕ)

/-- The script lets an escalation pass. -/
def Escalable (subject : String) : Prop :=
  script.nextError consumed "escalate" [("subject", .str subject)] = none

/-- The script lets the read of a policy pass. -/
def Readable (slug : String) : Prop :=
  script.nextError consumed "get_policy" [("slug", .str slug)] = none

/-- The database refuses a call behind the script: the script lets the call pass, and its text is
refused. -/
def Refuses (call : ToolCall) : Prop :=
  call.Refused ∧
    match call with
    | .getPolicy slug => script.Readable consumed slug
    | .escalate subject => script.Escalable consumed subject
    | _ => True

end FaultScript

variable {World : Type} {script : FaultScript} {consumed : List ℕ}

/-- **A call whose text may be refused, behind a fault script**: the database refuses it exactly
when the script lets it pass and its text is refused. -/
theorem faulted_leaves {α : Type} {P ready lost : World → Prop} {storable : Bool} {tool : String}
    {arguments : List (String × PyValue)} {x : Action World α}
    (hready : ∀ world, P world → ready world)
    (h : Triple P x (fun _ world => storable = true ∧ ready world)
      fun e world => storable = false ∧ e = invalidText ∧ lost world) {refused : Prop}
    (hrefused : refused ↔ storable = false ∧ script.nextError consumed tool arguments = none) :
    Triple (fun world : Faulted World => P world.inner ∧ world.consumed = consumed)
      (do maybeFault script tool arguments; Faulted.onInner x)
      (fun _ world => ready world.inner ∧ ¬ refused)
      fun e world => ready world.inner ∧ ¬ refused ∨
        e = invalidText ∧ lost world.inner ∧ refused := by
  refine triple_bind (triple_mono (maybeFault_triple script tool arguments consumed)
    (fun _ h => h) (fun _ _ h => h) fun e world hfault => ?_) fun _ => triple_of_eq ?_
  · -- the script raises before the text reaches the database
    refine Or.inl ⟨hready _ hfault.2.1, fun hpass => ?_⟩
    rw [hrefused, hfault.1] at hpass
    cases hpass.2
  · -- the script lets the call pass, so the text decides
    rintro world ⟨hpass, hP, hconsumed⟩
    refine triple_mono (faulted_onInner_triple h _) (by rintro _ rfl; exact ⟨hP, hconsumed⟩) ?_ ?_
    · rintro _ _ ⟨⟨hstorable, hafter⟩, -⟩
      refine ⟨hafter, fun hpass => ?_⟩
      rw [hrefused, hstorable] at hpass
      cases hpass.1
    · rintro e _ ⟨⟨hstorable, he, hlost⟩, -⟩
      exact Or.inr ⟨he, hlost, hrefused.mpr ⟨hstorable, hpass⟩⟩

end Script

/-! ## Tools -/

section Tools

variable {World : Type} {tables : World → SupportTables} {ready lost : World → Prop}
  {consumed : List ℕ} {service : SupportAgentService (Faulted World)}

/-- A turn on a ready world, with the given consumed entries. -/
def ReadyWith (ready : World → Prop) (consumed : List ℕ) (turn : Turn (Faulted World)) : Prop :=
  ready turn.world.inner ∧ turn.world.consumed = consumed

/-- A turn whose world stayed ready: the database did not refuse its call. -/
def StaysReady (ready : World → Prop) (refused : Prop) (turn : Turn (Faulted World)) : Prop :=
  ready turn.world.inner ∧ ¬ refused

/-- A turn whose transaction is lost: the database refused its call. -/
def LostBy (lost : World → Prop) (refused : Prop) (turn : Turn (Faulted World)) : Prop :=
  lost turn.world.inner ∧ refused

/-- **A call loses the transaction exactly if** its text is refused: otherwise it leaves the turn
ready, whether it returns or raises. -/
def LosesIf (ready lost : World → Prop) (consumed : List ℕ) (refused : Prop) {α : Type}
    (x : Action (Turn (Faulted World)) α) : Prop :=
  Triple (ReadyWith ready consumed) x (fun _ => StaysReady ready refused)
    fun e turn => StaysReady ready refused turn ∨ Refused (LostBy lost refused) e turn

theorem staysReady_logStable (refused : Prop) :
    LogStable fun turn : Turn (Faulted World) => StaysReady ready refused turn :=
  ⟨fun _ _ _ h => h, fun _ _ h => h, fun _ _ h => h⟩

/-- What a call does to the world, it does to the world of a turn. -/
theorem onWorld_leaves {α : Type} {refused : Prop} {x : Action (Faulted World) α}
    (h : ∀ rows, Triple (fun world : Faulted World => Holds tables ready rows world.inner ∧
      world.consumed = consumed) x (fun _ world => ready world.inner ∧ ¬ refused)
      fun e world => ready world.inner ∧ ¬ refused ∨
        e = invalidText ∧ lost world.inner ∧ refused) :
    LosesIf ready lost consumed refused (onWorld x) :=
  triple_zoom fun turn hP => triple_mono (h (tables turn.world.inner))
    (by rintro _ rfl; exact ⟨⟨rfl, hP.1⟩, hP.2⟩) (fun _ _ hQ => hQ) fun _ _ hE => hE

variable [UnicodeTables] [FloatRepr] {script : FaultScript}
  {boundary : SupportRepository (Action World)}

variable (consumed service) in
/-- **When the database refuses an escalation.** -/
theorem escalate_leaves (hserves : Serves boundary service.customerId tables ready lost)
    (hrepository : service.repository = faultInjectingRepository script boundary)
    (subject : String) :
    LosesIf ready lost consumed (script.Refuses consumed (.escalate subject))
      (service.escalate subject) := by
  refine span_triple (fun _ _ _ h => h) (fun _ _ _ _ h => h) (fun _ _ _ _ h => h) ?_
  by_cases hsubject : lengthWithin 1 300 subject = true
  · have hrefuses : script.Refuses consumed (.escalate subject) ↔
        isStorableText subject = false ∧ script.Escalable consumed subject :=
      ⟨fun h => ⟨h.1.2, h.2⟩, fun h => ⟨⟨hsubject, h.1⟩, h.2⟩⟩
    have hcreate : LosesIf ready lost consumed (script.Refuses consumed (.escalate subject))
        (onWorld (createTicket service.repository
          { actorId := service.customerId, subject := subject, validSubject := hsubject })) := by
      rw [hrepository]
      exact onWorld_leaves fun rows => faulted_leaves (fun _ h => h.2)
        (triple_mono (hserves.createTicket _ rows rfl rfl) (fun _ h => h)
          (fun _ _ h => ⟨h.1, h.2.2.2⟩) fun _ _ h => h) hrefuses
    simp only [CreateTicketCommand.new, dif_pos hsubject]
    refine triple_bind (triple_pure (Q := fun command turn =>
      command = { actorId := service.customerId, subject := subject, validSubject := hsubject } ∧
        ReadyWith ready consumed turn) fun _ h => ⟨rfl, h⟩) fun command => triple_of_eq ?_
    rintro turn ⟨hcommand, hturn⟩
    rw [hcommand]
    refine triple_bind (triple_mono hcreate (by rintro _ rfl; exact hturn) (fun _ _ h => h)
      fun _ _ h => h) fun ticket => ?_
    exact triple_bind (triple_modify fun _ h => h) fun _ => triple_pure fun _ h => h
  · -- a command with a subject of another length is refused before the database sees it
    simp only [CreateTicketCommand.new, dif_neg hsubject]
    exact triple_bind (triple_throw (Q := fun _ _ => False) fun _ h =>
      Or.inl ⟨h.1, fun hrefuses => hsubject hrefuses.1.1⟩) fun _ => triple_false

variable (service) in
/-- **When the database refuses the read of a policy.** -/
theorem getPolicy_leaves (hserves : Serves boundary service.customerId tables ready lost)
    (hrepository : service.repository = faultInjectingRepository script boundary) (slug : String) :
    LosesIf ready lost consumed (script.Refuses consumed (.getPolicy slug))
      (service.getPolicy slug) := by
  have hread : LosesIf ready lost consumed (script.Refuses consumed (.getPolicy slug))
      (SupportAgentService.databaseCall (getLatestPolicy service.repository slug)) := by
    rw [hrepository]
    refine span_triple (fun _ _ _ h => h) (fun _ _ _ _ h => h) (fun _ _ _ _ h => h) ?_
    refine onWorld_leaves fun rows => triple_bind (faulted_leaves (fun _ h => h.2)
      (triple_mono (hserves.getPolicy slug none rows) (fun _ h => h) (fun _ _ h => ⟨h.1, h.2.2⟩)
        fun _ _ h => h) ?_) fun found => ?_
    · -- the latest version is read, so the slug is the only text of the query
      rw [isStorableQuery_latest]
      exact Iff.rfl
    · cases found with
      | none => exact triple_throw fun _ h => Or.inl h
      | some policy => exact triple_pure fun _ h => h
  refine span_triple (fun _ _ _ h => h) (fun _ _ _ _ h => h) (fun _ _ _ _ h => h) ?_
  refine triple_bind hread fun policy => ?_
  refine triple_bind (setAttribute_triple fun _ _ _ h => h) fun _ => ?_
  exact triple_bind (triple_modify fun _ h => h) fun _ => triple_pure fun _ h => h

omit [UnicodeTables] [FloatRepr] in
/-- A tool that sends no text keeps its world ready. -/
theorem readyWith_passes {α : Type} {x : Action (Turn (Faulted World)) α} {refused : Prop}
    (hrefused : ¬ refused) {Q : SupportTables → ServiceState → α → Turn (Faulted World) → Prop}
    {E : SupportTables → ServiceState → PyError → Turn (Faulted World) → Prop}
    (hx : ∀ rows state, Triple (At (fun world : Faulted World => tables world.inner)
      (fun world => ready world.inner) rows state) x (Q rows state) (E rows state))
    (hQ : ∀ rows state a turn, Q rows state a turn → ready turn.world.inner)
    (hE : ∀ rows state e turn, E rows state e turn → ready turn.world.inner) :
    LosesIf ready lost consumed refused x :=
  triple_of_eq fun turn hturn => triple_mono (hx (tables turn.world.inner) turn.service)
    (by rintro _ rfl; exact ⟨⟨rfl, hturn.1⟩, rfl⟩) (fun _ _ h => ⟨hQ _ _ _ _ h, hrefused⟩)
    fun _ _ h => Or.inl ⟨hE _ _ _ _ h, hrefused⟩

/-- The call that a tool function makes: it shortens the subject of an escalation. -/
def ToolCall.sent : ToolCall → ToolCall
  | .escalate subject => .escalate (String.ofList (subject.toList.take 200))
  | call => call

/-- **Whether a tool loses the transaction**: exactly when the database refuses its call. -/
theorem runTool_leaves (hserves : Serves boundary service.customerId tables ready lost)
    (hrepository : service.repository = faultInjectingRepository script boundary)
    (call : ToolCall) :
    LosesIf ready lost consumed (script.Refuses consumed call.sent) (runTool service call) := by
  have hstores : Stores service.repository service.customerId
      (fun world : Faulted World => tables world.inner) (fun world => ready world.inner)
      fun world => lost world.inner := by
    rw [hrepository]
    exact faultInjectingRepository_stores script hserves.stores
  have hstable : Stable (fun turn : Turn (Faulted World) => ReadyWith ready consumed turn) :=
    fun _ _ _ h => h
  cases call with
  | getOrderStatus orderId =>
    exact (staysReady_logStable _).toolFunction hstable (fun _ _ _ h => h) rfl
      (readyWith_passes (fun h => h.1) (getOrderStatus_triple hstores orderId)
        (fun _ _ _ _ h => h.2.2.1.2) fun _ _ _ _ h => h.1.2)
  | getPolicy slug =>
    exact (staysReady_logStable _).toolFunction hstable (fun _ _ _ h => h) rfl
      (getPolicy_leaves service hserves hrepository slug)
  | proposeRefund orderId =>
    refine (staysReady_logStable _).toolFunction hstable (fun _ _ _ h => h) rfl
      (readyWith_passes (fun h => h.1) (proposeRefund_triple hstores orderId) ?_ ?_)
    · rintro _ _ _ _ ⟨order, -, -, -, hat⟩
      exact hat.1.2
    · rintro _ _ _ _ ⟨lastOrder, reason, -, hat⟩
      exact hat.1.2
  | confirmRefund orderId =>
    refine (staysReady_logStable _).toolFunction hstable (fun _ _ _ h => h) rfl
      (readyWith_passes (fun h => h.1) (confirmRefund_triple hstores orderId) ?_ ?_)
    · rintro _ _ _ _ ⟨-, -, -, hat⟩
      exact hat.1.2
    · rintro _ _ _ _ ⟨reason, -, hat⟩
      exact hat.1.2
  | escalate subject =>
    exact (staysReady_logStable _).toolFunction hstable (fun _ _ _ h => h) rfl
      (escalate_leaves consumed service hserves hrepository _)

/-! ## The run of a model -/

/-- **The model sends a text that the database refuses**, at some call of its run. -/
def Submits (script : FaultScript) (service : SupportAgentService (Faulted World))
    (tools : List String) : AnswerModel → Turn (Faulted World) → Prop
  | .draft _, _ => False
  | .fails _ _, _ => False
  | .calls call next, turn =>
    call.name ∈ tools ∧ script.Refuses turn.world.consumed call.sent ∨
      ∃ reply after, (answerCall service tools call).run turn = .ok reply after ∧
        Submits script service tools (next reply) after

variable (consumed) in
/-- A call of the model loses the transaction exactly when the tool is registered and the database
refuses its call. -/
theorem answerCall_leaves (hserves : Serves boundary service.customerId tables ready lost)
    (hrepository : service.repository = faultInjectingRepository script boundary)
    (tools : List String) (call : ToolCall) :
    LosesIf ready lost consumed (call.name ∈ tools ∧ script.Refuses consumed call.sent)
      (answerCall service tools call) := by
  unfold answerCall
  split
  · rename_i hknown
    have hrefused : script.Refuses consumed call.sent ↔
        call.name ∈ tools ∧ script.Refuses consumed call.sent := (and_iff_right hknown).symm
    rw [← hrefused]
    exact runTool_leaves hserves hrepository call
  · -- a tool that the agent did not register is answered without a call
    rename_i hunknown
    exact triple_pure fun _ h => ⟨h.1, fun hrefused => hunknown hrefused.1⟩

variable (service) in
/-- **Whether the run of a model loses the transaction**, by induction on its strategy: exactly when
it sends a text that the database refuses. -/
theorem runAnswer_leaves (hserves : Serves boundary service.customerId tables ready lost)
    (hrepository : service.repository = faultInjectingRepository script boundary)
    (tools : List String) (model : AnswerModel) (turn : Turn (Faulted World))
    (hready : ready turn.world.inner) :
    Triple (· = turn) (runAnswer service tools model)
      (fun _ => StaysReady ready (Submits script service tools model turn))
      fun _ after => StaysReady ready (Submits script service tools model turn) after ∨
        LostBy lost (Submits script service tools model turn) after := by
  induction model generalizing turn with
  | draft draft =>
    refine triple_pure ?_
    rintro _ rfl
    exact ⟨hready, id⟩
  | fails name message =>
    refine triple_throw ?_
    rintro _ rfl
    exact Or.inl ⟨hready, id⟩
  | calls call next ih =>
    have hcall := answerCall_leaves turn.world.consumed hserves hrepository tools call
    intro start hstart
    rw [hstart, runAnswer, EStateM.run_bind]
    cases hrun : (answerCall service tools call).run turn with
    | ok reply after =>
      -- the call passed, so the model sends a refused text exactly when it goes on to
      obtain ⟨hafter, hpassed⟩ := hcall.ok ⟨hready, rfl⟩ hrun
      have hsubmits : Submits script service tools (.calls call next) turn ↔
          Submits script service tools (next reply) after := by
        constructor
        · rintro (hrefused | ⟨reply', after', hrun', hsubmits⟩)
          · exact absurd hrefused hpassed
          · rw [hrun] at hrun'
            cases hrun'
            exact hsubmits
        · exact fun hsubmits => Or.inr ⟨reply, after, hrun, hsubmits⟩
      simp only [hsubmits]
      exact ih reply after hafter after rfl
    | error e after =>
      -- the call raised, so the model does not go on
      have hsubmits : Submits script service tools (.calls call next) turn ↔
          call.name ∈ tools ∧ script.Refuses turn.world.consumed call.sent := by
        refine or_iff_left ?_
        rintro ⟨reply', after', hrun', -⟩
        rw [hrun] at hrun'
        cases hrun'
      simp only [hsubmits]
      exact (hcall.error ⟨hready, rfl⟩ hrun).imp id And.right

end Tools

end ObservabilityLab
