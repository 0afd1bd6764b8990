import ObservabilityLab.Workflow.Ownership

/-!
# The run that starts a workflow

Whatever the dependencies do, the run that starts a workflow never comes to the executor, because
nothing is confirmed before the workflow is resumed.

## Main definitions

* `Returning`: a property of what a call returns
* `SupportState.Kept`: what the nodes leave as it was
* `Runs`: what a call knows of a workflow that it runs

## Main results

* `along_runNode`: what the nodes call without a resume command
* `proves_runGraph_own`: the run keeps what holds in every run of the service
* `proves_start`: a start keeps it
-/

namespace ObservabilityLab.Workflow

open Python Interleaving RelyGuarantee Histories

/-- What a call returns has a property. -/
def Returning {α : Type} (P : α → Prop) (result : Except PyError α) : Prop :=
  ∀ a, result = .ok a → P a

theorem returning_error {α : Type} {P : α → Prop} {e : PyError} :
    Returning P (.error e : Except PyError α) := fun _ h => by cases h

theorem returning_ok {α : Type} {P : α → Prop} {a : α} (h : P a) :
    Returning P (.ok a : Except PyError α) := by
  rintro _ ⟨⟩
  exact h

theorem Returning.mono {α : Type} {P Q : α → Prop} {result : Except PyError α}
    (h : Returning P result) (hQ : ∀ a, P a → Q a) : Returning Q result :=
  fun a ha => hQ a (h a ha)

theorem Returning.bind {α β : Type} {P : α → Prop} {Q : β → Prop} {x : Except PyError α}
    {f : α → Except PyError β} (hx : Returning P x) (hf : ∀ a, P a → Returning Q (f a)) :
    Returning Q (x >>= f) := by
  cases x with
  | ok a => exact hf a (hx a rfl)
  | error e => exact returning_error

/-- A first step about which nothing needs to be known. -/
theorem Returning.of_bind {α β : Type} {Q : β → Prop} {x : Except PyError α}
    {f : α → Except PyError β} (hf : ∀ a, Returning Q (f a)) : Returning Q (x >>= f) :=
  Returning.bind (P := fun _ => True) (fun _ _ => trivial) fun a _ => hf a

/-! ## What the nodes leave as it was -/

namespace SupportState

/-- The request, the proposal and the confirmation are unchanged. -/
structure Kept (state state' : SupportState) : Prop where
  request : state'.request = state.request
  proposedAction : state'.proposedAction = state.proposedAction
  confirmation : state'.confirmation = state.confirmation

/-- The refund was confirmed. -/
def Confirmed (state : SupportState) : Prop :=
  ∃ confirmation, state.confirmation = some confirmation ∧ confirmation.decision = .confirm

theorem Kept.confirmed_iff {state state' : SupportState} (h : state.Kept state') :
    state'.Confirmed ↔ state.Confirmed := by
  unfold Confirmed
  rw [h.confirmation]

end SupportState

section Deltas

variable [ValidationTexts] {state : SupportState}

theorem kept_escalationDelta {reason : EscalationReason} {error : Option PyError} :
    Returning state.Kept (escalationDelta state reason error) := by
  cases error with
  | none => exact returning_ok ⟨rfl, rfl, rfl⟩
  | some error =>
    unfold escalationDelta
    exact Returning.of_bind fun _ => returning_ok ⟨rfl, rfl, rfl⟩

theorem kept_escalated {node : Node} {reason : EscalationReason} {error : PyError} :
    Returning state.Kept (escalated state node reason error) :=
  kept_escalationDelta.bind fun _ h =>
    returning_ok ⟨h.request, h.proposedAction, h.confirmation⟩

theorem kept_recover {node : Node} {attempt : ℕ} {transient refusal : PyError → Bool}
    {exhausted denied : EscalationReason} {error : PyError} :
    Returning state.Kept
      (recover state node attempt transient refusal exhausted denied error) := by
  unfold recover
  split
  · split
    · exact returning_error
    · exact kept_escalated
  · split
    · exact kept_escalated
    · exact returning_error

theorem kept_routeDelta {attempt : ℕ} {answer : Except PyError RoutingDecision} :
    Returning state.Kept (routeDelta state attempt answer) := by
  cases answer with
  | ok route => exact returning_ok ⟨rfl, rfl, rfl⟩
  | error error => exact kept_recover

theorem kept_orderDelta {attempt : ℕ} {answer : Except PyError OrderRead} :
    Returning state.Kept (orderDelta state attempt answer) := by
  cases answer with
  | ok order => exact returning_ok ⟨rfl, rfl, rfl⟩
  | error error => exact kept_recover

theorem kept_policyDelta {attempt : ℕ} {answer : Except PyError PolicyDocumentRead} :
    Returning state.Kept (policyDelta state attempt answer) := by
  cases answer with
  | ok policy => exact returning_ok ⟨rfl, rfl, rfl⟩
  | error error => exact kept_recover

theorem kept_responseDelta {route : RoutingDecision} {attempt : ℕ}
    {answer : Except PyError String} :
    Returning state.Kept (responseDelta state route attempt answer) := by
  cases answer with
  | ok message => exact Returning.of_bind fun _ => returning_ok ⟨rfl, rfl, rfl⟩
  | error error => exact kept_recover

theorem kept_executionDelta {answer : Except PyError OrderRead} :
    Returning state.Kept (executionDelta state answer) := by
  cases answer with
  | ok order =>
    exact Returning.of_bind fun _ => Returning.of_bind fun _ => returning_ok ⟨rfl, rfl, rfl⟩
  | error error =>
    unfold executionDelta
    dsimp only
    split
    · exact kept_escalated
    · exact returning_error

omit [ValidationTexts] in
theorem kept_ticketDelta {reason : EscalationReason} {answer : Except PyError TicketRead} :
    Returning state.Kept (ticketDelta state reason answer) := by
  cases answer with
  | ok ticket => exact Returning.of_bind fun _ => returning_ok ⟨rfl, rfl, rfl⟩
  | error error => exact returning_error

omit [ValidationTexts] in
theorem kept_rejectionDelta {route : RoutingDecision} :
    Returning state.Kept (rejectionDelta state route) :=
  Returning.of_bind fun _ => returning_ok ⟨rfl, rfl, rfl⟩

/-- A proposal keeps the request, and confirms nothing. -/
theorem proposalDelta_unconfirmed {answer : Except PyError ProposedAction}
    (h : ¬ state.Confirmed) :
    Returning (fun state' => state'.request = state.request ∧ ¬ state'.Confirmed)
      (proposalDelta state answer) := by
  cases answer with
  | ok proposal =>
    refine returning_ok ⟨rfl, ?_⟩
    rintro ⟨confirmation, hconfirmation, hconfirm⟩
    rw [← Option.some.inj hconfirmation] at hconfirm
    cases hconfirm
  | error error =>
    unfold proposalDelta
    dsimp only
    split
    · exact kept_escalated.mono fun _ hkept =>
        ⟨hkept.request, fun hconfirmed => h (hkept.confirmed_iff.mp hconfirmed)⟩
    · exact returning_error

end Deltas

/-! ## What the nodes call -/

/-- A call that is allowed. -/
theorem along_invoke {allowed : Op → Prop} {op : Op} (h : allowed op) :
    (invoke op).Along allowed fun _ => True :=
  ⟨h, fun _ => trivial⟩

theorem along_ask {thread : String} {call : Dependency}
    (h : (Op.dependency thread call).Quiet) :
    (ask thread call).Along Op.Quiet fun _ => True :=
  ⟨h, fun _ => trivial⟩

/-- A sequence after a program about which nothing needs to be known. -/
theorem along_then {α β : Type} {allowed : Op → Prop} {P : β → Prop} {x : Flow α}
    {f : α → Flow β} (hx : x.Along allowed fun _ => True)
    (hf : ∀ a, (f a).Along allowed (Returning P)) : (x >>= f).Along allowed (Returning P) :=
  Program.along_bind hx (fun a _ => hf a) fun _ _ => returning_error

/-- A program that ends. -/
theorem along_done {α : Type} {allowed : Op → Prop} {P : α → Prop} {result : Except PyError α}
    (h : Returning P result) : (Program.done result : Flow α).Along allowed (Returning P) := h

section Nodes

variable [ValidationTexts] {thread : String} {state : SupportState}

theorem along_routeNode :
    (routeNode thread state).Along Op.Quiet (Returning state.Kept) :=
  along_then (along_invoke trivial) fun _ =>
    along_then (along_ask trivial) fun _ => along_done kept_routeDelta

theorem along_orderNode :
    (orderNode thread state).Along Op.Quiet (Returning state.Kept) := by
  refine along_then (x := .done state.requireRoute) trivial fun route => ?_
  cases route.orderId with
  | none => exact along_done kept_escalationDelta
  | some orderId =>
    exact along_then (along_invoke trivial) fun _ =>
      along_then (along_ask trivial) fun _ => along_done kept_orderDelta

theorem along_policyNode :
    (policyNode thread state).Along Op.Quiet (Returning state.Kept) := by
  refine along_then (x := .done state.requireRoute) trivial fun route => ?_
  cases route.policySlug with
  | none => exact along_done kept_escalationDelta
  | some slug =>
    exact along_then (along_invoke trivial) fun _ =>
      along_then (along_ask trivial) fun _ => along_done kept_policyDelta

theorem along_proposalNode (h : ¬ state.Confirmed) :
    (proposalNode thread state).Along Op.Quiet
      (Returning fun state' => state'.request = state.request ∧ ¬ state'.Confirmed) := by
  unfold proposalNode
  cases state.evidence.order with
  | none =>
    exact along_done (kept_escalationDelta.mono fun _ hkept =>
      ⟨hkept.request, fun hconfirmed => h (hkept.confirmed_iff.mp hconfirmed)⟩)
  | some order =>
    exact along_then (along_ask trivial) fun _ => along_done (proposalDelta_unconfirmed h)

theorem along_responseNode :
    (responseNode thread state).Along Op.Quiet (Returning state.Kept) :=
  along_then (x := .done state.requireRoute) trivial fun _ =>
    along_then (along_invoke trivial) fun _ =>
      along_then (along_ask trivial) fun _ => along_done kept_responseDelta

omit [ValidationTexts] in
theorem along_escalationNode :
    (escalationNode thread state).Along Op.Quiet (Returning state.Kept) :=
  along_then (along_ask trivial) fun _ => along_done kept_ticketDelta

omit [ValidationTexts] in
theorem along_rejectionNode :
    (rejectionNode state).Along Op.Quiet (Returning state.Kept) :=
  along_then (x := .done state.requireRoute) trivial fun _ => along_done kept_rejectionDelta

/-- What a node of a run without a resume command comes to. -/
def NodeResult.Unconfirmed (node : Node) (state : SupportState) : NodeResult → Prop
  | .update state' => state'.request = state.request ∧ ¬ state'.Confirmed
  | .interrupt => node = .confirmation ∧ state.proposedAction.isSome = true

omit [ValidationTexts] in
/-- The update of a node that keeps what is confirmed. -/
theorem along_update {node : Node} {x : Flow SupportState} (h : ¬ state.Confirmed)
    (hx : x.Along Op.Quiet (Returning state.Kept)) :
    (do return NodeResult.update (← x) : Flow NodeResult).Along Op.Quiet
      (Returning (NodeResult.Unconfirmed node state)) := by
  refine Program.along_bind hx (fun state' hkept => along_done (returning_ok ?_))
    fun _ _ => returning_error
  have hkept := hkept state' rfl
  exact ⟨hkept.request, fun hconfirmed => h (hkept.confirmed_iff.mp hconfirmed)⟩

/-- **Without a resume command** every node but the executor confirms nothing and runs no
executor. -/
theorem along_runNode {node : Node} (hnode : node ≠ .executeRefund) (h : ¬ state.Confirmed) :
    (runNode thread none node state).Along Op.Quiet
      (Returning (NodeResult.Unconfirmed node state)) := by
  cases node with
  | route => exact along_update h along_routeNode
  | retrieveOrder => exact along_update h along_orderNode
  | retrievePolicy => exact along_update h along_policyNode
  | proposeRefund =>
    exact Program.along_bind (along_proposalNode h)
      (fun state' hstate => along_done (returning_ok (hstate state' rfl)))
      fun _ _ => returning_error
  | confirmation =>
    unfold runNode confirmationNode
    dsimp only
    cases hproposal : state.proposedAction with
    | none => exact along_update h (along_done kept_escalationDelta)
    | some proposal => exact along_done (returning_ok ⟨rfl, by rw [hproposal]; rfl⟩)
  | executeRefund => exact absurd rfl hnode
  | reject => exact along_update h along_rejectionNode
  | respond => exact along_update h along_responseNode
  | escalate => exact along_update h along_escalationNode

/-- What every attempt of a node comes to, the node does. -/
theorem along_runTask {resume : Option ResumeDecision} {node : Node} {P : NodeResult → Prop}
    (h : (runNode thread resume node state).Along Op.Quiet (Returning P)) :
    (runTask thread resume node state).Along Op.Quiet (Returning P) := by
  unfold runTask
  generalize (if node.retries then maxNodeAttempts - 1 else 0) = more
  induction more with
  | zero => exact along_then (along_invoke trivial) fun _ => h
  | succ more ih =>
    refine along_then (along_invoke trivial) fun _ => ?_
    refine Program.along_bind (R := Returning (Returning P))
      (Program.along_caught h fun _ hresult => returning_ok hresult) (fun result hresult => ?_)
      fun _ _ => returning_error
    cases result with
    | ok a => exact along_done (hresult _ rfl)
    | error error =>
      dsimp only
      split
      · exact ih
      · exact along_done returning_error

end Nodes

/-- Without a confirmation no edge leads to the executor. -/
theorem afterNode_ne_executeRefund {state : SupportState} (node : Node) (h : ¬ state.Confirmed) :
    Returning (· ≠ some .executeRefund) (afterNode state node) := by
  have hroute : Returning (· ≠ some .executeRefund) (afterRoute state) := by
    unfold afterRoute
    split
    · exact returning_ok nofun
    · refine Returning.of_bind fun route => ?_
      cases route.intent with
      | _ => exact returning_ok nofun
  have hevidence : Returning (· ≠ some .executeRefund) (afterEvidence state) := by
    unfold afterEvidence
    split
    · exact returning_ok nofun
    · refine Returning.of_bind fun route => ?_
      split
      · refine returning_ok fun hnext => ?_
        split at hnext
        · cases hnext
        · cases hnext
      · exact returning_ok nofun
  cases node with
  | route => exact hroute
  | retrieveOrder => exact hevidence
  | retrievePolicy => exact hevidence
  | proposeRefund =>
    refine returning_ok fun hnext => ?_
    split at hnext
    · cases hnext
    · cases hnext
  | confirmation =>
    unfold afterNode afterConfirmation
    cases hconfirmation : state.confirmation with
    | none => exact returning_ok nofun
    | some confirmation =>
      refine returning_ok fun hnext => ?_
      split at hnext
      -- the one edge to the executor needs a decision that confirms
      · rename_i hconfirm
        exact h ⟨confirmation, hconfirmation, hconfirm⟩
      · cases hnext
  | executeRefund =>
    refine returning_ok fun hnext => ?_
    split at hnext
    · cases hnext
    · cases hnext
  | reject => exact returning_ok nofun
  | respond =>
    refine returning_ok fun hnext => ?_
    split at hnext
    · cases hnext
    · cases hnext
  | escalate => exact returning_ok nofun

/-! ## The run that starts a workflow -/

variable {World Id : Type} {env : Environment World} {calls : Id → ServiceCall} {i : Id}
  {w : String}

theorem stable_safe : (conduct env calls i).Stable (Safe calls) :=
  fun _ _ hrely h => Rely.safe hrely h

variable (calls i w) in
/-- A call runs a workflow that it started. -/
def Runs (request : WorkflowRequest) (s : Shared World Id) : Prop :=
  Owns calls i w s ∧ Starts calls s.history i w request

theorem stable_runs {request : WorkflowRequest} :
    (conduct env calls i).Stable (Runs calls i w request) :=
  fun _ _ hrely h => ⟨h.1.of_rely hrely, h.2.mono (Rely.grows hrely)⟩

/-- A quiet call keeps what its caller knows of a workflow that it runs. -/
theorem Runs.quiet {request : WorkflowRequest} {s s' : Shared World Id} {op : Op}
    {answer : Except PyError op.Answer} (h : Runs calls i w request s)
    (hperforms : Performs env i s op answer s') (hquiet : op.Quiet) :
    Runs calls i w request s' := by
  have hguarantee : Guarantee calls i s s' := hperforms.guarantee hquiet
  exact ⟨h.1.quiet hperforms hquiet, h.2.mono hguarantee.grows⟩

/-- A fact that does not depend on the state. -/
theorem proves_of_fact {α : Type} {φ : Prop} {P : Shared World Id → Prop} {x : Flow α}
    {Q : Except PyError α → Shared World Id → Prop}
    (h : φ → (conduct env calls i).Proves P x Q) :
    (conduct env calls i).Proves (fun s => P s ∧ φ) x Q :=
  fun s hs => h hs.2 s hs.1

/-- A program of quiet calls. -/
theorem proves_safe_of_along {α : Type} {x : Flow α} (hx : x.Along Op.Quiet fun _ => True) :
    (conduct env calls i).Proves (Safe calls) x fun _ s => Safe calls s :=
  Conduct.proves_mono (Conduct.proves_of_along hx stable_safe
      fun _ _ _ _ hquiet hs hperforms =>
        ⟨Performs.guarantee hperforms hquiet, (Performs.guarantee hperforms hquiet).safe hs⟩)
    (fun _ hs => hs) fun _ _ hs => hs.1

/-- A checkpoint of a workflow that its caller started. -/
theorem proves_put {request : WorkflowRequest} {completed : Option Node}
    {checkpoint : Checkpoint} {P : Shared World Id → Prop}
    (hstable : (conduct env calls i).Stable P)
    (hP : ∀ s, P s → Owns calls i w s ∧
      Starts calls (s.stored i w completed checkpoint).history i w request)
    (hrequest : checkpoint.values.request = request)
    (hinterrupted : checkpoint.interrupted = true →
      checkpoint.next = some .confirmation ∧ checkpoint.values.proposedAction.isSome = true) :
    (conduct env calls i).Proves P (invoke (.put w completed checkpoint))
      fun _ s => Safe calls s ∧ (checkpoint.interrupted = false → Runs calls i w request s) := by
  refine Conduct.proves_perform hstable ?_ fun _ s s' hrely h =>
    ⟨stable_safe s s' hrely h.1, fun hrunning => stable_runs s s' hrely (h.2 hrunning)⟩
  intro s answer s' hs hperforms
  obtain ⟨howns, hstarts⟩ := hP s hs
  cases hperforms with
  | put =>
    obtain ⟨hguarantee, hsafe, howns⟩ := howns.put (by rwa [hrequest]) hinterrupted
    exact ⟨hguarantee, hsafe, fun hrunning => ⟨howns hrunning, hstarts⟩⟩

theorem Runs.starts {request : WorkflowRequest} {completed : Option Node} {checkpoint : Checkpoint}
    {s : Shared World Id} (h : Runs calls i w request s) :
    Owns calls i w s ∧ Starts calls (s.stored i w completed checkpoint).history i w request :=
  ⟨h.1, h.2.mono (List.prefix_append ..)⟩

variable [ValidationTexts]

/-- **The run that starts a workflow** ends without a call of the executor. -/
theorem proves_runGraph_own {request : WorkflowRequest} (steps : ℕ)
    {node : Node} {state : SupportState} (hnode : node ≠ .executeRefund) (h : ¬ state.Confirmed)
    (hrequest : state.request = request) :
    (conduct env calls i).Proves (Runs calls i w request) (runGraph w none steps node state)
      fun _ s => Safe calls s := by
  induction steps generalizing node state with
  | zero => exact Conduct.proves_done stable_runs fun s hs => hs.1.safe
  | succ steps ih =>
    refine Conduct.proves_bind (Conduct.proves_of_along (along_runTask (along_runNode hnode h))
      stable_runs fun op s answer s' hquiet hs hperforms =>
        ⟨Performs.guarantee hperforms hquiet, hs.quiet hperforms hquiet⟩) (fun result => ?_)
      fun e s hs => hs.1.1.safe
    refine proves_of_fact fun hresult => ?_
    cases result with
    | interrupt =>
      obtain ⟨rfl, hproposal⟩ := hresult _ rfl
      exact Conduct.proves_bind (proves_put stable_runs (fun _ hs => hs.starts) hrequest
          fun _ => ⟨rfl, hproposal⟩)
        (fun _ => Conduct.proves_mono (Conduct.proves_done stable_safe fun _ hs => hs)
          (fun _ hs => hs.1) fun _ _ hs => hs) fun _ _ hs => hs.1
    | update state' =>
      obtain ⟨hkept, hunconfirmed⟩ := hresult _ rfl
      cases hnext : afterNode state' node with
      | error e =>
        dsimp only
        rw [hnext, Program.done_error_bind]
        exact Conduct.proves_done stable_runs fun s hs => hs.1.safe
      | ok next =>
        dsimp only
        rw [hnext, Program.done_ok_bind]
        refine Conduct.proves_bind (proves_put stable_runs (fun _ hs => hs.starts)
          (hkept.trans hrequest) nofun) (fun _ => ?_) fun _ _ hs => hs.1
        refine Conduct.proves_mono (P := Runs calls i w request) ?_ (fun s hs => hs.2 rfl)
          fun _ _ hs => hs
        cases next with
        | none => exact Conduct.proves_done stable_runs fun s hs => hs.1.safe
        | some next =>
          exact ih (fun heq => afterNode_ne_executeRefund node hunconfirmed _ hnext (by rw [heq]))
            hunconfirmed (hkept.trans hrequest)

omit [ValidationTexts] in
theorem along_respond {workflowId : String} {interrupted : Bool} :
    (respond workflowId interrupted).Along Op.Quiet fun _ => True := by
  refine Program.along_bind (along_invoke trivial) (fun snapshot _ => ?_) fun _ _ => trivial
  cases snapshot with
  | none => trivial
  | some snapshot => trivial

/-- **A start** executes no refund. -/
theorem proves_start (hfresh : env.Fresh) {ttl : ℤ} {request : WorkflowRequest}
    (hcall : calls i = .start request) :
    (conduct env calls i).Proves (Safe calls) (start ttl request) fun _ s => Safe calls s := by
  -- the first draw is the identifier of the workflow: nobody else drew it, so the call owns it
  have hdraw : (conduct env calls i).Proves (Safe calls) (invoke .uuid4)
      fun answer s => Safe calls s ∧ ∀ u, answer = .ok u → Owns calls i u.str s := by
    refine Conduct.proves_perform stable_safe ?_ fun _ s s' hrely h =>
      ⟨stable_safe s s' hrely h.1, fun u hu => (h.2 u hu).of_rely hrely⟩
    intro s answer s' hs hperforms
    cases hperforms with
    | uuid4 hdraws =>
      obtain ⟨hguarantee, howns⟩ := hs.draw hfresh hdraws
      refine ⟨hguarantee, howns.safe, ?_⟩
      rintro _ ⟨⟩
      exact howns
  refine Conduct.proves_bind hdraw (fun workflowId => ?_) fun _ _ hs => hs.1
  refine Conduct.proves_mono (P := Owns calls i workflowId.str) ?_ (fun s hs => hs.2 _ rfl)
    fun _ _ hs => hs
  have hstable : (conduct env calls i).Stable (Owns calls i workflowId.str) :=
    fun _ _ hrely h => h.of_rely hrely
  have hrun : (conduct env calls i).Proves (Owns calls i workflowId.str) (invoke .uuid4)
      fun _ => Owns calls i workflowId.str := by
    refine Conduct.proves_perform hstable ?_ fun _ => hstable
    intro s answer s' hs hperforms
    cases hperforms with
    | uuid4 hdraws =>
      obtain ⟨hguarantee, -⟩ := hs.safe.draw (i := i) hfresh hdraws
      exact ⟨hguarantee, hs.of_samePart hguarantee.grows hguarantee.safe
        ⟨rfl, refundEvents_concat_of_not rfl⟩⟩
  refine Conduct.proves_bind hrun (fun runId => ?_) fun _ _ hs => hs.safe
  refine Conduct.proves_bind (Q := fun _ => Owns calls i workflowId.str)
    (Conduct.proves_perform hstable (fun s answer s' hs hperforms =>
      ⟨Performs.guarantee hperforms trivial, hs.quiet hperforms trivial⟩) fun _ => hstable)
    (fun now => ?_) fun _ _ hs => hs.safe
  dsimp only
  generalize hstate : initialState request workflowId.str runId.str (expiry request now ttl) = state
  have hrequest : state.request = request.until (expiry request now ttl) := by rw [← hstate]; rfl
  have hput : (conduct env calls i).Proves (Owns calls i workflowId.str)
      (invoke (.put workflowId.str none ⟨state, some .route, false⟩)) fun _ s =>
        Safe calls s ∧ (false = false → Runs calls i workflowId.str state.request s) :=
    proves_put hstable (fun s hs => ⟨hs, ⟨request, _, hcall, hrequest⟩, state,
      List.mem_append_right _ (List.mem_singleton.mpr rfl), rfl⟩) rfl nofun
  refine Conduct.proves_bind hput (fun _ => ?_) fun _ _ hs => hs.1
  refine Conduct.proves_mono (P := Runs calls i workflowId.str state.request) ?_
    (fun s hs => hs.2 rfl) fun _ _ hs => hs
  refine Conduct.proves_bind (proves_runGraph_own recursionLimit nofun ?_ rfl)
    (fun interrupted => proves_safe_of_along along_respond) fun _ _ hs => hs
  -- an initial state has no confirmation
  rintro ⟨confirmation, hconfirmation, -⟩
  rw [← hstate] at hconfirmation
  cases hconfirmation

end ObservabilityLab.Workflow
