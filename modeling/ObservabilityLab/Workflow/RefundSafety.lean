import ObservabilityLab.Workflow.ConfirmedRun
import ObservabilityLab.Workflow.ResumedRun

/-!
# Refund safety of workflows

Whatever calls of the service run at the same time, and whatever the dependencies do, the refund of
a workflow is executed at most once, and only behind a confirmation that passed every check.

## Main definitions

* `Entitled`: what entitles a call of the service to run the executor
* `RefundSafe`: the calls of the executor for one workflow

## Main results

* `safe_of_run`: what holds after every run of the service
* `refundSafe_of_run`: the refund safety of every workflow
-/

namespace ObservabilityLab.Workflow

open Python Interleaving RelyGuarantee Histories

section Runs

variable {World Id : Type} {env : Environment World} {calls : Id → ServiceCall} {i : Id}
  {w : String} [ValidationTexts]

omit [ValidationTexts] in
theorem along_inspect {workflowId : String} :
    (inspect workflowId).Along Op.Quiet fun _ => True := by
  refine Program.along_bind (R := fun _ => True)
    (Program.along_caught (along_invoke trivial) fun _ _ => trivial) (fun answer _ => ?_)
    fun _ _ => trivial
  rcases answer with e | _ | snapshot
  · trivial
  · trivial
  · refine Program.along_bind (R := fun _ => True) ?_ (fun _ _ => trivial) fun _ _ => trivial
    unfold checkNotExpired
    cases snapshot.values.request.expiresAt with
    | none => trivial
    | some expiresAt =>
      refine Program.along_bind (along_invoke trivial) (fun now _ => ?_) fun _ _ => trivial
      cases now.since expiresAt with
      | none => trivial
      | some elapsed => trivial

/-- **Every call of the service** keeps what holds in every run. -/
theorem proves_call (hfresh : env.Fresh) (ttl : ℤ) :
    (conduct env calls i).Proves (Safe calls) ((calls i).program ttl) fun _ s => Safe calls s := by
  cases hcall : calls i with
  | start request => exact proves_start hfresh hcall
  | inspect workflowId => exact proves_safe_of_along along_inspect
  | confirm workflowId actorId requestId => exact proves_resume nofun hcall
  | reject workflowId actorId requestId => exact proves_resume nofun hcall

omit [ValidationTexts] in
/-- Nothing happened yet. -/
theorem safe_start (calls : Id → ServiceCall) (world : World) :
    Safe calls ({ world := world } : Shared World Id) where
  draws i j w := by
    rintro ⟨u, -, h⟩
    cases h
  drew i w request := by
    rintro ⟨-, state, h, -⟩
    cases h
  started w checkpoint h := by cases h
  stored w h := absurd rfl h
  interrupted w checkpoint h := by cases h
  unlocked w _ _ := rfl
  justified before event h := by cases h

/-- **What holds after every run** of the service. -/
theorem safe_of_run [DecidableEq Id] (hfresh : env.Fresh) {ttl : ℤ} {world : World}
    {p : Pool Id (Shared World Id) (Flow WorkflowResponse)}
    (hrun : ServiceRun env ttl calls world p) : Safe calls p.shared :=
  (meets_of_steps (conduct env calls) (Q := fun _ _ s => Safe calls s)
    (fun _ _ _ _ _ h => h) (fun _ _ _ _ hij hsafe h => Guarantee.rely h hij hsafe)
    (fun _ _ _ hsafe h => Guarantee.safe h hsafe) (safe_start calls world)
    (fun _ => proves_call hfresh ttl _ (safe_start calls world)) hrun).1

/-! ## The executor -/

/-- A call of the executor for a workflow. -/
def executes (w : String) (event : Event Id) : Bool :=
  match event.op with
  | .dependency thread (.execute ..) => thread = w
  | _ => false

/-- **What entitles a call of the service to run the executor**, for an actor and an order: it
confirms the proposal of a checkpoint that awaits its confirmation, as the actor and under the
request that started the workflow, and it read the clock before the expiry. -/
structure Entitled (calls : Id → ServiceCall) (before : List (Event Id)) (i : Id) (w : String)
    (snapshot : Checkpoint) (actorId orderId : Uuid) : Prop where
  confirms : calls i = .confirm w actorId snapshot.values.request.requestId
  actor : snapshot.values.request.actorId = actorId
  started : ∃ k, Starts calls before k w snapshot.values.request
  unexpired : ∃ now expiresAt elapsed, ⟨i, .clock, .ok now⟩ ∈ before ∧
    snapshot.values.request.expiresAt = some expiresAt ∧ now.since expiresAt = some elapsed ∧
    elapsed < 0
  awaiting : snapshot.values.status = .awaitingConfirmation ∧ snapshot.interrupted = true
  proposal : ∃ proposal, snapshot.values.proposedAction = some proposal ∧
    proposal.orderId = orderId

/-- **The refund of a workflow is safe**: the executor is called at most once, behind the one
decision that was accepted, which confirms. -/
structure RefundSafe (calls : Id → ServiceCall) (history : List (Event Id)) (w : String) :
    Prop where
  starter : ∀ j k request request', Starts calls history j w request →
    Starts calls history k w request' → j = k
  once : (history.filter (executes w)).length ≤ 1
  entitled : ∀ earlier i actorId orderId answer,
    (earlier, ⟨i, .dependency w (.execute actorId orderId), answer⟩) ∈ histories history →
      ∃ before decision snapshot after,
        earlier = before ++ ⟨i, .resume w decision, .ok (some snapshot)⟩ :: after ∧
          Entitled calls before i w snapshot actorId orderId
  accepted : ∀ earlier i actorId orderId answer,
    (earlier, ⟨i, .dependency w (.execute actorId orderId), answer⟩) ∈ histories history →
      ∀ j decision answer', ⟨j, .resume w decision, answer'⟩ ∈ earlier →
        decision.decision = ConfirmationDecision.confirm.value

omit [ValidationTexts] in
theorem concernsRefund_of_executes {event : Event Id} (h : executes w event = true) :
    concernsRefund w event = true := by
  obtain ⟨caller, op, answer⟩ := event
  cases op with
  | dependency thread call =>
    cases call with
    | execute actorId orderId => exact h
    | _ => cases h
  | _ => cases h

omit [ValidationTexts] in
/-- A call of the executor comes behind an accepted decision. -/
theorem Accepted.entitled {before : List (Event Id)} {decision : ResumeDecision}
    {snapshot : Checkpoint} {proposal : ProposedAction} {actorId orderId : Uuid}
    (h : Accepted calls before i w decision snapshot)
    (hconfirm : decision.decision = ConfirmationDecision.confirm.value)
    (hactor : snapshot.values.request.actorId = actorId)
    (hproposal : snapshot.values.proposedAction = some proposal)
    (horder : proposal.orderId = orderId) :
    Entitled calls before i w snapshot actorId orderId where
  confirms := by
    obtain ⟨d, hd, hdecides⟩ := h.decides
    rw [hconfirm] at hd
    cases d with
    | confirm =>
      rw [← hactor]
      exact hdecides
    | pending => exact hdecides.elim
    | reject => exact absurd hd (by decide)
  actor := hactor
  started := h.started
  unexpired := h.unexpired
  awaiting := ⟨h.awaiting, h.interrupted⟩
  proposal := ⟨proposal, hproposal, horder⟩

omit [ValidationTexts] in
/-- **Safe calls make safe refunds.** -/
theorem Safe.refundSafe {s : Shared World Id} (h : Safe calls s) (w : String) :
    RefundSafe calls s.history w where
  starter j k request request' hj hk :=
    h.draws j k w (h.drew j w request hj) (h.drew k w request' hk)
  once := by
    refine length_filter_le_one fun before event hplace hevent earlier hmem hearlier => ?_
    obtain ⟨i, op, answer⟩ := event
    cases op with
    | dependency thread call =>
      cases call with
      | execute actorId orderId =>
        obtain rfl : thread = w := of_decide_eq_true hevent
        obtain ⟨decision, snapshot, proposal, hevents, -⟩ := h.justified _ _ hplace
        have hrefund : earlier ∈ refundEvents thread before :=
          List.mem_filter.mpr ⟨hmem, concernsRefund_of_executes hearlier⟩
        rw [hevents, List.mem_singleton] at hrefund
        rw [hrefund] at hearlier
        cases hearlier
      | _ => cases hevent
    | _ => cases hevent
  entitled earlier i actorId orderId answer hplace := by
    obtain ⟨decision, snapshot, proposal, hevents, hconfirm, hactor, hproposal, horder⟩ :=
      h.justified _ _ hplace
    have hmem : ⟨i, .resume w decision, .ok (some snapshot)⟩ ∈ refundEvents w earlier := by
      rw [hevents]
      exact List.mem_singleton.mpr rfl
    -- the resume that the executor relies on stands in the history before it
    obtain ⟨before, after, hearlier⟩ := List.append_of_mem (List.mem_filter.mp hmem).1
    obtain ⟨later, hhistory⟩ := mem_histories_iff.mp hplace
    have hresume :
        (before, ⟨i, .resume w decision, .ok (some snapshot)⟩) ∈ histories s.history := by
      rw [mem_histories_iff, hhistory, hearlier, List.append_assoc]
      exact ⟨_, rfl⟩
    obtain ⟨snapshot', hsnapshot, haccepted⟩ := h.justified _ _ hresume
    obtain rfl := Option.some.inj (Except.ok.inj hsnapshot)
    exact ⟨before, decision, snapshot, after, hearlier,
      haccepted.entitled hconfirm hactor hproposal horder⟩
  accepted earlier i actorId orderId answer hplace j decision answer' hmem := by
    obtain ⟨decision', snapshot, proposal, hevents, hconfirm, -⟩ := h.justified _ _ hplace
    have hrefund : ⟨j, .resume w decision, answer'⟩ ∈ refundEvents w earlier :=
      List.mem_filter.mpr ⟨hmem, decide_eq_true rfl⟩
    rw [hevents, List.mem_singleton] at hrefund
    cases hrefund
    exact hconfirm

/-! ## The safety of every refund -/

/-- **Refund safety.** Whatever calls of the service run at the same time, in any interleaving, and
whatever the dependencies do, every refund is safe, if no identifier is drawn twice. -/
theorem refundSafe_of_run [DecidableEq Id] {ttl : ℤ} {world : World}
    {p : Pool Id (Shared World Id) (Flow WorkflowResponse)} (hfresh : env.Fresh)
    (hrun : ServiceRun env ttl calls world p) (w : String) : RefundSafe calls p.shared.history w :=
  (safe_of_run hfresh hrun).refundSafe w

end Runs

/-! ## A refund that is executed -/

/-- An environment where every dependency may do anything. -/
def lenientEnvironment : Environment Unit where
  behaves _ _ _ _ := True
  draws before u := u ∉ before

instance (before : List Uuid) (u : Uuid) : Decidable (lenientEnvironment.draws before u) :=
  inferInstanceAs (Decidable (u ∉ before))

def refundRequest : WorkflowRequest where
  actorId := .repeated 1
  requestId := "request"
  message := "I want a refund."
  validRequestId := by decide +kernel
  validMessage := by decide +kernel

def refundRoute : RoutingDecision where
  intent := .refund
  confidence := .ofRat 1
  orderId := some (.repeated 2)
  policySlug := some "refund-and-delivery"
  validConfidence := validConfidence_one

def deliveredOrder : OrderRead where
  id := .repeated 2
  customerId := .repeated 1
  status := .delivered
  totalAmount := ⟨false, 0, 0⟩
  validAmount := by decide +kernel

def refundPolicy : PolicyDocumentRead where
  id := .repeated 3
  slug := "refund-and-delivery"
  version := "1"
  title := "Refunds"
  content := "Refunds take ten days."
  contentHash := ""

def refundProposal : ProposedAction where
  kind := "refund"
  proposalId := .repeated 4
  actorId := .repeated 1
  requestId := "request"
  orderId := .repeated 2
  amount := ⟨false, 0, 0⟩
  policyVersion := "1"
  createdAt := .epoch
  validKind := by decide +kernel
  validAmount := by decide +kernel
  validPolicyVersion := by decide +kernel

/-- A start, and a confirmation of what it started. -/
def refundCalls : Bool → ServiceCall
  | false => .start refundRequest
  | true => .confirm (Uuid.repeated 5).str (.repeated 1) "request"

theorem performs_answer (i : Bool) (s : Shared Unit Bool) (thread : String) (call : Dependency)
    (answer : Except PyError call.Answer) :
    Performs lenientEnvironment i s (.dependency thread call) answer
      (s.record i (.dependency thread call) answer) :=
  .dependency trivial

section Sample

attribute [local instance] plainTexts

/-- The start waits for the confirmation, on the route of a refund. -/
theorem runs_refundRoute : ∃ result s',
    Program.Runs (Performs lenientEnvironment false) ({ world := () } : Shared Unit Bool)
      (start 1 refundRequest) result s' ∧ s'.locks (Uuid.repeated 5).str = none ∧
    ∃ values, s'.checkpoints (Uuid.repeated 5).str = some ⟨values, some .confirmation, true⟩ ∧
      values.route = some refundRoute ∧ values.proposedAction = some refundProposal ∧
      values.status = .awaitingConfirmation ∧
      values.request = refundRequest.until ⟨1, some (.fixed 0)⟩ := by
  refine Program.exists_runs_call (.uuid4 (u := .repeated 5) List.not_mem_nil) ?_
  refine Program.exists_runs_call (.uuid4 (u := .repeated 6) (by decide +kernel)) ?_
  refine Program.exists_runs_call (.clock .epoch) (Program.exists_runs_call (.put ..) ?_)
  -- the route
  refine Program.exists_runs_call (.task ..) (Program.exists_runs_call (.nextAttempt ..) ?_)
  refine Program.exists_runs_call (performs_answer _ _ _ _ (.ok refundRoute)) ?_
  refine Program.exists_runs_call (.put ..) (Program.exists_runs_call (.task ..) ?_)
  -- the order
  refine Program.exists_runs_call (.nextAttempt ..) ?_
  refine Program.exists_runs_call (performs_answer _ _ _ _ (.ok deliveredOrder)) ?_
  refine Program.exists_runs_call (.put ..) (Program.exists_runs_call (.task ..) ?_)
  -- the policy
  refine Program.exists_runs_call (.nextAttempt ..) ?_
  refine Program.exists_runs_call (performs_answer _ _ _ _ (.ok refundPolicy)) ?_
  refine Program.exists_runs_call (.put ..) (Program.exists_runs_call (.task ..) ?_)
  -- the proposal, and the interrupt
  refine Program.exists_runs_call (performs_answer _ _ _ _ (.ok refundProposal)) ?_
  refine Program.exists_runs_call (.put ..) (Program.exists_runs_call (.task ..) ?_)
  refine Program.exists_runs_call (.put ..)
    (runs_respond checkpoints_stored_self fun s' hcheckpoints hlocks _ => ?_)
  exact ⟨(congrFun hlocks _).trans rfl, _, (congrFun hcheckpoints _).trans checkpoints_stored_self,
    rfl, rfl, rfl, rfl⟩

/-- The start waits for the confirmation. -/
theorem runs_refundRequest : ∃ result s',
    Program.Runs (Performs lenientEnvironment false) ({ world := () } : Shared Unit Bool)
      (start 1 refundRequest) result s' ∧ s'.locks (Uuid.repeated 5).str = none ∧
    ∃ values, s'.checkpoints (Uuid.repeated 5).str = some ⟨values, some .confirmation, true⟩ ∧
      values.proposedAction = some refundProposal ∧ values.status = .awaitingConfirmation ∧
      values.request = refundRequest.until ⟨1, some (.fixed 0)⟩ := by
  obtain ⟨result, s', hruns, hfree, values, hstored, -, hvalues⟩ := runs_refundRoute
  exact ⟨result, s', hruns, hfree, values, hstored, hvalues⟩

/-- A run that calls the executor. -/
theorem refundSafe_refundCalls : ∃ p, ServiceRun lenientEnvironment 1 refundCalls () p ∧
    p.shared.history.countP (executes (Uuid.repeated 5).str) = 1 ∧
    RefundSafe refundCalls p.shared.history (Uuid.repeated 5).str := by
  obtain ⟨result, s', hstart, hfree, values, hstored, hproposal, hstatus, hrequest⟩ :=
    runs_refundRequest
  have hnow : DateTime.epoch.since ⟨1, some (.fixed 0)⟩ = some (-1) := by decide +kernel
  have hbehaves : lenientEnvironment.behaves s'.world
      (.execute values.request.actorId refundProposal.orderId) (.error (.value "")) () := trivial
  obtain ⟨s'', hconfirm, hmem⟩ := runs_confirm (i := true) hstored hfree hproposal hstatus
    (by rw [hrequest]; rfl) hnow (by decide) hbehaves (by decide +kernel)
  rw [hrequest] at hconfirm hmem
  have hrun : ServiceRun lenientEnvironment 1 refundCalls () ⟨s'', _⟩ :=
    (steps_of_runs (i := false) rfl hstart).trans (steps_of_runs (i := true) rfl hconfirm)
  have hsafe := refundSafe_of_run (fun _ _ h => h) hrun (Uuid.repeated 5).str
  refine ⟨_, hrun, le_antisymm ?_ (List.countP_pos_iff.mpr ⟨_, hmem, by simp [executes]⟩), hsafe⟩
  rw [List.countP_eq_length_filter]
  exact hsafe.once

end Sample

end ObservabilityLab.Workflow
