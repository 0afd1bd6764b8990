import ObservabilityLab.Workflow.RefundSafety
import ObservabilityLab.Workflow.Steps

/-!
# Decided at most once

A decision that returns to its caller took a resume command on a workflow that waited for it. Of
all the calls that confirm or reject one workflow, at the same time or later, at most one returns,
and nobody else runs the executor.

## Main definitions

* `Resumed`: a call took a resume command on a workflow
* `Returned`: a decision of a workflow that returned a response
* `DecidedOnce`: the decisions of one workflow

## Main results

* `passes_resume`: a decision that returns took a resume command
* `Safe.eq_of_resumed`: only one call takes a resume command on a workflow
* `decidedOnce_of_run`: every workflow is decided at most once
-/

namespace ObservabilityLab.Workflow

open Python Interleaving RelyGuarantee Histories

variable {World Id : Type} {env : Environment World} {calls : Id → ServiceCall} {i j : Id}
  {w : String}

/-! ## Resume commands -/

/-- A resume command on a workflow. -/
def Op.Resumes (w : String) : Op → Prop
  | .resume thread _ => thread = w
  | _ => False

/-- A call took a resume command on a workflow. -/
def Resumed (history : List (Event Id)) (i : Id) (w : String) : Prop :=
  ∃ decision answer, ⟨i, .resume w decision, answer⟩ ∈ history

theorem Resumed.mono {history history' : List (Event Id)} (h : Resumed history i w)
    (hgrows : history <+: history') : Resumed history' i w := by
  obtain ⟨decision, answer, hmem⟩ := h
  exact ⟨decision, answer, hgrows.subset hmem⟩

section Passes

variable [ValidationTexts]

theorem passes_decide (actorId : Uuid) (requestId : String) (d : ConfirmationDecision) :
    (decide w actorId requestId d).Passes (Op.Resumes w) fun result => ∃ e, result = .error e := by
  refine Program.passes_bind Program.passes_any (fun current _ => ?_) fun e _ => ⟨e, rfl⟩
  refine Program.passes_bind Program.passes_any (fun _ _ => ?_) fun e _ => ⟨e, rfl⟩
  have hresume : (resumeGraph w ⟨d.value, actorId.str, requestId⟩).Passes (Op.Resumes w)
      fun _ => False := Program.passes_call rfl
  exact Program.passes_bind hresume (fun _ h => h.elim) fun _ h => h.elim

/-- **A decision that returns took a resume command.** -/
theorem passes_resume (actorId : Uuid) (requestId : String) (d : ConfirmationDecision) :
    (resume w actorId requestId d).Passes (Op.Resumes w) fun result => ∃ e, result = .error e := by
  refine Program.passes_bind Program.passes_any (fun _ _ => ?_) fun e _ => ⟨e, rfl⟩
  refine Program.passes_bind (R := fun result => ∃ e, result = .ok (.error e))
    (Program.passes_caught (passes_decide actorId requestId d) ?_) (fun result hresult => ?_) ?_
  · rintro _ ⟨e, rfl⟩
    exact ⟨e, rfl⟩
  · obtain ⟨e, he⟩ := hresult
    obtain rfl := Except.ok.inj he
    exact Program.passes_bind Program.passes_any (fun _ _ => ⟨e, rfl⟩) fun e _ => ⟨e, rfl⟩
  · rintro e ⟨_, ⟨⟩⟩

theorem passes_program {ttl : ℤ} {call : ServiceCall} {actorId : Uuid} {requestId : String}
    {d : ConfirmationDecision} (hdecides : call.Decides w actorId requestId d) :
    (call.program ttl).Passes (Op.Resumes w) fun result => ∃ e, result = .error e := by
  cases d with
  | confirm =>
    obtain rfl : call = .confirm w actorId requestId := hdecides
    exact passes_resume actorId requestId .confirm
  | reject =>
    obtain rfl : call = .reject w actorId requestId := hdecides
    exact passes_resume actorId requestId .reject
  | pending => exact hdecides.elim

end Passes

/-! ## The one decision -/

/-- A decision of a workflow that returned a response. -/
def Returned (calls : Id → ServiceCall) (p : Pool Id (Shared World Id) (Flow WorkflowResponse))
    (w : String) (i : Id) : Prop :=
  (∃ actorId requestId d, (calls i).Decides w actorId requestId d) ∧
    ∃ response, p.locals i = .done (.ok response)

/-- **The decisions of one workflow.** -/
structure DecidedOnce (calls : Id → ServiceCall)
    (p : Pool Id (Shared World Id) (Flow WorkflowResponse)) (w : String) : Prop where
  /-- At most one decision returns. -/
  once : ∀ i j, Returned calls p w i → Returned calls p w j → i = j
  /-- A decision that returns passed every check, and came before every other one. -/
  accepted : ∀ i, Returned calls p w i → ∃ before decision snapshot after,
    p.shared.history = before ++ ⟨i, .resume w decision, .ok (some snapshot)⟩ :: after ∧
      Accepted calls before i w decision snapshot
  /-- Where a decision returns, nobody else runs the executor, and only a confirmation does. -/
  executes : ∀ i j actorId orderId answer, Returned calls p w i →
    ⟨j, .dependency w (.execute actorId orderId), answer⟩ ∈ p.shared.history →
      j = i ∧ ∃ requestId, calls i = .confirm w actorId requestId

theorem histories_of_mem {history : List (Event Id)} {event : Event Id} (h : event ∈ history) :
    ∃ before after, history = before ++ event :: after ∧ (before, event) ∈ histories history := by
  obtain ⟨before, after, hsplit⟩ := List.append_of_mem h
  exact ⟨before, after, hsplit, mem_histories_iff.mpr ⟨after, hsplit⟩⟩

/-- A resume command is an accepted decision. -/
theorem Safe.accepted_of_resumed {s : Shared World Id} (h : Safe calls s)
    (hresumed : Resumed s.history i w) : ∃ before decision snapshot after,
      s.history = before ++ ⟨i, .resume w decision, .ok (some snapshot)⟩ :: after ∧
        Accepted calls before i w decision snapshot := by
  obtain ⟨decision, answer, hmem⟩ := hresumed
  obtain ⟨before, after, hsplit, hplace⟩ := histories_of_mem hmem
  obtain ⟨snapshot, rfl, haccepted⟩ := h.justified _ _ hplace
  exact ⟨before, decision, snapshot, after, hsplit, haccepted⟩

/-- A resume command on a workflow, as an event. -/
def resumes (w : String) (event : Event Id) : Bool :=
  match event.op with
  | .resume thread _ => thread = w
  | _ => false

/-- **Only one call takes a resume command** on a workflow, and only once. -/
theorem Safe.length_resumes {s : Shared World Id} (h : Safe calls s) (w : String) :
    (s.history.filter (resumes w)).length ≤ 1 := by
  refine length_filter_le_one fun before event hplace hevent earlier hmem hearlier => ?_
  obtain ⟨i, op, answer⟩ := event
  cases op with
  | resume thread decision =>
    obtain rfl : thread = w := of_decide_eq_true hevent
    obtain ⟨snapshot, -, haccepted⟩ := h.justified _ _ hplace
    have hconcerns : concernsRefund thread earlier = true := by
      obtain ⟨j, op, answer'⟩ := earlier
      cases op with
      | resume thread' decision' => exact hearlier
      | _ => cases hearlier
    have hrefund : earlier ∈ refundEvents thread before := List.mem_filter.mpr ⟨hmem, hconcerns⟩
    rw [haccepted.first] at hrefund
    cases hrefund
  | _ => cases hevent

theorem Safe.eq_of_resumed {s : Shared World Id} (h : Safe calls s)
    (hi : Resumed s.history i w) (hj : Resumed s.history j w) : i = j := by
  obtain ⟨decision, answer, hmem⟩ := hi
  obtain ⟨decision', answer', hmem'⟩ := hj
  have hi : (⟨i, .resume w decision, answer⟩ : Event Id) ∈ s.history.filter (resumes w) :=
    List.mem_filter.mpr ⟨hmem, decide_eq_true rfl⟩
  have hj : (⟨j, .resume w decision', answer'⟩ : Event Id) ∈ s.history.filter (resumes w) :=
    List.mem_filter.mpr ⟨hmem', decide_eq_true rfl⟩
  rcases Nat.le_one_iff_eq_zero_or_eq_one.mp (h.length_resumes w) with hnone | hone
  · rw [List.length_eq_zero_iff.mp hnone] at hi
    cases hi
  · obtain ⟨event, hevents⟩ := List.length_eq_one_iff.mp hone
    rw [hevents, List.mem_singleton] at hi hj
    exact congrArg Event.caller (hi.trans hj.symm)

section Runs

variable [ValidationTexts] [DecidableEq Id] {ttl : ℤ} {world : World}
  {p : Pool Id (Shared World Id) (Flow WorkflowResponse)}

/-- A decision that returned took a resume command. -/
theorem resumed_of_returned (hrun : ServiceRun env ttl calls world p)
    (hreturned : Returned calls p w i) : Resumed p.shared.history i w := by
  obtain ⟨⟨actorId, requestId, d, hdecides⟩, response, hdone⟩ := hreturned
  have hpasses : Resumed p.shared.history i w ∨
      (p.locals i).Passes (Op.Resumes w) fun result => ∃ e, result = .error e := by
    refine passes_of_steps (fun s => Resumed s.history i w) (fun j s op answer s' hperforms h => ?_)
      (fun s op answer s' hperforms hwanted => ?_) (passes_program hdecides) hrun
    · refine Resumed.mono h ?_
      rw [hperforms.history]
      exact List.prefix_append ..
    cases op with
    | resume thread decision =>
      obtain rfl : thread = w := hwanted
      refine ⟨decision, answer, ?_⟩
      rw [hperforms.history]
      simp
    | _ => exact hwanted.elim
  rcases hpasses with hresumed | hpasses
  · exact hresumed
  · rw [hdone] at hpasses
    obtain ⟨e, he⟩ := hpasses
    cases he

/-- **Every workflow is decided at most once.** Of the calls that confirm or reject a workflow, in
any interleaving and whatever the dependencies do, at most one returns, if no identifier is drawn
twice. -/
theorem decidedOnce_of_run (hfresh : env.Fresh) (hrun : ServiceRun env ttl calls world p)
    (w : String) : DecidedOnce calls p w := by
  have hsafe := safe_of_run hfresh hrun
  refine ⟨fun i j hi hj => ?_, fun i hi => ?_, fun i j actorId orderId answer hi hmem => ?_⟩
  · exact hsafe.eq_of_resumed (resumed_of_returned hrun hi) (resumed_of_returned hrun hj)
  · exact hsafe.accepted_of_resumed (resumed_of_returned hrun hi)
  · obtain ⟨before, after, hsplit, hplace⟩ := histories_of_mem hmem
    obtain ⟨decision, snapshot, proposal, hevents, hconfirm, hactor, hproposal, horder⟩ :=
      hsafe.justified _ _ hplace
    have hrefund : ⟨j, .resume w decision, .ok (some snapshot)⟩ ∈ refundEvents w before := by
      rw [hevents]
      exact List.mem_singleton.mpr rfl
    have hearlier := (List.mem_filter.mp hrefund).1
    have hmem' : ⟨j, .resume w decision, .ok (some snapshot)⟩ ∈ p.shared.history := by
      rw [hsplit]
      exact List.mem_append_left _ hearlier
    obtain rfl := hsafe.eq_of_resumed ⟨decision, _, hmem'⟩ (resumed_of_returned hrun hi)
    obtain ⟨_, _, hsplit', hplace'⟩ := histories_of_mem hmem'
    obtain ⟨snapshot', hsnapshot, haccepted⟩ := hsafe.justified _ _ hplace'
    obtain rfl := Option.some.inj (Except.ok.inj hsnapshot)
    exact ⟨rfl, _, (haccepted.entitled hconfirm hactor hproposal horder).confirms⟩

end Runs

/-! ## Decisions that return -/

section Resumed

variable [ValidationTexts] {s : Shared World Id} {values : SupportState}
  {proposal : ProposedAction} {route : RoutingDecision}

/-- The payload of a decision. -/
def WorkflowRequest.decided (request : WorkflowRequest) (d : ConfirmationDecision) :
    ResumeDecision where
  decision := d.value
  actorId := request.actorId.str
  requestId := request.requestId

/-- A decision returns if it matches the request of a workflow that waits, is taken before the
expiry, and the run that it resumes ends. -/
theorem runs_resume {d : ConfirmationDecision} {expiresAt now : DateTime} {elapsed : ℤ}
    {Q : World → Prop} (hstored : s.checkpoints w = some ⟨values, some .confirmation, true⟩)
    (hfree : s.locks w = none) (hstatus : values.status = .awaitingConfirmation)
    (hexpires : values.request.expiresAt = some expiresAt)
    (hsince : now.since expiresAt = some elapsed) (hlt : elapsed < 0)
    (hresumes : ∀ s₁ : Shared World Id, s₁.checkpoints = s.checkpoints → s₁.world = s.world →
      ∃ snapshot s₂, Program.Runs (Performs env i) s₁ (resumeGraph w (values.request.decided d))
        (.ok false) s₂ ∧ s₂.checkpoints w = some snapshot ∧ Q s₂.world) :
    ∃ response s', Program.Runs (Performs env i) s
      (resume w values.request.actorId values.request.requestId d) (.ok response) s' ∧
        Q s'.world := by
  have hdecision : checkDecision (Checkpoint.response ⟨values, some .confirmation, true⟩ false)
      values.request.actorId values.request.requestId = .ok () := by
    simp [checkDecision, Checkpoint.response, hstatus, raiseIf]
    rfl
  have hacquired : ((s.withLock w (some i)).record i (.acquire w) (.ok ())).checkpoints w =
      some ⟨values, some .confirmation, true⟩ := hstored
  obtain ⟨s₁, hinspect, hsame, hworld⟩ := runs_inspect hacquired hexpires hsince hlt
  obtain ⟨snapshot, s₂, hresume, hended, hQ⟩ := hresumes s₁ hsame hworld
  have hdecide : Program.Runs (Performs env i)
      ((s.withLock w (some i)).record i (.acquire w) (.ok ()))
      (decide w values.request.actorId values.request.requestId d)
      (.ok (snapshot.response false)) (s₂.record i (.getState w) (.ok (some snapshot))) := by
    refine .bind hinspect (.bind (a := ()) ?_ (.bind hresume ?_))
    · rw [hdecision]
      exact .done _
    · exact .bind (.perform (performs_getState hended)) (.done _)
  exact ⟨_, _, .bind (.perform (.acquire hfree)) (.bind (.caught hdecide)
    (.bind (.perform (.release w)) (.done _))), hQ⟩

/-- The run that a decision resumes goes on behind the confirmation. -/
theorem runs_confirmation {d : ConfirmationDecision} {node : Node} {P : Shared World Id → Prop}
    (hstored : s.checkpoints w = some ⟨values, some .confirmation, true⟩)
    (hproposal : values.proposedAction = some proposal) (hd : d ≠ .pending)
    (hnode : node = if d = .confirm then .executeRefund else .reject)
    (hruns : ∀ s₁ : Shared World Id, s₁.world = s.world →
      ∃ s₂, Program.Runs (Performs env i) s₁
        (runGraph w (some (values.request.decided d)) 24 node (confirmationDelta values d .epoch))
        (.ok false) s₂ ∧ P s₂) :
    ∃ s₂, Program.Runs (Performs env i) s (resumeGraph w (values.request.decided d))
      (.ok false) s₂ ∧ P s₂ := by
  have hconfirmation : runTask w (some (values.request.decided d)) .confirmation values = (do
      invoke (.task w .confirmation)
      let decidedAt ← invoke .now
      return .update (confirmationDelta values d decidedAt)) :=
    runTask_confirmation w hproposal rfl rfl rfl hd
  have hafter : afterNode (confirmationDelta values d .epoch) .confirmation = .ok (some node) := by
    rw [hnode]
    rfl
  obtain ⟨s₂, hrest, hP⟩ := hruns
    ((((s.record i (.resume w (values.request.decided d))
      (.ok (some ⟨values, some .confirmation, true⟩))).record i (.task w .confirmation)
        (.ok ())).record i .now (.ok .epoch)).stored i w (some .confirmation)
          ⟨confirmationDelta values d .epoch, some node, false⟩) rfl
  refine ⟨s₂, .bind (.perform (performs_resume hstored)) ?_, hP⟩
  change Program.Runs _ _ (runGraph _ _ (24 + 1) _ _) _ _
  rw [runGraph, hconfirmation]
  refine .bind (.bind (.perform (.task ..)) (.bind (.perform (.now .epoch)) (.done _))) ?_
  refine .bind (a := some node) ?_ (.bind (.perform (.put ..)) hrest)
  rw [hafter]
  exact .done _

/-- The rejection ends a run. -/
theorem runs_rejection (hroute : values.route = some route) (s : Shared World Id) :
    ∃ s₂, Program.Runs (Performs env i) s
      (runGraph w (some (values.request.decided .reject)) 24 .reject
        (confirmationDelta values .reject .epoch)) (.ok false) s₂ ∧
      (∃ snapshot, s₂.checkpoints w = some snapshot) ∧ s₂.world = s.world := by
  obtain ⟨state, hdelta, -⟩ :=
    responds_rejectionDelta (confirmationDelta values .reject .epoch) route
  have hrejection : runTask w (some (values.request.decided .reject)) .reject
      (confirmationDelta values .reject .epoch) = (do
        invoke (.task w .reject)
        return .update state) := by
    have hrequired := requireRoute_eq_ok
      (show (confirmationDelta values .reject .epoch).route = some route from hroute)
    change (do
      invoke (.task w .reject)
      runNode w (some (values.request.decided .reject)) .reject
        (confirmationDelta values .reject .epoch)) = _
    unfold runNode rejectionNode
    dsimp only
    rw [hrequired, Program.done_ok_bind, hdelta]
    rfl
  rw [runGraph, hrejection]
  exact ⟨_, .bind (.bind (.perform (.task ..)) (.done _))
    (.bind (a := none) (.done _) (.bind (.perform (.put ..)) (.done _))),
    ⟨_, checkpoints_stored_self⟩, rfl⟩

/-- A rejection that matches the request of a workflow that waits returns, before the expiry. -/
theorem runs_reject {expiresAt now : DateTime} {elapsed : ℤ}
    (hstored : s.checkpoints w = some ⟨values, some .confirmation, true⟩)
    (hfree : s.locks w = none) (hproposal : values.proposedAction = some proposal)
    (hroute : values.route = some route) (hstatus : values.status = .awaitingConfirmation)
    (hexpires : values.request.expiresAt = some expiresAt)
    (hsince : now.since expiresAt = some elapsed) (hlt : elapsed < 0) :
    ∃ response s', Program.Runs (Performs env i) s
      (reject w values.request.actorId values.request.requestId) (.ok response) s' ∧
        s'.world = s.world := by
  refine runs_resume (d := .reject) (Q := (· = s.world)) hstored hfree hstatus hexpires hsince
    hlt ?_
  intro s₁ hsame hworld
  have hstored₁ : s₁.checkpoints w = some ⟨values, some .confirmation, true⟩ := by
    rw [hsame]
    exact hstored
  have hrejected : ∀ s₂ : Shared World Id, s₂.world = s₁.world →
      ∃ s₃, Program.Runs (Performs env i) s₂
        (runGraph w (some (values.request.decided .reject)) 24 .reject
          (confirmationDelta values .reject .epoch)) (.ok false) s₃ ∧
        (∃ snapshot, s₃.checkpoints w = some snapshot) ∧ s₃.world = s.world := by
    intro s₂ hworld₂
    obtain ⟨s₃, hrest, hended, hworld₃⟩ := runs_rejection hroute s₂
    exact ⟨s₃, hrest, hended, by rw [hworld₃, hworld₂, hworld]⟩
  obtain ⟨s₂, hruns, ⟨snapshot, hended⟩, hworld'⟩ :=
    runs_confirmation hstored₁ hproposal (by decide) rfl hrejected
  exact ⟨snapshot, s₂, hruns, hended, hworld'⟩

end Resumed

/-- A start, and a rejection of what it started. -/
def rejectedCalls : Bool → ServiceCall
  | false => .start refundRequest
  | true => .reject (Uuid.repeated 5).str (.repeated 1) "request"

section Sample

attribute [local instance] plainTexts

/-- A run with a decision that returns. -/
theorem decidedOnce_rejectedCalls : ∃ p, ServiceRun lenientEnvironment 1 rejectedCalls () p ∧
    Returned rejectedCalls p (Uuid.repeated 5).str true ∧
    DecidedOnce rejectedCalls p (Uuid.repeated 5).str := by
  obtain ⟨result, s', hstart, hfree, values, hstored, hroute, hproposal, hstatus, hrequest⟩ :=
    runs_refundRoute
  have hnow : DateTime.epoch.since ⟨1, some (.fixed 0)⟩ = some (-1) := by decide +kernel
  have hexpires : values.request.expiresAt = some ⟨1, some (.fixed 0)⟩ := by
    rw [hrequest]
    rfl
  obtain ⟨response, s'', hreject, -⟩ :
      ∃ response s'', Program.Runs (Performs lenientEnvironment true) s'
        (reject (Uuid.repeated 5).str values.request.actorId values.request.requestId)
        (.ok response) s'' ∧ s''.world = s'.world :=
    runs_reject hstored hfree hproposal hroute hstatus hexpires hnow (by decide)
  rw [hrequest] at hreject
  have hrun : ServiceRun lenientEnvironment 1 rejectedCalls () ⟨s'', _⟩ :=
    (steps_of_runs (i := false) rfl hstart).trans (steps_of_runs (i := true) rfl hreject)
  refine ⟨_, hrun, ⟨⟨_, _, .reject, rfl⟩, response, ?_⟩, decidedOnce_of_run (fun _ _ h => h) hrun _⟩
  dsimp only
  rw [Function.update_self]

end Sample

end ObservabilityLab.Workflow
