import ObservabilityLab.Workflow.Service
import ObservabilityLab.Workflow.Runtime

/-!
# The run behind a confirmation

A confirmation that matches the request of a workflow, read before the expiry, leads to a call of
the executor for the stored proposal.

## Main definitions

* `WorkflowRequest.confirmed`: the payload of a confirmation

## Main results

* `runs_inspect`, `runs_executeNode`, `runs_resumeGraph`: the parts of the run
* `runs_confirm`: a confirmation reaches the executor
-/

namespace ObservabilityLab.Workflow

open Python

/-- The payload of the resume command that confirms a request. -/
def WorkflowRequest.confirmed (request : WorkflowRequest) : ResumeDecision where
  decision := ConfirmationDecision.confirm.value
  actorId := request.actorId.str
  requestId := request.requestId

variable {World Id : Type} {env : Environment World} {i : Id} {s : Shared World Id} {w : String}

theorem performs_getState {stored : Option Checkpoint} (h : s.checkpoints w = stored) :
    Performs env i s (.getState w) (.ok stored) (s.record i (.getState w) (.ok stored)) := by
  subst h
  exact .getState w

theorem performs_resume {decision : ResumeDecision} {stored : Option Checkpoint}
    (h : s.checkpoints w = stored) :
    Performs env i s (.resume w decision) (.ok stored)
      (s.record i (.resume w decision) (.ok stored)) := by
  subst h
  exact .resume w decision

theorem runs_respond {snapshot : Checkpoint} {interrupted : Bool} {P : Shared World Id → Prop}
    (hstored : s.checkpoints w = some snapshot)
    (hP : ∀ s' : Shared World Id, s'.checkpoints = s.checkpoints → s'.locks = s.locks →
      s'.world = s.world → P s') :
    ∃ result s', Program.Runs (Performs env i) s (respond w interrupted) result s' ∧ P s' :=
  ⟨_, _, .bind (.perform (performs_getState hstored)) (.done _), hP _ rfl rfl rfl⟩

/-- The service reads a workflow before its expiry. -/
theorem runs_inspect {snapshot : Checkpoint} {expiresAt now : DateTime} {elapsed : ℤ}
    (hstored : s.checkpoints w = some snapshot)
    (hexpires : snapshot.values.request.expiresAt = some expiresAt)
    (hsince : now.since expiresAt = some elapsed) (hlt : elapsed < 0) :
    ∃ s', Program.Runs (Performs env i) s (inspect w) (.ok (snapshot.response false)) s' ∧
      s'.checkpoints = s.checkpoints ∧ s'.world = s.world := by
  have hunexpired : raiseIf (0 ≤ elapsed) workflowExpired = .ok () :=
    raiseIf_eq_ok.mpr (by simpa using hlt)
  have hcheck : ∀ s₁ : Shared World Id, Program.Runs (Performs env i) s₁
      (checkNotExpired snapshot.values) (.ok ()) (s₁.record i .clock (.ok now)) := by
    intro s₁
    unfold checkNotExpired
    rw [hexpires]
    refine .bind (.perform (.clock now)) ?_
    rw [hsince]
    dsimp only
    rw [hunexpired]
    exact .done _
  exact ⟨_, .bind (.caught (.perform (performs_getState hstored))) (.bind (hcheck _) (.done _)),
    rfl, rfl⟩

variable [ValidationTexts] {values : SupportState} {proposal : ProposedAction} {world : World}
  {e : PyError}

/-- The executor is called for a confirmed proposal; here it raises an error that its node does not
handle. -/
theorem runs_executeNode (decidedAt : DateTime) (hproposal : values.proposedAction = some proposal)
    (hbehaves : env.behaves s.world (.execute values.request.actorId proposal.orderId) (.error e)
      world) (he : isRefusal e = false) :
    ∃ s', Program.Runs (Performs env i) s
      (executeNode w (confirmationDelta values .confirm decidedAt)) (.error e) s' ∧
        ⟨i, .dependency w (.execute values.request.actorId proposal.orderId), .error e⟩ ∈
          s'.history := by
  have hnode : executeNode w (confirmationDelta values .confirm decidedAt) = (do
      let answer ← ask w (.execute values.request.actorId proposal.orderId)
      .done (executionDelta (confirmationDelta values .confirm decidedAt) answer)) := by
    unfold executeNode
    rw [show (confirmationDelta values .confirm decidedAt).proposedAction = some proposal
      from hproposal]
    rfl
  have hdone : ∀ s₁ : Shared World Id, Program.Runs (Performs env i) s₁
      (.done (executionDelta (confirmationDelta values .confirm decidedAt) (.error e))) (.error e)
      s₁ := by
    intro s₁
    unfold executionDelta
    dsimp only
    rw [he]
    exact .done _
  have hask : Program.Runs (Performs env i) s
      (ask w (.execute values.request.actorId proposal.orderId)) (.ok (.error e)) _ :=
    .caught (.perform (.dependency hbehaves))
  rw [hnode]
  exact ⟨_, .bind hask (hdone _), List.mem_append_right _ (List.mem_singleton.mpr rfl)⟩

/-- The run that a confirmation resumes. -/
theorem runs_resumeGraph (hstored : s.checkpoints w = some ⟨values, some .confirmation, true⟩)
    (hproposal : values.proposedAction = some proposal)
    (hbehaves : env.behaves s.world (.execute values.request.actorId proposal.orderId) (.error e)
      world) (he : isRefusal e = false) :
    ∃ s', Program.Runs (Performs env i) s (resumeGraph w values.request.confirmed) (.error e) s' ∧
      ⟨i, .dependency w (.execute values.request.actorId proposal.orderId), .error e⟩ ∈
        s'.history := by
  have hnode : runTask w (some values.request.confirmed) .confirmation values = (do
      invoke (.task w .confirmation)
      let decidedAt ← invoke .now
      return .update (confirmationDelta values .confirm decidedAt)) :=
    runTask_confirmation w hproposal rfl rfl rfl nofun
  have htask : ∀ s₁ : Shared World Id, ∃ s₂, Program.Runs (Performs env i) s₁
      (runTask w (some values.request.confirmed) .confirmation values)
        (.ok (.update (confirmationDelta values .confirm .epoch))) s₂ ∧ s₂.world = s₁.world := by
    intro s₁
    rw [hnode]
    exact ⟨_, .bind (.perform (.task ..)) (.bind (.perform (.now .epoch)) (.done _)), rfl⟩
  obtain ⟨s₁, hconfirmation, hworld⟩ := htask (s.record i (.resume w values.request.confirmed)
    (.ok (some ⟨values, some .confirmation, true⟩)))
  have hworld : s₁.world = s.world := hworld
  -- the executor is called in the state after its task was started
  have hstarted : env.behaves ((s₁.stored i w (some .confirmation)
      ⟨confirmationDelta values .confirm .epoch, some .executeRefund, false⟩).record i
        (.task w .executeRefund) (.ok ())).world
      (.execute values.request.actorId proposal.orderId) (.error e) world := by
    rw [← hworld] at hbehaves
    exact hbehaves
  obtain ⟨s₂, hrun, hmem⟩ := runs_executeNode (i := i) (w := w) .epoch hproposal hstarted he
  refine ⟨s₂, .bind (.perform (performs_resume hstored)) (.bind hconfirmation ?_), hmem⟩
  refine .bind (a := some .executeRefund) (.done _) (.bind (.perform (.put ..)) ?_)
  exact .bind_error (.bind (.perform (.task ..)) (.bind_error hrun))

/-- **A confirmation reaches the executor**, if it matches the request of a workflow that waits and
the clock is read before the expiry. -/
theorem runs_confirm {expiresAt now : DateTime} {elapsed : ℤ}
    (hstored : s.checkpoints w = some ⟨values, some .confirmation, true⟩)
    (hfree : s.locks w = none) (hproposal : values.proposedAction = some proposal)
    (hstatus : values.status = .awaitingConfirmation)
    (hexpires : values.request.expiresAt = some expiresAt)
    (hsince : now.since expiresAt = some elapsed) (hlt : elapsed < 0)
    (hbehaves : env.behaves s.world (.execute values.request.actorId proposal.orderId) (.error e)
      world) (he : isRefusal e = false) :
    ∃ s', Program.Runs (Performs env i) s
      (confirm w values.request.actorId values.request.requestId) (.error e) s' ∧
        ⟨i, .dependency w (.execute values.request.actorId proposal.orderId), .error e⟩ ∈
          s'.history := by
  have hdecision : checkDecision (Checkpoint.response ⟨values, some .confirmation, true⟩ false)
      values.request.actorId values.request.requestId = .ok () := by
    simp [checkDecision, Checkpoint.response, hstatus, raiseIf]
    rfl
  have hacquired : ((s.withLock w (some i)).record i (.acquire w) (.ok ())).checkpoints w =
      some ⟨values, some .confirmation, true⟩ := hstored
  obtain ⟨s₁, hinspect, hsame, hworld⟩ := runs_inspect hacquired hexpires hsince hlt
  obtain ⟨s₂, hresume, hmem⟩ := runs_resumeGraph (s := s₁) (i := i) (by rw [hsame]; exact hstored)
    hproposal (by rw [hworld]; exact hbehaves) he
  have hdecide : Program.Runs (Performs env i)
      ((s.withLock w (some i)).record i (.acquire w) (.ok ()))
      (decide w values.request.actorId values.request.requestId .confirm) (.error e) s₂ := by
    refine .bind hinspect (.bind (a := ()) ?_ (.bind_error hresume))
    rw [hdecision]
    exact .done _
  exact ⟨_, .bind (.perform (.acquire hfree)) (.bind (.caught hdecide)
    (.bind (.perform (.release w)) (.done _))), List.mem_append_left _ hmem⟩

end ObservabilityLab.Workflow
