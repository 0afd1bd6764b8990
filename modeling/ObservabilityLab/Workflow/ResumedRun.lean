import ObservabilityLab.Workflow.StartRun

/-!
# The run that resumes a workflow

A decision is taken under the lock of its workflow. The run that it resumes goes from the
confirmation to the executor at most once, and only if the decision was to confirm.

## Main definitions

* `Inspected`, `Unexpired`: what a call knows of a workflow that it inspected

## Main results

* `proves_runGraph_decided`: the run behind a decision
* `Inspected.accepted`: a resume command is an accepted decision
* `proves_resume`: a confirmation or a rejection keeps what holds in every run of the service
-/

namespace ObservabilityLab.Workflow

open Python Interleaving RelyGuarantee Histories

variable {World Id : Type} {env : Environment World} {calls : Id → ServiceCall} {i : Id}
  {w : String} [ValidationTexts]

/-! ## The run that resumes a workflow -/

omit [ValidationTexts] in
theorem stable_holds : (conduct env calls i).Stable (Holds calls i w) :=
  fun _ _ hrely h => h.of_rely hrely

omit [ValidationTexts] in
theorem stable_holdsDecided {events : List (Event Id)} {checkpoint : Checkpoint} :
    (conduct env calls i).Stable (HoldsDecided calls i w events checkpoint) :=
  fun _ _ hrely h => h.of_rely hrely

omit [ValidationTexts] in
/-- A program of quiet calls of the holder of a lock. -/
theorem proves_holds_of_along {α : Type} {x : Flow α} {R : Except PyError α → Prop}
    (hx : x.Along Op.Quiet R) :
    (conduct env calls i).Proves (Holds calls i w) x fun result s => Holds calls i w s ∧ R result :=
  Conduct.proves_of_along hx stable_holds fun _ _ _ _ hquiet hs hperforms =>
    ⟨Performs.guarantee hperforms hquiet, hs.quiet hperforms hquiet⟩

omit [ValidationTexts] in
theorem proves_decided_of_along {α : Type} {x : Flow α} {R : Except PyError α → Prop}
    {events : List (Event Id)} {checkpoint : Checkpoint} (hx : x.Along Op.Quiet R) :
    (conduct env calls i).Proves (HoldsDecided calls i w events checkpoint) x
      fun result s => HoldsDecided calls i w events checkpoint s ∧ R result :=
  Conduct.proves_of_along hx stable_holdsDecided fun _ _ _ _ hquiet hs hperforms =>
    ⟨Performs.guarantee hperforms hquiet, hs.quiet hperforms hquiet⟩

omit [ValidationTexts] in
/-- A checkpoint of a workflow that its caller decided. -/
theorem proves_put_decided {events : List (Event Id)} {checkpoint checkpoint' : Checkpoint}
    {node : Node} (hrunning : checkpoint'.interrupted = false)
    (hrequest : checkpoint'.values.request = checkpoint.values.request) :
    (conduct env calls i).Proves (HoldsDecided calls i w events checkpoint)
      (invoke (.put w (some node) checkpoint'))
      fun _ => HoldsDecided calls i w events checkpoint' := by
  refine Conduct.proves_perform stable_holdsDecided ?_ fun _ => stable_holdsDecided
  intro s answer s' hs hperforms
  cases hperforms with
  | put => exact hs.put hrunning hrequest

/-- The nodes that end a resumed run. -/
theorem along_runNode_end {thread : String} {resume : Option ResumeDecision} {node : Node}
    {state : SupportState} (hnode : node = .reject ∨ node = .escalate) :
    (runNode thread resume node state).Along Op.Quiet
      (Returning fun result => ∃ state', result = .update state' ∧ state.Kept state') := by
  have hupdate : ∀ {x : Flow SupportState}, x.Along Op.Quiet (Returning state.Kept) →
      (do return NodeResult.update (← x) : Flow NodeResult).Along Op.Quiet
        (Returning fun result => ∃ state', result = .update state' ∧ state.Kept state') :=
    fun hx => Program.along_bind hx
      (fun state' hkept => along_done (returning_ok ⟨state', rfl, hkept state' rfl⟩))
      fun _ _ => returning_error
  rcases hnode with rfl | rfl
  · exact hupdate along_rejectionNode
  · exact hupdate along_escalationNode

/-- The end of a resumed run. -/
theorem proves_runGraph_end {resume : Option ResumeDecision} {events : List (Event Id)}
    {checkpoint : Checkpoint} {node : Node} {state : SupportState} (steps : ℕ)
    (hnode : node = .reject ∨ node = .escalate) (hrunning : checkpoint.interrupted = false)
    (hrequest : state.request = checkpoint.values.request) :
    (conduct env calls i).Proves (HoldsDecided calls i w events checkpoint)
      (runGraph w resume steps node state) fun _ => Holds calls i w := by
  cases steps with
  | zero => exact Conduct.proves_done stable_holdsDecided fun s hs => hs.holds hrunning
  | succ steps =>
    refine Conduct.proves_bind
      (proves_decided_of_along (along_runTask (along_runNode_end hnode))) (fun result => ?_)
      fun _ s hs => hs.1.holds hrunning
    refine proves_of_fact fun hresult => ?_
    obtain ⟨state', rfl, hkept⟩ := hresult _ rfl
    have hnext : afterNode state' node = .ok none := by
      rcases hnode with rfl | rfl
      · rfl
      · rfl
    dsimp only
    rw [hnext, Program.done_ok_bind]
    exact Conduct.proves_bind (proves_put_decided rfl (hkept.request.trans hrequest))
      (fun _ => Conduct.proves_done stable_holdsDecided fun s hs => hs.holds rfl)
      fun _ s hs => hs.holds rfl

/-- **The run behind a confirmation** calls the executor once. -/
theorem proves_runGraph_execute {resume : Option ResumeDecision} {decision : ResumeDecision}
    {snapshot checkpoint : Checkpoint} {proposal : ProposedAction} {confirmation : Confirmation}
    {state : SupportState} (steps : ℕ)
    (hconfirm : decision.decision = ConfirmationDecision.confirm.value)
    (hproposal : snapshot.values.proposedAction = some proposal)
    (hstate : state.proposedAction = some proposal)
    (hconfirmation : state.confirmation = some confirmation)
    (hconfirmed : confirmation.decision = .confirm)
    (hactor : snapshot.values.request.actorId = confirmation.actorId)
    (hrunning : checkpoint.interrupted = false)
    (hrequest : state.request = checkpoint.values.request) :
    (conduct env calls i).Proves
      (HoldsDecided calls i w [⟨i, .resume w decision, .ok (some snapshot)⟩] checkpoint)
      (runGraph w resume steps .executeRefund state) fun _ => Holds calls i w := by
  cases steps with
  | zero => exact Conduct.proves_done stable_holdsDecided fun s hs => hs.holds hrunning
  | succ steps =>
    -- the executor is called once, whatever it answers
    have hnode : (conduct env calls i).Proves
        (HoldsDecided calls i w [⟨i, .resume w decision, .ok (some snapshot)⟩] checkpoint)
        (runTask w resume .executeRefund state) fun result s =>
          (∃ events, HoldsDecided calls i w events checkpoint s) ∧
            Returning (fun r => ∃ state', r = .update state' ∧ state.Kept state') result := by
      refine Conduct.proves_bind (proves_decided_of_along (along_invoke trivial)) (fun _ => ?_)
        fun _ s hs => ⟨⟨_, hs.1⟩, returning_error⟩
      refine Conduct.proves_mono (P := HoldsDecided calls i w
        [⟨i, .resume w decision, .ok (some snapshot)⟩] checkpoint) ?_ (fun s hs => hs.1)
        fun _ _ hs => hs
      unfold runNode executeNode
      dsimp only
      rw [hstate, hconfirmation]
      dsimp only
      rw [if_neg (not_not.mpr hconfirmed)]
      refine Conduct.proves_call
        (R := fun _ s => ∃ events, HoldsDecided calls i w events checkpoint s)
        stable_holdsDecided (fun s answer s' hs hperforms => ?_) fun answer => ?_
      · obtain ⟨hguarantee, hdecided⟩ := hs.execute hconfirm hactor hproposal rfl hperforms
        exact ⟨hguarantee, _, hdecided⟩
      · change (conduct env calls i).Proves _ (Program.done (executionDelta state answer) >>=
          fun state' => Program.done (.ok (NodeResult.update state'))) _
        have hstable : (conduct env calls i).Stable
            (fun s => ∃ events, HoldsDecided calls i w events checkpoint s) :=
          fun _ _ hrely ⟨events, h⟩ => ⟨events, h.of_rely hrely⟩
        cases hdelta : executionDelta state answer with
        | error e =>
          exact Conduct.proves_done hstable fun s hs => ⟨hs, returning_error⟩
        | ok state' =>
          exact Conduct.proves_done hstable fun s hs =>
            ⟨hs, returning_ok ⟨state', rfl, kept_executionDelta state' hdelta⟩⟩
    refine Conduct.proves_bind hnode (fun result => ?_) fun _ s hs => hs.1.elim fun _ h =>
      h.holds hrunning
    refine proves_of_fact fun hresult => ?_
    obtain ⟨state', rfl, hkept⟩ := hresult _ rfl
    rintro s ⟨events, hs⟩
    revert s
    change (conduct env calls i).Proves (HoldsDecided calls i w events checkpoint) _ _
    dsimp only [afterNode, afterExecution]
    rw [Program.done_ok_bind]
    refine Conduct.proves_bind (proves_put_decided rfl (hkept.request.trans hrequest)) (fun _ => ?_)
      fun _ s hs => hs.holds rfl
    by_cases hescalated : state'.escalation.isSome = true
    · rw [if_pos hescalated]
      exact proves_runGraph_end steps (Or.inr rfl) rfl rfl
    · rw [if_neg hescalated]
      exact Conduct.proves_done stable_holdsDecided fun s hs => hs.holds rfl

/-- **The run that resumes a workflow** on an accepted decision. -/
theorem proves_runGraph_decided {decision : ResumeDecision} {snapshot : Checkpoint}
    {proposal : ProposedAction} {d : ConfirmationDecision} (steps : ℕ)
    (hproposal : snapshot.values.proposedAction = some proposal)
    (hactor : decision.actorId = snapshot.values.request.actorId.str)
    (hrequest : decision.requestId = snapshot.values.request.requestId)
    (hd : decision.decision = d.value) (hpending : d ≠ .pending) :
    (conduct env calls i).Proves
      (HoldsDecided calls i w [⟨i, .resume w decision, .ok (some snapshot)⟩] snapshot)
      (runGraph w (some decision) (steps + 1) .confirmation snapshot.values)
      fun _ => Holds calls i w := by
  -- until the checkpoint behind the confirmation is stored, no call may raise
  have hcall : ∀ op : Op, op.Quiet → (∀ s answer s', Performs env i s op answer s' →
      ∃ a, answer = .ok a) → (conduct env calls i).Proves
        (HoldsDecided calls i w [⟨i, .resume w decision, .ok (some snapshot)⟩] snapshot) (invoke op)
        fun answer s =>
          HoldsDecided calls i w [⟨i, .resume w decision, .ok (some snapshot)⟩] snapshot s ∧
            ∃ a, answer = .ok a :=
    fun op hquiet hok => Conduct.proves_perform stable_holdsDecided
      (fun s answer s' hs hperforms => ⟨Performs.guarantee hperforms hquiet,
        hs.quiet hperforms hquiet, hok s answer s' hperforms⟩)
      fun _ _ _ hrely h => ⟨h.1.of_rely hrely, h.2⟩
  have hrun : (conduct env calls i).Proves
      (HoldsDecided calls i w [⟨i, .resume w decision, .ok (some snapshot)⟩] snapshot)
      (runTask w (some decision) .confirmation snapshot.values) fun result s =>
        HoldsDecided calls i w [⟨i, .resume w decision, .ok (some snapshot)⟩] snapshot s ∧
          ∃ decidedAt, result = .ok (.update (confirmationDelta snapshot.values d decidedAt)) := by
    rw [runTask_confirmation w hproposal hactor hrequest hd hpending]
    refine Conduct.proves_bind (hcall _ trivial fun _ _ _ h => ?_) (fun _ => ?_) ?_
    · cases h with
      | task => exact ⟨_, rfl⟩
    · refine Conduct.proves_bind (Conduct.proves_mono (hcall .now trivial
        fun _ _ _ h => ?_) (fun _ hs => hs.1) fun _ _ hs => hs) (fun decidedAt => ?_) ?_
      · cases h with
        | now time => exact ⟨_, rfl⟩
      · exact Conduct.proves_mono (Conduct.proves_done stable_holdsDecided
          fun s hs => ⟨hs, decidedAt, rfl⟩) (fun _ hs => hs.1) fun _ _ hs => hs
      · rintro e s ⟨-, a, h⟩
        cases h
    · rintro e s ⟨-, a, h⟩
      cases h
  refine Conduct.proves_bind hrun (fun result => ?_) ?_
  · refine proves_of_fact ?_
    rintro ⟨decidedAt, h⟩
    obtain rfl := Except.ok.inj h
    have hnext : afterNode (confirmationDelta snapshot.values d decidedAt) .confirmation =
        .ok (some (if d = .confirm then .executeRefund else .reject)) := rfl
    dsimp only
    rw [hnext, Program.done_ok_bind]
    refine Conduct.proves_bind (proves_put_decided rfl rfl) (fun _ => ?_) fun _ s hs => hs.holds rfl
    dsimp only
    by_cases hconfirm : d = .confirm
    · rw [if_pos hconfirm]
      refine proves_runGraph_execute steps (by rw [hd, hconfirm]) hproposal hproposal rfl hconfirm
        rfl rfl rfl
    · rw [if_neg hconfirm]
      exact proves_runGraph_end steps (Or.inl rfl) rfl rfl
  · rintro e s ⟨-, decidedAt, h⟩
    cases h

/-! ## Decisions -/

/-- What a call knows of a checkpoint that it read under the lock of its workflow. -/
structure Inspected (calls : Id → ServiceCall) (i : Id) (w : String) (snapshot : Checkpoint)
    (s : Shared World Id) : Prop where
  holds : Holds calls i w s
  waits : snapshot.interrupted = true → s.checkpoints w = some snapshot

omit [ValidationTexts] in
theorem Inspected.of_rely {snapshot : Checkpoint} {s s' : Shared World Id}
    (h : Inspected calls i w snapshot s) (hrely : Rely calls i s s') :
    Inspected calls i w snapshot s' where
  holds := h.holds.of_rely hrely
  waits hwaits := by
    have hstored := h.waits hwaits
    rw [(hrely.held w h.holds.lock (Or.inl ⟨snapshot, hstored, hwaits⟩)).1, hstored]

/-- The clock was read before the expiry of a workflow. -/
def Unexpired (i : Id) (state : SupportState) (s : Shared World Id) : Prop :=
  ∀ expiresAt, state.request.expiresAt = some expiresAt → ∃ now elapsed,
    ⟨i, .clock, .ok now⟩ ∈ s.history ∧ now.since expiresAt = some elapsed ∧ elapsed < 0

omit [ValidationTexts] in
theorem Inspected.quiet {snapshot : Checkpoint} {s s' : Shared World Id} {op : Op}
    {answer : Except PyError op.Answer} (h : Inspected calls i w snapshot s)
    (hperforms : Performs env i s op answer s') (hquiet : op.Quiet) :
    Inspected calls i w snapshot s' where
  holds := h.holds.quiet hperforms hquiet
  waits hwaits := by rw [(hperforms.quiet hquiet).1, h.waits hwaits]

omit [ValidationTexts] in
theorem Unexpired.mono {state : SupportState} {s s' : Shared World Id} (h : Unexpired i state s)
    (hgrows : s.history <+: s'.history) : Unexpired i state s' := by
  intro expiresAt hexpires
  obtain ⟨now, elapsed, hmem, hsince, hlt⟩ := h expiresAt hexpires
  exact ⟨now, elapsed, hgrows.subset hmem, hsince, hlt⟩

omit [ValidationTexts] in
/-- The check of the expiry reads the clock. -/
theorem proves_checkNotExpired {snapshot : Checkpoint} :
    (conduct env calls i).Proves (Inspected calls i w snapshot) (checkNotExpired snapshot.values)
      fun result s => Inspected calls i w snapshot s ∧
        Returning (fun _ => Unexpired i snapshot.values s) result := by
  have hstable : (conduct env calls i).Stable (Inspected calls i w snapshot) :=
    fun _ _ hrely h => h.of_rely hrely
  unfold checkNotExpired
  cases hexpires : snapshot.values.request.expiresAt with
  | none =>
    refine Conduct.proves_done hstable fun s hs => ⟨hs, returning_ok ?_⟩
    intro expiresAt h
    rw [hexpires] at h
    cases h
  | some expiresAt =>
    refine Conduct.proves_bind (Q := fun answer s => Inspected calls i w snapshot s ∧
      ∀ now, answer = .ok now → ⟨i, .clock, .ok now⟩ ∈ s.history)
      (Conduct.proves_perform hstable (fun s answer s' hs hperforms => ?_)
        fun _ _ _ hrely h => ⟨h.1.of_rely hrely,
          fun now heq => (Rely.grows hrely).subset (h.2 now heq)⟩) (fun now => ?_)
      fun _ s hs => ⟨hs.1, returning_error⟩
    · refine ⟨Performs.guarantee hperforms trivial, hs.quiet hperforms trivial, ?_⟩
      rintro now rfl
      rw [(hperforms.quiet trivial).2.2]
      exact List.mem_append_right _ (List.mem_singleton.mpr rfl)
    · have hread : (conduct env calls i).Stable fun s => Inspected calls i w snapshot s ∧
          ∀ now', Except.ok now = Except.ok (ε := PyError) now' →
            ⟨i, .clock, .ok now'⟩ ∈ s.history :=
        fun _ _ hrely h => ⟨h.1.of_rely hrely,
          fun now' heq => (Rely.grows hrely).subset (h.2 now' heq)⟩
      cases hsince : now.since expiresAt with
      | none => exact Conduct.proves_done hread fun s hs => ⟨hs.1, returning_error⟩
      | some elapsed =>
        refine Conduct.proves_done hread fun s hs => ⟨hs.1, ?_⟩
        intro _ hok expiresAt' h
        rw [hexpires, Option.some.injEq] at h
        subst h
        have hlt := raiseIf_eq_ok.mp hok
        exact ⟨now, elapsed, hs.2 now rfl, hsince, by simpa using hlt⟩

omit [ValidationTexts] in
/-- The service reads a workflow that is not expired. -/
theorem proves_inspect :
    (conduct env calls i).Proves (Holds calls i w) (inspect w) fun result s =>
      Holds calls i w s ∧ Returning (fun response => ∃ snapshot,
        response = snapshot.response false ∧ Inspected calls i w snapshot s ∧
          Unexpired i snapshot.values s) result := by
  have hread : (conduct env calls i).Proves (Holds calls i w) (invoke (.getState w)).caught
      fun result s => Holds calls i w s ∧ ∀ snapshot, result = .ok (.ok (some snapshot)) →
        Inspected calls i w snapshot s := by
    refine Conduct.proves_caught (Q := fun answer s => Holds calls i w s ∧
      ∀ snapshot, answer = .ok (some snapshot) → Inspected calls i w snapshot s)
      (Conduct.proves_perform stable_holds (fun s answer s' hs hperforms => ?_)
        fun _ _ _ hrely h =>
          ⟨h.1.of_rely hrely, fun snapshot heq => (h.2 snapshot heq).of_rely hrely⟩)
      fun answer s hs => ⟨hs.1, fun snapshot heq => hs.2 snapshot (Except.ok.inj heq)⟩
    refine ⟨Performs.guarantee hperforms trivial, hs.quiet hperforms trivial, ?_⟩
    intro snapshot heq
    refine ⟨hs.quiet hperforms trivial, fun _ => ?_⟩
    cases hperforms with
    | getState => exact Except.ok.inj heq
  refine Conduct.proves_bind hread (fun answer => ?_) fun _ s hs => ⟨hs.1, returning_error⟩
  have hstable : ∀ snapshot, (conduct env calls i).Stable (Inspected calls i w snapshot) :=
    fun _ _ _ hrely h => h.of_rely hrely
  have hnotFound : (conduct env calls i).Proves (Holds calls i w)
      (.done (.error workflowNotFound)) fun result s => Holds calls i w s ∧
        Returning (fun response => ∃ snapshot, response = snapshot.response false ∧
          Inspected calls i w snapshot s ∧ Unexpired i snapshot.values s) result :=
    Conduct.proves_done stable_holds fun s hs => ⟨hs, returning_error⟩
  rcases answer with e | _ | snapshot
  · exact Conduct.proves_mono hnotFound (fun _ hs => hs.1) fun _ _ hs => hs
  · exact Conduct.proves_mono hnotFound (fun _ hs => hs.1) fun _ _ hs => hs
  · refine Conduct.proves_mono (P := Inspected calls i w snapshot) ?_ (fun s hs => hs.2 _ rfl)
      fun _ _ hs => hs
    refine Conduct.proves_bind proves_checkNotExpired (fun _ => ?_)
      fun _ s hs => ⟨hs.1.holds, returning_error⟩
    refine Conduct.proves_done (fun _ _ hrely h => ⟨h.1.of_rely hrely,
      h.2.mono fun _ hunexpired => hunexpired.mono (Rely.grows hrely)⟩) fun s hs => ?_
    exact ⟨hs.1.holds, returning_ok ⟨snapshot, rfl, hs.1, hs.2 _ rfl⟩⟩

omit [ValidationTexts] in
/-- **A resume command is an accepted decision** on the checkpoint that was inspected. -/
theorem Inspected.accepted {snapshot : Checkpoint} {s : Shared World Id} {actorId : Uuid}
    {requestId : String} {d : ConfirmationDecision} (h : Inspected calls i w snapshot s)
    (hunexpired : Unexpired i snapshot.values s)
    (hcheck : checkDecision (snapshot.response false) actorId requestId = .ok ())
    (hdecides : (calls i).Decides w actorId requestId d) :
    Accepted calls s.history i w ⟨d.value, actorId.str, requestId⟩ snapshot := by
  obtain ⟨hactor, hrequest, hawaiting, hwaits⟩ := checkDecision_eq_ok hcheck
  have hstored := h.waits hwaits
  obtain ⟨k, hstarts⟩ := h.holds.safe.started w snapshot hstored
  obtain ⟨given, expiresAt, -, heq⟩ := hstarts.1
  have hexpires : snapshot.values.request.expiresAt = some expiresAt := by rw [heq]; rfl
  obtain ⟨now, elapsed, hclock, hsince, hlt⟩ := hunexpired expiresAt hexpires
  exact {
    first := h.holds.undecided ⟨snapshot, hstored, hwaits⟩
    interrupted := hwaits
    awaiting := hawaiting
    unexpired := ⟨now, expiresAt, elapsed, hclock, hexpires, hsince, hlt⟩
    decides := ⟨d, rfl, by rw [hactor, hrequest]; exact hdecides⟩
    started := ⟨k, hstarts⟩ }

/-- **A decision** under the lock of its workflow. -/
theorem proves_decide {actorId : Uuid} {requestId : String} {d : ConfirmationDecision}
    (hpending : d ≠ .pending) (hdecides : (calls i).Decides w actorId requestId d) :
    (conduct env calls i).Proves (Holds calls i w) (decide w actorId requestId d)
      fun _ => Holds calls i w := by
  refine Conduct.proves_bind proves_inspect (fun current => ?_) fun _ s hs => hs.1
  -- what was read before stays true of the workflow while other calls run
  suffices hsnapshot : ∀ snapshot, (conduct env calls i).Proves
      (fun s => Inspected calls i w snapshot s ∧ Unexpired i snapshot.values s)
      (do
        .done (checkDecision (snapshot.response false) actorId requestId)
        let interrupted ← resumeGraph w ⟨d.value, actorId.str, requestId⟩
        respond w interrupted) fun _ => Holds calls i w by
    rintro s ⟨-, hs⟩
    obtain ⟨snapshot, rfl, hinspected⟩ := hs current rfl
    exact hsnapshot snapshot s hinspected
  intro snapshot
  have hstable : (conduct env calls i).Stable
      fun s => Inspected calls i w snapshot s ∧ Unexpired i snapshot.values s :=
    fun _ _ hrely h => ⟨h.1.of_rely hrely, h.2.mono (Rely.grows hrely)⟩
  -- a decision that a check refuses changes nothing
  cases hcheck : checkDecision (snapshot.response false) actorId requestId with
  | error e => exact Conduct.proves_done hstable fun s hs => hs.1.holds
  | ok _ =>
    rw [Program.done_ok_bind]
    obtain ⟨hactor, hrequest, -, hwaits⟩ := checkDecision_eq_ok hcheck
    refine Conduct.proves_bind (Q := fun _ => Holds calls i w) ?_ (fun interrupted =>
      Conduct.proves_mono (proves_holds_of_along along_respond) (fun _ hs => hs) fun _ _ hs => hs.1)
      fun _ _ hs => hs
    refine Conduct.proves_call (R := fun answer s =>
      HoldsDecided calls i w [⟨i, .resume w ⟨d.value, actorId.str, requestId⟩, .ok (some snapshot)⟩]
        snapshot s ∧ (answer = .ok (some snapshot) ∧ snapshot.next = some .confirmation ∧
          snapshot.values.proposedAction.isSome = true)) hstable
      (fun s answer s' hs hperforms => ?_) fun answer => ?_
    · have hstored := hs.1.waits hwaits
      obtain ⟨hguarantee, hdecided⟩ := hs.1.holds.resume hstored
        (hs.1.accepted hs.2 hcheck hdecides)
      cases hperforms with
      | resume => exact ⟨hguarantee, hdecided, by rw [hstored],
          hs.1.holds.safe.interrupted w snapshot hstored hwaits⟩
    · refine proves_of_fact ?_
      rintro ⟨rfl, hnext, hproposal⟩
      obtain ⟨proposal, hproposal⟩ := Option.isSome_iff_exists.mp hproposal
      obtain ⟨values, next, interrupted⟩ := snapshot
      obtain rfl : next = some .confirmation := hnext
      exact proves_runGraph_decided 24 hproposal (by rw [hactor]) hrequest.symm rfl hpending

/-- **A confirmation or a rejection.** -/
theorem proves_resume {actorId : Uuid} {requestId : String} {d : ConfirmationDecision}
    (hpending : d ≠ .pending) (hdecides : (calls i).Decides w actorId requestId d) :
    (conduct env calls i).Proves (Safe calls) (resume w actorId requestId d)
      fun _ s => Safe calls s := by
  refine Conduct.proves_bind (Q := fun _ => Holds calls i w)
    (Conduct.proves_perform stable_safe (fun s answer s' hs hperforms => ?_) fun _ => stable_holds)
    (fun _ => ?_) fun _ s hs => hs.safe
  · cases hperforms with
    | acquire hfree => exact hs.acquire hfree
  · refine Conduct.proves_bind (Q := fun _ => Holds calls i w)
      (Conduct.proves_caught (proves_decide hpending hdecides) fun _ _ hs => hs) (fun result => ?_)
      fun _ s hs => hs.safe
    refine Conduct.proves_bind (Q := fun _ => Safe calls)
      (Conduct.proves_perform stable_holds (fun s answer s' hs hperforms => ?_)
        fun _ => stable_safe) (fun _ => Conduct.proves_done stable_safe fun _ hs => hs)
      fun _ _ hs => hs
    cases hperforms with
    | release => exact hs.release

end ObservabilityLab.Workflow
