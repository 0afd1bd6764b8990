import ObservabilityLab.Workflow.Steps

/-!
# Every run ends decided

Where every dependency answers validly, or raises an error that its node handles, a run of the
support graph waits for its confirmation or ends with a response, and a decision ends a run that
waits. Every node is completed at most once, with at most two attempts, and a workflow is escalated
exactly if a ticket was created for it.

## Main definitions

* `Finished`: what a run from a node came to
* `WorkflowRun`: the run that starts a workflow, and the ones that accepted decisions resume
* `EndsDecided`: what every such run comes to

## Main results

* `finished_runGraph`, `finished_resumeGraph`: the runs from a node, and behind a decision
* `endsDecided_of_handled`: every run ends decided
-/

namespace ObservabilityLab.Workflow

open Python

variable {World Id : Type}

/-! ## Runs from a node -/

/-- The limits of a run from a node. -/
structure Within (node : Node) (attempts completions : Node → ℕ) : Prop where
  attempted : ∀ n : Node, attempts n ≤ if n.retries then 2 else 1
  completed : ∀ n : Node, completions n ≤ 1
  earlier : ∀ n : Node, n.rank < node.rank → attempts n = 0 ∧ completions n = 0

/-- A run from a node waits for its confirmation, or ends. -/
inductive Stopped (node : Node) (attempts completions : Node → ℕ) :
    Bool → Checkpoint → ℕ → Prop where
  | waits {values : SupportState} (hready : Ready .confirmation values)
      (hnode : node.rank ≤ Node.confirmation.rank)
      (hattempts : ∀ n : Node, Node.confirmation.rank < n.rank → attempts n = 0)
      (hcompletions : ∀ n : Node, Node.confirmation.rank ≤ n.rank → completions n = 0) :
      Stopped node attempts completions true ⟨values, some .confirmation, true⟩ 0
  | ends {values : SupportState} {tickets : ℕ} (hover : Over values tickets) :
      Stopped node attempts completions false ⟨values, none, false⟩ tickets

/-- What a run from a node came to. -/
def Finished (w : String) (node : Node) (s s' : Shared World Id) (final : Except PyError Bool) :
    Prop :=
  ∃ interrupted checkpoint attempts completions tickets, final = .ok interrupted ∧
    s'.checkpoints w = some checkpoint ∧ Passed w s s' attempts completions tickets ∧
    Within node attempts completions ∧
    Stopped node attempts completions interrupted checkpoint tickets

variable {w : String} {s s' : Shared World Id} {i : Id} {node : Node}

theorem rank_ne {n n' : Node} (h : n.rank ≠ n'.rank) : n ≠ n' := by
  rintro rfl
  exact h rfl

/-- A node, with nothing behind it. -/
theorem within_single {count : ℕ} (hcount : count ≤ if node.retries then 2 else 1)
    {completed : ℕ} (hcompleted : completed ≤ 1) :
    Within node (Pi.single node count) (Pi.single node completed) where
  attempted n := by
    by_cases h : n = node
    · subst h
      rw [Pi.single_eq_same]
      exact hcount
    · rw [Pi.single_eq_of_ne h]
      exact Nat.zero_le _
  completed n := by
    by_cases h : n = node
    · subst h
      rw [Pi.single_eq_same]
      exact hcompleted
    · rw [Pi.single_eq_of_ne h]
      exact Nat.zero_le _
  earlier n hlt := by
    have hne : n ≠ node := rank_ne hlt.ne
    exact ⟨Pi.single_eq_of_ne hne _, Pi.single_eq_of_ne hne _⟩

/-- A node, and a run from a later one. -/
theorem Within.cons {next : Node} {attempts completions : Node → ℕ} {count : ℕ}
    (h : Within next attempts completions) (hrank : node.rank < next.rank)
    (hcount : count ≤ if node.retries then 2 else 1) :
    Within node (Pi.single node count + attempts) (Pi.single node 1 + completions) := by
  have hone := within_single hcount (le_refl 1)
  constructor
  · intro n
    by_cases hn : n.rank < next.rank
    · rw [Pi.add_apply, (h.earlier n hn).1, Nat.add_zero]
      exact hone.attempted n
    · rw [Pi.add_apply, Pi.single_eq_of_ne (rank_ne (by omega)), Nat.zero_add]
      exact h.attempted n
  · intro n
    by_cases hn : n.rank < next.rank
    · rw [Pi.add_apply, (h.earlier n hn).2, Nat.add_zero]
      exact hone.completed n
    · rw [Pi.add_apply, Pi.single_eq_of_ne (rank_ne (by omega)), Nat.zero_add]
      exact h.completed n
  · intro n hn
    have hlater := h.earlier n (hn.trans hrank)
    have hbefore := hone.earlier n hn
    rw [Pi.add_apply, Pi.add_apply, hlater.1, hlater.2, hbefore.1, hbefore.2]
    exact ⟨rfl, rfl⟩

theorem Stopped.cons {next : Node} {attempts completions : Node → ℕ} {count : ℕ}
    {interrupted : Bool} {checkpoint : Checkpoint} {tickets : ℕ}
    (h : Stopped next attempts completions interrupted checkpoint tickets)
    (hrank : node.rank < next.rank) :
    Stopped node (Pi.single node count + attempts) (Pi.single node 1 + completions) interrupted
      checkpoint tickets := by
  cases h with
  | waits hready hnode hattempts hcompletions =>
    refine .waits hready (hrank.le.trans hnode) (fun n hn => ?_) fun n hn => ?_
    · rw [Pi.add_apply, hattempts n hn, Pi.single_eq_of_ne (rank_ne (by omega))]
    · rw [Pi.add_apply, hcompletions n hn, Pi.single_eq_of_ne (rank_ne (by omega))]
  | ends hover => exact .ends hover

theorem checkpoints_stored (s : Shared World Id) (i : Id) (w : String) (completed : Option Node)
    (checkpoint : Checkpoint) :
    (s.stored i w completed checkpoint).checkpoints w = some checkpoint :=
  Function.update_self ..

section Runs

variable [ValidationTexts] {env : Environment World} {I : World → Prop} {state : SupportState}
  {resume : Option ResumeDecision} {final : Except PyError Bool}

/-- A node that the run steps over, and the run behind it. If it waits, the node came before the
confirmation. -/
theorem finished_of_steps {steps tickets : ℕ}
    (hstep : ∀ result s₁, Program.Runs (Performs env i) s (runTask w resume node state) result s₁ →
      StepsTo w I node s s₁ result tickets)
    (hrest : ∀ (next : Node) state' (s₁ : Shared World Id), Ready next state' →
      node.rank < next.rank → I s₁.world →
      Program.Runs (Performs env i) s₁ (runGraph w resume steps next state') final s' →
        Finished w next s₁ s' final)
    (hruns : Program.Runs (Performs env i) s (runGraph w resume (steps + 1) node state) final s') :
    Finished w node s s' final ∧ (final = .ok true → node.rank < Node.confirmation.rank) := by
  rcases runs_runGraph_succ hruns with ⟨e, htask, -⟩ | ⟨result, between, htask, hruns⟩
  · obtain ⟨state', h, -⟩ := hstep _ _ htask
    cases h
  · obtain ⟨state', hresult, hworld, htasked, next, hnext, hstepped⟩ := hstep _ _ htask
    obtain rfl := Except.ok.inj hresult
    obtain ⟨count, hcount, hpassed⟩ := htasked.passed
    rcases hruns with ⟨e, herror, -⟩ | ⟨next', hnext', hruns⟩
    · rw [hnext] at herror
      cases herror
    · rw [hnext] at hnext'
      obtain rfl := Except.ok.inj hnext'
      have hstored := hpassed.trans (passed_stored i w between (some node) ⟨state', next, false⟩)
      rw [add_zero, zero_add, add_zero] at hstored
      cases next with
      | none =>
        obtain ⟨rfl, rfl⟩ := Program.runs_done_iff.mp hruns
        exact ⟨⟨false, _, _, _, tickets, rfl, checkpoints_stored .., hstored,
          within_single hcount le_rfl, .ends hstepped⟩, nofun⟩
      | some next =>
        obtain ⟨hready, hrank, rfl⟩ := hstepped
        obtain ⟨interrupted, checkpoint, attempts, completions, tickets, rfl, hcheckpoint, hlater,
          hwithin, hstopped⟩ := hrest next state'
            (between.stored i w (some node) ⟨state', some next, false⟩) hready hrank hworld hruns
        have hall := hstored.trans hlater
        rw [zero_add] at hall
        refine ⟨⟨interrupted, checkpoint, _, _, tickets, rfl, hcheckpoint, hall,
          hwithin.cons hrank hcount, hstopped.cons hrank⟩, fun h => ?_⟩
        cases hstopped with
        | waits hready hnode => exact hrank.trans_le hnode
        | ends hover => cases h

/-- **A run from a node** waits for its confirmation, or ends. -/
theorem finished_runGraph (hanswers : ∀ call : Dependency, env.Answers I call call.Handles)
    (steps : ℕ) (hsteps : 7 ≤ steps + node.rank) (hready : Ready node state)
    (hresume : resume = none ∨ Node.confirmation.rank < node.rank) (hworld : I s.world)
    (hruns : Program.Runs (Performs env i) s (runGraph w resume steps node state) final s') :
    Finished w node s s' final := by
  -- every edge leads to a node of a larger rank, so the steps left outlast the ranks left
  induction steps generalizing node state s with
  | zero =>
    exfalso
    revert hsteps
    cases node with
    | _ => decide
  | succ steps ih =>
    have hrest : ∀ (next : Node) state' (s₁ : Shared World Id), Ready next state' →
        node.rank < next.rank → I s₁.world →
        Program.Runs (Performs env i) s₁ (runGraph w resume steps next state') final s' →
          Finished w next s₁ s' final :=
      fun next state' s₁ hready hrank hworld hruns => ih (by omega) hready
        (hresume.imp_right hrank.trans') hworld hruns
    cases node with
    | route =>
      exact (finished_of_steps (fun _ _ => stepped_route hready (hanswers _) hworld) hrest hruns).1
    | retrieveOrder =>
      exact (finished_of_steps (fun _ _ => stepped_order hready hanswers hworld) hrest hruns).1
    | retrievePolicy =>
      exact (finished_of_steps (fun _ _ => stepped_policy hready hanswers hworld) hrest hruns).1
    | proposeRefund =>
      exact (finished_of_steps (fun _ _ => stepped_proposal hready hanswers hworld) hrest hruns).1
    | confirmation =>
      obtain rfl := hresume.resolve_right (lt_irrefl _)
      rcases runs_runGraph_succ hruns with ⟨e, htask, -⟩ | ⟨result, between, htask, hruns⟩
      · cases (interrupted_confirmation hready hworld htask).1
      · obtain ⟨hresult, -, htasked⟩ := interrupted_confirmation hready hworld htask
        obtain rfl := Except.ok.inj hresult
        obtain ⟨rfl, rfl⟩ := hruns
        obtain ⟨count, hcount, hpassed⟩ := htasked.passed
        have hstored := hpassed.trans
          (passed_stored i w between none ⟨state, some .confirmation, true⟩)
        have hwithin := within_single hcount (Nat.zero_le 1)
        rw [Pi.single_zero] at hwithin
        refine ⟨true, _, _, _, _, rfl, checkpoints_stored .., hstored, hwithin,
          .waits hready le_rfl (fun n hn => ?_) fun _ _ => rfl⟩
        exact Pi.single_eq_of_ne (rank_ne hn.ne') _
    | executeRefund =>
      exact (finished_of_steps (fun _ _ => stepped_execute hready hanswers hworld) hrest hruns).1
    | reject => exact (finished_of_steps (fun _ _ => stepped_reject hready hworld) hrest hruns).1
    | respond =>
      exact (finished_of_steps (fun _ _ => stepped_respond hready hanswers hworld) hrest hruns).1
    | escalate =>
      exact (finished_of_steps (fun _ _ => stepped_escalate hanswers hworld) hrest hruns).1

/-! ## Runs behind a decision -/

/-- **A decision ends a run that waits.** -/
theorem finished_resumeGraph {decision : ResumeDecision} {d : ConfirmationDecision}
    {values : SupportState} (hanswers : ∀ call : Dependency, env.Answers I call call.Handles)
    (hready : Ready .confirmation values) (hmatches : decision.Matches values d)
    (hstored : s.checkpoints w = some ⟨values, some .confirmation, true⟩) (hworld : I s.world)
    (hruns : Program.Runs (Performs env i) s (resumeGraph w decision) final s') :
    ∃ checkpoint attempts completions tickets, final = .ok false ∧
      s'.checkpoints w = some checkpoint ∧ Passed w s s' attempts completions tickets ∧
      Within .confirmation attempts completions ∧
      Stopped .confirmation attempts completions false checkpoint tickets := by
  rcases Program.runs_bind_iff.mp hruns with ⟨loaded, s₁, hload, hruns⟩ | ⟨e, hload, -⟩
  swap
  · cases Program.runs_perform_iff.mp hload
  have hperforms := Program.runs_perform_iff.mp hload
  have hpassed : Passed w s s₁ 0 0 0 := hperforms.passed
    { attempts := fun _ => rfl, completions := fun _ => rfl, tickets := rfl }
  have hloaded : loaded = some ⟨values, some .confirmation, true⟩ ∧ s₁.world = s.world := by
    cases hperforms with
    | resume => exact ⟨hstored, rfl⟩
  obtain ⟨rfl, hworld₁⟩ := hloaded
  dsimp only at hruns
  obtain ⟨hfinished, hwaits⟩ : Finished w .confirmation s₁ s' final ∧ _ :=
    finished_of_steps (I := I) (fun _ _ => stepped_confirmation hready hmatches (by rwa [hworld₁]))
      (fun next state' s₂ hnext hrank hworld₂ hrest =>
        finished_runGraph hanswers 24 (by omega) hnext (Or.inr hrank) hworld₂ hrest) hruns
  obtain ⟨interrupted, checkpoint, attempts, completions, tickets, rfl, hcheckpoint, hlater,
    hwithin, hstopped⟩ := hfinished
  have hall := hpassed.trans hlater
  rw [zero_add, zero_add, zero_add] at hall
  cases hstopped with
  | waits => exact absurd (hwaits rfl) (lt_irrefl _)
  | ends hover => exact ⟨_, _, _, _, rfl, hcheckpoint, hall, hwithin, .ends hover⟩

/-! ## Every run -/

/-- **A run of a workflow**: the run that starts it, and any runs that accepted decisions resume.
What happens in between leaves the checkpoint of the workflow as it is. -/
inductive WorkflowRun (env : Environment World) (w : String) (state : SupportState) :
    List (Event Id) → Except PyError Bool → Option Checkpoint → Prop where
  | start {i : Id} {s s' : Shared World Id} {events : List (Event Id)} {final : Except PyError Bool}
      (hruns : Program.Runs (Performs env i) s (runGraph w none recursionLimit .route state) final
        s')
      (hevents : s'.history = s.history ++ events) :
      WorkflowRun env w state events final (s'.checkpoints w)
  | resume {i : Id} {s s' : Shared World Id} {before events : List (Event Id)}
      {previous final : Except PyError Bool} {checkpoint : Checkpoint} {actorId : Uuid}
      {requestId : String} {d : ConfirmationDecision}
      (hbefore : WorkflowRun env w state before previous (some checkpoint))
      (hstored : s.checkpoints w = some checkpoint)
      (hdecision : checkDecision (checkpoint.response false) actorId requestId = .ok ())
      (hdecided : d ≠ .pending)
      (hruns : Program.Runs (Performs env i) s
        (resumeGraph w ⟨d.value, actorId.str, requestId⟩) final s')
      (hevents : s'.history = s.history ++ events) :
      WorkflowRun env w state (before ++ events) final (s'.checkpoints w)

/-- Every dependency answers validly, or raises an error that its node handles. -/
def Environment.Handled (env : Environment World) : Prop :=
  ∀ world call answer world', env.behaves world call answer world' → call.Handles answer

/-- **A decided checkpoint**, of a run that created some tickets. -/
structure DecidedCheckpoint (checkpoint : Checkpoint) (interrupted : Bool) (tickets : ℕ) :
    Prop where
  stored : checkpoint.interrupted = interrupted
  waits : interrupted = true → checkpoint.next = some .confirmation ∧
    checkpoint.values.status = .awaitingConfirmation ∧ checkpoint.values.Routed (· = .refund) ∧
    checkpoint.values.proposedAction.isSome = true ∧ checkpoint.values.response = none
  ends : interrupted = false → checkpoint.next = none ∧ checkpoint.values.response.isSome = true
  escalated : checkpoint.values.status = .escalated ↔ tickets = 1
  unescalated : checkpoint.values.status = .completed ∨ checkpoint.values.status = .rejected →
    tickets = 0
  undecided : checkpoint.values.Routed (· = .refund) → ¬ checkpoint.values.Decided .confirm →
    ¬ checkpoint.values.Decided .reject → checkpoint.values.status ≠ .completed

/-- **A run ends decided.** -/
structure EndsDecided (w : String) (events : List (Event Id)) (final : Except PyError Bool)
    (stored : Option Checkpoint) : Prop where
  attempts : ∀ node, events.countP (·.isTask w node) ≤ 2
  completions : ∀ node, events.countP (·.completes w node) ≤ 1
  decided : ∃ interrupted checkpoint, final = .ok interrupted ∧ stored = some checkpoint ∧
    DecidedCheckpoint checkpoint interrupted (events.countP (·.createsTicket w))

omit [ValidationTexts] in
theorem Passed.tally {events : List (Event Id)} {attempts completions : Node → ℕ} {tickets : ℕ}
    (h : Passed w s s' attempts completions tickets) (hevents : s'.history = s.history ++ events) :
    Tally w events attempts completions tickets := by
  obtain ⟨events', hevents', htally⟩ := h
  rw [hevents'] at hevents
  rwa [← List.append_cancel_left hevents]

omit [ValidationTexts] in
/-- A run that stopped is decided. -/
theorem Stopped.decided {attempts completions : Node → ℕ} {interrupted : Bool}
    {checkpoint : Checkpoint} {tickets : ℕ}
    (h : Stopped node attempts completions interrupted checkpoint tickets) :
    DecidedCheckpoint checkpoint interrupted tickets := by
  cases h with
  | waits hready =>
    have hstatus := hready.awaiting rfl
    refine ⟨rfl, fun _ => ⟨rfl, hstatus, hready.refund (Or.inr (Or.inl rfl)),
      hready.proposal (Or.inl rfl), hready.response⟩, fun h => absurd h.symm Bool.false_ne_true, ?_,
      fun _ => rfl, ?_⟩
    · rw [hstatus]
      exact iff_of_false (by decide) zero_ne_one
    · intro _ _ _
      rw [hstatus]
      decide
  | ends hover =>
    exact ⟨rfl, fun h => absurd h Bool.false_ne_true, fun _ => ⟨rfl, hover.response⟩,
      hover.escalated, hover.unescalated,
      fun hrefund hconfirm _ => hover.unconfirmed hrefund hconfirm⟩

/-- What a run of a workflow came to, so far. -/
def Summary (w : String) (events : List (Event Id)) (final : Except PyError Bool)
    (stored : Option Checkpoint) : Prop :=
  ∃ interrupted checkpoint attempts completions tickets, final = .ok interrupted ∧
    stored = some checkpoint ∧ Tally w events attempts completions tickets ∧
    (∀ n : Node, attempts n ≤ 2) ∧ (∀ n : Node, completions n ≤ 1) ∧
    (interrupted = true → ∀ n : Node, n.retries = false → attempts n ≤ 1) ∧
    Stopped .route attempts completions interrupted checkpoint tickets

omit [ValidationTexts] in
/-- A run that waits and the run that a decision resumes both try the confirmation, once each. -/
theorem attempts_le {attempts attempts' completions' : Node → ℕ}
    (hattempts : ∀ n : Node, attempts n ≤ 2)
    (honce : ∀ n : Node, n.retries = false → attempts n ≤ 1)
    (hlater : ∀ n : Node, Node.confirmation.rank < n.rank → attempts n = 0)
    (hwithin : Within .confirmation attempts' completions') (n : Node) :
    attempts n + attempts' n ≤ 2 := by
  rcases lt_trichotomy n.rank Node.confirmation.rank with hn | hn | hn
  · rw [(hwithin.earlier n hn).1]
    exact hattempts n
  · have hretries : n.retries = false := by
      revert hn
      cases n with
      | _ => decide
    have hfirst := honce n hretries
    have hsecond := hwithin.attempted n
    rw [hretries, if_neg Bool.false_ne_true] at hsecond
    omega
  · rw [hlater n hn, Nat.zero_add]
    refine (hwithin.attempted n).trans ?_
    split
    · exact le_rfl
    · exact Nat.le_succ 1

theorem summary_of_run {runId : String} {request : WorkflowRequest} {expiresAt : DateTime}
    {events : List (Event Id)} {stored : Option Checkpoint} (henv : env.Handled)
    (hrun : WorkflowRun env w (initialState request w runId expiresAt) events final stored) :
    Summary w events final stored := by
  have hanswers : ∀ call : Dependency, env.Answers (fun _ => True) call call.Handles :=
    fun call world answer world' _ hbehaves => ⟨henv world call answer world' hbehaves, trivial⟩
  -- on the run of the workflow: its start, and then one decision after the other
  induction hrun with
  | start hruns hevents =>
    have hready : Ready .route (initialState request w runId expiresAt) :=
      ⟨rfl, fun _ => rfl, nofun, nofun, nofun, nofun, nofun, nofun, nofun⟩
    obtain ⟨interrupted, checkpoint, attempts, completions, tickets, rfl, hcheckpoint, hpassed,
      hwithin, hstopped⟩ :=
      finished_runGraph hanswers recursionLimit (by decide) hready (Or.inl rfl) trivial hruns
    refine ⟨interrupted, checkpoint, attempts, completions, tickets, rfl, hcheckpoint,
      hpassed.tally hevents, fun n => ?_, hwithin.completed, fun _ n hn => ?_, hstopped⟩
    · refine (hwithin.attempted n).trans ?_
      split
      · exact le_rfl
      · exact Nat.le_succ 1
    · have hn' := hwithin.attempted n
      rwa [hn] at hn'
  | @resume i s s' before events previous final checkpoint actorId requestId d hbefore hstored
      hdecision hdecided hruns hevents ih =>
    obtain ⟨interrupted, checkpoint', attempts, completions, tickets, rfl, hsame, htally, hattempts,
      hcompletions, honce, hstopped⟩ := ih
    obtain rfl := Option.some.inj hsame
    obtain ⟨hactor, hrequest, -, hwaits⟩ := checkDecision_eq_ok hdecision
    cases hstopped with
    | ends hover => cases hwaits
    | @waits values hready hnode hlater hcompleted =>
      obtain ⟨checkpoint', attempts', completions', tickets', rfl, hcheckpoint, hpassed, hwithin,
        hstopped⟩ := finished_resumeGraph hanswers hready
          (d := d) ⟨by rw [← hactor], hrequest.symm, rfl, hdecided⟩ hstored trivial hruns
      refine ⟨false, checkpoint', _, _, _, rfl, hcheckpoint, htally.append (hpassed.tally hevents),
        fun n => ?_, fun n => ?_, nofun, ?_⟩
      · rw [Pi.add_apply]
        exact attempts_le hattempts (honce rfl) hlater hwithin n
      · rw [Pi.add_apply]
        by_cases hn : n.rank < Node.confirmation.rank
        · rw [(hwithin.earlier n hn).2]
          exact hcompletions n
        · rw [hcompleted n (Nat.le_of_not_lt hn), Nat.zero_add]
          exact hwithin.completed n
      · cases hstopped with
        | ends hover =>
          rw [zero_add]
          exact .ends hover

/-! ## Every run ends -/

/-- A call that is always answered. -/
def Op.Live : Op → Prop
  | .uuid4 | .acquire _ => False
  | _ => True

/-- Every call to a dependency returns or raises. -/
def Environment.Answering (env : Environment World) : Prop :=
  ∀ world call, ∃ answer world', env.behaves world call answer world'

omit [ValidationTexts] in
theorem exists_performs (hanswering : env.Answering) (i : Id) (s : Shared World Id) {op : Op}
    (hlive : op.Live) : ∃ answer s', Performs env i s op answer s' := by
  cases op with
  | dependency thread call =>
    obtain ⟨answer, world, hbehaves⟩ := hanswering s.world call
    exact ⟨answer, _, .dependency hbehaves⟩
  | nextAttempt runId node => exact ⟨_, _, .nextAttempt runId node⟩
  | now => exact ⟨_, _, .now .epoch⟩
  | task thread node => exact ⟨_, _, .task thread node⟩
  | put thread completed checkpoint => exact ⟨_, _, .put thread completed checkpoint⟩
  | getState thread => exact ⟨_, _, .getState thread⟩
  | resume thread decision => exact ⟨_, _, .resume thread decision⟩
  | uuid4 => exact hlive.elim
  | clock => exact ⟨_, _, .clock .epoch⟩
  | acquire thread => exact hlive.elim
  | release thread => exact ⟨_, _, .release thread⟩

omit [ValidationTexts] in
/-- A program that makes live calls only. -/
theorem live_bind {α β : Type} {x : Flow α} {f : α → Flow β} (hx : x.Along Op.Live fun _ => True)
    (hf : ∀ a, (f a).Along Op.Live fun _ => True) : (x >>= f).Along Op.Live fun _ => True :=
  Program.along_bind hx (fun a _ => hf a) fun _ _ => trivial

omit [ValidationTexts] in
theorem live_invoke {op : Op} (h : op.Live) : (invoke op).Along Op.Live fun _ => True :=
  ⟨h, fun _ => trivial⟩

omit [ValidationTexts] in
theorem live_ask (thread : String) (call : Dependency) :
    (ask thread call).Along Op.Live fun _ => True :=
  ⟨trivial, fun _ => trivial⟩

omit [ValidationTexts] in
theorem live_done {α : Type} (result : Except PyError α) :
    (Program.done result : Flow α).Along Op.Live fun _ => True := trivial

theorem live_runNode (thread : String) (resume : Option ResumeDecision) (node : Node)
    (state : SupportState) : (runNode thread resume node state).Along Op.Live fun _ => True := by
  cases node with
  | route =>
    exact live_bind (live_bind (live_invoke trivial) fun _ => live_bind (live_ask ..) fun _ =>
      live_done _) fun _ => live_done _
  | retrieveOrder =>
    refine live_bind (live_bind (live_done _) fun route => ?_) fun _ => live_done _
    cases route.orderId with
    | none => exact live_done _
    | some orderId =>
      exact live_bind (live_invoke trivial) fun _ => live_bind (live_ask ..) fun _ => live_done _
  | retrievePolicy =>
    refine live_bind (live_bind (live_done _) fun route => ?_) fun _ => live_done _
    cases route.policySlug with
    | none => exact live_done _
    | some slug =>
      exact live_bind (live_invoke trivial) fun _ => live_bind (live_ask ..) fun _ => live_done _
  | proposeRefund =>
    refine live_bind ?_ fun _ => live_done _
    unfold proposalNode
    cases state.evidence.order with
    | none => exact live_done _
    | some order => exact live_bind (live_ask ..) fun _ => live_done _
  -- the node that stops for a decision asks nothing before it has one
  | confirmation =>
    unfold runNode confirmationNode
    dsimp only
    cases state.proposedAction with
    | none => exact live_bind (live_done _) fun _ => live_done _
    | some proposal =>
      cases resume with
      | none => exact live_done _
      | some decision =>
        dsimp only
        split
        · exact live_done _
        · split
          · exact live_done _
          · exact live_done _
          · exact live_bind (live_invoke trivial) fun _ => live_done _
  | executeRefund =>
    refine live_bind ?_ fun _ => live_done _
    unfold executeNode
    split
    · split
      · exact live_done _
      · exact live_bind (live_ask ..) fun _ => live_done _
    · exact live_done _
  | reject =>
    exact live_bind (live_bind (live_done _) fun _ => live_done _) fun _ => live_done _
  | respond =>
    exact live_bind (live_bind (live_done _) fun _ => live_bind (live_invoke trivial) fun _ =>
      live_bind (live_ask ..) fun _ => live_done _) fun _ => live_done _
  | escalate =>
    exact live_bind (live_bind (live_ask ..) fun _ => live_done _) fun _ => live_done _

theorem live_tryNode (thread : String) (resume : Option ResumeDecision) (node : Node)
    (state : SupportState) (more : ℕ) :
    (tryNode thread resume node state more).Along Op.Live fun _ => True := by
  induction more with
  | zero => exact live_bind (live_invoke trivial) fun _ => live_runNode ..
  | succ more ih =>
    refine live_bind (live_invoke trivial) fun _ => live_bind
      (Program.along_caught (live_runNode ..) fun _ _ => trivial) fun result => ?_
    cases result with
    | ok r => exact live_done _
    | error e =>
      dsimp only
      split
      · exact ih
      · exact live_done _

theorem live_runGraph (thread : String) (resume : Option ResumeDecision) (steps : ℕ) (node : Node)
    (state : SupportState) :
    (runGraph thread resume steps node state).Along Op.Live fun _ => True := by
  induction steps generalizing node state with
  | zero => exact live_done _
  | succ steps ih =>
    refine live_bind (live_tryNode ..) fun result => ?_
    cases result with
    | interrupt => exact live_bind (live_invoke trivial) fun _ => live_done _
    | update state' =>
      refine live_bind (live_done _) fun next => live_bind (live_invoke trivial) fun _ => ?_
      cases next with
      | none => exact live_done _
      | some next => exact ih next state'

theorem live_resumeGraph (thread : String) (decision : ResumeDecision) :
    (resumeGraph thread decision).Along Op.Live fun _ => True := by
  refine live_bind (live_invoke trivial) fun checkpoint => ?_
  split
  · exact live_runGraph ..
  · exact live_done _

/-- **Every run ends, and ends decided**, if every dependency answers validly or raises an error
that its node handles. -/
theorem endsDecided_of_handled {World Id : Type} {env : Environment World} {w runId : String}
    {request : WorkflowRequest} {expiresAt : DateTime} (henv : env.Handled)
    (hanswering : env.Answering) :
    (∀ (i : Id) (s : Shared World Id), ∃ final s', Program.Runs (Performs env i) s
      (runGraph w none recursionLimit .route (initialState request w runId expiresAt)) final s') ∧
    (∀ (i : Id) (s : Shared World Id) (decision : ResumeDecision), ∃ final s',
      Program.Runs (Performs env i) s (resumeGraph w decision) final s') ∧
    ∀ (events : List (Event Id)) final stored,
      WorkflowRun env w (initialState request w runId expiresAt) events final stored →
        EndsDecided w events final stored := by
  refine ⟨fun i s => ?_, fun i s decision => ?_, fun events final stored hrun => ?_⟩
  · exact Program.exists_runs (live_runGraph ..)
      (fun s op hlive => exists_performs hanswering i s hlive) s
  · exact Program.exists_runs (live_resumeGraph ..)
      (fun s op hlive => exists_performs hanswering i s hlive) s
  · obtain ⟨interrupted, checkpoint, attempts, completions, tickets, rfl, rfl, htally, hattempts,
      hcompletions, -, hstopped⟩ := summary_of_run henv hrun
    refine ⟨fun node => ?_, fun node => ?_, interrupted, checkpoint, rfl, rfl, ?_⟩
    · rw [htally.attempts]
      exact hattempts node
    · rw [htally.completions]
      exact hcompletions node
    · rw [htally.tickets]
      exact hstopped.decided

end Runs

/-- The environment where every dependency does anything that its node handles. -/
def handledEnvironment : Environment Unit where
  behaves _ call answer _ := call.Handles answer
  draws _ _ := True

def sampleTicket : TicketRead where
  id := .repeated 7
  customerId := .repeated 1
  orderId := none
  subject := "Workflow escalation"
  status := .open
  validSubject := by decide +kernel

theorem answering_handledEnvironment : handledEnvironment.Answering := by
  intro world call
  cases call with
  | route message => exact ⟨.ok certainEscalation, (), trivial⟩
  | getOrder orderId actorId => exact ⟨.error forbidden, (), Or.inr (by decide +kernel)⟩
  | getPolicy slug => exact ⟨.error policyNotFound, (), Or.inr (by decide +kernel)⟩
  | generate message route evidence proposal =>
    exact ⟨.ok "Done.", (), show lengthWithin 1 4000 "Done." = true by decide +kernel⟩
  | propose actorId requestId order policy =>
    exact ⟨.error forbidden, (), show isRefusal forbidden = true by decide +kernel⟩
  | execute actorId orderId =>
    exact ⟨.error forbidden, (), show isRefusal forbidden = true by decide +kernel⟩
  | escalate actorId reason requestId => exact ⟨.ok sampleTicket, (), trivial⟩

def sampleRequest : WorkflowRequest where
  actorId := .repeated 1
  requestId := "sample"
  message := "Where is my order?"
  validRequestId := by decide +kernel
  validMessage := by decide +kernel

attribute [local instance] plainTexts

/-- A run of one request. -/
theorem endsDecided_sampleRequest : ∃ (events : List (Event Unit)) (final : Except PyError Bool)
    (stored : Option Checkpoint),
    WorkflowRun handledEnvironment "w" (initialState sampleRequest "w" "r" .epoch) events final
      stored ∧ EndsDecided "w" events final stored := by
  obtain ⟨hexists, -, hdecided⟩ := @endsDecided_of_handled _ Unit Unit handledEnvironment "w" "r"
    sampleRequest .epoch (fun _ _ _ _ h => h) answering_handledEnvironment
  obtain ⟨final, s', hruns⟩ := hexists () { world := () }
  have hrun := WorkflowRun.start hruns (List.nil_append s'.history).symm
  exact ⟨s'.history, final, _, hrun, hdecided _ _ _ hrun⟩

end ObservabilityLab.Workflow
