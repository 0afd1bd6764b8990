import ObservabilityLab.Failures.ReviewMoves

/-!
# The lifecycle of a review

What a call knows of the store between two statements, what one statement does, and what holds of
every run: proposals and reviews stay in step, a decision is for good, and only what a reviewer
confirmed or corrected is handed on.

## Main definitions

* `ReviewStage.Known`: what a call knows of the store between two statements
* `ReviewStep`: what one statement of a call does
* `ReviewsInStep`: a store whose proposals carry their reviews

## Main results

* `reviewStep_step`: what the code does in each stage
* `known_reviewRun`: what every call knows after every schedule
* `review_lifecycle`: proposals, reviews and the calls that return, over every run
-/

namespace ObservabilityLab

open Python TransactionTable Interleaving ReviewStore

variable {Id : Type} [DecidableEq Id]

/-! ## What a call knows -/

/-- A group that a confirmed or corrected proposal and its review make. -/
def ReviewStore.Confirms (s : ReviewStore Id) (proposalId : Uuid) (group : ConfirmedFailureGroup) :
    Prop :=
  ∃ p v, s.Stored p ∧ p.proposalId = proposalId ∧
    p.status ∈ [ProposalStatus.confirmed, .corrected] ∧ s.StoredReview v ∧
    v.proposalId = proposalId ∧ group = confirmedGroup p v

/-- A stored proposal with a review that was made with these arguments. -/
def ReviewStore.Accepted (s : ReviewStore Id) (args : ReviewArguments) (p : FailureGroupProposal) :
    Prop :=
  s.Stored p ∧ p.proposalId = args.proposalId ∧
    ∃ v, s.StoredReview v ∧ v.proposalId = args.proposalId ∧ args.Repeats v

/-- **What a call knows of the store between two statements.** -/
def ReviewStage.Known (P : FailureGroupProposal → Prop) (call : ReviewCall) (i : Id)
    (s : ReviewStore Id) : ReviewStage → Prop
  | .ready | .locking | .reading => s.Clean i
  | .saving remaining _ => s.reviews.own i = [] ∧ ∀ p ∈ remaining, p.Fresh P
  | .adding p remaining _ => s.reviews.own i = [] ∧ p.Fresh P ∧ ∀ q ∈ remaining, q.Fresh P
  | .resolving _ remaining _ => s.reviews.own i = [] ∧ ∀ p ∈ remaining, p.Fresh P
  | .comparing p => s.Clean i ∧ ∃ args, call = .review args ∧ p.proposalId = args.proposalId ∧
      s.Stored p ∧ p.status ≠ .proposed
  | .inserting p review => s.Clean i ∧ ∃ args, call = .review args ∧ s.Deciding args p ∧
      review = args.reviewOf p ∧ (s.locks p.proposalId = some i → s.Stored p)
  | .conflicted p => s.Clean i ∧ ∃ args, call = .review args ∧ p.proposalId = args.proposalId ∧
      p.initial = p ∧ (s.locks p.proposalId = some i → s.Stored p)
  | .rereading => s.Clean i ∧ ∃ args, call = .review args ∧ s.locks args.proposalId ≠ some i
  | .updating p => ∃ args q, call = .review args ∧ s.Deciding args q ∧ p = args.reviewed q ∧
      s.reviews.own i = [.of (args.reviewOf q)]
  | .readingReview p => s.Clean i ∧ ∃ proposalId, call = .require proposalId ∧
      p.proposalId = proposalId ∧ s.Stored p ∧ p.status ∈ [ProposalStatus.confirmed, .corrected]
  | .finished result => s.Clean i ∧ (∀ id, s.locks id ≠ some i) ∧
      ∀ proposalId group, call = .require proposalId → result = .ok (.group group) →
        s.Confirms proposalId group

/-- **What one statement of a call does.** -/
structure ReviewStep (P : FailureGroupProposal → Prop) (call : ReviewCall) (i : Id)
    (s : ReviewStore Id) (next : ReviewStore Id × ReviewStage) : Prop where
  move : StoreMove P i s next.1
  known : next.2.Known P call i next.1
  held : ∀ id, s.locks id = some i → next.1.locks id = some i ∨ ∃ result, next.2 = .finished result
  accepted : ∀ args p, call = .review args → s.locks args.proposalId = some i →
    next.2 = .finished (.ok (.proposal p)) → next.1.Accepted args p

section Steps

variable {P : FailureGroupProposal → Prop} {call : ReviewCall} {i j : Id} {s s' : ReviewStore Id}
  {p q : FailureGroupProposal} {v : FailureGroupReview} {stage : ReviewStage}

omit [DecidableEq Id] in
theorem ReviewStore.Deciding.keeps {args : ReviewArguments} (h : s.Deciding args p)
    (hgrows : Grows s s') : s'.Deciding args p := by
  obtain ⟨q, hq, hinitial⟩ := h.stored
  obtain ⟨r, hr, hinitial'⟩ := hgrows.initial q hq
  exact ⟨h.proposalId, h.initial, h.valid, r, hr, hinitial'.trans hinitial⟩

theorem ReviewStore.Clean.keeps (h : s.Clean i) (hkeeps : Keeps i s s') : s'.Clean i :=
  ⟨hkeeps.ownProposals.trans h.1, hkeeps.ownReviews.trans h.2⟩

omit [DecidableEq Id] in
theorem ReviewStore.Confirms.grows {proposalId : Uuid} {group : ConfirmedFailureGroup}
    (h : s.Confirms proposalId group) (hgrows : Grows s s') : s'.Confirms proposalId group := by
  obtain ⟨p, v, hp, hid, hstatus, hv, hrest⟩ := h
  refine ⟨p, v, hgrows.reviewed p hp ?_, hid, hstatus, hgrows.reviews v hv, hrest⟩
  intro hproposed
  rw [hproposed] at hstatus
  simp at hstatus

/-- **The other calls leave to a call what it knows.** -/
theorem ReviewStage.Known.keeps (h : stage.Known P call i s) (hkeeps : Keeps i s s') :
    stage.Known P call i s' := by
  have hlocks {id : Uuid} : s'.locks id ≠ some i ↔ s.locks id ≠ some i := (hkeeps.locks id).not
  cases stage with
  | ready | locking | reading => exact ReviewStore.Clean.keeps h hkeeps
  | saving | adding | resolving => exact ⟨hkeeps.ownReviews.trans h.1, h.2⟩
  | comparing p =>
    obtain ⟨hclean, args, hcall, hid, hp, hstatus⟩ := h
    exact ⟨hclean.keeps hkeeps, args, hcall, hid, hkeeps.reviewed p hp hstatus, hstatus⟩
  | inserting p review =>
    obtain ⟨hclean, args, hcall, hdeciding, hreview, hlocked⟩ := h
    refine ⟨hclean.keeps hkeeps, args, hcall, hdeciding.keeps hkeeps.toGrows, hreview, ?_⟩
    intro hlock
    rw [hkeeps.locks] at hlock
    exact hkeeps.locked p hlock (hlocked hlock)
  | conflicted p =>
    obtain ⟨hclean, args, hcall, hid, hinitial, hlocked⟩ := h
    refine ⟨hclean.keeps hkeeps, args, hcall, hid, hinitial, ?_⟩
    intro hlock
    rw [hkeeps.locks] at hlock
    exact hkeeps.locked p hlock (hlocked hlock)
  | rereading =>
    obtain ⟨hclean, args, hcall, hlock⟩ := h
    exact ⟨hclean.keeps hkeeps, args, hcall, hlocks.mpr hlock⟩
  | updating p =>
    obtain ⟨args, q, hcall, hdeciding, hp, hown⟩ := h
    exact ⟨args, q, hcall, hdeciding.keeps hkeeps.toGrows, hp, hkeeps.ownReviews.trans hown⟩
  | readingReview p =>
    obtain ⟨hclean, proposalId, hcall, hid, hp, hstatus⟩ := h
    refine ⟨hclean.keeps hkeeps, proposalId, hcall, hid, hkeeps.reviewed p hp ?_, hstatus⟩
    intro hproposed
    rw [hproposed] at hstatus
    simp at hstatus
  | finished result =>
    obtain ⟨hclean, hnone, hgroup⟩ := h
    refine ⟨hclean.keeps hkeeps, fun id => hlocks.mpr (hnone id), ?_⟩
    intro proposalId group hcall hresult
    exact (hgroup proposalId group hcall hresult).grows hkeeps.toGrows

/-! ## What a call reads -/

theorem ReviewStore.Sound.of_getProposal {id : Uuid} (h : s.Sound P) (hclean : s.Clean i)
    (hget : s.getProposal i id = .ok (some p)) : s.Stored p ∧ p.proposalId = id := by
  unfold getProposal at hget
  cases hfind : (s.proposals.visible i).find? (·.proposalId = id) with
  | none =>
    rw [hfind] at hget
    cases hget
  | some row =>
    rw [hfind] at hget
    have hrow := List.mem_of_find?_eq_some hfind
    rw [Table.visible, hclean.1, List.append_nil] at hrow
    obtain ⟨q, rfl, hq, -⟩ := h.committed row hrow
    dsimp only at hget
    rw [ProposalRow.proposal_of, hq] at hget
    obtain rfl := Option.some.inj (Except.ok.inj hget)
    exact ⟨hrow, of_decide_eq_true (List.find?_some hfind :)⟩

theorem ReviewStore.Sound.of_getReview {id : Uuid} (h : s.Sound P) (hclean : s.Clean i)
    (hget : s.getReview i id = .ok (some v)) : s.StoredReview v ∧ v.proposalId = id := by
  unfold getReview at hget
  cases hfind : (s.reviews.visible i).find? (·.proposalId = id) with
  | none =>
    rw [hfind] at hget
    cases hget
  | some row =>
    rw [hfind] at hget
    have hrow := List.mem_of_find?_eq_some hfind
    rw [Table.visible, hclean.2, List.append_nil] at hrow
    obtain ⟨w, -, rfl, hw, -⟩ := h.reviewed row hrow
    dsimp only at hget
    rw [ReviewRow.review_of, hw] at hget
    obtain rfl := Option.some.inj (Except.ok.inj hget)
    exact ⟨hrow, of_decide_eq_true (List.find?_some hfind :)⟩

/-! ## What one statement does -/

theorem ReviewStep.raising (call : ReviewCall) (s : ReviewStore Id) (error : PyError) :
    ReviewStep P call i s (raising i s error) where
  move := .rollback
  known := ⟨⟨Table.own_rollback_self _ i, Table.own_rollback_self _ i⟩, locks_released_ne s i,
    fun _ _ _ hresult => nomatch hresult⟩
  held _ _ := Or.inr ⟨_, rfl⟩
  accepted _ _ _ _ hresult := nomatch hresult

/-- A statement that raises or goes on. -/
theorem ReviewStep.trying {α : Type} {x : Raises α} {rest : α → ReviewStore Id × ReviewStage}
    (h : ∀ a, x = .ok a → ReviewStep P call i s (rest a)) :
    ReviewStep P call i s (trying i s x rest) := by
  cases x with
  | error error => exact ReviewStep.raising call s error
  | ok a => exact h a rfl

/-- A statement that leaves the store and does not end the call. -/
theorem ReviewStep.same (hknown : stage.Known P call i s)
    (hresult : ∀ outcome, stage ≠ .finished (.ok outcome)) : ReviewStep P call i s (s, stage) where
  move := .same
  known := hknown
  held _ hlock := Or.inl hlock
  accepted _ _ _ _ h := absurd h (hresult _)

/-- What a call knows when it has returned something other than a group. -/
theorem known_returning (s : ReviewStore Id) (outcome : ReviewOutcome)
    (hgroup : ∀ proposalId group, call = .require proposalId → outcome = .group group →
      (s.commit i).Confirms proposalId group) :
    (ReviewStage.finished (.ok outcome)).Known P call i (s.commit i) :=
  ⟨⟨Table.own_commit_self _ i, Table.own_commit_self _ i⟩, locks_released_ne s i,
    fun proposalId group hcall hresult => hgroup proposalId group hcall (Except.ok.inj hresult)⟩

/-- **The statements of `propose_groups`.** -/
theorem proposeStep_step {result : FailureGroupResult} {createdAt : DateTime}
    (hknown : stage.Known P (.propose result createdAt) i s) :
    ReviewStep P (.propose result createdAt) i s (proposeStep i s stage) := by
  cases stage with
  | saving remaining saved =>
    obtain ⟨hown, hfresh⟩ := hknown
    cases remaining with
    | nil =>
      exact ⟨.commit hown, known_returning s _ (fun _ _ h => nomatch h), fun _ _ => Or.inr ⟨_, rfl⟩,
        fun _ _ h => nomatch h⟩
    | cons p remaining =>
      obtain ⟨hp, hremaining⟩ := List.forall_mem_cons.mp hfresh
      refine ReviewStep.trying fun existing _ => ?_
      cases existing with
      | some existing => exact .same ⟨hown, hremaining⟩ (fun _ => ReviewStage.noConfusion)
      | none => exact .same ⟨hown, hp, hremaining⟩ (fun _ => ReviewStage.noConfusion)
  | adding p remaining saved =>
    obtain ⟨hown, hp, hremaining⟩ := hknown
    dsimp only [proposeStep]
    split_ifs
    · rw [ProposalRow.inserted_of_initial hp.initial]
      cases hinsert : s.proposals.insert i (.of p) with
      | inserted t =>
        exact ⟨.propose p t hp hinsert, ⟨hown, hremaining⟩, fun _ hlock => Or.inl hlock,
          fun _ _ h => nomatch h⟩
      | violation => exact .same ⟨hown, hremaining⟩ (fun _ => ReviewStage.noConfusion)
      | blocked => exact .same ⟨hown, hp, hremaining⟩ (fun _ => ReviewStage.noConfusion)
    · exact ReviewStep.raising ..
  | resolving p remaining saved =>
    obtain ⟨hown, hremaining⟩ := hknown
    refine ReviewStep.trying fun existing _ => ?_
    cases existing with
    | some existing => exact .same ⟨hown, hremaining⟩ (fun _ => ReviewStage.noConfusion)
    | none => exact ReviewStep.raising ..
  | ready | locking | reading | comparing | inserting | conflicted | rereading | updating |
      readingReview | finished =>
    exact ⟨.same, hknown, fun _ hlock => Or.inl hlock, fun _ _ h => nomatch h⟩

/-- **The statements of `require_confirmed`.** -/
theorem requireStep_step {proposalId : Uuid} (hsound : s.Sound P)
    (hknown : stage.Known P (.require proposalId) i s) :
    ReviewStep P (.require proposalId) i s (requireStep i s proposalId stage) := by
  cases stage with
  | reading =>
    refine ReviewStep.trying fun found hget => ?_
    cases found with
    | none => exact ReviewStep.raising ..
    | some p =>
      obtain ⟨hp, hid⟩ := hsound.of_getProposal hknown hget
      dsimp only
      split_ifs with hstatus
      · exact .same ⟨hknown, proposalId, rfl, hid, hp, hstatus⟩ (fun _ => ReviewStage.noConfusion)
      · exact ReviewStep.raising ..
  | readingReview p =>
    obtain ⟨hclean, id, hcall, hid, hp, hstatus⟩ := hknown
    obtain rfl := ReviewCall.require.inj hcall
    refine ReviewStep.trying fun found hget => ?_
    cases found with
    | none => exact ReviewStep.raising ..
    | some v =>
      obtain ⟨hv, hvid⟩ := hsound.of_getReview hclean hget
      refine ReviewStep.trying fun group hnew => ?_
      obtain rfl := ConfirmedFailureGroup.eq_of_new hnew
      refine ⟨.commit hclean.2, known_returning s _ ?_, fun _ _ => Or.inr ⟨_, rfl⟩,
        fun _ _ h => nomatch h⟩
      intro id' group hcall hgroup
      obtain rfl := ReviewCall.require.inj hcall
      obtain rfl := ReviewOutcome.group.inj hgroup
      exact ⟨p, v, List.mem_append_left _ hp, hid, hstatus, List.mem_append_left _ hv, hvid, rfl⟩
  | ready | locking | saving | adding | resolving | comparing | inserting | conflicted |
      rereading | updating | finished =>
    exact ⟨.same, hknown, fun _ hlock => Or.inl hlock, fun _ _ h => nomatch h⟩

theorem ReviewStore.Clean.lock (h : s.Clean i) (proposalId : Uuid) :
    (s.lock i proposalId).Clean i := by
  unfold ReviewStore.lock
  split_ifs
  · exact h
  · exact h

omit [DecidableEq Id] in
/-- A lock that is held is kept when another is taken. -/
theorem locks_lock_of_held {id : Uuid} (h : s.locks id = some i) (proposalId : Uuid) :
    (s.lock i proposalId).locks id = some i := by
  unfold ReviewStore.lock
  split_ifs
  · dsimp only
    rw [Function.update_apply]
    split_ifs
    · rfl
    · exact h
  · exact h

/-- **The statements of `review_proposal`.** -/
theorem decideStep_step {args : ReviewArguments} (hsound : s.Sound P)
    (hknown : stage.Known P (.review args) i s) :
    ReviewStep P (.review args) i s (decideStep i s args stage) := by
  cases stage with
  | locking =>
    dsimp only [decideStep]
    split_ifs with hwaits
    · exact .same hknown (fun _ => ReviewStage.noConfusion)
    · rw [Bool.not_eq_true] at hwaits
      exact ⟨.lock _ hwaits, ReviewStore.Clean.lock hknown _,
        fun id hlock => Or.inl (locks_lock_of_held hlock _), fun _ _ _ _ h => nomatch h⟩
  | reading =>
    refine ReviewStep.trying fun found hget => ?_
    cases found with
    | none => exact ReviewStep.raising ..
    | some p =>
      obtain ⟨hp, hid⟩ := hsound.of_getProposal hknown hget
      dsimp only
      split_ifs with hstatus
      · have hinitial := hsound.initial_of_proposed hp hstatus
        refine ReviewStep.trying fun review hnew => ?_
        obtain rfl := FailureGroupReview.eq_of_new hnew
        refine .same ⟨hknown, args, rfl, ?_, rfl, fun _ => hp⟩ (fun _ => ReviewStage.noConfusion)
        exact ⟨hid, hinitial, hnew, p, hp, hinitial⟩
      · exact .same ⟨hknown, args, rfl, hid, hp, hstatus⟩ (fun _ => ReviewStage.noConfusion)
  | comparing p =>
    obtain ⟨hclean, args', hcall, hid, hp, hstatus⟩ := hknown
    obtain rfl := ReviewCall.review.inj hcall
    refine ReviewStep.trying fun prior hget => ?_
    split_ifs with hrepeats
    · obtain ⟨v, hprior, hrepeats⟩ := hrepeats
      obtain rfl := Option.mem_def.mp hprior
      obtain ⟨hv, hvid⟩ := hsound.of_getReview hclean hget
      refine ⟨.commit hclean.2, known_returning s _ (fun _ _ h => nomatch h),
        fun _ _ => Or.inr ⟨_, rfl⟩, ?_⟩
      intro args' p' hcall _ hresult
      obtain rfl := ReviewCall.review.inj hcall
      obtain rfl := ReviewOutcome.proposal.inj (Except.ok.inj (ReviewStage.finished.inj hresult))
      exact ⟨List.mem_append_left _ hp, hid, v, List.mem_append_left _ hv, hvid, hrepeats⟩
    · exact ReviewStep.raising ..
  | inserting p review =>
    obtain ⟨hclean, args', hcall, hdeciding, rfl, hlocked⟩ := hknown
    obtain rfl := ReviewCall.review.inj hcall
    dsimp only [decideStep]
    cases hinsert : s.reviews.insert i (.of (args.reviewOf p)) with
    | inserted t =>
      refine ⟨.review _ t hinsert, ⟨args, p, rfl, ?_, rfl, ?_⟩, fun _ hlock => Or.inl hlock,
        fun _ _ _ _ h => nomatch h⟩
      · exact ⟨hdeciding.proposalId, hdeciding.initial, hdeciding.valid, hdeciding.stored⟩
      · change t.own i = _
        rw [Table.own_insert_self hinsert, hclean.2, List.nil_append]
    | violation =>
      exact .same ⟨hclean, args, rfl, hdeciding.proposalId, hdeciding.initial, hlocked⟩
        (fun _ => ReviewStage.noConfusion)
    | blocked =>
      exact .same ⟨hclean, args, rfl, hdeciding, rfl, hlocked⟩ (fun _ => ReviewStage.noConfusion)
  | conflicted p =>
    obtain ⟨hclean, args', hcall, hid, hinitial, hlocked⟩ := hknown
    obtain rfl := ReviewCall.review.inj hcall
    refine ReviewStep.trying fun found hget => ?_
    cases found with
    | none => exact ReviewStep.raising ..
    | some v =>
      obtain ⟨hv, hvid⟩ := hsound.of_getReview hclean hget
      refine .same ⟨hclean, args, rfl, ?_⟩ (fun _ => ReviewStage.noConfusion)
      -- Under the lock the proposal is still as it was made, and has no review.
      intro hlock
      rw [← hid] at hlock
      have hcarries := hsound.carries (hlocked hlock) hv (hvid.trans hid.symm)
      exact hcarries.status_ne (FailureGroupProposal.proposed_of_initial hinitial)
  | rereading =>
    obtain ⟨hclean, args', hcall, hlock⟩ := hknown
    obtain rfl := ReviewCall.review.inj hcall
    refine ReviewStep.trying fun found _ => ?_
    cases found with
    | none => exact ReviewStep.raising ..
    | some p =>
      refine ⟨.commit hclean.2, known_returning s _ (fun _ _ h => nomatch h),
        fun _ _ => Or.inr ⟨_, rfl⟩, ?_⟩
      intro args' p' hcall hheld _
      obtain rfl := ReviewCall.review.inj hcall
      exact absurd hheld hlock
  | updating p =>
    obtain ⟨args', q, hcall, hdeciding, rfl, hown⟩ := hknown
    obtain rfl := ReviewCall.review.inj hcall
    dsimp only [decideStep]
    split_ifs with hwaits
    · exact .same ⟨args, q, rfl, hdeciding, rfl, hown⟩ (fun _ => ReviewStage.noConfusion)
    · rw [Bool.not_eq_true] at hwaits
      refine ⟨.decide args q hdeciding hwaits hown,
        known_returning _ _ (fun _ _ h => nomatch h), fun _ _ => Or.inr ⟨_, rfl⟩, ?_⟩
      intro args' p' hcall _ hresult
      obtain rfl := ReviewCall.review.inj hcall
      obtain rfl := ReviewOutcome.proposal.inj (Except.ok.inj (ReviewStage.finished.inj hresult))
      have hq := hsound.stored_of_deciding hdeciding hown
      exact ⟨stored_decide_self hq, hdeciding.proposalId, args.reviewOf q,
        storedReview_decide_self hown, hdeciding.proposalId, rfl, rfl, rfl, rfl⟩
  | ready | saving | adding | resolving | readingReview =>
    exact ⟨.same, hknown, fun _ hlock => Or.inl hlock, fun _ _ _ _ h => nomatch h⟩
  | finished result =>
    refine ⟨.same, hknown, fun _ hlock => Or.inl hlock, ?_⟩
    intro args' p hcall hheld _
    exact absurd hheld (hknown.2.1 _)

variable [HashFunctions]

/-- The proposals that a call may make have a property. -/
def ReviewCall.Makes (P : FailureGroupProposal → Prop) (call : ReviewCall) : Prop :=
  ∀ result createdAt proposals, call = .propose result createdAt →
    proposalsFromResult result createdAt = .ok proposals → ∀ p ∈ proposals, P p

/-- **What the code does in each stage.** -/
theorem reviewStep_step (hmakes : call.Makes P) (hsound : s.Sound P)
    (hknown : stage.Known P call i s) : ReviewStep P call i s (reviewStep i s call stage) := by
  cases stage with
  | ready =>
    cases call with
    | propose result createdAt =>
      refine ReviewStep.trying fun proposals hproposals => ?_
      refine .same ⟨hknown.2, fun p hp => ?_⟩ (fun _ => ReviewStage.noConfusion)
      obtain ⟨hvalid, _, _, _, _, rfl⟩ := of_mem_proposalsFromResult hproposals hp
      exact ⟨hvalid, rfl, hmakes result createdAt proposals rfl hproposals _ hp⟩
    | review args =>
      exact ReviewStep.trying fun _ _ => .same hknown (fun _ => ReviewStage.noConfusion)
    | require proposalId => exact .same hknown (fun _ => ReviewStage.noConfusion)
  | finished result =>
    refine ⟨.same, hknown, fun _ hlock => Or.inl hlock, ?_⟩
    intro args p hcall hheld _
    exact absurd hheld (hknown.2.1 _)
  | locking | reading | saving | adding | resolving | comparing | inserting | conflicted |
      rereading | updating | readingReview =>
    cases call with
    | propose result createdAt => exact proposeStep_step hknown
    | review args => exact decideStep_step hsound hknown
    | require proposalId => exact requireStep_step hsound hknown

/-! ## Runs -/

variable {calls : Id → ReviewCall} {lost : Id → Option ℕ} {process : ReviewProcess}

theorem reviewTurn_step (lost : Id → Option ℕ) (hmakes : (calls i).Makes P) (hsound : s.Sound P)
    (hknown : process.stage.Known P (calls i) i s) :
    ReviewStep P (calls i) i s ((reviewTurn calls lost i s process).1,
      (reviewTurn calls lost i s process).2.stage) := by
  obtain ⟨stage, statements⟩ := process
  have hstep := reviewStep_step hmakes hsound hknown
  cases stage with
  | finished result => exact hstep
  | ready | locking | reading | saving | adding | resolving | comparing | inserting | conflicted |
      rereading | updating | readingReview =>
    dsimp only [reviewTurn]
    split_ifs
    · exact ReviewStep.raising ..
    · exact hstep

theorem reviewRun_concat (calls : Id → ReviewCall) (lost : Id → Option ℕ) (schedule : List Id)
    (i : Id) : reviewRun calls lost (schedule ++ [i]) =
      (reviewRun calls lost schedule).step (reviewTurn calls lost) i :=
  Pool.run_concat

/-- **What every call knows after every schedule.** -/
theorem known_reviewRun (lost : Id → Option ℕ) (hmakes : ∀ i, (calls i).Makes P)
    (schedule : List Id) :
    (reviewRun calls lost schedule).shared.Sound P ∧
      ∀ i, ((reviewRun calls lost schedule).locals i).stage.Known P (calls i) i
        (reviewRun calls lost schedule).shared := by
  refine Pool.run_relyInvariant (ReviewStore.Sound P)
    (fun i s (process : ReviewProcess) => process.stage.Known P (calls i) i s) Keeps
      ⟨sound_empty, ?_⟩ ?_ ?_ ?_ ?_
  · intro i
    exact ⟨rfl, rfl⟩
  · intro i s process hsound hknown
    exact hsound.move (reviewTurn_step lost (hmakes i) hsound hknown).move
  · intro i s process hsound hknown
    exact (reviewTurn_step lost (hmakes i) hsound hknown).known
  · intro i j s process hne hsound hknown
    exact keeps_of_move hne hsound (reviewTurn_step lost (hmakes j) hsound hknown).move
  · intro i s s' process hkeeps hknown
    exact hknown.keeps hkeeps

/-- **What a schedule leaves as it is, later steps leave too.** -/
theorem grows_reviewRun (calls : Id → ReviewCall) (lost : Id → Option ℕ)
    (schedule later : List Id) :
    (reviewRun calls lost schedule).shared.Grows
      (reviewRun calls lost (schedule ++ later)).shared := by
  induction later using List.reverseRecOn with
  | nil =>
    rw [List.append_nil]
    exact Grows.refl _
  | append_singleton later i ih =>
    have hmakes (j : Id) : (calls j).Makes fun _ => True := fun _ _ _ _ _ _ _ => trivial
    obtain ⟨hsound, hknown⟩ := known_reviewRun lost hmakes (schedule ++ later)
    rw [← List.append_assoc, reviewRun_concat]
    exact ih.trans (hsound.grows (reviewTurn_step lost (hmakes i) hsound (hknown i)).move)

/-- **A call that holds a lock keeps it until it ends**, and a review that returns under its lock
leaves a stored review with its own arguments. -/
theorem settled_of_locked {args : ReviewArguments} (hcall : calls i = .review args)
    (schedule later : List Id)
    (hlock : (reviewRun calls lost schedule).shared.locks args.proposalId = some i) :
    (reviewRun calls lost (schedule ++ later)).shared.locks args.proposalId = some i ∨
      ∃ result, ((reviewRun calls lost (schedule ++ later)).locals i).stage = .finished result ∧
        ∀ p, result = .ok (.proposal p) →
          (reviewRun calls lost (schedule ++ later)).shared.Accepted args p := by
  induction later using List.reverseRecOn with
  | nil =>
    rw [List.append_nil]
    exact Or.inl hlock
  | append_singleton later j ih =>
    have hmakes (j : Id) : (calls j).Makes fun _ => True := fun _ _ _ _ _ _ _ => trivial
    obtain ⟨hsound, hknown⟩ := known_reviewRun lost hmakes (schedule ++ later)
    have hturn := reviewTurn_step lost (hmakes j) hsound (hknown j)
    rw [← List.append_assoc, reviewRun_concat]
    by_cases hij : i = j
    · subst hij
      rw [Pool.locals_step_self]
      rcases ih with hheld | ⟨result, hresult, haccepted⟩
      · rcases hturn.held _ hheld with hheld' | ⟨result, hresult⟩
        · exact Or.inl hheld'
        · refine Or.inr ⟨result, hresult, ?_⟩
          rintro p rfl
          exact hturn.accepted args p hcall hheld hresult
      · -- The call has ended, and its turn does nothing.
        have hidle : reviewTurn calls lost i (reviewRun calls lost (schedule ++ later)).shared
            ((reviewRun calls lost (schedule ++ later)).locals i) =
              ((reviewRun calls lost (schedule ++ later)).shared, ⟨.finished result,
                ((reviewRun calls lost (schedule ++ later)).locals i).statements⟩) := by
          rw [reviewTurn, hresult]
        refine Or.inr ⟨result, by rw [hidle], ?_⟩
        intro p hp
        rw [Pool.step, hidle]
        exact haccepted p hp
    · rw [Pool.locals_step_of_ne hij]
      have hkeeps := keeps_of_move hij hsound hturn.move
      rcases ih with hheld | ⟨result, hresult, haccepted⟩
      · exact Or.inl ((hkeeps.locks _).mpr hheld)
      · refine Or.inr ⟨result, hresult, ?_⟩
        intro p hp
        obtain ⟨hstored, hid, v, hv, hvid, hrepeats⟩ := haccepted p hp
        have hstatus := (hsound.carries hstored hv (hvid.trans hid.symm)).status_ne
        exact ⟨hkeeps.reviewed p hstored hstatus, hid, v, hkeeps.reviews v hv, hvid, hrepeats⟩

end Steps

/-- **Proposals and reviews in step**: each fingerprint has at most one proposal and each proposal
at most one review, which it carries. -/
structure ReviewsInStep (store : ReviewStore Id) : Prop where
  oneProposal : (store.proposals.committed.map (·.proposalFingerprint)).Nodup
  oneReview : (store.reviews.committed.map (·.proposalId)).Nodup
  inStep : ∀ row ∈ store.proposals.committed, ∃ proposal, row.proposal = .ok proposal ∧
    (proposal.status = .proposed ↔
      ∀ other ∈ store.reviews.committed, other.proposalId ≠ row.proposalId) ∧
    ∀ other ∈ store.reviews.committed, other.proposalId = row.proposalId →
      ∃ review, other.review = .ok review ∧ proposal.Carries review

omit [DecidableEq Id] in
theorem ReviewStore.Sound.reviewsInStep {P : FailureGroupProposal → Prop} {store : ReviewStore Id}
    (h : store.Sound P) : ReviewsInStep store := by
  refine ⟨List.pairwise_map.mpr ?_, List.pairwise_map.mpr ?_, ?_⟩
  · apply (List.pairwise_append.mp h.proposals).1.imp
    intro row other hconflict heq
    exact hconflict (Or.inr heq)
  · apply (List.pairwise_append.mp h.reviews).1.imp
    intro row other hconflict heq
    exact hconflict (Or.inl heq)
  · intro row hrow
    obtain ⟨p, rfl, hp, -, hreview⟩ := h.committed row hrow
    have hcarries : ∀ other ∈ store.reviews.committed, other.proposalId = p.proposalId →
        ∃ review, other.review = .ok review ∧ p.Carries review := by
      intro other hother hid
      obtain ⟨v, -, rfl, hv, -⟩ := h.reviewed other hother
      exact ⟨v, by rw [ReviewRow.review_of, hv], h.carries hrow hother hid⟩
    refine ⟨p, by rw [ProposalRow.proposal_of, hp], ⟨?_, ?_⟩, hcarries⟩
    · intro hstatus other hother hid
      obtain ⟨review, -, hcarry⟩ := hcarries other hother hid
      exact hcarry.status_ne hstatus
    · intro hnone
      rcases hreview with hinitial | ⟨v, hv, hid, -⟩
      · exact FailureGroupProposal.proposed_of_initial hinitial
      · exact absurd hid (hnone _ hv)

/-- **The lifecycle of reviews**, over every schedule of calls and lost connections. Proposals and
reviews are in step. What was reviewed stays as it is. A review that holds the lock of its proposal
and returns finds its own arguments in the stored review. Only a confirmed or corrected proposal is
handed on, with its review.

A review whose lock statement ran before its proposal was committed found no row, and so holds no
lock. Nothing is said of what it finds in the stored review. -/
theorem review_lifecycle [HashFunctions] (calls : Id → ReviewCall) (lost : Id → Option ℕ)
    (schedule : List Id) :
    ReviewsInStep (reviewRun calls lost schedule).shared ∧
    (∀ later, ∀ row ∈ (reviewRun calls lost schedule).shared.proposals.committed,
      row.status ≠ ProposalStatus.proposed.value →
        row ∈ (reviewRun calls lost (schedule ++ later)).shared.proposals.committed) ∧
    (∀ later, ∀ row ∈ (reviewRun calls lost schedule).shared.reviews.committed,
      row ∈ (reviewRun calls lost (schedule ++ later)).shared.reviews.committed) ∧
    (∀ later i args proposal, calls i = .review args →
      (reviewRun calls lost schedule).shared.locks args.proposalId = some i →
      ((reviewRun calls lost (schedule ++ later)).locals i).stage =
        .finished (.ok (.proposal proposal)) →
      (reviewRun calls lost (schedule ++ later)).shared.Accepted args proposal) ∧
    (∀ i proposalId group, calls i = .require proposalId →
      ((reviewRun calls lost schedule).locals i).stage = .finished (.ok (.group group)) →
      (reviewRun calls lost schedule).shared.Confirms proposalId group) := by
  have hmakes (i : Id) : (calls i).Makes fun _ => True := fun _ _ _ _ _ _ _ => trivial
  obtain ⟨hsound, hknown⟩ := known_reviewRun lost hmakes schedule
  refine ⟨hsound.reviewsInStep, ?_, ?_, ?_, ?_⟩
  · intro later row hrow hstatus
    obtain ⟨p, rfl, -⟩ := hsound.committed row hrow
    refine (grows_reviewRun calls lost schedule later).reviewed p hrow ?_
    intro hproposed
    exact hstatus (congrArg ProposalStatus.value hproposed)
  · intro later row hrow
    obtain ⟨v, -, rfl, -⟩ := hsound.reviewed row hrow
    exact (grows_reviewRun calls lost schedule later).reviews v hrow
  · intro later i args proposal hcall hlock hstage
    rcases settled_of_locked hcall schedule later hlock with hheld | ⟨result, hresult, haccepted⟩
    · have hfinished := (known_reviewRun lost hmakes (schedule ++ later)).2 i
      rw [hstage] at hfinished
      exact absurd hheld (hfinished.2.1 _)
    · rw [hstage] at hresult
      exact haccepted proposal (ReviewStage.finished.inj hresult).symm
  · intro i proposalId group hcall hstage
    have hfinished := hknown i
    rw [hstage] at hfinished
    exact hfinished.2.2 proposalId group hcall rfl

end ObservabilityLab
