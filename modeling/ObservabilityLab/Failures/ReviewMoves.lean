import ObservabilityLab.Failures.ReviewService

/-!
# Proposals and their reviews in step

A stored proposal is as it was made until its review is stored, and then carries that review. A
statement of a call moves the store in one of a few ways, each of which keeps this.

## Main definitions

* `ReviewStore.Sound`: what holds of every store that calls reach
* `ReviewStore.StoreMove`: what one statement does to the store
* `ReviewStore.Grows`, `ReviewStore.Keeps`: what no statement changes, and what the statements of
  other calls leave to a call

## Main results

* `ReviewStore.Sound.move`: every move keeps the store sound
* `ReviewStore.Sound.grows`, `ReviewStore.keeps_of_move`: what a move leaves as it is
-/

namespace ObservabilityLab

open Python TransactionTable Interleaving

/-! ## Proposals and their reviews -/

namespace FailureGroupProposal

variable (proposal : FailureGroupProposal)

/-- The proposal before a review. -/
def initial : FailureGroupProposal :=
  { proposal with
    status := .proposed, reviewedAt := none, reviewedBy := none, reviewReason := none
    correctedKind := none }

/-- The status of the proposal and what it says of its review are those of a review. -/
structure Carries (review : FailureGroupReview) : Prop where
  status : proposal.status = review.decision.status
  reviewer : proposal.reviewedBy = some review.reviewer
  reason : proposal.reviewReason = some review.reason
  reviewedAt : proposal.reviewedAt = some review.reviewedAt
  correctedKind : proposal.correctedKind = review.correctedKind

/-- A valid proposal as it was made, with a property of its own. -/
structure Fresh (P : FailureGroupProposal → Prop) : Prop where
  valid : proposal.new = .ok proposal
  initial : proposal.initial = proposal
  made : P proposal

variable {proposal} {review : FailureGroupReview}

theorem proposed_of_initial (h : proposal.initial = proposal) : proposal.status = .proposed := by
  rw [← h]
  rfl

theorem Carries.status_ne (h : proposal.Carries review) : proposal.status ≠ .proposed := by
  rw [h.status]
  cases review.decision <;> exact ProposalStatus.noConfusion

end FailureGroupProposal

theorem ReviewArguments.carries_reviewed (args : ReviewArguments)
    (proposal : FailureGroupProposal) :
    (args.reviewed proposal).Carries (args.reviewOf proposal) :=
  ⟨rfl, rfl, rfl, rfl, rfl⟩

/-- **A valid review makes a valid reviewed proposal.** -/
theorem ReviewArguments.new_reviewed {args : ReviewArguments} {proposal : FailureGroupProposal}
    {review : FailureGroupReview} (hproposal : proposal.new = .ok proposal)
    (hreview : (args.reviewOf proposal).new = .ok review) :
    (args.reviewed proposal).new = .ok (args.reviewed proposal) := by
  simp only [FailureGroupProposal.new, FailureGroupReview.new, check_bind_eq_ok]
    at hproposal hreview
  obtain ⟨hdataset, hversion, halgorithm, hcandidates, hevidence, -, -⟩ := hproposal
  obtain ⟨hreviewer, hreason, -, -, hkind, -⟩ := hreview
  have hvalidate : (args.reviewed proposal).validateReview = .ok () := by
    rw [FailureGroupProposal.validateReview_eq_ok,
      if_neg (args.carries_reviewed proposal).status_ne]
    have hnonempty {text : String} {high : ℕ} (h : lengthWithin 1 high text = true) :
        text ≠ "" := by
      rintro rfl
      simp [lengthWithin] at h
    refine ⟨⟨hnonempty (checkField_eq_ok.mp hreviewer), Option.some_ne_none _,
      hnonempty (checkField_eq_ok.mp hreason)⟩, ?_⟩
    intro hcorrected hnone
    have hdecision : args.decision = .correct := by
      cases hdecision : args.decision
      all_goals first | rfl | simp [ReviewArguments.reviewed, hdecision,
        ProposalDecision.status] at hcorrected
    rw [raiseIf_eq_ok] at hkind
    have hkind' : args.correctedKind = none := hnone
    simp [ReviewArguments.reviewOf, hdecision, hkind'] at hkind
  simp only [FailureGroupProposal.new, check_bind_eq_ok]
  exact ⟨hdataset, hversion, halgorithm, hcandidates, hevidence, hvalidate, rfl⟩

theorem ProposalRow.of_injective {p q : FailureGroupProposal} (hq : q.new = .ok q)
    (h : ProposalRow.of p = ProposalRow.of q) : p = q := by
  have hread : p.new = .ok q := by rw [← ProposalRow.proposal_of, h, ProposalRow.proposal_of, hq]
  exact (FailureGroupProposal.eq_of_new hread).symm

theorem ReviewRow.of_injective {v w : FailureGroupReview} (hw : w.new = .ok w)
    (h : ReviewRow.of v = ReviewRow.of w) : v = w := by
  have hread : v.new = .ok w := by rw [← ReviewRow.review_of, h, ReviewRow.review_of, hw]
  exact (FailureGroupReview.eq_of_new hread).symm

theorem ProposalRow.inserted_of_initial {p : FailureGroupProposal} (h : p.initial = p) :
    ProposalRow.inserted p = ProposalRow.of p := by
  rw [← h]
  rfl

/-! ## Sound stores -/

namespace ReviewStore

variable {Id : Type} [DecidableEq Id]

/-- A proposal is committed. -/
def Stored (s : ReviewStore Id) (p : FailureGroupProposal) : Prop :=
  ProposalRow.of p ∈ s.proposals.committed

/-- A review is committed. -/
def StoredReview (s : ReviewStore Id) (v : FailureGroupReview) : Prop :=
  ReviewRow.of v ∈ s.reviews.committed

/-- A call has no pending rows. -/
def Clean (s : ReviewStore Id) (i : Id) : Prop :=
  s.proposals.own i = [] ∧ s.reviews.own i = []

variable (P : FailureGroupProposal → Prop)

/-- **What holds of every store that calls reach.** -/
structure Sound (s : ReviewStore Id) : Prop where
  proposals : s.proposals.NoConflict
  reviews : s.reviews.NoConflict
  committed : ∀ row ∈ s.proposals.committed, ∃ p, row = .of p ∧ p.new = .ok p ∧ P p.initial ∧
    (p.initial = p ∨ ∃ v, s.StoredReview v ∧ v.proposalId = p.proposalId ∧ p.Carries v)
  pending : ∀ entry ∈ s.proposals.pending, ∃ p : FailureGroupProposal,
    entry.2 = .of p ∧ p.Fresh P
  reviewed : ∀ row ∈ s.reviews.committed, ∃ v p, row = .of v ∧ v.new = .ok v ∧ s.Stored p ∧
    v.proposalId = p.proposalId ∧ p.Carries v

variable {P} {s : ReviewStore Id} {i j : Id} {p q : FailureGroupProposal}
  {v w : FailureGroupReview}

omit [DecidableEq Id] in
theorem sound_empty : (empty : ReviewStore Id).Sound P :=
  ⟨Table.noConflict_empty, Table.noConflict_empty, fun _ h => absurd h List.not_mem_nil,
    fun _ h => absurd h List.not_mem_nil, fun _ h => absurd h List.not_mem_nil⟩

namespace Sound

omit [DecidableEq Id] in
theorem of_stored (h : s.Sound P) (hp : s.Stored p) : p.new = .ok p ∧ P p.initial ∧
    (p.initial = p ∨ ∃ v, s.StoredReview v ∧ v.proposalId = p.proposalId ∧ p.Carries v) := by
  obtain ⟨q, hrow, hq, hrest⟩ := h.committed _ hp
  obtain rfl := ProposalRow.of_injective hq hrow
  exact ⟨hq, hrest⟩

omit [DecidableEq Id] in
theorem of_storedReview (h : s.Sound P) (hv : s.StoredReview v) : v.new = .ok v ∧
    ∃ p, s.Stored p ∧ v.proposalId = p.proposalId ∧ p.Carries v := by
  obtain ⟨w, p, hrow, hw, hrest⟩ := h.reviewed _ hv
  obtain rfl := ReviewRow.of_injective hw hrow
  exact ⟨hw, p, hrest⟩

omit [DecidableEq Id] in
/-- Stored proposals with one identifier are one proposal. -/
theorem stored_unique (h : s.Sound P) (hp : s.Stored p) (hq : s.Stored q)
    (hid : p.proposalId = q.proposalId) : p = q := by
  have hrows := Table.eq_of_conflict h.proposals hp hq (Or.inl hid)
  exact ProposalRow.of_injective (h.of_stored hq).1 hrows

omit [DecidableEq Id] in
/-- **A stored proposal carries the stored review of it.** -/
theorem carries (h : s.Sound P) (hp : s.Stored p) (hv : s.StoredReview v)
    (hid : v.proposalId = p.proposalId) : p.Carries v := by
  obtain ⟨-, q, hq, hid', hcarries⟩ := h.of_storedReview hv
  obtain rfl := h.stored_unique hp hq (hid.symm.trans hid')
  exact hcarries

omit [DecidableEq Id] in
/-- **A stored proposal without a review is as it was made.** -/
theorem initial_of_proposed (h : s.Sound P) (hp : s.Stored p) (hstatus : p.status = .proposed) :
    p.initial = p := by
  rcases (h.of_stored hp).2.2 with hinitial | ⟨v, -, -, hcarries⟩
  · exact hinitial
  · exact absurd hstatus hcarries.status_ne

/-- A proposal with a pending review has no stored one. -/
theorem initial_of_pending (h : s.Sound P) (hv : ReviewRow.of v ∈ s.reviews.own i)
    (hp : s.Stored p) (hid : v.proposalId = p.proposalId) : p.initial = p := by
  rcases (h.of_stored hp).2.2 with hinitial | ⟨w, hw, hwp, -⟩
  · exact hinitial
  · refine absurd ?_ (Table.not_conflict_own h.reviews hw hv)
    exact Or.inl (hwp.trans hid.symm)

/-- The pending rows of a call are fresh proposals. -/
theorem fresh_of_own (h : s.Sound P) {row : ProposalRow} (hrow : row ∈ s.proposals.own i) :
    ∃ p : FailureGroupProposal, row = .of p ∧ p.Fresh P := by
  obtain ⟨entry, hentry, rfl⟩ := List.mem_map.mp hrow
  exact h.pending entry (List.mem_of_mem_filter hentry)

end Sound

/-! ## Moves -/

/-- A proposal that a call has read as proposed, and the review that it makes of it. -/
structure Deciding (s : ReviewStore Id) (args : ReviewArguments) (p : FailureGroupProposal) :
    Prop where
  proposalId : p.proposalId = args.proposalId
  initial : p.initial = p
  valid : (args.reviewOf p).new = .ok (args.reviewOf p)
  stored : ∃ q, s.Stored q ∧ q.initial = p

variable (P) in
/-- **What one statement of call `i` does to the store.** -/
inductive StoreMove (i : Id) (s : ReviewStore Id) : ReviewStore Id → Prop
  | same : StoreMove i s s
  | commit (h : s.reviews.own i = []) : StoreMove i s (s.commit i)
  | rollback : StoreMove i s (s.rollback i)
  | lock (proposalId : Uuid) (h : s.waits i proposalId = false) :
      StoreMove i s (s.lock i proposalId)
  | propose (p : FailureGroupProposal) (t : Table Id ProposalRow) (hp : p.Fresh P)
      (h : s.proposals.insert i (.of p) = .inserted t) : StoreMove i s { s with proposals := t }
  | review (v : FailureGroupReview) (t : Table Id ReviewRow)
      (h : s.reviews.insert i (.of v) = .inserted t) : StoreMove i s { s with reviews := t }
  | decide (args : ReviewArguments) (p : FailureGroupProposal) (h : s.Deciding args p)
      (hwaits : s.waits i p.proposalId = false)
      (hown : s.reviews.own i = [.of (args.reviewOf p)]) :
      StoreMove i s ((s.updateProposal (args.reviewed p)).commit i)

/-- **What no statement changes**: reviews, reviewed proposals, and what was proposed. -/
structure Grows (s s' : ReviewStore Id) : Prop where
  initial : ∀ p, s.Stored p → ∃ q, s'.Stored q ∧ q.initial = p.initial
  reviewed : ∀ p, s.Stored p → p.status ≠ .proposed → s'.Stored p
  reviews : ∀ v, s.StoredReview v → s'.StoredReview v

/-- **What the statements of the other calls leave to call `i`.** -/
structure Keeps (i : Id) (s s' : ReviewStore Id) : Prop extends Grows s s' where
  ownProposals : s'.proposals.own i = s.proposals.own i
  ownReviews : s'.reviews.own i = s.reviews.own i
  locks : ∀ id, s'.locks id = some i ↔ s.locks id = some i
  locked : ∀ p, s.locks p.proposalId = some i → s.Stored p → s'.Stored p

omit [DecidableEq Id] in
theorem Grows.refl (s : ReviewStore Id) : Grows s s :=
  ⟨fun p h => ⟨p, h, rfl⟩, fun _ h _ => h, fun _ h => h⟩

omit [DecidableEq Id] in
theorem Grows.trans {s t u : ReviewStore Id} (h : Grows s t) (h' : Grows t u) : Grows s u := by
  refine ⟨?_, ?_, fun v hv => h'.reviews v (h.reviews v hv)⟩
  · intro p hp
    obtain ⟨q, hq, hinitial⟩ := h.initial p hp
    obtain ⟨r, hr, hinitial'⟩ := h'.initial q hq
    exact ⟨r, hr, hinitial'.trans hinitial⟩
  · intro p hp hstatus
    exact h'.reviewed p (h.reviewed p hp hstatus) hstatus

omit [DecidableEq Id] in
/-- A store with the same rows and more. -/
theorem Grows.of_subset {s' : ReviewStore Id}
    (hproposals : s.proposals.committed ⊆ s'.proposals.committed)
    (hreviews : s.reviews.committed ⊆ s'.reviews.committed) : Grows s s' :=
  ⟨fun p h => ⟨p, hproposals h, rfl⟩, fun _ h _ => hproposals h, fun _ h => hreviews h⟩

theorem locks_released_ne (s : ReviewStore Id) (i : Id) (id : Uuid) :
    s.released i id ≠ some i := by
  unfold released
  split_ifs with h
  · exact Option.some_ne_none _ ∘ Eq.symm
  · exact h

theorem locks_released_of_ne (h : i ≠ j) (id : Uuid) :
    s.released j id = some i ↔ s.locks id = some i := by
  unfold released
  split_ifs with hlock
  · rw [hlock]
    constructor
    · exact fun hnone => nomatch hnone
    · intro hsome
      exact absurd (Option.some.inj hsome).symm h
  · exact Iff.rfl

section Decide

variable {args : ReviewArguments}

/-- **The proposal of a pending review is stored as it was read.** -/
theorem Sound.stored_of_deciding (h : s.Sound P) (hdeciding : s.Deciding args p)
    (hown : s.reviews.own i = [.of (args.reviewOf p)]) : s.Stored p := by
  obtain ⟨q, hq, hinitial⟩ := hdeciding.stored
  have hid : q.proposalId = p.proposalId := by
    rw [← hinitial]
    rfl
  have hpending : ReviewRow.of (args.reviewOf p) ∈ s.reviews.own i := by
    rw [hown]
    exact List.mem_singleton_self _
  have hq' : q.initial = q := h.initial_of_pending hpending hq hid.symm
  rw [← hinitial, hq']
  exact hq

/-- Every stored proposal but the decided one stays. -/
theorem stored_decide_of_ne (hq : s.Stored q) (hne : q.proposalId ≠ p.proposalId) :
    ((s.updateProposal (args.reviewed p)).commit i).Stored q := by
  refine List.mem_append_left _ (List.mem_map.mpr ⟨_, hq, ?_⟩)
  exact if_neg hne

/-- The decided proposal is stored with its review. -/
theorem stored_decide_self (hp : s.Stored p) :
    ((s.updateProposal (args.reviewed p)).commit i).Stored (args.reviewed p) := by
  refine List.mem_append_left _ (List.mem_map.mpr ⟨_, hp, ?_⟩)
  exact if_pos rfl

theorem storedReview_decide (hv : s.StoredReview v) :
    ((s.updateProposal (args.reviewed p)).commit i).StoredReview v :=
  List.mem_append_left _ hv

theorem storedReview_decide_self (hown : s.reviews.own i = [.of (args.reviewOf p)]) :
    ((s.updateProposal (args.reviewed p)).commit i).StoredReview (args.reviewOf p) := by
  refine List.mem_append_right _ ?_
  change _ ∈ s.reviews.own i
  rw [hown]
  exact List.mem_singleton_self _

/-- **A decision changes only a proposal that has no review yet.** -/
theorem Sound.grows_decide (h : s.Sound P) (hdeciding : s.Deciding args p)
    (hown : s.reviews.own i = [.of (args.reviewOf p)]) :
    Grows s ((s.updateProposal (args.reviewed p)).commit i) := by
  have hp := h.stored_of_deciding hdeciding hown
  refine ⟨?_, ?_, fun v hv => storedReview_decide hv⟩
  · intro q hq
    by_cases hid : q.proposalId = p.proposalId
    · obtain rfl := h.stored_unique hq hp hid
      exact ⟨_, stored_decide_self hq, rfl⟩
    · exact ⟨q, stored_decide_of_ne hq hid, rfl⟩
  · intro q hq hstatus
    refine stored_decide_of_ne hq ?_
    intro hid
    obtain rfl := h.stored_unique hq hp hid
    exact hstatus (FailureGroupProposal.proposed_of_initial hdeciding.initial)

end Decide

theorem Sound.grows {s' : ReviewStore Id} (h : s.Sound P) (hmove : StoreMove P i s s') :
    Grows s s' := by
  cases hmove with
  | same => exact Grows.refl s
  | commit _ => exact Grows.of_subset (List.subset_append_left ..) (List.subset_append_left ..)
  | rollback => exact Grows.of_subset (List.Subset.refl _) (List.Subset.refl _)
  | lock proposalId _ =>
    unfold lock
    split_ifs
    · exact Grows.of_subset (List.Subset.refl _) (List.Subset.refl _)
    · exact Grows.refl s
  | propose p t _ hinsert =>
    refine Grows.of_subset ?_ (List.Subset.refl _)
    rw [← Table.committed_insert hinsert]
    exact List.Subset.refl _
  | review v t hinsert =>
    refine Grows.of_subset (List.Subset.refl _) ?_
    rw [← Table.committed_insert hinsert]
    exact List.Subset.refl _
  | decide args p hdeciding _ hown => exact h.grows_decide hdeciding hown

/-! ## What every move keeps -/

theorem Sound.pending_filter (h : s.Sound P) (i : Id) :
    ∀ entry ∈ s.proposals.pending.filter (·.1 ≠ i), ∃ p : FailureGroupProposal,
      entry.2 = .of p ∧ p.Fresh P :=
  fun entry hentry => h.pending entry (List.mem_of_mem_filter hentry)

/-- A commit of proposals only. -/
theorem Sound.commit (h : s.Sound P) (hown : s.reviews.own i = []) : (s.commit i).Sound P where
  proposals := h.proposals.commit i
  reviews := h.reviews.commit i
  pending := h.pending_filter i
  committed := by
    intro row hrow
    rcases Table.mem_commit.mp hrow with hrow | hrow
    · obtain ⟨p, rfl, hp, hmade, hinitial | ⟨v, hv, hrest⟩⟩ := h.committed row hrow
      · exact ⟨p, rfl, hp, hmade, Or.inl hinitial⟩
      · exact ⟨p, rfl, hp, hmade, Or.inr ⟨v, List.mem_append_left _ hv, hrest⟩⟩
    · obtain ⟨p, rfl, hfresh⟩ := h.fresh_of_own hrow
      exact ⟨p, rfl, hfresh.valid, hfresh.initial.symm ▸ hfresh.made, Or.inl hfresh.initial⟩
  reviewed := by
    intro row hrow
    have hrow' : row ∈ s.reviews.committed := by
      rcases Table.mem_commit.mp hrow with hrow | hrow
      · exact hrow
      · rw [hown] at hrow
        exact absurd hrow List.not_mem_nil
    obtain ⟨v, p, hv, hvalid, hp, hrest⟩ := h.reviewed row hrow'
    exact ⟨v, p, hv, hvalid, List.mem_append_left _ hp, hrest⟩

theorem Sound.rollback (h : s.Sound P) (i : Id) : (s.rollback i).Sound P where
  proposals := h.proposals.rollback i
  reviews := h.reviews.rollback i
  committed := h.committed
  pending := h.pending_filter i
  reviewed := h.reviewed

omit [DecidableEq Id] in
theorem Sound.lock (h : s.Sound P) (i : Id) (proposalId : Uuid) :
    (s.lock i proposalId).Sound P := by
  unfold ReviewStore.lock
  split_ifs
  · exact ⟨h.proposals, h.reviews, h.committed, h.pending, h.reviewed⟩
  · exact h

theorem Sound.propose {t : Table Id ProposalRow} (h : s.Sound P) (hp : p.Fresh P)
    (hinsert : s.proposals.insert i (.of p) = .inserted t) :
    Sound P { s with proposals := t } := by
  have hcommitted := Table.committed_insert hinsert
  refine ⟨h.proposals.insert hinsert, h.reviews, ?_, ?_, ?_⟩
  · intro row hrow
    change row ∈ t.committed at hrow
    rw [hcommitted] at hrow
    exact h.committed row hrow
  · intro entry hentry
    obtain ⟨-, rfl⟩ := Table.insert_eq_inserted hinsert
    rcases List.mem_append.mp hentry with hentry | hentry
    · exact h.pending entry hentry
    · obtain rfl := List.mem_singleton.mp hentry
      exact ⟨p, rfl, hp⟩
  · intro row hrow
    obtain ⟨v, q, hv, hvalid, hq, hrest⟩ := h.reviewed row hrow
    refine ⟨v, q, hv, hvalid, ?_, hrest⟩
    change _ ∈ t.committed
    rw [hcommitted]
    exact hq

theorem Sound.review {t : Table Id ReviewRow} (h : s.Sound P)
    (hinsert : s.reviews.insert i (.of v) = .inserted t) : Sound P { s with reviews := t } := by
  have hcommitted := Table.committed_insert hinsert
  refine ⟨h.proposals, h.reviews.insert hinsert, ?_, h.pending, ?_⟩
  · intro row hrow
    obtain ⟨p, rfl, hp, hmade, hinitial | ⟨w, hw, hrest⟩⟩ := h.committed row hrow
    · exact ⟨p, rfl, hp, hmade, Or.inl hinitial⟩
    · refine ⟨p, rfl, hp, hmade, Or.inr ⟨w, ?_, hrest⟩⟩
      change _ ∈ t.committed
      rw [hcommitted]
      exact hw
  · intro row hrow
    change row ∈ t.committed at hrow
    rw [hcommitted] at hrow
    exact h.reviewed row hrow

/-- **A decision stores the review and the reviewed proposal together.** -/
theorem Sound.decide {args : ReviewArguments} (h : s.Sound P) (hdeciding : s.Deciding args p)
    (hown : s.reviews.own i = [.of (args.reviewOf p)]) :
    ((s.updateProposal (args.reviewed p)).commit i).Sound P := by
  have hp := h.stored_of_deciding hdeciding hown
  obtain ⟨hvalid, hmade, -⟩ := h.of_stored hp
  have hgrows := h.grows_decide hdeciding hown
  have hconstraints : (s.proposals.update fun row =>
      if row.proposalId = (args.reviewed p).proposalId then row.updated (args.reviewed p)
      else row).NoConflict := by
    apply h.proposals.update
    intro row other
    split_ifs <;> exact Iff.rfl
  refine ⟨hconstraints.commit i, h.reviews.commit i, ?_, h.pending_filter i, ?_⟩
  · intro row hrow
    rcases Table.mem_commit.mp hrow with hrow | hrow
    · obtain ⟨other, hother, rfl⟩ := List.mem_map.mp hrow
      obtain ⟨q, rfl, hq, hqmade, hqreview⟩ := h.committed other hother
      by_cases hid : q.proposalId = p.proposalId
      · -- The row of the decided proposal.
        obtain rfl := h.stored_unique hother hp hid
        refine ⟨args.reviewed q, if_pos rfl, ReviewArguments.new_reviewed hvalid hdeciding.valid,
          hmade, Or.inr ?_⟩
        exact ⟨_, storedReview_decide_self hown, rfl, args.carries_reviewed q⟩
      · refine ⟨q, if_neg hid, hq, hqmade, ?_⟩
        rcases hqreview with hinitial | ⟨v, hv, hrest⟩
        · exact Or.inl hinitial
        · exact Or.inr ⟨v, hgrows.reviews v hv, hrest⟩
    · obtain ⟨q, rfl, hfresh⟩ := h.fresh_of_own hrow
      exact ⟨q, rfl, hfresh.valid, hfresh.initial.symm ▸ hfresh.made, Or.inl hfresh.initial⟩
  · intro row hrow
    rcases Table.mem_commit.mp hrow with hrow | hrow
    · obtain ⟨v, q, hv, hvalid, hq, hid, hcarries⟩ := h.reviewed row hrow
      exact ⟨v, q, hv, hvalid, hgrows.reviewed q hq hcarries.status_ne, hid, hcarries⟩
    · change row ∈ s.reviews.own i at hrow
      rw [hown] at hrow
      obtain rfl := List.mem_singleton.mp hrow
      exact ⟨_, _, rfl, hdeciding.valid, stored_decide_self hp, rfl, args.carries_reviewed p⟩

/-- **Every move keeps the store sound.** -/
theorem Sound.move {s' : ReviewStore Id} (h : s.Sound P) (hmove : StoreMove P i s s') :
    s'.Sound P := by
  cases hmove with
  | same => exact h
  | commit hown => exact h.commit hown
  | rollback => exact h.rollback i
  | lock proposalId _ => exact h.lock i proposalId
  | propose p t hp hinsert => exact h.propose hp hinsert
  | review v t hinsert => exact h.review hinsert
  | decide args p hdeciding _ hown => exact h.decide hdeciding hown

/-- **What a move of another call leaves as it is.** -/
theorem keeps_of_move {s' : ReviewStore Id} (hne : i ≠ j) (h : s.Sound P)
    (hmove : StoreMove P j s s') : Keeps i s s' := by
  have hgrows := h.grows hmove
  -- a commit or a rollback of another call ends its own rows and locks, and no others
  cases hmove with
  | same => exact ⟨hgrows, rfl, rfl, fun _ => Iff.rfl, fun _ _ hp => hp⟩
  | commit _ =>
    exact ⟨hgrows, Table.own_commit_of_ne hne, Table.own_commit_of_ne hne,
      locks_released_of_ne hne, fun _ _ hp => List.mem_append_left _ hp⟩
  | rollback =>
    exact ⟨hgrows, Table.own_rollback_of_ne hne, Table.own_rollback_of_ne hne,
      locks_released_of_ne hne, fun _ _ hp => hp⟩
  | lock proposalId hwaits =>
    unfold lock at hgrows ⊢
    split_ifs with hrow
    · refine ⟨by rwa [if_pos hrow] at hgrows, rfl, rfl, ?_, fun _ _ hp => hp⟩
      intro id
      by_cases hid : id = proposalId
      · -- The lock is free or held by the call that moves.
        subst hid
        dsimp only
        rw [Function.update_self]
        constructor
        · intro hsome
          exact absurd (Option.some.inj hsome).symm hne
        · intro hsome
          simp [waits, hsome, hne] at hwaits
      · dsimp only
        rw [Function.update_of_ne hid]
    · exact ⟨Grows.refl s, rfl, rfl, fun _ => Iff.rfl, fun _ _ hp => hp⟩
  | propose p t _ hinsert =>
    refine ⟨hgrows, Table.own_insert_of_ne hinsert hne, rfl, fun _ => Iff.rfl, ?_⟩
    intro q _ hq
    change _ ∈ t.committed
    rw [Table.committed_insert hinsert]
    exact hq
  | review v t hinsert =>
    exact ⟨hgrows, rfl, Table.own_insert_of_ne hinsert hne, fun _ => Iff.rfl, fun _ _ hp => hp⟩
  | decide args p hdeciding hwaits hown =>
    refine ⟨hgrows, Table.own_commit_of_ne hne, Table.own_commit_of_ne hne,
      locks_released_of_ne hne, ?_⟩
    intro q hlock hq
    refine stored_decide_of_ne hq ?_
    intro hid
    rw [hid] at hlock
    simp [waits, hlock, hne] at hwaits

end ReviewStore

end ObservabilityLab
