import ObservabilityLab.Failures.Proposals
import ObservabilityLab.Library.Interleaving
import ObservabilityLab.Library.TransactionTable

/-!
# The review of failure groups

Proposals of groups, the decisions of reviewers on them, and the groups that were confirmed. Every
call is a transaction of several statements, which interleave with the statements of other calls. A
review locks the row of its proposal, if there is one, and holds the lock to the end of its
transaction. A connection may be lost before any statement, which ends the transaction without a
trace.

## Main definitions

* `ProposalRow`, `ReviewRow`: the rows of the two tables, and how they are read back
* `ReviewStore`: the tables and the locks
* `ReviewCall`, `ReviewStage`: the calls of the service, and how far a call has come
* `reviewStep`: one statement of one call
* `reviewRun`: the statements of a schedule

## Main results

* `ProposalRow.proposal_of`, `ReviewRow.review_of`: what is written is read back
-/

namespace ObservabilityLab

open Python TransactionTable Interleaving

/-! ## Rows -/

/-- `FailureGroupProposalRecord` -/
structure ProposalRow where
  proposalId : Uuid
  groupId : Uuid
  proposalFingerprint : HexDigest
  datasetId : String
  datasetVersion : ℤ
  algorithmVersion : String
  predictedKind : String
  candidateIdsJson : List String
  evidenceIdsJson : List String
  evidenceEventIdsJson : EvidenceEvents
  sharedFeaturesJson : Features
  status : String
  createdAt : DateTime
  reviewedAt : Option DateTime := none
  reviewedBy : Option String := none
  reviewReason : Option String := none
  correctedKind : Option String := none
deriving DecidableEq

/-- `FailureGroupReviewRecord` -/
structure ReviewRow where
  reviewId : Uuid
  proposalId : Uuid
  decision : String
  reviewer : String
  reason : String
  reviewedAt : DateTime
  correctedKind : Option String
  sourceEvidenceIdsJson : List String
  evidenceEventIdsJson : EvidenceEvents
  algorithmVersion : String
deriving DecidableEq

/-- `UUID(text)` -/
def uuidOfText (text : String) : Raises Uuid :=
  match Uuid.parse text with
  | some id => .ok id
  | none => .error (.value "badly formed hexadecimal UUID string")

/-- The value of an enumeration, by its text. -/
def enumOfText {α : Type} (ofValue : String → Option α) (text : String) : Raises α :=
  match ofValue text with
  | some a => .ok a
  | none => .error (.value (text ++ " is not a valid value"))

/-- `FailureKind(text) if text else None` -/
def kindOfText : Option String → Raises (Option FailureKind)
  | none => .ok none
  | some text => if text = "" then .ok none else some <$> enumOfText FailureKind.ofValue text

/-- The row of a proposal, with its review. -/
def ProposalRow.of (proposal : FailureGroupProposal) : ProposalRow where
  proposalId := proposal.proposalId
  groupId := proposal.groupId
  proposalFingerprint := proposal.proposalFingerprint
  datasetId := proposal.datasetId
  datasetVersion := proposal.datasetVersion
  algorithmVersion := proposal.algorithmVersion
  predictedKind := proposal.predictedKind.value
  candidateIdsJson := proposal.candidateIds.map (·.str)
  evidenceIdsJson := proposal.evidenceIds.map (·.str)
  evidenceEventIdsJson := proposal.evidenceEventIds
  sharedFeaturesJson := proposal.sharedFeatures
  status := proposal.status.value
  createdAt := proposal.createdAt
  reviewedAt := proposal.reviewedAt
  reviewedBy := proposal.reviewedBy
  reviewReason := proposal.reviewReason
  correctedKind := proposal.correctedKind.map (·.value)

/-- The row that an insertion writes, without a review. -/
def ProposalRow.inserted (proposal : FailureGroupProposal) : ProposalRow :=
  { ProposalRow.of proposal with
    reviewedAt := none, reviewedBy := none, reviewReason := none, correctedKind := none }

/-- The columns that `update_proposal` writes. -/
def ProposalRow.updated (row : ProposalRow) (proposal : FailureGroupProposal) : ProposalRow :=
  { row with
    status := proposal.status.value
    reviewedAt := proposal.reviewedAt
    reviewedBy := proposal.reviewedBy
    reviewReason := proposal.reviewReason
    correctedKind := proposal.correctedKind.map (·.value) }

/-- `_proposal(row)` -/
def ProposalRow.proposal (row : ProposalRow) : Raises FailureGroupProposal := do
  let predictedKind ← enumOfText FailureKind.ofValue row.predictedKind
  let candidateIds ← row.candidateIdsJson.mapM uuidOfText
  let evidenceIds ← row.evidenceIdsJson.mapM uuidOfText
  let status ← enumOfText ProposalStatus.ofValue row.status
  let correctedKind ← kindOfText row.correctedKind
  FailureGroupProposal.new
    { proposalId := row.proposalId
      groupId := row.groupId
      proposalFingerprint := row.proposalFingerprint
      datasetId := row.datasetId
      datasetVersion := row.datasetVersion
      algorithmVersion := row.algorithmVersion
      predictedKind := predictedKind
      candidateIds := candidateIds
      evidenceIds := evidenceIds
      evidenceEventIds := row.evidenceEventIdsJson
      sharedFeatures := row.sharedFeaturesJson
      status := status
      createdAt := row.createdAt
      reviewedAt := row.reviewedAt
      reviewedBy := row.reviewedBy
      reviewReason := row.reviewReason
      correctedKind := correctedKind }

/-- The row of a review. -/
def ReviewRow.of (review : FailureGroupReview) : ReviewRow where
  reviewId := review.reviewId
  proposalId := review.proposalId
  decision := review.decision.value
  reviewer := review.reviewer
  reason := review.reason
  reviewedAt := review.reviewedAt
  correctedKind := review.correctedKind.map (·.value)
  sourceEvidenceIdsJson := review.sourceEvidenceIds.map (·.str)
  evidenceEventIdsJson := review.evidenceEventIds
  algorithmVersion := review.algorithmVersion

/-- `_review(row)` -/
def ReviewRow.review (row : ReviewRow) : Raises FailureGroupReview := do
  let decision ← enumOfText ProposalDecision.ofValue row.decision
  let correctedKind ← kindOfText row.correctedKind
  let sourceEvidenceIds ← row.sourceEvidenceIdsJson.mapM uuidOfText
  FailureGroupReview.new
    { reviewId := row.reviewId
      proposalId := row.proposalId
      decision := decision
      reviewer := row.reviewer
      reason := row.reason
      reviewedAt := row.reviewedAt
      correctedKind := correctedKind
      sourceEvidenceIds := sourceEvidenceIds
      evidenceEventIds := row.evidenceEventIdsJson
      algorithmVersion := row.algorithmVersion }

theorem uuidOfText_str (id : Uuid) : uuidOfText id.str = .ok id := by
  rw [uuidOfText, Uuid.parse_str]

theorem mapM_uuidOfText (ids : List Uuid) : (ids.map (·.str)).mapM uuidOfText = .ok ids := by
  rw [mapM_map_eq_ok uuidOfText_str, List.map_id']

theorem kindOfText_value (kind : Option FailureKind) :
    kindOfText (kind.map (·.value)) = .ok kind := by
  cases kind with
  | none => rfl
  | some kind => cases kind <;> decide +kernel

/-- **The row of a proposal is read back as the proposal**, when it is valid. -/
theorem ProposalRow.proposal_of (proposal : FailureGroupProposal) :
    (ProposalRow.of proposal).proposal = proposal.new := by
  have hkind : enumOfText FailureKind.ofValue proposal.predictedKind.value =
      .ok proposal.predictedKind := by rw [enumOfText, FailureKind.ofValue_value]
  have hstatus : enumOfText ProposalStatus.ofValue proposal.status.value =
      .ok proposal.status := by rw [enumOfText, ProposalStatus.ofValue_value]
  unfold ProposalRow.proposal ProposalRow.of
  dsimp only
  rw [hkind, mapM_uuidOfText, mapM_uuidOfText, hstatus, kindOfText_value]
  rfl

/-- **The row of a review is read back as the review**, when it is valid. -/
theorem ReviewRow.review_of (review : FailureGroupReview) :
    (ReviewRow.of review).review = review.new := by
  have hdecision : enumOfText ProposalDecision.ofValue review.decision.value =
      .ok review.decision := by rw [enumOfText, ProposalDecision.ofValue_value]
  unfold ReviewRow.review ReviewRow.of
  dsimp only
  rw [hdecision, kindOfText_value, mapM_uuidOfText]
  rfl

/-! ## The store -/

/-- A proposal has a unique identifier and a unique fingerprint. -/
instance : Constrained ProposalRow where
  Conflict r s := r.proposalId = s.proposalId ∨ r.proposalFingerprint = s.proposalFingerprint
  symm := Or.imp Eq.symm Eq.symm
  decidable _ _ := inferInstanceAs (Decidable (_ ∨ _))

/-- A review has a unique identifier and the only review of its proposal. -/
instance : Constrained ReviewRow where
  Conflict r s := r.proposalId = s.proposalId ∨ r.reviewId = s.reviewId
  symm := Or.imp Eq.symm Eq.symm
  decidable _ _ := inferInstanceAs (Decidable (_ ∨ _))

/-- The tables, and the call that holds the lock of a proposal. -/
structure ReviewStore (Id : Type) where
  proposals : Table Id ProposalRow
  reviews : Table Id ReviewRow
  locks : Uuid → Option Id

namespace ReviewStore

variable {Id : Type} [DecidableEq Id]

/-- The store without rows and locks. -/
def empty : ReviewStore Id := ⟨.empty, .empty, fun _ => none⟩

/-- The locks without those of a call. -/
def released (store : ReviewStore Id) (i : Id) : Uuid → Option Id :=
  fun id => if store.locks id = some i then none else store.locks id

/-- The end of a transaction that commits. -/
def commit (store : ReviewStore Id) (i : Id) : ReviewStore Id :=
  ⟨store.proposals.commit i, store.reviews.commit i, store.released i⟩

/-- The end of a transaction that rolls back. -/
def rollback (store : ReviewStore Id) (i : Id) : ReviewStore Id :=
  ⟨store.proposals.rollback i, store.reviews.rollback i, store.released i⟩

/-- Whether another call holds the lock of a proposal. -/
def waits (store : ReviewStore Id) (i : Id) (proposalId : Uuid) : Bool :=
  (store.locks proposalId).any (· ≠ i)

/-- `lock_proposal(proposal_id)`, which locks no row that is not there -/
def lock (store : ReviewStore Id) (i : Id) (proposalId : Uuid) : ReviewStore Id :=
  if store.proposals.committed.any (·.proposalId = proposalId) then
    { store with locks := Function.update store.locks proposalId (some i) }
  else store

/-- `update_proposal(proposal)` -/
def updateProposal (store : ReviewStore Id) (proposal : FailureGroupProposal) : ReviewStore Id :=
  { store with proposals := store.proposals.update fun row =>
      if row.proposalId = proposal.proposalId then row.updated proposal else row }

variable (store : ReviewStore Id) (i : Id)

/-- `get_proposal(proposal_id)` -/
def getProposal (proposalId : Uuid) : Raises (Option FailureGroupProposal) :=
  match (store.proposals.visible i).find? (·.proposalId = proposalId) with
  | some row => some <$> row.proposal
  | none => .ok none

/-- `get_by_fingerprint(fingerprint)` -/
def getByFingerprint (fingerprint : HexDigest) : Raises (Option FailureGroupProposal) :=
  match (store.proposals.visible i).find? (·.proposalFingerprint = fingerprint) with
  | some row => some <$> row.proposal
  | none => .ok none

/-- `get_review(proposal_id)` -/
def getReview (proposalId : Uuid) : Raises (Option FailureGroupReview) :=
  match (store.reviews.visible i).find? (·.proposalId = proposalId) with
  | some row => some <$> row.review
  | none => .ok none

end ReviewStore

/-! ## Calls -/

/-- `ProposalNotFound(proposal_id)` -/
def proposalNotFound (proposalId : Uuid) : PyError :=
  .domain "failure_group_not_found"
    ("No failure group proposal " ++ proposalId.str ++ " exists") notFound

/-- `InvalidReviewTransition(proposal_id=proposal_id, state=state)` -/
def invalidReviewTransition (proposalId : Uuid) (state : ProposalStatus) : PyError :=
  .domain "invalid_failure_review_transition"
    ("Failure group proposal " ++ proposalId.str ++ " is already " ++ state.value) 409

/-- `InvalidReviewDecision(detail)` -/
def invalidReviewDecision (detail : String) : PyError :=
  .domain "invalid_failure_review" detail unprocessableEntity

/-- `UnconfirmedFailure(proposal_id)` -/
def unconfirmedFailure (proposalId : Uuid) : PyError :=
  .domain "failure_group_review_required"
    ("Failure group proposal " ++ proposalId.str ++ " is not confirmed") unprocessableEntity

/-- The arguments of `review_proposal`, with the identifier and the time that the call draws. -/
structure ReviewArguments where
  proposalId : Uuid
  decision : ProposalDecision
  reviewer : String
  reason : String
  correctedKind : Option FailureKind := none
  reviewId : Uuid
  reviewedAt : DateTime

/-- One call of the service. -/
inductive ReviewCall where
  | propose (result : FailureGroupResult) (createdAt : DateTime)
  | review (args : ReviewArguments)
  | require (proposalId : Uuid)

/-- What a call returns. -/
inductive ReviewOutcome where
  | proposals (saved : List FailureGroupProposal)
  | proposal (proposal : FailureGroupProposal)
  | group (group : ConfirmedFailureGroup)
deriving DecidableEq

/-- How far a call has come. -/
inductive ReviewStage where
  | ready
  | saving (remaining saved : List FailureGroupProposal)
  | adding (proposal : FailureGroupProposal) (remaining saved : List FailureGroupProposal)
  | resolving (proposal : FailureGroupProposal) (remaining saved : List FailureGroupProposal)
  | locking
  | reading
  | comparing (proposal : FailureGroupProposal)
  | inserting (proposal : FailureGroupProposal) (review : FailureGroupReview)
  | conflicted (proposal : FailureGroupProposal)
  | rereading
  | updating (proposal : FailureGroupProposal)
  | readingReview (proposal : FailureGroupProposal)
  | finished (result : Raises ReviewOutcome)
deriving DecidableEq

/-- The characters that `str.strip` removes. -/
def isWhitespace (c : Char) : Bool :=
  let n := c.toNat
  (9 ≤ n && n ≤ 13) || (28 ≤ n && n ≤ 32) || (0x2000 ≤ n && n ≤ 0x200a) ||
    n ∈ [0x85, 0xa0, 0x1680, 0x2028, 0x2029, 0x202f, 0x205f, 0x3000]

/-- `not text.strip()` -/
def isBlank (text : String) : Bool := text.toList.all isWhitespace

namespace ReviewArguments

variable (args : ReviewArguments)

/-- The checks of the arguments. -/
def check : Raises Unit := do
  raiseIf (isBlank args.reviewer) (invalidReviewDecision "reviewer identity is required")
  raiseIf (isBlank args.reason) (invalidReviewDecision "review reason is required")
  raiseIf (args.decision = .correct && args.correctedKind.isNone)
    (invalidReviewDecision "correct decisions require a corrected failure kind")
  raiseIf (args.decision ≠ .correct && args.correctedKind.isSome)
    (invalidReviewDecision "only correct decisions accept a corrected failure kind")

/-- The review of a proposal. -/
def reviewOf (proposal : FailureGroupProposal) : FailureGroupReview where
  reviewId := args.reviewId
  proposalId := proposal.proposalId
  decision := args.decision
  reviewer := args.reviewer
  reason := args.reason
  reviewedAt := args.reviewedAt
  correctedKind := args.correctedKind
  sourceEvidenceIds := proposal.evidenceIds
  evidenceEventIds := proposal.evidenceEventIds
  algorithmVersion := proposal.algorithmVersion

/-- `proposal.model_copy(update={...})` with the decision -/
def reviewed (proposal : FailureGroupProposal) : FailureGroupProposal :=
  { proposal with
    status := args.decision.status
    reviewedAt := some args.reviewedAt
    reviewedBy := some args.reviewer
    reviewReason := some args.reason
    correctedKind := args.correctedKind }

/-- A review that was made with the same arguments. -/
def Repeats (prior : FailureGroupReview) : Prop :=
  prior.decision = args.decision ∧ prior.reviewer = args.reviewer ∧ prior.reason = args.reason ∧
    prior.correctedKind = args.correctedKind

instance (prior : FailureGroupReview) : Decidable (args.Repeats prior) :=
  inferInstanceAs (Decidable (_ ∧ _))

end ReviewArguments

/-- The group of a proposal with its review. -/
def confirmedGroup (proposal : FailureGroupProposal) (review : FailureGroupReview) :
    ConfirmedFailureGroup where
  proposalId := proposal.proposalId
  groupId := proposal.groupId
  failureKind := proposal.correctedKind.getD proposal.predictedKind
  evidenceIds := proposal.evidenceIds
  evidenceEventIds := proposal.evidenceEventIds
  review := review
  datasetId := proposal.datasetId
  datasetVersion := proposal.datasetVersion
  algorithmVersion := proposal.algorithmVersion

/-- Whether the columns take a proposal: an integer has 32 bits, and JSON no infinity and NaN. -/
def storable (proposal : FailureGroupProposal) : Bool :=
  proposal.datasetVersion < 2 ^ 31 && proposal.sharedFeatures.all fun entry =>
    match entry.2 with
    | .float x => x.isFinite
    | _ => true

/-- What the driver raises. -/
def driverError (name : String) : PyError := .other name ""

/-! ## Statements -/

section Steps

variable {Id : Type} [DecidableEq Id] (i : Id) (store : ReviewStore Id)

/-- The call returns, and its transaction commits. -/
def returning (outcome : ReviewOutcome) : ReviewStore Id × ReviewStage :=
  (store.commit i, .finished (.ok outcome))

/-- The call raises, and its transaction rolls back. -/
def raising (error : PyError) : ReviewStore Id × ReviewStage :=
  (store.rollback i, .finished (.error error))

/-- A statement that may raise, followed by the rest. -/
def trying {α : Type} (x : Raises α) (rest : α → ReviewStore Id × ReviewStage) :
    ReviewStore Id × ReviewStage :=
  match x with
  | .ok a => rest a
  | .error error => raising i store error

variable [HashFunctions]

/-- The start of a call, up to its first statement. -/
def startCall : ReviewCall → ReviewStore Id × ReviewStage
  | .propose result createdAt =>
    trying i store (proposalsFromResult result createdAt) fun proposals =>
      (store, .saving proposals [])
  | .review args => trying i store args.check fun _ => (store, .locking)
  | .require _ => (store, .reading)

omit [HashFunctions] in
/-- The statements of `propose_groups`. -/
def proposeStep : ReviewStage → ReviewStore Id × ReviewStage
  | .saving [] saved => returning i store (.proposals saved)
  | .saving (proposal :: remaining) saved =>
    trying i store (store.getByFingerprint i proposal.proposalFingerprint) fun
      | some existing => (store, .saving remaining (saved ++ [existing]))
      | none => (store, .adding proposal remaining saved)
  | .adding proposal remaining saved =>
    if storable proposal then
      match store.proposals.insert i (.inserted proposal) with
      | .inserted proposals =>
        ({ store with proposals := proposals }, .saving remaining (saved ++ [proposal]))
      | .violation => (store, .resolving proposal remaining saved)
      | .blocked => (store, .adding proposal remaining saved)
    else raising i store (driverError "DataError")
  | .resolving proposal remaining saved =>
    trying i store (store.getByFingerprint i proposal.proposalFingerprint) fun
      | some existing => (store, .saving remaining (saved ++ [existing]))
      | none => raising i store (driverError "IntegrityError")
  | stage => (store, stage)

omit [HashFunctions] in
/-- The statements of `review_proposal`. -/
def decideStep (args : ReviewArguments) : ReviewStage → ReviewStore Id × ReviewStage
  | .locking =>
    if store.waits i args.proposalId then (store, .locking)
    else (store.lock i args.proposalId, .reading)
  | .reading =>
    trying i store (store.getProposal i args.proposalId) fun
      | none => raising i store (proposalNotFound args.proposalId)
      | some proposal =>
        if proposal.status = .proposed then
          trying i store (args.reviewOf proposal).new fun review =>
            (store, .inserting proposal review)
        else (store, .comparing proposal)
  | .comparing proposal =>
    trying i store (store.getReview i args.proposalId) fun prior =>
      if ∃ review ∈ prior, args.Repeats review then returning i store (.proposal proposal)
      else raising i store (invalidReviewTransition args.proposalId proposal.status)
  | .inserting proposal review =>
    match store.reviews.insert i (.of review) with
    | .inserted reviews => ({ store with reviews := reviews }, .updating (args.reviewed proposal))
    | .violation => (store, .conflicted proposal)
    | .blocked => (store, .inserting proposal review)
  | .conflicted proposal =>
    trying i store (store.getReview i args.proposalId) fun
      | some _ => (store, .rereading)
      | none => raising i store (invalidReviewTransition args.proposalId proposal.status)
  | .rereading =>
    trying i store (store.getProposal i args.proposalId) fun
      | some proposal => returning i store (.proposal proposal)
      | none => raising i store (proposalNotFound args.proposalId)
  | .updating proposal =>
    if store.waits i proposal.proposalId then (store, .updating proposal)
    else returning i (store.updateProposal proposal) (.proposal proposal)
  | stage => (store, stage)

omit [HashFunctions] in
/-- The statements of `require_confirmed`. -/
def requireStep (proposalId : Uuid) : ReviewStage → ReviewStore Id × ReviewStage
  | .reading =>
    trying i store (store.getProposal i proposalId) fun
      | none => raising i store (proposalNotFound proposalId)
      | some proposal =>
        if proposal.status ∈ [.confirmed, .corrected] then (store, .readingReview proposal)
        else raising i store (unconfirmedFailure proposalId)
  | .readingReview proposal =>
    trying i store (store.getReview i proposalId) fun
      | none => raising i store (unconfirmedFailure proposalId)
      | some review =>
        trying i store (confirmedGroup proposal review).new fun group =>
          returning i store (.group group)
  | stage => (store, stage)

/-- One statement of one call. -/
def reviewStep (call : ReviewCall) (stage : ReviewStage) : ReviewStore Id × ReviewStage :=
  match stage with
  | .finished result => (store, .finished result)
  | .ready => startCall i store call
  | stage =>
    match call with
    | .propose _ _ => proposeStep i store stage
    | .review args => decideStep i store args stage
    | .require proposalId => requireStep i store proposalId stage

/-- A call with the number of its statements so far. -/
structure ReviewProcess where
  stage : ReviewStage
  statements : ℕ

/-- One statement of one call, before which the connection may be lost. -/
def reviewTurn (calls : Id → ReviewCall) (lost : Id → Option ℕ) (i : Id) (store : ReviewStore Id)
    (process : ReviewProcess) : ReviewStore Id × ReviewProcess :=
  match process.stage with
  | .finished result => (store, ⟨.finished result, process.statements⟩)
  | stage =>
    let next :=
      if lost i = some process.statements then raising i store (driverError "OperationalError")
      else reviewStep i store (calls i) stage
    (next.1, ⟨next.2, process.statements + 1⟩)

/-- The statements of a schedule, from the empty store. -/
def reviewRun (calls : Id → ReviewCall) (lost : Id → Option ℕ) (schedule : List Id) :
    Pool Id (ReviewStore Id) ReviewProcess :=
  Pool.run (reviewTurn calls lost) ⟨.empty, fun _ => ⟨.ready, 0⟩⟩ schedule

end Steps

end ObservabilityLab
