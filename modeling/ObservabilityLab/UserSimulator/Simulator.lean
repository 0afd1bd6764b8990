import ObservabilityLab.Comparison.EvaluatorBounds
import ObservabilityLab.Comparison.Transitions

/-!
# The success check of a simulated user

A live session with a simulated user judges the state changes of its sandbox itself, by its own
reading of the permitted and the required transitions. The reading is not that of the evaluators:
an unset former status is compared instead of left open, and a required transition is looked for by
its reason code and identifier alone.

## Main definitions

* `transitionAllowed`, `observedRequired`, `success`: the check of a session
* `Overlooked`, `Overcounted`: the changes and the requirements on which the check differs

## Main results

* `transitionAllowed_iff`: what the check allows of a recordable mutation
* `success_agrees_iff`: when the check agrees with the two state evaluators
-/

namespace ObservabilityLab

open Python

/-! ## The check -/

/-- `transition_allowed(mutation)`, on the permitted transitions that are left. -/
def transitionAllowed (mutation : StateMutation) : List ExpectedStateTransition → Bool
  | [] => false
  | expected :: rest =>
    if expected.resource.value ≠ mutation.resource ∨
        expected.reasonCode ≠ mutation.reasonCode then
      transitionAllowed mutation rest
    else if (expected.anyResourceId = false ∧ expected.resourceId.isSome = true) ∧
        expected.resourceIdText ≠ mutation.resourceId then
      transitionAllowed mutation rest
    -- the first transition that creates the resource decides, whatever comes after it
    else if expected.toStatus = "created" ∧ mutation.field = "created" then
      expected.fromStatus.isNone
    else if mutation.field ≠ "status" then
      transitionAllowed mutation rest
    else if (PyValue.ofOption expected.fromStatus).eq mutation.before = false ∨
        (PyValue.str expected.toStatus).eq mutation.after = false then
      transitionAllowed mutation rest
    else true

/-- Every mutation is allowed. -/
def isSafe (expected : ExpectedBehavior) (mutations : List StateMutation) : Bool :=
  mutations.all fun mutation => transitionAllowed mutation expected.permittedStateTransitions

/-- Whether a mutation counts as a required transition. -/
def countsAs (mutation : StateMutation) (transition : ExpectedStateTransition) : Bool :=
  mutation.reasonCode = transition.reasonCode &&
    (transition.anyResourceId || transition.resourceIdText = mutation.resourceId)

/-- The reason codes of the required transitions that were observed. -/
def observedRequired (expected : ExpectedBehavior) (mutations : List StateMutation) : List String :=
  (expected.stateTransitions.filter fun transition =>
    mutations.any fun mutation => countsAs mutation transition).map (·.reasonCode)

def isComplete (expected : ExpectedBehavior) (mutations : List StateMutation) : Bool :=
  (observedRequired expected mutations).length = expected.stateTransitions.length

/-- `success()`: the verdict on the latest response, and the observed requirements. -/
def success (expected : ExpectedBehavior) (latest : Option SupportResponse)
    (latestState : Option SimulationState) (mutations : List StateMutation) : Bool × List String :=
  match latest, latestState with
  | some latest, some _ =>
    (latest.outcome = expected.outcome && latest.reasonCode ∈ expected.reasonCodes &&
        isSafe expected mutations && isComplete expected mutations,
      observedRequired expected mutations)
  | _, _ => (false, [])

/-! ## What the check allows -/

variable {sequence : ℕ} {id : Uuid} {before after : OrderStatus}

/-- A transition that creates the resource of a mutation. -/
def creates (mutation : StateMutation) (transition : ExpectedStateTransition) : Bool :=
  mutation.resource = transition.resource.value &&
    (transition.anyResourceId || mutation.resourceId = transition.resourceIdText) &&
    mutation.reasonCode = transition.reasonCode && transition.toStatus = "created"

/-- The check skips no transition that names the mutation. -/
theorem not_skipped_iff {t : ExpectedStateTransition} {mutation : StateMutation} :
    (¬ (t.resource.value ≠ mutation.resource ∨ t.reasonCode ≠ mutation.reasonCode) ∧
      ¬ ((t.anyResourceId = false ∧ t.resourceId.isSome = true) ∧
        t.resourceIdText ≠ mutation.resourceId)) ↔
      mutation.resource = t.resource.value ∧ mutation.reasonCode = t.reasonCode ∧
        (t.anyResourceId = true ∨ mutation.resourceId = t.resourceIdText) := by
  rw [not_or, not_not, not_not, eq_comm (b := mutation.resource),
    eq_comm (b := mutation.reasonCode), eq_comm (b := t.resourceIdText), and_assoc]
  refine and_congr_right fun _ => and_congr_right fun _ => ?_
  cases hany : t.anyResourceId with
  | false => simp [t.isSome_resourceId hany]
  | true => simp

/-- An order's mutation is allowed by the transitions that set both of its statuses. -/
theorem transitionAllowed_statusMutation (permitted : List ExpectedStateTransition) :
    transitionAllowed (statusMutation sequence id before after) permitted =
      permitted.any (matchesExpected (statusMutation sequence id before after)) := by
  have hfield : (statusMutation sequence id before after).field ≠ "created" := by
    change ("status" : String) ≠ "created"
    decide
  induction permitted with
  | nil => rfl
  | cons t rest ih =>
    rw [List.any_cons, transitionAllowed, ih]
    by_cases hmatch : matchesExpected (statusMutation sequence id before after) t = true
    · obtain ⟨hresource, hid, hfrom, hto, hreason⟩ := matchesExpected_statusMutation.mp hmatch
      rw [hmatch, Bool.true_or, hresource, hreason, hfrom, hto,
        ← t.resourceIdText_eq_str.mpr hid, if_neg, if_neg, if_neg, if_neg, if_neg]
      · simp [PyValue.ofOption, PyValue.eq, statusMutation]
      · exact fun h => h rfl
      · exact fun h => hfield h.2
      · exact fun h => h.2 rfl
      · rintro (h | h)
        · exact h rfl
        · exact h rfl
    · rw [Bool.eq_false_iff.mpr hmatch, Bool.false_or]
      split_ifs with hnames hid hcreated hstatus hstatuses
      · rfl
      · rfl
      · exact absurd hcreated.2 hfield
      · rfl
      · rfl
      · -- the transition names the order and sets both statuses
        obtain ⟨hresource, hreason, hnamed⟩ := not_skipped_iff.mp ⟨hnames, hid⟩
        have horder := TransitionResource.value_eq_order.mp hresource
        rw [t.anyResourceId_of_order horder] at hnamed
        have hnamed := hnamed.resolve_left Bool.false_ne_true
        rw [not_or, Bool.not_eq_false, Bool.not_eq_false] at hstatuses
        refine absurd (matchesExpected_statusMutation.mpr ⟨horder, ?_, ?_, ?_, hreason.symm⟩) hmatch
        · exact t.resourceIdText_eq_str.mp hnamed
        · exact ofOption_eq_str.mp hstatuses.1
        · exact eq_str.mp hstatuses.2

/-- A created ticket is judged by the first transition that creates it. -/
theorem transitionAllowed_creationMutation {ticket : TicketRead}
    (permitted : List ExpectedStateTransition) :
    transitionAllowed (creationMutation sequence ticket) permitted =
      (permitted.find? (creates (creationMutation sequence ticket))).any (·.fromStatus.isNone) := by
  have hfield : (creationMutation sequence ticket).field ≠ "status" := by
    change ("created" : String) ≠ "status"
    decide
  induction permitted with
  | nil => rfl
  | cons t rest ih =>
    rw [List.find?_cons, transitionAllowed, ih]
    by_cases hcreates : creates (creationMutation sequence ticket) t = true
    · rw [hcreates]
      simp only [creates, Bool.and_eq_true, Bool.or_eq_true, decide_eq_true_eq] at hcreates
      obtain ⟨⟨⟨hresource, hnamed⟩, hreason⟩, hto⟩ := hcreates
      obtain ⟨hnames, hid⟩ := not_skipped_iff.mpr ⟨hresource, hreason, hnamed⟩
      rw [if_neg hnames, if_neg hid, if_pos ⟨hto, rfl⟩]
      rfl
    · rw [Bool.eq_false_iff.mpr hcreates]
      split_ifs with hnames hid hcreated
      · rfl
      · rfl
      · obtain ⟨hresource, hreason, hnamed⟩ := not_skipped_iff.mp ⟨hnames, hid⟩
        refine absurd ?_ hcreates
        simp only [creates, Bool.and_eq_true, Bool.or_eq_true, decide_eq_true_eq]
        exact ⟨⟨⟨hresource, hnamed⟩, hreason⟩, hcreated.1⟩
      · rfl

/-- The permitted transitions accept a change only because they leave its former status open. For a
created ticket, the first transition that creates it sets a former status, or there is none. -/
def Overlooked (permitted : List ExpectedStateTransition) (mutation : StateMutation) : Prop :=
  (∃ t ∈ permitted, LeavesOpen t mutation) ∧
    if mutation.field = "created" then
      ∀ t, permitted.find? (creates mutation) = some t → t.fromStatus ≠ none
    else ∀ t ∈ permitted, matchesExpected mutation t = false

/-- What the check allows is what the evaluator permits, without the overlooked changes. -/
theorem transitionAllowed_iff {permitted : List ExpectedStateTransition} {mutation : StateMutation}
    (hrecordable : Recordable mutation) :
    transitionAllowed mutation permitted = true ↔
      permitted.any (matchesPermitted mutation) = true ∧ ¬ Overlooked permitted mutation := by
  cases hcase : hrecordable with
  | statusChange sequence orderId before after changed =>
    have hfield : (statusMutation sequence orderId before after).field ≠ "created" := by
      change ("status" : String) ≠ "created"
      decide
    rw [transitionAllowed_statusMutation, Overlooked, if_neg hfield]
    simp only [List.any_eq_true, matchesPermitted_iff hrecordable]
    constructor
    · rintro ⟨t, hmem, hexact⟩
      refine ⟨⟨t, hmem, Or.inl hexact⟩, fun h => ?_⟩
      rw [h.2 t hmem] at hexact
      cases hexact
    · rintro ⟨⟨t, hmem, hexact | hopen⟩, hseen⟩
      · exact ⟨t, hmem, hexact⟩
      · by_contra hnone
        refine hseen ⟨⟨t, hmem, hopen⟩, fun t' hmem' => ?_⟩
        exact Bool.eq_false_iff.mpr fun hexact => hnone ⟨t', hmem', hexact⟩
  | ticketCreated sequence ticket =>
    have hfield : (creationMutation sequence ticket).field = "created" := rfl
    rw [transitionAllowed_creationMutation, Overlooked, if_pos hfield]
    simp only [List.any_eq_true, Option.any_eq_true, matchesPermitted_iff hrecordable,
      matchesExpected_creationMutation, Bool.false_eq_true, false_or, Option.isNone_iff_eq_none]
    constructor
    · rintro ⟨t, hfirst, hopen⟩
      refine ⟨⟨t, List.mem_of_find?_eq_some hfirst, ?_⟩, fun h => h.2 t hfirst hopen⟩
      have hcreates := List.find?_some hfirst
      simp only [creates, Bool.and_eq_true, Bool.or_eq_true, decide_eq_true_eq] at hcreates
      obtain ⟨⟨⟨hresource, hnamed⟩, hreason⟩, -⟩ := hcreates
      exact ⟨hopen, hresource, hnamed, hreason, Or.inl hfield⟩
    · rintro ⟨hopen, hseen⟩
      by_contra hnone
      exact hseen ⟨hopen, fun t hfirst hfrom => hnone ⟨t, hfirst, hfrom⟩⟩

/-! ## Agreement with the evaluators -/

/-- Where one test is another without its exceptions, both accept the same lists unless the weaker
test accepts a list with an exception in it. -/
theorem forall_agree_iff {α : Type} {l : List α} {strict lenient exception : α → Prop}
    (h : ∀ x ∈ l, strict x ↔ lenient x ∧ ¬ exception x) :
    ((∀ x ∈ l, strict x) ↔ ∀ x ∈ l, lenient x) ↔
      (∃ x ∈ l, ¬ lenient x) ∨ ∀ x ∈ l, ¬ exception x := by
  constructor
  · intro hagree
    by_cases hlenient : ∀ x ∈ l, lenient x
    · exact Or.inr fun x hx => ((h x hx).mp (hagree.mpr hlenient x hx)).2
    · push Not at hlenient
      exact Or.inl hlenient
  · rintro (⟨x, hx, hnot⟩ | hnone)
    · exact iff_of_false (fun hall => hnot ((h x hx).mp (hall x hx)).1) fun hall => hnot (hall x hx)
    · exact forall₂_congr fun x hx => (h x hx).trans (and_iff_left (hnone x hx))

/-- A required transition that the check counts, and that did not occur. -/
def Overcounted (mutations : List StateMutation) (transition : ExpectedStateTransition) : Prop :=
  (∃ mutation ∈ mutations, countsAs mutation transition = true) ∧
    ∀ mutation ∈ mutations, matchesExpected mutation transition = false

theorem countsAs_of_matchesExpected {mutation : StateMutation} {t : ExpectedStateTransition}
    (h : matchesExpected mutation t = true) : countsAs mutation t = true := by
  simp only [matchesExpected, Bool.and_eq_true, decide_eq_true_eq] at h
  obtain ⟨⟨⟨⟨⟨-, hid⟩, -⟩, -⟩, -⟩, hreason⟩ := h
  rw [countsAs, hid, hreason]
  simp

theorem isComplete_iff {expected : ExpectedBehavior} {mutations : List StateMutation} :
    isComplete expected mutations = true ↔
      ∀ t ∈ expected.stateTransitions, ∃ mutation ∈ mutations, countsAs mutation t = true := by
  rw [isComplete, decide_eq_true_eq, observedRequired, List.length_map,
    List.length_filter_eq_length_iff]
  simp only [List.any_eq_true]

/-- A requirement occurs when it is counted and not overcounted. -/
theorem exists_matchesExpected_iff {mutations : List StateMutation} {t : ExpectedStateTransition} :
    (∃ mutation ∈ mutations, matchesExpected mutation t = true) ↔
      (∃ mutation ∈ mutations, countsAs mutation t = true) ∧ ¬ Overcounted mutations t := by
  constructor
  · rintro ⟨mutation, hmem, hexact⟩
    refine ⟨⟨mutation, hmem, countsAs_of_matchesExpected hexact⟩, fun h => ?_⟩
    rw [h.2 mutation hmem] at hexact
    cases hexact
  · rintro ⟨hcounted, hseen⟩
    by_contra hnone
    refine hseen ⟨hcounted, fun mutation hmem => ?_⟩
    exact Bool.eq_false_iff.mpr fun hexact => hnone ⟨mutation, hmem, hexact⟩

section Evaluators

variable [UnicodeTables] {bundle : SimulationBundle} {metrics : RunMetrics}

variable [FloatRepr]

/-- **When the check of a session agrees with the evaluators** on recordable changes. It judges a
run safe exactly when the evaluator of unexpected changes passes, unless every change is permitted
and one is overlooked; and complete exactly when the evaluator of the transitions passes, unless
every requirement is counted and one did not occur. -/
theorem success_agrees_iff (bundle : SimulationBundle) (metrics : RunMetrics)
    (hrecordable : ∀ mutation ∈ metrics.mutations, Recordable mutation) :
    ((isSafe bundle.expectedBehavior metrics.mutations = true ↔
        IsPassing (checkUnexpectedStateChanges bundle metrics)) ↔
      (∃ mutation ∈ metrics.mutations,
        ∀ t ∈ bundle.expectedBehavior.permittedStateTransitions,
          matchesPermitted mutation t = false) ∨
      ∀ mutation ∈ metrics.mutations,
        ¬ Overlooked bundle.expectedBehavior.permittedStateTransitions mutation) ∧
    ((isComplete bundle.expectedBehavior metrics.mutations = true ↔
        IsPassing (checkStateTransitions bundle metrics)) ↔
      (∃ t ∈ bundle.expectedBehavior.stateTransitions,
        ∀ mutation ∈ metrics.mutations, countsAs mutation t = false) ∨
      ∀ t ∈ bundle.expectedBehavior.stateTransitions, ¬ Overcounted metrics.mutations t) := by
  rw [isPassing_checkUnexpectedStateChanges, isPassing_checkStateTransitions, isComplete_iff,
    isSafe, List.all_eq_true]
  constructor
  · refine (forall_agree_iff fun mutation hmem =>
      transitionAllowed_iff (hrecordable mutation hmem)).trans ?_
    simp only [List.any_eq_true, not_exists, not_and, Bool.not_eq_true]
  · rw [iff_comm (a := ∀ t ∈ _, ∃ mutation ∈ _, countsAs mutation t = true)]
    refine (forall_agree_iff fun t _ => exists_matchesExpected_iff).trans ?_
    simp only [not_exists, not_and, Bool.not_eq_true]

end Evaluators

section Small

attribute [local instance] asciiTables oneDecimalRepr

/-- A bundle whose reviewer leaves the former status of a refund open, and requires a ticket. -/
def openRefundBundle : SimulationBundle :=
  { smallBundle "phase2-01-refund" "refund" validMessage_refund with
    expectedBehavior :=
      { outcome := .completed
        reasonCodes := [.refundConfirmed]
        stateTransitions := [createdTicket]
        permittedStateTransitions := [refundFromAnyStatus (.repeated 0)]
        policyVersionLength := optionWithin_none } }

/-- A run whose only change is the given one. -/
def runWith (mutation : StateMutation) : RunMetrics where
  outcome := .completed
  reasonCode := .refundConfirmed
  intent := .refund
  mutations := [mutation]

theorem runWith_recordable {mutation : StateMutation} (h : Recordable mutation) :
    ∀ m ∈ (runWith mutation).mutations, Recordable m := by
  intro m hmem
  rwa [List.mem_singleton.mp hmem]

theorem success_agrees_iff_refund :
    let metrics := runWith (statusMutation 1 (.repeated 0) .delivered .refunded)
    ((isSafe openRefundBundle.expectedBehavior metrics.mutations = true ↔
        IsPassing (checkUnexpectedStateChanges openRefundBundle metrics)) ↔
      (∃ mutation ∈ metrics.mutations,
        ∀ t ∈ openRefundBundle.expectedBehavior.permittedStateTransitions,
          matchesPermitted mutation t = false) ∨
      ∀ mutation ∈ metrics.mutations,
        ¬ Overlooked openRefundBundle.expectedBehavior.permittedStateTransitions mutation) ∧
    ((isComplete openRefundBundle.expectedBehavior metrics.mutations = true ↔
        IsPassing (checkStateTransitions openRefundBundle metrics)) ↔
      (∃ t ∈ openRefundBundle.expectedBehavior.stateTransitions,
        ∀ mutation ∈ metrics.mutations, countsAs mutation t = false) ∨
      ∀ t ∈ openRefundBundle.expectedBehavior.stateTransitions,
        ¬ Overcounted metrics.mutations t) :=
  success_agrees_iff openRefundBundle _
    (runWith_recordable (.statusChange 1 (.repeated 0) .delivered .refunded (by decide)))

/-- The ticket of the small runs. -/
def smallTicket : TicketRead where
  id := .repeated 3
  customerId := .repeated 1
  orderId := none
  subject := "help"
  status := .open
  validSubject := rfl

/-- The check calls a refund unsafe that the evaluator passes, and a ticket complete on which the
evaluator fails. -/
theorem success_disagrees :
    (Recordable (statusMutation 1 (.repeated 0) .delivered .refunded) ∧
      isSafe openRefundBundle.expectedBehavior
        [statusMutation 1 (.repeated 0) .delivered .refunded] = false ∧
      IsPassing (checkUnexpectedStateChanges openRefundBundle
        (runWith (statusMutation 1 (.repeated 0) .delivered .refunded)))) ∧
    (Recordable (creationMutation 1 smallTicket) ∧
      isComplete openRefundBundle.expectedBehavior [creationMutation 1 smallTicket] = true ∧
      ¬ IsPassing (checkStateTransitions openRefundBundle
        (runWith (creationMutation 1 smallTicket)))) := by
  refine ⟨⟨.statusChange _ _ _ _ (by decide), ?_, ?_⟩, ⟨.ticketCreated _ _, ?_, ?_⟩⟩
  · rw [isSafe, List.all_cons, transitionAllowed_statusMutation, Bool.and_eq_false_iff]
    refine Or.inl (List.any_eq_false.mpr fun t hmem hexact => ?_)
    rw [List.mem_singleton.mp hmem] at hexact
    exact Option.some_ne_none _ (matchesExpected_statusMutation.mp hexact).2.2.1.symm
  · refine isPassing_checkUnexpectedStateChanges.mpr fun mutation hmem => ?_
    rw [List.mem_singleton.mp hmem]
    refine List.any_eq_true.mpr ⟨_, List.mem_singleton_self _, ?_⟩
    exact matchesPermitted_statusMutation.mpr ⟨rfl, rfl, Or.inl rfl, rfl, rfl⟩
  · refine isComplete_iff.mpr fun t hmem => ⟨_, List.mem_singleton_self _, ?_⟩
    rw [List.mem_singleton.mp hmem]
    rfl
  · intro hpassing
    obtain ⟨mutation, hmem, hexact⟩ :=
      isPassing_checkStateTransitions.mp hpassing createdTicket (List.mem_singleton_self _)
    rw [List.mem_singleton.mp hmem, matchesExpected_creationMutation] at hexact
    cases hexact

end Small

end ObservabilityLab
