import ObservabilityLab.Comparison.Evaluators
import ObservabilityLab.Simulation.Postgres

/-!
# Expected and permitted transitions

The evaluators read one declared transition in two ways: as a change that has to occur, and as a
change that may occur. On the mutations that the sandbox can record the two readings differ: a
transition that leaves its former status open permits changes that never satisfy it.

## Main definitions

* `LeavesOpen`, `DeclaresStatusChange`: the transitions on which the readings differ, and those that
  a run can satisfy

## Main results

* `matchesExpected_statusMutation`, `matchesPermitted_statusMutation`,
  `matchesPermitted_creationMutation`: what the two matchers accept of a recordable mutation
* `expected_iff_permitted_iff`: when the two readings agree
-/

namespace ObservabilityLab

open Python

/-! ## The matchers on recordable mutations -/

theorem eq_ofOption {text : String} {status : Option String} :
    (PyValue.str text).eq (.ofOption status) = true ↔ status = some text := by
  cases status with
  | none => simp [PyValue.ofOption, PyValue.eq, PyValue.asRat]
  | some other => simp [PyValue.ofOption, PyValue.eq, eq_comm]

theorem ofOption_eq_str {text : String} {status : Option String} :
    (PyValue.ofOption status).eq (.str text) = true ↔ status = some text := by
  cases status with
  | none => simp [PyValue.ofOption, PyValue.eq, PyValue.asRat]
  | some other => simp [PyValue.ofOption, PyValue.eq]

theorem eq_str {text other : String} :
    (PyValue.str text).eq (.str other) = true ↔ text = other := by
  simp [PyValue.eq]

namespace ExpectedStateTransition

variable (t : ExpectedStateTransition)

theorem resourceIdText_eq_str {id : Uuid} : id.str = t.resourceIdText ↔ t.resourceId = some id := by
  unfold resourceIdText
  cases t.resourceId with
  | none => exact iff_of_false id.str_ne_none (by simp)
  | some other =>
    rw [Option.elim_some, Option.some.injEq, Uuid.str_injective.eq_iff, eq_comm]

/-- Only the creation of a ticket may be declared without its identifier. -/
theorem of_anyResourceId (h : t.anyResourceId = true) :
    t.resourceId = none ∧ t.resource = .ticket ∧ t.reasonCode = "ticket_created" ∧
      t.fromStatus = none ∧ t.toStatus = "created" := by
  have hcontract := t.contract
  simpa [resourceIdContract, h, and_assoc] using hcontract

theorem anyResourceId_of_order (h : t.resource = .order) : t.anyResourceId = false := by
  by_contra hany
  have hticket := (t.of_anyResourceId (Bool.eq_true_of_not_eq_false hany)).2.1
  rw [h] at hticket
  cases hticket

theorem isSome_resourceId (h : t.anyResourceId = false) : t.resourceId.isSome = true := by
  have hcontract := t.contract
  rwa [resourceIdContract, h] at hcontract

end ExpectedStateTransition

theorem TransitionResource.value_eq_order {r : TransitionResource} :
    "order" = r.value ↔ r = .order := by
  cases r <;> decide

theorem TransitionResource.value_eq_ticket {r : TransitionResource} :
    "ticket" = r.value ↔ r = .ticket := by
  cases r <;> decide

variable {t : ExpectedStateTransition} {sequence : ℕ} {id : Uuid} {before after : OrderStatus}

/-- An order's mutation satisfies exactly the transitions that set both statuses. -/
theorem matchesExpected_statusMutation :
    matchesExpected (statusMutation sequence id before after) t = true ↔
      t.resource = .order ∧ t.resourceId = some id ∧ t.fromStatus = some before.value ∧
        t.toStatus = after.value ∧ t.reasonCode = "refund_executed" := by
  simp only [matchesExpected, statusMutation, Bool.and_eq_true, decide_eq_true_eq, and_assoc,
    TransitionResource.value_eq_order, t.resourceIdText_eq_str, eq_ofOption, eq_str, true_and,
    eq_comm (b := t.reasonCode), eq_comm (b := t.toStatus)]

/-- A created ticket satisfies no transition: the matcher looks for a status. -/
theorem matchesExpected_creationMutation {ticket : TicketRead} :
    matchesExpected (creationMutation sequence ticket) t = false := by
  have hfield : ("created" : String) ≠ "status" := by decide
  simp [matchesExpected, creationMutation, hfield]

theorem all_eq_str {text : String} {status : Option String} :
    status.all (fun s => (PyValue.str text).eq (.str s)) = true ↔
      status = none ∨ status = some text := by
  cases status with
  | none => exact iff_of_true rfl (Or.inl rfl)
  | some other =>
    rw [Option.all_some, eq_str, Option.some.injEq, eq_comm]
    exact ⟨Or.inr, fun h => h.resolve_left (Option.some_ne_none _)⟩

theorem all_none_eq_str {status : Option String} :
    status.all (fun s => PyValue.none.eq (.str s)) = true ↔ status = none := by
  cases status with
  | none => exact iff_of_true rfl rfl
  | some other => simp [PyValue.eq, PyValue.asRat]

/-- An order's mutation is permitted also by the transitions that leave the former status open. -/
theorem matchesPermitted_statusMutation :
    matchesPermitted (statusMutation sequence id before after) t = true ↔
      t.resource = .order ∧ t.resourceId = some id ∧
        (t.fromStatus = none ∨ t.fromStatus = some before.value) ∧
        t.toStatus = after.value ∧ t.reasonCode = "refund_executed" := by
  by_cases horder : t.resource = .order
  · have hfield : ¬ (t.resource = .ticket ∧ t.reasonCode = "ticket_created") := by
      rw [horder]
      exact fun h => TransitionResource.noConfusion h.1
    simp only [matchesPermitted, statusMutation, t.anyResourceId_of_order horder,
      TransitionResource.value_eq_order, t.resourceIdText_eq_str, all_eq_str, Bool.and_eq_true,
      Bool.false_or, decide_eq_true_eq, if_neg hfield, and_assoc, eq_comm (b := t.reasonCode),
      eq_comm (b := t.toStatus), true_and]
    constructor
    · rintro ⟨hresource, hid, hreason, hfrom, hto⟩
      exact ⟨hresource, hid, hfrom, hto, hreason⟩
    · rintro ⟨hresource, hid, hfrom, hto, hreason⟩
      exact ⟨hresource, hid, hreason, hfrom, hto⟩
  · refine iff_of_false (fun h => ?_) fun h => horder h.1
    simp only [matchesPermitted, statusMutation, Bool.and_eq_true, decide_eq_true_eq,
      TransitionResource.value_eq_order] at h
    exact horder h.1.1.1.1.1

/-- A created ticket is permitted by every transition that names it and leaves the former status
open, whatever its other status. -/
theorem matchesPermitted_creationMutation {ticket : TicketRead} :
    matchesPermitted (creationMutation sequence ticket) t = true ↔
      t.resource = .ticket ∧ (t.anyResourceId = true ∨ t.resourceId = some ticket.id) ∧
        t.fromStatus = none ∧ t.reasonCode = "ticket_created" := by
  by_cases hcreated : t.resource = .ticket ∧ t.reasonCode = "ticket_created"
  · simp only [matchesPermitted, creationMutation, TicketRead.dump,
      TransitionResource.value_eq_ticket, t.resourceIdText_eq_str, all_none_eq_str,
      Bool.and_eq_true, Bool.or_eq_true, decide_eq_true_eq, if_true, hcreated.1, hcreated.2,
      true_and, and_true]
  · refine iff_of_false (fun h => ?_) fun h => hcreated ⟨h.1, h.2.2.2⟩
    simp only [matchesPermitted, creationMutation, Bool.and_eq_true, decide_eq_true_eq,
      TransitionResource.value_eq_ticket] at h
    obtain ⟨⟨⟨⟨⟨hresource, -⟩, -⟩, hreason⟩, -⟩, -⟩ := h
    exact hcreated ⟨hresource, (of_decide_eq_true hreason).symm⟩

/-! ## When the two readings agree -/

/-- A transition leaves its former status open, and a mutation is otherwise the change that it
describes. -/
def LeavesOpen (t : ExpectedStateTransition) (mutation : StateMutation) : Prop :=
  t.fromStatus = none ∧ mutation.resource = t.resource.value ∧
    (t.anyResourceId = true ∨ mutation.resourceId = t.resourceIdText) ∧
    mutation.reasonCode = t.reasonCode ∧
    (mutation.field = "created" ∨ mutation.after.eq (.str t.toStatus) = true)

/-- A transition declares the refund of one order, with both of its statuses. -/
def DeclaresStatusChange (t : ExpectedStateTransition) : Prop :=
  t.resource = .order ∧ t.reasonCode = "refund_executed" ∧
    ∃ before after : OrderStatus, before ≠ after ∧ t.fromStatus = some before.value ∧
      t.toStatus = after.value

/-- Some recordable run satisfies a transition as expected, and changes nothing that the transition
does not permit. -/
def Satisfiable (t : ExpectedStateTransition) : Prop :=
  ∃ mutations : List StateMutation, (∀ mutation ∈ mutations, Recordable mutation) ∧
    (mutations.any fun mutation => matchesExpected mutation t) = true ∧
    (mutations.all fun mutation => matchesPermitted mutation t) = true

theorem leavesOpen_statusMutation :
    LeavesOpen t (statusMutation sequence id before after) ↔
      t.fromStatus = none ∧ t.resource = .order ∧ t.resourceId = some id ∧
        t.toStatus = after.value ∧ t.reasonCode = "refund_executed" := by
  have hfield : ("status" : String) ≠ "created" := by decide
  by_cases horder : t.resource = .order
  · simp only [LeavesOpen, statusMutation, TransitionResource.value_eq_order, horder,
      t.anyResourceId_of_order horder, t.resourceIdText_eq_str, eq_str, hfield, false_or,
      Bool.false_eq_true, true_and, eq_comm (b := t.reasonCode), eq_comm (b := t.toStatus)]
    tauto
  · exact iff_of_false (fun h => horder (TransitionResource.value_eq_order.mp h.2.1))
      fun h => horder h.2.1

theorem leavesOpen_creationMutation {ticket : TicketRead} :
    LeavesOpen t (creationMutation sequence ticket) ↔
      t.resource = .ticket ∧ (t.anyResourceId = true ∨ t.resourceId = some ticket.id) ∧
        t.fromStatus = none ∧ t.reasonCode = "ticket_created" := by
  simp only [LeavesOpen, creationMutation, TransitionResource.value_eq_ticket,
    t.resourceIdText_eq_str, true_or, and_true, eq_comm (b := t.reasonCode)]
  tauto

/-- A recordable mutation is permitted by the transitions that it satisfies, and by those that it
finds open. -/
theorem matchesPermitted_iff {mutation : StateMutation} (h : Recordable mutation) :
    matchesPermitted mutation t = true ↔
      matchesExpected mutation t = true ∨ LeavesOpen t mutation := by
  cases h with
  | statusChange sequence orderId before after changed =>
    rw [matchesExpected_statusMutation, matchesPermitted_statusMutation, leavesOpen_statusMutation]
    constructor
    · rintro ⟨hresource, hid, hopen | hfrom, hto, hreason⟩
      · exact Or.inr ⟨hopen, hresource, hid, hto, hreason⟩
      · exact Or.inl ⟨hresource, hid, hfrom, hto, hreason⟩
    · rintro (⟨hresource, hid, hfrom, hto, hreason⟩ | ⟨hopen, hresource, hid, hto, hreason⟩)
      · exact ⟨hresource, hid, Or.inr hfrom, hto, hreason⟩
      · exact ⟨hresource, hid, Or.inl hopen, hto, hreason⟩
  | ticketCreated sequence ticket =>
    rw [matchesExpected_creationMutation, matchesPermitted_creationMutation,
      leavesOpen_creationMutation, or_iff_right Bool.false_ne_true]

/-- A transition that a recordable mutation satisfies sets its former status. -/
theorem not_leavesOpen_of_matchesExpected {mutation : StateMutation} (h : Recordable mutation)
    (hmatches : matchesExpected mutation t = true) : ¬ LeavesOpen t mutation := by
  intro hopen
  cases h with
  | statusChange sequence orderId before after changed =>
    have hfrom := (matchesExpected_statusMutation.mp hmatches).2.2.1
    rw [hopen.1] at hfrom
    cases hfrom
  | ticketCreated sequence ticket =>
    rw [matchesExpected_creationMutation] at hmatches
    cases hmatches

/-- The two readings agree on a recordable mutation unless the transition leaves its former status
open. -/
theorem agree_iff_not_leavesOpen {mutation : StateMutation} (h : Recordable mutation) :
    (matchesExpected mutation t = true ↔ matchesPermitted mutation t = true) ↔
      ¬ LeavesOpen t mutation := by
  rw [matchesPermitted_iff h]
  constructor
  · intro hagree hopen
    exact not_leavesOpen_of_matchesExpected h (hagree.mpr (Or.inr hopen)) hopen
  · intro hclosed
    rw [or_iff_left hclosed]

/-- A transition that a recordable mutation satisfies declares the refund of one order. -/
theorem declaresStatusChange_of_matchesExpected {mutation : StateMutation}
    (h : Recordable mutation) (hmatches : matchesExpected mutation t = true) :
    DeclaresStatusChange t := by
  cases h with
  | statusChange sequence orderId before after changed =>
    obtain ⟨hresource, -, hfrom, hto, hreason⟩ := matchesExpected_statusMutation.mp hmatches
    exact ⟨hresource, hreason, before, after, changed, hfrom, hto⟩
  | ticketCreated sequence ticket =>
    rw [matchesExpected_creationMutation] at hmatches
    cases hmatches

theorem satisfiable_iff : Satisfiable t ↔ DeclaresStatusChange t := by
  constructor
  · rintro ⟨mutations, hrecordable, hexpected, -⟩
    obtain ⟨mutation, hmem, hmatches⟩ := List.any_eq_true.mp hexpected
    exact declaresStatusChange_of_matchesExpected (hrecordable mutation hmem) hmatches
  · rintro ⟨hresource, hreason, before, after, hchanged, hfrom, hto⟩
    obtain ⟨id, hid⟩ := Option.isSome_iff_exists.mp
      (t.isSome_resourceId (t.anyResourceId_of_order hresource))
    -- the run that refunds just that order
    refine ⟨[statusMutation 1 id before after], ?_, ?_, ?_⟩
    · rintro mutation hmem
      rw [List.mem_singleton.mp hmem]
      exact .statusChange 1 id before after hchanged
    · rw [List.any_cons, matchesExpected_statusMutation.mpr ⟨hresource, hid, hfrom, hto, hreason⟩,
        Bool.true_or]
    · rw [List.all_cons, List.all_nil, Bool.and_true]
      exact matchesPermitted_statusMutation.mpr ⟨hresource, hid, Or.inr hfrom, hto, hreason⟩

/-- **When the two readings of a transition agree.** On a recordable mutation they agree exactly
when the transition sets a former status, or the mutation is not otherwise the change that it
describes; and a declared transition can be satisfied exactly when it sets both statuses of one
refunded order. -/
theorem expected_iff_permitted_iff (t : ExpectedStateTransition) :
    (∀ mutation, Recordable mutation →
      ((matchesExpected mutation t = true ↔ matchesPermitted mutation t = true) ↔
        ¬ LeavesOpen t mutation)) ∧
    (Satisfiable t ↔ DeclaresStatusChange t) :=
  ⟨fun _ h => agree_iff_not_leavesOpen h, satisfiable_iff⟩

/-- The wildcard of a created ticket. -/
def createdTicket : ExpectedStateTransition where
  resource := .ticket
  resourceId := none
  anyResourceId := true
  fromStatus := none
  toStatus := "created"
  reasonCode := "ticket_created"
  contract := rfl

/-- A refund whose former status is left open. -/
def refundFromAnyStatus (id : Uuid) : ExpectedStateTransition where
  resource := .order
  resourceId := some id
  anyResourceId := false
  fromStatus := none
  toStatus := "refunded"
  reasonCode := "refund_executed"
  contract := rfl

/-- A recorded refund is permitted by the transition that leaves its former status open, and does
not satisfy it; and no run satisfies the wildcard. -/
theorem readings_differ :
    (Recordable (statusMutation 1 (.repeated 0) .delivered .refunded) ∧
      matchesPermitted (statusMutation 1 (.repeated 0) .delivered .refunded)
        (refundFromAnyStatus (.repeated 0)) = true ∧
      matchesExpected (statusMutation 1 (.repeated 0) .delivered .refunded)
        (refundFromAnyStatus (.repeated 0)) = false) ∧
    ¬ Satisfiable createdTicket := by
  refine ⟨⟨.statusChange _ _ _ _ (by decide), ?_, ?_⟩, ?_⟩
  · exact matchesPermitted_statusMutation.mpr ⟨rfl, rfl, Or.inl rfl, rfl, rfl⟩
  · rw [← Bool.not_eq_true, matchesExpected_statusMutation]
    exact fun h => Option.some_ne_none _ h.2.2.1.symm
  · exact fun h => TransitionResource.noConfusion (satisfiable_iff.mp h).1

end ObservabilityLab
