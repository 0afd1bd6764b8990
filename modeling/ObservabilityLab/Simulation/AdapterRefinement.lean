import ObservabilityLab.Library.Refinement
import ObservabilityLab.Simulation.SupportSandbox

/-!
# The adapter and the sandbox

The in-memory adapter stands in for the sandbox in unit tests. Both take the same calls after the
same seed. The adapter has no requesting customer, so it differs on the orders of other customers;
on the orders of the requesting customer, on policies and on tickets the two agree.

## Main definitions

* `SameOrder`, `SameMutation`: orders and mutations that the two have in common
* `Agrees`: the adapter agrees with the rows, the log and the pending proposals of a sandbox
* `AnswersAgree`: what the answers of the two to one call have in common

## Main results

* `twin_step`: one call keeps the agreement, and the answers agree
* `adapter_refines_sandbox`: the same along every sequence of calls
-/

namespace ObservabilityLab

open Python Raising Refinement

/-- The order that a call names. -/
def ToolCall.orderId? : ToolCall → Option Uuid
  | .getOrderStatus orderId => some orderId
  | .proposeRefund orderId => some orderId
  | .confirmRefund orderId => some orderId
  | .getPolicy _ => none
  | .escalate _ => none

/-! ## Arguments that both accept -/

section Accepted

variable [UnicodeTables] [FloatRepr]

/-- The adapter reads the arguments of a call. -/
def StatefulSupportAdapter.accepts (tool : String) (arguments : Record) : Bool :=
  tool ∈ supportToolNames &&
    if tool = "get_policy" then (slugArgument arguments).isOk
    else if tool = "escalate" then
      (subjectArgument tool arguments).toOption.any (lengthWithin 1 300)
    else (orderArgument tool arguments).isOk

/-- The sandbox reads the arguments of a call, and the database takes their text. -/
def PostgresSupportSandbox.accepts (tool : String) (arguments : Record) : Bool :=
  tool ∈ supportToolNames && (sandboxToolCall tool arguments).toOption.any fun
    | .getPolicy slug => isStorableText slug
    | .escalate subject => lengthWithin 1 300 subject && isStorableText subject
    | _ => true

/-- The arguments of a call, as both read them. -/
inductive Reads : String → Record → ToolCall → Prop where
  | getOrderStatus {arguments : Record} {orderId : Uuid}
      (h : orderArgument "get_order_status" arguments = .ok orderId) :
      Reads "get_order_status" arguments (.getOrderStatus orderId)
  | getPolicy {arguments : Record} {slug : String} (h : slugArgument arguments = .ok slug)
      (hstorable : isStorableText slug = true) : Reads "get_policy" arguments (.getPolicy slug)
  | proposeRefund {arguments : Record} {orderId : Uuid}
      (h : orderArgument "propose_refund" arguments = .ok orderId) :
      Reads "propose_refund" arguments (.proposeRefund orderId)
  | confirmRefund {arguments : Record} {orderId : Uuid}
      (h : orderArgument "confirm_refund" arguments = .ok orderId) :
      Reads "confirm_refund" arguments (.confirmRefund orderId)
  | escalate {arguments : Record} {subject : String}
      (h : subjectArgument "escalate" arguments = .ok subject)
      (hsubject : lengthWithin 1 300 subject = true)
      (hstorable : isStorableText subject = true) :
      Reads "escalate" arguments (.escalate subject)

theorem Reads.of_confirmRefund {tool : String} {arguments : Record} {toolCall : ToolCall}
    (h : Reads tool arguments toolCall) (htool : tool = "confirm_refund") :
    ∃ orderId, toolCall = .confirmRefund orderId ∧
      orderArgument "confirm_refund" arguments = .ok orderId := by
  cases h with
  | confirmRefund horder => exact ⟨_, rfl, horder⟩
  | _ => exact absurd htool (by decide +kernel)

theorem orderArgument_of_uuidArgument {tool : String} {arguments : Record} {orderId : Uuid}
    (h : uuidArgument tool arguments "order_id" = .ok orderId) :
    orderArgument tool arguments = .ok orderId := by
  unfold uuidArgument at h
  unfold orderArgument
  cases hvalue : arguments.lookup "order_id" with
  | none =>
    rw [hvalue] at h
    cases h
  | some value =>
    rw [hvalue] at h
    exact h

theorem subjectArgument_of_requiredStringArgument {tool : String} {arguments : Record}
    {subject : String} (h : requiredStringArgument tool arguments "subject" = .ok subject) :
    subjectArgument tool arguments = .ok subject := h

/-- A slug that the adapter reads is the one that the sandbox reads. -/
theorem optionalStringArgument_of_slugArgument {arguments : Record} {slug : String}
    (h : slugArgument arguments = .ok slug) {read : Option String}
    (hread : optionalStringArgument "get_policy" arguments "slug" = .ok read) :
    read.getD policySlug = slug := by
  unfold slugArgument at h
  unfold optionalStringArgument at hread
  split at h
  · cases h
  · cases hvalue : arguments.lookup "slug" with
    | none =>
      rw [hvalue] at h hread
      cases hread
      -- a missing slug stands for the refund policy in both
      dsimp only [Option.getD_none] at h
      rw [if_neg (by decide +kernel)] at h
      exact Except.ok.inj h
    | some value =>
      rw [hvalue] at h hread
      dsimp only [Option.getD_some] at h
      cases value with
      | str text =>
        dsimp only at h hread
        split at h
        · cases h
        · rename_i hne
          rw [if_neg hne] at hread
          rw [← Except.ok.inj hread, ← Except.ok.inj h]
          rfl
      | _ => cases h

/-- What the sandbox raises on arguments that it does not read. -/
theorem onlyRaises_sandboxToolCall (tool : String) (arguments : Record) :
    OnlyRaises (· = unsupportedArguments supportDatabase tool arguments)
      (sandboxToolCall tool arguments) := by
  have hexact (allowed optional : List String) :
      OnlyRaises (· = unsupportedArguments supportDatabase tool arguments)
        (requireExactArguments tool arguments allowed optional) := by
    unfold requireExactArguments raiseIf
    split
    · exact onlyRaises_error rfl
    · exact onlyRaises_ok _
  have huuid (name : String) : OnlyRaises (· = unsupportedArguments supportDatabase tool arguments)
      (uuidArgument tool arguments name) := by
    unfold uuidArgument
    split
    · exact onlyRaises_ok _
    · exact onlyRaises_error rfl
  have hrequired (name : String) :
      OnlyRaises (· = unsupportedArguments supportDatabase tool arguments)
      (requiredStringArgument tool arguments name) := by
    unfold requiredStringArgument
    split
    · split
      · exact onlyRaises_error rfl
      · exact onlyRaises_ok _
    · exact onlyRaises_error rfl
  have hoptional (name : String) :
      OnlyRaises (· = unsupportedArguments supportDatabase tool arguments)
      (optionalStringArgument tool arguments name) := by
    unfold optionalStringArgument
    split
    · exact onlyRaises_ok _
    · exact onlyRaises_ok _
    · split
      · exact onlyRaises_error rfl
      · exact onlyRaises_ok _
    · exact onlyRaises_error rfl
  unfold sandboxToolCall
  split_ifs
  · exact (hexact _ _).bind fun _ => (huuid _).bind fun _ => onlyRaises_ok _
  · exact (hexact _ _).bind fun _ => (hoptional _).bind fun _ => onlyRaises_ok _
  · exact (hexact _ _).bind fun _ => (huuid _).bind fun _ => (hrequired _).bind fun _ =>
      onlyRaises_ok _
  · exact (hexact _ _).bind fun _ => (huuid _).bind fun _ => onlyRaises_ok _
  · exact (hexact _ _).bind fun _ => (hrequired _).bind fun _ => onlyRaises_ok _

/-- **Arguments that both accept, both read as the same call.** -/
theorem reads_of_accepts {tool : String} {arguments : Record}
    (hadapter : StatefulSupportAdapter.accepts tool arguments = true)
    (hsandbox : PostgresSupportSandbox.accepts tool arguments = true) :
    ∃ toolCall, sandboxToolCall tool arguments = .ok toolCall ∧ Reads tool arguments toolCall := by
  rw [PostgresSupportSandbox.accepts, Bool.and_eq_true, decide_eq_true_eq] at hsandbox
  obtain ⟨htool, hsandbox⟩ := hsandbox
  rw [StatefulSupportAdapter.accepts, decide_eq_true htool, Bool.true_and] at hadapter
  cases hread : sandboxToolCall tool arguments with
  | error e =>
    rw [hread] at hsandbox
    cases hsandbox
  | ok toolCall =>
    refine ⟨toolCall, rfl, ?_⟩
    rw [hread] at hsandbox
    -- the sandbox checks the names of the arguments first, which the adapter does not
    unfold sandboxToolCall at hread
    split_ifs at hread with hstatus hpolicy hpropose hconfirm
    · subst hstatus
      obtain ⟨orderId, horder, hcall⟩ := bind_eq_ok.mp (check_bind_eq_ok.mp hread).2
      rw [← Except.ok.inj hcall]
      exact .getOrderStatus (orderArgument_of_uuidArgument horder)
    · subst hpolicy
      obtain ⟨slug, hslug, hcall⟩ := bind_eq_ok.mp (check_bind_eq_ok.mp hread).2
      rw [if_pos rfl] at hadapter
      cases hadapterSlug : slugArgument arguments with
      | error e =>
        rw [hadapterSlug] at hadapter
        cases hadapter
      | ok adapterSlug =>
        rw [← Except.ok.inj hcall,
          optionalStringArgument_of_slugArgument hadapterSlug hslug] at hsandbox ⊢
        exact .getPolicy hadapterSlug hsandbox
    · subst hpropose
      obtain ⟨orderId, horder, hrest⟩ := bind_eq_ok.mp (check_bind_eq_ok.mp hread).2
      obtain ⟨reason, -, hcall⟩ := bind_eq_ok.mp hrest
      rw [← Except.ok.inj hcall]
      exact .proposeRefund (orderArgument_of_uuidArgument horder)
    · subst hconfirm
      obtain ⟨orderId, horder, hcall⟩ := bind_eq_ok.mp (check_bind_eq_ok.mp hread).2
      rw [← Except.ok.inj hcall]
      exact .confirmRefund (orderArgument_of_uuidArgument horder)
    · have hescalate : tool = "escalate" := by
        simpa [supportToolNames, hstatus, hpolicy, hpropose, hconfirm] using htool
      subst hescalate
      obtain ⟨subject, hsubject, hcall⟩ := bind_eq_ok.mp (check_bind_eq_ok.mp hread).2
      rw [← Except.ok.inj hcall] at hsandbox ⊢
      obtain ⟨hlength, hstorable⟩ := Bool.and_eq_true_iff.mp hsandbox
      exact .escalate (subjectArgument_of_requiredStringArgument hsubject) hlength hstorable

end Accepted

/-! ## What the two have in common -/

/-- The row of an order in both, for a requesting customer: the same order of the customer, or
orders of others. -/
inductive SameOrder (customerId : Uuid) : Option OrderRead → Option OrderRead → Prop where
  | missing : SameOrder customerId none none
  | own (order : OrderRead) (howner : order.customerId = customerId) :
      SameOrder customerId (some order) (some order)
  | foreign (mine theirs : OrderRead) (hmine : mine.customerId ≠ customerId)
      (htheirs : theirs.customerId ≠ customerId) : SameOrder customerId (some mine) (some theirs)

/-- The same mutation, but for its number and for the identifier and the customer of a ticket. -/
inductive SameMutation : StateMutation → StateMutation → Prop where
  | status (sequence sequence' : ℕ) (orderId : Uuid) (before after : OrderStatus) :
      SameMutation (statusMutation sequence orderId before after)
        (statusMutation sequence' orderId before after)
  | ticket (sequence sequence' : ℕ) {mine theirs : TicketRead}
      (hsubject : mine.subject = theirs.subject) (horder : mine.orderId = theirs.orderId)
      (hstatus : mine.status = theirs.status) :
      SameMutation (creationMutation sequence mine) (creationMutation sequence' theirs)

/-- A seeded order belongs to another customer. -/
def Foreign (customerId : Uuid) (state : SimulationState) (orderId : Uuid) : Prop :=
  ∃ order ∈ state.orders, order.id = orderId ∧ order.customerId ≠ customerId

/-- A mutation that is not about an order of another customer. -/
def ownMutation (customerId : Uuid) (state : SimulationState) (mutation : StateMutation) : Bool :=
  !(mutation.resource = "order" && state.orders.any fun order =>
    order.id.str = mutation.resourceId && order.customerId ≠ customerId)

/-- A mutation that refunds an order which was refunded before. -/
def repeatsRefund (mutation : StateMutation) : Bool :=
  match mutation.before with
  | .str status => status = OrderStatus.refunded.value
  | _ => false

/-- A mutation of the adapter that the sandbox records as well. -/
def commonMutation (customerId : Uuid) (state : SimulationState)
    (mutation : StateMutation) : Bool :=
  ownMutation customerId state mutation && !repeatsRefund mutation

section Seeded

variable {customerId : Uuid} {state : SimulationState} {orderId : Uuid} {order : OrderRead}

theorem ordersById_eq_some (hunique : (state.orders.map (·.id)).Nodup) :
    ordersById state.orders orderId = some order ↔ order ∈ state.orders ∧ order.id = orderId := by
  have hreversed : (state.orders.reverse.map (·.id)).Nodup := by
    rw [List.map_reverse]
    exact List.nodup_reverse.mpr hunique
  rw [ordersById, FirstMatch.find?_key_eq_some hreversed, List.mem_reverse]

theorem ne_of_ordersById_eq_none (h : ordersById state.orders orderId = none) :
    ∀ order ∈ state.orders, order.id ≠ orderId := fun order hmem hid =>
  List.find?_eq_none.mp h order (List.mem_reverse.mpr hmem) (decide_eq_true hid)

/-- Whether an order is foreign is a question of its seeded owner. -/
theorem foreign_iff (hunique : (state.orders.map (·.id)).Nodup)
    (horder : (ordersById state.orders orderId).map (·.customerId) = some order.customerId) :
    Foreign customerId state orderId ↔ order.customerId ≠ customerId := by
  obtain ⟨seeded, hseeded, howner⟩ := Option.map_eq_some_iff.mp horder
  have hmem := (ordersById_eq_some hunique).mp hseeded
  rw [← howner]
  constructor
  · rintro ⟨other, hother, hid, hforeign⟩
    rw [List.inj_on_of_nodup_map hunique hmem.1 hother (hmem.2.trans hid.symm)]
    exact hforeign
  · exact fun h => ⟨seeded, hmem.1, hmem.2, h⟩

theorem ownMutation_status {mutation : StateMutation} (hresource : mutation.resource = "order")
    (hid : mutation.resourceId = orderId.str) :
    ownMutation customerId state mutation = true ↔ ¬ Foreign customerId state orderId := by
  rw [ownMutation, hresource, hid, Bool.not_eq_true', ← Bool.not_eq_true, not_iff_not]
  simp [Foreign, Uuid.str_injective.eq_iff]

/-- A refund of an order is common as long as the order is the customer's, and is not refunded. -/
theorem commonMutation_status {sequence : ℕ} {before after : OrderStatus} :
    commonMutation customerId state (statusMutation sequence orderId before after) = true ↔
      ¬ Foreign customerId state orderId ∧ before ≠ .refunded := by
  rw [commonMutation, Bool.and_eq_true, ownMutation_status rfl rfl, Bool.not_eq_true',
    ← Bool.not_eq_true]
  refine and_congr_right fun _ => not_congr ?_
  change decide (before.value = OrderStatus.refunded.value) = true ↔ _
  cases before <;> decide +kernel

theorem commonMutation_ticket {sequence : ℕ} {ticket : TicketRead} :
    commonMutation customerId state (creationMutation sequence ticket) = true := by
  simp [commonMutation, ownMutation, repeatsRefund, creationMutation]

end Seeded

/-- **The adapter agrees with a sandbox**: with its rows, its log and its pending proposals. -/
structure Agrees (customerId : Uuid) (state : SimulationState) (adapter : StatefulSupportAdapter)
    (rows : SupportTables) (log : MutationLog) (proposed : Uuid → Bool) : Prop where
  unique : (state.orders.map (·.id)).Nodup
  consistent : AdapterConsistent adapter
  seeded : adapter.initial.isNone = false
  registered : customerId ∈ rows.customers
  orders : ∀ id, SameOrder customerId (adapter.orders id) (rows.order? id)
  /-- No call changes the owner of an order. -/
  owners : ∀ id, (adapter.orders id).map (·.customerId) =
    (ordersById state.orders id).map (·.customerId)
  policies : adapter.policies = rows.policies
  /-- The sandbox keeps a proposal until the order is refunded, the adapter for good. -/
  proposals : ∀ id, proposed id = true ↔ id ∈ adapter.proposals ∧ ∃ order,
    rows.order? id = some order ∧ order.customerId = customerId ∧ order.status = .delivered
  mutations : List.Forall₂ SameMutation
    (adapter.log.mutations.filter (commonMutation customerId state)) log.mutations
  sequence : log.sequence = log.mutations.length
  numbered : log.mutations.map (·.sequence) = List.range' 1 log.mutations.length

namespace Agrees

variable {customerId : Uuid} {state : SimulationState} {adapter : StatefulSupportAdapter}
  {rows : SupportTables} {log : MutationLog} {proposed : Uuid → Bool} {orderId : Uuid}
  {order : OrderRead}

/-- Both have the orders, tickets and policies of a seed, and nothing else. -/
theorem seed (flag : Bool) (h : seedTables customerId state = .ok rows) :
    Agrees customerId state (({ refundConfirmed := flag } : StatefulSupportAdapter).seed state) rows
      {} fun _ => false := by
  have hcustomers := customers_of_seedTables h
  unfold seedTables at h
  split_ifs at h with hstorable hunique hvalid
  rw [← Except.ok.inj h] at hcustomers ⊢
  have hrow : ∀ id, ordersById state.orders id = state.orders.find? (·.id = id) := by
    intro id
    cases hfind : state.orders.find? (·.id = id) with
    | none =>
      exact List.find?_eq_none.mpr fun row hmem =>
        List.find?_eq_none.mp hfind row (List.mem_reverse.mp hmem)
    | some row =>
      exact (ordersById_eq_some hunique).mpr ((FirstMatch.find?_key_eq_some hunique).mp hfind)
  exact {
    unique := hunique
    consistent := .seed state
    seeded := rfl
    registered := by
      rw [hcustomers]
      exact List.mem_append_left _ List.mem_cons_self
    orders := fun id => by
      change SameOrder customerId (ordersById state.orders id) (state.orders.find? (·.id = id))
      rw [hrow]
      cases state.orders.find? (·.id = id) with
      | none => exact .missing
      | some row =>
        by_cases howner : row.customerId = customerId
        · exact .own row howner
        · exact .foreign row row howner howner
    owners := fun _ => rfl
    policies := rfl
    proposals := fun id => iff_of_false Bool.false_ne_true fun h => absurd h.1 List.not_mem_nil
    mutations := .nil
    sequence := rfl
    numbered := rfl }

/-- The order that a call names is stored by neither. -/
theorem not_seeded (h : Agrees customerId state adapter rows log proposed)
    (horder : adapter.orders orderId = none) : ∀ order ∈ state.orders, order.id ≠ orderId := by
  have howner := h.owners orderId
  rw [horder, Option.map_none, eq_comm, Option.map_eq_none_iff] at howner
  exact ne_of_ordersById_eq_none howner

theorem foreign_iff (h : Agrees customerId state adapter rows log proposed)
    (horder : adapter.orders orderId = some order) :
    Foreign customerId state orderId ↔ order.customerId ≠ customerId := by
  have howner := h.owners orderId
  rw [horder, Option.map_some] at howner
  exact ObservabilityLab.foreign_iff h.unique howner.symm

theorem exists_seeded (h : Agrees customerId state adapter rows log proposed)
    (horder : adapter.orders orderId = some order) :
    ∃ seeded ∈ state.orders, seeded.id = orderId := by
  have howner := h.owners orderId
  rw [horder, Option.map_some] at howner
  obtain ⟨seeded, hseeded, -⟩ := Option.map_eq_some_iff.mp howner.symm
  exact ⟨seeded, (ordersById_eq_some h.unique).mp hseeded⟩

/-- A proposal for an order of another customer, which the sandbox refuses. -/
theorem propose_foreign (h : Agrees customerId state adapter rows log proposed)
    (horder : adapter.orders orderId = some order) (hdelivered : order.status = .delivered)
    (hforeign : ∀ row, rows.order? orderId = some row → row.customerId ≠ customerId) :
    Agrees customerId state (adapter.propose orderId) rows log proposed :=
  { h with
    consistent := h.consistent.propose horder hdelivered
    proposals := fun id => by
      rw [h.proposals id]
      refine and_congr_left fun hrow => ?_
      obtain ⟨row, hrow, howner, -⟩ := hrow
      have hid : id ≠ orderId := by
        rintro rfl
        exact hforeign row hrow howner
      exact (List.mem_insert_iff.trans (or_iff_right hid)).symm }

/-- A proposal for a delivered order of the customer. -/
theorem propose_own (h : Agrees customerId state adapter rows log proposed)
    (horder : adapter.orders orderId = some order) (hrow : rows.order? orderId = some order)
    (howner : order.customerId = customerId) (hdelivered : order.status = .delivered) :
    Agrees customerId state (adapter.propose orderId) rows log
      (Function.update proposed order.id true) :=
  { h with
    consistent := h.consistent.propose horder hdelivered
    proposals := fun id => by
      have hsame : order.id = orderId := SupportTables.id_of_order? hrow
      rw [hsame, Function.update_apply]
      by_cases hid : id = orderId
      · rw [if_pos hid, hid]
        exact iff_of_true rfl ⟨List.mem_insert_self, order, hrow, howner, hdelivered⟩
      · rw [if_neg hid, h.proposals id]
        exact and_congr_left' (List.mem_insert_iff.trans (or_iff_right hid)).symm }

theorem owners_refund (h : Agrees customerId state adapter rows log proposed)
    (horder : adapter.orders orderId = some order) (id : Uuid) :
    ((adapter.refund orderId order).orders id).map (·.customerId) =
      (ordersById state.orders id).map (·.customerId) := by
  change (Function.update adapter.orders orderId (some order.refund) id).map _ = _
  by_cases hid : id = orderId
  · rw [hid, Function.update_self, ← h.owners orderId, horder]
    rfl
  · rw [Function.update_of_ne hid, h.owners id]

/-- A refund that only the adapter records. -/
theorem mutations_refund_left (h : Agrees customerId state adapter rows log proposed)
    (huncommon : ¬ (¬ Foreign customerId state orderId ∧ order.status ≠ .refunded)) :
    List.Forall₂ SameMutation
      ((adapter.refund orderId order).log.mutations.filter (commonMutation customerId state))
      log.mutations := by
  change List.Forall₂ SameMutation ((adapter.log.mutations ++
    [statusMutation _ orderId order.status .refunded]).filter _) _
  rw [List.filter_append, List.filter_cons_of_neg, List.filter_nil, List.append_nil]
  · exact h.mutations
  · rw [commonMutation_status]
    exact huncommon

/-- A refund of an order of another customer, which the sandbox refuses. -/
theorem refund_foreign (h : Agrees customerId state adapter rows log proposed)
    (horder : adapter.orders orderId = some order) (hforeign : order.customerId ≠ customerId)
    (hproposed : orderId ∈ adapter.proposals) (hconfirmed : adapter.refundConfirmed = true) :
    Agrees customerId state (adapter.refund orderId order) rows log proposed :=
  { h with
    consistent := h.consistent.refund horder hproposed hconfirmed
    orders := fun id => by
      change SameOrder customerId (Function.update adapter.orders orderId (some order.refund) id) _
      by_cases hid : id = orderId
      · subst hid
        rw [Function.update_self]
        have hsame := h.orders id
        rw [horder] at hsame
        cases hrow : rows.order? id with
        | none =>
          rw [hrow] at hsame
          cases hsame
        | some row =>
          rw [hrow] at hsame
          cases hsame with
          | own order howner => exact absurd howner hforeign
          | foreign mine theirs hmine htheirs => exact .foreign _ _ hforeign htheirs
      · rw [Function.update_of_ne hid]
        exact h.orders id
    owners := h.owners_refund horder
    mutations := by
      refine h.mutations_refund_left fun hcommon => ?_
      exact hcommon.1 ((h.foreign_iff horder).mpr hforeign) }

/-- A repeated refund of a refunded order, which the sandbox refuses. -/
theorem refund_again (h : Agrees customerId state adapter rows log proposed)
    (horder : adapter.orders orderId = some order) (hrefunded : order.status = .refunded)
    (hproposed : orderId ∈ adapter.proposals) (hconfirmed : adapter.refundConfirmed = true) :
    Agrees customerId state (adapter.refund orderId order) rows log proposed :=
  { h with
    consistent := h.consistent.refund horder hproposed hconfirmed
    orders := fun id => by
      have hsame : order.refund = order := by
        rw [OrderRead.refund, ← hrefunded]
      change SameOrder customerId (Function.update adapter.orders orderId (some order.refund) id) _
      rw [hsame, ← horder, Function.update_eq_self]
      exact h.orders id
    owners := h.owners_refund horder
    mutations := h.mutations_refund_left fun hcommon => hcommon.2 hrefunded }

theorem record_numbered (h : Agrees customerId state adapter rows log proposed)
    (mutation : StateMutation) (hsequence : mutation.sequence = log.sequence + 1) :
    (log.mutations ++ [mutation]).map (·.sequence) =
      List.range' 1 (log.mutations ++ [mutation]).length := by
  rw [List.map_append, h.numbered, List.length_append, List.length_singleton, List.range'_concat,
    List.map_singleton, hsequence, h.sequence, Nat.one_mul, Nat.add_comm]

/-- The refund of a delivered order of the customer. -/
theorem refund_own (h : Agrees customerId state adapter rows log proposed)
    (horder : adapter.orders orderId = some order) (hrow : rows.order? orderId = some order)
    (howner : order.customerId = customerId) (hdelivered : order.status = .delivered)
    (hproposed : orderId ∈ adapter.proposals) (hconfirmed : adapter.refundConfirmed = true) :
    Agrees customerId state (adapter.refund orderId order) (rows.withRefund orderId customerId)
      (log.refund order) (Function.update proposed orderId false) := by
  have hid : order.id = orderId := SupportTables.id_of_order? hrow
  have hmatch : refundable orderId customerId order = true :=
    refundable_iff.mpr ⟨hid, howner, hdelivered⟩
  have hrefunded : (rows.withRefund orderId customerId).order? orderId = some order.refund := by
    rw [SupportTables.order?_withRefund, hrow, Option.map_some, if_pos hmatch]
  have hothers : ∀ id, id ≠ orderId →
      (rows.withRefund orderId customerId).order? id = rows.order? id := by
    intro id hne
    rw [SupportTables.order?_withRefund]
    cases hother : rows.order? id with
    | none => rfl
    | some other =>
      have hunmatched : ¬ refundable orderId customerId other = true := fun hrefundable =>
        hne ((SupportTables.id_of_order? hother).symm.trans (refundable_iff.mp hrefundable).1)
      rw [Option.map_some, if_neg hunmatched]
  exact {
    unique := h.unique
    consistent := h.consistent.refund horder hproposed hconfirmed
    seeded := h.seeded
    registered := h.registered
    orders := fun id => by
      change SameOrder customerId (Function.update adapter.orders orderId (some order.refund) id) _
      by_cases hne : id = orderId
      · rw [hne, Function.update_self, hrefunded]
        exact .own order.refund howner
      · rw [Function.update_of_ne hne, hothers id hne]
        exact h.orders id
    owners := h.owners_refund horder
    policies := h.policies
    proposals := fun id => by
      rw [Function.update_apply]
      by_cases hne : id = orderId
      · rw [if_pos hne, hne, hrefunded]
        refine iff_of_false Bool.false_ne_true ?_
        rintro ⟨-, row, hsame, -, hstatus⟩
        rw [← Option.some.inj hsame] at hstatus
        cases hstatus
      · rw [if_neg hne, hothers id hne]
        exact h.proposals id
    mutations := by
      change List.Forall₂ SameMutation ((adapter.log.mutations ++
        [statusMutation _ orderId order.status .refunded]).filter _) (log.mutations ++ [_])
      rw [List.filter_append, List.filter_cons_of_pos, List.filter_nil]
      · refine List.rel_append h.mutations (.cons ?_ .nil)
        rw [hid]
        exact .status _ _ orderId order.status .refunded
      · rw [commonMutation_status, h.foreign_iff horder, hdelivered]
        exact ⟨not_not.mpr howner, by decide⟩
    sequence := by
      change log.sequence + 1 = (log.mutations ++ [_]).length
      rw [h.sequence, List.length_append, List.length_singleton]
    numbered := h.record_numbered _ rfl }

/-- A ticket in both. -/
theorem create (h : Agrees customerId state adapter rows log proposed) {mine theirs : TicketRead}
    (hsubject : mine.subject = theirs.subject) (horder : mine.orderId = theirs.orderId)
    (hstatus : mine.status = theirs.status) :
    Agrees customerId state (adapter.addTicket mine) (rows.withTicket theirs) (log.create theirs)
      proposed where
  unique := h.unique
  consistent := h.consistent.addTicket mine
  seeded := h.seeded
  registered := h.registered
  orders := h.orders
  owners := h.owners
  policies := h.policies
  proposals := h.proposals
  mutations := by
    change List.Forall₂ SameMutation ((adapter.log.mutations ++ [creationMutation _ mine]).filter _)
      (log.mutations ++ [_])
    rw [List.filter_append, List.filter_cons_of_pos commonMutation_ticket, List.filter_nil]
    exact List.rel_append h.mutations (.cons (.ticket _ _ hsubject horder hstatus) .nil)
  sequence := by
    change log.sequence + 1 = (log.mutations ++ [_]).length
    rw [h.sequence, List.length_append, List.length_singleton]
  numbered := h.record_numbered _ rfl

end Agrees

/-! ## One call -/

/-- The ok flag and the error code of a call; `none` is a call that raised. -/
def answered {σ : Type} (result : EStateM.Result PyError σ DependencyCallResult) :
    Option (Bool × Option String) :=
  match outcome result with
  | .ok answer => some (answer.ok, answer.errorCode)
  | .error _ => none

/-- **What the answers of the adapter and the sandbox to one call have in common.** -/
structure AnswersAgree (customerId : Uuid) (state : SimulationState) (toolCall : ToolCall)
    (mine theirs : Option (Bool × Option String)) : Prop where
  adapterAnswers : mine.isSome = true
  /-- Calls about the customer's own orders, about unknown ones and about none. -/
  same : (∀ orderId, toolCall.orderId? = some orderId → ¬ Foreign customerId state orderId) →
    (∀ orderId, toolCall = .confirmRefund orderId → ∃ order ∈ state.orders, order.id = orderId) →
    theirs = mine
  /-- The sandbox refuses calls about the orders of other customers. -/
  foreign : ∀ orderId, toolCall.orderId? = some orderId → Foreign customerId state orderId →
    theirs = some (false, some (if toolCall = .confirmRefund orderId then "refund_not_confirmed"
      else "forbidden"))
  /-- A confirmation of an unknown order. -/
  unknown : ∀ orderId, toolCall = .confirmRefund orderId →
    (∀ order ∈ state.orders, order.id ≠ orderId) →
    mine = some (false, some "order_not_found") ∧ theirs = some (false, some "refund_not_confirmed")

/-- The answers to a call that may confirm again an order which the adapter recorded as refunded.
The sandbox refuses such a confirmation. -/
structure TwinAnswers (customerId : Uuid) (state : SimulationState) (toolCall : ToolCall)
    (reconfirms : Prop) (mine theirs : Option (Bool × Option String)) : Prop where
  agree : ¬ reconfirms → AnswersAgree customerId state toolCall mine theirs
  refused : reconfirms → theirs = some (false, some "refund_not_confirmed")

section Answers

variable {customerId : Uuid} {state : SimulationState} {toolCall : ToolCall} {orderId : Uuid}
  {answer mine theirs : Option (Bool × Option String)}

/-- The same answer to a call about no order. -/
theorem AnswersAgree.of_no_order (hanswer : answer.isSome = true)
    (horder : toolCall.orderId? = none) :
    AnswersAgree customerId state toolCall answer answer where
  adapterAnswers := hanswer
  same _ _ := rfl
  foreign orderId h := by
    rw [horder] at h
    cases h
  unknown orderId h := by
    rw [h] at horder
    cases horder

/-- The same answer to a call that confirms no unknown order, and names no foreign one. -/
theorem AnswersAgree.of_same (hanswer : answer.isSome = true)
    (horder : toolCall.orderId? = some orderId) (hown : ¬ Foreign customerId state orderId)
    (hknown : toolCall = .confirmRefund orderId → ∃ order ∈ state.orders, order.id = orderId) :
    AnswersAgree customerId state toolCall answer answer where
  adapterAnswers := hanswer
  same _ _ := rfl
  foreign other h hforeign := by
    rw [horder, Option.some.injEq] at h
    exact absurd (h ▸ hforeign) hown
  unknown other h hunknown := by
    have hother : other = orderId := by
      rw [h] at horder
      exact Option.some.inj horder
    obtain ⟨order, hmem, hid⟩ := hknown (hother ▸ h)
    exact absurd (hid.trans hother.symm) (hunknown order hmem)

/-- A refusal of a call about the order of another customer. -/
theorem AnswersAgree.of_foreign (hmine : mine.isSome = true)
    (horder : toolCall.orderId? = some orderId) (hforeign : Foreign customerId state orderId)
    (htheirs : theirs = some (false, some (if toolCall = .confirmRefund orderId
      then "refund_not_confirmed" else "forbidden"))) :
    AnswersAgree customerId state toolCall mine theirs where
  adapterAnswers := hmine
  same hown _ := absurd hforeign (hown orderId horder)
  foreign other h _ := by
    rw [horder, Option.some.injEq] at h
    rw [← h, htheirs]
  unknown other h hunknown := by
    obtain ⟨order, hmem, hid, -⟩ := hforeign
    rw [h] at horder
    exact absurd (hid.trans (Option.some.inj horder).symm) (hunknown order hmem)

/-- A confirmation of an unknown order. -/
theorem AnswersAgree.of_unknown (hunknown : ∀ order ∈ state.orders, order.id ≠ orderId)
    (hmine : mine = some (false, some "order_not_found"))
    (htheirs : theirs = some (false, some "refund_not_confirmed")) :
    AnswersAgree customerId state (.confirmRefund orderId) mine theirs where
  adapterAnswers := by
    rw [hmine]
    rfl
  same _ hknown := by
    obtain ⟨order, hmem, hid⟩ := hknown orderId rfl
    exact absurd hid (hunknown order hmem)
  foreign other h hforeign := by
    obtain ⟨order, hmem, hid, -⟩ := hforeign
    exact absurd (hid.trans (Option.some.inj h).symm) (hunknown order hmem)
  unknown _ _ _ := ⟨hmine, htheirs⟩

end Answers

section Steps

variable [RandomIds] [Collation]

/-- The adapter and a sandbox that agree. -/
def Twin (state : SimulationState) (service : SupportAgentService (Observed SupportSession))
    (adapter : StatefulSupportAdapter) (sandbox : PostgresSupportSandbox) : Prop :=
  sandbox.newService = service ∧ adapter.refundConfirmed = service.refundConfirmed ∧
    ∃ rows begun log proposed, sandbox.At (openSession rows begun log) proposed ∧
      Agrees service.customerId state adapter rows log proposed

/-- The answers of the two to one call agree, and the two agree after it. -/
structure TwinStep (state : SimulationState)
    (service : SupportAgentService (Observed SupportSession)) (toolCall : ToolCall)
    (mine : EStateM.Result PyError StatefulSupportAdapter DependencyCallResult)
    (theirs : EStateM.Result PyError PostgresSupportSandbox DependencyCallResult) : Prop where
  answers : AnswersAgree service.customerId state toolCall (answered mine) (answered theirs)
  twin : Twin state service (finalState mine) (finalState theirs)

variable [UnicodeTables] [FloatRepr] {state : SimulationState} {adapter : StatefulSupportAdapter}
  {sandbox : PostgresSupportSandbox} {rows begun : SupportTables} {log : MutationLog}
  {proposed : Uuid → Bool} {arguments : Record} {orderId : Uuid}

open StatefulSupportAdapter (run_call)

theorem twin_getOrderStatus (hflag : adapter.refundConfirmed = sandbox.refundConfirmed)
    (hat : sandbox.At (openSession rows begun log) proposed)
    (h : Agrees sandbox.customerId state adapter rows log proposed)
    (hread : sandboxToolCall "get_order_status" arguments = .ok (.getOrderStatus orderId))
    (horder : orderArgument "get_order_status" arguments = .ok orderId) :
    TwinStep state sandbox.newService (.getOrderStatus orderId)
      ((StatefulSupportAdapter.call "get_order_status" arguments).run adapter)
      ((PostgresSupportSandbox.call "get_order_status" arguments).run sandbox) := by
  have htool : "get_order_status" ∈ supportToolNames := by decide +kernel
  have hsame := h.orders orderId
  rw [run_call htool h.seeded, if_pos rfl, StatefulSupportAdapter.run_getOrderStatus horder]
  generalize hmine : adapter.orders orderId = found at hsame
  generalize hrow : rows.order? orderId = row at hsame
  cases hsame with
  | missing =>
    obtain ⟨after, hrun, hservice, hafter⟩ :=
      PostgresSupportSandbox.run_call_refused htool hat hread rfl
        (PostgresSupportSandbox.refused_triple OrderRead.dump
          (SupportAgentService.getOrderStatus_raises (run_getOrder_missing _ hrow)))
    rw [hrun]
    refine ⟨?_, hservice, hflag, rows, begun, log, proposed, hafter, h⟩
    refine .of_same rfl rfl ?_ fun hconfirm => by cases hconfirm
    rintro ⟨order, hmem, hid, -⟩
    exact h.not_seeded hmine order hmem hid
  | own order howner =>
    obtain ⟨result, after, hrun, hok, hcode, hservice, hafter⟩ :=
      PostgresSupportSandbox.run_call_ok htool hat hread
        (PostgresSupportSandbox.success_triple OrderRead.dump
          (triple_mono (SupportAgentService.getOrderStatus_returns (run_getOrder_owned hrow howner))
            (fun _ h => h) (fun _ _ h => h.2) fun _ _ h => h))
    rw [hrun]
    refine ⟨?_, hservice, hflag, rows, begun, log, proposed, hafter, h⟩
    simp only [answered, outcome_ok, hok, hcode]
    refine .of_same rfl rfl ?_ fun hconfirm => by cases hconfirm
    exact fun hforeign => (h.foreign_iff hmine).mp hforeign howner
  | foreign mine theirs hmineOwner htheirsOwner =>
    obtain ⟨after, hrun, hservice, hafter⟩ :=
      PostgresSupportSandbox.run_call_refused htool hat hread rfl
        (PostgresSupportSandbox.refused_triple OrderRead.dump
          (SupportAgentService.getOrderStatus_raises (run_getOrder_foreign hrow htheirsOwner)))
    rw [hrun]
    refine ⟨?_, hservice, hflag, rows, begun, log, proposed, hafter, h⟩
    exact .of_foreign rfl rfl ((h.foreign_iff hmine).mpr hmineOwner) rfl

theorem twin_getPolicy {slug : String} (hflag : adapter.refundConfirmed = sandbox.refundConfirmed)
    (hat : sandbox.At (openSession rows begun log) proposed)
    (h : Agrees sandbox.customerId state adapter rows log proposed)
    (hread : sandboxToolCall "get_policy" arguments = .ok (.getPolicy slug))
    (hslug : slugArgument arguments = .ok slug) (hstorable : isStorableText slug = true) :
    TwinStep state sandbox.newService (.getPolicy slug)
      ((StatefulSupportAdapter.call "get_policy" arguments).run adapter)
      ((PostgresSupportSandbox.call "get_policy" arguments).run sandbox) := by
  have htool : "get_policy" ∈ supportToolNames := by decide +kernel
  rw [run_call htool h.seeded, if_neg (by decide +kernel), if_pos rfl,
    StatefulSupportAdapter.run_getPolicy hslug, h.policies]
  have hrun : (getLatestPolicy (observedRepository sqlAlchemySupportRepository) slug).run
      (openSession rows begun log) = _ := run_getLatestPolicy hstorable
  -- the two look for the newest version in different orders of text, but among the same policies
  have hnewest := isSome_newestPolicy (rows.policies.filter (·.slug = slug))
  generalize rows.policies.filter (·.slug = slug) = policies at hrun hnewest
  cases policies with
  | nil =>
    obtain ⟨after, hcall, hservice, hafter⟩ :=
      PostgresSupportSandbox.run_call_refused htool hat hread rfl
        (PostgresSupportSandbox.refused_triple PolicyDocumentRead.dump
          (SupportAgentService.getPolicy_raises hrun))
    rw [hcall]
    exact ⟨.of_no_order rfl rfl, hservice, hflag, rows, begun, log, proposed, hafter, h⟩
  | cons policy policies =>
    obtain ⟨newest, hfound⟩ := Option.isSome_iff_exists.mp hnewest
    rw [hfound] at hrun
    obtain ⟨result, after, hcall, hok, hcode, hservice, hafter⟩ :=
      PostgresSupportSandbox.run_call_ok htool hat hread
        (PostgresSupportSandbox.success_triple PolicyDocumentRead.dump
          (SupportAgentService.getPolicy_returns hrun))
    have hargmax : ∃ best, (policy :: policies).argmax (·.version) = some best :=
      Option.ne_none_iff_exists'.mp fun hnone => by simp at hnone
    obtain ⟨best, hbest⟩ := hargmax
    rw [hcall, hbest]
    refine ⟨?_, hservice, hflag, rows, begun, log, proposed, hafter, h⟩
    simp only [answered, outcome_ok, hok, hcode]
    exact .of_no_order rfl rfl

theorem twin_proposeRefund (hflag : adapter.refundConfirmed = sandbox.refundConfirmed)
    (hat : sandbox.At (openSession rows begun log) proposed)
    (h : Agrees sandbox.customerId state adapter rows log proposed)
    (hread : sandboxToolCall "propose_refund" arguments = .ok (.proposeRefund orderId))
    (horder : orderArgument "propose_refund" arguments = .ok orderId) :
    TwinStep state sandbox.newService (.proposeRefund orderId)
      ((StatefulSupportAdapter.call "propose_refund" arguments).run adapter)
      ((PostgresSupportSandbox.call "propose_refund" arguments).run sandbox) := by
  have htool : "propose_refund" ∈ supportToolNames := by decide +kernel
  have hsame := h.orders orderId
  rw [run_call htool h.seeded, if_neg (by decide +kernel), if_neg (by decide +kernel), if_pos rfl]
  generalize hmine : adapter.orders orderId = found at hsame
  generalize hrow : rows.order? orderId = row at hsame
  cases hsame with
  | missing =>
    rw [StatefulSupportAdapter.run_proposeRefund_missing horder hmine]
    obtain ⟨after, hrun, hservice, hafter⟩ :=
      PostgresSupportSandbox.run_call_refused htool hat hread rfl
        (PostgresSupportSandbox.refused_triple RefundProposal.dump
          (SupportAgentService.proposeRefund_raises (run_getOrder_missing _ hrow)))
    rw [hrun]
    refine ⟨?_, hservice, hflag, rows, begun, log, proposed, hafter, h⟩
    refine .of_same rfl rfl ?_ fun hconfirm => by cases hconfirm
    rintro ⟨order, hmem, hid, -⟩
    exact h.not_seeded hmine order hmem hid
  | own order howner =>
    have hown : ¬ Foreign sandbox.customerId state orderId := fun hforeign =>
      (h.foreign_iff hmine).mp hforeign howner
    rw [StatefulSupportAdapter.run_proposeRefund_stored horder hmine]
    by_cases hdelivered : order.status = .delivered
    · rw [if_pos hdelivered]
      obtain ⟨result, after, hrun, hok, hcode, hservice, hafter⟩ :=
        PostgresSupportSandbox.run_call_ok htool hat hread
          (PostgresSupportSandbox.success_triple RefundProposal.dump
            (SupportAgentService.proposeRefund_returns (run_getOrder_owned hrow howner) hdelivered))
      rw [hrun]
      refine ⟨?_, hservice, hflag, rows, begun, log, _, hafter,
        h.propose_own hmine hrow howner hdelivered⟩
      simp only [answered, outcome_ok, hok, hcode]
      exact .of_same rfl rfl hown fun hconfirm => by cases hconfirm
    · rw [if_neg hdelivered]
      obtain ⟨after, hrun, hservice, hafter⟩ :=
        PostgresSupportSandbox.run_call_refused htool hat hread rfl
          (PostgresSupportSandbox.refused_triple RefundProposal.dump
            (SupportAgentService.proposeRefund_ineligible (run_getOrder_owned hrow howner)
              hdelivered))
      rw [hrun]
      refine ⟨?_, hservice, hflag, rows, begun, log, proposed, hafter, h⟩
      exact .of_same rfl rfl hown fun hconfirm => by cases hconfirm
  | foreign mine theirs hmineOwner htheirsOwner =>
    have hforeign : Foreign sandbox.customerId state orderId := (h.foreign_iff hmine).mpr hmineOwner
    obtain ⟨after, hrun, hservice, hafter⟩ :=
      PostgresSupportSandbox.run_call_refused htool hat hread rfl
        (PostgresSupportSandbox.refused_triple RefundProposal.dump
          (SupportAgentService.proposeRefund_raises (run_getOrder_foreign hrow htheirsOwner)))
    rw [StatefulSupportAdapter.run_proposeRefund_stored horder hmine, hrun]
    -- the adapter proposes whatever is delivered, whoever owns it
    split
    · rename_i hdelivered
      refine ⟨.of_foreign rfl rfl hforeign rfl, hservice, hflag, rows, begun, log, proposed, hafter,
        h.propose_foreign hmine hdelivered fun row hfound => ?_⟩
      rw [hrow, Option.some.injEq] at hfound
      rw [← hfound]
      exact htheirsOwner
    · exact ⟨.of_foreign rfl rfl hforeign rfl, hservice, hflag, rows, begun, log, proposed, hafter,
        h⟩

theorem twin_confirmRefund (hflag : adapter.refundConfirmed = sandbox.refundConfirmed)
    (hat : sandbox.At (openSession rows begun log) proposed)
    (h : Agrees sandbox.customerId state adapter rows log proposed)
    (hread : sandboxToolCall "confirm_refund" arguments = .ok (.confirmRefund orderId))
    (horder : orderArgument "confirm_refund" arguments = .ok orderId)
    (hfirst : ¬ (AdapterOperation.call "confirm_refund" arguments).Reconfirms adapter) :
    TwinStep state sandbox.newService (.confirmRefund orderId)
      ((StatefulSupportAdapter.call "confirm_refund" arguments).run adapter)
      ((PostgresSupportSandbox.call "confirm_refund" arguments).run sandbox) := by
  have htool : "confirm_refund" ∈ supportToolNames := by decide +kernel
  have hsame := h.orders orderId
  have hrefuses (hunproposed : ¬ (proposed orderId = true ∧ sandbox.refundConfirmed = true)) :=
    PostgresSupportSandbox.run_call_refused htool hat hread rfl
      (PostgresSupportSandbox.refused_triple OrderRead.dump
        (SupportAgentService.confirmRefund_refused hunproposed))
  rw [run_call htool h.seeded, if_neg (by decide +kernel), if_neg (by decide +kernel),
    if_neg (by decide +kernel), if_pos rfl]
  generalize hmine : adapter.orders orderId = found at hsame
  generalize hrow : rows.order? orderId = row at hsame
  cases hsame with
  | missing =>
    obtain ⟨after, hrun, hservice, hafter⟩ := hrefuses fun hpending => by
      obtain ⟨-, order, hfound, -⟩ := (h.proposals orderId).mp hpending.1
      rw [hrow] at hfound
      cases hfound
    rw [StatefulSupportAdapter.run_confirmRefund_missing horder hmine, hrun]
    exact ⟨.of_unknown (h.not_seeded hmine) rfl rfl, hservice, hflag, rows, begun, log, proposed,
      hafter, h⟩
  | own order howner =>
    have hown : ¬ Foreign sandbox.customerId state orderId := fun hforeign =>
      (h.foreign_iff hmine).mp hforeign howner
    rw [StatefulSupportAdapter.run_confirmRefund_stored horder hmine]
    by_cases hconfirmed : orderId ∈ adapter.proposals ∧ adapter.refundConfirmed = true
    · -- a proposed order that the log does not name is delivered
      have hdelivered : order.status = .delivered := by
        obtain ⟨found, hfound, hstatus⟩ := h.consistent.proposed orderId hconfirmed.1
        rw [hmine, Option.some.injEq] at hfound
        rw [hfound]
        exact hstatus.resolve_right fun hnamed => hfirst ⟨orderId, ⟨arguments, rfl, horder⟩, hnamed⟩
      have hpending : proposed orderId = true :=
        (h.proposals orderId).mpr ⟨hconfirmed.1, order, hrow, howner, hdelivered⟩
      obtain ⟨result, after, hrun, hok, hcode, hservice, hafter⟩ :=
        PostgresSupportSandbox.run_call_ok htool hat hread
          (PostgresSupportSandbox.success_triple OrderRead.dump
            (SupportAgentService.confirmRefund_returns hpending (hflag.symm.trans hconfirmed.2)
              (run_requestRefund hrow howner hdelivered)))
      rw [if_pos hconfirmed, hrun]
      refine ⟨?_, hservice, hflag, _, begun, _, _, hafter,
        h.refund_own hmine hrow howner hdelivered hconfirmed.1 hconfirmed.2⟩
      simp only [answered, outcome_ok, hok, hcode]
      exact .of_same rfl rfl hown fun _ => h.exists_seeded hmine
    · obtain ⟨after, hrun, hservice, hafter⟩ := hrefuses fun hpending =>
        hconfirmed ⟨((h.proposals orderId).mp hpending.1).1, hflag.trans hpending.2⟩
      rw [if_neg hconfirmed, hrun]
      exact ⟨.of_same rfl rfl hown fun _ => h.exists_seeded hmine, hservice, hflag, rows, begun,
        log, proposed, hafter, h⟩
  | foreign mine theirs hmineOwner htheirsOwner =>
    have hforeign : Foreign sandbox.customerId state orderId := (h.foreign_iff hmine).mpr hmineOwner
    obtain ⟨after, hrun, hservice, hafter⟩ := hrefuses fun hpending => by
      obtain ⟨-, order, hfound, howner, -⟩ := (h.proposals orderId).mp hpending.1
      rw [hrow, Option.some.injEq] at hfound
      exact htheirsOwner (hfound ▸ howner)
    have hrefused : answered (.ok (refusedCall "refund_not_confirmed") after) = some (false,
        some (if ToolCall.confirmRefund orderId = .confirmRefund orderId
          then "refund_not_confirmed" else "forbidden")) := by
      rw [if_pos rfl]
      rfl
    rw [StatefulSupportAdapter.run_confirmRefund_stored horder hmine, hrun]
    -- the adapter refunds what it proposed, whoever owns it
    split
    · rename_i hconfirmed
      exact ⟨.of_foreign rfl rfl hforeign hrefused, hservice, hflag, rows, begun, log, proposed,
        hafter, h.refund_foreign hmine hmineOwner hconfirmed.1 hconfirmed.2⟩
    · exact ⟨.of_foreign rfl rfl hforeign hrefused, hservice, hflag, rows, begun, log, proposed,
        hafter, h⟩

theorem twin_escalate {subject : String}
    (hflag : adapter.refundConfirmed = sandbox.refundConfirmed)
    (hat : sandbox.At (openSession rows begun log) proposed)
    (h : Agrees sandbox.customerId state adapter rows log proposed)
    (hread : sandboxToolCall "escalate" arguments = .ok (.escalate subject))
    (hsubject : subjectArgument "escalate" arguments = .ok subject)
    (hlength : lengthWithin 1 300 subject = true) (hstorable : isStorableText subject = true) :
    TwinStep state sandbox.newService (.escalate subject)
      ((StatefulSupportAdapter.call "escalate" arguments).run adapter)
      ((PostgresSupportSandbox.call "escalate" arguments).run sandbox) := by
  have htool : "escalate" ∈ supportToolNames := by decide +kernel
  obtain ⟨ticket, hsame, horder, hstatus, hcreate⟩ :=
    @run_createTicket_observed _ _ rows begun log _ _ hlength hstorable h.registered
  obtain ⟨result, after, hrun, hok, hcode, hservice, hafter⟩ :=
    PostgresSupportSandbox.run_call_ok htool hat hread
      (PostgresSupportSandbox.success_triple TicketRead.dump
        (SupportAgentService.escalate_returns hlength hcreate))
  rw [run_call htool h.seeded, if_neg (by decide +kernel), if_neg (by decide +kernel),
    if_neg (by decide +kernel), if_neg (by decide +kernel),
    StatefulSupportAdapter.run_escalate hsubject hlength, hrun]
  refine ⟨?_, hservice, hflag, _, begun, _, proposed, hafter,
    h.create hsame.symm horder.symm hstatus.symm⟩
  simp only [answered, outcome_ok, hok, hcode]
  exact .of_no_order rfl rfl

/-- A confirmation of an order that the adapter recorded as refunded: the sandbox refuses it, and
the two agree after it. -/
theorem twin_confirmRefund_again (hflag : adapter.refundConfirmed = sandbox.refundConfirmed)
    (hat : sandbox.At (openSession rows begun log) proposed)
    (h : Agrees sandbox.customerId state adapter rows log proposed)
    (hread : sandboxToolCall "confirm_refund" arguments = .ok (.confirmRefund orderId))
    (horder : orderArgument "confirm_refund" arguments = .ok orderId)
    (hagain : orderId.str ∈ adapter.refundedIds) :
    answered ((PostgresSupportSandbox.call "confirm_refund" arguments).run sandbox) =
        some (false, some "refund_not_confirmed") ∧
      Twin state sandbox.newService
        (finalState ((StatefulSupportAdapter.call "confirm_refund" arguments).run adapter))
        (finalState ((PostgresSupportSandbox.call "confirm_refund" arguments).run sandbox)) := by
  have htool : "confirm_refund" ∈ supportToolNames := by decide +kernel
  obtain ⟨id, order, hid, hproposed, hconfirmed, hmine, hstatus⟩ := h.consistent.refunded _ hagain
  obtain rfl := Uuid.str_injective hid
  have hunproposed : ¬ (proposed orderId = true ∧ sandbox.refundConfirmed = true) := by
    rintro ⟨hpending, -⟩
    obtain ⟨-, row, hrow, howner, hdelivered⟩ := (h.proposals orderId).mp hpending
    have hsame := h.orders orderId
    rw [hmine, hrow] at hsame
    cases hsame with
    | own =>
      rw [hstatus] at hdelivered
      cases hdelivered
    | foreign _ _ _ htheirs => exact htheirs howner
  obtain ⟨after, hrun, hservice, hafter⟩ :=
    PostgresSupportSandbox.run_call_refused htool hat hread rfl
      (PostgresSupportSandbox.refused_triple OrderRead.dump
        (SupportAgentService.confirmRefund_refused hunproposed))
  rw [run_call htool h.seeded, if_neg (by decide +kernel), if_neg (by decide +kernel),
    if_neg (by decide +kernel), if_pos rfl,
    StatefulSupportAdapter.run_confirmRefund_stored horder hmine, if_pos ⟨hproposed, hconfirmed⟩,
    hrun]
  exact ⟨rfl, hservice, hflag, rows, begun, log, proposed, hafter,
    h.refund_again hmine hstatus hproposed hconfirmed⟩

/-- **One call keeps the agreement**, and the answers agree unless it confirms an order that the
adapter already recorded as refunded. -/
theorem twin_step {service : SupportAgentService (Observed SupportSession)} {tool : String}
    {toolCall : ToolCall} (h : Twin state service adapter sandbox)
    (hread : sandboxToolCall tool arguments = .ok toolCall)
    (hreads : Reads tool arguments toolCall) :
    TwinAnswers service.customerId state toolCall
        ((AdapterOperation.call tool arguments).Reconfirms adapter)
        (answered ((StatefulSupportAdapter.call tool arguments).run adapter))
        (answered ((PostgresSupportSandbox.call tool arguments).run sandbox)) ∧
      Twin state service (finalState ((StatefulSupportAdapter.call tool arguments).run adapter))
        (finalState ((PostgresSupportSandbox.call tool arguments).run sandbox)) := by
  obtain ⟨rfl, hflag, rows, begun, log, proposed, hat, hagrees⟩ := h
  by_cases hagain : (AdapterOperation.call tool arguments).Reconfirms adapter
  · obtain ⟨orderId, ⟨confirmed, hcall, horder⟩, hnamed⟩ := hagain
    obtain ⟨rfl, rfl⟩ := AdapterOperation.call.inj hcall
    obtain ⟨read, rfl, hsame⟩ := hreads.of_confirmRefund rfl
    obtain rfl := Except.ok.inj (hsame.symm.trans horder)
    obtain ⟨hrefused, htwin⟩ := twin_confirmRefund_again hflag hat hagrees hread horder hnamed
    exact ⟨⟨fun hfirst => absurd ⟨_, ⟨_, rfl, horder⟩, hnamed⟩ hfirst, fun _ => hrefused⟩, htwin⟩
  · have hstep : TwinStep state sandbox.newService toolCall
        ((StatefulSupportAdapter.call tool arguments).run adapter)
        ((PostgresSupportSandbox.call tool arguments).run sandbox) := by
      cases hreads with
      | getOrderStatus horder => exact twin_getOrderStatus hflag hat hagrees hread horder
      | getPolicy hslug hstorable => exact twin_getPolicy hflag hat hagrees hread hslug hstorable
      | proposeRefund horder => exact twin_proposeRefund hflag hat hagrees hread horder
      | confirmRefund horder => exact twin_confirmRefund hflag hat hagrees hread horder hagain
      | escalate hsubject hlength hstorable =>
        exact twin_escalate hflag hat hagrees hread hsubject hlength hstorable
    exact ⟨⟨fun _ => hstep.answers, fun h => absurd h hagain⟩, hstep.twin⟩

end Steps

/-! ## Sequences of calls -/

section Runs

variable [UnicodeTables] [FloatRepr] [RandomIds] [Collation]

/-- The adapter after a call, whether it returns or raises. -/
def StatefulSupportAdapter.after (adapter : StatefulSupportAdapter) (call : String × Record) :
    StatefulSupportAdapter :=
  finalState ((StatefulSupportAdapter.call call.1 call.2).run adapter)

/-- The sandbox after a call, whether it returns or raises. -/
def PostgresSupportSandbox.after (sandbox : PostgresSupportSandbox) (call : String × Record) :
    PostgresSupportSandbox :=
  finalState ((PostgresSupportSandbox.call call.1 call.2).run sandbox)

omit [Collation] in
/-- The adapter answers no call whose arguments it does not accept. -/
theorem StatefulSupportAdapter.accepts_of_answered {adapter : StatefulSupportAdapter}
    {tool : String} {arguments : Record}
    (h : (answered ((StatefulSupportAdapter.call tool arguments).run adapter)).isSome = true) :
    StatefulSupportAdapter.accepts tool arguments = true := by
  unfold StatefulSupportAdapter.call at h
  by_cases htool : tool ∈ supportToolNames
  · rw [if_neg (not_not.mpr htool)] at h
    change (answered (EStateM.run (do
      if adapter.initial.isNone then
        throw (unsupportedState supportDatabase
          "no scenario state was seeded before the first call")
      _) adapter)).isSome = true at h
    cases hunseeded : adapter.initial.isNone with
    | true =>
      rw [hunseeded] at h
      cases h
    | false =>
      rw [hunseeded, if_neg Bool.false_ne_true] at h
      rw [StatefulSupportAdapter.accepts, decide_eq_true htool, Bool.true_and]
      replace h : (answered (EStateM.run (if tool = "get_order_status" then _ else _)
        adapter)).isSome = true := h
      -- a tool that does not read its argument raises, so it answers nothing
      split_ifs at h with hstatus hpolicy hpropose hconfirm
      · rw [hstatus, if_neg (by decide +kernel), if_neg (by decide +kernel)]
        cases horder : orderArgument "get_order_status" arguments with
        | error e =>
          rw [StatefulSupportAdapter.getOrderStatus, horder] at h
          cases h
        | ok orderId => rfl
      · rw [if_pos hpolicy]
        cases hslug : slugArgument arguments with
        | error e =>
          rw [StatefulSupportAdapter.getPolicy, hslug] at h
          cases h
        | ok slug => rfl
      · rw [hpropose, if_neg (by decide +kernel), if_neg (by decide +kernel)]
        cases horder : orderArgument "propose_refund" arguments with
        | error e =>
          rw [StatefulSupportAdapter.proposeRefund, horder] at h
          cases h
        | ok orderId => rfl
      · rw [hconfirm, if_neg (by decide +kernel), if_neg (by decide +kernel)]
        cases horder : orderArgument "confirm_refund" arguments with
        | error e =>
          rw [StatefulSupportAdapter.confirmRefund, horder] at h
          cases h
        | ok orderId => rfl
      · have hescalate : tool = "escalate" := by
          simpa [supportToolNames, hstatus, hpolicy, hpropose, hconfirm] using htool
        rw [hescalate, if_neg (by decide +kernel), if_pos rfl]
        cases hsubject : subjectArgument "escalate" arguments with
        | error e =>
          rw [StatefulSupportAdapter.escalate, hsubject] at h
          cases h
        | ok subject =>
          by_contra hlong
          have hlength : ¬ lengthWithin 1 300 subject = true := hlong
          rw [StatefulSupportAdapter.escalate, hsubject] at h
          change (answered (EStateM.run (do
            let ticket ← MonadExcept.ofExcept (TicketRead.new (RandomIds.uuid4 adapter.ticketsDrawn)
              (.repeated 0) none subject .open)
            _) adapter)).isSome = true at h
          rw [TicketRead.new, dif_neg hlength] at h
          cases h
  · rw [if_pos htool] at h
    cases h

/-- The sandbox answers no call whose arguments it does not accept. -/
theorem PostgresSupportSandbox.accepts_of_answered {sandbox : PostgresSupportSandbox}
    {tool : String} {arguments : Record} (hseeded : sandbox.agentService = some sandbox.newService)
    (h : (answered ((PostgresSupportSandbox.call tool arguments).run sandbox)).isSome = true) :
    PostgresSupportSandbox.accepts tool arguments = true := by
  by_cases htool : tool ∈ supportToolNames
  · rw [PostgresSupportSandbox.accepts, decide_eq_true htool, Bool.true_and]
    cases hread : sandboxToolCall tool arguments with
    | error e =>
      unfold PostgresSupportSandbox.call at h
      rw [if_neg (not_not.mpr htool)] at h
      rw [EStateM.run_bind, EStateM.run_get] at h
      dsimp only at h
      rw [hseeded, hread, onlyRaises_sandboxToolCall tool arguments e hread] at h
      cases h
    | ok toolCall =>
      rw [PostgresSupportSandbox.run_call_seeded htool hseeded hread, EStateM.run_bind, run_attempt,
        PostgresSupportSandbox.onTurn, run_zoom] at h
      by_contra hrefused
      have hperform : Triple (fun _ => True)
          (PostgresSupportSandbox.perform sandbox.newService toolCall) (fun _ _ => False)
          fun e _ => refusalCode e = none := by
        cases toolCall with
        | escalate subject =>
          have hsubject : ¬ (lengthWithin 1 300 subject && isStorableText subject) = true :=
            hrefused
          rw [Bool.and_eq_true] at hsubject
          exact triple_bind (escalate_unanswered hsubject rfl) fun _ => triple_false
        | getPolicy slug =>
          have hslug : ¬ isStorableText slug = true := hrefused
          exact triple_bind (getPolicy_unanswered (Bool.eq_false_iff.mpr hslug) rfl) fun _ =>
            triple_false
        | _ => exact absurd rfl hrefused
      cases hrun : (PostgresSupportSandbox.perform sandbox.newService toolCall).run
          sandbox.turn with
      | ok result turn => exact hperform.ok trivial hrun
      | error e turn =>
        rw [hrun] at h
        dsimp only at h
        rw [hperform.error trivial hrun] at h
        cases h
  · unfold PostgresSupportSandbox.call at h
    rw [if_pos htool] at h
    cases h

/-- A call that both accept. -/
def Accepted (call : String × Record) : Prop :=
  StatefulSupportAdapter.accepts call.1 call.2 = true ∧
    PostgresSupportSandbox.accepts call.1 call.2 = true

/-- The condition is no more than the two ask: a call that both answer is accepted by both. -/
theorem Twin.accepted_of_answered {state : SimulationState}
    {service : SupportAgentService (Observed SupportSession)} {adapter : StatefulSupportAdapter}
    {sandbox : PostgresSupportSandbox} {call : String × Record}
    (h : Twin state service adapter sandbox)
    (hadapter : (answered ((StatefulSupportAdapter.call call.1 call.2).run adapter)).isSome)
    (hsandbox : (answered ((PostgresSupportSandbox.call call.1 call.2).run sandbox)).isSome) :
    Accepted call := by
  obtain ⟨-, -, rows, begun, log, proposed, hat, -⟩ := h
  exact ⟨StatefulSupportAdapter.accepts_of_answered hadapter,
    PostgresSupportSandbox.accepts_of_answered hat.service hsandbox⟩

/-- **The adapter and the sandbox simulate each other** on the calls that both accept. -/
theorem twin_simulates (state : SimulationState)
    (service : SupportAgentService (Observed SupportSession)) :
    Simulates (Twin state service) Accepted StatefulSupportAdapter.after
      PostgresSupportSandbox.after := by
  rintro adapter sandbox call htwin ⟨hadapter, hsandbox⟩
  obtain ⟨toolCall, hread, hreads⟩ := reads_of_accepts hadapter hsandbox
  exact (twin_step htwin hread hreads).2

omit [UnicodeTables] [FloatRepr] in
/-- A seed that the sandbox accepts makes the two agree. -/
theorem twin_seed {customerId : Uuid} {refundConfirmed : Bool} {proposalIds : ℕ → Uuid}
    {state : SimulationState} {sandbox : PostgresSupportSandbox}
    (hseed : (PostgresSupportSandbox.seed state).run
      { customerId := customerId, refundConfirmed := refundConfirmed, proposalIds := proposalIds } =
        .ok () sandbox) :
    Twin state
      { repository := observedRepository sqlAlchemySupportRepository
        customerId := customerId
        refundConfirmed := refundConfirmed
        proposalIds := proposalIds }
      (({ refundConfirmed := refundConfirmed } : StatefulSupportAdapter).seed state) sandbox := by
  cases hrows : seedTables customerId state with
  | error e => exact absurd hseed (PostgresSupportSandbox.seed_fails hrows rfl)
  | ok rows =>
    obtain ⟨after, hrun, hservice, hat⟩ := @PostgresSupportSandbox.at_seed _ _
      { customerId := customerId, refundConfirmed := refundConfirmed, proposalIds := proposalIds }
      _ _ hrows rfl
    rw [hrun] at hseed
    rw [← (EStateM.Result.ok.inj hseed).2]
    exact ⟨hservice, rfl, rows, .empty, {}, fun _ => false, hat, .seed refundConfirmed hrows⟩

/-- The mutations of the adapter and of the sandbox. -/
structure MutationsAgree (customerId : Uuid) (state : SimulationState)
    (adapter : StatefulSupportAdapter) (sandbox : PostgresSupportSandbox) : Prop where
  /-- The same, but for the orders of other customers and the repeated refunds of the adapter. -/
  same : List.Forall₂ SameMutation
    (adapter.log.mutations.filter (commonMutation customerId state))
    sandbox.turn.world.log.mutations
  adapterNumbered :
    adapter.log.mutations.map (·.sequence) = List.range' 1 adapter.log.mutations.length
  sandboxNumbered : sandbox.turn.world.log.mutations.map (·.sequence) =
    List.range' 1 sandbox.turn.world.log.mutations.length

omit [UnicodeTables] [FloatRepr] in
theorem Twin.mutationsAgree {state : SimulationState}
    {service : SupportAgentService (Observed SupportSession)} {adapter : StatefulSupportAdapter}
    {sandbox : PostgresSupportSandbox} (h : Twin state service adapter sandbox) :
    MutationsAgree service.customerId state adapter sandbox := by
  obtain ⟨-, -, rows, begun, log, proposed, hat, hagrees⟩ := h
  have hlog : sandbox.turn.world.log = log := by
    rw [hat.turn.1]
    rfl
  exact {
    same := by
      rw [hlog]
      exact hagrees.mutations
    adapterNumbered := hagrees.consistent.numbered
    sandboxNumbered := by
      rw [hlog]
      exact hagrees.numbered }

/-- **The adapter and the sandbox agree along every sequence of calls** that both accept: they give
the same answers and record the same mutations, but for the orders of other customers, confirmations
of unknown orders, and confirmations of an order that the adapter recorded as refunded. What both
answer, both accept. -/
theorem adapter_refines_sandbox {customerId : Uuid} {refundConfirmed : Bool}
    {proposalIds : ℕ → Uuid} {state : SimulationState} {sandbox : PostgresSupportSandbox}
    {calls : List (String × Record)}
    (hseed : (PostgresSupportSandbox.seed state).run
      { customerId := customerId, refundConfirmed := refundConfirmed, proposalIds := proposalIds } =
        .ok () sandbox)
    (haccepted : ∀ call ∈ calls, Accepted call) :
    MutationsAgree customerId state
        (calls.foldl StatefulSupportAdapter.after
          (({ refundConfirmed := refundConfirmed } : StatefulSupportAdapter).seed state))
        (calls.foldl PostgresSupportSandbox.after sandbox) ∧
      (∀ call : String × Record,
        (answered ((StatefulSupportAdapter.call call.1 call.2).run (calls.foldl
          StatefulSupportAdapter.after
          (({ refundConfirmed := refundConfirmed } : StatefulSupportAdapter).seed state)))).isSome →
        (answered ((PostgresSupportSandbox.call call.1 call.2).run
          (calls.foldl PostgresSupportSandbox.after sandbox))).isSome →
        Accepted call) ∧
      ∀ earlier call later toolCall, calls = earlier ++ call :: later →
        sandboxToolCall call.1 call.2 = .ok toolCall →
        TwinAnswers customerId state toolCall
          ((AdapterOperation.call call.1 call.2).Reconfirms
            (earlier.foldl StatefulSupportAdapter.after
              (({ refundConfirmed := refundConfirmed } : StatefulSupportAdapter).seed state)))
          (answered ((StatefulSupportAdapter.call call.1 call.2).run
            (earlier.foldl StatefulSupportAdapter.after
              (({ refundConfirmed := refundConfirmed } : StatefulSupportAdapter).seed state))))
          (answered ((PostgresSupportSandbox.call call.1 call.2).run
            (earlier.foldl PostgresSupportSandbox.after sandbox))) := by
  have hrun := (twin_simulates state _).foldl (twin_seed hseed) haccepted
  refine ⟨hrun.mutationsAgree, fun call => hrun.accepted_of_answered, ?_⟩
  rintro earlier call later toolCall rfl hread
  have htwin := (twin_simulates state _).foldl (twin_seed hseed) fun call hmem =>
    haccepted call (List.mem_append_left _ hmem)
  obtain ⟨hadapter, hsandbox⟩ := haccepted call (List.mem_append_right _ List.mem_cons_self)
  obtain ⟨sameCall, hsame, hreads⟩ := reads_of_accepts hadapter hsandbox
  obtain rfl : sameCall = toolCall := Except.ok.inj (hsame.symm.trans hread)
  exact (twin_step htwin hread hreads).1

end Runs

/-! ### One order -/

section OneOrder

attribute [local instance] asciiTables oneDecimalRepr constantIds codePointOrder

/-- A seed of one delivered order. -/
def oneOrder (customerId : Uuid) : SimulationState where
  orders := [freeOrder (.repeated 0) customerId .delivered]

/-- A sandbox of a customer who confirms refunds, after a seed. -/
def seededSandbox (customerId : Uuid) (state : SimulationState) :
    EStateM.Result PyError PostgresSupportSandbox Unit :=
  (PostgresSupportSandbox.seed state).run
    { customerId := customerId, refundConfirmed := true, proposalIds := fun _ => .repeated 3 }

/-- The adapter after the same seed. -/
def seededAdapter (state : SimulationState) : StatefulSupportAdapter :=
  ({ refundConfirmed := true } : StatefulSupportAdapter).seed state

/-- An order that is proposed, escalated, and confirmed twice. -/
def refundCalls : List (String × Record) :=
  [("propose_refund", [("order_id", .uuid (.repeated 0)), ("reason", .str "late")]),
    ("escalate", [("subject", .str "late")]),
    ("confirm_refund", [("order_id", .uuid (.repeated 0))]),
    ("confirm_refund", [("order_id", .uuid (.repeated 0))])]

/-- The adapter reads the order of another customer, which the sandbox forbids. -/
theorem adapter_reads_foreign_order :
    ∃ sandbox, seededSandbox (.repeated 7) (oneOrder (.repeated 1)) = .ok () sandbox ∧
      answered ((StatefulSupportAdapter.call "get_order_status"
        [("order_id", .uuid (.repeated 0))]).run (seededAdapter (oneOrder (.repeated 1)))) =
          some (true, none) ∧
      answered ((PostgresSupportSandbox.call "get_order_status"
        [("order_id", .uuid (.repeated 0))]).run sandbox) = some (false, some "forbidden") :=
  ⟨finalState (seededSandbox (.repeated 7) (oneOrder (.repeated 1))),
    eq_ok_of_outcome (by decide +kernel), by decide +kernel, by decide +kernel⟩

/-- The adapter and the sandbox refund an order of the customer alike, although the adapter refunds
it again at the second confirmation. -/
theorem adapter_refines_sandbox_refund :
    ∃ sandbox, seededSandbox (.repeated 7) (oneOrder (.repeated 7)) = .ok () sandbox ∧
      MutationsAgree (.repeated 7) (oneOrder (.repeated 7))
        (refundCalls.foldl StatefulSupportAdapter.after (seededAdapter (oneOrder (.repeated 7))))
        (refundCalls.foldl PostgresSupportSandbox.after sandbox) := by
  have hseeded : seededSandbox (.repeated 7) (oneOrder (.repeated 7)) =
      .ok () (finalState (seededSandbox (.repeated 7) (oneOrder (.repeated 7)))) :=
    eq_ok_of_outcome (by decide +kernel)
  refine ⟨_, hseeded, (adapter_refines_sandbox hseeded ?_).1⟩
  unfold Accepted
  decide +kernel

end OneOrder

end ObservabilityLab
