import ObservabilityLab.Library.FirstMatch
import ObservabilityLab.Simulation.Adapters
import ObservabilityLab.Simulation.Postgres

/-!
# Fault scripts at a repository

A sandbox may wrap its repository with a fault script. A matching entry raises, or delays the call;
an entry that does not repeat is consumed by the first call that it matches.

## Main definitions

* `Faulted`: a world with the entries that were consumed
* `FaultScript.nextEntry`, `FaultScript.nextError`: the entry that a call meets, and what it raises
* `faultInjectingRepository`: the repository with its fault script
* `Sandbox`, `sandboxRepository`: the repository that the agent of a sandbox uses

## Main results

* `faultInjectingRepository_stores`, `sandboxRepository_stores`: a fault changes no rows
-/

namespace ObservabilityLab

open Python Raising

/-! ## Errors -/

section Errors

variable [UnicodeTables]

/-- `MalformedResponseError(dependency=..., tool=...)` -/
def malformedResponse (dependency tool : String) : PyError :=
  .domain "malformed_response" ("Dependency " ++ reprText dependency ++
    " returned a malformed response for tool " ++ reprText tool ++
    "; the simulated boundary does not invent a repair") unprocessableEntity

end Errors

/-- The errors of a dependency boundary that rejects an access: `UnsupportedToolError`,
`UnsupportedArgumentsError`, `UnsupportedStateError` and `MalformedResponseError`. -/
def isUnexpectedAccess : PyError → Bool
  | .domain code _ _ =>
    code ∈ ["unsupported_tool", "unsupported_arguments", "unsupported_state", "malformed_response"]
  | _ => false

/-! ## The entry that a call meets -/

section Faults

variable [UnicodeTables] [FloatRepr]

/-- Whether an entry matches a call; an entry without arguments matches every call of its tool. -/
def FaultScriptEntry.matchesCall (entry : FaultScriptEntry) (tool : String)
    (arguments : List (String × PyValue)) : Bool :=
  entry.tool = tool &&
    (entry.arguments.isEmpty ||
      match normalizeArguments entry.arguments with
      | some canonical => normalizeArguments arguments = some canonical
      | none => false)

/-- What an entry raises; a delay raises nothing, unless its seconds overflow a float. -/
def FaultScriptEntry.error (entry : FaultScriptEntry) (dependency tool : String) :
    Option PyError :=
  match entry.kind with
  | .timeout => some (.other "TimeoutError" ("injected timeout for tool " ++ reprText tool))
  | .transientError =>
    some (.other "ConnectionError" ("injected transient error for tool " ++ reprText tool))
  | .malformedResponse => some (malformedResponse dependency tool)
  | .delay =>
    if (PyFloat.ofRat (entry.delayMs.getD 0)).isFinite then none
    else some (.other "OverflowError" "int too large to convert to float")

namespace FaultScript

variable (script : FaultScript)

/-- The first entry that matches a call and is not consumed, with its index. -/
def nextEntry (consumed : List ℕ) (tool : String) (arguments : List (String × PyValue)) :
    Option (FaultScriptEntry × ℕ) :=
  script.entries.zipIdx.find? fun indexed =>
    indexed.1.matchesCall tool arguments && (indexed.1.repeats || indexed.2 ∉ consumed)

/-- What a call raises at the boundary. -/
def nextError (consumed : List ℕ) (tool : String) (arguments : List (String × PyValue)) :
    Option PyError :=
  (script.nextEntry consumed tool arguments).bind fun indexed =>
    indexed.1.error script.dependency tool

/-- The consumed entries after a call. -/
def consume (consumed : List ℕ) (tool : String) (arguments : List (String × PyValue)) : List ℕ :=
  match script.nextEntry consumed tool arguments with
  | none => consumed
  | some (entry, index) => if entry.repeats then consumed else index :: consumed

/-! ### What a call meets -/

/-- An entry that a call can meet: it matches the call, and it repeats or is not consumed. -/
def Live (consumed : List ℕ) (tool : String) (arguments : List (String × PyValue)) (index : ℕ)
    (entry : FaultScriptEntry) : Prop :=
  entry.matchesCall tool arguments = true ∧ (entry.repeats = true ∨ index ∉ consumed)

variable {script} {consumed consumed' : List ℕ} {tool : String}
  {arguments : List (String × PyValue)} {entry : FaultScriptEntry} {index : ℕ}

omit [UnicodeTables] in
theorem live_iff :
    (entry.matchesCall tool arguments && (entry.repeats || index ∉ consumed)) = true ↔
      Live consumed tool arguments index entry := by
  rw [Live, Bool.and_eq_true, Bool.or_eq_true, decide_eq_true_eq]

omit [UnicodeTables] in
/-- **A call meets the first live entry.** -/
theorem nextEntry_eq_some : script.nextEntry consumed tool arguments = some (entry, index) ↔
    script.entries[index]? = some entry ∧ Live consumed tool arguments index entry ∧
      ∀ j < index, ∀ other, script.entries[j]? = some other →
        ¬ Live consumed tool arguments j other := by
  rw [nextEntry, FirstMatch.find?_zipIdx_eq_some, live_iff]
  simp only [live_iff]

omit [UnicodeTables] in
theorem nextEntry_eq_none : script.nextEntry consumed tool arguments = none ↔
    ∀ index entry, script.entries[index]? = some entry →
      ¬ Live consumed tool arguments index entry := by
  rw [nextEntry, FirstMatch.find?_zipIdx_eq_none]
  simp only [live_iff]

omit [UnicodeTables] in
/-- A call consumes the entry that it meets, unless the entry repeats. -/
theorem mem_consume : index ∈ script.consume consumed tool arguments ↔
    index ∈ consumed ∨ ∃ entry, script.nextEntry consumed tool arguments = some (entry, index) ∧
      entry.repeats = false := by
  unfold consume
  cases script.nextEntry consumed tool arguments with
  | none => simp
  | some next =>
    obtain ⟨entry, met⟩ := next
    dsimp only
    split
    · rename_i hrepeats
      refine (or_iff_left ?_).symm
      rintro ⟨other, hother, honce⟩
      rw [← (Prod.mk.inj (Option.some.inj hother)).1, hrepeats] at honce
      cases honce
    · rename_i honce
      rw [List.mem_cons, or_comm]
      refine or_congr_right ⟨?_, ?_⟩
      · rintro rfl
        exact ⟨entry, rfl, Bool.eq_false_of_not_eq_true honce⟩
      · rintro ⟨other, hother, -⟩
        exact (Prod.mk.inj (Option.some.inj hother)).2.symm

omit [UnicodeTables] in
/-- A call that meets no entry consumes none. -/
theorem consume_of_nextEntry_eq_none (h : script.nextEntry consumed tool arguments = none) :
    script.consume consumed tool arguments = consumed := by
  rw [consume, h]

omit [UnicodeTables] in
/-- A call that meets no entry meets none later either. -/
theorem nextEntry_eq_none_of_subset (h : script.nextEntry consumed tool arguments = none)
    (hsubset : consumed ⊆ consumed') : script.nextEntry consumed' tool arguments = none := by
  rw [nextEntry_eq_none] at h ⊢
  intro index entry hentry hlive
  exact h index entry hentry ⟨hlive.1, hlive.2.imp_right fun hnew hold => hnew (hsubset hold)⟩

omit [UnicodeTables] in
theorem subset_consume : consumed ⊆ script.consume consumed tool arguments :=
  fun _ hmem => mem_consume.mpr (Or.inl hmem)

end FaultScript

/-! ## The wrapped repository -/

/-- A world behind a fault script. -/
structure Faulted (World : Type) where
  inner : World
  consumed : List ℕ := []

section Repository

variable {World : Type}

def Faulted.onInner {α : Type} (x : Action World α) : Action (Faulted World) α :=
  zoom Faulted.inner (fun inner world => { world with inner := inner }) x

/-- `_maybe_fault(tool, arguments)` -/
def maybeFault (script : FaultScript) (tool : String) (arguments : List (String × PyValue)) :
    Action (Faulted World) Unit := do
  let consumed := (← get).consumed
  modify fun world => { world with consumed := script.consume consumed tool arguments }
  match script.nextError consumed tool arguments with
  | none => return ()
  | some error => throw error

/-- Wrap a repository with a fault script; operations have the names of the agent's tools. -/
def faultInjectingRepository (script : FaultScript)
    (repository : SupportRepository (Action World)) :
    SupportRepository (Action (Faulted World)) where
  getOrder orderId := do
    maybeFault script "get_order_status" [("order_id", .str orderId.str)]
    Faulted.onInner (repository.getOrder orderId)
  saveOrder order := do
    maybeFault script "confirm_refund" [("order_id", .str order.id.str)]
    Faulted.onInner (repository.saveOrder order)
  refundOrderIfDelivered orderId customerId := do
    maybeFault script "confirm_refund" [("order_id", .str orderId.str)]
    Faulted.onInner (repository.refundOrderIfDelivered orderId customerId)
  createTicket ticket := do
    maybeFault script "escalate" [("subject", .str ticket.subject)]
    Faulted.onInner (repository.createTicket ticket)
  getTicket ticketId := Faulted.onInner (repository.getTicket ticketId)
  getPolicy slug version := do
    maybeFault script "get_policy"
      (("slug", .str slug) :: (version.map fun v => ("version", PyValue.str v)).toList)
    Faulted.onInner (repository.getPolicy slug version)

end Repository

/-! ## What a fault does -/

section Rules

variable {World : Type} {P : World → Prop}

omit [UnicodeTables] [FloatRepr] in
/-- A call behind a fault script does what it does in front of it. -/
theorem faulted_onInner_triple {α : Type} {Q : α → World → Prop} {E : PyError → World → Prop}
    {x : Action World α} (h : Triple P x Q E) (consumed : List ℕ) :
    Triple (fun world => P world.inner ∧ world.consumed = consumed) (Faulted.onInner x)
      (fun a world => Q a world.inner ∧ world.consumed = consumed)
      fun e world => E e world.inner ∧ world.consumed = consumed :=
  triple_zoom fun world hP => triple_mono h (by rintro _ rfl; exact hP.1)
    (fun _ _ hQ => ⟨hQ, hP.2⟩) fun _ _ hE => ⟨hE, hP.2⟩

/-- A fault consumes its entry, and raises exactly what the script says. -/
theorem maybeFault_triple (script : FaultScript) (tool : String)
    (arguments : List (String × PyValue)) (consumed : List ℕ) :
    Triple (fun world : Faulted World => P world.inner ∧ world.consumed = consumed)
      (maybeFault script tool arguments)
      (fun _ world => script.nextError consumed tool arguments = none ∧ P world.inner ∧
        world.consumed = script.consume consumed tool arguments)
      fun e world => script.nextError consumed tool arguments = some e ∧ P world.inner ∧
        world.consumed = script.consume consumed tool arguments := by
  refine triple_bind (Q := fun read world => read = world ∧ P world.inner ∧
    world.consumed = consumed) (triple_get fun _ h => ⟨rfl, h⟩) fun read => ?_
  refine triple_of_eq ?_
  rintro world ⟨hread, hP, hconsumed⟩
  rw [hread, hconsumed]
  refine triple_bind (Q := fun _ world => P world.inner ∧
    world.consumed = script.consume consumed tool arguments)
    (triple_modify (by rintro _ rfl; exact ⟨hP, rfl⟩)) fun _ => ?_
  cases hnext : script.nextError consumed tool arguments with
  | none => exact triple_pure fun _ h => ⟨rfl, h⟩
  | some e => exact triple_throw fun _ h => ⟨rfl, h⟩

/-- A faulted call, by what its operation does to a world with a property that the fault keeps. -/
theorem faulted_triple {α : Type} {Q : α → World → Prop} {E : PyError → World → Prop}
    {script : FaultScript} {tool : String} {arguments : List (String × PyValue)}
    {x : Action World α} (h : Triple P x Q E) (hfault : ∀ e world, P world → E e world) :
    Triple (P ·.inner) (do maybeFault script tool arguments; Faulted.onInner x)
      (fun a world => Q a world.inner) fun e world => E e world.inner := by
  intro world hP
  refine (?_ : Triple (fun w : Faulted World => P w.inner ∧ w.consumed = world.consumed) _ _ _)
    world ⟨hP, rfl⟩
  refine triple_bind (triple_mono (maybeFault_triple script tool arguments world.consumed)
    (fun _ h => h) (fun _ _ h => h.2) fun e _ h => hfault e _ h.2.1) fun _ => ?_
  exact triple_mono (faulted_onInner_triple h _) (fun _ h => h) (fun _ _ h => h.1) fun _ _ h => h.1

/-- A fault changes no rows. -/
theorem faultInjectingRepository_stores {repository : SupportRepository (Action World)}
    {customerId : Uuid} {tables : World → SupportTables} {ready lost : World → Prop}
    (script : FaultScript) (hstores : Stores repository customerId tables ready lost) :
    Stores (faultInjectingRepository script repository) customerId (tables ·.inner)
      (ready ·.inner) (lost ·.inner) where
  getOrder orderId rows := faulted_triple (hstores.getOrder orderId rows) fun _ _ h => h
  refundOrderIfDelivered orderId rows :=
    faulted_triple (hstores.refundOrderIfDelivered orderId rows) fun _ _ h => h
  createTicket ticket rows hcustomer horder :=
    faulted_triple (hstores.createTicket ticket rows hcustomer horder) fun _ _ => Or.inl
  getPolicy slug version rows :=
    faulted_triple (hstores.getPolicy slug version rows) fun _ _ => Or.inl

end Rules

/-! ## The repository of a sandbox -/

/-- The world of a sandbox: the rows of its session, observed, behind a fault script. -/
abbrev Sandbox := Faulted (Observed SupportSession)

/-- A sandbox whose transaction begins on the given rows. -/
def Sandbox.begin (database : SupportTables) : Sandbox := ⟨⟨.begin database, {}⟩, []⟩

def Sandbox.tables (sandbox : Sandbox) : SupportTables := sandbox.inner.inner.tables

def Sandbox.mutations (sandbox : Sandbox) : List StateMutation := sandbox.inner.log.mutations

variable [RandomIds] [Collation]

/-- The repository that the agent of a sandbox uses. -/
def sandboxRepository (script : FaultScript) : SupportRepository (Action Sandbox) :=
  faultInjectingRepository script (observedRepository sqlAlchemySupportRepository)

theorem sandboxRepository_stores (script : FaultScript) (customerId : Uuid)
    (begun : SupportTables) :
    Stores (sandboxRepository script) customerId Sandbox.tables
      (fun sandbox => sandbox.inner.inner.Settled customerId begun)
      fun sandbox => sandbox.inner.inner.Lost begun :=
  faultInjectingRepository_stores script
    (observedRepository_stores (sqlAlchemySupportRepository_stores customerId begun))

end Faults

end ObservabilityLab
