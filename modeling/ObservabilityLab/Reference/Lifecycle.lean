import ObservabilityLab.Reference.FlightBooking

/-!
# The lifecycle of a disposable repository

A repository is seeded, changed, reset and destroyed in any order. A reset seeds the repository with
its current state, so that it does not restore what a replacement changed.

## Main definitions

* `snapshot`, `mutationTrail`, `reset`, `destroy`: the remaining methods of the repository
* `RepositoryOperation`, `afterOperations`, `outputs`: the methods in any order
* `lastSeed`, `lastState`, `recordings`: what some operations leave behind them
* `Restores`, `Discards`, `Disposable`: the lifecycle of a disposable repository

## Main results

* `outputs_destroyed`: a destroyed repository shows nothing of what came before
* `disposable_iff`: the lifecycle holds exactly when every reset finds the seed in place
-/

namespace ObservabilityLab.Reference

open Python Raising

variable {S V : Type}

namespace InMemoryReferenceRepository

/-- `snapshot()`, where `dump` is the JSON-safe structure of a state. -/
def snapshot (dump : S → Raises V) : EStateM PyError (InMemoryReferenceRepository S) V := do
  match (← get).state with
  | none => throw (.other "RuntimeError" "repository was not seeded")
  | some state => ofExcept (dump state)

/-- `mutations()` -/
def mutationTrail :
    EStateM PyError (InMemoryReferenceRepository S) (List ReferenceMutation) := do
  return (← get).mutations

/-- `reset()` -/
def reset : EStateM PyError (InMemoryReferenceRepository S) Unit := do
  match (← get).state with
  | none => pure ()
  | some state => seed state

/-- `destroy()` -/
def destroy : EStateM PyError (InMemoryReferenceRepository S) Unit :=
  set (⟨none, [], true⟩ : InMemoryReferenceRepository S)

end InMemoryReferenceRepository

/-! ## Operations in any order -/

/-- One call of a method of the repository. -/
inductive RepositoryOperation (S : Type) where
  | seed (state : S)
  | replace (state : S)
  | record (mutation : ReferenceMutation)
  | snapshot
  | mutations
  | reset
  | destroy

/-- What a method returns. -/
inductive Returned (V : Type) where
  | nothing
  | snapshot (value : V)
  | mutations (trail : List ReferenceMutation)

namespace RepositoryOperation

/-- The method on a repository. -/
def run (dump : S → Raises V) :
    RepositoryOperation S → EStateM PyError (InMemoryReferenceRepository S) (Returned V)
  | seed state => do InMemoryReferenceRepository.seed state; return .nothing
  | replace state => do InMemoryReferenceRepository.replace state; return .nothing
  | record mutation => do InMemoryReferenceRepository.record mutation; return .nothing
  | snapshot => return .snapshot (← InMemoryReferenceRepository.snapshot dump)
  | mutations => return .mutations (← InMemoryReferenceRepository.mutationTrail)
  | reset => do InMemoryReferenceRepository.reset; return .nothing
  | destroy => do InMemoryReferenceRepository.destroy; return .nothing

/-- The state that the operation seeds. -/
def seeded : RepositoryOperation S → Option S
  | seed state => some state
  | _ => none

/-- The state that the operation stores. -/
def stored : RepositoryOperation S → Option S
  | seed state => some state
  | replace state => some state
  | _ => none

/-- The mutation that the operation records. -/
def recorded : RepositoryOperation S → Option ReferenceMutation
  | record mutation => some mutation
  | _ => none

end RepositoryOperation

/-- What an operation returns or raises. -/
def observed (dump : S → Raises V) (repository : InMemoryReferenceRepository S)
    (operation : RepositoryOperation S) : Raises (Returned V) :=
  outcome ((operation.run dump).run repository)

/-- The repository after an operation, whether it returned or raised. -/
def performed (dump : S → Raises V) (repository : InMemoryReferenceRepository S)
    (operation : RepositoryOperation S) : InMemoryReferenceRepository S :=
  finalState ((operation.run dump).run repository)

/-- A new repository after some operations. -/
def afterOperations (dump : S → Raises V) (operations : List (RepositoryOperation S)) :
    InMemoryReferenceRepository S :=
  operations.foldl (performed dump) {}

/-- What the operations return or raise, one after the other. -/
def outputs (dump : S → Raises V) :
    InMemoryReferenceRepository S → List (RepositoryOperation S) → List (Raises (Returned V))
  | _, [] => []
  | repository, operation :: operations =>
    observed dump repository operation ::
      outputs dump (performed dump repository operation) operations

/-! ## What the operations leave behind -/

/-- The operations since the last destruction. -/
def sinceDestroy (operations : List (RepositoryOperation S)) : List (RepositoryOperation S) :=
  operations.foldl (fun since operation => match operation with
    | .destroy => []
    | _ => since ++ [operation]) []

/-- The last seed that was not destroyed. -/
def lastSeed (operations : List (RepositoryOperation S)) : Option S :=
  ((sinceDestroy operations).filterMap RepositoryOperation.seeded).getLast?

/-- The last seed or replacement that was not destroyed. -/
def lastState (operations : List (RepositoryOperation S)) : Option S :=
  ((sinceDestroy operations).filterMap RepositoryOperation.stored).getLast?

/-- The mutations recorded since the last destruction. -/
def recordings (operations : List (RepositoryOperation S)) : List ReferenceMutation :=
  (sinceDestroy operations).filterMap RepositoryOperation.recorded

/-- After every reset the snapshot is the one right after the last seed, and the trail is empty. -/
def Restores (dump : S → Raises V) (operations : List (RepositoryOperation S)) : Prop :=
  ∀ before later, operations = before ++ .reset :: later →
    (∀ state, lastSeed before = some state →
      observed dump (afterOperations dump (before ++ [.reset])) .snapshot =
        observed dump (afterOperations dump [.seed state]) .snapshot) ∧
    (afterOperations dump (before ++ [.reset])).mutations = []

/-- After every destruction there is no state and no mutation, and later operations return what they
return on a new repository. -/
def Discards (dump : S → Raises V) (operations : List (RepositoryOperation S)) : Prop :=
  ∀ before later, operations = before ++ .destroy :: later →
    observed dump (afterOperations dump (before ++ [.destroy])) .snapshot =
      .error (.other "RuntimeError" "repository was not seeded") ∧
    observed dump (afterOperations dump (before ++ [.destroy])) .mutations = .ok (.mutations []) ∧
    outputs dump (afterOperations dump (before ++ [.destroy])) later = outputs dump {} later

/-- The lifecycle of a disposable repository. -/
def Disposable (dump : S → Raises V) (operations : List (RepositoryOperation S)) : Prop :=
  Restores dump operations ∧ Discards dump operations

/-- The seed is in place: the last replacement has the snapshot of the last seed, and no mutation is
recorded where nothing was stored. -/
def InPlace (dump : S → Raises V) (operations : List (RepositoryOperation S)) : Prop :=
  (∀ state current, lastSeed operations = some state → lastState operations = some current →
    dump current = dump state) ∧
  (lastState operations = none → recordings operations = [])

/-! ## One operation -/

section Steps

variable (dump : S → Raises V) (repository : InMemoryReferenceRepository S)

@[simp] theorem performed_seed (state : S) :
    performed dump repository (.seed state) = ⟨some state, [], false⟩ := rfl

@[simp] theorem performed_replace (state : S) :
    performed dump repository (.replace state) = { repository with state := some state } := rfl

@[simp] theorem performed_record (mutation : ReferenceMutation) :
    performed dump repository (.record mutation) =
      { repository with mutations := repository.mutations ++ [mutation] } := rfl

@[simp] theorem performed_mutations : performed dump repository .mutations = repository := rfl

@[simp] theorem performed_destroy :
    performed dump repository .destroy = ⟨none, [], true⟩ := rfl

@[simp] theorem performed_snapshot : performed dump repository .snapshot = repository := by
  obtain ⟨_ | state, mutations, destroyed⟩ := repository
  · rfl
  · change finalState
      ((do return Returned.snapshot (← ofExcept (dump state)) :
        EStateM PyError (InMemoryReferenceRepository S) (Returned V)).run _) = _
    cases dump state <;> rfl

/-- A reset seeds the repository with the state it finds. -/
theorem performed_reset :
    performed dump repository .reset = match repository.state with
      | none => repository
      | some state => ⟨some state, [], false⟩ := by
  obtain ⟨_ | state, mutations, destroyed⟩ := repository <;> rfl

theorem observed_snapshot {repository : InMemoryReferenceRepository S} {state : S}
    (hstate : repository.state = some state) :
    observed dump repository .snapshot = (dump state).map Returned.snapshot := by
  obtain ⟨_, mutations, destroyed⟩ := repository
  obtain rfl := hstate
  change outcome
    ((do return Returned.snapshot (← ofExcept (dump state)) :
      EStateM PyError (InMemoryReferenceRepository S) (Returned V)).run _) = _
  cases dump state <;> rfl

end Steps

theorem afterOperations_concat (dump : S → Raises V) (operations : List (RepositoryOperation S))
    (operation : RepositoryOperation S) :
    afterOperations dump (operations ++ [operation]) =
      performed dump (afterOperations dump operations) operation := by
  simp [afterOperations]

theorem sinceDestroy_concat (operations : List (RepositoryOperation S))
    (operation : RepositoryOperation S) :
    sinceDestroy (operations ++ [operation]) = match operation with
      | .destroy => []
      | _ => sinceDestroy operations ++ [operation] := by
  simp only [sinceDestroy, List.foldl_append, List.foldl_cons, List.foldl_nil]

/-- The state of a repository is the last one that was stored. -/
theorem afterOperations_state (dump : S → Raises V) (operations : List (RepositoryOperation S)) :
    (afterOperations dump operations).state = lastState operations := by
  induction operations using List.reverseRecOn with
  | nil => rfl
  | append_singleton operations operation ih =>
    rw [afterOperations_concat, lastState, sinceDestroy_concat]
    cases operation with
    | reset =>
      rw [performed_reset]
      cases hstate : (afterOperations dump operations).state with
      | none => simpa [RepositoryOperation.stored, lastState, hstate] using ih
      | some state => simpa [RepositoryOperation.stored, lastState, hstate] using ih
    | _ => simp [RepositoryOperation.stored, ih, lastState]

/-- The mutations of a repository without a state are those since its last destruction. -/
theorem afterOperations_mutations (dump : S → Raises V)
    {operations : List (RepositoryOperation S)} (hstate : lastState operations = none) :
    (afterOperations dump operations).mutations = recordings operations := by
  induction operations using List.reverseRecOn with
  | nil => rfl
  | append_singleton operations operation ih =>
    rw [lastState, sinceDestroy_concat] at hstate
    rw [afterOperations_concat, recordings, sinceDestroy_concat]
    cases operation with
    | seed state => simp [RepositoryOperation.stored] at hstate
    | replace state => simp [RepositoryOperation.stored] at hstate
    | destroy => rfl
    | reset =>
      have hnone : lastState operations = none := by
        simpa [RepositoryOperation.stored, lastState] using hstate
      rw [performed_reset, afterOperations_state, hnone]
      have hrecorded : (RepositoryOperation.reset : RepositoryOperation S).recorded = none := rfl
      simpa [hrecorded, recordings] using ih hnone
    | _ =>
      have hnone : lastState operations = none := by
        simpa [RepositoryOperation.stored, lastState] using hstate
      simp [RepositoryOperation.recorded, ih hnone, recordings]

/-- A repository with a seed has a state. -/
theorem exists_lastState {operations : List (RepositoryOperation S)} {state : S}
    (hseed : lastSeed operations = some state) :
    ∃ current, lastState operations = some current := by
  have hmem : ∃ operation ∈ sinceDestroy operations, operation.seeded = some state :=
    List.mem_filterMap.mp (List.mem_of_getLast? hseed)
  obtain ⟨operation, hoperation, hseeded⟩ := hmem
  have hstored : operation.stored = some state := by
    cases operation <;> simp_all [RepositoryOperation.seeded, RepositoryOperation.stored]
  have hne := List.ne_nil_of_mem (List.mem_filterMap.mpr ⟨operation, hoperation, hstored⟩)
  exact ⟨_, List.getLast?_eq_some_getLast hne⟩

/-! ## Destruction -/

/-- Two repositories that differ in `_destroyed` only: no method reads it. -/
def SameContents (left right : InMemoryReferenceRepository S) : Prop :=
  left.state = right.state ∧ left.mutations = right.mutations

theorem SameContents.step (dump : S → Raises V) {left right : InMemoryReferenceRepository S}
    (hsame : SameContents left right) (operation : RepositoryOperation S) :
    observed dump left operation = observed dump right operation ∧
      SameContents (performed dump left operation) (performed dump right operation) := by
  obtain ⟨state, mutations, destroyed⟩ := left
  obtain ⟨state', mutations', destroyed'⟩ := right
  obtain ⟨rfl, rfl⟩ := hsame
  cases operation with
  | snapshot =>
    cases state with
    | none => exact ⟨rfl, rfl, rfl⟩
    | some state =>
      rw [performed_snapshot, performed_snapshot, observed_snapshot dump rfl,
        observed_snapshot dump rfl]
      exact ⟨rfl, rfl, rfl⟩
  | reset => cases state <;> exact ⟨rfl, rfl, rfl⟩
  | _ => exact ⟨rfl, rfl, rfl⟩

/-- The same contents show the same in every later run. -/
theorem SameContents.outputs_eq (dump : S → Raises V) {left right : InMemoryReferenceRepository S}
    (hsame : SameContents left right) (operations : List (RepositoryOperation S)) :
    outputs dump left operations = outputs dump right operations := by
  induction operations generalizing left right with
  | nil => rfl
  | cons operation operations ih =>
    obtain ⟨hobserved, hnext⟩ := hsame.step dump operation
    rw [outputs, outputs, hobserved, ih hnext]

/-- **A destroyed repository shows nothing of what came before.** -/
theorem outputs_destroyed (dump : S → Raises V) (before later : List (RepositoryOperation S)) :
    outputs dump (afterOperations dump (before ++ [.destroy])) later = outputs dump {} later := by
  rw [afterOperations_concat, performed_destroy]
  have hsame : SameContents (⟨none, [], true⟩ : InMemoryReferenceRepository S) {} := ⟨rfl, rfl⟩
  exact hsame.outputs_eq dump later

theorem discards (dump : S → Raises V) (operations : List (RepositoryOperation S)) :
    Discards dump operations := by
  intro before later _
  refine ⟨?_, ?_, outputs_destroyed dump before later⟩
  · rw [afterOperations_concat, performed_destroy]
    rfl
  · rw [afterOperations_concat, performed_destroy]
    rfl

/-! ## Resets -/

/-- A reset keeps the state and empties the trail of a repository with a state. -/
theorem afterOperations_reset (dump : S → Raises V) {before : List (RepositoryOperation S)}
    {current : S} (hcurrent : lastState before = some current) :
    afterOperations dump (before ++ [.reset]) = ⟨some current, [], false⟩ := by
  rw [afterOperations_concat, performed_reset, afterOperations_state, hcurrent]

theorem afterOperations_reset_of_none (dump : S → Raises V)
    {before : List (RepositoryOperation S)} (hnone : lastState before = none) :
    afterOperations dump (before ++ [.reset]) = afterOperations dump before := by
  rw [afterOperations_concat, performed_reset, afterOperations_state, hnone]

theorem map_snapshot_injective {left right : Raises V} :
    left.map Returned.snapshot = right.map Returned.snapshot ↔ left = right := by
  cases left <;> cases right <;> simp [Except.map]

/-- **The lifecycle of a disposable repository** holds exactly when every reset finds the seed in
place. -/
theorem disposable_iff (dump : S → Raises V) (operations : List (RepositoryOperation S)) :
    Disposable dump operations ↔
      ∀ before later, operations = before ++ .reset :: later → InPlace dump before := by
  rw [Disposable, and_iff_left (discards dump operations)]
  refine forall_congr' fun before => forall_congr' fun later => imp_congr_right fun _ => ?_
  have hseed (state : S) : observed dump (afterOperations dump [.seed state]) .snapshot =
      (dump state).map Returned.snapshot := observed_snapshot dump rfl
  cases hcurrent : lastState before with
  | none =>
    rw [afterOperations_reset_of_none dump hcurrent, afterOperations_mutations dump hcurrent,
      InPlace, hcurrent]
    have hnone : lastSeed before = none := by
      by_contra hsome
      obtain ⟨state, hstate⟩ := Option.ne_none_iff_exists'.mp hsome
      obtain ⟨current, hsome⟩ := exists_lastState hstate
      rw [hcurrent] at hsome
      cases hsome
    simp [hnone]
  | some current =>
    rw [afterOperations_reset dump hcurrent, InPlace, hcurrent]
    have hsnapshot : observed dump ⟨some current, [], false⟩ .snapshot =
        (dump current).map Returned.snapshot := observed_snapshot dump rfl
    simp only [hseed, hsnapshot, map_snapshot_injective]
    simp

/-- A reset after a replacement does not restore the seed. -/
theorem not_disposable_replaced :
    ¬ Disposable (fun state : ℕ => (.ok state : Raises ℕ)) [.seed 0, .replace 1, .reset] := by
  intro h
  have hrestored := (h.1 [.seed 0, .replace 1] [] rfl).1 0 rfl
  have hsnapshot : observed (fun state : ℕ => (.ok state : Raises ℕ))
      (afterOperations (fun state : ℕ => (.ok state : Raises ℕ)) [.seed 0, .replace 1, .reset])
      .snapshot = .ok (.snapshot 1) := rfl
  have hseed : observed (fun state : ℕ => (.ok state : Raises ℕ))
      (afterOperations (fun state : ℕ => (.ok state : Raises ℕ)) [.seed 0])
      .snapshot = .ok (.snapshot 0) := rfl
  rw [List.cons_append, List.cons_append, List.nil_append, hsnapshot, hseed] at hrestored
  cases hrestored

end ObservabilityLab.Reference
