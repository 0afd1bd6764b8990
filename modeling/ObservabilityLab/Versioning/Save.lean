import ObservabilityLab.Library.Interleaving
import ObservabilityLab.Library.VersionedTable
import ObservabilityLab.Regression.Schemas

/-!
# Saving versions

The save operation that the case library and the suite library share: read the newest version,
insert the next one, and read again when the insertion violated a constraint. Any number of saves
interleave on one table, each operation of the repository being one step.

## Main definitions

* `SaveRequest`: what one accepted call submits
* `SaveStage`, `SaveRequest.step`: where a save stands, and its next operation on the table
* `saves`: the table and the stages after a schedule, from an empty table
* `RereadsOwn`: whenever a save reads again, it finds its own content

## Main results

* `rows_of_saves`: every stored row is a version of some accepted request
* `row_of_returned`: a save that returned names a stored row, with the hash that it returned
* `contiguous_saves`: the stored versions of every identity have no gap
* `idle_of_not_returned`: a save that did not return has changed nothing
* `hash_of_returned`: the hash that a save returned is that of its own content exactly when
  `RereadsOwn` holds
-/

namespace ObservabilityLab

open Python VersionedTable Interleaving

variable {Row : Type} [Versioned Row Uuid HexDigest]

variable (Row) in
/-- What one accepted call submits: its identity, the hash of its content, and the row that would
store it as one version. -/
structure SaveRequest where
  id : Uuid
  contentHash : HexDigest
  row : ℕ → Row
  notFound : PyError
  key_row : ∀ v, key (row v) = id
  version_row : ∀ v, version (row v) = v
  hash_row : ∀ v, hash (row v) = contentHash

/-- What a save returns, besides its identity. -/
structure Saved where
  status : SaveStatus
  version : ℕ
  hash : HexDigest
deriving DecidableEq

variable (Row) in
/-- Where a save stands. -/
inductive SaveStage where
  /-- Before the newest version is read. -/
  | reading
  /-- Before the version after `latest` is inserted. -/
  | inserting (latest : Option Row)
  /-- After the insertion failed, before the newest version is read again. -/
  | rereading
  | returned (saved : Saved)
  | raised (error : PyError)

/-- What a stage returns, if anything. -/
def SaveStage.saved {Row : Type} : SaveStage Row → Option Saved
  | .returned saved => some saved
  | _ => none

omit [Versioned Row Uuid HexDigest] in
theorem SaveStage.saved_eq_some {stage : SaveStage Row} {saved : Saved} :
    stage.saved = some saved ↔ stage = .returned saved := by
  cases stage <;> simp [SaveStage.saved]

/-- `latest.version + 1 if latest is not None else 1` -/
def nextVersion (latest : Option Row) : ℕ := latest.elim 1 fun row => version row + 1

theorem nextVersion_pos (latest : Option Row) : 1 ≤ nextVersion latest := by
  cases latest with
  | none => exact le_rfl
  | some row => exact Nat.le_add_left 1 (version row)

/-- The next operation of a save on the table. -/
def SaveRequest.step (request : SaveRequest Row) (table : Table Row) :
    SaveStage Row → Table Row × SaveStage Row
  | .reading =>
    match table.latest request.id with
    | some latest =>
      if hash latest = request.contentHash then
        (table, .returned ⟨.unchanged, version latest, hash latest⟩)
      else (table, .inserting (some latest))
    | none => (table, .inserting none)
  | .inserting latest =>
    match table.insert (request.row (nextVersion latest)) with
    | some stored =>
      (stored, .returned ⟨if latest.isSome then .updated else .created, nextVersion latest,
        request.contentHash⟩)
    | none => (table, .rereading)
  | .rereading =>
    match table.latest request.id with
    | some latest =>
      (table, .returned ⟨if hash latest = request.contentHash then .unchanged else .updated,
        version latest, hash latest⟩)
    | none => (table, .raised request.notFound)
  | .returned saved => (table, .returned saved)
  | .raised error => (table, .raised error)

/-- The next step of a call, which raises before any operation or submits a request. -/
def saveStep (call : Raises (SaveRequest Row)) (table : Table Row) (stage : SaveStage Row) :
    Table Row × SaveStage Row :=
  match call with
  | .ok request => request.step table stage
  | .error error => (table, .raised error)

/-! ## One step -/

section Step

variable {request : SaveRequest Row} {table : Table Row} {stage : SaveStage Row} {row : Row}
  {saved : Saved}

/-- **What a step writes**: nothing, or one version of its request, and then it returns. -/
theorem SaveRequest.step_table (request : SaveRequest Row) (table : Table Row)
    (stage : SaveStage Row) :
    (request.step table stage).1 = table ∨
      ∃ latest saved, stage = .inserting latest ∧
        table.insert (request.row (nextVersion latest)) = some (request.step table stage).1 ∧
        (request.step table stage).2 = .returned saved := by
  unfold SaveRequest.step
  split
  · split
    · split_ifs <;> exact Or.inl rfl
    · exact Or.inl rfl
  · rename_i latest
    split
    · rename_i stored hinsert
      exact Or.inr ⟨latest, _, rfl, hinsert, rfl⟩
    · exact Or.inl rfl
  · split <;> exact Or.inl rfl
  · exact Or.inl rfl
  · exact Or.inl rfl

/-- A step keeps the stored rows. -/
theorem SaveRequest.rows_suffix_step (request : SaveRequest Row) (table : Table Row)
    (stage : SaveStage Row) : table.rows <:+ (request.step table stage).1.rows := by
  rcases request.step_table table stage with heq | ⟨latest, saved, -, hinsert, -⟩
  · rw [heq]
  · exact Table.rows_suffix_of_insert hinsert

theorem SaveRequest.mem_step_of_mem (h : row ∈ table) : row ∈ (request.step table stage).1 :=
  (request.rows_suffix_step table stage).subset h

/-- A row that a step stores is a version of its request. -/
theorem SaveRequest.mem_step (h : row ∈ (request.step table stage).1) :
    row ∈ table ∨ ∃ v, 1 ≤ v ∧ row = request.row v := by
  rcases request.step_table table stage with heq | ⟨latest, saved, -, hinsert, -⟩
  · rw [heq] at h
    exact Or.inl h
  · rcases (Table.mem_insert hinsert).mp h with rfl | hmem
    · exact Or.inr ⟨nextVersion latest, nextVersion_pos latest, rfl⟩
    · exact Or.inl hmem

/-- A step before an insertion reads the newest version. -/
theorem SaveRequest.step_inserting {latest : Option Row}
    (h : (request.step table stage).2 = .inserting latest) :
    (request.step table stage).1 = table ∧ table.latest request.id = latest := by
  unfold SaveRequest.step at h ⊢
  split at h
  · split at h
    · rename_i hlatest
      split_ifs at h with hhash
      cases h
      rw [hlatest]
      exact ⟨by rw [if_neg hhash], rfl⟩
    · rename_i hlatest
      cases h
      rw [hlatest]
      exact ⟨rfl, rfl⟩
  · split at h <;> cases h
  · split at h <;> cases h
  · cases h
  · cases h

/-- **What a step returns**: the version and the hash of a stored row of its identity. -/
theorem SaveRequest.step_returned (h : (request.step table stage).2 = .returned saved) :
    stage = .returned saved ∨
      ∃ row ∈ (request.step table stage).1, key row = request.id ∧ version row = saved.version ∧
        hash row = saved.hash := by
  cases stage with
  | reading =>
    right
    cases hlatest : table.latest request.id with
    | none => simp [SaveRequest.step, hlatest] at h
    | some latest =>
      obtain ⟨hmem, hkey⟩ := Table.mem_latest hlatest
      by_cases hhash : hash latest = request.contentHash
      · simp only [SaveRequest.step, hlatest, hhash, if_true, SaveStage.returned.injEq] at h
        subst h
        exact ⟨latest, SaveRequest.mem_step_of_mem hmem, hkey, rfl, hhash⟩
      · simp [SaveRequest.step, hlatest, hhash] at h
  | inserting latest =>
    right
    cases hinsert : table.insert (request.row (nextVersion latest)) with
    | none => simp [SaveRequest.step, hinsert] at h
    | some stored =>
      have hstep : (request.step table (.inserting latest)).1 = stored := by
        simp only [SaveRequest.step, hinsert]
      simp only [SaveRequest.step, hinsert, SaveStage.returned.injEq] at h
      subst h
      refine ⟨request.row (nextVersion latest), ?_, request.key_row _, request.version_row _,
        request.hash_row _⟩
      rw [hstep, Table.mem_insert hinsert]
      exact Or.inl rfl
  | rereading =>
    right
    cases hlatest : table.latest request.id with
    | none => simp [SaveRequest.step, hlatest] at h
    | some latest =>
      obtain ⟨hmem, hkey⟩ := Table.mem_latest hlatest
      simp only [SaveRequest.step, hlatest, SaveStage.returned.injEq] at h
      subst h
      exact ⟨latest, SaveRequest.mem_step_of_mem hmem, hkey, rfl, rfl⟩
  | returned saved' => exact Or.inl h
  | raised error => cases h

/-- What a stage says about the reads after a failed insertion: a running save has not read again,
and a save returned its own hash exactly when it found its own content there. -/
def HashAsReread (request : SaveRequest Row) (rereadsOwn : Prop) : SaveStage Row → Prop
  | .returned saved => saved.hash = request.contentHash ↔ rereadsOwn
  | .raised _ => True
  | _ => rereadsOwn

/-- **One step of a save, and what it read again.** -/
theorem SaveRequest.step_hashAsReread {rereadsOwn : Prop}
    (h : HashAsReread request rereadsOwn stage) :
    HashAsReread request (rereadsOwn ∧ (stage = .rereading →
        ∀ latest ∈ table.latest request.id, hash latest = request.contentHash))
      (request.step table stage).2 := by
  cases stage with
  | reading =>
    simp only [SaveRequest.step]
    split
    · split_ifs with hhash
      · exact iff_of_true hhash ⟨h, nofun⟩
      · exact ⟨h, nofun⟩
    · exact ⟨h, nofun⟩
  | inserting latest =>
    simp only [SaveRequest.step]
    split
    · exact iff_of_true rfl ⟨h, nofun⟩
    · exact ⟨h, nofun⟩
  | rereading =>
    have hreads : rereadsOwn := h
    cases hlatest : table.latest request.id with
    | none =>
      simp only [SaveRequest.step, hlatest]
      trivial
    | some latest =>
      simp only [SaveRequest.step, hlatest, HashAsReread, hreads, true_and, true_imp_iff,
        Option.mem_some_iff, forall_eq']
  | returned saved =>
    change saved.hash = request.contentHash ↔ rereadsOwn ∧ _
    rw [and_iff_left nofun]
    exact h
  | raised error => trivial

end Step

/-! ## Runs -/

variable {Id : Type} [DecidableEq Id]

/-- The table and the stages of the calls after a schedule, from an empty table. -/
def saves (calls : Id → Raises (SaveRequest Row)) (schedule : List Id) :
    Pool Id (Table Row) (SaveStage Row) :=
  Pool.run (fun i => saveStep (calls i)) ⟨.empty, fun _ => .reading⟩ schedule

/-- Whenever a call reads the table again, the newest version of its identity has the hash that it
submitted. -/
def RereadsOwn (calls : Id → Raises (SaveRequest Row)) (schedule : List Id) (i : Id)
    (request : SaveRequest Row) : Prop :=
  Pool.Before (fun i => saveStep (calls i)) ⟨.empty, fun _ => .reading⟩ schedule i fun p =>
    p.locals i = .rereading → ∀ latest ∈ p.shared.latest request.id,
      hash latest = request.contentHash

section Runs

variable {calls : Id → Raises (SaveRequest Row)} {schedule : List Id} {i j : Id} {row : Row}
  {request : SaveRequest Row} {saved : Saved}

/-- Every row is a version of some accepted request. -/
def RowsSubmitted (calls : Id → Raises (SaveRequest Row)) (table : Table Row) : Prop :=
  ∀ row ∈ table, ∃ j request v, calls j = .ok request ∧ 1 ≤ v ∧ row = request.row v

/-- A call that returned was accepted, and names a stored row. -/
def NamesRow (call : Raises (SaveRequest Row)) (table : Table Row) (stage : SaveStage Row) :
    Prop :=
  ∀ saved, stage = .returned saved → ∃ request, call = .ok request ∧
    ∃ row ∈ table, key row = request.id ∧ version row = saved.version ∧ hash row = saved.hash

omit [DecidableEq Id] in
theorem RowsSubmitted.saveStep {table : Table Row} (h : RowsSubmitted calls table)
    (stage : SaveStage Row) : RowsSubmitted calls (saveStep (calls i) table stage).1 := by
  intro row hrow
  cases hcall : calls i with
  | error error =>
    rw [hcall] at hrow
    exact h row hrow
  | ok request =>
    rw [hcall] at hrow
    rcases SaveRequest.mem_step hrow with hmem | ⟨v, hv, hrow⟩
    · exact h row hmem
    · exact ⟨i, request, v, hcall, hv, hrow⟩

omit [DecidableEq Id] in
/-- A step keeps what a call that returned names. -/
theorem NamesRow.saveStep_other {call : Raises (SaveRequest Row)} {table : Table Row}
    {stage : SaveStage Row} (h : NamesRow call table stage) (other : Raises (SaveRequest Row))
    (stage' : SaveStage Row) : NamesRow call (saveStep other table stage').1 stage := by
  intro saved hreturned
  obtain ⟨request, hcall, row, hrow, hnames⟩ := h saved hreturned
  refine ⟨request, hcall, row, ?_, hnames⟩
  cases other with
  | error error => exact hrow
  | ok request' => exact SaveRequest.mem_step_of_mem hrow

omit [DecidableEq Id] in
theorem NamesRow.saveStep {call : Raises (SaveRequest Row)} {table : Table Row}
    {stage : SaveStage Row} (h : NamesRow call table stage) :
    NamesRow call (saveStep call table stage).1 (saveStep call table stage).2 := by
  intro saved hreturned
  cases call with
  | error error => cases hreturned
  | ok request =>
    rcases SaveRequest.step_returned hreturned with hstage | hrow
    · exact h.saveStep_other (.ok request) stage saved hstage
    · exact ⟨request, rfl, hrow⟩

theorem saves_invariant (calls : Id → Raises (SaveRequest Row)) (schedule : List Id) :
    RowsSubmitted calls (saves calls schedule).shared ∧
      ∀ i, NamesRow (calls i) (saves calls schedule).shared ((saves calls schedule).locals i) := by
  refine Pool.run_localInvariant (RowsSubmitted calls) (fun i => NamesRow (calls i)) ⟨?_, ?_⟩
    ?_ ?_ ?_
  · exact fun row hrow => absurd hrow (Table.not_mem_empty row)
  · exact fun i saved hreturned => nomatch hreturned
  · exact fun i table stage hrows _ => hrows.saveStep stage
  · exact fun i table stage _ hnames => hnames.saveStep
  · exact fun i j table stage stage' _ hnames => hnames.saveStep_other (calls j) stage'

/-- **Every stored row is a version of some accepted request.** -/
theorem rows_of_saves (h : row ∈ (saves calls schedule).shared) :
    ∃ j request v, calls j = .ok request ∧ 1 ≤ v ∧ row = request.row v :=
  (saves_invariant calls schedule).1 row h

/-- **A save that returned names a stored row**, with the hash that it returned. -/
theorem row_of_returned (h : (saves calls schedule).locals i = .returned saved) :
    ∃ request, calls i = .ok request ∧ ∃ row ∈ (saves calls schedule).shared,
      key row = request.id ∧ version row = saved.version ∧ hash row = saved.hash :=
  (saves_invariant calls schedule).2 i saved h

/-! ## The history of the table -/

omit [DecidableEq Id] in
theorem rows_suffix_saveStep (call : Raises (SaveRequest Row)) (table : Table Row)
    (stage : SaveStage Row) : table.rows <:+ (saveStep call table stage).1.rows := by
  cases call with
  | error error => exact List.suffix_rfl
  | ok request => exact request.rows_suffix_step table stage

/-- **No stored row is changed or removed**: later steps only put rows before it. -/
theorem rows_suffix_saves (calls : Id → Raises (SaveRequest Row)) (earlier later : List Id) :
    (saves calls earlier).shared.rows <:+ (saves calls (earlier ++ later)).shared.rows := by
  induction later using List.reverseRecOn with
  | nil =>
    rw [List.append_nil]
  | append_singleton later i ih =>
    rw [← List.append_assoc, saves, saves, Pool.run_concat]
    exact ih.trans (rows_suffix_saveStep (calls i) _ _)

/-- A call that is about to insert has a next version of its identity. -/
def InsertsNext (call : Raises (SaveRequest Row)) (table : Table Row) (stage : SaveStage Row) :
    Prop :=
  ∀ request latest, call = .ok request → stage = .inserting latest →
    table.MayFollow request.id (nextVersion latest)

omit [DecidableEq Id] in
theorem InsertsNext.saveStep (call : Raises (SaveRequest Row)) (table : Table Row)
    (stage : SaveStage Row) :
    InsertsNext call (saveStep call table stage).1 (saveStep call table stage).2 := by
  rintro request latest rfl hstage
  obtain ⟨htable, rfl⟩ := SaveRequest.step_inserting hstage
  change (request.step table stage).1.MayFollow _ _
  rw [htable]
  cases hlatest : table.latest request.id with
  | none => exact Or.inl rfl
  | some row =>
    obtain ⟨hmem, hkey⟩ := Table.mem_latest hlatest
    exact Or.inr ⟨row, hmem, hkey, rfl⟩

omit [DecidableEq Id] in
/-- A step leaves no gap. -/
theorem contiguous_saveStep {call : Raises (SaveRequest Row)} {table : Table Row}
    {stage : SaveStage Row} (h : table.Contiguous) (hnext : InsertsNext call table stage) :
    (saveStep call table stage).1.Contiguous := by
  cases call with
  | error error => exact h
  | ok request =>
    change (request.step table stage).1.Contiguous
    rcases request.step_table table stage with heq | ⟨latest, saved, hstage, hinsert, -⟩
    · rw [heq]
      exact h
    · refine h.insert ?_ hinsert
      rw [request.key_row, request.version_row]
      exact hnext request latest rfl hstage

/-- **The stored versions of every identity have no gap.** -/
theorem contiguous_saves (calls : Id → Raises (SaveRequest Row)) (schedule : List Id) :
    (saves calls schedule).shared.Contiguous := by
  refine (Pool.run_localInvariant Table.Contiguous (fun i => InsertsNext (calls i))
    ⟨Table.contiguous_empty, ?_⟩ ?_ ?_ ?_).1
  · intro i request latest _ hstage
    cases hstage
  · intro i table stage h hnext
    exact contiguous_saveStep h hnext
  · intro i table stage _ _
    exact InsertsNext.saveStep (calls i) table stage
  · intro i j table stage stage' _ hnext request latest hcall hstage
    refine (hnext request latest hcall hstage).mono fun row hrow => ?_
    exact (rows_suffix_saveStep (calls j) table stage').subset hrow

omit [DecidableEq Id] in
/-- A step that changes the table returns. -/
theorem saveStep_returned {call : Raises (SaveRequest Row)} {table : Table Row}
    {stage : SaveStage Row} (h : (saveStep call table stage).1 ≠ table) :
    ∃ saved, (saveStep call table stage).2 = .returned saved := by
  cases call with
  | error error => exact absurd rfl h
  | ok request =>
    rcases request.step_table table stage with heq | ⟨latest, saved, -, -, hreturned⟩
    · exact absurd heq h
    · exact ⟨saved, hreturned⟩

/-- **A save that did not return has changed nothing.** -/
theorem idle_of_not_returned
    (h : ∀ saved, (saves calls schedule).locals i ≠ .returned saved) :
    Pool.Idle (fun i => saveStep (calls i)) ⟨.empty, fun _ => .reading⟩ schedule i := by
  induction schedule using List.reverseRecOn with
  | nil => exact Pool.before_nil
  | append_singleton schedule j ih =>
    rw [saves, Pool.run_concat, ← saves] at h
    by_cases hij : i = j
    · subst hij
      rw [Pool.locals_step_self] at h
      refine Pool.before_concat_self.mpr ⟨ih fun saved hsaved => ?_, ?_⟩
      · rw [hsaved] at h
        cases hcall : calls i with
        | error error =>
          obtain ⟨request, hok, -⟩ := row_of_returned hsaved
          rw [hcall] at hok
          cases hok
        | ok request =>
          rw [hcall] at h
          exact h saved rfl
      · by_contra hchanged
        obtain ⟨saved, hsaved⟩ := saveStep_returned hchanged
        exact h saved hsaved
    · rw [Pool.locals_step_of_ne hij] at h
      exact (Pool.before_concat_of_ne hij).mpr (ih h)

/-! ## The returned hash -/

/-- What holds of an accepted call after every schedule. -/
theorem hashAsReread_saves (hcall : calls i = .ok request) (schedule : List Id) :
    HashAsReread request (RereadsOwn calls schedule i request)
      ((saves calls schedule).locals i) := by
  induction schedule using List.reverseRecOn with
  | nil => exact (Pool.before_nil : RereadsOwn calls [] i request)
  | append_singleton schedule j ih =>
    rw [saves, Pool.run_concat, ← saves]
    by_cases hij : i = j
    · subst hij
      rw [Pool.locals_step_self, hcall, RereadsOwn, propext Pool.before_concat_self]
      exact SaveRequest.step_hashAsReread ih
    · rw [Pool.locals_step_of_ne hij, RereadsOwn, propext (Pool.before_concat_of_ne hij)]
      exact ih

variable (calls) in
/-- **A save returned the hash of its own content** exactly when it found that content each time it
read the table again. -/
theorem hash_of_returned (hcall : calls i = .ok request)
    (h : (saves calls schedule).locals i = .returned saved) :
    saved.hash = request.contentHash ↔ RereadsOwn calls schedule i request := by
  have hstage := hashAsReread_saves hcall schedule
  rw [h] at hstage
  exact hstage

end Runs

end ObservabilityLab
