import Mathlib.Data.List.Perm.Basic
import Mathlib.Data.List.Pairwise

/-!
# Tables under concurrent transactions

Rows with uniqueness constraints, which transactions insert. The rows of a transaction are pending
until it commits. A transaction sees the committed rows and its own ones; a row that conflicts with
one of these violates a constraint, and a row that conflicts with a pending row of another
transaction has to wait for the end of that transaction.

## Main definitions

* `Constrained`: rows with a conflict relation
* `Table`, `Table.visible`: committed and pending rows, and those that a transaction sees
* `Table.insert`, `Table.commit`, `Table.rollback`, `Table.update`: what a transaction does
* `Table.NoConflict`: no two rows conflict, committed or pending

## Main results

* `Table.NoConflict.insert`, `Table.NoConflict.commit`, `Table.NoConflict.rollback`,
  `Table.NoConflict.update`: the constraints hold over all transactions
* `Table.eq_of_conflict`: committed rows that conflict are the same row
-/

namespace TransactionTable

/-- Rows of which some conflict. -/
class Constrained (Row : Type) where
  Conflict : Row → Row → Prop
  symm : ∀ {r s}, Conflict r s → Conflict s r
  decidable : ∀ r s, Decidable (Conflict r s)

export Constrained (Conflict)

variable {Id Row : Type}

instance [Constrained Row] (r s : Row) : Decidable (Conflict r s) := Constrained.decidable r s

variable (Id Row) in
/-- The committed rows, and the pending ones with their transactions. -/
structure Table where
  committed : List Row
  pending : List (Id × Row)

variable (Id Row) in
/-- What an insertion does. -/
inductive Outcome where
  | inserted (table : Table Id Row)
  | violation
  | blocked

namespace Table

/-- An update of the committed rows. -/
def update (t : Table Id Row) (f : Row → Row) : Table Id Row := ⟨t.committed.map f, t.pending⟩

/-- The table without rows. -/
def empty : Table Id Row := ⟨[], []⟩

/-- All rows, committed or pending. -/
def all (t : Table Id Row) : List Row := t.committed ++ t.pending.map (·.2)

variable [DecidableEq Id]

/-- The pending rows of a transaction. -/
def own (t : Table Id Row) (i : Id) : List Row := (t.pending.filter (·.1 = i)).map (·.2)

/-- The rows that a transaction sees. -/
def visible (t : Table Id Row) (i : Id) : List Row := t.committed ++ t.own i

/-- The rows of a transaction are committed. -/
def commit (t : Table Id Row) (i : Id) : Table Id Row :=
  ⟨t.committed ++ t.own i, t.pending.filter (·.1 ≠ i)⟩

/-- The rows of a transaction are dropped. -/
def rollback (t : Table Id Row) (i : Id) : Table Id Row :=
  ⟨t.committed, t.pending.filter (·.1 ≠ i)⟩

section Insert

variable [Constrained Row]

/-- The insertion of a row by a transaction. -/
def insert (t : Table Id Row) (i : Id) (row : Row) : Outcome Id Row :=
  if ∃ r ∈ t.visible i, Conflict row r then .violation
  else if ∃ entry ∈ t.pending, Conflict row entry.2 then .blocked
  else .inserted ⟨t.committed, t.pending ++ [(i, row)]⟩

/-- **No two rows conflict**, committed or pending. -/
def NoConflict (t : Table Id Row) : Prop := t.all.Pairwise fun r s => ¬ Conflict r s

variable {t t' : Table Id Row} {i j : Id} {row r s : Row}

theorem insert_eq_inserted (h : t.insert i row = .inserted t') :
    (∀ r ∈ t.all, ¬ Conflict row r) ∧ t' = ⟨t.committed, t.pending ++ [(i, row)]⟩ := by
  unfold insert at h
  split_ifs at h with hvisible hpending
  refine ⟨?_, (Outcome.inserted.inj h).symm⟩
  intro r hr hconflict
  rcases List.mem_append.mp hr with hr | hr
  · exact hvisible ⟨r, List.mem_append_left _ hr, hconflict⟩
  · obtain ⟨entry, hentry, rfl⟩ := List.mem_map.mp hr
    exact hpending ⟨entry, hentry, hconflict⟩

theorem committed_insert (h : t.insert i row = .inserted t') : t'.committed = t.committed := by
  rw [(insert_eq_inserted h).2]

theorem own_insert_self (h : t.insert i row = .inserted t') : t'.own i = t.own i ++ [row] := by
  rw [(insert_eq_inserted h).2]
  simp [own]

theorem own_insert_of_ne (h : t.insert i row = .inserted t') (hne : j ≠ i) :
    t'.own j = t.own j := by
  rw [(insert_eq_inserted h).2]
  simp [own, hne.symm]

omit [DecidableEq Id] in
theorem noConflict_empty : (empty : Table Id Row).NoConflict := List.Pairwise.nil

theorem symm_not_conflict : Std.Symm fun r s : Row => ¬ Conflict r s :=
  ⟨fun _ _ h hconflict => h (Constrained.symm hconflict)⟩

/-- **An insertion keeps the constraints.** -/
theorem NoConflict.insert (h : t.NoConflict) (hinsert : t.insert i row = .inserted t') :
    t'.NoConflict := by
  obtain ⟨hnone, rfl⟩ := insert_eq_inserted hinsert
  unfold NoConflict all
  dsimp only
  rw [List.map_append, ← List.append_assoc, List.pairwise_append]
  refine ⟨h, List.pairwise_singleton _ _, ?_⟩
  intro r hr s hs hconflict
  obtain rfl := List.mem_singleton.mp hs
  exact hnone r hr (Constrained.symm hconflict)

/-- **A commit keeps the constraints**: it only reorders the rows. -/
theorem NoConflict.commit (h : t.NoConflict) (i : Id) : (t.commit i).NoConflict := by
  have hsplit : (t.own i ++ (t.pending.filter (·.1 ≠ i)).map (·.2)).Perm (t.pending.map (·.2)) := by
    unfold own
    rw [← List.map_append]
    apply List.Perm.map
    simpa using List.filter_append_perm (fun entry : Id × Row => entry.1 = i) t.pending
  have hperm : (t.commit i).all.Perm t.all := by
    unfold all Table.commit
    rw [List.append_assoc]
    exact hsplit.append_left _
  have hsymm : Std.Symm fun r s : Row => ¬ Conflict r s := symm_not_conflict
  exact (hperm.pairwise_iff (fun h hconflict => h (Constrained.symm hconflict))).mpr h

/-- **A rollback keeps the constraints.** -/
theorem NoConflict.rollback (h : t.NoConflict) (i : Id) : (t.rollback i).NoConflict := by
  apply List.Pairwise.sublist _ h
  exact (List.Sublist.refl _).append (List.filter_sublist.map _)

omit [DecidableEq Id] in
/-- **An update that leaves the constrained columns keeps the constraints.** -/
theorem NoConflict.update (h : t.NoConflict) {f : Row → Row}
    (hf : ∀ r s, Conflict (f r) s ↔ Conflict r s) : (t.update f).NoConflict := by
  have hf' (r s : Row) : Conflict r (f s) ↔ Conflict r s := by
    constructor
    · intro hconflict
      exact Constrained.symm ((hf s r).mp (Constrained.symm hconflict))
    · intro hconflict
      exact Constrained.symm ((hf s r).mpr (Constrained.symm hconflict))
  obtain ⟨hcommitted, hpending, hacross⟩ := List.pairwise_append.mp h
  refine List.pairwise_append.mpr ⟨List.pairwise_map.mpr ?_, hpending, ?_⟩
  · exact hcommitted.imp fun hnot hconflict => hnot ((hf _ _).mp ((hf' _ _).mp hconflict))
  · intro r hr s hs hconflict
    obtain ⟨row, hrow, rfl⟩ := List.mem_map.mp hr
    exact hacross row hrow s hs ((hf _ _).mp hconflict)

omit [DecidableEq Id] in
/-- Committed rows that conflict are the same row. -/
theorem eq_of_conflict (h : t.NoConflict) (hr : r ∈ t.committed) (hs : s ∈ t.committed)
    (hconflict : Conflict r s) : r = s := by
  have hsymm : Std.Symm fun r s : Row => ¬ Conflict r s := symm_not_conflict
  have hcommitted : t.committed.Pairwise fun r s => ¬ Conflict r s :=
    (List.pairwise_append.mp h).1
  by_contra hne
  exact hcommitted.forall hr hs hne hconflict

/-- A committed row conflicts with no pending one. -/
theorem not_conflict_own (h : t.NoConflict) (hr : r ∈ t.committed) (hs : s ∈ t.own i) :
    ¬ Conflict r s := by
  obtain ⟨entry, hentry, rfl⟩ := List.mem_map.mp hs
  exact (List.pairwise_append.mp h).2.2 r hr _ (List.mem_map_of_mem (List.mem_of_mem_filter hentry))

end Insert

variable {t : Table Id Row} {i j : Id} {r : Row}

theorem mem_commit : r ∈ (t.commit i).committed ↔ r ∈ t.committed ∨ r ∈ t.own i := List.mem_append

theorem own_commit_of_ne (h : j ≠ i) : (t.commit i).own j = t.own j := by
  unfold own commit
  rw [List.filter_filter]
  congr 1
  apply List.filter_congr
  intro entry _
  simp only [Bool.and_eq_left_iff_imp, decide_eq_true_eq]
  rintro rfl
  exact h

/-- A transaction that ended has no pending rows. -/
theorem own_commit_self (t : Table Id Row) (i : Id) : (t.commit i).own i = [] := by
  unfold own commit
  rw [List.filter_filter]
  simp

theorem own_rollback_self (t : Table Id Row) (i : Id) : (t.rollback i).own i = [] :=
  own_commit_self t i

theorem own_rollback_of_ne (h : j ≠ i) : (t.rollback i).own j = t.own j := own_commit_of_ne h

end Table

end TransactionTable
