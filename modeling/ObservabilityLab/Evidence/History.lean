import ObservabilityLab.Evidence.Import

/-!
# The import history of a trace

What any number of imports leave behind, and what they return, for every interleaving of their
operations.

## Main definitions

* `ImportHistory`: what holds after a schedule

## Main results

* `importHistory_imports`: it holds after every schedule, with or without the lock
-/

namespace ObservabilityLab

open Python VersionedTable Interleaving

section History

variable [HashFunctions] [UnicodeTables] {Id : Type} [DecidableEq Id]

/-- What an import returned tells of the row that it names: its version, and who inserted it. -/
def ImportResult.Tells (result : ImportResult) (locks : Bool) (documents : Id → TraceDocument)
    (schedule : List Id) (i : Id) (row : TraceImport) : Prop :=
  match result.status with
  | .created => row.importVersion = 1 ∧ InsertedBy locks documents schedule i row
  | .updated => 1 < row.importVersion ∧ InsertedBy locks documents schedule i row
  | .unchanged => ∃ j, j ≠ i ∧ InsertedBy locks documents schedule j row

/-- **What holds of the imports** after a schedule. -/
structure ImportHistory (locks : Bool) (documents : Id → TraceDocument) (schedule : List Id) :
    Prop where
  /-- The import versions of each evidence id are exactly those from one to some number. -/
  versions : ∀ evidenceId, ∃ n, ∀ v,
    (∃ row ∈ (imports locks documents schedule).shared.imports, row.evidenceId = evidenceId ∧
      row.importVersion = v) ↔ 1 ≤ v ∧ v ≤ n
  /-- Each content hash, and each version, occurs once for each evidence id. -/
  distinct : ∀ row ∈ (imports locks documents schedule).shared.imports,
    ∀ other ∈ (imports locks documents schedule).shared.imports,
      row.evidenceId = other.evidenceId →
      row.importVersion = other.importVersion ∨ row.contentHash = other.contentHash → row = other
  /-- Stored rows never change. -/
  kept : ∀ earlier later, schedule = earlier ++ later →
    (imports locks documents earlier).shared.imports.rows <:+
      (imports locks documents schedule).shared.imports.rows
  /-- A call that returns names a stored row with the content that was passed, and tells how the row
  came there. -/
  returned : ∀ i result, (imports locks documents schedule).locals i = .returned result →
    ∃ row ∈ (imports locks documents schedule).shared.imports,
      result.Names (documents i) row ∧ result.Tells locks documents schedule i row
  /-- A call that raises has inserted nothing. -/
  raised : ∀ i error row, (imports locks documents schedule).locals i = .raised error →
    ¬ InsertedBy locks documents schedule i row

variable {locks : Bool} {documents : Id → TraceDocument} {schedule : List Id} {i : Id}
  {result : ImportResult} {row : TraceImport}

/-- A row that an import inserted is stored. -/
theorem mem_of_insertedBy (h : InsertedBy locks documents schedule i row) :
    row ∈ (imports locks documents schedule).shared.imports := by
  obtain ⟨earlier, later, rfl, -, hafter⟩ := h
  rw [List.append_cons]
  exact (rows_suffix_imports locks documents (earlier ++ [i]) later).subset hafter

/-- **Every stored row was inserted by an import.** -/
theorem exists_insertedBy (h : row ∈ (imports locks documents schedule).shared.imports) :
    ∃ j, InsertedBy locks documents schedule j row := by
  simp only [insertedBy_iff]
  exact Pool.exists_establishedBy (Table.not_mem_empty row) h

/-- **What a call that returned names and tells.** -/
theorem tells_of_returned
    (h : (imports locks documents schedule).locals i = .returned result) :
    ∃ row ∈ (imports locks documents schedule).shared.imports,
      result.Names (documents i) row ∧ result.Tells locks documents schedule i row := by
  have hknown := (known_imports locks documents schedule).2 i
  rw [h] at hknown
  obtain ⟨⟨row, hrow, hnames⟩, hcreated, hupdated⟩ := hknown
  unfold ImportResult.Tells
  cases hstatus : result.status with
  | created =>
    obtain ⟨own, hown, hinserted⟩ := insertedBy_of_returned h (by rw [hstatus]; decide)
    refine ⟨own, mem_of_insertedBy hinserted, hown, ?_, hinserted⟩
    rw [hown.importVersion]
    exact hcreated hstatus
  | updated =>
    obtain ⟨own, hown, hinserted⟩ := insertedBy_of_returned h (by rw [hstatus]; decide)
    refine ⟨own, mem_of_insertedBy hinserted, hown, ?_, hinserted⟩
    rw [hown.importVersion]
    exact hupdated hstatus
  | unchanged =>
    obtain ⟨j, hj⟩ := exists_insertedBy hrow
    refine ⟨row, hrow, hnames, j, ?_, hj⟩
    rintro rfl
    -- an import that inserted the row would say so
    obtain ⟨other, hother, hne⟩ := returned_of_insertedBy hj
    rw [h] at hother
    exact hne (ImportStage.returned.inj hother ▸ hstatus)

/-- **The import history**, for every interleaving of any imports, with or without the lock. -/
theorem importHistory_imports (locks : Bool) (documents : Id → TraceDocument)
    (schedule : List Id) : ImportHistory locks documents schedule := by
  obtain ⟨hcontiguous, -⟩ := known_imports locks documents schedule
  refine ⟨fun evidenceId => ?_, ?_, ?_, fun i result h => tells_of_returned h, ?_⟩
  · exact ⟨_, fun v => hcontiguous.exists_iff⟩
  · intro row hrow other hother hid hsame
    exact Table.eq_of_conflict hrow hother ⟨hid, hsame⟩
  · rintro earlier later rfl
    exact rows_suffix_imports locks documents earlier later
  · intro i error row hraised hinserted
    obtain ⟨result, hreturned, -⟩ := returned_of_insertedBy hinserted
    cases hraised.symm.trans hreturned

end History

end ObservabilityLab
