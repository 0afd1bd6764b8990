import ObservabilityLab.Evidence.Document
import ObservabilityLab.Library.Interleaving
import ObservabilityLab.Library.VersionedTable

/-!
# Trace imports

The service that stores traces with import versions. An import takes an advisory lock, looks its
content up, reads the highest version, inserts the next one, and looks its content up again when the
insertion violated a constraint. Any number of imports interleave, each operation on the store being
one step; the lock may or may not take effect.

## Main definitions

* `TraceImport`: one row, versioned by evidence identifier with the hash of its content
* `ImportStage`, `importStep`: where an import stands, and its next operation
* `imports`: the store and the stages after a schedule, from an empty store
* `InsertedBy`: the import whose step inserted a row

## Main results

* `importStep_imports`: what a step writes
* `known_imports`: what every stage of an import knows of the store
* `insertedBy_of_returned`, `returned_of_insertedBy`: which imports insert a row
-/

namespace ObservabilityLab

open Python VersionedTable Interleaving

/-! ## Rows and results -/

/-- `InvalidEvidence(message=message)` -/
def invalidEvidence (message : String) : PyError :=
  .domain "invalid_evidence" message unprocessableEntity

/-- One import of a trace. -/
structure TraceImport where
  evidenceId : Uuid
  importVersion : ℕ
  schemaVersion : String
  sourcePlatform : String
  sourceProject : Option String
  sourceTraceId : String
  sourceUrl : Option String
  scenarioId : Option String
  workflowVersion : Option String
  outcome : String
  reasonCode : String
  contentHash : HexDigest
  evidenceJson : Record

instance : Versioned TraceImport Uuid HexDigest where
  key := TraceImport.evidenceId
  version := TraceImport.importVersion
  hash := TraceImport.contentHash

inductive ImportStatus where
  | created | unchanged | updated
deriving DecidableEq

/-- The result of one import. -/
structure ImportResult where
  status : ImportStatus
  evidenceId : Uuid
  importVersion : ℕ
  contentHash : HexDigest
  sourcePlatform : String
  sourceTraceId : String
deriving DecidableEq

/-- `ImportResult(...)` of a row that another import inserted -/
def TraceImport.unchanged (row : TraceImport) : ImportResult where
  status := .unchanged
  evidenceId := row.evidenceId
  importVersion := row.importVersion
  contentHash := row.contentHash
  sourcePlatform := row.sourcePlatform
  sourceTraceId := row.sourceTraceId

section Service

variable [HashFunctions]

def evidenceNamespace : Uuid :=
  (Uuid.parse "2f1d4e9a-7c3b-4a5e-9d6f-1b2c3d4e5f60").get (by decide +kernel)

/-- The stable evidence id for one source trace. -/
def stableEvidenceId (source : TraceSourceRef) : Uuid :=
  HashFunctions.uuid5 evidenceNamespace
    (source.platform ++ "|" ++ source.project.getD "" ++ "|" ++ source.traceId)

variable [UnicodeTables]

namespace TraceDocument

variable (document : TraceDocument)

def stableId : Uuid := stableEvidenceId document.source

def computedHash : HexDigest := computeContentHash document.evidence

/-- The payload that an import stores, under the stable evidence id. -/
def storedPayload : Record := setItem document.dump "evidence_id" (.str document.stableId.str)

/-- `TraceImport(...)` of one version -/
def traceImport (version : ℕ) : TraceImport where
  evidenceId := document.stableId
  importVersion := version
  schemaVersion := document.schemaVersion
  sourcePlatform := document.source.platform
  sourceProject := document.source.project
  sourceTraceId := document.source.traceId
  sourceUrl := document.source.url
  scenarioId := document.scenarioId
  workflowVersion := document.workflowVersion
  outcome := document.outcome.value
  reasonCode := document.reasonCode
  contentHash := document.computedHash
  evidenceJson := document.storedPayload

/-- `ImportResult(...)` of a row that the import inserted -/
def inserted (version : ℕ) : ImportResult where
  status := if version = 1 then .created else .updated
  evidenceId := document.stableId
  importVersion := version
  contentHash := document.computedHash
  sourcePlatform := document.source.platform
  sourceTraceId := document.source.traceId

end TraceDocument

/-! ## One import -/

/-- The key of an advisory lock: the first eight bytes of an evidence id. -/
def lockKey (evidenceId : Uuid) : List (Fin 16) := evidenceId.digits.toList.take 16

/-- The rows, and the import that holds each lock. -/
structure EvidenceStore (Id : Type) where
  imports : Table TraceImport
  holder : List (Fin 16) → Option Id

/-- Where an import stands. -/
inductive ImportStage where
  | locking
  | finding
  | numbering
  | saving (nextVersion : ℕ)
  | rechecking
  | returned (result : ImportResult)
  | raised (error : PyError)

variable {Id : Type} [DecidableEq Id]

/-- The locks are released when the transaction of an import ends. -/
def EvidenceStore.release (store : EvidenceStore Id) (i : Id) : EvidenceStore Id :=
  { store with holder := fun key => if store.holder key = some i then none else store.holder key }

/-- The next operation of an import; a lock that takes effect waits for its holder. -/
def importStep (locks : Bool) (i : Id) (document : TraceDocument) (store : EvidenceStore Id) :
    ImportStage → EvidenceStore Id × ImportStage
  | .locking =>
    if document.events.isEmpty then (store, .raised (invalidEvidence "evidence has no events"))
    else if locks then
      if (store.holder (lockKey document.stableId)).any (· ≠ i) then (store, .locking)
      else
        ({ store with holder := Function.update store.holder (lockKey document.stableId) (some i) },
          .finding)
    else (store, .finding)
  | .finding =>
    match store.imports.findHash document.stableId document.computedHash with
    | some existing => (store, .returned existing.unchanged)
    | none => (store, .numbering)
  | .numbering => (store, .saving (store.imports.maxVersion document.stableId + 1))
  | .saving nextVersion =>
    match store.imports.insert (document.traceImport nextVersion) with
    | some imports => ({ store with imports := imports }, .returned (document.inserted nextVersion))
    | none => (store, .rechecking)
  | .rechecking =>
    match store.imports.findHash document.stableId document.computedHash with
    | some raced => (store, .returned raced.unchanged)
    | none => (store, .raised (invalidEvidence "trace import version conflicted; retry the import"))
  | .returned result => (store.release i, .returned result)
  | .raised error => (store.release i, .raised error)

/-- The store and the stages of the imports after a schedule, from an empty store. -/
def imports (locks : Bool) (documents : Id → TraceDocument) (schedule : List Id) :
    Pool Id (EvidenceStore Id) ImportStage :=
  Pool.run (fun i => importStep locks i (documents i)) ⟨⟨.empty, fun _ => none⟩, fun _ => .locking⟩
    schedule

/-- A step of import `i` inserted the row. -/
def InsertedBy (locks : Bool) (documents : Id → TraceDocument) (schedule : List Id) (i : Id)
    (row : TraceImport) : Prop :=
  ∃ earlier later, schedule = earlier ++ i :: later ∧
    row ∉ (imports locks documents earlier).shared.imports ∧
    row ∈ (imports locks documents (earlier ++ [i])).shared.imports

/-! ## What a step does -/

section Step

variable {locks : Bool} {i : Id} {document : TraceDocument} {store : EvidenceStore Id}
  {stage : ImportStage} {result : ImportResult}

/-- **What a step writes**: nothing, or the next version of its evidence, and then it returns. -/
theorem importStep_imports (locks : Bool) (i : Id) (document : TraceDocument)
    (store : EvidenceStore Id) (stage : ImportStage) :
    (importStep locks i document store stage).1.imports = store.imports ∨
      ∃ nextVersion, stage = .saving nextVersion ∧
        store.imports.insert (document.traceImport nextVersion) =
          some (importStep locks i document store stage).1.imports ∧
        (importStep locks i document store stage).2 =
          .returned (document.inserted nextVersion) := by
  cases stage with
  | locking =>
    left
    dsimp only [importStep]
    split_ifs <;> rfl
  | finding =>
    left
    dsimp only [importStep]
    split <;> rfl
  | numbering => exact Or.inl rfl
  | saving nextVersion =>
    dsimp only [importStep]
    split
    · rename_i hinsert
      exact Or.inr ⟨nextVersion, rfl, hinsert, rfl⟩
    · exact Or.inl rfl
  | rechecking =>
    left
    dsimp only [importStep]
    split <;> rfl
  | returned result => exact Or.inl rfl
  | raised error => exact Or.inl rfl

/-- A step keeps the stored rows. -/
theorem rows_suffix_importStep (locks : Bool) (i : Id) (document : TraceDocument)
    (store : EvidenceStore Id) (stage : ImportStage) :
    store.imports.rows <:+ (importStep locks i document store stage).1.imports.rows := by
  rcases importStep_imports locks i document store stage with heq | ⟨_, -, hinsert, -⟩
  · rw [heq]
  · exact Table.rows_suffix_of_insert hinsert

/-- **What a step returns**: what it had returned, the row that it found, or the row that it
inserted. -/
theorem importStep_returned
    (h : (importStep locks i document store stage).2 = .returned result) :
    stage = .returned result ∨
      (∃ row ∈ store.imports, row.evidenceId = document.stableId ∧
        row.contentHash = document.computedHash ∧ result = row.unchanged) ∨
      ∃ nextVersion, stage = .saving nextVersion ∧ result = document.inserted nextVersion ∧
        store.imports.insert (document.traceImport nextVersion) =
          some (importStep locks i document store stage).1.imports := by
  cases stage with
  | locking =>
    dsimp only [importStep] at h
    split_ifs at h
  | finding =>
    dsimp only [importStep] at h
    split at h
    · rename_i row hfound
      obtain ⟨hmem, hkey, hhash⟩ := Table.mem_of_findHash hfound
      exact Or.inr (Or.inl ⟨row, hmem, hkey, hhash, (ImportStage.returned.inj h).symm⟩)
    · cases h
  | numbering => cases h
  | saving nextVersion =>
    dsimp only [importStep] at h ⊢
    split at h
    · rename_i hinsert
      exact Or.inr (Or.inr ⟨nextVersion, rfl, (ImportStage.returned.inj h).symm, hinsert⟩)
    · cases h
  | rechecking =>
    dsimp only [importStep] at h
    split at h
    · rename_i row hfound
      obtain ⟨hmem, hkey, hhash⟩ := Table.mem_of_findHash hfound
      exact Or.inr (Or.inl ⟨row, hmem, hkey, hhash, (ImportStage.returned.inj h).symm⟩)
    · cases h
  | returned result' =>
    left
    rw [← ImportStage.returned.inj h]
  | raised error => cases h

/-- A step before an insertion reads the highest version. -/
theorem importStep_saving {nextVersion : ℕ}
    (h : (importStep locks i document store stage).2 = .saving nextVersion) :
    nextVersion = store.imports.maxVersion document.stableId + 1 := by
  cases stage with
  | locking =>
    dsimp only [importStep] at h
    split_ifs at h
  | finding =>
    dsimp only [importStep] at h
    split at h <;> cases h
  | numbering => exact (ImportStage.saving.inj h).symm
  | saving nextVersion =>
    dsimp only [importStep] at h
    split at h <;> cases h
  | rechecking =>
    dsimp only [importStep] at h
    split at h <;> cases h
  | returned result => cases h
  | raised error => cases h

/-- A result that names a row with the content of the evidence that was passed. -/
structure ImportResult.Names (document : TraceDocument) (result : ImportResult)
    (row : TraceImport) : Prop where
  evidenceId : row.evidenceId = result.evidenceId
  importVersion : row.importVersion = result.importVersion
  contentHash : row.contentHash = result.contentHash
  passedId : result.evidenceId = document.stableId
  passedHash : result.contentHash = document.computedHash

/-- **What a stage of an import knows of the store.** -/
def ImportStage.Known (document : TraceDocument) (table : Table TraceImport) : ImportStage → Prop
  | .saving nextVersion => table.MayFollow document.stableId nextVersion
  | .returned result => (∃ row ∈ table, result.Names document row) ∧
    (result.status = .created → result.importVersion = 1) ∧
    (result.status = .updated → 1 < result.importVersion)
  | _ => True

/-- What an import knows stays true when rows are added. -/
theorem ImportStage.Known.mono {table table' : Table TraceImport}
    (h : stage.Known document table) (hkept : table.rows <:+ table'.rows) :
    stage.Known document table' := by
  cases stage with
  | saving nextVersion => exact Table.MayFollow.mono h fun row hrow => hkept.subset hrow
  | returned result =>
    obtain ⟨⟨row, hrow, hnames⟩, hstatus⟩ := h
    exact ⟨⟨row, hkept.subset hrow, hnames⟩, hstatus⟩
  | _ => trivial

/-- A row that was found is named with its content. -/
theorem names_unchanged {row : TraceImport} (hkey : row.evidenceId = document.stableId)
    (hhash : row.contentHash = document.computedHash) : row.unchanged.Names document row :=
  ⟨rfl, rfl, rfl, hkey, hhash⟩

theorem names_inserted (document : TraceDocument) (version : ℕ) :
    (document.inserted version).Names document (document.traceImport version) :=
  ⟨rfl, rfl, rfl, rfl, rfl⟩

/-- The status of an insertion tells its version. -/
theorem status_inserted {nextVersion : ℕ} (hpositive : 1 ≤ nextVersion) :
    ((document.inserted nextVersion).status = .created →
      (document.inserted nextVersion).importVersion = 1) ∧
    ((document.inserted nextVersion).status = .updated →
      1 < (document.inserted nextVersion).importVersion) := by
  unfold TraceDocument.inserted
  dsimp only
  split_ifs with hfirst
  · exact ⟨fun _ => hfirst, fun hupdated => (by cases hupdated)⟩
  · exact ⟨fun hcreated => (by cases hcreated), fun _ => by omega⟩

/-- **A step keeps what its import knows.** -/
theorem known_importStep (h : stage.Known document store.imports) :
    (importStep locks i document store stage).2.Known document
      (importStep locks i document store stage).1.imports := by
  have hsuffix := rows_suffix_importStep locks i document store stage
  cases hnext : (importStep locks i document store stage).2 with
  | saving nextVersion =>
    have hread : (ImportStage.saving nextVersion).Known document store.imports := by
      obtain rfl := importStep_saving hnext
      exact Table.mayFollow_maxVersion ..
    exact hread.mono hsuffix
  | returned result =>
    rcases importStep_returned hnext with rfl | ⟨row, hrow, hkey, hhash, rfl⟩ | hinserted
    · exact h.mono hsuffix
    · refine ⟨⟨row, hsuffix.subset hrow, names_unchanged hkey hhash⟩, ?_, ?_⟩
      · exact fun hcreated => by cases hcreated
      · exact fun hupdated => by cases hupdated
    · obtain ⟨nextVersion, rfl, rfl, hinsert⟩ := hinserted
      refine ⟨⟨document.traceImport nextVersion, ?_, names_inserted ..⟩, ?_⟩
      · exact (Table.mem_insert hinsert).mpr (Or.inl rfl)
      · exact status_inserted (Table.MayFollow.one_le h)
  | _ => trivial

/-- **A step leaves no gap.** -/
theorem contiguous_importStep (hcontiguous : store.imports.Contiguous)
    (h : stage.Known document store.imports) :
    (importStep locks i document store stage).1.imports.Contiguous := by
  rcases importStep_imports locks i document store stage with heq | ⟨_, rfl, hinsert, -⟩
  · rw [heq]
    exact hcontiguous
  · refine hcontiguous.insert ?_ hinsert
    exact h

end Step

/-! ## What a run does -/

section Runs

variable {locks : Bool} {documents : Id → TraceDocument} {schedule : List Id} {i : Id}
  {result : ImportResult} {row : TraceImport}

/-- **What every import knows after a run**: the versions have no gap, and every stage is right. -/
theorem known_imports (locks : Bool) (documents : Id → TraceDocument) (schedule : List Id) :
    (imports locks documents schedule).shared.imports.Contiguous ∧
      ∀ i, ((imports locks documents schedule).locals i).Known (documents i)
        (imports locks documents schedule).shared.imports := by
  refine Pool.run_localInvariant (fun store : EvidenceStore Id => store.imports.Contiguous)
    (fun i store => ImportStage.Known (documents i) store.imports) ⟨?_, fun _ => trivial⟩ ?_ ?_ ?_
  · exact Table.contiguous_empty
  · exact fun i store stage hcontiguous h => contiguous_importStep hcontiguous h
  · exact fun i store stage _ h => known_importStep h
  · exact fun i j store stage stage' _ h => h.mono (rows_suffix_importStep ..)

/-- **No stored row is changed or removed.** -/
theorem rows_suffix_imports (locks : Bool) (documents : Id → TraceDocument)
    (earlier later : List Id) :
    (imports locks documents earlier).shared.imports.rows <:+
      (imports locks documents (earlier ++ later)).shared.imports.rows := by
  induction later using List.reverseRecOn with
  | nil =>
    rw [List.append_nil]
  | append_singleton later i ih =>
    rw [← List.append_assoc, imports, imports, Pool.run_concat]
    exact ih.trans (rows_suffix_importStep ..)

theorem insertedBy_iff : InsertedBy locks documents schedule i row ↔
    Pool.EstablishedBy (fun i => importStep locks i (documents i))
      ⟨⟨.empty, fun _ => none⟩, fun _ => .locking⟩ schedule i
      fun store : EvidenceStore Id => row ∈ store.imports := by
  simp only [InsertedBy, imports, Pool.run_concat]
  rfl

/-- **An import that says so inserted its row.** -/
theorem insertedBy_of_returned
    (h : (imports locks documents schedule).locals i = .returned result)
    (hstatus : result.status ≠ .unchanged) :
    ∃ row, result.Names (documents i) row ∧ InsertedBy locks documents schedule i row := by
  induction schedule using List.reverseRecOn with
  | nil => cases h
  | append_singleton schedule j ih =>
    by_cases hij : i = j
    · subst hij
      rw [imports, Pool.run_concat, Pool.locals_step_self] at h
      rcases importStep_returned h with hstage | ⟨row, -, -, -, rfl⟩ | hinserted
      · obtain ⟨row, hnames, hrow⟩ := ih hstage
        exact ⟨row, hnames, insertedBy_iff.mpr ((insertedBy_iff.mp hrow).concat i)⟩
      · exact absurd rfl hstatus
      · obtain ⟨nextVersion, -, rfl, hinsert⟩ := hinserted
        refine ⟨_, names_inserted .., insertedBy_iff.mpr (Pool.establishedBy_last ?_ ?_)⟩
        · intro hmem
          have hnone := Table.insert_eq_none.mpr ⟨_, hmem, rfl, Or.inl rfl⟩
          rw [hnone] at hinsert
          cases hinsert
        · exact (Table.mem_insert hinsert).mpr (Or.inl rfl)
    · rw [imports, Pool.run_concat, Pool.locals_step_of_ne hij] at h
      obtain ⟨row, hnames, hrow⟩ := ih h
      exact ⟨row, hnames, insertedBy_iff.mpr ((insertedBy_iff.mp hrow).concat j)⟩

/-- An import that returned stays returned. -/
theorem returned_append {later : List Id}
    (h : (imports locks documents schedule).locals i = .returned result) :
    (imports locks documents (schedule ++ later)).locals i = .returned result := by
  induction later using List.reverseRecOn with
  | nil =>
    rw [List.append_nil]
    exact h
  | append_singleton later j ih =>
    rw [← List.append_assoc, imports, Pool.run_concat]
    by_cases hij : i = j
    · subst hij
      rw [Pool.locals_step_self, ← imports, ih]
      rfl
    · rw [Pool.locals_step_of_ne hij]
      exact ih

/-- **An import that inserted a row says so.** -/
theorem returned_of_insertedBy (h : InsertedBy locks documents schedule i row) :
    ∃ result, (imports locks documents schedule).locals i = .returned result ∧
      result.status ≠ .unchanged := by
  obtain ⟨earlier, later, rfl, hbefore, hafter⟩ := h
  rw [imports, Pool.run_concat, ← imports] at hafter
  rcases importStep_imports locks i (documents i) (imports locks documents earlier).shared
    ((imports locks documents earlier).locals i) with hsame | ⟨nextVersion, -, -, hreturned⟩
  · refine absurd ?_ hbefore
    rw [← hsame]
    exact hafter
  · have hreturned : (imports locks documents (earlier ++ [i])).locals i =
        .returned ((documents i).inserted nextVersion) := by
      rw [imports, Pool.run_concat, Pool.locals_step_self]
      exact hreturned
    refine ⟨(documents i).inserted nextVersion, ?_, ?_⟩
    · rw [List.append_cons]
      exact returned_append hreturned
    · unfold TraceDocument.inserted
      dsimp only
      split_ifs <;> decide

end Runs

end Service

end ObservabilityLab
