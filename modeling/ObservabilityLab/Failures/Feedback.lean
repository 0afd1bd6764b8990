import ObservabilityLab.Failures.Schemas
import ObservabilityLab.Library.VersionedTable

/-!
# Feedback annotations

Reviewer feedback as an annotation provider sends it, and its idempotent import. A raw annotation is
parsed and its references are checked against a trace. An import returns the stored revision with
the content of the annotation, if there is one, and otherwise stores the next revision.

## Main definitions

* `FeedbackAnnotation`, `parseLangsmithAnnotation`: annotations, and the parser of raw ones
* `FeedbackStore`: a store with what an import relies on; `inMemoryFeedbackStore` and
  `sqlAlchemyFeedbackStore` are the two of the application
* `importAnnotation`, `importSequence`: one import, and one after the other
-/

namespace ObservabilityLab

open Python VersionedTable

/-! ## Annotations -/

/-- The bounds of the fields of a `FeedbackAnnotation`. -/
def validAnnotation (annotationId sourcePlatform : String) (sourceProject : Option String)
    (traceId : String) (eventId : Option String) (label : String)
    (comment reviewer sourceUrl correctionOf : Option String) : Bool :=
  lengthWithin 1 200 annotationId && lengthWithin 1 50 sourcePlatform &&
    optionWithin 200 sourceProject && lengthWithin 1 200 traceId && optionWithin 200 eventId &&
    lengthWithin 1 100 label && optionWithin 2000 comment && optionWithin 200 reviewer &&
    optionWithin 2000 sourceUrl && optionWithin 200 correctionOf

structure FeedbackAnnotation where
  annotationId : String
  sourcePlatform : String
  sourceProject : Option String
  traceId : String
  eventId : Option String
  label : String
  score : Option PyFloat
  comment : Option String
  reviewer : Option String
  annotatedAt : DateTime
  sourceUrl : Option String
  revision : ℕ := 1
  correctionOf : Option String
  contentHash : HexDigest
  valid : validAnnotation annotationId sourcePlatform sourceProject traceId eventId label comment
    reviewer sourceUrl correctionOf = true
deriving DecidableEq

/-- `annotation.model_copy(update={"revision": revision})` -/
def FeedbackAnnotation.withRevision (note : FeedbackAnnotation) (revision : ℕ) :
    FeedbackAnnotation :=
  { note with revision := revision }

/-- `left or right` -/
def orElse (left right : PyValue) : PyValue := if left.truthy then left else right

def malformedFeedback (message : String) : PyError := .other "MalformedFeedback" message

def unknownFeedbackReference (message : String) : PyError :=
  .other "UnknownFeedbackReference" message

/-- A required text of an annotation. -/
def requiredField (value : PyValue) (message : String) : Raises String :=
  match readText value with
  | some text => if text = "" then .error (malformedFeedback message) else .ok text
  | none => .error (malformedFeedback message)

/-- `float(score) if isinstance(score, (int, float)) and not isinstance(score, bool) else None` -/
def readScore : PyValue → Raises (Option PyFloat)
  | .int n => some <$> floatOfInt n
  | .float x => .ok (some x)
  | _ => .ok none

section Parser

variable [DateTimeTexts]

/-- The time of an annotation, or the start of 1970. -/
def readAnnotatedAt (created : PyValue) : DateTime :=
  match (readText created).bind DateTime.read with
  | some time => time.assumeUtc
  | none => .epoch

variable [HashFunctions]

/-- `parse_langsmith_annotation(raw, platform=platform, project=project)` -/
def parseLangsmithAnnotation (raw : Record) (platform : String) (project : Option String) :
    Raises FeedbackAnnotation := do
  let get := fun key => fieldOf raw key .none
  let annotationId ← requiredField (orElse (get "id") (get "annotation_id"))
    "annotation id is required"
  let traceId ← requiredField (orElse (get "trace_id") (get "run_id"))
    "trace_id or run_id is required"
  let label ← requiredField (orElse (orElse (get "label") (get "value")) (get "key"))
    "annotation label is required"
  let score ← readScore (get "score")
  let annotatedAt := readAnnotatedAt (orElse (get "created_at") (get "annotated_at"))
  let eventId := readText (get "event_id")
  let comment := readText (get "comment")
  let reviewer := readText (orElse (get "user_id") (get "reviewer"))
  let sourceUrl := readText (get "url")
  let correctionOf := readText (get "correction_of")
  let contentHash := HashFunctions.jsonSha256 (.dict
    [("annotation_id", .str annotationId), ("source_platform", .str platform),
      ("source_project", .ofOption project), ("trace_id", .str traceId),
      ("event_id", .ofOption eventId), ("label", .str label),
      ("score", score.elim .none .float), ("comment", .ofOption comment),
      ("reviewer", .ofOption reviewer),
      ("annotated_at", .str (DateTimeTexts.isoformat annotatedAt)),
      ("source_url", .ofOption sourceUrl), ("correction_of", .ofOption correctionOf)])
  if hvalid : validAnnotation annotationId platform project traceId eventId label comment reviewer
      sourceUrl correctionOf = true then
    .ok
      { annotationId, traceId, eventId, label, score, comment, reviewer, annotatedAt, sourceUrl,
        correctionOf, contentHash
        sourcePlatform := platform
        sourceProject := project
        valid := hvalid }
  else .error (.validation "FeedbackAnnotation" "constraints")

end Parser

/-! ## Stores -/

/-- A store of annotations, with what an import relies on. -/
structure FeedbackStore where
  State : Type
  /-- The stored revisions. -/
  rows : State → List FeedbackAnnotation
  findExactAnnotation : State → String → HexDigest → Option FeedbackAnnotation
  latestRevision : State → String → ℕ
  /-- The state with one row more; `none` stands for the result `False`. -/
  saveAnnotation : State → FeedbackAnnotation → Raises (Option State)
  mem_of_find : ∀ {state annotationId contentHash row},
    findExactAnnotation state annotationId contentHash = some row →
      row ∈ rows state ∧ row.annotationId = annotationId ∧ row.contentHash = contentHash
  not_mem_of_find : ∀ {state annotationId contentHash},
    findExactAnnotation state annotationId contentHash = none →
      ∀ row ∈ rows state, row.annotationId = annotationId → row.contentHash ≠ contentHash
  revision_le : ∀ {state row}, row ∈ rows state →
    row.revision ≤ latestRevision state row.annotationId
  latest_cases : ∀ state annotationId, latestRevision state annotationId = 0 ∨
    ∃ row ∈ rows state, row.annotationId = annotationId ∧
      row.revision = latestRevision state annotationId
  mem_save : ∀ {state note state'}, saveAnnotation state note = .ok (some state') →
    ∀ row, row ∈ rows state' ↔ row = note ∨ row ∈ rows state

/-- The highest revision of an annotation in a list, or zero. -/
def highestRevision (rows : List FeedbackAnnotation) (annotationId : String) : ℕ :=
  ((rows.filter (·.annotationId = annotationId)).map (·.revision)).max?.getD 0

theorem mem_revisions {rows : List FeedbackAnnotation} {annotationId : String} {revision : ℕ} :
    revision ∈ (rows.filter (·.annotationId = annotationId)).map (·.revision) ↔
      ∃ row ∈ rows, row.annotationId = annotationId ∧ row.revision = revision := by
  simp [and_assoc]

theorem le_highestRevision {rows : List FeedbackAnnotation} {row : FeedbackAnnotation}
    (h : row ∈ rows) : row.revision ≤ highestRevision rows row.annotationId := by
  have hmem := mem_revisions.mpr ⟨row, h, rfl, rfl⟩
  unfold highestRevision
  cases hmax : ((rows.filter (·.annotationId = row.annotationId)).map (·.revision)).max? with
  | none =>
    rw [List.max?_eq_none_iff.mp hmax] at hmem
    exact absurd hmem List.not_mem_nil
  | some revision => exact (List.max?_eq_some_iff.mp hmax).2 _ hmem

theorem highestRevision_cases (rows : List FeedbackAnnotation) (annotationId : String) :
    highestRevision rows annotationId = 0 ∨
      ∃ row ∈ rows, row.annotationId = annotationId ∧
        row.revision = highestRevision rows annotationId := by
  unfold highestRevision
  cases hmax : ((rows.filter (·.annotationId = annotationId)).map (·.revision)).max? with
  | none => exact Or.inl rfl
  | some revision => exact Or.inr (mem_revisions.mp (List.max?_eq_some_iff.mp hmax).1)

/-- The deterministic fake, which checks the revisions only. -/
def inMemoryFeedbackStore : FeedbackStore where
  State := List FeedbackAnnotation
  rows state := state
  findExactAnnotation state annotationId contentHash :=
    state.find? fun row => row.annotationId = annotationId ∧ row.contentHash = contentHash
  latestRevision := highestRevision
  saveAnnotation state note :=
    if state.any fun row => row.annotationId = note.annotationId ∧
        row.revision = note.revision then .ok none
    else .ok (some (state ++ [note]))
  mem_of_find h := by
    have hfound := List.find?_some h
    rw [decide_eq_true_eq] at hfound
    exact ⟨List.mem_of_find?_eq_some h, hfound⟩
  not_mem_of_find h row hrow hid hhash := by
    have hnone := List.find?_eq_none.mp h row hrow
    simp [hid, hhash] at hnone
  revision_le h := le_highestRevision h
  latest_cases := highestRevision_cases
  mem_save h row := by
    split_ifs at h with hany
    · cases h
    obtain rfl := Option.some.inj (Except.ok.inj h)
    rw [List.mem_append, List.mem_singleton, or_comm]

/-- The rows of an annotation, which have two uniqueness constraints. -/
instance : Versioned FeedbackAnnotation String HexDigest where
  key := FeedbackAnnotation.annotationId
  version := FeedbackAnnotation.revision
  hash := FeedbackAnnotation.contentHash

/-- What the driver raises for a number that JSON has not. -/
def dataError : PyError := .other "DataError" "invalid input syntax for type json"

/-- The table in the database, whose column of JSON takes finite scores only. -/
def sqlAlchemyFeedbackStore : FeedbackStore where
  State := Table FeedbackAnnotation
  rows state := state.rows
  findExactAnnotation state annotationId contentHash := state.findHash annotationId contentHash
  latestRevision state annotationId := state.maxVersion annotationId
  saveAnnotation state note :=
    if note.score.all (·.isFinite) then .ok (state.insert note) else .error dataError
  mem_of_find h := Table.mem_of_findHash h
  not_mem_of_find {state} {annotationId} {contentHash} h row hrow hid hhash := by
    have hfound := Table.findHash_eq_some (t := state) hrow
    change state.findHash row.annotationId row.contentHash = _ at hfound
    rw [hid, hhash, h] at hfound
    cases hfound
  revision_le h := le_highestRevision h
  latest_cases state := highestRevision_cases state.rows
  mem_save h row := by
    split_ifs at h
    exact Table.mem_insert (Except.ok.inj h)

/-! ## Imports -/

inductive FeedbackImportStatus where
  | created | unchanged | corrected
deriving DecidableEq

structure FeedbackImportResult where
  status : FeedbackImportStatus
  annotationId : String
  revision : ℕ
  contentHash : HexDigest
deriving DecidableEq

/-- `FeedbackImportResult(...)` of a row -/
def FeedbackAnnotation.importResult (row : FeedbackAnnotation) (status : FeedbackImportStatus) :
    Raises FeedbackImportResult := do
  checkField (1 ≤ row.revision) "FeedbackImportResult" "revision"
  return ⟨status, row.annotationId, row.revision, row.contentHash⟩

/-- The import of an annotation that was parsed. -/
def importParsed (store : FeedbackStore) (note : FeedbackAnnotation) (state : store.State) :
    Raises (FeedbackImportResult × store.State) := do
  let find := store.findExactAnnotation state note.annotationId note.contentHash
  match find with
  | some existing =>
    let result ← existing.importResult .unchanged
    return (result, state)
  | none =>
    let revision := store.latestRevision state note.annotationId + 1
    match ← store.saveAnnotation state (note.withRevision revision) with
    | some state' =>
      let result ← (note.withRevision revision).importResult
        (if revision = 1 then .created else .corrected)
      return (result, state')
    | none =>
      -- no other import runs in between, so the second search is the first one
      match find with
      | some raced =>
        let result ← raced.importResult .unchanged
        return (result, state)
      | none => .error (.other "FeedbackError" "annotation revision conflicted; retry the import")

section Import

variable [UnicodeTables]

/-- The arguments of one import. -/
structure FeedbackCall where
  raw : Record
  evidence : NormalizedTrace
  platform : String := "langsmith"
  project : Option String := none

variable [DateTimeTexts] [HashFunctions]

/-- The annotation of a call, which refers to its trace. -/
def FeedbackCall.annotation (call : FeedbackCall) : Raises FeedbackAnnotation := do
  let note ← parseLangsmithAnnotation call.raw call.platform call.project
  let name := "annotation " ++ reprText note.annotationId
  raiseIf (note.traceId ≠ call.evidence.source.traceId)
    (unknownFeedbackReference
      (name ++ " references unknown trace " ++ reprText note.traceId))
  raiseIf (note.eventId.any fun id => call.evidence.events.all (·.eventId ≠ id))
    (unknownFeedbackReference
      (name ++ " references unknown event " ++ reprText (note.eventId.getD "")))
  return note

/-- `import_annotation(raw, evidence, platform=platform, project=project)` -/
def importAnnotation (store : FeedbackStore) (call : FeedbackCall) (state : store.State) :
    Raises (FeedbackImportResult × store.State) := do
  let note ← call.annotation
  importParsed store note state

/-- Imports one after the other, until one raises. -/
def importSequence (store : FeedbackStore) (state : store.State) :
    List FeedbackCall → Raises store.State
  | [] => .ok state
  | call :: calls => do
    let (_, state) ← importAnnotation store call state
    importSequence store state calls

end Import

end ObservabilityLab
