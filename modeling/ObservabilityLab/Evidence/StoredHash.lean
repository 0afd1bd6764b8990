import ObservabilityLab.Evidence.History

/-!
# Stored traces and their hashes

An import stores a trace under its stable evidence id, with the hash of the trace that was passed.
The hash is computed before the identifier is replaced and before the JSON column is written, so
that a row whose trace carried another identifier, or a float that the column does not give back,
does not match its own hash, and is not recognized when it is imported again.

## Main definitions

* `importEvidence`: one import that no other one interleaves with
* `StoredMatches`: every row matches the hash of its trace
* `TraceDocument.reread`: the trace as it is read back from its row

## Main results

* `row_of_insertedBy`: what an import inserts
* `storedMatches_iff`: the rows match their hashes exactly when the imports that inserted them were
  passed traces under their stable ids whose floats the column keeps
-/

namespace ObservabilityLab

open Python VersionedTable Interleaving

section StoredHash

variable [HashFunctions] [UnicodeTables]

/-- One import that no other one interleaves with: where it stands after its five operations. -/
def importEvidence (table : Table TraceImport) (document : TraceDocument) : ImportStage :=
  ((fun state => importStep false () document state.1 state.2)^[5]
    (⟨table, fun _ => none⟩, ImportStage.locking)).2

variable {Id : Type} [DecidableEq Id] {locks : Bool} {documents : Id → TraceDocument}
  {schedule : List Id} {i : Id} {row : TraceImport}

/-- The value that a content hash is computed from. -/
def TraceDocument.hashed (document : TraceDocument) : PyValue :=
  .dict (("source", document.evidence.source.dump) ::
    ("scenario_id", .ofOption document.evidence.scenarioId) :: document.evidence.fields)

/-- An import that passed its first check has events. -/
def ImportStage.HasEvents (document : TraceDocument) : ImportStage → Prop
  | .locking => True
  | .raised _ => True
  | _ => document.events ≠ []

theorem hasEvents_importStep {document : TraceDocument} {store : EvidenceStore Id}
    {stage : ImportStage} (h : stage.HasEvents document) :
    (importStep locks i document store stage).2.HasEvents document := by
  cases stage with
  | locking =>
    dsimp only [importStep]
    split_ifs with hempty
    · trivial
    · trivial
    · exact fun hnil => hempty (List.isEmpty_iff.mpr hnil)
    · exact fun hnil => hempty (List.isEmpty_iff.mpr hnil)
  | finding =>
    dsimp only [importStep]
    split <;> exact h
  | numbering => exact h
  | saving nextVersion =>
    dsimp only [importStep]
    split <;> exact h
  | rechecking =>
    dsimp only [importStep]
    split
    · exact h
    · trivial
  | returned result => exact h
  | raised error => trivial

theorem hasEvents_imports (locks : Bool) (documents : Id → TraceDocument) (schedule : List Id)
    (i : Id) : ((imports locks documents schedule).locals i).HasEvents (documents i) := by
  have hrun : True ∧
      ∀ i, ((imports locks documents schedule).locals i).HasEvents (documents i) := by
    refine Pool.run_localInvariant (fun _ : EvidenceStore Id => True)
      (fun i _ => ImportStage.HasEvents (documents i)) ⟨trivial, fun _ => trivial⟩ ?_ ?_ ?_
    · exact fun _ _ _ _ _ => trivial
    · exact fun i store stage _ h => hasEvents_importStep h
    · exact fun i j store stage stage' _ h => h
  exact hrun.2 i

/-- **What an import inserts**: a version of the trace that it was passed, which has events. -/
theorem row_of_insertedBy (h : InsertedBy locks documents schedule i row) :
    (documents i).events ≠ [] ∧ ∃ v, row = (documents i).traceImport v := by
  obtain ⟨earlier, later, rfl, hbefore, hafter⟩ := h
  have hevents := hasEvents_imports locks documents earlier i
  rw [imports, Pool.run_concat, ← imports] at hafter
  rcases importStep_imports locks i (documents i) (imports locks documents earlier).shared
    ((imports locks documents earlier).locals i) with hsame | ⟨nextVersion, hstage, hinsert, -⟩
  · refine absurd ?_ hbefore
    rw [← hsame]
    exact hafter
  · rw [hstage] at hevents
    refine ⟨hevents, nextVersion, ?_⟩
    exact ((Table.mem_insert hinsert).mp hafter).resolve_right hbefore

/-- A stored content is recognized. -/
theorem importEvidence_of_mem {table : Table TraceImport} {document : TraceDocument}
    (hevents : document.events ≠ []) (hrow : row ∈ table)
    (hid : row.evidenceId = document.stableId) (hhash : row.contentHash = document.computedHash) :
    importEvidence table document = .returned row.unchanged := by
  have hfind : table.findHash document.stableId document.computedHash = some row := by
    rw [← hid, ← hhash]
    exact Table.findHash_eq_some hrow
  have hempty : document.events.isEmpty = false := List.isEmpty_eq_false_iff.mpr hevents
  simp only [importEvidence, Function.iterate_succ, Function.iterate_zero, Function.comp_apply, id,
    importStep, hempty, hfind, EvidenceStore.release, Bool.false_eq_true, if_false]

/-! ## The column -/

variable [JsonColumn]

/-- **Every row matches its hash**: the trace that is read back from the row has the hash of the
row, and importing it again is reported as unchanged. -/
def StoredMatches (table : Table TraceImport) : Prop :=
  ∀ row ∈ table, ∃ document,
    TraceDocument.ofJson (PyValue.storedEntries row.evidenceJson) = .ok document ∧
      document.computedHash = row.contentHash ∧
      importEvidence table document = .returned row.unchanged

omit [HashFunctions] [UnicodeTables] in
theorem all_storedEntries (others : Record) :
    ((PyValue.storedEntries others).all fun entry => entry.1 ∈ otherKeys) =
      others.all fun entry => entry.1 ∈ otherKeys :=
  all_otherKeys_congr (PyValue.map_fst_storedEntries others)

/-- The trace as it is read back from its row. -/
def TraceDocument.reread (document : TraceDocument) : TraceDocument :=
  { document with
    evidenceId := document.stableId
    events := readEvents (PyValue.storedList document.events)
    others := readOthers (PyValue.storedEntries document.others)
    known := (all_readOthers _).trans ((all_storedEntries _).trans document.known)
    typedEvents := PyValue.readFloatsList_idem ..
    typedOthers := PyValue.readFloatsEntries_idem .. }

omit [HashFunctions] in
/-- Only the events of the fields that an import reads may be read back changed. -/
theorem TraceDocument.stored_head (document : TraceDocument) (events : List PyValue) :
    PyValue.storedEntries (document.head events) = document.head (PyValue.storedList events) := by
  simp only [head, TraceSourceRef.dump, PyValue.storedEntries, PyValue.stored,
    PyValue.stored_ofOption]

/-- A stored payload is read back under the stable id. -/
theorem TraceDocument.ofJson_storedPayload {document : TraceDocument}
    (hevents : document.events ≠ []) :
    TraceDocument.ofJson (PyValue.storedEntries document.storedPayload) = .ok document.reread := by
  have hlist : PyValue.storedList document.events ≠ [] := by
    rw [PyValue.storedList_eq_map]
    exact List.map_eq_nil_iff.not.mpr hevents
  rw [TraceDocument.storedPayload, document.setItem_dump, dump_eq, PyValue.storedEntries_append,
    stored_head]
  exact ofJson_payload _ hlist ((all_storedEntries _).trans document.known)

/-- The identifier and the floats tell the hashed values apart. -/
theorem TraceDocument.hashed_reread_iff {document : TraceDocument} :
    document.reread.hashed = document.hashed ↔ document.evidenceId = document.stableId ∧
      ∀ entry ∈ document.floats, KeepsAt floatFields entry := by
  have hevents : document.reread.events = document.events ↔
      ∀ entry ∈ PyValue.floatsAtList ["events"] document.events, KeepsAt floatFields entry :=
    PyValue.readFloatsList_stored_iff document.typedEvents
  have hothers : document.reread.others = document.others ↔
      ∀ entry ∈ PyValue.floatsAtEntries [] document.others, KeepsAt floatFields entry :=
    PyValue.readFloatsEntries_stored_iff document.typedOthers
  rw [floats, List.forall_mem_append, ← hevents, ← hothers]
  constructor
  · intro h
    simp only [hashed, evidence, PyValue.dict.injEq, List.cons_append, List.cons.injEq,
      Prod.mk.injEq, true_and, PyValue.list.injEq, PyValue.str.injEq, List.nil_append] at h
    obtain ⟨-, -, -, hid, -, -, -, hlists⟩ := h
    exact ⟨(Uuid.str_injective hid).symm, hlists⟩
  · rintro ⟨hid, hevents, hothers⟩
    have hsame : document.reread.evidenceId = document.evidenceId := hid.symm
    rw [hashed, evidence, hevents, hothers, hsame]
    rfl

/-- **When the stored traces match their hashes**: exactly when every import that inserted a row was
passed a trace under its stable evidence id whose floats the column keeps. -/
theorem storedMatches_iff
    (hinj : Set.InjOn HashFunctions.jsonSha256
      (Set.range (fun i => (documents i).hashed) ∪
        Set.range fun i => (documents i).reread.hashed)) :
    StoredMatches (imports locks documents schedule).shared.imports ↔
      ∀ i row, InsertedBy locks documents schedule i row →
        (documents i).evidenceId = (documents i).stableId ∧
          ∀ entry ∈ (documents i).floats, KeepsAt floatFields entry := by
  constructor
  · intro hmatches i row hinserted
    obtain ⟨hevents, v, rfl⟩ := row_of_insertedBy hinserted
    obtain ⟨document, hread, hhash, -⟩ := hmatches _ (mem_of_insertedBy hinserted)
    obtain rfl := Except.ok.inj ((TraceDocument.ofJson_storedPayload hevents).symm.trans hread)
    exact TraceDocument.hashed_reread_iff.mp
      (hinj (Or.inr ⟨i, rfl⟩) (Or.inl ⟨i, rfl⟩) hhash)
  · intro hkept row hrow
    obtain ⟨i, hinserted⟩ := exists_insertedBy hrow
    obtain ⟨hevents, v, rfl⟩ := row_of_insertedBy hinserted
    have hsame := TraceDocument.hashed_reread_iff.mpr (hkept i _ hinserted)
    have hhash : (documents i).reread.computedHash = (documents i).computedHash :=
      congrArg HashFunctions.jsonSha256 hsame
    have hlist : (documents i).reread.events = (documents i).events :=
      (PyValue.readFloatsList_stored_iff (documents i).typedEvents).mpr fun entry hentry =>
        (hkept i _ hinserted).2 entry (List.mem_append_left _ hentry)
    have hreread : (documents i).reread.events ≠ [] := by
      rw [hlist]
      exact hevents
    refine ⟨(documents i).reread, TraceDocument.ofJson_storedPayload hevents, hhash, ?_⟩
    exact importEvidence_of_mem hreread hrow rfl hhash.symm

end StoredHash

section Example

/-- Hash functions that tell two evidence ids apart, and give one identifier. -/
@[reducible] def identifierHashes : HashFunctions where
  jsonSha256 v := if (Uuid.repeated 1).str ∈ v.texts then .repeated 1 else .repeated 0
  uuid5 _ _ := .repeated 0

attribute [local instance] asciiTables identifierHashes numericColumn

theorem validFields_support :
    validFields "3.0.0" ⟨"langsmith", none, "trace", none, none⟩ none none "answered" = true := by
  decide +kernel

/-- A trace under another evidence id. -/
def foreignTrace : TraceDocument where
  schemaVersion := "3.0.0"
  evidenceId := .repeated 1
  source := ⟨"langsmith", none, "trace", none, none⟩
  scenarioId := none
  workflowVersion := none
  outcome := .completed
  reasonCode := "answered"
  events := [.dict [("event_id", .str "root")]]
  others := []
  contentHash := none
  valid := validFields_support
  known := rfl
  typedEvents := rfl
  typedOthers := rfl

/-- One import, with its lock, until it returned. -/
def foreignImport : Pool Unit (EvidenceStore Unit) ImportStage :=
  imports true (fun _ => foreignTrace) [(), (), (), ()]

theorem hash_foreignTrace : foreignTrace.computedHash ≠ foreignTrace.reread.computedHash := by
  decide +kernel

theorem storedMatches_iff_foreignTrace :
    StoredMatches foreignImport.shared.imports ↔
      ∀ i row, InsertedBy true (fun _ : Unit => foreignTrace) [(), (), (), ()] i row →
        foreignTrace.evidenceId = foreignTrace.stableId ∧
          ∀ entry ∈ foreignTrace.floats, KeepsAt floatFields entry := by
  refine storedMatches_iff ?_
  rintro _ (⟨_, rfl⟩ | ⟨_, rfl⟩) _ (⟨_, rfl⟩ | ⟨_, rfl⟩) h
  · rfl
  · exact absurd h hash_foreignTrace
  · exact absurd h.symm hash_foreignTrace
  · rfl

/-- The stored trace does not match its hash, and is imported again as an update. -/
theorem not_storedMatches_foreignTrace :
    ¬ StoredMatches foreignImport.shared.imports ∧
      ∃ row ∈ foreignImport.shared.imports.rows,
        row.contentHash = foreignTrace.computedHash ∧
        TraceDocument.ofJson (PyValue.storedEntries row.evidenceJson) = .ok foreignTrace.reread ∧
        foreignTrace.reread.computedHash ≠ row.contentHash := by
  have hrow : foreignImport.shared.imports.rows = [foreignTrace.traceImport 1] := rfl
  have hread : TraceDocument.ofJson
      (PyValue.storedEntries (foreignTrace.traceImport 1).evidenceJson) = .ok foreignTrace.reread :=
    TraceDocument.ofJson_storedPayload (List.cons_ne_nil _ _)
  have hmem : foreignTrace.traceImport 1 ∈ foreignImport.shared.imports.rows := by
    rw [hrow]
    exact List.mem_singleton_self _
  refine ⟨fun hmatches => ?_, _, hmem, rfl, hread, hash_foreignTrace.symm⟩
  obtain ⟨document, hdocument, hhash, -⟩ := hmatches _ hmem
  obtain rfl := Except.ok.inj (hread.symm.trans hdocument)
  exact hash_foreignTrace hhash.symm

end Example

end ObservabilityLab
