import ObservabilityLab.Library.KeyedUpsert
import ObservabilityLab.Retrieval.Chunking
import ObservabilityLab.Support.Repository

/-!
# The retrieval index

A document is ingested by one upsert of its chunks, after each of them got its vector. A stored row
takes the text, the vector, the hash and the metadata of the new row, and keeps the rest.

## Main definitions

* `RetrievalIndex`: the rows of the index, with their primary key
* `RetrievalIngestionService.ingest`: one ingestion
* `Upserted`: the index after the rows of some chunks were upserted

## Main results

* `ingest_triple`: what an ingestion does to the rows
-/

namespace ObservabilityLab

open Python Raising KeyedUpsert

/-! ## Errors -/

/-- `EmbeddingDimensionMismatch(expected, actual)` -/
def embeddingDimensionMismatch (expected actual : ℕ) : PyError :=
  .domain "embedding_dimension_mismatch"
    ("The embedding dimension was " ++ toString actual ++ "; expected " ++ toString expected)
    unprocessableEntity

def embeddingProviderUnavailable : PyError :=
  .domain "embedding_provider_unavailable" "The embedding provider is unavailable" 503

def isDimensionMismatch : PyError → Bool
  | .domain code _ _ => code = "embedding_dimension_mismatch"
  | _ => false

/-! ## Rows -/

/-- One row of the index. -/
structure RetrievalChunk extends DocumentChunk where
  embedding : List PyFloat

/-- `on_conflict_do_update(...)`: what a stored row takes from the new one. -/
def RetrievalChunk.onConflict (stored excluded : RetrievalChunk) : RetrievalChunk :=
  { stored with
    text := excluded.text
    embedding := excluded.embedding
    contentHash := excluded.contentHash
    sourceMetadata := excluded.sourceMetadata
    textNonempty := excluded.textNonempty }

/-- The rows of the index; the identifier of the chunk is the primary key. -/
structure RetrievalIndex where
  rows : List RetrievalChunk := []
  chunkIdsUnique : (rows.map (·.chunkId)).Nodup

def RetrievalIndex.empty : RetrievalIndex := ⟨[], List.nodup_nil⟩

theorem onConflict_keepsKeys :
    KeepsKeys (fun row : RetrievalChunk => row.chunkId) RetrievalChunk.onConflict := fun _ _ => rfl

/-- `INSERT ... ON CONFLICT (chunk_id) DO UPDATE` -/
def RetrievalIndex.upsert (index : RetrievalIndex) (rows : List RetrievalChunk)
    (h : (rows.map (·.chunkId)).Nodup) : RetrievalIndex where
  rows := KeyedUpsert.upsert (·.chunkId) RetrievalChunk.onConflict rows index.rows
  chunkIdsUnique := nodup_upsert onConflict_keepsKeys h index.chunkIdsUnique

/-! ## Ingestion -/

/-- What `ingest` is called with: a source document, or a policy document. -/
inductive IngestDocument where
  | source (document : SourceDocument)
  | policy (document : PolicyDocumentRead)

/-- `_as_source_document(document)` -/
def IngestDocument.asSourceDocument : IngestDocument → Raises SourceDocument
  | source document => .ok document
  | policy document =>
    SourceDocument.new document.id document.slug document.version document.title document.content
      [("source", "support.policy_documents")]

/-- One call of `ingest`: the document, what the provider answers, and what the database raises
instead of running the statement. -/
structure IngestCall where
  document : IngestDocument
  embed : List String → Raises (List (List PyFloat))
  failure : Option PyError := none

/-- The chunker of a service, and the dimension of its provider. -/
structure RetrievalIngestionService where
  chunker : DeterministicChunker
  dimension : ℕ

/-- `DEFAULT_EMBEDDING_DIMENSION` -/
def defaultEmbeddingDimension : ℕ := 1536

/-- The statement, in a savepoint. -/
def executeUpsert (rows : List RetrievalChunk) (failure : Option PyError) :
    Action RetrievalIndex Unit :=
  match failure with
  | some error => throw error
  | none =>
    if h : (rows.map (·.chunkId)).Nodup then modify (·.upsert rows h)
    else throw (.other "CardinalityViolationError"
      "ON CONFLICT DO UPDATE command cannot affect row a second time")

namespace RetrievalIngestionService

variable (service : RetrievalIngestionService) (call : IngestCall)

/-- What the provider answers; another error than a wrong dimension is not told. -/
def providerVectors (chunks : List DocumentChunk) : Raises (List (List PyFloat)) :=
  match call.embed (chunks.map (·.text)) with
  | .ok vectors => .ok vectors
  | .error error =>
    if isDimensionMismatch error then .error error else .error embeddingProviderUnavailable

/-- The vectors of the chunks, one for each. -/
def embedChunks (chunks : List DocumentChunk) : Raises (List (List PyFloat)) := do
  let vectors ← providerVectors call chunks
  raiseIf (vectors.length ≠ chunks.length) embeddingProviderUnavailable
  forM vectors fun vector => raiseIf (vector.length ≠ service.dimension)
    (embeddingDimensionMismatch service.dimension vector.length)
  raiseIf (service.dimension ≠ defaultEmbeddingDimension)
    (embeddingDimensionMismatch defaultEmbeddingDimension service.dimension)
  return vectors

variable {service call}

/-- There is one vector for each chunk. -/
theorem length_of_embedChunks {chunks : List DocumentChunk} {vectors : List (List PyFloat)}
    (h : service.embedChunks call chunks = .ok vectors) : vectors.length = chunks.length := by
  obtain ⟨answered, -, h⟩ := bind_eq_ok.mp h
  obtain ⟨hlength, h⟩ := check_bind_eq_ok.mp h
  obtain ⟨-, h⟩ := check_bind_eq_ok.mp h
  obtain ⟨-, h⟩ := check_bind_eq_ok.mp h
  obtain rfl : answered = vectors := Except.ok.inj h
  have heq := raiseIf_eq_ok.mp hlength
  exact not_not.mp (of_decide_eq_false heq)

/-- The rows of some chunks have those chunks. -/
theorem map_toDocumentChunk {chunks : List DocumentChunk} {vectors : List (List PyFloat)}
    (h : vectors.length = chunks.length) :
    (chunks.zipWith RetrievalChunk.mk vectors).map (·.toDocumentChunk) = chunks := by
  rw [List.map_zipWith]
  have hleft : (chunks.zip vectors).map Prod.fst = chunks :=
    List.map_fst_zip (le_of_eq h.symm)
  rw [List.zip, List.map_zipWith] at hleft
  exact hleft

/-- An index after the rows of some chunks were upserted. -/
def Upserted (before after : RetrievalIndex) (chunks : List DocumentChunk) : Prop :=
  ∃ rows : List RetrievalChunk, rows.map (·.toDocumentChunk) = chunks ∧
    (rows.map (·.chunkId)).Nodup ∧
    after.rows = KeyedUpsert.upsert (·.chunkId) RetrievalChunk.onConflict rows before.rows

variable [SpaceTable] [TextHashes] [HashFunctions]

variable (service call) in
/-- `ingest(document)` -/
def ingest : Action RetrievalIndex (List DocumentChunk) := do
  let source ← MonadExcept.ofExcept call.document.asSourceDocument
  let chunks := service.chunker.chunk source
  let vectors ← MonadExcept.ofExcept (service.embedChunks call chunks)
  let rows := chunks.zipWith RetrievalChunk.mk vectors
  if rows.isEmpty then return chunks
  else do
    executeUpsert rows call.failure
    return chunks

/-- **What an ingestion does to the rows**: it upserts the chunks of its document, or raises and
changes nothing. -/
theorem ingest_triple (before : RetrievalIndex) :
    Triple (fun index => index = before) (service.ingest call)
      (fun chunks after => ∃ source, call.document.asSourceDocument = .ok source ∧
        chunks = service.chunker.chunk source ∧ Upserted before after chunks)
      fun _ after => after = before := by
  refine triple_bind (Q := fun source index => call.document.asSourceDocument = .ok source ∧
    index = before) (triple_ofExcept (fun _ _ h hbefore => ⟨h, hbefore⟩) fun _ _ _ h => h) ?_
  intro source
  refine triple_bind (Q := fun vectors index => index = before ∧
    call.document.asSourceDocument = .ok source ∧
    service.embedChunks call (service.chunker.chunk source) = .ok vectors)
    (triple_ofExcept (fun _ _ h hbefore => ⟨hbefore.2, hbefore.1, h⟩) fun _ _ _ h => h.2) ?_
  intro vectors
  dsimp only
  split
  · rename_i hempty
    refine triple_pure ?_
    rintro index ⟨rfl, hsource, hvectors⟩
    have hnil : (service.chunker.chunk source).zipWith RetrievalChunk.mk vectors = [] :=
      List.isEmpty_iff.mp hempty
    have hchunks := map_toDocumentChunk (length_of_embedChunks hvectors)
    rw [hnil] at hchunks
    exact ⟨source, hsource, rfl, [], hchunks, List.nodup_nil, upsert_nil.symm⟩
  · refine triple_bind (Q := fun _ after => call.document.asSourceDocument = .ok source ∧
      Upserted before after (service.chunker.chunk source)) ?_
      fun _ => triple_pure fun _ h => ⟨source, h.1, rfl, h.2⟩
    unfold executeUpsert
    split
    · exact triple_throw fun _ h => h.1
    · split
      · rename_i hunique
        refine triple_modify ?_
        rintro index ⟨rfl, hsource, hvectors⟩
        exact ⟨hsource, _, map_toDocumentChunk (length_of_embedChunks hvectors), hunique, rfl⟩
      · exact triple_throw fun _ h => h.1

end RetrievalIngestionService

end ObservabilityLab
