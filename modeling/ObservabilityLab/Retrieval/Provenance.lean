import ObservabilityLab.Retrieval.CurrentIndex

/-!
# Where stored chunks come from

An upsert replaces the text of a stored row and keeps its document and its version. A row takes the
text of another chunk only if the two have one identifier, and so one identity: when the digests of
different texts differ, that chunk has the same text.

## Main definitions

* `RetrievalChunk.Quotes`: a row has the identity and the text of a chunk
* `QuotesKnown`: every row of an index quotes a known chunk
* `QuotedFrom`: a text stands, under an identifier, in a version of an ingested document

## Main results

* `quotesKnown_indexAfter`: after any sequence of ingestions, every row quotes a chunk of theirs
* `quotedFrom_of_row`: every row stands in a document that was ingested
-/

namespace ObservabilityLab

open Python Raising KeyedUpsert Windows
open RetrievalIngestionService (Upserted ingest_triple)

/-- **A row quotes a chunk**: it was made from the chunk, and has its text. -/
def RetrievalChunk.Quotes (chunk : DocumentChunk) (row : RetrievalChunk) : Prop :=
  row.MadeFrom chunk ∧ row.text = chunk.text

/-- Every row of an index quotes a known chunk. -/
def QuotesKnown (known : Set DocumentChunk) (index : RetrievalIndex) : Prop :=
  ∀ row ∈ index.rows, ∃ chunk ∈ known, row.Quotes chunk

/-- Two chunks with one identity have one digest. -/
theorem contentHash_eq_of_identity {chunk other : DocumentChunk}
    (h : chunk.identity = other.identity) : chunk.contentHash = other.contentHash := by
  have hlist := congrArg String.toList h
  rw [toList_identity, toList_identity] at hlist
  have hdigests :=
    (eq_of_last_separator (bar_notMem_digest _) (bar_notMem_digest _) hlist).2
  have htext := String.toList_inj.mp hdigests
  cases hchunk : chunk.contentHash with
  | mk text hformed =>
    cases hother : other.contentHash with
    | mk text' hformed' =>
      rw [hchunk, hother] at htext
      dsimp only at htext
      subst htext
      rfl

section Rows

variable [TextHashes] [HashFunctions] {known : Set DocumentChunk} {chunks : List DocumentChunk}
  {before after : RetrievalIndex}

/-- **Chunks that their identifiers tell apart**: the identifiers are made from the identities and
the digests from the texts, and neither function maps two of them to one value. -/
structure ToldApart (known : Set DocumentChunk) : Prop where
  identified : Identified known
  hashed : ∀ chunk ∈ known, chunk.contentHash = TextHashes.sha256 chunk.text
  identities : Set.InjOn (HashFunctions.uuid5 chunkNamespace) (DocumentChunk.identity '' known)
  texts : Set.InjOn TextHashes.sha256 (DocumentChunk.text '' known)

/-- Known chunks with one identifier have one text. -/
theorem ToldApart.text_eq (h : ToldApart known) {chunk other : DocumentChunk}
    (hchunk : chunk ∈ known) (hother : other ∈ known) (hid : chunk.chunkId = other.chunkId) :
    chunk.text = other.text := by
  have hidentity : chunk.identity = other.identity := by
    apply h.identities (Set.mem_image_of_mem _ hchunk) (Set.mem_image_of_mem _ hother)
    rw [← h.identified chunk hchunk, ← h.identified other hother, hid]
  apply h.texts (Set.mem_image_of_mem _ hchunk) (Set.mem_image_of_mem _ hother)
  rw [← h.hashed chunk hchunk, ← h.hashed other hother]
  exact contentHash_eq_of_identity hidentity

/-- **An upsert of known chunks keeps what the rows quote.** -/
theorem QuotesKnown.upserted (h : ToldApart known) (hchunks : ∀ chunk ∈ chunks, chunk ∈ known)
    (hquotes : QuotesKnown known before) (hupserted : Upserted before after chunks) :
    QuotesKnown known after := by
  obtain ⟨rows, hrows, hunique, hafter⟩ := hupserted
  have hknown : ∀ new ∈ rows, new.toDocumentChunk ∈ known := fun new hnew =>
    hchunks _ (toDocumentChunk_mem hrows hnew)
  intro row hrow
  rw [hafter] at hrow
  rcases mem_upsert.mp hrow with ⟨stored, hstored, rfl⟩ | ⟨hnew, -⟩
  · obtain ⟨chunk, hchunk, hmade, htext⟩ := hquotes stored hstored
    by_cases hmet : stored.chunkId ∈ rows.map (·.chunkId)
    · -- the row takes the text of a chunk with its identifier, which is the text it has
      obtain ⟨new, hnew, hid⟩ := List.mem_map.mp hmet
      have hsame := h.text_eq (hknown new hnew) hchunk (hid.trans hmade.1)
      refine ⟨chunk, hchunk, ?_⟩
      rw [mergeRow_of_mem hunique hnew hid]
      exact ⟨hmade, hsame⟩
    · rw [mergeRow_of_notMem hmet]
      exact ⟨chunk, hchunk, hmade, htext⟩
  · exact ⟨_, hknown row hnew, ⟨rfl, rfl, rfl, rfl, rfl⟩, rfl⟩

end Rows

/-! ## Ingested documents -/

section Ingested

variable [SpaceTable] [TextHashes] [HashFunctions] {service : RetrievalIngestionService}
  {corpus calls : List IngestCall}

/-- **A quoted text**: a document was ingested in this version, the text is that of its chunk with
this identifier, and the words of the text stand in the document one after another. -/
structure QuotedFrom (service : RetrievalIngestionService) (corpus : List IngestCall)
    (chunkId documentId : Uuid) (version text : String) (source : SourceDocument) : Prop where
  ingested : ∃ call ∈ corpus, call.document.asSourceDocument = .ok source
  documentId : documentId = source.documentId
  version : version = source.version
  chunk : ∃ chunk ∈ service.chunker.chunk source, chunk.chunkId = chunkId ∧ chunk.text = text
  words : splitWords text <:+: splitWords source.content

/-- The functions that make the identifiers of a corpus map no two inputs of it to one value. -/
structure CollisionFree (service : RetrievalIngestionService) (corpus : List IngestCall) :
    Prop where
  identities : Set.InjOn (HashFunctions.uuid5 chunkNamespace)
    (DocumentChunk.identity '' chunksOfCalls service corpus)
  texts : Set.InjOn TextHashes.sha256 (DocumentChunk.text '' chunksOfCalls service corpus)

theorem CollisionFree.toldApart (h : CollisionFree service corpus) :
    ToldApart (chunksOfCalls service corpus) where
  identified := identified_chunksOfCalls service corpus
  hashed := by
    rintro chunk ⟨call, -, source, -, hchunk⟩
    obtain ⟨ordinal, text, htext, rfl⟩ := DeterministicChunker.eq_documentChunk hchunk
    rfl
  identities := h.identities
  texts := h.texts

/-- An ingestion of a corpus keeps what the rows quote. -/
theorem quotesKnown_ingest (h : CollisionFree service corpus) {call : IngestCall}
    (hcall : call ∈ corpus) :
    Keeps (QuotesKnown (chunksOfCalls service corpus)) (service.ingest call) := by
  refine triple_of_eq ?_
  intro before hquotes
  refine triple_mono (ingest_triple before) (fun _ h => h) ?_ fun _ _ hsame => hsame ▸ hquotes
  rintro chunks after ⟨source, hsource, rfl, hupserted⟩
  apply hquotes.upserted h.toldApart _ hupserted
  intro chunk hchunk
  exact ⟨call, hcall, source, hsource, hchunk⟩

/-- **After any sequence of ingestions, every row quotes a chunk of theirs.** -/
theorem quotesKnown_indexAfter (h : CollisionFree service corpus) (hcalls : calls ⊆ corpus) :
    QuotesKnown (chunksOfCalls service corpus) (indexAfter service calls) := by
  apply Keeps.foldl
  · intro call hcall
    exact quotesKnown_ingest h (hcalls hcall)
  · exact fun row hrow => absurd hrow List.not_mem_nil

/-- The words of a chunk stand in its document. -/
theorem isInfix_of_chunk {chunker : DeterministicChunker} {source : SourceDocument}
    {chunk : DocumentChunk} (h : chunk ∈ chunker.chunk source) :
    splitWords chunk.text <:+: splitWords source.content := by
  have hwindow : chunk.tokens ∈ chunker.wordWindows source := by
    rw [← DeterministicChunker.tokens_chunk]
    exact List.mem_map_of_mem h
  exact isInfix_of_mem_windows hwindow

/-- **Every row stands in a document that was ingested**, after any sequence of ingestions. -/
theorem quotedFrom_of_row (h : CollisionFree service corpus) (hcalls : calls ⊆ corpus)
    {row : RetrievalChunk} (hrow : row ∈ (indexAfter service calls).rows) :
    ∃ source, QuotedFrom service corpus row.chunkId row.documentId row.documentVersion row.text
      source := by
  obtain ⟨chunk, ⟨call, hcall, source, hsource, hchunk⟩, ⟨hid, hdocument, -, hversion, -⟩, htext⟩ :=
    quotesKnown_indexAfter h hcalls row hrow
  have hof := chunksOf_chunk service.chunker source
  refine ⟨source, ⟨call, hcall, hsource⟩, ?_, ?_, ⟨chunk, hchunk, hid.symm, htext.symm⟩, ?_⟩
  · rw [hdocument, hof.documentId chunk hchunk]
  · rw [hversion, hof.version chunk hchunk]
  · rw [htext]
    exact isInfix_of_chunk hchunk

end Ingested

end ObservabilityLab
