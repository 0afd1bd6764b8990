import Mathlib.Data.Set.Function
import ObservabilityLab.Retrieval.Storage

/-!
# The current document in the index

The identifier of a chunk is made from its document, slug, version, ordinal and text. When the
content of a version changes, the chunks of the earlier content stay in the index, and the title of
a stored chunk is never replaced.

## Main definitions

* `HoldsCurrent`: the index holds exactly the chunks of the ingested document, and the other rows as
  before
* `Clean`: what an ingestion must find in the index for that
* `indexAfter`: the index after some ingestions

## Main results

* `identity_eq`: what the identity of a chunk tells of it
* `holdsCurrent_iff`: when the index holds exactly the ingested document
* `ingests_hold_iff`: the same along every sequence of ingestions
-/

namespace ObservabilityLab

open Python Raising KeyedUpsert
open RetrievalIngestionService (Upserted ingest_triple)

/-! ## Identities -/

section Identities

variable {sep : Char} {before before' after after' : List Char}

/-- A text is split at its last separator. -/
theorem eq_of_last_separator (hafter : sep ∉ after) (hafter' : sep ∉ after')
    (h : before ++ sep :: after = before' ++ sep :: after') :
    before = before' ∧ after = after' := by
  have hreverse := congrArg List.reverse h
  rw [List.reverse_append, List.reverse_append, List.reverse_cons, List.reverse_cons,
    List.append_assoc, List.append_assoc, List.singleton_append, List.singleton_append] at hreverse
  have htake {xs ys : List Char} (hxs : sep ∉ xs) :
      (xs.reverse ++ sep :: ys).takeWhile (· ≠ sep) = xs.reverse := by
    rw [List.takeWhile_append_of_pos]
    · simp
    · intro c hc
      rw [decide_eq_true_eq]
      rintro rfl
      exact hxs (List.mem_reverse.mp hc)
  have heq : after.reverse = after'.reverse := by
    rw [← htake hafter, hreverse, htake hafter']
  rw [List.reverse_inj] at heq
  subst heq
  exact ⟨List.append_cancel_right h, rfl⟩

/-- The text that the identifier of a chunk is made from. -/
def DocumentChunk.identity (chunk : DocumentChunk) : String :=
  chunk.documentId.str ++ "|" ++ chunk.documentSlug ++ "|" ++ chunk.documentVersion ++ "|" ++
    toString chunk.ordinal ++ "|" ++ chunk.contentHash.text

/-- The slug and the version, as the identity has them. -/
def DocumentChunk.versionText (chunk : DocumentChunk) : List Char :=
  chunk.documentSlug.toList ++ '|' :: chunk.documentVersion.toList

theorem bar_notMem_digest (digest : HexDigest) : '|' ∉ digest.text.toList := by
  intro hmem
  have hformed := digest.wellFormed
  rw [isHexDigest, Bool.and_eq_true, List.all_eq_true] at hformed
  exact absurd (hformed.2 _ hmem) (by decide)

theorem bar_notMem_digits (n : ℕ) : '|' ∉ (toString n).toList := by
  intro hmem
  rw [Nat.toString_eq_ofList_toDigits, String.toList_ofList] at hmem
  have hdigit := Nat.isDigit_of_mem_toDigits (by decide) (by decide) hmem
  exact absurd hdigit (by decide)

theorem toList_identity (chunk : DocumentChunk) : chunk.identity.toList =
    (chunk.documentId.str.toList ++ '|' :: chunk.versionText ++ '|' ::
      (toString chunk.ordinal).toList) ++ '|' :: chunk.contentHash.text.toList := by
  simp [DocumentChunk.identity, DocumentChunk.versionText]

/-- **What the identity of a chunk tells of it**: its document, its ordinal, and its slug and
version as one text. -/
theorem identity_eq {chunk other : DocumentChunk} (h : chunk.identity = other.identity) :
    chunk.documentId = other.documentId ∧ chunk.ordinal = other.ordinal ∧
      chunk.versionText = other.versionText := by
  have hlist := congrArg String.toList h
  rw [toList_identity, toList_identity] at hlist
  obtain ⟨hlist, -⟩ := eq_of_last_separator (bar_notMem_digest _) (bar_notMem_digest _) hlist
  obtain ⟨hlist, hordinal⟩ := eq_of_last_separator (bar_notMem_digits _) (bar_notMem_digits _) hlist
  have hlength : chunk.documentId.str.toList.length = other.documentId.str.toList.length := by
    rw [String.length_toList, String.length_toList, Uuid.length_str, Uuid.length_str]
  obtain ⟨hid, hversion⟩ := List.append_inj hlist hlength
  refine ⟨Uuid.str_injective (String.toList_inj.mp hid), ?_, (List.cons.inj hversion).2⟩
  rw [Nat.toString_eq_ofList_toDigits, Nat.toString_eq_ofList_toDigits, String.toList_ofList,
    String.toList_ofList] at hordinal
  rw [← Nat.ofDigitChars_ten_toDigits (n := chunk.ordinal), hordinal,
    Nat.ofDigitChars_ten_toDigits]

/-- The slug is read off the version text, when the version is known. -/
theorem slug_eq_of_versionText {chunk other : DocumentChunk}
    (h : chunk.versionText = other.versionText)
    (hversion : chunk.documentVersion = other.documentVersion) :
    chunk.documentSlug = other.documentSlug := by
  rw [DocumentChunk.versionText, DocumentChunk.versionText, hversion] at h
  exact String.toList_inj.mp (List.append_cancel_right h)

end Identities

/-! ## What the index holds -/

section Index

/-- A row belongs to a version of a document. -/
def RetrievalChunk.IsOf (source : SourceDocument) (row : RetrievalChunk) : Prop :=
  row.documentId = source.documentId ∧ row.documentVersion = source.version

/-- **The index holds exactly the chunks of the ingested document**, and the other rows as
before. -/
structure HoldsCurrent (source : SourceDocument) (chunks : List DocumentChunk)
    (before after : RetrievalIndex) : Prop where
  current : ∀ chunk, (∃ row ∈ after.rows, row.IsOf source ∧ row.toDocumentChunk = chunk) ↔
    chunk ∈ chunks
  others : ∀ row : RetrievalChunk, ¬ row.IsOf source → (row ∈ after.rows ↔ row ∈ before.rows)

/-- **What an ingestion must find**: every stored row of its version is a chunk of the new content
under the same title, and no other row has the identifier of a new chunk. -/
structure Clean (source : SourceDocument) (chunks : List DocumentChunk) (before : RetrievalIndex) :
    Prop where
  kept : ∀ row ∈ before.rows, row.IsOf source →
    ∃ chunk ∈ chunks, chunk.chunkId = row.chunkId ∧ chunk.title = row.title
  others : ∀ row ∈ before.rows, ¬ row.IsOf source →
    ∀ chunk ∈ chunks, chunk.chunkId ≠ row.chunkId

/-- A stored row was made from a chunk: they agree where an upsert changes nothing. -/
def RetrievalChunk.MadeFrom (chunk : DocumentChunk) (row : RetrievalChunk) : Prop :=
  row.chunkId = chunk.chunkId ∧ row.documentId = chunk.documentId ∧
    row.documentSlug = chunk.documentSlug ∧ row.documentVersion = chunk.documentVersion ∧
    row.ordinal = chunk.ordinal

variable [HashFunctions]

/-- Chunks whose identifiers are made from their identities. -/
def Identified (known : Set DocumentChunk) : Prop :=
  ∀ chunk ∈ known, chunk.chunkId = HashFunctions.uuid5 chunkNamespace chunk.identity

/-- The rows of an index were made from known chunks. -/
def MadeFromKnown (known : Set DocumentChunk) (index : RetrievalIndex) : Prop :=
  ∀ row ∈ index.rows, ∃ chunk ∈ known, row.MadeFrom chunk

/-- The chunks of one document, as `chunk` makes them. -/
structure ChunksOf (source : SourceDocument) (chunks : List DocumentChunk) : Prop where
  documentId : ∀ chunk ∈ chunks, chunk.documentId = source.documentId
  version : ∀ chunk ∈ chunks, chunk.documentVersion = source.version
  title : ∀ chunk ∈ chunks, chunk.title = source.title

variable {source : SourceDocument} {chunks : List DocumentChunk} {before after : RetrievalIndex}
  {known : Set DocumentChunk} {row new : RetrievalChunk} {rows : List RetrievalChunk}

/-- A stored row that has the identifier of a known chunk has its document, its ordinal and its
version text. -/
theorem MadeFromKnown.agrees (hmade : MadeFromKnown known before) (hknown : Identified known)
    (hids : Set.InjOn (HashFunctions.uuid5 chunkNamespace) (DocumentChunk.identity '' known))
    (hrow : row ∈ before.rows) {chunk : DocumentChunk} (hchunk : chunk ∈ known)
    (hid : chunk.chunkId = row.chunkId) :
    row.documentId = chunk.documentId ∧ row.ordinal = chunk.ordinal ∧
      row.toDocumentChunk.versionText = chunk.versionText := by
  obtain ⟨origin, horigin, hsame, hdocument, hslug, hversion, hordinal⟩ := hmade row hrow
  have hidentity : chunk.identity = origin.identity := by
    apply hids (Set.mem_image_of_mem _ hchunk) (Set.mem_image_of_mem _ horigin)
    rw [← hknown chunk hchunk, ← hknown origin horigin, hid, hsame]
  obtain ⟨hid, hord, htext⟩ := identity_eq hidentity
  refine ⟨hdocument.trans hid.symm, hordinal.trans hord.symm, ?_⟩
  rw [htext, DocumentChunk.versionText, DocumentChunk.versionText, hslug, hversion]

omit [HashFunctions] in
/-- A stored row of the version, merged with the new row of a chunk, is that chunk. -/
theorem onConflict_toDocumentChunk
    (hid : new.chunkId = row.chunkId) (htitle : new.title = row.title)
    (hversion : new.documentVersion = row.documentVersion)
    (hagrees : row.documentId = new.documentId ∧ row.ordinal = new.ordinal ∧
      row.toDocumentChunk.versionText = new.toDocumentChunk.versionText) :
    (row.onConflict new).toDocumentChunk = new.toDocumentChunk := by
  obtain ⟨hdocument, hordinal, htext⟩ := hagrees
  have hslug := slug_eq_of_versionText htext hversion.symm
  cases row with
  | mk chunk vector =>
    cases new with
    | mk other vector' =>
      cases chunk
      cases other
      dsimp only at hid htitle hversion hdocument hordinal hslug
      subst hid htitle hversion hdocument hordinal hslug
      rfl

/-- One ingestion of a document, into rows that were made from known chunks. -/
structure Ingestion (known : Set DocumentChunk) (source : SourceDocument)
    (chunks : List DocumentChunk) (before : RetrievalIndex) : Prop where
  made : MadeFromKnown known before
  identified : Identified known
  injective : Set.InjOn (HashFunctions.uuid5 chunkNamespace) (DocumentChunk.identity '' known)
  chunksKnown : ∀ chunk ∈ chunks, chunk ∈ known
  chunksOf : ChunksOf source chunks

omit [HashFunctions] in
theorem mem_rows_of_chunk {chunk : DocumentChunk} (hrows : rows.map (·.toDocumentChunk) = chunks)
    (hchunk : chunk ∈ chunks) : ∃ new ∈ rows, new.toDocumentChunk = chunk := by
  rw [← hrows] at hchunk
  exact List.mem_map.mp hchunk

omit [HashFunctions] in
theorem toDocumentChunk_mem (hrows : rows.map (·.toDocumentChunk) = chunks) (hnew : new ∈ rows) :
    new.toDocumentChunk ∈ chunks := by
  rw [← hrows]
  exact List.mem_map_of_mem hnew

omit [HashFunctions] in
theorem ChunksOf.isOf (h : ChunksOf source chunks) (hnew : new.toDocumentChunk ∈ chunks) :
    new.IsOf source := ⟨h.documentId _ hnew, h.version _ hnew⟩

/-- A stored row of the version that a new chunk meets becomes that chunk. -/
theorem Ingestion.merged (h : Ingestion known source chunks before)
    (hnew : new.toDocumentChunk ∈ chunks) (hrow : row ∈ before.rows) (hof : row.IsOf source)
    (hid : new.chunkId = row.chunkId) (htitle : source.title = row.title) :
    (row.onConflict new).toDocumentChunk = new.toDocumentChunk := by
  apply onConflict_toDocumentChunk hid
  · rw [h.chunksOf.title _ hnew, htitle]
  · rw [h.chunksOf.version _ hnew, hof.2]
  · exact h.made.agrees h.identified h.injective hrow (h.chunksKnown _ hnew) hid

/-- **A clean index holds exactly the new document.** -/
theorem Clean.holdsCurrent (h : Ingestion known source chunks before)
    (hupserted : Upserted before after chunks) (hclean : Clean source chunks before) :
    HoldsCurrent source chunks before after := by
  obtain ⟨rows, hrows, hunique, hafter⟩ := hupserted
  -- a stored row of the version meets the new row of a chunk, and becomes it
  have hmerge : ∀ row ∈ before.rows, row.IsOf source → ∃ new ∈ rows,
      new.chunkId = row.chunkId ∧
      mergeRow (·.chunkId) RetrievalChunk.onConflict rows row = row.onConflict new ∧
      (row.onConflict new).toDocumentChunk = new.toDocumentChunk := by
    intro row hrow hof
    obtain ⟨chunk, hchunk, hid, htitle⟩ := hclean.kept row hrow hof
    obtain ⟨new, hnew, rfl⟩ := mem_rows_of_chunk hrows hchunk
    rw [h.chunksOf.title _ hchunk] at htitle
    exact ⟨new, hnew, hid, mergeRow_of_mem hunique hnew hid, h.merged hchunk hrow hof hid htitle⟩
  -- a row of another version meets none, and stays
  have hstays : ∀ row ∈ before.rows, ¬ row.IsOf source →
      mergeRow (·.chunkId) RetrievalChunk.onConflict rows row = row := by
    intro row hrow hof
    apply mergeRow_of_notMem
    intro hmem
    obtain ⟨new, hnew, hid⟩ := List.mem_map.mp hmem
    exact hclean.others row hrow hof _ (toDocumentChunk_mem hrows hnew) hid
  constructor
  · intro chunk
    rw [hafter]
    constructor
    · rintro ⟨row, hmem, hof, rfl⟩
      rcases mem_upsert.mp hmem with ⟨stored, hstored, rfl⟩ | ⟨hnew, -⟩
      · by_cases hsource : stored.IsOf source
        · obtain ⟨new, hnew, -, heq, hchunk⟩ := hmerge stored hstored hsource
          rw [heq, hchunk]
          exact toDocumentChunk_mem hrows hnew
        · rw [hstays stored hstored hsource] at hof
          exact absurd hof hsource
      · exact toDocumentChunk_mem hrows hnew
    · intro hchunk
      obtain ⟨new, hnew, rfl⟩ := mem_rows_of_chunk hrows hchunk
      by_cases hkey : new.chunkId ∈ before.rows.map (·.chunkId)
      · obtain ⟨stored, hstored, hid⟩ := List.mem_map.mp hkey
        have hof : stored.IsOf source := by
          by_contra hnot
          exact hclean.others stored hstored hnot _ hchunk hid.symm
        obtain ⟨chunk, hmem, hsame, htitle⟩ := hclean.kept stored hstored hof
        rw [h.chunksOf.title _ hmem] at htitle
        refine ⟨_, mem_upsert.mpr (Or.inl ⟨stored, hstored, mergeRow_of_mem hunique hnew hid.symm⟩),
          ?_, h.merged hchunk hstored hof hid.symm htitle⟩
        exact hof
      · exact ⟨new, mem_upsert.mpr (Or.inr ⟨hnew, hkey⟩), h.chunksOf.isOf hchunk, rfl⟩
  · intro row hnot
    rw [hafter]
    constructor
    · intro hmem
      rcases mem_upsert.mp hmem with ⟨stored, hstored, rfl⟩ | ⟨hnew, -⟩
      · by_cases hsource : stored.IsOf source
        · obtain ⟨new, hnew, -, heq, -⟩ := hmerge stored hstored hsource
          rw [heq] at hnot
          exact absurd hsource hnot
        · rw [hstays stored hstored hsource]
          exact hstored
      · exact absurd (h.chunksOf.isOf (toDocumentChunk_mem hrows hnew)) hnot
    · intro hrow
      exact mem_upsert.mpr (Or.inl ⟨row, hrow, hstays row hrow hnot⟩)

omit [HashFunctions] in
/-- **An index that holds exactly the new document was clean.** -/
theorem HoldsCurrent.clean (hupserted : Upserted before after chunks)
    (h : HoldsCurrent source chunks before after) : Clean source chunks before := by
  obtain ⟨rows, hrows, hunique, hafter⟩ := hupserted
  have hkept : ∀ row ∈ before.rows,
      mergeRow (·.chunkId) RetrievalChunk.onConflict rows row ∈ after.rows := by
    intro row hrow
    rw [hafter]
    exact mem_upsert.mpr (Or.inl ⟨row, hrow, rfl⟩)
  have hfixed (row : RetrievalChunk) :
      (mergeRow (·.chunkId) RetrievalChunk.onConflict rows row).title = row.title ∧
        ((mergeRow (·.chunkId) RetrievalChunk.onConflict rows row).IsOf source ↔
          row.IsOf source) := by
    unfold mergeRow
    split
    · exact ⟨rfl, Iff.rfl⟩
    · exact ⟨rfl, Iff.rfl⟩
  constructor
  · intro row hrow hsource
    obtain ⟨htitle, hiff⟩ := hfixed row
    refine ⟨_, (h.current _).mp ⟨_, hkept row hrow, hiff.mpr hsource, rfl⟩, ?_, htitle⟩
    exact key_mergeRow onConflict_keepsKeys row
  · intro row hrow hnot chunk hchunk hid
    -- the row of the chunk and the stored row have one key, so that they are one row
    obtain ⟨current, hcurrent, hsource, rfl⟩ := (h.current chunk).mpr hchunk
    have heq := List.inj_on_of_nodup_map after.chunkIdsUnique hcurrent (hkept row hrow)
      (hid.trans (key_mergeRow onConflict_keepsKeys row).symm)
    rw [heq, (hfixed row).2] at hsource
    exact hnot hsource

/-- **When the index holds exactly the ingested document.** -/
theorem holdsCurrent_iff (h : Ingestion known source chunks before)
    (hupserted : Upserted before after chunks) :
    HoldsCurrent source chunks before after ↔ Clean source chunks before :=
  ⟨fun hcurrent => hcurrent.clean hupserted, fun hclean => hclean.holdsCurrent h hupserted⟩

/-- The rows after an ingestion are made from known chunks too. -/
theorem Ingestion.madeFromKnown (h : Ingestion known source chunks before)
    (hupserted : Upserted before after chunks) : MadeFromKnown known after := by
  obtain ⟨rows, hrows, -, hafter⟩ := hupserted
  intro row hrow
  rw [hafter] at hrow
  rcases mem_upsert.mp hrow with ⟨stored, hstored, rfl⟩ | ⟨hnew, -⟩
  · obtain ⟨chunk, hchunk, hmade⟩ := h.made stored hstored
    refine ⟨chunk, hchunk, ?_⟩
    unfold mergeRow
    split
    · exact hmade
    · exact hmade
  · exact ⟨_, h.chunksKnown _ (toDocumentChunk_mem hrows hnew), rfl, rfl, rfl, rfl, rfl⟩

end Index

/-! ## Sequences of ingestions -/

section History

variable [SpaceTable] [TextHashes] [HashFunctions]

/-- The index after some ingestions into an empty one. -/
def indexAfter (service : RetrievalIngestionService) (calls : List IngestCall) : RetrievalIndex :=
  calls.foldl (fun index call => finalState ((service.ingest call).run index)) .empty

/-- The chunks of the documents of some calls. -/
def chunksOfCalls (service : RetrievalIngestionService) (calls : List IngestCall) :
    Set DocumentChunk :=
  {chunk | ∃ call ∈ calls, ∃ source, call.document.asSourceDocument = .ok source ∧
    chunk ∈ service.chunker.chunk source}

/-- **One ingestion holds**: one that returns leaves exactly its document, and one that raises
changes nothing. -/
def IngestHolds (service : RetrievalIngestionService) (before : RetrievalIndex)
    (call : IngestCall) : Prop :=
  (∀ chunks after source, (service.ingest call).run before = .ok chunks after →
      call.document.asSourceDocument = .ok source →
      chunks = service.chunker.chunk source ∧ HoldsCurrent source chunks before after) ∧
    ∀ error after, (service.ingest call).run before = .error error after → after = before

/-- An ingestion that returns finds a clean index. -/
def FindsClean (service : RetrievalIngestionService) (before : RetrievalIndex) (call : IngestCall) :
    Prop :=
  ∀ chunks after source, (service.ingest call).run before = .ok chunks after →
    call.document.asSourceDocument = .ok source → Clean source chunks before

variable {service : RetrievalIngestionService} {call : IngestCall} {calls : List IngestCall}
  {before after : RetrievalIndex} {chunks : List DocumentChunk}

omit [SpaceTable] in
theorem identity_documentChunk (source : SourceDocument) (ordinal : ℕ) (text : String)
    (h : text ≠ "") : (documentChunk source ordinal text h).chunkId =
      HashFunctions.uuid5 chunkNamespace (documentChunk source ordinal text h).identity := rfl

theorem identified_chunksOfCalls (service : RetrievalIngestionService) (calls : List IngestCall) :
    Identified (chunksOfCalls service calls) := by
  rintro chunk ⟨call, -, source, -, hchunk⟩
  obtain ⟨ordinal, text, htext, rfl⟩ := DeterministicChunker.eq_documentChunk hchunk
  exact identity_documentChunk source ordinal text htext

theorem chunksOf_chunk (chunker : DeterministicChunker) (source : SourceDocument) :
    ChunksOf source (chunker.chunk source) := by
  constructor
  all_goals
    intro chunk hchunk
    obtain ⟨ordinal, text, htext, rfl⟩ := DeterministicChunker.eq_documentChunk hchunk
    rfl

/-- Identities are told apart where the identifiers of the chunks are. -/
theorem injOn_identities_of_chunkIds
    (hids : Set.InjOn DocumentChunk.chunkId (chunksOfCalls service calls)) :
    Set.InjOn (HashFunctions.uuid5 chunkNamespace)
      (DocumentChunk.identity '' chunksOfCalls service calls) := by
  rintro _ ⟨chunk, hchunk, rfl⟩ _ ⟨other, hother, rfl⟩ h
  have hidentified := identified_chunksOfCalls service calls
  rw [← hidentified chunk hchunk, ← hidentified other hother] at h
  rw [hids hchunk hother h]

/-- A call of a run is an ingestion into rows of its chunks. -/
theorem ingestion_of_call {source : SourceDocument}
    (hids : Set.InjOn (HashFunctions.uuid5 chunkNamespace)
      (DocumentChunk.identity '' chunksOfCalls service calls))
    (hmade : MadeFromKnown (chunksOfCalls service calls) before) (hcall : call ∈ calls)
    (hsource : call.document.asSourceDocument = .ok source) :
    Ingestion (chunksOfCalls service calls) source (service.chunker.chunk source) before :=
  ⟨hmade, identified_chunksOfCalls service calls, hids,
    fun _ hchunk => ⟨call, hcall, source, hsource, hchunk⟩, chunksOf_chunk _ _⟩

/-- **One call of a run**, from rows that were made from the chunks of the run. -/
theorem ingestHolds_iff
    (hids : Set.InjOn (HashFunctions.uuid5 chunkNamespace)
      (DocumentChunk.identity '' chunksOfCalls service calls))
    (hmade : MadeFromKnown (chunksOfCalls service calls) before) (hcall : call ∈ calls) :
    IngestHolds service before call ↔ FindsClean service before call := by
  constructor
  · rintro ⟨hreturns, -⟩ chunks after source hrun hsource
    obtain ⟨rfl, hcurrent⟩ := hreturns chunks after source hrun hsource
    obtain ⟨other, hother, -, hupserted⟩ := (ingest_triple before).ok rfl hrun
    exact (holdsCurrent_iff (ingestion_of_call hids hmade hcall hsource) hupserted).mp hcurrent
  · intro hclean
    refine ⟨?_, fun error after hrun => (ingest_triple before).error rfl hrun⟩
    intro chunks after source hrun hsource
    obtain ⟨other, hother, hchunks, hupserted⟩ := (ingest_triple before).ok rfl hrun
    obtain rfl := Except.ok.inj (hsource.symm.trans hother)
    refine ⟨hchunks, ?_⟩
    have hcleanHere := hclean chunks after source hrun hsource
    subst hchunks
    exact (holdsCurrent_iff (ingestion_of_call hids hmade hcall hsource) hupserted).mpr hcleanHere

/-- A call keeps what the rows were made from. -/
theorem madeFromKnown_ingest
    (hids : Set.InjOn (HashFunctions.uuid5 chunkNamespace)
      (DocumentChunk.identity '' chunksOfCalls service calls))
    (hmade : MadeFromKnown (chunksOfCalls service calls) before) (hcall : call ∈ calls) :
    MadeFromKnown (chunksOfCalls service calls)
      (finalState ((service.ingest call).run before)) := by
  cases hrun : (service.ingest call).run before with
  | ok chunks after =>
    obtain ⟨source, hsource, rfl, hupserted⟩ := (ingest_triple before).ok rfl hrun
    exact (ingestion_of_call hids hmade hcall hsource).madeFromKnown hupserted
  | error error after =>
    obtain rfl : after = before := (ingest_triple before).error rfl hrun
    exact hmade

/-- The rows along a run are made from the chunks of the run. -/
theorem madeFromKnown_foldl
    (hids : Set.InjOn (HashFunctions.uuid5 chunkNamespace)
      (DocumentChunk.identity '' chunksOfCalls service calls))
    {earlier : List IngestCall} (hearlier : earlier ⊆ calls)
    (hmade : MadeFromKnown (chunksOfCalls service calls) before) :
    MadeFromKnown (chunksOfCalls service calls) (earlier.foldl
      (fun index call => finalState ((service.ingest call).run index)) before) := by
  induction earlier generalizing before with
  | nil => exact hmade
  | cons call earlier ih =>
    obtain ⟨hcall, hrest⟩ := List.cons_subset.mp hearlier
    exact ih hrest (madeFromKnown_ingest hids hmade hcall)

/-- **Along every sequence of ingestions**, each holds exactly when each that returns finds a clean
index. -/
theorem ingests_hold_iff (service : RetrievalIngestionService) (calls : List IngestCall)
    (hids : Set.InjOn (HashFunctions.uuid5 chunkNamespace)
      (DocumentChunk.identity '' chunksOfCalls service calls)) :
    (∀ earlier call later, calls = earlier ++ call :: later →
        IngestHolds service (indexAfter service earlier) call) ↔
      ∀ earlier call later, calls = earlier ++ call :: later →
        FindsClean service (indexAfter service earlier) call := by
  have hstep : ∀ earlier call later, calls = earlier ++ call :: later →
      (IngestHolds service (indexAfter service earlier) call ↔
        FindsClean service (indexAfter service earlier) call) := by
    rintro earlier call later hcalls
    apply ingestHolds_iff hids
    · apply madeFromKnown_foldl hids
      · rw [hcalls]
        exact List.subset_append_left _ _
      · exact fun row hrow => absurd hrow List.not_mem_nil
    · rw [hcalls]
      exact List.mem_append_right _ List.mem_cons_self
  constructor
  · intro h earlier call later hcalls
    exact (hstep earlier call later hcalls).mp (h earlier call later hcalls)
  · intro h earlier call later hcalls
    exact (hstep earlier call later hcalls).mpr (h earlier call later hcalls)

/-- An ingestion whose vectors fit and whose rows have distinct identifiers returns. -/
theorem ingest_returns {source : SourceDocument} {vectors : List (List PyFloat)}
    (hsource : call.document.asSourceDocument = .ok source)
    (hvectors : service.embedChunks call (service.chunker.chunk source) = .ok vectors)
    (hunique : ((service.chunker.chunk source).map (·.chunkId)).Nodup)
    (hfailure : call.failure = none) (before : RetrievalIndex) :
    ∃ after, (service.ingest call).run before = .ok (service.chunker.chunk source) after := by
  have hrows := RetrievalIngestionService.map_toDocumentChunk
    (RetrievalIngestionService.length_of_embedChunks hvectors)
  have hids : (((service.chunker.chunk source).zipWith RetrievalChunk.mk vectors).map
      (·.chunkId)).Nodup := by
    rw [← hrows, List.map_map] at hunique
    exact hunique
  unfold RetrievalIngestionService.ingest
  rw [hsource]
  change ∃ after, EStateM.run (MonadExcept.ofExcept (service.embedChunks call
    (service.chunker.chunk source)) >>= _) before = _
  rw [hvectors]
  change ∃ after, EStateM.run (if ((service.chunker.chunk source).zipWith RetrievalChunk.mk
    vectors).isEmpty then _ else _) before = _
  split
  · exact ⟨before, rfl⟩
  · rw [hfailure]
    unfold executeUpsert
    dsimp only
    rw [dif_pos hids]
    exact ⟨_, rfl⟩

theorem indexAfter_singleton (hrun : (service.ingest call).run .empty = .ok chunks after) :
    indexAfter service [call] = after := by
  rw [indexAfter, List.foldl_cons, List.foldl_nil, hrun, finalState_ok]

end History

section Example

/-- Digests that tell one content from the others. -/
@[reducible] def contentHashes : TextHashes where
  sha256 text := .repeated (if text = "old words" then 1 else 2)

/-- Identifiers that tell texts apart by their last character. -/
@[reducible] def lastCharacterIds : HashFunctions where
  jsonSha256 _ := .repeated 0
  uuid5 _ name := .repeated (if name.toList.getLast? = some '1' then 1 else 2)

attribute [local instance] asciiSpaces contentHashes lastCharacterIds

/-- A version of a document, by its content. -/
def refundsDocument (content : String) (h : content ≠ "") : SourceDocument where
  documentId := .repeated 1
  slug := "refunds"
  version := "2026"
  title := "Refunds"
  content := content
  slugLength := by decide
  versionLength := by decide
  titleLength := by decide
  contentNonempty := h

/-- An ingestion that gets a vector for each chunk. -/
def refundsCall (content : String) (h : content ≠ "") : IngestCall where
  document := .source (refundsDocument content h)
  embed texts := .ok (texts.map fun _ => List.replicate 1536 0)

def refundsService : RetrievalIngestionService where
  chunker := { sizePositive := by decide, overlapLess := by decide }
  dimension := 1536

theorem old_words_ne : "old words" ≠ "" := by decide

theorem new_words_ne : "new words" ≠ "" := by decide

/-- Two ingestions, which give one version of a document two contents. -/
def refundsCorpus : List IngestCall :=
  [refundsCall "old words" old_words_ne, refundsCall "new words" new_words_ne]

theorem chunks_old : (refundsService.chunker.chunk (refundsDocument "old words" old_words_ne)).map
    (fun chunk => (chunk.chunkId, chunk.text)) = [(.repeated 1, "old words")] := by decide +kernel

theorem chunks_new : (refundsService.chunker.chunk (refundsDocument "new words" new_words_ne)).map
    (fun chunk => (chunk.chunkId, chunk.text)) = [(.repeated 2, "new words")] := by decide +kernel

theorem chunkIds_old : (refundsService.chunker.chunk
    (refundsDocument "old words" old_words_ne)).map (·.chunkId) = [.repeated 1] := by
  simpa only [List.map_map, Function.comp_def, List.map_cons, List.map_nil] using
    congrArg (List.map Prod.fst) chunks_old

theorem chunkIds_new : (refundsService.chunker.chunk
    (refundsDocument "new words" new_words_ne)).map (·.chunkId) = [.repeated 2] := by
  simpa only [List.map_map, Function.comp_def, List.map_cons, List.map_nil] using
    congrArg (List.map Prod.fst) chunks_new

/-- The two ingestions have one chunk each. -/
theorem exists_refundsChunks : ∃ old new : DocumentChunk,
    chunksOfCalls refundsService refundsCorpus ⊆ {old, new} ∧
      (old.chunkId = .repeated 1 ∧ old.text = "old words") ∧
      new.chunkId = .repeated 2 ∧ new.text = "new words" := by
  obtain ⟨old, hold, hfirst⟩ := List.map_eq_singleton_iff.mp chunks_old
  obtain ⟨new, hnew, hsecond⟩ := List.map_eq_singleton_iff.mp chunks_new
  rw [Prod.mk.injEq] at hfirst hsecond
  refine ⟨old, new, ?_, hfirst, hsecond⟩
  rintro chunk ⟨call, hcall, source, hsource, hchunk⟩
  rcases List.mem_pair.mp hcall with rfl | rfl
  · obtain rfl := Except.ok.inj hsource
    rw [hold, List.mem_singleton] at hchunk
    exact Or.inl hchunk
  · obtain rfl := Except.ok.inj hsource
    rw [hnew, List.mem_singleton] at hchunk
    exact Or.inr hchunk

theorem injOn_identities_refundsCorpus : Set.InjOn (HashFunctions.uuid5 chunkNamespace)
    (DocumentChunk.identity '' chunksOfCalls refundsService refundsCorpus) := by
  obtain ⟨old, new, hchunks, ⟨hold, -⟩, hnew, -⟩ := exists_refundsChunks
  have hids : Set.InjOn DocumentChunk.chunkId (chunksOfCalls refundsService refundsCorpus) := by
    intro chunk hchunk other hother h
    rcases hchunks hchunk with rfl | rfl <;> rcases hchunks hother with rfl | rfl
    · rfl
    · rw [hold, hnew] at h
      exact absurd h (by decide)
    · rw [hold, hnew] at h
      exact absurd h (by decide)
    · rfl
  exact injOn_identities_of_chunkIds hids

theorem embedChunks_refundsCall {content : String} (h : content ≠ "")
    (chunks : List DocumentChunk) : refundsService.embedChunks (refundsCall content h) chunks =
      .ok ((chunks.map (·.text)).map fun _ => List.replicate 1536 0) := by
  apply bind_eq_ok.mpr
  refine ⟨_, rfl, check_bind_eq_ok.mpr ⟨raiseIf_eq_ok.mpr ?_, check_bind_eq_ok.mpr ⟨?_,
    check_bind_eq_ok.mpr ⟨raiseIf_eq_ok.mpr ?_, rfl⟩⟩⟩⟩
  · apply decide_eq_false
    rw [not_not, List.length_map, List.length_map]
  · rw [forM_eq_ok]
    intro vector hvector
    obtain ⟨text, -, rfl⟩ := List.mem_map.mp hvector
    rw [raiseIf_eq_ok, List.length_replicate]
    rfl
  · rfl

/-- Every ingestion into the small service returns when the identifiers are distinct. -/
theorem refundsCall_returns {content : String} (h : content ≠ "")
    (hunique : ((refundsService.chunker.chunk (refundsDocument content h)).map (·.chunkId)).Nodup)
    (before : RetrievalIndex) :
    ∃ after, (refundsService.ingest (refundsCall content h)).run before =
      .ok (refundsService.chunker.chunk (refundsDocument content h)) after :=
  ingest_returns rfl (embedChunks_refundsCall h _) hunique rfl before

/-- `ingests_hold_iff` on two ingestions. -/
theorem ingests_hold_iff_refundsCorpus :
    (∀ earlier call later, refundsCorpus = earlier ++ call :: later →
        IngestHolds refundsService (indexAfter refundsService earlier) call) ↔
      ∀ earlier call later, refundsCorpus = earlier ++ call :: later →
        FindsClean refundsService (indexAfter refundsService earlier) call :=
  ingests_hold_iff refundsService refundsCorpus injOn_identities_refundsCorpus

/-- **The chunk of the earlier content stays** when a version gets another content. -/
theorem not_ingests_hold_changedContent :
    ¬ ∀ earlier call later, refundsCorpus = earlier ++ call :: later →
      IngestHolds refundsService (indexAfter refundsService earlier) call := by
  intro h
  obtain ⟨hfirst, -⟩ := h [] _ _ rfl
  obtain ⟨hsecond, -⟩ := h [_] _ [] rfl
  obtain ⟨after, hrun⟩ := refundsCall_returns old_words_ne
    (by rw [chunkIds_old]; exact List.nodup_singleton _) .empty
  obtain ⟨-, hold⟩ := hfirst _ _ _ hrun rfl
  rw [indexAfter_singleton hrun] at hsecond
  obtain ⟨last, hrun'⟩ := refundsCall_returns new_words_ne
    (by rw [chunkIds_new]; exact List.nodup_singleton _) after
  obtain ⟨-, hnew⟩ := hsecond _ _ _ hrun' rfl
  obtain ⟨other, -, -, hupserted⟩ := (ingest_triple after).ok rfl hrun'
  -- the row of the old chunk is not among the new chunks
  have hold_id : Uuid.repeated 1 ∈ (refundsService.chunker.chunk
      (refundsDocument "old words" old_words_ne)).map (·.chunkId) := by
    rw [chunkIds_old]
    exact List.mem_singleton_self _
  obtain ⟨chunk, hchunk, hid⟩ := List.mem_map.mp hold_id
  obtain ⟨row, hrow, hof, rfl⟩ := (hold.current chunk).mpr hchunk
  obtain ⟨new, hnewChunk, hsame, -⟩ := (hnew.clean hupserted).kept row hrow hof
  have hnew_id := List.mem_map_of_mem (f := fun chunk : DocumentChunk => chunk.chunkId) hnewChunk
  rw [chunkIds_new, List.mem_singleton, hsame, hid] at hnew_id
  exact absurd hnew_id (by decide)

end Example

end ObservabilityLab
