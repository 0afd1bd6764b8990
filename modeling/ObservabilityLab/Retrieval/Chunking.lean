import ObservabilityLab.Library.Windows
import ObservabilityLab.Retrieval.Schemas

/-!
# Chunking

A document is cut into windows of its words, each some words after the one before it.

## Main definitions

* `DeterministicChunker`, `DeterministicChunker.new`: the settings, and their checks
* `DeterministicChunker.chunk`: the chunks of a document
* `CoversDocument`: the chunks lose and repeat nothing

## Main results

* `chunkLoop_eq`: the loop makes one chunk of each window
* `chunk_covers`: the chunks of every document cover it
-/

namespace ObservabilityLab

open Python Windows

/-- The settings of a chunker. -/
structure DeterministicChunker where
  chunkSize : ℕ := 160
  overlap : ℕ := 32
  sizePositive : 0 < chunkSize
  overlapLess : overlap < chunkSize

/-- `DeterministicChunker(chunk_size=..., overlap=...)` -/
def DeterministicChunker.new (chunkSize overlap : ℤ) : Raises DeterministicChunker :=
  if hsize : chunkSize < 1 then .error (.value "chunk_size must be positive")
  else if hoverlap : overlap < 0 ∨ chunkSize ≤ overlap then
    .error (.value "overlap must be between zero and chunk_size - 1")
  else .ok ⟨chunkSize.toNat, overlap.toNat, by omega, by omega⟩

/-! ## Lists along each other -/

/-- Lists that agree element by element. -/
theorem map_eq_map_of_forall₂ {α β γ : Type} {f : α → γ} {g : β → γ} {as : List α} {bs : List β}
    (h : List.Forall₂ (fun a b => f a = g b) as bs) : as.map f = bs.map g := by
  rw [← List.forall₂_eq_eq_eq, List.forall₂_map_left_iff, List.forall₂_map_right_iff]
  exact h

/-- What holds of the elements of one list holds along any other list. -/
theorem forall_of_forall₂ {α β : Type} {P : α → Prop} {as : List α} {bs : List β}
    (h : List.Forall₂ (fun a _ => P a) as bs) : ∀ a ∈ as, P a := by
  induction h with
  | nil => exact fun a ha => absurd ha List.not_mem_nil
  | cons hhead _ ih => exact List.forall_mem_cons.mpr ⟨hhead, ih⟩

section Chunks

variable [SpaceTable] [TextHashes] [HashFunctions]

/-- `CHUNK_NAMESPACE` -/
def chunkNamespace : Uuid :=
  (Uuid.parse "35b6a2d7-0a3b-5f8d-9c3e-20d15ee66d37").get (by decide +kernel)

/-- The text that the identifier of a chunk is made from. -/
def chunkIdentity (document : SourceDocument) (ordinal : ℕ) (contentHash : HexDigest) : String :=
  document.documentId.str ++ "|" ++ document.slug ++ "|" ++ document.version ++ "|" ++
    toString ordinal ++ "|" ++ contentHash.text

/-- One chunk of a document, by its ordinal and its text. -/
def documentChunk (document : SourceDocument) (ordinal : ℕ) (text : String) (h : text ≠ "") :
    DocumentChunk where
  chunkId := HashFunctions.uuid5 chunkNamespace
    (chunkIdentity document ordinal (TextHashes.sha256 text))
  documentId := document.documentId
  documentSlug := document.slug
  documentVersion := document.version
  title := document.title
  ordinal := ordinal
  text := text
  contentHash := TextHashes.sha256 text
  sourceMetadata := document.sourceMetadata
  textNonempty := h

namespace DeterministicChunker

variable (chunker : DeterministicChunker) (document : SourceDocument)

/-- The loop over the starts of the windows, each with its ordinal. -/
def chunkLoop (tokens : List String) : List (ℕ × ℕ) → List DocumentChunk
  | [] => []
  | (start, ordinal) :: starts =>
    if h : " ".intercalate ((tokens.drop start).take chunker.chunkSize) = "" then []
    else if tokens.length ≤ start + chunker.chunkSize then
      [documentChunk document ordinal _ h]
    else documentChunk document ordinal _ h :: chunkLoop tokens starts

/-- `range(0, length, step)` -/
def starts (length : ℕ) : List ℕ :=
  List.range' 0 ((length + (chunker.chunkSize - chunker.overlap) - 1) /
    (chunker.chunkSize - chunker.overlap)) (chunker.chunkSize - chunker.overlap)

/-- `chunk(document)` -/
def chunk : List DocumentChunk :=
  match splitWords document.content with
  | [] => []
  | tokens => chunker.chunkLoop document tokens (chunker.starts tokens.length).zipIdx

/-! ## One chunk for each window -/

variable {chunker document} {tokens : List String} {starts : List ℕ}

omit [TextHashes] [HashFunctions] in
/-- The words of a window are the words of its text. -/
theorem splitWords_window (hwords : ∀ word ∈ tokens, IsWord word.toList) (start size : ℕ) :
    splitWords (" ".intercalate ((tokens.drop start).take size)) =
      (tokens.drop start).take size := by
  apply splitWords_join
  intro word hword
  exact hwords word (List.mem_of_mem_drop (List.mem_of_mem_take hword))

omit [TextHashes] [HashFunctions] in
theorem window_text_ne_empty (hwords : ∀ word ∈ tokens, IsWord word.toList) {start : ℕ}
    (hstart : start < tokens.length) :
    " ".intercalate ((tokens.drop start).take chunker.chunkSize) ≠ "" := by
  apply join_ne_empty
  · intro word hword
    exact hwords word (List.mem_of_mem_drop (List.mem_of_mem_take hword))
  · intro hnil
    have hlength := congrArg List.length hnil
    rw [List.length_take, List.length_drop, List.length_nil] at hlength
    have hsize := chunker.sizePositive
    omega

/-- A chunk of a document with the words of a window. -/
def ChunkOf (document : SourceDocument) (chunk : DocumentChunk) (window : List String × ℕ) : Prop :=
  chunk.tokens = window.1 ∧ ∃ text h, chunk = documentChunk document window.2 text h

/-- **The loop makes one chunk of each window**, with its ordinal. -/
theorem chunkLoop_eq (hwords : ∀ word ∈ tokens, IsWord word.toList)
    (hstarts : ∀ start ∈ starts, start < tokens.length) (ordinal : ℕ) :
    List.Forall₂ (ChunkOf document) (chunker.chunkLoop document tokens (starts.zipIdx ordinal))
      ((windowsAt chunker.chunkSize tokens starts).zipIdx ordinal) := by
  induction starts generalizing ordinal with
  | nil => exact List.Forall₂.nil
  | cons start starts ih =>
    have htext : " ".intercalate ((tokens.drop start).take chunker.chunkSize) ≠ "" :=
      window_text_ne_empty hwords (hstarts start List.mem_cons_self)
    have hchunk : ChunkOf document (documentChunk document ordinal _ htext)
        ((tokens.drop start).take chunker.chunkSize, ordinal) :=
      ⟨splitWords_window hwords start chunker.chunkSize, _, htext, rfl⟩
    rw [List.zipIdx_cons, chunkLoop, windowsAt, dif_neg htext]
    split_ifs with hend
    · exact List.Forall₂.cons hchunk List.Forall₂.nil
    · rw [List.zipIdx_cons]
      apply List.Forall₂.cons hchunk
      exact ih (fun other hother => hstarts other (List.mem_cons_of_mem _ hother)) _

omit [SpaceTable] [TextHashes] [HashFunctions] in
theorem step_pos (chunker : DeterministicChunker) : 0 < chunker.chunkSize - chunker.overlap := by
  have hless := chunker.overlapLess
  omega

omit [SpaceTable] [TextHashes] [HashFunctions] in
theorem lt_of_mem_starts {length start : ℕ} (h : start ∈ chunker.starts length) :
    start < length := by
  obtain ⟨index, hindex, rfl⟩ := List.mem_range'.mp h
  have hstep := chunker.step_pos
  have hmul : (index + 1) * (chunker.chunkSize - chunker.overlap) ≤
      length + (chunker.chunkSize - chunker.overlap) - 1 :=
    (Nat.le_div_iff_mul_le hstep).mp hindex
  rw [Nat.succ_mul, Nat.mul_comm] at hmul
  omega

variable (chunker document) in
/-- The windows of the words of a document. -/
def wordWindows : List (List String) :=
  windows chunker.chunkSize (chunker.chunkSize - chunker.overlap) (splitWords document.content)

/-- **The chunks of a document** are the windows of its words. -/
theorem chunk_windows : List.Forall₂ (ChunkOf document) (chunker.chunk document)
    (chunker.wordWindows document).zipIdx := by
  rw [chunk, wordWindows]
  have hwords : ∀ word ∈ splitWords document.content, IsWord word.toList := fun _ h =>
    mem_splitWords h
  cases htokens : splitWords document.content with
  | nil =>
    rw [windows_nil chunker.step_pos]
    exact List.Forall₂.nil
  | cons token tokens =>
    rw [htokens] at hwords
    exact chunkLoop_eq hwords (fun _ h => lt_of_mem_starts h) 0

/-- The tokens of the chunks are the windows. -/
theorem tokens_chunk :
    (chunker.chunk document).map (·.tokens) = chunker.wordWindows document := by
  have htokens : List.Forall₂ (fun (chunk : DocumentChunk) (window : List String × ℕ) =>
      chunk.tokens = window.1) (chunker.chunk document) (chunker.wordWindows document).zipIdx :=
    chunk_windows.imp fun _ _ h => h.1
  rw [map_eq_map_of_forall₂ htokens]
  exact List.zipIdx_map_fst 0 _

/-- The ordinals of the chunks count them. -/
theorem ordinals_chunk : (chunker.chunk document).map (·.ordinal) =
    List.range (chunker.chunk document).length := by
  have hordinals : List.Forall₂ (fun (chunk : DocumentChunk) (window : List String × ℕ) =>
      chunk.ordinal = window.2) (chunker.chunk document) (chunker.wordWindows document).zipIdx := by
    refine chunk_windows.imp ?_
    rintro _ window ⟨-, text, h, rfl⟩
    rfl
  rw [map_eq_map_of_forall₂ hordinals, hordinals.length_eq, List.length_zipIdx,
    List.range_eq_range']
  exact List.zipIdx_map_snd 0 _

/-- A chunk of a document is made from an ordinal and a text. -/
theorem eq_documentChunk {made : DocumentChunk} (h : made ∈ chunker.chunk document) :
    ∃ ordinal text htext, made = documentChunk document ordinal text htext := by
  have hmade : List.Forall₂ (fun (chunk : DocumentChunk) (_ : List String × ℕ) =>
      ∃ ordinal text htext, chunk = documentChunk document ordinal text htext)
      (chunker.chunk document) (chunker.wordWindows document).zipIdx := by
    refine chunk_windows.imp ?_
    rintro chunk window ⟨-, hchunk⟩
    exact ⟨window.2, hchunk⟩
  exact forall_of_forall₂ hmade made h

end DeterministicChunker

/-! ## The chunks cover the document -/

/-- **The chunks lose and repeat nothing.** -/
structure CoversDocument (chunker : DeterministicChunker) (document : SourceDocument)
    (chunks : List DocumentChunk) : Prop where
  bounded : ∀ chunk ∈ chunks, 1 ≤ chunk.tokens.length ∧ chunk.tokens.length ≤ chunker.chunkSize
  full : ∀ chunk ∈ chunks.dropLast, chunk.tokens.length = chunker.chunkSize
  ordinals : chunks.map (·.ordinal) = List.range chunks.length
  /-- The end of a chunk is the beginning of the next one, which has more. -/
  shared : chunks.IsChain fun before after =>
    before.tokens.drop (before.tokens.length - chunker.overlap) =
        after.tokens.take chunker.overlap ∧
      (after.tokens.take chunker.overlap).length = chunker.overlap ∧
      chunker.overlap < after.tokens.length
  whole : (chunks.head?.map (·.tokens)).getD [] ++
    chunks.tail.flatMap (·.tokens.drop chunker.overlap) = splitWords document.content
  empty : splitWords document.content = [] → chunks = []

/-- **The chunks of every document cover it.** -/
theorem chunk_covers (chunker : DeterministicChunker) (document : SourceDocument) :
    CoversDocument chunker document (chunker.chunk document) := by
  have htokens : (chunker.chunk document).map (·.tokens) = chunker.wordWindows document :=
    chunker.tokens_chunk
  have hstep := chunker.step_pos
  have hle : chunker.chunkSize - chunker.overlap ≤ chunker.chunkSize := Nat.sub_le _ _
  have hoverlap : chunker.chunkSize - (chunker.chunkSize - chunker.overlap) = chunker.overlap := by
    have hless := chunker.overlapLess
    omega
  by_cases hnil : splitWords document.content = []
  · have hchunks : chunker.chunk document = [] := by
      rw [DeterministicChunker.wordWindows, hnil, windows_nil hstep, List.map_eq_nil_iff] at htokens
      exact htokens
    rw [hchunks]
    refine ⟨?_, ?_, rfl, List.isChain_nil, hnil.symm, fun _ => rfl⟩
    · exact fun chunk h => absurd h List.not_mem_nil
    · exact fun chunk h => absurd h List.not_mem_nil
  · have hcovers := covers_windows hstep hle hnil
    rw [← DeterministicChunker.wordWindows, ← htokens] at hcovers
    refine ⟨?_, ?_, DeterministicChunker.ordinals_chunk, ?_, ?_, fun h => absurd h hnil⟩
    · intro chunk hmem
      exact hcovers.length_le chunker.sizePositive _ (List.mem_map_of_mem hmem)
    · intro chunk hmem
      apply hcovers.full
      rw [← List.map_dropLast]
      exact List.mem_map_of_mem hmem
    · have hshared := hcovers.shared hle hstep
      rw [hoverlap, List.isChain_map] at hshared
      exact hshared
    · have hwhole := hcovers.whole hle
      rw [hoverlap, List.head?_map, ← List.map_tail, List.flatMap_map] at hwhole
      exact hwhole

end Chunks

end ObservabilityLab
