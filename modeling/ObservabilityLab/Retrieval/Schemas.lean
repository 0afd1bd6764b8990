import ObservabilityLab.Errors
import ObservabilityLab.Python.Words

/-!
# Retrieval contracts

The documents, chunks and ranked hits of the retrieval pipeline. Each carries the constraints of its
fields, so that an invalid one cannot be built.

## Main definitions

* `SourceDocument`, `SourceDocument.new`: a versioned document, and its validation
* `DocumentChunk`: one chunk of a document
* `RetrievalHit`: one ranked chunk of a retriever
-/

namespace ObservabilityLab

open Python

/-- A versioned source document. -/
structure SourceDocument where
  documentId : Uuid
  slug : String
  version : String
  title : String
  content : String
  sourceMetadata : List (String × String) := []
  slugLength : lengthWithin 1 200 slug = true
  versionLength : lengthWithin 1 100 version = true
  titleLength : lengthWithin 1 500 title = true
  contentNonempty : content ≠ ""

/-- `SourceDocument(...)` -/
def SourceDocument.new (documentId : Uuid) (slug version title content : String)
    (sourceMetadata : List (String × String)) : Raises SourceDocument :=
  if hslug : ¬ lengthWithin 1 200 slug = true then .error (.validation "SourceDocument" "slug")
  else if hversion : ¬ lengthWithin 1 100 version = true then
    .error (.validation "SourceDocument" "version")
  else if htitle : ¬ lengthWithin 1 500 title = true then
    .error (.validation "SourceDocument" "title")
  else if hcontent : content = "" then .error (.validation "SourceDocument" "content")
  else .ok ⟨documentId, slug, version, title, content, sourceMetadata, not_not.mp hslug,
    not_not.mp hversion, not_not.mp htitle, hcontent⟩

/-- One chunk of a document. -/
structure DocumentChunk where
  chunkId : Uuid
  documentId : Uuid
  documentSlug : String
  documentVersion : String
  title : String
  ordinal : ℕ
  text : String
  contentHash : HexDigest
  sourceMetadata : List (String × String) := []
  textNonempty : text ≠ ""

/-- The tokens of a chunk. -/
def DocumentChunk.tokens [SpaceTable] (chunk : DocumentChunk) : List String := splitWords chunk.text

/-- Where a hit comes from. -/
inductive RetrievalSource where
  | keyword | vector | fused
deriving DecidableEq

/-- One ranked chunk. A score is the rational number that it stands for. -/
structure RetrievalHit where
  chunkId : Uuid
  documentId : Uuid
  documentVersion : String
  text : String
  score : ℚ
  source : RetrievalSource
  corpusVersion : String
  rank : ℕ
  contributingRanks : List (RetrievalSource × ℕ) := []
  contributingScores : List (RetrievalSource × ℚ) := []
  textNonempty : text ≠ ""
  corpusVersionLength : lengthWithin 1 100 corpusVersion = true
  rankPositive : 1 ≤ rank

end ObservabilityLab
