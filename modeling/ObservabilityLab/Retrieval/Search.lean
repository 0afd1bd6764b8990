import ObservabilityLab.Python.FloatOrder
import ObservabilityLab.Retrieval.Fusion
import ObservabilityLab.Retrieval.Provenance

/-!
# Searching the index

A question is answered by one statement on the words of the stored chunks and one on their vectors;
the hits of the two are fused. What the database computes is not modelled: the rows of a statement
are those of the index as it was after some of the ingestions, and the two statements of one search
need not see the same index.

## Main definitions

* `KeywordRetriever.search`, `VectorRetriever.search`, `FusedRetriever.search`: the searches
* `ReadsIndex`: what a statement answers
* `Evidence`: a hit of a retriever over ingested documents
* `KeywordRetriever.Found`, `VectorRetriever.Found`: what one search takes from its statement
* `FusedEvidence`: what a fused search returns

## Main results

* `similarity_mem_unit`: the score of every distance is between zero and one
* `fusedSearch_evidence`: every hit of a fused search quotes an ingested document, and the hits are
  the fusion of what the two searches found
-/

namespace ObservabilityLab

open Python Raising

/-! ## Hits -/

theorem corpusVersion_of_check {corpusVersion : String}
    (h : ¬ ¬ lengthWithin 1 100 corpusVersion = true) : lengthWithin 1 100 corpusVersion = true :=
  not_not.mp h

theorem RetrievalChunk.text_ne_empty (row : RetrievalChunk) : row.text ≠ "" := row.textNonempty

/-- `_hit(row, source=..., score=..., rank=..., corpus_version=...)` -/
def hitOf (row : RetrievalChunk) (source : RetrievalSource) (score : ℚ) (rank : ℕ)
    (corpusVersion : String) : Raises RetrievalHit :=
  if hversion : ¬ lengthWithin 1 100 corpusVersion = true then
    .error (.validation "RetrievalHit" "corpus_version")
  else if hrank : ¬ 1 ≤ rank then .error (.validation "RetrievalHit" "rank")
  else .ok
    { chunkId := row.chunkId
      documentId := row.documentId
      documentVersion := row.documentVersion
      text := row.text
      score := score
      source := source
      corpusVersion := corpusVersion
      rank := rank
      textNonempty := row.text_ne_empty
      corpusVersionLength := corpusVersion_of_check hversion
      rankPositive := one_le_of_check hrank }

/-- The hits of the rows of a statement, ranked from one. -/
def hitsOf (source : RetrievalSource) (corpusVersion : String) (rows : List (RetrievalChunk × ℚ)) :
    Raises (List RetrievalHit) :=
  (rows.zipIdx 1).mapM fun ranked =>
    hitOf ranked.1.1 source ranked.1.2 ranked.2 corpusVersion

/-- `max(0.0, min(1.0, 1.0 - distance))`. A distance that is not a number, as between zero vectors,
is not below one, and scores one. -/
def similarity (distance : PyFloat) : ℚ :=
  let raw := (PyFloat.ofRat 1).add distance.neg
  let capped := if raw.lt (.ofRat 1) then raw else .ofRat 1
  match if (0 : PyFloat).lt capped then capped else 0 with
  | .finite q => q.1
  | _ => 0

/-- **The score of every distance is between zero and one.** -/
theorem similarity_mem_unit (distance : PyFloat) :
    0 ≤ similarity distance ∧ similarity distance ≤ 1 := by
  unfold similarity
  generalize (PyFloat.ofRat 1).add distance.neg = raw
  rw [PyFloat.ofRat_one, PyFloat.zero_eq, PyFloat.zero]
  cases raw with
  | nan => simp [PyFloat.lt]
  | infinite negative => cases negative <;> simp [PyFloat.lt]
  | finite q =>
    by_cases hone : q.1 < 1
    · by_cases hzero : 0 < q.1
      · simpa [PyFloat.lt, hone, hzero] using ⟨hzero.le, hone.le⟩
      · simp [PyFloat.lt, hone, hzero]
    · simp [PyFloat.lt, hone]

/-! ## Retrievers -/

/-- What a retriever answers to a question. -/
structure Retriever (World : Type) where
  search : String → ℤ → Action World (List RetrievalHit)

/-- `DEFAULT_RRF_K` -/
def defaultRrfK : ℤ := 60

/-- The keyword retriever. The statement gets the terms as one text query, and answers with rows and
their scores, best first. -/
structure KeywordRetriever (World : Type) where
  execute : String → ℤ → Action World (List (RetrievalChunk × ℚ))
  corpusVersion : String := "policy-v1"

/-- The vector retriever. The statement gets a vector, and answers with rows and their distances,
closest first. -/
structure VectorRetriever (World : Type) where
  embedOne : String → Action World (List PyFloat)
  dimension : ℕ
  execute : List PyFloat → ℤ → Action World (List (RetrievalChunk × PyFloat))
  corpusVersion : String := "policy-v1"

structure FusedRetriever (World : Type) where
  keyword : Retriever World
  vector : Retriever World
  rrfK : ℤ := defaultRrfK

/-- `re.findall(r"[A-Za-z0-9]+", query)` -/
def findTerms (query : String) : List String :=
  ((query.toList.splitOnP fun c => !(isAsciiLetter c || isAsciiDigit c)).filter (· ≠ [])).map
    String.ofList

section Search

variable [SpaceTable] {World : Type}

/-- `not query.strip()` -/
def isBlankQuery (query : String) : Bool := query.toList.all isSpace

def KeywordRetriever.search (retriever : KeywordRetriever World) (query : String) (limit : ℤ) :
    Action World (List RetrievalHit) := do
  if isBlankQuery query || limit < 1 then return []
  else if (findTerms query).isEmpty then return []
  else
    let rows ← retriever.execute (" | ".intercalate (findTerms query)) limit
    MonadExcept.ofExcept (hitsOf .keyword retriever.corpusVersion rows)

/-- The vector of a question. Another error of the provider than a wrong dimension is not told. -/
def VectorRetriever.queryVector (retriever : VectorRetriever World) (query : String) :
    Action World (List PyFloat) := do
  match ← attempt (retriever.embedOne query) with
  | .error error =>
    if isDimensionMismatch error then throw error else throw embeddingProviderUnavailable
  | .ok vector =>
    if vector.length ≠ retriever.dimension then
      throw (embeddingDimensionMismatch retriever.dimension vector.length)
    else if retriever.dimension ≠ defaultEmbeddingDimension then
      throw (embeddingDimensionMismatch defaultEmbeddingDimension retriever.dimension)
    else return vector

def VectorRetriever.search (retriever : VectorRetriever World) (query : String) (limit : ℤ) :
    Action World (List RetrievalHit) := do
  if isBlankQuery query || limit < 1 then return []
  else
    let vector ← retriever.queryVector query
    let rows ← retriever.execute vector limit
    MonadExcept.ofExcept (hitsOf .vector retriever.corpusVersion
      (rows.map fun row => (row.1, similarity row.2)))

def FusedRetriever.search (retriever : FusedRetriever World) (query : String) (limit : ℤ) :
    Action World (List RetrievalHit) := do
  if limit < 1 || isBlankQuery query then return []
  else
    let keyword ← retriever.keyword.search query limit
    let vector ← retriever.vector.search query limit
    MonadExcept.ofExcept (reciprocalRankFusion [keyword, vector] limit retriever.rrfK)

/-- The retriever that a keyword search, a vector search and their fusion make. -/
def fusedRetriever (keyword : KeywordRetriever World) (vector : VectorRetriever World)
    (rrfK : ℤ) : Retriever World where
  search := FusedRetriever.search ⟨⟨keyword.search⟩, ⟨vector.search⟩, rrfK⟩

end Search

/-! ## The hits of one statement -/

/-- A hit of a row, at its rank. -/
structure HitOf (source : RetrievalSource) (ranked : (RetrievalChunk × ℚ) × ℕ)
    (hit : RetrievalHit) : Prop where
  chunkId : hit.chunkId = ranked.1.1.chunkId
  documentId : hit.documentId = ranked.1.1.documentId
  version : hit.documentVersion = ranked.1.1.documentVersion
  text : hit.text = ranked.1.1.text
  score : hit.score = ranked.1.2
  source : hit.source = source
  rank : hit.rank = ranked.2

theorem hitOf_eq_ok {row : RetrievalChunk} {source : RetrievalSource} {score : ℚ} {rank : ℕ}
    {corpusVersion : String} {hit : RetrievalHit}
    (h : hitOf row source score rank corpusVersion = .ok hit) :
    HitOf source ((row, score), rank) hit := by
  unfold hitOf at h
  split_ifs at h
  rw [← Except.ok.inj h]
  exact ⟨rfl, rfl, rfl, rfl, rfl, rfl, rfl⟩

/-- There is one hit for each row. -/
theorem hitsOf_eq_ok {source : RetrievalSource} {corpusVersion : String}
    {rows : List (RetrievalChunk × ℚ)} {hits : List RetrievalHit}
    (h : hitsOf source corpusVersion rows = .ok hits) :
    List.Forall₂ (HitOf source) (rows.zipIdx 1) hits :=
  (forall₂_of_mapM h).imp fun _ _ hhit => hitOf_eq_ok hhit

section Found

variable [SpaceTable] {World : Type}

/-- **What a keyword search found**: the rows of its statement on the terms of the question, in
their order. A question without terms asks no statement. -/
def KeywordRetriever.Found (retriever : KeywordRetriever World) (query : String) (limit : ℤ)
    (before : World) (hits : List RetrievalHit) (after : World) : Prop :=
  if isBlankQuery query || limit < 1 then hits = [] ∧ after = before
  else if (findTerms query).isEmpty then hits = [] ∧ after = before
  else ∃ rows, (retriever.execute (" | ".intercalate (findTerms query)) limit).run before =
      .ok rows after ∧
    List.Forall₂ (HitOf .keyword) (rows.zipIdx 1) hits

/-- **What a vector search found**: the rows of its statement on the vector of the question, in
their order, scored by their similarity. -/
def VectorRetriever.Found (retriever : VectorRetriever World) (query : String) (limit : ℤ)
    (before : World) (hits : List RetrievalHit) (after : World) : Prop :=
  if isBlankQuery query || limit < 1 then hits = [] ∧ after = before
  else ∃ vector middle rows, (retriever.embedOne query).run before = .ok vector middle ∧
    (retriever.execute vector limit).run middle = .ok rows after ∧
      List.Forall₂ (HitOf .vector) ((rows.map fun row => (row.1, similarity row.2)).zipIdx 1) hits

end Found

/-- With a corpus version that fits, every row makes a hit. -/
theorem exists_hitsOf {source : RetrievalSource} {corpusVersion : String}
    (hversion : lengthWithin 1 100 corpusVersion = true) (rows : List (RetrievalChunk × ℚ)) :
    ∃ hits, hitsOf source corpusVersion rows = .ok hits := by
  have hevery : ∀ ranked ∈ rows.zipIdx 1, ∃ hit : RetrievalHit,
      hitOf ranked.1.1 source ranked.1.2 ranked.2 corpusVersion = .ok hit ∧
        hit.rank = ranked.2 := by
    intro ranked hranked
    have hrank : 1 ≤ ranked.2 := List.le_snd_of_mem_zipIdx hranked
    unfold hitOf
    rw [dif_neg (not_not.mpr hversion), dif_neg (not_not.mpr hrank)]
    exact ⟨_, rfl, rfl⟩
  obtain ⟨hits, hhits, -⟩ := exists_mapM_eq_ok.mpr hevery
  exact ⟨hits, hhits⟩

section Evidence

variable [SpaceTable] [TextHashes] [HashFunctions]

/-- **A hit is evidence** when its text stands in the version of a document that it names, under its
identifier. -/
def IsEvidence (service : RetrievalIngestionService) (corpus : List IngestCall)
    (hit : RetrievalHit) : Prop :=
  ∃ source, QuotedFrom service corpus hit.chunkId hit.documentId hit.documentVersion hit.text source

/-- The rows of a statement: distinct rows of the index after some ingestions, not more than the
limit. -/
structure Answered (service : RetrievalIngestionService) (corpus : List IngestCall) (limit : ℤ)
    (rows : List RetrievalChunk) : Prop where
  stored : ∃ calls, calls ⊆ corpus ∧ ∀ row ∈ rows, row ∈ (indexAfter service calls).rows
  distinct : (rows.map (·.chunkId)).Nodup
  bounded : rows.length ≤ limit.toNat

/-- **A statement reads the index**, or fails as the database does. -/
def ReadsIndex {World α β : Type} (service : RetrievalIngestionService) (corpus : List IngestCall)
    (failed : PyError → Prop) (execute : α → ℤ → Action World (List (RetrievalChunk × β))) : Prop :=
  ∀ query limit, Triple (fun _ => True) (execute query limit)
    (fun rows _ => Answered service corpus limit (rows.map (·.1))) fun error _ => failed error

/-- **What one retriever returns**: distinct evidence from one source, ranked from one. -/
structure Evidence (service : RetrievalIngestionService) (corpus : List IngestCall)
    (source : RetrievalSource) (limit : ℤ) (hits : List RetrievalHit) : Prop where
  evidence : ∀ hit ∈ hits, IsEvidence service corpus hit
  source : ∀ hit ∈ hits, hit.source = source
  ranks : hits.map (·.rank) = List.range' 1 hits.length
  distinct : (hits.map (·.chunkId)).Nodup
  bounded : hits.length ≤ limit.toNat

/-- **What a fused search returns**: distinct evidence, the fusion of what its keyword search and
then its vector search found. -/
structure FusedEvidence {World : Type} (service : RetrievalIngestionService)
    (corpus : List IngestCall) (keyword : KeywordRetriever World) (vector : VectorRetriever World)
    (query : String) (limit k : ℤ) (before : World) (hits : List RetrievalHit) (after : World) :
    Prop where
  evidence : ∀ hit ∈ hits, IsEvidence service corpus hit
  distinct : (hits.map (·.chunkId)).Nodup
  bounded : hits.length ≤ limit.toNat
  fused : if limit < 1 || isBlankQuery query then hits = [] ∧ after = before
    else ∃ keywordHits middle vectorHits,
      keyword.Found query limit before keywordHits middle ∧
        vector.Found query limit middle vectorHits after ∧
          Evidence service corpus .keyword limit keywordHits ∧
            Evidence service corpus .vector limit vectorHits ∧
              FusionSpec [keywordHits, vectorHits] limit k hits

variable {World : Type} {service : RetrievalIngestionService} {corpus : List IngestCall}
  {source : RetrievalSource} {limit k : ℤ} {query : String}

theorem Evidence.nil : Evidence service corpus source limit [] where
  evidence _ h := absurd h List.not_mem_nil
  source _ h := absurd h List.not_mem_nil
  ranks := rfl
  distinct := List.nodup_nil
  bounded := Nat.zero_le _

/-- **The hits of the rows of a statement are evidence.** -/
theorem Answered.evidence (h : CollisionFree service corpus) {rows : List (RetrievalChunk × ℚ)}
    (hrows : Answered service corpus limit (rows.map (·.1))) {corpusVersion : String}
    {hits : List RetrievalHit} (hhits : hitsOf source corpusVersion rows = .ok hits) :
    Evidence service corpus source limit hits := by
  have hone := hitsOf_eq_ok hhits
  -- the hits are numbered in the order of the rows
  have hids : hits.map (·.chunkId) = (rows.map (·.1)).map (·.chunkId) := by
    rw [← map_eq_map_of_forall₂ (hone.imp fun _ _ hhit => hhit.chunkId.symm)]
    rw [← List.zipIdx_map_fst 1 rows, List.map_map, List.map_map, List.zipIdx_map_fst]
    rfl
  have hlength : hits.length = rows.length := by
    rw [← hone.length_eq, List.length_zipIdx]
  obtain ⟨calls, hcalls, hstored⟩ := hrows.stored
  constructor
  · intro hit hhit
    obtain ⟨ranked, hranked, hof⟩ := exists_of_mem_mapM hhits hhit
    have hof := hitOf_eq_ok hof
    have hrow := hstored _ (List.mem_map_of_mem (List.fst_mem_of_mem_zipIdx hranked))
    rw [IsEvidence, hof.chunkId, hof.documentId, hof.version, hof.text]
    exact quotedFrom_of_row h hcalls hrow
  · intro hit hhit
    obtain ⟨ranked, -, hof⟩ := exists_of_mem_mapM hhits hhit
    exact (hitOf_eq_ok hof).source
  · rw [← map_eq_map_of_forall₂ (hone.imp fun _ _ hhit => hhit.rank.symm), hlength]
    exact List.zipIdx_map_snd 1 rows
  · rw [hids]
    exact hrows.distinct
  · rw [hlength, ← List.length_map (·.1)]
    exact hrows.bounded

/-! ## The searches -/

/-- **How a search fails**: as the database does, or with an error of its own, which tells nothing
of what the provider raised. -/
inductive SearchFails (failed : PyError → Prop) : PyError → Prop where
  | database {error : PyError} (h : failed error) : SearchFails failed error
  | unavailable : SearchFails failed embeddingProviderUnavailable
  | dimension {error : PyError} (h : isDimensionMismatch error = true) : SearchFails failed error
  | corpusVersion : SearchFails failed (.validation "RetrievalHit" "corpus_version")
  | constant : SearchFails failed (.value "k must be positive")

variable {failed : PyError → Prop}

/-- The hits of the rows of a statement, in a search. -/
theorem hitsOf_triple (h : CollisionFree service corpus) {rows : List (RetrievalChunk × ℚ)}
    (corpusVersion : String) {R : World → Prop} :
    Triple (fun world => Answered service corpus limit (rows.map (·.1)) ∧ R world)
      (MonadExcept.ofExcept (hitsOf source corpusVersion rows))
      (fun hits world => Evidence service corpus source limit hits ∧
        List.Forall₂ (HitOf source) (rows.zipIdx 1) hits ∧ R world)
      fun error _ => SearchFails failed error := by
  apply triple_ofExcept
  · exact fun hits _ hhits hrows => ⟨hrows.1.evidence h hhits, hitsOf_eq_ok hhits, hrows.2⟩
  · intro error _ herror _
    -- the stored fields of a row are valid, and only the corpus version of the search may be not
    by_cases hversion : lengthWithin 1 100 corpusVersion = true
    · obtain ⟨hits, hhits⟩ : ∃ hits, hitsOf source corpusVersion rows = .ok hits :=
        exists_hitsOf hversion rows
      rw [hhits] at herror
      cases herror
    · have hraises : OnlyRaises (SearchFails failed) (hitsOf source corpusVersion rows) := by
        apply onlyRaises_mapM
        intro ranked
        unfold hitOf
        rw [dif_pos hversion]
        exact onlyRaises_error .corpusVersion
      exact hraises error herror

/-- **The hits of a keyword search are evidence**, and what its statement found. -/
theorem keywordSearch_triple (h : CollisionFree service corpus) {retriever : KeywordRetriever World}
    (hreads : ReadsIndex service corpus failed retriever.execute) (before : World) :
    Triple (· = before) (retriever.search query limit)
      (fun hits after => Evidence service corpus .keyword limit hits ∧
        retriever.Found query limit before hits after)
      fun error _ => SearchFails failed error := by
  unfold KeywordRetriever.search KeywordRetriever.Found
  split_ifs
  · exact triple_pure fun _ hworld => ⟨Evidence.nil, rfl, hworld⟩
  · exact triple_pure fun _ hworld => ⟨Evidence.nil, rfl, hworld⟩
  · refine triple_bind (triple_mono ((hreads _ limit).withRun trivial) (fun _ h => h)
      (fun _ _ h => h) fun _ _ h => SearchFails.database h) fun rows => ?_
    exact triple_mono (hitsOf_triple h retriever.corpusVersion) (fun _ h => h)
      (fun _ _ hhits => ⟨hhits.1, rows, hhits.2.2, hhits.2.1⟩) fun _ _ h => h

omit [SpaceTable] [TextHashes] [HashFunctions] in
/-- The vector of a question, or an error that tells nothing of the provider. -/
theorem queryVector_triple (retriever : VectorRetriever World) (query : String) (before : World) :
    Triple (· = before) (retriever.queryVector query)
      (fun vector after => (retriever.embedOne query).run before = .ok vector after)
      fun error _ => SearchFails failed error := by
  have hembed : Triple (· = before) (retriever.embedOne query)
      (fun vector after => True ∧ (retriever.embedOne query).run before = .ok vector after)
      fun _ _ => True :=
    Triple.withRun (P := fun _ => True)
      (triple_of_runs (fun _ _ _ _ _ => trivial) fun _ _ _ _ _ => trivial) trivial
  unfold VectorRetriever.queryVector
  refine triple_attempt_bind hembed (fun vector => ?_) fun error => ?_
  · dsimp only
    split_ifs
    · exact triple_throw fun _ _ => .dimension rfl
    · exact triple_throw fun _ _ => .dimension rfl
    · exact triple_pure fun _ h => h.2
  · dsimp only
    split_ifs with hdimension
    · exact triple_throw fun _ _ => .dimension hdimension
    · exact triple_throw fun _ _ => .unavailable

/-- **The hits of a vector search are evidence**, and what its statement found. -/
theorem vectorSearch_triple (h : CollisionFree service corpus) {retriever : VectorRetriever World}
    (hreads : ReadsIndex service corpus failed retriever.execute) (before : World) :
    Triple (· = before) (retriever.search query limit)
      (fun hits after => Evidence service corpus .vector limit hits ∧
        retriever.Found query limit before hits after)
      fun error _ => SearchFails failed error := by
  unfold VectorRetriever.search VectorRetriever.Found
  split_ifs
  · exact triple_pure fun _ hworld => ⟨Evidence.nil, rfl, hworld⟩
  · refine triple_bind (queryVector_triple retriever query before) fun vector => ?_
    refine triple_of_eq fun middle hembed => ?_
    refine triple_bind (triple_mono ((hreads vector limit).withRun trivial) (fun _ h => h)
      (fun _ _ h => h) fun _ _ h => SearchFails.database h) fun rows => ?_
    refine triple_mono (hitsOf_triple h retriever.corpusVersion) ?_
      (fun _ _ hhits => ⟨hhits.1, vector, middle, rows, hembed, hhits.2.2, hhits.2.1⟩)
      fun _ _ h => h
    intro _ hrows
    rw [List.map_map]
    exact hrows

/-- Hits of two sources can be fused. -/
theorem fusible_of_evidence {keyword vector : List RetrievalHit}
    (hkeyword : Evidence service corpus .keyword limit keyword)
    (hvector : Evidence service corpus .vector limit vector) : Fusible [keyword, vector] where
  distinct := by
    intro hits hhits
    rcases List.mem_pair.mp hhits with rfl | rfl
    · exact hkeyword.distinct
    · exact hvector.distinct
  sources := by
    rw [List.pairwise_pair]
    intro hit hhit other hother
    rw [hkeyword.source hit hhit, hvector.source other hother]
    decide

/-- **The fusion of two searches is evidence.** -/
theorem evidence_fusedHits (hk : 1 ≤ k) {keyword vector : List RetrievalHit}
    (hkeyword : Evidence service corpus .keyword limit keyword)
    (hvector : Evidence service corpus .vector limit vector) :
    (∀ hit ∈ fusedHits k limit [keyword, vector], IsEvidence service corpus hit) ∧
      ((fusedHits k limit [keyword, vector]).map (·.chunkId)).Nodup ∧
      (fusedHits k limit [keyword, vector]).length ≤ limit.toNat ∧
      FusionSpec [keyword, vector] limit k (fusedHits k limit [keyword, vector]) := by
  have hspec : FusionSpec [keyword, vector] limit k (fusedHits k limit [keyword, vector]) :=
    fusionSpec_fusedHits hk (fusible_of_evidence hkeyword hvector)
  obtain ⟨order, hsorted, -, hids⟩ := hspec.first
  refine ⟨?_, ?_, ?_, hspec⟩
  · intro hit hhit
    obtain ⟨hits, hhits, origin, horigin, hid, hdocument, hversion, htext⟩ := exists_origin hhit
    rw [IsEvidence, hid, hdocument, hversion, htext]
    rcases List.mem_pair.mp hhits with rfl | rfl
    · exact hkeyword.evidence origin horigin
    · exact hvector.evidence origin horigin
  · rw [hids]
    exact hsorted.nodup.sublist (List.take_sublist _ _)
  · rw [← List.length_map (·.chunkId), hids]
    exact List.length_take_le _ _

variable {keyword : KeywordRetriever World} {vector : VectorRetriever World}

/-- **What a fused search does**: it returns the fusion of what its two searches found, or fails as
one of them. -/
theorem fusedSearch_triple (h : CollisionFree service corpus)
    (hkeyword : ReadsIndex service corpus failed keyword.execute)
    (hvector : ReadsIndex service corpus failed vector.execute) (before : World) :
    Triple (· = before) ((fusedRetriever keyword vector k).search query limit)
      (fun hits after =>
        FusedEvidence service corpus keyword vector query limit k before hits after)
      fun error _ => SearchFails failed error := by
  unfold fusedRetriever FusedRetriever.search
  dsimp only
  -- a search that asks for nothing does not reach the database
  split_ifs with hasks
  · refine triple_pure fun _ hworld => ⟨fun _ hhit => absurd hhit List.not_mem_nil,
      List.nodup_nil, Nat.zero_le _, ?_⟩
    rw [if_pos hasks]
    exact ⟨rfl, hworld⟩
  · refine triple_bind (keywordSearch_triple h hkeyword before) fun keywordHits => ?_
    refine triple_of_eq fun middle hfound => ?_
    refine triple_bind (vectorSearch_triple h hvector middle) fun vectorHits => ?_
    have hlimit : ¬ limit < 1 := fun hlimit => hasks (by simp [hlimit])
    unfold reciprocalRankFusion
    rw [if_neg hlimit]
    split_ifs with hk
    · exact triple_throw fun _ _ => .constant
    · refine triple_pure fun _ hvectorFound => ?_
      obtain ⟨hevidence, hdistinct, hbounded, hspec⟩ :=
        evidence_fusedHits (not_lt.mp hk) hfound.1 hvectorFound.1
      refine ⟨hevidence, hdistinct, hbounded, ?_⟩
      rw [if_neg hasks]
      exact ⟨keywordHits, middle, vectorHits, hfound.2, hvectorFound.2, hfound.1,
        hvectorFound.1, hspec⟩

/-- **What a search over ingested documents returns and how it fails**: distinct hits that quote the
documents, the fusion of what its two searches found; or an error of the database or of its own. -/
theorem fusedSearch_evidence (h : CollisionFree service corpus) (keyword : KeywordRetriever World)
    (vector : VectorRetriever World) (k : ℤ)
    (hkeyword : ReadsIndex service corpus failed keyword.execute)
    (hvector : ReadsIndex service corpus failed vector.execute) (query : String) (limit : ℤ)
    (before : World) :
    Triple (· = before) ((fusedRetriever keyword vector k).search query limit)
      (fun hits after =>
        FusedEvidence service corpus keyword vector query limit k before hits after)
      fun error _ => SearchFails failed error :=
  fusedSearch_triple h hkeyword hvector before

end Evidence

/-! ## Searches that return -/

section Returns

variable [SpaceTable] {World : Type} {query : String} {limit : ℤ} {before after : World}

/-- A keyword search whose statement answers returns. -/
theorem keywordSearch_returns {retriever : KeywordRetriever World}
    (hversion : lengthWithin 1 100 retriever.corpusVersion = true)
    (hasks : isBlankQuery query = false)
    (hlimit : 1 ≤ limit) (hterms : (findTerms query).isEmpty = false)
    {rows : List (RetrievalChunk × ℚ)}
    (hrun : (retriever.execute (" | ".intercalate (findTerms query)) limit).run before =
      .ok rows after) :
    ∃ hits, (retriever.search query limit).run before = .ok hits after := by
  obtain ⟨hits, hhits⟩ : ∃ hits, hitsOf .keyword retriever.corpusVersion rows = .ok hits :=
    exists_hitsOf hversion rows
  refine ⟨hits, ?_⟩
  unfold KeywordRetriever.search
  rw [hasks, Bool.false_or, decide_eq_false (not_lt.mpr hlimit), if_neg Bool.false_ne_true, hterms,
    if_neg Bool.false_ne_true]
  refine run_bind_eq_ok.mpr ⟨rows, after, hrun, ?_⟩
  rw [hhits]
  rfl

/-- A vector search whose provider embeds the question and whose statement answers returns. -/
theorem vectorSearch_returns {retriever : VectorRetriever World}
    (hversion : lengthWithin 1 100 retriever.corpusVersion = true)
    (hasks : isBlankQuery query = false)
    (hlimit : 1 ≤ limit) {vector : List PyFloat} {middle : World}
    (hembed : (retriever.embedOne query).run before = .ok vector middle)
    (hlength : vector.length = retriever.dimension)
    (hdimension : retriever.dimension = defaultEmbeddingDimension)
    {rows : List (RetrievalChunk × PyFloat)}
    (hrun : (retriever.execute vector limit).run middle = .ok rows after) :
    ∃ hits, (retriever.search query limit).run before = .ok hits after := by
  obtain ⟨hits, hhits⟩ : ∃ hits, hitsOf .vector retriever.corpusVersion
      (rows.map fun row => (row.1, similarity row.2)) = .ok hits := exists_hitsOf hversion _
  have hvector : (retriever.queryVector query).run before = .ok vector middle := by
    unfold VectorRetriever.queryVector
    refine run_bind_eq_ok.mpr ⟨.ok vector, middle, by rw [run_attempt, hembed], ?_⟩
    dsimp only
    rw [if_neg (not_not.mpr hlength), if_neg (not_not.mpr hdimension)]
    rfl
  refine ⟨hits, ?_⟩
  unfold VectorRetriever.search
  rw [hasks, Bool.false_or, decide_eq_false (not_lt.mpr hlimit), if_neg Bool.false_ne_true]
  refine run_bind_eq_ok.mpr ⟨vector, middle, hvector, run_bind_eq_ok.mpr ⟨rows, after, hrun, ?_⟩⟩
  rw [hhits]
  rfl

/-- **A fused search returns** when its two searches do. -/
theorem fusedSearch_returns {keyword : KeywordRetriever World} {vector : VectorRetriever World}
    {k : ℤ} (hk : 1 ≤ k) (hasks : isBlankQuery query = false) (hlimit : 1 ≤ limit) {middle : World}
    (hkeyword : ∃ hits, (keyword.search query limit).run before = .ok hits middle)
    (hvector : ∃ hits, (vector.search query limit).run middle = .ok hits after) :
    ∃ hits, ((fusedRetriever keyword vector k).search query limit).run before = .ok hits after := by
  obtain ⟨keywordHits, hkeyword⟩ := hkeyword
  obtain ⟨vectorHits, hvector⟩ := hvector
  refine ⟨fusedHits k limit [keywordHits, vectorHits], ?_⟩
  unfold fusedRetriever FusedRetriever.search
  dsimp only
  rw [hasks, Bool.or_false, decide_eq_false (not_lt.mpr hlimit), if_neg Bool.false_ne_true]
  refine run_bind_eq_ok.mpr ⟨keywordHits, middle, hkeyword,
    run_bind_eq_ok.mpr ⟨vectorHits, after, hvector, ?_⟩⟩
  rw [reciprocalRankFusion, if_neg (not_lt.mpr hlimit), if_neg (not_lt.mpr hk)]
  rfl

end Returns

section Example

attribute [local instance] asciiSpaces contentHashes lastCharacterIds

/-- Nothing in the two ingestions can be confused. -/
theorem collisionFree_refundsCorpus : CollisionFree refundsService refundsCorpus := by
  refine ⟨injOn_identities_refundsCorpus, ?_⟩
  obtain ⟨old, new, hchunks, ⟨-, hold⟩, -, hnew⟩ := exists_refundsChunks
  rintro _ ⟨chunk, hchunk, rfl⟩ _ ⟨other, hother, rfl⟩ h
  rcases hchunks hchunk with rfl | rfl <;> rcases hchunks hother with rfl | rfl
  · rfl
  · rw [hold, hnew] at h
    exact absurd h (by decide)
  · rw [hold, hnew] at h
    exact absurd h (by decide)
  · rfl

/-- The first rows of the index after the ingestions. -/
def refundsRows (limit : ℤ) : List RetrievalChunk :=
  (indexAfter refundsService refundsCorpus).rows.take limit.toNat

@[irreducible] def refundsKeyword : KeywordRetriever Unit where
  execute _ limit := pure ((refundsRows limit).map fun row => (row, 1))

@[irreducible] def refundsVector : VectorRetriever Unit where
  embedOne _ := pure (List.replicate 1536 0)
  dimension := 1536
  execute _ limit := pure ((refundsRows limit).map fun row => (row, 0))

theorem answered_refundsRows {β : Type} (limit : ℤ) (score : β) :
    Answered refundsService refundsCorpus limit
      (((refundsRows limit).map fun row => (row, score)).map (·.1)) := by
  rw [List.map_map]
  change Answered refundsService refundsCorpus limit ((refundsRows limit).map id)
  rw [List.map_id]
  refine ⟨⟨refundsCorpus, List.Subset.refl _, fun row hrow => List.mem_of_mem_take hrow⟩, ?_,
    List.length_take_le _ _⟩
  exact (indexAfter refundsService refundsCorpus).chunkIdsUnique.sublist
    ((List.take_sublist _ _).map _)

theorem readsIndex_refundsKeyword :
    ReadsIndex refundsService refundsCorpus (fun _ => False) refundsKeyword.execute := by
  intro query limit
  unfold refundsKeyword
  exact triple_pure fun _ _ => answered_refundsRows limit 1

theorem readsIndex_refundsVector :
    ReadsIndex refundsService refundsCorpus (fun _ => False) refundsVector.execute := by
  intro query limit
  unfold refundsVector
  exact triple_pure fun _ _ => answered_refundsRows limit 0

theorem search_refunds : ∃ hits,
    ((fusedRetriever refundsKeyword refundsVector 60).search "refunds" 5).run () =
      .ok hits () := by
  apply fusedSearch_returns
  · decide
  · decide
  · decide
  · apply keywordSearch_returns
    · unfold refundsKeyword
      decide
    · decide
    · decide
    · decide +kernel
    · unfold refundsKeyword
      rfl
  · apply vectorSearch_returns
    · unfold refundsVector
      decide
    · decide
    · decide
    · unfold refundsVector
      rfl
    · unfold refundsVector
      exact List.length_replicate
    · unfold refundsVector
      rfl
    · unfold refundsVector
      rfl

/-- `fusedSearch_evidence` on two ingested contents. -/
theorem fusedSearch_evidence_refunds : ∃ hits,
    ((fusedRetriever refundsKeyword refundsVector 60).search "refunds" 5).run () = .ok hits () ∧
      FusedEvidence refundsService refundsCorpus refundsKeyword refundsVector "refunds" 5 60 ()
        hits () := by
  obtain ⟨hits, hrun⟩ := search_refunds
  exact ⟨hits, hrun, (fusedSearch_evidence collisionFree_refundsCorpus refundsKeyword refundsVector
    60 readsIndex_refundsKeyword readsIndex_refundsVector "refunds" 5 ()).ok rfl hrun⟩

end Example

end ObservabilityLab
