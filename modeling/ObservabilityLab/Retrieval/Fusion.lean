import Mathlib.Algebra.Order.BigOperators.Group.List
import Mathlib.Algebra.Order.Field.Rat
import Mathlib.Data.List.Sort
import Mathlib.Data.String.Basic
import ObservabilityLab.Library.Dictionary
import ObservabilityLab.Library.FirstMatch
import ObservabilityLab.Retrieval.Schemas

/-!
# Rank fusion

Ranked lists are fused by the sums of the reciprocals of their ranks. The scores are taken as exact
rational numbers.

## Main definitions

* `reciprocalRankFusion`: the fused list
* `rankIn`, `fusedScore`: the rank of a chunk in one list, and its sum over all lists
* `FusionSpec`: what the fused list is
* `Dominates`: a chunk is ranked as high as another in every list, and higher in one

## Main results

* `lookup_scores`: the dictionary of the scores holds the sums
* `lookup_ranks`: the dictionary of the ranks holds the rank in each list
* `fusion_spec`: the fused list is as specified, and does not depend on the order of the lists
-/

namespace ObservabilityLab

open Python Dictionary

/-! ## The fused list -/

/-- The dictionaries of `reciprocal_rank_fusion`. -/
structure FusionState where
  merged : List (Uuid × RetrievalHit) := []
  scores : List (Uuid × ℚ) := []
  ranks : List (Uuid × List (RetrievalSource × ℕ)) := []
  sourceScores : List (Uuid × List (RetrievalSource × ℚ)) := []

/-- One hit at its position. -/
def fuseHit (k : ℤ) (state : FusionState) (ranked : RetrievalHit × ℕ) : FusionState where
  scores := alter state.scores ranked.1.chunkId fun score =>
    score.getD 0 + 1 / ((k : ℚ) + (ranked.2 : ℚ))
  ranks := alter state.ranks ranked.1.chunkId fun known =>
    alter (known.getD []) ranked.1.source fun _ => ranked.2
  sourceScores := alter state.sourceScores ranked.1.chunkId fun known =>
    alter (known.getD []) ranked.1.source fun _ => ranked.1.score
  merged := alter state.merged ranked.1.chunkId fun hit => hit.getD ranked.1

/-- The loop over the lists, each hit with its position from one. -/
def fuseLists (k : ℤ) (lists : List (List RetrievalHit)) : FusionState :=
  lists.foldl (fun state hits => (hits.zipIdx 1).foldl (fuseHit k) state) {}

namespace FusionState

variable (state : FusionState)

/-- `scores[chunk_id]` -/
def score (id : Uuid) : ℚ := (state.scores.lookup id).getD 0

/-- The order of `sorted`: by descending score, then by the text of the identifier. -/
def Before (a b : RetrievalHit) : Prop :=
  state.score b.chunkId < state.score a.chunkId ∨
    state.score a.chunkId = state.score b.chunkId ∧ a.chunkId.str ≤ b.chunkId.str

instance : DecidableRel state.Before := fun _ _ => inferInstanceAs (Decidable (_ ∨ _))

/-- The merged hits in their order. -/
def ordered : List RetrievalHit := (state.merged.map (·.2)).insertionSort state.Before

/-- A merged hit as a fused one. -/
def fusedHit (ranked : RetrievalHit × ℕ) : RetrievalHit :=
  { ranked.1 with
    source := .fused
    score := state.score ranked.1.chunkId
    rank := ranked.2 + 1
    contributingRanks := (state.ranks.lookup ranked.1.chunkId).getD []
    contributingScores := (state.sourceScores.lookup ranked.1.chunkId).getD []
    rankPositive := Nat.succ_le_succ (Nat.zero_le _) }

end FusionState

/-- `reciprocal_rank_fusion(ranked_lists, limit=..., k=...)` -/
def reciprocalRankFusion (lists : List (List RetrievalHit)) (limit k : ℤ) :
    Raises (List RetrievalHit) :=
  if limit < 1 then .ok []
  else if k < 1 then .error (.value "k must be positive")
  else .ok (((fuseLists k lists).ordered.take limit.toNat).zipIdx.map (fuseLists k lists).fusedHit)

/-! ## What the dictionaries hold -/

/-- The hits of all lists, each with its position. -/
def rankedHits (lists : List (List RetrievalHit)) : List (RetrievalHit × ℕ) :=
  lists.flatMap fun hits => hits.zipIdx 1

/-- The rank of a chunk in one list. -/
def rankIn (id : Uuid) (hits : List RetrievalHit) : Option (RetrievalHit × ℕ) :=
  (hits.zipIdx 1).find? (·.1.chunkId = id)

/-- What one list adds to the score of a chunk. -/
def reciprocal (k : ℤ) (id : Uuid) (hits : List RetrievalHit) : ℚ :=
  ((rankIn id hits).map fun ranked => 1 / ((k : ℚ) + (ranked.2 : ℚ))).getD 0

/-- **The sum of the reciprocals of the ranks of a chunk.** -/
def fusedScore (k : ℤ) (lists : List (List RetrievalHit)) (id : Uuid) : ℚ :=
  (lists.map (reciprocal k id)).sum

/-- Lists that can be fused: a list names a chunk once, and two lists have no source in common. -/
structure Fusible (lists : List (List RetrievalHit)) : Prop where
  distinct : ∀ hits ∈ lists, (hits.map (·.chunkId)).Nodup
  sources : lists.Pairwise fun hits others =>
    ∀ hit ∈ hits, ∀ other ∈ others, hit.source ≠ other.source

section Dictionaries

variable {k : ℤ} {lists : List (List RetrievalHit)} {id : Uuid}

theorem fuseLists_eq (k : ℤ) (lists : List (List RetrievalHit)) :
    fuseLists k lists = (rankedHits lists).foldl (fuseHit k) {} := by
  rw [fuseLists, rankedHits, List.foldl_flatMap]

/-- Each dictionary of the loop is updated apart from the others. -/
theorem foldl_fuseHit (k : ℤ) (ranked : List (RetrievalHit × ℕ)) (state : FusionState) :
    (ranked.foldl (fuseHit k) state).merged = altersFrom state.merged
        (ranked.map fun hit => (hit.1.chunkId, fun known => known.getD hit.1)) ∧
      (ranked.foldl (fuseHit k) state).scores = altersFrom state.scores
        (ranked.map fun hit => (hit.1.chunkId, fun score =>
          score.getD 0 + 1 / ((k : ℚ) + (hit.2 : ℚ)))) ∧
      (ranked.foldl (fuseHit k) state).ranks = altersFrom state.ranks
        (ranked.map fun hit => (hit.1.chunkId, fun known =>
          alter (known.getD []) hit.1.source fun _ => hit.2)) ∧
      (ranked.foldl (fuseHit k) state).sourceScores = altersFrom state.sourceScores
        (ranked.map fun hit => (hit.1.chunkId, fun known =>
          alter (known.getD []) hit.1.source fun _ => hit.1.score)) := by
  induction ranked generalizing state with
  | nil => exact ⟨rfl, rfl, rfl, rfl⟩
  | cons hit ranked ih => exact ih (fuseHit k state hit)

/-- Where a chunk is ranked, list by list. -/
theorem filter_rankedHits (hdistinct : ∀ hits ∈ lists, (hits.map (·.chunkId)).Nodup) (id : Uuid) :
    (rankedHits lists).filter (·.1.chunkId = id) =
      lists.flatMap fun hits => (rankIn id hits).toList := by
  rw [rankedHits, List.filter_flatMap]
  apply List.flatMap_congr
  intro hits hmem
  apply filter_key_eq
  have hids := hdistinct hits hmem
  rw [← List.zipIdx_map_fst 1 hits, List.map_map] at hids
  exact hids

theorem sum_flatMap {α : Type} (f : α → List ℚ) (l : List α) :
    (l.flatMap f).sum = (l.map fun a => (f a).sum).sum := by
  rw [List.flatMap, List.sum_flatten, List.map_map]
  rfl

/-- A loop that adds to a score. -/
theorem foldl_score {α : Type} (weight : α → ℚ) (added : List α) (start : Option ℚ) :
    (added.foldl (fun score hit => some (score.getD 0 + weight hit)) start).getD 0 =
      start.getD 0 + (added.map weight).sum := by
  induction added generalizing start with
  | nil => simp
  | cons hit added ih =>
    rw [List.foldl_cons, ih, List.map_cons, List.sum_cons, Option.getD_some, add_assoc]

/-- **The dictionary of the scores holds the sums.** -/
theorem lookup_scores (hdistinct : ∀ hits ∈ lists, (hits.map (·.chunkId)).Nodup) (id : Uuid) :
    (fuseLists k lists).score id = fusedScore k lists id := by
  rw [FusionState.score, fuseLists_eq, (foldl_fuseHit k _ _).2.1, lookup_altersFrom,
    List.filter_map, List.foldl_map]
  change (((rankedHits lists).filter (·.1.chunkId = id)).foldl _ none).getD 0 = _
  rw [filter_rankedHits hdistinct, foldl_score (fun hit : RetrievalHit × ℕ =>
    1 / ((k : ℚ) + (hit.2 : ℚ))), Option.getD_none, zero_add, List.map_flatMap]
  rw [fusedScore, sum_flatMap]
  congr 1
  apply List.map_congr_left
  intro hits _
  rw [reciprocal]
  cases rankIn id hits <;> simp

/-- A loop that assigns in an inner dictionary. -/
theorem foldl_assigned {α β γ : Type} [DecidableEq β] (key : α → β) (value : α → γ) (added : List α)
    (start : Option (List (β × γ))) :
    (added.foldl (fun known hit => some (alter (known.getD []) (key hit) fun _ => value hit))
        start).getD [] =
      altersFrom (start.getD []) (added.map fun hit => (key hit, fun _ => value hit)) := by
  induction added generalizing start with
  | nil => rfl
  | cons hit added ih =>
    rw [List.foldl_cons, ih]
    rfl

/-- The occurrences of one chunk have distinct sources. -/
theorem nodup_sources (hfusible : Fusible lists) (id : Uuid) :
    (((rankedHits lists).filter (·.1.chunkId = id)).map (·.1.source)).Nodup := by
  rw [filter_rankedHits hfusible.distinct, List.map_flatMap, List.nodup_flatMap]
  constructor
  · intro hits _
    cases rankIn id hits with
    | none => exact List.nodup_nil
    | some ranked => exact List.nodup_singleton _
  · refine hfusible.sources.imp ?_
    intro hits others hsources source hsource hother
    obtain ⟨ranked, hranked, rfl⟩ := List.mem_map.mp hsource
    obtain ⟨other, hother, heq⟩ := List.mem_map.mp hother
    have hmem := List.mem_of_find?_eq_some (Option.mem_toList.mp hranked)
    have hmem' := List.mem_of_find?_eq_some (Option.mem_toList.mp hother)
    exact hsources _ (List.fst_mem_of_mem_zipIdx hmem) _ (List.fst_mem_of_mem_zipIdx hmem')
      heq.symm

/-- **The dictionary of the ranks holds the rank in each list.** -/
theorem lookup_ranks (hfusible : Fusible lists) (id : Uuid) (source : RetrievalSource) (rank : ℕ) :
    (((fuseLists k lists).ranks.lookup id).getD []).lookup source = some rank ↔
      ∃ hits ∈ lists, ∃ ranked ∈ hits.zipIdx 1,
        ranked.1.chunkId = id ∧ ranked.1.source = source ∧ ranked.2 = rank := by
  rw [fuseLists_eq, (foldl_fuseHit k _ _).2.2.1, lookup_altersFrom, List.filter_map,
    List.foldl_map]
  change ((((rankedHits lists).filter (·.1.chunkId = id)).foldl (fun known hit =>
    some (alter (known.getD []) hit.1.source fun _ => hit.2)) none).getD []).lookup source = _ ↔ _
  rw [foldl_assigned (fun hit : RetrievalHit × ℕ => hit.1.source) (fun hit => hit.2)]
  change (alters _).lookup source = _ ↔ _
  rw [lookup_assigned (nodup_sources hfusible id)]
  constructor
  · rintro ⟨ranked, hranked, hsource, hrank⟩
    obtain ⟨hranked, hid⟩ := List.mem_filter.mp hranked
    obtain ⟨hits, hhits, hmem⟩ := List.mem_flatMap.mp hranked
    exact ⟨hits, hhits, ranked, hmem, of_decide_eq_true hid, hsource, hrank⟩
  · rintro ⟨hits, hhits, ranked, hmem, hid, hsource, hrank⟩
    refine ⟨ranked, ?_, hsource, hrank⟩
    exact List.mem_filter.mpr ⟨List.mem_flatMap.mpr ⟨hits, hhits, hmem⟩, decide_eq_true hid⟩

/-- The merged hits have the identifiers of the lists. -/
theorem mem_merged : id ∈ (fuseLists k lists).merged.map (·.1) ↔
    ∃ hits ∈ lists, ∃ hit ∈ hits, hit.chunkId = id := by
  rw [fuseLists_eq, (foldl_fuseHit k _ _).1, mem_keys_altersFrom, List.map_map, List.map_nil]
  constructor
  · rintro (h | h)
    · cases h
    · obtain ⟨ranked, hranked, rfl⟩ := List.mem_map.mp h
      obtain ⟨hits, hhits, hmem⟩ := List.mem_flatMap.mp hranked
      exact ⟨hits, hhits, ranked.1, List.fst_mem_of_mem_zipIdx hmem, rfl⟩
  · rintro ⟨hits, hhits, hit, hhit, rfl⟩
    right
    rw [← List.zipIdx_map_fst 1 hits] at hhit
    obtain ⟨ranked, hranked, rfl⟩ := List.mem_map.mp hhit
    exact List.mem_map.mpr ⟨ranked, List.mem_flatMap.mpr ⟨hits, hhits, hranked⟩, rfl⟩

/-- A merged hit stands at its identifier. -/
theorem merged_chunkId : ∀ entry ∈ (fuseLists k lists).merged, entry.2.chunkId = entry.1 := by
  rw [fuseLists_eq, (foldl_fuseHit k _ _).1]
  apply forall_mem_altersFrom (P := fun key (hit : RetrievalHit) => hit.chunkId = key)
  · intro entry hentry
    cases hentry
  · intro update hupdate value hvalue
    obtain ⟨ranked, -, rfl⟩ := List.mem_map.mp hupdate
    cases value with
    | none => rfl
    | some hit => exact hvalue hit rfl

theorem map_chunkId_merged : ((fuseLists k lists).merged.map (·.2)).map (·.chunkId) =
    (fuseLists k lists).merged.map (·.1) := by
  rw [List.map_map]
  exact List.map_congr_left merged_chunkId

theorem nodup_merged : ((fuseLists k lists).merged.map (·.1)).Nodup := by
  rw [fuseLists_eq, (foldl_fuseHit k _ _).1]
  exact nodup_keys_altersFrom List.nodup_nil

end Dictionaries

/-! ## The specification -/

section Specification

variable {k limit : ℤ} {lists : List (List RetrievalHit)}

/-- The order of the specification: by descending sum, then by the text of the identifier. -/
def Precedes (k : ℤ) (lists : List (List RetrievalHit)) (a b : Uuid) : Prop :=
  fusedScore k lists b < fusedScore k lists a ∨
    fusedScore k lists a = fusedScore k lists b ∧ a.str < b.str

/-- A list ranks one chunk at least as high as another. Absence ranks below presence. -/
def RankedAsHigh (hits : List RetrievalHit) (a b : Uuid) : Prop :=
  ∀ lower ∈ rankIn b hits, ∃ upper ∈ rankIn a hits, upper.2 ≤ lower.2

/-- A list ranks one chunk higher than another. -/
def RankedHigher (hits : List RetrievalHit) (a b : Uuid) : Prop :=
  ∃ upper ∈ rankIn a hits, ∀ lower ∈ rankIn b hits, upper.2 < lower.2

/-- A chunk is ranked at least as high as another in every list, and higher in one. -/
def Dominates (lists : List (List RetrievalHit)) (a b : Uuid) : Prop :=
  (∀ hits ∈ lists, RankedAsHigh hits a b) ∧ ∃ hits ∈ lists, RankedHigher hits a b

/-- What fusion returns. -/
structure FusionSpec (lists : List (List RetrievalHit)) (limit k : ℤ)
    (fused : List RetrievalHit) : Prop where
  /-- The first `limit` of the distinct identifiers in their order. -/
  first : ∃ order : List Uuid, order.Pairwise (Precedes k lists) ∧
    (∀ id, id ∈ order ↔ ∃ hits ∈ lists, ∃ hit ∈ hits, hit.chunkId = id) ∧
    fused.map (·.chunkId) = order.take limit.toNat
  ranks : fused.map (·.rank) = List.range' 1 fused.length
  scores : ∀ hit ∈ fused, hit.score = fusedScore k lists hit.chunkId
  contributing : ∀ hit ∈ fused, ∀ source rank,
    hit.contributingRanks.lookup source = some rank ↔
      ∃ hits ∈ lists, ∃ ranked ∈ hits.zipIdx 1,
        ranked.1.chunkId = hit.chunkId ∧ ranked.1.source = source ∧ ranked.2 = rank
  /-- A chunk that dominates a returned one is returned before it. -/
  dominance : ∀ earlier hit later, fused = earlier ++ hit :: later →
    ∀ id, Dominates lists id hit.chunkId → ∃ upper ∈ earlier, upper.chunkId = id

/-- Two fused hits with the same identifier, score, rank and contributing ranks. -/
structure SameFusion (a b : RetrievalHit) : Prop where
  chunkId : a.chunkId = b.chunkId
  score : a.score = b.score
  rank : a.rank = b.rank
  contributing : ∀ source, a.contributingRanks.lookup source = b.contributingRanks.lookup source

theorem precedes_trans {a b c : Uuid} (hab : Precedes k lists a b) (hbc : Precedes k lists b c) :
    Precedes k lists a c := by
  unfold Precedes at *
  rcases hab with hab | ⟨hab, hstr⟩ <;> rcases hbc with hbc | ⟨hbc, hstr'⟩
  · exact Or.inl (hbc.trans hab)
  · exact Or.inl (hbc ▸ hab)
  · exact Or.inl (hab ▸ hbc)
  · exact Or.inr ⟨hab.trans hbc, hstr.trans hstr'⟩

theorem precedes_irrefl (a : Uuid) : ¬ Precedes k lists a a := by
  rintro (h | ⟨-, h⟩)
  · exact lt_irrefl _ h
  · exact lt_irrefl _ h

instance : Std.Irrefl (Precedes k lists) := ⟨precedes_irrefl⟩

instance : Std.Antisymm (Precedes k lists) :=
  ⟨fun a _ hab hba => absurd (precedes_trans hab hba) (precedes_irrefl a)⟩

/-! ### The order -/

namespace FusionState

variable (state : FusionState)

instance : Std.Total state.Before := by
  constructor
  intro a b
  unfold FusionState.Before
  rcases lt_trichotomy (state.score a.chunkId) (state.score b.chunkId) with h | h | h
  · exact Or.inr (Or.inl h)
  · rcases le_total a.chunkId.str b.chunkId.str with hstr | hstr
    · exact Or.inl (Or.inr ⟨h, hstr⟩)
    · exact Or.inr (Or.inr ⟨h.symm, hstr⟩)
  · exact Or.inl (Or.inl h)

instance : IsTrans RetrievalHit state.Before := by
  constructor
  intro a b c hab hbc
  unfold FusionState.Before at *
  rcases hab with hab | ⟨hab, hstr⟩ <;> rcases hbc with hbc | ⟨hbc, hstr'⟩
  · exact Or.inl (hbc.trans hab)
  · exact Or.inl (hbc ▸ hab)
  · exact Or.inl (hab ▸ hbc)
  · exact Or.inr ⟨hab.trans hbc, hstr.trans hstr'⟩

theorem perm_ordered : state.ordered.Perm (state.merged.map (·.2)) := List.perm_insertionSort _ _

end FusionState

/-- The identifiers of all lists in their order. -/
def fusedOrder (k : ℤ) (lists : List (List RetrievalHit)) : List Uuid :=
  (fuseLists k lists).ordered.map (·.chunkId)

theorem perm_fusedOrder : (fusedOrder k lists).Perm ((fuseLists k lists).merged.map (·.1)) := by
  rw [← map_chunkId_merged]
  exact (FusionState.perm_ordered _).map _

theorem mem_fusedOrder {id : Uuid} :
    id ∈ fusedOrder k lists ↔ ∃ hits ∈ lists, ∃ hit ∈ hits, hit.chunkId = id :=
  perm_fusedOrder.mem_iff.trans mem_merged

/-- **The identifiers stand in the order of the specification.** -/
theorem pairwise_fusedOrder (hdistinct : ∀ hits ∈ lists, (hits.map (·.chunkId)).Nodup) :
    (fusedOrder k lists).Pairwise (Precedes k lists) := by
  have hnodup : (fusedOrder k lists).Nodup := perm_fusedOrder.nodup_iff.mpr nodup_merged
  have hsorted := List.pairwise_insertionSort (fuseLists k lists).Before
    ((fuseLists k lists).merged.map (·.2))
  rw [fusedOrder, List.Nodup, List.pairwise_map] at hnodup
  rw [fusedOrder, List.pairwise_map]
  refine (hsorted.and hnodup).imp ?_
  rintro a b ⟨hbefore, hne⟩
  unfold FusionState.Before at hbefore
  rw [lookup_scores hdistinct, lookup_scores hdistinct] at hbefore
  rcases hbefore with hlt | ⟨heq, hle⟩
  · exact Or.inl hlt
  · refine Or.inr ⟨heq, lt_of_le_of_ne hle ?_⟩
    intro hstr
    exact hne (Uuid.str_injective hstr)

/-! ### Dominance -/

theorem reciprocal_nonneg (hk : 1 ≤ k) (id : Uuid) (hits : List RetrievalHit) :
    0 ≤ reciprocal k id hits := by
  have hpos : (0 : ℚ) < (k : ℚ) := by exact_mod_cast hk
  unfold reciprocal
  cases rankIn id hits with
  | none => exact le_rfl
  | some ranked =>
    change (0 : ℚ) ≤ 1 / ((k : ℚ) + (ranked.2 : ℚ))
    positivity

theorem reciprocal_le (hk : 1 ≤ k) {hits : List RetrievalHit} {a b : Uuid}
    (h : RankedAsHigh hits a b) : reciprocal k b hits ≤ reciprocal k a hits := by
  have hpos : (0 : ℚ) < (k : ℚ) := by exact_mod_cast hk
  cases hb : rankIn b hits with
  | none =>
    have hzero : reciprocal k b hits = 0 := by rw [reciprocal, hb]; rfl
    rw [hzero]
    exact reciprocal_nonneg hk a hits
  | some lower =>
    obtain ⟨upper, ha, hle⟩ := h lower hb
    rw [reciprocal, reciprocal, hb, Option.mem_def.mp ha]
    change 1 / ((k : ℚ) + (lower.2 : ℚ)) ≤ 1 / ((k : ℚ) + (upper.2 : ℚ))
    apply one_div_le_one_div_of_le
    · positivity
    · have : (upper.2 : ℚ) ≤ lower.2 := by exact_mod_cast hle
      linarith

theorem reciprocal_lt (hk : 1 ≤ k) {hits : List RetrievalHit} {a b : Uuid}
    (h : RankedHigher hits a b) : reciprocal k b hits < reciprocal k a hits := by
  have hpos : (0 : ℚ) < (k : ℚ) := by exact_mod_cast hk
  obtain ⟨upper, ha, hlt⟩ := h
  rw [reciprocal, reciprocal, Option.mem_def.mp ha]
  cases hb : rankIn b hits with
  | none =>
    change (0 : ℚ) < 1 / ((k : ℚ) + (upper.2 : ℚ))
    positivity
  | some lower =>
    change 1 / ((k : ℚ) + (lower.2 : ℚ)) < 1 / ((k : ℚ) + (upper.2 : ℚ))
    apply one_div_lt_one_div_of_lt
    · positivity
    · have : (upper.2 : ℚ) < lower.2 := by exact_mod_cast hlt lower hb
      linarith

/-- **A chunk that dominates another has a higher sum.** -/
theorem fusedScore_lt_of_dominates (hk : 1 ≤ k) {a b : Uuid} (h : Dominates lists a b) :
    fusedScore k lists b < fusedScore k lists a := by
  obtain ⟨hevery, hits, hmem, hhigher⟩ := h
  apply List.sum_lt_sum
  · intro other hother
    exact reciprocal_le hk (hevery other hother)
  · exact ⟨hits, hmem, reciprocal_lt hk hhigher⟩

/-- A chunk that dominates another is in a list. -/
theorem exists_hit_of_dominates {a b : Uuid} (h : Dominates lists a b) :
    ∃ hits ∈ lists, ∃ hit ∈ hits, hit.chunkId = a := by
  obtain ⟨-, hits, hmem, upper, hupper, -⟩ := h
  refine ⟨hits, hmem, upper.1, ?_, ?_⟩
  · exact List.fst_mem_of_mem_zipIdx (List.mem_of_find?_eq_some hupper)
  · have := List.find?_some hupper
    exact of_decide_eq_true this

/-- What comes before an element of a sorted list. -/
theorem mem_before_of_precedes {earlier later : List Uuid} {a b : Uuid}
    (hsorted : (earlier ++ b :: later).Pairwise (Precedes k lists))
    (ha : a ∈ earlier ++ b :: later) (hab : Precedes k lists a b) : a ∈ earlier := by
  rcases List.mem_append.mp ha with h | h
  · exact h
  · exfalso
    rcases List.mem_cons.mp h with rfl | h
    · exact precedes_irrefl _ hab
    · have hba := List.rel_of_pairwise_cons (List.pairwise_append.mp hsorted).2.1 h
      exact precedes_irrefl _ (precedes_trans hab hba)

/-! ### The fused list -/

/-- The hits that are returned. -/
def fusedHits (k limit : ℤ) (lists : List (List RetrievalHit)) : List RetrievalHit :=
  ((fuseLists k lists).ordered.take limit.toNat).zipIdx.map (fuseLists k lists).fusedHit

theorem map_chunkId_fusedHits :
    (fusedHits k limit lists).map (·.chunkId) = (fusedOrder k lists).take limit.toNat := by
  rw [fusedHits, List.map_map, fusedOrder, ← List.map_take]
  conv_rhs => rw [← List.zipIdx_map_fst 0 ((fuseLists k lists).ordered.take limit.toNat)]
  rw [List.map_map]
  rfl

theorem map_rank_fusedHits :
    (fusedHits k limit lists).map (·.rank) = List.range' 1 (fusedHits k limit lists).length := by
  have hlength : (fusedHits k limit lists).length =
      ((fuseLists k lists).ordered.take limit.toNat).length := by
    rw [fusedHits, List.length_map, List.length_zipIdx]
  rw [hlength, fusedHits, List.map_map]
  have hsucc := List.map_add_range' (a := 1) 0
    ((fuseLists k lists).ordered.take limit.toNat).length 1
  rw [← List.zipIdx_map_snd, List.map_map] at hsucc
  rw [← hsucc]
  apply List.map_congr_left
  intro ranked _
  exact Nat.add_comm _ _

/-- A returned hit has the score and the ranks of its chunk. -/
theorem mem_fusedHits {hit : RetrievalHit} (h : hit ∈ fusedHits k limit lists) :
    hit.score = (fuseLists k lists).score hit.chunkId ∧
      hit.contributingRanks = ((fuseLists k lists).ranks.lookup hit.chunkId).getD [] := by
  obtain ⟨ranked, -, rfl⟩ := List.mem_map.mp h
  exact ⟨rfl, rfl⟩

/-- A merged hit is a hit of a list. -/
theorem exists_hit_of_mem_merged : ∀ entry ∈ (fuseLists k lists).merged,
    ∃ hits ∈ lists, entry.2 ∈ hits := by
  rw [fuseLists_eq, (foldl_fuseHit k _ _).1]
  apply forall_mem_altersFrom (P := fun _ (hit : RetrievalHit) => ∃ hits ∈ lists, hit ∈ hits)
  · intro entry hentry
    cases hentry
  · intro update hupdate value hvalue
    obtain ⟨ranked, hranked, rfl⟩ := List.mem_map.mp hupdate
    cases value with
    | none =>
      obtain ⟨hits, hhits, hmem⟩ := List.mem_flatMap.mp hranked
      exact ⟨hits, hhits, List.fst_mem_of_mem_zipIdx hmem⟩
    | some hit => exact hvalue hit rfl

/-- **A returned hit has the chunk of a hit of a list**, with its document, version and text. -/
theorem exists_origin {hit : RetrievalHit} (h : hit ∈ fusedHits k limit lists) :
    ∃ hits ∈ lists, ∃ origin ∈ hits, hit.chunkId = origin.chunkId ∧
      hit.documentId = origin.documentId ∧ hit.documentVersion = origin.documentVersion ∧
      hit.text = origin.text := by
  obtain ⟨ranked, hranked, rfl⟩ := List.mem_map.mp h
  have hordered := List.mem_of_mem_take (List.fst_mem_of_mem_zipIdx hranked)
  obtain ⟨entry, hentry, heq⟩ :=
    List.mem_map.mp ((FusionState.perm_ordered _).mem_iff.mp hordered)
  obtain ⟨hits, hhits, horigin⟩ := exists_hit_of_mem_merged entry hentry
  rw [heq] at horigin
  exact ⟨hits, hhits, ranked.1, horigin, rfl, rfl, rfl, rfl⟩

theorem fusionSpec_fusedHits (hk : 1 ≤ k) (hfusible : Fusible lists) :
    FusionSpec lists limit k (fusedHits k limit lists) where
  first := ⟨fusedOrder k lists, pairwise_fusedOrder hfusible.distinct, fun _ => mem_fusedOrder,
    map_chunkId_fusedHits⟩
  ranks := map_rank_fusedHits
  scores hit hhit := (mem_fusedHits hhit).1.trans (lookup_scores hfusible.distinct _)
  contributing hit hhit source rank := by
    rw [(mem_fusedHits hhit).2]
    exact lookup_ranks hfusible _ _ _
  dominance earlier hit later hfused id hdominates := by
    have hids : (fusedHits k limit lists).map (·.chunkId) = _ := map_chunkId_fusedHits
    rw [hfused, List.map_append, List.map_cons] at hids
    have hsorted := pairwise_fusedOrder (k := k) hfusible.distinct
    have hmem := (mem_fusedOrder (k := k)).mpr (exists_hit_of_dominates hdominates)
    rw [← List.take_append_drop limit.toNat (fusedOrder k lists), ← hids, List.append_assoc,
      List.cons_append] at hsorted hmem
    have hbefore := mem_before_of_precedes hsorted hmem
      (Or.inl (fusedScore_lt_of_dominates hk hdominates))
    obtain ⟨upper, hupper, heq⟩ := List.mem_map.mp hbefore
    exact ⟨upper, hupper, heq⟩

/-! ### Reordered lists -/

theorem Fusible.perm {reordered : List (List RetrievalHit)} (hfusible : Fusible lists)
    (hperm : lists.Perm reordered) : Fusible reordered where
  distinct hits hhits := hfusible.distinct hits (hperm.mem_iff.mpr hhits)
  sources := by
    refine hperm.pairwise hfusible.sources ?_
    intro hits others h other hother hit hhit heq
    exact h hit hhit other hother heq.symm

/-- The sums do not depend on the order of the lists. -/
theorem fusedScore_perm {reordered : List (List RetrievalHit)} (hperm : lists.Perm reordered)
    (id : Uuid) : fusedScore k reordered id = fusedScore k lists id :=
  ((hperm.map _).sum_eq).symm

theorem precedes_perm {reordered : List (List RetrievalHit)} (hperm : lists.Perm reordered) :
    Precedes k reordered = Precedes k lists := by
  funext a b
  rw [Precedes, fusedScore_perm hperm, fusedScore_perm hperm]
  rfl

/-- **What meets the specification of reordered lists is the same fused list.** -/
theorem FusionSpec.same {reordered : List (List RetrievalHit)} {fused refused : List RetrievalHit}
    (hperm : lists.Perm reordered) (h : FusionSpec lists limit k fused)
    (h' : FusionSpec reordered limit k refused) : List.Forall₂ SameFusion fused refused := by
  obtain ⟨order, hsorted, hmem, hfirst⟩ := h.first
  obtain ⟨order', hsorted', hmem', hfirst'⟩ := h'.first
  rw [precedes_perm hperm] at hsorted'
  have horder : order = order' := by
    apply hsorted.eq_of_mem_iff hsorted'
    intro id
    rw [hmem, hmem']
    simp only [hperm.mem_iff]
  have hids : fused.map (·.chunkId) = refused.map (·.chunkId) := by
    rw [hfirst, hfirst', horder]
  have hlength : fused.length = refused.length := by
    simpa using congrArg List.length hids
  have hranks : fused.map (·.rank) = refused.map (·.rank) := by
    rw [h.ranks, h'.ranks, hlength]
  rw [List.forall₂_iff_get]
  refine ⟨hlength, ?_⟩
  intro i hi hi'
  have hid : (fused.get ⟨i, hi⟩).chunkId = (refused.get ⟨i, hi'⟩).chunkId := by
    have := List.getElem_of_eq hids (i := i) (by simpa using hi)
    simpa using this
  constructor
  · exact hid
  · rw [h.scores _ (List.get_mem _ _), h'.scores _ (List.get_mem _ _), fusedScore_perm hperm, hid]
  · have := List.getElem_of_eq hranks (i := i) (by simpa using hi)
    simpa using this
  · intro source
    apply Option.ext
    intro rank
    rw [h.contributing _ (List.get_mem _ _), h'.contributing _ (List.get_mem _ _), hid]
    simp only [hperm.mem_iff]

/-- **The fused list is as specified, and does not depend on the order of the lists.** -/
theorem fusion_spec (hlimit : 1 ≤ limit) (hk : 1 ≤ k) (hfusible : Fusible lists) :
    ∃ fused, reciprocalRankFusion lists limit k = .ok fused ∧ FusionSpec lists limit k fused ∧
      ∀ reordered, lists.Perm reordered →
        ∃ refused, reciprocalRankFusion reordered limit k = .ok refused ∧
          List.Forall₂ SameFusion fused refused := by
  have hreturns : ∀ lists, reciprocalRankFusion lists limit k = .ok (fusedHits k limit lists) := by
    intro lists
    rw [reciprocalRankFusion, if_neg (not_lt.mpr hlimit), if_neg (not_lt.mpr hk)]
    rfl
  refine ⟨_, hreturns lists, fusionSpec_fusedHits hk hfusible, ?_⟩
  intro reordered hperm
  exact ⟨_, hreturns reordered, (fusionSpec_fusedHits hk hfusible).same hperm
    (fusionSpec_fusedHits hk (hfusible.perm hperm))⟩

end Specification

/-- A hit of the corpus `corpus-1`. -/
def policyHit (id : Uuid) (source : RetrievalSource) : RetrievalHit where
  chunkId := id
  documentId := Uuid.repeated 7
  documentVersion := "policy-1"
  text := "Refunds take five days"
  score := 1
  source := source
  corpusVersion := "corpus-1"
  rank := 1
  textNonempty := by decide
  corpusVersionLength := by decide
  rankPositive := Nat.le_refl 1

/-- Two lists of the policies `1` and `2`, the first one only in the second list. -/
def policyHits : List (List RetrievalHit) :=
  [[policyHit (Uuid.repeated 2) .keyword],
    [policyHit (Uuid.repeated 1) .vector, policyHit (Uuid.repeated 2) .vector]]

theorem fusible_policyHits : Fusible policyHits where
  distinct := by decide
  sources := by
    unfold policyHits
    rw [List.pairwise_pair]
    intro hit hhit other hother
    rw [List.mem_singleton.mp hhit]
    rcases List.mem_cons.mp hother with rfl | hother
    · decide
    · rw [List.mem_singleton.mp hother]
      decide

/-- `fusion_spec` on two lists. -/
theorem fusion_spec_two :
    ∃ fused, reciprocalRankFusion policyHits 5 60 = .ok fused ∧ FusionSpec policyHits 5 60 fused ∧
      ∀ reordered, policyHits.Perm reordered →
        ∃ refused, reciprocalRankFusion reordered 5 60 = .ok refused ∧
          List.Forall₂ SameFusion fused refused :=
  fusion_spec (by decide) (by decide) fusible_policyHits

end ObservabilityLab
