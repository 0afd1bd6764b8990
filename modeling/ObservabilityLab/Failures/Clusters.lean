import ObservabilityLab.Failures.Grouping

/-!
# The clusters of failure candidates

A grouping is a density clustering of its candidates, whatever their order.

## Main definitions

* `Near`, `Core`, `CoreChain`: candidates within epsilon, candidates with enough neighbours, and
  chains of them

## Main results

* `sortedByText_eq_of_perm`: sorting by distinct identifiers does not depend on the order
* `search_isSome_of_core`: the worklist of a core candidate runs empty
* `clustering_sortedClusters`: the groups are a density clustering of the candidates
-/

namespace ObservabilityLab

open Python DensityClusters

/-! ## Sorting by text -/

section Sorting

variable {α : Type} (key : α → Uuid)

/-- **Sorting by distinct identifiers does not depend on the order.** -/
theorem sortedByText_eq_of_perm {items others : List α} (hperm : items.Perm others)
    (hdistinct : ∀ a ∈ items, ∀ b ∈ items, key a = key b → a = b) :
    sortedByText key items = sortedByText key others := by
  have htotal : Std.Total fun a b : α => (key a).str ≤ (key b).str := ⟨fun a b => le_total _ _⟩
  have htrans : IsTrans α fun a b => (key a).str ≤ (key b).str := ⟨fun a b c => le_trans⟩
  have hsorted (l : List α) : (sortedByText key l).Pairwise fun a b => (key a).str ≤ (key b).str :=
    List.pairwise_insertionSort _ _
  apply List.Perm.eq_of_pairwise _ (hsorted items) (hsorted others)
  · exact (perm_sortedByText key items).trans (hperm.trans (perm_sortedByText key others).symm)
  · intro a b ha hb hab hba
    rw [mem_sortedByText] at ha hb
    exact hdistinct a ha b (hperm.mem_iff.mpr hb) (Uuid.str_injective (le_antisymm hab hba))

end Sorting

/-! ## Lookups by identifier -/

section Lookups

variable {ordered : List FailureCandidate} {candidate other : FailureCandidate}

theorem mem_of_byId {candidateId : Uuid} (h : byId ordered candidateId = some candidate) :
    candidate ∈ ordered ∧ candidate.candidateId = candidateId := by
  have hfound := List.find?_some h
  rw [decide_eq_true_eq] at hfound
  exact ⟨List.mem_reverse.mp (List.mem_of_find?_eq_some h), hfound⟩

/-- Candidates with distinct identifiers. -/
def DistinctIds (candidates : List FailureCandidate) : Prop :=
  (candidates.map (·.candidateId)).Nodup

theorem DistinctIds.eq_of_id (h : DistinctIds ordered) (hcandidate : candidate ∈ ordered)
    (hother : other ∈ ordered) (hid : candidate.candidateId = other.candidateId) :
    candidate = other :=
  List.inj_on_of_nodup_map h hcandidate hother hid

theorem byId_of_mem (h : DistinctIds ordered) (hcandidate : candidate ∈ ordered) :
    byId ordered candidate.candidateId = some candidate := by
  cases hfind : byId ordered candidate.candidateId with
  | none =>
    have hnone := List.find?_eq_none.mp hfind candidate (List.mem_reverse.mpr hcandidate)
    simp at hnone
  | some found =>
    obtain ⟨hfound, hid⟩ := mem_of_byId hfind
    rw [h.eq_of_id hfound hcandidate hid]

end Lookups

/-! ## Nearness -/

/-- Two candidates within epsilon. -/
def Near (candidates : List FailureCandidate) (epsilon : ℚ) (candidate other : FailureCandidate) :
    Prop :=
  candidate ∈ candidates ∧ other ∈ candidates ∧ distance candidate other ≤ epsilon

/-- A candidate with enough candidates within epsilon, itself included. -/
def Core (candidates : List FailureCandidate) (epsilon : ℚ) (minSamples : ℤ)
    (candidate : FailureCandidate) : Prop :=
  candidate ∈ candidates ∧
    minSamples ≤ candidates.countP fun other => distance candidate other ≤ epsilon

/-- A chain of core candidates with consecutive distances of at most epsilon. -/
def CoreChain (candidates : List FailureCandidate) (epsilon : ℚ) (minSamples : ℤ) :
    FailureCandidate → FailureCandidate → Prop :=
  Linked (Near candidates epsilon) (Core candidates epsilon minSamples)

section Clusters

variable {ordered candidates : List FailureCandidate} {epsilon : ℚ} {minSamples : ℤ}
  {candidate other : FailureCandidate} {seed x y : Uuid}

theorem Near.symm (h : Near candidates epsilon candidate other) :
    Near candidates epsilon other candidate := by
  obtain ⟨hcandidate, hother, hdistance⟩ := h
  exact ⟨hother, hcandidate, distance_comm candidate other ▸ hdistance⟩

/-- A core candidate is within epsilon of itself, also when a feature is not finite. -/
theorem Core.near_self (hmin : 1 ≤ minSamples) (h : Core candidates epsilon minSamples candidate) :
    Near candidates epsilon candidate candidate := by
  have hpositive : 0 < candidates.countP fun other => distance candidate other ≤ epsilon := by
    have hcount := h.2
    omega
  obtain ⟨other, -, hother⟩ := List.countP_pos_iff.mp hpositive
  rw [decide_eq_true_eq] at hother
  exact ⟨h.1, h.1, (distance_self_le candidate other).trans hother⟩

/-- The candidates in another order. -/
theorem near_perm (hperm : candidates.Perm ordered) :
    Near candidates epsilon = Near ordered epsilon := by
  funext candidate other
  simp only [Near, hperm.mem_iff]

theorem core_perm (hperm : candidates.Perm ordered) :
    Core candidates epsilon minSamples = Core ordered epsilon minSamples := by
  funext candidate
  simp only [Core, hperm.mem_iff, hperm.countP_eq]

/-! ## The identifiers of the candidates -/

/-- Nearness of identifiers, as the grouping computes it. -/
def NearIds (ordered : List FailureCandidate) (epsilon : ℚ) (x y : Uuid) : Prop :=
  y ∈ neighbours ordered epsilon x

theorem nearIds_iff (hdistinct : DistinctIds ordered) : NearIds ordered epsilon x y ↔
    ∃ candidate other, candidate.candidateId = x ∧ other.candidateId = y ∧
      Near ordered epsilon candidate other := by
  unfold NearIds neighbours
  constructor
  · intro h
    cases hfind : byId ordered x with
    | none =>
      rw [hfind] at h
      exact absurd h List.not_mem_nil
    | some candidate =>
      rw [hfind] at h
      obtain ⟨other, hother, rfl⟩ := List.mem_map.mp h
      rw [List.mem_filter, decide_eq_true_eq] at hother
      obtain ⟨hcandidate, rfl⟩ := mem_of_byId hfind
      exact ⟨candidate, other, rfl, rfl, hcandidate, hother.1, hother.2⟩
  · rintro ⟨candidate, other, rfl, rfl, hcandidate, hother, hdistance⟩
    rw [byId_of_mem hdistinct hcandidate]
    apply List.mem_map_of_mem
    rw [List.mem_filter, decide_eq_true_eq]
    exact ⟨hother, hdistance⟩

theorem isCore_iff (hdistinct : DistinctIds ordered) : isCore ordered epsilon minSamples x = true ↔
    ∃ candidate, candidate.candidateId = x ∧ Core ordered epsilon minSamples candidate := by
  have hlength (candidate : FailureCandidate) (hcandidate : candidate ∈ ordered) :
      (neighbours ordered epsilon candidate.candidateId).length =
        ordered.countP fun other => distance candidate other ≤ epsilon := by
    unfold neighbours
    rw [byId_of_mem hdistinct hcandidate]
    simp only [List.length_map, List.countP_eq_length_filter]
  unfold isCore
  rw [Bool.and_eq_true, decide_eq_true_eq, decide_eq_true_eq]
  constructor
  · rintro ⟨hmem, hcount⟩
    obtain ⟨candidate, hcandidate, rfl⟩ := List.mem_map.mp hmem
    rw [hlength candidate hcandidate] at hcount
    exact ⟨candidate, rfl, hcandidate, hcount⟩
  · rintro ⟨candidate, rfl, hcandidate, hcount⟩
    rw [hlength candidate hcandidate]
    exact ⟨List.mem_map_of_mem hcandidate, hcount⟩

/-- The identifiers are names of the candidates. -/
theorem names_candidateId (epsilon : ℚ) (minSamples : ℤ) (hdistinct : DistinctIds ordered) :
    Names (·.candidateId) (· ∈ ordered) (Near ordered epsilon) (Core ordered epsilon minSamples)
      (NearIds ordered epsilon) (isCore ordered epsilon minSamples · = true) where
  near_iff _ _ := nearIds_iff hdistinct
  core_iff _ := isCore_iff hdistinct
  point_of_near _ _ h := ⟨h.1, h.2.1⟩
  point_of_core _ h := h.1
  injective _ _ hcandidate hother hid := hdistinct.eq_of_id hcandidate hother hid

theorem mem_expansion : y ∈ expansion ordered epsilon minSamples x ↔
    Expands (NearIds ordered epsilon) (isCore ordered epsilon minSamples · = true) x y := by
  unfold expansion Expands NearIds
  split
  case isTrue hcore => rw [mem_sortedByText, and_iff_right hcore]
  case isFalse hcore =>
    constructor
    · intro h
      exact absurd h List.not_mem_nil
    · intro h
      exact absurd h.1 hcore

theorem length_expansion_le :
    (expansion ordered epsilon minSamples x).length ≤ ordered.length := by
  unfold expansion
  split
  · rw [(perm_sortedByText id _).length_eq]
    unfold neighbours
    split
    · rw [List.length_map]
      exact List.length_filter_le _ _
    · exact Nat.zero_le _
  · exact Nat.zero_le _

/-- **The worklist of a core candidate runs empty.** -/
theorem search_isSome_of_core (hdistinct : DistinctIds ordered)
    (hseed : isCore ordered epsilon minSamples seed = true) :
    (Worklist.search (expansion ordered epsilon minSamples) (ordered.length * ordered.length + 1)
      [seed] []).isSome = true := by
  have hnames := names_candidateId epsilon minSamples hdistinct
  apply Worklist.search_isSome (ordered.map (·.candidateId)).toFinset
  · intro x hx
    rw [List.mem_singleton.mp hx, List.mem_toFinset]
    obtain ⟨candidate, rfl, hcore⟩ := (hnames.core_iff seed).mp hseed
    exact List.mem_map_of_mem hcore.1
  · intro x _ y hy
    obtain ⟨-, hnear⟩ := mem_expansion.mp hy
    obtain ⟨candidate, other, rfl, rfl, hboth⟩ := (hnames.near_iff x y).mp hnear
    exact List.mem_toFinset.mpr (List.mem_map_of_mem hboth.2.1)
  · have hsum : ∑ x ∈ (ordered.map (·.candidateId)).toFinset \ List.toFinset [],
        (expansion ordered epsilon minSamples x).length ≤ ordered.length * ordered.length := by
      refine (Finset.sum_le_card_nsmul _ _ ordered.length ?_).trans ?_
      · intro x _
        exact length_expansion_le
      · rw [nsmul_eq_mul, Nat.cast_id]
        apply Nat.mul_le_mul_right
        refine (Finset.card_le_card Finset.sdiff_subset).trans ?_
        exact (List.toFinset_card_le _).trans_eq (List.length_map _)
    unfold Worklist.work
    rw [List.length_singleton]
    omega

theorem mem_expand (hdistinct : DistinctIds ordered) (hmin : 1 ≤ minSamples)
    (hseed : isCore ordered epsilon minSamples seed = true) :
    x ∈ expand ordered epsilon minSamples seed ↔
      InCluster (NearIds ordered epsilon) (isCore ordered epsilon minSamples · = true) seed x := by
  obtain ⟨found, hfound⟩ := Option.isSome_iff_exists.mp (search_isSome_of_core hdistinct hseed)
  obtain ⟨candidate, rfl, hcore⟩ := (isCore_iff hdistinct).mp hseed
  have hself : NearIds ordered epsilon candidate.candidateId candidate.candidateId :=
    (nearIds_iff hdistinct).mpr ⟨candidate, candidate, rfl, rfl, hcore.near_self hmin⟩
  have hsteps : (fun x y => y ∈ expansion ordered epsilon minSamples x) =
      Expands (NearIds ordered epsilon) (isCore ordered epsilon minSamples · = true) := by
    funext x y
    exact propext mem_expansion
  unfold expand
  rw [hfound, Option.getD_some, Worklist.mem_search hfound, hsteps]
  exact reflTransGen_expands_iff hseed hself

/-! ## The groups -/

theorem nearIds_symm (hdistinct : DistinctIds ordered) (h : NearIds ordered epsilon x y) :
    NearIds ordered epsilon y x := by
  obtain ⟨candidate, other, hx, hy, hnear⟩ := (nearIds_iff hdistinct).mp h
  exact (nearIds_iff hdistinct).mpr ⟨other, candidate, hy, hx, hnear.symm⟩

theorem nearIds_self (hdistinct : DistinctIds ordered) (hmin : 1 ≤ minSamples)
    (h : isCore ordered epsilon minSamples x = true) : NearIds ordered epsilon x x := by
  obtain ⟨candidate, rfl, hcore⟩ := (isCore_iff hdistinct).mp h
  exact (nearIds_iff hdistinct).mpr ⟨candidate, candidate, rfl, rfl, hcore.near_self hmin⟩

theorem mem_coreSeeds : x ∈ coreSeeds ordered epsilon minSamples ↔
    isCore ordered epsilon minSamples x = true := by
  unfold coreSeeds
  rw [mem_sortedByText, List.mem_filter, List.mem_dedup, and_iff_right_iff_imp]
  intro h
  unfold isCore at h
  rw [Bool.and_eq_true, decide_eq_true_eq] at h
  exact h.1

/-- The member sets are a clustering of the identifiers. -/
theorem clustering_memberSets (hdistinct : DistinctIds ordered) (hmin : 1 ≤ minSamples) :
    Clustering (NearIds ordered epsilon) (isCore ordered epsilon minSamples · = true)
      (memberSets ordered epsilon minSamples) := by
  apply clustering_clusters
  · intro x y
    exact nearIds_symm hdistinct
  · intro x
    exact nearIds_self hdistinct hmin
  · intro x
    exact mem_coreSeeds
  · intro seed hseed x
    exact mem_expand hdistinct hmin hseed

theorem mem_clusterOf (hdistinct : DistinctIds ordered) {members : List Uuid} :
    candidate ∈ clusterOf ordered members ↔
      candidate ∈ ordered ∧ candidate.candidateId ∈ members := by
  unfold clusterOf
  rw [List.mem_filterMap]
  constructor
  · rintro ⟨x, hx, hfind⟩
    obtain ⟨hcandidate, rfl⟩ := mem_of_byId hfind
    exact ⟨hcandidate, (mem_sortedByText id).mp hx⟩
  · rintro ⟨hcandidate, hmem⟩
    exact ⟨_, (mem_sortedByText id).mpr hmem, byId_of_mem hdistinct hcandidate⟩

theorem perm_sortedClusters : (sortedClusters ordered epsilon minSamples).Perm
    ((memberSets ordered epsilon minSamples).map (clusterOf ordered)) :=
  List.perm_insertionSort _ _

/-- The members of a group are candidates. -/
theorem mem_of_mem_sortedClusters {group : List FailureCandidate}
    (hgroup : group ∈ sortedClusters ordered epsilon minSamples) {candidate : FailureCandidate}
    (h : candidate ∈ group) : candidate ∈ ordered := by
  obtain ⟨members, -, rfl⟩ := List.mem_map.mp (perm_sortedClusters.mem_iff.mp hgroup)
  obtain ⟨id, -, hfound⟩ := List.mem_filterMap.mp h
  exact (mem_of_byId hfound).1

/-- **The groups are a density clustering of the candidates.** -/
theorem clustering_sortedClusters (hdistinct : DistinctIds ordered) (hmin : 1 ≤ minSamples) :
    Clustering (Near ordered epsilon) (Core ordered epsilon minSamples)
      (sortedClusters ordered epsilon minSamples) := by
  have hnames := names_candidateId epsilon minSamples hdistinct
  have hnamed : ∀ members ∈ memberSets ordered epsilon minSamples, ∀ candidate,
      candidate ∈ clusterOf ordered members ↔
        candidate ∈ ordered ∧ candidate.candidateId ∈ members := by
    intro members _ candidate
    exact mem_clusterOf hdistinct
  have hgroups := hnames.clustering (clustering_memberSets hdistinct hmin) hnamed
  exact hgroups.perm perm_sortedClusters.symm

/-- The assigned identifiers are those of the candidates in a group. -/
theorem mem_assigned_iff (hdistinct : DistinctIds ordered) (hcandidate : candidate ∈ ordered) :
    candidate.candidateId ∈ (memberSets ordered epsilon minSamples).flatten ↔
      ∃ group ∈ sortedClusters ordered epsilon minSamples, candidate ∈ group := by
  rw [List.mem_flatten]
  constructor
  · rintro ⟨members, hmembers, hmem⟩
    exact ⟨clusterOf ordered members,
      perm_sortedClusters.mem_iff.mpr (List.mem_map_of_mem hmembers),
      (mem_clusterOf hdistinct).mpr ⟨hcandidate, hmem⟩⟩
  · rintro ⟨group, hgroup, hmem⟩
    obtain ⟨members, hmembers, rfl⟩ := List.mem_map.mp (perm_sortedClusters.mem_iff.mp hgroup)
    exact ⟨members, hmembers, ((mem_clusterOf hdistinct).mp hmem).2⟩

/-- A group names no candidate twice. -/
theorem nodup_of_mem_sortedClusters (hdistinct : DistinctIds ordered)
    {group : List FailureCandidate}
    (hgroup : group ∈ sortedClusters ordered epsilon minSamples) : group.Nodup := by
  obtain ⟨members, hmembers, rfl⟩ := List.mem_map.mp (perm_sortedClusters.mem_iff.mp hgroup)
  obtain ⟨seed, hseed, -, rfl⟩ := exists_seed_of_mem hmembers
  have hcore := mem_coreSeeds.mp hseed
  obtain ⟨found, hfound⟩ := Option.isSome_iff_exists.mp (search_isSome_of_core hdistinct hcore)
  have hnodup : (expand ordered epsilon minSamples seed).Nodup := by
    unfold expand
    rw [hfound]
    exact Worklist.nodup_search hfound List.nodup_nil
  apply List.Nodup.filterMap _ ((perm_sortedByText id _).nodup_iff.mpr hnodup)
  intro x y candidate hx hy
  rw [← (mem_of_byId hx).2, ← (mem_of_byId hy).2]

end Clusters

end ObservabilityLab
