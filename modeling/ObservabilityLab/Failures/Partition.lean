import ObservabilityLab.Failures.Clusters

/-!
# Groups and outliers

The groups of a grouping are those of density clustering, in every order of the candidates. They
partition the candidates with the outliers exactly when no candidate is within epsilon of core
candidates of two groups: such a candidate is a member of both groups.

## Main definitions

* `DensityGroups`: the groups and the outliers of density clustering
* `Partitions`: every candidate is in one group or an outlier, the counts add up, and the
  identifiers of the groups are distinct

## Main results

* `groupCandidates_density`: a grouping returns the groups of density clustering, whatever the order
* `groupCandidates_partitions_iff`: when a grouping returns a partition
-/

namespace ObservabilityLab

open Python DensityClusters

section Returns

variable [HashFunctions] {datasetId : String} {datasetVersion : ℤ}
  {candidates others : List FailureCandidate} {epsilon : ℚ} {minSamples : ℤ}
  {result : FailureGroupResult}

/-- The groups of the candidates. -/
def groupsOf (candidates : List FailureCandidate) (epsilon : ℚ) (minSamples : ℤ) :
    List (List FailureCandidate) :=
  sortedClusters (sortedByText (·.candidateId) candidates) epsilon minSamples

/-- The outliers of the candidates. -/
def outliersOf (candidates : List FailureCandidate) (epsilon : ℚ) (minSamples : ℤ) :
    List FailureCandidate :=
  (sortedByText (·.candidateId) candidates).filter fun candidate => candidate.candidateId ∉
    (memberSets (sortedByText (·.candidateId) candidates) epsilon minSamples).flatten

/-- What a grouping that returned has checked and returns. -/
theorem groupCandidates_eq_ok
    (h : groupCandidates datasetId datasetVersion candidates epsilon minSamples = .ok result) :
    0 ≤ epsilon ∧ 1 ≤ minSamples ∧ result.groups = groupsOf candidates epsilon minSamples ∧
      result.outliers = outliersOf candidates epsilon minSamples := by
  unfold groupCandidates at h
  obtain ⟨hepsilon, h⟩ := check_bind_eq_ok.mp h
  obtain ⟨hmin, h⟩ := check_bind_eq_ok.mp h
  obtain ⟨metrics, -, h⟩ := bind_eq_ok.mp h
  obtain ⟨-, h⟩ := check_bind_eq_ok.mp h
  rw [raiseIf_eq_ok, decide_eq_false_iff_not, not_lt] at hepsilon hmin
  obtain rfl := Except.ok.inj h
  exact ⟨hepsilon, hmin, rfl, rfl⟩

variable (datasetId datasetVersion candidates epsilon minSamples) in
/-- What a grouping with valid metrics returns. -/
def groupingResult : FailureGroupResult where
  datasetId := datasetId
  datasetVersion := datasetVersion
  configuration := ⟨epsilon, minSamples⟩
  groups := groupsOf candidates epsilon minSamples
  outliers := outliersOf candidates epsilon minSamples
  stableGroupIds := (groupsOf candidates epsilon minSamples).map fun group =>
    stableGroupId datasetId datasetVersion (group.map (·.candidateId))
  metrics := groupingMetrics (sortedByText (·.candidateId) candidates)
    (groupsOf candidates epsilon minSamples) (outliersOf candidates epsilon minSamples)

omit [HashFunctions] in
/-- The metrics are valid when the groups do not count a candidate twice. -/
theorem groupingMetrics_new {groups : List (List FailureCandidate)}
    {outliers : List FailureCandidate}
    (hgrouped : (groups.map (·.length)).sum ≤ candidates.length) :
    (groupingMetrics candidates groups outliers).new =
      .ok (groupingMetrics candidates groups outliers) := by
  unfold FailureGroupingMetrics.new
  apply check_bind_eq_ok.mpr
  refine ⟨checkField_eq_ok.mpr ?_, rfl⟩
  unfold groupingMetrics
  dsimp only
  split
  case isTrue => exact PyFloat.ofRat_mem_unit le_rfl zero_le_one
  case isFalse hcandidates =>
    have hpositive : (0 : ℚ) < candidates.length :=
      Nat.cast_pos.mpr (List.length_pos_iff.mpr hcandidates)
    apply PyFloat.ofRat_mem_unit
    · positivity
    · rw [div_le_one hpositive]
      exact Nat.cast_le.mpr hgrouped

theorem groupCandidates_returns (hepsilon : 0 ≤ epsilon) (hmin : 1 ≤ minSamples)
    (hversion : 1 ≤ datasetVersion)
    (hgrouped : ((groupsOf candidates epsilon minSamples).map (·.length)).sum ≤ candidates.length) :
    groupCandidates datasetId datasetVersion candidates epsilon minSamples =
      .ok (groupingResult datasetId datasetVersion candidates epsilon minSamples) := by
  have hlength : (sortedByText (·.candidateId) candidates).length = candidates.length :=
    (perm_sortedByText _ candidates).length_eq
  unfold groupCandidates
  apply check_bind_eq_ok.mpr
  refine ⟨raiseIf_eq_ok.mpr (decide_eq_false (not_lt.mpr hepsilon)), ?_⟩
  apply check_bind_eq_ok.mpr
  refine ⟨raiseIf_eq_ok.mpr (decide_eq_false (not_lt.mpr hmin)), ?_⟩
  apply bind_eq_ok.mpr
  refine ⟨_, groupingMetrics_new (hgrouped.trans_eq hlength.symm), ?_⟩
  exact check_bind_eq_ok.mpr ⟨checkField_eq_ok.mpr (decide_eq_true hversion), rfl⟩

end Returns

section Clustering

variable {candidates others : List FailureCandidate} {epsilon : ℚ} {minSamples : ℤ}
  {candidate other : FailureCandidate}

theorem DistinctIds.sorted (h : DistinctIds candidates) :
    DistinctIds (sortedByText (·.candidateId) candidates) :=
  ((perm_sortedByText _ candidates).map _).nodup_iff.mpr h

theorem clustering_groupsOf (epsilon : ℚ) (h : DistinctIds candidates) (hmin : 1 ≤ minSamples) :
    Clustering (Near candidates epsilon) (Core candidates epsilon minSamples)
      (groupsOf candidates epsilon minSamples) := by
  have hperm := perm_sortedByText (·.candidateId) candidates
  rw [← near_perm hperm, ← core_perm hperm]
  exact clustering_sortedClusters h.sorted hmin

/-- **The outliers are the candidates near no core candidate.** -/
theorem mem_outliersOf (h : DistinctIds candidates) (hmin : 1 ≤ minSamples) :
    candidate ∈ outliersOf candidates epsilon minSamples ↔
      candidate ∈ candidates ∧ ¬ ∃ core, Core candidates epsilon minSamples core ∧
        Near candidates epsilon core candidate := by
  unfold outliersOf
  rw [List.mem_filter, decide_eq_true_eq, mem_sortedByText, and_congr_right_iff]
  intro hcandidate
  rw [mem_assigned_iff h.sorted ((mem_sortedByText _).mpr hcandidate),
    ← (clustering_groupsOf _ h hmin).covered_iff]
  exact Iff.rfl

/-- The members of the groups are candidates. -/
theorem mem_of_mem_groupsOf (h : DistinctIds candidates) (hmin : 1 ≤ minSamples)
    {group : List FailureCandidate} (hgroup : group ∈ groupsOf candidates epsilon minSamples)
    (hmem : candidate ∈ group) : candidate ∈ candidates := by
  obtain ⟨core, -, hnear⟩ := (clustering_groupsOf _ h hmin).covered_iff.mp ⟨group, hgroup, hmem⟩
  exact hnear.2.1

/-- Every group has a core candidate. -/
theorem exists_core_mem (h : DistinctIds candidates) (hmin : 1 ≤ minSamples)
    {group : List FailureCandidate} (hgroup : group ∈ groupsOf candidates epsilon minSamples) :
    ∃ core ∈ group, Core candidates epsilon minSamples core := by
  obtain ⟨seed, hseed, hmem⟩ := (clustering_groupsOf _ h hmin).of_seed group hgroup
  refine ⟨seed, (hmem seed).mpr ?_, hseed⟩
  exact ⟨seed, Relation.ReflTransGen.refl, hseed, hseed.near_self hmin⟩

theorem nodup_groupsOf (h : DistinctIds candidates) {group : List FailureCandidate}
    (hgroup : group ∈ groupsOf candidates epsilon minSamples) : group.Nodup :=
  nodup_of_mem_sortedClusters h.sorted hgroup

/-- Without a shared border the groups and the outliers have every candidate once. -/
theorem perm_groups_outliers (h : DistinctIds candidates) (hmin : 1 ≤ minSamples)
    (hdisjoint : (groupsOf candidates epsilon minSamples).Pairwise List.Disjoint) :
    ((groupsOf candidates epsilon minSamples).flatten ++
      outliersOf candidates epsilon minSamples).Perm candidates := by
  have hclustering := clustering_groupsOf epsilon h hmin
  have hgroups : (groupsOf candidates epsilon minSamples).flatten.Nodup :=
    List.nodup_flatten.mpr ⟨fun group hgroup => nodup_groupsOf h hgroup, hdisjoint⟩
  have houtliers : (outliersOf candidates epsilon minSamples).Nodup :=
    List.Nodup.filter _ (List.Nodup.of_map _ h.sorted)
  have hcovered (candidate : FailureCandidate) :
      candidate ∈ (groupsOf candidates epsilon minSamples).flatten ↔
        ∃ core, Core candidates epsilon minSamples core ∧
          Near candidates epsilon core candidate := by
    rw [List.mem_flatten, ← hclustering.covered_iff]
  rw [List.perm_ext_iff_of_nodup]
  · intro candidate
    rw [List.mem_append, hcovered, mem_outliersOf h hmin]
    constructor
    · rintro (⟨core, -, hnear⟩ | ⟨hcandidate, -⟩)
      · exact hnear.2.1
      · exact hcandidate
    · intro hcandidate
      exact (em _).imp_right fun hnot => ⟨hcandidate, hnot⟩
  · refine List.Nodup.append hgroups houtliers ?_
    intro candidate hgroup houtlier
    exact ((mem_outliersOf h hmin).mp houtlier).2 ((hcovered candidate).mp hgroup)
  · exact List.Nodup.of_map _ h

end Clustering

/-! ## The groups of density clustering -/

/-- The groups and the outliers of density clustering. -/
structure DensityGroups (candidates : List FailureCandidate) (epsilon : ℚ) (minSamples : ℤ)
    (result : FailureGroupResult) : Prop where
  /-- A core candidate has one group. -/
  grouped : ∀ core, Core candidates epsilon minSamples core →
    ∃! group, group ∈ result.groups ∧ core ∈ group
  together : ∀ first second, Core candidates epsilon minSamples first →
    Core candidates epsilon minSamples second →
      ((∃ group ∈ result.groups, first ∈ group ∧ second ∈ group) ↔
        CoreChain candidates epsilon minSamples first second)
  border : ∀ candidate ∈ candidates, ¬ Core candidates epsilon minSamples candidate →
    ∀ group ∈ result.groups, ∀ core ∈ group, Core candidates epsilon minSamples core →
      (candidate ∈ group ↔ ∃ other ∈ group, Core candidates epsilon minSamples other ∧
        distance candidate other ≤ epsilon)
  outliers : ∀ candidate, candidate ∈ result.outliers ↔ candidate ∈ candidates ∧
    ¬ Core candidates epsilon minSamples candidate ∧
      ∀ core, Core candidates epsilon minSamples core → ¬ distance candidate core ≤ epsilon

section Density

variable {candidates others : List FailureCandidate} {epsilon : ℚ} {minSamples : ℤ}

/-- A clustering of the candidates has the groups of density clustering. -/
theorem densityGroups_of_clustering (h : DistinctIds candidates) (hmin : 1 ≤ minSamples)
    {result : FailureGroupResult} (hgroups : result.groups = groupsOf candidates epsilon minSamples)
    (houtliers : result.outliers = outliersOf candidates epsilon minSamples) :
    DensityGroups candidates epsilon minSamples result := by
  have hclustering := clustering_groupsOf epsilon h hmin
  rw [← hgroups] at hclustering
  have hsymm (first second : FailureCandidate) (hnear : Near candidates epsilon first second) :
      Near candidates epsilon second first := hnear.symm
  have hself (core : FailureCandidate) (hcore : Core candidates epsilon minSamples core) :
      Near candidates epsilon core core := hcore.near_self hmin
  constructor
  · intro core hcore
    obtain ⟨group, hgroup, hmem⟩ := hclustering.covers core hcore
    refine ⟨group, ⟨hgroup, hmem⟩, ?_⟩
    rintro other ⟨hother, hmemother⟩
    by_contra hne
    -- two groups in the list share no core candidate, in either order
    have hseparate : Std.Symm fun group other : List FailureCandidate =>
        ∀ core, Core candidates epsilon minSamples core → core ∈ group → core ∉ other :=
      ⟨fun _ _ hab core hcore hgroup hother => hab core hcore hother hgroup⟩
    exact hclustering.separate.forall hother hgroup hne core hcore hmemother hmem
  · intro first second hfirst hsecond
    exact hclustering.same_iff hsymm hfirst hsecond
  · intro candidate hcandidate _ group hgroup core _ _
    rw [hclustering.mem_iff hself hgroup]
    constructor
    · rintro ⟨other, hother, hcore, hnear⟩
      exact ⟨other, hother, hcore, hnear.symm.2.2⟩
    · rintro ⟨other, hother, hcore, hdistance⟩
      exact ⟨other, hother, hcore, Near.symm ⟨hcandidate, hcore.1, hdistance⟩⟩
  · intro candidate
    rw [houtliers, mem_outliersOf h hmin]
    constructor
    · rintro ⟨hcandidate, hnone⟩
      refine ⟨hcandidate, ?_, ?_⟩
      · intro hcore
        exact hnone ⟨candidate, hcore, hcore.near_self hmin⟩
      · intro core hcore hdistance
        exact hnone ⟨core, hcore, Near.symm ⟨hcandidate, hcore.1, hdistance⟩⟩
    · rintro ⟨hcandidate, -, hnone⟩
      refine ⟨hcandidate, ?_⟩
      rintro ⟨core, hcore, hnear⟩
      exact hnone core hcore hnear.symm.2.2

variable [HashFunctions] {datasetId : String} {datasetVersion : ℤ}

/-- A grouping does not depend on the order of the candidates. -/
theorem groupCandidates_eq_of_perm (h : DistinctIds candidates) (hperm : candidates.Perm others) :
    groupCandidates datasetId datasetVersion others epsilon minSamples =
      groupCandidates datasetId datasetVersion candidates epsilon minSamples := by
  have hsorted := sortedByText_eq_of_perm (·.candidateId) hperm
    fun first hfirst second hsecond hid => h.eq_of_id hfirst hsecond hid
  unfold groupCandidates
  rw [hsorted]

/-- **A grouping is density clustering**, and any permutation of the candidates has the same
result. -/
theorem groupCandidates_density (h : DistinctIds candidates) {result : FailureGroupResult}
    (hreturned : groupCandidates datasetId datasetVersion candidates epsilon minSamples =
      .ok result) :
    DensityGroups candidates epsilon minSamples result ∧
      ∀ others, candidates.Perm others →
        groupCandidates datasetId datasetVersion others epsilon minSamples = .ok result := by
  obtain ⟨-, hmin, hgroups, houtliers⟩ := groupCandidates_eq_ok hreturned
  refine ⟨densityGroups_of_clustering h hmin hgroups houtliers, ?_⟩
  intro others hperm
  rw [groupCandidates_eq_of_perm h hperm, hreturned]

end Density

/-! ## Partitions -/

/-- Every candidate is in exactly one group or is an outlier and not both, the counts add up, and no
two groups have the same identifier. -/
structure Partitions (candidates : List FailureCandidate) (result : FailureGroupResult) : Prop where
  one_place : ∀ candidate ∈ candidates, result.groups.countP (fun group => candidate ∈ group) +
    (if candidate ∈ result.outliers then 1 else 0) = 1
  counts : result.metrics.groupedCandidateCount + result.metrics.outlierCount = candidates.length
  distinct : result.stableGroupIds.Nodup

section Partition

variable [HashFunctions] {datasetId : String} {datasetVersion : ℤ}
  {candidates : List FailureCandidate} {epsilon : ℚ} {minSamples : ℤ}

variable (datasetId datasetVersion candidates epsilon minSamples) in
/-- The hashes of the groups do not collide: groups with one identifier have the same members. -/
def GroupHashesDistinct : Prop :=
  ∀ group ∈ groupsOf candidates epsilon minSamples,
    ∀ other ∈ groupsOf candidates epsilon minSamples,
      stableGroupId datasetId datasetVersion (group.map (·.candidateId)) =
          stableGroupId datasetId datasetVersion (other.map (·.candidateId)) →
        group.map (·.candidateId) = other.map (·.candidateId)

/-- Groups without a common core candidate have different identifiers. -/
theorem nodup_stableGroupIds (h : DistinctIds candidates) (hmin : 1 ≤ minSamples)
    (hhashes : GroupHashesDistinct datasetId datasetVersion candidates epsilon minSamples) :
    ((groupsOf candidates epsilon minSamples).map fun group =>
      stableGroupId datasetId datasetVersion (group.map (·.candidateId))).Nodup := by
  have hclustering := clustering_groupsOf epsilon h hmin
  apply List.pairwise_map.mpr
  refine hclustering.separate.imp_of_mem ?_
  intro group other hgroup hother hseparate hid
  obtain ⟨core, hmem, hcore⟩ := exists_core_mem h hmin hgroup
  have hmembers := hhashes group hgroup other hother hid
  have hcoreid : core.candidateId ∈ other.map (·.candidateId) :=
    hmembers ▸ List.mem_map_of_mem hmem
  obtain ⟨twin, htwin, hsame⟩ := List.mem_map.mp hcoreid
  have heq : twin = core := h.eq_of_id (mem_of_mem_groupsOf h hmin hother htwin) hcore.1 hsame
  exact hseparate core hcore hmem (heq ▸ htwin)

/-- Without a shared border the grouping is a partition. -/
theorem partitions_groupingResult (h : DistinctIds candidates) (hmin : 1 ≤ minSamples)
    (hhashes : GroupHashesDistinct datasetId datasetVersion candidates epsilon minSamples)
    (hdisjoint : (groupsOf candidates epsilon minSamples).Pairwise List.Disjoint) :
    Partitions candidates
      (groupingResult datasetId datasetVersion candidates epsilon minSamples) := by
  have hclustering := clustering_groupsOf epsilon h hmin
  constructor
  · intro candidate hcandidate
    change (groupsOf candidates epsilon minSamples).countP _ +
      (if candidate ∈ outliersOf candidates epsilon minSamples then 1 else 0) = 1
    have hle := pairwise_disjoint_iff_countP_le_one.mp hdisjoint candidate
    by_cases houtlier : candidate ∈ outliersOf candidates epsilon minSamples
    · have hnone : (groupsOf candidates epsilon minSamples).countP
          (fun group => candidate ∈ group) = 0 := by
        rw [List.countP_eq_zero]
        intro group hgroup hmem
        rw [decide_eq_true_eq] at hmem
        exact ((mem_outliersOf h hmin).mp houtlier).2
          (hclustering.covered_iff.mp ⟨group, hgroup, hmem⟩)
      rw [hnone, if_pos houtlier]
    · have hcovered : ∃ group ∈ groupsOf candidates epsilon minSamples, candidate ∈ group := by
        rw [hclustering.covered_iff]
        by_contra hnot
        exact houtlier ((mem_outliersOf h hmin).mpr ⟨hcandidate, hnot⟩)
      obtain ⟨group, hgroup, hmem⟩ := hcovered
      have hpositive : 0 < (groupsOf candidates epsilon minSamples).countP
          (fun group => candidate ∈ group) :=
        List.countP_pos_iff.mpr ⟨group, hgroup, decide_eq_true hmem⟩
      rw [if_neg houtlier]
      omega
  · have hlength := (perm_groups_outliers h hmin hdisjoint).length_eq
    rw [List.length_append, List.length_flatten] at hlength
    exact hlength
  · exact nodup_stableGroupIds h hmin hhashes

/-- **A grouping partitions its candidates exactly when no candidate is within epsilon of core
candidates that no chain of core candidates joins.** -/
theorem groupCandidates_partitions_iff (h : DistinctIds candidates) (hepsilon : 0 ≤ epsilon)
    (hmin : 1 ≤ minSamples) (hversion : 1 ≤ datasetVersion)
    (hhashes : GroupHashesDistinct datasetId datasetVersion candidates epsilon minSamples) :
    (∃ result,
      groupCandidates datasetId datasetVersion candidates epsilon minSamples = .ok result ∧
        Partitions candidates result) ↔
      ¬ SharedBorder (Near candidates epsilon) (Core candidates epsilon minSamples) := by
  have hclustering := clustering_groupsOf epsilon h hmin
  rw [← hclustering.disjoint_iff (fun _ _ hnear => hnear.symm) fun core hcore =>
    hcore.near_self hmin]
  constructor
  · rintro ⟨result, hreturned, hpartitions⟩
    obtain ⟨-, -, hgroups, -⟩ := groupCandidates_eq_ok hreturned
    rw [pairwise_disjoint_iff_countP_le_one]
    intro candidate
    by_cases hcandidate : candidate ∈ candidates
    · have hone := hpartitions.one_place candidate hcandidate
      rw [hgroups] at hone
      omega
    · rw [List.countP_eq_zero.mpr]
      · exact Nat.zero_le 1
      · intro group hgroup hmem
        rw [decide_eq_true_eq] at hmem
        exact hcandidate (mem_of_mem_groupsOf h hmin hgroup hmem)
  · intro hdisjoint
    refine ⟨_, ?_, partitions_groupingResult h hmin hhashes hdisjoint⟩
    apply groupCandidates_returns hepsilon hmin hversion
    have hlength := (perm_groups_outliers h hmin hdisjoint).length_eq
    rw [List.length_append, List.length_flatten] at hlength
    exact Nat.le.intro hlength

end Partition

section Example

attribute [local instance] constantHashes

/-- A tool failure after some retries. -/
def retryCandidate (digit : Fin 16) (retryCount : ℤ) : FailureCandidate where
  candidateId := .repeated digit
  evidenceId := .repeated digit
  source := ⟨"langsmith", none, "trace", none, none⟩
  predictedKind := .tool
  features := [("retry_count", .int retryCount)]
  evidenceEventIds := ["event"]
  hasEvents := List.cons_ne_nil _ _
  versionPositive _ hversion := by cases hversion

/-- Two candidates with the same features. -/
def twinCandidates : List FailureCandidate := [retryCandidate 1 3, retryCandidate 0 3]

theorem distinctIds_twins : DistinctIds twinCandidates := by
  unfold DistinctIds
  decide +kernel

theorem groupCandidates_density_twins : ∃ result,
    groupCandidates "failure_traces_v1" 1 twinCandidates (1 / 5) 2 = .ok result ∧
      DensityGroups twinCandidates (1 / 5) 2 result ∧
      groupCandidates "failure_traces_v1" 1 twinCandidates.reverse (1 / 5) 2 = .ok result ∧
      result.groups = [[retryCandidate 0 3, retryCandidate 1 3]] := by
  have hreturned : groupCandidates "failure_traces_v1" 1 twinCandidates (1 / 5) 2 =
      .ok (groupingResult "failure_traces_v1" 1 twinCandidates (1 / 5) 2) := by
    apply groupCandidates_returns (by norm_num) (by norm_num) (by norm_num)
    decide +kernel
  obtain ⟨hdensity, hpermuted⟩ := groupCandidates_density distinctIds_twins hreturned
  refine ⟨_, hreturned, hdensity, hpermuted _ (List.reverse_perm _).symm, ?_⟩
  decide +kernel

theorem groupCandidates_partitions_twins : ∃ result,
    groupCandidates "failure_traces_v1" 1 twinCandidates (1 / 5) 2 = .ok result ∧
      Partitions twinCandidates result := by
  have hhashes : GroupHashesDistinct "failure_traces_v1" 1 twinCandidates (1 / 5) 2 := by
    unfold GroupHashesDistinct
    decide +kernel
  apply (groupCandidates_partitions_iff distinctIds_twins (by norm_num) (by norm_num) (by norm_num)
    hhashes).mpr
  -- the two are within epsilon of each other, so they are linked when they are core
  rintro ⟨-, first, second, hfirst, hsecond, -, -, hnot⟩
  have hnear : ∀ first ∈ twinCandidates, ∀ second ∈ twinCandidates,
      distance first second ≤ 1 / 5 := by decide +kernel
  exact hnot (linked_of_near hfirst hsecond
    ⟨hfirst.1, hsecond.1, hnear first hfirst.1 second hsecond.1⟩)

/-- Two dense runs of retries with one candidate between them. -/
def borderCandidates : List FailureCandidate :=
  [retryCandidate 0 98, retryCandidate 1 99, retryCandidate 2 100, retryCandidate 3 102,
    retryCandidate 4 104, retryCandidate 5 105, retryCandidate 6 106]

/-- The candidate in the middle is counted in both groups, and the coverage is above one. -/
theorem groupCandidates_border_raises :
    groupCandidates "failure_traces_v1" 1 borderCandidates (1 / 50) 4 =
      .error (.validation "FailureGroupingMetrics" "coverage") := by
  decide +kernel

theorem not_partitions_border : DistinctIds borderCandidates ∧ ¬ ∃ result,
    groupCandidates "failure_traces_v1" 1 borderCandidates (1 / 50) 4 = .ok result ∧
      Partitions borderCandidates result := by
  refine ⟨?_, ?_⟩
  · unfold DistinctIds
    decide +kernel
  · rintro ⟨result, hreturned, -⟩
    rw [groupCandidates_border_raises] at hreturned
    cases hreturned

end Example

end ObservabilityLab
