import ObservabilityLab.Failures.Schemas
import ObservabilityLab.Library.DensityClusters
import ObservabilityLab.Library.Worklist
import Mathlib.Algebra.Order.BigOperators.Group.Finset
import Mathlib.Data.Finset.CastCard
import Mathlib.Data.List.Sort
import Mathlib.Tactic.Linarith

/-!
# Grouping failure candidates

The deterministic grouping of candidates: a distance on features, the neighbours of a candidate, and
one cluster for each candidate with enough neighbours, expanded by a worklist. Distances are exact.

## Main definitions

* `distance`: the share of the features in which two candidates differ
* `neighbours`, `isCore`, `expand`: the candidates within epsilon, the candidates with enough of
  them, and the cluster of a seed
* `groupCandidates`: the grouping

## Main results

* `distance_comm`, `distance_self_le`: the distance is symmetric, and no candidate is nearer to
  another one than to itself
-/

namespace ObservabilityLab

open Python

/-! ## Distances -/

/-- `isinstance(v, (int, float)) and not isinstance(v, bool)`, with the exact number, or `none` for
an infinity or NaN. -/
def Scalar.number : Scalar → Option (Option ℚ)
  | int n => some (some n)
  | float (.finite q) => some (some q.1)
  | float _ => some none
  | _ => none

/-- `min(1.0, abs(left - right) / max(1.0, abs(left), abs(right)))`, which is `1.0` when an argument
is not finite. -/
def numberDistance : Option ℚ → Option ℚ → ℚ
  | some left, some right => min 1 (|left - right| / max 1 (max |left| |right|))
  | _, _ => 1

/-- What one feature adds to a distance. -/
def featureDistance : Option Scalar → Option Scalar → ℚ
  | some left, some right =>
    match left.number, right.number with
    | some x, some y => numberDistance x y
    | _, _ => if left.eq right then 0 else 1
  | _, _ => 1

/-- The names of the features of two candidates. -/
def featureNames (first second : Features) : List String :=
  ((first ++ second).map (·.1)).dedup

/-- `_distance(first, second)` -/
def distance (first second : FailureCandidate) : ℚ :=
  let names := featureNames first.features second.features
  if names = [] then 0
  else
    (names.map fun name => featureDistance (first.features.lookup name)
      (second.features.lookup name)).sum / names.length

section Distance

theorem numberDistance_comm (left right : Option ℚ) :
    numberDistance left right = numberDistance right left := by
  cases left with
  | none => cases right <;> rfl
  | some x =>
    cases right with
    | none => rfl
    | some y =>
      simp only [numberDistance]
      rw [abs_sub_comm, max_comm |x| |y|]

theorem Scalar.eq_comm (left right : Scalar) : left.eq right = right.eq left := by
  rcases left with b | n | (_ | i | p) | s <;> rcases right with c | m | (_ | j | q) | t <;>
    simp [Scalar.eq, Scalar.toPy, PyValue.eq, PyValue.asRat, PyFloat.eq, Eq.comm]

theorem numberDistance_nonneg (left right : Option ℚ) : 0 ≤ numberDistance left right := by
  cases left with
  | none => exact zero_le_one
  | some x =>
    cases right with
    | none => exact zero_le_one
    | some y =>
      simp only [numberDistance]
      positivity

theorem featureDistance_comm (left right : Option Scalar) :
    featureDistance left right = featureDistance right left := by
  cases left with
  | none => cases right <;> rfl
  | some left =>
    cases right with
    | none => rfl
    | some right =>
      simp only [featureDistance]
      rw [Scalar.eq_comm left right]
      cases left.number <;> cases right.number <;> simp only [numberDistance_comm]

/-- Only a number that is not finite differs from itself. -/
theorem featureDistance_self (value : Scalar) :
    featureDistance (some value) (some value) = if value.number = some none then 1 else 0 := by
  cases value with
  | bool b =>
    cases b <;> simp [featureDistance, Scalar.number, Scalar.eq, Scalar.toPy,
      PyValue.eq, PyValue.asRat]
  | int n => simp [featureDistance, Scalar.number, numberDistance]
  | float x => cases x <;> simp [featureDistance, Scalar.number, numberDistance]
  | str s =>
    simp [featureDistance, Scalar.number, Scalar.eq, Scalar.toPy, PyValue.eq]

/-- A number that is not finite differs from every value. -/
theorem featureDistance_of_not_finite {value : Scalar} (h : value.number = some none)
    (right : Option Scalar) : featureDistance (some value) right = 1 := by
  cases right with
  | none => rfl
  | some right =>
    rcases value with b | n | (_ | i | p) | s <;> rcases right with c | m | (_ | j | q) | t <;>
      simp_all [featureDistance, Scalar.number, Scalar.eq, Scalar.toPy, PyValue.eq,
        PyValue.asRat, numberDistance]

theorem featureDistance_nonneg (left right : Option Scalar) :
    0 ≤ featureDistance left right := by
  cases left with
  | none => exact zero_le_one
  | some left =>
    cases right with
    | none => exact zero_le_one
    | some right =>
      simp only [featureDistance]
      split
      · exact numberDistance_nonneg _ _
      · split
        · exact le_rfl
        · exact zero_le_one

theorem featureDistance_self_le_one (value : Option Scalar) :
    featureDistance value value ≤ 1 := by
  cases value with
  | none => exact le_rfl
  | some value =>
    rw [featureDistance_self]
    split
    · exact le_rfl
    · exact zero_le_one

theorem featureDistance_self_le (left right : Option Scalar) :
    featureDistance left left ≤ featureDistance left right := by
  cases left with
  | none => exact le_rfl
  | some left =>
    rw [featureDistance_self]
    split
    case isTrue h => rw [featureDistance_of_not_finite h]
    case isFalse => exact featureDistance_nonneg _ _

/-! The distance as an average over the set of names -/

/-- The names of the features of one candidate. -/
def nameSet (features : Features) : Finset String := (features.map (·.1)).toFinset

theorem toFinset_featureNames (first second : Features) :
    (featureNames first second).toFinset = nameSet first ∪ nameSet second := by
  ext name
  simp [featureNames, nameSet]

theorem lookup_eq_none_of_notMem {features : Features} {name : String}
    (h : name ∉ nameSet features) :
    features.lookup name = none := by
  rw [List.lookup_eq_none_iff]
  intro entry hentry
  rw [bne_iff_ne]
  rintro rfl
  exact h (List.mem_toFinset.mpr (List.mem_map.mpr ⟨entry, hentry, rfl⟩))

/-- A distance is the average of the features over the names. -/
theorem distance_eq (first second : FailureCandidate) : distance first second =
    (∑ name ∈ nameSet first.features ∪ nameSet second.features,
      featureDistance (first.features.lookup name) (second.features.lookup name)) /
        (nameSet first.features ∪ nameSet second.features).card := by
  have hnodup : (featureNames first.features second.features).Nodup := List.nodup_dedup _
  rw [← toFinset_featureNames, List.sum_toFinset _ hnodup, List.toFinset_card_of_nodup hnodup]
  unfold distance
  dsimp only
  split
  case isTrue h => rw [h]; simp
  case isFalse => rfl

theorem distance_comm (first second : FailureCandidate) :
    distance first second = distance second first := by
  rw [distance_eq, distance_eq, Finset.union_comm]
  congr 1
  apply Finset.sum_congr rfl
  intro name _
  exact featureDistance_comm _ _

/-- **No candidate is nearer to another one than to itself.** -/
theorem distance_self_le (first second : FailureCandidate) :
    distance first first ≤ distance first second := by
  rw [distance_eq, distance_eq, Finset.union_self]
  have hsubset : nameSet first.features ⊆ nameSet first.features ∪ nameSet second.features :=
    Finset.subset_union_left
  generalize nameSet first.features ∪ nameSet second.features = names at hsubset ⊢
  -- the names that the first candidate lacks add one each
  have hself : ∑ name ∈ names \ nameSet first.features, featureDistance (first.features.lookup name)
      (first.features.lookup name) = (names \ nameSet first.features).card := by
    rw [← nsmul_one]
    apply Finset.sum_eq_card_nsmul
    intro name hname
    rw [lookup_eq_none_of_notMem (Finset.mem_sdiff.mp hname).2]
    rfl
  have hsum : ∑ name ∈ names, featureDistance (first.features.lookup name)
      (first.features.lookup name) ≤ ∑ name ∈ names, featureDistance (first.features.lookup name)
        (second.features.lookup name) := by
    apply Finset.sum_le_sum
    intro name _
    exact featureDistance_self_le _ _
  rw [← Finset.sum_sdiff hsubset, hself, Finset.cast_card_sdiff hsubset] at hsum
  have hone : ∑ name ∈ nameSet first.features, featureDistance (first.features.lookup name)
      (first.features.lookup name) ≤ (nameSet first.features).card := by
    rw [← nsmul_one]
    apply Finset.sum_le_card_nsmul
    intro name _
    exact featureDistance_self_le_one _
  have hle : ((nameSet first.features).card : ℚ) ≤ names.card :=
    Nat.cast_le.mpr (Finset.card_le_card hsubset)
  rcases (nameSet first.features).eq_empty_or_nonempty with hempty | hnonempty
  · rw [hempty, Finset.sum_empty, zero_div]
    apply div_nonneg _ (Nat.cast_nonneg _)
    apply Finset.sum_nonneg
    intro name _
    exact featureDistance_nonneg _ _
  · have hpositive : (0 : ℚ) < (nameSet first.features).card :=
      Nat.cast_pos.mpr (Finset.card_pos.mpr hnonempty)
    rw [div_le_div_iff₀ hpositive (hpositive.trans_le hle)]
    nlinarith

end Distance

/-! ## The grouping -/

/-- `sorted(items, key=lambda item: str(key(item)))` -/
def sortedByText {α : Type} (key : α → Uuid) (items : List α) : List α :=
  items.insertionSort fun a b => (key a).str ≤ (key b).str

theorem perm_sortedByText {α : Type} (key : α → Uuid) (items : List α) :
    (sortedByText key items).Perm items :=
  List.perm_insertionSort _ _

@[simp] theorem mem_sortedByText {α : Type} (key : α → Uuid) {items : List α} {a : α} :
    a ∈ sortedByText key items ↔ a ∈ items :=
  (perm_sortedByText key items).mem_iff

/-- `by_id.get(candidate_id)`: the last of the candidates with the identifier. -/
def byId (ordered : List FailureCandidate) (candidateId : Uuid) : Option FailureCandidate :=
  ordered.reverse.find? (·.candidateId = candidateId)

section Grouping

variable (ordered : List FailureCandidate) (epsilon : ℚ) (minSamples : ℤ)

/-- `neighbours[candidate_id]`: the candidates within epsilon, the candidate itself among them. -/
def neighbours (candidateId : Uuid) : List Uuid :=
  match byId ordered candidateId with
  | some candidate =>
    (ordered.filter fun other => distance candidate other ≤ epsilon).map (·.candidateId)
  | none => []

/-- Whether a candidate has enough neighbours: `candidate_id in core_ids`. -/
def isCore (candidateId : Uuid) : Bool :=
  candidateId ∈ ordered.map (·.candidateId) &&
    minSamples ≤ (neighbours ordered epsilon candidateId).length

/-- What the worklist gains from a member. -/
def expansion (candidateId : Uuid) : List Uuid :=
  if isCore ordered epsilon minSamples candidateId then
    sortedByText id (neighbours ordered epsilon candidateId)
  else []

/-- The members of the cluster of a seed, in the order of the worklist. -/
def expand (seed : Uuid) : List Uuid :=
  (Worklist.search (expansion ordered epsilon minSamples) (ordered.length * ordered.length + 1)
    [seed] []).getD []

/-- `sorted(core_ids, key=str)` -/
def coreSeeds : List Uuid :=
  sortedByText id ((ordered.map (·.candidateId)).dedup.filter (isCore ordered epsilon minSamples))

/-- The members of the clusters, in the order of their seeds. -/
def memberSets : List (List Uuid) :=
  DensityClusters.clusters (expand ordered epsilon minSamples)
    (coreSeeds ordered epsilon minSamples) []

/-- `tuple(by_id[item] for item in sorted(members, key=str))` -/
def clusterOf (members : List Uuid) : List FailureCandidate :=
  (sortedByText id members).filterMap (byId ordered)

/-- `str(group[0].candidate_id)` -/
def firstText (group : List FailureCandidate) : String :=
  (group.head?.map (·.candidateId.str)).getD ""

/-- The groups, ordered by their first members. -/
def sortedClusters : List (List FailureCandidate) :=
  ((memberSets ordered epsilon minSamples).map (clusterOf ordered)).insertionSort fun group other =>
    firstText group ≤ firstText other

end Grouping

section Identity

variable [HashFunctions] (datasetId : String) (datasetVersion : ℤ)

def groupNamespace : Uuid :=
  (Uuid.parse "a1dd7ce4-1ca6-46b7-95f1-47b7bb4fbf01").get (by decide +kernel)

/-- What the identifier of a group is derived from. -/
def groupPayload (members : List Uuid) : PyValue :=
  .dict [("algorithm", .str groupingAlgorithmVersion), ("dataset", .str datasetId),
    ("version", .int datasetVersion), ("members", .ofTexts (members.map (·.str)))]

/-- The stable identifier of a group. -/
def stableGroupId (members : List Uuid) : Uuid :=
  HashFunctions.uuid5 groupNamespace
    (HashFunctions.jsonSha256 (groupPayload datasetId datasetVersion members)).text

/-- The metrics of a grouping. -/
def groupingMetrics (ordered : List FailureCandidate) (groups : List (List FailureCandidate))
    (outliers : List FailureCandidate) : FailureGroupingMetrics :=
  let grouped := (groups.map (·.length)).sum
  { candidateCount := ordered.length
    groupedCandidateCount := grouped
    outlierCount := outliers.length
    groupCount := groups.length
    coverage := if ordered = [] then 0 else .ofRat (grouped / ordered.length) }

/-- `group_candidates(...)` -/
def groupCandidates (candidates : List FailureCandidate) (epsilon : ℚ) (minSamples : ℤ) :
    Raises FailureGroupResult := do
  raiseIf (epsilon < 0) (.value "epsilon must be non-negative")
  raiseIf (minSamples < 1) (.value "min_samples must be positive")
  let ordered := sortedByText (·.candidateId) candidates
  let groups := sortedClusters ordered epsilon minSamples
  let assigned := (memberSets ordered epsilon minSamples).flatten
  let outliers := ordered.filter (·.candidateId ∉ assigned)
  let metrics ← (groupingMetrics ordered groups outliers).new
  FailureGroupResult.new
    { datasetId := datasetId
      datasetVersion := datasetVersion
      configuration := ⟨epsilon, minSamples⟩
      groups := groups
      outliers := outliers
      stableGroupIds := groups.map fun group =>
        stableGroupId datasetId datasetVersion (group.map (·.candidateId))
      metrics := metrics }

end Identity

end ObservabilityLab
