import ObservabilityLab.Python.Words
import ObservabilityLab.Regression.Dataset

/-!
# Dataset splits

The cases of a dataset are split into a training and an evaluation part. The part of a case is
decided by a hash of its source family, so that a family is never in both. The score of a hash is
taken as the exact rational number.

## Main definitions

* `DatasetCaseRef`, `RegressionDatasetManifest`: a case of a dataset, and its split
* `RegressionDatasetManifest.new`: the validation, with `validate_no_leakage`
* `buildDatasetManifest`: the split of a list of cases
* `KeepsPart`: the cases of a part stay in it, and none of their families leaves it

## Main results

* `splitCases_eq`: the two parts are filters of the sorted cases
* `buildDatasetManifest_eq_ok`: which manifest is built, and when
* `dataset_split`: splits are free of leaks and stable
-/

namespace ObservabilityLab

open Python

/-! ## Manifests -/

/-- One case version of a dataset. -/
structure DatasetCaseRef where
  caseId : String
  caseVersion : ℕ
  sourceFamily : String
  versionPositive : 1 ≤ caseVersion
  familyNonempty : sourceFamily ≠ ""

namespace DatasetCaseRef

/-- What a manifest names once. -/
def key (ref : DatasetCaseRef) : String × ℕ := (ref.caseId, ref.caseVersion)

/-- `model_dump(mode="json")` -/
def dump (ref : DatasetCaseRef) : PyValue :=
  .dict [("case_id", .str ref.caseId), ("case_version", .int ref.caseVersion),
    ("source_family", .str ref.sourceFamily)]

end DatasetCaseRef

/-- A full match of `^[a-z0-9][a-z0-9_-]*$`. -/
def isDatasetId (text : String) : Bool :=
  matchesHead (fun c => isLower c || isAsciiDigit c)
    (fun c => isLower c || isAsciiDigit c || c ∈ ['_', '-']) text

/-- `0 < x < 1` -/
def insideUnit : PyFloat → Bool
  | .finite q => 0 < q.1 && q.1 < 1
  | _ => false

/-- The families of both parts, sorted. -/
def leakedFamilies (train evaluation : List DatasetCaseRef) : List String :=
  sortedSet ((train.map (·.sourceFamily)).filter (· ∈ evaluation.map (·.sourceFamily)))

theorem leakedFamilies_eq_nil {train evaluation : List DatasetCaseRef} :
    leakedFamilies train evaluation = [] ↔
      ∀ a ∈ train, ∀ b ∈ evaluation, a.sourceFamily ≠ b.sourceFamily := by
  rw [List.eq_nil_iff_forall_not_mem]
  simp only [leakedFamilies, mem_sortedSet, List.mem_filter, List.mem_map, decide_eq_true_eq]
  constructor
  · intro h a ha b hb heq
    exact h a.sourceFamily ⟨⟨a, ha, rfl⟩, b, hb, heq.symm⟩
  · rintro h family ⟨⟨a, ha, rfl⟩, b, hb, heq⟩
    exact h a ha b hb heq.symm

/-- A split of a dataset, without leaks. -/
structure RegressionDatasetManifest where
  schemaVersion : String := "1.0.0"
  datasetId : String
  datasetVersion : ℤ
  splitSeed : String
  evaluationFraction : PyFloat
  train : List DatasetCaseRef
  evaluation : List DatasetCaseRef
  contentHash : HexDigest
  idMatches : isDatasetId datasetId = true
  versionPositive : 1 ≤ datasetVersion
  seedLength : lengthWithin 1 200 splitSeed = true
  fractionInside : insideUnit evaluationFraction = true
  noLeakage : leakedFamilies train evaluation = []
  distinct : ((train ++ evaluation).map DatasetCaseRef.key).Nodup

/-- The keyword arguments of `build_dataset_manifest`. -/
structure DatasetArguments where
  datasetId : String
  datasetVersion : ℤ
  splitSeed : String
  evaluationFraction : PyFloat

/-- Arguments that meet the constraints of a manifest. -/
structure DatasetArguments.Valid (arguments : DatasetArguments) : Prop where
  idMatches : isDatasetId arguments.datasetId = true
  versionPositive : 1 ≤ arguments.datasetVersion
  seedLength : lengthWithin 1 200 arguments.splitSeed = true
  fractionInside : insideUnit arguments.evaluationFraction = true

/-! ## The split -/

/-- A source family is not empty. -/
theorem sourceFamily_ne_empty (case : RegressionCase) : sourceFamily case ≠ "" := by
  intro h
  have hlength := congrArg String.length h
  have hdesigned : ("designed:" : String).length = 9 := rfl
  have hcolon : (":" : String).length = 1 := rfl
  have hempty : ("" : String).length = 0 := rfl
  unfold sourceFamily at hlength
  split at hlength
  · rw [String.length_append] at hlength
    omega
  · simp only [String.length_append] at hlength
    omega

/-- The case version as a dataset names it. -/
def caseRef (case : RegressionCase) : DatasetCaseRef where
  caseId := case.caseId.str
  caseVersion := case.caseVersion
  sourceFamily := sourceFamily case
  versionPositive := case.versionPositive
  familyNonempty := sourceFamily_ne_empty case

/-- The order of `sorted`: by the text of the identifier, then by version. -/
def caseLE (a b : RegressionCase) : Prop :=
  a.caseId.str < b.caseId.str ∨ a.caseId.str = b.caseId.str ∧ a.caseVersion ≤ b.caseVersion

instance : DecidableRel caseLE := fun _ _ => inferInstanceAs (Decidable (_ ∨ _))

/-- `score < x` -/
def scoreBelow (score : ℚ) : PyFloat → Bool
  | .nan => false
  | .infinite negative => !negative
  | .finite q => score < q.1

/-- A score below a fraction is below a greater one. -/
theorem scoreBelow_mono {score : ℚ} {x y : PyFloat} (hle : x.le y = true) (hy : insideUnit y = true)
    (h : scoreBelow score x = true) : scoreBelow score y = true := by
  cases y with
  | nan => cases hy
  | infinite negative => cases hy
  | finite q =>
    cases x with
    | nan => cases h
    | infinite negative =>
      cases negative with
      | false => cases hle
      | true => cases h
    | finite p =>
      have hp : score < p.1 := of_decide_eq_true h
      have hpq : p.1 ≤ q.1 := by
        rw [PyFloat.le, Bool.or_eq_true] at hle
        rcases hle with hlt | heq
        · exact le_of_lt (of_decide_eq_true hlt)
        · exact le_of_eq (of_decide_eq_true heq)
      exact decide_eq_true (hp.trans_le hpq)

section Build

variable [UnicodeTables] [HashFunctions] [TextHashes]

omit [HashFunctions] [TextHashes] in
/-- `RegressionDatasetManifest(...)`, with its `validate_no_leakage` -/
def RegressionDatasetManifest.new (arguments : DatasetArguments)
    (train evaluation : List DatasetCaseRef) (contentHash : HexDigest) :
    Raises RegressionDatasetManifest :=
  if hid : ¬ isDatasetId arguments.datasetId = true then
    .error (.validation "RegressionDatasetManifest" "dataset_id")
  else if hversion : ¬ 1 ≤ arguments.datasetVersion then
    .error (.validation "RegressionDatasetManifest" "dataset_version")
  else if hseed : ¬ lengthWithin 1 200 arguments.splitSeed = true then
    .error (.validation "RegressionDatasetManifest" "split_seed")
  else if hfraction : ¬ insideUnit arguments.evaluationFraction = true then
    .error (.validation "RegressionDatasetManifest" "evaluation_fraction")
  else if hleak : leakedFamilies train evaluation ≠ [] then
    .error (.validation "RegressionDatasetManifest" ("source families occur in both splits: " ++
      reprList ((leakedFamilies train evaluation).map reprText)))
  else if hdistinct : ¬ ((train ++ evaluation).map DatasetCaseRef.key).Nodup then
    .error (.validation "RegressionDatasetManifest"
      "a case version occurs more than once in the manifest")
  else .ok
    { datasetId := arguments.datasetId
      datasetVersion := arguments.datasetVersion
      splitSeed := arguments.splitSeed
      evaluationFraction := arguments.evaluationFraction
      train, evaluation, contentHash,
      idMatches := not_not.mp hid
      versionPositive := not_not.mp hversion
      seedLength := not_not.mp hseed
      fractionInside := not_not.mp hfraction
      noLeakage := not_not.mp hleak
      distinct := not_not.mp hdistinct }

/-- `int.from_bytes(digest[:8], "big") / 2**64` -/
def digestScore (digest : HexDigest) : ℚ :=
  (((digest.text.toList.take 16).filterMap hexValue).foldl
    (fun value digit => 16 * value + digit.val) 0 : ℕ) / (2 ^ 64 : ℕ)

/-- The score of a family. -/
def familyScore (splitSeed family : String) : ℚ :=
  digestScore (TextHashes.sha256 (splitSeed ++ ":" ++ family))

/-- A family that goes to the evaluation part. -/
def inEvaluation (arguments : DatasetArguments) (family : String) : Bool :=
  scoreBelow (familyScore arguments.splitSeed family) arguments.evaluationFraction

/-- One case goes to the end of its part. -/
def placeCase (arguments : DatasetArguments)
    (parts : List DatasetCaseRef × List DatasetCaseRef) (case : RegressionCase) :
    List DatasetCaseRef × List DatasetCaseRef :=
  if inEvaluation arguments (sourceFamily case) then (parts.1, parts.2 ++ [caseRef case])
  else (parts.1 ++ [caseRef case], parts.2)

/-- The training and the evaluation part. -/
def splitCases (arguments : DatasetArguments) (cases : List RegressionCase) :
    List DatasetCaseRef × List DatasetCaseRef :=
  (cases.insertionSort caseLE).foldl (placeCase arguments) ([], [])

/-- What the content hash is made from. -/
def manifestPayload (arguments : DatasetArguments) (train evaluation : List DatasetCaseRef) :
    PyValue :=
  .dict [("schema_version", .str "1.0.0"), ("dataset_id", .str arguments.datasetId),
    ("dataset_version", .int arguments.datasetVersion), ("split_seed", .str arguments.splitSeed),
    ("evaluation_fraction", .float arguments.evaluationFraction),
    ("train", .list (train.map DatasetCaseRef.dump)),
    ("evaluation", .list (evaluation.map DatasetCaseRef.dump))]

/-- `build_dataset_manifest(cases, ...)` -/
def buildDatasetManifest (cases : List RegressionCase) (arguments : DatasetArguments) :
    Raises RegressionDatasetManifest :=
  if insideUnit arguments.evaluationFraction then
    let parts := splitCases arguments cases
    RegressionDatasetManifest.new arguments parts.1 parts.2
      (HashFunctions.jsonSha256 (manifestPayload arguments parts.1 parts.2))
  else .error (.value "evaluation_fraction must be between zero and one")

end Build

/-! ## The sorted cases -/

/-- Cases with distinct identifiers and versions. -/
def DistinctCases (cases : List RegressionCase) : Prop :=
  (cases.map fun case => (case.caseId, case.caseVersion)).Nodup

section Sorted

variable {cases reordered : List RegressionCase}

instance : Std.Total caseLE where
  total a b := by
    rcases lt_trichotomy a.caseId.str b.caseId.str with hlt | heq | hgt
    · exact Or.inl (Or.inl hlt)
    · exact (le_total a.caseVersion b.caseVersion).imp (fun h => Or.inr ⟨heq, h⟩)
        fun h => Or.inr ⟨heq.symm, h⟩
    · exact Or.inr (Or.inl hgt)

instance : IsTrans RegressionCase caseLE where
  trans a b c hab hbc := by
    rcases hab with hab | ⟨hab, hversion⟩ <;> rcases hbc with hbc | ⟨hbc, hversion'⟩
    · exact Or.inl (hab.trans hbc)
    · exact Or.inl (hbc ▸ hab)
    · exact Or.inl (hab ▸ hbc)
    · exact Or.inr ⟨hab.trans hbc, hversion.trans hversion'⟩

/-- Cases that stand in both orders have one identifier and version. -/
theorem key_eq_of_caseLE {a b : RegressionCase} (hab : caseLE a b) (hba : caseLE b a) :
    (a.caseId, a.caseVersion) = (b.caseId, b.caseVersion) := by
  rcases hab with hab | ⟨hid, hab⟩
  · rcases hba with hba | ⟨hid, -⟩
    · exact absurd hab hba.not_gt
    · exact absurd hid hab.ne'
  · rcases hba with hba | ⟨-, hba⟩
    · exact absurd hid hba.ne'
    · rw [Uuid.str_injective hid, hab.antisymm hba]

/-- **Sorting forgets the order of distinct cases.** -/
theorem insertionSort_perm_eq (hdistinct : DistinctCases cases) (hperm : cases.Perm reordered) :
    cases.insertionSort caseLE = reordered.insertionSort caseLE := by
  have hsorted := List.perm_insertionSort caseLE cases
  have hsorted' := List.perm_insertionSort caseLE reordered
  refine List.Perm.eq_of_pairwise ?_ (List.pairwise_insertionSort caseLE cases)
    (List.pairwise_insertionSort caseLE reordered) (hsorted.trans (hperm.trans hsorted'.symm))
  intro a b ha hb hab hba
  exact List.inj_on_of_nodup_map hdistinct (hsorted.mem_iff.mp ha)
    (hperm.mem_iff.mpr (hsorted'.mem_iff.mp hb)) (key_eq_of_caseLE hab hba)

/-- The cases of a dataset are named once exactly when they are distinct. -/
theorem nodup_key_caseRef :
    ((cases.map caseRef).map DatasetCaseRef.key).Nodup ↔ DistinctCases cases := by
  have hkey : (cases.map caseRef).map DatasetCaseRef.key =
      (cases.map fun case => (case.caseId, case.caseVersion)).map fun key =>
        (key.1.str, key.2) := by
    rw [List.map_map, List.map_map]
    rfl
  rw [hkey, DistinctCases]
  apply List.nodup_map_iff
  rintro ⟨id, version⟩ ⟨id', version'⟩ h
  obtain ⟨hid, hversion⟩ := Prod.mk.inj h
  exact Prod.ext (Uuid.str_injective hid) hversion

end Sorted

/-! ## The parts -/

section Parts

variable [TextHashes] {arguments arguments' : DatasetArguments}
  {cases cases' : List RegressionCase}

/-- The loop appends each case to its part. -/
theorem foldl_placeCase (sorted : List RegressionCase)
    (parts : List DatasetCaseRef × List DatasetCaseRef) :
    sorted.foldl (placeCase arguments) parts =
      (parts.1 ++ ((sorted.filter fun case => !inEvaluation arguments (sourceFamily case)).map
          caseRef),
        parts.2 ++ ((sorted.filter fun case => inEvaluation arguments (sourceFamily case)).map
          caseRef)) := by
  induction sorted generalizing parts with
  | nil => simp
  | cons case sorted ih =>
    rw [List.foldl_cons, ih, placeCase]
    by_cases h : inEvaluation arguments (sourceFamily case) = true
    · simp [h]
    · simp [h]

/-- **The two parts are filters of the sorted cases.** -/
theorem splitCases_eq (arguments : DatasetArguments) (cases : List RegressionCase) :
    splitCases arguments cases =
      (((cases.insertionSort caseLE).filter fun case =>
          !inEvaluation arguments (sourceFamily case)).map caseRef,
        ((cases.insertionSort caseLE).filter fun case =>
          inEvaluation arguments (sourceFamily case)).map caseRef) := by
  rw [splitCases, foldl_placeCase]
  rfl

theorem mem_train {ref : DatasetCaseRef} : ref ∈ (splitCases arguments cases).1 ↔
    ∃ case ∈ cases, inEvaluation arguments (sourceFamily case) = false ∧ caseRef case = ref := by
  rw [splitCases_eq, List.mem_map]
  simp only [List.mem_filter, List.mem_insertionSort, Bool.not_eq_true', and_assoc]

theorem mem_evaluation {ref : DatasetCaseRef} : ref ∈ (splitCases arguments cases).2 ↔
    ∃ case ∈ cases, inEvaluation arguments (sourceFamily case) = true ∧ caseRef case = ref := by
  rw [splitCases_eq, List.mem_map]
  simp only [List.mem_filter, List.mem_insertionSort, and_assoc]

/-- Every case is in one of the parts. -/
theorem perm_splitCases : ((splitCases arguments cases).1 ++ (splitCases arguments cases).2).Perm
    (cases.map caseRef) := by
  rw [splitCases_eq, ← List.map_append]
  apply List.Perm.map
  have hfilter := List.filter_append_perm
    (fun case => !inEvaluation arguments (sourceFamily case)) (cases.insertionSort caseLE)
  simp only [Bool.not_not] at hfilter
  exact hfilter.trans (List.perm_insertionSort caseLE cases)

/-- The family of a case decides its part. -/
theorem inEvaluation_of_mem {ref : DatasetCaseRef} :
    (ref ∈ (splitCases arguments cases).1 → inEvaluation arguments ref.sourceFamily = false) ∧
      (ref ∈ (splitCases arguments cases).2 → inEvaluation arguments ref.sourceFamily = true) := by
  constructor
  · intro h
    obtain ⟨case, -, hpart, rfl⟩ := mem_train.mp h
    exact hpart
  · intro h
    obtain ⟨case, -, hpart, rfl⟩ := mem_evaluation.mp h
    exact hpart

/-- No family is in both parts. -/
theorem leakedFamilies_splitCases :
    leakedFamilies (splitCases arguments cases).1 (splitCases arguments cases).2 = [] := by
  rw [leakedFamilies_eq_nil]
  intro a ha b hb heq
  have hno := inEvaluation_of_mem.1 ha
  have hyes := inEvaluation_of_mem.2 hb
  rw [heq, hyes] at hno
  cases hno

end Parts

/-! ## Built manifests -/

/-- The cases of a part stay in it, and none of their families leaves it. -/
def KeepsPart (before after others : List DatasetCaseRef) : Prop :=
  ∀ ref ∈ before, ref ∈ after ∧ ∀ other ∈ others, other.sourceFamily ≠ ref.sourceFamily

section Built

variable [UnicodeTables] [HashFunctions] [TextHashes] {arguments arguments' : DatasetArguments}
  {cases cases' : List RegressionCase} {manifest manifest' : RegressionDatasetManifest}

/-- **Which manifest is built, and when.** -/
theorem buildDatasetManifest_eq_ok :
    (∃ manifest, buildDatasetManifest cases arguments = .ok manifest) ↔
      arguments.Valid ∧ DistinctCases cases := by
  have hnodup : ((((splitCases arguments cases).1 ++ (splitCases arguments cases).2).map
      DatasetCaseRef.key).Nodup ↔ DistinctCases cases) :=
    (perm_splitCases.map _).nodup_iff.trans nodup_key_caseRef
  unfold buildDatasetManifest RegressionDatasetManifest.new
  dsimp only
  constructor
  · rintro ⟨manifest, h⟩
    split_ifs at h with hfraction hid hversion hseed hleak hdistinct
    exact ⟨⟨hid, hversion, hseed, hfraction⟩, hnodup.mp hdistinct⟩
  · rintro ⟨hvalid, hdistinct⟩
    rw [if_pos hvalid.fractionInside, dif_neg (not_not.mpr hvalid.idMatches),
      dif_neg (not_not.mpr hvalid.versionPositive), dif_neg (not_not.mpr hvalid.seedLength),
      dif_neg (not_not.mpr hvalid.fractionInside), dif_neg (not_not.mpr leakedFamilies_splitCases),
      dif_neg (not_not.mpr (hnodup.mpr hdistinct))]
    exact ⟨_, rfl⟩

/-- The parts of a manifest are those of the split. -/
theorem parts_of_build (h : buildDatasetManifest cases arguments = .ok manifest) :
    manifest.train = (splitCases arguments cases).1 ∧
      manifest.evaluation = (splitCases arguments cases).2 := by
  unfold buildDatasetManifest RegressionDatasetManifest.new at h
  dsimp only at h
  split_ifs at h
  obtain rfl := Except.ok.inj h
  exact ⟨rfl, rfl⟩

/-- Only the split reads the cases. -/
theorem build_congr (h : splitCases arguments cases = splitCases arguments cases') :
    buildDatasetManifest cases arguments = buildDatasetManifest cases' arguments := by
  unfold buildDatasetManifest
  rw [h]

omit [UnicodeTables] [HashFunctions] in
/-- A part keeps its cases when more cases come and its families stay in it. -/
theorem keeps_splitCases (hcases : cases ⊆ cases') :
    ((∀ family, inEvaluation arguments family = true → inEvaluation arguments' family = true) →
        KeepsPart (splitCases arguments cases).2 (splitCases arguments' cases').2
          (splitCases arguments' cases').1) ∧
      ((∀ family, inEvaluation arguments family = false → inEvaluation arguments' family = false) →
        KeepsPart (splitCases arguments cases).1 (splitCases arguments' cases').1
          (splitCases arguments' cases').2) := by
  constructor
  · intro hstay ref href
    obtain ⟨case, hcase, hpart, rfl⟩ := mem_evaluation.mp href
    have hpart' := hstay _ hpart
    refine ⟨mem_evaluation.mpr ⟨case, hcases hcase, hpart', rfl⟩, ?_⟩
    intro other hother heq
    have hno := inEvaluation_of_mem.1 hother
    rw [heq] at hno
    exact Bool.false_ne_true (hno.symm.trans hpart')
  · intro hstay ref href
    obtain ⟨case, hcase, hpart, rfl⟩ := mem_train.mp href
    have hpart' := hstay _ hpart
    refine ⟨mem_train.mpr ⟨case, hcases hcase, hpart', rfl⟩, ?_⟩
    intro other hother heq
    have hyes := inEvaluation_of_mem.2 hother
    rw [heq] at hyes
    exact Bool.false_ne_true (hpart'.symm.trans hyes)

/-- **Splits are free of leaks and stable.** For arguments that a manifest accepts, distinct cases
are split without loss, without a family in both parts and whatever their order. More cases move no
family, and a greater fraction moves none out of the evaluation part. Repeated cases raise. -/
theorem dataset_split (cases : List RegressionCase) (arguments : DatasetArguments) :
    (arguments.Valid → DistinctCases cases → ∃ manifest,
      buildDatasetManifest cases arguments = .ok manifest ∧
      (manifest.train ++ manifest.evaluation).Perm (cases.map caseRef) ∧
      (∀ a ∈ manifest.train, ∀ b ∈ manifest.evaluation, a.sourceFamily ≠ b.sourceFamily) ∧
      (∀ reordered, cases.Perm reordered →
        buildDatasetManifest reordered arguments = .ok manifest) ∧
      ∀ cases' arguments' manifest', buildDatasetManifest cases' arguments' = .ok manifest' →
        cases ⊆ cases' → arguments'.splitSeed = arguments.splitSeed →
        (arguments'.evaluationFraction = arguments.evaluationFraction →
          KeepsPart manifest.train manifest'.train manifest'.evaluation ∧
            KeepsPart manifest.evaluation manifest'.evaluation manifest'.train) ∧
        (arguments.evaluationFraction.le arguments'.evaluationFraction = true →
          KeepsPart manifest.evaluation manifest'.evaluation manifest'.train)) ∧
    (¬ DistinctCases cases → ∃ error, buildDatasetManifest cases arguments = .error error) := by
  constructor
  · intro hvalid hdistinct
    obtain ⟨manifest, hbuild⟩ := buildDatasetManifest_eq_ok.mpr ⟨hvalid, hdistinct⟩
    obtain ⟨htrain, hevaluation⟩ := parts_of_build hbuild
    refine ⟨manifest, hbuild, ?_, leakedFamilies_eq_nil.mp manifest.noLeakage, ?_, ?_⟩
    · rw [htrain, hevaluation]
      exact perm_splitCases
    · intro reordered hperm
      rw [← hbuild]
      -- the manifest depends on the sorted cases alone
      apply build_congr
      rw [splitCases, splitCases, insertionSort_perm_eq hdistinct hperm]
    · intro cases' arguments' manifest' hbuild' hcases hseed
      obtain ⟨htrain', hevaluation'⟩ := parts_of_build hbuild'
      rw [htrain, hevaluation, htrain', hevaluation']
      constructor
      · intro hfraction
        -- the score of a family does not depend on the other cases
        have hsame : ∀ family, inEvaluation arguments' family = inEvaluation arguments family := by
          intro family
          rw [inEvaluation, hseed, hfraction]
          rfl
        refine ⟨(keeps_splitCases hcases).2 ?_, (keeps_splitCases hcases).1 ?_⟩
        · exact fun family h => (hsame family).trans h
        · exact fun family h => (hsame family).trans h
      · intro hfraction
        have hinside := (buildDatasetManifest_eq_ok.mp ⟨manifest', hbuild'⟩).1.fractionInside
        apply (keeps_splitCases hcases).1
        intro family h
        rw [inEvaluation, hseed]
        exact scoreBelow_mono hfraction hinside h
  · intro hrepeated
    cases hbuild : buildDatasetManifest cases arguments with
    | error error => exact ⟨error, rfl⟩
    | ok manifest => exact absurd (buildDatasetManifest_eq_ok.mp ⟨manifest, hbuild⟩).2 hrepeated

end Built

/-! ## An empty seed -/

section Examples

/-- Digests that tell no texts apart. -/
@[reducible] def oneTextHash : TextHashes where
  sha256 _ := .repeated 3

attribute [local instance] asciiTables constantHashes oneTextHash

/-- Two versions of one case. -/
def twoVersions : List RegressionCase :=
  [caseOf (sourceOf (some "support")),
    { caseOf (sourceOf (some "support")) with caseVersion := 2, versionPositive := one_le_two }]

theorem half_lt_floatBound : |(1 / 2 : ℚ)| < floatBound := by
  decide +kernel

/-- One half. -/
def oneHalf : PyFloat := .finite ⟨1 / 2, half_lt_floatBound, false, nofun⟩

/-- A dataset of half of the families. -/
def halfDataset (splitSeed : String) : DatasetArguments :=
  ⟨"support_v1", 1, splitSeed, oneHalf⟩

theorem distinct_twoVersions : DistinctCases twoVersions := by
  unfold DistinctCases
  decide

theorem insideUnit_oneHalf : insideUnit oneHalf = true := by
  decide +kernel

/-- **With an empty seed** no manifest is built. -/
theorem not_split_emptySeed : DistinctCases twoVersions ∧
    insideUnit (halfDataset "").evaluationFraction = true ∧
    ¬ ∃ manifest, buildDatasetManifest twoVersions (halfDataset "") = .ok manifest := by
  refine ⟨distinct_twoVersions, insideUnit_oneHalf, ?_⟩
  intro h
  have hlength := (buildDatasetManifest_eq_ok.mp h).1.seedLength
  exact absurd hlength (by decide)

/-- `dataset_split` on two versions of a case, and on one version twice. -/
theorem dataset_split_versions :
    (∃ manifest, buildDatasetManifest twoVersions (halfDataset "seed") = .ok manifest ∧
      (manifest.train ++ manifest.evaluation).Perm (twoVersions.map caseRef)) ∧
    ∃ error, buildDatasetManifest (twoVersions ++ twoVersions) (halfDataset "seed") =
      .error error := by
  constructor
  · have hvalid : (halfDataset "seed").Valid :=
      ⟨by decide +kernel, le_rfl, by decide, insideUnit_oneHalf⟩
    obtain ⟨manifest, hbuild, hperm, -⟩ := (dataset_split twoVersions (halfDataset "seed")).1 hvalid
      distinct_twoVersions
    exact ⟨manifest, hbuild, hperm⟩
  · apply (dataset_split (twoVersions ++ twoVersions) (halfDataset "seed")).2
    unfold DistinctCases
    decide

end Examples

end ObservabilityLab
