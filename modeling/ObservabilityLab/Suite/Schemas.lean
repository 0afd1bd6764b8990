import ObservabilityLab.Comparison.Compare
import ObservabilityLab.Regression.Schemas

/-!
# Case suites

A suite names a set of exact case versions and is versioned itself. A suite that is read back
carries the proof that its name is a slug and its members are distinct. The results of a suite
comparison keep every case with its comparison.

## Main definitions

* `SuiteMemberRef`, `CaseSuite`, `CaseSuite.new`: members, and one version of a suite
* `suiteMembersHash`: the hash of a member set
* `SuiteCaseResult`, `SuiteComparisonTotals`, `SuiteComparisonResult`

## Main results

* `canonicalMembers_eq_iff`: what is hashed determines the members, up to their order
-/

namespace ObservabilityLab

open Python

/-- One exact case version in a suite. -/
structure SuiteMemberRef where
  caseId : Uuid
  caseVersion : ℕ
  versionPositive : 1 ≤ caseVersion
deriving DecidableEq

/-- `SuiteMemberRef(...)` -/
def SuiteMemberRef.new (caseId : Uuid) (caseVersion : ℤ) : Raises SuiteMemberRef :=
  if h : 1 ≤ caseVersion then .ok ⟨caseId, caseVersion.toNat, by omega⟩
  else .error (.validation "SuiteMemberRef" "case_version")

/-- The outcome of one suite save. -/
structure SuiteSaveResult where
  status : SaveStatus
  suiteId : Uuid
  suiteVersion : ℕ
deriving DecidableEq

/-- A full match of `^[a-z][a-z0-9_.-]{0,99}$`. -/
def isSuiteName (name : String) : Bool :=
  matchesHead isLower (fun c => isLower c || isAsciiDigit c || c ∈ ['_', '.', '-']) name &&
    name.length ≤ 100

/-- One exact version of a suite. -/
structure CaseSuite where
  schemaVersion : String := "1.0.0"
  suiteId : Uuid
  suiteVersion : ℕ
  name : String
  members : List SuiteMemberRef
  createdAt : Timestamp
  versionPositive : 1 ≤ suiteVersion
  nameMatches : isSuiteName name = true
  membersNonempty : members ≠ []
  membersDistinct : members.Nodup

section Texts

variable [UnicodeTables]

/-- `f"{member.case_id!r} v{member.case_version}"` -/
def SuiteMemberRef.text (member : SuiteMemberRef) : String :=
  "UUID(" ++ reprText member.caseId.str ++ ") v" ++ toString member.caseVersion

/-- The first element that occurs earlier in the list. -/
def firstDuplicate (members : List SuiteMemberRef) (seen : List SuiteMemberRef) :
    Option SuiteMemberRef :=
  match members with
  | [] => none
  | member :: members =>
    if member ∈ seen then some member else firstDuplicate members (member :: seen)

omit [UnicodeTables] in
theorem firstDuplicate_eq_none {members seen : List SuiteMemberRef} :
    firstDuplicate members seen = none ↔ members.Nodup ∧ members.Disjoint seen := by
  induction members generalizing seen with
  | nil => simp [firstDuplicate]
  | cons member members ih =>
    rw [firstDuplicate, List.nodup_cons, List.disjoint_cons_left]
    split_ifs with hmem
    · simp [hmem]
    · rw [ih, List.disjoint_cons_right]
      tauto

/-- `CaseSuite(...)`, with its `validate_members` -/
def CaseSuite.new (suiteId : Uuid) (suiteVersion : ℕ) (name : String)
    (members : List SuiteMemberRef) (createdAt : Timestamp) : Raises CaseSuite :=
  if hversion : ¬ 1 ≤ suiteVersion then .error (.validation "CaseSuite" "suite_version")
  else if hname : ¬ isSuiteName name = true then .error (.validation "CaseSuite" "name")
  else if hmembers : members = [] then .error (.validation "CaseSuite" "members")
  else match hduplicate : firstDuplicate members [] with
    | some member =>
      .error (.validation "CaseSuite" ("duplicate suite member " ++ member.text))
    | none => .ok
      { suiteId, suiteVersion, name, members, createdAt,
        versionPositive := one_le_of_check hversion
        nameMatches := not_not.mp hname
        membersNonempty := hmembers
        membersDistinct := (firstDuplicate_eq_none.mp hduplicate).1 }

/-- A suite of valid fields is valid. -/
theorem CaseSuite.exists_new {suiteId : Uuid} {suiteVersion : ℕ} {name : String}
    {members : List SuiteMemberRef} {createdAt : Timestamp} (hversion : 1 ≤ suiteVersion)
    (hname : isSuiteName name = true) (hne : members ≠ []) (hnodup : members.Nodup) :
    ∃ suite, CaseSuite.new suiteId suiteVersion name members createdAt = .ok suite ∧
      suite.name = name ∧ suite.members = members := by
  have hnone : firstDuplicate members [] = none :=
    firstDuplicate_eq_none.mpr ⟨hnodup, List.disjoint_nil_right _⟩
  rw [CaseSuite.new, dif_neg (not_not.mpr hversion), dif_neg (not_not.mpr hname), dif_neg hne]
  split
  · rename_i member hsome
    rw [hnone] at hsome
    cases hsome
  · exact ⟨_, rfl, rfl, rfl⟩

/-- A suite has the name and the members that it was built from. -/
theorem CaseSuite.new_fields {suiteId : Uuid} {suiteVersion : ℕ} {name : String}
    {members : List SuiteMemberRef} {createdAt : Timestamp} {suite : CaseSuite}
    (h : CaseSuite.new suiteId suiteVersion name members createdAt = .ok suite) :
    suite.name = name ∧ suite.members = members := by
  unfold CaseSuite.new at h
  split_ifs at h
  split at h
  · cases h
  · obtain rfl := Except.ok.inj h
    exact ⟨rfl, rfl⟩

end Texts

/-- The dump of one member, as it is stored and hashed. -/
def SuiteMemberRef.dump (member : SuiteMemberRef) : Record :=
  [("case_id", .str member.caseId.str), ("case_version", .int member.caseVersion)]

/-- The order of `suite_members_hash`: by identifier text, then by version. -/
def memberLE (a b : SuiteMemberRef) : Prop :=
  a.caseId.str < b.caseId.str ∨ a.caseId.str = b.caseId.str ∧ a.caseVersion ≤ b.caseVersion

instance : DecidableRel memberLE := fun _ _ => inferInstanceAs (Decidable (_ ∨ _))

instance : Std.Total memberLE where
  total a b := by
    rcases lt_trichotomy a.caseId.str b.caseId.str with hlt | heq | hgt
    · exact Or.inl (Or.inl hlt)
    · exact (le_total a.caseVersion b.caseVersion).imp (fun h => Or.inr ⟨heq, h⟩)
        fun h => Or.inr ⟨heq.symm, h⟩
    · exact Or.inr (Or.inl hgt)

instance : IsTrans SuiteMemberRef memberLE where
  trans a b c hab hbc := by
    rcases hab with hab | ⟨hab, hversion⟩ <;> rcases hbc with hbc | ⟨hbc, hversion'⟩
    · exact Or.inl (hab.trans hbc)
    · exact Or.inl (hbc ▸ hab)
    · exact Or.inl (hab ▸ hbc)
    · exact Or.inr ⟨hab.trans hbc, hversion.trans hversion'⟩

instance : Std.Antisymm memberLE where
  antisymm a b hab hba := by
    rcases hab with hab | ⟨hid, hab⟩
    · rcases hba with hba | ⟨hid, -⟩
      · exact absurd hab hba.not_gt
      · exact absurd hid hab.ne'
    · rcases hba with hba | ⟨-, hba⟩
      · exact absurd hid hba.ne'
      · obtain ⟨idA, versionA, _⟩ := a
        obtain ⟨idB, versionB, _⟩ := b
        obtain rfl := Uuid.str_injective hid
        obtain rfl : versionA = versionB := hab.antisymm hba
        rfl

/-- The members sorted by identifier text and version. -/
def sortedMembers (members : List SuiteMemberRef) : List SuiteMemberRef :=
  members.insertionSort memberLE

/-- **Sorting forgets the order of the members**, and nothing else. -/
theorem sortedMembers_eq_iff {members members' : List SuiteMemberRef} :
    sortedMembers members = sortedMembers members' ↔ members.Perm members' := by
  have hperm (l : List SuiteMemberRef) : (sortedMembers l).Perm l :=
    List.perm_insertionSort memberLE l
  constructor
  · intro h
    exact (hperm members).symm.trans (h ▸ hperm members')
  · intro h
    exact List.Perm.eq_of_pairwise' (List.pairwise_insertionSort memberLE members)
      (List.pairwise_insertionSort memberLE members')
      ((hperm members).trans (h.trans (hperm members').symm))

/-- The JSON list that `suite_members_hash` hashes. -/
def canonicalMembers (members : List SuiteMemberRef) : PyValue :=
  .list ((sortedMembers members).map fun member => .dict member.dump)

theorem SuiteMemberRef.dump_injective : Function.Injective SuiteMemberRef.dump := by
  rintro ⟨id, version, _⟩ ⟨id', version', _⟩ h
  simp only [SuiteMemberRef.dump, List.cons.injEq, Prod.mk.injEq, PyValue.str.injEq,
    PyValue.int.injEq, Nat.cast_inj, true_and, and_true] at h
  obtain rfl := Uuid.str_injective h.1
  obtain rfl := h.2
  rfl

/-- Member lists have one canonical form exactly when they have the same members. -/
theorem canonicalMembers_eq_iff {members members' : List SuiteMemberRef} :
    canonicalMembers members = canonicalMembers members' ↔ members.Perm members' := by
  rw [← sortedMembers_eq_iff, canonicalMembers, canonicalMembers, PyValue.list.injEq]
  refine (List.map_injective_iff.mpr ?_).eq_iff
  intro a b h
  exact SuiteMemberRef.dump_injective (PyValue.dict.inj h)

/-- The stable hash of a member set, which does not depend on the order. -/
def suiteMembersHash [HashFunctions] (members : List SuiteMemberRef) : HexDigest :=
  HashFunctions.jsonSha256 (canonicalMembers members)

/-! ## Suite comparisons -/

inductive ConfigurationChangeType where
  | model | prompt | retrieval | tools | workflow | routing | policy
deriving DecidableEq

/-- One side's cohort totals. -/
structure SuiteSideTotals where
  successCount : ℕ := 0
  totalLatencyMs : PyFloat := 0
  totalTokens : ℕ := 0
  totalCostUsd : PyFloat := 0
  totalRetries : ℕ := 0

structure SuiteComparisonTotals where
  cases : ℕ := 0
  comparable : ℕ := 0
  candidatePasses : ℕ := 0
  candidateRegresses : ℕ := 0
  noMaterialDifference : ℕ := 0
  insufficientEvidence : ℕ := 0
  safetyRegressions : ℕ := 0
  missingMeasurementCases : ℕ := 0
  coverageFailureCases : ℕ := 0
  baseline : SuiteSideTotals := {}
  candidate : SuiteSideTotals := {}

inductive SuiteVerdict where
  | recommendCandidate | keepBaseline | inconclusive
deriving DecidableEq

/-- One suite member's comparison. -/
structure SuiteCaseResult where
  caseId : Uuid
  caseVersion : ℕ
  scenarioId : String
  bundleContentHash : HexDigest
  evidenceRef : Option TraceSourceRef := none
  evidenceContentHash : Option HexDigest := none
  comparison : RunComparison

/-- `SuiteCaseResult(...)` -/
def SuiteCaseResult.new (result : SuiteCaseResult) : Raises SuiteCaseResult := do
  checkField (1 ≤ result.caseVersion) "SuiteCaseResult" "case_version"
  .ok result

/-- One complete suite comparison. -/
structure SuiteComparisonResult where
  schemaVersion : String := "1.0.0"
  suiteId : Uuid
  suiteVersion : ℕ
  suiteName : String
  changeType : ConfigurationChangeType
  baselineLabel : String
  candidateLabel : String
  cases : List SuiteCaseResult := []
  totals : SuiteComparisonTotals := {}
  verdict : SuiteVerdict := .inconclusive
  verdictReason : String

/-- `SuiteComparisonResult(...)` -/
def SuiteComparisonResult.new (result : SuiteComparisonResult) :
    Raises SuiteComparisonResult := do
  checkField (1 ≤ result.suiteVersion) "SuiteComparisonResult" "suite_version"
  checkField (lengthWithin 1 2000 result.verdictReason) "SuiteComparisonResult" "verdict_reason"
  .ok result

end ObservabilityLab
