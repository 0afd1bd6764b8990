import ObservabilityLab.Regression.Service

/-!
# The case library as a history

Any number of `save_case` calls interleave on the table of stored cases. Every case has its versions
without a gap, no row is changed or removed, and the list of the cases names the last version of
each.

## Main definitions

* `listLatestCases`, `listCases`: the list of the cases with their latest versions
* `AppendOnly`: what holds of the table after a schedule

## Main results

* `listCases_returns`: the list of a table without gaps
* `appendOnly_caseSaves`: the case library is append-only, for every interleaving
-/

namespace ObservabilityLab

open Python VersionedTable Interleaving

/-! ## The list of the cases -/

/-- The list view of one case with its latest version. -/
structure CaseSummary where
  caseId : Uuid
  sourceType : CaseSourceType
  scenarioId : String
  latestVersion : ℕ
  latestContentHash : HexDigest
  createdAt : Timestamp
  versionPositive : 1 ≤ latestVersion

/-- `CaseSummary(...)` of one row -/
def StoredCase.summary [UnicodeTables] (row : StoredCase) : Raises CaseSummary :=
  match CaseSourceType.ofValue row.sourceType with
  | none => .error (.value (reprText row.sourceType ++ " is not a valid CaseSourceType"))
  | some sourceType =>
    if hversion : ¬ 1 ≤ row.caseVersion then .error (.validation "CaseSummary" "latest_version")
    else .ok
      { caseId := row.caseId
        sourceType := sourceType
        scenarioId := row.scenarioId
        latestVersion := row.caseVersion
        latestContentHash := row.bundleContentHash
        createdAt := row.createdAt
        versionPositive := one_le_of_check hversion }

/-- `list_latest_cases`: the rows with the highest version of their case, by case id -/
def listLatestCases (table : Table StoredCase) : List StoredCase :=
  table.newest.mergeSort fun a b => a.caseId.digits.toList ≤ b.caseId.digits.toList

/-- `list_cases` -/
def listCases [UnicodeTables] (table : Table StoredCase) : Raises (List CaseSummary) :=
  (listLatestCases table).mapM StoredCase.summary

/-- A version of a case is stored. -/
def HasVersion (table : Table StoredCase) (caseId : Uuid) (v : ℕ) : Prop :=
  ∃ row ∈ table, row.caseId = caseId ∧ row.caseVersion = v

section List

variable [UnicodeTables] {table : Table StoredCase}

/-- A row of a known source type is summarized with its identity. -/
theorem StoredCase.summary_returns {row : StoredCase} {sourceType : CaseSourceType}
    (htype : row.sourceType = sourceType.value) (hversion : 1 ≤ row.caseVersion) :
    ∃ summary, row.summary = .ok summary ∧
      (summary.caseId, summary.latestVersion) = (row.caseId, row.caseVersion) := by
  rw [StoredCase.summary, htype, CaseSourceType.ofValue_value]
  dsimp only
  rw [dif_neg (not_not.mpr hversion)]
  exact ⟨_, rfl, rfl⟩

omit [UnicodeTables] in
theorem mem_listLatestCases {row : StoredCase} :
    row ∈ listLatestCases table ↔ row ∈ table ∧ row.caseVersion = table.maxVersion row.caseId := by
  rw [listLatestCases, List.mem_mergeSort]
  exact Table.mem_newest

omit [UnicodeTables] in
/-- Every case is listed once. -/
theorem nodup_listLatestCases (table : Table StoredCase) :
    ((listLatestCases table).map (·.caseId)).Nodup := by
  unfold listLatestCases
  exact ((List.mergeSort_perm table.newest _).map _).nodup_iff.mpr table.nodup_newest

/-- The summaries name the listed rows. -/
theorem listCases_names (hcontiguous : table.Contiguous)
    (htype : ∀ row ∈ table, ∃ sourceType : CaseSourceType, row.sourceType = sourceType.value) :
    ∃ summaries, listCases table = .ok summaries ∧
      summaries.map (fun summary => (summary.caseId, summary.latestVersion)) =
        (listLatestCases table).map fun row => (row.caseId, row.caseVersion) := by
  refine exists_mapM_eq_ok.mpr fun row hrow => ?_
  obtain ⟨hmem, -⟩ := mem_listLatestCases.mp hrow
  obtain ⟨sourceType, hsource⟩ := htype row hmem
  exact StoredCase.summary_returns hsource (hcontiguous.positive row hmem)

omit [UnicodeTables] in
/-- A listed version is the last one of its case. -/
theorem listed_iff (hcontiguous : table.Contiguous) {caseId : Uuid} {n : ℕ} :
    (caseId, n) ∈ (listLatestCases table).map (fun row => (row.caseId, row.caseVersion)) ↔
      1 ≤ n ∧ ∀ v, HasVersion table caseId v ↔ 1 ≤ v ∧ v ≤ n := by
  have hversions (v : ℕ) : HasVersion table caseId v ↔ 1 ≤ v ∧ v ≤ table.maxVersion caseId :=
    hcontiguous.exists_iff
  rw [List.mem_map]
  constructor
  · rintro ⟨row, hrow, hnames⟩
    obtain ⟨rfl, rfl⟩ := Prod.mk.inj hnames
    obtain ⟨hmem, hmax⟩ := mem_listLatestCases.mp hrow
    refine ⟨hcontiguous.positive row hmem, fun v => ?_⟩
    rw [hversions, hmax]
  · rintro ⟨hpositive, hall⟩
    obtain ⟨row, hrow, rfl, rfl⟩ := (hall n).mpr ⟨hpositive, le_rfl⟩
    have hle := Table.version_le_maxVersion hrow
    have hlast := (hversions _).mpr ⟨hpositive.trans hle, le_rfl⟩
    exact ⟨row, mem_listLatestCases.mpr ⟨hrow, hle.antisymm ((hall _).mp hlast).2⟩, rfl⟩

/-- **The list of a table without gaps** names the last version of every case, once. -/
theorem listCases_returns (hcontiguous : table.Contiguous)
    (htype : ∀ row ∈ table, ∃ sourceType : CaseSourceType, row.sourceType = sourceType.value) :
    ∃ summaries, listCases table = .ok summaries ∧ (summaries.map (·.caseId)).Nodup ∧
      ∀ caseId n, (∃ summary ∈ summaries, summary.caseId = caseId ∧ summary.latestVersion = n) ↔
        1 ≤ n ∧ ∀ v, HasVersion table caseId v ↔ 1 ≤ v ∧ v ≤ n := by
  obtain ⟨summaries, hlist, hnames⟩ := listCases_names hcontiguous htype
  refine ⟨summaries, hlist, ?_, fun caseId n => ?_⟩
  · have hids := congrArg (List.map Prod.fst) hnames
    rw [List.map_map, List.map_map] at hids
    have hnodup := nodup_listLatestCases table
    exact Eq.mpr (congrArg List.Nodup hids) hnodup
  · rw [← listed_iff hcontiguous, ← hnames, List.mem_map]
    refine exists_congr fun summary => and_congr_right fun _ => ?_
    rw [Prod.mk.injEq]

end List

/-! ## The history -/

section History

variable [HashFunctions] [UnicodeTables] [FloatRepr] {Id : Type} [DecidableEq Id]

/-- **What holds of the case library** after a schedule of the steps of the calls. -/
structure AppendOnly (calls : Id → SaveCaseCall) (schedule : List Id) : Prop where
  /-- The versions of each case are exactly those from one to some number. -/
  versions : ∀ caseId, ∃ n, ∀ v,
    HasVersion (caseSaves calls schedule).shared caseId v ↔ 1 ≤ v ∧ v ≤ n
  /-- No two versions of a case have the same content hash, and no two rows the same version. -/
  distinct : ∀ row ∈ (caseSaves calls schedule).shared,
    ∀ other ∈ (caseSaves calls schedule).shared, row.caseId = other.caseId →
      row.caseVersion = other.caseVersion ∨ row.bundleContentHash = other.bundleContentHash →
        row = other
  /-- No stored row is changed or removed. -/
  kept : ∀ earlier later, schedule = earlier ++ later →
    (caseSaves calls earlier).shared.rows <:+ (caseSaves calls schedule).shared.rows
  /-- The list of the cases reports for every case its last version. -/
  listed : ∃ summaries, listCases (caseSaves calls schedule).shared = .ok summaries ∧
    (summaries.map (·.caseId)).Nodup ∧
    ∀ caseId n, (∃ summary ∈ summaries, summary.caseId = caseId ∧ summary.latestVersion = n) ↔
      1 ≤ n ∧ ∀ v, HasVersion (caseSaves calls schedule).shared caseId v ↔ 1 ≤ v ∧ v ≤ n
  /-- A call that raises leaves the store as it was, in all of its steps. -/
  raised : ∀ i error, (caseSaves calls schedule).locals i = .raised error →
    ∀ earlier later, schedule = earlier ++ i :: later →
      (caseSaves calls (earlier ++ [i])).shared = (caseSaves calls earlier).shared

/-- **The case library is append-only**, for every interleaving of any saves. -/
theorem appendOnly_caseSaves (calls : Id → SaveCaseCall) (schedule : List Id) :
    AppendOnly calls schedule := by
  have hcontiguous : (caseSaves calls schedule).shared.Contiguous :=
    contiguous_saves (fun i => (calls i).checked) schedule
  refine ⟨fun caseId => ?_, fun row hrow other hother hid hsame => ?_, ?_, ?_, ?_⟩
  · exact ⟨_, fun v => hcontiguous.exists_iff⟩
  · exact Table.eq_of_conflict hrow hother ⟨hid, hsame⟩
  · rintro earlier later rfl
    exact rows_suffix_saves (fun i => (calls i).checked) earlier later
  · refine listCases_returns hcontiguous fun row hrow => ?_
    obtain ⟨j, request, v, hcall, -, rfl⟩ := rows_of_saves hrow
    obtain ⟨-, -, rfl⟩ := SaveCaseCall.checked_eq_ok.mp hcall
    exact ⟨(calls j).sourceType, rfl⟩
  · intro i error hraised earlier later hsplit
    have hidle : Pool.Idle (fun i => saveStep (calls i).checked) ⟨.empty, fun _ => .reading⟩
        schedule i := by
      apply idle_of_not_returned
      intro saved hreturned
      cases hraised.symm.trans hreturned
    rw [caseSaves, Pool.run_concat]
    exact hidle earlier later hsplit

end History

end ObservabilityLab
