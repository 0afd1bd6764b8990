import ObservabilityLab.Bundle.Stored
import ObservabilityLab.Versioning.Save

/-!
# The regression case library

The service that saves accepted bundles as immutable case versions and reads them back from a JSON
column. Any number of `save_case` calls interleave on one table of stored cases.

## Main definitions

* `StoredCase`: one row, versioned by case with the hash of its bundle
* `saveCase`, `getCase`: the steps of one save, and the retrieval of one version
* `SavedAs`: what a normal return of a save promises

## Main results

* `getCase_of_mem`: a stored case whose bundle the column keeps is retrieved, with the bundle that
  was saved
* `savedAs_iff`: a save that returned kept its promise exactly when it found its own bundle each
  time it read the table again and the column keeps its bundle
-/

namespace ObservabilityLab

open Python VersionedTable Interleaving

/-! ## Errors -/

section Errors

variable [UnicodeTables]

/-- `ReviewRequiredError(scenario_id=scenarioId, state=state)` -/
def reviewRequiredError (scenarioId state : String) : PyError :=
  .domain "case_review_required" ("Scenario " ++ reprText scenarioId ++ " has review state " ++
    reprText state ++ "; only an approved review may save an accepted regression case")
    unprocessableEntity

end Errors

/-- `InvalidCaseBundleError(detail=detail)` -/
def invalidCaseBundleError (detail : String) : PyError :=
  .domain "invalid_case_bundle" ("The bundle cannot enter the case library: " ++ detail)
    unprocessableEntity

/-- `CaseNotFoundError(case_id=caseId, case_version=caseVersion)` -/
def caseNotFoundError (caseId : Uuid) (caseVersion : Option ℕ) : PyError :=
  .domain "case_not_found" ("No regression case " ++ caseId.str ++
    caseVersion.elim "" (fun v => " version " ++ toString v) ++ " exists") notFound

/-! ## Stored cases -/

/-- One immutable case version with its serialized bundle. -/
structure StoredCase where
  caseId : Uuid
  caseVersion : ℕ
  sourceType : String
  scenarioId : String
  bundleContentHash : HexDigest
  sourcePlatform : Option String
  sourceTraceId : Option String
  sourceUrl : Option String
  evidenceContentHash : Option HexDigest
  configurationVersion : Option String
  /-- The bundle as it was written to the column. -/
  bundleJson : SimulationBundle
  createdAt : Timestamp

instance : Versioned StoredCase Uuid HexDigest where
  key := StoredCase.caseId
  version := StoredCase.caseVersion
  hash := StoredCase.bundleContentHash

section Service

variable [HashFunctions]

def regressionCaseNamespace : Uuid :=
  (Uuid.parse "9c4f1d6a-3b8e-4a7f-9c2d-5e1b7a0f6d34").get (by decide +kernel)

/-- The stable case id for one scenario and source type. -/
def stableCaseId (scenarioId : String) (sourceType : CaseSourceType) : Uuid :=
  HashFunctions.uuid5 regressionCaseNamespace (scenarioId ++ "|" ++ sourceType.value)

variable [UnicodeTables] [FloatRepr]

/-- The arguments of one call of `save_case`, and the instant at which it stores its row. A bundle
that passes the checks of the call was built by its schema. -/
structure SaveCaseCall where
  bundle : SimulationBundle
  sourceType : CaseSourceType
  createdAt : Timestamp
  built : bundle.review.status = .approved →
    bundle.contentHash = some (computeBundleHash bundle) → bundle.validate = .ok bundle

/-! ## Saving -/

def SaveCaseCall.caseId (call : SaveCaseCall) : Uuid :=
  stableCaseId call.bundle.scenario.scenarioId call.sourceType

/-- `StoredCase(...)` of one version, for the content hash of the bundle -/
def SaveCaseCall.storedCase (call : SaveCaseCall) (contentHash : HexDigest) (caseVersion : ℕ) :
    StoredCase where
  caseId := call.caseId
  caseVersion := caseVersion
  sourceType := call.sourceType.value
  scenarioId := call.bundle.scenario.scenarioId
  bundleContentHash := contentHash
  sourcePlatform := call.bundle.evidenceRef.map (·.platform)
  sourceTraceId := call.bundle.evidenceRef.map (·.traceId)
  sourceUrl := call.bundle.evidenceRef.bind (·.url)
  evidenceContentHash := call.bundle.evidenceContentHash
  configurationVersion := call.bundle.configurationVersions.configurationVersion
  bundleJson := call.bundle.jsonMode
  createdAt := call.createdAt

/-- What an accepted call submits to the table. -/
def SaveCaseCall.request (call : SaveCaseCall) (contentHash : HexDigest) :
    SaveRequest StoredCase where
  id := call.caseId
  contentHash := contentHash
  row := call.storedCase contentHash
  notFound := caseNotFoundError call.caseId none
  key_row _ := rfl
  version_row _ := rfl
  hash_row _ := rfl

/-- The checks that `save_case` makes before it reads the table. -/
def SaveCaseCall.checked (call : SaveCaseCall) : Raises (SaveRequest StoredCase) := do
  raiseIf (call.bundle.review.status ≠ .approved)
    (reviewRequiredError call.bundle.scenario.scenarioId call.bundle.review.status.value)
  match call.bundle.contentHash with
  | some contentHash => do
    raiseIf (contentHash ≠ computeBundleHash call.bundle)
      (invalidCaseBundleError "content hash does not match the bundle content")
    .ok (call.request contentHash)
  | none => .error (invalidCaseBundleError "content hash does not match the bundle content")

/-- The next operation of one `save_case` call. -/
def saveCase (call : SaveCaseCall) (table : Table StoredCase) (stage : SaveStage StoredCase) :
    Table StoredCase × SaveStage StoredCase :=
  saveStep call.checked table stage

/-- `CaseSaveResult(...)` -/
def SaveCaseCall.result (call : SaveCaseCall) (saved : Saved) : CaseSaveResult where
  status := saved.status
  caseId := call.caseId
  caseVersion := saved.version
  bundleContentHash := saved.hash

/-! ## Retrieval -/

variable [JsonColumn]

/-- One exact immutable version of one case: what the column gives back, validated again. -/
def getCase (table : Table StoredCase) (caseId : Uuid) (caseVersion : ℕ) :
    Raises RegressionCase :=
  match table.find caseId caseVersion with
  | none => .error (caseNotFoundError caseId (some caseVersion))
  | some row => do
    let bundle ← row.bundleJson.stored.validate
    match CaseSourceType.ofValue row.sourceType with
    | some sourceType =>
      RegressionCase.new row.caseId row.caseVersion sourceType row.scenarioId bundle
        row.bundleContentHash bundle.evidenceRef bundle.evidenceContentHash
        bundle.configurationVersions row.createdAt
    | none => .error (.value (reprText row.sourceType ++ " is not a valid CaseSourceType"))

variable {call : SaveCaseCall}

omit [JsonColumn] in
/-- **What an accepted call satisfies.** -/
theorem SaveCaseCall.checked_eq_ok {request : SaveRequest StoredCase} :
    call.checked = .ok request ↔ call.bundle.review.status = .approved ∧
      call.bundle.contentHash = some (computeBundleHash call.bundle) ∧
      call.request (computeBundleHash call.bundle) = request := by
  rw [SaveCaseCall.checked, check_bind_eq_ok, raiseIf_eq_ok, decide_eq_false_iff_not, not_not]
  refine and_congr_right fun _ => ?_
  cases hhash : call.bundle.contentHash with
  | none => simp
  | some contentHash =>
    simp only [check_bind_eq_ok, raiseIf_eq_ok, decide_eq_false_iff_not, not_not,
      Option.some.injEq, Except.ok.injEq]
    refine and_congr_right fun heq => ?_
    rw [heq]

/-- **A stored version of an accepted call is retrieved**, with the bundle that was saved, when the
column keeps that bundle. -/
theorem getCase_of_mem {table : Table StoredCase} {contentHash : HexDigest} {v : ℕ}
    (hkept : call.bundle.Kept)
    (hbundle : call.bundle.validate = .ok call.bundle)
    (hhash : call.bundle.contentHash = some contentHash) (hv : 1 ≤ v)
    (h : call.storedCase contentHash v ∈ table) :
    ∃ case, getCase table call.caseId v = .ok case ∧ case.bundle = call.bundle.jsonMode := by
  have hfind : table.find call.caseId v = some (call.storedCase contentHash v) :=
    Table.find_eq_some h
  have hvalid : (call.storedCase contentHash v).bundleJson.stored.validate =
      .ok call.bundle.jsonMode := by
    rw [SaveCaseCall.storedCase, SimulationBundle.stored_jsonMode hkept]
    exact SimulationBundle.validate_jsonMode hbundle
  have htype : CaseSourceType.ofValue (call.storedCase contentHash v).sourceType =
      some call.sourceType := CaseSourceType.ofValue_value call.sourceType
  simp only [getCase, hfind, hvalid, htype, bind, Except.bind]
  exact RegressionCase.exists_new hv hhash rfl

/-- What a retrieved case comes from. -/
theorem exists_row_of_getCase {table : Table StoredCase} {caseId : Uuid} {v : ℕ}
    {case : RegressionCase} (h : getCase table caseId v = .ok case) :
    ∃ row, table.find caseId v = some row ∧ row.bundleJson.stored.validate = .ok case.bundle ∧
      case.caseId = caseId ∧ case.caseVersion = v := by
  unfold getCase at h
  split at h
  · cases h
  · rename_i row hrow
    have hnames := List.find?_some hrow
    rw [decide_eq_true_eq] at hnames
    obtain ⟨bundle, hbundle, h⟩ := bind_eq_ok.mp h
    split at h
    · unfold RegressionCase.new at h
      split_ifs at h
      obtain rfl := Except.ok.inj h
      exact ⟨row, hrow, hbundle, hnames⟩
    · cases h

/-! ## Saved means stored -/

/-- What a normal return of `save_case` promises: the returned version is stored with the hash of
the submitted bundle, which is the returned hash, and its retrieval gives the submitted bundle. -/
structure SavedAs (call : SaveCaseCall) (table : Table StoredCase) (result : CaseSaveResult) :
    Prop where
  stored : ∃ row ∈ table, row.caseId = result.caseId ∧ row.caseVersion = result.caseVersion ∧
    row.bundleContentHash = computeBundleHash call.bundle
  hash : result.bundleContentHash = computeBundleHash call.bundle
  retrieved : ∃ case, getCase table result.caseId result.caseVersion = .ok case ∧
    case.bundle.dump = call.bundle.dump ∧ case.bundle.contentHash = call.bundle.contentHash ∧
      case.bundle.bundleId = call.bundle.bundleId

variable {Id : Type} [DecidableEq Id]

/-- The table and the stages of the calls after a schedule of their steps, from an empty table. -/
def caseSaves (calls : Id → SaveCaseCall) (schedule : List Id) :
    Pool Id (Table StoredCase) (SaveStage StoredCase) :=
  Pool.run (fun i => saveCase (calls i)) ⟨.empty, fun _ => .reading⟩ schedule

/-- Whenever a call reads the table again after a failed insertion, the newest version of its case
holds the submitted bundle. -/
def RereadsOwnBundle (calls : Id → SaveCaseCall) (schedule : List Id) (i : Id) : Prop :=
  ∀ earlier later, schedule = earlier ++ i :: later →
    (caseSaves calls earlier).locals i = .rereading →
      ∀ latest ∈ (caseSaves calls earlier).shared.latest (calls i).caseId,
        latest.bundleContentHash = computeBundleHash (calls i).bundle

variable {calls : Id → SaveCaseCall} {schedule : List Id} {i : Id} {saved : Saved}

omit [JsonColumn] in
/-- A save returned the hash of its own bundle exactly when it found that bundle each time it read
the table again. -/
theorem hash_of_returned_case
    (hcall : (calls i).checked = .ok ((calls i).request (computeBundleHash (calls i).bundle)))
    (h : (caseSaves calls schedule).locals i = .returned saved) :
    saved.hash = computeBundleHash (calls i).bundle ↔ RereadsOwnBundle calls schedule i :=
  hash_of_returned (fun i => (calls i).checked) hcall h

/-- A stored case that has the hash of the submitted bundle is retrieved as that bundle, when no
other submitted bundle has that hash and the column keeps it. -/
theorem getCase_of_hash
    (hinj : Set.InjOn HashFunctions.jsonSha256 (Set.range fun j => (calls j).bundle.dump))
    (hkept : (calls i).bundle.Kept) {row : StoredCase}
    (hrow : row ∈ (caseSaves calls schedule).shared)
    (hhash : row.bundleContentHash = computeBundleHash (calls i).bundle) :
    ∃ case, getCase (caseSaves calls schedule).shared row.caseId row.caseVersion = .ok case ∧
      case.bundle.dump = (calls i).bundle.dump ∧
      case.bundle.contentHash = some (computeBundleHash (calls i).bundle) ∧
      case.bundle.bundleId = some (derivedBundleId (computeBundleHash (calls i).bundle)) := by
  obtain ⟨j, request, v, hcall, hv, rfl⟩ := rows_of_saves hrow
  obtain ⟨happroved, hcontent, rfl⟩ := SaveCaseCall.checked_eq_ok.mp hcall
  have hdump : (calls j).bundle.dump = (calls i).bundle.dump := hinj ⟨j, rfl⟩ ⟨i, rfl⟩ hhash
  have hbundle := (calls j).built happroved hcontent
  rw [← SimulationBundle.kept_congr hdump] at hkept
  obtain ⟨case, hcase, hread⟩ := getCase_of_mem hkept hbundle hcontent hv hrow
  refine ⟨case, hcase, ?_, ?_, ?_⟩
  · rw [hread, SimulationBundle.dump_jsonMode, hdump]
  · rw [hread]
    exact hcontent.trans (congrArg some hhash)
  · obtain ⟨-, -, -, -, hself⟩ := SimulationBundle.validate_eq_ok.mp hbundle
    rw [hread, ← hhash]
    exact (congrArg SimulationBundle.bundleId hself).symm

/-- What is retrieved of a stored case has the dump of the submitted bundle only if the column keeps
that bundle. -/
theorem kept_of_getCase
    (hinj : Set.InjOn HashFunctions.jsonSha256 (Set.range fun j => (calls j).bundle.dump))
    {caseId : Uuid} {v : ℕ} {case : RegressionCase}
    (h : getCase (caseSaves calls schedule).shared caseId v = .ok case)
    (hdump : case.bundle.dump = (calls i).bundle.dump) :
    (calls i).bundle.Kept := by
  obtain ⟨row, hrow, hvalid, -⟩ := exists_row_of_getCase h
  obtain ⟨j, request, v, hcall, -, rfl⟩ := rows_of_saves (List.mem_of_find?_eq_some hrow)
  obtain ⟨-, hcontent, rfl⟩ := SaveCaseCall.checked_eq_ok.mp hcall
  obtain ⟨-, hhash, -, -, hread⟩ := SimulationBundle.validate_eq_ok.mp hvalid
  rw [← hread, SimulationBundle.dump_withIdentity] at hdump
  -- the hash that is checked on retrieval is that of the bundle as it was written
  have hwritten : (calls j).bundle.dump = (calls i).bundle.dump :=
    hinj ⟨j, rfl⟩ ⟨i, rfl⟩ ((hhash _ hcontent).trans (congrArg HashFunctions.jsonSha256 hdump))
  rw [← SimulationBundle.kept_congr hwritten]
  exact SimulationBundle.kept_of_dump (hdump.trans hwritten.symm)

/-- **When saved means stored**: a save that returned kept its promise exactly when it found its
own bundle each time it read the table again and the column keeps its bundle. -/
theorem savedAs_iff
    (hinj : Set.InjOn HashFunctions.jsonSha256 (Set.range fun j => (calls j).bundle.dump))
    (h : (caseSaves calls schedule).locals i = .returned saved) :
    SavedAs (calls i) (caseSaves calls schedule).shared ((calls i).result saved) ↔
      RereadsOwnBundle calls schedule i ∧ (calls i).bundle.Kept := by
  obtain ⟨request, hcall, row, hrow, hkey, hversion, hhash⟩ := row_of_returned h
  obtain ⟨happroved, hcontent, rfl⟩ := SaveCaseCall.checked_eq_ok.mp hcall
  rw [← hash_of_returned_case hcall h]
  constructor
  · rintro ⟨-, hreturned, case, hcase, hdump, -⟩
    exact ⟨hreturned, kept_of_getCase hinj hcase hdump⟩
  · rintro ⟨hown, hkept⟩
    have hsubmitted : row.bundleContentHash = computeBundleHash (calls i).bundle :=
      Eq.trans hhash hown
    obtain ⟨case, hcase, hdump, hcontentHash, hid⟩ := getCase_of_hash hinj hkept hrow hsubmitted
    obtain ⟨-, -, -, -, hself⟩ :=
      SimulationBundle.validate_eq_ok.mp ((calls i).built happroved hcontent)
    refine ⟨⟨row, hrow, hkey, hversion, hsubmitted⟩, hown, case, ?_, hdump, ?_, ?_⟩
    · rw [← hcase]
      exact congrArg₂ (getCase _) hkey.symm hversion.symm
    · rw [hcontentHash, hcontent]
    · rw [hid]
      exact congrArg SimulationBundle.bundleId hself

end Service

/-! ## Concrete saves -/

section Small

/-- Hash functions that tell two messages apart, and give one identifier. -/
@[reducible] def messageHashes : HashFunctions where
  jsonSha256 v := if "refund" ∈ v.texts then .repeated 0 else .repeated 1
  uuid5 _ _ := .repeated 0

attribute [local instance] asciiTables oneDecimalRepr messageHashes numericColumn

def smallMessage (changed : Bool) : String := if changed then "cancel" else "refund"

/-- Two bundles of one scenario. -/
def messageBundle (changed : Bool) : SimulationBundle :=
  (smallBundle "phase2-01-refund" (smallMessage changed)
    (by cases changed <;> decide +kernel)).withIdentity

theorem validate_messageBundle (changed : Bool) :
    (messageBundle changed).validate = .ok (messageBundle changed) := by
  refine SimulationBundle.validate_withIdentity (validateBundleContent_smallBundle ?_ ?_) rfl
  · exact isSafeText_of_chars (by decide)
  · cases changed with
    | false => exact isSafeText_of_chars (by decide)
    | true => exact isSafeText_of_chars (by decide)

/-- A call that saves one of the bundles. -/
def messageCall (changed : Bool) : SaveCaseCall where
  bundle := messageBundle changed
  sourceType := .incident
  createdAt := smallTimestamp
  built _ _ := validate_messageBundle changed

/-- A bundle, a changed one, and the first again. -/
def threeCalls (i : Fin 3) : SaveCaseCall := messageCall (i = 1)

theorem hash_messageBundle : HashFunctions.jsonSha256 (messageBundle false).dump ≠
    HashFunctions.jsonSha256 (messageBundle true).dump := by
  decide +kernel

theorem injOn_threeCalls :
    Set.InjOn HashFunctions.jsonSha256 (Set.range fun i => (threeCalls i).bundle.dump) := by
  rintro _ ⟨i, rfl⟩ _ ⟨j, rfl⟩ h
  change HashFunctions.jsonSha256 (messageBundle (i = 1)).dump =
    HashFunctions.jsonSha256 (messageBundle (j = 1)).dump at h
  change (messageBundle (i = 1)).dump = (messageBundle (j = 1)).dump
  -- the equal bundles are closed by the rewriting
  cases hi : decide (i = 1) <;> cases hj : decide (j = 1) <;> rw [hi, hj] at h
  · exact absurd h hash_messageBundle
  · exact absurd h.symm hash_messageBundle

theorem locals_threeCalls :
    (caseSaves threeCalls [0, 0]).locals 0 = .returned ⟨.created, 1, .repeated 0⟩ ∧
      (caseSaves threeCalls [0, 0, 1, 1, 2, 2, 2]).locals 2 =
        .returned ⟨.updated, 2, .repeated 1⟩ ∧
      (caseSaves threeCalls [0, 1, 0, 1, 1]).locals 1 = .returned ⟨.updated, 1, .repeated 0⟩ := by
  simp only [← SaveStage.saved_eq_some]
  decide +kernel

/-- `savedAs_iff` on the save of a new bundle. -/
theorem savedAs_threeCalls :
    SavedAs (threeCalls 0) (caseSaves threeCalls [0, 0]).shared
        ((threeCalls 0).result ⟨.created, 1, .repeated 0⟩) ↔
      RereadsOwnBundle threeCalls [0, 0] 0 ∧ (threeCalls 0).bundle.Kept :=
  savedAs_iff injOn_threeCalls locals_threeCalls.1

/-- A bundle is saved, then a changed one, then the first again: the last call is told `UPDATED`
with the version of the changed bundle. Two calls that save them at once: the second one is told
`UPDATED` with the version of the first. -/
theorem not_savedAs_threeCalls :
    ((caseSaves threeCalls [0, 0, 1, 1, 2, 2, 2]).locals 2 =
        .returned ⟨.updated, 2, .repeated 1⟩ ∧
      ¬ SavedAs (threeCalls 2) (caseSaves threeCalls [0, 0, 1, 1, 2, 2, 2]).shared
        ((threeCalls 2).result ⟨.updated, 2, .repeated 1⟩)) ∧
      (caseSaves threeCalls [0, 1, 0, 1, 1]).locals 1 = .returned ⟨.updated, 1, .repeated 0⟩ ∧
      ¬ SavedAs (threeCalls 1) (caseSaves threeCalls [0, 1, 0, 1, 1]).shared
        ((threeCalls 1).result ⟨.updated, 1, .repeated 0⟩) := by
  obtain ⟨-, hagain, hatOnce⟩ := locals_threeCalls
  have hfirst : HexDigest.repeated 1 ≠ computeBundleHash (threeCalls 2).bundle := by
    decide +kernel
  have hchanged : HexDigest.repeated 0 ≠ computeBundleHash (threeCalls 1).bundle := by
    decide +kernel
  exact ⟨⟨hagain, fun h => hfirst h.hash⟩, hatOnce, fun h => hchanged h.hash⟩

end Small

end ObservabilityLab
