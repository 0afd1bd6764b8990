import ObservabilityLab.Regression.History
import ObservabilityLab.Suite.OneVariable

/-!
# The two libraries

Suites name cases of another table, without a foreign key: `save_suite` looks each member up before
it stores its row. Saves of cases, saves of suites and starts of comparisons interleave, each
operation of a repository being one step. A comparison reads its suite and then one case after the
other.

## Main definitions

* `Libraries`: the tables of the two services
* `LibraryStage`, `libraryStep`: where a call stands, and its next operation
* `libraryRun`: the libraries and the stages after a schedule, from empty tables
* `Libraries.Sound`, `LibraryStage.Known`: what holds of the libraries, and what a call knows

## Main results

* `Libraries.Sound.getCase`: a stored case version whose bundle the column keeps is retrieved, and
  the bundle is approved
* `sound_libraryRun`: every stored suite names stored case versions, for every interleaving
* `comparison_started`: no stored suite names a missing case, and the comparison of a retrievable
  suite starts with exactly its members
-/

namespace ObservabilityLab

open Python VersionedTable Interleaving

/-- The stored cases and the stored suites. -/
structure Libraries where
  cases : Table StoredCase
  suites : Table StoredSuite

/-- The arguments of one call of `save_suite`, and the instant at which it stores its row. -/
structure SuiteSubmission where
  name : String
  members : List SuiteMemberRef
  createdAt : Timestamp

/-- The call, with the answers of a case library. -/
def SuiteSubmission.answered (submission : SuiteSubmission)
    (caseExists : SuiteMemberRef → Bool) : SaveSuiteCall where
  name := submission.name
  members := submission.members
  caseExists := caseExists
  createdAt := submission.createdAt

/-- `await self._cases.case_version(member.case_id, member.case_version)` finds a row. -/
def findsCase (cases : Table StoredCase) (member : SuiteMemberRef) : Bool :=
  (cases.find member.caseId member.caseVersion).isSome

section Libraries

variable [HashFunctions] [UnicodeTables] [FloatRepr] [JsonColumn]

/-- What a submission that passed its checks submits to the table. -/
def SuiteSubmission.request (submission : SuiteSubmission) : SaveRequest StoredSuite :=
  (submission.answered fun _ => true).request

/-- Where a call on the libraries stands. -/
inductive LibraryStage where
  | savingCase (call : SaveCaseCall) (stage : SaveStage StoredCase)
  /-- Before the rest of the members is looked up. -/
  | checking (submission : SuiteSubmission) (seen rest : List SuiteMemberRef)
  | savingSuite (submission : SuiteSubmission) (stage : SaveStage StoredSuite)
  /-- Before a comparison reads its suite. -/
  | comparing (suiteId : Uuid) (suiteVersion : ℕ)
  /-- Before a comparison reads the rest of its cases. -/
  | resolving (suite : CaseSuite) (resolved : List RegressionCase) (rest : List SuiteMemberRef)
  | started (suite : CaseSuite) (cases : List RegressionCase)
  | refused (error : PyError)

/-- A call on the libraries. -/
inductive LibraryCall where
  | saveCase (call : SaveCaseCall)
  | saveSuite (submission : SuiteSubmission)
  /-- `start_comparison` of one exact suite version. -/
  | compare (suiteId : Uuid) (suiteVersion : ℕ)

/-- A call before its first operation. -/
def LibraryCall.start : LibraryCall → LibraryStage
  | .saveCase call => .savingCase call .reading
  | .saveSuite submission =>
    if submission.members = [] then .savingSuite submission (.raised emptySuiteError)
    else .checking submission [] submission.members
  | .compare suiteId suiteVersion => .comparing suiteId suiteVersion

/-- The next turn of the loop over the members of `save_suite`. -/
def SuiteSubmission.check (submission : SuiteSubmission) (cases : Table StoredCase)
    (seen : List SuiteMemberRef) : List SuiteMemberRef → LibraryStage
  | [] => .savingSuite submission .reading
  | member :: rest =>
    if member ∈ seen then
      .savingSuite submission (.raised (invalidSuiteError ("duplicate member " ++ member.text)))
    else if findsCase cases member then .checking submission (member :: seen) rest
    else .savingSuite submission (.raised (invalidSuiteError
      ("member case " ++ member.text ++ " does not exist in the case library")))

/-- The next operation of a call. -/
def libraryStep (libraries : Libraries) : LibraryStage → Libraries × LibraryStage
  | .savingCase call stage =>
    ({ libraries with cases := (saveCase call libraries.cases stage).1 },
      .savingCase call (saveCase call libraries.cases stage).2)
  | .checking submission seen rest => (libraries, submission.check libraries.cases seen rest)
  | .savingSuite submission stage =>
    ({ libraries with suites := (submission.request.step libraries.suites stage).1 },
      .savingSuite submission (submission.request.step libraries.suites stage).2)
  | .comparing suiteId suiteVersion =>
    match getSuite libraries.suites suiteId suiteVersion with
    | .ok suite => (libraries, .resolving suite [] suite.members)
    | .error error => (libraries, .refused error)
  | .resolving suite resolved [] => (libraries, .started suite resolved)
  | .resolving suite resolved (member :: rest) =>
    match getCase libraries.cases member.caseId member.caseVersion with
    | .ok case => (libraries, .resolving suite (resolved ++ [case]) rest)
    | .error error => (libraries, .refused error)
  | .started suite cases => (libraries, .started suite cases)
  | .refused error => (libraries, .refused error)

variable {Id : Type} [DecidableEq Id]

/-- The libraries and the stages of the calls after a schedule, from empty tables. -/
def libraryRun (calls : Id → LibraryCall) (schedule : List Id) :
    Pool Id Libraries LibraryStage :=
  Pool.run (fun _ => libraryStep) ⟨⟨.empty, .empty⟩, fun i => (calls i).start⟩ schedule

/-! ## What holds of the libraries -/

/-- The case version that a member names is stored. -/
def MemberStored (cases : Table StoredCase) (member : SuiteMemberRef) : Prop :=
  HasVersion cases member.caseId member.caseVersion

/-- The column keeps the bundle of the case version that a member names. -/
def MemberKept (cases : Table StoredCase) (member : SuiteMemberRef) : Prop :=
  ∀ row ∈ cases, row.caseId = member.caseId → row.caseVersion = member.caseVersion →
    row.bundleJson.Kept

/-- A case is the approved version that a member names, and it is what the library returns. -/
structure NamesCase (cases : Table StoredCase) (member : SuiteMemberRef) (case : RegressionCase) :
    Prop where
  caseId : member.caseId = case.caseId
  caseVersion : member.caseVersion = case.caseVersion
  approved : case.bundle.review.status = .approved
  retrieved : getCase cases member.caseId member.caseVersion = .ok case

/-- What holds of the libraries: every stored case is a version of an accepted bundle, and every
stored suite names stored case versions. -/
structure Libraries.Sound (libraries : Libraries) : Prop where
  cases : ∀ row ∈ libraries.cases, ∃ call : SaveCaseCall, ∃ v,
    call.bundle.review.status = .approved ∧
      call.bundle.contentHash = some (computeBundleHash call.bundle) ∧ 1 ≤ v ∧
        row = call.storedCase (computeBundleHash call.bundle) v
  suites : ∀ row ∈ libraries.suites, ∃ submission : SuiteSubmission, ∃ v,
    row = (submission.answered fun _ => true).storedSuite v ∧
      ∀ member ∈ submission.members, MemberStored libraries.cases member

/-- What a call knows of the case library. -/
def LibraryStage.Known (cases : Table StoredCase) : LibraryStage → Prop
  | .checking submission _ rest =>
    ∀ member ∈ submission.members, member ∈ rest ∨ MemberStored cases member
  | .savingSuite submission stage =>
    (∃ error, stage = .raised error) ∨ ∀ member ∈ submission.members, MemberStored cases member
  | .resolving suite resolved rest =>
    (∀ member ∈ rest, MemberStored cases member) ∧
      ∃ done, suite.members = done ++ rest ∧ List.Forall₂ (NamesCase cases) done resolved
  | .started suite resolved => List.Forall₂ (NamesCase cases) suite.members resolved
  | _ => True

/-! ## Retrieval -/

variable {libraries : Libraries} {cases later : Table StoredCase} {stage : LibraryStage}
  {member : SuiteMemberRef}

omit [HashFunctions] [UnicodeTables] [FloatRepr] [JsonColumn] in
theorem MemberStored.mono (h : MemberStored cases member) (hkept : ∀ row ∈ cases, row ∈ later) :
    MemberStored later member := by
  obtain ⟨row, hrow, hnames⟩ := h
  exact ⟨row, hkept row hrow, hnames⟩

omit [HashFunctions] [UnicodeTables] [FloatRepr] [JsonColumn] in
/-- A member that is found is stored. -/
theorem memberStored_of_findsCase (h : findsCase cases member = true) :
    MemberStored cases member := by
  obtain ⟨row, hrow⟩ := Option.isSome_iff_exists.mp h
  have hnames := List.find?_some hrow
  rw [decide_eq_true_eq] at hnames
  exact ⟨row, List.mem_of_find?_eq_some hrow, hnames⟩

/-- What the case library returns is the approved version that was asked for. -/
theorem NamesCase.of_getCase {case : RegressionCase}
    (h : getCase cases member.caseId member.caseVersion = .ok case) :
    NamesCase cases member case := by
  obtain ⟨row, -, hvalid, hid, hversion⟩ := exists_row_of_getCase h
  obtain ⟨-, -, -, happroved, hread⟩ := SimulationBundle.validate_eq_ok.mp hvalid
  refine ⟨hid.symm, hversion.symm, ?_, h⟩
  rw [← hread]
  exact happroved

/-- A longer table returns the same case. -/
theorem getCase_mono {caseId : Uuid} {v : ℕ} {case : RegressionCase}
    (h : getCase cases caseId v = .ok case) (hkept : ∀ row ∈ cases, row ∈ later) :
    getCase later caseId v = .ok case := by
  cases hfind : cases.find caseId v with
  | none =>
    simp only [getCase, hfind] at h
    cases h
  | some row =>
    have hnames := List.find?_some hfind
    rw [decide_eq_true_eq] at hnames
    have hlater : later.find caseId v = some row := by
      rw [← hnames.1, ← hnames.2]
      exact Table.find_eq_some (hkept row (List.mem_of_find?_eq_some hfind))
    simp only [getCase, hfind] at h
    simp only [getCase, hlater]
    exact h

theorem NamesCase.mono {case : RegressionCase} (h : NamesCase cases member case)
    (hkept : ∀ row ∈ cases, row ∈ later) : NamesCase later member case :=
  ⟨h.caseId, h.caseVersion, h.approved, getCase_mono h.retrieved hkept⟩

omit [HashFunctions] [JsonColumn] in
/-- A longer table returns the same suite. -/
theorem getSuite_mono {suites more : Table StoredSuite} {suiteId : Uuid} {v : ℕ}
    {suite : CaseSuite} (h : getSuite suites suiteId v = .ok suite)
    (hkept : ∀ row ∈ suites, row ∈ more) : getSuite more suiteId v = .ok suite := by
  cases hfind : suites.find suiteId v with
  | none =>
    simp only [getSuite, hfind] at h
    cases h
  | some row =>
    have hnames := List.find?_some hfind
    rw [decide_eq_true_eq] at hnames
    have hmore : more.find suiteId v = some row := by
      rw [← hnames.1, ← hnames.2]
      exact Table.find_eq_some (hkept row (List.mem_of_find?_eq_some hfind))
    simp only [getSuite, hfind] at h
    simp only [getSuite, hmore]
    exact h

/-- **A stored case version is retrieved**, with an approved bundle, when the column keeps that
bundle. -/
theorem Libraries.Sound.getCase (h : libraries.Sound)
    (hmember : MemberStored libraries.cases member)
    (hkept : MemberKept libraries.cases member) :
    ∃ case, NamesCase libraries.cases member case := by
  obtain ⟨row, hrow, hid, hversion⟩ := hmember
  obtain ⟨call, v, happroved, hhash, hv, rfl⟩ := h.cases row hrow
  have hbundle : call.bundle.Kept :=
    (SimulationBundle.kept_congr (SimulationBundle.dump_jsonMode call.bundle)).mp
      (hkept _ hrow hid hversion)
  obtain ⟨case, hcase, -⟩ := getCase_of_mem hbundle (call.built happroved hhash) hhash hv hrow
  refine ⟨case, NamesCase.of_getCase ?_⟩
  rw [← hcase]
  exact congrArg₂ (ObservabilityLab.getCase _) hid.symm hversion.symm

omit [JsonColumn] in
/-- A retrievable suite names stored case versions. -/
theorem Libraries.Sound.memberStored_of_getSuite (h : libraries.Sound) {suiteId : Uuid} {v : ℕ}
    {suite : CaseSuite} (hsuite : getSuite libraries.suites suiteId v = .ok suite) :
    ∀ member ∈ suite.members, MemberStored libraries.cases member := by
  cases hfind : libraries.suites.find suiteId v with
  | none =>
    simp only [getSuite, hfind] at hsuite
    cases hsuite
  | some row =>
    have hrow : row ∈ libraries.suites := List.mem_of_find?_eq_some hfind
    have hnames := List.find?_some hfind
    rw [decide_eq_true_eq] at hnames
    obtain ⟨submission, w, rfl, hmembers⟩ := h.suites row hrow
    have hread : getSuite libraries.suites suiteId v =
        CaseSuite.new (stableSuiteId submission.name) w submission.name submission.members
          submission.createdAt := by
      rw [← hnames.1, ← hnames.2]
      exact getSuite_of_mem hrow
    rw [hread] at hsuite
    rw [(CaseSuite.new_fields hsuite).2]
    exact hmembers

/-! ## One step -/

/-- A longer table keeps what a call knows of it. -/
theorem LibraryStage.Known.mono (h : stage.Known cases)
    (hkept : ∀ row ∈ cases, row ∈ later) : stage.Known later := by
  cases stage with
  | checking submission seen rest =>
    exact fun member hmember => (h member hmember).imp_right (·.mono hkept)
  | savingSuite submission stage =>
    rcases h with hraised | hmembers
    · exact Or.inl hraised
    · exact Or.inr fun member hmember => (hmembers member hmember).mono hkept
  | resolving suite resolved rest =>
    obtain ⟨hrest, done, hdone, hnames⟩ := h
    exact ⟨fun member hmember => (hrest member hmember).mono hkept, done, hdone,
      hnames.imp fun _ _ hname => hname.mono hkept⟩
  | started suite resolved => exact List.Forall₂.imp (fun _ _ hname => hname.mono hkept) h
  | savingCase call stage => trivial
  | comparing suiteId suiteVersion => trivial
  | refused error => trivial

/-- No step removes a stored case. -/
theorem cases_suffix_libraryStep (libraries : Libraries) (stage : LibraryStage) :
    libraries.cases.rows <:+ (libraryStep libraries stage).1.cases.rows := by
  unfold libraryStep
  split
  · exact rows_suffix_saveStep _ _ _
  · exact List.suffix_rfl
  · exact List.suffix_rfl
  · split <;> exact List.suffix_rfl
  · exact List.suffix_rfl
  · split <;> exact List.suffix_rfl
  · exact List.suffix_rfl
  · exact List.suffix_rfl

/-- No step removes a stored suite. -/
theorem suites_suffix_libraryStep (libraries : Libraries) (stage : LibraryStage) :
    libraries.suites.rows <:+ (libraryStep libraries stage).1.suites.rows := by
  unfold libraryStep
  split
  · exact List.suffix_rfl
  · exact List.suffix_rfl
  · exact SaveRequest.rows_suffix_step _ _ _
  · split <;> exact List.suffix_rfl
  · exact List.suffix_rfl
  · split <;> exact List.suffix_rfl
  · exact List.suffix_rfl
  · exact List.suffix_rfl

/-- A submission that begins to save has found its members. -/
theorem known_check {submission : SuiteSubmission} {seen rest : List SuiteMemberRef}
    (h : (LibraryStage.checking submission seen rest).Known cases) :
    (submission.check cases seen rest).Known cases := by
  cases rest with
  | nil => exact Or.inr fun member hmember => (h member hmember).resolve_left List.not_mem_nil
  | cons next rest =>
    rw [SuiteSubmission.check]
    split_ifs with hseen hfound
    · exact Or.inl ⟨_, rfl⟩
    · intro member hmember
      rcases h member hmember with hrest | hresolves
      · rcases List.mem_cons.mp hrest with rfl | hrest
        · exact Or.inr (memberStored_of_findsCase hfound)
        · exact Or.inl hrest
      · exact Or.inr hresolves
    · exact Or.inl ⟨_, rfl⟩

/-- **What a call knows after its own step.** -/
theorem LibraryStage.Known.libraryStep (hsound : libraries.Sound)
    (h : stage.Known libraries.cases) :
    (libraryStep libraries stage).2.Known (libraryStep libraries stage).1.cases := by
  cases stage with
  | savingCase call stage => trivial
  | checking submission seen rest => exact known_check h
  | savingSuite submission stage =>
    rcases h with ⟨error, rfl⟩ | hmembers
    · exact Or.inl ⟨error, rfl⟩
    · exact Or.inr hmembers
  | comparing suiteId suiteVersion =>
    unfold ObservabilityLab.libraryStep
    dsimp only
    split
    · rename_i suite hsuite
      exact ⟨hsound.memberStored_of_getSuite hsuite, [], rfl, List.Forall₂.nil⟩
    · trivial
  | resolving suite resolved rest =>
    obtain ⟨hrest, done, hdone, hnames⟩ := h
    cases rest with
    | nil =>
      rw [List.append_nil] at hdone
      rw [← hdone] at hnames
      exact hnames
    | cons member rest =>
      unfold ObservabilityLab.libraryStep
      dsimp only
      split
      · rename_i case hcase
        refine ⟨fun other hother => hrest other (List.mem_cons_of_mem _ hother), done ++ [member],
          by rw [hdone, List.append_assoc, List.singleton_append], ?_⟩
        exact List.rel_append hnames
          (List.Forall₂.cons (NamesCase.of_getCase hcase) List.Forall₂.nil)
      · trivial
  | started suite cases => exact h
  | refused error => trivial

/-- **A step keeps the libraries sound.** -/
theorem Libraries.Sound.libraryStep (hsound : libraries.Sound) (h : stage.Known libraries.cases) :
    (libraryStep libraries stage).1.Sound := by
  cases stage with
  | savingCase call stage =>
    refine ⟨fun row hrow => ?_, fun row hrow => ?_⟩
    · -- a row of this call is a version of its accepted bundle
      cases hcall : call.checked with
      | error error =>
        rw [ObservabilityLab.libraryStep, saveCase, hcall] at hrow
        exact hsound.cases row hrow
      | ok request =>
        rw [ObservabilityLab.libraryStep, saveCase, hcall] at hrow
        rcases SaveRequest.mem_step hrow with hold | ⟨v, hv, rfl⟩
        · exact hsound.cases row hold
        · obtain ⟨happroved, hhash, rfl⟩ := SaveCaseCall.checked_eq_ok.mp hcall
          exact ⟨call, v, happroved, hhash, hv, rfl⟩
    · obtain ⟨submission, v, rfl, hmembers⟩ := hsound.suites row hrow
      refine ⟨submission, v, rfl, fun member hmember => (hmembers member hmember).mono ?_⟩
      exact fun row hrow =>
        (cases_suffix_libraryStep libraries (.savingCase call stage)).subset hrow
  | savingSuite submission stage =>
    refine ⟨hsound.cases, fun row hrow => ?_⟩
    -- a suite is only stored once all its members have been looked up, and cases are never deleted
    rcases h with ⟨error, rfl⟩ | hmembers
    · exact hsound.suites row hrow
    · rcases SaveRequest.mem_step hrow with hold | ⟨v, -, rfl⟩
      · exact hsound.suites row hold
      · exact ⟨submission, v, rfl, hmembers⟩
  | comparing suiteId suiteVersion =>
    unfold ObservabilityLab.libraryStep
    dsimp only
    split <;> exact hsound
  | resolving suite resolved rest =>
    cases rest with
    | nil => exact hsound
    | cons member rest =>
      unfold ObservabilityLab.libraryStep
      dsimp only
      split <;> exact hsound
  | checking submission seen rest => exact hsound
  | started suite cases => exact hsound
  | refused error => exact hsound

/-! ## Every run -/

variable {Id : Type} [DecidableEq Id] {calls : Id → LibraryCall} {schedule : List Id} {i : Id}

theorem known_start (call : LibraryCall) : call.start.Known .empty := by
  cases call with
  | saveCase call => trivial
  | saveSuite submission =>
    unfold LibraryCall.start
    dsimp only
    split_ifs
    · exact Or.inl ⟨_, rfl⟩
    · exact fun member hmember => Or.inl hmember
  | compare suiteId suiteVersion => trivial

/-- **After every schedule the libraries are sound**, and every call knows what its stage says. -/
theorem sound_libraryRun (calls : Id → LibraryCall) (schedule : List Id) :
    (libraryRun calls schedule).shared.Sound ∧
      ∀ i, ((libraryRun calls schedule).locals i).Known
        (libraryRun calls schedule).shared.cases := by
  refine Pool.run_localInvariant Libraries.Sound
    (fun _ libraries => LibraryStage.Known libraries.cases) ⟨⟨?_, ?_⟩, ?_⟩ ?_ ?_ ?_
  · exact fun row hrow => absurd hrow (Table.not_mem_empty row)
  · exact fun row hrow => absurd hrow (Table.not_mem_empty row)
  · exact fun i => known_start (calls i)
  · exact fun i libraries stage hsound hknown => hsound.libraryStep hknown
  · exact fun i libraries stage hsound hknown => hknown.libraryStep hsound
  -- another call only adds cases, so that nothing a call knows is lost
  · intro i j libraries stage other _ hknown
    exact hknown.mono fun row hrow => (cases_suffix_libraryStep libraries other).subset hrow

/-! ## Comparisons -/

variable {suiteId : Uuid} {v : ℕ} {suite : CaseSuite}

/-- A comparison of a suite that was not refused. -/
def LibraryStage.Comparing (suiteId : Uuid) (v : ℕ) (suite : CaseSuite) : LibraryStage → Prop
  | .comparing id version => id = suiteId ∧ version = v
  | .resolving read _ _ => read = suite
  | .started read _ => read = suite
  | _ => False

/-- How many steps a comparison of a suite has left. -/
def LibraryStage.stepsLeft (suite : CaseSuite) : LibraryStage → ℕ
  | .comparing _ _ => suite.members.length + 2
  | .resolving _ _ rest => rest.length + 1
  | _ => 0

/-- **A step of a comparison** is never refused while the case library returns the members of its
suite, and one step less is left. -/
theorem LibraryStage.Comparing.libraryStep (hknown : stage.Known libraries.cases)
    (hmembers : ∀ member ∈ suite.members, ∃ case, NamesCase libraries.cases member case)
    (hsuite : getSuite libraries.suites suiteId v = .ok suite)
    (h : stage.Comparing suiteId v suite) :
    (libraryStep libraries stage).2.Comparing suiteId v suite ∧
      (libraryStep libraries stage).2.stepsLeft suite = stage.stepsLeft suite - 1 := by
  cases stage with
  | comparing id version =>
    obtain ⟨rfl, rfl⟩ := h
    simp only [ObservabilityLab.libraryStep, hsuite]
    exact ⟨rfl, rfl⟩
  | resolving read resolved rest =>
    obtain rfl : read = suite := h
    cases rest with
    | nil => exact ⟨rfl, rfl⟩
    | cons member rest =>
      obtain ⟨-, done, hdone, -⟩ := hknown
      obtain ⟨case, hmember⟩ := hmembers member
        (hdone ▸ List.mem_append_right done List.mem_cons_self)
      simp only [ObservabilityLab.libraryStep, hmember.retrieved]
      exact ⟨rfl, rfl⟩
  | started read cases => exact ⟨h, rfl⟩
  | savingCase call stage => exact h.elim
  | checking submission seen rest => exact h.elim
  | savingSuite submission stage => exact h.elim
  | refused error => exact h.elim

/-- No schedule removes a stored suite. -/
theorem getSuite_libraryRun
    (hsuite : getSuite (libraryRun calls schedule).shared.suites suiteId v = .ok suite)
    (later : List Id) :
    getSuite (libraryRun calls (schedule ++ later)).shared.suites suiteId v = .ok suite := by
  induction later using List.reverseRecOn with
  | nil =>
    rw [List.append_nil]
    exact hsuite
  | append_singleton later j ih =>
    rw [← List.append_assoc, libraryRun, Pool.run_concat]
    exact getSuite_mono ih fun row hrow => (suites_suffix_libraryStep _ _).subset hrow

/-- No schedule removes a stored case. -/
theorem cases_libraryRun (calls : Id → LibraryCall) (schedule later : List Id) :
    ∀ row ∈ (libraryRun calls schedule).shared.cases,
      row ∈ (libraryRun calls (schedule ++ later)).shared.cases := by
  induction later using List.reverseRecOn with
  | nil =>
    rw [List.append_nil]
    exact fun row hrow => hrow
  | append_singleton later j ih =>
    intro row hrow
    rw [← List.append_assoc, libraryRun, Pool.run_concat]
    exact (cases_suffix_libraryStep _ _).subset (ih row hrow)

/-- The steps of a comparison among those of the other calls. -/
theorem comparing_libraryRun
    (hmembers : ∀ member ∈ suite.members,
      ∃ case, NamesCase (libraryRun calls schedule).shared.cases member case)
    (hsuite : getSuite (libraryRun calls schedule).shared.suites suiteId v = .ok suite)
    (hstage : (libraryRun calls schedule).locals i = .comparing suiteId v)
    (later : List Id) :
    ((libraryRun calls (schedule ++ later)).locals i).Comparing suiteId v suite ∧
      ((libraryRun calls (schedule ++ later)).locals i).stepsLeft suite =
        suite.members.length + 2 - later.count i := by
  -- one step at a time from the end: a step of this call leaves one less, any other step none
  induction later using List.reverseRecOn with
  | nil =>
    rw [List.append_nil, hstage]
    exact ⟨⟨rfl, rfl⟩, rfl⟩
  | append_singleton later j ih =>
    obtain ⟨hcomparing, hleft⟩ := ih
    obtain ⟨-, hknown⟩ := sound_libraryRun calls (schedule ++ later)
    have hread := getSuite_libraryRun hsuite later
    have hreturned : ∀ member ∈ suite.members, ∃ case,
        NamesCase (libraryRun calls (schedule ++ later)).shared.cases member case :=
      fun member hmember => (hmembers member hmember).imp fun _ hname =>
        hname.mono (cases_libraryRun calls schedule later)
    rw [← List.append_assoc, libraryRun, Pool.run_concat]
    by_cases hij : i = j
    · subst hij
      rw [Pool.locals_step_self, List.count_append, List.count_singleton_self]
      obtain ⟨hstill, hless⟩ := hcomparing.libraryStep (hknown i) hreturned hread
      refine ⟨hstill, hless.trans ?_⟩
      rw [hleft]
      omega
    · rw [Pool.locals_step_of_ne hij, List.count_append,
        List.count_singleton, if_neg (by simpa using Ne.symm hij), Nat.add_zero]
      exact ⟨hcomparing, hleft⟩

/-- Cases that are named by the members of a suite match it. -/
theorem validateCases_of_names {resolved : List RegressionCase}
    (h : List.Forall₂ (NamesCase cases) suite.members resolved) :
    validateCases suite resolved = .ok () := by
  refine check_bind_eq_ok.mpr ⟨?_, forM_eq_ok.mpr fun pair hpair => ?_⟩
  · rw [raiseIf_eq_ok, decide_eq_false_iff_not, not_not, h.length_eq]
  · have hname := List.forall₂_zip h (a := pair.1) (b := pair.2) hpair
    rw [raiseIf_eq_ok, hname.caseId, hname.caseVersion]
    simp

/-- A resolved case is approved, and the library returns it. -/
theorem retrieved_of_names {members : List SuiteMemberRef} {resolved : List RegressionCase}
    (h : List.Forall₂ (NamesCase cases) members resolved) {case : RegressionCase}
    (hcase : case ∈ resolved) : case.bundle.review.status = .approved ∧
      getCase cases case.caseId case.caseVersion = .ok case := by
  induction h with
  | nil => exact absurd hcase List.not_mem_nil
  | cons hname _ ih =>
    rcases List.mem_cons.mp hcase with rfl | hrest
    · refine ⟨hname.approved, ?_⟩
      rw [← hname.caseId, ← hname.caseVersion]
      exact hname.retrieved
    · exact ih hrest

/-- A comparison has started when it has no step left. -/
theorem started_of_comparing (later : List Id)
    (hmembers : ∀ member ∈ suite.members,
      ∃ case, NamesCase (libraryRun calls schedule).shared.cases member case)
    (hsuite : getSuite (libraryRun calls schedule).shared.suites suiteId v = .ok suite)
    (hstage : (libraryRun calls schedule).locals i = .comparing suiteId v)
    (hsteps : suite.members.length + 2 ≤ later.count i) :
    ∃ cases, (libraryRun calls (schedule ++ later)).locals i = .started suite cases ∧
      validateCases suite cases = .ok () ∧ ∀ case ∈ cases,
        case.bundle.review.status = .approved ∧
          getCase (libraryRun calls (schedule ++ later)).shared.cases case.caseId
            case.caseVersion = .ok case := by
  obtain ⟨hcomparing, hleft⟩ := comparing_libraryRun hmembers hsuite hstage later
  obtain ⟨-, hknown⟩ := sound_libraryRun calls (schedule ++ later)
  have hnames := hknown i
  -- with no steps left the comparison has started
  cases hend : (libraryRun calls (schedule ++ later)).locals i with
  | started read cases =>
    rw [hend] at hcomparing hnames
    obtain rfl : read = suite := hcomparing
    exact ⟨cases, rfl, validateCases_of_names hnames, fun case => retrieved_of_names hnames⟩
  | comparing id version =>
    rw [hend, LibraryStage.stepsLeft] at hleft
    omega
  | resolving read resolved rest =>
    rw [hend, LibraryStage.stepsLeft] at hleft
    omega
  -- a call that compares does not save, and one whose members are stored is not refused
  | savingCase call stage => rw [hend] at hcomparing; exact hcomparing.elim
  | checking submission seen rest => rw [hend] at hcomparing; exact hcomparing.elim
  | savingSuite submission stage => rw [hend] at hcomparing; exact hcomparing.elim
  | refused error => rw [hend] at hcomparing; exact hcomparing.elim

/-- **No stored suite names a missing case, and the comparison of a retrievable suite starts**, with
exactly its members, whatever the other calls save or read in between, when the column keeps their
bundles: each case is the approved version that its member names, and it stays what the library
returns. -/
theorem comparison_started (calls : Id → LibraryCall) (schedule : List Id) :
    (∀ row ∈ (libraryRun calls schedule).shared.suites, ∀ record ∈ row.membersJson,
      ∃ member, readMember record = .ok member ∧
        MemberStored (libraryRun calls schedule).shared.cases member) ∧
      ∀ i suiteId v suite later,
        getSuite (libraryRun calls schedule).shared.suites suiteId v = .ok suite →
        (∀ member ∈ suite.members,
          MemberKept (libraryRun calls schedule).shared.cases member) →
        (libraryRun calls schedule).locals i = .comparing suiteId v →
        suite.members.length + 2 ≤ later.count i →
        ∃ cases, (libraryRun calls (schedule ++ later)).locals i = .started suite cases ∧
          validateCases suite cases = .ok () ∧ ∀ case ∈ cases,
            case.bundle.review.status = .approved ∧
              getCase (libraryRun calls (schedule ++ later)).shared.cases case.caseId
                case.caseVersion = .ok case := by
  obtain ⟨hsound, -⟩ := sound_libraryRun calls schedule
  refine ⟨fun row hrow record hrecord => ?_, ?_⟩
  · obtain ⟨submission, v, rfl, hmembers⟩ := hsound.suites row hrow
    obtain ⟨member, hmember, rfl⟩ := List.mem_map.mp hrecord
    exact ⟨member, readMember_dump member, hmembers member hmember⟩
  · intro i suiteId v suite later hsuite hkept hstage hsteps
    exact started_of_comparing later (fun member hmember =>
      hsound.getCase (hsound.memberStored_of_getSuite hsuite member hmember)
        (hkept member hmember)) hsuite hstage hsteps

end Libraries

/-! ## A concrete run -/

section Small

attribute [local instance] asciiTables oneDecimalRepr messageHashes numericColumn

/-- A case is saved, a suite of it, and the suite is compared. -/
def smokeCalls (i : Fin 3) : LibraryCall :=
  match i with
  | 0 => .saveCase (messageCall false)
  | 1 => .saveSuite ⟨"smoke", [⟨.repeated 0, 1, Nat.one_pos⟩], smallTimestamp⟩
  | 2 => .compare (.repeated 0) 1

theorem getSuite_smokeCalls : ∃ suite,
    getSuite (libraryRun smokeCalls [0, 0, 1, 1, 1, 1]).shared.suites (.repeated 0) 1 = .ok suite ∧
      suite.members.length = 1 := by
  have hread : (getSuite (libraryRun smokeCalls [0, 0, 1, 1, 1, 1]).shared.suites (.repeated 0)
      1).toOption.map (·.members.length) = some 1 := by
    decide +kernel
  cases hsuite : getSuite (libraryRun smokeCalls [0, 0, 1, 1, 1, 1]).shared.suites (.repeated 0)
      1 with
  | ok suite =>
    rw [hsuite] at hread
    exact ⟨suite, rfl, Option.some.inj hread⟩
  | error error =>
    rw [hsuite] at hread
    cases hread

/-- `comparison_started` on the comparison of a suite of one case. -/
theorem comparison_started_smokeCalls : ∃ suite cases,
    (libraryRun smokeCalls ([0, 0, 1, 1, 1, 1] ++ [2, 2, 2])).locals 2 = .started suite cases ∧
      validateCases suite cases = .ok () := by
  obtain ⟨suite, hsuite, hlength⟩ := getSuite_smokeCalls
  have hsteps : suite.members.length + 2 ≤ [2, 2, 2].count (2 : Fin 3) := by
    rw [hlength]
    decide
  have hnone : ∀ row ∈ (libraryRun smokeCalls [0, 0, 1, 1, 1, 1]).shared.cases.rows,
      row.bundleJson.floats = [] ∧ row.bundleJson.costs = [] := by
    decide +kernel
  have hkept : ∀ member ∈ suite.members,
      MemberKept (libraryRun smokeCalls [0, 0, 1, 1, 1, 1]).shared.cases member := by
    intro member _ row hrow _ _
    obtain ⟨hfloats, hcosts⟩ := hnone row hrow
    rw [SimulationBundle.Kept, hfloats, hcosts]
    exact ⟨fun x hx => absurd hx List.not_mem_nil, fun x hx => absurd hx List.not_mem_nil⟩
  obtain ⟨-, hstarts⟩ := comparison_started smokeCalls [0, 0, 1, 1, 1, 1]
  obtain ⟨cases, hstarted, hvalid, -⟩ := hstarts 2 _ _ suite [2, 2, 2] hsuite hkept rfl hsteps
  exact ⟨suite, cases, hstarted, hvalid⟩

end Small

end ObservabilityLab
