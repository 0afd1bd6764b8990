import ObservabilityLab.Suite.Schemas
import ObservabilityLab.Versioning.Save

/-!
# The regression suite library

The service that saves sets of exact case versions as immutable suite versions and reads them back.
Any number of `save_suite` calls interleave on one table of stored suites.

## Main definitions

* `StoredSuite`: one row, versioned by suite with the hash of its member set
* `saveSuite`, `getSuite`: the steps of one save, and the retrieval of one version
* `Retrievable`: what a normal return of a save promises

## Main results

* `getSuite_of_mem`: the retrieval of a stored suite builds a suite of the saved name and members
* `retrievable_iff`: a suite that was saved is retrievable exactly when its name is a slug and the
  save found its own members each time it read the table again
-/

namespace ObservabilityLab

open Python VersionedTable Interleaving

/-! ## Errors -/

/-- `SuiteNotFoundError(suite_id=suiteId, suite_version=suiteVersion)` -/
def suiteNotFoundError (suiteId : Uuid) (suiteVersion : Option ℕ) : PyError :=
  .domain "suite_not_found" ("No regression suite " ++ suiteId.str ++
    suiteVersion.elim "" (fun v => " version " ++ toString v) ++ " exists") notFound

/-- `EmptySuiteError()` -/
def emptySuiteError : PyError :=
  .domain "empty_suite" "A suite must name at least one exact case version" unprocessableEntity

/-- `InvalidSuiteError(detail=detail)` -/
def invalidSuiteError (detail : String) : PyError :=
  .domain "invalid_suite" ("The suite is invalid: " ++ detail) unprocessableEntity

/-! ## Stored suites -/

/-- One immutable suite version with its member set. -/
structure StoredSuite where
  suiteId : Uuid
  suiteVersion : ℕ
  name : String
  membersHash : HexDigest
  membersJson : List Record
  createdAt : Timestamp

instance : Versioned StoredSuite Uuid HexDigest where
  key := StoredSuite.suiteId
  version := StoredSuite.suiteVersion
  hash := StoredSuite.membersHash

/-- The arguments of one call of `save_suite`, what the case library answers when the call looks up
a member, and the instant at which the call stores its row. -/
structure SaveSuiteCall where
  name : String
  members : List SuiteMemberRef
  caseExists : SuiteMemberRef → Bool
  createdAt : Timestamp

section Service

variable [HashFunctions]

def suiteNamespace : Uuid :=
  (Uuid.parse "1b7e6f2a-9c4d-4e8b-b5f1-3a0d6c2e8f47").get (by decide +kernel)

/-- The stable suite id for one suite name. -/
def stableSuiteId (name : String) : Uuid := HashFunctions.uuid5 suiteNamespace name

/-! ## Saving -/

/-- `StoredSuite(...)` of one version -/
def SaveSuiteCall.storedSuite (call : SaveSuiteCall) (suiteVersion : ℕ) : StoredSuite where
  suiteId := stableSuiteId call.name
  suiteVersion := suiteVersion
  name := call.name
  membersHash := suiteMembersHash call.members
  membersJson := call.members.map SuiteMemberRef.dump
  createdAt := call.createdAt

/-- What an accepted call submits to the table. -/
def SaveSuiteCall.request (call : SaveSuiteCall) : SaveRequest StoredSuite where
  id := stableSuiteId call.name
  contentHash := suiteMembersHash call.members
  row := call.storedSuite
  notFound := suiteNotFoundError (stableSuiteId call.name) none
  key_row _ := rfl
  version_row _ := rfl
  hash_row _ := rfl

/-- `SuiteSaveResult(...)` -/
def SaveSuiteCall.result (call : SaveSuiteCall) (saved : Saved) : SuiteSaveResult where
  status := saved.status
  suiteId := stableSuiteId call.name
  suiteVersion := saved.version

variable [UnicodeTables]

omit [HashFunctions] in
/-- The loop over the members: none is a duplicate, and each names a case version that exists. -/
def checkMembers (caseExists : SuiteMemberRef → Bool) (seen : List SuiteMemberRef) :
    List SuiteMemberRef → Raises Unit
  | [] => .ok ()
  | member :: members => do
    raiseIf (member ∈ seen) (invalidSuiteError ("duplicate member " ++ member.text))
    raiseIf (!caseExists member) (invalidSuiteError
      ("member case " ++ member.text ++ " does not exist in the case library"))
    checkMembers caseExists (member :: seen) members

/-- The checks that `save_suite` makes before it reads the table. -/
def SaveSuiteCall.checked (call : SaveSuiteCall) : Raises (SaveRequest StoredSuite) := do
  raiseIf (call.members = []) emptySuiteError
  checkMembers call.caseExists [] call.members
  .ok call.request

/-- The next operation of one `save_suite` call. -/
def saveSuite (call : SaveSuiteCall) (table : Table StoredSuite) (stage : SaveStage StoredSuite) :
    Table StoredSuite × SaveStage StoredSuite :=
  saveStep call.checked table stage

/-! ## Retrieval -/

section Retrieval

omit [HashFunctions]

variable [FloatRepr]

/-- `int(text)` -/
def parseInt (text : String) : Raises ℤ :=
  match intOfText text with
  | some n => .ok n
  | none => .error (.value ("invalid literal for int() with base 10: " ++ reprText text))

/-- One member of a stored suite. -/
def readMember (member : Record) : Raises SuiteMemberRef := do
  let caseId ← uuidField member "case_id"
  let caseVersion ← textField member "case_version" >>= parseInt
  SuiteMemberRef.new caseId caseVersion

/-- One exact immutable version of one suite. -/
def getSuite (table : Table StoredSuite) (suiteId : Uuid) (suiteVersion : ℕ) :
    Raises CaseSuite :=
  match table.find suiteId suiteVersion with
  | none => .error (suiteNotFoundError suiteId (some suiteVersion))
  | some row => do
    let members ← row.membersJson.mapM readMember
    CaseSuite.new row.suiteId row.suiteVersion row.name members row.createdAt

/-- A member is read back as it was stored. -/
theorem readMember_dump (member : SuiteMemberRef) : readMember member.dump = .ok member := by
  have hid : uuidField member.dump "case_id" = .ok member.caseId := uuidField_str rfl
  have hversion : textField member.dump "case_version" =
      .ok (toString (member.caseVersion : ℤ)) := rfl
  have hint : parseInt (toString (member.caseVersion : ℤ)) = .ok (member.caseVersion : ℤ) := by
    rw [parseInt, intOfText_toString]
  have hpos := member.versionPositive
  rw [readMember, hid, hversion]
  simp only [bind, Except.bind, hint]
  rw [SuiteMemberRef.new, dif_pos (by omega)]
  rfl

end Retrieval

/-! ## What an accepted call satisfies -/

variable {call : SaveSuiteCall}

omit [HashFunctions] in
theorem checkMembers_eq_ok {caseExists : SuiteMemberRef → Bool}
    {members seen : List SuiteMemberRef} :
    checkMembers caseExists seen members = .ok () ↔
      (members.Nodup ∧ members.Disjoint seen) ∧ ∀ member ∈ members, caseExists member = true := by
  induction members generalizing seen with
  | nil => simp [checkMembers]
  | cons member members ih =>
    rw [checkMembers, check_bind_eq_ok, check_bind_eq_ok, ih, raiseIf_eq_ok, raiseIf_eq_ok,
      decide_eq_false_iff_not, Bool.not_eq_false', List.nodup_cons, List.disjoint_cons_left,
      List.disjoint_cons_right, List.forall_mem_cons]
    tauto

/-- **What an accepted call satisfies**: distinct members, at least one, that all exist. -/
theorem SaveSuiteCall.checked_eq_ok {request : SaveRequest StoredSuite} :
    call.checked = .ok request ↔ call.members ≠ [] ∧ call.members.Nodup ∧
      (∀ member ∈ call.members, call.caseExists member = true) ∧ call.request = request := by
  rw [SaveSuiteCall.checked, check_bind_eq_ok, check_bind_eq_ok, raiseIf_eq_ok,
    decide_eq_false_iff_not, checkMembers_eq_ok, Except.ok.injEq]
  simp only [List.disjoint_nil_right, and_true, and_assoc, ne_eq]

variable [FloatRepr]

/-- **The retrieval of a stored suite** builds a suite of the saved name and members. -/
theorem getSuite_of_mem {table : Table StoredSuite} {v : ℕ} (h : call.storedSuite v ∈ table) :
    getSuite table (stableSuiteId call.name) v =
      CaseSuite.new (stableSuiteId call.name) v call.name call.members call.createdAt := by
  have hfind : table.find (stableSuiteId call.name) v = some (call.storedSuite v) :=
    Table.find_eq_some h
  have hmembers : (call.members.map SuiteMemberRef.dump).mapM readMember = .ok call.members := by
    simpa only [List.map_id'] using mapM_map_eq_ok readMember_dump call.members
  simp only [getSuite, hfind]
  change ((call.members.map SuiteMemberRef.dump).mapM readMember >>= _) = _
  rw [hmembers]
  rfl

/-! ## Saved means retrievable -/

/-- What a normal return of `save_suite` promises: the retrieval of the returned version gives a
suite of the submitted name and the submitted member set. -/
def Retrievable (call : SaveSuiteCall) (table : Table StoredSuite) (result : SuiteSaveResult) :
    Prop :=
  ∃ suite, getSuite table result.suiteId result.suiteVersion = .ok suite ∧
    suite.name = call.name ∧ ∀ member, member ∈ suite.members ↔ member ∈ call.members

variable {Id : Type} [DecidableEq Id]

omit [FloatRepr] in
/-- The table and the stages of the calls after a schedule of their steps, from an empty table. -/
def suiteSaves (calls : Id → SaveSuiteCall) (schedule : List Id) :
    Pool Id (Table StoredSuite) (SaveStage StoredSuite) :=
  Pool.run (fun i => saveSuite (calls i)) ⟨.empty, fun _ => .reading⟩ schedule

omit [FloatRepr] in
/-- Whenever a call reads the table again after a failed insertion, the newest version of its suite
has the submitted member set. -/
def RereadsOwnMembers (calls : Id → SaveSuiteCall) (schedule : List Id) (i : Id) : Prop :=
  ∀ earlier later, schedule = earlier ++ i :: later →
    (suiteSaves calls earlier).locals i = .rereading →
      ∀ latest ∈ (suiteSaves calls earlier).shared.latest (stableSuiteId (calls i).name),
        latest.membersHash = suiteMembersHash (calls i).members

variable {calls : Id → SaveSuiteCall} {schedule : List Id} {i : Id} {saved : Saved}

omit [FloatRepr] in
/-- A save returned the version of its own members exactly when it found them each time it read the
table again. -/
theorem hash_of_returned_suite (hcall : (calls i).checked = .ok (calls i).request)
    (h : (suiteSaves calls schedule).locals i = .returned saved) :
    saved.hash = suiteMembersHash (calls i).members ↔ RereadsOwnMembers calls schedule i :=
  hash_of_returned (fun i => (calls i).checked) hcall h

omit [UnicodeTables] [FloatRepr] [DecidableEq Id] in
/-- Two calls whose member sets have one hash submit the same members, when no two submitted member
sets collide. -/
theorem perm_of_hash
    (hinj : Set.InjOn HashFunctions.jsonSha256
      (Set.range fun j => canonicalMembers (calls j).members)) {j : Id} :
    suiteMembersHash (calls j).members = suiteMembersHash (calls i).members ↔
      (calls j).members.Perm (calls i).members := by
  rw [← canonicalMembers_eq_iff]
  exact ⟨fun h => hinj ⟨j, rfl⟩ ⟨i, rfl⟩ h, congrArg HashFunctions.jsonSha256⟩

/-- **When saved means retrievable**: a suite that was saved is retrievable exactly when its name
is a slug and the save found its own members each time it read the table again. -/
theorem retrievable_iff
    (hnames : Set.InjOn (HashFunctions.uuid5 suiteNamespace) (Set.range fun j => (calls j).name))
    (hinj : Set.InjOn HashFunctions.jsonSha256
      (Set.range fun j => canonicalMembers (calls j).members))
    (h : (suiteSaves calls schedule).locals i = .returned saved) :
    Retrievable (calls i) (suiteSaves calls schedule).shared ((calls i).result saved) ↔
      isSuiteName (calls i).name = true ∧ RereadsOwnMembers calls schedule i := by
  obtain ⟨request, hcall, row, hrow, hkey, hversion, hhash⟩ := row_of_returned h
  obtain ⟨hne, hnodup, -, rfl⟩ := SaveSuiteCall.checked_eq_ok.mp hcall
  obtain ⟨j, request, v, hcall', hv, rfl⟩ := rows_of_saves hrow
  obtain ⟨hne', hnodup', -, rfl⟩ := SaveSuiteCall.checked_eq_ok.mp hcall'
  have hname : (calls j).name = (calls i).name := hnames ⟨j, rfl⟩ ⟨i, rfl⟩ hkey
  have hget : getSuite (suiteSaves calls schedule).shared (stableSuiteId (calls i).name)
      saved.version = CaseSuite.new (stableSuiteId (calls j).name) v (calls j).name
        (calls j).members (calls j).createdAt := by
    rw [← getSuite_of_mem hrow]
    exact congrArg₂ (getSuite _) hkey.symm hversion.symm
  have hown : saved.hash = suiteMembersHash (calls i).members ↔
      (calls j).members.Perm (calls i).members := by
    rw [← perm_of_hash hinj, ← hhash]
    rfl
  rw [← hash_of_returned_suite hcall h, hown]
  constructor
  · rintro ⟨suite, hsuite, hsame, hmembers⟩
    obtain ⟨-, hread⟩ := CaseSuite.new_fields (hget.symm.trans hsuite)
    refine ⟨hsame ▸ suite.nameMatches, (List.perm_ext_iff_of_nodup hnodup' hnodup).mpr ?_⟩
    rw [← hread]
    exact hmembers
  · rintro ⟨hslug, hperm⟩
    obtain ⟨suite, hsuite, hread, hmembers⟩ :=
      CaseSuite.exists_new hv (hname ▸ hslug) hne' hnodup'
    refine ⟨suite, hget.trans hsuite, hread.trans hname, fun member => ?_⟩
    rw [hmembers]
    exact hperm.mem_iff

end Service

/-! ## Concrete saves -/

section Small

/-- Hash functions that tell a single member from several, and give one identifier. -/
@[reducible] def singleHashes : HashFunctions where
  jsonSha256
    | .list [_] => .repeated 0
    | _ => .repeated 1
  uuid5 _ _ := .repeated 0

attribute [local instance] asciiTables oneDecimalRepr singleHashes

/-- The first version of a case. -/
def smallMember (digit : Fin 16) : SuiteMemberRef := ⟨.repeated digit, 1, Nat.one_pos⟩

/-- One member, or two. -/
def smallMembers (both : Bool) : List SuiteMemberRef :=
  if both then [smallMember 1, smallMember 2] else [smallMember 1]

/-- A call that saves one of the member sets under a name. -/
def membersCall (name : String) (both : Bool) : SaveSuiteCall where
  name := name
  members := smallMembers both
  caseExists _ := true
  createdAt := smallTimestamp

/-- A member set, a larger one, and the first again, under one name. -/
def threeSuites (name : String) (i : Fin 3) : SaveSuiteCall := membersCall name (i.val = 1)

theorem injOn_threeSuites (name : String) :
    Set.InjOn HashFunctions.jsonSha256
      (Set.range fun i => canonicalMembers (threeSuites name i).members) := by
  have hne : HashFunctions.jsonSha256 (canonicalMembers (smallMembers false)) ≠
      HashFunctions.jsonSha256 (canonicalMembers (smallMembers true)) := by
    decide +kernel
  rintro _ ⟨i, rfl⟩ _ ⟨j, rfl⟩ h
  change HashFunctions.jsonSha256 (canonicalMembers (smallMembers (i.val = 1))) =
    HashFunctions.jsonSha256 (canonicalMembers (smallMembers (j.val = 1))) at h
  change canonicalMembers (smallMembers (i.val = 1)) = canonicalMembers (smallMembers (j.val = 1))
  -- the equal member sets are closed by the rewriting
  cases hi : decide (i.val = 1) <;> cases hj : decide (j.val = 1) <;> rw [hi, hj] at h
  · exact absurd h hne
  · exact absurd h.symm hne

theorem injOn_name (name : String) :
    Set.InjOn (HashFunctions.uuid5 suiteNamespace)
      (Set.range fun i => (threeSuites name i).name) := by
  rintro _ ⟨i, rfl⟩ _ ⟨j, rfl⟩ -
  rfl

theorem locals_threeSuites :
    (suiteSaves (threeSuites "smoke") [0, 0]).locals 0 = .returned ⟨.created, 1, .repeated 0⟩ ∧
      (suiteSaves (threeSuites "Bad Name") [0, 0]).locals 0 =
        .returned ⟨.created, 1, .repeated 0⟩ ∧
      (suiteSaves (threeSuites "smoke") [0, 0, 1, 1, 2, 2, 2]).locals 2 =
        .returned ⟨.updated, 2, .repeated 1⟩ ∧
      (suiteSaves (threeSuites "smoke") [0, 1, 0, 1, 1]).locals 1 =
        .returned ⟨.updated, 1, .repeated 0⟩ := by
  simp only [← SaveStage.saved_eq_some]
  decide +kernel

/-- `retrievable_iff` on the save of a new suite. -/
theorem retrievable_threeSuites :
    Retrievable (threeSuites "smoke" 0) (suiteSaves (threeSuites "smoke") [0, 0]).shared
        ((threeSuites "smoke" 0).result ⟨.created, 1, .repeated 0⟩) ↔
      isSuiteName "smoke" = true ∧ RereadsOwnMembers (threeSuites "smoke") [0, 0] 0 :=
  retrievable_iff (injOn_name "smoke") (injOn_threeSuites "smoke") locals_threeSuites.1

/-- What the retrieval of the returned versions gives: an error, or other members. -/
theorem getSuite_threeSuites :
    (getSuite (suiteSaves (threeSuites "Bad Name") [0, 0]).shared (.repeated 0) 1).toOption.map
        (·.members) = none ∧
      (getSuite (suiteSaves (threeSuites "smoke") [0, 0, 1, 1, 2, 2, 2]).shared
        (.repeated 0) 2).toOption.map (·.members) = some (smallMembers true) ∧
      (getSuite (suiteSaves (threeSuites "smoke") [0, 1, 0, 1, 1]).shared
        (.repeated 0) 1).toOption.map (·.members) = some (smallMembers false) := by
  decide +kernel

/-- A suite whose retrieval gives an error or other members is not retrievable. -/
theorem not_retrievable_of_members {call : SaveSuiteCall} {table : Table StoredSuite}
    {saved : Saved} {members : Option (List SuiteMemberRef)}
    (hget : (getSuite table (.repeated 0) saved.version).toOption.map (·.members) = members)
    (hne : ∀ read ∈ members, ¬ ∀ member, member ∈ read ↔ member ∈ call.members) :
    ¬ Retrievable call table (call.result saved) := by
  rintro ⟨suite, hsuite, -, hmembers⟩
  have hread : getSuite table (.repeated 0) saved.version = .ok suite := hsuite
  rw [hread] at hget
  exact hne suite.members hget.symm hmembers

/-- A suite is saved under a name that is not a slug, and its retrieval raises. A member set is
saved, then a larger one, then the first again: the last call is told the version of the larger
one. Two calls that save them at once: the second one is told the version of the first. -/
theorem not_retrievable_threeSuites :
    ((suiteSaves (threeSuites "Bad Name") [0, 0]).locals 0 = .returned ⟨.created, 1, .repeated 0⟩ ∧
      ¬ Retrievable (threeSuites "Bad Name" 0) (suiteSaves (threeSuites "Bad Name") [0, 0]).shared
        ((threeSuites "Bad Name" 0).result ⟨.created, 1, .repeated 0⟩)) ∧
    ((suiteSaves (threeSuites "smoke") [0, 0, 1, 1, 2, 2, 2]).locals 2 =
        .returned ⟨.updated, 2, .repeated 1⟩ ∧
      ¬ Retrievable (threeSuites "smoke" 2)
        (suiteSaves (threeSuites "smoke") [0, 0, 1, 1, 2, 2, 2]).shared
        ((threeSuites "smoke" 2).result ⟨.updated, 2, .repeated 1⟩)) ∧
    (suiteSaves (threeSuites "smoke") [0, 1, 0, 1, 1]).locals 1 =
        .returned ⟨.updated, 1, .repeated 0⟩ ∧
      ¬ Retrievable (threeSuites "smoke" 1)
        (suiteSaves (threeSuites "smoke") [0, 1, 0, 1, 1]).shared
        ((threeSuites "smoke" 1).result ⟨.updated, 1, .repeated 0⟩) := by
  obtain ⟨-, hbad, hagain, hatOnce⟩ := locals_threeSuites
  obtain ⟨hraises, hlarger, hfirst⟩ := getSuite_threeSuites
  have htwo : ¬ ∀ member, member ∈ smallMembers true ↔ member ∈ smallMembers false := by
    intro h
    exact absurd ((h (smallMember 2)).mp (by decide)) (by decide)
  refine ⟨⟨hbad, not_retrievable_of_members hraises ?_⟩,
    ⟨hagain, not_retrievable_of_members hlarger ?_⟩,
    hatOnce, not_retrievable_of_members hfirst ?_⟩
  · exact fun read hread => absurd hread (Option.not_mem_none read)
  · rintro read ⟨⟩
    exact htwo
  · rintro read ⟨⟩ h
    exact htwo fun member => (h member).symm

end Small

end ObservabilityLab
