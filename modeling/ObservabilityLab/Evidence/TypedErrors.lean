import ObservabilityLab.Evidence.LangSmith
import Mathlib.Tactic.IntervalCases

/-!
# The errors of a normalization

What escapes from the mapping of runs. Everything that the build of a trace raises becomes a typed
error, but the events are built before it: a run whose fields exceed the bounds of an event, or
whose times cannot be compared, raises another error, unless an earlier check failed.

## Main definitions

* `SourceRun.Maps`, `SourceRun.HasSensitiveKey`: the runs that are events, and those that are
  rejected
* `WellStructured`: the runs that pass the checks of their structure
* `RejectsFirst`: each run without an event is preceded by a typed error

## Main results

* `isNonNegative_roundedMs`: a duration is negative from five microseconds on
* `toEvent_cases`: a run is rejected, escapes with another error, or is an event
* `onlyRaises_normalizeRuns`: exactly when only typed errors escape
* `normalization_raises_typed_iff`: the same, and what it means for a cohort
-/

namespace ObservabilityLab

open Python

/-! ## Durations -/

/-- The duration of an event is negative from five microseconds on. -/
theorem isNonNegative_roundedMs (elapsed : ℤ) :
    isNonNegative (roundedMs elapsed) = decide (-4 ≤ elapsed) := by
  unfold isNonNegative
  rcases lt_or_ge elapsed (-5) with hlow | hhigh
  · have helapsed : (elapsed : ℚ) ≤ -6 := by exact_mod_cast Int.le_sub_one_of_lt hlow
    have hduration := PyFloat.atMost_ofRat (q := elapsed / 1000000) (by linarith)
    have hround := PyFloat.round_lt_zero (PyFloat.atMost_mul_thousand hduration (by linarith))
      (by linarith)
    rw [roundedMs, hround, decide_eq_false (by omega)]
    rfl
  · rcases lt_or_ge elapsed 0 with hneg | hnonneg
    · interval_cases elapsed <;> decide +kernel
    · have hquotient : (0 : ℚ) ≤ elapsed / 1000000 := by positivity
      have hproduct := (PyFloat.nonneg_ofRat hquotient).mul_finite
        (q := ⟨1000, by decide +kernel, false, fun h => absurd h Bool.false_ne_true⟩)
        (by norm_num)
      rw [roundedMs, PyFloat.ofRat_thousand, (hproduct.round 2).lt_zero, decide_eq_true (by omega)]
      rfl

/-- The times of a run are those of an event: the end may be at most four microseconds before the
start, which the duration rounds away. -/
def SourceRun.TimesFit (run : SourceRun) : Prop :=
  ∀ endTime ∈ run.endTime, ∃ elapsed, endTime.since run.startTime = some elapsed ∧ -4 ≤ elapsed

/-- **The duration of a run is computed and not negative exactly when its times fit.** -/
theorem durationMs_cases (run : SourceRun) :
    (run.TimesFit ∧ ∃ duration, durationMs run.startTime run.endTime = .ok duration ∧
      duration.all isNonNegative = true) ∨
    (¬ run.TimesFit ∧
      ((∃ message, durationMs run.startTime run.endTime = .error (.other "TypeError" message)) ∨
        ∃ duration, durationMs run.startTime run.endTime = .ok duration ∧
          duration.all isNonNegative = false)) := by
  unfold SourceRun.TimesFit
  cases run.endTime with
  | none => exact Or.inl ⟨fun _ h => absurd h (Option.not_mem_none _), none, rfl, rfl⟩
  | some endTime =>
    simp only [Option.mem_some_iff, forall_eq', durationMs]
    cases endTime.since run.startTime with
    | none =>
      refine Or.inr ⟨?_, Or.inl ⟨_, rfl⟩⟩
      rintro ⟨_, habsurd, -⟩
      cases habsurd
    | some elapsed =>
      have hduration := isNonNegative_roundedMs elapsed
      by_cases hpast : -4 ≤ elapsed
      · rw [decide_eq_true hpast] at hduration
        exact Or.inl ⟨⟨elapsed, rfl, hpast⟩, _, rfl, hduration⟩
      · rw [decide_eq_false hpast] at hduration
        refine Or.inr ⟨?_, Or.inr ⟨_, rfl, hduration⟩⟩
        rintro ⟨elapsed', helapsed, hle⟩
        exact hpast (Option.some.inj helapsed ▸ hle)

/-! ## One run -/

/-- The bounds and the times of a run are those of an event. -/
structure SourceRun.Maps (run : SourceRun) : Prop where
  runId : lengthWithin 1 200 run.runId = true
  name : lengthWithin 1 200 run.name = true
  parentId : optionWithin 200 run.parentId = true
  times : run.TimesFit

/-- An error code that is kept is a stable one. -/
theorem sanitizeError_stable (error : Option String) :
    (sanitizeError error).1.all isStableCode = true := by
  cases error with
  | none => rfl
  | some text =>
    unfold sanitizeError
    dsimp only
    split
    case isTrue h => exact h
    case isFalse => rfl

section Runs

variable [UnicodeTables]

/-- A run with a sensitive key that is not allowlisted. -/
def SourceRun.HasSensitiveKey (run : SourceRun) : Prop :=
  ∃ entry ∈ run.attributes, entry.1 ∉ traceAttributeAllowlist ∧ isSensitiveAttribute entry.1 = true

/-- The attributes of a run are rejected for a sensitive key, and for nothing else. -/
theorem allowlistedAttributes_cases (runId : String) (attributes : Record) :
    ((∃ entry ∈ attributes, entry.1 ∉ traceAttributeAllowlist ∧
        isSensitiveAttribute entry.1 = true) ∧
      ∃ key, allowlistedAttributes runId attributes = .error (sensitiveFieldError runId key)) ∨
    (¬ (∃ entry ∈ attributes, entry.1 ∉ traceAttributeAllowlist ∧
        isSensitiveAttribute entry.1 = true) ∧
      ∃ kept, allowlistedAttributes runId attributes = .ok kept) := by
  induction attributes with
  | nil => exact Or.inr ⟨fun ⟨_, hentry, _⟩ => List.not_mem_nil hentry, _, rfl⟩
  | cons entry attributes ih =>
    obtain ⟨key, value⟩ := entry
    rw [List.exists_mem_cons_iff]
    unfold allowlistedAttributes
    by_cases hallowed : key ∈ traceAttributeAllowlist
    · rw [if_pos hallowed]
      rcases ih with ⟨hsensitive, key', herror⟩ | ⟨hnone, kept, hkept⟩
      · refine Or.inl ⟨Or.inr hsensitive, key', ?_⟩
        rw [herror]
        rfl
      · refine Or.inr ⟨?_, ?_⟩
        · rintro (⟨hnot, -⟩ | hsensitive)
          · exact hnot hallowed
          · exact hnone hsensitive
        · rw [hkept]
          cases hscalar : keptScalar value with
          | none => exact ⟨_, rfl⟩
          | some scalar => exact ⟨_, rfl⟩
    · rw [if_neg hallowed]
      by_cases hkey : isSensitiveAttribute key = true
      · rw [hkey]
        exact Or.inl ⟨Or.inl ⟨hallowed, rfl⟩, key, rfl⟩
      · rw [Bool.not_eq_true] at hkey
        rw [hkey]
        rcases ih with ⟨hsensitive, key', herror⟩ | ⟨hnone, kept, hkept⟩
        · refine Or.inl ⟨Or.inr hsensitive, key', ?_⟩
          rw [herror]
          rfl
        · refine Or.inr ⟨?_, ?_⟩
          · rintro (⟨-, habsurd⟩ | hsensitive)
            · cases habsurd
            · exact hnone hsensitive
          · rw [hkept]
            exact ⟨_, rfl⟩

/-- **A run is rejected for a sensitive key, escapes with another error when its fields are not
those of an event, and is an event otherwise.** -/
theorem toEvent_cases (run : SourceRun) :
    (run.HasSensitiveKey ∧ ∃ error, toEvent run = .error error ∧ isMappingError error = true) ∨
    (¬ run.HasSensitiveKey ∧ ¬ run.Maps ∧
      ∃ error, toEvent run = .error error ∧ isMappingError error = false) ∨
    (¬ run.HasSensitiveKey ∧ run.Maps ∧ ∃ entry, toEvent run = .ok entry) := by
  rcases allowlistedAttributes_cases run.runId run.attributes with
    ⟨hsensitive, key, herror⟩ | ⟨hnone, ⟨attributes, dropped⟩, hkept⟩
  · refine Or.inl ⟨hsensitive, sensitiveFieldError run.runId key, ?_, rfl⟩
    unfold toEvent
    rw [herror]
    rfl
  · right
    unfold toEvent
    rw [hkept]
    -- the attributes and the times raise their own errors; what is left is the model validation
    rcases durationMs_cases run with ⟨htimes, duration, hduration, hpositive⟩ | ⟨hnot, hcases⟩
    · rw [hduration]
      by_cases hbounds : lengthWithin 1 200 run.runId = true ∧ lengthWithin 1 200 run.name = true ∧
          optionWithin 200 run.parentId = true
      · obtain ⟨hid, hname, hparent⟩ := hbounds
        have hvalid : validEvent run.runId run.name run.parentId duration
            (sanitizeError run.error).1 = true := by
          simp only [validEvent, hid, hname, hparent, hpositive, sanitizeError_stable,
            Bool.and_self]
        refine Or.inr ⟨hnone, ⟨hid, hname, hparent, htimes⟩, ?_⟩
        dsimp only [bind, Except.bind]
        unfold TraceEvent.new
        rw [dif_pos hvalid]
        exact ⟨_, rfl⟩
      · have hinvalid : ¬ validEvent run.runId run.name run.parentId duration
            (sanitizeError run.error).1 = true := by
          intro hvalid
          simp only [validEvent, Bool.and_eq_true] at hvalid
          exact hbounds ⟨hvalid.1.1.1.1, hvalid.1.1.1.2, hvalid.1.1.2⟩
        refine Or.inl ⟨hnone, fun hmaps => hbounds ⟨hmaps.runId, hmaps.name, hmaps.parentId⟩, ?_⟩
        dsimp only [bind, Except.bind]
        unfold TraceEvent.new
        rw [dif_neg hinvalid]
        exact ⟨_, rfl, rfl⟩
    · refine Or.inl ⟨hnone, fun hmaps => hnot hmaps.times, ?_⟩
      rcases hcases with ⟨message, herror⟩ | ⟨duration, hduration, hnegative⟩
      · rw [herror]
        exact ⟨_, rfl, rfl⟩
      · have hinvalid : ¬ validEvent run.runId run.name run.parentId duration
            (sanitizeError run.error).1 = true := by
          simp only [validEvent, hnegative, Bool.and_false, Bool.false_and, Bool.false_eq_true,
            not_false_eq_true]
        rw [hduration]
        dsimp only [bind, Except.bind]
        unfold TraceEvent.new
        rw [dif_neg hinvalid]
        exact ⟨_, rfl, rfl⟩

/-! ## All runs -/

/-- Each run that is no event has a rejected one at or before it. -/
def RejectsFirst (runs : List SourceRun) : Prop :=
  ∀ earlier run, earlier ++ [run] <+: runs → ¬ run.Maps →
    ∃ rejected ∈ earlier ++ [run], rejected.HasSensitiveKey

/-- A rejected run comes before everything after it. -/
theorem rejectsFirst_of_head {run : SourceRun} (h : run.HasSensitiveKey) (runs : List SourceRun) :
    RejectsFirst (run :: runs) := by
  intro earlier other hprefix _
  cases earlier with
  | nil =>
    obtain ⟨rfl, -⟩ := List.cons_prefix_cons.mp hprefix
    exact ⟨other, List.mem_singleton_self _, h⟩
  | cons first earlier =>
    obtain ⟨rfl, -⟩ := List.cons_prefix_cons.mp hprefix
    exact ⟨first, List.mem_cons_self .., h⟩

/-- An event before the other runs changes nothing. -/
theorem rejectsFirst_cons_iff {run : SourceRun} (hnone : ¬ run.HasSensitiveKey) (hmaps : run.Maps)
    (runs : List SourceRun) : RejectsFirst (run :: runs) ↔ RejectsFirst runs := by
  constructor
  · intro h earlier other hprefix hnot
    obtain ⟨rejected, hmem, hkey⟩ :=
      h (run :: earlier) other (List.cons_prefix_cons.mpr ⟨rfl, hprefix⟩) hnot
    rcases List.mem_cons.mp hmem with rfl | hmem
    · exact absurd hkey hnone
    · exact ⟨rejected, hmem, hkey⟩
  · intro h earlier other hprefix hnot
    cases earlier with
    | nil =>
      obtain ⟨rfl, -⟩ := List.cons_prefix_cons.mp hprefix
      exact absurd hmaps hnot
    | cons first earlier =>
      obtain ⟨-, hprefix⟩ := List.cons_prefix_cons.mp hprefix
      obtain ⟨rejected, hmem, hkey⟩ := h earlier other hprefix hnot
      exact ⟨rejected, List.mem_cons_of_mem _ hmem, hkey⟩

/-- The two typed errors of a normalization. -/
def IsTyped (error : PyError) : Prop := isMappingError error = true

/-- **The events of the runs raise typed errors only exactly when each run that is no event has a
rejected one at or before it.** -/
theorem onlyRaises_toEvents (runs : List SourceRun) :
    OnlyRaises IsTyped (runs.mapM toEvent) ↔ RejectsFirst runs := by
  induction runs with
  | nil =>
    refine iff_of_true (onlyRaises_ok _) ?_
    intro earlier run hprefix
    exact absurd (List.prefix_nil.mp hprefix) (List.append_ne_nil_of_right_ne_nil _ (by simp))
  | cons run runs ih =>
    rw [List.mapM_cons]
    rcases toEvent_cases run with ⟨hkey, error, herror, htyped⟩ |
      ⟨hnone, hnot, error, herror, huntyped⟩ | ⟨hnone, hmaps, entry, hentry⟩
    · rw [herror]
      exact iff_of_true (onlyRaises_error htyped) (rejectsFirst_of_head hkey runs)
    · rw [herror]
      apply iff_of_false
      · intro honly
        have htyped : isMappingError error = true := honly error rfl
        rw [huntyped] at htyped
        cases htyped
      · intro h
        obtain ⟨rejected, hmem, hkey⟩ := h [] run (List.prefix_append _ _) hnot
        obtain rfl := List.mem_singleton.mp hmem
        exact hnone hkey
    · rw [hentry, rejectsFirst_cons_iff hnone hmaps, ← ih]
      constructor
      · intro honly error herror
        refine honly error ?_
        rw [herror]
        rfl
      · intro honly
        exact (onlyRaises_ok entry).bind fun _ => honly.bind fun _ => onlyRaises_ok _

/-- The runs pass the checks of their structure. -/
structure WellStructured (runs : List SourceRun) : Prop where
  nonempty : runs ≠ []
  distinct : (runs.map (·.runId)).Nodup
  oneRoot : runs.countP (·.parentId.isNone) = 1
  parents : ∀ run ∈ runs, ∀ parentId ∈ run.parentId, ∃ parent ∈ runs, parent.runId = parentId

theorem checkRunIds_eq_ok {seen : List String} {runs : List SourceRun} :
    checkRunIds seen runs = .ok () ↔
      (∀ run ∈ runs, run.runId ∉ seen) ∧ (runs.map (·.runId)).Nodup := by
  induction runs generalizing seen with
  | nil => simp [checkRunIds]
  | cons run runs ih =>
    rw [checkRunIds, check_bind_eq_ok, raiseIf_eq_ok, decide_eq_false_iff_not, ih,
      List.forall_mem_cons, List.map_cons, List.nodup_cons]
    constructor
    · rintro ⟨hseen, hrest, hnodup⟩
      refine ⟨⟨hseen, fun other hother h => hrest other hother (List.mem_cons_of_mem _ h)⟩, ?_,
        hnodup⟩
      intro hmem
      obtain ⟨other, hother, heq⟩ := List.mem_map.mp hmem
      exact hrest other hother (heq ▸ List.mem_cons_self ..)
    · rintro ⟨⟨hseen, hrest⟩, hnot, hnodup⟩
      refine ⟨hseen, ?_, hnodup⟩
      intro other hother hmem
      rcases List.mem_cons.mp hmem with heq | hmem
      · exact hnot (heq ▸ List.mem_map_of_mem hother)
      · exact hrest other hother hmem

theorem checkParent_eq_ok {runs : List SourceRun} {run : SourceRun} :
    checkParent runs run = .ok () ↔
      ∀ parentId ∈ run.parentId, ∃ parent ∈ runs, parent.runId = parentId := by
  unfold checkParent
  cases run.parentId with
  | none => simp
  | some parentId => simp

/-- **The checks of the structure pass exactly on the well-structured runs.** -/
theorem checkRuns_eq_ok {runs : List SourceRun} :
    checkRuns runs = .ok () ↔ WellStructured runs := by
  unfold checkRuns
  rw [check_bind_eq_ok, check_bind_eq_ok, check_bind_eq_ok, raiseIf_eq_ok, raiseIf_eq_ok,
    checkRunIds_eq_ok, List.isEmpty_eq_false_iff, decide_eq_false_iff_not, not_not,
    List.forM_eq_forM, forM_eq_ok]
  simp only [checkParent_eq_ok]
  constructor
  · rintro ⟨hnonempty, ⟨-, hdistinct⟩, hroot, hparents⟩
    exact ⟨hnonempty, hdistinct, hroot, hparents⟩
  · rintro ⟨hnonempty, hdistinct, hroot, hparents⟩
    exact ⟨hnonempty, ⟨fun _ _ => List.not_mem_nil, hdistinct⟩, hroot, hparents⟩

omit [UnicodeTables] in
theorem isTyped_unsupportedTrace (message : String) : IsTyped (unsupportedTrace message) := rfl

/-- The checks of the structure raise typed errors only. -/
theorem onlyRaises_checkRuns (runs : List SourceRun) : OnlyRaises IsTyped (checkRuns runs) := by
  have hids (seen : List String) : OnlyRaises IsTyped (checkRunIds seen runs) := by
    induction runs generalizing seen with
    | nil => exact onlyRaises_ok _
    | cons run runs ih =>
      exact (onlyRaises_raiseIf (isTyped_unsupportedTrace _)).bind fun _ => ih _
  have hparent (run : SourceRun) : OnlyRaises IsTyped (checkParent runs run) := by
    unfold checkParent
    split
    · exact onlyRaises_raiseIf (isTyped_unsupportedTrace _)
    · exact onlyRaises_ok _
  unfold checkRuns
  refine (onlyRaises_raiseIf (isTyped_unsupportedTrace _)).bind fun _ => (hids []).bind fun _ => ?_
  exact (onlyRaises_raiseIf (isTyped_unsupportedTrace _)).bind fun _ => onlyRaises_forM hparent

variable [NumberTexts] [HashFunctions] [ValidationTexts]

omit [UnicodeTables] [NumberTexts] [HashFunctions] in
theorem onlyRaises_guarded {α : Type} (x : Raises α) : OnlyRaises IsTyped (guarded x) := by
  cases x with
  | ok a => exact onlyRaises_ok a
  | error error =>
    unfold guarded
    apply onlyRaises_error
    unfold IsTyped
    split
    case isTrue h => exact h
    case isFalse => rfl

/-- The runs of which a normalization raises typed errors only. -/
def TypedOnly (runs : List SourceRun) : Prop := WellStructured runs → RejectsFirst runs

/-- **A normalization raises typed errors only exactly when a check of the structure fails, or each
run that is no event has a rejected one at or before it.** -/
theorem onlyRaises_normalizeRuns (runs : List SourceRun) (args : NormalizeArguments) :
    OnlyRaises IsTyped (normalizeRuns runs args) ↔ TypedOnly runs := by
  unfold normalizeRuns TypedOnly
  rw [← checkRuns_eq_ok, ← onlyRaises_toEvents]
  cases hcheck : checkRuns runs with
  | error error =>
    refine iff_of_true (onlyRaises_error ?_) (fun h => by cases h)
    exact onlyRaises_checkRuns runs error hcheck
  | ok u =>
    rw [forall_prop_of_true rfl]
    constructor
    · intro honly error herror
      refine honly error ?_
      rw [herror]
      rfl
    · intro honly
      refine (onlyRaises_ok u).bind fun _ => honly.bind fun entries => ?_
      split
      · exact onlyRaises_guarded _
      · exact onlyRaises_error rfl

/-! ## Cohorts -/

section Cohort

variable [DateTimeTexts] {config : LangSmithConfig} {fetch : String → Except ClientError Record}
  {query : TraceQuery} {root : Record}

/-- A client that answers every query with the same roots. -/
def RunClient.answering (client : RunClient) (roots : List Record) : RunClient :=
  { client with queryRootRuns := fun _ => .ok roots }

/-- A root that adds nothing is skipped. -/
theorem collectCohort_skip (h : cohortMember config fetch query root = .ok none)
    (evidence : List NormalizedTrace) (earlier later : List Record) :
    collectCohort config fetch query evidence (earlier ++ root :: later) =
      collectCohort config fetch query evidence (earlier ++ later) := by
  induction earlier generalizing evidence with
  | nil =>
    rw [List.nil_append, List.nil_append, collectCohort, h]
    rfl
  | cons first earlier ih =>
    rw [List.cons_append, List.cons_append, collectCohort, collectCohort]
    congr 1
    funext member
    cases member with
    | none => exact ih evidence
    | some trace =>
      dsimp only
      split
      · rfl
      · exact ih _

/-- A root whose tree is read, and whose runs do not map. -/
def Unmapped (config : LangSmithConfig) (client : RunClient) (root : Record)
    (runs : List SourceRun) : Prop :=
  ∃ traceId tree rootRun error, rootId root = some traceId ∧
    client.fetchRunTree traceId = .ok tree ∧ runsOfTree tree = .ok (runs, rootRun) ∧
    normalizeRuns runs (config.arguments rootRun) = .error error

/-- **A trace that does not map is skipped in every cohort exactly when its normalization raises
typed errors only.** -/
theorem fetchTraces_skip_iff {client : RunClient} {runs : List SourceRun}
    (h : Unmapped config client root runs) :
    (∀ earlier later query, fetchTraces config (client.answering (earlier ++ root :: later)) query =
      fetchTraces config (client.answering (earlier ++ later)) query) ↔ TypedOnly runs := by
  obtain ⟨traceId, tree, rootRun, error, hroot, htree, hruns, herror⟩ := h
  have hevidence : evidenceForTree config tree = .error error := by
    unfold evidenceForTree
    rw [hruns]
    exact herror
  have hmember (query : TraceQuery) : cohortMember config client.fetchRunTree query root =
      if isMappingError error then .ok none else .error (.raised error) := by
    unfold cohortMember
    rw [hroot]
    dsimp only
    rw [htree]
    dsimp only [bind, Except.bind]
    rw [hevidence]
  rw [← onlyRaises_normalizeRuns runs (config.arguments rootRun), herror]
  constructor
  · intro hskip
    apply onlyRaises_error
    unfold IsTyped
    by_contra huntyped
    -- alone in its cohort, the trace raises
    have halone := hskip [] [] default
    have hraises := hmember default
    rw [if_neg huntyped] at hraises
    have hcollect : collectCohort config client.fetchRunTree default [] [root] =
        .error (.raised error) := by
      rw [collectCohort, hraises]
      rfl
    unfold fetchTraces RunClient.answering at halone
    dsimp only [List.nil_append, bind, Except.bind] at halone
    rw [hcollect] at halone
    cases halone
  · intro honly earlier later query
    have htyped : isMappingError error = true := honly error rfl
    have hskipped := hmember query
    rw [if_pos htyped] at hskipped
    unfold fetchTraces RunClient.answering
    dsimp only [bind, Except.bind]
    rw [collectCohort_skip hskipped]

end Cohort

end Runs

/-! ## A run with a long name -/

section Examples

attribute [local instance] asciiTables plainNumbers constantHashes plainTexts epochTexts

/-- A name that exceeds the bound of an event by one character. -/
def longName : String := String.ofList (List.replicate 201 'a')

theorem lengthWithin_longName : lengthWithin 1 200 longName = false := by
  unfold lengthWithin longName
  rw [String.length_ofList, List.length_replicate]
  rfl

def longNamedRecord : Record :=
  [("id", .str "run-1"), ("name", .str longName), ("start_time", .str "1970-01-01T00:00:00+00:00")]

def longNamedRun : SourceRun where
  runId := "run-1"
  name := longName
  parentId := none
  startTime := .epoch
  endTime := none
  attributes := []

/-- A client that has the record only. -/
def longNamedClient : RunClient where
  fetchRunTree _ := .ok longNamedRecord
  queryRootRuns _ := .ok [longNamedRecord]

theorem longNamed_wellStructured : WellStructured [longNamedRun] where
  nonempty := List.cons_ne_nil _ _
  distinct := List.nodup_singleton _
  oneRoot := rfl
  parents run hrun parentId hparent := by
    obtain rfl := List.mem_singleton.mp hrun
    cases hparent

theorem not_typedOnly_longNamed : ¬ TypedOnly [longNamedRun] := by
  intro h
  have hnot : ¬ longNamedRun.Maps := by
    intro hmaps
    have hname : lengthWithin 1 200 longName = true := hmaps.name
    rw [lengthWithin_longName] at hname
    cases hname
  obtain ⟨rejected, hmem, entry, hentry, -⟩ :=
    h longNamed_wellStructured [] longNamedRun (List.prefix_append _ _) hnot
  obtain rfl := List.mem_singleton.mp hmem
  exact List.not_mem_nil hentry

theorem runsOfTree_longNamed :
    runsOfTree longNamedRecord = .ok ([longNamedRun], longNamedRun) := by
  have hname : nonEmptyText (fieldOf longNamedRecord "name" .none) = some longName := by
    change (some longName).filter (· ≠ "") = some longName
    rw [Option.filter_some, if_pos (by decide +kernel)]
  have hstart : readTime "1970-01-01T00:00:00+00:00" = .ok .epoch := by
    decide +kernel
  have hrun : sourceRunFromLangsmith longNamedRecord = .ok longNamedRun := by
    unfold sourceRunFromLangsmith
    rw [hname]
    change (do
      let startTime ← readTime "1970-01-01T00:00:00+00:00"
      return ({ longNamedRun with startTime := startTime } : SourceRun)) = _
    rw [hstart]
    rfl
  have htree : flattenRunTree longNamedRecord = .ok [longNamedRecord] := rfl
  unfold runsOfTree
  rw [htree]
  dsimp only [bind, Except.bind]
  rw [List.mapM_cons, hrun]
  rfl

theorem toEvent_longNamed :
    toEvent longNamedRun = .error (.validation "TraceEvent" "constraints") := by
  have hname : lengthWithin 1 200 longNamedRun.name = false := lengthWithin_longName
  have hinvalid : ¬ validEvent longNamedRun.runId longNamedRun.name longNamedRun.parentId none
      none = true := by
    unfold validEvent
    rw [hname, Bool.and_false]
    exact Bool.false_ne_true
  have hevent : TraceEvent.new longNamedRun.runId (inferEventKind longNamedRun.name)
      longNamedRun.name longNamedRun.parentId longNamedRun.startTime longNamedRun.endTime none none
      [] = .error (.validation "TraceEvent" "constraints") := dif_neg hinvalid
  have hattributes : allowlistedAttributes longNamedRun.runId longNamedRun.attributes =
      .ok ([], []) := rfl
  have hduration : durationMs longNamedRun.startTime longNamedRun.endTime = .ok none := rfl
  have herror : sanitizeError longNamedRun.error = (none, []) := rfl
  unfold toEvent
  rw [hattributes, hduration, herror]
  dsimp only [bind, Except.bind]
  rw [hevent]

theorem unmapped_longNamed (config : LangSmithConfig) :
    Unmapped config longNamedClient longNamedRecord [longNamedRun] := by
  refine ⟨"run-1", longNamedRecord, longNamedRun, .validation "TraceEvent" "constraints", rfl, rfl,
    runsOfTree_longNamed, ?_⟩
  unfold normalizeRuns
  rw [checkRuns_eq_ok.mpr longNamed_wellStructured, List.mapM_cons, toEvent_longNamed]
  rfl

end Examples

end ObservabilityLab
