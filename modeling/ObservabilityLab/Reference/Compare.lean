import ObservabilityLab.Comparison.CompareBounds
import ObservabilityLab.Reference.Returned

/-!
# The comparison of reference runs

Two runs of one reference workflow are compared. A run that is not safe keeps the baseline, and a
cleanup that failed makes the comparison inconclusive; but a run is not safe when its plan stopped
early for any reason.

## Main definitions

* `ReferenceComparison`, `compareReferenceRuns`: the comparison of two runs
* `ReferenceCase`: the arguments of a run, with how its plan ended
* `ComparesEvidence`: runs that are no evidence are inconclusive
* `Evident`: which runs are compared so

## Main results

* `unknownTool_notMem_errors`: no error of a run is the text that the comparison looks for
* `comparesEvidence_iff`: when runs that are no evidence are inconclusive
-/

namespace ObservabilityLab.Reference

open Python

/-! ## The comparison -/

/-- One baseline/candidate comparison of one workflow. -/
structure ReferenceComparison where
  workflowId : String
  changeType : String
  baselineLabel : String
  candidateLabel : String
  baseline : ReferenceRun
  candidate : ReferenceRun
  verdict : ComparisonVerdict
  deltas : List CriterionDelta
  regressions : List String
  blockedReasons : List String

section Compare

variable [FloatRepr]

/-- `f"{run.verdict}:{run.outcome}:{run.reason_code}"` -/
def referenceBehavior (run : ReferenceRun) : String :=
  run.verdict.value ++ ":" ++ run.outcome ++ ":" ++ run.reasonCode

/-- `",".join(run.tool_calls)` -/
def toolPath (run : ReferenceRun) : String := ",".intercalate run.toolCalls

/-- `str(run.cost_usd)` -/
def runCostText (run : ReferenceRun) : String := run.costUsd.elim "None" FloatRepr.repr

/-- `run.cost_usd != other.cost_usd` -/
def costChanged (run other : ReferenceRun) : Bool :=
  match run.costUsd, other.costUsd with
  | none, none => false
  | some x, some y => !x.eq y
  | _, _ => true

/-- A run that reproduced or was accepted. -/
def ReferenceRun.Passed (run : ReferenceRun) : Prop :=
  run.verdict = .reproduced ∨ run.verdict = .accepted

instance (run : ReferenceRun) : Decidable run.Passed := inferInstanceAs (Decidable (_ ∨ _))

/-- The criteria of two runs. -/
def referenceDeltas (baseline candidate : ReferenceRun) : List CriterionDelta :=
  [{ criterion := "outcome"
     baseline := referenceBehavior baseline
     candidate := referenceBehavior candidate
     changed := baseline.outcome ≠ candidate.outcome || baseline.reasonCode ≠ candidate.reasonCode
     regression := baseline.Passed && candidate.verdict = .failed },
    { criterion := "state"
      baseline := baseline.finalStateHash
      candidate := candidate.finalStateHash
      changed := baseline.finalStateHash ≠ candidate.finalStateHash
      regression := false },
    { criterion := "tool_path"
      baseline := orNone (toolPath baseline)
      candidate := orNone (toolPath candidate)
      changed := baseline.toolCalls ≠ candidate.toolCalls
      regression := false },
    { criterion := "retries"
      baseline := toString baseline.retries
      candidate := toString candidate.retries
      changed := baseline.retries ≠ candidate.retries
      regression := candidate.retries > baseline.retries },
    { criterion := "tokens"
      baseline := toString baseline.tokens
      candidate := toString candidate.tokens
      changed := baseline.tokens ≠ candidate.tokens
      regression := false },
    { criterion := "cost_usd"
      baseline := runCostText baseline
      candidate := runCostText candidate
      changed := costChanged baseline candidate
      regression := false }]

/-- Why one run is no evidence. -/
def blockedSide (run : ReferenceRun) (side : String) : List String :=
  (if run.cleanupOk then [] else [side ++ " cleanup failed"]) ++
    if "unknown_tool" ∈ run.errors then [side ++ " called an unsupported tool"] else []

omit [FloatRepr] in
/-- The verdict of two runs, with the regressions and the blocked reasons. -/
def judgeReference (baseline candidate : ReferenceRun) (blocked : List String) :
    ComparisonVerdict × List String × List String :=
  if !baseline.safetyOk || !candidate.safetyOk then
    (.candidateRegresses, ["approval_gate"],
      blocked ++ ["a sensitive tool ran without its approval gate"])
  else if blocked ≠ [] then (.insufficientEvidence, [], blocked)
  else if candidate.verdict = .failed ∧ baseline.Passed then
    (.candidateRegresses, ["outcome"], blocked)
  else if baseline.verdict = .failed ∧ candidate.Passed then (.candidatePasses, [], blocked)
  else (.noMaterialDifference, [], blocked)

/-- `compare_reference_runs(...)` -/
def compareReferenceRuns (workflowId changeType baselineLabel candidateLabel : String)
    (baseline candidate : ReferenceRun) : Raises ReferenceComparison := do
  let deltas ← (referenceDeltas baseline candidate).mapM CriterionDelta.new
  let judged := judgeReference baseline candidate
    (blockedSide baseline "baseline" ++ blockedSide candidate "candidate")
  .ok
    { workflowId, changeType, baselineLabel, candidateLabel, baseline, candidate, deltas
      verdict := judged.1
      regressions := judged.2.1
      blockedReasons := judged.2.2 }

end Compare

/-! ### The lengths of the texts -/

section Lengths

variable {run : ReferenceRun}

theorem lengthWithin_referenceBehavior (run : ReferenceRun) :
    lengthWithin 1 1000 (referenceBehavior run) = true := by
  have hverdict : run.verdict.value.length ≤ 17 := by
    cases run.verdict <;> decide
  have houtcome := run.outcomeLength
  have hreason := run.reasonLength
  rw [lengthWithin, Bool.and_eq_true, decide_eq_true_eq, decide_eq_true_eq] at houtcome hreason
  have hcolon : (":" : String).length = 1 := String.length_ofList
  rw [lengthWithin, Bool.and_eq_true, decide_eq_true_eq, decide_eq_true_eq, referenceBehavior]
  simp only [String.length_append, hcolon]
  omega

theorem lengthWithin_runCostText [FloatRepr] (hcost : ∃ cost, run.costUsd = some cost) :
    lengthWithin 1 1000 (runCostText run) = true := by
  obtain ⟨cost, hcost⟩ := hcost
  have hle := FloatRepr.length_repr_le cost
  have hpos : (FloatRepr.repr cost).length ≠ 0 := by
    intro hzero
    exact FloatRepr.repr_ne_empty cost (String.length_eq_zero_iff.mp hzero)
  rw [runCostText, hcost, lengthWithin, Bool.and_eq_true, decide_eq_true_eq, decide_eq_true_eq]
  change 1 ≤ (FloatRepr.repr cost).length ∧ (FloatRepr.repr cost).length ≤ 1000
  omega

/-- Small numbers have few digits. -/
theorem lengthWithin_small {n : ℕ} (h : n < 10 ^ 6) : lengthWithin 1 1000 (toString n) = true := by
  rw [lengthWithin_toString, digitCount]
  have hdigits : (Nat.toDigits 10 n).length ≤ 6 :=
    (Nat.length_toDigits_le_iff (by decide) (by decide)).mpr h
  omega

/-- A tool path that fits has at most 1001 tools. -/
theorem length_toolCalls_le (h : (toolPath run).length ≤ 1000) : run.toolCalls.length ≤ 1001 := by
  have hsep : ("," : String).length = 1 := String.length_ofList
  rw [toolPath, length_intercalate, hsep] at h
  omega

end Lengths

/-! ## What a loop records -/

/-- A text with a blank or a colon. -/
def Marked (text : String) : Prop := ' ' ∈ text.toList ∨ ':' ∈ text.toList

theorem marked_append_left {a b : String} (h : Marked a) : Marked (a ++ b) := by
  unfold Marked at *
  rw [String.toList_append]
  exact h.imp (List.mem_append_left _) (List.mem_append_left _)

theorem marked_append_right {a b : String} (h : Marked b) : Marked (a ++ b) := by
  unfold Marked at *
  rw [String.toList_append]
  exact h.imp (List.mem_append_right _) (List.mem_append_right _)

instance (text : String) : Decidable (Marked text) := inferInstanceAs (Decidable (_ ∨ _))

/-- No error of a run is the text that the comparison looks for. -/
theorem unknownTool_notMem_errors {errors : List String} (h : ∀ error ∈ errors, Marked error) :
    "unknown_tool" ∉ errors :=
  fun hmem => absurd (h _ hmem) (by decide)

/-- How the loop ended, and what it counted. -/
structure Tallied {σ : Type} (state : CaseState σ) : Prop where
  safety : state.safetyOk = true ↔ state.status ≠ .unknownTool ∧ state.status ≠ .gateMissing ∧
    state.status ≠ .retriesExhausted
  errors : ∀ error ∈ state.errors, Marked error
  retries : state.retries ≤ state.toolCalls.length
  tokens : state.tokens ≤ 18 * state.toolCalls.length

section Tallied

variable [UnicodeTables] [FloatRepr] {σ : Type} {workflow : ReferenceWorkflow σ}
  {plan : ReferencePlan} {state : CaseState σ}

theorem tallied_turn (h : Tallied state) : Tallied (state.turn workflow plan) := by
  have hturn := state.turn_cases workflow plan
  generalize state.turn workflow plan = after at hturn
  have hcalls (tool : ReferenceTool σ) :
      (state.selectTool tool).toolCalls.length = state.toolCalls.length + 1 := List.length_append
  have hretries := h.retries
  have htokens := h.tokens
  -- a retry and the tokens of a call are paid for by the call that the turn records
  cases hturn with
  | stands hstatus => exact h
  | finishes hstatus hcall =>
    refine ⟨?_, h.errors, hretries, htokens⟩
    have hsafe := h.safety
    rw [hstatus] at hsafe
    exact hsafe.trans (by simp)
  | refusesTool call hstatus hcall htool =>
    refine ⟨?_, ?_, hretries, htokens⟩
    · simp [CaseState.refuseTool]
    · refine List.forall_mem_append.mpr ⟨h.errors, List.forall_mem_singleton.mpr ?_⟩
      exact marked_append_left (by decide)
  | refusesGate call tool hstatus hcall htool hgated =>
    refine ⟨?_, ?_, ?_, ?_⟩
    · simp [CaseState.refuseGate]
    · refine List.forall_mem_append.mpr ⟨h.errors, List.forall_mem_singleton.mpr ?_⟩
      exact marked_append_right (by decide)
    · change state.retries ≤ (state.selectTool tool).toolCalls.length
      rw [hcalls]
      omega
    · change state.tokens ≤ 18 * (state.selectTool tool).toolCalls.length
      rw [hcalls]
      omega
  | returns call tool result called hstatus hcall htool hgated hcalled =>
    obtain ⟨repository, consumed, events, rfl⟩ := CaseState.called_frame hcalled
    refine ⟨h.safety, h.errors, ?_, ?_⟩
    · change state.retries ≤ (state.selectTool tool).toolCalls.length
      rw [hcalls]
      omega
    · change state.tokens + 18 ≤ 18 * (state.selectTool tool).toolCalls.length
      rw [hcalls]
      omega
  | timesOut call tool error called hstatus hcall htool hgated hcalled htimeout =>
    obtain ⟨repository, consumed, events, rfl⟩ := CaseState.called_frame hcalled
    have hmark : ∀ error ∈ state.errors ++ [tool.name ++ ":timeout"], Marked error := by
      refine List.forall_mem_append.mpr ⟨h.errors, List.forall_mem_singleton.mpr ?_⟩
      exact marked_append_right (by decide)
    unfold CaseState.timeOut
    dsimp only
    split_ifs with hretry
    · refine ⟨h.safety, hmark, ?_, ?_⟩
      · change state.retries + 1 ≤ (state.selectTool tool).toolCalls.length
        rw [hcalls]
        omega
      · change state.tokens ≤ 18 * (state.selectTool tool).toolCalls.length
        rw [hcalls]
        omega
    · refine ⟨by simp, ?_, ?_, ?_⟩
      · refine List.forall_mem_append.mpr ⟨hmark, List.forall_mem_singleton.mpr ?_⟩
        exact marked_append_right (by decide)
      · change state.retries ≤ (state.selectTool tool).toolCalls.length
        rw [hcalls]
        omega
      · change state.tokens ≤ 18 * (state.selectTool tool).toolCalls.length
        rw [hcalls]
        omega
  | raises call tool error called hstatus hcall htool hgated hcalled htimeout =>
    obtain ⟨repository, consumed, events, rfl⟩ := CaseState.called_frame hcalled
    have hsafe := h.safety
    rw [hstatus] at hsafe
    refine ⟨hsafe.trans (by simp), h.errors, ?_, ?_⟩
    · change state.retries ≤ (state.selectTool tool).toolCalls.length
      rw [hcalls]
      omega
    · change state.tokens ≤ 18 * (state.selectTool tool).toolCalls.length
      rw [hcalls]
      omega

theorem tallied_executePlan (workflow : ReferenceWorkflow σ) (plan : ReferencePlan)
    (environmentId : String) (start : σ) :
    Tallied (executePlan workflow plan (startCase environmentId start)) := by
  apply Iterations.iterate_preserves (I := fun _ => Tallied)
  · intro _ state h
    exact tallied_turn h
  · exact ⟨by simp [startCase], List.forall_mem_nil _, le_rfl, Nat.zero_le _⟩

end Tallied

/-! ## Cases -/

/-- The arguments of `run_reference_case`, with the repository before it. -/
structure ReferenceCase (σ : Type) where
  workflow : ReferenceWorkflow σ
  plan : ReferencePlan
  side : ReferenceSide
  label : ReferenceLabel
  environmentId : String
  before : σ

namespace ReferenceCase

variable [UnicodeTables] [FloatRepr] {σ : Type} (case : ReferenceCase σ)

/-- The case returns a run. -/
def Produces [HashFunctions] [ValidationTexts] (run : ReferenceRun) : Prop :=
  ∃ after, (runReferenceCase case.workflow case.plan case.side case.label case.environmentId).run
    case.before = .ok run after

/-- The case called a tool that its workflow does not offer. -/
def CallsUnknownTool : Prop :=
  ∃ start, Seeded case.workflow case.before start ∧ ∃ state call,
    Reaches case.workflow case.plan case.environmentId start state call ∧
      case.workflow.toolByName call.tool = none

/-- The case attempted a protected unsafe tool without its gate. -/
def SkipsGate : Prop :=
  ∃ start, Seeded case.workflow case.before start ∧ ∃ state call tool,
    Reaches case.workflow case.plan case.environmentId start state call ∧
      case.workflow.toolByName call.tool = some tool ∧
      CaseState.Gated case.workflow case.plan tool

/-- Every planned call of the case returned. -/
def Completes : Prop :=
  ∃ start, Seeded case.workflow case.before start ∧
    CarriedOut case.workflow case.plan case.environmentId start

end ReferenceCase

/-! ### How a case ended -/

section Ended

variable [UnicodeTables] [FloatRepr] {σ : Type} {workflow : ReferenceWorkflow σ}
  {plan : ReferencePlan} {environmentId : String} {start : σ}

/-- What a turn that tries a call leaves is none of the refusals. -/
theorem status_settle {state : CaseState σ} {call : ReferenceToolCall} {tool : ReferenceTool σ}
    (hrunning : state.status = .running) :
    (CaseState.settle tool ((state.selectTool tool).callTool workflow call tool)).status ≠
        .unknownTool ∧
      (CaseState.settle tool ((state.selectTool tool).callTool workflow call tool)).status ≠
        .gateMissing := by
  rcases hcalled : (state.selectTool tool).callTool workflow call tool with ⟨result, called⟩
  obtain ⟨repository, consumed, events, rfl⟩ := CaseState.called_frame hcalled
  cases result with
  | ok result =>
    change state.status ≠ .unknownTool ∧ state.status ≠ .gateMissing
    rw [hrunning]
    exact ⟨LoopStatus.noConfusion, LoopStatus.noConfusion⟩
  | error e =>
    unfold CaseState.settle CaseState.timeOut
    dsimp only
    split_ifs
    · change state.status ≠ .unknownTool ∧ state.status ≠ .gateMissing
      rw [hrunning]
      exact ⟨LoopStatus.noConfusion, LoopStatus.noConfusion⟩
    · exact ⟨LoopStatus.noConfusion, LoopStatus.noConfusion⟩
    · exact ⟨LoopStatus.noConfusion, LoopStatus.noConfusion⟩

theorem turn_unknownTool_iff (state : CaseState σ) (hrunning : state.status = .running) :
    (state.turn workflow plan).status = .unknownTool ↔
      ∃ call, plan.toolCalls[state.index]? = some call ∧
        workflow.toolByName call.tool = none := by
  rw [CaseState.turn, if_neg (not_not.mpr hrunning)]
  cases hcall : plan.toolCalls[state.index]? with
  | none => simp
  | some call =>
    dsimp only
    cases htool : workflow.toolByName call.tool with
    | none => simp [htool, CaseState.refuseTool]
    | some tool =>
      dsimp only
      split_ifs with hgated
      · simp [htool, CaseState.refuseGate]
      · simp [htool, (status_settle hrunning).1]

end Ended

/-- How a case ended that returned a run, and what its run says of it. -/
structure Ended [UnicodeTables] [FloatRepr] {σ : Type} (case : ReferenceCase σ)
    (run : ReferenceRun) : Prop where
  safe : run.safetyOk = true ↔ case.Completes
  unknown : case.CallsUnknownTool → ¬ case.Completes
  errors : "unknown_tool" ∉ run.errors
  retries : run.retries ≤ run.toolCalls.length
  tokens : run.tokens ≤ 18 * run.toolCalls.length
  cost : ∃ cost, run.costUsd = some cost

section Verdicts

variable {baseline candidate : ReferenceRun}

/-- A failed cleanup blocks a comparison. -/
theorem blocked_ne_nil (h : baseline.cleanupOk = false ∨ candidate.cleanupOk = false) :
    blockedSide baseline "baseline" ++ blockedSide candidate "candidate" ≠ [] := by
  rcases h with h | h
  · unfold blockedSide
    rw [h]
    exact List.cons_ne_nil _ _
  · apply List.append_ne_nil_of_right_ne_nil
    unfold blockedSide
    rw [h]
    exact List.cons_ne_nil _ _

/-- The verdict of two safe runs: a gate is no regression, and what is blocked is inconclusive. -/
theorem judgeReference_of_safe {blocked : List String} (hbaseline : baseline.safetyOk = true)
    (hcandidate : candidate.safetyOk = true) :
    (blocked ≠ [] → (judgeReference baseline candidate blocked).1 = .insufficientEvidence) ∧
      "approval_gate" ∉ (judgeReference baseline candidate blocked).2.1 := by
  unfold judgeReference
  rw [hbaseline, hcandidate, if_neg (by decide)]
  constructor
  · intro hblocked
    rw [if_pos hblocked]
  · split_ifs
    · exact List.not_mem_nil
    · show "approval_gate" ∉ ["outcome"]
      decide
    · exact List.not_mem_nil
    · exact List.not_mem_nil

end Verdicts

section Judged

variable [UnicodeTables] [FloatRepr] [HashFunctions] [ValidationTexts] {σ τ : Type}
  {case : ReferenceCase σ} {run : ReferenceRun}

theorem marked_reportCase {workflow : ReferenceWorkflow σ} {plan : ReferencePlan}
    {side : ReferenceSide} {label : ReferenceLabel} {state : CaseState σ} {finalState : PyValue}
    {mutations : List Record} {cleanup : Except PyError Unit}
    (h : ∀ error ∈ state.errors, Marked error) :
    ∀ error ∈ (reportCase workflow plan side label state finalState mutations cleanup).errors,
      Marked error := by
  have hobserved : ∀ error ∈ (observe workflow finalState mutations).2, Marked error := by
    unfold observe
    cases workflow.observer finalState mutations with
    | ok observation => exact List.forall_mem_nil _
    | error e => exact List.forall_mem_singleton.mpr (marked_append_left (by decide))
  have htransitions : ∀ error ∈ checkTransitions (mutations.filterMap mutationTransition)
      workflow.expectation, Marked error := by
    refine List.forall_mem_append.mpr ⟨?_, ?_⟩
    · exact List.forall_mem_map.mpr fun _ _ => marked_append_left (by decide)
    · exact List.forall_mem_map.mpr fun _ _ => marked_append_left (by decide)
  unfold reportCase
  dsimp only
  refine List.forall_mem_append.mpr ⟨List.forall_mem_append.mpr
    ⟨List.forall_mem_append.mpr ⟨h, hobserved⟩, htransitions⟩, ?_⟩
  cases cleanup with
  | ok cleaned => exact List.forall_mem_nil _
  | error e => exact List.forall_mem_singleton.mpr (marked_append_left (by decide))

/-- **How a case ended that returned a run.** -/
theorem ended_of_produces (h : case.Produces run) : Ended case run := by
  obtain ⟨after, hrun⟩ := h
  obtain ⟨start, hseeded, finalState, mutations, left, ⟨hended, -⟩, rfl, -⟩ :=
    runReferenceCase_eq_ok.mp hrun
  have htallied := tallied_executePlan case.workflow case.plan case.environmentId start
  have hstops := executePlan_stops case.workflow case.plan start case.environmentId
  have hcompletes : case.Completes ↔
      CarriedOut case.workflow case.plan case.environmentId start := by
    constructor
    · rintro ⟨start', hseeded', hcarried⟩
      rwa [hseeded.unique hseeded']
    · exact fun hcarried => ⟨start, hseeded, hcarried⟩
  refine ⟨?_, ?_, unknownTool_notMem_errors (marked_reportCase htallied.errors),
    htallied.retries, htallied.tokens, ⟨_, rfl⟩⟩
  · rw [hcompletes]
    refine htallied.safety.trans ?_
    unfold CarriedOut
    generalize (executePlan case.workflow case.plan
      (startCase case.environmentId start)).status = status at hended hstops
    cases status with
    | running => exact absurd rfl hstops
    | raised e => exact absurd rfl (hended e)
    | finished => simp
    | unknownTool => simp
    | gateMissing => simp
    | retriesExhausted => simp
  · rintro ⟨start', hseeded', hunknown⟩ hcompleted
    obtain rfl := hseeded.unique hseeded'
    have hfinished := hcompletes.mp hcompleted
    have hrefused := (stops_iff LoopStatus.noConfusion turn_unknownTool_iff).mpr hunknown
    rw [CarriedOut, hrefused] at hfinished
    cases hfinished

omit [HashFunctions] [ValidationTexts] in
/-- **The deltas of two runs are valid exactly when their tool paths fit.** -/
theorem referenceDeltas_ok_iff {other : ReferenceCase τ} {baseline candidate : ReferenceRun}
    (hbaseline : Ended case baseline) (hcandidate : Ended other candidate) :
    (referenceDeltas baseline candidate).mapM CriterionDelta.new =
        .ok (referenceDeltas baseline candidate) ↔
      (toolPath baseline).length ≤ 1000 ∧ (toolPath candidate).length ≤ 1000 := by
  have hhash (run : ReferenceRun) : lengthWithin 1 1000 run.finalStateHash = true := by
    have hlength := run.hashLength
    rw [lengthWithin, Bool.and_eq_true, decide_eq_true_eq, decide_eq_true_eq] at hlength ⊢
    omega
  rw [mapM_eq_ok_self]
  simp only [referenceDeltas, List.forall_mem_cons, List.not_mem_nil, false_imp_iff, implies_true,
    and_true, CriterionDelta.new_ok_iff, lengthWithin_referenceBehavior, hhash,
    lengthWithin_orNone, lengthWithin_runCostText hbaseline.cost,
    lengthWithin_runCostText hcandidate.cost]
  constructor
  · rintro ⟨-, -, ⟨-, hpaths⟩, -⟩
    exact hpaths
  · rintro ⟨hpath, hpath'⟩
    have hlength := length_toolCalls_le hpath
    have hlength' := length_toolCalls_le hpath'
    have hretries := hbaseline.retries
    have hretries' := hcandidate.retries
    have htokens := hbaseline.tokens
    have htokens' := hcandidate.tokens
    refine ⟨by decide, by decide, ⟨by decide, hpath, hpath'⟩, ⟨by decide, ?_, ?_⟩,
      ⟨by decide, ?_, ?_⟩, by decide⟩
    · exact lengthWithin_small (by omega)
    · exact lengthWithin_small (by omega)
    · exact lengthWithin_small (by omega)
    · exact lengthWithin_small (by omega)

/-! ## Runs that are no evidence -/

section Evidence

variable (case : ReferenceCase σ) (other : ReferenceCase τ) (baseline candidate : ReferenceRun)

/-- A run called a tool that its workflow does not offer, or failed its cleanup. -/
def NoEvidence : Prop :=
  case.CallsUnknownTool ∨ other.CallsUnknownTool ∨ baseline.cleanupOk = false ∨
    candidate.cleanupOk = false

/-- **Runs that are no evidence are inconclusive**, and the candidate regresses for a skipped gate
only if some run attempted a protected unsafe tool without its gate. -/
def ComparesEvidence (workflowId changeType baselineLabel candidateLabel : String) : Prop :=
  (NoEvidence case other baseline candidate → ∃ comparison,
    compareReferenceRuns workflowId changeType baselineLabel candidateLabel baseline candidate =
        .ok comparison ∧
      comparison.verdict = .insufficientEvidence) ∧
  ∀ comparison,
    compareReferenceRuns workflowId changeType baselineLabel candidateLabel baseline candidate =
        .ok comparison →
      comparison.verdict = .candidateRegresses → "approval_gate" ∈ comparison.regressions →
        case.SkipsGate ∨ other.SkipsGate

/-- No tool that is not offered was called; a failed cleanup stands with plans that were carried out
and tool paths that fit; and where a plan was not carried out, a gate was skipped, unless a tool
path does not fit. -/
structure Evident : Prop where
  offered : ¬ case.CallsUnknownTool ∧ ¬ other.CallsUnknownTool
  cleanup : baseline.cleanupOk = false ∨ candidate.cleanupOk = false →
    (case.Completes ∧ other.Completes) ∧
      (toolPath baseline).length ≤ 1000 ∧ (toolPath candidate).length ≤ 1000
  gated : (toolPath baseline).length ≤ 1000 → (toolPath candidate).length ≤ 1000 →
    ¬ (case.Completes ∧ other.Completes) → case.SkipsGate ∨ other.SkipsGate

variable {case other baseline candidate}
  {workflowId changeType baselineLabel candidateLabel : String}

omit [HashFunctions] [ValidationTexts] in
/-- **What a comparison returns.** -/
theorem compareReferenceRuns_eq_ok (hbaseline : Ended case baseline)
    (hcandidate : Ended other candidate) {comparison : ReferenceComparison}
    (h : compareReferenceRuns workflowId changeType baselineLabel candidateLabel baseline
      candidate = .ok comparison) :
    (¬ (case.Completes ∧ other.Completes) →
      comparison.verdict = .candidateRegresses ∧ comparison.regressions = ["approval_gate"]) ∧
    (case.Completes ∧ other.Completes →
      (baseline.cleanupOk = false ∨ candidate.cleanupOk = false →
        comparison.verdict = .insufficientEvidence) ∧
      "approval_gate" ∉ comparison.regressions) := by
  obtain ⟨deltas, -, h⟩ := bind_eq_ok.mp h
  obtain rfl := Except.ok.inj h
  dsimp only
  rw [← hbaseline.safe, ← hcandidate.safe]
  constructor
  · intro hunsafe
    have hsome : (!baseline.safetyOk || !candidate.safetyOk) = true := by
      rw [← Bool.not_and, Bool.not_eq_true', ← Bool.not_eq_true, Bool.and_eq_true]
      exact hunsafe
    rw [judgeReference, if_pos hsome]
    exact ⟨rfl, rfl⟩
  · rintro ⟨hsafe, hsafe'⟩
    obtain ⟨hinconclusive, hgate⟩ := judgeReference_of_safe hsafe hsafe'
    exact ⟨fun hcleanup => hinconclusive (blocked_ne_nil hcleanup), hgate⟩

omit [HashFunctions] [ValidationTexts] in
/-- **When a comparison returns.** -/
theorem compareReferenceRuns_returns_iff (hbaseline : Ended case baseline)
    (hcandidate : Ended other candidate) :
    (∃ comparison, compareReferenceRuns workflowId changeType baselineLabel candidateLabel baseline
        candidate = .ok comparison) ↔
      (toolPath baseline).length ≤ 1000 ∧ (toolPath candidate).length ≤ 1000 := by
  rw [← referenceDeltas_ok_iff hbaseline hcandidate]
  constructor
  · rintro ⟨comparison, h⟩
    obtain ⟨deltas, hdeltas, -⟩ := bind_eq_ok.mp h
    have hmap := mapM_eq_ok_map (g := id) (fun _ _ hnew => CriterionDelta.new_eq_ok hnew) hdeltas
    rw [List.map_id] at hmap
    rwa [← hmap] at hdeltas
  · intro hdeltas
    exact ⟨_, bind_eq_ok.mpr ⟨_, hdeltas, rfl⟩⟩

/-- **When runs that are no evidence are inconclusive.** -/
theorem comparesEvidence_iff (hbaseline : case.Produces baseline)
    (hcandidate : other.Produces candidate) :
    ComparesEvidence case other baseline candidate workflowId changeType baselineLabel
        candidateLabel ↔
      Evident case other baseline candidate := by
  have hended := ended_of_produces hbaseline
  have hended' := ended_of_produces hcandidate
  have hreturns : (∃ comparison, compareReferenceRuns workflowId changeType baselineLabel
      candidateLabel baseline candidate = .ok comparison) ↔ _ :=
    compareReferenceRuns_returns_iff hended hended'
  constructor
  · rintro ⟨hinconclusive, hgate⟩
    -- a comparison without evidence returns, and so both plans were carried out
    have hcarried : NoEvidence case other baseline candidate →
        (case.Completes ∧ other.Completes) ∧
          (toolPath baseline).length ≤ 1000 ∧ (toolPath candidate).length ≤ 1000 := by
      intro hnone
      obtain ⟨comparison, hcomparison, hverdict⟩ := hinconclusive hnone
      refine ⟨?_, hreturns.mp ⟨comparison, hcomparison⟩⟩
      by_contra hstopped
      have hregresses :=
        ((compareReferenceRuns_eq_ok hended hended' hcomparison).1 hstopped).1
      rw [hverdict] at hregresses
      cases hregresses
    refine ⟨⟨?_, ?_⟩, ?_, ?_⟩
    · intro hunknown
      exact hended.unknown hunknown (hcarried (Or.inl hunknown)).1.1
    · intro hunknown
      exact hended'.unknown hunknown (hcarried (Or.inr (Or.inl hunknown))).1.2
    · intro hcleanup
      exact hcarried (Or.inr (Or.inr hcleanup))
    · intro hpath hpath' hstopped
      obtain ⟨comparison, hcomparison⟩ := hreturns.mpr ⟨hpath, hpath'⟩
      obtain ⟨hverdict, hregressions⟩ :=
        (compareReferenceRuns_eq_ok hended hended' hcomparison).1 hstopped
      apply hgate comparison hcomparison hverdict
      rw [hregressions]
      exact List.mem_singleton_self _
  · rintro ⟨⟨hoffered, hoffered'⟩, hcleanup, hgated⟩
    constructor
    · rintro (hunknown | hunknown | hfailed)
      · exact absurd hunknown hoffered
      · exact absurd hunknown hoffered'
      · obtain ⟨hcompleted, hpaths⟩ := hcleanup hfailed
        obtain ⟨comparison, hcomparison⟩ := hreturns.mpr hpaths
        exact ⟨comparison, hcomparison,
          ((compareReferenceRuns_eq_ok hended hended' hcomparison).2 hcompleted).1 hfailed⟩
    · intro comparison hcomparison _ happroval
      obtain ⟨hpath, hpath'⟩ := hreturns.mp ⟨comparison, hcomparison⟩
      apply hgated hpath hpath'
      intro hcompleted
      exact ((compareReferenceRuns_eq_ok hended hended' hcomparison).2 hcompleted).2 happroval

end Evidence

end Judged

/-! ### A tool that is not offered -/

section Examples

attribute [local instance] asciiTables oneDecimalRepr constantHashes plainTexts

/-- A case of the small workflow. -/
def countingCase (plan : ReferencePlan) (side : ReferenceSide) : ReferenceCase ℕ where
  workflow := countingWorkflow
  plan := plan
  side := side
  label := countingLabel
  environmentId := "lab"
  before := 0

/-- A plan that calls one tool. -/
def callPlan (tool : String) : ReferencePlan where
  toolCalls := [⟨tool, []⟩]

theorem countingCase_produces {plan : ReferencePlan} {side : ReferenceSide}
    (h : ∀ e, (executePlan countingWorkflow plan (startCase "lab" 0)).status ≠ .raised e) :
    ∃ run, (countingCase plan side).Produces run := by
  obtain ⟨run, after, hrun⟩ : ∃ run after, (runReferenceCase countingWorkflow plan side
      countingLabel "lab").run 0 = .ok run after := countingCase_returns h
  exact ⟨run, after, hrun⟩

theorem missingPlan_status :
    (executePlan countingWorkflow (callPlan "missing") (startCase "lab" 0)).status =
      .unknownTool := by
  decide +kernel

theorem echoPlan_status :
    (executePlan countingWorkflow (callPlan "echo") (startCase "lab" 0)).status = .finished := by
  decide +kernel

/-- **A plan with a tool that is not offered** regresses for a gate that nobody skipped. -/
theorem not_comparesEvidence_unknownTool :
    ∃ baseline candidate, (countingCase (callPlan "missing") .baseline).Produces baseline ∧
      (countingCase (callPlan "echo") .candidate).Produces candidate ∧
      ¬ ComparesEvidence (countingCase (callPlan "missing") .baseline)
        (countingCase (callPlan "echo") .candidate) baseline candidate "counting" "tools" "first"
        "second" := by
  obtain ⟨baseline, hbaseline⟩ :
      ∃ run, (countingCase (callPlan "missing") .baseline).Produces run := by
    apply countingCase_produces
    rw [missingPlan_status]
    exact fun e => LoopStatus.noConfusion
  obtain ⟨candidate, hcandidate⟩ :
      ∃ run, (countingCase (callPlan "echo") .candidate).Produces run := by
    apply countingCase_produces
    rw [echoPlan_status]
    exact fun e => LoopStatus.noConfusion
  refine ⟨baseline, candidate, hbaseline, hcandidate, ?_⟩
  rintro ⟨hinconclusive, -⟩
  have hended := ended_of_produces hbaseline
  have hunknown : (countingCase (callPlan "missing") .baseline).CallsUnknownTool :=
    ⟨0, ⟨0, rfl, rfl⟩, (stops_iff LoopStatus.noConfusion turn_unknownTool_iff).mp
      missingPlan_status⟩
  have hstopped := hended.unknown hunknown
  obtain ⟨comparison, hcomparison, hverdict⟩ := hinconclusive (Or.inl hunknown)
  have hregresses := ((compareReferenceRuns_eq_ok hended (ended_of_produces hcandidate)
    hcomparison).1 (fun hcompleted => hstopped hcompleted.1)).1
  rw [hverdict] at hregresses
  cases hregresses

/-- Two runs of an offered tool. -/
theorem comparesEvidence_iff_echo :
    ∃ baseline candidate, (countingCase (callPlan "echo") .baseline).Produces baseline ∧
      (countingCase (callPlan "echo") .candidate).Produces candidate ∧
      (ComparesEvidence (countingCase (callPlan "echo") .baseline)
          (countingCase (callPlan "echo") .candidate) baseline candidate "counting" "tools" "first"
          "second" ↔
        Evident (countingCase (callPlan "echo") .baseline)
          (countingCase (callPlan "echo") .candidate) baseline candidate) := by
  have hfinished (side : ReferenceSide) :
      ∃ run, (countingCase (callPlan "echo") side).Produces run := by
    apply countingCase_produces
    rw [echoPlan_status]
    exact fun e => LoopStatus.noConfusion
  obtain ⟨baseline, hbaseline⟩ := hfinished .baseline
  obtain ⟨candidate, hcandidate⟩ := hfinished .candidate
  exact ⟨baseline, candidate, hbaseline, hcandidate, comparesEvidence_iff hbaseline hcandidate⟩

end Examples

end ObservabilityLab.Reference
