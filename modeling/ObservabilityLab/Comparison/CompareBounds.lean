import ObservabilityLab.Comparison.Compare

/-!
# When a comparison returns

The deltas of a comparison have bounded texts: 200 characters for a criterion and 1000 for each
side. The mutations and the tool calls of a run are joined into such texts, and nothing bounds how
many there are.

## Main definitions

* `RunFits`: the display texts of a run are short enough

## Main results

* `deltas_ok_iff`: the deltas of two runs are valid exactly when both runs fit
* `compareRuns_returns_iff`: a comparison of two runs of the bundle returns exactly when both fit
-/

namespace ObservabilityLab

open Python

/-- The characters of the display text of the mutations: the resource, the identifier and the
reason of each, two colons, and a separator between two. -/
def stateLength (run : SimulationRun) : ℕ :=
  (run.mutations.map fun mutation => mutation.resource.length + mutation.resourceId.length +
    mutation.reasonCode.length + 2).sum + 2 * (run.mutations.length - 1)

/-- The characters of the display text of the tool calls. -/
def trajectoryLength (run : SimulationRun) : ℕ :=
  (run.toolCalls.map String.length).sum + (run.toolCalls.length - 1)

/-- **The display texts of a run are short enough.** -/
structure RunFits (run : SimulationRun) : Prop where
  evaluatorNames : ∀ evaluator ∈ run.evaluators.names, evaluator.length ≤ 190
  state : stateLength run ≤ 1000
  trajectory : trajectoryLength run ≤ 1000
  retries : digitCount run.retries ≤ 1000
  tokens : digitCount run.totalTokens ≤ 1000

/-! ## The texts of one run -/

theorem CriterionDelta.new_ok_iff {d : CriterionDelta} :
    d.new = .ok d ↔ lengthWithin 1 200 d.criterion = true ∧
      lengthWithin 1 1000 d.baseline = true ∧ lengthWithin 1 1000 d.candidate = true := by
  simp only [CriterionDelta.new, check_bind_eq_ok, checkField_eq_ok, and_true]

theorem lengthWithin_behaviorText (run : SimulationRun) :
    lengthWithin 1 1000 (behaviorText run) = true := by
  have hverdict (v : RunVerdict) : v.value.length ≤ 17 := by
    cases v <;> decide
  have houtcome (o : SupportOutcome) : o.value.length ≤ 9 := by
    cases o <;> decide
  have hreason (r : ReasonCode) : r.value.length ≤ 32 := by
    cases r <;> decide
  have hv := hverdict run.verdict
  unfold behaviorText lengthWithin
  rw [Bool.and_eq_true, decide_eq_true_eq, decide_eq_true_eq]
  split
  · rw [String.length_append, String.length_ofList]
    change 1 ≤ _ + 12 ∧ _ + 12 ≤ 1000
    omega
  · rename_i response _
    have ho := houtcome response.outcome
    have hr := hreason response.reasonCode
    simp only [String.length_append]
    rw [String.length_ofList]
    change 1 ≤ _ + 1 + _ + 1 + _ ∧ _ + 1 + _ + 1 + _ ≤ 1000
    omega

theorem lengthWithin_passText (passed : Bool) : lengthWithin 1 1000 (passText passed) = true := by
  cases passed <;> decide

theorem lengthWithin_orNone {text : String} :
    lengthWithin 1 1000 (orNone text) = true ↔ text.length ≤ 1000 := by
  unfold orNone
  split_ifs with h
  · subst h
    exact iff_of_true (by decide) (by decide)
  · have hpos : 1 ≤ text.length := by
      rcases Nat.eq_zero_or_pos text.length with hzero | hpos
      · exact absurd (String.length_eq_zero_iff.mp hzero) h
      · exact hpos
    rw [lengthWithin, Bool.and_eq_true, decide_eq_true_eq, decide_eq_true_eq]
    exact and_iff_right hpos

theorem lengthWithin_stateText {run : SimulationRun} :
    lengthWithin 1 1000 (stateText run) = true ↔ stateLength run ≤ 1000 := by
  have hcolon : (":" : String).length = 1 := String.length_ofList
  have hsep : ("; " : String).length = 2 := String.length_ofList
  have hparts : (run.mutations.map fun mutation => (mutation.resource ++ ":" ++
      mutation.resourceId ++ ":" ++ mutation.reasonCode).length) =
        run.mutations.map fun mutation => mutation.resource.length +
          mutation.resourceId.length + mutation.reasonCode.length + 2 := by
    refine List.map_congr_left fun mutation _ => ?_
    simp only [String.length_append, hcolon]
    omega
  rw [stateText, lengthWithin_orNone, length_intercalate, List.map_map, List.length_map, hsep,
    stateLength, ← hparts]
  rfl

theorem lengthWithin_trajectoryText {run : SimulationRun} :
    lengthWithin 1 1000 (trajectoryText run) = true ↔ trajectoryLength run ≤ 1000 := by
  have hsep : ("," : String).length = 1 := String.length_ofList
  rw [trajectoryText, lengthWithin_orNone, length_intercalate, hsep, Nat.one_mul,
    trajectoryLength]

theorem lengthWithin_toString {n : ℕ} :
    lengthWithin 1 1000 (toString n) = true ↔ digitCount n ≤ 1000 := by
  rw [lengthWithin, Bool.and_eq_true, decide_eq_true_eq, decide_eq_true_eq, length_toString]
  exact and_iff_right (digitCount_pos n)

theorem lengthWithin_tokensText {run : SimulationRun} :
    lengthWithin 1 1000 (tokensText run) = true ↔ digitCount run.totalTokens ≤ 1000 := by
  unfold tokensText tokenMeasurement
  split_ifs with h
  · exact lengthWithin_toString
  · have hzero : run.totalTokens = 0 := by omega
    rw [hzero]
    exact iff_of_true (by decide) (by decide)

theorem lengthWithin_measuredText (digits : ℕ) (hlow : 0 < digits) (hhigh : digits ≤ 6)
    (value : Option PyFloat) : lengthWithin 1 1000 (measuredText digits value) = true := by
  cases value with
  | none => exact show lengthWithin 1 1000 "none" = true by decide
  | some x =>
    have hle := x.length_format_le hlow
    have hpos : 1 ≤ (x.format digits).length := by
      rcases Nat.eq_zero_or_pos (x.format digits).length with hzero | hpos
      · exact absurd (String.length_eq_zero_iff.mp hzero) x.format_ne_empty
      · exact hpos
    rw [measuredText, lengthWithin, Bool.and_eq_true, decide_eq_true_eq, decide_eq_true_eq]
    exact ⟨hpos, by simp only [Option.elim]; omega⟩

/-! ## The deltas of two runs -/

variable {baseline candidate : SimulationRun} {bundle : SimulationBundle}

theorem evaluatorDelta_new_ok {evaluator : String} :
    (evaluatorDelta baseline candidate evaluator).new =
        .ok (evaluatorDelta baseline candidate evaluator) ↔ evaluator.length ≤ 190 := by
  have hcriterion : lengthWithin 1 200 ("evaluator:" ++ evaluator) = true ↔
      evaluator.length ≤ 190 := by
    rw [lengthWithin, Bool.and_eq_true, decide_eq_true_eq, decide_eq_true_eq,
      String.length_append, String.length_ofList]
    change 1 ≤ 10 + _ ∧ 10 + _ ≤ 200 ↔ _
    omega
  rw [CriterionDelta.new_ok_iff]
  exact ⟨fun h => hcriterion.mp h.1, fun h =>
    ⟨hcriterion.mpr h, lengthWithin_passText _, lengthWithin_passText _⟩⟩

/-- **The deltas of two runs are valid exactly when both runs fit.** -/
theorem deltas_ok_iff :
    deltas baseline candidate bundle = .ok (criterionDeltas baseline candidate bundle) ↔
      RunFits baseline ∧ RunFits candidate := by
  have hvalid : deltas baseline candidate bundle =
      .ok (criterionDeltas baseline candidate bundle) ↔
        ∀ d ∈ criterionDeltas baseline candidate bundle, d.new = .ok d := by
    rw [deltas, mapM_eq_ok_self]
  rw [hvalid, criterionDeltas, List.forall_mem_append, List.forall_mem_cons, List.forall_mem_map]
  simp only [evaluatorDelta_new_ok]
  simp only [List.forall_mem_cons, List.not_mem_nil, false_imp_iff,
    implies_true, and_true, CriterionDelta.new_ok_iff, outcomeDelta, stateDelta, trajectoryDelta,
    retriesDelta, latencyDelta, tokensDelta, costDelta, lengthWithin_behaviorText,
    lengthWithin_stateText, lengthWithin_trajectoryText, lengthWithin_toString,
    lengthWithin_tokensText, lengthWithin_measuredText 2 (by decide) (by decide),
    lengthWithin_measuredText 6 (by decide) (by decide), comparedEvaluators,
    mem_sortedSet, List.mem_append]
  constructor
  · rintro ⟨⟨-, hnames⟩, ⟨-, hsb, hsc⟩, ⟨-, htb, htc⟩, ⟨-, hrb, hrc⟩, -, ⟨-, hkb, hkc⟩, -⟩
    exact ⟨⟨fun e he => hnames e (Or.inl he), hsb, htb, hrb, hkb⟩,
      ⟨fun e he => hnames e (Or.inr he), hsc, htc, hrc, hkc⟩⟩
  · rintro ⟨⟨hnb, hsb, htb, hrb, hkb⟩, ⟨hnc, hsc, htc, hrc, hkc⟩⟩
    refine ⟨⟨by decide, fun e he => he.elim (hnb e) (hnc e)⟩, ⟨by decide, hsb, hsc⟩,
      ⟨by decide, htb, htc⟩, ⟨by decide, hrb, hrc⟩, by decide, ⟨by decide, hkb, hkc⟩, by decide⟩

/-- **When a comparison returns**: a comparison of two runs of the bundle returns exactly when both
runs fit. -/
theorem compareRuns_returns_iff [UnicodeTables] (hbaseline : RunOf bundle baseline)
    (hcandidate : RunOf bundle candidate) :
    (∃ result, compareRuns baseline candidate bundle = .ok result) ↔
      RunFits baseline ∧ RunFits candidate := by
  rw [← @deltas_ok_iff baseline candidate bundle]
  constructor
  · rintro ⟨result, hresult⟩
    exact (compareRuns_eq_ok.mp hresult).2.2.1
  · intro hdeltas
    exact ⟨_, compareRuns_eq_ok.mpr ⟨hbaseline, hcandidate, hdeltas, rfl⟩⟩

/-! ## Concrete runs -/

section Small

attribute [local instance] asciiTables constantHashes

/-- A small bundle with its identity. -/
def comparedBundle : SimulationBundle :=
  (smallBundle "phase2-01-refund" "refund" (by decide)).withIdentity

/-- A completed run of the small bundle, with the expected outcome or without. -/
def completedRun (outcome : SupportOutcome) (retries : ℕ) : SimulationRun where
  bundleId := .repeated 0
  bundleContentHash := .repeated 0
  scenarioId := "phase2-01-refund"
  verdict := .accepted
  response := some { intent := .refund, outcome := outcome, reasonCode := .refundProposed }
  retries := retries

theorem runOf_completedRun (outcome : SupportOutcome) (retries : ℕ) :
    RunOf comparedBundle (completedRun outcome retries) := ⟨rfl, rfl, rfl⟩

/-- A run that refunds an order. -/
def refundedRun : SimulationRun :=
  { completedRun .completed 1 with
    mutations := [{
      sequence := 1
      resource := "order"
      resourceId := "00000000-0000-0000-0000-000000000000"
      field := "status"
      before := .str "delivered"
      after := .str "refunded"
      reasonCode := "refund_executed" }]
    evaluators.results := [
      { evaluator := "correctness", passed := true, reason := "expected outcome" },
      { evaluator := "latency", passed := false, reason := "over budget" }]
    toolCalls := ["get_order_status", "propose_refund", "confirm_refund"] }

/-- A run that proposes the refund twice. -/
def proposedRun : SimulationRun :=
  { completedRun .blocked 2 with
    evaluators.results := [{ evaluator := "correctness", passed := false, reason := "no refund" }]
    toolCalls := ["get_order_status", "propose_refund", "propose_refund"] }

theorem runFits_refundedRun : RunFits refundedRun where
  evaluatorNames := by decide
  state := by decide
  trajectory := by decide
  retries := by decide
  tokens := by decide

theorem runFits_proposedRun : RunFits proposedRun where
  evaluatorNames := by decide
  state := by decide
  trajectory := by decide
  retries := by decide
  tokens := by decide

/-- The two runs differ in their mutations, tool calls, retries and evaluators, and are compared. -/
theorem compareRuns_returns_refundedRun :
    ∃ result, compareRuns refundedRun proposedRun comparedBundle = .ok result :=
  (compareRuns_returns_iff ⟨rfl, rfl, rfl⟩ ⟨rfl, rfl, rfl⟩).mpr
    ⟨runFits_refundedRun, runFits_proposedRun⟩

/-- A run with sixty tool calls. -/
def busyRun : SimulationRun :=
  { completedRun .completed 0 with toolCalls := List.replicate 60 "get_order_status" }

/-- A run with sixty tool calls belongs to its bundle, and comparing it raises. -/
theorem compareRuns_raises_on_busyRun :
    RunOf comparedBundle busyRun ∧
      ¬ ∃ result, compareRuns busyRun busyRun comparedBundle = .ok result := by
  refine ⟨⟨rfl, rfl, rfl⟩, ?_⟩
  rintro ⟨result, hresult⟩
  have hfits := (deltas_ok_iff.mp (compareRuns_eq_ok.mp hresult).2.2.1).1.trajectory
  have hname : ("get_order_status" : String).length = 16 := String.length_ofList
  simp only [trajectoryLength, busyRun, List.map_replicate, List.sum_replicate, hname,
    List.length_replicate] at hfits
  exact absurd hfits (by decide)

end Small

end ObservabilityLab
