import ObservabilityLab.Comparison.Evaluators

/-!
# When the evaluators return

A failing evaluator writes the facts of the run into its reason, and a reason longer than 1000
characters raises. Five criteria write facts whose length nothing bounds: access attempts, tools,
transitions, mutations and policy versions; two more write integers of any size.

## Main definitions

* `Returns`: an evaluator returns a result under its own name
* `IsPassing`: an evaluator returns a passing result
* `ReasonsFit`: the facts that the failing evaluators write are short enough

## Main results

* `runEvaluators_returns_iff`: the evaluators return exactly when the reasons fit
-/

namespace ObservabilityLab

open Python

/-- An evaluator returns a result under its own name. -/
def Returns (x : Raises EvaluatorResult) (name : String) : Prop :=
  ∃ r, x = .ok r ∧ r.evaluator = name

/-- An evaluator returns a passing result. -/
def IsPassing (x : Raises EvaluatorResult) : Prop := ∃ r, x = .ok r ∧ r.passed = true

section Bounds

variable [UnicodeTables]

/-- A named result is built exactly when its reason has 1 to 1000 characters. -/
theorem verdictResult_returns {passed : Bool} {name reason : String} {measured : Record}
    (hname : isEvaluatorName name = true) :
    Returns (verdictResult passed name reason measured) name ↔
      1 ≤ reason.length ∧ reason.length ≤ 1000 := by
  have hversion : matchesVersion "1.0.0" = true := rfl
  unfold Returns verdictResult EvaluatorResult.new
  simp only [check_bind_eq_ok, checkField_eq_ok, hname, hversion, true_and, lengthWithin,
    Bool.and_eq_true, decide_eq_true_eq, Except.ok.injEq]
  constructor
  · rintro ⟨r, ⟨hlength, -⟩, -⟩
    exact hlength
  · intro hlength
    exact ⟨_, ⟨hlength, rfl⟩, rfl⟩

theorem verdictResult_evaluator {passed : Bool} {name reason : String} {measured : Record}
    {r : EvaluatorResult} (h : verdictResult passed name reason measured = .ok r) :
    r.evaluator = name := by
  simp only [verdictResult, EvaluatorResult.new, check_bind_eq_ok] at h
  rw [← Except.ok.inj h.2.2.2]

/-- A reason without facts of the run fits. -/
theorem verdictResult_returns_literal {passed : Bool} {name : String} {reason : List Char}
    {measured : Record} (hname : isEvaluatorName name = true)
    (hreason : 1 ≤ reason.length ∧ reason.length ≤ 1000) :
    Returns (verdictResult passed name (String.ofList reason) measured) name := by
  rw [verdictResult_returns hname, String.length_ofList]
  exact hreason

theorem verdictResult_passed {passed : Bool} {name reason : String} {measured : Record}
    {r : EvaluatorResult} (h : verdictResult passed name reason measured = .ok r) :
    r.passed = passed := by
  simp only [verdictResult, EvaluatorResult.new, check_bind_eq_ok] at h
  rw [← Except.ok.inj h.2.2.2]

theorem not_isPassing_failResult {name reason : String} {measured : Record} :
    ¬ IsPassing (failResult name reason measured) := by
  rintro ⟨r, hr, hpassed⟩
  rw [verdictResult_passed hr] at hpassed
  cases hpassed

/-- A passing reason without facts of the run passes. -/
theorem isPassing_passResult {name : String} {reason : List Char} {measured : Record}
    (hname : isEvaluatorName name = true) (hreason : 1 ≤ reason.length ∧ reason.length ≤ 1000) :
    IsPassing (passResult name (String.ofList reason) measured) := by
  have hreturns : Returns (verdictResult true name (String.ofList reason) measured) name :=
    verdictResult_returns_literal hname hreason
  obtain ⟨r, hr, -⟩ := hreturns
  exact ⟨r, hr, verdictResult_passed hr⟩

/-- The characters of a tuple of quoted texts. -/
def quotedTupleLength (texts : List String) : ℕ :=
  elementsLength (texts.map reprText) + if texts.length = 1 then 1 else 0

/-- The characters of a list of quoted texts. -/
def quotedListLength (texts : List String) : ℕ :=
  if texts = [] then 2 else elementsLength (texts.map reprText)

theorem length_reprTupleText_map {texts : List String} (h : texts ≠ []) :
    (reprTupleText (texts.map reprText)).length = quotedTupleLength texts := by
  rw [length_reprTupleText (by simpa using h), List.length_map, quotedTupleLength]

theorem length_reprList_map (texts : List String) :
    (reprList (texts.map reprText)).length = quotedListLength texts := by
  rw [length_reprList, quotedListLength]
  simp only [List.map_eq_nil_iff]

/-! ## One evaluator at a time -/

theorem elementsLength_forbidden {errors : List String}
    (h : ∀ e ∈ errors, e ∈ ["forbidden", "refund_blocked_forbidden"]) :
    elementsLength (errors.map reprText) =
      13 * errors.count "forbidden" + 28 * errors.count "refund_blocked_forbidden" := by
  have hf : (reprText "forbidden").length = 11 := length_reprText_of_plain (by decide)
  have hr : (reprText "refund_blocked_forbidden").length = 26 :=
    length_reprText_of_plain (by decide)
  induction errors with
  | nil => rfl
  | cons e errors ih =>
    obtain ⟨he, hrest⟩ := List.forall_mem_cons.mp h
    have ih := ih hrest
    simp only [elementsLength, List.map_cons, List.sum_cons, List.map_map] at ih ⊢
    simp only [List.mem_cons, List.not_mem_nil, or_false] at he
    rcases he with rfl | rfl
    · rw [List.count_cons_self, List.count_cons_of_ne (by decide), hf, ih]
      omega
    · rw [List.count_cons_self, List.count_cons_of_ne (by decide), hr, ih]
      omega

variable {bundle : SimulationBundle} {metrics : RunMetrics}

theorem checkAuthorization_evaluator {r : EvaluatorResult}
    (h : checkAuthorization bundle metrics = .ok r) : r.evaluator = "authorization" := by
  unfold checkAuthorization at h
  dsimp only at h
  split_ifs at h
  · exact verdictResult_evaluator h
  · exact verdictResult_evaluator h

theorem checkAuthorization_returns :
    Returns (checkAuthorization bundle metrics) "authorization" ↔
      13 * metrics.toolErrors.count "forbidden" +
        28 * metrics.toolErrors.count "refund_blocked_forbidden" ≤ 887 := by
  have hmem : ∀ e ∈ forbiddenErrors metrics, e ∈ ["forbidden", "refund_blocked_forbidden"] := by
    intro e he
    simpa [forbiddenErrors] using (List.mem_filter.mp he).2
  have hcount : ∀ e ∈ ["forbidden", "refund_blocked_forbidden"],
      (forbiddenErrors metrics).count e = metrics.toolErrors.count e := by
    intro e he
    exact List.count_filter (by simpa using he)
  have hlength := elementsLength_forbidden hmem
  rw [hcount _ (by simp), hcount _ (by simp)] at hlength
  unfold checkAuthorization
  dsimp only
  rw [← hlength]
  split_ifs with h
  · rw [failResult, verdictResult_returns (by decide), String.length_append, String.length_append,
      length_reprTupleText_map h, quotedTupleLength]
    repeat rw [String.length_ofList]
    change 1 ≤ 43 + _ + 70 ∧ 43 + _ + 70 ≤ 1000 ↔ _
    split_ifs with hone
    · -- One attempt fits, whichever error it is.
      obtain ⟨e, he⟩ := List.length_eq_one_iff.mp hone
      have hshort : elementsLength ((forbiddenErrors metrics).map reprText) ≤ 28 := by
        rw [hlength, ← hcount _ (by simp), ← hcount _ (by simp), he]
        rcases List.mem_pair.mp (hmem e (by rw [he]; simp)) with rfl | rfl <;> decide
      omega
    · omega
  · rw [not_not] at h
    rw [passResult, h]
    exact iff_of_true (verdictResult_returns_literal (by decide) (by decide)) (Nat.zero_le _)

theorem checkRefundConfirmation_returns :
    Returns (checkRefundConfirmation bundle metrics) "refund_confirmation" := by
  unfold checkRefundConfirmation
  dsimp only
  by_cases h : (metrics.mutations.any (·.reasonCode = "refund_executed") &&
      !bundle.scenario.request.refundConfirmed) = true
  · rw [if_pos h, failResult, verdictResult_returns (by decide), String.length_append,
      String.length_ofList, String.length_ofList]
    decide
  · rw [if_neg h]
    exact verdictResult_returns_literal (by decide) (by decide)

theorem checkAllowedTools_returns :
    Returns (checkAllowedTools bundle metrics) "allowed_tools" ↔
      (unexpectedTools bundle metrics ≠ [] →
        quotedListLength (sortedSet bundle.scenario.eligibleActions) +
          quotedTupleLength (unexpectedTools bundle metrics) ≤ 948) := by
  unfold checkAllowedTools
  dsimp only
  split_ifs with h
  · rw [failResult, verdictResult_returns (by decide), String.length_append, String.length_append,
      String.length_append, length_reprTupleText_map h, length_reprList_map]
    repeat rw [String.length_ofList]
    change 1 ≤ 50 + _ + 2 + _ ∧ 50 + _ + 2 + _ ≤ 1000 ↔ _
    constructor
    · intro hfit _
      omega
    · intro hfit
      have hfit := hfit h
      omega
  · refine iff_of_true ?_ fun hne => absurd hne h
    exact verdictResult_returns_literal (by decide) (by decide)

theorem checkStateTransitions_returns :
    Returns (checkStateTransitions bundle metrics) "state_transitions" ↔
      elementsLength ((missingTransitions bundle metrics).map reprText) ≤ 958 := by
  unfold checkStateTransitions
  dsimp only
  split_ifs with h
  · rw [failResult, verdictResult_returns (by decide), String.length_append,
      length_reprList_map, quotedListLength, if_neg h]
    repeat rw [String.length_ofList]
    change 1 ≤ 42 + _ ∧ 42 + _ ≤ 1000 ↔ _
    omega
  · rw [not_not] at h
    rw [passResult, h]
    exact iff_of_true (verdictResult_returns_literal (by decide) (by decide)) (Nat.zero_le _)

theorem isPassing_checkStateTransitions :
    IsPassing (checkStateTransitions bundle metrics) ↔
      ∀ t ∈ bundle.expectedBehavior.stateTransitions,
        ∃ mutation ∈ metrics.mutations, matchesExpected mutation t = true := by
  have hmissing : missingTransitions bundle metrics = [] ↔
      ∀ t ∈ bundle.expectedBehavior.stateTransitions,
        ∃ mutation ∈ metrics.mutations, matchesExpected mutation t = true := by
    rw [missingTransitions, List.map_eq_nil_iff, List.filter_eq_nil_iff]
    simp only [Bool.not_eq_true', Bool.not_eq_false, List.any_eq_true]
  unfold checkStateTransitions
  dsimp only
  rw [← hmissing]
  split_ifs with h
  · exact iff_of_false not_isPassing_failResult h
  · exact iff_of_true (isPassing_passResult (by decide) (by decide)) (not_not.mp h)

theorem checkEscalation_returns : Returns (checkEscalation bundle metrics) "escalation" := by
  unfold checkEscalation
  dsimp only
  split_ifs
  all_goals exact verdictResult_returns_literal (by decide) (by decide)

theorem checkOutputSchema_returns :
    Returns (checkOutputSchema bundle metrics) "output_schema" :=
  verdictResult_returns_literal (by decide) (by decide)

/-! ## Policy evidence -/

omit [UnicodeTables] in
theorem length_strGrounded_le (grounded : Option Bool) : (strGrounded grounded).length ≤ 5 := by
  rcases grounded with _ | _ | _ <;> decide

theorem checkPolicyGrounding_returns {expectedGrounded grounded : Option Bool}
    {retrieved : Option String} :
    Returns (checkPolicyGrounding expectedGrounded grounded retrieved) "policy_evidence" := by
  unfold checkPolicyGrounding
  lift_lets
  intro measured
  split_ifs
  · refine (verdictResult_returns (by decide)).mpr ?_
    have hexpected := length_strGrounded_le expectedGrounded
    have hgrounded := length_strGrounded_le grounded
    simp only [String.length_append]
    repeat rw [String.length_ofList]
    change 1 ≤ 25 + _ + 22 + 9 + _ ∧ 25 + _ + 22 + 9 + _ ≤ 1000
    omega
  · rw [failResult, verdictResult_returns (by decide), String.length_append,
      String.length_ofList, String.length_ofList]
    decide
  · exact verdictResult_returns_literal (by decide) (by decide)

/-- The texts of a version mismatch are short enough. -/
def PolicyVersionsFit (expected retrieved : Option String) : Prop :=
  ∀ e ∈ expected, ∀ r ∈ retrieved, r ≠ e →
    (reprText r).length + (reprText e).length ≤ 928

theorem checkPolicyEvidence_returns :
    Returns (checkPolicyEvidence bundle metrics) "policy_evidence" ↔
      PolicyVersionsFit bundle.expectedBehavior.policyVersion
        metrics.retrievedPolicyVersion := by
  have hbound := bundle.expectedBehavior.policyVersionLength
  unfold checkPolicyEvidence PolicyVersionsFit
  dsimp only
  split
  · rename_i hexpected
    rw [hexpected]
    exact iff_of_true checkPolicyGrounding_returns (by simp)
  · -- The expected version has at most 50 characters, so its text always fits.
    rename_i expected hexpected hretrieved
    rw [hexpected, optionWithin, Option.all_some, decide_eq_true_eq] at hbound
    have hlength := length_reprText_le expected
    refine iff_of_true ?_ (by simp [hretrieved])
    refine (verdictResult_returns (by decide)).mpr ?_
    simp only [String.length_append]
    repeat rw [String.length_ofList]
    change 1 ≤ 59 + _ + 47 ∧ 59 + _ + 47 ≤ 1000
    omega
  · rename_i expected retrieved hexpected hretrieved
    rw [hexpected, hretrieved]
    simp only [Option.mem_some_iff, forall_eq']
    split_ifs with h
    · rw [failResult, verdictResult_returns (by decide)]
      simp only [String.length_append]
      repeat rw [String.length_ofList]
      change 1 ≤ 33 + _ + 19 + 20 + _ ∧ 33 + _ + 19 + 20 + _ ≤ 1000 ↔ _
      constructor
      · intro hfit _
        omega
      · intro hfit
        have hfit := hfit h
        omega
    · exact iff_of_true checkPolicyGrounding_returns fun hne => absurd hne h

/-! ## Budgets -/

/-- The numbers that the latency reason writes are short enough. -/
def LatencyFits (budget : Option ℕ) (latency : Option PyFloat) : Prop :=
  ∀ b ∈ budget, match latency with
    | none => digitCount b ≤ 916
    | some l => (l.format 1).length + digitCount b ≤ if l.gtInt b then 951 else 949

theorem checkLatency_returns :
    Returns (checkLatency bundle metrics) "latency" ↔
      LatencyFits bundle.expectedBehavior.budgets.performanceBudgetMs
        metrics.totalLatencyMs := by
  unfold checkLatency LatencyFits
  split
  · rename_i hbudget
    rw [hbudget]
    exact iff_of_true (verdictResult_returns_literal (by decide) (by decide)) (by simp)
  · rename_i budget hbudget hlatency
    rw [hbudget, hlatency, failResult, verdictResult_returns (by decide)]
    simp only [String.length_append, length_toString, Option.mem_some_iff, forall_eq']
    repeat rw [String.length_ofList]
    change 1 ≤ 24 + _ + 36 + 24 ∧ 24 + _ + 36 + 24 ≤ 1000 ↔ _
    omega
  · rename_i budget latency hbudget hlatency
    rw [hbudget, hlatency]
    simp only [Option.mem_some_iff, forall_eq']
    split_ifs with h
    · rw [failResult, verdictResult_returns (by decide)]
      simp only [String.length_append, length_toString]
      repeat rw [String.length_ofList]
      change 1 ≤ 14 + _ + 25 + _ + 10 ∧ 14 + _ + 25 + _ + 10 ≤ 1000 ↔ _
      omega
    · rw [passResult, verdictResult_returns (by decide)]
      simp only [String.length_append, length_toString]
      repeat rw [String.length_ofList]
      change 1 ≤ 14 + _ + 27 + _ + 10 ∧ 14 + _ + 27 + _ + 10 ≤ 1000 ↔ _
      omega

/-- The numbers that the token reason writes are short enough. -/
def TokensFit (budget tokens : Option ℕ) : Prop :=
  ∀ b ∈ budget, match tokens with
    | none | some 0 => digitCount b ≤ 923
    | some (t + 1) => digitCount (t + 1) + digitCount b ≤ if b < t + 1 then 953 else 949

theorem checkTokens_returns :
    Returns (checkTokens bundle metrics) "tokens" ↔
      TokensFit bundle.expectedBehavior.budgets.maxTokens metrics.tokens := by
  unfold checkTokens TokensFit
  split
  · rename_i hbudget
    rw [hbudget]
    exact iff_of_true (verdictResult_returns_literal (by decide) (by decide)) (by simp)
  · rename_i budget hbudget htokens
    rw [hbudget, htokens, failResult, verdictResult_returns (by decide)]
    simp only [String.length_append, length_toString, Option.mem_some_iff, forall_eq']
    repeat rw [String.length_ofList]
    change 1 ≤ 24 + _ + 35 + 18 ∧ 24 + _ + 35 + 18 ≤ 1000 ↔ _
    omega
  · rename_i budget hbudget htokens
    rw [hbudget, htokens, failResult, verdictResult_returns (by decide)]
    simp only [String.length_append, length_toString, Option.mem_some_iff, forall_eq']
    repeat rw [String.length_ofList]
    change 1 ≤ 24 + _ + 35 + 18 ∧ 24 + _ + 35 + 18 ≤ 1000 ↔ _
    omega
  · rename_i budget tokens hbudget htokens
    rw [hbudget, htokens]
    simp only [Option.mem_some_iff, forall_eq']
    split_ifs with h
    · rw [failResult, verdictResult_returns (by decide)]
      simp only [String.length_append, length_toString]
      repeat rw [String.length_ofList]
      change 1 ≤ 13 + _ + 21 + _ + 13 ∧ 13 + _ + 21 + _ + 13 ≤ 1000 ↔ _
      omega
    · rw [passResult, verdictResult_returns (by decide)]
      simp only [String.length_append, length_toString]
      repeat rw [String.length_ofList]
      change 1 ≤ 13 + _ + 25 + _ + 13 ∧ 13 + _ + 25 + _ + 13 ≤ 1000 ↔ _
      omega

variable [FloatRepr]

/-- A formatted cost is short, so that the cost reason always fits. -/
theorem checkCost_returns : Returns (checkCost bundle metrics) "cost" := by
  unfold checkCost
  split
  · exact verdictResult_returns_literal (by decide) (by decide)
  · rename_i budget _ _
    have hbudget := FloatRepr.length_repr_le budget
    refine (verdictResult_returns (by decide)).mpr ?_
    simp only [String.length_append]
    repeat rw [String.length_ofList]
    change 1 ≤ 24 + _ + 49 ∧ 24 + _ + 49 ≤ 1000
    omega
  · rename_i budget cost _ _
    have hbudget := budget.length_format_le (show 0 < 6 by decide)
    have hcost := cost.length_format_le (show 0 < 6 by decide)
    split_ifs
    · refine (verdictResult_returns (by decide)).mpr ?_
      simp only [String.length_append]
      repeat rw [String.length_ofList]
      change 1 ≤ 16 + _ + 23 + _ + 7 ∧ 16 + _ + 23 + _ + 7 ≤ 1000
      omega
    · refine (verdictResult_returns (by decide)).mpr ?_
      simp only [String.length_append]
      repeat rw [String.length_ofList]
      change 1 ≤ 16 + _ + 25 + _ + 7 ∧ 16 + _ + 25 + _ + 7 ≤ 1000
      omega

theorem checkUnexpectedStateChanges_returns :
    Returns (checkUnexpectedStateChanges bundle metrics) "unexpected_state_changes" ↔
      elementsLength ((unexpectedMutations bundle metrics).map reprText) ≤ 932 := by
  unfold checkUnexpectedStateChanges
  dsimp only
  split_ifs with h
  · rw [failResult, verdictResult_returns (by decide), String.length_append,
      length_reprList_map, quotedListLength, if_neg h]
    repeat rw [String.length_ofList]
    change 1 ≤ 68 + _ ∧ 68 + _ ≤ 1000 ↔ _
    omega
  · rw [not_not] at h
    rw [passResult, h]
    exact iff_of_true (verdictResult_returns_literal (by decide) (by decide)) (Nat.zero_le _)

theorem isPassing_checkUnexpectedStateChanges :
    IsPassing (checkUnexpectedStateChanges bundle metrics) ↔
      ∀ mutation ∈ metrics.mutations, bundle.expectedBehavior.permittedStateTransitions.any
        (matchesPermitted mutation) = true := by
  have hunexpected : unexpectedMutations bundle metrics = [] ↔
      ∀ mutation ∈ metrics.mutations, bundle.expectedBehavior.permittedStateTransitions.any
        (matchesPermitted mutation) = true := by
    rw [unexpectedMutations, List.map_eq_nil_iff, List.filter_eq_nil_iff]
    simp only [Bool.not_eq_true', Bool.not_eq_false]
  unfold checkUnexpectedStateChanges
  dsimp only
  rw [← hunexpected]
  split_ifs with h
  · exact iff_of_false not_isPassing_failResult h
  · exact iff_of_true (isPassing_passResult (by decide) (by decide)) (not_not.mp h)

/-! ## All evaluators -/

/-- **The facts that the failing evaluators write are short enough.** -/
structure ReasonsFit (bundle : SimulationBundle) (metrics : RunMetrics) : Prop where
  accessAttempts : 13 * metrics.toolErrors.count "forbidden" +
    28 * metrics.toolErrors.count "refund_blocked_forbidden" ≤ 887
  tools : unexpectedTools bundle metrics ≠ [] →
    quotedListLength (sortedSet bundle.scenario.eligibleActions) +
      quotedTupleLength (unexpectedTools bundle metrics) ≤ 948
  transitions : elementsLength ((missingTransitions bundle metrics).map reprText) ≤ 958
  mutations : elementsLength ((unexpectedMutations bundle metrics).map reprText) ≤ 932
  policyVersions : PolicyVersionsFit bundle.expectedBehavior.policyVersion
    metrics.retrievedPolicyVersion
  latency : LatencyFits bundle.expectedBehavior.budgets.performanceBudgetMs
    metrics.totalLatencyMs
  tokens : TokensFit bundle.expectedBehavior.budgets.maxTokens metrics.tokens

/-- Every evaluator returns exactly when the reasons fit. -/
theorem allEvaluators_return_iff :
    (∀ evaluator ∈ allEvaluators, Returns (evaluator.check bundle metrics) evaluator.name) ↔
      ReasonsFit bundle metrics := by
  simp only [allEvaluators, List.forall_mem_cons, checkAuthorization_returns,
    checkRefundConfirmation_returns, checkAllowedTools_returns, checkStateTransitions_returns,
    checkUnexpectedStateChanges_returns, checkPolicyEvidence_returns, checkOutputSchema_returns,
    checkEscalation_returns, checkLatency_returns, checkTokens_returns, checkCost_returns,
    true_and, List.not_mem_nil, false_imp_iff, implies_true, and_true]
  constructor
  · rintro ⟨haccess, htools, htransitions, hmutations, hpolicy, hlatency, htokens⟩
    exact ⟨haccess, htools, htransitions, hmutations, hpolicy, hlatency, htokens⟩
  · rintro ⟨haccess, htools, htransitions, hmutations, hpolicy, hlatency, htokens⟩
    exact ⟨haccess, htools, htransitions, hmutations, hpolicy, hlatency, htokens⟩

/-- **When the evaluators return**: a report has one result for each evaluator, in order, exactly
when the reasons fit. -/
theorem runEvaluators_returns_iff (bundle : SimulationBundle) (metrics : RunMetrics) :
    (∃ report, runEvaluators bundle metrics allEvaluators = .ok report ∧
        report.results.map (·.evaluator) = evaluatorNames) ↔
      ReasonsFit bundle metrics := by
  rw [← allEvaluators_return_iff, evaluatorNames]
  unfold Returns
  rw [← exists_mapM_eq_ok]
  constructor
  · rintro ⟨report, hrun, hnames⟩
    obtain ⟨results, hresults, hreport⟩ := bind_eq_ok.mp hrun
    obtain rfl := Except.ok.inj hreport
    exact ⟨results, hresults, hnames⟩
  · rintro ⟨results, hresults, hnames⟩
    exact ⟨⟨results⟩, bind_eq_ok.mpr ⟨results, hresults, rfl⟩, hnames⟩

end Bounds

section Runaway

attribute [local instance] asciiTables oneDecimalRepr constantHashes

/-- A run that attempts forbidden accesses again and again. -/
def persistentAttempts : RunMetrics where
  outcome := .completed
  reasonCode := .refundConfirmed
  intent := .refund
  toolErrors := List.replicate 69 "forbidden"

/-- On 69 forbidden accesses to a valid bundle, the authorization evaluator raises. -/
theorem runEvaluators_raises_on_persistentAttempts :
    let bundle := (smallBundle "phase2-01-refund" "refund" (by decide)).withIdentity
    bundle.validate = .ok bundle ∧
      ¬ ∃ report, runEvaluators bundle persistentAttempts allEvaluators = .ok report := by
  refine ⟨?_, ?_⟩
  · refine SimulationBundle.validate_withIdentity (validateBundleContent_smallBundle ?_ ?_) rfl
    · exact isSafeText_of_chars (by decide)
    · exact isSafeText_of_chars (by decide)
  · rintro ⟨report, hreport⟩
    obtain ⟨results, hresults, -⟩ := bind_eq_ok.mp hreport
    rw [allEvaluators, List.mapM_cons, bind_eq_ok] at hresults
    obtain ⟨r, hr, -⟩ := hresults
    dsimp only at hr
    have hname := checkAuthorization_evaluator hr
    have hfit := checkAuthorization_returns.mp ⟨r, hr, hname⟩
    have hcount : persistentAttempts.toolErrors.count "forbidden" = 69 :=
      List.count_replicate_self
    omega

end Runaway

end ObservabilityLab
