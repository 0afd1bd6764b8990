import ObservabilityLab.Reference.Runner

/-!
# The order of a plan

The attempts of a case follow its plan: every call is tried up to three times in a row, and the next
one only behind a success.

## Main definitions

* `Attempt`, `CaseState.attemptOf`: one attempt of a planned call, and the one that a turn makes
* `attemptLog`: the attempts of the whole loop
* `PlanOrder`: what it is for attempts to follow a plan

## Main results

* `traced_turn`: what one turn preserves
* `plan_executed`: the attempts of a run follow its plan
-/

namespace ObservabilityLab.Reference

open Python

/-! ## Attempts -/

/-- What an attempt of a call came to. -/
inductive AttemptOutcome where
  | refused | returned | timedOut | raised
deriving DecidableEq

/-- One attempt of the planned call at an index, and whether its tool was run. -/
structure Attempt (σ : Type) where
  index : ℕ
  tool : ReferenceTool σ
  ran : Bool
  outcome : AttemptOutcome

/-- What the body of the `try` came to. -/
def attemptOutcome : Except PyError String → AttemptOutcome
  | .ok _ => .returned
  | .error e => if isTimeout e then .timedOut else .raised

section Attempts

variable [UnicodeTables] [FloatRepr] {σ : Type} (workflow : ReferenceWorkflow σ)
  (plan : ReferencePlan) (state : CaseState σ)

namespace CaseState

/-- Whether a call gets to its tool: the arguments are resolved, and no fault is raised. -/
def runsTool (call : ReferenceToolCall) (tool : ReferenceTool σ) : Bool :=
  match resolveArguments call state.results with
  | .error _ => false
  | .ok arguments =>
    (applyFaults workflow.faultScript state.consumed tool.name arguments).error.isNone

/-- The attempt that the next turn makes. -/
def attemptOf : Option (Attempt σ) :=
  if state.status ≠ .running then none
  else match plan.toolCalls[state.index]? with
    | none => none
    | some call =>
      match workflow.toolByName call.tool with
      | none => none
      | some tool =>
        if Gated workflow plan tool then some ⟨state.index, tool, false, .refused⟩
        else some ⟨state.index, tool, (state.selectTool tool).runsTool workflow call tool,
          attemptOutcome ((state.selectTool tool).callTool workflow call tool).1⟩

end CaseState

/-- The attempts of the whole loop. -/
def attemptLog : List (Attempt σ) :=
  Iterations.trace (CaseState.turn workflow plan) (CaseState.attemptOf workflow plan)
    (3 * plan.toolCalls.length + 1) state

omit [UnicodeTables] [FloatRepr] in
/-- **Attempts that follow a plan**: each is of a planned call and its tool, the first one of the
first call, and the next one of the same call behind a timeout and of the next call behind a
success. No call has more than three. -/
structure PlanOrder (log : List (Attempt σ)) : Prop where
  planned : ∀ attempt ∈ log, ∃ call, plan.toolCalls[attempt.index]? = some call ∧
    workflow.toolByName call.tool = some attempt.tool
  first : ∀ attempt ∈ log.head?, attempt.index = 0
  next : log.IsChain fun before after =>
    after.index = before.index ∧ before.outcome = .timedOut ∨
      after.index = before.index + 1 ∧ before.outcome = .returned
  bounded : ∀ index, (log.filter (·.index = index)).length ≤ 3

end Attempts

/-! ## Attempts that follow a plan -/

section Order

variable {σ : Type} {workflow : ReferenceWorkflow σ}
  {plan : ReferencePlan} {state : CaseState σ} {log : List (Attempt σ)} {attempt : Attempt σ}

/-- Where a loop that still runs stands in its attempts. -/
structure Pending (log : List (Attempt σ)) (state : CaseState σ) : Prop where
  retries : log.length = state.retries + state.index
  count : (log.filter (·.index = state.index)).length = state.attempts
  attempts : state.attempts ≤ 2
  reached : ∀ j, j ∈ log.map (·.index) ↔ j < state.index ∨ j = state.index ∧ 0 < state.attempts
  last : ∀ attempt ∈ log.getLast?,
    state.index = attempt.index ∧ attempt.outcome = .timedOut ∨
      state.index = attempt.index + 1 ∧ attempt.outcome = .returned
  start : log = [] → state.index = 0

/-- What is known of the attempts of a loop. -/
structure Traced (workflow : ReferenceWorkflow σ) (plan : ReferencePlan) (log : List (Attempt σ))
    (state : CaseState σ) : Prop where
  ordered : PlanOrder workflow plan log
  names : state.toolCalls = log.map (·.tool.name)
  ungated : ∀ attempt ∈ log, attempt.ran = true → ¬ CaseState.Gated workflow plan attempt.tool
  pending : state.status = .running → Pending log state
  settled : state.status ≠ .running → ∃ reached, (∀ j, j ∈ log.map (·.index) ↔ j < reached) ∧
    log.length = state.retries + reached

/-- One more attempt of the pending call follows the plan. -/
theorem PlanOrder.extend (hordered : PlanOrder workflow plan log) (hpending : Pending log state)
    {call : ReferenceToolCall} (hcall : plan.toolCalls[state.index]? = some call)
    (htool : workflow.toolByName call.tool = some attempt.tool)
    (hindex : attempt.index = state.index) : PlanOrder workflow plan (log ++ [attempt]) where
  planned other hother := by
    rcases List.mem_append.mp hother with hother | hother
    · exact hordered.planned other hother
    · rw [List.mem_singleton.mp hother, hindex]
      exact ⟨call, hcall, htool⟩
  first other hother := by
    cases log with
    | nil =>
      obtain rfl := Option.some.inj hother
      rw [hindex]
      exact hpending.start rfl
    | cons head log => exact hordered.first other hother
  next := by
    refine hordered.next.append (List.isChain_singleton attempt) ?_
    intro before hbefore after hafter
    obtain rfl := Option.some.inj hafter
    rw [hindex]
    exact hpending.last before hbefore
  bounded index := by
    rw [List.filter_append, List.length_append, List.filter_singleton]
    by_cases h : state.index = index
    · have hcount := hpending.count
      have hattempts := hpending.attempts
      rw [h] at hcount
      rw [hcount, hindex, h, decide_eq_true rfl]
      exact Nat.succ_le_succ hattempts
    · rw [hindex, decide_eq_false h]
      exact hordered.bounded index

/-- The indices behind one more attempt of the pending call. -/
theorem Pending.reached_append (hpending : Pending log state) (hindex : attempt.index = state.index)
    (j : ℕ) : j ∈ (log ++ [attempt]).map (·.index) ↔ j < state.index + 1 := by
  rw [List.map_append, List.mem_append, hpending.reached, List.map_singleton, List.mem_singleton,
    hindex]
  omega

/-- A call that was tried is a planned one of a tool of the workflow. -/
theorem Pending.planned_of_attempts (hpending : Pending log state)
    (hordered : PlanOrder workflow plan log) (h : 0 < state.attempts) :
    ∃ call, plan.toolCalls[state.index]? = some call ∧
      (workflow.toolByName call.tool).isSome = true := by
  obtain ⟨attempt, hattempt, hindex⟩ :=
    List.mem_map.mp ((hpending.reached state.index).mpr (Or.inr ⟨rfl, h⟩))
  obtain ⟨call, hcall, htool⟩ := hordered.planned attempt hattempt
  rw [hindex] at hcall
  exact ⟨call, hcall, by rw [htool]; rfl⟩

/-- A loop that ends without one more attempt. -/
theorem Pending.settled (hpending : Pending log state) (h : state.attempts = 0) :
    ∃ reached, (∀ j, j ∈ log.map (·.index) ↔ j < reached) ∧
      log.length = state.retries + reached := by
  refine ⟨state.index, ?_, hpending.retries⟩
  intro j
  rw [hpending.reached, h]
  omega

/-- A turn that makes no attempt, and ends the loop with no call pending. -/
theorem Traced.stop (h : Traced workflow plan log state) {after : CaseState σ}
    (hrunning : state.status = .running) (hattempts : state.attempts = 0)
    (hstatus : after.status ≠ .running) (hnames : after.toolCalls = state.toolCalls)
    (hretries : after.retries = state.retries) : Traced workflow plan log after where
  ordered := h.ordered
  names := hnames.trans h.names
  ungated := h.ungated
  pending hafter := absurd hafter hstatus
  settled _ := by
    rw [hretries]
    exact (h.pending hrunning).settled hattempts

/-- A turn that makes an attempt, and ends the loop. -/
theorem Traced.attemptLast (h : Traced workflow plan log state) {after : CaseState σ}
    {call : ReferenceToolCall} (hrunning : state.status = .running)
    (hcall : plan.toolCalls[state.index]? = some call)
    (htool : workflow.toolByName call.tool = some attempt.tool)
    (hindex : attempt.index = state.index)
    (hungated : attempt.ran = true → ¬ CaseState.Gated workflow plan attempt.tool)
    (hstatus : after.status ≠ .running)
    (hnames : after.toolCalls = state.toolCalls ++ [attempt.tool.name])
    (hretries : after.retries = state.retries) :
    Traced workflow plan (log ++ [attempt]) after where
  ordered := h.ordered.extend (h.pending hrunning) hcall htool hindex
  names := by rw [hnames, h.names, List.map_append, List.map_singleton]
  ungated := List.forall_mem_append.mpr ⟨h.ungated, List.forall_mem_singleton.mpr hungated⟩
  pending hafter := absurd hafter hstatus
  settled _ := by
    refine ⟨state.index + 1, (h.pending hrunning).reached_append hindex, ?_⟩
    rw [List.length_append, (h.pending hrunning).retries, hretries]
    rfl

/-- A turn that makes an attempt, behind which the loop goes on. -/
theorem Traced.attemptNext (h : Traced workflow plan log state) {after : CaseState σ}
    {call : ReferenceToolCall} (hrunning : state.status = .running)
    (hcall : plan.toolCalls[state.index]? = some call)
    (htool : workflow.toolByName call.tool = some attempt.tool)
    (hindex : attempt.index = state.index)
    (hungated : attempt.ran = true → ¬ CaseState.Gated workflow plan attempt.tool)
    (hstatus : after.status = .running)
    (hnames : after.toolCalls = state.toolCalls ++ [attempt.tool.name])
    (hpending : Pending (log ++ [attempt]) after) :
    Traced workflow plan (log ++ [attempt]) after where
  ordered := h.ordered.extend (h.pending hrunning) hcall htool hindex
  names := by rw [hnames, h.names, List.map_append, List.map_singleton]
  ungated := List.forall_mem_append.mpr ⟨h.ungated, List.forall_mem_singleton.mpr hungated⟩
  pending _ := hpending
  settled hafter := absurd hstatus hafter

/-- Behind a success the next call is pending. -/
theorem Pending.succeed (hpending : Pending log state) (hindex : attempt.index = state.index)
    (houtcome : attempt.outcome = .returned) {after : CaseState σ}
    (hretries : after.retries = state.retries) (hnext : after.index = state.index + 1)
    (hattempts : after.attempts = 0) : Pending (log ++ [attempt]) after where
  retries := by
    rw [List.length_append, hpending.retries, hretries, hnext]
    rfl
  count := by
    rw [hattempts, List.length_eq_zero_iff, List.filter_eq_nil_iff]
    intro other hother heq
    have hreached := (hpending.reached_append hindex other.index).mp
      (List.mem_map_of_mem hother)
    have hsame := of_decide_eq_true heq
    omega
  attempts := by
    rw [hattempts]
    exact Nat.zero_le _
  reached j := by
    rw [hpending.reached_append hindex, hnext, hattempts]
    omega
  last other hother := by
    rw [List.getLast?_concat] at hother
    obtain rfl := Option.some.inj hother
    exact Or.inr ⟨by rw [hnext, hindex], houtcome⟩
  start hnil := absurd hnil (by simp)

/-- Behind a timeout the same call is pending. -/
theorem Pending.timeOut (hpending : Pending log state) (hindex : attempt.index = state.index)
    (houtcome : attempt.outcome = .timedOut) {after : CaseState σ}
    (hretries : after.retries = state.retries + 1) (hnext : after.index = state.index)
    (hattempts : after.attempts = state.attempts + 1) (hle : after.attempts ≤ 2) :
    Pending (log ++ [attempt]) after where
  retries := by
    rw [List.length_append, hpending.retries, hretries, hnext]
    change state.retries + state.index + 1 = _
    omega
  count := by
    rw [List.filter_append, List.length_append, hnext, hpending.count, List.filter_singleton,
      hindex, decide_eq_true rfl, hattempts]
    rfl
  attempts := hle
  reached j := by
    rw [hpending.reached_append hindex, hnext, hattempts]
    omega
  last other hother := by
    rw [List.getLast?_concat] at hother
    obtain rfl := Option.some.inj hother
    exact Or.inl ⟨by rw [hnext, hindex], houtcome⟩
  start hnil := absurd hnil (by simp)

/-- The number of distinct indices below a bound that all occur. -/
theorem length_dedup_eq {indices : List ℕ} {reached : ℕ} (h : ∀ j, j ∈ indices ↔ j < reached) :
    indices.dedup.length = reached := by
  have hperm : indices.dedup.Perm (List.range reached) := by
    rw [List.perm_ext_iff_of_nodup (List.nodup_dedup _) List.nodup_range]
    intro j
    rw [List.mem_dedup, h, List.mem_range]
  rw [hperm.length_eq, List.length_range]

theorem planOrder_nil (workflow : ReferenceWorkflow σ) (plan : ReferencePlan) :
    PlanOrder workflow plan [] where
  planned := List.forall_mem_nil _
  first _ h := absurd h (Option.not_mem_none _)
  next := List.isChain_nil
  bounded _ := Nat.zero_le _

/-- Before the first attempt the first call is pending. -/
theorem pending_start (environmentId : String) (repository : σ) :
    Pending [] (startCase environmentId repository) where
  retries := rfl
  count := rfl
  attempts := Nat.zero_le _
  reached j := by simp [startCase]
  last _ h := absurd h (Option.not_mem_none _)
  start _ := rfl

end Order

/-! ## One turn -/

section Turns

variable [UnicodeTables] [FloatRepr] {σ : Type} {workflow : ReferenceWorkflow σ}
  {plan : ReferencePlan} {state : CaseState σ} {log : List (Attempt σ)}

/-- The attempt of a turn that tries a call. -/
theorem attemptOf_called {call : ReferenceToolCall} {tool : ReferenceTool σ}
    {result : Except PyError String} {called : CaseState σ} (hstatus : state.status = .running)
    (hcall : plan.toolCalls[state.index]? = some call)
    (htool : workflow.toolByName call.tool = some tool)
    (hgated : ¬ CaseState.Gated workflow plan tool)
    (hcalled : (state.selectTool tool).callTool workflow call tool = (result, called)) :
    state.attemptOf workflow plan = some ⟨state.index, tool,
      (state.selectTool tool).runsTool workflow call tool, attemptOutcome result⟩ := by
  rw [CaseState.attemptOf, if_neg (not_not.mpr hstatus), hcall]
  dsimp only
  rw [htool]
  dsimp only
  rw [if_neg hgated, hcalled]

/-- A call that does not get to its tool leaves the repository as it was. -/
theorem CaseState.repository_of_not_runsTool {call : ReferenceToolCall} {tool : ReferenceTool σ}
    {result : Except PyError String} {called : CaseState σ} (state : CaseState σ)
    (hruns : state.runsTool workflow call tool = false)
    (hcalled : state.callTool workflow call tool = (result, called)) :
    called.repository = state.repository := by
  unfold callTool at hcalled
  unfold runsTool at hruns
  cases hresolve : resolveArguments call state.results with
  | error e =>
    rw [hresolve] at hcalled
    rw [← (Prod.mk.inj hcalled).2]
  | ok arguments =>
    rw [hresolve] at hcalled hruns
    dsimp only at hcalled hruns
    cases hfault : (applyFaults workflow.faultScript state.consumed tool.name arguments).error with
    | none =>
      rw [hfault] at hruns
      cases hruns
    | some e =>
      rw [hfault] at hcalled
      rw [← (Prod.mk.inj hcalled).2]

/-- **What one turn preserves.** -/
theorem traced_turn (h : Traced workflow plan log state) :
    Traced workflow plan (log ++ (state.attemptOf workflow plan).toList)
      (state.turn workflow plan) := by
  have hturn := state.turn_cases workflow plan
  generalize state.turn workflow plan = after at hturn
  -- a turn attempts one call at most, and the log grows by that attempt
  cases hturn with
  | stands hstatus =>
    rw [CaseState.attemptOf, if_pos hstatus, Option.toList_none, List.append_nil]
    exact h
  | finishes hstatus hcall =>
    have hnone : state.attemptOf workflow plan = none := by
      rw [CaseState.attemptOf, if_neg (not_not.mpr hstatus), hcall]
    rw [hnone, Option.toList_none, List.append_nil]
    refine h.stop hstatus ?_ LoopStatus.noConfusion rfl rfl
    by_contra hattempts
    obtain ⟨call, hsome, -⟩ :=
      (h.pending hstatus).planned_of_attempts h.ordered (Nat.pos_of_ne_zero hattempts)
    rw [hcall] at hsome
    cases hsome
  | refusesTool call hstatus hcall htool =>
    have hnone : state.attemptOf workflow plan = none := by
      rw [CaseState.attemptOf, if_neg (not_not.mpr hstatus), hcall]
      dsimp only
      rw [htool]
    rw [hnone, Option.toList_none, List.append_nil]
    refine h.stop hstatus ?_ LoopStatus.noConfusion rfl rfl
    by_contra hattempts
    obtain ⟨other, hsome, hoffered⟩ :=
      (h.pending hstatus).planned_of_attempts h.ordered (Nat.pos_of_ne_zero hattempts)
    rw [hcall] at hsome
    rw [← Option.some.inj hsome, htool] at hoffered
    cases hoffered
  | refusesGate call tool hstatus hcall htool hgated =>
    have hsome : state.attemptOf workflow plan = some ⟨state.index, tool, false, .refused⟩ := by
      rw [CaseState.attemptOf, if_neg (not_not.mpr hstatus), hcall]
      dsimp only
      rw [htool]
      exact if_pos hgated
    rw [hsome]
    exact h.attemptLast hstatus hcall htool rfl (fun hran => by cases hran)
      LoopStatus.noConfusion rfl rfl
  | returns call tool result called hstatus hcall htool hgated hcalled =>
    rw [attemptOf_called hstatus hcall htool hgated hcalled]
    obtain ⟨repository, consumed, events, rfl⟩ := CaseState.called_frame hcalled
    refine h.attemptNext hstatus hcall htool rfl (fun _ => hgated) hstatus rfl ?_
    exact (h.pending hstatus).succeed rfl rfl rfl rfl rfl
  | timesOut call tool error called hstatus hcall htool hgated hcalled htimeout =>
    rw [attemptOf_called hstatus hcall htool hgated hcalled]
    obtain ⟨repository, consumed, events, rfl⟩ := CaseState.called_frame hcalled
    have houtcome : attemptOutcome (.error error) = .timedOut := if_pos htimeout
    unfold CaseState.timeOut
    dsimp only
    -- a call that may be retried stays the pending one
    split_ifs with hretry
    · refine h.attemptNext hstatus hcall htool rfl (fun _ => hgated) hstatus rfl ?_
      exact (h.pending hstatus).timeOut rfl houtcome rfl rfl rfl hretry
    · exact h.attemptLast hstatus hcall htool rfl (fun _ => hgated) LoopStatus.noConfusion rfl rfl
  | raises call tool error called hstatus hcall htool hgated hcalled htimeout =>
    rw [attemptOf_called hstatus hcall htool hgated hcalled]
    obtain ⟨repository, consumed, events, rfl⟩ := CaseState.called_frame hcalled
    exact h.attemptLast hstatus hcall htool rfl (fun _ => hgated) LoopStatus.noConfusion rfl rfl

/-- An attempt that does not get to its tool leaves the repository as it was. -/
theorem repository_of_not_ran {attempt : Attempt σ}
    (hattempt : state.attemptOf workflow plan = some attempt) (hran : attempt.ran = false) :
    (state.turn workflow plan).repository = state.repository := by
  have hturn := state.turn_cases workflow plan
  generalize state.turn workflow plan = after at hturn
  have hkept {call : ReferenceToolCall} {tool : ReferenceTool σ} {result : Except PyError String}
      {called : CaseState σ} (hstatus : state.status = .running)
      (hcall : plan.toolCalls[state.index]? = some call)
      (htool : workflow.toolByName call.tool = some tool)
      (hgated : ¬ CaseState.Gated workflow plan tool)
      (hcalled : (state.selectTool tool).callTool workflow call tool = (result, called)) :
      called.repository = state.repository := by
    rw [attemptOf_called hstatus hcall htool hgated hcalled] at hattempt
    rw [← Option.some.inj hattempt] at hran
    exact CaseState.repository_of_not_runsTool (state.selectTool tool) hran hcalled
  cases hturn with
  | stands hstatus => rfl
  | finishes hstatus hcall => rfl
  | refusesTool call hstatus hcall htool => rfl
  | refusesGate call tool hstatus hcall htool hgated => rfl
  | returns call tool result called hstatus hcall htool hgated hcalled =>
    change called.repository = state.repository
    exact hkept hstatus hcall htool hgated hcalled
  | timesOut call tool error called hstatus hcall htool hgated hcalled htimeout =>
    rw [← hkept hstatus hcall htool hgated hcalled]
    unfold CaseState.timeOut
    dsimp only
    split_ifs <;> rfl
  | raises call tool error called hstatus hcall htool hgated hcalled htimeout =>
    change called.repository = state.repository
    exact hkept hstatus hcall htool hgated hcalled

/-! ## The run -/

/-- The attempts of a whole loop. -/
theorem traced_executePlan (workflow : ReferenceWorkflow σ) (plan : ReferencePlan)
    (environmentId : String) (repository : σ) :
    Traced workflow plan (attemptLog workflow plan (startCase environmentId repository))
      (executePlan workflow plan (startCase environmentId repository)) := by
  apply Iterations.trace_preserves
  · intro log state h
    exact traced_turn h
  · exact
      { ordered := planOrder_nil workflow plan
        names := rfl
        ungated := List.forall_mem_nil _
        pending := fun _ => pending_start environmentId repository
        settled := fun h => absurd rfl h }

variable [HashFunctions] [ValidationTexts] {side : ReferenceSide} {label : ReferenceLabel}
  {environmentId : String} {before after : σ} {run : ReferenceRun}

/-- **The attempts of a run follow its plan.** The loop of a run that returns has ended. Its tool
calls are its attempts, which follow the plan; its retries count those that repeat a call; no
attempt ran a gated tool; and a turn whose attempt did not run its tool left the repository as it
was. -/
theorem plan_executed
    (h : (runReferenceCase workflow plan side label environmentId).run before = .ok run after) :
    ∃ start, Seeded workflow before start ∧
      (executePlan workflow plan (startCase environmentId start)).status ≠ .running ∧
      run.toolCalls =
        (attemptLog workflow plan (startCase environmentId start)).map (·.tool.name) ∧
      PlanOrder workflow plan (attemptLog workflow plan (startCase environmentId start)) ∧
      (attemptLog workflow plan (startCase environmentId start)).length = run.retries +
        ((attemptLog workflow plan (startCase environmentId start)).map (·.index)).dedup.length ∧
      (∀ attempt ∈ attemptLog workflow plan (startCase environmentId start),
        attempt.ran = true → ¬ CaseState.Gated workflow plan attempt.tool) ∧
      ∀ n attempt, ((CaseState.turn workflow plan)^[n] (startCase environmentId start)).attemptOf
          workflow plan = some attempt → attempt.ran = false →
        ((CaseState.turn workflow plan)^[n + 1] (startCase environmentId start)).repository =
          ((CaseState.turn workflow plan)^[n] (startCase environmentId start)).repository := by
  obtain ⟨start, hseeded, finalState, mutations, left, -, rfl, -⟩ := runReferenceCase_eq_ok.mp h
  have hstops := executePlan_stops workflow plan start environmentId
  have htraced := traced_executePlan workflow plan environmentId start
  obtain ⟨reached, hreached, hlength⟩ := htraced.settled hstops
  refine ⟨start, hseeded, hstops, htraced.names, htraced.ordered, ?_, htraced.ungated, ?_⟩
  · rw [length_dedup_eq hreached]
    exact hlength
  · intro n attempt hattempt hran
    rw [Function.iterate_succ_apply']
    exact repository_of_not_ran hattempt hran

end Turns

section Examples

attribute [local instance] asciiTables oneDecimalRepr constantHashes plainTexts

/-- A plan that calls a slow tool, a steady one, and one behind a gate that was not verified. -/
def pingPlan : ReferencePlan where
  toolCalls := [⟨"ping", []⟩, ⟨"echo", []⟩, ⟨"refund", []⟩]

/-- The slow tool is tried twice, and the gated one is refused. -/
example : (attemptLog countingWorkflow pingPlan (startCase "lab" 0)).map
    (fun attempt => (attempt.index, attempt.ran, attempt.outcome)) =
      [(0, true, .timedOut), (0, true, .returned), (1, true, .returned), (2, false, .refused)] := by
  decide +kernel

/-- `plan_executed` on a slow tool, a steady one, and a gated one. -/
theorem plan_executed_ping :
    ∃ run after, (runReferenceCase countingWorkflow pingPlan .baseline countingLabel "lab").run 0 =
        .ok run after ∧
      ∃ start, Seeded countingWorkflow 0 start ∧
        PlanOrder countingWorkflow pingPlan
          (attemptLog countingWorkflow pingPlan (startCase "lab" start)) := by
  have hended : (executePlan countingWorkflow pingPlan (startCase "lab" 0)).status =
      .gateMissing := by
    decide +kernel
  have hreturns : ∀ e, (executePlan countingWorkflow pingPlan (startCase "lab" 0)).status ≠
      .raised e := by
    intro e he
    rw [hended] at he
    cases he
  obtain ⟨run, after, hrun⟩ := countingCase_returns hreturns
  obtain ⟨start, hseeded, -, -, horder, -⟩ := plan_executed hrun
  exact ⟨run, after, hrun, start, hseeded, horder⟩

end Examples

end ObservabilityLab.Reference
