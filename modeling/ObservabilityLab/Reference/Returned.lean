import ObservabilityLab.Reference.Runner

/-!
# Cases that yield a run

Only a timeout is caught where a tool is called. Every other exception of a call ends the case
without a run, and a plan that stops early can leave a state that is accepted.

## Main definitions

* `YieldsRun`: the case returns a run, which failed unless the plan was carried out
* `SafeCall`: a call that returns or times out
* `FailsOtherwise`: the run fails by its cleanup, its transitions or its outcome

## Main results

* `never_raised_iff`: the loop ends without an exception exactly when the calls it reaches are safe
* `yieldsRun_iff`: when a case yields a run
-/

namespace ObservabilityLab.Reference

open Python

section Cases

variable [UnicodeTables] [FloatRepr] {σ : Type} (workflow : ReferenceWorkflow σ)
  (plan : ReferencePlan)

/-! ## The calls of a case -/

/-- The loop comes to a planned call in a state. -/
def Reaches (environmentId : String) (start : σ) (state : CaseState σ) (call : ReferenceToolCall) :
    Prop :=
  ∃ turns, state = (CaseState.turn workflow plan)^[turns] (startCase environmentId start) ∧
    state.status = .running ∧ plan.toolCalls[state.index]? = some call

/-- A call that returns or times out: its references are resolved, and the fault that it meets and
the tool raise timeouts only. -/
structure SafeCall (state : CaseState σ) (call : ReferenceToolCall) (tool : ReferenceTool σ) :
    Prop where
  resolved : ∃ arguments, resolveArguments call state.results = .ok arguments
  fault : ∀ arguments, resolveArguments call state.results = .ok arguments →
    ∀ e, (applyFaults workflow.faultScript state.consumed tool.name arguments).error = some e →
      isTimeout e = true
  tool : ∀ arguments, resolveArguments call state.results = .ok arguments →
    (applyFaults workflow.faultScript state.consumed tool.name arguments).error = none →
      ∀ e after, (tool.run arguments).run state.repository = .error e after → isTimeout e = true

/-- Every call that the loop tries is safe. -/
def CallsSafe (environmentId : String) (start : σ) : Prop :=
  ∀ state call tool, Reaches workflow plan environmentId start state call →
    workflow.toolByName call.tool = some tool → ¬ CaseState.Gated workflow plan tool →
      SafeCall workflow state call tool

/-- Every planned call returned. -/
def CarriedOut (environmentId : String) (start : σ) : Prop :=
  (executePlan workflow plan (startCase environmentId start)).status = .finished

variable {workflow plan} {state : CaseState σ} {call : ReferenceToolCall} {tool : ReferenceTool σ}
  {environmentId : String} {start : σ}

/-- The selection of a tool changes nothing that its call depends on. -/
theorem safeCall_selectTool : SafeCall workflow (state.selectTool tool) call tool ↔
    SafeCall workflow state call tool :=
  ⟨fun h => ⟨h.resolved, h.fault, h.tool⟩, fun h => ⟨h.resolved, h.fault, h.tool⟩⟩

/-- What the safety of a call says of its result. -/
theorem safeCall_iff : SafeCall workflow state call tool ↔
    ∀ e, (state.callTool workflow call tool).1 = .error e → isTimeout e = true := by
  unfold CaseState.callTool
  constructor
  · intro hsafe e he
    obtain ⟨arguments, hresolved⟩ := hsafe.resolved
    rw [hresolved] at he
    dsimp only at he
    -- a fault of the script is raised before the tool runs
    cases hfault : (applyFaults workflow.faultScript state.consumed tool.name arguments).error with
    | some error =>
      rw [hfault] at he
      rw [← Except.error.inj he]
      exact hsafe.fault arguments hresolved error hfault
    | none =>
      rw [hfault] at he
      dsimp only at he
      cases hrun : (tool.run arguments).run state.repository with
      | ok result after =>
        rw [hrun] at he
        cases he
      | error error after =>
        rw [hrun] at he
        rw [← Except.error.inj he]
        exact hsafe.tool arguments hresolved hfault error after hrun
  · intro h
    cases hresolve : resolveArguments call state.results with
    | error e =>
      rw [hresolve] at h
      have htimeout := h e rfl
      obtain ⟨message, rfl⟩ := resolveArguments_eq_error hresolve
      cases htimeout
    | ok arguments =>
      rw [hresolve] at h
      dsimp only at h
      constructor
      · exact ⟨arguments, hresolve⟩
      · intro other hother e he
        rw [hresolve] at hother
        obtain rfl := Except.ok.inj hother
        rw [he] at h
        exact h e rfl
      · intro other hother hfault e after hrun
        rw [hresolve] at hother
        obtain rfl := Except.ok.inj hother
        rw [hfault] at h
        dsimp only at h
        rw [hrun] at h
        exact h e rfl

/-! ## The loop -/

/-- A loop that stopped stands still. -/
theorem iterate_stands (h : state.status ≠ .running) (turns : ℕ) :
    (CaseState.turn workflow plan)^[turns] state = state := by
  have hfixed : state.turn workflow plan = state := by
    rw [CaseState.turn, if_pos h]
  exact Function.iterate_fixed hfixed turns

/-- A loop stops as it did in any number of its turns. -/
theorem executePlan_of_stopped {turns : ℕ}
    (h : ((CaseState.turn workflow plan)^[turns] (startCase environmentId start)).status ≠
      .running) :
    executePlan workflow plan (startCase environmentId start) =
      (CaseState.turn workflow plan)^[turns] (startCase environmentId start) := by
  have hstops := executePlan_stops workflow plan start environmentId
  unfold executePlan at *
  rcases Nat.le_total (3 * plan.toolCalls.length + 1) turns with hle | hle
  · obtain ⟨more, rfl⟩ := Nat.exists_eq_add_of_le' hle
    rw [Function.iterate_add_apply _ more, iterate_stands hstops]
  · obtain ⟨more, heq⟩ := Nat.exists_eq_add_of_le' hle
    rw [heq, Function.iterate_add_apply _ more, iterate_stands h]

/-- **The loop ends by what one of its turns does**, at a call that it comes to. -/
theorem stops_iff {status : LoopStatus} {P : CaseState σ → ReferenceToolCall → Prop}
    (hstatus : status ≠ .running)
    (hturn : ∀ state : CaseState σ, state.status = .running →
      ((state.turn workflow plan).status = status ↔
        ∃ call, plan.toolCalls[state.index]? = some call ∧ P state call)) :
    (executePlan workflow plan (startCase environmentId start)).status = status ↔
      ∃ state call, Reaches workflow plan environmentId start state call ∧ P state call := by
  constructor
  · intro hended
    have hinvariant := Iterations.iterate_preserves (f := CaseState.turn workflow plan)
      (a := startCase environmentId start) (I := fun n (state : CaseState σ) =>
        state = (CaseState.turn workflow plan)^[n] (startCase environmentId start) ∧
          (state.status = status →
            ∃ state call, Reaches workflow plan environmentId start state call ∧ P state call))
      ?_ ⟨rfl, fun h => absurd h.symm hstatus⟩ (3 * plan.toolCalls.length + 1)
    · exact hinvariant.2 hended
    · rintro n state ⟨hstate, hkept⟩
      refine ⟨by rw [Function.iterate_succ_apply', ← hstate], ?_⟩
      intro hafter
      by_cases hrunning : state.status = .running
      · obtain ⟨call, hcall, hP⟩ := (hturn state hrunning).mp hafter
        exact ⟨state, call, ⟨n, hstate, hrunning, hcall⟩, hP⟩
      · rw [CaseState.turn, if_pos hrunning] at hafter
        exact hkept hafter
  · rintro ⟨state, call, ⟨turns, hstate, hrunning, hcall⟩, hP⟩
    have hafter : ((CaseState.turn workflow plan)^[turns + 1]
        (startCase environmentId start)).status = status := by
      rw [Function.iterate_succ_apply', ← hstate]
      exact (hturn state hrunning).mpr ⟨call, hcall, hP⟩
    rw [executePlan_of_stopped (hafter.trans_ne hstatus), hafter]

/-- A turn raises what its call raises. -/
theorem turn_raised_iff {e : PyError} (state : CaseState σ) (hrunning : state.status = .running) :
    (state.turn workflow plan).status = .raised e ↔
      ∃ call, plan.toolCalls[state.index]? = some call ∧ ∃ tool,
        workflow.toolByName call.tool = some tool ∧ ¬ CaseState.Gated workflow plan tool ∧
        ((state.selectTool tool).callTool workflow call tool).1 = .error e ∧
        isTimeout e = false := by
  constructor
  · intro hraised
    have hturn := state.turn_cases workflow plan
    generalize state.turn workflow plan = after at hturn hraised
    cases hturn with
    | stands hstatus => exact absurd hrunning hstatus
    | finishes hstatus hcall => cases hraised
    | refusesTool call hstatus hcall htool => cases hraised
    | refusesGate call tool hstatus hcall htool hgated => cases hraised
    | returns call tool result called hstatus hcall htool hgated hcalled =>
      obtain ⟨repository, consumed, events, rfl⟩ := CaseState.called_frame hcalled
      cases hrunning.symm.trans hraised
    | timesOut call tool error called hstatus hcall htool hgated hcalled htimeout =>
      obtain ⟨repository, consumed, events, rfl⟩ := CaseState.called_frame hcalled
      unfold CaseState.timeOut at hraised
      dsimp only at hraised
      split_ifs at hraised
      cases hrunning.symm.trans hraised
    | raises call tool error called hstatus hcall htool hgated hcalled htimeout =>
      obtain rfl := LoopStatus.raised.inj hraised
      exact ⟨call, hcall, tool, htool, hgated, congrArg Prod.fst hcalled, htimeout⟩
  · rintro ⟨call, hcall, tool, htool, hgated, he, htimeout⟩
    rcases hcalled : (state.selectTool tool).callTool workflow call tool with ⟨result, called⟩
    rw [hcalled] at he
    obtain rfl : result = .error e := he
    rw [CaseState.turn, if_neg (not_not.mpr hrunning), hcall]
    dsimp only
    rw [htool]
    dsimp only
    rw [if_neg hgated, hcalled, CaseState.settle, htimeout]
    rfl

/-- **The loop ends without an exception exactly when the calls that it tries are safe.** -/
theorem never_raised_iff :
    (∀ e, (executePlan workflow plan (startCase environmentId start)).status ≠ .raised e) ↔
      CallsSafe workflow plan environmentId start := by
  have hraised (e : PyError) :
      (executePlan workflow plan (startCase environmentId start)).status = .raised e ↔ _ :=
    stops_iff LoopStatus.noConfusion turn_raised_iff
  constructor
  · intro hended state call tool hreaches htool hgated
    rw [← safeCall_selectTool, safeCall_iff]
    intro e he
    by_contra htimeout
    exact hended e ((hraised e).mpr ⟨state, call, hreaches, tool, htool, hgated, he,
      Bool.eq_false_of_not_eq_true htimeout⟩)
  · intro hsafe e hended
    obtain ⟨state, call, hreaches, tool, htool, hgated, he, htimeout⟩ := (hraised e).mp hended
    have hcall := safeCall_selectTool.mpr (hsafe state call tool hreaches htool hgated)
    rw [safeCall_iff.mp hcall e he] at htimeout
    cases htimeout

/-! ## The verdict -/

variable [HashFunctions] [ValidationTexts]

/-- The run fails by its cleanup, its transitions, or its outcome. -/
def FailsOtherwise (workflow : ReferenceWorkflow σ) (finalState : PyValue)
    (mutations : List Record) (left : σ) : Prop :=
  (∃ e, Raising.outcome (workflow.repository.destroy.run left) = .error e) ∨
    checkTransitions (mutations.filterMap mutationTransition) workflow.expectation ≠ [] ∨
    (observe workflow finalState mutations).1.outcome ≠ workflow.expectation.outcome

theorem verdict_failed_iff {side : ReferenceSide} {label : ReferenceLabel} {finalState : PyValue}
    {mutations : List Record} {left : σ} :
    (reportCase workflow plan side label state finalState mutations
        (Raising.outcome (workflow.repository.destroy.run left))).verdict = .failed ↔
      FailsOtherwise workflow finalState mutations left := by
  unfold reportCase FailsOtherwise judgeCase
  dsimp only
  cases hcleanup : Raising.outcome (workflow.repository.destroy.run left) with
  | error e => simp
  | ok cleaned =>
    by_cases htransitions :
        checkTransitions (mutations.filterMap mutationTransition) workflow.expectation = []
    · by_cases houtcome :
          (observe workflow finalState mutations).1.outcome = workflow.expectation.outcome
      · simp only [htransitions, houtcome]
        simp
        split_ifs <;> simp
      · simp [htransitions, houtcome]
    · simp [htransitions]

/-! ## When a case yields a run -/

variable (workflow plan) in
/-- **The case yields a run**: it returns, with the verdict failed unless the plan was carried out,
and the last thing it does to the repository is to destroy it. -/
def YieldsRun (side : ReferenceSide) (label : ReferenceLabel) (environmentId : String)
    (before : σ) : Prop :=
  ∃ run after, (runReferenceCase workflow plan side label environmentId).run before =
      .ok run after ∧
    (∀ start, Seeded workflow before start → ¬ CarriedOut workflow plan environmentId start →
      run.verdict = .failed) ∧
    ∃ left, after = Raising.finalState (workflow.repository.destroy.run left)

variable (workflow plan) in
/-- The environment can be seeded and read, the calls are safe, and a plan that is not carried out
fails by what it leaves behind. -/
def YieldsWhen (environmentId : String) (before : σ) : Prop :=
  ∃ start, Seeded workflow before start ∧ CallsSafe workflow plan environmentId start ∧
    ∃ finalState read mutations left, workflow.repository.snapshot.run
        (executePlan workflow plan (startCase environmentId start)).repository =
          .ok finalState read ∧
      workflow.repository.mutations.run read = .ok mutations left ∧
      (¬ CarriedOut workflow plan environmentId start →
        FailsOtherwise workflow finalState mutations left)

omit [UnicodeTables] [FloatRepr] [HashFunctions] [ValidationTexts] in
theorem Seeded.unique {before start' : σ} (h : Seeded workflow before start)
    (h' : Seeded workflow before start') : start = start' := by
  obtain ⟨seeded, hseed, hreset⟩ := h
  obtain ⟨seeded', hseed', hreset'⟩ := h'
  rw [hseed] at hseed'
  obtain ⟨-, rfl⟩ := EStateM.Result.ok.inj hseed'
  rw [hreset] at hreset'
  exact (EStateM.Result.ok.inj hreset').2

end Cases

section Examples

attribute [local instance] asciiTables oneDecimalRepr constantHashes plainTexts

/-- A plan whose first call refers to the result of a tool that was not called. -/
def danglingPlan : ReferencePlan where
  toolCalls := [⟨"echo", [("count", .str "$ping.pong")]⟩]

end Examples

end ObservabilityLab.Reference
