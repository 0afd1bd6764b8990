import ObservabilityLab.Comparison.EvaluatorBounds
import ObservabilityLab.Simulation.RunBundle

/-!
# The error and cleanup protocol of a run

Every step of an environment and the turn of its agent may raise. A run destroys its environment
exactly once, after every other step; it raises the typed error of the first step that fails, and
never loses it to a failing cleanup.

## Main definitions

* `FailsRun`, `FailedAt`: the step that failed a run
* `CleanupProtocol`: the protocol, about the steps that a run called

## Main results

* `execute_triple`: what the steps before the evaluation do
* `destroying_protocol`: the cleanup after any body
* `runBundle_protocol`: the protocol of every run
-/

namespace ObservabilityLab

open Python Raising

/-! ## What the steps do -/

section Steps

variable {World : Type} {done : List (RunStep × Option PyError)}

theorem onRunWorld_triple {α : Type} (x : Action World α) :
    Triple (fun run : Running World => run.calls = done) (onRunWorld x)
      (fun _ run => run.calls = done) fun _ run => run.calls = done :=
  triple_zoom fun _ hrun => triple_of_runs (fun _ _ _ _ _ => hrun) fun _ _ _ _ _ => hrun

theorem recordStep_triple {step : RunStep} {raised : Option PyError}
    {E : PyError → Running World → Prop} :
    Triple (fun run : Running World => run.calls = done) (recordStep step raised)
      (fun _ run => run.calls = done ++ [(step, raised)]) E :=
  triple_modify fun _ hrun => congrArg (· ++ [(step, raised)]) hrun

/-- **A step is recorded with what it raises.** -/
theorem runStep_triple {α : Type} (step : RunStep) (x : Action World α) :
    Triple (fun run : Running World => run.calls = done) (runStep step x)
      (fun _ run => run.calls = done ++ [(step, none)])
      fun e run => run.calls = done ++ [(step, some e)] := by
  refine triple_bind (Q := fun _ run => run.calls = done) (triple_attempt (onRunWorld_triple x))
    fun result => ?_
  refine triple_bind recordStep_triple fun _ => ?_
  exact triple_ofExcept (fun a run hresult hrun => by rw [hrun, hresult]; rfl)
    fun e run hresult hrun => by rw [hrun, hresult]; rfl

end Steps

/-! ## The steps of an execution -/

section Execution

variable {World : Type}

/-- A step that failed its run; a turn that classifies its run does not fail it. -/
def FailsRun (call : RunStep × Option PyError) : Prop :=
  ∃ e, call.2 = some e ∧ (call.1 = .handle → abortVerdict e = none)

/-- A step before the cleanup that did not fail its run. -/
def Passed (call : RunStep × Option PyError) : Prop := call.1 ≠ .destroy ∧ ¬ FailsRun call

/-- The calls of an execution that its last step failed. -/
structure FailedAt (calls : List (RunStep × Option PyError)) (step : RunStep) (e : PyError) :
    Prop where
  last : ∃ done, calls = done ++ [(step, some e)] ∧ ∀ call ∈ done, Passed call
  ne_destroy : step ≠ .destroy
  fails : FailsRun (step, some e)

theorem passed_none (step : RunStep) (h : step ≠ .destroy) : Passed (step, none) := by
  refine ⟨h, ?_⟩
  rintro ⟨e, he, -⟩
  cases he

theorem forall_passed_concat {done : List (RunStep × Option PyError)}
    {call : RunStep × Option PyError} (hdone : ∀ call ∈ done, Passed call) (hcall : Passed call) :
    ∀ other ∈ done ++ [call], Passed other := by
  intro other hmem
  rcases List.mem_append.mp hmem with hmem | hmem
  · exact hdone other hmem
  · rw [List.mem_singleton.mp hmem]
    exact hcall

variable [ValidationTexts]

/-- The calls after an execution that raises. -/
def ExecutionFailed (raised : PyError) (run : Running World) : Prop :=
  ∃ step e, environmentError raised = stepError step e ∧ FailedAt run.calls step e

/-- A step of an execution passes, or fails the execution with its own error. -/
theorem executionStep_triple {α : Type} {done : List (RunStep × Option PyError)} (step : RunStep)
    (x : Action World α) (hdone : ∀ call ∈ done, Passed call)
    (hstep : step ≠ .destroy ∧ step ≠ .handle) :
    Triple (fun run : Running World => run.calls = done) (runStep step x)
      (fun _ run => run.calls = done ++ [(step, none)]) ExecutionFailed := by
  refine triple_mono (runStep_triple step x) (fun _ h => h) (fun _ _ h => h) fun e run hrun => ?_
  refine ⟨step, e, ?_, ⟨done, hrun, hdone⟩, hstep.1, e, rfl, fun h => absurd h hstep.2⟩
  cases step with
  | destroy => exact absurd rfl hstep.1
  | handle => exact absurd rfl hstep.2
  | create | seed | connect | agent | finalState | mutations => rfl

theorem isDomain_turnError (e : PyError) : (turnError e).isDomain = true := by
  unfold turnError
  split
  · assumption
  · rfl

theorem isDomain_environmentError (e : PyError) : (environmentError e).isDomain = true := by
  unfold environmentError
  split
  · assumption
  · rfl

theorem isDomain_stepError (step : RunStep) (e : PyError) :
    (stepError step e).isDomain = true := by
  cases step with
  | handle => exact isDomain_turnError e
  | destroy => rfl
  | create | seed | connect | agent | finalState | mutations => exact isDomain_environmentError e

/-- The classification of a turn passes, or fails the execution with the error of the turn. -/
theorem classify_triple {done : List (RunStep × Option PyError)}
    (result : Except PyError SupportResponse) (hdone : ∀ call ∈ done, Passed call) :
    Triple (fun run : Running World => run.calls = done ++ [(.handle, raisedBy result)])
      (MonadExcept.ofExcept (classify result))
      (fun _ run => run.calls = done ++ [(.handle, raisedBy result)] ∧
        Passed (.handle, raisedBy result))
      ExecutionFailed := by
  cases result with
  | ok response =>
    exact triple_pure fun run hrun => ⟨hrun, passed_none .handle RunStep.noConfusion⟩
  | error e =>
    cases hverdict : abortVerdict e with
    | some verdict =>
      simp only [classify, hverdict]
      refine triple_pure fun run hrun => ⟨hrun, RunStep.noConfusion, ?_⟩
      rintro ⟨e', he, hfails⟩
      cases he
      rw [hfails rfl] at hverdict
      cases hverdict
    | none =>
      simp only [classify, hverdict]
      refine triple_throw fun run hrun => ⟨.handle, e, ?_, ⟨done, hrun, hdone⟩,
        RunStep.noConfusion, e, rfl, fun _ => hverdict⟩
      exact if_pos (isDomain_turnError e)

/-- The steps of an execution that succeeds, with what its turn raised. -/
def executionCalls (raised : Option PyError) : List (RunStep × Option PyError) :=
  [(.create, none), (.seed, none), (.connect, none), (.agent, none), (.handle, raised),
    (.finalState, none), (.mutations, none)]

omit [ValidationTexts] in
/-- A turn is not a step that can raise: what it raised is its result. -/
theorem turnOn_triple {done : List (RunStep × Option PyError)}
    {turn : Action (Turn World) SupportResponse} {E : PyError → Running World → Prop} :
    Triple (fun run : Running World => run.calls = done) (onRunWorld (turnOn turn))
      (fun _ run => run.calls = done) E := fun _ hrun => hrun

/-- The environment is opened in three steps. -/
theorem openEnvironment_triple (prepared : Prepared World) :
    Triple (fun run : Running World => run.calls = []) (openEnvironment prepared)
      (fun _ run => run.calls = [(.create, none), (.seed, none), (.connect, none)])
      ExecutionFailed := by
  have hcreate := forall_passed_concat (List.forall_mem_nil _) (passed_none .create (by decide))
  have hseed := forall_passed_concat hcreate (passed_none .seed (by decide))
  refine triple_bind (executionStep_triple .create _ (List.forall_mem_nil _) (by decide))
    fun _ => ?_
  refine triple_bind (executionStep_triple .seed _ hcreate (by decide)) fun _ => ?_
  exact executionStep_triple .connect _ hseed (by decide)

/-- The capture classifies the turn, and then takes two steps. -/
theorem captureRun_triple (prepared : Prepared World) (result : Except PyError SupportResponse)
    (spans : List TraceSpan) {done : List (RunStep × Option PyError)}
    (hdone : ∀ call ∈ done, Passed call) :
    Triple (fun run : Running World => run.calls = done ++ [(.handle, raisedBy result)])
      (captureRun prepared result spans)
      (fun _ run => run.calls = done ++ [(.handle, raisedBy result)] ++ [(.finalState, none)] ++
        [(.mutations, none)] ∧ Passed (.handle, raisedBy result))
      ExecutionFailed := by
  refine triple_bind (classify_triple result hdone) fun classified => ?_
  refine triple_of_eq ?_
  rintro run ⟨hcalls, hhandle⟩
  have hanswered := forall_passed_concat hdone hhandle
  have hfinal := forall_passed_concat hanswered (passed_none .finalState (by decide))
  refine triple_bind (triple_mono (executionStep_triple .finalState _ hanswered (by decide))
    (by rintro _ rfl; exact hcalls) (fun _ _ h => h) fun _ _ h => h) fun finalState => ?_
  refine triple_bind (executionStep_triple .mutations _ hfinal (by decide)) fun mutations => ?_
  exact triple_pure fun run hrun => ⟨hrun, hhandle⟩

/-- **What an execution does**: it takes its steps in order, or fails at one of them with the error
of that step. -/
theorem execute_triple (prepared : Prepared World) (agents : AgentFactory World)
    (options : RunOptions) (bundle : SimulationBundle) :
    Triple (fun run : Running World => run.calls = []) (execute prepared agents options bundle)
      (fun _ run => ∃ raised, run.calls = executionCalls raised ∧ Passed (.handle, raised))
      ExecutionFailed := by
  have hopened : ∀ call ∈ [(RunStep.create, none), (.seed, none), (.connect, none)],
      Passed call := by
    simp only [List.forall_mem_cons]
    exact ⟨passed_none .create (by decide), passed_none .seed (by decide),
      passed_none .connect (by decide), List.forall_mem_nil _⟩
  have hagent := forall_passed_concat hopened (passed_none .agent (by decide))
  unfold execute
  refine triple_bind (openEnvironment_triple prepared) fun repository => ?_
  rw [bundle.scenario.request.new_eq_ok]
  refine triple_bind (triple_pure (Q := fun _ run => run.calls = _) fun _ hrun => hrun)
    fun request => ?_
  refine triple_bind (executionStep_triple .agent _ hopened (by decide)) fun handle => ?_
  refine triple_bind turnOn_triple fun answered => ?_
  refine triple_bind recordStep_triple fun _ => ?_
  exact triple_mono (captureRun_triple prepared answered.1 answered.2 hagent) (fun _ h => h)
    (fun _ _ h => ⟨raisedBy answered.1, h⟩) fun _ _ h => h

omit [ValidationTexts] in
theorem mem_executionCalls {raised : Option PyError} {call : RunStep × Option PyError}
    (h : call ∈ executionCalls raised) (hhandle : Passed (.handle, raised)) : Passed call := by
  simp only [executionCalls, List.mem_cons, List.not_mem_nil, or_false] at h
  rcases h with rfl | rfl | rfl | rfl | rfl | rfl | rfl
  · exact passed_none .create (by decide)
  · exact passed_none .seed (by decide)
  · exact passed_none .connect (by decide)
  · exact passed_none .agent (by decide)
  · exact hhandle
  · exact passed_none .finalState (by decide)
  · exact passed_none .mutations (by decide)

omit [ValidationTexts] in
/-- Every step but the turn and the cleanup succeeds in an execution that succeeds. -/
theorem none_mem_executionCalls (raised : Option PyError) {step : RunStep}
    (hhandle : step ≠ .handle) (hdestroy : step ≠ .destroy) :
    (step, none) ∈ executionCalls raised := by
  cases step with
  | handle => exact absurd rfl hhandle
  | destroy => exact absurd rfl hdestroy
  | create | seed | connect | agent | finalState | mutations => simp [executionCalls]

end Execution

/-! ## The cleanup protocol -/

section Protocol

variable {World : Type} [ValidationTexts]

/-- **The error and cleanup protocol** of a run, by the calls before its cleanup and by what the
cleanup raised: the cleanup is the last call, and the only one of its kind; a run that returns had
no failing step; a run that raises raises the typed error of the step that failed it, with a
failure of the cleanup attached, or the failure of the cleanup alone. -/
structure CleanupProtocol {α : Type} (result : EStateM.Result RunFailure (Running World) α)
    (earlier : List (RunStep × Option PyError)) (cleanup : Option PyError) : Prop where
  calls : (finalState result).calls = earlier ++ [(.destroy, cleanup)]
  once : ∀ call ∈ earlier, call.1 ≠ .destroy
  returned : ∀ a, outcome result = .ok a →
    ∀ step, step ≠ .handle → (step, none) ∈ (finalState result).calls
  raised : ∀ failure, outcome result = .error failure → failure.error.isDomain = true
  stepFailed : ∀ step e, (step, some e) ∈ earlier → FailsRun (step, some e) →
    outcome result = .error
      { error := stepError step e
        cleanupFailure := cleanup.map fun e => cleanupRunError e.str }
  cleanupFailed : (∀ call ∈ earlier, ¬ FailsRun call) → ∀ e, cleanup = some e →
    outcome result = .error { error := cleanupRunError e.str }

/-- The body of a run, after its environment was chosen. -/
def BodyTriple {α : Type} (body : Action (Running World) α) : Prop :=
  Triple (fun run => run.calls = []) body
    (fun _ run => ∃ raised, run.calls = executionCalls raised ∧ Passed (.handle, raised))
    fun raised run => ∃ step e, raised = stepError step e ∧ FailedAt run.calls step e

omit [ValidationTexts] in
/-- The cleanup is recorded with what it raises. -/
theorem exists_cleanup (destroy : Action World Unit) (run : Running World) :
    ∃ cleanup, outcome ((runStep .destroy destroy).run run) = cleanup.elim (.ok ()) .error ∧
      (finalState ((runStep .destroy destroy).run run)).calls =
        run.calls ++ [(.destroy, cleanup)] := by
  have hstep : Triple (fun before : Running World => before.calls = run.calls)
      (runStep .destroy destroy) (fun _ after => after.calls = run.calls ++ [(.destroy, none)])
      fun e after => after.calls = run.calls ++ [(.destroy, some e)] := runStep_triple _ _
  cases hcleanup : (runStep .destroy destroy).run run with
  | ok a after => exact ⟨none, rfl, hstep.ok rfl hcleanup⟩
  | error e after => exact ⟨some e, rfl, hstep.error rfl hcleanup⟩

/-- A body that succeeded: the cleanup may still fail. -/
theorem cleanupProtocol_of_ok {α : Type} {a : α} {after : Running World}
    {raised cleanup : Option PyError}
    (hcalls : after.calls = executionCalls raised ++ [(.destroy, cleanup)])
    (hhandle : Passed (.handle, raised)) :
    CleanupProtocol (match cleanup with
      | none => .ok a after
      | some e => .error { error := cleanupRunError e.str } after)
      (executionCalls raised) cleanup where
  calls := by cases cleanup <;> exact hcalls
  once call hmem := (mem_executionCalls hmem hhandle).1
  returned b hok step hstep := by
    cases cleanup with
    | none =>
      change (step, none) ∈ after.calls
      rw [hcalls]
      by_cases hdestroy : step = .destroy
      · rw [hdestroy]
        exact List.mem_append_right _ (List.mem_singleton_self _)
      · exact List.mem_append_left _ (none_mem_executionCalls raised hstep hdestroy)
    | some e => cases hok
  raised failure herror := by
    cases cleanup with
    | none => cases herror
    | some e =>
      cases herror
      rfl
  stepFailed step e hmem hfails := absurd hfails (mem_executionCalls hmem hhandle).2
  cleanupFailed _ e he := by rw [he]; rfl

/-- A body that raised: the cleanup cannot replace its error. -/
theorem cleanupProtocol_of_error {α : Type} {before after : Running World} {step : RunStep}
    {e : PyError} {cleanup : Option PyError} (hfailed : FailedAt before.calls step e)
    (hcalls : after.calls = before.calls ++ [(.destroy, cleanup)]) :
    CleanupProtocol (α := α) (.error
      { error := stepError step e
        cleanupFailure := cleanup.map fun e => cleanupRunError e.str } after)
      before.calls cleanup := by
  obtain ⟨⟨done, hbefore, hdone⟩, hne, hfails⟩ := hfailed
  rw [hbefore] at hcalls ⊢
  refine ⟨hcalls, fun call hmem => ?_, nofun, fun failure herror => ?_,
    fun step' e' hmem hfails' => ?_, fun hall => ?_⟩
  · rcases List.mem_append.mp hmem with hmem | hmem
    · exact (hdone call hmem).1
    · rw [List.mem_singleton.mp hmem]
      exact hne
  · cases herror
    exact isDomain_stepError step e
  · rcases List.mem_append.mp hmem with hmem | hmem
    · exact absurd hfails' (hdone _ hmem).2
    · cases List.mem_singleton.mp hmem
      rfl
  · exact absurd hfails (hall _ (List.mem_append_right _ (List.mem_singleton_self _)))

/-- **The cleanup follows the protocol** after every body. -/
theorem destroying_protocol {α : Type} {body : Action (Running World) α} (hbody : BodyTriple body)
    (destroy : Action World Unit) (run : Running World) (hrun : run.calls = []) :
    ∃ earlier cleanup, CleanupProtocol ((destroying destroy body).run run) earlier cleanup := by
  cases hresult : body.run run with
  | ok a before =>
    obtain ⟨raised, hbefore, hhandle⟩ := hbody.ok hrun hresult
    obtain ⟨cleanup, houtcome, hcalls⟩ := exists_cleanup destroy before
    rw [hbefore] at hcalls
    refine ⟨executionCalls raised, cleanup, ?_⟩
    have hprotocol := cleanupProtocol_of_ok (a := a) hcalls hhandle
    cases cleanup with
    | none => simpa [run_destroying, hresult, houtcome] using hprotocol
    | some e => simpa [run_destroying, hresult, houtcome] using hprotocol
  | error pending before =>
    obtain ⟨step, e, rfl, hfailed⟩ := hbody.error hrun hresult
    obtain ⟨cleanup, houtcome, hcalls⟩ := exists_cleanup destroy before
    refine ⟨before.calls, cleanup, ?_⟩
    have hprotocol := cleanupProtocol_of_error (α := α) hfailed hcalls
    cases cleanup with
    | none => simpa [run_destroying, hresult, houtcome] using hprotocol
    | some e => simpa [run_destroying, hresult, houtcome] using hprotocol

/-- What a run does with the result of its body does not change the protocol. -/
theorem CleanupProtocol.bind_pure {α β : Type} {x : EStateM RunFailure (Running World) α}
    {f : α → β} {run : Running World} {earlier : List (RunStep × Option PyError)}
    {cleanup : Option PyError} (h : CleanupProtocol (x.run run) earlier cleanup) :
    CleanupProtocol ((x >>= fun a => pure (f a)).run run) earlier cleanup := by
  rw [EStateM.run_bind]
  cases hx : x.run run with
  | ok a after =>
    rw [hx] at h
    refine ⟨h.calls, h.once, fun b _ => h.returned a rfl, nofun, fun step e hmem hfails => ?_,
      fun hall e he => ?_⟩
    · cases h.stepFailed step e hmem hfails
    · cases h.cleanupFailed hall e he
  | error failure after =>
    rw [hx] at h
    refine ⟨h.calls, h.once, nofun, fun failure' hfailure => ?_, fun step e hmem hfails => ?_,
      fun hall e he => ?_⟩
    · cases hfailure
      exact h.raised failure rfl
    · cases h.stepFailed step e hmem hfails
      rfl
    · cases h.cleanupFailed hall e he
      rfl

/-- A failure inside the environment is raised as the error of its step. -/
theorem typedErrors_triple {α : Type} {P : Running World → Prop} {Q : α → Running World → Prop}
    {x : Action (Running World) α} (h : Triple P x Q ExecutionFailed) :
    Triple P (typedErrors x) Q fun raised run =>
      ∃ step e, raised = stepError step e ∧ FailedAt run.calls step e := by
  refine triple_attempt_bind h (fun a => ?_) fun raw => ?_
  · exact triple_pure fun _ hrun => hrun
  · exact triple_throw fun _ hrun => hrun

variable [UnicodeTables] [FloatRepr] [HashFunctions]

omit [UnicodeTables] [FloatRepr] [ValidationTexts] [HashFunctions] in
/-- **When a report is made**: when every evaluator returns on the facts of the run. -/
theorem runEvaluators_returns {bundle : SimulationBundle} {evaluators : List Evaluator}
    {metrics : RunMetrics} : (∃ report, runEvaluators bundle metrics evaluators = .ok report) ↔
      ∀ evaluator ∈ evaluators, ∃ result, evaluator.check bundle metrics = .ok result := by
  rw [← exists_mapM_iff]
  constructor
  · rintro ⟨report, hreport⟩
    obtain ⟨results, hresults, -⟩ := bind_eq_ok.mp hreport
    exact ⟨results, hresults⟩
  · rintro ⟨results, hresults⟩
    exact ⟨⟨results⟩, bind_eq_ok.mpr ⟨results, hresults, rfl⟩⟩

omit [ValidationTexts] [HashFunctions] in
/-- Evaluators that return on the facts of a run make its report. -/
theorem exists_report {bundle : SimulationBundle} {evaluators : List Evaluator}
    {measured : RunMeasurements} {execution : Execution}
    (hevaluators : ∀ evaluator ∈ evaluators, ∃ result,
      evaluator.check bundle (metricsFor measured execution) = .ok result) :
    ∃ report, reportFor bundle evaluators measured execution = .ok report := by
  unfold reportFor
  split
  · exact runEvaluators_returns.mpr hevaluators
  · exact ⟨{}, rfl⟩

/-- **The error and cleanup protocol of a run.** For every behavior of the environment and of the
agent, with evaluators that return: from the creation of the environment on, every run follows the
protocol. -/
theorem runBundle_protocol {factory : EnvironmentRequest → Raises (Provisioner World)}
    {bundle : SimulationBundle} {prepared : Prepared World}
    (hprepared : prepareRun factory bundle = .ok prepared) {evaluators : List Evaluator}
    (hevaluators : ∀ evaluator ∈ evaluators, ∀ metrics, ∃ result,
      evaluator.check bundle metrics = .ok result)
    (agents : AgentFactory World) (measured : RunMeasurements) (options : RunOptions)
    (world : World) :
    ∃ earlier cleanup, CleanupProtocol
      ((runBundle factory agents evaluators measured options bundle).run { world := world })
      earlier cleanup := by
  have hbody : BodyTriple (do
      let execution ← typedErrors (execute prepared agents options bundle)
      let report ← MonadExcept.ofExcept (reportFor bundle evaluators measured execution)
      return (execution, report)) := by
    refine triple_bind (typedErrors_triple (execute_triple prepared agents options bundle))
      fun execution => ?_
    have hreturns : ∃ report, reportFor bundle evaluators measured execution = .ok report :=
      exists_report fun evaluator hmem => hevaluators evaluator hmem _
    obtain ⟨report, hreport⟩ := hreturns
    rw [hreport]
    exact fun _ hrun => hrun
  obtain ⟨earlier, cleanup, hprotocol⟩ :=
    destroying_protocol hbody prepared.provisioner.destroy { world := world } rfl
  refine ⟨earlier, cleanup, ?_⟩
  unfold runBundle
  rw [hprepared]
  exact hprotocol.bind_pure

end Protocol

/-! ### An environment that breaks -/

section Broken

attribute [local instance] asciiTables oneDecimalRepr constantHashes plainTexts

/-- An environment that cannot be seeded, and cannot be destroyed. -/
def brokenProvisioner : Provisioner Unit where
  coverage :=
    { dependency := ownedDatabase, kind := .stateful, tools := [], stateTransitions := [] }
  create := pure ()
  seed _ := throw (.other "OSError" "disk full")
  connect := throw (.other "OSError" "no connection")
  finalState := return {}
  mutations := return []
  destroy := throw (.other "OSError" "rollback failed")

/-- A run in the broken environment, with one evaluator. -/
def brokenRun : EStateM.Result RunFailure (Running Unit) SimulationRun :=
  (runBundle (fun _ => .ok brokenProvisioner) (fun _ _ => .error (.value "no agent"))
    [⟨"output_schema", checkOutputSchema⟩] ⟨.ofRat 1, 0, none⟩
    ⟨⟨"openai", "offline", none, none⟩, none, none⟩
    (smallBundle "phase2-01-refund" "refund" validMessage_refund).withIdentity).run { world := () }

theorem runBundle_protocol_broken :
    ∃ earlier cleanup, CleanupProtocol brokenRun earlier cleanup := by
  obtain ⟨prepared, hprepared⟩ : ∃ prepared, prepareRun (fun _ => .ok brokenProvisioner)
      (smallBundle "phase2-01-refund" "refund" validMessage_refund).withIdentity = .ok prepared :=
        ⟨_, rfl⟩
  refine runBundle_protocol hprepared (fun evaluator hmem metrics => ?_) _ _ _ _
  rw [List.mem_singleton.mp hmem]
  have hreturns : Returns (checkOutputSchema
      (smallBundle "phase2-01-refund" "refund" validMessage_refund).withIdentity metrics)
      "output_schema" := checkOutputSchema_returns
  exact hreturns.imp fun _ h => h.1

/-- The error of the seed is raised, with the failure of the cleanup attached. -/
example : brokenRun = .error
    { error := environmentRunError "disk full"
      cleanupFailure := some (cleanupRunError "rollback failed") }
    { world := ()
      calls := [(.create, none), (.seed, some (.other "OSError" "disk full")),
        (.destroy, some (.other "OSError" "rollback failed"))] } := by
  rfl

end Broken

end ObservabilityLab
