import ObservabilityLab.Execution.Service

/-!
# The handles of executions

Whatever the tasks and the clients do, in any interleaving, the handle of an execution says what its
own task came to: it leaves the status of a running execution at most once, and stays as it is from
then on.

## Main definitions

* `starts`, `outcomes`: the executions that an interleaving starts, and how the task of one ends
* `ExecutionHandle.tracked`: the handle of an execution whose task came to some outcomes
* `ExecutionsTracked`: what holds of the handles after an interleaving

## Main results

* `tracked_step`: every step keeps the handles tracked
* `executionsTracked_run`: the handles say what the tasks came to
-/

namespace ObservabilityLab

open Python GuardedRuns

namespace ExecutionService

variable {Run Comparison : Type}

/-- The executions that an interleaving starts. -/
def starts (actions : List (ExecutionAction Run Comparison)) : List (Uuid × ExecutionKind) :=
  actions.filterMap (·.starts?)

/-- `uuid4()` draws no identifier twice. -/
def Fresh (actions : List (ExecutionAction Run Comparison)) : Prop :=
  ((starts actions).map Prod.fst).Nodup

/-- How the task of an execution ends in an interleaving. -/
def outcomes (id : Uuid) (actions : List (ExecutionAction Run Comparison)) :
    List (TaskOutcome Run Comparison) :=
  actions.filterMap (·.settles? id)

theorem starts_concat (actions : List (ExecutionAction Run Comparison))
    (action : ExecutionAction Run Comparison) :
    starts (actions ++ [action]) = starts actions ++ action.starts?.toList := by
  rw [starts, List.filterMap_append]
  cases hstarts : action.starts? with
  | none => rw [List.filterMap_cons_none hstarts]; rfl
  | some start => rw [List.filterMap_cons_some hstarts]; rfl

theorem outcomes_concat (id : Uuid) (actions : List (ExecutionAction Run Comparison))
    (action : ExecutionAction Run Comparison) :
    outcomes id (actions ++ [action]) = outcomes id actions ++ (action.settles? id).toList := by
  rw [outcomes, List.filterMap_append]
  cases hsettles : action.settles? id with
  | none => rw [List.filterMap_cons_none hsettles]; rfl
  | some outcome => rw [List.filterMap_cons_some hsettles]; rfl

theorem Fresh.of_append {earlier later : List (ExecutionAction Run Comparison)}
    (h : Fresh (earlier ++ later)) : Fresh earlier := by
  rw [Fresh, starts, List.filterMap_append, List.map_append] at h
  exact h.of_append_left

/-- A new identifier was not drawn before. -/
theorem Fresh.not_mem {actions : List (ExecutionAction Run Comparison)}
    {action : ExecutionAction Run Comparison} {id : Uuid} {kind other : ExecutionKind}
    (h : Fresh (actions ++ [action])) (hstarts : action.starts? = some (id, kind)) :
    (id, other) ∉ starts actions := by
  intro hmem
  rw [Fresh, starts_concat, hstarts, List.map_append] at h
  exact (List.nodup_append.mp h).2.2 id (List.mem_map.mpr ⟨_, hmem, rfl⟩) id
    (List.mem_singleton.mpr rfl) rfl

end ExecutionService

open ExecutionService

namespace ExecutionHandle

variable {Run Comparison : Type}

def withCollector (handle : ExecutionHandle Run Comparison)
    (collector : Option SimulationEventCollector) : ExecutionHandle Run Comparison :=
  { handle with collector := collector }

/-- **The handle of an execution** whose task came to some outcomes: it is new, or settled by the
first outcome. -/
def tracked [ValidationTexts] (id : Uuid) (kind : ExecutionKind)
    (collector : Option SimulationEventCollector) :
    List (TaskOutcome Run Comparison) → ExecutionHandle Run Comparison
  | [] => .started id kind collector
  | outcome :: _ => (ExecutionHandle.started id kind collector).settled outcome

section Tracked

variable [ValidationTexts] {id : Uuid} {kind : ExecutionKind}
  {collector after : Option SimulationEventCollector}

@[simp] theorem collector_settled (handle : ExecutionHandle Run Comparison)
    (outcome : TaskOutcome Run Comparison) :
    (handle.settled outcome).collector = handle.collector := by
  cases outcome with
  | ranCase result => cases result <;> rfl
  | compared result => cases result <;> rfl
  | cancelled => rfl

@[simp] theorem taskDone_settled (handle : ExecutionHandle Run Comparison)
    (outcome : TaskOutcome Run Comparison) : (handle.settled outcome).taskDone = true := by
  cases outcome with
  | ranCase result => cases result <;> rfl
  | compared result => cases result <;> rfl
  | cancelled => rfl

/-- A settled handle depends on its collector by the transcript only. -/
theorem settled_withCollector (handle : ExecutionHandle Run Comparison)
    (outcome : TaskOutcome Run Comparison)
    (htranscript : transcriptOf after = transcriptOf handle.collector) :
    (handle.settled outcome).withCollector after =
      (handle.withCollector after).settled outcome := by
  cases outcome with
  | ranCase result =>
    cases result with
    | ok run =>
      rw [settled, settled, ← htranscript]
      rfl
    | error e => rfl
  | compared result => cases result <;> rfl
  | cancelled => rfl

theorem collector_tracked (outs : List (TaskOutcome Run Comparison)) :
    (tracked id kind collector outs).collector = collector := by
  cases outs with
  | nil => rfl
  | cons outcome outs => exact collector_settled _ outcome

/-- The task of an execution is done exactly when it came to an outcome. -/
theorem taskDone_tracked (outs : List (TaskOutcome Run Comparison)) :
    (tracked id kind collector outs).taskDone = !outs.isEmpty := by
  cases outs with
  | nil => rfl
  | cons outcome outs => exact taskDone_settled _ outcome

end Tracked

end ExecutionHandle

/-! ## The handles of an interleaving -/

/-- **The handles after an interleaving.** -/
structure ExecutionsTracked {Run Comparison : Type} [ValidationTexts]
    (actions : List (ExecutionAction Run Comparison))
    (service : ExecutionService Run Comparison) : Prop where
  /-- There is a handle for every execution that was started, and for no other one. -/
  known : ∀ id, (service.handles id).isSome = true ↔ ∃ kind, (id, kind) ∈ starts actions
  /-- It is what the own task of the execution came to. -/
  handles : ∀ id kind, (id, kind) ∈ starts actions → ∃ collector,
    (collector.isSome = true ↔ kind = .run) ∧
      service.handles id = some (.tracked id kind collector (outcomes id actions))
  /-- A task ends at most once. -/
  once : ∀ id, (outcomes id actions).length ≤ 1
  /-- Later steps leave a settled handle and its transcript as they are. -/
  settled : ∀ later last id handle, service.run later = some last → Fresh (actions ++ later) →
    service.handles id = some handle → handle.taskDone = true →
      ∃ collector, last.handles id = some (handle.withCollector collector) ∧
        transcriptOf collector = transcriptOf handle.collector

namespace ExecutionService

variable {Run Comparison : Type} {service after last : ExecutionService Run Comparison} {id : Uuid}
  {actions later : List (ExecutionAction Run Comparison)} {action : ExecutionAction Run Comparison}

theorem starts?_of_settles {outcome : TaskOutcome Run Comparison}
    (h : action.settles? id = some outcome) : action.starts? = none := by
  cases action with
  | settle => rfl
  | _ => cases h

theorem starts?_of_streamAction {act : StreamAction}
    (h : service.streamAction id action = some act) : action.starts? = none := by
  cases action with
  | startRun => cases h
  | startComparison => cases h
  | _ => rfl

theorem settles?_of_streamAction {act : StreamAction}
    (h : service.streamAction id action = some act) (other : Uuid) :
    action.settles? other = none := by
  cases action with
  | settle => cases h
  | _ => rfl

theorem settles?_of_starts {start : Uuid × ExecutionKind} (h : action.starts? = some start)
    (other : Uuid) : action.settles? other = none := by
  cases action with
  | settle => cases h
  | _ => rfl

theorem outcomes_concat_of_none (actions : List (ExecutionAction Run Comparison))
    (h : action.settles? id = none) :
    outcomes id (actions ++ [action]) = outcomes id actions := by
  rw [outcomes_concat, h]
  exact List.append_nil _

theorem starts_concat_of_none (h : action.starts? = none) :
    starts (actions ++ [action]) = starts actions := by
  rw [starts_concat, h]
  exact List.append_nil _

/-- No later action starts an execution again. -/
theorem Fresh.not_starts {kind : ExecutionKind} (h : Fresh (actions ++ later))
    (hstarts : (id, kind) ∈ starts actions) :
    ∀ action ∈ later, ∀ other, action.starts? ≠ some (id, other) := by
  intro action hmem other hother
  rw [Fresh, starts, List.filterMap_append, List.map_append] at h
  refine (List.nodup_append.mp h).2.2 id (List.mem_map.mpr ⟨_, hstarts, rfl⟩) id ?_ rfl
  exact List.mem_map.mpr ⟨_, List.mem_filterMap.mpr ⟨action, hmem, hother⟩, rfl⟩

/-- Each identifier is drawn for one kind of execution. -/
theorem Fresh.kind_eq {kind other : ExecutionKind} (h : Fresh actions)
    (hkind : (id, kind) ∈ starts actions) (hother : (id, other) ∈ starts actions) :
    kind = other :=
  congrArg Prod.snd (List.inj_on_of_nodup_map h hkind hother rfl)

variable [ValidationTexts]

/-- The handle of one execution is tracked: there is none, or it is what the task came to. -/
inductive Tracked (actions : List (ExecutionAction Run Comparison)) (id : Uuid) :
    Option (ExecutionHandle Run Comparison) → Prop
  | unknown (hstarts : ∀ kind, (id, kind) ∉ starts actions) (houtcomes : outcomes id actions = []) :
    Tracked actions id none
  | known (kind : ExecutionKind) (collector : Option SimulationEventCollector)
      (outs : List (TaskOutcome Run Comparison)) (hstarts : (id, kind) ∈ starts actions)
      (houtcomes : outcomes id actions = outs) (hkind : collector.isSome = true ↔ kind = .run)
      (honce : outs.length ≤ 1) : Tracked actions id (some (.tracked id kind collector outs))

/-- A step of a collector keeps a tracked handle tracked, where it keeps the transcript of a task
that is done. -/
theorem tracked_withCollector {kind : ExecutionKind}
    {collector after : Option SimulationEventCollector} {outs : List (TaskOutcome Run Comparison)}
    (htranscript : outs ≠ [] → transcriptOf after = transcriptOf collector) :
    (ExecutionHandle.tracked id kind collector outs).withCollector after =
      .tracked id kind after outs := by
  cases outs with
  | nil => rfl
  | cons outcome outs =>
    exact ExecutionHandle.settled_withCollector _ outcome (htranscript (List.cons_ne_nil _ _))

/-- **Every step keeps the handle of an execution tracked.** -/
theorem tracked_step (hfresh : Fresh (actions ++ [action]))
    (h : Tracked actions id (service.handles id)) (hstep : service.step action = some after) :
    Tracked (actions ++ [action]) id (after.handles id) := by
  have hmove := handleStep_of_step hstep id
  generalize service.handles id = before at h hmove
  generalize after.handles id = next at hmove ⊢
  -- a handle is started once, settled once, and its stream ends with its task
  cases hmove with
  | starts kind before hstarts =>
    have houtcomes := outcomes_concat_of_none actions (settles?_of_starts hstarts id)
    have hknown : (id, kind) ∈ starts (actions ++ [action]) := by
      rw [starts_concat, hstarts]
      exact List.mem_append_right _ (List.mem_singleton.mpr rfl)
    have hkind : kind.collector?.isSome = true ↔ kind = .run := by cases kind <;> decide
    cases h with
    | unknown _ hnone =>
      exact .known kind kind.collector? [] hknown (houtcomes.trans hnone) hkind (Nat.zero_le 1)
    | known kind' _ _ hstarted => exact absurd hstarted (hfresh.not_mem hstarts)
  | settles outcome handle hsettles hpending =>
    cases h with
    | known kind collector outs hknown hsome hkind honce =>
      rw [ExecutionHandle.taskDone_tracked, Bool.not_eq_false', List.isEmpty_iff] at hpending
      subst hpending
      refine .known kind collector [outcome] ?_ ?_ hkind le_rfl
      · rw [starts_concat_of_none (starts?_of_settles hsettles)]
        exact hknown
      · rw [outcomes_concat, hsettles, hsome]
        rfl
  | streams act handle collector after hstream hcollector hstep hemit =>
    cases h with
    | known kind before outs hknown hsome hkind honce =>
      rw [ExecutionHandle.collector_tracked] at hcollector
      subst hcollector
      -- a settled task emits nothing, so its transcript stays as the outcome left it
      have htranscript : outs ≠ [] → transcriptOf (some after) = transcriptOf (some collector) := by
        intro hdone
        refine (SimulationEventCollector.events_step_of_not_emit hstep ?_).1
        rw [ExecutionHandle.taskDone_tracked, Bool.not_eq_false', List.isEmpty_iff] at hemit
        exact Bool.eq_false_of_not_eq_true fun hact => hdone (hemit hact)
      change Tracked _ id
        (some ((ExecutionHandle.tracked id kind (some collector) outs).withCollector (some after)))
      rw [tracked_withCollector htranscript]
      refine .known kind (some after) outs ?_ ?_ hkind honce
      · rw [starts_concat_of_none (starts?_of_streamAction hstream)]
        exact hknown
      · rw [outcomes_concat_of_none actions (settles?_of_streamAction hstream id)]
        exact hsome
  | stays before hstarts hsettles hstream =>
    have houtcomes := outcomes_concat_of_none actions hsettles
    have hmem (kind : ExecutionKind) :
        (id, kind) ∈ starts (actions ++ [action]) ↔ (id, kind) ∈ starts actions := by
      rw [starts_concat, List.mem_append, Option.mem_toList]
      exact or_iff_left (hstarts kind)
    cases h with
    | unknown hunknown hnone =>
      exact .unknown (fun kind hknown => hunknown kind ((hmem kind).mp hknown))
        (houtcomes.trans hnone)
    | known kind collector outs hknown hsome hkind honce =>
      exact .known kind collector outs ((hmem kind).mpr hknown) (houtcomes.trans hsome) hkind honce

/-- **The handles of an interleaving are tracked.** -/
theorem tracked_run (id : Uuid) (hfresh : Fresh actions)
    (hrun : ExecutionService.run {} actions = some service) :
    Tracked actions id (service.handles id) := by
  induction actions using List.reverseRecOn generalizing service with
  | nil =>
    rw [← Option.some.inj hrun]
    exact .unknown (fun _ => List.not_mem_nil) rfl
  | append_singleton actions action ih =>
    obtain ⟨before, hbefore, hstep⟩ := run_concat.mp hrun
    exact tracked_step hfresh (ih hfresh.of_append hbefore) hstep

/-- A step leaves a settled handle as it is, up to the streams of its collector. -/
theorem settled_step {handle : ExecutionHandle Run Comparison}
    (hstarts : ∀ kind, action.starts? ≠ some (id, kind)) (hdone : handle.taskDone = true)
    (hhandle : service.handles id = some handle) (hstep : service.step action = some after) :
    ∃ collector, after.handles id = some (handle.withCollector collector) ∧
      transcriptOf collector = transcriptOf handle.collector := by
  have hmove := handleStep_of_step hstep id
  rw [hhandle] at hmove
  generalize after.handles id = next at hmove ⊢
  cases hmove with
  | starts kind _ hstarted => exact absurd hstarted (hstarts kind)
  | settles _ _ _ hpending =>
    rw [hdone] at hpending
    cases hpending
  | streams act _ collector after _ hcollector hstep hemit =>
    refine ⟨some after, rfl, ?_⟩
    rw [hcollector]
    refine (SimulationEventCollector.events_step_of_not_emit hstep ?_).1
    refine Bool.eq_false_of_not_eq_true fun hact => ?_
    rw [hdone] at hemit
    cases hemit hact
  | stays => exact ⟨handle.collector, rfl, rfl⟩

/-- Later steps leave a settled handle as it is, up to the streams of its collector. -/
theorem settled_run {handle : ExecutionHandle Run Comparison}
    (hstarts : ∀ action ∈ later, ∀ kind, action.starts? ≠ some (id, kind))
    (hdone : handle.taskDone = true) (hhandle : service.handles id = some handle)
    (hrun : service.run later = some last) :
    ∃ collector, last.handles id = some (handle.withCollector collector) ∧
      transcriptOf collector = transcriptOf handle.collector := by
  refine invariant_run (fun s => ∃ collector, s.handles id = some (handle.withCollector collector) ∧
    transcriptOf collector = transcriptOf handle.collector) ?_ ⟨handle.collector, hhandle, rfl⟩ hrun
  rintro s action s' hmem hstep ⟨collector, hcurrent, htranscript⟩
  have hdone' : (handle.withCollector collector).taskDone = true := hdone
  obtain ⟨after, hafter, hsame⟩ := settled_step (hstarts action hmem) hdone' hcurrent hstep
  exact ⟨after, hafter, hsame.trans htranscript⟩

end ExecutionService

/-- **The handle of an execution says what its own task came to**, in every interleaving of tasks
and clients: it leaves the status of a running execution at most once, with the result or the error
of its task, and stays as it is from then on. -/
theorem executionsTracked_run {Run Comparison : Type} [ValidationTexts]
    {actions : List (ExecutionAction Run Comparison)} {service : ExecutionService Run Comparison}
    (hfresh : Fresh actions) (hrun : ExecutionService.run {} actions = some service) :
    ExecutionsTracked actions service where
  known id := by
    have htracked := tracked_run id hfresh hrun
    generalize service.handles id = current at htracked ⊢
    cases htracked with
    | unknown hstarts => exact ⟨nofun, fun ⟨kind, hkind⟩ => absurd hkind (hstarts kind)⟩
    | known kind _ _ hstarts => exact ⟨fun _ => ⟨kind, hstarts⟩, fun _ => rfl⟩
  handles id kind hkind := by
    have htracked := tracked_run id hfresh hrun
    generalize service.handles id = current at htracked ⊢
    cases htracked with
    | unknown hstarts => exact absurd hkind (hstarts kind)
    | known other collector outs hstarts houtcomes hsome =>
      rw [hfresh.kind_eq hkind hstarts, houtcomes]
      exact ⟨collector, hsome, rfl⟩
  once id := by
    have htracked := tracked_run id hfresh hrun
    generalize service.handles id = current at htracked
    cases htracked with
    | unknown _ houtcomes =>
      rw [houtcomes]
      exact Nat.zero_le 1
    | known _ _ _ _ houtcomes _ honce =>
      rw [houtcomes]
      exact honce
  settled later last id handle hlater hagain hhandle hdone := by
    have htracked := tracked_run id hfresh hrun
    rw [hhandle] at htracked
    cases htracked with
    | known kind _ _ hstarts =>
      exact settled_run (hagain.not_starts hstarts) hdone hhandle hlater

section Example

attribute [local instance] plainTexts

/-- A run that completes and a comparison that fails, at the same time. -/
def twoExecutions : List (ExecutionAction String String) :=
  [.startRun (.repeated 1), .startComparison (.repeated 2),
    .emit (.repeated 1) .environmentCreated 0 [], .openEvents 0 (.repeated 1),
    .settle (.repeated 2) (.compared (.error (.value "no cases"))), .check 0,
    .emit (.repeated 1) .runCompleted 0 [], .settle (.repeated 1) (.ranCase (.ok "passed")),
    .wake 0]

theorem executionsTracked_twoExecutions :
    ∃ service, ExecutionService.run {} twoExecutions = some service ∧
      ExecutionsTracked twoExecutions service ∧
      (service.handles (.repeated 1)).map (·.status) = some .completed ∧
      (service.handles (.repeated 2)).bind (·.errorMessage) = some "no cases" := by
  have hfresh : ((starts twoExecutions).map Prod.fst).Nodup := by decide +kernel
  have hruns : ∃ service ∈ ExecutionService.run {} twoExecutions,
      (service.handles (.repeated 1)).map (·.status) = some .completed ∧
      (service.handles (.repeated 2)).bind (·.errorMessage) = some "no cases" := by decide +kernel
  obtain ⟨service, hrun, hstatus⟩ := hruns
  exact ⟨service, hrun, executionsTracked_run hfresh hrun, hstatus⟩

end Example

end ObservabilityLab
