import ObservabilityLab.UserSimulator.Reference

/-!
# The approval gate of a live session

No sensitive tool runs before a trusted confirmation, whatever the business model chooses. The first
one that runs is the one that was announced last, and no executed tool runs again.

## Main definitions

* `MayRun`: what the gate asks of the steps before a tool call
* `Gated`: the gate holds at every tool call
* `ReferenceSession.Sound`: what a session keeps between its choices

## Main results

* `executeTool_triple`: a tool call that the gate allows keeps the session sound
* `agentTurn_triple`: so does every turn
* `approvalGate_session`: the gate holds in every session
-/

namespace ObservabilityLab

open Python Raising

/-- The announcement of a step. -/
def GateStep.announcement? : GateStep → Option (String × Record)
  | .announced name arguments => some (name, arguments)
  | _ => none

/-- The tool and arguments that were announced last. -/
def lastAnnounced (steps : List GateStep) : Option (String × Record) :=
  (steps.filterMap (·.announcement?)).getLast?

theorem lastAnnounced_concat {steps : List GateStep} {step : GateStep}
    (h : step.announcement? = none) : lastAnnounced (steps ++ [step]) = lastAnnounced steps := by
  rw [lastAnnounced, List.filterMap_append, List.filterMap_cons_none h, List.filterMap_nil,
    List.append_nil]
  rfl

theorem lastAnnounced_announced (steps : List GateStep) (name : String) (arguments : Record) :
    lastAnnounced (steps ++ [.announced name arguments]) = some (name, arguments) := by
  rw [lastAnnounced, List.filterMap_append]
  exact List.getLast?_concat

namespace ReferenceWorkflow

variable {World : Type} (workflow : ReferenceWorkflow World)

/-- A protected or unsafe tool. -/
def isSensitive (name : String) : Bool :=
  name ∈ workflow.expectation.protectedTools || (workflow.tool? name).any (!·.safe)

/-- No sensitive tool was run. -/
def NoneSensitive (steps : List GateStep) : Prop :=
  ∀ name arguments, .ran name arguments ∈ steps → workflow.isSensitive name = false

/-- **What the gate asks before a tool call**: a sensitive tool has a trusted turn before it; the
first one starts the trusted turn, with the tool and arguments that were announced last; and the
tool was not executed. -/
structure MayRun (steps : List GateStep) (name : String) (arguments : Record) : Prop where
  trusted : workflow.isSensitive name = true → .turn true ∈ steps
  first : workflow.isSensitive name = true → workflow.NoneSensitive steps →
    ∃ earlier, steps = earlier ++ [.turn true] ∧ lastAnnounced earlier = some (name, arguments)
  once : .executed name ∉ steps

/-- The gate holds at every tool call of a session. -/
def Gated (steps : List GateStep) : Prop :=
  ∀ before name arguments, before ++ [.ran name arguments] <+: steps →
    workflow.MayRun before name arguments

variable {workflow} {steps : List GateStep} {step : GateStep} {name : String} {arguments : Record}

/-- A sensitive tool of a gated workflow requires a confirmation. -/
theorem requiresConfirmation_iff {tool : ReferenceTool World}
    (hgate : workflow.expectation.gateRequired = true) (htool : workflow.tool? name = some tool) :
    workflow.requiresConfirmation name tool = workflow.isSensitive name := by
  rw [requiresConfirmation, isSensitive, hgate, htool]
  rfl

theorem Gated.concat (h : workflow.Gated steps)
    (hstep : ∀ name arguments, step = .ran name arguments →
      workflow.MayRun steps name arguments) : workflow.Gated (steps ++ [step]) := by
  intro before name arguments hprefix
  rcases List.prefix_concat_iff.mp hprefix with heq | hold
  · obtain ⟨rfl, hlast⟩ := List.append_inj' heq rfl
    exact hstep name arguments (List.cons.inj hlast).1.symm
  · exact h before name arguments hold

/-- A step that runs no tool. -/
theorem Gated.concat_of_ne (h : workflow.Gated steps)
    (hstep : ∀ name arguments, step ≠ .ran name arguments) : workflow.Gated (steps ++ [step]) :=
  h.concat fun name arguments hsame => absurd hsame (hstep name arguments)

theorem NoneSensitive.concat (h : workflow.NoneSensitive steps)
    (hstep : ∀ name arguments, step = .ran name arguments → workflow.isSensitive name = false) :
    workflow.NoneSensitive (steps ++ [step]) := by
  intro name arguments hmem
  rcases List.mem_append.mp hmem with hold | hnew
  · exact h name arguments hold
  · exact hstep name arguments (List.mem_singleton.mp hnew).symm

theorem NoneSensitive.of_append {later : List GateStep}
    (h : workflow.NoneSensitive (steps ++ later)) : workflow.NoneSensitive steps :=
  fun name arguments hmem => h name arguments (List.mem_append_left _ hmem)

/-- The same call may be retried. -/
theorem MayRun.again (h : workflow.MayRun steps name arguments) :
    workflow.MayRun (steps ++ [.ran name arguments]) name arguments where
  trusted hsensitive := List.mem_append_left _ (h.trusted hsensitive)
  first hsensitive hnone := by
    have hran := hnone name arguments (List.mem_append_right _ (List.mem_singleton_self _))
    rw [hsensitive] at hran
    cases hran
  once hmem := by
    rcases List.mem_append.mp hmem with hold | hnew
    · exact h.once hold
    · cases List.mem_singleton.mp hnew

end ReferenceWorkflow

/-! ## What a session keeps -/

section Sessions

variable {World : Type} {workflow : ReferenceWorkflow World} {projector : Option ToolProjector}
  {name : String} {arguments : Record} {session : ReferenceSession World}

/-- **What a session keeps** between its choices. -/
structure ReferenceSession.Sound (workflow : ReferenceWorkflow World)
    (session : ReferenceSession World) : Prop where
  gated : workflow.Gated session.steps
  executed : ∀ name, .executed name ∈ session.steps → name ∈ session.executedTools
  confirmed : session.confirmed = true →
    .turn true ∈ session.steps ∧ ¬ workflow.NoneSensitive session.steps
  unconfirmed : session.confirmed = false → workflow.NoneSensitive session.steps ∧
    ∀ name ∈ session.executedTools, workflow.isSensitive name = false
  pending : ∀ name arguments, session.pendingAction = some (name, arguments) →
    session.confirmed = false ∧ workflow.isSensitive name = true ∧
      lastAnnounced session.steps = some (name, arguments)

/-- What a session keeps while a tool is run: the gate allows the call, also once more, and the
first sensitive call comes with the confirmation. -/
structure ReferenceSession.Running (workflow : ReferenceWorkflow World) (name : String)
    (arguments : Record) (session : ReferenceSession World) : Prop where
  gated : workflow.Gated session.steps
  mayRun : workflow.MayRun session.steps name arguments
  executed : ∀ name, .executed name ∈ session.steps → name ∈ session.executedTools
  confirmed : session.confirmed = true → .turn true ∈ session.steps ∧
    (workflow.isSensitive name = false → ¬ workflow.NoneSensitive session.steps)
  unconfirmed : session.confirmed = false → workflow.isSensitive name = false ∧
    workflow.NoneSensitive session.steps ∧
    ∀ name ∈ session.executedTools, workflow.isSensitive name = false
  pending : ∀ name arguments, session.pendingAction = some (name, arguments) →
    session.confirmed = false ∧ workflow.isSensitive name = true ∧
      lastAnnounced session.steps = some (name, arguments)

/-- The tool was run. -/
def ReferenceSession.HasRun (workflow : ReferenceWorkflow World) (name : String)
    (arguments : Record) (session : ReferenceSession World) : Prop :=
  session.Running workflow name arguments ∧ .ran name arguments ∈ session.steps

/-- The variables of the gate decide it, not the repository or the events. -/
def Framed (P : ReferenceSession World → Prop) : Prop :=
  ∀ session repository events, P session →
    P { session with repository := repository, events := events }

theorem framed_sound : Framed (ReferenceSession.Sound workflow) := fun _ _ _ h =>
  ⟨h.gated, h.executed, h.confirmed, h.unconfirmed, h.pending⟩

theorem framed_running : Framed (ReferenceSession.Running workflow name arguments) := fun _ _ _ h =>
  ⟨h.gated, h.mayRun, h.executed, h.confirmed, h.unconfirmed, h.pending⟩

theorem framed_hasRun : Framed (ReferenceSession.HasRun workflow name arguments) :=
  fun session repository events h => ⟨framed_running session repository events h.1, h.2⟩

theorem emitEvent_triple {P : ReferenceSession World → Prop} (hP : Framed P)
    {kind : SimulatorEventKind} {text : String} {fields : Record}
    {E : PyError → ReferenceSession World → Prop} :
    Triple P (emitEvent kind text fields) (fun _ => P) E :=
  triple_modify fun session h => hP session session.repository _ h

/-- A step that is no tool call and no announcement. -/
theorem ReferenceSession.Sound.withTurn (h : session.Sound workflow) (trusted : Bool) :
    ReferenceSession.Sound workflow
      { session with steps := session.steps ++ [.turn trusted] } where
  gated := h.gated.concat_of_ne fun _ _ hsame => by cases hsame
  executed name hmem := by
    rcases List.mem_append.mp hmem with hold | hnew
    · exact h.executed name hold
    · cases List.mem_singleton.mp hnew
  confirmed hconfirmed := by
    obtain ⟨htrusted, hran⟩ := h.confirmed hconfirmed
    exact ⟨List.mem_append_left _ htrusted, fun hnone => hran hnone.of_append⟩
  unconfirmed hconfirmed := by
    obtain ⟨hnone, hexecuted⟩ := h.unconfirmed hconfirmed
    exact ⟨hnone.concat fun _ _ hsame => (by cases hsame), hexecuted⟩
  pending name arguments hpending := by
    obtain ⟨hconfirmed, hsensitive, hlast⟩ := h.pending name arguments hpending
    exact ⟨hconfirmed, hsensitive, (lastAnnounced_concat rfl).trans hlast⟩

/-- A tool that the gate allows is run. -/
theorem ReferenceSession.Running.ran (h : session.Running workflow name arguments) :
    ReferenceSession.HasRun workflow name arguments
      { session with steps := session.steps ++ [.ran name arguments] } := by
  refine ⟨?_, List.mem_append_right _ (List.mem_singleton_self _)⟩
  refine ⟨h.gated.concat ?_, h.mayRun.again, ?_, ?_, ?_, ?_⟩
  · intro other arguments' hsame
    cases hsame
    exact h.mayRun
  · intro other hmem
    rcases List.mem_append.mp hmem with hold | hnew
    · exact h.executed other hold
    · cases List.mem_singleton.mp hnew
  · intro hconfirmed
    obtain ⟨htrusted, hran⟩ := h.confirmed hconfirmed
    exact ⟨List.mem_append_left _ htrusted, fun hsafe hnone => hran hsafe hnone.of_append⟩
  · intro hconfirmed
    obtain ⟨hsafe, hnone, hexecuted⟩ := h.unconfirmed hconfirmed
    refine ⟨hsafe, hnone.concat fun other _ hsame => ?_, hexecuted⟩
    cases hsame
    exact hsafe
  · intro other arguments' hpending
    obtain ⟨hconfirmed, hsensitive, hlast⟩ := h.pending other arguments' hpending
    exact ⟨hconfirmed, hsensitive, (lastAnnounced_concat rfl).trans hlast⟩

/-- A tool that was run is recorded as executed. -/
theorem ReferenceSession.HasRun.executed (h : session.HasRun workflow name arguments) :
    ReferenceSession.Sound workflow
      { session with
        steps := session.steps ++ [.executed name]
        executedTools := session.executedTools ++ [name] } where
  gated := h.1.gated.concat_of_ne fun _ _ hsame => by cases hsame
  executed other hmem := by
    rcases List.mem_append.mp hmem with hold | hnew
    · exact List.mem_append_left _ (h.1.executed other hold)
    · cases List.mem_singleton.mp hnew
      exact List.mem_append_right _ (List.mem_singleton_self _)
  confirmed hconfirmed := by
    obtain ⟨htrusted, hran⟩ := h.1.confirmed hconfirmed
    refine ⟨List.mem_append_left _ htrusted, fun hnone => ?_⟩
    -- either this tool is sensitive, or one before it was
    exact hran (hnone.of_append name arguments h.2) hnone.of_append
  unconfirmed hconfirmed := by
    obtain ⟨hsafe, hnone, hexecuted⟩ := h.1.unconfirmed hconfirmed
    refine ⟨hnone.concat fun _ _ hsame => (by cases hsame), fun other hmem => ?_⟩
    rcases List.mem_append.mp hmem with hold | hnew
    · exact hexecuted other hold
    · rw [List.mem_singleton.mp hnew]
      exact hsafe
  pending other arguments' hpending := by
    obtain ⟨hconfirmed, hsensitive, hlast⟩ := h.1.pending other arguments' hpending
    exact ⟨hconfirmed, hsensitive, (lastAnnounced_concat rfl).trans hlast⟩

/-! ## One tool call -/

/-- A session that a gate still holds for, whatever was raised. -/
def ReferenceSession.StillGated (workflow : ReferenceWorkflow World) (_ : PyError)
    (session : ReferenceSession World) : Prop := workflow.Gated session.steps

/-- **A call of a tool that the gate allows.** -/
theorem call_triple {tool : ReferenceTool World} :
    Triple (ReferenceSession.Running workflow tool.name arguments) (tool.call arguments)
      (fun _ => ReferenceSession.HasRun workflow tool.name arguments)
      fun _ => ReferenceSession.HasRun workflow tool.name arguments := by
  refine triple_bind (triple_modify (R := fun _ =>
    ReferenceSession.HasRun workflow tool.name arguments) fun session h => h.ran) fun _ => ?_
  refine triple_zoom fun session h => triple_of_runs ?_ ?_
  · intro _ _ repository _ _
    exact framed_hasRun session repository session.events h
  · intro _ _ repository _ _
    exact framed_hasRun session repository session.events h

theorem reportResult_triple {label result : String} :
    Triple (ReferenceSession.HasRun workflow name arguments)
      (workflow.reportResult projector label name result)
      (fun _ => ReferenceSession.HasRun workflow name arguments)
      (ReferenceSession.StillGated workflow) := by
  refine triple_bind (Q := fun _ => ReferenceSession.HasRun workflow name arguments)
    (triple_ofExcept (fun _ _ _ h => h) fun _ _ _ h => h.1.gated) fun summary => ?_
  exact triple_bind (emitEvent_triple framed_hasRun) fun _ => triple_pure fun _ h => h

theorem retryTool_triple {tool : ReferenceTool World} {label : String} {error : PyError} :
    Triple (ReferenceSession.HasRun workflow tool.name arguments)
      (workflow.retryTool projector tool label arguments error)
      (fun _ => ReferenceSession.HasRun workflow tool.name arguments)
      (ReferenceSession.StillGated workflow) := by
  refine triple_bind (emitEvent_triple framed_hasRun) fun _ => ?_
  refine triple_attempt_bind (triple_mono call_triple (fun _ h => h.1) (fun _ _ h => h)
    fun _ _ h => h) (fun result => reportResult_triple) fun error => ?_
  dsimp only
  split
  · exact triple_bind (emitEvent_triple framed_hasRun) fun _ => triple_pure fun _ h => h
  · exact triple_throw fun _ h => h.1.gated

/-- **A run of a tool that the gate allows**, with its retry. -/
theorem runTool_triple :
    Triple (ReferenceSession.Running workflow name arguments)
      (workflow.runTool projector name arguments)
      (fun _ => ReferenceSession.HasRun workflow name arguments)
      (ReferenceSession.StillGated workflow) := by
  unfold ReferenceWorkflow.runTool
  split
  · exact triple_throw fun _ h => h.gated
  · rename_i tool htool
    obtain rfl := ReferenceWorkflow.tool?_name htool
    refine triple_bind (Q := fun _ => ReferenceSession.Running workflow tool.name arguments)
      (triple_ofExcept (fun _ _ _ h => h) fun _ _ _ h => h.gated) fun label => ?_
    refine triple_bind (emitEvent_triple framed_running) fun _ => ?_
    refine triple_attempt_bind call_triple (fun result => reportResult_triple) fun error => ?_
    dsimp only
    split
    · exact retryTool_triple
    · exact triple_throw fun _ h => h.1.gated

/-- **A tool call that the gate allows** keeps the session sound. -/
theorem executeTool_triple :
    Triple (ReferenceSession.Running workflow name arguments)
      (workflow.executeTool projector name arguments)
      (fun _ => ReferenceSession.Sound workflow) (ReferenceSession.StillGated workflow) := by
  refine triple_bind runTool_triple fun _ => ?_
  refine triple_bind (triple_modify (R := fun _ session => ReferenceSession.Sound workflow
    { session with executedTools := session.executedTools ++ [name] }) fun session h => ?_) ?_
  · exact h.executed
  · exact fun _ => triple_modify fun session h => h

/-! ## One choice -/

/-- An announcement. -/
theorem ReferenceSession.Sound.announced (h : session.Sound workflow)
    (hconfirmed : session.confirmed = false) (hsensitive : workflow.isSensitive name = true) :
    ReferenceSession.Sound workflow
      { session with
        steps := session.steps ++ [.announced name arguments]
        approvalPending := true
        pendingAction := some (name, arguments) } where
  gated := h.gated.concat_of_ne fun _ _ hsame => by cases hsame
  executed other hmem := by
    rcases List.mem_append.mp hmem with hold | hnew
    · exact h.executed other hold
    · cases List.mem_singleton.mp hnew
  confirmed htrue := by
    dsimp only at htrue
    rw [hconfirmed] at htrue
    cases htrue
  unconfirmed _ := by
    obtain ⟨hnone, hexecuted⟩ := h.unconfirmed hconfirmed
    exact ⟨hnone.concat fun _ _ hsame => (by cases hsame), hexecuted⟩
  pending other arguments' hpending := by
    cases Option.some.inj hpending
    exact ⟨hconfirmed, hsensitive, lastAnnounced_announced ..⟩

theorem announce_triple :
    Triple (fun session : ReferenceSession World => session.Sound workflow ∧
        session.confirmed = false ∧ workflow.isSensitive name = true)
      (ReferenceWorkflow.announce name arguments) (fun _ => ReferenceSession.Sound workflow)
      (ReferenceSession.StillGated workflow) := by
  refine triple_bind (triple_modify (R := fun _ session => ReferenceSession.Sound workflow
    { session with approvalPending := true, pendingAction := some (name, arguments) })
    fun session h => ?_) fun _ => ?_
  · exact h.1.announced h.2.1 h.2.2
  · refine triple_bind (triple_modify (R := fun _ => ReferenceSession.Sound workflow)
      fun session h => h) fun _ => ?_
    exact triple_bind (emitEvent_triple framed_sound) fun _ => triple_pure fun _ h => h

/-- The gate allows a tool that was not executed, if it is not sensitive or the session is
confirmed. -/
theorem ReferenceSession.Sound.running (h : session.Sound workflow)
    (hnew : name ∉ session.executedTools)
    (hallowed : workflow.isSensitive name = true → session.confirmed = true) :
    session.Running workflow name arguments := by
  refine ⟨h.gated, ⟨?_, ?_, fun hexecuted => hnew (h.executed name hexecuted)⟩, h.executed, ?_, ?_,
    h.pending⟩
  · intro hsensitive
    exact (h.confirmed (hallowed hsensitive)).1
  · intro hsensitive hnone
    exact absurd hnone (h.confirmed (hallowed hsensitive)).2
  · intro hconfirmed
    exact ⟨(h.confirmed hconfirmed).1, fun _ => (h.confirmed hconfirmed).2⟩
  · intro hconfirmed
    refine ⟨?_, h.unconfirmed hconfirmed⟩
    rw [Bool.eq_false_iff]
    intro hsensitive
    rw [hallowed hsensitive] at hconfirmed
    cases hconfirmed

/-- **A choice of the business model** keeps the session sound. -/
theorem choose_triple (hgate : workflow.expectation.gateRequired = true)
    (choice : BusinessChoice) :
    Triple (ReferenceSession.Sound workflow) (workflow.choose projector choice)
      (fun _ => ReferenceSession.Sound workflow) (ReferenceSession.StillGated workflow) := by
  refine triple_bind (triple_get (R := fun read session => read = session ∧
    session.Sound workflow) fun session h => ⟨rfl, h⟩) fun read => ?_
  split
  · rename_i name _ _
    split
    · refine triple_bind (Q := fun _ => ReferenceSession.Sound workflow) ?_
        fun _ => triple_pure fun _ h => h
      exact triple_modify fun session h => framed_sound session _ _ h.2
    · rename_i hnew
      split
      · refine triple_bind (Q := fun _ => ReferenceSession.Sound workflow) ?_
          fun _ => triple_pure fun _ h => h
        exact triple_modify fun session h => framed_sound session _ _ h.2
      · rename_i tool htool
        have hsensitive := ReferenceWorkflow.requiresConfirmation_iff hgate htool
        split
        · rename_i hasks
          rw [hsensitive, Bool.and_eq_true, Bool.not_eq_true'] at hasks
          refine triple_mono announce_triple ?_ (fun _ _ h => h) fun _ _ h => h
          rintro session ⟨rfl, h⟩
          exact ⟨h, hasks.2, hasks.1⟩
        · rename_i hasks
          rw [hsensitive, Bool.and_eq_true, Bool.not_eq_true', not_and, Bool.not_eq_false] at hasks
          refine triple_bind (Q := fun _ => ReferenceSession.Sound workflow) ?_
            fun _ => triple_pure fun _ h => h
          refine triple_mono executeTool_triple ?_ (fun _ _ h => h) fun _ _ h => h
          rintro session ⟨rfl, h⟩
          exact h.running hnew hasks
  · split
    · exact triple_pure fun session h => h.2
    · exact triple_pure fun session h => h.2

/-! ## Turns -/

/-- **The confirmation at the start of a turn** keeps the session sound. -/
theorem confirmPending_triple (trusted : Bool) :
    Triple (fun session : ReferenceSession World => session.Sound workflow ∧
        ∃ earlier, session.steps = earlier ++ [.turn trusted])
      (workflow.confirmPending projector trusted) (fun _ => ReferenceSession.Sound workflow)
      (ReferenceSession.StillGated workflow) := by
  refine triple_bind (triple_get (R := fun read session => read = session ∧
    session.Sound workflow ∧ ∃ earlier, session.steps = earlier ++ [.turn trusted])
    fun session h => ⟨rfl, h⟩) fun read => ?_
  split
  · rename_i name arguments hpending
    split
    · rename_i htrusted
      obtain ⟨rfl, -⟩ := Bool.and_eq_true_iff.mp htrusted
      refine triple_bind (Q := fun _ => ReferenceSession.Running workflow name arguments) ?_
        fun _ => executeTool_triple
      rintro session ⟨rfl, h, earlier, hearlier⟩
      obtain ⟨hconfirmed, hsensitive, hlast⟩ := h.pending name arguments hpending
      obtain ⟨hnone, hexecuted⟩ := h.unconfirmed hconfirmed
      have hturn : .turn true ∈ read.steps := by
        rw [hearlier]
        exact List.mem_append_right _ (List.mem_singleton_self _)
      refine ⟨h.gated, ⟨fun _ => hturn, fun _ _ => ⟨earlier, hearlier, ?_⟩, fun hmem => ?_⟩,
        h.executed, fun _ => ⟨hturn, fun hsafe => ?_⟩, fun hfalse => (by cases hfalse),
        fun _ _ hsome => by cases hsome⟩
      · rw [← hlast, hearlier]
        exact (lastAnnounced_concat rfl).symm
      · -- no sensitive tool was executed before the confirmation
        have hsafe := hexecuted name (h.executed name hmem)
        rw [hsensitive] at hsafe
        cases hsafe
      · rw [hsensitive] at hsafe
        cases hsafe
    · exact triple_pure fun session h => h.2.1
  · exact triple_pure fun session h => h.2.1

theorem chooseTools_triple (hgate : workflow.expectation.gateRequired = true)
    (choices : List (Raises BusinessChoice)) :
    Triple (ReferenceSession.Sound workflow) (workflow.chooseTools projector choices)
      (fun _ => ReferenceSession.Sound workflow) (ReferenceSession.StillGated workflow) := by
  induction choices with
  | nil => exact triple_pure fun _ h => h
  | cons choice choices ih =>
    refine triple_bind (Q := fun _ => ReferenceSession.Sound workflow)
      (triple_ofExcept (fun _ _ _ h => h) fun _ _ _ h => h.gated) fun choice => ?_
    refine triple_bind (choose_triple hgate choice) fun answer => ?_
    cases answer with
    | some answer => exact triple_pure fun _ h => h
    | none => exact ih

/-- **A turn keeps the session sound.** -/
theorem agentTurn_triple (hgate : workflow.expectation.gateRequired = true)
    (turn : ReferenceTurn) :
    Triple (ReferenceSession.Sound workflow) (workflow.agentTurn projector turn)
      (fun _ => ReferenceSession.Sound workflow) (ReferenceSession.StillGated workflow) := by
  refine triple_bind (triple_modify (R := fun _ session => session.Sound workflow ∧
    ∃ earlier, session.steps = earlier ++ [.turn turn.trustedConfirmation])
    fun session h => ⟨h.withTurn _, session.steps, rfl⟩) fun _ => ?_
  refine triple_bind (confirmPending_triple _) fun _ => ?_
  exact chooseTools_triple hgate _

theorem session_triple (hgate : workflow.expectation.gateRequired = true)
    (turns : List ReferenceTurn) :
    Triple (ReferenceSession.Sound workflow) (workflow.session projector turns)
      (fun _ => ReferenceSession.Sound workflow) (ReferenceSession.StillGated workflow) := by
  induction turns with
  | nil => exact triple_pure fun _ h => h
  | cons turn turns ih =>
    refine triple_bind (triple_bind (agentTurn_triple hgate turn) fun _ => ?_) fun _ => ih
    exact triple_pure fun _ h => h

/-- A new session. -/
theorem ReferenceSession.Sound.new (repository : World) :
    ReferenceSession.Sound workflow (.new repository) where
  gated before name arguments hprefix := by
    have hlength := hprefix.length_le
    rw [List.length_append] at hlength
    cases hlength
  executed _ hmem := absurd hmem List.not_mem_nil
  confirmed h := by cases h
  unconfirmed _ := ⟨fun _ _ hmem => absurd hmem List.not_mem_nil,
    fun _ hmem => absurd hmem List.not_mem_nil⟩
  pending _ _ h := by cases h

/-- **The approval gate**: in every session of a gated workflow, whatever the turns of the user and
the choices of the business model, the gate holds at every tool call. -/
theorem approvalGate_session (workflow : ReferenceWorkflow World)
    (projector : Option ToolProjector) (repository : World) (turns : List ReferenceTurn)
    (hgate : workflow.expectation.gateRequired = true) :
    workflow.Gated (finalState ((workflow.session projector turns).run
      (ReferenceSession.new repository))).steps := by
  have hsession : Triple _ (workflow.session projector turns) _ _ := session_triple hgate turns
  refine Leads.finalState (P := ReferenceSession.Sound workflow)
    (S := fun session => workflow.Gated session.steps) ?_ (.new repository)
  exact triple_mono hsession (fun _ h => h) (fun _ _ h => h.gated) fun _ _ h => h

end Sessions

section Example

/-- A tool that counts its calls. -/
def countingTool (name : String) (safe : Bool) : ReferenceTool ℕ where
  name := name
  safe := safe
  run _ := do
    modify (· + 1)
    return "done"

/-- A gated workflow: one tool reads, and the other one pays. -/
def payingWorkflow : ReferenceWorkflow ℕ where
  workflowId := "paying"
  mutations _ := []
  tools := [countingTool "read" true, countingTool "pay" false]
  expectation := { gateRequired := true, protectedTools := ["pay"] }

/-- A business model that reads, and pays as soon as it may. -/
def payingChoices (n : ℕ) : Raises BusinessChoice :=
  .ok { tool := some (if n = 0 then "read" else "pay"), message := "next", messageBounded := rfl }

/-- The session after a turn that announces the payment, and one that confirms it. -/
def payingSession : ReferenceSession ℕ :=
  finalState ((payingWorkflow.session none [⟨false, payingChoices⟩, ⟨true, payingChoices⟩]).run
    { repository := 0 })

theorem approvalGate_session_paying :
    payingWorkflow.Gated payingSession.steps ∧ payingSession.executedTools = ["read", "pay"] ∧
      payingSession.repository = 2 := by
  refine ⟨approvalGate_session payingWorkflow none 0 _ rfl, ?_⟩
  decide +kernel

end Example

end ObservabilityLab
