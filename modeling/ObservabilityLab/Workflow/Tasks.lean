import Mathlib.Algebra.Group.Pi.Lemmas
import ObservabilityLab.Workflow.Runtime

/-!
# The tasks of a run

What a node of the support graph does alone, exactly: a node with the retry policy ends as its delta
makes of one last answer, which is no transient error of a first attempt. A run is counted by the
attempts and the completions of its nodes, and by the tickets that it created.

## Main definitions

* `Tally`: what some calls come to in attempts, completions and tickets
* `Passed`: what a part of a run came to
* `Environment.Answers`: what a dependency answers in the worlds with an invariant
* `Tasked`: the attempts of one node

## Main results

* `runs_runTask_retried`, `runs_runTask_once`, `runs_runTask_done`: the runs of a node, by the shape
  of the node
* `runs_runGraph_succ`: one step of a run of the graph
-/

namespace ObservabilityLab.Workflow

open Python

variable {World Id : Type}

/-! ## Counts -/

/-- An attempt of a node. -/
def Event.isTask (w : String) (node : Node) (event : Event Id) : Bool :=
  match event.op with
  | .task thread node' => thread = w && node' = node
  | _ => false

/-- A node is completed. -/
def Event.completes (w : String) (node : Node) (event : Event Id) : Bool :=
  match event.op with
  | .put thread (some node') _ => thread = w && node' = node
  | _ => false

def Event.createsTicket (w : String) (event : Event Id) : Bool :=
  match event with
  | ⟨_, .dependency thread (.escalate ..), .ok _⟩ => thread = w
  | _ => false

/-- What some calls come to in attempts, completions and tickets. -/
structure Tally (w : String) (events : List (Event Id)) (attempts completions : Node → ℕ)
    (tickets : ℕ) : Prop where
  attempts : ∀ node, events.countP (·.isTask w node) = attempts node
  completions : ∀ node, events.countP (·.completes w node) = completions node
  tickets : events.countP (·.createsTicket w) = tickets

section Tally

variable {w : String} {events events' : List (Event Id)} {attempts attempts' : Node → ℕ}
  {completions completions' : Node → ℕ} {tickets tickets' : ℕ}

theorem Tally.append (h : Tally w events attempts completions tickets)
    (h' : Tally w events' attempts' completions' tickets') :
    Tally w (events ++ events') (attempts + attempts') (completions + completions')
      (tickets + tickets') where
  attempts node := by rw [List.countP_append, h.attempts, h'.attempts]; rfl
  completions node := by rw [List.countP_append, h.completions, h'.completions]; rfl
  tickets := by rw [List.countP_append, h.tickets, h'.tickets]

end Tally

/-- What a part of a run came to. -/
def Passed (w : String) (s s' : Shared World Id) (attempts completions : Node → ℕ)
    (tickets : ℕ) : Prop :=
  ∃ events, s'.history = s.history ++ events ∧ Tally w events attempts completions tickets

section Passed

variable {w : String} {s s' s'' : Shared World Id} {attempts attempts' : Node → ℕ}
  {completions completions' : Node → ℕ} {tickets tickets' : ℕ}

theorem Passed.trans (h : Passed w s s' attempts completions tickets)
    (h' : Passed w s' s'' attempts' completions' tickets') :
    Passed w s s'' (attempts + attempts') (completions + completions') (tickets + tickets') := by
  obtain ⟨events, hhistory, htally⟩ := h
  obtain ⟨events', hhistory', htally'⟩ := h'
  refine ⟨events ++ events', ?_, htally.append htally'⟩
  rw [hhistory', hhistory, List.append_assoc]

variable {env : Environment World} {i : Id} {op : Op} {answer : Except PyError op.Answer}

theorem Performs.history (h : Performs env i s op answer s') :
    s'.history = s.history ++ [⟨i, op, answer⟩] := by
  cases h with
  | _ => rfl

/-- One call. -/
theorem Performs.passed (h : Performs env i s op answer s')
    (htally : Tally w [⟨i, op, answer⟩] attempts completions tickets) :
    Passed w s s' attempts completions tickets :=
  ⟨_, h.history, htally⟩

end Passed

theorem tally_task (i : Id) (w : String) (node : Node) (answer : Except PyError Unit) :
    Tally w [⟨i, .task w node, answer⟩] (Pi.single node 1) 0 0 where
  attempts node' := by
    rw [List.countP_singleton]
    by_cases h : node = node'
    · subst h
      simp [Event.isTask]
    · rw [Pi.single_eq_of_ne (Ne.symm h)]
      simp [Event.isTask, h]
  completions _ := rfl
  tickets := rfl

theorem tally_put (i : Id) (w : String) (completed : Option Node) (checkpoint : Checkpoint)
    (answer : Except PyError Unit) :
    Tally w [⟨i, .put w completed checkpoint, answer⟩] 0
      (completed.elim 0 fun node => Pi.single node 1) 0 where
  attempts _ := rfl
  completions node' := by
    rw [List.countP_singleton]
    cases completed with
    | none => rfl
    | some node =>
      by_cases h : node = node'
      · subst h
        simp [Event.completes]
      · rw [Option.elim_some, Pi.single_eq_of_ne (Ne.symm h)]
        simp [Event.completes, h]
  tickets := rfl

/-- The tickets that a call created. -/
def Dependency.tickets : (call : Dependency) → Except PyError call.Answer → ℕ
  | .escalate .., .ok _ => 1
  | _, _ => 0

theorem tally_dependency (i : Id) (w : String) (call : Dependency)
    (answer : Except PyError call.Answer) :
    Tally w [⟨i, .dependency w call, answer⟩] 0 0 (call.tickets answer) where
  attempts _ := rfl
  completions _ := rfl
  tickets := by
    rw [List.countP_singleton]
    cases call with
    | escalate actorId reason requestId =>
      cases answer with
      | ok ticket => simp [Event.createsTicket, Dependency.tickets]
      | error error => rfl
    | _ => rfl

/-! ## Calls to dependencies -/

variable {env : Environment World} {i : Id} {w : String} {s s' : Shared World Id}

/-- What a dependency answers in the worlds with an invariant, which it keeps. -/
def Environment.Answers (env : Environment World) (I : World → Prop) (call : Dependency)
    (A : Except PyError call.Answer → Prop) : Prop :=
  ∀ world answer world', I world → env.behaves world call answer world' → A answer ∧ I world'

variable {I : World → Prop} {call : Dependency} {A : Except PyError call.Answer → Prop}

/-- A call to a dependency, with its exceptions caught. -/
theorem runs_ask {result : Except PyError (Except PyError call.Answer)}
    (hanswers : env.Answers I call A) (hworld : I s.world)
    (hruns : Program.Runs (Performs env i) s (ask w call) result s') :
    ∃ answer, result = .ok answer ∧ A answer ∧ I s'.world ∧ s'.checkpoints = s.checkpoints ∧
      s'.attempts = s.attempts ∧ Passed w s s' 0 0 (call.tickets answer) := by
  obtain ⟨answer, rfl, hcall⟩ := Program.runs_caught_iff.mp hruns
  have hperforms := Program.runs_perform_iff.mp hcall
  have hpassed := hperforms.passed (tally_dependency i w call answer)
  cases hperforms with
  | dependency hbehaves =>
    obtain ⟨hA, hI⟩ := hanswers _ _ _ hworld hbehaves
    exact ⟨answer, rfl, hA, hI, rfl, rfl, hpassed⟩

theorem runs_task {node : Node} {result : Except PyError Unit}
    (hruns : Program.Runs (Performs env i) s (invoke (.task w node)) result s') :
    result = .ok () ∧ s'.world = s.world ∧ s'.checkpoints = s.checkpoints ∧
      s'.attempts = s.attempts ∧ Passed w s s' (Pi.single node 1) 0 0 := by
  have hperforms := Program.runs_perform_iff.mp hruns
  have hpassed := hperforms.passed (tally_task i w node result)
  cases hperforms with
  | task => exact ⟨rfl, rfl, rfl, rfl, hpassed⟩

theorem runs_nextAttempt {runId : String} {node : Node} {result : Except PyError ℕ}
    (hruns : Program.Runs (Performs env i) s (invoke (.nextAttempt runId node)) result s') :
    result = .ok (s.attempts runId node + 1) ∧ s'.attempts runId node = s.attempts runId node + 1 ∧
      s'.world = s.world ∧ s'.checkpoints = s.checkpoints ∧ Passed w s s' 0 0 0 := by
  have hperforms := Program.runs_perform_iff.mp hruns
  have hpassed : Passed w s s' 0 0 0 := hperforms.passed
    { attempts := fun _ => rfl, completions := fun _ => rfl, tickets := rfl }
  cases hperforms with
  | nextAttempt =>
    refine ⟨rfl, ?_, rfl, rfl, hpassed⟩
    change Function.update s.attempts runId _ runId node = _
    rw [Function.update_self, Function.update_self]

/-- The result of a delta. -/
theorem runs_update {delta : Raises SupportState} {result : Except PyError NodeResult}
    (hruns : Program.Runs (Performs env i) s
      (do return .update (← (Program.done delta : Flow SupportState))) result s') :
    result = delta.map .update ∧ s' = s := by
  cases delta with
  | ok state => exact Program.runs_done_iff.mp hruns
  | error e => exact Program.runs_done_iff.mp hruns

/-! ## Tasks -/

/-- The attempts of one node: at most two, and one without the retry policy. -/
structure Tasked (w : String) (node : Node) (s s' : Shared World Id) (tickets : ℕ) : Prop where
  checkpoints : s'.checkpoints = s.checkpoints
  passed : ∃ count, count ≤ (if node.retries then 2 else 1) ∧
    Passed w s s' (Pi.single node count) 0 tickets

variable {node : Node} {state : SupportState} {runId : String} {result : Except PyError NodeResult}

/-- An attempt of a node with the retry policy. -/
theorem runs_attempt {delta : ℕ → Except PyError call.Answer → Raises SupportState}
    (hticket : ∀ answer, call.tickets answer = 0) (hanswers : env.Answers I call A)
    (hworld : I s.world)
    (hruns : Program.Runs (Performs env i) s (do
      let attempt ← invoke (.nextAttempt runId node)
      let answer ← ask w call
      return .update (← .done (delta attempt answer))) result s') :
    ∃ answer, A answer ∧ I s'.world ∧
      result = (delta (s.attempts runId node + 1) answer).map .update ∧
      s'.attempts runId node = s.attempts runId node + 1 ∧ s'.checkpoints = s.checkpoints ∧
      Passed w s s' 0 0 0 := by
  rcases Program.runs_bind_iff.mp hruns with ⟨attempt, s₁, hnext, hruns⟩ | ⟨e, hnext, -⟩
  · obtain ⟨hattempt, hattempts₁, hworld₁, hcheckpoints₁, hpassed₁⟩ :=
      runs_nextAttempt (w := w) hnext
    obtain rfl := Except.ok.inj hattempt
    rcases Program.runs_bind_iff.mp hruns with ⟨answer, s₂, hask, hruns⟩ | ⟨e, hask, -⟩
    · obtain ⟨_, hanswer, hA, hI, hcheckpoints₂, hattempts₂, hpassed₂⟩ :=
        runs_ask hanswers (by rwa [hworld₁]) hask
      obtain rfl := Except.ok.inj hanswer
      obtain ⟨rfl, rfl⟩ := runs_update hruns
      refine ⟨answer, hA, hI, rfl, ?_, ?_, ?_⟩
      · rw [hattempts₂, hattempts₁]
      · rw [hcheckpoints₂, hcheckpoints₁]
      · rw [hticket] at hpassed₂
        exact hpassed₁.trans hpassed₂
    · obtain ⟨_, h, -⟩ := runs_ask (w := w) hanswers (by rwa [hworld₁]) hask
      cases h
  · cases (runs_nextAttempt (w := w) hnext).1

variable [ValidationTexts] {resume : Option ResumeDecision}

/-- **A node with the retry policy** ends as its delta makes of its last answer. A transient error
ends it on a second attempt only. -/
theorem runs_runTask_retried (runId : String) (call : Dependency)
    {A : Except PyError call.Answer → Prop}
    (delta : ℕ → Except PyError call.Answer → Raises SupportState) (hretries : node.retries = true)
    (hnode : runNode w resume node state = (do
      let attempt ← invoke (.nextAttempt runId node)
      let answer ← ask w call
      return .update (← .done (delta attempt answer))))
    (hticket : ∀ answer, call.tickets answer = 0) (hanswers : env.Answers I call A)
    (hworld : I s.world)
    (hruns : Program.Runs (Performs env i) s (runTask w resume node state) result s') :
    ∃ attempt answer, A answer ∧ I s'.world ∧ result = (delta attempt answer).map .update ∧
      (∀ e, delta attempt answer = .error e → isRetried e = true → 2 ≤ attempt) ∧
      Tasked w node s s' 0 := by
  have hlimit : (if node.retries then 2 else 1) = 2 := if_pos hretries
  unfold runTask at hruns
  rw [if_pos hretries] at hruns
  rcases Program.runs_bind_iff.mp hruns with ⟨_, s₁, htask, hruns⟩ | ⟨e, htask, -⟩
  swap
  · cases (runs_task htask).1
  obtain ⟨-, hworld₁, hcheckpoints₁, hattempts₁, hpassed₁⟩ := runs_task htask
  rw [hnode] at hruns
  rcases Program.runs_bind_iff.mp hruns with ⟨first, s₂, hfirst, hruns⟩ | ⟨e, hfirst, -⟩
  swap
  · obtain ⟨inner, h, -⟩ := Program.runs_caught_iff.mp hfirst
    cases h
  obtain ⟨inner, hinner, hfirst⟩ := Program.runs_caught_iff.mp hfirst
  obtain rfl := Except.ok.inj hinner
  obtain ⟨answer, hA, hI, hdelta, hattempts₂, hcheckpoints₂, hpassed₂⟩ :=
    runs_attempt hticket hanswers (by rwa [hworld₁]) hfirst
  have hcheckpoints : s₂.checkpoints = s.checkpoints := hcheckpoints₂.trans hcheckpoints₁
  have hpassed : Passed w s s₂ (Pi.single node 1) 0 0 := hpassed₁.trans hpassed₂
  -- the first attempt is the last one, unless it raised a transient error
  have hlast : ∀ {last : Except PyError NodeResult}, last = first → s' = s₂ →
      (∀ e, first = .error e → ¬ isRetried e = true) →
      ∃ attempt answer, A answer ∧ I s'.world ∧ last = (delta attempt answer).map .update ∧
        (∀ e, delta attempt answer = .error e → isRetried e = true → 2 ≤ attempt) ∧
        Tasked w node s s' 0 := by
    rintro _ rfl rfl hunretried
    refine ⟨_, answer, hA, hI, hdelta, fun e he hretried => ?_, hcheckpoints, 1, by omega, hpassed⟩
    rw [he] at hdelta
    exact absurd hretried (hunretried e hdelta)
  cases first with
  | ok r =>
    obtain ⟨rfl, rfl⟩ := Program.runs_done_iff.mp hruns
    exact hlast rfl rfl nofun
  | error e =>
    dsimp only at hruns
    by_cases hretried : isRetried e = true
    · rw [if_pos hretried] at hruns
      rcases Program.runs_bind_iff.mp hruns with ⟨_, s₃, htask, hruns⟩ | ⟨e, htask, -⟩
      swap
      · cases (runs_task htask).1
      obtain ⟨-, hworld₃, hcheckpoints₃, hattempts₃, hpassed₃⟩ := runs_task htask
      rw [hnode] at hruns
      obtain ⟨answer', hA', hI', hdelta', -, hcheckpoints₄, hpassed₄⟩ :=
        runs_attempt hticket hanswers (by rwa [hworld₃]) hruns
      refine ⟨_, answer', hA', hI', hdelta', fun _ _ _ => ?_, ?_, 2, by omega, ?_⟩
      · rw [hattempts₃, hattempts₂]
        omega
      · rw [hcheckpoints₄, hcheckpoints₃, hcheckpoints]
      · have htwo := hpassed.trans (hpassed₃.trans hpassed₄)
        rw [zero_add, add_zero, add_zero, add_zero, ← Pi.single_add] at htwo
        exact htwo
    · rw [if_neg hretried] at hruns
      obtain ⟨rfl, rfl⟩ := Program.runs_done_iff.mp hruns
      refine hlast rfl rfl ?_
      rintro _ ⟨⟩
      exact hretried

/-- **A node without the retry policy** ends as its delta makes of its one answer. -/
theorem runs_runTask_once (call : Dependency) {A : Except PyError call.Answer → Prop}
    (delta : Except PyError call.Answer → Raises SupportState) (hretries : node.retries = false)
    (hnode : runNode w resume node state = (do
      let answer ← ask w call
      return .update (← .done (delta answer))))
    (hanswers : env.Answers I call A) (hworld : I s.world)
    (hruns : Program.Runs (Performs env i) s (runTask w resume node state) result s') :
    ∃ answer, A answer ∧ I s'.world ∧ result = (delta answer).map .update ∧
      Tasked w node s s' (call.tickets answer) := by
  unfold runTask at hruns
  rw [hretries] at hruns
  rcases Program.runs_bind_iff.mp hruns with ⟨_, s₁, htask, hruns⟩ | ⟨e, htask, -⟩
  swap
  · cases (runs_task htask).1
  obtain ⟨-, hworld₁, hcheckpoints₁, -, hpassed₁⟩ := runs_task htask
  rw [hnode] at hruns
  rcases Program.runs_bind_iff.mp hruns with ⟨answer, s₂, hask, hruns⟩ | ⟨e, hask, -⟩
  · obtain ⟨_, hanswer, hA, hI, hcheckpoints₂, -, hpassed₂⟩ :=
      runs_ask hanswers (by rwa [hworld₁]) hask
    obtain rfl := Except.ok.inj hanswer
    obtain ⟨rfl, rfl⟩ := runs_update hruns
    refine ⟨answer, hA, hI, rfl, hcheckpoints₂.trans hcheckpoints₁, 1, ?_, ?_⟩
    · rw [hretries]
      exact le_rfl
    · have hpassed := hpassed₁.trans hpassed₂
      rwa [add_zero, add_zero, zero_add] at hpassed
  · obtain ⟨_, h, -⟩ := runs_ask (w := w) hanswers (by rwa [hworld₁]) hask
    cases h

/-- A node that calls nothing, and raises nothing that is tried again. -/
theorem runs_runTask_done {answer : Except PyError NodeResult}
    (hnode : runNode w resume node state = .done answer)
    (hretried : ∀ e, answer = .error e → ¬ isRetried e = true)
    (hruns : Program.Runs (Performs env i) s (runTask w resume node state) result s') :
    result = answer ∧ s'.world = s.world ∧ Tasked w node s s' 0 := by
  unfold runTask at hruns
  have hone : ∀ {s₁ : Shared World Id}, s₁.checkpoints = s.checkpoints →
      Passed w s s₁ (Pi.single node 1) 0 0 → Tasked w node s s₁ 0 :=
    fun hcheckpoints hpassed => ⟨hcheckpoints, 1, by split <;> omega, hpassed⟩
  cases hmore : (if node.retries then maxNodeAttempts - 1 else 0) with
  | zero =>
    rw [hmore] at hruns
    rcases Program.runs_bind_iff.mp hruns with ⟨_, s₁, htask, hruns⟩ | ⟨e, htask, -⟩
    · obtain ⟨-, hworld₁, hcheckpoints₁, -, hpassed₁⟩ := runs_task htask
      rw [hnode] at hruns
      obtain ⟨rfl, rfl⟩ := Program.runs_done_iff.mp hruns
      exact ⟨rfl, hworld₁, hone hcheckpoints₁ hpassed₁⟩
    · cases (runs_task htask).1
  | succ more =>
    rw [hmore] at hruns
    rcases Program.runs_bind_iff.mp hruns with ⟨_, s₁, htask, hruns⟩ | ⟨e, htask, -⟩
    · obtain ⟨-, hworld₁, hcheckpoints₁, -, hpassed₁⟩ := runs_task htask
      rw [hnode] at hruns
      cases answer with
      | ok r =>
        obtain ⟨rfl, rfl⟩ := Program.runs_done_iff.mp hruns
        exact ⟨rfl, hworld₁, hone hcheckpoints₁ hpassed₁⟩
      | error e =>
        change Program.Runs _ _ (if isRetried e then tryNode w resume node state more
          else .done (.error e)) _ _ at hruns
        rw [if_neg (hretried e rfl)] at hruns
        obtain ⟨rfl, rfl⟩ := Program.runs_done_iff.mp hruns
        exact ⟨rfl, hworld₁, hone hcheckpoints₁ hpassed₁⟩
    · cases (runs_task htask).1

/-! ## One step of the graph -/

omit [ValidationTexts] in
theorem runs_put {completed : Option Node} {checkpoint : Checkpoint}
    {answer : Except PyError Unit}
    (hruns : Program.Runs (Performs env i) s (invoke (.put w completed checkpoint)) answer s') :
    answer = .ok () ∧ s' = s.stored i w completed checkpoint := by
  cases Program.runs_perform_iff.mp hruns with
  | put => exact ⟨rfl, rfl⟩

omit [ValidationTexts] in
theorem passed_stored (i : Id) (w : String) (s : Shared World Id) (completed : Option Node)
    (checkpoint : Checkpoint) :
    Passed w s (s.stored i w completed checkpoint) 0
      (completed.elim 0 fun node => Pi.single node 1) 0 :=
  ⟨_, rfl, tally_put i w completed checkpoint (.ok ())⟩

/-- One step of a run of the graph: its node raised, interrupted the run, or came to an update with
which the run goes on. -/
theorem runs_runGraph_succ {steps : ℕ} {final : Except PyError Bool}
    (hruns : Program.Runs (Performs env i) s (runGraph w resume (steps + 1) node state) final s') :
    (∃ e, Program.Runs (Performs env i) s (runTask w resume node state) (.error e) s' ∧
      final = .error e) ∨
    ∃ result between, Program.Runs (Performs env i) s (runTask w resume node state) (.ok result)
      between ∧
      match result with
      | .interrupt => final = .ok true ∧
        s' = between.stored i w none ⟨state, some node, true⟩
      | .update state' =>
        (∃ e, afterNode state' node = .error e ∧ final = .error e ∧ s' = between) ∨
        ∃ next, afterNode state' node = .ok next ∧
          Program.Runs (Performs env i) (between.stored i w (some node) ⟨state', next, false⟩)
            (next.elim (return false) fun next => runGraph w resume steps next state') final
              s' := by
  rcases Program.runs_bind_iff.mp hruns with ⟨result, between, htask, hruns⟩ | ⟨e, htask, rfl⟩
  · refine Or.inr ⟨result, between, htask, ?_⟩
    cases result with
    | interrupt =>
      rcases Program.runs_bind_iff.mp hruns with ⟨_, _, hput, hruns⟩ | ⟨e, hput, -⟩
      · obtain ⟨-, rfl⟩ := runs_put hput
        exact Program.runs_done_iff.mp hruns
      · cases (runs_put hput).1
    | update state' =>
      dsimp only at hruns ⊢
      cases hnext : afterNode state' node with
      | error e =>
        rw [hnext, Program.done_error_bind] at hruns
        obtain ⟨rfl, rfl⟩ := Program.runs_done_iff.mp hruns
        exact Or.inl ⟨e, rfl, rfl, rfl⟩
      | ok next =>
        rw [hnext, Program.done_ok_bind] at hruns
        rcases Program.runs_bind_iff.mp hruns with ⟨_, _, hput, hruns⟩ | ⟨e, hput, -⟩
        · obtain ⟨-, rfl⟩ := runs_put hput
          refine Or.inr ⟨next, rfl, ?_⟩
          cases next with
          | none => exact hruns
          | some next => exact hruns
        · cases (runs_put hput).1
  · exact Or.inl ⟨e, htask, rfl⟩

end ObservabilityLab.Workflow
