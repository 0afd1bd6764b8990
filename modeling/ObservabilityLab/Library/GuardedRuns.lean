import Mathlib.Data.List.Basic
import Mathlib.Data.List.Induction

/-!
# Guarded runs

A machine whose steps are possible in some states only. A part of its state may be a machine of its
own: every step of the whole is a step of the part, or leaves the part as it is.

## Main definitions

* `run`: steps one after the other, where all of them are possible
* `projection`: the steps of a part that a run makes
* `Projects`: every allowed step of the whole is a step of the part, or leaves the part as it is

## Main results

* `run_append`, `run_cons`, `run_concat`: a run in two parts
* `invariant_run`: what every step of a run keeps, the run keeps
* `Projects.run`: a run of the whole is a run of the part
* `mem_projection`, `countP_le_projection`: the steps of the part, and how many there are
-/

namespace GuardedRuns

variable {σ τ α β : Type} {step : σ → α → Option σ} {start last : σ} {actions : List α}

/-- Steps one after the other. -/
def run (step : σ → α → Option σ) (start : σ) (actions : List α) : Option σ :=
  actions.foldlM step start

theorem run_append {earlier later : List α} :
    run step start (earlier ++ later) = some last ↔
      ∃ s, run step start earlier = some s ∧ run step s later = some last := by
  rw [run, List.foldlM_append, Option.bind_eq_bind, Option.bind_eq_some_iff]
  rfl

theorem run_cons {a : α} :
    run step start (a :: actions) = some last ↔
      ∃ s, step start a = some s ∧ run step s actions = some last := by
  rw [run, List.foldlM_cons, Option.bind_eq_bind, Option.bind_eq_some_iff]
  rfl

theorem run_concat {a : α} :
    run step start (actions ++ [a]) = some last ↔
      ∃ s, run step start actions = some s ∧ step s a = some last := by
  rw [run_append]
  simp only [run, List.foldlM_cons, List.foldlM_nil, bind_pure]

/-- **What every step of a run keeps**, the run keeps. -/
theorem invariant_run (I : σ → Prop)
    (hkeeps : ∀ s a s', a ∈ actions → step s a = some s' → I s → I s') (hstart : I start)
    (hrun : run step start actions = some last) : I last := by
  induction actions generalizing start with
  | nil =>
    rw [← Option.some.inj hrun]
    exact hstart
  | cons a actions ih =>
    obtain ⟨s, hstep, hrest⟩ := run_cons.mp hrun
    refine ih (fun s a s' hmem => hkeeps s a s' (List.mem_cons_of_mem _ hmem)) ?_ hrest
    exact hkeeps start a s List.mem_cons_self hstep hstart

/-! ## A part of the state -/

/-- The steps of a part that a run makes. -/
def projection (step : σ → α → Option σ) (act : σ → α → Option β) : σ → List α → List β
  | _, [] => []
  | s, a :: actions =>
    (act s a).toList ++
      match step s a with
      | some s' => projection step act s' actions
      | none => []

theorem projection_cons {act : σ → α → Option β} {a : α} {s : σ}
    (hstep : step start a = some s) :
    projection step act start (a :: actions) =
      (act start a).toList ++ projection step act s actions := by
  rw [projection, hstep]

/-- **Every allowed step of the whole is a step of the part**, or leaves the part as it is. -/
def Projects (allowed : α → Prop) (step : σ → α → Option σ) (part : τ → β → Option τ)
    (view : σ → Option τ) (act : σ → α → Option β) : Prop :=
  ∀ s a s' t, allowed a → step s a = some s' → view s = some t →
    act s a = none ∧ view s' = some t ∨
    ∃ b t', act s a = some b ∧ part t b = some t' ∧ view s' = some t'

variable {part : τ → β → Option τ} {view : σ → Option τ} {act : σ → α → Option β} {t : τ}
  {allowed : α → Prop}

/-- **A run of the whole is a run of the part.** -/
theorem Projects.run (h : Projects allowed step part view act)
    (hallowed : ∀ a ∈ actions, allowed a) (hrun : run step start actions = some last)
    (hview : view start = some t) :
    ∃ t', view last = some t' ∧
      GuardedRuns.run part t (projection step act start actions) = some t' := by
  induction actions generalizing start t with
  | nil =>
    rw [← Option.some.inj hrun]
    exact ⟨t, hview, rfl⟩
  | cons a actions ih =>
    obtain ⟨s, hstep, hrest⟩ := run_cons.mp hrun
    rw [projection_cons hstep]
    have hlater : ∀ a ∈ actions, allowed a := fun a hmem => hallowed a (List.mem_cons_of_mem _ hmem)
    rcases h start a s t (hallowed a List.mem_cons_self) hstep hview with
      ⟨hact, hview'⟩ | ⟨b, t₁, hact, hpart, hview'⟩
    · rw [hact]
      exact ih hlater hrest hview'
    · obtain ⟨t', hlast, hruns⟩ := ih hlater hrest hview'
      rw [hact]
      exact ⟨t', hlast, run_cons.mpr ⟨t₁, hpart, hruns⟩⟩

/-- A step of the part is made by a step of the whole. -/
theorem mem_projection {b : β} (hrun : GuardedRuns.run step start actions = some last)
    (hmem : b ∈ projection step act start actions) :
    ∃ earlier a later s s', actions = earlier ++ a :: later ∧
      GuardedRuns.run step start earlier = some s ∧ step s a = some s' ∧
      GuardedRuns.run step s' later = some last ∧ act s a = some b := by
  induction actions generalizing start with
  | nil => cases hmem
  | cons a actions ih =>
    obtain ⟨s, hstep, hrest⟩ := run_cons.mp hrun
    rw [projection_cons hstep, List.mem_append, Option.mem_toList] at hmem
    rcases hmem with hfirst | hlater
    · exact ⟨[], a, actions, start, s, rfl, rfl, hstep, hrest, hfirst⟩
    · obtain ⟨earlier, a', later, s₁, s', rfl, hearlier, hmade, hlast, hact⟩ := ih hrest hlater
      exact ⟨a :: earlier, a', later, s₁, s', rfl, run_cons.mpr ⟨s, hstep, hearlier⟩, hmade, hlast,
        hact⟩

/-- Where every step of one kind is a step of the part of another kind, the run makes at most as
many of the one as of the other. -/
theorem countP_le_projection {p : α → Bool} {q : β → Bool} (I : σ → Prop)
    (hkeeps : ∀ s a s', step s a = some s' → I s → I s')
    (hact : ∀ s a s', step s a = some s' → I s → p a = true → ∃ b, act s a = some b ∧ q b = true)
    (hstart : I start) (hrun : GuardedRuns.run step start actions = some last) :
    actions.countP p ≤ (projection step act start actions).countP q := by
  induction actions generalizing start with
  | nil => exact Nat.zero_le _
  | cons a actions ih =>
    obtain ⟨s, hstep, hrest⟩ := run_cons.mp hrun
    have hle := ih (hkeeps start a s hstep hstart) hrest
    rw [projection_cons hstep, List.countP_append]
    by_cases hp : p a = true
    · obtain ⟨b, hb, hq⟩ := hact start a s hstep hstart hp
      rw [List.countP_cons_of_pos hp, hb, Option.toList_some, List.countP_singleton, if_pos hq]
      omega
    · rw [List.countP_cons_of_neg hp]
      omega

end GuardedRuns
