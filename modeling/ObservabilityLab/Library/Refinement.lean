import Mathlib.Data.List.Basic
import Mathlib.Data.List.Induction

/-!
# Runs and refinement

A machine takes the labels of a run one after another, and a condition may hold at each of them, in
the state in which the machine takes it. Two machines that take the same labels stay related along
allowed labels, when one allowed step from related states leads to related states.

## Main definitions

* `Along`: a condition on every step of a run
* `Simulates`: what one allowed step preserves

## Main results

* `along_concat`: the condition on a run with one more step
* `Simulates.foldl`: related states stay related along an allowed run
-/

namespace Refinement

variable {σ τ β : Type}

/-- A condition holds of every label of a run, in the state in which the machine takes it. -/
def Along (step : σ → β → σ) (start : σ) (condition : σ → β → Prop) (labels : List β) : Prop :=
  ∀ earlier label later, labels = earlier ++ label :: later →
    condition (earlier.foldl step start) label

variable {step : σ → β → σ} {start : σ} {condition : σ → β → Prop} {labels : List β} {label : β}

theorem Along.of_append {later : List β} (h : Along step start condition (labels ++ later)) :
    Along step start condition labels := by
  rintro earlier label rest rfl
  exact h earlier label (rest ++ later) (by rw [List.append_assoc, List.cons_append])

theorem along_concat :
    Along step start condition (labels ++ [label]) ↔
      Along step start condition labels ∧ condition (labels.foldl step start) label := by
  constructor
  · intro h
    exact ⟨h.of_append, h labels label [] rfl⟩
  · rintro ⟨hlabels, hlast⟩ earlier next later hsplit
    rcases List.eq_nil_or_concat later with rfl | ⟨later, last, rfl⟩
    · obtain ⟨rfl, hnext⟩ := List.append_inj' hsplit rfl
      rw [← List.head_eq_of_cons_eq hnext]
      exact hlast
    · rw [List.concat_eq_append, ← List.cons_append, ← List.append_assoc] at hsplit
      exact hlabels earlier next later (List.append_inj' hsplit rfl).1

/-- A step with an allowed label leads from related states to related states. -/
def Simulates (R : σ → τ → Prop) (allowed : β → Prop) (step : σ → β → σ) (step' : τ → β → τ) :
    Prop :=
  ∀ s t label, R s t → allowed label → R (step s label) (step' t label)

/-- **Related states stay related along an allowed run.** -/
theorem Simulates.foldl {R : σ → τ → Prop} {allowed : β → Prop} {step' : τ → β → τ} {start' : τ}
    (h : Simulates R allowed step step') (hstart : R start start')
    (hallowed : ∀ label ∈ labels, allowed label) :
    R (labels.foldl step start) (labels.foldl step' start') := by
  induction labels generalizing start start' with
  | nil => exact hstart
  | cons label labels ih =>
    exact ih (h _ _ label hstart (hallowed label List.mem_cons_self)) fun next hmem =>
      hallowed next (List.mem_cons_of_mem _ hmem)

end Refinement
