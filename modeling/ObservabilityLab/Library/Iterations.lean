import Mathlib.Data.List.Basic
import Mathlib.Logic.Function.Iterate

/-!
# Iterations

A loop is a turn that is made again and again. What some of its turns do is observed, in order.

## Main definitions

* `trace`: what the first turns of a loop are observed to do

## Main results

* `iterate_preserves`, `trace_preserves`: what every turn preserves holds after a run, with the
  number of its turns and with its trace
-/

namespace Iterations

variable {α β : Type} {f : α → α} {observe : α → Option β}

/-- **What every turn preserves holds after any number of turns.** -/
theorem iterate_preserves {I : ℕ → α → Prop} (hstep : ∀ n a, I n a → I (n + 1) (f a)) {a : α}
    (h : I 0 a) (n : ℕ) : I n (f^[n] a) := by
  induction n with
  | zero => exact h
  | succ n ih =>
    rw [Function.iterate_succ_apply']
    exact hstep n _ ih

/-- What the first turns of a loop are observed to do. -/
def trace (f : α → α) (observe : α → Option β) : ℕ → α → List β
  | 0, _ => []
  | n + 1, a => (observe a).toList ++ trace f observe n (f a)

theorem trace_succ (n : ℕ) (a : α) :
    trace f observe (n + 1) a = trace f observe n a ++ (observe (f^[n] a)).toList := by
  induction n generalizing a with
  | zero => simp [trace]
  | succ n ih => rw [trace, ih, trace, List.append_assoc, Function.iterate_succ_apply]

/-- **What every turn preserves together with the trace holds after a run.** -/
theorem trace_preserves {I : List β → α → Prop}
    (hstep : ∀ log a, I log a → I (log ++ (observe a).toList) (f a)) {a : α} (h : I [] a) (n : ℕ) :
    I (trace f observe n a) (f^[n] a) := by
  induction n with
  | zero => exact h
  | succ n ih =>
    rw [trace_succ, Function.iterate_succ_apply']
    exact hstep _ _ ih

end Iterations
