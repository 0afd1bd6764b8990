import Mathlib.Data.List.Basic
import Mathlib.Control.Lawful

/-!
# Effectful loops

Computations on a state that may fail, and the loops over lists that run them.

## Main results

* `stateT_bind_eq_ok`, `stateT_lift_eq_ok`: what a computation that succeeds has done
* `foldlM_eq_mapM`: a loop that accumulates what its runs return is the runs, and then the fold
-/

namespace Effects

section State

variable {ε σ α β : Type}

/-- A sequence of two computations succeeds through the result of the first. -/
theorem stateT_bind_eq_ok {x : StateT σ (Except ε) α} {f : α → StateT σ (Except ε) β} {s : σ}
    {r : β × σ} : (x >>= f) s = .ok r ↔ ∃ a s', x s = .ok (a, s') ∧ f a s' = .ok r := by
  change ((x s : Except ε (α × σ)) >>= fun p => f p.1 p.2) = .ok r ↔ _
  cases hx : x s with
  | error e => simp [bind, Except.bind]
  | ok p => simp [bind, Except.bind, Prod.ext_iff]

/-- A computation without effect on the state. -/
theorem stateT_lift_eq_ok {x : Except ε α} {s : σ} {r : α × σ} :
    (liftM x : StateT σ (Except ε) α) s = .ok r ↔ x = .ok r.1 ∧ s = r.2 := by
  change (x >>= fun a => Except.ok (a, s)) = .ok r ↔ _
  cases x with
  | error e => simp [bind, Except.bind]
  | ok a => simp [bind, Except.bind, Prod.ext_iff]

/-- A sequence fails with its first computation. -/
theorem stateT_bind_eq_error {x : StateT σ (Except ε) α} {f : α → StateT σ (Except ε) β} {s : σ}
    {e : ε} (h : x s = .error e) : (x >>= f) s = .error e := by
  change ((x s : Except ε (α × σ)) >>= fun p => f p.1 p.2) = .error e
  rw [h]
  rfl

/-- A sequence goes on with what its first computation returned. -/
theorem stateT_bind_of_ok {x : StateT σ (Except ε) α} {f : α → StateT σ (Except ε) β} {s s' : σ}
    {a : α} (h : x s = .ok (a, s')) : (x >>= f) s = f a s' := by
  change ((x s : Except ε (α × σ)) >>= fun p => f p.1 p.2) = f a s'
  rw [h]
  rfl

/-- A computation without effect on the state fails as it does alone. -/
theorem stateT_lift_eq_error {x : Except ε α} {s : σ} {e : ε} (h : x = .error e) :
    (liftM x : StateT σ (Except ε) α) s = .error e := by
  rw [h]
  rfl

theorem stateT_lift_of_ok {x : Except ε α} {s : σ} {a : α} (h : x = .ok a) :
    (liftM x : StateT σ (Except ε) α) s = .ok (a, s) := by
  rw [h]
  rfl

end State

section Loops

variable {m : Type → Type} [Monad m] [LawfulMonad m] {σ α β : Type}

/-- **A loop that accumulates what its runs return** is the runs, and then the fold of their
results. -/
theorem foldlM_eq_mapM (f : σ → β → σ) (run : α → m β) (l : List α) (s : σ) :
    l.foldlM (fun s a => f s <$> run a) s = (fun rs => rs.foldl f s) <$> l.mapM run := by
  induction l generalizing s with
  | nil => simp
  | cons a l ih =>
    rw [List.foldlM_cons, List.mapM_cons, bind_map_left, map_bind]
    refine bind_congr fun b => ?_
    rw [ih, map_bind, ← bind_pure_comp]
    exact bind_congr fun rs => by rw [map_pure, List.foldl_cons]

end Loops

end Effects
