import ObservabilityLab.Library.Raising

/-!
# Computations along a map of states

A computation on larger states follows one on smaller states when it returns and raises the same,
and its states are mapped to those of the smaller one. A history that is kept next to a state is
forgotten in this way.

## Main definitions

* `mapState`: a result with its state mapped
* `Mirrors`: a computation follows another one along a map

## Main results

* `mirrors_pure`, `mirrors_throw`, `mirrors_ofExcept`, `mirrors_modify`, `mirrors_set`,
  `Mirrors.bind`, `mirrors_ite`, `mirrors_get_bind`, `Mirrors.attempt`, `Mirrors.zoom`,
  `mirrors_forM`: the rules, one for each way to build a computation
* `Mirrors.finalState`: the final state of a run is mapped to that of the other run
-/

namespace Raising

variable {ε σ τ α β : Type}

/-- A result with its state mapped. -/
def mapState (view : τ → σ) : EStateM.Result ε τ α → EStateM.Result ε σ α
  | .ok a t => .ok a (view t)
  | .error e t => .error e (view t)

/-- From every state, the computation does what the other one does from the mapped state. -/
def Mirrors (view : τ → σ) (y : EStateM ε τ α) (x : EStateM ε σ α) : Prop :=
  ∀ t, mapState view (y.run t) = x.run (view t)

variable {view : τ → σ} {y : EStateM ε τ α} {x : EStateM ε σ α}

theorem mirrors_pure (a : α) : Mirrors view (pure a : EStateM ε τ α) (pure a) := fun _ => rfl

theorem mirrors_throw (e : ε) : Mirrors view (throw e : EStateM ε τ α) (throw e) := fun _ => rfl

theorem mirrors_ofExcept (result : Except ε α) :
    Mirrors view (MonadExcept.ofExcept result : EStateM ε τ α) (MonadExcept.ofExcept result) := by
  cases result with
  | ok a => exact mirrors_pure a
  | error e => exact mirrors_throw e

theorem mirrors_modify {f : τ → τ} {g : σ → σ} (h : ∀ t, view (f t) = g (view t)) :
    Mirrors view (modify f : EStateM ε τ PUnit) (modify g) := by
  intro t
  change EStateM.Result.ok _ (view (f t)) = _
  rw [h]
  rfl

theorem mirrors_set {t : τ} {s : σ} (h : view t = s) :
    Mirrors view (set t : EStateM ε τ PUnit) (set s) := by
  intro before
  change EStateM.Result.ok _ (view t) = _
  rw [h]
  rfl

theorem Mirrors.bind {g : α → EStateM ε τ β} {f : α → EStateM ε σ β} (h : Mirrors view y x)
    (hrest : ∀ a, Mirrors view (g a) (f a)) : Mirrors view (y >>= g) (x >>= f) := by
  intro t
  have hfirst := h t
  rw [EStateM.run_bind, EStateM.run_bind, ← hfirst]
  cases y.run t with
  | ok a after => exact hrest a after
  | error e after => rfl

theorem mirrors_ite {y' : EStateM ε τ α} {x' : EStateM ε σ α} {c : Prop} [Decidable c]
    (h : Mirrors view y x) (h' : Mirrors view y' x') :
    Mirrors view (if c then y else y') (if c then x else x') := by
  by_cases hc : c
  · rw [if_pos hc, if_pos hc]
    exact h
  · rw [if_neg hc, if_neg hc]
    exact h'

/-- A computation that goes on with the state. -/
theorem mirrors_get_bind {g : τ → EStateM ε τ β} {f : σ → EStateM ε σ β}
    (h : ∀ t, Mirrors view (g t) (f (view t))) : Mirrors view (get >>= g) (get >>= f) :=
  fun t => h t t

theorem Mirrors.attempt (h : Mirrors view y x) : Mirrors view (attempt y) (attempt x) := by
  intro t
  rw [run_attempt, run_attempt, ← h t]
  cases y.run t <;> rfl

/-- A computation on a part of the larger states, whose map is that of their parts. -/
theorem Mirrors.zoom {τ' σ' : Type} {outer : τ' → σ'} {read' : τ' → τ} {put' : τ → τ' → τ'}
    {read : σ' → σ} {put : σ → σ' → σ'} (h : Mirrors view y x)
    (hread : ∀ t, view (read' t) = read (outer t))
    (hput : ∀ part t, outer (put' part t) = put (view part) (outer t)) :
    Mirrors outer (zoom read' put' y) (zoom read put x) := by
  intro t
  have hpart := h (read' t)
  rw [run_zoom, run_zoom, ← hread t, ← hpart]
  cases y.run (read' t) with
  | ok a part => exact congrArg (EStateM.Result.ok a) (hput part t)
  | error e part => exact congrArg (EStateM.Result.error e) (hput part t)

theorem mirrors_forM {g : β → EStateM ε τ PUnit} {f : β → EStateM ε σ PUnit} {l : List β}
    (h : ∀ b ∈ l, Mirrors view (g b) (f b)) : Mirrors view (forM l g) (forM l f) := by
  induction l with
  | nil => exact mirrors_pure _
  | cons b l ih =>
    rw [List.forM_cons, List.forM_cons]
    refine (h b List.mem_cons_self).bind fun _ => ih ?_
    exact fun other hother => h other (List.mem_cons_of_mem _ hother)

/-- **The final state of a run is mapped to that of the other run.** -/
theorem Mirrors.finalState (h : Mirrors view y x) (t : τ) :
    view (finalState (y.run t)) = finalState (x.run (view t)) := by
  rw [← h t]
  cases y.run t <;> rfl

end Raising
