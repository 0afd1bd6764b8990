import ObservabilityLab.Library.Interleaving
import ObservabilityLab.Library.Raising

/-!
# Computations in atomic steps

A computation that awaits is a sequence of atomic steps on a shared state. Between two of its steps
others may take theirs; alone, its steps run one after the other.

## Main definitions

* `Stepwise`: a finished computation, or an atomic step and the rest
* `Stepwise.perform`: one atomic step
* `Stepwise.advance`: the next step of a computation
* `Stepwise.solo`: the computation that runs alone

## Main results

* `Stepwise.run_eq_map`: computations that step as the stages of a simpler system reach, in every
  schedule, the computations of the stages it reaches
-/

/-- A computation in atomic steps on a shared state. -/
inductive Stepwise (ε Shared α : Type) where
  | done (result : Except ε α)
  | step (effect : Shared → Shared) (rest : Shared → Stepwise ε Shared α)

namespace Stepwise

variable {ε Shared α β : Type}

protected def bind : Stepwise ε Shared α → (α → Stepwise ε Shared β) → Stepwise ε Shared β
  | done (.ok a), f => f a
  | done (.error e), _ => done (.error e)
  | step effect rest, f => step effect fun s => (rest s).bind f

protected def tryCatch :
    Stepwise ε Shared α → (ε → Stepwise ε Shared α) → Stepwise ε Shared α
  | done (.ok a), _ => done (.ok a)
  | done (.error e), handle => handle e
  | step effect rest, handle => step effect fun s => (rest s).tryCatch handle

instance : Monad (Stepwise ε Shared) where
  pure a := done (.ok a)
  bind := Stepwise.bind

instance : MonadExcept ε (Stepwise ε Shared) where
  throw e := done (.error e)
  tryCatch := Stepwise.tryCatch

protected theorem bind_assoc {γ : Type} (x : Stepwise ε Shared α) (f : α → Stepwise ε Shared β)
    (g : β → Stepwise ε Shared γ) : (x.bind f).bind g = x.bind fun a => (f a).bind g := by
  induction x with
  | done result =>
    cases result with
    | ok a => rfl
    | error e => rfl
  | step effect rest ih => exact congrArg (step effect) (funext ih)

protected theorem bind_pure (x : Stepwise ε Shared α) : x.bind (fun a => done (.ok a)) = x := by
  induction x with
  | done result =>
    cases result with
    | ok a => rfl
    | error e => rfl
  | step effect rest ih => exact congrArg (step effect) (funext ih)

instance : LawfulMonad (Stepwise ε Shared) :=
  LawfulMonad.mk' _ (fun x => x.bind_pure) (fun _ _ => rfl) fun x f g => x.bind_assoc f g

/-- One atomic step: it reads the state and then changes it. -/
def perform (read : Shared → α) (effect : Shared → Shared) : Stepwise ε Shared α :=
  step effect fun s => done (.ok (read s))

@[simp] theorem pure_eq (a : α) : (pure a : Stepwise ε Shared α) = done (.ok a) := rfl

@[simp] theorem throw_eq (e : ε) : (throw e : Stepwise ε Shared α) = done (.error e) := rfl

@[simp] theorem done_ok_bind (a : α) (f : α → Stepwise ε Shared β) :
    (done (.ok a) : Stepwise ε Shared α) >>= f = f a := rfl

@[simp] theorem done_error_bind (e : ε) (f : α → Stepwise ε Shared β) :
    (done (.error e) : Stepwise ε Shared α) >>= f = done (.error e) := rfl

@[simp] theorem perform_bind (read : Shared → α) (effect : Shared → Shared)
    (f : α → Stepwise ε Shared β) :
    (perform read effect : Stepwise ε Shared α) >>= f = step effect fun s => f (read s) := rfl

/-- The next step of a computation. -/
def advance (s : Shared) : Stepwise ε Shared α → Shared × Stepwise ε Shared α
  | done result => (s, done result)
  | step effect rest => (effect s, rest s)

/-! ## Alone -/

/-- The computation that runs alone. -/
def solo : Stepwise ε Shared α → EStateM ε Shared α
  | done (.ok a) => pure a
  | done (.error e) => throw e
  | step effect rest => fun s => (rest s).solo (effect s)

/-! ## Interleaved -/

open Interleaving

variable {Id Stage : Type} [DecidableEq Id]

/-- **Computations that step as stages do**: whatever the schedule, the computations left are those
of the stages reached, on the same shared state. -/
theorem run_eq_map {stageStep : Id → Shared → Stage → Shared × Stage}
    {program : Id → Stage → Stepwise ε Shared α}
    (h : ∀ i s stage, (program i stage).advance s =
      ((stageStep i s stage).1, program i (stageStep i s stage).2))
    (p : Pool Id Shared Stage) (schedule : List Id) :
    Pool.run (fun _ s x => x.advance s) ⟨p.shared, fun i => program i (p.locals i)⟩ schedule =
      ⟨(p.run stageStep schedule).shared,
        fun i => program i ((p.run stageStep schedule).locals i)⟩ := by
  induction schedule using List.reverseRecOn with
  | nil => rfl
  | append_singleton schedule i ih =>
    rw [Pool.run_concat, Pool.run_concat, ih]
    simp only [Pool.step, h, Pool.mk.injEq, true_and]
    funext j
    by_cases hj : j = i
    · subst hj
      rw [Function.update_self, Function.update_self]
    · rw [Function.update_of_ne hj, Function.update_of_ne hj]

end Stepwise
