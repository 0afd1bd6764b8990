import Mathlib.Data.List.Induction
import Mathlib.Logic.Function.Basic
import Mathlib.Data.Nat.Notation

/-!
# Interleavings

Processes that share a state and take atomic steps in the order of a schedule. A step changes the
shared state and the local state of the process that takes it.

## Main definitions

* `Pool`: the shared state, and the local state of every process
* `Pool.step`, `Pool.run`: one step of one process, and the steps of a schedule
* `Pool.Before`: a condition that holds before every step of one process
* `Pool.Idle`, `Pool.EstablishedBy`: a process that changes nothing, and one whose step made a fact
  of the shared state true

## Main results

* `Pool.run_invariant`: what every step preserves holds after every schedule
* `Pool.run_relyInvariant`, `Pool.run_localInvariant`: the same for what each process knows of the
  shared state
* `Pool.before_concat_self`, `Pool.before_concat_of_ne`: the condition with one more step
* `Pool.exists_establishedBy`: what holds at the end and not at the start, some process established
-/

namespace Interleaving

variable {Id Shared Local : Type}

variable (Id Shared Local) in
/-- A shared state, and the local states of the processes. -/
structure Pool where
  shared : Shared
  locals : Id → Local

namespace Pool

variable [DecidableEq Id] (next : Id → Shared → Local → Shared × Local)

/-- One step of one process. -/
def step (p : Pool Id Shared Local) (i : Id) : Pool Id Shared Local where
  shared := (next i p.shared (p.locals i)).1
  locals := Function.update p.locals i (next i p.shared (p.locals i)).2

/-- The steps of a schedule, in order. -/
def run (p : Pool Id Shared Local) (schedule : List Id) : Pool Id Shared Local :=
  schedule.foldl (step next) p

/-- A condition holds before every step that process `i` takes in a schedule. -/
def Before (p : Pool Id Shared Local) (schedule : List Id) (i : Id)
    (condition : Pool Id Shared Local → Prop) : Prop :=
  ∀ earlier later, schedule = earlier ++ i :: later → condition (run next p earlier)

variable {next} {p : Pool Id Shared Local} {schedule : List Id} {i j : Id}

@[simp] theorem locals_step_self : (p.step next i).locals i = (next i p.shared (p.locals i)).2 :=
  Function.update_self ..

/-- A step leaves the local states of the other processes unchanged. -/
theorem locals_step_of_ne (h : i ≠ j) : (p.step next j).locals i = p.locals i :=
  Function.update_of_ne h ..

@[simp] theorem run_nil : p.run next [] = p := rfl

@[simp] theorem run_concat : p.run next (schedule ++ [i]) = (p.run next schedule).step next i := by
  rw [run, List.foldl_append]
  rfl

/-- **What every step preserves holds after every schedule.** -/
theorem run_invariant (invariant : Pool Id Shared Local → Prop) (hinit : invariant p)
    (hstep : ∀ p i, invariant p → invariant (step next p i)) : invariant (p.run next schedule) := by
  induction schedule using List.reverseRecOn with
  | nil => exact hinit
  | append_singleton schedule i ih =>
    rw [run_concat]
    exact hstep _ i ih

/-- **What a process knows of the shared state holds after every schedule**, when its own steps
keep it, and the steps of the others, with what these know, guarantee what it relies on. -/
theorem run_relyInvariant (invariant : Shared → Prop) (known : Id → Shared → Local → Prop)
    (keeps : Id → Shared → Shared → Prop)
    (hinit : invariant p.shared ∧ ∀ i, known i p.shared (p.locals i))
    (hshared : ∀ i s l, invariant s → known i s l → invariant (next i s l).1)
    (hown : ∀ i s l, invariant s → known i s l → known i (next i s l).1 (next i s l).2)
    (hkeeps : ∀ i j s l, i ≠ j → invariant s → known j s l → keeps i s (next j s l).1)
    (hother : ∀ i s s' l, keeps i s s' → known i s l → known i s' l) :
    invariant (p.run next schedule).shared ∧
      ∀ i, known i (p.run next schedule).shared ((p.run next schedule).locals i) := by
  refine run_invariant (fun p => invariant p.shared ∧ ∀ i, known i p.shared (p.locals i)) hinit ?_
  rintro p j ⟨hinv, hknown⟩
  refine ⟨hshared j _ _ hinv (hknown j), fun i => ?_⟩
  by_cases hij : i = j
  · subst hij
    rw [locals_step_self]
    exact hown i _ _ hinv (hknown i)
  · rw [locals_step_of_ne hij]
    exact hother i _ _ _ (hkeeps i j _ _ hij hinv (hknown j)) (hknown i)

/-- The same, when no step of the others disturbs what a process knows. -/
theorem run_localInvariant (invariant : Shared → Prop) (known : Id → Shared → Local → Prop)
    (hinit : invariant p.shared ∧ ∀ i, known i p.shared (p.locals i))
    (hshared : ∀ i s l, invariant s → known i s l → invariant (next i s l).1)
    (hown : ∀ i s l, invariant s → known i s l → known i (next i s l).1 (next i s l).2)
    (hother : ∀ i j s l l', i ≠ j → known i s l → known i (next j s l').1 l) :
    invariant (p.run next schedule).shared ∧
      ∀ i, known i (p.run next schedule).shared ((p.run next schedule).locals i) := by
  apply run_relyInvariant invariant known (fun i s s' => ∀ l, known i s l → known i s' l) hinit
    hshared hown
  · intro i j s l' hij _ _ l h
    exact hother i j s l l' hij h
  · intro i s s' l h hknown
    exact h l hknown

variable {condition : Pool Id Shared Local → Prop}

theorem before_nil : p.Before next [] i condition := by
  intro earlier later h
  exact absurd h.symm (List.append_ne_nil_of_right_ne_nil _ (List.cons_ne_nil _ _))

omit [DecidableEq Id] in
/-- A step of a schedule with one more step is the last one or an earlier one. -/
theorem eq_concat_iff {earlier later : List Id} :
    schedule ++ [j] = earlier ++ i :: later ↔
      (later = [] ∧ j = i ∧ earlier = schedule) ∨
        ∃ rest, later = rest ++ [j] ∧ schedule = earlier ++ i :: rest := by
  constructor
  · intro h
    rcases List.eq_nil_or_concat later with rfl | ⟨rest, k, rfl⟩
    · obtain ⟨hsame, hlast⟩ := List.append_inj' h rfl
      exact Or.inl ⟨rfl, List.singleton_inj.mp hlast, hsame.symm⟩
    · rw [List.concat_eq_append, ← List.cons_append, ← List.append_assoc] at h
      obtain ⟨hsame, hlast⟩ := List.append_inj' h rfl
      obtain rfl := List.singleton_inj.mp hlast
      exact Or.inr ⟨rest, List.concat_eq_append, hsame⟩
  · rintro (⟨rfl, rfl, rfl⟩ | ⟨rest, rfl, rfl⟩)
    · rfl
    · rw [List.append_assoc, List.cons_append]

/-- **One more step of the process**: the condition held so far and holds now. -/
theorem before_concat_self :
    p.Before next (schedule ++ [i]) i condition ↔
      p.Before next schedule i condition ∧ condition (p.run next schedule) := by
  constructor
  · intro h
    refine ⟨fun earlier later hsplit => ?_, h schedule [] rfl⟩
    exact h earlier (later ++ [i]) (eq_concat_iff.mpr (Or.inr ⟨later, rfl, hsplit⟩))
  · rintro ⟨hbefore, hnow⟩ earlier later hsplit
    rcases eq_concat_iff.mp hsplit with ⟨-, -, rfl⟩ | ⟨rest, -, hrest⟩
    · exact hnow
    · exact hbefore earlier rest hrest

/-- A step of another process does not count. -/
theorem before_concat_of_ne (h : i ≠ j) :
    p.Before next (schedule ++ [j]) i condition ↔ p.Before next schedule i condition := by
  constructor
  · intro hbefore earlier later hsplit
    exact hbefore earlier (later ++ [j]) (eq_concat_iff.mpr (Or.inr ⟨later, rfl, hsplit⟩))
  · intro hbefore earlier later hsplit
    rcases eq_concat_iff.mp hsplit with ⟨-, hj, -⟩ | ⟨rest, -, hrest⟩
    · exact absurd hj.symm h
    · exact hbefore earlier rest hrest

/-! ## Who established what -/

variable {fact : Shared → Prop}

/-- No step of process `i` changes the shared state. -/
def Idle (next : Id → Shared → Local → Shared × Local) (p : Pool Id Shared Local)
    (schedule : List Id) (i : Id) : Prop :=
  p.Before next schedule i fun p => (p.step next i).shared = p.shared

/-- A step of process `i` made a fact of the shared state true. -/
def EstablishedBy (next : Id → Shared → Local → Shared × Local) (p : Pool Id Shared Local)
    (schedule : List Id) (i : Id) (fact : Shared → Prop) : Prop :=
  ∃ earlier later, schedule = earlier ++ i :: later ∧ ¬ fact (p.run next earlier).shared ∧
    fact ((p.run next earlier).step next i).shared

theorem EstablishedBy.concat (h : p.EstablishedBy next schedule i fact) (j : Id) :
    p.EstablishedBy next (schedule ++ [j]) i fact := by
  obtain ⟨earlier, later, rfl, hbefore, hafter⟩ := h
  exact ⟨earlier, later ++ [j], eq_concat_iff.mpr (Or.inr ⟨later, rfl, rfl⟩), hbefore, hafter⟩

/-- The last step of a schedule. -/
theorem establishedBy_last (hbefore : ¬ fact (p.run next schedule).shared)
    (hafter : fact ((p.run next schedule).step next i).shared) :
    p.EstablishedBy next (schedule ++ [i]) i fact :=
  ⟨schedule, [], rfl, hbefore, hafter⟩

/-- **What holds at the end and not at the start, some process established.** -/
theorem exists_establishedBy (hstart : ¬ fact p.shared) (hend : fact (p.run next schedule).shared) :
    ∃ i, p.EstablishedBy next schedule i fact := by
  induction schedule using List.reverseRecOn with
  | nil => exact absurd hend hstart
  | append_singleton schedule j ih =>
    rw [run_concat] at hend
    by_cases hbefore : fact (p.run next schedule).shared
    · obtain ⟨i, hi⟩ := ih hbefore
      exact ⟨i, hi.concat j⟩
    · exact ⟨j, establishedBy_last hbefore hend⟩

end Pool

end Interleaving
