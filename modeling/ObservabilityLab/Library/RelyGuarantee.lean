import Mathlib.Logic.Relation
import ObservabilityLab.Library.Interleaving
import ObservabilityLab.Library.Programs

/-!
# Rely and guarantee

Programs that run at the same time on a shared state. Each call is one step, and the steps of the
programs interleave in any order. A program relies on what the steps of the others keep, and
guarantees something of its own steps; what it knows between two steps has to be stable, that is,
kept by the others.

## Main definitions

* `Conduct`: what the calls of a program do, and what it relies on and guarantees
* `Conduct.Meets`: a program keeps its guarantee from a state, and ends with a postcondition
* `Conduct.Proves`: the same from every state with a precondition
* `Steps`: one step of programs that run at the same time

## Main results

* `Conduct.proves_done`, `Conduct.proves_call`, `Conduct.proves_bind`, `Conduct.proves_caught`,
  `Conduct.proves_mono`: the rules, one for each way to build a program
* `Conduct.proves_of_along`: a program whose calls all keep what is known
* `meets_of_steps`: programs whose guarantees are what the others rely on keep them in every run
* `invariant_of_steps`: what every call keeps, every run keeps
* `passes_of_steps`: a program that has to make a wanted call made it, or still has to
-/

namespace RelyGuarantee

open Interleaving

variable {Op : Type} {Answer : Op → Type} {ε σ α β : Type}

variable (Answer ε σ) in
/-- The calls of a program with what it relies on and what it guarantees. -/
structure Conduct where
  performs : σ → (op : Op) → Except ε (Answer op) → σ → Prop
  rely : σ → σ → Prop
  guarantee : σ → σ → Prop
  rely_refl : ∀ s, rely s s
  rely_trans : ∀ {s s' s''}, rely s s' → rely s' s'' → rely s s''

namespace Conduct

variable (c : Conduct Answer ε σ)

/-- From a state, which the others may still change, the program keeps its guarantee and ends with a
postcondition. -/
def Meets (Q : Except ε α → σ → Prop) : Program Answer ε α → σ → Prop
  | .done result, s => ∀ s', c.rely s s' → Q result s'
  | .call op rest, s => ∀ s', c.rely s s' → ∀ answer s'', c.performs s' op answer s'' →
      c.guarantee s' s'' ∧ Meets Q (rest answer) s''

/-- The others keep a fact. -/
def Stable (P : σ → Prop) : Prop := ∀ s s', c.rely s s' → P s → P s'

/-- From every state with a precondition the program meets its postcondition. -/
def Proves (P : σ → Prop) (x : Program Answer ε α) (Q : Except ε α → σ → Prop) : Prop :=
  ∀ s, P s → c.Meets Q x s

variable {c} {P P' : σ → Prop} {Q Q' : Except ε α → σ → Prop} {x : Program Answer ε α}

/-- What a program meets, it meets after the others changed the state. -/
theorem Meets.of_rely {s s' : σ} (h : c.Meets Q x s) (hrely : c.rely s s') : c.Meets Q x s' := by
  cases x with
  | done result => exact fun later hlater => h later (c.rely_trans hrely hlater)
  | call op rest => exact fun later hlater => h later (c.rely_trans hrely hlater)

theorem Meets.mono {s : σ} (h : c.Meets Q x s) (hQ : ∀ result s, Q result s → Q' result s) :
    c.Meets Q' x s := by
  induction x generalizing s with
  | done result => exact fun s' hrely => hQ _ _ (h s' hrely)
  | call op rest ih =>
    intro s' hrely answer s'' hperforms
    obtain ⟨hguarantee, hrest⟩ := h s' hrely answer s'' hperforms
    exact ⟨hguarantee, ih answer hrest⟩

/-! ## The rules -/

theorem proves_mono (h : c.Proves P x Q) (hP : ∀ s, P' s → P s)
    (hQ : ∀ result s, Q result s → Q' result s) : c.Proves P' x Q' :=
  fun s hs => (h s (hP s hs)).mono hQ

theorem proves_done {result : Except ε α} (hstable : c.Stable P) (h : ∀ s, P s → Q result s) :
    c.Proves P (.done result) Q :=
  fun s hs s' hrely => h s' (hstable s s' hrely hs)

/-- One call: its guarantee, and what is known of the state for each answer. -/
theorem proves_call {op : Op} {rest : Except ε (Answer op) → Program Answer ε α}
    {R : Except ε (Answer op) → σ → Prop} (hstable : c.Stable P)
    (hcall : ∀ s answer s', P s → c.performs s op answer s' → c.guarantee s s' ∧ R answer s')
    (hrest : ∀ answer, c.Proves (R answer) (rest answer) Q) : c.Proves P (.call op rest) Q := by
  intro s hs s' hrely answer s'' hperforms
  obtain ⟨hguarantee, hR⟩ := hcall s' answer s'' (hstable s s' hrely hs) hperforms
  exact ⟨hguarantee, hrest answer s'' hR⟩

/-- A sequence goes through the postcondition of its first program. -/
theorem proves_bind {f : α → Program Answer ε β} {R : Except ε β → σ → Prop}
    (hx : c.Proves P x Q) (hf : ∀ a, c.Proves (Q (.ok a)) (f a) R)
    (herror : ∀ e s, Q (.error e) s → R (.error e) s) : c.Proves P (x >>= f) R := by
  intro s hs
  have h := hx s hs
  clear hx hs
  induction x generalizing s with
  | done result =>
    cases result with
    | ok a => exact hf a s (h s (c.rely_refl s))
    | error e => exact fun s' hrely => herror e s' (h s' hrely)
  | call op rest ih =>
    intro s' hrely answer s'' hperforms
    obtain ⟨hguarantee, hrest⟩ := h s' hrely answer s'' hperforms
    exact ⟨hguarantee, ih answer s'' hrest⟩

/-- A program with its exceptions caught raises nothing. -/
theorem proves_caught {R : Except ε (Except ε α) → σ → Prop} (hx : c.Proves P x Q)
    (h : ∀ result s, Q result s → R (.ok result) s) : c.Proves P x.caught R := by
  intro s hs
  have hmeets := hx s hs
  clear hx hs
  induction x generalizing s with
  | done result => exact fun s' hrely => h result s' (hmeets s' hrely)
  | call op rest ih =>
    intro s' hrely answer s'' hperforms
    obtain ⟨hguarantee, hrest⟩ := hmeets s' hrely answer s'' hperforms
    exact ⟨hguarantee, ih answer s'' hrest⟩

/-- A single call. -/
theorem proves_perform {op : Op} {R : Except ε (Answer op) → σ → Prop} (hstable : c.Stable P)
    (hcall : ∀ s answer s', P s → c.performs s op answer s' → c.guarantee s s' ∧ R answer s')
    (hR : ∀ answer, c.Stable (R answer)) : c.Proves P (.perform op) R :=
  proves_call hstable hcall fun answer => proves_done (hR answer) fun _ h => h

/-- A program whose calls all keep what is known. -/
theorem proves_of_along {allowed : Op → Prop} {R : Except ε α → Prop} (hx : x.Along allowed R)
    (hstable : c.Stable P)
    (hcall : ∀ op s answer s', allowed op → P s → c.performs s op answer s' →
      c.guarantee s s' ∧ P s') : c.Proves P x fun result s => P s ∧ R result := by
  induction x with
  | done result => exact proves_done hstable fun s hs => ⟨hs, hx⟩
  | call op rest ih =>
    exact proves_call hstable (fun s answer s' => hcall op s answer s' hx.1)
      fun answer => ih answer (hx.2 answer)

end Conduct

/-! ## Interleaved -/

variable {Id : Type} [DecidableEq Id]
  {performs : Id → σ → (op : Op) → Except ε (Answer op) → σ → Prop}

variable (performs) in
/-- One step of one of the programs. -/
inductive Steps : Pool Id σ (Program Answer ε α) → Pool Id σ (Program Answer ε α) → Prop where
  | step {p : Pool Id σ (Program Answer ε α)} {i : Id} {op : Op}
      {rest : Except ε (Answer op) → Program Answer ε α} {answer : Except ε (Answer op)} {s' : σ}
      (hnext : p.locals i = .call op rest) (hperforms : performs i p.shared op answer s') :
      Steps p ⟨s', Function.update p.locals i (rest answer)⟩

/-- A run of one of the programs, while the others wait. -/
theorem steps_of_runs {locals : Id → Program Answer ε α} {i : Id} {s s' : σ}
    {x : Program Answer ε α} {result : Except ε α} (hx : locals i = x)
    (hruns : Program.Runs (performs i) s x result s') :
    Relation.ReflTransGen (Steps performs) (⟨s, locals⟩ : Pool Id σ (Program Answer ε α))
      ⟨s', Function.update locals i (.done result)⟩ := by
  induction hruns generalizing locals with
  | done result =>
    rw [← hx, Function.update_eq_self]
  | @call s between s' op rest answer result hperforms _ ih =>
    refine .head (.step hx hperforms) ?_
    have hlocal : Function.update locals i (rest answer) i = rest answer :=
      Function.update_self ..
    have hrest := ih hlocal
    rwa [Function.update_idem] at hrest

/-- **Programs whose guarantees are what the others rely on keep them in every run**, and with them
what every guarantee keeps. -/
theorem meets_of_steps (conduct : Id → Conduct Answer ε σ) {invariant : σ → Prop}
    {Q : Id → Except ε α → σ → Prop} {p p' : Pool Id σ (Program Answer ε α)}
    (hperforms : ∀ i s op answer s', performs i s op answer s' →
      (conduct i).performs s op answer s')
    (hrely : ∀ i j s s', i ≠ j → invariant s → (conduct j).guarantee s s' → (conduct i).rely s s')
    (hinvariant : ∀ i s s', invariant s → (conduct i).guarantee s s' → invariant s')
    (hshared : invariant p.shared) (hlocals : ∀ i, (conduct i).Meets (Q i) (p.locals i) p.shared)
    (hsteps : Relation.ReflTransGen (Steps performs) p p') :
    invariant p'.shared ∧ ∀ i, (conduct i).Meets (Q i) (p'.locals i) p'.shared := by
  induction hsteps with
  | refl => exact ⟨hshared, hlocals⟩
  | tail _ hstep ih =>
    obtain ⟨hinv, hmeets⟩ := ih
    cases hstep with
    | @step j op rest answer s' hnext hcall =>
      have hj := hmeets j
      rw [hnext] at hj
      obtain ⟨hguarantee, hrest⟩ :=
        hj _ ((conduct j).rely_refl _) answer s' (hperforms j _ _ _ _ hcall)
      refine ⟨hinvariant j _ _ hinv hguarantee, fun i => ?_⟩
      by_cases hij : i = j
      · subst hij
        dsimp only
        rw [Function.update_self]
        exact hrest
      · dsimp only
        rw [Function.update_of_ne hij]
        exact (hmeets i).of_rely (hrely i j _ _ hij hinv hguarantee)

/-- **What every call keeps, every run keeps.** -/
theorem invariant_of_steps {invariant : σ → Prop} {p p' : Pool Id σ (Program Answer ε α)}
    (hkeeps : ∀ i s op answer s', performs i s op answer s' → invariant s → invariant s')
    (hshared : invariant p.shared) (hsteps : Relation.ReflTransGen (Steps performs) p p') :
    invariant p'.shared := by
  induction hsteps with
  | refl => exact hshared
  | tail _ hstep ih =>
    cases hstep with
    | step _ hcall => exact hkeeps _ _ _ _ _ hcall ih

/-- **A program that has to make a wanted call made it, or still has to**, in every interleaving. -/
theorem passes_of_steps {wanted : Op → Prop} {R : Except ε α → Prop} (made : σ → Prop) {i : Id}
    {p p' : Pool Id σ (Program Answer ε α)}
    (hkeeps : ∀ j s op answer s', performs j s op answer s' → made s → made s')
    (hmakes : ∀ s op answer s', performs i s op answer s' → wanted op → made s')
    (hlocal : (p.locals i).Passes wanted R) (hsteps : Relation.ReflTransGen (Steps performs) p p') :
    made p'.shared ∨ (p'.locals i).Passes wanted R := by
  induction hsteps with
  | refl => exact Or.inr hlocal
  | tail _ hstep ih =>
    cases hstep with
    | @step j op rest answer s' hnext hcall =>
      rcases ih with hmade | hpasses
      · exact Or.inl (hkeeps j _ _ _ _ hcall hmade)
      · by_cases hij : i = j
        · subst hij
          rw [hnext] at hpasses
          rcases hpasses with hwanted | hrest
          · exact Or.inl (hmakes _ _ _ _ hcall hwanted)
          · refine Or.inr ?_
            dsimp only
            rw [Function.update_self]
            exact hrest answer
        · refine Or.inr ?_
          dsimp only
          rwa [Function.update_of_ne hij]

end RelyGuarantee
