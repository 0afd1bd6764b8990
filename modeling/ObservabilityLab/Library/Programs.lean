import Mathlib.Logic.Basic

/-!
# Programs with calls

A program calls operations, and goes on with what each of them returned or raised. What the
operations do is left open: a program runs on the states that its operations lead through.

## Main definitions

* `Program`: a finished program, or a call and the rest
* `Program.perform`, `Program.caught`: one call, and a program with its exceptions caught
* `Program.Along`: what a program calls and ends with, whatever the answers
* `Program.Passes`: a program makes a wanted call, or ends with a postcondition
* `Program.Runs`: the runs of a program from a state

## Main results

* `Program.along_bind`, `Program.along_caught`: the calls of a sequence, and of a program with its
  exceptions caught
* `Program.passes_bind`, `Program.passes_caught`: the same for a wanted call
* `Program.runs_bind_iff`, `Program.runs_caught_iff`: the runs of a sequence, and of a program with
  its exceptions caught
* `Program.exists_runs`: a program whose calls are all answered has a run
-/

/-- A program that calls operations with answers. -/
inductive Program {Op : Type} (Answer : Op → Type) (ε α : Type) where
  | done (result : Except ε α)
  | call (op : Op) (rest : Except ε (Answer op) → Program Answer ε α)

namespace Program

variable {Op : Type} {Answer : Op → Type} {ε α β : Type}

protected def bind : Program Answer ε α → (α → Program Answer ε β) → Program Answer ε β
  | done (.ok a), f => f a
  | done (.error e), _ => done (.error e)
  | call op rest, f => call op fun answer => (rest answer).bind f

instance : Monad (Program Answer ε) where
  pure a := done (.ok a)
  bind := Program.bind

/-- One call. -/
def perform (op : Op) : Program Answer ε (Answer op) := call op done

/-- A program that returns what the given one raised, instead of raising. -/
def caught : Program Answer ε α → Program Answer ε (Except ε α)
  | done result => done (.ok result)
  | call op rest => call op fun answer => (rest answer).caught

@[simp] theorem pure_eq (a : α) : (pure a : Program Answer ε α) = done (.ok a) := rfl

@[simp] theorem done_ok_bind (a : α) (f : α → Program Answer ε β) :
    (done (.ok a) : Program Answer ε α) >>= f = f a := rfl

@[simp] theorem done_error_bind (e : ε) (f : α → Program Answer ε β) :
    (done (.error e) : Program Answer ε α) >>= f = done (.error e) := rfl

@[simp] theorem call_bind (op : Op) (rest : Except ε (Answer op) → Program Answer ε α)
    (f : α → Program Answer ε β) :
    call op rest >>= f = call op fun answer => rest answer >>= f := rfl

protected theorem bind_assoc {γ : Type} (x : Program Answer ε α) (f : α → Program Answer ε β)
    (g : β → Program Answer ε γ) : (x >>= f) >>= g = x >>= fun a => f a >>= g := by
  induction x with
  | done result =>
    cases result with
    | ok a => rfl
    | error e => rfl
  | call op rest ih =>
    simp only [call_bind, ih]

/-! ## Whatever the answers -/

/-- Whatever the answers, the program only makes allowed calls, and ends with a postcondition. -/
def Along (allowed : Op → Prop) (R : Except ε α → Prop) : Program Answer ε α → Prop
  | done result => R result
  | call op rest => allowed op ∧ ∀ answer, (rest answer).Along allowed R

section Along

variable {allowed : Op → Prop} {R : Except ε α → Prop} {x : Program Answer ε α}

theorem along_bind {f : α → Program Answer ε β} {S : Except ε β → Prop} (hx : x.Along allowed R)
    (hf : ∀ a, R (.ok a) → (f a).Along allowed S) (herror : ∀ e, R (.error e) → S (.error e)) :
    (x >>= f).Along allowed S := by
  induction x with
  | done result =>
    cases result with
    | ok a => exact hf a hx
    | error e => exact herror e hx
  | call op rest ih => exact ⟨hx.1, fun answer => ih answer (hx.2 answer)⟩

theorem along_caught {S : Except ε (Except ε α) → Prop} (hx : x.Along allowed R)
    (h : ∀ result, R result → S (.ok result)) : x.caught.Along allowed S := by
  induction x with
  | done result => exact h result hx
  | call op rest ih => exact ⟨hx.1, fun answer => ih answer (hx.2 answer)⟩

end Along

/-- Whatever the answers, the program makes a wanted call, or ends with a postcondition. -/
def Passes (wanted : Op → Prop) (R : Except ε α → Prop) : Program Answer ε α → Prop
  | done result => R result
  | call op rest => wanted op ∨ ∀ answer, (rest answer).Passes wanted R

section Passes

variable {wanted : Op → Prop} {R : Except ε α → Prop} {x : Program Answer ε α}

theorem passes_call {op : Op} {rest : Except ε (Answer op) → Program Answer ε α} (h : wanted op) :
    (call op rest).Passes wanted R := Or.inl h

theorem passes_any : x.Passes wanted fun _ => True := by
  induction x with
  | done result => trivial
  | call op rest ih => exact Or.inr ih

theorem passes_bind {f : α → Program Answer ε β} {S : Except ε β → Prop} (hx : x.Passes wanted R)
    (hf : ∀ a, R (.ok a) → (f a).Passes wanted S) (herror : ∀ e, R (.error e) → S (.error e)) :
    (x >>= f).Passes wanted S := by
  induction x with
  | done result =>
    cases result with
    | ok a => exact hf a hx
    | error e => exact herror e hx
  | call op rest ih => exact hx.imp_right fun h answer => ih answer (h answer)

theorem passes_caught {S : Except ε (Except ε α) → Prop} (hx : x.Passes wanted R)
    (h : ∀ result, R result → S (.ok result)) : x.caught.Passes wanted S := by
  induction x with
  | done result => exact h result hx
  | call op rest ih => exact hx.imp_right fun hrest answer => ih answer (hrest answer)

end Passes

/-! ## Runs -/

variable {σ : Type} {performs : σ → (op : Op) → Except ε (Answer op) → σ → Prop}

variable (performs) in
/-- A run of a program from a state: what it returned or raised, and where it ended. -/
inductive Runs : σ → Program Answer ε α → Except ε α → σ → Prop where
  | done {s : σ} (result : Except ε α) : Runs s (done result) result s
  | call {s between s' : σ} {op : Op} {rest : Except ε (Answer op) → Program Answer ε α}
      {answer : Except ε (Answer op)} {result : Except ε α}
      (hperforms : performs s op answer between) (hrest : Runs between (rest answer) result s') :
      Runs s (call op rest) result s'

variable {s s' : σ} {x : Program Answer ε α}

theorem runs_done_iff {result result' : Except ε α} :
    Runs performs s (done result) result' s' ↔ result' = result ∧ s' = s := by
  constructor
  · intro h
    cases h with
    | done => exact ⟨rfl, rfl⟩
  · rintro ⟨rfl, rfl⟩
    exact Runs.done _

theorem runs_call_iff {op : Op} {rest : Except ε (Answer op) → Program Answer ε α}
    {result : Except ε α} :
    Runs performs s (call op rest) result s' ↔
      ∃ answer between, performs s op answer between ∧
        Runs performs between (rest answer) result s' := by
  constructor
  · intro h
    cases h with
    | call hperforms hrest => exact ⟨_, _, hperforms, hrest⟩
  · rintro ⟨answer, between, hperforms, hrest⟩
    exact Runs.call hperforms hrest

theorem runs_perform_iff {op : Op} {answer : Except ε (Answer op)} :
    Runs performs s (perform op) answer s' ↔ performs s op answer s' := by
  rw [perform, runs_call_iff]
  constructor
  · rintro ⟨answer', between, hperforms, hrest⟩
    obtain ⟨rfl, rfl⟩ := runs_done_iff.mp hrest
    exact hperforms
  · exact fun h => ⟨answer, s', h, Runs.done _⟩

/-- A run of a sequence is one of its first program, and one of the rest unless the first raised. -/
theorem runs_bind_iff {f : α → Program Answer ε β} {result : Except ε β} :
    Runs performs s (x >>= f) result s' ↔
      (∃ a between, Runs performs s x (.ok a) between ∧ Runs performs between (f a) result s') ∨
        ∃ e, Runs performs s x (.error e) s' ∧ result = .error e := by
  induction x generalizing s with
  | done first =>
    simp only [runs_done_iff]
    cases first with
    | ok a =>
      rw [done_ok_bind]
      constructor
      · exact fun h => Or.inl ⟨a, s, ⟨rfl, rfl⟩, h⟩
      · rintro (⟨_, _, ⟨⟨⟩, rfl⟩, h⟩ | ⟨_, ⟨⟨⟩, -⟩, -⟩)
        exact h
    | error e =>
      rw [done_error_bind, runs_done_iff]
      constructor
      · rintro ⟨rfl, rfl⟩
        exact Or.inr ⟨e, ⟨rfl, rfl⟩, rfl⟩
      · rintro (⟨_, _, ⟨⟨⟩, -⟩, -⟩ | ⟨_, ⟨⟨⟩, rfl⟩, rfl⟩)
        exact ⟨rfl, rfl⟩
  | call op rest ih =>
    rw [call_bind]
    simp only [runs_call_iff, ih]
    constructor
    · rintro ⟨answer, between, hperforms, ⟨a, later, hx, hf⟩ | ⟨e, hx, rfl⟩⟩
      · exact Or.inl ⟨a, later, ⟨answer, between, hperforms, hx⟩, hf⟩
      · exact Or.inr ⟨e, ⟨answer, between, hperforms, hx⟩, rfl⟩
    · rintro (⟨a, later, ⟨answer, between, hperforms, hx⟩, hf⟩ |
        ⟨e, ⟨answer, between, hperforms, hx⟩, rfl⟩)
      · exact ⟨answer, between, hperforms, Or.inl ⟨a, later, hx, hf⟩⟩
      · exact ⟨answer, between, hperforms, Or.inr ⟨e, hx, rfl⟩⟩

/-- A run of a program with its exceptions caught. -/
theorem runs_caught_iff {result : Except ε (Except ε α)} :
    Runs performs s x.caught result s' ↔
      ∃ inner, result = .ok inner ∧ Runs performs s x inner s' := by
  induction x generalizing s with
  | done first =>
    rw [caught, runs_done_iff]
    constructor
    · rintro ⟨rfl, rfl⟩
      exact ⟨first, rfl, Runs.done _⟩
    · rintro ⟨inner, rfl, h⟩
      obtain ⟨rfl, rfl⟩ := runs_done_iff.mp h
      exact ⟨rfl, rfl⟩
  | call op rest ih =>
    rw [caught, runs_call_iff]
    simp only [ih, runs_call_iff]
    constructor
    · rintro ⟨answer, between, hperforms, inner, rfl, h⟩
      exact ⟨inner, rfl, answer, between, hperforms, h⟩
    · rintro ⟨inner, rfl, answer, between, hperforms, h⟩
      exact ⟨answer, between, hperforms, inner, rfl, h⟩

theorem Runs.perform {op : Op} {answer : Except ε (Answer op)} (h : performs s op answer s') :
    Runs performs s (Program.perform op) answer s' :=
  runs_perform_iff.mpr h

theorem Runs.bind {between : σ} {a : α} {f : α → Program Answer ε β} {result : Except ε β}
    (hx : Runs performs s x (.ok a) between) (hf : Runs performs between (f a) result s') :
    Runs performs s (x >>= f) result s' :=
  runs_bind_iff.mpr (Or.inl ⟨a, between, hx, hf⟩)

theorem Runs.bind_error {f : α → Program Answer ε β} {e : ε}
    (hx : Runs performs s x (.error e) s') : Runs performs s (x >>= f) (.error e) s' :=
  runs_bind_iff.mpr (Or.inr ⟨e, hx, rfl⟩)

theorem Runs.caught {inner : Except ε α} (hx : Runs performs s x inner s') :
    Runs performs s x.caught (.ok inner) s' :=
  runs_caught_iff.mpr ⟨inner, rfl, hx⟩

/-- A run of a program begins with a run of its first call. -/
theorem exists_runs_call {between : σ} {op : Op}
    {rest : Except ε (Answer op) → Program Answer ε α} {answer : Except ε (Answer op)}
    {P : σ → Prop} (hperforms : performs s op answer between)
    (h : ∃ result s', Runs performs between (rest answer) result s' ∧ P s') :
    ∃ result s', Runs performs s (call op rest) result s' ∧ P s' := by
  obtain ⟨result, s', hrest, hP⟩ := h
  exact ⟨result, s', Runs.call hperforms hrest, hP⟩

/-- **A program whose calls are all answered has a run**, from every state. -/
theorem exists_runs {allowed : Op → Prop} {R : Except ε α → Prop} (hx : x.Along allowed R)
    (hanswered : ∀ s op, allowed op → ∃ answer s', performs s op answer s') (s : σ) :
    ∃ result s', Runs performs s x result s' := by
  induction x generalizing s with
  | done result => exact ⟨result, s, Runs.done _⟩
  | call op rest ih =>
    obtain ⟨answer, between, hperforms⟩ := hanswered s op hx.1
    obtain ⟨result, s', hrest⟩ := ih answer (hx.2 answer) between
    exact ⟨result, s', Runs.call hperforms hrest⟩

end Program
