import Mathlib.Data.List.Perm.Basic
import Mathlib.Data.Nat.Notation

/-!
# Programs with scopes

A program opens scopes, acts, and goes on with what the body of a scope returned or raised. A scope
is closed when its body ends, whichever way. What opening, acting and closing do is left to a
handler, which numbers the scopes.

## Main definitions

* `ScopedProgram`: a finished program, an action, or a scope and the rest
* `Handler`, `ScopedProgram.run`: what the parts of a program do to a state, and its run
* `ScopedProgram.Acts`: a program that takes only some of the actions
* `ScopedProgram.Alike`: two programs that differ only in what they return of some answers
* `Marker`, `WellNested`: openings and closings, and sequences of them that nest
* `Handler.Marks`: a handler that marks the scopes, each with a number of its own

## Main results

* `ScopedProgram.run_invariant`: what every part preserves, the run preserves
* `ScopedProgram.run_related`: related handlers give programs that are alike related results
* `ScopedProgram.marks_run`: the scopes of a run nest, and are numbered as they are opened
-/

namespace Scopes

/-- A program that acts within scopes. A body gets the number of its scope. -/
inductive ScopedProgram (Init : Type) {Op : Type} (Answer : Op → Type) (ε α : Type) where
  | done (result : Except ε α)
  | act (op : Op) (rest : Answer op → ScopedProgram Init Answer ε α)
  | within (init : Init) (body : ℕ → ScopedProgram Init Answer ε α)
      (rest : Except ε α → ScopedProgram Init Answer ε α)

/-- What opening a scope, an action and closing a scope do to a state. -/
structure Handler (Init : Type) {Op : Type} (Answer : Op → Type) (σ : Type) where
  enter : Init → σ → ℕ × σ
  act : (op : Op) → σ → Answer op × σ
  leave : ℕ → σ → σ

namespace ScopedProgram

variable {Init Op : Type} {Answer : Op → Type} {ε α σ τ : Type}

/-- The run of a program from a state. -/
def run (handler : Handler Init Answer σ) :
    ScopedProgram Init Answer ε α → σ → Except ε α × σ
  | done result, s => (result, s)
  | act op rest, s => run handler (rest (handler.act op s).1) (handler.act op s).2
  | within init body rest, s =>
    -- the scope is closed before the rest sees what the body returned or raised
    let ended := run handler (body (handler.enter init s).1) (handler.enter init s).2
    run handler (rest ended.1) (handler.leave (handler.enter init s).1 ended.2)

/-- Every action of the program is one of the given ones, whatever it is answered. -/
def Acts (allowed : Op → Prop) : ScopedProgram Init Answer ε α → Prop
  | done _ => True
  | act op rest => allowed op ∧ ∀ answer, Acts allowed (rest answer)
  | within _ body rest =>
    (∀ id, Acts allowed (body id)) ∧ ∀ ended, Acts allowed (rest ended)

/-- Two programs that open the same scopes and take the same actions, although the free actions may
answer them differently. Their results are related. -/
inductive Alike (free : Op → Prop) (Q : Except ε α → Except ε α → Prop) :
    ScopedProgram Init Answer ε α → ScopedProgram Init Answer ε α → Prop where
  | done {result result' : Except ε α} (h : Q result result') :
      Alike free Q (done result) (done result')
  | act {op : Op} {rest rest' : Answer op → ScopedProgram Init Answer ε α}
      (h : ∀ answer answer', (¬ free op → answer = answer') →
        Alike free Q (rest answer) (rest' answer')) :
      Alike free Q (act op rest) (act op rest')
  | within {init : Init} {body body' : ℕ → ScopedProgram Init Answer ε α}
      {rest rest' : Except ε α → ScopedProgram Init Answer ε α}
      (hbody : ∀ id, Alike free Q (body id) (body' id))
      (hrest : ∀ ended ended', Q ended ended' → Alike free Q (rest ended) (rest' ended')) :
      Alike free Q (within init body rest) (within init body' rest')

variable {handler : Handler Init Answer σ} {other : Handler Init Answer τ}
  {allowed free : Op → Prop} {program : ScopedProgram Init Answer ε α}

/-- Every program takes only actions. -/
theorem acts_true (program : ScopedProgram Init Answer ε α) : program.Acts fun _ => True := by
  induction program with
  | done result => trivial
  | act op rest ih => exact ⟨trivial, ih⟩
  | within init body rest hbody hrest => exact ⟨hbody, hrest⟩

/-- A program without free actions is like itself, with one result. -/
theorem Acts.alike (h : program.Acts fun op => ¬ free op) : program.Alike free Eq program := by
  induction program with
  | done result => exact .done rfl
  | act op rest ih =>
    refine .act fun answer answer' hsame => ?_
    rw [hsame h.1]
    exact ih answer' (h.2 answer')
  | within init body rest hbody hrest =>
    refine .within (fun id => hbody id (h.1 id)) fun ended ended' hsame => ?_
    rw [hsame]
    exact hrest ended' (h.2 ended')

/-- **What the parts of a program preserve, its run preserves.** The invariant may speak of the
scopes that are open. -/
theorem run_invariant {P : List ℕ → σ → Prop}
    (henter : ∀ init scopes s, P scopes s →
      P ((handler.enter init s).1 :: scopes) (handler.enter init s).2)
    (hact : ∀ op scopes s, allowed op → P scopes s → P scopes (handler.act op s).2)
    (hleave : ∀ id scopes s, P (id :: scopes) s → P scopes (handler.leave id s))
    (hacts : program.Acts allowed) {scopes : List ℕ} {s : σ} (h : P scopes s) :
    P scopes (program.run handler s).2 := by
  induction program generalizing scopes s with
  | done result => exact h
  | act op rest ih => exact ih _ (hacts.2 _) (hact op scopes s hacts.1 h)
  | within init body rest hbody hrest =>
    exact hrest _ (hacts.2 _) (hleave _ _ _ (hbody _ (hacts.1 _) (henter init scopes s h)))

/-- **Related handlers give programs that are alike related results**, and related states. The
handlers may answer the free actions differently. -/
theorem run_related {R : σ → τ → Prop} {Q : Except ε α → Except ε α → Prop}
    (henter : ∀ init s t, R s t → (handler.enter init s).1 = (other.enter init t).1 ∧
      R (handler.enter init s).2 (other.enter init t).2)
    (hact : ∀ op s t, R s t → (¬ free op → (handler.act op s).1 = (other.act op t).1) ∧
      R (handler.act op s).2 (other.act op t).2)
    (hleave : ∀ id s t, R s t → R (handler.leave id s) (other.leave id t))
    {program' : ScopedProgram Init Answer ε α} (halike : program.Alike free Q program')
    {s : σ} {t : τ} (h : R s t) :
    Q (program.run handler s).1 (program'.run other t).1 ∧
      R (program.run handler s).2 (program'.run other t).2 := by
  induction halike generalizing s t with
  | done hresult => exact ⟨hresult, h⟩
  | act _ ih =>
    obtain ⟨hanswer, hnext⟩ := hact _ s t h
    exact ih _ _ hanswer hnext
  | @within init body body' rest rest' _ _ hbody hrest =>
    obtain ⟨hid, hentered⟩ := henter init s t h
    rw [run, run, hid]
    -- the bodies end with related results, so the rests go on alike
    obtain ⟨hended, hstates⟩ := hbody (other.enter init t).1 hentered
    exact hrest _ _ hended (hleave _ _ _ hstates)

end ScopedProgram

/-! ## Nesting -/

/-- The opening or the closing of a scope. -/
inductive Marker where
  | opened (id : ℕ)
  | closed (id : ℕ)
deriving DecidableEq

namespace Marker

/-- The numbers of the opened scopes, in order. -/
def opens (markers : List Marker) : List ℕ :=
  markers.filterMap fun
    | opened id => some id
    | closed _ => none

/-- The numbers of the closed scopes, in order. -/
def closes (markers : List Marker) : List ℕ :=
  markers.filterMap fun
    | opened _ => none
    | closed id => some id

end Marker

open Marker

/-- Every scope is closed, and the scopes that were opened within it are closed before it. -/
inductive WellNested : List Marker → Prop where
  | nil : WellNested []
  | scope {id : ℕ} {body rest : List Marker} (hbody : WellNested body) (hrest : WellNested rest) :
      WellNested (.opened id :: (body ++ .closed id :: rest))

namespace WellNested

variable {markers : List Marker}

/-- **Every scope that is opened is closed, as often.** -/
theorem perm (h : WellNested markers) : (opens markers).Perm (closes markers) := by
  induction h with
  | nil => exact List.Perm.nil
  | @scope id body rest _ _ hbody hrest =>
    have hopens : opens (opened id :: (body ++ closed id :: rest)) =
        id :: (opens body ++ opens rest) := by
      simp [opens]
    have hcloses : closes (opened id :: (body ++ closed id :: rest)) =
        closes body ++ id :: closes rest := by
      simp [closes]
    -- the number of the scope moves from the front to behind its body
    rw [hopens, hcloses]
    exact ((hbody.append hrest).cons id).trans List.perm_middle.symm

end WellNested

variable {Init Op : Type} {Answer : Op → Type} {ε α σ : Type}

/-- A handler marks the scopes, and gives each the next number. -/
structure Handler.Marks (handler : Handler Init Answer σ) (markers : σ → List Marker)
    (count : σ → ℕ) : Prop where
  enter_id : ∀ init s, (handler.enter init s).1 = count s
  enter_count : ∀ init s, count (handler.enter init s).2 = count s + 1
  enter_markers : ∀ init s, markers (handler.enter init s).2 = markers s ++ [.opened (count s)]
  act_count : ∀ op s, count (handler.act op s).2 = count s
  act_markers : ∀ op s, markers (handler.act op s).2 = markers s
  leave_count : ∀ id s, count (handler.leave id s) = count s
  leave_markers : ∀ id s, markers (handler.leave id s) = markers s ++ [.closed id]

namespace ScopedProgram

variable {handler : Handler Init Answer σ} {markers : σ → List Marker} {count : σ → ℕ}

/-- **The scopes of a run nest**, and are numbered as they are opened. -/
theorem marks_run (h : handler.Marks markers count) (program : ScopedProgram Init Answer ε α)
    (s : σ) : ∃ added n, markers (program.run handler s).2 = markers s ++ added ∧
      WellNested added ∧ count (program.run handler s).2 = count s + n ∧
        opens added = List.range' (count s) n := by
  induction program generalizing s with
  | done result => exact ⟨[], 0, (List.append_nil _).symm, .nil, rfl, rfl⟩
  | act op rest ih =>
    obtain ⟨added, n, hmarkers, hnested, hcount, hopens⟩ := ih _ (handler.act op s).2
    rw [h.act_markers] at hmarkers
    rw [h.act_count] at hcount hopens
    exact ⟨added, n, hmarkers, hnested, hcount, hopens⟩
  | within init body rest hbody hrest =>
    simp only [run, h.enter_id]
    -- the markers of the body, then those of the rest, with the numbers that follow
    obtain ⟨inner, n, hinner, hnested, hn, hopens⟩ := hbody (count s) (handler.enter init s).2
    obtain ⟨added, m, hadded, hnested', hm, hopens'⟩ := hrest _ (handler.leave (count s)
      ((body (count s)).run handler (handler.enter init s).2).2)
    rw [h.leave_markers, hinner, h.enter_markers] at hadded
    rw [h.leave_count, hn, h.enter_count] at hm hopens'
    rw [h.enter_count] at hopens
    refine ⟨opened (count s) :: (inner ++ closed (count s) :: added), n + m + 1, ?_,
      hnested.scope hnested', ?_, ?_⟩
    · rw [hadded]
      simp only [List.append_assoc, List.cons_append, List.nil_append]
    · rw [hm]
      omega
    · have hsplit : opens (opened (count s) :: (inner ++ closed (count s) :: added)) =
          count s :: (opens inner ++ opens added) := by
        simp [opens]
      rw [hsplit, hopens, hopens', List.range'_succ, List.range'_append_1]

end ScopedProgram

end Scopes
