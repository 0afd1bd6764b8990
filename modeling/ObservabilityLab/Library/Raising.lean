import Mathlib.Logic.Basic

/-!
# Computations that raise

A computation changes a state and returns or raises; what it did to the state stays in either case.
What it does is stated by a triple: from every state with a precondition it returns with one
postcondition or raises with another.

## Main definitions

* `attempt`: a computation with its exceptions caught
* `zoom`: a computation on a part of a larger state
* `finalState`, `outcome`: the state and the result after a run
* `Triple`, `Leads`, `Keeps`, `KeepsUnless`: what a computation does, where it ends, and what it
  keeps

## Main results

* `triple_pure`, `triple_throw`, `triple_get`, `triple_modify`, `triple_ofExcept`, `triple_bind`,
  `triple_attempt`, `triple_attempt_bind`, `triple_zoom`, `triple_mono`, `triple_and`: the rules,
  one for each way to build a computation
* `Triple.ok`, `Triple.error`, `Triple.returns_iff`: what a triple says of one run
* `Keeps.foldl`: what every step of a list of computations keeps, the list keeps
-/

namespace Raising

variable {ε σ τ α β : Type}

/-- A computation that returns what the given one raised, instead of raising. -/
def attempt (x : EStateM ε σ α) : EStateM ε σ (Except ε α) := fun s =>
  match x.run s with
  | .ok a s' => .ok (.ok a) s'
  | .error e s' => .ok (.error e) s'

/-- A computation on the part of a state that `view` reads and `put` writes. -/
def zoom (view : τ → σ) (put : σ → τ → τ) (x : EStateM ε σ α) : EStateM ε τ α := fun t =>
  match x.run (view t) with
  | .ok a s => .ok a (put s t)
  | .error e s => .error e (put s t)

theorem run_attempt (x : EStateM ε σ α) (s : σ) :
    (attempt x).run s = match x.run s with
      | .ok a s' => .ok (.ok a) s'
      | .error e s' => .ok (.error e) s' := rfl

theorem run_zoom (view : τ → σ) (put : σ → τ → τ) (x : EStateM ε σ α) (t : τ) :
    (zoom view put x).run t = match x.run (view t) with
      | .ok a s => .ok a (put s t)
      | .error e s => .error e (put s t) := rfl

/-- The state after a run. -/
def finalState : EStateM.Result ε σ α → σ
  | .ok _ s => s
  | .error _ s => s

/-- What a run returned or raised. -/
def outcome : EStateM.Result ε σ α → Except ε α
  | .ok a _ => .ok a
  | .error e _ => .error e

@[simp] theorem finalState_ok (a : α) (s : σ) :
    finalState (.ok a s : EStateM.Result ε σ α) = s := rfl

@[simp] theorem finalState_error (e : ε) (s : σ) :
    finalState (.error e s : EStateM.Result ε σ α) = s := rfl

@[simp] theorem outcome_ok (a : α) (s : σ) :
    outcome (.ok a s : EStateM.Result ε σ α) = .ok a := rfl

@[simp] theorem outcome_error (e : ε) (s : σ) :
    outcome (.error e s : EStateM.Result ε σ α) = .error e := rfl

/-- A run that returned is its result and its final state. -/
theorem eq_ok_of_outcome {r : EStateM.Result ε σ α} {a : α} (h : outcome r = .ok a) :
    r = .ok a (finalState r) := by
  cases r with
  | ok b s =>
    cases h
    rfl
  | error e s => cases h

/-- What a caught computation returns, and where it ends. -/
theorem run_attempt_eq_ok {x : EStateM ε σ α} {s s' : σ} {r : Except ε α} :
    (attempt x).run s = .ok r s' ↔ r = outcome (x.run s) ∧ s' = finalState (x.run s) := by
  rw [run_attempt]
  cases x.run s <;> simp [eq_comm]

/-- A sequence returns through what its first computation returned. -/
theorem run_bind_eq_ok {x : EStateM ε σ α} {f : α → EStateM ε σ β} {s s' : σ} {b : β} :
    (x >>= f).run s = .ok b s' ↔
      ∃ a before, x.run s = .ok a before ∧ (f a).run before = .ok b s' := by
  rw [EStateM.run_bind]
  cases x.run s with
  | ok a before =>
    constructor
    · exact fun h => ⟨a, before, rfl, h⟩
    · rintro ⟨_, _, h, hf⟩
      cases h
      exact hf
  | error e before => simp

/-- From every state with `P`, the computation returns with `Q` or raises with `E`. -/
def Triple (P : σ → Prop) (x : EStateM ε σ α) (Q : α → σ → Prop) (E : ε → σ → Prop) : Prop :=
  ∀ s, P s → match x.run s with
    | .ok a s' => Q a s'
    | .error e s' => E e s'

/-- From every state with `P` the computation ends in one with `Q`, whether it returns or raises. -/
def Leads (P : σ → Prop) (x : EStateM ε σ α) (Q : σ → Prop) : Prop :=
  Triple P x (fun _ => Q) fun _ => Q

/-- What holds before the computation holds after it, whether it returns or raises. -/
def Keeps (I : σ → Prop) (x : EStateM ε σ α) : Prop := Triple I x (fun _ => I) fun _ => I

/-- What holds before the computation holds after it, unless it raises with `B`. -/
def KeepsUnless (B : ε → σ → Prop) (I : σ → Prop) (x : EStateM ε σ α) : Prop :=
  Triple I x (fun _ => I) fun e s => I s ∨ B e s

variable {P R : σ → Prop} {x : EStateM ε σ α} {Q Q' : α → σ → Prop} {E E' : ε → σ → Prop}

namespace Triple

theorem ok (h : Triple P x Q E) {s s' : σ} {a : α} (hP : P s) (hrun : x.run s = .ok a s') :
    Q a s' := by
  have hpost := h s hP
  rwa [hrun] at hpost

theorem error (h : Triple P x Q E) {s s' : σ} {e : ε} (hP : P s) (hrun : x.run s = .error e s') :
    E e s' := by
  have hpost := h s hP
  rwa [hrun] at hpost

/-- A computation that returns under one condition, and raises under its negation. -/
theorem returns_iff {c : Prop} (h : Triple P x (fun _ _ => c) fun _ _ => ¬ c) {s : σ} (hP : P s) :
    (∃ a, outcome (x.run s) = .ok a) ↔ c := by
  cases hrun : x.run s with
  | ok a s' => exact iff_of_true ⟨a, rfl⟩ (h.ok hP hrun)
  | error e s' =>
    refine iff_of_false ?_ (h.error hP hrun)
    rintro ⟨a, ha⟩
    cases ha

end Triple

/-- A triple, from what the runs that return and the runs that raise do. -/
theorem triple_of_runs (hok : ∀ s a s', P s → x.run s = .ok a s' → Q a s')
    (herror : ∀ s e s', P s → x.run s = .error e s' → E e s') : Triple P x Q E := by
  intro s hP
  cases hrun : x.run s with
  | ok a s' => exact hok s a s' hP hrun
  | error e s' => exact herror s e s' hP hrun

/-! ## The rules -/

theorem triple_pure {a : α} (h : ∀ s, P s → Q a s) : Triple P (pure a : EStateM ε σ α) Q E := h

theorem triple_throw {e : ε} (h : ∀ s, P s → E e s) : Triple P (throw e : EStateM ε σ α) Q E := h

theorem triple_get {R : σ → σ → Prop} (h : ∀ s, P s → R s s) :
    Triple P (get : EStateM ε σ σ) R E := h

theorem triple_modify {f : σ → σ} {R : PUnit → σ → Prop} (h : ∀ s, P s → R ⟨⟩ (f s)) :
    Triple P (modify f : EStateM ε σ PUnit) R E := h

/-- A result that is already there. -/
theorem triple_ofExcept {result : Except ε α} (hok : ∀ a s, result = .ok a → P s → Q a s)
    (herror : ∀ e s, result = .error e → P s → E e s) :
    Triple P (MonadExcept.ofExcept result : EStateM ε σ α) Q E := by
  cases result with
  | ok a => exact triple_pure fun s hs => hok a s rfl hs
  | error e => exact triple_throw fun s hs => herror e s rfl hs

/-- A sequence goes through the postcondition of its first computation. -/
theorem triple_bind {f : α → EStateM ε σ β} {R : β → σ → Prop} (hx : Triple P x Q E)
    (hf : ∀ a, Triple (Q a) (f a) R E) : Triple P (x >>= f) R E := by
  intro s hP
  rw [EStateM.run_bind]
  cases hrun : x.run s with
  | ok a s' => exact hf a s' (hx.ok hP hrun)
  | error e s' => exact hx.error hP hrun

/-- A computation with its exceptions caught raises nothing. -/
theorem triple_attempt {R : Except ε α → σ → Prop}
    (hx : Triple P x (fun a => R (.ok a)) fun e => R (.error e)) : Triple P (attempt x) R E := by
  intro s hP
  rw [run_attempt]
  cases hrun : x.run s with
  | ok a s' => exact hx.ok hP hrun
  | error e s' => exact hx.error hP hrun

/-- A computation that goes on with what another returned or raised. -/
theorem triple_attempt_bind {f : Except ε α → EStateM ε σ β} {R : β → σ → Prop}
    (hx : Triple P x Q E') (hok : ∀ a, Triple (Q a) (f (.ok a)) R E)
    (herror : ∀ e, Triple (E' e) (f (.error e)) R E) : Triple P (attempt x >>= f) R E := by
  intro s hP
  rw [EStateM.run_bind, run_attempt]
  cases hrun : x.run s with
  | ok a s' => exact hok a s' (hx.ok hP hrun)
  | error e s' => exact herror e s' (hx.error hP hrun)

/-- A computation on a part of the state. -/
theorem triple_zoom {view : τ → σ} {put : σ → τ → τ} {P : τ → Prop} {Q : α → τ → Prop}
    {E : ε → τ → Prop}
    (hx : ∀ t, P t → Triple (· = view t) x (fun a s => Q a (put s t)) fun e s => E e (put s t)) :
    Triple P (zoom view put x) Q E := by
  intro t hP
  rw [run_zoom]
  cases hrun : x.run (view t) with
  | ok a s' => exact (hx t hP).ok rfl hrun
  | error e s' => exact (hx t hP).error rfl hrun

theorem triple_mono (h : Triple P x Q E) (hP : ∀ s, R s → P s) (hQ : ∀ a s, Q a s → Q' a s)
    (hE : ∀ e s, E e s → E' e s) : Triple R x Q' E' :=
  triple_of_runs (fun _ _ _ hpre hrun => hQ _ _ (h.ok (hP _ hpre) hrun))
    fun _ _ _ hpre hrun => hE _ _ (h.error (hP _ hpre) hrun)

/-- A computation that never raises. -/
theorem Triple.of_returns (h : Triple P x Q fun _ _ => False) : Triple P x Q E :=
  triple_mono h (fun _ h => h) (fun _ _ h => h) fun _ _ h => h.elim

/-- A computation that is never started. -/
theorem triple_false : Triple (fun _ => False) x Q E := fun _ h => h.elim

/-- Two triples of one computation. -/
theorem triple_and (h : Triple P x Q E) (h' : Triple P x Q' E') :
    Triple P x (fun a s => Q a s ∧ Q' a s) fun e s => E e s ∧ E' e s :=
  triple_of_runs (fun _ _ _ hP hrun => ⟨h.ok hP hrun, h'.ok hP hrun⟩)
    fun _ _ _ hP hrun => ⟨h.error hP hrun, h'.error hP hrun⟩

/-- A run that is known to return. -/
theorem triple_of_run_ok {s s' : σ} {a : α} (h : x.run s = .ok a s') (h' : Q a s') :
    Triple (· = s) x Q E := by
  rintro _ rfl
  rw [h]
  exact h'

/-- A run that is known to raise. -/
theorem triple_of_run_error {s s' : σ} {e : ε} (h : x.run s = .error e s') (h' : E e s') :
    Triple (· = s) x Q E := by
  rintro _ rfl
  rw [h]
  exact h'

/-- A triple from one state, with the run that returned. -/
theorem Triple.withRun (h : Triple P x Q E) {s : σ} (hs : P s) :
    Triple (· = s) x (fun a s' => Q a s' ∧ x.run s = .ok a s') E := by
  refine triple_of_runs ?_ ?_
  · rintro _ a s' rfl hrun
    exact ⟨h.ok hs hrun, hrun⟩
  · rintro _ e s' rfl hrun
    exact h.error hs hrun

/-- It is enough to consider one initial state at a time. -/
theorem triple_of_eq (h : ∀ s, P s → Triple (· = s) x Q E) : Triple P x Q E :=
  fun s hP => h s hP s rfl

/-! ## What a computation keeps -/

theorem Keeps.bind {I : σ → Prop} {f : α → EStateM ε σ β} (hx : Keeps I x)
    (hf : ∀ a, Keeps I (f a)) : Keeps I (x >>= f) := triple_bind hx hf

theorem Keeps.unless {I : σ → Prop} {B : ε → σ → Prop} (hx : Keeps I x) : KeepsUnless B I x :=
  triple_mono hx (fun _ h => h) (fun _ _ h => h) fun _ _ h => Or.inl h

theorem KeepsUnless.keeps {I : σ → Prop} {x : EStateM ε σ α}
    (hx : KeepsUnless (fun _ _ => False) I x) : Keeps I x :=
  triple_mono hx (fun _ h => h) (fun _ _ h => h) fun _ _ h => h.resolve_right id

theorem KeepsUnless.bind {I : σ → Prop} {B : ε → σ → Prop} {f : α → EStateM ε σ β}
    (hx : KeepsUnless B I x) (hf : ∀ a, KeepsUnless B I (f a)) : KeepsUnless B I (x >>= f) :=
  triple_bind hx hf

theorem Keeps.attempt {I : σ → Prop} (hx : Keeps I x) : Keeps I (attempt x) :=
  triple_attempt hx

/-- A sequence ends where its first computation does, if the rest keeps it. -/
theorem Leads.bind {S : σ → Prop} {f : α → EStateM ε σ β} (hx : Leads P x S)
    (hf : ∀ a, Keeps S (f a)) : Leads P (x >>= f) S := triple_bind hx hf

theorem Leads.finalState {S : σ → Prop} (hx : Leads P x S) {s : σ} (hs : P s) :
    S (finalState (x.run s)) := by
  cases hrun : x.run s with
  | ok a s' => exact hx.ok hs hrun
  | error e s' => exact hx.error hs hrun

theorem Keeps.finalState {I : σ → Prop} (hx : Keeps I x) {s : σ} (hs : I s) :
    I (finalState (x.run s)) := Leads.finalState hx hs

/-- **What every computation of a list keeps, running them all keeps**, with their exceptions
caught in between. -/
theorem Keeps.foldl {I : σ → Prop} {run : β → EStateM ε σ α} {l : List β}
    (h : ∀ b ∈ l, Keeps I (run b)) {s : σ} (hs : I s) :
    I (l.foldl (fun s b => Raising.finalState ((run b).run s)) s) := by
  induction l generalizing s with
  | nil => exact hs
  | cons b l ih =>
    rw [List.foldl_cons]
    apply ih
    · exact fun other hother => h other (List.mem_cons_of_mem _ hother)
    · exact (h b List.mem_cons_self).finalState hs

end Raising
