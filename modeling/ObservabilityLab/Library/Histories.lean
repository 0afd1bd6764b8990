import Mathlib.Data.List.Infix
import Mathlib.Data.List.Indexes

/-!
# Loops and what came before

The elements of a list, each with the elements before it, and loops whose invariant speaks of the
elements that are done.

## Main definitions

* `histories`: the elements of a list, each with the ones before it

## Main results

* `mem_histories_iff`: the histories are the places of the list
* `exists_history_concat`, `forall_history_concat`: the places of a list with one more element
* `length_filter_le_one`: at most one element, if none comes before another
* `foldl_history`, `foldlM_history`: what a loop keeps, with the elements that are done
* `foldlM_returns_iff`: a loop returns when each of its steps does
-/

namespace Histories

variable {α σ ε : Type}

/-- The elements of a list, each with the ones before it. -/
def histories (l : List α) : List (List α × α) := l.mapIdx fun i a => (l.take i, a)

@[simp] theorem histories_nil : histories ([] : List α) = [] := rfl

theorem histories_concat (l : List α) (a : α) : histories (l ++ [a]) = histories l ++ [(l, a)] := by
  rw [histories, List.mapIdx_append]
  congr 1
  · apply List.mapIdx_eq_mapIdx_iff.mpr
    intro i hi
    rw [List.take_append_of_le_length hi.le]
  · simp

/-- The histories are the places of the list. -/
theorem mem_histories_iff {l before : List α} {a : α} :
    (before, a) ∈ histories l ↔ ∃ after, l = before ++ a :: after := by
  induction l using List.reverseRecOn with
  | nil => simp
  | append_singleton l b ih =>
    rw [histories_concat, List.mem_append, ih, List.mem_singleton]
    constructor
    · rintro (⟨after, rfl⟩ | h)
      · exact ⟨after ++ [b], by simp⟩
      · obtain ⟨rfl, rfl⟩ := Prod.mk.inj h
        exact ⟨[], rfl⟩
    · rintro ⟨after, h⟩
      rcases List.eq_nil_or_concat after with rfl | ⟨after, c, rfl⟩
      · obtain ⟨rfl, hb⟩ := List.append_inj' h rfl
        obtain rfl := List.singleton_inj.mp hb
        exact Or.inr rfl
      · rw [List.concat_eq_append, ← List.cons_append, ← List.append_assoc] at h
        exact Or.inl ⟨after, (List.append_inj' h rfl).1⟩

/-- The places of a list with one more element. -/
theorem exists_history_concat {l : List α} {a : α} {p : List α → α → Prop} :
    (∃ before b, (before, b) ∈ histories (l ++ [a]) ∧ p before b) ↔
      (∃ before b, (before, b) ∈ histories l ∧ p before b) ∨ p l a := by
  simp only [histories_concat, List.mem_append, List.mem_singleton, Prod.mk.injEq]
  constructor
  · rintro ⟨before, b, h | ⟨rfl, rfl⟩, hp⟩
    · exact Or.inl ⟨before, b, h, hp⟩
    · exact Or.inr hp
  · rintro (⟨before, b, h, hp⟩ | hp)
    · exact ⟨before, b, Or.inl h, hp⟩
    · exact ⟨l, a, Or.inr ⟨rfl, rfl⟩, hp⟩

theorem forall_history_concat {l : List α} {a : α} {p : List α → α → Prop} :
    (∀ before b, (before, b) ∈ histories (l ++ [a]) → p before b) ↔
      (∀ before b, (before, b) ∈ histories l → p before b) ∧ p l a := by
  simp only [histories_concat, List.mem_append, List.mem_singleton, Prod.mk.injEq]
  constructor
  · intro h
    exact ⟨fun before b hplace => h before b (Or.inl hplace), h l a (Or.inr ⟨rfl, rfl⟩)⟩
  · rintro ⟨h, hp⟩ before b (hplace | ⟨rfl, rfl⟩)
    · exact h before b hplace
    · exact hp

/-- At most one element has a property, if none with it has one with it before. -/
theorem length_filter_le_one {l : List α} {p : α → Bool}
    (h : ∀ before a, (before, a) ∈ histories l → p a = true → ∀ b ∈ before, ¬ p b = true) :
    (l.filter p).length ≤ 1 := by
  induction l using List.reverseRecOn with
  | nil => exact Nat.zero_le 1
  | append_singleton l a ih =>
    rw [forall_history_concat] at h
    rw [List.filter_append, List.length_append, List.filter_singleton]
    cases ha : p a with
    | true =>
      rw [List.filter_eq_nil_iff.mpr (h.2 ha)]
      rfl
    | false => exact ih h.1

/-- What a loop keeps, with the elements that are done. -/
theorem foldl_history {I : List α → σ → Prop} {f : σ → α → σ} {s : σ} (hinit : I [] s)
    (hstep : ∀ done a s, I done s → I (done ++ [a]) (f s a)) (l : List α) : I l (l.foldl f s) := by
  induction l using List.reverseRecOn with
  | nil => exact hinit
  | append_singleton l a ih =>
    rw [List.foldl_append, List.foldl_cons, List.foldl_nil]
    exact hstep l a _ ih

/-- What a loop that may fail keeps, with the elements that are done. -/
theorem foldlM_history {I : List α → σ → Prop} {f : σ → α → Except ε σ} {s s' : σ}
    (hinit : I [] s) (hstep : ∀ done a s s', I done s → f s a = .ok s' → I (done ++ [a]) s')
    {l : List α} (hrun : l.foldlM f s = .ok s') : I l s' := by
  induction l using List.reverseRecOn generalizing s' with
  | nil =>
    obtain rfl := Except.ok.inj hrun
    exact hinit
  | append_singleton l a ih =>
    rw [List.foldlM_append] at hrun
    cases hbefore : l.foldlM f s with
    | error e =>
      rw [hbefore] at hrun
      cases hrun
    | ok before =>
      rw [hbefore] at hrun
      change ((f before a) >>= pure) = .ok s' at hrun
      rw [bind_pure] at hrun
      exact hstep l a before s' (ih hbefore) hrun

/-- **A loop returns when each of its steps does**, if this does not depend on the state. -/
theorem foldlM_returns_iff {f : σ → α → Except ε σ} {p : α → Prop}
    (hstep : ∀ s a, (∃ s', f s a = .ok s') ↔ p a) {l : List α} {s : σ} :
    (∃ s', l.foldlM f s = .ok s') ↔ ∀ a ∈ l, p a := by
  induction l generalizing s with
  | nil =>
    simp only [List.foldlM_nil, List.not_mem_nil, false_imp_iff, implies_true, iff_true]
    exact ⟨s, rfl⟩
  | cons a l ih =>
    rw [List.foldlM_cons, List.forall_mem_cons, ← hstep s]
    cases hfirst : f s a with
    | error e =>
      apply iff_of_false
      · rintro ⟨s', h⟩
        cases h
      · rintro ⟨⟨s', h⟩, -⟩
        cases h
    | ok next =>
      have hnext : ∃ s', (Except.ok next : Except ε σ) = .ok s' := ⟨next, rfl⟩
      rw [and_iff_right hnext, ← ih (s := next)]
      rfl

end Histories
