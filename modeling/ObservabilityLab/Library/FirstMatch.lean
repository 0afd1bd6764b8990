import Mathlib.Data.List.Nodup

/-!
# First matches

Searches of a list for the first element with a property: with its index, and by a unique key.

## Main results

* `find?_zipIdx_eq_some`, `find?_zipIdx_eq_none`: the first element with a property of it and its
  index
* `find?_key_eq_some`: the element with a key that no other element has
-/

namespace FirstMatch

variable {α κ : Type} {l : List α}

/-- The first element with a property, and its index. -/
theorem find?_zipIdx_eq_some {p : α × ℕ → Bool} {a : α} {i : ℕ} :
    l.zipIdx.find? p = some (a, i) ↔
      l[i]? = some a ∧ p (a, i) = true ∧ ∀ j < i, ∀ b, l[j]? = some b → ¬ p (b, j) = true := by
  rw [List.find?_eq_some_iff_getElem]
  constructor
  · rintro ⟨hp, index, hlength, hindex, hfirst⟩
    rw [List.getElem_zipIdx, Prod.mk.injEq, Nat.zero_add] at hindex
    obtain ⟨rfl, rfl⟩ := hindex
    rw [List.length_zipIdx] at hlength
    refine ⟨List.getElem?_eq_getElem hlength, hp, fun j hj b hb => ?_⟩
    obtain ⟨hjlength, rfl⟩ := List.getElem?_eq_some_iff.mp hb
    have hnot := hfirst j hj
    rwa [List.getElem_zipIdx, Nat.zero_add, Bool.not_eq_true', ← Bool.not_eq_true] at hnot
  · rintro ⟨ha, hp, hfirst⟩
    obtain ⟨hlength, rfl⟩ := List.getElem?_eq_some_iff.mp ha
    refine ⟨hp, i, by rwa [List.length_zipIdx], ?_, fun j hj => ?_⟩
    · rw [List.getElem_zipIdx, Nat.zero_add]
    · rw [List.getElem_zipIdx, Nat.zero_add, Bool.not_eq_true', ← Bool.not_eq_true]
      exact hfirst j hj _ (List.getElem?_eq_getElem (Nat.lt_trans hj hlength))

/-- No element has a property of it and its index. -/
theorem find?_zipIdx_eq_none {p : α × ℕ → Bool} :
    l.zipIdx.find? p = none ↔ ∀ i a, l[i]? = some a → ¬ p (a, i) = true := by
  rw [List.find?_eq_none]
  constructor
  · exact fun h i a ha => h (a, i) (List.mem_zipIdx_iff_getElem?.mpr ha)
  · exact fun h entry hmem => h entry.2 entry.1 (List.mem_zipIdx_iff_getElem?.mp hmem)

/-- The element with a key that no other element has. -/
theorem find?_key_eq_some [DecidableEq κ] {key : α → κ} (hunique : (l.map key).Nodup) {k : κ}
    {a : α} : l.find? (fun b => key b = k) = some a ↔ a ∈ l ∧ key a = k := by
  have hkey {b : α} (h : l.find? (fun b => key b = k) = some b) : key b = k :=
    of_decide_eq_true (List.find?_some (p := fun b => decide (key b = k)) h)
  constructor
  · exact fun h => ⟨List.mem_of_find?_eq_some h, hkey h⟩
  · rintro ⟨hmem, ha⟩
    cases hfind : l.find? (fun b => key b = k) with
    | none => exact absurd (decide_eq_true ha) (List.find?_eq_none.mp hfind a hmem)
    | some b =>
      have hb : b ∈ l := List.mem_of_find?_eq_some hfind
      rw [List.inj_on_of_nodup_map hunique hb hmem ((hkey hfind).trans ha.symm)]

end FirstMatch
