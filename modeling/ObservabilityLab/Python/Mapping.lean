import Mathlib.Data.List.Nodup

/-!
# Python mappings

The assignment of one key of an ordered mapping: a key that is there keeps its place, a new one
comes last.

## Main definitions

* `assignKey`: `mapping[key] = value`

## Main results

* `keys_assignKey`: the keys after an assignment, in order
* `lookup_assignKey`: what is read after an assignment
-/

namespace Python

variable {α : Type} {mapping : List (String × α)} {key name : String} {value : α}

/-- `mapping[key] = value` -/
def assignKey (mapping : List (String × α)) (key : String) (value : α) : List (String × α) :=
  if mapping.any (·.1 = key) then
    mapping.map fun entry => if entry.1 = key then (key, value) else entry
  else mapping ++ [(key, value)]

theorem mem_assignKey {entry : String × α} (h : entry ∈ assignKey mapping key value) :
    entry = (key, value) ∨ entry ∈ mapping := by
  unfold assignKey at h
  split_ifs at h
  · obtain ⟨other, hother, rfl⟩ := List.mem_map.mp h
    split_ifs
    · exact Or.inl rfl
    · exact Or.inr hother
  · rcases List.mem_append.mp h with h | h
    · exact Or.inr h
    · exact Or.inl (List.mem_singleton.mp h)

theorem any_key_iff : mapping.any (·.1 = key) = true ↔ key ∈ mapping.map (·.1) := by
  rw [List.any_eq_true, List.mem_map]
  simp only [decide_eq_true_eq]

/-- **The keys after an assignment**, in order. -/
theorem keys_assignKey (mapping : List (String × α)) (key : String) (value : α) :
    (assignKey mapping key value).map (·.1) =
      if key ∈ mapping.map (·.1) then mapping.map (·.1) else mapping.map (·.1) ++ [key] := by
  unfold assignKey
  by_cases h : mapping.any (·.1 = key) = true
  · rw [if_pos h, if_pos (any_key_iff.mp h), List.map_map]
    apply List.map_congr_left
    intro entry _
    dsimp only [Function.comp_apply]
    split_ifs with hkey
    · exact hkey.symm
    · rfl
  · rw [if_neg h, if_neg (mt any_key_iff.mpr h), List.map_append, List.map_singleton]

theorem key_mem_assignKey :
    name ∈ (assignKey mapping key value).map (·.1) ↔ name = key ∨ name ∈ mapping.map (·.1) := by
  rw [keys_assignKey]
  split_ifs with h
  · constructor
    · exact Or.inr
    · rintro (rfl | hname)
      · exact h
      · exact hname
  · rw [List.mem_append, List.mem_singleton, or_comm]

/-- What is read after the entries of a key are replaced. -/
theorem lookup_replaced (mapping : List (String × α)) (key name : String) (value : α) :
    (mapping.map fun entry => if entry.1 = key then (key, value) else entry).lookup name =
      if name = key ∧ key ∈ mapping.map (·.1) then some value else mapping.lookup name := by
  induction mapping with
  | nil => simp
  | cons entry mapping ih =>
    obtain ⟨other, kept⟩ := entry
    rw [List.map_cons]
    by_cases hkey : other = key
    · by_cases hname : name = key
      · simp [hkey, hname]
      · have hhead : (name == key) = false := beq_false_of_ne hname
        simp [List.lookup_cons, hkey, hname, hhead, ih]
    · by_cases hname : name = other
      · simp [hkey, hname]
      · have hhead : (name == other) = false := beq_false_of_ne hname
        have hmem : key ∈ ((other, kept) :: mapping).map (·.1) ↔ key ∈ mapping.map (·.1) := by
          rw [List.map_cons, List.mem_cons, or_iff_right (Ne.symm hkey)]
        simp only [if_neg hkey, List.lookup_cons, hhead, ih, hmem]

/-- **What is read after an assignment.** -/
theorem lookup_assignKey (mapping : List (String × α)) (key name : String) (value : α) :
    (assignKey mapping key value).lookup name =
      if name = key then some value else mapping.lookup name := by
  unfold assignKey
  by_cases h : mapping.any (·.1 = key) = true
  · rw [if_pos h, lookup_replaced]
    simp only [any_key_iff.mp h, and_true]
  · have hnone : mapping.lookup key = none := by
      rw [List.lookup_eq_none_iff]
      intro entry hentry
      rw [bne_iff_ne]
      rintro rfl
      exact h (any_key_iff.mpr (List.mem_map_of_mem hentry))
    rw [if_neg h, List.lookup_append]
    by_cases hname : name = key
    · simp [hname, hnone]
    · simp [List.lookup_cons, hname, beq_false_of_ne hname]

theorem isSome_lookup_iff : (mapping.lookup key).isSome = true ↔ key ∈ mapping.map (·.1) := by
  rw [List.lookup_isSome_iff, List.mem_map]
  constructor
  · rintro ⟨entry, hentry, heq⟩
    exact ⟨entry, hentry, (beq_iff_eq.mp heq).symm⟩
  · rintro ⟨entry, hentry, rfl⟩
    exact ⟨entry, hentry, beq_self_eq_true _⟩

theorem mem_of_lookup (h : mapping.lookup key = some value) : (key, value) ∈ mapping := by
  obtain ⟨before, after, rfl, -⟩ := List.lookup_eq_some_iff.mp h
  exact List.mem_append_right _ List.mem_cons_self

/-- An entry of a mapping is what is read at its key. -/
theorem lookup_of_mem (hkeys : (mapping.map (·.1)).Nodup) (h : (key, value) ∈ mapping) :
    mapping.lookup key = some value := by
  obtain ⟨before, after, rfl⟩ := List.append_of_mem h
  rw [List.lookup_eq_some_iff]
  refine ⟨before, after, rfl, ?_⟩
  intro entry hentry
  rw [List.map_append, List.map_cons, List.nodup_append] at hkeys
  rw [bne_iff_ne]
  exact (hkeys.2.2 entry.1 (List.mem_map_of_mem hentry) key List.mem_cons_self).symm

end Python
