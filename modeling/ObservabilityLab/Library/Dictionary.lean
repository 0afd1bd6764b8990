import Mathlib.Data.List.Nodup
import Mathlib.Data.List.Lemmas

/-!
# Dictionaries in the order of their keys

A dictionary is the list of its entries, each key once, in the order in which the keys came. An
update computes the value of one key from the value that the key had.

## Main definitions

* `alter`: one update
* `alters`: some updates of an empty dictionary

## Main results

* `lookup_alter`, `keys_alter`: what is read after an update, and the keys after it
* `lookup_alters`: a value is made by the updates of its key alone
* `lookup_assigned`, `lookup_agreeing`: what is read after assignments to distinct keys, and after
  assignments that agree
-/

namespace Dictionary

variable {κ α : Type} [DecidableEq κ]

/-- `entries[key] = f(entries.get(key))` -/
def alter (entries : List (κ × α)) (key : κ) (f : Option α → α) : List (κ × α) :=
  if key ∈ entries.map (·.1) then
    entries.map fun entry => if entry.1 = key then (key, f (some entry.2)) else entry
  else entries ++ [(key, f none)]

/-- The entries after some updates, each with its key. -/
def altersFrom (entries : List (κ × α)) (updates : List (κ × (Option α → α))) : List (κ × α) :=
  updates.foldl (fun entries update => alter entries update.1 update.2) entries

/-- The entries after some updates of an empty dictionary. -/
def alters (updates : List (κ × (Option α → α))) : List (κ × α) := altersFrom [] updates

variable {entries : List (κ × α)} {key other : κ} {f : Option α → α}
  {updates : List (κ × (Option α → α))}

theorem lookup_eq_none_of_notMem (h : key ∉ entries.map (·.1)) : entries.lookup key = none := by
  rw [List.lookup_eq_none_iff]
  intro entry hentry
  rw [bne_iff_ne]
  rintro rfl
  exact h (List.mem_map_of_mem hentry)

/-- What is read after the values of one key are replaced. -/
theorem lookup_replaced : (entries.map fun entry =>
      if entry.1 = key then (key, f (some entry.2)) else entry).lookup other =
    if other = key then (entries.lookup key).map (f ∘ some) else entries.lookup other := by
  induction entries with
  | nil => simp
  | cons entry entries ih =>
    obtain ⟨first, value⟩ := entry
    rw [List.map_cons]
    by_cases hkey : first = key
    · by_cases hother : other = key
      · simp [hkey, hother]
      · have hne : (other == key) = false := beq_false_of_ne hother
        simp [List.lookup_cons, hkey, hother, hne, ih]
    · by_cases hother : other = first
      · have hne : other ≠ key := fun h => hkey (hother.symm.trans h)
        simp [hkey, hother]
      · have hne : (other == first) = false := beq_false_of_ne hother
        have hne' : (key == first) = false := beq_false_of_ne (Ne.symm hkey)
        simp only [if_neg hkey, List.lookup_cons, hne, hne', ih]

/-- **What is read after an update.** -/
theorem lookup_alter : (alter entries key f).lookup other =
    if other = key then some (f (entries.lookup key)) else entries.lookup other := by
  unfold alter
  by_cases h : key ∈ entries.map (·.1)
  · rw [if_pos h, lookup_replaced]
    have hsome : ∃ value, entries.lookup key = some value := by
      rw [← Option.isSome_iff_exists, List.lookup_isSome_iff]
      obtain ⟨entry, hentry, rfl⟩ := List.mem_map.mp h
      exact ⟨entry, hentry, beq_self_eq_true _⟩
    obtain ⟨value, hvalue⟩ := hsome
    rw [hvalue]
    rfl
  · rw [if_neg h, List.lookup_append, lookup_eq_none_of_notMem h]
    by_cases hother : other = key
    · rw [if_pos hother, hother, lookup_eq_none_of_notMem h]
      simp
    · have hne : (other == key) = false := beq_false_of_ne hother
      simp [hother, List.lookup_cons, hne]

/-- **The keys after an update**: a new key comes last. -/
theorem keys_alter : (alter entries key f).map (·.1) =
    if key ∈ entries.map (·.1) then entries.map (·.1) else entries.map (·.1) ++ [key] := by
  unfold alter
  by_cases h : key ∈ entries.map (·.1)
  · rw [if_pos h, if_pos h, List.map_map]
    apply List.map_congr_left
    intro entry _
    dsimp only [Function.comp_apply]
    split_ifs with hkey
    · exact hkey.symm
    · rfl
  · rw [if_neg h, if_neg h, List.map_append, List.map_singleton]

theorem lookup_altersFrom : (altersFrom entries updates).lookup other =
    (updates.filter (·.1 = other)).foldl (fun value update => some (update.2 value))
      (entries.lookup other) := by
  induction updates generalizing entries with
  | nil => rfl
  | cons update updates ih =>
    rw [altersFrom, List.foldl_cons]
    change (altersFrom (alter entries update.1 update.2) updates).lookup other = _
    rw [ih, lookup_alter]
    by_cases hother : update.1 = other
    · rw [if_pos hother.symm, List.filter_cons_of_pos (by simpa using hother), List.foldl_cons,
        hother]
    · rw [if_neg (Ne.symm hother), List.filter_cons_of_neg (by simpa using hother)]

/-- **A value is made by the updates of its key alone.** -/
theorem lookup_alters : (alters updates).lookup other =
    (updates.filter (·.1 = other)).foldl (fun value update => some (update.2 value)) none :=
  lookup_altersFrom

theorem mem_keys_altersFrom : other ∈ (altersFrom entries updates).map (·.1) ↔
    other ∈ entries.map (·.1) ∨ other ∈ updates.map (·.1) := by
  induction updates generalizing entries with
  | nil => simp [altersFrom]
  | cons update updates ih =>
    rw [altersFrom, List.foldl_cons]
    change other ∈ (altersFrom (alter entries update.1 update.2) updates).map (·.1) ↔ _
    rw [ih, keys_alter, List.map_cons, List.mem_cons]
    split_ifs with hmem
    · constructor
      · rintro (h | h)
        · exact Or.inl h
        · exact Or.inr (Or.inr h)
      · rintro (h | rfl | h)
        · exact Or.inl h
        · exact Or.inl hmem
        · exact Or.inr h
    · rw [List.mem_append, List.mem_singleton, or_assoc]

theorem nodup_keys_altersFrom (h : (entries.map (·.1)).Nodup) :
    ((altersFrom entries updates).map (·.1)).Nodup := by
  induction updates generalizing entries with
  | nil => exact h
  | cons update updates ih =>
    rw [altersFrom, List.foldl_cons]
    apply ih
    rw [keys_alter]
    split_ifs with hmem
    · exact h
    · rw [← List.concat_eq_append]
      exact List.Nodup.concat hmem h

/-- What every update keeps of the values of its key holds of every entry. -/
theorem forall_mem_altersFrom {P : κ → α → Prop} (hentries : ∀ entry ∈ entries, P entry.1 entry.2)
    (hupdates : ∀ update ∈ updates, ∀ value : Option α, (∀ known ∈ value, P update.1 known) →
      P update.1 (update.2 value)) :
    ∀ entry ∈ altersFrom entries updates, P entry.1 entry.2 := by
  induction updates generalizing entries with
  | nil => exact hentries
  | cons update updates ih =>
    have hupdate := hupdates update List.mem_cons_self
    refine ih ?_ fun other hother => hupdates other (List.mem_cons_of_mem _ hother)
    intro entry hentry
    change entry ∈ alter entries update.1 update.2 at hentry
    unfold alter at hentry
    split_ifs at hentry with hkey
    · obtain ⟨old, hold, rfl⟩ := List.mem_map.mp hentry
      split_ifs with heq
      · apply hupdate
        intro known hknown
        rw [← Option.some.inj hknown, ← heq]
        exact hentries old hold
      · exact hentries old hold
    · rcases List.mem_append.mp hentry with hold | hnew
      · exact hentries entry hold
      · rw [List.mem_singleton.mp hnew]
        exact hupdate none fun known hknown => by cases hknown

/-- Of elements with distinct keys, at most one has a key. -/
theorem filter_key_eq {β : Type} {l : List β} {key : β → κ} (hunique : (l.map key).Nodup) (k : κ) :
    l.filter (key · = k) = (l.find? (key · = k)).toList := by
  induction l with
  | nil => rfl
  | cons b l ih =>
    rw [List.map_cons, List.nodup_cons] at hunique
    by_cases hkey : key b = k
    · have hnone : l.filter (key · = k) = [] := by
        rw [List.filter_eq_nil_iff]
        intro other hother hsame
        apply hunique.1
        rw [hkey, ← of_decide_eq_true hsame]
        exact List.mem_map_of_mem hother
      rw [List.filter_cons_of_pos (by simpa using hkey),
        List.find?_cons_of_pos (by simpa using hkey), hnone]
      rfl
    · rw [List.filter_cons_of_neg (by simpa using hkey),
        List.find?_cons_of_neg (by simpa using hkey), ih hunique.2]

/-- **A dictionary of assignments to distinct keys holds what was assigned.** -/
theorem lookup_assigned {β : Type} {l : List β} {key : β → κ} {value : β → α}
    (hunique : (l.map key).Nodup) (k : κ) (v : α) :
    (alters (l.map fun b => (key b, fun _ => value b))).lookup k = some v ↔
      ∃ b ∈ l, key b = k ∧ value b = v := by
  rw [lookup_alters, List.filter_map, List.foldl_map]
  change (l.filter (key · = k)).foldl (fun _ b => some (value b)) none = some v ↔ _
  rw [filter_key_eq hunique]
  cases hfind : l.find? (key · = k) with
  | none =>
    constructor
    · intro h
      cases h
    · rintro ⟨b, hb, hk, -⟩
      exact absurd (decide_eq_true hk) (List.find?_eq_none.mp hfind b hb)
  | some b =>
    have hb := List.mem_of_find?_eq_some hfind
    have hkey : key b = k := by
      have := List.find?_some hfind
      exact of_decide_eq_true this
    constructor
    · intro h
      exact ⟨b, hb, hkey, Option.some.inj h⟩
    · rintro ⟨c, hc, hck, rfl⟩
      rw [List.inj_on_of_nodup_map hunique hb hc (hkey.trans hck.symm)]
      rfl

/-- **What is read after assignments that agree.** -/
theorem lookup_agreeing {β : Type} {l : List β} {key : β → κ} {value : β → α} {k : κ} {v : α}
    (hassigned : ∃ b ∈ l, key b = k) (hagree : ∀ b ∈ l, key b = k → value b = v) :
    (alters (l.map fun b => (key b, fun _ => value b))).lookup k = some v := by
  rw [lookup_alters, List.filter_map, List.foldl_map]
  change (l.filter (key · = k)).foldl (fun _ b => some (value b)) none = some v
  rcases List.eq_nil_or_concat (l.filter (key · = k)) with hnil | ⟨first, last, hlast⟩
  · obtain ⟨b, hb, hk⟩ := hassigned
    exact absurd (decide_eq_true hk) (List.filter_eq_nil_iff.mp hnil b hb)
  · have hmem : last ∈ l.filter (key · = k) := by
      rw [hlast, List.concat_eq_append]
      exact List.mem_append_right _ (List.mem_singleton_self last)
    obtain ⟨hl, hk⟩ := List.mem_filter.mp hmem
    rw [hlast, List.concat_eq_append, List.foldl_append]
    exact congrArg some (hagree last hl (of_decide_eq_true hk))

/-- An entry of a dictionary is what is read at its key. -/
theorem lookup_of_mem (hkeys : (entries.map (·.1)).Nodup) {value : α}
    (h : (key, value) ∈ entries) : entries.lookup key = some value := by
  obtain ⟨before, after, rfl⟩ := List.append_of_mem h
  rw [List.lookup_eq_some_iff]
  refine ⟨before, after, rfl, ?_⟩
  intro entry hentry
  rw [List.map_append, List.map_cons, List.nodup_append] at hkeys
  rw [bne_iff_ne]
  exact (hkeys.2.2 entry.1 (List.mem_map_of_mem hentry) key List.mem_cons_self).symm

end Dictionary
