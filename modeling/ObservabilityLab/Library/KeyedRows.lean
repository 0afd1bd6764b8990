import ObservabilityLab.Library.FirstMatch

/-!
# Rows with keys

A table whose rows have keys. The rows with one key are replaced by another row with that key, and
what a count of the rows gains is what the new row counts more than the old one.

## Main definitions

* `replace`: the rows with a key are replaced by another row

## Main results

* `map_key_replace`: a replacement keeps the keys
* `eq_of_key`: the rows with the key of a row, when keys are distinct
* `countP_replace`: the count after one row was replaced
-/

namespace KeyedRows

variable {α β κ : Type} [DecidableEq κ]

/-- The rows with a key are replaced. -/
def replace (key : α → κ) (k : κ) (new : α) (rows : List α) : List α :=
  rows.map fun row => if key row = k then new else row

variable {key : α → κ} {k : κ} {new old row : α} {rows : List α}

theorem map_key_replace (hnew : key new = k) : (replace key k new rows).map key = rows.map key := by
  rw [replace, List.map_map]
  apply List.map_congr_left
  intro row _
  rw [Function.comp_apply]
  split_ifs with hrow
  · rw [hnew, hrow]
  · rfl

section Views

variable {κ' : Type} [DecidableEq κ'] {view : α → β} {key' : β → κ'} {k' : κ'}

/-- A view that shows the key shows a replacement as a replacement. -/
theorem map_replace (hkey : ∀ row, key' (view row) = k' ↔ key row = k) :
    (replace key k new rows).map view = replace key' k' (view new) (rows.map view) := by
  rw [replace, replace, List.map_map, List.map_map]
  apply List.map_congr_left
  intro row _
  rw [Function.comp_apply, Function.comp_apply, apply_ite view]
  exact if_congr (hkey row).symm rfl rfl

/-- A view that shows the key finds the same row. -/
theorem find?_map_view (hkey : ∀ row, key' (view row) = k' ↔ key row = k) :
    (rows.map view).find? (fun row => key' row = k') =
      (rows.find? fun row => key row = k).map view := by
  rw [List.find?_map]
  congr 2
  funext row
  exact decide_eq_decide.mpr (hkey row)

end Views

theorem replace_of_notMem (h : k ∉ rows.map key) : replace key k new rows = rows := by
  rw [replace]
  conv_rhs => rw [← List.map_id rows]
  apply List.map_congr_left
  intro row hrow
  rw [if_neg (fun hk => h (List.mem_map.mpr ⟨row, hrow, hk⟩)), id]

theorem find?_key (h : rows.find? (fun row => key row = k) = some old) :
    old ∈ rows ∧ key old = k :=
  ⟨List.mem_of_find?_eq_some h,
    of_decide_eq_true (List.find?_some (p := fun row => decide (key row = k)) h)⟩

/-- A row with the key of another is that one. -/
theorem eq_of_key (hkeys : (rows.map key).Nodup)
    (hold : rows.find? (fun row => key row = k) = some old) (hrow : row ∈ rows)
    (hkey : key row = k) : row = old :=
  List.inj_on_of_nodup_map hkeys hrow (find?_key hold).1 (hkey.trans (find?_key hold).2.symm)

/-- **The count after one row was replaced.** -/
theorem countP_replace (hkeys : (rows.map key).Nodup)
    (hold : rows.find? (fun row => key row = k) = some old) (new : α) (p : α → Bool) :
    (replace key k new rows).countP p + (if p old then 1 else 0) =
      rows.countP p + if p new then 1 else 0 := by
  induction rows with
  | nil => cases hold
  | cons row rows ih =>
    rw [List.map_cons, List.nodup_cons] at hkeys
    have hcons : replace key k new (row :: rows) =
        (if key row = k then new else row) :: replace key k new rows := rfl
    rw [hcons, List.countP_cons, List.countP_cons]
    by_cases hrow : key row = k
    · obtain rfl : row = old := by simpa [hrow] using hold
      rw [if_pos hrow, replace_of_notMem (hrow ▸ hkeys.1)]
      omega
    · have hrest := ih hkeys.2 (by simpa [hrow] using hold)
      rw [if_neg hrow]
      omega

end KeyedRows
