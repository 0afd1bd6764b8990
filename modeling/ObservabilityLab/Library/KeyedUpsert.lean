import Mathlib.Data.List.Nodup
import ObservabilityLab.Library.FirstMatch

/-!
# Upserts of keyed rows

One statement inserts some rows into a table with a primary key; a row whose key is there already is
merged into the stored one.

## Main definitions

* `mergeRow`: a stored row after the statement
* `upsert`: the table after the statement

## Main results

* `mem_upsert`: the rows after the statement
* `nodup_upsert`: the keys stay unique
* `mergeRow_of_mem`, `mergeRow_of_notMem`: a row with the key of a new one is merged, another one
  stays
-/

namespace KeyedUpsert

variable {α κ : Type} [DecidableEq κ] (key : α → κ) (merge : α → α → α)

/-- A stored row after the statement. -/
def mergeRow (news : List α) (row : α) : α :=
  match news.find? (key · = key row) with
  | some new => merge row new
  | none => row

/-- The rows after the statement: the stored ones, and the new ones with new keys. -/
def upsert (news rows : List α) : List α :=
  rows.map (mergeRow key merge news) ++ news.filter (key · ∉ rows.map key)

variable {key merge} {news rows : List α} {row new : α}

theorem mem_upsert : row ∈ upsert key merge news rows ↔
    (∃ stored ∈ rows, mergeRow key merge news stored = row) ∨
      row ∈ news ∧ key row ∉ rows.map key := by
  rw [upsert, List.mem_append, List.mem_map, List.mem_filter, decide_eq_true_eq]

/-- A statement without rows changes nothing. -/
theorem upsert_nil : upsert key merge [] rows = rows := by
  rw [upsert, List.filter_nil, List.append_nil]
  exact List.map_id' rows

theorem mergeRow_of_mem (hnews : (news.map key).Nodup) (hnew : new ∈ news)
    (hkey : key new = key row) : mergeRow key merge news row = merge row new := by
  have hfind : news.find? (key · = key row) = some new :=
    (FirstMatch.find?_key_eq_some hnews).mpr ⟨hnew, hkey⟩
  rw [mergeRow, hfind]

theorem mergeRow_of_notMem (h : key row ∉ news.map key) : mergeRow key merge news row = row := by
  have hfind : news.find? (key · = key row) = none := by
    rw [List.find?_eq_none]
    intro new hnew hkey
    exact h (of_decide_eq_true hkey ▸ List.mem_map_of_mem hnew)
  rw [mergeRow, hfind]

/-- A merge that keeps the keys of the stored rows. -/
def KeepsKeys (key : α → κ) (merge : α → α → α) : Prop := ∀ row new, key (merge row new) = key row

theorem key_mergeRow (hmerge : KeepsKeys key merge) (row : α) :
    key (mergeRow key merge news row) = key row := by
  unfold mergeRow
  split
  · exact hmerge row _
  · rfl

/-- **The keys stay unique.** -/
theorem nodup_upsert (hmerge : KeepsKeys key merge) (hnews : (news.map key).Nodup)
    (hrows : (rows.map key).Nodup) : ((upsert key merge news rows).map key).Nodup := by
  have hold : (rows.map (mergeRow key merge news)).map key = rows.map key := by
    rw [List.map_map]
    exact List.map_congr_left fun row _ => key_mergeRow hmerge row
  rw [upsert, List.map_append, hold, List.nodup_append]
  refine ⟨hrows, hnews.sublist (List.filter_sublist.map key), ?_⟩
  rintro k hk other hother rfl
  obtain ⟨new, hnew, rfl⟩ := List.mem_map.mp hother
  exact of_decide_eq_true (List.mem_filter.mp hnew).2 hk

end KeyedUpsert
