import Mathlib.Data.List.MinMax
import Mathlib.Data.List.Pairwise

/-!
# Versioned tables

An append-only table of rows that are versions of keys. Two uniqueness constraints hold: a key has
each version once, and each content hash once. Inserting a row that violates one of them changes
nothing.

## Main definitions

* `Versioned`: rows with a key, a version and a content hash
* `Conflict`: the violation of a constraint
* `Table`: rows without a conflict
* `Table.latest`, `Table.find`, `Table.findHash`, `Table.insert`: the newest row of a key, one exact
  version, one exact content, and the insertion of a row
* `Table.maxVersion`, `Table.newest`: the highest version of a key, and the rows that have it
* `Table.MayFollow`, `Table.Contiguous`: the next versions of a key, and versions without gaps

## Main results

* `Table.insert_eq_none`, `Table.mem_insert`: when an insertion fails, and what it adds
* `Table.find_eq_some`: the row of an exact version
* `Table.mem_latest`: the newest row of a key
* `Table.Contiguous.insert`: an insertion of a next version leaves no gap
* `Table.Contiguous.exists_iff`: the versions of a key are those from one to the highest
-/

namespace VersionedTable

/-- Rows that are versions of a key, with the hash of their content. -/
class Versioned (Row : Type) (Key Hash : outParam Type) where
  key : Row → Key
  version : Row → ℕ
  hash : Row → Hash

export Versioned (key version hash)

variable {Row Key Hash : Type} [Versioned Row Key Hash]

/-- Two rows violate the constraint on versions or the one on hashes. -/
def Conflict (r s : Row) : Prop := key r = key s ∧ (version r = version s ∨ hash r = hash s)

theorem Conflict.symm {r s : Row} (h : Conflict r s) : Conflict s r :=
  ⟨h.1.symm, h.2.imp Eq.symm Eq.symm⟩

variable (Row) in
/-- Rows without a conflict, the last inserted first. -/
structure Table where
  rows : List Row
  noConflict : rows.Pairwise fun r s => ¬ Conflict r s

namespace Table

/-- The table without rows. -/
def empty : Table Row := ⟨[], List.Pairwise.nil⟩

instance : Membership Row (Table Row) := ⟨fun t r => r ∈ t.rows⟩

theorem mem_def {t : Table Row} {r : Row} : r ∈ t ↔ r ∈ t.rows := Iff.rfl

theorem not_mem_empty (r : Row) : ¬ r ∈ (empty : Table Row) := List.not_mem_nil

variable {t t' : Table Row} {row r s : Row} {k : Key}

/-- Rows that conflict are the same row. -/
theorem eq_of_conflict (hr : r ∈ t) (hs : s ∈ t) (h : Conflict r s) : r = s := by
  have hsymm : Std.Symm fun r s : Row => ¬ Conflict r s :=
    ⟨fun _ _ hnot hconflict => hnot hconflict.symm⟩
  by_contra hne
  exact t.noConflict.forall hr hs hne h

/-! ## Lookups -/

variable [DecidableEq Key]

/-- The row of a key with the highest version. -/
def latest (t : Table Row) (k : Key) : Option Row :=
  (t.rows.filter (key · = k)).argmax version

/-- The row of one exact version of a key. -/
def find (t : Table Row) (k : Key) (v : ℕ) : Option Row :=
  t.rows.find? fun r => key r = k ∧ version r = v

/-- **The lookup of an exact version finds the row that has it.** -/
theorem find_eq_some (hr : r ∈ t) : t.find (key r) (version r) = some r := by
  cases hfind : t.find (key r) (version r) with
  | none =>
    have hnone := List.find?_eq_none.mp hfind r hr
    simp at hnone
  | some s =>
    have hs : s ∈ t := List.mem_of_find?_eq_some hfind
    have hkey := List.find?_some hfind
    rw [decide_eq_true_eq] at hkey
    rw [eq_of_conflict hs hr ⟨hkey.1, Or.inl hkey.2⟩]

theorem mem_latest (h : r ∈ t.latest k) : r ∈ t ∧ key r = k := by
  have hmem := List.argmax_mem h
  rw [List.mem_filter, decide_eq_true_eq] at hmem
  exact hmem

/-- The highest version of a key, or zero. -/
def maxVersion (t : Table Row) (k : Key) : ℕ :=
  ((t.rows.filter (key · = k)).map version).max?.getD 0

theorem mem_versions {v : ℕ} :
    v ∈ (t.rows.filter (key · = k)).map version ↔ ∃ r ∈ t, key r = k ∧ version r = v := by
  rw [List.mem_map]
  refine exists_congr fun r => ?_
  rw [List.mem_filter, decide_eq_true_eq, and_assoc]
  exact Iff.rfl

theorem version_le_maxVersion (hr : r ∈ t) : version r ≤ t.maxVersion (key r) := by
  have hmem : version r ∈ (t.rows.filter (key · = key r)).map version :=
    mem_versions.mpr ⟨r, hr, rfl, rfl⟩
  unfold maxVersion
  cases hmax : ((t.rows.filter (key · = key r)).map version).max? with
  | none =>
    rw [List.max?_eq_none_iff.mp hmax] at hmem
    exact absurd hmem List.not_mem_nil
  | some v => exact (List.max?_eq_some_iff.mp hmax).2 _ hmem

/-- A key without rows has no version, and the other keys have their highest one. -/
theorem maxVersion_cases (t : Table Row) (k : Key) :
    t.maxVersion k = 0 ∨ ∃ r ∈ t, key r = k ∧ version r = t.maxVersion k := by
  unfold maxVersion
  cases hmax : ((t.rows.filter (key · = k)).map version).max? with
  | none => exact Or.inl rfl
  | some v => exact Or.inr (mem_versions.mp (List.max?_eq_some_iff.mp hmax).1)

/-- The rows with the highest version of their key. -/
def newest (t : Table Row) : List Row := t.rows.filter fun r => version r = t.maxVersion (key r)

theorem mem_newest : r ∈ t.newest ↔ r ∈ t ∧ version r = t.maxVersion (key r) := by
  rw [newest, List.mem_filter, decide_eq_true_eq]
  exact Iff.rfl

/-- A key has one newest row. -/
theorem nodup_newest (t : Table Row) : (t.newest.map key).Nodup := by
  refine List.pairwise_map.mpr ((t.noConflict.filter _).imp_of_mem ?_)
  intro r s hr hs hnot hkey
  refine hnot ⟨hkey, Or.inl ?_⟩
  rw [(mem_newest.mp hr).2, (mem_newest.mp hs).2, hkey]

/-! ## Versions without gaps -/

/-- A version that may follow for a key: the first one, or the one after a stored version. -/
def MayFollow (t : Table Row) (k : Key) (v : ℕ) : Prop :=
  v = 1 ∨ ∃ r ∈ t, key r = k ∧ v = version r + 1

omit [DecidableEq Key] in
theorem MayFollow.mono {v : ℕ} (h : t.MayFollow k v) (hkept : ∀ r ∈ t, r ∈ t') :
    t'.MayFollow k v := by
  rcases h with hfirst | ⟨r, hr, hkey, hnext⟩
  · exact Or.inl hfirst
  · exact Or.inr ⟨r, hkept r hr, hkey, hnext⟩

omit [DecidableEq Key] in
theorem MayFollow.one_le {v : ℕ} (h : t.MayFollow k v) : 1 ≤ v := by
  rcases h with rfl | ⟨r, -, -, rfl⟩
  · exact le_rfl
  · exact Nat.le_add_left ..

theorem mayFollow_maxVersion (t : Table Row) (k : Key) :
    t.MayFollow k (t.maxVersion k + 1) := by
  rcases t.maxVersion_cases k with hzero | ⟨r, hr, hkey, hmax⟩
  · rw [hzero]
    exact Or.inl rfl
  · rw [← hmax]
    exact Or.inr ⟨r, hr, hkey, rfl⟩

/-- Every key has all versions up to each of its versions. -/
structure Contiguous (t : Table Row) : Prop where
  positive : ∀ r ∈ t, 1 ≤ version r
  below : ∀ r ∈ t, ∀ v, 1 ≤ v → v ≤ version r → ∃ s ∈ t, key s = key r ∧ version s = v

omit [DecidableEq Key] in
theorem contiguous_empty : (empty : Table Row).Contiguous :=
  ⟨fun r hr => absurd hr (not_mem_empty r), fun r hr => absurd hr (not_mem_empty r)⟩

/-- **The versions of a key are those from one to the highest.** -/
theorem Contiguous.exists_iff (h : t.Contiguous) {v : ℕ} :
    (∃ r ∈ t, key r = k ∧ version r = v) ↔ 1 ≤ v ∧ v ≤ t.maxVersion k := by
  constructor
  · rintro ⟨r, hr, rfl, rfl⟩
    exact ⟨h.positive r hr, version_le_maxVersion hr⟩
  · rintro ⟨hpositive, hmax⟩
    rcases t.maxVersion_cases k with hzero | ⟨r, hr, rfl, heq⟩
    · omega
    · exact h.below r hr v hpositive (heq ▸ hmax)

/-! ## Insertion -/

variable [DecidableEq Hash]

/-- The row of one exact content of a key. -/
def findHash (t : Table Row) (k : Key) (h : Hash) : Option Row :=
  t.rows.find? fun r => key r = k ∧ hash r = h

theorem mem_of_findHash {h : Hash} (hfind : t.findHash k h = some r) :
    r ∈ t ∧ key r = k ∧ hash r = h := by
  have hfound := List.find?_some hfind
  rw [decide_eq_true_eq] at hfound
  exact ⟨List.mem_of_find?_eq_some hfind, hfound⟩

/-- **The lookup of an exact content finds the row that has it.** -/
theorem findHash_eq_some (hr : r ∈ t) : t.findHash (key r) (hash r) = some r := by
  cases hfind : t.findHash (key r) (hash r) with
  | none =>
    have hnone := List.find?_eq_none.mp hfind r hr
    simp at hnone
  | some s =>
    obtain ⟨hs, hkey, hhash⟩ := mem_of_findHash hfind
    rw [eq_of_conflict hs hr ⟨hkey, Or.inr hhash⟩]

instance (r s : Row) : Decidable (Conflict r s) := inferInstanceAs (Decidable (_ ∧ _))

/-- The table with one row more, unless the row violates a constraint. -/
def insert (t : Table Row) (row : Row) : Option (Table Row) :=
  if h : ∀ r ∈ t.rows, ¬ Conflict row r then
    some ⟨row :: t.rows, List.pairwise_cons.mpr ⟨h, t.noConflict⟩⟩
  else none

/-- **An insertion fails exactly when the row conflicts with a row of the table.** -/
theorem insert_eq_none : t.insert row = none ↔ ∃ r ∈ t, Conflict row r := by
  unfold insert
  split_ifs with h
  · simp only [false_iff, not_exists, not_and]
    exact h
  · simp only [not_forall, not_not, exists_prop] at h
    exact iff_of_true rfl h

theorem rows_of_insert (h : t.insert row = some t') : t'.rows = row :: t.rows := by
  unfold insert at h
  split_ifs at h
  rw [← Option.some.inj h]

/-- **An insertion adds its row and keeps the others.** -/
theorem mem_insert (h : t.insert row = some t') : r ∈ t' ↔ r = row ∨ r ∈ t := by
  rw [mem_def, rows_of_insert h, List.mem_cons, mem_def]

/-- **An insertion of a next version leaves no gap.** -/
theorem Contiguous.insert (h : t.Contiguous) (hnext : t.MayFollow (key row) (version row))
    (hinsert : t.insert row = some t') : t'.Contiguous := by
  have hold (r : Row) (hr : r ∈ t) : r ∈ t' := (mem_insert hinsert).mpr (Or.inr hr)
  have hnew : row ∈ t' := (mem_insert hinsert).mpr (Or.inl rfl)
  refine ⟨fun r hr => ?_, fun r hr v hpositive hle => ?_⟩
  · rcases (mem_insert hinsert).mp hr with rfl | hr
    · rcases hnext with hfirst | ⟨_, _, _, hnext⟩
      · exact hfirst.ge
      · omega
    · exact h.positive r hr
  · rcases (mem_insert hinsert).mp hr with rfl | hr
    · -- the last version is the new row, and the others were there
      rcases Nat.lt_or_ge v (version r) with hlt | hge
      · rcases hnext with hfirst | ⟨s, hs, hkey, hnext⟩
        · omega
        · obtain ⟨other, hother, hsame, hversion⟩ := h.below s hs v hpositive (by omega)
          exact ⟨other, hold other hother, hsame.trans hkey, hversion⟩
      · exact ⟨r, hnew, rfl, Nat.le_antisymm hge hle⟩
    · obtain ⟨other, hother, hsame, hversion⟩ := h.below r hr v hpositive hle
      exact ⟨other, hold other hother, hsame, hversion⟩

/-- An insertion puts its row before the others. -/
theorem rows_suffix_of_insert (h : t.insert row = some t') : t.rows <:+ t'.rows := by
  rw [rows_of_insert h]
  exact List.suffix_cons ..

end Table

end VersionedTable
