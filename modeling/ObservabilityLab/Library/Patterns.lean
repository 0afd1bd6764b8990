import Mathlib.Computability.Language
import Mathlib.Data.List.TakeWhile

/-!
# Patterns

Regular expressions as a backtracking matcher reads them. At a position a pattern may end at several
places, in the order in which the matcher tries them, and its match is the first one; a search takes
the leftmost position with a match.

## Main definitions

* `Pattern`, `Pattern.language`: the expressions, and the words that they match
* `Pattern.ends`: what is left behind the words at the beginning, in the order of the matcher
* `Pattern.matchAt`, `Pattern.search`: the match at the beginning, and the leftmost one
* `Pattern.occursBetween`: whether a word of the pattern occurs between boundaries

## Main results

* `mem_ends_iff`: the matcher tries exactly the words of the language
* `search_eq_some_iff`: a search finds the leftmost match
* `mem_language_of_search`: what it finds is a word of the language
* `search_isSome_iff`: a search finds a match exactly when some word of the language occurs
* `occursBetween_iff`: the same between boundaries
-/

/-- Regular expressions whose repetitions are greedy and of single symbols. -/
inductive Pattern (α : Type) where
  | empty
  | symbols (p : α → Bool) (least : ℕ) (most : Option ℕ)
  | seq (first second : Pattern α)
  | or (first second : Pattern α)

namespace Pattern

variable {α : Type}

instance : Append (Pattern α) := ⟨seq⟩

/-- One symbol. -/
def one (p : α → Bool) : Pattern α := symbols p 1 (some 1)

/-- A word. -/
def word [DecidableEq α] (w : List α) : Pattern α :=
  w.foldr (fun a rest => one (· = a) ++ rest) empty

/-- An optional pattern, which is tried first. -/
def optional (r : Pattern α) : Pattern α := r.or empty

/-- The words that a pattern matches. -/
def language : Pattern α → Language α
  | empty => 1
  | symbols p least most =>
    {w | (∀ a ∈ w, p a = true) ∧ least ≤ w.length ∧ ∀ m ∈ most, w.length ≤ m}
  | seq first second => first.language * second.language
  | or first second => first.language + second.language

/-- How many symbols a repetition takes at most. -/
def longest (p : α → Bool) (most : Option ℕ) (s : List α) : ℕ :=
  most.elim (s.takeWhile p).length (min (s.takeWhile p).length)

/-- What is left behind the words at the beginning, in the order in which they are tried. -/
def ends : Pattern α → List α → List (List α)
  | empty, s => [s]
  | symbols p least most, s =>
    (List.range (longest p most s + 1 - least)).map fun n => s.drop (longest p most s - n)
  | seq first second, s => (first.ends s).flatMap second.ends
  | or first second, s => first.ends s ++ second.ends s

/-- The length of the match at the beginning. -/
def matchAt (r : Pattern α) (s : List α) : Option ℕ :=
  (r.ends s).head?.map fun rest => s.length - rest.length

/-- The leftmost match, with the positions where it begins and ends, behind some symbols. -/
def searchFrom (r : Pattern α) : ℕ → List α → Option (ℕ × ℕ)
  | start, [] => (r.matchAt []).map fun n => (start, start + n)
  | start, a :: s =>
    match r.matchAt (a :: s) with
    | some n => some (start, start + n)
    | none => r.searchFrom (start + 1) s

/-- The leftmost match. -/
def search (r : Pattern α) (s : List α) : Option (ℕ × ℕ) := r.searchFrom 0 s

/-! ## The words of a pattern -/

variable {r : Pattern α} {s rest : List α}

theorem longest_le_takeWhile (p : α → Bool) (most : Option ℕ) (s : List α) :
    longest p most s ≤ (s.takeWhile p).length := by
  cases most with
  | none => exact le_rfl
  | some m => exact min_le_left _ _

theorem longest_le_most {p : α → Bool} {m : ℕ} (s : List α) : longest p (some m) s ≤ m :=
  min_le_right _ _

/-- A repetition takes every number of symbols that its bounds allow. -/
theorem mem_ends_symbols {p : α → Bool} {least : ℕ} {most : Option ℕ} :
    rest ∈ (symbols p least most).ends s ↔
      ∃ w ∈ (symbols p least most).language, s = w ++ rest := by
  rw [ends, List.mem_map]
  constructor
  · rintro ⟨n, hn, rfl⟩
    rw [List.mem_range] at hn
    have hle := longest_le_takeWhile p most s
    have hlength := (List.takeWhile_prefix p (l := s)).length_le
    have htake : (s.take (longest p most s - n)).length = longest p most s - n := by
      rw [List.length_take]
      omega
    refine ⟨s.take (longest p most s - n), ⟨?_, ?_, ?_⟩, (List.take_append_drop _ _).symm⟩
    · intro a ha
      have hinitial : s.take (longest p most s - n) <+: s.takeWhile p := by
        apply List.prefix_of_prefix_length_le (List.take_prefix _ _) (List.takeWhile_prefix p)
        omega
      exact List.mem_takeWhile_imp (hinitial.subset ha)
    · rw [htake]
      omega
    · intro m hm
      obtain rfl : most = some m := hm
      have hmost := longest_le_most (p := p) (m := m) s
      rw [htake]
      omega
  · rintro ⟨w, ⟨hw, hleast, hmost⟩, rfl⟩
    have htake : w.length ≤ ((w ++ rest).takeWhile p).length := by
      rw [List.takeWhile_append_of_pos hw, List.length_append]
      exact Nat.le_add_right _ _
    have hlongest : w.length ≤ longest p most (w ++ rest) := by
      cases most with
      | none => exact htake
      | some m => exact le_min htake (hmost m rfl)
    refine ⟨longest p most (w ++ rest) - w.length, ?_, ?_⟩
    · rw [List.mem_range]
      omega
    · rw [Nat.sub_sub_self hlongest, List.drop_left]

/-- **The matcher tries exactly the words of the language.** -/
theorem mem_ends_iff : rest ∈ r.ends s ↔ ∃ w ∈ r.language, s = w ++ rest := by
  induction r generalizing s rest with
  | empty =>
    rw [ends, List.mem_singleton]
    constructor
    · rintro rfl
      exact ⟨[], rfl, rfl⟩
    · rintro ⟨w, rfl, rfl⟩
      rfl
  | symbols p least most => exact mem_ends_symbols
  | seq first second ihfirst ihsecond =>
    rw [ends, List.mem_flatMap]
    constructor
    · rintro ⟨middle, hmiddle, hrest⟩
      obtain ⟨w, hw, rfl⟩ := ihfirst.mp hmiddle
      obtain ⟨v, hv, rfl⟩ := ihsecond.mp hrest
      exact ⟨w ++ v, Language.append_mem_mul hw hv, (List.append_assoc _ _ _).symm⟩
    · rintro ⟨_, hword, rfl⟩
      obtain ⟨w, hw, v, hv, rfl⟩ := Language.mem_mul.mp hword
      refine ⟨v ++ rest, ihfirst.mpr ⟨w, hw, List.append_assoc _ _ _⟩, ihsecond.mpr ⟨v, hv, rfl⟩⟩
  | or first second ihfirst ihsecond =>
    rw [ends, List.mem_append, ihfirst, ihsecond]
    constructor
    · rintro (⟨w, hw, rfl⟩ | ⟨w, hw, rfl⟩)
      · exact ⟨w, Or.inl hw, rfl⟩
      · exact ⟨w, Or.inr hw, rfl⟩
    · rintro ⟨w, hw | hw, rfl⟩
      · exact Or.inl ⟨w, hw, rfl⟩
      · exact Or.inr ⟨w, hw, rfl⟩

theorem matchAt_isSome_iff : (r.matchAt s).isSome = true ↔ ∃ w ∈ r.language, w <+: s := by
  rw [matchAt, Option.isSome_map, List.isSome_head?]
  constructor
  · intro h
    obtain ⟨rest, hrest⟩ := List.exists_mem_of_ne_nil _ h
    obtain ⟨w, hw, rfl⟩ := mem_ends_iff.mp hrest
    exact ⟨w, hw, List.prefix_append _ _⟩
  · rintro ⟨w, hw, rest, rfl⟩
    exact List.ne_nil_of_mem (mem_ends_iff.mpr ⟨w, hw, rfl⟩)

/-- A match is a word of the language. -/
theorem take_mem_language {n : ℕ} (h : r.matchAt s = some n) : s.take n ∈ r.language := by
  rw [matchAt, Option.map_eq_some_iff] at h
  obtain ⟨rest, hrest, rfl⟩ := h
  obtain ⟨w, hw, rfl⟩ := mem_ends_iff.mp (List.mem_of_head? hrest)
  rwa [List.length_append, Nat.add_sub_cancel, List.take_left]

/-! ## The leftmost match -/

theorem searchFrom_eq_some_iff {start i j : ℕ} :
    r.searchFrom start s = some (i, j) ↔ ∃ d ≤ s.length, i = start + d ∧
      (∃ n, r.matchAt (s.drop d) = some n ∧ j = i + n) ∧
        ∀ d' < d, r.matchAt (s.drop d') = none := by
  -- on the rest of the text; the offset is counted from where the search began
  induction s generalizing start with
  | nil =>
    rw [searchFrom, Option.map_eq_some_iff]
    constructor
    · rintro ⟨n, hn, h⟩
      obtain ⟨rfl, rfl⟩ := Prod.mk.inj h
      exact ⟨0, le_rfl, rfl, ⟨n, hn, rfl⟩, fun d' hd' => absurd hd' (Nat.not_lt_zero _)⟩
    · rintro ⟨d, hd, rfl, ⟨n, hn, rfl⟩, -⟩
      obtain rfl := Nat.le_zero.mp hd
      exact ⟨n, hn, rfl⟩
  | cons a s ih =>
    rw [searchFrom]
    cases hmatch : r.matchAt (a :: s) with
    | some n =>
      constructor
      · intro h
        obtain ⟨rfl, rfl⟩ := Prod.mk.inj (Option.some.inj h)
        exact ⟨0, Nat.zero_le _, rfl, ⟨n, hmatch, rfl⟩,
          fun d' hd' => absurd hd' (Nat.not_lt_zero _)⟩
      · rintro ⟨d, -, rfl, ⟨m, hm, rfl⟩, hbefore⟩
        cases d with
        | zero =>
          rw [List.drop_zero, hmatch] at hm
          obtain rfl := Option.some.inj hm
          rfl
        | succ d =>
          have hnone := hbefore 0 (Nat.succ_pos d)
          rw [List.drop_zero, hmatch] at hnone
          cases hnone
    | none =>
      dsimp only
      rw [ih]
      constructor
      · rintro ⟨d, hd, rfl, hend, hbefore⟩
        refine ⟨d + 1, Nat.succ_le_succ hd, by omega, hend, ?_⟩
        intro d' hd'
        cases d' with
        | zero => exact hmatch
        | succ d' => exact hbefore d' (Nat.lt_of_succ_lt_succ hd')
      · rintro ⟨d, hd, rfl, ⟨n, hn, hj⟩, hbefore⟩
        cases d with
        | zero =>
          rw [List.drop_zero, hmatch] at hn
          cases hn
        | succ d =>
          exact ⟨d, Nat.le_of_succ_le_succ hd, by omega, ⟨n, hn, hj⟩,
            fun d' hd' => hbefore (d' + 1) (Nat.succ_lt_succ hd')⟩

/-- **A search finds the leftmost match.** -/
theorem search_eq_some_iff {i j : ℕ} :
    r.search s = some (i, j) ↔ i ≤ s.length ∧ (∃ n, r.matchAt (s.drop i) = some n ∧ j = i + n) ∧
      ∀ i' < i, r.matchAt (s.drop i') = none := by
  rw [search, searchFrom_eq_some_iff]
  constructor
  · rintro ⟨d, hd, rfl, h⟩
    rw [Nat.zero_add] at h ⊢
    exact ⟨hd, h⟩
  · rintro ⟨hi, h⟩
    exact ⟨i, hi, (Nat.zero_add i).symm, h⟩

/-- What a search finds is a word of the language. -/
theorem mem_language_of_search {i j : ℕ} (h : r.search s = some (i, j)) :
    (s.drop i).take (j - i) ∈ r.language := by
  obtain ⟨-, ⟨n, hn, rfl⟩, -⟩ := search_eq_some_iff.mp h
  rw [Nat.add_sub_cancel_left]
  exact take_mem_language hn

/-- A position with a match is not to the left of the match that a search finds. -/
theorem exists_search_of_matchAt {i : ℕ} (hi : i ≤ s.length)
    (h : (r.matchAt (s.drop i)).isSome = true) : ∃ j k, r.search s = some (j, k) := by
  have hfirst := Nat.find_spec (p := fun i => (r.matchAt (s.drop i)).isSome = true) ⟨i, h⟩
  have hle := Nat.find_min' (p := fun i => (r.matchAt (s.drop i)).isSome = true) ⟨i, h⟩ h
  obtain ⟨n, hn⟩ := Option.isSome_iff_exists.mp hfirst
  refine ⟨_, _, search_eq_some_iff.mpr ⟨hle.trans hi, ⟨n, hn, rfl⟩, ?_⟩⟩
  intro i' hi'
  exact Option.not_isSome_iff_eq_none.mp (Nat.find_min ⟨i, h⟩ hi')

/-- **A search finds a match exactly when some word of the language occurs.** -/
theorem search_isSome_iff : (r.search s).isSome = true ↔ ∃ w ∈ r.language, w <:+: s := by
  constructor
  · intro h
    obtain ⟨⟨i, j⟩, hsearch⟩ := Option.isSome_iff_exists.mp h
    obtain ⟨-, ⟨n, hn, -⟩, -⟩ := search_eq_some_iff.mp hsearch
    obtain ⟨w, hw, hinitial⟩ := matchAt_isSome_iff.mp (Option.isSome_iff_exists.mpr ⟨n, hn⟩)
    exact ⟨w, hw, hinitial.isInfix.trans (List.drop_suffix _ _).isInfix⟩
  · rintro ⟨w, hw, before, after, rfl⟩
    have hdrop : (before ++ w ++ after).drop before.length = w ++ after := by
      rw [List.append_assoc, List.drop_left]
    have hle : before.length ≤ (before ++ w ++ after).length := by
      rw [List.append_assoc, List.length_append]
      exact Nat.le_add_right _ _
    obtain ⟨j, k, hsearch⟩ := exists_search_of_matchAt (r := r) hle (by
      rw [hdrop]
      exact matchAt_isSome_iff.mpr ⟨w, hw, List.prefix_append _ _⟩)
    rw [hsearch]
    rfl

/-! ## Boundaries -/

/-- A position between a symbol with the property and one without it; the ends have no symbol. -/
def isBoundary (p : α → Bool) (s : List α) (i : ℕ) : Bool :=
  (s.take i).getLast?.any p != (s.drop i).head?.any p

/-- Whether a word of the pattern begins and ends at boundaries. -/
def occursBetween (p : α → Bool) (r : Pattern α) (s : List α) : Bool :=
  (List.range (s.length + 1)).any fun i =>
    isBoundary p s i && (r.ends (s.drop i)).any fun rest => isBoundary p s (s.length - rest.length)

/-- **A word occurs between boundaries** exactly when the symbols split around it at boundaries. -/
theorem occursBetween_iff {p : α → Bool} :
    r.occursBetween p s = true ↔ ∃ before w after, s = before ++ w ++ after ∧ w ∈ r.language ∧
      isBoundary p s before.length = true ∧ isBoundary p s (before.length + w.length) = true := by
  rw [occursBetween, List.any_eq_true]
  constructor
  · rintro ⟨i, hi, h⟩
    rw [List.mem_range] at hi
    obtain ⟨hbegin, hany⟩ := Bool.and_eq_true_iff.mp h
    obtain ⟨rest, hrest, hend⟩ := List.any_eq_true.mp hany
    obtain ⟨w, hw, hdrop⟩ := mem_ends_iff.mp hrest
    have hlength : (s.take i).length = i := List.length_take_of_le (Nat.le_of_lt_succ hi)
    have hsplit : s = s.take i ++ w ++ rest := by
      rw [List.append_assoc, ← hdrop, List.take_append_drop]
    have hsum : s.length = i + w.length + rest.length := by
      have htotal := congrArg List.length hsplit
      rwa [List.length_append, List.length_append, hlength] at htotal
    refine ⟨s.take i, w, rest, hsplit, hw, ?_, ?_⟩
    · rwa [hlength]
    · rw [hlength]
      rwa [hsum, Nat.add_sub_cancel] at hend
  · rintro ⟨before, w, after, hsplit, hw, hbegin, hend⟩
    have hsum : s.length = before.length + w.length + after.length := by
      rw [hsplit, List.length_append, List.length_append]
    have hdrop : s.drop before.length = w ++ after := by
      rw [hsplit, List.append_assoc, List.drop_left]
    refine ⟨before.length, ?_, ?_⟩
    · rw [List.mem_range]
      omega
    · rw [hbegin, Bool.true_and, List.any_eq_true]
      refine ⟨after, mem_ends_iff.mpr ⟨w, hw, hdrop⟩, ?_⟩
      rwa [hsum, Nat.add_sub_cancel]

end Pattern
