import Mathlib.Data.List.Basic
import Mathlib.Data.List.Chain

/-!
# Overlapping windows

Windows of one size over a list, each some steps after the one before it, up to the first window
that reaches the end of the list.

## Main definitions

* `windowsAt`: the windows at some starts, up to the first that reaches the end
* `windows`: the windows at the starts `0`, `step`, `2 * step`, ...
* `Covers`: a list of windows over a list, by the windows that are left

## Main results

* `covers_windows`: the windows cover a list that is not empty
* `Covers.length_le`, `Covers.full`: every window has at most the size, and all but the last have it
* `Covers.shared`: two windows in a row share their overlap, and the later one has more
* `Covers.whole`: the windows without their overlaps are the list
* `isInfix_of_mem_windows`: a window stands in the list
-/

namespace Windows

variable {α : Type}

/-- The windows at the given starts, up to the first that reaches the end. -/
def windowsAt (size : ℕ) (xs : List α) : List ℕ → List (List α)
  | [] => []
  | start :: starts =>
    if xs.length ≤ start + size then [(xs.drop start).take size]
    else (xs.drop start).take size :: windowsAt size xs starts

/-- The windows at the starts below the length, some steps apart. -/
def windows (size step : ℕ) (xs : List α) : List (List α) :=
  windowsAt size xs (List.range' 0 ((xs.length + step - 1) / step) step)

/-- Windows over a list: one window that is the list, or a full window, and windows over what is
left after a step. -/
inductive Covers (size step : ℕ) : List α → List (List α) → Prop where
  | last {xs : List α} (hne : xs ≠ []) (hlast : xs.length ≤ size) : Covers size step xs [xs]
  | more {xs : List α} {ws : List (List α)} (hmore : size < xs.length)
      (hrest : Covers size step (xs.drop step) ws) : Covers size step xs (xs.take size :: ws)

section Loop

variable {size step : ℕ} {xs : List α}

/-- Enough starts leave windows over what is left after the first of them. -/
theorem covers_windowsAt (hle : step ≤ size) {count start : ℕ}
    (hstart : start < xs.length) (hcount : xs.length ≤ start + count * step) :
    Covers size step (xs.drop start) (windowsAt size xs (List.range' start count step)) := by
  induction count generalizing start with
  | zero => omega
  | succ count ih =>
    rw [List.range'_succ, windowsAt]
    split_ifs with hend
    · have hlength : (xs.drop start).length ≤ size := by
        rw [List.length_drop]
        omega
      rw [List.take_of_length_le hlength]
      refine Covers.last ?_ hlength
      rw [ne_eq, List.drop_eq_nil_iff]
      omega
    · refine Covers.more ?_ ?_
      · rw [List.length_drop]
        omega
      · rw [List.drop_drop]
        -- the window does not reach the end, so the next start is before it
        apply ih
        · omega
        · rw [Nat.succ_mul] at hcount
          omega

/-- **The windows cover a list that is not empty.** -/
theorem covers_windows (hstep : 0 < step) (hle : step ≤ size) (hne : xs ≠ []) :
    Covers size step xs (windows size step xs) := by
  have hpos : 0 < xs.length := List.length_pos_of_ne_nil hne
  have hcount : xs.length ≤ 0 + (xs.length + step - 1) / step * step := by
    have hlt : xs.length + step - 1 < ((xs.length + step - 1) / step + 1) * step :=
      (Nat.div_lt_iff_lt_mul hstep).mp (Nat.lt_succ_self _)
    rw [Nat.succ_mul] at hlt
    omega
  exact covers_windowsAt hle hpos hcount

theorem windows_nil (hstep : 0 < step) : windows size step ([] : List α) = [] := by
  have hzero : (0 + step - 1) / step = 0 := Nat.div_eq_of_lt (by omega)
  rw [windows, List.length_nil, hzero]
  rfl

theorem isInfix_of_mem_windowsAt {starts : List ℕ} {window : List α}
    (h : window ∈ windowsAt size xs starts) : window <:+: xs := by
  have hhere : ∀ start, (xs.drop start).take size <:+: xs := fun start =>
    (List.take_prefix _ _).isInfix.trans (List.drop_suffix _ _).isInfix
  induction starts with
  | nil => cases h
  | cons start starts ih =>
    rw [windowsAt] at h
    split_ifs at h with hend
    · rw [List.mem_singleton.mp h]
      exact hhere start
    · rcases List.mem_cons.mp h with rfl | h
      · exact hhere start
      · exact ih h

/-- **A window stands in the list**, its elements one after another. -/
theorem isInfix_of_mem_windows {window : List α} (h : window ∈ windows size step xs) :
    window <:+: xs := isInfix_of_mem_windowsAt h

end Loop

namespace Covers

variable {size step : ℕ} {xs : List α} {ws : List (List α)}

theorem windows_ne_nil (h : Covers size step xs ws) : ws ≠ [] := by
  cases h <;> exact List.cons_ne_nil _ _

/-- Every window has at least one element and at most the size. -/
theorem length_le (h : Covers size step xs ws) (hsize : 0 < size) :
    ∀ w ∈ ws, 0 < w.length ∧ w.length ≤ size := by
  induction h with
  | last hne hlast =>
    intro w hw
    rw [List.mem_singleton.mp hw]
    exact ⟨List.length_pos_of_ne_nil hne, hlast⟩
  | more hmore _ ih =>
    intro w hw
    rcases List.mem_cons.mp hw with rfl | hw
    · rw [List.length_take]
      omega
    · exact ih w hw

/-- **All windows but the last have the size.** -/
theorem full (h : Covers size step xs ws) : ∀ w ∈ ws.dropLast, w.length = size := by
  induction h with
  | last => exact fun w hw => absurd hw List.not_mem_nil
  | more hmore hrest ih =>
    intro w hw
    rw [List.dropLast_cons_of_ne_nil hrest.windows_ne_nil] at hw
    rcases List.mem_cons.mp hw with rfl | hw
    · rw [List.length_take]
      omega
    · exact ih w hw

/-- The first window is the beginning of the list. -/
theorem head? (h : Covers size step xs ws) : ws.head? = some (xs.take size) := by
  cases h with
  | last _ hlast => rw [List.take_of_length_le hlast, List.head?_cons]
  | more => rfl

/-- Two windows in a row: the end of one is the beginning of the next, which has more. -/
def Shares (overlap : ℕ) (before after : List α) : Prop :=
  before.drop (before.length - overlap) = after.take overlap ∧
    (after.take overlap).length = overlap ∧ overlap < after.length

/-- **Two windows in a row share their overlap.** -/
theorem shared (h : Covers size step xs ws) (hle : step ≤ size) (hstep : 0 < step) :
    ws.IsChain (Shares (size - step)) := by
  induction h with
  | last => exact List.isChain_singleton _
  | @more xs ws hmore hrest ih =>
    obtain ⟨next, rest, rfl⟩ := List.exists_cons_of_ne_nil hrest.windows_ne_nil
    have hnext : next = (xs.drop step).take size := Option.some.inj hrest.head?
    refine List.isChain_cons_cons.mpr ⟨?_, ih⟩
    have hlength : (xs.take size).length = size := by
      rw [List.length_take]
      omega
    have hover : size - (size - step) = step := by omega
    have hmin : min (size - step) size = size - step := by omega
    refine ⟨?_, ?_, ?_⟩
    · rw [hlength, hover, hnext, List.take_take, hmin, List.drop_take]
    · rw [hnext, List.take_take, hmin, List.length_take, List.length_drop]
      omega
    · rw [hnext, List.length_take, List.length_drop]
      omega

/-- **The windows without their overlaps are the list**: the first window, and of each later one
what follows its overlap. -/
theorem whole (h : Covers size step xs ws) (hle : step ≤ size) :
    ws.head?.getD [] ++ ws.tail.flatMap (·.drop (size - step)) = xs := by
  induction h with
  | last => simp
  | @more xs ws hmore hrest ih =>
    obtain ⟨next, rest, rfl⟩ := List.exists_cons_of_ne_nil hrest.windows_ne_nil
    have hnext : next = (xs.drop step).take size := Option.some.inj hrest.head?
    rw [List.head?_cons, Option.getD_some, List.tail_cons] at ih ⊢
    rw [List.flatMap_cons, ← List.append_assoc]
    -- the overlap is what the first window has after a step
    have hoverlap : next.take (size - step) = (xs.take size).drop step := by
      have hmin : min (size - step) size = size - step := by omega
      rw [hnext, List.take_take, hmin, List.drop_take]
    have hfirst : xs.take size ++ next.drop (size - step) = xs.take step ++ next := by
      have hsplit : xs.take size = xs.take step ++ (xs.take size).drop step := by
        have hmin : min step size = step := by omega
        have happend := List.take_append_drop step (xs.take size)
        rw [List.take_take, hmin] at happend
        exact happend.symm
      rw [hsplit, List.append_assoc, ← hoverlap, List.take_append_drop]
    rw [hfirst, List.append_assoc, ih, List.take_append_drop]

end Covers

end Windows
