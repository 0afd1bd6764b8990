import Mathlib.Data.List.Infix

/-!
# Queues that drop the oldest element

A bounded queue between a sender and a receiver. A full queue drops its oldest element for a new
one, so that the sender never waits.

## Main definitions

* `push`: send one element
* `Delivers`: what was sent, received, and is still in the queue

## Main results

* `Delivers.push`, `Delivers.take`: what sending and receiving keep
* `Delivers.latest_of_nil`: a drained queue has delivered the last elements, up to its capacity
-/

namespace DropOldest

variable {α : Type} {capacity : ℕ} {sent received queue : List α} {a : α}

/-- The queue with one element more; a full queue drops its oldest one. -/
def push (capacity : ℕ) (queue : List α) (a : α) : List α :=
  if capacity ≤ queue.length then queue.tail ++ [a] else queue ++ [a]

theorem push_of_lt (h : queue.length < capacity) : push capacity queue a = queue ++ [a] :=
  if_neg h.not_ge

theorem push_of_le (h : capacity ≤ queue.length) : push capacity queue a = queue.tail ++ [a] :=
  if_pos h

theorem push_sublist : (push capacity queue a).Sublist (queue ++ [a]) := by
  unfold push
  split
  · exact (List.tail_sublist queue).append_right [a]
  · exact List.Sublist.refl _

theorem length_push_le (hcapacity : 1 ≤ capacity) (h : queue.length ≤ capacity) :
    (push capacity queue a).length ≤ capacity := by
  unfold push
  split
  · rw [List.length_append, List.length_tail, List.length_singleton]
    omega
  · rw [List.length_append, List.length_singleton]
    omega

/-- **The state of a delivery**: the queue is bounded and holds what was sent last; what was
received and what is in the queue was sent in this order; and of the last elements, up to the
capacity, none is lost. -/
structure Delivers (capacity : ℕ) (sent received queue : List α) : Prop where
  bounded : queue.length ≤ capacity
  pending : queue <:+ sent
  ordered : (received ++ queue).Sublist sent
  latest : ∀ last, last <:+ sent → last.length ≤ capacity → last <:+ received ++ queue

namespace Delivers

theorem nil (capacity : ℕ) : Delivers capacity ([] : List α) [] [] :=
  ⟨Nat.zero_le _, List.suffix_rfl, List.Sublist.refl _, fun _ h _ => h⟩

/-- **Sending one element** keeps the delivery. -/
theorem push (h : Delivers capacity sent received queue) (hcapacity : 1 ≤ capacity) (a : α) :
    Delivers capacity (sent ++ [a]) received (DropOldest.push capacity queue a) := by
  have hbounded := length_push_le (a := a) hcapacity h.bounded
  by_cases hfull : capacity ≤ queue.length
  · rw [push_of_le hfull] at hbounded ⊢
    have htail : queue.tail <:+ sent := (List.tail_suffix queue).trans h.pending
    refine ⟨hbounded, List.suffix_append_self_iff.mpr htail, ?_, fun last hlast hlength => ?_⟩
    · rw [← List.append_assoc]
      exact ((List.tail_sublist queue).append_left received |>.trans h.ordered).append_right [a]
    · rcases List.suffix_concat_iff.mp hlast with rfl | ⟨before, rfl, hbefore⟩
      · exact List.nil_suffix
      · -- the rest of the full queue holds all elements that are still among the last
        rw [List.length_append, List.length_singleton] at hlength
        have hshort : before.length ≤ queue.tail.length := by
          rw [List.length_tail]
          omega
        have hkept := List.suffix_of_suffix_length_le hbefore htail hshort
        exact (List.suffix_append_self_iff.mpr hkept).trans (List.suffix_append received _)
  · rw [push_of_lt (Nat.lt_of_not_le hfull)] at hbounded ⊢
    refine ⟨hbounded, List.suffix_append_self_iff.mpr h.pending, ?_, fun last hlast hlength => ?_⟩
    · rw [← List.append_assoc]
      exact h.ordered.append_right [a]
    · rcases List.suffix_concat_iff.mp hlast with rfl | ⟨before, rfl, hbefore⟩
      · exact List.nil_suffix
      · rw [List.length_append, List.length_singleton] at hlength
        rw [← List.append_assoc]
        exact List.suffix_append_self_iff.mpr (h.latest before hbefore (by omega))

/-- **Receiving the oldest element** keeps the delivery. -/
theorem take (h : Delivers capacity sent received (a :: queue)) :
    Delivers capacity sent (received ++ [a]) queue where
  bounded := (Nat.le_succ _).trans h.bounded
  pending := (List.suffix_cons a queue).trans h.pending
  ordered := by
    rw [List.append_assoc]
    exact h.ordered
  latest last hlast hlength := by
    rw [List.append_assoc]
    exact h.latest last hlast hlength

/-- **A drained queue has delivered the last elements**, up to its capacity. -/
theorem latest_of_nil (h : Delivers capacity sent received []) :
    sent.drop (sent.length - capacity) <:+ received := by
  have hlength : (sent.drop (sent.length - capacity)).length ≤ capacity := by
    rw [List.length_drop]
    omega
  have hlatest := h.latest _ (List.drop_suffix ..) hlength
  rwa [List.append_nil] at hlatest

end Delivers

end DropOldest
