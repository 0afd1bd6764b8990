import Mathlib.Algebra.BigOperators.Group.Finset.Basic
import Mathlib.Data.Finset.SDiff
import Mathlib.Logic.Relation

/-!
# Worklist search

The search of a finite graph by a worklist. An iteration takes the first pending node; a node that
was found before is skipped, and any other one is found and its successors join the end of the
worklist.

## Main definitions

* `Worklist.search`: the search, with fuel for its iterations
* `Worklist.work`: the iterations that remain

## Main results

* `search_isSome`: fuel for the remaining work is enough
* `mem_search`: a search from one node finds the nodes that a path of successors reaches
* `nodup_search`: a search finds no node twice
-/

namespace Worklist

variable {α : Type} [DecidableEq α] (next : α → List α)

/-- The nodes found by a search of the pending nodes, in the order of the search; `none` when the
fuel is used up. -/
def search : ℕ → List α → List α → Option (List α)
  | _, [], found => some found
  | 0, _ :: _, _ => none
  | fuel + 1, node :: pending, found =>
    if node ∈ found then search fuel pending found
    else search fuel (pending ++ next node) (found ++ [node])

variable {next} {fuel : ℕ} {pending found result : List α} {node : α}

/-! ## Fuel -/

variable (next) in
/-- The iterations that remain, at most: one for each pending node, and one for each successor of a
node that is not found. -/
def work (nodes : Finset α) (pending found : List α) : ℕ :=
  pending.length + ∑ node ∈ nodes \ found.toFinset, (next node).length

/-- An iteration that finds a node does one unit of work. -/
theorem work_expand {nodes : Finset α} (hnode : node ∈ nodes) (hnew : node ∉ found) :
    work next nodes (pending ++ next node) (found ++ [node]) + 1 =
      work next nodes (node :: pending) found := by
  have hmem : node ∈ nodes \ found.toFinset := by
    simp [hnode, hnew]
  have hrest : nodes \ (found ++ [node]).toFinset = (nodes \ found.toFinset).erase node := by
    ext other
    simp only [List.toFinset_append, List.toFinset_cons, List.toFinset_nil, Finset.mem_sdiff,
      Finset.mem_union, Finset.mem_erase, Finset.mem_insert, Finset.notMem_empty, or_false]
    tauto
  have hsum := Finset.add_sum_erase _ (fun other => (next other).length) hmem
  unfold work
  rw [hrest, List.length_append, List.length_cons]
  omega

/-- **A search with fuel for its work ends.** -/
theorem search_isSome (nodes : Finset α) (hpending : ∀ node ∈ pending, node ∈ nodes)
    (hnext : ∀ node ∈ nodes, ∀ other ∈ next node, other ∈ nodes)
    (hfuel : work next nodes pending found ≤ fuel) :
    (search next fuel pending found).isSome = true := by
  fun_induction search next fuel pending found with
  | case1 => rfl
  | case2 => simp [work] at hfuel
  | case3 fuel node pending found hfound ih =>
    rw [List.forall_mem_cons] at hpending
    apply ih hpending.2
    simp only [work, List.length_cons] at hfuel ⊢
    omega
  | case4 fuel node pending found hfound ih =>
    rw [List.forall_mem_cons] at hpending
    apply ih
    · intro other hother
      rcases List.mem_append.mp hother with hother | hother
      · exact hpending.2 other hother
      · exact hnext node hpending.1 other hother
    · have hstep : work next nodes (pending ++ next node) (found ++ [node]) + 1 =
          work next nodes (node :: pending) found := work_expand hpending.1 hfound
      omega

/-! ## What a search finds -/

/-- A property of the pending and found nodes that passes to successors holds of the result. -/
theorem search_sound {P : α → Prop} (hnext : ∀ node, P node → ∀ other ∈ next node, P other)
    (hpending : ∀ node ∈ pending, P node) (hfound : ∀ node ∈ found, P node)
    (h : search next fuel pending found = some result) : ∀ node ∈ result, P node := by
  fun_induction search next fuel pending found with
  | case1 =>
    cases h
    exact hfound
  | case2 => cases h
  | case3 fuel node pending found hold ih =>
    rw [List.forall_mem_cons] at hpending
    exact ih hpending.2 hfound h
  | case4 fuel node pending found hnew ih =>
    rw [List.forall_mem_cons] at hpending
    refine ih ?_ ?_ h
    · intro other hother
      rcases List.mem_append.mp hother with hother | hother
      · exact hpending.2 other hother
      · exact hnext node hpending.1 other hother
    · intro other hother
      rcases List.mem_append.mp hother with hother | hother
      · exact hfound other hother
      · rw [List.mem_singleton.mp hother]
        exact hpending.1

/-- The loop invariant: the successors of a found node are found or pending. -/
def Frontier (next : α → List α) (pending found : List α) : Prop :=
  ∀ node ∈ found, ∀ other ∈ next node, other ∈ found ∨ other ∈ pending

omit [DecidableEq α] in
/-- A node that was found before may leave the worklist. -/
theorem Frontier.skip (h : Frontier next (node :: pending) found) (hnode : node ∈ found) :
    Frontier next pending found := by
  intro earlier hearlier other hother
  rcases h earlier hearlier other hother with hother | hother
  · exact Or.inl hother
  · rcases List.mem_cons.mp hother with rfl | hother
    · exact Or.inl hnode
    · exact Or.inr hother

omit [DecidableEq α] in
/-- The successors of a new node join the worklist. -/
theorem Frontier.expand (h : Frontier next (node :: pending) found) :
    Frontier next (pending ++ next node) (found ++ [node]) := by
  intro earlier hearlier other hother
  rcases List.mem_append.mp hearlier with hearlier | hearlier
  · rcases h earlier hearlier other hother with hother | hother
    · exact Or.inl (List.mem_append_left _ hother)
    · rcases List.mem_cons.mp hother with rfl | hother
      · exact Or.inl (List.mem_append_right _ (List.mem_singleton_self _))
      · exact Or.inr (List.mem_append_left _ hother)
  · rw [List.mem_singleton] at hearlier
    subst hearlier
    exact Or.inr (List.mem_append_right _ hother)

/-- **A search is complete**: its result has the pending and the found nodes, and with each node
the successors of the node. -/
theorem search_complete (h : search next fuel pending found = some result)
    (hfrontier : Frontier next pending found) :
    (∀ node ∈ pending, node ∈ result) ∧ (∀ node ∈ found, node ∈ result) ∧
      ∀ node ∈ result, ∀ other ∈ next node, other ∈ result := by
  fun_induction search next fuel pending found with
  | case1 fuel found =>
    cases h
    refine ⟨?_, fun _ hnode => hnode, ?_⟩
    · intro node hnode
      exact absurd hnode List.not_mem_nil
    · intro node hnode other hother
      rcases hfrontier node hnode other hother with hother | hother
      · exact hother
      · exact absurd hother List.not_mem_nil
  | case2 => cases h
  | case3 fuel node pending found hold ih =>
    obtain ⟨hpending, hfound, hclosed⟩ := ih h (hfrontier.skip hold)
    exact ⟨List.forall_mem_cons.mpr ⟨hfound node hold, hpending⟩, hfound, hclosed⟩
  | case4 fuel node pending found hnew ih =>
    obtain ⟨hpending, hfound, hclosed⟩ := ih h hfrontier.expand
    refine ⟨List.forall_mem_cons.mpr ⟨?_, ?_⟩, ?_, hclosed⟩
    · exact hfound node (List.mem_append_right _ (List.mem_singleton_self _))
    · intro other hother
      exact hpending other (List.mem_append_left _ hother)
    · intro other hother
      exact hfound other (List.mem_append_left _ hother)

/-- **A search from one node finds exactly what a path of successors reaches.** -/
theorem mem_search {seed : α} (h : search next fuel [seed] [] = some result) :
    node ∈ result ↔ Relation.ReflTransGen (fun a b => b ∈ next a) seed node := by
  constructor
  · intro hnode
    refine search_sound ?_ ?_ ?_ h node hnode
    · intro earlier hreached other hother
      exact hreached.tail hother
    · intro earlier hearlier
      rw [List.mem_singleton.mp hearlier]
    · intro earlier hearlier
      exact absurd hearlier List.not_mem_nil
  · intro hreached
    have hempty : Frontier next [seed] [] := fun earlier hearlier =>
      absurd hearlier List.not_mem_nil
    obtain ⟨hseed, -, hclosed⟩ := search_complete h hempty
    induction hreached with
    | refl => exact hseed seed (List.mem_singleton_self _)
    | tail _ hother ih => exact hclosed _ ih _ hother

theorem nodup_search (h : search next fuel pending found = some result) (hfound : found.Nodup) :
    result.Nodup := by
  fun_induction search next fuel pending found with
  | case1 =>
    cases h
    exact hfound
  | case2 => cases h
  | case3 fuel node pending found hold ih => exact ih h hfound
  | case4 fuel node pending found hnew ih =>
    apply ih h
    rw [List.nodup_append_comm]
    exact List.nodup_cons.mpr ⟨hnew, hfound⟩

end Worklist
