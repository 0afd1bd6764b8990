import Mathlib.Data.List.Induction
import Mathlib.Data.List.Nodup
import Mathlib.Data.List.Perm.Subperm
import Mathlib.Logic.Relation

/-!
# Forests by parent pointers

Nodes that name their parents. When every node that is no root has its parent before it, every node
reaches a root. A walk takes the first pending node and puts its children before the others; when no
node is the child of two nodes, the walk from the roots ends and visits each node below them once.

## Main definitions

* `ParentsFirst`: a list in which every node is a root or comes after its parent
* `ParentForest.walk`: the walk, with fuel for its visits
* `ParentForest.Below`: a node that a path of children reaches

## Main results

* `ParentsFirst.reaches_root`: every node of such a list reaches a root
* `ParentForest.walk_isSome`: fuel for every node is enough
* `ParentForest.mem_walk`, `ParentForest.nodup_walk`, `ParentForest.parentsFirst_walk`: a walk
  visits the nodes below its start, each once, parents first
* `ParentForest.children_sublist_walk`: the children of a node are visited in their order
* `ParentForest.walk_append`: the walk of several trees is the walk of each in turn
-/

section Order

variable {α : Type} (root : α → Prop) (isParent : α → α → Prop)

/-- **Every node is a root or comes after its parent.** -/
def ParentsFirst (l : List α) : Prop :=
  ∀ before a after, l = before ++ a :: after → root a ∨ ∃ b ∈ before, isParent b a

variable {root isParent} {l : List α} {a : α}

theorem parentsFirst_nil : ParentsFirst root isParent [] :=
  fun _ _ _ h => absurd h.symm (List.append_ne_nil_of_right_ne_nil _ (List.cons_ne_nil _ _))

/-- A list with one more node at its end. -/
theorem parentsFirst_concat : ParentsFirst root isParent (l ++ [a]) ↔
    ParentsFirst root isParent l ∧ (root a ∨ ∃ b ∈ l, isParent b a) := by
  constructor
  · intro h
    refine ⟨?_, h l a [] rfl⟩
    rintro before c after rfl
    exact h before c (after ++ [a]) (by simp)
  · rintro ⟨hl, ha⟩ before c after heq
    rcases List.eq_nil_or_concat after with rfl | ⟨rest, d, rfl⟩
    · obtain ⟨rfl, hlast⟩ := List.append_inj' heq rfl
      obtain rfl := List.singleton_inj.mp hlast
      exact ha
    · rw [List.concat_eq_append, ← List.cons_append, ← List.append_assoc] at heq
      exact hl before c rest (List.append_inj' heq rfl).1

/-- **Every node reaches a root**, by parents that come earlier. -/
theorem ParentsFirst.reaches_root (h : ParentsFirst root isParent l) (ha : a ∈ l) :
    ∃ r ∈ l, root r ∧ Relation.ReflTransGen isParent r a := by
  induction l using List.reverseRecOn generalizing a with
  | nil => exact absurd ha List.not_mem_nil
  | append_singleton l last ih =>
    obtain ⟨hl, hlast⟩ := parentsFirst_concat.mp h
    rcases List.mem_append.mp ha with ha | ha
    · obtain ⟨r, hr, hrest⟩ := ih hl ha
      exact ⟨r, List.mem_append_left _ hr, hrest⟩
    · obtain rfl := List.mem_singleton.mp ha
      rcases hlast with hroot | ⟨b, hb, hparent⟩
      · exact ⟨a, List.mem_append_right _ ha, hroot, Relation.ReflTransGen.refl⟩
      · obtain ⟨r, hr, hroot, hpath⟩ := ih hl hb
        exact ⟨r, List.mem_append_left _ hr, hroot, hpath.tail hparent⟩

/-- The order of the nodes carries over to what stands for them. -/
theorem ParentsFirst.filterMap {β : Type} {root' : β → Prop} {isParent' : β → β → Prop}
    {f : α → Option β} (h : ParentsFirst root isParent l) (hf : ∀ a ∈ l, (f a).isSome = true)
    (hroot : ∀ a b, f a = some b → root a → root' b)
    (hparent : ∀ p c p' c', f p = some p' → f c = some c' → isParent p c → isParent' p' c') :
    ParentsFirst root' isParent' (l.filterMap f) := by
  induction l using List.reverseRecOn with
  | nil => exact parentsFirst_nil
  | append_singleton l last ih =>
    obtain ⟨hl, hlast⟩ := parentsFirst_concat.mp h
    obtain ⟨last', hlast'⟩ :=
      Option.isSome_iff_exists.mp (hf last (List.mem_append_right _ List.mem_cons_self))
    rw [List.filterMap_append, List.filterMap_cons_some hlast', List.filterMap_nil]
    rw [parentsFirst_concat]
    refine ⟨ih hl fun a ha => hf a (List.mem_append_left _ ha), ?_⟩
    rcases hlast with hlast | ⟨b, hb, hb'⟩
    · exact Or.inl (hroot last last' hlast' hlast)
    · obtain ⟨b', hb''⟩ := Option.isSome_iff_exists.mp (hf b (List.mem_append_left _ hb))
      exact Or.inr ⟨b', List.mem_filterMap.mpr ⟨b, hb, hb''⟩,
        hparent b last b' last' hb'' hlast' hb'⟩

end Order

namespace ParentForest

variable {α : Type} (children : α → List α)

/-- The nodes that a walk of the pending nodes visits, in order; `none` when the fuel is used up. -/
def walk : ℕ → List α → Option (List α)
  | _, [] => some []
  | 0, _ :: _ => none
  | fuel + 1, node :: pending => (walk fuel (children node ++ pending)).map (node :: ·)

/-- A node that a path of children reaches from the start. -/
def Below (start : List α) (node : α) : Prop :=
  ∃ first ∈ start, Relation.ReflTransGen (fun p c => c ∈ children p) first node

variable {children} {fuel : ℕ} {pending visited result start : List α} {node : α}

theorem walk_cons_eq_some (h : walk children (fuel + 1) (node :: pending) = some result) :
    ∃ rest, walk children fuel (children node ++ pending) = some rest ∧ result = node :: rest := by
  obtain ⟨rest, hrest, rfl⟩ := Option.map_eq_some_iff.mp h
  exact ⟨rest, hrest, rfl⟩

/-- One unit of fuel more changes nothing. -/
theorem walk_succ (h : walk children fuel pending = some result) :
    walk children (fuel + 1) pending = some result := by
  induction fuel generalizing pending result with
  | zero =>
    cases pending with
    | nil => exact h
    | cons node pending => cases h
  | succ fuel ih =>
    cases pending with
    | nil => exact h
    | cons node pending =>
      obtain ⟨rest, hrest, rfl⟩ := walk_cons_eq_some h
      rw [walk, ih hrest]
      rfl

/-- More fuel changes nothing. -/
theorem walk_mono {more : ℕ} (h : walk children fuel pending = some result) (hle : fuel ≤ more) :
    walk children more pending = some result := by
  obtain ⟨extra, rfl⟩ := Nat.exists_eq_add_of_le hle
  clear hle
  induction extra with
  | zero => exact h
  | succ extra ih => exact walk_succ ih

/-- **The walk of several trees is the walk of each in turn.** -/
theorem walk_append {others : List α}
    (h : walk children fuel (pending ++ others) = some result) :
    ∃ first second, walk children fuel pending = some first ∧
      walk children fuel others = some second ∧ result = first ++ second := by
  induction fuel generalizing pending result with
  | zero =>
    cases pending with
    | nil => exact ⟨[], result, by rw [walk], h, rfl⟩
    | cons node pending => cases h
  | succ fuel ih =>
    cases pending with
    | nil => exact ⟨[], result, by rw [walk], h, rfl⟩
    | cons node pending =>
      rw [List.cons_append] at h
      obtain ⟨rest, hrest, rfl⟩ := walk_cons_eq_some h
      rw [← List.append_assoc] at hrest
      obtain ⟨first, second, hfirst, hsecond, rfl⟩ := ih hrest
      refine ⟨node :: first, second, ?_, walk_succ hsecond, rfl⟩
      rw [walk, hfirst]
      rfl

/-! ## Order -/

/-- The pending nodes are visited in their order. -/
theorem sublist_walk (h : walk children fuel pending = some result) : pending.Sublist result := by
  induction fuel generalizing pending result with
  | zero =>
    cases pending with
    | nil => exact List.nil_sublist _
    | cons node pending => cases h
  | succ fuel ih =>
    cases pending with
    | nil => exact List.nil_sublist _
    | cons node pending =>
      obtain ⟨rest, hrest, rfl⟩ := walk_cons_eq_some h
      exact ((List.sublist_append_right _ _).trans (ih hrest)).cons_cons node

/-- **The children of a visited node are visited in their order.** -/
theorem children_sublist_walk (h : walk children fuel pending = some result)
    (hnode : node ∈ result) : (children node).Sublist result := by
  induction fuel generalizing pending result with
  | zero =>
    cases pending with
    | nil =>
      obtain rfl := Option.some.inj h
      exact absurd hnode List.not_mem_nil
    | cons _ pending => cases h
  | succ fuel ih =>
    cases pending with
    | nil =>
      obtain rfl := Option.some.inj h
      exact absurd hnode List.not_mem_nil
    | cons first pending =>
      obtain ⟨rest, hrest, rfl⟩ := walk_cons_eq_some h
      apply List.Sublist.cons
      rcases List.mem_cons.mp hnode with rfl | hnode
      · exact (List.sublist_append_left _ _).trans (sublist_walk hrest)
      · exact ih hrest hnode

/-! ## What is visited -/

/-- Every visited node is below the pending ones. -/
theorem below_of_mem_walk (h : walk children fuel pending = some result) (hnode : node ∈ result) :
    Below children pending node := by
  induction fuel generalizing pending result with
  | zero =>
    cases pending with
    | nil =>
      obtain rfl := Option.some.inj h
      exact absurd hnode List.not_mem_nil
    | cons _ pending => cases h
  | succ fuel ih =>
    cases pending with
    | nil =>
      obtain rfl := Option.some.inj h
      exact absurd hnode List.not_mem_nil
    | cons first pending =>
      obtain ⟨rest, hrest, rfl⟩ := walk_cons_eq_some h
      rcases List.mem_cons.mp hnode with rfl | hnode
      · exact ⟨node, List.mem_cons_self, Relation.ReflTransGen.refl⟩
      · obtain ⟨other, hother, hpath⟩ := ih hrest hnode
        rcases List.mem_append.mp hother with hother | hother
        · exact ⟨first, List.mem_cons_self, hpath.head hother⟩
        · exact ⟨other, List.mem_cons_of_mem _ hother, hpath⟩

/-- **A walk visits exactly the nodes below the pending ones.** -/
theorem mem_walk (h : walk children fuel pending = some result) :
    node ∈ result ↔ Below children pending node := by
  constructor
  · exact below_of_mem_walk h
  · rintro ⟨first, hfirst, hpath⟩
    induction hpath with
    | refl => exact (sublist_walk h).subset hfirst
    | tail _ hchild ih => exact (children_sublist_walk h ih).subset hchild

/-- **A walk visits parents before their children.** -/
theorem parentsFirst_walk (h : walk children fuel pending = some result)
    (hfirst : ParentsFirst (· ∈ start) (fun p c => c ∈ children p) visited)
    (hpending : ∀ node ∈ pending, node ∈ start ∨ ∃ p ∈ visited, node ∈ children p) :
    ParentsFirst (· ∈ start) (fun p c => c ∈ children p) (visited ++ result) := by
  induction fuel generalizing pending result visited with
  | zero =>
    cases pending with
    | nil =>
      obtain rfl := Option.some.inj h
      rwa [List.append_nil]
    | cons _ pending => cases h
  | succ fuel ih =>
    cases pending with
    | nil =>
      obtain rfl := Option.some.inj h
      rwa [List.append_nil]
    | cons node pending =>
      obtain ⟨rest, hrest, rfl⟩ := walk_cons_eq_some h
      rw [List.append_cons]
      apply ih hrest
      · exact parentsFirst_concat.mpr ⟨hfirst, hpending node List.mem_cons_self⟩
      · intro other hother
        rcases List.mem_append.mp hother with hother | hother
        · exact Or.inr ⟨node, List.mem_append_right _ List.mem_cons_self, hother⟩
        · rcases hpending other (List.mem_cons_of_mem _ hother) with hstart | ⟨p, hp, hchild⟩
          · exact Or.inl hstart
          · exact Or.inr ⟨p, List.mem_append_left _ hp, hchild⟩

/-! ## Each node once -/

variable (children) in
/-- **No node is a child twice**: of one node, of two nodes, or of a node and the start. -/
structure Tree (start : List α) : Prop where
  start_nodup : start.Nodup
  children_nodup : ∀ p, (children p).Nodup
  unique : ∀ p q c, c ∈ children p → c ∈ children q → p = q
  not_start : ∀ p c, c ∈ children p → c ∉ start

/-- What a walk from the start keeps: no node is pending or visited twice, and all but the start
came from a visited parent. -/
structure Walking (children : α → List α) (start visited pending : List α) : Prop where
  nodup : (visited ++ pending).Nodup
  source : ∀ node ∈ visited ++ pending, node ∈ start ∨ ∃ p ∈ visited, node ∈ children p

theorem Tree.walking_start (h : Tree children start) : Walking children start [] start :=
  ⟨h.start_nodup, fun _ hnode => Or.inl hnode⟩

theorem Tree.walking_visit (h : Tree children start)
    (hwalking : Walking children start visited (node :: pending)) :
    Walking children start (visited ++ [node]) (children node ++ pending) := by
  obtain ⟨hnodup, hsource⟩ := hwalking
  have hnot : node ∉ visited := by
    intro hmem
    exact (List.nodup_append.mp hnodup).2.2 node hmem node List.mem_cons_self rfl
  -- A child of the node is new: it would have come from a visited parent, or the start.
  have hnew : ∀ child ∈ children node, child ∉ visited ++ node :: pending := by
    intro child hchild hmem
    rcases hsource child hmem with hstart | ⟨p, hp, hp'⟩
    · exact h.not_start node child hchild hstart
    · obtain rfl := h.unique node p child hchild hp'
      exact hnot hp
  constructor
  · rw [List.append_cons] at hnodup hnew
    have hperm : (visited ++ [node] ++ (children node ++ pending)).Perm
        (children node ++ (visited ++ [node] ++ pending)) := by
      rw [← List.append_assoc, ← List.append_assoc (children node)]
      exact List.perm_append_comm.append_right pending
    rw [hperm.nodup_iff, List.nodup_append]
    refine ⟨h.children_nodup node, hnodup, ?_⟩
    rintro child hchild other hother rfl
    exact hnew child hchild hother
  · intro other hother
    rw [List.mem_append, List.mem_append (s := children node)] at hother
    have hold (hmem : other ∈ visited ++ node :: pending) :
        other ∈ start ∨ ∃ p ∈ visited ++ [node], other ∈ children p := by
      rcases hsource other hmem with hstart | ⟨p, hp, hchild⟩
      · exact Or.inl hstart
      · exact Or.inr ⟨p, List.mem_append_left _ hp, hchild⟩
    rcases hother with hother | hother | hother
    · apply hold
      rw [List.append_cons]
      exact List.mem_append_left _ hother
    · exact Or.inr ⟨node, List.mem_append_right _ List.mem_cons_self, hother⟩
    · exact hold (List.mem_append_right _ (List.mem_cons_of_mem _ hother))

theorem nodup_of_walking (h : Tree children start)
    (hwalking : Walking children start visited pending)
    (hwalk : walk children fuel pending = some result) : (visited ++ result).Nodup := by
  induction fuel generalizing pending result visited with
  | zero =>
    cases pending with
    | nil =>
      obtain rfl := Option.some.inj hwalk
      exact hwalking.nodup
    | cons _ pending => cases hwalk
  | succ fuel ih =>
    cases pending with
    | nil =>
      obtain rfl := Option.some.inj hwalk
      exact hwalking.nodup
    | cons node pending =>
      obtain ⟨rest, hrest, rfl⟩ := walk_cons_eq_some hwalk
      rw [List.append_cons]
      exact ih (h.walking_visit hwalking) hrest

/-- **A walk of a tree visits each node once.** -/
theorem nodup_walk (h : Tree children start) (hwalk : walk children fuel start = some result) :
    result.Nodup :=
  nodup_of_walking h h.walking_start hwalk

theorem isSome_of_walking {nodes : List α} (h : Tree children start)
    (hnodes : ∀ p, children p ⊆ nodes) (hwalking : Walking children start visited pending)
    (hsubset : visited ++ pending ⊆ nodes) (hfuel : nodes.length ≤ visited.length + fuel) :
    (walk children fuel pending).isSome = true := by
  induction fuel generalizing pending visited with
  | zero =>
    cases pending with
    | nil => rfl
    | cons node pending =>
      have hle := (hwalking.nodup.subperm hsubset).length_le
      rw [List.length_append, List.length_cons] at hle
      omega
  | succ fuel ih =>
    cases pending with
    | nil => rfl
    | cons node pending =>
      rw [walk, Option.isSome_map]
      apply ih (h.walking_visit hwalking)
      · intro other hother
        rw [List.mem_append, List.mem_append (s := children node)] at hother
        rcases hother with hother | hother | hother
        · apply hsubset
          rw [List.append_cons]
          exact List.mem_append_left _ hother
        · exact hnodes node hother
        · exact hsubset (List.mem_append_right _ (List.mem_cons_of_mem _ hother))
      · rw [List.length_append, List.length_singleton]
        omega

/-- **A walk of a tree ends**, with fuel for every node. -/
theorem walk_isSome {nodes : List α} (h : Tree children start) (hnodes : ∀ p, children p ⊆ nodes)
    (hstart : start ⊆ nodes) (hfuel : nodes.length ≤ fuel) :
    (walk children fuel start).isSome = true := by
  apply isSome_of_walking h hnodes h.walking_start hstart
  rw [List.length_nil]
  omega

/-- The nodes of a walk with a property, when these are nodes that it visits in their order. -/
theorem filter_eq_of_sublist [DecidableEq α] {q : α → Prop} [DecidablePred q]
    (hsublist : start.Sublist result) (hnodup : result.Nodup)
    (hiff : ∀ a ∈ result, q a ↔ a ∈ start) : result.filter (fun a => decide (q a)) = start := by
  have hstart : start.filter (fun a => decide (q a)) = start := by
    rw [List.filter_eq_self]
    intro a ha
    exact decide_eq_true ((hiff a (hsublist.subset ha)).mpr ha)
  have hsubset : result.filter (fun a => decide (q a)) ⊆ start := by
    intro a ha
    obtain ⟨hmem, hq⟩ := List.mem_filter.mp ha
    exact (hiff a hmem).mp (of_decide_eq_true hq)
  have hle := ((hnodup.filter _).subperm hsubset).length_le
  have hfilter := hsublist.filter fun a => decide (q a)
  rw [hstart] at hfilter
  exact (hfilter.eq_of_length_le hle).symm

end ParentForest
