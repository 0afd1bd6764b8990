import Mathlib.Data.List.Pairwise
import Mathlib.Logic.Relation

/-!
# Density clusters

Points with a symmetric relation of nearness, some of which are core points. A cluster grows from a
core point: it has the points near a core point that a chain of core points reaches. A clustering
takes the core points in order and skips those that an earlier cluster has.

## Main definitions

* `Linked`: a chain of core points, each near the next one
* `Expands`, `InCluster`: what a core point reaches in one step, and at all
* `clusters`: the clusters of the seeds in order
* `Clustering`: what a list of clusters is
* `SharedBorder`: a point near core points that no chain links
* `Names`: points by their names

## Main results

* `reflTransGen_expands_iff`: expansion from a core point reaches its cluster
* `clustering_clusters`: the clusters of all core points are a clustering
* `Clustering.same_iff`: core points share a cluster exactly when they are linked
* `Clustering.mem_iff`: a cluster has the points near its core points
* `Clustering.covered_iff`: the points of some cluster are those near some core point
* `Clustering.disjoint_iff`: the clusters are disjoint exactly without a shared border point
* `Names.clustering`: a clustering of names is a clustering of the points
-/

namespace DensityClusters

variable {α : Type} (near : α → α → Prop) (core : α → Prop)

/-- A chain of core points joins the two points. -/
def Linked : α → α → Prop := Relation.ReflTransGen fun a b => core a ∧ core b ∧ near a b

/-- A core point expands to the points near it. -/
def Expands (a b : α) : Prop := core a ∧ near a b

/-- The points near a core point that is linked to the seed. -/
def InCluster (seed a : α) : Prop := ∃ c, Linked near core seed c ∧ core c ∧ near c a

variable {near core} {seed a b c : α}

theorem Linked.symm (hsymm : ∀ a b, near a b → near b a) (h : Linked near core a b) :
    Linked near core b a := by
  induction h with
  | refl => exact Relation.ReflTransGen.refl
  | @tail b c _ hstep ih =>
    exact Relation.ReflTransGen.head ⟨hstep.2.1, hstep.1, hsymm b c hstep.2.2⟩ ih

/-- Core points near each other are linked. -/
theorem linked_of_near (ha : core a) (hb : core b) (h : near a b) : Linked near core a b :=
  Relation.ReflTransGen.single ⟨ha, hb, h⟩

/-- Expansion follows the chains of core points. -/
theorem reflTransGen_expands_of_linked (h : Linked near core a b) :
    Relation.ReflTransGen (Expands near core) a b := by
  induction h with
  | refl => exact Relation.ReflTransGen.refl
  | tail _ hstep ih => exact ih.tail ⟨hstep.1, hstep.2.2⟩

/-- **Expansion from a core point reaches exactly its cluster.** -/
theorem reflTransGen_expands_iff (hseed : core seed) (hrefl : near seed seed) :
    Relation.ReflTransGen (Expands near core) seed a ↔ InCluster near core seed a := by
  constructor
  · intro h
    induction h with
    | refl => exact ⟨seed, Relation.ReflTransGen.refl, hseed, hrefl⟩
    | @tail b c _ hexpands ih =>
      -- the last expansion is from a core point, which is linked to the seed itself
      obtain ⟨d, hlinked, hd, hnear⟩ := ih
      exact ⟨b, hlinked.trans (linked_of_near hd hexpands.1 hnear), hexpands.1, hexpands.2⟩
  · rintro ⟨c, hlinked, hc, hnear⟩
    exact (reflTransGen_expands_of_linked hlinked).tail ⟨hc, hnear⟩

/-! ## Clusterings -/

/-- A list of clusters: each is the cluster of a core point, every core point has one, and no two
share a core point. -/
structure Clustering (near : α → α → Prop) (core : α → Prop) (groups : List (List α)) : Prop where
  of_seed : ∀ group ∈ groups, ∃ seed, core seed ∧ ∀ a, a ∈ group ↔ InCluster near core seed a
  covers : ∀ a, core a → ∃ group ∈ groups, a ∈ group
  separate : groups.Pairwise fun group other => ∀ a, core a → a ∈ group → a ∉ other

/-- A point near core points that no chain of core points joins. -/
def SharedBorder (near : α → α → Prop) (core : α → Prop) : Prop :=
  ∃ a c d, core c ∧ core d ∧ near c a ∧ near d a ∧ ¬ Linked near core c d

namespace Clustering

variable {groups : List (List α)} {group other : List α}

/-- A clustering in another order. -/
theorem perm (h : Clustering near core groups) {others : List (List α)}
    (hperm : groups.Perm others) :
    Clustering near core others where
  of_seed group hgroup := h.of_seed group (hperm.mem_iff.mpr hgroup)
  covers a ha := by
    obtain ⟨group, hgroup, hmem⟩ := h.covers a ha
    exact ⟨group, hperm.mem_iff.mp hgroup, hmem⟩
  separate := by
    refine h.separate.perm hperm ?_
    intro group other hdisjoint a ha hother hgroup
    exact hdisjoint a ha hgroup hother

/-- The core points of a cluster are linked. -/
theorem linked_of_mem (h : Clustering near core groups) (hsymm : ∀ a b, near a b → near b a)
    (hgroup : group ∈ groups) (ha : core a) (hb : core b) (hmema : a ∈ group) (hmemb : b ∈ group) :
    Linked near core a b := by
  obtain ⟨seed, -, hseed⟩ := h.of_seed group hgroup
  obtain ⟨c, hc, hcorec, hneara⟩ := (hseed a).mp hmema
  obtain ⟨d, hd, hcored, hnearb⟩ := (hseed b).mp hmemb
  have hseeda : Linked near core seed a := hc.trans (linked_of_near hcorec ha hneara)
  have hseedb : Linked near core seed b := hd.trans (linked_of_near hcored hb hnearb)
  exact (hseeda.symm hsymm).trans hseedb

/-- A cluster has what is near its core points. -/
theorem mem_of_near (h : Clustering near core groups) (hgroup : group ∈ groups) (hc : core c)
    (hmem : c ∈ group) (hnear : near c a) : a ∈ group := by
  obtain ⟨seed, -, hseed⟩ := h.of_seed group hgroup
  obtain ⟨d, hlinked, hd, hneard⟩ := (hseed c).mp hmem
  exact (hseed a).mpr ⟨c, hlinked.trans (linked_of_near hd hc hneard), hc, hnear⟩

/-- A cluster has what is linked to its core points. -/
theorem mem_of_linked (h : Clustering near core groups) (hgroup : group ∈ groups)
    (hmem : a ∈ group) (hlinked : Linked near core a b) : b ∈ group := by
  induction hlinked with
  | refl => exact hmem
  | tail _ hstep ih => exact h.mem_of_near hgroup hstep.1 ih hstep.2.2

/-- **Two core points share a cluster exactly when a chain of core points joins them.** -/
theorem same_iff (h : Clustering near core groups) (hsymm : ∀ a b, near a b → near b a)
    (ha : core a) (hb : core b) :
    (∃ group ∈ groups, a ∈ group ∧ b ∈ group) ↔ Linked near core a b := by
  constructor
  · rintro ⟨group, hgroup, hmema, hmemb⟩
    exact h.linked_of_mem hsymm hgroup ha hb hmema hmemb
  · intro hlinked
    obtain ⟨group, hgroup, hmem⟩ := h.covers a ha
    exact ⟨group, hgroup, hmem, h.mem_of_linked hgroup hmem hlinked⟩

/-- **A cluster has exactly the points near its core points.** -/
theorem mem_iff (h : Clustering near core groups) (hrefl : ∀ c, core c → near c c)
    (hgroup : group ∈ groups) : a ∈ group ↔ ∃ c ∈ group, core c ∧ near c a := by
  constructor
  · intro hmem
    obtain ⟨seed, -, hseed⟩ := h.of_seed group hgroup
    obtain ⟨c, hlinked, hc, hnear⟩ := (hseed a).mp hmem
    exact ⟨c, (hseed c).mpr ⟨c, hlinked, hc, hrefl c hc⟩, hc, hnear⟩
  · rintro ⟨c, hmem, hc, hnear⟩
    exact h.mem_of_near hgroup hc hmem hnear

/-- **The points of the clusters are those near a core point.** -/
theorem covered_iff (h : Clustering near core groups) :
    (∃ group ∈ groups, a ∈ group) ↔ ∃ c, core c ∧ near c a := by
  constructor
  · rintro ⟨group, hgroup, hmem⟩
    obtain ⟨seed, -, hseed⟩ := h.of_seed group hgroup
    obtain ⟨c, -, hc, hnear⟩ := (hseed a).mp hmem
    exact ⟨c, hc, hnear⟩
  · rintro ⟨c, hc, hnear⟩
    obtain ⟨group, hgroup, hmem⟩ := h.covers c hc
    exact ⟨group, hgroup, h.mem_of_near hgroup hc hmem hnear⟩

/-- **The clusters are disjoint exactly when no point is near core points of two clusters.** -/
theorem disjoint_iff (h : Clustering near core groups) (hsymm : ∀ a b, near a b → near b a)
    (hrefl : ∀ c, core c → near c c) :
    groups.Pairwise List.Disjoint ↔ ¬ SharedBorder near core := by
  constructor
  · rintro hdisjoint ⟨a, c, d, hc, hd, hnearc, hneard, hnot⟩
    obtain ⟨group, hgroup, hmemc⟩ := h.covers c hc
    obtain ⟨other, hother, hmemd⟩ := h.covers d hd
    have hdifferent : group ≠ other := by
      rintro rfl
      exact hnot (h.linked_of_mem hsymm hgroup hc hd hmemc hmemd)
    have hsymmetric : Std.Symm (List.Disjoint (α := α)) :=
      ⟨fun _ _ hab _ hmem hmem' => hab hmem' hmem⟩
    exact hdisjoint.forall hgroup hother hdifferent (h.mem_of_near hgroup hc hmemc hnearc)
      (h.mem_of_near hother hd hmemd hneard)
  · intro hnone
    refine h.separate.imp_of_mem ?_
    intro group other hgroup hother hseparate a hmema hmemb
    -- the core points that the common point is near are linked, so they share a cluster
    obtain ⟨c, hmemc, hc, hnearc⟩ := (h.mem_iff hrefl hgroup).mp hmema
    obtain ⟨d, hmemd, hd, hneard⟩ := (h.mem_iff hrefl hother).mp hmemb
    have hlinked : Linked near core c d := by
      by_contra hnot
      exact hnone ⟨a, c, d, hc, hd, hnearc, hneard, hnot⟩
    exact hseparate d hd (h.mem_of_linked hgroup hmemc hlinked) hmemd

end Clustering

/-! ## Names of points -/

section Names

variable {β : Type}

/-- The nearness and the core of names are those of the points that they name, and different points
have different names. -/
structure Names (name : α → β) (point : α → Prop) (near : α → α → Prop) (core : α → Prop)
    (near' : β → β → Prop) (core' : β → Prop) : Prop where
  near_iff : ∀ x y, near' x y ↔ ∃ a b, name a = x ∧ name b = y ∧ near a b
  core_iff : ∀ x, core' x ↔ ∃ a, name a = x ∧ core a
  point_of_near : ∀ a b, near a b → point a ∧ point b
  point_of_core : ∀ a, core a → point a
  injective : ∀ a b, point a → point b → name a = name b → a = b

variable {name : α → β} {point : α → Prop} {near' : β → β → Prop} {core' : β → Prop}

namespace Names

theorem near_name_iff (h : Names name point near core near' core') (ha : point a) (hb : point b) :
    near' (name a) (name b) ↔ near a b := by
  rw [h.near_iff]
  constructor
  · rintro ⟨c, d, hc, hd, hnear⟩
    obtain ⟨hpointc, hpointd⟩ := h.point_of_near c d hnear
    rw [← h.injective c a hpointc ha hc, ← h.injective d b hpointd hb hd]
    exact hnear
  · intro hnear
    exact ⟨a, b, rfl, rfl, hnear⟩

theorem core_name_iff (h : Names name point near core near' core') (ha : point a) :
    core' (name a) ↔ core a := by
  rw [h.core_iff]
  constructor
  · rintro ⟨c, hc, hcore⟩
    rw [← h.injective c a (h.point_of_core c hcore) ha hc]
    exact hcore
  · intro hcore
    exact ⟨a, rfl, hcore⟩

/-- What is linked to a name is the name of a linked point. -/
theorem exists_linked (h : Names name point near core near' core') (ha : point a) {y : β}
    (hlinked : Linked near' core' (name a) y) :
    ∃ b, point b ∧ name b = y ∧ Linked near core a b := by
  induction hlinked with
  | refl => exact ⟨a, ha, rfl, Relation.ReflTransGen.refl⟩
  | tail _ hstep ih =>
    obtain ⟨b, hb, rfl, hlinked⟩ := ih
    obtain ⟨c, rfl, hc⟩ := (h.core_iff _).mp hstep.2.1
    have hpointc := h.point_of_core c hc
    have hcoreb := (h.core_name_iff hb).mp hstep.1
    have hnear := (h.near_name_iff hb hpointc).mp hstep.2.2
    exact ⟨c, hpointc, rfl, hlinked.trans (linked_of_near hcoreb hc hnear)⟩

/-- **Names are linked exactly when their points are.** -/
theorem linked_name_iff (h : Names name point near core near' core') (ha : point a) (hb : point b) :
    Linked near' core' (name a) (name b) ↔ Linked near core a b := by
  constructor
  · intro hlinked
    obtain ⟨c, hc, hname, hlinked⟩ := h.exists_linked ha hlinked
    rw [← h.injective c b hc hb hname]
    exact hlinked
  · intro hlinked
    clear hb
    induction hlinked with
    | refl => exact Relation.ReflTransGen.refl
    | @tail b c _ hstep ih =>
      have hpoints := h.point_of_near b c hstep.2.2
      exact ih.tail ⟨(h.core_name_iff hpoints.1).mpr hstep.1,
        (h.core_name_iff hpoints.2).mpr hstep.2.1,
        (h.near_name_iff hpoints.1 hpoints.2).mpr hstep.2.2⟩

theorem inCluster_name_iff (h : Names name point near core near' core') (hseed : point seed)
    (ha : point a) : InCluster near' core' (name seed) (name a) ↔ InCluster near core seed a := by
  constructor
  · rintro ⟨x, hlinked, hcore, hnear⟩
    obtain ⟨c, rfl, hc⟩ := (h.core_iff x).mp hcore
    have hpoint := h.point_of_core c hc
    exact ⟨c, (h.linked_name_iff hseed hpoint).mp hlinked, hc, (h.near_name_iff hpoint ha).mp hnear⟩
  · rintro ⟨c, hlinked, hc, hnear⟩
    have hpoint := h.point_of_core c hc
    exact ⟨name c, (h.linked_name_iff hseed hpoint).mpr hlinked, (h.core_name_iff hpoint).mpr hc,
      (h.near_name_iff hpoint ha).mpr hnear⟩

/-- **A clustering of names is a clustering of the points that they name.** -/
theorem clustering (h : Names name point near core near' core') {groups : List (List β)}
    (hgroups : Clustering near' core' groups) {named : List β → List α}
    (hnamed : ∀ group ∈ groups, ∀ a, a ∈ named group ↔ point a ∧ name a ∈ group) :
    Clustering near core (groups.map named) where
  of_seed group hgroup := by
    obtain ⟨names, hnames, rfl⟩ := List.mem_map.mp hgroup
    obtain ⟨x, hcore, hmem⟩ := hgroups.of_seed names hnames
    obtain ⟨seed, rfl, hseed⟩ := (h.core_iff x).mp hcore
    have hpoint := h.point_of_core seed hseed
    refine ⟨seed, hseed, ?_⟩
    intro a
    rw [hnamed names hnames a, hmem]
    constructor
    · rintro ⟨ha, hcluster⟩
      exact (h.inCluster_name_iff hpoint ha).mp hcluster
    · intro hcluster
      obtain ⟨c, -, -, hnear⟩ := id hcluster
      have ha := (h.point_of_near c a hnear).2
      exact ⟨ha, (h.inCluster_name_iff hpoint ha).mpr hcluster⟩
  covers a ha := by
    have hpoint := h.point_of_core a ha
    obtain ⟨names, hnames, hmem⟩ := hgroups.covers (name a) ((h.core_name_iff hpoint).mpr ha)
    exact ⟨named names, List.mem_map.mpr ⟨names, hnames, rfl⟩,
      (hnamed names hnames a).mpr ⟨hpoint, hmem⟩⟩
  separate := by
    refine List.pairwise_map.mpr (hgroups.separate.imp_of_mem ?_)
    intro names others hnames hothers hseparate a ha hmem hother
    obtain ⟨hpoint, hmem⟩ := (hnamed names hnames a).mp hmem
    obtain ⟨-, hother⟩ := (hnamed others hothers a).mp hother
    exact hseparate (name a) ((h.core_name_iff hpoint).mpr ha) hmem hother

end Names

end Names

/-! ## The clusters of seeds in order -/

section Clusters

variable [DecidableEq α]

/-- The clusters of the seeds in order, each grown by `expand`; a seed that is assigned is
skipped. -/
def clusters (expand : α → List α) : List α → List α → List (List α)
  | [], _ => []
  | seed :: seeds, assigned =>
    if seed ∈ assigned then clusters expand seeds assigned
    else expand seed :: clusters expand seeds (assigned ++ expand seed)

variable {expand : α → List α} {seeds assigned group : List α}

theorem exists_seed_of_mem (h : group ∈ clusters expand seeds assigned) :
    ∃ seed ∈ seeds, seed ∉ assigned ∧ group = expand seed := by
  fun_induction clusters expand seeds assigned with
  | case1 => exact absurd h List.not_mem_nil
  | case2 seed seeds assigned hassigned ih =>
    obtain ⟨later, hlater, hnew, hgroup⟩ := ih h
    exact ⟨later, List.mem_cons_of_mem _ hlater, hnew, hgroup⟩
  | case3 seed seeds assigned hnew ih =>
    rcases List.mem_cons.mp h with hgroup | h
    · exact ⟨seed, List.mem_cons_self, hnew, hgroup⟩
    · obtain ⟨later, hlater, hlate, hgroup⟩ := ih h
      refine ⟨later, List.mem_cons_of_mem _ hlater, ?_, hgroup⟩
      intro hassigned
      exact hlate (List.mem_append_left _ hassigned)

theorem covered_of_mem (hself : ∀ seed ∈ seeds, seed ∈ expand seed) (h : a ∈ seeds) :
    a ∈ assigned ∨ ∃ group ∈ clusters expand seeds assigned, a ∈ group := by
  fun_induction clusters expand seeds assigned with
  | case1 => exact absurd h List.not_mem_nil
  | case2 seed seeds assigned hassigned ih =>
    rw [List.forall_mem_cons] at hself
    rcases List.mem_cons.mp h with rfl | h
    · exact Or.inl hassigned
    · exact ih hself.2 h
  | case3 seed seeds assigned hnew ih =>
    rw [List.forall_mem_cons] at hself
    rcases List.mem_cons.mp h with rfl | h
    · exact Or.inr ⟨_, List.mem_cons_self, hself.1⟩
    · rcases ih hself.2 h with hassigned | ⟨group, hgroup, hmem⟩
      · rcases List.mem_append.mp hassigned with hassigned | hmem
        · exact Or.inl hassigned
        · exact Or.inr ⟨_, List.mem_cons_self, hmem⟩
      · exact Or.inr ⟨group, List.mem_cons_of_mem _ hgroup, hmem⟩

/-- No seed is in an earlier cluster. -/
theorem pairwise_clusters :
    (clusters expand seeds assigned).Pairwise fun group other =>
      ∃ seed ∈ seeds, other = expand seed ∧ seed ∉ group := by
  fun_induction clusters expand seeds assigned with
  | case1 => exact List.Pairwise.nil
  | case2 seed seeds assigned hassigned ih =>
    refine ih.imp ?_
    rintro group other ⟨later, hlater, hother⟩
    exact ⟨later, List.mem_cons_of_mem _ hlater, hother⟩
  | case3 seed seeds assigned hnew ih =>
    refine List.pairwise_cons.mpr ⟨?_, ih.imp ?_⟩
    · intro other hother
      obtain ⟨later, hlater, hlate, heq⟩ := exists_seed_of_mem hother
      refine ⟨later, List.mem_cons_of_mem _ hlater, heq, ?_⟩
      intro hmem
      exact hlate (List.mem_append_right _ hmem)
    · rintro group other ⟨later, hlater, hother⟩
      exact ⟨later, List.mem_cons_of_mem _ hlater, hother⟩

/-- **The clusters of all core points are a clustering.** -/
theorem clustering_clusters (hsymm : ∀ a b, near a b → near b a) (hrefl : ∀ c, core c → near c c)
    (hseeds : ∀ a, a ∈ seeds ↔ core a)
    (hexpand : ∀ seed, core seed → ∀ a, a ∈ expand seed ↔ InCluster near core seed a) :
    Clustering near core (clusters expand seeds []) := by
  have hself : ∀ seed ∈ seeds, seed ∈ expand seed := by
    intro seed hseed
    have hcore := (hseeds seed).mp hseed
    exact (hexpand seed hcore seed).mpr
      ⟨seed, Relation.ReflTransGen.refl, hcore, hrefl seed hcore⟩
  have hof : ∀ group ∈ clusters expand seeds [],
      ∃ seed, core seed ∧ ∀ a, a ∈ group ↔ InCluster near core seed a := by
    intro group hgroup
    obtain ⟨seed, hseed, -, rfl⟩ := exists_seed_of_mem hgroup
    have hcore := (hseeds seed).mp hseed
    exact ⟨seed, hcore, hexpand seed hcore⟩
  refine ⟨hof, ?_, ?_⟩
  · intro a ha
    rcases @covered_of_mem _ a _ _ _ [] hself ((hseeds a).mpr ha) with hnone | hcovered
    · exact absurd hnone List.not_mem_nil
    · exact hcovered
  · refine pairwise_clusters.imp_of_mem ?_
    rintro group other hgroup - ⟨later, hlater, rfl, hlate⟩ a ha hmem hother
    -- a common core point links the later seed to the earlier one
    have hcore := (hseeds later).mp hlater
    obtain ⟨seed, -, hseed⟩ := hof group hgroup
    obtain ⟨c, hc, hcorec, hnearc⟩ := (hseed a).mp hmem
    obtain ⟨d, hd, hcored, hneard⟩ := (hexpand later hcore a).mp hother
    have hlatera : Linked near core later a := hd.trans (linked_of_near hcored ha hneard)
    have hlinked : Linked near core seed later :=
      (hc.trans (linked_of_near hcorec ha hnearc)).trans (hlatera.symm hsymm)
    exact hlate ((hseed later).mpr ⟨later, hlinked, hcore, hrefl later hcore⟩)

end Clusters

/-! ## Counting the clusters of a point -/

/-- **Lists are disjoint exactly when no element is in two of them.** -/
theorem pairwise_disjoint_iff_countP_le_one [DecidableEq α] {groups : List (List α)} :
    groups.Pairwise List.Disjoint ↔ ∀ a, groups.countP (fun group => a ∈ group) ≤ 1 := by
  induction groups with
  | nil => simp
  | cons group groups ih =>
    rw [List.pairwise_cons, ih]
    constructor
    · rintro ⟨hgroup, hgroups⟩ a
      rw [List.countP_cons]
      by_cases hmem : a ∈ group
      · have hnone : groups.countP (fun group => a ∈ group) = 0 := by
          rw [List.countP_eq_zero]
          intro other hother hmemother
          rw [decide_eq_true_eq] at hmemother
          exact hgroup other hother hmem hmemother
        simp [hnone, hmem]
      · rw [if_neg (by rwa [decide_eq_true_eq])]
        exact hgroups a
    · intro hcount
      refine ⟨?_, ?_⟩
      · intro other hother a hmem hmemother
        have hpositive : 0 < groups.countP (fun group => a ∈ group) :=
          List.countP_pos_iff.mpr ⟨other, hother, decide_eq_true hmemother⟩
        have hle := hcount a
        rw [List.countP_cons, if_pos (decide_eq_true hmem)] at hle
        exact absurd hle (by omega)
      · intro a
        have hle := hcount a
        rw [List.countP_cons] at hle
        exact Nat.le_trans (Nat.le_add_right _ _) hle

end DensityClusters
