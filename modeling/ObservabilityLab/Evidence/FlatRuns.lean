import ObservabilityLab.Evidence.LangSmith
import ObservabilityLab.Library.ParentForest
import ObservabilityLab.Python.Mapping

/-!
# Flat responses of LangSmith

A cohort response lists the runs of whole traces and of fragments. The runs are grouped by their
parents in one pass over a mapping by id, and each tree is flattened by a worklist. The runs in a
list of children are the mapping's own: a run stands in it by its id.

## Main definitions

* `treesFromFlatRuns`: the runs by id with their children, and the roots
* `flattenTrees`: the records of all trees
* `Rooted`: a run whose chain of parents ends at a run without one
* `FlattensRuns`: the rooted runs, once each, parents first and siblings in order

## Main results

* `exists_flattenTrees`: the trees of every response flatten to its rooted runs
-/

namespace ObservabilityLab

open Python

/-! ## The trees -/

/-- The parent that a run names; `invalid` is neither a text nor `None`. -/
inductive ParentLink where
  | none
  | run (id : String)
  | invalid
deriving DecidableEq

def parentLink (run : Record) : ParentLink :=
  match fieldOf run "parent_run_id" .none with
  | .none => .none
  | .str id => .run id
  | _ => .invalid

/-- `run["id"]`, of a run with a text there. -/
def runIdOf (run : Record) : Option String := readText (fieldOf run "id" .none)

/-- The entries of a run besides its children. -/
def withoutChildren (run : Record) : Record := run.filter (·.1 ≠ "child_runs")

/-- A run of `by_id`: its other entries, and the ids of the runs in its `child_runs`. -/
structure RunDict where
  fields : Record
  childRuns : List String

abbrev RunDicts := List (String × RunDict)

def addRun (byId : RunDicts) (run : Record) : RunDicts :=
  match runIdOf run with
  | some id => assignKey byId id { fields := withoutChildren run, childRuns := [] }
  | none => byId

/-- `by_id`, each run with no children. -/
def byRunId (runs : List Record) : RunDicts := runs.foldl addRun []

/-- `by_id[parent_id]["child_runs"].append(run)` -/
def appendChild (byId : RunDicts) (parentId id : String) : RunDicts :=
  byId.map fun entry =>
    (entry.1, if entry.1 = parentId then { entry.2 with childRuns := entry.2.childRuns ++ [id] }
      else entry.2)

/-- One run of the pass, over `by_id` and `roots`. -/
def linkRun (state : RunDicts × List String) (entry : String × RunDict) :
    RunDicts × List String :=
  match parentLink entry.2.fields with
  | .run parentId =>
    if state.1.any (·.1 = parentId) then (appendChild state.1 parentId entry.1, state.2) else state
  | .none => (state.1, state.2 ++ [entry.1])
  -- a parent that is no text is dropped like one that is not in the response
  | .invalid => state

/-- `trees_from_flat_runs(runs)`: `by_id` after the pass, and the ids of the roots. -/
def treesFromFlatRuns (runs : List Record) : RunDicts × List String :=
  (byRunId runs).foldl linkRun (byRunId runs, [])

def childRunsOf (byId : RunDicts) (id : String) : List String :=
  ((byId.lookup id).map (·.childRuns)).getD []

/-- `flatten_run_tree(run)`, with fuel for the runs that it visits. -/
def flattenRunDict (byId : RunDicts) (fuel : ℕ) (id : String) : Option (List Record) :=
  (ParentForest.walk (childRunsOf byId) fuel [id]).map fun ids =>
    ids.filterMap fun id => (byId.lookup id).map (·.fields)

/-- The records of all trees of a response, one tree after the other. -/
def flattenTrees (runs : List Record) (fuel : ℕ) : Option (List Record) :=
  let (byId, roots) := treesFromFlatRuns runs
  (roots.mapM (flattenRunDict byId fuel)).map List.flatten

/-! ## The runs of a response -/

section Response

variable (runs : List Record)

/-- The ids of a response, in the order of their first occurrences. -/
def responseIds : List String := uniqueKeys (runs.filterMap runIdOf)

/-- The last run with an id. -/
def lastRun (id : String) : Option Record := runs.reverse.find? (runIdOf · = some id)

/-- **A run whose chain of parents ends at a run without one.** -/
inductive Rooted : String → Prop
  | root {id : String} {run : Record} : lastRun runs id = some run →
      parentLink run = .none → Rooted id
  | child {id parentId : String} {run : Record} : lastRun runs id = some run →
      parentLink run = .run parentId → Rooted parentId → Rooted id

/-- **The rooted runs of a response**, the last one of each id, parents before their children and
siblings in the order of the ids given. -/
structure FlattensRuns (order : List String) (flattened : List Record) : Prop where
  once : (flattened.map runIdOf).Nodup
  mem_iff : ∀ run, run ∈ flattened ↔
    ∃ id last, Rooted runs id ∧ lastRun runs id = some last ∧ run = withoutChildren last
  parentsFirst : ParentsFirst (fun run => parentLink run = .none)
    (fun parent run => ∃ id, runIdOf parent = some id ∧ parentLink run = .run id) flattened
  siblings : ∀ link,
    ((flattened.filter (parentLink · = link)).filterMap runIdOf).Sublist order

end Response

/-! ## Grouping by id -/

section Grouping

variable {runs : List Record} {run : Record} {id name : String}

theorem byRunId_concat : byRunId (runs ++ [run]) = addRun (byRunId runs) run := by
  rw [byRunId, List.foldl_append]
  rfl

/-- The keys of the mapping are the ids, by their first occurrences. -/
theorem keys_byRunId (runs : List Record) : (byRunId runs).map (·.1) = responseIds runs := by
  induction runs using List.reverseRecOn with
  | nil => rfl
  | append_singleton runs run ih =>
    rw [byRunId_concat, addRun, responseIds, List.filterMap_append, List.filterMap_cons]
    cases runIdOf run with
    | none => rw [List.filterMap_nil, List.append_nil, ih, responseIds]
    | some id =>
      dsimp only
      rw [keys_assignKey, List.filterMap_nil, uniqueKeys_concat, ih, responseIds]
      simp only [mem_uniqueKeys]

theorem lastRun_concat : lastRun (runs ++ [run]) id =
    if runIdOf run = some id then some run else lastRun runs id := by
  rw [lastRun, List.reverse_append, List.reverse_singleton, List.singleton_append,
    List.find?_cons]
  split_ifs with h
  · rw [decide_eq_true h]
  · rw [decide_eq_false h]
    rfl

/-- The mapping holds the last run of each id. -/
theorem lookup_byRunId (runs : List Record) (id : String) : (byRunId runs).lookup id =
    (lastRun runs id).map fun run => { fields := withoutChildren run, childRuns := [] } := by
  induction runs using List.reverseRecOn with
  | nil => rfl
  | append_singleton runs run ih =>
    rw [byRunId_concat, lastRun_concat, addRun]
    cases hrun : runIdOf run with
    | none => rw [if_neg (Option.some_ne_none id).symm, ih]
    | some other =>
      dsimp only
      rw [lookup_assignKey, ih]
      by_cases h : id = other
      · rw [if_pos h, if_pos (congrArg some h.symm)]
        rfl
      · rw [if_neg h, if_neg fun heq => h (Option.some.inj heq).symm]

end Grouping

/-! ## The pass over the runs -/

section Pass

variable {byId entries : RunDicts} {roots : List String}

/-- The ids of the runs that name a parent, in their order. -/
def idsWithLink (entries : RunDicts) (link : ParentLink) : List String :=
  (entries.filter (parentLink ·.2.fields = link)).map (·.1)

theorem idsWithLink_cons {entry : String × RunDict} {link : ParentLink} :
    idsWithLink (entry :: entries) link =
      if parentLink entry.2.fields = link then entry.1 :: idsWithLink entries link
      else idsWithLink entries link := by
  rw [idsWithLink, List.filter_cons]
  by_cases h : parentLink entry.2.fields = link
  · rw [if_pos (decide_eq_true h), if_pos h]
    rfl
  · rw [if_neg (by simpa using h), if_neg h]
    rfl

/-- The mapping after a pass over some of its runs. -/
def withChildren (byId entries : RunDicts) : RunDicts :=
  byId.map fun entry => (entry.1,
    { entry.2 with childRuns := entry.2.childRuns ++ idsWithLink entries (.run entry.1) })

/-- **The pass over the runs** gives every run the runs that name it, in order, and leaves as roots
those that name none. -/
theorem foldl_linkRun : entries.foldl linkRun (byId, roots) =
    (withChildren byId entries, roots ++ idsWithLink entries .none) := by
  induction entries generalizing byId roots with
  | nil => simp [withChildren, idsWithLink]
  | cons entry entries ih =>
    rw [List.foldl_cons, linkRun]
    cases hlink : parentLink entry.2.fields with
    | none =>
      dsimp only
      rw [ih, idsWithLink_cons, if_pos hlink]
      simp [withChildren, idsWithLink_cons, hlink]
    | invalid =>
      dsimp only
      rw [ih, idsWithLink_cons, if_neg (by rw [hlink]; simp)]
      simp [withChildren, idsWithLink_cons, hlink]
    | run parentId =>
      have hroots : idsWithLink (entry :: entries) .none = idsWithLink entries .none := by
        rw [idsWithLink_cons, hlink, if_neg (by simp)]
      dsimp only
      rw [hroots]
      by_cases hany : byId.any (·.1 = parentId) = true
      · rw [if_pos hany, ih, appendChild, withChildren, withChildren, List.map_map]
        congr 1
        apply List.map_congr_left
        intro other _
        by_cases hother : other.1 = parentId
        · simp [idsWithLink_cons, hlink, hother]
        · simp [idsWithLink_cons, hlink, hother, Ne.symm hother]
      · rw [if_neg hany, ih, withChildren, withChildren]
        congr 1
        apply List.map_congr_left
        intro other hother
        -- No run of the mapping has the parent's id, so the link changes nothing.
        have hne : parentId ≠ other.1 := by
          rintro rfl
          exact hany (List.any_eq_true.mpr ⟨other, hother, decide_eq_true rfl⟩)
        simp [idsWithLink_cons, hlink, hne]

theorem lookup_withChildren (id : String) : (withChildren byId entries).lookup id =
    (byId.lookup id).map fun run =>
      { run with childRuns := run.childRuns ++ idsWithLink entries (.run id) } := by
  induction byId with
  | nil => rfl
  | cons entry byId ih =>
    obtain ⟨name, run⟩ := entry
    rw [withChildren, List.map_cons, List.lookup_cons, List.lookup_cons]
    by_cases h : id = name
    · simp [h]
    · rw [beq_false_of_ne h]
      exact ih

end Pass

/-! ## The links of a response -/

section Links

variable {runs : List Record} {run : Record} {id parentId : String} {link : ParentLink}

theorem lookup_withoutChildren {key : String} (h : key ≠ "child_runs") :
    (withoutChildren run).lookup key = run.lookup key := by
  induction run with
  | nil => rfl
  | cons entry run ih =>
    obtain ⟨name, value⟩ := entry
    rw [withoutChildren, List.filter_cons]
    by_cases hname : name = "child_runs"
    · rw [if_neg (by simpa using hname), List.lookup_cons, hname, beq_false_of_ne h]
      exact ih
    · rw [if_pos (by simpa using hname), List.lookup_cons, List.lookup_cons]
      rw [← ih]
      rfl

@[simp] theorem parentLink_withoutChildren : parentLink (withoutChildren run) = parentLink run := by
  rw [parentLink, fieldOf, lookup_withoutChildren (by decide)]
  rfl

@[simp] theorem runIdOf_withoutChildren : runIdOf (withoutChildren run) = runIdOf run := by
  rw [runIdOf, fieldOf, lookup_withoutChildren (by decide)]
  rfl

theorem runIdOf_lastRun (h : lastRun runs id = some run) : runIdOf run = some id := by
  have hfound := List.find?_some h
  exact of_decide_eq_true hfound

/-- What the mapping keeps of the run with an id. -/
def keptRun (runs : List Record) (id : String) : Option Record :=
  (lastRun runs id).map withoutChildren

theorem keptRun_eq_some (h : keptRun runs id = some run) :
    ∃ last, lastRun runs id = some last ∧ run = withoutChildren last := by
  obtain ⟨last, hlast, rfl⟩ := Option.map_eq_some_iff.mp h
  exact ⟨last, hlast, rfl⟩

theorem lastRun_isSome_iff : (lastRun runs id).isSome = true ↔ id ∈ responseIds runs := by
  rw [lastRun, List.find?_isSome, responseIds, mem_uniqueKeys, List.mem_filterMap]
  simp only [List.mem_reverse, decide_eq_true_eq]

theorem mem_idsWithLink : id ∈ idsWithLink (byRunId runs) link ↔
    ∃ last, lastRun runs id = some last ∧ parentLink last = link := by
  have hkeys : ((byRunId runs).map (·.1)).Nodup := by
    rw [keys_byRunId]
    exact nodup_uniqueKeys _
  rw [idsWithLink, List.mem_map]
  constructor
  · rintro ⟨entry, hentry, rfl⟩
    obtain ⟨hmem, hlink⟩ := List.mem_filter.mp hentry
    have hlookup := lookup_of_mem hkeys hmem
    rw [lookup_byRunId] at hlookup
    obtain ⟨last, hlast, hrun⟩ := Option.map_eq_some_iff.mp hlookup
    refine ⟨last, hlast, ?_⟩
    rw [← of_decide_eq_true hlink, ← hrun, parentLink_withoutChildren]
  · rintro ⟨last, hlast, rfl⟩
    have hlookup := lookup_byRunId runs id
    rw [hlast] at hlookup
    refine ⟨_, List.mem_filter.mpr ⟨mem_of_lookup hlookup, ?_⟩, rfl⟩
    exact decide_eq_true parentLink_withoutChildren

theorem idsWithLink_sublist : (idsWithLink (byRunId runs) link).Sublist (responseIds runs) := by
  rw [← keys_byRunId]
  exact List.filter_sublist.map _

theorem nodup_idsWithLink : (idsWithLink (byRunId runs) link).Nodup :=
  (nodup_uniqueKeys _).sublist idsWithLink_sublist

theorem treesFromFlatRuns_eq (runs : List Record) : treesFromFlatRuns runs =
    (withChildren (byRunId runs) (byRunId runs), idsWithLink (byRunId runs) .none) :=
  foldl_linkRun

/-- The runs below a run are those that name it, when it is in the response. -/
theorem childRunsOf_trees (runs : List Record) (id : String) :
    childRunsOf (treesFromFlatRuns runs).1 id =
      if id ∈ responseIds runs then idsWithLink (byRunId runs) (.run id) else [] := by
  rw [treesFromFlatRuns_eq, childRunsOf, lookup_withChildren, lookup_byRunId]
  cases hlast : lastRun runs id with
  | none => rw [if_neg (by rw [← lastRun_isSome_iff, hlast]; simp)]; rfl
  | some last => rw [if_pos (by rw [← lastRun_isSome_iff, hlast]; rfl)]; rfl

theorem mem_childRunsOf : id ∈ childRunsOf (treesFromFlatRuns runs).1 parentId ↔
    parentId ∈ responseIds runs ∧
      ∃ last, lastRun runs id = some last ∧ parentLink last = .run parentId := by
  rw [childRunsOf_trees]
  split_ifs with h
  · rw [mem_idsWithLink, and_iff_right h]
  · simp [h]

theorem fields_trees (runs : List Record) (id : String) :
    ((treesFromFlatRuns runs).1.lookup id).map (·.fields) = keptRun runs id := by
  rw [treesFromFlatRuns_eq, lookup_withChildren, lookup_byRunId, keptRun, Option.map_map,
    Option.map_map]
  rfl

end Links

/-! ## Rooted runs -/

section Walk

variable {runs : List Record} {id : String}

theorem Rooted.mem_responseIds (h : Rooted runs id) : id ∈ responseIds runs := by
  rw [← lastRun_isSome_iff]
  cases h with
  | root hlast _ => rw [hlast]; rfl
  | child hlast _ _ => rw [hlast]; rfl

/-- **The rooted runs are those below the roots.** -/
theorem below_roots_iff : ParentForest.Below (childRunsOf (treesFromFlatRuns runs).1)
    (treesFromFlatRuns runs).2 id ↔ Rooted runs id := by
  rw [treesFromFlatRuns_eq]
  constructor
  · rintro ⟨root, hroot, hpath⟩
    obtain ⟨last, hlast, hlink⟩ := mem_idsWithLink.mp hroot
    induction hpath with
    | refl => exact Rooted.root hlast hlink
    | tail _ hchild ih =>
      rw [← treesFromFlatRuns_eq] at hchild
      obtain ⟨-, run, hrun, hparent⟩ := mem_childRunsOf.mp hchild
      exact Rooted.child hrun hparent ih
  · intro h
    induction h with
    | root hlast hlink => exact ⟨_, mem_idsWithLink.mpr ⟨_, hlast, hlink⟩, .refl⟩
    | child hlast hlink hparent ih =>
      obtain ⟨root, hroot, hpath⟩ := ih
      refine ⟨root, hroot, hpath.tail ?_⟩
      rw [← treesFromFlatRuns_eq]
      exact mem_childRunsOf.mpr ⟨hparent.mem_responseIds, _, hlast, hlink⟩

/-- No run is the child of two, and no root is a child. -/
theorem tree_childRunsOf (runs : List Record) :
    ParentForest.Tree (childRunsOf (treesFromFlatRuns runs).1) (treesFromFlatRuns runs).2 where
  start_nodup := by
    rw [treesFromFlatRuns_eq]
    exact nodup_idsWithLink
  children_nodup := by
    intro p
    rw [childRunsOf_trees]
    split_ifs
    · exact nodup_idsWithLink
    · exact List.nodup_nil
  unique := by
    intro p q c hp hq
    obtain ⟨-, last, hlast, hp⟩ := mem_childRunsOf.mp hp
    obtain ⟨-, last', hlast', hq⟩ := mem_childRunsOf.mp hq
    obtain rfl := Option.some.inj (hlast.symm.trans hlast')
    exact ParentLink.run.inj (hp.symm.trans hq)
  not_start := by
    intro p c hp hroot
    rw [treesFromFlatRuns_eq] at hroot
    obtain ⟨-, last, hlast, hp⟩ := mem_childRunsOf.mp hp
    obtain ⟨last', hlast', hroot⟩ := mem_idsWithLink.mp hroot
    obtain rfl := Option.some.inj (hlast.symm.trans hlast')
    exact absurd (hp.symm.trans hroot) (by simp)

theorem length_responseIds_le (runs : List Record) : (responseIds runs).length ≤ runs.length := by
  have hsubset : responseIds runs ⊆ runs.filterMap runIdOf := fun _ h => mem_uniqueKeys.mp h
  calc (responseIds runs).length
      ≤ (runs.filterMap runIdOf).length := ((nodup_uniqueKeys _).subperm hsubset).length_le
    _ ≤ runs.length := List.length_filterMap_le _ _

/-- **The walk from the roots ends**, with fuel for every run. -/
theorem exists_walk_roots (runs : List Record) {fuel : ℕ} (h : runs.length ≤ fuel) :
    ∃ ids, ParentForest.walk (childRunsOf (treesFromFlatRuns runs).1) fuel
      (treesFromFlatRuns runs).2 = some ids := by
  apply Option.isSome_iff_exists.mp
  apply ParentForest.walk_isSome (tree_childRunsOf runs)
  · intro p
    rw [childRunsOf_trees]
    split_ifs
    · exact idsWithLink_sublist.subset
    · exact List.nil_subset _
  · rw [treesFromFlatRuns_eq]
    exact idsWithLink_sublist.subset
  · exact (length_responseIds_le runs).trans h

/-- Flattening one tree after the other is one walk from all roots. -/
theorem mapM_flattenRunDict {byId : RunDicts} {fuel : ℕ} {roots ids : List String}
    (h : ParentForest.walk (childRunsOf byId) fuel roots = some ids) :
    (roots.mapM (flattenRunDict byId fuel)).map List.flatten =
      some (ids.filterMap fun id => (byId.lookup id).map (·.fields)) := by
  induction roots generalizing ids with
  | nil =>
    rw [ParentForest.walk] at h
    obtain rfl := Option.some.inj h
    rfl
  | cons root roots ih =>
    rw [← List.singleton_append] at h
    obtain ⟨first, others, hfirst, hothers, rfl⟩ := ParentForest.walk_append h
    obtain ⟨flattened, hflattened, hothers⟩ := Option.map_eq_some_iff.mp (ih hothers)
    rw [List.mapM_cons, hflattened, flattenRunDict, hfirst, List.filterMap_append, ← hothers]
    rfl

/-- What the walk from the roots visits, as records. -/
theorem flattenTrees_eq {fuel : ℕ} {ids : List String}
    (h : ParentForest.walk (childRunsOf (treesFromFlatRuns runs).1) fuel
      (treesFromFlatRuns runs).2 = some ids) :
    flattenTrees runs fuel = some (ids.filterMap (keptRun runs)) := by
  have hflatten := mapM_flattenRunDict h
  simp only [fields_trees] at hflatten
  exact hflatten

/-! ## What the trees flatten to -/

variable {ids : List String} {fuel : ℕ} {link : ParentLink}

theorem mem_walk_iff (h : ParentForest.walk (childRunsOf (treesFromFlatRuns runs).1) fuel
    (treesFromFlatRuns runs).2 = some ids) : id ∈ ids ↔ Rooted runs id := by
  rw [ParentForest.mem_walk h, below_roots_iff]

theorem keptRun_of_rooted (h : Rooted runs id) :
    ∃ last, lastRun runs id = some last ∧ keptRun runs id = some (withoutChildren last) := by
  obtain ⟨last, hlast⟩ := Option.isSome_iff_exists.mp (lastRun_isSome_iff.mpr h.mem_responseIds)
  exact ⟨last, hlast, by rw [keptRun, hlast]; rfl⟩

theorem map_runIdOf (hids : ∀ id ∈ ids, Rooted runs id) :
    (ids.filterMap (keptRun runs)).map runIdOf = ids.map some := by
  induction ids with
  | nil => rfl
  | cons id ids ih =>
    obtain ⟨last, hlast, hkept⟩ := keptRun_of_rooted (hids id List.mem_cons_self)
    rw [List.filterMap_cons_some hkept, List.map_cons, List.map_cons, runIdOf_withoutChildren,
      runIdOf_lastRun hlast]
    rw [ih fun other hother => hids other (List.mem_cons_of_mem _ hother)]

/-- The ids of the records that stand for rooted runs. -/
theorem filterMap_runIdOf (hids : ∀ id ∈ ids, Rooted runs id) (q : Record → Bool) :
    ((ids.filterMap (keptRun runs)).filter q).filterMap runIdOf =
      ids.filter fun id => (keptRun runs id).any q := by
  induction ids with
  | nil => rfl
  | cons id ids ih =>
    obtain ⟨last, hlast, hkept⟩ := keptRun_of_rooted (hids id List.mem_cons_self)
    have hrest := ih fun other hother => hids other (List.mem_cons_of_mem _ hother)
    rw [List.filterMap_cons_some hkept, List.filter_cons, List.filter_cons, hkept, Option.any_some]
    cases q (withoutChildren last) with
    | false => exact hrest
    | true =>
      rw [if_pos rfl, if_pos rfl, List.filterMap_cons_some (b := id), hrest]
      rw [runIdOf_withoutChildren, runIdOf_lastRun hlast]

/-- The visited runs with one parent, or with none, are in the order of the response. -/
theorem siblings_sublist (h : ParentForest.walk (childRunsOf (treesFromFlatRuns runs).1) fuel
    (treesFromFlatRuns runs).2 = some ids) (link : ParentLink) :
    (ids.filter fun id => (keptRun runs id).any (parentLink · = link)).Sublist
      (responseIds runs) := by
  have hnodup := ParentForest.nodup_walk (tree_childRunsOf runs) h
  have hlink (id : String) : (keptRun runs id).any (parentLink · = link) = true ↔
      id ∈ idsWithLink (byRunId runs) link := by
    rw [mem_idsWithLink, keptRun, Option.any_map, Option.any_eq_true]
    simp
  have hfilter : (ids.filter fun id => (keptRun runs id).any (parentLink · = link)) =
      ids.filter fun id => decide (id ∈ idsWithLink (byRunId runs) link) := by
    congr 1
    funext id
    rw [Bool.eq_iff_iff, hlink, decide_eq_true_iff]
  rw [hfilter]
  -- the walk lists the children of each run, and the roots, in the order of the response
  cases link with
  | none =>
    have hroots := ParentForest.sublist_walk h
    rw [treesFromFlatRuns_eq] at hroots
    rw [ParentForest.filter_eq_of_sublist hroots hnodup fun _ _ => Iff.rfl]
    exact idsWithLink_sublist
  | run parentId =>
    by_cases hparent : parentId ∈ ids
    · have hchildren := ParentForest.children_sublist_walk h hparent
      have hresponse := ((mem_walk_iff h).mp hparent).mem_responseIds
      rw [childRunsOf_trees, if_pos hresponse] at hchildren
      rw [ParentForest.filter_eq_of_sublist hchildren hnodup fun _ _ => Iff.rfl]
      exact idsWithLink_sublist
    · -- A visited run that names the parent would have it visited.
      rw [List.filter_eq_nil_iff.mpr]
      · exact List.nil_sublist _
      intro id hid hmem
      obtain ⟨last, hlast, hnames⟩ := mem_idsWithLink.mp (of_decide_eq_true hmem)
      apply hparent
      rw [mem_walk_iff h]
      cases (mem_walk_iff h).mp hid with
      | root hroot hnone =>
        obtain rfl := Option.some.inj (hlast.symm.trans hroot)
        exact absurd (hnames.symm.trans hnone) (by simp)
      | child hchild hrun hrooted =>
        obtain rfl := Option.some.inj (hlast.symm.trans hchild)
        obtain rfl := ParentLink.run.inj (hnames.symm.trans hrun)
        exact hrooted
  | invalid =>
    rw [List.filter_eq_nil_iff.mpr]
    · exact List.nil_sublist _
    intro id hid hmem
    obtain ⟨last, hlast, hnames⟩ := mem_idsWithLink.mp (of_decide_eq_true hmem)
    cases (mem_walk_iff h).mp hid with
    | root hroot hnone =>
      obtain rfl := Option.some.inj (hlast.symm.trans hroot)
      exact absurd (hnames.symm.trans hnone) (by simp)
    | child hchild hrun _ =>
      obtain rfl := Option.some.inj (hlast.symm.trans hchild)
      exact absurd (hnames.symm.trans hrun) (by simp)

theorem flattensRuns_of_walk (h : ParentForest.walk (childRunsOf (treesFromFlatRuns runs).1) fuel
    (treesFromFlatRuns runs).2 = some ids) :
    FlattensRuns runs (responseIds runs) (ids.filterMap (keptRun runs)) := by
  -- the walk visits the identifiers that a root reaches, each of them once
  have hrooted : ∀ id ∈ ids, Rooted runs id := fun id hid => (mem_walk_iff h).mp hid
  constructor
  case once =>
    rw [map_runIdOf hrooted]
    exact (ParentForest.nodup_walk (tree_childRunsOf runs) h).map (Option.some_injective _)
  case mem_iff =>
    intro run
    rw [List.mem_filterMap]
    constructor
    · rintro ⟨id, hid, hkept⟩
      obtain ⟨last, hlast, rfl⟩ := keptRun_eq_some hkept
      exact ⟨id, last, hrooted id hid, hlast, rfl⟩
    · rintro ⟨id, last, hid, hlast, rfl⟩
      exact ⟨id, (mem_walk_iff h).mpr hid, by rw [keptRun, hlast]; rfl⟩
  case parentsFirst =>
    have hfirst : ParentsFirst (· ∈ (treesFromFlatRuns runs).2)
        (fun p c => c ∈ childRunsOf (treesFromFlatRuns runs).1 p) ([] ++ ids) :=
      ParentForest.parentsFirst_walk h parentsFirst_nil fun _ hroot => Or.inl hroot
    rw [List.nil_append] at hfirst
    apply hfirst.filterMap
    · intro id hid
      obtain ⟨last, -, hkept⟩ := keptRun_of_rooted (hrooted id hid)
      rw [hkept]
      rfl
    · intro id run hkept hroot
      rw [treesFromFlatRuns_eq] at hroot
      obtain ⟨last, hlast, rfl⟩ := keptRun_eq_some hkept
      obtain ⟨last', hlast', hnone⟩ := mem_idsWithLink.mp hroot
      obtain rfl := Option.some.inj (hlast.symm.trans hlast')
      rw [parentLink_withoutChildren, hnone]
    · intro p c parent run hparent hrun hchild
      obtain ⟨last, hlast, rfl⟩ := keptRun_eq_some hparent
      obtain ⟨child, hchild', rfl⟩ := keptRun_eq_some hrun
      obtain ⟨-, child', hlast', hnames⟩ := mem_childRunsOf.mp hchild
      obtain rfl := Option.some.inj (hchild'.symm.trans hlast')
      rw [runIdOf_withoutChildren, parentLink_withoutChildren]
      exact ⟨p, runIdOf_lastRun hlast, hnames⟩
  case siblings =>
    intro link
    rw [filterMap_runIdOf hrooted]
    exact siblings_sublist h link

/-- **The trees of a flat response**: building and flattening them ends, and gives exactly the
rooted runs, siblings in the order in which their ids first occur. -/
theorem exists_flattenTrees (runs : List Record) :
    ∃ flattened, (∀ fuel, runs.length ≤ fuel → flattenTrees runs fuel = some flattened) ∧
      FlattensRuns runs (responseIds runs) flattened := by
  obtain ⟨ids, hids⟩ := exists_walk_roots runs le_rfl
  refine ⟨ids.filterMap (keptRun runs), ?_, flattensRuns_of_walk hids⟩
  intro fuel hfuel
  exact flattenTrees_eq (ParentForest.walk_mono hids hfuel)

end Walk

/-! ## An id that occurs twice -/

/-- A root and its children `b` and `c`, and a later run with the id of the first child. -/
def repeatedChildRuns : List Record :=
  [[("id", .str "root"), ("name", .str "root")],
    [("id", .str "b"), ("parent_run_id", .str "root"), ("name", .str "first")],
    [("id", .str "c"), ("parent_run_id", .str "root"), ("name", .str "second")],
    [("id", .str "b"), ("parent_run_id", .str "root"), ("name", .str "third")]]

/-- The last run of an id takes the place of the first one, before its siblings. -/
theorem not_flattensRuns_repeatedChild :
    ¬ ∃ flattened,
      (∀ fuel, repeatedChildRuns.length ≤ fuel →
        flattenTrees repeatedChildRuns fuel = some flattened) ∧
      FlattensRuns repeatedChildRuns (repeatedChildRuns.filterMap runIdOf).dedup flattened := by
  rintro ⟨flattened, hflatten, h⟩
  have heq : flattenTrees repeatedChildRuns 4 = some
      [[("id", .str "root"), ("name", .str "root")],
        [("id", .str "b"), ("parent_run_id", .str "root"), ("name", .str "third")],
        [("id", .str "c"), ("parent_run_id", .str "root"), ("name", .str "second")]] := by rfl
  obtain rfl := Option.some.inj ((hflatten 4 le_rfl).symm.trans heq)
  have hsiblings := h.siblings (.run "root")
  have hnot : ¬ ["b", "c"].Sublist ["root", "c", "b"] := by decide
  exact hnot hsiblings

end ObservabilityLab
