import ObservabilityLab.Bundle.Json
import ObservabilityLab.Versioning.JsonColumn

/-!
# Bundles in a JSON column

A case stores its bundle in a `JSONB` column. The budgets read their floats back by their schema,
and the untyped fields are read back as the column gives them.

## Main definitions

* `SimulationBundle.stored`: the bundle as it is read back from a column
* `SimulationBundle.floats`, `SimulationBundle.costs`: the floats of the untyped fields, and those
  of the budgets
* `SimulationBundle.Kept`: the column gives all floats of a bundle back

## Main results

* `SimulationBundle.stored_jsonMode`: a bundle that the column keeps is read back as it was written
* `SimulationBundle.kept_of_dump`: the dump tells whether the column kept it
-/

namespace ObservabilityLab

open Python

/-- The untyped fields of a bundle, as they are dumped. -/
def SimulationBundle.untyped (b : SimulationBundle) : PyValue :=
  .list [.list (b.resourceSeeds.map EnvironmentResourceSeed.dump),
    .list (b.dependencyFixtures.map fun f => .dict f.dumpFields),
    b.faultScript.elim .none FaultScript.dump]

/-- The floats of the untyped fields. -/
def SimulationBundle.floats (b : SimulationBundle) : List PyFloat := b.untyped.floats

/-- The cost budgets of the expected behavior, and of its correction. -/
def SimulationBundle.costs (b : SimulationBundle) : List PyFloat :=
  b.expectedBehavior.budgets.maxCostUsd.toList ++
    (b.review.correctedExpectedBehavior.bind (·.budgets.maxCostUsd)).toList

variable [JsonColumn]

/-- A column gives all floats of a bundle back. -/
def SimulationBundle.Kept (b : SimulationBundle) : Prop :=
  (∀ x ∈ b.floats, KeepsFloat x) ∧ ∀ x ∈ b.costs, x ≠ .zero true ∨ KeepsFloat x

def ExpectedBehavior.stored (e : ExpectedBehavior) : ExpectedBehavior :=
  -- a float by the schema: a column that gives an integer back loses only the sign of a zero
  { e with budgets.maxCostUsd := e.budgets.maxCostUsd.map rereadFloat }

def ReviewDecision.stored (r : ReviewDecision) : ReviewDecision :=
  { r with correctedExpectedBehavior :=
      r.correctedExpectedBehavior.map ExpectedBehavior.stored }

def EnvironmentResourceSeed.stored (s : EnvironmentResourceSeed) : EnvironmentResourceSeed :=
  { s with records := s.records.map PyValue.storedEntries }

def DependencyFixture.stored (f : DependencyFixture) : DependencyFixture :=
  { f with
    arguments := PyValue.storedEntries f.arguments
    payload := f.payload.stored }

def FaultScriptEntry.stored (e : FaultScriptEntry) : FaultScriptEntry :=
  { e with arguments := PyValue.storedEntries e.arguments }

def FaultScript.stored (s : FaultScript) : FaultScript :=
  { s with entries := s.entries.map FaultScriptEntry.stored }

/-- The bundle as it is read back from a column, before it is validated. -/
def SimulationBundle.stored (b : SimulationBundle) : SimulationBundle :=
  { b with
    expectedBehavior := b.expectedBehavior.stored
    review := b.review.stored
    resourceSeeds := b.resourceSeeds.map EnvironmentResourceSeed.stored
    dependencyFixtures := b.dependencyFixtures.map DependencyFixture.stored
    faultScript := b.faultScript.map FaultScript.stored }

/-! ## The dump of what is read back -/

theorem EnvironmentResourceSeed.dump_stored (s : EnvironmentResourceSeed) :
    s.jsonMode.stored.dump = s.dump.stored := by
  simp only [dump, stored, jsonMode, PyValue.jsonMode, PyValue.stored, PyValue.storedEntries,
    PyValue.storedList_eq_map, List.map_map, Function.comp_def, PyValue.jsonModeEntries_stored]

theorem DependencyFixture.dumpFields_stored (f : DependencyFixture) :
    f.jsonMode.stored.dumpFields = PyValue.storedEntries f.dumpFields := by
  cases herror : f.errorCode with
  | none =>
    simp only [dumpFields, stored, jsonMode, PyValue.jsonMode, PyValue.stored,
      PyValue.storedEntries, PyValue.jsonModeEntries_stored, PyValue.jsonMode_stored, herror,
      PyValue.ofOption, Option.elim_none]
  | some code =>
    simp only [dumpFields, stored, jsonMode, PyValue.jsonMode, PyValue.stored,
      PyValue.storedEntries, PyValue.jsonModeEntries_stored, PyValue.jsonMode_stored, herror,
      PyValue.ofOption, Option.elim_some]

theorem FaultScriptEntry.dump_stored (e : FaultScriptEntry) :
    e.jsonMode.stored.dump = e.dump.stored := by
  cases hdelay : e.delayMs <;>
    simp only [dump, stored, jsonMode, PyValue.jsonMode, PyValue.stored, PyValue.storedEntries,
      PyValue.jsonModeEntries_stored, hdelay, Option.elim_none, Option.elim_some]

theorem FaultScript.dump_stored (s : FaultScript) : s.jsonMode.stored.dump = s.dump.stored := by
  simp only [dump, stored, jsonMode, PyValue.stored, PyValue.storedEntries,
    PyValue.storedList_eq_map, List.map_map, Function.comp_def, FaultScriptEntry.dump_stored]

theorem SimulationBundle.untyped_stored (b : SimulationBundle) :
    b.jsonMode.stored.untyped = b.untyped.stored := by
  have hscript : b.jsonMode.stored.faultScript.elim PyValue.none FaultScript.dump =
      (b.faultScript.elim PyValue.none FaultScript.dump).stored := by
    change ((b.faultScript.map FaultScript.jsonMode).map FaultScript.stored).elim _ _ = _
    cases b.faultScript with
    | none => rfl
    | some script => exact script.dump_stored
  rw [untyped, hscript]
  simp only [untyped, SimulationBundle.stored, SimulationBundle.jsonMode, PyValue.stored,
    PyValue.storedList_eq_map, List.map_map, Function.comp_def, List.map_cons, List.map_nil,
    EnvironmentResourceSeed.dump_stored, DependencyFixture.dumpFields_stored]

/-! ## Bundles with one dump -/

omit [JsonColumn] in
theorem SimulationBudgets.maxCostUsd_eq_of_dump {a b : SimulationBudgets} (h : a.dump = b.dump) :
    a.maxCostUsd = b.maxCostUsd := by
  simp only [dump, PyValue.dict.injEq, List.cons.injEq, Prod.mk.injEq, true_and, and_true] at h
  obtain ⟨-, -, hcost⟩ := h
  cases ha : a.maxCostUsd with
  | none =>
    cases hb : b.maxCostUsd with
    | none => rfl
    | some cost =>
      rw [ha, hb] at hcost
      cases hcost
  | some first =>
    cases hb : b.maxCostUsd with
    | none =>
      rw [ha, hb] at hcost
      cases hcost
    | some second =>
      rw [ha, hb] at hcost
      exact congrArg some (PyValue.float.inj hcost)

omit [JsonColumn] in
theorem ExpectedBehavior.maxCostUsd_eq_of_dump {a b : ExpectedBehavior} (h : a.dump = b.dump) :
    a.budgets.maxCostUsd = b.budgets.maxCostUsd := by
  simp only [dump, PyValue.dict.injEq, List.cons.injEq, Prod.mk.injEq, true_and] at h
  exact SimulationBudgets.maxCostUsd_eq_of_dump h.2.2.2.2.2.2.1

omit [JsonColumn] in
theorem SimulationBundle.costs_eq_of_dump {a b : SimulationBundle} (h : a.dump = b.dump) :
    a.costs = b.costs := by
  rw [dump, dump, PyValue.dict.injEq] at h
  -- the fields before the seeds have one length in both dumps
  obtain ⟨hmetadata, -⟩ := List.append_inj h rfl
  simp only [metadataFields, List.cons.injEq, Prod.mk.injEq, true_and, and_true] at hmetadata
  obtain ⟨-, -, -, -, hbehavior, -, -, -, -, hreview⟩ := hmetadata
  rw [costs, costs, ExpectedBehavior.maxCostUsd_eq_of_dump hbehavior]
  simp only [ReviewDecision.dump, PyValue.dict.injEq, List.cons.injEq, Prod.mk.injEq, true_and,
    and_true] at hreview
  obtain ⟨-, -, -, -, -, hcorrected⟩ := hreview
  -- an absent correction is dumped as `None`, which is no dictionary
  cases ha : a.review.correctedExpectedBehavior with
  | none =>
    cases hb : b.review.correctedExpectedBehavior with
    | none => rfl
    | some corrected =>
      rw [ha, hb] at hcorrected
      cases hcorrected
  | some first =>
    cases hb : b.review.correctedExpectedBehavior with
    | none =>
      rw [ha, hb] at hcorrected
      cases hcorrected
    | some second =>
      rw [ha, hb] at hcorrected
      rw [Option.bind_some, Option.bind_some, ExpectedBehavior.maxCostUsd_eq_of_dump hcorrected]

omit [JsonColumn] in
theorem SimulationBundle.untyped_eq_of_dump {a b : SimulationBundle} (h : a.dump = b.dump) :
    a.untyped = b.untyped := by
  rw [dump, dump, PyValue.dict.injEq] at h
  obtain ⟨-, hfields⟩ := List.append_inj h rfl
  simp only [List.cons.injEq, Prod.mk.injEq, PyValue.list.injEq, true_and, and_true] at hfields
  obtain ⟨hseeds, hfixtures, hscript⟩ := hfields
  rw [untyped, untyped, hseeds, hfixtures, hscript]

/-- Bundles with one dump are kept alike. -/
theorem SimulationBundle.kept_congr {a b : SimulationBundle} (h : a.dump = b.dump) :
    a.Kept ↔ b.Kept := by
  rw [Kept, Kept, floats, floats, untyped_eq_of_dump h, costs_eq_of_dump h]

/-! ## What the column keeps -/

theorem map_rereadFloat_eq_self_iff {cost : Option PyFloat} :
    cost.map rereadFloat = cost ↔ ∀ x ∈ cost.toList, x ≠ .zero true ∨ KeepsFloat x := by
  cases cost <;> simp [rereadFloat_eq_self_iff]

theorem ExpectedBehavior.stored_eq_self {e : ExpectedBehavior}
    (h : ∀ x ∈ e.budgets.maxCostUsd.toList, x ≠ .zero true ∨ KeepsFloat x) : e.stored = e := by
  rw [stored, map_rereadFloat_eq_self_iff.mpr h]

theorem ReviewDecision.stored_eq_self {r : ReviewDecision}
    (h : ∀ x ∈ (r.correctedExpectedBehavior.bind (·.budgets.maxCostUsd)).toList,
      x ≠ .zero true ∨ KeepsFloat x) : r.stored = r := by
  rw [stored]
  cases hcorrected : r.correctedExpectedBehavior with
  | none => rw [Option.map_none, ← hcorrected]
  | some corrected =>
    rw [hcorrected] at h
    rw [Option.map_some, ExpectedBehavior.stored_eq_self h, ← hcorrected]

theorem EnvironmentResourceSeed.stored_jsonMode {s : EnvironmentResourceSeed}
    (h : s.dump.stored = s.dump) : s.jsonMode.stored = s.jsonMode := by
  have hrecords : ∀ record ∈ s.records,
      PyValue.storedEntries (PyValue.jsonModeEntries record) = PyValue.jsonModeEntries record := by
    simpa [dump, PyValue.jsonMode, PyValue.stored, PyValue.storedEntries,
      PyValue.storedList_eq_map] using h
  simp only [stored, jsonMode, List.map_map, Function.comp_def, List.map_congr_left hrecords]

theorem DependencyFixture.stored_jsonMode {f : DependencyFixture}
    (h : PyValue.storedEntries f.dumpFields = f.dumpFields) : f.jsonMode.stored = f.jsonMode := by
  have hfields : PyValue.storedEntries (PyValue.jsonModeEntries f.arguments) =
      PyValue.jsonModeEntries f.arguments ∧ f.payload.jsonMode.stored = f.payload.jsonMode := by
    simp only [dumpFields, PyValue.jsonMode, PyValue.stored, PyValue.storedEntries,
      List.cons.injEq, Prod.mk.injEq, PyValue.dict.injEq, true_and] at h
    exact ⟨h.1, h.2.1⟩
  simp only [stored, jsonMode, hfields]

theorem FaultScriptEntry.stored_jsonMode {e : FaultScriptEntry} (h : e.dump.stored = e.dump) :
    e.jsonMode.stored = e.jsonMode := by
  have harguments : PyValue.storedEntries (PyValue.jsonModeEntries e.arguments) =
      PyValue.jsonModeEntries e.arguments := by
    simp only [dump, PyValue.jsonMode, PyValue.stored, PyValue.storedEntries,
      List.cons.injEq, Prod.mk.injEq, PyValue.dict.injEq, true_and] at h
    exact h.1
  simp only [stored, jsonMode, harguments]

theorem FaultScript.stored_jsonMode {s : FaultScript} (h : s.dump.stored = s.dump) :
    s.jsonMode.stored = s.jsonMode := by
  have hentries : ∀ entry ∈ s.entries, entry.dump.stored = entry.dump := by
    simpa [dump, PyValue.stored, PyValue.storedEntries, PyValue.storedList_eq_map] using h
  have hkept : ∀ entry ∈ s.entries, entry.jsonMode.stored = entry.jsonMode := fun entry hentry =>
    FaultScriptEntry.stored_jsonMode (hentries entry hentry)
  simp only [stored, jsonMode, List.map_map, Function.comp_def, List.map_congr_left hkept]

/-- **A bundle that the column keeps is read back as it was written.** -/
theorem SimulationBundle.stored_jsonMode {b : SimulationBundle} (h : b.Kept) :
    b.jsonMode.stored = b.jsonMode := by
  -- the untyped fields as one value, so that one law about values serves all three
  have huntyped : b.untyped.stored = b.untyped := (PyValue.stored_eq_self_iff b.untyped).mpr h.1
  simp only [untyped, PyValue.stored, PyValue.storedList_eq_map, List.map_cons, List.map_nil,
    List.map_map, PyValue.list.injEq, List.cons.injEq, and_true, List.map_inj_left,
    Function.comp_apply, PyValue.dict.injEq] at huntyped
  obtain ⟨hseeds, hfixtures, hscript⟩ := huntyped
  have hseeds : b.jsonMode.resourceSeeds.map EnvironmentResourceSeed.stored =
      b.jsonMode.resourceSeeds := by
    rw [jsonMode, List.map_map]
    exact List.map_congr_left fun seed hseed =>
      EnvironmentResourceSeed.stored_jsonMode (hseeds seed hseed)
  have hfixtures : b.jsonMode.dependencyFixtures.map DependencyFixture.stored =
      b.jsonMode.dependencyFixtures := by
    rw [jsonMode, List.map_map]
    exact List.map_congr_left fun fixture hfixture =>
      DependencyFixture.stored_jsonMode (hfixtures fixture hfixture)
  have hscript : b.jsonMode.faultScript.map FaultScript.stored = b.jsonMode.faultScript := by
    rw [jsonMode]
    cases hname : b.faultScript with
    | none => rfl
    | some script =>
      rw [hname, Option.elim_some] at hscript
      exact congrArg some (FaultScript.stored_jsonMode hscript)
  -- the budgets are read back by their schema, so that only a negative zero may be lost
  have hcosts := List.forall_mem_append.mp h.2
  have hbehavior : b.jsonMode.expectedBehavior.stored = b.jsonMode.expectedBehavior :=
    ExpectedBehavior.stored_eq_self hcosts.1
  have hreview : b.jsonMode.review.stored = b.jsonMode.review :=
    ReviewDecision.stored_eq_self hcosts.2
  rw [stored, hseeds, hfixtures, hscript, hbehavior, hreview]

theorem SimulationBundle.costs_stored (b : SimulationBundle) :
    b.stored.costs = b.costs.map rereadFloat := by
  have hcorrected : b.stored.review.correctedExpectedBehavior.bind (·.budgets.maxCostUsd) =
      (b.review.correctedExpectedBehavior.bind (·.budgets.maxCostUsd)).map rereadFloat := by
    change (b.review.correctedExpectedBehavior.map ExpectedBehavior.stored).bind _ = _
    cases b.review.correctedExpectedBehavior <;> rfl
  rw [costs, hcorrected, costs, List.map_append, Option.toList_map]
  exact congrArg (· ++ _) Option.toList_map

/-- The dump of what is read back tells whether the column kept the bundle. -/
theorem SimulationBundle.kept_of_dump {b : SimulationBundle}
    (h : b.jsonMode.stored.dump = b.dump) : b.Kept := by
  refine ⟨?_, ?_⟩
  · exact (PyValue.stored_eq_self_iff b.untyped).mp
      ((untyped_stored b).symm.trans (untyped_eq_of_dump h))
  · have hcosts : b.costs.map rereadFloat = b.costs.map id :=
      (costs_stored b.jsonMode).symm.trans ((costs_eq_of_dump h).trans (List.map_id _).symm)
    exact fun x hx => rereadFloat_eq_self_iff.mp (List.map_inj_left.mp hcosts x hx)

end ObservabilityLab
