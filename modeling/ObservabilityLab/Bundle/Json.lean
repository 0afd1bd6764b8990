import ObservabilityLab.Bundle.Schemas

/-!
# Bundles read back from JSON

A bundle that is stored as JSON and read back differs from the stored one only in its untyped
fields, where an identifier became its text. An accepted bundle is accepted again.

## Main definitions

* `SimulationBundle.jsonMode`: the bundle as it is read back, before it is validated

## Main results

* `SimulationBundle.dump_jsonMode`: what is read back has the same dump
* `SimulationBundle.validate_jsonMode`: what is read back of an accepted bundle is accepted
-/

namespace ObservabilityLab

open Python

def EnvironmentResourceSeed.jsonMode (s : EnvironmentResourceSeed) : EnvironmentResourceSeed :=
  { s with records := s.records.map PyValue.jsonModeEntries }

def DependencyFixture.jsonMode (f : DependencyFixture) : DependencyFixture :=
  { f with
    arguments := PyValue.jsonModeEntries f.arguments
    payload := f.payload.jsonMode }

def FaultScriptEntry.jsonMode (e : FaultScriptEntry) : FaultScriptEntry :=
  { e with arguments := PyValue.jsonModeEntries e.arguments }

def FaultScript.jsonMode (s : FaultScript) : FaultScript :=
  { s with entries := s.entries.map FaultScriptEntry.jsonMode }

/-- The bundle that `model_dump(mode="json")` and the parsing of its fields give. -/
def SimulationBundle.jsonMode (b : SimulationBundle) : SimulationBundle :=
  { b with
    resourceSeeds := b.resourceSeeds.map EnvironmentResourceSeed.jsonMode
    dependencyFixtures := b.dependencyFixtures.map DependencyFixture.jsonMode
    faultScript := b.faultScript.map FaultScript.jsonMode }

/-! ## The dump -/

theorem EnvironmentResourceSeed.dump_jsonMode (s : EnvironmentResourceSeed) :
    s.jsonMode.dump = s.dump := by
  simp only [EnvironmentResourceSeed.dump, EnvironmentResourceSeed.jsonMode, PyValue.jsonMode,
    List.map_map, Function.comp_def, PyValue.jsonModeEntries_idem]

theorem DependencyFixture.dumpFields_jsonMode (f : DependencyFixture) :
    f.jsonMode.dumpFields = f.dumpFields := by
  simp only [DependencyFixture.dumpFields, DependencyFixture.jsonMode, PyValue.jsonMode,
    PyValue.jsonModeEntries_idem, PyValue.jsonMode_idem]

theorem FaultScriptEntry.dump_jsonMode (e : FaultScriptEntry) : e.jsonMode.dump = e.dump := by
  simp only [FaultScriptEntry.dump, FaultScriptEntry.jsonMode, PyValue.jsonMode,
    PyValue.jsonModeEntries_idem]

theorem FaultScript.dump_jsonMode (s : FaultScript) : s.jsonMode.dump = s.dump := by
  simp only [FaultScript.dump, FaultScript.jsonMode, List.map_map, Function.comp_def,
    FaultScriptEntry.dump_jsonMode]

/-- **A bundle read back from JSON has the same dump.** -/
theorem SimulationBundle.dump_jsonMode (b : SimulationBundle) : b.jsonMode.dump = b.dump := by
  have hmetadata : b.jsonMode.metadataFields = b.metadataFields := rfl
  have hscript : b.jsonMode.faultScript.elim PyValue.none FaultScript.dump =
      b.faultScript.elim PyValue.none FaultScript.dump := by
    change (b.faultScript.map FaultScript.jsonMode).elim _ _ = _
    cases b.faultScript with
    | none => rfl
    | some script => exact script.dump_jsonMode
  rw [SimulationBundle.dump, SimulationBundle.dump, hmetadata, hscript]
  simp only [SimulationBundle.jsonMode, List.map_map, Function.comp_def,
    EnvironmentResourceSeed.dump_jsonMode, DependencyFixture.dumpFields_jsonMode]

/-! ## Accepted values are in JSON mode -/

/-- A map that fixes every element of a list. -/
theorem map_eq_self {α : Type} {f : α → α} {l : List α} (h : ∀ a ∈ l, f a = a) : l.map f = l :=
  (List.map_congr_left h).trans (List.map_id' l)

section Scanners

variable [UnicodeTables] {forbidden : List String}

theorem jsonMode_of_checkAllowlistedValue {context : String} {entry : String × PyValue}
    (h : checkAllowlistedValue context forbidden entry = .ok ()) :
    entry.2.jsonMode = entry.2 := by
  obtain ⟨key, value⟩ := entry
  cases value with
  | none | bool _ | int _ | float _ | str _ => rfl
  | uuid _ | list _ | dict _ => cases h

theorem jsonMode_of_scanFixtureArgument {context : String} {entry : String × PyValue}
    (h : scanFixtureArgument context forbidden entry = .ok ()) : entry.2.jsonMode = entry.2 := by
  obtain ⟨key, value⟩ := entry
  unfold scanFixtureArgument at h
  split_ifs at h
  cases value with
  | none | bool _ | int _ | float _ | str _ => rfl
  | uuid _ | list _ | dict _ => cases h

theorem jsonModeEntries_of_validateResourceSeed [FloatRepr] {resource : String} {record : Record}
    (h : validateResourceSeed resource record forbidden = .ok ()) :
    PyValue.jsonModeEntries record = record := by
  unfold validateResourceSeed at h
  split at h
  · cases h
  · rw [check_bind_eq_ok] at h
    have hmapping := h.1
    rw [validateAllowlistedMapping, check_bind_eq_ok] at hmapping
    exact PyValue.jsonModeEntries_eq_self fun entry hentry =>
      jsonMode_of_checkAllowlistedValue (forM_eq_ok.mp hmapping.2 entry hentry)

theorem jsonMode_of_validateFaultEntry {declared : List String} {entry : FaultScriptEntry}
    (h : validateFaultEntry declared forbidden entry = .ok ()) : entry.jsonMode = entry := by
  rw [validateFaultEntry, check_bind_eq_ok, check_bind_eq_ok] at h
  have harguments : PyValue.jsonModeEntries entry.arguments = entry.arguments :=
    PyValue.jsonModeEntries_eq_self fun argument hargument =>
      jsonMode_of_scanFixtureArgument (forM_eq_ok.mp h.2.2 argument hargument)
  rw [FaultScriptEntry.jsonMode, harguments]

theorem jsonMode_of_validateFaultScript {script : Option FaultScript}
    {allowedTools allowedDependencies : List String}
    (h : validateFaultScript script allowedTools allowedDependencies forbidden = .ok ()) :
    script.map FaultScript.jsonMode = script := by
  cases script with
  | none => rfl
  | some script =>
    rw [validateFaultScript, check_bind_eq_ok] at h
    have hentries : script.entries.map FaultScriptEntry.jsonMode = script.entries :=
      map_eq_self fun entry hentry =>
        jsonMode_of_validateFaultEntry (forM_eq_ok.mp h.2 entry hentry)
    rw [Option.map_some, FaultScript.jsonMode, hentries]

end Scanners

/-! ## Every seed record is scanned -/

/-- A record stands in the group of its resource. -/
def Grouped (grouped : List (String × List Record)) (resource : String) (record : Record) : Prop :=
  ∃ entry ∈ grouped, entry.1 = resource ∧ record ∈ entry.2

/-- Grouping a seed keeps what is grouped and adds the records of the seed. -/
theorem Grouped.groupSeed {grouped : List (String × List Record)} {seed : EnvironmentResourceSeed}
    {resource : String} {record : Record}
    (h : Grouped grouped resource record ∨ seed.resource = resource ∧ record ∈ seed.records) :
    Grouped (groupSeed grouped seed) resource record := by
  unfold ObservabilityLab.groupSeed
  split_ifs with hany
  · rcases h with ⟨entry, hentry, hresource, hrecord⟩ | ⟨hresource, hrecord⟩
    · refine ⟨_, List.mem_map_of_mem hentry, ?_⟩
      split_ifs
      · exact ⟨hresource, List.mem_append_left _ hrecord⟩
      · exact ⟨hresource, hrecord⟩
    · obtain ⟨entry, hentry, hname⟩ := List.any_eq_true.mp hany
      have hname : entry.1 = seed.resource := of_decide_eq_true hname
      refine ⟨_, List.mem_map_of_mem hentry, ?_⟩
      rw [if_pos hname]
      exact ⟨hname.trans hresource, List.mem_append_right _ hrecord⟩
  · rcases h with ⟨entry, hentry, hrest⟩ | ⟨hresource, hrecord⟩
    · exact ⟨entry, List.mem_append_left _ hentry, hrest⟩
    · exact ⟨_, List.mem_append_right _ (List.mem_singleton_self _), hresource, hrecord⟩

theorem grouped_foldl {seeds : List EnvironmentResourceSeed} {grouped : List (String × List Record)}
    {resource : String} {record : Record}
    (h : Grouped grouped resource record ∨
      ∃ seed ∈ seeds, seed.resource = resource ∧ record ∈ seed.records) :
    Grouped (seeds.foldl groupSeed grouped) resource record := by
  induction seeds generalizing grouped with
  | nil => simpa using h
  | cons seed seeds ih =>
    rw [List.foldl_cons]
    refine ih ?_
    rcases h with hgrouped | ⟨seed', hseed, hrecord⟩
    · exact Or.inl (.groupSeed (Or.inl hgrouped))
    · rcases List.mem_cons.mp hseed with rfl | hseed
      · exact Or.inl (.groupSeed (Or.inr hrecord))
      · exact Or.inr ⟨seed', hseed, hrecord⟩

/-- **Every record of every seed is grouped under its resource.** -/
theorem grouped_resourcesByType {b : SimulationBundle} {seed : EnvironmentResourceSeed}
    {record : Record} (hseed : seed ∈ b.resourceSeeds) (hrecord : record ∈ seed.records) :
    Grouped (resourcesByType b) seed.resource record :=
  grouped_foldl (Or.inr ⟨seed, hseed, rfl, hrecord⟩)

/-! ## Accepted again -/

section Accepted

variable [UnicodeTables] [FloatRepr] {b : SimulationBundle}

/-- The seeds of a scanned bundle are in JSON mode. -/
theorem resourceSeeds_jsonMode (h : validateBundleContent b = .ok ()) :
    b.resourceSeeds.map EnvironmentResourceSeed.jsonMode = b.resourceSeeds := by
  rw [validateBundleContent, check_bind_eq_ok, scanBundleContent, check_bind_eq_ok] at h
  have hrecords := h.1.1
  refine map_eq_self fun seed hseed => ?_
  have hmap : seed.records.map PyValue.jsonModeEntries = seed.records := by
    refine map_eq_self fun record hrecord => ?_
    obtain ⟨entry, hentry, -, hmem⟩ := grouped_resourcesByType hseed hrecord
    exact jsonModeEntries_of_validateResourceSeed
      (forM_eq_ok.mp (forM_eq_ok.mp hrecords entry hentry) record hmem)
  rw [EnvironmentResourceSeed.jsonMode, hmap]

theorem validateBundleContent_jsonMode (h : validateBundleContent b = .ok ()) :
    validateBundleContent b.jsonMode = .ok () := by
  have hseeds := resourceSeeds_jsonMode h
  have hscript : b.faultScript.map FaultScript.jsonMode = b.faultScript := by
    rw [validateBundleContent, check_bind_eq_ok, check_bind_eq_ok] at h
    exact jsonMode_of_validateFaultScript h.2.1
  have hfields : b.jsonMode.dependencyFixtures.map (·.dumpFields) =
      b.dependencyFixtures.map (·.dumpFields) := by
    simp only [SimulationBundle.jsonMode, List.map_map, Function.comp_def,
      DependencyFixture.dumpFields_jsonMode]
  have hgroups : resourcesByType b.jsonMode = resourcesByType b := by
    change (b.resourceSeeds.map EnvironmentResourceSeed.jsonMode).foldl groupSeed [] = _
    rw [hseeds]
    rfl
  rw [validateBundleContent, hgroups, hfields]
  rw [show b.jsonMode.faultScript = b.faultScript from hscript]
  exact h

variable [HashFunctions]

/-- **What is read back of an accepted bundle is accepted**, unchanged. -/
theorem SimulationBundle.validate_jsonMode (h : b.validate = .ok b) :
    b.jsonMode.validate = .ok b.jsonMode := by
  obtain ⟨hscan, hhash, hid, hreview, hself⟩ := SimulationBundle.validate_eq_ok.mp h
  have hcompute : computeBundleHash b.jsonMode = computeBundleHash b := by
    rw [computeBundleHash, SimulationBundle.dump_jsonMode, computeBundleHash]
  refine SimulationBundle.validate_eq_ok.mpr
    ⟨validateBundleContent_jsonMode hscan, ?_, ?_, hreview, ?_⟩
  · rw [hcompute]
    exact hhash
  · rw [hcompute]
    exact hid
  · rw [SimulationBundle.withIdentity, hcompute]
    conv_rhs => rw [← hself]
    rfl

end Accepted

end ObservabilityLab
