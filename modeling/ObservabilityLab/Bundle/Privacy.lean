import ObservabilityLab.Bundle.Compiler

/-!
# What a bundle reveals

A private source value must not occur in any string of a compiled bundle outside its evidence link.
The compiler scans the approved message, the seed values, the fixture values and the fault script
for private values. The other strings of a bundle are copied or derived without that scan, and a
bundle is private exactly when these strings are.

## Main definitions

* `SimulationBundle.strings`: every string of a bundle outside the evidence link
* `CompileArguments.scannedStrings`, `CompileArguments.unscannedStrings`: the strings of a compiled
  bundle by their source
* `RevealsNothing`: no private source value of a scenario occurs in a list of strings

## Main results

* `mem_strings_compiled`: the strings of a compiled bundle are the scanned and the unscanned ones
* `revealsNothing_scannedStrings`: the scans cover the scanned strings
* `compiled_private_iff`: when a compiled bundle is private
-/

namespace ObservabilityLab

open Python

/-! ## The strings of a bundle -/

/-- The keys and the strings of a free-form mapping, at any depth. -/
def recordStrings (record : Record) : List String :=
  PyValue.keysEntries record ++ PyValue.textsEntries record

/-- The keys and the values of a mapping from text to text. -/
def mappingStrings (mapping : List (String × String)) : List String :=
  mapping.flatMap fun entry => [entry.1, entry.2]

def BundleScenario.strings (s : BundleScenario) : List String :=
  [s.scenarioId, s.sourceSchemaVersion, s.sourceContentHash.text, s.category.value,
    s.request.customerId.str, s.request.message] ++
  s.workflowContext.dump.texts ++ s.eligibleActions ++
  s.requiredDependencyCoverage.flatMap (·.dump.texts)

def EnvironmentResourceSeed.strings (s : EnvironmentResourceSeed) : List String :=
  [s.resource, s.adapterName, s.adapterVersion] ++ s.records.flatMap recordStrings

def DependencyFixture.strings (f : DependencyFixture) : List String :=
  [f.dependency, f.adapterName, f.adapterVersion, f.tool] ++ f.errorCode.toList ++
  recordStrings f.arguments ++ f.payload.keys ++ f.payload.texts

def FaultScriptEntry.strings (e : FaultScriptEntry) : List String :=
  [e.kind.value, e.tool] ++ recordStrings e.arguments

def FaultScript.strings (s : FaultScript) : List String :=
  [s.schemaVersion, s.scriptVersion, s.dependency] ++ s.entries.flatMap FaultScriptEntry.strings

def ConfigurationVersions.strings (c : ConfigurationVersions) : List String :=
  c.dump.texts ++ c.toolVersions.map Prod.fst

def RedactionDecision.strings (r : RedactionDecision) : List String := [r.field, r.reason]

/-- The strings of the other fields of a bundle, outside the evidence link. -/
def SimulationBundle.metadataStrings (b : SimulationBundle) : List String :=
  b.schemaVersion :: (b.bundleId.map Uuid.str).toList ++
  (b.evidenceContentHash.map (·.text)).toList ++ b.expectedBehavior.dump.texts ++
  b.configurationVersions.strings ++ mappingStrings b.adapterVersions ++ b.coverage.covered ++
  b.coverage.missing ++ b.redactionDecisions.flatMap (·.strings) ++ b.review.dump.texts ++
  (b.contentHash.map (·.text)).toList

/-- Every string of a bundle outside the evidence link: values, and keys of free-form mappings. -/
def SimulationBundle.strings (b : SimulationBundle) : List String :=
  b.scenario.strings ++ b.resourceSeeds.flatMap (·.strings) ++
  b.dependencyFixtures.flatMap (·.strings) ++ b.faultScript.toList.flatMap (·.strings) ++
  b.metadataStrings

/-! ## Scanned and unscanned strings -/

section Split

/-- The values of a seed's records are scanned. -/
def EnvironmentResourceSeed.scannedStrings (s : EnvironmentResourceSeed) : List String :=
  s.records.flatMap PyValue.textsEntries

def EnvironmentResourceSeed.unscannedStrings (s : EnvironmentResourceSeed) : List String :=
  [s.resource, s.adapterName, s.adapterVersion] ++ s.records.flatMap PyValue.keysEntries

/-- The fields and the values of a fixture are scanned. -/
def DependencyFixture.scannedStrings (f : DependencyFixture) : List String :=
  [f.dependency, f.adapterName, f.adapterVersion, f.tool] ++ f.errorCode.toList ++
  PyValue.textsEntries f.arguments ++ f.payload.texts

def DependencyFixture.unscannedStrings (f : DependencyFixture) : List String :=
  PyValue.keysEntries f.arguments ++ f.payload.keys

/-- The tools and the argument values of a fault script are scanned. -/
def FaultScript.scannedStrings (s : FaultScript) : List String :=
  s.entries.flatMap fun entry => entry.tool :: PyValue.textsEntries entry.arguments

def FaultScript.unscannedStrings (s : FaultScript) : List String :=
  [s.schemaVersion, s.scriptVersion, s.dependency] ++
  s.entries.flatMap fun entry => entry.kind.value :: PyValue.keysEntries entry.arguments

/-- Lists of two parts each, gathered part by part. -/
theorem mem_flatMap_split {α : Type} {l : List α} {f g h : α → List String} {s : String}
    (hsplit : ∀ a, s ∈ f a ↔ s ∈ g a ∨ s ∈ h a) :
    s ∈ l.flatMap f ↔ s ∈ l.flatMap g ∨ s ∈ l.flatMap h := by
  simp only [List.mem_flatMap, hsplit, and_or_left, exists_or]

theorem mem_recordStrings {record : Record} {s : String} :
    s ∈ recordStrings record ↔
      s ∈ PyValue.textsEntries record ∨ s ∈ PyValue.keysEntries record := by
  rw [recordStrings, List.mem_append, or_comm]

theorem EnvironmentResourceSeed.mem_strings {seed : EnvironmentResourceSeed} {s : String} :
    s ∈ seed.strings ↔ s ∈ seed.scannedStrings ∨ s ∈ seed.unscannedStrings := by
  rw [EnvironmentResourceSeed.strings, List.mem_append,
    mem_flatMap_split fun _ => mem_recordStrings, scannedStrings, unscannedStrings,
    List.mem_append, or_left_comm]

theorem DependencyFixture.mem_strings {f : DependencyFixture} {s : String} :
    s ∈ f.strings ↔ s ∈ f.scannedStrings ∨ s ∈ f.unscannedStrings := by
  simp only [DependencyFixture.strings, scannedStrings, unscannedStrings, List.mem_append,
    mem_recordStrings, or_assoc, or_comm, or_left_comm]

theorem FaultScript.mem_strings {script : FaultScript} {s : String} :
    s ∈ script.strings ↔ s ∈ script.scannedStrings ∨ s ∈ script.unscannedStrings := by
  have hentry (entry : FaultScriptEntry) : s ∈ entry.strings ↔
      s ∈ entry.tool :: PyValue.textsEntries entry.arguments ∨
        s ∈ entry.kind.value :: PyValue.keysEntries entry.arguments := by
    simp only [FaultScriptEntry.strings, List.mem_append, mem_recordStrings, List.mem_cons,
      List.not_mem_nil, false_or, or_assoc, or_comm, or_left_comm]
  rw [FaultScript.strings, List.mem_append, mem_flatMap_split hentry, scannedStrings,
    unscannedStrings, List.mem_append, or_left_comm]

variable [HashFunctions]

/-- The strings of a compiled bundle that are scanned for private values: the approved message, the
values of seeds and fixtures, and the tools and argument values of the fault script. -/
def CompileArguments.scannedStrings (args : CompileArguments) : List String :=
  args.approvedRequestMessage ::
  (stateSeeds args.scenario.initialState).flatMap EnvironmentResourceSeed.scannedStrings ++
  args.dependencyFixtures.flatMap DependencyFixture.scannedStrings ++
  args.faultScript.toList.flatMap FaultScript.scannedStrings

/-- The strings of the scenario projection, apart from the approved message. -/
def CompileArguments.scenarioStrings (args : CompileArguments) : List String :=
  [args.scenario.scenarioId, args.scenario.schemaVersion, (sourceContentHash args.scenario).text,
    args.scenario.category.value, (syntheticId args.scenario.request.customerId).str] ++
  args.scenario.workflowContext.dump.texts ++ args.scenario.eligibleActions ++
  args.scenario.requiredDependencyCoverage.flatMap (·.dump.texts)

/-- The strings of the expected behavior, versions, coverage, redaction decisions and review, and of
the hashes and the identifier of the bundle. -/
def CompileArguments.metadataStrings (args : CompileArguments)
    (hmessage : lengthWithin 1 2000 args.approvedRequestMessage = true) : List String :=
  let contentHash := computeBundleHash (draftBundle args hmessage)
  "1.0.0" :: (derivedBundleId contentHash).str ::
  (args.evidence.map fun evidence => (computeContentHash evidence).text).toList ++
  args.expected.dump.texts ++ args.versions.strings ++ mappingStrings args.adapterVersions ++
  sortedSet ((args.coverageItems.map (·.dependency)).filter (· ≠ "")) ++
  (args.allRedactions (stateSeeds args.scenario.initialState)).flatMap RedactionDecision.strings ++
  args.review.dump.texts ++ [contentHash.text]

/-- The strings of a compiled bundle that are not scanned for private values: the scenario
projection, the keys of free-form mappings, the rest of seeds and fault script, and the metadata. -/
def CompileArguments.unscannedStrings (args : CompileArguments)
    (hmessage : lengthWithin 1 2000 args.approvedRequestMessage = true) : List String :=
  args.scenarioStrings ++
  (stateSeeds args.scenario.initialState).flatMap EnvironmentResourceSeed.unscannedStrings ++
  args.dependencyFixtures.flatMap DependencyFixture.unscannedStrings ++
  args.faultScript.toList.flatMap FaultScript.unscannedStrings ++ args.metadataStrings hmessage

theorem mem_scenarioStrings {args : CompileArguments}
    {hmessage : lengthWithin 1 2000 args.approvedRequestMessage = true} {s : String} :
    s ∈ (args.bundleScenario hmessage).strings ↔
      s = args.approvedRequestMessage ∨ s ∈ args.scenarioStrings := by
  simp only [BundleScenario.strings, CompileArguments.bundleScenario,
    CompileArguments.scenarioStrings, List.mem_append, List.mem_cons, List.not_mem_nil, or_assoc,
    or_comm, or_left_comm]

theorem metadataStrings_draftBundle {args : CompileArguments}
    {hmessage : lengthWithin 1 2000 args.approvedRequestMessage = true} :
    (draftBundle args hmessage).withIdentity.metadataStrings = args.metadataStrings hmessage := by
  have hevidence : (args.evidence.map computeContentHash).map (·.text) =
      args.evidence.map fun evidence => (computeContentHash evidence).text := by
    rw [Option.map_map]
    rfl
  simp only [SimulationBundle.metadataStrings, CompileArguments.metadataStrings,
    SimulationBundle.withIdentity, draftBundle, hevidence, Option.map_some, Option.toList_some,
    List.append_nil, List.cons_append, List.nil_append]

/-- **The strings of a compiled bundle are the scanned and the unscanned ones.** -/
theorem mem_strings_compiled {args : CompileArguments}
    {hmessage : lengthWithin 1 2000 args.approvedRequestMessage = true} {s : String} :
    s ∈ (draftBundle args hmessage).withIdentity.strings ↔
      s ∈ args.scannedStrings ∨ s ∈ args.unscannedStrings hmessage := by
  have hscenario : (draftBundle args hmessage).withIdentity.scenario =
      args.bundleScenario hmessage := rfl
  rw [SimulationBundle.strings, hscenario, metadataStrings_draftBundle,
    CompileArguments.scannedStrings, CompileArguments.unscannedStrings]
  simp only [SimulationBundle.withIdentity, draftBundle, List.mem_append, List.mem_cons,
    mem_scenarioStrings, mem_flatMap_split fun _ => EnvironmentResourceSeed.mem_strings,
    mem_flatMap_split fun _ => DependencyFixture.mem_strings,
    mem_flatMap_split fun _ => FaultScript.mem_strings, or_assoc, or_comm, or_left_comm]

end Split

/-! ## Privacy -/

section Privacy

variable [UnicodeTables]

/-- No private source value of a scenario occurs in a list of strings, ignoring case. -/
def RevealsNothing (scenario : SimulationScenario) (strings : List String) : Prop :=
  ∀ s ∈ strings, ∀ v ∈ privateSourceValues scenario, ¬ ContainsIgnoringCase v s

theorem mem_findUuids_ne_empty {cs : List Char} :
    ∀ skip inWord, ∀ s ∈ findUuids skip inWord cs, s ≠ "" := by
  induction cs with
  | nil => rintro (_ | skip) inWord s hs <;> cases hs
  | cons c cs ih =>
    rintro (_ | skip) inWord s hs
    · rw [findUuids] at hs
      split_ifs at hs
      · rcases List.mem_cons.mp hs with rfl | hs
        · intro hempty
          have htake := congrArg String.toList hempty
          rw [String.toList_ofList] at htake
          cases htake
        · exact ih _ _ s hs
      · exact ih _ _ s hs
    · rw [findUuids] at hs
      exact ih _ _ s hs

/-- The private source values of a scenario are not empty. -/
theorem privateSourceValues_ne_empty {scenario : SimulationScenario} :
    ∀ v ∈ privateSourceValues scenario, v ≠ "" := by
  have hbounded {low high : ℕ} {s : String} (hlow : 0 < low)
      (h : lengthWithin low high s = true) : s ≠ "" := by
    rintro rfl
    rw [lengthWithin, Bool.and_eq_true, decide_eq_true_eq] at h
    exact absurd (hlow.trans_le h.1) (by decide)
  intro v hv
  rw [privateSourceValues, List.mem_cons, List.mem_cons, sourceIdentifiers, mem_sortedSet] at hv
  rcases hv with rfl | rfl | hv
  · exact hbounded Nat.one_pos scenario.request.messageLength
  · exact hbounded Nat.one_pos scenario.titleLength
  · simp only [List.mem_append, List.mem_cons, List.mem_map, List.mem_filterMap,
      Option.map_eq_some_iff] at hv
    rcases hv with hid | hmessage
    · rcases hid with (((((rfl | ⟨_, -, rfl⟩) | ⟨_, -, rfl⟩) | ⟨_, -, rfl⟩) | ⟨_, -, rfl⟩) |
        ⟨_, -, _, -, rfl⟩) | ⟨_, -, rfl⟩
      all_goals exact Uuid.str_ne_empty _
    · exact mem_findUuids_ne_empty _ _ v hmessage

/-- What is free of the private values and more reveals nothing. -/
theorem revealsNothing_of_freeOf {scenario : SimulationScenario} (more : List String)
    {strings : List String}
    (h : ∀ s ∈ strings, FreeOf (more ++ privateSourceValues scenario) s) :
    RevealsNothing scenario strings := fun s hs v hv =>
  h s hs v (List.mem_append_right _ hv) (privateSourceValues_ne_empty v hv)

theorem revealsNothing_append {scenario : SimulationScenario} {strings more : List String} :
    RevealsNothing scenario (strings ++ more) ↔
      RevealsNothing scenario strings ∧ RevealsNothing scenario more :=
  List.forall_mem_append

/-- The values of scanned records are free of forbidden text. -/
theorem freeOf_of_scanFixture {forbidden : List String} {fixture : DependencyFixture} {index : ℕ}
    (h : scanFixture forbidden fixture.dumpFields index = .ok ()) :
    ∀ s ∈ fixture.scannedStrings, FreeOf forbidden s := by
  rw [scanFixture, check_bind_eq_ok, check_bind_eq_ok] at h
  obtain ⟨hfields, harguments, hpayload⟩ := h
  rw [forM_eq_ok] at hfields
  have htexts := freeOf_of_scanFixtureArguments
    (show scanFixtureArguments (.dict (PyValue.jsonModeEntries fixture.arguments)) _ _ = .ok () from
      harguments)
  have hvalues := freeOf_of_validateFixturePayload _ fixture.payload.jsonMode hpayload
  rw [PyValue.texts_jsonModeEntries] at htexts
  rw [PyValue.texts_jsonMode] at hvalues
  rw [DependencyFixture.scannedStrings, List.forall_mem_append, List.forall_mem_append,
    List.forall_mem_append]
  refine ⟨⟨⟨?_, ?_⟩, htexts⟩, hvalues⟩
  · simp only [List.forall_mem_cons, List.not_mem_nil, false_imp_iff, implies_true, and_true]
    exact ⟨freeOf_of_scanFixtureString (hfields "dependency" (by decide)),
      freeOf_of_scanFixtureString (hfields "adapter_name" (by decide)),
      freeOf_of_scanFixtureString (hfields "adapter_version" (by decide)),
      freeOf_of_scanFixtureString (hfields "tool" (by decide))⟩
  · intro s hs
    have herror := hfields "error_code" (by decide)
    rw [Option.mem_toList] at hs
    rw [DependencyFixture.dumpFields, hs] at herror
    exact freeOf_of_scanFixtureString herror

variable [HashFunctions] [FloatRepr]

/-- **The scans of the compiler cover the scanned strings.** -/
theorem revealsNothing_scannedStrings {args : CompileArguments} {bundle : SimulationBundle}
    (h : compileBundle args = .ok bundle) :
    RevealsNothing args.scenario args.scannedStrings := by
  obtain ⟨-, -, hmessage, hfaults, hscan, -⟩ := compileBundle_eq_ok h
  rw [scanBundleContent, check_bind_eq_ok, forM_eq_ok, forM_eq_ok] at hscan
  obtain ⟨hrecords, hfixtures⟩ := hscan
  rw [CompileArguments.scannedStrings, ← List.singleton_append, revealsNothing_append,
    revealsNothing_append, revealsNothing_append]
  refine ⟨⟨⟨?_, ?_⟩, ?_⟩, ?_⟩
  · refine revealsNothing_of_freeOf [] fun s hs => ?_
    rw [List.mem_singleton.mp hs]
    exact freeOf_of_validateSafeText hmessage
  all_goals refine revealsNothing_of_freeOf args.forbiddenSubstrings fun s hs => ?_
  · obtain ⟨seed, hseed, hs⟩ := List.mem_flatMap.mp hs
    obtain ⟨record, hrecord, hs⟩ := List.mem_flatMap.mp hs
    have hvalid := forM_eq_ok.mp (hrecords _ (List.mem_map_of_mem hseed)) record hrecord
    exact freeOf_of_validateResourceSeed hvalid s hs
  · obtain ⟨fixture, hfixture, hs⟩ := List.mem_flatMap.mp hs
    obtain ⟨index, hindex⟩ := List.getElem?_of_mem (List.mem_map_of_mem hfixture)
    exact freeOf_of_scanFixture (hfixtures _ (List.mk_mem_zipIdx_iff_getElem?.mpr hindex)) s hs
  · obtain ⟨script, hscript, hs⟩ := List.mem_flatMap.mp hs
    rw [Option.mem_toList] at hscript
    rw [hscript, validateFaultScript, check_bind_eq_ok, forM_eq_ok] at hfaults
    obtain ⟨entry, hentry, hs⟩ := List.mem_flatMap.mp hs
    obtain ⟨htool, harguments⟩ := freeOf_of_validateFaultEntry (hfaults.2 entry hentry)
    rcases List.mem_cons.mp hs with rfl | hs
    · exact htool
    · exact harguments s hs

/-- **When a compiled bundle is private**: exactly when no private source value occurs in a string
that the compiler does not scan for private values. -/
theorem compiled_private_iff {args : CompileArguments} {bundle : SimulationBundle}
    (h : compileBundle args = .ok bundle) :
    RevealsNothing args.scenario bundle.strings ↔
      ∀ hmessage, RevealsNothing args.scenario (args.unscannedStrings hmessage) := by
  have hscanned := revealsNothing_scannedStrings h
  obtain ⟨-, -, -, -, -, hmessage, -, rfl⟩ := compileBundle_eq_ok h
  constructor
  · intro hprivate hmessage s hs
    exact hprivate s (mem_strings_compiled.mpr (Or.inr hs))
  · intro hunscanned s hs
    rcases mem_strings_compiled.mp hs with hs | hs
    · exact hscanned s hs
    · exact hunscanned hmessage s hs

end Privacy

/-! ## A concrete leak -/

section Small

attribute [local instance] asciiTables oneDecimalRepr constantHashes

theorem compileBundle_note (note : Option String) (hnote : ∀ n ∈ note, isSafeText n = true) :
    compileBundle (smallArguments "phase2-01-refund" note) =
      .ok (draftBundle (smallArguments "phase2-01-refund" note)
        smallArguments_message).withIdentity :=
  compileBundle_smallArguments "phase2-01-refund" note (by decide +kernel)
    (isSafeText_of_chars (by decide)) hnote (isSafeText_of_chars (by decide))

/-- `compiled_private_iff` on a bundle without a note. -/
theorem compiled_private_small :
    ∃ bundle, compileBundle (smallArguments "phase2-01-refund" none) = .ok bundle ∧
      (RevealsNothing (smallScenario "phase2-01-refund" none) bundle.strings ↔
        ∀ hmessage, RevealsNothing (smallScenario "phase2-01-refund" none)
          ((smallArguments "phase2-01-refund" none).unscannedStrings hmessage)) :=
  ⟨_, compileBundle_note none (by simp), compiled_private_iff (compileBundle_note none (by simp))⟩

/-- A note of the expected behavior with the source customer's identifier stays in the bundle. -/
theorem compileBundle_reveals_note :
    ∃ bundle, compileBundle (smallArguments "phase2-01-refund" (some (Uuid.repeated 1).str)) =
        .ok bundle ∧
      ¬ RevealsNothing (smallScenario "phase2-01-refund" (some (Uuid.repeated 1).str))
        bundle.strings := by
  refine ⟨_, compileBundle_note _ ?_, fun hprivate => ?_⟩
  · rintro n ⟨rfl⟩
    exact isSafeText_str _
  · refine hprivate (Uuid.repeated 1).str ?_ (Uuid.repeated 1).str ?_ (List.infix_refl _)
    · rw [mem_strings_compiled]
      refine Or.inr ?_
      rw [CompileArguments.unscannedStrings, CompileArguments.metadataStrings]
      simp [smallArguments, smallScenario, CompileArguments.expected, safeExpectedBehavior,
        ExpectedBehavior.dump, PyValue.texts, PyValue.textsEntries]
    · rw [privateSourceValues_smallScenario]
      simp

end Small

end ObservabilityLab
