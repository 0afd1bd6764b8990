import ObservabilityLab.Library.Histories
import ObservabilityLab.UserSimulator.Manifests

/-!
# The simulation catalog

A catalog is loaded from files of any content. It exposes the entries without a problem, and reports
a problem of every other file and entry, as long as no file keeps the loader from returning.

## Main definitions

* `FileContent.document`, `ManifestFile.catalog`: what a file holds
* `Submission`, `submissions`: the entries of the manifests whose catalog id is new
* `ReadProblem`, `EnvironmentProblem`, `ManifestProblem`, `EntryProblem`: what can be wrong
* `CatalogSound`: what a loaded catalog exposes and reports
* `Tractable`: the contents that do not keep the loader from returning

## Main results

* `readYamlDocument_of_document`, `mem_loadEnvironmentProfiles_iff`: what the files report
* `addScenario_tracked`, `addManifest_tracked`: what one entry and one manifest do to the catalog
* `loads_iff`: a sound catalog is loaded exactly when every file is tractable
-/

namespace ObservabilityLab.UserSimulator

open Python Histories

section Catalog

variable [YamlLoader] [LaxCoercions] [ValidationTexts] [SpaceTable] [UnicodeTables]

/-! ## What a file holds -/

/-- What the parser makes of a file, if its bytes are a text. -/
def FileContent.outcome : FileContent → Option YamlOutcome
  | .unreadable _ => none
  | .bytes content => (decodeUtf8 content).map fun text =>
    YamlLoader.safeLoad (String.ofList (universalNewlines text.toList))

/-- The mapping of a file. -/
def FileContent.document (content : FileContent) : Option YamlMapping :=
  match content.outcome with
  | some (.document value) => value.asMapping
  | _ => none

/-- The validated catalog of a manifest. -/
def ManifestFile.catalog (file : ManifestFile) : Option CatalogFile :=
  file.content.document.bind fun payload => (CatalogFile.modelValidate payload).toOption

/-- The content does not keep the loader from returning: bytes are UTF-8, the parser raises no other
exception than a `YAMLError`, and a mapping can be scanned. -/
def Tractable (limit : ℕ) (content : FileContent) : Prop :=
  ∀ bytes, content = .bytes bytes → ∃ outcome, content.outcome = some outcome ∧
    (∀ className text, outcome ≠ .raised className text) ∧
    ∀ payload, outcome = .document (.mapping payload) → Scannable limit payload

/-! ## Problems -/

/-- A file is no mapping in YAML. -/
inductive ReadProblem (name : String) (content : FileContent) : CatalogIssue → Prop
  | unreadable {text : String} (h : content = .unreadable text) :
      ReadProblem name content ⟨name, "yaml", "cannot read: " ++ safeError text⟩
  | unparsed {text : String} (h : content.outcome = some (.yamlError text)) :
      ReadProblem name content ⟨name, "yaml", "cannot parse: " ++ safeError text⟩
  | noMapping {value : YamlValue} (h : content.outcome = some (.document value))
      (hvalue : value.asMapping = none) :
      ReadProblem name content ⟨name, "root", "must be a YAML mapping"⟩

/-- A key or a value of a mapping in the file is secret-looking. -/
def SecretProblem (name : String) (content : FileContent) (issue : CatalogIssue) : Prop :=
  ∃ payload, content.document = some payload ∧
    ∃ depth mapping, Reached depth payload mapping ∧ OwnIssue name issue mapping

/-- The profile ids of the valid entries. -/
def definedProfiles (entries : List (YamlRecord × ℕ)) : List String :=
  entries.filterMap fun entry =>
    (EnvironmentProfile.modelValidate entry.1).toOption.map (·.profileId)

/-- The problem of an entry of the environments file, after the entries before it. -/
inductive ProfileProblem (before : List (YamlRecord × ℕ)) (entry : YamlRecord × ℕ) :
    CatalogIssue → Prop
  | invalid {error : PyError} (h : EnvironmentProfile.modelValidate entry.1 = .error error) :
      ProfileProblem before entry
        ⟨environmentsFileName, indexedField "environments" entry.2, safeError error.str⟩
  | duplicate {profile : EnvironmentProfile}
      (h : EnvironmentProfile.modelValidate entry.1 = .ok profile)
      (hdefined : profile.profileId ∈ definedProfiles before) :
      ProfileProblem before entry ⟨environmentsFileName, "profile_id",
        "duplicate environment profile " ++ reprText profile.profileId⟩

/-- A problem of the environments file. -/
inductive EnvironmentProblem (content : FileContent) : CatalogIssue → Prop
  | read {issue : CatalogIssue} (h : ReadProblem environmentsFileName content issue) :
      EnvironmentProblem content issue
  | secret {issue : CatalogIssue} (h : SecretProblem environmentsFileName content issue) :
      EnvironmentProblem content issue
  | invalid {payload : YamlMapping} {error : PyError} (h : content.document = some payload)
      (herror : EnvironmentsFile.modelValidate payload = .error error) :
      EnvironmentProblem content ⟨environmentsFileName, "root", safeError error.str⟩
  | profile {payload : YamlMapping} {file : EnvironmentsFile} {before : List (YamlRecord × ℕ)}
      {entry : YamlRecord × ℕ} {issue : CatalogIssue} (h : content.document = some payload)
      (hfile : EnvironmentsFile.modelValidate payload = .ok file)
      (hentry : (before, entry) ∈ histories file.environments.zipIdx)
      (hissue : ProfileProblem before entry issue) : EnvironmentProblem content issue

/-- The catalog ids of the valid manifests. -/
def definedCatalogs (files : List ManifestFile) : List String :=
  files.filterMap fun file => file.catalog.map (·.catalogId)

/-- A problem of a manifest as a whole, after the manifests before it. -/
inductive ManifestProblem (earlier : List ManifestFile) (file : ManifestFile) :
    CatalogIssue → Prop
  | read {issue : CatalogIssue} (h : ReadProblem file.name file.content issue) :
      ManifestProblem earlier file issue
  | secret {issue : CatalogIssue} (h : SecretProblem file.name file.content issue) :
      ManifestProblem earlier file issue
  | invalid {payload : YamlMapping} {error : PyError} (h : file.content.document = some payload)
      (herror : CatalogFile.modelValidate payload = .error error) :
      ManifestProblem earlier file ⟨file.name, "root", safeError error.str⟩
  | duplicate {catalog : CatalogFile} (h : file.catalog = some catalog)
      (hdefined : catalog.catalogId ∈ definedCatalogs earlier) :
      ManifestProblem earlier file ⟨file.name, "catalog_id",
        "duplicate catalog id " ++ reprText catalog.catalogId⟩

/-- One entry of a manifest. -/
structure Submission where
  filename : String
  group : String
  entry : YamlRecord × ℕ

/-- The entry as a scenario of its group. -/
def Submission.scenario (submission : Submission) : Raises Scenario :=
  Scenario.modelValidate (assignKey submission.entry.1 "group" (.text submission.group))

/-- The entries of a manifest whose catalog id is new. -/
def fileSubmissions (earlier : List ManifestFile) (file : ManifestFile) : List Submission :=
  match file.catalog with
  | none => []
  | some catalog =>
    if catalog.catalogId ∈ definedCatalogs earlier then []
    else catalog.scenarios.zipIdx.map fun entry => ⟨file.name, catalog.group, entry⟩

/-- The entries of all manifests, in order. -/
def submissions (files : List ManifestFile) : List Submission :=
  (histories files).flatMap fun place => fileSubmissions place.1 place.2

/-- The scenario ids of the valid entries. -/
def definedScenarios (entries : List Submission) : List String :=
  entries.filterMap fun submission => submission.scenario.toOption.map (·.scenarioId)

/-- The problem that keeps an entry from being exposed, after the entries before it: the first one
in the order of the checks. -/
inductive EntryProblem (plugins profiles : List String) (checked : Prop)
    (before : List Submission) (submission : Submission) : CatalogIssue → Prop
  | invalid {error : PyError} (h : submission.scenario = .error error) :
      EntryProblem plugins profiles checked before submission
        ⟨submission.filename, indexedField "scenarios" submission.entry.2, safeError error.str⟩
  | duplicate {scenario : Scenario} (h : submission.scenario = .ok scenario)
      (hdefined : scenario.scenarioId ∈ definedScenarios before) :
      EntryProblem plugins profiles checked before submission
        ⟨submission.filename, "scenario_id",
          "duplicate scenario id " ++ reprText scenario.scenarioId⟩
  | plugin {scenario : Scenario} (h : submission.scenario = .ok scenario)
      (hnew : scenario.scenarioId ∉ definedScenarios before)
      (hplugin : scenario.pluginId ∉ plugins) :
      EntryProblem plugins profiles checked before submission
        ⟨submission.filename, "plugin_id",
          "unknown plugin id " ++ reprText scenario.pluginId ++ " (not in known_plugin_ids)"⟩
  | profile {scenario : Scenario} (h : submission.scenario = .ok scenario)
      (hnew : scenario.scenarioId ∉ definedScenarios before) (hplugin : scenario.pluginId ∈ plugins)
      (hchecked : checked) (hprofile : scenario.environmentProfile ∉ profiles) :
      EntryProblem plugins profiles checked before submission
        ⟨submission.filename, "environment_profile",
          "unknown environment profile " ++ reprText scenario.environmentProfile⟩

/-! ## Catalogs -/

/-- The profiles are checked: their ids are given, or the environments file has no problem. -/
def CatalogInputs.ProfilesLoaded (inputs : CatalogInputs) : Prop :=
  inputs.knownEnvironmentIds.isSome = true ∨ ∀ issue, ¬ EnvironmentProblem inputs.environments issue

/-- What a loaded catalog exposes and reports. -/
structure CatalogSound (inputs : CatalogInputs) (catalog : SimulationCatalog) : Prop where
  sorted : (catalog.scenarios.map (·.scenarioId)).Pairwise (· ≤ ·)
  unique : (catalog.scenarios.map (·.scenarioId)).Nodup
  source : ∀ scenario ∈ catalog.scenarios,
    ∃ submission ∈ submissions inputs.manifests, submission.scenario = .ok scenario
  plugin : ∀ scenario ∈ catalog.scenarios,
    scenario.pluginId ∈ inputs.knownPluginIds.getD defaultPluginIds
  profile : inputs.ProfilesLoaded → ∀ scenario ∈ catalog.scenarios, scenario.environmentProfile ∈
    inputs.knownEnvironmentIds.getD (catalog.profiles.map (·.profileId))
  environment : ∀ issue, EnvironmentProblem inputs.environments issue → issue ∈ catalog.issues
  manifest : ∀ earlier file, (earlier, file) ∈ histories inputs.manifests →
    ∀ issue, ManifestProblem earlier file issue → issue ∈ catalog.issues
  reported : ∀ before submission, (before, submission) ∈ histories (submissions inputs.manifests) →
    ∀ issue, EntryProblem (inputs.knownPluginIds.getD defaultPluginIds)
      (inputs.knownEnvironmentIds.getD (catalog.profiles.map (·.profileId))) inputs.ProfilesLoaded
      before submission issue → issue ∈ catalog.issues
  exposed : ∀ before submission, (before, submission) ∈ histories (submissions inputs.manifests) →
    (∀ issue, ¬ EntryProblem (inputs.knownPluginIds.getD defaultPluginIds)
      (inputs.knownEnvironmentIds.getD (catalog.profiles.map (·.profileId))) inputs.ProfilesLoaded
      before submission issue) →
    ∃ scenario ∈ catalog.scenarios, submission.scenario = .ok scenario

/-! ## Reading a file -/

section Reading

omit [LaxCoercions] [ValidationTexts] [SpaceTable] [UnicodeTables]

variable {name : String} {content : FileContent} {payload : YamlMapping} {issue : CatalogIssue}

/-- What is read of bytes, by what the parser makes of them. -/
theorem readYamlDocument_bytes (bytes : List UInt8) :
    readYamlDocument name (.bytes bytes) = match (FileContent.bytes bytes).outcome with
      | none => .error (.other "UnicodeDecodeError" "'utf-8' codec can't decode the file")
      | some (.raised className text) => .error (.other className text)
      | some (.yamlError text) => .ok ([], [⟨name, "yaml", "cannot parse: " ++ safeError text⟩])
      | some (.document value) => match value.asMapping with
        | some payload => .ok (payload, [])
        | none => .ok ([], [⟨name, "root", "must be a YAML mapping"⟩]) := by
  rw [readYamlDocument, FileContent.outcome]
  cases decodeUtf8 bytes with
  | none => rfl
  | some text =>
    dsimp only [Option.map_some]
    cases YamlLoader.safeLoad (String.ofList (universalNewlines text.toList)) with
    | document value => cases value <;> rfl
    | _ => rfl

theorem document_eq_some_iff : content.document = some payload ↔
    content.outcome = some (.document (.mapping payload)) := by
  rw [FileContent.document]
  constructor
  · intro h
    split at h
    · rename_i value houtcome
      obtain rfl := YamlValue.asMapping_eq_some.mp h
      exact houtcome
    · cases h
  · intro h
    rw [h]
    rfl

/-- A file with a mapping is read without an issue. -/
theorem readYamlDocument_of_document (h : content.document = some payload) :
    readYamlDocument name content = .ok (payload, []) := by
  have houtcome := document_eq_some_iff.mp h
  cases content with
  | unreadable text => cases houtcome
  | bytes bytes =>
    rw [readYamlDocument_bytes, houtcome]
    rfl

/-- A file that is no mapping in YAML is read with its issue. -/
theorem readYamlDocument_of_problem (h : ReadProblem name content issue) :
    readYamlDocument name content = .ok ([], [issue]) := by
  cases content with
  | unreadable text =>
    cases h with
    | unreadable h =>
      cases h
      rfl
    | unparsed h => cases h
    | noMapping h => cases h
  | bytes bytes =>
    rw [readYamlDocument_bytes]
    cases h with
    | unreadable h => cases h
    | unparsed h => rw [h]
    | noMapping h hvalue =>
      rw [h]
      dsimp only
      rw [hvalue]

/-- A file has a mapping, has a problem, or keeps the loader from returning. -/
theorem read_cases (name : String) (content : FileContent) :
    (∃ payload, content.document = some payload) ∨ (∃ issue, ReadProblem name content issue) ∨
      ((∃ e, readYamlDocument name content = .error e) ∧ ∀ limit, ¬ Tractable limit content) := by
  cases content with
  | unreadable text => exact Or.inr (Or.inl ⟨_, .unreadable rfl⟩)
  | bytes bytes =>
    cases houtcome : (FileContent.bytes bytes).outcome with
    | none =>
      refine Or.inr (Or.inr ⟨⟨_, by rw [readYamlDocument_bytes, houtcome]⟩, fun limit h => ?_⟩)
      obtain ⟨outcome, hsome, -⟩ := h bytes rfl
      rw [houtcome] at hsome
      cases hsome
    | some outcome =>
      cases outcome with
      | raised className text =>
        refine Or.inr (Or.inr ⟨⟨_, by rw [readYamlDocument_bytes, houtcome]⟩, fun limit h => ?_⟩)
        obtain ⟨outcome, hsome, hraised, -⟩ := h bytes rfl
        exact hraised className text (Option.some.inj (hsome.symm.trans houtcome))
      | yamlError text => exact Or.inr (Or.inl ⟨_, .unparsed houtcome⟩)
      | document value =>
        cases hvalue : value.asMapping with
        | none => exact Or.inr (Or.inl ⟨_, .noMapping houtcome hvalue⟩)
        | some payload =>
          obtain rfl := YamlValue.asMapping_eq_some.mp hvalue
          exact Or.inl ⟨payload, document_eq_some_iff.mpr houtcome⟩

theorem not_readProblem_of_document (h : content.document = some payload) :
    ¬ ReadProblem name content issue := by
  intro hproblem
  have hboth := (readYamlDocument_of_document h).symm.trans (readYamlDocument_of_problem hproblem)
  obtain ⟨-, hnil⟩ := Prod.mk.inj (Except.ok.inj hboth)
  cases hnil

/-- A file with a problem has one problem. -/
theorem ReadProblem.eq {other : CatalogIssue} (h : ReadProblem name content issue)
    (hother : ReadProblem name content other) : other = issue := by
  have hboth := (readYamlDocument_of_problem hother).symm.trans (readYamlDocument_of_problem h)
  obtain ⟨-, hsingleton⟩ := Prod.mk.inj (Except.ok.inj hboth)
  exact List.singleton_inj.mp hsingleton

theorem tractable_of_document (h : content.document = some payload) {limit : ℕ} :
    Tractable limit content ↔ Scannable limit payload := by
  have houtcome := document_eq_some_iff.mp h
  constructor
  · intro htractable
    cases content with
    | unreadable text => cases houtcome
    | bytes bytes =>
      obtain ⟨outcome, hsome, -, hscan⟩ := htractable bytes rfl
      exact hscan payload (Option.some.inj (hsome.symm.trans houtcome))
  · intro hscan bytes _
    refine ⟨_, houtcome, ?_, ?_⟩
    · intro className text h
      cases h
    · intro other hother
      cases hother
      exact hscan

theorem tractable_of_problem (h : ReadProblem name content issue) (limit : ℕ) :
    Tractable limit content := by
  intro bytes hbytes
  cases h with
  | unreadable h =>
    rw [h] at hbytes
    cases hbytes
  | unparsed h =>
    refine ⟨_, h, ?_, ?_⟩
    · intro className text hraised
      cases hraised
    · intro payload hload
      cases hload
  | noMapping h hvalue =>
    refine ⟨_, h, ?_, ?_⟩
    · intro className text hraised
      cases hraised
    · intro payload hload
      cases hload
      cases hvalue

end Reading

omit [LaxCoercions] [ValidationTexts] in
/-- The secret scan of a file reports its secret problems. -/
theorem mem_secretIssues_iff_problem {name : String} {content : FileContent}
    {payload : YamlMapping} {limit : ℕ} {found : List CatalogIssue}
    (h : content.document = some payload) (hscan : secretIssues name limit payload = .ok found)
    {issue : CatalogIssue} : issue ∈ found ↔ SecretProblem name content issue := by
  rw [mem_secretIssues_iff hscan, SecretProblem]
  constructor
  · exact fun hreached => ⟨payload, h, hreached⟩
  · rintro ⟨other, hother, hreached⟩
    obtain rfl := Option.some.inj (h.symm.trans hother)
    exact hreached

/-! ## The environments file -/

/-- What some profile entries leave: the ids of the valid ones, and an issue for each problem. -/
structure ProfilesTracked (found : List CatalogIssue) (entries : List (YamlRecord × ℕ))
    (state : List EnvironmentProfile × List CatalogIssue) : Prop where
  defined : ∀ id, id ∈ state.1.map (·.profileId) ↔ id ∈ definedProfiles entries
  reported : ∀ issue, issue ∈ state.2 ↔ issue ∈ found ∨
    ∃ before entry, (before, entry) ∈ histories entries ∧ ProfileProblem before entry issue

omit [YamlLoader] [ValidationTexts] [SpaceTable] [UnicodeTables] in
theorem mem_definedProfiles_concat {entries : List (YamlRecord × ℕ)} {entry : YamlRecord × ℕ}
    {id : String} : id ∈ definedProfiles (entries ++ [entry]) ↔ id ∈ definedProfiles entries ∨
      ∃ profile, EnvironmentProfile.modelValidate entry.1 = .ok profile ∧
        profile.profileId = id := by
  rw [definedProfiles, List.filterMap_append, List.mem_append]
  refine or_congr Iff.rfl ?_
  cases h : EnvironmentProfile.modelValidate entry.1 <;> simp [h, Except.toOption, eq_comm]

section ProfileEntries

omit [YamlLoader] [SpaceTable]

/-- **What one profile entry does**: it has one issue, or its profile is new. -/
theorem addProfile_step {entries : List (YamlRecord × ℕ)}
    {state : List EnvironmentProfile × List CatalogIssue}
    (hdefined : ∀ id, id ∈ state.1.map (·.profileId) ↔ id ∈ definedProfiles entries)
    (entry : YamlRecord × ℕ) :
    (∃ issue, (∀ other, ProfileProblem entries entry other ↔ other = issue) ∧
      addProfile state entry = (state.1, state.2 ++ [issue]) ∧
      ∀ id, id ∈ definedProfiles (entries ++ [entry]) ↔ id ∈ definedProfiles entries) ∨
    ∃ profile, (∀ other, ¬ ProfileProblem entries entry other) ∧
      addProfile state entry = (state.1 ++ [profile], state.2) ∧
      ∀ id, id ∈ definedProfiles (entries ++ [entry]) ↔
        id ∈ definedProfiles entries ∨ profile.profileId = id := by
  simp only [mem_definedProfiles_concat]
  rw [addProfile]
  cases hvalidate : EnvironmentProfile.modelValidate entry.1 with
  | error error =>
    refine Or.inl ⟨_, fun other => ⟨?_, ?_⟩, rfl, by simp⟩
    · rintro (h | h)
      · cases hvalidate.symm.trans h
        rfl
      · cases hvalidate.symm.trans h
    · rintro rfl
      exact .invalid hvalidate
  | ok profile =>
    dsimp only
    -- a profile identifier that was defined before is reported
    by_cases hmem : profile.profileId ∈ definedProfiles entries
    · rw [if_pos ((hdefined _).mpr hmem)]
      refine Or.inl ⟨_, fun other => ⟨?_, ?_⟩, rfl, ?_⟩
      · rintro (h | h)
        · cases hvalidate.symm.trans h
        · cases hvalidate.symm.trans h
          rfl
      · rintro rfl
        exact .duplicate hvalidate hmem
      · intro id
        constructor
        · rintro (h | ⟨_, ⟨⟩, rfl⟩)
          · exact h
          · exact hmem
        · exact Or.inl
    · rw [if_neg (mt (hdefined _).mp hmem)]
      refine Or.inr ⟨profile, ?_, rfl, ?_⟩
      · rintro other (h | ⟨h, hdup⟩)
        · cases hvalidate.symm.trans h
        · cases hvalidate.symm.trans h
          exact hmem hdup
      · intro id
        simp

theorem addProfile_tracked {found : List CatalogIssue} {entries : List (YamlRecord × ℕ)}
    {state : List EnvironmentProfile × List CatalogIssue} (h : ProfilesTracked found entries state)
    (entry : YamlRecord × ℕ) :
    ProfilesTracked found (entries ++ [entry]) (addProfile state entry) := by
  rcases addProfile_step h.defined entry with
    ⟨issue, hproblem, hstep, hids⟩ | ⟨profile, hproblem, hstep, hids⟩
  · rw [hstep]
    refine ⟨fun id => (h.defined id).trans (hids id).symm, fun other => ?_⟩
    rw [exists_history_concat, hproblem, List.mem_append, h.reported, List.mem_singleton, or_assoc]
  · rw [hstep]
    refine ⟨fun id => ?_, fun other => ?_⟩
    · rw [List.map_append, List.mem_append, h.defined, hids, List.map_singleton,
        List.mem_singleton, eq_comm]
    · rw [exists_history_concat, or_iff_left (hproblem other)]
      exact h.reported other

theorem addProfiles_tracked (found : List CatalogIssue) (entries : List (YamlRecord × ℕ)) :
    ProfilesTracked found entries (entries.foldl addProfile ([], found)) := by
  apply foldl_history
  · refine ⟨fun id => (by simp [definedProfiles]), fun issue => ?_⟩
    simp
  · exact fun entries entry state h => addProfile_tracked h entry

end ProfileEntries

theorem loadEnvironmentProfiles_of_problem {limit : ℕ} {content : FileContent}
    {issue : CatalogIssue} (h : ReadProblem environmentsFileName content issue) :
    loadEnvironmentProfiles limit content = .ok ([], [issue]) := by
  rw [loadEnvironmentProfiles, readYamlDocument_of_problem h]
  rfl

/-- What the environments file with a mapping is loaded to. -/
theorem loadEnvironmentProfiles_of_document {limit : ℕ} {content : FileContent}
    {payload : YamlMapping} (h : content.document = some payload) :
    loadEnvironmentProfiles limit content =
      (secretIssues environmentsFileName limit payload).map fun found =>
        match EnvironmentsFile.modelValidate payload with
        | .error error => ([], found ++ [⟨environmentsFileName, "root", safeError error.str⟩])
        | .ok file => file.environments.zipIdx.foldl addProfile ([], found) := by
  rw [loadEnvironmentProfiles, readYamlDocument_of_document h]
  change (secretIssues environmentsFileName limit payload >>= _) = _
  cases secretIssues environmentsFileName limit payload with
  | error e => rfl
  | ok found =>
    dsimp only [bind, Except.bind, Except.map]
    cases EnvironmentsFile.modelValidate payload <;> rfl

/-- The environments file is loaded when it is tractable. -/
theorem loadEnvironmentProfiles_isOk_iff {limit : ℕ} {content : FileContent} :
    (∃ result, loadEnvironmentProfiles limit content = .ok result) ↔ Tractable limit content := by
  rcases read_cases environmentsFileName content with
    ⟨payload, h⟩ | ⟨issue, h⟩ | ⟨⟨e, h⟩, htractable⟩
  · have hreturns : (∃ found, secretIssues environmentsFileName limit payload = .ok found) ↔
        Scannable limit payload := secretIssues_isOk_iff
    rw [loadEnvironmentProfiles_of_document h, tractable_of_document h, ← hreturns]
    cases secretIssues environmentsFileName limit payload <;> simp [Except.map]
  · rw [loadEnvironmentProfiles_of_problem h]
    exact iff_of_true ⟨_, rfl⟩ (tractable_of_problem h limit)
  · refine iff_of_false ?_ (htractable limit)
    rw [loadEnvironmentProfiles, h]
    rintro ⟨result, hresult⟩
    cases hresult

/-- **What the environments file reports** are its problems. -/
theorem mem_loadEnvironmentProfiles_iff {limit : ℕ} {content : FileContent}
    {profiles : List EnvironmentProfile} {issues : List CatalogIssue}
    (h : loadEnvironmentProfiles limit content = .ok (profiles, issues)) {issue : CatalogIssue} :
    issue ∈ issues ↔ EnvironmentProblem content issue := by
  -- the file is a document, or it has one problem, or the loader raises
  rcases read_cases environmentsFileName content with
    ⟨payload, hdocument⟩ | ⟨problem, hproblem⟩ | ⟨⟨e, herror⟩, -⟩
  · rw [loadEnvironmentProfiles_of_document hdocument] at h
    cases hscan : secretIssues environmentsFileName limit payload with
    | error e =>
      rw [hscan] at h
      cases h
    | ok found =>
      have hsecret : issue ∈ found ↔ SecretProblem environmentsFileName content issue :=
        mem_secretIssues_iff_problem hdocument hscan
      rw [hscan] at h
      have hloaded := Except.ok.inj h
      cases hvalidate : EnvironmentsFile.modelValidate payload with
      | error error =>
        rw [hvalidate] at hloaded
        obtain ⟨rfl, rfl⟩ := Prod.mk.inj hloaded
        rw [List.mem_append, hsecret, List.mem_singleton]
        constructor
        · rintro (h | rfl)
          · exact .secret h
          · exact .invalid hdocument hvalidate
        · rintro (h | h | ⟨hother, h⟩ | ⟨hother, h, -, -⟩)
          · exact absurd h (not_readProblem_of_document hdocument)
          · exact Or.inl h
          · cases hdocument.symm.trans hother
            cases hvalidate.symm.trans h
            exact Or.inr rfl
          · cases hdocument.symm.trans hother
            cases hvalidate.symm.trans h
      | ok file =>
        rw [hvalidate] at hloaded
        have htracked := addProfiles_tracked found file.environments.zipIdx
        dsimp only at hloaded
        rw [hloaded] at htracked
        rw [htracked.reported, hsecret]
        constructor
        · rintro (h | ⟨before, entry, hplace, h⟩)
          · exact .secret h
          · exact .profile hdocument hvalidate hplace h
        · rintro (h | h | ⟨hother, h⟩ | ⟨hother, h, hplace, hissue⟩)
          · exact absurd h (not_readProblem_of_document hdocument)
          · exact Or.inl h
          · cases hdocument.symm.trans hother
            cases hvalidate.symm.trans h
          · cases hdocument.symm.trans hother
            cases hvalidate.symm.trans h
            exact Or.inr ⟨_, _, hplace, hissue⟩
  · rw [loadEnvironmentProfiles_of_problem hproblem] at h
    obtain ⟨rfl, rfl⟩ := Prod.mk.inj (Except.ok.inj h)
    have hnone : ∀ payload, content.document ≠ some payload :=
      fun payload hdocument => not_readProblem_of_document hdocument hproblem
    rw [List.mem_singleton]
    constructor
    · rintro rfl
      exact .read hproblem
    · rintro (h | ⟨_, h, -⟩ | ⟨h, -⟩ | ⟨h, -, -, -⟩)
      · exact hproblem.eq h
      · exact absurd h (hnone _)
      · exact absurd h (hnone _)
      · exact absurd h (hnone _)
  · rw [loadEnvironmentProfiles, herror] at h
    cases h

/-! ## One entry of a manifest -/

section Entries

omit [YamlLoader] [SpaceTable]

variable {known : KnownIds}

/-- The problem of an entry under some allowlists. -/
def KnownIds.Problem (known : KnownIds) (before : List Submission) (submission : Submission)
    (issue : CatalogIssue) : Prop :=
  EntryProblem known.plugins known.environments (known.checkProfiles = true) before submission issue

omit [ValidationTexts] [UnicodeTables] in
theorem mem_definedScenarios_concat {entries : List Submission} {submission : Submission}
    {id : String} : id ∈ definedScenarios (entries ++ [submission]) ↔
      id ∈ definedScenarios entries ∨ ∃ scenario,
        submission.scenario = .ok scenario ∧ scenario.scenarioId = id := by
  rw [definedScenarios, List.filterMap_append, List.mem_append]
  refine or_congr Iff.rfl ?_
  cases h : submission.scenario <;> simp [h, Except.toOption, eq_comm]

/-- The entry has one problem, which is reported, and the scenarios stay. -/
structure Reports (known : KnownIds) (entries : List Submission) (submission : Submission)
    (state state' : CatalogState) (issue : CatalogIssue) : Prop where
  problem : known.Problem entries submission issue
  scenarios : state'.scenarios = state.scenarios
  issues : state'.issues = state.issues ++ [issue]

/-- The entry has no problem, and its scenario is exposed. -/
structure Exposes (known : KnownIds) (entries : List Submission) (submission : Submission)
    (state state' : CatalogState) (scenario : Scenario) : Prop where
  valid : submission.scenario = .ok scenario
  new : scenario.scenarioId ∉ definedScenarios entries
  plugin : scenario.pluginId ∈ known.plugins
  profile : known.checkProfiles = true → scenario.environmentProfile ∈ known.environments
  scenarios : state'.scenarios = state.scenarios ++ [scenario]
  issues : state'.issues = state.issues

/-- An entry has one problem: the checks are made one after the other. -/
theorem KnownIds.Problem.eq {entries : List Submission} {submission : Submission}
    {issue other : CatalogIssue} (h : known.Problem entries submission issue)
    (hother : known.Problem entries submission other) : other = issue := by
  cases h <;> cases hother <;> simp_all

/-- An exposed entry has no problem. -/
theorem Exposes.not_problem {entries : List Submission} {submission : Submission}
    {state state' : CatalogState} {scenario : Scenario}
    (h : Exposes known entries submission state state' scenario) (issue : CatalogIssue) :
    ¬ known.Problem entries submission issue := by
  rintro (herror | ⟨hvalid, hdefined⟩ | ⟨hvalid, -, hplugin⟩ | ⟨hvalid, -, -, hchecked, hprofile⟩)
  · cases h.valid.symm.trans herror
  · cases h.valid.symm.trans hvalid
    exact h.new hdefined
  · cases h.valid.symm.trans hvalid
    exact hplugin h.plugin
  · cases h.valid.symm.trans hvalid
    exact hprofile (h.profile hchecked)

/-- **What one entry does.** -/
theorem addScenario_step {entries : List Submission} {state : CatalogState}
    (hdefined : ∀ id, id ∈ state.seenScenarioIds ↔ id ∈ definedScenarios entries)
    (submission : Submission) {state' : CatalogState}
    (hstate : addScenario known submission.filename submission.group state submission.entry =
      state') :
    ((∃ issue, Reports known entries submission state state' issue) ∨
      ∃ scenario, Exposes known entries submission state state' scenario) ∧
    state'.seenCatalogIds = state.seenCatalogIds ∧
    ∀ id, id ∈ state'.seenScenarioIds ↔ id ∈ definedScenarios (entries ++ [submission]) := by
  unfold addScenario at hstate
  have hscenario : Scenario.modelValidate
    (assignKey submission.entry.1 "group" (.text submission.group)) = submission.scenario := rfl
  rw [hscenario] at hstate
  simp only [mem_definedScenarios_concat]
  cases hvalidate : submission.scenario with
  | error error =>
    rw [hvalidate] at hstate
    subst hstate
    refine ⟨Or.inl ⟨_, .invalid hvalidate, rfl, rfl⟩, rfl, fun id => ?_⟩
    simpa using hdefined id
  | ok scenario =>
    rw [hvalidate] at hstate
    dsimp only at hstate
    have hids (id : String) : (∃ other, (.ok scenario : Raises Scenario) = .ok other ∧
        other.scenarioId = id) ↔ id = scenario.scenarioId := by
      simp [eq_comm]
    simp only [hids]
    -- the checks of the source in their order: the id, the plugin, the profile
    by_cases hseen : scenario.scenarioId ∈ state.seenScenarioIds
    · rw [if_pos hseen] at hstate
      subst hstate
      have hmem := (hdefined _).mp hseen
      refine ⟨Or.inl ⟨_, .duplicate hvalidate hmem, rfl, rfl⟩, rfl, fun id => ?_⟩
      -- a duplicate defines no further id
      rw [CatalogState.report_seenScenarioIds, hdefined, or_iff_left_of_imp]
      rintro rfl
      exact hmem
    · have hnew := mt (hdefined _).mpr hseen
      have hadded (id : String) : id ∈ state.seenScenarioIds ++ [scenario.scenarioId] ↔
          id ∈ definedScenarios entries ∨ id = scenario.scenarioId := by
        rw [List.mem_append, hdefined, List.mem_singleton]
      rw [if_neg hseen] at hstate
      by_cases hplugin : scenario.pluginId ∈ known.plugins
      · rw [if_neg (not_not.mpr hplugin)] at hstate
        by_cases hprofile :
            known.checkProfiles = true ∧ scenario.environmentProfile ∉ known.environments
        · rw [if_pos hprofile] at hstate
          subst hstate
          exact ⟨Or.inl ⟨_, .profile hvalidate hnew hplugin hprofile.1 hprofile.2, rfl, rfl⟩, rfl,
            hadded⟩
        · rw [if_neg hprofile] at hstate
          subst hstate
          refine ⟨Or.inr ⟨scenario, ?_⟩, rfl, hadded⟩
          exact
            { valid := hvalidate
              new := hnew
              plugin := hplugin
              profile := fun hchecked => not_not.mp fun h => hprofile ⟨hchecked, h⟩
              scenarios := rfl
              issues := rfl }
      · rw [if_pos hplugin] at hstate
        subst hstate
        exact ⟨Or.inl ⟨_, .plugin hvalidate hnew hplugin, rfl, rfl⟩, rfl, hadded⟩

/-- What the entries so far leave in the catalog. -/
structure Tracked (known : KnownIds) (entries : List Submission) (state : CatalogState) : Prop where
  defined : ∀ id, id ∈ state.seenScenarioIds ↔ id ∈ definedScenarios entries
  unique : (state.scenarios.map (·.scenarioId)).Nodup
  source : ∀ scenario ∈ state.scenarios, ∃ submission ∈ entries, submission.scenario = .ok scenario
  plugin : ∀ scenario ∈ state.scenarios, scenario.pluginId ∈ known.plugins
  profile : known.checkProfiles = true → ∀ scenario ∈ state.scenarios,
    scenario.environmentProfile ∈ known.environments
  reported : ∀ before submission, (before, submission) ∈ histories entries →
    ∀ issue, known.Problem before submission issue → issue ∈ state.issues
  exposed : ∀ before submission, (before, submission) ∈ histories entries →
    (∀ issue, ¬ known.Problem before submission issue) →
    ∃ scenario ∈ state.scenarios, submission.scenario = .ok scenario

omit [ValidationTexts] [UnicodeTables] in
/-- A scenario that comes from some entries has a defined id. -/
theorem mem_definedScenarios {entries : List Submission} {submission : Submission}
    {scenario : Scenario} (hmem : submission ∈ entries) (h : submission.scenario = .ok scenario) :
    scenario.scenarioId ∈ definedScenarios entries := by
  refine List.mem_filterMap.mpr ⟨submission, hmem, ?_⟩
  rw [h]
  rfl

theorem addScenario_tracked {entries : List Submission} {state : CatalogState}
    (h : Tracked known entries state) (submission : Submission) :
    Tracked known (entries ++ [submission])
      (addScenario known submission.filename submission.group state submission.entry) := by
  generalize hstate :
    addScenario known submission.filename submission.group state submission.entry = state'
  obtain ⟨⟨issue, hreports⟩ | ⟨scenario, hexposes⟩, -, hdefined⟩ :=
    addScenario_step h.defined submission hstate
  -- a report leaves the scenarios as they are
  · refine ⟨hdefined, ?_, ?_, ?_, ?_, ?_, ?_⟩
    · rw [hreports.scenarios]
      exact h.unique
    · rw [hreports.scenarios]
      intro scenario hmem
      obtain ⟨source, hsource, hscenario⟩ := h.source scenario hmem
      exact ⟨source, List.mem_append_left _ hsource, hscenario⟩
    · rw [hreports.scenarios]
      exact h.plugin
    · rw [hreports.scenarios]
      exact h.profile
    · rw [forall_history_concat, hreports.issues]
      constructor
      · exact fun before other hplace issue hissue =>
          List.mem_append_left _ (h.reported before other hplace issue hissue)
      · intro other hother
        rw [hreports.problem.eq hother]
        exact List.mem_append_right _ (List.mem_singleton_self _)
    · rw [forall_history_concat, hreports.scenarios]
      exact ⟨h.exposed, fun hnone => absurd hreports.problem (hnone issue)⟩
  -- an exposed scenario has an id that no entry before it defined
  · refine ⟨hdefined, ?_, ?_, ?_, ?_, ?_, ?_⟩
    · rw [hexposes.scenarios, List.map_append, List.map_singleton, List.nodup_append]
      refine ⟨h.unique, List.nodup_singleton _, ?_⟩
      intro id hid _ hnew
      obtain rfl := List.mem_singleton.mp hnew
      rintro rfl
      obtain ⟨other, hother, hid⟩ := List.mem_map.mp hid
      obtain ⟨source, hsource, hscenario⟩ := h.source other hother
      exact hexposes.new (hid ▸ mem_definedScenarios hsource hscenario)
    · rw [hexposes.scenarios]
      intro other hmem
      rcases List.mem_append.mp hmem with hmem | hmem
      · obtain ⟨source, hsource, hscenario⟩ := h.source other hmem
        exact ⟨source, List.mem_append_left _ hsource, hscenario⟩
      · obtain rfl := List.mem_singleton.mp hmem
        exact ⟨submission, List.mem_append_right _ (List.mem_singleton_self _), hexposes.valid⟩
    · rw [hexposes.scenarios]
      exact List.forall_mem_append.mpr ⟨h.plugin, by simpa using hexposes.plugin⟩
    · rw [hexposes.scenarios]
      intro hchecked
      exact List.forall_mem_append.mpr
        ⟨h.profile hchecked, by simpa using hexposes.profile hchecked⟩
    · rw [forall_history_concat, hexposes.issues]
      exact ⟨h.reported, fun issue hissue => absurd hissue (hexposes.not_problem issue)⟩
    · rw [forall_history_concat, hexposes.scenarios]
      constructor
      · intro before other hplace hnone
        obtain ⟨found, hfound, hscenario⟩ := h.exposed before other hplace hnone
        exact ⟨found, List.mem_append_left _ hfound, hscenario⟩
      · intro _
        exact ⟨scenario, List.mem_append_right _ (List.mem_singleton_self _), hexposes.valid⟩

/-- Issues are only added. -/
theorem addScenario_issues_subset {entries : List Submission} {state : CatalogState}
    (h : Tracked known entries state) (submission : Submission) :
    state.issues ⊆
      (addScenario known submission.filename submission.group state submission.entry).issues := by
  obtain ⟨⟨issue, hreports⟩ | ⟨scenario, hexposes⟩, -, -⟩ :=
    addScenario_step h.defined submission rfl
  · rw [hreports.issues]
    exact List.subset_append_left _ _
  · rw [hexposes.issues]
    exact List.Subset.refl _

/-- **What the entries of one manifest do.** -/
theorem addScenarios_tracked {entries : List Submission} {state : CatalogState}
    (h : Tracked known entries state) (filename group : String) (items : List (YamlRecord × ℕ)) :
    Tracked known (entries ++ items.map fun item => ⟨filename, group, item⟩)
      (items.foldl (addScenario known filename group) state) ∧
    (items.foldl (addScenario known filename group) state).seenCatalogIds = state.seenCatalogIds ∧
    state.issues ⊆ (items.foldl (addScenario known filename group) state).issues := by
  induction items generalizing entries state with
  | nil =>
    rw [List.map_nil, List.append_nil]
    exact ⟨h, rfl, List.Subset.refl _⟩
  | cons item items ih =>
    obtain ⟨htracked, hcatalogs, hissues⟩ := ih (addScenario_tracked h ⟨filename, group, item⟩)
    rw [List.append_assoc] at htracked
    refine ⟨htracked, ?_, ?_⟩
    · exact hcatalogs.trans (addScenario_step h.defined ⟨filename, group, item⟩ rfl).2.1
    · exact List.Subset.trans (addScenario_issues_subset h ⟨filename, group, item⟩) hissues

theorem Tracked.report {entries : List Submission} {state : CatalogState}
    (h : Tracked known entries state) (issues : List CatalogIssue) :
    Tracked known entries (state.report issues) where
  defined := h.defined
  unique := h.unique
  source := h.source
  plugin := h.plugin
  profile := h.profile
  reported before submission hplace issue hissue :=
    List.mem_append_left _ (h.reported before submission hplace issue hissue)
  exposed := h.exposed

/-- The catalog ids are not looked at by the entries. -/
theorem Tracked.withCatalogIds {entries : List Submission} {state : CatalogState}
    (h : Tracked known entries state) (seen : List String) :
    Tracked known entries { state with seenCatalogIds := seen } where
  defined := h.defined
  unique := h.unique
  source := h.source
  plugin := h.plugin
  profile := h.profile
  reported := h.reported
  exposed := h.exposed

end Entries

/-! ## One manifest -/

section Manifests

variable {known : KnownIds} {limit : ℕ} {files : List ManifestFile} {file : ManifestFile}

omit [ValidationTexts] [SpaceTable] [UnicodeTables] in
theorem mem_definedCatalogs_concat {id : String} :
    id ∈ definedCatalogs (files ++ [file]) ↔ id ∈ definedCatalogs files ∨
      ∃ catalog, file.catalog = some catalog ∧ catalog.catalogId = id := by
  rw [definedCatalogs, List.filterMap_append, List.mem_append]
  refine or_congr Iff.rfl ?_
  cases h : file.catalog <;> simp [h, eq_comm]

omit [ValidationTexts] [SpaceTable] [UnicodeTables] in
theorem submissions_concat (files : List ManifestFile) (file : ManifestFile) :
    submissions (files ++ [file]) = submissions files ++ fileSubmissions files file := by
  simp [submissions, histories_concat]

/-- What the manifests so far leave in the catalog. -/
structure FilesTracked (known : KnownIds) (initial : List CatalogIssue) (files : List ManifestFile)
    (state : CatalogState) : Prop where
  catalogs : ∀ id, id ∈ state.seenCatalogIds ↔ id ∈ definedCatalogs files
  entries : Tracked known (submissions files) state
  initial : initial ⊆ state.issues
  problems : ∀ earlier file, (earlier, file) ∈ histories files →
    ∀ issue, ManifestProblem earlier file issue → issue ∈ state.issues

theorem addManifest_of_problem {state : CatalogState} {issue : CatalogIssue}
    (h : ReadProblem file.name file.content issue) :
    addManifest limit known state file = .ok (state.report [issue]) := by
  rw [addManifest, readYamlDocument_of_problem h]
  rfl

/-- What a manifest with a mapping does. -/
theorem addManifest_of_document {state : CatalogState} {payload : YamlMapping}
    (h : file.content.document = some payload) :
    addManifest limit known state file =
      (secretIssues file.name limit payload).map fun found =>
        match CatalogFile.modelValidate payload with
        | .error error =>
          (state.report found).report [⟨file.name, "root", safeError error.str⟩]
        | .ok catalog =>
          if catalog.catalogId ∈ state.seenCatalogIds then
            (state.report found).report [⟨file.name, "catalog_id",
              "duplicate catalog id " ++ reprText catalog.catalogId⟩]
          else catalog.scenarios.zipIdx.foldl (addScenario known file.name catalog.group)
            { state.report found with
              seenCatalogIds := state.seenCatalogIds ++ [catalog.catalogId] } := by
  rw [addManifest, readYamlDocument_of_document h]
  change (secretIssues file.name limit payload >>= _) = _
  cases secretIssues file.name limit payload with
  | error e => rfl
  | ok found =>
    dsimp only [bind, Except.bind, Except.map]
    cases CatalogFile.modelValidate payload with
    | error error => rfl
    | ok catalog =>
      by_cases hseen : catalog.catalogId ∈ state.seenCatalogIds
      · have hreported : catalog.catalogId ∈ (state.report found).seenCatalogIds := hseen
        simp only [if_pos hseen, if_pos hreported]
        rfl
      · have hreported : catalog.catalogId ∉ (state.report found).seenCatalogIds := hseen
        simp only [if_neg hseen, if_neg hreported]
        rfl

/-- A manifest is added when it is tractable. -/
theorem addManifest_isOk_iff {state : CatalogState} :
    (∃ state', addManifest limit known state file = .ok state') ↔ Tractable limit file.content := by
  rcases read_cases file.name file.content with
    ⟨payload, h⟩ | ⟨issue, h⟩ | ⟨⟨e, h⟩, htractable⟩
  · have hreturns : (∃ found, secretIssues file.name limit payload = .ok found) ↔
        Scannable limit payload := secretIssues_isOk_iff
    rw [addManifest_of_document h, tractable_of_document h, ← hreturns]
    cases secretIssues file.name limit payload <;> simp [Except.map]
  · rw [addManifest_of_problem h]
    exact iff_of_true ⟨_, rfl⟩ (tractable_of_problem h limit)
  · refine iff_of_false ?_ (htractable limit)
    rw [addManifest, h]
    rintro ⟨result, hresult⟩
    cases hresult

omit [ValidationTexts] [SpaceTable] [UnicodeTables] in
theorem catalog_of_document {payload : YamlMapping} (h : file.content.document = some payload) :
    file.catalog = (CatalogFile.modelValidate payload).toOption := by
  rw [ManifestFile.catalog, h]
  rfl

omit [LaxCoercions] [ValidationTexts] [SpaceTable] [UnicodeTables] in
theorem document_eq_none_of_problem {issue : CatalogIssue}
    (h : ReadProblem file.name file.content issue) : file.content.document = none := by
  rw [Option.eq_none_iff_forall_ne_some]
  exact fun payload hdocument => not_readProblem_of_document hdocument h

/-- A manifest that adds no entry and no catalog id, and whose problems are reported. -/
theorem FilesTracked.report {initial issues : List CatalogIssue} {state : CatalogState}
    (h : FilesTracked known initial files state)
    (hcatalog : ∀ catalog, file.catalog = some catalog → catalog.catalogId ∈ definedCatalogs files)
    (hproblems : ∀ issue, ManifestProblem files file issue → issue ∈ issues) :
    FilesTracked known initial (files ++ [file]) (state.report issues) where
  catalogs id := by
    rw [mem_definedCatalogs_concat, or_iff_left_of_imp]
    · exact h.catalogs id
    · rintro ⟨catalog, hfile, rfl⟩
      exact hcatalog catalog hfile
  entries := by
    have hnone : fileSubmissions files file = [] := by
      unfold fileSubmissions
      cases hfile : file.catalog with
      | none => rfl
      | some catalog => exact if_pos (hcatalog catalog hfile)
    rw [submissions_concat, hnone, List.append_nil]
    exact h.entries.report issues
  initial := List.Subset.trans h.initial (List.subset_append_left _ _)
  problems := by
    rw [forall_history_concat]
    constructor
    · exact fun earlier other hplace issue hissue =>
        List.mem_append_left _ (h.problems earlier other hplace issue hissue)
    · exact fun issue hissue => List.mem_append_right _ (hproblems issue hissue)

/-- A manifest with a new catalog id, whose entries are added. -/
theorem FilesTracked.accept {initial found : List CatalogIssue} {state : CatalogState}
    (h : FilesTracked known initial files state) {catalog : CatalogFile}
    (hcatalog : file.catalog = some catalog) (hnew : catalog.catalogId ∉ definedCatalogs files)
    (hproblems : ∀ issue, ManifestProblem files file issue → issue ∈ found) :
    FilesTracked known initial (files ++ [file])
      (catalog.scenarios.zipIdx.foldl (addScenario known file.name catalog.group)
        { state.report found with
          seenCatalogIds := state.seenCatalogIds ++ [catalog.catalogId] }) := by
  have hbefore :=
    (h.entries.report found).withCatalogIds (state.seenCatalogIds ++ [catalog.catalogId])
  obtain ⟨hentries, hcatalogs, hissues⟩ :=
    addScenarios_tracked hbefore file.name catalog.group catalog.scenarios.zipIdx
  have hsubmissions : submissions (files ++ [file]) = submissions files ++
      catalog.scenarios.zipIdx.map fun item => ⟨file.name, catalog.group, item⟩ := by
    rw [submissions_concat, fileSubmissions, hcatalog]
    exact congrArg _ (if_neg hnew)
  have hkept : state.issues ⊆ (state.report found).issues := List.subset_append_left _ _
  refine ⟨fun id => ?_, ?_, ?_, ?_⟩
  · rw [hcatalogs, List.mem_append, h.catalogs, mem_definedCatalogs_concat, List.mem_singleton]
    simp [hcatalog, eq_comm]
  · rw [hsubmissions]
    exact hentries
  · exact List.Subset.trans (List.Subset.trans h.initial hkept) hissues
  · rw [forall_history_concat]
    constructor
    · exact fun earlier other hplace issue hissue =>
        hissues (hkept (h.problems earlier other hplace issue hissue))
    · exact fun issue hissue => hissues (List.mem_append_right _ (hproblems issue hissue))

/-- **What one manifest does.** -/
theorem addManifest_tracked {initial : List CatalogIssue} {state state' : CatalogState}
    (h : FilesTracked known initial files state)
    (hrun : addManifest limit known state file = .ok state') :
    FilesTracked known initial (files ++ [file]) state' := by
  -- the file is a document, or it has one problem, or the loader raises
  rcases read_cases file.name file.content with
    ⟨payload, hdocument⟩ | ⟨problem, hproblem⟩ | ⟨⟨e, herror⟩, -⟩
  · rw [addManifest_of_document hdocument] at hrun
    have hcatalog := catalog_of_document hdocument
    have hread (issue : CatalogIssue) : ¬ ReadProblem file.name file.content issue :=
      not_readProblem_of_document hdocument
    cases hscan : secretIssues file.name limit payload with
    | error e =>
      rw [hscan] at hrun
      cases hrun
    | ok found =>
      have hsecret (issue : CatalogIssue) :
          issue ∈ found ↔ SecretProblem file.name file.content issue :=
        mem_secretIssues_iff_problem hdocument hscan
      rw [hscan] at hrun
      have hstate := Except.ok.inj hrun
      cases hvalidate : CatalogFile.modelValidate payload with
      | error error =>
        rw [hvalidate] at hstate hcatalog
        dsimp only at hstate
        rw [CatalogState.report_report] at hstate
        subst hstate
        refine h.report (fun catalog hfile => ?_) fun issue hissue => ?_
        · cases hcatalog.symm.trans hfile
        · rcases hissue with hissue | hissue | ⟨hother, hinvalid⟩ | ⟨hfile, -⟩
          · exact absurd hissue (hread _)
          · exact List.mem_append_left _ ((hsecret _).mpr hissue)
          · cases hdocument.symm.trans hother
            cases hvalidate.symm.trans hinvalid
            exact List.mem_append_right _ (List.mem_singleton_self _)
          · cases hcatalog.symm.trans hfile
      | ok catalog =>
        rw [hvalidate] at hstate hcatalog
        dsimp only at hstate
        -- a second file with the same catalog identifier is reported and dropped
        by_cases hseen : catalog.catalogId ∈ state.seenCatalogIds
        · rw [if_pos hseen, CatalogState.report_report] at hstate
          subst hstate
          have hdefined := (h.catalogs _).mp hseen
          refine h.report (fun other hfile => ?_) fun issue hissue => ?_
          · cases hcatalog.symm.trans hfile
            exact hdefined
          · rcases hissue with hissue | hissue | ⟨hother, hinvalid⟩ | ⟨hfile, -⟩
            · exact absurd hissue (hread _)
            · exact List.mem_append_left _ ((hsecret _).mpr hissue)
            · cases hdocument.symm.trans hother
              cases hvalidate.symm.trans hinvalid
            · cases hcatalog.symm.trans hfile
              exact List.mem_append_right _ (List.mem_singleton_self _)
        · rw [if_neg hseen] at hstate
          subst hstate
          have hnew := mt (h.catalogs _).mpr hseen
          refine h.accept hcatalog hnew fun issue hissue => ?_
          rcases hissue with hissue | hissue | ⟨hother, hinvalid⟩ | ⟨hfile, hdefined⟩
          · exact absurd hissue (hread _)
          · exact (hsecret _).mpr hissue
          · cases hdocument.symm.trans hother
            cases hvalidate.symm.trans hinvalid
          · cases hcatalog.symm.trans hfile
            exact absurd hdefined hnew
  · rw [addManifest_of_problem hproblem] at hrun
    obtain rfl := Except.ok.inj hrun
    have hnone := document_eq_none_of_problem hproblem
    have hcatalog : file.catalog = none := by
      rw [ManifestFile.catalog, hnone]
      rfl
    refine h.report (fun catalog hfile => ?_) fun issue hissue => ?_
    · cases hcatalog.symm.trans hfile
    · rcases hissue with hissue | ⟨_, hother, -⟩ | ⟨hother, -⟩ | ⟨hfile, -⟩
      · rw [hproblem.eq hissue]
        exact List.mem_singleton_self _
      · cases hnone.symm.trans hother
      · cases hnone.symm.trans hother
      · cases hcatalog.symm.trans hfile
  · rw [addManifest, herror] at hrun
    cases hrun

end Manifests

/-! ## The whole catalog -/

/-- The manifests are added when they are tractable. -/
theorem addManifests_isOk_iff {limit : ℕ} {known : KnownIds} {files : List ManifestFile}
    {state : CatalogState} :
    (∃ state', files.foldlM (addManifest limit known) state = .ok state') ↔
      ∀ file ∈ files, Tractable limit file.content :=
  foldlM_returns_iff (p := fun file : ManifestFile => Tractable limit file.content)
    fun _ _ => addManifest_isOk_iff

/-- **What the manifests do**, after the environments file. -/
theorem addManifests_tracked {limit : ℕ} {known : KnownIds} {initial : List CatalogIssue}
    {files : List ManifestFile} {state : CatalogState}
    (hrun : files.foldlM (addManifest limit known) { issues := initial } = .ok state) :
    FilesTracked known initial files state := by
  refine foldlM_history (I := FilesTracked known initial) ?_ ?_ hrun
  · refine ⟨fun id => by simp [definedCatalogs], ?_, List.Subset.refl _, by simp⟩
    refine ⟨fun id => by simp [definedScenarios, submissions], ?_, ?_, ?_, ?_, ?_, ?_⟩ <;>
      simp [submissions]
  · exact fun files file state state' h hstep => addManifest_tracked h hstep

/-- A catalog is loaded through its profiles and its manifests. -/
theorem loadSimulationCatalog_eq_ok_iff {inputs : CatalogInputs} {catalog : SimulationCatalog} :
    loadSimulationCatalog inputs = .ok catalog ↔ ∃ profiles issues state,
      loadEnvironmentProfiles inputs.limit inputs.environments = .ok (profiles, issues) ∧
      inputs.manifests.foldlM (addManifest inputs.limit (inputs.known profiles issues))
        { issues := issues } = .ok state ∧
      catalog = ⟨state.scenarios.insertionSort fun a b => a.scenarioId ≤ b.scenarioId, profiles,
        state.issues⟩ := by
  rw [loadSimulationCatalog, bind_eq_ok]
  constructor
  · rintro ⟨⟨profiles, issues⟩, henvironment, hrest⟩
    obtain ⟨state, hstate, hcatalog⟩ := bind_eq_ok.mp hrest
    exact ⟨profiles, issues, state, henvironment, hstate, (Except.ok.inj hcatalog).symm⟩
  · rintro ⟨profiles, issues, state, henvironment, hstate, rfl⟩
    exact ⟨(profiles, issues), henvironment, bind_eq_ok.mpr ⟨state, hstate, rfl⟩⟩

/-- **A loaded catalog is sound.** -/
theorem loadSimulationCatalog_sound {inputs : CatalogInputs} {catalog : SimulationCatalog}
    (h : loadSimulationCatalog inputs = .ok catalog) : CatalogSound inputs catalog := by
  obtain ⟨profiles, issues, state, henvironment, hstate, rfl⟩ :=
    loadSimulationCatalog_eq_ok_iff.mp h
  have htracked := addManifests_tracked hstate
  have hissues (issue : CatalogIssue) :
      issue ∈ issues ↔ EnvironmentProblem inputs.environments issue :=
    mem_loadEnvironmentProfiles_iff henvironment
  have hchecked : ((inputs.known profiles issues).checkProfiles = true) =
      inputs.ProfilesLoaded := by
    simp only [CatalogInputs.known, CatalogInputs.ProfilesLoaded, Bool.or_eq_true,
      List.isEmpty_iff, List.eq_nil_iff_forall_not_mem, hissues]
  have hperm := List.perm_insertionSort
    (fun a b : Scenario => a.scenarioId ≤ b.scenarioId) state.scenarios
  have hmem (scenario : Scenario) : scenario ∈ state.scenarios.insertionSort
      (fun a b => a.scenarioId ≤ b.scenarioId) ↔ scenario ∈ state.scenarios := hperm.mem_iff
  refine ⟨?_, ?_, ?_, ?_, ?_, ?_, ?_, ?_, ?_⟩
  · exact List.pairwise_map.mpr (List.pairwise_insertionSort _ _)
  · exact (hperm.map _).nodup_iff.mpr htracked.entries.unique
  · exact fun scenario h => htracked.entries.source scenario ((hmem scenario).mp h)
  · exact fun scenario h => htracked.entries.plugin scenario ((hmem scenario).mp h)
  · exact fun hloaded scenario h =>
      htracked.entries.profile (hchecked ▸ hloaded) scenario ((hmem scenario).mp h)
  · exact fun issue h => htracked.initial ((hissues issue).mpr h)
  · exact htracked.problems
  · intro before submission hplace issue h
    rw [← hchecked] at h
    exact htracked.entries.reported before submission hplace issue h
  · intro before submission hplace h
    rw [← hchecked] at h
    obtain ⟨scenario, hscenario, hvalid⟩ := htracked.entries.exposed before submission hplace h
    exact ⟨scenario, (hmem scenario).mpr hscenario, hvalid⟩

/-- **A sound catalog is loaded** exactly when the environments file and every manifest are
tractable. -/
theorem loads_iff (inputs : CatalogInputs) :
    (∃ catalog, loadSimulationCatalog inputs = .ok catalog ∧ CatalogSound inputs catalog) ↔
      Tractable inputs.limit inputs.environments ∧
        ∀ file ∈ inputs.manifests, Tractable inputs.limit file.content := by
  constructor
  · rintro ⟨catalog, h, -⟩
    obtain ⟨profiles, issues, state, henvironment, hstate, -⟩ :=
      loadSimulationCatalog_eq_ok_iff.mp h
    exact ⟨loadEnvironmentProfiles_isOk_iff.mp ⟨_, henvironment⟩,
      addManifests_isOk_iff.mp ⟨_, hstate⟩⟩
  · rintro ⟨henvironment, hmanifests⟩
    obtain ⟨⟨profiles, issues⟩, hprofiles⟩ := loadEnvironmentProfiles_isOk_iff.mpr henvironment
    obtain ⟨state, hstate⟩ := addManifests_isOk_iff.mpr hmanifests
    have hcatalog := loadSimulationCatalog_eq_ok_iff.mpr
      ⟨profiles, issues, state, hprofiles, hstate, rfl⟩
    exact ⟨_, hcatalog, loadSimulationCatalog_sound hcatalog⟩

end Catalog

/-- A blank text has no document. -/
@[reducible] def blankYaml : YamlLoader where
  safeLoad _ := .document .null

/-- A load of one manifest that is no UTF-8, with a blank environments file. -/
def undecodableInputs : CatalogInputs where
  manifests := [⟨"support.yaml", .bytes [0xff]⟩]
  environments := .bytes []
  knownPluginIds := none
  knownEnvironmentIds := none
  limit := 900

section Examples

attribute [local instance] asciiTables asciiSpaces strictTypes plainTexts blankYaml

/-- A manifest that is no UTF-8 keeps the loader from returning. -/
theorem not_loads_undecodable :
    ¬ ∃ catalog, loadSimulationCatalog undecodableInputs = .ok catalog ∧
      CatalogSound undecodableInputs catalog := by
  rintro ⟨catalog, h, -⟩
  obtain ⟨profiles, issues, state, -, hstate, -⟩ := loadSimulationCatalog_eq_ok_iff.mp h
  have htractable := addManifests_isOk_iff.mp ⟨_, hstate⟩ _ List.mem_cons_self
  obtain ⟨outcome, hsome, -⟩ := htractable [0xff] rfl
  have hnone : (FileContent.bytes [0xff]).outcome = none := by
    have hdecode : decodeUtf8 [0xff] = none := by decide +kernel
    rw [FileContent.outcome, hdecode]
    rfl
  rw [hnone] at hsome
  cases hsome

end Examples

end ObservabilityLab.UserSimulator
