import ObservabilityLab.Python.Mapping
import ObservabilityLab.UserSimulator.SecretScan

/-!
# Simulator manifests

The YAML manifests of the simulator: catalogs of scenarios, and the environment profiles. A catalog
is loaded from several manifests, with an issue for each problem of their content.

## Main definitions

* `LaxCoercions`: what pydantic takes for a text, a number or a list that is none
* `Scenario`, `EnvironmentProfile`, `CatalogFile`, `EnvironmentsFile`: the validated models
* `readYamlDocument`, `loadEnvironmentProfiles`, `loadSimulationCatalog`: the loader
-/

namespace ObservabilityLab.UserSimulator

open Python

/-! ## Fields -/

/-- What pydantic accepts in place of a text, an integer, a Boolean or a list. -/
class LaxCoercions where
  text : YamlValue → Option String
  integer : YamlValue → Option ℤ
  boolean : YamlValue → Option Bool
  elements : YamlValue → Option (List YamlValue)

/-- Nothing is accepted in place of another value. -/
@[reducible] def strictTypes : LaxCoercions where
  text _ := none
  integer _ := none
  boolean _ := none
  elements _ := none

abbrev YamlRecord := List (String × YamlValue)

/-- `^[a-z0-9][a-z0-9_-]*$` -/
def isManifestId (text : String) : Bool :=
  matchesHead (fun c => isLower c || isAsciiDigit c)
    (fun c => isLower c || isAsciiDigit c || c ∈ ['_', '-']) text

/-- `^[A-Z][A-Z0-9_]*$` -/
def isEnvVarName (text : String) : Bool :=
  matchesHead isUpper (fun c => isUpper c || isAsciiDigit c || c = '_') text

section Fields

variable [LaxCoercions]

def laxText : YamlValue → Option String
  | .text s => some s
  | value => LaxCoercions.text value

def laxInteger : YamlValue → Option ℤ
  | .int n => some n
  | value => LaxCoercions.integer value

def laxBoolean : YamlValue → Option Bool
  | .bool b => some b
  | value => LaxCoercions.boolean value

/-- A tuple of texts. -/
def laxTexts : YamlValue → Option (List String)
  | .list items => items.mapM laxText
  | value => (LaxCoercions.elements value).bind (·.mapM laxText)

/-- A list of mappings with text keys. -/
def laxRecords : YamlValue → Option (List YamlRecord)
  | .list items => items.mapM fun item => item.asMapping.bind textEntries
  | _ => none

/-- A value that may be `None`. -/
def orNone {α : Type} (read : YamlValue → Option α) : YamlValue → Option (Option α)
  | .null => some none
  | value => (read value).map some

/-- A literal. -/
def literalText (text : String) : YamlValue → Option String
  | .text s => if s = text then some s else none
  | _ => none

/-- One field of a model; a field without a default is required. -/
def readYamlField {α : Type} (model : String) (record : YamlRecord) (key : String)
    (default : Option α) (read : YamlValue → Option α) : Raises α :=
  match (record.lookup key).elim default read with
  | some a => .ok a
  | none => .error (.validation model key)

/-- `extra="forbid"` -/
def forbidExtra (model : String) (keys : List String) (record : YamlRecord) : Raises Unit :=
  raiseIf (!record.all fun entry => entry.1 ∈ keys) (.validation model "extra_forbidden")

end Fields

/-! ## Models -/

structure ScenarioFields where
  scenarioId : String
  pluginId : String
  group : String
  name : String
  description : String
  persona : String
  script : String
  goal : String
  maxTurns : ℤ
  environmentProfile : String

def ScenarioFields.isValid (fields : ScenarioFields) : Bool :=
  isManifestId fields.scenarioId && isManifestId fields.pluginId && isManifestId fields.group &&
    lengthWithin 1 200 fields.name && lengthWithin 0 2000 fields.description &&
    lengthWithin 0 2000 fields.persona && lengthWithin 0 4000 fields.script &&
    lengthWithin 0 1000 fields.goal && 1 ≤ fields.maxTurns && fields.maxTurns ≤ 50 &&
    isManifestId fields.environmentProfile

/-- One simulation. -/
structure Scenario extends ScenarioFields where
  valid : toScenarioFields.isValid = true

structure EnvironmentProfileFields where
  profileId : String
  label : String
  environment : String
  loopbackOnly : Bool
  dbUrlEnv : String
  dbHost : Option String
  dbPort : Option ℤ
  dbName : Option String
  isolationPolicy : String
  artifactRoot : String
  modelProvider : Option String
  modelName : Option String
  requiredVariables : List String

def EnvironmentProfileFields.isValid (fields : EnvironmentProfileFields) : Bool :=
  isManifestId fields.profileId && lengthWithin 1 200 fields.label &&
    isEnvVarName fields.dbUrlEnv && optionWithin 200 fields.dbHost &&
    (fields.dbPort.all fun port => 1 ≤ port && port ≤ 65535) && optionWithin 200 fields.dbName &&
    lengthWithin 1 500 fields.artifactRoot && optionWithin 100 fields.modelProvider &&
    optionWithin 200 fields.modelName && fields.requiredVariables.all isEnvVarName

/-- One disposable test environment. -/
structure EnvironmentProfile extends EnvironmentProfileFields where
  valid : toEnvironmentProfileFields.isValid = true

/-- One manifest of scenarios, whose entries are not validated yet. -/
structure CatalogFile where
  catalogId : String
  group : String
  name : String
  scenarios : List YamlRecord
  valid : (isManifestId catalogId && isManifestId group && lengthWithin 0 200 name) = true
  nonempty : scenarios ≠ []

/-- The manifest of environment profiles, whose entries are not validated yet. -/
structure EnvironmentsFile where
  environments : List YamlRecord
  nonempty : environments ≠ []

section Models

variable [LaxCoercions]

/-- `Scenario.model_validate(record)` -/
def Scenario.modelValidate (record : YamlRecord) : Raises Scenario := do
  forbidExtra "Scenario" ["scenario_id", "plugin_id", "group", "name", "description", "persona",
    "script", "goal", "max_turns", "environment_profile"] record
  let text (key : String) (default : Option String) :=
    readYamlField "Scenario" record key default laxText
  let fields : ScenarioFields :=
    { scenarioId := ← text "scenario_id" none
      pluginId := ← text "plugin_id" none
      group := ← text "group" none
      name := ← text "name" none
      description := ← text "description" (some "")
      persona := ← text "persona" (some "")
      script := ← text "script" (some "")
      goal := ← text "goal" (some "")
      maxTurns := ← readYamlField "Scenario" record "max_turns" (some 12) laxInteger
      environmentProfile := ← text "environment_profile" (some "lab-test-pg") }
  if h : fields.isValid = true then .ok { fields with valid := h }
  else .error (.validation "Scenario" "constraints")

/-- `EnvironmentProfile.model_validate(record)` -/
def EnvironmentProfile.modelValidate (record : YamlRecord) : Raises EnvironmentProfile := do
  forbidExtra "EnvironmentProfile" ["profile_id", "label", "environment", "loopback_only",
    "db_url_env", "db_host", "db_port", "db_name", "isolation_policy", "artifact_root",
    "model_provider", "model_name", "required_variables"] record
  let text (key : String) (default : Option String) :=
    readYamlField "EnvironmentProfile" record key default laxText
  let optional (key : String) :=
    readYamlField "EnvironmentProfile" record key (some none) (orNone laxText)
  let fields : EnvironmentProfileFields :=
    { profileId := ← text "profile_id" none
      label := ← text "label" none
      environment := ← text "environment" (some "test")
      loopbackOnly :=
        ← readYamlField "EnvironmentProfile" record "loopback_only" (some false) laxBoolean
      dbUrlEnv := ← text "db_url_env" (some "DATABASE_URL")
      dbHost := ← optional "db_host"
      dbPort :=
        ← readYamlField "EnvironmentProfile" record "db_port" (some none) (orNone laxInteger)
      dbName := ← optional "db_name"
      isolationPolicy :=
        ← readYamlField "EnvironmentProfile" record "isolation_policy"
          (some "transaction-rollback") (literalText "transaction-rollback")
      artifactRoot := ← text "artifact_root" (some "artifacts/user-simulator")
      modelProvider := ← optional "model_provider"
      modelName := ← optional "model_name"
      requiredVariables :=
        ← readYamlField "EnvironmentProfile" record "required_variables" (some []) laxTexts }
  if h : fields.isValid = true then .ok { fields with valid := h }
  else .error (.validation "EnvironmentProfile" "constraints")

/-- The entries of a model of a whole file. -/
def fileRecord (model : String) (mapping : YamlMapping) : Raises YamlRecord :=
  match textEntries mapping with
  | some record => .ok record
  | none => .error (.validation model "invalid_key")

/-- `_CatalogFile.model_validate(payload)` -/
def CatalogFile.modelValidate (payload : YamlMapping) : Raises CatalogFile := do
  let record ← fileRecord "_CatalogFile" payload
  forbidExtra "_CatalogFile" ["schema_version", "catalog_id", "group", "name", "scenarios"] record
  let _ ← readYamlField "_CatalogFile" record "schema_version" none (literalText "1.0")
  let catalogId ← readYamlField "_CatalogFile" record "catalog_id" none laxText
  let group ← readYamlField "_CatalogFile" record "group" none laxText
  let name ← readYamlField "_CatalogFile" record "name" (some "") laxText
  let scenarios ← readYamlField "_CatalogFile" record "scenarios" none laxRecords
  if valid : (isManifestId catalogId && isManifestId group && lengthWithin 0 200 name) = true then
    if nonempty : scenarios ≠ [] then .ok { catalogId, group, name, scenarios, valid, nonempty }
    else .error (.validation "_CatalogFile" "scenarios")
  else .error (.validation "_CatalogFile" "constraints")

/-- `_EnvironmentsFile.model_validate(payload)` -/
def EnvironmentsFile.modelValidate (payload : YamlMapping) : Raises EnvironmentsFile := do
  let record ← fileRecord "_EnvironmentsFile" payload
  forbidExtra "_EnvironmentsFile" ["schema_version", "environments"] record
  let _ ← readYamlField "_EnvironmentsFile" record "schema_version" none (literalText "1.0")
  let environments ← readYamlField "_EnvironmentsFile" record "environments" none laxRecords
  if nonempty : environments ≠ [] then .ok { environments, nonempty }
  else .error (.validation "_EnvironmentsFile" "environments")

end Models

/-! ## Files -/

/-- The bytes of a file that can be read, or the text of the `OSError`. -/
inductive FileContent where
  | unreadable (text : String)
  | bytes (content : List UInt8)

structure ManifestFile where
  name : String
  content : FileContent

/-- `DEFAULT_ENVIRONMENTS_FILE.name` -/
def environmentsFileName : String := "simulation-environments.yaml"

/-- `_safe_error(error)`, of the text of an error -/
def safeError (text : String) : String :=
  let flat := String.ofList (text.toList.flatMap fun c => if c = '\n' then [';', ' '] else [c])
  if 400 < flat.length then String.ofList (flat.toList.take 397) ++ "..." else flat

section Loading

variable [YamlLoader]

/-- `_read_yaml_document(path)` -/
def readYamlDocument (name : String) :
    FileContent → Raises (YamlMapping × List CatalogIssue)
  | .unreadable text => .ok ([], [⟨name, "yaml", "cannot read: " ++ safeError text⟩])
  | .bytes content =>
    match decodeUtf8 content with
    -- a `UnicodeDecodeError` is no `OSError`
    | none => .error (.other "UnicodeDecodeError" "'utf-8' codec can't decode the file")
    | some text =>
      match YamlLoader.safeLoad (String.ofList (universalNewlines text.toList)) with
      | .raised className text => .error (.other className text)
      | .yamlError text => .ok ([], [⟨name, "yaml", "cannot parse: " ++ safeError text⟩])
      | .document (.mapping payload) => .ok (payload, [])
      | .document _ => .ok ([], [⟨name, "root", "must be a YAML mapping"⟩])

/-- `f"{field}[{index}]"` -/
def indexedField (field : String) (index : ℕ) : String := field ++ "[" ++ toString index ++ "]"

variable [LaxCoercions] [ValidationTexts] [SpaceTable] [UnicodeTables]

/-- One entry of the environments file. -/
def addProfile (state : List EnvironmentProfile × List CatalogIssue) (entry : YamlRecord × ℕ) :
    List EnvironmentProfile × List CatalogIssue :=
  match EnvironmentProfile.modelValidate entry.1 with
  | .error error =>
    (state.1, state.2 ++
      [⟨environmentsFileName, indexedField "environments" entry.2, safeError error.str⟩])
  | .ok profile =>
    if profile.profileId ∈ state.1.map (·.profileId) then
      (state.1, state.2 ++ [⟨environmentsFileName, "profile_id",
        "duplicate environment profile " ++ reprText profile.profileId⟩])
    else (state.1 ++ [profile], state.2)

/-- `_load_environment_profiles(path)` -/
def loadEnvironmentProfiles (limit : ℕ) (environments : FileContent) :
    Raises (List EnvironmentProfile × List CatalogIssue) := do
  let (payload, issues) ← readYamlDocument environmentsFileName environments
  if issues ≠ [] then return ([], issues)
  let issues ← secretIssues environmentsFileName limit payload
  match EnvironmentsFile.modelValidate payload with
  | .error error =>
    return ([], issues ++ [⟨environmentsFileName, "root", safeError error.str⟩])
  | .ok file => return file.environments.zipIdx.foldl addProfile ([], issues)

/-! ## The catalog -/

/-- The allowlists of a catalog. -/
structure KnownIds where
  plugins : List String
  environments : List String
  checkProfiles : Bool

/-- The variables of `load_simulation_catalog`. -/
structure CatalogState where
  scenarios : List Scenario := []
  issues : List CatalogIssue
  seenCatalogIds : List String := []
  seenScenarioIds : List String := []

def CatalogState.report (state : CatalogState) (issues : List CatalogIssue) : CatalogState :=
  { state with issues := state.issues ++ issues }

omit [YamlLoader] [LaxCoercions] [ValidationTexts] [SpaceTable] [UnicodeTables] in
@[simp] theorem CatalogState.report_seenScenarioIds (state : CatalogState)
    (issues : List CatalogIssue) : (state.report issues).seenScenarioIds = state.seenScenarioIds :=
  rfl

omit [YamlLoader] [LaxCoercions] [ValidationTexts] [SpaceTable] [UnicodeTables] in
theorem CatalogState.report_report (state : CatalogState) (issues later : List CatalogIssue) :
    (state.report issues).report later = state.report (issues ++ later) := by
  simp only [CatalogState.report, List.append_assoc]

/-- One entry of a manifest. -/
def addScenario (known : KnownIds) (filename group : String) (state : CatalogState)
    (entry : YamlRecord × ℕ) : CatalogState :=
  match Scenario.modelValidate (assignKey entry.1 "group" (.text group)) with
  | .error error =>
    state.report [⟨filename, indexedField "scenarios" entry.2, safeError error.str⟩]
  | .ok scenario =>
    if scenario.scenarioId ∈ state.seenScenarioIds then
      state.report [⟨filename, "scenario_id",
        "duplicate scenario id " ++ reprText scenario.scenarioId⟩]
    else
      let state :=
        { state with seenScenarioIds := state.seenScenarioIds ++ [scenario.scenarioId] }
      if scenario.pluginId ∉ known.plugins then
        state.report [⟨filename, "plugin_id",
          "unknown plugin id " ++ reprText scenario.pluginId ++ " (not in known_plugin_ids)"⟩]
      else if known.checkProfiles ∧ scenario.environmentProfile ∉ known.environments then
        state.report [⟨filename, "environment_profile",
          "unknown environment profile " ++ reprText scenario.environmentProfile⟩]
      else { state with scenarios := state.scenarios ++ [scenario] }

/-- One manifest. -/
def addManifest (limit : ℕ) (known : KnownIds) (state : CatalogState) (file : ManifestFile) :
    Raises CatalogState := do
  let (payload, readIssues) ← readYamlDocument file.name file.content
  if readIssues ≠ [] then return state.report readIssues
  let found ← secretIssues file.name limit payload
  let state := state.report found
  match CatalogFile.modelValidate payload with
  | .error error => return state.report [⟨file.name, "root", safeError error.str⟩]
  | .ok catalogFile =>
    if catalogFile.catalogId ∈ state.seenCatalogIds then
      return state.report [⟨file.name, "catalog_id",
        "duplicate catalog id " ++ reprText catalogFile.catalogId⟩]
    let state := { state with seenCatalogIds := state.seenCatalogIds ++ [catalogFile.catalogId] }
    return catalogFile.scenarios.zipIdx.foldl (addScenario known file.name catalogFile.group) state

/-- `_default_plugin_ids()`: the built-in persona ids -/
def defaultPluginIds : List String :=
  ["phase2-01-bad-prompt-policy-answer", "phase2-02-wrong-policy-evidence",
    "phase2-03-database-timeout", "phase2-04-wrong-tool-arguments", "phase2-05-unconfirmed-refund",
    "phase2-06-repeated-step", "phase2-07-slow-database", "phase2-08-model-cost-comparison",
    "reference-flight_booking", "reference-incident_response", "reference-ci_triage",
    "reference-claims_denial", "reference-returns_resolution", "reference-onboarding",
    "reference-disputes"]

/-- The files and the allowlists of a load, and how many calls the secret scan may nest. -/
structure CatalogInputs where
  manifests : List ManifestFile
  environments : FileContent
  knownPluginIds : Option (List String)
  knownEnvironmentIds : Option (List String)
  limit : ℕ

structure SimulationCatalog where
  scenarios : List Scenario
  profiles : List EnvironmentProfile
  issues : List CatalogIssue

/-- The allowlists, with the profiles and the issues of the environments file. -/
def CatalogInputs.known (inputs : CatalogInputs) (profiles : List EnvironmentProfile)
    (issues : List CatalogIssue) : KnownIds where
  plugins := inputs.knownPluginIds.getD defaultPluginIds
  environments := inputs.knownEnvironmentIds.getD (profiles.map (·.profileId))
  checkProfiles := inputs.knownEnvironmentIds.isSome || issues.isEmpty

/-- `load_simulation_catalog(paths, ...)` -/
def loadSimulationCatalog (inputs : CatalogInputs) : Raises SimulationCatalog := do
  let (profiles, issues) ← loadEnvironmentProfiles inputs.limit inputs.environments
  let state ← inputs.manifests.foldlM
    (addManifest inputs.limit (inputs.known profiles issues)) { issues }
  return {
    scenarios := state.scenarios.insertionSort fun a b => a.scenarioId ≤ b.scenarioId
    profiles := profiles
    issues := state.issues }

end Loading

end ObservabilityLab.UserSimulator
