import ObservabilityLab.Python.Url
import ObservabilityLab.UserSimulator.Manifests

/-!
# The database of a simulator run

A run takes its database URL from the variable that its profile names, or else from `DATABASE_URL`.
Of the URL only the scheme is looked at.

## Main definitions

* `RuntimeEnvironment`, `databaseUrl`, `resolveRuntime`: the runtime of a profile
* `PostgresUrl`, `MatchesProfile`: what a database URL should be
* `OwnDatabase`: the database that a profile approves

## Main results

* `resolveRuntime_eq_ok_iff`: when a runtime has a database URL and no issue
* `runsOnOwn_iff`: a profile runs on its own database exactly when its variable decides so
-/

namespace ObservabilityLab.UserSimulator

open Python

/-- `RuntimeEnvironment` -/
structure RuntimeEnvironment where
  environment : String
  databaseUrl : Option String
  isolationPolicy : String
  artifactRoot : String

/-- One preflight problem. -/
structure PreflightIssue where
  name : String
  message : String
  fix : String

/-- `_LOOPBACK_HOSTS`, which nothing looks at -/
def loopbackHosts : List String := ["localhost", "127.0.0.1", "::1"]

/-- A URL without the name of its driver. -/
def withoutDriver (url : String) : String :=
  replaceText "postgresql+asyncpg://" "postgresql://" url

/-- `env.get(name) or env.get("DATABASE_URL")`, if it is not empty -/
def selectedUrl (name : String) (env : String → Option String) : Option String :=
  ((env name).filter (· ≠ "")).or ((env "DATABASE_URL").filter (· ≠ ""))

section Preflight

variable [UrlTables] [UnicodeTables]

/-- `_database_url(profile, env)` -/
def databaseUrl (profile : EnvironmentProfile) (env : String → Option String) :
    Raises (Option String × List PreflightIssue) :=
  match selectedUrl profile.dbUrlEnv env with
  | none => .ok (none, [])
  | some raw =>
    match urlsplit (withoutDriver raw) with
    | .error text => .error (.value text)
    | .ok parts =>
      if parts.scheme ∉ ["postgresql", "postgres"] then
        .ok (some (withoutDriver raw), [⟨"database",
          profile.dbUrlEnv ++ " scheme " ++ reprText parts.scheme ++ " is not postgresql",
          "point the database URL at a PostgreSQL database"⟩])
      else .ok (some (withoutDriver raw), [])

/-- `resolve_runtime(profile, env)` -/
def resolveRuntime (profile : EnvironmentProfile) (env : String → Option String) :
    Raises (RuntimeEnvironment × List PreflightIssue) := do
  let (url, issues) ← databaseUrl profile env
  return (⟨profile.environment, url, profile.isolationPolicy, profile.artifactRoot⟩, issues)

/-! ## The database of a profile -/

/-- The value of a variable is a PostgreSQL URL with some parts. -/
def PostgresUrl (value : String) (parts : SplitResult) : Prop :=
  urlsplit (withoutDriver value) = .ok parts ∧ parts.scheme ∈ ["postgresql", "postgres"]

/-- The port of a database URL; PostgreSQL listens on 5432. -/
def databasePort (parts : SplitResult) : Option ℕ :=
  match parts.port with
  | .ok port => some (port.getD 5432)
  | .error _ => none

/-- The name of a database is the path of its URL, without the slash. -/
def databaseName (parts : SplitResult) : String :=
  match parts.path.toList with
  | '/' :: name => String.ofList name
  | _ => parts.path

/-- The URL has a loopback host if the profile wants one, and the declared host, port and database
name wherever the profile declares them. -/
structure MatchesProfile (profile : EnvironmentProfile) (parts : SplitResult) : Prop where
  loopback : profile.loopbackOnly = true → ∃ host ∈ loopbackHosts, parts.hostname = some host
  host : ∀ host, profile.dbHost = some host →
    parts.hostname = some (SplitResult.lowerHost host.toList)
  port : ∀ port, profile.dbPort = some port → (databasePort parts).map Int.ofNat = some port
  name : ∀ name, profile.dbName = some name → databaseName parts = name

/-- The URL is the value of the profile's own variable, and a PostgreSQL URL that the profile
approves. -/
def OwnDatabase (profile : EnvironmentProfile) (env : String → Option String)
    (url : String) : Prop :=
  ∃ value parts, env profile.dbUrlEnv = some value ∧ url = withoutDriver value ∧
    PostgresUrl value parts ∧ MatchesProfile profile parts

/-- A runtime with a database URL and without an issue has the profile's own database. -/
def RunsOnOwn (profile : EnvironmentProfile) (env : String → Option String) : Prop :=
  ∀ runtime url, resolveRuntime profile env = .ok (runtime, []) →
    runtime.databaseUrl = some url → OwnDatabase profile env url

/-! ## What is resolved -/

/-- An empty value is no PostgreSQL URL. -/
theorem PostgresUrl.ne_empty {value : String} {parts : SplitResult} (h : PostgresUrl value parts) :
    value ≠ "" := by
  rintro rfl
  have hblank : urlsplit (withoutDriver "") = .ok ⟨"", "", "", "", ""⟩ := rfl
  cases hblank.symm.trans h.1
  exact absurd h.2 (by decide)

/-- **When a runtime has a database URL and no issue**: the selected value is a PostgreSQL URL. -/
theorem resolveRuntime_eq_ok_iff {profile : EnvironmentProfile} {env : String → Option String}
    {runtime : RuntimeEnvironment} {url : String} :
    (resolveRuntime profile env = .ok (runtime, []) ∧ runtime.databaseUrl = some url) ↔
      ∃ value parts, selectedUrl profile.dbUrlEnv env = some value ∧ PostgresUrl value parts ∧
        url = withoutDriver value ∧
        runtime = ⟨profile.environment, some url, profile.isolationPolicy,
          profile.artifactRoot⟩ := by
  rw [resolveRuntime, bind_eq_ok]
  constructor
  · rintro ⟨⟨⟨resolved, issues⟩, hresolved, hruntime⟩, hurl⟩
    obtain ⟨rfl, rfl⟩ := Prod.mk.inj (Except.ok.inj hruntime)
    obtain rfl : resolved = some url := hurl
    unfold databaseUrl at hresolved
    cases hselected : selectedUrl profile.dbUrlEnv env with
    | none =>
      rw [hselected] at hresolved
      cases hresolved
    | some value =>
      rw [hselected] at hresolved
      dsimp only at hresolved
      cases hparts : urlsplit (withoutDriver value) with
      | error text =>
        rw [hparts] at hresolved
        cases hresolved
      | ok parts =>
        rw [hparts] at hresolved
        dsimp only at hresolved
        by_cases hscheme : parts.scheme ∈ ["postgresql", "postgres"]
        · rw [if_neg (not_not.mpr hscheme)] at hresolved
          cases hresolved
          exact ⟨value, parts, rfl, ⟨hparts, hscheme⟩, rfl, rfl⟩
        · rw [if_pos hscheme] at hresolved
          cases hresolved
  · rintro ⟨value, parts, hselected, ⟨hparts, hscheme⟩, rfl, rfl⟩
    refine ⟨⟨(some (withoutDriver value), []), ?_, rfl⟩, rfl⟩
    rw [databaseUrl, hselected]
    dsimp only
    rw [hparts]
    exact if_neg (not_not.mpr hscheme)

omit [UrlTables] [UnicodeTables] in
theorem selectedUrl_of_unset {name : String} {env : String → Option String}
    (hunset : (env name).getD "" = "") :
    selectedUrl name env = (env "DATABASE_URL").filter (· ≠ "") := by
  have hown : (env name).filter (· ≠ "") = none := by
    cases hvalue : env name with
    | none => rfl
    | some own =>
      rw [hvalue] at hunset
      obtain rfl : own = "" := hunset
      rfl
  rw [selectedUrl, hown, Option.none_or]

omit [UrlTables] [UnicodeTables] in
/-- The profile's own value is selected unless it is empty. -/
theorem selectedUrl_eq_some_iff {name value : String} {env : String → Option String} :
    selectedUrl name env = some value ↔ value ≠ "" ∧
      (env name = some value ∨ (env name).getD "" = "" ∧ env "DATABASE_URL" = some value) := by
  by_cases hunset : (env name).getD "" = ""
  · rw [selectedUrl_of_unset hunset, Option.filter_eq_some_iff]
    constructor
    · rintro ⟨hvalue, hne⟩
      exact ⟨of_decide_eq_true hne, Or.inr ⟨hunset, hvalue⟩⟩
    · rintro ⟨hne, hown | ⟨-, hvalue⟩⟩
      · rw [hown] at hunset
        exact absurd hunset hne
      · exact ⟨hvalue, decide_eq_true hne⟩
  · cases hown : env name with
    | none =>
      rw [hown] at hunset
      exact absurd rfl hunset
    | some own =>
      have hne : own ≠ "" := by
        rwa [hown] at hunset
      have hselected : selectedUrl name env = some own := by
        rw [selectedUrl, hown, Option.filter_some, if_pos (decide_eq_true hne), Option.some_or]
      rw [hselected]
      constructor
      · rintro ⟨⟩
        exact ⟨hne, Or.inl rfl⟩
      · rintro ⟨-, hvalue | ⟨hempty, -⟩⟩
        · exact hvalue
        · exact absurd hempty hne

/-- **A profile runs on its own database only** exactly when `DATABASE_URL` is no PostgreSQL URL
while its own variable is unset or empty, and the PostgreSQL URL in its own variable is one that it
approves. -/
theorem runsOnOwn_iff (profile : EnvironmentProfile) (env : String → Option String) :
    RunsOnOwn profile env ↔
      ((env profile.dbUrlEnv).getD "" = "" →
        ∀ value parts, env "DATABASE_URL" = some value → ¬ PostgresUrl value parts) ∧
      ∀ value parts, env profile.dbUrlEnv = some value → PostgresUrl value parts →
        MatchesProfile profile parts := by
  have hresolves {value : String} {parts : SplitResult}
      (hselected : selectedUrl profile.dbUrlEnv env = some value) (h : PostgresUrl value parts) :=
    resolveRuntime_eq_ok_iff.mpr ⟨value, parts, hselected, h, rfl, rfl⟩
  constructor
  · intro hown
    constructor
    · intro hunset value parts hfallback h
      have hselected := selectedUrl_eq_some_iff.mpr ⟨h.ne_empty, Or.inr ⟨hunset, hfallback⟩⟩
      obtain ⟨hruntime, hurl⟩ := hresolves hselected h
      obtain ⟨own, other, hvalue, -, hother, -⟩ := hown _ _ hruntime hurl
      rw [hvalue] at hunset
      exact hother.ne_empty hunset
    · intro value parts hvalue h
      have hselected := selectedUrl_eq_some_iff.mpr ⟨h.ne_empty, Or.inl hvalue⟩
      obtain ⟨hruntime, hurl⟩ := hresolves hselected h
      obtain ⟨own, other, hother, -, hparts, hmatches⟩ := hown _ _ hruntime hurl
      cases hvalue.symm.trans hother
      cases h.1.symm.trans hparts.1
      exact hmatches
  · rintro ⟨hfallback, hmatches⟩ runtime url hruntime hurl
    obtain ⟨value, parts, hselected, h, rfl, -⟩ := resolveRuntime_eq_ok_iff.mp ⟨hruntime, hurl⟩
    rcases (selectedUrl_eq_some_iff.mp hselected).2 with hvalue | ⟨hunset, hvalue⟩
    · exact ⟨value, parts, hvalue, rfl, h, hmatches value parts hvalue h⟩
    · exact absurd h (hfallback hunset value parts hvalue)

end Preflight

/-- A loopback profile with a variable of its own. -/
def loopbackProfile : EnvironmentProfile where
  profileId := "lab-test-pg"
  label := "lab"
  environment := "test"
  loopbackOnly := true
  dbUrlEnv := "LAB_TEST_PG_URL"
  dbHost := none
  dbPort := none
  dbName := none
  isolationPolicy := "transaction-rollback"
  artifactRoot := "artifacts/user-simulator"
  modelProvider := none
  modelName := none
  requiredVariables := []
  valid := by decide +kernel

/-- An environment with `DATABASE_URL` only. -/
def productionEnvironment (name : String) : Option String :=
  if name = "DATABASE_URL" then some "postgresql://db.internal/production" else none

section Examples

attribute [local instance] asciiTables plainUrls

/-- A loopback profile runs on the database of `DATABASE_URL`. -/
theorem not_runsOnOwn_production : ¬ RunsOnOwn loopbackProfile productionEnvironment := by
  intro h
  have hparts : urlsplit (withoutDriver "postgresql://db.internal/production") =
      .ok ⟨"postgresql", "db.internal", "/production", "", ""⟩ := rfl
  have hselected : selectedUrl loopbackProfile.dbUrlEnv productionEnvironment =
      some "postgresql://db.internal/production" := rfl
  obtain ⟨hresolved, hurl⟩ := resolveRuntime_eq_ok_iff.mpr
    ⟨_, _, hselected, ⟨hparts, List.mem_cons_self⟩, rfl, rfl⟩
  obtain ⟨value, parts, hvalue, -⟩ := h _ _ hresolved hurl
  cases hvalue

end Examples

end ObservabilityLab.UserSimulator
