import ObservabilityLab.Evidence.Mapping

/-!
# The LangSmith source

The records of LangSmith as runs, and the fetch of one trace or of a bounded cohort. The client is
a parameter: its calls return records or raise. A cohort skips the traces that do not map, and turns
whatever else is raised into a typed error.

## Main definitions

* `flattenRunTree`, `sourceRunFromLangsmith`: the records of a tree, and one record as a run
* `evidenceForTree`: the trace of a tree
* `evidenceMatchesQuery`: the filters of a cohort
* `fetchTrace`, `fetchTraces`: one trace, and a cohort
-/

namespace ObservabilityLab

open Python

/-! ## Errors -/

def traceSourceUnavailable : PyError :=
  .domain "trace_source_unavailable" "The trace source is unavailable" 503

def traceNotFound : PyError :=
  .domain "trace_not_found" "The requested trace was not found" notFound

def traceAuthenticationError : PyError :=
  .domain "trace_source_authentication_failed"
    "The trace source rejected the configured credentials" 502

def traceRateLimited : PyError :=
  .domain "trace_source_rate_limited" "The trace source rate-limited the request; retry later" 429

/-- What a call to the provider raises: an exception, or the status of a response that failed. -/
inductive ClientError where
  | raised (error : PyError)
  | httpStatus (status : ℕ)
deriving DecidableEq

/-- `isinstance(error, TraceSourceError)` -/
def isSourceError (error : PyError) : Bool :=
  error ∈ [traceSourceUnavailable, traceNotFound, traceAuthenticationError, traceRateLimited]

/-- `translate_client_error(error)` -/
def translateClientError : ClientError → PyError
  | .raised error => if isSourceError error then error else traceSourceUnavailable
  | .httpStatus status =>
    if status = 401 ∨ status = 403 then traceAuthenticationError
    else if status = 404 then traceNotFound
    else if status = 429 then traceRateLimited
    else traceSourceUnavailable

/-! ## Records -/

mutual

/-- The records of a run and of its children, parents first; what is no mapping has none. -/
def flattenValue : PyValue → Raises (List Record)
  | .dict run => do
    let children ← flattenChildren run
    return run :: children
  | _ => .ok []

/-- The records of `run.get("child_runs") or ()`. -/
def flattenChildren : Record → Raises (List Record)
  | [] => .ok []
  | (key, value) :: entries =>
    if key = "child_runs" then
      match value with
      | .list children => flattenList children
      -- the characters of a text and the keys of a mapping are no mappings
      | .str _ => .ok []
      | .dict _ => .ok []
      | value =>
        if value.truthy then
          .error (.other "TypeError" ("'" ++ value.typeName ++ "' object is not iterable"))
        else .ok []
    else flattenChildren entries

def flattenList : List PyValue → Raises (List Record)
  | [] => .ok []
  | child :: children => do
    let first ← flattenValue child
    let others ← flattenList children
    return first ++ others

end

/-- `flatten_run_tree(run)` -/
def flattenRunTree (run : Record) : Raises (List Record) := flattenValue (.dict run)

/-- The entries of a value that is a mapping. -/
def entriesOf : PyValue → Record
  | .dict entries => entries
  | _ => []

/-- The key of an attribute, without the prefixes of LangSmith. -/
def translateKey (key : String) : String :=
  let metadataPrefix := "langsmith.metadata."
  let resourcePrefix := "otel.resource."
  if metadataPrefix.toList.isPrefixOf key.toList then
    String.ofList (key.toList.drop metadataPrefix.length)
  else if resourcePrefix.toList.isPrefixOf key.toList then
    let stripped := String.ofList (key.toList.drop resourcePrefix.length)
    if stripped ∈ traceAttributeAllowlist then stripped else key
  else key

/-- `record.update(entries)` -/
def updateRecord (record entries : Record) : Record :=
  entries.foldl (fun record entry => setItem record entry.1 entry.2) record

/-- `_metadata_of(run)` -/
def metadataOf (run : Record) : Record :=
  let topLevel := entriesOf (fieldOf run "metadata" .none)
  let nested := entriesOf (fieldOf (entriesOf (fieldOf run "extra" .none)) "metadata" .none)
  let metadata := updateRecord (updateRecord [] topLevel) nested
  updateRecord [] (metadata.map fun entry => (translateKey entry.1, entry.2))

/-- A text that is not empty: `str(v) if isinstance(v, str) and v else None`. -/
def nonEmptyText (value : PyValue) : Option String := (readText value).filter (· ≠ "")

/-- A required text: `TraceSourceUnavailable` stands for a missing one. -/
def requiredText (text : Option String) : Raises String :=
  match text with
  | some text => .ok text
  | none => .error traceSourceUnavailable

section Source

variable [DateTimeTexts]

/-- A time of a record. -/
def readTime (text : String) : Raises DateTime :=
  match DateTime.read text with
  | some time => .ok time
  | none => .error traceSourceUnavailable

/-- `source_run_from_langsmith(run)` -/
def sourceRunFromLangsmith (run : Record) : Raises SourceRun := do
  let runId ← requiredText (nonEmptyText (fieldOf run "id" .none))
  let name ← requiredText (nonEmptyText (fieldOf run "name" .none))
  let startText ← requiredText (readText (fieldOf run "start_time" .none))
  let startTime ← readTime startText
  let endTime ← match readText (fieldOf run "end_time" .none) with
    | some endText => some <$> readTime endText
    | none => .ok none
  return {
    runId := runId
    name := name
    parentId := nonEmptyText (fieldOf run "parent_run_id" .none)
    startTime := startTime
    endTime := endTime
    attributes := metadataOf run
    error := nonEmptyText (fieldOf run "error" .none)
    traceId := nonEmptyText (fieldOf run "trace_id" .none) }

/-- The configuration of a source, without its credentials. -/
structure LangSmithConfig where
  project : String
  runBaseUrl : String := "https://smith.langchain.com"
  scenarioId : Option String := none

/-- `quote(text, safe="")` -/
def quote (text : String) : String :=
  String.join (text.toUTF8.toList.map fun byte =>
    let c := Char.ofNat byte.toNat
    if byte.toNat < 128 ∧ (c.isAlphanum ∨ c ∈ ['_', '.', '-', '~']) then c.toString
    else "%" ++ (hexText 2 byte.toNat).toUpper)

/-- `langsmith_run_url(...)` -/
def langsmithRunUrl (config : LangSmithConfig) (traceId runId : String) : String :=
  config.runBaseUrl ++ "/projects/p/" ++ quote config.project ++ "/r/" ++ runId ++ "?trace=" ++
    traceId

/-- The arguments with which a source normalizes the runs of a root. -/
def LangSmithConfig.arguments (config : LangSmithConfig) (root : SourceRun) :
    NormalizeArguments where
  platform := "langsmith"
  project := some config.project
  scenarioId := config.scenarioId
  sourceUrl := some (langsmithRunUrl config
    ((root.traceId.filter (· ≠ "")).getD root.runId) root.runId)

/-- The runs of a tree and the root among them. -/
def runsOfTree (tree : Record) : Raises (List SourceRun × SourceRun) := do
  let records ← flattenRunTree tree
  let runs ← records.mapM sourceRunFromLangsmith
  match runs.find? (·.parentId.isNone) with
  | some root => return (runs, root)
  | none => .error traceSourceUnavailable

variable [UnicodeTables] [NumberTexts] [HashFunctions] [ValidationTexts]

/-- `_evidence_for_tree(tree)` -/
def evidenceForTree (config : LangSmithConfig) (tree : Record) : Raises NormalizedTrace := do
  let (runs, root) ← runsOfTree tree
  normalizeRuns runs (config.arguments root)

/-! ## Cohorts -/

/-- An explicit bounded selection of traces. -/
structure TraceQuery where
  workflow : Option String := none
  environment : Option String := none
  modelName : Option String := none
  configVersion : Option String := none
  since : Option DateTime := none
  until_ : Option DateTime := none
  limit : ℕ := 1
  limitPositive : 1 ≤ limit
  limitBounded : limit ≤ 50

/-- `TraceQuery()` -/
instance : Inhabited TraceQuery := ⟨{ limitPositive := le_rfl, limitBounded := by decide }⟩

/-- A filter of a query, which admits every value when it is absent. -/
def admits (wanted recorded : Option String) : Bool := wanted.all fun text => recorded = some text

/-- `evidence_matches_query(evidence, query)` -/
def evidenceMatchesQuery (trace : NormalizedTrace) (query : TraceQuery) : Raises Bool :=
  if admits query.workflow trace.workflow && admits query.environment trace.environment &&
      admits query.modelName (trace.model.bind (·.name)) &&
      admits query.configVersion trace.workflowVersion then
    match trace.events.find? (·.parentId.isNone) with
    | none => .ok true
    | some root => do
      let tooEarly ← match query.since with
        | some since => isBefore root.startTime since
        | none => .ok false
      if tooEarly then return false
      let tooLate ← match query.until_ with
        | some until_ => isBefore until_ root.startTime
        | none => .ok false
      return !tooLate
  else .ok false

/-- The calls of a client. -/
structure RunClient where
  fetchRunTree : String → Except ClientError Record
  queryRootRuns : TraceQuery → Except ClientError (List Record)

/-- The identifier under which the tree of a root is fetched, or `none` for a record that is
passed over. -/
def rootId (root : Record) : Option String :=
  match fieldOf root "parent_run_id" .none with
  | .none => readText (fieldOf root "id" .none)
  | _ => none

section Fetch

variable (config : LangSmithConfig) (fetch : String → Except ClientError Record)

/-- What one root adds to a cohort: a matching trace, or `none` when it is skipped. -/
def cohortMember (query : TraceQuery) (root : Record) :
    Except ClientError (Option NormalizedTrace) :=
  match rootId root with
  | none => .ok none
  | some traceId => do
    let tree ← fetch traceId
    match evidenceForTree config tree with
    | .error error => if isMappingError error then .ok none else .error (.raised error)
    | .ok trace =>
      match evidenceMatchesQuery trace query with
      | .error error => .error (.raised error)
      | .ok isMatch => .ok (if isMatch then some trace else none)

/-- The loop over the roots, which ends when the cohort has reached its limit. -/
def collectCohort (query : TraceQuery) (evidence : List NormalizedTrace) :
    List Record → Except ClientError (List NormalizedTrace)
  | [] => .ok evidence
  | root :: roots => do
    match ← cohortMember config fetch query root with
    | none => collectCohort query evidence roots
    | some trace =>
      if query.limit ≤ evidence.length + 1 then return evidence ++ [trace]
      else collectCohort query (evidence ++ [trace]) roots

end Fetch

variable (config : LangSmithConfig) (client : RunClient)

/-- `fetch_trace(source_trace_id)` -/
def fetchTrace (traceId : String) : Raises NormalizedTrace :=
  match client.fetchRunTree traceId with
  | .error error => .error (translateClientError error)
  | .ok tree => evidenceForTree config tree

/-- `fetch_traces(query)` -/
def fetchTraces (query : TraceQuery) : Raises (List NormalizedTrace) :=
  match client.queryRootRuns query >>= collectCohort config client.fetchRunTree query [] with
  | .error error => .error (translateClientError error)
  | .ok evidence => .ok (evidence.take query.limit)

end Source

end ObservabilityLab
