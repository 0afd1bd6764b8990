import ObservabilityLab.Evidence.Schemas
import ObservabilityLab.Support.Schemas
import ObservabilityLab.Versioning.JsonColumn

/-!
# Traces as JSON

One normalized trace with the fields that an import reads. The events and the other fields are kept
as they are dumped. A trace is stored as its dump, and read back by its schema, which reads the
fields of floats as floats.

## Main definitions

* `TraceDocument`: a trace, with the checks that its schema made
* `TraceDocument.dump`, `TraceDocument.ofJson`: the dump, and the schema as a parser
* `TraceDocument.floats`: the floats of a trace, with the paths that they stand at
* `setItem`: the assignment of one key

## Main results

* `TraceDocument.ofJson_payload`: what the schema reads of a dump whose events and other fields were
  replaced
* `TraceDocument.setItem_dump`: a dump with another evidence identifier
-/

namespace ObservabilityLab

open Python

/-! ## The schema -/

inductive TraceOutcome where
  | completed | blocked | escalated | failed
deriving DecidableEq

def TraceOutcome.value : TraceOutcome → String
  | completed => "completed"
  | blocked => "blocked"
  | escalated => "escalated"
  | failed => "failed"

/-- `TraceOutcome(text)`, when the text is a value. -/
def TraceOutcome.ofValue (text : String) : Option TraceOutcome :=
  [completed, blocked, escalated, failed].find? (·.value = text)

theorem TraceOutcome.ofValue_value (outcome : TraceOutcome) : ofValue outcome.value = outcome := by
  cases outcome <;> decide +kernel

/-- The bounds of the fields of a `TraceSourceRef`. -/
def TraceSourceRef.isValid (source : TraceSourceRef) : Bool :=
  lengthWithin 1 50 source.platform && optionWithin 200 source.project &&
    lengthWithin 1 200 source.traceId && optionWithin 200 source.runId &&
    optionWithin 2000 source.url

/-- The keys of the fields that an import reads. -/
def documentKeys : List String :=
  ["schema_version", "evidence_id", "source", "scenario_id", "workflow_version", "outcome",
    "reason_code", "events", "content_hash"]

/-- The keys of the other fields. -/
def otherKeys : List String :=
  ["workflow", "environment", "model", "task_input", "task_output", "tokens", "timing",
    "retry_count", "dependency_calls", "policy_decisions", "confirmation", "redaction"]

/-- The fields of floats, by the keys that lead to them. -/
def floatFields : List (List String) :=
  [["events", "duration_ms"], ["tokens", "cost_usd"], ["timing", "total_latency_ms"],
    ["timing", "model_latency_ms"], ["timing", "db_latency_ms"],
    ["timing", "retrieval_latency_ms"], ["dependency_calls", "duration_ms"]]

/-- The events as the schema reads them. -/
def readEvents (events : List PyValue) : List PyValue :=
  PyValue.readFloatsList floatFields ["events"] events

/-- The other fields as the schema reads them. -/
def readOthers (others : Record) : Record := PyValue.readFloatsEntries floatFields [] others

/-- Only the keys of the other fields are checked. -/
theorem all_otherKeys_congr {first second : Record} (h : first.map (·.1) = second.map (·.1)) :
    (first.all fun entry => entry.1 ∈ otherKeys) =
      second.all fun entry => entry.1 ∈ otherKeys := by
  simpa only [List.all_map, Function.comp_def] using
    congrArg (fun keys => keys.all fun key => key ∈ otherKeys) h

theorem all_readOthers (others : Record) :
    ((readOthers others).all fun entry => entry.1 ∈ otherKeys) =
      others.all fun entry => entry.1 ∈ otherKeys :=
  all_otherKeys_congr (PyValue.map_fst_readFloatsEntries ..)

section Fields

variable [UnicodeTables]

/-- The constraints of the fields that an import reads. -/
def validFields (schemaVersion : String) (source : TraceSourceRef)
    (scenarioId workflowVersion : Option String) (reasonCode : String) : Bool :=
  matchesVersion schemaVersion && source.isValid &&
    scenarioId.all (matchesHead (fun c => isLower c || isAsciiDigit c)
      fun c => isLower c || isAsciiDigit c || c = '-') &&
    optionWithin 50 workflowVersion &&
    matchesHead isLower (fun c => isLower c || isAsciiDigit c || c = '_') reasonCode

/-- A trace; the events and the other fields are as they are dumped. -/
structure TraceDocument where
  schemaVersion : String
  evidenceId : Uuid
  source : TraceSourceRef
  scenarioId : Option String
  workflowVersion : Option String
  outcome : TraceOutcome
  reasonCode : String
  events : List PyValue
  others : Record
  contentHash : Option HexDigest
  valid : validFields schemaVersion source scenarioId workflowVersion reasonCode = true
  known : (others.all fun entry => entry.1 ∈ otherKeys) = true
  typedEvents : readEvents events = events
  typedOthers : readOthers others = others

end Fields

/-! ## The dump -/

/-- `record[key] = value` -/
def setItem (record : Record) (key : String) (value : PyValue) : Record :=
  if record.any (·.1 = key) then
    record.map fun entry => if entry.1 = key then (key, value) else entry
  else record ++ [(key, value)]

namespace TraceDocument

variable [UnicodeTables] (document : TraceDocument)

/-- The trace as its content hash reads it, without the stored hash. -/
def evidence : TraceEvidence where
  source := document.source
  scenarioId := document.scenarioId
  fields :=
    [("schema_version", .str document.schemaVersion),
      ("evidence_id", .str document.evidenceId.str),
      ("workflow_version", .ofOption document.workflowVersion),
      ("outcome", .str document.outcome.value),
      ("reason_code", .str document.reasonCode),
      ("events", .list document.events)] ++ document.others

/-- The floats of the trace, with the paths that they stand at. -/
def floats : List (List String × PyFloat) :=
  PyValue.floatsAtList ["events"] document.events ++ PyValue.floatsAtEntries [] document.others

/-- `model_dump(mode="json")` -/
def dump : Record :=
  ("content_hash", .ofOption (document.contentHash.map (·.text))) ::
    ("source", document.source.dump) :: ("scenario_id", .ofOption document.scenarioId) ::
    document.evidence.fields

end TraceDocument

/-! ## The schema as a parser -/

/-- The value of a key, or its default. -/
def fieldOf (record : Record) (key : String) (default : PyValue) : PyValue :=
  (record.lookup key).getD default

def readText : PyValue → Option String
  | .str s => some s
  | _ => none

def readUuid : PyValue → Option Uuid
  | .str s => Uuid.read s
  | .uuid u => some u
  | _ => none

def readDigest : PyValue → Option HexDigest
  | .str s => if h : isHexDigest s = true then some ⟨s, h⟩ else none
  | _ => none

def readList : PyValue → Option (List PyValue)
  | .list xs => some xs
  | _ => none

/-- A field that may be `None`. -/
def readOptional {α : Type} (read : PyValue → Option α) : PyValue → Option (Option α)
  | .none => some none
  | v => (read v).map some

/-- One field of a trace, by its key. -/
def readField {α : Type} (record : Record) (key : String) (default : PyValue)
    (read : PyValue → Option α) : Raises α :=
  match read (fieldOf record key default) with
  | some a => .ok a
  | none => .error (.validation "TraceEvidence" key)

/-- `TraceSourceRef.model_validate` -/
def TraceSourceRef.ofJson : PyValue → Option TraceSourceRef
  | .dict entries => do
    guard (entries.all fun entry => entry.1 ∈ ["platform", "project", "trace_id", "run_id", "url"])
    let platform ← readText (fieldOf entries "platform" .none)
    let project ← readOptional readText (fieldOf entries "project" .none)
    let traceId ← readText (fieldOf entries "trace_id" .none)
    let runId ← readOptional readText (fieldOf entries "run_id" .none)
    let url ← readOptional readText (fieldOf entries "url" .none)
    let source : TraceSourceRef := ⟨platform, project, traceId, runId, url⟩
    guard source.isValid
    return source
  | _ => none

/-- `TraceEvidence.model_validate`, on the fields that an import reads. -/
def TraceDocument.ofJson [UnicodeTables] (record : Record) : Raises TraceDocument := do
  raiseIf (!record.all fun entry => entry.1 ∈ documentKeys ++ otherKeys)
    (.validation "TraceEvidence" "extra_forbidden")
  let schemaVersion ← readField record "schema_version" (.str "3.0.0") readText
  let evidenceId ← readField record "evidence_id" .none readUuid
  let source ← readField record "source" .none TraceSourceRef.ofJson
  let scenarioId ← readField record "scenario_id" .none (readOptional readText)
  let workflowVersion ← readField record "workflow_version" .none (readOptional readText)
  let outcome ← readField record "outcome" .none fun v => (readText v).bind TraceOutcome.ofValue
  let reasonCode ← readField record "reason_code" .none readText
  let events ← readField record "events" .none readList
  let contentHash ← readField record "content_hash" .none (readOptional readDigest)
  raiseIf events.isEmpty (.validation "TraceEvidence" "events")
  if hvalid : validFields schemaVersion source scenarioId workflowVersion reasonCode = true then
    .ok
      { schemaVersion, evidenceId, source, scenarioId, workflowVersion, outcome, reasonCode
        events := readEvents events
        others := readOthers (record.filter fun entry => entry.1 ∈ otherKeys)
        contentHash := contentHash
        valid := hvalid
        known := (all_readOthers _).trans
          (List.all_eq_true.mpr fun _ hentry => (List.mem_filter.mp hentry).2)
        typedEvents := PyValue.readFloatsList_idem ..
        typedOthers := PyValue.readFloatsEntries_idem .. }
  else .error (.validation "TraceEvidence" "constraints")

/-! ## What is dumped is read back -/

@[simp] theorem readOptional_ofOption (s : Option String) :
    readOptional readText (.ofOption s) = some s := by
  cases s <;> rfl

theorem readOptional_digest (hash : Option HexDigest) :
    readOptional readDigest (.ofOption (hash.map (·.text))) = some hash := by
  cases hash with
  | none => rfl
  | some digest =>
    change (readDigest (.str digest.text)).map some = some (some digest)
    rw [readDigest, dif_pos digest.wellFormed]
    rfl

/-- The bounds of a source were checked when it was built. -/
theorem TraceSourceRef.ofJson_dump {source : TraceSourceRef} (h : source.isValid = true) :
    TraceSourceRef.ofJson source.dump = some source := by
  obtain ⟨platform, project, traceId, runId, url⟩ := source
  change (do
    let project' ← readOptional readText (.ofOption project)
    let runId' ← readOptional readText (.ofOption runId)
    let url' ← readOptional readText (.ofOption url)
    let source : TraceSourceRef := ⟨platform, project', traceId, runId', url'⟩
    guard source.isValid
    return source) = _
  simp [h]

namespace TraceDocument

variable [UnicodeTables] (document : TraceDocument)

omit [UnicodeTables] in
theorem not_mem_otherKeys : ∀ key ∈ documentKeys, key ∉ otherKeys := by decide +kernel

/-- The fields that an import reads, as they are dumped, with other events. -/
def head (events : List PyValue) : Record :=
  [("content_hash", .ofOption (document.contentHash.map (·.text))),
    ("source", document.source.dump), ("scenario_id", .ofOption document.scenarioId),
    ("schema_version", .str document.schemaVersion),
    ("evidence_id", .str document.evidenceId.str),
    ("workflow_version", .ofOption document.workflowVersion),
    ("outcome", .str document.outcome.value), ("reason_code", .str document.reasonCode),
    ("events", .list events)]

theorem dump_eq : document.dump = document.head document.events ++ document.others := rfl

variable {events : List PyValue} {others : Record}

theorem key_of_mem_head {entry : String × PyValue} (h : entry ∈ document.head events) :
    entry.1 ∈ documentKeys := by
  have hkeys : (document.head events).map (·.1) ⊆ documentKeys := by
    change ["content_hash", "source", "scenario_id", "schema_version", "evidence_id",
      "workflow_version", "outcome", "reason_code", "events"] ⊆ documentKeys
    decide +kernel
  exact hkeys (List.mem_map_of_mem h)

theorem key_of_mem_others {entry : String × PyValue} (h : entry ∈ document.others) :
    entry.1 ∈ otherKeys :=
  of_decide_eq_true (List.all_eq_true.mp document.known entry h)

theorem filter_payload (hknown : (others.all fun entry => entry.1 ∈ otherKeys) = true) :
    ((document.head events ++ others).filter fun entry => entry.1 ∈ otherKeys) = others := by
  have hhead : ((document.head events).filter fun entry => entry.1 ∈ otherKeys) = [] := by
    refine List.filter_eq_nil_iff.mpr fun entry hentry => ?_
    rw [decide_eq_true_eq]
    exact not_mem_otherKeys _ (document.key_of_mem_head hentry)
  rw [List.filter_append, hhead, List.nil_append, List.filter_eq_self]
  exact List.all_eq_true.mp hknown

theorem known_payload (hknown : (others.all fun entry => entry.1 ∈ otherKeys) = true) :
    ((document.head events ++ others).all
      fun entry => entry.1 ∈ documentKeys ++ otherKeys) = true := by
  rw [List.all_eq_true]
  intro entry hentry
  rw [decide_eq_true_eq, List.mem_append]
  rcases List.mem_append.mp hentry with hhead | hother
  · exact Or.inl (document.key_of_mem_head hhead)
  · exact Or.inr (of_decide_eq_true (List.all_eq_true.mp hknown entry hother))

/-- A field that an import reads is read back. -/
theorem readField_payload {α : Type} {key : String} (default : PyValue)
    {read : PyValue → Option α} {value : PyValue} {a : α}
    (hvalue : (document.head events).lookup key = some value) (hread : read value = some a) :
    readField (document.head events ++ others) key default read = .ok a := by
  rw [readField, fieldOf, List.lookup_append, hvalue]
  simp only [Option.some_or, Option.getD_some, hread]

/-- **What the schema reads** of the dump of a trace with other events and other fields. -/
theorem ofJson_payload (hevents : events ≠ [])
    (hknown : (others.all fun entry => entry.1 ∈ otherKeys) = true) :
    ofJson (document.head events ++ others) = .ok { document with
      events := readEvents events
      others := readOthers others
      known := (all_readOthers others).trans hknown
      typedEvents := PyValue.readFloatsList_idem ..
      typedOthers := PyValue.readFloatsEntries_idem .. } := by
  have hvalid := document.valid
  simp only [validFields, Bool.and_eq_true] at hvalid
  -- each field of the schema is read back from where the dump wrote it
  have hversion : readField (document.head events ++ others) "schema_version" (.str "3.0.0")
      readText = .ok document.schemaVersion := readField_payload document _ rfl rfl
  have hid : readField (document.head events ++ others) "evidence_id" .none readUuid =
      .ok document.evidenceId :=
    readField_payload document _ rfl (Uuid.read_str document.evidenceId)
  have hsource : readField (document.head events ++ others) "source" .none
      TraceSourceRef.ofJson = .ok document.source :=
    readField_payload document _ rfl (TraceSourceRef.ofJson_dump hvalid.1.1.1.2)
  have hscenario : readField (document.head events ++ others) "scenario_id" .none
      (readOptional readText) = .ok document.scenarioId :=
    readField_payload document _ rfl (readOptional_ofOption _)
  have hworkflow : readField (document.head events ++ others) "workflow_version" .none
      (readOptional readText) = .ok document.workflowVersion :=
    readField_payload document _ rfl (readOptional_ofOption _)
  have houtcome : readField (document.head events ++ others) "outcome" .none
      (fun v => (readText v).bind TraceOutcome.ofValue) = .ok document.outcome :=
    readField_payload document _ rfl (TraceOutcome.ofValue_value document.outcome)
  have hreason : readField (document.head events ++ others) "reason_code" .none readText =
      .ok document.reasonCode := readField_payload document _ rfl rfl
  have hlist : readField (document.head events ++ others) "events" .none readList =
      .ok events := readField_payload document _ rfl rfl
  have hdigest : readField (document.head events ++ others) "content_hash" .none
      (readOptional readDigest) = .ok document.contentHash :=
    readField_payload document _ rfl (readOptional_digest _)
  have hempty : events.isEmpty = false := List.isEmpty_eq_false_iff.mpr hevents
  simp only [ofJson, document.known_payload hknown, hversion, hid, hsource, hscenario, hworkflow,
    houtcome, hreason, hlist, hdigest, hempty, raiseIf, bind, Except.bind, Bool.not_true,
    Bool.false_eq_true, if_false, document.filter_payload hknown, dif_pos document.valid]

/-- A dump with another evidence identifier. -/
theorem setItem_dump (id : Uuid) :
    setItem document.dump "evidence_id" (.str id.str) =
      { document with evidenceId := id : TraceDocument }.dump := by
  have hothers : (document.others.map fun entry =>
      if entry.1 = "evidence_id" then ("evidence_id", .str id.str) else entry) =
        document.others := by
    refine (List.map_congr_left fun entry hentry => ?_).trans (List.map_id' _)
    refine if_neg fun hkey => ?_
    refine not_mem_otherKeys "evidence_id" (by decide +kernel) ?_
    rw [← hkey]
    exact document.key_of_mem_others hentry
  rw [setItem, if_pos, dump_eq, List.map_append, hothers]
  · rfl
  · rfl

end TraceDocument

end ObservabilityLab
