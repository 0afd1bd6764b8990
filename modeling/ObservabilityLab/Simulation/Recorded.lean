import ObservabilityLab.Bundle.Allowlist
import ObservabilityLab.Evidence.Document
import ObservabilityLab.Python.Json
import ObservabilityLab.Simulation.Stateful

/-!
# Recorded reads

An adapter that replays captured responses. The captured table is keyed by the JSON text of the
arguments as it was captured; a call looks its arguments up by their canonical text. A captured
entry replays only when its text is canonical.

## Main definitions

* `sanitizeCapturedData`: the checks of a captured table
* `RecordedReadAdapter`: its table and how many responses of each script were used
* `argumentsKey`: the text by which a call looks its arguments up
* `scalarObject`, `canonicalKey`: texts of objects of scalars, and canonical texts
* `ReplaysCaptured`: every captured entry is reachable, and the scripts replay in order

## Main results

* `canonicalKey_iff`: the canonical texts are the texts of arguments
* `replays_run`: every interleaving of calls replays every script in order
* `replaysCaptured_iff`: when everything that the sanitizer accepts can be replayed
-/

namespace ObservabilityLab

open Python

/-! ## Sanitizing -/

/-- `InvalidSimulationFixture(detail=detail)` -/
def invalidSimulationFixture (detail : String) : PyError :=
  .domain "invalid_simulation_fixture" ("Captured fixture data failed sanitization: " ++ detail)
    unprocessableEntity

/-- One approved response. -/
structure RecordedResponse where
  payload : PyValue := .none
  errorCode : Option String := none
  malformed : Bool := false

/-- The scripts of each tool, by the captured text of the arguments. -/
abbrev RecordedTable := List (String × List (String × List RecordedResponse))

section Sanitizer

variable [UnicodeTables]

mutual

/-- `_contains_sensitive_key(value)` -/
def containsSensitiveKey : PyValue → Bool
  | .dict entries => entriesContainSensitiveKey entries
  | .list values => valuesContainSensitiveKey values
  | _ => false

def entriesContainSensitiveKey : List (String × PyValue) → Bool
  | [] => false
  | (key, nested) :: entries =>
    isSensitiveKey key || containsSensitiveKey nested || entriesContainSensitiveKey entries

def valuesContainSensitiveKey : List PyValue → Bool
  | [] => false
  | nested :: values => containsSensitiveKey nested || valuesContainSensitiveKey values

end

/-- `InvalidSimulationFixture` of a tool. -/
def toolFixtureError (tool problem : String) : PyError :=
  invalidSimulationFixture ("tool " ++ reprText tool ++ " " ++ problem)

/-- The error code of a captured response. -/
def parseErrorCode (tool : String) : PyValue → Raises (Option String)
  | .none => .ok none
  | .str code => .ok (some code)
  | _ => .error (toolFixtureError tool "has a non-string error code")

/-- The malformed flag of a captured response. -/
def parseMalformed (tool : String) : PyValue → Raises Bool
  | .bool malformed => .ok malformed
  | _ => .error (toolFixtureError tool "has a non-boolean malformed flag")

/-- One captured response. -/
def parseResponse (tool : String) : PyValue → Raises RecordedResponse
  | .dict entry => do
    let payload := fieldOf entry "payload" .none
    raiseIf (!payload.isJson) (toolFixtureError tool "has a non-JSON payload")
    raiseIf (containsSensitiveKey payload) (toolFixtureError tool "records a sensitive payload key")
    let errorCode ← parseErrorCode tool (fieldOf entry "error_code" .none)
    let malformed ← parseMalformed tool (fieldOf entry "malformed" (.bool false))
    return { payload, errorCode, malformed }
  | _ => .error (toolFixtureError tool "has a non-object recorded response")

/-- The check of an arguments key. The values of its object are not looked at. -/
def checkArgumentsKey (tool key : String) : Raises Unit :=
  match jsonLoads key with
  | none => .error (toolFixtureError tool "has an unparseable arguments key")
  | some (.object _) => .ok ()
  | some _ => .error (toolFixtureError tool "has a non-object arguments key")

/-- `raw if isinstance(raw, list) else [raw]` -/
def responsesOf : PyValue → List PyValue
  | .list responses => responses
  | raw => [raw]

/-- One entry of the table of a tool. -/
def parseEntry (tool : String) (entry : String × PyValue) :
    Raises (String × List RecordedResponse) := do
  checkArgumentsKey tool entry.1
  let parsed ← (responsesOf entry.2).mapM (parseResponse tool)
  return (entry.1, parsed)

/-- The table of one tool. -/
def parseTool (supportedTools : List String) (entry : String × PyValue) :
    Raises (String × List (String × List RecordedResponse)) := do
  raiseIf (entry.1 ∉ supportedTools)
    (toolFixtureError entry.1 "is not offered by this adapter")
  match entry.2 with
  | .dict entries => do
    let table ← entries.mapM (parseEntry entry.1)
    return (entry.1, table)
  | _ => .error (toolFixtureError entry.1 "has no argument table")

/-- `sanitize_captured_data(captured, supported_tools=...)` -/
def sanitizeCapturedData (captured : Record) (supportedTools : List String) :
    Raises RecordedTable :=
  captured.mapM (parseTool supportedTools)

end Sanitizer

/-! ## The adapter -/

/-- The text by which a call looks its arguments up: `normalize_arguments(arguments)`. -/
def argumentsKey [FloatRepr] (arguments : Record) : Option String :=
  (normalizeArguments arguments).map dumpsMapping

/-- The fields of an adapter. -/
structure RecordedReadAdapter where
  dependencyName : String
  supportedToolNames : List String
  table : RecordedTable := []
  /-- How many responses of the script of a tool and an arguments key were used. -/
  consumed : String → String → ℕ := fun _ _ => 0

/-- The result that a recorded response stands for. -/
def RecordedResponse.result (response : RecordedResponse) : DependencyCallResult :=
  if response.malformed then refusedCall "malformed_response"
  else
    match response.errorCode with
    | some code => refusedCall code
    | none => { ok := true, payload := response.payload }

/-- One operation on an adapter; `seed` does nothing. -/
inductive RecordedOperation where
  | sanitize (captured : Record)
  | seed
  | reset
  | call (tool : String) (arguments : Record)

namespace RecordedReadAdapter

variable [UnicodeTables] [FloatRepr] (adapter : RecordedReadAdapter)

omit [UnicodeTables] [FloatRepr] in
/-- `self._table.get(tool_name, {}).get(arguments_key)`, empty when there is none -/
def script (tool key : String) : List RecordedResponse :=
  (((adapter.table.lookup tool).getD []).lookup key).getD []

omit [UnicodeTables] [FloatRepr] in
/-- The response of a script at a position, the last one repeating. -/
def responseAt (script : List RecordedResponse) (position : ℕ) : Option RecordedResponse :=
  script[min position (script.length - 1)]?

omit [UnicodeTables] [FloatRepr] in
/-- `self._consumed[(tool_name, arguments_key)] = position + 1` -/
def consume (tool key : String) : RecordedReadAdapter :=
  { adapter with
    consumed := fun tool' key' =>
      if tool' = tool ∧ key' = key then adapter.consumed tool key + 1
      else adapter.consumed tool' key' }

/-- `call(tool_name, arguments)` -/
def call (tool : String) (arguments : Record) :
    Raises DependencyCallResult × RecordedReadAdapter :=
  let unsupported := unsupportedArguments adapter.dependencyName tool arguments
  if tool ∉ adapter.supportedToolNames then
    (.error (unsupportedTool adapter.dependencyName tool), adapter)
  else
    match argumentsKey arguments with
    | none => (.error unsupported, adapter)
    | some key =>
      match responseAt (adapter.script tool key) (adapter.consumed tool key) with
      | none => (.error unsupported, adapter)
      | some response => (.ok response.result, adapter.consume tool key)

/-- The adapter after one operation. -/
def perform : RecordedOperation → RecordedReadAdapter
  | .sanitize captured =>
    match sanitizeCapturedData captured adapter.supportedToolNames with
    | .ok table => { adapter with table := table, consumed := fun _ _ => 0 }
    | .error _ => adapter
  | .seed => adapter
  | .reset => { adapter with consumed := fun _ _ => 0 }
  | .call tool arguments => (adapter.call tool arguments).2

/-- The adapter after a sequence of operations. -/
def run (operations : List RecordedOperation) : RecordedReadAdapter :=
  operations.foldl perform adapter

end RecordedReadAdapter

/-! ## Canonical texts -/

/-- A value that is neither an array nor an object. -/
def isJsonScalar : JsonValue → Bool
  | .array _ | .object _ => false
  | _ => true

/-- Whether a text is an object of scalars. -/
def scalarObject (key : String) : Bool :=
  match jsonLoads key with
  | some (.object entries) => entries.all fun entry => isJsonScalar entry.2
  | _ => false

/-- A character of a decoded text; a lone surrogate is none. -/
def charOf (code : ℕ) : Option Char :=
  if code.isValidChar then some (Char.ofNat code) else none

def textOf (codes : List ℕ) : Option String := (codes.mapM charOf).map String.ofList

/-- A decoded member whose value is a text. -/
def textMember (entry : List ℕ × JsonValue) : Option (String × String) :=
  match entry.2 with
  | .string codes => do
    let name ← textOf entry.1
    let text ← textOf codes
    return (name, text)
  | _ => none

/-- The members of an object of texts. -/
def textMembers (key : String) : Option (List (String × String)) :=
  match jsonLoads key with
  | some (.object entries) => entries.mapM textMember
  | _ => none

/-- Whether a text is what its own members are dumped to, sorted by name. -/
def canonicalKey (key : String) : Bool :=
  match textMembers key with
  | some members =>
    decide (members.map (·.1)).Nodup &&
      dumpsMapping (members.insertionSort fun a b => a.1 ≤ b.1) = key
  | none => false

theorem charOf_toNat (c : Char) : charOf c.toNat = some c := by
  have hvalid : c.toNat.isValidChar := c.valid
  rw [charOf, if_pos hvalid, Char.ofNat_toNat]

theorem textOf_codesOf (s : String) : textOf (codesOf s) = some s := by
  have hchars (cs : List Char) : (cs.map Char.toNat).mapM charOf = some cs := by
    induction cs with
    | nil => rfl
    | cons c cs ih =>
      rw [List.map_cons, List.mapM_cons, charOf_toNat, ih]
      rfl
  rw [textOf, codesOf, hchars, Option.map_some, String.ofList_toList]

theorem mapM_textMember (members : List (String × String)) :
    (members.map decodedMember).mapM textMember = some members := by
  induction members with
  | nil => rfl
  | cons entry members ih =>
    have hentry : textMember (decodedMember entry) = some entry := by
      simp only [textMember, decodedMember, textOf_codesOf, Option.bind_eq_bind, Option.bind_some]
      rfl
    rw [List.map_cons, List.mapM_cons, hentry, ih]
    rfl

section Canonical

variable [FloatRepr] {key : String}

/-- The arguments of some texts. -/
def textArguments (members : List (String × String)) : Record :=
  members.map fun entry => (entry.1, .str entry.2)

theorem normalizeArguments_textArguments (members : List (String × String)) :
    normalizeArguments (textArguments members) =
      some (members.insertionSort fun a b => a.1 ≤ b.1) := by
  have hmembers : ((textArguments members).mapM fun entry =>
      (normalizeScalar entry.2).map fun text => (entry.1, text)) = some members := by
    induction members with
    | nil => rfl
    | cons entry members ih =>
      rw [textArguments] at ih ⊢
      rw [List.map_cons, List.mapM_cons, ih]
      rfl
  rw [normalizeArguments, hmembers, Option.map_some]

theorem keys_of_mapM {arguments : Record} {members : List (String × String)}
    (h : (arguments.mapM fun entry =>
      (normalizeScalar entry.2).map fun text => (entry.1, text)) = some members) :
    members.map (·.1) = arguments.map (·.1) := by
  induction arguments generalizing members with
  | nil =>
    obtain rfl : [] = members := Option.some.inj h
    rfl
  | cons entry arguments ih =>
    rw [List.mapM_cons, Option.bind_eq_bind, Option.bind_eq_some_iff] at h
    obtain ⟨first, hfirst, h⟩ := h
    obtain ⟨rest, hrest, h⟩ := Option.bind_eq_some_iff.mp h
    obtain rfl : first :: rest = members := Option.some.inj h
    obtain ⟨text, -, rfl⟩ := Option.map_eq_some_iff.mp hfirst
    rw [List.map_cons, List.map_cons, ih hrest]

/-- **The canonical texts are the texts of arguments.** -/
theorem canonicalKey_iff : canonicalKey key = true ↔
    ∃ arguments : Record, (arguments.map (·.1)).Nodup ∧ argumentsKey arguments = some key := by
  constructor
  · intro h
    unfold canonicalKey at h
    split at h
    · rename_i members _
      obtain ⟨hnodup, hkey⟩ := (Bool.and_eq_true _ _).mp h
      refine ⟨textArguments members, ?_, ?_⟩
      · have hnames : (textArguments members).map (·.1) = members.map (·.1) := by
          rw [textArguments, List.map_map]
          rfl
        rw [hnames]
        exact of_decide_eq_true hnodup
      · rw [argumentsKey, normalizeArguments_textArguments, Option.map_some, of_decide_eq_true hkey]
    · cases h
  · rintro ⟨arguments, hnodup, h⟩
    obtain ⟨canonical, hcanonical, rfl⟩ := Option.map_eq_some_iff.mp h
    obtain ⟨members, hmembers, rfl⟩ := Option.map_eq_some_iff.mp hcanonical
    -- the members are dumped in order, so sorting what was read back changes nothing
    have hperm := List.perm_insertionSort (fun a b : String × String => a.1 ≤ b.1) members
    have hnames : ((members.insertionSort fun a b => a.1 ≤ b.1).map (·.1)).Nodup := by
      rw [(hperm.map _).nodup_iff, keys_of_mapM hmembers]
      exact hnodup
    have hsorted : (members.insertionSort fun a b => a.1 ≤ b.1).insertionSort
        (fun a b => a.1 ≤ b.1) = members.insertionSort fun a b => a.1 ≤ b.1 :=
      (List.pairwise_insertionSort _ members).insertionSort_eq
    rw [canonicalKey, textMembers, jsonLoads_dumpsMapping hnames]
    simp only [mapM_textMember, hsorted, hnames, decide_true, Bool.and_self]

end Canonical

/-! ## Replay -/

section Replay

variable [UnicodeTables] [FloatRepr] (supported : List String) (tool key : String)

/-- Whether an operation replaces the table. -/
def replacesTable : RecordedOperation → Bool
  | .sanitize captured => (sanitizeCapturedData captured supported).isOk
  | _ => false

/-- Whether an operation starts the scripts again. -/
def restarts (operation : RecordedOperation) : Bool :=
  match operation with
  | .reset => true
  | _ => replacesTable supported operation

/-- Whether an operation is a call of a tool with arguments of a canonical text. -/
def isCallOf : RecordedOperation → Bool
  | .call tool' arguments => tool' = tool && argumentsKey arguments = some key
  | _ => false

/-- How many calls of a tool with arguments of a canonical text were made since the scripts were
last started again. -/
def callsSince (operations : List RecordedOperation) : ℕ :=
  operations.foldl (fun count operation =>
    if restarts supported operation then 0
    else if isCallOf tool key operation then count + 1 else count) 0

namespace RecordedReadAdapter

omit [UnicodeTables] [FloatRepr] in
/-- The response of a script for the call at a position: the last one repeats. -/
theorem responseAt_eq (script : List RecordedResponse) (position : ℕ) :
    responseAt script position = script[position]?.or script.getLast? := by
  rw [responseAt]
  by_cases h : position < script.length
  · rw [min_eq_left (by omega), List.getElem?_eq_getElem h, Option.some_or]
  · have hlast : min position (script.length - 1) = script.length - 1 := min_eq_right (by omega)
    rw [hlast, List.getElem?_eq_none (not_lt.mp h), Option.none_or, List.getLast?_eq_getElem?]

omit [UnicodeTables] [FloatRepr] in
theorem exists_responseAt {script : List RecordedResponse} (h : script ≠ []) (position : ℕ) :
    ∃ response, responseAt script position = some response := by
  have hpositive : 0 < script.length := List.length_pos_iff.mpr h
  exact ⟨_, List.getElem?_eq_getElem (by omega)⟩

variable {supported tool key} {adapter : RecordedReadAdapter} {operation : RecordedOperation}
  {operations : List RecordedOperation} {arguments : Record} {response : RecordedResponse}

/-- A call that finds a response returns it and counts it. -/
theorem call_of_response (htool : tool ∈ adapter.supportedToolNames)
    (hkey : argumentsKey arguments = some key)
    (hresponse : responseAt (adapter.script tool key) (adapter.consumed tool key) = some response) :
    adapter.call tool arguments = (.ok response.result, adapter.consume tool key) := by
  rw [call, if_neg (not_not.mpr htool), hkey]
  simp only [hresponse]

/-- **What a call can do to the adapter**: nothing, or use one response of its own script. -/
theorem call_cases (adapter : RecordedReadAdapter) (tool : String) (arguments : Record) :
    (adapter.call tool arguments).2 = adapter ∨ ∃ key, argumentsKey arguments = some key ∧
      (adapter.call tool arguments).2 = adapter.consume tool key := by
  rw [call]
  by_cases htool : tool ∉ adapter.supportedToolNames
  · rw [if_pos htool]
    exact Or.inl rfl
  · rw [if_neg htool]
    cases hkey : argumentsKey arguments with
    | none => exact Or.inl rfl
    | some key =>
      cases hresponse : responseAt (adapter.script tool key) (adapter.consumed tool key) with
      | none =>
        simp only [hresponse]
        exact Or.inl trivial
      | some response =>
        simp only [hresponse]
        exact Or.inr ⟨key, rfl, rfl⟩

theorem supportedToolNames_perform :
    (adapter.perform operation).supportedToolNames = adapter.supportedToolNames := by
  cases operation with
  | sanitize captured =>
    rw [perform]
    split <;> rfl
  | seed | reset => rfl
  | call tool arguments =>
    rcases call_cases adapter tool arguments with h | ⟨key, -, h⟩ <;> rw [perform, h]
    rfl

theorem table_perform (hkeeps : replacesTable adapter.supportedToolNames operation = false) :
    (adapter.perform operation).table = adapter.table := by
  cases operation with
  | sanitize captured =>
    rw [replacesTable] at hkeeps
    rw [perform]
    cases h : sanitizeCapturedData captured adapter.supportedToolNames with
    | error e => rfl
    | ok table =>
      rw [h] at hkeeps
      cases hkeeps
  | seed | reset => rfl
  | call tool arguments =>
    rcases call_cases adapter tool arguments with h | ⟨key, -, h⟩ <;> rw [perform, h]
    rfl

/-- **What one operation does to the place in a script**: the script starts again, is one response
further, or stays where it was. -/
theorem consumed_perform (hkeeps : replacesTable adapter.supportedToolNames operation = false)
    (htool : tool ∈ adapter.supportedToolNames) (hscript : adapter.script tool key ≠ []) :
    (adapter.perform operation).consumed tool key =
      if restarts adapter.supportedToolNames operation then 0
      else if isCallOf tool key operation then adapter.consumed tool key + 1
      else adapter.consumed tool key := by
  cases operation with
  | sanitize captured =>
    have hstarts : restarts adapter.supportedToolNames (.sanitize captured) = false := hkeeps
    rw [hstarts, perform]
    rw [replacesTable] at hkeeps
    cases h : sanitizeCapturedData captured adapter.supportedToolNames with
    | error e => rfl
    | ok table =>
      rw [h] at hkeeps
      cases hkeeps
  | seed | reset => rfl
  | call tool' arguments =>
    have hstarts : restarts adapter.supportedToolNames (.call tool' arguments) = false := rfl
    have hcallOf : isCallOf tool key (.call tool' arguments) = true ↔
        tool' = tool ∧ argumentsKey arguments = some key := by
      rw [isCallOf, Bool.and_eq_true, decide_eq_true_iff, decide_eq_true_iff]
    simp only [hstarts, if_false, Bool.false_eq_true, hcallOf]
    by_cases hcall : tool' = tool ∧ argumentsKey arguments = some key
    · obtain ⟨rfl, hkey⟩ := hcall
      obtain ⟨response, hresponse⟩ := exists_responseAt hscript (adapter.consumed tool' key)
      rw [if_pos ⟨rfl, hkey⟩, perform, call_of_response htool hkey hresponse]
      exact if_pos ⟨rfl, rfl⟩
    · rw [if_neg hcall, perform]
      rcases call_cases adapter tool' arguments with h | ⟨key', hkey', h⟩ <;> rw [h]
      -- another script was used
      rw [consume]
      apply if_neg
      rintro ⟨rfl, rfl⟩
      exact hcall ⟨rfl, hkey'⟩

/-- **The place in a script is the number of its own calls**, whatever the other calls were. -/
theorem run_of_keeps (tool key : String) (hkeeps : ∀ operation ∈ operations,
    replacesTable adapter.supportedToolNames operation = false) :
    (adapter.run operations).supportedToolNames = adapter.supportedToolNames ∧
      (adapter.run operations).table = adapter.table ∧
      (tool ∈ adapter.supportedToolNames → adapter.script tool key ≠ [] →
        adapter.consumed tool key = 0 → (adapter.run operations).consumed tool key =
          callsSince adapter.supportedToolNames tool key operations) := by
  induction operations using List.reverseRecOn with
  | nil => exact ⟨rfl, rfl, fun _ _ h => h⟩
  | append_singleton operations operation ih =>
    obtain ⟨hnames, htable, hconsumed⟩ := ih fun operation hoperation =>
      hkeeps operation (List.mem_append_left _ hoperation)
    have hlast := hkeeps operation (List.mem_append_right _ (List.mem_singleton_self _))
    have hrun : adapter.run (operations ++ [operation]) =
        (adapter.run operations).perform operation := by
      rw [run, List.foldl_append]
      rfl
    rw [hrun]
    rw [← hnames] at hlast
    refine ⟨?_, ?_, ?_⟩
    · rw [supportedToolNames_perform, hnames]
    · rw [table_perform hlast, htable]
    · intro htool hscript hstart
      have hscript' : (adapter.run operations).script tool key ≠ [] := by
        rw [script, htable]
        exact hscript
      rw [consumed_perform hlast (by rwa [hnames]) hscript', hconsumed htool hscript hstart, hnames,
        callsSince, callsSince, List.foldl_append]
      rfl

/-- **The scripts replay in order**: a call returns the response at its place among the calls with
the same arguments since the last accepted table or reset, and the last response repeats. -/
theorem replays_run (adapter : RecordedReadAdapter) (hkeeps : ∀ operation ∈ operations,
      replacesTable adapter.supportedToolNames operation = false)
    (hstart : adapter.consumed tool key = 0) (htool : tool ∈ adapter.supportedToolNames)
    (hkey : argumentsKey arguments = some key) (hscript : adapter.script tool key ≠ []) :
    ∃ response, responseAt (adapter.script tool key)
        (callsSince adapter.supportedToolNames tool key operations) = some response ∧
      ((adapter.run operations).call tool arguments).1 = .ok response.result := by
  obtain ⟨hnames, htable, hconsumed⟩ := run_of_keeps tool key hkeeps
  obtain ⟨response, hresponse⟩ := exists_responseAt hscript
    (callsSince adapter.supportedToolNames tool key operations)
  have hsame : (adapter.run operations).script tool key = adapter.script tool key := by
    rw [script, htable]
    rfl
  refine ⟨response, hresponse, ?_⟩
  rw [← hconsumed htool hscript hstart, ← hsame] at hresponse
  rw [call_of_response (by rwa [hnames]) hkey hresponse]

end RecordedReadAdapter

/-! ## What the sanitizer accepts -/

/-- An adapter into which an accepted table was just sanitized. -/
def sanitizedAdapter (dependency : String) (supported : List String) (table : RecordedTable) :
    RecordedReadAdapter where
  dependencyName := dependency
  supportedToolNames := supported
  table := table

/-- A captured table replays: every entry with a response is reached by some arguments, exactly the
texts of objects of scalars are accepted as keys, and every sequence of operations replays every
script in order. -/
structure ReplaysCaptured (captured : Record) (supported : List String) (table : RecordedTable) :
    Prop where
  reachable : ∀ tool entries key responses, (tool, entries) ∈ table → (key, responses) ∈ entries →
    responses ≠ [] →
    ∃ arguments : Record, (arguments.map (·.1)).Nodup ∧ argumentsKey arguments = some key
  keys : ∀ tool entries key responses, (tool, entries) ∈ table → (key, responses) ∈ entries →
    scalarObject key = true
  accepts : ∀ tool key, tool ∈ supported → scalarObject key = true →
    sanitizeCapturedData [(tool, .dict [(key, .list [])])] supported = .ok [(tool, [(key, [])])]
  restarted : ∀ before : RecordedReadAdapter, before.supportedToolNames = supported →
    before.perform (.sanitize captured) = sanitizedAdapter before.dependencyName supported table
  replays : ∀ dependency operations tool key arguments,
    (∀ operation ∈ operations, replacesTable supported operation = false) →
    tool ∈ supported → argumentsKey arguments = some key →
    (sanitizedAdapter dependency supported table).script tool key ≠ [] →
    ∃ response,
      ((sanitizedAdapter dependency supported table).script tool key)[
        callsSince supported tool key operations]?.or
        ((sanitizedAdapter dependency supported table).script tool key).getLast? = some response ∧
      (((sanitizedAdapter dependency supported table).run operations).call tool arguments).1 =
        .ok response.result

section Accepted

variable {supported tool key} {captured : Record} {table : RecordedTable}

omit [FloatRepr] in
/-- A table of one tool is accepted with its entries. -/
theorem sanitizeCapturedData_singleton {entries : List (String × PyValue)}
    {rows : List (String × List RecordedResponse)} (htool : tool ∈ supported)
    (h : entries.mapM (parseEntry tool) = .ok rows) :
    sanitizeCapturedData [(tool, .dict entries)] supported = .ok [(tool, rows)] := by
  have hknown : raiseIf (tool ∉ supported)
      (toolFixtureError tool "is not offered by this adapter") = .ok () := by
    rw [raiseIf_eq_ok]
    exact decide_eq_false (not_not.mpr htool)
  rw [sanitizeCapturedData, List.mapM_cons, parseTool, hknown]
  simp only [h]
  rfl

omit [FloatRepr] in
theorem checkArgumentsKey_of_scalarObject (h : scalarObject key = true) :
    checkArgumentsKey tool key = .ok () := by
  unfold scalarObject at h
  split at h
  · rename_i entries hloads
    rw [checkArgumentsKey, hloads]
  · cases h

omit [FloatRepr] in
/-- The text of an object of scalars is accepted as a key. -/
theorem sanitizeCapturedData_of_scalarObject (htool : tool ∈ supported)
    (h : scalarObject key = true) :
    sanitizeCapturedData [(tool, .dict [(key, .list [])])] supported =
      .ok [(tool, [(key, [])])] := by
  have hentry : parseEntry tool (key, .list []) = .ok (key, []) := by
    rw [parseEntry, checkArgumentsKey_of_scalarObject h]
    rfl
  apply sanitizeCapturedData_singleton htool
  rw [List.mapM_cons, hentry]
  rfl

omit [FloatRepr] in
theorem parseEntry_eq_ok {entry : String × PyValue} {parsed : String × List RecordedResponse}
    (h : parseEntry tool entry = .ok parsed) :
    parsed.1 = entry.1 ∧ parsed.2.length = (responsesOf entry.2).length := by
  rw [parseEntry, check_bind_eq_ok, bind_eq_ok] at h
  obtain ⟨-, responses, hresponses, h⟩ := h
  obtain rfl := Except.ok.inj h
  exact ⟨rfl, (forall₂_of_mapM hresponses).length_eq.symm⟩

omit [FloatRepr] in
theorem parseTool_eq_ok {entry : String × PyValue}
    {parsed : String × List (String × List RecordedResponse)}
    (h : parseTool supported entry = .ok parsed) :
    ∃ entries, entry = (parsed.1, .dict entries) ∧
      entries.mapM (parseEntry parsed.1) = .ok parsed.2 := by
  obtain ⟨name, raw⟩ := entry
  rw [parseTool, check_bind_eq_ok] at h
  obtain ⟨-, h⟩ := h
  cases raw with
  | dict entries =>
    obtain ⟨tools, htools, h⟩ := bind_eq_ok.mp h
    obtain rfl := Except.ok.inj h
    exact ⟨entries, rfl, htools⟩
  | _ => cases h

omit [FloatRepr] in
/-- A captured entry has its own in the table, with as many responses, and the other way around. -/
theorem mem_table (h : sanitizeCapturedData captured supported = .ok table) {count : ℕ} :
    (∃ tool entries responses, (tool, entries) ∈ table ∧ (key, responses) ∈ entries ∧
        responses.length = count) ↔
      ∃ tool entries raw, (tool, .dict entries) ∈ captured ∧ (key, raw) ∈ entries ∧
        (responsesOf raw).length = count := by
  constructor
  · rintro ⟨tool, entries, responses, hentries, hresponses, hcount⟩
    obtain ⟨entry, hentry, hparsed⟩ := exists_of_mem_mapM h hentries
    obtain ⟨rawEntries, rfl, hrows⟩ := parseTool_eq_ok hparsed
    obtain ⟨row, hrow, hparsed⟩ := exists_of_mem_mapM hrows hresponses
    obtain ⟨hkey, hlength⟩ := parseEntry_eq_ok hparsed
    obtain ⟨name, raw⟩ := row
    obtain rfl : key = name := hkey
    exact ⟨tool, rawEntries, raw, hentry, hrow, hlength.symm.trans hcount⟩
  · rintro ⟨tool, rawEntries, raw, hentry, hrow, hcount⟩
    obtain ⟨⟨tool', entries⟩, hentries, hparsed⟩ := exists_mem_of_mapM h hentry
    obtain ⟨_, heq, hrows⟩ := parseTool_eq_ok hparsed
    obtain ⟨rfl, hdict⟩ := Prod.mk.inj heq
    obtain rfl := PyValue.dict.inj hdict
    obtain ⟨⟨key', responses⟩, hresponses, hparsed⟩ := exists_mem_of_mapM hrows hrow
    obtain ⟨hkey, hlength⟩ := parseEntry_eq_ok hparsed
    obtain rfl : key' = key := hkey
    exact ⟨tool, entries, responses, hentries, hresponses, hlength.trans hcount⟩

/-- **When everything that the sanitizer accepts can be replayed**: every captured key is the text
of an object of scalars, and every key with a response is canonical already. -/
theorem replaysCaptured_iff (h : sanitizeCapturedData captured supported = .ok table) :
    ReplaysCaptured captured supported table ↔
      ∀ tool entries key raw, (tool, .dict entries) ∈ captured → (key, raw) ∈ entries →
        scalarObject key = true ∧ (responsesOf raw ≠ [] → canonicalKey key = true) := by
  constructor
  · intro hreplays tool entries key raw hentries hraw
    obtain ⟨tool', entries', responses, hentries', hresponses, hcount⟩ :=
      (mem_table h).mpr ⟨tool, entries, raw, hentries, hraw, rfl⟩
    refine ⟨hreplays.keys _ _ _ _ hentries' hresponses, ?_⟩
    intro hnonempty
    apply canonicalKey_iff.mpr
    apply hreplays.reachable _ _ _ _ hentries' hresponses
    rwa [← List.length_pos_iff, hcount, List.length_pos_iff]
  · intro hkeys
    have hkey {tool entries key responses} (hentries : (tool, entries) ∈ table)
        (hresponses : (key, responses) ∈ entries) : scalarObject key = true ∧
          (responses ≠ [] → canonicalKey key = true) := by
      obtain ⟨tool', entries', raw, hentries', hraw, hcount⟩ :=
        (mem_table h).mp ⟨tool, entries, responses, hentries, hresponses, rfl⟩
      obtain ⟨hscalar, hcanonical⟩ := hkeys tool' entries' key raw hentries' hraw
      refine ⟨hscalar, fun hnonempty => hcanonical ?_⟩
      rwa [← List.length_pos_iff, hcount, List.length_pos_iff]
    exact
      { reachable := fun tool entries key responses hentries hresponses hnonempty =>
          canonicalKey_iff.mp ((hkey hentries hresponses).2 hnonempty)
        keys := fun tool entries key responses hentries hresponses =>
          (hkey hentries hresponses).1
        accepts := fun tool key htool hscalar => sanitizeCapturedData_of_scalarObject htool hscalar
        restarted := by
          rintro before rfl
          rw [RecordedReadAdapter.perform, h]
          rfl
        replays := by
          intro dependency operations tool key arguments hoperations htool hargs hscript
          obtain ⟨response, hresponse, hcall⟩ := (sanitizedAdapter dependency supported
            table).replays_run hoperations rfl htool hargs hscript
          exact ⟨response, RecordedReadAdapter.responseAt_eq _ _ ▸ hresponse, hcall⟩ }

end Accepted

end Replay

/-! ## Captured reads of an order -/

section CapturedReads

attribute [local instance] asciiTables oneDecimalRepr

/-- A captured read of order 7: first a timeout, then an answer. -/
def capturedReads (key : String) : Record :=
  [("get_order_status", .dict [(key, .list [.dict [("error_code", .str "timeout")],
    .dict [("payload", .str "shipped")]])])]

def capturedReadsTable (key : String) : RecordedTable :=
  [("get_order_status", [(key, [{ errorCode := some "timeout" }, { payload := .str "shipped" }])])]

theorem sanitizeCapturedData_capturedReads {key : String} (h : scalarObject key = true) :
    sanitizeCapturedData (capturedReads key) ["get_order_status"] =
      .ok (capturedReadsTable key) := by
  have hentry : parseEntry "get_order_status" (key, .list [.dict [("error_code", .str "timeout")],
      .dict [("payload", .str "shipped")]]) =
      .ok (key, [{ errorCode := some "timeout" }, { payload := .str "shipped" }]) := by
    rw [parseEntry, checkArgumentsKey_of_scalarObject h]
    rfl
  apply sanitizeCapturedData_singleton (List.mem_singleton_self _)
  rw [List.mapM_cons, hentry]
  rfl

theorem replaysCaptured_iff_capturedReads :
    ReplaysCaptured (capturedReads "\x7b\"order_id\":\"7\"\x7d") ["get_order_status"]
      (capturedReadsTable "\x7b\"order_id\":\"7\"\x7d") := by
  apply (replaysCaptured_iff (sanitizeCapturedData_capturedReads (by decide +kernel))).mpr
  intro tool entries key raw hentries hraw
  obtain ⟨rfl, hdict⟩ := Prod.mk.inj (List.mem_singleton.mp hentries)
  obtain rfl := PyValue.dict.inj hdict
  obtain ⟨rfl, -⟩ := Prod.mk.inj (List.mem_singleton.mp hraw)
  exact ⟨by decide +kernel, fun _ => by decide +kernel⟩

/-- The number of a key is dumped as a text, so the arguments of the captured call miss it. -/
theorem not_replaysCaptured_number :
    ∃ table, sanitizeCapturedData (capturedReads "\x7b\"order_id\":7\x7d") ["get_order_status"] =
      .ok table ∧
      ¬ ReplaysCaptured (capturedReads "\x7b\"order_id\":7\x7d") ["get_order_status"] table := by
  refine ⟨_, sanitizeCapturedData_capturedReads (by decide +kernel), fun h => ?_⟩
  have hcanonical : canonicalKey "\x7b\"order_id\":7\x7d" = true :=
    canonicalKey_iff.mpr (h.reachable "get_order_status" _ _ _ (List.mem_singleton_self _)
      (List.mem_singleton_self _) (List.cons_ne_nil _ _))
  exact absurd hcanonical (by decide +kernel)

end CapturedReads

end ObservabilityLab
