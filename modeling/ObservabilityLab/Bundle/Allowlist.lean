import ObservabilityLab.Simulation.Adapters

/-!
# The privacy allowlist

The scanners that guard a bundle: the allowlist of seed records, the recursive scan of fixture
payloads, the scan of arguments and of the fault script, and the scan of typed metadata. Each is
followed by what it guarantees of the strings it accepts, as `FreeOf`.

## Main definitions

* `validateAllowlistedMapping`, `validateResourceSeed`: seed records
* `validateFixturePayload`, `scanFixtureArguments`: fixtures
* `validateFaultScript`, `validateMetadataContent`, `scanBundleContent`
* `FreeOf`: no forbidden text occurs in a string, ignoring case

## Main results

* `validateMetadataContent_eq_ok`: the metadata scan accepts safe JSON data, and nothing else
* `freeOf_of_validateFixturePayload`, `freeOf_of_scanFixtureArguments`,
  `freeOf_of_validateResourceSeed`: the strings that a scanner accepts are free of forbidden text
-/

namespace ObservabilityLab

open Python

/-- The sensitive key parts shared with the recorded simulation adapters. -/
def sensitiveKeyParts : List String :=
  ["api_key", "apikey", "secret", "password", "passwd", "token", "authorization", "auth_header",
    "credential", "credit_card", "credit", "ssn", "email", "phone", "message"]

/-- The allowed fields of each owned-system seed. -/
def resourceAllowlist : String → Option (List String)
  | "customer" => some ["id", "name", "email"]
  | "order" => some ["id", "customer_id", "status", "total_amount"]
  | "ticket" => some ["id", "customer_id", "order_id", "subject", "status"]
  | "policy" => some ["id", "slug", "version", "title", "content", "content_hash"]
  | _ => none

def forbiddenValueParts : List String :=
  ["BEGIN RSA PRIVATE KEY", "BEGIN OPENSSH PRIVATE KEY", "BEGIN PRIVATE KEY", "sk-", "api_key=",
    "apikey=", "token=", "authorization=", "credential=", "password=", "secret=", "bearer "]

/-- `ForbiddenDataError(detail=detail)` -/
def forbiddenDataError (detail : String) : PyError :=
  .domain "forbidden_data" ("Bundle scan rejected forbidden data: " ++ detail) unprocessableEntity

/-- `InvalidBundleFixtureError(detail=detail)` -/
def invalidBundleFixtureError (detail : String) : PyError :=
  .domain "invalid_bundle_fixture" ("Bundle fixture failed sanitization: " ++ detail)
    unprocessableEntity

section Scanners

variable [UnicodeTables]

def isSensitiveKey (key : String) : Bool :=
  sensitiveKeyParts.any fun part => part.toList <:+: UnicodeTables.lower key.toList

def containsForbiddenValue (value : String) : Bool :=
  forbiddenValueParts.any fun part => ContainsIgnoringCase part value

def containsForbiddenSubstring (value : String) (substrings : List String) : Bool :=
  substrings.any fun substring => substring ≠ "" && ContainsIgnoringCase substring value

/-- One value of an allowlisted mapping: a JSON scalar, and text without forbidden content. -/
def checkAllowlistedValue (context : String) (forbidden : List String)
    (entry : String × PyValue) : Raises Unit :=
  match entry.2 with
  | .none | .bool _ | .int _ | .float _ => .ok ()
  | .str value =>
    if value = "" then
      .error (forbiddenDataError (context ++ " records an empty string for " ++ reprText entry.1))
    else if containsForbiddenSubstring value forbidden then
      .error (forbiddenDataError
        (context ++ " records forbidden content in field " ++ reprText entry.1))
    else if containsForbiddenValue value then
      .error (forbiddenDataError
        (context ++ " records a forbidden value in field " ++ reprText entry.1))
    else .ok ()
  | value =>
    .error (forbiddenDataError (context ++ " records a non-scalar value of type " ++
      reprText value.typeName ++ " for " ++ reprText entry.1))

/-- Reject unknown fields and forbidden content in one mapping. -/
def validateAllowlistedMapping (mapping : Record) (allowed : List String) (context : String)
    (forbidden : List String) : Raises Unit := do
  let unknown := sortedSet ((mapping.map Prod.fst).filter (· ∉ allowed))
  let what := if unknown.all isSensitiveKey then "sensitive keys " else "fields "
  raiseIf (unknown ≠ []) (forbiddenDataError
    (context ++ " records non-allowlisted " ++ what ++ reprList (unknown.map reprText)))
  forM mapping (checkAllowlistedValue context forbidden)

/-- Validate one owned-system seed record: the allowlist, then the matching support model. -/
def validateResourceSeed [FloatRepr] (resource : String) (record : Record)
    (forbidden : List String) : Raises Unit :=
  match resourceAllowlist resource with
  | none => .error (forbiddenDataError ("unknown resource type " ++ reprText resource))
  | some allowed => do
    validateAllowlistedMapping record allowed ("resource " ++ reprText resource) forbidden
    let invalid := invalidFields resource record
    raiseIf (invalid ≠ []) (invalidBundleFixtureError ("resource " ++ reprText resource ++
      " has invalid or missing fields " ++ reprList (invalid.map reprText)))

def scanFixtureString (value context : String) (substrings : List String) : Raises Unit :=
  if containsForbiddenValue value then
    .error (forbiddenDataError (context ++ " records a forbidden value"))
  else if containsForbiddenSubstring value substrings then
    .error (forbiddenDataError (context ++ " records forbidden content"))
  else .ok ()

/-- Reject secrets and forbidden source text in one string. -/
def validateSafeText (value context : String) (forbidden : List String) : Raises Unit :=
  if value = "" then .error (forbiddenDataError (context ++ " records an empty string"))
  else scanFixtureString value context forbidden

mutual

/-- Validate one recorded response payload, recursively. -/
def validateFixturePayload (forbidden : List String) : String → PyValue → Raises Unit
  | _, .none | _, .bool _ | _, .int _ | _, .float _ => .ok ()
  | context, .str value => scanFixtureString value context forbidden
  | context, .list items => validatePayloadItems forbidden context 0 items
  | context, .dict entries => validatePayloadEntries forbidden context entries
  | context, .uuid _ =>
    .error (forbiddenDataError (context ++ " records non-JSON data of type 'UUID'"))

def validatePayloadItems (forbidden : List String) (context : String) :
    ℕ → List PyValue → Raises Unit
  | _, [] => .ok ()
  | index, item :: items => do
    validateFixturePayload forbidden (context ++ "[" ++ toString index ++ "]") item
    validatePayloadItems forbidden context (index + 1) items

def validatePayloadEntries (forbidden : List String) (context : String) :
    List (String × PyValue) → Raises Unit
  | [] => .ok ()
  | (key, value) :: entries => do
    raiseIf (isSensitiveKey key)
      (forbiddenDataError (context ++ " records sensitive key " ++ reprText key))
    validateFixturePayload forbidden (context ++ "." ++ key) value
    validatePayloadEntries forbidden context entries

end

mutual

/-- Scan typed bundle metadata for secret-like values. -/
def validateMetadataContent : String → PyValue → Raises Unit
  | _, .none | _, .bool _ | _, .int _ | _, .float _ => .ok ()
  | context, .str value => validateSafeText value context []
  | context, .list items => validateMetadataItems context 0 items
  | context, .dict entries => validateMetadataEntries context entries
  | context, .uuid _ =>
    .error (forbiddenDataError (context ++ " records non-JSON data of type 'UUID'"))

def validateMetadataItems (context : String) : ℕ → List PyValue → Raises Unit
  | _, [] => .ok ()
  | index, item :: items => do
    validateMetadataContent (context ++ "[" ++ toString index ++ "]") item
    validateMetadataItems context (index + 1) items

def validateMetadataEntries (context : String) : List (String × PyValue) → Raises Unit
  | [] => .ok ()
  | (key, value) :: entries => do
    validateMetadataContent (context ++ "." ++ key) value
    validateMetadataEntries context entries

end

/-- One tool argument: a key that is not sensitive, and a scalar without forbidden content. -/
def scanFixtureArgument (context : String) (substrings : List String)
    (entry : String × PyValue) : Raises Unit :=
  if isSensitiveKey entry.1 then
    .error (forbiddenDataError (context ++ " records sensitive key " ++ reprText entry.1))
  else match entry.2 with
    | .none | .bool _ | .int _ | .float _ => .ok ()
    | .str value => scanFixtureString value (context ++ "." ++ entry.1) substrings
    | value => .error (forbiddenDataError (context ++ "." ++ entry.1 ++
        " records a non-scalar value of type " ++ reprText value.typeName))

def scanFixtureArguments (arguments : PyValue) (context : String) (substrings : List String) :
    Raises Unit :=
  match arguments with
  | .none => .ok ()
  | .dict entries => forM entries (scanFixtureArgument context substrings)
  | _ => .error (forbiddenDataError (context ++ " must be a mapping"))

/-- One entry of a fault script: a declared tool, and no forbidden content. -/
def validateFaultEntry (declared : List String) (forbidden : List String)
    (entry : FaultScriptEntry) : Raises Unit := do
  raiseIf (entry.tool ∉ declared) (invalidBundleFixtureError ("fault tool " ++
    reprText entry.tool ++ " is not covered by any declared dependency tool " ++
    reprList ((sortedSet declared).map reprText)))
  scanFixtureString entry.tool "fault script tool" forbidden
  scanFixtureArguments (.dict entry.arguments)
    ("fault script " ++ reprText entry.tool ++ " arguments") forbidden

/-- Scan one fault script for unsafe content, against the declared tools and dependencies. -/
def validateFaultScript (script : Option FaultScript) (allowedTools : List String)
    (allowedDependencies : List String) (forbidden : List String) : Raises Unit :=
  match script with
  | none => .ok ()
  | some script => do
    raiseIf (script.dependency ∉ allowedDependencies) (invalidBundleFixtureError
      ("fault script targets dependency " ++ reprText script.dependency ++
        ", which no declared dependency " ++
        reprList ((sortedSet allowedDependencies).map reprText) ++ " covers"))
    forM script.entries (validateFaultEntry allowedTools forbidden)

/-- The fixture fields that are scanned as text. -/
def scannedFixtureKeys : List String :=
  ["dependency", "adapter_name", "adapter_version", "tool", "error_code"]

/-- One fixture of a bundle, as its JSON dump. -/
def scanFixture (forbidden : List String) (fixture : Record) (index : ℕ) : Raises Unit := do
  let context := "fixture " ++ toString index
  forM scannedFixtureKeys fun key =>
    match fixture.lookup key with
    | some (.str value) => scanFixtureString value (context ++ "." ++ key) forbidden
    | _ => .ok ()
  scanFixtureArguments ((fixture.lookup "arguments").getD .none) (context ++ ".arguments")
    forbidden
  validateFixturePayload forbidden (context ++ " payload")
    ((fixture.lookup "payload").getD .none)

/-- Scan every seed and fixture in the final bundle. -/
def scanBundleContent [FloatRepr] (resources : List (String × List Record))
    (fixtures : List Record) (forbidden : List String) : Raises Unit := do
  forM resources fun entry =>
    forM entry.2 fun record => validateResourceSeed entry.1 record forbidden
  forM fixtures.zipIdx fun entry => scanFixture forbidden entry.1 entry.2

end Scanners

/-! ## What the scanners guarantee -/

section Guarantees

variable [UnicodeTables] {forbidden : List String}

/-- No forbidden text occurs in a string, ignoring case. -/
def FreeOf (forbidden : List String) (s : String) : Prop :=
  ∀ v ∈ forbidden, v ≠ "" → ¬ ContainsIgnoringCase v s

theorem containsForbiddenSubstring_eq_false {s : String} :
    containsForbiddenSubstring s forbidden = false ↔ FreeOf forbidden s := by
  simp [containsForbiddenSubstring, FreeOf]

theorem freeOf_of_scanFixtureString {s context : String}
    (h : scanFixtureString s context forbidden = .ok ()) : FreeOf forbidden s := by
  unfold scanFixtureString at h
  split_ifs at h with _ hsub
  exact containsForbiddenSubstring_eq_false.mp (by simpa using hsub)

theorem freeOf_of_validateSafeText {s context : String}
    (h : validateSafeText s context forbidden = .ok ()) : FreeOf forbidden s := by
  unfold validateSafeText at h
  split_ifs at h
  exact freeOf_of_scanFixtureString h

/-- Text that the metadata scan accepts: not empty, and without a forbidden value. -/
def isSafeText (s : String) : Bool := s ≠ "" && !containsForbiddenValue s

theorem validateSafeText_eq_ok {s context : String} :
    validateSafeText s context [] = .ok () ↔ isSafeText s = true := by
  have hnone : containsForbiddenSubstring s [] = false := rfl
  unfold validateSafeText scanFixtureString isSafeText
  split_ifs with hempty hvalue hsub
  · simp [hempty]
  · simp [hvalue]
  · rw [hnone] at hsub
    cases hsub
  · simp [hempty, hvalue]

/-- The converse of `freeOf_of_validateSafeText`, for safe text. -/
theorem validateSafeText_of_freeOf {s context : String} (hsafe : isSafeText s = true)
    (hfree : FreeOf forbidden s) : validateSafeText s context forbidden = .ok () := by
  rw [isSafeText, Bool.and_eq_true, decide_eq_true_eq, Bool.not_eq_true'] at hsafe
  rw [validateSafeText, if_neg hsafe.1, scanFixtureString, hsafe.2, if_neg Bool.false_ne_true,
    containsForbiddenSubstring_eq_false.mpr hfree, if_neg Bool.false_ne_true]

mutual

/-- **The metadata scan accepts JSON data whose strings all are safe**, and nothing else. -/
theorem validateMetadataContent_eq_ok : ∀ (context : String) (value : PyValue),
    validateMetadataContent context value = .ok () ↔
      value.isJson = true ∧ ∀ s ∈ value.texts, isSafeText s = true
  | _, .none | _, .bool _ | _, .int _ | _, .float _ => by
    simp [validateMetadataContent, PyValue.isJson, PyValue.texts]
  | context, .str value => by
    rw [validateMetadataContent, validateSafeText_eq_ok]
    simp [PyValue.isJson, PyValue.texts]
  | context, .list items => by
    rw [validateMetadataContent, PyValue.isJson, PyValue.texts]
    exact validateMetadataItems_eq_ok context 0 items
  | context, .dict entries => by
    rw [validateMetadataContent, PyValue.isJson, PyValue.texts]
    exact validateMetadataEntries_eq_ok context entries
  | _, .uuid _ => by simp [validateMetadataContent, PyValue.isJson]

theorem validateMetadataItems_eq_ok : ∀ (context : String) (index : ℕ) (items : List PyValue),
    validateMetadataItems context index items = .ok () ↔
      PyValue.isJsonList items = true ∧ ∀ s ∈ PyValue.textsList items, isSafeText s = true
  | _, _, [] => by simp [validateMetadataItems, PyValue.isJsonList, PyValue.textsList]
  | context, index, item :: items => by
    rw [validateMetadataItems, check_bind_eq_ok, validateMetadataContent_eq_ok,
      validateMetadataItems_eq_ok, PyValue.isJsonList, PyValue.textsList, Bool.and_eq_true,
      List.forall_mem_append]
    exact and_and_and_comm

theorem validateMetadataEntries_eq_ok : ∀ (context : String)
    (entries : List (String × PyValue)),
    validateMetadataEntries context entries = .ok () ↔
      PyValue.isJsonEntries entries = true ∧
        ∀ s ∈ PyValue.textsEntries entries, isSafeText s = true
  | _, [] => by simp [validateMetadataEntries, PyValue.isJsonEntries, PyValue.textsEntries]
  | context, (key, value) :: entries => by
    rw [validateMetadataEntries, check_bind_eq_ok, validateMetadataContent_eq_ok,
      validateMetadataEntries_eq_ok, PyValue.isJsonEntries, PyValue.textsEntries,
      Bool.and_eq_true, List.forall_mem_append]
    exact and_and_and_comm

end

mutual

/-- **An accepted payload is free of forbidden text in all its strings.** -/
theorem freeOf_of_validateFixturePayload : ∀ (context : String) (payload : PyValue),
    validateFixturePayload forbidden context payload = .ok () →
      ∀ s ∈ payload.texts, FreeOf forbidden s
  | _, .none, _ | _, .bool _, _ | _, .int _, _ | _, .float _, _ => by simp [PyValue.texts]
  | context, .str value, h => by
    intro s hs
    rw [PyValue.texts, List.mem_singleton] at hs
    subst hs
    exact freeOf_of_scanFixtureString h
  | context, .list items, h => by
    rw [validateFixturePayload] at h
    rw [PyValue.texts]
    exact freeOf_of_validatePayloadItems context 0 items h
  | context, .dict entries, h => by
    rw [validateFixturePayload] at h
    rw [PyValue.texts]
    exact freeOf_of_validatePayloadEntries context entries h
  | context, .uuid _, h => by
    rw [validateFixturePayload] at h
    cases h

theorem freeOf_of_validatePayloadItems : ∀ (context : String) (index : ℕ) (items : List PyValue),
    validatePayloadItems forbidden context index items = .ok () →
      ∀ s ∈ PyValue.textsList items, FreeOf forbidden s
  | _, _, [], _ => by simp [PyValue.textsList]
  | context, index, item :: items, h => by
    rw [validatePayloadItems, check_bind_eq_ok] at h
    intro s hs
    rw [PyValue.textsList, List.mem_append] at hs
    rcases hs with hs | hs
    · exact freeOf_of_validateFixturePayload _ item h.1 s hs
    · exact freeOf_of_validatePayloadItems context (index + 1) items h.2 s hs

theorem freeOf_of_validatePayloadEntries : ∀ (context : String)
    (entries : List (String × PyValue)),
    validatePayloadEntries forbidden context entries = .ok () →
      ∀ s ∈ PyValue.textsEntries entries, FreeOf forbidden s
  | _, [], _ => by simp [PyValue.textsEntries]
  | context, (key, value) :: entries, h => by
    rw [validatePayloadEntries, check_bind_eq_ok, check_bind_eq_ok] at h
    obtain ⟨-, hvalue, hrest⟩ := h
    intro s hs
    rw [PyValue.textsEntries, List.mem_append] at hs
    rcases hs with hs | hs
    · exact freeOf_of_validateFixturePayload _ value hvalue s hs
    · exact freeOf_of_validatePayloadEntries context entries hrest s hs

end

theorem freeOf_of_scanFixtureArgument {context : String} {entry : String × PyValue}
    (h : scanFixtureArgument context forbidden entry = .ok ()) :
    ∀ s ∈ entry.2.texts, FreeOf forbidden s := by
  obtain ⟨key, value⟩ := entry
  unfold scanFixtureArgument at h
  split_ifs at h
  cases value with
  | none | bool _ | int _ | float _ => simp [PyValue.texts]
  | str value => simpa [PyValue.texts] using freeOf_of_scanFixtureString h
  | uuid _ | list _ | dict _ => cases h

/-- Accepted arguments are free of forbidden text in all their values. -/
theorem freeOf_of_scanFixtureArguments {context : String} {entries : List (String × PyValue)}
    (h : scanFixtureArguments (.dict entries) context forbidden = .ok ()) :
    ∀ s ∈ PyValue.textsEntries entries, FreeOf forbidden s := by
  intro s hs
  obtain ⟨entry, hentry, hs⟩ := PyValue.mem_textsEntries.mp hs
  exact freeOf_of_scanFixtureArgument (forM_eq_ok.mp h entry hentry) s hs

theorem freeOf_of_checkAllowlistedValue {context : String} {entry : String × PyValue}
    (h : checkAllowlistedValue context forbidden entry = .ok ()) :
    ∀ s ∈ entry.2.texts, FreeOf forbidden s := by
  obtain ⟨key, value⟩ := entry
  cases value with
  | none | bool _ | int _ | float _ => simp [PyValue.texts]
  | str value =>
    simp only [checkAllowlistedValue] at h
    split_ifs at h with _ hsub
    simpa [PyValue.texts] using containsForbiddenSubstring_eq_false.mp (by simpa using hsub)
  | uuid _ | list _ | dict _ => cases h

/-- An accepted seed record is free of forbidden text in all its values. -/
theorem freeOf_of_validateResourceSeed [FloatRepr] {resource : String} {record : Record}
    (h : validateResourceSeed resource record forbidden = .ok ()) :
    ∀ s ∈ PyValue.textsEntries record, FreeOf forbidden s := by
  unfold validateResourceSeed at h
  split at h
  · cases h
  · rw [check_bind_eq_ok] at h
    have hmapping := h.1
    rw [validateAllowlistedMapping, check_bind_eq_ok] at hmapping
    intro s hs
    obtain ⟨entry, hentry, hs⟩ := PyValue.mem_textsEntries.mp hs
    exact freeOf_of_checkAllowlistedValue (forM_eq_ok.mp hmapping.2 entry hentry) s hs

/-- The tool and the argument values of an accepted fault entry are free of forbidden text. -/
theorem freeOf_of_validateFaultEntry {declared : List String} {entry : FaultScriptEntry}
    (h : validateFaultEntry declared forbidden entry = .ok ()) :
    FreeOf forbidden entry.tool ∧
      ∀ s ∈ PyValue.textsEntries entry.arguments, FreeOf forbidden s := by
  rw [validateFaultEntry, check_bind_eq_ok, check_bind_eq_ok] at h
  exact ⟨freeOf_of_scanFixtureString h.2.1, freeOf_of_scanFixtureArguments h.2.2⟩

end Guarantees

/-! ## Harmless text

Every forbidden value has a space, an equals sign or a `k`, so that text without them is safe. -/

section Harmless

attribute [local instance] asciiTables

def isHarmless (c : Char) : Bool := c.toLower ∉ [' ', '=', 'k']

theorem forbiddenValueParts_harmful : ∀ part ∈ forbiddenValueParts,
    part.toList.all isHarmless = false := by
  decide +kernel

theorem isSafeText_of_harmless {s : String} (hne : s ≠ "")
    (h : ∀ c ∈ s.toList, isHarmless c = true) : isSafeText s = true := by
  rw [isSafeText, Bool.and_eq_true, decide_eq_true_eq, Bool.not_eq_true']
  refine ⟨hne, Bool.eq_false_iff.mpr fun hcontains => ?_⟩
  obtain ⟨part, hpart, hoccurs⟩ := List.any_eq_true.mp hcontains
  obtain ⟨c, hc, hharm⟩ := List.all_eq_false.mp (forbiddenValueParts_harmful part hpart)
  have hlow : c.toLower ∈ s.toList.map Char.toLower :=
    (of_decide_eq_true hoccurs : _ <:+: _).subset (List.mem_map_of_mem hc)
  obtain ⟨d, hd, hdc⟩ := List.mem_map.mp hlow
  have hsafe := h d hd
  rw [isHarmless, hdc] at hsafe
  rw [isHarmless, hsafe] at hharm
  exact hharm rfl

theorem isSafeText_of_chars {cs : List Char}
    (h : cs ≠ [] ∧ cs.all isHarmless = true) : isSafeText (String.ofList cs) = true := by
  refine isSafeText_of_harmless ?_ (by simpa using h.2)
  intro hempty
  exact h.1 (by simpa using congrArg String.toList hempty)

/-- The text of an identifier is safe. -/
theorem isSafeText_str (u : Uuid) : isSafeText u.str = true := by
  refine isSafeText_of_harmless u.str_ne_empty ?_
  intro c hc
  rw [Uuid.str, String.toList_ofList] at hc
  rcases Uuid.mem_strChars hc with rfl | ⟨d, rfl⟩
  · decide
  · have hall : ∀ d : Fin 16, isHarmless (hexDigit d) = true := by decide
    exact hall d

/-- Text that is longer than `s` does not occur in it. -/
theorem freeOf_of_length_lt {forbidden : List String} {s : String}
    (h : ∀ v ∈ forbidden, s.length < v.length) : FreeOf forbidden s := by
  intro v hv _ hoccurs
  have hle : (v.toList.map Char.toLower).length ≤ (s.toList.map Char.toLower).length :=
    List.IsInfix.length_le hoccurs
  have hlt := h v hv
  rw [List.length_map, List.length_map, String.length_toList, String.length_toList] at hle
  omega

end Harmless

end ObservabilityLab
