import ObservabilityLab.Library.Patterns
import ObservabilityLab.Python.Words

/-!
# The audit scanner

Saved bundles and reports are scanned for secrets, for forbidden field names and for email
addresses. A payload is walked value by value. Of the addresses in a string the first one is looked
at, and passed over when its domain is reserved.

## Main definitions

* `secretPatterns`, `emailPattern`: the known formats
* `flag`: the findings in one string
* `scanPayload`: the findings in a payload
* `TextAt`: the strings of a payload, with their paths

## Main results

* `mem_walk_of_textAt`: what is found in a string is found in the payload
* `textAt_of_mem_walk`: what is found is a forbidden key, or is flagged in a string
-/

namespace ObservabilityLab

open Python Pattern

/-! ## The known formats -/

/-- `[A-Za-z0-9]` -/
def isAlphanumeric (c : Char) : Bool := isAsciiLetter c || isAsciiDigit c

/-- `[A-Z]` -/
def isUpper (c : Char) : Bool := 'A' ≤ c && c ≤ 'Z'

/-- The characters that match a lower-case ASCII letter without regard to case. -/
def matchesLetter (letter c : Char) : Bool :=
  c = letter || c = letter.toUpper || (letter = 's' && c = 'ſ') || (letter = 'k' && c = '\u212a') ||
    (letter = 'i' && (c = 'İ' || c = 'ı'))

/-- A word of lower-case ASCII letters, without regard to case. -/
def anyCase (w : String) : Pattern Char :=
  w.toList.foldr (fun letter rest => one (matchesLetter letter) ++ rest) .empty

/-- `[...]{least,}` -/
def atLeast (least : ℕ) (p : Char → Bool) : Pattern Char := .symbols p least none

/-- A text. -/
def literal (text : String) : Pattern Char := word text.toList

/-- `EMAIL_PATTERN` -/
def emailPattern : Pattern Char :=
  atLeast 1 (fun c => isAlphanumeric c || c ∈ ['.', '_', '%', '+', '-']) ++ literal "@" ++
    atLeast 1 (fun c => isAlphanumeric c || c = '.' || c = '-') ++ literal "." ++
    atLeast 2 isAsciiLetter

/-- `FORBIDDEN_KEYS` -/
def forbiddenKeys : List String :=
  ["password", "passwd", "secret", "api_key", "apikey", "apiKey", "access_token", "authorization",
    "private_key", "privateKey"]

/-- `RESERVED_EMAIL_DOMAINS` -/
def reservedEmailDomains : List String :=
  ["example.com", "example.org", "example.net", "example", "invalid", "test", "localhost"]

/-- `match.group(0).rsplit("@", 1)[1].lower()`; an address has ASCII letters only. -/
def emailDomain (address : List Char) : List Char :=
  (address.reverse.takeWhile (· ≠ '@')).reverse.map Char.toLower

/-- Whether a domain is reserved, or below a reserved one. -/
def isReserved (domain : List Char) : Bool :=
  reservedEmailDomains.any fun name =>
    domain = name.toList || ('.' :: name.toList).isSuffixOf domain

section Scanner

variable [SpaceTable]

/-- `SECRET_PATTERNS` -/
def secretPatterns : List (String × Pattern Char) :=
  [("openai_api_key", literal "sk-" ++ atLeast 20 fun c => isAlphanumeric c || c ∈ ['_', '-']),
    ("anthropic_api_key",
      literal "sk-ant-" ++ atLeast 20 fun c => isAlphanumeric c || c ∈ ['_', '-']),
    ("aws_access_key",
      literal "AKIA" ++ .symbols (fun c => isAsciiDigit c || isUpper c) 16 (some 16)),
    ("private_key_block",
      literal "-----BEGIN " ++ atLeast 0 (fun c => isUpper c || c = ' ') ++
        literal "PRIVATE KEY-----"),
    ("google_api_key", literal "AIza" ++ atLeast 30 fun c => isAlphanumeric c || c ∈ ['_', '-']),
    ("github_token",
      literal "gh" ++ one (· ∈ ['p', 'o', 'u', 's', 'r']) ++ literal "_" ++
        atLeast 30 isAlphanumeric),
    ("slack_token",
      literal "xox" ++ one (· ∈ ['b', 'a', 'p', 'r', 's']) ++ literal "-" ++
        atLeast 10 fun c => isAlphanumeric c || c = '-'),
    ("bearer_token",
      literal "Bearer " ++
        atLeast 20 fun c => isAlphanumeric c || c ∈ ['.', '_', '~', '+', '/', '-']),
    ("connection_string",
      literal "postgres" ++ optional (literal "ql") ++ literal "://" ++
        atLeast 1 (fun c => !isSpace c && c ≠ ':') ++ literal ":" ++
        atLeast 1 (fun c => !isSpace c && c ≠ '@') ++ literal "@"),
    ("generic_password",
      (anyCase "password").or ((anyCase "passwd").or ((anyCase "secret").or
          ((anyCase "api" ++ optional (one (· ∈ ['_', '-'])) ++ anyCase "key").or
            (anyCase "token")))) ++
        atLeast 0 isSpace ++ one (· ∈ [':', '=']) ++ atLeast 0 isSpace ++
        atLeast 8 fun c => !isSpace c)]

/-! ## The scan -/

/-- One flagged value. -/
structure ScanFinding where
  context : String
  kind : String
  path : String
  snippet : String

/-- `value[start:stop]` -/
def slice (value : String) (start stop : ℕ) : String :=
  String.ofList ((value.toList.take stop).drop start)

/-- `_flag(value, context=context, path=path)` -/
def flag (value context path : String) : List ScanFinding :=
  (secretPatterns.filterMap fun entry =>
      (entry.2.search value.toList).map fun found =>
        ⟨context, entry.1, path, slice value (found.1 - 10) (found.2 + 10)⟩) ++
    match emailPattern.search value.toList with
    | some (start, stop) =>
      if isReserved (emailDomain ((value.toList.take stop).drop start)) then []
      else [⟨context, "email", path, slice value 0 120⟩]
    | none => []

/-- `path or "$"` -/
def shownPath (path : String) : String := if path = "" then "$" else path

/-- `f"{path}.{key}" if path else key` -/
def keyPath (path key : String) : String := if path = "" then key else path ++ "." ++ key

/-- `f"{path}[{index}]"` -/
def indexPath (path : String) (index : ℕ) : String := path ++ "[" ++ toString index ++ "]"

section Walk

variable [UnicodeTables] [FloatRepr] (context : String)

/-- The finding of a forbidden key. -/
def forbiddenKey (path key : String) (item : PyValue) : List ScanFinding :=
  if key ∈ forbiddenKeys then
    [⟨context, "forbidden_key:" ++ key, shownPath path, slice item.toText 0 120⟩]
  else []

mutual

/-- `walk(value, path)` -/
def walk : PyValue → String → List ScanFinding
  | .dict entries, path => walkEntries entries path
  | .list xs, path => walkItems xs path 0
  | .str value, path => flag value context (shownPath path)
  | .uuid id, path => flag id.str context (shownPath path)
  | _, _ => []

def walkEntries : List (String × PyValue) → String → List ScanFinding
  | [], _ => []
  | (key, item) :: entries, path =>
    forbiddenKey context path key item ++ walk item (keyPath path key) ++ walkEntries entries path

def walkItems : List PyValue → String → ℕ → List ScanFinding
  | [], _, _ => []
  | item :: xs, path, index => walk item (indexPath path index) ++ walkItems xs path (index + 1)

end

/-- `scan_payload(payload, context=context)` -/
def scanPayload (payload : PyValue) : List ScanFinding := walk context payload ""

end Walk

end Scanner

/-! ## The strings of a payload -/

/-- A string in a value that is at a path, with its own path; an identifier is scanned by its
text. -/
inductive TextAt : PyValue → String → String → String → Prop
  | str (text path : String) : TextAt (.str text) path path text
  | uuid (id : Uuid) (path : String) : TextAt (.uuid id) path path id.str
  | entry {entries : List (String × PyValue)} {key : String} {item : PyValue}
      {base path text : String} (hmem : (key, item) ∈ entries)
      (h : TextAt item (keyPath base key) path text) : TextAt (.dict entries) base path text
  | item {xs : List PyValue} {index : ℕ} {item : PyValue} {base path text : String}
      (hget : xs[index]? = some item) (h : TextAt item (indexPath base index) path text) :
      TextAt (.list xs) base path text

section Findings

variable [SpaceTable] [UnicodeTables] [FloatRepr] {context : String} {finding : ScanFinding}

theorem mem_walkEntries {entries : List (String × PyValue)} {key base : String} {item : PyValue}
    (hmem : (key, item) ∈ entries) (h : finding ∈ walk context item (keyPath base key)) :
    finding ∈ walkEntries context entries base := by
  induction entries with
  | nil => cases hmem
  | cons entry entries ih =>
    rw [walkEntries, List.mem_append, List.mem_append]
    rcases List.mem_cons.mp hmem with rfl | hmem
    · exact Or.inl (Or.inr h)
    · exact Or.inr (ih hmem)

theorem mem_walkItems {xs : List PyValue} {base : String} {start index : ℕ} {item : PyValue}
    (hget : xs[index]? = some item)
    (h : finding ∈ walk context item (indexPath base (start + index))) :
    finding ∈ walkItems context xs base start := by
  induction xs generalizing start index with
  | nil => cases hget
  | cons x xs ih =>
    rw [walkItems, List.mem_append]
    cases index with
    | zero =>
      obtain rfl := Option.some.inj hget
      exact Or.inl h
    | succ index =>
      rw [← Nat.add_assoc, Nat.add_right_comm] at h
      exact Or.inr (ih hget h)

/-- What is flagged in a string of a value is found in the value. -/
theorem mem_walk_of_textAt {value : PyValue} {base path text : String}
    (h : TextAt value base path text) (hflag : finding ∈ flag text context (shownPath path)) :
    finding ∈ walk context value base := by
  induction h with
  | str text path => rwa [walk]
  | uuid id path => rwa [walk]
  | entry hmem _ ih =>
    rw [walk]
    exact mem_walkEntries hmem (ih hflag)
  | item hget _ ih =>
    rw [walk]
    apply mem_walkItems hget
    rw [Nat.zero_add]
    exact ih hflag

/-- A finding of a forbidden key. -/
def IsForbiddenKey (finding : ScanFinding) : Prop :=
  ∃ key, finding.kind = "forbidden_key:" ++ key

omit [SpaceTable] in
theorem isForbiddenKey_of_mem {path key : String} {item : PyValue}
    (h : finding ∈ forbiddenKey context path key item) : IsForbiddenKey finding := by
  unfold forbiddenKey at h
  split_ifs at h
  · rw [List.mem_singleton.mp h]
    exact ⟨key, rfl⟩
  · cases h

mutual

/-- What is found in a value is a forbidden key, or is flagged in one of its strings. -/
theorem textAt_of_mem_walk : ∀ (value : PyValue) (base : String),
    finding ∈ walk context value base → IsForbiddenKey finding ∨
      ∃ path text, TextAt value base path text ∧ finding ∈ flag text context (shownPath path)
  | .str text, base, h => Or.inr ⟨base, text, .str text base, by rwa [walk] at h⟩
  | .uuid id, base, h => Or.inr ⟨base, id.str, .uuid id base, by rwa [walk] at h⟩
  | .dict entries, base, h => by
    rw [walk] at h
    rcases textAt_of_mem_walkEntries entries base h with h | ⟨key, item, path, text, hmem, htext, h⟩
    · exact Or.inl h
    · exact Or.inr ⟨path, text, .entry hmem htext, h⟩
  | .list xs, base, h => by
    rw [walk] at h
    rcases textAt_of_mem_walkItems xs base 0 h with h | ⟨index, item, path, text, hget, htext, h⟩
    · exact Or.inl h
    · rw [Nat.zero_add] at htext
      exact Or.inr ⟨path, text, .item hget htext, h⟩
  | .none, _, h => by simp [walk] at h
  | .bool _, _, h => by simp [walk] at h
  | .int _, _, h => by simp [walk] at h
  | .float _, _, h => by simp [walk] at h

theorem textAt_of_mem_walkEntries : ∀ (entries : List (String × PyValue)) (base : String),
    finding ∈ walkEntries context entries base → IsForbiddenKey finding ∨
      ∃ key item path text, (key, item) ∈ entries ∧ TextAt item (keyPath base key) path text ∧
        finding ∈ flag text context (shownPath path)
  | [], _, h => by simp [walkEntries] at h
  | (key, item) :: entries, base, h => by
    rw [walkEntries, List.mem_append, List.mem_append] at h
    rcases h with (h | h) | h
    · exact Or.inl (isForbiddenKey_of_mem h)
    · rcases textAt_of_mem_walk item _ h with h | ⟨path, text, htext, h⟩
      · exact Or.inl h
      · exact Or.inr ⟨key, item, path, text, List.mem_cons_self, htext, h⟩
    · rcases textAt_of_mem_walkEntries entries base h with
        h | ⟨key', item', path, text, hmem, htext, h⟩
      · exact Or.inl h
      · exact Or.inr ⟨key', item', path, text, List.mem_cons_of_mem _ hmem, htext, h⟩

theorem textAt_of_mem_walkItems : ∀ (xs : List PyValue) (base : String) (start : ℕ),
    finding ∈ walkItems context xs base start → IsForbiddenKey finding ∨
      ∃ index item path text, xs[index]? = some item ∧
        TextAt item (indexPath base (start + index)) path text ∧
          finding ∈ flag text context (shownPath path)
  | [], _, _, h => by simp [walkItems] at h
  | item :: xs, base, start, h => by
    rw [walkItems, List.mem_append] at h
    rcases h with h | h
    · rcases textAt_of_mem_walk item _ h with h | ⟨path, text, htext, h⟩
      · exact Or.inl h
      · exact Or.inr ⟨0, item, path, text, rfl, htext, h⟩
    · rcases textAt_of_mem_walkItems xs base (start + 1) h with
        h | ⟨index, item', path, text, hget, htext, h⟩
      · exact Or.inl h
      · rw [Nat.add_right_comm, Nat.add_assoc] at htext
        exact Or.inr ⟨index + 1, item', path, text, hget, htext, h⟩

end

end Findings

end ObservabilityLab
