import ObservabilityLab.Audit.Scanner
import ObservabilityLab.Errors
import ObservabilityLab.Python.Yaml

/-!
# The secret scan of manifests

A manifest is scanned for keys that name a secret and for values that look like one. The scan goes
into the mappings among the values of a mapping and among the elements of its lists; the other
elements of a list it passes over.

## Main definitions

* `forbiddenKey`, `secretValuePatterns`, `looksSecret`: the secret-looking names and values
* `CatalogIssue`, `secretIssues`: the issues of a mapping, up to a depth of nested calls
* `Suspicious`: a secret-looking key or text anywhere in a value
* `Exposed`, `Hidden`: what is suspicious where the scan looks, and where it does not

## Main results

* `looksSecret_iff`: the texts that look like a secret
* `secretIssues_isOk_iff`, `mem_secretIssues_iff`: when the scan returns, and what it reports
* `suspicious_iff`: what is suspicious is exposed or hidden
* `scanFinds_iff`: the scan is complete exactly when nothing is hidden alone
-/

namespace ObservabilityLab.UserSimulator

open Python Pattern

/-! ## Secret-looking texts -/

/-- `[_-]` -/
def dash : Pattern Char := one (· ∈ ['_', '-'])

/-- `_FORBIDDEN_KEY` -/
def forbiddenKey : Pattern Char :=
  (anyCase "password").or <| (anyCase "passwd").or <|
    (anyCase "api" ++ optional dash ++ anyCase "key").or <| (anyCase "secret").or <|
      (anyCase "token").or <| (anyCase "credential").or <|
        anyCase "private" ++ optional dash ++ anyCase "key"

/-- `[a-z0-9]` without regard to case -/
def anyCaseAlphanumeric (c : Char) : Bool :=
  isAlphanumeric c || c ∈ ['ſ', '\u212a', 'İ', 'ı']

/-- `sk-[a-z0-9]{8,}` without regard to case, which stands between `\b` -/
def apiKeyPattern : Pattern Char :=
  anyCase "sk" ++ literal "-" ++ atLeast 8 anyCaseAlphanumeric

/-- `_FORBIDDEN_KEY.search(key)` -/
def namesSecret (key : String) : Bool := (forbiddenKey.search key.toList).isSome

theorem namesSecret_iff {key : String} :
    namesSecret key = true ↔ ∃ w ∈ forbiddenKey.language, w <:+: key.toList :=
  search_isSome_iff

section Patterns

variable [SpaceTable]

/-- The other two of `_SECRET_VALUE_PATTERNS`: an assignment, and a URL with credentials. -/
def secretValuePatterns : List (Pattern Char) :=
  [(anyCase "password").or ((anyCase "passwd").or ((anyCase "secret").or ((anyCase "token").or
      (anyCase "api" ++ optional dash ++ anyCase "key")))) ++
      atLeast 0 isSpace ++ one (· ∈ [':', '=']) ++ atLeast 0 isSpace ++ atLeast 1 (!isSpace ·),
    literal "://" ++ atLeast 1 (fun c => c ∉ ['/', '@', ':'] && !isSpace c) ++ literal ":" ++
      atLeast 1 (fun c => c ∉ ['/', '@'] && !isSpace c) ++ literal "@"]

variable [UnicodeTables]

/-- `any(pattern.search(value) for pattern in _SECRET_VALUE_PATTERNS)` -/
def looksSecret (value : String) : Bool :=
  apiKeyPattern.occursBetween isWordChar value.toList ||
    secretValuePatterns.any fun pattern => (pattern.search value.toList).isSome

/-- **The texts that look like a secret**: an API key between word boundaries, an assignment or a
URL with credentials occurs in them. -/
theorem looksSecret_iff {value : String} :
    looksSecret value = true ↔
      (∃ before w after, value.toList = before ++ w ++ after ∧ w ∈ apiKeyPattern.language ∧
        isBoundary isWordChar value.toList before.length = true ∧
        isBoundary isWordChar value.toList (before.length + w.length) = true) ∨
      ∃ pattern ∈ secretValuePatterns, ∃ w ∈ pattern.language, w <:+: value.toList := by
  rw [looksSecret, Bool.or_eq_true, occursBetween_iff, List.any_eq_true]
  simp only [search_isSome_iff]

end Patterns

/-! ## The scan -/

/-- One catalog problem. -/
structure CatalogIssue where
  filename : String
  field : String
  message : String
deriving DecidableEq

section Scan

variable [SpaceTable] [UnicodeTables]

/-- An issue with the secret-looking name of a key. -/
def keyIssue (filename key : String) : CatalogIssue where
  filename := filename
  field := key
  message := "key " ++ reprText key ++ " is not allowed (secret-looking name)"

/-- An issue with the secret-looking value of a key. -/
def valueIssue (filename key : String) : CatalogIssue where
  filename := filename
  field := key
  message := "value looks like a secret or credential URL; " ++
    "reference secrets by environment variable name instead"

/-- A value that is a text and looks like a secret. -/
def isSecretText : YamlValue → Bool
  | .text value => looksSecret value
  | _ => false

/-- The issues of one entry by itself. -/
def entryIssues (filename key : String) (value : YamlValue) : List CatalogIssue :=
  (if namesSecret key then [keyIssue filename key] else []) ++
    if isSecretText value then [valueIssue filename key] else []

/-- `_FORBIDDEN_KEY.search(key)` needs a text. -/
def requireText : YamlKey → Raises String
  | .text key => .ok key
  | .other className => .error (.other "TypeError"
      ("expected string or bytes-like object, got '" ++ className ++ "'"))

/-- `_secret_issues(filename, mapping)`, up to a number of nested calls -/
def secretIssues (filename : String) : ℕ → YamlMapping → Raises (List CatalogIssue)
  | 0, _ => .error (.other "RecursionError" "maximum recursion depth exceeded")
  | depth + 1, mapping => do
    let found ← mapping.mapM fun entry => do
      let key ← requireText entry.1
      -- a list in a list and its texts are not looked at
      let inner ← entry.2.mappings.mapM (secretIssues filename depth)
      return entryIssues filename key entry.2 ++ inner.flatten
    return found.flatten

/-! ## Suspicious values -/

/-- A secret-looking key or text somewhere in a value, at any depth. -/
inductive Suspicious : YamlValue → Prop
  | text {value : String} (h : looksSecret value = true) : Suspicious (.text value)
  | key {entries : YamlMapping} {key : String} {value : YamlValue}
      (hmem : (.text key, value) ∈ entries) (h : namesSecret key = true) :
      Suspicious (.mapping entries)
  | value {entries : YamlMapping} {key : YamlKey} {value : YamlValue}
      (hmem : (key, value) ∈ entries) (h : Suspicious value) : Suspicious (.mapping entries)
  | item {items : List YamlValue} {item : YamlValue} (hmem : item ∈ items)
      (h : Suspicious item) : Suspicious (.list items)

/-- A key of the mapping names a secret, or a text among its values looks like one. -/
def Flagged (mapping : YamlMapping) : Prop :=
  ∃ entry ∈ mapping, (∃ key, entry.1 = .text key ∧ namesSecret key = true) ∨
    isSecretText entry.2 = true

/-- A mapping that the scan reaches has a secret-looking key or value. -/
def Exposed (document : YamlMapping) : Prop :=
  ∃ depth mapping, Reached depth document mapping ∧ Flagged mapping

/-- An element of a list is suspicious and not a mapping. -/
def PassesOver (mapping : YamlMapping) : Prop :=
  ∃ key items, (key, YamlValue.list items) ∈ mapping ∧
    ∃ item ∈ items, Suspicious item ∧ ∀ entries, item ≠ .mapping entries

/-- A list in a mapping that the scan reaches has a suspicious element that is not a mapping. -/
def Hidden (document : YamlMapping) : Prop :=
  ∃ depth mapping, Reached depth document mapping ∧ PassesOver mapping

/-- Every mapping that the scan reaches has text keys, and lies less deep than the nested calls. -/
def Scannable (limit : ℕ) (document : YamlMapping) : Prop :=
  ∀ depth mapping, Reached depth document mapping → depth < limit ∧ TextKeys mapping

/-- The scan reports an issue if and only if something in the document is suspicious. -/
def ScanFinds (limit : ℕ) (filename : String) (document : YamlMapping) : Prop :=
  ∃ issues, secretIssues filename limit document = .ok issues ∧
    (issues ≠ [] ↔ Suspicious (.mapping document))

/-! ## What the scan does -/

variable {filename : String}

omit [SpaceTable] [UnicodeTables] in
theorem requireText_eq_ok {key : YamlKey} {text : String} :
    requireText key = .ok text ↔ key = .text text := by
  cases key <;> simp [requireText]

/-- The scan of a mapping is the scans of its entries. -/
theorem secretIssues_succ_eq_ok {depth : ℕ} {mapping : YamlMapping} {issues : List CatalogIssue} :
    secretIssues filename (depth + 1) mapping = .ok issues ↔
      ∃ found, (mapping.mapM fun entry => do
        let key ← requireText entry.1
        let inner ← entry.2.mappings.mapM (secretIssues filename depth)
        return entryIssues filename key entry.2 ++ inner.flatten) = .ok found ∧
      found.flatten = issues := by
  rw [secretIssues, bind_eq_ok]
  refine exists_congr fun found => and_congr_right fun _ => ?_
  exact ⟨Except.ok.inj, congrArg Except.ok⟩

/-- The scan of an entry needs a text, and the scans of its mappings. -/
theorem scanEntry_eq_ok {depth : ℕ} {entry : YamlKey × YamlValue} {issues : List CatalogIssue} :
    (do
      let key ← requireText entry.1
      let inner ← entry.2.mappings.mapM (secretIssues filename depth)
      return entryIssues filename key entry.2 ++ inner.flatten) = .ok issues ↔
    ∃ key inner, entry.1 = .text key ∧
      entry.2.mappings.mapM (secretIssues filename depth) = .ok inner ∧
      entryIssues filename key entry.2 ++ inner.flatten = issues := by
  rw [bind_eq_ok]
  refine exists_congr fun key => ?_
  rw [requireText_eq_ok, bind_eq_ok, ← exists_and_left]
  refine exists_congr fun inner => and_congr_right fun _ => and_congr_right fun _ => ?_
  exact ⟨Except.ok.inj, congrArg Except.ok⟩

/-- The scan of a mapping returns when its keys are texts and the scans of its mappings return. -/
theorem secretIssues_succ_isOk {depth : ℕ} {mapping : YamlMapping} :
    (∃ issues, secretIssues filename (depth + 1) mapping = .ok issues) ↔
      TextKeys mapping ∧
        ∀ inner, Nested mapping inner →
          ∃ issues, secretIssues filename depth inner = .ok issues := by
  constructor
  · rintro ⟨issues, h⟩
    obtain ⟨found, hfound, -⟩ := secretIssues_succ_eq_ok.mp h
    constructor
    · intro entry hentry
      obtain ⟨_, -, hscan⟩ := exists_mem_of_mapM hfound hentry
      obtain ⟨key, -, hkey, -⟩ := scanEntry_eq_ok.mp hscan
      exact ⟨key, hkey⟩
    · rintro inner ⟨entry, hentry, hinner⟩
      obtain ⟨_, -, hscan⟩ := exists_mem_of_mapM hfound hentry
      obtain ⟨-, found, -, hmappings, -⟩ := scanEntry_eq_ok.mp hscan
      obtain ⟨issues, -, hissues⟩ := exists_mem_of_mapM hmappings hinner
      exact ⟨issues, hissues⟩
  · rintro ⟨hkeys, hnested⟩
    have hentries : ∀ entry ∈ mapping, ∃ issues, (do
        let key ← requireText entry.1
        let inner ← entry.2.mappings.mapM (secretIssues filename depth)
        return entryIssues filename key entry.2 ++ inner.flatten) = .ok issues := by
      intro entry hentry
      obtain ⟨key, hkey⟩ := hkeys entry hentry
      obtain ⟨inner, hinner⟩ := exists_mapM_iff.mpr
        fun inner hinner => hnested inner ⟨entry, hentry, hinner⟩
      exact ⟨_, scanEntry_eq_ok.mpr ⟨key, inner, hkey, hinner, rfl⟩⟩
    obtain ⟨found, hfound⟩ := exists_mapM_iff.mpr hentries
    exact ⟨_, secretIssues_succ_eq_ok.mpr ⟨found, hfound, rfl⟩⟩

/-- **The scan returns** exactly when the document can be scanned. -/
theorem secretIssues_isOk_iff {filename : String} {limit : ℕ} {document : YamlMapping} :
    (∃ issues, secretIssues filename limit document = .ok issues) ↔ Scannable limit document := by
  induction limit generalizing document with
  | zero =>
    apply iff_of_false
    · rintro ⟨issues, h⟩
      cases h
    · intro h
      exact absurd (h 0 document (.root document)).1 (Nat.not_lt_zero 0)
  | succ limit ih =>
    rw [secretIssues_succ_isOk, Scannable, forall_reached_iff]
    refine and_congr (by simp) (forall₂_congr fun inner _ => ?_)
    rw [ih, Scannable]
    simp only [Nat.add_lt_add_iff_right]

/-- The issues of the entries of a mapping by themselves. -/
def OwnIssue (filename : String) (issue : CatalogIssue) (mapping : YamlMapping) : Prop :=
  ∃ key value, (.text key, value) ∈ mapping ∧ issue ∈ entryIssues filename key value

/-- **What the scan reports** are the issues of the entries of the mappings that it reaches. -/
theorem mem_secretIssues_iff {limit : ℕ} {document : YamlMapping} {issues : List CatalogIssue}
    (h : secretIssues filename limit document = .ok issues) {issue : CatalogIssue} :
    issue ∈ issues ↔
      ∃ depth mapping, Reached depth document mapping ∧ OwnIssue filename issue mapping := by
  induction limit generalizing document issues with
  | zero => cases h
  | succ limit ih =>
    obtain ⟨found, hfound, rfl⟩ := secretIssues_succ_eq_ok.mp h
    rw [exists_reached_iff, List.mem_flatten]
    constructor
    · rintro ⟨_, hmem, hissue⟩
      obtain ⟨entry, hentry, hscan⟩ := exists_of_mem_mapM hfound hmem
      obtain ⟨key, inner, hkey, hinner, rfl⟩ := scanEntry_eq_ok.mp hscan
      rcases List.mem_append.mp hissue with hown | hissue
      · exact Or.inl ⟨key, entry.2, hkey ▸ hentry, hown⟩
      · obtain ⟨_, hmem, hissue⟩ := List.mem_flatten.mp hissue
        obtain ⟨mapping, hmapping, hscan⟩ := exists_of_mem_mapM hinner hmem
        exact Or.inr ⟨mapping, ⟨entry, hentry, hmapping⟩, (ih hscan).mp hissue⟩
    · rintro (⟨key, value, hentry, hown⟩ | ⟨mapping, ⟨entry, hentry, hmapping⟩, hreached⟩)
      · obtain ⟨_, hmem, hscan⟩ := exists_mem_of_mapM hfound hentry
        obtain ⟨_, inner, ⟨⟩, -, rfl⟩ := scanEntry_eq_ok.mp hscan
        exact ⟨_, hmem, List.mem_append_left _ hown⟩
      · obtain ⟨_, hmem, hscan⟩ := exists_mem_of_mapM hfound hentry
        obtain ⟨_, inner, -, hinner, rfl⟩ := scanEntry_eq_ok.mp hscan
        obtain ⟨_, hmemInner, hscanInner⟩ := exists_mem_of_mapM hinner hmapping
        have hissue := (ih hscanInner).mpr hreached
        exact ⟨_, hmem, List.mem_append_right _ (List.mem_flatten_of_mem hmemInner hissue)⟩

/-- An entry has an issue when its key or its text is secret-looking. -/
theorem exists_mem_entryIssues_iff {key : String} {value : YamlValue} :
    (∃ issue, issue ∈ entryIssues filename key value) ↔
      namesSecret key = true ∨ isSecretText value = true := by
  unfold entryIssues
  split_ifs <;> simp [*]

/-- The scan reports an issue exactly when something is exposed. -/
theorem secretIssues_ne_nil_iff {limit : ℕ} {document : YamlMapping} {issues : List CatalogIssue}
    (h : secretIssues filename limit document = .ok issues) : issues ≠ [] ↔ Exposed document := by
  constructor
  · intro hne
    obtain ⟨issue, hissue⟩ := List.exists_mem_of_ne_nil issues hne
    obtain ⟨depth, mapping, hreached, key, value, hentry, hown⟩ :=
      (mem_secretIssues_iff h).mp hissue
    refine ⟨depth, mapping, hreached, _, hentry, ?_⟩
    rcases exists_mem_entryIssues_iff.mp ⟨_, hown⟩ with hkey | hvalue
    · exact Or.inl ⟨key, rfl, hkey⟩
    · exact Or.inr hvalue
  · rintro ⟨depth, mapping, hreached, ⟨_, value⟩, hentry, hsecret⟩
    obtain ⟨key, rfl⟩ := (secretIssues_isOk_iff.mp ⟨_, h⟩ _ _ hreached).2 _ hentry
    have hown : ∃ issue, issue ∈ entryIssues filename key value := by
      apply exists_mem_entryIssues_iff.mpr
      rcases hsecret with ⟨_, ⟨⟩, hkey⟩ | hvalue
      · exact Or.inl hkey
      · exact Or.inr hvalue
    obtain ⟨issue, hown⟩ := hown
    exact List.ne_nil_of_mem
      ((mem_secretIssues_iff h).mpr ⟨depth, mapping, hreached, key, value, hentry, hown⟩)

/-! ## Completeness -/

theorem exposed_iff {document : YamlMapping} :
    Exposed document ↔ Flagged document ∨ ∃ inner, Nested document inner ∧ Exposed inner :=
  exists_reached_iff

theorem hidden_iff {document : YamlMapping} :
    Hidden document ↔ PassesOver document ∨ ∃ inner, Nested document inner ∧ Hidden inner :=
  exists_reached_iff

/-- A mapping in a suspicious one that is suspicious by itself. -/
theorem Suspicious.of_nested {outer inner : YamlMapping} (hnested : Nested outer inner)
    (h : Suspicious (.mapping inner)) : Suspicious (.mapping outer) := by
  obtain ⟨⟨key, value⟩, hentry, hinner⟩ := hnested
  refine .value hentry ?_
  cases value with
  | mapping entries =>
    obtain rfl := List.mem_singleton.mp hinner
    exact h
  | list items =>
    obtain ⟨item, hitem, hmapping⟩ := List.mem_filterMap.mp hinner
    obtain rfl := YamlValue.asMapping_eq_some.mp hmapping
    exact .item hitem h
  | _ => cases hinner

theorem Suspicious.of_reached {depth : ℕ} {document mapping : YamlMapping}
    (hreached : Reached depth document mapping) (h : Suspicious (.mapping mapping)) :
    Suspicious (.mapping document) := by
  induction hreached with
  | root => exact h
  | nested hnested _ ih => exact .of_nested hnested (ih h)

theorem Suspicious.of_flagged {mapping : YamlMapping} (h : Flagged mapping) :
    Suspicious (.mapping mapping) := by
  obtain ⟨⟨key, value⟩, hentry, ⟨_, rfl, hkey⟩ | hvalue⟩ := h
  · exact .key hentry hkey
  · refine .value hentry ?_
    cases value with
    | text value => exact .text hvalue
    | _ => cases hvalue

theorem Suspicious.of_passesOver {mapping : YamlMapping} (h : PassesOver mapping) :
    Suspicious (.mapping mapping) := by
  obtain ⟨key, items, hentry, item, hitem, hsuspicious, -⟩ := h
  exact .value hentry (.item hitem hsuspicious)

/-- What a suspicious value is to a mapping that has it: a text of its own, a mapping with something
exposed or hidden, or a list with an element of which the same is known. -/
def Accounted : YamlValue → Prop
  | .text value => looksSecret value = true
  | .mapping entries => Exposed entries ∨ Hidden entries
  | .list items => ∃ item ∈ items, Suspicious item ∧
      ∀ entries, item = .mapping entries → Exposed entries ∨ Hidden entries
  | _ => False

/-- A mapping in a mapping exposes or hides what it has. -/
theorem accounted_of_nested {outer inner : YamlMapping} (hnested : Nested outer inner)
    (h : Exposed inner ∨ Hidden inner) : Exposed outer ∨ Hidden outer := by
  rcases h with h | h
  · exact Or.inl (exposed_iff.mpr (Or.inr ⟨inner, hnested, h⟩))
  · exact Or.inr (hidden_iff.mpr (Or.inr ⟨inner, hnested, h⟩))

theorem Suspicious.accounted {value : YamlValue} (h : Suspicious value) : Accounted value := by
  induction h with
  | text h => exact h
  | key hentry h => exact Or.inl (exposed_iff.mpr (Or.inl ⟨_, hentry, Or.inl ⟨_, rfl, h⟩⟩))
  | item hitem h ih =>
    refine ⟨_, hitem, h, ?_⟩
    rintro entries rfl
    exact ih
  | @value entries key value hentry h ih =>
    cases value with
    | text value => exact Or.inl (exposed_iff.mpr (Or.inl ⟨_, hentry, Or.inr ih⟩))
    | mapping inner =>
      exact accounted_of_nested ⟨_, hentry, List.mem_singleton_self _⟩ ih
    | list items =>
      obtain ⟨item, hitem, hsuspicious, hmapping⟩ := ih
      by_cases hitemMapping : ∃ inner, item = .mapping inner
      · obtain ⟨inner, rfl⟩ := hitemMapping
        have hinner : inner ∈ (YamlValue.list items).mappings :=
          List.mem_filterMap.mpr ⟨_, hitem, rfl⟩
        exact accounted_of_nested ⟨_, hentry, hinner⟩ (hmapping inner rfl)
      · refine Or.inr (hidden_iff.mpr (Or.inl ⟨key, items, hentry, item, hitem, hsuspicious, ?_⟩))
        exact fun inner hinner => hitemMapping ⟨inner, hinner⟩
    | _ => cases ih

/-- **What is suspicious is exposed or hidden.** -/
theorem suspicious_iff {document : YamlMapping} :
    Suspicious (.mapping document) ↔ Exposed document ∨ Hidden document := by
  constructor
  · exact Suspicious.accounted
  · rintro (⟨depth, mapping, hreached, hflagged⟩ | ⟨depth, mapping, hreached, hpasses⟩)
    · exact .of_reached hreached (.of_flagged hflagged)
    · exact .of_reached hreached (.of_passesOver hpasses)

/-- **The scan is complete** exactly when the document can be scanned and nothing is hidden that
nothing exposed goes with. -/
theorem scanFinds_iff {limit : ℕ} {document : YamlMapping} :
    ScanFinds limit filename document ↔
      Scannable limit document ∧ (Hidden document → Exposed document) := by
  have hreturns : (∃ issues, secretIssues filename limit document = .ok issues) ↔
      Scannable limit document := secretIssues_isOk_iff
  rw [← hreturns]
  constructor
  · rintro ⟨issues, hscan, hfinds⟩
    refine ⟨⟨issues, hscan⟩, fun hhidden => ?_⟩
    exact (secretIssues_ne_nil_iff hscan).mp (hfinds.mpr (suspicious_iff.mpr (Or.inr hhidden)))
  · rintro ⟨⟨issues, hscan⟩, hexposed⟩
    refine ⟨issues, hscan, ?_⟩
    rw [secretIssues_ne_nil_iff hscan, suspicious_iff]
    constructor
    · exact Or.inl
    · rintro (h | h)
      · exact h
      · exact hexposed h

end Scan

/-- A manifest with an API key as the element of a list. -/
def listedKey : YamlMapping :=
  [(.text "personas", .list [.text "sk-0123456789abcdef"])]

section Examples

attribute [local instance] asciiTables asciiSpaces

/-- An API key in a list is not found. -/
theorem not_scanFinds_listed : ¬ ScanFinds 900 "support.yaml" listedKey := by
  rintro ⟨issues, hscan, hfinds⟩
  have hsuspicious : Suspicious (.mapping listedKey) := by
    apply Suspicious.value List.mem_cons_self
    apply Suspicious.item List.mem_cons_self
    exact .text (by decide +kernel)
  have hnone : secretIssues "support.yaml" 900 listedKey = .ok [] := rfl
  obtain rfl := Except.ok.inj (hscan.symm.trans hnone)
  exact hfinds.mpr hsuspicious rfl

end Examples

end ObservabilityLab.UserSimulator
