import ObservabilityLab.Python.Float

/-!
# YAML documents

The values that a safe load of a YAML text builds. Keys need not be texts. A document that contains
itself is one of its finite unfoldings.

## Main definitions

* `YamlKey`, `YamlValue`: the keys of mappings, and the values
* `YamlValue.mappings`, `Nested`, `Reached`: the mappings in a mapping, as its values or in the
  lists among its values
* `decodeUtf8`, `universalNewlines`: the text of a file

## Main results

* `forall_reached_iff`, `exists_reached_iff`: what is reached from a mapping, through its own ones
-/

namespace Python

/-- A key of a mapping; another key than a text has the name of its class. -/
inductive YamlKey where
  | text (s : String)
  | other (className : String)

/-- A value. The other values are dates, instants, binaries, sets, and the tuples of `!!omap` and
`!!pairs`, by the name of their class and their text. -/
inductive YamlValue where
  | null
  | bool (b : Bool)
  | int (n : ℤ)
  | float (x : PyFloat)
  | text (s : String)
  | other (className text : String)
  | list (items : List YamlValue)
  | mapping (entries : List (YamlKey × YamlValue))

abbrev YamlMapping := List (YamlKey × YamlValue)

/-- The entries of a mapping whose keys are texts. -/
def textEntries (mapping : YamlMapping) : Option (List (String × YamlValue)) :=
  mapping.mapM fun entry => match entry.1 with
    | .text key => some (key, entry.2)
    | .other _ => none

/-- Every key is a text. -/
def TextKeys (mapping : YamlMapping) : Prop := ∀ entry ∈ mapping, ∃ key, entry.1 = .text key

namespace YamlValue

def asMapping : YamlValue → Option YamlMapping
  | mapping entries => some entries
  | _ => none

/-- The value as a mapping, or the mappings among its elements. -/
def mappings : YamlValue → List YamlMapping
  | mapping entries => [entries]
  | list items => items.filterMap asMapping
  | _ => []

theorem asMapping_eq_some {value : YamlValue} {entries : YamlMapping} :
    value.asMapping = some entries ↔ value = .mapping entries := by
  cases value <;> simp [asMapping]

end YamlValue

/-- A mapping that is a value of a mapping, or an element of a list that is one. -/
def Nested (outer inner : YamlMapping) : Prop := ∃ entry ∈ outer, inner ∈ entry.2.mappings

/-- A mapping at some depth of a mapping. -/
inductive Reached : ℕ → YamlMapping → YamlMapping → Prop
  | root (mapping : YamlMapping) : Reached 0 mapping mapping
  | nested {depth : ℕ} {outer inner mapping : YamlMapping} (h : Nested outer inner)
      (hinner : Reached depth inner mapping) : Reached (depth + 1) outer mapping

/-- What every reached mapping has, the mapping and what it reaches have. -/
theorem forall_reached_iff {document : YamlMapping} {p : ℕ → YamlMapping → Prop} :
    (∀ depth mapping, Reached depth document mapping → p depth mapping) ↔
      p 0 document ∧ ∀ inner, Nested document inner →
        ∀ depth mapping, Reached depth inner mapping → p (depth + 1) mapping := by
  constructor
  · intro h
    exact ⟨h 0 document (.root document),
      fun inner hnested depth mapping hreached => h _ _ (.nested hnested hreached)⟩
  · rintro ⟨hroot, hnested⟩ depth mapping hreached
    cases hreached with
    | root => exact hroot
    | nested h hinner => exact hnested _ h _ _ hinner

/-- Some mapping is reached, the mapping itself or one that it reaches. -/
theorem exists_reached_iff {document : YamlMapping} {p : YamlMapping → Prop} :
    (∃ depth mapping, Reached depth document mapping ∧ p mapping) ↔
      p document ∨ ∃ inner, Nested document inner ∧
        ∃ depth mapping, Reached depth inner mapping ∧ p mapping := by
  constructor
  · rintro ⟨depth, mapping, hreached, hp⟩
    cases hreached with
    | root => exact Or.inl hp
    | nested h hinner => exact Or.inr ⟨_, h, _, _, hinner, hp⟩
  · rintro (hp | ⟨inner, hnested, depth, mapping, hreached, hp⟩)
    · exact ⟨0, document, .root document, hp⟩
    · exact ⟨depth + 1, mapping, .nested hnested hreached, hp⟩

/-! ## Files -/

/-- What a safe load of a text returns: a document, a `YAMLError` with its text, or another
exception of the parser, by its class and its text. -/
inductive YamlOutcome where
  | document (value : YamlValue)
  | yamlError (text : String)
  | raised (className text : String)

/-- `yaml.safe_load` -/
class YamlLoader where
  safeLoad : String → YamlOutcome

/-- The text of UTF-8 bytes; `none` is a `UnicodeDecodeError`. -/
def decodeUtf8 (bytes : List UInt8) : Option String := String.fromUTF8? ⟨bytes.toArray⟩

/-- A text with every line end as a line feed. -/
def universalNewlines : List Char → List Char
  | [] => []
  | '\r' :: '\n' :: cs => '\n' :: universalNewlines cs
  | '\r' :: cs => '\n' :: universalNewlines cs
  | c :: cs => c :: universalNewlines cs

end Python
