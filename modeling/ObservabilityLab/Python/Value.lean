import ObservabilityLab.Python.Float
import ObservabilityLab.Python.Uuid

/-!
# Python values

The values that untyped fields carry: scalars, identifiers, lists, and dictionaries with text keys.
The hash functions of the standard library are the class `HashFunctions`.

## Main definitions

* `PyValue`: a value
* `PyValue.texts`, `PyValue.keys`: the strings of a value, and its dictionary keys, at any depth
* `PyValue.isJson`, `PyValue.jsonMode`: JSON data, and the value in JSON mode, where an identifier
  is its text
* `PyValue.repr`, `PyValue.eq`: `repr(v)` and `v == w`
* `HexDigest`, `HashFunctions`: SHA-256 digests and `uuid5`

## Main results

* `PyValue.texts_jsonMode`: JSON mode keeps all strings
* `PyValue.jsonMode_idem`: a value in JSON mode stays as it is
-/

namespace Python

/-- A value of an untyped field. -/
inductive PyValue where
  | none
  | bool (b : Bool)
  | int (n : ℤ)
  | float (x : PyFloat)
  | str (s : String)
  | uuid (u : Uuid)
  | list (xs : List PyValue)
  | dict (entries : List (String × PyValue))

/-- `repr(x)` of a float: the shortest text that reads back as `x`. -/
class FloatRepr where
  repr : PyFloat → String
  repr_ne_empty : ∀ x, repr x ≠ ""
  length_repr_le : ∀ x, (repr x).length ≤ 24

/-- The `repr` of floats below `10 ^ 16` with one decimal place; longer texts are cut. -/
@[reducible] def oneDecimalRepr : FloatRepr where
  repr x := String.ofList ((x.format 1).toList.take 24)
  repr_ne_empty x h := by
    have hempty : (x.format 1).toList.take 24 = [] := by
      simpa only [String.toList_ofList, String.toList_empty] using congrArg String.toList h
    rw [List.take_eq_nil_iff] at hempty
    rcases hempty with hzero | hnil
    · exact absurd hzero (by decide)
    · exact x.format_ne_empty (String.toList_eq_nil_iff.mp hnil)
  length_repr_le x := by
    rw [String.length_ofList]
    exact List.length_take_le _ _

namespace PyValue

mutual

/-- The strings of a value, at any depth; an identifier is its text. -/
def texts : PyValue → List String
  | str s => [s]
  | uuid u => [u.str]
  | list xs => textsList xs
  | dict entries => textsEntries entries
  | _ => []

def textsList : List PyValue → List String
  | [] => []
  | x :: xs => x.texts ++ textsList xs

def textsEntries : List (String × PyValue) → List String
  | [] => []
  | (_, v) :: entries => v.texts ++ textsEntries entries

end

mutual

/-- The dictionary keys of a value, at any depth. -/
def keys : PyValue → List String
  | list xs => keysList xs
  | dict entries => keysEntries entries
  | _ => []

def keysList : List PyValue → List String
  | [] => []
  | x :: xs => x.keys ++ keysList xs

def keysEntries : List (String × PyValue) → List String
  | [] => []
  | (k, v) :: entries => k :: v.keys ++ keysEntries entries

end

mutual

/-- Whether a value is JSON data: no identifier occurs in it, at any depth. -/
def isJson : PyValue → Bool
  | uuid _ => false
  | list xs => isJsonList xs
  | dict entries => isJsonEntries entries
  | _ => true

def isJsonList : List PyValue → Bool
  | [] => true
  | x :: xs => x.isJson && isJsonList xs

def isJsonEntries : List (String × PyValue) → Bool
  | [] => true
  | (_, v) :: entries => v.isJson && isJsonEntries entries

end

mutual

/-- The value in JSON mode. -/
def jsonMode : PyValue → PyValue
  | uuid u => str u.str
  | list xs => list (jsonModeList xs)
  | dict entries => dict (jsonModeEntries entries)
  | v => v

def jsonModeList : List PyValue → List PyValue
  | [] => []
  | x :: xs => x.jsonMode :: jsonModeList xs

def jsonModeEntries : List (String × PyValue) → List (String × PyValue)
  | [] => []
  | (k, v) :: entries => (k, v.jsonMode) :: jsonModeEntries entries

end

section Repr

variable [UnicodeTables] [FloatRepr]

mutual

/-- `repr(v)` -/
def repr : PyValue → String
  | none => "None"
  | bool b => strBool b
  | int n => toString n
  | float x => FloatRepr.repr x
  | str s => reprText s
  | uuid u => "UUID(" ++ reprText u.str ++ ")"
  | list xs => reprList (reprElements xs)
  | dict entries => "\x7b" ++ ", ".intercalate (reprEntries entries) ++ "\x7d"

def reprElements : List PyValue → List String
  | [] => []
  | x :: xs => x.repr :: reprElements xs

def reprEntries : List (String × PyValue) → List String
  | [] => []
  | (k, v) :: entries => (reprText k ++ ": " ++ v.repr) :: reprEntries entries

end

/-- `str(v)` -/
def toText : PyValue → String
  | str s => s
  | uuid u => u.str
  | v => v.repr

end Repr

/-- `bool(v)` -/
def truthy : PyValue → Bool
  | none => false
  | bool b => b
  | int n => n ≠ 0
  | float x => !x.eq 0
  | str s => s ≠ ""
  | uuid _ => true
  | list xs => !xs.isEmpty
  | dict entries => !entries.isEmpty

/-- The finite number that a scalar counts as in a comparison. -/
def asRat : PyValue → Option ℚ
  | bool b => some (if b then 1 else 0)
  | int n => some n
  | float (.finite q) => some q.1
  | _ => Option.none

mutual

/-- `v == w`: numbers compare by value, dictionaries without regard to order. -/
def eq : PyValue → PyValue → Bool
  | none, none => true
  | str s, str t => s = t
  | uuid u, uuid v => u = v
  | list xs, list ys => eqList xs ys
  | dict es, dict fs => es.length = fs.length && eqEntries es fs
  | float x, float y => x.eq y
  | v, w => match v.asRat, w.asRat with
    | some p, some q => p = q
    | _, _ => false

def eqList : List PyValue → List PyValue → Bool
  | [], [] => true
  | x :: xs, y :: ys => x.eq y && eqList xs ys
  | _, _ => false

def eqEntries : List (String × PyValue) → List (String × PyValue) → Bool
  | [], _ => true
  | (k, v) :: es, fs =>
    (match fs.lookup k with
      | some w => v.eq w
      | Option.none => false) && eqEntries es fs

end

/-- Whether a value is a JSON scalar: `isinstance(v, (bool, int, float, str))`. -/
def isJsonScalar : PyValue → Bool
  | bool _ | int _ | float _ | str _ => true
  | _ => false

/-- `type(v).__name__` -/
def typeName : PyValue → String
  | none => "NoneType"
  | bool _ => "bool"
  | int _ => "int"
  | float _ => "float"
  | str _ => "str"
  | uuid _ => "UUID"
  | list _ => "list"
  | dict _ => "dict"

/-- An optional string as a value. -/
def ofOption (s : Option String) : PyValue := s.elim none str

/-- A list of strings as a value. -/
def ofTexts (texts : List String) : PyValue := list (texts.map str)

mutual

theorem texts_jsonMode : ∀ v : PyValue, v.jsonMode.texts = v.texts
  | none | bool _ | int _ | float _ | str _ | uuid _ => by simp only [jsonMode, texts]
  | list xs => by simp only [jsonMode, texts, texts_jsonModeList xs]
  | dict es => by simp only [jsonMode, texts, texts_jsonModeEntries es]

theorem texts_jsonModeList : ∀ xs : List PyValue, textsList (jsonModeList xs) = textsList xs
  | [] => rfl
  | x :: xs => by simp only [jsonModeList, textsList, texts_jsonMode x, texts_jsonModeList xs]

theorem texts_jsonModeEntries :
    ∀ es : List (String × PyValue), textsEntries (jsonModeEntries es) = textsEntries es
  | [] => rfl
  | (k, v) :: es => by
    simp only [jsonModeEntries, textsEntries, texts_jsonMode v, texts_jsonModeEntries es]

end

mutual

theorem jsonMode_idem : ∀ v : PyValue, v.jsonMode.jsonMode = v.jsonMode
  | none | bool _ | int _ | float _ | str _ | uuid _ => by simp only [jsonMode]
  | list xs => by simp only [jsonMode, jsonModeList_idem xs]
  | dict es => by simp only [jsonMode, jsonModeEntries_idem es]

theorem jsonModeList_idem :
    ∀ xs : List PyValue, jsonModeList (jsonModeList xs) = jsonModeList xs
  | [] => rfl
  | x :: xs => by simp only [jsonModeList, jsonMode_idem x, jsonModeList_idem xs]

theorem jsonModeEntries_idem :
    ∀ es : List (String × PyValue), jsonModeEntries (jsonModeEntries es) = jsonModeEntries es
  | [] => rfl
  | (k, v) :: es => by simp only [jsonModeEntries, jsonMode_idem v, jsonModeEntries_idem es]

end

/-- Entries whose values already are in JSON mode. -/
theorem jsonModeEntries_eq_self {entries : List (String × PyValue)}
    (h : ∀ entry ∈ entries, entry.2.jsonMode = entry.2) : jsonModeEntries entries = entries := by
  induction entries with
  | nil => rfl
  | cons entry entries ih =>
    rw [List.forall_mem_cons] at h
    rw [jsonModeEntries, h.1, ih h.2]

theorem mem_textsEntries {entries : List (String × PyValue)} {s : String} :
    s ∈ textsEntries entries ↔ ∃ entry ∈ entries, s ∈ entry.2.texts := by
  induction entries with
  | nil => simp [textsEntries]
  | cons entry entries ih => simp [textsEntries, ih]

@[simp] theorem texts_ofOption (s : Option String) : (ofOption s).texts = s.toList := by
  cases s <;> simp [ofOption, texts]

end PyValue

/-! ## Hashes -/

/-- A full match of `^[0-9a-f]{64}$`. -/
def isHexDigest (s : String) : Bool := s.length = 64 && s.toList.all isLowerHex

/-- The hexadecimal text of a SHA-256 digest. -/
structure HexDigest where
  text : String
  wellFormed : isHexDigest text = true
deriving DecidableEq

namespace HexDigest

/-- The digest whose digits all are `d`. -/
def repeated (d : Fin 16) : HexDigest where
  text := String.ofList (List.replicate 64 (hexDigit d))
  wellFormed := by
    simp [isHexDigest, isLowerHex_hexDigit]

end HexDigest

/-- The hash functions of the standard library. -/
class HashFunctions where
  /-- `sha256(json.dumps(value, sort_keys=True, separators=(",", ":")).encode()).hexdigest()` -/
  jsonSha256 : PyValue → HexDigest
  /-- `uuid5(namespace, name)` -/
  uuid5 : Uuid → String → Uuid

/-- Hash functions with one digest and one identifier. -/
@[reducible] def constantHashes : HashFunctions where
  jsonSha256 _ := .repeated 0
  uuid5 _ _ := .repeated 0

end Python
