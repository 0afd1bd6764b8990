import Mathlib.Algebra.GroupWithZero.Nat
import Mathlib.Data.List.Dedup
import Mathlib.Data.List.Infix
import Mathlib.Data.List.Sort
import Mathlib.Data.String.Basic

/-!
# Python text

The text operations of Python that a model of a Python program needs: substring tests, `join`,
`repr`, and the character classes of its patterns. A Python `str` is a `String`, and its length is
the number of its code points. The tables of Unicode are not computed: they are the class
`UnicodeTables`, and every result holds for all tables.

## Main definitions

* `Contains`: the test `needle in haystack`
* `ContainsIgnoringCase`: the test `needle.lower() in haystack.lower()`
* `replaceText`: `text.replace(old, new)`
* `reprText`, `reprList`, `reprTupleText`: the `repr` of text and of sequences
* `matchesAll`, `matchesHead`: full matches of `[..]+` and of `[..][..]*`

## Main results

* `length_intercalate`: the length of a join
* `length_reprText_le`, `length_reprList`, `length_reprTupleText`: the lengths of `repr`
* `length_reprText_replace`: replacing bare text by bare text of the same length
* `mem_sortedSet`: sorting a set keeps its members
-/

namespace Python

/-- The tables of Unicode that a Python runtime carries. -/
class UnicodeTables where
  /-- `str.lower`, on the characters. -/
  lower : List Char → List Char
  /-- Whether a character outside ASCII is kept by `repr`. -/
  isPrintable : Char → Bool
  /-- Whether a character outside ASCII is matched by `\w`. -/
  isWord : Char → Bool
  /-- Whether a character outside ASCII is matched by `\d`. -/
  isDecimal : Char → Bool

/-- The tables of a runtime that knows the ASCII letters only. -/
@[reducible] def asciiTables : UnicodeTables where
  lower cs := cs.map Char.toLower
  isPrintable _ := false
  isWord _ := false
  isDecimal _ := false

variable [UnicodeTables]

/-! ## Substrings -/

omit [UnicodeTables] in
/-- `needle in haystack` -/
def Contains (needle haystack : String) : Prop := needle.toList <:+: haystack.toList

instance (needle haystack : String) : Decidable (Contains needle haystack) :=
  inferInstanceAs (Decidable (_ <:+: _))

omit [UnicodeTables] in
/-- Text without one of the characters of `needle` does not contain it. -/
theorem not_contains_of_not_mem {needle haystack : String} {c : Char} (hc : c ∈ needle.toList)
    (hnot : c ∉ haystack.toList) : ¬ Contains needle haystack :=
  fun hoccurs => hnot (hoccurs.subset hc)

/-- `needle.lower() in haystack.lower()` -/
def ContainsIgnoringCase (needle haystack : String) : Prop :=
  UnicodeTables.lower needle.toList <:+: UnicodeTables.lower haystack.toList

instance (needle haystack : String) : Decidable (ContainsIgnoringCase needle haystack) :=
  inferInstanceAs (Decidable (_ <:+: _))

/-! ## Replacing a text -/

/-- The characters with every occurrence of `old` replaced, behind some that are passed over. -/
def replaceFrom (old new : List Char) : ℕ → List Char → List Char
  | _, [] => []
  | 0, c :: cs =>
    if old.isPrefixOf (c :: cs) then new ++ replaceFrom old new (old.length - 1) cs
    else c :: replaceFrom old new 0 cs
  | skipped + 1, _ :: cs => replaceFrom old new skipped cs

/-- `text.replace(old, new)`, of an `old` that is not empty -/
def replaceText (old new text : String) : String :=
  String.ofList (replaceFrom old.toList new.toList 0 text.toList)

omit [UnicodeTables] in
/-- Text without one of the characters of `old` has nothing to replace. -/
theorem replaceText_eq_self {c : Char} {old text : String} (new : String) (hc : c ∈ old.toList)
    (hnot : c ∉ text.toList) : replaceText old new text = text := by
  have hkeep : ∀ cs : List Char, c ∉ cs → replaceFrom old.toList new.toList 0 cs = cs := by
    intro cs hcs
    induction cs with
    | nil => rfl
    | cons d cs ih =>
      have hprefix : ¬ old.toList.isPrefixOf (d :: cs) = true := fun h =>
        hcs ((List.isPrefixOf_iff_prefix.mp h).subset hc)
      rw [replaceFrom, if_neg hprefix, ih fun hmem => hcs (List.mem_cons_of_mem d hmem)]
  rw [replaceText, hkeep text.toList hnot, String.ofList_toList]

/-! ## Joins -/

omit [UnicodeTables] in
private theorem length_intercalate_list (sep : List Char) (parts : List (List Char)) :
    (sep.intercalate parts).length =
      (parts.map List.length).sum + sep.length * (parts.length - 1) := by
  induction parts with
  | nil => simp
  | cons p ps ih =>
    cases ps with
    | nil => simp
    | cons q qs =>
      rw [List.intercalate_cons_cons, List.length_append, List.length_append, ih]
      simp only [List.map_cons, List.sum_cons, List.length_cons]
      rw [Nat.add_sub_cancel, Nat.add_sub_cancel, Nat.mul_succ]
      omega

omit [UnicodeTables] in
/-- The length of `sep.join(parts)`. -/
theorem length_intercalate (sep : String) (parts : List String) :
    (sep.intercalate parts).length =
      (parts.map String.length).sum + sep.length * (parts.length - 1) := by
  rw [← String.length_toList, String.toList_intercalate, length_intercalate_list]
  simp [Function.comp_def, String.length_toList]

/-! ## `repr` -/

/-- The lower-case hexadecimal digits of `n`, padded with zeros to `width`. -/
def hexText (width n : ℕ) : String :=
  let digits := Nat.toDigits 16 n
  String.ofList (List.replicate (width - digits.length) '0' ++ digits)

/-- One character of a `repr` written between quotes `quote`. -/
def reprChar (quote c : Char) : String :=
  if c = quote ∨ c = '\\' then String.ofList ['\\', c]
  else if c = '\n' then "\\n"
  else if c = '\r' then "\\r"
  else if c = '\t' then "\\t"
  else if c.toNat < 0x20 ∨ c.toNat = 0x7f then "\\x" ++ hexText 2 c.toNat
  else if c.toNat < 0x7f ∨ UnicodeTables.isPrintable c then String.singleton c
  else if c.toNat ≤ 0xff then "\\x" ++ hexText 2 c.toNat
  else if c.toNat ≤ 0xffff then "\\u" ++ hexText 4 c.toNat
  else "\\U" ++ hexText 8 c.toNat

/-- `repr` of text: single quotes, unless the text has one and no double quote. -/
def reprText (s : String) : String :=
  let quote := if '\'' ∈ s.toList ∧ '"' ∉ s.toList then '"' else '\''
  String.singleton quote ++ String.join (s.toList.map (reprChar quote)) ++ String.singleton quote

omit [UnicodeTables] in
/-- `repr` of a list, from the `repr` of its elements. -/
def reprList (parts : List String) : String := "[" ++ ", ".intercalate parts ++ "]"

omit [UnicodeTables] in
/-- `repr` of a tuple, from the `repr` of its elements. -/
def reprTupleText : List String → String
  | [p] => "(" ++ p ++ ",)"
  | parts => "(" ++ ", ".intercalate parts ++ ")"

omit [UnicodeTables] in
/-- `str` of a `bool`. -/
def strBool (b : Bool) : String := if b then "True" else "False"

omit [UnicodeTables] in
theorem length_hexText_le {width n : ℕ} (hw : 0 < width) (hn : n < 16 ^ width) :
    (hexText width n).length ≤ width := by
  have hd : (Nat.toDigits 16 n).length ≤ width :=
    (Nat.length_toDigits_le_iff (by decide) hw).mpr hn
  simp only [hexText, String.length_ofList, List.length_append, List.length_replicate]
  omega

theorem length_reprChar_le (quote c : Char) : (reprChar quote c).length ≤ 10 := by
  have hx : ("\\x" : String).length = 2 := rfl
  have hu : ("\\u" : String).length = 2 := rfl
  have hU : ("\\U" : String).length = 2 := rfl
  have hmax : c.toNat < 16 ^ 8 := by
    have hv : c.toNat < 1114112 := by
      rcases c.valid with h | ⟨-, h⟩
      · exact lt_trans h (by decide)
      · exact h
    omega
  unfold reprChar
  split_ifs with h₁ h₂ h₃ h₄ h₅ h₆ h₇ h₈
  · rw [String.length_ofList]
    exact show (2 : ℕ) ≤ 10 by decide
  · exact show (2 : ℕ) ≤ 10 by decide
  · exact show (2 : ℕ) ≤ 10 by decide
  · exact show (2 : ℕ) ≤ 10 by decide
  · have hd := length_hexText_le (show 0 < 2 by decide) (show c.toNat < 16 ^ 2 by omega)
    rw [String.length_append]
    omega
  · simp
  · have hd := length_hexText_le (show 0 < 2 by decide) (show c.toNat < 16 ^ 2 by omega)
    rw [String.length_append]
    omega
  · have hd := length_hexText_le (show 0 < 4 by decide) (show c.toNat < 16 ^ 4 by omega)
    rw [String.length_append]
    omega
  · have hd := length_hexText_le (by decide) hmax
    rw [String.length_append]
    omega

/-- The `repr` of text: two quotes, and at most ten characters for each one of the text. -/
theorem length_reprText_le (s : String) : (reprText s).length ≤ 10 * s.length + 2 := by
  have hchars (quote : Char) (cs : List Char) :
      ((cs.map (reprChar quote)).map String.length).sum ≤ 10 * cs.length := by
    induction cs with
    | nil => simp
    | cons c cs ih =>
      have hc := length_reprChar_le quote c
      simp only [List.map_cons, List.sum_cons, List.length_cons]
      omega
  simp only [reprText, String.length_append, String.length_singleton, String.length_join]
  have h := hchars (if '\'' ∈ s.toList ∧ '"' ∉ s.toList then '"' else '\'') s.toList
  rw [String.length_toList] at h
  omega

/-- A printable ASCII character that `repr` writes as it is between single quotes. -/
def isPlain (c : Char) : Bool := 0x20 ≤ c.toNat && c.toNat < 0x7f && c ≠ '\'' && c ≠ '\\'

/-- Text of plain characters. -/
def isPlainText (s : String) : Bool := s.toList.all isPlain

/-- The `repr` of plain text adds its quotes. -/
theorem toList_reprText_of_plain {s : String} (hplain : isPlainText s = true) :
    (reprText s).toList = '\'' :: s.toList ++ ['\''] := by
  have h : ∀ c ∈ s.toList, isPlain c = true := List.all_eq_true.mp hplain
  have hone (c : Char) (hc : isPlain c = true) : reprChar '\'' c = String.singleton c := by
    simp only [isPlain, Bool.and_eq_true, decide_eq_true_eq] at hc
    obtain ⟨⟨⟨hlow, hhigh⟩, hquote⟩, hslash⟩ := hc
    unfold reprChar
    rw [if_neg (by simp [hquote, hslash]), if_neg, if_neg, if_neg, if_neg (by omega),
      if_pos (Or.inl hhigh)]
    all_goals
      rintro rfl
      exact absurd hlow (by decide)
  have hquote : '\'' ∉ s.toList := fun hmem => absurd (h _ hmem) (by decide)
  have hchars : s.toList.map (reprChar '\'') = s.toList.map String.singleton :=
    List.map_congr_left fun c hc => hone c (h c hc)
  have hjoin (cs : List Char) : (cs.map String.singleton).flatMap String.toList = cs := by
    induction cs with
    | nil => rfl
    | cons c cs ih => rw [List.map_cons, List.flatMap_cons, ih, String.toList_singleton]; rfl
  simp only [reprText, hquote, false_and, if_false, String.toList_append, String.toList_singleton,
    String.toList_join, hchars, hjoin]
  rfl

theorem length_reprText_of_plain {s : String} (h : isPlainText s = true) :
    (reprText s).length = s.length + 2 := by
  rw [← String.length_toList, toList_reprText_of_plain h, List.length_append, List.length_cons,
    String.length_toList]
  rfl

/-- A plain character that is no double quote: `repr` writes it as it is between either quotes. -/
def isBare (c : Char) : Bool := isPlain c && c ≠ '"'

theorem length_reprChar_of_bare {quote c : Char} (hquote : quote = '\'' ∨ quote = '"')
    (hc : isBare c = true) : (reprChar quote c).length = 1 := by
  simp only [isBare, isPlain, Bool.and_eq_true, decide_eq_true_eq] at hc
  obtain ⟨⟨⟨⟨hlow, hhigh⟩, hsingle⟩, hslash⟩, hdouble⟩ := hc
  have hne : c ≠ quote := by
    rcases hquote with rfl | rfl
    · exact hsingle
    · exact hdouble
  unfold reprChar
  rw [if_neg (by simp [hne, hslash]), if_neg, if_neg, if_neg, if_neg (by omega),
    if_pos (Or.inl hhigh), String.length_singleton]
  all_goals
    rintro rfl
    exact absurd hlow (by decide)

theorem sum_length_reprChar_of_bare {quote : Char} (hquote : quote = '\'' ∨ quote = '"')
    {cs : List Char} (h : cs.all isBare = true) :
    ((cs.map (reprChar quote)).map String.length).sum = cs.length := by
  induction cs with
  | nil => rfl
  | cons c cs ih =>
    rw [List.all_cons, Bool.and_eq_true] at h
    rw [List.map_cons, List.map_cons, List.sum_cons, length_reprChar_of_bare hquote h.1, ih h.2,
      List.length_cons, Nat.add_comm]

omit [UnicodeTables] in
theorem quotes_notMem_of_bare {s : String} (h : s.toList.all isBare = true) :
    '\'' ∉ s.toList ∧ '"' ∉ s.toList := by
  rw [List.all_eq_true] at h
  exact ⟨fun hmem => absurd (h _ hmem) (by decide), fun hmem => absurd (h _ hmem) (by decide)⟩

/-- **Replacing bare text inside a text by bare text of the same length** keeps the length of its
`repr`: the choice of quotes does not depend on it. -/
theorem length_reprText_replace {s t : String} (hs : s.toList.all isBare = true)
    (ht : t.toList.all isBare = true) (hlength : s.length = t.length) (before after : String) :
    (reprText (before ++ s ++ after)).length = (reprText (before ++ t ++ after)).length := by
  have hquotes : ∀ u : String, u.toList.all isBare = true →
      ('\'' ∈ (before ++ u ++ after).toList ∧ '"' ∉ (before ++ u ++ after).toList ↔
        '\'' ∈ (before ++ after).toList ∧ '"' ∉ (before ++ after).toList) := by
    intro u hu
    have hnot := quotes_notMem_of_bare hu
    simp [hnot.1, hnot.2]
  simp only [reprText, hquotes s hs, hquotes t ht]
  have hquote : (if '\'' ∈ (before ++ after).toList ∧ '"' ∉ (before ++ after).toList then '"'
      else '\'') = '\'' ∨ (if '\'' ∈ (before ++ after).toList ∧ '"' ∉ (before ++ after).toList
      then '"' else '\'') = '"' := by
    split_ifs
    · exact Or.inr rfl
    · exact Or.inl rfl
  generalize (if '\'' ∈ (before ++ after).toList ∧ '"' ∉ (before ++ after).toList then '"'
    else '\'') = quote at hquote ⊢
  simp only [String.length_append, String.length_join, String.toList_append, List.map_append,
    List.sum_append, sum_length_reprChar_of_bare hquote hs, sum_length_reprChar_of_bare hquote ht,
    String.length_toList, hlength]

/-- The characters of the elements of a `repr`, each with two for its separator. -/
def elementsLength (parts : List String) : ℕ := (parts.map fun p => p.length + 2).sum

omit [UnicodeTables] in
theorem elementsLength_eq (parts : List String) :
    elementsLength parts = (parts.map String.length).sum + 2 * parts.length := by
  induction parts with
  | nil => rfl
  | cons p ps ih =>
    simp only [elementsLength, List.map_cons, List.sum_cons, List.length_cons] at ih ⊢
    omega

omit [UnicodeTables] in
/-- The length of a `repr` of a list. -/
theorem length_reprList (parts : List String) :
    (reprList parts).length = if parts = [] then 2 else elementsLength parts := by
  have hl : ("[" : String).length = 1 ∧ ("]" : String).length = 1 ∧ (", " : String).length = 2 :=
    ⟨rfl, rfl, rfl⟩
  rw [reprList, String.length_append, String.length_append, length_intercalate, elementsLength_eq]
  split_ifs with h
  · subst h
    simp [hl]
  · have hpos := List.length_pos_of_ne_nil h
    rw [hl.2.2]
    omega

omit [UnicodeTables] in
/-- The length of a `repr` of a non-empty tuple. -/
theorem length_reprTupleText {parts : List String} (h : parts ≠ []) :
    (reprTupleText parts).length =
      elementsLength parts + if parts.length = 1 then 1 else 0 := by
  have hl : ("(" : String).length = 1 ∧ (")" : String).length = 1 ∧ (", " : String).length = 2 ∧
      (",)" : String).length = 2 := ⟨rfl, rfl, rfl, rfl⟩
  match parts, h with
  | [p], _ =>
    simp only [reprTupleText, String.length_append, elementsLength, List.map_cons, List.map_nil,
      List.sum_cons, List.sum_nil, List.length_singleton, if_true]
    omega
  | p :: q :: ps, _ =>
    rw [if_neg (by simp), elementsLength_eq]
    simp only [reprTupleText, String.length_append, length_intercalate, List.length_cons, hl.2.2.1]
    omega

/-- The number of decimal digits of `n`. -/
def digitCount (n : ℕ) : ℕ := (Nat.toDigits 10 n).length

omit [UnicodeTables] in
/-- The length of `str(n)`. -/
theorem length_toString (n : ℕ) : (toString n).length = digitCount n := by
  rw [Nat.toString_eq_repr, Nat.repr_eq_ofList_toDigits, String.length_ofList, digitCount]

omit [UnicodeTables] in
theorem digitCount_pos (n : ℕ) : 0 < digitCount n := Nat.length_toDigits_pos

/-! ## Character classes -/

section CharacterClasses

def isLower (c : Char) : Bool := 'a' ≤ c && c ≤ 'z'

def isAsciiDigit (c : Char) : Bool := '0' ≤ c && c ≤ '9'

def isLowerHex (c : Char) : Bool := isAsciiDigit c || ('a' ≤ c && c ≤ 'f')

def isAsciiLetter (c : Char) : Bool := isLower c || ('A' ≤ c && c ≤ 'Z')

/-- `\d` -/
def isDecimalDigit (c : Char) : Bool :=
  if c.toNat < 0x80 then isAsciiDigit c else UnicodeTables.isDecimal c

/-- `\w` -/
def isWordChar (c : Char) : Bool :=
  if c.toNat < 0x80 then isAsciiLetter c || isAsciiDigit c || c = '_'
  else UnicodeTables.isWord c

/-- A full match of `[p]+`. -/
def matchesAll (p : Char → Bool) (s : String) : Bool := s ≠ "" && s.toList.all p

/-- A full match of `[p][q]*`. -/
def matchesHead (p q : Char → Bool) (s : String) : Bool :=
  match s.toList with
  | [] => false
  | c :: cs => p c && cs.all q

/-- A full match of `\d+\.\d+\.\d+`. -/
def matchesVersion (s : String) : Bool :=
  match s.toList.splitOn '.' with
  | [a, b, c] => [a, b, c].all fun part => part ≠ [] && part.all isDecimalDigit
  | _ => false

end CharacterClasses

/-- `sorted(set(values))` of text: the code-point order. -/
def sortedSet (values : List String) : List String := values.dedup.insertionSort (· ≤ ·)

omit [UnicodeTables] in
@[simp] theorem mem_sortedSet {values : List String} {s : String} :
    s ∈ sortedSet values ↔ s ∈ values := by
  rw [sortedSet, List.mem_insertionSort, List.mem_dedup]

end Python
