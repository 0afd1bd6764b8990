import Mathlib.Data.Vector.Basic
import Mathlib.Data.Fintype.Basic
import Mathlib.Tactic.FinCases
import ObservabilityLab.Python.Text

/-!
# Python `uuid.UUID`

An identifier is its 32 hexadecimal digits. `Uuid.str` is the text `str` gives. `Uuid.parse` is the
constructor from text: `urn:`, `uuid:`, hyphens and surrounding braces are dropped, and the 32
characters that are left are a numeral of `int(text, 16)`, which has blanks around it, a plus sign,
a prefix `0x`, underscores between its digits, and decimal digits of any script. `Uuid.read` is what
a pydantic field accepts, which are the usual forms only.

## Main definitions

* `numeralDigits`: the digits of `int(text, 16)`
* `Uuid.str`, `Uuid.parse`, `Uuid.read`: the text of an identifier, and the identifiers of a text

## Main results

* `Uuid.parse_of_hex`: text of 32 hexadecimal digits and hyphens is an identifier
* `Uuid.parse_str`, `Uuid.read_str`: the constructors read back the text of an identifier
* `Uuid.str_injective`: identifiers with the same text are equal
-/

namespace Python

instance neZeroSixteen : NeZero 16 := ⟨by decide⟩

/-- A 128-bit identifier, by its hexadecimal digits. -/
structure Uuid where
  digits : List.Vector (Fin 16) 32
deriving DecidableEq

/-- The lower-case hexadecimal digit of a nibble. -/
def hexDigit (d : Fin 16) : Char := Nat.digitChar d

/-- The nibble of a hexadecimal digit of either case. -/
def hexValue (c : Char) : Option (Fin 16) :=
  if isAsciiDigit c then some (Fin.ofNat 16 (c.toNat - '0'.toNat))
  else if 'a' ≤ c ∧ c ≤ 'f' then some (Fin.ofNat 16 (c.toNat - 'a'.toNat + 10))
  else if 'A' ≤ c ∧ c ≤ 'F' then some (Fin.ofNat 16 (c.toNat - 'A'.toNat + 10))
  else none

@[simp] theorem hexValue_hexDigit (d : Fin 16) : hexValue (hexDigit d) = some d := by
  revert d
  decide

theorem isLowerHex_hexDigit (d : Fin 16) : isLowerHex (hexDigit d) = true := by
  revert d
  decide

/-- A hexadecimal digit is none of the other characters of an identifier's text. -/
theorem hexDigit_ne (d : Fin 16) :
    hexDigit d ≠ '-' ∧ hexDigit d ≠ '{' ∧ hexDigit d ≠ '}' ∧ hexDigit d ≠ 'u' := by
  revert d
  decide

/-- `[0-9a-fA-F]` -/
def isHex (c : Char) : Bool := (hexValue c).isSome

theorem toNat_of_isHex {c : Char} (h : isHex c = true) : 48 ≤ c.toNat ∧ c.toNat ≤ 102 := by
  unfold isHex hexValue isAsciiDigit at h
  split_ifs at h with hdigit hlower hupper
  · simp only [Bool.and_eq_true, decide_eq_true_eq] at hdigit
    exact ⟨hdigit.1, le_trans hdigit.2 (by decide)⟩
  · exact ⟨le_trans (by decide) hlower.1, hlower.2⟩
  · exact ⟨le_trans (by decide) hupper.1, le_trans hupper.2 (by decide)⟩
  · cases h

/-! ## Hexadecimal numerals -/

section Numerals

/-- The zeros of the decimal digits that Unicode has outside ASCII. -/
def decimalZeros : List ℕ :=
  [0x660, 0x6f0, 0x7c0, 0x966, 0x9e6, 0xa66, 0xae6, 0xb66, 0xbe6, 0xc66, 0xce6, 0xd66, 0xde6, 0xe50,
    0xed0, 0xf20, 0x1040, 0x1090, 0x17e0, 0x1810, 0x1946, 0x19d0, 0x1a80, 0x1a90, 0x1b50, 0x1bb0,
    0x1c40, 0x1c50, 0xa620, 0xa8d0, 0xa900, 0xa9d0, 0xa9f0, 0xaa50, 0xabf0, 0xff10, 0x104a0,
    0x10d30,
    0x11066, 0x110f0, 0x11136, 0x111d0, 0x112f0, 0x11450, 0x114d0, 0x11650, 0x116c0, 0x11730,
    0x118e0, 0x11950, 0x11c50, 0x11d50, 0x11da0, 0x11f50, 0x16a60, 0x16ac0, 0x16b50, 0x1d7ce,
    0x1d7d8, 0x1d7e2, 0x1d7ec, 0x1d7f6, 0x1e140, 0x1e2f0, 0x1e4f0, 0x1e950, 0x1fbf0]

/-- The white space of Unicode outside ASCII. -/
def isWideSpace (c : Char) : Bool :=
  (0x2000 ≤ c.toNat && c.toNat ≤ 0x200a) ||
    c.toNat ∈ [0x85, 0xa0, 0x1680, 0x2028, 0x2029, 0x202f, 0x205f, 0x3000]

/-- The ASCII character that `int` takes a character for; no numeral has a question mark. -/
def asciiOf (c : Char) : Char :=
  if c.toNat < 0x7f then c
  else if isWideSpace c then ' '
  else
    match decimalZeros.find? fun n => n ≤ c.toNat && c.toNat < n + 10 with
    | some n => Nat.digitChar (c.toNat - n)
    | none => '?'

/-- A blank of C, which `int` passes over at both ends. -/
def isNumeralBlank (c : Char) : Bool := c = ' ' || (9 ≤ c.toNat && c.toNat ≤ 13)

/-- `text.strip(chars)` -/
def stripChars (p : Char → Bool) (cs : List Char) : List Char :=
  ((cs.dropWhile p).reverse.dropWhile p).reverse

def dropPlus : List Char → List Char
  | '+' :: cs => cs
  | cs => cs

/-- A numeral without its prefix `0x`, and without the underscore that may stand behind it. -/
def dropHexPrefix : List Char → List Char
  | '0' :: 'x' :: '_' :: cs => cs
  | '0' :: 'x' :: cs => cs
  | '0' :: 'X' :: '_' :: cs => cs
  | '0' :: 'X' :: cs => cs
  | cs => cs

/-- Digits with underscores between them. -/
def groupedDigits (cs : List Char) : Option (List (Fin 16)) :=
  ((cs.splitOn '_').mapM fun group => if group = [] then none else group.mapM hexValue).map
    List.flatten

/-- The digits of `int(text, 16)`, for text without a minus sign; `none` is a `ValueError`. -/
def numeralDigits (cs : List Char) : Option (List (Fin 16)) :=
  groupedDigits (dropHexPrefix (dropPlus (stripChars isNumeralBlank (cs.map asciiOf))))

theorem stripChars_eq_self {p : Char → Bool} {cs : List Char} (h : ∀ c ∈ cs, p c = false) :
    stripChars p cs = cs := by
  have keep : ∀ l : List Char, (∀ c ∈ l, p c = false) → l.dropWhile p = l := by
    intro l hl
    cases l with
    | nil => rfl
    | cons c l => rw [List.dropWhile_cons_of_neg (by simp [hl c List.mem_cons_self])]
  rw [stripChars, keep cs h, keep cs.reverse (by simpa using h), List.reverse_reverse]

variable {cs : List Char}

theorem ne_of_isHex {c d : Char} (hc : isHex c = true) (hd : isHex d = false) : c ≠ d := by
  rintro rfl
  rw [hc] at hd
  cases hd

theorem asciiOf_of_isHex {c : Char} (h : isHex c = true) : asciiOf c = c :=
  if_pos (lt_of_le_of_lt (toNat_of_isHex h).2 (by decide))

theorem dropPlus_of_hex (h : ∀ c ∈ cs, isHex c = true) : dropPlus cs = cs := by
  unfold dropPlus
  split
  · exact absurd (h '+' List.mem_cons_self) (by decide)
  · rfl

theorem dropHexPrefix_of_hex (h : ∀ c ∈ cs, isHex c = true) : dropHexPrefix cs = cs := by
  unfold dropHexPrefix
  split
  · exact absurd (h 'x' (by simp)) (by decide)
  · exact absurd (h 'x' (by simp)) (by decide)
  · exact absurd (h 'X' (by simp)) (by decide)
  · exact absurd (h 'X' (by simp)) (by decide)
  · rfl

theorem groupedDigits_of_hex (hne : cs ≠ []) (h : ∀ c ∈ cs, isHex c = true) :
    groupedDigits cs = cs.mapM hexValue := by
  have hsplit : cs.splitOn '_' = [cs] :=
    List.splitOn_eq_singleton fun hmem => ne_of_isHex (h '_' hmem) (by decide) rfl
  rw [groupedDigits, hsplit, List.mapM_cons, if_neg hne]
  cases cs.mapM hexValue with
  | none => rfl
  | some ds => simp

/-- A numeral of hexadecimal digits only has just these digits. -/
theorem numeralDigits_of_hex (hne : cs ≠ []) (h : ∀ c ∈ cs, isHex c = true) :
    numeralDigits cs = cs.mapM hexValue := by
  have hmap : cs.map asciiOf = cs := by
    conv_rhs => rw [← List.map_id cs]
    exact List.map_congr_left fun c hc => asciiOf_of_isHex (h c hc)
  have hblank : ∀ c ∈ cs, isNumeralBlank c = false := by
    intro c hc
    have hlow := (toNat_of_isHex (h c hc)).1
    have hspace : c ≠ ' ' := ne_of_isHex (h c hc) (by decide)
    have hhigh : ¬ c.toNat ≤ 13 := by omega
    simp [isNumeralBlank, hspace, hhigh]
  rw [numeralDigits, hmap, stripChars_eq_self hblank, dropPlus_of_hex h, dropHexPrefix_of_hex h,
    groupedDigits_of_hex hne h]

end Numerals

namespace Uuid

/-- The characters of an identifier in groups of 8, 4, 4, 4 and 12. -/
def grouped (cs : List Char) : List Char :=
  cs.take 8 ++ '-' :: (cs.drop 8).take 4 ++ '-' :: (cs.drop 12).take 4 ++
    '-' :: (cs.drop 16).take 4 ++ '-' :: cs.drop 20

/-- The characters of the text of an identifier. -/
def strChars (u : Uuid) : List Char := grouped (u.digits.toList.map hexDigit)

/-- `str(u)` -/
def str (u : Uuid) : String := String.ofList u.strChars

/-- The identifier of at most 32 digits, with zeros before them. -/
def ofDigits (digits : List (Fin 16)) : Option Uuid :=
  if h : (List.replicate (32 - digits.length) 0 ++ digits).length = 32 then some ⟨_, h⟩ else none

/-- The characters that `UUID(text)` reads as a numeral. -/
def bareChars (text : String) : List Char :=
  (stripChars (· ∈ ['{', '}']) (replaceText "uuid:" "" (replaceText "urn:" "" text)).toList).filter
    (· ≠ '-')

/-- `UUID(text)`; `none` is a `ValueError`. -/
@[irreducible] def parse (text : String) : Option Uuid :=
  if (bareChars text).length = 32 then (numeralDigits (bareChars text)).bind ofDigits else none

/-- Hyphens between the groups of an identifier, and nowhere else. -/
def readGrouped (cs : List Char) : Option Uuid :=
  if cs = grouped (cs.filter (· ≠ '-')) then ((cs.filter (· ≠ '-')).mapM hexValue).bind ofDigits
  else none

/-- The identifier that a field reads from text: 32 digits, or groups with hyphens, which may be in
braces or behind `urn:uuid:`. -/
@[irreducible] def read (text : String) : Option Uuid :=
  let cs := text.toList
  if cs.length = 32 then (cs.mapM hexValue).bind ofDigits
  else if cs.length = 36 then readGrouped cs
  else if cs.length = 38 ∧ cs.head? = some '{' ∧ cs.getLast? = some '}' then
    readGrouped cs.tail.dropLast
  else if cs.length = 45 ∧ "urn:uuid:".toList.isPrefixOf cs then readGrouped (cs.drop 9)
  else none

theorem mem_grouped {cs : List Char} {c : Char} (h : c ∈ grouped cs) : c = '-' ∨ c ∈ cs := by
  simp only [grouped, List.mem_append, List.mem_cons] at h
  rcases h with (((h | rfl | h) | rfl | h) | rfl | h) | rfl | h
  · exact Or.inr (List.mem_of_mem_take h)
  · exact Or.inl rfl
  · exact Or.inr (List.mem_of_mem_drop (List.mem_of_mem_take h))
  · exact Or.inl rfl
  · exact Or.inr (List.mem_of_mem_drop (List.mem_of_mem_take h))
  · exact Or.inl rfl
  · exact Or.inr (List.mem_of_mem_drop (List.mem_of_mem_take h))
  · exact Or.inl rfl
  · exact Or.inr (List.mem_of_mem_drop h)

theorem mem_strChars {u : Uuid} {c : Char} (h : c ∈ u.strChars) :
    c = '-' ∨ ∃ d, c = hexDigit d := by
  refine (mem_grouped h).imp id fun hmem => ?_
  obtain ⟨d, -, rfl⟩ := List.mem_map.mp hmem
  exact ⟨d, rfl⟩

/-- Removing the hyphens leaves the characters. -/
theorem filter_grouped {cs : List Char} (h : '-' ∉ cs) : (grouped cs).filter (· ≠ '-') = cs := by
  have keep : ∀ l : List Char, l ⊆ cs → l.filter (· ≠ '-') = l := fun l hl =>
    List.filter_eq_self.mpr fun c hc => decide_eq_true fun he => h (he ▸ hl hc)
  have hsplit : cs.take 8 ++ (cs.drop 8).take 4 ++ (cs.drop 12).take 4 ++ (cs.drop 16).take 4 ++
      cs.drop 20 = cs := by
    rw [List.append_assoc, List.append_assoc, List.append_assoc, show 20 = 16 + 4 from rfl,
      ← List.drop_drop, List.take_append_drop, show 16 = 12 + 4 from rfl, ← List.drop_drop,
      List.take_append_drop, show 12 = 8 + 4 from rfl, ← List.drop_drop, List.take_append_drop,
      List.take_append_drop]
  have htake : ∀ n m, (cs.drop n).take m ⊆ cs := fun n m _ hc =>
    List.mem_of_mem_drop (List.mem_of_mem_take hc)
  conv_rhs => rw [← hsplit]
  simp only [grouped, List.filter_append, List.filter_cons, keep _ (List.take_subset 8 cs),
    keep _ (htake _ _), keep _ (List.drop_subset 20 cs)]
  simp

/-- Removing the hyphens leaves the digits. -/
theorem filter_strChars (u : Uuid) :
    u.strChars.filter (· ≠ '-') = u.digits.toList.map hexDigit := by
  refine filter_grouped fun hmem => ?_
  obtain ⟨d, -, hd⟩ := List.mem_map.mp hmem
  exact (hexDigit_ne d).1 hd

theorem mapM_hexValue_map (ds : List (Fin 16)) : (ds.map hexDigit).mapM hexValue = some ds := by
  induction ds with
  | nil => rfl
  | cons d ds ih => simp [List.mapM_cons, ih]

theorem ofDigits_of_length {ds : List (Fin 16)} (h : ds.length = 32) :
    ofDigits ds = some ⟨ds, h⟩ := by
  have hzeros : List.replicate (32 - ds.length) 0 ++ ds = ds := by
    rw [h]
    rfl
  simp only [ofDigits, hzeros, dif_pos h]

theorem bareChars_of_hex {cs : List Char} (h : ∀ c ∈ cs, c = '-' ∨ isHex c = true) :
    bareChars (String.ofList cs) = cs.filter (· ≠ '-') := by
  have hother : ∀ {d : Char}, d ≠ '-' → isHex d = false → d ∉ cs := fun hd hhex hmem =>
    (h _ hmem).elim hd fun ht => ne_of_isHex ht hhex rfl
  have hbraces : ∀ c ∈ cs, decide (c ∈ ['{', '}']) = false := by
    intro c hc
    refine decide_eq_false fun hmem => ?_
    rcases List.mem_pair.mp hmem with rfl | rfl
    · exact hother (by decide) (by decide) hc
    · exact hother (by decide) (by decide) hc
  have hu : 'u' ∉ (String.ofList cs).toList := by
    rw [String.toList_ofList]
    exact hother (by decide) (by decide)
  rw [bareChars, replaceText_eq_self "" (by decide) hu, replaceText_eq_self "" (by decide) hu,
    String.toList_ofList, stripChars_eq_self hbraces]

/-- **Text of 32 hexadecimal digits and hyphens is an identifier.** -/
theorem parse_of_hex {cs : List Char} (h : ∀ c ∈ cs, c = '-' ∨ isHex c = true)
    {ds : List (Fin 16)} (hds : (cs.filter (· ≠ '-')).mapM hexValue = some ds)
    (hchars : (cs.filter (· ≠ '-')).length = 32) (hlength : ds.length = 32) :
    parse (String.ofList cs) = some ⟨ds, hlength⟩ := by
  have hhex : ∀ c ∈ cs.filter (· ≠ '-'), isHex c = true := by
    intro c hc
    obtain ⟨hmem, hne⟩ := List.mem_filter.mp hc
    exact (h c hmem).resolve_left (of_decide_eq_true hne)
  have hne : cs.filter (· ≠ '-') ≠ [] := List.ne_nil_of_length_eq_add_one hchars
  rw [parse, bareChars_of_hex h, if_pos hchars, numeralDigits_of_hex hne hhex, hds,
    Option.bind_some, ofDigits_of_length hlength]

theorem length_strChars (u : Uuid) : u.strChars.length = 36 := by
  have hl : u.digits.toList.length = 32 := u.digits.2
  simp [strChars, grouped, hl]

/-- **The text of an identifier is read back as that identifier.** -/
theorem parse_str (u : Uuid) : parse u.str = some u := by
  have hchars : ∀ c ∈ u.strChars, c = '-' ∨ isHex c = true := by
    intro c hc
    refine (mem_strChars hc).imp id ?_
    rintro ⟨d, rfl⟩
    rw [isHex, hexValue_hexDigit]
    rfl
  have hlength : (u.strChars.filter (· ≠ '-')).length = 32 := by
    rw [filter_strChars, List.length_map]
    exact u.digits.2
  have hdigits : (u.strChars.filter (· ≠ '-')).mapM hexValue = some u.digits.toList := by
    rw [filter_strChars, mapM_hexValue_map]
  exact parse_of_hex hchars hdigits hlength u.digits.2

/-- A field reads the text of an identifier as that identifier. -/
theorem read_str (u : Uuid) : read u.str = some u := by
  have hgrouped : readGrouped u.strChars = some u := by
    rw [readGrouped, filter_strChars, mapM_hexValue_map, Option.bind_some]
    exact (if_pos rfl).trans (ofDigits_of_length u.digits.2)
  rw [read, str, String.toList_ofList, length_strChars, if_neg (by decide), if_pos rfl]
  exact hgrouped

theorem str_injective : Function.Injective str := by
  intro u v h
  have hp := parse_str u
  rw [h, parse_str] at hp
  exact (Option.some.inj hp).symm

theorem length_str (u : Uuid) : u.str.length = 36 := by
  rw [str, String.length_ofList, length_strChars]

theorem str_ne_empty (u : Uuid) : u.str ≠ "" := by
  intro h
  have hl := congrArg String.length h
  rw [length_str] at hl
  exact absurd hl (by decide)

theorem isBare_hexDigit (d : Fin 16) : isBare (hexDigit d) = true := by
  revert d
  decide

/-- The text of an identifier has no quotes and no escapes. -/
theorem str_bare (u : Uuid) : u.str.toList.all isBare = true := by
  rw [str, String.toList_ofList, List.all_eq_true]
  intro c hc
  rcases mem_strChars hc with rfl | ⟨d, rfl⟩
  · decide
  · exact isBare_hexDigit d

theorem str_ne_none (u : Uuid) : u.str ≠ "None" := by
  intro h
  have hl := congrArg String.length h
  rw [length_str] at hl
  exact absurd hl (by decide)

/-- The identifier whose digits all are `d`. -/
def repeated (d : Fin 16) : Uuid := ⟨List.Vector.replicate 32 d⟩

end Uuid

end Python
