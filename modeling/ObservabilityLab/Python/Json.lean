import ObservabilityLab.Python.Uuid

/-!
# JSON texts

The decoder of the `json` module, and the compact dump of a mapping from texts to texts. What is
dumped decodes to the same mapping.

## Main definitions

* `JsonValue`: a decoded value; texts are their code points, which may be lone surrogates
* `jsonLoads`: `json.loads(text)`, without a limit on the nesting
* `dumpsMapping`: `json.dumps(mapping, separators=(",", ":"))` of texts in a given order

## Main results

* `scanString_escape`, `joinSurrogates_units`: an escaped text is read back
* `jsonLoads_dumpsMapping`: a dumped mapping is read back
-/

namespace Python

/-! ## Decoding -/

/-- A decoded value; a number is kept as its literal. -/
inductive JsonValue where
  | null
  | bool (b : Bool)
  | number (literal : List Char)
  | string (codes : List ℕ)
  | array (items : List JsonValue)
  | object (entries : List (List ℕ × JsonValue))

def isJsonSpace (c : Char) : Bool := c = ' ' || c = '\t' || c = '\n' || c = '\r'

def skipSpace (cs : List Char) : List Char := cs.dropWhile isJsonSpace

/-- The code unit of four hexadecimal digits. -/
def hexUnit (a b c d : Char) : Option ℕ := do
  let a ← hexValue a
  let b ← hexValue b
  let c ← hexValue c
  let d ← hexValue d
  return ((a.val * 16 + b.val) * 16 + c.val) * 16 + d.val

/-- The code unit of an escape with one letter. -/
def escapedUnit (c : Char) : Option ℕ :=
  if c = '"' ∨ c = '\\' ∨ c = '/' then some c.toNat
  else if c = 'b' then some 8
  else if c = 'f' then some 12
  else if c = 'n' then some 10
  else if c = 'r' then some 13
  else if c = 't' then some 9
  else none

/-- The code units of a text up to its closing quote, and what comes after it. -/
def scanString : List Char → Option (List ℕ × List Char)
  | [] => none
  | '"' :: rest => some ([], rest)
  | '\\' :: 'u' :: a :: b :: c :: d :: rest => do
    let unit ← hexUnit a b c d
    let (units, rest) ← scanString rest
    return (unit :: units, rest)
  | '\\' :: escape :: rest => do
    let unit ← escapedUnit escape
    let (units, rest) ← scanString rest
    return (unit :: units, rest)
  | c :: rest =>
    -- neither a control character nor a backslash at the end stands for itself
    if c.toNat < 0x20 ∨ c = '\\' then none
    else do
      let (units, rest) ← scanString rest
      return (c.toNat :: units, rest)
termination_by structural cs => cs

def isHighSurrogate (unit : ℕ) : Bool := 0xd800 ≤ unit && unit ≤ 0xdbff

def isLowSurrogate (unit : ℕ) : Bool := 0xdc00 ≤ unit && unit ≤ 0xdfff

/-- The code points of code units: a pair of surrogates is one code point. -/
def joinSurrogates : List ℕ → List ℕ
  | [] => []
  | [unit] => [unit]
  | high :: low :: units =>
    if isHighSurrogate high && isLowSurrogate low then
      (0x10000 + (high - 0xd800) * 0x400 + (low - 0xdc00)) :: joinSurrogates units
    else high :: joinSurrogates (low :: units)

/-- The largest number of digits of an integer that is converted from its text. -/
def maxIntegerDigits : ℕ := 4300

/-- A fraction: a point, and at least one digit. -/
def scanFraction (cs : List Char) : List Char × List Char :=
  match cs with
  | '.' :: rest =>
    let (digits, rest) := rest.span isAsciiDigit
    if digits = [] then ([], cs) else ('.' :: digits, rest)
  | _ => ([], cs)

/-- An exponent: a letter, a sign if there is one, and at least one digit. -/
def scanExponent (cs : List Char) : List Char × List Char :=
  match cs with
  | letter :: rest =>
    if letter = 'e' ∨ letter = 'E' then
      let (sign, rest) := rest.span fun c => c = '+' || c = '-'
      let (digits, rest) := rest.span isAsciiDigit
      if digits = [] ∨ 1 < sign.length then ([], cs) else (letter :: sign ++ digits, rest)
    else ([], cs)
  | [] => ([], cs)

/-- The parts of a number after its integer part. An integer with too many digits is an error. -/
def scanNumberEnd (sign integer rest : List Char) : Option (JsonValue × List Char) :=
  let (fraction, rest) := scanFraction rest
  let (exponent, rest) := scanExponent rest
  if fraction = [] ∧ exponent = [] ∧ maxIntegerDigits < integer.length then none
  else some (.number (sign ++ integer ++ fraction ++ exponent), rest)

def scanNumber (cs : List Char) : Option (JsonValue × List Char) :=
  let (sign, rest) := if cs.head? = some '-' then (['-'], cs.tail) else ([], cs)
  match rest with
  | [] => none
  | c :: rest =>
    if c = '0' then scanNumberEnd sign ['0'] rest
    else if isAsciiDigit c then
      let (digits, rest) := rest.span isAsciiDigit
      scanNumberEnd sign (c :: digits) rest
    else none

/-- The literals with a fixed spelling. -/
def jsonLiterals : List (String × JsonValue) :=
  [("null", .null), ("true", .bool true), ("false", .bool false), ("NaN", .number "NaN".toList),
    ("Infinity", .number "Infinity".toList), ("-Infinity", .number "-Infinity".toList)]

/-- A literal or a number. -/
def scanScalar (cs : List Char) : Option (JsonValue × List Char) :=
  match jsonLiterals.find? fun entry => entry.1.toList.isPrefixOf cs with
  | some entry => some (entry.2, cs.drop entry.1.length)
  | none => scanNumber cs

/-- `dict(pairs)`: the last value of each key. -/
def dictOf : List (List ℕ × JsonValue) → List (List ℕ × JsonValue)
  | [] => []
  | (key, value) :: entries =>
    if entries.any (·.1 = key) then dictOf entries else (key, value) :: dictOf entries

mutual

/-- The value at the start of a text, and what comes after it. -/
def scanValue : ℕ → List Char → Option (JsonValue × List Char)
  | 0, _ => none
  | _, [] => none
  | fuel + 1, c :: rest =>
    if c = '"' then do
      let (units, rest) ← scanString rest
      return (.string (joinSurrogates units), rest)
    else if c = '{' then
      if (skipSpace rest).head? = some '}' then some (.object [], (skipSpace rest).tail)
      else do
        let (entries, rest) ← scanMembers fuel (skipSpace rest)
        return (.object (dictOf entries), rest)
    else if c = '[' then
      if (skipSpace rest).head? = some ']' then some (.array [], (skipSpace rest).tail)
      else do
        let (items, rest) ← scanItems fuel (skipSpace rest)
        return (.array items, rest)
    else scanScalar (c :: rest)

/-- The members of an object up to its closing brace. -/
def scanMembers : ℕ → List Char → Option (List (List ℕ × JsonValue) × List Char)
  | 0, _ => none
  | _, [] => none
  | fuel + 1, quote :: rest =>
    if quote = '"' then do
      let (units, rest) ← scanString rest
      match skipSpace rest with
      | [] => none
      | colon :: rest =>
        if colon = ':' then do
          let (value, rest) ← scanValue fuel (skipSpace rest)
          match skipSpace rest with
          | [] => none
          | c :: rest =>
            if c = '}' then some ([(joinSurrogates units, value)], rest)
            else if c = ',' then do
              let (entries, rest) ← scanMembers fuel (skipSpace rest)
              return ((joinSurrogates units, value) :: entries, rest)
            else none
        else none
    else none

/-- The items of an array up to its closing bracket. -/
def scanItems : ℕ → List Char → Option (List JsonValue × List Char)
  | 0, _ => none
  | fuel + 1, cs => do
    let (value, rest) ← scanValue fuel cs
    match skipSpace rest with
    | [] => none
    | c :: rest =>
      if c = ']' then some ([value], rest)
      else if c = ',' then do
        let (items, rest) ← scanItems fuel (skipSpace rest)
        return (value :: items, rest)
      else none

end

/-- `json.loads(text)`; `none` is a `ValueError`. The fuel is enough for every text: a value takes
a character, and so does every member of an object or an array. -/
def jsonLoads (text : String) : Option JsonValue :=
  match scanValue (2 * text.length + 2) (skipSpace text.toList) with
  | some (value, rest) => if skipSpace rest = [] then some value else none
  | none => none

/-! ## Dumping -/

/-- `\uXXXX` -/
def unitEscape (unit : ℕ) : List Char :=
  ['\\', 'u', hexDigit (Fin.ofNat 16 (unit / 4096)), hexDigit (Fin.ofNat 16 (unit / 256)),
    hexDigit (Fin.ofNat 16 (unit / 16)), hexDigit (Fin.ofNat 16 unit)]

/-- The code units of a character. -/
def unitsOf (c : Char) : List ℕ :=
  if c.toNat < 0x10000 then [c.toNat]
  else [0xd800 + (c.toNat - 0x10000) / 0x400, 0xdc00 + (c.toNat - 0x10000) % 0x400]

/-- One character of a dumped text. -/
def jsonEscape (c : Char) : List Char :=
  if c = '"' then ['\\', '"']
  else if c = '\\' then ['\\', '\\']
  else if c = '\n' then ['\\', 'n']
  else if c = '\r' then ['\\', 'r']
  else if c = '\t' then ['\\', 't']
  else if c.toNat = 12 then ['\\', 'f']
  else if c.toNat = 8 then ['\\', 'b']
  else if 0x20 ≤ c.toNat ∧ c.toNat < 0x7f then [c]
  else (unitsOf c).flatMap unitEscape

def dumpsText (s : String) : List Char := '"' :: s.toList.flatMap jsonEscape ++ ['"']

def dumpsMember (entry : String × String) : List Char :=
  dumpsText entry.1 ++ ':' :: dumpsText entry.2

/-- `json.dumps(mapping, separators=(",", ":"))` -/
def dumpsMapping (mapping : List (String × String)) : String :=
  String.ofList ('{' :: [','].intercalate (mapping.map dumpsMember) ++ ['}'])

/-! ## Texts are read back -/

section Texts

variable {c : Char} {rest : List Char}

theorem scanString_quote : scanString ('"' :: rest) = some ([], rest) := by
  rw [scanString]

theorem scanString_cons_escape {escape : Char} {unit : ℕ} (hescape : escape ≠ 'u')
    (hunit : escapedUnit escape = some unit) : scanString ('\\' :: escape :: rest) =
      (scanString rest).map fun p => ([unit] ++ p.1, p.2) := by
  rw [scanString]
  · rw [hunit]
    cases scanString rest <;> rfl
  · rintro a b c d rest rfl
    exact absurd rfl hescape

/-- An escaped code unit is read back. -/
theorem scanString_unitEscape {unit : ℕ} (h : unit < 0x10000) :
    scanString (unitEscape unit ++ rest) =
      (scanString rest).map fun p => ([unit] ++ p.1, p.2) := by
  have hunit : hexUnit (hexDigit (Fin.ofNat 16 (unit / 4096)))
      (hexDigit (Fin.ofNat 16 (unit / 256)))
      (hexDigit (Fin.ofNat 16 (unit / 16))) (hexDigit (Fin.ofNat 16 unit)) = some unit := by
    rw [hexUnit]
    simp only [hexValue_hexDigit, Option.pure_def, Option.bind_eq_bind, Option.bind_some,
      Fin.val_ofNat, Option.some.injEq]
    omega
  rw [unitEscape, List.cons_append, List.cons_append, List.cons_append, List.cons_append,
    List.cons_append, List.cons_append, List.nil_append]
  rw [scanString, hunit]
  cases scanString rest <;> rfl

/-- The code points of characters are no surrogates. -/
theorem toNat_valid (c : Char) : c.toNat < 0xd800 ∨ 0xdfff < c.toNat ∧ c.toNat < 0x110000 := by
  rcases c.valid with h | ⟨h, hmax⟩
  · exact Or.inl h
  · exact Or.inr ⟨h, hmax⟩

theorem lt_of_mem_unitsOf {unit : ℕ} (h : unit ∈ unitsOf c) : unit < 0x10000 := by
  have hvalid := toNat_valid c
  unfold unitsOf at h
  split_ifs at h with hbasic
  · rw [List.mem_singleton] at h
    omega
  · rw [List.mem_pair] at h
    omega

theorem scanString_units {units : List ℕ} (h : ∀ unit ∈ units, unit < 0x10000) :
    scanString (units.flatMap unitEscape ++ rest) =
      (scanString rest).map fun p => (units ++ p.1, p.2) := by
  induction units with
  | nil =>
    rw [List.flatMap_nil, List.nil_append]
    cases scanString rest <;> rfl
  | cons unit units ih =>
    rw [List.flatMap_cons, List.append_assoc, scanString_unitEscape (h unit List.mem_cons_self),
      ih fun other hother => h other (List.mem_cons_of_mem _ hother), Option.map_map]
    rfl

theorem scanString_plain (hspace : 0x20 ≤ c.toNat) (hquote : c ≠ '"') (hslash : c ≠ '\\') :
    scanString (c :: rest) = (scanString rest).map fun p => ([c.toNat] ++ p.1, p.2) := by
  rw [scanString]
  · rw [if_neg (by simp [hslash, hspace])]
    cases scanString rest <;> rfl
  · exact hquote
  · rintro _ _ _ _ _ rfl
    exact absurd rfl hslash
  · rintro _ _ rfl
    exact absurd rfl hslash

/-- **An escaped character is read back**, as its code units. -/
theorem scanString_jsonEscape : scanString (jsonEscape c ++ rest) =
    (scanString rest).map fun p => (unitsOf c ++ p.1, p.2) := by
  have hascii (h : c.toNat < 0x80) : unitsOf c = [c.toNat] := if_pos (by omega)
  unfold jsonEscape
  split_ifs with hquote hslash hnewline hreturn htab hform hback hplain
  · subst hquote
    exact scanString_cons_escape (by decide) rfl
  · subst hslash
    exact scanString_cons_escape (by decide) rfl
  · subst hnewline
    exact scanString_cons_escape (by decide) rfl
  · subst hreturn
    exact scanString_cons_escape (by decide) rfl
  · subst htab
    exact scanString_cons_escape (by decide) rfl
  · rw [hascii (by omega), hform]
    exact scanString_cons_escape (by decide) rfl
  · rw [hascii (by omega), hback]
    exact scanString_cons_escape (by decide) rfl
  · rw [hascii (by omega)]
    exact scanString_plain hplain.1 hquote hslash
  · exact scanString_units fun unit hunit => lt_of_mem_unitsOf hunit

/-- **An escaped text is read back** up to its closing quote. -/
theorem scanString_escape (cs : List Char) (rest : List Char) :
    scanString (cs.flatMap jsonEscape ++ '"' :: rest) = some (cs.flatMap unitsOf, rest) := by
  induction cs with
  | nil => exact scanString_quote
  | cons c cs ih =>
    rw [List.flatMap_cons, List.append_assoc, scanString_jsonEscape, ih]
    rfl

theorem joinSurrogates_cons {unit : ℕ} {units : List ℕ} (h : isHighSurrogate unit = false) :
    joinSurrogates (unit :: units) = unit :: joinSurrogates units := by
  cases units with
  | nil => rfl
  | cons low units => rw [joinSurrogates, h, Bool.false_and, if_neg Bool.false_ne_true]

/-- **The code units of a text are joined to its code points.** -/
theorem joinSurrogates_units (cs : List Char) :
    joinSurrogates (cs.flatMap unitsOf) = cs.map Char.toNat := by
  induction cs with
  | nil => rfl
  | cons c cs ih =>
    have hvalid := toNat_valid c
    rw [List.flatMap_cons, List.map_cons, unitsOf]
    split_ifs with hbasic
    · rw [List.singleton_append, joinSurrogates_cons, ih]
      simp only [isHighSurrogate, Bool.and_eq_false_iff, decide_eq_false_iff_not]
      omega
    · have hpair : (isHighSurrogate (0xd800 + (c.toNat - 0x10000) / 0x400) &&
          isLowSurrogate (0xdc00 + (c.toNat - 0x10000) % 0x400)) = true := by
        simp only [isHighSurrogate, isLowSurrogate, Bool.and_eq_true, decide_eq_true_eq]
        omega
      have hcode : 0x10000 + (0xd800 + (c.toNat - 0x10000) / 0x400 - 0xd800) * 0x400 +
          (0xdc00 + (c.toNat - 0x10000) % 0x400 - 0xdc00) = c.toNat := by omega
      rw [List.cons_append, List.cons_append, List.nil_append, joinSurrogates, if_pos hpair, ih,
        hcode]

end Texts

/-! ## Mappings are read back -/

section Mappings

variable {mapping : List (String × String)} {entry : String × String} {rest : List Char} {fuel : ℕ}

/-- The code points of a text. -/
def codesOf (s : String) : List ℕ := s.toList.map Char.toNat

/-- A member of a dumped mapping, as it is read back. -/
def decodedMember (entry : String × String) : List ℕ × JsonValue :=
  (codesOf entry.1, .string (codesOf entry.2))

theorem dumpsText_append (s : String) : dumpsText s ++ rest =
    '"' :: (s.toList.flatMap jsonEscape ++ '"' :: rest) := by
  simp [dumpsText]

theorem dumpsMember_append : dumpsMember entry ++ rest =
    '"' :: (entry.1.toList.flatMap jsonEscape ++ '"' :: ':' :: (dumpsText entry.2 ++ rest)) := by
  simp [dumpsMember, dumpsText]

theorem scanValue_dumpsText (s : String) :
    scanValue (fuel + 1) (dumpsText s ++ rest) = some (.string (codesOf s), rest) := by
  rw [dumpsText_append, scanValue, if_pos rfl, scanString_escape]
  simp only [Option.bind_eq_bind, Option.bind_some, joinSurrogates_units]
  rfl

/-- A member of a dumped mapping is read back, up to what decides whether it is the last one. -/
theorem scanMembers_dumpsMember {c : Char} (hspace : isJsonSpace c = false) :
    scanMembers (fuel + 2) (dumpsMember entry ++ c :: rest) =
      if c = '}' then some ([decodedMember entry], rest)
      else if c = ',' then
        (scanMembers (fuel + 1) (skipSpace rest)).map fun p => (decodedMember entry :: p.1, p.2)
      else none := by
  have hcolon : skipSpace (':' :: (dumpsText entry.2 ++ c :: rest)) =
      ':' :: (dumpsText entry.2 ++ c :: rest) := rfl
  have hvalue : skipSpace (dumpsText entry.2 ++ c :: rest) = dumpsText entry.2 ++ c :: rest := rfl
  have hend : skipSpace (c :: rest) = c :: rest := by
    rw [skipSpace, List.dropWhile_cons, hspace, if_neg Bool.false_ne_true]
  rw [dumpsMember_append, scanMembers, if_pos rfl, scanString_escape]
  simp only [Option.bind_eq_bind, Option.bind_some, joinSurrogates_units, hcolon, hvalue,
    scanValue_dumpsText, hend, if_true]
  split_ifs
  · rfl
  · cases scanMembers (fuel + 1) (skipSpace rest) <;> rfl
  · rfl

/-- The members of a mapping start with a quote. -/
theorem skipSpace_members :
    skipSpace ([','].intercalate ((entry :: mapping).map dumpsMember) ++ rest) =
      [','].intercalate ((entry :: mapping).map dumpsMember) ++ rest := by
  cases mapping with
  | nil => rfl
  | cons next mapping => rfl

/-- **The members of a dumped mapping are read back.** -/
theorem scanMembers_intercalate (mapping : List (String × String)) (hfuel : mapping.length < fuel) :
    scanMembers (fuel + 1)
        ([','].intercalate ((entry :: mapping).map dumpsMember) ++ '}' :: rest) =
      some ((entry :: mapping).map decodedMember, rest) := by
  induction mapping generalizing entry fuel with
  | nil =>
    cases fuel with
    | zero => exact absurd hfuel (Nat.not_lt_zero _)
    | succ fuel =>
      rw [List.map_singleton, List.intercalate_singleton]
      exact scanMembers_dumpsMember rfl
  | cons next mapping ih =>
    cases fuel with
    | zero => exact absurd hfuel (Nat.not_lt_zero _)
    | succ fuel =>
      have hmore : mapping.length < fuel := Nat.lt_of_succ_lt_succ hfuel
      have hcut : [','].intercalate ((entry :: next :: mapping).map dumpsMember) ++ '}' :: rest =
          dumpsMember entry ++ ',' ::
            ([','].intercalate ((next :: mapping).map dumpsMember) ++ '}' :: rest) := by
        simp [List.append_assoc]
      rw [hcut, scanMembers_dumpsMember rfl, if_neg (by decide), if_pos rfl, skipSpace_members,
        ih hmore]
      rfl

theorem dictOf_eq_self {entries : List (List ℕ × JsonValue)} (h : (entries.map (·.1)).Nodup) :
    dictOf entries = entries := by
  induction entries with
  | nil => rfl
  | cons entry entries ih =>
    obtain ⟨hnew, hrest⟩ := List.nodup_cons.mp h
    have hany : ¬ entries.any (·.1 = entry.1) = true := by
      rw [List.any_eq_true]
      rintro ⟨other, hother, heq⟩
      have hkey : other.1 = entry.1 := of_decide_eq_true heq
      exact hnew (List.mem_map.mpr ⟨other, hother, hkey⟩)
    obtain ⟨key, value⟩ := entry
    rw [dictOf, if_neg hany, ih hrest]

theorem codesOf_injective : Function.Injective codesOf := by
  intro s t h
  have hchars : s.toList = t.toList :=
    List.map_injective_iff.mpr (fun _ _ => Char.toNat_inj.mp) h
  exact String.toList_inj.mp hchars

theorem nodup_decoded (h : (mapping.map (·.1)).Nodup) :
    ((mapping.map decodedMember).map (·.1)).Nodup := by
  have hkeys : (mapping.map decodedMember).map (·.1) = (mapping.map (·.1)).map codesOf := by
    rw [List.map_map, List.map_map]
    rfl
  rw [hkeys]
  exact h.map codesOf_injective

theorem length_le_members (mapping : List (String × String)) :
    mapping.length ≤ ([','].intercalate (mapping.map dumpsMember)).length := by
  induction mapping with
  | nil => exact Nat.zero_le _
  | cons entry mapping ih =>
    cases mapping with
    | nil => simp [dumpsMember, dumpsText]
    | cons next mapping =>
      rw [List.map_cons, List.map_cons, List.intercalate_cons_cons, List.length_append,
        List.length_append, ← List.map_cons, List.length_cons]
      rw [List.length_singleton]
      omega

/-- **A dumped mapping is read back.** -/
theorem jsonLoads_dumpsMapping (h : (mapping.map (·.1)).Nodup) :
    jsonLoads (dumpsMapping mapping) = some (.object (mapping.map decodedMember)) := by
  have htext : (dumpsMapping mapping).toList =
      '{' :: ([','].intercalate (mapping.map dumpsMember) ++ ['}']) := by
    rw [dumpsMapping, String.toList_ofList, List.cons_append]
  have hspace : skipSpace (dumpsMapping mapping).toList = (dumpsMapping mapping).toList := by
    rw [htext]
    rfl
  rw [jsonLoads, hspace, htext]
  cases mapping with
  | nil => rfl
  | cons entry mapping =>
    have hlength := length_le_members (entry :: mapping)
    have hsize : (dumpsMapping (entry :: mapping)).length =
        ([','].intercalate ((entry :: mapping).map dumpsMember)).length + 2 := by
      rw [← String.length_toList, htext, List.length_cons, List.length_append,
        List.length_singleton]
    rw [List.length_cons] at hlength
    obtain ⟨fuel, hfuel⟩ : ∃ fuel, 2 * (dumpsMapping (entry :: mapping)).length + 2 = fuel + 2 ∧
        mapping.length < fuel := ⟨_, rfl, by omega⟩
    have hhead : ¬ (skipSpace ([','].intercalate ((entry :: mapping).map dumpsMember) ++
        ['}'])).head? = some '}' := by
      rw [skipSpace_members]
      have hquote : ([','].intercalate ((entry :: mapping).map dumpsMember) ++ ['}']).head? =
          some '"' := by
        cases mapping with
        | nil => rfl
        | cons next mapping => rfl
      rw [hquote]
      decide
    rw [hfuel.1, scanValue, if_neg (by decide), if_pos rfl, if_neg hhead, skipSpace_members,
      scanMembers_intercalate mapping hfuel.2]
    simp only [Option.bind_eq_bind, Option.bind_some, dictOf_eq_self (nodup_decoded h)]
    rfl

end Mappings

end Python
