import Mathlib.Data.Rat.Floor
import Mathlib.Tactic.Ring
import Mathlib.Tactic.SplitIfs

/-!
# Python `decimal.Decimal`

A finite decimal is a sign, a coefficient and an exponent: `48.25` and `48.250` are different
decimals of the same value. `Decimal.str` is the text `str` gives (the scientific notation
appears for positive exponents and for values below `1e-6`), `Decimal.parse` the constructor from
text.

## Main results

* `Decimal.parse_str`: the constructor reads back the text of a decimal, sign, coefficient and
  exponent
* `intOfText_toString`: the text of a natural number is read back as that number
-/

namespace Python

/-- A finite decimal `± coefficient * 10 ^ exponent`. -/
structure Decimal where
  negative : Bool
  coefficient : ℕ
  exponent : ℤ
deriving DecidableEq

namespace Decimal

/-- The value of a decimal. -/
def toRat (d : Decimal) : ℚ :=
  (if d.negative then -1 else 1) * d.coefficient * 10 ^ d.exponent

/-- The digits of the coefficient. -/
def digits (d : Decimal) : List Char := Nat.toDigits 10 d.coefficient

/-- The number of digits of the coefficient left of the decimal point, without an exponent. -/
def leftDigits (d : Decimal) : ℤ := d.exponent + d.digits.length

/-- The number of digits of the coefficient left of the decimal point of the text. -/
def dotPlace (d : Decimal) : ℤ :=
  if d.exponent ≤ 0 ∧ d.leftDigits > -6 then d.leftDigits else 1

/-- The text's digits before the point, and those after it. -/
def mantissa (d : Decimal) : List Char × List Char :=
  if d.dotPlace ≤ 0 then (['0'], List.replicate (-d.dotPlace).toNat '0' ++ d.digits)
  else if (d.digits.length : ℤ) ≤ d.dotPlace then
    (d.digits ++ List.replicate (d.dotPlace - d.digits.length).toNat '0', [])
  else (d.digits.take d.dotPlace.toNat, d.digits.drop d.dotPlace.toNat)

/-- The digits after the point, with the point; no point without digits. -/
def fractionChars (frac : List Char) : List Char := if frac = [] then [] else '.' :: frac

/-- The exponent of the text, nothing for zero. -/
def exponentChars (e : ℤ) : List Char :=
  if e = 0 then []
  else 'E' :: (if 0 < e then '+' else '-') :: Nat.toDigits 10 e.natAbs

/-- `str(d)` -/
def str (d : Decimal) : String :=
  String.ofList ((if d.negative then ['-'] else []) ++ d.mantissa.1 ++
    fractionChars d.mantissa.2 ++ exponentChars (d.leftDigits - d.dotPlace))

/-- The sign of a numeral and what follows it. -/
def takeSign : List Char → Bool × List Char
  | '-' :: cs => (true, cs)
  | '+' :: cs => (false, cs)
  | cs => (false, cs)

/-- The digits of a fraction and what follows them. -/
def takeFraction : List Char → List Char × List Char
  | '.' :: cs => (cs.takeWhile Char.isDigit, cs.dropWhile Char.isDigit)
  | cs => ([], cs)

/-- The exponent that ends a numeral. -/
def parseExponent : List Char → Option ℤ
  | [] => some 0
  | c :: cs =>
    if c = 'E' ∨ c = 'e' then
      let (negative, ds) := takeSign cs
      if ds ≠ [] ∧ ds.all Char.isDigit then
        let n : ℤ := Nat.ofDigitChars 10 ds 0
        some (if negative then -n else n)
      else none
    else none

/-- `Decimal(text)`, for text without blanks and underscores; `none` is an `InvalidOperation`. -/
def parse (text : String) : Option Decimal :=
  let (negative, cs) := takeSign text.toList
  let int := cs.takeWhile Char.isDigit
  let (frac, rest) := takeFraction (cs.dropWhile Char.isDigit)
  if int = [] ∧ frac = [] then none
  else (parseExponent rest).map fun e =>
    ⟨negative, Nat.ofDigitChars 10 (int ++ frac) 0, e - frac.length⟩

/-! ## Reading back -/

theorem isDigit_digits (d : Decimal) : ∀ c ∈ d.digits, c.isDigit = true := fun _ hc =>
  Nat.isDigit_of_mem_toDigits (by decide) (by decide) hc

theorem digits_ne_nil (d : Decimal) : d.digits ≠ [] := Nat.toDigits_ne_nil

theorem length_digits_pos (d : Decimal) : 0 < d.digits.length :=
  List.length_pos_iff.mpr d.digits_ne_nil

/-- The mantissa is digits on both sides of the point, at least one before it. -/
theorem mantissa_digits (d : Decimal) :
    d.mantissa.1 ≠ [] ∧ (∀ c ∈ d.mantissa.1, c.isDigit = true) ∧
      ∀ c ∈ d.mantissa.2, c.isDigit = true := by
  have hpos := d.length_digits_pos
  unfold mantissa
  split_ifs with h₀ h₁
  · refine ⟨by simp, by simp, fun c hc => ?_⟩
    rcases List.mem_append.mp hc with hc | hc
    · rw [List.eq_of_mem_replicate hc]; decide
    · exact d.isDigit_digits c hc
  · refine ⟨by simp [d.digits_ne_nil], fun c hc => ?_, by simp⟩
    rcases List.mem_append.mp hc with hc | hc
    · exact d.isDigit_digits c hc
    · rw [List.eq_of_mem_replicate hc]; decide
  · refine ⟨fun he => ?_, fun c hc => d.isDigit_digits c (List.mem_of_mem_take hc),
      fun c hc => d.isDigit_digits c (List.mem_of_mem_drop hc)⟩
    have hl := congrArg List.length he
    rw [List.length_take, List.length_nil] at hl
    omega

/-- Reading the digits of the mantissa gives the coefficient. -/
theorem ofDigitChars_mantissa (d : Decimal) :
    Nat.ofDigitChars 10 (d.mantissa.1 ++ d.mantissa.2) 0 = d.coefficient := by
  have hds : Nat.ofDigitChars 10 d.digits 0 = d.coefficient := Nat.ofDigitChars_ten_toDigits
  have hpos := d.length_digits_pos
  unfold mantissa
  split_ifs with h₀ h₁
  · rw [← List.append_assoc, Nat.ofDigitChars_append, Nat.ofDigitChars_append,
      Nat.ofDigitChars_replicate_zero]
    simpa [Nat.ofDigitChars_cons] using hds
  · -- no zeros are appended: the point moves right of the digits for exponent zero only
    have hz : (d.dotPlace - d.digits.length).toNat = 0 := by
      unfold dotPlace leftDigits at *
      split_ifs at * <;> omega
    rw [hz, List.replicate_zero, List.append_nil, List.append_nil]
    exact hds
  · rw [List.take_append_drop]
    exact hds

/-- The exponent of the text, less the digits after the point, is the decimal's exponent. -/
theorem leftDigits_sub_dotPlace (d : Decimal) :
    d.leftDigits - d.dotPlace - d.mantissa.2.length = d.exponent := by
  have hpos := d.length_digits_pos
  unfold mantissa
  split_ifs with h₀ h₁
  · rw [List.length_append, List.length_replicate]
    unfold leftDigits
    push_cast
    omega
  · unfold dotPlace leftDigits at *
    simp only [List.length_nil]
    split_ifs at * <;> omega
  · rw [List.length_drop]
    unfold leftDigits
    omega

theorem takeWhile_digits {ds rest : List Char} (hds : ∀ c ∈ ds, c.isDigit = true)
    (hrest : ∀ c, rest.head? = some c → c.isDigit = false) :
    (ds ++ rest).takeWhile Char.isDigit = ds ∧ (ds ++ rest).dropWhile Char.isDigit = rest := by
  rw [List.takeWhile_append_of_pos hds, List.dropWhile_append_of_pos hds]
  cases rest with
  | nil => simp
  | cons c cs => simp [hrest c rfl]

theorem head_exponentChars (e : ℤ) (c : Char) (h : (exponentChars e).head? = some c) :
    c = 'E' := by
  unfold exponentChars at h
  split_ifs at h
  · simp at h
  all_goals exact (Option.some.inj h).symm

theorem parseExponent_exponentChars (e : ℤ) : parseExponent (exponentChars e) = some e := by
  unfold exponentChars
  split_ifs with h₀ h₁
  · simp [parseExponent, h₀]
  all_goals
    have hall : (Nat.toDigits 10 e.natAbs).all Char.isDigit = true :=
      List.all_eq_true.mpr fun c hc => Nat.isDigit_of_mem_toDigits (by decide) (by decide) hc
    have hn : Nat.ofDigitChars 10 (Nat.toDigits 10 e.natAbs) 0 = e.natAbs :=
      Nat.ofDigitChars_ten_toDigits
    simp only [parseExponent, takeSign, true_or, if_true, ne_eq, Nat.toDigits_ne_nil,
      not_false_eq_true, hall, and_self, hn, Option.some.injEq, Bool.false_eq_true, if_false]
    omega

theorem takeSign_append {cs : List Char} (rest : List Char) (hne : cs ≠ [])
    (hcs : ∀ c ∈ cs, c.isDigit = true) (negative : Bool) :
    takeSign ((if negative then ['-'] else []) ++ cs ++ rest) = (negative, cs ++ rest) := by
  cases negative with
  | true => rfl
  | false =>
    cases cs with
    | nil => exact absurd rfl hne
    | cons c cs =>
      have hc := hcs c (by simp)
      have hm : c ≠ '-' := fun he => by subst he; exact absurd hc (by decide)
      have hp : c ≠ '+' := fun he => by subst he; exact absurd hc (by decide)
      simp [takeSign, hm, hp]

theorem takeFraction_append {frac rest : List Char} (hf : ∀ c ∈ frac, c.isDigit = true)
    (hrest : ∀ c, rest.head? = some c → c = 'E') :
    takeFraction (fractionChars frac ++ rest) = (frac, rest) := by
  have hE : ∀ c, rest.head? = some c → c.isDigit = false := by
    intro c hc
    rw [hrest c hc]
    decide
  unfold fractionChars
  split_ifs with h
  · subst h
    cases rest with
    | nil => rfl
    | cons c cs =>
      have hc := hrest c rfl
      subst hc
      rfl
  · have hw := takeWhile_digits hf hE
    simp only [List.cons_append, takeFraction, hw.1, hw.2]

/-- **The text of a decimal is read back as that decimal.** -/
theorem parse_str (d : Decimal) : parse d.str = some d := by
  obtain ⟨hne, hint, hfrac⟩ := d.mantissa_digits
  have hE := head_exponentChars (d.leftDigits - d.dotPlace)
  have hhead : ∀ c, (fractionChars d.mantissa.2 ++
      exponentChars (d.leftDigits - d.dotPlace)).head? = some c → c.isDigit = false := by
    intro c hc
    unfold fractionChars at hc
    split_ifs at hc
    · rw [hE c (by simpa using hc)]; decide
    · simp only [List.cons_append, List.head?_cons, Option.some.injEq] at hc
      subst hc
      decide
  have hw := takeWhile_digits hint hhead
  have hsign := takeSign_append (fractionChars d.mantissa.2 ++
    exponentChars (d.leftDigits - d.dotPlace)) hne hint d.negative
  simp only [parse, str, String.toList_ofList, List.append_assoc] at hsign ⊢
  simp only [hsign, hw.1, hw.2, takeFraction_append hfrac hE, hne, false_and, if_false,
    parseExponent_exponentChars, Option.map_some, ofDigitChars_mantissa, leftDigits_sub_dotPlace]

end Decimal

/-! ## Integers -/

/-- `int(text)`, for text without blanks and underscores; `none` is a `ValueError`. -/
def intOfText (text : String) : Option ℤ :=
  let (negative, ds) := Decimal.takeSign text.toList
  if ds ≠ [] ∧ ds.all Char.isDigit then
    let n : ℤ := Nat.ofDigitChars 10 ds 0
    some (if negative then -n else n)
  else none

/-- The text of a natural number is read back as that number. -/
theorem intOfText_toString (n : ℕ) : intOfText (toString (n : ℤ)) = some (n : ℤ) := by
  have htext : (toString (n : ℤ)).toList = Nat.toDigits 10 n := by
    change (toString n).toList = _
    rw [Nat.toString_eq_repr, Nat.repr_eq_ofList_toDigits, String.toList_ofList]
  have hdigits : ∀ c ∈ Nat.toDigits 10 n, c.isDigit = true := fun _ hc =>
    Nat.isDigit_of_mem_toDigits (by decide) (by decide) hc
  have hsign : Decimal.takeSign (Nat.toDigits 10 n) = (false, Nat.toDigits 10 n) := by
    simpa using Decimal.takeSign_append [] Nat.toDigits_ne_nil hdigits false
  simp only [intOfText, htext, hsign]
  rw [if_pos ⟨Nat.toDigits_ne_nil, List.all_eq_true.mpr hdigits⟩, Nat.ofDigitChars_ten_toDigits]
  rfl

end Python
