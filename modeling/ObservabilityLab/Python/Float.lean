import Mathlib.Algebra.Order.Round
import Mathlib.Data.Int.Log
import Mathlib.Data.Rat.Floor
import Mathlib.Tactic.FieldSimp
import Mathlib.Tactic.Linarith
import Mathlib.Tactic.NormNum
import Mathlib.Tactic.Positivity

/-!
# Python `float`

A float is an exact rational of magnitude below `2 ^ 1024`, the negative zero, an infinity, or NaN.
Comparisons follow IEEE 754 (NaN compares with nothing, the zeros are equal). An operation rounds
its exact result to the nearest binary64 value, ties to even, and overflows to an infinity.
`PyFloat.format` is the text of the format `.nf`, rounded half to even on the exact value.

## Main definitions

* `PyFloat`, `PyFloat.ofRat`: floats, and the float nearest to a rational
* `PyFloat.lt`, `PyFloat.eq`: comparisons
* `PyFloat.add`, `PyFloat.mul`, `PyFloat.divNat`, `PyFloat.round`: arithmetic and `round(x, digits)`
* `PyFloat.sum`: the compensated `sum(xs)`
* `PyFloat.format`: the format `.nf`

## Main results

* `PyFloat.roundToFloat_le_of_neg`: a normal negative value stays negative
* `PyFloat.ofRat_mem_unit`: the float of a share is between zero and one
* `PyFloat.length_format_le`: a formatted float has at most `311 + n` characters
-/

namespace Python

/-- Rounding to the nearest integer, ties to the even one. -/
def roundHalfEven (q : ℚ) : ℤ :=
  let f := ⌊q⌋
  if q - f < 1 / 2 then f
  else if 1 / 2 < q - f then f + 1
  else if f % 2 = 0 then f
  else f + 1

theorem roundHalfEven_le (q : ℚ) : roundHalfEven q ≤ ⌊q⌋ + 1 := by
  unfold roundHalfEven
  dsimp only
  split_ifs <;> omega

theorem floor_le_roundHalfEven (q : ℚ) : ⌊q⌋ ≤ roundHalfEven q := by
  unfold roundHalfEven
  dsimp only
  split_ifs <;> omega

@[simp] theorem roundHalfEven_intCast (n : ℤ) : roundHalfEven n = n := by
  unfold roundHalfEven
  simp

/-- Rounding does not pass an integer bound. -/
theorem roundHalfEven_le_of_le {q : ℚ} {n : ℤ} (h : q ≤ n) : roundHalfEven q ≤ n := by
  rcases h.lt_or_eq with hlt | rfl
  · exact (roundHalfEven_le q).trans (Int.floor_lt.mpr hlt)
  · rw [roundHalfEven_intCast]

theorem roundHalfEven_nonneg {q : ℚ} (h : 0 ≤ q) : 0 ≤ roundHalfEven q :=
  (Int.floor_nonneg.mpr h).trans (floor_le_roundHalfEven q)

/-- Rounding moves a value by at most one half. -/
theorem roundHalfEven_le_add (q : ℚ) : roundHalfEven q ≤ q + 1 / 2 := by
  have hfloor := Int.floor_le q
  have hlt := Int.lt_floor_add_one q
  unfold roundHalfEven
  dsimp only
  split_ifs with hlow hhigh heven
  · linarith
  · push_cast
    linarith
  · linarith
  · push_cast
    linarith

/-- The magnitude that no finite float reaches. -/
def floatBound : ℚ := ((2 ^ 1024 : ℕ) : ℚ)

/-- The exact value of a finite float, and whether it is the negative zero. -/
structure FiniteFloat where
  value : ℚ
  bounded : |value| < floatBound
  minusZero : Bool
  zero_of_minusZero : minusZero = true → value = 0
deriving DecidableEq

/-- The sign of a finite float. -/
def FiniteFloat.negative (q : FiniteFloat) : Bool := q.minusZero || q.value < 0

/-- A Python `float`. -/
inductive PyFloat where
  | nan
  | infinite (negative : Bool)
  | finite (q : FiniteFloat)
deriving DecidableEq

namespace PyFloat

/-- `2 ^ e` -/
def pow2 (e : ℤ) : ℚ := if 0 ≤ e then ((2 ^ e.toNat : ℕ) : ℚ) else 1 / ((2 ^ (-e).toNat : ℕ) : ℚ)

/-- The distance between the binary64 values around `q`. -/
def ulp (q : ℚ) : ℚ := pow2 (max (Int.log 2 |q| - 52) (-1074))

/-- The multiple of the distance that is nearest to `q`. -/
def roundToFloat (q : ℚ) : ℚ := roundHalfEven (q / ulp q) * ulp q

/-- The float nearest to a rational; magnitudes that round to `2 ^ 1024` or more overflow. -/
def ofRat (q : ℚ) : PyFloat :=
  if h : |roundToFloat q| < floatBound then
    finite ⟨roundToFloat q, h, decide (q < 0 ∧ roundToFloat q = 0), fun hzero =>
      (of_decide_eq_true hzero).2⟩
  else infinite (decide (q < 0))

instance : OfNat PyFloat 0 := ⟨ofRat 0⟩

/-- `x < y` -/
def lt : PyFloat → PyFloat → Bool
  | nan, _ => false
  | _, nan => false
  | infinite a, infinite b => a && !b
  | infinite a, finite _ => a
  | finite _, infinite b => !b
  | finite p, finite q => p.1 < q.1

/-- `x == y` -/
def eq : PyFloat → PyFloat → Bool
  | nan, _ => false
  | infinite a, infinite b => a = b
  | finite p, finite q => p.1 = q.1
  | _, _ => false

/-- `x <= y` -/
def le (x y : PyFloat) : Bool := x.lt y || x.eq y

/-- Floats that compare one way do not compare the other way. -/
theorem lt_eq_false_of_le {x y : PyFloat} (h : x.le y = true) : y.lt x = false := by
  rw [le, Bool.or_eq_true] at h
  cases x with
  | nan => simp [lt, eq] at h
  | infinite a =>
    cases y with
    | nan => rfl
    | infinite b => cases a <;> cases b <;> simp_all [lt, eq]
    | finite q => cases a <;> simp_all [lt, eq]
  | finite p =>
    cases y with
    | nan => rfl
    | infinite b => cases b <;> simp_all [lt, eq]
    | finite q =>
      simp only [lt, eq, decide_eq_true_eq] at h
      simp only [lt, decide_eq_false_iff_not, not_lt]
      exact h.elim le_of_lt le_of_eq

/-- `x > n` for an integer `n`, which is compared exactly. -/
def gtInt : PyFloat → ℤ → Bool
  | nan, _ => false
  | infinite negative, _ => !negative
  | finite q, n => (n : ℚ) < q.1

/-- A zero with its sign. -/
def zero (negative : Bool) : PyFloat :=
  finite ⟨0, by rw [abs_zero]; exact Nat.cast_pos.mpr (by positivity), negative, fun _ => rfl⟩

/-- `x + y` -/
def add : PyFloat → PyFloat → PyFloat
  | nan, _ => nan
  | _, nan => nan
  | infinite a, infinite b => if a = b then infinite a else nan
  | infinite a, finite _ => infinite a
  | finite _, infinite b => infinite b
  | finite p, finite q => if p.minusZero && q.minusZero then finite p else ofRat (p.1 + q.1)

/-- `x * y` -/
def mul : PyFloat → PyFloat → PyFloat
  | nan, _ => nan
  | _, nan => nan
  | infinite a, infinite b => infinite (a != b)
  | infinite a, finite q => if q.1 = 0 then nan else infinite (a != decide (q.1 < 0))
  | finite p, infinite b => if p.1 = 0 then nan else infinite (b != decide (p.1 < 0))
  | finite p, finite q =>
    if p.1 = 0 ∨ q.1 = 0 then zero (p.negative != q.negative) else ofRat (p.1 * q.1)

def neg : PyFloat → PyFloat
  | nan => nan
  | infinite negative => infinite !negative
  | finite q =>
    finite ⟨-q.1, by rw [abs_neg]; exact q.2, decide (q.1 = 0) && !q.minusZero, fun hzero => by
      rw [Bool.and_eq_true, decide_eq_true_eq] at hzero
      rw [hzero.1, neg_zero]⟩

/-- `fabs(x)` -/
def abs : PyFloat → PyFloat
  | nan => nan
  | infinite _ => infinite false
  | finite q => finite ⟨|q.1|, by rw [abs_abs]; exact q.2, false, nofun⟩

def isFinite : PyFloat → Bool
  | finite _ => true
  | _ => false

/-- `x / n` for a positive count `n`. -/
def divNat : PyFloat → ℕ → PyFloat
  | nan, _ => nan
  | infinite a, _ => infinite a
  | finite q, n => if q.minusZero then finite q else ofRat (q.1 / n)

/-- `round(x, digits)` -/
def round (digits : ℕ) : PyFloat → PyFloat
  | nan => nan
  | infinite a => infinite a
  | finite q =>
    let units := roundHalfEven (q.1 * 10 ^ digits)
    if units = 0 then zero q.negative else ofRat (units / 10 ^ digits)

theorem pow2_eq_zpow (e : ℤ) : pow2 e = (2 : ℚ) ^ e := by
  unfold pow2
  split_ifs with h
  · rw [Nat.cast_pow, Nat.cast_ofNat, ← zpow_natCast, Int.toNat_of_nonneg h]
  · rw [Nat.cast_pow, Nat.cast_ofNat, ← zpow_natCast, Int.toNat_of_nonneg (by omega), zpow_neg,
      one_div, inv_inv]

theorem ulp_pos (q : ℚ) : 0 < ulp q := by
  unfold ulp
  rw [pow2_eq_zpow]
  exact zpow_pos two_pos _

/-- The relative distance between the values around a normal one. -/
theorem ulp_le {q : ℚ} (h : (2 : ℚ) ^ (-1022 : ℤ) ≤ |q|) : ulp q ≤ |q| * 2 ^ (-52 : ℤ) := by
  have hpositive : 0 < |q| := (zpow_pos two_pos _).trans_le h
  have hlog : -1022 ≤ Int.log 2 |q| := (Int.zpow_le_iff_le_log (by decide) hpositive).mp h
  unfold ulp
  rw [pow2_eq_zpow, max_eq_left (by omega), sub_eq_add_neg, zpow_add₀ two_ne_zero]
  have hle : (2 : ℚ) ^ Int.log 2 |q| ≤ |q| := Int.zpow_log_le_self (by decide) hpositive
  gcongr

/-- Rounding moves a value by at most half of the distance. -/
theorem roundToFloat_le_add (q : ℚ) : roundToFloat q ≤ q + ulp q / 2 := by
  have hle := mul_le_mul_of_nonneg_right (roundHalfEven_le_add (q / ulp q)) (ulp_pos q).le
  calc roundToFloat q ≤ (q / ulp q + 1 / 2) * ulp q := hle
    _ = q + ulp q / 2 := by field_simp [(ulp_pos q).ne']

theorem roundToFloat_nonneg {q : ℚ} (h : 0 ≤ q) : 0 ≤ roundToFloat q := by
  unfold roundToFloat
  have hround := roundHalfEven_nonneg (div_nonneg h (ulp_pos q).le)
  exact mul_nonneg (by exact_mod_cast hround) (ulp_pos q).le

/-- A normal negative value stays negative, and keeps nearly all of its magnitude. -/
theorem roundToFloat_le_of_neg {q : ℚ} (h : q ≤ -1 / 1000000) : roundToFloat q ≤ 99 / 100 * q := by
  have habs : |q| = -q := abs_of_nonpos (h.trans (by norm_num))
  have hnormal : (2 : ℚ) ^ (-1022 : ℤ) ≤ |q| := by
    have hle : (2 : ℚ) ^ (-1022 : ℤ) ≤ 2 ^ (-20 : ℤ) := zpow_le_zpow_right₀ one_le_two (by norm_num)
    rw [habs]
    refine hle.trans ?_
    norm_num
    linarith
  have hulp := ulp_le hnormal
  have hsmall : (2 : ℚ) ^ (-52 : ℤ) ≤ 1 / 100 := by norm_num
  have hround := roundToFloat_le_add q
  rw [habs] at hulp
  have hscaled : ulp q ≤ -q * (1 / 100) :=
    hulp.trans (mul_le_mul_of_nonneg_left hsmall (habs ▸ abs_nonneg q))
  linarith

/-- The floats up to one are spaced by negative powers of two. -/
theorem ulp_of_le_one {q : ℚ} (h : |q| ≤ 1) : ∃ k : ℕ, ulp q = 1 / ((2 ^ k : ℕ) : ℚ) := by
  have hlog : Int.log 2 |q| ≤ 0 := by
    rcases (abs_nonneg q).eq_or_lt with hzero | hpositive
    · rw [← hzero, Int.log_zero_right]
    · rw [← Int.log_one_right (R := ℚ) 2]
      exact Int.log_mono_right hpositive h
  unfold ulp pow2
  split
  case isTrue hpos =>
    have : max (Int.log 2 |q| - 52) (-1074) < 0 := by omega
    omega
  case isFalse => exact ⟨_, rfl⟩

/-- A share is a float between zero and one. -/
theorem roundToFloat_mem_unit {q : ℚ} (hnonneg : 0 ≤ q) (hle : q ≤ 1) :
    0 ≤ roundToFloat q ∧ roundToFloat q ≤ 1 := by
  obtain ⟨k, hulp⟩ := ulp_of_le_one (abs_le.mpr ⟨neg_one_lt_zero.le.trans hnonneg, hle⟩)
  have hpositive : (0 : ℚ) < ((2 ^ k : ℕ) : ℚ) := by positivity
  unfold roundToFloat
  rw [hulp, div_div_eq_mul_div, div_one, mul_one_div]
  constructor
  · apply div_nonneg _ hpositive.le
    exact_mod_cast roundHalfEven_nonneg (mul_nonneg hnonneg hpositive.le)
  · rw [div_le_one hpositive]
    have hround : roundHalfEven (q * ((2 ^ k : ℕ) : ℚ)) ≤ ((2 ^ k : ℕ) : ℤ) := by
      apply roundHalfEven_le_of_le
      rw [Int.cast_natCast]
      exact mul_le_of_le_one_left hpositive.le hle
    exact_mod_cast hround

theorem one_lt_floatBound : 1 < floatBound := by
  unfold floatBound
  exact_mod_cast Nat.one_lt_two_pow (by decide)

theorem abs_one_lt_floatBound : |(1 : ℚ)| < floatBound := by
  rw [abs_one]
  exact one_lt_floatBound

theorem ofRat_one : ofRat 1 = finite ⟨1, abs_one_lt_floatBound, false, nofun⟩ := by
  obtain ⟨k, hulp⟩ := ulp_of_le_one (q := 1) (by rw [abs_one])
  have hround : roundToFloat 1 = 1 := by
    have hnat : roundHalfEven ((2 ^ k : ℕ) : ℚ) = ((2 ^ k : ℕ) : ℤ) := by
      rw [← Int.cast_natCast, roundHalfEven_intCast]
    unfold roundToFloat
    rw [hulp, one_div_one_div, hnat, Int.cast_natCast, mul_one_div_cancel]
    positivity
  unfold ofRat
  simp only [hround, abs_one, one_lt_floatBound, dite_true, one_ne_zero, and_false, decide_false]

theorem zero_eq : (0 : PyFloat) = zero false := by
  have hround : roundToFloat 0 = 0 := by
    unfold roundToFloat
    rw [zero_div, ← Int.cast_zero, roundHalfEven_intCast, Int.cast_zero, zero_mul]
  change ofRat 0 = _
  unfold ofRat
  have hbound : |roundToFloat 0| < floatBound := by
    rw [hround, abs_zero]
    exact zero_lt_one.trans one_lt_floatBound
  rw [dif_pos hbound]
  simp only [hround, lt_self_iff_false, false_and, decide_false, zero]

/-- The check `Field(ge=0, le=1)` accepts every share. -/
theorem ofRat_mem_unit {q : ℚ} (hnonneg : 0 ≤ q) (hle : q ≤ 1) :
    ((0 : PyFloat).le (ofRat q) && (ofRat q).le (ofRat 1)) = true := by
  obtain ⟨hlow, hhigh⟩ := roundToFloat_mem_unit hnonneg hle
  have hbound : |roundToFloat q| < floatBound := by
    rw [abs_of_nonneg hlow]
    exact hhigh.trans_lt one_lt_floatBound
  rw [zero_eq, ofRat_one]
  unfold ofRat
  rw [dif_pos hbound]
  simp only [zero, le, lt, eq, Bool.and_eq_true, Bool.or_eq_true, decide_eq_true_eq]
  exact ⟨hlow.lt_or_eq, hhigh.lt_or_eq⟩

/-! Products and roundings of negative values -/

/-- A float that is not above a bound. -/
def AtMost (bound : ℚ) : PyFloat → Prop
  | .nan => False
  | .infinite negative => negative = true
  | .finite q => q.1 ≤ bound

theorem lt_zero_of_atMost {bound : ℚ} {x : PyFloat} (h : AtMost bound x) (hbound : bound < 0) :
    x.lt 0 = true := by
  rw [zero_eq]
  cases x with
  | nan => exact h.elim
  | infinite negative => exact h
  | finite q => exact decide_eq_true (lt_of_le_of_lt h hbound)

theorem atMost_ofRat {q : ℚ} (h : q ≤ -1 / 1000000) : AtMost (99 / 100 * q) (ofRat q) := by
  unfold ofRat
  split_ifs with hbound
  · exact roundToFloat_le_of_neg h
  · apply decide_eq_true
    linarith

theorem ofRat_thousand : ofRat 1000 = finite ⟨1000, by decide +kernel, false, nofun⟩ := by
  decide +kernel

theorem atMost_mul_thousand {bound : ℚ} {x : PyFloat} (h : AtMost bound x)
    (hbound : bound ≤ -1 / 1000000) : AtMost (990 * bound) (x.mul (.ofRat 1000)) := by
  rw [ofRat_thousand]
  cases x with
  | nan => exact h.elim
  | infinite negative =>
    obtain rfl : negative = true := h
    rfl
  | finite q =>
    have hq : q.1 ≤ bound := h
    have hround : AtMost (99 / 100 * (q.1 * 1000)) (ofRat (q.1 * 1000)) := by
      apply atMost_ofRat
      linarith
    have hzero : ¬ (q.1 = 0 ∨ (1000 : ℚ) = 0) := by
      rintro (hq | h1000)
      · linarith
      · norm_num at h1000
    rw [mul, if_neg hzero]
    revert hround
    cases ofRat (q.1 * 1000) with
    | nan => exact id
    | infinite negative => exact id
    | finite p =>
      intro hround
      exact (show p.1 ≤ _ from hround).trans (by linarith)

theorem round_lt_zero {bound : ℚ} {x : PyFloat} (h : AtMost bound x) (hbound : bound < -1 / 200) :
    (x.round 2).lt 0 = true := by
  cases x with
  | nan => exact h.elim
  | infinite negative =>
    rw [zero_eq]
    exact h
  | finite q =>
    have hq : q.1 ≤ bound := h
    have hhundred : (10 : ℚ) ^ 2 = 100 := by norm_num
    simp only [round, hhundred]
    have hle := roundHalfEven_le_add (q.1 * 100)
    have hint : roundHalfEven (q.1 * 100) ≤ -1 := by
      have hneg : (roundHalfEven (q.1 * 100) : ℚ) < 0 := by linarith
      have hlt : roundHalfEven (q.1 * 100) < 0 := by exact_mod_cast hneg
      omega
    have hcast : (roundHalfEven (q.1 * 100) : ℚ) ≤ -1 := by exact_mod_cast hint
    rw [if_neg (by omega)]
    apply lt_zero_of_atMost (atMost_ofRat (by linarith))
    linarith

/-- A float that is not negative. -/
def Nonneg : PyFloat → Prop
  | nan => False
  | infinite negative => negative = false
  | finite q => 0 ≤ q.1

theorem Nonneg.lt_zero {x : PyFloat} (h : x.Nonneg) : x.lt 0 = false := by
  rw [zero_eq]
  cases x with
  | nan => exact h.elim
  | infinite negative => exact h
  | finite q => exact decide_eq_false (not_lt.mpr h)

/-- The sign of a zero does not matter in a comparison. -/
theorem lt_signed_zero (x : PyFloat) (negative : Bool) : x.lt (zero negative) = x.lt 0 := by
  rw [zero_eq]
  cases x <;> rfl

theorem nonneg_ofRat {q : ℚ} (h : 0 ≤ q) : (ofRat q).Nonneg := by
  unfold ofRat
  split_ifs with hbound
  · exact roundToFloat_nonneg h
  · exact decide_eq_false (not_lt.mpr h)

theorem nonneg_zero (negative : Bool) : (zero negative).Nonneg := le_refl (0 : ℚ)

theorem Nonneg.mul_finite {x : PyFloat} {q : FiniteFloat} (h : x.Nonneg)
    (hq : 0 < q.1) : (x.mul (finite q)).Nonneg := by
  cases x with
  | nan => exact h.elim
  | infinite negative =>
    obtain rfl : negative = false := h
    simp only [mul, if_neg hq.ne', decide_eq_false (not_lt.mpr hq.le)]
    rfl
  | finite p =>
    rw [mul]
    split_ifs
    · exact nonneg_zero _
    · exact nonneg_ofRat (mul_nonneg h hq.le)

theorem Nonneg.round {x : PyFloat} (h : x.Nonneg) (digits : ℕ) : (x.round digits).Nonneg := by
  cases x with
  | nan => exact h.elim
  | infinite negative => exact h
  | finite q =>
    have hround : 0 ≤ roundHalfEven (q.1 * 10 ^ digits) :=
      roundHalfEven_nonneg (mul_nonneg h (by positivity))
    have hcast : (0 : ℚ) ≤ roundHalfEven (q.1 * 10 ^ digits) := by exact_mod_cast hround
    simp only [PyFloat.round]
    split_ifs
    · exact nonneg_zero _
    · apply nonneg_ofRat
      positivity

/-- One step of a sum: the total, and the compensation of the roundings so far. -/
def sumStep (acc : PyFloat × PyFloat) (x : PyFloat) : PyFloat × PyFloat :=
  let t := acc.1.add x
  let lost := if (x.abs).le acc.1.abs then (acc.1.add t.neg).add x else (x.add t.neg).add acc.1
  (t, acc.2.add lost)

/-- `sum(xs)` -/
def sum (xs : List PyFloat) : PyFloat :=
  let (total, compensation) := xs.foldl sumStep (0, 0)
  if compensation.isFinite then total.add compensation else total

/-- The magnitude of a finite float in units of the last of `digits` decimal places. -/
def scaled (digits : ℕ) (q : ℚ) : ℕ := (roundHalfEven (|q| * 10 ^ digits)).toNat

/-- The text of the format `.nf` with `n = digits` decimal places, at least one. -/
def format (digits : ℕ) : PyFloat → String
  | nan => "nan"
  | infinite negative => if negative then "-inf" else "inf"
  | finite q =>
    let n := scaled digits q.1
    let frac := Nat.toDigits 10 (n % 10 ^ digits)
    String.ofList ((if q.negative then ['-'] else []) ++ Nat.toDigits 10 (n / 10 ^ digits) ++
      '.' :: List.replicate (digits - frac.length) '0' ++ frac)

/-- The integer part of a formatted float has at most 309 digits. -/
theorem scaled_div_lt (digits : ℕ) {q : ℚ} (hq : |q| < floatBound) :
    scaled digits q / 10 ^ digits < 10 ^ 309 := by
  have hpow : (0 : ℚ) < 10 ^ digits := by positivity
  have hle : roundHalfEven (|q| * 10 ^ digits) ≤ 2 ^ 1024 * 10 ^ digits := by
    refine (roundHalfEven_le _).trans ?_
    have hlt : |q| * 10 ^ digits < ((2 ^ 1024 * 10 ^ digits : ℤ) : ℚ) := by
      have hmul := mul_lt_mul_of_pos_right hq hpow
      simpa only [floatBound, Int.cast_mul, Int.cast_pow, Int.cast_ofNat, Nat.cast_pow,
        Nat.cast_ofNat] using hmul
    exact Int.add_one_le_of_lt (Int.floor_lt.mpr hlt)
  have hnat : scaled digits q ≤ 2 ^ 1024 * 10 ^ digits := by
    have hcast : (2 ^ 1024 * 10 ^ digits : ℤ) = ((2 ^ 1024 * 10 ^ digits : ℕ) : ℤ) := by
      push_cast
      rfl
    rw [hcast] at hle
    exact Int.toNat_le.mpr hle
  have hpos : 0 < 10 ^ digits := by positivity
  calc scaled digits q / 10 ^ digits
      ≤ 2 ^ 1024 * 10 ^ digits / 10 ^ digits := Nat.div_le_div_right hnat
    _ = 2 ^ 1024 := Nat.mul_div_cancel _ hpos
    _ < 10 ^ 309 := by decide +kernel

/-- **A formatted float is short.** -/
theorem length_format_le {digits : ℕ} (hd : 0 < digits) (x : PyFloat) :
    (x.format digits).length ≤ 311 + digits := by
  cases x with
  | nan =>
    have hl : ("nan" : String).length = 3 := by decide
    simp only [format]
    omega
  | infinite negative =>
    have hl : ("inf" : String).length = 3 ∧ ("-inf" : String).length = 4 := by decide
    cases negative <;> simp only [format, if_true, Bool.false_eq_true, if_false] <;> omega
  | finite q =>
    have hint : (Nat.toDigits 10 (scaled digits q.1 / 10 ^ digits)).length ≤ 309 :=
      (Nat.length_toDigits_le_iff (by decide) (by decide)).mpr (scaled_div_lt digits q.2)
    have hfrac : (Nat.toDigits 10 (scaled digits q.1 % 10 ^ digits)).length ≤ digits :=
      (Nat.length_toDigits_le_iff (by decide) hd).mpr (Nat.mod_lt _ (by positivity))
    have hsign : (if q.negative then ['-'] else []).length ≤ 1 := by split_ifs <;> simp
    simp only [format, String.length_ofList, List.length_append, List.length_cons,
      List.length_replicate]
    omega

theorem format_ne_empty {digits : ℕ} (x : PyFloat) : x.format digits ≠ "" := by
  cases x with
  | nan => simp [format]
  | infinite negative => cases negative <;> simp [format]
  | finite q =>
    intro h
    have hl := congrArg String.toList h
    simp [format] at hl

end PyFloat

end Python
