import ObservabilityLab.Python.Float

/-!
# Rounding keeps the order of floats

Rounding to an integer, to the nearest float and to decimal places are monotone.

## Main results

* `roundHalfEven_mono`: rounding to an integer
* `PyFloat.roundToFloat_mono`: rounding of magnitudes to the nearest float
* `PyFloat.lt_ofRat_of_le`, `PyFloat.lt_round_of_lt`: floats do not swap when they are rounded
-/

namespace Python

/-- **Rounding to an integer is monotone.** -/
theorem roundHalfEven_mono {p q : ℚ} (h : p ≤ q) : roundHalfEven p ≤ roundHalfEven q := by
  rcases (Int.floor_mono h).lt_or_eq with hlt | heq
  · calc roundHalfEven p ≤ ⌊p⌋ + 1 := roundHalfEven_le p
      _ ≤ ⌊q⌋ := hlt
      _ ≤ roundHalfEven q := floor_le_roundHalfEven q
  · -- The two have one integer part, and the fractions decide.
    unfold roundHalfEven
    dsimp only
    rw [heq]
    split_ifs <;> first | omega | (exfalso; linarith)

/-- Rounding does not pass an integer bound from above. -/
theorem le_roundHalfEven_of_le {q : ℚ} {n : ℤ} (h : n ≤ q) : n ≤ roundHalfEven q := by
  rw [← roundHalfEven_intCast n]
  exact roundHalfEven_mono h

namespace PyFloat

variable {p q : ℚ} {x y : PyFloat}

/-- A power of two is a float, and a multiple of the distance of all smaller values. -/
theorem exists_mul_ulp {k : ℤ} (hk : Int.log 2 |q| ≤ k) (hmin : -1074 ≤ k) :
    ∃ n : ℤ, (2 : ℚ) ^ k = n * ulp q := by
  have hexponent : max (Int.log 2 |q| - 52) (-1074) ≤ k := by omega
  obtain ⟨d, hd⟩ := Int.le.dest hexponent
  refine ⟨2 ^ d, ?_⟩
  rw [ulp, pow2_eq_zpow, ← hd, zpow_add₀ two_ne_zero, mul_comm, zpow_natCast]
  push_cast
  rfl

theorem roundToFloat_le_of_le {n : ℤ} (h : q ≤ n * ulp q) : roundToFloat q ≤ n * ulp q := by
  have hround : roundHalfEven (q / ulp q) ≤ n :=
    roundHalfEven_le_of_le ((div_le_iff₀ (ulp_pos q)).mpr h)
  exact mul_le_mul_of_nonneg_right (Int.cast_le.mpr hround) (ulp_pos q).le

theorem le_roundToFloat_of_le {n : ℤ} (h : n * ulp q ≤ q) : n * ulp q ≤ roundToFloat q := by
  have hround : n ≤ roundHalfEven (q / ulp q) :=
    le_roundHalfEven_of_le ((le_div_iff₀ (ulp_pos q)).mpr h)
  exact mul_le_mul_of_nonneg_right (Int.cast_le.mpr hround) (ulp_pos q).le

/-- **Rounding magnitudes to the nearest float is monotone.** -/
theorem roundToFloat_mono (hp : 0 ≤ p) (h : p ≤ q) : roundToFloat p ≤ roundToFloat q := by
  by_cases hulp : ulp p = ulp q
  · rw [roundToFloat, roundToFloat, hulp]
    have hround : roundHalfEven (p / ulp q) ≤ roundHalfEven (q / ulp q) :=
      roundHalfEven_mono (div_le_div_of_nonneg_right h (ulp_pos q).le)
    exact mul_le_mul_of_nonneg_right (Int.cast_le.mpr hround) (ulp_pos q).le
  rcases hp.eq_or_lt with rfl | hp
  · rw [roundToFloat, zero_div, ← Int.cast_zero, roundHalfEven_intCast, Int.cast_zero, zero_mul]
    exact roundToFloat_nonneg h
  · -- The greatest power of two up to `q` lies between the two, and is a float.
    have hq : 0 < |q| := abs_pos.mpr (hp.trans_le h).ne'
    have hle : Int.log 2 |p| ≤ Int.log 2 |q| :=
      Int.log_mono_right (abs_pos.mpr hp.ne') (abs_le_abs_of_nonneg hp.le h)
    have hlog : Int.log 2 |p| < Int.log 2 |q| ∧ -1074 ≤ Int.log 2 |q| := by
      unfold ulp at hulp
      constructor
      · apply lt_of_le_of_ne hle
        intro heq
        rw [heq] at hulp
        exact hulp rfl
      · by_contra hsmall
        rw [max_eq_right (by omega), max_eq_right (by omega)] at hulp
        exact hulp rfl
    obtain ⟨m, hm⟩ := exists_mul_ulp hle hlog.2
    obtain ⟨n, hn⟩ := exists_mul_ulp (le_refl (Int.log 2 |q|)) hlog.2
    have hlow : p ≤ 2 ^ Int.log 2 |q| := by
      calc p ≤ |p| := le_abs_self p
        _ ≤ 2 ^ Int.log 2 |q| :=
          ((Int.lt_zpow_iff_log_lt one_lt_two (abs_pos.mpr hp.ne')).mpr hlog.1).le
    have hhigh : 2 ^ Int.log 2 |q| ≤ q := by
      calc 2 ^ Int.log 2 |q| ≤ |q| := Int.zpow_log_le_self one_lt_two hq
        _ = q := abs_of_nonneg (hp.le.trans h)
    calc roundToFloat p ≤ m * ulp p := roundToFloat_le_of_le (hm ▸ hlow)
      _ = n * ulp q := hm.symm.trans hn
      _ ≤ roundToFloat q := le_roundToFloat_of_le (hn ▸ hhigh)

/-- **The nearest floats of magnitudes are in their order.** -/
theorem lt_ofRat_of_le (hp : 0 ≤ p) (h : p ≤ q) : (ofRat q).lt (ofRat p) = false := by
  have hround := roundToFloat_mono hp h
  have hnonneg := roundToFloat_nonneg hp
  unfold ofRat
  split_ifs with hq hp'
  · exact decide_eq_false (not_lt.mpr hround)
  · rw [abs_of_nonneg hnonneg] at hp'
    rw [abs_of_nonneg (hnonneg.trans hround)] at hq
    exact absurd (hround.trans_lt hq) hp'
  · rw [decide_eq_false (not_lt.mpr (hp.trans h))]
    rfl
  · rw [decide_eq_false (not_lt.mpr (hp.trans h)), decide_eq_false (not_lt.mpr hp)]
    rfl

/-- **Floats do not swap when they are rounded** to decimal places. -/
theorem lt_round_of_lt (hy : y.Nonneg) (h : x.lt y = false) (digits : ℕ) :
    (x.round digits).lt (y.round digits) = false := by
  cases x with
  | nan => rfl
  | infinite negative =>
    cases negative with
    | false => cases (y.round digits) <;> rfl
    | true =>
      cases y with
      | nan => exact hy.elim
      | infinite negative =>
        obtain rfl : negative = false := hy
        cases h
      | finite q => cases h
  | finite p =>
    cases y with
    | nan => exact hy.elim
    | infinite negative =>
      obtain rfl : negative = false := hy
      cases h
    | finite q =>
      have hle : q.1 ≤ p.1 := not_lt.mp (of_decide_eq_false h)
      have hscale : (0 : ℚ) < 10 ^ digits := by positivity
      have hround : roundHalfEven (q.1 * 10 ^ digits) ≤ roundHalfEven (p.1 * 10 ^ digits) :=
        roundHalfEven_mono (mul_le_mul_of_nonneg_right hle hscale.le)
      have hnonneg : 0 ≤ roundHalfEven (q.1 * 10 ^ digits) :=
        roundHalfEven_nonneg (mul_nonneg hy hscale.le)
      have hscaled : 0 ≤ (roundHalfEven (q.1 * 10 ^ digits) : ℚ) / 10 ^ digits :=
        div_nonneg (Int.cast_nonneg hnonneg) hscale.le
      have hordered : (roundHalfEven (q.1 * 10 ^ digits) : ℚ) / 10 ^ digits ≤
          roundHalfEven (p.1 * 10 ^ digits) / 10 ^ digits :=
        div_le_div_of_nonneg_right (Int.cast_le.mpr hround) hscale.le
      simp only [round]
      split_ifs with hp hq hq
      · rw [lt_signed_zero]
        exact (nonneg_zero _).lt_zero
      · omega
      · rw [lt_signed_zero]
        exact (nonneg_ofRat (hscaled.trans hordered)).lt_zero
      · exact lt_ofRat_of_le hscaled hordered

end PyFloat

end Python
