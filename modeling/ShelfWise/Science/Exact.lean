import ShelfWise.Py.DecimalValue

/-!
# The helpers of the decision science on exact numbers

`q2`, `clamp` and `safe_div` of `shelfwise_decision_science.utils`, with decimals taken as rationals,
and what the calculations use of them: they keep the order and the unit interval. On values that the
context can hold the decimal helpers compute the same.
-/

namespace ShelfWise.Science.Exact

open Py

/-- `q2`. -/
def q2 (x : ℚ) : ℚ := Decimal.atPlace .halfUp (-2) x

/-- `clamp`. -/
def clamp (x low high : ℚ) : ℚ := max low (min high x)

/-- `safe_div`. -/
def safeDiv (numerator denominator default : ℚ) : ℚ :=
  if denominator = 0 then default else numerator / denominator

/-- `money * factor` in cents, for a whole number of cents. -/
def timesCents (minorUnits : ℤ) (factor : ℚ) : ℤ :=
  Sys.Rounding.rounded (Decimal.Rounding.up .halfUp) (minorUnits * factor)

variable {x y : ℚ}

/-! ## Two places -/

theorem hundredth_pos : (0 : ℚ) < 10 ^ (-2 : ℤ) := by positivity

theorem q2_mono (h : x ≤ y) : q2 x ≤ q2 y := by
  refine mul_le_mul_of_nonneg_right (Int.cast_le.mpr ?_) hundredth_pos.le
  exact Sys.Rounding.rounded_mono _ (div_le_div_of_nonneg_right h hundredth_pos.le)

/-- A whole number of hundredths is left alone. -/
theorem q2_hundredths (n : ℤ) : q2 (n * 10 ^ (-2 : ℤ)) = n * 10 ^ (-2 : ℤ) := by
  rw [q2, Decimal.atPlace, mul_div_cancel_right₀ _ hundredth_pos.ne', Sys.Rounding.rounded_intCast]

/-- What is shown is a whole number of hundredths. -/
theorem exists_hundredths (x : ℚ) : ∃ n : ℤ, q2 x = n * 10 ^ (-2 : ℤ) := ⟨_, rfl⟩

/-- Two places err by half a hundredth. -/
theorem q2_sub_le (x : ℚ) : |q2 x - x| ≤ 1 / 200 := by
  obtain ⟨hlow, hhigh⟩ := Sys.Rounding.rounded_bounds (Decimal.Rounding.up .halfUp)
    (x / 10 ^ (-2 : ℤ))
  have hunit : (10 : ℚ) ^ (-2 : ℤ) = 1 / 100 := by norm_num
  rw [q2, Decimal.atPlace]
  rw [hunit] at hlow hhigh ⊢
  rw [abs_le]
  constructor <;> linarith

/-- What is shown as a unit at least. -/
theorem one_le_q2_iff (x : ℚ) : 1 ≤ q2 x ↔ 995 / 1000 ≤ x := by
  have hunit : (10 : ℚ) ^ (-2 : ℤ) = 1 / 100 := by norm_num
  constructor
  · intro h
    by_contra hlt
    obtain ⟨-, hhigh⟩ := Sys.Rounding.rounded_bounds (Decimal.Rounding.up .halfUp)
      (x / 10 ^ (-2 : ℤ))
    have hcents : (Sys.Rounding.rounded (Decimal.Rounding.up .halfUp) (x / 10 ^ (-2 : ℤ)) : ℚ)
        < ((100 : ℤ) : ℚ) := by
      rw [hunit] at hhigh ⊢
      push_cast
      linarith
    have hle : Sys.Rounding.rounded (Decimal.Rounding.up .halfUp) (x / 10 ^ (-2 : ℤ)) ≤ 99 := by
      have := Int.cast_lt.mp hcents
      omega
    have hcast : (Sys.Rounding.rounded (Decimal.Rounding.up .halfUp) (x / 10 ^ (-2 : ℤ)) : ℚ) ≤ 99 := by
      exact_mod_cast hle
    rw [q2, Decimal.atPlace] at h
    rw [hunit] at h hcast
    linarith
  · intro h
    have hbound : q2 (995 / 1000) = 1 := by decide +kernel
    rw [← hbound]
    exact q2_mono h

theorem q2_intCast (n : ℤ) : q2 n = n := by
  have h := q2_hundredths (n * 100)
  have hscale : ((n * 100 : ℤ) : ℚ) * 10 ^ (-2 : ℤ) = n := by
    push_cast
    norm_num
    ring
  rwa [hscale] at h

theorem q2_nonneg (h : 0 ≤ x) : 0 ≤ q2 x := by
  have hzero := q2_intCast 0
  rw [Int.cast_zero] at hzero
  rw [← hzero]
  exact q2_mono h

theorem q2_le_one (h : x ≤ 1) : q2 x ≤ 1 := by
  have hone := q2_intCast 1
  rw [Int.cast_one] at hone
  rw [← hone]
  exact q2_mono h

/-! ## The unit interval -/

theorem clamp_mono {low high : ℚ} (h : x ≤ y) : clamp x low high ≤ clamp y low high :=
  max_le_max le_rfl (min_le_min le_rfl h)

theorem le_clamp (low high : ℚ) (x : ℚ) : low ≤ clamp x low high := le_max_left _ _

theorem clamp_le {low high : ℚ} (h : low ≤ high) (x : ℚ) : clamp x low high ≤ high :=
  max_le h (min_le_left _ _)

/-! ## Quotients -/

theorem safeDiv_of_pos {denominator : ℚ} (h : 0 < denominator) (numerator default : ℚ) :
    safeDiv numerator denominator default = numerator / denominator := if_neg h.ne'

/-- Over what is not negative, with zero for the empty denominator, quotients keep the order. -/
theorem safeDiv_mono {denominator : ℚ} (hd : 0 ≤ denominator) (h : x ≤ y) :
    safeDiv x denominator 0 ≤ safeDiv y denominator 0 := by
  unfold safeDiv
  split_ifs
  · exact le_rfl
  · exact div_le_div_of_nonneg_right h hd

theorem timesCents_nonneg {minorUnits : ℤ} (hm : 0 ≤ minorUnits) (h : 0 ≤ x) :
    0 ≤ timesCents minorUnits x :=
  Sys.Rounding.rounded_nonneg _ (mul_nonneg (Int.cast_nonneg hm) h)

/-! ## The decimal helpers -/

variable {a b r : Decimal}

theorem hasValue_q2 (ha : a.HasValue x) (h : a.q2 = .ok r) : r.HasValue (q2 x) := (ha.quantize h).1

end ShelfWise.Science.Exact
