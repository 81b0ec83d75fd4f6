import ShelfWise.Py.DecimalArithmetic
import ShelfWise.Sys.Rounding
import Mathlib.Data.Rat.Floor

/-!
# The values of decimal arithmetic

A finite decimal has a rational value. An operation of the context returns the exact result rounded to
28 significant digits (`inContext`), a quantized decimal is rounded at its place, and a comparison is
that of the values. So facts about rounding apply to the arithmetic of the source.
-/

namespace Py

namespace Decimal

open Sys.Rounding

/-! ## Rounding -/

/-- Which halves a mode takes up, by the integer below. -/
def Rounding.up : Rounding → ℤ → Bool
  | .halfEven, n => n % 2 = 1
  | .halfUp, _ => true

/-- A rational rounded to the context. -/
def inContext (x : ℚ) : ℚ := significant (Rounding.up .halfEven) 10 precision etiny x

/-- A rational rounded at a place. -/
def atPlace (mode : Rounding) (target : ℤ) (x : ℚ) : ℚ :=
  rounded (Rounding.up mode) (x / 10 ^ target) * 10 ^ target

/-- What 28 digits can show. -/
def Shown (x : ℚ) : Prop := Representable 10 precision etiny x

theorem inContext_mono {x y : ℚ} (h : x ≤ y) : inContext x ≤ inContext y :=
  significant_mono _ (by norm_num) (by decide) h

theorem inContext_neg (x : ℚ) : inContext (-x) = -inContext x := significant_neg _ x

theorem inContext_zero : inContext 0 = 0 := significant_zero _

theorem inContext_of_shown {x : ℚ} (h : Shown x) : inContext x = x :=
  significant_of_representable _ (by norm_num) h

theorem inContext_nonneg {x : ℚ} (h : 0 ≤ x) : 0 ≤ inContext x :=
  significant_nonneg _ (by norm_num) h

variable {n : ℤ}

/-- An integer of 28 digits is not rounded. -/
theorem inContext_intCast (h : |n| < 10 ^ 28) : inContext n = n := by
  apply inContext_of_shown
  refine ⟨n, 0, by decide, h, ?_⟩
  rw [zpow_zero, mul_one]

theorem inContext_one : inContext 1 = 1 := by
  have h := @inContext_intCast 1 (by norm_num)
  rwa [Int.cast_one] at h

/-- The last place of what lies below a power of ten. -/
theorem lastPlace_le_of_lt {x : ℚ} (hn : 1 ≤ n) (hx : 0 ≤ x) (h : x < 10 ^ n) :
    lastPlace 10 precision etiny x ≤ n - 28 := by
  have hprecision : precision = 28 := rfl
  have hetiny : etiny = -1000026 := rfl
  unfold lastPlace
  rw [abs_of_nonneg hx]
  rcases hx.eq_or_lt with hzero | hpos
  · rw [← hzero, Int.log_zero_right]
    omega
  · have hlog := (Int.lt_zpow_iff_log_lt (b := 10) (by norm_num) hpos).mp (by exact_mod_cast h)
    omega

/-- The context errs by half a unit of the last of 28 digits. -/
theorem inContext_sub_le {x : ℚ} (hn : 1 ≤ n) (hx : 0 ≤ x) (h : x < 10 ^ n) :
    |inContext x - x| ≤ 10 ^ (n - 28) / 2 := by
  refine (significant_bounds _ (by norm_num) x).trans ?_
  have hpow : (10 : ℚ) ^ lastPlace 10 precision etiny x ≤ 10 ^ (n - 28) :=
    zpow_le_zpow_right₀ (by norm_num) (lastPlace_le_of_lt hn hx h)
  push_cast
  linarith

theorem cast_roundQuotient (mode : Rounding) {n d : ℕ} (hd : 0 < d) :
    ((roundQuotient mode n d : ℕ) : ℤ) = nearest (Rounding.up mode) ((n : ℚ) / d) := by
  have hdq : (0 : ℚ) < d := by exact_mod_cast hd
  have hfloor : ⌊(n : ℚ) / d⌋ = ((n / d : ℕ) : ℤ) := Rat.floor_natCast_div_natCast n d
  have hfract : Int.fract ((n : ℚ) / d) = ((n % d : ℕ) : ℚ) / d := by
    have hsplit : ((d * (n / d) + n % d : ℕ) : ℚ) = n := by rw [Nat.div_add_mod]
    rw [Nat.cast_add, Nat.cast_mul] at hsplit
    rw [Int.fract, hfloor, Int.cast_natCast, eq_div_iff hdq.ne', sub_mul,
      div_mul_cancel₀ _ hdq.ne']
    linarith
  have hlow : 2 * Int.fract ((n : ℚ) / d) < 1 ↔ 2 * (n % d) < d := by
    rw [hfract, ← mul_div_assoc, div_lt_one hdq]
    exact_mod_cast Iff.rfl
  have hhigh : 1 < 2 * Int.fract ((n : ℚ) / d) ↔ d < 2 * (n % d) := by
    rw [hfract, ← mul_div_assoc, one_lt_div hdq]
    exact_mod_cast Iff.rfl
  have hup : Rounding.up mode ((n / d : ℕ) : ℤ) = true ↔ mode = .halfUp ∨ n / d % 2 = 1 := by
    cases mode with
    | halfUp => exact iff_of_true rfl (.inl rfl)
    | halfEven =>
      simp only [Rounding.up, decide_eq_true_eq, reduceCtorEq, false_or]
      omega
  unfold nearest roundQuotient
  simp only [hlow, hhigh, hfloor, hup]
  split_ifs <;> push_cast <;> rfl

/-- The units of a place are the nearest ones. -/
theorem cast_unitsOf (mode : Rounding) (coefficient : ℕ) (exponent target : ℤ) :
    ((unitsOf mode coefficient exponent target : ℕ) : ℤ)
      = nearest (Rounding.up mode) ((coefficient : ℚ) * 10 ^ exponent / 10 ^ target) := by
  have hten : (10 : ℚ) ≠ 0 := by norm_num
  have hscale : (coefficient : ℚ) * 10 ^ exponent / 10 ^ target
      = coefficient * 10 ^ (exponent - target) := by
    rw [mul_div_assoc, ← zpow_sub₀ hten]
  rw [hscale]
  unfold unitsOf
  split_ifs with h
  · have hunits : (coefficient : ℚ) * 10 ^ (exponent - target)
        = ((coefficient * 10 ^ (exponent - target).toNat : ℤ) : ℚ) := by
      push_cast
      rw [← zpow_natCast, Int.toNat_of_nonneg (by omega)]
    rw [hunits, nearest_intCast]
    push_cast
    rfl
  · have hpow : (10 : ℚ) ^ (exponent - target)
        = (((10 ^ (target - exponent).toNat : ℕ) : ℚ))⁻¹ := by
      rw [Nat.cast_pow, ← zpow_natCast, Int.toNat_of_nonneg (by omega), ← zpow_neg, neg_sub]
      norm_num
    rw [hpow, ← div_eq_mul_inv]
    exact cast_roundQuotient mode (by positivity)

/-- The sign of a decimal. -/
def signOf (negative : Bool) : ℚ := if negative then -1 else 1

/-- A rounding of a magnitude, with the sign. -/
theorem signOf_mul_rounded (negative : Bool) (up : ℤ → Bool) {x : ℚ} (hx : 0 ≤ x) :
    (signOf negative) * (nearest up x : ℚ) = rounded up (signOf negative * x) := by
  cases negative with
  | false =>
    simp only [signOf, Bool.false_eq_true, if_false, one_mul]
    rw [rounded_of_nonneg up hx]
  | true =>
    simp only [signOf, if_true, neg_mul, one_mul]
    rw [rounded_neg, rounded_of_nonneg up hx]
    push_cast
    rfl

/-! ## Values -/

/-- A decimal is finite and has a value. -/
def HasValue (d : Decimal) (x : ℚ) : Prop := d.isFinite = true ∧ d.toRat = x

theorem hasValue_finite (negative : Bool) (coefficient : ℕ) (exponent : ℤ) :
    HasValue (finite negative coefficient exponent)
      (signOf negative * coefficient * 10 ^ exponent) := ⟨rfl, rfl⟩

theorem HasValue.unique {d : Decimal} {x y : ℚ} (hx : HasValue d x) (hy : HasValue d y) : x = y :=
  hx.2.symm.trans hy.2

theorem cast_signed (negative : Bool) (coefficient : ℕ) :
    ((signed negative coefficient : ℤ) : ℚ) = signOf negative * coefficient := by
  cases negative with
  | false => simp only [signed, signOf, Bool.false_eq_true, if_false, one_mul, Int.cast_natCast]
  | true => simp only [signed, signOf, if_true, neg_mul, one_mul, Int.cast_neg, Int.cast_natCast]

theorem hasValue_ofInt (n : ℤ) : HasValue (ofInt n) n := by
  refine ⟨rfl, ?_⟩
  rcases le_or_gt 0 n with h | h
  · simp only [ofInt, toRat, not_lt.mpr h, decide_false, Bool.false_eq_true, if_false, one_mul,
      zpow_zero, mul_one]
    rw [← Int.cast_natCast, Int.natAbs_of_nonneg h]
  · simp only [ofInt, toRat, h, decide_true, if_true, zpow_zero, mul_one, neg_mul, one_mul]
    rw [← Int.cast_natCast, Int.ofNat_natAbs_of_nonpos h.le]
    push_cast
    exact neg_neg _

variable {coefficient : ℕ}

/-- The last place of a number of so many digits. -/
theorem lastPlace_eq (negative : Bool) (exponent : ℤ) (hzero : coefficient ≠ 0) :
    lastPlace 10 precision etiny (signOf negative * coefficient * (10 : ℚ) ^ exponent)
      = max (exponent + (Nat.toDigits 10 coefficient).length - precision) etiny := by
  obtain ⟨hlow, hhigh⟩ := value_bounds exponent hzero
  have hpos : (0 : ℚ) < coefficient * 10 ^ exponent := by
    have hcoefficient : (0 : ℚ) < coefficient := by exact_mod_cast Nat.pos_of_ne_zero hzero
    positivity
  have habs : |signOf negative * coefficient * (10 : ℚ) ^ exponent| = coefficient * 10 ^ exponent := by
    rw [mul_assoc, abs_mul, abs_of_pos hpos]
    cases negative <;> simp [signOf]
  have hten : ((10 : ℕ) : ℚ) = 10 := by norm_num
  have hlog : Int.log 10 ((coefficient : ℚ) * 10 ^ exponent)
      = exponent + (Nat.toDigits 10 coefficient).length - 1 := by
    have hge := (Int.zpow_le_iff_le_log (b := 10) (by norm_num) hpos).mp (by rw [hten]; exact hlow)
    have hlt := (Int.lt_zpow_iff_log_lt (b := 10) (by norm_num) hpos).mp (by rw [hten]; exact hhigh)
    omega
  rw [lastPlace, habs, hlog]
  congr 1
  ring

section

variable {coefficient : ℕ} {exponent target : ℤ}

/-- The rounded units of the last place have the rounded value. -/
theorem units_value (negative : Bool) (hzero : coefficient ≠ 0)
    (htarget : max (exponent + (Nat.toDigits 10 coefficient).length - precision) etiny = target) :
    signOf negative * (unitsOf .halfEven coefficient exponent target : ℕ) * (10 : ℚ) ^ target
      = inContext (signOf negative * coefficient * 10 ^ exponent) := by
  have hplace := lastPlace_eq negative exponent hzero
  have hpow : (0 : ℚ) < 10 ^ target := by positivity
  have hnonneg : (0 : ℚ) ≤ coefficient * 10 ^ exponent / 10 ^ target := by positivity
  have hround := signOf_mul_rounded negative (Rounding.up .halfEven) hnonneg
  rw [← cast_unitsOf, Int.cast_natCast] at hround
  rw [hround, inContext, significant, hplace, htarget]
  push_cast
  rw [mul_div_assoc, mul_div_assoc, mul_assoc]

/-- The rounded units of the last place have so many digits, or are the first number of more. -/
theorem units_le_carry (hzero : coefficient ≠ 0)
    (hleast : exponent + (Nat.toDigits 10 coefficient).length - precision ≤ target) :
    unitsOf .halfEven coefficient exponent target ≤ 10 ^ 28 := by
  have hprecision : precision = 28 := rfl
  have hpow : (0 : ℚ) < 10 ^ target := by positivity
  have hbound : (coefficient : ℚ) * 10 ^ exponent / 10 ^ target ≤ ((10 ^ 28 : ℤ) : ℚ) := by
    have hplaces : exponent + ((Nat.toDigits 10 coefficient).length : ℤ) ≤ 28 + target := by omega
    rw [div_le_iff₀ hpow]
    refine (value_bounds exponent hzero).2.le.trans
      ((zpow_le_zpow_right₀ (by norm_num) hplaces).trans ?_)
    rw [zpow_add₀ (by norm_num)]
    push_cast
    norm_cast
  have hle := nearest_mono (Rounding.up .halfEven) hbound
  rw [nearest_intCast, ← cast_unitsOf] at hle
  omega

end

variable {negative : Bool} {exponent : ℤ}

/-- What the context returns has the rounded value. -/
theorem hasValue_fix {d : Decimal} (h : fix negative coefficient exponent = .ok d) :
    HasValue d (inContext (signOf negative * coefficient * 10 ^ exponent)) := by
  unfold fix at h
  dsimp only at h
  split_ifs at h with hzero hover hexact hfits hcarried
  · cases h
    refine ⟨rfl, ?_⟩
    rw [hzero]
    simp only [toRat, Nat.cast_zero, mul_zero, zero_mul]
    exact (significant_zero _).symm
  · -- without rounding
    cases h
    refine ⟨rfl, ?_⟩
    have hunits := @rounded_units ℚ _ _ _ _ (Rounding.up .halfEven) 10 (by norm_num) _ _
      (signed negative coefficient) hexact
    rw [cast_signed] at hunits
    push_cast at hunits
    rw [inContext, significant, lastPlace_eq negative exponent hzero]
    push_cast
    exact hunits.symm
  · cases h
    exact ⟨rfl, units_value negative hzero rfl⟩
  · -- with a carry
    cases h
    have htop := units_le_carry hzero
      (le_max_left (exponent + (Nat.toDigits 10 coefficient).length - precision) etiny)
    have hvalue : _ = inContext (signOf negative * coefficient * 10 ^ exponent) :=
      units_value negative hzero rfl
    have hprecision : precision = 28 := rfl
    generalize max (exponent + (Nat.toDigits 10 coefficient).length - precision) etiny = target
      at hfits htop hvalue
    have hunits : unitsOf .halfEven coefficient exponent target = 10 ^ 28 := by
      rw [hprecision] at hfits
      omega
    refine ⟨rfl, ?_⟩
    rw [← hvalue, hunits]
    show signOf negative * ((10 ^ 28 / 10 : ℕ) : ℚ) * 10 ^ (target + 1) = _
    rw [zpow_add₀ (by norm_num)]
    norm_num
    ring

/-! ## Operations -/

section Operations

variable {a b r : Decimal} {x y : ℚ}

/-- A finite decimal, and its value. -/
theorem exists_hasValue (h : a.isFinite = true) : HasValue a a.toRat := ⟨h, rfl⟩

theorem HasValue.exists_finite (h : HasValue a x) : ∃ negative coefficient exponent,
    a = finite negative coefficient exponent ∧ x = signOf negative * coefficient * 10 ^ exponent := by
  obtain ⟨hfinite, hvalue⟩ := h
  cases a with
  | finite negative coefficient exponent => exact ⟨negative, coefficient, exponent, rfl, hvalue.symm⟩
  | infinity negative => cases hfinite
  | nan negative signalling payload => cases hfinite

theorem HasValue.congr (h : HasValue a x) (hxy : x = y) : HasValue a y := hxy ▸ h

variable {n : ℤ}

theorem signOf_mul_natAbs {negative : Bool} (h : negative = true ↔ n < 0) :
    signOf negative * (n.natAbs : ℚ) = n := by
  rcases lt_or_ge n 0 with hn | hn
  · rw [signOf, if_pos (h.mpr hn), ← Int.cast_natCast, Int.ofNat_natAbs_of_nonpos hn.le]
    push_cast
    ring
  · rw [signOf, if_neg fun hneg => absurd (h.mp hneg) (not_lt.mpr hn), ← Int.cast_natCast,
      Int.natAbs_of_nonneg hn, one_mul]

/-- A coefficient in units of a place below. -/
theorem signed_scaled (negative : Bool) (coefficient : ℕ) {exponent target : ℤ}
    (h : target ≤ exponent) :
    ((signed negative coefficient * 10 ^ (exponent - target).toNat : ℤ) : ℚ) * 10 ^ target
      = signOf negative * coefficient * 10 ^ exponent := by
  push_cast
  rw [cast_signed, ← zpow_natCast, Int.toNat_of_nonneg (by omega), mul_assoc,
    ← zpow_add₀ (by norm_num), sub_add_cancel]

theorem HasValue.add (ha : HasValue a x) (hb : HasValue b y) (h : a.add b = .ok r) :
    HasValue r (inContext (x + y)) := by
  obtain ⟨s, c, e, rfl, rfl⟩ := ha.exists_finite
  obtain ⟨t, d, f, rfl, rfl⟩ := hb.exists_finite
  refine (hasValue_fix h).congr (congrArg inContext ?_)
  rw [← signed_scaled s c (min_le_left e f), ← signed_scaled t d (min_le_right e f), ← add_mul,
    ← Int.cast_add]
  generalize signed s c * 10 ^ (e - min e f).toNat + signed t d * 10 ^ (f - min e f).toNat = sum
  rcases eq_or_ne sum 0 with hzero | hne
  · simp only [hzero, Int.natAbs_zero, Nat.cast_zero, mul_zero, zero_mul, Int.cast_zero]
  · rw [signOf_mul_natAbs]
    simp only [decide_eq_true_eq, hne, false_and, or_false]

theorem HasValue.negate (ha : HasValue a x) : HasValue a.negate (-x) := by
  obtain ⟨s, c, e, rfl, rfl⟩ := ha.exists_finite
  refine (hasValue_finite (!s) c e).congr ?_
  cases s <;> simp [signOf]

theorem HasValue.sub (ha : HasValue a x) (hb : HasValue b y) (h : a.sub b = .ok r) :
    HasValue r (inContext (x - y)) := by
  obtain ⟨t, d, f, rfl, hy⟩ := hb.exists_finite
  rw [sub_eq_add_neg]
  exact ha.add hb.negate h

theorem HasValue.mul (ha : HasValue a x) (hb : HasValue b y) (h : a.mul b = .ok r) :
    HasValue r (inContext (x * y)) := by
  obtain ⟨s, c, e, rfl, rfl⟩ := ha.exists_finite
  obtain ⟨t, d, f, rfl, rfl⟩ := hb.exists_finite
  refine (hasValue_fix h).congr (congrArg inContext ?_)
  have hsign : signOf (s != t) = signOf s * signOf t := by
    cases s <;> cases t <;> simp [signOf]
  rw [hsign, zpow_add₀ (by norm_num)]
  push_cast
  ring

variable {mode : Rounding} {target : ℤ}

theorem HasValue.quantize (ha : HasValue a x) (h : a.quantize mode target = .ok r) :
    HasValue r (atPlace mode target x) ∧ |atPlace mode target x| < 10 ^ (28 + target) := by
  obtain ⟨s, c, e, rfl, rfl⟩ := ha.exists_finite
  unfold quantize at h
  dsimp only at h
  split_ifs at h with hfits
  cases h
  have hnonneg : (0 : ℚ) ≤ c * 10 ^ e / 10 ^ target := by positivity
  have hround := signOf_mul_rounded s (Rounding.up mode) hnonneg
  rw [← cast_unitsOf, Int.cast_natCast, ← mul_div_assoc, ← mul_assoc] at hround
  have hvalue : atPlace mode target (signOf s * c * 10 ^ e)
      = signOf s * (unitsOf mode c e target : ℕ) * 10 ^ target := by
    rw [atPlace, ← hround]
  refine ⟨(hasValue_finite s (unitsOf mode c e target) target).congr hvalue.symm, ?_⟩
  have hunit : (0 : ℚ) < 10 ^ target := by positivity
  have habs : |signOf s * (unitsOf mode c e target : ℚ)| = (unitsOf mode c e target : ℚ) := by
    cases s <;> simp [signOf]
  rw [hvalue, abs_mul, habs, abs_of_pos hunit, zpow_add₀ (by norm_num)]
  refine mul_lt_mul_of_pos_right ?_ hunit
  exact_mod_cast hfits

theorem HasValue.toInt_of_quantize (ha : HasValue a x) (h : a.quantize mode target = .ok r) :
    ∃ n, r.toInt = .ok n := by
  obtain ⟨s, c, e, rfl, -⟩ := (ha.quantize h).1.exists_finite
  exact ⟨_, rfl⟩

/-- The integer of a decimal that is quantized to one. -/
theorem HasValue.cents (ha : HasValue a x) (hr : a.quantize mode 0 = .ok r) (hn : r.toInt = .ok n) :
    n = rounded (Rounding.up mode) x := by
  have hvalue := (ha.quantize hr).1
  obtain ⟨s, c, e, rfl, rfl⟩ := ha.exists_finite
  unfold Decimal.quantize at hr
  dsimp only at hr
  split_ifs at hr
  cases hr
  have htruncate : signed s (unitsOf mode c e 0) = n := by
    have hn' : (finite s (unitsOf mode c e 0) 0).truncate = n := Except.ok.inj hn
    simpa only [truncate, signed, le_refl, if_true, Int.toNat_zero, pow_zero, mul_one] using hn'
  have hcast := hvalue.2
  rw [atPlace, zpow_zero, div_one, mul_one] at hcast
  simp only [toRat, zpow_zero, mul_one] at hcast
  have hint : ((n : ℤ) : ℚ) = rounded (Rounding.up mode) (signOf s * c * 10 ^ e) := by
    rw [← htruncate, cast_signed]
    exact hcast
  exact_mod_cast hint

/-! ## Comparisons -/

theorem HasValue.lt (ha : HasValue a x) (hb : HasValue b y) : a.lt b = .ok (decide (x < y)) := by
  obtain ⟨s, c, e, rfl, rfl⟩ := ha.exists_finite
  obtain ⟨t, d, f, rfl, rfl⟩ := hb.exists_finite
  have hunit : (0 : ℚ) < 10 ^ min e f := by positivity
  rw [← signed_scaled s c (min_le_left e f), ← signed_scaled t d (min_le_right e f)]
  unfold lt
  simp only [mul_lt_mul_iff_left₀ hunit, Int.cast_lt]

theorem HasValue.le (ha : HasValue a x) (hb : HasValue b y) : a.le b = .ok (decide (x ≤ y)) := by
  rw [Decimal.le, hb.lt ha]
  simp only [Except.map, ← decide_not, not_lt]

theorem HasValue.maxOf (ha : HasValue a x) (hb : HasValue b y) :
    ∃ r, a.maxOf b = .ok r ∧ HasValue r (max x y) := by
  rw [Decimal.maxOf, ha.lt hb]
  rcases lt_or_ge x y with h | h
  · exact ⟨b, by simp only [Except.map, h, decide_true, if_true], hb.congr (max_eq_right h.le).symm⟩
  · refine ⟨a, ?_, ha.congr (max_eq_left h).symm⟩
    simp only [Except.map, not_lt.mpr h, decide_false, Bool.false_eq_true, if_false]

theorem HasValue.minOf (ha : HasValue a x) (hb : HasValue b y) :
    ∃ r, a.minOf b = .ok r ∧ HasValue r (min x y) := by
  rw [Decimal.minOf, hb.lt ha]
  rcases lt_or_ge y x with h | h
  · exact ⟨b, by simp only [Except.map, h, decide_true, if_true], hb.congr (min_eq_right h.le).symm⟩
  · refine ⟨a, ?_, ha.congr (min_eq_left h).symm⟩
    simp only [Except.map, not_lt.mpr h, decide_false, Bool.false_eq_true, if_false]

/-! ## Values that are no numbers -/

/-- A NaN, quiet or signalling. -/
def isNan : Decimal → Bool
  | nan .. => true
  | _ => false

/-- No comparison goes through with a NaN. -/
theorem isNan_of_lt {p : Bool} (h : a.lt b = .ok p) : a.isNan = false ∧ b.isNan = false := by
  cases a <;> cases b <;> first | exact ⟨rfl, rfl⟩ | cases h

theorem isNan_of_maxOf (h : a.maxOf b = .ok r) : a.isNan = false ∧ b.isNan = false := by
  unfold Decimal.maxOf at h
  cases hlt : a.lt b with
  | error e =>
    rw [hlt] at h
    cases h
  | ok p => exact isNan_of_lt hlt

/-- The larger one of two is one of them. -/
theorem eq_or_eq_of_maxOf (h : a.maxOf b = .ok r) : r = a ∨ r = b := by
  unfold Decimal.maxOf at h
  cases hlt : a.lt b with
  | error e =>
    rw [hlt] at h
    cases h
  | ok p =>
    rw [hlt] at h
    cases h
    cases p
    · exact .inl rfl
    · exact .inr rfl

/-- The smaller one of two is one of them, and a number. -/
theorem eq_or_eq_of_minOf (h : a.minOf b = .ok r) :
    (r = a ∨ r = b) ∧ a.isNan = false ∧ b.isNan = false := by
  unfold Decimal.minOf at h
  cases hlt : b.lt a with
  | error e =>
    rw [hlt] at h
    cases h
  | ok p =>
    obtain ⟨hb, ha⟩ := isNan_of_lt hlt
    refine ⟨?_, ha, hb⟩
    rw [hlt] at h
    cases h
    cases p
    · exact .inl rfl
    · exact .inr rfl

/-- A difference with a NaN is one. -/
theorem isNan_of_sub (h : a.sub b = .ok r) (hr : r.isNan = false) : a.isNan = false := by
  cases a with
  | finite s c e => rfl
  | infinity s => rfl
  | nan s signalling payload =>
    cases b with
    | finite t d f =>
      cases signalling <;> cases h
      cases hr
    | infinity t =>
      cases signalling <;> cases h
      cases hr
    | nan t signalling' payload' =>
      cases signalling <;> cases signalling' <;> cases h
      cases hr

/-- What an operation returns on a NaN is none that is finite. -/
theorem isFinite_of_nanOf (h : nanOf a b = .ok r) : r.isFinite = false := by
  unfold nanOf at h
  split at h <;> cases h <;> rfl

/-- Only finite terms have a finite sum. -/
theorem isFinite_of_add (h : a.add b = .ok r) (hr : r.isFinite = true) :
    a.isFinite = true ∧ b.isFinite = true := by
  unfold add at h
  split at h
  · exact ⟨rfl, rfl⟩
  · split_ifs at h
    cases h
    cases hr
  · cases h
    cases hr
  · cases h
    cases hr
  · rw [isFinite_of_nanOf h] at hr
    cases hr

/-- Only finite factors have a finite product. -/
theorem isFinite_of_mul (h : a.mul b = .ok r) (hr : r.isFinite = true) :
    a.isFinite = true ∧ b.isFinite = true := by
  unfold mul at h
  split at h
  · exact ⟨rfl, rfl⟩
  · cases h
    cases hr
  · split_ifs at h
    cases h
    cases hr
  · split_ifs at h
    cases h
    cases hr
  · rw [isFinite_of_nanOf h] at hr
    cases hr

/-- What can be quantized is finite, unless it is a NaN. -/
theorem exists_hasValue_of_quantize (h : a.quantize mode target = .ok r) (ha : a.isNan = false) :
    HasValue a a.toRat := by
  cases a with
  | finite s c e => exact ⟨rfl, rfl⟩
  | infinity s => cases h
  | nan s signalling payload => cases ha

end Operations

/-! ## Quotients of decimals

The division of the `decimal` module keeps one digit more than the context has and marks in the last one
whether something is left over. Such a digit decides every rounding as the exact quotient does
(`nearest_sticky`), so a quotient has the rounded value (`HasValue.div`), and the division of finite decimals
raises nothing but `Overflow`, when that value has too many digits (`div_ok_iff`).
-/

/-! ## Rounding with a sticky digit -/

section Sticky

variable {up : ℤ → Bool} {k : ℤ} {D w : ℚ}

theorem nearest_of_low (hD : 0 < D) (hfloor : k * D ≤ w) (hlow : 2 * (w - k * D) < D) :
    nearest up (w / D) = k := by
  have hk : ⌊w / D⌋ = k := by
    rw [Int.floor_eq_iff, le_div_iff₀ hD, div_lt_iff₀ hD]
    constructor
    · exact hfloor
    · linarith
  have hfract : 2 * Int.fract (w / D) < 1 := by
    rw [Int.fract, hk, ← mul_lt_mul_iff_left₀ hD, one_mul, mul_assoc, sub_mul, div_mul_cancel₀ _ hD.ne']
    exact hlow
  rw [nearest, if_pos hfract, hk]

theorem nearest_of_high (hD : 0 < D) (hhigh : D < 2 * (w - k * D)) (hceil : w < (k + 1) * D) :
    nearest up (w / D) = k + 1 := by
  have hk : ⌊w / D⌋ = k := by
    rw [Int.floor_eq_iff, le_div_iff₀ hD, div_lt_iff₀ hD]
    constructor
    · linarith
    · exact hceil
  have hfract : 1 < 2 * Int.fract (w / D) := by
    rw [Int.fract, hk, ← mul_lt_mul_iff_left₀ hD, one_mul, mul_assoc, sub_mul, div_mul_cancel₀ _ hD.ne']
    exact hhigh
  rw [nearest, if_neg hfract.not_gt, if_pos (.inl hfract), hk]

/-- The digit that tells that something is left over: it is neither zero nor five. -/
def sticky (quotient : ℕ) : ℕ := if quotient % 5 = 0 then quotient + 1 else quotient

/-- A number above an integer is rounded at a later place as that integer with the sticky digit is. -/
theorem nearest_sticky (up : ℤ → Bool) (quotient : ℕ) {n : ℕ} (hn : 0 < n) {z : ℚ}
    (hlow : (quotient : ℚ) < z) (hhigh : z < quotient + 1) :
    nearest up (z / 10 ^ n) = nearest up ((sticky quotient : ℚ) / 10 ^ n) := by
  -- half a unit of the later place is `5 * j`, and no sticky digit lies there
  obtain ⟨j, hj⟩ : ∃ j, 10 ^ n = 10 * j := ⟨10 ^ (n - 1), by rw [← pow_succ', Nat.sub_add_cancel hn]⟩
  have hjpos : 0 < 10 * j := hj ▸ Nat.pow_pos (by norm_num)
  have hD : (10 : ℚ) ^ n = 10 * j := by exact_mod_cast hj
  have hDpos : (0 : ℚ) < 10 * j := by exact_mod_cast hjpos
  obtain ⟨k, m, r, hquotient, hr, hm, hleft, hright⟩ : ∃ k m r : ℕ, quotient = 10 * j * k + m ∧
      sticky quotient = 10 * j * k + r ∧ m < 10 * j ∧ (m < 5 * j → r < 5 * j) ∧
        (5 * j ≤ m → 5 * j < r ∧ r < 10 * j) := by
    have hsplit := Nat.div_add_mod quotient (10 * j)
    have hmod := Nat.mod_lt quotient hjpos
    have hfive : quotient % (10 * j) % 5 = quotient % 5 := Nat.mod_mod_of_dvd _ ⟨2 * j, by ring⟩
    by_cases hzero : quotient % 5 = 0
    · refine ⟨quotient / (10 * j), quotient % (10 * j), quotient % (10 * j) + 1, hsplit.symm, ?_, hmod,
        by omega, by omega⟩
      rw [sticky, if_pos hzero]
      omega
    · refine ⟨quotient / (10 * j), quotient % (10 * j), quotient % (10 * j), hsplit.symm, ?_, hmod,
        by omega, by omega⟩
      rw [sticky, if_neg hzero]
      exact hsplit.symm
  have hsticky : (sticky quotient : ℚ) = (k : ℤ) * (10 * j) + r := by
    rw [hr]
    push_cast
    ring
  have hcast : (quotient : ℚ) = (k : ℤ) * (10 * j) + m := by
    rw [hquotient]
    push_cast
    ring
  rw [hD, hsticky]
  rw [hcast] at hlow hhigh
  rcases lt_or_ge m (5 * j) with hside | hside
  · have hroom : (m : ℚ) + 1 ≤ 5 * j := by exact_mod_cast hside
    have hroom' : (r : ℚ) < 5 * j := by exact_mod_cast hleft hside
    rw [nearest_of_low (k := k) hDpos (by linarith [Nat.cast_nonneg (α := ℚ) m]) (by linarith),
      nearest_of_low (k := k) hDpos (by linarith [Nat.cast_nonneg (α := ℚ) r]) (by linarith)]
  · have hroom : (5 : ℚ) * j ≤ m := by exact_mod_cast hside
    have hroom' : (5 : ℚ) * j < r := by exact_mod_cast (hright hside).1
    have hceil : (m : ℚ) + 1 ≤ 10 * j := by exact_mod_cast hm
    have hceil' : (r : ℚ) < 10 * j := by exact_mod_cast (hright hside).2
    rw [nearest_of_high (k := k) hDpos (by linarith) (by linarith),
      nearest_of_high (k := k) hDpos (by linarith) (by linarith)]

/-- A number between consecutive integers of enough digits is rounded to the context as the sticky digit
is. -/
theorem inContext_sticky {quotient : ℕ} (exponent : ℤ) (hdigits : 10 ^ 28 ≤ quotient) {z : ℚ}
    (hlow : (quotient : ℚ) < z) (hhigh : z < quotient + 1) :
    inContext (z * 10 ^ exponent) = inContext (sticky quotient * 10 ^ exponent) := by
  have hzero : quotient ≠ 0 := by omega
  obtain ⟨hleast, hmost⟩ := digits_bounds hzero
  have hlength : 28 < (Nat.toDigits 10 quotient).length := by
    by_contra hle
    have hpow : 10 ^ (Nat.toDigits 10 quotient).length ≤ 10 ^ 28 :=
      Nat.pow_le_pow_right (by norm_num) (not_lt.mp hle)
    omega
  generalize (Nat.toDigits 10 quotient).length = digits at hleast hmost hlength
  have hstickyLow : quotient ≤ sticky quotient := by
    unfold sticky
    split <;> omega
  have hstickyHigh : sticky quotient < 10 ^ digits := by
    have hfive : 10 ^ digits % 5 = 0 := by
      have hsplit : 10 ^ digits = 5 * (2 * 10 ^ (digits - 1)) := by
        rw [← mul_assoc, show 5 * 2 = 10 from rfl, ← pow_succ', Nat.sub_add_cancel (by omega)]
      rw [hsplit, Nat.mul_mod_right]
    unfold sticky
    split <;> omega
  have hten : ((10 : ℕ) : ℚ) = 10 := by norm_num
  have hunit : (0 : ℚ) < 10 ^ exponent := by positivity
  -- both have as many digits before the point
  have hplace : ∀ w : ℚ, (quotient : ℚ) ≤ w → w < 10 ^ digits →
      lastPlace 10 precision etiny (w * 10 ^ exponent) = max (exponent + digits - 28) etiny := by
    intro w hw hw'
    have hwpos : 0 < w := lt_of_lt_of_le (by exact_mod_cast Nat.pos_of_ne_zero hzero) hw
    have hpos : 0 < w * 10 ^ exponent := mul_pos hwpos hunit
    have hlower : (10 : ℚ) ^ (exponent + digits - 1) ≤ w * 10 ^ exponent := by
      have hle : (10 : ℚ) ^ (digits - 1) ≤ w := le_trans (by exact_mod_cast hleast) hw
      have hsplit : exponent + digits - 1 = ((digits - 1 : ℕ) : ℤ) + exponent := by omega
      rw [hsplit, zpow_add₀ (by norm_num), zpow_natCast]
      exact mul_le_mul_of_nonneg_right hle hunit.le
    have hupper : w * 10 ^ exponent < (10 : ℚ) ^ (exponent + digits) := by
      rw [add_comm, zpow_add₀ (by norm_num), zpow_natCast]
      exact mul_lt_mul_of_pos_right hw' hunit
    have hge := (Int.zpow_le_iff_le_log (b := 10) (by norm_num) hpos).mp (by rw [hten]; exact hlower)
    have hlt := (Int.lt_zpow_iff_log_lt (b := 10) (by norm_num) hpos).mp (by rw [hten]; exact hupper)
    have hprecision : precision = 28 := rfl
    rw [lastPlace, abs_of_pos hpos, hprecision]
    congr 1
    push_cast
    omega
  have hplaceLow := hplace z hlow.le (lt_of_lt_of_le hhigh (by exact_mod_cast hmost))
  have hplaceHigh := hplace (sticky quotient) (by exact_mod_cast hstickyLow) (by exact_mod_cast hstickyHigh)
  obtain ⟨n, hn⟩ : ∃ n : ℕ, max (exponent + digits - 28) etiny = exponent + n :=
    ⟨(max (exponent + digits - 28) etiny - exponent).toNat, by omega⟩
  have hnpos : 0 < n := by omega
  have hscale : ∀ w : ℚ, w * 10 ^ exponent / 10 ^ (exponent + n) = w / 10 ^ n := by
    intro w
    rw [zpow_add₀ (by norm_num), zpow_natCast, mul_comm w, mul_div_mul_left _ _ hunit.ne']
  have hzpos : 0 ≤ z := le_trans (Nat.cast_nonneg quotient) hlow.le
  rw [inContext, inContext, significant, significant, hplaceLow, hplaceHigh, hn, hten, hscale, hscale,
    rounded_of_nonneg _ (by positivity), rounded_of_nonneg _ (by positivity),
    nearest_sticky _ quotient hnpos hlow hhigh]

end Sticky

/-! ## Division -/

variable {a b r : Decimal} {x y : ℚ}

theorem towardsIdeal_value (ideal : ℤ) (fuel coefficient : ℕ) (exponent : ℤ) :
    ((towardsIdeal ideal fuel coefficient exponent).1 : ℚ) *
        10 ^ (towardsIdeal ideal fuel coefficient exponent).2 = coefficient * 10 ^ exponent := by
  induction fuel generalizing coefficient exponent with
  | zero => rfl
  | succ fuel ih =>
    rw [towardsIdeal]
    split
    · next hmore =>
      rw [ih, zpow_add₀ (by norm_num), zpow_one]
      have hcoefficient : (coefficient : ℚ) = (coefficient / 10 : ℕ) * 10 := by
        exact_mod_cast (Nat.div_mul_cancel (Nat.dvd_of_mod_eq_zero hmore.2)).symm
      rw [hcoefficient]
      ring
    · rfl

theorem inContext_signOf (negative : Bool) (x : ℚ) :
    inContext (signOf negative * x) = signOf negative * inContext x := by
  cases negative with
  | false => simp only [signOf, Bool.false_eq_true, if_false, one_mul]
  | true => simp only [signOf, if_true, neg_mul, one_mul, inContext_neg]

variable {c d : ℕ}

/-- The scaled quotient of the division has a digit more than the context. -/
theorem scaled_quotient (hc : c ≠ 0) (hd : d ≠ 0) {shift : ℤ}
    (hshift : shift = (Nat.toDigits 10 d).length - (Nat.toDigits 10 c).length + precision + 1) :
    ((c * 10 ^ shift.toNat : ℕ) : ℚ) / ((d * 10 ^ (-shift).toNat : ℕ) : ℚ) = c / d * 10 ^ shift ∧
      10 ^ 28 ≤ c * 10 ^ shift.toNat / (d * 10 ^ (-shift).toNat) := by
  have hcq : (0 : ℚ) < c := by exact_mod_cast Nat.pos_of_ne_zero hc
  have hdq : (0 : ℚ) < d := by exact_mod_cast Nat.pos_of_ne_zero hd
  have hvalue : ((c * 10 ^ shift.toNat : ℕ) : ℚ) / ((d * 10 ^ (-shift).toNat : ℕ) : ℚ) =
      c / d * 10 ^ shift := by
    have hsplit : shift = shift.toNat - (-shift).toNat := by omega
    have hpow : (10 : ℚ) ^ shift = 10 ^ shift.toNat / 10 ^ (-shift).toNat := by
      conv_lhs => rw [hsplit]
      rw [zpow_sub₀ (by norm_num), zpow_natCast, zpow_natCast]
    rw [hpow]
    push_cast
    rw [mul_div_mul_comm]
  refine ⟨hvalue, ?_⟩
  have hdivisor : 0 < d * 10 ^ (-shift).toNat := Nat.mul_pos (Nat.pos_of_ne_zero hd) (by positivity)
  have hdivisorq : (0 : ℚ) < ((d * 10 ^ (-shift).toNat : ℕ) : ℚ) := by exact_mod_cast hdivisor
  rw [Nat.le_div_iff_mul_le hdivisor]
  have hlarge : (10 : ℚ) ^ 28 ≤ c / d * 10 ^ shift := by
    have hlow : (10 : ℚ) ^ ((Nat.toDigits 10 c).length - 1 : ℤ) ≤ c := by
      have hbound := (value_bounds 0 hc).1
      rw [zero_add, zpow_zero, mul_one] at hbound
      exact hbound
    have hhigh : (d : ℚ) ≤ (10 : ℚ) ^ ((Nat.toDigits 10 d).length : ℤ) := by
      have hbound := (value_bounds 0 hd).2.le
      rw [zero_add, zpow_zero, mul_one] at hbound
      exact hbound
    have hunit : (0 : ℚ) < 10 ^ shift := by positivity
    have hexponent : (28 : ℤ) = ((Nat.toDigits 10 c).length - 1) - (Nat.toDigits 10 d).length + shift := by
      have hprecision : precision = 28 := rfl
      rw [hshift, hprecision]
      push_cast
      ring
    calc (10 : ℚ) ^ 28 = 10 ^ ((28 : ℤ)) := by norm_num
      _ = 10 ^ ((Nat.toDigits 10 c).length - 1 : ℤ) / 10 ^ ((Nat.toDigits 10 d).length : ℤ) * 10 ^ shift := by
        rw [hexponent, zpow_add₀ (by norm_num), zpow_sub₀ (by norm_num)]
      _ ≤ c / d * 10 ^ shift :=
        mul_le_mul_of_nonneg_right (div_le_div₀ hcq.le hlow hdq hhigh) hunit.le
  rw [← hvalue, le_div_iff₀ hdivisorq] at hlarge
  exact_mod_cast hlarge

/-- A quotient is what the context makes of the exact one. -/
theorem div_eq_fix {s t : Bool} {e f : ℤ} (hd : d ≠ 0) :
    ∃ coefficient exponent, (finite s c e).div (finite t d f) = fix (s != t) coefficient exponent ∧
      inContext (signOf (s != t) * coefficient * 10 ^ exponent) =
        inContext (signOf s * c * 10 ^ e / (signOf t * d * 10 ^ f)) := by
  have hsign : signOf (s != t) = signOf s / signOf t := by
    cases s <;> cases t <;> simp [signOf]
  have hdq : (d : ℚ) ≠ 0 := by exact_mod_cast hd
  have hexact : signOf s * c * 10 ^ e / (signOf t * d * 10 ^ f) =
      signOf (s != t) * (c / d * 10 ^ (e - f)) := by
    rw [hsign, zpow_sub₀ (by norm_num)]
    ring
  unfold div
  dsimp only
  rw [if_neg hd]
  by_cases hc : c = 0
  · rw [if_pos hc]
    refine ⟨0, e - f, rfl, ?_⟩
    rw [hexact, hc]
    simp
  rw [if_neg hc]
  generalize hshift :
    ((Nat.toDigits 10 d).length - (Nat.toDigits 10 c).length + precision + 1 : ℤ) = shift
  obtain ⟨hvalue, hdigits⟩ := scaled_quotient hc hd hshift.symm
  have hdivisor : 0 < d * 10 ^ (-shift).toNat := Nat.mul_pos (Nat.pos_of_ne_zero hd) (by positivity)
  generalize c * 10 ^ shift.toNat = scaled at *
  generalize d * 10 ^ (-shift).toNat = divisor at *
  have hdivisorq : (0 : ℚ) < divisor := by exact_mod_cast hdivisor
  have hscaled : (c : ℚ) / d * 10 ^ (e - f) = scaled / divisor * 10 ^ (e - f - shift) := by
    rw [hvalue, mul_assoc, ← zpow_add₀ (by norm_num)]
    congr 2
    ring
  have hsplit := Nat.div_add_mod scaled divisor
  have hmod := Nat.mod_lt scaled hdivisor
  have hquotient : (scaled : ℚ) / divisor = (scaled / divisor : ℕ) + (scaled % divisor : ℕ) / divisor := by
    rw [div_eq_iff hdivisorq.ne', add_mul, div_mul_cancel₀ _ hdivisorq.ne', mul_comm]
    exact_mod_cast hsplit.symm
  by_cases hleft : scaled % divisor ≠ 0
  · rw [if_pos hleft]
    have hpos : (0 : ℚ) < (scaled % divisor : ℕ) / divisor :=
      div_pos (by exact_mod_cast Nat.pos_of_ne_zero hleft) hdivisorq
    have hless : ((scaled % divisor : ℕ) : ℚ) / divisor < 1 := by
      rw [div_lt_one hdivisorq]
      exact_mod_cast hmod
    refine ⟨sticky (scaled / divisor), e - f - shift, rfl, ?_⟩
    rw [hexact, hscaled, mul_assoc, inContext_signOf, inContext_signOf,
      inContext_sticky (e - f - shift) hdigits (z := scaled / divisor)]
    · rw [hquotient]
      linarith
    · rw [hquotient]
      linarith
  · rw [if_neg hleft]
    rw [not_not] at hleft
    refine ⟨_, _, rfl, ?_⟩
    rw [hexact, hscaled, mul_assoc, towardsIdeal_value, hquotient, hleft]
    simp

theorem HasValue.div (ha : HasValue a x) (hb : HasValue b y) (h : a.div b = .ok r) :
    HasValue r (inContext (x / y)) := by
  obtain ⟨s, c, e, rfl, rfl⟩ := ha.exists_finite
  obtain ⟨t, d, f, rfl, rfl⟩ := hb.exists_finite
  have hd : d ≠ 0 := fun hzero => by
    unfold Decimal.div at h
    dsimp only at h
    rw [if_pos hzero] at h
    cases h
  obtain ⟨coefficient, exponent, hdiv, hvalue⟩ := div_eq_fix (s := s) (t := t) (c := c) (e := e) (f := f) hd
  rw [hdiv] at h
  exact (hasValue_fix h).congr hvalue

/-! ## Overflow -/

variable {error : Exc}

theorem fix_eq_overflow (h : fix negative coefficient exponent = .error error) :
    error = overflow := by
  unfold fix at h
  dsimp only at h
  split_ifs at h with hzero hover hexact hfits hcarried
  · exact (Except.error.inj h).symm
  · exact (Except.error.inj h).symm

/-- The context has a result exactly when it has at most a million digits before the point. -/
theorem fix_ok_iff (negative : Bool) (coefficient : ℕ) (exponent : ℤ) :
    (∃ d, fix negative coefficient exponent = .ok d) ↔
      |inContext (signOf negative * coefficient * 10 ^ exponent)| < 10 ^ (emax + 1) := by
  have habs : |signOf negative| = 1 := by cases negative <;> simp [signOf]
  have hnonneg : (0 : ℚ) ≤ coefficient * 10 ^ exponent := by positivity
  rw [mul_assoc, inContext_signOf, abs_mul, habs, one_mul, abs_of_nonneg (inContext_nonneg hnonneg)]
  have hemax : emax = 999999 := rfl
  have hetop : etop = 999972 := rfl
  have hetiny : etiny = -1000026 := rfl
  have hprecision : precision = 28 := rfl
  -- the value of a result, without its sign
  have hresult : ∀ c e, fix negative coefficient exponent = .ok (finite negative c e) →
      inContext (coefficient * 10 ^ exponent) = c * 10 ^ e := by
    intro c e hfix
    have hvalue := (hasValue_fix hfix).2
    rw [mul_assoc, inContext_signOf] at hvalue
    have hshown : signOf negative * (c * 10 ^ e) =
        signOf negative * inContext (coefficient * 10 ^ exponent) := by
      rw [← hvalue, ← mul_assoc]
      rfl
    exact (mul_left_cancel₀ (by cases negative <;> simp [signOf]) hshown).symm
  have htop : (10 : ℚ) ^ (emax + 1) = 10 ^ ((28 : ℕ) + etop) := by
    rw [hemax, hetop]
    norm_num
  by_cases hzero : coefficient = 0
  · refine iff_of_true ⟨_, if_pos hzero⟩ ?_
    rw [hzero, Nat.cast_zero, zero_mul, inContext_zero]
    positivity
  obtain ⟨hlow, hhigh⟩ := value_bounds exponent hzero
  have hleast : exponent + (Nat.toDigits 10 coefficient).length =
    (exponent + (Nat.toDigits 10 coefficient).length - precision) + 28 := by rw [hprecision]; ring
  unfold fix at hresult ⊢
  simp only [hzero, if_false] at hresult ⊢
  rw [hleast] at hlow hhigh
  have hunits : signOf false * (unitsOf .halfEven coefficient exponent
        (max (exponent + (Nat.toDigits 10 coefficient).length - precision) etiny) : ℕ) *
      (10 : ℚ) ^ (max (exponent + (Nat.toDigits 10 coefficient).length - precision) etiny)
        = inContext (signOf false * coefficient * 10 ^ exponent) :=
    units_value false hzero rfl
  simp only [signOf, Bool.false_eq_true, if_false, one_mul] at hunits
  have hcarry := units_le_carry hzero
    (le_max_left (exponent + (Nat.toDigits 10 coefficient).length - precision) etiny)
  generalize (exponent + (Nat.toDigits 10 coefficient).length - precision : ℤ) = least at *
  by_cases hover : etop < least
  · rw [if_pos hover]
    refine iff_of_false (fun ⟨d, hd⟩ => by cases hd) (not_lt.mpr ?_)
    have hshown : inContext (10 ^ (emax + 1)) = 10 ^ (emax + 1) :=
      inContext_of_shown ⟨1, emax + 1, by decide, by norm_num [precision], by push_cast; ring⟩
    rw [← hshown]
    refine inContext_mono (le_trans (zpow_le_zpow_right₀ (by norm_num) ?_) hlow)
    omega
  simp only [hover, if_false] at hresult ⊢
  rw [not_lt] at hover
  have htarget : max least etiny ≤ etop := by omega
  generalize max least etiny = target at *
  by_cases hexact : target ≤ exponent
  · simp only [hexact, if_true] at hresult ⊢
    refine iff_of_true ⟨_, rfl⟩ ?_
    rw [hresult _ _ rfl]
    refine hhigh.trans_le (zpow_le_zpow_right₀ (by norm_num) ?_)
    omega
  simp only [hexact, if_false] at hresult ⊢
  generalize unitsOf .halfEven coefficient exponent target = rounded at *
  by_cases hfits : rounded < 10 ^ precision
  · simp only [hfits, if_true] at hresult ⊢
    refine iff_of_true ⟨_, rfl⟩ ?_
    rw [hresult _ _ rfl, htop]
    have hpow : (10 : ℚ) ^ target ≤ 10 ^ etop := zpow_le_zpow_right₀ (by norm_num) htarget
    have hrounded : (rounded : ℚ) < 10 ^ 28 := by exact_mod_cast hfits
    rw [zpow_add₀ (by norm_num), zpow_natCast]
    have hunit : (0 : ℚ) < 10 ^ etop := by positivity
    calc (rounded : ℚ) * 10 ^ target ≤ rounded * 10 ^ etop :=
          mul_le_mul_of_nonneg_left hpow (Nat.cast_nonneg _)
      _ < 10 ^ 28 * 10 ^ etop := mul_lt_mul_of_pos_right hrounded hunit
  simp only [hfits, if_false] at hresult ⊢
  rw [not_lt, hprecision] at hfits
  by_cases hcarried : etop < target + 1
  · rw [if_pos hcarried]
    refine iff_of_false (fun ⟨d, hd⟩ => by cases hd) (not_lt.mpr ?_)
    rw [← hunits, htop]
    exact le_value 28 etop hfits (by omega)
  · simp only [hcarried, if_false] at hresult ⊢
    refine iff_of_true ⟨_, rfl⟩ ?_
    rw [hresult _ _ rfl, htop]
    have hplaces : rounded / 10 ≤ 10 ^ 27 := by
      rw [show (10 : ℕ) ^ 28 = 10 ^ 27 * 10 from rfl] at hcarry
      exact Nat.div_le_of_le_mul (by rwa [mul_comm] at hcarry)
    refine (value_le 27 etop hplaces (by omega)).trans_lt (zpow_lt_zpow_right₀ (by norm_num) ?_)
    omega

variable (a b) in
/-- The division of finite decimals has a result exactly when the quotient has at most a million digits
before the point. -/
theorem div_ok_iff (ha : HasValue a x) (hb : HasValue b y) (hy : y ≠ 0) :
    (∃ r, a.div b = .ok r) ↔ |inContext (x / y)| < 10 ^ (emax + 1) := by
  obtain ⟨s, c, e, rfl, rfl⟩ := ha.exists_finite
  obtain ⟨t, d, f, rfl, rfl⟩ := hb.exists_finite
  have hd : d ≠ 0 := fun hzero => hy (by rw [hzero]; simp)
  obtain ⟨coefficient, exponent, hdiv, hvalue⟩ := div_eq_fix (s := s) (t := t) (c := c) (e := e) (f := f) hd
  rw [hdiv, ← hvalue]
  exact fix_ok_iff _ _ _

theorem div_eq_overflow (ha : HasValue a x) (hb : HasValue b y) (hy : y ≠ 0)
    (h : a.div b = .error error) : error = overflow := by
  obtain ⟨s, c, e, rfl, rfl⟩ := ha.exists_finite
  obtain ⟨t, d, f, rfl, rfl⟩ := hb.exists_finite
  have hd : d ≠ 0 := fun hzero => hy (by rw [hzero]; simp)
  obtain ⟨coefficient, exponent, hdiv, -⟩ := div_eq_fix (s := s) (t := t) (c := c) (e := e) (f := f) hd
  rw [hdiv] at h
  exact fix_eq_overflow h

end Decimal

end Py
