import ShelfWise.Py.Value
import Mathlib.Algebra.Order.Field.Power
import Mathlib.Tactic.FieldSimp
import Mathlib.Tactic.Linarith
import Mathlib.Tactic.Ring

/-!
# Decimal arithmetic in the default context

The operations of the `decimal` module that round: 28 significant digits, ties to even unless the
call says otherwise, adjusted exponents up to 999999, and the signals `InvalidOperation` and
`Overflow` raised as exceptions. A result below the smallest exponent is rounded to that exponent.
-/

namespace Py

namespace Decimal

/-- The significant digits of the context. -/
def precision : ℕ := 28

/-- The largest exponent of a result with all its digits. -/
def etop : ℤ := 999972

/-- The smallest exponent of a result. -/
def etiny : ℤ := -1000026

/-- The largest adjusted exponent of a result. -/
def emax : ℤ := 999999

/-- `decimal.InvalidOperation`. -/
def invalidOperation : Exc := .decimalError "InvalidOperation"

/-- `decimal.Overflow`. -/
def overflow : Exc := .decimalError "Overflow"

/-- `ROUND_HALF_EVEN` and `ROUND_HALF_UP`. -/
inductive Rounding where
  | halfEven
  | halfUp
deriving DecidableEq

/-- `n / d`, rounded. -/
def roundQuotient (mode : Rounding) (n d : ℕ) : ℕ :=
  if 2 * (n % d) < d then n / d
  else if d < 2 * (n % d) ∨ mode = .halfUp ∨ n / d % 2 = 1 then n / d + 1
  else n / d

/-- `coefficient · 10 ^ exponent` in units of `10 ^ target`, rounded. -/
def unitsOf (mode : Rounding) (coefficient : ℕ) (exponent target : ℤ) : ℕ :=
  if target ≤ exponent then coefficient * 10 ^ (exponent - target).toNat
  else roundQuotient mode coefficient (10 ^ (target - exponent).toNat)

/-- A result of arithmetic, rounded to the context. -/
def fix (negative : Bool) (coefficient : ℕ) (exponent : ℤ) : Except Exc Decimal :=
  if coefficient = 0 then .ok (finite negative 0 (max etiny (min exponent emax)))
  else
    let least := exponent + (Nat.toDigits 10 coefficient).length - precision
    let target := max least etiny
    if etop < least then .error overflow
    else if target ≤ exponent then .ok (finite negative coefficient exponent)
    else
      let rounded := unitsOf .halfEven coefficient exponent target
      if rounded < 10 ^ precision then .ok (finite negative rounded target)
      else if etop < target + 1 then .error overflow
      else .ok (finite negative (rounded / 10) (target + 1))

/-- `d * 100`. -/
def timesHundred : Decimal → Except Exc Decimal
  | finite negative coefficient exponent => fix negative (coefficient * 100) exponent
  | infinity negative => .ok (infinity negative)
  | nan negative signalling payload =>
    if signalling then .error invalidOperation else .ok (nan negative false payload)

/-- `d.quantize(10 ^ target, rounding=mode)`. -/
def quantize (mode : Rounding) (target : ℤ) : Decimal → Except Exc Decimal
  | finite negative coefficient exponent =>
    let units := unitsOf mode coefficient exponent target
    if units < 10 ^ precision then .ok (finite negative units target) else .error invalidOperation
  | infinity _ => .error invalidOperation
  | nan negative signalling payload =>
    if signalling then .error invalidOperation else .ok (nan negative false payload)

/-- `d.to_integral_value()`. -/
def toIntegralValue : Decimal → Except Exc Decimal
  | finite negative coefficient exponent =>
    if 0 ≤ exponent then .ok (finite negative coefficient exponent)
    else .ok (finite negative (unitsOf .halfEven coefficient exponent 0) 0)
  | infinity negative => .ok (infinity negative)
  | nan negative signalling payload =>
    if signalling then .error invalidOperation else .ok (nan negative false payload)

/-- `Decimal(n) / Decimal(d)` of naturals, `d` not zero: two digits more than the context has, and a
last one that tells whether something is left over. -/
def divide (n d : ℕ) : Except Exc Decimal :=
  let shift : ℤ := (Nat.toDigits 10 d).length - (Nat.toDigits 10 n).length + precision + 1
  let scaled := if 0 ≤ shift then n * 10 ^ shift.toNat else n
  let divisor := if 0 ≤ shift then d else d * 10 ^ shift.natAbs
  let quotient := scaled / divisor
  fix false (if scaled % divisor ≠ 0 ∧ quotient % 5 = 0 then quotient + 1 else quotient) (-shift)

/-- `Decimal(1) - d`, of a value that is not negative. -/
def oneMinus : Decimal → Except Exc Decimal
  | finite _ coefficient exponent =>
    let unit : ℕ := 10 ^ (-exponent).toNat
    let subtrahend := coefficient * 10 ^ exponent.toNat
    if subtrahend ≤ unit then fix false (unit - subtrahend) (min exponent 0)
    else fix true (subtrahend - unit) (min exponent 0)
  | infinity negative => .ok (infinity (!negative))
  | nan negative signalling payload =>
    if signalling then .error invalidOperation else .ok (nan negative false payload)

/-- `int(d)`. -/
def toInt : Decimal → Except Exc ℤ
  | infinity _ => .error (.overflowError "cannot convert Infinity to integer")
  | nan .. => .error (.valueError "cannot convert NaN to integer")
  | d => .ok d.truncate

/-- The coefficient and the exponent without trailing zeros; there are at most `fuel` of them. -/
def dropZeros : ℕ → ℕ → ℤ → ℕ × ℤ
  | 0, coefficient, exponent => (coefficient, exponent)
  | fuel + 1, coefficient, exponent =>
    if coefficient % 10 = 0 ∧ exponent < emax then dropZeros fuel (coefficient / 10) (exponent + 1)
    else (coefficient, exponent)

/-- `d.normalize()` for a finite decimal. -/
def normalize (negative : Bool) (coefficient : ℕ) (exponent : ℤ) : Except Exc Decimal :=
  match fix negative coefficient exponent with
  | .ok (finite negative coefficient exponent) =>
    if coefficient = 0 then .ok (finite negative 0 0)
    else
      let dropped := dropZeros precision coefficient exponent
      .ok (finite negative dropped.1 dropped.2)
  | result => result

/-- `format(d, "f")` for a finite decimal: no exponent. -/
def fixedText (negative : Bool) (coefficient : ℕ) (exponent : ℤ) : String :=
  let digits := Nat.toDigits 10 coefficient
  let left := exponent + digits.length
  let magnitude :=
    if coefficient = 0 ∧ 0 < exponent then ['0']
    else if left < 0 then '0' :: '.' :: (List.replicate left.natAbs '0' ++ digits)
    else if digits.length ≤ left then digits ++ List.replicate exponent.toNat '0'
    else (if left = 0 then ['0'] else digits.take left.toNat) ++ '.' :: digits.drop left.toNat
  String.ofList (if negative then '-' :: magnitude else magnitude)

/-! ## When a rounded result fits

A quotient is rounded below an even bound exactly when it is a half below it, whichever way ties go
(`roundQuotient_lt_iff`). So a number that is rounded to the context and then to an integer is not
refused exactly when it lies half a unit below the smallest number of too many digits
(`quantize_fix_iff`): the first rounding never decides.
-/

/-! ## Quotients -/

theorem roundQuotient_lt_iff {mode : Rounding} {n d bound : ℕ} (hd : 0 < d)
    (hbound : mode = .halfUp ∨ bound % 2 = 0) :
    roundQuotient mode n d < bound ↔ 2 * n + d < 2 * (bound * d) := by
  have hn : d * (n / d) + n % d = n := Nat.div_add_mod n d
  have hrest : n % d < d := Nat.mod_lt n hd
  -- the bound is above the quotient by one, by two, or not at all
  have habove : ∀ k, n / d + k ≤ bound → d * (n / d) + k * d ≤ bound * d := fun k hk => by
    calc d * (n / d) + k * d = (n / d + k) * d := by ring
      _ ≤ bound * d := Nat.mul_le_mul_right d hk
  have hbelow : ∀ k, bound ≤ n / d + k → bound * d ≤ d * (n / d) + k * d := fun k hk => by
    calc bound * d ≤ (n / d + k) * d := Nat.mul_le_mul_right d hk
      _ = d * (n / d) + k * d := by ring
  unfold roundQuotient
  split
  · rename_i hdown
    constructor
    · intro h
      have := habove 1 h
      omega
    · intro h
      by_contra hle
      have := hbelow 0 (not_lt.mp hle)
      omega
  · rename_i hdown
    split
    · constructor
      · intro h
        have := habove 2 h
        omega
      · intro h
        by_contra hle
        have := hbelow 1 (not_lt.mp hle)
        omega
    · -- a tie goes down only to an even quotient, so never past an even bound
      rename_i hup
      rw [not_or, not_or] at hup
      obtain ⟨htie, hmode, hodd⟩ := hup
      have heven := hbound.resolve_left hmode
      constructor
      · intro h
        have := habove 2 (by omega)
        omega
      · intro h
        by_contra hle
        have := hbelow 1 (by omega)
        omega

theorem unitsOf_lt_iff {mode : Rounding} {coefficient bound : ℕ} {exponent target : ℤ}
    (hbound : mode = .halfUp ∨ bound % 2 = 0) :
    unitsOf mode coefficient exponent target < bound ↔
      2 * ((coefficient : ℚ) * 10 ^ (exponent - target)) + 1 < 2 * bound := by
  unfold unitsOf
  split
  · rename_i hle
    have hpow : (10 : ℚ) ^ (exponent - target) = ((10 ^ (exponent - target).toNat : ℕ) : ℚ) := by
      rw [Nat.cast_pow, ← zpow_natCast, Int.toNat_of_nonneg (by omega)]
      norm_num
    rw [hpow, ← Nat.cast_mul]
    generalize coefficient * 10 ^ (exponent - target).toNat = units
    have hcast : 2 * (units : ℚ) + 1 < 2 * bound ↔ 2 * units + 1 < 2 * bound := by
      exact_mod_cast Iff.rfl
    rw [hcast]
    omega
  · rename_i hlt
    have hd : 0 < 10 ^ (target - exponent).toNat := by positivity
    have hpow : (10 : ℚ) ^ (exponent - target) =
        (((10 ^ (target - exponent).toNat : ℕ) : ℚ))⁻¹ := by
      rw [Nat.cast_pow, ← zpow_natCast, Int.toNat_of_nonneg (by omega), ← zpow_neg, neg_sub]
      norm_num
    rw [hpow, roundQuotient_lt_iff hd hbound]
    generalize 10 ^ (target - exponent).toNat = d at hd
    have hdq : (0 : ℚ) < d := by exact_mod_cast hd
    have hcast : 2 * coefficient + d < 2 * (bound * d) ↔
        2 * (coefficient : ℚ) + d < 2 * (bound * d) := by
      exact_mod_cast Iff.rfl
    have hscale : 2 * ((coefficient : ℚ) * (d : ℚ)⁻¹) + 1 = (2 * (coefficient : ℚ) + d) / d := by
      field_simp
    rw [hcast, hscale, div_lt_iff₀ hdq]
    constructor <;> intro h <;> linarith

/-! ## Digits -/

/-- A number of so many digits. -/
theorem digits_bounds {coefficient : ℕ} (hzero : coefficient ≠ 0) :
    10 ^ ((Nat.toDigits 10 coefficient).length - 1) ≤ coefficient ∧
      coefficient < 10 ^ (Nat.toDigits 10 coefficient).length := by
  have hpos : 0 < (Nat.toDigits 10 coefficient).length := Nat.length_toDigits_pos
  refine ⟨?_, (Nat.length_toDigits_le_iff (by norm_num) hpos).mp le_rfl⟩
  by_contra hlt
  rw [not_le] at hlt
  rcases Nat.eq_zero_or_pos ((Nat.toDigits 10 coefficient).length - 1) with hone | hmore
  · rw [hone, pow_zero] at hlt
    omega
  · have hle := (Nat.length_toDigits_le_iff (by norm_num) hmore).mpr hlt
    omega

/-- The value of a number of so many digits. -/
theorem value_bounds {coefficient : ℕ} (exponent : ℤ) (hzero : coefficient ≠ 0) :
    (10 : ℚ) ^ (exponent + (Nat.toDigits 10 coefficient).length - 1) ≤
        coefficient * 10 ^ exponent ∧
      coefficient * 10 ^ exponent <
        (10 : ℚ) ^ (exponent + (Nat.toDigits 10 coefficient).length) := by
  have hpos : 0 < (Nat.toDigits 10 coefficient).length := Nat.length_toDigits_pos
  obtain ⟨hlow, hhigh⟩ := digits_bounds hzero
  have hunit : (0 : ℚ) < 10 ^ exponent := by positivity
  constructor
  · have hcast : (10 : ℚ) ^ ((Nat.toDigits 10 coefficient).length - 1) ≤ coefficient := by
      exact_mod_cast hlow
    have hsplit : exponent + (Nat.toDigits 10 coefficient).length - 1 =
        ((Nat.toDigits 10 coefficient).length - 1 : ℕ) + exponent := by
      omega
    rw [hsplit, zpow_add₀ (by norm_num), zpow_natCast]
    exact mul_le_mul_of_nonneg_right hcast hunit.le
  · have hcast : (coefficient : ℚ) < 10 ^ (Nat.toDigits 10 coefficient).length := by
      exact_mod_cast hhigh
    rw [add_comm, zpow_add₀ (by norm_num), zpow_natCast]
    exact mul_lt_mul_of_pos_right hcast hunit

theorem value_le (digits : ℕ) (top : ℤ) {units : ℕ} {exponent : ℤ} (hunits : units ≤ 10 ^ digits)
    (htop : exponent ≤ top) : (units : ℚ) * 10 ^ exponent ≤ 10 ^ (digits + top) := by
  have hcast : (units : ℚ) ≤ 10 ^ digits := by exact_mod_cast hunits
  have hpow : (10 : ℚ) ^ exponent ≤ 10 ^ top := zpow_le_zpow_right₀ (by norm_num) htop
  rw [zpow_add₀ (by norm_num), zpow_natCast]
  exact mul_le_mul hcast hpow (by positivity) (by positivity)

theorem le_value (digits : ℕ) (bottom : ℤ) {units : ℕ} {exponent : ℤ} (hunits : 10 ^ digits ≤ units)
    (hbottom : bottom ≤ exponent) : (10 : ℚ) ^ (digits + bottom) ≤ units * 10 ^ exponent := by
  have hcast : (10 : ℚ) ^ digits ≤ units := by exact_mod_cast hunits
  have hpow : (10 : ℚ) ^ bottom ≤ 10 ^ exponent := zpow_le_zpow_right₀ (by norm_num) hbottom
  rw [zpow_add₀ (by norm_num), zpow_natCast]
  exact mul_le_mul hcast hpow (by positivity) (by positivity)

/-! ## The context, then an integer -/

/-- The value is half a unit below the smallest integer of too many digits. -/
def Fits (value : ℚ) : Prop := 2 * value + 1 < 2 * 10 ^ precision

theorem fits_of_le {value : ℚ} (h : value ≤ 10 ^ (27 : ℤ)) : Fits value := by
  have hpow : (10 : ℚ) ^ (27 : ℤ) = 10 ^ 27 := by norm_cast
  rw [hpow] at h
  unfold Fits precision
  norm_num at h ⊢
  linarith

theorem not_fits_of_le {value : ℚ} (h : (10 : ℚ) ^ (28 : ℤ) ≤ value) : ¬ Fits value := by
  have hpow : (10 : ℚ) ^ (28 : ℤ) = 10 ^ 28 := by norm_cast
  rw [hpow] at h
  unfold Fits precision
  norm_num at h ⊢
  linarith

/-- A decimal is quantized to an integer exactly when its value fits. -/
theorem quantize_ok_iff {negative : Bool} {coefficient : ℕ} {exponent : ℤ} :
    (∃ cents, (finite negative coefficient exponent).quantize .halfUp 0 = .ok cents) ↔
      Fits ((coefficient : ℚ) * 10 ^ exponent) := by
  have hunits : unitsOf .halfUp coefficient exponent 0 < 10 ^ precision ↔ _ :=
    unitsOf_lt_iff (.inl rfl)
  rw [sub_zero, Nat.cast_pow, Nat.cast_ofNat] at hunits
  unfold quantize Fits
  dsimp only
  rw [← hunits]
  split
  · rename_i hlt
    exact ⟨fun _ => hlt, fun _ => ⟨_, rfl⟩⟩
  · rename_i hle
    refine ⟨?_, fun hlt => absurd hlt hle⟩
    rintro ⟨cents, hcents⟩
    cases hcents

section

variable {coefficient : ℕ} {exponent target : ℤ}

/-- Rounded to units of `10 ^ target`, a number of 28 digits of these units keeps its magnitude. -/
theorem units_bounds (hlow : (10 : ℚ) ^ (target + 27) ≤ coefficient * 10 ^ exponent) :
    10 ^ 27 ≤ unitsOf .halfEven coefficient exponent target := by
  have hunit : (0 : ℚ) < 10 ^ target := by positivity
  have hscaled : (10 : ℚ) ^ (27 : ℤ) ≤ coefficient * 10 ^ (exponent - target) := by
    rw [zpow_add₀ (by norm_num), mul_comm] at hlow
    rw [zpow_sub₀ (by norm_num), ← mul_div_assoc, le_div_iff₀ hunit]
    exact hlow
  by_contra hlt
  have hvalue := (unitsOf_lt_iff (.inr (by norm_num))).mp (not_le.mp hlt)
  rw [Nat.cast_pow, Nat.cast_ofNat] at hvalue
  have hpow : (10 : ℚ) ^ (27 : ℤ) = 10 ^ 27 := by norm_cast
  rw [hpow] at hscaled
  linarith

theorem units_le (hhigh : (coefficient : ℚ) * 10 ^ exponent < 10 ^ (target + 28)) :
    unitsOf .halfEven coefficient exponent target < 10 ^ 28 + 2 := by
  have hunit : (0 : ℚ) < 10 ^ target := by positivity
  have hscaled : (coefficient : ℚ) * 10 ^ (exponent - target) < 10 ^ (28 : ℤ) := by
    rw [zpow_add₀ (by norm_num), mul_comm (10 ^ target)] at hhigh
    rw [zpow_sub₀ (by norm_num), ← mul_div_assoc, div_lt_iff₀ hunit]
    exact hhigh
  refine (unitsOf_lt_iff (.inr (by norm_num))).mpr ?_
  have hpow : (10 : ℚ) ^ (28 : ℤ) = 10 ^ 28 := by norm_cast
  rw [hpow] at hscaled
  push_cast
  linarith

/-- At the target zero the rounding to the context is the rounding to an integer. -/
theorem units_fit_iff :
    unitsOf .halfEven coefficient exponent 0 < 10 ^ precision ↔
      Fits ((coefficient : ℚ) * 10 ^ exponent) := by
  have hunits : unitsOf .halfEven coefficient exponent 0 < 10 ^ precision ↔ _ :=
    unitsOf_lt_iff (.inr (by decide))
  rw [sub_zero, Nat.cast_pow, Nat.cast_ofNat] at hunits
  exact hunits

/-- What is rounded to 28 digits fits exactly when the number does. -/
theorem fits_rounded_iff (hhigh : (coefficient : ℚ) * 10 ^ exponent < 10 ^ (target + 28))
    (hlow : 0 < target → (10 : ℚ) ^ (target + 27) ≤ coefficient * 10 ^ exponent)
    (hrounded : unitsOf .halfEven coefficient exponent target < 10 ^ precision) :
    Fits ((unitsOf .halfEven coefficient exponent target : ℕ) * (10 : ℚ) ^ target) ↔
      Fits ((coefficient : ℚ) * 10 ^ exponent) := by
  rcases lt_trichotomy target 0 with hneg | hzero | hpos
  · refine iff_of_true (fits_of_le ?_) (fits_of_le ?_)
    · have hle : unitsOf .halfEven coefficient exponent target ≤ 10 ^ 28 := hrounded.le
      have htop : target ≤ -1 := by omega
      exact value_le 28 (-1) hle htop
    · exact hhigh.le.trans (zpow_le_zpow_right₀ (by norm_num) (by omega))
  · subst hzero
    refine iff_of_true ?_ (units_fit_iff.mp hrounded)
    have hcast : (unitsOf .halfEven coefficient exponent 0 : ℚ) + 1 ≤ 10 ^ precision := by
      exact_mod_cast hrounded
    unfold Fits
    rw [zpow_zero, mul_one]
    linarith
  · refine iff_of_false (not_fits_of_le ?_) (not_fits_of_le ?_)
    · exact le_value 27 1 (units_bounds (hlow hpos)) (by omega)
    · exact (zpow_le_zpow_right₀ (by norm_num) (by omega)).trans (hlow hpos)

/-- What is rounded up to the next power of ten fits exactly when the number does. -/
theorem fits_carried_iff (hhigh : (coefficient : ℚ) * 10 ^ exponent < 10 ^ (target + 28))
    (hlow : 0 < target → (10 : ℚ) ^ (target + 27) ≤ coefficient * 10 ^ exponent)
    (hcarried : ¬ unitsOf .halfEven coefficient exponent target < 10 ^ precision) :
    Fits ((unitsOf .halfEven coefficient exponent target / 10 : ℕ) * (10 : ℚ) ^ (target + 1)) ↔
      Fits ((coefficient : ℚ) * 10 ^ exponent) := by
  have hprecision : precision = 28 := rfl
  have hunits := units_le hhigh
  have hdigits : 10 ^ 27 ≤ unitsOf .halfEven coefficient exponent target / 10 := by
    rw [hprecision] at hcarried
    omega
  rcases lt_trichotomy target 0 with hneg | hzero | hpos
  · refine iff_of_true (fits_of_le ?_) (fits_of_le ?_)
    · have hle : unitsOf .halfEven coefficient exponent target / 10 ≤ 10 ^ 27 := by omega
      exact value_le 27 0 hle (by omega)
    · exact hhigh.le.trans (zpow_le_zpow_right₀ (by norm_num) (by omega))
  · subst hzero
    refine iff_of_false (not_fits_of_le ?_) fun h => hcarried (units_fit_iff.mpr h)
    exact le_value 27 1 hdigits (by omega)
  · refine iff_of_false (not_fits_of_le ?_) (not_fits_of_le ?_)
    · exact le_value 27 1 hdigits (by omega)
    · exact (zpow_le_zpow_right₀ (by norm_num) (by omega)).trans (hlow hpos)

end

/-- The first rounding never decides whether the second one is refused. -/
theorem quantize_fix_iff (negative : Bool) {coefficient : ℕ} {exponent : ℤ} :
    (∃ cents, (fix negative coefficient exponent >>= quantize .halfUp 0) = .ok cents) ↔
      Fits ((coefficient : ℚ) * 10 ^ exponent) := by
  have hprecision : precision = 28 := rfl
  have hetop : etop = 999972 := rfl
  have hetiny : etiny = -1000026 := rfl
  have hraised : ∀ {e : Exc} {value : ℚ}, ¬ Fits value →
      ((∃ cents, ((Except.error e : Except Exc Decimal) >>= quantize .halfUp 0) = .ok cents) ↔
        Fits value) := by
    intro e value hnot
    refine ⟨?_, fun h => absurd h hnot⟩
    rintro ⟨cents, hcents⟩
    cases hcents
  unfold fix
  split
  · rename_i hzero
    subst hzero
    refine iff_of_true (quantize_ok_iff.mpr (fits_of_le ?_)) (fits_of_le ?_)
    · rw [Nat.cast_zero, zero_mul]
      positivity
    · rw [Nat.cast_zero, zero_mul]
      positivity
  · rename_i hzero
    obtain ⟨hlow, hhigh⟩ := value_bounds exponent hzero
    dsimp only
    generalize hdigits : ((Nat.toDigits 10 coefficient).length : ℤ) = digits at hlow hhigh
    -- with 29 digits before the point the value does not fit, with 27 it does
    have hlarge : 29 ≤ exponent + digits → ¬ Fits ((coefficient : ℚ) * 10 ^ exponent) := fun h =>
      not_fits_of_le ((zpow_le_zpow_right₀ (by norm_num) (by omega)).trans hlow)
    have hsmall : exponent + digits ≤ 27 → Fits ((coefficient : ℚ) * 10 ^ exponent) := fun h =>
      fits_of_le (hhigh.le.trans (zpow_le_zpow_right₀ (by norm_num) h))
    split
    · rename_i hover
      exact hraised (hlarge (by omega))
    · split
      · exact quantize_ok_iff
      · rename_i hover hrounds
        have hleast : exponent + digits - precision ≤ max (exponent + digits - precision) etiny :=
          le_max_left _ _
        have hexact : 0 < max (exponent + digits - precision) etiny →
            max (exponent + digits - precision) etiny = exponent + digits - precision := by
          omega
        generalize max (exponent + digits - precision) etiny = target at hleast hexact ⊢
        have hbelow : (coefficient : ℚ) * 10 ^ exponent < 10 ^ (target + 28) :=
          hhigh.trans_le (zpow_le_zpow_right₀ (by norm_num) (by omega))
        have habove : 0 < target → (10 : ℚ) ^ (target + 27) ≤ coefficient * 10 ^ exponent :=
          fun hpos => (zpow_le_zpow_right₀ (by norm_num) (by
            have := hexact hpos
            omega)).trans hlow
        split
        · rename_i hrounded
          exact quantize_ok_iff.trans (fits_rounded_iff hbelow habove hrounded)
        · rename_i hcarried
          split
          · rename_i hover
            have hpos : 0 < target := by omega
            have := hexact hpos
            exact hraised (hlarge (by omega))
          · exact quantize_ok_iff.trans (fits_carried_iff hbelow habove hcarried)

end Decimal

end Py
