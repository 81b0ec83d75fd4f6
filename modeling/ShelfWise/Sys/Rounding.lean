import Mathlib.Data.Int.Log
import Mathlib.Algebra.Order.Round
import Mathlib.Tactic.Ring

/-!
# Rounding to integers and to significant digits

The nearest integer of a number of an ordered field, with a rule for the halves that looks at the
integer below, and the nearest number of so many significant digits in a base. Both are monotone and
odd, leave alone what needs no rounding, and err by half a unit of the last place.
-/

namespace Sys.Rounding

variable {K : Type*} [Field K] [LinearOrder K] [IsStrictOrderedRing K] [FloorRing K]

/-! ## Nearest integers -/

/-- A nearest integer; `up` tells whether a half above that integer goes up. -/
def nearest (up : ℤ → Bool) (x : K) : ℤ :=
  if 2 * Int.fract x < 1 then ⌊x⌋
  else if 1 < 2 * Int.fract x ∨ up ⌊x⌋ = true then ⌊x⌋ + 1
  else ⌊x⌋

/-- A nearest integer, by its magnitude. -/
def rounded (up : ℤ → Bool) (x : K) : ℤ := if x < 0 then -nearest up (-x) else nearest up x

section Nearest

variable (up : ℤ → Bool) {x y : K}

omit [IsStrictOrderedRing K] in
theorem floor_le_nearest (x : K) : ⌊x⌋ ≤ nearest up x := by
  unfold nearest
  split_ifs <;> omega

omit [IsStrictOrderedRing K] in
theorem nearest_le_floor (x : K) : nearest up x ≤ ⌊x⌋ + 1 := by
  unfold nearest
  split_ifs <;> omega

theorem nearest_intCast (n : ℤ) : nearest up (n : K) = n := by
  have hfract : 2 * Int.fract (n : K) < 1 := by
    rw [Int.fract_intCast, mul_zero]
    exact one_pos
  rw [nearest, if_pos hfract, Int.floor_intCast]

theorem nearest_mono (h : x ≤ y) : nearest up x ≤ nearest up y := by
  rcases lt_or_eq_of_le (Int.floor_mono h) with hlt | heq
  · have hlow := nearest_le_floor up x
    have hhigh := floor_le_nearest up y
    omega
  · -- on one integer the half decides
    have hfract : Int.fract x ≤ Int.fract y := by
      unfold Int.fract
      rw [heq]
      linarith
    unfold nearest
    rw [heq]
    split_ifs with hx hy hup hx' hy' hup' hy' hup'
    · exact le_rfl
    · omega
    · exact le_rfl
    · exfalso
      linarith
    · exact le_rfl
    · rcases hx' with hx' | hx'
      · exact absurd (.inl (hx'.trans_le (by linarith))) hup'
      · exact absurd (.inr hx') hup'
    · exfalso
      linarith
    · omega
    · exact le_rfl

/-- A nearest integer is within a half. -/
theorem nearest_bounds (x : K) : x - 1 / 2 ≤ nearest up x ∧ (nearest up x : K) ≤ x + 1 / 2 := by
  have hsplit := Int.floor_add_fract x
  unfold nearest
  split_ifs with hlow hup
  · have hnonneg := Int.fract_nonneg x
    constructor <;> linarith
  · have hhalf : 1 ≤ 2 * Int.fract x := not_lt.mp hlow
    have hone := Int.fract_lt_one x
    push_cast
    constructor <;> linarith
  · have hhalf : 2 * Int.fract x ≤ 1 := not_lt.mp fun h => hup (.inl h)
    have hnonneg := Int.fract_nonneg x
    constructor <;> linarith

omit [IsStrictOrderedRing K] in
theorem nearest_nonneg (h : 0 ≤ x) : 0 ≤ nearest up x :=
  (Int.floor_nonneg.mpr h).trans (floor_le_nearest up x)

omit [IsStrictOrderedRing K] in
theorem nearest_of_half (h : 2 * Int.fract x = 1) :
    nearest up x = if up ⌊x⌋ = true then ⌊x⌋ + 1 else ⌊x⌋ := by
  rw [nearest, if_neg h.not_lt]
  simp only [h.symm.not_lt, false_or]

omit [IsStrictOrderedRing K] in
/-- Two rules differ on the halves that one of them takes up. -/
theorem nearest_eq_iff (up up' : ℤ → Bool) (x : K) :
    nearest up x = nearest up' x ↔ (2 * Int.fract x = 1 → up ⌊x⌋ = up' ⌊x⌋) := by
  rcases lt_trichotomy (2 * Int.fract x) 1 with hlow | hhalf | hhigh
  · refine iff_of_true ?_ fun hhalf => absurd hhalf hlow.ne
    rw [nearest, if_pos hlow, nearest, if_pos hlow]
  · rw [nearest_of_half up hhalf, nearest_of_half up' hhalf]
    cases up ⌊x⌋ <;> cases up' ⌊x⌋ <;> simp [hhalf]
  · refine iff_of_true ?_ fun hhalf => absurd hhalf hhigh.ne'
    rw [nearest, if_neg hhigh.not_gt, if_pos (.inl hhigh), nearest, if_neg hhigh.not_gt,
      if_pos (.inl hhigh)]

omit [IsStrictOrderedRing K] in
theorem rounded_of_nonneg (h : 0 ≤ x) : rounded up x = nearest up x := if_neg (not_lt.mpr h)

theorem rounded_neg (x : K) : rounded up (-x) = -rounded up x := by
  have hzero : nearest up (0 : K) = 0 := by
    have h := nearest_intCast (K := K) up 0
    rwa [Int.cast_zero] at h
  unfold rounded
  rcases lt_trichotomy x 0 with h | rfl | h
  · rw [if_neg (not_lt.mpr (neg_nonneg.mpr h.le)), if_pos h, neg_neg]
  · simp only [neg_zero, lt_irrefl, if_false, hzero]
  · rw [if_pos (neg_lt_zero.mpr h), if_neg (not_lt.mpr h.le), neg_neg]

omit [IsStrictOrderedRing K] in
theorem rounded_nonneg (h : 0 ≤ x) : 0 ≤ rounded up x := by
  rw [rounded_of_nonneg up h]
  exact nearest_nonneg up h

theorem rounded_nonpos (h : x ≤ 0) : rounded up x ≤ 0 := by
  have hneg := rounded_nonneg up (neg_nonneg.mpr h)
  rw [rounded_neg] at hneg
  omega

theorem rounded_intCast (n : ℤ) : rounded up (n : K) = n := by
  rcases le_or_gt 0 n with h | h
  · rw [rounded_of_nonneg up (Int.cast_nonneg h), nearest_intCast]
  · have hneg : (0 : K) ≤ ((-n : ℤ) : K) := Int.cast_nonneg (by omega)
    have hback : (n : K) = -((-n : ℤ) : K) := by
      push_cast
      rw [neg_neg]
    rw [hback, rounded_neg, rounded_of_nonneg up hneg, nearest_intCast, neg_neg]

theorem rounded_mono (h : x ≤ y) : rounded up x ≤ rounded up y := by
  rcases le_or_gt 0 x with hx | hx
  · rw [rounded_of_nonneg up hx, rounded_of_nonneg up (hx.trans h)]
    exact nearest_mono up h
  · rcases le_or_gt 0 y with hy | hy
    · exact (rounded_nonpos up hx.le).trans (rounded_nonneg up hy)
    · unfold rounded
      rw [if_pos hx, if_pos hy]
      exact neg_le_neg (nearest_mono up (neg_le_neg h))

/-- Rounding errs by a half at most. -/
theorem rounded_bounds (x : K) : x - 1 / 2 ≤ rounded up x ∧ (rounded up x : K) ≤ x + 1 / 2 := by
  unfold rounded
  split_ifs
  · obtain ⟨hlow, hhigh⟩ := nearest_bounds up (-x)
    push_cast
    constructor <;> linarith
  · exact nearest_bounds up x

theorem rounded_eq_iff (up up' : ℤ → Bool) (x : K) :
    rounded up x = rounded up' x ↔ (2 * Int.fract |x| = 1 → up ⌊|x|⌋ = up' ⌊|x|⌋) := by
  rw [← nearest_eq_iff]
  unfold rounded
  split_ifs with h
  · rw [abs_of_neg h, neg_inj]
  · rw [abs_of_nonneg (not_lt.mp h)]

/-- What is below a half is rounded to zero. -/
theorem rounded_of_abs_lt (h : |x| < 1 / 2) : rounded up x = 0 := by
  obtain ⟨hlow, hhigh⟩ := rounded_bounds up x
  obtain ⟨habove, hbelow⟩ := abs_lt.mp h
  have hlower : ((-1 : ℤ) : K) < rounded up x := by
    push_cast
    linarith
  have hupper : (rounded up x : K) < ((1 : ℤ) : K) := by
    push_cast
    linarith
  rw [Int.cast_lt] at hlower hupper
  omega

theorem rounded_eq_zero {x : K} (h : x = 0) : rounded up x = 0 := by
  subst h
  have hzero := rounded_intCast (K := K) up 0
  rwa [Int.cast_zero] at hzero

end Nearest

/-! ## Significant digits -/

/-- The place of the last of `digits` digits in a base, above the least one. -/
def lastPlace (base digits : ℕ) (least : ℤ) (x : K) : ℤ :=
  max (Int.log base |x| - (digits - 1)) least

/-- A number rounded to so many digits. -/
def significant (up : ℤ → Bool) (base digits : ℕ) (least : ℤ) (x : K) : K :=
  rounded up (x / (base : K) ^ lastPlace base digits least x)
    * (base : K) ^ lastPlace base digits least x

/-- A number that so many digits can show. -/
def Representable (base digits : ℕ) (least : ℤ) (x : K) : Prop :=
  ∃ (m : ℤ) (e : ℤ), least ≤ e ∧ |m| < (base : ℤ) ^ digits ∧ x = m * (base : K) ^ e

section Significant

variable (up : ℤ → Bool) {base digits : ℕ} {least : ℤ} {x y : K}

theorem base_pos (hb : 1 < base) (e : ℤ) : (0 : K) < (base : K) ^ e :=
  zpow_pos (Nat.cast_pos.mpr (by omega)) e

omit [IsStrictOrderedRing K] in
theorem lastPlace_neg (x : K) : lastPlace base digits least (-x) = lastPlace base digits least x := by
  rw [lastPlace, abs_neg, lastPlace]

theorem significant_neg (x : K) :
    significant up base digits least (-x) = -significant up base digits least x := by
  rw [significant, lastPlace_neg, neg_div, rounded_neg, Int.cast_neg, neg_mul, significant]

theorem significant_nonneg (hb : 1 < base) (h : 0 ≤ x) : 0 ≤ significant up base digits least x := by
  have hpow := base_pos (K := K) hb (lastPlace base digits least x)
  exact mul_nonneg (Int.cast_nonneg (rounded_nonneg up (div_nonneg h hpow.le))) hpow.le

/-- An integral number of units of a place is left alone by the rounding to that place. -/
theorem rounded_units (hb : 1 < base) {place e : ℤ} (m : ℤ) (h : place ≤ e) :
    (rounded up ((m : K) * (base : K) ^ e / (base : K) ^ place) : K) * (base : K) ^ place
      = m * (base : K) ^ e := by
  have hbase : (base : K) ≠ 0 := Nat.cast_ne_zero.mpr (by omega)
  obtain ⟨k, hk⟩ := Int.eq_ofNat_of_zero_le (sub_nonneg.mpr h)
  have hunits : (m : K) * (base : K) ^ e / (base : K) ^ place = ((m * (base : ℤ) ^ k : ℤ) : K) := by
    rw [mul_div_assoc, ← zpow_sub₀ hbase, hk, zpow_natCast]
    push_cast
    rfl
  rw [hunits, rounded_intCast, ← hunits, div_mul_cancel₀ _ (base_pos hb place).ne']

/-- The magnitude of a number is below the place after its digits. -/
theorem lastPlace_le {m e : ℤ} (hb : 1 < base) (hleast : least ≤ e) (hm : |m| < (base : ℤ) ^ digits)
    (hx : x = m * (base : K) ^ e) (hne : x ≠ 0) : lastPlace base digits least x ≤ e := by
  refine max_le ?_ hleast
  have hbound : |x| < (base : K) ^ ((digits : ℤ) + e) := by
    rw [hx, abs_mul, abs_of_pos (base_pos (K := K) hb e),
      zpow_add₀ (Nat.cast_ne_zero.mpr (by omega)), zpow_natCast]
    refine mul_lt_mul_of_pos_right ?_ (base_pos hb e)
    exact_mod_cast hm
  have hlog := (Int.lt_zpow_iff_log_lt hb (abs_pos.mpr hne)).mp hbound
  omega

/-- What needs no rounding is left alone. -/
theorem significant_of_representable (hb : 1 < base) (h : Representable base digits least x) :
    significant up base digits least x = x := by
  obtain ⟨m, e, hleast, hm, hx⟩ := h
  rcases eq_or_ne x 0 with hzero | hne
  · rw [significant, rounded_eq_zero up (by rw [hzero, zero_div]), Int.cast_zero, zero_mul, hzero]
  · have hplace := lastPlace_le hb hleast hm hx hne
    rw [significant]
    generalize lastPlace base digits least x = place at hplace
    rw [hx]
    exact rounded_units up hb m hplace

/-- Rounding errs by half a unit of the last place at most. -/
theorem significant_bounds (hb : 1 < base) (x : K) :
    |significant up base digits least x - x|
      ≤ (base : K) ^ lastPlace base digits least x / 2 := by
  rw [significant]
  generalize lastPlace base digits least x = place
  have hpow := base_pos (K := K) hb place
  obtain ⟨hlow, hhigh⟩ := rounded_bounds up (x / (base : K) ^ place)
  have hx : x / (base : K) ^ place * (base : K) ^ place = x := div_mul_cancel₀ _ hpow.ne'
  have hlow' := mul_le_mul_of_nonneg_right hlow hpow.le
  have hhigh' := mul_le_mul_of_nonneg_right hhigh hpow.le
  rw [sub_mul, hx] at hlow'
  rw [add_mul, hx] at hhigh'
  rw [abs_le]
  constructor <;> linarith

theorem significant_mono_of_pos (hb : 1 < base) (hd : 0 < digits) (hx : 0 < x) (h : x ≤ y) :
    significant up base digits least x ≤ significant up base digits least y := by
  have hy : 0 < y := hx.trans_le h
  have hlog : Int.log base |x| ≤ Int.log base |y| := by
    rw [abs_of_pos hx, abs_of_pos hy]
    exact Int.log_mono_right hx h
  have hle : lastPlace base digits least x ≤ lastPlace base digits least y :=
    max_le_max (by omega) le_rfl
  rcases hle.eq_or_lt with heq | hlt
  · have hpow := base_pos (K := K) hb (lastPlace base digits least y)
    rw [significant, significant, heq]
    refine mul_le_mul_of_nonneg_right (Int.cast_le.mpr (rounded_mono up ?_)) hpow.le
    exact div_le_div_of_nonneg_right h hpow.le
  · -- the power of the base between them is left alone by both roundings
    have hplace : lastPlace base digits least y = Int.log base |y| - (digits - 1) := by
      unfold lastPlace at hlt ⊢
      omega
    have hbelow : Int.log base |x| < Int.log base |y| := by
      unfold lastPlace at hlt
      omega
    have hpowx := base_pos (K := K) hb (lastPlace base digits least x)
    have hpowy := base_pos (K := K) hb (lastPlace base digits least y)
    have hmiddle : ∀ place, place ≤ Int.log base |y| →
        (rounded up ((base : K) ^ Int.log base |y| / (base : K) ^ place) : K) * (base : K) ^ place
          = (base : K) ^ Int.log base |y| := by
      intro place hplace
      have hunits := rounded_units (K := K) up hb 1 hplace
      rwa [Int.cast_one, one_mul] at hunits
    have hxle : x ≤ (base : K) ^ Int.log base |y| := by
      have hxlt := Int.lt_zpow_succ_log_self hb x
      rw [abs_of_pos hx] at hbelow
      refine hxlt.le.trans (zpow_le_zpow_right₀ ?_ (by omega))
      exact_mod_cast hb.le
    have hyle : (base : K) ^ Int.log base |y| ≤ y := by
      rw [abs_of_pos hy]
      exact Int.zpow_log_le_self hb hy
    calc significant up base digits least x
        ≤ (base : K) ^ Int.log base |y| := by
          rw [significant, ← hmiddle (lastPlace base digits least x) (by omega)]
          refine mul_le_mul_of_nonneg_right (Int.cast_le.mpr (rounded_mono up ?_)) hpowx.le
          exact div_le_div_of_nonneg_right hxle hpowx.le
      _ ≤ significant up base digits least y := by
          rw [significant, ← hmiddle (lastPlace base digits least y) (by omega)]
          refine mul_le_mul_of_nonneg_right (Int.cast_le.mpr (rounded_mono up ?_)) hpowy.le
          exact div_le_div_of_nonneg_right hyle hpowy.le

theorem significant_zero : significant up base digits least (0 : K) = 0 := by
  rw [significant, rounded_eq_zero up (zero_div _), Int.cast_zero, zero_mul]

/-- Rounding to significant digits keeps the order. -/
theorem significant_mono (hb : 1 < base) (hd : 0 < digits) (h : x ≤ y) :
    significant up base digits least x ≤ significant up base digits least y := by
  have hnonpos : ∀ z : K, z ≤ 0 → significant up base digits least z ≤ 0 := by
    intro z hz
    have hneg : 0 ≤ significant up base digits least (-z) :=
      significant_nonneg up hb (neg_nonneg.mpr hz)
    rw [significant_neg] at hneg
    linarith
  rcases lt_trichotomy x 0 with hx | rfl | hx
  · rcases le_or_gt 0 y with hy | hy
    · exact (hnonpos x hx.le).trans (significant_nonneg up hb hy)
    · have hmono : significant up base digits least (-y) ≤ significant up base digits least (-x) :=
        significant_mono_of_pos up hb hd (neg_pos.mpr hy) (neg_le_neg h)
      rw [significant_neg, significant_neg] at hmono
      linarith
  · rw [significant_zero]
    exact significant_nonneg up hb h
  · exact significant_mono_of_pos up hb hd hx h

end Significant

end Sys.Rounding
