import ShelfWise.Cascades.SalesFacts
import ShelfWise.Connectors.RowEvents
import ShelfWise.Py.DecimalValue

/-!
# The cents of an amount

An amount that arrives as text is turned into cents in three places: `_money_minor_units` projects it
to the twin, `_unit_price_money` puts it on the event of a sale, and `_money_from_fields` reads it back
as a fact. The first one rounds halves to the even cent and the others away from zero, so that they
agree exactly on the amounts that are not half a cent above an even number of cents
(`one_amount_iff`).
-/

namespace ShelfWise.Cascade

open Py Connectors Sys.Rounding

/-! ## Amounts -/

/-- The text of an amount of at most 26 digits. -/
structure AmountText (text : String) (negative : Bool) (coefficient : ℕ) (exponent : ℤ) : Prop where
  reads : Decimal.ofText text = some (.finite negative coefficient exponent)
  digits : coefficient * 10 ^ exponent.toNat < 10 ^ 26

/-- The amount is half a cent above an even number of cents, by its magnitude. -/
def HalfAboveEven (coefficient : ℕ) (exponent : ℤ) : Prop :=
  ∃ k : ℕ, (coefficient : ℚ) * 10 ^ exponent * 100 = 2 * k + 1 / 2

/-- The cents of an amount in a rounding mode. -/
def centsOf (mode : Decimal.Rounding) (negative : Bool) (coefficient : ℕ) (exponent : ℤ) : ℤ :=
  rounded (Decimal.Rounding.up mode) (Decimal.signOf negative * coefficient * 10 ^ exponent * 100)

section Halves

theorem roundHalfEven_eq_nearest (q : ℚ) :
    Twin.roundHalfEven q = nearest (Decimal.Rounding.up .halfEven) q := by
  have hdouble : Int.fract q < 1 / 2 ↔ 2 * Int.fract q < 1 := by
    constructor <;> intro h <;> linarith
  have hdouble' : 1 / 2 < Int.fract q ↔ 1 < 2 * Int.fract q := by
    constructor <;> intro h <;> linarith
  show (if Int.fract q < 1 / 2 then ⌊q⌋ else if 1 / 2 < Int.fract q then ⌊q⌋ + 1
    else if ⌊q⌋ % 2 = 0 then ⌊q⌋ else ⌊q⌋ + 1) = _
  unfold nearest
  simp only [hdouble, hdouble', Decimal.Rounding.up, decide_eq_true_eq]
  split_ifs <;> grind

/-- The two modes give different cents on the halves above an even number of cents. -/
theorem centsOf_eq_iff (negative : Bool) (coefficient : ℕ) (exponent : ℤ) :
    centsOf .halfEven negative coefficient exponent = centsOf .halfUp negative coefficient exponent ↔
      ¬ HalfAboveEven coefficient exponent := by
  have hnonneg : (0 : ℚ) ≤ coefficient * 10 ^ exponent * 100 := by positivity
  have habs : |Decimal.signOf negative * coefficient * 10 ^ exponent * 100|
      = (coefficient : ℚ) * 10 ^ exponent * 100 := by
    rw [mul_assoc (Decimal.signOf negative), mul_assoc, abs_mul, abs_of_nonneg hnonneg]
    cases negative <;> simp [Decimal.signOf]
  unfold centsOf HalfAboveEven
  rw [rounded_eq_iff, habs]
  generalize (coefficient : ℚ) * 10 ^ exponent * 100 = q at hnonneg
  have hsplit := Int.floor_add_fract q
  have hfloor := Int.floor_nonneg.mpr hnonneg
  constructor
  · rintro hmodes ⟨k, hk⟩
    have hfloorEq : ⌊q⌋ = 2 * (k : ℤ) := by
      rw [Int.floor_eq_iff, hk]
      push_cast
      constructor <;> linarith
    have hhalf : 2 * Int.fract q = 1 := by
      rw [hfloorEq] at hsplit
      push_cast at hsplit
      linarith
    have hodd := hmodes hhalf
    simp only [Decimal.Rounding.up, decide_eq_true_eq, hfloorEq] at hodd
    omega
  · intro hnone hhalf
    rw [show Decimal.Rounding.up .halfUp ⌊q⌋ = true from rfl]
    simp only [Decimal.Rounding.up, decide_eq_true_eq]
    by_contra heven
    refine hnone ⟨(⌊q⌋ / 2).toNat, ?_⟩
    have hk : ((⌊q⌋ / 2).toNat : ℤ) * 2 = ⌊q⌋ := by omega
    have hcast : (((⌊q⌋ / 2).toNat : ℕ) : ℚ) * 2 = ⌊q⌋ := by exact_mod_cast hk
    linarith

end Halves

/-! ## The context -/

/-- The context never changes the cents of a number that it can show, or that is below its places. -/
theorem rounded_inContext (up : ℤ → Bool) {m e : ℤ} (hm : |m| < 10 ^ 28) :
    rounded up (Decimal.inContext (m * 10 ^ e)) = rounded up ((m : ℚ) * 10 ^ e) := by
  rcases le_or_gt Decimal.etiny e with hplace | hbelow
  · rw [Decimal.inContext_of_shown ⟨m, e, hplace, hm, by norm_num⟩]
  · -- so many places after the point that both are rounded to zero
    have htiny : |(m : ℚ) * 10 ^ e| ≤ ((1 : ℤ) : ℚ) * 10 ^ (-1000 : ℤ) := by
      have hunit : (0 : ℚ) < 10 ^ e := by positivity
      have hcast : |(m : ℚ)| ≤ 10 ^ (28 : ℤ) := by exact_mod_cast hm.le
      have hetiny : Decimal.etiny = -1000026 := rfl
      rw [abs_mul, abs_of_pos hunit, Int.cast_one, one_mul]
      calc |(m : ℚ)| * 10 ^ e ≤ 10 ^ (28 : ℤ) * 10 ^ e := mul_le_mul_of_nonneg_right hcast hunit.le
        _ = 10 ^ (28 + e) := by rw [zpow_add₀ (by norm_num)]
        _ ≤ 10 ^ (-1000 : ℤ) := zpow_le_zpow_right₀ (by norm_num) (by omega)
    have hkept : Decimal.inContext (((1 : ℤ) : ℚ) * 10 ^ (-1000 : ℤ))
        = ((1 : ℤ) : ℚ) * 10 ^ (-1000 : ℤ) :=
      Decimal.inContext_of_shown ⟨1, -1000, by decide, by decide, by norm_num⟩
    have hsmall : ((1 : ℤ) : ℚ) * 10 ^ (-1000 : ℤ) < 1 / 2 := by
      have hle : (10 : ℚ) ^ (-1000 : ℤ) ≤ 10 ^ (-1 : ℤ) := zpow_le_zpow_right₀ (by norm_num) (by norm_num)
      have hone : (10 : ℚ) ^ (-1 : ℤ) = 1 / 10 := by norm_num
      rw [hone] at hle
      rw [Int.cast_one, one_mul]
      linarith
    obtain ⟨hlow, hhigh⟩ := abs_le.mp htiny
    have hrounded : |Decimal.inContext ((m : ℚ) * 10 ^ e)| ≤ ((1 : ℤ) : ℚ) * 10 ^ (-1000 : ℤ) := by
      have hupper := Decimal.inContext_mono hhigh
      have hlower := Decimal.inContext_mono hlow
      rw [hkept] at hupper
      rw [Decimal.inContext_neg, hkept] at hlower
      exact abs_le.mpr ⟨hlower, hupper⟩
    rw [rounded_of_abs_lt up (hrounded.trans_lt hsmall), rounded_of_abs_lt up (htiny.trans_lt hsmall)]

/-! ## The three readers -/

section Readers

variable {text : String} {negative : Bool} {coefficient : ℕ} {exponent : ℤ}

theorem AmountText.value_le (h : AmountText text negative coefficient exponent) :
    (coefficient : ℚ) * 10 ^ exponent ≤ 10 ^ 26 - 1 := by
  have hsucc : (coefficient : ℚ) * 10 ^ exponent.toNat + 1 ≤ 10 ^ 26 := by
    exact_mod_cast Nat.succ_le_of_lt h.digits
  have hcast : (coefficient : ℚ) * 10 ^ exponent.toNat ≤ 10 ^ 26 - 1 := by linarith
  refine le_trans (mul_le_mul_of_nonneg_left ?_ (Nat.cast_nonneg coefficient)) hcast
  rw [← zpow_natCast]
  exact zpow_le_zpow_right₀ (by norm_num) (Int.self_le_toNat exponent)

theorem AmountText.coefficient_lt (h : AmountText text negative coefficient exponent) :
    coefficient < 10 ^ 26 :=
  lt_of_le_of_lt (Nat.le_mul_of_pos_right _ (by positivity)) h.digits

/-- The cents of the twin. -/
theorem moneyMinorUnits_amount (h : AmountText text negative coefficient exponent) :
    Twin.moneyMinorUnits (.str text) .none
      = .ok (some (centsOf .halfEven negative coefficient exponent)) := by
  have hnonneg : (0 : ℚ) ≤ (coefficient * 100 : ℕ) * 10 ^ exponent := by positivity
  have hdigits : (Nat.toDigits 10 (coefficient * 100)).length ≤ 28 := by
    rw [Nat.length_toDigits_le_iff (by norm_num) (by norm_num)]
    have := h.coefficient_lt
    omega
  have hbound : ((coefficient * 100 : ℕ) : ℚ) * 10 ^ exponent ≤ ((10 ^ 28 - 100 : ℤ) : ℚ) := by
    have hle := h.value_le
    push_cast
    linarith
  have hcents : ¬ 10 ^ 28 ≤ nearest (Decimal.Rounding.up .halfEven)
      (((coefficient * 100 : ℕ) : ℚ) * 10 ^ exponent) := by
    have hle := nearest_mono (Decimal.Rounding.up .halfEven) hbound
    rw [nearest_intCast] at hle
    omega
  have hvalue : centsOf .halfEven negative coefficient exponent
      = rounded (Decimal.Rounding.up .halfEven)
        (Decimal.signOf negative * (((coefficient * 100 : ℕ) : ℚ) * 10 ^ exponent)) := by
    unfold centsOf
    push_cast
    congr 1
    ring
  have hfold : Twin.hundredfold (.finite negative coefficient exponent)
      = some (centsOf .halfEven negative coefficient exponent) := by
    unfold Twin.hundredfold
    dsimp only
    rw [if_pos hdigits, roundHalfEven_eq_nearest, if_neg hcents, hvalue]
    congr 1
    cases negative with
    | false =>
      simp only [Decimal.signOf, Bool.false_eq_true, if_false, one_mul]
      rw [rounded_of_nonneg _ hnonneg]
    | true =>
      simp only [Decimal.signOf, if_true, neg_mul, one_mul]
      rw [rounded_neg, rounded_of_nonneg _ hnonneg]
  show Except.ok ((Decimal.ofText text).bind Twin.hundredfold) = _
  rw [h.reads, Option.bind_some, hfold]

/-- The cents of `Money.zar`. -/
theorem zar_amount (h : AmountText text negative coefficient exponent) :
    Money.zar (.str text) = .ok ⟨centsOf .halfUp negative coefficient exponent, "ZAR"⟩ := by
  have hfits : Decimal.Fits (((coefficient * 100 : ℕ) : ℚ) * 10 ^ exponent) := by
    have hle := h.value_le
    unfold Decimal.Fits Decimal.precision
    push_cast
    linarith
  obtain ⟨cents, hcents⟩ := (Decimal.quantize_fix_iff negative).mpr hfits
  obtain ⟨hundred, hhundred, hquantized⟩ := bind_eq_ok_iff.mp hcents
  have hvalue := Decimal.hasValue_fix hhundred
  obtain ⟨n, hn⟩ := hvalue.toInt_of_quantize hquantized
  have hmagnitude : |Decimal.signed negative (coefficient * 100)| < 10 ^ 28 := by
    have := h.coefficient_lt
    cases negative <;> simp only [Decimal.signed, if_true, Bool.false_eq_true, if_false, abs_neg] <;>
      rw [abs_of_nonneg (by positivity)] <;> omega
  have hscaled : Decimal.signOf negative * ((coefficient * 100 : ℕ) : ℚ) * 10 ^ exponent
      = (Decimal.signed negative (coefficient * 100) : ℚ) * 10 ^ exponent := by
    rw [Decimal.cast_signed]
  have hresult : n = centsOf .halfUp negative coefficient exponent := by
    rw [hvalue.cents hquantized hn, hscaled, rounded_inContext _ hmagnitude, ← hscaled, centsOf]
    congr 1
    push_cast
    ring
  unfold Money.zar
  refine bind_eq_ok_iff.mpr ⟨text, printed_str text, ?_⟩
  rw [h.reads]
  refine bind_eq_ok_iff.mpr ⟨hundred, hhundred, bind_eq_ok_iff.mpr ⟨cents, hquantized,
    bind_eq_ok_iff.mpr ⟨n, hn, ?_⟩⟩⟩
  rw [hresult]

/-- What reads as a number has something besides white space. -/
theorem strip_ne_of_ofText {d : Decimal} (h : Decimal.ofText text = some d) : strip text ≠ "" := by
  intro hempty
  have hchars : stripChars text.toList = [] := by
    have hlist := congrArg String.toList hempty
    rwa [strip, String.toList_ofList] at hlist
  rw [Decimal.ofText, hchars] at h
  cases h

theorem ne_empty_of_ofText {d : Decimal} (h : Decimal.ofText text = some d) : text ≠ "" := by
  rintro rfl
  exact strip_ne_of_ofText h (by decide +kernel)

/-- The cents on the event of a sale. -/
theorem unitPriceMoney_amount (h : AmountText text negative coefficient exponent) :
    unitPriceMoney (.str text) = .ok ⟨centsOf .halfUp negative coefficient exponent, "ZAR"⟩ := by
  have htruthy : (Value.str text).truthy = true := bne_iff_ne.mpr (ne_empty_of_ofText h.reads)
  show Money.zar ((Value.str text).orElse (.str "0")) = _
  rw [Value.orElse, if_pos htruthy, zar_amount h]

/-- The text of a decimal that was read is the text of an amount again. -/
theorem AmountText.str (h : AmountText text negative coefficient exponent) :
    AmountText (Decimal.finite negative coefficient exponent).str negative coefficient exponent :=
  ⟨Decimal.ofText_str (Decimal.inRange_of_ofText h.reads), h.digits⟩

/-- The cents of a fact, when no field in minor units is there. -/
theorem moneyFromFields_amount (h : AmountText text negative coefficient exponent)
    {payload : List (String × Value)} {field : String} {fields minorFields : List String}
    (hfield : Value.get payload field = .str text)
    (hminor : ∀ minor ∈ minorFields, Value.get payload minor = .none) :
    moneyFromFields payload (field :: fields) minorFields
      = .ok (some ⟨centsOf .halfUp negative coefficient exponent, "ZAR"⟩) := by
  have hprinted : isPrinted (.str text) = true := by
    simp only [isPrinted, printed_str, strip_ne_of_ofText h.reads, ne_eq, not_false_eq_true,
      decide_true]
  have hread : decimalOf (.str text) = some (.finite negative coefficient exponent) := by
    rw [decimalOf, if_neg (by simp [hprinted]), printed_str]
    exact h.reads
  rw [moneyFromFields, moneyOfMinorFields_none hminor, orRead_none, moneyOfAmountFields, hfield]
  rw [hread]
  show (Money.zar (.str (Decimal.finite negative coefficient exponent).str)).map some = _
  rw [zar_amount h.str]
  rfl

/-- One amount has one number of cents exactly when it is not half a cent above an even number of
cents. -/
theorem one_amount_iff (h : AmountText text negative coefficient exponent)
    {payload : List (String × Value)} {field : String} {fields minorFields : List String}
    (hfield : Value.get payload field = .str text)
    (hminor : ∀ minor ∈ minorFields, Value.get payload minor = .none) :
    (∃ n, Twin.moneyMinorUnits (.str text) .none = .ok (some n) ∧
        unitPriceMoney (.str text) = .ok ⟨n, "ZAR"⟩ ∧
        moneyFromFields payload (field :: fields) minorFields = .ok (some ⟨n, "ZAR"⟩)) ↔
      ¬ HalfAboveEven coefficient exponent := by
  rw [← centsOf_eq_iff negative, moneyMinorUnits_amount h, unitPriceMoney_amount h,
    moneyFromFields_amount h hfield hminor]
  constructor
  · rintro ⟨n, htwin, hsale, -⟩
    have hsame := congrArg Money.minorUnits (Except.ok.inj hsale)
    rw [Option.some.inj (Except.ok.inj htwin)]
    exact hsame.symm
  · intro hsame
    exact ⟨centsOf .halfUp negative coefficient exponent, by rw [hsame], rfl, rfl⟩

end Readers

/-- Thirteen cents and a half are fourteen cents everywhere. -/
theorem thirteen_and_a_half :
    (∃ n, Twin.moneyMinorUnits (.str "0.135") .none = .ok (some n) ∧
      unitPriceMoney (.str "0.135") = .ok ⟨n, "ZAR"⟩ ∧
      moneyFromFields [("unit_cost", .str "0.135")] ["unit_cost"] ["unit_cost_cents"]
        = .ok (some ⟨n, "ZAR"⟩)) ↔ ¬ HalfAboveEven 135 (-3) :=
  one_amount_iff (⟨by decide +kernel, by decide⟩ : AmountText "0.135" false 135 (-3)) rfl (by decide)

/-- Twelve cents and a half are twelve cents in the twin and thirteen on the event of the sale. -/
theorem twelve_and_a_half :
    ¬ ∀ (text : String) (negative : Bool) (coefficient : ℕ) (exponent : ℤ),
      AmountText text negative coefficient exponent →
        ∃ n, Twin.moneyMinorUnits (.str text) .none = .ok (some n) ∧
          unitPriceMoney (.str text) = .ok ⟨n, "ZAR"⟩ := by
  intro h
  obtain ⟨n, htwin, hsale⟩ := h "0.125" false 125 (-3) ⟨by decide +kernel, by decide⟩
  have htwelve : Twin.moneyMinorUnits (.str "0.125") .none = .ok (some 12) := by decide +kernel
  have hthirteen : unitPriceMoney (.str "0.125") = .ok ⟨13, "ZAR"⟩ := by decide +kernel
  rw [htwelve] at htwin
  rw [hthirteen] at hsale
  cases htwin
  cases hsale

end ShelfWise.Cascade
