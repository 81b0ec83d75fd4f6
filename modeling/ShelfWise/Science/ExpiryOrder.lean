import ShelfWise.Connectors.Normalize
import ShelfWise.Science.Exact

/-!
# The order of expiry risks

`score_cold_chain_risk` and `score_expiry_risk` with decimals taken as rationals, and the one fed into
the other: no postcondition is ever violated, and more stock, more warmth and longer outages never lower
the risk, while more days and a higher forecast never raise it (`assess_monotone`).
-/

namespace ShelfWise.Science.Exact

/-- A postcondition that a result violates, with the value of the message. -/
inductive Violation where
  | coldChainRisk (risk : ℚ)
  | penaltyDays (days : ℚ)
  | coldChainConfidence (confidence : ℚ)
  | expiryRisk (risk : ℚ)
  | wasteUnits (units : ℚ)
  | zarAtRisk (minorUnits : ℤ)
  | effectiveDays (days : ℚ)
  | expiryConfidence (confidence : ℚ)
deriving DecidableEq

/-! ## The cold chain -/

/-- `ColdChainRisk`. -/
structure ColdChainRisk where
  area : String
  risk : ℚ
  penaltyDays : ℚ
  method : String
  confidence : ℚ
deriving DecidableEq

/-- `ColdChainRisk.__post_init__`. -/
def ColdChainRisk.postInit (self : ColdChainRisk) : Except Violation ColdChainRisk :=
  if ¬ (0 ≤ self.risk ∧ self.risk ≤ 1) then .error (.coldChainRisk self.risk)
  else if self.penaltyDays < 0 then .error (.penaltyDays self.penaltyDays)
  else if ¬ (0 ≤ self.confidence ∧ self.confidence ≤ 1) then
    .error (.coldChainConfidence self.confidence)
  else .ok self

theorem ColdChainRisk.postInit_eq {self : ColdChainRisk} (hrisk : 0 ≤ self.risk ∧ self.risk ≤ 1)
    (hpenalty : 0 ≤ self.penaltyDays) (hconfidence : 0 ≤ self.confidence ∧ self.confidence ≤ 1) :
    self.postInit = .ok self := by
  rw [postInit, if_neg (not_not.mpr hrisk), if_neg (not_lt.mpr hpenalty),
    if_neg (not_not.mpr hconfidence)]

/-- The limits of `score_cold_chain_risk`, with their defaults. -/
structure ThermalLimits where
  safeHoldHours : ℚ := 2
  maxSafeC : ℚ := 5
  hardUnsafeC : ℚ := 8

/-- The clamped dose of `score_cold_chain_risk`. -/
def thermalRisk (limits : ThermalLimits) (outageHours averageTempC : ℚ) : ℚ :=
  let outageExcess := max (outageHours - limits.safeHoldHours) 0
  let tempExcess := max (averageTempC - limits.maxSafeC) 0
  let tempSpan := max (limits.hardUnsafeC - limits.maxSafeC) (1 / 10)
  let dose := safeDiv outageExcess limits.safeHoldHours 0 + safeDiv tempExcess tempSpan 0
  clamp (dose / 2) 0 1

/-- `score_cold_chain_risk`. -/
def scoreColdChainRisk (area : String) (outageHours averageTempC : ℚ) (limits : ThermalLimits) :
    Except Violation ColdChainRisk :=
  let risk := thermalRisk limits outageHours averageTempC
  ColdChainRisk.postInit
    { area := area
      risk := q2 risk
      penaltyDays := q2 (risk * 3)
      method := "thermal_dose_time_to_unsafe_heuristic"
      confidence := 78 / 100 }

/-! ## The expiry -/

/-- `ExpiryRisk`. -/
structure ExpiryRisk where
  sku : String
  risk : ℚ
  wasteUnits : ℚ
  zarAtRisk : Connectors.Money
  effectiveDaysToExpiry : ℚ
  method : String
  confidence : ℚ

/-- `ExpiryRisk.__post_init__`. -/
def ExpiryRisk.postInit (self : ExpiryRisk) : Except Violation ExpiryRisk :=
  if ¬ (0 ≤ self.risk ∧ self.risk ≤ 1) then .error (.expiryRisk self.risk)
  else if self.wasteUnits < 0 then .error (.wasteUnits self.wasteUnits)
  else if self.zarAtRisk.minorUnits < 0 then .error (.zarAtRisk self.zarAtRisk.minorUnits)
  else if self.effectiveDaysToExpiry < 0 then .error (.effectiveDays self.effectiveDaysToExpiry)
  else if ¬ (0 ≤ self.confidence ∧ self.confidence ≤ 1) then
    .error (.expiryConfidence self.confidence)
  else .ok self

theorem ExpiryRisk.postInit_eq {self : ExpiryRisk} (hrisk : 0 ≤ self.risk ∧ self.risk ≤ 1)
    (hwaste : 0 ≤ self.wasteUnits) (hzar : 0 ≤ self.zarAtRisk.minorUnits)
    (hdays : 0 ≤ self.effectiveDaysToExpiry)
    (hconfidence : 0 ≤ self.confidence ∧ self.confidence ≤ 1) : self.postInit = .ok self := by
  rw [postInit, if_neg (not_not.mpr hrisk), if_neg (not_lt.mpr hwaste), if_neg (not_lt.mpr hzar),
    if_neg (not_lt.mpr hdays), if_neg (not_not.mpr hconfidence)]

/-- The days that are left after the penalty. -/
def effectiveDays (daysToExpiry penaltyDays : ℚ) : ℚ := max (daysToExpiry - penaltyDays) 0

/-- The forecast that is divided by. -/
def forecastDaily (forecastDailyUnits : ℚ) : ℚ := max forecastDailyUnits (1 / 100)

/-- The velocity risk of a stock that sells through in so many days. -/
def velocityRisk (sellThroughDays days : ℚ) : ℚ :=
  clamp (safeDiv (sellThroughDays - days) sellThroughDays 0) 0 1

/-- `score_expiry_risk`. -/
def scoreExpiryRisk (sku : String) (unitsOnHand daysToExpiry forecastDailyUnits : ℚ)
    (unitCost : Connectors.Money) (coldChainRisk coldChainPenaltyDays : ℚ) :
    Except Violation ExpiryRisk :=
  let days := effectiveDays daysToExpiry coldChainPenaltyDays
  let forecast := forecastDaily forecastDailyUnits
  let sellThroughDays := safeDiv unitsOnHand forecast 0
  let expectedSold := forecast * days
  let wasteUnits := max (unitsOnHand - expectedSold) 0
  let risk := clamp (velocityRisk sellThroughDays days * (75 / 100) + coldChainRisk * (25 / 100)) 0 1
  ExpiryRisk.postInit
    { sku := sku
      risk := q2 risk
      wasteUnits := q2 wasteUnits
      zarAtRisk := ⟨timesCents unitCost.minorUnits wasteUnits, unitCost.currency⟩
      effectiveDaysToExpiry := q2 days
      method := "sell_through_hazard_with_cold_chain_penalty"
      confidence := 74 / 100 }

/-! ## One fed into the other -/

/-- What the two calculations are given. -/
structure ExpiryInput where
  sku : String
  area : String
  unitsOnHand : ℚ
  daysToExpiry : ℚ
  forecastDailyUnits : ℚ
  unitCost : Connectors.Money
  outageHours : ℚ
  averageTempC : ℚ

/-- The expiry risk of the stock whose cold chain is scored first, with the default limits. -/
def assess (input : ExpiryInput) : Except Violation ExpiryRisk := do
  let cold ← scoreColdChainRisk input.area input.outageHours input.averageTempC {}
  scoreExpiryRisk input.sku input.unitsOnHand input.daysToExpiry input.forecastDailyUnits
    input.unitCost cold.risk cold.penaltyDays

/-- The second input is the worse one in every respect. -/
structure Riskier (a b : ExpiryInput) : Prop where
  units : a.unitsOnHand ≤ b.unitsOnHand
  days : b.daysToExpiry ≤ a.daysToExpiry
  forecast : b.forecastDailyUnits ≤ a.forecastDailyUnits
  outage : a.outageHours ≤ b.outageHours
  warmth : a.averageTempC ≤ b.averageTempC

section ColdChain

variable (limits : ThermalLimits) {outage outage' temp temp' : ℚ}

theorem thermalRisk_mono (hhold : 0 ≤ limits.safeHoldHours) (ho : outage ≤ outage')
    (ht : temp ≤ temp') : thermalRisk limits outage temp ≤ thermalRisk limits outage' temp' := by
  have hspan : (0 : ℚ) ≤ max (limits.hardUnsafeC - limits.maxSafeC) (1 / 10) :=
    le_max_of_le_right (by norm_num)
  have houtage : max (outage - limits.safeHoldHours) 0 ≤ max (outage' - limits.safeHoldHours) 0 :=
    max_le_max (by linarith) le_rfl
  have htemp : max (temp - limits.maxSafeC) 0 ≤ max (temp' - limits.maxSafeC) 0 :=
    max_le_max (by linarith) le_rfl
  apply clamp_mono
  apply div_le_div_of_nonneg_right _ (by norm_num)
  exact add_le_add (safeDiv_mono hhold houtage) (safeDiv_mono hspan htemp)

theorem thermalRisk_nonneg : 0 ≤ thermalRisk limits outage temp := le_clamp 0 1 _

theorem thermalRisk_le_one : thermalRisk limits outage temp ≤ 1 := clamp_le (by norm_num) _

/-- A clamped dose meets the postconditions. -/
theorem scoreColdChainRisk_eq (area : String) (outage temp : ℚ) :
    ∃ cold, scoreColdChainRisk area outage temp limits = .ok cold ∧
      cold.risk = q2 (thermalRisk limits outage temp) ∧
      cold.penaltyDays = q2 (thermalRisk limits outage temp * 3) := by
  have hrisk := q2_nonneg (@thermalRisk_nonneg limits outage temp)
  have hone := q2_le_one (@thermalRisk_le_one limits outage temp)
  have hpenalty : 0 ≤ q2 (thermalRisk limits outage temp * 3) :=
    q2_nonneg (mul_nonneg (thermalRisk_nonneg limits) (by norm_num))
  exact ⟨_, ColdChainRisk.postInit_eq ⟨hrisk, hone⟩ hpenalty ⟨by norm_num, by norm_num⟩, rfl, rfl⟩

end ColdChain

section Expiry

variable {stock stock' days days' : ℚ}

/-- A stock that sells through later with fewer days left is the riskier one; no stock is no risk. -/
theorem velocityRisk_mono (hstock : 0 ≤ stock) (hle : stock ≤ stock') (hdays : 0 ≤ days')
    (hless : days' ≤ days) : velocityRisk stock days ≤ velocityRisk stock' days' := by
  unfold velocityRisk
  rcases hstock.eq_or_lt with hzero | hpos
  · have hnone : clamp (safeDiv (stock - days) stock 0) 0 1 = 0 := by
      rw [safeDiv, if_pos hzero.symm, clamp, min_eq_right (by norm_num), max_self]
    rw [hnone]
    exact le_clamp 0 1 _
  · have hpos' : 0 < stock' := hpos.trans_le hle
    apply clamp_mono
    rw [safeDiv_of_pos hpos, safeDiv_of_pos hpos', sub_div, sub_div, div_self hpos.ne',
      div_self hpos'.ne']
    have hratio : days' / stock' ≤ days / stock :=
      div_le_div₀ (hdays.trans hless) hless hpos hle
    linarith

theorem effectiveDays_nonneg (daysToExpiry penaltyDays : ℚ) :
    0 ≤ effectiveDays daysToExpiry penaltyDays := le_max_right _ _

theorem forecastDaily_pos (forecast : ℚ) : 0 < forecastDaily forecast :=
  lt_max_of_lt_right (by norm_num)

/-- The postconditions hold for a stock and a cost that are not negative. -/
theorem scoreExpiryRisk_eq (sku : String) (units daysToExpiry forecast : ℚ)
    {unitCost : Connectors.Money} (coldRisk penalty : ℚ) (hcost : 0 ≤ unitCost.minorUnits) :
    ∃ expiry, scoreExpiryRisk sku units daysToExpiry forecast unitCost coldRisk penalty = .ok expiry ∧
      expiry.risk = q2 (clamp (velocityRisk (safeDiv units (forecastDaily forecast) 0)
        (effectiveDays daysToExpiry penalty) * (75 / 100) + coldRisk * (25 / 100)) 0 1) := by
  have hwaste : 0 ≤ max (units - forecastDaily forecast * effectiveDays daysToExpiry penalty) 0 :=
    le_max_right _ _
  have hdays := effectiveDays_nonneg daysToExpiry penalty
  have hrisk : ∀ blend : ℚ, 0 ≤ q2 (clamp blend 0 1) ∧ q2 (clamp blend 0 1) ≤ 1 := fun blend =>
    ⟨q2_nonneg (le_clamp 0 1 blend), q2_le_one (clamp_le (by norm_num) blend)⟩
  exact ⟨_, ExpiryRisk.postInit_eq (hrisk _) (q2_nonneg hwaste) (timesCents_nonneg hcost hwaste)
    (q2_nonneg hdays) ⟨by norm_num, by norm_num⟩, rfl⟩

end Expiry

/-- No postcondition is violated, and the worse input has the higher risk. -/
theorem assess_monotone {a b : ExpiryInput} (hunits : 0 ≤ a.unitsOnHand)
    (hcost : 0 ≤ a.unitCost.minorUnits) (hcost' : 0 ≤ b.unitCost.minorUnits) (h : Riskier a b) :
    ∃ ra rb, assess a = .ok ra ∧ assess b = .ok rb ∧ ra.risk ≤ rb.risk := by
  obtain ⟨cold, hcold, hrisk, hpenalty⟩ :=
    scoreColdChainRisk_eq {} a.area a.outageHours a.averageTempC
  obtain ⟨cold', hcold', hrisk', hpenalty'⟩ :=
    scoreColdChainRisk_eq {} b.area b.outageHours b.averageTempC
  obtain ⟨ra, hra, hraRisk⟩ := scoreExpiryRisk_eq a.sku a.unitsOnHand a.daysToExpiry
    a.forecastDailyUnits cold.risk cold.penaltyDays hcost
  obtain ⟨rb, hrb, hrbRisk⟩ := scoreExpiryRisk_eq b.sku b.unitsOnHand b.daysToExpiry
    b.forecastDailyUnits cold'.risk cold'.penaltyDays hcost'
  refine ⟨ra, rb, ?_, ?_, ?_⟩
  · rw [assess, hcold]
    exact hra
  · rw [assess, hcold']
    exact hrb
  have hthermal := thermalRisk_mono {} (by norm_num) h.outage h.warmth
  have hcoldRisk : cold.risk ≤ cold'.risk := by
    rw [hrisk, hrisk']
    exact q2_mono hthermal
  have hpenaltyDays : cold.penaltyDays ≤ cold'.penaltyDays := by
    rw [hpenalty, hpenalty']
    exact q2_mono (by linarith)
  have hdays : effectiveDays b.daysToExpiry cold'.penaltyDays
      ≤ effectiveDays a.daysToExpiry cold.penaltyDays :=
    max_le_max (by linarith [h.days]) le_rfl
  have hforecast : forecastDaily b.forecastDailyUnits ≤ forecastDaily a.forecastDailyUnits :=
    max_le_max h.forecast le_rfl
  have hpos := forecastDaily_pos b.forecastDailyUnits
  have hstock : safeDiv a.unitsOnHand (forecastDaily a.forecastDailyUnits) 0
      ≤ safeDiv b.unitsOnHand (forecastDaily b.forecastDailyUnits) 0 := by
    rw [safeDiv_of_pos (forecastDaily_pos _), safeDiv_of_pos hpos]
    exact div_le_div₀ (hunits.trans h.units) h.units hpos hforecast
  have hstockNonneg : 0 ≤ safeDiv a.unitsOnHand (forecastDaily a.forecastDailyUnits) 0 := by
    rw [safeDiv_of_pos (forecastDaily_pos _)]
    exact div_nonneg hunits (forecastDaily_pos _).le
  have hvelocity := velocityRisk_mono hstockNonneg hstock (effectiveDays_nonneg _ _) hdays
  rw [hraRisk, hrbRisk]
  apply q2_mono
  apply clamp_mono
  linarith

/-- A warm day after a long outage next to a cool one. -/
theorem warm_day_riskier : ∃ ra rb,
    assess ⟨"4011", "dairy", 10, 3, 4, ⟨250, "ZAR"⟩, 0, 4⟩ = .ok ra ∧
      assess ⟨"4011", "dairy", 12, 2, 4, ⟨250, "ZAR"⟩, 3, 7⟩ = .ok rb ∧ ra.risk ≤ rb.risk :=
  assess_monotone (by norm_num) (by norm_num) (by norm_num)
    ⟨by norm_num, by norm_num, by norm_num, by norm_num, by norm_num⟩

end ShelfWise.Science.Exact
