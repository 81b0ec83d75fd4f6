import ShelfWise.Science.Exact
import ShelfWise.Science.Retail

/-!
# The reorder policy

`compute_reorder_policy` of `shelfwise_decision_science.inventory` in the arithmetic of decimals. It
patches the advice to order nothing where the stock is exactly at the reorder point, and nowhere else:
the advice is actionable, and more stock never asks for more, exactly where the shortfall is not a part
of a unit (`reorder_advice_iff`).

The square root of the lead time and the normal distribution are parameters.
-/

namespace ShelfWise.Science

open Py Connectors

/-! ## The inputs and the levels -/

/-- `InventoryPolicyInput`. -/
structure InventoryPolicyInput where
  sku : String
  onHand : Decimal
  avgDailyDemand : Decimal
  demandStd : Decimal
  leadTimeDays : Decimal
  unitCost : Money
  committedUnits : Decimal
  serviceLevel : Decimal

/-- `ReorderPolicy`. -/
structure ReorderPolicy where
  sku : String
  availableToSellUnits : Decimal
  safetyStockUnits : Decimal
  reorderPointUnits : Decimal
  leadTimeDemandUnits : Decimal
  stockoutRisk : Decimal
  riskBand : String
  unitsBelowReorder : Decimal
  shouldReorder : Bool
  suggestedOrderUnits : Decimal
  zarExposure : Money
  method : String

/-- `_SERVICE_LEVEL_Z`. -/
def serviceLevelZ : List (Decimal × Decimal) :=
  [(.finite false 50 (-2), .finite false 0 (-4)), (.finite false 75 (-2), .finite false 6745 (-4)),
    (.finite false 80 (-2), .finite false 8416 (-4)), (.finite false 85 (-2), .finite false 10364 (-4)),
    (.finite false 90 (-2), .finite false 12816 (-4)), (.finite false 95 (-2), .finite false 16449 (-4)),
    (.finite false 975 (-3), .finite false 19600 (-4)), (.finite false 99 (-2), .finite false 23263 (-4))]

/-- `low <= value <= high`. -/
def between (low value high : Decimal) : Except Exc Bool := do
  let above ← low.le value
  if above then value.le high else .ok false

/-- The loop of `z_for_service_level` over pairs of neighbours; behind the last one stands the last
factor. -/
def interpolate (level : Decimal) : List ((Decimal × Decimal) × (Decimal × Decimal)) →
    Except Exc Decimal
  | [] => .ok (.finite false 23263 (-4))
  | (low, high) :: rest => do
    let inside ← between low.1 level high.1
    if inside then
      let part ← level.sub low.1
      let whole ← high.1.sub low.1
      let frac ← part.div whole
      let span ← high.2.sub low.2
      let share ← frac.mul span
      let z ← low.2.add share
      z.quantize .halfEven (-4)
    else interpolate level rest

/-- `z_for_service_level`. -/
def zForServiceLevel (serviceLevel : Decimal) : Except Exc Decimal := do
  let capped ← (Decimal.finite false 99 (-2)).minOf serviceLevel
  let level ← (Decimal.finite false 50 (-2)).maxOf capped
  interpolate level (serviceLevelZ.zip serviceLevelZ.tail)

/-- `_reject_negative`. -/
def rejectNegative (value : Decimal) (fieldName : String) : Except Exc Unit := do
  let negative ← value.lt (.ofInt 0)
  if negative then .error (.valueError (fieldName ++ " cannot be negative")) else .ok ()

/-- The levels of a policy before they are rounded to two places. -/
structure ReorderLevels where
  sigmaLead : Decimal
  safetyStock : Decimal
  leadDemand : Decimal
  reorderPoint : Decimal
  available : Decimal

/-- The levels that `compute_reorder_policy` starts with, of inputs that are not rejected. -/
def levelsOf (sqrt : Decimal → Decimal) (data : InventoryPolicyInput) : Except Exc ReorderLevels := do
  let lead := data.leadTimeDays
  let zFactor ← zForServiceLevel data.serviceLevel
  let positive ← (Decimal.ofInt 0).lt lead
  let sigmaLead ← data.demandStd.mul (if positive then sqrt lead else .ofInt 0)
  let safetyStock ← zFactor.mul sigmaLead
  let leadDemand ← data.avgDailyDemand.mul lead
  let reorderPoint ← leadDemand.add safetyStock
  let uncommitted ← data.onHand.sub data.committedUnits
  let available ← uncommitted.maxOf (.ofInt 0)
  .ok ⟨sigmaLead, safetyStock, leadDemand, reorderPoint, available⟩

/-- `value == 0`. -/
def isZero : Decimal → Bool
  | .finite _ coefficient _ => coefficient = 0
  | _ => false

/-- The risk of running out within the lead time. -/
def stockoutRiskOf (normalCdf : Decimal → Except Exc Decimal) (levels : ReorderLevels) :
    Except Exc Decimal := do
  if isZero levels.sigmaLead then
    let short ← levels.available.lt levels.leadDemand
    .ok (if short then .ofInt 1 else .ofInt 0)
  else
    let margin ← levels.available.sub levels.leadDemand
    let leadTimeZ ← margin.safeDiv levels.sigmaLead
    let covered ← normalCdf leadTimeZ
    let risk ← (Decimal.ofInt 1).sub covered
    risk.clamp

/-- `_risk_band`. -/
def riskBandOf (risk : Decimal) : Except Exc String := do
  let critical ← (Decimal.finite false 75 (-2)).le risk
  if critical then .ok "critical"
  else
    let high ← (Decimal.finite false 45 (-2)).le risk
    if high then .ok "high"
    else
      let medium ← (Decimal.finite false 20 (-2)).le risk
      .ok (if medium then "medium" else "low")

/-- The units to order: what is missing, and one at exact equality. -/
def suggestedUnits (unitsBelow : Decimal) (shouldReorder : Bool) : Except Exc Decimal := do
  let missing ← (Decimal.ofInt 0).lt unitsBelow
  .ok (if missing then unitsBelow else if shouldReorder then .ofInt 1 else .ofInt 0)

/-- `compute_reorder_policy` from its levels. -/
def policyOf (normalCdf : Decimal → Except Exc Decimal) (data : InventoryPolicyInput)
    (levels : ReorderLevels) : Except Exc ReorderPolicy := do
  let stockoutRisk ← stockoutRiskOf normalCdf levels
  let missing ← levels.reorderPoint.sub levels.available
  let unitsBelow ← missing.maxOf (.ofInt 0)
  let short ← levels.leadDemand.sub levels.available
  let expectedShort ← short.maxOf (.ofInt 0)
  let shouldReorder ← levels.available.le levels.reorderPoint
  let suggestedOrderUnits ← suggestedUnits unitsBelow shouldReorder
  let shownAvailable ← levels.available.q2
  let shownSafety ← levels.safetyStock.q2
  let shownPoint ← levels.reorderPoint.q2
  let shownDemand ← levels.leadDemand.q2
  let shownRisk ← stockoutRisk.q2
  let riskBand ← riskBandOf stockoutRisk
  let shownBelow ← unitsBelow.q2
  let shownSuggested ← suggestedOrderUnits.q2
  let zarExposure ← timesMoney data.unitCost expectedShort
  .ok
    { sku := data.sku
      availableToSellUnits := shownAvailable
      safetyStockUnits := shownSafety
      reorderPointUnits := shownPoint
      leadTimeDemandUnits := shownDemand
      stockoutRisk := shownRisk
      riskBand := riskBand
      unitsBelowReorder := shownBelow
      shouldReorder := shouldReorder
      suggestedOrderUnits := shownSuggested
      zarExposure := zarExposure
      method := "safety_stock_reorder_point_normal_lead_time_demand" }

/-- `compute_reorder_policy`. -/
def computeReorderPolicy (sqrt : Decimal → Decimal) (normalCdf : Decimal → Except Exc Decimal)
    (data : InventoryPolicyInput) : Except Exc ReorderPolicy := do
  rejectNegative data.onHand "on_hand"
  rejectNegative data.avgDailyDemand "avg_daily_demand"
  rejectNegative data.demandStd "demand_std"
  rejectNegative data.leadTimeDays "lead_time_days"
  rejectNegative data.committedUnits "committed_units"
  let levels ← levelsOf sqrt data
  policyOf normalCdf data levels

/-! ## What the advice promises -/

/-- Who is told to reorder is told to order a unit at least, and that the order reaches the reorder
point within a hundredth. -/
def ReorderPolicy.Actionable (policy : ReorderPolicy) : Prop :=
  policy.shouldReorder = true → 1 ≤ policy.suggestedOrderUnits.toRat ∧
    policy.reorderPointUnits.toRat - 1 / 100
      ≤ policy.availableToSellUnits.toRat + policy.suggestedOrderUnits.toRat

/-- With more stock, no reorder is asked for that was not asked for before, and no more units. -/
structure Calmer (policy more : ReorderPolicy) : Prop where
  reorder : more.shouldReorder = true → policy.shouldReorder = true
  units : more.suggestedOrderUnits.toRat ≤ policy.suggestedOrderUnits.toRat

/-- The stock that is not committed; what is committed without bound leaves none. -/
def availableStock (data : InventoryPolicyInput) : ℚ :=
  if data.committedUnits.isFinite then
    max (Decimal.inContext (data.onHand.toRat - data.committedUnits.toRat)) 0
  else 0

/-- The reorder point, by the factor of the service level and the root of the lead time. -/
def reorderPoint (factor root : ℚ) (data : InventoryPolicyInput) : ℚ :=
  Decimal.inContext (Decimal.inContext (data.avgDailyDemand.toRat * data.leadTimeDays.toRat)
    + Decimal.inContext (factor * Decimal.inContext (data.demandStd.toRat * root)))

/-- `sqrt(lead)` for a positive lead time. -/
def leadRoot (sqrt : Decimal → Decimal) (data : InventoryPolicyInput) : ℚ :=
  if 0 < data.leadTimeDays.toRat then (sqrt data.leadTimeDays).toRat else 0

/-- What is missing to the reorder point is nothing, or shows as a unit. -/
def Settled (sqrt : Decimal → Decimal) (data : InventoryPolicyInput) : Prop :=
  ∀ factor, zForServiceLevel data.serviceLevel = .ok factor →
    Decimal.inContext (reorderPoint factor.toRat (leadRoot sqrt data) data - availableStock data) ≤ 0
      ∨ 995 / 1000 ≤ Decimal.inContext
          (reorderPoint factor.toRat (leadRoot sqrt data) data - availableStock data)

/-! ## The values of a policy -/

/-- What a policy reports, by the values of its levels. -/
structure PolicyValues (policy : ReorderPolicy) (point available : ℚ) : Prop where
  available_nonneg : 0 ≤ available
  shownAvailable : policy.availableToSellUnits.toRat = Exact.q2 available
  shownPoint : policy.reorderPointUnits.toRat = Exact.q2 point
  pointFits : |Exact.q2 point| < 10 ^ (26 : ℤ)
  shouldReorder : policy.shouldReorder = decide (available ≤ point)
  suggested : policy.suggestedOrderUnits.toRat = Exact.q2
    (if 0 < Decimal.inContext (point - available) then Decimal.inContext (point - available)
      else if available ≤ point then 1 else 0)

section Values

variable {sqrt : Decimal → Decimal} {normalCdf : Decimal → Except Exc Decimal}
  {data : InventoryPolicyInput} {levels : ReorderLevels} {policy : ReorderPolicy}

/-- The larger one of a value and zero is not negative. -/
theorem nonneg_of_maxOf_zero {a r : Decimal} {x : ℚ} (h : a.maxOf (.ofInt 0) = .ok r)
    (hr : r.HasValue x) : 0 ≤ x := by
  have hzero := Decimal.hasValue_ofInt 0
  rw [Int.cast_zero] at hzero
  rcases Decimal.eq_or_eq_of_maxOf h with rfl | rfl
  · obtain ⟨r', hr', hvalue⟩ := hr.maxOf hzero
    cases h.symm.trans hr'
    rw [hr.unique hvalue]
    exact le_max_right _ _
  · exact (hr.unique hzero).ge

/-- The available stock, by the stock at hand and what is committed; both are finite, or more than
all is committed. -/
theorem available_eq {uncommitted available : Decimal} {y : ℚ}
    (hneg : data.onHand.lt (.ofInt 0) = .ok false)
    (hsub : data.onHand.sub data.committedUnits = .ok uncommitted)
    (hmax : uncommitted.maxOf (.ofInt 0) = .ok available) (hvalue : available.HasValue y) :
    data.onHand.isFinite = true ∧ y = availableStock data := by
  have hzero := Decimal.hasValue_ofInt 0
  rw [Int.cast_zero] at hzero
  unfold availableStock
  generalize data.onHand = stock at hneg hsub ⊢
  generalize data.committedUnits = committed at hsub ⊢
  have hnan := (Decimal.isNan_of_maxOf hmax).1
  cases stock with
  | finite s c e =>
    refine ⟨rfl, ?_⟩
    cases committed with
    | finite t d f =>
      have hvalue' := (Decimal.exists_hasValue rfl).sub (Decimal.exists_hasValue rfl) hsub
      obtain ⟨available', hmax', hlarger⟩ := hvalue'.maxOf hzero
      cases hmax.symm.trans hmax'
      exact hvalue.unique hlarger
    | infinity t =>
      cases hsub
      cases t
      · -- nothing is left
        cases hmax
        exact hvalue.unique hzero
      · cases hmax
        cases hvalue.1
    | nan t signalling payload =>
      cases signalling <;> cases hsub
      cases hnan
  | infinity s =>
    cases s
    · cases committed with
      | finite t d f =>
        cases hsub
        cases hmax
        cases hvalue.1
      | infinity t =>
        cases t <;> cases hsub
        cases hmax
        cases hvalue.1
      | nan t signalling payload =>
        cases signalling <;> cases hsub
        cases hnan
    · cases hneg
  | nan s signalling payload => cases hneg

/-- The root of the lead time as the product takes it. -/
theorem toRat_leadRoot {positive : Bool} (hfinite : data.leadTimeDays.isFinite = true)
    (h : (Decimal.ofInt 0).lt data.leadTimeDays = .ok positive) :
    (if positive then sqrt data.leadTimeDays else .ofInt 0).toRat = leadRoot sqrt data := by
  have hzero := Decimal.hasValue_ofInt 0
  rw [Int.cast_zero] at hzero
  rw [hzero.lt (Decimal.exists_hasValue hfinite)] at h
  cases h
  unfold leadRoot
  by_cases hlead : 0 < data.leadTimeDays.toRat
  · simp only [hlead, decide_true, if_true]
  · simp only [hlead, decide_false, Bool.false_eq_true, if_false]
    exact hzero.2

/-- The levels by their values. -/
theorem levelsOf_values (hneg : data.onHand.lt (.ofInt 0) = .ok false)
    (h : levelsOf sqrt data = .ok levels) {point shown : Decimal}
    (hpoint : levels.reorderPoint.q2 = .ok point) (hnan : levels.reorderPoint.isNan = false)
    (hshown : levels.available.q2 = .ok shown) :
    data.onHand.isFinite = true ∧ ∃ factor, zForServiceLevel data.serviceLevel = .ok factor ∧
      levels.reorderPoint.HasValue (reorderPoint factor.toRat (leadRoot sqrt data) data) ∧
        levels.available.HasValue (availableStock data) ∧ 0 ≤ availableStock data := by
  unfold levelsOf at h
  obtain ⟨factor, hfactor, h⟩ := bind_eq_ok_iff.mp h
  obtain ⟨positive, hpositive, h⟩ := bind_eq_ok_iff.mp h
  obtain ⟨sigmaLead, hsigma, h⟩ := bind_eq_ok_iff.mp h
  obtain ⟨safetyStock, hsafety, h⟩ := bind_eq_ok_iff.mp h
  obtain ⟨leadDemand, hdemand, h⟩ := bind_eq_ok_iff.mp h
  obtain ⟨reorderPoint, hsum, h⟩ := bind_eq_ok_iff.mp h
  obtain ⟨uncommitted, hsub, h⟩ := bind_eq_ok_iff.mp h
  obtain ⟨available, hmax, h⟩ := bind_eq_ok_iff.mp h
  cases h
  have havailableNan : available.isNan = false := by
    rcases Decimal.eq_or_eq_of_maxOf hmax with rfl | rfl
    · exact (Decimal.isNan_of_maxOf hmax).1
    · rfl
  have havailable := Decimal.exists_hasValue_of_quantize hshown havailableNan
  obtain ⟨hfinite, heq⟩ := available_eq hneg hsub hmax havailable
  -- a finite sum of products has finite parts
  have hpointValue := Decimal.exists_hasValue_of_quantize hpoint hnan
  obtain ⟨hdemandFinite, hsafetyFinite⟩ := Decimal.isFinite_of_add hsum hpointValue.1
  obtain ⟨havg, hlead⟩ := Decimal.isFinite_of_mul hdemand hdemandFinite
  obtain ⟨hfactorFinite, hsigmaFinite⟩ := Decimal.isFinite_of_mul hsafety hsafetyFinite
  obtain ⟨hstd, hroot⟩ := Decimal.isFinite_of_mul hsigma hsigmaFinite
  have hsigmaValue := (Decimal.exists_hasValue hstd).mul (Decimal.exists_hasValue hroot) hsigma
  rw [toRat_leadRoot hlead hpositive] at hsigmaValue
  have hsafetyValue := (Decimal.exists_hasValue hfactorFinite).mul hsigmaValue hsafety
  have hdemandValue := (Decimal.exists_hasValue havg).mul (Decimal.exists_hasValue hlead) hdemand
  refine ⟨hfinite, factor, hfactor, hdemandValue.add hsafetyValue hsum, havailable.congr heq, ?_⟩
  rw [← heq]
  exact nonneg_of_maxOf_zero hmax havailable

/-- The suggested units, by the value of what is missing. -/
theorem hasValue_suggestedUnits {missing unitsBelow suggested : Decimal} {gap : ℚ} {asked : Bool}
    (hgap : missing.HasValue gap) (hbelow : missing.maxOf (.ofInt 0) = .ok unitsBelow)
    (h : suggestedUnits unitsBelow asked = .ok suggested) :
    suggested.HasValue (if 0 < gap then gap else if asked = true then 1 else 0) := by
  have hzero := Decimal.hasValue_ofInt 0
  have hone := Decimal.hasValue_ofInt 1
  rw [Int.cast_zero] at hzero
  rw [Int.cast_one] at hone
  obtain ⟨below, hmax, hvalue⟩ := hgap.maxOf hzero
  cases hbelow.symm.trans hmax
  unfold suggestedUnits at h
  rw [hzero.lt hvalue] at h
  have hiff : 0 < max gap 0 ↔ 0 < gap := by
    rw [lt_max_iff]
    exact or_iff_left (lt_irrefl 0)
  simp only [hiff] at h
  obtain ⟨missing, hmissing, h⟩ := bind_eq_ok_iff.mp h
  cases hmissing
  cases h
  by_cases hpos : 0 < gap
  · simp only [hpos, decide_true, if_true]
    exact hvalue.congr (max_eq_left hpos.le)
  · simp only [hpos, decide_false, Bool.false_eq_true, if_false]
    cases asked
    · exact hzero
    · exact hone

/-- The report of a policy, by the values of its levels. -/
theorem policyOf_values (hneg : data.onHand.lt (.ofInt 0) = .ok false)
    (hlevels : levelsOf sqrt data = .ok levels) (h : policyOf normalCdf data levels = .ok policy) :
    data.onHand.isFinite = true ∧ ∃ factor, zForServiceLevel data.serviceLevel = .ok factor ∧
      PolicyValues policy (reorderPoint factor.toRat (leadRoot sqrt data) data)
        (availableStock data) := by
  unfold policyOf at h
  obtain ⟨stockoutRisk, -, h⟩ := bind_eq_ok_iff.mp h
  obtain ⟨missing, hmissing, h⟩ := bind_eq_ok_iff.mp h
  obtain ⟨unitsBelow, hbelow, h⟩ := bind_eq_ok_iff.mp h
  obtain ⟨short, -, h⟩ := bind_eq_ok_iff.mp h
  obtain ⟨expectedShort, -, h⟩ := bind_eq_ok_iff.mp h
  obtain ⟨asked, hasked, h⟩ := bind_eq_ok_iff.mp h
  obtain ⟨suggested, hsuggested, h⟩ := bind_eq_ok_iff.mp h
  obtain ⟨shownAvailable, havailable, h⟩ := bind_eq_ok_iff.mp h
  obtain ⟨shownSafety, -, h⟩ := bind_eq_ok_iff.mp h
  obtain ⟨shownPoint, hpoint, h⟩ := bind_eq_ok_iff.mp h
  obtain ⟨shownDemand, -, h⟩ := bind_eq_ok_iff.mp h
  obtain ⟨shownRisk, -, h⟩ := bind_eq_ok_iff.mp h
  obtain ⟨riskBand, -, h⟩ := bind_eq_ok_iff.mp h
  obtain ⟨shownBelow, -, h⟩ := bind_eq_ok_iff.mp h
  obtain ⟨shownSuggested, hshown, h⟩ := bind_eq_ok_iff.mp h
  obtain ⟨zarExposure, -, h⟩ := bind_eq_ok_iff.mp h
  cases h
  -- what is compared is no number otherwise, and what is shown is finite
  have hnan := Decimal.isNan_of_sub hmissing (Decimal.isNan_of_maxOf hbelow).1
  obtain ⟨hfinite, factor, hfactor, hpointValue, havailableValue, hnonneg⟩ :=
    levelsOf_values hneg hlevels hpoint hnan havailable
  have hgap := hpointValue.sub havailableValue hmissing
  rw [havailableValue.le hpointValue] at hasked
  cases hasked
  have hsuggestedValue := hasValue_suggestedUnits hgap hbelow hsuggested
  simp only [decide_eq_true_eq] at hsuggestedValue
  refine ⟨hfinite, factor, hfactor, ?_⟩
  exact
    { available_nonneg := hnonneg
      shownAvailable := (Exact.hasValue_q2 havailableValue havailable).2
      shownPoint := (Exact.hasValue_q2 hpointValue hpoint).2
      pointFits := (hpointValue.quantize hpoint).2
      shouldReorder := rfl
      suggested := (Exact.hasValue_q2 hsuggestedValue hshown).2 }

/-- An accepted input, by the values of its report. -/
theorem computeReorderPolicy_values (h : computeReorderPolicy sqrt normalCdf data = .ok policy) :
    data.onHand.isFinite = true ∧ ∃ factor, zForServiceLevel data.serviceLevel = .ok factor ∧
      PolicyValues policy (reorderPoint factor.toRat (leadRoot sqrt data) data)
        (availableStock data) := by
  unfold computeReorderPolicy at h
  obtain ⟨u, hreject, h⟩ := bind_eq_ok_iff.mp h
  obtain ⟨-, -, h⟩ := bind_eq_ok_iff.mp h
  obtain ⟨-, -, h⟩ := bind_eq_ok_iff.mp h
  obtain ⟨-, -, h⟩ := bind_eq_ok_iff.mp h
  obtain ⟨-, -, h⟩ := bind_eq_ok_iff.mp h
  obtain ⟨levels, hlevels, h⟩ := bind_eq_ok_iff.mp h
  obtain ⟨negative, hneg, hreject⟩ := bind_eq_ok_iff.mp hreject
  cases negative
  · exact policyOf_values hneg hlevels h
  · cases hreject

end Values

/-! ## Rounded shortfalls -/

section Shortfall

variable {gap : ℚ}

/-- The context and two places together err by less than three quarters of a hundredth. -/
theorem shown_gap_bounds (hgap : 0 ≤ gap) (h : gap < 10 ^ (26 : ℤ)) :
    |Exact.q2 (Decimal.inContext gap) - gap| ≤ 55 / 10000 := by
  rcases lt_or_ge gap (10 ^ (25 : ℤ)) with hsmall | hlarge
  · have hcontext := Decimal.inContext_sub_le (by norm_num) hgap hsmall
    have hplaces := Exact.q2_sub_le (Decimal.inContext gap)
    have hunit : (10 : ℚ) ^ (25 - 28 : ℤ) = 1 / 1000 := by norm_num
    rw [hunit] at hcontext
    rw [abs_le] at hcontext hplaces ⊢
    constructor <;> linarith
  · -- the last of 28 digits is that of the hundredths
    have hcontext := Decimal.inContext_sub_le (by norm_num) hgap h
    have hunit : (10 : ℚ) ^ (26 - 28 : ℤ) = 1 / 100 := by norm_num
    have hplace : Sys.Rounding.lastPlace 10 Decimal.precision Decimal.etiny gap = -2 := by
      have hle := Decimal.lastPlace_le_of_lt (by norm_num) hgap h
      have hpos : 0 < gap := lt_of_lt_of_le (by positivity) hlarge
      have hlarge' : ((10 : ℕ) : ℚ) ^ (25 : ℤ) ≤ gap := by exact_mod_cast hlarge
      have hlog := (Int.zpow_le_iff_le_log (by norm_num) hpos).mp hlarge'
      have hprecision : Decimal.precision = 28 := rfl
      unfold Sys.Rounding.lastPlace at hle ⊢
      rw [abs_of_pos hpos] at hle ⊢
      omega
    have hshown : Exact.q2 (Decimal.inContext gap) = Decimal.inContext gap := by
      rw [Decimal.inContext, Sys.Rounding.significant, hplace]
      exact_mod_cast Exact.q2_hundredths _
    rw [hshown]
    rw [hunit] at hcontext
    linarith

end Shortfall

section Promises

variable {policy more : ReorderPolicy} {point available available' : ℚ}

theorem PolicyValues.suggested_of_pos (h : PolicyValues policy point available)
    (hgap : 0 < Decimal.inContext (point - available)) :
    policy.suggestedOrderUnits.toRat = Exact.q2 (Decimal.inContext (point - available)) := by
  rw [h.suggested, if_pos hgap]

theorem PolicyValues.suggested_of_even (h : PolicyValues policy point available)
    (hgap : ¬ 0 < Decimal.inContext (point - available)) (hle : available ≤ point) :
    policy.suggestedOrderUnits.toRat = 1 := by
  have hone := Exact.q2_intCast 1
  rw [Int.cast_one] at hone
  rw [h.suggested, if_neg hgap, if_pos hle, hone]

theorem PolicyValues.suggested_of_gt (h : PolicyValues policy point available)
    (hlt : point < available) : policy.suggestedOrderUnits.toRat = 0 := by
  have hgap : ¬ 0 < Decimal.inContext (point - available) := by
    have hnonpos := Decimal.inContext_mono (sub_neg.mpr hlt).le
    rw [Decimal.inContext_zero] at hnonpos
    exact not_lt.mpr hnonpos
  have hzero := Exact.q2_intCast 0
  rw [Int.cast_zero] at hzero
  rw [h.suggested, if_neg hgap, if_neg (not_le.mpr hlt), hzero]

/-- The shortfall is smaller than the reorder point, which is shown with two places. -/
theorem PolicyValues.gap_lt (h : PolicyValues policy point available) :
    point - available < 10 ^ (26 : ℤ) := by
  obtain ⟨n, hn⟩ := Exact.exists_hundredths point
  have hunit : (10 : ℚ) ^ (-2 : ℤ) = 1 / 100 := by norm_num
  have hfits := (abs_lt.mp h.pointFits).2
  have hshown := Exact.q2_sub_le point
  have hnonneg := h.available_nonneg
  rw [hn, hunit] at hfits hshown
  -- the reorder point is a hundredth below the bound at least
  have hcents : n ≤ 10 ^ 28 - 1 := by
    have hlt : (n : ℚ) < ((10 ^ 28 : ℤ) : ℚ) := by
      push_cast
      norm_num at hfits ⊢
      linarith
    have := Int.cast_lt.mp hlt
    omega
  have hcast : (n : ℚ) ≤ 10 ^ 28 - 1 := by exact_mod_cast hcents
  have hbound := (abs_le.mp hshown).1
  norm_num at hcast ⊢
  linarith

/-- Hundredths that are less than two hundredths apart are one apart at most. -/
theorem hundredth_le {x y z : ℚ} (h : Exact.q2 x - 2 / 100 < Exact.q2 y + Exact.q2 z) :
    Exact.q2 x - 1 / 100 ≤ Exact.q2 y + Exact.q2 z := by
  obtain ⟨l, hl⟩ := Exact.exists_hundredths x
  obtain ⟨m, hm⟩ := Exact.exists_hundredths y
  obtain ⟨n, hn⟩ := Exact.exists_hundredths z
  have hunit : (10 : ℚ) ^ (-2 : ℤ) = 1 / 100 := by norm_num
  rw [hl, hm, hn, hunit] at h ⊢
  have hlt : ((l - 2 : ℤ) : ℚ) < ((m + n : ℤ) : ℚ) := by
    push_cast
    linarith
  have hle : l - 1 ≤ m + n := by
    have := Int.cast_lt.mp hlt
    omega
  have hcast : ((l - 1 : ℤ) : ℚ) ≤ ((m + n : ℤ) : ℚ) := Int.cast_le.mpr hle
  push_cast at hcast
  linarith

/-- An advice is actionable exactly when the shortfall is not a part of a unit. -/
theorem PolicyValues.actionable_iff (h : PolicyValues policy point available) :
    policy.Actionable ↔ Decimal.inContext (point - available) ≤ 0 ∨
      995 / 1000 ≤ Decimal.inContext (point - available) := by
  have havailable := Exact.q2_sub_le available
  have hpoint := Exact.q2_sub_le point
  rw [abs_le] at havailable hpoint
  unfold ReorderPolicy.Actionable
  rw [h.shouldReorder, h.shownPoint, h.shownAvailable, decide_eq_true_iff]
  constructor
  · intro hadvice
    rcases le_or_gt (Decimal.inContext (point - available)) 0 with hnone | hgap
    · exact .inl hnone
    · have hle : available ≤ point := by
        by_contra hlt
        have hnonpos := Decimal.inContext_mono (sub_neg.mpr (not_le.mp hlt)).le
        rw [Decimal.inContext_zero] at hnonpos
        linarith
      have hunit := (hadvice hle).1
      rw [h.suggested_of_pos hgap, Exact.one_le_q2_iff] at hunit
      exact .inr hunit
  · intro hsettled hle
    have hbounds := shown_gap_bounds (sub_nonneg.mpr hle) h.gap_lt
    have hplaces := Exact.q2_sub_le (Decimal.inContext (point - available))
    rw [abs_le] at hbounds hplaces
    by_cases hgap : 0 < Decimal.inContext (point - available)
    · rw [h.suggested_of_pos hgap]
      refine ⟨(Exact.one_le_q2_iff _).mpr (hsettled.resolve_left (not_le.mpr hgap)), ?_⟩
      exact hundredth_le (by linarith)
    · rw [h.suggested_of_even hgap hle]
      exact ⟨le_rfl, by linarith⟩

/-- With a settled shortfall more stock asks for no more. -/
theorem PolicyValues.calmer (h : PolicyValues policy point available)
    (h' : PolicyValues more point available') (hle : available ≤ available')
    (hsettled : Decimal.inContext (point - available) ≤ 0 ∨
      995 / 1000 ≤ Decimal.inContext (point - available)) : Calmer policy more := by
  have hmono : Decimal.inContext (point - available') ≤ Decimal.inContext (point - available) :=
    Decimal.inContext_mono (by linarith)
  constructor
  · rw [h.shouldReorder, h'.shouldReorder, decide_eq_true_iff, decide_eq_true_iff]
    exact hle.trans
  · by_cases hgap' : 0 < Decimal.inContext (point - available')
    · rw [h'.suggested_of_pos hgap', h.suggested_of_pos (hgap'.trans_le hmono)]
      exact Exact.q2_mono hmono
    · by_cases hasked : available' ≤ point
      · -- the one unit at equality is what a settled shortfall shows at least
        rw [h'.suggested_of_even hgap' hasked]
        by_cases hgap : 0 < Decimal.inContext (point - available)
        · rw [h.suggested_of_pos hgap, Exact.one_le_q2_iff]
          exact hsettled.resolve_left (not_le.mpr hgap)
        · rw [h.suggested_of_even hgap (hle.trans hasked)]
      · rw [h'.suggested_of_gt (not_le.mp hasked), h.suggested]
        apply Exact.q2_nonneg
        split_ifs with hgap
        · exact hgap.le
        · norm_num
        · exact le_rfl

end Promises

/-! ## Two inputs that differ in the stock at hand -/

section Stock

variable {sqrt : Decimal → Decimal} {normalCdf : Decimal → Except Exc Decimal}
  {data : InventoryPolicyInput} {stock : Decimal} {policy more : ReorderPolicy}

/-- More stock at hand leaves more available. -/
theorem availableStock_mono (hle : data.onHand.toRat ≤ stock.toRat) :
    availableStock data ≤ availableStock { data with onHand := stock } := by
  unfold availableStock
  split_ifs
  · refine max_le_max (Decimal.inContext_mono ?_) le_rfl
    exact sub_le_sub_right hle _
  · exact le_rfl

/-- The advice on two accepted inputs that differ in the stock at hand alone is actionable, and the
one with more stock asks for no more, exactly where neither shortfall is a part of a unit. -/
theorem reorder_advice_iff (h : computeReorderPolicy sqrt normalCdf data = .ok policy)
    (hmore : computeReorderPolicy sqrt normalCdf { data with onHand := stock } = .ok more)
    (hle : data.onHand.le stock = .ok true) :
    (policy.Actionable ∧ more.Actionable ∧ Calmer policy more) ↔
      Settled sqrt data ∧ Settled sqrt { data with onHand := stock } := by
  obtain ⟨hfinite, factor, hfactor, hvalues⟩ := computeReorderPolicy_values h
  obtain ⟨hfinite', factor', hfactor', hvalues'⟩ := computeReorderPolicy_values hmore
  cases hfactor.symm.trans hfactor'
  have hstock : data.onHand.toRat ≤ stock.toRat := by
    rw [(Decimal.exists_hasValue hfinite).le (Decimal.exists_hasValue hfinite')] at hle
    exact of_decide_eq_true (Except.ok.inj hle)
  have hsettled : ∀ {input : InventoryPolicyInput}, zForServiceLevel input.serviceLevel = .ok factor →
      (Settled sqrt input ↔ _) := fun hinput =>
    ⟨fun hall => hall factor hinput, fun hone other hother => by
      cases hinput.symm.trans hother
      exact hone⟩
  rw [hvalues.actionable_iff, hvalues'.actionable_iff, hsettled hfactor, hsettled hfactor']
  constructor
  · rintro ⟨hfirst, hsecond, -⟩
    exact ⟨hfirst, hsecond⟩
  · rintro ⟨hfirst, hsecond⟩
    exact ⟨hfirst, hsecond, hvalues.calmer hvalues' (availableStock_mono hstock) hfirst⟩

end Stock

/-- Ten units a day, a day of lead time and some stock at hand. -/
def daySupply (onHand : Decimal) : InventoryPolicyInput :=
  { sku := "4011"
    onHand := onHand
    avgDailyDemand := .ofInt 10
    demandStd := .ofInt 0
    leadTimeDays := .ofInt 1
    unitCost := ⟨250, "ZAR"⟩
    committedUnits := .ofInt 0
    serviceLevel := .finite false 95 (-2) }

/-- A shortfall of two units against the reorder point itself; the root of one day is one. -/
theorem two_units_short : ∃ policy more,
    computeReorderPolicy (fun _ => .ofInt 1) (fun _ => .ok (.ofInt 0)) (daySupply (.ofInt 8))
      = .ok policy ∧
    computeReorderPolicy (fun _ => .ofInt 1) (fun _ => .ok (.ofInt 0)) (daySupply (.ofInt 10))
      = .ok more ∧
    ((policy.Actionable ∧ more.Actionable ∧ Calmer policy more) ↔
      Settled (fun _ => .ofInt 1) (daySupply (.ofInt 8)) ∧
        Settled (fun _ => .ofInt 1) (daySupply (.ofInt 10))) := by
  obtain ⟨policy, hpolicy⟩ := exists_eq_ok (by decide +kernel :
    (computeReorderPolicy (fun _ => .ofInt 1) (fun _ => .ok (.ofInt 0))
      (daySupply (.ofInt 8))).toOption.isSome)
  obtain ⟨more, hmore⟩ := exists_eq_ok (by decide +kernel :
    (computeReorderPolicy (fun _ => .ofInt 1) (fun _ => .ok (.ofInt 0))
      (daySupply (.ofInt 10))).toOption.isSome)
  exact ⟨policy, more, hpolicy, hmore, reorder_advice_iff hpolicy hmore (by decide +kernel)⟩

/-- What two reports advise. -/
def advised (first second : Except Exc ReorderPolicy) : Except Exc (Bool × ℚ × Bool × ℚ) := do
  let policy ← first
  let more ← second
  .ok (policy.shouldReorder, policy.suggestedOrderUnits.toRat, more.shouldReorder,
    more.suggestedOrderUnits.toRat)

/-- Four thousandths of a unit short, no unit is suggested, and with them one is. -/
theorem part_of_a_unit_short : ∃ policy more,
    computeReorderPolicy (fun _ => .ofInt 1) (fun _ => .ok (.ofInt 0))
      (daySupply (.finite false 9996 (-3))) = .ok policy ∧
    computeReorderPolicy (fun _ => .ofInt 1) (fun _ => .ok (.ofInt 0)) (daySupply (.ofInt 10))
      = .ok more ∧ ¬ policy.Actionable ∧ ¬ Calmer policy more := by
  have hadvised : advised
      (computeReorderPolicy (fun _ => .ofInt 1) (fun _ => .ok (.ofInt 0))
        (daySupply (.finite false 9996 (-3))))
      (computeReorderPolicy (fun _ => .ofInt 1) (fun _ => .ok (.ofInt 0)) (daySupply (.ofInt 10)))
        = .ok (true, 0, true, 1) := by decide +kernel
  obtain ⟨policy, hpolicy, hadvised⟩ := bind_eq_ok_iff.mp hadvised
  obtain ⟨more, hmore, hadvised⟩ := bind_eq_ok_iff.mp hadvised
  have hunits := Except.ok.inj hadvised
  simp only [Prod.mk.injEq] at hunits
  obtain ⟨hasked, hnone, -, hone⟩ := hunits
  refine ⟨policy, more, hpolicy, hmore, fun hadvice => ?_, fun hcalmer => ?_⟩
  · have hunit := (hadvice hasked).1
    rw [hnone] at hunit
    exact absurd hunit (by norm_num)
  · have hunits := hcalmer.units
    rw [hnone, hone] at hunits
    exact absurd hunits (by norm_num)

end ShelfWise.Science
