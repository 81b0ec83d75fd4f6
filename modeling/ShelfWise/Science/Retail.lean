import ShelfWise.Connectors.Normalize
import ShelfWise.Py.DecimalArithmetic

/-!
# Decision science

The calculations of `shelfwise_decision_science` that the cascades and their tools share: the
demand forecast, the risk of a cold chain, the risk of an expiry, the simulation of a markdown and
the anomaly of a sale, with the arithmetic of money of `shelfwise_contracts`.
-/

namespace ShelfWise.Science

open Py Connectors

/-! ## Facts and money -/

/-- `SeededScenario`, with the fields that the calculations and the evidence read. -/
structure ScenarioFacts where
  sku : String
  productName : String
  category : String
  location : String
  unitsOnHand : ℤ
  daysToExpiry : ℤ
  recentDailyUnits : List Decimal
  unitCost : Money
  unitPrice : Money

/-- `money * factor`. -/
def timesMoney (money : Money) (factor : Decimal) : Except Exc Money := do
  let product ← (Decimal.ofInt money.minorUnits).mul factor
  let cents ← product.quantize .halfUp 0
  let minorUnits ← cents.toInt
  .ok ⟨minorUnits, money.currency⟩

/-- `a - b` of money. -/
def subMoney (a b : Money) : Except Exc Money :=
  if a.currency = b.currency then .ok ⟨a.minorUnits - b.minorUnits, a.currency⟩
  else .error (.valueError ("currency mismatch: " ++ a.currency ++ " vs " ++ b.currency))

/-- `to_dict` of money. -/
def moneyDict (money : Money) : Except Exc Value := do
  let amount ← money.amount
  .ok (.dict [("minor_units", .int money.minorUnits), ("currency", .str money.currency),
    ("amount", .str amount.str)])

/-- `str(money)`. -/
def moneyText (money : Money) : Except Exc String := do
  let amount ← money.amount
  .ok (money.currency ++ " " ++ amount.str)

/-! ## Demand -/

/-- `DemandForecast`, with the fields that are read. -/
structure DemandForecast where
  dailyUnits : Decimal
  method : String
  confidence : Decimal

/-- `forecast_demand` over three days. -/
def forecastDemand (recentDailyUnits : List Decimal) (paydayMultiplier : Decimal) :
    Except Exc DemandForecast :=
  if recentDailyUnits = [] then .ok ⟨.ofInt 0, "no_sales_history", .finite false 2 (-1)⟩
  else do
    let days := Decimal.ofInt recentDailyUnits.length
    let total ← Decimal.sum recentDailyUnits
    let base ← total.div days
    let daily ← base.mul paydayMultiplier
    let share ← days.div (.ofInt 14)
    let support ← share.minOf (.ofInt 1)
    let gained ← support.mul (.finite false 35 (-2))
    let confidence ← (Decimal.finite false 55 (-2)).add gained
    let shownConfidence ← confidence.q2
    let dailyUnits ← daily.q2
    let horizon ← daily.mul (.ofInt 3)
    let _ ← horizon.q2
    .ok ⟨dailyUnits,
      if paydayMultiplier.toRat = 1 then "moving_average" else "moving_average_with_payday_uplift",
      shownConfidence⟩

/-! ## Risks -/

/-- `ColdChainRisk`; its confidence is 0.78. -/
structure ColdChainRisk where
  risk : Decimal
  penaltyDays : Decimal

/-- The method of `score_cold_chain_risk`. -/
def coldChainMethod : String := "thermal_dose_time_to_unsafe_heuristic"

/-- `score_cold_chain_risk` with its default limits. A clamped risk meets the postcondition of
`ColdChainRisk`. -/
def scoreColdChainRisk (outageHours averageTempC : Decimal) : Except Exc ColdChainRisk := do
  let outageLeft ← outageHours.sub (.ofInt 2)
  let outageExcess ← outageLeft.maxOf (.ofInt 0)
  let tempLeft ← averageTempC.sub (.ofInt 5)
  let tempExcess ← tempLeft.maxOf (.ofInt 0)
  let spanLeft ← (Decimal.ofInt 8).sub (.ofInt 5)
  let tempSpan ← spanLeft.maxOf (.finite false 1 (-1))
  let outageDose ← outageExcess.safeDiv (.ofInt 2)
  let tempDose ← tempExcess.safeDiv tempSpan
  let dose ← outageDose.add tempDose
  let half ← dose.div (.ofInt 2)
  let risk ← half.clamp
  let shownRisk ← risk.q2
  let penalty ← risk.mul (.ofInt 3)
  let penaltyDays ← penalty.q2
  .ok ⟨shownRisk, penaltyDays⟩

/-- `ExpiryRisk`; its confidence is 0.74. -/
structure ExpiryRisk where
  risk : Decimal
  wasteUnits : Decimal
  zarAtRisk : Money
  effectiveDaysToExpiry : Decimal

/-- The method of `score_expiry_risk`. -/
def expiryMethod : String := "sell_through_hazard_with_cold_chain_penalty"

/-- `score_expiry_risk`. Of the postconditions of `ExpiryRisk` the one on the money can fail. -/
def scoreExpiryRisk (scenario : ScenarioFacts) (forecastDailyUnits : Decimal)
    (cold : ColdChainRisk) : Except Exc ExpiryRisk := do
  let units := Decimal.ofInt scenario.unitsOnHand
  let daysLeft ← (Decimal.ofInt scenario.daysToExpiry).sub cold.penaltyDays
  let effectiveDays ← daysLeft.maxOf (.ofInt 0)
  let forecastDaily ← forecastDailyUnits.maxOf (.finite false 1 (-2))
  let sellThroughDays ← units.safeDiv forecastDaily
  let expectedSold ← forecastDaily.mul effectiveDays
  let unsold ← units.sub expectedSold
  let wasteUnits ← unsold.maxOf (.ofInt 0)
  let slack ← sellThroughDays.sub effectiveDays
  let hazard ← slack.safeDiv sellThroughDays
  let velocityRisk ← hazard.clamp
  let velocityShare ← velocityRisk.mul (.finite false 75 (-2))
  let coldShare ← cold.risk.mul (.finite false 25 (-2))
  let blend ← velocityShare.add coldShare
  let risk ← blend.clamp
  let shownRisk ← risk.q2
  let shownWaste ← wasteUnits.q2
  let zarAtRisk ← timesMoney scenario.unitCost wasteUnits
  let shownDays ← effectiveDays.q2
  if zarAtRisk.minorUnits < 0 then
    .error (.valueError
      ("ExpiryRisk.zar_at_risk must be >= 0: " ++ toString zarAtRisk.minorUnits))
  else .ok ⟨shownRisk, shownWaste, zarAtRisk, shownDays⟩

/-! ## Markdowns -/

/-- `MarkdownSimulation`, with the fields that are read; its confidence is 0.80. -/
structure MarkdownSimulation where
  markdownUnitsSold : Decimal
  markdownWasteUnits : Decimal
  holdWasteUnits : Decimal
  incrementalProfit : Money

/-- The method of `simulate_markdown`. -/
def markdownMethod : String := "deterministic_markdown_vs_hold_expected_value"

/-- What a number of units earns, when the rest goes to waste. -/
def profitOf (margin unitCost : Money) (units waste : Decimal) : Except Exc Money := do
  let earned ← timesMoney margin units
  let lost ← timesMoney unitCost waste
  subMoney earned lost

/-- `simulate_markdown` with its default elasticity. -/
def simulateMarkdown (scenario : ScenarioFacts) (days baseDailyUnits discountPct : Decimal) :
    Except Exc MarkdownSimulation := do
  let negative ← discountPct.lt (.ofInt 0)
  let whole ← (Decimal.ofInt 1).le discountPct
  if negative || whole then .error (.valueError "discount_pct must be in [0, 1)")
  else
    let units := Decimal.ofInt scenario.unitsOnHand
    let held ← baseDailyUnits.mul days
    let holdUnits ← units.minOf held
    let elastic ← (Decimal.finite false 15 (-1)).mul discountPct
    let uplift ← (Decimal.ofInt 1).add elastic
    let markdownDaily ← baseDailyUnits.mul uplift
    let sold ← markdownDaily.mul days
    let markdownUnits ← units.minOf sold
    let holdLeft ← units.sub holdUnits
    let holdWaste ← holdLeft.maxOf (.ofInt 0)
    let markdownLeft ← units.sub markdownUnits
    let markdownWaste ← markdownLeft.maxOf (.ofInt 0)
    let holdMargin ← subMoney scenario.unitPrice scenario.unitCost
    let share ← (Decimal.ofInt 1).sub discountPct
    let markdownPrice ← timesMoney scenario.unitPrice share
    let markdownMargin ← subMoney markdownPrice scenario.unitCost
    let holdProfit ← profitOf holdMargin scenario.unitCost holdUnits holdWaste
    let markdownProfit ← profitOf markdownMargin scenario.unitCost markdownUnits markdownWaste
    let unitsSold ← markdownUnits.q2
    let _ ← holdUnits.q2
    let shownWaste ← markdownWaste.q2
    let shownHoldWaste ← holdWaste.q2
    let incrementalProfit ← subMoney markdownProfit holdProfit
    .ok ⟨unitsSold, shownWaste, shownHoldWaste, incrementalProfit⟩

/-! ## Anomalies -/

/-- The score of `detect_robust_anomaly` for a history of four values or more. -/
def robustScore (history : List Decimal) (current : Decimal) : Except Exc Decimal := do
  let center ← Decimal.median history
  let deviations ← history.mapM fun item => do
    let difference ← item.sub center
    difference.magnitude
  let mad ← Decimal.median deviations
  let normalisedMad ← mad.mul (.finite false 14826 (-4))
  if mad.toRat = 0 then .ok (.ofInt 0)
  else do
    let difference ← current.sub center
    let distance ← difference.magnitude
    distance.safeDiv normalisedMad

/-- The `is_anomaly` of `detect_robust_anomaly`. -/
def isAnomaly (history : List Decimal) (current : Decimal) : Except Exc Bool :=
  if history.length < 4 then .ok false
  else do
    let score ← robustScore history current
    let _ ← score.q2
    (Decimal.finite false 35 (-1)).le score

end ShelfWise.Science
