import ShelfWise.Cascades.Inputs
import ShelfWise.Contracts.Evidence
import ShelfWise.Decisions.Identity
import ShelfWise.Ingest.Dispatcher
import ShelfWise.Memory.Learning

/-!
# The golden cascade

`run_golden_cascade` of `shelfwise_backend/cascade.py`: the calculations on the facts of a scenario,
the evidence of the agents and the decision. A result has its decision, its evidence and what names
it. The facts of an event are a parameter; they and the learning store are all it reads besides the
event and the constants of the story.
-/

namespace ShelfWise.Cascade

open Py Connectors Science Ingest

/-! ## Context -/

/-- What the cascades are run with: `get_scenario_facts` of the provider of an event, the learning
store and the tables of characters. -/
structure CascadeContext where
  tables : CharTables
  scenarioFacts : Event → Inventory.Store → Twin.TwinStore → Except CascadeError ScenarioFacts
  learning : Option Memory.LearningStore

/-- `source_dataset` of the provider of an event. -/
def sourceDataset (event : Event) : String :=
  if event.dataDomain = .operationalTwin then "operational_twin" else "generated_world"

/-- `source_method` of the provider of an event. -/
def sourceMethod (event : Event) : String :=
  if event.dataDomain = .operationalTwin then "reported_operational_twin"
  else "generated_world_projection"

/-- An exception that is no lack of facts. -/
def orRaised {α : Type} (x : Except Exc α) : Except CascadeError α := x.mapError .raised

/-! ## Actions and verdicts -/

/-- `_monitor_action`. -/
def monitorAction (sku : String) : RecommendedAction := ⟨"monitor", [("sku", .str sku)], .low⟩

/-- The markdown of a product policy: every one of them has this discount and this duration. -/
def markdownAction (sku : String) : RecommendedAction :=
  ⟨"apply_markdown", [("sku", .str sku), ("discount_pct", .str "0.20"),
    ("duration_hours", .int 24)], .high⟩

/-- `Decimal(product_policy.markdown_discount_pct)`. -/
def markdownDiscount : Decimal := .finite false 20 (-2)

/-- `_enforce_critic_verdict`. -/
def enforceCriticVerdict (criticPassed : Bool) (executiveAction safeAction : RecommendedAction) :
    RecommendedAction × Bool :=
  if criticPassed ∨ executiveAction.type = safeAction.type then (executiveAction, false)
  else (safeAction, true)

/-- `_critic_gate_receipt`. -/
def criticGateReceipt (criticPassed : Bool) (executiveActionType : String)
    (overrideApplied : Bool) : Value :=
  .dict [("critic_passed", .bool criticPassed),
    ("executive_action_type", .str executiveActionType),
    ("override_applied", .bool overrideApplied)]

/-- `_whole_units`. -/
def wholeUnits (value : Decimal) : Except Exc ℤ := do
  let whole ← value.quantize .halfUp 0
  whole.toInt

/-- `str(b)`. -/
def boolText (b : Bool) : String := if b then "True" else "False"

/-- `_learned_threshold_evidence`. -/
def learnedThresholdEvidence (learning : Option Memory.LearningStore) (action : RecommendedAction)
    (event : Event) : Except Exc (Option EvidenceObject) :=
  match learning with
  | none => .ok none
  | some store => do
    let (metric, subject) ← Memory.routedMetric [("action", action.toDict)]
    match store.thresholds.get? (event.tenantId, event.dataDomain.value, metric) with
    | none => .ok none
    | some previous =>
      if previous = 0 then .ok none
      else .ok (some {
        agent := .opportunity
        conclusion := subject ++ " has previously proven " ++ toString previous ++
          " measured minor units for this metric - historical context for the reviewer, " ++
          "not a pass/fail bar."
        supportingData := [supportingFact "previous_high_water_mark_minor_units"
          (toString previous) "learning_memory" metric]
        confidence := .finite false 70 (-2)
        recommendedAction := action
        sources := [.tool "get_thresholds"]
        requiresHumanReview := false })

/-! ## Figures -/

/-- What the golden cascade calculates, with the texts of the money it shows. -/
structure GoldenFigures where
  demand : DemandForecast
  expiry : ExpiryRisk
  simulation : MarkdownSimulation
  markdownMargin : Money
  zarAtRisk : String
  incrementalProfit : String
  sellThroughUnits : ℤ
  wasteUnits : ℤ
  profit : Value

/-- The calculations of the golden cascade. -/
def goldenFigures (facts : ScenarioFacts) (inputs : GoldenInputs) : Except Exc GoldenFigures := do
  let demand ← forecastDemand facts.recentDailyUnits inputs.paydayMultiplier
  let cold ← scoreColdChainRisk inputs.outageHours inputs.averageTempC
  let expiry ← scoreExpiryRisk facts demand.dailyUnits cold
  let simulation ← simulateMarkdown facts expiry.effectiveDaysToExpiry demand.dailyUnits
    markdownDiscount
  let share ← (Decimal.ofInt 1).sub markdownDiscount
  let price ← timesMoney facts.unitPrice share
  let markdownMargin ← subMoney price facts.unitCost
  let zarAtRisk ← moneyText expiry.zarAtRisk
  let incrementalProfit ← moneyText simulation.incrementalProfit
  let sellThroughUnits ← wholeUnits simulation.markdownUnitsSold
  let wasteUnits ← wholeUnits simulation.markdownWasteUnits
  let profit ← moneyDict simulation.incrementalProfit
  .ok ⟨demand, expiry, simulation, markdownMargin, zarAtRisk, incrementalProfit, sellThroughUnits,
    wasteUnits, profit⟩

/-! ## Evidence -/

/-- The source of the outage. -/
def outageSource (event : Event) (facts : ScenarioFacts) (inputs : GoldenInputs) : SourceRef :=
  .dataset (sourceDataset event) (facts.location ++ ":" ++ inputs.coldArea)

/-- The evidence of the inventory agent. -/
def inventoryEvidence (event : Event) (facts : ScenarioFacts) : EvidenceObject :=
  let stock := SourceRef.dataset (sourceDataset event) ("stock:sku:" ++ facts.sku)
  { agent := .inventory
    conclusion := facts.productName ++ " has " ++ toString facts.unitsOnHand ++
      " units on hand at " ++ facts.location ++ "."
    supportingData := [supportingFact "units_on_hand" (toString facts.unitsOnHand) stock.text
      (sourceMethod event)]
    confidence := .finite false 92 (-2)
    recommendedAction := monitorAction facts.sku
    sources := [stock]
    requiresHumanReview := false }

/-- The evidence of the demand agent. -/
def demandEvidence (event : Event) (facts : ScenarioFacts) (figures : GoldenFigures) :
    EvidenceObject :=
  let sales := SourceRef.dataset (sourceDataset event) ("sales:sku:" ++ facts.sku)
  { agent := .demand
    conclusion := "Payday-adjusted demand is " ++ figures.demand.dailyUnits.str ++ " units/day."
    supportingData := [supportingFact "forecast_daily_units" figures.demand.dailyUnits.str
      sales.text figures.demand.method]
    confidence := figures.demand.confidence
    recommendedAction := monitorAction facts.sku
    sources := [sales]
    requiresHumanReview := false }

/-- The evidence of the expiry agent. -/
def expiryEvidence (event : Event) (facts : ScenarioFacts) (inputs : GoldenInputs)
    (figures : GoldenFigures) : EvidenceObject :=
  let stock := SourceRef.dataset (sourceDataset event) ("stock:sku:" ++ facts.sku)
  let outage := outageSource event facts inputs
  { agent := .expiry
    conclusion := "Cold-chain pressure leaves " ++ figures.expiry.wasteUnits.str ++
      " units at risk of waste."
    supportingData :=
      [supportingFact "expiry_risk" figures.expiry.risk.str outage.text expiryMethod,
        supportingFact "zar_at_risk" figures.zarAtRisk stock.text "unit_cost_x_waste"]
    confidence := .finite false 74 (-2)
    recommendedAction := markdownAction facts.sku
    sources := [stock, outage]
    requiresHumanReview := true }

/-- The evidence of the opportunity agent. -/
def opportunityEvidence (facts : ScenarioFacts) (figures : GoldenFigures) : EvidenceObject where
  agent := .opportunity
  conclusion := "A 20% markdown recovers more value than holding stock through the outage window."
  supportingData := [supportingFact "incremental_profit" figures.incrementalProfit
    "simulate_markdown" markdownMethod]
  confidence := .finite false 82 (-2)
  recommendedAction := markdownAction facts.sku
  sources := [.tool "simulate_markdown"]
  requiresHumanReview := true

/-- The evidence of the simulation agent. -/
def simulationEvidence (facts : ScenarioFacts) (figures : GoldenFigures) : EvidenceObject where
  agent := .simulation
  conclusion := "Markdown sells " ++ figures.simulation.markdownUnitsSold.str ++
    " units and cuts waste from " ++ figures.simulation.holdWasteUnits.str ++ " to " ++
    figures.simulation.markdownWasteUnits.str ++ " units."
  supportingData :=
    [supportingFact "hold_waste_units" figures.simulation.holdWasteUnits.str
      "simulate_markdown" markdownMethod,
      supportingFact "markdown_waste_units" figures.simulation.markdownWasteUnits.str
        "simulate_markdown" markdownMethod]
  confidence := .finite false 80 (-2)
  recommendedAction := markdownAction facts.sku
  sources := [.tool "simulate_markdown"]
  requiresHumanReview := true

/-- The evidence before the critic speaks. -/
def goldenFindings (event : Event) (facts : ScenarioFacts) (inputs : GoldenInputs)
    (figures : GoldenFigures) (history : Option EvidenceObject) : List EvidenceObject :=
  inventoryEvidence event facts :: demandEvidence event facts figures ::
    expiryEvidence event facts inputs figures :: opportunityEvidence facts figures ::
    simulationEvidence facts figures :: history.toList

/-- `critic_passed`. -/
def goldenCriticPassed (figures : GoldenFigures) (findings : List EvidenceObject) : Bool :=
  0 < figures.simulation.incrementalProfit.minorUnits &&
    findings.all fun item => !item.sources.isEmpty

/-- The evidence of the critic. -/
def goldenCritic (passed : Bool) (routed : RecommendedAction) : EvidenceObject where
  agent := .critic
  conclusion :=
    if passed then
      "Recommendation passes: it is sourced, math-backed, and requires HITL approval."
    else "Markdown does not recover measured value; monitor instead of discounting."
  supportingData := [supportingFact "critic_passed" (boolText passed) "critic_gate"
    "source_and_value_check"]
  confidence := .finite false 88 (-2)
  recommendedAction := routed
  sources := [.tool "critic_gate"]
  requiresHumanReview := passed

/-- The evidence of the executive. -/
def goldenExecutive (sku : String) (passed : Bool) (routed : RecommendedAction) :
    EvidenceObject where
  agent := .executive
  conclusion :=
    if passed then
      "Approve a 20% markdown for SKU " ++ sku ++ " now, then review outcome after 24 hours."
    else "Hold the markdown for SKU " ++ sku ++ "; monitor until value at risk is measured."
  supportingData := [supportingFact "priority" "single_action" "executive_policy"
    "risk_adjusted_expected_value"]
  confidence := .finite false 86 (-2)
  recommendedAction := routed
  sources := [.tool "executive_policy", .tool "critic_gate"]
  requiresHumanReview := passed

/-! ## Decision -/

/-- `expected_outcome` of the golden cascade. -/
def goldenExpectedOutcome (figures : GoldenFigures) : Value :=
  .dict [("predicted_sell_through_units", .int figures.sellThroughUnits),
    ("predicted_waste_units", .int figures.wasteUnits),
    ("incremental_profit_minor_units", .int figures.simulation.incrementalProfit.minorUnits),
    ("incremental_profit", figures.profit),
    ("markdown_margin_minor_units", .int figures.markdownMargin.minorUnits)]

/-- The decision of the golden cascade. -/
def goldenDecision (tables : CharTables) (event : Event) (facts : ScenarioFacts)
    (figures : GoldenFigures) (passed : Bool) : List (String × Value) :=
  let routed := enforceCriticVerdict passed (markdownAction facts.sku) (monitorAction facts.sku)
  [("id", .str (decisionId tables event)),
    ("status", .str (if passed then "pending" else "rejected")),
    ("action", routed.1.toDict), ("caused_by", .list [.str event.id]),
    ("summary", .str (if passed then
        "Pending manager approval: 20% markdown for " ++ facts.productName ++ " at " ++
          facts.location ++ "."
      else "Critic rejected the markdown for " ++ facts.productName ++ "; monitoring " ++
        facts.location ++ ".")),
    ("tenant_id", .str event.tenantId),
    ("scenario_id", .str "stage4_loadshedding_x_payday_yoghurt"),
    ("role", .str "store_manager"),
    ("critic_verdict", .str (if passed then "approved" else "rejected")),
    ("critic_gate", criticGateReceipt passed "apply_markdown" routed.2),
    ("expected_outcome", goldenExpectedOutcome figures)]

/-- What the golden cascade returns for its inputs and figures. -/
def goldenResult (tables : CharTables) (event : Event) (facts : ScenarioFacts)
    (inputs : GoldenInputs) (figures : GoldenFigures) (history : Option EvidenceObject) :
    CascadeResult :=
  let findings := goldenFindings event facts inputs figures history
  let passed := goldenCriticPassed figures findings
  let routed := (enforceCriticVerdict passed (markdownAction facts.sku)
    (monitorAction facts.sku)).1
  let evidence := findings ++
    [goldenCritic passed routed, goldenExecutive facts.sku passed routed]
  [("correlation_id", .str event.correlationId),
    ("scenario", .str "stage4_loadshedding_x_payday_yoghurt"),
    ("evidence", .list (evidence.map EvidenceObject.toDict)),
    ("decision", .dict (goldenDecision tables event facts figures passed))]

/-- `run_golden_cascade`. -/
def runGoldenCascade (context : CascadeContext) (story : Story) : Cascade :=
  fun event inventory twin => do
    let facts ← context.scenarioFacts event inventory twin
    let inputs ← orRaised (goldenInputs story event.payload)
    let figures ← orRaised (goldenFigures facts inputs)
    let history ← orRaised
      (learnedThresholdEvidence context.learning (markdownAction facts.sku) event)
    .ok (some (goldenResult context.tables event facts inputs figures history))

end ShelfWise.Cascade
