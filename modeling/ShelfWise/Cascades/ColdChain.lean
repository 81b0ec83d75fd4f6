import ShelfWise.Cascades.Golden

/-!
# The cold-chain cascade

`run_cold_chain_cascade` of `shelfwise_backend/cascade.py`, up to the same fields of the result as
the golden cascade, with the record of the alert.
-/

namespace ShelfWise.Cascade

open Py Connectors Science Ingest

/-! ## Figures -/

/-- What the cold-chain cascade calculates, with the texts of the money it shows. -/
structure ColdChainFigures where
  stockAtRisk : Money
  cold : ColdChainRisk
  expiry : ExpiryRisk
  stockText : String
  zarAtRisk : String
  stock : Value

/-- The calculations of the cold-chain cascade. -/
def coldChainFigures (facts : ScenarioFacts) (payload : List (String × Value))
    (inputs : ColdChainInputs) : Except Exc ColdChainFigures := do
  let whole ← timesMoney facts.unitPrice (.ofInt facts.unitsOnHand)
  let stockAtRisk ← moneyPayload (Value.get payload "stock_at_risk") whole
  let cold ← scoreColdChainRisk inputs.measuredOutageHours inputs.averageTempC
  let demand ← forecastDemand facts.recentDailyUnits (.ofInt 1)
  let expiry ← scoreExpiryRisk facts demand.dailyUnits cold
  let stockText ← moneyText stockAtRisk
  let zarAtRisk ← moneyText expiry.zarAtRisk
  let stock ← moneyDict stockAtRisk
  .ok ⟨stockAtRisk, cold, expiry, stockText, zarAtRisk, stock⟩

/-! ## Evidence -/

/-- `alert_is_actionable`. -/
def alertIsActionable (inputs : ColdChainInputs) (figures : ColdChainFigures) : Bool :=
  1 ≤ inputs.severity && 0 < figures.stockAtRisk.minorUnits

/-- The action that the cold-chain cascade routes. -/
def coldChainAction (inputs : ColdChainInputs) (figures : ColdChainFigures) : RecommendedAction :=
  if alertIsActionable inputs figures then
    ⟨"dispatch_facilities_check", [("site_id", .str inputs.siteId),
      ("asset_id", .str inputs.assetId), ("category", .str inputs.category),
      ("diagnosis", .str inputs.diagnosis),
      ("predicted_minutes_to_unsafe", .str inputs.predictedMinutes.str),
      ("stock_at_risk_minor_units", .int figures.stockAtRisk.minorUnits)],
      if 2 ≤ inputs.severity then .high else .medium⟩
  else
    ⟨"monitor_cold_chain", [("site_id", .str inputs.siteId), ("asset_id", .str inputs.assetId),
      ("diagnosis", .str inputs.diagnosis)], .low⟩

/-- The source of the alert. -/
def alertSource (inputs : ColdChainInputs) : SourceRef := .dataset "cold_chain_alert" inputs.assetId

/-- The evidence of the cold-chain agent. -/
def coldChainEvidence (inputs : ColdChainInputs) (figures : ColdChainFigures) :
    EvidenceObject where
  agent := .coldChain
  conclusion := inputs.assetId ++ " at " ++ inputs.siteId ++ " reports " ++ inputs.diagnosis ++
    "; " ++ figures.stockText ++ " is exposed if the excursion continues."
  supportingData :=
    [supportingFact "severity" (toString inputs.severity) (alertSource inputs).text
      "sensor_fusion_alert",
      supportingFact "diagnosis" inputs.diagnosis (alertSource inputs).text "sensor_fusion_alert",
      supportingFact "predicted_minutes_to_unsafe" inputs.predictedMinutes.str
        (alertSource inputs).text "thermal_predictor",
      supportingFact "stock_at_risk_minor_units" (toString figures.stockAtRisk.minorUnits)
        (alertSource inputs).text "catalogue_x_fridge_contents",
      supportingFact "cold_chain_risk" figures.cold.risk.str "score_cold_chain_risk"
        coldChainMethod]
  confidence := .finite false 78 (-2)
  recommendedAction := coldChainAction inputs figures
  sources := [alertSource inputs, .tool "score_cold_chain_risk"]
  requiresHumanReview := alertIsActionable inputs figures

/-- The evidence of the expiry agent. -/
def shelfLifeEvidence (facts : ScenarioFacts) (inputs : ColdChainInputs)
    (figures : ColdChainFigures) : EvidenceObject where
  agent := .expiry
  conclusion := "Measured cold-chain risk reduces effective shelf life to " ++
    figures.expiry.effectiveDaysToExpiry.str ++ " days for " ++ facts.productName ++ "."
  supportingData :=
    [supportingFact "expiry_risk" figures.expiry.risk.str "score_expiry_risk" expiryMethod,
      supportingFact "waste_units" figures.expiry.wasteUnits.str "score_expiry_risk" expiryMethod,
      supportingFact "zar_at_risk" figures.zarAtRisk "score_expiry_risk" "unit_cost_x_waste"]
  confidence := .finite false 74 (-2)
  recommendedAction := coldChainAction inputs figures
  sources := [.tool "score_expiry_risk", alertSource inputs]
  requiresHumanReview := alertIsActionable inputs figures

/-- The evidence of the critic. -/
def coldChainCritic (inputs : ColdChainInputs) (figures : ColdChainFigures) : EvidenceObject where
  agent := .critic
  conclusion :=
    if alertIsActionable inputs figures then
      "Cold-chain escalation passes: measured sensor alert, diagnosis, and ZAR-at-risk " ++
        "are present."
    else "Cold-chain alert lacks enough measured impact; monitor only."
  supportingData := [supportingFact "critic_passed" (boolText (alertIsActionable inputs figures))
    "critic_gate" "measured_alert_and_value_at_risk_check"]
  confidence := .finite false 90 (-2)
  recommendedAction := coldChainAction inputs figures
  sources := [.tool "critic_gate", alertSource inputs]
  requiresHumanReview := alertIsActionable inputs figures

/-- The evidence of the executive. -/
def coldChainExecutive (inputs : ColdChainInputs) (figures : ColdChainFigures) :
    EvidenceObject where
  agent := .executive
  conclusion :=
    if alertIsActionable inputs figures then
      "Route a facilities check for " ++ inputs.assetId ++
        " before dairy stock crosses the unsafe window."
    else "Keep monitoring " ++ inputs.assetId ++ "; no manager action yet."
  supportingData := [supportingFact "priority" "prevent_spoilage" "executive_policy"
    "cold_chain_human_review"]
  confidence := .finite false 86 (-2)
  recommendedAction := coldChainAction inputs figures
  sources := [.tool "executive_policy", .tool "critic_gate"]
  requiresHumanReview := alertIsActionable inputs figures

/-! ## Decision -/

/-- `expected_outcome` of the cold-chain cascade. -/
def coldChainExpectedOutcome (inputs : ColdChainInputs) (figures : ColdChainFigures) :
    List (String × Value) :=
  [("diagnosis", .str inputs.diagnosis), ("severity", .int inputs.severity),
    ("cold_chain_risk", .str figures.cold.risk.str),
    ("cold_chain_penalty_days", .str figures.cold.penaltyDays.str),
    ("effective_days_to_expiry", .str figures.expiry.effectiveDaysToExpiry.str),
    ("waste_units", .str figures.expiry.wasteUnits.str), ("stock_at_risk", figures.stock),
    ("stock_at_risk_minor_units", .int figures.stockAtRisk.minorUnits),
    ("incremental_profit_minor_units", .int figures.stockAtRisk.minorUnits),
    ("predicted_minutes_to_unsafe", .str inputs.predictedMinutes.str)]

/-- The decision of the cold-chain cascade. -/
def coldChainDecision (tables : CharTables) (event : Event) (inputs : ColdChainInputs)
    (figures : ColdChainFigures) : List (String × Value) :=
  let actionable := alertIsActionable inputs figures
  [("id", .str (decisionId tables event)),
    ("status", .str (if actionable then "pending" else "rejected")),
    ("action", (coldChainAction inputs figures).toDict), ("caused_by", .list [.str event.id]),
    ("summary", .str (if actionable then
        "Pending facilities review for " ++ inputs.assetId ++ ": " ++ inputs.diagnosis ++
          " with " ++ figures.stockText ++ " at risk."
      else "Monitor " ++ inputs.assetId ++
        "; no measured cold-chain intervention required.")),
    ("tenant_id", .str event.tenantId),
    ("scenario_id", .str "cold_chain_generator_failure_facilities_review"),
    ("role", .str "facilities_manager"),
    ("critic_verdict", .str (if actionable then "approved" else "rejected")),
    ("expected_outcome", .dict (coldChainExpectedOutcome inputs figures))]

/-- What the cold-chain cascade returns for its inputs and figures. -/
def coldChainResult (tables : CharTables) (event : Event) (facts : ScenarioFacts)
    (inputs : ColdChainInputs) (figures : ColdChainFigures) : CascadeResult :=
  let evidence := [coldChainEvidence inputs figures, shelfLifeEvidence facts inputs figures,
    coldChainCritic inputs figures, coldChainExecutive inputs figures]
  [("correlation_id", .str event.correlationId),
    ("scenario", .str "cold_chain_generator_failure_facilities_review"),
    ("evidence", .list (evidence.map EvidenceObject.toDict)),
    ("decision", .dict (coldChainDecision tables event inputs figures)),
    ("cold_chain", .dict [("site_id", .str inputs.siteId), ("asset_id", .str inputs.assetId),
      ("category", .str inputs.category), ("diagnosis", .str inputs.diagnosis),
      ("severity", .int inputs.severity),
      ("measured_outage_hours", .str inputs.measuredOutageHours.str),
      ("average_temp_c", .str inputs.averageTempC.str)])]

/-- `run_cold_chain_cascade`. -/
def runColdChainCascade (context : CascadeContext) (story : Story) : Cascade :=
  fun event inventory twin => do
    let facts ← context.scenarioFacts event inventory twin
    let inputs ← orRaised (coldChainInputs story facts event.payload)
    let figures ← orRaised (coldChainFigures facts event.payload inputs)
    .ok (some (coldChainResult context.tables event facts inputs figures))

end ShelfWise.Cascade
