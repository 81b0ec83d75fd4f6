import ShelfWise.Inference.Orchestration
import ShelfWise.Science.Retail

/-!
# The tools of the critics

Three of the platform tools of `shelfwise_backend/tools/mcp_surface.py`: the simulation of a
markdown, the risk of a cold chain and the check of a till price. The facts of a scenario are a
parameter, and so is the double that an integer becomes. The arguments are the model's own: a tool
takes any SKU, discount, price or temperature of the right type, and a default for one that is left
out.
-/

namespace ShelfWise.Agentic

open Py Connectors Inference Science

/-! ## Context -/

/-- What the tools are built with: `facts.get_scenario_facts` of the tenant, and the double of an
integer. -/
structure ToolContext where
  scenarioFacts : Option String → Except Exc ScenarioFacts
  floatOfInt : ℤ → PyFloat

/-- `ToolExecutionError`. -/
def toolError (message : String) : Exc := .raised "ToolExecutionError" message

/-! ## Tools -/

/-- `Decimal(str(f))` of a double. -/
def decimalOfFloat (f : PyFloat) : Except Exc Decimal :=
  match Decimal.ofText f.repr with
  | some d => .ok d
  | none => .error Decimal.invalidOperation

/-- `simulate_markdown_tool` on the facts of a scenario. -/
def simulateMarkdownTool (scenario : ScenarioFacts) (discountPct : PyFloat) : Except Exc Value := do
  let total ← Decimal.sum scenario.recentDailyUnits
  let baseDailyUnits ← total.div (.ofInt scenario.recentDailyUnits.length)
  let discount ← decimalOfFloat discountPct
  let result ← simulateMarkdown scenario (.ofInt scenario.daysToExpiry) baseDailyUnits discount
  let profit ← moneyDict result.incrementalProfit
  .ok (.dict [("sku", .str scenario.sku), ("discount_pct", .str discountPct.repr),
    ("markdown_units_sold", .str result.markdownUnitsSold.str),
    ("markdown_waste_units", .str result.markdownWasteUnits.str),
    ("incremental_profit", profit), ("method", .str markdownMethod)])

/-- `get_cold_chain_status`. -/
def coldChainStatus (area : String) (outageHours averageTempC : PyFloat) : Except Exc Value := do
  let outage ← decimalOfFloat outageHours
  let temperature ← decimalOfFloat averageTempC
  let result ← scoreColdChainRisk outage temperature
  .ok (.dict [("area", .str area), ("risk", .str result.risk.str),
    ("penalty_days", .str result.penaltyDays.str), ("confidence", .str "0.78"),
    ("method", .str coldChainMethod)])

/-- `check_price_integrity` on the facts of a scenario. -/
def checkPriceIntegrity (scenario : ScenarioFacts) (observedUnitPrice : Option PyFloat) :
    Except Exc Value := do
  let catalogPrice ← scenario.unitPrice.amount
  let observed ← match observedUnitPrice with
    | some price => decimalOfFloat price
    | none => .ok catalogPrice
  let delta ← observed.sub catalogPrice
  match scenario.recentDailyUnits.getLast? with
  | none => .error (.raised "IndexError" "tuple index out of range")
  | some current =>
    let anomaly ← isAnomaly scenario.recentDailyUnits current
    .ok (.dict [("sku", .str scenario.sku), ("observed_unit_price", .str observed.str),
      ("catalog_unit_price", .str catalogPrice.str), ("price_delta", .str delta.str),
      ("velocity_anomaly", .bool anomaly), ("method", .str "catalog_price_integrity")])

/-! ## Arguments -/

/-- A `float` of JSON. -/
def floatArgument (context : ToolContext) : Value → Option PyFloat
  | .float f => match f.value with
    | .finite _ => some f
    | _ => none
  | .int n => some (context.floatOfInt n)
  | _ => none

/-- A `str | None` of JSON. -/
def textArgument : Value → Option (Option String)
  | .str s => some (some s)
  | .none => some none
  | _ => none

/-- A `float | None` of JSON. -/
def optionalFloatArgument (context : ToolContext) : Value → Option (Option PyFloat)
  | .none => some none
  | value => (floatArgument context value).map some

/-- A tool of two or three parameters, with its defaults: the arguments that are given, without
others, in the order of the parameters. -/
def boundArguments (defaults arguments : List (String × Value)) : Option (List (String × Value)) :=
  if arguments.all fun e => e.1 ∈ defaults.map Prod.fst then
    some (defaults.map fun e => (e.1, Value.getD arguments e.1 e.2))
  else none

/-- `invalid arguments for registered tool`. -/
def invalidArguments (name : String) : Exc :=
  toolError ("invalid arguments for registered tool: " ++ name)

/-- What the registry makes of an exception inside a tool. -/
def orToolFailed (name : String) : Except Exc Value → Except Exc Value
  | .ok result => .ok result
  | .error _ => .error (toolError ("registered tool failed: " ++ name))

/-- `_validated_arguments` and the call of `simulate_markdown_tool`. -/
def callSimulateMarkdown (context : ToolContext) (arguments : List (String × Value)) :
    Except Exc (List (String × Value) × Value) :=
  match boundArguments [("sku", .none), ("discount_pct", .float ⟨.finite
      (3602879701896397 / 18014398509481984), "0.2"⟩)] arguments with
  | none => .error (invalidArguments "simulate_markdown")
  | some bound =>
    match textArgument (Value.get bound "sku"),
        floatArgument context (Value.get bound "discount_pct") with
    | some sku, some discountPct => do
      let result ← orToolFailed "simulate_markdown" (do
        let scenario ← context.scenarioFacts sku
        simulateMarkdownTool scenario discountPct)
      .ok ([("sku", optionalText sku), ("discount_pct", .float discountPct)], result)
    | _, _ => .error (invalidArguments "simulate_markdown")

/-- `_validated_arguments` and the call of `get_cold_chain_status`. -/
def callColdChainStatus (context : ToolContext) (arguments : List (String × Value)) :
    Except Exc (List (String × Value) × Value) :=
  match boundArguments [("area", .str "fridge_a"), ("outage_hours", .float ⟨.finite 3, "3.0"⟩),
      ("average_temp_c", .float ⟨.finite 7, "7.0"⟩)] arguments with
  | none => .error (invalidArguments "get_cold_chain_status")
  | some bound =>
    match Value.get bound "area", floatArgument context (Value.get bound "outage_hours"),
        floatArgument context (Value.get bound "average_temp_c") with
    | .str area, some outageHours, some averageTempC => do
      let result ← orToolFailed "get_cold_chain_status"
        (coldChainStatus area outageHours averageTempC)
      .ok ([("area", .str area), ("outage_hours", .float outageHours),
        ("average_temp_c", .float averageTempC)], result)
    | _, _, _ => .error (invalidArguments "get_cold_chain_status")

/-- `_validated_arguments` and the call of `check_price_integrity`. -/
def callPriceIntegrity (context : ToolContext) (arguments : List (String × Value)) :
    Except Exc (List (String × Value) × Value) :=
  match boundArguments [("sku", .none), ("observed_unit_price", .none)] arguments with
  | none => .error (invalidArguments "check_price_integrity")
  | some bound =>
    match textArgument (Value.get bound "sku"),
        optionalFloatArgument context (Value.get bound "observed_unit_price") with
    | some sku, some observed => do
      let result ← orToolFailed "check_price_integrity" (do
        let scenario ← context.scenarioFacts sku
        checkPriceIntegrity scenario observed)
      .ok ([("sku", optionalText sku),
        ("observed_unit_price", (observed.map Value.float).getD .none)], result)
    | _, _ => .error (invalidArguments "check_price_integrity")

/-- The registry of a cascade: the three tools among the others. -/
def platformTools (context : ToolContext) (others : PlatformToolRegistry) : PlatformToolRegistry :=
  ((others.set "simulate_markdown"
      ⟨["sku", "discount_pct"], fun _ => callSimulateMarkdown context⟩).set
    "get_cold_chain_status"
      ⟨["area", "outage_hours", "average_temp_c"], fun _ => callColdChainStatus context⟩).set
    "check_price_integrity"
      ⟨["sku", "observed_unit_price"], fun _ => callPriceIntegrity context⟩

end ShelfWise.Agentic
