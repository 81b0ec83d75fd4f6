import ShelfWise.Agentic.Tools

/-!
# Escalation by the agents

The golden, sales and cold-chain cascades of `shelfwise_backend/agentic_cascade.py`: a critic calls
tools and gives a verdict, an executive chooses the action, and the server lets the riskier action
pass only when the critic passed and the first result of the critic's tool supports it.

The gate looks at a result and not at the arguments it was computed from. `escalation_bound_iff` says
for every behaviour of the model when an action that passes is supported by the tool on the cascade's
own arguments.
-/

namespace ShelfWise.Agentic

open Py Connectors Inference Science

/-! ## Evidence -/

/-- `isinstance(value, dict)`. -/
def isDict : Value → Bool
  | .dict _ => true
  | _ => false

/-- `_tool_result`: the result of the first execution of the tool that is a dictionary. -/
def toolResult (toolCalls : List ToolExecution) (name : String) : List (String × Value) :=
  match toolCalls.find? fun execution => execution.name = name ∧ isDict execution.result with
  | some execution => execution.result.items
  | none => []

/-- `_decimal_from_tool_field`. -/
def decimalFromToolField (payload : List (String × Value)) (key : String) : Option Decimal :=
  match Value.get payload key with
  | .none => none
  | value => Decimal.ofText value.toText

/-- The profit of a simulation is positive. -/
def profitIsPositive (simulation : List (String × Value)) : Except Exc Bool :=
  match Value.get simulation "incremental_profit" with
  | .dict profit => match Dict.lookup "minor_units" profit with
    | none => .ok false
    | some minorUnits => match minorUnits.intOrNone with
      | .error e => .error e
      | .ok none => .ok false
      | .ok (some n) => .ok (0 < n)
  | _ => .ok false

/-- `_markdown_evidence_supports_action`. -/
def markdownEvidenceSupportsAction (toolCalls : List ToolExecution) : Except Exc Bool :=
  profitIsPositive (toolResult toolCalls "simulate_markdown")

/-- `PRICE_EXCEPTION_TOLERANCE`. -/
def priceExceptionTolerance : Decimal := .finite false 15 (-2)

/-- The price of a check is within the tolerance. -/
def priceIsClean (price : List (String × Value)) : Except Exc Bool :=
  match decimalFromToolField price "price_delta", decimalFromToolField price "catalog_unit_price" with
  | some delta, some catalog => do
    let positive ← (Decimal.ofInt 0).lt catalog
    if positive then do
      let ratio ← delta.div catalog
      let deviation ← ratio.magnitude
      deviation.le priceExceptionTolerance
    else .ok false
  | _, _ => .ok false

/-- `_price_evidence_supports_clean_sale`. -/
def priceEvidenceSupportsCleanSale (toolCalls : List ToolExecution) : Except Exc Bool :=
  priceIsClean (toolResult toolCalls "check_price_integrity")

/-- The risk of a status is one half or more. -/
def riskIsHigh (status : List (String × Value)) : Except Exc Bool :=
  match decimalFromToolField status "risk" with
  | some risk => (Decimal.finite false 50 (-2)).le risk
  | none => .ok false

/-- `_cold_chain_evidence_supports_dispatch`. -/
def coldChainEvidenceSupportsDispatch (toolCalls : List ToolExecution) : Except Exc Bool :=
  riskIsHigh (toolResult toolCalls "get_cold_chain_status")

/-! ## The gate -/

/-- `_server_verified_critic_passed`. -/
def serverVerifiedCriticPassed (reported : Value) (evidenceSupportsAction : Bool) : Bool :=
  reported.truthy && evidenceSupportsAction

/-- `_enforce_critic_verdict`, by the types of the actions. -/
def enforceCriticVerdict (criticPassed : Bool) (executiveAction safeAction : String) : String :=
  if criticPassed ∨ executiveAction = safeAction then executiveAction else safeAction

/-- A cascade: its two agents, the tool its evidence comes from with the arguments it asks the critic
to use, and its two actions. -/
structure AgenticCascade where
  critic : RunRequest
  executive : RunRequest
  toolName : String
  asked : List (String × Value)
  evidence : List ToolExecution → Except Exc Bool
  escalation : String
  safe : String

namespace AgenticCascade

variable (c : AgenticCascade)

/-- A field of an answer, which the schema requires. -/
def answerField (answer : Value) (key : String) : Except Exc Value := requireKey answer.items key

/-- The check of the executive's conclusion, which is made when the critic passed. -/
def checkExecutive (criticPassed : Bool) (answer : Value) (toolCalls : List ToolExecution) :
    Except Exc Unit :=
  if criticPassed then do
    let said ← answerField answer "conclusion"
    assertConclusionGrounded said.toText toolCalls
  else .ok ()

/-- The type of the routed action: the run of the agents with the gate, up to the decision. -/
def route (criticResponses executiveResponses : ℕ → Except Exc Message) : Except Exc String := do
  let criticRun ← c.critic.runMessages criticResponses
  let conclusion ← answerField criticRun.1 "conclusion"
  assertConclusionGrounded conclusion.toText criticRun.2
  let executiveRun ← c.executive.runMessages executiveResponses
  let reported ← answerField criticRun.1 "critic_passed"
  let supported ← c.evidence criticRun.2
  let criticPassed := serverVerifiedCriticPassed reported supported
  checkExecutive criticPassed executiveRun.1 criticRun.2
  let actionType ← answerField executiveRun.1 "recommended_action_type"
  .ok (enforceCriticVerdict criticPassed
    (if actionType = .str c.escalation then c.escalation else c.safe) c.safe)

end AgenticCascade

/-! ## The cascades -/

/-- What the cascades are wired with. The model runtime, the schemas and the language check come as
for any run of the tool loop; `toFloat` is `float()`, and `deviatingPrice` the price of a till sale,
`float(amount) * 1.2` with two places. -/
structure AgentWiring where
  context : ToolContext
  others : PlatformToolRegistry
  tenantId : String
  text : MessageText
  maxModelCalls : ℕ
  precheck : Except Exc Unit
  criticAnswer : String → Except Exc Value
  executiveAnswer : String → Except Exc Value
  ensureEnglish : Value → Except Exc Unit
  toFloat : Value → Except Exc PyFloat
  deviatingPrice : Decimal → PyFloat

namespace AgentWiring

variable (w : AgentWiring)

/-- The run of a critic. -/
def criticRequest (requiredToolNames : List String) : RunRequest where
  registry := platformTools w.context w.others
  requiredToolNames := requiredToolNames
  requireToolCallFirst := true
  maxModelCalls := w.maxModelCalls
  tenantId := w.tenantId
  text := w.text
  precheck := w.precheck
  validateAnswer := w.criticAnswer
  ensureEnglish := w.ensureEnglish

/-- The run of an executive. -/
def executiveRequest : RunRequest :=
  { w.criticRequest [] with requireToolCallFirst := false, validateAnswer := w.executiveAnswer }

/-- The three cascades. -/
inductive Track where
  | golden
  | sales
  | coldChain
deriving DecidableEq

/-- `_run`: every product policy has a markdown of 0.20. -/
def goldenCascade (scenario : ScenarioFacts) : AgenticCascade where
  critic := w.criticRequest []
  executive := w.executiveRequest
  toolName := "simulate_markdown"
  asked := [("sku", .str scenario.sku),
    ("discount_pct", .float ⟨.finite (3602879701896397 / 18014398509481984), "0.2"⟩)]
  evidence := markdownEvidenceSupportsAction
  escalation := "apply_markdown"
  safe := "monitor"

/-- `_run_sales`. -/
def salesCascade (scenario : ScenarioFacts) (observedUnitPrice : PyFloat) : AgenticCascade where
  critic := w.criticRequest []
  executive := w.executiveRequest
  toolName := "check_price_integrity"
  asked := [("sku", .str scenario.sku), ("observed_unit_price", .float observedUnitPrice)]
  evidence := priceEvidenceSupportsCleanSale
  escalation := "record_sale"
  safe := "review_price_exception"

/-- `_run_cold_chain`. -/
def coldChainCascade (assetId : String) (outageHours averageTempC : PyFloat) : AgenticCascade where
  critic := w.criticRequest ["get_cold_chain_status"]
  executive := w.executiveRequest
  toolName := "get_cold_chain_status"
  asked := [("area", .str assetId), ("outage_hours", .float outageHours),
    ("average_temp_c", .float averageTempC)]
  evidence := coldChainEvidenceSupportsDispatch
  escalation := "dispatch_facilities_check"
  safe := "monitor_cold_chain"

/-- The cascade of a track on the payload of an event, before its agents run. -/
def cascadeOf (payload : List (String × Value)) (track : Track) : Except Exc AgenticCascade := do
  let scenario ← w.context.scenarioFacts none
  match track with
  | .golden => .ok (w.goldenCascade scenario)
  | .sales => do
    let amount ← scenario.unitPrice.amount
    .ok (w.salesCascade scenario (w.deviatingPrice amount))
  | .coldChain => do
    let outageHours ← w.toFloat ((Value.get payload "measured_outage_hours").orElse
      (.float ⟨.finite 4, "4.0"⟩))
    let averageTempC ← w.toFloat ((Value.get payload "temp_c").orElse
      (.float ⟨.finite (2308094809027379 / 281474976710656), "8.2"⟩))
    .ok (w.coldChainCascade ((Value.get payload "asset_id").orElse
      (.str ("cold-chain:" ++ scenario.location ++ ":" ++ scenario.category))).toText
      outageHours averageTempC)

end AgentWiring

/-! ## Whose evidence it is -/

namespace AgenticCascade

variable (c : AgenticCascade)

/-- The tool on the cascade's own arguments supports the riskier action. -/
def Own : Prop :=
  ∃ execution, execute c.critic.registry c.critic.tenantId 0 ⟨"asked", c.toolName, c.asked⟩ =
    .ok execution ∧ c.evidence [execution] = .ok true

/-- The model does all that the riskier action takes: both agents end with valid answers, the critic
reports that it passed, the executive chooses the action, and both cite what the tools computed. -/
structure Proposes (criticResponses executiveResponses : ℕ → Except Exc Message)
    (toolCalls : List ToolExecution) (criticAnswer executiveAnswer : Value) : Prop where
  critic : c.critic.runMessages criticResponses = .ok (criticAnswer, toolCalls)
  cited : ∃ conclusion, answerField criticAnswer "conclusion" = .ok conclusion ∧
    ∀ execution ∈ toolCalls, CitedBy conclusion.toText execution
  executive : ∃ others, c.executive.runMessages executiveResponses = .ok (executiveAnswer, others)
  passed : ∃ reported, answerField criticAnswer "critic_passed" = .ok reported ∧
    reported.truthy = true
  repeated : ∃ said, answerField executiveAnswer "conclusion" = .ok said ∧
    ∀ execution ∈ toolCalls, CitedBy said.toText execution
  action : answerField executiveAnswer "recommended_action_type" = .ok (.str c.escalation)

/-- The gate looks at the execution of this call. -/
structure LooksAt (toolCalls : List ToolExecution) (call : ToolCall) (execution : ToolExecution) :
    Prop where
  first : toolCalls.find? (fun execution => execution.name = c.toolName ∧
    isDict execution.result) = some execution
  ran : ∃ n, execute c.critic.registry c.critic.tenantId n call = .ok execution

/-- What the cascades have in common: the evidence is a property of the first result, and what the
tool computes depends on its arguments alone. -/
structure Gated : Prop where
  escalation_ne : c.escalation ≠ c.safe
  evidence_eq : ∃ supports : List (String × Value) → Except Exc Bool, supports [] = .ok false ∧
    ∀ toolCalls, c.evidence toolCalls = supports (toolResult toolCalls c.toolName)
  pure : ∀ n m arguments id id', execute c.critic.registry c.critic.tenantId n
      ⟨id, c.toolName, arguments⟩ =
    execute c.critic.registry c.critic.tenantId m ⟨id', c.toolName, arguments⟩

variable {c}

variable {call : ToolCall} {execution : ToolExecution}

theorem name_of_execute {registry : PlatformToolRegistry} {tenantId : String} {n : ℕ}
    (h : execute registry tenantId n call = .ok execution) : execution.name = call.name := by
  unfold execute at h
  split at h
  · cases h
  · rw [bind_eq_ok_iff] at h
    obtain ⟨ran, -, hexecution⟩ := h
    rw [← Except.ok.inj hexecution]

variable {toolCalls : List ToolExecution} {name : String}

theorem toolResult_of_first
    (h : toolCalls.find? (fun execution => execution.name = name ∧ isDict execution.result) = some execution) :
    toolResult toolCalls name = toolResult [execution] name := by
  have hself : [execution].find? (fun execution => execution.name = name ∧
      isDict execution.result) = some execution := by
    rw [List.find?_singleton]
    exact if_pos (List.find?_some h)
  unfold toolResult
  rw [h, hself]

theorem toolResult_of_none
    (h : toolCalls.find? (fun execution => execution.name = name ∧ isDict execution.result) = none) :
    toolResult toolCalls name = [] := by
  unfold toolResult
  rw [h]

/-- The evidence is that of the first execution. -/
theorem Gated.evidence_iff (h : c.Gated) (toolCalls : List ToolExecution) :
    c.evidence toolCalls = .ok true ↔ ∃ execution, toolCalls.find? (fun execution =>
      execution.name = c.toolName ∧ isDict execution.result) = some execution ∧
        c.evidence [execution] = .ok true := by
  obtain ⟨supports, hempty, hevidence⟩ := h.evidence_eq
  cases hfirst : toolCalls.find? (fun execution => execution.name = c.toolName ∧
      isDict execution.result) with
  | none =>
    rw [hevidence, toolResult_of_none hfirst, hempty]
    simp
  | some execution =>
    rw [hevidence, toolResult_of_first hfirst, ← hevidence]
    simp

theorem checkExecutive_iff (answer : Value) (toolCalls : List ToolExecution) :
    checkExecutive true answer toolCalls = .ok () ↔
      ∃ said, answerField answer "conclusion" = .ok said ∧
        ∀ execution ∈ toolCalls, CitedBy said.toText execution := by
  unfold checkExecutive
  rw [if_pos rfl, bind_eq_ok_iff]
  simp only [accepts_iff]

theorem enforce_eq_escalation_iff (h : c.Gated) (criticPassed : Bool) (actionType : Value) :
    enforceCriticVerdict criticPassed
        (if actionType = .str c.escalation then c.escalation else c.safe) c.safe = c.escalation ↔
      criticPassed = true ∧ actionType = .str c.escalation := by
  have hne := h.escalation_ne
  unfold enforceCriticVerdict
  by_cases haction : actionType = .str c.escalation
  · rw [if_pos haction]
    cases criticPassed with
    | true => simp [haction]
    | false => simp [hne, hne.symm]
  · rw [if_neg haction, if_pos (.inr rfl)]
    simp [hne.symm, haction]

/-- **The gate.** The riskier action is routed exactly when the model proposes it and the first
result of the tool supports it. -/
theorem route_eq_escalation_iff (h : c.Gated)
    (criticResponses executiveResponses : ℕ → Except Exc Message) :
    c.route criticResponses executiveResponses = .ok c.escalation ↔
      ∃ toolCalls criticAnswer executiveAnswer,
        c.Proposes criticResponses executiveResponses toolCalls criticAnswer executiveAnswer ∧
          c.evidence toolCalls = .ok true := by
  unfold route
  simp only [bind_eq_ok_iff, Except.ok.injEq, enforce_eq_escalation_iff h,
    serverVerifiedCriticPassed, Bool.and_eq_true]
  constructor
  · rintro ⟨⟨criticAnswer, toolCalls⟩, hcritic, conclusion, hconclusion, ⟨⟩, hgrounded,
      ⟨executiveAnswer, others⟩, hexecutive, reported, hreported, supported, hsupported, ⟨⟩, hchecked,
      actionType, haction, ⟨hpassed, hsupports⟩, rfl⟩
    subst hsupports
    rw [hpassed, Bool.and_self, checkExecutive_iff] at hchecked
    exact ⟨toolCalls, criticAnswer, executiveAnswer,
      ⟨hcritic, ⟨conclusion, hconclusion, (accepts_iff _ _).mp hgrounded⟩, ⟨others, hexecutive⟩,
        ⟨reported, hreported, hpassed⟩, hchecked, haction⟩, hsupported⟩
  · rintro ⟨toolCalls, criticAnswer, executiveAnswer, hproposes, hsupported⟩
    obtain ⟨conclusion, hconclusion, hcited⟩ := hproposes.cited
    obtain ⟨others, hexecutive⟩ := hproposes.executive
    obtain ⟨reported, hreported, hpassed⟩ := hproposes.passed
    refine ⟨(criticAnswer, toolCalls), hproposes.critic, conclusion, hconclusion, (),
      (accepts_iff _ _).mpr hcited, (executiveAnswer, others), hexecutive, reported, hreported, true,
      hsupported, (), ?_, .str c.escalation, hproposes.action, ⟨hpassed, rfl⟩, rfl⟩
    rw [hpassed, Bool.and_self, checkExecutive_iff]
    exact hproposes.repeated

/-- A call with the arguments that the cascade asks for gives the cascade's own evidence. -/
theorem own_of_asked (h : c.Gated) (hlooks : c.LooksAt toolCalls call execution)
    (hevidence : c.evidence [execution] = .ok true) (hasked : call.arguments = c.asked) :
    c.Own := by
  obtain ⟨n, hran⟩ := hlooks.ran
  have hname : call.name = c.toolName := by
    have hfound := List.find?_some hlooks.first
    simp only [decide_eq_true_eq] at hfound
    rw [← hfound.1, name_of_execute hran]
  refine ⟨execution, ?_, hevidence⟩
  obtain ⟨id, name, arguments⟩ := call
  dsimp only at hname hasked
  subst hname hasked
  rw [← h.pure n 0 c.asked id "asked"]
  exact hran

end AgenticCascade

/-! ## The three cascades are gated -/

namespace AgentWiring

variable (w : AgentWiring)

/-- A tool of the three is looked up under its name. -/
theorem execute_of_get {registry : PlatformToolRegistry} {name : String} {tool : PlatformTool}
    {call : List (String × Value) → Except Exc (List (String × Value) × Value)}
    (hget : registry.get? name = some tool) (hcall : ∀ n, tool.call n = call) (tenantId : String)
    (n m : ℕ) (arguments : List (String × Value)) (id id' : String) :
    execute registry tenantId n ⟨id, name, arguments⟩ =
      execute registry tenantId m ⟨id', name, arguments⟩ := by
  unfold execute
  dsimp only
  rw [hget]
  dsimp only
  rw [hcall n, hcall m]

theorem gated_cascadeOf {payload : List (String × Value)} {track : Track} {c : AgenticCascade}
    (h : w.cascadeOf payload track = .ok c) : c.Gated := by
  unfold cascadeOf at h
  obtain ⟨scenario, -, h⟩ := bind_eq_ok_iff.mp h
  cases track with
  | golden =>
    cases h
    have hget : (platformTools w.context w.others).get? "simulate_markdown" =
        some ⟨["sku", "discount_pct"], fun _ => callSimulateMarkdown w.context⟩ := by
      rw [platformTools, Dict.get?_set_ne _ (by decide), Dict.get?_set_ne _ (by decide),
        Dict.get?_set_self]
    exact ⟨by simp [goldenCascade], ⟨profitIsPositive, rfl, fun _ => rfl⟩,
      execute_of_get hget (fun _ => rfl) w.tenantId⟩
  | sales =>
    obtain ⟨amount, -, h⟩ := bind_eq_ok_iff.mp h
    cases h
    have hget : (platformTools w.context w.others).get? "check_price_integrity" =
        some ⟨["sku", "observed_unit_price"], fun _ => callPriceIntegrity w.context⟩ := by
      rw [platformTools, Dict.get?_set_self]
    exact ⟨by simp [salesCascade], ⟨priceIsClean, rfl, fun _ => rfl⟩,
      execute_of_get hget (fun _ => rfl) w.tenantId⟩
  | coldChain =>
    obtain ⟨outageHours, -, h⟩ := bind_eq_ok_iff.mp h
    obtain ⟨averageTempC, -, h⟩ := bind_eq_ok_iff.mp h
    cases h
    have hget : (platformTools w.context w.others).get? "get_cold_chain_status" =
        some ⟨["area", "outage_hours", "average_temp_c"],
          fun _ => callColdChainStatus w.context⟩ := by
      rw [platformTools, Dict.get?_set_ne _ (by decide), Dict.get?_set_self]
    exact ⟨by simp [coldChainCascade], ⟨riskIsHigh, rfl, fun _ => rfl⟩,
      execute_of_get hget (fun _ => rfl) w.tenantId⟩

/-- An action that passes is supported by the tool on the cascade's own arguments. -/
def EscalationBound (payload : List (String × Value)) (track : Track)
    (criticResponses executiveResponses : ℕ → Except Exc Message) : Prop :=
  ∀ c, w.cascadeOf payload track = .ok c →
    c.route criticResponses executiveResponses = .ok c.escalation → c.Own

/-- The model does not propose the riskier action on a result that supports it and that comes from
other arguments than the cascade asks for, unless those would support it too. -/
def AsksAsTold (payload : List (String × Value)) (track : Track)
    (criticResponses executiveResponses : ℕ → Except Exc Message) : Prop :=
  ∀ c, w.cascadeOf payload track = .ok c → ∀ toolCalls criticAnswer executiveAnswer,
    c.Proposes criticResponses executiveResponses toolCalls criticAnswer executiveAnswer →
      ∀ call execution, c.LooksAt toolCalls call execution → call.arguments ≠ c.asked →
        c.evidence [execution] = .ok true → c.Own

end AgentWiring

/-- **Escalation is bound to the subject.** For every behaviour of the model, the action that the
cascade routes is supported by the tool on the cascade's own arguments exactly when the model does
not get it past the gate with a call on other arguments. -/
theorem escalation_bound_iff (w : AgentWiring) (payload : List (String × Value))
    (track : AgentWiring.Track) (criticResponses executiveResponses : ℕ → Except Exc Message) :
    w.EscalationBound payload track criticResponses executiveResponses ↔
      w.AsksAsTold payload track criticResponses executiveResponses := by
  constructor
  · intro h c hc toolCalls criticAnswer executiveAnswer hproposes call execution hlooks _ hevidence
    have hgated := w.gated_cascadeOf hc
    refine h c hc ((AgenticCascade.route_eq_escalation_iff hgated _ _).mpr
      ⟨toolCalls, criticAnswer, executiveAnswer, hproposes, ?_⟩)
    exact (hgated.evidence_iff toolCalls).mpr ⟨execution, hlooks.first, hevidence⟩
  · intro h c hc hroute
    have hgated := w.gated_cascadeOf hc
    obtain ⟨toolCalls, criticAnswer, executiveAnswer, hproposes, hsupports⟩ :=
      (AgenticCascade.route_eq_escalation_iff hgated _ _).mp hroute
    obtain ⟨execution, hfirst, hevidence⟩ := (hgated.evidence_iff toolCalls).mp hsupports
    have hgenuine : c.critic.Genuine toolCalls := RunRequest.genuine_runMessages hproposes.critic
    obtain ⟨n, call, hran⟩ := hgenuine execution (List.mem_of_find?_eq_some hfirst)
    have hlooks : c.LooksAt toolCalls call execution := ⟨hfirst, n, hran⟩
    by_cases hasked : call.arguments = c.asked
    · exact AgenticCascade.own_of_asked hgated hlooks hevidence hasked
    · exact h c hc toolCalls criticAnswer executiveAnswer hproposes call execution hlooks hasked
        hevidence

/-- A product at the till. -/
def tillScenario : ScenarioFacts where
  sku := "4011"
  productName := "yoghurt"
  category := "dairy"
  location := "store_a"
  unitsOnHand := 40
  daysToExpiry := 3
  recentDailyUnits := [.finite false 6 0, .finite false 7 0, .finite false 8 0]
  unitCost := ⟨2100, "ZAR"⟩
  unitPrice := ⟨3899, "ZAR"⟩

/-- The price the cascade asks about, a fifth above the catalogue. -/
def tillPrice : PyFloat := ⟨.finite (6585107080145797 / 140737488355328), "46.79"⟩

/-- What the critic writes. -/
def criticText : String :=
  "\x7b\"conclusion\": \"Charged 38.99, as listed.\", \"confidence\": 0.9, " ++
    "\"critic_passed\": true, \"requires_human_review\": false\x7d"

/-- What the executive writes. -/
def executiveText : String :=
  "\x7b\"conclusion\": \"Charged 38.99, so record it.\", \"confidence\": 0.9, " ++
    "\"recommended_action_type\": \"record_sale\"\x7d"

/-- The cascades at this till. -/
def tillWiring : AgentWiring where
  context := ⟨fun _ => .ok tillScenario, fun n => ⟨.finite n, toString n ++ ".0"⟩⟩
  others := Dict.empty
  tenantId := "shop"
  text := ⟨fun _ => none, fun _ => [], fun _ => [], fun _ => true⟩
  maxModelCalls := 4
  precheck := .ok ()
  criticAnswer := fun s =>
    if s = criticText then
      .ok (.dict [("conclusion", .str "Charged 38.99, as listed."),
        ("confidence", .float ⟨.finite (8106479329266893 / 9007199254740992), "0.9"⟩),
        ("critic_passed", .bool true), ("requires_human_review", .bool false)])
    else .error (finalAnswerError "final answer is not valid JSON")
  executiveAnswer := fun s =>
    if s = executiveText then
      .ok (.dict [("conclusion", .str "Charged 38.99, so record it."),
        ("confidence", .float ⟨.finite (8106479329266893 / 9007199254740992), "0.9"⟩),
        ("recommended_action_type", .str "record_sale")])
    else .error (finalAnswerError "final answer is not valid JSON")
  ensureEnglish := fun _ => .ok ()
  toFloat := fun _ => .error (.typeError "float() argument must be a string or a real number")
  deviatingPrice := fun _ => tillPrice

/-- The critic calls the tool without a price, so that the catalogue is compared with itself. -/
def tillCritic : ℕ → Except Exc Message
  | 0 => .ok [("role", .str "assistant"), ("tool_calls", .list [.dict [("id", .str "call_a"),
      ("function", .dict [("name", .str "check_price_integrity"), ("arguments", .dict [])])]])]
  | _ => .ok [("role", .str "assistant"), ("content", .str criticText)]

/-- The executive records the sale. -/
def tillExecutive : ℕ → Except Exc Message := fun _ =>
  .ok [("role", .str "assistant"), ("content", .str executiveText)]

/-- What the tool says of the price the cascade asks about. -/
def tillExecution : ToolExecution where
  name := "check_price_integrity"
  arguments := [("sku", .str "4011"), ("observed_unit_price", .float tillPrice)]
  result := .dict [("sku", .str "4011"), ("observed_unit_price", .str "46.79"),
    ("catalog_unit_price", .str "38.99"), ("price_delta", .str "7.80"),
    ("velocity_anomaly", .bool false), ("method", .str "catalog_price_integrity")]

/-- The sale is recorded, though its price is a fifth above the catalogue. -/
theorem escalation_without_price :
    ¬ ∀ payload track criticResponses executiveResponses,
      tillWiring.EscalationBound payload track criticResponses executiveResponses := by
  intro h
  have hroute : (tillWiring.salesCascade tillScenario tillPrice).route tillCritic tillExecutive =
      .ok "record_sale" := by decide +kernel
  have hasked : execute (platformTools tillWiring.context Dict.empty) "shop" 0
      ⟨"asked", "check_price_integrity",
        [("sku", .str "4011"), ("observed_unit_price", .float tillPrice)]⟩ = .ok tillExecution := by
    decide +kernel
  obtain ⟨execution, hran, hevidence⟩ := h [] .sales tillCritic tillExecutive
    (tillWiring.salesCascade tillScenario tillPrice) rfl hroute
  have hsame : tillExecution = execution := Except.ok.inj (hasked.symm.trans hran)
  rw [← hsame] at hevidence
  revert hevidence
  decide +kernel

end ShelfWise.Agentic
