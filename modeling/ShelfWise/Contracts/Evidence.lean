import ShelfWise.Py.Value

/-!
# Evidence and actions

`shelfwise_contracts/__init__.py`: the reference to a source, the action that is recommended and the
evidence of an agent, with the dictionaries they are stored as.
-/

namespace ShelfWise

open Py

/-! ## Sources -/

/-- `SourceRef`. -/
structure SourceRef where
  kind : String
  ref : String
  locator : Option String

/-- `SourceRef.dataset` with a locator. -/
def SourceRef.dataset (ref locator : String) : SourceRef := ⟨"dataset", ref, some locator⟩

/-- `SourceRef.tool`. -/
def SourceRef.tool (ref : String) : SourceRef := ⟨"tool", ref, none⟩

/-- `to_dict` of a source. -/
def SourceRef.toDict (source : SourceRef) : Value :=
  .dict [("kind", .str source.kind), ("ref", .str source.ref),
    ("locator", (source.locator.map Value.str).getD .none)]

/-- `str(source)`. -/
def SourceRef.text (source : SourceRef) : String :=
  let locator := source.locator.getD ""
  if locator = "" then source.ref else source.ref ++ "#" ++ locator

/-! ## Actions -/

/-- `RiskTier`. -/
inductive RiskTier where
  | low
  | medium
  | high
deriving DecidableEq

/-- The value of a risk tier. -/
def RiskTier.value : RiskTier → String
  | .low => "low"
  | .medium => "medium"
  | .high => "high"

/-- `RecommendedAction`. -/
structure RecommendedAction where
  type : String
  params : List (String × Value)
  riskTier : RiskTier

/-- `to_dict` of an action. -/
def RecommendedAction.toDict (action : RecommendedAction) : Value :=
  .dict [("type", .str action.type), ("params", .dict action.params),
    ("risk_tier", .str action.riskTier.value)]

/-! ## Evidence -/

/-- `AgentName`, with the agents that the cascades name. -/
inductive AgentName where
  | inventory
  | coldChain
  | expiry
  | demand
  | opportunity
  | simulation
  | critic
  | executive
deriving DecidableEq

/-- The value of an agent. -/
def AgentName.value : AgentName → String
  | .inventory => "inventory"
  | .coldChain => "cold_chain"
  | .expiry => "expiry"
  | .demand => "demand"
  | .opportunity => "opportunity"
  | .simulation => "simulation"
  | .critic => "critic"
  | .executive => "executive"

/-- `EvidenceObject`. -/
structure EvidenceObject where
  agent : AgentName
  conclusion : String
  supportingData : List Value
  confidence : Decimal
  recommendedAction : RecommendedAction
  sources : List SourceRef
  requiresHumanReview : Bool

/-- `to_dict` of a piece of evidence. -/
def EvidenceObject.toDict (evidence : EvidenceObject) : Value :=
  .dict [("agent", .str evidence.agent.value), ("conclusion", .str evidence.conclusion),
    ("supporting_data", .list evidence.supportingData),
    ("confidence", .str evidence.confidence.str),
    ("recommended_action", evidence.recommendedAction.toDict),
    ("sources", .list (evidence.sources.map SourceRef.toDict)),
    ("requires_human_review", .bool evidence.requiresHumanReview)]

/-- `_supporting_fact` of a value in its text. -/
def supportingFact (fact value source method : String) : Value :=
  .dict [("fact", .str fact), ("value", .str value), ("source", .str source),
    ("method", .str method)]

end ShelfWise
