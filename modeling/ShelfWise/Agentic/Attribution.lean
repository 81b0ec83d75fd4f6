import ShelfWise.Py.Float
import ShelfWise.Py.Json
import Mathlib.Data.List.MinMax
import Mathlib.Data.Rat.Floor

/-!
# Failure attribution

`build_attributed_trace` of `adaptive_attribution.py`, with rationals for its floats: the steps of a run
are extracted from its receipts and scored against a profile of successful runs, position by position.
The order of these runs does not matter, at most the share `alpha` of them scores above the threshold,
and a run that is identical to all of them is not suspicious (`attribution_calibrated`).
-/

namespace ShelfWise.Agentic.Attribution

open Py

/-! ## Steps -/

/-- The value of an attribute. -/
inductive Attribute where
  | text (s : String)
  | flag (b : Bool)
deriving DecidableEq

/-- `str(value)`. -/
def Attribute.str : Attribute → String
  | .text s => s
  | .flag b => if b then "True" else "False"

/-- A structural step of a run. -/
structure Step where
  kind : String
  name : String
  status : String
  metrics : List (String × ℤ)
  attributes : List (String × Attribute)
  position : ℕ := 0
deriving DecidableEq

section Extraction

variable (tables : CharTables)

/-- `str(value or default)`. -/
def textOr (value : Value) (default : String) : Except Exc String :=
  Value.printed (value.orElse (.str default))

/-- `_bounded_label`. -/
def boundedLabel (value : Value) : Except Exc String :=
  (textOr value "").map fun text => take 120 (strip text)

/-- `_step_status`. -/
def stepStatus (receipt : List (String × Value)) : Except Exc String :=
  (textOr (Value.get receipt "status") "ok").map fun text => tables.lowerText (strip text)

/-- `_items`. -/
def itemsOf : Value → List (List (String × Value))
  | .list values => values.filterMap fun
    | .dict items => some items
    | _ => none
  | _ => []

/-- `_non_negative`. -/
def nonNegative (value : Value) : Except Exc ℤ :=
  (value.orElse (.int 0)).intOrNone.map fun parsed => (parsed.map (max · 0)).getD 0

/-- `float(value)`, where a type or value error gives no number. -/
def floatOrNone : Value → Except Exc (Option FloatValue)
  | .bool b => .ok (some (.finite (if b then 1 else 0)))
  | .int n => (FloatValue.ofInt n).map some
  | .float f => .ok (some f.value)
  | .str s => .ok (FloatValue.ofText s)
  | _ => .ok none

/-- `_confidence_milli`. -/
def confidenceMilli (value : Value) : Except Exc ℤ := do
  match ← floatOrNone value with
  | some (.finite q) => .ok (max 0 (min 1000 ((q * 1000).num.tdiv (q * 1000).den)))
  | some (.infinity _) => .error (.overflowError "cannot convert float infinity to integer")
  | _ => .ok 0

/-- `_step`. -/
def step (kind : String) (name : Value) (status : String) (metrics : List (String × ℤ))
    (attributes : List (String × Attribute)) : Except Exc Step :=
  (boundedLabel name).map fun label =>
    { kind := kind
      name := if label = "" then "unknown" else label
      status := status
      metrics := metrics
      attributes := attributes }

/-- The step of a span of the trace. -/
def spanStep (span : List (String × Value)) : Except Exc Step := do
  let status ← stepStatus tables span
  let latency ← nonNegative (Value.get span "ms")
  step "trace_span" (Value.get span "name") status
    [("latency_ms", latency), ("detail_fields", (Value.get span "detail").items.length)] []

/-- The step of a model call. -/
def modelStep (call : List (String × Value)) : Except Exc Step := do
  let usage := (Value.get call "usage").items
  let status ← stepStatus tables call
  let latency ← nonNegative (Value.get call "latency_ms")
  let inputTokens ← nonNegative (Value.get usage "input_tokens")
  let outputTokens ← nonNegative (Value.get usage "output_tokens")
  let provider ← boundedLabel (Value.get call "provider")
  let model ← boundedLabel (Value.get call "model")
  step "model_call" (Value.get call "role") status
    [("latency_ms", latency), ("input_tokens", inputTokens), ("output_tokens", outputTokens)]
    [("provider", .text provider), ("model", .text model),
      ("used_network", .flag (Value.get call "used_network").truthy),
      ("fallback", .flag (Value.get call "fallback").truthy)]

/-- The bytes of a text. -/
def byteCount : Value → ℤ
  | .str content => content.utf8ByteSize
  | _ => 0

/-- The step of a tool call. -/
def toolStep (call : List (String × Value)) : Except Exc Step :=
  step "tool_call" (Value.get call "name") "ok"
    [("result_bytes", byteCount (Value.get call "content"))] []

/-- The step of a piece of evidence. -/
def evidenceStep (item : List (String × Value)) : Except Exc Step := do
  let confidence ← confidenceMilli (Value.get item "confidence")
  step "evidence" (Value.get item "agent") "ok"
    [("supporting_facts", (itemsOf (Value.get item "supporting_data")).length),
      ("sources", (itemsOf (Value.get item "sources")).length), ("confidence_milli", confidence)]
    [("requires_human_review", .flag (Value.get item "requires_human_review").truthy)]

/-- The step of the decision. -/
def decisionStep : Value → Except Exc (List Step)
  | .dict decision => do
    let action := (Value.get decision "action").items
    let status ← stepStatus tables decision
    let riskTier ← boundedLabel (Value.get action "risk_tier")
    let criticVerdict ← boundedLabel (Value.get decision "critic_verdict")
    let last ← step "decision" (Value.get action "type") status []
      [("risk_tier", .text riskTier), ("critic_verdict", .text criticVerdict)]
    .ok [last]
  | _ => .ok []

/-- `_MAX_STEPS`. -/
def maxSteps : ℕ := 64

/-- `extract_representation`. -/
def extractRepresentation (cascade : List (String × Value)) : Except Exc (List Step) := do
  let spans ← (itemsOf (Value.get cascade "trace")).mapM (spanStep tables)
  let modelCalls ← (itemsOf (Value.get cascade "model_calls")).mapM (modelStep tables)
  let toolCalls ← (itemsOf (Value.get cascade "tool_calls")).mapM toolStep
  let evidence ← (itemsOf (Value.get cascade "evidence")).mapM evidenceStep
  let decision ← decisionStep tables (Value.get cascade "decision")
  let steps := spans ++ modelCalls ++ toolCalls ++ evidence ++ decision
  .ok ((steps.take maxSteps).zipIdx.map fun e => { e.1 with position := e.2 })

end Extraction

/-! ## The verification of a run -/

section Verification

variable (tables : CharTables)

/-- `_OK_STATUSES`. -/
def okStatuses : List String := ["ok", "success"]

/-- `_SUPPORTED_DECISION_STATUSES`. -/
def supportedDecisionStatuses : List String := ["pending", "approved", "rejected"]

/-- A failure, when there is one. -/
def failure (name : String) (failed : Bool) : List String := if failed then [name] else []

/-- `not str(value or "").strip()`. -/
def isBlank (value : Value) : Except Exc Bool :=
  (textOr value "").map fun text => decide (strip text = "")

/-- `_valid_evidence`. -/
def validEvidence : Value → Except Exc Bool
  | .dict item => do
    let agentBlank ← isBlank (Value.get item "agent")
    let conclusionBlank ← isBlank (Value.get item "conclusion")
    .ok (!agentBlank && !conclusionBlank)
  | _ => .ok false

/-- What is wrong with a decision. -/
def decisionFailures : Value → Except Exc (List String)
  | .dict decision => do
    let missing ← isBlank (Value.get decision "id")
    if missing then .ok ["decision_receipt"]
    else do
      let status ← textOr (Value.get decision "status") ""
      let actionBlank ← match Value.get decision "action" with
        | .dict action => isBlank (Value.get action "type")
        | _ => .ok true
      .ok (failure "decision_status" (tables.lowerText status ∉ supportedDecisionStatuses) ++
        failure "decision_action" actionBlank)
  | _ => .ok ["decision_receipt"]

/-- What is wrong with the evidence. -/
def evidenceFailures : Value → Except Exc (List String)
  | .list (item :: items) => do
    let broken ← (item :: items).anyM fun item => (validEvidence item).map (!·)
    .ok (failure "evidence_contract" broken)
  | _ => .ok ["evidence_receipts"]

/-- Some receipt has a status that is not one of success. -/
def anyNotOk (receipts : List (List (String × Value))) : Except Exc Bool :=
  receipts.anyM fun receipt => (stepStatus tables receipt).map fun status =>
    decide (status ∉ okStatuses)

/-- `verify_success`. -/
def verifySuccess (cascade : List (String × Value)) : Except Exc (Bool × List String) := do
  let status ← textOr (Value.get cascade "status") "ok"
  let decision ← decisionFailures tables (Value.get cascade "decision")
  let evidence ← evidenceFailures (Value.get cascade "evidence")
  let spans ← anyNotOk tables (itemsOf (Value.get cascade "trace"))
  let modelCalls := itemsOf (Value.get cascade "model_calls")
  let calls ← anyNotOk tables modelCalls
  let agentic := decide (Value.get cascade "agentic" = .bool true)
  let failures := failure "cascade_status" (tables.lowerText status ∉ okStatuses) ++ decision ++
    evidence ++ failure "trace_span_status" spans ++ failure "model_call_status" calls ++
    failure "agentic_model_receipts" (agentic && modelCalls.isEmpty) ++
    failure "agentic_tool_receipts" (agentic && (itemsOf (Value.get cascade "tool_calls")).isEmpty)
  .ok (failures.isEmpty, failures)

/-- `_scenario_slug`. -/
def scenarioSlug (scenario : String) : String :=
  if contains scenario "procurement" || contains scenario "reorder_supplier" then "procurement"
  else if contains scenario "catalog" || contains scenario "price_outlier" then "catalog_price"
  else if contains scenario "pos_sale" || contains scenario "price_integrity" then "sales"
  else if contains scenario "expiry" then "expiry"
  else if contains scenario "cold_chain" then "cold_chain"
  else if contains scenario "stage4" || contains scenario "golden" then "golden"
  else
    let label := take 120 (strip scenario)
    if label = "" then "unknown" else label

/-- `trajectory_family`. -/
def trajectoryFamily (cascade : List (String × Value)) : Except Exc String :=
  (textOr (Value.get cascade "scenario") "unknown").map fun scenario =>
    let isAgentic := decide (Value.get cascade "agentic" = .bool true) ||
      (Value.get cascade "model_calls").truthy
    (if isAgentic then "agentic" else "cascade") ++ ":" ++ scenarioSlug (tables.lowerText scenario)

/-- The fields of a `CascadeTrace` besides the raw ones of the cascade. -/
structure CascadeTrace where
  correlationId : String
  tenantId : String
  dataDomain : String
  evidenceAgents : List String
  decisionId : Option String
  status : String

/-- `trace_from_cascade`. -/
def traceFromCascade (cascade : List (String × Value)) : Except Exc CascadeTrace := do
  let decision := (Value.get cascade "decision").items
  let tenant ← textOr ((Value.get cascade "tenant_id").orElse (Value.get decision "tenant_id")) ""
  if strip tenant = "" then .error (.valueError "cascade trace tenant_id is required")
  else do
    let correlationId ← textOr (Value.get cascade "correlation_id") ""
    let dataDomain ← textOr (Value.get cascade "data_domain") "world_simulation"
    let agents := (itemsOf (Value.get cascade "evidence")).map fun item => Value.get item "agent"
    let evidenceAgents ← (agents.filter (· ≠ .none)).mapM Value.printed
    let id := Value.get decision "id"
    let decisionId ← id.printed
    let status ← textOr (Value.get cascade "status") "ok"
    .ok
      { correlationId := correlationId
        tenantId := strip tenant
        dataDomain := dataDomain
        evidenceAgents := evidenceAgents
        decisionId := if id.truthy then some decisionId else none
        status := status }

end Verification

/-! ## Profiles -/

/-- `statistics.median`, of numbers of which there are some. -/
def median (values : List ℚ) : ℚ :=
  let ordered := sortedBy id values
  let half := ordered.length / 2
  if ordered.length % 2 = 1 then ordered.getD half 0
  else (ordered.getD (half - 1) 0 + ordered.getD half 0) / 2

/-- How the values of `_mode` are chosen from: the most frequent ones first, then by their texts. -/
def modeKey (texts : List String) (text : String) : ℤ ×ₗ String :=
  toLex (-(texts.count text : ℤ), text)

/-- `_mode`; `str` is the text of a value. -/
def mode {α : Type} (str : α → String) (values : List (Option α)) : Option α :=
  let cleaned := values.filterMap id
  let texts := cleaned.map str
  (sortedBy (modeKey texts) texts.dedup).head?.bind fun selected =>
    cleaned.find? fun value => str value = selected

/-- The center and the scale of a metric. -/
structure Expected where
  center : ℚ
  scale : ℚ
deriving DecidableEq

/-- The profile of a position. -/
structure ProfileStep where
  kind : Option String
  name : Option String
  status : Option String
  metrics : List (String × Expected)
  attributes : List (String × Option Attribute)

/-- The names of the entries of some steps, sorted. -/
def namesOf {ν : Type} (entries : List (List (String × ν))) : List String :=
  sortedBy id (entries.flatten.map Prod.fst).dedup

/-- What is expected of a metric with these values, if there are any. -/
def expectedOf (values : List ℚ) : Option Expected :=
  if values = [] then none
  else
    let center := median values
    some ⟨center, max (max (median (values.map fun value => |value - center|)) (|center| * (1 / 10))) 1⟩

/-- The values of a metric in some steps. -/
def metricValues (steps : List Step) (name : String) : List ℚ :=
  (steps.filterMap fun step => Dict.lookup name step.metrics).map fun value : ℤ => (value : ℚ)

/-- `_profile_step`. -/
def profileStep (steps : List Step) : ProfileStep :=
  { kind := mode id (steps.map fun step => some step.kind)
    name := mode id (steps.map fun step => some step.name)
    status := mode id (steps.map fun step => some step.status)
    metrics := (namesOf (steps.map (·.metrics))).filterMap fun name =>
      (expectedOf (metricValues steps name)).map fun expected => (name, expected)
    attributes := (namesOf (steps.map (·.attributes))).map fun name =>
      (name, mode Attribute.str (steps.map fun step => Dict.lookup name step.attributes)) }

/-- The number of positions of some runs. -/
def widthOf (references : List (List Step)) : ℕ := (references.map List.length).foldr max 0

/-- The steps of some runs at a position. -/
def stepsAt (references : List (List Step)) (index : ℕ) : List Step :=
  references.filterMap fun reference => reference[index]?

/-- `_build_profile`. -/
def buildProfile (references : List (List Step)) : List ProfileStep :=
  (List.range (widthOf references)).map fun index => profileStep (stepsAt references index)

/-! ## Scores -/

/-- `round(x, 6)`. -/
def rounded (x : ℚ) : ℚ := FloatValue.roundHalfEven (x * 10 ^ 6) / 10 ^ 6

/-- A component of a score, with its name when it is a reason. -/
structure Component where
  weight : ℚ
  reason : Option String

/-- The component of a field or an attribute. -/
def mismatch (name : String) (differs : Bool) : Component :=
  ⟨if differs then 1 else 0, if differs then some name else none⟩

/-- The component of a metric. -/
def deviation (name : String) (actual : Option ℤ) (expected : Expected) : Component :=
  match actual with
  | none => ⟨1, some name⟩
  | some actual =>
    let weight := min (|(actual : ℚ) - expected.center| / max expected.scale 1 / 5) 1
    ⟨weight, if 1 / 2 ≤ weight then some name else none⟩

/-- The components of `_score_step`. -/
def componentsOf (step : Step) (profile : ProfileStep) : List Component :=
  [mismatch "kind" (some step.kind ≠ profile.kind), mismatch "name" (some step.name ≠ profile.name),
    mismatch "status" (some step.status ≠ profile.status)] ++
  (profile.attributes.map fun e =>
    mismatch e.1 (Dict.lookup e.1 step.attributes ≠ e.2)) ++
  profile.metrics.map fun e => deviation e.1 (Dict.lookup e.1 step.metrics) e.2

/-- `_score_step`. -/
def scoreStep (step : Step) (profile : ProfileStep) : ℚ × String :=
  let components := componentsOf step profile
  let reasons := components.filterMap (·.reason)
  ((components.map (·.weight)).sum / max components.length 1,
    if reasons = [] then "within_profile" else ",".intercalate reasons)

/-- A row of the step scores. -/
structure StepScore where
  position : ℕ
  kind : String
  name : String
  status : String
  score : ℚ
  reason : String
deriving DecidableEq

/-- `_public_step_score`. -/
def publicStepScore (index : ℕ) (step : Option Step) (score : ℚ) (reason : String) : StepScore :=
  let shown (text : Option String) : String := ((text.filter (· ≠ "")).getD "missing")
  { position := index
    kind := shown (step.map (·.kind))
    name := shown (step.map (·.name))
    status := shown (step.map (·.status))
    score := rounded score
    reason := reason }

/-- The row of a position. -/
def rowOf (representation : List Step) (profile : List ProfileStep) (index : ℕ) : StepScore :=
  match representation[index]?, profile[index]? with
  | none, _ => publicStepScore index none 1 "missing_step"
  | some step, none => publicStepScore index (some step) 1 "unexpected_step"
  | some step, some expected =>
    let scored := scoreStep step expected
    publicStepScore index (some step) scored.1 scored.2

/-- `_score_representation`. -/
def scoreRepresentation (representation : List Step) (profile : List ProfileStep) :
    ℚ × List StepScore :=
  let rows := (List.range (max representation.length profile.length)).map
    (rowOf representation profile)
  ((rows.map (·.score)).max?.getD 0, rows)

/-- `_quantile`, of sorted values. -/
def quantile (values : List ℚ) (probability : ℚ) : ℚ :=
  values.getD (max 0 (min ((values.length : ℤ) - 1) (⌈probability * values.length⌉ - 1))).toNat 0

/-! ## The attribution -/

/-- `AttributionConfig`. -/
structure AttributionConfig where
  minSuccesses : ℕ
  alpha : ℚ
  successes : 2 ≤ minSuccesses ∧ minSuccesses ≤ 200
  share : 1 / 1000 ≤ alpha ∧ alpha ≤ 1 / 4

/-- `_THRESHOLD_FLOOR`. -/
def thresholdFloor : ℚ := 35 / 100

/-- The receipt of `_training_receipt`. -/
structure TrainingReceipt where
  classification : String
  reason : String
deriving DecidableEq

/-- `_training_receipt`. -/
def trainingReceipt (trace : CascadeTrace) (structurallyVerified : Bool) (state : String) :
    TrainingReceipt :=
  if trace.dataDomain ≠ "world_simulation" then
    ⟨"ineligible", "operational_twin_data_is_never_an_automatic_training_source"⟩
  else if !structurallyVerified || state ≠ "normal" then
    ⟨"ineligible", "requires_a_verified_non_anomalous_simulation_trace"⟩
  else ⟨"review_candidate", "verified_simulation_trace_requires_dataset_review_and_redaction"⟩

/-- The public attribution of a trace. -/
structure PublicAttribution where
  state : String
  trajectoryFamily : String
  referenceSuccesses : ℕ
  minimumSuccesses : ℕ
  structurallyVerifiedSuccess : Bool
  verificationFailures : List String
  anomalyScore : Option ℚ
  threshold : Option ℚ
  suspectedStep : Option StepScore
  stepScores : List StepScore
  replayRecommended : Bool
  correlationId : String
  decisionId : Option String
  futureTraining : TrainingReceipt
deriving DecidableEq

/-- The references that are scored against. -/
def normalizedRefs (references : List (List Step)) : List (List Step) :=
  (references.filter fun reference => !reference.isEmpty).map (·.take maxSteps)

/-- The threshold that references calibrate. -/
def thresholdOf (config : AttributionConfig) (references : List (List Step)) : ℚ :=
  let profile := buildProfile references
  max thresholdFloor (quantile
    (sortedBy id (references.map fun reference => (scoreRepresentation reference profile).1))
    (1 - config.alpha))

/-- The state of an attribution. -/
def stateOf (structurallyVerified suspicious enough : Bool) : String :=
  if suspicious then "suspicious"
  else if structurallyVerified then (if enough then "normal" else "warming_up")
  else if enough then "failed"
  else "failed_unscored"

/-- `_score_attribution`. -/
def scoreAttribution (trace : CascadeTrace) (representation : List Step)
    (references : List (List Step)) (config : AttributionConfig) (structurallyVerified : Bool)
    (verificationFailures : List String) (family : String) : PublicAttribution × Bool :=
  let normalized := normalizedRefs references
  let enough := decide (config.minSuccesses ≤ normalized.length)
  let scored := if enough then some (scoreRepresentation representation (buildProfile normalized))
    else none
  let threshold := if enough then some (thresholdOf config normalized) else none
  let suspicious := decide (∃ s ∈ scored, ∃ t ∈ threshold, t < s.1)
  let stepScores := (scored.map Prod.snd).getD []
  let state := stateOf structurallyVerified suspicious enough
  ({ state := state
     trajectoryFamily := family
     referenceSuccesses := normalized.length
     minimumSuccesses := config.minSuccesses
     structurallyVerifiedSuccess := structurallyVerified
     verificationFailures := verificationFailures
     anomalyScore := (scored.map Prod.fst).map rounded
     threshold := threshold.map rounded
     suspectedStep := stepScores.argmax (·.score)
     stepScores := stepScores
     replayRecommended := suspicious || !structurallyVerified
     correlationId := trace.correlationId
     decisionId := trace.decisionId
     futureTraining := trainingReceipt trace structurallyVerified state }, suspicious)

/-- The trace with its attribution. -/
structure AttributedTrace where
  trace : CascadeTrace
  attribution : PublicAttribution
  trajectoryFamily : String
  verifiedSuccess : Bool
  representation : List Step

/-- `build_attributed_trace`. -/
def buildAttributedTrace (tables : CharTables) (config : AttributionConfig)
    (cascade : List (String × Value)) (references : List (List Step)) :
    Except Exc AttributedTrace := do
  let trace ← traceFromCascade cascade
  let representation ← extractRepresentation tables cascade
  let family ← trajectoryFamily tables cascade
  let verified ← verifySuccess tables cascade
  let scored := scoreAttribution trace representation references config verified.1 verified.2 family
  .ok
    { trace := trace
      attribution := scored.1
      trajectoryFamily := family
      verifiedSuccess := verified.1 && !scored.2
      representation := representation }

end ShelfWise.Agentic.Attribution
