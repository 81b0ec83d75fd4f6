import ShelfWise.Decisions.Store
import ShelfWise.Py.DecimalContext

/-!
# The learning store

`shelfwise_memory`, the in-memory store: one learning event for each reviewed decision, under its
tenant, its domain and its id, and the threshold of a metric that an approval moves. What is
measured depends on the action of the decision (`routedMetric`, `buildLearningEvent`).

`record_approved_decision` writes the threshold and the event together, and only for a decision
that has no event yet: `recordApprovedDecision_spec` says what it leaves when it is called again and
again for one decision.
-/

namespace ShelfWise.Memory

open Py Decisions

/-- `LearningEvent`. -/
structure LearningEvent where
  id : String
  decisionId : String
  sku : String
  metric : String
  previousThreshold : ℤ
  updatedThreshold : ℤ
  deltaUnits : ℤ
  outcome : List (String × Value)
  message : String
  createdAt : String
  tenantId : String
  dataDomain : String
deriving DecidableEq

/-- `to_dict`. -/
def LearningEvent.toDict (event : LearningEvent) : List (String × Value) :=
  [("id", .str event.id), ("decision_id", .str event.decisionId), ("sku", .str event.sku),
    ("metric", .str event.metric), ("previous_threshold", .int event.previousThreshold),
    ("updated_threshold", .int event.updatedThreshold), ("delta_units", .int event.deltaUnits),
    ("outcome", .dict event.outcome), ("message", .str event.message),
    ("created_at", .str event.createdAt), ("tenant_id", .str event.tenantId),
    ("data_domain", .str event.dataDomain)]

/-- `InMemoryLearningStore`. -/
structure LearningStore where
  thresholds : Dict (String × String × String) ℤ
  events : Dict (String × String × String) LearningEvent

/-! ## Fields of a decision -/

/-- `_int`. -/
def intOf (value : Value) (default : ℤ) : Except Exc ℤ :=
  if value = .none ∨ value = .str "" then .ok default
  else match Decimal.ofText value.toText with
    | none => .error Decimal.invalidOperation
    | some d => do
      let rounded ← d.toIntegralValue
      rounded.toInt

/-- `_tenant_id`. -/
def tenantIdOf (decision : Decision) : String :=
  let tenantId := strip ((Value.get decision "tenant_id").orElse (.str "")).toText
  if tenantId = "" then "default" else tenantId

/-- `_data_domain`. -/
def dataDomainOf (decision : Decision) : Except Exc String :=
  let domain := strip ((Value.get decision "data_domain").orElse (.str "world_simulation")).toText
  if domain = "operational_twin" ∨ domain = "world_simulation" then .ok domain
  else .error (.valueError "learning requires an operational or simulation decision domain")

/-- `value or {}` -/
def orEmpty (value : Value) : Value := value.orElse (.dict [])

/-- `str(value.get(key) or default)`. -/
def textOf (value : Value) (key default : String) : Except Exc String := do
  let field ← value.attrGet key
  .ok (field.orElse (.str default)).toText

/-- `action` and its `params`. -/
def actionOf (decision : Decision) : Except Exc (Value × Value) := do
  let action := orEmpty (Value.get decision "action")
  let params ← action.attrGet "params"
  .ok (action, orEmpty params)

/-- `routed_metric`: the metric and its subject. -/
def routedMetric (decision : Decision) : Except Exc (String × String) := do
  let (action, params) ← actionOf decision
  let actionType ← textOf action "type" ""
  if actionType = "dispatch_facilities_check" then
    let site ← params.attrGet "site_id"
    let asset ← params.attrGet "asset_id"
    let subject := ((site.orElse asset).orElse (.str "site_unknown")).toText
    .ok (subject ++ ":cold_chain_stock_at_risk_minor_units", subject)
  else
    let sku ← textOf params "sku" "unknown"
    if actionType = "review_price_exception" then
      .ok (sku ++ ":price_exception_exposure_minor_units", sku)
    else if actionType = "review_expiry_markdown" then
      .ok (sku ++ ":expiry_review_days_to_expiry", sku)
    else if actionType = "reorder" then
      .ok (sku ++ ":reorder_stockout_exposure_minor_units", sku)
    else .ok (sku ++ ":markdown_sell_through_target_units", sku)

/-! ## Measures -/

/-- `_money_dict`. -/
def moneyDict (minorUnits : ℤ) : Except Exc Value := do
  let hundredth ← Decimal.fix (minorUnits < 0) minorUnits.natAbs (-2)
  let amount ← hundredth.quantize .halfEven (-2)
  .ok (.dict [("minor_units", .int minorUnits), ("currency", .str "ZAR"),
    ("amount", .str amount.str)])

/-- `str(d.quantize(Decimal("0.01")))` of `n / d`, which has few digits. -/
def hundredthsText (n d : ℕ) : String :=
  (Decimal.finite false (Decimal.roundQuotient .halfEven (100 * n) d) (-2)).str

/-- `_uplift_units`. -/
def upliftUnits (predictedUnits : ℤ) : Except Exc ℤ :=
  if predictedUnits ≤ 0 then .ok 0
  else do
    let product ← Decimal.fix false (predictedUnits.natAbs * 12) (-2)
    let rounded ← product.toIntegralValue
    let uplift ← rounded.toInt
    .ok (max 1 uplift)

/-- `_success_score`. -/
def successScore (predictedUnits actualUnits predictedWaste actualWaste : ℤ) :
    Except Exc String := do
  let expected := max (predictedUnits + predictedWaste) 1
  let error := |actualUnits - predictedUnits| + |actualWaste - predictedWaste|
  let quotient ← Decimal.divide error.natAbs expected.natAbs
  let score ← quotient.oneMinus
  let rounded ← (if score.toRat < 0 then Decimal.finite false 0 0 else score).quantize .halfEven (-2)
  .ok rounded.str

/-- What the builders of events share. -/
def eventOf (now : String) (decision : Decision) (subject metric : String)
    (previous updated : ℤ) (outcome : List (String × Value)) (message : String) :
    Except Exc LearningEvent := do
  let dataDomain ← dataDomainOf decision
  .ok
    { id := "learn_" ++ removePrefix (decisionId decision) "dec_"
      decisionId := decisionId decision
      sku := subject
      metric := metric
      previousThreshold := previous
      updatedThreshold := updated
      deltaUnits := updated - previous
      outcome := outcome
      message := message
      createdAt := now
      tenantId := tenantIdOf decision
      dataDomain := dataDomain }

/-- The first exposure that is stated, of the keys of `exposure_keys`. -/
def exposureOf (expected : Value) : List String → Except Exc ℤ
  | [] => .ok 0
  | key :: rest => do
    let value ← expected.attrGet key
    if value = .none then exposureOf expected rest
    else
      let n ← intOf value 0
      .ok |n|

/-- `_exposure_event`. -/
def exposureEvent (now : String) (decision : Decision) (previousThreshold : Option ℤ)
    (metric subject : String) (exposureKeys : List String) (label : String) :
    Except Exc LearningEvent := do
  let expected := orEmpty (Value.get decision "expected_outcome")
  let exposure ← exposureOf expected exposureKeys
  let base := previousThreshold.getD 0
  let updated := max base exposure
  let recovered ← moneyDict exposure
  -- 0.99 minus a 250000th of what counts
  let score := hundredthsText (247500 - (min exposure 200000).natAbs) 250000
  let exposureText ← Value.printInt exposure
  let updatedText ← Value.printInt updated
  eventOf now decision subject metric base updated
    [("measured_minor_units", .int exposure), ("rand_recovered", recovered),
      ("success_score", .str score)]
    (label ++ " for " ++ subject ++ ": measured " ++ exposureText ++ " minor units; " ++
      "largest confirmed is now " ++ updatedText ++ ".")

/-- `_expiry_review_event`. -/
def expiryReviewEvent (now : String) (decision : Decision) (previousThreshold : Option ℤ)
    (metric subject : String) : Except Exc LearningEvent := do
  let expected := orEmpty (Value.get decision "expected_outcome")
  let stated ← expected.attrGet "days_to_expiry"
  let counted ← intOf stated 0
  let days := max counted 0
  let base := previousThreshold.getD 0
  let updated := max base (if 0 < days then days else 1)
  let recovered ← moneyDict 0
  let daysText ← Value.printInt days
  let updatedText ← Value.printInt updated
  eventOf now decision subject metric base updated
    [("days_to_expiry", .int days), ("rand_recovered", recovered),
      ("success_score", .str (hundredthsText (20 - (min days 10).natAbs) 20))]
    ("Expiry review for SKU " ++ subject ++ ": " ++ daysText ++ " day(s) to expiry; " ++
      "review window threshold now " ++ updatedText ++ ".")

/-- `_markdown_learning_event`. -/
def markdownLearningEvent (now : String) (decision : Decision) (previousThreshold : Option ℤ) :
    Except Exc LearningEvent := do
  let (_, params) ← actionOf decision
  let sku ← textOf params "sku" "unknown"
  let expected := orEmpty (Value.get decision "expected_outcome")
  let predictedUnits ← expected.attrGet "predicted_sell_through_units" >>= (intOf · 0)
  let predictedWaste ← expected.attrGet "predicted_waste_units" >>= (intOf · 0)
  let uplift ← upliftUnits predictedUnits
  let actualUnits := predictedUnits + uplift
  let actualWaste := max (predictedWaste - uplift) 0
  let margin ← expected.attrGet "markdown_margin_minor_units" >>= (intOf · 0)
  let expectedRecovered ← expected.attrGet "incremental_profit_minor_units" >>= (intOf · 0)
  let (metric, _) ← routedMetric decision
  let base := previousThreshold.getD predictedUnits
  let updated := max base actualUnits
  let recovered ← moneyDict (expectedRecovered + uplift * margin)
  let score ← successScore predictedUnits actualUnits predictedWaste actualWaste
  let predictedText ← Value.printInt predictedUnits
  let actualText ← Value.printInt actualUnits
  let updatedText ← Value.printInt updated
  eventOf now decision sku metric base updated
    [("units_cleared", .int actualUnits), ("waste_units", .int actualWaste),
      ("rand_recovered", recovered), ("success_score", .str score)]
    ("Threshold adjusted for SKU " ++ sku ++ ": expected " ++ predictedText ++ " units, " ++
      "measured " ++ actualText ++ "; next markdown target is " ++ updatedText ++ ".")

/-- `_build_learning_event`. -/
def buildLearningEvent (now : String) (decision : Decision) (previousThreshold : Option ℤ) :
    Except Exc LearningEvent := do
  let (metric, subject) ← routedMetric decision
  let actionType ← textOf (orEmpty (Value.get decision "action")) "type" ""
  if actionType = "review_price_exception" then
    exposureEvent now decision previousThreshold metric subject ["revenue_exposure_minor_units"]
      "Price-exception exposure"
  else if actionType = "dispatch_facilities_check" then
    exposureEvent now decision previousThreshold metric subject
      ["stock_at_risk_minor_units", "incremental_profit_minor_units"] "Cold-chain stock at risk"
  else if actionType = "review_expiry_markdown" then
    expiryReviewEvent now decision previousThreshold metric subject
  else if actionType = "reorder" then
    exposureEvent now decision previousThreshold metric subject
      ["stockout_exposure_minor_units", "incremental_profit_minor_units"]
      "Reorder stockout exposure avoided"
  else markdownLearningEvent now decision previousThreshold

/-- `_build_rejection_event`. -/
def buildRejectionEvent (now : String) (decision : Decision) : Except Exc LearningEvent := do
  if Value.get decision "status" ≠ .str "rejected" then
    .error (.valueError "rejection learning requires a rejected decision")
  else
    let id := ((Value.get decision "id").orElse (.str "")).toText
    if id = "" then .error (.valueError "decision must include id")
    else
      let action := (Value.get decision "action").items
      let params := (Value.get action "params").items
      let subject := (((Value.get params "sku").orElse (Value.get params "site_id")).orElse
        (.str "unknown")).toText
      let prevented := ((Value.get action "type").orElse (.str "unknown")).toText
      let dataDomain ← dataDomainOf decision
      .ok
        { id := "learn_" ++ removePrefix id "dec_"
          decisionId := id
          sku := subject
          metric := subject ++ ":rejection_outcome"
          previousThreshold := 0
          updatedThreshold := 0
          deltaUnits := 0
          outcome := [("decision_status", .str "rejected"), ("action_prevented", .str prevented)]
          message := "Rejected " ++ prevented ++ " for " ++ subject ++ "; no write-back created."
          createdAt := now
          tenantId := tenantIdOf decision
          dataDomain := dataDomain }

/-! ## The store -/

namespace LearningStore

/-- `record_approved_decision`. -/
def recordApprovedDecision (now : String) (decision : Decision) (s : LearningStore) :
    LearningStore × Except Exc LearningEvent :=
  if Value.get decision "status" ≠ .str "approved" then
    (s, .error (.valueError "learning requires an approved decision"))
  else if decisionId decision = "" then (s, .error (.valueError "decision must include id"))
  else match dataDomainOf decision with
    | .error e => (s, .error e)
    | .ok dataDomain =>
      let tenantId := tenantIdOf decision
      match s.events.get? (tenantId, dataDomain, decisionId decision) with
      | some existing => (s, .ok existing)
      | none => match routedMetric decision with
        | .error e => (s, .error e)
        | .ok (metric, _) =>
          match buildLearningEvent now decision (s.thresholds.get? (tenantId, dataDomain, metric)) with
          | .error e => (s, .error e)
          | .ok event =>
            ({ thresholds := s.thresholds.set (tenantId, dataDomain, metric) event.updatedThreshold
               events := s.events.set (tenantId, dataDomain, decisionId decision) event },
              .ok event)

/-- `record_rejected_decision`. -/
def recordRejectedDecision (now : String) (decision : Decision) (s : LearningStore) :
    LearningStore × Except Exc LearningEvent :=
  match buildRejectionEvent now decision with
  | .error e => (s, .error e)
  | .ok event =>
    match s.events.get? (event.tenantId, event.dataDomain, event.decisionId) with
    | some existing => (s, .ok existing)
    | none =>
      ({ s with events := s.events.set (event.tenantId, event.dataDomain, event.decisionId) event },
        .ok event)

end LearningStore

/-! ## What an event depends on -/

/-- The decisions agree in what the store reads of a decision, up to its status. -/
structure SameSubject (decision d : Decision) : Prop where
  id : decisionId d = decisionId decision
  tenantId : Value.get d "tenant_id" = Value.get decision "tenant_id"
  dataDomain : Value.get d "data_domain" = Value.get decision "data_domain"
  action : Value.get d "action" = Value.get decision "action"
  expectedOutcome : Value.get d "expected_outcome" = Value.get decision "expected_outcome"

namespace SameSubject

variable {decision d : Decision} (h : SameSubject decision d)
include h

theorem tenantIdOf_eq : tenantIdOf d = tenantIdOf decision := by
  rw [tenantIdOf, tenantIdOf, h.tenantId]

theorem dataDomainOf_eq : dataDomainOf d = dataDomainOf decision := by
  rw [dataDomainOf, dataDomainOf, h.dataDomain]

theorem actionOf_eq : actionOf d = actionOf decision := by
  rw [actionOf, actionOf, h.action]

theorem routedMetric_eq : routedMetric d = routedMetric decision := by
  rw [routedMetric, routedMetric, h.actionOf_eq]

theorem eventOf_eq (now subject metric : String) (previous updated : ℤ)
    (outcome : List (String × Value)) (message : String) :
    eventOf now d subject metric previous updated outcome message =
      eventOf now decision subject metric previous updated outcome message := by
  rw [eventOf, eventOf, h.dataDomainOf_eq, h.tenantIdOf_eq, h.id]

theorem exposureEvent_eq (now : String) (previous : Option ℤ) (metric subject : String)
    (keys : List String) (label : String) :
    exposureEvent now d previous metric subject keys label =
      exposureEvent now decision previous metric subject keys label := by
  simp only [exposureEvent, h.expectedOutcome, h.eventOf_eq]

theorem expiryReviewEvent_eq (now : String) (previous : Option ℤ) (metric subject : String) :
    expiryReviewEvent now d previous metric subject =
      expiryReviewEvent now decision previous metric subject := by
  simp only [expiryReviewEvent, h.expectedOutcome, h.eventOf_eq]

theorem markdownLearningEvent_eq (now : String) (previous : Option ℤ) :
    markdownLearningEvent now d previous = markdownLearningEvent now decision previous := by
  simp only [markdownLearningEvent, h.expectedOutcome, h.actionOf_eq, h.routedMetric_eq,
    h.eventOf_eq]

/-- The event is the same for decisions that agree. -/
theorem buildLearningEvent_eq (now : String) (previous : Option ℤ) :
    buildLearningEvent now d previous = buildLearningEvent now decision previous := by
  simp only [buildLearningEvent, h.routedMetric_eq, h.action, h.exposureEvent_eq,
    h.expiryReviewEvent_eq, h.markdownLearningEvent_eq]

end SameSubject

/-! ## One recording -/

/-- The event of a decision has been recorded over a store that had none of it. -/
def Recorded (decision : Decision) (before : LearningStore) (event : LearningEvent)
    (after : LearningStore) : Prop :=
  ∃ now domain metric subject, dataDomainOf decision = .ok domain ∧
    routedMetric decision = .ok (metric, subject) ∧
    buildLearningEvent now decision
      (before.thresholds.get? (tenantIdOf decision, domain, metric)) = .ok event ∧
    after = ⟨before.thresholds.set (tenantIdOf decision, domain, metric) event.updatedThreshold,
      before.events.set (tenantIdOf decision, domain, decisionId decision) event⟩

/-- Recording an approved decision raises and changes nothing, or it records the event; a decision
whose event is recorded is answered with it. -/
theorem recordApprovedDecision_spec {decision d : Decision} (h : SameSubject decision d)
    {before s : LearningStore}
    (hnew : ∀ domain, before.events.get? (tenantIdOf decision, domain, decisionId decision) = none)
    (hs : s = before ∨ ∃ event, Recorded decision before event s) (now : String) :
    (∃ e, s.recordApprovedDecision now d = (s, .error e)) ∨
      ∃ event s', s.recordApprovedDecision now d = (s', .ok event) ∧
        Recorded decision before event s' := by
  unfold LearningStore.recordApprovedDecision
  split
  · exact .inl ⟨_, rfl⟩
  split
  · exact .inl ⟨_, rfl⟩
  rw [h.dataDomainOf_eq, h.tenantIdOf_eq, h.id]
  cases hdomain : dataDomainOf decision with
  | error e => exact .inl ⟨_, rfl⟩
  | ok domain =>
    dsimp only
    rcases hs with rfl | ⟨event, hrecorded⟩
    · rw [hnew domain, h.routedMetric_eq]
      dsimp only
      cases hmetric : routedMetric decision with
      | error e => exact .inl ⟨_, rfl⟩
      | ok routed =>
        obtain ⟨metric, subject⟩ := routed
        dsimp only
        rw [h.buildLearningEvent_eq]
        cases hevent : buildLearningEvent now decision
            (s.thresholds.get? (tenantIdOf decision, domain, metric)) with
        | error e => exact .inl ⟨_, rfl⟩
        | ok event =>
          exact .inr ⟨event, _, rfl, now, domain, metric, subject, hdomain, hmetric, hevent, rfl⟩
    · obtain ⟨now', domain', metric, subject, hdomain', hmetric, hevent, rfl⟩ := hrecorded
      rw [hdomain] at hdomain'
      cases hdomain'
      rw [Dict.get?_set_self]
      exact .inr ⟨event, _, rfl, now', domain, metric, subject, hdomain, hmetric, hevent, rfl⟩

end ShelfWise.Memory
