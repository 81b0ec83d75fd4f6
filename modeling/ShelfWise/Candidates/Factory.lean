import ShelfWise.Candidates.Attention
import ShelfWise.Candidates.Queue

/-!
# The candidates of the attention queue

`generate_fleet_candidates` of `shelfwise_backend/candidate_factory.py`, `_bounded_candidate_mix` and
`product_attention_queue` of `product_catalog.py`: every item that needs attention leads to candidates,
one for each lot that has expired or is about to, and one for each other signal. A candidate is known
by a digest of what it is about.
-/

namespace ShelfWise.Candidates

open Py Sys Connectors

/-! ## The program -/

/-- What candidates take from the library: the hexadecimal SHA-256 digest of a text, and the text of a
double. -/
structure Library where
  sha256Hex : String → String
  floatRepr : FloatValue → String

/-- What `generate_fleet_candidates` is called with, besides the items and the limit. -/
structure Generation where
  tenantId : String
  asOf : Option Day
  policyVersion : String
  timeWindowDays : ℤ
  openOrders : Dict String (List (String × Value))

/-- A candidate of a tenant. -/
abbrev TenantCandidate (tenantId : String) := { c : FleetCandidate // c.tenantId = tenantId }

/-- `_int` of a value. -/
def intOrZero (value : Value) : Except Exc ℤ := do
  let n ← (value.orElse (.int 0)).intOrNone
  .ok (n.getD 0)

/-- `_text` of a text. -/
def nonblank (text : String) : Option String := if strip text = "" then none else some (strip text)

/-- `_text` of a value. -/
def textOf (value : Value) : Except Exc (Option String) := do
  let text ← printed (value.orElse (.str ""))
  .ok (nonblank text)

/-- `min(x, y)`. -/
def least (x y : FloatValue) : FloatValue := if FloatValue.lt y x then y else x

/-- `max(x, y)`. -/
def greatest (x y : FloatValue) : FloatValue := if FloatValue.lt x y then y else x

/-- What is particular to a candidate of an item. -/
structure Signal where
  candidateType : String
  lotId : Option String
  score : FloatValue
  urgency : FloatValue
  units : ℤ
  days : ℤ
  openOrderUnits : ℤ
  openOrderEta : Option String
  signal : Option String

section

variable (lib : Library) (g : Generation) (item : ProductItem)

/-- The identity of a candidate. -/
def identity (candidateType : String) (lotId : Option String) : Value :=
  .dict [("tenant_id", .str g.tenantId),
    ("data_domain", .str (if item.dataDomain = "" then "world_simulation" else item.dataDomain)),
    ("candidate_type", .str candidateType), ("sku", .str item.sku),
    ("lot_id", lotId.elim .none .str), ("policy_version", .str g.policyVersion),
    ("time_window_days", .int g.timeWindowDays)]

/-- The key of a candidate. -/
def candidateKey (candidateType : String) (lotId : Option String) : String :=
  Py.take 24 (lib.sha256Hex (dumps (identity g item candidateType lotId)))

/-- `_candidate`. -/
def candidate (s : Signal) : TenantCandidate g.tenantId where
  val :=
    { candidateKey := candidateKey lib g item s.candidateType s.lotId
      tenantId := g.tenantId
      dataDomain := if item.dataDomain = "" then "world_simulation" else item.dataDomain
      candidateType := s.candidateType
      sku := item.sku
      lotId := s.lotId
      score := ⟨s.score.roundTo 2, lib.floatRepr (s.score.roundTo 2)⟩
      urgency :=
        let urgency := (greatest (.finite 0) (least (.finite 1) s.urgency)).roundTo 3
        ⟨urgency, lib.floatRepr urgency⟩
      exposureUnits := max s.units 0
      monitoringOnly := FloatValue.lt s.score (.finite 50)
      evidence := [("name", .str item.name), ("category", .str item.category),
        ("supplier", .str item.supplier), ("days_to_expiry", .int s.days),
        ("reorder_point", .int item.reorderPoint),
        ("as_of", g.asOf.elim .none fun day => .str day.isoformat),
        ("policy_version", .str g.policyVersion),
        ("open_order_units", .int (max s.openOrderUnits 0)),
        ("open_order_eta", s.openOrderEta.elim .none .str),
        ("product_policy", .str item.policy.policyId), ("signal", s.signal.elim .none .str)] }
  property := rfl

/-- A signal of a lot or of the whole item. -/
def lotSignal (candidateType : String) (lotId : Option String) (score urgency : FloatValue)
    (units days : ℤ) : Signal :=
  ⟨candidateType, lotId, score, urgency, units, days, 0, none, none⟩

/-- The candidate of some units of an item, when they have expired or are to be reviewed. -/
def expiryCandidate (days units : ℤ) (lotId : Option String) :
    Except Exc (Option (TenantCandidate g.tenantId)) :=
  let review := item.policy.expiryReviewDays
  if days < 0 then do
    let exposure ← FloatValue.quotient (min units 1000) 100
    .ok (some (candidate lib g item (lotSignal "expired_lot" lotId
      (FloatValue.add (.finite 100) exposure) (.finite 1) units days)))
  else if days ≤ review then do
    let nearness ← FloatValue.ofInt ((review - days) * 8)
    let exposure ← FloatValue.quotient (min units 1000) 100
    let urgency ← FloatValue.quotient (review - days + 1) (review + 1)
    .ok (some (candidate lib g item (lotSignal "expiry_risk" lotId
      (FloatValue.add (FloatValue.add (.finite 70) nearness) exposure) urgency units days)))
  else .ok none

/-- One turn of the loop over the lots; an item without lots is looked at as a whole. -/
def batchCandidate (batch : Option BatchItem) : Except Exc (Option (TenantCandidate g.tenantId)) :=
  expiryCandidate lib g item (batch.elim item.daysToExpiry (·.daysToExpiry))
    (batch.elim item.onHand (·.onHand)) (batch.bind fun batch => nonblank batch.lotId)

/-- The candidates of the lots of an item. -/
def expiryCandidates : Except Exc (List (TenantCandidate g.tenantId)) := do
  let rows := if item.batches = [] then [none] else item.batches.map some
  let found ← rows.mapM (batchCandidate lib g item)
  .ok found.reduceOption

/-- The candidate of an item that runs low. -/
def lowStockCandidates : Except Exc (List (TenantCandidate g.tenantId)) :=
  if "low_stock" ∈ item.attentionReasons then do
    let gap := max (item.reorderPoint - item.onHand) 0
    let coverage := (g.openOrders.get? (strip item.sku)).getD []
    let missing ← FloatValue.ofInt (min gap 100)
    let urgency ← FloatValue.quotient (gap + 1) (max item.reorderPoint 1)
    let openOrderUnits ← intOrZero (Value.get coverage "remaining_units")
    let openOrderEta ← textOf (Value.get coverage "eta")
    let score := FloatValue.add (FloatValue.add (.finite 35) missing)
      (.finite (if item.onHand = 0 then 15 else 0))
    .ok [candidate lib g item
      ⟨"low_stock", none, score, least (.finite 1) urgency, item.onHand, item.daysToExpiry,
        openOrderUnits, openOrderEta, none⟩]
  else .ok []

/-- A signal of a whole item, with the text that names it. -/
def itemSignal (candidateType : String) (score urgency : FloatValue) (signal : String) : Signal :=
  ⟨candidateType, none, score, urgency, item.onHand, item.daysToExpiry, 0, none, some signal⟩

/-- The candidate of an item that sells little, or has too much stock for what it sells. -/
def demandCandidates : Except Exc (List (TenantCandidate g.tenantId)) := do
  let recent ← item.recentDailyUnits.mapM FloatValue.ofInt
  if recent = [] then .ok []
  else
    let days ← FloatValue.ofInt recent.length
    let average ← (FloatValue.sum recent).div days
    if FloatValue.le average (.finite 1) ∧ item.reorderPoint < item.onHand then do
      let share ← FloatValue.quotient (min item.onHand 100) 10
      .ok [candidate lib g item (itemSignal item "slow_mover" (FloatValue.add (.finite 55) share)
        (FloatValue.ofRat (35 / 100))
        ("average daily demand " ++ FloatValue.fixedText 2 average))]
    else if FloatValue.lt (.finite 0) average then do
      let supply ← (← FloatValue.ofInt item.onHand).div average
      if FloatValue.le (.finite 30) supply ∧ item.reorderPoint < item.onHand then do
        let share ← (least supply (.finite 100)).div (.finite 5)
        .ok [candidate lib g item (itemSignal item "overstock"
          (FloatValue.add (.finite 50) share) (FloatValue.ofRat (3 / 10))
          (FloatValue.fixedText 1 supply ++ " days of supply"))]
      else .ok []
    else .ok []

/-- `_signal_candidates`. The signals of `signal_types` are no fields of a product item. -/
def signalCandidates : Except Exc (List (TenantCandidate g.tenantId)) := do
  let delayed := if item.supplierRecentDelay then
      [candidate lib g item (itemSignal item "supplier_delay" (.finite 72)
        (FloatValue.ofRat (8 / 10)) "recent supplier delay")]
    else []
  let demand ← demandCandidates lib g item
  let missing := if item.hasBatchEvidence then []
    else [candidate lib g item (itemSignal item "missing_batch_expiry" (.finite 45)
      (FloatValue.ofRat (45 / 100)) "lot-level batch evidence is missing")]
  .ok (delayed ++ demand ++ missing)

/-- `_item_candidates`. -/
def itemCandidates : Except Exc (List (TenantCandidate g.tenantId)) :=
  if strip item.sku = "" then .ok []
  else do
    let expiry ← expiryCandidates lib g item
    let low ← lowStockCandidates lib g item
    let signals ← signalCandidates lib g item
    .ok (expiry ++ low ++ signals)

end

/-- The number that a score is sorted by. -/
def scoreOf (c : FleetCandidate) : ℚ :=
  match c.score.value with
  | .finite q => q
  | _ => 0

/-- `MAX_CANDIDATES`. -/
def maxCandidates : ℤ := 500

/-- `generate_fleet_candidates`. -/
def generateFleetCandidates (lib : Library) (g : Generation) (items : List ProductItem) (limit : ℤ) :
    Except Exc (List (TenantCandidate g.tenantId)) :=
  if strip g.tenantId = "" then .error (.valueError "tenant_id is required")
  else if strip g.policyVersion = "" then .error (.valueError "policy_version is required")
  else if g.timeWindowDays < 0 then
    .error (.valueError "time_window_days must be non-negative")
  else if limit ≤ 0 ∨ maxCandidates < limit then
    .error (.valueError "limit must be between 1 and 500")
  else do
    let found ← items.mapM (itemCandidates lib g)
    .ok ((sortedBy (fun c => toLex (-scoreOf c.1, c.1.candidateKey)) found.flatten).take limit.toNat)

/-! ## The mix -/

section Mix

variable {tenantId : String}

/-- The loop of `_bounded_candidate_mix`: the first candidate of each type, at most `limit` of them. -/
def representatives (limit : ℕ) (kept : List (TenantCandidate tenantId)) :
    List (TenantCandidate tenantId) → List (TenantCandidate tenantId)
  | [] => kept
  | c :: cs =>
    if c.1.candidateType ∈ kept.map (·.1.candidateType) then representatives limit kept cs
    else if (kept ++ [c]).length = limit then kept ++ [c]
    else representatives limit (kept ++ [c]) cs

/-- `_bounded_candidate_mix`. -/
def boundedCandidateMix (cs : List (TenantCandidate tenantId)) (limit : ℕ) :
    List (TenantCandidate tenantId) :=
  let kept := representatives limit [] cs
  if kept.length = limit then kept
  else (kept ++ cs.filter fun c => c.1.candidateKey ∉ kept.map (·.1.candidateKey)).take limit

end Mix

/-! ## The queue -/

/-- What a call of `product_attention_queue` is given; `now` is the time of the call, on the day
`asOf`. -/
structure QueueInput where
  facts : ProductFacts
  tenantId : String
  limit : ℤ
  openOrders : Dict String (List (String × Value))
  asOf : Day
  now : Timestamp
  clock : Timestamp

/-- How the queue generates its candidates. -/
def QueueInput.generation (input : QueueInput) : Generation :=
  ⟨input.tenantId, some input.asOf, "candidate-policy-v1", 1, input.openOrders⟩

/-- The candidates of the items that need attention. -/
def QueueInput.generated (lib : Library) (input : QueueInput) (items : List ProductItem) :
    Except Exc (List (TenantCandidate input.tenantId)) :=
  generateFleetCandidates lib input.generation (attentionItems items) 500

/-- What the store is refreshed with. -/
def QueueInput.refresh (input : QueueInput) (cs : List (TenantCandidate input.tenantId)) :
    Refresh where
  tenantId := input.tenantId
  candidates := cs.map (·.1)
  openOrders := input.openOrders
  now := input.now
  clock := input.clock
  ofTenant := by
    intro c hc
    obtain ⟨c, -, rfl⟩ := List.mem_map.mp hc
    exact c.2

/-- `product_attention_queue`: its page, and the candidates it keeps in the store. -/
def productAttentionQueue (lib : Library) (calendar : Calendar) (input : QueueInput) :
    Fallible CandidateStore Exc (AttentionPage × List CandidateRecord) := do
  let bound ← .ofExcept (boundedLimit input.limit)
  let items ← .ofExcept (providerProductItems input.facts input.asOf)
  let page ← .ofExcept (attentionPage items input.limit)
  let generated ← .ofExcept (input.generated lib items)
  let records ← fun s =>
    attentionCandidates calendar s (input.refresh (boundedCandidateMix generated bound))
  .ret (page, records)

end ShelfWise.Candidates
