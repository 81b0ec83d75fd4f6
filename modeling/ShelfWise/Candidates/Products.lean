import ShelfWise.Connectors.Normalize
import ShelfWise.Py.Float

/-!
# Product items

`_provider_product_items` of `shelfwise_backend/product_catalog.py`: the products and the stock of a
store as the attention queue sees them. A stock row carries its lots as the provider sent them;
`_batch_items` keeps those it can read, and everything an item says about expiry is derived from what
it kept.
-/

namespace ShelfWise.Candidates

open Py Connectors

/-! ## Dates -/

/-- A `date`. -/
structure Day where
  year : ℕ
  month : ℕ
  day : ℕ
  valid : (1 ≤ year ∧ year ≤ 9999) ∧ (1 ≤ month ∧ month ≤ 12) ∧
    (1 ≤ day ∧ day ≤ daysInMonth year month)

/-- The proleptic ordinal of a date. -/
def Day.ordinal (d : Day) : ℤ := Py.ordinal d.year d.month d.day

/-- `d.isoformat()`. -/
def Day.isoformat (d : Day) : String := String.ofList (dateChars d.year d.month d.day)

/-- `date.fromisoformat(text)`. -/
def Day.ofIso (text : String) : Option Day := do
  let ((year, month, day), rest) ← readDate text.toList
  if h : rest = [] ∧ (1 ≤ year ∧ year ≤ 9999) ∧ (1 ≤ month ∧ month ≤ 12) ∧
      (1 ≤ day ∧ day ≤ daysInMonth year month) then
    some ⟨year, month, day, h.2⟩
  else none

/-! ## Policies -/

/-- What the queue and the candidates use of a `ProductPolicy`. -/
structure ProductPolicy where
  policyId : String
  expiryReviewDays : ℤ

/-- `DEFAULT_POLICY`. -/
def defaultPolicy : ProductPolicy := ⟨"ambient_default_v1", 3⟩

/-- `_POLICIES`. -/
def policies : List (String × ProductPolicy) :=
  [("bakery", ⟨"bakery_same_day_v1", 1⟩), ("produce", ⟨"produce_quality_v1", 2⟩),
    ("dairy", ⟨"dairy_chilled_v1", 3⟩), ("frozen", ⟨"frozen_cold_chain_v1", 5⟩),
    ("meat", ⟨"meat_chilled_v1", 2⟩), ("seafood", ⟨"seafood_chilled_v1", 2⟩)]

/-- `resolve_product_policy`. -/
def resolveProductPolicy (category physics : Option String) : ProductPolicy :=
  let haystack := lower (category.getD "" ++ " " ++ physics.getD "")
  ((policies.find? fun row => contains haystack row.1).map Prod.snd).getD defaultPolicy

/-- An expiry date is reviewed from some day before it on. -/
theorem expiryReviewDays_nonneg (category physics : Option String) :
    0 ≤ (resolveProductPolicy category physics).expiryReviewDays := by
  have hrows : ∀ row ∈ policies, 0 ≤ row.2.expiryReviewDays := by decide
  unfold resolveProductPolicy
  dsimp only
  cases hfind : policies.find? fun row =>
      contains (lower (category.getD "" ++ " " ++ physics.getD "")) row.1 with
  | none => show (0 : ℤ) ≤ 3; omega
  | some row => exact hrows row (List.mem_of_find?_eq_some hfind)

/-! ## Rows -/

/-- A row of `list_products`. -/
structure ProductRow where
  sku : String
  name : Option String
  category : Option String
  supplier : Option String
  physics : Option String
  unitPrice : Option Decimal
  unitCost : Option Decimal

/-- A row of `list_stock`; the lots are what the provider sent. -/
structure StockRow where
  sku : String
  onHand : Option ℤ
  reorderPoint : Option ℤ
  expiryDate : Option String
  batches : Value

/-- The signals of a product: whether its supplier was late, and its recent daily units. -/
structure ProductSignals where
  recentDelay : Bool
  recentDailyUnits : List Decimal

/-- The signals of a product that has none. -/
def ProductSignals.none : ProductSignals := ⟨false, []⟩

/-- What a provider knows of a tenant. A catalog resolves a SKU to one product, and a SKU is not
blank. -/
structure ProductFacts where
  products : List ProductRow
  stock : List StockRow
  signals : Dict String ProductSignals
  sourceDataset : String
  nonblank : ∀ product ∈ products, strip product.sku ≠ ""
  nodup : (products.map (·.sku)).Nodup

/-- A product and its stock, with what `_complete_product_row` asks of them. -/
structure ShelfRow where
  sku : String
  name : String
  category : String
  supplier : String
  physics : Option String
  onHand : ℤ
  reorderPoint : ℤ
  expiryDate : String
  batches : Value
deriving DecidableEq

/-- `_complete_product_row`. -/
def completeRow (product : ProductRow) (stock : StockRow) : Option ShelfRow := do
  let name ← product.name
  let category ← product.category
  let supplier ← product.supplier
  let _ ← product.unitPrice
  let _ ← product.unitCost
  let onHand ← stock.onHand
  let reorderPoint ← stock.reorderPoint
  let expiryDate ← stock.expiryDate
  some
    { sku := product.sku, name, category, supplier, physics := product.physics, onHand
      reorderPoint, expiryDate, batches := stock.batches }

/-- The policy of a product. -/
def ShelfRow.policy (row : ShelfRow) : ProductPolicy :=
  resolveProductPolicy (some row.category) row.physics

/-! ## Lots -/

/-- A lot of an item. -/
structure BatchItem where
  lotId : String
  onHand : ℤ
  expiryDate : String
  daysToExpiry : ℤ
deriving DecidableEq

/-- The expiry date of a lot, when there is one that can be read. -/
def batchExpiry (raw : List (String × Value)) : Option Day := do
  let value ← Dict.lookup "expiry_date" raw
  let text ← (printed value).toOption
  Day.ofIso text

/-- The id of a lot. -/
def batchLotId (raw : List (String × Value)) : Except Exc String :=
  printed (((Value.get raw "lot_id").orElse (Value.get raw "lot")).orElse (.str "unknown"))

/-- One turn of the loop of `_batch_items`; a row that is no evidence is left out. -/
def batchItem (asOf : Day) (raw : Value) : Except Exc (Option BatchItem) :=
  match raw with
  | .dict fields =>
    (batchExpiry fields).elim (.ok none) fun expiry => do
      let quantity ← ((Value.get fields "on_hand").orElse (.int 0)).intOrNone
      quantity.elim (.ok none) fun quantity =>
        if quantity < 0 then .ok none
        else do
          let lotId ← batchLotId fields
          .ok (some
            { lotId, onHand := quantity, expiryDate := expiry.isoformat
              daysToExpiry := expiry.ordinal - asOf.ordinal })
  | _ => .ok none

/-- The lots that the provider sent. -/
def ShelfRow.sent (row : ShelfRow) : List Value :=
  match row.batches with
  | .list raws => raws
  | _ => []

/-- The lot that stands for a row without lots. -/
def ShelfRow.wholeLot (row : ShelfRow) : Value :=
  .dict [("lot_id", .str ("LOT-" ++ row.sku)), ("on_hand", .int row.onHand),
    ("expiry_date", .str row.expiryDate)]

/-- `_batch_items`: the lots, and whether the provider sent a complete list of them. -/
def batchItems (row : ShelfRow) (asOf : Day) : Except Exc (List BatchItem × Bool) := do
  let read ← (if row.sent = [] then [row.wholeLot] else row.sent).mapM (batchItem asOf)
  .ok (read.reduceOption, decide (row.sent ≠ []) && read.all Option.isSome)

/-! ## Items -/

/-- What the queue and the candidates use of an item. -/
structure ProductItem where
  sku : String
  name : String
  category : String
  supplier : String
  physics : Option String
  recentDailyUnits : List ℤ
  supplierRecentDelay : Bool
  hasBatchEvidence : Bool
  dataDomain : String
  onHand : ℤ
  reorderPoint : ℤ
  expiryDate : String
  daysToExpiry : ℤ
  attentionReasons : List String
  sellFirstUnits : ℤ
  normalUnits : ℤ
  blockedUnits : ℤ
  batches : List BatchItem
deriving DecidableEq

/-- `requires_attention`. -/
def ProductItem.requiresAttention (item : ProductItem) : Bool := !item.attentionReasons.isEmpty

/-- The policy of an item. -/
def ProductItem.policy (item : ProductItem) : ProductPolicy :=
  resolveProductPolicy (some item.category) item.physics

/-- `_inventory_classification`: the expired, the sell-first and the normal units. -/
def inventoryClassification (batches : List BatchItem) (onHand : ℤ) : ℤ × ℤ × ℤ :=
  let blockedUnits := ((batches.filter fun b => b.daysToExpiry < 0).map (·.onHand)).sum
  let sellFirstUnits :=
    ((batches.filter fun b => 0 ≤ b.daysToExpiry ∧ b.daysToExpiry ≤ 3).map (·.onHand)).sum
  (blockedUnits, sellFirstUnits, max (onHand - sellFirstUnits - blockedUnits) 0)

/-- `_attention_reasons`. -/
def attentionReasons (sellFirstUnits : ℤ) (expiring : Bool) (blockedUnits : ℤ)
    (lowStock supplierDelay slowMover overstock missingBatchExpiry : Bool) : List String :=
  (if 0 < sellFirstUnits then ["sell_first"] else []) ++
    (if expiring then ["expiring"] else []) ++
    (if 0 < blockedUnits then ["blocked"] else []) ++
    (if lowStock then ["low_stock"] else []) ++
    (if supplierDelay then ["supplier_delay"] else []) ++
    (if slowMover then ["slow_mover"] else if overstock then ["overstock"] else []) ++
    (if missingBatchExpiry then ["missing_batch_expiry"] else [])

/-- The mean of the recent units. -/
def averageDailyUnits (recentUnits : List ℤ) : Except Exc FloatValue :=
  if recentUnits = [] then .ok (.finite 0)
  else FloatValue.quotient recentUnits.sum recentUnits.length

/-- Whether a product that sells has 30 days of stock or more. -/
def isOverstocked (recentUnits : List ℤ) (onHand reorderPoint : ℤ) (average : FloatValue) :
    Except Exc Bool :=
  if recentUnits ≠ [] ∧ FloatValue.lt (.finite 0) average then do
    let days ← (← FloatValue.ofInt onHand).div average
    .ok (FloatValue.le (.finite 30) days && decide (reorderPoint < onHand))
  else .ok false

/-- `min(values, default=default)`. -/
def leastOr {α : Type} [LinearOrder α] (values : List α) (default : α) : α :=
  values.min?.getD default

/-- `_product_item`. -/
def productItem (row : ShelfRow) (signals : ProductSignals) (asOf : Day) (source : String) :
    Except Exc ProductItem := do
  let (batches, hasBatchEvidence) ← batchItems row asOf
  let stockExpiry ← ((Day.ofIso row.expiryDate).elim
    (.error (.valueError ("Invalid isoformat string: " ++ Value.reprText row.expiryDate)))
    .ok : Except Exc Day)
  let daysToExpiry :=
    leastOr (batches.map (·.daysToExpiry)) (stockExpiry.ordinal - asOf.ordinal)
  let recentDailyUnits ← signals.recentDailyUnits.mapM fun value => do
    (← FloatValue.ofDecimal value).toInt
  let average ← averageDailyUnits recentDailyUnits
  let slowMover := recentDailyUnits != [] && FloatValue.le average (.finite 1) &&
    decide (row.reorderPoint < row.onHand)
  let overstock ← isOverstocked recentDailyUnits row.onHand row.reorderPoint average
  let (blockedUnits, sellFirstUnits, normalUnits) := inventoryClassification batches row.onHand
  .ok
    { sku := row.sku, name := row.name, category := row.category, supplier := row.supplier
      physics := row.physics, recentDailyUnits, supplierRecentDelay := signals.recentDelay
      hasBatchEvidence
      dataDomain := if source = "generated_world" then "world_simulation" else "operational_twin"
      onHand := row.onHand, reorderPoint := row.reorderPoint
      expiryDate := leastOr (batches.map (·.expiryDate)) row.expiryDate
      daysToExpiry
      attentionReasons := attentionReasons sellFirstUnits
        (daysToExpiry ≤ row.policy.expiryReviewDays) blockedUnits
        (row.onHand ≤ row.reorderPoint) signals.recentDelay slowMover overstock
        (!hasBatchEvidence)
      sellFirstUnits, normalUnits, blockedUnits, batches }

/-- `stock_by_sku`. -/
def ProductFacts.stockOf (facts : ProductFacts) (sku : String) : Option StockRow :=
  (Dict.ofItems (facts.stock.map fun row => (row.sku, row))).get? sku

/-- The complete rows of a provider, in the order of its products. -/
def ProductFacts.shelfRows (facts : ProductFacts) : List ShelfRow :=
  facts.products.filterMap fun product => (facts.stockOf product.sku).bind (completeRow product)

/-- `_provider_product_items`. -/
def providerProductItems (facts : ProductFacts) (asOf : Day) : Except Exc (List ProductItem) :=
  facts.shelfRows.mapM fun row =>
    productItem row ((facts.signals.get? row.sku).getD .none) asOf facts.sourceDataset

end ShelfWise.Candidates
