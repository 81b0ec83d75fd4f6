import ShelfWise.Py.Value
import ShelfWise.Py.Sorted

/-!
# The inventory position store

`shelfwise_inventory/store.py`: `_position`, `_key`, `_projection_input`, `_apply_projection` and
the in-memory store over them. Positions are dictionaries in the source; here they are records
whose required texts carry the check `_position` made, so a stored position is well formed by
construction. A method that raises after it has written is a pair of the store it leaves and the
exception.

`now` is the text of the clock during one call; no branch looks at it.
-/

namespace ShelfWise.Inventory

open Py

/-! ## Positions -/

/-- A text `_position` accepts in a required field. -/
def Required (s : String) : Prop := Stripped s ∧ s ≠ ""

instance (s : String) : Decidable (Required s) := inferInstanceAs (Decidable (_ ∧ _))

/-- The text of a required field. -/
abbrev RequiredText := { s : String // Required s }

/-- What `_position` returns: the fields the ledger reads. -/
structure Position where
  tenantId : RequiredText
  sku : RequiredText
  locationType : RequiredText
  locationId : RequiredText
  binId : String
  quantity : ℤ
  quantity_nonneg : 0 ≤ quantity
  state : RequiredText
  sourceReference : RequiredText
  updatedAt : String
deriving DecidableEq

/-- The key of a position in the store. -/
structure PositionKey where
  tenantId : String
  sku : String
  locationType : String
  locationId : String
  binId : String
deriving DecidableEq

/-- `_key`. -/
def key (p : Position) : PositionKey :=
  ⟨p.tenantId.1, p.sku.1, p.locationType.1, p.locationId.1, p.binId⟩

/-- One turn of the loop over the required fields: `str(value.get(field) or "").strip()`. -/
def requiredField (value : List (String × Value)) (field : String) : Except Exc RequiredText :=
  let text := strip ((Value.get value field).orElse (.str "")).toText
  if h : text ≠ "" then .ok ⟨text, stripped_strip _, h⟩
  else .error (.valueError ("inventory position " ++ field ++ " is required"))

/-- `_position`. -/
def position (now : String) (value : List (String × Value)) : Except Exc Position := do
  let tenantId ← requiredField value "tenant_id"
  let sku ← requiredField value "sku"
  let locationType ← requiredField value "location_type"
  let locationId ← requiredField value "location_id"
  let state ← requiredField value "state"
  let sourceReference ← requiredField value "source_reference"
  let binId := strip ((Value.get value "bin_id").orElse (.str "unassigned")).toText
  let quantity ← ((Value.get value "quantity").orElse (.int 0)).toInt
  if h : 0 ≤ quantity then
    .ok
      { tenantId, sku, locationType, locationId, binId, quantity, quantity_nonneg := h, state
        sourceReference, updatedAt := ((Value.get value "updated_at").orElse (.str now)).toText }
  else .error (.valueError "inventory position quantity must be non-negative")

/-! ## Projections -/

/-- The event types the ledger projects. -/
inductive EventType where
  | stockUpdate
  | sale
deriving DecidableEq

/-- Why an event cannot be applied. -/
inductive Issue where
  | missingProjectionFields
  | unsupportedQuantity
  | nonPositiveSaleQuantity
  | negativeStockQuantity
deriving DecidableEq

/-- The status of a receipt. -/
inductive Status where
  | issue (i : Issue)
  | stockPositionReplaced
  | saleApplied
  | salePartiallyApplied
  | missingInventoryBaseline
  | duplicate
deriving DecidableEq

/-- `_integral_quantity`. -/
def integralQuantity (value : Value) : Option ℤ :=
  match Decimal.ofText value.toText with
  | none => none
  | some quantity => if quantity.isFinite && quantity.isIntegral then some quantity.truncate else none

/-- The issue of an event: a quantity that does not fit its type replaces a missing field. -/
def projectionIssue (eventType : EventType) (fields : List String) (quantity : Option ℤ) :
    Option Issue :=
  match quantity with
  | none => some .unsupportedQuantity
  | some n =>
    if eventType = .sale ∧ n ≤ 0 then some .nonPositiveSaleQuantity
    else if eventType = .stockUpdate ∧ n < 0 then some .negativeStockQuantity
    else if fields.all (· ≠ "") then none
    else some .missingProjectionFields

/-- What `_projection_input` returns for an event that is not ignored. -/
structure Projection where
  tenantId : String
  eventId : String
  eventType : EventType
  sku : String
  locationId : String
  locationType : String
  binId : String
  quantity : Option ℤ
  stockState : String
  issue : Option Issue
  issue_eq : issue = projectionIssue eventType [tenantId, eventId, sku, locationId] quantity

/-- The type of an event the ledger takes up: operational, and one of the two types. -/
def projectedType (event : List (String × Value)) : Option EventType :=
  let eventType := lower (strip ((Value.get event "type").orElse (.str "")).toText)
  let dataDomain := strip ((Value.get event "data_domain").orElse (.str "operational_twin")).toText
  if dataDomain ≠ "operational_twin" then none
  else if eventType = "stock_update" then some .stockUpdate
  else if eventType = "sale" then some .sale
  else none

/-- `_projection_input`. -/
def projectionInput (event : List (String × Value)) : Option Projection :=
  (projectedType event).map fun eventType =>
    let payload := (Value.get event "payload").items
    let tenantId := strip ((Value.get event "tenant_id").orElse (.str "")).toText
    let eventId := strip ((Value.get event "id").orElse (.str "")).toText
    let sku := strip ((Value.get payload "sku").orElse (.str "")).toText
    let locationId := strip
      (((Value.get payload "location_id").orElse (Value.get payload "location")).orElse
        (.str "")).toText
    let quantity := integralQuantity (Value.getD payload "on_hand" (Value.get payload "quantity"))
    { tenantId, eventId, eventType, sku, locationId
      locationType := strip ((Value.get payload "location_type").orElse (.str "store")).toText
      binId := strip ((Value.get payload "bin_id").orElse (.str "unassigned")).toText
      quantity
      stockState := strip ((Value.get payload "stock_state").orElse (.str "available")).toText
      issue := projectionIssue eventType [tenantId, eventId, sku, locationId] quantity
      issue_eq := rfl }

/-- The outcome of applying one event. -/
structure Receipt where
  tenantId : String
  eventId : String
  eventType : EventType
  sku : String
  locationId : String
  status : Status
  requestedQuantity : Option ℤ
  beforeQuantity : Option ℤ
  afterQuantity : Option ℤ
  unfulfilledQuantity : ℤ
  positionsUpdated : ℕ
  createdAt : String
deriving DecidableEq

/-- `_projection_receipt`. -/
def projectionReceipt (now : String) (p : Projection) (status : Status)
    (beforeQuantity afterQuantity : Option ℤ) (unfulfilledQuantity : ℤ) (positionsUpdated : ℕ) :
    Receipt where
  tenantId := p.tenantId
  eventId := p.eventId
  eventType := p.eventType
  sku := p.sku
  locationId := p.locationId
  status := status
  requestedQuantity := p.quantity
  beforeQuantity := beforeQuantity
  afterQuantity := afterQuantity
  unfulfilledQuantity := unfulfilledQuantity
  positionsUpdated := positionsUpdated
  createdAt := now

/-! ## The ledger -/

/-- The positions of the store. -/
abbrev Positions := Dict PositionKey Position

/-- The position belongs to this tenant, SKU and location. -/
def Position.isAt (p : Position) (tenantId sku locationId : String) : Bool :=
  p.tenantId.1 = tenantId ∧ p.sku.1 = sku ∧ p.locationId.1 = locationId

/-- `int(positions.get(key, {}).get("quantity", 0))`. -/
def quantityAt (positions : Positions) (k : PositionKey) : ℤ :=
  ((positions.get? k).map (·.quantity)).getD 0

/-- The keys of the positions an event is about, by bin. -/
def matchingKeys (positions : Positions) (p : Projection) : List PositionKey :=
  sortedBy (·.binId) ((positions.entries.filter fun e =>
    e.2.isAt p.tenantId p.sku p.locationId).map Prod.fst)

/-- The dictionary `_apply_stock_projection` hands to `_position`. -/
def stockFields (p : Projection) (quantity : ℤ) : List (String × Value) :=
  [("tenant_id", .str p.tenantId), ("sku", .str p.sku), ("location_type", .str p.locationType),
    ("location_id", .str p.locationId), ("bin_id", .str p.binId), ("quantity", .int quantity),
    ("state", .str p.stockState), ("source_reference", .str p.eventId)]

/-- `_apply_stock_projection`. -/
def applyStockProjection (now : String) (positions : Positions) (p : Projection) (quantity : ℤ)
    (before : ℤ) : Positions × Except Exc Receipt :=
  match position now (stockFields p quantity) with
  | .error e => (positions, .error e)
  | .ok new =>
    let previousQuantity := quantityAt positions (key new)
    (positions.set (key new) new,
      .ok (projectionReceipt now p .stockPositionReplaced (some before)
        (some (before - previousQuantity + quantity)) 0 1))

/-- The dictionary a sale writes back: the position read with a new quantity, state, source and
time. -/
def saleFields (now : String) (p : Projection) (current : Position) (after : ℤ) :
    List (String × Value) :=
  [("tenant_id", .str current.tenantId.1), ("sku", .str current.sku.1),
    ("location_type", .str current.locationType.1), ("location_id", .str current.locationId.1),
    ("bin_id", .str current.binId), ("quantity", .int after),
    ("state", .str (if after = 0 then "depleted" else current.state.1)),
    ("source_reference", .str p.eventId), ("updated_at", .str now)]

/-- The `repr` of a key, as a `KeyError` shows it. -/
def PositionKey.repr (k : PositionKey) : String :=
  "(" ++ Value.reprList [.str k.tenantId, .str k.sku, .str k.locationType, .str k.locationId,
    .str k.binId] ++ ")"

/-- The loop of `_apply_sale_projection` over the matching keys: `remaining` is still to be
deducted, `updated` counts the positions written. -/
def saleLoop (now : String) (p : Projection) :
    List PositionKey → Positions → ℤ → ℕ → Positions × Except Exc (ℤ × ℕ)
  | [], positions, remaining, updated => (positions, .ok (remaining, updated))
  | k :: rest, positions, remaining, updated =>
    if remaining ≤ 0 then (positions, .ok (remaining, updated))
    else match positions.get? k with
      | none => (positions, .error (.keyError k.repr))
      | some current =>
        let deduction := min current.quantity remaining
        if deduction ≤ 0 then saleLoop now p rest positions remaining updated
        else match position now (saleFields now p current (current.quantity - deduction)) with
          | .error e => (positions, .error e)
          | .ok new =>
            saleLoop now p rest (positions.set k new) (remaining - deduction) (updated + 1)

/-- `_apply_sale_projection`. -/
def applySaleProjection (now : String) (positions : Positions) (p : Projection) (quantity : ℤ)
    (keys : List PositionKey) (before : ℤ) : Positions × Except Exc Receipt :=
  if keys = [] then
    (positions, .ok (projectionReceipt now p .missingInventoryBaseline (some 0) (some 0) quantity 0))
  else match saleLoop now p keys positions quantity 0 with
    | (positions', .error e) => (positions', .error e)
    | (positions', .ok (remaining, updated)) =>
      (positions', .ok (projectionReceipt now p
        (if remaining = 0 then .saleApplied else .salePartiallyApplied) (some before)
        (some (before - (quantity - remaining))) remaining updated))

/-- `_apply_projection`. An event without an issue has a quantity (`Projection.issue_eq`), so the
last branch is dead. -/
def applyProjection (now : String) (positions : Positions) (p : Projection) :
    Positions × Except Exc Receipt :=
  match p.issue, p.quantity with
  | some i, _ => (positions, .ok (projectionReceipt now p (.issue i) none none 0 0))
  | none, some quantity =>
    let keys := matchingKeys positions p
    let before := (keys.map (quantityAt positions)).sum
    match p.eventType with
    | .stockUpdate => applyStockProjection now positions p quantity before
    | .sale => applySaleProjection now positions p quantity keys before
  | none, none => (positions, .error (.typeError
      "int() argument must be a string or a real number, not 'NoneType'"))

/-! ## The store -/

/-- `InMemoryInventoryPositionStore`. Receipts are kept by tenant and event id. -/
structure Store where
  positions : Positions
  projectionReceipts : Dict (String × String) Receipt
deriving DecidableEq

/-- The store as it is constructed. -/
def Store.empty : Store := ⟨Dict.empty, Dict.empty⟩

/-- `upsert`. -/
def Store.upsert (now : String) (s : Store) (value : List (String × Value)) :
    Store × Except Exc Position :=
  match position now value with
  | .error e => (s, .error e)
  | .ok p => ({ s with positions := s.positions.set (key p) p }, .ok p)

/-- What `project_event` returns. -/
inductive Projected where
  | ignored (eventId : String)
  | receipt (r : Receipt)
deriving DecidableEq

/-- `project_event`. -/
def Store.projectEvent (now : String) (s : Store) (event : List (String × Value)) :
    Store × Except Exc Projected :=
  match projectionInput event with
  | none => (s, .ok (.ignored ((Value.get event "id").orElse (.str "")).toText))
  | some p =>
    match s.projectionReceipts.get? (p.tenantId, p.eventId) with
    | some existing => (s, .ok (.receipt { existing with status := .duplicate }))
    | none =>
      match applyProjection now s.positions p with
      | (positions, .error e) => ({ s with positions }, .error e)
      | (positions, .ok r) =>
        (⟨positions, s.projectionReceipts.set (p.tenantId, p.eventId) r⟩, .ok (.receipt r))

end ShelfWise.Inventory
