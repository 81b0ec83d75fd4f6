import ShelfWise.Connectors.Record
import ShelfWise.Py.DecimalContext

/-!
# From inbound records to events

`shelfwise_connectors/normalize.py` with the money of `shelfwise_contracts`: a valid record of a
stock snapshot, a sales line or an expiry entry becomes an event. The id of the event names the
source object and nothing else of the record.

`fromIso` is what `datetime.fromisoformat` makes of a text, taken as UTC when the text has no offset;
`none` is its `ValueError`.
-/

namespace ShelfWise.Connectors

open Py

/-! ## Texts -/

/-- `str(value)`: the interpreter refuses to print a long integer. -/
def printed : Value → Except Exc String
  | .int n => Value.printInt n
  | value => .ok value.toText

@[simp] theorem printed_str (text : String) : printed (.str text) = .ok text := rfl

/-! ## Money -/

/-- `Money`. -/
structure Money where
  minorUnits : ℤ
  currency : String
deriving DecidableEq

/-- `Money.zar`. -/
def Money.zar (rand : Value) : Except Exc Money := do
  let text ← printed rand
  match Decimal.ofText text with
  | none => .error Decimal.invalidOperation
  | some amount =>
    let hundredfold ← amount.timesHundred
    let cents ← hundredfold.quantize .halfUp 0
    let minorUnits ← cents.toInt
    .ok ⟨minorUnits, "ZAR"⟩

/-- `Money.amount`. -/
def Money.amount (money : Money) : Except Exc Decimal := do
  let hundredth ← Decimal.fix (money.minorUnits < 0) money.minorUnits.natAbs (-2)
  hundredth.quantize .halfEven (-2)

/-! ## Fields -/

/-- `payload[key]`. -/
def requireKey (payload : List (String × Value)) (key : String) : Except Exc Value :=
  match Dict.lookup key payload with
  | some value => .ok value
  | none => .error (.keyError (Value.reprText key))

/-- `_datetime_value`. -/
def datetimeValue (fromIso : String → Option Timestamp) (value : Value) (fallback : Timestamp) :
    Except Exc Timestamp :=
  match value with
  | .str s =>
    if s = "" then .ok fallback
    else match fromIso (replaceZ s) with
      | some ts => .ok ts
      | none => .error (.valueError ("Invalid isoformat string: " ++ Value.reprText (replaceZ s)))
  | _ => .ok fallback

/-- `_quantity_value`. -/
def quantityValue (value : Value) : Except Exc Value :=
  match (printed (value.orElse (.str "0"))).toOption.bind Decimal.ofText with
  | none => .error (.valueError "sales quantity is not numeric")
  | some (.finite negative coefficient exponent) =>
    let quantity := Decimal.finite negative coefficient exponent
    if quantity.isIntegral then .ok (.int quantity.truncate)
    else match Decimal.normalize negative coefficient exponent with
      | .error e => .error e
      | .ok (.finite negative coefficient exponent) =>
        .ok (.str (Decimal.fixedText negative coefficient exponent))
      | .ok d => .ok (.str d.str)
  | some _ => .error (.valueError "sales quantity must be finite")

/-- The minor units a price states. -/
def minorUnitsOf (value : Value) : Except Exc ℤ :=
  match (printed value).toOption.bind Decimal.ofText with
  | none => .error (.valueError "sales unit price minor_units is not numeric")
  | some minorUnits =>
    if minorUnits.isFinite ∧ minorUnits.isIntegral then .ok minorUnits.truncate
    else .error (.valueError "sales unit price minor_units must be a finite integer")

/-- `_unit_price_money`. -/
def unitPriceMoney (value : Value) : Except Exc Money :=
  match value with
  | .dict price =>
    if Value.get price "minor_units" = .none then
      Money.zar ((Value.get price "amount").orElse (.str "0"))
    else match minorUnitsOf (Value.get price "minor_units") with
      | .error e => .error e
      | .ok minorUnits =>
        .ok ⟨minorUnits, ((Value.get price "currency").orElse (.str "ZAR")).toText⟩
  | value => Money.zar (value.orElse (.str "0"))

/-- `_EVENT_SOURCE_BY_SYSTEM`. -/
def eventSourceOf : SourceSystem → EventSource
  | .csv | .sap | .syspro | .dynamics | .odoo => .wmsCsv
  | .square | .shopify | .lightspeed | .yoco => .posCsv

/-- `_event_id`. -/
def eventIdOf (record : InboundRecord) : String :=
  "evt_" ++ record.sourceSystem.value ++ "_" ++ record.sourceObjectType ++ "_" ++
    record.sourceObjectId

/-- `Event(...)` with the fields every record gives it. -/
def eventOf (record : InboundRecord) (type : EventType) (ts : Timestamp) (actor : String)
    (payload : List (String × Value)) : Except Exc Event :=
  Event.build (eventIdOf record) type ts actor payload (eventSourceOf record.sourceSystem)
    record.tenantId .operationalTwin record.correlationId none "v1"

/-- An event that is built has what it was built with, and is operational. -/
structure BuiltFrom (record : InboundRecord) (type : EventType) (payload : List (String × Value))
    (event : Event) : Prop where
  id : event.id = eventIdOf record
  type : event.type = type
  payload : event.payload = payload
  tenantId : event.tenantId = record.tenantId
  dataDomain : event.dataDomain = .operationalTwin

theorem builtFrom_of_eventOf {record : InboundRecord} {type : EventType} {ts : Timestamp}
    {actor : String} {payload : List (String × Value)} {event : Event}
    (h : eventOf record type ts actor payload = .ok event) : BuiltFrom record type payload event := by
  unfold eventOf Event.build at h
  split at h
  · split at h
    · split at h
      · split at h
        · cases h
        · split at h
          · cases h
          · rw [← Except.ok.inj h]
            exact ⟨rfl, rfl, rfl, rfl, rfl⟩
      · cases h
    · cases h
  · cases h

/-! ## Stock snapshots -/

/-- `str(payload[key]) if payload.get(key) else None`. -/
def textIfTruthy (payload : List (String × Value)) (key : String) : Option String :=
  if (Value.get payload key).truthy then some (Value.get payload key).toText else none

/-- `_inventory_from_payload`. -/
def inventoryFromPayload (fromIso : String → Option Timestamp) (record : InboundRecord) :
    Except Exc InventoryState := do
  let payload := record.canonicalPayload
  let sku ← requireKey payload "sku"
  let locationId ← requireKey payload "location_id"
  match Decimal.ofText (Value.getD payload "quantity" (.str "0")).toText with
  | none => .error Decimal.invalidOperation
  | some quantity =>
    let stockState ← StockState.ofText
      ((Value.get payload "stock_state").orElse (.str StockState.onHand.value)).toText
    let eventTime ← datetimeValue fromIso (Value.get payload "event_time") record.eventTime
    .ok
      { tenantId := record.tenantId, sku := sku.toText, locationId := locationId.toText, quantity
        stockState, eventTime, gtin := textIfTruthy payload "gtin"
        barcode := textIfTruthy payload "barcode" }

/-- The payload of a stock event. -/
def stockPayload (inventory : InventoryState) (record : InboundRecord) : List (String × Value) :=
  [("sku", .str inventory.sku), ("location_id", .str inventory.locationId),
    ("quantity", .str inventory.quantity.str), ("stock_state", .str inventory.stockState.value),
    ("source_object_id", .str record.sourceObjectId),
    ("raw_payload_hash", .str record.payloadHash)]

/-- `inventory_to_event`. -/
def inventoryToEvent (inventory : InventoryState) (record : InboundRecord) : Except Exc Event :=
  eventOf record .stockUpdate inventory.eventTime record.sourceSystem.value
    (stockPayload inventory record)

/-! ## Sales lines and expiry entries -/

/-- `_sales_line_to_event`. -/
def salesLineToEvent (fromIso : String → Option Timestamp) (record : InboundRecord) :
    Except Exc Event := do
  let get := Value.get record.canonicalPayload
  let locationId := ((get "location_id").orElse (.str "online")).toText
  let quantity ← quantityValue (get "quantity")
  let unitPrice ← unitPriceMoney (get "unit_price")
  let ts ← datetimeValue fromIso (get "sold_at") record.eventTime
  let amount ← unitPrice.amount
  eventOf record .sale ts locationId
    [("sku", .str ((get "sku").orElse (.str "")).toText), ("location", .str locationId),
      ("location_id", .str locationId), ("quantity", quantity),
      ("unit_price", .str amount.str), ("unit_price_minor_units", .int unitPrice.minorUnits),
      ("unit_price_currency", .str unitPrice.currency),
      ("order_id", .str ((get "order_id").orElse (.str record.sourceObjectId)).toText),
      ("line_id", .str ((get "line_id").orElse (.str record.sourceObjectId)).toText),
      ("source_object_id", .str record.sourceObjectId),
      ("raw_payload_hash", .str record.payloadHash)]

/-- `_expiry_to_event`. -/
def expiryToEvent (record : InboundRecord) : Except Exc Event := do
  let payload := record.canonicalPayload
  let locationId := ((Value.get payload "location_id").orElse (.str "")).toText
  let sku ← requireKey payload "sku"
  let onHand ← quantityValue (Value.get payload "quantity")
  let expiryDate ← requireKey payload "expiry_date"
  eventOf record .expiryEntry record.eventTime
    (if locationId = "" then record.sourceSystem.value else locationId)
    [("sku", .str sku.toText), ("location", .str locationId), ("location_id", .str locationId),
      ("on_hand", onHand), ("expiry_date", .str expiryDate.toText),
      ("source_object_id", .str record.sourceObjectId),
      ("raw_payload_hash", .str record.payloadHash)]

/-! ## Records -/

/-- `except (InvalidOperation, TypeError, ValueError)`; a key error is caught in one place only. -/
def isMalformed (keyErrors : Bool) : Exc → Bool
  | .valueError _ | .typeError _ | .validationError _ _ => true
  | .decimalError signal => signal = "InvalidOperation"
  | .keyError _ => keyErrors
  | .overflowError _ | .attributeError _ | .httpException _ _ | .raised _ _ => false

/-- No event in place of an exception that is caught. -/
def orNoEvent (keyErrors : Bool) : Except Exc Event → Except Exc (Option Event)
  | .ok event => .ok (some event)
  | .error e => if isMalformed keyErrors e then .ok none else .error e

/-- `record_to_event`. -/
def recordToEvent (fromIso : String → Option Timestamp) (record : InboundRecord) :
    Except Exc (Option Event) :=
  if record.validation.ok = false then .ok none
  else if record.canonicalType = "inventory_state" then do
    let inventory ← inventoryFromPayload fromIso record
    let event ← inventoryToEvent inventory record
    .ok (some event)
  else if record.canonicalType = "sales_line" then
    orNoEvent false (salesLineToEvent fromIso record)
  else if record.canonicalType = "expiry_entry" then orNoEvent true (expiryToEvent record)
  else .ok none

end ShelfWise.Connectors
