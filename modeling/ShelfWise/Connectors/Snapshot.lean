import ShelfWise.Connectors.Normalize

/-!
# Stock snapshots

`validate_inventory` of `shelfwise_connectors/validation.py` and `wrap` of
`connectors/systems/_common.py`, by which every connector makes a record of a stock state. The record
of a valid state becomes the event of that state (`recordToEvent_inventoryRecord`).
-/

namespace ShelfWise.Connectors

open Py

/-! ## Validation -/

/-- `d < 0`; a comparison with a value that is no number raises. -/
def isBelowZero : Decimal → Except Exc Bool
  | .finite negative coefficient _ => .ok (negative && coefficient ≠ 0)
  | .infinity negative => .ok negative
  | .nan .. => .error Decimal.invalidOperation

/-- Whether an optional text is there and not empty. -/
def hasText (text : Option String) : Bool := text.any fun s => s ≠ ""

/-- `result.fail(message)` under a condition. -/
def ValidationResult.failIf (result : ValidationResult) (condition : Bool) (message : String) :
    ValidationResult :=
  if condition then result.fail message else result

/-- `validate_inventory`. -/
def validateInventory (item : InventoryState) : Except Exc ValidationResult := do
  let negative ← isBelowZero item.quantity
  .ok ((((ValidationResult.passed.failIf (item.tenantId = "") "inventory missing tenant_id").failIf
      (item.sku = "" && !hasText item.gtin && !hasText item.barcode)
      "inventory has no resolvable product identifier").failIf
      (item.locationId = "") "inventory missing location_id").failIf
      negative "inventory quantity cannot be negative")

theorem ok_failIf (result : ValidationResult) (condition : Bool) (message : String) :
    (result.failIf condition message).ok = (result.ok && !condition) := by
  unfold ValidationResult.failIf
  cases condition with
  | false => simp
  | true => simp [ValidationResult.fail]

/-- What the validation of a stock state has checked. -/
structure Validated (item : InventoryState) : Prop where
  tenantId : item.tenantId ≠ ""
  locationId : item.locationId ≠ ""
  nonneg : isBelowZero item.quantity = .ok false

theorem validated_of_ok {item : InventoryState} {result : ValidationResult}
    (h : validateInventory item = .ok result) (hok : result.ok = true) : Validated item := by
  unfold validateInventory at h
  cases hneg : isBelowZero item.quantity with
  | error e =>
    rw [hneg] at h
    cases h
  | ok negative =>
    rw [hneg] at h
    cases h
    simp only [ok_failIf, Bool.and_eq_true, Bool.not_eq_true', decide_eq_false_iff_not] at hok
    obtain ⟨⟨⟨⟨-, htenant⟩, -⟩, hlocation⟩, hnegative⟩ := hok
    exact ⟨htenant, hlocation, by rw [hneg, hnegative]⟩

/-! ## Records -/

/-- `source_quality`. -/
def sourceQuality (validation : ValidationResult) : PyFloat :=
  if ¬ validation.ok then ⟨.finite (5404319552844595 / 18014398509481984), "0.3"⟩
  else if ¬ validation.warnings.isEmpty then ⟨.finite (5404319552844595 / 9007199254740992), "0.6"⟩
  else ⟨.finite 1, "1.0"⟩

/-- `serialise` of a stock state. -/
def serialiseInventory (inventory : InventoryState) : List (String × Value) :=
  [("tenant_id", .str inventory.tenantId), ("sku", .str inventory.sku),
    ("location_id", .str inventory.locationId), ("quantity", .str inventory.quantity.str),
    ("stock_state", .str inventory.stockState.value),
    ("event_time", .str inventory.eventTime.isoformat), ("gtin", optionalText inventory.gtin),
    ("barcode", optionalText inventory.barcode)]

/-- `wrap` of a stock state, as the connectors call it. -/
def wrapInventory (system : SourceSystem) (objectId : String) (inventory : InventoryState)
    (validation : ValidationResult) (raw : List (String × Value)) : InboundRecord where
  tenantId := inventory.tenantId
  sourceSystem := system
  sourceObjectType := "inventory_state"
  sourceObjectId := objectId
  eventTime := inventory.eventTime
  rawPayload := raw
  canonicalType := "inventory_state"
  correlationId := take 16 (sha256 (dumps (.dict raw)))
  canonicalPayload := serialiseInventory inventory
  validation := validation
  sourceQuality := sourceQuality validation
  actor := none

/-- The record a connector makes of a stock state. -/
def inventoryRecord (system : SourceSystem) (objectId : String) (inventory : InventoryState)
    (raw : List (String × Value)) : Except Exc InboundRecord := do
  let validation ← validateInventory inventory
  .ok (wrapInventory system objectId inventory validation raw)

/-! ## From the record back to the state -/

/-- The event of a stock state. -/
structure EventOf (system : SourceSystem) (objectId : String) (inventory : InventoryState)
    (event : Event) : Prop where
  id : event.id = "evt_" ++ system.value ++ "_inventory_state_" ++ objectId
  type : event.type = .stockUpdate
  ts : event.ts = inventory.eventTime
  payload : ∃ record : InboundRecord, event.payload = stockPayload inventory record
  tenantId : event.tenantId = inventory.tenantId
  dataDomain : event.dataDomain = .operationalTwin

variable {system : SourceSystem} {objectId : String} {inventory : InventoryState}
  {record : InboundRecord} {raw : List (String × Value)}

theorem eventOf_build {validation : ValidationResult}
    (hrecord : record = wrapInventory system objectId inventory validation raw)
    (hvalid : Validated inventory) (gtin barcode : Option String) :
    ∃ event, inventoryToEvent { inventory with gtin, barcode } record = .ok event ∧
      EventOf system objectId inventory event := by
  have hid : eventIdOf record = "evt_" ++ system.value ++ "_inventory_state_" ++ objectId := by
    rw [hrecord]
    simp only [eventIdOf, wrapInventory, String.append_assoc]
    rfl
  have hidne : eventIdOf record ≠ "" := by
    intro h
    have hlist := congrArg String.toList (hid.symm.trans h)
    simp [String.toList_append] at hlist
  have hactor : record.sourceSystem.value ≠ "" := by
    cases record.sourceSystem <;> decide
  have htenant : record.tenantId ≠ "" := by
    rw [hrecord]
    exact hvalid.tenantId
  have hdomain : checkPayloadDomain (stockPayload { inventory with gtin, barcode } record)
      .operationalTwin = .ok () := rfl
  have hsynthetic : ¬ (DataDomain.operationalTwin = .operationalTwin ∧
      (Value.get (stockPayload { inventory with gtin, barcode } record) "synthetic" = .bool true ∨
        Value.get (stockPayload { inventory with gtin, barcode } record) "synthetic_probe" =
          .bool true)) := by
    rintro ⟨-, h | h⟩ <;> cases h
  unfold inventoryToEvent eventOf Event.build
  rw [dif_pos hidne, dif_pos hactor, dif_pos htenant, hdomain]
  dsimp only
  rw [if_neg hsynthetic]
  exact ⟨_, rfl, hid, rfl, rfl, ⟨record, rfl⟩, congrArg InboundRecord.tenantId hrecord, rfl⟩

/-- The state is read back from the record, but for texts that are empty. -/
theorem inventoryFromPayload_wrapInventory {fromIso : String → Option Timestamp}
    {validation : ValidationResult}
    (hiso : fromIso (replaceZ inventory.eventTime.isoformat) = some inventory.eventTime)
    (hquantity : Decimal.ofText inventory.quantity.str = some inventory.quantity) :
    inventoryFromPayload fromIso (wrapInventory system objectId inventory validation raw) = .ok
      { inventory with
        gtin := textIfTruthy (serialiseInventory inventory) "gtin"
        barcode := textIfTruthy (serialiseInventory inventory) "barcode" } := by
  have hsku : requireKey (serialiseInventory inventory) "sku" = .ok (.str inventory.sku) := rfl
  have hlocation : requireKey (serialiseInventory inventory) "location_id" =
      .ok (.str inventory.locationId) := rfl
  have hnumber : Value.getD (serialiseInventory inventory) "quantity" (.str "0") =
      .str inventory.quantity.str := rfl
  have hstate : StockState.ofText ((Value.get (serialiseInventory inventory)
      "stock_state").orElse (.str StockState.onHand.value)).toText = .ok inventory.stockState := by
    have htext : Value.get (serialiseInventory inventory) "stock_state" =
        .str inventory.stockState.value := rfl
    rw [htext]
    cases inventory.stockState <;> rfl
  have htime : datetimeValue fromIso (Value.get (serialiseInventory inventory) "event_time")
      inventory.eventTime = .ok inventory.eventTime := by
    have htext : Value.get (serialiseInventory inventory) "event_time" =
        .str inventory.eventTime.isoformat := rfl
    rw [htext, datetimeValue]
    by_cases hempty : inventory.eventTime.isoformat = ""
    · rw [if_pos hempty]
    · rw [if_neg hempty, hiso]
  unfold inventoryFromPayload
  simp only [wrapInventory, hsku, hlocation, hnumber, hstate, htime, hquantity, bind, Except.bind,
    Value.toText_str]

theorem eq_wrapInventory (h : inventoryRecord system objectId inventory raw = .ok record) :
    validateInventory inventory = .ok record.validation ∧
      record = wrapInventory system objectId inventory record.validation raw := by
  unfold inventoryRecord at h
  cases hvalidation : validateInventory inventory with
  | error e =>
    rw [hvalidation] at h
    cases h
  | ok validation =>
    rw [hvalidation] at h
    cases h
    exact ⟨rfl, rfl⟩

theorem validated_of_inventoryRecord
    (h : inventoryRecord system objectId inventory raw = .ok record)
    (hok : record.validation.ok = true) : Validated inventory :=
  validated_of_ok (eq_wrapInventory h).1 hok

/-- The record of a valid state becomes the event of the state. -/
theorem recordToEvent_inventoryRecord {fromIso : String → Option Timestamp}
    (hrecord : inventoryRecord system objectId inventory raw = .ok record)
    (hok : record.validation.ok = true)
    (hiso : fromIso (replaceZ inventory.eventTime.isoformat) = some inventory.eventTime)
    (hquantity : Decimal.ofText inventory.quantity.str = some inventory.quantity) :
    ∃ event, recordToEvent fromIso record = .ok (some event) ∧
      EventOf system objectId inventory event := by
  obtain ⟨-, hwrap⟩ := eq_wrapInventory hrecord
  obtain ⟨event, hevent, hof⟩ := eventOf_build hwrap (validated_of_inventoryRecord hrecord hok)
    (textIfTruthy (serialiseInventory inventory) "gtin")
    (textIfTruthy (serialiseInventory inventory) "barcode")
  have htype : record.canonicalType = "inventory_state" :=
    congrArg InboundRecord.canonicalType hwrap
  have hpayload : inventoryFromPayload fromIso record = _ :=
    (congrArg (inventoryFromPayload fromIso) hwrap).trans
      (inventoryFromPayload_wrapInventory hiso hquantity)
  refine ⟨event, ?_, hof⟩
  unfold recordToEvent
  rw [if_neg (by simp [hok]), if_pos htype, hpayload]
  simp only [bind, Except.bind, hevent]

end ShelfWise.Connectors
