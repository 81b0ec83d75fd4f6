import ShelfWise.Contracts.Event
import ShelfWise.Py.Digest

/-!
# Inbound records

`shelfwise_connectors`: the vocabulary of `canonical.py`, the inbound record of `provenance.py` and
the in-memory store of `inbound_store.py`, which keeps the first record under a key and drops later
ones. The key contains the digest of the raw payload. Every record is built by `wrap` from an aware
time.
-/

namespace ShelfWise.Connectors

open Py

/-! ## Vocabulary -/

/-- `SourceSystem`. -/
inductive SourceSystem where
  | csv
  | sap
  | syspro
  | odoo
  | dynamics
  | shopify
  | square
  | lightspeed
  | yoco
deriving DecidableEq

/-- The value of a source system. -/
def SourceSystem.value : SourceSystem → String
  | .csv => "csv"
  | .sap => "sap"
  | .syspro => "syspro"
  | .odoo => "odoo"
  | .dynamics => "dynamics"
  | .shopify => "shopify"
  | .square => "square"
  | .lightspeed => "lightspeed"
  | .yoco => "yoco"

/-- `StockState`. -/
inductive StockState where
  | onHand
  | reserved
  | damaged
  | expired
  | inTransit
deriving DecidableEq

/-- The value of a stock state. -/
def StockState.value : StockState → String
  | .onHand => "on_hand"
  | .reserved => "reserved"
  | .damaged => "damaged"
  | .expired => "expired"
  | .inTransit => "in_transit"

/-- The stock states, in the order of their declaration. -/
def StockState.all : List StockState := [.onHand, .reserved, .damaged, .expired, .inTransit]

/-- `StockState(text)`. -/
def StockState.ofText (text : String) : Except Exc StockState :=
  match StockState.all.find? fun state => state.value = text with
  | some state => .ok state
  | none => .error (.valueError (Value.reprText text ++ " is not a valid StockState"))

/-- `InventoryState`. -/
structure InventoryState where
  tenantId : String
  sku : String
  locationId : String
  quantity : Decimal
  stockState : StockState
  eventTime : Timestamp
  gtin : Option String
  barcode : Option String
deriving DecidableEq

/-! ## Records -/

/-- `ValidationResult`. -/
structure ValidationResult where
  ok : Bool
  errors : List String
  warnings : List String
deriving DecidableEq

/-- `ValidationResult()`. -/
def ValidationResult.passed : ValidationResult := ⟨true, [], []⟩

/-- `fail`. -/
def ValidationResult.fail (result : ValidationResult) (message : String) : ValidationResult :=
  ⟨false, result.errors ++ [message], result.warnings⟩

/-- `ValidationResult.to_dict`. -/
def ValidationResult.toDict (result : ValidationResult) : List (String × Value) :=
  [("ok", .bool result.ok), ("errors", .list (result.errors.map .str)),
    ("warnings", .list (result.warnings.map .str))]

/-- `InboundRecord`. -/
structure InboundRecord where
  tenantId : String
  sourceSystem : SourceSystem
  sourceObjectType : String
  sourceObjectId : String
  eventTime : Timestamp
  rawPayload : List (String × Value)
  canonicalType : String
  correlationId : String
  canonicalPayload : List (String × Value)
  validation : ValidationResult
  sourceQuality : PyFloat
  actor : Option String
deriving DecidableEq

namespace InboundRecord

/-- `payload_hash`. -/
def payloadHash (record : InboundRecord) : String := sha256 (dumps (.dict record.rawPayload))

/-- `to_dict`. -/
def toDict (record : InboundRecord) : List (String × Value) :=
  [("tenant_id", .str record.tenantId), ("source_system", .str record.sourceSystem.value),
    ("source_object_type", .str record.sourceObjectType),
    ("source_object_id", .str record.sourceObjectId),
    ("event_time", .str record.eventTime.isoformat), ("raw_payload_hash", .str record.payloadHash),
    ("canonical_type", .str record.canonicalType),
    ("canonical_payload", .dict record.canonicalPayload),
    ("correlation_id", .str record.correlationId), ("validation", .dict record.validation.toDict),
    ("source_quality", .float record.sourceQuality), ("actor", optionalText record.actor)]

end InboundRecord

/-! ## The store -/

/-- The key of a record. -/
structure RecordKey where
  tenantId : String
  sourceSystem : SourceSystem
  payloadHash : String
  sourceObjectId : String
deriving DecidableEq

/-- `_record_key`. -/
def recordKey (record : InboundRecord) : RecordKey :=
  ⟨record.tenantId, record.sourceSystem, record.payloadHash, record.sourceObjectId⟩

/-- `_record_id`. -/
def recordId (record : InboundRecord) : String :=
  "inbound_" ++ take 16 (sha256 (record.tenantId ++ ":" ++ record.sourceSystem.value ++ ":" ++
    record.payloadHash ++ ":" ++ record.sourceObjectId))

/-- `_stored_payload`. -/
def storedPayload (now : Timestamp) (record : InboundRecord) (eventId : Option String) :
    List (String × Value) :=
  Value.updateItems record.toDict
    [("id", .str (recordId record)), ("event_id", optionalText eventId),
      ("ingested_at", .str now.isoformat), ("raw_payload", .dict record.rawPayload),
      ("has_raw_payload", .bool true)]

/-- `_public_payload`. -/
def publicPayload (payload : List (String × Value)) : List (String × Value) :=
  Value.setItem (payload.filter fun e => e.1 ≠ "raw_payload") "has_raw_payload"
    (.bool (Value.get payload "raw_payload").truthy)

/-- `InMemoryInboundRecordStore`. -/
abbrev InboundRecordStore := Dict RecordKey (List (String × Value))

/-- `record`. -/
def InboundRecordStore.record (now : Timestamp) (record : InboundRecord) (eventId : Option String)
    (s : InboundRecordStore) : InboundRecordStore × Bool × List (String × Value) :=
  match s.get? (recordKey record) with
  | some existing => (s, false, publicPayload existing)
  | none =>
    let payload := storedPayload now record eventId
    (s.set (recordKey record) payload, true, publicPayload payload)

end ShelfWise.Connectors
