import ShelfWise.Py.Value

/-!
# Events

`shelfwise_contracts/__init__.py`: the event record with the checks of its constructor, and the
data domains of `shelfwise_runtime/provenance.py`. A payload is a JSON object, so the deep copy
`to_dict` makes of it is the payload itself.

A `Timestamp` is an aware datetime: the instant it denotes, by which datetimes compare, and the
text `isoformat` prints, which also shows its offset.
-/

namespace ShelfWise

open Py

/-! ## Time -/

/-- An aware datetime: its instant in microseconds and its ISO text. -/
structure Timestamp where
  instant : ℤ
  isoformat : String
deriving DecidableEq

/-- The text of a datetime in a JSON dump: the UTC offset is written `Z`. -/
def Timestamp.json (t : Timestamp) : String :=
  let cs := t.isoformat.toList
  if ['+', '0', '0', ':', '0', '0'].isSuffixOf cs then
    String.ofList (cs.take (cs.length - 6) ++ ['Z'])
  else t.isoformat

/-! ## Vocabulary -/

/-- `EventType`. -/
inductive EventType where
  | scan
  | sale
  | coldChainAlert
  | stockUpdate
  | expiryEntry
  | supplierUpdate
  | shipment
  | recallNotice
  | inventoryException
deriving DecidableEq

/-- The value of an event type. -/
def EventType.value : EventType → String
  | .scan => "scan"
  | .sale => "sale"
  | .coldChainAlert => "cold_chain_alert"
  | .stockUpdate => "stock_update"
  | .expiryEntry => "expiry_entry"
  | .supplierUpdate => "supplier_update"
  | .shipment => "shipment"
  | .recallNotice => "recall_notice"
  | .inventoryException => "inventory_exception"

/-- `EventSource`. -/
inductive EventSource where
  | api
  | manual
  | posCsv
  | scanner
  | wmsCsv
deriving DecidableEq

/-- The value of an event source. -/
def EventSource.value : EventSource → String
  | .api => "api"
  | .manual => "manual"
  | .posCsv => "pos_csv"
  | .scanner => "scanner"
  | .wmsCsv => "wms_csv"

/-- `DataDomain`: the trust boundary a record may cross. -/
inductive DataDomain where
  | operationalTwin
  | worldSimulation
  | trainingFixture
  | twinScenario
deriving DecidableEq

/-- The value of a data domain. -/
def DataDomain.value : DataDomain → String
  | .operationalTwin => "operational_twin"
  | .worldSimulation => "world_simulation"
  | .trainingFixture => "training_fixture"
  | .twinScenario => "twin_scenario"

/-- The data domains, in the order of their declaration. -/
def DataDomain.all : List DataDomain :=
  [.operationalTwin, .worldSimulation, .trainingFixture, .twinScenario]

/-- `normalize_domain`, followed by the lookup of the domain with that value. -/
def normalizeDomain (value : Value) (default : DataDomain) : Except Exc DataDomain :=
  let candidate := lower (strip (value.orElse (.str default.value)).toText)
  match DataDomain.all.find? fun d => d.value = candidate with
  | some d => .ok d
  | none => .error (.valueError ("unsupported data_domain: " ++ Value.reprText candidate))

/-! ## Events -/

/-- `Event`, with what its constructor has checked. -/
structure Event where
  id : String
  type : EventType
  ts : Timestamp
  actor : String
  payload : List (String × Value)
  source : EventSource
  tenantId : String
  dataDomain : DataDomain
  correlationId : String
  causationId : Option String
  schemaVersion : String
  id_ne : id ≠ ""
  actor_ne : actor ≠ ""
  tenantId_ne : tenantId ≠ ""
  correlationId_ne : correlationId ≠ ""
deriving DecidableEq

/-- The check of the payload's own data domain: absent, or the domain of the event. -/
def checkPayloadDomain (payload : List (String × Value)) (dataDomain : DataDomain) :
    Except Exc Unit :=
  let payloadDomain := Value.get payload "data_domain"
  if payloadDomain = .none then .ok ()
  else match normalizeDomain payloadDomain dataDomain with
    | .error e => .error e
    | .ok normalized =>
      if normalized = dataDomain then .ok ()
      else .error (.valueError "event payload data_domain conflicts with event data_domain")

/-- `Event(...)` with `__post_init__`; an empty correlation id becomes the id. -/
def Event.build (id : String) (type : EventType) (ts : Timestamp) (actor : String)
    (payload : List (String × Value)) (source : EventSource) (tenantId : String)
    (dataDomain : DataDomain) (correlationId : String) (causationId : Option String)
    (schemaVersion : String) : Except Exc Event :=
  if hid : id ≠ "" then
    if hactor : actor ≠ "" then
      if htenant : tenantId ≠ "" then
        match checkPayloadDomain payload dataDomain with
        | .error e => .error e
        | .ok () =>
          if dataDomain = .operationalTwin ∧ (Value.get payload "synthetic" = .bool true ∨
              Value.get payload "synthetic_probe" = .bool true) then
            .error (.valueError "synthetic event payload requires a non-operational data_domain")
          else
            .ok
              { id, type, ts, actor, payload, source, tenantId, dataDomain
                correlationId := if correlationId = "" then id else correlationId
                causationId, schemaVersion
                id_ne := hid, actor_ne := hactor, tenantId_ne := htenant
                correlationId_ne := by split <;> assumption }
      else .error (.valueError "event tenant_id is required")
    else .error (.valueError "event actor is required")
  else .error (.valueError "event id is required")

/-- The constructor keeps the id it is given. -/
theorem Event.id_of_build {id : String} {type : EventType} {ts : Timestamp} {actor : String}
    {payload : List (String × Value)} {source : EventSource} {tenantId : String}
    {dataDomain : DataDomain} {correlationId : String} {causationId : Option String}
    {schemaVersion : String} {event : Event}
    (h : Event.build id type ts actor payload source tenantId dataDomain correlationId causationId
      schemaVersion = .ok event) : event.id = id := by
  unfold Event.build at h
  split at h
  · split at h
    · split at h
      · split at h
        · cases h
        · split at h
          · cases h
          · rw [← Except.ok.inj h]
      · cases h
    · cases h
  · cases h

/-- A text or `None`. -/
def optionalText : Option String → Value
  | some s => .str s
  | none => .none

/-- `to_dict`. -/
def Event.toDict (e : Event) : List (String × Value) :=
  [("id", .str e.id), ("type", .str e.type.value), ("ts", .str e.ts.isoformat),
    ("actor", .str e.actor), ("payload", .dict e.payload), ("source", .str e.source.value),
    ("tenant_id", .str e.tenantId), ("data_domain", .str e.dataDomain.value),
    ("correlation_id", .str e.correlationId), ("causation_id", optionalText e.causationId),
    ("schema_version", .str e.schemaVersion)]

theorem Event.nodup_toDict (e : Event) : (e.toDict.map Prod.fst).Nodup := by
  change ["id", "type", "ts", "actor", "payload", "source", "tenant_id", "data_domain",
    "correlation_id", "causation_id", "schema_version"].Nodup
  decide

-- the texts that the events of several fixed inputs share
theorem tenantA_ne : "tenant_a" ≠ "" := by decide

theorem scanner_ne : "scanner" ≠ "" := by decide

end ShelfWise
