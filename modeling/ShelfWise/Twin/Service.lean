import ShelfWise.Twin.Projector
import ShelfWise.Py.Digest

/-!
# The twin service

`shelfwise_twin/service.py`: the translation of an event into observations, its projection into the
twin store, onboarding, replay and the snapshot. `projectEvent` is the program of atomic store
steps, so that it can be cut short; a validation error ends it after the steps taken so far.

The conversion of a text to a double is a parameter of the service: only the quality hint of a
payload uses it. The manifests live in a registry of their own.
-/

namespace ShelfWise.Twin

open Py Sys TwinStore

/-- What the service is built with. -/
structure TwinService where
  policyFor : SourcePolicyResolver
  floatOfText : String → Option PyFloat

/-- The service with the default policy, for payloads without a quality hint in text form. -/
def defaultService : TwinService := ⟨defaultSourcePolicy, fun _ => none⟩

/-! ## Identifiers -/

/-- `_text`: no blank text. -/
def text (value : Value) : Option String :=
  if value = .none then none
  else
    let result := strip value.toText
    if result = "" then none else some result

/-- `_store_id`. -/
def storeIdOf (payload : List (String × Value)) : Option String :=
  ["store_id", "site_id", "location", "location_id"].findSome? fun key =>
    text (Value.get payload key)

/-- A character `_slug` keeps. -/
def isSlugChar (c : Char) : Bool :=
  ('a' ≤ c ∧ c ≤ 'z') ∨ ('A' ≤ c ∧ c ≤ 'Z') ∨ ('0' ≤ c ∧ c ≤ '9') ∨ c = '_' ∨ c = '.' ∨ c = '-'

/-- Runs of other characters become one underscore; `inRun` tells that the last one was in a run. -/
def slugChars (inRun : Bool) : List Char → List Char
  | [] => []
  | c :: rest =>
    if isSlugChar c then c :: slugChars false rest
    else if inRun then slugChars true rest
    else '_' :: slugChars true rest

/-- `_slug`. -/
def slug (value : String) : String :=
  let result := String.ofList ((slugChars false (strip value).toList).take 120)
  if result = "" then "unknown" else result

/-- `_urn`. -/
def urn (tenantId storeId entityType localId : String) : String :=
  "urn:shelfwise:" ++ slug tenantId ++ ":" ++ slug storeId ++ ":" ++ slug entityType ++ ":" ++
    slug localId

/-- `_local_id`: what follows the last colon. -/
def localIdOf (twinId : String) : String :=
  String.ofList (twinId.toList.rtakeWhile (· ≠ ':'))

/-! ## Observed values -/

/-- A rational rounded to an integer, ties to even. -/
def roundHalfEven (q : ℚ) : ℤ :=
  let below := q.floor
  if q - below < 1 / 2 then below
  else if q - below > 1 / 2 then below + 1
  else if below % 2 = 0 then below else below + 1

/-- `int((d * 100).quantize(Decimal("1")))` in the default context of 28 digits; `none` when an
arithmetic error is raised. -/
def hundredfold : Decimal → Option ℤ
  | .finite negative coefficient exponent =>
    let digits := (Nat.toDigits 10 (coefficient * 100)).length
    let magnitude : ℚ :=
      if digits ≤ 28 then (coefficient * 100 : ℕ) * (10 : ℚ) ^ exponent
      else roundHalfEven ((coefficient * 100 : ℕ) / 10 ^ (digits - 28)) *
        (10 : ℚ) ^ (exponent + (digits - 28 : ℕ))
    let rounded := roundHalfEven magnitude
    if 10 ^ 28 ≤ rounded then none else some (if negative then -rounded else rounded)
  | _ => none

/-- `_money_minor_units`. -/
def moneyMinorUnits (amount explicitMinorUnits : Value) : Except Exc (Option ℤ) :=
  if explicitMinorUnits ≠ .none then explicitMinorUnits.intOrNone
  else match amount with
    | .dict items => match Dict.lookup "minor_units" items with
      | some value => value.intOrNone
      | none => .ok none
    | .none => .ok none
    | value => .ok ((Decimal.ofText value.toText).bind hundredfold)

/-- A double between zero and one: `max(0.0, min(1.0, f))`. -/
def clampUnit (f : PyFloat) : PyFloat :=
  match f.value with
  | .finite q => if q < 1 then (if q > 0 then f else ⟨.finite 0, "0.0"⟩) else ⟨.finite 1, "1.0"⟩
  | .infinity negative => if negative then ⟨.finite 0, "0.0"⟩ else ⟨.finite 1, "1.0"⟩
  | .nan => ⟨.finite 1, "1.0"⟩

/-- The first integer that no double can hold, by size. -/
def doubleBound : ℕ := 2 ^ 1024 - 2 ^ 970

/-- `_source_quality`. -/
def sourceQuality (floatOfText : String → Option PyFloat) (payload : List (String × Value)) :
    Except Exc PyFloat :=
  match Value.getD payload "source_quality" (.float ⟨.finite 1, "1.0"⟩) with
  | .float f => .ok (clampUnit f)
  | .bool b => .ok (if b then ⟨.finite 1, "1.0"⟩ else ⟨.finite 0, "0.0"⟩)
  | .int n =>
    if doubleBound ≤ n.natAbs then .error (.overflowError "int too large to convert to float")
    else .ok (if 1 ≤ n then ⟨.finite 1, "1.0"⟩ else ⟨.finite 0, "0.0"⟩)
  | .str s => .ok (match floatOfText s with
    | some f => clampUnit f
    | none => ⟨.finite 0, "0.0"⟩)
  | _ => .ok ⟨.finite 0, "0.0"⟩

/-! ## Specifications -/

/-- `ObservationSpec`. -/
structure ObservationSpec where
  twinId : String
  entityType : String
  displayName : String
  propertyName : String
  value : Value
  unit : Option String
deriving DecidableEq

/-- `_append_if_present` for a row of properties of one entity. -/
def presentSpecs (twinId entityType displayName : String)
    (rows : List (String × Value × Option String)) : List ObservationSpec :=
  rows.filterMap fun row =>
    if row.2.1 = .none then none
    else some ⟨twinId, entityType, displayName, row.1, row.2.1, row.2.2⟩

/-- An integer or `None`. -/
def optionalInt : Option ℤ → Value
  | some n => .int n
  | none => .none

/-- `_event_specs`. -/
def eventSpecs (event : Event) (storeId : String) : Except Exc (List ObservationSpec) :=
  let payload := event.payload
  let get := Value.get payload
  let sku := text (get "sku")
  let subjectId := ((sku <|> text (get "asset_id")) <|> text (get "supplier")).getD storeId
  let productName := (text (get "product")).getD ("Entity " ++ subjectId)
  let productTwinId := sku.map (urn event.tenantId storeId "product")
  let twinId := productTwinId.getD (urn event.tenantId storeId "asset" subjectId)
  let units := some "units"
  let cents := some "ZAR cents"
  match event.type with
  | .stockUpdate =>
    match moneyMinorUnits (get "unit_cost")
      (Value.getD payload "unit_cost_cents" (get "unit_cost_minor_units")) with
    | .error e => .error e
    | .ok unitCost =>
      match moneyMinorUnits (get "unit_price")
        (Value.getD payload "catalog_price_cents" (get "unit_price_minor_units")) with
      | .error e => .error e
      | .ok unitPrice => .ok (presentSpecs twinId "product" productName
        [("inventory.on_hand", Value.getD payload "on_hand" (get "quantity"), units),
          ("inventory.reorder_point", get "reorder_point", units),
          ("inventory.stock_state", get "stock_state", none),
          ("catalog.category", get "category", none),
          ("catalog.unit_cost_minor_units", optionalInt unitCost, cents),
          ("catalog.unit_price_minor_units", optionalInt unitPrice, cents),
          ("sourcing.supplier_id", Value.getD payload "supplier" (get "supplier_id"), none)])
  | .sale => .ok (presentSpecs twinId "product" productName
    [("sales.units", Value.getD payload "units" (get "quantity"), units),
      ("sales.till_price_cents",
        Value.getD payload "unit_price_cents" (get "unit_price_minor_units"), cents),
      ("sales.catalog_price_cents", get "catalog_price_cents", cents),
      ("catalog.category", get "category", none)])
  | .scan => .ok (presentSpecs twinId "product" productName
    [("scan.sku", optionalText sku, none), ("scan.barcode", get "barcode", none)])
  | .expiryEntry => .ok (presentSpecs twinId "product" productName
    [("expiry.days_to_expiry", get "days_to_expiry", some "days"),
      ("expiry.batch_id", get "batch_id", none), ("expiry.storage", get "storage", none)])
  | .coldChainAlert => .ok (presentSpecs twinId "asset" productName
    ([("cold_chain.diagnosis", get "diagnosis", none), ("cold_chain.severity", get "severity", none),
      ("cold_chain.predicted_minutes_to_unsafe", get "predicted_minutes_to_unsafe", some "minutes"),
      ("cold_chain.measured_outage_hours", get "measured_outage_hours", some "hours"),
      ("cold_chain.average_temp_c", Value.getD payload "temp_c" (get "average_temp_c"),
        some "degC")] ++
      match get "stock_at_risk" with
      | .dict risk =>
        [("cold_chain.stock_at_risk_minor_units", Value.get risk "minor_units", cents)]
      | _ => []))
  | .shipment =>
    let orderId := (text (get "order_id")).getD event.id
    .ok (presentSpecs (urn event.tenantId storeId "order" orderId) "order" ("Order " ++ orderId)
      [("logistics.ordered_units", get "ordered_units", units), ("logistics.eta", get "eta", none)])
  | .supplierUpdate =>
    let supplier := (text (get "supplier")).getD "unknown"
    .ok (presentSpecs (urn event.tenantId storeId "supplier" supplier) "supplier" supplier
      [("supplier.lead_time_days",
          Value.getD payload "lead_time_days" (get "avg_lead_time_days"), some "days"),
        ("supplier.recent_delay", get "recent_delay", none),
        ("supplier.fill_rate", get "fill_rate", none),
        ("supplier.available_units", get "available_units", units),
        ("supplier.distance_km", get "distance_km", some "km")] ++
      match productTwinId with
      | some productTwinId => presentSpecs productTwinId "product" productName
        [("sourcing.supplier_id", .str supplier, none)]
      | none => [])
  | .recallNotice | .inventoryException =>
    let pre :=
      if event.type = .recallNotice then "quality.recall" else "inventory.exception"
    .ok (presentSpecs twinId (if sku.isSome then "product" else "store") productName
      [(pre ++ ".status", .str "active", none),
        (pre ++ ".detail", Value.getD payload "reason" (get "notice"), none)])

/-- The digest that identifies an event's property. -/
def specDigest (event : Event) (spec : ObservationSpec) : String :=
  sha256 (dumps (.dict [("event_id", .str event.id), ("property", .str spec.propertyName),
    ("value", spec.value)]))

/-- `_observation_for_spec`. -/
def observationForSpec (svc : TwinService) (event : Event) (spec : ObservationSpec)
    (twinId storeId : String) : Except Exc TwinObservation :=
  match sourceQuality svc.floatOfText event.payload with
  | .error e => .error e
  | .ok quality =>
    let digest := specDigest event spec
    TwinObservation.validated
      { observationId := "obs_" ++ take 32 digest
        tenantId := event.tenantId
        storeId := storeId
        twinId := twinId
        propertyName := spec.propertyName
        lane := .reported
        value := spec.value
        unit := spec.unit
        observedAt := event.ts
        sourceSystem := event.source.value
        sourceObjectId := event.id
        sourceSequence := text (Value.get event.payload "sequence")
        sourceQuality := quality
        schemaVersion := event.schemaVersion
        correlationId := event.correlationId
        causationId := event.causationId
        scenarioBranchId := none
        payloadHash := digest }

/-! ## Store steps -/

/-- `_ensure_entity`. -/
def ensureEntityStep (entity : TwinEntity) : Program TwinOp TwinStore (Except Exc TwinEntity) :=
  match entity.validated with
  | .error e => .ret (.error e)
  | .ok entity => Program.call .ensureEntity (ensureEntity entity) >>= fun e => .ret (.ok e)

/-- The relationship `_link` adds: its id is a digest of its ends. -/
def linkOf (tenantId source target : String) (eventTs : Timestamp) : TwinRelationship where
  relationshipId :=
    "rel_" ++ take 24 (sha256 (tenantId ++ "|" ++ source ++ "|" ++ "contains" ++ "|" ++ target))
  tenantId := tenantId
  sourceTwinId := source
  relationshipType := "contains"
  targetTwinId := target
  attributes := []
  validFrom := eventTs
  validTo := none

/-- `_link`. -/
def linkStep (tenantId source target : String) (eventTs : Timestamp) :
    Program TwinOp TwinStore (Except Exc TwinRelationship) :=
  match (linkOf tenantId source target eventTs).validated with
  | .error e => .ret (.error e)
  | .ok relationship =>
    Program.call .addRelationship (addRelationship relationship) >>= fun r => .ret (.ok r)

/-- The entity an event's projection ensures. -/
def eventEntity (event : Event) (storeId entityType localId displayName : String) : TwinEntity where
  twinId := urn event.tenantId storeId entityType localId
  tenantId := event.tenantId
  storeId := storeId
  entityType := entityType
  displayName := take 200 displayName
  modelVersion := "twin-v1"
  attributes := []
  createdAt := event.ts
  retiredAt := none

/-- The store entity of an event. -/
def eventStoreEntity (event : Event) (storeId : String) : TwinEntity :=
  eventEntity event storeId "store" storeId ("Store " ++ storeId)

/-- The entity of a specification. -/
def eventSpecEntity (event : Event) (storeId : String) (spec : ObservationSpec) : TwinEntity :=
  eventEntity event storeId spec.entityType (localIdOf spec.twinId) spec.displayName

/-- The loop of `project_event` over the specifications. -/
def projectSpecs (svc : TwinService) (now : Timestamp) (event : Event) (storeId : String)
    (storeEntity : TwinEntity) : List ObservationSpec → List ProjectionResult →
      Program TwinOp TwinStore (Except Exc (List ProjectionResult))
  | [], results => .ret (.ok results)
  | spec :: rest, results =>
    (ensureEntityStep (eventSpecEntity event storeId spec)).bindExcept fun entity =>
      (linkStep event.tenantId storeEntity.twinId entity.twinId event.ts).bindExcept fun _ =>
        match observationForSpec svc event spec entity.twinId storeId with
        | .error e => .ret (.error e)
        | .ok o => apply svc.policyFor now o >>= fun result =>
          projectSpecs svc now event storeId storeEntity rest (results ++ [result])

/-- `DataDomainBoundaryError`. -/
def boundaryError (actual : DataDomain) : Exc :=
  .valueError ("operational twin projection requires data_domain='operational_twin'; received " ++
    Value.reprText actual.value)

/-- `project_event`. -/
def projectEvent (svc : TwinService) (now : Timestamp) (event : Event) :
    Program TwinOp TwinStore (Except Exc (List ProjectionResult)) :=
  if event.dataDomain ≠ .operationalTwin then .ret (.error (boundaryError event.dataDomain))
  else match storeIdOf event.payload with
    | none => .ret (.ok [])
    | some storeId =>
      (ensureEntityStep (eventStoreEntity event storeId)).bindExcept fun storeEntity =>
        match eventSpecs event storeId with
        | .error e => .ret (.error e)
        | .ok specs => projectSpecs svc now event storeId storeEntity specs []

end ShelfWise.Twin
