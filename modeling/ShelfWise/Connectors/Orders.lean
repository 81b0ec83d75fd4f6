import ShelfWise.Connectors.CsvIntake
import ShelfWise.Connectors.RowEvents

/-!
# Orders of the point of sale

`connectors/systems/shopify.py` and `connectors/systems/lightspeed.py`: an order becomes one inbound
record for each of its line items, and all of them carry the whole order as their raw payload. The id
of the source object is the id of the order, a colon and the id of the line.

The two mappers differ in the fields they read of a line (`LineReader`) and of the order.
-/

namespace ShelfWise.Connectors

open Py

/-! ## Quantities -/

/-- What `parse_quantity` returns. -/
inductive PosQuantity where
  | int (n : ℤ)
  | decimal (d : Decimal)
deriving DecidableEq

/-- `parse_quantity`. -/
def parseQuantity (value : Value) : Except Exc PosQuantity :=
  match (printed (value.orElse (.str "0"))).toOption.bind Decimal.ofText with
  | none => .error (.valueError "quantity is not numeric")
  | some quantity =>
    if quantity.isFinite = false then .error (.valueError "quantity must be finite")
    else if quantity.isIntegral then .ok (.int quantity.truncate)
    else .ok (.decimal quantity)

/-- `serialise` of a quantity. -/
def PosQuantity.serialise : PosQuantity → Value
  | .int n => .int n
  | .decimal d => .str d.str

/-- `quantity <= 0`. -/
def PosQuantity.notPositive : PosQuantity → Bool
  | .int n => n ≤ 0
  | .decimal d => d.toRat ≤ 0

/-! ## Lines -/

/-- What the records of one order share. -/
structure SaleHeader where
  tenantId : String
  orderId : String
  locationId : String
  soldAt : Timestamp
  raw : List (String × Value)

/-- `SalesLine` of an order, without the fields of its header. -/
structure PosLine where
  lineId : String
  sku : String
  quantity : PosQuantity
  unitPrice : Money
deriving DecidableEq

/-- `serialise` of a line: `asdict` turns the price into a dictionary of its two fields. -/
def serialiseLine (sale : SaleHeader) (line : PosLine) : List (String × Value) :=
  [("tenant_id", .str sale.tenantId), ("order_id", .str sale.orderId),
    ("line_id", .str line.lineId), ("sku", .str line.sku), ("location_id", .str sale.locationId),
    ("quantity", line.quantity.serialise),
    ("unit_price", .dict [("minor_units", .int line.unitPrice.minorUnits),
      ("currency", .str line.unitPrice.currency)]),
    ("sold_at", .str sale.soldAt.isoformat)]

/-- `validate_sales` of a line whose quantity may be fractional. -/
def validateLine (sale : SaleHeader) (line : PosLine) : ValidationResult :=
  (((((ValidationResult.passed.failIf (sale.tenantId = "") "sales line missing tenant_id").failIf
    (sale.orderId = "") "sales line missing order_id").failIf
    (line.lineId = "") "sales line missing line_id").failIf
    (line.sku = "") "sales line missing sku").failIf
    line.quantity.notPositive "sales line quantity must be positive").failIf
    (line.unitPrice.minorUnits < 0) "sales line unit_price cannot be negative"

/-- `wrap` of a sale. -/
def wrapSale (system : SourceSystem) (sale : SaleHeader) (objectId : String)
    (canonical : List (String × Value)) (validation : ValidationResult) : InboundRecord where
  tenantId := sale.tenantId
  sourceSystem := system
  sourceObjectType := "sales_line"
  sourceObjectId := objectId
  eventTime := sale.soldAt
  rawPayload := sale.raw
  canonicalType := "sales_line"
  correlationId := take 16 (sha256 (dumps (.dict sale.raw)))
  canonicalPayload := canonical
  validation := validation
  sourceQuality := sourceQuality validation
  actor := none

/-- The fields a mapper reads of a line item. -/
structure LineReader where
  lineId : List (String × Value) → Value
  sku : List (String × Value) → Value
  quantity : List (String × Value) → Value
  price : List (String × Value) → Value

/-- The line of a line item that is a dictionary. -/
def posLine (reader : LineReader) (lineId : String) (item : List (String × Value)) :
    Except Exc PosLine := do
  let sku ← printed (reader.sku item)
  let quantity ← parseQuantity (reader.quantity item)
  let unitPrice ← Money.zar (reader.price item)
  .ok ⟨lineId, sku, quantity, unitPrice⟩

/-- `str(exc)` of an exception that is caught; only a price raises a decimal error. -/
def malformedText (price : Value) : Exc → String
  | .decimalError _ =>
    if (printed price).toOption.bind Decimal.ofText = none then
      "[<class 'decimal.ConversionSyntax'>]"
    else "[<class 'decimal.InvalidOperation'>]"
  | .valueError message | .typeError message => message
  | _ => ""

/-- The record of a line item: a malformed one fails its validation. -/
def lineRecord (system : SourceSystem) (reader : LineReader) (sale : SaleHeader) (line : Value) :
    Except Exc InboundRecord :=
  match line with
  | .dict item => do
    let lineId ← printed (reader.lineId item)
    let objectId := sale.orderId ++ ":" ++ lineId
    match posLine reader lineId item with
    | .ok built =>
      .ok (wrapSale system sale objectId (serialiseLine sale built) (validateLine sale built))
    | .error e =>
      if isMalformed false e then
        .ok (wrapSale system sale objectId [] (ValidationResult.passed.fail
          (system.value ++ " line item is malformed: " ++ malformedText (reader.price item) e)))
      else .error e
  | line => .error (.attributeError ("'" ++ line.typeName ++ "' object has no attribute 'get'"))

/-- The loop over the line items. -/
def lineRecords (system : SourceSystem) (reader : LineReader) (sale : SaleHeader) :
    List Value → Except Exc (List InboundRecord)
  | [] => .ok []
  | line :: rest => do
    let record ← lineRecord system reader sale line
    let records ← lineRecords system reader sale rest
    .ok (record :: records)

/-- The one record of an order without line items. -/
def emptyOrder (system : SourceSystem) (sale : SaleHeader) (message : String) : InboundRecord :=
  wrapSale system sale sale.orderId [] (ValidationResult.passed.fail message)

/-- `for item in value`. -/
def iterate : Value → Except Exc (List Value)
  | .list items => .ok items
  | .dict items => .ok (items.map fun e => .str e.1)
  | .str text => .ok (text.toList.map fun c => .str (String.singleton c))
  | value => .error (.typeError ("'" ++ value.typeName ++ "' object is not iterable"))

/-! ## Shopify -/

/-- What `map_shopify_order` reads of a line item. -/
def shopifyReader : LineReader where
  lineId := fun line => Value.getD line "id" (.str "unknown")
  sku := fun line => ((Value.get line "sku").orElse (Value.get line "product_id")).orElse (.str "")
  quantity := fun line => Value.getD line "quantity" (.int 0)
  price := fun line => Value.getD line "price" (.str "0")

/-- `map_shopify_order`, at the time `now`. -/
def mapShopifyOrder (fromIso : String → Option Timestamp) (now : Timestamp) (tenantId : String)
    (payload : List (String × Value)) : Except Exc (List InboundRecord) := do
  let orderId ← printed (Value.getD payload "id" (.str "unknown"))
  let lineItems := (Value.get payload "line_items").orElse (.list [])
  let soldAt ← datetimeValue fromIso (Value.get payload "created_at") now
  if lineItems.truthy = false then
    .ok [emptyOrder .shopify ⟨tenantId, orderId, "", soldAt, payload⟩
      "shopify order has no line_items"]
  else
    let locationId ← printed ((Value.get payload "location_id").orElse (.str "online"))
    let lines ← iterate lineItems
    lineRecords .shopify shopifyReader ⟨tenantId, orderId, locationId, soldAt, payload⟩ lines

/-! ## Lightspeed -/

/-- What `map_lightspeed_sale` reads of a line item. -/
def lightspeedReader : LineReader where
  lineId := fun line => (((Value.get line "id").orElse (Value.get line "line_id")).orElse
    (Value.get line "product_id")).orElse (.str "unknown")
  sku := fun line => (((Value.get line "sku").orElse (Value.get line "custom_sku")).orElse
    (Value.get line "product_id")).orElse (.str "")
  quantity := fun line => ((Value.get line "quantity").orElse (Value.get line "qty")).orElse (.int 0)
  price := fun line =>
    ((Value.get line "price").orElse (Value.get line "unit_price")).orElse (.str "0")

/-- `_line_items`. -/
def lightspeedLines (payload : List (String × Value)) : List Value :=
  match ((Value.get payload "line_items").orElse (Value.get payload "lines")).orElse
      ((Value.get payload "saleLines").orElse (.list [])) with
  | .list items => items
  | _ => []

/-- `map_lightspeed_sale`, at the time `now`. -/
def mapLightspeedSale (fromIso : String → Option Timestamp) (now : Timestamp) (tenantId : String)
    (payload : List (String × Value)) : Except Exc (List InboundRecord) := do
  let orderId ← printed (((Value.get payload "id").orElse (Value.get payload "sale_id")).orElse
    (.str "unknown"))
  let soldAt ← datetimeValue fromIso
    ((Value.get payload "created_at").orElse (Value.get payload "sale_time")) now
  let lines := lightspeedLines payload
  if lines = [] then
    .ok [emptyOrder .lightspeed ⟨tenantId, orderId, "", soldAt, payload⟩
      "lightspeed sale has no line_items"]
  else
    let locationId ← printed ((((Value.get payload "location_id").orElse
      (Value.get payload "shop_id")).orElse (Value.get payload "register_id")).orElse (.str "store"))
    lineRecords .lightspeed lightspeedReader ⟨tenantId, orderId, locationId, soldAt, payload⟩ lines

/-- The two systems whose payloads are orders. -/
inductive PosSystem where
  | shopify
  | lightspeed
deriving DecidableEq

namespace PosSystem

/-- The source system. -/
def source : PosSystem → SourceSystem
  | .shopify => .shopify
  | .lightspeed => .lightspeed

/-- The reader of the mapper. -/
def reader : PosSystem → LineReader
  | .shopify => shopifyReader
  | .lightspeed => lightspeedReader

/-- The mapper of the system. -/
def map (fromIso : String → Option Timestamp) (now : Timestamp) :
    PosSystem → String → List (String × Value) → Except Exc (List InboundRecord)
  | .shopify => mapShopifyOrder fromIso now
  | .lightspeed => mapLightspeedSale fromIso now

/-- The value an order is identified with. -/
def orderIdValue (payload : List (String × Value)) : PosSystem → Value
  | .shopify => Value.getD payload "id" (.str "unknown")
  | .lightspeed => ((Value.get payload "id").orElse (Value.get payload "sale_id")).orElse
      (.str "unknown")

/-- The line items of an order; `none` when the field is no list. -/
def lineItems (payload : List (String × Value)) : PosSystem → Option (List Value)
  | .shopify => match (Value.get payload "line_items").orElse (.list []) with
    | .list items => some items
    | _ => none
  | .lightspeed => some (lightspeedLines payload)

/-- The value of the time of an order. -/
def timeValue (payload : List (String × Value)) : PosSystem → Value
  | .shopify => Value.get payload "created_at"
  | .lightspeed => (Value.get payload "created_at").orElse (Value.get payload "sale_time")

/-- The value of the location of an order. -/
def locationValue (payload : List (String × Value)) : PosSystem → Value
  | .shopify => (Value.get payload "location_id").orElse (.str "online")
  | .lightspeed => (((Value.get payload "location_id").orElse
      (Value.get payload "shop_id")).orElse (Value.get payload "register_id")).orElse (.str "store")

end PosSystem

/-! ## Well-formed orders -/

/-- A line of an order as it was sold. -/
structure OrderLine where
  lineId : String
  sku : String
  quantity : ℤ
  unitPrice : Money
deriving DecidableEq

/-- The line item is a dictionary with a product, a positive integral quantity and a price; its id can
be printed. -/
structure LineItem (reader : LineReader) (line : Value) (sold : OrderLine) : Prop where
  item : ∃ item, line = .dict item ∧ printed (reader.lineId item) = .ok sold.lineId ∧
    printed (reader.sku item) = .ok sold.sku ∧
    parseQuantity (reader.quantity item) = .ok (.int sold.quantity) ∧
    Money.zar (reader.price item) = .ok sold.unitPrice
  sku_ne : sold.sku ≠ ""
  positive : 0 < sold.quantity
  priced : 0 ≤ sold.unitPrice.minorUnits

/-- An order: what its records share, and its lines. -/
structure Order where
  sale : SaleHeader
  lines : List OrderLine

/-- The payload is a well-formed order of the system, with any list of well-formed line items. -/
structure WellFormedOrder (fromIso : String → Option Timestamp) (now : Timestamp)
    (system : PosSystem) (tenantId : String) (payload : List (String × Value)) (order : Order) :
    Prop where
  tenantId_ne : tenantId ≠ ""
  tenant : order.sale.tenantId = tenantId
  raw : order.sale.raw = payload
  orderId : printed (system.orderIdValue payload) = .ok order.sale.orderId
  orderId_ne : order.sale.orderId ≠ ""
  locationId : printed (system.locationValue payload) = .ok order.sale.locationId
  soldAt : datetimeValue fromIso (system.timeValue payload) now = .ok order.sale.soldAt
  lines : ∃ items, system.lineItems payload = some items ∧
    List.Forall₂ (LineItem system.reader) items order.lines

/-- A datetime is read back from the text it prints, one that was parsed as well as the clock. -/
structure ReadsIso (fromIso : String → Option Timestamp) (now : Timestamp) : Prop where
  parsed : ∀ text t, fromIso text = some t → fromIso (replaceZ t.isoformat) = some t
  clock : fromIso (replaceZ now.isoformat) = some now

/-- The line of the record. -/
def OrderLine.pos (sold : OrderLine) : PosLine :=
  ⟨sold.lineId, sold.sku, .int sold.quantity, sold.unitPrice⟩

/-- The id of the source object of a line. -/
def Order.objectId (order : Order) (sold : OrderLine) : String :=
  order.sale.orderId ++ ":" ++ sold.lineId

/-- The record of a line. -/
def Order.record (order : Order) (system : PosSystem) (sold : OrderLine) : InboundRecord :=
  wrapSale system.source order.sale (order.objectId sold) (serialiseLine order.sale sold.pos)
    (validateLine order.sale sold.pos)

section

variable {fromIso : String → Option Timestamp} {now : Timestamp} {system : PosSystem}
  {tenantId : String} {payload : List (String × Value)} {order : Order}

/-- The time of an order is read back. -/
theorem WellFormedOrder.reads (h : WellFormedOrder fromIso now system tenantId payload order)
    (hiso : ReadsIso fromIso now) :
    fromIso (replaceZ order.sale.soldAt.isoformat) = some order.sale.soldAt := by
  have hread := h.soldAt
  unfold datetimeValue at hread
  split at hread
  · split at hread
    · rw [← Except.ok.inj hread]
      exact hiso.clock
    · split at hread
      · rename_i t hparsed
        rw [← Except.ok.inj hread]
        exact hiso.parsed _ _ hparsed
      · cases hread
  · rw [← Except.ok.inj hread]
    exact hiso.clock

theorem lineRecord_of_item {line : Value} {sold : OrderLine}
    (h : LineItem system.reader line sold) :
    lineRecord system.source system.reader order.sale line = .ok (order.record system sold) := by
  obtain ⟨item, rfl, hid, hsku, hquantity, hprice⟩ := h.item
  have hline : posLine system.reader sold.lineId item = .ok sold.pos := by
    unfold posLine
    simp only [hsku, hquantity, hprice, bind, Except.bind]
    rfl
  unfold lineRecord
  simp only [hid, hline, bind, Except.bind]
  rfl

variable (order) in
theorem lineRecords_of_items {items : List Value} {lines : List OrderLine}
    (h : List.Forall₂ (LineItem system.reader) items lines) :
    lineRecords system.source system.reader order.sale items =
      .ok (lines.map (order.record system)) := by
  induction h with
  | nil => rfl
  | cons hline _ ih =>
    rw [lineRecords, lineRecord_of_item hline, ih]
    rfl

/-- A well-formed order becomes the records of its lines. -/
theorem map_of_wellFormed (h : WellFormedOrder fromIso now system tenantId payload order)
    (hlines : order.lines ≠ []) :
    system.map fromIso now tenantId payload = .ok (order.lines.map (order.record system)) := by
  obtain ⟨items, hitems, hall⟩ := h.lines
  have hne : items ≠ [] := by
    intro hempty
    rw [hempty] at hall
    exact hlines (List.forall₂_nil_left_iff.mp hall)
  have hrecords := lineRecords_of_items order hall
  have hsale : order.sale = ⟨tenantId, order.sale.orderId, order.sale.locationId, order.sale.soldAt,
      payload⟩ := by
    rw [← h.tenant, ← h.raw]
  rw [hsale] at hrecords
  have hid := h.orderId
  have htime := h.soldAt
  have hplace := h.locationId
  cases system with
  | shopify =>
    dsimp only [PosSystem.lineItems] at hitems
    split at hitems
    · rename_i listed hlisted
      cases hitems
      have htruthy : (Value.list items).truthy = true := by simpa [Value.truthy] using hne
      change mapShopifyOrder fromIso now tenantId payload = _
      unfold mapShopifyOrder
      rw [hlisted]
      dsimp only [PosSystem.orderIdValue, PosSystem.timeValue, PosSystem.locationValue]
        at hid htime hplace
      simp only [hid, htime, hplace, htruthy, iterate, bind, Except.bind]
      exact hrecords
    · cases hitems
  | lightspeed =>
    cases hitems
    change mapLightspeedSale fromIso now tenantId payload = _
    unfold mapLightspeedSale
    dsimp only [PosSystem.orderIdValue, PosSystem.timeValue, PosSystem.locationValue]
      at hid htime hplace
    simp only [hid, htime, hplace, bind, Except.bind, if_neg hne]
    exact hrecords

/-- An order without line items becomes one record that fails its validation. -/
theorem map_of_empty (h : WellFormedOrder fromIso now system tenantId payload order)
    (hlines : order.lines = []) :
    ∃ record, system.map fromIso now tenantId payload = .ok [record] ∧
      record.validation.ok = false := by
  obtain ⟨items, hitems, hall⟩ := h.lines
  have hempty : items = [] := by
    rw [hlines] at hall
    exact List.forall₂_nil_right_iff.mp hall
  subst hempty
  have hid := h.orderId
  have htime := h.soldAt
  cases system with
  | shopify =>
    dsimp only [PosSystem.lineItems] at hitems
    split at hitems
    · rename_i listed hlisted
      cases hitems
      change ∃ record, mapShopifyOrder fromIso now tenantId payload = .ok [record] ∧ _
      unfold mapShopifyOrder
      rw [hlisted]
      dsimp only [PosSystem.orderIdValue, PosSystem.timeValue] at hid htime
      simp only [hid, htime, bind, Except.bind]
      exact ⟨_, rfl, rfl⟩
    · cases hitems
  | lightspeed =>
    have hnone : lightspeedLines payload = [] := Option.some.inj hitems
    change ∃ record, mapLightspeedSale fromIso now tenantId payload = .ok [record] ∧ _
    unfold mapLightspeedSale
    dsimp only [PosSystem.orderIdValue, PosSystem.timeValue] at hid htime
    simp only [hid, htime, hnone, bind, Except.bind]
    exact ⟨_, rfl, rfl⟩

end

end ShelfWise.Connectors
