import ShelfWise.Connectors.Odoo
import ShelfWise.Ingest.Inbound
import ShelfWise.Py.Csv

/-!
# The intake of spreadsheets

`shelfwise_connectors/csv_intake.py`: a client's export is read with `csv.reader`, its columns are
matched with the fields of a kind of row, and every row becomes an inbound record, an invalid row one
with a failed validation. `preview_csv` and `build_records` share the parser and the validators; what
the two of them leave to the stores is not looked at by either.

What the sniffer of the standard library makes of a sample and what the date parsers make of a text
are parameters: `none` is their error. A datetime is read back from the text it prints.
-/

namespace ShelfWise.Connectors

open Py Sys Ingest

/-! ## The environment -/

/-- A date: the number of its day, and the text `isoformat` prints. -/
structure CalendarDate where
  ordinal : ℤ
  isoformat : String
deriving DecidableEq

/-- What the intake of spreadsheets is wired with. -/
structure CsvEnv extends Intake where
  tables : CharTables
  sniff : String → Option Char
  dateFromIso : String → Option CalendarDate
  dateOf : Timestamp → CalendarDate
  reads_isoformat : ∀ text t, fromIso text = some t → fromIso (replaceZ t.isoformat) = some t

/-- `CSV_INTAKE_KINDS`. -/
inductive CsvKind where
  | products
  | stock
  | expiry
  | sales
deriving DecidableEq

/-- The value of a kind. -/
def CsvKind.value : CsvKind → String
  | .products => "products"
  | .stock => "stock"
  | .expiry => "expiry"
  | .sales => "sales"

/-- `CsvIntakeError`. -/
def csvIntakeError (message : String) : Exc := .raised "CsvIntakeError" message

/-- A row: the header and the text of each of its cells. -/
abbrev Cells := List (String × String)

/-- `values.get(key, "")`. -/
def cellText (values : Cells) (key : String) : String := (Dict.lookup key values).getD ""

/-- `values.get(key) or default`. -/
def cellOr (values : Cells) (key default : String) : String :=
  if cellText values key = "" then default else cellText values key

/-- `values.get(key) or None`. -/
def cellOption (values : Cells) (key : String) : Option String :=
  if cellText values key = "" then none else some (cellText values key)

/-! ## Columns -/

/-- `_FIELD_ALIASES`. -/
def fieldAliases : List (String × List String) :=
  [("sku", ["sku", "item code", "itemcode", "stock code", "stockcode", "product code", "code"]),
    ("barcode", ["barcode", "ean", "ean13", "upc"]),
    ("gtin", ["gtin", "gtin13", "gtin14"]),
    ("name", ["name", "product name", "item name", "description", "product"]),
    ("category", ["category", "department", "product category"]),
    ("brand", ["brand", "manufacturer"]),
    ("pack_size", ["pack size", "packsize", "size", "pack"]),
    ("unit_of_measure", ["unit of measure", "uom", "unit", "units"]),
    ("location_id", ["location", "location id", "store", "store id", "branch", "site"]),
    ("quantity", ["quantity", "qty", "on hand", "onhand", "qty on hand", "quantity on hand",
      "stock", "units on hand", "soh"]),
    ("stock_state", ["stock state", "state", "status"]),
    ("event_time", ["event time", "as of", "asof", "snapshot date", "count date"]),
    ("expiry_date", ["expiry date", "expiry", "expires", "best before", "best before date",
      "sell by", "sell by date", "use by", "sled"]),
    ("unit_price", ["unit price", "price", "selling price", "unit amount", "price each"]),
    ("sold_at", ["sold at", "date", "datetime", "timestamp", "sale date", "sale time"]),
    ("order_id", ["order id", "order", "receipt", "receipt no", "transaction id", "txn id"]),
    ("line_id", ["line id", "line", "line no", "line number"])]

/-- The required fields of a kind. -/
def CsvKind.required : CsvKind → List String
  | .products => ["name", "sku"]
  | .stock => ["sku", "location_id", "quantity"]
  | .expiry => ["sku", "location_id", "quantity", "expiry_date"]
  | .sales => ["sku", "quantity", "unit_price", "sold_at"]

/-- The optional fields of a kind. -/
def CsvKind.optional : CsvKind → List String
  | .products => ["barcode", "gtin", "category", "brand", "pack_size", "unit_of_measure"]
  | .stock => ["barcode", "gtin", "stock_state", "event_time"]
  | .expiry => []
  | .sales => ["location_id", "order_id", "line_id"]

/-- `text.split()`. -/
def splitWords (cs : List Char) : List (List Char) :=
  (cs.splitOnP isSpace).filter fun word => !word.isEmpty

/-- `_normalise_header`. -/
def normaliseHeader (tables : CharTables) (header : String) : String :=
  let spaced := String.ofList (header.toList.map fun c => if c = '_' ∨ c = '-' then ' ' else c)
  String.ofList ([' '].intercalate (splitWords (tables.lowerText spaced).toList))

/-- The header a field is matched with: the first alias that names one not taken yet. -/
def aliasHeader (tables : CharTables) (headers : List String) (mapping : Cells) (field : String) :
    Option String :=
  let normalised := Dict.ofItems (headers.map fun header => (normaliseHeader tables header, header))
  ((Dict.lookup field fieldAliases).getD []).findSome? fun name =>
    (normalised.get? (normaliseHeader tables name)).filter fun header =>
      header ∉ mapping.map Prod.snd

/-- The loop of `infer_mapping` over the known fields. -/
def inferFields (tables : CharTables) (headers : List String) : List String → Cells → Cells
  | [], mapping => mapping
  | field :: fields, mapping =>
    if (Dict.lookup field mapping).isSome then inferFields tables headers fields mapping
    else match aliasHeader tables headers mapping field with
      | some header => inferFields tables headers fields (mapping ++ [(field, header)])
      | none => inferFields tables headers fields mapping

/-- The loop of `infer_mapping` over the overrides. -/
def checkOverrides (kind : CsvKind) (headers : List String) : Cells → Except Exc Unit
  | [] => .ok ()
  | (field, header) :: overrides =>
    if field ∉ kind.required ++ kind.optional then
      .error (csvIntakeError ("unknown mapping field for " ++ Value.reprText kind.value ++ ": " ++
        Value.reprText field))
    else if header ∉ headers then
      .error (csvIntakeError ("mapped column " ++ Value.reprText header ++
        " is not in the file's header row"))
    else checkOverrides kind headers overrides

/-- `infer_mapping`: the mapping, and the required fields without a column. The overrides are a
dictionary in JSON. -/
def inferMapping (tables : CharTables) (kind : CsvKind) (headers : List String)
    (overrides : Cells) : Except Exc (Cells × List String) := do
  checkOverrides kind headers overrides
  let mapping := inferFields tables headers (kind.required ++ kind.optional) overrides
  .ok (mapping, kind.required.filter fun field => (Dict.lookup field mapping).isNone)

/-! ## Tables -/

/-- `MAX_CSV_ROWS`. -/
def maxCsvRows : ℕ := 20000

/-- The values of a row by header, from the position `index` on. -/
def rowValues (cells : List String) : ℕ → List String → Cells
  | _, [] => []
  | index, header :: headers =>
    if header = "" then rowValues cells (index + 1) headers
    else (header, (cells[index]?.map strip).getD "") :: rowValues cells (index + 1) headers

/-- The loop of `_parse_table` over the records after the header, with the number of the line and
the number of rows so far. -/
def tableRows (headers : List String) : ℕ → ℕ → List (Except Exc (List String)) →
    Except Exc (List (ℕ × Cells))
  | _, _, [] => .ok []
  | _, _, .error e :: _ => .error e
  | line, count, .ok cells :: records =>
    if cells.all fun cell => strip cell = "" then tableRows headers (line + 1) count records
    else if maxCsvRows ≤ count then
      .error (csvIntakeError ("the file exceeds " ++ toString maxCsvRows ++
        " data rows; split it and import in parts"))
    else do
      let rows ← tableRows headers (line + 1) (count + 1) records
      .ok ((line, rowValues cells 0 headers) :: rows)

/-- `_parse_table`. -/
def parseTable (env : CsvEnv) (text : String) : Except Exc (List String × List (ℕ × Cells)) :=
  if strip text = "" then .error (csvIntakeError "the CSV file is empty")
  else match Csv.reader ((env.sniff (take 4096 text)).getD ',') text with
    | [] => .error (csvIntakeError "the CSV file is empty")
    | .error e :: _ => .error e
    | .ok cells :: records => do
      let headers := cells.map strip
      if headers.all (· = "") then
        .error (csvIntakeError "the first line must be a header row of column names")
      else if ¬ (headers.filter (· ≠ "")).Nodup then
        .error (csvIntakeError "the header row contains duplicate column names")
      else
        let rows ← tableRows headers 2 0 records
        .ok (headers, rows)

/-! ## Fields -/

/-- Why a row cannot be built: a `_RowError`, which fails the row, or another exception, which ends
the call. -/
inductive RowFailure where
  | rowError (message : String)
  | raised (e : Exc)
deriving DecidableEq

/-- `_decimal_field`. -/
def decimalField (values : Cells) (key : String) : Except RowFailure Decimal :=
  match Decimal.ofText (cellOr values key "0") with
  | none => .error (.rowError (key ++ " is not numeric: " ++ Value.reprText (cellText values key)))
  | some quantity =>
    if quantity.isFinite then .ok quantity
    else .error (.rowError (key ++ " must be finite: " ++ Value.reprText (cellText values key)))

/-- `_money_field`. -/
def moneyField (values : Cells) (key : String) : Except RowFailure Money := do
  let amount ← decimalField values key
  (Money.zar (.str amount.str)).mapError .raised

/-- `_parse_datetime`. -/
def parseDatetime (env : CsvEnv) (text key : String) : Except RowFailure Timestamp :=
  match env.fromIso (replaceZ text) with
  | some t => .ok t
  | none => .error (.rowError (key ++ " must be ISO format (e.g. 2026-07-21 or " ++
      "2026-07-21T14:30:00), got " ++ Value.reprText text))

/-- `_date_field`. -/
def dateField (env : CsvEnv) (values : Cells) (key : String) : Except RowFailure CalendarDate :=
  let text := cellText values key
  if text = "" then .error (.rowError (key ++ " is required"))
  else match env.dateFromIso text with
    | some date => .ok date
    | none => match env.fromIso (replaceZ text) with
      | some t => .ok (env.dateOf t)
      | none => .error (.rowError (key ++ " must be an ISO date (e.g. 2026-07-21), got " ++
          Value.reprText text))

/-- `_datetime_field`. -/
def datetimeField (env : CsvEnv) (values : Cells) (key : String) : Except RowFailure Timestamp :=
  if cellText values key = "" then .error (.rowError (key ++ " is required"))
  else parseDatetime env (cellText values key) key

/-- `_optional_datetime_field`. -/
def optionalDatetimeField (env : CsvEnv) (values : Cells) (key : String) :
    Except RowFailure (Option Timestamp) :=
  if cellText values key = "" then .ok none
  else (parseDatetime env (cellText values key) key).map some

/-! ## Rows -/

/-- What a builder returns. -/
abbrev Built := Except RowFailure (List (String × Value) × ValidationResult)

/-- `fields.get("location_id") or default_location or default`. -/
def locationOf (fields : Cells) (defaultLocation : Option String) (default : String) : String :=
  cellOr fields "location_id" (if hasText defaultLocation then defaultLocation.getD "" else default)

/-- `_build_product`. -/
def buildProduct (fields : Cells) (tenantId : String) : Built :=
  let product : ProductMaster :=
    { tenantId
      sourceSystem := .csv
      sourceProductId := cellOr fields "sku" (cellOr fields "barcode" (cellText fields "gtin"))
      sku := cellOption fields "sku"
      gtin := cellOption fields "gtin"
      barcode := cellOption fields "barcode"
      name := cellOption fields "name"
      category := cellOption fields "category" }
  .ok (product.serialise ++
      [("brand", optionalText (cellOption fields "brand")),
        ("pack_size", optionalText (cellOption fields "pack_size")),
        ("unit_of_measure", optionalText (cellOption fields "unit_of_measure"))],
    validateProduct product)

/-- The state a row of stock names. -/
def stockStateField (tables : CharTables) (fields : Cells) : Except RowFailure StockState :=
  let text := tables.lowerText (strip (cellText fields "stock_state"))
  if text = "" then .ok .onHand
  else match StockState.ofText text with
    | .ok state => .ok state
    | .error _ => .error (.rowError ("unknown stock_state " ++ Value.reprText text ++
        "; expected one of " ++ ", ".intercalate (StockState.all.map StockState.value)))

/-- The canonical payload of a row of stock. -/
def stockCanonical (item : InventoryState) (eventTime : Option Timestamp) : List (String × Value) :=
  [("tenant_id", .str item.tenantId), ("sku", .str item.sku), ("location_id", .str item.locationId),
    ("quantity", .str item.quantity.str), ("stock_state", .str item.stockState.value),
    ("event_time", optionalText (eventTime.map (·.isoformat))), ("gtin", optionalText item.gtin),
    ("barcode", optionalText item.barcode)]

/-- `_build_stock`. -/
def buildStock (env : CsvEnv) (fields : Cells) (tenantId : String)
    (defaultLocation : Option String) : Built := do
  let stockState ← stockStateField env.tables fields
  let quantity ← decimalField fields "quantity"
  let eventTime ← optionalDatetimeField env fields "event_time"
  let item : InventoryState :=
    { tenantId, sku := cellText fields "sku", locationId := locationOf fields defaultLocation ""
      quantity, stockState
      -- no check reads the time of a state without one
      eventTime := eventTime.getD ⟨0, ""⟩
      gtin := cellOption fields "gtin", barcode := cellOption fields "barcode" }
  let validation ← (validateInventory item).mapError .raised
  .ok (stockCanonical item eventTime, validation)

/-- `ExpiryEntry`. -/
structure ExpiryEntry where
  tenantId : String
  sku : String
  locationId : String
  quantity : Decimal
  expiryDate : CalendarDate
deriving DecidableEq

/-- `validate_expiry`. -/
def validateExpiry (item : ExpiryEntry) : Except Exc ValidationResult := do
  let negative ← isBelowZero item.quantity
  .ok ((((ValidationResult.passed.failIf (item.tenantId = "") "expiry entry missing tenant_id").failIf
      (item.sku = "") "expiry entry missing sku").failIf
      (item.locationId = "") "expiry entry missing location_id").failIf
      negative "expiry entry quantity cannot be negative")

/-- The entry of a row of expiry dates. -/
def expiryEntry (env : CsvEnv) (fields : Cells) (tenantId : String)
    (defaultLocation : Option String) : Except RowFailure ExpiryEntry := do
  let quantity ← decimalField fields "quantity"
  let expiryDate ← dateField env fields "expiry_date"
  .ok { tenantId, sku := cellText fields "sku", locationId := locationOf fields defaultLocation ""
        quantity, expiryDate }

/-- The canonical payload of an entry. -/
def expiryCanonical (item : ExpiryEntry) : List (String × Value) :=
  [("tenant_id", .str item.tenantId), ("sku", .str item.sku), ("location_id", .str item.locationId),
    ("quantity", .str item.quantity.str), ("expiry_date", .str item.expiryDate.isoformat)]

/-- `_build_expiry`. -/
def buildExpiry (env : CsvEnv) (fields : Cells) (tenantId : String)
    (defaultLocation : Option String) : Built := do
  let item ← expiryEntry env fields tenantId defaultLocation
  let validation ← (validateExpiry item).mapError .raised
  .ok (expiryCanonical item, validation)

/-- `SalesLine`. -/
structure SalesLine where
  tenantId : String
  orderId : String
  lineId : String
  sku : String
  locationId : String
  quantity : ℤ
  unitPrice : Money
  soldAt : Timestamp
deriving DecidableEq

/-- `validate_sales`. -/
def validateSales (item : SalesLine) : ValidationResult :=
  (((((ValidationResult.passed.failIf (item.tenantId = "") "sales line missing tenant_id").failIf
    (item.orderId = "") "sales line missing order_id").failIf
    (item.lineId = "") "sales line missing line_id").failIf
    (item.sku = "") "sales line missing sku").failIf
    (item.quantity ≤ 0) "sales line quantity must be positive").failIf
    (item.unitPrice.minorUnits < 0) "sales line unit_price cannot be negative"

/-- `_row_content_key`. -/
def rowContentKey (fields : Cells) : String :=
  let keys := sortedBy id (fields.map Prod.fst)
  let basis := "|".intercalate (keys.map fun key => key ++ "=" ++ cellText fields key)
  take 16 (sha256 basis)

/-- The sale of a row. -/
def salesLine (env : CsvEnv) (fields : Cells) (tenantId : String)
    (defaultLocation : Option String) : Except RowFailure SalesLine := do
  let quantity ← decimalField fields "quantity"
  if quantity.isIntegral then
    let unitPrice ← moneyField fields "unit_price"
    let soldAt ← datetimeField env fields "sold_at"
    .ok { tenantId, orderId := cellOr fields "order_id" ("csvorder_" ++ rowContentKey fields)
          lineId := cellOr fields "line_id" ("csvline_" ++ rowContentKey fields)
          sku := cellText fields "sku", locationId := locationOf fields defaultLocation "store"
          quantity := quantity.truncate, unitPrice, soldAt }
  else .error (.rowError "fractional sales quantities are not supported in CSV sales import")

/-- `Money.to_dict`. -/
def Money.toDict (money : Money) : Except Exc (List (String × Value)) := do
  let amount ← money.amount
  .ok [("minor_units", .int money.minorUnits), ("currency", .str money.currency),
    ("amount", .str amount.str)]

/-- The canonical payload of a sale, with the price as a dictionary. -/
def salesCanonical (item : SalesLine) (unitPrice : List (String × Value)) : List (String × Value) :=
  [("tenant_id", .str item.tenantId), ("order_id", .str item.orderId),
    ("line_id", .str item.lineId), ("sku", .str item.sku), ("location_id", .str item.locationId),
    ("quantity", .int item.quantity), ("unit_price", .dict unitPrice),
    ("sold_at", .str item.soldAt.isoformat)]

/-- The warning of a row of sales without an order. -/
def noOrderWarning : String :=
  "no order_id column: rows dedup by content only, so overlapping exports " ++
    "of identical rows cannot be told apart"

/-- `_build_sale`. -/
def buildSale (env : CsvEnv) (fields : Cells) (tenantId : String)
    (defaultLocation : Option String) : Built := do
  let item ← salesLine env fields tenantId defaultLocation
  let validation :=
    if cellText fields "order_id" = "" then (validateSales item).warn noOrderWarning
    else validateSales item
  let unitPrice ← item.unitPrice.toDict.mapError .raised
  .ok (salesCanonical item unitPrice, validation)

/-- `_ROW_BUILDERS`. -/
def buildRow (env : CsvEnv) : CsvKind → Cells → String → Option String → Built
  | .products, fields, tenantId, _ => buildProduct fields tenantId
  | .stock, fields, tenantId, defaultLocation => buildStock env fields tenantId defaultLocation
  | .expiry, fields, tenantId, defaultLocation => buildExpiry env fields tenantId defaultLocation
  | .sales, fields, tenantId, defaultLocation => buildSale env fields tenantId defaultLocation

/-- `_ParsedRow`. -/
structure ParsedRow where
  line : ℕ
  values : Cells
  canonical : List (String × Value)
  validation : ValidationResult

/-- The fields of a row: what stands under the header of each. -/
def fieldsOf (mapping values : Cells) : Cells :=
  mapping.map fun (field, header) => (field, cellText values header)

/-- `_canonicalise_row`. -/
def canonicaliseRow (env : CsvEnv) (kind : CsvKind) (tenantId : String)
    (defaultLocation : Option String) (mapping : Cells) (row : ℕ × Cells) : Except Exc ParsedRow :=
  let fields := fieldsOf mapping row.2
  match buildRow env kind fields tenantId defaultLocation with
  | .ok (canonical, validation) => .ok ⟨row.1, row.2, canonical, validation⟩
  | .error (.rowError message) =>
    .ok ⟨row.1, row.2, fields.map fun e => (e.1, .str e.2), ValidationResult.passed.fail message⟩
  | .error (.raised e) => .error e

/-! ## Records -/

/-- `_object_id`. -/
def objectIdOf (kind : CsvKind) (parsed : ParsedRow) : String :=
  let text := fun key => (Value.getD parsed.canonical key (.str "")).toText
  match kind with
  | .products =>
    ((Value.get parsed.canonical "source_product_id").orElse
      (.str ("line_" ++ toString parsed.line))).toText
  | .stock => text "sku" ++ ":" ++ text "location_id"
  | .expiry => text "sku" ++ ":" ++ text "location_id" ++ ":" ++ text "expiry_date"
  | .sales => text "order_id" ++ ":" ++ text "line_id"

/-- `_record_event_time`: the first of the two fields that is a text and not empty, unless it is no
datetime. -/
def recordEventTime (env : CsvEnv) (now : Timestamp) (parsed : ParsedRow) : Timestamp :=
  let texts := ["sold_at", "event_time"].filterMap fun key =>
    match Value.get parsed.canonical key with
    | .str text => if text = "" then none else some text
    | _ => none
  (texts.head?.bind fun text => env.fromIso (replaceZ text)).getD now

/-- `_CANONICAL_TYPES`. -/
def CsvKind.canonicalType : CsvKind → String
  | .products => "product_master"
  | .stock => "inventory_state"
  | .expiry => "expiry_entry"
  | .sales => "sales_line"

/-- The raw payload of a row: its line, unless a column has that name, and its values. -/
def rawRow (parsed : ParsedRow) : List (String × Value) :=
  Value.updateItems [("line", .int parsed.line)] (parsed.values.map fun e => (e.1, .str e.2))

/-- The record of a row, wrapped at the time `now`. -/
def csvRecord (env : CsvEnv) (kind : CsvKind) (tenantId : String) (now : Timestamp)
    (parsed : ParsedRow) : InboundRecord where
  tenantId := tenantId
  sourceSystem := .csv
  sourceObjectType := "csv_" ++ kind.value ++ "_row"
  sourceObjectId := objectIdOf kind parsed
  eventTime := recordEventTime env now parsed
  rawPayload := rawRow parsed
  canonicalType := kind.canonicalType
  correlationId := take 16 (sha256 (dumps (.dict (rawRow parsed))))
  canonicalPayload := parsed.canonical
  validation := parsed.validation
  sourceQuality := sourceQuality parsed.validation
  actor := none

/-- `_canonicalise_row` of every row. -/
def canonicaliseRows (env : CsvEnv) (kind : CsvKind) (tenantId : String)
    (defaultLocation : Option String) (mapping : Cells) :
    List (ℕ × Cells) → Except Exc (List ParsedRow)
  | [] => .ok []
  | row :: rows => do
    let parsed ← canonicaliseRow env kind tenantId defaultLocation mapping row
    let rest ← canonicaliseRows env kind tenantId defaultLocation mapping rows
    .ok (parsed :: rest)

/-- What a call of the intake is given. -/
structure CsvUpload where
  kind : CsvKind
  text : String
  tenantId : String
  mapping : Cells
  defaultLocation : Option String

/-- The rows of an upload after the columns are matched, and the required fields without one. -/
def parsedRows (env : CsvEnv) (upload : CsvUpload) :
    Except Exc (List (ℕ × Cells) × Cells × List String) := do
  let table ← parseTable env upload.text
  let resolved ← inferMapping env.tables upload.kind table.1 upload.mapping
  .ok (table.2, resolved)

/-- The counts of `preview_csv`, and the required fields without a column. -/
structure CsvPreview where
  missingRequired : List String
  rowCount : ℕ
  validRows : ℕ
  invalidRows : ℕ
deriving DecidableEq

/-- `preview_csv`. -/
def previewCsv (env : CsvEnv) (upload : CsvUpload) : Except Exc CsvPreview := do
  let (rows, mapping, missing) ← parsedRows env upload
  if missing ≠ [] then .ok ⟨missing, rows.length, 0, rows.length⟩
  else
    let parsed ← canonicaliseRows env upload.kind upload.tenantId upload.defaultLocation mapping rows
    let valid := parsed.filter fun item => item.validation.ok
    .ok ⟨[], parsed.length, valid.length, parsed.length - valid.length⟩

/-- `build_records`; `now` is the clock at the row of each line. -/
def buildRecords (env : CsvEnv) (now : ℕ → Timestamp) (upload : CsvUpload) :
    Except Exc (List InboundRecord) := do
  let (rows, mapping, missing) ← parsedRows env upload
  if missing ≠ [] then
    .error (csvIntakeError ("required columns are unmapped for " ++
      Value.reprText upload.kind.value ++ ": " ++ ", ".intercalate missing))
  else
    let parsed ← canonicaliseRows env upload.kind upload.tenantId upload.defaultLocation mapping rows
    .ok (parsed.map fun item => csvRecord env upload.kind upload.tenantId (now item.line) item)

/-! ## What the records are made of -/

section

variable {env : CsvEnv} {upload : CsvUpload}

variable {kind : CsvKind} {tenantId : String} {defaultLocation : Option String} {mapping : Cells}

theorem forall₂_canonicaliseRows {rows : List (ℕ × Cells)} {parsed : List ParsedRow}
    (h : canonicaliseRows env kind tenantId defaultLocation mapping rows = .ok parsed) :
    List.Forall₂ (fun row item => canonicaliseRow env kind tenantId defaultLocation mapping row =
      .ok item) rows parsed := by
  induction rows generalizing parsed with
  | nil =>
    cases h
    exact .nil
  | cons row rows ih =>
    obtain ⟨item, hitem, h⟩ := bind_eq_ok_iff.mp h
    obtain ⟨rest, hrest, h⟩ := bind_eq_ok_iff.mp h
    cases h
    exact .cons hitem (ih hrest)

theorem row_of_parsed {rows : List (ℕ × Cells)} {parsed : List ParsedRow}
    (h : canonicaliseRows env kind tenantId defaultLocation mapping rows = .ok parsed)
    {item : ParsedRow} (hitem : item ∈ parsed) :
    ∃ row ∈ rows, canonicaliseRow env kind tenantId defaultLocation mapping row = .ok item := by
  have hall := forall₂_canonicaliseRows h
  clear h
  induction hall with
  | nil => cases hitem
  | cons hrow _ ih =>
    rcases List.mem_cons.mp hitem with rfl | hrest
    · exact ⟨_, List.mem_cons_self, hrow⟩
    · obtain ⟨row, hmem, hcanonical⟩ := ih hrest
      exact ⟨row, List.mem_cons_of_mem _ hmem, hcanonical⟩

/-- A row that is valid was built, and its line and its cells are kept. -/
theorem built_of_valid {row : ℕ × Cells} {parsed : ParsedRow}
    (h : canonicaliseRow env kind tenantId defaultLocation mapping row = .ok parsed)
    (hvalid : parsed.validation.ok = true) :
    buildRow env kind (fieldsOf mapping row.2) tenantId defaultLocation =
        .ok (parsed.canonical, parsed.validation) ∧
      parsed.line = row.1 ∧ parsed.values = row.2 := by
  unfold canonicaliseRow at h
  dsimp only at h
  cases hbuild : buildRow env kind (fieldsOf mapping row.2) tenantId defaultLocation with
  | ok built =>
    rw [hbuild] at h
    cases h
    exact ⟨rfl, rfl, rfl⟩
  | error failure =>
    rw [hbuild] at h
    cases failure with
    | rowError message =>
      cases h
      cases hvalid
    | raised e => cases h

/-- The records are those of the rows, in their order. -/
theorem buildRecords_inv {now : ℕ → Timestamp} {records : List InboundRecord}
    (h : buildRecords env now upload = .ok records) :
    ∃ rows mapping parsed, parsedRows env upload = .ok (rows, mapping, []) ∧
      canonicaliseRows env upload.kind upload.tenantId upload.defaultLocation mapping rows =
        .ok parsed ∧
      records = parsed.map fun item =>
        csvRecord env upload.kind upload.tenantId (now item.line) item := by
  obtain ⟨⟨rows, mapping, missing⟩, hrows, h⟩ := bind_eq_ok_iff.mp h
  dsimp only at h
  split at h
  · cases h
  · rename_i hmissing
    rw [not_not.mp hmissing] at hrows
    obtain ⟨parsed, hparsed, h⟩ := bind_eq_ok_iff.mp h
    cases h
    exact ⟨rows, mapping, parsed, hrows, hparsed, rfl⟩

end

end ShelfWise.Connectors
