import ShelfWise.Connectors.RowEvents
import ShelfWise.Ingest.Imports

/-!
# The commit of a spreadsheet

`preview_csv` validates row by row; the commit wraps the rows and gives them to
`_process_inbound_record` one after another. The record of a valid row of stock, expiry dates or sales
is mapped to an event that the pipeline can take (`mapped_row`), unless the quantity of the row is one
that `_quantity_value` does not read.
-/

namespace ShelfWise.Ingest

open Py Sys Connectors

open Cascade (julyEnv julyFirst runSalesCascade runExpiryRiskCheck)

/-! ## The rows -/

section

variable {env : CsvEnv} {fields : Cells} {tenantId : String} {defaultLocation : Option String}
  {canonical : List (String × Value)} {validation : ValidationResult}

/-- A quantity is read back from its text. -/
theorem decimalField_inv {key : String} {quantity : Decimal}
    (h : decimalField fields key = .ok quantity) :
    Decimal.ofText quantity.str = some quantity := by
  unfold decimalField at h
  split at h
  · cases h
  · rename_i d hread
    split at h
    · rename_i hfinite
      cases h
      exact Decimal.ofText_str_of_ofText hread hfinite
    · cases h

/-- A price was made by `Money.zar`. -/
theorem moneyField_inv {key : String} {money : Money} (h : moneyField fields key = .ok money) :
    ∃ rand, Money.zar rand = .ok money := by
  obtain ⟨amount, -, h⟩ := bind_eq_ok_iff.mp h
  refine ⟨.str amount.str, ?_⟩
  cases hzar : Money.zar (.str amount.str) with
  | error e =>
    rw [hzar] at h
    cases h
  | ok made =>
    rw [hzar] at h
    cases h
    rfl

theorem parseDatetime_inv {text key : String} {t : Timestamp}
    (h : parseDatetime env text key = .ok t) : env.fromIso (replaceZ t.isoformat) = some t := by
  unfold parseDatetime at h
  split at h
  · rename_i t' hread
    cases h
    exact env.reads_isoformat _ _ hread
  · cases h

/-- A time that was parsed is read back from the payload. -/
theorem datetimeValue_of_reads {t : Timestamp}
    (h : env.fromIso (replaceZ t.isoformat) = some t) (fallback : Timestamp) :
    ∃ ts, datetimeValue env.fromIso (.str t.isoformat) fallback = .ok ts := by
  unfold datetimeValue
  dsimp only
  split
  · exact ⟨_, rfl⟩
  · rw [h]
    exact ⟨_, rfl⟩

theorem mapError_inv {α : Type} {result : Except Exc α} {a : α}
    (h : result.mapError RowFailure.raised = .ok a) : result = .ok a := by
  cases result with
  | error e => cases h
  | ok b =>
    cases h
    rfl

/-- What a row of stock was built from. -/
theorem buildStock_inv (h : buildStock env fields tenantId defaultLocation = .ok (canonical, validation)) :
    ∃ item eventTime, canonical = stockCanonical item eventTime ∧ item.tenantId = tenantId ∧
      validateInventory item = .ok validation ∧
      Decimal.ofText item.quantity.str = some item.quantity ∧
      ∀ t, eventTime = some t → env.fromIso (replaceZ t.isoformat) = some t := by
  obtain ⟨stockState, -, h⟩ := bind_eq_ok_iff.mp h
  obtain ⟨quantity, hquantity, h⟩ := bind_eq_ok_iff.mp h
  obtain ⟨eventTime, htime, h⟩ := bind_eq_ok_iff.mp h
  obtain ⟨validated, hvalidated, h⟩ := bind_eq_ok_iff.mp h
  cases h
  refine ⟨_, eventTime, rfl, rfl, mapError_inv hvalidated, decimalField_inv hquantity, ?_⟩
  intro t ht
  unfold optionalDatetimeField at htime
  split at htime
  · cases htime
    cases ht
  · cases hparse : parseDatetime env (cellText fields "event_time") "event_time" with
    | error failure =>
      rw [hparse] at htime
      cases htime
    | ok parsed =>
      rw [hparse] at htime
      cases htime
      cases ht
      exact parseDatetime_inv hparse

/-- What a row of expiry dates was built from. -/
theorem buildExpiry_inv
    (h : buildExpiry env fields tenantId defaultLocation = .ok (canonical, validation)) :
    ∃ item, canonical = expiryCanonical item ∧ item.tenantId = tenantId ∧
      validateExpiry item = .ok validation := by
  obtain ⟨item, hitem, h⟩ := bind_eq_ok_iff.mp h
  obtain ⟨validated, hvalidated, h⟩ := bind_eq_ok_iff.mp h
  cases h
  obtain ⟨quantity, -, hitem⟩ := bind_eq_ok_iff.mp hitem
  obtain ⟨expiryDate, -, hitem⟩ := bind_eq_ok_iff.mp hitem
  cases hitem
  exact ⟨_, rfl, rfl, mapError_inv hvalidated⟩

/-- What a row of sales was built from. -/
structure BuiltSale (env : CsvEnv) (fields : Cells) (tenantId : String)
    (canonical : List (String × Value)) (validation : ValidationResult) (item : SalesLine)
    (unitPrice : List (String × Value)) : Prop where
  canonical : canonical = salesCanonical item unitPrice
  tenantId : item.tenantId = tenantId
  ok : validation.ok = (validateSales item).ok
  orderId : item.orderId = cellOr fields "order_id" ("csvorder_" ++ rowContentKey fields)
  lineId : item.lineId = cellOr fields "line_id" ("csvline_" ++ rowContentKey fields)
  unitPrice : item.unitPrice.toDict = .ok unitPrice
  zar : ∃ rand, Money.zar rand = .ok item.unitPrice
  soldAt : env.fromIso (replaceZ item.soldAt.isoformat) = some item.soldAt

theorem buildSale_inv (h : buildSale env fields tenantId defaultLocation = .ok (canonical, validation)) :
    ∃ item unitPrice, BuiltSale env fields tenantId canonical validation item unitPrice := by
  obtain ⟨item, hitem, h⟩ := bind_eq_ok_iff.mp h
  obtain ⟨unitPrice, hprice, h⟩ := bind_eq_ok_iff.mp h
  obtain ⟨quantity, -, hitem⟩ := bind_eq_ok_iff.mp hitem
  split at hitem
  · obtain ⟨money, hmoney, hitem⟩ := bind_eq_ok_iff.mp hitem
    obtain ⟨soldAt, hsold, hitem⟩ := bind_eq_ok_iff.mp hitem
    cases hitem
    cases h
    refine ⟨_, unitPrice, rfl, rfl, ?_, rfl, rfl, mapError_inv hprice, moneyField_inv hmoney, ?_⟩
    · split <;> rfl
    · unfold datetimeField at hsold
      split at hsold
      · cases hsold
      · exact parseDatetime_inv hsold
  · cases hitem

end

/-! ## The events -/

section

variable {env : Intake} {i : Import}

/-- The event of a sale can be taken. -/
theorem mapped_of_sale {locationId : String} {quantity : Value} {price : Money} {amount : Decimal}
    (hmaps : recordToEvent env.fromIso i.record = .ok (some i.event))
    (hbuilt : BuiltFrom i.record .sale (salePayload i.record locationId quantity price amount)
      i.event) :
    Mapped env i.record.sourceSystem i.record.sourceObjectType .sale i where
  maps := hmaps
  importable :=
    { operational := hbuilt.dataDomain
      type := .inl hbuilt.type
      facts := by
        intro _ field hfield
        rw [hbuilt.payload]
        have habsent : ∀ field ∈ "unit_price_cents" :: Cascade.factFields,
            field ∉ ["sku", "location", "location_id", "quantity", "unit_price",
              "unit_price_minor_units", "unit_price_currency", "order_id", "line_id",
              "source_object_id", "raw_payload_hash"] := by
          decide
        exact Dict.lookup_of_notMem (habsent field hfield)
      stock := fun h => by
        rw [hbuilt.type] at h
        cases h
      days := fun h => by
        rw [hbuilt.type] at h
        cases h }
  type := hbuilt.type
  id := hbuilt.id
  tenantId := hbuilt.tenantId
  hash := by
    rw [hbuilt.payload]
    rfl
  system := rfl
  objectType := rfl

/-- The event of a state of stock can be taken. -/
theorem mapped_of_stock {inventory : InventoryState}
    (hmaps : recordToEvent env.fromIso i.record = .ok (some i.event))
    (hbuilt : BuiltFrom i.record .stockUpdate (stockPayload inventory i.record) i.event) :
    Mapped env i.record.sourceSystem i.record.sourceObjectType .stockUpdate i where
  maps := hmaps
  importable :=
    { operational := hbuilt.dataDomain
      type := .inr (.inl hbuilt.type)
      facts := fun h => by
        rw [hbuilt.type] at h
        cases h
      stock := by
        intro _
        have hplace : ledgerLocationType i.event = strip "store" := by
          unfold ledgerLocationType
          rw [hbuilt.payload]
          rfl
        have hstate : ledgerStockState i.event = strip inventory.stockState.value := by
          unfold ledgerStockState
          rw [hbuilt.payload, show Value.get (stockPayload inventory i.record) "stock_state" =
            .str inventory.stockState.value from rfl]
          cases inventory.stockState <;> rfl
        rw [hplace, hstate]
        refine ⟨by decide +kernel, ?_⟩
        cases inventory.stockState <;> decide +kernel
      days := fun h => by
        rw [hbuilt.type] at h
        cases h }
  type := hbuilt.type
  id := hbuilt.id
  tenantId := hbuilt.tenantId
  hash := by
    rw [hbuilt.payload]
    rfl
  system := rfl
  objectType := rfl

/-- The event of an expiry entry can be taken. -/
theorem mapped_of_expiry {sku locationId expiryDate : String} {quantity : Value}
    (hmaps : recordToEvent env.fromIso i.record = .ok (some i.event))
    (hbuilt : BuiltFrom i.record .expiryEntry
      (expiryPayload i.record sku locationId quantity expiryDate) i.event) :
    Mapped env i.record.sourceSystem i.record.sourceObjectType .expiryEntry i where
  maps := hmaps
  importable :=
    { operational := hbuilt.dataDomain
      type := .inr (.inr hbuilt.type)
      facts := fun h => by
        rw [hbuilt.type] at h
        cases h
      stock := fun h => by
        rw [hbuilt.type] at h
        cases h
      days := by
        intro _
        rw [hbuilt.payload]
        rfl }
  type := hbuilt.type
  id := hbuilt.id
  tenantId := hbuilt.tenantId
  hash := by
    rw [hbuilt.payload]
    rfl
  system := rfl
  objectType := rfl

end

/-! ## The rows and their events -/

/-- The type of the source object of a row. -/
def rowObjectType (kind : CsvKind) : String := "csv_" ++ kind.value ++ "_row"

/-- The quantity of the row is read by `_quantity_value`, which the event of a row of stock does not
use. -/
def QuantityPasses (kind : CsvKind) (item : ParsedRow) : Prop :=
  kind = .stock ∨ (quantityValue (Value.get item.canonical "quantity")).isOk = true

theorem quantityPasses_of_read {kind : CsvKind} {item : ParsedRow} {quantity : Value}
    (h : quantityValue (Value.get item.canonical "quantity") = .ok quantity) :
    QuantityPasses kind item := by
  refine .inr ?_
  rw [h]
  rfl

theorem read_of_quantityPasses {kind : CsvKind} (hkind : kind ≠ .stock) {item : ParsedRow}
    (h : QuantityPasses kind item) :
    ∃ quantity, quantityValue (Value.get item.canonical "quantity") = .ok quantity := by
  have hpasses := h.resolve_left hkind
  cases hquantity : quantityValue (Value.get item.canonical "quantity") with
  | error e =>
    rw [hquantity] at hpasses
    cases hpasses
  | ok quantity => exact ⟨quantity, rfl⟩

section

variable {env : CsvEnv} {fields : Cells} {tenantId : String} {defaultLocation : Option String}
  {item : ParsedRow} (clock wrapped : Timestamp)

/-- A valid row of stock becomes an event that can be taken. -/
theorem mapped_stockRow
    (hbuild : buildStock env fields tenantId defaultLocation = .ok (item.canonical, item.validation))
    (hvalid : item.validation.ok = true) :
    ∃ event, Mapped env.toIntake .csv (rowObjectType .stock) .stockUpdate
      ⟨clock, csvRecord env .stock tenantId wrapped item, event⟩ := by
  obtain ⟨state, eventTime, hcanonical, htenant, hvalidated, hquantity, htime⟩ :=
    buildStock_inv hbuild
  have hchecked := validated_of_ok hvalidated hvalid
  have hreads : ∃ inventory, inventoryFromPayload env.fromIso
      (csvRecord env .stock tenantId wrapped item) = .ok inventory := by
    have hstate : StockState.ofText ((Value.get (stockCanonical state eventTime)
        "stock_state").orElse (.str StockState.onHand.value)).toText = .ok state.stockState := by
      have htext : Value.get (stockCanonical state eventTime) "stock_state" =
          .str state.stockState.value := rfl
      rw [htext]
      cases state.stockState <;> rfl
    have hts : ∃ ts, datetimeValue env.fromIso (Value.get (stockCanonical state eventTime)
        "event_time") (recordEventTime env wrapped item) = .ok ts := by
      have htext : Value.get (stockCanonical state eventTime) "event_time" =
          optionalText (eventTime.map (·.isoformat)) := rfl
      rw [htext]
      cases heventTime : eventTime with
      | none => exact ⟨_, rfl⟩
      | some t => exact datetimeValue_of_reads (htime t heventTime) _
    obtain ⟨ts, hts⟩ := hts
    have hsku : requireKey (stockCanonical state eventTime) "sku" = .ok (.str state.sku) := rfl
    have hlocation : requireKey (stockCanonical state eventTime) "location_id" =
        .ok (.str state.locationId) := rfl
    have hnumber : Value.getD (stockCanonical state eventTime) "quantity" (.str "0") =
        .str state.quantity.str := rfl
    unfold inventoryFromPayload
    simp only [csvRecord, hcanonical, hsku, hlocation, hnumber, hstate, hts, hquantity, bind,
      Except.bind, Value.toText_str]
    exact ⟨_, rfl⟩
  obtain ⟨inventory, hreads⟩ := hreads
  obtain ⟨event, hmaps, hbuilt⟩ := recordToEvent_stock rfl hvalid (htenant ▸ hchecked.tenantId) hreads
  exact ⟨event, mapped_of_stock (i := ⟨clock, csvRecord env .stock tenantId wrapped item, event⟩)
    hmaps hbuilt⟩

/-- A valid row of expiry dates becomes an event, one that can be taken, when its quantity is read. -/
theorem mapped_expiryRow
    (hbuild : buildExpiry env fields tenantId defaultLocation =
      .ok (item.canonical, item.validation)) (hvalid : item.validation.ok = true) :
    (∀ event, recordToEvent env.fromIso (csvRecord env .expiry tenantId wrapped item) =
      .ok (some event) → QuantityPasses .expiry item) ∧
    (QuantityPasses .expiry item → ∃ event, Mapped env.toIntake .csv (rowObjectType .expiry)
      .expiryEntry ⟨clock, csvRecord env .expiry tenantId wrapped item, event⟩) := by
  obtain ⟨entry, hcanonical, htenant, hvalidated⟩ := buildExpiry_inv hbuild
  have hne : entry.tenantId ≠ "" := by
    obtain ⟨negative, -, hresult⟩ := bind_eq_ok_iff.mp hvalidated
    rw [← Except.ok.inj hresult] at hvalid
    simp only [ok_failIf, Bool.and_eq_true, Bool.not_eq_true', decide_eq_false_iff_not] at hvalid
    exact hvalid.1.1.1.2
  have hsku : requireKey item.canonical "sku" = .ok (.str entry.sku) := by
    rw [hcanonical]
    rfl
  have hdate : requireKey item.canonical "expiry_date" = .ok (.str entry.expiryDate.isoformat) := by
    rw [hcanonical]
    rfl
  obtain ⟨hread, hmapped⟩ := recordToEvent_expiry_iff env.fromIso
    (csvRecord env .expiry tenantId wrapped item) rfl hvalid (htenant ▸ hne) rfl hsku hdate
  constructor
  · intro event hevent
    obtain ⟨quantity, hquantity⟩ := hread event hevent
    exact quantityPasses_of_read hquantity
  · intro hpasses
    obtain ⟨quantity, hquantity⟩ := read_of_quantityPasses (by decide) hpasses
    obtain ⟨event, hmaps, hbuilt⟩ := hmapped quantity hquantity
    exact ⟨event, mapped_of_expiry (i := ⟨clock, csvRecord env .expiry tenantId wrapped item, event⟩)
      hmaps hbuilt⟩

/-- A valid row of sales becomes an event, one that can be taken, when its quantity is read. -/
theorem mapped_salesRow
    (hbuild : buildSale env fields tenantId defaultLocation = .ok (item.canonical, item.validation))
    (hvalid : item.validation.ok = true) :
    (∀ event, recordToEvent env.fromIso (csvRecord env .sales tenantId wrapped item) =
      .ok (some event) → QuantityPasses .sales item) ∧
    (QuantityPasses .sales item → ∃ event, Mapped env.toIntake .csv (rowObjectType .sales)
      .sale ⟨clock, csvRecord env .sales tenantId wrapped item, event⟩) := by
  obtain ⟨line, unitPrice, hline⟩ := buildSale_inv hbuild
  have hne : line.tenantId ≠ "" := by
    rw [hline.ok] at hvalid
    unfold validateSales at hvalid
    simp only [ok_failIf, Bool.and_eq_true, Bool.not_eq_true', decide_eq_false_iff_not] at hvalid
    exact hvalid.1.1.1.1.1.2
  have hlocation : ((Value.get item.canonical "location_id").orElse (.str "online")).toText ≠ "" := by
    have htext : Value.get (salesCanonical line unitPrice) "location_id" = .str line.locationId := rfl
    rw [hline.canonical, htext, Value.orElse]
    split
    · rename_i htruthy
      simpa [Value.truthy] using htruthy
    · decide
  obtain ⟨rand, hzar⟩ := hline.zar
  obtain ⟨amount, hamount, hprice⟩ := bind_eq_ok_iff.mp hline.unitPrice
  have hdict := Except.ok.inj hprice
  have hmoney : unitPriceMoney (Value.get item.canonical "unit_price") = .ok line.unitPrice := by
    rw [hline.canonical]
    refine unitPriceMoney_of_zar hzar ?_ ?_
    · rw [← hdict]
      rfl
    · rw [← hdict, ← (minorUnits_of_zar hzar).2]
      rfl
  have hsold : ∃ ts, datetimeValue env.fromIso (Value.get item.canonical "sold_at")
      (recordEventTime env wrapped item) = .ok ts := by
    have htext : Value.get (salesCanonical line unitPrice) "sold_at" =
        .str line.soldAt.isoformat := rfl
    rw [hline.canonical, htext]
    exact datetimeValue_of_reads hline.soldAt _
  obtain ⟨ts, hts⟩ := hsold
  obtain ⟨hread, hmapped⟩ := recordToEvent_sale_iff env.fromIso
    (csvRecord env .sales tenantId wrapped item) rfl hvalid (hline.tenantId ▸ hne) rfl hlocation
    hmoney hamount hts
  constructor
  · intro event hevent
    obtain ⟨quantity, hquantity⟩ := hread event hevent
    exact quantityPasses_of_read hquantity
  · intro hpasses
    obtain ⟨quantity, hquantity⟩ := read_of_quantityPasses (by decide) hpasses
    obtain ⟨event, hmaps, hbuilt⟩ := hmapped quantity hquantity
    exact ⟨event, mapped_of_sale (i := ⟨clock, csvRecord env .sales tenantId wrapped item, event⟩)
      hmaps hbuilt⟩

variable (env) in
/-- A valid row of a kind that becomes events becomes one, and one that can be taken, exactly when
its quantity passes. -/
theorem mapped_row {kind : CsvKind} (hkind : kind ≠ .products) :
    ∃ type, ∀ (fields : Cells) (tenantId : String) (defaultLocation : Option String)
      (item : ParsedRow) (clock wrapped : Timestamp),
      buildRow env kind fields tenantId defaultLocation = .ok (item.canonical, item.validation) →
      item.validation.ok = true →
      (∀ event, recordToEvent env.fromIso (csvRecord env kind tenantId wrapped item) =
        .ok (some event) → QuantityPasses kind item) ∧
      (QuantityPasses kind item → ∃ event, Mapped env.toIntake .csv (rowObjectType kind) type
        ⟨clock, csvRecord env kind tenantId wrapped item, event⟩) := by
  cases kind with
  | products => exact absurd rfl hkind
  | stock =>
    refine ⟨.stockUpdate, fun fields tenantId defaultLocation item clock wrapped hbuild hvalid => ?_⟩
    exact ⟨fun _ _ => .inl rfl, fun _ => mapped_stockRow clock wrapped hbuild hvalid⟩
  | expiry =>
    refine ⟨.expiryEntry, fun fields tenantId defaultLocation item clock wrapped hbuild hvalid => ?_⟩
    exact mapped_expiryRow clock wrapped hbuild hvalid
  | sales =>
    refine ⟨.sale, fun fields tenantId defaultLocation item clock wrapped hbuild hvalid => ?_⟩
    exact mapped_salesRow clock wrapped hbuild hvalid

end

/-! ## The commit -/

/-- `MAX_CSV_COMMIT_ROWS`. -/
def maxCsvCommitRows : ℕ := 1000

/-- The route answers a `CsvIntakeError` with a status of its own. -/
def unprocessable : Exc → Exc
  | .raised name message =>
    if name = "CsvIntakeError" then .httpException 422 message else .raised name message
  | e => e

/-- The records with the clock at the intake of each. -/
def withClock (clock : ℕ → Timestamp) (records : List InboundRecord) :
    List (Timestamp × InboundRecord) :=
  records.zipIdx.map fun r => (clock r.2, r.1)

/-- `commit_csv_intake` for rows that become events, after the text has left the quarantine: `now` is
the clock at the row of each line, `clock` that at the intake of each record. -/
def commitCsv (env : CsvEnv) (now clock : ℕ → Timestamp) (upload : CsvUpload) (s : InboundState) :
    InboundState × Except Exc (List InboundOutcome) :=
  match buildRecords env now upload with
  | .error e => (s, .error (unprocessable e))
  | .ok records =>
    if maxCsvCommitRows < records.length then
      (s, .error (.httpException 422 ("commit is capped at " ++ toString maxCsvCommitRows ++
        " rows per request; split the file and import it in parts (preview has no such cap)")))
    else processRecords env.toIntake (withClock clock records) s

/-- The rows a commit imports. -/
def importedRows (env : CsvEnv) (upload : CsvUpload) : Except Exc (List ParsedRow) := do
  let (rows, mapping, missing) ← parsedRows env upload
  if missing ≠ [] then
    .error (csvIntakeError ("required columns are unmapped for " ++
      Value.reprText upload.kind.value ++ ": " ++ ", ".intercalate missing))
  else canonicaliseRows env upload.kind upload.tenantId upload.defaultLocation mapping rows

section

variable {env : CsvEnv} {upload : CsvUpload}

theorem buildRecords_eq (now : ℕ → Timestamp) :
    buildRecords env now upload = (importedRows env upload).map fun parsed => parsed.map fun item =>
      csvRecord env upload.kind upload.tenantId (now item.line) item := by
  unfold buildRecords importedRows
  cases parsedRows env upload with
  | error e => rfl
  | ok resolved =>
    obtain ⟨rows, mapping, missing⟩ := resolved
    simp only [bind, Except.bind]
    split
    · rfl
    · cases canonicaliseRows env upload.kind upload.tenantId upload.defaultLocation mapping rows with
      | error e => rfl
      | ok parsed => rfl

/-- A row that is imported and valid was built. -/
theorem built_of_imported {parsed : List ParsedRow} (h : importedRows env upload = .ok parsed)
    {item : ParsedRow} (hitem : item ∈ parsed) (hvalid : item.validation.ok = true) :
    ∃ mapping row, buildRow env upload.kind (fieldsOf mapping row) upload.tenantId
      upload.defaultLocation = .ok (item.canonical, item.validation) := by
  obtain ⟨⟨rows, mapping, missing⟩, -, h⟩ := bind_eq_ok_iff.mp h
  dsimp only at h
  split at h
  · cases h
  · obtain ⟨row, -, hrow⟩ := row_of_parsed h hitem
    exact ⟨mapping, row.2, (built_of_valid hrow hvalid).1⟩

/-- A preview without invalid rows: the rows that a commit imports are valid, and there are some of
them unless a column is missing. -/
theorem imported_of_preview {preview : CsvPreview} (h : previewCsv env upload = .ok preview)
    (hclean : preview.invalidRows = 0) {parsed : List ParsedRow}
    (himported : importedRows env upload = .ok parsed) :
    preview.rowCount = parsed.length ∧ ∀ item ∈ parsed, item.validation.ok = true := by
  obtain ⟨⟨rows, mapping, missing⟩, hrows, h⟩ := bind_eq_ok_iff.mp h
  obtain ⟨⟨rows', mapping', missing'⟩, hrows', himported⟩ := bind_eq_ok_iff.mp himported
  obtain ⟨rfl, rfl, rfl⟩ : rows = rows' ∧ mapping = mapping' ∧ missing = missing' := by
    have hsame := Except.ok.inj (hrows.symm.trans hrows')
    exact ⟨congrArg Prod.fst hsame, congrArg (fun r => r.2.1) hsame, congrArg (fun r => r.2.2) hsame⟩
  dsimp only at h himported
  split at himported
  · cases himported
  · rename_i hmissing
    rw [if_neg hmissing] at h
    obtain ⟨parsed', hparsed, h⟩ := bind_eq_ok_iff.mp h
    obtain rfl : parsed' = parsed := Except.ok.inj (hparsed.symm.trans himported)
    cases h
    refine ⟨rfl, ?_⟩
    have hall : (parsed'.filter fun item => item.validation.ok).length = parsed'.length := by
      have hle := List.length_filter_le (fun item : ParsedRow => item.validation.ok) parsed'
      dsimp only at hclean
      omega
    exact List.length_filter_eq_length_iff.mp hall

end

section

variable {env : Intake} {system : SourceSystem} {objectType : String} {type : EventType}

/-- Records that are mapped, each with its event. -/
theorem exists_imports {inputs : List (Timestamp × InboundRecord)}
    (h : ∀ r ∈ inputs, ∃ event, Mapped env system objectType type ⟨r.1, r.2, event⟩) :
    ∃ imports, feed imports = inputs ∧ ∀ i ∈ imports, Mapped env system objectType type i := by
  induction inputs with
  | nil => exact ⟨[], rfl, fun i hi => absurd hi List.not_mem_nil⟩
  | cons r rest ih =>
    obtain ⟨event, hmapped⟩ := h r List.mem_cons_self
    obtain ⟨imports, hfeed, hall⟩ := ih fun r hr => h r (List.mem_cons_of_mem _ hr)
    refine ⟨⟨r.1, r.2, event⟩ :: imports, ?_, ?_⟩
    · rw [← hfeed]
      rfl
    · intro i hi
      rcases List.mem_cons.mp hi with heq | hrest
      · rw [heq]
        exact hmapped
      · exact hall i hrest

/-- Within one tenant the keys of events are told apart by the ids of the source objects. -/
theorem key_eq_iff {i j : Import} (hi : Mapped env system objectType type i)
    (hj : Mapped env system objectType type j) (htenant : i.record.tenantId = j.record.tenantId) :
    i.key = j.key ↔ i.record.sourceObjectId = j.record.sourceObjectId := by
  rw [← eventIdOf_eq_iff hi hj]
  unfold Import.key eventKey
  rw [EventKey.mk.injEq, hi.importable.operational, hj.importable.operational, hi.tenantId,
    hj.tenantId]
  exact ⟨fun h => h.2.2, fun h => ⟨htenant, rfl, h⟩⟩

theorem nodup_keys_iff {imports : List Import}
    (hmapped : ∀ i ∈ imports, Mapped env system objectType type i) {tenantId : String}
    (htenant : ∀ i ∈ imports, i.record.tenantId = tenantId) :
    (imports.map Import.key).Nodup ↔ (imports.map (·.record.sourceObjectId)).Nodup := by
  unfold List.Nodup
  rw [List.pairwise_map, List.pairwise_map]
  refine List.Pairwise.iff_of_mem fun {i j} hi hj => ?_
  exact not_congr (key_eq_iff (hmapped i hi) (hmapped j hj) ((htenant i hi).trans (htenant j hj).symm))

end

theorem map_snd_withClock (clock : ℕ → Timestamp) (records : List InboundRecord) :
    (withClock clock records).map Prod.snd = records := by
  unfold withClock
  rw [List.map_map]
  exact List.zipIdx_map_fst 0 records

/-- The inputs of the pipeline are the records of the rows. -/
theorem record_of_input {env : CsvEnv} {upload : CsvUpload} {now clock : ℕ → Timestamp}
    {parsed : List ParsedRow} {r : Timestamp × InboundRecord}
    (h : r ∈ withClock clock (parsed.map fun item =>
      csvRecord env upload.kind upload.tenantId (now item.line) item)) :
    ∃ item ∈ parsed, csvRecord env upload.kind upload.tenantId (now item.line) item = r.2 := by
  have hmem := List.mem_map_of_mem (f := Prod.snd) h
  rw [map_snd_withClock] at hmem
  exact List.mem_map.mp hmem

section

variable {env : CsvEnv} {now clock : ℕ → Timestamp} {upload : CsvUpload} {parsed : List ParsedRow}

/-- The records of valid rows with their events. -/
structure RowImports (env : CsvEnv) (now clock : ℕ → Timestamp) (upload : CsvUpload)
    (parsed : List ParsedRow) (type : EventType) (imports : List Import) : Prop where
  feed : feed imports = withClock clock (parsed.map fun item =>
    csvRecord env upload.kind upload.tenantId (now item.line) item)
  records : imports.map (·.record) = parsed.map fun item =>
    csvRecord env upload.kind upload.tenantId (now item.line) item
  mapped : ∀ i ∈ imports, Mapped env.toIntake .csv (rowObjectType upload.kind) type i
  tenantId : ∀ i ∈ imports, i.record.tenantId = upload.tenantId

/-- Valid rows whose quantities pass have events that can be taken. -/
theorem exists_rowImports (hkind : upload.kind ≠ .products)
    (himported : importedRows env upload = .ok parsed)
    (hvalid : ∀ item ∈ parsed, item.validation.ok = true)
    (hpass : ∀ item ∈ parsed, QuantityPasses upload.kind item) (now clock : ℕ → Timestamp) :
    ∃ type imports, RowImports env now clock upload parsed type imports := by
  obtain ⟨type, hmapped⟩ := mapped_row env hkind
  have hevents : ∀ r ∈ withClock clock (parsed.map fun item =>
      csvRecord env upload.kind upload.tenantId (now item.line) item), ∃ event,
      Mapped env.toIntake .csv (rowObjectType upload.kind) type ⟨r.1, r.2, event⟩ := by
    intro r hr
    obtain ⟨item, hitem, hrecord⟩ := record_of_input hr
    obtain ⟨mapping, row, hbuild⟩ := built_of_imported himported hitem (hvalid item hitem)
    rw [← hrecord]
    exact (hmapped _ _ _ _ r.1 (now item.line) hbuild (hvalid item hitem)).2 (hpass item hitem)
  obtain ⟨imports, hfeed, hall⟩ := exists_imports hevents
  have hrecords : imports.map (·.record) = parsed.map fun item =>
      csvRecord env upload.kind upload.tenantId (now item.line) item := by
    rw [← map_snd_withClock clock (parsed.map _), ← hfeed]
    unfold feed
    rw [List.map_map]
    rfl
  refine ⟨type, imports, hfeed, hrecords, hall, ?_⟩
  intro i hi
  have hmem := List.mem_map_of_mem (f := (·.record)) hi
  rw [hrecords] at hmem
  obtain ⟨item, -, hrecord⟩ := List.mem_map.mp hmem
  rw [← hrecord]
  rfl

/-- The ids of the source objects are those of the rows. -/
theorem RowImports.objectIds {type : EventType} {imports : List Import}
    (h : RowImports env now clock upload parsed type imports) :
    imports.map (·.record.sourceObjectId) = parsed.map (objectIdOf upload.kind) := by
  have hmapped := congrArg (List.map (·.sourceObjectId)) h.records
  rw [List.map_map, List.map_map] at hmapped
  exact hmapped

/-- The records of valid rows are all accepted exactly when no two rows name one source object and
the quantity of every row passes. -/
theorem rows_accepted_iff (hlive : Live env.toIntake) (now clock : ℕ → Timestamp)
    (hkind : upload.kind ≠ .products) (himported : importedRows env upload = .ok parsed)
    (hvalid : ∀ item ∈ parsed, item.validation.ok = true) {inventory : Inventory.Store}
    (hkeyed : Inventory.Keyed inventory.positions) :
    AllAccepted (processRecords env.toIntake (withClock clock (parsed.map fun item =>
        csvRecord env upload.kind upload.tenantId (now item.line) item)) (freshStores inventory)).2 ↔
      (parsed.map (objectIdOf upload.kind)).Nodup ∧
        ∀ item ∈ parsed, QuantityPasses upload.kind item := by
  by_cases hpass : ∀ item ∈ parsed, QuantityPasses upload.kind item
  · obtain ⟨type, imports, himports⟩ := exists_rowImports hkind himported hvalid hpass now clock
    have haccepted := accepted_iff hlive (fun j hj => absurd hj List.not_mem_nil)
      (reflects_fresh env.toIntake type hkeyed) himports.mapped
    rw [List.nil_append, nodup_keys_iff himports.mapped himports.tenantId, himports.objectIds]
      at haccepted
    rw [← himports.feed, haccepted]
    exact ⟨fun h => ⟨h, hpass⟩, fun h => h.1⟩
  · refine iff_of_false (fun haccepted => hpass ?_) fun h => hpass h.2
    intro item hitem
    have hmem : csvRecord env upload.kind upload.tenantId (now item.line) item ∈
        (withClock clock (parsed.map fun item =>
          csvRecord env upload.kind upload.tenantId (now item.line) item)).map Prod.snd := by
      rw [map_snd_withClock]
      exact List.mem_map_of_mem hitem
    obtain ⟨r, hr, hrecord⟩ := List.mem_map.mp hmem
    obtain ⟨event, hevent⟩ := events_of_allAccepted haccepted r hr
    obtain ⟨mapping, row, hbuild⟩ := built_of_imported himported hitem (hvalid item hitem)
    obtain ⟨type, hmapped⟩ := mapped_row env hkind
    rw [hrecord] at hevent
    exact (hmapped _ _ _ _ r.1 (now item.line) hbuild (hvalid item hitem)).1 event hevent

/-- A commit of at most as many rows as a request may have gives their records to the pipeline. -/
theorem commitCsv_of_imported (himported : importedRows env upload = .ok parsed)
    (hrows : parsed.length ≤ maxCsvCommitRows) (s : InboundState) :
    commitCsv env now clock upload s = processRecords env.toIntake (withClock clock
      (parsed.map fun item => csvRecord env upload.kind upload.tenantId (now item.line) item)) s := by
  unfold commitCsv
  rw [buildRecords_eq now, himported]
  simp only [Except.map]
  rw [if_neg]
  rw [List.length_map]
  exact not_lt.mpr hrows

end

/-- **The commit of a clean preview.** For every upload whose preview reports no invalid row, and
stores without a record, an event or a product: the commit raises nothing and the pipeline accepts
every row, exactly when no required column is missing, no two rows name one source object, and the
quantity of every row is read. -/
theorem clean_preview_commits_iff {env : CsvEnv} (hlive : Live env.toIntake)
    (now clock : ℕ → Timestamp) {upload : CsvUpload} (hkind : upload.kind ≠ .products)
    {preview : CsvPreview} (hpreview : previewCsv env upload = .ok preview)
    (hclean : preview.invalidRows = 0) (hrows : preview.rowCount ≤ maxCsvCommitRows)
    {inventory : Inventory.Store} (hkeyed : Inventory.Keyed inventory.positions) :
    AllAccepted (commitCsv env now clock upload (freshStores inventory)).2 ↔
      ∃ parsed, importedRows env upload = .ok parsed ∧
        (parsed.map (objectIdOf upload.kind)).Nodup ∧
        ∀ item ∈ parsed, QuantityPasses upload.kind item := by
  cases himported : importedRows env upload with
  | error e =>
    refine iff_of_false ?_ ?_
    · rintro ⟨outcomes, hok, -⟩
      unfold commitCsv at hok
      rw [buildRecords_eq now, himported] at hok
      cases hok
    · rintro ⟨parsed, hok, -⟩
      cases hok
  | ok parsed =>
    obtain ⟨hcount, hvalid⟩ := imported_of_preview hpreview hclean himported
    rw [commitCsv_of_imported himported (hcount ▸ hrows),
      rows_accepted_iff hlive now clock hkind himported hvalid hkeyed]
    constructor
    · exact fun h => ⟨parsed, rfl, h⟩
    · rintro ⟨parsed', hok, h⟩
      cases hok
      exact h

/-! ## Two rows of one place -/

/-- The intake of a shop without products, which reads one day. -/
def bareShop : CsvEnv :=
  { julyEnv with
    cascades := { julyEnv.cascades with
      runSalesCascade := runSalesCascade ⟨fun _ => [], fun _ _ => .ok none⟩
      runExpiryRiskCheck := runExpiryRiskCheck julyEnv.tables }
    fromIso := fun text =>
      if text = "2026-07-01" ∨ text = julyFirst.isoformat then some julyFirst else none
    reads_isoformat := by
      intro text t h
      split at h
      · cases h
        decide +kernel
      · cases h }

theorem live_bareShop : Live bareShop.toIntake where
  sales := ⟨_, rfl⟩
  expiry := ⟨_, rfl⟩
  governance := fun _ _ => rfl

/-- Rows of stock of one SKU in one store. -/
def stockUpload (rows : String) : CsvUpload where
  kind := .stock
  text := "sku,location,quantity\n" ++ rows
  tenantId := "tenant_a"
  mapping := []
  defaultLocation := none

/-- The rows with the ids of their source objects. -/
theorem imported_of_ids {env : CsvEnv} {upload : CsvUpload} {ids : List String}
    (h : (importedRows env upload).map (List.map (objectIdOf upload.kind)) = .ok ids) :
    ∃ parsed, importedRows env upload = .ok parsed ∧
      parsed.map (objectIdOf upload.kind) = ids := by
  cases himported : importedRows env upload with
  | error e =>
    rw [himported] at h
    cases h
  | ok parsed =>
    rw [himported] at h
    exact ⟨parsed, rfl, Except.ok.inj h⟩

/-- One row. -/
theorem clean_preview_commits_single :
    AllAccepted (commitCsv bareShop (fun _ => julyFirst) (fun _ => julyFirst)
      (stockUpload "4011,store_a,1\n") (freshStores .empty)).2 := by
  have hpreview : previewCsv bareShop (stockUpload "4011,store_a,1\n") = .ok ⟨[], 1, 1, 0⟩ := by
    decide +kernel
  have hids : (importedRows bareShop (stockUpload "4011,store_a,1\n")).map
      (List.map (objectIdOf .stock)) = .ok ["4011:store_a"] := by
    decide +kernel
  obtain ⟨parsed, himported, hids⟩ := imported_of_ids hids
  refine (clean_preview_commits_iff live_bareShop _ _ (by decide) hpreview rfl (by decide)
    Inventory.keyed_empty).mpr ⟨parsed, himported, ?_, fun item _ => .inl rfl⟩
  rw [hids]
  exact List.nodup_singleton _

/-- Two rows of one place. The preview reports none of them, and the commit does not accept both. -/
theorem clean_preview_refused :
    ¬ ∀ (env : CsvEnv) (now clock : ℕ → Timestamp) (upload : CsvUpload) (preview : CsvPreview),
      Live env.toIntake → upload.kind ≠ .products → previewCsv env upload = .ok preview →
      preview.invalidRows = 0 → preview.rowCount ≤ maxCsvCommitRows →
      AllAccepted (commitCsv env now clock upload (freshStores .empty)).2 := by
  intro h
  have hpreview : previewCsv bareShop (stockUpload "4011,store_a,1\n4011,store_a,2\n") =
      .ok ⟨[], 2, 2, 0⟩ := by
    decide +kernel
  have haccepted := h bareShop (fun _ => julyFirst) (fun _ => julyFirst) _ _ live_bareShop
    (by decide) hpreview rfl (by decide)
  have hids : (importedRows bareShop (stockUpload "4011,store_a,1\n4011,store_a,2\n")).map
      (List.map (objectIdOf .stock)) = .ok ["4011:store_a", "4011:store_a"] := by
    decide +kernel
  obtain ⟨parsed, himported, hids⟩ := imported_of_ids hids
  obtain ⟨hcount, hvalid⟩ := imported_of_preview hpreview rfl himported
  rw [commitCsv_of_imported himported (hcount ▸ by decide)] at haccepted
  have hnodup := ((rows_accepted_iff live_bareShop (fun _ => julyFirst) (fun _ => julyFirst)
    (by decide) himported hvalid Inventory.keyed_empty).mp haccepted).1
  rw [hids] at hnodup
  exact absurd hnodup (by decide)

end ShelfWise.Ingest
