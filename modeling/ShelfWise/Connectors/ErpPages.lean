import ShelfWise.Connectors.Odoo
import ShelfWise.Py.DecimalValue

/-!
# The stock pages of SAP and SYSPRO

`shelfwise_connectors/connectors/systems/sap.py` and `syspro.py`: both map the rows of a page in one
list comprehension, so that a row whose mapping raises takes the page with it, and every later one. A
row without a stock code or warehouse is a failed record for SYSPRO alone. `erp_rows_isolated_iff` says
for which pages no row stands in the way of another one.
-/

namespace ShelfWise.Connectors

open Py

/-! ## Requests -/

/-- What a connector of an ERP system is made of. -/
structure ErpConfig where
  baseUrl : String
  token : String
  tenantId : String

/-- A request of a connector. -/
structure JsonRequest where
  url : String
  params : List (String × String)
  headers : List (String × String)

/-- What the source answers to the `i`th request; `http_get_json` makes an object of it. -/
abbrev FetchJson := ℕ → JsonRequest → List (String × Value)

/-- The request of a page. -/
def ErpConfig.request (config : ErpConfig) (path limit cursorParam : String) (cursor : Option String) :
    JsonRequest where
  url := String.ofList (config.baseUrl.toList.rdropWhile (· = '/')) ++ path
  params := (limit, "200") :: match cursor with
    | none | some "" => []
    | some token => [(cursorParam, token)]
  headers := [("Authorization", "Bearer " ++ config.token), ("Accept", "application/json")]

/-- `_next_cursor`: the first of the fields that is not empty. -/
def nextToken (keys : List String) (body : List (String × Value)) : Option String :=
  (keys.find? fun key => (Value.get body key).truthy).map fun key => (Value.get body key).toText

/-- `Decimal(str(value))`. -/
def decimalOfValue (value : Value) : Except Exc Decimal :=
  match Decimal.ofText value.toText with
  | some quantity => .ok quantity
  | none => .error Decimal.invalidOperation

/-! ## SAP -/

/-- `map_sap_inventory`, at the time `now`. -/
def mapSapInventory (now : Timestamp) (tenantId : String) (row : Row) : Except Exc InboundRecord := do
  let material ← requireKey row "Material"
  let location ← requireKey row "StorageLocation"
  let quantity ← decimalOfValue (Value.getD row "MatlWrhsStkQtyInMatlBaseUnit" (.int 0))
  let inventory : InventoryState :=
    { tenantId := tenantId
      sku := material.toText
      locationId := location.toText
      quantity := quantity
      stockState := .onHand
      eventTime := now
      gtin := none
      barcode := none }
  inventoryRecord .sap (material.toText ++ "@" ++ location.toText) inventory row

/-- `row["Material"]` of a row that is no object. -/
def subscriptError : Value → Exc
  | .str _ => .typeError "string indices must be integers, not 'str'"
  | .list _ => .typeError "list indices must be integers or slices, not str"
  | value => .typeError ("'" ++ value.typeName ++ "' object is not subscriptable")

/-- The mapping of what stands in a page, whether it is an object or not. -/
def mapSapItem (now : Timestamp) (tenantId : String) : Value → Except Exc InboundRecord
  | .dict row => mapSapInventory now tenantId row
  | value => .error (subscriptError value)

/-- The rows of a page. -/
def sapRows (body : List (String × Value)) : List Value :=
  match Value.get body "value" with
  | .list rows => rows
  | _ => []

/-- The answer of `SapS4InventoryConnector.fetch_page` to a body. -/
def sapPage (now : Timestamp) (tenantId : String) (body : List (String × Value)) :
    Except Exc (List InboundRecord × Option String) := do
  let records ← (sapRows body).mapM (mapSapItem now tenantId)
  .ok (records, nextToken ["@odata.nextLink", "nextLink", "next_cursor"] body)

/-- The body of a page. -/
def sapBody (config : ErpConfig) (fetchJson : FetchJson) (i : ℕ) (cursor : Option String) :
    List (String × Value) :=
  fetchJson i (config.request "/MaterialStock" "$top" "$skiptoken" cursor)

/-- `SapS4InventoryConnector.fetch_page`. `now i` is the clock at the `i`th request. -/
def sapFetchPage (config : ErpConfig) (fetchJson : FetchJson) (now : ℕ → Timestamp) : FetchPage :=
  fun i cursor => sapPage (now i) config.tenantId (sapBody config fetchJson i cursor)

/-! ## SYSPRO -/

/-- `_first`. -/
def firstOf (row : Row) (keys : List String) (default : Value) : Value :=
  ((keys.map (Value.get row)).find? fun value => value ≠ .none ∧ value ≠ .str "").getD default

/-- The stock code of a row. -/
def sysproSku (row : Row) : Value :=
  firstOf row ["StockCode", "stock_code", "stockCode", "sku"] (.str "")

/-- The warehouse of a row. -/
def sysproLocation (row : Row) : Value :=
  firstOf row ["Warehouse", "warehouse", "WarehouseToUse", "location_id"] (.str "")

/-- The quantity of a row. -/
def sysproQuantity (row : Row) : Value :=
  firstOf row ["QtyOnHand", "QtyAvailable", "quantity"] (.str "0")

/-- The record of a row without a stock code or warehouse. -/
def unidentifiedRecord (now : Timestamp) (tenantId : String) (row : Row) : InboundRecord :=
  let validation := ValidationResult.passed.fail "syspro inventory row has no stock code or warehouse"
  { tenantId := tenantId
    sourceSystem := .syspro
    sourceObjectType := "inventory_state"
    sourceObjectId :=
      (((Value.get row "id").orElse (Value.get row "StockCode")).orElse (.str "unknown")).toText
    eventTime := now
    rawPayload := row
    canonicalType := "inventory_state"
    correlationId := take 16 (sha256 (dumps (.dict row)))
    canonicalPayload := []
    validation := validation
    sourceQuality := sourceQuality validation
    actor := none }

/-- `map_syspro_inventory`, at the time `now`. -/
def mapSysproInventory (now : Timestamp) (tenantId : String) (row : Row) :
    Except Exc InboundRecord :=
  let sku := sysproSku row
  let location := sysproLocation row
  if !sku.truthy || !location.truthy then .ok (unidentifiedRecord now tenantId row)
  else do
    let quantity ← decimalOfValue (sysproQuantity row)
    let inventory : InventoryState :=
      { tenantId := tenantId
        sku := sku.toText
        locationId := location.toText
        quantity := quantity
        stockState := .onHand
        eventTime := now
        gtin := none
        barcode := none }
    inventoryRecord .syspro (sku.toText ++ "@" ++ location.toText) inventory row

/-- What the rows of a page are read from. -/
def sysproItems (body : List (String × Value)) : Value :=
  ((Value.get body "items").orElse (Value.get body "value")).orElse (.list [])

/-- The answer of `SysproInventoryConnector.fetch_page` to a body. -/
def sysproPage (now : Timestamp) (tenantId : String) (body : List (String × Value)) :
    Except Exc (List InboundRecord × Option String) := do
  let rows ← (sysproItems body).iterate
  let records ← (dictItems rows).mapM (mapSysproInventory now tenantId)
  .ok (records, nextToken ["next_cursor", "nextCursor", "cursor"] body)

/-- The body of a page. -/
def sysproBody (config : ErpConfig) (fetchJson : FetchJson) (i : ℕ) (cursor : Option String) :
    List (String × Value) :=
  fetchJson i (config.request "/inventory" "limit" "cursor" cursor)

/-- `SysproInventoryConnector.fetch_page`. -/
def sysproFetchPage (config : ErpConfig) (fetchJson : FetchJson) (now : ℕ → Timestamp) : FetchPage :=
  fun i cursor => sysproPage (now i) config.tenantId (sysproBody config fetchJson i cursor)

/-! ## What a page promises -/

/-- A value is the text of a number. -/
def IsNumber (value : Value) : Prop :=
  ∃ quantity, Decimal.ofText value.toText = some quantity ∧ quantity.isNan = false

/-- A row of SAP with its keys and a number. -/
structure SapWellFormed (row : Row) : Prop where
  material : (Dict.lookup "Material" row).isSome
  location : (Dict.lookup "StorageLocation" row).isSome
  quantity : IsNumber (Value.getD row "MatlWrhsStkQtyInMatlBaseUnit" (.int 0))

/-- A row of SYSPRO with a stock code and a warehouse. -/
def SysproIdentified (row : Row) : Prop :=
  (sysproSku row).truthy = true ∧ (sysproLocation row).truthy = true

/-- A row of SYSPRO with these and a number. -/
def SysproWellFormed (row : Row) : Prop := SysproIdentified row ∧ IsNumber (sysproQuantity row)

/-- The record of a row: what the row is mapped to, and a failed one of a malformed row. -/
structure RecordOf (mapRow : Row → Except Exc InboundRecord) (wellFormed : Row → Prop) (row : Row)
    (record : InboundRecord) : Prop where
  mapped : wellFormed row → mapRow row = .ok record
  failed : ¬ wellFormed row → record.validation.ok = false ∧ record.rawPayload = row

/-- A page of SAP has one record for each of its objects. -/
def SapIsolated (now : Timestamp) (tenantId : String) (body : List (String × Value)) : Prop :=
  ∃ records next, sapPage now tenantId body = .ok (records, next) ∧
    List.Forall₂ (RecordOf (mapSapInventory now tenantId) SapWellFormed) (dictItems (sapRows body))
      records

/-- The objects of a page of SYSPRO. -/
def sysproObjects (body : List (String × Value)) : List Row :=
  dictItems ((sysproItems body).iterate.toOption.getD [])

/-- A page of SYSPRO has one record for each of its objects. -/
def SysproIsolated (now : Timestamp) (tenantId : String) (body : List (String × Value)) : Prop :=
  ∃ records next, sysproPage now tenantId body = .ok (records, next) ∧
    List.Forall₂ (RecordOf (mapSysproInventory now tenantId) SysproWellFormed) (sysproObjects body)
      records

/-- A page of SAP of well-formed rows alone. -/
def SapClean (body : List (String × Value)) : Prop :=
  ∀ value ∈ sapRows body, ∃ row, value = .dict row ∧ SapWellFormed row

/-- A page of SYSPRO that can be iterated, and whose rows have a number if they have a stock code and a
warehouse. -/
def SysproClean (body : List (String × Value)) : Prop :=
  (∃ rows, (sysproItems body).iterate = .ok rows) ∧
    ∀ row ∈ sysproObjects body, SysproIdentified row → IsNumber (sysproQuantity row)

/-! ## One row -/

section Rows

variable {now : Timestamp} {tenantId : String} {row : Row}

/-- A value that is read as a number goes through the validation. -/
theorem isNumber_iff {value : Value} : IsNumber value ↔ ∃ quantity, decimalOfValue value = .ok quantity ∧
    ∃ negative, isBelowZero quantity = .ok negative := by
  unfold IsNumber decimalOfValue
  constructor
  · rintro ⟨quantity, htext, hnan⟩
    rw [htext]
    refine ⟨quantity, rfl, ?_⟩
    cases quantity with
    | finite s c e => exact ⟨_, rfl⟩
    | infinity s => exact ⟨_, rfl⟩
    | nan s signalling payload => cases hnan
  · rintro ⟨quantity, hquantity, negative, hnegative⟩
    cases htext : Decimal.ofText value.toText with
    | none =>
      rw [htext] at hquantity
      cases hquantity
    | some read =>
      rw [htext] at hquantity
      cases hquantity
      refine ⟨quantity, rfl, ?_⟩
      cases quantity with
      | finite s c e => rfl
      | infinity s => rfl
      | nan s signalling payload => cases hnegative

/-- A stock state has a record when its quantity can be compared. -/
theorem inventoryRecord_eq_ok_iff {system : SourceSystem} {objectId : String}
    {inventory : InventoryState} :
    (∃ record, inventoryRecord system objectId inventory row = .ok record) ↔
      ∃ negative, isBelowZero inventory.quantity = .ok negative := by
  unfold inventoryRecord validateInventory
  constructor
  · rintro ⟨record, h⟩
    obtain ⟨validation, hvalidation, -⟩ := bind_eq_ok_iff.mp h
    obtain ⟨negative, hnegative, -⟩ := bind_eq_ok_iff.mp hvalidation
    exact ⟨negative, hnegative⟩
  · rintro ⟨negative, hnegative⟩
    rw [hnegative]
    exact ⟨_, rfl⟩

theorem requireKey_eq_ok_iff {key : String} :
    (∃ value, requireKey row key = .ok value) ↔ (Dict.lookup key row).isSome := by
  unfold requireKey
  cases Dict.lookup key row with
  | none => exact ⟨fun ⟨_, h⟩ => (nomatch h), fun h => (nomatch h)⟩
  | some value => exact ⟨fun _ => rfl, fun _ => ⟨value, rfl⟩⟩

/-- A row of SAP is mapped when it is well formed. -/
theorem mapSapInventory_eq_ok_iff :
    (∃ record, mapSapInventory now tenantId row = .ok record) ↔ SapWellFormed row := by
  unfold mapSapInventory
  constructor
  · rintro ⟨record, h⟩
    obtain ⟨material, hmaterial, h⟩ := bind_eq_ok_iff.mp h
    obtain ⟨location, hlocation, h⟩ := bind_eq_ok_iff.mp h
    obtain ⟨quantity, hquantity, h⟩ := bind_eq_ok_iff.mp h
    have hcompared := inventoryRecord_eq_ok_iff.mp ⟨record, h⟩
    exact ⟨requireKey_eq_ok_iff.mp ⟨material, hmaterial⟩, requireKey_eq_ok_iff.mp ⟨location, hlocation⟩,
      isNumber_iff.mpr ⟨quantity, hquantity, hcompared⟩⟩
  · rintro ⟨hmaterial, hlocation, hnumber⟩
    obtain ⟨material, hmaterial⟩ := requireKey_eq_ok_iff.mpr hmaterial
    obtain ⟨location, hlocation⟩ := requireKey_eq_ok_iff.mpr hlocation
    obtain ⟨quantity, hquantity, hcompared⟩ := isNumber_iff.mp hnumber
    rw [hmaterial, hlocation, hquantity]
    exact inventoryRecord_eq_ok_iff.mpr hcompared

/-- A row of SYSPRO is mapped when it has a number, if it is identified. -/
theorem mapSysproInventory_eq_ok_iff :
    (∃ record, mapSysproInventory now tenantId row = .ok record) ↔
      (SysproIdentified row → IsNumber (sysproQuantity row)) := by
  unfold mapSysproInventory SysproIdentified
  dsimp only
  split_ifs with hmissing
  · refine ⟨fun _ hidentified => ?_, fun _ => ⟨_, rfl⟩⟩
    rw [hidentified.1, hidentified.2] at hmissing
    cases hmissing
  · have hidentified : (sysproSku row).truthy = true ∧ (sysproLocation row).truthy = true := by
      simpa only [Bool.or_eq_true, Bool.not_eq_true', not_or, Bool.not_eq_false] using hmissing
    rw [forall_prop_of_true hidentified, isNumber_iff]
    constructor
    · rintro ⟨record, h⟩
      obtain ⟨quantity, hquantity, h⟩ := bind_eq_ok_iff.mp h
      exact ⟨quantity, hquantity, inventoryRecord_eq_ok_iff.mp ⟨record, h⟩⟩
    · rintro ⟨quantity, hquantity, hcompared⟩
      rw [hquantity]
      exact inventoryRecord_eq_ok_iff.mpr hcompared

/-- A row that is not identified is a failed record. -/
theorem mapSysproInventory_unidentified (h : ¬ SysproIdentified row) :
    mapSysproInventory now tenantId row = .ok (unidentifiedRecord now tenantId row) := by
  have hmissing : (!(sysproSku row).truthy || !(sysproLocation row).truthy) = true := by
    unfold SysproIdentified at h
    rwa [← Bool.and_eq_true, Bool.not_eq_true, ← Bool.not_eq_true', Bool.not_and] at h
  unfold mapSysproInventory
  dsimp only
  rw [if_pos hmissing]

end Rows

/-! ## One page -/

section Pages

variable {now : Timestamp} {tenantId : String} {body : List (String × Value)}

/-- The results of a traversal of objects are those of the objects. -/
theorem forall₂_dictItems {mapRow : Row → Except Exc InboundRecord} {values : List Value}
    {records : List InboundRecord} (hobjects : ∀ value ∈ values, ∃ row, value = .dict row)
    (h : List.Forall₂ (fun value record => ∀ row, value = .dict row → mapRow row = .ok record) values
      records) : List.Forall₂ (fun row record => mapRow row = .ok record) (dictItems values) records := by
  induction h with
  | nil => exact .nil
  | @cons value record values records hvalue _ ih =>
    obtain ⟨row, rfl⟩ := hobjects value List.mem_cons_self
    have htail := ih fun value hmem => hobjects value (List.mem_cons_of_mem _ hmem)
    exact .cons (hvalue row rfl) htail

theorem exists_mapM_eq_ok {α β : Type} {f : α → Except Exc β} {xs : List α}
    (h : ∀ x ∈ xs, ∃ y, f x = .ok y) : ∃ ys, xs.mapM f = .ok ys := by
  induction xs with
  | nil => exact ⟨[], rfl⟩
  | cons x xs ih =>
    obtain ⟨⟨y, hy⟩, hrest⟩ := List.forall_mem_cons.mp h
    obtain ⟨ys, hys⟩ := ih hrest
    exact ⟨y :: ys, mapM_cons_eq_ok_iff.mpr ⟨y, ys, hy, hys, rfl⟩⟩

/-- The rows of a page of SAP are isolated exactly when all of them are well formed. -/
theorem sapIsolated_iff : SapIsolated now tenantId body ↔ SapClean body := by
  constructor
  · rintro ⟨records, next, h, -⟩ value hvalue
    obtain ⟨records', hrecords, -⟩ := bind_eq_ok_iff.mp h
    obtain ⟨record, -, hrecord⟩ := exists_mem_of_mapM hrecords hvalue
    cases value with
    | dict row => exact ⟨row, rfl, mapSapInventory_eq_ok_iff.mp ⟨record, hrecord⟩⟩
    | none | bool b | int n | float f | str s | list items => cases hrecord
  · intro h
    have hall : ∀ value ∈ sapRows body, ∃ record, mapSapItem now tenantId value = .ok record := by
      intro value hvalue
      obtain ⟨row, rfl, hrow⟩ := h value hvalue
      exact mapSapInventory_eq_ok_iff.mpr hrow
    obtain ⟨records, hrecords⟩ := exists_mapM_eq_ok hall
    refine ⟨records, _, bind_eq_ok_iff.mpr ⟨records, hrecords, rfl⟩, ?_⟩
    have hmapped : List.Forall₂ (fun value record =>
        ∀ row, value = .dict row → mapSapInventory now tenantId row = .ok record) (sapRows body)
        records := by
      refine (mapM_eq_ok_iff_forall₂.mp hrecords).imp fun value record hrecord row heq => ?_
      rw [heq] at hrecord
      exact hrecord
    have hrows := forall₂_dictItems (fun value hvalue => (h value hvalue).imp fun row hrow => hrow.1)
      hmapped
    refine hrows.imp fun row record hrow => ⟨fun _ => hrow, fun hmalformed => ?_⟩
    exact absurd (mapSapInventory_eq_ok_iff.mp ⟨record, hrow⟩) hmalformed

/-- The rows of a page of SYSPRO are isolated exactly when those that are identified have a number. -/
theorem sysproIsolated_iff : SysproIsolated now tenantId body ↔ SysproClean body := by
  constructor
  · rintro ⟨records, next, h, -⟩
    obtain ⟨rows, hrows, h⟩ := bind_eq_ok_iff.mp h
    obtain ⟨records', hrecords, -⟩ := bind_eq_ok_iff.mp h
    refine ⟨⟨rows, hrows⟩, fun row hrow => ?_⟩
    rw [sysproObjects, hrows] at hrow
    obtain ⟨record, -, hrecord⟩ := exists_mem_of_mapM hrecords hrow
    exact mapSysproInventory_eq_ok_iff.mp ⟨record, hrecord⟩
  · rintro ⟨⟨rows, hrows⟩, hnumbers⟩
    unfold SysproIsolated
    rw [sysproObjects, hrows] at hnumbers ⊢
    have hall : ∀ row ∈ dictItems rows, ∃ record, mapSysproInventory now tenantId row = .ok record :=
      fun row hrow => mapSysproInventory_eq_ok_iff.mpr (hnumbers row hrow)
    obtain ⟨records, hrecords⟩ := exists_mapM_eq_ok hall
    refine ⟨records, _, bind_eq_ok_iff.mpr ⟨rows, hrows,
      bind_eq_ok_iff.mpr ⟨records, hrecords, rfl⟩⟩, ?_⟩
    refine (mapM_eq_ok_iff_forall₂.mp hrecords).imp fun row record hrow => ⟨fun _ => hrow, ?_⟩
    intro hmalformed
    -- a malformed row that is mapped is not identified
    have hunidentified : ¬ SysproIdentified row := fun hidentified =>
      hmalformed ⟨hidentified, mapSysproInventory_eq_ok_iff.mp ⟨record, hrow⟩ hidentified⟩
    cases hrow.symm.trans (mapSysproInventory_unidentified hunidentified)
    exact ⟨rfl, rfl⟩

end Pages

/-! ## Pulls -/

section Pulls

variable {fetchPage : FetchPage} {key : String × String}

/-- A source whose pages all go through is never left because of one. -/
theorem pullPages_goes_through (h : ∀ i cursor, ∃ answer, fetchPage i cursor = .ok answer) (pages i : ℕ)
    (cursor : Option String) (seen : List (String × String × String × String))
    (cursors : CursorStore) : (pullPages fetchPage key pages i cursor seen cursors).raised = none := by
  induction pages generalizing i cursor seen cursors with
  | zero => rfl
  | succ pages ih =>
    obtain ⟨⟨page, next⟩, hpage⟩ := h i cursor
    rw [pullPages, hpage]
    dsimp only
    cases next with
    | none => rfl
    | some next =>
      dsimp only
      split_ifs
      · rfl
      · exact ih _ _ _ _

theorem pull_goes_through (h : ∀ i cursor, ∃ answer, fetchPage i cursor = .ok answer)
    (usesIncrementalCursor : Bool) (tenantId : String) (system : SourceSystem) (cursors : CursorStore) :
    (pull fetchPage usesIncrementalCursor tenantId system cursors).raised = none := by
  unfold pull
  dsimp only
  split_ifs
  · exact pullPages_goes_through h _ _ _ _ _
  · exact pullPages_goes_through h _ _ _ _ _

/-- No row of any page of a source stands in the way of another one, and every pull goes through, exactly
when the pages are clean: a malformed row of SAP, and one of SYSPRO without a number, takes its page
with it. -/
theorem erp_rows_isolated_iff (config : ErpConfig) (fetchJson : FetchJson) (now : ℕ → Timestamp) :
    (((∀ i cursor, SapIsolated (now i) config.tenantId (sapBody config fetchJson i cursor)) ∧
        ∀ cursors, (pull (sapFetchPage config fetchJson now) false config.tenantId .sap
          cursors).raised = none) ↔
      ∀ i cursor, SapClean (sapBody config fetchJson i cursor)) ∧
    (((∀ i cursor, SysproIsolated (now i) config.tenantId (sysproBody config fetchJson i cursor)) ∧
        ∀ cursors, (pull (sysproFetchPage config fetchJson now) false config.tenantId .syspro
          cursors).raised = none) ↔
      ∀ i cursor, SysproClean (sysproBody config fetchJson i cursor)) := by
  constructor
  · constructor
    · exact fun h i cursor => sapIsolated_iff.mp (h.1 i cursor)
    · intro h
      refine ⟨fun i cursor => sapIsolated_iff.mpr (h i cursor), pull_goes_through (fun i cursor => ?_) _ _ _⟩
      obtain ⟨records, next, hpage, -⟩ :=
        (@sapIsolated_iff (now i) config.tenantId _).mpr (h i cursor)
      exact ⟨(records, next), hpage⟩
  · constructor
    · exact fun h i cursor => sysproIsolated_iff.mp (h.1 i cursor)
    · intro h
      refine ⟨fun i cursor => sysproIsolated_iff.mpr (h i cursor),
        pull_goes_through (fun i cursor => ?_) _ _ _⟩
      obtain ⟨records, next, hpage, -⟩ :=
        (@sysproIsolated_iff (now i) config.tenantId _).mpr (h i cursor)
      exact ⟨(records, next), hpage⟩

end Pulls

/-- A page of SAP whose second row has no storage location. -/
def locationMissing : List (String × Value) :=
  [("value", .list
    [.dict [("Material", .str "4011"), ("StorageLocation", .str "A1"),
      ("MatlWrhsStkQtyInMatlBaseUnit", .str "12")],
      .dict [("Material", .str "4012"), ("MatlWrhsStkQtyInMatlBaseUnit", .str "3")]])]

/-- A page of SYSPRO whose second row has a quantity that is no number. -/
def quantityUnknown : List (String × Value) :=
  [("items", .list
    [.dict [("StockCode", .str "4011"), ("Warehouse", .str "A1"), ("QtyOnHand", .int 12)],
      .dict [("StockCode", .str "4012"), ("Warehouse", .str "A1"), ("QtyOnHand", .str "n/a")]])]

/-- In both pages the second row takes the first one with it. -/
theorem malformed_row_takes_page :
    sapPage ⟨0, "1970-01-01T00:00:00+00:00"⟩ "t1" locationMissing
        = .error (.keyError "'StorageLocation'") ∧
      sysproPage ⟨0, "1970-01-01T00:00:00+00:00"⟩ "t1" quantityUnknown
        = .error Decimal.invalidOperation ∧
      ¬ SapIsolated ⟨0, "1970-01-01T00:00:00+00:00"⟩ "t1" locationMissing ∧
      ¬ SysproIsolated ⟨0, "1970-01-01T00:00:00+00:00"⟩ "t1" quantityUnknown := by
  have hsap : sapPage ⟨0, "1970-01-01T00:00:00+00:00"⟩ "t1" locationMissing
      = .error (.keyError "'StorageLocation'") := by decide +kernel
  have hsyspro : sysproPage ⟨0, "1970-01-01T00:00:00+00:00"⟩ "t1" quantityUnknown
      = .error Decimal.invalidOperation := by decide +kernel
  refine ⟨hsap, hsyspro, ?_, ?_⟩
  · rintro ⟨records, next, hpage, -⟩
    rw [hsap] at hpage
    cases hpage
  · rintro ⟨records, next, hpage, -⟩
    rw [hsyspro] at hpage
    cases hpage

end ShelfWise.Connectors
