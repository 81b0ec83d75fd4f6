import ShelfWise.Connectors.Poll
import ShelfWise.Connectors.Snapshot
import ShelfWise.Sys.Paging

/-!
# The Odoo product connector

`shelfwise_connectors/connectors/systems/odoo.py`: products are read with `search_read`, 200 at a
time in the order of `write_date`, above the greatest `write_date` of the page before.

The server is a parameter. `Answers` says what it does with a request: it gives the first 200 of
the rows whose `write_date` is greater than the cursor, and breaks ties as it likes. `pull_complete_iff`
says for which tables a pull then yields every row.
-/

namespace ShelfWise.Connectors

open Py Sys

/-! ## Records -/

/-- A row of `product.product`, as JSON. -/
abbrev Row := List (String × Value)

/-- `ProductMaster`. -/
structure ProductMaster where
  tenantId : String
  sourceSystem : SourceSystem
  sourceProductId : String
  sku : Option String
  gtin : Option String
  barcode : Option String
  name : Option String
  category : Option String
deriving DecidableEq

/-- `serialise` of a product. -/
def ProductMaster.serialise (item : ProductMaster) : List (String × Value) :=
  [("tenant_id", .str item.tenantId), ("source_system", .str item.sourceSystem.value),
    ("source_product_id", .str item.sourceProductId), ("sku", optionalText item.sku),
    ("gtin", optionalText item.gtin), ("barcode", optionalText item.barcode),
    ("name", optionalText item.name), ("category", optionalText item.category)]

/-- `warn`. -/
def ValidationResult.warn (result : ValidationResult) (message : String) : ValidationResult :=
  ⟨result.ok, result.errors, result.warnings ++ [message]⟩

/-- `validate_product`. -/
def validateProduct (item : ProductMaster) : ValidationResult :=
  let result := ValidationResult.passed
  let result := if item.tenantId = "" then result.fail "product missing tenant_id" else result
  let result :=
    if item.sourceProductId = "" then result.fail "product missing source_product_id" else result
  let result :=
    if hasText item.sku ∨ hasText item.gtin ∨ hasText item.barcode then result
    else result.fail "product has no resolvable identifier"
  if hasText item.name then result else result.warn "product missing name"

/-- `map_odoo_product`, at the time `now`. -/
def mapOdooProduct (now : Timestamp) (tenantId : String) (record : Row) :
    Except Exc InboundRecord := do
  let id ← requireKey record "id"
  let product : ProductMaster :=
    { tenantId
      sourceSystem := .odoo
      sourceProductId := id.toText
      sku := some ((Value.get record "default_code").orElse id).toText
      gtin := textIfTruthy record "barcode"
      barcode := textIfTruthy record "barcode"
      name := some ((Value.get record "name").orElse (.str "unknown")).toText
      category := textIfTruthy record "category" }
  .ok
    { tenantId
      sourceSystem := .odoo
      sourceObjectType := "product"
      sourceObjectId := id.toText
      eventTime := now
      rawPayload := record
      canonicalType := "product"
      correlationId := take 16 (sha256 (dumps (.dict record)))
      canonicalPayload := product.serialise
      validation := validateProduct product
      sourceQuality := sourceQuality (validateProduct product)
      actor := none }

/-- `[map_odoo_product(row, …) for row in rows]`. -/
def mapRows (now : Timestamp) (tenantId : String) : List Row → Except Exc (List InboundRecord)
  | [] => .ok []
  | row :: rows => do
    let record ← mapOdooProduct now tenantId row
    let records ← mapRows now tenantId rows
    .ok (record :: records)

/-! ## Requests -/

/-- What a connector is made of. -/
structure OdooConfig where
  baseUrl : String
  database : String
  uid : ℤ
  apiKey : String
  tenantId : String

/-- The `limit` of a request. -/
def pageLimit : ℕ := 200

/-- `_search_read_payload`. -/
def searchReadPayload (config : OdooConfig) (cursor : Option String) : List (String × Value) :=
  let domain : List Value := match cursor with
    | none | some "" => []
    | some c => [.list [.str "write_date", .str ">", .str c]]
  [("jsonrpc", .str "2.0"), ("method", .str "call"),
    ("params", .dict
      [("service", .str "object"), ("method", .str "execute_kw"),
        ("args", .list
          [.str config.database, .int config.uid, .str config.apiKey, .str "product.product",
            .str "search_read", .list [.list domain],
            .dict
              [("fields", .list (["id", "default_code", "barcode", "name", "category",
                "write_date"].map .str)),
                ("limit", .int pageLimit), ("order", .str "write_date asc")]])]),
    ("id", .str "shelfwise_odoo_product_poll")]

/-- The items of a list that are objects. -/
def dictItems (items : List Value) : List Row :=
  items.filterMap fun
    | .dict row => some row
    | _ => none

/-- `_result_rows`. -/
def resultRows (body : List (String × Value)) : List Row :=
  match Value.get body "result" with
  | .list items => dictItems items
  | .dict result => match Value.get result "records" with
    | .list items => dictItems items
    | _ => []
  | _ => []

/-- The `write_date` of a row, as the connector compares it. -/
def writeDate (row : Row) : String := (Value.get row "write_date").toText

/-- `_max_write_date`. -/
def maxWriteDate (rows : List Row) : Option String :=
  greatest ((rows.filter fun row => (Value.get row "write_date").truthy).map writeDate)

/-- What the server answers to the `i`th request. -/
abbrev PostJson := ℕ → String → List (String × Value) → List (String × Value)

/-- `fetch_page`. `now i` is the clock at the `i`th request. -/
def fetchPage (config : OdooConfig) (postJson : PostJson) (now : ℕ → Timestamp) : FetchPage :=
  fun i cursor =>
    let body := postJson i (config.baseUrl ++ "/jsonrpc") (searchReadPayload config cursor)
    match mapRows (now i) config.tenantId (resultRows body) with
    | .error e => .error e
    | .ok records => .ok (records, maxWriteDate (resultRows body))

/-- `OdooProductConnector.pull`. -/
def pullProducts (config : OdooConfig) (postJson : PostJson) (now : ℕ → Timestamp)
    (cursors : CursorStore) : Pulled :=
  pull (fetchPage config postJson now) true config.tenantId .odoo cursors

/-! ## Source tables and servers -/

/-- What a table of products is: every row has an id of its own and a date of its last change. -/
structure IsProductTable (table : List Row) : Prop where
  id : ∀ row ∈ table, ∃ n, Dict.lookup "id" row = some (.int n)
  nodup : (table.map fun row => Value.get row "id").Nodup
  writeDate : ∀ row ∈ table, ∃ date, date ≠ "" ∧ Value.get row "write_date" = .str date

/-- The server answers every request with the first rows of the table above the cursor. -/
def Answers (config : OdooConfig) (table : List Row) (postJson : PostJson) : Prop :=
  ∀ i cursor, ∃ page, FirstRows writeDate pageLimit (above writeDate cursor table) page ∧
    Value.get (postJson i (config.baseUrl ++ "/jsonrpc") (searchReadPayload config cursor))
      "result" = .list (page.map .dict)

/-- A row is yielded when a record of it is. -/
def Yields (pulled : Pulled) (row : Row) : Prop := ∃ record ∈ pulled.records, record.rawPayload = row

/-- No rows with one `write_date` lie on both sides of a page boundary: next to a multiple of 200
rows in the order of `write_date`, the dates differ. -/
def PageAligned (table : List Row) : Prop :=
  ∀ row ∈ table, ∀ k, pageLimit * k ≤ table.countP (fun other => writeDate other < writeDate row) ∨
    table.countP (fun other => writeDate other ≤ writeDate row) ≤ pageLimit * k

/-! ## Reading the table -/

/-- The decimal text of an integer determines it. -/
theorem intText_injective {m n : ℤ} (h : (toString m : String) = toString n) : m = n := by
  have htext : ∀ k : ℕ, (Nat.repr k).toList = Nat.toDigits 10 k := fun k => by
    rw [Nat.repr_eq_ofList_toDigits, String.toList_ofList]
  -- the sign is no digit
  have hsign : ∀ j k : ℕ, Nat.toDigits 10 j ≠ '-' :: Nat.toDigits 10 k := by
    intro j k hjk
    have hmem : '-' ∈ Nat.toDigits 10 j := hjk ▸ List.mem_cons_self
    exact absurd (Decimal.isDigit_toDigits hmem) (by decide)
  have hlist : (toString m : String).toList = (toString n : String).toList := congrArg _ h
  have hneg : ∀ k : ℕ, (toString (Int.negSucc k) : String).toList = '-' :: Nat.toDigits 10 (k + 1) := by
    intro k
    show ("-" ++ Nat.repr (k + 1)).toList = _
    rw [String.toList_append, htext]
    rfl
  cases m with
  | ofNat j =>
    cases n with
    | ofNat k => exact congrArg Int.ofNat (Decimal.toDigits_injective ((htext j).symm.trans (hlist.trans (htext k))))
    | negSucc k => exact absurd ((htext j).symm.trans (hlist.trans (hneg k))) (hsign j (k + 1))
  | negSucc j =>
    cases n with
    | ofNat k => exact absurd ((htext k).symm.trans (hlist.symm.trans (hneg j))) (hsign k (j + 1))
    | negSucc k =>
      rw [hneg, hneg] at hlist
      have hjk := Decimal.toDigits_injective (List.cons.inj hlist).2
      omega

/-- A row with an id becomes a record of it. -/
theorem mapOdooProduct_ok (now : Timestamp) (tenantId : String) {row : Row} {n : ℤ}
    (hid : Dict.lookup "id" row = some (.int n)) :
    ∃ record, mapOdooProduct now tenantId row = .ok record ∧ record.rawPayload = row ∧
      record.sourceObjectId = toString n := by
  simp only [mapOdooProduct, requireKey, hid]
  exact ⟨_, rfl, rfl, rfl⟩

/-- The rows of a page become records of them. -/
theorem mapRows_ok (now : Timestamp) (tenantId : String) {rows : List Row}
    (hid : ∀ row ∈ rows, ∃ n, Dict.lookup "id" row = some (.int n)) :
    ∃ records, mapRows now tenantId rows = .ok records ∧ records.map (·.rawPayload) = rows ∧
      ∀ record ∈ records, ∀ n, Dict.lookup "id" record.rawPayload = some (.int n) →
        record.sourceObjectId = toString n := by
  induction rows with
  | nil => exact ⟨[], rfl, rfl, fun _ h => nomatch h⟩
  | cons row rows ih =>
    obtain ⟨n, hn⟩ := hid row List.mem_cons_self
    obtain ⟨record, hrecord, hraw, hobject⟩ := mapOdooProduct_ok now tenantId hn
    obtain ⟨records, hrecords, hraws, hobjects⟩ := ih fun r hr => hid r (List.mem_cons_of_mem _ hr)
    refine ⟨record :: records, ?_, ?_, ?_⟩
    · simp only [mapRows, hrecord, hrecords]
      rfl
    · rw [List.map_cons, hraw, hraws]
    · intro r hr m hm
      rcases List.mem_cons.mp hr with rfl | hr
      · rw [hraw, hn] at hm
        rw [hobject, Value.int.inj (Option.some.inj hm)]
      · exact hobjects r hr m hm

theorem dictItems_map (page : List Row) : dictItems (page.map .dict) = page := by
  induction page with
  | nil => rfl
  | cons row page ih => exact congrArg (row :: ·) ih

section Table

variable {config : OdooConfig} {table : List Row} {postJson : PostJson} {now : ℕ → Timestamp}

/-- The rows of the `i`th answer. -/
def answeredRows (config : OdooConfig) (postJson : PostJson) (i : ℕ) (cursor : Option String) :
    List Row :=
  resultRows (postJson i (config.baseUrl ++ "/jsonrpc") (searchReadPayload config cursor))

theorem firstRows_answeredRows (hanswers : Answers config table postJson) (i : ℕ)
    (cursor : Option String) :
    FirstRows writeDate pageLimit (above writeDate cursor table)
      (answeredRows config postJson i cursor) := by
  obtain ⟨page, hpage, hresult⟩ := hanswers i cursor
  have hrows : answeredRows config postJson i cursor = page := by
    rw [answeredRows, resultRows, hresult]
    exact dictItems_map page
  rw [hrows]
  exact hpage

theorem answeredRows_subset (hanswers : Answers config table postJson) (i : ℕ)
    (cursor : Option String) : answeredRows config postJson i cursor ⊆ table :=
  fun _ hrow => (above_sublist writeDate cursor table).subset
    ((firstRows_answeredRows hanswers i cursor).subset hrow)

/-- The next cursor is the greatest date of the page. -/
theorem maxWriteDate_eq (htable : IsProductTable table) {rows : List Row} (hrows : rows ⊆ table) :
    maxWriteDate rows = greatest (rows.map writeDate) := by
  have hall : (rows.filter fun row => (Value.get row "write_date").truthy) = rows := by
    refine List.filter_eq_self.mpr fun row hrow => ?_
    obtain ⟨date, hne, hdate⟩ := htable.writeDate row (hrows hrow)
    rw [hdate]
    simpa [Value.truthy] using hne
  rw [maxWriteDate, hall]

/-- The fetched records are those of the rows the reader of the library sees. -/
theorem fetchedRecords_spec (now : ℕ → Timestamp) (htable : IsProductTable table)
    (hanswers : Answers config table postJson) (pages i : ℕ) (cursor : Option String) :
    (fetchedRecords (fetchPage config postJson now) pages i cursor).map (·.rawPayload) =
        scan writeDate (answeredRows config postJson) pages i cursor ∧
      ∀ record ∈ fetchedRecords (fetchPage config postJson now) pages i cursor,
        ∀ n, Dict.lookup "id" record.rawPayload = some (.int n) →
          record.sourceObjectId = toString n := by
  induction pages generalizing i cursor with
  | zero => exact ⟨rfl, fun _ h => nomatch h⟩
  | succ pages ih =>
    have hsub := answeredRows_subset hanswers i cursor
    obtain ⟨records, hrecords, hraws, hobjects⟩ := mapRows_ok (now i) config.tenantId
      fun row hrow => htable.id row (hsub hrow)
    have hfetch : fetchPage config postJson now i cursor = .ok (records,
        greatest ((answeredRows config postJson i cursor).map writeDate)) := by
      rw [fetchPage, ← maxWriteDate_eq htable hsub]
      exact hrecords ▸ rfl
    rw [fetchedRecords, scan, hfetch]
    cases greatest ((answeredRows config postJson i cursor).map writeDate) with
    | none => exact ⟨hraws, hobjects⟩
    | some top =>
      dsimp only
      split
      · exact ⟨hraws, hobjects⟩
      · obtain ⟨hscan, hrest⟩ := ih (i + 1) (some top)
        refine ⟨by rw [List.map_append, hraws, hscan], fun record hrecord => ?_⟩
        exact (List.mem_append.mp hrecord).elim (hobjects record) (hrest record)

/-- A pull from no cursor yields the rows that the reader of the library sees. -/
theorem yields_iff_mem_scan (htable : IsProductTable table)
    (hanswers : Answers config table postJson) {cursors : CursorStore}
    (hcursor : cursors.get? (config.tenantId, SourceSystem.odoo.value) = none) (row : Row) :
    Yields (pullProducts config postJson now cursors) row ↔
      row ∈ scan writeDate (answeredRows config postJson) maxPollPages 0 none := by
  obtain ⟨hscan, hobjects⟩ := fetchedRecords_spec now htable hanswers maxPollPages 0 none
  have hrecords : (pullProducts config postJson now cursors).records =
      (pullPages (fetchPage config postJson now) (config.tenantId, SourceSystem.odoo.value)
        maxPollPages 0 none [] cursors).records := by
    rw [pullProducts, pull, hcursor]
    simp
  have htable_of : ∀ record ∈ fetchedRecords (fetchPage config postJson now) maxPollPages 0 none,
      record.rawPayload ∈ table := by
    intro record hrecord
    have hmem := List.mem_map_of_mem (f := (·.rawPayload)) hrecord
    rw [hscan] at hmem
    exact scan_subset (firstRows_answeredRows hanswers) maxPollPages 0 none hmem
  constructor
  · rintro ⟨record, hrecord, rfl⟩
    rw [hrecords] at hrecord
    have hfetched := pullPages_subset maxPollPages 0 none [] cursors hrecord
    exact hscan ▸ List.mem_map_of_mem (f := (·.rawPayload)) hfetched
  · intro hrow
    rw [← hscan] at hrow
    obtain ⟨record, hrecord, rfl⟩ := List.mem_map.mp hrow
    obtain ⟨other, hother, hkey⟩ := (exists_of_mem_fetchedRecords
      (config.tenantId, SourceSystem.odoo.value) maxPollPages 0 none [] cursors
      hrecord).resolve_left (List.not_mem_nil)
    have hfetched := pullPages_subset maxPollPages 0 none [] cursors hother
    refine ⟨other, hrecords ▸ hother, ?_⟩
    -- records with one key are about rows with one id
    obtain ⟨m, hm⟩ := htable.id _ (htable_of other hfetched)
    obtain ⟨n, hn⟩ := htable.id _ (htable_of record hrecord)
    have hids : other.sourceObjectId = record.sourceObjectId := congrArg (·.2.2.1) hkey
    rw [hobjects other hfetched m hm, hobjects record hrecord n hn] at hids
    refine List.inj_on_of_nodup_map htable.nodup (htable_of other hfetched)
      (htable_of record hrecord) ?_
    simp only [Value.get, hm, hn, intText_injective hids]

/-- A pull over a server that answers never raises. -/
theorem pullPages_raised (htable : IsProductTable table) (hanswers : Answers config table postJson)
    (key : String × String) (pages i : ℕ) (cursor : Option String)
    (seen : List (String × String × String × String)) (cursors : CursorStore) :
    (pullPages (fetchPage config postJson now) key pages i cursor seen cursors).raised = none := by
  induction pages generalizing i cursor seen cursors with
  | zero => rfl
  | succ pages ih =>
    obtain ⟨records, hrecords, -, -⟩ := mapRows_ok (now i) config.tenantId
      fun row hrow => htable.id row (answeredRows_subset hanswers i cursor hrow)
    have hfetch : fetchPage config postJson now i cursor =
        .ok (records, maxWriteDate (answeredRows config postJson i cursor)) := by
      rw [fetchPage]
      exact hrecords ▸ rfl
    rw [pullPages, hfetch]
    cases maxWriteDate (answeredRows config postJson i cursor) with
    | none => rfl
    | some next =>
      dsimp only
      split
      · rfl
      · exact ih _ _ _ _

/-- Every row is yielded exactly when the table is aligned. -/
theorem yields_all_iff (htable : IsProductTable table)
    (hpages : table.length ≤ pageLimit * maxPollPages) (hanswers : Answers config table postJson)
    {cursors : CursorStore}
    (hcursor : cursors.get? (config.tenantId, SourceSystem.odoo.value) = none) :
    (∀ row ∈ table, Yields (pullProducts config postJson now cursors) row) ↔ PageAligned table := by
  have hscan := mem_scan_iff (by decide : 0 < pageLimit) htable.nodup.of_map
    (firstRows_answeredRows hanswers) hpages
  simp only [yields_iff_mem_scan htable hanswers hcursor]
  exact hscan

theorem pullProducts_raised (htable : IsProductTable table)
    (hanswers : Answers config table postJson) (cursors : CursorStore) :
    (pullProducts config postJson now cursors).raised = none := by
  rw [pullProducts, pull]
  simp only [true_or, if_true]
  exact pullPages_raised htable hanswers _ _ _ _ _ _

end Table

/-! ## A server -/

/-- The cursor a request states. -/
def requestedCursor (payload : List (String × Value)) : Option String :=
  match Value.get (Value.get payload "params").items "args" with
  | .list [_, _, _, _, _, .list [.list [.list [_, _, .str c]]], _] => some c
  | _ => none

/-- A server over a table in the order of `write_date`. -/
def sortedServer (table : List Row) : PostJson := fun _ _ payload =>
  [("jsonrpc", .str "2.0"),
    ("result", .list (((above writeDate (requestedCursor payload) table).take pageLimit).map .dict))]

theorem sortedServer_answers (config : OdooConfig) {table : List Row}
    (htable : IsProductTable table)
    (hsorted : table.Pairwise fun a b => writeDate a ≤ writeDate b) :
    Answers config table (sortedServer table) := by
  intro i cursor
  have hcursor : above writeDate (requestedCursor (searchReadPayload config cursor)) table =
      above writeDate cursor table := by
    match cursor with
    | none => rfl
    | some c =>
      by_cases hc : c = ""
      · subst hc
        -- the empty cursor asks for every row, and every row is above it
        refine (List.filter_eq_self.mpr fun row hrow => ?_).symm
        obtain ⟨date, hne, hdate⟩ := htable.writeDate row hrow
        have hpos : "" < writeDate row := by
          rw [writeDate, hdate, Value.toText_str, String.lt_iff_toList_lt]
          cases hcs : date.toList with
          | nil => exact absurd (String.toList_eq_nil_iff.mp hcs) hne
          | cons c cs => exact List.nil_lt_cons c cs
        exact decide_eq_true hpos
      · simp only [searchReadPayload]
        rfl
  refine ⟨(above writeDate cursor table).take pageLimit, ?_, ?_⟩
  · exact firstRows_take pageLimit (hsorted.sublist (above_sublist writeDate cursor table))
      (htable.nodup.of_map.sublist (above_sublist writeDate cursor table))
  · rw [sortedServer, hcursor]
    rfl

/-! ## Completeness -/

/-- **Completeness of a poll.** From no stored cursor, a pull of a table with at most 10000 pages
completes and yields every row exactly when no rows with one `write_date` lie on both sides of a
page boundary. -/
theorem pull_complete_iff {config : OdooConfig} {table : List Row} {postJson : PostJson}
    (htable : IsProductTable table) (hpages : table.length ≤ pageLimit * maxPollPages)
    (hanswers : Answers config table postJson) (now : ℕ → Timestamp) {cursors : CursorStore}
    (hcursor : cursors.get? (config.tenantId, SourceSystem.odoo.value) = none) :
    ((pullProducts config postJson now cursors).raised = none ∧
      ∀ row ∈ table, Yields (pullProducts config postJson now cursors) row) ↔
      PageAligned table := by
  rw [yields_all_iff htable hpages hanswers hcursor]
  exact and_iff_right (pullProducts_raised htable hanswers cursors)

/-- `count` products, all changed at one time. -/
def tiedTable (count : ℕ) : List Row :=
  (List.range count).map fun n : ℕ =>
    [("id", .int (n : ℤ)), ("write_date", .str "2026-07-20 08:00:00")]

theorem writeDate_of_mem_tiedTable {count : ℕ} {row : Row} (h : row ∈ tiedTable count) :
    Value.get row "write_date" = .str "2026-07-20 08:00:00" := by
  obtain ⟨n, -, rfl⟩ := List.mem_map.mp h
  rfl

theorem tiedTable_isProductTable (count : ℕ) : IsProductTable (tiedTable count) where
  id := by
    intro row hrow
    obtain ⟨n, -, rfl⟩ := List.mem_map.mp hrow
    exact ⟨n, rfl⟩
  nodup := by
    rw [tiedTable, List.map_map]
    refine List.nodup_range.map fun a b hab => ?_
    have hint : (a : ℤ) = b := Value.int.inj hab
    omega
  writeDate := fun row hrow => ⟨_, by decide, writeDate_of_mem_tiedTable hrow⟩

theorem tiedTable_answers (config : OdooConfig) (count : ℕ) :
    Answers config (tiedTable count) (sortedServer (tiedTable count)) := by
  refine sortedServer_answers config (tiedTable_isProductTable count) ?_
  refine List.pairwise_iff_forall_sublist.mpr fun {a b} hab => ?_
  have ha : a ∈ tiedTable count := hab.subset (by simp)
  have hb : b ∈ tiedTable count := hab.subset (by simp)
  rw [writeDate, writeDate, writeDate_of_mem_tiedTable ha, writeDate_of_mem_tiedTable hb]

/-- The settings of a test connector. -/
def testConfig : OdooConfig := ⟨"https://odoo.example", "shop", 7, "key", "tenant_a"⟩

theorem pull_complete_iff_two_products :
    ((pullProducts testConfig (sortedServer (tiedTable 2)) (fun _ => ⟨0, ""⟩) .empty).raised = none ∧
      ∀ row ∈ tiedTable 2, Yields
        (pullProducts testConfig (sortedServer (tiedTable 2)) (fun _ => ⟨0, ""⟩) .empty) row) ↔
      PageAligned (tiedTable 2) :=
  pull_complete_iff (tiedTable_isProductTable 2) (by decide) (tiedTable_answers testConfig 2) _ rfl

/-- With 201 products changed at one time, the last one is never yielded. -/
theorem pull_loses_row :
    IsProductTable (tiedTable 201) ∧ (tiedTable 201).length ≤ pageLimit * maxPollPages ∧
      Answers testConfig (tiedTable 201) (sortedServer (tiedTable 201)) ∧
      ¬ ∀ row ∈ tiedTable 201, Yields
        (pullProducts testConfig (sortedServer (tiedTable 201)) (fun _ => ⟨0, ""⟩) .empty) row := by
  have htable := tiedTable_isProductTable 201
  have hlen : (tiedTable 201).length = 201 := by rw [tiedTable, List.length_map, List.length_range]
  have hpages : (tiedTable 201).length ≤ pageLimit * maxPollPages := by
    rw [hlen]
    decide
  refine ⟨htable, hpages, tiedTable_answers testConfig 201, ?_⟩
  rw [yields_all_iff htable hpages (tiedTable_answers testConfig 201) rfl]
  intro haligned
  have hmem : [("id", .int (0 : ℕ)), ("write_date", .str "2026-07-20 08:00:00")] ∈ tiedTable 201 :=
    List.mem_map.mpr ⟨0, List.mem_range.mpr (by decide), rfl⟩
  have hall : ∀ other ∈ tiedTable 201, writeDate other = "2026-07-20 08:00:00" := fun other h => by
    rw [writeDate, writeDate_of_mem_tiedTable h, Value.toText_str]
  have hbelow : (tiedTable 201).countP (fun other => writeDate other <
      writeDate [("id", .int (0 : ℕ)), ("write_date", .str "2026-07-20 08:00:00")]) = 0 := by
    refine List.countP_eq_zero.mpr fun other h => ?_
    rw [hall other h, hall _ hmem]
    simp
  have hupTo : (tiedTable 201).countP (fun other => writeDate other ≤
      writeDate [("id", .int (0 : ℕ)), ("write_date", .str "2026-07-20 08:00:00")]) = 201 := by
    rw [← hlen]
    refine List.countP_eq_length.mpr fun other h => ?_
    rw [hall other h, hall _ hmem]
    simp
  have hcut := haligned _ hmem 1
  rw [hbelow, hupTo] at hcut
  revert hcut
  decide

end ShelfWise.Connectors
