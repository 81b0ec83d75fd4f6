import ShelfWise.Ingest.CsvCommit

/-!
# One row of a spreadsheet does not stop the others

`build_records` and `preview_csv` of `csv_intake.py` quarantine a row that cannot be built, a
`_RowError`, and let every other exception end the call. Two things raise another exception: the
reader of the table, and `Money.zar` of a price with too many digits. So the rows of a file whose
header resolves are isolated exactly when the reader reads every record and, in a file of sales,
every price that is reached fits (`rows_isolated_iff`).
-/

namespace ShelfWise.Ingest

open Py Connectors

open Cascade (julyFirst)

/-! ## What ends the call -/

/-- Another exception than a `_RowError` is raised. -/
def Aborts {α : Type} (result : Except RowFailure α) : Prop := ∃ e, result = .error (.raised e)

section

variable {α β : Type}

theorem not_aborts_ok (a : α) : ¬ Aborts (.ok a : Except RowFailure α) := by
  rintro ⟨e, he⟩
  cases he

theorem not_aborts_rowError (message : String) :
    ¬ Aborts (.error (.rowError message) : Except RowFailure α) := by
  rintro ⟨e, he⟩
  cases he

variable {x : Except RowFailure α} {f : α → Except RowFailure β}

/-- A computation in two steps is ended by one of them. -/
theorem aborts_bind : Aborts (x >>= f) ↔ Aborts x ∨ ∃ a, x = .ok a ∧ Aborts (f a) := by
  cases x with
  | ok a =>
    constructor
    · exact fun h => .inr ⟨a, rfl, h⟩
    · rintro (⟨e, he⟩ | ⟨a', ha, h⟩)
      · cases he
      · cases ha
        exact h
  | error failure =>
    constructor
    · rintro ⟨e, he⟩
      cases he
      exact .inl ⟨e, rfl⟩
    · rintro (⟨e, he⟩ | ⟨a, ha, -⟩)
      · cases he
        exact ⟨e, rfl⟩
      · cases ha

theorem not_aborts_bind (hx : ¬ Aborts x) (hf : ∀ a, x = .ok a → ¬ Aborts (f a)) :
    ¬ Aborts (x >>= f) := by
  intro h
  rcases aborts_bind.mp h with hfirst | ⟨a, ha, hnext⟩
  · exact hx hfirst
  · exact hf a ha hnext

theorem not_aborts_map (f : α → β) (hx : ¬ Aborts x) : ¬ Aborts (x.map f) := by
  rintro ⟨e, he⟩
  cases x with
  | ok a => cases he
  | error failure =>
    cases he
    exact hx ⟨e, rfl⟩

/-- What raises by itself ends the call exactly when it raises. -/
theorem aborts_mapError {x : Except Exc α} : Aborts (x.mapError .raised) ↔ ¬ ∃ a, x = .ok a := by
  cases x with
  | ok a => exact iff_of_false (not_aborts_ok a) (not_not.mpr ⟨a, rfl⟩)
  | error e =>
    refine iff_of_true ⟨e, rfl⟩ ?_
    rintro ⟨a, ha⟩
    cases ha

end

/-! ## Fields -/

section

variable {env : CsvEnv}

theorem not_aborts_decimalField (values : Cells) (key : String) :
    ¬ Aborts (decimalField values key) := by
  unfold decimalField
  split
  · exact not_aborts_rowError _
  · split
    · exact not_aborts_ok _
    · exact not_aborts_rowError _

/-- A decimal that is read from a cell is finite and can be held. -/
theorem decimal_of_decimalField {values : Cells} {key : String} {d : Decimal}
    (h : decimalField values key = .ok d) : d.isFinite = true ∧ d.InRange := by
  unfold decimalField at h
  split at h
  · cases h
  · rename_i hread
    split at h
    · rename_i hfinite
      cases h
      exact ⟨hfinite, Decimal.inRange_of_ofText hread⟩
    · cases h

theorem not_aborts_parseDatetime (text key : String) : ¬ Aborts (parseDatetime env text key) := by
  unfold parseDatetime
  split
  · exact not_aborts_ok _
  · exact not_aborts_rowError _

theorem not_aborts_datetimeField (values : Cells) (key : String) :
    ¬ Aborts (datetimeField env values key) := by
  unfold datetimeField
  split
  · exact not_aborts_rowError _
  · exact not_aborts_parseDatetime _ _

theorem not_aborts_optionalDatetimeField (values : Cells) (key : String) :
    ¬ Aborts (optionalDatetimeField env values key) := by
  unfold optionalDatetimeField
  split
  · exact not_aborts_ok _
  · exact not_aborts_map _ (not_aborts_parseDatetime _ _)

theorem not_aborts_dateField (values : Cells) (key : String) :
    ¬ Aborts (dateField env values key) := by
  unfold dateField
  dsimp only
  split
  · exact not_aborts_rowError _
  · split
    · exact not_aborts_ok _
    · split
      · exact not_aborts_ok _
      · exact not_aborts_rowError _

theorem not_aborts_stockStateField (fields : Cells) :
    ¬ Aborts (stockStateField env.tables fields) := by
  unfold stockStateField
  dsimp only
  split
  · exact not_aborts_ok _
  · split
    · exact not_aborts_ok _
    · exact not_aborts_rowError _

/-- A finite decimal is compared with zero. -/
theorem isBelowZero_of_isFinite {d : Decimal} (h : d.isFinite = true) :
    ∃ negative, isBelowZero d = .ok negative := by
  cases d with
  | finite negative coefficient exponent => exact ⟨_, rfl⟩
  | infinity negative => cases h
  | nan negative signalling payload => cases h

/-! ## Prices -/

/-- A hundred times the price is half a unit below the smallest number of more digits than the
context has. -/
def CentsFit (price : Decimal) : Prop := Decimal.Fits (100 * |price.toRat|)

theorem abs_toRat (negative : Bool) (coefficient : ℕ) (exponent : ℤ) :
    |(Decimal.finite negative coefficient exponent).toRat| = coefficient * 10 ^ exponent := by
  have hvalue : (0 : ℚ) ≤ coefficient * 10 ^ exponent := by positivity
  have htoRat : (Decimal.finite negative coefficient exponent).toRat =
      (if negative then -1 else 1) * coefficient * (10 : ℚ) ^ exponent := rfl
  rw [htoRat]
  cases negative with
  | false => rw [if_neg (by decide), one_mul, abs_of_nonneg hvalue]
  | true => rw [if_pos rfl, mul_assoc, neg_one_mul, abs_neg, abs_of_nonneg hvalue]

theorem isFinite_of_fix {negative : Bool} {coefficient : ℕ} {exponent : ℤ} {d : Decimal}
    (h : Decimal.fix negative coefficient exponent = .ok d) : d.isFinite = true := by
  unfold Decimal.fix at h
  dsimp only at h
  split at h
  · cases h
    rfl
  · split at h
    · cases h
    · split at h
      · cases h
        rfl
      · split at h
        · cases h
          rfl
        · split at h
          · cases h
          · cases h
            rfl

theorem toInt_of_quantize {d cents : Decimal} {mode : Decimal.Rounding} {target : ℤ}
    (hfinite : d.isFinite = true) (h : d.quantize mode target = .ok cents) :
    ∃ n, cents.toInt = .ok n := by
  cases d with
  | infinity negative => cases hfinite
  | nan negative signalling payload => cases hfinite
  | finite negative coefficient exponent =>
    unfold Decimal.quantize at h
    dsimp only at h
    split at h
    · cases h
      exact ⟨_, rfl⟩
    · cases h

/-- `Money.zar` takes a price exactly when its cents fit. -/
theorem zar_ok_iff {price : Decimal} (hfinite : price.isFinite = true) (hrange : price.InRange) :
    (∃ money, Money.zar (.str price.str) = .ok money) ↔ CentsFit price := by
  cases price with
  | infinity negative => cases hfinite
  | nan negative signalling payload => cases hfinite
  | finite negative coefficient exponent =>
    have hread := Decimal.ofText_str hrange
    have hvalue : 100 * |(Decimal.finite negative coefficient exponent).toRat| =
        ((coefficient * 100 : ℕ) : ℚ) * 10 ^ exponent := by
      rw [abs_toRat]
      push_cast
      ring
    rw [CentsFit, hvalue, ← Decimal.quantize_fix_iff negative]
    constructor
    · rintro ⟨money, h⟩
      unfold Money.zar at h
      obtain ⟨text, htext, h⟩ := bind_eq_ok_iff.mp h
      rw [printed_str] at htext
      cases htext
      split at h
      · cases h
      · rename_i hamount
        cases hread.symm.trans hamount
        obtain ⟨hundredfold, hhundredfold, h⟩ := bind_eq_ok_iff.mp h
        obtain ⟨cents, hcents, -⟩ := bind_eq_ok_iff.mp h
        exact ⟨cents, bind_eq_ok_iff.mpr ⟨hundredfold, hhundredfold, hcents⟩⟩
    · rintro ⟨cents, h⟩
      obtain ⟨hundredfold, hhundredfold, hcents⟩ := bind_eq_ok_iff.mp h
      obtain ⟨minorUnits, hminor⟩ :=
        toInt_of_quantize (isFinite_of_fix hhundredfold) hcents
      refine ⟨⟨minorUnits, "ZAR"⟩, ?_⟩
      unfold Money.zar
      refine bind_eq_ok_iff.mpr ⟨_, printed_str _, ?_⟩
      rw [hread]
      exact bind_eq_ok_iff.mpr ⟨hundredfold, hhundredfold, bind_eq_ok_iff.mpr ⟨cents, hcents,
        bind_eq_ok_iff.mpr ⟨minorUnits, hminor, rfl⟩⟩⟩

theorem aborts_moneyField {fields : Cells} {key : String} :
    Aborts (moneyField fields key) ↔
      ∃ price, decimalField fields key = .ok price ∧ ¬ CentsFit price := by
  have hprice : ∀ price, decimalField fields key = .ok price →
      (Aborts ((Money.zar (.str price.str)).mapError .raised) ↔ ¬ CentsFit price) := by
    intro price hread
    obtain ⟨hfinite, hrange⟩ := decimal_of_decimalField hread
    exact aborts_mapError.trans (not_congr (zar_ok_iff hfinite hrange))
  unfold moneyField
  rw [aborts_bind]
  constructor
  · rintro (hfield | ⟨price, hread, h⟩)
    · exact absurd hfield (not_aborts_decimalField _ _)
    · exact ⟨price, hread, (hprice price hread).mp h⟩
  · rintro ⟨price, hread, h⟩
    exact .inr ⟨price, hread, (hprice price hread).mpr h⟩

end

/-! ## Rows -/

section

variable {env : CsvEnv} {fields : Cells} {tenantId : String} {defaultLocation : Option String}

theorem not_aborts_buildProduct : ¬ Aborts (buildProduct fields tenantId) := not_aborts_ok _

theorem not_aborts_buildStock : ¬ Aborts (buildStock env fields tenantId defaultLocation) := by
  unfold buildStock
  refine not_aborts_bind (not_aborts_stockStateField _) fun stockState _ => ?_
  refine not_aborts_bind (not_aborts_decimalField _ _) fun quantity hquantity => ?_
  refine not_aborts_bind (not_aborts_optionalDatetimeField _ _) fun eventTime _ => ?_
  refine not_aborts_bind ?_ fun _ _ => not_aborts_ok _
  rw [aborts_mapError, not_not]
  obtain ⟨negative, hnegative⟩ := isBelowZero_of_isFinite (decimal_of_decimalField hquantity).1
  exact ⟨_, bind_eq_ok_iff.mpr ⟨negative, hnegative, rfl⟩⟩

theorem not_aborts_buildExpiry : ¬ Aborts (buildExpiry env fields tenantId defaultLocation) := by
  unfold buildExpiry expiryEntry
  refine not_aborts_bind ?_ fun item hitem => ?_
  · refine not_aborts_bind (not_aborts_decimalField _ _) fun quantity _ => ?_
    exact not_aborts_bind (not_aborts_dateField _ _) fun _ _ => not_aborts_ok _
  · obtain ⟨quantity, hquantity, hitem⟩ := bind_eq_ok_iff.mp hitem
    obtain ⟨expiryDate, -, hitem⟩ := bind_eq_ok_iff.mp hitem
    cases hitem
    refine not_aborts_bind ?_ fun _ _ => not_aborts_ok _
    rw [aborts_mapError, not_not]
    obtain ⟨negative, hnegative⟩ := isBelowZero_of_isFinite (decimal_of_decimalField hquantity).1
    exact ⟨_, bind_eq_ok_iff.mpr ⟨negative, hnegative, rfl⟩⟩

/-- The price of a row of sales fits, if the row gets as far as its price. -/
def PriceFits (fields : Cells) : Prop :=
  ∀ quantity price, decimalField fields "quantity" = .ok quantity → quantity.isIntegral = true →
    decimalField fields "unit_price" = .ok price → CentsFit price

theorem aborts_salesLine :
    Aborts (salesLine env fields tenantId defaultLocation) ↔ ¬ PriceFits fields := by
  unfold salesLine
  rw [aborts_bind]
  constructor
  · rintro (hquantity | ⟨quantity, hquantity, h⟩) hfits
    · exact not_aborts_decimalField _ _ hquantity
    · split at h
      · rename_i hintegral
        rcases aborts_bind.mp h with hmoney | ⟨money, hmoney, h⟩
        · obtain ⟨price, hprice, hnot⟩ := aborts_moneyField.mp hmoney
          exact hnot (hfits quantity price hquantity hintegral hprice)
        · exact not_aborts_bind (not_aborts_datetimeField _ _) (fun _ _ => not_aborts_ok _) h
      · exact not_aborts_rowError _ h
  · intro h
    unfold PriceFits at h
    push Not at h
    obtain ⟨quantity, price, hquantity, hintegral, hprice, hnot⟩ := h
    refine .inr ⟨quantity, hquantity, ?_⟩
    rw [if_pos hintegral, aborts_bind]
    exact .inl (aborts_moneyField.mpr ⟨price, hprice, hnot⟩)

/-- A row of sales ends the call exactly when its price does not fit. -/
theorem aborts_buildSale :
    Aborts (buildSale env fields tenantId defaultLocation) ↔ ¬ PriceFits fields := by
  rw [← @aborts_salesLine env fields tenantId defaultLocation]
  unfold buildSale
  rw [aborts_bind]
  constructor
  · rintro (hline | ⟨item, hitem, h⟩)
    · exact hline
    · -- a price that was made has an amount
      exfalso
      refine not_aborts_bind ?_ (fun _ _ => not_aborts_ok _) h
      rw [aborts_mapError, not_not]
      obtain ⟨quantity, -, hitem⟩ := bind_eq_ok_iff.mp hitem
      split at hitem
      · obtain ⟨money, hmoney, hitem⟩ := bind_eq_ok_iff.mp hitem
        obtain ⟨soldAt, -, hitem⟩ := bind_eq_ok_iff.mp hitem
        cases hitem
        obtain ⟨rand, hzar⟩ := moneyField_inv hmoney
        obtain ⟨amount, hamount⟩ := amount_of_zar hzar
        exact ⟨_, bind_eq_ok_iff.mpr ⟨amount, hamount, rfl⟩⟩
      · cases hitem
  · exact fun hline => .inl hline

/-- Only a row of sales can end the call. -/
theorem aborts_buildRow {kind : CsvKind} :
    Aborts (buildRow env kind fields tenantId defaultLocation) ↔
      kind = .sales ∧ ¬ PriceFits fields := by
  cases kind with
  | products => exact iff_of_false not_aborts_buildProduct (by rintro ⟨hkind, -⟩; cases hkind)
  | stock => exact iff_of_false not_aborts_buildStock (by rintro ⟨hkind, -⟩; cases hkind)
  | expiry => exact iff_of_false not_aborts_buildExpiry (by rintro ⟨hkind, -⟩; cases hkind)
  | sales =>
    rw [eq_self, true_and]
    exact aborts_buildSale

/-- A row is canonicalised, quarantined or not, unless it ends the call. -/
theorem canonicaliseRow_ok_iff {kind : CsvKind} {mapping : Cells} {row : ℕ × Cells} :
    (∃ item, canonicaliseRow env kind tenantId defaultLocation mapping row = .ok item) ↔
      ¬ Aborts (buildRow env kind (fieldsOf mapping row.2) tenantId defaultLocation) := by
  unfold canonicaliseRow
  dsimp only
  cases hbuild : buildRow env kind (fieldsOf mapping row.2) tenantId defaultLocation with
  | ok built => exact iff_of_true ⟨_, rfl⟩ (not_aborts_ok _)
  | error failure =>
    cases failure with
    | rowError message => exact iff_of_true ⟨_, rfl⟩ (not_aborts_rowError _)
    | raised e =>
      refine iff_of_false ?_ (not_not.mpr ⟨e, rfl⟩)
      rintro ⟨item, hitem⟩
      cases hitem

theorem canonicaliseRows_ok_iff {kind : CsvKind} {mapping : Cells} {rows : List (ℕ × Cells)} :
    (∃ parsed, canonicaliseRows env kind tenantId defaultLocation mapping rows = .ok parsed) ↔
      ∀ row ∈ rows, ∃ item,
        canonicaliseRow env kind tenantId defaultLocation mapping row = .ok item := by
  induction rows with
  | nil => exact iff_of_true ⟨[], rfl⟩ fun row hrow => absurd hrow List.not_mem_nil
  | cons row rows ih =>
    rw [List.forall_mem_cons, ← ih]
    constructor
    · rintro ⟨parsed, h⟩
      obtain ⟨item, hitem, h⟩ := bind_eq_ok_iff.mp h
      obtain ⟨rest, hrest, -⟩ := bind_eq_ok_iff.mp h
      exact ⟨⟨item, hitem⟩, rest, hrest⟩
    · rintro ⟨⟨item, hitem⟩, rest, hrest⟩
      exact ⟨item :: rest, bind_eq_ok_iff.mpr ⟨item, hitem, bind_eq_ok_iff.mpr ⟨rest, hrest, rfl⟩⟩⟩

end

/-! ## Records of the table -/

/-- The data rows among the records after the header: those with a cell that is not blank, each with
the number of its record. -/
def dataRows (headers : List String) : ℕ → List (Except Exc (List String)) → List (ℕ × Cells)
  | _, [] => []
  | line, .error _ :: records => dataRows headers (line + 1) records
  | line, .ok cells :: records =>
    if cells.all fun cell => strip cell = "" then dataRows headers (line + 1) records
    else (line, rowValues cells 0 headers) :: dataRows headers (line + 1) records

section

variable {headers : List String}

/-- Without an error of the reader the rows of the table are the data rows. -/
theorem tableRows_of_read {records : List (Except Exc (List String))} {line count : ℕ}
    (hread : ∀ record ∈ records, record.isOk = true)
    (hsize : count + (dataRows headers line records).length ≤ maxCsvRows) :
    tableRows headers line count records = .ok (dataRows headers line records) := by
  induction records generalizing line count with
  | nil => rfl
  | cons record records ih =>
    obtain ⟨hrecord, hrest⟩ := List.forall_mem_cons.mp hread
    cases record with
    | error e => cases hrecord
    | ok cells =>
      rw [dataRows] at hsize ⊢
      rw [tableRows]
      split
      · rename_i hblank
        rw [if_pos hblank] at hsize
        exact ih hrest hsize
      · rename_i hdata
        rw [if_neg hdata, List.length_cons] at hsize
        rw [if_neg (by omega)]
        exact bind_eq_ok_iff.mpr ⟨_, ih hrest (by omega), rfl⟩

theorem read_of_tableRows {records : List (Except Exc (List String))} {line count : ℕ}
    {rows : List (ℕ × Cells)} (h : tableRows headers line count records = .ok rows) :
    ∀ record ∈ records, record.isOk = true := by
  induction records generalizing line count rows with
  | nil => exact fun record hrecord => absurd hrecord List.not_mem_nil
  | cons record records ih =>
    cases record with
    | error e => cases h
    | ok cells =>
      refine List.forall_mem_cons.mpr ⟨rfl, ?_⟩
      rw [tableRows] at h
      split at h
      · exact ih h
      · split at h
        · cases h
        · obtain ⟨rest, hrest, -⟩ := bind_eq_ok_iff.mp h
          exact ih hrest

end

/-- The header of an upload resolves every required column, and the file is not too long. -/
structure HeaderResolves (env : CsvEnv) (upload : CsvUpload) (headers : List String)
    (records : List (Except Exc (List String))) (mapping : Cells) : Prop where
  text : strip upload.text ≠ ""
  header : ∃ cells, Csv.reader ((env.sniff (take 4096 upload.text)).getD ',') upload.text =
    .ok cells :: records ∧ headers = cells.map strip
  named : ¬ headers.all (· = "") = true
  distinct : (headers.filter (· ≠ "")).Nodup
  resolved : inferMapping env.tables upload.kind headers upload.mapping = .ok (mapping, [])
  size : (dataRows headers 2 records).length ≤ maxCsvRows

section

variable {env : CsvEnv} {now : ℕ → Timestamp} {upload : CsvUpload} {headers : List String}
  {records : List (Except Exc (List String))} {mapping : Cells}

theorem parsedRows_of_resolves (h : HeaderResolves env upload headers records mapping) :
    parsedRows env upload = tableRows headers 2 0 records >>= fun rows =>
      .ok (rows, mapping, []) := by
  obtain ⟨cells, hreader, hheaders⟩ := h.header
  have hnamed := h.named
  have hdistinct := h.distinct
  have hresolved := h.resolved
  subst hheaders
  have htable : parseTable env upload.text = tableRows (cells.map strip) 2 0 records >>= fun rows =>
      .ok (cells.map strip, rows) := by
    unfold parseTable
    rw [if_neg h.text, hreader]
    dsimp only
    rw [if_neg hnamed, if_neg (not_not.mpr hdistinct)]
  unfold parsedRows
  rw [htable]
  cases tableRows (cells.map strip) 2 0 records with
  | error e => rfl
  | ok rows =>
    show (inferMapping env.tables upload.kind (cells.map strip) upload.mapping >>= _) = _
    rw [hresolved]
    rfl

/-- A row of the file and its record: what the record is depends on no other row, and a row that
cannot be built is quarantined. -/
structure RecordOfRow (env : CsvEnv) (now : ℕ → Timestamp) (upload : CsvUpload) (mapping : Cells)
    (row : ℕ × Cells) (record : InboundRecord) : Prop where
  canonicalised : ∃ item, canonicaliseRow env upload.kind upload.tenantId upload.defaultLocation
    mapping row = .ok item ∧ record = csvRecord env upload.kind upload.tenantId (now row.1) item
  source : record.rawPayload = Value.updateItems [("line", .int row.1)]
    (row.2.map fun e => (e.1, .str e.2))
  quarantined : ∀ message, buildRow env upload.kind (fieldsOf mapping row.2) upload.tenantId
    upload.defaultLocation = .error (.rowError message) →
    record.validation = ValidationResult.passed.fail message

theorem recordOfRow_of_canonicalised {row : ℕ × Cells} {item : ParsedRow}
    (h : canonicaliseRow env upload.kind upload.tenantId upload.defaultLocation mapping row =
      .ok item) :
    RecordOfRow env now upload mapping row
      (csvRecord env upload.kind upload.tenantId (now item.line) item) := by
  have hkept : item.line = row.1 ∧ item.values = row.2 ∧ ∀ message,
      buildRow env upload.kind (fieldsOf mapping row.2) upload.tenantId upload.defaultLocation =
        .error (.rowError message) → item.validation = ValidationResult.passed.fail message := by
    unfold canonicaliseRow at h
    dsimp only at h
    cases hbuild : buildRow env upload.kind (fieldsOf mapping row.2) upload.tenantId
        upload.defaultLocation with
    | ok built =>
      rw [hbuild] at h
      cases h
      exact ⟨rfl, rfl, fun message hmessage => by cases hmessage⟩
    | error failure =>
      rw [hbuild] at h
      cases failure with
      | rowError text =>
        cases h
        refine ⟨rfl, rfl, fun message hmessage => ?_⟩
        cases hmessage
        rfl
      | raised e => cases h
  obtain ⟨hline, hvalues, hquarantined⟩ := hkept
  refine ⟨⟨item, h, by rw [hline]⟩, ?_, hquarantined⟩
  show rawRow item = _
  rw [rawRow, hline, hvalues]

/-- Neither call raises, the records are those of the data rows in their order, and the preview
counts these rows. -/
structure RowsIsolated (env : CsvEnv) (now : ℕ → Timestamp) (upload : CsvUpload) (mapping : Cells)
    (rows : List (ℕ × Cells)) : Prop where
  built : ∃ records, buildRecords env now upload = .ok records ∧
    List.Forall₂ (RecordOfRow env now upload mapping) rows records
  previewed : ∃ preview, previewCsv env upload = .ok preview ∧ preview.missingRequired = [] ∧
    preview.rowCount = rows.length

/-- Whatever the cells hold, the rows are isolated exactly when the reader reads every record and,
in a file of sales, every price that is reached fits. -/
theorem rows_isolated_iff (h : HeaderResolves env upload headers records mapping) :
    RowsIsolated env now upload mapping (dataRows headers 2 records) ↔
      (∀ record ∈ records, record.isOk = true) ∧
        (upload.kind = .sales → ∀ row ∈ dataRows headers 2 records,
          PriceFits (fieldsOf mapping row.2)) := by
  have hparsed := parsedRows_of_resolves h
  have hsize : 0 + (dataRows headers 2 records).length ≤ maxCsvRows := by
    rw [zero_add]
    exact h.size
  have hrows : (∀ row ∈ dataRows headers 2 records, ∃ item, canonicaliseRow env upload.kind
        upload.tenantId upload.defaultLocation mapping row = .ok item) ↔
      (upload.kind = .sales → ∀ row ∈ dataRows headers 2 records,
        PriceFits (fieldsOf mapping row.2)) := by
    constructor
    · intro hall hkind row hrow
      by_contra hnot
      exact canonicaliseRow_ok_iff.mp (hall row hrow) (aborts_buildRow.mpr ⟨hkind, hnot⟩)
    · intro hfits row hrow
      refine canonicaliseRow_ok_iff.mpr fun haborts => ?_
      obtain ⟨hkind, hnot⟩ := aborts_buildRow.mp haborts
      exact hnot (hfits hkind row hrow)
  constructor
  · rintro ⟨⟨built, hbuilt, -⟩, -⟩
    obtain ⟨rows, mapping', parsed, htable, hcanonical, -⟩ := buildRecords_inv hbuilt
    rw [hparsed] at htable
    obtain ⟨rows', hrows', htable⟩ := bind_eq_ok_iff.mp htable
    cases htable
    have hread := read_of_tableRows hrows'
    rw [tableRows_of_read hread hsize] at hrows'
    cases hrows'
    exact ⟨hread, hrows.mp (canonicaliseRows_ok_iff.mp ⟨parsed, hcanonical⟩)⟩
  · rintro ⟨hread, hfits⟩
    rw [tableRows_of_read hread hsize] at hparsed
    obtain ⟨parsed, hcanonical⟩ := canonicaliseRows_ok_iff.mpr (hrows.mpr hfits)
    have hall := forall₂_canonicaliseRows hcanonical
    refine ⟨⟨_, bind_eq_ok_iff.mpr ⟨_, hparsed, bind_eq_ok_iff.mpr ⟨parsed, hcanonical, rfl⟩⟩, ?_⟩,
      ⟨_, bind_eq_ok_iff.mpr ⟨_, hparsed, bind_eq_ok_iff.mpr ⟨parsed, hcanonical, rfl⟩⟩, rfl, ?_⟩⟩
    · exact List.forall₂_map_right_iff.mpr (hall.imp fun row item hitem =>
        recordOfRow_of_canonicalised hitem)
    · exact hall.length_eq.symm

end

/-! ## Two sales -/

/-- Two sales of one day, the first at a price. -/
def salesUpload (price : String) : CsvUpload where
  kind := .sales
  text := "sku,quantity,unit_price,sold_at\n4011,1," ++ price ++
    ",2026-07-01\n4012,1,1.00,2026-07-01\n"
  tenantId := "tenant_a"
  mapping := []
  defaultLocation := none

/-- Its header. -/
def salesHeaders : List String := ["sku", "quantity", "unit_price", "sold_at"]

/-- Its records after the header. -/
def salesRecords (price : String) : List (Except Exc (List String)) :=
  [.ok ["4011", "1", price, "2026-07-01"], .ok ["4012", "1", "1.00", "2026-07-01"]]

/-- Its columns. -/
def salesMapping : Cells := salesHeaders.map fun header => (header, header)

theorem headerResolves_sales {price : String}
    (htext : strip (salesUpload price).text ≠ "")
    (hreader : Csv.reader ',' (salesUpload price).text = .ok salesHeaders :: salesRecords price)
    (hsize : (dataRows salesHeaders 2 (salesRecords price)).length ≤ maxCsvRows) :
    HeaderResolves bareShop (salesUpload price) salesHeaders (salesRecords price) salesMapping where
  text := htext
  header := ⟨salesHeaders, hreader, by decide +kernel⟩
  named := by decide
  distinct := by decide
  resolved := by
    show inferMapping bareShop.tables .sales salesHeaders [] = _
    decide +kernel
  size := hsize

theorem headerResolves_rand :
    HeaderResolves bareShop (salesUpload "1.00") salesHeaders (salesRecords "1.00") salesMapping :=
  headerResolves_sales (by decide +kernel) (by decide +kernel) (by decide +kernel)

/-- A price of one rand. -/
theorem rows_isolated_rand :
    RowsIsolated bareShop (fun _ => julyFirst) (salesUpload "1.00") salesMapping
      (dataRows salesHeaders 2 (salesRecords "1.00")) := by
  refine (rows_isolated_iff headerResolves_rand).mpr ⟨by decide +kernel, fun _ row hrow => ?_⟩
  have hprice : ∀ row ∈ dataRows salesHeaders 2 (salesRecords "1.00"),
      decimalField (fieldsOf salesMapping row.2) "unit_price" = .ok (.finite false 100 (-2)) := by
    decide +kernel
  intro quantity price _ _ h
  cases (hprice row hrow).symm.trans h
  unfold CentsFit
  rw [abs_toRat]
  unfold Decimal.Fits Decimal.precision
  norm_num

/-- A price with more digits than the context has ends both calls, and the sale after it has no
record. -/
theorem large_price_stops_rows :
    HeaderResolves bareShop (salesUpload "1e30") salesHeaders (salesRecords "1e30") salesMapping ∧
      (buildRecords bareShop (fun _ => julyFirst) (salesUpload "1e30")).map List.length =
        .error Decimal.invalidOperation ∧
      ¬ RowsIsolated bareShop (fun _ => julyFirst) (salesUpload "1e30") salesMapping
        (dataRows salesHeaders 2 (salesRecords "1e30")) := by
  have hpreview : previewCsv bareShop (salesUpload "1e30") = .error Decimal.invalidOperation := by
    decide +kernel
  have hbuild : (buildRecords bareShop (fun _ => julyFirst) (salesUpload "1e30")).map List.length =
      .error Decimal.invalidOperation := by
    decide +kernel
  refine ⟨headerResolves_sales (by decide +kernel) (by decide +kernel) (by decide +kernel), hbuild,
    fun hisolated => ?_⟩
  obtain ⟨preview, hok, -⟩ := hisolated.previewed
  rw [hpreview] at hok
  cases hok

end ShelfWise.Ingest
