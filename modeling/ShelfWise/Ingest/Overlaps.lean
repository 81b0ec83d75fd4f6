import ShelfWise.Ingest.CsvCommit
import ShelfWise.Ingest.Receipts

/-!
# Overlapping imports of sales

A shop exports its sales again and again, and the exports overlap. The module says when committing a
sequence of files goes through and applies each row once: `overlapping_imports_converge_iff`. The id of
a row does not say where the row stands, but the digest of its raw payload does, and the event of a row
that has moved has other content than the event that is stored.
-/

namespace Py

theorem isSpace_digitChar (n : ℕ) : isSpace (Nat.digitChar (n % 16)) = false := by
  have hlt : n % 16 < 16 := Nat.mod_lt _ (by decide)
  have hall : ∀ k < 16, isSpace (Nat.digitChar k) = false := by decide
  exact hall _ hlt

/-- A digest has no white space. -/
theorem isSpace_sha256 (s : String) : ∀ c ∈ (sha256 s).toList, isSpace c = false := by
  intro c hc
  unfold sha256 at hc
  dsimp only at hc
  rw [String.toList_ofList] at hc
  obtain ⟨w, -, hc⟩ := List.mem_flatMap.mp hc
  obtain ⟨k, -, rfl⟩ := List.mem_map.mp hc
  exact isSpace_digitChar _

theorem stripped_of_isSpace {s : String} (h : ∀ c ∈ s.toList, isSpace c = false) : Stripped s := by
  unfold Stripped strip
  rw [Decimal.stripChars_eq h, String.ofList_toList]

end Py

namespace ShelfWise.Ingest

open Py Sys Connectors

/-! ## The ids of rows -/

theorem stripped_empty : Stripped "" := by decide +kernel

theorem stripped_cellText {values : Cells} (h : ∀ e ∈ values, Stripped e.2) (key : String) :
    Stripped (cellText values key) := by
  unfold cellText
  cases hlookup : Dict.lookup key values with
  | none => exact stripped_empty
  | some text => exact h _ (Dict.mem_of_lookup hlookup)

/-- The cells of a row are stripped. -/
theorem stripped_rowValues (cells : List String) (index : ℕ) (headers : List String) :
    ∀ e ∈ rowValues cells index headers, Stripped e.2 := by
  induction headers generalizing index with
  | nil => exact fun e he => absurd he List.not_mem_nil
  | cons header headers ih =>
    rw [rowValues]
    split
    · exact ih (index + 1)
    · intro e he
      rcases List.mem_cons.mp he with rfl | hrest
      · dsimp only
        cases cells[index]? with
        | none => exact stripped_empty
        | some text => exact stripped_strip text
      · exact ih (index + 1) e hrest

theorem stripped_tableRows {headers : List String} {line count : ℕ}
    {records : List (Except Exc (List String))} {rows : List (ℕ × Cells)}
    (h : tableRows headers line count records = .ok rows) :
    ∀ row ∈ rows, ∀ e ∈ row.2, Stripped e.2 := by
  induction records generalizing line count rows with
  | nil =>
    cases h
    exact fun row hrow => absurd hrow List.not_mem_nil
  | cons record records ih =>
    cases record with
    | error e => cases h
    | ok cells =>
      rw [tableRows] at h
      split at h
      · exact ih h
      · split at h
        · cases h
        · obtain ⟨rest, hrest, h⟩ := bind_eq_ok_iff.mp h
          cases h
          intro row hrow
          rcases List.mem_cons.mp hrow with rfl | hmem
          · exact stripped_rowValues cells 0 headers
          · exact ih hrest row hmem

theorem stripped_parsedRows {env : CsvEnv} {upload : CsvUpload} {rows : List (ℕ × Cells)}
    {mapping : Cells} {missing : List String}
    (h : parsedRows env upload = .ok (rows, mapping, missing)) :
    ∀ row ∈ rows, ∀ e ∈ row.2, Stripped e.2 := by
  obtain ⟨table, htable, h⟩ := bind_eq_ok_iff.mp h
  obtain ⟨resolved, -, h⟩ := bind_eq_ok_iff.mp h
  cases h
  unfold parseTable at htable
  split at htable
  · cases htable
  · split at htable
    · cases htable
    · cases htable
    · dsimp only at htable
      split at htable
      · cases htable
      · split at htable
        · cases htable
        · obtain ⟨rows, hrows, htable⟩ := bind_eq_ok_iff.mp htable
          cases htable
          exact stripped_tableRows hrows

/-- The id of an imported sale ends in a stripped line id behind a colon. -/
theorem objectIdOf_sales {env : CsvEnv} {upload : CsvUpload} (hkind : upload.kind = .sales)
    {parsed : List ParsedRow} (himported : importedRows env upload = .ok parsed) {item : ParsedRow}
    (hitem : item ∈ parsed) (hvalid : item.validation.ok = true) :
    ∃ orderId lineId, objectIdOf .sales item = orderId ++ ":" ++ lineId ∧ Stripped lineId := by
  obtain ⟨⟨rows, mapping, missing⟩, hrows, himported⟩ := bind_eq_ok_iff.mp himported
  dsimp only at himported
  split at himported
  · cases himported
  · obtain ⟨row, hrow, hcanonical⟩ := row_of_parsed himported hitem
    obtain ⟨hbuild, -, -⟩ := built_of_valid hcanonical hvalid
    rw [hkind] at hbuild
    obtain ⟨line, unitPrice, hline⟩ := buildSale_inv hbuild
    refine ⟨line.orderId, line.lineId, ?_, ?_⟩
    · unfold objectIdOf
      rw [hline.canonical]
      rfl
    · rw [hline.lineId, cellOr]
      split
      · refine stripped_of_isSpace fun c hc => ?_
        rw [String.toList_append] at hc
        rcases List.mem_append.mp hc with hprefix | hkey
        · have hchars : "csvline_".toList = ['c', 's', 'v', 'l', 'i', 'n', 'e', '_'] := rfl
          have hall : (['c', 's', 'v', 'l', 'i', 'n', 'e', '_'].all fun c => !isSpace c) = true := by
            decide
          rw [hchars] at hprefix
          simpa using List.all_eq_true.mp hall c hprefix
        · unfold rowContentKey take at hkey
          rw [String.toList_ofList] at hkey
          exact isSpace_sha256 _ c (List.mem_of_mem_take hkey)
      · refine stripped_cellText ?_ _
        intro e he
        obtain ⟨field, -, rfl⟩ := List.mem_map.mp he
        exact stripped_cellText (stripped_parsedRows hrows row hrow) _

/-! ## Files -/

/-- A file and the clocks of its commit: at the row of each line and at the intake of each record. -/
structure CsvFile where
  upload : CsvUpload
  now : ℕ → Timestamp
  clock : ℕ → Timestamp

/-- `commit_csv_intake` for one file after another, until one raises. -/
def commitFiles (env : CsvEnv) :
    List CsvFile → InboundState → InboundState × Except Exc (List (List InboundOutcome))
  | [], s => (s, .ok [])
  | file :: rest, s =>
    match commitCsv env file.now file.clock file.upload s with
    | (s', .error e) => (s', .error e)
    | (s', .ok outcomes) => match commitFiles env rest s' with
      | (s'', .error e) => (s'', .error e)
      | (s'', .ok more) => (s'', .ok (outcomes :: more))

/-- The rows of a file. -/
def rowsOf (env : CsvEnv) (file : CsvFile) : List ParsedRow :=
  (importedRows env file.upload).toOption.getD []

/-- The records of a file. -/
def fileRecords (env : CsvEnv) (file : CsvFile) : List InboundRecord :=
  (rowsOf env file).map fun item =>
    csvRecord env file.upload.kind file.upload.tenantId (file.now item.line) item

/-- The records of a file with the clock at the intake of each. -/
def fileInputs (env : CsvEnv) (file : CsvFile) : List (Timestamp × InboundRecord) :=
  withClock file.clock (fileRecords env file)

/-- A file of valid sales rows of one tenant, with its required columns and at most as many rows as a
request may have. -/
structure SalesFile (env : CsvEnv) (tenantId : String) (file : CsvFile) : Prop where
  kind : file.upload.kind = .sales
  tenantId : file.upload.tenantId = tenantId
  columns : (importedRows env file.upload).isOk = true
  valid : ∀ item ∈ rowsOf env file, item.validation.ok = true
  short : (rowsOf env file).length ≤ maxCsvCommitRows

theorem SalesFile.imported {env : CsvEnv} {tenantId : String} {file : CsvFile}
    (h : SalesFile env tenantId file) : importedRows env file.upload = .ok (rowsOf env file) := by
  have hcolumns := h.columns
  unfold rowsOf
  cases himported : importedRows env file.upload with
  | error e =>
    rw [himported] at hcolumns
    cases hcolumns
  | ok parsed => rfl

/-- What two lists of records come to one after the other. -/
theorem processRecords_append (env : Intake) (first second : List (Timestamp × InboundRecord))
    (s : InboundState) :
    ((processRecords env (first ++ second) s).2.isOk = true ↔
      (processRecords env first s).2.isOk = true ∧
        (processRecords env second (processRecords env first s).1).2.isOk = true) ∧
    ((processRecords env first s).2.isOk = true → (processRecords env (first ++ second) s).1 =
      (processRecords env second (processRecords env first s).1).1) := by
  induction first generalizing s with
  | nil => exact ⟨⟨fun h => ⟨rfl, h⟩, fun h => h.2⟩, fun _ => rfl⟩
  | cons r rest ih =>
    obtain ⟨now, record⟩ := r
    rw [List.cons_append, processRecords, processRecords]
    cases hrun : (processInboundRecord env now record).run s with
    | mk s' result =>
      cases result with
      | error e => exact ⟨⟨fun h => (by cases h), fun h => (by cases h.1)⟩, fun h => (by cases h)⟩
      | ok outcome =>
        dsimp only
        obtain ⟨hok, hstate⟩ := ih s'
        cases hfirst : processRecords env rest s' with
        | mk s₁ first =>
          rw [hfirst] at hok hstate
          cases hboth : processRecords env (rest ++ second) s' with
          | mk s₂ both =>
            rw [hboth] at hok hstate
            cases first with
            | error e =>
              cases both with
              | error e' => exact ⟨⟨fun h => (by cases h), fun h => (by cases h.1)⟩, fun h => (by cases h)⟩
              | ok outcomes => exact absurd (hok.mp rfl).1 (by simp [Except.isOk, Except.toBool])
            | ok outcomes =>
              cases both with
              | error e' => exact ⟨hok, hstate⟩
              | ok outcomes' => exact ⟨hok, hstate⟩

/-- Committing files one after another gives all their records to the pipeline. -/
theorem commitFiles_eq {env : CsvEnv} {tenantId : String} {files : List CsvFile}
    (hfiles : ∀ file ∈ files, SalesFile env tenantId file) (s : InboundState) :
    ((commitFiles env files s).2.isOk = true ↔
      (processRecords env.toIntake (files.flatMap (fileInputs env)) s).2.isOk = true) ∧
    ((commitFiles env files s).2.isOk = true → (commitFiles env files s).1 =
      (processRecords env.toIntake (files.flatMap (fileInputs env)) s).1) := by
  induction files generalizing s with
  | nil => exact ⟨Iff.rfl, fun _ => rfl⟩
  | cons file rest ih =>
    have hfile := hfiles file List.mem_cons_self
    have hrest := fun f hf => hfiles f (List.mem_cons_of_mem file hf)
    have hcommit : commitCsv env file.now file.clock file.upload s =
        processRecords env.toIntake (fileInputs env file) s :=
      commitCsv_of_imported hfile.imported hfile.short s
    obtain ⟨happend, hstate⟩ := processRecords_append env.toIntake (fileInputs env file)
      (rest.flatMap (fileInputs env)) s
    rw [List.flatMap_cons, happend, commitFiles, hcommit]
    cases hfirst : processRecords env.toIntake (fileInputs env file) s with
    | mk s' first =>
      rw [hfirst] at hstate
      cases first with
      | error e => exact ⟨⟨fun h => (by cases h), fun h => (by cases h.1)⟩, fun h => (by cases h)⟩
      | ok outcomes =>
        rw [hstate rfl]
        obtain ⟨hok, hsame⟩ := ih hrest s'
        dsimp only at hok hsame ⊢
        rw [← hok]
        cases hmore : commitFiles env rest s' with
        | mk s'' more =>
          rw [hmore] at hsame
          cases more with
          | error e => exact ⟨⟨fun h => (by cases h), fun h => (by cases h.2)⟩, fun h => (by cases h)⟩
          | ok outcomes' => exact ⟨⟨fun _ => ⟨rfl, rfl⟩, fun _ => rfl⟩, hsame⟩

/-! ## Convergence -/

/-- Each row of some records is applied once: every record becomes an event, and the ledger has taken
events of the records, none for one source object twice and one for every source object, each with
a receipt of its own that asks for its units. -/
structure AppliedOnce (env : Intake) (records : List InboundRecord)
    (before after : Inventory.Store) : Prop where
  maps : ∀ record ∈ records, ∃ event, recordToEvent env.fromIso record = .ok (some event)
  once : ∃ imports : List Import,
    (∀ i ∈ imports, i.record ∈ records ∧ recordToEvent env.fromIso i.record = .ok (some i.event)) ∧
    (imports.map (·.record.sourceObjectId)).Nodup ∧
    (∀ record ∈ records, record.sourceObjectId ∈ imports.map (·.record.sourceObjectId)) ∧
    after = projectAll before imports ∧
    ∃ receipts, after.projectionReceipts.entries = before.projectionReceipts.entries ++ receipts ∧
      ReceiptsOf imports receipts

section

variable {env : CsvEnv} {tenantId : String} {files : List CsvFile}

/-- The records of files with their events. -/
structure FileImports (env : CsvEnv) (tenantId : String) (files : List CsvFile)
    (imports : List Import) : Prop where
  feed : feed imports = files.flatMap (fileInputs env)
  records : imports.map (·.record) = files.flatMap (fileRecords env)
  mapped : ∀ i ∈ imports, Mapped env.toIntake .csv (rowObjectType .sales) .sale i
  tenantId : ∀ i ∈ imports, i.record.tenantId = tenantId

theorem map_snd_fileInputs (env : CsvEnv) (files : List CsvFile) :
    (files.flatMap (fileInputs env)).map Prod.snd = files.flatMap (fileRecords env) := by
  rw [List.map_flatMap]
  congr 1
  funext file
  exact map_snd_withClock _ _

variable {record : InboundRecord}

/-- A record of a file is the record of one of its rows. -/
theorem row_of_fileRecord {file : CsvFile} (h : record ∈ fileRecords env file) :
    ∃ item ∈ rowsOf env file,
      csvRecord env file.upload.kind file.upload.tenantId (file.now item.line) item = record :=
  List.mem_map.mp h

/-- Sales whose quantities pass have events that can be taken. -/
theorem exists_fileImports (hfiles : ∀ file ∈ files, SalesFile env tenantId file)
    (hpass : ∀ file ∈ files, ∀ item ∈ rowsOf env file, QuantityPasses .sales item) :
    ∃ imports, FileImports env tenantId files imports := by
  have hevents : ∀ r ∈ files.flatMap (fileInputs env), ∃ event,
      Mapped env.toIntake .csv (rowObjectType .sales) .sale ⟨r.1, r.2, event⟩ := by
    intro r hr
    have hmem := List.mem_map_of_mem (f := Prod.snd) hr
    rw [map_snd_fileInputs] at hmem
    obtain ⟨file, hfile, hrecord⟩ := List.mem_flatMap.mp hmem
    obtain ⟨item, hitem, heq⟩ := row_of_fileRecord hrecord
    have hsales := hfiles file hfile
    obtain ⟨mapping, row, hbuild⟩ :=
      built_of_imported hsales.imported hitem (hsales.valid item hitem)
    rw [hsales.kind] at hbuild
    rw [← heq, hsales.kind]
    exact (mapped_salesRow r.1 (file.now item.line) hbuild (hsales.valid item hitem)).2
      (hpass file hfile item hitem)
  obtain ⟨imports, hfeed, hall⟩ := exists_imports hevents
  have hrecords : imports.map (·.record) = files.flatMap (fileRecords env) := by
    rw [← map_snd_fileInputs, ← hfeed]
    unfold feed
    rw [List.map_map]
    rfl
  refine ⟨imports, hfeed, hrecords, hall, ?_⟩
  intro i hi
  have hmem := List.mem_map_of_mem (f := (·.record)) hi
  rw [hrecords] at hmem
  obtain ⟨file, hfile, hrecord⟩ := List.mem_flatMap.mp hmem
  obtain ⟨item, -, heq⟩ := row_of_fileRecord hrecord
  rw [← heq]
  exact (hfiles file hfile).tenantId

variable {imports : List Import}

theorem FileImports.record_mem (h : FileImports env tenantId files imports) {i : Import}
    (hi : i ∈ imports) : i.record ∈ files.flatMap (fileRecords env) := by
  rw [← h.records]
  exact List.mem_map_of_mem hi

theorem FileImports.exists_of_record (h : FileImports env tenantId files imports)
    (hrecord : record ∈ files.flatMap (fileRecords env)) : ∃ i ∈ imports, i.record = record := by
  rw [← h.records] at hrecord
  exact List.mem_map.mp hrecord

/-- Records with one key were made of the same exactly when rows with one id were. -/
theorem FileImports.consistent_iff (h : FileImports env tenantId files imports) :
    Consistent imports ↔ ∀ a ∈ files.flatMap (fileRecords env),
      ∀ b ∈ files.flatMap (fileRecords env), a.sourceObjectId = b.sourceObjectId →
        a.payloadHash = b.payloadHash := by
  have hkey : ∀ i ∈ imports, ∀ j ∈ imports,
      (i.key = j.key ↔ i.record.sourceObjectId = j.record.sourceObjectId) := fun i hi j hj =>
    key_eq_iff (h.mapped i hi) (h.mapped j hj) ((h.tenantId i hi).trans (h.tenantId j hj).symm)
  constructor
  · intro hconsistent a ha b hb hab
    obtain ⟨i, hi, rfl⟩ := h.exists_of_record ha
    obtain ⟨j, hj, rfl⟩ := h.exists_of_record hb
    exact hconsistent i hi j hj ((hkey i hi j hj).mpr hab)
  · intro hsame i hi j hj hij
    exact hsame _ (h.record_mem hi) _ (h.record_mem hj) ((hkey i hi j hj).mp hij)

/-- The ids of the events of sales rows are told apart by the ledger. -/
theorem FileImports.ledgerKey_inj (hfiles : ∀ file ∈ files, SalesFile env tenantId file)
    (h : FileImports env tenantId files imports) {i j : Import} (hi : i ∈ imports)
    (hj : j ∈ imports) (hledger : ledgerKey i.event = ledgerKey j.event) :
    i.record.sourceObjectId = j.record.sourceObjectId := by
  have hid : ∀ i ∈ imports, strip i.event.id = i.event.id := by
    intro i hi
    obtain ⟨file, hfile, hrecord⟩ := List.mem_flatMap.mp (h.record_mem hi)
    obtain ⟨item, hitem, heq⟩ := row_of_fileRecord hrecord
    have hsales := hfiles file hfile
    obtain ⟨orderId, lineId, hobject, hstripped⟩ := objectIdOf_sales hsales.kind hsales.imported
      hitem (hsales.valid item hitem)
    have hobjectId : i.record.sourceObjectId = orderId ++ ":" ++ lineId := by
      rw [← heq, ← hobject, hsales.kind]
      rfl
    have heventId : i.event.id = ("evt_" ++ SourceSystem.csv.value ++ "_" ++ rowObjectType .sales ++
        "_" ++ orderId) ++ ":" ++ lineId := by
      rw [(h.mapped i hi).id, eventIdOf, (h.mapped i hi).system, (h.mapped i hi).objectType, hobjectId]
      simp only [String.append_assoc]
    rw [heventId, strip_colon (by simp only [String.toList_append]; rfl) (by decide),
      rstrip_of_stripped hstripped]
  have hevent : i.event.id = j.event.id := by
    rw [← hid i hi, ← hid j hj]
    exact congrArg Prod.snd hledger
  exact (eventIdOf_eq_iff (h.mapped i hi) (h.mapped j hj)).mp hevent

/-- Where the quantities pass, the commits go through exactly when rows with one id were made of the
same. -/
theorem commitFiles_ok_iff (hlive : Live env.toIntake)
    (hfiles : ∀ file ∈ files, SalesFile env tenantId file) {inventory : Inventory.Store}
    (hkeyed : Inventory.Keyed inventory.positions)
    (himports : FileImports env tenantId files imports) :
    (commitFiles env files (freshStores inventory)).2.isOk = true ↔
      ∀ a ∈ files.flatMap (fileRecords env), ∀ b ∈ files.flatMap (fileRecords env),
        a.sourceObjectId = b.sourceObjectId → a.payloadHash = b.payloadHash := by
  obtain ⟨hok, -⟩ := commitFiles_eq hfiles (freshStores inventory)
  obtain ⟨hconverges, -⟩ := converges_iff hlive (fun j hj => absurd hj List.not_mem_nil)
    (reflects_fresh env.toIntake .sale hkeyed) himports.mapped
  rw [List.nil_append, himports.feed, himports.consistent_iff] at hconverges
  exact hok.trans hconverges

/-- **Overlapping imports.** For every sequence of files of valid sales rows, whatever rows they share
and wherever these stand, and stores without a record, an event, a product or a receipt: no commit
raises and the ledger applies each row once, exactly when rows that have one id have one raw payload,
the number of the line included, and the quantity of every row is read. -/
theorem overlapping_imports_converge_iff (hlive : Live env.toIntake)
    (hfiles : ∀ file ∈ files, SalesFile env tenantId file) {inventory : Inventory.Store}
    (hkeyed : Inventory.Keyed inventory.positions)
    (hfresh : inventory.projectionReceipts = Dict.empty) :
    ((commitFiles env files (freshStores inventory)).2.isOk = true ∧
      AppliedOnce env.toIntake (files.flatMap (fileRecords env)) inventory
        (commitFiles env files (freshStores inventory)).1.ingest.inventory) ↔
      (∀ a ∈ files.flatMap (fileRecords env), ∀ b ∈ files.flatMap (fileRecords env),
        a.sourceObjectId = b.sourceObjectId → a.payloadHash = b.payloadHash) ∧
      ∀ file ∈ files, ∀ item ∈ rowsOf env file, QuantityPasses .sales item := by
  constructor
  · rintro ⟨hraises, happlied⟩
    have hpass : ∀ file ∈ files, ∀ item ∈ rowsOf env file, QuantityPasses .sales item := by
      intro file hfile item hitem
      have hsales := hfiles file hfile
      obtain ⟨event, hevent⟩ := happlied.maps _ (List.mem_flatMap.mpr ⟨file, hfile,
        List.mem_map_of_mem hitem⟩)
      obtain ⟨mapping, row, hbuild⟩ :=
        built_of_imported hsales.imported hitem (hsales.valid item hitem)
      rw [hsales.kind] at hbuild hevent
      exact (mapped_salesRow ⟨0, ""⟩ (file.now item.line) hbuild (hsales.valid item hitem)).1 event
        hevent
    obtain ⟨imports, himports⟩ := exists_fileImports hfiles hpass
    exact ⟨(commitFiles_ok_iff hlive hfiles hkeyed himports).mp hraises, hpass⟩
  · rintro ⟨hsame, hpass⟩
    obtain ⟨imports, himports⟩ := exists_fileImports hfiles hpass
    have hraises := (commitFiles_ok_iff hlive hfiles hkeyed himports).mpr hsame
    obtain ⟨hok, hstate⟩ := commitFiles_eq hfiles (freshStores inventory)
    obtain ⟨-, hafter⟩ := converges_iff hlive (fun j hj => absurd hj List.not_mem_nil)
      (reflects_fresh env.toIntake .sale hkeyed) himports.mapped
    rw [himports.feed] at hafter
    obtain ⟨hreached, hinventory⟩ := hafter (hok.mp hraises)
    rw [List.nil_append] at hreached
    rw [hstate hraises, hinventory]
    have hsub := firstsBy_sublist Import.key [] imports
    have hmem : ∀ i ∈ firstsBy Import.key [] imports, i ∈ imports := fun i hi => hsub.subset hi
    have hkeyOf : ∀ i ∈ imports, ∀ j ∈ imports,
        (i.key = j.key ↔ i.record.sourceObjectId = j.record.sourceObjectId) := fun i hi j hj =>
      key_eq_iff (himports.mapped i hi) (himports.mapped j hj)
        ((himports.tenantId i hi).trans (himports.tenantId j hj).symm)
    refine ⟨hraises, ?_, firstsBy Import.key [] imports, ?_, ?_, ?_, rfl, ?_⟩
    · intro record hrecord
      obtain ⟨i, hi, rfl⟩ := himports.exists_of_record hrecord
      exact ⟨i.event, (himports.mapped i hi).maps⟩
    · exact fun i hi => ⟨himports.record_mem (hmem i hi), (himports.mapped i (hmem i hi)).maps⟩
    · have hnodup := hreached.nodup
      unfold List.Nodup at hnodup ⊢
      rw [List.pairwise_map] at hnodup ⊢
      exact (List.Pairwise.iff_of_mem fun {i j} hi hj =>
        not_congr (hkeyOf i (hmem i hi) j (hmem j hj))).mp hnodup
    · intro record hrecord
      obtain ⟨i, hi, rfl⟩ := himports.exists_of_record hrecord
      rcases key_mem_firstsBy Import.key [] hi with hseen | hfirst
      · exact absurd hseen List.not_mem_nil
      · obtain ⟨j, hj, hkey⟩ := List.mem_map.mp hfirst
        exact List.mem_map.mpr ⟨j, hj, (hkeyOf j (hmem j hj) i hi).mp hkey⟩
    · have hsales : ∀ i ∈ firstsBy Import.key [] imports,
          Importable i.event ∧ i.event.type = .sale := fun i hi =>
        ⟨(himports.mapped i (hmem i hi)).importable, (himports.mapped i (hmem i hi)).type⟩
      obtain ⟨entries, hentries, hreceipts⟩ := receipts_projectAll hsales hkeyed
      refine ⟨entries, hentries, ?_⟩
      have hdistinct : ((firstsBy Import.key [] imports).map fun i => ledgerKey i.event).Nodup := by
        have hnodup := hreached.nodup
        unfold List.Nodup at hnodup ⊢
        rw [List.pairwise_map] at hnodup ⊢
        refine (List.Pairwise.imp_of_mem (fun {i j} hi hj hne heq => hne ?_) hnodup)
        exact (hkeyOf i (hmem i hi) j (hmem j hj)).mpr
          (himports.ledgerKey_inj hfiles (hmem i hi) (hmem j hj) heq)
      have hkeys : inventory.projectionReceipts.keys = [] := by
        rw [hfresh]
        rfl
      rw [hkeys, firstsBy_of_nodup _ (by rwa [List.nil_append])] at hreceipts
      exact hreceipts

end

/-! ## A row that has moved -/

/-- An export of sales on the first of July. -/
def salesFile (rows : String) : CsvFile where
  upload :=
    { kind := .sales
      text := "sku,quantity,unit price,sold at,order id,line id\n" ++ rows
      tenantId := "tenant_a"
      mapping := []
      defaultLocation := none }
  now := fun _ => Cascade.julyFirst
  clock := fun _ => Cascade.julyFirst

/-- A sale. -/
def milkRow : String := "4011,1,9.99,2026-07-01,o1,l1\n"

/-- Another one. -/
def breadRow : String := "4012,2,4.50,2026-07-01,o1,l2\n"

/-- What is read of both exports. -/
theorem read_exports : ∀ file ∈ [salesFile milkRow, salesFile (breadRow ++ milkRow)],
    (importedRows bareShop file.upload).isOk = true ∧
      (rowsOf bareShop file).length ≤ maxCsvCommitRows ∧
      ((rowsOf bareShop file).map (·.values)).Nodup ∧
      ∀ item ∈ rowsOf bareShop file, item.validation.ok = true ∧
        (quantityValue (Value.get item.canonical "quantity")).isOk = true := by
  decide +kernel

theorem salesFile_of_export {file : CsvFile}
    (h : file ∈ [salesFile milkRow, salesFile (breadRow ++ milkRow)]) :
    SalesFile bareShop "tenant_a" file := by
  obtain ⟨hcolumns, hshort, -, hrows⟩ := read_exports file h
  have hupload : file.upload.kind = .sales ∧ file.upload.tenantId = "tenant_a" := by
    rcases List.mem_pair.mp h with heq | heq
    · rw [heq]
      exact ⟨rfl, rfl⟩
    · rw [heq]
      exact ⟨rfl, rfl⟩
  exact ⟨hupload.1, hupload.2, hcolumns, fun item hitem => (hrows item hitem).1, hshort⟩

/-- One file with one row. -/
theorem overlapping_imports_converge_single :
    (commitFiles bareShop [salesFile milkRow] (freshStores .empty)).2.isOk = true ∧
      AppliedOnce bareShop.toIntake ([salesFile milkRow].flatMap (fileRecords bareShop)) .empty
        (commitFiles bareShop [salesFile milkRow] (freshStores .empty)).1.ingest.inventory := by
  have hexport : ∀ file ∈ [salesFile milkRow],
      file ∈ [salesFile milkRow, salesFile (breadRow ++ milkRow)] := by
    intro file hfile
    rw [List.mem_singleton.mp hfile]
    exact List.mem_cons_self
  refine (overlapping_imports_converge_iff live_bareShop
    (fun file hfile => salesFile_of_export (hexport file hfile)) Inventory.keyed_empty rfl).mpr
    ⟨by decide +kernel, ?_⟩
  intro file hfile item hitem
  exact .inr ((read_exports file (hexport file hfile)).2.2.2 item hitem).2

/-- The second file has the row of the first one line further down, and its commit raises. -/
theorem overlapping_imports_refused :
    ¬ ∀ (env : CsvEnv) (tenantId : String) (files : List CsvFile), Live env.toIntake →
      (∀ file ∈ files, SalesFile env tenantId file) →
      (∀ file ∈ files, ((rowsOf env file).map (·.values)).Nodup) →
      (∀ a ∈ files.flatMap (rowsOf env), ∀ b ∈ files.flatMap (rowsOf env),
        objectIdOf .sales a = objectIdOf .sales b → a.values = b.values) →
      (commitFiles env files (freshStores .empty)).2.isOk = true ∧
        AppliedOnce env.toIntake (files.flatMap (fileRecords env)) .empty
          (commitFiles env files (freshStores .empty)).1.ingest.inventory := by
  intro h
  have hraises := (h bareShop "tenant_a" [salesFile milkRow, salesFile (breadRow ++ milkRow)]
    live_bareShop (fun file hfile => salesFile_of_export hfile)
    (fun file hfile => (read_exports file hfile).2.2.1) (by decide +kernel)).1
  obtain ⟨imports, himports⟩ := exists_fileImports (fun file hfile => salesFile_of_export hfile)
    fun file hfile item hitem => .inr ((read_exports file hfile).2.2.2 item hitem).2
  have hsame := (commitFiles_ok_iff live_bareShop (fun file hfile => salesFile_of_export hfile)
    Inventory.keyed_empty himports).mp hraises
  -- the row is the first of one file and the second of the other
  have hmoved : ∃ a ∈ [salesFile milkRow, salesFile (breadRow ++ milkRow)].flatMap
      (fileRecords bareShop), ∃ b ∈ [salesFile milkRow, salesFile (breadRow ++ milkRow)].flatMap
      (fileRecords bareShop), a.sourceObjectId = b.sourceObjectId ∧
        a.payloadHash ≠ b.payloadHash := by
    decide +kernel
  obtain ⟨a, ha, b, hb, hid, hhash⟩ := hmoved
  exact hhash (hsame a ha b hb hid)

end ShelfWise.Ingest
