import ShelfWise.Connectors.Orders
import ShelfWise.Ingest.CsvCommit
import ShelfWise.Ingest.Receipts

/-!
# The lines of an order

A payload of Shopify or Lightspeed is mapped and every record goes through `_process_inbound_record`.
All records of an order have one raw payload, so that a line is told apart from the others by its id
alone: `order_lines_kept_iff` says when no line is lost and no line of another order is taken for it.
-/

namespace ShelfWise.Ingest

open Py Sys Connectors
open Cascade (julyFirst)

/-! ## The intake -/

/-- How the route answers an exception of a mapper. -/
def mapperError (system : PosSystem) : Exc → Exc
  | .valueError message => .httpException 422 message
  | .keyError _ | .typeError _ =>
    .httpException 422 ("Invalid " ++ system.source.value ++ " connector payload")
  | e => e

/-- `intake_connector_payload`: `now` is the clock of the mapper, `clock` that at the intake of each
record. -/
def intakePayload (env : Intake) (now : Timestamp) (clock : ℕ → Timestamp) (system : PosSystem)
    (tenantId : String) (payload : List (String × Value)) (s : InboundState) :
    InboundState × Except Exc (List InboundOutcome) :=
  match system.map env.fromIso now tenantId payload with
  | .error e => (s, .error (mapperError system e))
  | .ok records => processRecords env (withClock clock records) s

instance : DecidablePred InboundOutcome.IsAccepted := fun outcome => by
  unfold InboundOutcome.IsAccepted
  split <;> infer_instance

/-- What the ledger has been asked for of a product. -/
def requestedUnits (s : Inventory.Store) (sku : String) : ℤ :=
  (s.projectionReceipts.entries.map fun e =>
    if e.2.sku = sku then e.2.requestedQuantity.getD 0 else 0).sum

/-- The units of a product on the lines of an order. -/
def orderUnits (order : Order) (sku : String) : ℤ :=
  (order.lines.map fun sold => if strip sold.sku = sku then sold.quantity else 0).sum

/-- No line is lost: the intake raises nothing, the pipeline accepts as many events as there are
lines, and the ledger is asked for the units of every product. -/
structure LinesKept (env : Intake) (now : Timestamp) (clock : ℕ → Timestamp) (system : PosSystem)
    (tenantId : String) (payload : List (String × Value)) (order : Order)
    (inventory : Inventory.Store) : Prop where
  accepted : ∃ outcomes,
    (intakePayload env now clock system tenantId payload (freshStores inventory)).2 = .ok outcomes ∧
      (outcomes.filter fun outcome => outcome.IsAccepted).length = order.lines.length
  units : ∀ sku, requestedUnits
    (intakePayload env now clock system tenantId payload (freshStores inventory)).1.ingest.inventory
      sku = orderUnits order sku

/-! ## Sums over a part of a list -/

section Sums

variable {α κ : Type} [DecidableEq κ] (label : α → κ) (weight : α → ℤ)

/-- The weight of the elements with a label. -/
def weightOf (xs : List α) (k : κ) : ℤ := (xs.map fun a => if label a = k then weight a else 0).sum

theorem weightOf_cons (a : α) (xs : List α) (k : κ) :
    weightOf label weight (a :: xs) k =
      (if label a = k then weight a else 0) + weightOf label weight xs k := by
  unfold weightOf
  rw [List.map_cons, List.sum_cons]

theorem weightOf_le {xs ys : List α} (h : xs.Sublist ys) (hpos : ∀ a ∈ ys, 0 < weight a) (k : κ) :
    weightOf label weight xs k ≤ weightOf label weight ys k := by
  induction h with
  | slnil => exact le_refl _
  | cons a _ ih =>
    have hrest := ih fun b hb => hpos b (List.mem_cons_of_mem _ hb)
    have ha := hpos a List.mem_cons_self
    rw [weightOf_cons]
    split <;> omega
  | cons_cons a _ ih =>
    have hrest := ih fun b hb => hpos b (List.mem_cons_of_mem _ hb)
    rw [weightOf_cons, weightOf_cons]
    omega

/-- A part of a list that weighs as much under every label is all of it. -/
theorem eq_of_sublist_of_weights {xs ys : List α} (h : xs.Sublist ys)
    (hpos : ∀ a ∈ ys, 0 < weight a)
    (hsum : ∀ k, weightOf label weight xs k = weightOf label weight ys k) : xs = ys := by
  induction h with
  | slnil => rfl
  | cons a hsub ih =>
    -- the element that is left out is missed under its label
    have hle := weightOf_le label weight hsub (fun b hb => hpos b (List.mem_cons_of_mem _ hb)) (label a)
    have ha := hpos a List.mem_cons_self
    have hmissed := hsum (label a)
    rw [weightOf_cons, if_pos rfl] at hmissed
    omega
  | cons_cons a hsub ih =>
    rw [ih (fun b hb => hpos b (List.mem_cons_of_mem _ hb)) fun k => ?_]
    have hk := hsum k
    rw [weightOf_cons, weightOf_cons] at hk
    omega

end Sums

/-! ## One line -/

section

variable {env : Intake} {now : Timestamp} {system : PosSystem} {tenantId : String}
  {payload : List (String × Value)} {order : Order} {sold : OrderLine}

/-- A line of a well-formed order. -/
theorem item_of_line (h : WellFormedOrder env.fromIso now system tenantId payload order)
    (hsold : sold ∈ order.lines) : ∃ line, LineItem system.reader line sold := by
  obtain ⟨items, -, hall⟩ := h.lines
  clear h
  generalize order.lines = lines at hall hsold
  induction hall with
  | nil => exact absurd hsold List.not_mem_nil
  | cons hline _ ih =>
    rcases List.mem_cons.mp hsold with rfl | hrest
    · exact ⟨_, hline⟩
    · exact ih hrest

/-- The record of a line is valid exactly when the id of the line is not empty. -/
theorem valid_iff (h : WellFormedOrder env.fromIso now system tenantId payload order)
    (hsold : sold ∈ order.lines) :
    (order.record system sold).validation.ok = true ↔ sold.lineId ≠ "" := by
  obtain ⟨line, hline⟩ := item_of_line h hsold
  have htenant : order.sale.tenantId ≠ "" := h.tenant ▸ h.tenantId_ne
  change (validateLine order.sale sold.pos).ok = true ↔ _
  unfold validateLine
  simp only [ok_failIf, Bool.and_eq_true, Bool.not_eq_true', decide_eq_false_iff_not]
  constructor
  · exact fun hok => hok.1.1.1.2
  · intro hid
    refine ⟨⟨⟨⟨⟨⟨rfl, htenant⟩, h.orderId_ne⟩, hid⟩, hline.sku_ne⟩, ?_⟩,
      not_lt.mpr hline.priced⟩
    exact decide_eq_false (not_le.mpr hline.positive)

/-- The event of a line that has an id exists exactly when its quantity can be printed. -/
theorem event_of_line (h : WellFormedOrder env.fromIso now system tenantId payload order)
    (hiso : ReadsIso env.fromIso now) (hsold : sold ∈ order.lines) (hid : sold.lineId ≠ "") :
    (∀ event, recordToEvent env.fromIso (order.record system sold) = .ok (some event) →
      (Nat.toDigits 10 sold.quantity.natAbs).length ≤ Value.maxStrDigits) ∧
    ((Nat.toDigits 10 sold.quantity.natAbs).length ≤ Value.maxStrDigits →
      ∃ event, recordToEvent env.fromIso (order.record system sold) = .ok (some event) ∧
        ∃ locationId amount, BuiltFrom (order.record system sold) .sale
          (salePayload (order.record system sold) locationId (.int sold.quantity) sold.unitPrice
            amount) event) := by
  obtain ⟨line, hline⟩ := item_of_line h hsold
  obtain ⟨item, -, -, -, -, hzar⟩ := hline.item
  obtain ⟨amount, hamount⟩ := amount_of_zar hzar
  have hplace : ((Value.str order.sale.locationId).orElse (.str "online")).toText ≠ "" := by
    rw [Value.orElse]
    split
    · rename_i htruthy
      simpa [Value.truthy] using htruthy
    · decide
  have hmoney : unitPriceMoney (.dict [("minor_units", .int sold.unitPrice.minorUnits),
      ("currency", .str sold.unitPrice.currency)]) = .ok sold.unitPrice := by
    refine unitPriceMoney_of_zar hzar rfl ?_
    rw [(minorUnits_of_zar hzar).2]
    rfl
  have hsold' : ∃ ts, datetimeValue env.fromIso (.str order.sale.soldAt.isoformat)
      order.sale.soldAt = .ok ts := by
    unfold datetimeValue
    dsimp only
    split
    · exact ⟨_, rfl⟩
    · rw [h.reads hiso]
      exact ⟨_, rfl⟩
  obtain ⟨ts, hts⟩ := hsold'
  have htenant : (order.record system sold).tenantId ≠ "" := by
    show order.sale.tenantId ≠ ""
    rw [h.tenant]
    exact h.tenantId_ne
  obtain ⟨hread, hmapped⟩ := recordToEvent_sale_iff env.fromIso (order.record system sold) rfl
    ((valid_iff h hsold).mpr hid) htenant rfl hplace hmoney hamount hts
  constructor
  · intro event hevent
    obtain ⟨quantity, hquantity⟩ := hread event hevent
    have hself : quantityValue (.int sold.quantity) = .ok quantity := hquantity
    refine (quantityValue_int_iff sold.quantity).mp ?_
    rw [hself]
    rfl
  · intro hdigits
    have hne : sold.quantity ≠ 0 := ne_of_gt hline.positive
    obtain ⟨event, hevent, hbuilt⟩ := hmapped _ (quantityValue_int hne hdigits)
    exact ⟨event, hevent, _, amount, hbuilt⟩

end

/-! ## The lines of an order -/

/-- The lines with their events. -/
structure LineImports (env : Intake) (system : PosSystem) (order : Order)
    (clock : ℕ → Timestamp) (imports : List Import) : Prop where
  feed : feed imports = withClock clock (order.lines.map (order.record system))
  records : imports.map (·.record) = order.lines.map (order.record system)
  mapped : ∀ i ∈ imports, Mapped env system.source "sales_line" .sale i
  sales : ∀ i ∈ imports, ∃ sold ∈ order.lines, i.record = order.record system sold ∧
    ledgerSku i.event = strip sold.sku ∧
    Inventory.integralQuantity (ledgerQuantity i.event) = some sold.quantity

section

variable {env : Intake} {now : Timestamp} {system : PosSystem} {tenantId : String}
  {payload : List (String × Value)} {order : Order} {clock : ℕ → Timestamp}

/-- A line with an id and a quantity that can be printed. -/
def Passes (sold : OrderLine) : Prop :=
  sold.lineId ≠ "" ∧ (Nat.toDigits 10 sold.quantity.natAbs).length ≤ Value.maxStrDigits

theorem record_of_lineInput {r : Timestamp × InboundRecord}
    (h : r ∈ withClock clock (order.lines.map (order.record system))) :
    ∃ sold ∈ order.lines, order.record system sold = r.2 := by
  have hmem := List.mem_map_of_mem (f := Prod.snd) h
  rw [map_snd_withClock] at hmem
  exact List.mem_map.mp hmem

/-- What the ledger reads of the event of a line. -/
theorem ledger_of_line {sold : OrderLine} {event : Event} {locationId : String} {amount : Decimal}
    (hdigits : (Nat.toDigits 10 sold.quantity.natAbs).length ≤ Value.maxStrDigits)
    (h : BuiltFrom (order.record system sold) .sale (salePayload (order.record system sold)
      locationId (.int sold.quantity) sold.unitPrice amount) event) :
    ledgerSku event = strip sold.sku ∧
      Inventory.integralQuantity (ledgerQuantity event) = some sold.quantity := by
  constructor
  · unfold ledgerSku
    rw [h.payload]
    have hsku : Value.get (salePayload (order.record system sold) locationId (.int sold.quantity)
        sold.unitPrice amount) "sku" = .str ((Value.str sold.sku).orElse (.str "")).toText := rfl
    rw [hsku, Inventory.toText_orElse_empty, Inventory.toText_orElse_empty]
  · have hquantity : ledgerQuantity event = .int sold.quantity := by
      unfold ledgerQuantity
      rw [h.payload]
      rfl
    have hread : Decimal.ofText (Value.int sold.quantity).toText =
        some (.finite (sold.quantity < 0) sold.quantity.natAbs 0) := (Decimal.printed_int hdigits).2
    obtain ⟨hintegral, htruncate⟩ := Decimal.truncate_int sold.quantity
    unfold Inventory.integralQuantity
    rw [hquantity, hread]
    dsimp only
    rw [hintegral, htruncate]
    rfl

/-- Lines that pass have events that can be taken. -/
theorem exists_lineImports (h : WellFormedOrder env.fromIso now system tenantId payload order)
    (hiso : ReadsIso env.fromIso now) (hpass : ∀ sold ∈ order.lines, Passes sold)
    (clock : ℕ → Timestamp) : ∃ imports, LineImports env system order clock imports := by
  have hevents : ∀ r ∈ withClock clock (order.lines.map (order.record system)), ∃ event,
      Mapped env system.source "sales_line" .sale ⟨r.1, r.2, event⟩ := by
    intro r hr
    obtain ⟨sold, hsold, heq⟩ := record_of_lineInput hr
    obtain ⟨hid, hdigits⟩ := hpass sold hsold
    obtain ⟨event, hevent, locationId, amount, hbuilt⟩ := (event_of_line h hiso hsold hid).2 hdigits
    rw [← heq]
    exact ⟨event, mapped_of_sale (i := ⟨r.1, order.record system sold, event⟩) hevent hbuilt⟩
  obtain ⟨imports, hfeed, hall⟩ := exists_imports hevents
  have hrecords : imports.map (·.record) = order.lines.map (order.record system) := by
    rw [← map_snd_withClock clock (order.lines.map _), ← hfeed]
    unfold feed
    rw [List.map_map]
    rfl
  refine ⟨imports, hfeed, hrecords, hall, ?_⟩
  intro i hi
  have hmem := List.mem_map_of_mem (f := (·.record)) hi
  rw [hrecords] at hmem
  obtain ⟨sold, hsold, heq⟩ := List.mem_map.mp hmem
  obtain ⟨hid, hdigits⟩ := hpass sold hsold
  obtain ⟨event, hevent, locationId, amount, hbuilt⟩ := (event_of_line h hiso hsold hid).2 hdigits
  have hsame : i.event = event := by
    have hmaps := (hall i hi).maps
    rw [← heq, hevent] at hmaps
    exact (Option.some.inj (Except.ok.inj hmaps)).symm
  rw [hsame]
  exact ⟨sold, hsold, heq.symm, ledger_of_line hdigits hbuilt⟩

variable {imports : List Import}

/-- The ids of the source objects are told apart by the ids of the lines. -/
theorem LineImports.nodup_keys_iff (h : LineImports env system order clock imports) :
    (imports.map Import.key).Nodup ↔ (order.lines.map (·.lineId)).Nodup := by
  have htenant : ∀ i ∈ imports, i.record.tenantId = order.sale.tenantId := by
    intro i hi
    obtain ⟨sold, -, heq, -⟩ := h.sales i hi
    rw [heq]
    rfl
  have hids : imports.map (·.record.sourceObjectId) = order.lines.map order.objectId := by
    have hmapped := congrArg (List.map (·.sourceObjectId)) h.records
    rw [List.map_map, List.map_map] at hmapped
    exact hmapped
  rw [Ingest.nodup_keys_iff h.mapped htenant, hids]
  have hobject : order.objectId = (fun id => order.sale.orderId ++ ":" ++ id) ∘ (·.lineId) := rfl
  rw [hobject, ← List.map_map]
  exact List.nodup_map_iff fun a b hab => (String.append_right_inj _).mp hab

/-- The keys of the receipts are told apart by the ids of the lines without trailing white space. -/
theorem LineImports.nodup_ledgerKeys_iff (h : LineImports env system order clock imports) :
    (imports.map fun i => ledgerKey i.event).Nodup ↔
      (order.lines.map fun sold => rstrip sold.lineId).Nodup := by
  have hkeys : imports.map (fun i => ledgerKey i.event) = order.lines.map fun sold =>
      (strip order.sale.tenantId, "evt_" ++ system.source.value ++ "_" ++ "sales_line" ++ "_" ++
        order.sale.orderId ++ ":" ++ rstrip sold.lineId) := by
    have hkey : ∀ i ∈ imports, ledgerKey i.event = (strip i.record.tenantId,
        strip (eventIdOf i.record)) := fun i hi => by
      rw [ledgerKey, (h.mapped i hi).tenantId, (h.mapped i hi).id]
    rw [List.map_congr_left hkey]
    have hrecords := congrArg (List.map fun r : InboundRecord =>
      (strip r.tenantId, strip (eventIdOf r))) h.records
    rw [List.map_map, List.map_map] at hrecords
    refine hrecords.trans (List.map_congr_left fun sold _ => ?_)
    show (strip order.sale.tenantId, strip (eventIdOf (order.record system sold))) = _
    have hid : eventIdOf (order.record system sold) = ("evt_" ++ system.source.value ++ "_" ++
        "sales_line" ++ "_" ++ order.sale.orderId) ++ ":" ++ sold.lineId := by
      show "evt_" ++ system.source.value ++ "_" ++ "sales_line" ++ "_" ++
        (order.sale.orderId ++ ":" ++ sold.lineId) = _
      simp only [String.append_assoc]
    rw [hid, strip_colon (by simp only [String.toList_append]; rfl) (by decide)]
  rw [hkeys, show (fun sold : OrderLine => (strip order.sale.tenantId, "evt_" ++
    system.source.value ++ "_" ++ "sales_line" ++ "_" ++ order.sale.orderId ++ ":" ++
      rstrip sold.lineId)) = (fun id => (strip order.sale.tenantId, "evt_" ++
    system.source.value ++ "_" ++ "sales_line" ++ "_" ++ order.sale.orderId ++ ":" ++ id)) ∘
      (fun sold => rstrip sold.lineId) from rfl, ← List.map_map]
  exact List.nodup_map_iff fun a b hab => (String.append_right_inj _).mp (congrArg Prod.snd hab)

/-! ## When no line is lost -/

theorem length_withClock (clock : ℕ → Timestamp) (records : List InboundRecord) :
    (withClock clock records).length = records.length := by
  rw [← List.length_map (f := Prod.snd), map_snd_withClock]

variable {inputs : List (Timestamp × InboundRecord)} {s : InboundState}

theorem length_outcomes {outcomes : List InboundOutcome}
    (h : (processRecords env inputs s).2 = .ok outcomes) : outcomes.length = inputs.length := by
  induction inputs generalizing s outcomes with
  | nil =>
    cases h
    rfl
  | cons r rest ih =>
    rw [processRecords] at h
    split at h
    · cases h
    · split at h
      · cases h
      · rename_i hrest
        cases h
        rw [List.length_cons, List.length_cons, ih (congrArg Prod.snd hrest)]

/-- As many accepted outcomes as records: all are accepted. -/
theorem allAccepted_iff_length :
    (∃ outcomes, (processRecords env inputs s).2 = .ok outcomes ∧
      (outcomes.filter fun outcome => outcome.IsAccepted).length = inputs.length) ↔
      AllAccepted (processRecords env inputs s).2 := by
  constructor
  · rintro ⟨outcomes, hok, hlength⟩
    refine ⟨outcomes, hok, fun outcome houtcome => ?_⟩
    rw [← length_outcomes hok, List.length_filter_eq_length_iff] at hlength
    exact of_decide_eq_true (hlength outcome houtcome)
  · rintro ⟨outcomes, hok, hall⟩
    refine ⟨outcomes, hok, ?_⟩
    rw [← length_outcomes hok, List.length_filter_eq_length_iff]
    exact fun outcome houtcome => decide_eq_true (hall outcome houtcome)

/-- A record that fails its validation is kept as it is, and nothing else is done. -/
theorem run_processInboundRecord_of_invalid {record : InboundRecord}
    (hinvalid : record.validation.ok = false) (now : Timestamp) (s : InboundState) :
    ∃ s' outcome, (processInboundRecord env now record).run s = (s', .ok outcome) ∧
      s'.ingest = s.ingest ∧ ¬ outcome.IsAccepted := by
  have hnone : recordToEvent env.fromIso record = .ok none := by
    unfold recordToEvent
    rw [if_pos hinvalid]
  unfold processInboundRecord
  rw [hnone]
  dsimp only
  rw [Program.run_bind, Program.run_call]
  split
  · exact ⟨_, _, rfl, rfl, fun h => h⟩
  · exact ⟨_, _, rfl, rfl, fun h => h⟩

variable {inventory : Inventory.Store}

/-- What the ledger is asked for after the lines have been imported. -/
theorem requestedUnits_projectAll (himports : LineImports env system order clock imports)
    (hkeyed : Inventory.Keyed inventory.positions)
    (hfresh : inventory.projectionReceipts = Dict.empty) (sku : String) :
    requestedUnits (projectAll inventory imports) sku =
      weightOf (fun i : Import => ledgerSku i.event)
        (fun i => (Inventory.integralQuantity (ledgerQuantity i.event)).getD 0)
        (firstsBy (fun i => ledgerKey i.event) [] imports) sku := by
  obtain ⟨entries, hentries, hreceipts⟩ := receipts_projectAll
    (fun i hi => ⟨(himports.mapped i hi).importable, (himports.mapped i hi).type⟩) hkeyed
  have hkeys : inventory.projectionReceipts.keys = [] := by
    rw [hfresh]
    rfl
  have hnone : inventory.projectionReceipts.entries = [] := by
    rw [hfresh]
    rfl
  rw [hkeys] at hreceipts
  unfold requestedUnits weightOf
  rw [hentries, hnone, List.nil_append]
  unfold ReceiptsOf at hreceipts
  generalize firstsBy (fun i : Import => ledgerKey i.event) [] imports = firsts at hreceipts ⊢
  congr 1
  clear hentries
  induction hreceipts with
  | nil => rfl
  | cons hof _ ih =>
    rw [List.map_cons, List.map_cons, ih, hof.2.sku, hof.2.requested]

/-- The units of the order are those of its events. -/
theorem orderUnits_eq (himports : LineImports env system order clock imports) (sku : String) :
    orderUnits order sku = weightOf (fun i : Import => ledgerSku i.event)
      (fun i => (Inventory.integralQuantity (ledgerQuantity i.event)).getD 0) imports sku := by
  -- both sums are read off the canonical payloads of the records
  have hread : ∀ i ∈ imports, (if ledgerSku i.event = sku then
      (Inventory.integralQuantity (ledgerQuantity i.event)).getD 0 else 0) =
      (if strip (Value.get i.record.canonicalPayload "sku").toText = sku then
        (Value.get i.record.canonicalPayload "quantity").toInt.toOption.getD 0 else 0) := by
    intro i hi
    obtain ⟨sold, -, hrecord, hsku, hquantity⟩ := himports.sales i hi
    rw [hsku, hquantity, hrecord]
    rfl
  have hsums := congrArg (fun rs : List InboundRecord => (rs.map fun r =>
    if strip (Value.get r.canonicalPayload "sku").toText = sku then
      (Value.get r.canonicalPayload "quantity").toInt.toOption.getD 0 else 0).sum) himports.records
  simp only [List.map_map] at hsums
  unfold weightOf orderUnits
  rw [List.map_congr_left hread]
  exact hsums.symm

/-- No line of one order is lost exactly when every line has an id and a quantity that can be printed,
and the ids of the lines differ in more than trailing white space. -/
theorem linesKept_iff (hlive : Live env)
    (h : WellFormedOrder env.fromIso now system tenantId payload order)
    (hiso : ReadsIso env.fromIso now) (clock : ℕ → Timestamp)
    (hkeyed : Inventory.Keyed inventory.positions)
    (hfresh : inventory.projectionReceipts = Dict.empty) :
    LinesKept env now clock system tenantId payload order inventory ↔
      (∀ sold ∈ order.lines, Passes sold) ∧
        (order.lines.map fun sold => rstrip sold.lineId).Nodup := by
  by_cases hlines : order.lines = []
  · -- the one record of an order without lines is no line
    refine iff_of_true ?_ ⟨by simp [hlines], by simp [hlines]⟩
    obtain ⟨record, hmap, hinvalid⟩ := map_of_empty h hlines
    obtain ⟨s', outcome, hrun, hsame, hno⟩ :=
      run_processInboundRecord_of_invalid hinvalid (clock 0) (freshStores inventory)
    have hintake : intakePayload env now clock system tenantId payload (freshStores inventory) =
        (s', .ok [outcome]) := by
      unfold intakePayload
      rw [hmap]
      show processRecords env [(clock 0, record)] (freshStores inventory) = _
      rw [processRecords, hrun]
      rfl
    refine ⟨⟨[outcome], congrArg Prod.snd hintake, ?_⟩, fun sku => ?_⟩
    · simp [hno, hlines]
    · rw [hintake]
      show requestedUnits s'.ingest.inventory sku = _
      rw [hsame]
      show requestedUnits inventory sku = _
      unfold requestedUnits orderUnits
      rw [hfresh, hlines]
      rfl
  · have hintake : intakePayload env now clock system tenantId payload (freshStores inventory) =
        processRecords env (withClock clock (order.lines.map (order.record system)))
          (freshStores inventory) := by
      unfold intakePayload
      rw [map_of_wellFormed h hlines]
    have hall : LinesKept env now clock system tenantId payload order inventory ↔
        AllAccepted (processRecords env (withClock clock (order.lines.map (order.record system)))
          (freshStores inventory)).2 ∧ ∀ sku, requestedUnits (processRecords env (withClock clock
            (order.lines.map (order.record system))) (freshStores inventory)).1.ingest.inventory
              sku = orderUnits order sku := by
      rw [← allAccepted_iff_length, length_withClock, List.length_map, ← hintake]
      exact ⟨fun hkept => ⟨hkept.accepted, hkept.units⟩, fun hkept => ⟨hkept.1, hkept.2⟩⟩
    rw [hall]
    have hpassOf : AllAccepted (processRecords env (withClock clock (order.lines.map
        (order.record system))) (freshStores inventory)).2 → ∀ sold ∈ order.lines, Passes sold := by
      intro haccepted sold hsold
      have hmem : order.record system sold ∈
          (withClock clock (order.lines.map (order.record system))).map Prod.snd := by
        rw [map_snd_withClock]
        exact List.mem_map_of_mem hsold
      obtain ⟨r, hr, heq⟩ := List.mem_map.mp hmem
      obtain ⟨event, hevent⟩ := events_of_allAccepted haccepted r hr
      rw [heq] at hevent
      have hvalid : (order.record system sold).validation.ok = true := by
        by_contra hinvalid
        unfold recordToEvent at hevent
        rw [if_pos (Bool.not_eq_true _ ▸ hinvalid)] at hevent
        cases hevent
      have hid := (valid_iff h hsold).mp hvalid
      exact ⟨hid, (event_of_line h hiso hsold hid).1 event hevent⟩
    by_cases hpass : ∀ sold ∈ order.lines, Passes sold
    · obtain ⟨imports, himports⟩ := exists_lineImports h hiso hpass clock
      have hnil : ∀ j ∈ ([] : List Import), Mapped env system.source "sales_line" .sale j :=
        fun j hj => absurd hj List.not_mem_nil
      have haccepted := accepted_iff hlive hnil (reflects_fresh env .sale hkeyed) himports.mapped
      rw [List.nil_append, himports.nodup_keys_iff, himports.feed] at haccepted
      have hinventory : AllAccepted (processRecords env (withClock clock (order.lines.map
          (order.record system))) (freshStores inventory)).2 → (processRecords env (withClock clock
            (order.lines.map (order.record system))) (freshStores inventory)).1.ingest.inventory =
              projectAll inventory imports := by
        intro hyes
        have hkeys := (himports.nodup_keys_iff).mpr (haccepted.mp hyes)
        obtain ⟨outcomes, hok, -⟩ := hyes
        have hisOk : (processRecords env (feed imports) (freshStores inventory)).2.isOk = true := by
          rw [himports.feed, hok]
          rfl
        obtain ⟨-, hafter⟩ := converges_iff hlive hnil (reflects_fresh env .sale hkeyed)
          himports.mapped
        have hledger := (hafter hisOk).2
        rw [himports.feed, firstsBy_of_nodup _ (by rwa [List.map_nil, List.nil_append])] at hledger
        exact hledger
      have hpositive : ∀ i ∈ imports,
          0 < (Inventory.integralQuantity (ledgerQuantity i.event)).getD 0 := by
        intro i hi
        obtain ⟨sold, hsold, -, -, hquantity⟩ := himports.sales i hi
        obtain ⟨line, hline⟩ := item_of_line h hsold
        rw [hquantity]
        exact hline.positive
      constructor
      · rintro ⟨hyes, hunits⟩
        refine ⟨hpass, himports.nodup_ledgerKeys_iff.mp ?_⟩
        rw [hinventory hyes] at hunits
        have hfirsts := eq_of_sublist_of_weights (fun i : Import => ledgerSku i.event) _
          (firstsBy_sublist (fun i : Import => ledgerKey i.event) [] imports) hpositive fun sku => by
            rw [← orderUnits_eq himports, ← requestedUnits_projectAll himports hkeyed hfresh]
            exact hunits sku
        rw [← hfirsts]
        exact (nodup_firstsBy _ [] imports).1
      · rintro ⟨-, hnodup⟩
        have hids : (order.lines.map (·.lineId)).Nodup := by
          have hcomp : (order.lines.map fun sold => rstrip sold.lineId) =
              (order.lines.map (·.lineId)).map rstrip := by
            rw [List.map_map]
            rfl
          rw [hcomp] at hnodup
          exact List.Nodup.of_map _ hnodup
        have hyes := haccepted.mpr hids
        refine ⟨hyes, fun sku => ?_⟩
        rw [hinventory hyes, requestedUnits_projectAll himports hkeyed hfresh,
          orderUnits_eq himports, firstsBy_of_nodup _ (by
            rw [List.nil_append]
            exact himports.nodup_ledgerKeys_iff.mpr hnodup)]
    · exact iff_of_false (fun hkept => hpass (hpassOf hkept.1)) fun hcondition => hpass hcondition.1

end

/-! ## Two orders -/

/-- A line of one order has the id of a line of another: both orders and both lines have one id, or a
colon of the id of one order is where the id of the other ends. -/
def SharesId (order order' : Order) (sold sold' : OrderLine) : Prop :=
  (order.sale.orderId = order'.sale.orderId ∧ sold.lineId = sold'.lineId) ∨
    (∃ w, order.sale.orderId = order'.sale.orderId ++ ":" ++ w ∧
      sold'.lineId = w ++ ":" ++ sold.lineId) ∨
    ∃ w, order'.sale.orderId = order.sale.orderId ++ ":" ++ w ∧
      sold.lineId = w ++ ":" ++ sold'.lineId

theorem objectId_eq_iff (order order' : Order) (sold sold' : OrderLine) :
    order.objectId sold = order'.objectId sold' ↔ SharesId order order' sold sold' := by
  have hlist : ∀ a b : String, (a ++ ":" ++ b).toList = a.toList ++ ':' :: b.toList := by
    intro a b
    rw [String.toList_append, String.toList_append, List.append_assoc]
    rfl
  have hcut : ∀ a b c : String, (a = b ++ ":" ++ c ↔ a.toList = b.toList ++ ':' :: c.toList) := by
    intro a b c
    rw [← String.toList_inj, hlist]
  unfold Order.objectId SharesId
  rw [← String.toList_inj, hlist, hlist, append_cons_eq_iff, String.toList_inj, String.toList_inj]
  refine or_congr Iff.rfl (or_congr ?_ ?_)
  · constructor
    · rintro ⟨w, horder, hline⟩
      refine ⟨String.ofList w, (hcut _ _ _).mpr ?_, (hcut _ _ _).mpr ?_⟩
      · rw [String.toList_ofList, horder]
      · rw [String.toList_ofList, hline]
    · rintro ⟨w, horder, hline⟩
      exact ⟨w.toList, (hcut _ _ _).mp horder, (hcut _ _ _).mp hline⟩
  · constructor
    · rintro ⟨w, horder, hline⟩
      refine ⟨String.ofList w, (hcut _ _ _).mpr ?_, (hcut _ _ _).mpr ?_⟩
      · rw [String.toList_ofList, horder]
      · rw [String.toList_ofList, hline]
    · rintro ⟨w, horder, hline⟩
      exact ⟨w.toList, (hcut _ _ _).mp horder, (hcut _ _ _).mp hline⟩

/-- **The lines of an order.** For every two well-formed orders, of either system and of any tenants,
and stores without a record, an event, a product or a receipt: no line of the first is lost and no line
of it has the source object of a line of the second, exactly when every line of the first has an id and
a quantity that can be printed, their ids differ in more than trailing white space, and no line of the
one has the id of a line of the other. -/
theorem order_lines_kept_iff {env : Intake} (hlive : Live env) {now now' : Timestamp}
    {system system' : PosSystem} {tenantId tenantId' : String}
    {payload payload' : List (String × Value)} {order order' : Order}
    (h : WellFormedOrder env.fromIso now system tenantId payload order)
    (_h' : WellFormedOrder env.fromIso now' system' tenantId' payload' order')
    (hiso : ReadsIso env.fromIso now) (clock : ℕ → Timestamp) {inventory : Inventory.Store}
    (hkeyed : Inventory.Keyed inventory.positions)
    (hfresh : inventory.projectionReceipts = Dict.empty) :
    (LinesKept env now clock system tenantId payload order inventory ∧
      ∀ sold ∈ order.lines, ∀ sold' ∈ order'.lines,
        (order.record system sold).sourceObjectId ≠ (order'.record system' sold').sourceObjectId) ↔
      ((∀ sold ∈ order.lines, Passes sold) ∧
        (order.lines.map fun sold => rstrip sold.lineId).Nodup) ∧
      ∀ sold ∈ order.lines, ∀ sold' ∈ order'.lines, ¬ SharesId order order' sold sold' := by
  rw [linesKept_iff hlive h hiso clock hkeyed hfresh]
  refine and_congr Iff.rfl ?_
  exact forall₂_congr fun sold _ => forall₂_congr fun sold' _ =>
    not_congr (objectId_eq_iff order order' sold sold')

/-! ## An order of a shop -/

/-- The id of a line, or its fallback. -/
def lineIdOr (lineId : Option String) : String := lineId.getD "unknown"

/-- A line item of Shopify: two units of one product, with its id when it has one. -/
def shopifyItem (lineId : Option String) : Value :=
  .dict ((lineId.map fun id => ("id", Value.str id)).toList ++
    [("sku", .str "4011"), ("quantity", .int 2), ("price", .str "19.99")])

/-- The line of the item. -/
def shopifyLine (lineId : Option String) : OrderLine :=
  ⟨lineIdOr lineId, "4011", 2, ⟨1999, "ZAR"⟩⟩

/-- An order of Shopify with one item for each id. -/
def shopifyPayload (orderId : String) (lineIds : List (Option String)) : List (String × Value) :=
  [("id", .str orderId), ("created_at", .str "2026-07-01"),
    ("line_items", .list (lineIds.map shopifyItem))]

/-- The order of the payload. -/
def shopifyOrder (orderId : String) (lineIds : List (Option String)) : Order where
  sale := ⟨"tenant_a", orderId, "online", julyFirst, shopifyPayload orderId lineIds⟩
  lines := lineIds.map shopifyLine

theorem lineItem_shopify (lineId : Option String) :
    LineItem shopifyReader (shopifyItem lineId) (shopifyLine lineId) where
  item := by
    have hquantity : parseQuantity (.int 2) = .ok (.int 2) := by decide +kernel
    have hprice : Money.zar (.str "19.99") = .ok ⟨1999, "ZAR"⟩ := by decide +kernel
    cases lineId with
    | none => exact ⟨_, rfl, rfl, rfl, hquantity, hprice⟩
    | some id => exact ⟨_, rfl, rfl, rfl, hquantity, hprice⟩
  sku_ne := show "4011" ≠ "" by decide
  positive := show (0 : ℤ) < 2 by decide
  priced := show (0 : ℤ) ≤ 1999 by decide

theorem wellFormed_shopify {orderId : String} (hid : orderId ≠ "") (lineIds : List (Option String)) :
    WellFormedOrder bareShop.fromIso julyFirst .shopify "tenant_a" (shopifyPayload orderId lineIds)
      (shopifyOrder orderId lineIds) where
  tenantId_ne := by decide +kernel
  tenant := rfl
  raw := rfl
  orderId := rfl
  orderId_ne := hid
  locationId := rfl
  soldAt := by
    have hdate : datetimeValue bareShop.fromIso (.str "2026-07-01") julyFirst = .ok julyFirst := by
      decide +kernel
    exact hdate
  lines := by
    refine ⟨lineIds.map shopifyItem, ?_, ?_⟩
    · cases lineIds with
      | nil => rfl
      | cons lineId rest => rfl
    · exact List.forall₂_map_left_iff.mpr (List.forall₂_map_right_iff.mpr
        (List.forall₂_same.mpr fun lineId _ => lineItem_shopify lineId))

theorem readsIso_bareShop : ReadsIso bareShop.fromIso julyFirst where
  parsed := bareShop.reads_isoformat
  clock := by decide +kernel

/-- One line of one order, against a line of another. -/
theorem order_lines_kept_single :
    LinesKept bareShop.toIntake julyFirst (fun _ => julyFirst) .shopify "tenant_a"
      (shopifyPayload "1001" [some "1"]) (shopifyOrder "1001" [some "1"]) .empty ∧
      ∀ sold ∈ (shopifyOrder "1001" [some "1"]).lines,
        ∀ sold' ∈ (shopifyOrder "1002" [some "1"]).lines,
          ((shopifyOrder "1001" [some "1"]).record .shopify sold).sourceObjectId ≠
            ((shopifyOrder "1002" [some "1"]).record .shopify sold').sourceObjectId := by
  refine (order_lines_kept_iff live_bareShop (wellFormed_shopify (by decide) [some "1"])
    (wellFormed_shopify (by decide) [some "1"]) readsIso_bareShop _ Inventory.keyed_empty rfl).mpr
    ⟨⟨?_, ?_⟩, ?_⟩
  · intro sold hsold
    rw [List.mem_singleton.mp hsold]
    exact ⟨by decide, by decide⟩
  · exact List.nodup_singleton _
  · intro sold hsold sold' hsold'
    rw [List.mem_singleton.mp hsold, List.mem_singleton.mp hsold', ← objectId_eq_iff]
    decide

/-- Two lines without ids. One of them is lost. -/
theorem order_lines_lost :
    ¬ ∀ (env : Intake) (now : Timestamp) (clock : ℕ → Timestamp) (system : PosSystem)
        (tenantId : String) (payload : List (String × Value)) (order : Order),
      Live env → ReadsIso env.fromIso now →
      WellFormedOrder env.fromIso now system tenantId payload order →
      LinesKept env now clock system tenantId payload order .empty := by
  intro h
  have hkept := h bareShop.toIntake julyFirst (fun _ => julyFirst) .shopify "tenant_a"
    (shopifyPayload "1001" [none, none]) (shopifyOrder "1001" [none, none]) live_bareShop
    readsIso_bareShop (wellFormed_shopify (by decide) _)
  have hnodup := ((linesKept_iff live_bareShop (wellFormed_shopify (by decide) _) readsIso_bareShop _
    Inventory.keyed_empty rfl).mp hkept).2
  exact List.not_nodup_cons_of_mem List.mem_cons_self hnodup

end ShelfWise.Ingest
