import ShelfWise.Cascades.SalesFacts

/-!
# The stock read model

`OperationalFactsProvider.list_stock` of `shelfwise_backend/operational_facts.py`: one row for each
SKU and location of the inventory ledger, and one for each product and store that the twin reports
on. The rows are kept by SKU and location in the order they are first met; a product that the ledger
knows keeps the units of its rows, yet a store that is no location of the ledger gets a row of its
own.

`ledgerRows_spec` and `reported_spec` say what the two loops leave for one SKU.
-/

namespace ShelfWise.Stock

open Py Connectors Cascade Inventory

/-! ## The ledger and the twin -/

/-- `list` of the inventory. -/
def listPositions (s : Inventory.Store) (tenantId : String) (sku : Option String) : List Position :=
  sortedBy (fun p => toLex (p.sku.1, toLex (p.locationId.1, p.binId)))
    (s.positions.values.filter fun p => p.tenantId.1 = tenantId ∧ sku.all (p.sku.1 = ·))

/-- What `list_stock` reads of a SKU in the twin. -/
structure Reading where
  onHand : Option ℤ
  reorderPoint : Option ℤ
  daysToExpiry : Option ℤ
deriving DecidableEq

/-- Nothing is read. -/
def Reading.IsBlank (r : Reading) : Prop :=
  r.onHand = none ∧ r.reorderPoint = none ∧ r.daysToExpiry = none

instance (r : Reading) : Decidable r.IsBlank := inferInstanceAs (Decidable (_ ∧ _))

/-- The ordinal of the last day of the calendar. -/
def maxOrdinal : ℤ := 3652059

/-- `day + timedelta(days=days)`, of days by their ordinals. -/
def addDays (day days : ℤ) : Except Exc ℤ :=
  if 2147483647 < days ∨ days < -2147483648 then
    .error (.overflowError "Python int too large to convert to C int")
  else if 999999999 < days.natAbs then
    .error (.overflowError ("days=" ++ toString days ++ "; must have magnitude <= 999999999"))
  else if 1 ≤ day + days ∧ day + days ≤ maxOrdinal then .ok (day + days)
  else .error (.overflowError "date value out of range")

/-- The expiry date that is reported of a SKU, and the id of its lot. -/
structure Expiry where
  date : ℤ
  lotId : String
deriving DecidableEq

/-- What the twin reports of a SKU. -/
structure Report extends Reading where
  expiry : Option Expiry
deriving DecidableEq

section

variable (provider : FactsProvider)

/-- `_properties_for` of a product. -/
def productProps (sku : String) : Dict String Value := provider.propertiesFor "product" (some sku)

/-- The three numbers of a SKU. -/
def reading (sku : String) : Except Exc Reading := do
  let onHand ← numberOf (FactsProvider.property (productProps provider sku) "inventory.on_hand")
  let reorderPoint ←
    numberOf (FactsProvider.property (productProps provider sku) "inventory.reorder_point")
  let daysToExpiry ←
    numberOf (FactsProvider.property (productProps provider sku) "expiry.days_to_expiry")
  .ok ⟨onHand, reorderPoint, daysToExpiry⟩

/-- The expiry date and the lot of a SKU, on the day `today`. -/
def expiryOf (today : ℤ) (sku : String) (daysToExpiry : Option ℤ) : Except Exc (Option Expiry) :=
  daysToExpiry.elim (.ok none) fun days => do
    let date ← addDays today days
    let lotId ← printed
      ((FactsProvider.property (productProps provider sku) "expiry.batch_id").orElse
        (.str ("REPORTED-" ++ sku)))
    .ok (some ⟨date, lotId⟩)

/-- The report on a SKU, unless nothing is read. -/
def reportOn (today : ℤ) (sku : String) : Except Exc (Option Report) := do
  let r ← reading provider sku
  if r.IsBlank then .ok none
  else do
    let expiry ← expiryOf provider today sku r.daysToExpiry
    .ok (some { r with expiry })

end

/-! ## Rows -/

/-- A lot of a row; when it was received is not reported. -/
structure Lot where
  lotId : String
  onHand : ℤ
  expiryDate : ℤ
deriving DecidableEq

/-- A row of `list_stock`; dates are ordinals. -/
structure StockRow where
  sku : String
  location : String
  onHand : ℤ
  reorderPoint : Option ℤ
  expiryDate : Option ℤ
  batches : List Lot
deriving DecidableEq

/-- The rows by SKU and location. -/
abbrev Rows := Dict (String × String) StockRow

/-- `rows.setdefault(key, ...)`: the row that stands there, or a new one. -/
def rowAt (rows : Rows) (sku location : String) (onHand : ℤ) : StockRow :=
  (rows.get? (sku, location)).getD ⟨sku, location, onHand, none, none, []⟩

/-- One turn of the loop over the ledger. -/
def addPosition (rows : Rows) (p : Position) : Rows :=
  let row := rowAt rows p.sku.1 p.locationId.1 0
  rows.set (p.sku.1, p.locationId.1) { row with onHand := row.onHand + p.quantity }

/-- The loop over the ledger. -/
def ledgerRows (positions : List Position) : Rows := positions.foldl addPosition Dict.empty

/-- What a report writes into a row; the units stay when the ledger has counted the SKU. -/
def StockRow.report (row : StockRow) (counted : Bool) (r : Report) : StockRow :=
  let onHand := if counted then row.onHand else r.onHand.getD row.onHand
  { row with
    onHand
    reorderPoint := r.reorderPoint <|> row.reorderPoint
    expiryDate := r.expiry.map (·.date) <|> row.expiryDate
    batches := r.expiry.elim row.batches fun e => [⟨e.lotId, onHand, e.date⟩] }

/-- The row of a SKU in a store, with what is reported. -/
def mergeReport (counted : Bool) (sku storeId : String) (rows : Rows) (r : Report) : Rows :=
  rows.set (sku, storeId) ((rowAt rows sku storeId (r.onHand.getD 0)).report counted r)

section

variable (provider : FactsProvider)

/-- The ledger has counted a SKU. -/
def isCounted (sku : String) : Bool :=
  listPositions provider.inventory provider.event.tenantId (some sku) ≠ []

/-- One turn of the loop over the twin. -/
def reportEntity (today : ℤ) (rows : Rows) (entity : Twin.TwinEntity) : Except Exc Rows :=
  if entity.entityType ≠ "product" then .ok rows
  else
    let sku := Twin.localIdOf entity.twinId
    (reportOn provider today sku).map fun report =>
      report.elim rows (mergeReport (isCounted provider sku) sku entity.storeId rows)

/-- `_require_tenant`. -/
def requireTenant (tenantId : String) : Except Exc Unit :=
  if tenantId = provider.event.tenantId then .ok ()
  else .error (.valueError "facts tenant does not match event tenant")

/-- `list_stock`. -/
def listStock (today : ℤ) (tenantId : String) : Except Exc (List StockRow) := do
  let _ ← requireTenant provider tenantId
  let rows ← (provider.twin.listEntities tenantId provider.storeId).foldlM
    (reportEntity provider today) (ledgerRows (listPositions provider.inventory tenantId none))
  .ok rows.values

end

/-! ## The rows of one SKU -/

/-- The locations of the rows of a SKU, in their order. -/
def locationsOf (rows : Rows) (sku : String) : List String :=
  (rows.keys.filter fun k => k.1 = sku).map Prod.snd

/-- The units that the rows of a SKU show. -/
def unitsOf (rows : Rows) (sku : String) : ℤ :=
  (rows.entries.map fun e => if e.1.1 = sku then e.2.onHand else 0).sum

/-- Every row stands under its SKU and location. -/
abbrev Keyed (rows : Rows) : Prop := rows.KeyedBy fun row => (row.sku, row.location)

theorem mem_locationsOf_iff {rows : Rows} {sku location : String} :
    location ∈ locationsOf rows sku ↔ ∃ row, rows.get? (sku, location) = some row := by
  simp only [locationsOf, Dict.keys, List.mem_map, List.mem_filter, decide_eq_true_eq]
  constructor
  · rintro ⟨k, ⟨⟨e, he, rfl⟩, hsku⟩, rfl⟩
    exact ⟨e.2, hsku ▸ (rows.mem_entries_iff e.1 e.2).mp he⟩
  · rintro ⟨row, hrow⟩
    exact ⟨(sku, location), ⟨⟨((sku, location), row), (rows.mem_entries_iff _ _).mpr hrow, rfl⟩,
      rfl⟩, rfl⟩

theorem get?_of_not_mem {rows : Rows} {sku location : String}
    (h : location ∉ locationsOf rows sku) : rows.get? (sku, location) = none := by
  by_contra hsome
  exact h (mem_locationsOf_iff.mpr (Option.ne_none_iff_exists'.mp hsome))

/-- A store under a new location of the SKU adds it at the end. -/
theorem locationsOf_set_of_fresh {rows : Rows} {sku location : String}
    (h : location ∉ locationsOf rows sku) (row : StockRow) :
    locationsOf (rows.set (sku, location) row) sku = locationsOf rows sku ++ [location] := by
  rw [locationsOf, Dict.keys, Dict.entries_set_of_fresh (get?_of_not_mem h), List.map_append,
    List.filter_append, List.map_append, locationsOf, Dict.keys]
  simp

/-- A store under a location of the SKU keeps them. -/
theorem locationsOf_set_of_mem {rows : Rows} {sku location : String}
    (h : location ∈ locationsOf rows sku) (row : StockRow) :
    locationsOf (rows.set (sku, location) row) sku = locationsOf rows sku := by
  obtain ⟨old, hold⟩ := mem_locationsOf_iff.mp h
  have hkey : (sku, location) ∈ rows.entries.map Prod.fst :=
    List.mem_map.mpr ⟨((sku, location), old), (rows.mem_entries_iff _ _).mpr hold, rfl⟩
  rw [locationsOf, Dict.keys, Dict.set, Dict.map_fst_setEntries, if_pos hkey]
  rfl

/-- A store under another SKU keeps them too. -/
theorem locationsOf_set_of_ne {rows : Rows} {sku other : String} (h : other ≠ sku)
    (location : String) (row : StockRow) :
    locationsOf (rows.set (other, location) row) sku = locationsOf rows sku := by
  rw [locationsOf, Dict.keys, Dict.set, Dict.map_fst_setEntries]
  split
  · rfl
  · rw [List.filter_append, List.filter_cons_of_neg (by simpa using h), List.filter_nil,
      List.append_nil]
    rfl

/-- A store changes the units of its SKU by what the new row shows over the old one. -/
theorem unitsOf_set (rows : Rows) (sku other location : String) (row : StockRow) :
    unitsOf (rows.set (other, location) row) sku = unitsOf rows sku +
      if other = sku then row.onHand - (rowAt rows sku location 0).onHand else 0 := by
  rw [unitsOf, Dict.sum_set, Dict.weightAt, unitsOf]
  by_cases h : other = sku
  · rw [if_pos h, if_pos h, h, rowAt]
    cases rows.get? (sku, location) with
    | none => simp
    | some old =>
      simp only [Option.map_some, Option.getD_some, if_true]
      omega
  · rw [if_neg h, if_neg h]
    cases rows.get? (other, location) with
    | none => simp
    | some old => simp [h]

theorem rowAt_set (rows : Rows) (sku location other place : String) (row : StockRow) (n : ℤ) :
    rowAt (rows.set (other, place) row) sku location n =
      if other = sku ∧ place = location then row else rowAt rows sku location n := by
  rw [rowAt, Dict.get?_set]
  by_cases h : other = sku ∧ place = location
  · rw [if_pos h, if_pos (Prod.ext h.1 h.2)]
    rfl
  · rw [if_neg h, if_neg fun heq => h (Prod.mk.inj heq)]
    rfl

theorem Keyed.rowAt {rows : Rows} (h : Keyed rows) (sku location : String) (n : ℤ) :
    ((rowAt rows sku location n).sku, (rowAt rows sku location n).location) = (sku, location) := by
  unfold Stock.rowAt
  cases hget : rows.get? (sku, location) with
  | none => rfl
  | some row => exact (h _ row hget).symm

/-- The rows stay keyed when the row that stands somewhere is changed, but for its place. -/
theorem Keyed.set {rows : Rows} (h : Keyed rows) {sku location : String} {n : ℤ} {row : StockRow}
    (hsku : row.sku = (Stock.rowAt rows sku location n).sku)
    (hlocation : row.location = (Stock.rowAt rows sku location n).location) :
    Keyed (rows.set (sku, location) row) := by
  have hkey : (row.sku, row.location) = (sku, location) := by
    rw [hsku, hlocation]
    exact h.rowAt sku location n
  rw [← hkey]
  exact Dict.keyedBy_set h row

/-- The rows of a SKU, by their locations. -/
theorem rows_of_sku {rows : Rows} (h : Keyed rows) (sku : String) :
    rows.values.filter (fun row => row.sku = sku) =
      (locationsOf rows sku).map fun location => rowAt rows sku location 0 := by
  have hfilter : rows.entries.filter (fun e => e.2.sku = sku) =
      rows.entries.filter fun e => e.1.1 = sku := by
    refine List.filter_congr fun e he => ?_
    rw [h e.1 e.2 ((rows.mem_entries_iff e.1 e.2).mp he)]
  rw [Dict.values, List.filter_map, locationsOf, Dict.keys, List.filter_map, List.map_map,
    List.map_map]
  refine (congrArg _ hfilter).trans (List.map_congr_left fun e he => ?_)
  obtain ⟨hmem, hsku⟩ := List.mem_filter.mp he
  have hkey : (sku, e.1.2) = e.1 := Prod.ext (of_decide_eq_true hsku).symm rfl
  show e.2 = rowAt rows sku e.1.2 0
  rw [rowAt, hkey, (rows.mem_entries_iff e.1 e.2).mp hmem]
  rfl

/-- The units of the rows that are returned. -/
theorem sum_rows_of_sku {rows : Rows} (h : Keyed rows) (sku : String) :
    ((rows.values.filter fun row => row.sku = sku).map (·.onHand)).sum = unitsOf rows sku := by
  rw [unitsOf, Dict.values, List.filter_map, List.map_map]
  have hkey : ∀ e ∈ rows.entries, e.1.1 = e.2.sku := fun e he =>
    congrArg Prod.fst (h e.1 e.2 ((rows.mem_entries_iff e.1 e.2).mp he))
  generalize rows.entries = es at hkey
  induction es with
  | nil => rfl
  | cons e rest ih =>
    have ih := ih fun e' he' => hkey e' (List.mem_cons_of_mem _ he')
    have he := hkey e List.mem_cons_self
    rw [List.map_cons, List.sum_cons, ← ih, he]
    by_cases hsku : e.2.sku = sku
    · rw [List.filter_cons_of_pos (by simpa using hsku), List.map_cons, List.sum_cons,
        if_pos hsku]
      rfl
    · rw [List.filter_cons_of_neg (by simpa using hsku), if_neg hsku, zero_add]

/-! ## The ledger -/

/-- The locations of a SKU among some positions. -/
def ledgerLocations (positions : List Position) (sku : String) : Set String :=
  { location | ∃ p ∈ positions, p.sku.1 = sku ∧ p.locationId.1 = location }

/-- The units of a SKU at one location. -/
def unitsAt (positions : List Position) (sku location : String) : ℤ :=
  ((positions.filter fun p => p.sku.1 = sku ∧ p.locationId.1 = location).map (·.quantity)).sum

/-- What the loop over the ledger leaves of one SKU. -/
structure Counted (positions : List Position) (sku : String) (rows : Rows) : Prop where
  keyed : Keyed rows
  locations : ∀ location, location ∈ locationsOf rows sku ↔
    location ∈ ledgerLocations positions sku
  last : ∀ location, (locationsOf rows sku).getLast? = some location →
    IsGreatest (ledgerLocations positions sku) location
  row : ∀ location, rowAt rows sku location 0 =
    ⟨sku, location, unitsAt positions sku location, none, none, []⟩
  units : unitsOf rows sku = ((positions.filter fun p => p.sku.1 = sku).map (·.quantity)).sum

section

variable {positions : List Position} {p : Position} {sku : String}

theorem ledgerLocations_append_of_eq (h : p.sku.1 = sku) :
    ledgerLocations (positions ++ [p]) sku =
      insert p.locationId.1 (ledgerLocations positions sku) := by
  ext location
  simp only [ledgerLocations, List.mem_append, List.mem_singleton, Set.mem_ofPred_eq,
    Set.mem_insert_iff]
  constructor
  · rintro ⟨q, hq | rfl, hsku, rfl⟩
    · exact Or.inr ⟨q, hq, hsku, rfl⟩
    · exact Or.inl rfl
  · rintro (rfl | ⟨q, hq, hsku, rfl⟩)
    · exact ⟨p, Or.inr rfl, h, rfl⟩
    · exact ⟨q, Or.inl hq, hsku, rfl⟩

theorem ledgerLocations_append_of_ne (h : p.sku.1 ≠ sku) :
    ledgerLocations (positions ++ [p]) sku = ledgerLocations positions sku := by
  ext location
  simp only [ledgerLocations, List.mem_append, List.mem_singleton, Set.mem_ofPred_eq]
  constructor
  · rintro ⟨q, hq | rfl, hsku, rfl⟩
    · exact ⟨q, hq, hsku, rfl⟩
    · exact absurd hsku h
  · rintro ⟨q, hq, hsku, rfl⟩
    exact ⟨q, Or.inl hq, hsku, rfl⟩

theorem unitsAt_append (positions : List Position) (p : Position) (sku location : String) :
    unitsAt (positions ++ [p]) sku location = unitsAt positions sku location +
      if p.sku.1 = sku ∧ p.locationId.1 = location then p.quantity else 0 := by
  rw [unitsAt, List.filter_append, List.map_append, List.sum_append, unitsAt]
  by_cases h : p.sku.1 = sku ∧ p.locationId.1 = location
  · rw [if_pos h, List.filter_cons_of_pos (by simpa using h)]
    simp
  · rw [if_neg h, List.filter_cons_of_neg (by simpa using h)]
    simp

theorem counted_nil (sku : String) : Counted [] sku Dict.empty where
  keyed := Dict.keyedBy_empty _
  locations := by
    intro location
    refine iff_of_false List.not_mem_nil ?_
    rintro ⟨p, hp, -⟩
    exact List.not_mem_nil hp
  last := fun _ hlast => absurd hlast.symm (Option.some_ne_none _)
  row := fun _ => rfl
  units := rfl

/-- One more position, whose location is no less than the ones before. -/
theorem Counted.add {rows : Rows} (h : Counted positions sku rows)
    (hle : ∀ q ∈ positions, q.sku.1 = p.sku.1 → q.locationId.1 ≤ p.locationId.1) :
    Counted (positions ++ [p]) sku (addPosition rows p) := by
  have hkeyed : Keyed (addPosition rows p) := h.keyed.set rfl rfl
  by_cases hsku : p.sku.1 = sku
  · subst hsku
    have hbound : ∀ location ∈ ledgerLocations positions p.sku.1, location ≤ p.locationId.1 := by
      rintro location ⟨q, hq, hqsku, rfl⟩
      exact hle q hq hqsku
    have hunits : unitsOf (addPosition rows p) p.sku.1 = unitsOf rows p.sku.1 + p.quantity := by
      unfold addPosition
      rw [unitsOf_set, if_pos rfl]
      show _ + (_ + p.quantity - _) = _
      omega
    have hrow : ∀ location, rowAt (addPosition rows p) p.sku.1 location 0 =
        ⟨p.sku.1, location, unitsAt (positions ++ [p]) p.sku.1 location, none, none, []⟩ := by
      intro location
      unfold addPosition
      rw [rowAt_set, unitsAt_append]
      by_cases hlocation : p.locationId.1 = location
      · rw [if_pos ⟨rfl, hlocation⟩, if_pos ⟨rfl, hlocation⟩, h.row, hlocation]
      · rw [if_neg fun hboth => hlocation hboth.2, if_neg fun hboth => hlocation hboth.2, h.row,
          add_zero]
    have hfilter : (positions ++ [p]).filter (fun q => q.sku.1 = p.sku.1) =
        positions.filter (fun q => q.sku.1 = p.sku.1) ++ [p] := by
      rw [List.filter_append, List.filter_cons_of_pos (by simp), List.filter_nil]
    by_cases hmem : p.locationId.1 ∈ locationsOf rows p.sku.1
    · -- the location is known, so it is the greatest one already
      have hlocations : locationsOf (addPosition rows p) p.sku.1 = locationsOf rows p.sku.1 :=
        locationsOf_set_of_mem hmem _
      have hsame : ledgerLocations (positions ++ [p]) p.sku.1 =
          ledgerLocations positions p.sku.1 := by
        rw [ledgerLocations_append_of_eq rfl]
        exact Set.insert_eq_of_mem ((h.locations _).mp hmem)
      exact
        { keyed := hkeyed
          locations := by
            rw [hlocations, hsame]
            exact h.locations
          last := by
            rw [hlocations, hsame]
            exact h.last
          row := hrow
          units := by
            rw [hunits, h.units, hfilter, List.map_append, List.sum_append]
            simp }
    · have hlocations : locationsOf (addPosition rows p) p.sku.1 =
          locationsOf rows p.sku.1 ++ [p.locationId.1] := locationsOf_set_of_fresh hmem _
      exact
        { keyed := hkeyed
          locations := by
            intro location
            rw [hlocations, ledgerLocations_append_of_eq rfl, Set.mem_insert_iff,
              List.mem_append, List.mem_singleton, h.locations, or_comm]
          last := by
            intro location hlast
            rw [hlocations, List.getLast?_concat, Option.some.injEq] at hlast
            rw [ledgerLocations_append_of_eq rfl, ← hlast]
            refine ⟨Set.mem_insert _ _, ?_⟩
            rintro other (rfl | hother)
            · exact le_rfl
            · exact hbound other hother
          row := hrow
          units := by
            rw [hunits, h.units, hfilter, List.map_append, List.sum_append]
            simp }
  · have hlocations : locationsOf (addPosition rows p) sku = locationsOf rows sku :=
      locationsOf_set_of_ne hsku _ _
    have hsame : ledgerLocations (positions ++ [p]) sku = ledgerLocations positions sku :=
      ledgerLocations_append_of_ne hsku
    exact
      { keyed := hkeyed
        locations := by
          rw [hlocations, hsame]
          exact h.locations
        last := by
          rw [hlocations, hsame]
          exact h.last
        row := by
          intro location
          unfold addPosition
          rw [rowAt_set, if_neg fun hboth => hsku hboth.1, h.row, unitsAt_append,
            if_neg fun hboth => hsku hboth.1, add_zero]
        units := by
          unfold addPosition
          rw [unitsOf_set, if_neg hsku, add_zero, h.units, List.filter_append,
            List.filter_cons_of_neg (by simpa using hsku), List.filter_nil, List.append_nil] }

/-- **The loop over the ledger.** From a listing, in which the locations of a SKU ascend, it leaves
one row for each location of the SKU with the units that are there. -/
theorem ledgerRows_spec (sku : String) (h : positions.Pairwise fun p q =>
    p.sku.1 = q.sku.1 → p.locationId.1 ≤ q.locationId.1) :
    Counted positions sku (ledgerRows positions) := by
  induction positions using List.reverseRecOn with
  | nil => exact counted_nil sku
  | append_singleton positions p ih =>
    rw [List.pairwise_append] at h
    rw [ledgerRows, List.foldl_append]
    exact (ih h.1).add fun q hq hsku => h.2.2 q hq p List.mem_cons_self hsku

end

/-! ## The twin -/

/-- The stores of the products with a local id. -/
def storesAmong (entities : List Twin.TwinEntity) (sku : String) : List String :=
  (entities.filter fun entity =>
    entity.entityType = "product" ∧ Twin.localIdOf entity.twinId = sku).map (·.storeId)

/-- A report that is written again changes nothing. -/
theorem StockRow.report_report (row : StockRow) (r : Report) :
    (row.report true r).report true r = row.report true r := by
  obtain ⟨⟨onHand, reorderPoint, daysToExpiry⟩, expiry⟩ := r
  cases reorderPoint <;> cases expiry <;> rfl

/-- What the loop over the twin leaves of a SKU that the ledger has counted, once it has written the
report `r` in some stores: the units stay, except for rows of stores that are new. -/
structure Merged (r : Report) (sku : String) (stores : Set String) (before rows : Rows) :
    Prop where
  keyed : Keyed rows
  merged : ∀ location ∈ stores, rows.get? (sku, location) =
    some ((rowAt before sku location (r.onHand.getD 0)).report true r)
  kept : ∀ location ∉ stores, rows.get? (sku, location) = before.get? (sku, location)
  grown : ∃ added : List String, locationsOf rows sku = locationsOf before sku ++ added ∧
    (∀ location ∈ added, location ∈ stores ∧ location ∉ locationsOf before sku) ∧
    unitsOf rows sku = unitsOf before sku + added.length * r.onHand.getD 0

section

variable {r : Report} {sku : String} {stores : Set String} {before rows : Rows}

theorem merged_refl (r : Report) (sku : String) (h : Keyed before) :
    Merged r sku ∅ before before where
  keyed := h
  merged := fun location hlocation => absurd hlocation (Set.notMem_empty location)
  kept := fun _ _ => rfl
  grown := ⟨[], (List.append_nil _).symm, fun _ h => absurd h List.not_mem_nil, by simp⟩

/-- A report on another SKU. -/
theorem Merged.skip (h : Merged r sku stores before rows) {other : String} (hother : other ≠ sku)
    (counted : Bool) (storeId : String) (report : Report) :
    Merged r sku stores before (mergeReport counted other storeId rows report) := by
  have hget : ∀ location, (mergeReport counted other storeId rows report).get? (sku, location) =
      rows.get? (sku, location) := fun location =>
    Dict.get?_set_ne _ (fun heq => hother (congrArg Prod.fst heq)) _
  obtain ⟨added, hlocations, hadded, hunits⟩ := h.grown
  exact
    { keyed := h.keyed.set rfl rfl
      merged := by
        intro location hlocation
        rw [hget]
        exact h.merged location hlocation
      kept := by
        intro location hlocation
        rw [hget]
        exact h.kept location hlocation
      grown := by
        refine ⟨added, ?_, hadded, ?_⟩
        · rw [mergeReport, locationsOf_set_of_ne hother]
          exact hlocations
        · rw [mergeReport, unitsOf_set, if_neg hother, add_zero]
          exact hunits }

/-- The report on the SKU itself, in one more store. -/
theorem Merged.merge (h : Merged r sku stores before rows) (storeId : String) :
    Merged r sku (insert storeId stores) before (mergeReport true sku storeId rows r) := by
  have hsame : (rowAt rows sku storeId (r.onHand.getD 0)).report true r =
      (rowAt before sku storeId (r.onHand.getD 0)).report true r := by
    by_cases hstore : storeId ∈ stores
    · rw [rowAt, h.merged storeId hstore]
      exact StockRow.report_report _ r
    · rw [rowAt, h.kept storeId hstore]
      rfl
  obtain ⟨added, hlocations, hadded, hunits⟩ := h.grown
  exact
    { keyed := h.keyed.set rfl rfl
      merged := by
        intro location hlocation
        rw [mergeReport, Dict.get?_set]
        by_cases heq : storeId = location
        · rw [if_pos (by rw [heq]), hsame, heq]
        · rw [if_neg fun hpair => heq (congrArg Prod.snd hpair)]
          exact h.merged location (hlocation.resolve_left (Ne.symm heq))
      kept := by
        intro location hlocation
        rw [Set.mem_insert_iff, not_or] at hlocation
        rw [mergeReport, Dict.get?_set_ne _ fun hpair =>
          hlocation.1 (congrArg Prod.snd hpair).symm]
        exact h.kept location hlocation.2
      grown := by
        by_cases hmem : storeId ∈ locationsOf rows sku
        · -- the row stands, and keeps its units
          obtain ⟨row, hrow⟩ := mem_locationsOf_iff.mp hmem
          refine ⟨added, ?_, fun location hlocation =>
            ⟨Set.mem_insert_of_mem _ (hadded location hlocation).1,
              (hadded location hlocation).2⟩, ?_⟩
          · rw [mergeReport, locationsOf_set_of_mem hmem]
            exact hlocations
          · rw [mergeReport, unitsOf_set, if_pos rfl, rowAt, rowAt, hrow, hunits]
            show _ + (row.onHand - row.onHand) = _
            rw [sub_self, add_zero]
        · -- a new row, with the units that are reported
          refine ⟨added ++ [storeId], ?_, ?_, ?_⟩
          · rw [mergeReport, locationsOf_set_of_fresh hmem, hlocations, List.append_assoc]
          · intro location hlocation
            rcases List.mem_append.mp hlocation with hold | hnew
            · exact ⟨Set.mem_insert_of_mem _ (hadded location hold).1, (hadded location hold).2⟩
            · rw [List.mem_singleton.mp hnew]
              refine ⟨Set.mem_insert _ _, fun hbefore => hmem ?_⟩
              rw [hlocations]
              exact List.mem_append_left _ hbefore
          · rw [mergeReport, unitsOf_set, if_pos rfl, rowAt, rowAt, get?_of_not_mem hmem, hunits]
            show _ + (r.onHand.getD 0 - 0) = _
            rw [List.length_append, List.length_singleton]
            push_cast
            ring }

theorem Merged.mem_locations (h : Merged r sku stores before rows) {location : String}
    (hlocation : location ∈ stores) : location ∈ locationsOf rows sku :=
  mem_locationsOf_iff.mpr ⟨_, h.merged location hlocation⟩

/-- Reports in stores that have a row add none. -/
theorem Merged.locations_of_subset (h : Merged r sku stores before rows)
    (hsub : ∀ location ∈ stores, location ∈ locationsOf before sku) :
    locationsOf rows sku = locationsOf before sku := by
  obtain ⟨added, hlocations, hadded, -⟩ := h.grown
  have hnil : added = [] := List.eq_nil_iff_forall_not_mem.mpr fun location hlocation =>
    (hadded location hlocation).2 (hsub location (hadded location hlocation).1)
  rw [hlocations, hnil, List.append_nil]

/-- A report in a store without a row adds one at the end. -/
theorem Merged.exists_last (h : Merged r sku stores before rows) {location : String}
    (hstore : location ∈ stores) (hnew : location ∉ locationsOf before sku) :
    ∃ last ∈ stores, last ∉ locationsOf before sku ∧
      (locationsOf rows sku).getLast? = some last := by
  obtain ⟨added, hlocations, hadded, -⟩ := h.grown
  have hmem := h.mem_locations hstore
  rw [hlocations] at hmem
  have hmem : location ∈ added := (List.mem_append.mp hmem).resolve_left hnew
  have hne : added ≠ [] := List.ne_nil_of_mem hmem
  refine ⟨added.getLast hne, (hadded _ (List.getLast_mem hne)).1,
    (hadded _ (List.getLast_mem hne)).2, ?_⟩
  rw [hlocations, List.getLast?_append_of_ne_nil _ hne, List.getLast?_eq_getLast_of_ne_nil hne]

/-- **Counted once.** The rows of a SKU show what they showed before exactly when the reports add no
row, or only rows without units. -/
theorem Merged.units_iff (h : Merged r sku stores before rows) :
    unitsOf rows sku = unitsOf before sku ↔
      r.onHand.getD 0 = 0 ∨ ∀ location ∈ stores, location ∈ locationsOf before sku := by
  obtain ⟨added, hlocations, hadded, hunits⟩ := h.grown
  rw [hunits, add_eq_left, mul_eq_zero, or_comm, Nat.cast_eq_zero, List.length_eq_zero_iff]
  refine or_congr_right ?_
  constructor
  · intro hnil location hlocation
    have hmem := h.mem_locations hlocation
    rwa [hlocations, hnil, List.append_nil] at hmem
  · intro hsub
    exact List.eq_nil_iff_forall_not_mem.mpr fun location hlocation =>
      (hadded location hlocation).2 (hsub location (hadded location hlocation).1)

end

section

variable {provider : FactsProvider} {today : ℤ} {sku : String}

/-- A turn of the loop goes through when the product can be reported on. -/
theorem reportEntity_ok_iff (provider : FactsProvider) (today : ℤ) (rows : Rows)
    (entity : Twin.TwinEntity) :
    (∃ rows', reportEntity provider today rows entity = .ok rows') ↔
      (entity.entityType = "product" →
        ∃ report, reportOn provider today (Twin.localIdOf entity.twinId) = .ok report) := by
  unfold reportEntity
  by_cases htype : entity.entityType = "product"
  · rw [if_neg (not_not.mpr htype)]
    dsimp only
    cases hreport : reportOn provider today (Twin.localIdOf entity.twinId) with
    | ok report => exact iff_of_true ⟨_, rfl⟩ fun _ => ⟨report, rfl⟩
    | error e =>
      refine iff_of_false ?_ ?_
      · rintro ⟨rows', h⟩
        cases h
      · intro h
        obtain ⟨report, h⟩ := h htype
        cases h
  · rw [if_pos htype]
    exact iff_of_true ⟨_, rfl⟩ fun h => absurd h htype

/-- The loop over the twin goes through when every product can be reported on. -/
theorem reportEntities_ok_iff (provider : FactsProvider) (today : ℤ)
    (entities : List Twin.TwinEntity) (before : Rows) :
    (∃ rows, entities.foldlM (reportEntity provider today) before = .ok rows) ↔
      ∀ entity ∈ entities, entity.entityType = "product" →
        ∃ report, reportOn provider today (Twin.localIdOf entity.twinId) = .ok report := by
  induction entities generalizing before with
  | nil => exact iff_of_true ⟨_, rfl⟩ fun _ h => absurd h List.not_mem_nil
  | cons entity entities ih =>
    rw [List.foldlM_cons, List.forall_mem_cons,
      ← reportEntity_ok_iff provider today before]
    constructor
    · rintro ⟨rows, hrows⟩
      obtain ⟨next, hnext, hrest⟩ := bind_eq_ok_iff.mp hrows
      exact ⟨⟨next, hnext⟩, (ih next).mp ⟨rows, hrest⟩⟩
    · rintro ⟨⟨next, hnext⟩, hrest⟩
      obtain ⟨rows, hrows⟩ := (ih next).mpr hrest
      exact ⟨rows, bind_eq_ok_iff.mpr ⟨next, hnext, hrows⟩⟩

variable {entities : List Twin.TwinEntity} {entity : Twin.TwinEntity}

theorem storesAmong_append_of_eq (htype : entity.entityType = "product")
    (hsku : Twin.localIdOf entity.twinId = sku) :
    storesAmong (entities ++ [entity]) sku = storesAmong entities sku ++ [entity.storeId] := by
  rw [storesAmong, List.filter_append, List.filter_cons_of_pos (by simp [htype, hsku]),
    List.filter_nil, List.map_append, storesAmong]
  rfl

theorem storesAmong_append_of_not
    (h : ¬ (entity.entityType = "product" ∧ Twin.localIdOf entity.twinId = sku)) :
    storesAmong (entities ++ [entity]) sku = storesAmong entities sku := by
  rw [storesAmong, List.filter_append, List.filter_cons_of_neg (by simpa using h),
    List.filter_nil, List.append_nil, storesAmong]

/-- **The loop over the twin.** It leaves the report on a counted SKU in the stores of its
products. -/
theorem reported_spec {before rows : Rows} {r : Report} (hcounted : isCounted provider sku = true)
    (hbefore : Keyed before) (hreport : ∀ r', reportOn provider today sku = .ok (some r') → r' = r)
    (h : entities.foldlM (reportEntity provider today) before = .ok rows) :
    Merged r sku { location | reportOn provider today sku = .ok (some r) ∧
      location ∈ storesAmong entities sku } before rows := by
  induction entities using List.reverseRecOn generalizing rows with
  | nil =>
    cases h
    have hempty : { location | reportOn provider today sku = .ok (some r) ∧
        location ∈ storesAmong [] sku } = (∅ : Set String) :=
      Set.eq_empty_of_forall_notMem fun _ hlocation => List.not_mem_nil hlocation.2
    rw [hempty]
    exact merged_refl r sku hbefore
  | append_singleton entities entity ih =>
    rw [List.foldlM_append] at h
    obtain ⟨middle, hmiddle, hlast⟩ := bind_eq_ok_iff.mp h
    have hstep : reportEntity provider today middle entity = .ok rows := by
      obtain ⟨next, hnext, hend⟩ := bind_eq_ok_iff.mp hlast
      cases hend
      exact hnext
    have hih := ih hmiddle
    by_cases htype : entity.entityType = "product"
    · rw [reportEntity, if_neg (not_not.mpr htype)] at hstep
      dsimp only at hstep
      cases hread : reportOn provider today (Twin.localIdOf entity.twinId) with
      | error e =>
        rw [hread] at hstep
        cases hstep
      | ok report =>
        rw [hread] at hstep
        by_cases hsku : Twin.localIdOf entity.twinId = sku
        · rw [storesAmong_append_of_eq htype hsku]
          rw [hsku] at hread hstep
          cases report with
          | none =>
            cases hstep
            have hnone : ∀ stores : List String, { location |
                reportOn provider today sku = .ok (some r) ∧ location ∈ stores } = ∅ := by
              intro stores
              refine Set.eq_empty_of_forall_notMem fun location hlocation => ?_
              have hsome := hlocation.1
              rw [hread] at hsome
              cases hsome
            rw [hnone] at hih ⊢
            exact hih
          | some r' =>
            cases hreport r' hread
            rw [hcounted] at hstep
            cases hstep
            have hinsert : { location | reportOn provider today sku = .ok (some r) ∧
                location ∈ storesAmong entities sku ++ [entity.storeId] } =
                insert entity.storeId { location | reportOn provider today sku = .ok (some r) ∧
                  location ∈ storesAmong entities sku } := by
              ext location
              simp only [hread, true_and, List.mem_append, List.mem_singleton, Set.mem_ofPred_eq,
                Set.mem_insert_iff, or_comm]
            rw [hinsert]
            exact hih.merge entity.storeId
        · rw [storesAmong_append_of_not fun hboth => hsku hboth.2]
          cases report with
          | none =>
            cases hstep
            exact hih
          | some r' =>
            cases hstep
            exact hih.skip hsku _ entity.storeId r'
    · rw [reportEntity, if_pos htype] at hstep
      cases hstep
      rw [storesAmong_append_of_not fun hboth => htype hboth.1]
      exact hih

end

/-! ## The listing of the ledger -/

section

variable {inventory : Inventory.Store} {tenantId sku : String}

/-- In a listing the locations of a SKU ascend. -/
theorem pairwise_listPositions (inventory : Inventory.Store) (tenantId : String)
    (sku : Option String) : (listPositions inventory tenantId sku).Pairwise fun p q =>
      p.sku.1 = q.sku.1 → p.locationId.1 ≤ q.locationId.1 := by
  refine (pairwise_sortedBy _ _).imp fun hle hsku => ?_
  rcases Prod.Lex.toLex_le_toLex.mp hle with hlt | ⟨-, hrest⟩
  · exact absurd hlt (hsku ▸ lt_irrefl _)
  · rcases Prod.Lex.toLex_le_toLex.mp hrest with hlt | ⟨heq, -⟩
    · exact le_of_lt hlt
    · exact le_of_eq heq

/-- The positions of a SKU in the listing of all positions. -/
theorem filter_listPositions_perm (inventory : Inventory.Store) (tenantId sku : String) :
    ((listPositions inventory tenantId none).filter fun p => p.sku.1 = sku).Perm
      (listPositions inventory tenantId (some sku)) := by
  refine ((sortedBy_perm _ _).filter _).trans (List.Perm.trans ?_ (sortedBy_perm _ _).symm)
  rw [List.filter_filter]
  refine List.Perm.of_eq (List.filter_congr fun p _ => ?_)
  simp [Bool.and_comm]

theorem mem_listPositions_iff {p : Position} :
    p ∈ listPositions inventory tenantId (some sku) ↔
      p ∈ listPositions inventory tenantId none ∧ p.sku.1 = sku := by
  rw [← (filter_listPositions_perm inventory tenantId sku).mem_iff, List.mem_filter,
    decide_eq_true_eq]

end

/-- The locations at which the ledger has a SKU. -/
def ledgerStores (provider : FactsProvider) (sku : String) : Set String :=
  { location | ∃ p ∈ listPositions provider.inventory provider.event.tenantId (some sku),
    p.locationId.1 = location }

/-- The units of a SKU in the ledger. -/
def ledgerTotal (provider : FactsProvider) (sku : String) : ℤ :=
  ((listPositions provider.inventory provider.event.tenantId (some sku)).map (·.quantity)).sum

/-- The stores of the provider in which the twin has a product with a local id. -/
def twinStores (provider : FactsProvider) (sku : String) : List String :=
  storesAmong (provider.twin.listEntities provider.event.tenantId provider.storeId) sku

section

variable {provider : FactsProvider} {today : ℤ} {sku : String}

theorem ledgerLocations_listPositions (provider : FactsProvider) (sku : String) :
    ledgerLocations (listPositions provider.inventory provider.event.tenantId none) sku =
      ledgerStores provider sku := by
  ext location
  simp only [ledgerLocations, ledgerStores, mem_listPositions_iff, Set.mem_ofPred_eq, and_assoc]

theorem sum_listPositions (provider : FactsProvider) (sku : String) :
    (((listPositions provider.inventory provider.event.tenantId none).filter fun p =>
      p.sku.1 = sku).map (·.quantity)).sum = ledgerTotal provider sku :=
  ((filter_listPositions_perm _ _ sku).map _).sum_eq

/-- The listing is there when every product of the twin can be reported on. -/
theorem listStock_ok_iff : (∃ rows, listStock provider today provider.event.tenantId = .ok rows) ↔
    ∀ entity ∈ provider.twin.listEntities provider.event.tenantId provider.storeId,
      entity.entityType = "product" →
        ∃ report, reportOn provider today (Twin.localIdOf entity.twinId) = .ok report := by
  rw [← reportEntities_ok_iff provider today _
    (ledgerRows (listPositions provider.inventory provider.event.tenantId none))]
  constructor
  · rintro ⟨rows, hrows⟩
    obtain ⟨_, -, hbody⟩ := bind_eq_ok_iff.mp hrows
    obtain ⟨d, hd, -⟩ := bind_eq_ok_iff.mp hbody
    exact ⟨d, hd⟩
  · rintro ⟨d, hd⟩
    refine ⟨d.values, bind_eq_ok_iff.mpr ⟨(), if_pos rfl, ?_⟩⟩
    exact bind_eq_ok_iff.mpr ⟨d, hd, rfl⟩

/-- The rows that are returned are those of the two loops. -/
theorem exists_merged {r : Report} {rows : List StockRow} (hcounted : isCounted provider sku = true)
    (hreport : ∀ r', reportOn provider today sku = .ok (some r') → r' = r)
    (h : listStock provider today provider.event.tenantId = .ok rows) :
    ∃ d : Rows, d.values = rows ∧ Merged r sku { location |
        reportOn provider today sku = .ok (some r) ∧ location ∈ twinStores provider sku }
      (ledgerRows (listPositions provider.inventory provider.event.tenantId none)) d := by
  obtain ⟨_, -, hbody⟩ := bind_eq_ok_iff.mp h
  obtain ⟨d, hd, hvalues⟩ := bind_eq_ok_iff.mp hbody
  have hkeyed := (ledgerRows_spec sku (pairwise_listPositions provider.inventory
    provider.event.tenantId none)).keyed
  exact ⟨d, Except.ok.inj hvalues, reported_spec hcounted hkeyed hreport hd⟩

end

end ShelfWise.Stock
