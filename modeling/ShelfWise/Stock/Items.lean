import ShelfWise.Catalog.Store
import ShelfWise.Stock.Rows
import ShelfWise.Twin.OperationalFacts

/-!
# The product items

`list_products` of the provider, `_provider_product_items` and `_product_item` of
`shelfwise_backend/product_catalog.py`: the attention queue and the catalog search show one item for
each product of the catalog whose stock is known. Of the rows of a SKU an item shows the last one.

`stock_agrees_iff` says when the read model counts what the ledger holds.
-/

namespace ShelfWise.Stock

open Py Connectors Cascade Inventory Catalog

/-! ## The products of the catalog -/

/-- What `list_products` returns of a variant with a SKU. -/
structure ListedProduct where
  product : Product
  variant : ProductVariant
  sku : String
  supplier : Option String
  unitCost : Option Decimal
  unitPrice : Option Decimal
deriving DecidableEq

/-- `money.amount if money else None`. -/
def amountOf (money : Option Money) : Except Exc (Option Decimal) :=
  money.elim (.ok none) fun money => money.amount.map some

section

variable (provider : FactsProvider) (catalog : ProductCatalogStore)

/-- One turn of the inner loop of `list_products`: a variant without a SKU is left out. -/
def listedProduct (tenantId : String) (product : Product) (variant : ProductVariant) :
    Except Exc (Option ListedProduct) :=
  let identifiers := catalog.listIdentifiers tenantId variant.variantId
  let sku := ((identifiers.find? fun item => item.kind = .sku).map (·.value)).getD ""
  if sku = "" then .ok none
  else do
    let props := productProps provider sku
    let supplier := Twin.text (FactsProvider.property props "sourcing.supplier_id")
    let cost ← moneyFromProperty (FactsProvider.property props "catalog.unit_cost_minor_units")
    let price ← moneyFromProperty ((props.get? "catalog.unit_price_minor_units").getD
      (FactsProvider.property props "sales.catalog_price_cents"))
    let unitCost ← amountOf cost
    let unitPrice ← amountOf price
    .ok (some { product, variant, sku, supplier, unitCost, unitPrice })

/-- `list_products`. -/
def listProducts (tenantId : String) : Except Exc (List ListedProduct) := do
  let _ ← requireTenant provider tenantId
  let rows ← (catalog.listProducts tenantId).mapM fun product =>
    (catalog.listVariants tenantId product.productId).mapM
      (listedProduct provider catalog tenantId product)
  .ok rows.flatten.reduceOption

end

/-! ## Items -/

/-- What an item shows of its product and its row; the policy, the lots and the reasons for
attention are derived from these. -/
structure ProductItem where
  sku : String
  productId : String
  name : String
  category : Value
  supplier : String
  unitPrice : Decimal
  unitCost : Decimal
  onHand : ℤ
  reorderPoint : ℤ
  expiryDate : ℤ
deriving DecidableEq

/-- `_product_item`, of a product and a row that have what `_complete_product_row` asks for. -/
def productItem (product : ListedProduct) (row : StockRow) : Option ProductItem := do
  guard (product.product.category ≠ .none)
  let supplier ← product.supplier
  let unitPrice ← product.unitPrice
  let unitCost ← product.unitCost
  let reorderPoint ← row.reorderPoint
  let expiryDate ← row.expiryDate
  some
    { sku := product.sku, productId := product.product.productId, name := product.product.name
      category := product.product.category, supplier, unitPrice, unitCost
      onHand := row.onHand, reorderPoint, expiryDate }

/-- `stock_by_sku`. -/
def stockBySku (rows : List StockRow) : Dict String StockRow :=
  Dict.ofItems (rows.map fun row => (row.sku, row))

/-- `_provider_product_items`. The signals of the products, which decide neither what is an item nor
its units, are left out. -/
def providerProductItems (provider : FactsProvider) (catalog : ProductCatalogStore) (today : ℤ)
    (tenantId : String) : Except Exc (List ProductItem) := do
  let stock ← listStock provider today tenantId
  let products ← listProducts provider catalog tenantId
  .ok (products.filterMap fun product =>
    ((stockBySku stock).get? product.sku).bind (productItem product))

/-! ## What an item asks for -/

/-- The fields that `_complete_product_row` asks of a product. -/
def ListedProduct.IsComplete (product : ListedProduct) : Prop :=
  product.product.category ≠ .none ∧ product.supplier.isSome ∧ product.unitPrice.isSome ∧
    product.unitCost.isSome

/-- The fields that `_complete_product_row` asks of a row. -/
def StockRow.IsComplete (row : StockRow) : Prop := row.reorderPoint.isSome ∧ row.expiryDate.isSome

/-- A report with what `_complete_product_row` asks of a row. -/
def Report.IsComplete (r : Report) : Prop := r.reorderPoint.isSome ∧ r.expiry.isSome

/-- A report completes a row of the ledger when it is complete itself. -/
theorem isComplete_report_iff {row : StockRow} (counted : Bool) (r : Report)
    (hreorder : row.reorderPoint = none) (hexpiry : row.expiryDate = none) :
    (row.report counted r).IsComplete ↔ r.IsComplete := by
  unfold StockRow.IsComplete Report.IsComplete StockRow.report
  dsimp only
  rw [hreorder, hexpiry]
  cases r.reorderPoint <;> cases r.expiry <;> simp

theorem exists_productItem_iff {product : ListedProduct} {row : StockRow} :
    (∃ item, productItem product row = some item) ↔ product.IsComplete ∧ row.IsComplete := by
  unfold productItem ListedProduct.IsComplete StockRow.IsComplete
  by_cases hcategory : product.product.category = .none
  · simp [hcategory, guard]
  · cases product.supplier <;> cases product.unitPrice <;> cases product.unitCost <;>
      cases row.reorderPoint <;> cases row.expiryDate <;> simp [hcategory, guard]

theorem of_productItem {product : ListedProduct} {row : StockRow} {item : ProductItem}
    (h : productItem product row = some item) :
    item.sku = product.sku ∧ item.onHand = row.onHand := by
  unfold productItem at h
  simp only [Option.bind_eq_bind, Option.bind_eq_some_iff] at h
  obtain ⟨_, -, supplier, -, unitPrice, -, unitCost, -, reorderPoint, -, expiryDate, -, hitem⟩ := h
  cases hitem
  exact ⟨rfl, rfl⟩

/-- Of the rows of a SKU the last one is kept. -/
theorem get?_stockBySku (rows : List StockRow) (sku : String) :
    (stockBySku rows).get? sku = (rows.filter fun row => row.sku = sku).getLast? := by
  rw [stockBySku, Dict.get?_ofItems, List.filter_map, List.getLast?_map, Option.map_map]
  exact congrFun Option.map_id _

theorem get?_stockBySku_values {d : Rows} (h : Keyed d) (sku : String) :
    (stockBySku d.values).get? sku =
      (locationsOf d sku).getLast?.map fun location => rowAt d sku location 0 := by
  rw [get?_stockBySku, rows_of_sku h, List.getLast?_map]

theorem providerProductItems_ok_iff {provider : FactsProvider} {catalog : ProductCatalogStore}
    {today : ℤ} {tenantId : String} {items : List ProductItem} :
    providerProductItems provider catalog today tenantId = .ok items ↔
      ∃ stock, listStock provider today tenantId = .ok stock ∧
        ∃ products, listProducts provider catalog tenantId = .ok products ∧
          products.filterMap (fun product =>
            ((stockBySku stock).get? product.sku).bind (productItem product)) = items := by
  unfold providerProductItems
  simp only [bind_eq_ok_iff, Except.ok.injEq]

/-! ## Quantities -/

/-- A part of some units is the whole exactly when nothing else has units. -/
theorem sum_filter_eq_iff (positions : List Position) (keep : Position → Bool) :
    (positions.map (·.quantity)).sum = ((positions.filter keep).map (·.quantity)).sum ↔
      ∀ p ∈ positions, keep p = false → p.quantity = 0 := by
  induction positions with
  | nil => exact iff_of_true rfl fun _ h => absurd h List.not_mem_nil
  | cons p rest ih =>
    have hle : ((rest.filter keep).map (·.quantity)).sum ≤ (rest.map (·.quantity)).sum := by
      refine List.Sublist.sum_le_sum (List.filter_sublist.map _) ?_
      intro n hn
      obtain ⟨q, -, rfl⟩ := List.mem_map.mp hn
      exact q.quantity_nonneg
    have hp := p.quantity_nonneg
    rw [List.forall_mem_cons, ← ih, List.map_cons, List.sum_cons]
    cases hkeep : keep p with
    | true =>
      rw [List.filter_cons_of_pos hkeep, List.map_cons, List.sum_cons]
      simp
    | false =>
      rw [List.filter_cons_of_neg (by simp [hkeep])]
      simp only [true_implies]
      omega

section

variable {provider : FactsProvider} {sku : String}

/-- All units are at one location. -/
theorem ledgerTotal_eq_unitsAt_iff {location : String} :
    ledgerTotal provider sku =
        unitsAt (listPositions provider.inventory provider.event.tenantId none) sku location ↔
      ∀ p ∈ listPositions provider.inventory provider.event.tenantId (some sku),
        p.locationId.1 ≠ location → p.quantity = 0 := by
  have hunits : unitsAt (listPositions provider.inventory provider.event.tenantId none) sku
      location = (((listPositions provider.inventory provider.event.tenantId
        (some sku)).filter fun p => p.locationId.1 = location).map (·.quantity)).sum := by
    refine List.Perm.sum_eq (List.Perm.map _ ?_)
    refine List.Perm.trans (List.Perm.of_eq ?_)
      ((filter_listPositions_perm provider.inventory provider.event.tenantId sku).filter _)
    rw [List.filter_filter]
    exact List.filter_congr fun p _ => by simp [Bool.and_comm]
  rw [hunits, ledgerTotal, sum_filter_eq_iff]
  simp only [decide_eq_false_iff_not, ne_eq]

/-- There are no units. -/
theorem ledgerTotal_eq_zero_iff : ledgerTotal provider sku = 0 ↔
    ∀ p ∈ listPositions provider.inventory provider.event.tenantId (some sku),
      p.quantity = 0 := by
  have hnone := sum_filter_eq_iff
    (listPositions provider.inventory provider.event.tenantId (some sku)) fun _ => false
  rw [List.filter_false] at hnone
  simpa [ledgerTotal] using hnone

end

/-! ## Agreement -/

/-- The rows of a SKU count the units of the ledger, and so does every item of the SKU. -/
structure AgreesWithLedger (provider : FactsProvider) (catalog : ProductCatalogStore) (today : ℤ)
    (sku : String) : Prop where
  rows : ∃ rows, listStock provider today provider.event.tenantId = .ok rows ∧
    ((rows.filter fun row => row.sku = sku).map (·.onHand)).sum = ledgerTotal provider sku
  items : ∀ items, providerProductItems provider catalog today provider.event.tenantId = .ok items →
    ∀ item ∈ items, item.sku = sku → item.onHand = ledgerTotal provider sku

/-- A complete product of the catalog has the SKU. -/
def IsCatalogued (provider : FactsProvider) (catalog : ProductCatalogStore) (sku : String) : Prop :=
  ∃ products, listProducts provider catalog provider.event.tenantId = .ok products ∧
    ∃ product ∈ products, product.sku = sku ∧ product.IsComplete

/-- The stores of the twin are locations of the ledger, wherever that matters. -/
structure StoresMatch (provider : FactsProvider) (catalog : ProductCatalogStore) (today : ℤ)
    (sku : String) : Prop where
  readable : ∀ entity ∈ provider.twin.listEntities provider.event.tenantId provider.storeId,
    entity.entityType = "product" →
      ∃ report, reportOn provider today (Twin.localIdOf entity.twinId) = .ok report
  counted : ∀ r, reportOn provider today sku = .ok (some r) → r.onHand.getD 0 = 0 ∨
    ∀ store ∈ twinStores provider sku, store ∈ ledgerStores provider sku
  shown : ∀ r, reportOn provider today sku = .ok (some r) → r.IsComplete →
    IsCatalogued provider catalog sku →
    (∀ store ∈ twinStores provider sku, store ∈ ledgerStores provider sku) →
    ∀ last, IsGreatest (ledgerStores provider sku) last → last ∈ twinStores provider sku →
      ∀ p ∈ listPositions provider.inventory provider.event.tenantId (some sku),
        p.locationId.1 ≠ last → p.quantity = 0
  added : ∀ r, reportOn provider today sku = .ok (some r) → r.IsComplete →
    IsCatalogued provider catalog sku →
    (∃ store ∈ twinStores provider sku, store ∉ ledgerStores provider sku) →
    ∀ p ∈ listPositions provider.inventory provider.event.tenantId (some sku), p.quantity = 0

section

variable {provider : FactsProvider} {catalog : ProductCatalogStore} {today : ℤ} {sku : String}
  {r : Report} {rows : List StockRow}

/-- The stores in which the twin reports `r` of a SKU. -/
def reportedStores (provider : FactsProvider) (today : ℤ) (sku : String) (r : Report) :
    Set String :=
  { location | reportOn provider today sku = .ok (some r) ∧ location ∈ twinStores provider sku }

/-- What is known of the listing of a SKU that the ledger has counted. -/
structure ListedRows (provider : FactsProvider) (today : ℤ) (sku : String) (r : Report)
    (rows : List StockRow) : Prop where
  isCounted : isCounted provider sku = true
  report : ∀ r', reportOn provider today sku = .ok (some r') → r' = r
  listed : listStock provider today provider.event.tenantId = .ok rows

theorem counted_ledgerRows (provider : FactsProvider) (sku : String) :
    Counted (listPositions provider.inventory provider.event.tenantId none) sku
      (ledgerRows (listPositions provider.inventory provider.event.tenantId none)) :=
  ledgerRows_spec sku (pairwise_listPositions provider.inventory provider.event.tenantId none)

theorem mem_locationsOf_ledgerRows_iff {location : String} :
    location ∈ locationsOf
        (ledgerRows (listPositions provider.inventory provider.event.tenantId none)) sku ↔
      location ∈ ledgerStores provider sku := by
  rw [(counted_ledgerRows provider sku).locations, ledgerLocations_listPositions]

/-- The rows of a SKU count its units exactly when no store adds some. -/
theorem ListedRows.sum_eq_iff (h : ListedRows provider today sku r rows) :
    ((rows.filter fun row => row.sku = sku).map (·.onHand)).sum = ledgerTotal provider sku ↔
      r.onHand.getD 0 = 0 ∨
        ∀ store ∈ reportedStores provider today sku r, store ∈ ledgerStores provider sku := by
  obtain ⟨d, rfl, hmerged⟩ := exists_merged h.isCounted h.report h.listed
  rw [sum_rows_of_sku hmerged.keyed, ← sum_listPositions provider sku,
    ← (counted_ledgerRows provider sku).units, hmerged.units_iff]
  simp only [mem_locationsOf_ledgerRows_iff]
  rfl

/-- Where every store is a location of the ledger, the last row is that of the last location. -/
theorem ListedRows.last_of_subset (h : ListedRows provider today sku r rows)
    (hsub : ∀ store ∈ reportedStores provider today sku r, store ∈ ledgerStores provider sku) :
    ∃ last, IsGreatest (ledgerStores provider sku) last ∧ ∃ row,
      (stockBySku rows).get? sku = some row ∧
      row.onHand =
        unitsAt (listPositions provider.inventory provider.event.tenantId none) sku last ∧
      (row.IsComplete ↔ r.IsComplete ∧ last ∈ reportedStores provider today sku r) := by
  obtain ⟨d, rfl, hmerged⟩ := exists_merged h.isCounted h.report h.listed
  have hcounted := counted_ledgerRows provider sku
  have hlocations := hmerged.locations_of_subset fun store hstore =>
    mem_locationsOf_ledgerRows_iff.mpr (hsub store hstore)
  obtain ⟨p, hp⟩ := List.exists_mem_of_ne_nil _ (of_decide_eq_true h.isCounted)
  have hmem := mem_locationsOf_ledgerRows_iff.mpr
    (show p.locationId.1 ∈ ledgerStores provider sku from ⟨p, hp, rfl⟩)
  obtain ⟨last, hlast⟩ : ∃ last, (locationsOf d sku).getLast? = some last := by
    rw [hlocations]
    exact ⟨_, List.getLast?_eq_getLast_of_ne_nil (List.ne_nil_of_mem hmem)⟩
  have hgreatest : IsGreatest (ledgerStores provider sku) last := by
    rw [← ledgerLocations_listPositions]
    exact hcounted.last last (hlocations ▸ hlast)
  have hbase := hcounted.row last
  refine ⟨last, hgreatest, rowAt d sku last 0, ?_, ?_⟩
  · rw [get?_stockBySku_values hmerged.keyed, hlast]
    rfl
  · by_cases hstore : last ∈ reportedStores provider today sku r
    · -- the twin has reported on this row
      obtain ⟨row, hrow⟩ := mem_locationsOf_iff.mp (mem_locationsOf_ledgerRows_iff.mpr hgreatest.1)
      rw [rowAt, hrow] at hbase
      change row = _ at hbase
      have hmade := hmerged.merged last hstore
      rw [rowAt, hrow] at hmade
      change _ = some (row.report true r) at hmade
      rw [rowAt, hmade]
      refine ⟨congrArg StockRow.onHand hbase, ?_⟩
      rw [Option.getD_some, isComplete_report_iff true r (by rw [hbase]) (by rw [hbase])]
      exact (and_iff_left hstore).symm
    · rw [rowAt, hmerged.kept last hstore, ← rowAt, hbase]
      exact ⟨rfl, iff_of_false (fun hcomplete => Bool.noConfusion hcomplete.1) fun hboth =>
        hstore hboth.2⟩

/-- Where a store is no location of the ledger, the last row is that of such a store. -/
theorem ListedRows.last_of_not_subset (h : ListedRows provider today sku r rows) {store : String}
    (hstore : store ∈ reportedStores provider today sku r)
    (hnew : store ∉ ledgerStores provider sku) :
    ∃ row, (stockBySku rows).get? sku = some row ∧ row.onHand = r.onHand.getD 0 ∧
      (row.IsComplete ↔ r.IsComplete) := by
  obtain ⟨d, rfl, hmerged⟩ := exists_merged h.isCounted h.report h.listed
  obtain ⟨last, hreported, hfresh, hlast⟩ := hmerged.exists_last hstore fun hmem =>
    hnew (mem_locationsOf_ledgerRows_iff.mp hmem)
  have hmade := hmerged.merged last hreported
  rw [rowAt, get?_of_not_mem hfresh] at hmade
  refine ⟨StockRow.report ⟨sku, last, r.onHand.getD 0, none, none, []⟩ true r, ?_, rfl,
    isComplete_report_iff true r rfl rfl⟩
  rw [get?_stockBySku_values hmerged.keyed, hlast, Option.map_some, rowAt, hmade]
  rfl

theorem mem_reportedStores_iff (hreport : reportOn provider today sku = .ok (some r))
    {store : String} :
    store ∈ reportedStores provider today sku r ↔ store ∈ twinStores provider sku :=
  and_iff_right hreport

/-- The items of a SKU count its units exactly when the last row does, or shows in no item. -/
theorem ListedRows.items_iff (h : ListedRows provider today sku r rows) {row : StockRow}
    (hrow : (stockBySku rows).get? sku = some row) :
    (∀ items, providerProductItems provider catalog today provider.event.tenantId = .ok items →
        ∀ item ∈ items, item.sku = sku → item.onHand = ledgerTotal provider sku) ↔
      (IsCatalogued provider catalog sku → row.IsComplete →
        row.onHand = ledgerTotal provider sku) := by
  constructor
  · rintro hitems ⟨products, hproducts, product, hproduct, hsku, hcomplete⟩ hrowComplete
    obtain ⟨item, hitem⟩ := exists_productItem_iff.mpr ⟨hcomplete, hrowComplete⟩
    obtain ⟨hitemSku, honHand⟩ := of_productItem hitem
    rw [← honHand]
    refine hitems _ (providerProductItems_ok_iff.mpr ⟨rows, h.listed, products, hproducts, rfl⟩)
      item (List.mem_filterMap.mpr ⟨product, hproduct, ?_⟩) (hitemSku.trans hsku)
    rw [hsku, hrow]
    exact hitem
  · intro hshown items hitems item hitem hsku
    obtain ⟨stock, hstock, products, hproducts, rfl⟩ := providerProductItems_ok_iff.mp hitems
    cases h.listed.symm.trans hstock
    obtain ⟨product, hproduct, hbuilt⟩ := List.mem_filterMap.mp hitem
    obtain ⟨row', hrow', hbuilt⟩ := Option.bind_eq_some_iff.mp hbuilt
    obtain ⟨hitemSku, honHand⟩ := of_productItem hbuilt
    have hproductSku : product.sku = sku := hitemSku.symm.trans hsku
    rw [hproductSku, hrow] at hrow'
    cases hrow'
    obtain ⟨hcomplete, hrowComplete⟩ := exists_productItem_iff.mp ⟨item, hbuilt⟩
    rw [honHand]
    exact hshown ⟨products, hproducts, product, hproduct, hproductSku, hcomplete⟩ hrowComplete

/-- **A reported SKU.** Where the twin reports on the SKU, the read model agrees with the ledger
exactly when its stores match. -/
theorem ListedRows.agrees_iff (h : ListedRows provider today sku r rows)
    (hreport : reportOn provider today sku = .ok (some r)) :
    AgreesWithLedger provider catalog today sku ↔ StoresMatch provider catalog today sku := by
  have hreadable := listStock_ok_iff.mp ⟨rows, h.listed⟩
  have honly : ∀ r', reportOn provider today sku = .ok (some r') → r' = r := h.report
  have hrows : (∃ rows', listStock provider today provider.event.tenantId = .ok rows' ∧
      ((rows'.filter fun row => row.sku = sku).map (·.onHand)).sum = ledgerTotal provider sku) ↔
      r.onHand.getD 0 = 0 ∨
        ∀ store ∈ twinStores provider sku, store ∈ ledgerStores provider sku := by
    have hsum := h.sum_eq_iff
    simp only [mem_reportedStores_iff hreport] at hsum
    rw [← hsum]
    constructor
    · rintro ⟨rows', hlisted, hsum'⟩
      cases h.listed.symm.trans hlisted
      exact hsum'
    · intro hsum'
      exact ⟨rows, h.listed, hsum'⟩
  by_cases hsub : ∀ store ∈ twinStores provider sku, store ∈ ledgerStores provider sku
  · -- the last row is that of the last location
    obtain ⟨last, hgreatest, row, hrow, honHand, hcomplete⟩ := h.last_of_subset fun store hstore =>
      hsub store ((mem_reportedStores_iff hreport).mp hstore)
    rw [mem_reportedStores_iff hreport] at hcomplete
    constructor
    · intro hagrees
      refine ⟨hreadable, fun r' _ => Or.inr hsub, ?_, ?_⟩
      · intro r' hr' hr'Complete hcatalogued _ last' hlast' hstore
        cases honly r' hr'
        cases hgreatest.unique hlast'
        have hshown := (h.items_iff hrow).mp hagrees.items hcatalogued
          (hcomplete.mpr ⟨hr'Complete, hstore⟩)
        exact ledgerTotal_eq_unitsAt_iff.mp (hshown.symm.trans honHand)
      · rintro r' - - - ⟨store, hstore, hnew⟩
        exact absurd (hsub store hstore) hnew
    · intro hmatch
      refine ⟨hrows.mpr (Or.inr hsub), (h.items_iff hrow).mpr fun hcatalogued hrowComplete => ?_⟩
      obtain ⟨hrComplete, hstore⟩ := hcomplete.mp hrowComplete
      rw [honHand]
      exact (ledgerTotal_eq_unitsAt_iff.mpr
        (hmatch.shown r hreport hrComplete hcatalogued hsub last hgreatest hstore)).symm
  · -- the last row is that of a store that is new
    push Not at hsub
    obtain ⟨store, hstore, hnew⟩ := hsub
    obtain ⟨row, hrow, honHand, hcomplete⟩ :=
      h.last_of_not_subset ((mem_reportedStores_iff hreport).mpr hstore) hnew
    have hzero : (∃ rows', listStock provider today provider.event.tenantId = .ok rows' ∧
        ((rows'.filter fun row => row.sku = sku).map (·.onHand)).sum = ledgerTotal provider sku) ↔
        r.onHand.getD 0 = 0 :=
      hrows.trans (or_iff_left fun hall => hnew (hall store hstore))
    constructor
    · intro hagrees
      refine ⟨hreadable, ?_, ?_, ?_⟩
      · intro r' hr'
        cases honly r' hr'
        exact Or.inl (hzero.mp hagrees.rows)
      · intro r' _ _ _ hall
        exact absurd (hall store hstore) hnew
      · intro r' hr' hr'Complete hcatalogued _
        cases honly r' hr'
        have hshown := (h.items_iff hrow).mp hagrees.items hcatalogued (hcomplete.mpr hr'Complete)
        rw [← ledgerTotal_eq_zero_iff, ← hshown, honHand]
        exact hzero.mp hagrees.rows
    · intro hmatch
      have hnone := (hmatch.counted r hreport).resolve_right fun hall => hnew (hall store hstore)
      refine ⟨hzero.mpr hnone, (h.items_iff hrow).mpr fun hcatalogued hrowComplete => ?_⟩
      rw [honHand, hnone, eq_comm, ledgerTotal_eq_zero_iff]
      exact hmatch.added r hreport (hcomplete.mp hrowComplete) hcatalogued ⟨store, hstore, hnew⟩

/-- **Stock counted once.** The rows and the item of a SKU that the ledger has counted show its units
exactly when the stores of the twin match the locations of the ledger. -/
theorem stock_agrees_iff (provider : FactsProvider) (catalog : ProductCatalogStore) (today : ℤ)
    (sku : String)
    (hcounted : listPositions provider.inventory provider.event.tenantId (some sku) ≠ []) :
    AgreesWithLedger provider catalog today sku ↔ StoresMatch provider catalog today sku := by
  by_cases hlisted : ∃ rows, listStock provider today provider.event.tenantId = .ok rows
  · obtain ⟨rows, hlisted⟩ := hlisted
    have hisCounted : isCounted provider sku = true := decide_eq_true hcounted
    by_cases hreport : ∃ r, reportOn provider today sku = .ok (some r)
    · obtain ⟨r, hreport⟩ := hreport
      have honly : ∀ r', reportOn provider today sku = .ok (some r') → r' = r := by
        intro r' hr'
        rw [hreport] at hr'
        cases hr'
        rfl
      exact ListedRows.agrees_iff ⟨hisCounted, honly, hlisted⟩ hreport
    · -- nothing is reported, so that all rows are those of the ledger
      have hrows : ListedRows provider today sku ⟨⟨none, none, none⟩, none⟩ rows :=
        ⟨hisCounted, fun r' hr' => absurd ⟨r', hr'⟩ hreport, hlisted⟩
      have hempty : ∀ store, store ∉ reportedStores provider today sku
          ⟨⟨none, none, none⟩, none⟩ := fun store hstore => hreport ⟨_, hstore.1⟩
      obtain ⟨last, -, row, hrow, -, hcomplete⟩ := hrows.last_of_subset fun store hstore =>
        absurd hstore (hempty store)
      refine iff_of_true ⟨⟨rows, hlisted, hrows.sum_eq_iff.mpr (Or.inl rfl)⟩,
        (hrows.items_iff hrow).mpr fun _ hrowComplete =>
          absurd (hcomplete.mp hrowComplete).2 (hempty last)⟩
        ⟨listStock_ok_iff.mp ⟨rows, hlisted⟩, ?_, ?_, ?_⟩
      · intro r hr
        exact absurd ⟨r, hr⟩ hreport
      · intro r hr
        exact absurd ⟨r, hr⟩ hreport
      · intro r hr
        exact absurd ⟨r, hr⟩ hreport
  · refine iff_of_false (fun hagrees => hlisted ?_) fun hmatch =>
      hlisted (listStock_ok_iff.mpr hmatch.readable)
    obtain ⟨rows, hrows, -⟩ := hagrees.rows
    exact ⟨rows, hrows⟩

end

/-- The event of a query over all stores, as `for_query` builds it. -/
def stockQuery : Event where
  id := "query_tenant_a_all"
  type := .scan
  ts := ⟨0, ""⟩
  actor := "backend_query"
  payload := []
  source := .api
  tenantId := "tenant_a"
  dataDomain := .operationalTwin
  correlationId := "query_tenant_a_all"
  causationId := none
  schemaVersion := "v1"
  id_ne := by decide +kernel
  actor_ne := by decide +kernel
  tenantId_ne := tenantA_ne
  correlationId_ne := by decide +kernel

/-- The state after a count of twelve units of a SKU in a store, at a location of that store. -/
def countedAt (locationId : String) : FactsProvider where
  event := stockQuery
  listProducts := fun _ => []
  inventory := (Inventory.Store.empty.projectEvent "1970-01-01T00:00:00+00:00"
    [("id", .str "evt_count_1"), ("type", .str "stock_update"), ("tenant_id", .str "tenant_a"),
      ("payload", .dict [("sku", .str "4011"), ("store_id", .str "store_a"),
        ("location_id", .str locationId), ("on_hand", .int 12)])]).1
  twin := Twin.projected Twin.defaultSourcePolicy
    [(⟨0, ""⟩, .ensure Twin.scannedProduct), (⟨0, ""⟩, .observe Twin.scannedCount)]

/-- A count at the location that has the name of the store is counted once. -/
theorem stock_agrees_storefront : AgreesWithLedger (countedAt "store_a") .empty 719163 "4011" := by
  refine (stock_agrees_iff (countedAt "store_a") .empty 719163 "4011" (by decide +kernel)).mpr ?_
  have hlisted : (listStock (countedAt "store_a") 719163 "tenant_a").toOption.isSome := by
    decide +kernel
  obtain ⟨rows, hrows⟩ := Option.isSome_iff_exists.mp hlisted
  have hstores : ∀ store ∈ twinStores (countedAt "store_a") "4011",
      store ∈ ledgerStores (countedAt "store_a") "4011" := by
    have htwin : twinStores (countedAt "store_a") "4011" = ["store_a"] := by decide +kernel
    have hledger : "store_a" ∈ (listPositions (countedAt "store_a").inventory "tenant_a"
        (some "4011")).map (·.locationId.1) := by decide +kernel
    intro store hstore
    rw [htwin, List.mem_singleton] at hstore
    rw [hstore]
    exact List.mem_map.mp hledger
  have hcatalog : ¬ IsCatalogued (countedAt "store_a") .empty "4011" := by
    rintro ⟨products, hproducts, product, hproduct, -⟩
    cases hproducts
    cases hproduct
  exact
    { readable := listStock_ok_iff.mp ⟨rows, ok_of_toOption hrows⟩
      counted := fun _ _ => Or.inr hstores
      shown := fun _ _ _ hcatalogued => absurd hcatalogued hcatalog
      added := fun _ _ _ hcatalogued => absurd hcatalogued hcatalog }

/-- A count in the back room of the store is counted twice. -/
theorem backroom_counted_twice : ¬ ∀ (provider : FactsProvider) (catalog : ProductCatalogStore)
    (today : ℤ) (sku : String),
    listPositions provider.inventory provider.event.tenantId (some sku) ≠ [] →
      AgreesWithLedger provider catalog today sku := by
  intro h
  obtain ⟨rows, hrows, hsum⟩ := (h (countedAt "backroom") .empty 719163 "4011"
    (by decide +kernel)).rows
  have htwice : (listStock (countedAt "backroom") 719163 "tenant_a").toOption.map (fun rows =>
      ((rows.filter fun row => row.sku = "4011").map (·.onHand)).sum) = some 24 := by
    decide +kernel
  have htotal : ledgerTotal (countedAt "backroom") "4011" = 12 := by decide +kernel
  have hlisted : listStock (countedAt "backroom") 719163 "tenant_a" = .ok rows := hrows
  rw [hlisted] at htwice
  have hboth : some (ledgerTotal (countedAt "backroom") "4011") = some 24 := by
    rw [← hsum]
    exact htwice
  rw [htotal] at hboth
  cases hboth

end ShelfWise.Stock
