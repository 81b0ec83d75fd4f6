import ShelfWise.Py.Periods
import ShelfWise.Stock.Items

/-!
# Recent daily units

`get_recent_daily_units` of `shelfwise_backend/operational_facts.py`: what a SKU sold lately, for
forecasts and days of cover. It reads single sales out of the newest 500 observations of the store,
whatever they are about; its callers take them for the units of a day.

`daily_units_iff` says when they are.
-/

namespace ShelfWise.Stock

open Py Connectors Cascade Twin

/-! ## The program -/

section

variable (provider : FactsProvider) (tenantId sku : String)

/-- Whether an observation reports a sale of the SKU. -/
def isSaleOf (item : TwinObservation) : Bool :=
  decide (item.lane = .reported ∧ item.propertyName = "sales.units" ∧
    localIdOf item.twinId = slug sku)

/-- `get_recent_daily_units`. -/
def getRecentDailyUnits (limit : ℤ) : Except Exc (List Decimal) := do
  let _ ← requireTenant provider tenantId
  if limit ≤ 0 ∨ 90 < limit then .error (.valueError "limit must be between 1 and 90")
  else
    let observations := provider.twin.listObservations tenantId provider.storeId 500 false
    let values := (observations.reverse.filter (isSaleOf sku)).filterMap fun item =>
      decimalOf item.value
    .ok (values.drop (values.length - limit.toNat))

/-- The units that `get_scenario_facts` reads are those of fourteen sales. -/
theorem getRecentDailyUnits_eq :
    getRecentDailyUnits provider provider.event.tenantId sku 14 =
      .ok (provider.recentDailyUnits sku) := by
  rw [getRecentDailyUnits, requireTenant, if_pos rfl]
  rfl

/-! ## What was sold -/

/-- The observations of the store, the newest first. -/
def newestFirst : List TwinObservation :=
  listing provider.twin.log.observations
    (fun o => OrderDual.toDual (toLex (o.observedAt.instant, o.observationId))) fun e =>
      e.1.1 = tenantId && provider.storeId.all (e.2.storeId = ·) &&
        (false || e.2.lane ≠ .predicted)

/-- Whether an observation is of a sale of the SKU, with units that can be read. -/
def soldUnits (item : TwinObservation) : Bool := isSaleOf sku item && (decimalOf item.value).isSome

/-- The sales of the SKU in the store, the newest first. -/
def sales : List TwinObservation := (newestFirst provider tenantId).filter (soldUnits sku)

end

/-- The calendar day of an observation, in UTC. -/
def dayOf (o : TwinObservation) : ℤ := o.observedAt.instant / 86400000000

/-- The units of a sale. -/
def unitsSold (o : TwinObservation) : ℚ := ((decimalOf o.value).map Decimal.toRat).getD 0

/-- The values are the units sold on each of the latest `n` days with sales, the oldest first. -/
def AreDaily (sold : List TwinObservation) (n : ℕ) (values : List Decimal) : Prop :=
  values.map Decimal.toRat =
    ((latestPeriods dayOf sold n).map (totalIn dayOf unitsSold sold)).reverse

/-- Each of the latest `n` days with sales of the SKU has one sale, and the newest 500 observations of
the store hold it. -/
structure OneSaleADay (provider : FactsProvider) (tenantId sku : String) (n : ℕ) : Prop where
  single : SinglePeriods dayOf (sales provider tenantId sku) n
  paged : ∀ o ∈ sales provider tenantId sku,
    dayOf o ∈ latestPeriods dayOf (sales provider tenantId sku) n →
      o ∈ provider.twin.listObservations tenantId provider.storeId 500 false

/-! ## The page -/

section

variable {provider : FactsProvider} {tenantId sku : String}

theorem listObservations_eq : provider.twin.listObservations tenantId provider.storeId 500 false =
    (newestFirst provider tenantId).take 500 := rfl

theorem nodup_newestFirst : (newestFirst provider tenantId).Nodup :=
  (sortedBy_perm _ _).nodup_iff.mpr (nodup_kept provider.twin.log.keyed _)

theorem nodup_sales : (sales provider tenantId sku).Nodup := nodup_newestFirst.filter _

/-- A later day comes first. -/
theorem sorted_sales : (sales provider tenantId sku).Pairwise fun o o' => dayOf o' ≤ dayOf o := by
  refine List.Pairwise.filter _ ((pairwise_sortedBy _ _).imp fun {o o'} hle => ?_)
  have hinstant : o'.observedAt.instant ≤ o.observedAt.instant := by
    rcases Prod.Lex.toLex_le_toLex.mp (OrderDual.toDual_le_toDual.mp hle) with hlt | ⟨heq, -⟩
    · exact hlt.le
    · exact heq.le
  exact Int.ediv_le_ediv (by decide) hinstant

/-- The sales on the page. -/
def pageSales (provider : FactsProvider) (tenantId sku : String) : List TwinObservation :=
  ((newestFirst provider tenantId).take 500).filter (soldUnits sku)

theorem pageSales_prefix : pageSales provider tenantId sku <+: sales provider tenantId sku :=
  (List.take_prefix 500 _).filter _

/-- The readable values of reported sales are the units sold. -/
theorem map_toRat_values (sku : String) (rows : List TwinObservation) :
    ((rows.filter (isSaleOf sku)).filterMap fun item => decimalOf item.value).map Decimal.toRat =
      (rows.filter (soldUnits sku)).map unitsSold := by
  induction rows with
  | nil => rfl
  | cons o rows ih =>
    cases hsale : isSaleOf sku o with
    | false =>
      have hno : soldUnits sku o = false := by rw [soldUnits, hsale, Bool.false_and]
      rw [List.filter_cons_of_neg (by rw [hsale]; decide),
        List.filter_cons_of_neg (by rw [hno]; decide)]
      exact ih
    | true =>
      rw [List.filter_cons_of_pos hsale, List.filterMap_cons]
      cases hvalue : decimalOf o.value with
      | none =>
        have hno : soldUnits sku o = false := by
          rw [soldUnits, hvalue, Option.isSome_none, Bool.and_false]
        rw [List.filter_cons_of_neg (by rw [hno]; decide)]
        exact ih
      | some d =>
        have hyes : soldUnits sku o = true := by
          rw [soldUnits, hsale, hvalue, Option.isSome_some, Bool.and_true]
        have hunits : unitsSold o = d.toRat := by
          rw [unitsSold, hvalue]
          rfl
        rw [List.filter_cons_of_pos hyes, List.map_cons, List.map_cons, hunits, ih]

/-- `values[-n:]`, of a list that is read backwards. -/
theorem take_length_sub {α : Type} (values : List α) (n : ℕ) :
    values.take (values.length - (values.length - n)) = values.take n := by
  rcases le_total n values.length with hle | hle
  · rw [Nat.sub_sub_self hle]
  · rw [Nat.sub_eq_zero_of_le hle, Nat.sub_zero, List.take_length, List.take_of_length_le hle]

/-- What is read of the page. -/
theorem units_of_page {limit : ℤ} {values : List Decimal}
    (h : getRecentDailyUnits provider tenantId sku limit = .ok values) :
    values.map Decimal.toRat =
      (((pageSales provider tenantId sku).take limit.toNat).map unitsSold).reverse := by
  unfold getRecentDailyUnits at h
  obtain ⟨_, -, h⟩ := bind_eq_ok_iff.mp h
  split at h
  · cases h
  · have hvalues := Except.ok.inj h
    rw [List.filter_reverse, List.filterMap_reverse, List.length_reverse, List.drop_reverse,
      listObservations_eq] at hvalues
    rw [← hvalues, take_length_sub, List.map_reverse, List.map_take, map_toRat_values, pageSales,
      List.map_take]

/-- The sales of the latest days are on the page exactly when the page holds as many sales. -/
theorem paged_iff_length {n : ℕ}
    (hsingle : SinglePeriods dayOf (sales provider tenantId sku) n) :
    (∀ o ∈ sales provider tenantId sku,
        dayOf o ∈ latestPeriods dayOf (sales provider tenantId sku) n →
          o ∈ provider.twin.listObservations tenantId provider.storeId 500 false) ↔
      (latestPeriods dayOf (sales provider tenantId sku) n).length ≤
        (pageSales provider tenantId sku).length := by
  have hsorted : (sales provider tenantId sku).Pairwise fun o o' => dayOf o' ≤ dayOf o :=
    sorted_sales
  have hlatest := fun o => mem_take_iff hsorted hsingle (x := o)
  constructor
  · intro h
    have hsubset : (sales provider tenantId sku).take
        (latestPeriods dayOf (sales provider tenantId sku) n).length ⊆
          pageSales provider tenantId sku := by
      intro o ho
      obtain ⟨hsale, hday⟩ := (hlatest o).mp ho
      exact List.mem_filter.mpr ⟨h o hsale hday, (List.mem_filter.mp hsale).2⟩
    have hnodup : ((sales provider tenantId sku).take
        (latestPeriods dayOf (sales provider tenantId sku) n).length).Nodup :=
      nodup_sales.sublist (List.take_sublist _ _)
    have hamounts : ((sales provider tenantId sku).take
        (latestPeriods dayOf (sales provider tenantId sku) n).length).map unitsSold =
          (latestPeriods dayOf (sales provider tenantId sku) n).map
            (totalIn dayOf unitsSold (sales provider tenantId sku)) :=
      amounts_eq_totals hsorted hsingle
    have hlength := congrArg List.length hamounts
    rw [List.length_map, List.length_map] at hlength
    rw [← hlength]
    exact (List.subperm_of_subset hnodup hsubset).length_le
  · intro h o hsale hday
    obtain ⟨rest, hrest⟩ : pageSales provider tenantId sku <+: sales provider tenantId sku :=
      pageSales_prefix
    have hmem := (hlatest o).mpr ⟨hsale, hday⟩
    rw [← hrest] at hmem
    rw [← hrest] at h
    rw [List.take_append_of_le_length h] at hmem
    exact (List.mem_filter.mp (List.mem_of_mem_take hmem)).1

/-- A page with one sale for each of the latest days starts with these sales, and has no others when it
is asked for more days than there are. -/
theorem take_pageSales {n : ℕ} (hsingle : SinglePeriods dayOf (sales provider tenantId sku) n)
    (hlength : (latestPeriods dayOf (sales provider tenantId sku) n).length ≤
      (pageSales provider tenantId sku).length) :
    (pageSales provider tenantId sku).take n = (sales provider tenantId sku).take
      (latestPeriods dayOf (sales provider tenantId sku) n).length := by
  have hprefix : pageSales provider tenantId sku <+: sales provider tenantId sku :=
    pageSales_prefix
  rcases Nat.lt_or_ge (periods dayOf (sales provider tenantId sku)).length n with hfew | hmany
  · -- every day is among the latest ones, so that every sale is on the page
    have hall : latestPeriods dayOf (sales provider tenantId sku) n =
        periods dayOf (sales provider tenantId sku) := List.take_of_length_le hfew.le
    have hsubset : sales provider tenantId sku ⊆ (sales provider tenantId sku).take
        (latestPeriods dayOf (sales provider tenantId sku) n).length := by
      intro o ho
      refine (mem_take_iff sorted_sales hsingle).mpr ⟨ho, ?_⟩
      rw [hall]
      exact mem_periods.mpr ⟨o, ho, rfl⟩
    have hsales := (List.subperm_of_subset nodup_sales hsubset).length_le
    rw [List.length_take, hall] at hsales
    rw [hall] at hlength
    have hwhole : pageSales provider tenantId sku = sales provider tenantId sku :=
      hprefix.eq_of_length_le (by omega)
    rw [hwhole, hall, List.take_of_length_le (by omega), List.take_of_length_le (by omega)]
  · have hcount : (latestPeriods dayOf (sales provider tenantId sku) n).length = n := by
      rw [latestPeriods, List.length_take, Nat.min_eq_left hmany]
    obtain ⟨rest, hrest⟩ := hprefix
    rw [hcount] at hlength ⊢
    rw [← hrest, List.take_append_of_le_length hlength]

/-- The values are the units of the latest days when each of these days has one sale and the page holds
it; and only then, where every sale sells something. -/
theorem daily_units_iff {limit : ℤ} {values : List Decimal}
    (h : getRecentDailyUnits provider tenantId sku limit = .ok values) :
    (OneSaleADay provider tenantId sku limit.toNat →
        AreDaily (sales provider tenantId sku) limit.toNat values) ∧
      ((∀ o ∈ sales provider tenantId sku, 0 < unitsSold o) →
        AreDaily (sales provider tenantId sku) limit.toNat values →
          OneSaleADay provider tenantId sku limit.toNat) := by
  have hsorted : (sales provider tenantId sku).Pairwise fun o o' => dayOf o' ≤ dayOf o :=
    sorted_sales
  have hprefix : pageSales provider tenantId sku <+: sales provider tenantId sku :=
    pageSales_prefix
  have hdaily : AreDaily (sales provider tenantId sku) limit.toNat values ↔
      ((pageSales provider tenantId sku).take limit.toNat).map unitsSold =
        (latestPeriods dayOf (sales provider tenantId sku) limit.toNat).map
          (totalIn dayOf unitsSold (sales provider tenantId sku)) := by
    rw [AreDaily, units_of_page h, List.reverse_inj]
  rw [hdaily]
  constructor
  · rintro ⟨hsingle, hpaged⟩
    have hlength := (paged_iff_length hsingle).mp hpaged
    rw [← amounts_eq_totals hsorted hsingle, take_pageSales hsingle hlength]
  · intro hpositive hvalues
    have hsingle := single_of_amounts_eq_totals hsorted hpositive hprefix hvalues
    refine ⟨hsingle, (paged_iff_length hsingle).mpr ?_⟩
    have hlength := congrArg List.length hvalues
    rw [List.length_map, List.length_map, List.length_take] at hlength
    omega

end

/-! ## Two sales on a day -/

/-- A sale of a SKU at a time. -/
def saleAt (observationId : String) (units : ℤ) (instant : ℤ) : TwinObservation :=
  { scannedCount with
    observationId
    propertyName := "sales.units"
    value := .int units
    observedAt := ⟨instant, ""⟩
    sourceObjectId := observationId
    payloadHash := observationId }

/-- The state after two sales. -/
def soldTwice (first second : TwinObservation) : FactsProvider where
  event := stockQuery
  listProducts := fun _ => []
  inventory := .empty
  twin := Twin.projected Twin.defaultSourcePolicy
    [(⟨0, ""⟩, .ensure scannedProduct), (first.observedAt, .observe first),
      (second.observedAt, .observe second)]

/-- Sales on two days are read as what was sold on these days. -/
theorem sales_of_two_days : ∃ values,
    getRecentDailyUnits (soldTwice (saleAt "evt_1" 4 0) (saleAt "evt_2" 3 86400000000)) "tenant_a"
        "4011" 14 = .ok values ∧
      AreDaily (sales (soldTwice (saleAt "evt_1" 4 0) (saleAt "evt_2" 3 86400000000)) "tenant_a"
        "4011") 14 values := by
  have hread : getRecentDailyUnits
      (soldTwice (saleAt "evt_1" 4 0) (saleAt "evt_2" 3 86400000000)) "tenant_a" "4011" 14 =
        .ok [.finite false 4 0, .finite false 3 0] := by decide +kernel
  refine ⟨_, hread, (daily_units_iff hread).1 ⟨?_, ?_⟩⟩
  · unfold SinglePeriods
    decide +kernel
  · decide +kernel

/-- Two sales on one day are read as those of two days. -/
theorem sales_of_one_day : ∃ values,
    getRecentDailyUnits (soldTwice (saleAt "evt_1" 4 0) (saleAt "evt_2" 3 3600000000)) "tenant_a"
        "4011" 14 = .ok values ∧
      ¬ AreDaily (sales (soldTwice (saleAt "evt_1" 4 0) (saleAt "evt_2" 3 3600000000)) "tenant_a"
        "4011") 14 values := by
  refine ⟨[.finite false 4 0, .finite false 3 0], by decide +kernel, ?_⟩
  unfold AreDaily
  decide +kernel

end ShelfWise.Stock
