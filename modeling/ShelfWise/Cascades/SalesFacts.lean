import ShelfWise.Cascades.Golden
import ShelfWise.Ingest.Projections

/-!
# The facts of a live sale

`OperationalFactsProvider.get_scenario_facts` of `shelfwise_backend/operational_facts.py`, which every
cascade on a live event asks first: each fact is read from the payload of the event, from the product
catalog, the inventory or the reported twin, and if one of them is nowhere the event is answered with
what is missing. `scenarioFacts_missing` says that this is the answer to a sale whose payload has no
facts, as long as nothing but sales has been reported and the catalog is empty.

What the provider lists of the product catalog is a parameter, and so is what the sales cascade does
with its facts.
-/

namespace ShelfWise.Cascade

open Py Connectors Science Ingest

/-! ## Reading values -/

/-- `str(value).strip()` is not empty. -/
def isPrinted (value : Value) : Bool :=
  match printed value with
  | .error _ => false
  | .ok text => strip text ≠ ""

/-- `_number`. -/
def numberOf (value : Value) : Except Exc (Option ℤ) :=
  if value = .none ∨ ¬ isPrinted value then .ok none else Value.intOrNone value

/-- `_decimal`. -/
def decimalOf (value : Value) : Option Decimal :=
  if value = .none ∨ ¬ isPrinted value then none
  else (printed value).toOption.bind Decimal.ofText

/-- `_bool`. -/
def boolOf : Value → Option Bool
  | .bool b => some b
  | .str s =>
    if lower (strip s) = "true" then some true
    else if lower (strip s) = "false" then some false
    else none
  | _ => none

/-- `_first_text`. -/
def firstText (payload : List (String × Value)) (fields : List String) : Option String :=
  fields.findSome? fun field => Twin.text (Value.get payload field)

/-- The first of two values that is there; the second is read only when it is needed. -/
def orRead {α : Type} (first second : Except Exc (Option α)) : Except Exc (Option α) :=
  match first with
  | .error e => .error e
  | .ok (some a) => .ok (some a)
  | .ok none => second

/-- `_first_number`. -/
def firstNumber (payload : List (String × Value)) : List String → Except Exc (Option ℤ)
  | [] => .ok none
  | field :: fields => orRead (numberOf (Value.get payload field)) (firstNumber payload fields)

/-- `_first_decimal`. -/
def firstDecimal (payload : List (String × Value)) (fields : List String) : Option Decimal :=
  fields.findSome? fun field => decimalOf (Value.get payload field)

/-- `_first_bool`. -/
def firstBool (payload : List (String × Value)) (fields : List String) : Option Bool :=
  fields.findSome? fun field => boolOf (Value.get payload field)

/-- `_money_from_property`. -/
def moneyFromProperty (value : Value) : Except Exc (Option Money) := do
  let minorUnits ← numberOf value
  .ok (minorUnits.map fun n => ⟨n, "ZAR"⟩)

/-- The loop of `_money_from_fields` over the fields in minor units. -/
def moneyOfMinorFields (payload : List (String × Value)) : List String → Except Exc (Option Money)
  | [] => .ok none
  | field :: fields =>
    orRead (moneyFromProperty (Value.get payload field)) (moneyOfMinorFields payload fields)

/-- The loop of `_money_from_fields` over the amounts. -/
def moneyOfAmountFields (payload : List (String × Value)) : List String → Except Exc (Option Money)
  | [] => .ok none
  | field :: fields =>
    let raw := Value.get payload field
    let explicit := (numberOf (Value.get raw.items "minor_units")).map fun minorUnits =>
      minorUnits.map fun n =>
        (⟨n, ((Value.get raw.items "currency").orElse (.str "ZAR")).toText⟩ : Money)
    orRead explicit <| match decimalOf raw with
      | some amount => (Money.zar (.str amount.str)).map some
      | none => moneyOfAmountFields payload fields

/-- `_money_from_fields`. -/
def moneyFromFields (payload : List (String × Value)) (amountFields minorFields : List String) :
    Except Exc (Option Money) :=
  orRead (moneyOfMinorFields payload minorFields) (moneyOfAmountFields payload amountFields)

/-! ## The provider -/

/-- What `OperationalFactsProvider` is built with for an event. -/
structure FactsProvider where
  event : Event
  listProducts : String → List (List (String × Value))
  inventory : Inventory.Store
  twin : Twin.TwinStore

namespace FactsProvider

variable (provider : FactsProvider)

/-- `_store_id`. -/
def storeId : Option String :=
  firstText provider.event.payload ["store_id", "site_id", "location", "location_id"]

/-- `get_hero_sku` for the tenant of the event. -/
def heroSku : Except CascadeError String :=
  match firstText provider.event.payload ["sku"] with
  | some sku => .ok sku
  | none =>
    let skus := ((provider.listProducts provider.event.tenantId).map fun item =>
      Value.get item "sku").filter Value.truthy
    match skus with
    | [sku] => .ok sku.toText
    | _ => .error (.missingOperationalFacts ["sku"])

/-- `_product_for_sku`. -/
def productForSku (sku : String) : List (String × Value) :=
  ((provider.listProducts provider.event.tenantId).find? fun product =>
    Value.get product "sku" = .str sku).getD []

/-- The entities of a type and a local id. -/
def entitiesOf (entityType localId : String) : List Twin.TwinEntity :=
  (provider.twin.listEntities provider.event.tenantId provider.storeId).filter fun entity =>
    entity.entityType = entityType ∧ Twin.localIdOf entity.twinId = Twin.slug localId

/-- `_properties_for`. -/
def propertiesFor (entityType : String) (localId : Option String) : Dict String Value :=
  match localId with
  | none | some "" => Dict.empty
  | some localId =>
    let validIds := (provider.entitiesOf entityType localId).map (·.twinId)
    Dict.ofItems (((provider.twin.listProperties provider.event.tenantId provider.storeId
      false).filter fun item =>
        decide (item.twinId ∈ validIds ∧ item.lane = .reported ∧ item.freshness ≠ .stale)).map
      fun item => (item.propertyName, item.value))

/-- `_entity_display_name`. -/
def entityDisplayName (entityType localId : String) : Option String :=
  (provider.entitiesOf entityType localId).head?.map (·.displayName)

/-- `_inventory_quantity`. -/
def inventoryQuantity (sku : String) : Option ℤ :=
  let rows := provider.inventory.positions.entries.filter fun e =>
    e.2.tenantId.1 = provider.event.tenantId ∧ e.2.sku.1 = sku ∧
      provider.storeId.all fun storeId => e.2.locationId.1 = storeId
  if rows = [] then none else some (rows.map fun e => e.2.quantity).sum

/-- `get_recent_daily_units`. -/
def recentDailyUnits (sku : String) : List Decimal :=
  let observations :=
    provider.twin.listObservations provider.event.tenantId provider.storeId 500 false
  let values := (observations.reverse.filter fun item =>
    item.lane = .reported ∧ item.propertyName = "sales.units" ∧
      Twin.localIdOf item.twinId = Twin.slug sku).filterMap fun item => decimalOf item.value
  values.drop (values.length - 14)

/-- `_payload_recent_units`. -/
def payloadRecentUnits : List Decimal :=
  match Value.get provider.event.payload "recent_daily_units" with
  | .list items => (items.drop (items.length - 90)).filterMap decimalOf
  | _ => []

/-- What `get_scenario_facts` reads, before it looks for what is missing. -/
structure Values where
  productName : Option String
  category : Option String
  location : Option String
  unitsOnHand : Option ℤ
  reorderPoint : Option ℤ
  daysToExpiry : Option ℤ
  recentDailyUnits : List Decimal
  unitCost : Option Money
  unitPrice : Option Money
  supplier : Option String
  supplierLeadTimeDays : Option Decimal
  supplierRecentDelay : Option Bool

/-- `props.get(key)`. -/
def property (props : Dict String Value) (key : String) : Value := (props.get? key).getD .none

/-- The values of a SKU. -/
def values (sku : String) : Except Exc Values := do
  let payload := provider.event.payload
  let product := provider.productForSku sku
  let props := provider.propertiesFor "product" (some sku)
  let unitsOnHand ← orRead (firstNumber payload ["on_hand", "units_on_hand"])
    (orRead (.ok (provider.inventoryQuantity sku)) (numberOf (property props "inventory.on_hand")))
  let reorderPoint ← orRead (firstNumber payload ["reorder_point"])
    (numberOf (property props "inventory.reorder_point"))
  let daysToExpiry ← orRead (firstNumber payload ["days_to_expiry"])
    (numberOf (property props "expiry.days_to_expiry"))
  let unitCost ← orRead
    (moneyFromFields payload ["unit_cost", "catalog_unit_cost"]
      ["unit_cost_cents", "unit_cost_minor_units"])
    (moneyFromProperty (property props "catalog.unit_cost_minor_units"))
  let unitPrice ← orRead
    (moneyFromFields payload ["catalog_unit_price"]
      ["catalog_price_cents", "catalog_unit_price_minor_units"])
    (moneyFromProperty ((props.get? "catalog.unit_price_minor_units").getD
      (property props "sales.catalog_price_cents")))
  let supplier := firstText payload ["supplier", "supplier_id"] <|>
    Twin.text (property props "sourcing.supplier_id")
  let supplierProps := provider.propertiesFor "supplier" supplier
  .ok
    { productName := (firstText payload ["product", "product_name"] <|>
        Twin.text (Value.get product "name")) <|> provider.entityDisplayName "product" sku
      category := (firstText payload ["category"] <|> Twin.text (Value.get product "category")) <|>
        Twin.text (property props "catalog.category")
      location := provider.storeId
      unitsOnHand, reorderPoint, daysToExpiry
      recentDailyUnits :=
        if provider.payloadRecentUnits = [] then provider.recentDailyUnits sku
        else provider.payloadRecentUnits
      unitCost, unitPrice, supplier
      supplierLeadTimeDays := firstDecimal payload ["lead_time_days", "avg_lead_time_days"] <|>
        decimalOf (property supplierProps "supplier.lead_time_days")
      supplierRecentDelay := firstBool payload ["recent_delay"] <|>
        boolOf (property supplierProps "supplier.recent_delay") }

/-- The facts that are missing, as `MissingOperationalFacts` lists them. -/
def Values.missing (v : Values) : List String :=
  sortedBy id (([("product_name", v.productName.isNone), ("category", v.category.isNone),
    ("location", v.location.isNone), ("units_on_hand", v.unitsOnHand.isNone),
    ("reorder_point", v.reorderPoint.isNone), ("days_to_expiry", v.daysToExpiry.isNone),
    ("recent_daily_units", v.recentDailyUnits.isEmpty), ("unit_cost", v.unitCost.isNone),
    ("unit_price", v.unitPrice.isNone), ("supplier", v.supplier.isNone),
    ("supplier_lead_time_days", v.supplierLeadTimeDays.isNone),
    ("supplier_recent_delay", v.supplierRecentDelay.isNone)].filter Prod.snd).map Prod.fst)

/-- The scenario of a SKU, once nothing is missing. -/
def Values.scenario (sku : String) (v : Values) : Option ScenarioFacts := do
  let productName ← v.productName
  let category ← v.category
  let location ← v.location
  let unitsOnHand ← v.unitsOnHand
  let daysToExpiry ← v.daysToExpiry
  let unitCost ← v.unitCost
  let unitPrice ← v.unitPrice
  if v.missing = [] then
    some { sku, productName, category, location, unitsOnHand, daysToExpiry
           recentDailyUnits := v.recentDailyUnits, unitCost, unitPrice }
  else none

/-- `get_scenario_facts` for the tenant of the event. -/
def scenarioFacts : Except CascadeError ScenarioFacts := do
  let sku ← provider.heroSku
  let v ← orRaised (provider.values sku)
  match v.scenario sku with
  | some facts => .ok facts
  | none => .error (.missingOperationalFacts v.missing)

end FactsProvider

/-- What the sales cascade is run with: the listing of the product catalog, and what it does with its
facts. -/
structure SalesContext where
  listProducts : String → List (List (String × Value))
  onFacts : Event → ScenarioFacts → Except CascadeError (Option CascadeResult)

/-- `run_sales_cascade` on a live event. -/
def runSalesCascade (context : SalesContext) : Cascade := fun event inventory twin => do
  let facts ← FactsProvider.scenarioFacts ⟨event, context.listProducts, inventory, twin⟩
  context.onFacts event facts

/-! ## Sales without facts -/

/-- The fields of a payload that are facts. -/
def factFields : List String :=
  ["category", "on_hand", "units_on_hand", "reorder_point", "days_to_expiry", "unit_cost",
    "catalog_unit_cost", "unit_cost_cents", "unit_cost_minor_units", "catalog_unit_price",
    "catalog_price_cents", "catalog_unit_price_minor_units", "supplier", "supplier_id"]

/-- The properties that a sale without facts reports. -/
def saleProperties : List String := ["sales.units", "sales.till_price_cents"]

/-- Nothing but sales has been reported. -/
structure OnlySales (policyFor : Twin.SourcePolicyResolver) (twin : Twin.TwinStore) : Prop where
  covered : Twin.Covered policyFor twin fun _ => False
  names : ∀ o, twin.Recorded o → o.propertyName ∈ saleProperties

section

variable {payload : List (String × Value)} {fields : List String}

theorem orRead_none {α : Type} (second : Except Exc (Option α)) :
    orRead (.ok none) second = second := rfl

theorem firstText_none (h : ∀ field ∈ fields, Value.get payload field = .none) :
    firstText payload fields = none := by
  refine List.findSome?_eq_none_iff.mpr fun field hfield => ?_
  rw [h field hfield]
  rfl

theorem firstNumber_none (h : ∀ field ∈ fields, Value.get payload field = .none) :
    firstNumber payload fields = .ok none := by
  induction fields with
  | nil => rfl
  | cons field fields ih =>
    rw [firstNumber, h field List.mem_cons_self]
    exact ih fun field' hfield => h field' (List.mem_cons_of_mem _ hfield)

theorem moneyOfMinorFields_none (h : ∀ field ∈ fields, Value.get payload field = .none) :
    moneyOfMinorFields payload fields = .ok none := by
  induction fields with
  | nil => rfl
  | cons field fields ih =>
    rw [moneyOfMinorFields, h field List.mem_cons_self]
    exact ih fun field' hfield => h field' (List.mem_cons_of_mem _ hfield)

theorem moneyOfAmountFields_none (h : ∀ field ∈ fields, Value.get payload field = .none) :
    moneyOfAmountFields payload fields = .ok none := by
  induction fields with
  | nil => rfl
  | cons field fields ih =>
    rw [moneyOfAmountFields, h field List.mem_cons_self]
    exact ih fun field' hfield => h field' (List.mem_cons_of_mem _ hfield)

theorem moneyFromFields_none {minorFields : List String}
    (h : ∀ field ∈ fields ++ minorFields, Value.get payload field = .none) :
    moneyFromFields payload fields minorFields = .ok none := by
  rw [moneyFromFields, moneyOfMinorFields_none fun field hfield =>
    h field (List.mem_append_right _ hfield), orRead_none]
  exact moneyOfAmountFields_none fun field hfield => h field (List.mem_append_left _ hfield)

end

theorem propertyName_of_onlySales {policyFor : Twin.SourcePolicyResolver} {twin : Twin.TwinStore}
    (h : OnlySales policyFor twin) {tenantId : String} {storeId : Option String}
    {item : Twin.TwinPropertyState} (hitem : item ∈ twin.listProperties tenantId storeId false) :
    item.propertyName ∈ saleProperties := by
  obtain ⟨k, hget, -⟩ := mem_listing_iff.mp hitem
  have htable : twin.table k = some item.facts := by
    rw [Twin.TwinStore.table, hget, Option.map_some]
  obtain ⟨o, ho, hfacts⟩ := (h.covered.held k item.facts htable).1
  have hname : o.propertyName = item.propertyName := congrArg Twin.PropertyFacts.propertyName hfacts
  exact hname ▸ h.names o ho

/-- A property that no sale reports is not there. -/
theorem property_of_onlySales {policyFor : Twin.SourcePolicyResolver} {provider : FactsProvider}
    (h : OnlySales policyFor provider.twin) (entityType : String) (localId : Option String)
    {key : String} (hkey : key ∉ saleProperties) :
    (provider.propertiesFor entityType localId).get? key = none := by
  unfold FactsProvider.propertiesFor
  split
  · rfl
  · rfl
  · dsimp only
    rw [Dict.get?_ofItems, Option.map_eq_none_iff, List.getLast?_eq_none_iff,
      List.filter_eq_nil_iff]
    rintro ⟨name, value⟩ hmem hname
    obtain ⟨item, hitem, heq⟩ := List.mem_map.mp hmem
    have hsale := propertyName_of_onlySales h (List.mem_filter.mp hitem).1
    have hitemname : item.propertyName = key :=
      (congrArg Prod.fst heq).trans (of_decide_eq_true hname)
    exact hkey (hitemname ▸ hsale)

theorem onlySales_empty (policyFor : Twin.SourcePolicyResolver) : OnlySales policyFor .empty :=
  ⟨Twin.covered_empty policyFor _, fun o ho => (Twin.ObservationLog.not_recorded_empty o ho).elim⟩

/-- The specifications of a sale without facts. -/
theorem names_saleSpecs {event : Event} (htype : event.type = .sale)
    (hfacts : ∀ field ∈ factFields, Value.get event.payload field = .none) {storeId : String}
    {specs : List Twin.ObservationSpec} (hspecs : Twin.eventSpecs event storeId = .ok specs) :
    ∀ spec ∈ specs, spec.propertyName ∈ saleProperties := by
  have hprice : Value.get event.payload "catalog_price_cents" = .none :=
    hfacts _ (by simp [factFields])
  have hcategory : Value.get event.payload "category" = .none := hfacts _ (by simp [factFields])
  intro spec hspec
  unfold Twin.eventSpecs at hspecs
  rw [htype] at hspecs
  dsimp only at hspecs
  rw [hprice, hcategory] at hspecs
  cases hspecs
  obtain ⟨row, hrow, hsome⟩ := List.mem_filterMap.mp hspec
  have hname : row.2.1 ≠ .none ∧ spec.propertyName = row.1 := by
    split at hsome
    · cases hsome
    · cases hsome
      exact ⟨‹_›, rfl⟩
  rw [hname.2]
  simp only [List.mem_cons, List.not_mem_nil, or_false] at hrow
  rcases hrow with hrow | hrow | hrow | hrow
  · rw [hrow]
    exact List.mem_cons_self
  · rw [hrow]
    exact List.mem_cons_of_mem _ List.mem_cons_self
  · exact (hname.1 (by rw [hrow])).elim
  · exact (hname.1 (by rw [hrow])).elim

/-- A sale without facts reports nothing but itself. -/
theorem OnlySales.project {svc : Twin.TwinService} {twin : Twin.TwinStore}
    (h : OnlySales svc.policyFor twin) (now : Timestamp) {event : Event} (htype : event.type = .sale)
    (hdomain : event.dataDomain = .operationalTwin)
    (hfacts : ∀ field ∈ factFields, Value.get event.payload field = .none) :
    OnlySales svc.policyFor ((Twin.projectEvent svc now event).run twin).1 := by
  have hplay : ((Twin.projectEvent svc now event).run twin).1 =
      ((Twin.playAll svc.policyFor
        ((Twin.eventScript svc event).calls.map fun c => (now, c))).run twin).1 := by
    rw [Twin.run_projectEvent, Twin.run_playAll]
  refine ⟨?_, fun o ho => ?_⟩
  · rw [hplay]
    exact Twin.covered_playAll h.covered _
  · unfold Twin.TwinStore.Recorded at ho
    rw [log_projectEvent] at ho
    rcases Twin.ObservationLog.mem_of_recorded_offerAll ho with hoffer | hold
    · by_cases hread : ∃ storeId specs, Twin.storeIdOf event.payload = some storeId ∧
          (Twin.eventStoreEntity event storeId).violation = none ∧
          Twin.eventSpecs event storeId = .ok specs
      · obtain ⟨storeId, specs, hstore, hentity, hspecs⟩ := hread
        rw [eventOffers_of_specs hdomain hstore hentity hspecs] at hoffer
        obtain ⟨spec, hspec, hname⟩ := property_of_specsScript hoffer
        exact hname ▸ names_saleSpecs htype hfacts hspecs spec hspec
      · rw [eventOffers_of_refused svc fun storeId specs hstore hentity hspecs =>
          hread ⟨storeId, specs, hstore, hentity, hspecs⟩] at hoffer
        cases hoffer
    · exact h.names o hold

section

variable {provider : FactsProvider} {policyFor : Twin.SourcePolicyResolver}

/-- Without facts in the payload, the catalog and the twin there is no category. -/
theorem values_of_onlySales (h : OnlySales policyFor provider.twin)
    (hfacts : ∀ field ∈ factFields, Value.get provider.event.payload field = .none)
    (hcatalog : provider.listProducts = fun _ => []) (sku : String) :
    ∃ v, provider.values sku = .ok v ∧ v.category = none := by
  have hprops : ∀ key ∉ saleProperties,
      FactsProvider.property (provider.propertiesFor "product" (some sku)) key = .none := by
    intro key hkey
    rw [FactsProvider.property, property_of_onlySales h _ _ hkey]
    rfl
  have hsub : ∀ fields : List String, fields ⊆ factFields → ∀ field ∈ fields,
      Value.get provider.event.payload field = .none :=
    fun fields hfields field hfield => hfacts field (hfields hfield)
  have hproduct : provider.productForSku sku = [] := by
    rw [FactsProvider.productForSku, hcatalog]
    rfl
  have hprice : (provider.propertiesFor "product" (some sku)).get? "catalog.unit_price_minor_units" =
      none := property_of_onlySales h _ _ (by simp [saleProperties])
  unfold FactsProvider.values
  dsimp only
  rw [firstNumber_none (hsub ["on_hand", "units_on_hand"] (by simp [factFields])),
    firstNumber_none (hsub ["reorder_point"] (by simp [factFields])),
    firstNumber_none (hsub ["days_to_expiry"] (by simp [factFields])),
    moneyFromFields_none (hsub (["unit_cost", "catalog_unit_cost"] ++
      ["unit_cost_cents", "unit_cost_minor_units"]) (by simp [factFields])),
    moneyFromFields_none (hsub (["catalog_unit_price"] ++
      ["catalog_price_cents", "catalog_unit_price_minor_units"]) (by simp [factFields])),
    hprops "inventory.on_hand" (by simp [saleProperties]),
    hprops "inventory.reorder_point" (by simp [saleProperties]),
    hprops "expiry.days_to_expiry" (by simp [saleProperties]),
    hprops "catalog.unit_cost_minor_units" (by simp [saleProperties]), hprice,
    hprops "sales.catalog_price_cents" (by simp [saleProperties]), hproduct,
    firstText_none (hsub ["category"] (by simp [factFields])),
    hprops "catalog.category" (by simp [saleProperties])]
  cases provider.inventoryQuantity sku with
  | none => exact ⟨_, rfl, rfl⟩
  | some n => exact ⟨_, rfl, rfl⟩

variable (provider) in
/-- **A sale without facts.** Where nothing but sales has been reported and the catalog is empty, the
sales cascade answers with what is missing. -/
theorem scenarioFacts_missing (h : OnlySales policyFor provider.twin)
    (hfacts : ∀ field ∈ factFields, Value.get provider.event.payload field = .none)
    (hcatalog : provider.listProducts = fun _ => []) :
    ∃ missing, provider.scenarioFacts = .error (.missingOperationalFacts missing) := by
  unfold FactsProvider.scenarioFacts
  cases hsku : provider.heroSku with
  | error e =>
    refine ⟨["sku"], ?_⟩
    unfold FactsProvider.heroSku at hsku
    rw [hcatalog] at hsku
    split at hsku
    · cases hsku
    · cases hsku
      rfl
  | ok sku =>
    obtain ⟨v, hvalues, hcategory⟩ := values_of_onlySales h hfacts hcatalog sku
    have hscenario : v.scenario sku = none := by
      unfold FactsProvider.Values.scenario
      rw [hcategory]
      cases v.productName <;> rfl
    refine ⟨v.missing, ?_⟩
    change (orRaised (provider.values sku) >>= _) = _
    rw [hvalues]
    change (match v.scenario sku with
      | some facts => Except.ok facts
      | none => Except.error (CascadeError.missingOperationalFacts v.missing)) = _
    rw [hscenario]

end

end ShelfWise.Cascade
