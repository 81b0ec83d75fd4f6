import ShelfWise.Inventory.Soundness
import ShelfWise.Twin.Origins

/-!
# One event, two projections

`record_pipeline_event` hands an event to the inventory store and to the twin service. Both read the
quantity and the place of a sale or a stock update from the same payload, each by its own aliases:
the ledger takes `on_hand` before `quantity` for either type and knows `location_id` and `location`
only, the twin takes `units` before `quantity` for a sale and looks for `store_id` and `site_id`
first.

`LedgerTakes` and `Observes` say which events each of them accepts, field by field, and
`ledgerUse_iff` and `twinUse_iff` what it then takes from them. The projections agree when the two
readings are one (`projections_agree_iff`).
-/

namespace ShelfWise.Ingest

open Py Sys

/-! ## What a projection takes -/

/-- The place and the quantity a projection takes from an event. -/
@[ext] structure Use where
  location : String
  quantity : ℤ
deriving DecidableEq

/-- What `project_event` of the inventory store takes: the location and the requested quantity of
the receipt, unless the receipt is a duplicate or names an issue. -/
def ledgerUse (now : String) (s : Inventory.Store) (event : Event) : Option Use :=
  (Inventory.Answer.projected (s.projectEvent now event.toDict).2).appliedReceipt.bind fun r =>
    r.requestedQuantity.map fun quantity => ⟨r.locationId, quantity⟩

/-- The property under which the twin keeps the quantity of an event. -/
def quantityProperty : EventType → String
  | .sale => "sales.units"
  | _ => "inventory.on_hand"

/-- The observations of one log that another does not have. -/
def newlyRecorded (before after : Twin.ObservationLog) : List Twin.TwinObservation :=
  (after.observations.entries.map Prod.snd).filter fun o => !before.observations.contains o.key

/-- What `project_event` of the twin service takes: the store and the value of the observation of
the quantity, if it records one. -/
def twinUse (svc : Twin.TwinService) (now : Timestamp) (t : Twin.TwinStore) (event : Event) :
    Option Use :=
  ((newlyRecorded t.log ((Twin.projectEvent svc now event).run t).1.log).find? fun o =>
      o.propertyName = quantityProperty event.type).bind fun o =>
    (Inventory.integralQuantity o.value).map fun quantity => ⟨o.storeId, quantity⟩

/-! ## The ledger's reading -/

/-- The SKU as the ledger reads it. -/
def ledgerSku (event : Event) : String :=
  strip ((Value.get event.payload "sku").orElse (.str "")).toText

/-- The location as the ledger reads it. -/
def ledgerLocation (event : Event) : String :=
  strip (((Value.get event.payload "location_id").orElse (Value.get event.payload "location")).orElse
    (.str "")).toText

/-- The quantity as the ledger reads it, of either type of event. -/
def ledgerQuantity (event : Event) : Value :=
  Value.getD event.payload "on_hand" (Value.get event.payload "quantity")

/-- The location type of a stock update. -/
def ledgerLocationType (event : Event) : String :=
  strip ((Value.get event.payload "location_type").orElse (.str "store")).toText

/-- The bin of a stock update. -/
def ledgerBin (event : Event) : String :=
  strip ((Value.get event.payload "bin_id").orElse (.str "unassigned")).toText

/-- The stock state of a stock update. -/
def ledgerStockState (event : Event) : String :=
  strip ((Value.get event.payload "stock_state").orElse (.str "available")).toText

/-- An operational sale or stock update. -/
structure Projectable (event : Event) : Prop where
  operational : event.dataDomain = .operationalTwin
  type : event.type = .sale ∨ event.type = .stockUpdate

/-- An operational sale or stock update whose quantities are integral where they are given. -/
structure Countable (event : Event) : Prop extends Projectable event where
  integral : ∀ field ∈ ["on_hand", "quantity", "units"], Value.get event.payload field ≠ .none →
    (Inventory.integralQuantity (Value.get event.payload field)).isSome = true

/-- The ledger applies the event: its names are not blank, its quantity fits its type, a stock
update names its location type and state, and there is no receipt for it. -/
structure LedgerTakes (s : Inventory.Store) (event : Event) : Prop where
  tenantId : strip event.tenantId ≠ ""
  eventId : strip event.id ≠ ""
  sku : ledgerSku event ≠ ""
  location : ledgerLocation event ≠ ""
  quantity : ∃ n, Inventory.integralQuantity (ledgerQuantity event) = some n ∧ 0 ≤ n ∧
    (event.type = .sale → 0 < n)
  stock : event.type = .stockUpdate → ledgerLocationType event ≠ "" ∧ ledgerStockState event ≠ ""
  unseen : s.projectionReceipts.get? (strip event.tenantId, strip event.id) = none

/-- The type of the event, as the ledger names it. -/
def ledgerType (event : Event) : Inventory.EventType :=
  if event.type = .sale then .sale else .stockUpdate

theorem ledgerType_sale_iff (event : Event) : ledgerType event = .sale ↔ event.type = .sale := by
  unfold ledgerType
  split <;> simp_all

/-- What the projection of the ledger reads from an event. -/
structure ReadsEvent (event : Event) (p : Inventory.Projection) : Prop where
  tenantId : p.tenantId = strip event.tenantId
  eventId : p.eventId = strip event.id
  eventType : p.eventType = ledgerType event
  sku : p.sku = ledgerSku event
  locationId : p.locationId = ledgerLocation event
  locationType : p.locationType = ledgerLocationType event
  binId : p.binId = ledgerBin event
  quantity : p.quantity = Inventory.integralQuantity (ledgerQuantity event)
  stockState : p.stockState = ledgerStockState event

variable {event : Event}

theorem projectedType_of_projectable (h : Projectable event) :
    Inventory.projectedType event.toDict = some (ledgerType event) := by
  have hdomain : Value.get event.toDict "data_domain" = .str "operational_twin" :=
    congrArg (fun d : DataDomain => Value.str d.value) h.operational
  have htype : Value.get event.toDict "type" = .str event.type.value := rfl
  unfold Inventory.projectedType ledgerType
  rw [hdomain, htype]
  rcases h.type with hsale | hstock
  · rw [hsale]
    decide +kernel
  · rw [hstock]
    decide +kernel

theorem readsEvent (h : Projectable event) :
    ∃ p, Inventory.projectionInput event.toDict = some p ∧ ReadsEvent event p := by
  have hid : ((Value.get event.toDict "id").orElse (.str "")).toText = event.id :=
    Inventory.toText_orElse_empty event.id
  have htenant : ((Value.get event.toDict "tenant_id").orElse (.str "")).toText = event.tenantId :=
    Inventory.toText_orElse_empty event.tenantId
  refine ⟨_, by rw [Inventory.projectionInput, projectedType_of_projectable h]; rfl, ?_⟩
  exact ⟨congrArg strip htenant, congrArg strip hid, rfl, rfl, rfl, rfl, rfl, rfl, rfl⟩

/-! ## What the ledger takes -/

variable {n : ℤ}

/-- The issue of an event is none when its quantity fits its type and its fields are not blank. -/
theorem projectionIssue_of_fits {eventType : Inventory.EventType} {fields : List String}
    (hnonneg : 0 ≤ n) (hpositive : eventType = .sale → 0 < n) (hfields : ∀ s ∈ fields, s ≠ "") :
    Inventory.projectionIssue eventType fields (some n) = none := by
  have hsale : ¬ (eventType = .sale ∧ n ≤ 0) := fun h => absurd (hpositive h.1) (not_lt.mpr h.2)
  have hstock : ¬ (eventType = .stockUpdate ∧ n < 0) := fun h => absurd h.2 (not_lt.mpr hnonneg)
  have hall : fields.all (· ≠ "") = true := by simpa using hfields
  unfold Inventory.projectionIssue
  dsimp only
  rw [if_neg hsale, if_neg hstock, if_pos hall]

variable {p : Inventory.Projection}

/-- `_position` accepts the fields of a stock update when its location type and state are not
blank. -/
theorem position_stockFields_iff (now : String) (hp : Inventory.Accepted p n)
    (htype : Stripped p.locationType) (hstate : Stripped p.stockState) :
    (∃ new, Inventory.position now (Inventory.stockFields p n) = .ok new) ↔
      p.locationType ≠ "" ∧ p.stockState ≠ "" := by
  have hget : Value.get (Inventory.stockFields p n) "location_type" = .str p.locationType ∧
      Value.get (Inventory.stockFields p n) "state" = .str p.stockState := ⟨rfl, rfl⟩
  constructor
  · rintro ⟨new, hnew⟩
    have hf := Inventory.position_inv hnew
    have htext := Inventory.requiredField_inv hf.locationType
    have hstext := Inventory.requiredField_inv hf.state
    rw [hget.1, Inventory.toText_orElse_empty] at htext
    rw [hget.2, Inventory.toText_orElse_empty] at hstext
    refine ⟨fun hempty => new.locationType.2.2 ?_, fun hempty => new.state.2.2 ?_⟩
    · rw [htext, hempty]
      decide +kernel
    · rw [hstext, hempty]
      decide +kernel
  · rintro ⟨htypene, hstatene⟩
    let new : Inventory.Position :=
      { tenantId := ⟨p.tenantId, hp.tenantId⟩
        sku := ⟨p.sku, hp.sku⟩
        locationType := ⟨p.locationType, htype, htypene⟩
        locationId := ⟨p.locationId, hp.locationId⟩
        binId := strip ((Value.str p.binId).orElse (.str "unassigned")).toText
        quantity := n
        quantity_nonneg := hp.nonneg
        state := ⟨p.stockState, hstate, hstatene⟩
        sourceReference := ⟨p.eventId, hp.eventId⟩
        updatedAt := now }
    exact ⟨new, Inventory.position_of_fields
      { tenantId := Inventory.requiredField_eq rfl
        sku := Inventory.requiredField_eq rfl
        locationType := Inventory.requiredField_eq rfl
        locationId := Inventory.requiredField_eq rfl
        state := Inventory.requiredField_eq rfl
        sourceReference := Inventory.requiredField_eq rfl
        binId := rfl
        quantity := Inventory.toInt_orElse_int n
        updatedAt := rfl }⟩

/-- An accepted event is applied, but for a stock update without a location type or state. -/
theorem applyProjection_applied_iff (now : String) {positions : Inventory.Positions}
    (hkeyed : Inventory.Keyed positions) (hp : Inventory.Accepted p n)
    (htype : Stripped p.locationType) (hstate : Stripped p.stockState) :
    (∃ after r, Inventory.applyProjection now positions p = (after, .ok r)) ↔
      (p.eventType = .stockUpdate → p.locationType ≠ "" ∧ p.stockState ≠ "") := by
  unfold Inventory.applyProjection
  rw [hp.issue, hp.quantity_eq]
  simp only [Inventory.sum_matchingKeys]
  cases hevent : p.eventType with
  | sale =>
    obtain ⟨after, r, hrun, -⟩ := Inventory.applySaleProjection_spec now hkeyed hp
    exact ⟨fun _ => nofun, fun _ => ⟨after, r, hrun⟩⟩
  | stockUpdate =>
    rw [← position_stockFields_iff now hp htype hstate]
    simp only [Inventory.applyStockProjection, forall_const]
    cases hnew : Inventory.position now (Inventory.stockFields p n) with
    | error e => simp
    | ok new => simp

theorem stripped_readsEvent (h : ReadsEvent event p) :
    Stripped p.locationType ∧ Stripped p.stockState := by
  rw [h.locationType, h.stockState]
  exact ⟨stripped_strip _, stripped_strip _⟩

theorem issue_none_of_takes {s : Inventory.Store} (h : ReadsEvent event p)
    (htakes : LedgerTakes s event) : p.issue = none := by
  obtain ⟨n, hn, hnonneg, hpositive⟩ := htakes.quantity
  rw [p.issue_eq, h.quantity, hn]
  refine projectionIssue_of_fits hnonneg (fun hsale => hpositive ?_) fun field hfield => ?_
  · exact (ledgerType_sale_iff event).mp (h.eventType ▸ hsale)
  · rw [h.tenantId, h.eventId, h.sku, h.locationId] at hfield
    simp only [List.mem_cons, List.not_mem_nil, or_false] at hfield
    rcases hfield with rfl | rfl | rfl | rfl
    · exact htakes.tenantId
    · exact htakes.eventId
    · exact htakes.sku
    · exact htakes.location

theorem stock_readsEvent_iff (hcount : Projectable event) (h : ReadsEvent event p) :
    (p.eventType = .stockUpdate → p.locationType ≠ "" ∧ p.stockState ≠ "") ↔
      (event.type = .stockUpdate →
        ledgerLocationType event ≠ "" ∧ ledgerStockState event ≠ "") := by
  rw [h.eventType, h.locationType, h.stockState]
  unfold ledgerType
  rcases hcount.type with hsale | hstock
  · simp [hsale]
  · simp [hstock]

theorem takes_of_accepted {s : Inventory.Store} (h : ReadsEvent event p)
    (hp : Inventory.Accepted p n)
    (hunseen : s.projectionReceipts.get? (strip event.tenantId, strip event.id) = none)
    (hstock : event.type = .stockUpdate → ledgerLocationType event ≠ "" ∧ ledgerStockState event ≠ "") :
    LedgerTakes s event where
  tenantId := h.tenantId ▸ hp.tenantId.2
  eventId := h.eventId ▸ hp.eventId.2
  sku := h.sku ▸ hp.sku.2
  location := h.locationId ▸ hp.locationId.2
  quantity := ⟨n, h.quantity ▸ hp.quantity_eq, hp.nonneg, fun hsale =>
    hp.positive (h.eventType.trans ((ledgerType_sale_iff event).mpr hsale))⟩
  stock := hstock
  unseen := hunseen

/-- What a `project_event` call comes to: the event is applied, with a receipt of what was read, or
it leaves the positions as they are and reports no application. -/
theorem projectEvent_reads {s : Inventory.Store} (hkeyed : Inventory.Keyed s.positions)
    (now : String) (h : Projectable event) :
    (LedgerTakes s event ∧ ∃ p n after r, ReadsEvent event p ∧ Inventory.Accepted p n ∧
        Inventory.applyProjection now s.positions p = (after, .ok r) ∧
        Inventory.Applied p s.positions after r ∧
        (s.projectEvent now event.toDict).1.positions = after ∧
        (s.projectEvent now event.toDict).2 = .ok (.receipt r)) ∨
      ¬ LedgerTakes s event ∧ (s.projectEvent now event.toDict).1.positions = s.positions ∧
        (Inventory.Answer.projected (s.projectEvent now event.toDict).2).appliedReceipt = none := by
  obtain ⟨p, hp, hreads⟩ := readsEvent h
  have hstripped := stripped_readsEvent hreads
  have hkey : (p.tenantId, p.eventId) = (strip event.tenantId, strip event.id) :=
    Prod.ext hreads.tenantId hreads.eventId
  unfold Inventory.Store.projectEvent
  rw [hp]
  dsimp only
  rw [hkey]
  cases hreceipt : s.projectionReceipts.get? (strip event.tenantId, strip event.id) with
  | some r =>
    -- a duplicate
    refine .inr ⟨fun htakes => ?_, rfl, by simp [Inventory.Answer.appliedReceipt]⟩
    rw [htakes.unseen] at hreceipt
    cases hreceipt
  | none =>
    dsimp only
    cases hissue : p.issue with
    | some issue =>
      rw [Inventory.applyProjection_issue hissue]
      refine .inr ⟨fun htakes => ?_, rfl, ?_⟩
      · rw [issue_none_of_takes hreads htakes] at hissue
        cases hissue
      · simp [Inventory.Answer.appliedReceipt, Inventory.projectionReceipt,
          Inventory.Status.isIssue]
    | none =>
      obtain ⟨n, haccepted⟩ := Inventory.accepted_of_projectionInput hp hissue
      have happlied := applyProjection_applied_iff now hkeyed haccepted hstripped.1 hstripped.2
      rw [stock_readsEvent_iff h hreads] at happlied
      rcases Inventory.applyProjection_spec now hkeyed haccepted with
        ⟨e, hrun⟩ | ⟨after, r, hrun, ha⟩
      · -- a stock update that `_position` refuses
        rw [hrun]
        refine .inr ⟨fun htakes => ?_, rfl, by simp [Inventory.Answer.appliedReceipt]⟩
        obtain ⟨after, r, hok⟩ := happlied.mpr htakes.stock
        rw [hrun] at hok
        cases hok
      · have htakes := takes_of_accepted hreads haccepted hreceipt (happlied.mp ⟨after, r, hrun⟩)
        refine .inl ⟨htakes, p, n, after, r, hreads, haccepted, hrun, ha, ?_⟩
        rw [hrun]
        exact ⟨rfl, rfl⟩

/-- **The ledger's reading.** What the ledger takes from an event it applies is the location and the
quantity it reads; from any other event it takes nothing. -/
theorem ledgerUse_iff {s : Inventory.Store} (hkeyed : Inventory.Keyed s.positions) (now : String)
    (h : Projectable event) (use : Use) :
    ledgerUse now s event = some use ↔ LedgerTakes s event ∧ use.location = ledgerLocation event ∧
      Inventory.integralQuantity (ledgerQuantity event) = some use.quantity := by
  unfold ledgerUse
  rcases projectEvent_reads hkeyed now h with
    ⟨htakes, p, n, after, r, hreads, haccepted, -, ha, -, hanswer⟩ | ⟨hnot, -, hnone⟩
  · have huse : (Inventory.Answer.projected (.ok (.receipt r))).appliedReceipt = some r := by
      simp only [Inventory.Answer.appliedReceipt, ha.status, or_self, if_false,
        Bool.false_eq_true]
    rw [hanswer, huse, Option.bind_some, ha.receiptFor.requestedQuantity, haccepted.quantity_eq,
      Option.map_some, ha.receiptFor.locationId, hreads.locationId, Option.some.injEq,
      ← hreads.quantity, haccepted.quantity_eq, Option.some.injEq]
    constructor
    · rintro rfl
      exact ⟨htakes, rfl, rfl⟩
    · rintro ⟨-, hlocation, hquantity⟩
      exact Use.ext hlocation.symm hquantity
  · rw [hnone]
    exact iff_of_false (fun h => by cases h) fun htakes => hnot htakes.1

/-! ## The twin's reading -/

/-- The quantity as the twin reads it: the units of a sale, the stock of a stock update. -/
def twinQuantity (event : Event) : Value :=
  if event.type = .sale then Value.getD event.payload "units" (Value.get event.payload "quantity")
  else Value.getD event.payload "on_hand" (Value.get event.payload "quantity")

/-- The specification of the quantity of an event. -/
def quantitySpec (event : Event) (storeId : String) : Twin.ObservationSpec :=
  let sku := Twin.text (Value.get event.payload "sku")
  let subjectId := ((sku <|> Twin.text (Value.get event.payload "asset_id")) <|>
    Twin.text (Value.get event.payload "supplier")).getD storeId
  { twinId := (sku.map (Twin.urn event.tenantId storeId "product")).getD
      (Twin.urn event.tenantId storeId "asset" subjectId)
    entityType := "product"
    displayName := (Twin.text (Value.get event.payload "product")).getD ("Entity " ++ subjectId)
    propertyName := quantityProperty event.type
    value := twinQuantity event
    unit := some "units" }

/-- The prices of a stock update are read before anything is recorded. -/
def PricesRead (event : Event) : Prop :=
  event.type = .stockUpdate →
    (Twin.moneyMinorUnits (Value.get event.payload "unit_cost") (Value.getD event.payload
      "unit_cost_cents" (Value.get event.payload "unit_cost_minor_units"))).isOk = true ∧
    (Twin.moneyMinorUnits (Value.get event.payload "unit_price") (Value.getD event.payload
      "catalog_price_cents" (Value.get event.payload "unit_price_minor_units"))).isOk = true

/-- The twin offers the observation of the quantity: the event names a store and gives a quantity,
and the records on the way to the observation pass their checks. -/
structure Observes (svc : Twin.TwinService) (event : Event) (storeId : String)
    (o : Twin.TwinObservation) : Prop where
  store : Twin.storeIdOf event.payload = some storeId
  storeEntity : (Twin.eventStoreEntity event storeId).violation = none
  prices : PricesRead event
  present : twinQuantity event ≠ .none
  entity : (Twin.eventSpecEntity event storeId (quantitySpec event storeId)).violation = none
  link : (Twin.linkOf event.tenantId (Twin.eventStoreEntity event storeId).twinId
    (Twin.eventSpecEntity event storeId (quantitySpec event storeId)).twinId
    event.ts).violation = none
  observation : Twin.observationForSpec svc event (quantitySpec event storeId)
    (Twin.eventSpecEntity event storeId (quantitySpec event storeId)).twinId storeId = .ok o

/-- The twin records the quantity: it offers the observation, and has not seen it. -/
def TwinTakes (svc : Twin.TwinService) (t : Twin.TwinStore) (event : Event) : Prop :=
  ∃ storeId o, Observes svc event storeId o ∧ t.log.refuses o = false

/-! ## What the twin takes -/

variable {o : Twin.TwinObservation}

theorem mem_newlyRecorded {before after : Twin.ObservationLog} :
    o ∈ newlyRecorded before after ↔
      after.Recorded o ∧ before.observations.contains o.key = false := by
  unfold newlyRecorded Twin.ObservationLog.Recorded
  simp only [List.mem_filter, List.mem_map, Prod.exists, exists_eq_right, Dict.mem_entries_iff,
    Bool.not_eq_true']
  refine and_congr_left fun _ => ⟨fun h => ?_, fun hget => ⟨_, _, hget⟩⟩
  obtain ⟨tenantId, id, hget⟩ := h
  rw [after.keyed (tenantId, id) o hget] at hget
  exact hget

variable {svc : Twin.TwinService}

variable {storeId storeTwinId : String} {specs : List Twin.ObservationSpec}

/-- The observations of a script over specifications are of their properties. -/
theorem property_of_specsScript
    (ho : o ∈ (Twin.specsScript svc event storeId storeTwinId specs).calls.filterMap Twin.TwinCall.observation) :
    ∃ spec ∈ specs, o.propertyName = spec.propertyName := by
  have hsub := Twin.origins_specsScript svc event storeId storeTwinId specs
  have hmem := hsub.subset (List.mem_map_of_mem ho)
  obtain ⟨spec, hspec, horigin⟩ := List.mem_map.mp hmem
  exact ⟨spec, hspec, (congrArg Prod.snd horigin).symm⟩

theorem presentSpecs_cons (twinId entityType displayName : String)
    (row : String × Value × Option String) (rows : List (String × Value × Option String)) :
    Twin.presentSpecs twinId entityType displayName (row :: rows) =
      if row.2.1 = .none then Twin.presentSpecs twinId entityType displayName rows
      else ⟨twinId, entityType, displayName, row.1, row.2.1, row.2.2⟩ ::
        Twin.presentSpecs twinId entityType displayName rows := by
  unfold Twin.presentSpecs
  rw [List.filterMap_cons]
  by_cases hnone : row.2.1 = .none
  · simp only [hnone, if_true]
  · simp only [hnone, if_false]

/-- The specifications of other rows name other properties. -/
theorem property_of_presentSpecs {twinId entityType displayName name : String}
    {rows : List (String × Value × Option String)} (h : name ∉ rows.map Prod.fst) :
    ∀ spec ∈ Twin.presentSpecs twinId entityType displayName rows, spec.propertyName ≠ name := by
  intro spec hspec hname
  exact h ((Twin.names_presentSpecs twinId entityType displayName rows).subset
    (hname ▸ List.mem_map_of_mem hspec))

/-- The specifications of a sale or a stock update: that of the quantity first, if there is one,
and others. -/
theorem eventSpecs_of_projectable (h : Projectable event) (storeId : String) :
    (PricesRead event ∧ ∃ rest : List Twin.ObservationSpec,
        (∀ spec ∈ rest, spec.propertyName ≠ quantityProperty event.type) ∧
        Twin.eventSpecs event storeId = .ok
          (if twinQuantity event = .none then rest else quantitySpec event storeId :: rest)) ∨
      ¬ PricesRead event ∧ ∃ e, Twin.eventSpecs event storeId = .error e := by
  unfold Twin.eventSpecs
  rcases h.type with hsale | hstock
  · have hname : quantityProperty .sale = "sales.units" := rfl
    have hvalue : twinQuantity event = Value.getD event.payload "units"
        (Value.get event.payload "quantity") := by rw [twinQuantity, if_pos hsale]
    have hprices : PricesRead event := fun hstock => by
      rw [hsale] at hstock
      cases hstock
    simp only [hsale, quantitySpec]
    rw [presentSpecs_cons, hname, hvalue]
    exact .inl ⟨hprices, _, property_of_presentSpecs (by simp), rfl⟩
  · have hname : quantityProperty .stockUpdate = "inventory.on_hand" := rfl
    have hvalue : twinQuantity event = Value.getD event.payload "on_hand"
        (Value.get event.payload "quantity") := by
      rw [twinQuantity, if_neg (by rw [hstock]; nofun)]
    simp only [hstock, quantitySpec, PricesRead, forall_const, hname, hvalue]
    cases Twin.moneyMinorUnits (Value.get event.payload "unit_cost") (Value.getD event.payload
        "unit_cost_cents" (Value.get event.payload "unit_cost_minor_units")) with
    | error e => exact .inr ⟨(fun hread => nomatch hread.1), e, rfl⟩
    | ok unitCost =>
      cases Twin.moneyMinorUnits (Value.get event.payload "unit_price") (Value.getD event.payload
          "catalog_price_cents" (Value.get event.payload "unit_price_minor_units")) with
      | error e => exact .inr ⟨(fun hread => nomatch hread.2), e, rfl⟩
      | ok unitPrice =>
        dsimp only
        rw [presentSpecs_cons]
        exact .inl ⟨⟨rfl, rfl⟩, _, property_of_presentSpecs (by simp), rfl⟩

variable {spec : Twin.ObservationSpec}

/-- What the script offers for a specification whose records pass their checks. -/
theorem offers_cons (hentity : (Twin.eventSpecEntity event storeId spec).violation = none)
    (hlink : (Twin.linkOf event.tenantId storeTwinId (Twin.eventSpecEntity event storeId spec).twinId event.ts).violation = none)
    (ho : Twin.observationForSpec svc event spec (Twin.eventSpecEntity event storeId spec).twinId storeId = .ok o)
    (rest : List Twin.ObservationSpec) :
    (Twin.specsScript svc event storeId storeTwinId (spec :: rest)).calls.filterMap
        Twin.TwinCall.observation =
      o :: (Twin.specsScript svc event storeId storeTwinId rest).calls.filterMap
        Twin.TwinCall.observation := by
  rw [Twin.specsScript, Twin.TwinEntity.validated, hentity]
  simp only [Twin.Script.needs, Twin.Script.cons, Twin.TwinRelationship.validated, hlink, ho,
    List.filterMap_cons, Twin.TwinCall.observation]

/-- The script offers nothing for a specification one of whose records is refused. -/
theorem offers_cons_of_refused (svc : Twin.TwinService) (event : Event)
    (storeId storeTwinId : String) (spec : Twin.ObservationSpec)
    (h : ∀ o, (Twin.eventSpecEntity event storeId spec).violation = none →
      (Twin.linkOf event.tenantId storeTwinId
        (Twin.eventSpecEntity event storeId spec).twinId event.ts).violation = none →
      Twin.observationForSpec svc event spec (Twin.eventSpecEntity event storeId spec).twinId
        storeId ≠ .ok o) (rest : List Twin.ObservationSpec) :
    (Twin.specsScript svc event storeId storeTwinId (spec :: rest)).calls.filterMap
      Twin.TwinCall.observation = [] := by
  rw [Twin.specsScript, Twin.TwinEntity.validated]
  cases hentity : (Twin.eventSpecEntity event storeId spec).violation with
  | some field => rfl
  | none =>
    simp only [Twin.Script.needs, Twin.Script.cons, Twin.TwinRelationship.validated]
    cases hlink : (Twin.linkOf event.tenantId storeTwinId
        (Twin.eventSpecEntity event storeId spec).twinId event.ts).violation with
    | some field => rfl
    | none =>
      cases ho : Twin.observationForSpec svc event spec
          (Twin.eventSpecEntity event storeId spec).twinId storeId with
      | error e => rfl
      | ok o => exact absurd ho (h o hentity hlink)

/-- What an event offers once its store entity is accepted and its specifications are read. -/
theorem eventOffers_of_specs (hdomain : event.dataDomain = .operationalTwin)
    (hstore : Twin.storeIdOf event.payload = some storeId)
    (hentity : (Twin.eventStoreEntity event storeId).violation = none)
    (hspecs : Twin.eventSpecs event storeId = .ok specs) :
    Twin.eventOffers svc event =
      (Twin.specsScript svc event storeId (Twin.eventStoreEntity event storeId).twinId
        specs).calls.filterMap Twin.TwinCall.observation := by
  unfold Twin.eventOffers Twin.eventScript
  rw [if_neg (not_not.mpr hdomain), hstore]
  simp only [Twin.Script.needs, Twin.Script.cons, Twin.TwinEntity.validated, hentity, hspecs,
    List.filterMap_cons, Twin.TwinCall.observation]

/-- An event offers nothing without a store, with a store entity that is refused, or with prices
that raise. -/
theorem eventOffers_of_refused (svc : Twin.TwinService)
    (h : ∀ storeId specs, Twin.storeIdOf event.payload = some storeId → (Twin.eventStoreEntity event storeId).violation = none → Twin.eventSpecs event storeId ≠ .ok specs) :
    Twin.eventOffers svc event = [] := by
  unfold Twin.eventOffers Twin.eventScript
  split
  · rfl
  · cases hstore : Twin.storeIdOf event.payload with
    | none => rfl
    | some storeId =>
      simp only [Twin.TwinEntity.validated]
      cases hentity : (Twin.eventStoreEntity event storeId).violation with
      | some field => rfl
      | none =>
        cases hspecs : Twin.eventSpecs event storeId with
        | error e => rfl
        | ok specs => exact absurd hspecs (h storeId specs hstore hentity)

variable {storeId' : String}

theorem observes_store (h : Observes svc event storeId o)
    (hstore : Twin.storeIdOf event.payload = some storeId') : storeId = storeId' := by
  have hboth := h.store.symm.trans hstore
  exact Option.some.inj hboth

theorem observes_unique {o o' : Twin.TwinObservation} (h : Observes svc event storeId o)
    (h' : Observes svc event storeId' o') : o = o' := by
  obtain rfl := observes_store h h'.store
  have hboth := h.observation.symm.trans h'.observation
  exact Except.ok.inj hboth

/-- The observation of the quantity is the first one an event offers; without it no other
observation is of that property. -/
theorem eventOffers_of_projectable (svc : Twin.TwinService) (h : Projectable event) :
    (∃ storeId o rest, Observes svc event storeId o ∧ Twin.eventOffers svc event = o :: rest ∧
        ∀ o' ∈ rest, o'.propertyName ≠ quantityProperty event.type) ∨
      (∀ storeId o, ¬ Observes svc event storeId o) ∧
        ∀ o' ∈ Twin.eventOffers svc event, o'.propertyName ≠ quantityProperty event.type := by
  by_cases hspecs : ∃ storeId specs, Twin.storeIdOf event.payload = some storeId ∧
      (Twin.eventStoreEntity event storeId).violation = none ∧
      Twin.eventSpecs event storeId = .ok specs
  · obtain ⟨storeId, specs, hstore, hentity, hspecs⟩ := hspecs
    rcases eventSpecs_of_projectable h storeId with ⟨hread, rest, hrest, hok⟩ | ⟨-, e, herror⟩
    · rw [eventOffers_of_specs h.operational hstore hentity hok]
      -- what is offered after the quantity
      have hother : ∀ o' ∈ (Twin.specsScript svc event storeId
          (Twin.eventStoreEntity event storeId).twinId rest).calls.filterMap
          Twin.TwinCall.observation, o'.propertyName ≠ quantityProperty event.type := by
        intro o' ho'
        obtain ⟨spec, hspec, hname⟩ := property_of_specsScript ho'
        rw [hname]
        exact hrest spec hspec
      by_cases hnone : twinQuantity event = .none
      · rw [if_pos hnone]
        exact .inr ⟨fun _ _ hobserves => hobserves.present hnone, hother⟩
      · rw [if_neg hnone]
        by_cases hobserves : ∃ o, Observes svc event storeId o
        · obtain ⟨o, hobserves⟩ := hobserves
          exact .inl ⟨storeId, o, _, hobserves,
            offers_cons hobserves.entity hobserves.link hobserves.observation rest, hother⟩
        · have hempty := offers_cons_of_refused svc event storeId
            (Twin.eventStoreEntity event storeId).twinId (quantitySpec event storeId)
            (fun o hspec hlink ho => hobserves
              ⟨o, hstore, hentity, hread, hnone, hspec, hlink, ho⟩) rest
          rw [hempty]
          refine .inr ⟨fun storeId' o ho => ?_, fun o' ho' => absurd ho' List.not_mem_nil⟩
          rw [observes_store ho hstore] at ho
          exact hobserves ⟨o, ho⟩
    · rw [hspecs] at herror
      cases herror
  · have hrefused := eventOffers_of_refused svc
      (fun storeId specs hstore hentity hok => hspecs ⟨storeId, specs, hstore, hentity, hok⟩)
    rw [hrefused]
    refine .inr ⟨fun storeId o ho => ?_, fun o' ho' => absurd ho' List.not_mem_nil⟩
    rcases eventSpecs_of_projectable h storeId with ⟨-, rest, -, hok⟩ | ⟨hread, -⟩
    · exact hspecs ⟨storeId, _, ho.store, ho.storeEntity, hok⟩
    · exact hread ho.prices

/-- The log after an event has been projected. -/
theorem log_projectEvent (svc : Twin.TwinService) (now : Timestamp) (event : Event)
    (t : Twin.TwinStore) :
    ((Twin.projectEvent svc now event).run t).1.log =
      t.log.offerAll (Twin.eventOffers svc event) := by
  have hplay : ((Twin.projectEvent svc now event).run t).1 =
      ((Twin.playAll svc.policyFor
        ((Twin.eventScript svc event).calls.map fun c => (now, c))).run t).1 := by
    rw [Twin.run_projectEvent, Twin.run_playAll]
  rw [hplay, Twin.log_playAll, Twin.offersOf, List.filterMap_map]
  rfl

/-- A newly recorded observation has been offered. -/
theorem offered_of_newlyRecorded {log : Twin.ObservationLog} {os : List Twin.TwinObservation}
    (h : o ∈ newlyRecorded log (log.offerAll os)) : o ∈ os := by
  obtain ⟨hrecorded, hnew⟩ := mem_newlyRecorded.mp h
  rcases Twin.ObservationLog.mem_of_recorded_offerAll hrecorded with hmem | hold
  · exact hmem
  · rw [(Dict.contains_iff _ _).mpr ⟨o, hold⟩] at hnew
    cases hnew

/-- The fields of the observation of a specification. -/
theorem fields_observationForSpec {twinId storeId : String}
    (h : Twin.observationForSpec svc event spec twinId storeId = .ok o) :
    o.propertyName = spec.propertyName ∧ o.value = spec.value ∧ o.storeId = storeId := by
  unfold Twin.observationForSpec at h
  split at h
  · cases h
  · rw [Twin.TwinObservation.eq_of_validated h]
    exact ⟨rfl, rfl, rfl⟩

theorem find?_eq_some_of_unique {α : Type} {p : α → Bool} {xs : List α} {x : α} (hx : x ∈ xs)
    (hp : p x = true) (hunique : ∀ y ∈ xs, p y = true → y = x) : xs.find? p = some x := by
  cases hfind : xs.find? p with
  | none =>
    have hnot := List.find?_eq_none.mp hfind x hx
    exact absurd hp hnot
  | some y =>
    rw [hunique y (List.mem_of_find?_eq_some hfind) (List.find?_some hfind)]

/-- **The twin's reading.** What the twin takes from an event whose quantity it records is the store
and the quantity it reads; from any other event it takes nothing. -/
theorem twinUse_iff (svc : Twin.TwinService) (now : Timestamp) (t : Twin.TwinStore)
    (h : Projectable event) (use : Use) :
    twinUse svc now t event = some use ↔ TwinTakes svc t event ∧
      Twin.storeIdOf event.payload = some use.location ∧
      Inventory.integralQuantity (twinQuantity event) = some use.quantity := by
  unfold twinUse
  rw [log_projectEvent]
  rcases eventOffers_of_projectable svc h with
    ⟨storeId, o, rest, hobserves, hoffers, hrest⟩ | ⟨hnone, hoffers⟩
  · obtain ⟨hname, hvalue, hstoreId⟩ := fields_observationForSpec hobserves.observation
    rw [hoffers, Twin.ObservationLog.offerAll_cons]
    cases hrefuses : t.log.refuses o with
    | true =>
      -- the observation is in the log already, and nothing else is of its property
      rw [Twin.ObservationLog.offer_of_refuses hrefuses, List.find?_eq_none.mpr
        fun o' ho' => by simpa using hrest o' (offered_of_newlyRecorded ho')]
      refine ⟨nofun, fun htakes => ?_⟩
      obtain ⟨⟨storeId', o', hobserves', hfresh⟩, -, -⟩ := htakes
      rw [observes_unique hobserves' hobserves, hrefuses] at hfresh
      cases hfresh
    | false =>
      have hmem : o ∈ newlyRecorded t.log ((t.log.offer o).offerAll rest) := by
        refine mem_newlyRecorded.mpr ⟨?_, ?_⟩
        · rw [Twin.ObservationLog.offer_of_fresh hrefuses]
          exact Twin.ObservationLog.Recorded.offerAll
            ((Twin.ObservationLog.recorded_insert_iff hrefuses o).mpr (.inl rfl)) rest
        · rw [Dict.contains_eq_false_iff]
          exact (Twin.ObservationLog.fresh_of_not_refuses hrefuses).1
      have hunique : ∀ o' ∈ newlyRecorded t.log ((t.log.offer o).offerAll rest),
          decide (o'.propertyName = quantityProperty event.type) = true → o' = o := by
        intro o' ho' hname'
        have hoffered : o' ∈ o :: rest := offered_of_newlyRecorded ho'
        rcases List.mem_cons.mp hoffered with rfl | hlater
        · rfl
        · exact absurd (of_decide_eq_true hname') (hrest o' hlater)
      rw [find?_eq_some_of_unique hmem (decide_eq_true hname) hunique, Option.bind_some, hvalue,
        hstoreId]
      change (Inventory.integralQuantity (twinQuantity event)).map _ = some use ↔ _
      rw [Option.map_eq_some_iff, hobserves.store, Option.some.injEq]
      constructor
      · rintro ⟨quantity, hquantity, rfl⟩
        exact ⟨⟨storeId, o, hobserves, hrefuses⟩, rfl, hquantity⟩
      · rintro ⟨-, rfl, hquantity⟩
        exact ⟨use.quantity, hquantity, rfl⟩
  · rw [List.find?_eq_none.mpr fun o' ho' => by
      simpa using hoffers o' (offered_of_newlyRecorded ho')]
    refine ⟨nofun, fun htakes => ?_⟩
    obtain ⟨⟨storeId, o, hobserves, -⟩, -, -⟩ := htakes
    exact absurd hobserves (hnone storeId o)

/-! ## Agreement -/

/-- A quantity the twin reads is integral. -/
theorem integral_twinQuantity (h : Countable event) (hpresent : twinQuantity event ≠ .none) :
    ∃ n, Inventory.integralQuantity (twinQuantity event) = some n := by
  -- both aliases of either type are among the quantities of the event
  have hread : ∀ field ∈ ["on_hand", "units"],
      Value.getD event.payload field (Value.get event.payload "quantity") ≠ .none →
      (Inventory.integralQuantity
        (Value.getD event.payload field (Value.get event.payload "quantity"))).isSome = true := by
    intro field hfield hne
    have hfields : field ∈ ["on_hand", "quantity", "units"] := by
      rcases List.mem_pair.mp hfield with rfl | rfl <;> simp
    cases hlookup : Dict.lookup field event.payload with
    | none =>
      have hdefault : Value.getD event.payload field (Value.get event.payload "quantity") =
          Value.get event.payload "quantity" := by rw [Value.getD, hlookup, Option.getD_none]
      rw [hdefault] at hne ⊢
      exact h.integral "quantity" (by simp) hne
    | some v =>
      have hvalue : Value.getD event.payload field (Value.get event.payload "quantity") =
          Value.get event.payload field := by
        simp only [Value.getD, Value.get, hlookup, Option.getD_some]
      rw [hvalue] at hne ⊢
      exact h.integral field hfields hne
  refine Option.isSome_iff_exists.mp ?_
  unfold twinQuantity at hpresent ⊢
  split at hpresent
  · rename_i hsale
    rw [if_pos hsale]
    exact hread "units" (by simp) hpresent
  · rename_i hsale
    rw [if_neg hsale]
    exact hread "on_hand" (by simp) hpresent

theorem ledgerUse_ne_none_iff {s : Inventory.Store} (hkeyed : Inventory.Keyed s.positions)
    (now : String) (h : Countable event) : ledgerUse now s event ≠ none ↔ LedgerTakes s event := by
  rw [Option.ne_none_iff_exists']
  constructor
  · rintro ⟨use, huse⟩
    exact ((ledgerUse_iff hkeyed now h.toProjectable use).mp huse).1
  · intro htakes
    obtain ⟨n, hn, -⟩ := htakes.quantity
    exact ⟨⟨ledgerLocation event, n⟩, (ledgerUse_iff hkeyed now h.toProjectable _).mpr ⟨htakes, rfl, hn⟩⟩

theorem twinUse_ne_none_iff (svc : Twin.TwinService) (now : Timestamp) (t : Twin.TwinStore)
    (h : Countable event) : twinUse svc now t event ≠ none ↔ TwinTakes svc t event := by
  rw [Option.ne_none_iff_exists']
  constructor
  · rintro ⟨use, huse⟩
    exact ((twinUse_iff svc now t h.toProjectable use).mp huse).1
  · intro htakes
    obtain ⟨storeId, o, hobserves, hfresh⟩ := htakes
    obtain ⟨n, hn⟩ := integral_twinQuantity h hobserves.present
    exact ⟨⟨storeId, n⟩, (twinUse_iff svc now t h.toProjectable _).mpr
      ⟨⟨storeId, o, hobserves, hfresh⟩, hobserves.store, hn⟩⟩

/-- In a store that calls have reached, each position stands under its own key. -/
theorem keyed_final (calls : List Inventory.Call) :
    Inventory.Keyed (final Inventory.Store.step .empty calls).positions :=
  invariant_final Inventory.keyed_step Inventory.keyed_empty calls

/-- **The projections of an event agree** when neither takes it, or both do and the location the
ledger reads is the store the twin reads and the quantities they read are one: for a sale, when
`units` and `on_hand`, each before `quantity`, say the same. -/
theorem projections_agree_iff (svc : Twin.TwinService) (calls : List Inventory.Call)
    (t : Twin.TwinStore) (now : String) (now' : Timestamp) (event : Event)
    (h : Countable event) :
    ledgerUse now (final Inventory.Store.step .empty calls) event = twinUse svc now' t event ↔
      (¬ LedgerTakes (final Inventory.Store.step .empty calls) event ∧ ¬ TwinTakes svc t event) ∨
      (LedgerTakes (final Inventory.Store.step .empty calls) event ∧ TwinTakes svc t event ∧
        Twin.storeIdOf event.payload = some (ledgerLocation event) ∧
        Inventory.integralQuantity (twinQuantity event) =
          Inventory.integralQuantity (ledgerQuantity event)) := by
  have hkeyed := keyed_final calls
  generalize final Inventory.Store.step .empty calls = s at hkeyed ⊢
  have hledger := ledgerUse_ne_none_iff hkeyed now h
  have htwin := twinUse_ne_none_iff svc now' t h
  constructor
  · intro hagree
    cases huse : ledgerUse now s event with
    | none =>
      refine .inl ⟨fun htakes => hledger.mpr htakes huse, fun htakes => ?_⟩
      exact htwin.mpr htakes (hagree ▸ huse)
    | some use =>
      obtain ⟨htakes, hlocation, hquantity⟩ := (ledgerUse_iff hkeyed now h.toProjectable use).mp huse
      obtain ⟨htakes', hstore, hquantity'⟩ := (twinUse_iff svc now' t h.toProjectable use).mp (hagree ▸ huse)
      exact .inr ⟨htakes, htakes', hlocation ▸ hstore, hquantity'.trans hquantity.symm⟩
  · rintro (⟨hnot, hnot'⟩ | ⟨htakes, htakes', hstore, hquantity⟩)
    · rw [not_not.mp (mt hledger.mp hnot), not_not.mp (mt htwin.mp hnot')]
    · obtain ⟨use, huse⟩ := Option.ne_none_iff_exists'.mp (hledger.mpr htakes)
      obtain ⟨-, hlocation, hread⟩ := (ledgerUse_iff hkeyed now h.toProjectable use).mp huse
      rw [huse, (twinUse_iff svc now' t h.toProjectable use).mpr
        ⟨htakes', hlocation ▸ hstore, hquantity.trans hread⟩]

/-- A sale of two units that leaves nine on hand. -/
def tillSale : Event where
  id := "evt_till_1"
  type := .sale
  ts := ⟨1000000, "2026-07-01T00:00:01+00:00"⟩
  actor := "scanner"
  payload := [("sku", .str "4011"), ("location", .str "store_a"), ("on_hand", .int 9),
    ("units", .int 2)]
  source := .posCsv
  tenantId := "tenant_a"
  dataDomain := .operationalTwin
  correlationId := "evt_till_1"
  causationId := none
  schemaVersion := "1"
  id_ne := by decide +kernel
  actor_ne := scanner_ne
  tenantId_ne := tenantA_ne
  correlationId_ne := by decide +kernel

theorem countable_tillSale : Countable tillSale where
  operational := rfl
  type := .inl rfl
  integral := by decide +kernel

/-- A sale without a quantity. -/
def emptySale : Event := { tillSale with payload := [("sku", .str "4011")] }

/-- Neither projection takes a sale without a quantity. -/
theorem projections_agree_empty :
    ledgerUse "" (final Inventory.Store.step .empty []) emptySale =
      twinUse Twin.defaultService tillSale.ts .empty emptySale := by
  refine (projections_agree_iff Twin.defaultService [] .empty "" tillSale.ts emptySale
    ⟨⟨rfl, .inl rfl⟩, by decide +kernel⟩).mpr (.inl ⟨fun htakes => ?_, fun htakes => ?_⟩)
  · obtain ⟨n, hn, -⟩ := htakes.quantity
    have hnone : Inventory.integralQuantity (ledgerQuantity emptySale) = none := by decide +kernel
    rw [hnone] at hn
    cases hn
  · obtain ⟨storeId, o, hobserves, -⟩ := htakes
    exact hobserves.present rfl

/-- The ledger takes away the nine that are left, the twin records the two that were sold. -/
theorem projections_disagree :
    ¬ ∀ (svc : Twin.TwinService) (calls : List Inventory.Call) (t : Twin.TwinStore) (now : String)
      (now' : Timestamp) (event : Event), Countable event →
      ledgerUse now (final Inventory.Store.step .empty calls) event = twinUse svc now' t event := by
  intro h
  have hagree := h Twin.defaultService [] .empty "" tillSale.ts tillSale countable_tillSale
  have hledger : ledgerUse "" (final Inventory.Store.step .empty []) tillSale =
      some ⟨"store_a", 9⟩ := by
    decide +kernel
  rw [hledger] at hagree
  obtain ⟨-, -, hquantity⟩ :=
    (twinUse_iff Twin.defaultService tillSale.ts .empty countable_tillSale.toProjectable _).mp hagree.symm
  have htwo : Inventory.integralQuantity (twinQuantity tillSale) = some 2 := by decide +kernel
  rw [htwo] at hquantity
  cases hquantity

end ShelfWise.Ingest
