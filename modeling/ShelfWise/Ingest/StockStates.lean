import ShelfWise.Connectors.Normalize
import ShelfWise.Ingest.Projections

/-!
# Stock states

A record of a stock state says how many units of a SKU at a location are on hand, reserved, damaged,
expired or in transit. `inventory_to_event` writes the state into the payload of a stock update, but
neither the key of the inventory position nor the name of the twin's property has a place for it: a
record of any state replaces the one quantity the ledger and the twin keep.

`stock_states_apart_iff` says for every sequence of valid records of one SKU at one location when both
stay at the quantity of the latest record of on-hand stock.
-/

namespace ShelfWise.Ingest

open Py Sys Connectors

/-! ## Records of a place -/

/-- A SKU at a location of a tenant. -/
structure StockPlace where
  tenantId : String
  sku : String
  locationId : String

/-- A valid record of the stock of a place: it reads back as an inventory state of it. -/
structure StockRecord (fromIso : String → Option Timestamp) (place : StockPlace) where
  record : InboundRecord
  inventory : InventoryState
  ok : record.validation.ok = true
  canonical : record.canonicalType = "inventory_state"
  reads : inventoryFromPayload fromIso record = .ok inventory
  tenantId : inventory.tenantId = place.tenantId
  sku : inventory.sku = place.sku
  locationId : inventory.locationId = place.locationId

/-- The ledger and the twin. -/
structure StockView where
  inventory : Inventory.Store
  twin : Twin.TwinStore

/-- The ledger and the twin as they are constructed. -/
def StockView.empty : StockView := ⟨.empty, .empty⟩

/-- The key of the position of a place. -/
def StockPlace.positionKey (place : StockPlace) : Inventory.PositionKey :=
  ⟨strip place.tenantId, strip place.sku, "store", strip place.locationId, "unassigned"⟩

/-- The key of the twin's property of a place. -/
def StockPlace.propertyKey (place : StockPlace) : Twin.PropertyKey :=
  let storeId := (Twin.text (.str place.locationId)).getD ""
  let local' := ((Twin.text (.str place.sku)).map (Twin.urn place.tenantId storeId "product")).getD
    (Twin.urn place.tenantId storeId "asset" storeId)
  Twin.propertyKey place.tenantId (Twin.urn place.tenantId storeId "product"
    (Twin.localIdOf local')) "inventory.on_hand" .reported none

/-- The quantity of the position of a place. -/
def StockView.ledgerQuantity (place : StockPlace) (w : StockView) : Option ℤ :=
  (w.inventory.positions.get? place.positionKey).map (·.quantity)

/-- The twin's `inventory.on_hand` of a place. -/
def StockView.twinQuantity (place : StockPlace) (w : StockView) : Option Value :=
  (w.twin.properties.get? place.propertyKey).map (·.value)

section Records

variable {fromIso : String → Option Timestamp} {place : StockPlace}

/-- The quantity of a record, as a text. -/
def StockRecord.text (r : StockRecord fromIso place) : Value := .str r.inventory.quantity.str

/-- The units of a record, if they are a whole number. -/
def StockRecord.units (r : StockRecord fromIso place) : Option ℤ := Inventory.integralQuantity r.text

/-- A record of on-hand stock. -/
def StockRecord.isOnHand (r : StockRecord fromIso place) : Bool :=
  decide (r.inventory.stockState = .onHand)

/-- `record_to_event` and both projections, with the clock of the call. -/
def projectRecord (svc : Twin.TwinService) (w : StockView)
    (call : Timestamp × StockRecord fromIso place) : StockView × Unit :=
  match recordToEvent fromIso call.2.record with
  | .ok (some event) =>
    (⟨(w.inventory.projectEvent call.1.isoformat event.toDict).1,
      ((Twin.projectEvent svc call.1 event).run w.twin).1⟩, ())
  | _ => (w, ())

/-- A step over the records of a place. -/
abbrev RecordStep (fromIso : String → Option Timestamp) (place : StockPlace) :=
  Step StockView (Timestamp × StockRecord fromIso place) Unit

/-- The latest record of on-hand stock. -/
def latestOnHand (history : List (RecordStep fromIso place)) : Option (StockRecord fromIso place) :=
  (history.reverse.find? fun step => step.input.2.isOnHand).map fun step => step.input.2

/-- The ledger and the twin are at the quantity of the latest record of on-hand stock; before the
first one they have no quantity. -/
structure AtLatestOnHand (history : List (RecordStep fromIso place)) (w : StockView) : Prop where
  ledger : (w.ledgerQuantity place).map some = (latestOnHand history).map StockRecord.units
  twin : w.twinQuantity place = (latestOnHand history).map StockRecord.text

/-- The ledger applies the event of a record. -/
def LedgerReplaces (w : StockView) (r : StockRecord fromIso place) : Prop :=
  ∃ event, recordToEvent fromIso r.record = .ok (some event) ∧ LedgerTakes w.inventory event

/-- The twin records the quantity of a record, and the ordering lets it replace the current one. -/
def TwinReplaces (svc : Twin.TwinService) (w : StockView) (r : StockRecord fromIso place) : Prop :=
  ∃ event storeId o, recordToEvent fromIso r.record = .ok (some event) ∧
    Observes svc event storeId o ∧ w.twin.log.refuses o = false ∧
    Twin.loses svc.policyFor (w.twin.properties.get? o.facts.key) o = false

/-- A record of on-hand stock replaces the quantity of the ledger and of the twin, and a record of
another state replaces neither; unless the quantity is already that of the record. -/
structure KeptApart (svc : Twin.TwinService) (step : RecordStep fromIso place) : Prop where
  onHand : step.input.2.isOnHand = true →
    (LedgerReplaces step.before step.input.2 ∨
      (step.before.ledgerQuantity place).map some = some step.input.2.units) ∧
    (TwinReplaces svc step.before step.input.2 ∨
      step.before.twinQuantity place = some step.input.2.text)
  other : step.input.2.isOnHand = false →
    (LedgerReplaces step.before step.input.2 →
      (step.before.ledgerQuantity place).map some = some step.input.2.units) ∧
    (TwinReplaces svc step.before step.input.2 →
      step.before.twinQuantity place = some step.input.2.text)

/-! ## The event of a record -/

/-- The event of a record of the place. -/
structure PlaceEvent (r : StockRecord fromIso place) (event : Event) : Prop where
  id : event.id = eventIdOf r.record
  type : event.type = .stockUpdate
  dataDomain : event.dataDomain = .operationalTwin
  tenantId : event.tenantId = place.tenantId
  payload : event.payload = stockPayload r.inventory r.record

variable {event : Event}

theorem eventOf_fields {record : InboundRecord} {type : EventType} {ts : Timestamp} {actor : String}
    {payload : List (String × Value)} (h : eventOf record type ts actor payload = .ok event) :
    event.id = eventIdOf record ∧ event.type = type ∧ event.dataDomain = .operationalTwin ∧ event.tenantId = record.tenantId ∧
      event.payload = payload := by
  unfold eventOf Event.build at h
  split at h
  · split at h
    · split at h
      · split at h
        · cases h
        · split at h
          · cases h
          · cases h
            exact ⟨rfl, rfl, rfl, rfl, rfl⟩
      · cases h
    · cases h
  · cases h

theorem tenantId_of_reads {record : InboundRecord} {inventory : InventoryState}
    (h : inventoryFromPayload fromIso record = .ok inventory) :
    inventory.tenantId = record.tenantId := by
  unfold inventoryFromPayload at h
  obtain ⟨sku, -, h⟩ := bind_eq_ok_iff.mp h
  obtain ⟨locationId, -, h⟩ := bind_eq_ok_iff.mp h
  split at h
  · cases h
  · obtain ⟨stockState, -, h⟩ := bind_eq_ok_iff.mp h
    obtain ⟨eventTime, -, h⟩ := bind_eq_ok_iff.mp h
    cases h
    rfl

variable {r : StockRecord fromIso place}

theorem placeEvent_of_record (h : recordToEvent fromIso r.record = .ok (some event)) :
    PlaceEvent r event := by
  unfold recordToEvent at h
  rw [if_neg (by rw [r.ok]; exact Bool.noConfusion), if_pos r.canonical, r.reads] at h
  cases hevent : inventoryToEvent r.inventory r.record with
  | error e =>
    simp only [bind, Except.bind, hevent] at h
    cases h
  | ok built =>
    simp only [bind, Except.bind, hevent] at h
    cases h
    obtain ⟨hid, htype, hdomain, htenant, hpayload⟩ := eventOf_fields hevent
    exact ⟨hid, htype, hdomain, by rw [htenant, ← tenantId_of_reads r.reads, r.tenantId], hpayload⟩

theorem PlaceEvent.projectable (h : PlaceEvent r event) :
    Projectable event := ⟨h.dataDomain, .inr h.type⟩

theorem PlaceEvent.ledgerQuantity (h : PlaceEvent r event) : ledgerQuantity event = r.text := by
  unfold Ingest.ledgerQuantity
  rw [h.payload]
  rfl

theorem PlaceEvent.twinQuantity (h : PlaceEvent r event) : twinQuantity event = r.text := by
  unfold Ingest.twinQuantity
  rw [if_neg (by rw [h.type]; nofun), h.payload]
  rfl

/-! ## The ledger on a record -/

theorem strip_store : strip "store" = "store" := by decide +kernel

theorem strip_unassigned : strip "unassigned" = "unassigned" := by decide +kernel

theorem unassigned_ne : "unassigned" ≠ "" := by decide

/-- The position a record is written to is that of the place. -/
theorem PlaceEvent.positionKey (h : PlaceEvent r event) :
    strip event.tenantId = place.positionKey.tenantId ∧ ledgerSku event = place.positionKey.sku ∧
      ledgerLocationType event = place.positionKey.locationType ∧
      ledgerLocation event = place.positionKey.locationId ∧
      ledgerBin event = place.positionKey.binId := by
  refine ⟨by rw [h.tenantId]; rfl, ?_, ?_, ?_, ?_⟩
  · have hsku : Value.get event.payload "sku" = .str place.sku := by
      rw [h.payload, ← r.sku]
      rfl
    unfold ledgerSku
    rw [hsku, Inventory.toText_orElse_empty]
    rfl
  · have htype : Value.get event.payload "location_type" = .none := by
      rw [h.payload]
      rfl
    unfold ledgerLocationType
    rw [htype]
    exact strip_store
  · have hlocation : (Value.get event.payload "location_id").orElse
        (Value.get event.payload "location") = (Value.str place.locationId).orElse .none := by
      rw [h.payload, ← r.locationId]
      rfl
    unfold ledgerLocation
    rw [hlocation]
    by_cases hempty : place.locationId = ""
    · unfold StockPlace.positionKey
      rw [hempty]
      rfl
    · rw [Inventory.orElse_str hempty, Inventory.toText_orElse_empty]
      rfl
  · have hbin : Value.get event.payload "bin_id" = .none := by
      rw [h.payload]
      rfl
    unfold ledgerBin
    rw [hbin]
    exact strip_unassigned

/-- The key of the position `_position` makes of the fields of a stock update. -/
theorem key_of_stockFields {now : String} {p : Inventory.Projection} {n : ℤ}
    {new : Inventory.Position}
    (h : Inventory.position now (Inventory.stockFields p n) = .ok new) :
    Inventory.key new = ⟨strip p.tenantId, strip p.sku, strip p.locationType, strip p.locationId,
      strip ((Value.str p.binId).orElse (.str "unassigned")).toText⟩ := by
  have hf := Inventory.position_inv h
  have htext : ∀ field text, Value.get (Inventory.stockFields p n) field = .str text →
      strip ((Value.get (Inventory.stockFields p n) field).orElse (.str "")).toText =
        strip text := by
    intro field text hget
    rw [hget, Inventory.toText_orElse_empty]
  unfold Inventory.key
  rw [(Inventory.requiredField_inv hf.tenantId).trans (htext _ _ rfl),
    (Inventory.requiredField_inv hf.sku).trans (htext _ _ rfl),
    (Inventory.requiredField_inv hf.locationType).trans (htext _ _ rfl),
    (Inventory.requiredField_inv hf.locationId).trans (htext _ _ rfl), hf.binId]
  rfl

/-- A record the ledger takes is written under the key of the place, and nothing else is. -/
theorem positions_of_takes (h : PlaceEvent r event) {s : Inventory.Store}
    (hkeyed : Inventory.Keyed s.positions) (now : String) (htakes : LedgerTakes s event) :
    ∃ new : Inventory.Position,
      (s.projectEvent now event.toDict).1.positions = s.positions.set place.positionKey new ∧
      r.units = some new.quantity := by
  rcases projectEvent_reads hkeyed now h.projectable with
    ⟨-, p, n, after, receipt, hreads, haccepted, hrun, -, hpositions, -⟩ | ⟨hnot, -⟩
  · have htype : p.eventType = .stockUpdate := by
      rw [hreads.eventType, ledgerType, if_neg (by rw [h.type]; nofun)]
    unfold Inventory.applyProjection at hrun
    rw [haccepted.issue, haccepted.quantity_eq] at hrun
    dsimp only at hrun
    rw [htype] at hrun
    dsimp only at hrun
    unfold Inventory.applyStockProjection at hrun
    cases hposition : Inventory.position now (Inventory.stockFields p n) with
    | error e =>
      rw [hposition] at hrun
      cases hrun
    | ok new =>
      rw [hposition] at hrun
      have hafter : s.positions.set (Inventory.key new) new = after := congrArg Prod.fst hrun
      obtain ⟨htenant, hsku, hlocationType, hlocation, hbin⟩ := h.positionKey
      have hkey : Inventory.key new = place.positionKey := by
        rw [key_of_stockFields hposition, hreads.tenantId, hreads.sku, hreads.locationType,
          hreads.locationId, hreads.binId, htenant, hsku, hlocationType, hlocation, hbin]
        simp only [StockPlace.positionKey, strip_strip, strip_store, strip_unassigned,
          Inventory.orElse_str unassigned_ne, Value.toText_str]
      refine ⟨new, by rw [hpositions, ← hafter, hkey], ?_⟩
      rw [StockRecord.units, ← h.ledgerQuantity, ← hreads.quantity, haccepted.quantity_eq,
        (Inventory.position_stockFields haccepted hposition).2]
  · exact absurd htakes hnot

variable {w : StockView}

/-- The ledger's quantity of the place after a record. -/
theorem ledgerQuantity_projectRecord (svc : Twin.TwinService)
    (hkeyed : Inventory.Keyed w.inventory.positions) (now : Timestamp)
    (r : StockRecord fromIso place) :
    (LedgerReplaces w r →
      ((projectRecord svc w (now, r)).1.ledgerQuantity place).map some = some r.units) ∧
    (¬ LedgerReplaces w r →
      (projectRecord svc w (now, r)).1.ledgerQuantity place = w.ledgerQuantity place) := by
  unfold LedgerReplaces projectRecord
  dsimp only
  constructor
  · rintro ⟨event, hevent, htakes⟩
    obtain ⟨new, hpositions, hunits⟩ :=
      positions_of_takes (placeEvent_of_record hevent) hkeyed now.isoformat htakes
    rw [hevent]
    unfold StockView.ledgerQuantity
    dsimp only
    rw [hpositions, Dict.get?_set_self, Option.map_some, Option.map_some, hunits]
  · intro hnot
    split
    · rename_i event hevent
      have hnottakes : ¬ LedgerTakes w.inventory event := fun htakes =>
        hnot ⟨event, hevent, htakes⟩
      rcases projectEvent_reads hkeyed now.isoformat
        (placeEvent_of_record hevent).projectable with ⟨htakes, -⟩ | ⟨-, hpositions, -⟩
      · exact absurd htakes hnottakes
      · unfold StockView.ledgerQuantity
        dsimp only
        rw [hpositions]
    · rfl

theorem keyed_projectRecord (svc : Twin.TwinService)
    (hkeyed : Inventory.Keyed w.inventory.positions) (call : Timestamp × StockRecord fromIso place) :
    Inventory.Keyed (projectRecord svc w call).1.inventory.positions := by
  unfold projectRecord
  split
  · exact Inventory.keyed_projectEvent hkeyed _ _
  · exact hkeyed

/-! ## The twin on a record -/

theorem key_observationForSpec {svc : Twin.TwinService} {spec : Twin.ObservationSpec}
    {twinId storeId : String} {o : Twin.TwinObservation}
    (h : Twin.observationForSpec svc event spec twinId storeId = .ok o) :
    o.facts.key = Twin.propertyKey event.tenantId twinId spec.propertyName .reported none := by
  unfold Twin.observationForSpec at h
  split at h
  · cases h
  · rw [Twin.TwinObservation.eq_of_validated h]
    rfl

/-- The store of the event of a record is the location. -/
theorem PlaceEvent.storeIdOf (h : PlaceEvent r event) :
    Twin.storeIdOf event.payload = Twin.text (.str place.locationId) := by
  rw [h.payload, ← r.locationId]
  unfold Twin.storeIdOf
  have hnone : Twin.text .none = none := rfl
  have hlocation : Value.get (stockPayload r.inventory r.record) "location_id" =
      .str r.inventory.locationId := rfl
  have habsent : ∀ key ∈ ["store_id", "site_id", "location"],
      Value.get (stockPayload r.inventory r.record) key = .none := by
    intro key hkey
    simp only [List.mem_cons, List.not_mem_nil, or_false] at hkey
    rcases hkey with hkey | hkey | hkey <;> rw [hkey] <;> rfl
  simp only [List.findSome?, habsent "store_id" (by simp), habsent "site_id" (by simp),
    habsent "location" (by simp), hnone, hlocation]
  cases Twin.text (.str r.inventory.locationId) <;> rfl

/-- The observation of the quantity of a record stands under the key of the place. -/
theorem key_of_observes (h : PlaceEvent r event) {svc : Twin.TwinService} {storeId : String}
    {o : Twin.TwinObservation} (ho : Observes svc event storeId o) :
    o.facts.key = place.propertyKey ∧ o.value = r.text := by
  obtain ⟨-, hvalue, -⟩ := fields_observationForSpec ho.observation
  refine ⟨?_, by rw [hvalue, ← h.twinQuantity]; rfl⟩
  have hstore : Twin.text (.str place.locationId) = some storeId := h.storeIdOf.symm.trans ho.store
  have hsku : Value.get event.payload "sku" = .str place.sku := by
    rw [h.payload, ← r.sku]
    rfl
  have hasset : Value.get event.payload "asset_id" = .none := by
    rw [h.payload]
    rfl
  have hsupplier : Value.get event.payload "supplier" = .none := by
    rw [h.payload]
    rfl
  have hnone : Twin.text .none = none := rfl
  have htwin : (quantitySpec event storeId).twinId =
      ((Twin.text (.str place.sku)).map (Twin.urn place.tenantId storeId "product")).getD
        (Twin.urn place.tenantId storeId "asset" storeId) := by
    unfold quantitySpec
    dsimp only
    rw [hsku, hasset, hsupplier, hnone, h.tenantId]
    cases Twin.text (.str place.sku) with
    | none => simp
    | some sku => simp only [Option.map_some, Option.getD_some]
  have hkey := key_observationForSpec ho.observation
  rw [hkey, h.tenantId]
  unfold StockPlace.propertyKey
  dsimp only
  rw [hstore, Option.getD_some, ← htwin, ← h.tenantId]
  have hname : (quantitySpec event storeId).propertyName = "inventory.on_hand" := by
    change quantityProperty event.type = _
    rw [h.type]
    rfl
  rw [hname]
  rfl

/-- What projecting an event does to the property of its quantity: the observation of the quantity
is the only one of that property. -/
theorem get?_properties_projectEvent (svc : Twin.TwinService) (now : Timestamp) (t : Twin.TwinStore)
    (h : Projectable event) {key : Twin.PropertyKey}
    (hname : key.propertyName = quantityProperty event.type)
    (hkey : ∀ storeId o, Observes svc event storeId o → o.facts.key = key) :
    (∀ storeId o, Observes svc event storeId o → t.log.refuses o = false →
        Twin.loses svc.policyFor (t.properties.get? key) o = false →
        ((Twin.projectEvent svc now event).run t).1.properties.get? key =
          some (Twin.stateOf svc.policyFor now o)) ∧
      ((∀ storeId o, Observes svc event storeId o →
          t.log.refuses o = true ∨ Twin.loses svc.policyFor (t.properties.get? key) o = true) →
        ((Twin.projectEvent svc now event).run t).1.properties.get? key =
          t.properties.get? key) := by
  rw [Twin.run_projectEvent]
  -- calls that offer nothing of the property leave it alone
  have hframe : ∀ (calls : List Twin.TwinCall) (t : Twin.TwinStore),
      (∀ c ∈ calls, ∀ o, c.observation = some o →
        o.propertyName ≠ quantityProperty event.type) →
      ((calls.map fun c => (now, c)).foldl (Twin.afterCall svc.policyFor) t).properties.get? key =
        t.properties.get? key := by
    intro calls t hcalls
    refine Twin.get?_afterCalls (fun c hc o ho heq => ?_) t
    obtain ⟨call, hcall, rfl⟩ := List.mem_map.mp hc
    refine hcalls call hcall o ho ?_
    rw [← hname, ← heq]
    rfl
  rcases eventOffers_of_projectable svc h with
    ⟨storeId, o, rest, hobserves, hoffers, hrest⟩ | ⟨hnone, hoffers⟩
  · obtain ⟨before, call, after, hcalls, hbefore, hcall, hafter⟩ :=
      List.filterMap_eq_cons_iff.mp hoffers
    obtain rfl : call = .observe o := by
      cases call with
      | observe o' => exact congrArg Twin.TwinCall.observe (Option.some.inj hcall)
      | ensure entity => cases hcall
      | link relationship => cases hcall
    rw [hcalls, List.map_append, List.map_cons, List.foldl_append, List.foldl_cons,
      hframe after _ fun c hc o' ho' => hrest o' (hafter ▸ List.mem_filterMap.mpr ⟨c, hc, ho'⟩),
      Twin.afterCall_observe, Twin.properties_run_apply]
    -- the calls before it neither record nor project anything
    have hproperty := hframe before t fun c hc o' ho' => by
      rw [hbefore c hc] at ho'
      cases ho'
    have hlog : ((before.map fun c => (now, c)).foldl (Twin.afterCall svc.policyFor) t).log =
        t.log := by
      rw [← Twin.run_playAll, Twin.log_playAll, Twin.offersOf, List.filterMap_map]
      change t.log.offerAll (before.filterMap Twin.TwinCall.observation) = t.log
      rw [List.filterMap_eq_nil_iff.mpr hbefore]
      rfl
    rw [hlog, hkey storeId o hobserves, hproperty]
    refine ⟨fun storeId' o' hobserves' hfresh hwins => ?_, fun hloses => ?_⟩
    · obtain rfl := observes_unique hobserves' hobserves
      rw [if_neg (by rw [hfresh, hwins]; simp), Dict.get?_set_self]
    · rw [if_pos (hloses storeId o hobserves), hproperty]
  · have hsame := hframe _ t fun c hc o ho => hoffers o (List.mem_filterMap.mpr ⟨c, hc, ho⟩)
    exact ⟨fun storeId o hobserves => absurd hobserves (hnone storeId o), fun _ => hsame⟩

/-- The twin's quantity of the place after a record. -/
theorem twinQuantity_projectRecord (svc : Twin.TwinService) (w : StockView) (now : Timestamp)
    (r : StockRecord fromIso place) :
    (TwinReplaces svc w r →
      (projectRecord svc w (now, r)).1.twinQuantity place = some r.text) ∧
    (¬ TwinReplaces svc w r →
      (projectRecord svc w (now, r)).1.twinQuantity place = w.twinQuantity place) := by
  unfold TwinReplaces projectRecord
  dsimp only
  constructor
  · rintro ⟨event, storeId, o, hevent, hobserves, hfresh, hwins⟩
    have hplace := placeEvent_of_record hevent
    have hname : place.propertyKey.propertyName = quantityProperty event.type := by
      rw [hplace.type]
      rfl
    obtain ⟨hkey, hvalue⟩ := key_of_observes hplace hobserves
    have hafter := (get?_properties_projectEvent svc now w.twin hplace.projectable hname
      fun storeId o ho => (key_of_observes hplace ho).1).1 storeId o hobserves hfresh
      (by rw [← hkey]; exact hwins)
    rw [hevent]
    unfold StockView.twinQuantity
    dsimp only
    rw [hafter, Option.map_some, ← hvalue]
    rfl
  · intro hnot
    split
    · rename_i event hevent
      have hplace := placeEvent_of_record hevent
      have hname : place.propertyKey.propertyName = quantityProperty event.type := by
        rw [hplace.type]
        rfl
      have hafter := (get?_properties_projectEvent svc now w.twin hplace.projectable hname
        fun storeId o ho => (key_of_observes hplace ho).1).2 fun storeId o hobserves => by
          by_contra hreplaces
          simp only [not_or, Bool.not_eq_true] at hreplaces
          refine hnot ⟨event, storeId, o, hevent, hobserves, hreplaces.1, ?_⟩
          rw [(key_of_observes hplace hobserves).1]
          exact hreplaces.2
      unfold StockView.twinQuantity
      dsimp only
      rw [hafter]
    · rfl

/-! ## Sequences of records -/

theorem latestOnHand_append (history : List (RecordStep fromIso place))
    (step : RecordStep fromIso place) :
    latestOnHand (history ++ [step]) =
      if step.input.2.isOnHand then some step.input.2 else latestOnHand history := by
  unfold latestOnHand
  rw [List.reverse_append, List.reverse_singleton, List.singleton_append, List.find?_cons]
  cases step.input.2.isOnHand with
  | true => rfl
  | false => rfl

/-- A value that a step replaces or keeps is the new one exactly when it was replaced or was the new
one before. -/
theorem eq_new_iff {α : Type} {Replaces : Prop} {before after new : α}
    (hreplaced : Replaces → after = new) (hkept : ¬ Replaces → after = before) :
    after = new ↔ Replaces ∨ before = new := by
  by_cases hreplaces : Replaces
  · exact iff_of_true (hreplaced hreplaces) (.inl hreplaces)
  · rw [hkept hreplaces]
    exact ⟨.inr, fun h => h.resolve_left hreplaces⟩

/-- It is the old one exactly when replacing it changes nothing. -/
theorem eq_old_iff {α : Type} {Replaces : Prop} {before after new : α}
    (hreplaced : Replaces → after = new) (hkept : ¬ Replaces → after = before) :
    after = before ↔ (Replaces → before = new) := by
  by_cases hreplaces : Replaces
  · rw [hreplaced hreplaces]
    exact ⟨fun h _ => h.symm, fun h => (h hreplaces).symm⟩
  · exact iff_of_true (hkept hreplaces) fun h => absurd h hreplaces

/-- From a view at the latest record of on-hand stock, a record leads to one exactly when it is kept
apart. -/
theorem atLatestOnHand_iff (svc : Twin.TwinService) {past : List (RecordStep fromIso place)}
    (hkeyed : Inventory.Keyed w.inventory.positions) (hlatest : AtLatestOnHand past w)
    (call : Timestamp × StockRecord fromIso place) :
    AtLatestOnHand (past ++ [stepOf (projectRecord svc) w call]) (projectRecord svc w call).1 ↔
      KeptApart svc (stepOf (projectRecord svc) w call) := by
  obtain ⟨now, r⟩ := call
  obtain ⟨hledger, hledgerSame⟩ := ledgerQuantity_projectRecord svc hkeyed now r
  obtain ⟨htwin, htwinSame⟩ := twinQuantity_projectRecord svc w now r
  have hledgerKept := fun hnot => congrArg (Option.map some) (hledgerSame hnot)
  have happend := latestOnHand_append past (stepOf (projectRecord svc) w (now, r))
  cases honHand : r.isOnHand with
  | true =>
    -- the latest record is this one
    have hnow : latestOnHand (past ++ [stepOf (projectRecord svc) w (now, r)]) = some r := by
      rw [happend]
      exact if_pos honHand
    constructor
    · intro hafter
      have hledgerNow := hafter.ledger
      have htwinNow := hafter.twin
      rw [hnow] at hledgerNow htwinNow
      exact ⟨fun _ => ⟨(eq_new_iff hledger hledgerKept).mp hledgerNow,
        (eq_new_iff htwin htwinSame).mp htwinNow⟩, fun h =>
        Bool.noConfusion (honHand.symm.trans h)⟩
    · intro hkept
      obtain ⟨hledgerNew, htwinNew⟩ := hkept.onHand honHand
      refine ⟨?_, ?_⟩ <;> rw [hnow]
      · exact (eq_new_iff hledger hledgerKept).mpr hledgerNew
      · exact (eq_new_iff htwin htwinSame).mpr htwinNew
  | false =>
    -- the latest record is an earlier one, whose quantity both have
    have hnow : latestOnHand (past ++ [stepOf (projectRecord svc) w (now, r)]) =
        latestOnHand past := by
      rw [happend]
      exact if_neg (by rw [stepOf, honHand]; exact Bool.noConfusion)
    constructor
    · intro hafter
      have hledgerNow := hafter.ledger
      have htwinNow := hafter.twin
      rw [hnow, ← hlatest.ledger] at hledgerNow
      rw [hnow, ← hlatest.twin] at htwinNow
      exact ⟨fun h => Bool.noConfusion (honHand.symm.trans h),
        fun _ => ⟨(eq_old_iff hledger hledgerKept).mp hledgerNow,
          (eq_old_iff htwin htwinSame).mp htwinNow⟩⟩
    · intro hkept
      obtain ⟨hledgerOld, htwinOld⟩ := hkept.other honHand
      refine ⟨?_, ?_⟩
      · rw [hnow, ← hlatest.ledger]
        exact (eq_old_iff hledger hledgerKept).mpr hledgerOld
      · rw [hnow, ← hlatest.twin]
        exact (eq_old_iff htwin htwinSame).mpr htwinOld

theorem atLatestOnHand_empty :
    AtLatestOnHand ([] : List (RecordStep fromIso place)) StockView.empty where
  ledger := rfl
  twin := rfl

end Records

/-- In every sequence of valid records of a place, the ledger and the twin are at the quantity of
the latest record of on-hand stock after every record if and only if every record is kept apart. -/
theorem stock_states_apart_iff (svc : Twin.TwinService) (fromIso : String → Option Timestamp)
    (place : StockPlace) (calls : List (Timestamp × StockRecord fromIso place)) :
    (∀ past step rest, trace (projectRecord svc) .empty calls = past ++ step :: rest →
      AtLatestOnHand (past ++ [step]) step.after) ↔
    ∀ step ∈ trace (projectRecord svc) .empty calls, KeptApart svc step :=
  forall_split_iff (H := fun _ w => Inventory.Keyed w.inventory.positions) Inventory.keyed_empty
    (fun _ _ call hkeyed => keyed_projectRecord svc hkeyed call) atLatestOnHand_empty
    (fun _ _ call hkeyed hlatest => atLatestOnHand_iff svc hkeyed hlatest call) calls

/-- The bananas of a store. -/
def bananaPlace : StockPlace := ⟨"tenant_a", "4011", "store_a"⟩

/-- A row that counts bananas. -/
def bananaRow (rowId quantity : String) (state : StockState) : InboundRecord where
  tenantId := "tenant_a"
  sourceSystem := .csv
  sourceObjectType := "stock"
  sourceObjectId := rowId
  eventTime := ⟨3000000, "2026-07-01T00:00:03+00:00"⟩
  rawPayload := [("row", .str rowId)]
  canonicalType := "inventory_state"
  correlationId := "csv:" ++ rowId
  canonicalPayload := [("sku", .str "4011"), ("location_id", .str "store_a"),
    ("quantity", .str quantity), ("stock_state", .str state.value)]
  validation := .passed
  sourceQuality := ⟨.finite 1, "1.0"⟩
  actor := none

/-- Twelve on hand. -/
def bananasOnHand : StockRecord (fun _ => none) bananaPlace where
  record := bananaRow "row-1" "12" .onHand
  inventory := ⟨"tenant_a", "4011", "store_a", .finite false 12 0, .onHand,
    ⟨3000000, "2026-07-01T00:00:03+00:00"⟩, none, none⟩
  ok := rfl
  canonical := rfl
  reads := by decide +kernel
  tenantId := rfl
  sku := rfl
  locationId := rfl

/-- Five damaged, in another row. -/
def bananasDamaged : StockRecord (fun _ => none) bananaPlace where
  record := bananaRow "row-2" "5" .damaged
  inventory := ⟨"tenant_a", "4011", "store_a", .finite false 5 0, .damaged,
    ⟨3000000, "2026-07-01T00:00:03+00:00"⟩, none, none⟩
  ok := rfl
  canonical := rfl
  reads := by decide +kernel
  tenantId := rfl
  sku := rfl
  locationId := rfl

/-- The view after the row of the twelve. -/
def bananaView : StockView :=
  (projectRecord Twin.defaultService .empty
    (⟨9000000, "2026-07-01T00:00:09+00:00"⟩, bananasOnHand)).1

/-- The ledger replaces the twelve on hand by the five damaged. -/
theorem ledgerReplaces_bananas : LedgerReplaces bananaView bananasDamaged := by
  obtain ⟨event, hevent⟩ :
      ∃ event, recordToEvent (fun _ => none) bananasDamaged.record = .ok (some event) := by
    have hbuilt : ((recordToEvent (fun _ => none) bananasDamaged.record).toOption.bind id).isSome =
        true := by decide +kernel
    cases hread : recordToEvent (fun _ => none) bananasDamaged.record with
    | error e => rw [hread] at hbuilt; cases hbuilt
    | ok built =>
      rw [hread] at hbuilt
      exact (Option.isSome_iff_exists.mp hbuilt).imp fun event h => congrArg Except.ok h
  have hplace := placeEvent_of_record hevent
  obtain ⟨-, hsku, hlocationType, hlocation, -⟩ := hplace.positionKey
  refine ⟨event, hevent, ?_, ?_, ?_, ?_, ?_, ?_, ?_⟩
  · rw [hplace.tenantId]
    decide +kernel
  · rw [hplace.id]
    decide +kernel
  · rw [hsku]
    decide +kernel
  · rw [hlocation]
    decide +kernel
  · refine ⟨5, ?_, by decide, fun hsale => ?_⟩
    · rw [hplace.ledgerQuantity]
      decide +kernel
    · rw [hplace.type] at hsale
      cases hsale
  · refine fun _ => ⟨?_, ?_⟩
    · rw [hlocationType]
      decide +kernel
    · unfold ledgerStockState
      rw [hplace.payload]
      decide +kernel
  · rw [hplace.tenantId, hplace.id]
    have hnone : (bananaView.inventory.projectionReceipts.get?
        (strip bananaPlace.tenantId, strip (eventIdOf bananasDamaged.record))).isNone = true := by
      decide +kernel
    exact Option.isNone_iff_eq_none.mp hnone

/-- The damaged bananas replace the twelve on hand. -/
theorem stock_states_mixed :
    ¬ ∀ (svc : Twin.TwinService) (fromIso : String → Option Timestamp) (place : StockPlace)
      (calls : List (Timestamp × StockRecord fromIso place))
      (past : List (RecordStep fromIso place)) (step : RecordStep fromIso place)
      (rest : List (RecordStep fromIso place)),
      trace (projectRecord svc) .empty calls = past ++ step :: rest →
      AtLatestOnHand (past ++ [step]) step.after := by
  intro h
  let first : Timestamp := ⟨9000000, "2026-07-01T00:00:09+00:00"⟩
  let second : Timestamp := ⟨9500000, "2026-07-01T00:00:09.500000+00:00"⟩
  have hlatest := h Twin.defaultService (fun _ => none) bananaPlace
    [(first, bananasOnHand), (second, bananasDamaged)]
    [stepOf (projectRecord Twin.defaultService) .empty (first, bananasOnHand)]
    (stepOf (projectRecord Twin.defaultService) bananaView (second, bananasDamaged)) [] rfl
  have hfive := (ledgerQuantity_projectRecord Twin.defaultService
    (keyed_projectRecord Twin.defaultService Inventory.keyed_empty (first, bananasOnHand)) second
    bananasDamaged).1 ledgerReplaces_bananas
  have hunits : (some bananasDamaged.units : Option (Option ℤ)) = some bananasOnHand.units :=
    hfive.symm.trans hlatest.ledger
  exact absurd hunits (by decide +kernel)

end ShelfWise.Ingest
