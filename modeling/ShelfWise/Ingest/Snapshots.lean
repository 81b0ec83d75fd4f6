import ShelfWise.Connectors.Snapshot
import ShelfWise.Ingest.Inbound

/-!
# Sequences of stock snapshots

A connector reports the stock of a source object again and again: each record goes through
`record_to_event` and `record_pipeline_event`. The id of the event names the object and not the
report, so the event store takes the second report for the first one with other content.

`snapshots_take_effect_iff` says for every sequence of reports of an object when no call raises and
the inventory ends at the last quantity: exactly when there is one report.
-/

namespace ShelfWise.Ingest

open Py Sys Connectors

/-! ## Snapshots -/

/-- A source object of a connector. -/
structure StockSource where
  system : SourceSystem
  objectId : String
  tenantId : String
  sku : String
  locationId : String

/-- What a connector reports of the object at a time: a whole number of units. -/
structure Snapshot where
  quantity : Decimal
  stockState : StockState
  eventTime : Timestamp
  gtin : Option String
  barcode : Option String
  rawPayload : List (String × Value)
  inRange : quantity.InRange
  integral : quantity.isIntegral = true

/-- The stock state of a report. -/
def StockSource.inventory (source : StockSource) (snapshot : Snapshot) : InventoryState where
  tenantId := source.tenantId
  sku := source.sku
  locationId := source.locationId
  quantity := snapshot.quantity
  stockState := snapshot.stockState
  eventTime := snapshot.eventTime
  gtin := snapshot.gtin
  barcode := snapshot.barcode

/-- The record of a report. -/
def StockSource.record (source : StockSource) (snapshot : Snapshot) : Except Exc InboundRecord :=
  inventoryRecord source.system source.objectId (source.inventory snapshot) snapshot.rawPayload

/-- The record is valid. -/
def StockSource.Valid (source : StockSource) (snapshot : Snapshot) : Prop :=
  ∃ record, source.record snapshot = .ok record ∧ record.validation.ok = true

/-- `record_to_event` and `record_pipeline_event` on a record. -/
def ingestRecord (env : Intake) (now : Timestamp) (record : InboundRecord) :
    Program IngestOp IngestState (Except Exc (Option IngestReceipt)) :=
  match recordToEvent env.fromIso record with
  | .error e => .ret (.error e)
  | .ok none => .ret (.ok none)
  | .ok (some event) =>
    (recordPipelineEvent env.toPipeline now event).bindExcept fun receipt =>
      .ret (.ok (some receipt))

/-- One report, with the clock of the call. -/
def ingestSnapshot (env : Intake) (source : StockSource) (s : IngestState)
    (call : Timestamp × Snapshot) : IngestState × Except Exc (Option IngestReceipt) :=
  match source.record call.2 with
  | .error e => (s, .error e)
  | .ok record => (ingestRecord env call.1 record).run s

/-- The key of the inventory position of the object. -/
def StockSource.positionKey (source : StockSource) : Inventory.PositionKey :=
  ⟨strip source.tenantId, strip source.sku, "store", strip source.locationId, "unassigned"⟩

/-- No call raises, and the position of the object ends at the quantity of the last report. -/
def TakeEffect (env : Intake) (source : StockSource) (calls : List (Timestamp × Snapshot)) : Prop :=
  (∀ step ∈ trace (ingestSnapshot env source) .empty calls, step.output.isOk = true) ∧
    ∀ last, calls.getLast? = some last →
      ((final (ingestSnapshot env source) .empty calls).inventory.positions.get?
        source.positionKey).map (·.quantity) = some last.2.quantity.truncate

/-- The tenant, the SKU and the location are more than white space. -/
structure StockSource.Named (source : StockSource) : Prop where
  tenantId : strip source.tenantId ≠ ""
  sku : strip source.sku ≠ ""
  locationId : strip source.locationId ≠ ""

/-! ## The pipeline on a stock update -/

section Pipeline

variable {env : Pipeline} {event : Event} {s : IngestState}

theorem observeOrder_of_not_shipment (h : event.type ≠ .shipment) :
    observeOrder env event s = (s, .ok none) := by
  unfold observeOrder observeEvent shipmentPayload
  rw [if_pos h]

variable (env) in
/-- An operational stock update that is new is stored and goes to the inventory, and raises only if
the inventory does. -/
theorem run_recordPipelineEvent_of_stockUpdate (htype : event.type = .stockUpdate)
    (hdomain : event.dataDomain = .operationalTwin)
    (hnew : s.events.events.contains (eventKey event) = false) (now : Timestamp) :
    ((recordPipelineEvent env now event).run s).1.inventory =
        (s.inventory.projectEvent now.isoformat event.toDict).1 ∧
      ((recordPipelineEvent env now event).run s).2.isOk =
        (s.inventory.projectEvent now.isoformat event.toDict).2.isOk ∧
      ((recordPipelineEvent env now event).run s).1.events.get (eventKey event) =
        some (EventStore.storedPayload now.isoformat event) := by
  have hrecord : recordEvent now event s = ({ s with events :=
      ⟨s.events.events.set (eventKey event) (EventStore.storedPayload now.isoformat event),
        s.events.published⟩ }, true) := by
    unfold recordEvent
    rw [EventStore.record_of_new hnew]
  have hshipment : event.type ≠ .shipment := by
    rw [htype]
    exact nofun
  have hstored : ∀ published, EventStore.get (eventKey event)
      ⟨s.events.events.set (eventKey event) (EventStore.storedPayload now.isoformat event),
        published⟩ = some (EventStore.storedPayload now.isoformat event) :=
    fun published => Dict.get?_set_self _ _ _
  simp only [recordPipelineEvent, acceptEvent, publishAndCascade, cascadeForEvent,
    Program.bindExcept, Program.run_bind, Program.run_call, hrecord, if_true,
    observeOrder_of_not_shipment hshipment, projectInventory]
  cases hproject : (s.inventory.projectEvent now.isoformat event.toDict).2 with
  | error e => exact ⟨rfl, rfl, hstored _⟩
  | ok inventory =>
    simp only [Program.run_bind, Program.run_call, dispatch_stockUpdate _ htype hdomain]
    exact ⟨rfl, rfl, hstored _⟩

/-- An event whose id is stored with other content is refused. -/
theorem run_recordPipelineEvent_of_conflict (env : Pipeline) {payload : List (String × Value)}
    (hstored : s.events.get (eventKey event) = some payload)
    (hother : sameEventPayload (some payload) event = false) (now : Timestamp) :
    ((recordPipelineEvent env now event).run s).2.isOk = false := by
  unfold recordPipelineEvent
  simp only [Program.run_bind, Program.run_call, recordEvent_of_stored hstored, hstored, hother,
    Bool.false_eq_true, if_false]
  rfl

/-- Events of one key at different times have different content. -/
theorem sameEventPayload_of_ts_ne {earlier : Event} {now : String}
    (h : earlier.ts.isoformat ≠ event.ts.isoformat) :
    sameEventPayload (some (EventStore.storedPayload now earlier)) event = false := by
  have hearlier : Value.get (EventStore.storedPayload now earlier) "ts" =
      .str earlier.ts.isoformat :=
    EventStore.get_storedPayload now (by simp [Event.toDict])
  refine Bool.eq_false_iff.mpr fun hsame => ?_
  have hts := List.all_eq_true.mp hsame ("ts", .str event.ts.isoformat) (by simp [Event.toDict])
  rw [hearlier, Value.eq_str, decide_eq_true_eq, Value.str.injEq] at hts
  exact h hts

end Pipeline

/-! ## The inventory on a stock update -/

/-- What the inventory reads from the event of a report. -/
structure ReadsSnapshot (source : StockSource) (snapshot : Snapshot) (p : Inventory.Projection) :
    Prop where
  tenantId : p.tenantId = strip source.tenantId
  eventId : Inventory.Required p.eventId
  eventType : p.eventType = .stockUpdate
  sku : p.sku = strip source.sku
  locationId : p.locationId = strip source.locationId
  locationType : p.locationType = "store"
  binId : p.binId = "unassigned"
  quantity : p.quantity = some snapshot.quantity.truncate
  stockState : p.stockState = snapshot.stockState.value

theorem finite_of_integral (snapshot : Snapshot) :
    Decimal.ofText snapshot.quantity.str = some snapshot.quantity ∧
      snapshot.quantity.isFinite = true := by
  have hrange := snapshot.inRange
  have hintegral := snapshot.integral
  cases hquantity : snapshot.quantity with
  | finite negative coefficient exponent =>
    rw [hquantity] at hrange
    exact ⟨Decimal.ofText_str hrange, rfl⟩
  | infinity negative =>
    rw [hquantity] at hintegral
    cases hintegral
  | nan negative signalling payload =>
    rw [hquantity] at hintegral
    cases hintegral

theorem integralQuantity_snapshot (snapshot : Snapshot) :
    Inventory.integralQuantity (.str snapshot.quantity.str) = some snapshot.quantity.truncate := by
  obtain ⟨htext, hfinite⟩ := finite_of_integral snapshot
  unfold Inventory.integralQuantity
  rw [Value.toText_str, htext]
  dsimp only
  rw [hfinite, snapshot.integral, Bool.and_self, if_pos rfl]

variable {event : Event}

theorem strip_eventId_ne {system : SourceSystem} {objectId : String} {inventory : InventoryState}
    (h : EventOf system objectId inventory event) : strip event.id ≠ "" := by
  have hlist : event.id.toList =
      'e' :: ("vt_" ++ system.value ++ "_inventory_state_" ++ objectId).toList := by
    rw [h.id]
    simp [String.toList_append]
  exact strip_ne_empty hlist rfl

variable {source : StockSource} {snapshot : Snapshot}

/-- What the projection of a report reads, by the fields of the payload. -/
theorem readsSnapshot (h : EventOf source.system source.objectId (source.inventory snapshot) event) :
    ∃ p, Inventory.projectionInput event.toDict = some p ∧ ReadsSnapshot source snapshot p := by
  obtain ⟨record, hpayload⟩ := h.payload
  have htype : Inventory.projectedType event.toDict = some .stockUpdate := by
    have htext : Value.get event.toDict "type" = .str "stock_update" :=
      congrArg (fun t : EventType => Value.str t.value) h.type
    have hdomain : Value.get event.toDict "data_domain" = .str "operational_twin" :=
      congrArg (fun d : DataDomain => Value.str d.value) h.dataDomain
    unfold Inventory.projectedType
    rw [htext, hdomain]
    decide +kernel
  have hitems : (Value.get event.toDict "payload").items =
      stockPayload (source.inventory snapshot) record := hpayload
  have hid : strip ((Value.get event.toDict "id").orElse (.str "")).toText = strip event.id :=
    congrArg strip (Inventory.toText_orElse_empty event.id)
  have htenant : event.tenantId = source.tenantId := h.tenantId
  refine ⟨_, by rw [Inventory.projectionInput, htype]; rfl, ?_⟩
  exact {
    tenantId := by
      rw [← htenant]
      exact congrArg strip (Inventory.toText_orElse_empty event.tenantId)
    eventId := ⟨stripped_strip _, by
      dsimp only
      rw [hid]
      exact strip_eventId_ne h⟩
    eventType := rfl
    sku := by
      dsimp only
      rw [hitems]
      exact congrArg strip (Inventory.toText_orElse_empty source.sku)
    locationId := by
      dsimp only
      rw [hitems]
      have hlocation : (Value.get (stockPayload (source.inventory snapshot) record)
          "location_id").orElse (Value.get (stockPayload (source.inventory snapshot) record)
          "location") = (Value.str source.locationId).orElse .none := rfl
      rw [hlocation]
      by_cases hempty : source.locationId = ""
      · rw [hempty]
        rfl
      · rw [Inventory.orElse_str hempty, Inventory.toText_orElse_empty]
    locationType := by
      dsimp only
      rw [hitems]
      exact (by decide +kernel : strip "store" = "store")
    binId := by
      dsimp only
      rw [hitems]
      exact (by decide +kernel : strip "unassigned" = "unassigned")
    quantity := by
      dsimp only
      rw [hitems]
      exact integralQuantity_snapshot snapshot
    stockState := by
      dsimp only
      rw [hitems]
      have hstate : (Value.get (stockPayload (source.inventory snapshot) record)
          "stock_state") = .str snapshot.stockState.value := rfl
      rw [hstate]
      cases snapshot.stockState <;> decide +kernel }

/-- The position of the report of a named object. -/
theorem position_of_reads {p : Inventory.Projection} (h : ReadsSnapshot source snapshot p)
    (hnamed : source.Named) (hnonneg : 0 ≤ snapshot.quantity.truncate) (now : String) :
    ∃ new, Inventory.position now (Inventory.stockFields p snapshot.quantity.truncate) = .ok new ∧
      Inventory.key new = source.positionKey ∧ new.quantity = snapshot.quantity.truncate := by
  have hstore : Inventory.Required "store" := by decide +kernel
  have hstate : Inventory.Required snapshot.stockState.value := by
    cases snapshot.stockState <;> decide +kernel
  let new : Inventory.Position :=
    { tenantId := ⟨strip source.tenantId, stripped_strip _, hnamed.tenantId⟩
      sku := ⟨strip source.sku, stripped_strip _, hnamed.sku⟩
      locationType := ⟨"store", hstore⟩
      locationId := ⟨strip source.locationId, stripped_strip _, hnamed.locationId⟩
      binId := "unassigned"
      quantity := snapshot.quantity.truncate
      quantity_nonneg := hnonneg
      state := ⟨snapshot.stockState.value, hstate⟩
      sourceReference := ⟨p.eventId, h.eventId⟩
      updatedAt := now }
  have hfields : Inventory.FromFields now
      (Inventory.stockFields p snapshot.quantity.truncate) new :=
    { tenantId := Inventory.requiredField_eq (congrArg Value.str h.tenantId)
      sku := Inventory.requiredField_eq (congrArg Value.str h.sku)
      locationType := Inventory.requiredField_eq (congrArg Value.str h.locationType)
      locationId := Inventory.requiredField_eq (congrArg Value.str h.locationId)
      state := Inventory.requiredField_eq (congrArg Value.str h.stockState)
      sourceReference := Inventory.requiredField_eq rfl
      binId := by
        have hbin : Value.get (Inventory.stockFields p snapshot.quantity.truncate) "bin_id" =
            .str "unassigned" := congrArg Value.str h.binId
        rw [hbin]
        exact (by decide +kernel : "unassigned" = strip "unassigned")
      quantity := Inventory.toInt_orElse_int _
      updatedAt := by
        have hupdated : Value.get (Inventory.stockFields p snapshot.quantity.truncate)
            "updated_at" = .none := rfl
        rw [hupdated]
        rfl }
  exact ⟨new, Inventory.position_of_fields hfields, rfl, rfl⟩

/-- The only issue of a report is a name that is missing. -/
theorem issue_eq_none_iff {p : Inventory.Projection} (h : ReadsSnapshot source snapshot p)
    (hnonneg : 0 ≤ snapshot.quantity.truncate) : p.issue = none ↔ source.Named := by
  have hsale : ¬ (Inventory.EventType.stockUpdate = .sale ∧ snapshot.quantity.truncate ≤ 0) := nofun
  have hnegative : ¬ (Inventory.EventType.stockUpdate = .stockUpdate ∧
      snapshot.quantity.truncate < 0) := fun hlt => absurd hlt.2 (not_lt.mpr hnonneg)
  rw [p.issue_eq, h.eventType, h.quantity, h.tenantId, h.sku, h.locationId]
  unfold Inventory.projectionIssue
  dsimp only
  rw [if_neg hsale, if_neg hnegative]
  constructor
  · intro hissue
    by_cases hall : [strip source.tenantId, p.eventId, strip source.sku,
        strip source.locationId].all (· ≠ "") = true
    · have hfields := List.all_eq_true.mp hall
      simp only [List.mem_cons, List.not_mem_nil, or_false, forall_eq_or_imp, forall_eq,
        decide_eq_true_eq] at hfields
      exact ⟨hfields.1, hfields.2.2.1, hfields.2.2.2⟩
    · rw [if_neg hall] at hissue
      cases hissue
  · intro hnamed
    rw [if_pos]
    simp [hnamed.tenantId, hnamed.sku, hnamed.locationId, h.eventId.2]

/-- A first report goes to the empty inventory: its quantity stands at the position of the object
exactly when the object is named. -/
theorem projectEvent_snapshot
    (h : EventOf source.system source.objectId (source.inventory snapshot) event)
    (hnonneg : 0 ≤ snapshot.quantity.truncate) (now : String) :
    (Inventory.Store.empty.projectEvent now event.toDict).2.isOk = true ∧
      (((Inventory.Store.empty.projectEvent now event.toDict).1.positions.get?
          source.positionKey).map (·.quantity) = some snapshot.quantity.truncate ↔
        source.Named) := by
  obtain ⟨p, hp, hreads⟩ := readsSnapshot h
  have hnew : Inventory.Store.empty.projectionReceipts.get? (p.tenantId, p.eventId) = none := rfl
  unfold Inventory.Store.projectEvent
  rw [hp]
  dsimp only
  rw [hnew]
  dsimp only
  cases hissue : p.issue with
  | none =>
    have hnamed := (issue_eq_none_iff hreads hnonneg).mp hissue
    obtain ⟨new, hposition, hkey, hquantity⟩ := position_of_reads hreads hnamed hnonneg now
    unfold Inventory.applyProjection
    rw [hissue, hreads.quantity]
    dsimp only
    rw [hreads.eventType]
    dsimp only
    unfold Inventory.applyStockProjection
    rw [hposition]
    refine ⟨rfl, fun _ => hnamed, fun _ => ?_⟩
    change ((Inventory.Store.empty.positions.set (Inventory.key new) new).get?
      source.positionKey).map _ = _
    rw [hkey, Dict.get?_set_self, Option.map_some, hquantity]
  | some issue =>
    rw [Inventory.applyProjection_issue hissue]
    refine ⟨rfl, fun hquantity => ?_, fun hnamed => ?_⟩
    · cases hquantity
    · rw [(issue_eq_none_iff hreads hnonneg).mpr hnamed] at hissue
      cases hissue

/-! ## Reports in order -/

theorem nonneg_of_valid (h : source.Valid snapshot) : 0 ≤ snapshot.quantity.truncate := by
  obtain ⟨record, hrecord, hok⟩ := h
  have hvalidated : isBelowZero snapshot.quantity = .ok false :=
    (validated_of_inventoryRecord hrecord hok).nonneg
  cases hquantity : snapshot.quantity with
  | finite negative coefficient exponent =>
    rw [hquantity] at hvalidated
    cases negative with
    | false =>
      simp only [Decimal.truncate, Bool.false_eq_true, if_false]
      exact Int.natCast_nonneg _
    | true =>
      have hzero : coefficient = 0 := by simpa [isBelowZero] using hvalidated
      simp [Decimal.truncate, hzero]
  | infinity negative => exact le_refl _
  | nan negative signalling payload => exact le_refl _

/-- The event of a valid report. -/
theorem event_of_valid (env : Intake) (h : source.Valid snapshot)
    (hiso : env.fromIso (replaceZ snapshot.eventTime.isoformat) = some snapshot.eventTime) :
    ∃ event, EventOf source.system source.objectId (source.inventory snapshot) event ∧
      ∀ s now, (ingestSnapshot env source s (now, snapshot)).1 =
          ((recordPipelineEvent env.toPipeline now event).run s).1 ∧
        (ingestSnapshot env source s (now, snapshot)).2.isOk =
          ((recordPipelineEvent env.toPipeline now event).run s).2.isOk := by
  obtain ⟨record, hrecord, hok⟩ := h
  obtain ⟨event, hevent, hof⟩ := recordToEvent_inventoryRecord hrecord hok hiso
    (finite_of_integral snapshot).1
  refine ⟨event, hof, fun s now => ?_⟩
  unfold ingestSnapshot
  rw [hrecord]
  dsimp only
  unfold ingestRecord
  rw [hevent]
  dsimp only
  rw [Program.bindExcept, Program.run_bind]
  cases ((recordPipelineEvent env.toPipeline now event).run s).2 with
  | error e => exact ⟨rfl, rfl⟩
  | ok receipt => exact ⟨rfl, rfl⟩

/-- The second report of an object is refused. -/
theorem ingestSnapshot_second (env : Intake) {first second : Snapshot} (hfirst : source.Valid first)
    (hsecond : source.Valid second)
    (hiso₁ : env.fromIso (replaceZ first.eventTime.isoformat) = some first.eventTime)
    (hiso₂ : env.fromIso (replaceZ second.eventTime.isoformat) = some second.eventTime)
    (hlater : first.eventTime.instant < second.eventTime.instant) (now now' : Timestamp) :
    (ingestSnapshot env source (ingestSnapshot env source .empty (now, first)).1
      (now', second)).2.isOk = false := by
  obtain ⟨earlier, hearlier, hrun⟩ := event_of_valid env hfirst hiso₁
  obtain ⟨later, hlaterOf, hrun'⟩ := event_of_valid env hsecond hiso₂
  have hkey : eventKey earlier = eventKey later := by
    unfold eventKey
    rw [hearlier.id, hlaterOf.id, hearlier.tenantId, hlaterOf.tenantId, hearlier.dataDomain,
      hlaterOf.dataDomain]
    rfl
  have hts : earlier.ts.isoformat ≠ later.ts.isoformat := by
    rw [hearlier.ts, hlaterOf.ts]
    intro hsame
    have hsame' : first.eventTime.isoformat = second.eventTime.isoformat := hsame
    rw [hsame', hiso₂, Option.some.injEq] at hiso₁
    rw [hiso₁] at hlater
    exact lt_irrefl _ hlater
  obtain ⟨-, -, hstored⟩ := run_recordPipelineEvent_of_stockUpdate env.toPipeline
    hearlier.type hearlier.dataDomain (s := .empty) rfl now
  rw [(hrun' _ now').2, (hrun _ now).1]
  exact run_recordPipelineEvent_of_conflict _ (hkey ▸ hstored) (sameEventPayload_of_ts_ne hts) now'

/-- **Snapshots take effect once.** The valid reports of an object, in the order of their times,
raise no error and leave the inventory at the last quantity exactly when there is one of them, of an
object whose tenant, SKU and location are more than white space. -/
theorem snapshots_take_effect_iff (env : Intake) (source : StockSource)
    (first : Timestamp × Snapshot) (rest : List (Timestamp × Snapshot))
    (hvalid : ∀ call ∈ first :: rest, source.Valid call.2)
    (hincreasing : (first :: rest).Pairwise fun a b =>
      a.2.eventTime.instant < b.2.eventTime.instant)
    (hiso : ∀ call ∈ first :: rest,
      env.fromIso (replaceZ call.2.eventTime.isoformat) = some call.2.eventTime) :
    TakeEffect env source (first :: rest) ↔ rest = [] ∧ source.Named := by
  have hvalid₁ := hvalid first List.mem_cons_self
  have hiso₁ := hiso first List.mem_cons_self
  cases rest with
  | cons second rest =>
    have hsecond : second ∈ first :: second :: rest := by simp
    have hlater := (List.pairwise_cons.mp hincreasing).1 second List.mem_cons_self
    have hrefused := ingestSnapshot_second env hvalid₁ (hvalid second hsecond) hiso₁
      (hiso second hsecond) hlater first.1 second.1
    refine ⟨fun htake => ?_, fun h => absurd h.1 (List.cons_ne_nil _ _)⟩
    have hstep := htake.1 (stepOf (ingestSnapshot env source)
      (ingestSnapshot env source .empty first).1 second) (by simp [trace])
    rw [stepOf, hrefused] at hstep
    cases hstep
  | nil =>
    obtain ⟨event, hof, hrun⟩ := event_of_valid env hvalid₁ hiso₁
    obtain ⟨hinventory, hok, -⟩ := run_recordPipelineEvent_of_stockUpdate env.toPipeline
      hof.type hof.dataDomain (s := .empty) rfl first.1
    obtain ⟨hprojected, hnamed⟩ := projectEvent_snapshot hof (nonneg_of_valid hvalid₁)
      first.1.isoformat
    have hanswer : (ingestSnapshot env source .empty first).2.isOk = true :=
      (hrun _ first.1).2.trans (hok.trans hprojected)
    have hpositions : (ingestSnapshot env source .empty first).1.inventory =
        (Inventory.Store.empty.projectEvent first.1.isoformat event.toDict).1 :=
      (congrArg IngestState.inventory (hrun _ first.1).1).trans hinventory
    constructor
    · intro htake
      have hlast := htake.2 first rfl
      rw [final_cons, final_nil, hpositions] at hlast
      exact ⟨rfl, hnamed.mp hlast⟩
    · rintro ⟨-, hn⟩
      refine ⟨fun step hstep => ?_, fun last hlast => ?_⟩
      · rw [List.mem_singleton.mp hstep]
        exact hanswer
      · obtain rfl : first = last := Option.some.inj hlast
        rw [final_cons, final_nil, hpositions]
        exact hnamed.mpr hn

/-- An item of a warehouse. -/
def oatsSource : StockSource := ⟨.dynamics, "item_2@store_a", "tenant_a", "4012", "store_a"⟩

/-- A report of twelve units. -/
def oatsMorning : Snapshot where
  quantity := .finite false 12 0
  stockState := .onHand
  eventTime := ⟨3000000, "2026-07-01T00:00:03+00:00"⟩
  gtin := none
  barcode := none
  rawPayload := [("id", .str "item_2"), ("number", .str "4012"), ("inventory", .int 12)]
  inRange := by decide +kernel
  integral := rfl

/-- A report of five units, later. -/
def oatsEvening : Snapshot where
  quantity := .finite false 5 0
  stockState := .onHand
  eventTime := ⟨4000000, "2026-07-01T00:00:04+00:00"⟩
  gtin := none
  barcode := none
  rawPayload := [("id", .str "item_2"), ("number", .str "4012"), ("inventory", .int 5)]
  inRange := by decide +kernel
  integral := rfl

/-- An intake that reads the times of both reports. -/
def oatsIntake : Intake :=
  { stockIntake with
    fromIso := fun s =>
      if s = "2026-07-01T00:00:03+00:00" then some oatsMorning.eventTime
      else if s = "2026-07-01T00:00:04+00:00" then some oatsEvening.eventTime
      else none }

theorem valid_oats : oatsSource.Valid oatsMorning ∧ oatsSource.Valid oatsEvening :=
  ⟨⟨_, rfl, rfl⟩, ⟨_, rfl, rfl⟩⟩

theorem fromIso_oats : ∀ snapshot ∈ [oatsMorning, oatsEvening],
    oatsIntake.fromIso (replaceZ snapshot.eventTime.isoformat) = some snapshot.eventTime := by
  decide +kernel

/-- One report. -/
theorem snapshots_take_effect_single :
    TakeEffect oatsIntake oatsSource [(⟨9000000, "2026-07-01T00:00:09+00:00"⟩, oatsMorning)] := by
  refine (snapshots_take_effect_iff oatsIntake oatsSource
    (⟨9000000, "2026-07-01T00:00:09+00:00"⟩, oatsMorning) [] ?_ (List.pairwise_singleton _ _)
    ?_).mpr ⟨rfl, by decide +kernel, by decide +kernel, by decide +kernel⟩
  · intro call hcall
    rw [List.mem_singleton.mp hcall]
    exact valid_oats.1
  · intro call hcall
    rw [List.mem_singleton.mp hcall]
    exact fromIso_oats _ (by simp)

/-- The report of the evening is refused, and the quantity of the morning stays. -/
theorem snapshots_refused :
    ¬ ∀ (env : Intake) (source : StockSource) (first : Timestamp × Snapshot)
      (rest : List (Timestamp × Snapshot)), (∀ call ∈ first :: rest, source.Valid call.2) →
      ((first :: rest).Pairwise fun a b => a.2.eventTime.instant < b.2.eventTime.instant) →
      (∀ call ∈ first :: rest,
        env.fromIso (replaceZ call.2.eventTime.isoformat) = some call.2.eventTime) →
      TakeEffect env source (first :: rest) := by
  intro h
  have hvalid : ∀ call ∈ [((⟨9000000, "2026-07-01T00:00:09+00:00"⟩ : Timestamp), oatsMorning),
      (⟨9500000, "2026-07-01T00:00:09.500000+00:00"⟩, oatsEvening)],
      oatsSource.Valid call.2 ∧
        oatsIntake.fromIso (replaceZ call.2.eventTime.isoformat) = some call.2.eventTime := by
    intro call hcall
    rcases List.mem_pair.mp hcall with rfl | rfl
    · exact ⟨valid_oats.1, fromIso_oats _ (by simp)⟩
    · exact ⟨valid_oats.2, fromIso_oats _ (by simp)⟩
  have htake := h oatsIntake oatsSource (⟨9000000, "2026-07-01T00:00:09+00:00"⟩, oatsMorning)
    [(⟨9500000, "2026-07-01T00:00:09.500000+00:00"⟩, oatsEvening)]
    (fun call hcall => (hvalid call hcall).1)
    (by simp [oatsMorning, oatsEvening]) (fun call hcall => (hvalid call hcall).2)
  have hstep := htake.1 (stepOf (ingestSnapshot oatsIntake oatsSource)
    (ingestSnapshot oatsIntake oatsSource .empty
      (⟨9000000, "2026-07-01T00:00:09+00:00"⟩, oatsMorning)).1
    (⟨9500000, "2026-07-01T00:00:09.500000+00:00"⟩, oatsEvening)) (by simp [trace])
  have hrefused := ingestSnapshot_second oatsIntake valid_oats.1 valid_oats.2
    (fromIso_oats _ (by simp)) (fromIso_oats _ (by simp)) (by decide)
    ⟨9000000, "2026-07-01T00:00:09+00:00"⟩ ⟨9500000, "2026-07-01T00:00:09.500000+00:00"⟩
  rw [stepOf, hrefused] at hstep
  cases hstep

end ShelfWise.Ingest
