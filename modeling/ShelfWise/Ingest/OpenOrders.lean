import ShelfWise.Contracts.Event

/-!
# Open orders

`shelfwise_backend/open_orders.py`: shipments observed for the orders of a tenant. Observing the same
event again changes nothing (`observeEvent_again`).

`utcIso` is what `datetime.fromisoformat` and `astimezone(UTC).isoformat()` make of a text, if it is
a date. A record keeps the instant of its event; the source keeps its UTC text.
-/

namespace ShelfWise.Ingest

open Py

/-! ## Shipments -/

/-- What a shipment event says about an order. -/
structure ShipmentPayload where
  orderId : String
  sku : String
  supplierId : String
  orderedUnits : ℤ
  receivedUnits : ℤ
  eta : Option String
deriving DecidableEq

/-- The status of an order. -/
inductive OrderStatus where
  | open
  | fulfilled
deriving DecidableEq

/-- A row of the ledger: the shipment with the units received so far; `updated_at` is the time of
the event too. -/
structure OrderRecord where
  tenantId : String
  dataDomain : DataDomain
  payload : ShipmentPayload
  remainingUnits : ℤ
  status : OrderStatus
  sourceEventId : String
  eventTs : ℤ
deriving DecidableEq

/-- The key of an order. -/
structure OrderKey where
  tenantId : String
  dataDomain : DataDomain
  orderId : String
deriving DecidableEq

/-- `InMemoryOpenOrderStore`. -/
abbrev Orders := Dict OrderKey OrderRecord

/-- `_parse_eta`. -/
def parseEta (utcIso : String → Option String) (value : Value) : Option String :=
  if value = .none then none
  else
    let text := strip value.toText
    if text = "" then none else utcIso (replaceZ text)

/-- `_shipment_payload`. -/
def shipmentPayload (utcIso : String → Option String) (event : Event) :
    Except Exc (Option ShipmentPayload) :=
  if event.type ≠ .shipment then .ok none
  else
    let get := Value.get event.payload
    match (((get "ordered_units").orElse (get "quantity")).orElse (.int 0)).intOrNone with
    | .error e => .error e
    | .ok none => .ok none
    | .ok (some orderedUnits) => match ((get "received_units").orElse (.int 0)).intOrNone with
      | .error e => .error e
      | .ok none => .ok none
      | .ok (some receivedUnits) =>
        let sku := strip ((get "sku").orElse (.str "")).toText
        let eta := parseEta utcIso (get "eta")
        if sku = "" ∨ orderedUnits ≤ 0 then .ok none
        else if (get "eta").truthy ∧ eta = none then .ok none
        else .ok (some
          { orderId := (((get "order_id").orElse (get "po_id")).orElse
              (.str ("po:" ++ event.id))).toText
            sku := sku
            supplierId := (((get "supplier_id").orElse (get "supplier")).orElse
              (.str "unknown")).toText
            orderedUnits := orderedUnits
            receivedUnits := max receivedUnits 0
            eta := eta })

/-! ## The ledger -/

/-- `_order_record`: an older event leaves the row, and received units do not go down. -/
def orderRecord (event : Event) (payload : ShipmentPayload) (existing : Option OrderRecord) :
    OrderRecord :=
  match existing with
  | some row =>
    if event.ts.instant < row.eventTs then row
    else fresh (max payload.receivedUnits row.payload.receivedUnits)
  | none => fresh payload.receivedUnits
where
  /-- The row of an event that is not older. -/
  fresh (received : ℤ) : OrderRecord :=
    let remaining := max (payload.orderedUnits - received) 0
    { tenantId := event.tenantId
      dataDomain := event.dataDomain
      payload := { payload with receivedUnits := received }
      remainingUnits := remaining
      status := if remaining > 0 then .open else .fulfilled
      sourceEventId := event.id
      eventTs := event.ts.instant }

/-- `observe_event`. -/
def observeEvent (utcIso : String → Option String) (event : Event) (orders : Orders) :
    Orders × Except Exc (Option OrderRecord) :=
  match shipmentPayload utcIso event with
  | .error e => (orders, .error e)
  | .ok none => (orders, .ok none)
  | .ok (some payload) =>
    let k : OrderKey := ⟨event.tenantId, event.dataDomain, payload.orderId⟩
    let record := orderRecord event payload (orders.get? k)
    (orders.set k record, .ok (some record))

theorem orderRecord_again (event : Event) (payload : ShipmentPayload)
    (existing : Option OrderRecord) :
    orderRecord event payload (some (orderRecord event payload existing))
      = orderRecord event payload existing := by
  cases existing with
  | none =>
    simp only [orderRecord, orderRecord.fresh, lt_irrefl, if_false, max_self]
  | some row =>
    by_cases hstale : event.ts.instant < row.eventTs
    · simp only [orderRecord, hstale, if_true]
    · simp only [orderRecord, orderRecord.fresh, hstale, lt_irrefl, if_false, le_max_left,
        max_eq_right]

/-- Observing the same event again changes nothing and answers the same. -/
theorem observeEvent_again (utcIso : String → Option String) (event : Event) (orders : Orders) :
    observeEvent utcIso event (observeEvent utcIso event orders).1
      = observeEvent utcIso event orders := by
  unfold observeEvent
  cases shipmentPayload utcIso event with
  | error e => rfl
  | ok payload =>
    cases payload with
    | none => rfl
    | some payload =>
      simp only [Dict.get?_set_self, orderRecord_again, Dict.set_set]

end ShelfWise.Ingest
