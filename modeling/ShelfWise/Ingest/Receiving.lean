import ShelfWise.Ingest.OpenOrders
import ShelfWise.Sys.Reports

/-!
# What has been received of an order

The shipment events of one order in `InMemoryOpenOrderStore`, in whatever order they come in. An event
older than the row is dropped whole, so the units it has received are not counted; `Latest` are the
events that are never dropped.

`receiving_converges_iff` says exactly when the order of the events makes no difference to the units
that are received and remain and to the status. `rowOf_keepNewest` makes `_order_record` an instance
of the register of newest reports.
-/

namespace ShelfWise.Ingest

open Py Sys

/-- A valid shipment event of an order. -/
structure Shipment (utcIso : String → Option String) (key : OrderKey) where
  event : Event
  payload : ShipmentPayload
  valid : shipmentPayload utcIso event = .ok (some payload)
  key_eq : (⟨event.tenantId, event.dataDomain, payload.orderId⟩ : OrderKey) = key

/-- What a row says about receiving. -/
structure Receiving where
  receivedUnits : ℤ
  remainingUnits : ℤ
  status : OrderStatus
deriving DecidableEq

def OrderRecord.receiving (row : OrderRecord) : Receiving :=
  ⟨row.payload.receivedUnits, row.remainingUnits, row.status⟩

/-- The events of a list are observed one after another. -/
def observeAll (utcIso : String → Option String) (events : List Event) (orders : Orders) : Orders :=
  events.foldl (fun orders event => (observeEvent utcIso event orders).1) orders

section Order

variable {utcIso : String → Option String} {key : OrderKey}

/-- The time of a shipment. -/
def Shipment.time (x : Shipment utcIso key) : ℤ := x.event.ts.instant

/-- The units a shipment has received. -/
def Shipment.received (x : Shipment utcIso key) : ℤ := x.payload.receivedUnits

/-- The row of a shipment that is kept with the units received so far. -/
def rowOf (kept : Kept (Shipment utcIso key) ℤ) : OrderRecord :=
  orderRecord.fresh kept.report.event kept.report.payload kept.level

/-- What a reader of the row makes of the units and the shipment. -/
def receivingOf (received : ℤ) (x : Shipment utcIso key) : Receiving :=
  (rowOf ⟨x, received⟩).receiving

theorem receivingOf_eq_iff (received : ℤ) (x y : Shipment utcIso key) :
    receivingOf received x = receivingOf received y ↔
      x.payload.orderedUnits = y.payload.orderedUnits ∨
        x.payload.orderedUnits ≤ received ∧ y.payload.orderedUnits ≤ received := by
  simp only [receivingOf, rowOf, orderRecord.fresh, OrderRecord.receiving, Receiving.mk.injEq,
    true_and]
  constructor
  · rintro ⟨hremaining, -⟩
    omega
  · intro h
    have hremaining : max (x.payload.orderedUnits - received) 0
        = max (y.payload.orderedUnits - received) 0 := by omega
    rw [hremaining]
    exact ⟨rfl, rfl⟩

/-- `_order_record` keeps the newest shipment with the greatest number of units. -/
theorem rowOf_keepNewest (kept : Option (Kept (Shipment utcIso key) ℤ)) (x : Shipment utcIso key) :
    (keepNewest Shipment.time Shipment.received kept x).map rowOf
      = some (orderRecord x.event x.payload (kept.map rowOf)) := by
  cases kept with
  | none => rfl
  | some kept =>
    simp only [keepNewest, Option.map_some, orderRecord]
    have htime : (rowOf kept).eventTs = Shipment.time kept.report := rfl
    rw [htime]
    by_cases hlate : x.time < kept.report.time
    · rw [if_pos hlate]
      exact congrArg some (if_pos hlate).symm
    · rw [if_neg hlate]
      exact congrArg some (if_neg hlate).symm

theorem get?_observeEvent (x : Shipment utcIso key) (orders : Orders) :
    (observeEvent utcIso x.event orders).1.get? key
      = some (orderRecord x.event x.payload (orders.get? key)) := by
  unfold observeEvent
  simp only [x.valid, x.key_eq]
  exact Dict.get?_set_self orders key _

theorem get?_observeAll (xs : List (Shipment utcIso key)) {orders : Orders}
    {kept : Option (Kept (Shipment utcIso key) ℤ)} (h : orders.get? key = kept.map rowOf) :
    (observeAll utcIso (xs.map (·.event)) orders).get? key
      = (keepAll Shipment.time Shipment.received kept xs).map rowOf := by
  induction xs generalizing orders kept with
  | nil => exact h
  | cons x xs ih =>
    refine ih ?_
    rw [get?_observeEvent, h, rowOf_keepNewest]

/-! ## Convergence -/

/-- A shipment that no other one of a list is later than. -/
abbrev Latest (shipments : List (Shipment utcIso key)) (l : Shipment utcIso key) : Prop :=
  Newest Shipment.time shipments l

/-- A latest shipment has received the most units, and the latest shipments agree on the units that
were ordered, unless all of them have been received. -/
structure LatestDecide (shipments : List (Shipment utcIso key)) : Prop where
  received : ∀ x ∈ shipments, ∃ l, Latest shipments l ∧ x.received ≤ l.received
  ordered : ∀ l l', Latest shipments l → Latest shipments l' →
    l.payload.orderedUnits = l'.payload.orderedUnits ∨
      ∃ x ∈ shipments, l.payload.orderedUnits ≤ x.received ∧ l'.payload.orderedUnits ≤ x.received

theorem latestDecide_iff (shipments : List (Shipment utcIso key)) :
    NewestDecide Shipment.time Shipment.received receivingOf shipments ↔ LatestDecide shipments := by
  constructor
  · rintro ⟨hgreatest, hagree⟩
    refine ⟨hgreatest, fun l l' hl hl' => ?_⟩
    -- a latest shipment with the most units
    obtain ⟨top, htop, hall⟩ : ∃ top ∈ shipments, ∀ x ∈ shipments, x.received ≤ top.received := by
      obtain ⟨kept, -, hkeeps⟩ := exists_keeps Shipment.time Shipment.received
        (List.ne_nil_of_mem hl.mem)
      obtain ⟨top, htop, -, hall⟩ := hkeeps.level_eq (fun _ => Iff.rfl) hgreatest
      exact ⟨top, htop, hall⟩
    exact ((receivingOf_eq_iff _ _ _).mp (hagree top htop hall l l' hl hl')).imp id
      fun h => ⟨top, htop, h⟩
  · rintro ⟨hreceived, hordered⟩
    refine ⟨hreceived, fun top htop hall l l' hl hl' => (receivingOf_eq_iff _ _ _).mpr ?_⟩
    exact (hordered l l' hl hl').imp id fun ⟨x, hx, h, h'⟩ =>
      ⟨h.trans (hall x hx), h'.trans (hall x hx)⟩

/-- The shipments of an order, in whatever order and however often they are observed, end in the same
units and the same status exactly when the latest ones decide. -/
theorem receiving_converges_iff (shipments : List (Shipment utcIso key)) {orders : Orders}
    (hnew : orders.get? key = none) :
    (∀ ys zs : List (Shipment utcIso key), (∀ x, x ∈ ys ↔ x ∈ shipments) →
      (∀ x, x ∈ zs ↔ x ∈ shipments) →
        ((observeAll utcIso (ys.map (·.event)) orders).get? key).map OrderRecord.receiving
          = ((observeAll utcIso (zs.map (·.event)) orders).get? key).map OrderRecord.receiving) ↔
    LatestDecide shipments := by
  have hread : ∀ xs : List (Shipment utcIso key),
      (keepAll Shipment.time Shipment.received none xs).map (readout receivingOf)
        = (((observeAll utcIso (xs.map (·.event)) orders).get? key).map
            OrderRecord.receiving).map fun r => (r.receivedUnits, r) := by
    intro xs
    have hnone : orders.get? key = (none : Option (Kept (Shipment utcIso key) ℤ)).map rowOf := hnew
    rw [get?_observeAll xs hnone, Option.map_map, Option.map_map]
    rfl
  have hinjective : Function.Injective fun r : Receiving => (r.receivedUnits, r) :=
    fun _ _ h => congrArg Prod.snd h
  rw [← latestDecide_iff, ← converges_iff]
  refine forall₂_congr fun ys zs => forall₂_congr fun _ _ => ?_
  rw [hread ys, hread zs]
  exact (Option.map_injective hinjective).eq_iff.symm

end Order

/-- A shipment event of twenty units of an order, for an example. -/
def shipmentEvent (id : String) (hid : id ≠ "") (instant received : ℤ) : Event where
  id := id
  type := .shipment
  ts := ⟨instant, "2026-07-13T10:00:00+00:00"⟩
  actor := "receiving desk"
  payload := [("order_id", .str "PO-1"), ("sku", .str "SKU-1"), ("supplier_id", .str "supplier-1"),
    ("ordered_units", .int 20), ("received_units", .int received)]
  source := .wmsCsv
  tenantId := "north"
  dataDomain := .operationalTwin
  correlationId := id
  causationId := none
  schemaVersion := "1.0"
  id_ne := hid
  actor_ne := by decide +kernel
  tenantId_ne := by decide +kernel
  correlationId_ne := hid

/-- The event as a shipment of the order. -/
def shipmentAt (id : String) (hid : id ≠ "") (instant received : ℤ)
    (h : shipmentPayload (fun _ => none) (shipmentEvent id hid instant received)
      = .ok (some ⟨"PO-1", "SKU-1", "supplier-1", 20, received, none⟩)) :
    Shipment (fun _ => none) ⟨"north", .operationalTwin, "PO-1"⟩ where
  event := shipmentEvent id hid instant received
  payload := ⟨"PO-1", "SKU-1", "supplier-1", 20, received, none⟩
  valid := h
  key_eq := rfl

/-- Five of the twenty units have come in. -/
def fiveReceived : Shipment (fun _ => none) ⟨"north", .operationalTwin, "PO-1"⟩ :=
  shipmentAt "shipment-2" (by decide) 2 5 (by decide +kernel)

/-- Then all of them. -/
def allReceived : Shipment (fun _ => none) ⟨"north", .operationalTwin, "PO-1"⟩ :=
  shipmentAt "shipment-3" (by decide) 3 20 (by decide +kernel)

/-- Twelve of them, at an earlier time. -/
def twelveReceived : Shipment (fun _ => none) ⟨"north", .operationalTwin, "PO-1"⟩ :=
  shipmentAt "shipment-1" (by decide) 1 12 (by decide +kernel)

/-- The last shipment has received all units, so the two converge, also when it comes first and is
delivered once more. -/
theorem receiving_converges_received :
    ((observeAll (fun _ => none) ([fiveReceived, allReceived].map (·.event)) Dict.empty).get?
        ⟨"north", .operationalTwin, "PO-1"⟩).map OrderRecord.receiving
      = ((observeAll (fun _ => none) ([allReceived, fiveReceived, allReceived].map (·.event))
          Dict.empty).get? ⟨"north", .operationalTwin, "PO-1"⟩).map OrderRecord.receiving := by
  have hlatest : Latest [fiveReceived, allReceived] allReceived :=
    ⟨by simp, by simp [Shipment.time, fiveReceived, allReceived, shipmentAt, shipmentEvent]⟩
  have honly : ∀ l, Latest [fiveReceived, allReceived] l → l = allReceived := by
    intro l hl
    rcases List.mem_pair.mp hl.mem with rfl | rfl
    · exact absurd (hl.time_le allReceived (by simp)) (by decide)
    · rfl
  refine (receiving_converges_iff [fiveReceived, allReceived] rfl).mpr ⟨fun x hx => ?_, ?_⟩ _ _
    (fun _ => Iff.rfl) fun x => ?_
  · refine ⟨_, hlatest, ?_⟩
    rcases List.mem_pair.mp hx with rfl | rfl
    · decide
    · decide
  · intro l l' hl hl'
    rw [honly l hl, honly l' hl']
    exact .inl rfl
  · simp only [List.mem_cons, List.not_mem_nil, or_false]
    tauto

/-- A late shipment is dropped with the units it has received, which would have counted in time. -/
theorem receiving_depends_on_order :
    ((observeAll (fun _ => none) [fiveReceived.event, twelveReceived.event] Dict.empty).get?
        ⟨"north", .operationalTwin, "PO-1"⟩).map OrderRecord.receiving = some ⟨5, 15, .open⟩ ∧
      ((observeAll (fun _ => none) [twelveReceived.event, fiveReceived.event] Dict.empty).get?
        ⟨"north", .operationalTwin, "PO-1"⟩).map OrderRecord.receiving
          = some ⟨12, 8, .open⟩ := by
  decide +kernel

end ShelfWise.Ingest
