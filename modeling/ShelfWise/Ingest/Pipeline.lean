import ShelfWise.Decisions.Store
import ShelfWise.Ingest.Dispatcher
import ShelfWise.Ingest.EventStore
import ShelfWise.Ingest.OpenOrders
import ShelfWise.Twin.Service

/-!
# The ingest pipeline

`shelfwise_backend/ingest_pipeline.py` with `twin_projection.py`: an event is recorded, observed by
the open orders, projected into the inventory and the twin, published, marked as published, and
only then handed to the cascades, whose decision is stored. Each store call is an atomic step of a
program over the state of all stores, so that a call can die between any two of them.

The cascades and the governance of their results are parameters. The background worker is off. Traces and their attribution are left out, since the
pipeline does not read them back.
-/

namespace ShelfWise.Ingest

open Py Sys

/-- What the pipeline is wired with. -/
structure Pipeline where
  twinService : Twin.TwinService
  utcIso : String → Option String
  cascades : Cascades
  attachGovernance : CascadeResult → Except Exc CascadeResult

/-- The stores the pipeline writes to, and the bus. -/
structure IngestState where
  events : EventStore
  orders : Orders
  inventory : Inventory.Store
  twin : Twin.TwinStore
  bus : List BusMessage
  decisions : Decisions.Store

/-- The stores as they are constructed. -/
def IngestState.empty : IngestState where
  events := .empty
  orders := .empty
  inventory := .empty
  twin := .empty
  bus := []
  decisions := .empty

/-- The steps of the pipeline. -/
inductive IngestOp where
  | recordEvent
  | getEvent
  | isPublished
  | observeOrder
  | projectInventory
  | projectTwin
  | publish
  | markPublished
  | dispatch
  | upsertDecision
deriving DecidableEq

/-! ## The twin -/

/-- What `project_twin_event` reports. -/
inductive TwinOutcome where
  | notReplayed
  | skippedNonOperational
  | quarantined
  | ignoredNoStore
  | projected (observations : List Twin.ProjectionResult)

/-- The report on what `project_event` of the twin service returned or raised. -/
def twinOutcome (event : Event) : Except Exc (List Twin.ProjectionResult) → TwinOutcome
  | .error e =>
    if e = Twin.boundaryError event.dataDomain then .skippedNonOperational else .quarantined
  | .ok [] => .ignoredNoStore
  | .ok results => .projected results

/-- `project_twin_event`: no failure of the projection gets out. -/
def projectTwinEvent (env : Pipeline) (now : Timestamp) (event : Event) (s : IngestState) :
    IngestState × TwinOutcome :=
  let projected := (Twin.projectEvent env.twinService now event).run s.twin
  ({ s with twin := projected.1 }, twinOutcome event projected.2)

/-! ## Cascades -/

/-- The defaults `record_cascade` sets in a result and its decision. -/
def withDataDomain (result : CascadeResult) : CascadeResult :=
  let result := Value.setDefault result "data_domain" (.str DataDomain.worldSimulation.value)
  match Value.get result "decision" with
  | .dict decision => Value.setItem result "decision"
      (.dict (Value.setDefault decision "data_domain" (Value.get result "data_domain")))
  | _ => result

/-- The decision of a result that `record_cascade` stores: a dictionary with an id. -/
def storedDecision (result : CascadeResult) : Option Decisions.Decision :=
  match Value.get result "decision" with
  | .dict decision => if (Value.get decision "id").truthy then some decision else none
  | _ => none

/-- `decision_store.upsert`. -/
def upsertDecision (now : Timestamp) (decision : Decisions.Decision) (s : IngestState) :
    IngestState × Except Exc Decisions.Decision :=
  ({ s with decisions := (Decisions.upsert now.isoformat decision s.decisions).1 },
    (Decisions.upsert now.isoformat decision s.decisions).2)

/-- `record_cascade`. -/
def recordCascade (env : Pipeline) (now : Timestamp) (result : CascadeResult) :
    Program IngestOp IngestState (Except Exc CascadeResult) :=
  match env.attachGovernance (withDataDomain result) with
  | .error e => .ret (.error e)
  | .ok result => match storedDecision result with
    | none => .ret (.ok result)
    | some decision =>
      (Program.call .upsertDecision (upsertDecision now decision)).bindExcept fun record =>
        .ret (.ok (Value.setItem result "decision" (.dict record)))

/-- `cascade_for_event`. -/
def cascadeForEvent (env : Pipeline) (now : Timestamp) (event : Event) :
    Program IngestOp IngestState (Except Exc (Option CascadeResult)) :=
  (Program.call .dispatch fun s => (s, dispatch env.cascades event s.inventory s.twin)).bindExcept fun
    | none => .ret (.ok none)
    | some result => (recordCascade env now result).bindExcept fun result => .ret (.ok (some result))

/-! ## Events -/

/-- The answer of the pipeline; `bus_message_id` and what follows are there when the event was
accepted. -/
inductive IngestReceipt where
  | duplicate (event : Event)
  | accepted (event : Event) (busMessageId : String) (cascade : Option CascadeResult)
      (twin : TwinOutcome) (inventory : Inventory.Projected)

/-- `_same_event_payload`. -/
def sameEventPayload (stored : Option (List (String × Value))) (event : Event) : Bool :=
  match stored with
  | none => false
  | some stored => event.toDict.all fun e => (Value.get stored e.1).eq e.2

/-- `event_store.record`. -/
def recordEvent (now : Timestamp) (event : Event) (s : IngestState) : IngestState × Bool :=
  ({ s with events := (s.events.record now.isoformat event).1 },
    (s.events.record now.isoformat event).2)

/-- `open_order_store.observe_event`. -/
def observeOrder (env : Pipeline) (event : Event) (s : IngestState) :
    IngestState × Except Exc (Option OrderRecord) :=
  ({ s with orders := (observeEvent env.utcIso event s.orders).1 },
    (observeEvent env.utcIso event s.orders).2)

/-- `inventory_position_store.project_event`. -/
def projectInventory (now : Timestamp) (event : Event) (s : IngestState) :
    IngestState × Except Exc Inventory.Projected :=
  ({ s with inventory := (s.inventory.projectEvent now.isoformat event.toDict).1 },
    (s.inventory.projectEvent now.isoformat event.toDict).2)

/-- `event_bus.publish`. -/
def publishEvent (event : Event) (s : IngestState) : IngestState × String :=
  ({ s with bus := (publish event s.bus).1 }, (publish event s.bus).2)

/-- `event_store.mark_published`. -/
def markPublished (event : Event) (s : IngestState) : IngestState × Unit :=
  ({ s with events := s.events.markPublished (eventKey event) }, ())

/-- The part of `record_pipeline_event` from the publication on. -/
def publishAndCascade (env : Pipeline) (now : Timestamp) (event : Event) (twin : TwinOutcome)
    (inventory : Inventory.Projected) : Program IngestOp IngestState (Except Exc IngestReceipt) :=
  Program.call .publish (publishEvent event) >>= fun busMessageId =>
    Program.call .markPublished (markPublished event) >>= fun _ =>
      (cascadeForEvent env now event).bindExcept fun cascade =>
        .ret (.ok (.accepted event busMessageId cascade twin inventory))

/-- The part of `record_pipeline_event` that a duplicate does not reach. -/
def acceptEvent (env : Pipeline) (now : Timestamp) (event : Event) :
    Program IngestOp IngestState (Except Exc IngestReceipt) :=
  (Program.call .observeOrder (observeOrder env event)).bindExcept fun _ =>
    (Program.call .projectInventory (projectInventory now event)).bindExcept fun inventory =>
      Program.call .projectTwin (projectTwinEvent env now event) >>= fun twin =>
        publishAndCascade env now event twin inventory

/-- `record_pipeline_event`. -/
def recordPipelineEvent (env : Pipeline) (now : Timestamp) (event : Event) :
    Program IngestOp IngestState (Except Exc IngestReceipt) :=
  Program.call .recordEvent (recordEvent now event) >>= fun isNew =>
    if isNew then acceptEvent env now event
    else Program.call .getEvent (fun s => (s, s.events.get (eventKey event))) >>= fun stored =>
      if sameEventPayload stored event then
        Program.call .isPublished (fun s => (s, s.events.isPublished (eventKey event))) >>=
          fun published =>
            if published then .ret (.ok (.duplicate event)) else acceptEvent env now event
      else .ret (.error (.httpException 409 "Event id already has different content"))

end ShelfWise.Ingest
