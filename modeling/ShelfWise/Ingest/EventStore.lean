import ShelfWise.Contracts.Event
import Mathlib.Data.Finset.Insert

/-!
# The event store and the event bus

`InMemoryEventStore` of `shelfwise_backend/event_store.py` and `publish` of the in-memory bus of
`shelfwise_backend/event_bus.py`. The store keeps the event as it came, with the time of its
receipt, and the set of the events that reached the bus.

`now` is the text of the clock.
-/

namespace ShelfWise.Ingest

open Py

/-! ## The event store -/

/-- The key of an event. -/
structure EventKey where
  tenantId : String
  dataDomain : DataDomain
  eventId : String
deriving DecidableEq

/-- The key under which an event is recorded. -/
def eventKey (event : Event) : EventKey := ⟨event.tenantId, event.dataDomain, event.id⟩

/-- `InMemoryEventStore`. -/
structure EventStore where
  events : Dict EventKey (List (String × Value))
  published : Finset EventKey

namespace EventStore

/-- The store as it is constructed. -/
def empty : EventStore := ⟨Dict.empty, ∅⟩

/-- What is stored for an event received at a time. -/
def storedPayload (now : String) (event : Event) : List (String × Value) :=
  Value.setDefault event.toDict "received_at" (.str now)

/-- `record`. -/
def record (now : String) (event : Event) (s : EventStore) : EventStore × Bool :=
  if s.events.contains (eventKey event) then (s, false)
  else ({ s with events := s.events.set (eventKey event) (storedPayload now event) }, true)

/-- `get`. -/
def get (k : EventKey) (s : EventStore) : Option (List (String × Value)) := s.events.get? k

/-- `is_published`. -/
def isPublished (k : EventKey) (s : EventStore) : Bool := k ∈ s.published

/-- `mark_published`. -/
def markPublished (k : EventKey) (s : EventStore) : EventStore :=
  { s with published := insert k s.published }

/-- `list`: the newest rows of a tenant and a domain, newest first. -/
def list (limit : ℤ) (tenantId : Option String) (dataDomain : Option DataDomain) (s : EventStore) :
    Except Exc (List (List (String × Value))) :=
  if limit ≤ 0 ∨ 500 < limit then .error (.valueError "limit must be between 1 and 500")
  else
    let rows := (s.events.entries.filter fun e =>
      tenantId.all (· = e.1.tenantId) && dataDomain.all (· = e.1.dataDomain)).map Prod.snd
    .ok (rows.drop (rows.length - limit.toNat)).reverse

variable {event : Event} {s : EventStore}

theorem record_of_known (h : s.events.contains (eventKey event) = true) (now : String) :
    s.record now event = (s, false) := by
  rw [record, if_pos h]

theorem record_of_new (h : s.events.contains (eventKey event) = false) (now : String) :
    s.record now event =
      ({ s with events := s.events.set (eventKey event) (storedPayload now event) }, true) := by
  rw [record, if_neg (by simp [h])]

variable {field : String} {value : Value}

/-- What is stored for an event agrees with the event on every field of it. -/
theorem lookup_storedPayload (now : String) (h : (field, value) ∈ event.toDict) :
    Dict.lookup field (storedPayload now event) = some value := by
  have hfield := Dict.lookup_of_mem event.nodup_toDict h
  have hreceived : Dict.lookup "received_at" event.toDict = none := by
    simp [Event.toDict, Dict.lookup]
  have hne : "received_at" ≠ field := by
    rintro rfl
    rw [hfield] at hreceived
    cases hreceived
  rw [storedPayload, Value.setDefault, hreceived, if_neg (by simp), Value.setItem,
    Dict.lookup_setEntries, if_neg hne, hfield]

theorem get_storedPayload (now : String) (h : (field, value) ∈ event.toDict) :
    Value.get (storedPayload now event) field = value := by
  rw [Value.get, lookup_storedPayload now h]
  rfl

end EventStore

/-! ## The event bus -/

/-- A message on the bus. -/
structure BusMessage where
  messageId : String
  stream : String
  event : List (String × Value)
deriving DecidableEq

/-- `stream_name`. -/
def streamName (tenantId : String) : String :=
  let tenant := strip tenantId
  "shelfwise:events:" ++ if tenant = "" then "default" else tenant

/-- The message `publish` puts on a bus that has carried `n` messages. -/
def busMessage (event : Event) (n : ℕ) : BusMessage :=
  ⟨"mem-" ++ toString (n + 1), streamName event.tenantId, event.toDict⟩

/-- `publish`. -/
def publish (event : Event) (bus : List BusMessage) : List BusMessage × String :=
  let message := busMessage event bus.length
  (bus ++ [message], message.messageId)

end ShelfWise.Ingest
