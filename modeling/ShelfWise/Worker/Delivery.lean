import ShelfWise.Decisions.Store
import ShelfWise.Sys.Fallible
import ShelfWise.Worker.EventBus
import ShelfWise.Worker.RunIds

/-!
# Deliveries of the cascade worker

`CascadeWorker.process_one` of `shelfwise_backend/worker/worker.py` over the in-memory bus, journal and
decision store. A delivery takes a message off the bus, runs the handler under the journal, stores the
decision, finishes the run and acknowledges the message; when an exception comes up on the way, it
records the failure and gives the message back.

What the handler answers and which store calls raise is an input of each delivery. The failure is
recorded before the message is given back, and an exception there is not caught: `nothing_lost_iff`
says that this is the only way to lose a message.

`fromIso` is what `datetime.fromisoformat` makes of a text. The tenant context is read by the Postgres
stores only, and is left out.
-/

namespace ShelfWise.Worker

open Py Sys Ingest

/-! ## Events on the wire -/

/-- The event types, in the order of their declaration. -/
def EventType.all : List EventType :=
  [.scan, .sale, .coldChainAlert, .stockUpdate, .expiryEntry, .supplierUpdate, .shipment,
    .recallNotice, .inventoryException]

/-- The event sources, in the order of their declaration. -/
def EventSource.all : List EventSource := [.api, .manual, .posCsv, .scanner, .wmsCsv]

/-- The member of an enumeration with a value. -/
def memberOf {α : Type} (name : String) (all : List α) (value : α → String) (text : String) :
    Except Exc α :=
  match all.find? fun a => value a = text with
  | some a => .ok a
  | none => .error (.valueError (Value.reprText text ++ " is not a valid " ++ name))

/-- A text of an event; `to_dict` writes nothing else there. -/
def textField (data : Items) (key default : String) : Except Exc String :=
  match Value.getD data key (.str default) with
  | .str text => .ok text
  | _ => .error (.valueError ("event " ++ key ++ " is not a text"))

/-- `_datetime` of a text. -/
def wireDatetime (fromIso : String → Option Timestamp) (text : String) : Except Exc Timestamp :=
  match fromIso (replaceZ text) with
  | some ts => .ok ts
  | none => .error (.valueError ("Invalid isoformat string: " ++ Value.reprText (replaceZ text)))

/-- The payload of an event. -/
def wirePayload : Value → Except Exc Items
  | .dict payload => .ok payload
  | _ => .error (.valueError "event payload must be an object")

/-- A text or `None`. -/
def textOrNone : Value → Option String
  | .str text => some text
  | _ => none

/-- The required fields that are missing. -/
def missingFields (data : Items) : List String :=
  ["actor", "id", "payload", "ts", "type"].filter fun key => (Dict.lookup key data).isNone

/-- `Event.parse_wire`. -/
def parseWire (fromIso : String → Option Timestamp) (data : Items) : Except Exc Event :=
  if missingFields data ≠ [] then
    .error (.valueError
      ("event missing fields: " ++ Value.repr (.list ((missingFields data).map .str))))
  else do
    let id ← textField data "id" ""
    let actor ← textField data "actor" ""
    let tenantId ← textField data "tenant_id" "default"
    let payload ← wirePayload (Value.get data "payload")
    let ts ← textField data "ts" "" >>= wireDatetime fromIso
    let type ← textField data "type" "" >>= memberOf "EventType" EventType.all EventType.value
    let source ← textField data "source" EventSource.api.value >>=
      memberOf "EventSource" EventSource.all EventSource.value
    let dataDomain ← normalizeDomain
      (Value.getD data "data_domain" (.str DataDomain.operationalTwin.value)) .operationalTwin
    let correlationId ← textField data "correlation_id" ""
    let schemaVersion ← textField data "schema_version" "v1"
    Event.build id type ts actor payload source tenantId dataDomain correlationId
      (textOrNone (Value.get data "causation_id")) schemaVersion

/-- A parsed event has the id of its row. -/
theorem textField_of_parseWire {fromIso : String → Option Timestamp} {data : Items} {event : Event}
    (h : parseWire fromIso data = .ok event) : textField data "id" "" = .ok event.id := by
  unfold parseWire at h
  split at h
  · cases h
  · obtain ⟨id, hid, h⟩ := bind_eq_ok_iff.mp h
    obtain ⟨actor, -, h⟩ := bind_eq_ok_iff.mp h
    obtain ⟨tenantId, -, h⟩ := bind_eq_ok_iff.mp h
    obtain ⟨payload, -, h⟩ := bind_eq_ok_iff.mp h
    obtain ⟨ts, -, h⟩ := bind_eq_ok_iff.mp h
    obtain ⟨type, -, h⟩ := bind_eq_ok_iff.mp h
    obtain ⟨source, -, h⟩ := bind_eq_ok_iff.mp h
    obtain ⟨dataDomain, -, h⟩ := bind_eq_ok_iff.mp h
    obtain ⟨correlationId, -, h⟩ := bind_eq_ok_iff.mp h
    obtain ⟨schemaVersion, -, h⟩ := bind_eq_ok_iff.mp h
    rw [hid, Event.id_of_build h]

section

variable {fromIso : String → Option Timestamp} (received : String)

theorem textField_stored {event : Event} {key text default : String}
    (h : (key, .str text) ∈ event.toDict) :
    textField (EventStore.storedPayload received event) key default = .ok text := by
  unfold textField Value.getD
  rw [EventStore.lookup_storedPayload received h]
  rfl

theorem memberOf_value_type (type : EventType) :
    memberOf "EventType" EventType.all EventType.value type.value = .ok type := by
  cases type <;> rfl

theorem memberOf_value_source (source : EventSource) :
    memberOf "EventSource" EventSource.all EventSource.value source.value = .ok source := by
  cases source <;> rfl

theorem normalizeDomain_value (dataDomain default : DataDomain) :
    normalizeDomain (.str dataDomain.value) default = .ok dataDomain := by
  cases dataDomain <;> cases default <;> decide +kernel

/-- A recorded event is read back from its row, when its time is. -/
theorem parseWire_stored {event : Event} (hiso : fromIso (replaceZ event.ts.isoformat) = some event.ts)
    (hbuild : Event.build event.id event.type event.ts event.actor event.payload event.source
      event.tenantId event.dataDomain event.correlationId event.causationId event.schemaVersion
        = .ok event) :
    parseWire fromIso (EventStore.storedPayload received event) = .ok event := by
  have hlookup : ∀ key value, (key, value) ∈ event.toDict →
      Dict.lookup key (EventStore.storedPayload received event) = some value :=
    fun _ _ h => EventStore.lookup_storedPayload received h
  have htext : ∀ key text default, (key, .str text) ∈ event.toDict →
      textField (EventStore.storedPayload received event) key default = .ok text :=
    fun _ _ _ h => textField_stored received h
  have hgetPayload : Value.get (EventStore.storedPayload received event) "payload" =
      .dict event.payload := EventStore.get_storedPayload received (by simp [Event.toDict])
  have hmissing : missingFields (EventStore.storedPayload received event) = [] := by
    have hactor := hlookup "actor" (.str event.actor) (by simp [Event.toDict])
    have hid := hlookup "id" (.str event.id) (by simp [Event.toDict])
    have hpayload := hlookup "payload" (.dict event.payload) (by simp [Event.toDict])
    have hts := hlookup "ts" (.str event.ts.isoformat) (by simp [Event.toDict])
    have htype := hlookup "type" (.str event.type.value) (by simp [Event.toDict])
    simp [missingFields, hactor, hid, hpayload, hts, htype]
  have hdomain : Value.getD (EventStore.storedPayload received event) "data_domain"
      (.str DataDomain.operationalTwin.value) = .str event.dataDomain.value := by
    unfold Value.getD
    rw [hlookup _ (.str event.dataDomain.value) (by simp [Event.toDict])]
    rfl
  have hcausation : textOrNone (Value.get (EventStore.storedPayload received event) "causation_id")
      = event.causationId := by
    have hstored : Value.get (EventStore.storedPayload received event) "causation_id" =
        optionalText event.causationId :=
      EventStore.get_storedPayload received (by simp [Event.toDict])
    rw [hstored]
    cases event.causationId <;> rfl
  unfold parseWire
  rw [if_neg (fun h => h hmissing),
    htext _ event.id _ (by simp [Event.toDict]),
    htext _ event.actor _ (by simp [Event.toDict]),
    htext _ event.tenantId _ (by simp [Event.toDict]), hgetPayload,
    htext _ event.ts.isoformat _ (by simp [Event.toDict]),
    htext _ event.type.value _ (by simp [Event.toDict]),
    htext _ event.source.value _ (by simp [Event.toDict]), hdomain,
    htext _ event.correlationId _ (by simp [Event.toDict]),
    htext _ event.schemaVersion _ (by simp [Event.toDict]), hcausation,
    normalizeDomain_value]
  have hts : wireDatetime fromIso event.ts.isoformat = .ok event.ts := by
    unfold wireDatetime
    rw [hiso]
  show (wireDatetime fromIso event.ts.isoformat >>= fun ts => _) = _
  rw [hts]
  show (memberOf "EventType" EventType.all EventType.value event.type.value >>= fun type => _) = _
  rw [memberOf_value_type]
  show (memberOf "EventSource" EventSource.all EventSource.value event.source.value >>=
    fun source => _) = _
  rw [memberOf_value_source]
  exact hbuild

end

/-! ## The worker -/

/-- The calls of a delivery that may raise. -/
inductive StoreCall where
  | startRun
  | lookupCascade
  | recordCascade
  | lookupDecision
  | upsertDecision
  | recordDecision
  | finishDone
  | finishFailed
deriving DecidableEq

/-- A store call that raises, before or after it has taken effect. -/
structure StoreFault where
  exc : Exc
  applied : Bool

/-- A call of `process_one`: its stream, the text of the clock, what the handler answers if it is
called, and the store calls that raise. -/
structure Delivery where
  stream : Option String
  now : String
  answer : Except Exc Items
  fault : StoreCall → Option StoreFault

/-- The bus, the journal and the decision store. -/
structure WorkerState where
  bus : EventBus
  journal : Journal
  decisions : Decisions.Store

/-- `WorkerResult`; `error` is the exception whose text the source keeps. -/
structure WorkerResult where
  processed : Bool
  status : String
  messageId : Option String
  runId : Option String
  cascade : Option Items
  error : Option Exc
  deadLettered : Bool

/-- What a worker does with its state. -/
abbrev WorkerAction := Fallible WorkerState Exc

namespace Delivery

/-- A store call. -/
def call {α : Type} (d : Delivery) (c : StoreCall) (action : WorkerAction α) : WorkerAction α :=
  match d.fault c with
  | none => action
  | some fault => fun w =>
    (if fault.applied then (action.run w).1 else w, .error fault.exc)

/-- `journal.get`. -/
def lookup (d : Delivery) (c : StoreCall) (runId stepKey : String) :
    WorkerAction (Option Items) :=
  d.call c fun w => (w, .ok (w.journal.get runId stepKey))

/-- `journal.put`. -/
def record (d : Delivery) (c : StoreCall) (runId stepKey : String) (output : Items) :
    WorkerAction Unit :=
  d.call c <| .update fun w => { w with journal := w.journal.put runId stepKey output none }

/-- `journal.finish_run`. -/
def finishRun (d : Delivery) (c : StoreCall) (runId status : String) : WorkerAction Unit :=
  d.call c <| .update fun w => { w with journal := w.journal.finishRun d.now runId status }

/-- `journaled`. -/
def journaled (d : Delivery) (lookupCall recordCall : StoreCall) (runId stepKey : String)
    (fn : WorkerAction Items) : WorkerAction Items := do
  match ← d.lookup lookupCall runId stepKey with
  | some seen => pure seen
  | none =>
    let output ← fn
    d.record recordCall runId stepKey output
    pure output

/-- The run is started, and the cascade is the output recorded for it or that of the handler. -/
def obtainCascade (d : Delivery) (event : Event) : WorkerAction Items := do
  d.call .startRun <| .update fun w =>
    { w with journal := w.journal.startRun d.now (eventRunId event) event.tenantId event.dataDomain }
  d.journaled .lookupCascade .recordCascade (eventRunId event) "cascade" (.ofExcept d.answer)

end Delivery

/-- The decision of a cascade, if it has one. -/
def decisionOf (cascade : Items) : Option Items :=
  match Value.get cascade "decision" with
  | .dict decision => some decision
  | _ => none

/-- The step under which a decision is journaled. -/
def persistKey (decision : Items) : String :=
  "decision_persist:" ++ (Value.getD decision "id" (.str "unknown")).toText

namespace Delivery

/-- `decision_store.upsert`, wrapped as the output of a step. -/
def upsertDecision (d : Delivery) (decision : Items) : WorkerAction Items := do
  let stored ← d.call .upsertDecision fun w =>
    let (decisions, answer) := Decisions.upsert d.now decision w.decisions
    ({ w with decisions }, answer)
  pure [("decision", .dict stored)]

/-- `_persist_decision`. -/
def persistDecision (d : Delivery) (runId : String) (cascade : Items) :
    WorkerAction (Option Items) :=
  match decisionOf cascade with
  | none => pure none
  | some decision => do
    let result ← d.journaled .lookupDecision .recordDecision runId (persistKey decision)
      (d.upsertDecision decision)
    pure (decisionOf result)

/-- The cascade with the decision as it was stored. -/
def withPersisted (cascade : Items) : Option Items → Items
  | some persisted => Value.setItem cascade "decision" (.dict persisted)
  | none => cascade

/-- From the cascade to the acknowledgement. -/
def settle (d : Delivery) (m : BusMessage) (event : Event) (cascade : Items) :
    WorkerAction Items := do
  let persisted ← d.persistDecision (eventRunId event) cascade
  d.finishRun .finishDone (eventRunId event) "done"
  Fallible.update fun w => { w with bus := w.bus.ack m.stream m.messageId }
  pure (withPersisted cascade persisted)

/-- The part of `process_one` whose exceptions are caught. -/
def attempt (fromIso : String → Option Timestamp) (d : Delivery) (m : BusMessage) :
    WorkerAction WorkerResult := do
  let event ← Fallible.ofExcept (parseWire fromIso m.event)
  let cascade ← d.obtainCascade event
  let settled ← d.settle m event cascade
  pure ⟨true, "done", some m.messageId, some (eventRunId event), some settled, none, false⟩

/-- `_run_id_from_message`. -/
def runIdFromMessage (fromIso : String → Option Timestamp) (m : BusMessage) : Option String :=
  match parseWire fromIso m.event with
  | .ok event => some (eventRunId event)
  | .error _ =>
    let text := (((Value.get m.event "id").orElse (Value.get m.event "correlation_id")).orElse
      (.str "")).toText
    if text = "" then none else some text

/-- `if run_id: self._journal.finish_run(run_id, status="failed")`. -/
def recordFailure (fromIso : String → Option Timestamp) (d : Delivery) (m : BusMessage) :
    WorkerAction Unit :=
  match runIdFromMessage fromIso m with
  | some runId => d.finishRun .finishFailed runId "failed"
  | none => pure ()

/-- What `process_one` does about an exception. -/
def handleFailure (fromIso : String → Option Timestamp) (d : Delivery) (m : BusMessage) (e : Exc) :
    WorkerAction WorkerResult := do
  d.recordFailure fromIso m
  let deadLettered ← (fun w =>
    ({ w with bus := (w.bus.nack m.messageId).1 }, .ok (w.bus.nack m.messageId).2) :
      WorkerAction Bool)
  pure ⟨true, "failed", some m.messageId, runIdFromMessage fromIso m, none, some e, deadLettered⟩

/-- The state after a message was taken off the bus. -/
def consumed (d : Delivery) (w : WorkerState) : WorkerState :=
  { w with bus := (w.bus.consumeOne d.stream).1 }

end Delivery

/-- `process_one`. -/
def processOne (fromIso : String → Option Timestamp) (d : Delivery) : WorkerAction WorkerResult :=
  fun w => match (w.bus.consumeOne d.stream).2 with
  | none => (d.consumed w, .ok ⟨false, "idle", none, none, none, none, false⟩)
  | some m => match (d.attempt fromIso m).run (d.consumed w) with
    | (w, .ok result) => (w, .ok result)
    | (w, .error e) => (d.handleFailure fromIso m e).run w

/-! ## Runs of the worker -/

/-- A call of a publisher or of the worker. -/
inductive WorkerCall where
  | publish (event : Event)
  | process (d : Delivery)

/-- What a call returns; an exception leaves `process_one` too. -/
inductive WorkerAnswer where
  | published (messageId : String)
  | processed (result : Except Exc WorkerResult)

/-- One call. -/
def workerStep (fromIso : String → Option Timestamp) (w : WorkerState) :
    WorkerCall → WorkerState × WorkerAnswer
  | .publish event =>
    ({ w with bus := (w.bus.publish event).1 }, .published (w.bus.publish event).2)
  | .process d =>
    (((processOne fromIso d).run w).1, .processed ((processOne fromIso d).run w).2)

/-- A step of a run. -/
abbrev WorkerStep := Step WorkerState WorkerCall WorkerAnswer

/-- A bus without messages, and an empty journal and decision store. -/
def WorkerState.init (maxRetries : ℤ) : WorkerState := ⟨.init maxRetries, .empty, .empty⟩

/-- The delivery of a step, with the message it takes off the bus. -/
def deliveryOf (step : WorkerStep) : Option (Delivery × BusMessage) :=
  match step.input with
  | .publish _ => none
  | .process d => (step.before.bus.consumeOne d.stream).2.map fun m => (d, m)

/-- How often a message was delivered. -/
def deliveries (history : List WorkerStep) (m : BusMessage) : ℕ :=
  history.countP fun step => (deliveryOf step).map Prod.snd = some m

/-- The cascade that a step is the first to record under a run. -/
def recordedOutput (runId : String) (step : WorkerStep) : Option Items :=
  if step.before.journal.get runId "cascade" = none then step.after.journal.get runId "cascade"
  else none

/-- The first cascade recorded under a run. -/
def firstOutput (history : List WorkerStep) (runId : String) : Option Items :=
  history.findSome? (recordedOutput runId)

section Claims

variable (fromIso : String → Option Timestamp)

/-- A message is acknowledged only if the decision of its cascade is in the store, when there is one,
and its run is done. -/
def AcknowledgedDone (step : WorkerStep) : Prop :=
  ∀ d m, deliveryOf step = some (d, m) → EventBus.ackName m ∈ step.after.bus.acked →
    ∃ event cascade, parseWire fromIso m.event = .ok event ∧
      step.after.journal.get (eventRunId event) "cascade" = some cascade ∧
      (∀ decision, decisionOf cascade = some decision →
        (step.after.decisions.get? (Decisions.decisionId decision)).isSome = true) ∧
      (step.after.journal.runs.get? (eventRunId event)).map (·.status) = some "done"

/-- What is recorded as a cascade is what the handler answered for an event of the run. -/
def RecordsHandler (step : WorkerStep) : Prop :=
  ∀ runId output, recordedOutput runId step = some output → ∃ d m event,
    deliveryOf step = some (d, m) ∧ parseWire fromIso m.event = .ok event ∧
      eventRunId event = runId ∧ d.answer = .ok output

/-- The cascade a delivery goes on with is the first one recorded for its event. -/
def UsesFirstOutput (history : List WorkerStep) (step : WorkerStep) : Prop :=
  ∀ d m event cascade, deliveryOf step = some (d, m) → parseWire fromIso m.event = .ok event →
    ((d.obtainCascade event).run (d.consumed step.before)).2 = .ok cascade →
      firstOutput history (eventRunId event) = some cascade

/-- The worker and the bus have lost nothing: every published message stands in exactly one place,
none was delivered too often, and every delivery so far has kept to what the acknowledgement and the
journal are for. -/
structure NothingLost (history : List WorkerStep) (w : WorkerState) : Prop where
  placed : ∀ m ∈ w.bus.messages, w.bus.places m = 1
  delivered : ∀ m ∈ w.bus.messages, deliveries history m ≤ w.bus.maxRetries
  acknowledged : ∀ step ∈ history, AcknowledgedDone fromIso step
  handler : ∀ step ∈ history, RecordsHandler fromIso step
  firstOutput : ∀ step ∈ history, UsesFirstOutput fromIso history step

end Claims

/-- Nothing keeps a delivery from a cascade: the calls before it do not raise, and where nothing is
recorded the handler answers and its output can be recorded. -/
structure Obtains (d : Delivery) (runId : String) (w : WorkerState) : Prop where
  startRun : d.fault .startRun = none
  lookupCascade : d.fault .lookupCascade = none
  handler : w.journal.get runId "cascade" = none →
    (∃ output, d.answer = .ok output) ∧ d.fault .recordCascade = none

/-- The decision store takes a decision: it has an id, and the status of the one stored under that id
can be looked at. -/
structure Accepts (decisions : Decisions.Store) (decision : Items) : Prop where
  id : Decisions.decisionId decision ≠ ""
  status : ∃ terminal,
    Decisions.isTerminal (decisions.get? (Decisions.decisionId decision)) = .ok terminal

/-- Nothing keeps a delivery from storing the decision of a cascade. -/
def Persists (d : Delivery) (runId : String) (cascade : Items) (w : WorkerState) : Prop :=
  ∀ decision, decisionOf cascade = some decision → d.fault .lookupDecision = none ∧
    (w.journal.get runId (persistKey decision) = none → d.fault .upsertDecision = none ∧
      Accepts w.decisions decision ∧ d.fault .recordDecision = none)

/-- The cascade that is recorded, or the one the handler answers. -/
def usedOutput (d : Delivery) (runId : String) (w : WorkerState) : Option Items :=
  (w.journal.get runId "cascade").or d.answer.toOption

/-- A delivery comes to its acknowledgement: its event can be read, and no call before it raises. -/
structure Completes (fromIso : String → Option Timestamp) (d : Delivery) (m : BusMessage)
    (event : Event) (w : WorkerState) : Prop where
  parsed : parseWire fromIso m.event = .ok event
  obtains : Obtains d (eventRunId event) w
  persists : ∀ cascade, usedOutput d (eventRunId event) w = some cascade →
    Persists d (eventRunId event) cascade w
  finishDone : d.fault .finishDone = none

/-- The delivery of a step, if there is one, comes to its acknowledgement or records its failure
without raising. -/
def FailureRecorded (fromIso : String → Option Timestamp) (step : WorkerStep) : Prop :=
  ∀ d m, deliveryOf step = some (d, m) →
    (∃ event, Completes fromIso d m event step.before) ∨ d.fault .finishFailed = none

end ShelfWise.Worker
