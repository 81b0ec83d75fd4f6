import ShelfWise.Py.Datetime
import ShelfWise.Worker.Delivery

/-!
# Events on the wire

`Event.__post_init__`, `Event.parse_wire` and `Event.to_dict` of `shelfwise_contracts/__init__.py`, with
fields that hold whatever the caller gave: the constructor looks at the truth of the ids, the actor and
the tenant, never at their types, and a request body may put any JSON value there.

`event_wire_round_trip` says that an event is read back from its dictionary, and that the dictionary of
an event that was read is read and written again without a change.
-/

namespace ShelfWise.Worker

open Py Sys Ingest

/-! ## The deep copy of a payload -/

mutual

/-- `_copy_json_value`. -/
def copyJsonValue : Value → Value
  | .dict items => .dict (deepcopyJson items)
  | .list items => .list (copyJsonList items)
  | value => value

/-- The copies of the elements of a list. -/
def copyJsonList : List Value → List Value
  | [] => []
  | value :: rest => copyJsonValue value :: copyJsonList rest

/-- `deepcopy_json`; a key is a text already. -/
def deepcopyJson : Items → Items
  | [] => []
  | (key, value) :: rest => (key, copyJsonValue value) :: deepcopyJson rest

end

mutual

theorem copyJsonValue_eq : ∀ value, copyJsonValue value = value
  | .dict items => by rw [copyJsonValue, deepcopyJson_eq items]
  | .list items => by rw [copyJsonValue, copyJsonList_eq items]
  | .none | .bool _ | .int _ | .float _ | .str _ => rfl

theorem copyJsonList_eq : ∀ items, copyJsonList items = items
  | [] => rfl
  | value :: rest => by rw [copyJsonList, copyJsonValue_eq value, copyJsonList_eq rest]

theorem deepcopyJson_eq : ∀ items, deepcopyJson items = items
  | [] => rfl
  | (key, value) :: rest => by rw [deepcopyJson, copyJsonValue_eq value, deepcopyJson_eq rest]

end

/-! ## The constructor -/

/-- What is given for `ts`. -/
inductive TimeArg where
  | datetime (t : Datetime)
  | value (v : Value)

/-- `_datetime`. -/
def eventDatetime : TimeArg → Except Exc AwareDatetime
  | .datetime t => .ok t.orUtc
  | .value (.str text) => match fromisoformat (replaceZ text) with
    | some t => .ok t.orUtc
    | none => .error (.valueError ("Invalid isoformat string: " ++ Value.reprText (replaceZ text)))
  | .value _ => .error (.valueError "event ts must be an ISO datetime")

/-- The member of an enumeration with the given value. -/
def enumOf {α : Type} (name : String) (all : List α) (value : α → String) : Value → Except Exc α
  | .str text => memberOf name all value text
  | v => .error (.valueError (v.repr ++ " is not a valid " ++ name))

/-- The arguments of `Event(...)`. -/
structure EventArgs where
  id : Value
  type : Value
  ts : TimeArg
  actor : Value
  payload : Value
  source : Value
  tenantId : Value
  dataDomain : Value
  correlationId : Value
  causationId : Value
  schemaVersion : Value

/-- A payload that says it is synthetic. -/
def SaysSynthetic (payload : Items) : Prop :=
  Value.get payload "synthetic" = .bool true ∨ Value.get payload "synthetic_probe" = .bool true

instance : DecidablePred SaysSynthetic := fun payload => by
  unfold SaysSynthetic
  infer_instance

/-- `Event`, with what its constructor has checked. -/
structure WireEvent where
  id : Value
  type : EventType
  ts : AwareDatetime
  actor : Value
  payload : Items
  source : EventSource
  tenantId : Value
  dataDomain : DataDomain
  correlationId : Value
  causationId : Value
  schemaVersion : Value
  id_truthy : id.truthy = true
  actor_truthy : actor.truthy = true
  tenantId_truthy : tenantId.truthy = true
  correlationId_truthy : correlationId.truthy = true
  domain_agrees : checkPayloadDomain payload dataDomain = .ok ()
  not_synthetic : ¬ (dataDomain = .operationalTwin ∧ SaysSynthetic payload)

namespace WireEvent

/-- The checks after the fields have been converted; an empty correlation id becomes the id. -/
def ofChecked (id : Value) (type : EventType) (ts : AwareDatetime) (actor : Value) (payload : Items)
    (source : EventSource) (tenantId : Value) (dataDomain : DataDomain)
    (correlationId causationId schemaVersion : Value) (hid : id.truthy = true)
    (hactor : actor.truthy = true) (htenant : tenantId.truthy = true) : Except Exc WireEvent :=
  match hdomain : checkPayloadDomain payload dataDomain with
  | .error e => .error e
  | .ok () =>
    if hsynthetic : dataDomain = .operationalTwin ∧ SaysSynthetic payload then
      .error (.valueError "synthetic event payload requires a non-operational data_domain")
    else
      .ok
        { id, type, ts, actor, payload, source, tenantId, dataDomain
          correlationId := if correlationId.truthy then correlationId else id
          causationId, schemaVersion
          id_truthy := hid, actor_truthy := hactor, tenantId_truthy := htenant
          correlationId_truthy := by split <;> assumption
          domain_agrees := hdomain, not_synthetic := hsynthetic }

/-- `Event(...)` with `__post_init__`. -/
def build (a : EventArgs) : Except Exc WireEvent :=
  if hid : a.id.truthy = true then
    if hactor : a.actor.truthy = true then
      if htenant : a.tenantId.truthy = true then do
        let payload ← wirePayload a.payload
        let ts ← eventDatetime a.ts
        let type ← enumOf "EventType" EventType.all EventType.value a.type
        let source ← enumOf "EventSource" EventSource.all EventSource.value a.source
        let dataDomain ← normalizeDomain a.dataDomain .operationalTwin
        ofChecked a.id type ts a.actor payload source a.tenantId dataDomain a.correlationId
          a.causationId a.schemaVersion hid hactor htenant
      else .error (.valueError "event tenant_id is required")
    else .error (.valueError "event actor is required")
  else .error (.valueError "event id is required")

/-- `to_dict`. -/
def toDict (e : WireEvent) : Items :=
  [("id", e.id), ("type", .str e.type.value), ("ts", .str e.ts.isoformat), ("actor", e.actor),
    ("payload", .dict (deepcopyJson e.payload)), ("source", .str e.source.value),
    ("tenant_id", e.tenantId), ("data_domain", .str e.dataDomain.value),
    ("correlation_id", e.correlationId), ("causation_id", e.causationId),
    ("schema_version", e.schemaVersion)]

/-- The arguments a dictionary gives; the fields that it lacks have their defaults. -/
def wireArgs (data : Items) : EventArgs where
  id := Value.get data "id"
  type := Value.get data "type"
  ts := .value (Value.get data "ts")
  actor := Value.get data "actor"
  payload := Value.get data "payload"
  source := Value.getD data "source" (.str EventSource.api.value)
  tenantId := Value.getD data "tenant_id" (.str "default")
  dataDomain := Value.getD data "data_domain" (.str DataDomain.operationalTwin.value)
  correlationId := Value.getD data "correlation_id" (.str "")
  causationId := Value.getD data "causation_id" .none
  schemaVersion := Value.getD data "schema_version" (.str "v1")

/-- `Event.parse_wire`. -/
def parseWire : Value → Except Exc WireEvent
  | .dict data =>
    if missingFields data ≠ [] then
      .error (.valueError
        ("event missing fields: " ++ Value.repr (.list ((missingFields data).map .str))))
    else build (wireArgs data)
  | _ => .error (.valueError "event must be an object")

/-! ## The round trip -/

/-- The checks hold of the fields of an event, and nothing is replaced. -/
theorem ofChecked_self (e : WireEvent) :
    ofChecked e.id e.type e.ts e.actor e.payload e.source e.tenantId e.dataDomain e.correlationId
      e.causationId e.schemaVersion e.id_truthy e.actor_truthy e.tenantId_truthy = .ok e := by
  unfold ofChecked
  split
  · rename_i hdomain
    rw [e.domain_agrees] at hdomain
    cases hdomain
  · rw [dif_neg e.not_synthetic]
    simp only [e.correlationId_truthy, if_true]

theorem eventDatetime_isoformat (t : AwareDatetime) :
    eventDatetime (.value (.str t.isoformat)) = .ok t := by
  unfold eventDatetime
  dsimp only
  rw [replaceZ_isoformat, fromisoformat_isoformat]
  exact congrArg Except.ok (Datetime.orUtc_aware t)

/-- An event is read back from its dictionary. -/
theorem parseWire_toDict (e : WireEvent) : parseWire (.dict e.toDict) = .ok e := by
  have hbuild : build (wireArgs e.toDict) = .ok e := by
    have hargs : wireArgs e.toDict = ⟨e.id, .str e.type.value, .value (.str e.ts.isoformat), e.actor,
        .dict (deepcopyJson e.payload), .str e.source.value, e.tenantId, .str e.dataDomain.value,
        e.correlationId, e.causationId, e.schemaVersion⟩ := rfl
    rw [hargs, deepcopyJson_eq]
    unfold build
    simp only [e.id_truthy, e.actor_truthy, e.tenantId_truthy, dif_pos, wirePayload,
      eventDatetime_isoformat, enumOf, memberOf_value_type, memberOf_value_source,
      normalizeDomain_value, bind, Except.bind]
    exact ofChecked_self e
  have hmissing : missingFields e.toDict = [] := rfl
  rw [parseWire, if_neg fun h => h hmissing, hbuild]

/-- **The round trip.** An event that the constructor accepts is read back from its dictionary. And for
every value that is read as an event, reading its dictionary and writing it again changes nothing. -/
theorem event_wire_round_trip :
    (∀ args, (build args >>= fun e => parseWire (.dict e.toDict)) = build args) ∧
      ∀ data, ((parseWire data >>= fun e => parseWire (.dict e.toDict)).map toDict) =
        (parseWire data).map toDict := by
  have hround : ∀ x : Except Exc WireEvent, (x >>= fun e => parseWire (.dict e.toDict)) = x := by
    intro x
    cases x with
    | error e => rfl
    | ok e => exact parseWire_toDict e
  exact ⟨fun args => hround (build args), fun data => by rw [hround (parseWire data)]⟩

end WireEvent

end ShelfWise.Worker
