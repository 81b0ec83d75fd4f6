import ShelfWise.Connectors.Normalize
import ShelfWise.Ingest.Retry

/-!
# The intake of inbound records

`_process_inbound_record` of `shelfwise_backend/app.py`, which every caller goes through: the row of
the record is stored first, and a record whose row is stored already is answered `duplicate`. Its
event goes to the pipeline after that, so a call that fails there leaves a row that keeps every later
call away from the pipeline.

`inbound_accepts_iff` says for every record and every sequence of failed calls when the first call
that returns leaves the event accepted: exactly when no call has stored the row and left the event
unpublished.
-/

namespace ShelfWise.Ingest

open Py Sys Connectors

/-! ## The program -/

/-- What the intake is wired with. -/
structure Intake extends Pipeline where
  fromIso : String → Option Timestamp

/-- The stores the intake writes to. -/
structure InboundState where
  records : InboundRecordStore
  ingest : IngestState

/-- The steps of the intake. -/
inductive InboundOp where
  | storeRecord
  | pipeline (op : IngestOp)
deriving DecidableEq

/-- The answer of the intake, with the row that is stored. -/
inductive InboundOutcome where
  | duplicate (record : List (String × Value))
  | invalid (record : List (String × Value))
  | recorded (record : List (String × Value))
  | processed (record : List (String × Value)) (pipeline : IngestReceipt)

/-- `inbound_record_store.record`. -/
def storeRecord (now : Timestamp) (record : InboundRecord) (eventId : Option String)
    (s : InboundState) : InboundState × Bool × List (String × Value) :=
  ({ s with records := (s.records.record now record eventId).1 },
    (s.records.record now record eventId).2)

/-- `record_pipeline_event` on the stores of the intake. -/
def pipelineEvent (env : Intake) (now : Timestamp) (event : Event) :
    Program InboundOp InboundState (Except Exc IngestReceipt) :=
  (recordPipelineEvent env.toPipeline now event).zoom .pipeline (·.ingest)
    fun ingest s => { s with ingest }

/-- `_process_inbound_record`. -/
def processInboundRecord (env : Intake) (now : Timestamp) (record : InboundRecord) :
    Program InboundOp InboundState (Except Exc InboundOutcome) :=
  match recordToEvent env.fromIso record with
  | .error e => .ret (.error e)
  | .ok event =>
    Program.call .storeRecord (storeRecord now record (event.map (·.id))) >>= fun stored =>
      if stored.1 = false then .ret (.ok (.duplicate stored.2))
      else if record.validation.ok = false then .ret (.ok (.invalid stored.2))
      else match event with
        | none => .ret (.ok (.recorded stored.2))
        | some event => (pipelineEvent env now event).bindExcept fun receipt =>
          .ret (.ok (.processed stored.2 receipt))

/-! ## Acceptance -/

/-- The event store holds the event with this content. -/
def Held (event : Event) (s : IngestState) : Prop :=
  sameEventPayload (s.events.get (eventKey event)) event = true

/-- The pipeline has accepted the event: it is held, and it is published. -/
structure Accepted (event : Event) (s : IngestState) : Prop where
  held : Held event s
  published : s.events.isPublished (eventKey event) = true

section Pipeline

variable {env : Pipeline} {event : Event} {s : IngestState}

theorem Held.accepted (h : Held event s) {s' : IngestState}
    (he : s'.events = s.events.markPublished (eventKey event)) : Accepted event s' := by
  refine ⟨?_, ?_⟩
  · unfold Held
    rw [he]
    exact h
  · rw [he, EventStore.isPublished, EventStore.markPublished]
    exact decide_eq_true (Finset.mem_insert_self _ _)

/-- Past the duplicate check the only change to the event store is the mark, and a call that returns
has made it. -/
theorem events_acceptEvent (env : Pipeline) (now : Timestamp) (event : Event) (s : IngestState) :
    (acceptEvent env now event).Through
      (fun _ s' => s'.events = s.events ∨ s'.events = s.events.markPublished (eventKey event))
      (fun r s' => (r.isOk = false ∧ s'.events = s.events) ∨
        s'.events = s.events.markPublished (eventKey event)) s := by
  refine Program.through_call_bindExcept (.inl rfl) ?_
  cases (observeOrder env event s).2 with
  | error e => exact .inl ⟨rfl, rfl⟩
  | ok order =>
    refine Program.through_call_bindExcept (.inl rfl) ?_
    cases (projectInventory now event (observeOrder env event s).1).2 with
    | error e => exact .inl ⟨rfl, rfl⟩
    | ok inventory =>
      refine ⟨.inl rfl, .inl rfl, .inl rfl, ?_⟩
      refine Program.through_bindExcept ((through_cascadeForEvent env now event _).mono ?_ ?_)
      · rintro label s' ⟨-, rfl⟩
        exact .inr rfl
      · rintro r s' rfl
        cases r with
        | error e => exact .inr rfl
        | ok result => exact .inr rfl

/-- An accepted event stays accepted, and a call that returns leaves it accepted. -/
theorem through_recordPipelineEvent (env : Pipeline) (now : Timestamp) (event : Event)
    (s : IngestState) :
    (recordPipelineEvent env now event).Through
      (fun _ s' => Accepted event s → Accepted event s')
      (fun r s' => r.isOk = true ∨ Accepted event s → Accepted event s') s := by
  have haccept : ∀ s' : IngestState, Held event s' → (Accepted event s → Accepted event s') →
      (acceptEvent env now event).Through (fun _ s'' => Accepted event s → Accepted event s'')
        (fun r s'' => r.isOk = true ∨ Accepted event s → Accepted event s'') s' := by
    intro s' hheld hs'
    have hsame : ∀ s'' : IngestState, s''.events = s'.events → Accepted event s →
        Accepted event s'' := by
      intro s'' he ha
      obtain ⟨hheld, hpublished⟩ := hs' ha
      exact ⟨by unfold Held; rw [he]; exact hheld, by rw [he]; exact hpublished⟩
    refine (events_acceptEvent env now event s').mono ?_ ?_
    · rintro label s'' (he | he) ha
      · exact hsame s'' he ha
      · exact hheld.accepted he
    · rintro r s'' (⟨hr, he⟩ | he) ha
      · rw [hr] at ha
        exact hsame s'' he (ha.resolve_left (by simp))
      · exact hheld.accepted he
  refine Program.through_call_bind.mpr ⟨id, ?_⟩
  cases hget : s.events.get (eventKey event) with
  | none =>
    have hunknown : s.events.events.contains (eventKey event) = false :=
      (Dict.contains_eq_false_iff _ _).mpr hget
    have hrecord : s.events.record now.isoformat event
        = (⟨s.events.events.set (eventKey event) (EventStore.storedPayload now.isoformat event),
            s.events.published⟩, true) := EventStore.record_of_new hunknown _
    have hnot : ¬ Accepted event s := by
      rintro ⟨hheld, -⟩
      unfold Held at hheld
      rw [hget] at hheld
      cases hheld
    have hnew : (recordEvent now event s).2 = true := congrArg Prod.snd hrecord
    rw [hnew, if_pos rfl]
    refine haccept _ ?_ fun ha => (hnot ha).elim
    change sameEventPayload ((s.events.record now.isoformat event).1.get (eventKey event)) event
      = true
    rw [hrecord, EventStore.get, Dict.get?_set_self, sameEventPayload_storedPayload]
  | some stored =>
    rw [recordEvent_of_stored hget, if_neg (by simp)]
    refine Program.through_call_bind.mpr ⟨id, ?_⟩
    simp only [hget]
    by_cases hsame : sameEventPayload (some stored) event = true
    · have hheld : Held event s := by
        unfold Held
        rw [hget]
        exact hsame
      rw [if_pos hsame]
      refine Program.through_call_bind.mpr ⟨id, ?_⟩
      cases hpublished : s.events.isPublished (eventKey event) with
      | true => exact fun _ => ⟨hheld, hpublished⟩
      | false =>
        simp only [Bool.false_eq_true, if_false]
        exact haccept s hheld id
    · rw [if_neg hsame]
      exact fun ha => ha.resolve_left (by simp [Except.isOk, Except.toBool])

end Pipeline

/-! ## One call -/

/-- The row of the record is stored. -/
def RowStored (record : InboundRecord) (s : InboundState) : Prop :=
  s.records.contains (recordKey record) = true

section Calls

variable {env : Intake} {record : InboundRecord} {event : Event} {s : InboundState}

/-- A call on a record whose row is stored answers `duplicate` and changes nothing. -/
theorem through_of_rowStored (hmap : recordToEvent env.fromIso record = .ok (some event))
    (h : RowStored record s) (now : Timestamp) :
    (processInboundRecord env now record).Through (fun _ s' => s' = s) (fun _ s' => s' = s) s := by
  obtain ⟨row, hrow⟩ := (Dict.contains_iff _ _).mp h
  have hstore : ∀ eventId, storeRecord now record eventId s = (s, false, publicPayload row) := by
    intro eventId
    simp only [storeRecord, InboundRecordStore.record, hrow]
  unfold processInboundRecord
  rw [hmap]
  refine Program.through_call_bind.mpr ⟨rfl, ?_⟩
  rw [hstore, if_pos rfl]
  rfl

/-- The first call on a record that maps to an event hands the event to the pipeline. -/
theorem through_of_not_rowStored (hmap : recordToEvent env.fromIso record = .ok (some event))
    (h : ¬ RowStored record s) (now : Timestamp) :
    (processInboundRecord env now record).Through (fun _ _ => True)
      (fun r s' => r.isOk = true → Accepted event s'.ingest) s := by
  have hnone : s.records.get? (recordKey record) = none :=
    (Dict.contains_eq_false_iff _ _).mp (Bool.not_eq_true _ ▸ h)
  have hvalid : record.validation.ok = true := by
    by_contra hinvalid
    rw [recordToEvent, if_pos (Bool.not_eq_true _ ▸ hinvalid)] at hmap
    cases hmap
  have hnew : (storeRecord now record (some event.id) s).2.1 = true := by
    simp only [storeRecord, InboundRecordStore.record, hnone]
  unfold processInboundRecord
  rw [hmap]
  refine Program.through_call_bind.mpr ⟨trivial, ?_⟩
  simp only [Option.map_some, hnew, hvalid, Bool.true_eq_false, if_false]
  refine Program.through_bindExcept ((Program.through_zoom (R := fun _ => True) (fun _ _ => rfl)
    (fun _ _ _ => trivial) trivial (through_recordPipelineEvent env.toPipeline now event _)).mono
      (fun _ _ _ => trivial) ?_)
  rintro r s' ⟨-, hr⟩
  cases r with
  | error e => exact fun hok => absurd hok (by simp [Except.isOk, Except.toBool])
  | ok receipt => exact fun _ => hr (.inl rfl)

end Calls

/-! ## Calls repeated -/

/-- An attempt at the call that dies after some number of steps. -/
def tryProcess (env : Intake) (record : InboundRecord) (s : InboundState) (c : Timestamp × ℕ) :
    InboundState × Option InboundOp :=
  (processInboundRecord env c.1 record).attempt s c.2

/-- When a call has returned after any attempts before it, the event is accepted exactly when it was
accepted at the end of each attempt that left the row of its record stored. -/
theorem inbound_accepts_iff (env : Intake) (record : InboundRecord) (event : Event)
    (hmap : recordToEvent env.fromIso record = .ok (some event)) {s₀ : InboundState}
    (hrow : ¬ RowStored record s₀) (attempts : List (Timestamp × ℕ)) (now : Timestamp)
    (hret : ((processInboundRecord env now record).run
      (final (tryProcess env record) s₀ attempts)).2.isOk = true) :
    Accepted event ((processInboundRecord env now record).run
        (final (tryProcess env record) s₀ attempts)).1.ingest ↔
      ∀ step ∈ trace (tryProcess env record) s₀ attempts, RowStored record step.after →
        Accepted event step.after.ingest := by
  have hstays : ∀ s c, RowStored record s → (tryProcess env record s c).1 = s := by
    intro s c hs
    rcases Program.through_attempt (through_of_rowStored hmap hs c.1) c.2 with
      ⟨-, -, hsame⟩ | ⟨-, -, hsame⟩
    · exact hsame
    · exact hsame
  constructor
  · intro haccepted step hstep hstored
    have hfinal := final_of_mem_trace hstays hstep hstored
    rw [hfinal, Program.through_run (through_of_rowStored hmap hstored now)] at haccepted
    exact haccepted
  · intro hall
    by_cases hstored : RowStored record (final (tryProcess env record) s₀ attempts)
    · have hattempts : attempts ≠ [] := by
        rintro rfl
        exact hrow hstored
      obtain ⟨step, hstep, hafter⟩ := exists_last (f := tryProcess env record) (s := s₀) hattempts
      rw [Program.through_run (through_of_rowStored hmap hstored now), ← hafter]
      exact hall step hstep (hafter ▸ hstored)
    · exact Program.through_run (through_of_not_rowStored hmap hstored now) hret

/-- A stock snapshot of seven units. -/
def stockRecord : InboundRecord where
  tenantId := "tenant_a"
  sourceSystem := .dynamics
  sourceObjectType := "inventory_state"
  sourceObjectId := "item_1@store_a"
  eventTime := ⟨2000000, "2026-07-01T00:00:02+00:00"⟩
  rawPayload := [("id", .str "item_1"), ("number", .str "4011"), ("inventory", .int 7)]
  canonicalType := "inventory_state"
  correlationId := "06d25789a5ebe1a9"
  canonicalPayload := [("tenant_id", .str "tenant_a"), ("sku", .str "4011"),
    ("location_id", .str "store_a"), ("quantity", .str "7"), ("stock_state", .str "on_hand")]
  validation := .passed
  sourceQuality := ⟨.finite 1, "1.0"⟩
  actor := none

/-- Its event. -/
def stockEvent : Event where
  id := "evt_dynamics_inventory_state_item_1@store_a"
  type := .stockUpdate
  ts := ⟨2000000, "2026-07-01T00:00:02+00:00"⟩
  actor := "dynamics"
  payload := [("sku", .str "4011"), ("location_id", .str "store_a"), ("quantity", .str "7"),
    ("stock_state", .str "on_hand"), ("source_object_id", .str "item_1@store_a"),
    ("raw_payload_hash",
      .str "06d25789a5ebe1a9e00a948ece9dbd2dd12832fb892178f2cd1acac4f03e569b")]
  source := .wmsCsv
  tenantId := "tenant_a"
  dataDomain := .operationalTwin
  correlationId := "06d25789a5ebe1a9"
  causationId := none
  schemaVersion := "v1"
  id_ne := by decide +kernel
  actor_ne := by decide +kernel
  tenantId_ne := tenantA_ne
  correlationId_ne := by decide +kernel

/-- An intake whose cascades are silent. -/
def stockIntake : Intake where
  twinService := Twin.defaultService
  utcIso := fun _ => none
  cascades := ⟨silent, silent, silent, silent, silent, silent, silent, silent⟩
  attachGovernance := .ok
  fromIso := fun _ => none
where
  /-- A cascade without an answer. -/
  silent : Cascade := fun _ _ _ => .ok none

/-- The event store has seen the source object an instant before, with the same quantity. -/
def seenState : InboundState where
  records := Dict.empty
  ingest := { IngestState.empty with
    events := (EventStore.empty.record "2026-07-01T00:00:05+00:00"
      { stockEvent with ts := ⟨1000000, "2026-07-01T00:00:01+00:00"⟩ }).1 }

theorem recordToEvent_stockRecord :
    recordToEvent stockIntake.fromIso stockRecord = .ok (some stockEvent) := by
  decide +kernel

/-- A crash before the row is stored. -/
theorem inbound_accepts_early_crash :
    Accepted stockEvent ((processInboundRecord stockIntake ⟨9, ""⟩ stockRecord).run
      (final (tryProcess stockIntake stockRecord) ⟨Dict.empty, .empty⟩ [(⟨8, ""⟩, 0)])).1.ingest := by
  refine (inbound_accepts_iff stockIntake stockRecord stockEvent recordToEvent_stockRecord
    (by unfold RowStored; decide +kernel) [(⟨8, ""⟩, 0)] ⟨9, ""⟩ (by decide +kernel)).mpr ?_
  intro step hstep hstored
  rw [List.mem_singleton.mp hstep] at hstored
  exact absurd hstored (by unfold RowStored; decide +kernel)

/-- A conflict with what the event store holds. -/
theorem inbound_loses_record :
    ¬ ∀ (env : Intake) (record : InboundRecord) (event : Event),
      recordToEvent env.fromIso record = .ok (some event) → ∀ s₀ : InboundState,
      ¬ RowStored record s₀ → ∀ (attempts : List (Timestamp × ℕ)) (now : Timestamp),
      ((processInboundRecord env now record).run
        (final (tryProcess env record) s₀ attempts)).2.isOk = true →
      Accepted event ((processInboundRecord env now record).run
        (final (tryProcess env record) s₀ attempts)).1.ingest := by
  intro h
  have haccepted := h stockIntake stockRecord stockEvent recordToEvent_stockRecord seenState
    (by unfold RowStored; decide +kernel) [(⟨8, ""⟩, 100)] ⟨9, ""⟩ (by decide +kernel)
  exact absurd haccepted.published (by decide +kernel)

end ShelfWise.Ingest
