import ShelfWise.Cascades.Expiry
import ShelfWise.Cascades.SalesFacts
import ShelfWise.Ingest.Snapshots

/-!
# Importing many records

An upload or a payload of a connector becomes a list of records, and each goes through
`_process_inbound_record` in turn; the first exception ends the call. `step_spec` says what one call
comes to when every record before it has been accepted: by the key of its row and the key of its event
alone. From it `accepted_iff` says when a whole list is accepted record by record, and `converges_iff`
when a list goes through without an exception, with what the ledger is then given.
-/

namespace ShelfWise.Ingest

open Py Sys Connectors Cascade

/-! ## First occurrences -/

section Firsts

variable {α κ : Type} [DecidableEq κ] (key : α → κ)

/-- The elements whose key is not among `seen` and that no element before them has. -/
def firstsBy : List κ → List α → List α
  | _, [] => []
  | seen, a :: rest =>
    if key a ∈ seen then firstsBy seen rest else a :: firstsBy (seen ++ [key a]) rest

theorem firstsBy_sublist (seen : List κ) (xs : List α) : (firstsBy key seen xs).Sublist xs := by
  induction xs generalizing seen with
  | nil => exact List.Sublist.refl _
  | cons a rest ih =>
    rw [firstsBy]
    split
    · exact (ih seen).cons a
    · exact (ih _).cons_cons a

/-- Every key is among those seen or that of a first occurrence. -/
theorem key_mem_firstsBy (seen : List κ) {xs : List α} {a : α} (h : a ∈ xs) :
    key a ∈ seen ∨ key a ∈ (firstsBy key seen xs).map key := by
  induction xs generalizing seen with
  | nil => exact absurd h List.not_mem_nil
  | cons b rest ih =>
    rw [firstsBy]
    by_cases hseen : key b ∈ seen
    · rw [if_pos hseen]
      rcases List.mem_cons.mp h with rfl | hrest
      · exact .inl hseen
      · exact ih seen hrest
    · rw [if_neg hseen, List.map_cons]
      rcases List.mem_cons.mp h with rfl | hrest
      · exact .inr List.mem_cons_self
      · rcases ih (seen ++ [key b]) hrest with hmem | hmem
        · rcases List.mem_append.mp hmem with hold | hlast
          · exact .inl hold
          · rw [List.mem_singleton.mp hlast]
            exact .inr List.mem_cons_self
        · exact .inr (List.mem_cons_of_mem _ hmem)

/-- The keys of first occurrences are different, and none was seen. -/
theorem nodup_firstsBy (seen : List κ) (xs : List α) :
    ((firstsBy key seen xs).map key).Nodup ∧ ∀ a ∈ firstsBy key seen xs, key a ∉ seen := by
  induction xs generalizing seen with
  | nil => exact ⟨List.nodup_nil, fun a ha => absurd ha List.not_mem_nil⟩
  | cons a rest ih =>
    rw [firstsBy]
    by_cases hseen : key a ∈ seen
    · rw [if_pos hseen]
      exact ih seen
    · rw [if_neg hseen, List.map_cons, List.nodup_cons]
      obtain ⟨hnodup, hfresh⟩ := ih (seen ++ [key a])
      refine ⟨⟨fun hmem => ?_, hnodup⟩, fun b hb => ?_⟩
      · obtain ⟨b, hb, heq⟩ := List.mem_map.mp hmem
        exact hfresh b hb (heq ▸ List.mem_append_right _ (List.mem_singleton_self _))
      · rcases List.mem_cons.mp hb with rfl | hrest
        · exact hseen
        · exact fun hmem => hfresh b hrest (List.mem_append_left _ hmem)

/-- Elements of different keys, none of which was seen, are all first occurrences. -/
theorem firstsBy_of_nodup {seen : List κ} {xs : List α} (h : (seen ++ xs.map key).Nodup) :
    firstsBy key seen xs = xs := by
  induction xs generalizing seen with
  | nil => rfl
  | cons a rest ih =>
    rw [List.map_cons] at h
    have hnew : key a ∉ seen := fun hmem =>
      (List.nodup_append.mp h).2.2 _ hmem _ List.mem_cons_self rfl
    rw [firstsBy, if_neg hnew, ih]
    rwa [List.append_assoc]

end Firsts

/-! ## The call -/

/-- A record, the clock at its intake and the event it becomes. -/
structure Import where
  now : Timestamp
  record : InboundRecord
  event : Event

/-- `[_process_inbound_record(record) for record in records]`. -/
def processRecords (env : Intake) :
    List (Timestamp × InboundRecord) → InboundState → InboundState × Except Exc (List InboundOutcome)
  | [], s => (s, .ok [])
  | (now, record) :: rest, s =>
    match (processInboundRecord env now record).run s with
    | (s', .error e) => (s', .error e)
    | (s', .ok outcome) => match processRecords env rest s' with
      | (s'', .error e) => (s'', .error e)
      | (s'', .ok outcomes) => (s'', .ok (outcome :: outcomes))

/-- The pipeline has accepted the event of a record. -/
def InboundOutcome.IsAccepted : InboundOutcome → Prop
  | .processed _ (.accepted ..) => True
  | _ => False

/-- The cascades of a live shop whose product catalog is empty, and `attach_decision_governance`,
which leaves a result without a decision alone. -/
structure Live (env : Intake) : Prop where
  sales : ∃ onFacts, env.cascades.runSalesCascade = runSalesCascade ⟨fun _ => [], onFacts⟩
  expiry : ∃ tables, env.cascades.runExpiryRiskCheck = runExpiryRiskCheck tables
  governance : ∀ result, CarriesNone result → env.attachGovernance result = .ok result

/-- An operational event of a row: a sale without facts, a stock update that names its place, or an
expiry date. -/
structure Importable (event : Event) : Prop where
  operational : event.dataDomain = .operationalTwin
  type : event.type = .sale ∨ event.type = .stockUpdate ∨ event.type = .expiryEntry
  facts : event.type = .sale → ∀ field ∈ "unit_price_cents" :: factFields,
    Dict.lookup field event.payload = none
  stock : event.type = .stockUpdate → ledgerLocationType event ≠ "" ∧ ledgerStockState event ≠ ""
  days : event.type = .expiryEntry → daysToExpiry event.payload = .ok none

/-! ## One event -/

section Event

variable {env : Intake} {event : Event}

theorem Importable.get_facts (h : Importable event) (htype : event.type = .sale) :
    ∀ field ∈ factFields, Value.get event.payload field = .none := by
  intro field hfield
  rw [Value.get, h.facts htype field (List.mem_cons_of_mem _ hfield)]
  rfl

theorem Importable.not_shipment (h : Importable event) : event.type ≠ .shipment := by
  rcases h.type with heq | heq | heq
  all_goals rw [heq]; decide

/-- The ledger does not take up expiry dates. -/
theorem projectedType_expiryEntry (hoperational : event.dataDomain = .operationalTwin)
    (htype : event.type = .expiryEntry) : Inventory.projectedType event.toDict = none := by
  have hdomain : Value.get event.toDict "data_domain" = .str "operational_twin" :=
    congrArg (fun d : DataDomain => Value.str d.value) hoperational
  have hvalue : Value.get event.toDict "type" = .str "expiry_entry" :=
    congrArg (fun t : EventType => Value.str t.value) htype
  unfold Inventory.projectedType
  rw [hdomain, hvalue]
  decide +kernel

/-- The ledger does not refuse the event of a row. -/
theorem projectInventory_of_importable (h : Importable event) {s : IngestState}
    (hkeyed : Inventory.Keyed s.inventory.positions) (now : Timestamp) :
    ∃ answer, (projectInventory now event s).2 = .ok answer := by
  change ∃ answer, (s.inventory.projectEvent now.isoformat event.toDict).2 = .ok answer
  unfold Inventory.Store.projectEvent
  cases hp : Inventory.projectionInput event.toDict with
  | none => exact ⟨_, rfl⟩
  | some p =>
    dsimp only
    cases s.inventory.projectionReceipts.get? (p.tenantId, p.eventId) with
    | some existing => exact ⟨_, rfl⟩
    | none =>
      dsimp only
      cases hissue : p.issue with
      | some issue =>
        rw [Inventory.applyProjection_issue hissue]
        exact ⟨_, rfl⟩
      | none =>
        obtain ⟨n, haccepted⟩ := Inventory.accepted_of_projectionInput hp hissue
        have hprojectable : Projectable event := by
          refine ⟨h.operational, ?_⟩
          rcases h.type with heq | heq | heq
          · exact .inl heq
          · exact .inr heq
          · rw [Inventory.projectionInput, projectedType_expiryEntry h.operational heq] at hp
            cases hp
        obtain ⟨p', hp', hreads⟩ := readsEvent hprojectable
        obtain rfl : p = p' := Option.some.inj (hp.symm.trans hp')
        have hstripped := stripped_readsEvent hreads
        have happlied := (applyProjection_applied_iff now.isoformat hkeyed haccepted hstripped.1
          hstripped.2).mpr ((stock_readsEvent_iff hprojectable hreads).mpr h.stock)
        obtain ⟨after, r, hrun⟩ := happlied
        rw [hrun]
        exact ⟨_, rfl⟩

/-- No result of a cascade on the event of a row carries a decision, and none raises. -/
theorem dispatch_of_importable (hlive : Live env) (h : Importable event)
    (inventory : Inventory.Store) {twin : Twin.TwinStore}
    (htwin : event.type = .sale → OnlySales env.twinService.policyFor twin) :
    dispatch env.cascades event inventory twin = .ok none ∨
      ∃ result, dispatch env.cascades event inventory twin = .ok (some result) ∧
        CarriesNone result := by
  rcases h.type with htype | htype | htype
  · -- a sale lacks its facts
    obtain ⟨onFacts, hsales⟩ := hlive.sales
    have hkeys : ∀ key ∈ "unit_price_cents" :: factFields, hasPayloadKey event key = false := by
      intro key hkey
      rw [hasPayloadKey, h.facts htype key hkey]
      rfl
    obtain ⟨missing, hmissing⟩ := scenarioFacts_missing ⟨event, fun _ => [], inventory, twin⟩
      (htwin htype) (h.get_facts htype) rfl
    have hroute : route env.cascades event inventory twin =
        .error (.missingOperationalFacts missing) := by
      unfold route
      rw [if_neg (by simp [h.operational]), htype]
      dsimp only
      rw [isCatalogPriceEvent, hkeys "unit_price_cents" (by simp), Bool.false_and, if_neg (by simp),
        hasPartialCatalogPrice, hkeys "unit_price_cents" (by simp),
        hkeys "catalog_price_cents" (by simp [factFields]), if_neg (by simp), hsales]
      unfold runSalesCascade
      rw [hmissing]
      rfl
    refine .inr ⟨attachEventCausality (insufficientFacts missing) event, ?_, ?_⟩
    · unfold dispatch
      rw [hroute]
    · intro decision hdecision
      cases hdecision
  · exact .inl (dispatch_stockUpdate env.cascades htype h.operational inventory twin)
  · obtain ⟨tables, hexpiry⟩ := hlive.expiry
    have hcascades : env.cascades = withExpiryCheck tables env.cascades := by
      unfold withExpiryCheck
      rw [← hexpiry]
    rw [hcascades]
    exact .inl (dispatch_of_no_days tables _ htype h.operational (h.days htype) inventory twin)

/-- A result without a decision is recorded as it is. -/
theorem run_recordCascade_of_none (hlive : Live env) {result : CascadeResult}
    (h : CarriesNone result) (now : Timestamp) (s : IngestState) :
    ∃ recorded, (recordCascade env.toPipeline now result).run s = (s, .ok recorded) := by
  have hdomain : CarriesNone (withDataDomain result) := by
    intro decision hdecision
    have hkept : ∀ value, Value.get (Value.setDefault result "data_domain" value) "decision" =
        Value.get result "decision" := fun value => Value.get_setDefault_of_ne (by decide) _ _
    unfold withDataDomain at hdecision
    dsimp only at hdecision
    split at hdecision
    · rename_i held hheld
      rw [hkept] at hheld
      exact h held hheld
    · rw [hkept] at hdecision
      exact h decision hdecision
  have hstored : storedDecision (withDataDomain result) = none := by
    unfold storedDecision
    split
    · exact (hdomain _ ‹_›).elim
    · rfl
  unfold recordCascade
  rw [hlive.governance _ hdomain]
  dsimp only
  rw [hstored]
  exact ⟨_, rfl⟩

/-- The cascades of the event of a row change nothing and raise nothing. -/
theorem run_cascadeForEvent_of_importable (hlive : Live env) (h : Importable event)
    (now : Timestamp) {s : IngestState}
    (htwin : event.type = .sale → OnlySales env.twinService.policyFor s.twin) :
    ∃ cascade, (cascadeForEvent env.toPipeline now event).run s = (s, .ok cascade) := by
  unfold cascadeForEvent Program.bindExcept
  rw [Program.run_bind, Program.run_call]
  rcases dispatch_of_importable hlive h s.inventory htwin with hnone | ⟨result, hresult, hcarries⟩
  · rw [hnone]
    exact ⟨none, rfl⟩
  · rw [hresult]
    obtain ⟨recorded, hrun⟩ := run_recordCascade_of_none hlive hcarries now s
    dsimp only
    rw [Program.run_bind, hrun]
    exact ⟨some recorded, rfl⟩

/-- What the pipeline has done to the stores with the event of a row. -/
structure Absorbed (env : Intake) (now : Timestamp) (event : Event) (s s' : IngestState) : Prop where
  inventory : s'.inventory = (s.inventory.projectEvent now.isoformat event.toDict).1
  twin : s'.twin = ((Twin.projectEvent env.twinService now event).run s.twin).1
  events : s'.events = s.events.markPublished (eventKey event)

/-- The pipeline accepts the event of a row. -/
theorem run_acceptEvent_of_importable (hlive : Live env) (h : Importable event) (now : Timestamp)
    {s : IngestState} (hkeyed : Inventory.Keyed s.inventory.positions)
    (htwin : event.type = .sale → OnlySales env.twinService.policyFor s.twin) :
    ∃ s' busMessageId cascade twin inventory,
      (acceptEvent env.toPipeline now event).run s =
        (s', .ok (.accepted event busMessageId cascade twin inventory)) ∧
      Absorbed env now event s s' := by
  obtain ⟨inventory, hinventory⟩ := projectInventory_of_importable h hkeyed now
  unfold acceptEvent Program.bindExcept
  rw [Program.run_bind, Program.run_call, observeOrder_of_not_shipment h.not_shipment]
  dsimp only
  rw [Program.run_bind, Program.run_call, hinventory]
  dsimp only
  rw [Program.run_bind, Program.run_call]
  unfold publishAndCascade Program.bindExcept
  rw [Program.run_bind, Program.run_call, Program.run_bind, Program.run_call, Program.run_bind]
  have htwin' : event.type = .sale → OnlySales env.twinService.policyFor
      (markPublished event (publishEvent event (projectTwinEvent env.toPipeline now event
        (projectInventory now event s).1).1).1).1.twin :=
    fun htype => (htwin htype).project now htype h.operational (h.get_facts htype)
  obtain ⟨cascade, hcascade⟩ := run_cascadeForEvent_of_importable hlive h now htwin'
  rw [hcascade]
  exact ⟨_, _, cascade, _, inventory, rfl, rfl, rfl, rfl⟩

end Event

/-! ## One record -/

/-- The record maps to the event, which has the id of the record and says the digest of what the
record was made of. All records of a run come from one system and have one type. -/
structure Mapped (env : Intake) (system : SourceSystem) (objectType : String) (type : EventType)
    (i : Import) : Prop where
  maps : recordToEvent env.fromIso i.record = .ok (some i.event)
  importable : Importable i.event
  type : i.event.type = type
  id : i.event.id = eventIdOf i.record
  tenantId : i.event.tenantId = i.record.tenantId
  hash : Dict.lookup "raw_payload_hash" i.event.payload = some (.str i.record.payloadHash)
  system : i.record.sourceSystem = system
  objectType : i.record.sourceObjectType = objectType

/-- The key of the event of a record. -/
abbrev Import.key (i : Import) : EventKey := eventKey i.event

section Record

variable {env : Intake} {system : SourceSystem} {objectType : String} {type : EventType}
  {i j : Import} {event : Event}

theorem eventIdOf_eq_iff (hi : Mapped env system objectType type i)
    (hj : Mapped env system objectType type j) :
    i.event.id = j.event.id ↔ i.record.sourceObjectId = j.record.sourceObjectId := by
  rw [hi.id, hj.id, eventIdOf, eventIdOf, hi.system, hj.system, hi.objectType, hj.objectType]
  exact String.append_right_inj _

/-- Two records have one key exactly when their events have one key and they were made of the
same. -/
theorem recordKey_eq_iff (hi : Mapped env system objectType type i)
    (hj : Mapped env system objectType type j) :
    recordKey i.record = recordKey j.record ↔
      i.key = j.key ∧ i.record.payloadHash = j.record.payloadHash := by
  have hkey : i.key = j.key ↔ i.record.tenantId = j.record.tenantId ∧
      i.record.sourceObjectId = j.record.sourceObjectId := by
    rw [← eventIdOf_eq_iff hi hj, ← hi.tenantId, ← hj.tenantId]
    unfold Import.key eventKey
    rw [EventKey.mk.injEq, hi.importable.operational, hj.importable.operational]
    exact ⟨fun h => ⟨h.1, h.2.2⟩, fun h => ⟨h.1, rfl, h.2⟩⟩
  rw [hkey]
  unfold recordKey
  rw [RecordKey.mk.injEq, hi.system, hj.system]
  exact ⟨fun h => ⟨⟨h.1, h.2.2.2⟩, h.2.2.1⟩, fun h => ⟨h.1.1, rfl, h.2, h.1.2⟩⟩

/-- Events of one key that say different digests have different content. -/
theorem sameEventPayload_of_hash_ne (hi : Mapped env system objectType type i)
    (hj : Mapped env system objectType type j)
    (h : j.record.payloadHash ≠ i.record.payloadHash) (now : String) :
    sameEventPayload (some (EventStore.storedPayload now j.event)) i.event = false := by
  have hstored : Value.get (EventStore.storedPayload now j.event) "payload" =
      .dict j.event.payload := EventStore.get_storedPayload now (by simp [Event.toDict])
  refine Bool.eq_false_iff.mpr fun hsame => ?_
  have hpayload := List.all_eq_true.mp hsame ("payload", .dict i.event.payload)
    (by simp [Event.toDict])
  rw [hstored] at hpayload
  have hsaid := (Value.lookup_of_eq_dict hpayload hj.hash).symm.trans hi.hash
  exact h (Value.str.inj (Option.some.inj hsaid))

/-- The stores after the records of `seen` have been accepted and no others. -/
structure Reflects (env : Intake) (type : EventType) (seen : List Import) (s : InboundState) :
    Prop where
  rows : ∀ k, s.records.contains k = true ↔ k ∈ seen.map fun i => recordKey i.record
  unknown : ∀ k, s.ingest.events.get k = none ↔ k ∉ seen.map Import.key
  stored : ∀ k payload, s.ingest.events.get k = some payload → ∃ i ∈ seen, i.key = k ∧
    ∃ now, payload = EventStore.storedPayload now i.event
  nodup : (seen.map Import.key).Nodup
  keyed : Inventory.Keyed s.ingest.inventory.positions
  twin : type = .sale → OnlySales env.twinService.policyFor s.ingest.twin

variable {s : InboundState}

/-- A record whose row is not stored goes on to its event. -/
theorem run_processInboundRecord_of_new_row (hi : Mapped env system objectType type i)
    (hrow : s.records.contains (recordKey i.record) = false) :
    ∃ row, (processInboundRecord env i.now i.record).run s =
      let stored : InboundState := ⟨s.records.set (recordKey i.record) row, s.ingest⟩
      let ran := (recordPipelineEvent env.toPipeline i.now i.event).run s.ingest
      (⟨stored.records, ran.1⟩, ran.2.map fun receipt => .processed (publicPayload row) receipt) := by
  have hnone : s.records.get? (recordKey i.record) = none :=
    (Dict.contains_eq_false_iff _ _).mp hrow
  have hvalid : i.record.validation.ok ≠ false := by
    intro hinvalid
    have hmaps := hi.maps
    rw [recordToEvent, if_pos hinvalid] at hmaps
    cases hmaps
  refine ⟨storedPayload i.now i.record (some i.event.id), ?_⟩
  unfold processInboundRecord
  rw [hi.maps]
  dsimp only
  rw [Program.run_bind, Program.run_call]
  have hstore : storeRecord i.now i.record ((some i.event).map (·.id)) s =
      (⟨s.records.set (recordKey i.record) (storedPayload i.now i.record (some i.event.id)),
        s.ingest⟩, true, publicPayload (storedPayload i.now i.record (some i.event.id))) := by
    simp only [storeRecord, InboundRecordStore.record, hnone, Option.map_some]
  rw [hstore]
  dsimp only
  rw [if_neg (by simp), if_neg hvalid]
  have hpipeline : ∀ t : InboundState, (pipelineEvent env i.now i.event).run t =
      ({ t with ingest := ((recordPipelineEvent env.toPipeline i.now i.event).run t.ingest).1 },
        ((recordPipelineEvent env.toPipeline i.now i.event).run t.ingest).2) := by
    intro t
    unfold pipelineEvent
    refine Program.run_zoom ?_ ?_ ?_ _ t
    · intro ingest t
      rfl
    · intro ingest ingest' t
      rfl
    · intro t
      rfl
  unfold Program.bindExcept
  rw [Program.run_bind, hpipeline]
  cases (recordPipelineEvent env.toPipeline i.now i.event).run s.ingest with
  | mk s' result =>
    cases result with
    | error e => rfl
    | ok receipt => rfl

/-- A record whose row is stored is a duplicate. -/
theorem run_processInboundRecord_of_old_row (hi : Mapped env system objectType type i)
    (hrow : s.records.contains (recordKey i.record) = true) :
    ∃ row, (processInboundRecord env i.now i.record).run s = (s, .ok (.duplicate row)) := by
  obtain ⟨row, hget⟩ := (Dict.contains_iff _ _).mp hrow
  refine ⟨publicPayload row, ?_⟩
  unfold processInboundRecord
  rw [hi.maps]
  dsimp only
  rw [Program.run_bind, Program.run_call]
  have hstore : storeRecord i.now i.record ((some i.event).map (·.id)) s =
      (s, false, publicPayload row) := by
    simp only [storeRecord, InboundRecordStore.record, hget]
  rw [hstore, if_pos rfl]
  rfl

/-- An event with a new key is accepted. -/
theorem run_recordPipelineEvent_of_new (hlive : Live env) (h : Importable event) (now : Timestamp)
    {s : IngestState} (hnew : s.events.get (eventKey event) = none)
    (hkeyed : Inventory.Keyed s.inventory.positions)
    (htwin : event.type = .sale → OnlySales env.twinService.policyFor s.twin) :
    ∃ s' busMessageId cascade twin inventory,
      (recordPipelineEvent env.toPipeline now event).run s =
        (s', .ok (.accepted event busMessageId cascade twin inventory)) ∧
      s'.inventory = (s.inventory.projectEvent now.isoformat event.toDict).1 ∧
      s'.twin = ((Twin.projectEvent env.twinService now event).run s.twin).1 ∧
      ∀ k, s'.events.get k = if eventKey event = k then
        some (EventStore.storedPayload now.isoformat event) else s.events.get k := by
  have hunknown : s.events.events.contains (eventKey event) = false :=
    (Dict.contains_eq_false_iff _ _).mpr hnew
  have hrecord : recordEvent now event s = ({ s with events :=
      ⟨s.events.events.set (eventKey event) (EventStore.storedPayload now.isoformat event),
        s.events.published⟩ }, true) := by
    unfold recordEvent
    rw [EventStore.record_of_new hunknown]
  unfold recordPipelineEvent
  rw [Program.run_bind, Program.run_call, hrecord]
  dsimp only
  rw [if_pos rfl]
  obtain ⟨s', busMessageId, cascade, twin, inventory, hrun, habsorbed⟩ :=
    run_acceptEvent_of_importable hlive h now (s := { s with events :=
      ⟨s.events.events.set (eventKey event) (EventStore.storedPayload now.isoformat event),
        s.events.published⟩ }) hkeyed htwin
  refine ⟨s', busMessageId, cascade, twin, inventory, hrun, habsorbed.inventory, habsorbed.twin,
    fun k => ?_⟩
  rw [habsorbed.events]
  exact Dict.get?_set _ _ _ _

variable {seen : List Import}

/-- A record with a new key is accepted. -/
theorem step_new (hlive : Live env) (hseen : ∀ j ∈ seen, Mapped env system objectType type j)
    (hi : Mapped env system objectType type i) (hs : Reflects env type seen s)
    (hnew : i.key ∉ seen.map Import.key) :
    ∃ s' outcome, (processInboundRecord env i.now i.record).run s = (s', .ok outcome) ∧
      outcome.IsAccepted ∧ Reflects env type (seen ++ [i]) s' ∧
      s'.ingest.inventory =
        (s.ingest.inventory.projectEvent i.now.isoformat i.event.toDict).1 := by
  have hrow : s.records.contains (recordKey i.record) = false := by
    refine Bool.eq_false_iff.mpr fun hcontains => hnew ?_
    obtain ⟨j, hj, hkey⟩ := List.mem_map.mp ((hs.rows _).mp hcontains)
    exact List.mem_map.mpr ⟨j, hj, ((recordKey_eq_iff (hseen j hj) hi).mp hkey).1⟩
  have htwin : i.event.type = .sale → OnlySales env.twinService.policyFor s.ingest.twin :=
    fun htype => hs.twin (hi.type.symm.trans htype)
  obtain ⟨row, hrun⟩ := run_processInboundRecord_of_new_row hi hrow
  obtain ⟨s', busMessageId, cascade, twin, inventory, hpipeline, hinventory, htwin', hget⟩ :=
    run_recordPipelineEvent_of_new hlive hi.importable i.now ((hs.unknown _).mpr hnew) hs.keyed htwin
  rw [hpipeline] at hrun
  refine ⟨_, _, hrun, trivial, ?_, hinventory⟩
  refine ⟨fun k => ?_, fun k => ?_, fun k payload hk => ?_, ?_, ?_, fun htype => ?_⟩
  · have hset : (s.records.set (recordKey i.record) row).contains k = true ↔
        recordKey i.record = k ∨ s.records.contains k = true := by
      rw [Dict.contains_iff, Dict.get?_set, Dict.contains_iff]
      by_cases hk : recordKey i.record = k
      · simp [hk]
      · simp [hk]
    rw [List.map_append, List.mem_append, List.map_singleton, List.mem_singleton, ← hs.rows]
    exact hset.trans ⟨fun h => h.symm.imp id Eq.symm, fun h => h.symm.imp Eq.symm id⟩
  · change s'.events.get k = none ↔ _
    rw [hget, List.map_append, List.mem_append, List.map_singleton, List.mem_singleton, not_or,
      ← hs.unknown]
    by_cases hk : eventKey i.event = k
    · rw [if_pos hk]
      exact iff_of_false (by simp) fun h => h.2 hk.symm
    · rw [if_neg hk]
      exact ⟨fun h => ⟨h, fun heq => hk heq.symm⟩, fun h => h.1⟩
  · change s'.events.get k = some payload at hk
    rw [hget] at hk
    split at hk
    · rename_i heq
      cases hk
      exact ⟨i, List.mem_append_right _ (List.mem_singleton_self i), heq, _, rfl⟩
    · obtain ⟨j, hj, hstored⟩ := hs.stored k payload hk
      exact ⟨j, List.mem_append_left _ hj, hstored⟩
  · rw [List.map_append, List.map_singleton]
    exact hs.nodup.append (List.nodup_singleton _) (List.disjoint_singleton.mpr hnew)
  · change Inventory.Keyed s'.inventory.positions
    rw [hinventory]
    exact Inventory.keyed_projectEvent hs.keyed _ _
  · change OnlySales env.twinService.policyFor s'.twin
    rw [htwin']
    have hsale := hi.type.trans htype
    exact (hs.twin htype).project i.now hsale hi.importable.operational
      (hi.importable.get_facts hsale)

/-- A record with the key of an accepted one that was made of the same is a duplicate. -/
theorem step_duplicate (hseen : ∀ j ∈ seen, Mapped env system objectType type j)
    (hi : Mapped env system objectType type i) (hs : Reflects env type seen s) (hj : j ∈ seen)
    (hkey : i.key = j.key) (hhash : i.record.payloadHash = j.record.payloadHash) :
    ∃ row, (processInboundRecord env i.now i.record).run s = (s, .ok (.duplicate row)) := by
  refine run_processInboundRecord_of_old_row hi ((hs.rows _).mpr ?_)
  exact List.mem_map.mpr ⟨j, hj, ((recordKey_eq_iff hi (hseen j hj)).mpr ⟨hkey, hhash⟩).symm⟩

/-- A record with the key of an accepted one that was made of something else is refused. -/
theorem step_conflict (hseen : ∀ j ∈ seen, Mapped env system objectType type j)
    (hi : Mapped env system objectType type i) (hs : Reflects env type seen s) (hj : j ∈ seen)
    (hkey : i.key = j.key) (hhash : i.record.payloadHash ≠ j.record.payloadHash) :
    ∃ s' e, (processInboundRecord env i.now i.record).run s = (s', .error e) := by
  have hrow : s.records.contains (recordKey i.record) = false := by
    refine Bool.eq_false_iff.mpr fun hcontains => ?_
    obtain ⟨j', hj', hrecord⟩ := List.mem_map.mp ((hs.rows _).mp hcontains)
    obtain ⟨hkey', hhash'⟩ := (recordKey_eq_iff (hseen j' hj') hi).mp hrecord
    rw [List.inj_on_of_nodup_map hs.nodup hj' hj (hkey'.trans hkey)] at hhash'
    exact hhash hhash'.symm
  have hknown : s.ingest.events.get i.key ≠ none := fun hnone =>
    (hs.unknown _).mp hnone (hkey ▸ List.mem_map_of_mem hj)
  obtain ⟨payload, hpayload⟩ := Option.ne_none_iff_exists'.mp hknown
  obtain ⟨j', hj', hkey', now, rfl⟩ := hs.stored _ _ hpayload
  rw [List.inj_on_of_nodup_map hs.nodup hj' hj (hkey'.trans hkey)] at hpayload
  have hother := sameEventPayload_of_hash_ne hi (hseen j hj) hhash.symm now
  have hrefused := run_recordPipelineEvent_of_conflict env.toPipeline hpayload hother i.now
  obtain ⟨row, hrun⟩ := run_processInboundRecord_of_new_row hi hrow
  cases hpipeline : (recordPipelineEvent env.toPipeline i.now i.event).run s.ingest with
  | mk s' result =>
    rw [hpipeline] at hrun hrefused
    cases result with
    | error e => exact ⟨_, e, hrun⟩
    | ok receipt => cases hrefused

/-! ## Runs -/

/-- The records of a run with their clocks. -/
def feed (imports : List Import) : List (Timestamp × InboundRecord) :=
  imports.map fun i => (i.now, i.record)

/-- Every record of a call was accepted. -/
def AllAccepted (result : Except Exc (List InboundOutcome)) : Prop :=
  ∃ outcomes, result = .ok outcomes ∧ ∀ outcome ∈ outcomes, outcome.IsAccepted

/-- Records with one key were made of the same. -/
def Consistent (imports : List Import) : Prop :=
  ∀ i ∈ imports, ∀ j ∈ imports, i.key = j.key → i.record.payloadHash = j.record.payloadHash

/-- The inventory after the events of records have been projected. -/
def projectAll (inventory : Inventory.Store) (imports : List Import) : Inventory.Store :=
  imports.foldl (fun s i => (s.projectEvent i.now.isoformat i.event.toDict).1) inventory

variable {imports : List Import}

/-- Every record of a run is accepted exactly when no two events of the run have one key. -/
theorem accepted_iff (hlive : Live env) (hseen : ∀ j ∈ seen, Mapped env system objectType type j)
    (hs : Reflects env type seen s) (hmapped : ∀ i ∈ imports, Mapped env system objectType type i) :
    AllAccepted (processRecords env (feed imports) s).2 ↔
      ((seen ++ imports).map Import.key).Nodup := by
  induction imports generalizing seen s with
  | nil =>
    rw [List.append_nil]
    exact iff_of_true ⟨[], rfl, fun _ h => absurd h List.not_mem_nil⟩ hs.nodup
  | cons i rest ih =>
    have hi := hmapped i List.mem_cons_self
    have hrest : ∀ j ∈ rest, Mapped env system objectType type j :=
      fun j hj => hmapped j (List.mem_cons_of_mem _ hj)
    by_cases hnew : i.key ∈ seen.map Import.key
    · -- the record is refused or a duplicate
      have hdup : ¬ ((seen ++ i :: rest).map Import.key).Nodup := by
        rw [List.map_append, List.map_cons]
        exact fun hnodup => (List.nodup_append.mp hnodup).2.2 _ hnew _ List.mem_cons_self rfl
      refine iff_of_false ?_ hdup
      rintro ⟨outcomes, hok, haccepted⟩
      obtain ⟨j, hj, hkey⟩ := List.mem_map.mp hnew
      by_cases hhash : i.record.payloadHash = j.record.payloadHash
      · obtain ⟨row, hrun⟩ := step_duplicate hseen hi hs hj hkey.symm hhash
        unfold feed at hok
        rw [List.map_cons, processRecords, hrun] at hok
        dsimp only at hok
        split at hok
        · cases hok
        · cases hok
          exact haccepted _ List.mem_cons_self
      · obtain ⟨s', e, hrun⟩ := step_conflict hseen hi hs hj hkey.symm hhash
        unfold feed at hok
        rw [List.map_cons, processRecords, hrun] at hok
        cases hok
    · obtain ⟨s', outcome, hrun, haccepted, hs', -⟩ := step_new hlive hseen hi hs hnew
      have hseen' : ∀ j ∈ seen ++ [i], Mapped env system objectType type j := by
        intro j hj
        rcases List.mem_append.mp hj with hold | hlast
        · exact hseen j hold
        · rw [List.mem_singleton.mp hlast]
          exact hi
      have hih := ih hseen' hs' hrest
      rw [List.append_assoc] at hih
      rw [show seen ++ i :: rest = seen ++ ([i] ++ rest) from rfl, ← hih]
      unfold feed
      rw [List.map_cons, processRecords, hrun]
      dsimp only
      constructor
      · rintro ⟨outcomes, hok, hall⟩
        cases hresult : processRecords env (List.map (fun i => (i.now, i.record)) rest) s' with
        | mk s'' result =>
          rw [hresult] at hok
          cases result with
          | error e => cases hok
          | ok outcomes' =>
            cases hok
            exact ⟨outcomes', rfl, fun o ho => hall o (List.mem_cons_of_mem _ ho)⟩
      · rintro ⟨outcomes, hok, hall⟩
        cases hresult : processRecords env (List.map (fun i => (i.now, i.record)) rest) s' with
        | mk s'' result =>
          rw [hresult] at hok
          cases hok
          refine ⟨outcome :: outcomes, rfl, fun o ho => ?_⟩
          rcases List.mem_cons.mp ho with rfl | hrest'
          · exact haccepted
          · exact hall o hrest'

/-- One more record with the key of another, made of the same. -/
theorem consistent_insert_iff {rest : List Import} (hj : j ∈ seen) (hkey : i.key = j.key)
    (hhash : i.record.payloadHash = j.record.payloadHash) :
    Consistent (seen ++ i :: rest) ↔ Consistent (seen ++ rest) := by
  have hsub : ∀ a ∈ seen ++ i :: rest, a = i ∨ a ∈ seen ++ rest := by
    intro a ha
    rcases List.mem_append.mp ha with hseen | hrest
    · exact .inr (List.mem_append_left _ hseen)
    · rcases List.mem_cons.mp hrest with heq | hrest'
      · exact .inl heq
      · exact .inr (List.mem_append_right _ hrest')
  have hj' : j ∈ seen ++ rest := List.mem_append_left _ hj
  constructor
  · intro h a ha b hb
    have hmem : ∀ c ∈ seen ++ rest, c ∈ seen ++ i :: rest := by
      intro c hc
      rcases List.mem_append.mp hc with hseen | hrest
      · exact List.mem_append_left _ hseen
      · exact List.mem_append_right _ (List.mem_cons_of_mem _ hrest)
    exact h a (hmem a ha) b (hmem b hb)
  · intro h a ha b hb hab
    rcases hsub a ha with rfl | ha'
    · rcases hsub b hb with rfl | hb'
      · rfl
      · exact hhash.trans (h j hj' b hb' (hkey.symm.trans hab))
    · rcases hsub b hb with rfl | hb'
      · exact (h a ha' j hj' (hab.trans hkey)).trans hhash.symm
      · exact h a ha' b hb' hab

/-- A run goes through exactly when records with one key were made of the same. Then the ledger has
been given the event of each key once. -/
theorem converges_iff (hlive : Live env) (hseen : ∀ j ∈ seen, Mapped env system objectType type j)
    (hs : Reflects env type seen s) (hmapped : ∀ i ∈ imports, Mapped env system objectType type i) :
    ((processRecords env (feed imports) s).2.isOk = true ↔ Consistent (seen ++ imports)) ∧
      ((processRecords env (feed imports) s).2.isOk = true →
        Reflects env type (seen ++ firstsBy Import.key (seen.map Import.key) imports)
          (processRecords env (feed imports) s).1 ∧
        (processRecords env (feed imports) s).1.ingest.inventory =
          projectAll s.ingest.inventory (firstsBy Import.key (seen.map Import.key) imports)) := by
  induction imports generalizing seen s with
  | nil =>
    have hconsistent : Consistent (seen ++ []) := by
      intro a ha b hb hab
      rw [List.append_nil] at ha hb
      rw [List.inj_on_of_nodup_map hs.nodup ha hb hab]
    refine ⟨iff_of_true rfl hconsistent, fun _ => ⟨?_, rfl⟩⟩
    rw [firstsBy, List.append_nil]
    exact hs
  | cons i rest ih =>
    have hi := hmapped i List.mem_cons_self
    have hrest : ∀ j ∈ rest, Mapped env system objectType type j :=
      fun j hj => hmapped j (List.mem_cons_of_mem _ hj)
    have hfeed : feed (i :: rest) = (i.now, i.record) :: feed rest := rfl
    by_cases hnew : i.key ∈ seen.map Import.key
    · obtain ⟨j, hj, hkey⟩ := List.mem_map.mp hnew
      by_cases hhash : i.record.payloadHash = j.record.payloadHash
      · obtain ⟨row, hrun⟩ := step_duplicate hseen hi hs hj hkey.symm hhash
        obtain ⟨hok, hafter⟩ := ih hseen hs hrest
        have hstate : (processRecords env (feed (i :: rest)) s).2.isOk =
              (processRecords env (feed rest) s).2.isOk ∧
            (processRecords env (feed (i :: rest)) s).1 =
              (processRecords env (feed rest) s).1 := by
          rw [hfeed, processRecords, hrun]
          dsimp only
          cases processRecords env (feed rest) s with
          | mk s' result => cases result with
            | error e => exact ⟨rfl, rfl⟩
            | ok outcomes => exact ⟨rfl, rfl⟩
        rw [hstate.1, hstate.2, firstsBy, if_pos hnew, consistent_insert_iff hj hkey.symm hhash]
        exact ⟨hok, hafter⟩
      · obtain ⟨s', e, hrun⟩ := step_conflict hseen hi hs hj hkey.symm hhash
        have herror : (processRecords env (feed (i :: rest)) s).2.isOk = false := by
          rw [hfeed, processRecords, hrun]
          rfl
        rw [herror]
        refine ⟨iff_of_false (by simp) fun hconsistent => hhash ?_, fun h => by cases h⟩
        exact hconsistent i (List.mem_append_right _ List.mem_cons_self) j
          (List.mem_append_left _ hj) hkey.symm
    · obtain ⟨s', outcome, hrun, -, hs', hinventory⟩ := step_new hlive hseen hi hs hnew
      have hseen' : ∀ j ∈ seen ++ [i], Mapped env system objectType type j := by
        intro j hj
        rcases List.mem_append.mp hj with hold | hlast
        · exact hseen j hold
        · rw [List.mem_singleton.mp hlast]
          exact hi
      obtain ⟨hok, hafter⟩ := ih hseen' hs' hrest
      rw [List.map_append, List.map_singleton, List.append_assoc, hinventory] at hafter
      rw [List.append_assoc] at hok
      have hstate : (processRecords env (feed (i :: rest)) s).2.isOk =
            (processRecords env (feed rest) s').2.isOk ∧
          (processRecords env (feed (i :: rest)) s).1 =
            (processRecords env (feed rest) s').1 := by
        rw [hfeed, processRecords, hrun]
        dsimp only
        cases processRecords env (feed rest) s' with
        | mk s'' result => cases result with
          | error e => exact ⟨rfl, rfl⟩
          | ok outcomes => exact ⟨rfl, rfl⟩
      rw [hstate.1, hstate.2, firstsBy, if_neg hnew]
      exact ⟨hok, hafter⟩

end Record

/-! ## Fresh stores -/

/-- The stores before anything has come in, but for the stock. -/
def freshStores (inventory : Inventory.Store) : InboundState :=
  ⟨Dict.empty, { IngestState.empty with inventory }⟩

theorem reflects_fresh (env : Intake) (type : EventType) {inventory : Inventory.Store}
    (hkeyed : Inventory.Keyed inventory.positions) :
    Reflects env type [] (freshStores inventory) where
  rows := fun k => iff_of_false (fun h => by cases h) List.not_mem_nil
  unknown := fun k => iff_of_true rfl List.not_mem_nil
  stored := fun k payload h => by cases h
  nodup := List.nodup_nil
  keyed := hkeyed
  twin := fun _ => onlySales_empty _

/-- Only a record that becomes an event is accepted. -/
theorem event_of_accepted {env : Intake} {now : Timestamp} {record : InboundRecord}
    {s s' : InboundState} {outcome : InboundOutcome}
    (h : (processInboundRecord env now record).run s = (s', .ok outcome))
    (haccepted : outcome.IsAccepted) : ∃ event, recordToEvent env.fromIso record = .ok (some event) := by
  unfold processInboundRecord at h
  cases hmaps : recordToEvent env.fromIso record with
  | error e =>
    rw [hmaps] at h
    cases h
  | ok event =>
    cases event with
    | some event => exact ⟨event, rfl⟩
    | none =>
      rw [hmaps] at h
      dsimp only at h
      rw [Program.run_bind, Program.run_call] at h
      split at h
      · cases h
        cases haccepted
      · split at h
        · cases h
          cases haccepted
        · cases h
          cases haccepted

/-- Where every record is accepted, every record becomes an event. -/
theorem events_of_allAccepted {env : Intake} {records : List (Timestamp × InboundRecord)}
    {s : InboundState} (h : AllAccepted (processRecords env records s).2) :
    ∀ r ∈ records, ∃ event, recordToEvent env.fromIso r.2 = .ok (some event) := by
  induction records generalizing s with
  | nil => exact fun r hr => absurd hr List.not_mem_nil
  | cons r rest ih =>
    obtain ⟨outcomes, hok, hall⟩ := h
    rw [processRecords] at hok
    split at hok
    · cases hok
    · rename_i s' outcome hrun
      split at hok
      · cases hok
      · rename_i s'' outcomes' hrest
        cases hok
        intro r' hr'
        rcases List.mem_cons.mp hr' with heq | hmem
        · rw [heq]
          exact event_of_accepted hrun (hall _ List.mem_cons_self)
        · exact ih ⟨outcomes', by rw [hrest], fun o ho => hall o (List.mem_cons_of_mem _ ho)⟩ r' hmem

end ShelfWise.Ingest
