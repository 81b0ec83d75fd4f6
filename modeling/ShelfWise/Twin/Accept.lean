import ShelfWise.Twin.Bootstrap
import ShelfWise.Twin.Order

/-!
# Accepted observations

`TwinService.accept` and the route of the edge devices: an observation that no event stands behind
makes its entity when there is none, and is projected. A device may only send observations that
carry its own store (`edgeObservations`), but what an observation changes belongs to the store of the
entity it is about.

`StoresKept` says that of a tenant's twin only one store has changed. `accept_stays_iff` says exactly
when that is so for the store an observation carries: the entity has to be that store's or new, unless
the observation is refused or loses against the state there is.
-/

namespace ShelfWise.Twin

open Py Sys TwinStore

/-! ## Accepting -/

/-- The entity `_ensure_entity_for_observation` makes. -/
def observedEntity (o : TwinObservation) : TwinEntity where
  twinId := o.twinId
  tenantId := o.tenantId
  storeId := o.storeId
  entityType := "observed_entity"
  displayName := take 200 (localIdOf o.twinId)
  modelVersion := "twin-v1"
  attributes := []
  createdAt := o.observedAt
  retiredAt := none

/-- `accept` from the store that has the entity. -/
def acceptInto (svc : TwinService) (now : Timestamp) (o : TwinObservation) (s : TwinStore) :
    TwinStore × Except Exc ProjectionResult :=
  let done := (apply svc.policyFor now o).run s
  (done.1, .ok done.2)

/-- `accept`. -/
def accept (svc : TwinService) (now : Timestamp) (o : TwinObservation) (s : TwinStore) :
    TwinStore × Except Exc ProjectionResult :=
  match s.entities.get? (o.tenantId, o.twinId) with
  | some _ => acceptInto svc now o s
  | none =>
    match (observedEntity o).validated with
    | .error e => (s, .error e)
    | .ok entity => acceptInto svc now o (ensureEntity entity s).1

/-- `accept` for one observation after another, each with what the clock shows; an error ends the
loop. -/
def acceptAll (svc : TwinService) :
    List (Timestamp × TwinObservation) → TwinStore → TwinStore × Except Exc (List ProjectionResult)
  | [], s => (s, .ok [])
  | c :: rest, s =>
    let accepted := accept svc c.1 c.2 s
    match accepted.2 with
    | .error e => (accepted.1, .error e)
    | .ok result =>
      let later := acceptAll svc rest accepted.1
      (later.1, later.2.map fun results => result :: results)

/-! ## The route of the edge devices -/

/-- `EdgeDevice`, of a device that is registered. -/
structure EdgeDevice where
  deviceId : String
  tenantId : String
  storeId : String
deriving DecidableEq

/-- `EdgeObservationBatch`. -/
structure EdgeObservationBatch where
  batchId : String
  tenantId : String
  storeId : String
  deviceId : String
  observations : List TwinObservation
deriving DecidableEq

/-- The first field `EdgeObservationBatch` refuses. -/
def EdgeObservationBatch.violation (batch : EdgeObservationBatch) : Option String :=
  firstViolation
    [("batch_id", lengthBetween 8 160 batch.batchId), ("tenant_id", lengthBetween 1 100 batch.tenantId),
      ("store_id", lengthBetween 1 100 batch.storeId),
      ("device_id", lengthBetween 8 160 batch.deviceId),
      ("observations", 1 ≤ batch.observations.length ∧ batch.observations.length ≤ 100 ∧
        (batch.observations.map (·.storeId)).dedup.length ≤ 1)]

/-- What the registry knows of a batch. -/
inductive BatchState where
  | claimed
  | completed
deriving DecidableEq

/-- The twin and the batches the registry has claimed. -/
structure EdgeSide where
  twin : TwinStore
  batches : Dict (String × String) BatchState

/-- The answers of the route. -/
inductive EdgeAnswer where
  | refused (status : ℕ) (detail : String)
  | duplicate (batchId : String)
  | accepted (batchId : String) (projected duplicates : ℕ)
deriving DecidableEq

/-- The batch, and every observation in it, carries the scope of the device. -/
def inScope (device : EdgeDevice) (batch : EdgeObservationBatch) : Bool :=
  batch.deviceId = device.deviceId ∧ batch.tenantId = device.tenantId ∧
    batch.storeId = device.storeId ∧
    batch.observations.all fun item => item.tenantId = device.tenantId ∧ item.storeId = device.storeId

/-- How many receipts have a status. -/
def countStatus (status : ProjectionStatus) (receipts : List ProjectionResult) : ℕ :=
  receipts.countP fun receipt => receipt.status = status

/-- The observations of a batch with what the clock shows at each. -/
def EdgeObservationBatch.timed (clock : ℕ → Timestamp) (batch : EdgeObservationBatch) :
    List (Timestamp × TwinObservation) :=
  batch.observations.zipIdx.map fun item => (clock item.2, item.1)

/-- `ingest_edge_observations`, for a body of the size the route takes. `device` is the active device
whose signature the body has. -/
def edgeObservations (svc : TwinService) (clock : ℕ → Timestamp) (device : Option EdgeDevice)
    (batch : EdgeObservationBatch) (st : EdgeSide) : EdgeSide × EdgeAnswer :=
  match device with
  | none => (st, .refused 401 "Invalid edge device signature")
  | some device =>
    if batch.violation ≠ none ∨ (batch.observations.any fun item => item.violation ≠ none) then
      (st, .refused 422 "Invalid derived observation batch")
    else if inScope device batch = false then (st, .refused 403 "Edge batch scope mismatch")
    else match st.batches.get? (batch.tenantId, batch.batchId) with
      | some .completed => (st, .duplicate batch.batchId)
      | some .claimed => (st, .refused 409 "Edge batch is already being projected")
      | none =>
        let done := acceptAll svc (batch.timed clock) st.twin
        match done.2 with
        | .error _ =>
          -- the claim is released again
          ({ st with twin := done.1 },
            .refused 503 "Edge batch projection failed; retry the same signed batch")
        | .ok receipts =>
          (⟨done.1, st.batches.set (batch.tenantId, batch.batchId) .completed⟩,
            .accepted batch.batchId (countStatus .projected receipts) (countStatus .duplicate receipts))

/-! ## Changes in one store -/

/-- All that has changed belongs to one store of a tenant. -/
structure StoresKept (tenantId storeId : String) (s s' : TwinStore) : Prop where
  entities : ∀ k, s'.entities.get? k ≠ s.entities.get? k →
    ∃ e, s'.entities.get? k = some e ∧ e.tenantId = tenantId ∧ e.storeId = storeId
  relationships : s'.relationships = s.relationships
  properties : ∀ key, s'.properties.get? key ≠ s.properties.get? key →
    key.tenantId = tenantId ∧ s'.entityInStore key.twinId tenantId storeId = true
  listed : ∀ tenantId' storeId', (tenantId', storeId') ≠ (tenantId, storeId) →
    ∀ includePredicted, s'.listProperties tenantId' (some storeId') includePredicted
      = s.listProperties tenantId' (some storeId') includePredicted
  snapshots : ∀ tenantId' storeId', (tenantId', storeId') ≠ (tenantId, storeId) →
    ∀ generatedAt, snapshot s' tenantId' storeId' generatedAt = snapshot s tenantId' storeId' generatedAt

/-- The observation stays in the store it carries: its entity is new or of that store, or it does not
get projected. -/
def InStore (policyFor : SourcePolicyResolver) (s : TwinStore) (o : TwinObservation) : Prop :=
  (∀ e, s.entities.get? (o.tenantId, o.twinId) = some e → e.storeId = o.storeId) ∨
    s.log.refuses o = true ∨ loses policyFor (s.properties.get? o.facts.key) o = true

/-! ## What accepting does -/

/-- What an observation that is accepted does to the store. -/
structure Admitted (policyFor : SourcePolicyResolver) (now : Timestamp) (s : TwinStore)
    (o : TwinObservation) (s' : TwinStore) : Prop where
  entities : s'.entities = s.entities.setdefault (o.tenantId, o.twinId) (observedEntity o)
  relationships : s'.relationships = s.relationships
  log : s'.log = s.log.offer o
  properties : s'.properties =
    if s.log.refuses o = true ∨ loses policyFor (s.properties.get? o.facts.key) o = true then
      s.properties
    else s.properties.set o.facts.key (stateOf policyFor now o)

theorem accepted_acceptInto (svc : TwinService) (now : Timestamp) {o : TwinObservation}
    {s : TwinStore} (h : s.entities.contains (o.tenantId, o.twinId) = true) :
    Admitted svc.policyFor now s o (acceptInto svc now o s).1 where
  entities := (run_apply_tables svc.policyFor now o s).1.trans
    (Dict.setdefault_of_contains h _).symm
  relationships := (run_apply_tables svc.policyFor now o s).2
  log := log_run_apply svc.policyFor now o s
  properties := properties_run_apply svc.policyFor now o s

/-- An observation is accepted, or its entity is new and refused and nothing changes. -/
theorem accept_answer (svc : TwinService) (now : Timestamp) (o : TwinObservation) (s : TwinStore) :
    (accept svc now o s).2.isOk = true ∧ Admitted svc.policyFor now s o (accept svc now o s).1 ∨
      (accept svc now o s).2.isOk = false ∧ (accept svc now o s).1 = s ∧
        s.entities.get? (o.tenantId, o.twinId) = none := by
  unfold accept
  cases hget : s.entities.get? (o.tenantId, o.twinId) with
  | some e =>
    exact .inl ⟨rfl, accepted_acceptInto svc now ((Dict.contains_iff _ _).mpr ⟨e, hget⟩)⟩
  | none =>
    dsimp only
    cases hentity : (observedEntity o).validated with
    | error e => exact .inr ⟨rfl, rfl, rfl⟩
    | ok entity =>
      obtain rfl := TwinEntity.eq_of_validated hentity
      have hcontains : (ensureEntity (observedEntity o) s).1.entities.contains
          (o.tenantId, o.twinId) = true :=
        Dict.contains_setdefault_self s.entities (o.tenantId, o.twinId) (observedEntity o)
      obtain ⟨hentities, hrelationships, hlog, hproperties⟩ :=
        accepted_acceptInto svc now hcontains
      refine .inl ⟨rfl, ?_, hrelationships, hlog, hproperties⟩
      rw [hentities, Dict.setdefault_of_contains hcontains]
      rfl

theorem accept_cases (svc : TwinService) (now : Timestamp) (o : TwinObservation) (s : TwinStore) :
    Admitted svc.policyFor now s o (accept svc now o s).1 ∨
      (accept svc now o s).1 = s ∧ s.entities.get? (o.tenantId, o.twinId) = none :=
  (accept_answer svc now o s).imp And.right And.right

/-! ## Other stores -/

variable {policyFor : SourcePolicyResolver} {now : Timestamp} {s s' : TwinStore} {o : TwinObservation}

/-- A row of one store is not shown for another. -/
theorem elsewhere {tenantId storeId tenantId' storeId' : String}
    (hne : (tenantId', storeId') ≠ (tenantId, storeId)) :
    (decide (tenantId = tenantId') && decide (storeId = storeId')) = false := by
  rw [Bool.and_eq_false_iff, decide_eq_false_iff_not, decide_eq_false_iff_not]
  by_contra hboth
  push Not at hboth
  obtain ⟨rfl, rfl⟩ := hboth
  exact hne rfl

/-- The entity of an accepted observation is there afterwards; a new one is in the observation's
store. -/
theorem Admitted.entity (h : Admitted policyFor now s o s') :
    s'.entities.get? (o.tenantId, o.twinId)
      = some ((s.entities.get? (o.tenantId, o.twinId)).getD (observedEntity o)) := by
  rw [h.entities, Dict.get?_setdefault]
  cases s.entities.get? (o.tenantId, o.twinId) <;> simp

theorem Admitted.entity_ne (h : Admitted policyFor now s o s') {k : String × String}
    (hk : k ≠ (o.tenantId, o.twinId)) : s'.entities.get? k = s.entities.get? k := by
  rw [h.entities, Dict.get?_setdefault]
  simp [Ne.symm hk]

variable {tenantId' storeId' : String}

/-- An accepted observation moves no entity in or out of another store. -/
theorem Admitted.entityInStore (h : Admitted policyFor now s o s')
    (hne : (tenantId', storeId') ≠ (o.tenantId, o.storeId)) (twinId : String) :
    s'.entityInStore twinId tenantId' storeId' = s.entityInStore twinId tenantId' storeId' := by
  unfold TwinStore.entityInStore
  by_cases hk : (tenantId', twinId) = (o.tenantId, o.twinId)
  · rw [hk, h.entity]
    cases s.entities.get? (o.tenantId, o.twinId) with
    | some e => rfl
    | none =>
      -- a new entity is in the store of the observation
      have hstore : o.storeId ≠ storeId' := by
        rintro rfl
        have htenant : tenantId' = o.tenantId := congrArg Prod.fst hk
        exact hne (by rw [htenant])
      simp [observedEntity, hstore]
  · rw [h.entity_ne hk]

theorem Admitted.listEntities (h : Admitted policyFor now s o s')
    (hne : (tenantId', storeId') ≠ (o.tenantId, o.storeId)) :
    s'.listEntities tenantId' (some storeId') = s.listEntities tenantId' (some storeId') := by
  unfold TwinStore.listEntities
  rw [h.entities]
  cases hcontains : s.entities.contains (o.tenantId, o.twinId) with
  | true => rw [Dict.setdefault_of_contains hcontains]
  | false =>
    rw [Dict.setdefault, hcontains, if_neg (by simp)]
    refine listing_set _ ?_ fun e hget => ?_
    · exact elsewhere hne
    · rw [(Dict.contains_eq_false_iff _ _).mp hcontains] at hget
      cases hget

theorem Admitted.listRelationships (h : Admitted policyFor now s o s')
    (hne : (tenantId', storeId') ≠ (o.tenantId, o.storeId)) :
    s'.listRelationships tenantId' (some storeId')
      = s.listRelationships tenantId' (some storeId') := by
  unfold TwinStore.listRelationships
  simp only [h.relationships, Option.all_some, h.entityInStore hne]

theorem Admitted.listObservations (h : Admitted policyFor now s o s')
    (hne : (tenantId', storeId') ≠ (o.tenantId, o.storeId)) (limit : ℕ) (includePredicted : Bool) :
    s'.listObservations tenantId' (some storeId') limit includePredicted
      = s.listObservations tenantId' (some storeId') limit includePredicted := by
  unfold TwinStore.listObservations
  rw [h.log]
  cases href : s.log.refuses o with
  | true => rw [ObservationLog.offer_of_refuses href]
  | false =>
    rw [ObservationLog.offer_of_fresh href]
    have hnone := (ObservationLog.fresh_of_not_refuses href).1
    refine congrArg (List.take limit) (listing_set _ ?_ fun o' hget => ?_)
    · change (decide (o.tenantId = tenantId') && decide (o.storeId = storeId') &&
        (includePredicted || decide (o.lane ≠ .predicted))) = false
      rw [elsewhere hne, Bool.false_and]
    · rw [hnone] at hget
      cases hget

/-- The properties of other stores stay, unless the observation is about one of theirs. -/
theorem Admitted.listProperties (h : Admitted policyFor now s o s') (hin : InStore policyFor s o)
    (hne : (tenantId', storeId') ≠ (o.tenantId, o.storeId)) (includePredicted : Bool) :
    s'.listProperties tenantId' (some storeId') includePredicted
      = s.listProperties tenantId' (some storeId') includePredicted := by
  unfold TwinStore.listProperties
  simp only [h.entityInStore hne, Option.all_some, h.properties]
  split
  · rfl
  · next hprojected =>
    have hentity := hin.resolve_right hprojected
    have hhidden : ∀ v : TwinPropertyState,
        (decide (o.facts.key.tenantId = tenantId') &&
          s.entityInStore o.facts.key.twinId tenantId' storeId' &&
            (includePredicted || decide (v.lane ≠ .predicted))) = false := by
      intro v
      have houtside : (decide (o.tenantId = tenantId') &&
          s.entityInStore o.twinId tenantId' storeId') = false := by
        by_cases htenant : o.tenantId = tenantId'
        · subst htenant
          unfold TwinStore.entityInStore
          cases hget : s.entities.get? (o.tenantId, o.twinId) with
          | none => exact Bool.and_false _
          | some e =>
            dsimp only
            rw [hentity e hget]
            exact elsewhere hne
        · rw [decide_eq_false htenant, Bool.false_and]
      change (decide (o.tenantId = tenantId') && s.entityInStore o.twinId tenantId' storeId' &&
        (includePredicted || decide (v.lane ≠ .predicted))) = false
      rw [houtside, Bool.false_and]
    exact listing_set _ (hhidden _) fun v _ => hhidden v

/-! ## One observation -/

theorem StoresKept.refl (tenantId storeId : String) (s : TwinStore) :
    StoresKept tenantId storeId s s where
  entities := fun _ h => absurd rfl h
  relationships := rfl
  properties := fun _ h => absurd rfl h
  listed := fun _ _ _ _ => rfl
  snapshots := fun _ _ _ _ => rfl

/-- An observation that stays in its store leaves the others alone. -/
theorem Admitted.storesKept (h : Admitted policyFor now s o s') (hin : InStore policyFor s o) :
    StoresKept o.tenantId o.storeId s s' where
  entities := by
    intro k hk
    by_cases hkey : k = (o.tenantId, o.twinId)
    · subst hkey
      refine ⟨_, h.entity, ?_⟩
      rw [h.entity] at hk
      cases hget : s.entities.get? (o.tenantId, o.twinId) with
      | none => exact ⟨rfl, rfl⟩
      | some e => exact absurd (by rw [hget]; rfl) hk
    · exact absurd (h.entity_ne hkey) hk
  relationships := h.relationships
  properties := by
    intro key hkey
    rw [h.properties] at hkey
    split at hkey
    · exact absurd rfl hkey
    · next hprojected =>
      have hkeyOf : o.facts.key = key := by
        by_contra hne
        exact hkey (Dict.get?_set_ne _ hne _)
      subst hkeyOf
      refine ⟨rfl, ?_⟩
      change s'.entityInStore o.twinId o.tenantId o.storeId = true
      unfold TwinStore.entityInStore
      rw [h.entity]
      cases hget : s.entities.get? (o.tenantId, o.twinId) with
      | none => exact decide_eq_true rfl
      | some e => exact decide_eq_true (hin.resolve_right hprojected e hget)
  listed := fun _ _ hne includePredicted => h.listProperties hin hne includePredicted
  snapshots := fun tenantId' storeId' hne generatedAt => by
    unfold snapshot canonical
    simp only [h.listEntities hne, h.listRelationships hne, h.listProperties hin hne,
      h.listObservations hne]

/-- The property state under a key has been replaced by one of higher rank. -/
def Raised (policyFor : SourcePolicyResolver) (key : PropertyKey) (s s' : TwinStore) : Prop :=
  ∃ p', s'.properties.get? key = some p' ∧
    ∀ p, s.properties.get? key = some p → p.facts.rank policyFor < p'.facts.rank policyFor

/-- Property states are only replaced by ones of higher rank, and entities are not replaced. -/
structure Grows (policyFor : SourcePolicyResolver) (s s' : TwinStore) : Prop where
  entities : ∀ k e, s.entities.get? k = some e → s'.entities.get? k = some e
  properties : ∀ key p, s.properties.get? key = some p → ∃ p', s'.properties.get? key = some p' ∧
    p.facts.rank policyFor ≤ p'.facts.rank policyFor

theorem Grows.refl (policyFor : SourcePolicyResolver) (s : TwinStore) : Grows policyFor s s where
  entities := fun _ _ h => h
  properties := fun _ p h => ⟨p, h, le_rfl⟩

theorem Grows.trans {s'' : TwinStore} (h : Grows policyFor s s') (h' : Grows policyFor s' s'') :
    Grows policyFor s s'' where
  entities := fun k e hget => h'.entities k e (h.entities k e hget)
  properties := fun key p hget => by
    obtain ⟨p', hget', hle⟩ := h.properties key p hget
    obtain ⟨p'', hget'', hle'⟩ := h'.properties key p' hget'
    exact ⟨p'', hget'', hle.trans hle'⟩

theorem Admitted.raised (h : Admitted policyFor now s o s') (hfresh : s.log.refuses o = false)
    (hwins : loses policyFor (s.properties.get? o.facts.key) o = false) :
    Raised policyFor o.facts.key s s' := by
  refine ⟨stateOf policyFor now o, ?_, loses_eq_false_iff.mp hwins⟩
  rw [h.properties, if_neg (by simp [hfresh, hwins])]
  exact Dict.get?_set_self _ _ _

theorem Admitted.grows (h : Admitted policyFor now s o s') : Grows policyFor s s' where
  entities := by
    intro k e hget
    by_cases hkey : k = (o.tenantId, o.twinId)
    · rw [hkey] at hget ⊢
      rw [h.entity, hget]
      rfl
    · rw [h.entity_ne hkey, hget]
  properties := by
    intro key p hget
    rw [h.properties]
    split
    · exact ⟨p, hget, le_rfl⟩
    · next hprojected =>
      rw [Dict.get?_set]
      split
      · next hkey =>
        subst hkey
        have hwins : loses policyFor (s.properties.get? o.facts.key) o = false := by
          simpa using fun hl => hprojected (.inr hl)
        exact ⟨_, rfl, (loses_eq_false_iff.mp hwins p hget).le⟩
      · exact ⟨p, hget, le_rfl⟩

theorem grows_accept (svc : TwinService) (now : Timestamp) (o : TwinObservation) (s : TwinStore) :
    Grows svc.policyFor s (accept svc now o s).1 := by
  rcases accept_cases svc now o s with haccepted | ⟨heq, -⟩
  · exact haccepted.grows
  · rw [heq]
    exact Grows.refl svc.policyFor s

/-- A property that has been raised for an entity of another store is a change outside the store, from
whatever earlier state and to whatever later one. -/
theorem not_storesKept_of_raised {storeId : String} {key : PropertyKey} {e : TwinEntity}
    {first last : TwinStore} (hbefore : Grows policyFor first s) (hraised : Raised policyFor key s s')
    (hstep : Grows policyFor s s') (hafter : Grows policyFor s' last)
    (hentity : s.entities.get? (key.tenantId, key.twinId) = some e) (hstore : e.storeId ≠ storeId) :
    ¬ StoresKept key.tenantId storeId first last := by
  intro hkept
  obtain ⟨p', hget', hlt⟩ := hraised
  obtain ⟨q, hq, hle⟩ := hafter.properties key p' hget'
  have hchanged : last.properties.get? key ≠ first.properties.get? key := by
    intro heq
    obtain ⟨p, hp, hle'⟩ := hbefore.properties key q (heq ▸ hq)
    exact absurd ((hlt p hp).trans_le hle) (not_lt_of_ge hle')
  have hin := (hkept.properties key hchanged).2
  have hlast := hafter.entities _ e (hstep.entities _ e hentity)
  unfold TwinStore.entityInStore at hin
  rw [hlast] at hin
  exact hstore (of_decide_eq_true hin)

variable {svc : TwinService}

/-- What an observation that does not stay in its store comes to. -/
theorem strays_of_not_inStore (now : Timestamp) {o : TwinObservation} {s : TwinStore}
    (h : ¬ InStore svc.policyFor s o) :
    ∃ e, s.entities.get? (o.tenantId, o.twinId) = some e ∧ e.storeId ≠ o.storeId ∧
      Raised svc.policyFor o.facts.key s (accept svc now o s).1 := by
  simp only [InStore, not_or, Bool.not_eq_true] at h
  obtain ⟨hentity, hfresh, hwins⟩ := h
  push Not at hentity
  obtain ⟨e, hget, hstore⟩ := hentity
  refine ⟨e, hget, hstore, ?_⟩
  rcases accept_cases svc now o s with haccepted | ⟨-, hnone⟩
  · exact haccepted.raised hfresh hwins
  · rw [hget] at hnone
    cases hnone

/-- One observation leaves the other stores alone exactly when it stays in its own. -/
theorem storesKept_accept_iff (svc : TwinService) (now : Timestamp) (o : TwinObservation)
    (s : TwinStore) :
    StoresKept o.tenantId o.storeId s (accept svc now o s).1 ↔ InStore svc.policyFor s o := by
  constructor
  · intro hkept
    by_contra hstrays
    obtain ⟨e, hget, hstore, hraised⟩ := strays_of_not_inStore now hstrays
    exact not_storesKept_of_raised (Grows.refl _ s) hraised (grows_accept svc now o s)
      (Grows.refl _ _) hget hstore hkept
  · intro hin
    rcases accept_cases svc now o s with haccepted | ⟨heq, -⟩
    · exact haccepted.storesKept hin
    · rw [heq]
      exact StoresKept.refl _ _ s

/-! ## A batch -/

/-- Every observation stays in its store, in the state it is accepted in; those after an error are
not accepted. -/
def AllInStore (svc : TwinService) : List (Timestamp × TwinObservation) → TwinStore → Prop
  | [], _ => True
  | c :: rest, s => InStore svc.policyFor s c.2 ∧
      ((∃ result, (accept svc c.1 c.2 s).2 = .ok result) → AllInStore svc rest (accept svc c.1 c.2 s).1)

theorem acceptAll_cons (svc : TwinService) (c : Timestamp × TwinObservation)
    (rest : List (Timestamp × TwinObservation)) (s : TwinStore) :
    ((∃ result, (accept svc c.1 c.2 s).2 = .ok result) ∧
      (acceptAll svc (c :: rest) s).1 = (acceptAll svc rest (accept svc c.1 c.2 s).1).1) ∨
      (¬ ∃ result, (accept svc c.1 c.2 s).2 = .ok result) ∧
        (acceptAll svc (c :: rest) s).1 = (accept svc c.1 c.2 s).1 := by
  rw [acceptAll]
  cases haccepted : (accept svc c.1 c.2 s).2 with
  | error e =>
    exact .inr ⟨fun ⟨_, h⟩ => (nomatch h), rfl⟩
  | ok result =>
    exact .inl ⟨⟨result, rfl⟩, rfl⟩

theorem grows_acceptAll (svc : TwinService) (items : List (Timestamp × TwinObservation))
    (s : TwinStore) : Grows svc.policyFor s (acceptAll svc items s).1 := by
  induction items generalizing s with
  | nil => exact Grows.refl svc.policyFor s
  | cons c rest ih =>
    rcases acceptAll_cons svc c rest s with ⟨-, heq⟩ | ⟨-, heq⟩
    · rw [heq]
      exact (grows_accept svc c.1 c.2 s).trans (ih _)
    · rw [heq]
      exact grows_accept svc c.1 c.2 s

theorem StoresKept.trans {tenantId storeId : String} {s'' : TwinStore}
    (h : StoresKept tenantId storeId s s') (h' : StoresKept tenantId storeId s' s'')
    (hgrows : Grows policyFor s' s'') : StoresKept tenantId storeId s s'' where
  entities := by
    intro k hk
    by_cases hlater : s''.entities.get? k = s'.entities.get? k
    · rw [hlater] at hk ⊢
      exact h.entities k hk
    · exact h'.entities k hlater
  relationships := h'.relationships.trans h.relationships
  properties := by
    intro key hkey
    by_cases hlater : s''.properties.get? key = s'.properties.get? key
    · rw [hlater] at hkey
      obtain ⟨htenant, hin⟩ := h.properties key hkey
      refine ⟨htenant, ?_⟩
      unfold TwinStore.entityInStore at hin ⊢
      cases hget : s'.entities.get? (tenantId, key.twinId) with
      | none =>
        rw [hget] at hin
        cases hin
      | some e =>
        rw [hget] at hin
        rw [hgrows.entities _ e hget]
        exact hin
    · exact h'.properties key hlater
  listed := fun tenantId' storeId' hne includePredicted =>
    (h'.listed tenantId' storeId' hne includePredicted).trans
      (h.listed tenantId' storeId' hne includePredicted)
  snapshots := fun tenantId' storeId' hne generatedAt =>
    (h'.snapshots tenantId' storeId' hne generatedAt).trans
      (h.snapshots tenantId' storeId' hne generatedAt)

/-- Observations of one store leave the others alone when each stays in the store. -/
theorem storesKept_acceptAll {tenantId storeId : String}
    {items : List (Timestamp × TwinObservation)}
    (hscope : ∀ c ∈ items, c.2.tenantId = tenantId ∧ c.2.storeId = storeId) {s : TwinStore}
    (h : AllInStore svc items s) : StoresKept tenantId storeId s (acceptAll svc items s).1 := by
  induction items generalizing s with
  | nil => exact StoresKept.refl tenantId storeId s
  | cons c rest ih =>
    obtain ⟨⟨htenant, hstore⟩, hrest⟩ := List.forall_mem_cons.mp hscope
    obtain ⟨hin, hlater⟩ := h
    have hkept := (storesKept_accept_iff svc c.1 c.2 s).mpr hin
    rw [htenant, hstore] at hkept
    rcases acceptAll_cons svc c rest s with ⟨hok, heq⟩ | ⟨-, heq⟩
    · rw [heq]
      exact hkept.trans (ih hrest (hlater hok)) (grows_acceptAll svc rest _)
    · rw [heq]
      exact hkept

/-- One that strays makes a change that no later one undoes. -/
theorem not_storesKept_acceptAll {tenantId storeId : String}
    {items : List (Timestamp × TwinObservation)}
    (hscope : ∀ c ∈ items, c.2.tenantId = tenantId ∧ c.2.storeId = storeId) {first s : TwinStore}
    (hbefore : Grows svc.policyFor first s) (h : ¬ AllInStore svc items s) :
    ¬ StoresKept tenantId storeId first (acceptAll svc items s).1 := by
  induction items generalizing s with
  | nil => exact absurd trivial h
  | cons c rest ih =>
    obtain ⟨⟨htenant, hstore⟩, hrest⟩ := List.forall_mem_cons.mp hscope
    have hstep := grows_accept svc c.1 c.2 s
    by_cases hin : InStore svc.policyFor s c.2
    · have hlater : ¬ ((∃ result, (accept svc c.1 c.2 s).2 = .ok result) →
          AllInStore svc rest (accept svc c.1 c.2 s).1) := fun hlater => h ⟨hin, hlater⟩
      push Not at hlater
      obtain ⟨hok, hstrays⟩ := hlater
      rcases acceptAll_cons svc c rest s with ⟨-, heq⟩ | ⟨hnot, -⟩
      · rw [heq]
        exact ih hrest (hbefore.trans hstep) hstrays
      · exact absurd hok hnot
    · obtain ⟨e, hget, hother, hraised⟩ := strays_of_not_inStore c.1 hin
      have hafter : Grows svc.policyFor (accept svc c.1 c.2 s).1 (acceptAll svc (c :: rest) s).1 := by
        rcases acceptAll_cons svc c rest s with ⟨-, heq⟩ | ⟨-, heq⟩
        · rw [heq]
          exact grows_acceptAll svc rest _
        · rw [heq]
          exact Grows.refl _ _
      rw [← htenant]
      exact not_storesKept_of_raised hbefore hraised hstep hafter hget (hstore ▸ hother)

theorem timed_scope {device : EdgeDevice} {batch : EdgeObservationBatch}
    (hscope : inScope device batch = true) (clock : ℕ → Timestamp) :
    ∀ c ∈ batch.timed clock, c.2.tenantId = device.tenantId ∧ c.2.storeId = device.storeId := by
  intro c hc
  obtain ⟨⟨o, i⟩, hitem, rfl⟩ := List.mem_map.mp hc
  simp only [inScope, decide_eq_true_eq, List.all_eq_true] at hscope
  exact hscope.2.2.2 o (List.fst_mem_of_mem_zipIdx hitem)

/-- The batch gets as far as the projection. -/
def Projects (device : EdgeDevice) (batch : EdgeObservationBatch) (st : EdgeSide) : Prop :=
  batch.violation = none ∧ (batch.observations.any fun item => item.violation ≠ none) = false ∧
    inScope device batch = true ∧ st.batches.get? (batch.tenantId, batch.batchId) = none

/-- The route accepts the observations of the batch or leaves the twin as it is. -/
theorem twin_edgeObservations (svc : TwinService) (clock : ℕ → Timestamp) (device : EdgeDevice)
    (batch : EdgeObservationBatch) (st : EdgeSide) :
    (Projects device batch st ∧ (edgeObservations svc clock (some device) batch st).1.twin
        = (acceptAll svc (batch.timed clock) st.twin).1) ∨
      (¬ Projects device batch st ∧
        (edgeObservations svc clock (some device) batch st).1.twin = st.twin) := by
  unfold edgeObservations Projects
  dsimp only
  split
  · next hrefused =>
    refine .inr ⟨fun h => ?_, rfl⟩
    rcases hrefused with hbatch | hitem
    · exact hbatch h.1
    · rw [h.2.1] at hitem
      cases hitem
  · next hvalid =>
    rw [not_or, not_not, Bool.not_eq_true] at hvalid
    split
    · next hscope =>
      refine .inr ⟨fun h => ?_, rfl⟩
      rw [h.2.2.1] at hscope
      cases hscope
    · next hscope =>
      rw [Bool.not_eq_false] at hscope
      cases hstate : st.batches.get? (batch.tenantId, batch.batchId) with
      | some state =>
        refine .inr ⟨fun h => (nomatch h.2.2.2), ?_⟩
        cases state <;> rfl
      | none =>
        refine .inl ⟨⟨hvalid.1, hvalid.2, hscope, rfl⟩, ?_⟩
        dsimp only
        cases (acceptAll svc (batch.timed clock) st.twin).2 <;> rfl

/-- Whatever is accepted under the name of a store, through `accept` or a batch of a device, changes
that store alone exactly when each observation is about a new entity or one of the store, or is
refused or loses. -/
theorem accept_stays_iff (svc : TwinService) :
    (∀ (now : Timestamp) (o : TwinObservation) (s : TwinStore),
      StoresKept o.tenantId o.storeId s (accept svc now o s).1 ↔ InStore svc.policyFor s o) ∧
    ∀ (clock : ℕ → Timestamp) (device : EdgeDevice) (batch : EdgeObservationBatch) (st : EdgeSide),
      StoresKept device.tenantId device.storeId st.twin
          (edgeObservations svc clock (some device) batch st).1.twin ↔
        (Projects device batch st → AllInStore svc (batch.timed clock) st.twin) := by
  refine ⟨fun now o s => storesKept_accept_iff svc now o s, fun clock device batch st => ?_⟩
  rcases twin_edgeObservations svc clock device batch st with ⟨hprojects, heq⟩ | ⟨hnot, heq⟩
  · have hscope := timed_scope hprojects.2.2.1 clock
    rw [heq]
    constructor
    · intro hkept _
      by_contra hstrays
      exact not_storesKept_acceptAll hscope (Grows.refl _ st.twin) hstrays hkept
    · exact fun hin => storesKept_acceptAll hscope (hin hprojects)
  · rw [heq]
    exact iff_of_true (StoresKept.refl _ _ _) fun hprojects => absurd hprojects hnot

/-- A count a device of a store reports for a fridge of another. -/
def fridgeReading (storeId observationId : String) (seconds : ℤ) : TwinObservation where
  observationId := observationId
  tenantId := "tenant_a"
  storeId := storeId
  twinId := "urn:shelfwise:tenant_a:store_b:fixture:fridge_1"
  propertyName := "cold_chain.average_temp_c"
  lane := .reported
  value := .int seconds
  unit := some "degC"
  observedAt := ⟨seconds, ""⟩
  sourceSystem := "camera"
  sourceObjectId := observationId
  sourceSequence := none
  sourceQuality := ⟨.finite 1, "1.0"⟩
  schemaVersion := "1"
  correlationId := observationId
  causationId := none
  scenarioBranchId := none
  payloadHash := "0000000000000000000000000000000000000000000000000000000000000000"

/-- The twin after store_b has reported its own fridge. -/
def fridgeTwin : TwinStore :=
  (accept defaultService ⟨1, ""⟩ (fridgeReading "store_b" "obs_own_1" 1) TwinStore.empty).1

/-- A device of store_a overwrites the fridge of store_b. -/
theorem accept_strays :
    ¬ ∀ (svc : TwinService) (now : Timestamp) (o : TwinObservation) (s : TwinStore),
      StoresKept o.tenantId o.storeId s (accept svc now o s).1 := by
  intro h
  have hkept := h defaultService ⟨2, ""⟩ (fridgeReading "store_a" "obs_other_1" 2) fridgeTwin
  have hlisted := hkept.listed "tenant_a" "store_b" (by decide) false
  exact absurd hlisted (by decide +kernel)

end ShelfWise.Twin
