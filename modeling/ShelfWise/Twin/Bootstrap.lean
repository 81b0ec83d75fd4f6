import ShelfWise.Twin.Service

/-!
# Onboarding, bootstrap and snapshots

The rest of `shelfwise_twin/service.py`, and the registry of `onboarding_store.py`: `onboard` saves a
manifest and seeds its topology, `bootstrap_events` replays the saved manifest and the events of a
store, and `snapshot` digests what the twin store holds for a store.

The digest leaves out every field that is stamped from the clock. `now` is what the clock shows
during a call.
-/

namespace ShelfWise.Twin

open Py Sys TwinStore

/-- What a service keeps: the twin store, and the last manifest of each tenant and store. -/
structure TwinState where
  store : TwinStore
  manifests : Dict (String × String) TwinOnboardingManifest

/-- A service that has not been called. -/
def TwinState.empty : TwinState := ⟨.empty, Dict.empty⟩

/-! ## Onboarding -/

/-- The store entity of a manifest. -/
def onboardRoot (now : Timestamp) (m : TwinOnboardingManifest) : TwinEntity where
  twinId := urn m.tenantId m.storeId "store" m.storeId
  tenantId := m.tenantId
  storeId := m.storeId
  entityType := "store"
  displayName := take 200 m.displayName
  modelVersion := m.modelVersion
  attributes := [("timezone", .str m.timezone), ("onboarding", .str "explicit")]
  createdAt := now
  retiredAt := none

/-- The entity of a seed. -/
def onboardSeed (m : TwinOnboardingManifest) (createdAt : Timestamp) (seed : TwinEntitySeed) :
    TwinEntity where
  twinId := urn m.tenantId m.storeId seed.entityType seed.localId
  tenantId := m.tenantId
  storeId := m.storeId
  entityType := seed.entityType
  displayName := take 200 seed.displayName
  modelVersion := m.modelVersion
  attributes := seed.attributes
  createdAt := createdAt
  retiredAt := none

/-- The loop of `onboard` over the seeds. -/
def onboardSeeds (m : TwinOnboardingManifest) (root : TwinEntity) :
    List TwinEntitySeed → Program TwinOp TwinStore (Except Exc TwinEntity)
  | [] => .ret (.ok root)
  | seed :: rest =>
    (ensureEntityStep (onboardSeed m root.createdAt seed)).bindExcept fun entity =>
      (linkStep m.tenantId root.twinId entity.twinId root.createdAt).bindExcept fun _ =>
        onboardSeeds m root rest

/-- The store steps of `onboard`. -/
def onboardTopology (now : Timestamp) (m : TwinOnboardingManifest) :
    Program TwinOp TwinStore (Except Exc TwinEntity) :=
  (ensureEntityStep (onboardRoot now m)).bindExcept fun root => onboardSeeds m root m.entities

/-! ## Snapshots -/

/-- A time or `None`. -/
def optionalTime : Option Timestamp → Value
  | some t => .str t.json
  | none => .none

/-- `model_dump(mode="json", exclude={"created_at"})` of an entity. -/
def TwinEntity.doc (e : TwinEntity) : Value :=
  .dict [("twin_id", .str e.twinId), ("tenant_id", .str e.tenantId), ("store_id", .str e.storeId),
    ("entity_type", .str e.entityType), ("display_name", .str e.displayName),
    ("model_version", .str e.modelVersion), ("attributes", .dict e.attributes),
    ("retired_at", optionalTime e.retiredAt)]

/-- `model_dump(mode="json", exclude={"valid_from"})` of a relationship. -/
def TwinRelationship.doc (r : TwinRelationship) : Value :=
  .dict [("relationship_id", .str r.relationshipId), ("tenant_id", .str r.tenantId),
    ("source_twin_id", .str r.sourceTwinId), ("relationship_type", .str r.relationshipType),
    ("target_twin_id", .str r.targetTwinId), ("attributes", .dict r.attributes),
    ("valid_to", optionalTime r.validTo)]

/-- `model_dump(mode="json", exclude={"projected_at", "confidence", "freshness"})` of a property
state: it only shows facts. -/
def PropertyFacts.doc (f : PropertyFacts) : Value :=
  .dict [("tenant_id", .str f.tenantId), ("twin_id", .str f.twinId),
    ("property_name", .str f.propertyName), ("lane", .str f.lane.value), ("value", f.value),
    ("unit", optionalText f.unit), ("observation_id", .str f.observationId),
    ("observed_at", .str f.observedAt.json), ("source_system", .str f.sourceSystem),
    ("source_quality", .float f.sourceQuality),
    ("scenario_branch_id", optionalText f.scenarioBranchId)]

/-- The document `snapshot` digests. -/
def canonical (s : TwinStore) (tenantId storeId : String) : Value :=
  .dict [("entities", .list ((s.listEntities tenantId (some storeId)).map TwinEntity.doc)),
    ("relationships",
      .list ((s.listRelationships tenantId (some storeId)).map TwinRelationship.doc)),
    ("properties",
      .list ((s.listProperties tenantId (some storeId) false).map fun p => p.facts.doc))]

/-- `TwinSnapshot`. -/
structure TwinSnapshot where
  tenantId : String
  storeId : String
  snapshotId : String
  generatedAt : Timestamp
  entityCount : ℕ
  relationshipCount : ℕ
  propertyCount : ℕ
  observationCount : ℕ
  projectionHash : String
deriving DecidableEq

/-- `snapshot`. -/
def snapshot (s : TwinStore) (tenantId storeId : String) (generatedAt : Timestamp) : TwinSnapshot :=
  let projectionHash := sha256 (dumps (canonical s tenantId storeId))
  { tenantId := tenantId
    storeId := storeId
    snapshotId := "snapshot_" ++ take 24 projectionHash
    generatedAt := generatedAt
    entityCount := (s.listEntities tenantId (some storeId)).length
    relationshipCount := (s.listRelationships tenantId (some storeId)).length
    propertyCount := (s.listProperties tenantId (some storeId) false).length
    observationCount := (s.listObservations tenantId (some storeId) 500 false).length
    projectionHash := projectionHash }

/-! ## Service calls -/

/-- `onboard`: the manifest is saved first, and stays saved when the topology is refused. -/
def onboard (now : Timestamp) (m : TwinOnboardingManifest) (st : TwinState) :
    TwinState × Except Exc (TwinOnboardingManifest × TwinSnapshot) :=
  let done := (onboardTopology now m).run st.store
  (⟨done.1, st.manifests.set (m.tenantId, m.storeId) m⟩,
    done.2.map fun root => (m, snapshot done.1 m.tenantId m.storeId root.createdAt))

/-- `project_event` for one event after another; an error ends the loop. -/
def projectAll (svc : TwinService) (now : Timestamp) :
    List Event → Program TwinOp TwinStore (Except Exc (List ProjectionResult))
  | [] => .ret (.ok [])
  | event :: rest => (projectEvent svc now event).bindExcept fun results =>
      (projectAll svc now rest).bindExcept fun later => .ret (.ok (results ++ later))

/-- The answer of `bootstrap_events`. -/
structure BootstrapReceipt where
  storeId : String
  eventsConsidered : ℕ
  eventsOperational : ℕ
  eventsSkippedNonOperational : ℕ
  observationsProcessed : ℕ
  projected : ℕ
  duplicates : ℕ
  snapshot : TwinSnapshot
deriving DecidableEq

/-- The events of a store. -/
def relevantEvents (events : List Event) (tenantId storeId : String) : List Event :=
  events.filter fun e => e.tenantId = tenantId ∧ storeIdOf e.payload = some storeId

/-- The events `bootstrap_events` projects, in its order. -/
def orderedEvents (events : List Event) (tenantId storeId : String) : List Event :=
  sortedBy (fun e => toLex (e.ts.instant, e.id))
    ((relevantEvents events tenantId storeId).filter (·.dataDomain = .operationalTwin))

/-- The saved manifest of a store, applied again. -/
def reapplyManifest (now : Timestamp) (tenantId storeId : String) (st : TwinState) :
    TwinState × Except Exc Unit :=
  match st.manifests.get? (tenantId, storeId) with
  | none => (st, .ok ())
  | some m => ((onboard now m st).1, (onboard now m st).2.map fun _ => ())

/-- `bootstrap_events`. -/
def bootstrapEvents (svc : TwinService) (now : Timestamp) (events : List Event)
    (tenantId storeId : String) (st : TwinState) : TwinState × Except Exc BootstrapReceipt :=
  match reapplyManifest now tenantId storeId st with
  | (st, .error e) => (st, .error e)
  | (st, .ok ()) =>
    let relevant := relevantEvents events tenantId storeId
    let ordered := orderedEvents events tenantId storeId
    let done := (projectAll svc now ordered).run st.store
    ({ st with store := done.1 }, done.2.map fun receipts =>
      { storeId := storeId
        eventsConsidered := relevant.length
        eventsOperational := ordered.length
        eventsSkippedNonOperational := relevant.length - ordered.length
        observationsProcessed := receipts.length
        projected := receipts.countP (·.status = .projected)
        duplicates := receipts.countP (·.status = .duplicate)
        snapshot := snapshot done.1 tenantId storeId now })

end ShelfWise.Twin
