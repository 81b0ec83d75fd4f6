import ShelfWise.Contracts.Event

/-!
# Twin records

`shelfwise_twin/models.py`: entities, relationships, observations and property states, with the
checks their constructors make. A constructor that refuses a record is modelled by `violation`,
the first field it objects to, and `validated`.

A confidence is kept as the three factors the projector multiplies: the product of doubles is not
part of the model, and nothing reads it back.
-/

namespace ShelfWise.Twin

open Py

/-- `StateLane`. -/
inductive StateLane where
  | reported
  | estimated
  | desired
  | predicted
deriving DecidableEq

/-- The value of a lane. -/
def StateLane.value : StateLane → String
  | .reported => "reported"
  | .estimated => "estimated"
  | .desired => "desired"
  | .predicted => "predicted"

/-- `FreshnessState`, as far as the projector uses it. -/
inductive FreshnessState where
  | fresh
  | degraded
  | stale
deriving DecidableEq

/-! ## Field checks -/

/-- A length between two bounds. -/
def lengthBetween (lo hi : ℕ) (s : String) : Bool := lo ≤ s.length ∧ s.length ≤ hi

/-- An optional text of bounded length. -/
def optionalLength (hi : ℕ) : Option String → Bool
  | none => true
  | some s => s.length ≤ hi

/-- A lower-case letter followed by one to `hi` characters of a kind. -/
def identifierOf (tail : Char → Bool) (hi : ℕ) (s : String) : Bool :=
  match s.toList with
  | [] => false
  | c :: rest => 'a' ≤ c ∧ c ≤ 'z' ∧ 1 ≤ rest.length ∧ rest.length ≤ hi ∧ rest.all tail

/-- A lower-case letter, a digit or an underscore. -/
def isWordChar (c : Char) : Bool := ('a' ≤ c ∧ c ≤ 'z') ∨ ('0' ≤ c ∧ c ≤ '9') ∨ c = '_'

/-- The pattern of `entity_type` and `relationship_type`. -/
def isTypeName (s : String) : Bool := identifierOf isWordChar 63 s

/-- The pattern of `property_name`. -/
def isPropertyName (s : String) : Bool := identifierOf (fun c => isWordChar c || c = '.') 127 s

/-- The pattern of `payload_hash`: 64 lower-case hexadecimal digits. -/
def isHexDigest (s : String) : Bool :=
  s.length = 64 ∧ s.toList.all fun c => ('a' ≤ c ∧ c ≤ 'f') ∨ ('0' ≤ c ∧ c ≤ '9')

/-- The first field whose check fails. -/
def firstViolation : List (String × Bool) → Option String
  | [] => none
  | (field, ok) :: rest => if ok then firstViolation rest else some field

theorem firstViolation_eq_none {checks : List (String × Bool)} :
    firstViolation checks = none ↔ ∀ c ∈ checks, c.2 = true := by
  induction checks with
  | nil => simp [firstViolation]
  | cons c checks ih =>
    obtain ⟨field, ok⟩ := c
    cases ok <;> simp [firstViolation, ih]

/-! ## Entities and relationships -/

/-- `TwinEntity`. -/
structure TwinEntity where
  twinId : String
  tenantId : String
  storeId : String
  entityType : String
  displayName : String
  modelVersion : String
  attributes : List (String × Value)
  createdAt : Timestamp
  retiredAt : Option Timestamp
deriving DecidableEq

/-- The first field `TwinEntity` refuses. -/
def TwinEntity.violation (e : TwinEntity) : Option String :=
  firstViolation
    [("twin_id", lengthBetween 8 300 e.twinId && "urn:shelfwise:".toList.isPrefixOf e.twinId.toList),
      ("tenant_id", lengthBetween 1 100 e.tenantId), ("store_id", lengthBetween 1 100 e.storeId),
      ("entity_type", isTypeName e.entityType), ("display_name", lengthBetween 1 200 e.displayName),
      ("model_version", lengthBetween 1 40 e.modelVersion)]

/-- `TwinEntity(...)`. -/
def TwinEntity.validated (e : TwinEntity) : Except Exc TwinEntity :=
  match e.violation with
  | none => .ok e
  | some field => .error (.validationError "TwinEntity" field)

theorem TwinEntity.eq_of_validated {e e' : TwinEntity} (h : e.validated = .ok e') : e' = e := by
  unfold TwinEntity.validated at h
  cases hv : e.violation with
  | none =>
    rw [hv] at h
    exact (Except.ok.inj h).symm
  | some field =>
    rw [hv] at h
    cases h

/-- `TwinRelationship`. -/
structure TwinRelationship where
  relationshipId : String
  tenantId : String
  sourceTwinId : String
  relationshipType : String
  targetTwinId : String
  attributes : List (String × Value)
  validFrom : Timestamp
  validTo : Option Timestamp
deriving DecidableEq

/-- The first field `TwinRelationship` refuses. -/
def TwinRelationship.violation (r : TwinRelationship) : Option String :=
  firstViolation
    [("relationship_id", lengthBetween 8 300 r.relationshipId),
      ("tenant_id", lengthBetween 1 100 r.tenantId),
      ("source_twin_id", lengthBetween 8 300 r.sourceTwinId),
      ("relationship_type", isTypeName r.relationshipType),
      ("target_twin_id", lengthBetween 8 300 r.targetTwinId)]

/-- `TwinRelationship(...)`. -/
def TwinRelationship.validated (r : TwinRelationship) : Except Exc TwinRelationship :=
  match r.violation with
  | none => .ok r
  | some field => .error (.validationError "TwinRelationship" field)

theorem TwinRelationship.eq_of_validated {r r' : TwinRelationship} (h : r.validated = .ok r') :
    r' = r := by
  unfold TwinRelationship.validated at h
  cases hv : r.violation with
  | none =>
    rw [hv] at h
    exact (Except.ok.inj h).symm
  | some field =>
    rw [hv] at h
    cases h

/-! ## Onboarding -/

/-- `TwinEntitySeed`. -/
structure TwinEntitySeed where
  localId : String
  entityType : String
  displayName : String
  attributes : List (String × Value)
deriving DecidableEq

/-- `TwinOnboardingManifest`. -/
structure TwinOnboardingManifest where
  tenantId : String
  storeId : String
  displayName : String
  timezone : String
  modelVersion : String
  entities : List TwinEntitySeed
deriving DecidableEq

/-! ## Observations and property states -/

/-- `TwinObservation`. -/
structure TwinObservation where
  observationId : String
  tenantId : String
  storeId : String
  twinId : String
  propertyName : String
  lane : StateLane
  value : Value
  unit : Option String
  observedAt : Timestamp
  sourceSystem : String
  sourceObjectId : String
  sourceSequence : Option String
  sourceQuality : PyFloat
  schemaVersion : String
  correlationId : String
  causationId : Option String
  scenarioBranchId : Option String
  payloadHash : String
deriving DecidableEq

/-- `_MEDIA_KEY_PARTS`. -/
def mediaKeyParts : List String :=
  ["image", "video", "frame", "audio", "footage", "biometric", "raw_media"]

/-- The key of an observed object: short, plain, and not the name of raw media. -/
def safeKey (key : String) : Bool :=
  lengthBetween 1 120 key &&
    key.toList.all (fun c => ('a' ≤ c ∧ c ≤ 'z') ∨ ('A' ≤ c ∧ c ≤ 'Z') ∨ ('0' ≤ c ∧ c ≤ '9') ∨
      c = '_' ∨ c = '.' ∨ c = ':' ∨ c = '-') &&
    !(mediaKeyParts.any fun part => contains (lower key) part)

mutual

/-- `_assert_safe_value`: whether a value nested `depth` deep passes. -/
def safeValue (depth : ℕ) : Value → Bool
  | .none | .bool _ | .int _ | .float _ => depth ≤ 6
  | .str s => depth ≤ 6 ∧ s.length ≤ 4000
  | .list items => depth ≤ 6 ∧ items.length ≤ 100 ∧ safeItems depth items
  | .dict entries => depth ≤ 6 ∧ entries.length ≤ 100 ∧ safeEntries depth entries

def safeItems (depth : ℕ) : List Value → Bool
  | [] => true
  | v :: rest => safeValue (depth + 1) v && safeItems depth rest

def safeEntries (depth : ℕ) : List (String × Value) → Bool
  | [] => true
  | (k, v) :: rest => safeKey k && safeValue (depth + 1) v && safeEntries depth rest

end

/-- `validate_lane_branch`: a branch belongs to the predicted lane and to it only. -/
def laneBranchOk (lane : StateLane) (branch : Option String) : Bool :=
  decide (lane = .predicted) == decide (branch.getD "" ≠ "")

/-- The first field `TwinObservation` refuses. -/
def TwinObservation.violation (o : TwinObservation) : Option String :=
  firstViolation
    [("observation_id", lengthBetween 8 300 o.observationId),
      ("tenant_id", lengthBetween 1 100 o.tenantId), ("store_id", lengthBetween 1 100 o.storeId),
      ("twin_id", lengthBetween 8 300 o.twinId), ("property_name", isPropertyName o.propertyName),
      ("value", safeValue 0 o.value), ("unit", optionalLength 40 o.unit),
      ("source_system", lengthBetween 1 80 o.sourceSystem),
      ("source_object_id", lengthBetween 1 300 o.sourceObjectId),
      ("source_sequence", optionalLength 200 o.sourceSequence),
      ("source_quality", match o.sourceQuality.value with
        | .finite q => 0 ≤ q ∧ q ≤ 1
        | _ => false),
      ("schema_version", lengthBetween 1 40 o.schemaVersion),
      ("correlation_id", lengthBetween 1 300 o.correlationId),
      ("causation_id", optionalLength 300 o.causationId),
      ("scenario_branch_id", optionalLength 200 o.scenarioBranchId),
      ("payload_hash", isHexDigest o.payloadHash),
      ("lane", laneBranchOk o.lane o.scenarioBranchId)]

/-- `TwinObservation(...)`. -/
def TwinObservation.validated (o : TwinObservation) : Except Exc TwinObservation :=
  match o.violation with
  | none => .ok o
  | some field => .error (.validationError "TwinObservation" field)

theorem TwinObservation.eq_of_validated {o o' : TwinObservation} (h : o.validated = .ok o') :
    o' = o := by
  unfold TwinObservation.validated at h
  cases hv : o.violation with
  | none =>
    rw [hv] at h
    exact (Except.ok.inj h).symm
  | some field =>
    rw [hv] at h
    cases h

/-- The factors of a confidence. -/
structure Confidence where
  reliability : PyFloat
  sourceQuality : PyFloat
  freshnessFactor : PyFloat
deriving DecidableEq

/-- `TwinPropertyState`. -/
structure TwinPropertyState where
  tenantId : String
  twinId : String
  propertyName : String
  lane : StateLane
  value : Value
  unit : Option String
  observationId : String
  observedAt : Timestamp
  projectedAt : Timestamp
  sourceSystem : String
  sourceQuality : PyFloat
  confidence : Confidence
  freshness : FreshnessState
  scenarioBranchId : Option String
deriving DecidableEq

end ShelfWise.Twin
