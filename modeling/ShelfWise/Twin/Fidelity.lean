import ShelfWise.Twin.Projector
import ShelfWise.Py.Digest

/-!
# Fidelity

`TwinService.fidelity` of `shelfwise_twin/service.py` with the calibration registry of
`calibration.py`: what the twin of one store has, as ratios that `calculate_fidelity` weighs.

The arithmetic on doubles is a parameter, `FidelityMath`: how the ratios are weighed and how the
scores of calibrations are averaged. No statement depends on it.
-/

namespace ShelfWise.Twin

open Py TwinStore

/-! ## Calibrations -/

/-- `CalibrationRecord`. -/
structure CalibrationRecord where
  tenantId : String
  storeId : String
  deviceId : String
  propertyName : String
  referenceValue : PyFloat
  observedValue : PyFloat
  tolerance : PyFloat
  calibratedAt : Timestamp
  calibrationId : String
deriving DecidableEq

/-- `InMemoryCalibrationRegistry`. -/
abbrev CalibrationRegistry := Dict (String × String × String × String) CalibrationRecord

/-- `record`, of a record whose tolerance has been checked. -/
def CalibrationRegistry.record (row : CalibrationRecord) (s : CalibrationRegistry) :
    CalibrationRegistry :=
  s.set (row.tenantId, row.storeId, row.deviceId, row.propertyName) row

/-- `list`. -/
def CalibrationRegistry.list (s : CalibrationRegistry) (tenantId storeId : String) :
    List CalibrationRecord :=
  s.values.filter fun row => row.tenantId = tenantId ∧ row.storeId = storeId

/-! ## Inputs -/

/-- `FidelityInputs`: the ratios before they are rounded to doubles. -/
structure FidelityInputs where
  identityCoverage : ℚ
  topologyCoverage : ℚ
  freshPropertyRatio : ℚ
  provenanceRatio : ℚ
  sourceAgreement : ℚ
  projectionHealth : ℚ
  calibrationScore : PyFloat
deriving DecidableEq

/-- `FidelityScore`. -/
structure FidelityScore where
  total : PyFloat
  dimensions : List (String × PyFloat)
  weakestDimension : String
deriving DecidableEq

/-- The arithmetic on doubles: `calculate_fidelity`, and the mean of the scores of calibrations. -/
structure FidelityMath where
  calculateFidelity : FidelityInputs → FidelityScore
  meanScore : List CalibrationRecord → PyFloat

/-- What the service reads: its store and its calibrations. -/
structure TwinSide where
  store : TwinStore
  calibrations : CalibrationRegistry

/-- A ratio of counts, zero when there is nothing to count. -/
def ratio (part whole : ℕ) : ℚ := if whole = 0 then 0 else part / whole

/-- The properties of a store that `fidelity` counts as fresh. -/
def freshProperties (s : TwinStore) (tenantId storeId : String) : List TwinPropertyState :=
  (s.listProperties tenantId (some storeId) false).filter fun item => item.freshness = .fresh

/-- Whether two observations of one property show different values. -/
def conflicts (o o' : TwinObservation) : Bool :=
  o.twinId = o'.twinId ∧ o.propertyName = o'.propertyName ∧ dumps o.value ≠ dumps o'.value

/-- The properties with contradictory values. -/
def conflictingProperties (observations : List TwinObservation) : List (String × String) :=
  ((observations.filter fun o => observations.any (conflicts o)).map
    fun o => (o.twinId, o.propertyName)).dedup

/-- `_source_agreement`. -/
def sourceAgreement (observations : List TwinObservation) : ℚ :=
  1 / (1 + ((conflictingProperties observations).length : ℚ))

/-- The inputs `fidelity` weighs. -/
def fidelityInputs (math : FidelityMath) (side : TwinSide) (tenantId storeId : String) :
    FidelityInputs :=
  let entities := side.store.listEntities tenantId (some storeId)
  let relationships := side.store.listRelationships tenantId (some storeId)
  let observations := side.store.listObservations tenantId (some storeId) 500 false
  let properties := side.store.listProperties tenantId (some storeId) false
  let fresh := freshProperties side.store tenantId storeId
  { identityCoverage := if entities.any fun item => item.entityType = "store" then 1 else 0
    topologyCoverage :=
      if 1 < entities.length then min 1 (ratio relationships.length (entities.length - 1)) else 0
    freshPropertyRatio := ratio fresh.length properties.length
    provenanceRatio :=
      ratio (observations.filter fun item => item.sourceObjectId ≠ "").length observations.length
    sourceAgreement := sourceAgreement observations
    projectionHealth := min 1 (ratio properties.length observations.length)
    calibrationScore := math.meanScore (side.calibrations.list tenantId storeId) }

/-! ## The report -/

/-- `_calibration_complete`, with no expected devices unless they are stated. -/
def calibrationComplete (expectedDeviceIds : List String) (records : List CalibrationRecord) :
    Bool :=
  ¬ expectedDeviceIds.isEmpty ∧
    expectedDeviceIds.all fun device => records.any fun row => row.deviceId = device

/-- `FidelityScore.to_dict`. -/
def FidelityScore.toDict (score : FidelityScore) : List (String × Value) :=
  [("total", .float score.total),
    ("dimensions", .dict (score.dimensions.map fun d => (d.1, .float d.2))),
    ("weakest_dimension", .str score.weakestDimension)]

/-- `TwinService.fidelity`. -/
def fidelity (math : FidelityMath) (side : TwinSide) (tenantId storeId : String)
    (expectedDeviceIds : List String) : List (String × Value) :=
  (math.calculateFidelity (fidelityInputs math side tenantId storeId)).toDict ++
    [("tenant_id", .str tenantId), ("store_id", .str storeId),
      ("entities", .int (side.store.listEntities tenantId (some storeId)).length),
      ("relationships", .int (side.store.listRelationships tenantId (some storeId)).length),
      ("observations", .int (side.store.listObservations tenantId (some storeId) 500 false).length),
      ("properties", .int (side.store.listProperties tenantId (some storeId) false).length),
      ("hard_guards", .dict
        [("no_raw_media", .bool true), ("tenant_scoped", .bool true), ("lane_isolation", .bool true),
          ("calibration_complete", .bool
            (calibrationComplete expectedDeviceIds (side.calibrations.list tenantId storeId)))])]

end ShelfWise.Twin
