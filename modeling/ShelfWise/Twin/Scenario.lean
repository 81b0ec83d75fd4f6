import ShelfWise.Twin.Accept

/-!
# Scenarios

`shelfwise_twin/scenario.py` with the in-memory branch store of `scenario_store.py`: what-if branches
that write predicted observations into the twin itself. A branch is reserved before its deltas are
written, and the metadata of a branch whose deltas have failed part way is updated all the same.

The doubles of a comparison are a parameter, `confidenceOf`: the product of the factors a property
state keeps of its confidence.
-/

namespace ShelfWise.Twin

open Py Sys TwinStore

/-! ## Requests and branches -/

/-- `ScenarioDelta`. -/
structure ScenarioDelta where
  twinId : String
  propertyName : String
  value : Value
  unit : Option String
deriving DecidableEq

/-- `model_dump(mode="json")` of a delta. -/
def ScenarioDelta.dump (delta : ScenarioDelta) : Value :=
  .dict [("twin_id", .str delta.twinId), ("property_name", .str delta.propertyName),
    ("value", delta.value), ("unit", optionalText delta.unit)]

/-- `ScenarioRequest`. -/
structure ScenarioRequest where
  branchId : String
  parameters : List (String × Value)
  deltas : List ScenarioDelta
deriving DecidableEq

/-- A branch, as the engine builds it. -/
structure Branch where
  tenantId : String
  storeId : String
  branchId : String
  baseSnapshotId : String
  baseProjectionHash : String
  parameters : List (String × Value)
  createdAt : String
  deltas : List Value
deriving DecidableEq

/-- `_key`. -/
def Branch.key (branch : Branch) : String × String × String :=
  (branch.tenantId, branch.storeId, branch.branchId)

/-- `InMemoryScenarioBranchStore`. -/
abbrev BranchStore := Dict (String × String × String) Branch

/-- `create` of the branch store. -/
def BranchStore.create (branch : Branch) (branches : BranchStore) :
    Except Exc BranchStore :=
  if branches.contains branch.key then .error (.valueError "scenario branch already exists")
  else .ok (branches.set branch.key branch)

/-- `update`. -/
def BranchStore.update (branch : Branch) (branches : BranchStore) : Except Exc BranchStore :=
  if branches.contains branch.key then .ok (branches.set branch.key branch)
  else .error (.keyError "scenario branch not found")

/-- The twin and the branches of a `ScenarioEngine`. -/
structure ScenarioSide where
  twin : TwinStore
  branches : BranchStore

/-! ## Deltas -/

/-- The entity of a delta is one of the store. -/
def knownEntity (s : TwinStore) (tenantId storeId : String) (delta : ScenarioDelta) : Bool :=
  s.entityInStore delta.twinId tenantId storeId

/-- What the engine raises for a delta of another entity. -/
def unknownEntity : Exc := .valueError "scenario delta references an unknown store entity"

/-- The digest of a delta in a branch. -/
def deltaDigest (branchId : String) (delta : ScenarioDelta) : String :=
  sha256 (dumps (.dict [("branch", .str branchId), ("twin", .str delta.twinId),
    ("property", .str delta.propertyName), ("value", delta.value)]))

/-- The predicted observation of a delta. -/
def predictedObservation (branch : Branch) (delta : ScenarioDelta) (now : Timestamp) :
    TwinObservation :=
  let digest := deltaDigest branch.branchId delta
  { observationId := "scenario_" ++ take 32 digest
    tenantId := branch.tenantId
    storeId := branch.storeId
    twinId := delta.twinId
    propertyName := delta.propertyName
    lane := .predicted
    value := delta.value
    unit := delta.unit
    observedAt := now
    sourceSystem := "scenario"
    sourceObjectId := branch.branchId ++ ":" ++ take 16 digest
    sourceSequence := none
    sourceQuality := ⟨.finite 1, "1.0"⟩
    schemaVersion := "scenario-v1"
    correlationId := branch.branchId
    causationId := none
    scenarioBranchId := some branch.branchId
    payloadHash := digest }

/-- `_apply_delta` up to the metadata; `times` are what the clock shows for the observation and for
its projection. -/
def applyDelta (svc : TwinService) (times : Timestamp × Timestamp) (branch : Branch)
    (delta : ScenarioDelta) (s : TwinStore) : TwinStore × Except Exc Branch :=
  if knownEntity s branch.tenantId branch.storeId delta = false then (s, .error unknownEntity)
  else match (predictedObservation branch delta times.1).validated with
    | .error e => (s, .error e)
    | .ok o =>
      let accepted := accept svc times.2 o s
      (accepted.1, accepted.2.map fun _ => { branch with deltas := branch.deltas ++ [delta.dump] })

/-- The loop of `create` over the deltas: the twin, the branch so far and the error that ended it. -/
def applyDeltas (svc : TwinService) :
    List ((Timestamp × Timestamp) × ScenarioDelta) → Branch → TwinStore →
      TwinStore × Branch × Option Exc
  | [], branch, s => (s, branch, none)
  | item :: rest, branch, s =>
    let applied := applyDelta svc item.1 branch item.2 s
    match applied.2 with
    | .error e => (applied.1, branch, some e)
    | .ok branch => applyDeltas svc rest branch applied.1

/-! ## Comparing -/

/-- A row of a comparison. -/
structure ScenarioRow where
  twinId : String
  propertyName : String
  observed : Value
  predicted : Value
  unit : Option String
  confidence : PyFloat
deriving DecidableEq

/-- A row as JSON. -/
def ScenarioRow.dump (row : ScenarioRow) : Value :=
  .dict [("twin_id", .str row.twinId), ("property_name", .str row.propertyName),
    ("observed", row.observed), ("predicted", row.predicted), ("unit", optionalText row.unit),
    ("confidence", .float row.confidence)]

/-- The answer of `compare`. -/
structure ScenarioComparison where
  branch : Branch
  rows : List ScenarioRow
  predictedCount : ℕ
  branchHash : String
  reportedStateUntouched : Bool
deriving DecidableEq

/-- `compare`. -/
def compareBranch (confidenceOf : Confidence → PyFloat) (tenantId storeId branchId : String)
    (st : ScenarioSide) : Except Exc ScenarioComparison :=
  match st.branches.get? (tenantId, storeId, branchId) with
  | none => .error (.keyError "scenario branch not found")
  | some branch =>
    let observed := (st.twin.listProperties tenantId (some storeId) false).filter fun item =>
      item.lane = .reported
    let predicted := (st.twin.listProperties tenantId (some storeId) true).filter fun item =>
      item.lane = .predicted ∧ item.scenarioBranchId = some branchId
    let rows := predicted.map fun item =>
      -- a later row of the same property replaces an earlier one
      let baseline := observed.reverse.find? fun o =>
        o.twinId = item.twinId ∧ o.propertyName = item.propertyName
      ⟨item.twinId, item.propertyName, (baseline.map (·.value)).getD .none, item.value, item.unit,
        confidenceOf item.confidence⟩
    .ok
      { branch := branch
        rows := rows
        predictedCount := rows.length
        branchHash := sha256 (dumps (.list (rows.map ScenarioRow.dump)))
        reportedStateUntouched := observed.all fun item => item.scenarioBranchId ≠ some branchId }

/-! ## The engine -/

/-- The branch of a request before its deltas. -/
def newBranch (s : TwinStore) (createdAt : Timestamp) (tenantId storeId : String)
    (request : ScenarioRequest) : Branch :=
  let base := snapshot s tenantId storeId createdAt
  { tenantId := tenantId
    storeId := storeId
    branchId := request.branchId
    baseSnapshotId := base.snapshotId
    baseProjectionHash := base.projectionHash
    parameters := request.parameters
    createdAt := createdAt.json
    deltas := [] }

/-- The deltas of a request with what the clock shows for each. -/
def ScenarioRequest.timed (clock : ℕ → Timestamp × Timestamp) (request : ScenarioRequest) :
    List ((Timestamp × Timestamp) × ScenarioDelta) :=
  request.deltas.zipIdx.map fun item => (clock item.2, item.1)

/-- `create`. -/
def createBranch (svc : TwinService) (confidenceOf : Confidence → PyFloat)
    (createdAt : Timestamp) (clock : ℕ → Timestamp × Timestamp) (tenantId storeId : String)
    (request : ScenarioRequest) (st : ScenarioSide) :
    ScenarioSide × Except Exc ScenarioComparison :=
  if request.deltas.all (knownEntity st.twin tenantId storeId) = false then
    (st, .error unknownEntity)
  else
    let branch := newBranch st.twin createdAt tenantId storeId request
    match st.branches.create branch with
    | .error e => (st, .error e)
    | .ok reserved =>
      let applied := applyDeltas svc (request.timed clock) branch st.twin
      -- the branch is updated whether or not a delta has failed
      match reserved.update applied.2.1 with
      | .error e => (⟨applied.1, reserved⟩, .error e)
      | .ok updated =>
        let st' : ScenarioSide := ⟨applied.1, updated⟩
        match applied.2.2 with
        | some e => (st', .error e)
        | none => (st', compareBranch confidenceOf tenantId storeId request.branchId st')

/-- A call of the engine. -/
inductive ScenarioCall where
  | create (createdAt : Timestamp) (clock : ℕ → Timestamp × Timestamp) (tenantId storeId : String)
      (request : ScenarioRequest)
  | compare (tenantId storeId branchId : String)
  | clear

/-- The engine goes through a call. -/
def ScenarioSide.call (svc : TwinService) (confidenceOf : Confidence → PyFloat) (st : ScenarioSide) :
    ScenarioCall → ScenarioSide × Option (Except Exc ScenarioComparison)
  | .create createdAt clock tenantId storeId request =>
    let created := createBranch svc confidenceOf createdAt clock tenantId storeId request st
    (created.1, some created.2)
  | .compare tenantId storeId branchId =>
    (st, some (compareBranch confidenceOf tenantId storeId branchId st))
  | .clear => ({ st with branches := Dict.empty }, none)

/-- What a delta does to the twin: nothing, or its predicted observation is accepted. -/
theorem applyDelta_cases (svc : TwinService) (times : Timestamp × Timestamp) (branch : Branch)
    (delta : ScenarioDelta) (s : TwinStore) :
    (applyDelta svc times branch delta s).1 = s ∨
      ∃ o, o.lane = .predicted ∧ s.entities.contains (o.tenantId, o.twinId) = true ∧
        Admitted svc.policyFor times.2 s o (applyDelta svc times branch delta s).1 := by
  unfold applyDelta
  split
  · exact .inl rfl
  · next hknown =>
    rw [Bool.not_eq_false] at hknown
    cases ho : (predictedObservation branch delta times.1).validated with
    | error e => exact .inl rfl
    | ok o =>
      obtain rfl := TwinObservation.eq_of_validated ho
      have hcontains : s.entities.contains (branch.tenantId, delta.twinId) = true := by
        unfold knownEntity TwinStore.entityInStore at hknown
        cases hget : s.entities.get? (branch.tenantId, delta.twinId) with
        | none =>
          rw [hget] at hknown
          cases hknown
        | some e => exact (Dict.contains_iff _ _).mpr ⟨e, hget⟩
      refine .inr ⟨predictedObservation branch delta times.1, rfl, hcontains, ?_⟩
      rcases accept_cases svc times.2 (predictedObservation branch delta times.1) s with
        haccepted | ⟨-, hnone⟩
      · exact haccepted
      · rw [Dict.contains] at hcontains
        change s.entities.get? (branch.tenantId, delta.twinId) = none at hnone
        rw [hnone] at hcontains
        cases hcontains

/-- What the deltas keep, one after another, calls of the engine keep of the twin. -/
theorem applyDeltas_invariant {svc : TwinService} {I : TwinStore → Prop}
    (happly : ∀ now s o s', I s → o.lane = .predicted →
      s.entities.contains (o.tenantId, o.twinId) = true →
      Admitted svc.policyFor now s o s' → I s')
    (items : List ((Timestamp × Timestamp) × ScenarioDelta)) (branch : Branch) {s : TwinStore}
    (h : I s) : I (applyDeltas svc items branch s).1 := by
  induction items generalizing branch s with
  | nil => exact h
  | cons item rest ih =>
    have hnext : I (applyDelta svc item.1 branch item.2 s).1 := by
      rcases applyDelta_cases svc item.1 branch item.2 s with heq | ⟨o, hlane, hentity, haccepted⟩
      · rw [heq]
        exact h
      · exact happly item.1.2 s o _ h hlane hentity haccepted
    unfold applyDeltas
    dsimp only
    split
    · exact hnext
    · exact ih _ hnext

/-- A call of the engine leaves the twin alone or writes deltas into it. -/
theorem call_cases (svc : TwinService) (confidenceOf : Confidence → PyFloat) (st : ScenarioSide)
    (c : ScenarioCall) :
    (st.call svc confidenceOf c).1.twin = st.twin ∨
      ∃ items branch, (st.call svc confidenceOf c).1.twin = (applyDeltas svc items branch st.twin).1 := by
  cases c with
  | create createdAt clock tenantId storeId request =>
    unfold ScenarioSide.call createBranch
    dsimp only
    split
    · exact .inl rfl
    · split
      · exact .inl rfl
      · refine .inr ⟨request.timed clock, newBranch st.twin createdAt tenantId storeId request, ?_⟩
        split
        · rfl
        · split <;> rfl
  | compare tenantId storeId branchId => exact .inl rfl
  | clear => exact .inl rfl

end ShelfWise.Twin
