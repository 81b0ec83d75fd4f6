import ShelfWise.Connectors.Writeback
import ShelfWise.Py.Float
import ShelfWise.Sys.Run
import ShelfWise.Twin.Fidelity
import ShelfWise.Worker.Plans

/-!
# Fidelity revalidation

`shelfwise_backend/governed_execution.py`: every pass of the scheduled service runs a plan for each
onboarded store that recomputes the fidelity of its twin, and files a manager task when the score is
below the threshold.

The plan of a store has the same id in every pass, so the runner finds the output of the first pass
in its journal and recomputes nothing. `revalidation_live_iff` says which passes use the fidelity of
the twin as it is.

A pass is one step; whatever observations and calibrations do to the twin happens between passes.
-/

namespace ShelfWise.Worker

open Py Sys Connectors Twin

/-! ## State -/

/-- What the capabilities close over: the twin service and the write-back sink. -/
structure Services where
  twin : TwinSide
  sink : TaskSink

/-- The counters of the service. -/
structure ServiceStatus where
  runs : ℕ
  storesChecked : ℕ
  driftTasksFiled : ℕ
  lastStatus : String
  lastError : Option String

/-- The runner's journal, the services and the counters. -/
structure World where
  journal : Journal
  services : Services
  status : ServiceStatus

/-- The world when the service starts. -/
def World.start (twin : TwinSide) : World :=
  ⟨.empty, ⟨twin, .empty⟩, ⟨0, 0, 0, "idle", none⟩⟩

/-! ## Capabilities -/

/-- `str(params[key])`, of a parameter that is there. -/
def textParam (params : Items) (key : String) : Except Exc String :=
  match Dict.lookup key params with
  | some value => .ok value.toText
  | none => .error (.keyError (Value.reprText key))

/-- `str(params.get(key) or default)`. -/
def textParamOr (params : Items) (key default : String) : String :=
  ((Value.get params key).orElse (.str default)).toText

/-- The instructions a task gets when the plan has none. -/
def defaultRollback : Items :=
  [("policy", .str "recommend_only_no_source_mutation"),
    ("rollback", .str "cancel_pending_manager_task_before_source_write")]

/-- `create_manager_task`. -/
def createManagerTask (now : String) (params : Items) (s : Services) :
    Services × Except Exc Items :=
  match textParam params "idempotency_key", textParam params "title",
      textParam params "tenant_id" with
  | .ok idempotencyKey, .ok title, .ok tenantId =>
    let request : TaskRequest :=
      { idempotencyKey
        title
        action := (Value.get params "action").items
        tenantId
        dataDomain := textParamOr params "data_domain" "operational_twin"
        assigneeRole := textParamOr params "assignee_role" "manager"
        rollbackInstructions :=
          ((Value.get params "rollback_instructions").orElse (.dict defaultRollback)).items }
    let created := s.sink.createTask now request
    ({ s with sink := created.1 }, .ok [("task", .dict created.2)])
  | .error e, _, _ => (s, .error e)
  | _, .error e, _ => (s, .error e)
  | _, _, .error e => (s, .error e)

/-- `recompute_twin_fidelity`. -/
def recomputeTwinFidelity (math : FidelityMath) (params : Items) (s : Services) :
    Services × Except Exc Items :=
  match textParam params "tenant_id", textParam params "store_id" with
  | .ok tenantId, .ok storeId =>
    (s, .ok [("fidelity", .dict (fidelity math s.twin tenantId storeId [])),
      ("tenant_id", .str tenantId), ("store_id", .str storeId)])
  | .error e, _ => (s, .error e)
  | _, .error e => (s, .error e)

/-- The roles both capabilities are exposed to. -/
def governedRoles : List String := ["manager", "owner", "scheduler"]

/-- `build_capability_registry`. -/
def buildCapabilityRegistry (math : FidelityMath) (now : String) : CapabilityRegistry Services :=
  (Dict.empty.set "create_manager_task"
    ⟨"create_manager_task", createManagerTask now, governedRoles, true⟩).set
    "recompute_twin_fidelity"
    ⟨"recompute_twin_fidelity", recomputeTwinFidelity math, governedRoles, false⟩

/-! ## Plans -/

/-- The step of `fidelity_revalidation_plan`. -/
def recomputeStep (tenantId storeId : String) : PlanStep where
  key := "recompute_fidelity"
  capability := "recompute_twin_fidelity"
  params := [("tenant_id", .str tenantId), ("store_id", .str storeId)]
  compensation := some [("action", .str "none_read_only")]

/-- `fidelity_revalidation_plan`, before its fields are checked. -/
def revalidationPlan (tenantId storeId : String) : Plan where
  planId := "fidelity_revalidation_" ++ tenantId ++ "_" ++ storeId
  tenantId := tenantId
  dataDomain := .operationalTwin
  actorRole := "scheduler"
  steps := [recomputeStep tenantId storeId]

/-- A score with one digit behind the point: `f"{score:.1f}"`. -/
def fixedScore : FloatValue → String
  | .finite q =>
    let tenths := (FloatValue.roundHalfEven (q * 10)).natAbs
    (if q < 0 then "-" else "") ++ toString (tenths / 10) ++ "." ++ toString (tenths % 10)
  | .infinity negative => if negative then "-inf" else "inf"
  | .nan => "nan"

/-- The idempotency key of a drift task. -/
def driftKey (tenantId storeId : String) : String :=
  "fidelity_drift:" ++ tenantId ++ ":" ++ storeId

/-- The title of a drift task. -/
def driftTitle (storeId : String) (score : FloatValue) : String :=
  "Twin fidelity for " ++ storeId ++ " dropped to " ++ fixedScore score ++
    " - review calibration and data feeds"

/-- The step of the plan of `_file_drift_task`. -/
def driftStep (tenantId storeId : String) (score : FloatValue) (report : Items) : PlanStep where
  key := "file_drift_task"
  capability := "create_manager_task"
  params :=
    [("idempotency_key", .str (driftKey tenantId storeId)),
      ("title", .str (driftTitle storeId score)),
      ("action", .dict [("type", .str "review_twin_fidelity"), ("fidelity", .dict report)]),
      ("tenant_id", .str tenantId)]
  compensation := some [("action", .str "cancel_pending_manager_task_before_source_write")]

/-- The plan of `_file_drift_task`, before its fields are checked. -/
def driftPlan (tenantId storeId : String) (score : FloatValue) (report : Items) : Plan where
  planId := "fidelity_drift_" ++ tenantId ++ "_" ++ storeId
  tenantId := tenantId
  dataDomain := .operationalTwin
  actorRole := "scheduler"
  steps := [driftStep tenantId storeId score report]

/-! ## A pass -/

/-- `float(fidelity.get("total") or fidelity.get("score") or 0.0)`, of a report whose total is a
float. -/
def scoreOf (report : Items) : FloatValue :=
  match ((Value.get report "total").orElse (Value.get report "score")).orElse
      (.float ⟨.finite 0, "0.0"⟩) with
  | .float f => f.value
  | _ => .finite 0

/-- `score < _FIDELITY_TASK_THRESHOLD`. -/
def isBelowThreshold : FloatValue → Bool
  | .finite q => q < 60
  | .infinity negative => negative
  | .nan => false

/-- The report of a journaled output. -/
def reportOf (output : Items) : Items := (Value.get output "fidelity").items

variable (math : FidelityMath) (now : String)

/-- Run a validated plan against the world. -/
def World.runPlan (plan : Plan) (w : World) : World × PlanResult :=
  let ran := Worker.runPlan (buildCapabilityRegistry math now) now plan (w.journal, w.services)
  ({ w with journal := ran.1.1, services := ran.1.2 }, ran.2)

/-- `_file_drift_task`. -/
def fileDriftTask (tenantId storeId : String) (score : FloatValue) (report : Items) (w : World) :
    World × Option Exc :=
  match (driftPlan tenantId storeId score report).validated with
  | .error e => (w, some e)
  | .ok plan =>
    let ran := w.runPlan math now plan
    if ran.2.status = "done" then
      ({ ran.1 with status.driftTasksFiled := ran.1.status.driftTasksFiled + 1 }, none)
    else (ran.1, none)

/-- The body of the loop of `run_once`, with the fidelity it uses. -/
def revalidateStore (tenantId storeId : String) (w : World) :
    World × Except Exc (Option Items) :=
  match (revalidationPlan tenantId storeId).validated with
  | .error e => (w, .error e)
  | .ok plan =>
    let ran := w.runPlan math now plan
    if ran.2.status = "done" then
      let report := reportOf ((Dict.lookup "recompute_fidelity" ran.2.outputs).getD [])
      if isBelowThreshold (scoreOf report) then
        match fileDriftTask math now tenantId storeId (scoreOf report) report ran.1 with
        | (w', some e) => (w', .error e)
        | (w', none) => (w', .ok (some report))
      else (ran.1, .ok (some report))
    else
      let message := plan.planId ++ ": failed at " ++ ran.2.failedStep.getD "None"
      ({ ran.1 with status.lastError := some message }, .ok none)

/-- The loop of `run_once` over the stores: the fidelities it uses, in order, and the exception that
ends it. -/
def revalidateStores (tenantId : String) :
    List String → World → World × List (String × Items) × Option Exc
  | [], w => (w, [], none)
  | storeId :: rest, w =>
    match revalidateStore math now tenantId storeId w with
    | (w', .error e) => (w', [], some e)
    | (w', .ok used) =>
      let more := revalidateStores tenantId rest w'
      (more.1, (used.map fun report => (storeId, report)).toList ++ more.2.1, more.2.2)

/-- `_onboarded_stores` of the deployment's tenant. -/
def onboardedStores (tenantId : String) (side : TwinSide) : List String :=
  ((side.store.listEntities tenantId none).filter fun item => item.entityType = "store").map
    (·.storeId)

/-- `run_once`: the fidelities it uses, and the exception it raises. -/
def runOnce (tenantId : String) (w : World) : World × List (String × Items) × Option Exc :=
  let stores := onboardedStores tenantId w.services.twin
  let ran := revalidateStores math now tenantId stores w
  match ran.2.2 with
  | some _ => ran
  | none =>
    ({ ran.1 with
        status.runs := ran.1.status.runs + 1
        status.storesChecked := ran.1.status.storesChecked + stores.length
        status.lastStatus := "ok" }, ran.2)

/-! ## One store -/

/-- The fidelity of a store's twin as it is. -/
def currentReport (tenantId storeId : String) (w : World) : Items :=
  fidelity math w.services.twin tenantId storeId []

/-- The fidelity the journal has for a store. -/
def recordedReport (tenantId storeId : String) (w : World) : Option Items :=
  (w.journal.get (planRunId (revalidationPlan tenantId storeId)) "recompute_fidelity").map reportOf

/-- The key of a drift task. -/
def driftTaskKey (tenantId storeId : String) : TaskKey :=
  (tenantId, "operational_twin", driftKey tenantId storeId)

/-- The run id of a drift plan. -/
def driftRunId (tenantId storeId : String) : String :=
  planRunId (driftPlan tenantId storeId .nan [])

/-- A drift task of the store is there and open. -/
def DriftOpen (tenantId storeId : String) (w : World) : Prop :=
  w.services.sink.Open (driftTaskKey tenantId storeId)

/-- The ids are short enough for the plan of the store. -/
def Buildable (tenantId storeId : String) : Bool :=
  (revalidationPlan tenantId storeId).violation.isNone

/-- What holds of the world between passes: a filed drift task is there, and nobody closed it. -/
structure Inv (tenantId : String) (w : World) : Prop where
  filed : ∀ storeId, (w.journal.get (driftRunId tenantId storeId) "file_drift_task").isSome →
    (w.services.sink.get? (driftTaskKey tenantId storeId)).isSome
  pending : ∀ storeId task, w.services.sink.get? (driftTaskKey tenantId storeId) = some task →
    Value.get task "status" = .str pendingStatus

theorem inv_start (tenantId : String) (twin : TwinSide) : Inv tenantId (World.start twin) where
  filed := fun _ h => by cases h
  pending := fun _ _ h => by cases h

theorem Inv.driftOpen_iff {tenantId : String} {w : World} (h : Inv tenantId w) (storeId : String) :
    DriftOpen tenantId storeId w ↔
      (w.services.sink.get? (driftTaskKey tenantId storeId)).isSome := by
  rw [DriftOpen, TaskSink.Open, Option.isSome_iff_exists]
  constructor
  · rintro ⟨task, hget, -⟩
    exact ⟨task, hget⟩
  · rintro ⟨task, hget⟩
    exact ⟨task, hget, h.pending storeId task hget⟩

theorem driftTaskKey_injective {tenantId storeId storeId' : String}
    (h : driftTaskKey tenantId storeId = driftTaskKey tenantId storeId') : storeId = storeId' := by
  have hkey : driftKey tenantId storeId = driftKey tenantId storeId' := congrArg (·.2.2) h
  exact String.append_right_inj _ |>.mp hkey

theorem revalidationRunId_injective {tenantId storeId storeId' : String}
    (h : planRunId (revalidationPlan tenantId storeId) =
      planRunId (revalidationPlan tenantId storeId')) : storeId = storeId' := by
  have hplan : (revalidationPlan tenantId storeId).planId =
      (revalidationPlan tenantId storeId').planId := String.append_right_inj _ |>.mp h
  exact String.append_right_inj _ |>.mp hplan

theorem driftRunId_injective {tenantId storeId storeId' : String}
    (h : driftRunId tenantId storeId = driftRunId tenantId storeId') : storeId = storeId' := by
  have hplan : (driftPlan tenantId storeId .nan []).planId =
      (driftPlan tenantId storeId' .nan []).planId := String.append_right_inj _ |>.mp h
  exact String.append_right_inj _ |>.mp hplan

/-! ## Plans that pass their checks -/

theorem validated_revalidationPlan {tenantId storeId : String} (h : Buildable tenantId storeId) :
    (revalidationPlan tenantId storeId).validated = .ok (revalidationPlan tenantId storeId) :=
  Plan.validated_of_none (Option.isNone_iff_eq_none.mp h)

theorem not_validated_revalidationPlan {tenantId storeId : String}
    (h : Buildable tenantId storeId = false) :
    ∃ e, (revalidationPlan tenantId storeId).validated = .error e := by
  rw [Buildable, Option.isNone_eq_false_iff, Option.isSome_iff_exists] at h
  obtain ⟨field, hfield⟩ := h
  exact ⟨_, Plan.validated_of_some hfield⟩

/-- The id of a drift plan is shorter than that of the revalidation plan. -/
theorem validated_driftPlan {tenantId storeId : String} (h : Buildable tenantId storeId)
    (score : FloatValue) (report : Items) :
    (driftPlan tenantId storeId score report).validated =
      .ok (driftPlan tenantId storeId score report) := by
  have hviolation := Option.isNone_iff_eq_none.mp h
  rw [Plan.violation, Option.or_eq_none_iff, Twin.firstViolation_eq_none] at hviolation
  have hid : lengthBetween 1 128 ("fidelity_revalidation_" ++ tenantId ++ "_" ++ storeId) = true :=
    hviolation.2 _ List.mem_cons_self
  have htenant : lengthBetween 1 128 tenantId = true :=
    hviolation.2 _ (List.mem_cons_of_mem _ List.mem_cons_self)
  have hrole := hviolation.2 _
    (List.mem_cons_of_mem _ (List.mem_cons_of_mem _ List.mem_cons_self))
  have hkey : lengthBetween 1 64 "file_drift_task" = true := by decide +kernel
  have hcapability : lengthBetween 1 64 "create_manager_task" = true := by decide +kernel
  have hstep : (driftStep tenantId storeId score report).violation = none := by
    simp only [PlanStep.violation, driftStep, hkey, hcapability, firstViolation, if_true]
  have hshort : lengthBetween 1 128 ("fidelity_drift_" ++ tenantId ++ "_" ++ storeId) = true := by
    have hlong : "fidelity_revalidation_".length = 22 := by decide +kernel
    have hname : "fidelity_drift_".length = 15 := by decide +kernel
    simp only [lengthBetween, String.length_append, decide_eq_true_eq, hlong, hname] at hid ⊢
    omega
  have hsteps : (driftPlan tenantId storeId score report).steps.findSome? PlanStep.violation =
      none := by
    rw [show (driftPlan tenantId storeId score report).steps =
      [driftStep tenantId storeId score report] from rfl, List.findSome?_cons, hstep,
      List.findSome?_nil]
  have hnone : (driftPlan tenantId storeId score report).violation = none := by
    rw [Plan.violation, hsteps, Option.none_or, Twin.firstViolation_eq_none]
    intro c hc
    simp only [List.mem_cons, List.not_mem_nil, or_false] at hc
    rcases hc with rfl | rfl | rfl | rfl
    · exact hshort
    · exact htenant
    · exact hrole
    · rfl
  exact Plan.validated_of_none hnone

/-! ## The two plans -/

theorem get?_recompute :
    (buildCapabilityRegistry math now).get? "recompute_twin_fidelity" =
      some ⟨"recompute_twin_fidelity", recomputeTwinFidelity math, governedRoles, false⟩ :=
  Dict.get?_set_self _ _ _

theorem get?_create :
    (buildCapabilityRegistry math now).get? "create_manager_task" =
      some ⟨"create_manager_task", createManagerTask now, governedRoles, true⟩ := by
  rw [buildCapabilityRegistry, Dict.get?_set_ne _ (by decide), Dict.get?_set_self]

theorem scheduler_mem_governedRoles : "scheduler" ∈ governedRoles := by simp [governedRoles]

theorem validatePlan_revalidationPlan (tenantId storeId : String) :
    validatePlan (buildCapabilityRegistry math now) (revalidationPlan tenantId storeId) = [] := by
  have hget : (buildCapabilityRegistry math now).get?
      (recomputeStep tenantId storeId).capability = _ := get?_recompute math now
  have hrole : (revalidationPlan tenantId storeId).actorRole ∈ governedRoles :=
    scheduler_mem_governedRoles
  have hproblems : stepProblems (buildCapabilityRegistry math now)
      (revalidationPlan tenantId storeId) (recomputeStep tenantId storeId) = [] := by
    rw [stepProblems, hget]
    dsimp only
    rw [if_pos hrole]
    rfl
  exact congrArg (· ++ []) hproblems

theorem validatePlan_driftPlan (tenantId storeId : String) (score : FloatValue) (report : Items) :
    validatePlan (buildCapabilityRegistry math now) (driftPlan tenantId storeId score report) =
      [] := by
  have hget : (buildCapabilityRegistry math now).get?
      (driftStep tenantId storeId score report).capability = _ := get?_create math now
  have hrole : (driftPlan tenantId storeId score report).actorRole ∈ governedRoles :=
    scheduler_mem_governedRoles
  have hproblems : stepProblems (buildCapabilityRegistry math now)
      (driftPlan tenantId storeId score report) (driftStep tenantId storeId score report) = [] := by
    rw [stepProblems, hget]
    dsimp only
    rw [if_pos hrole]
    rfl
  exact congrArg (· ++ []) hproblems

/-- The plan of a store: the recorded fidelity if there is one, else the fidelity as it is. -/
theorem runPlan_revalidationPlan (tenantId storeId : String) (w : World) :
    let ran := w.runPlan math now (revalidationPlan tenantId storeId)
    ran.2.status = "done" ∧
      reportOf ((Dict.lookup "recompute_fidelity" ran.2.outputs).getD []) =
        (recordedReport tenantId storeId w).getD (currentReport math tenantId storeId w) ∧
      ran.1.services = w.services ∧
      ∀ r k, ran.1.journal.get r k =
        if (planRunId (revalidationPlan tenantId storeId), "recompute_fidelity") = (r, k) then
          some ((w.journal.get r k).getD
            [("fidelity", .dict (currentReport math tenantId storeId w)),
              ("tenant_id", .str tenantId), ("store_id", .str storeId)])
        else w.journal.get r k := by
  obtain ⟨hresult, hservices, hjournal⟩ := runPlan_single (recomputeStep tenantId storeId)
    rfl (validatePlan_revalidationPlan math now tenantId storeId) (get?_recompute math now) now
    (w.journal, w.services) rfl
  dsimp only [World.runPlan]
  rw [hresult, hservices]
  refine ⟨rfl, ?_, ite_self _, hjournal⟩
  rw [recordedReport]
  show reportOf ((w.journal.get (planRunId (revalidationPlan tenantId storeId))
    "recompute_fidelity").getD _) = _
  cases w.journal.get (planRunId (revalidationPlan tenantId storeId)) "recompute_fidelity" with
  | none => rfl
  | some seen => rfl

/-- The request of a drift plan. -/
def driftRequest (tenantId storeId : String) (score : FloatValue) (report : Items) : TaskRequest where
  idempotencyKey := driftKey tenantId storeId
  title := driftTitle storeId score
  action := [("type", .str "review_twin_fidelity"), ("fidelity", .dict report)]
  tenantId := tenantId
  dataDomain := "operational_twin"
  assigneeRole := "manager"
  rollbackInstructions := defaultRollback

theorem createManagerTask_driftStep (tenantId storeId : String) (score : FloatValue)
    (report : Items) (s : Services) :
    createManagerTask now (driftStep tenantId storeId score report).params s =
      ({ s with sink := (s.sink.createTask now (driftRequest tenantId storeId score report)).1 },
        .ok [("task",
          .dict (s.sink.createTask now (driftRequest tenantId storeId score report)).2)]) := rfl

/-- A drift plan: the task is created unless the journal has its creation already. -/
theorem runPlan_driftPlan (tenantId storeId : String) (score : FloatValue) (report : Items)
    (w : World) :
    let ran := w.runPlan math now (driftPlan tenantId storeId score report)
    let filed := (w.journal.get (driftRunId tenantId storeId) "file_drift_task").isSome
    ran.2.status = "done" ∧ ran.1.services.twin = w.services.twin ∧
      ran.1.services.sink = (if filed then w.services.sink
        else (w.services.sink.createTask now (driftRequest tenantId storeId score report)).1) ∧
      ∀ r k, (r, k) ≠ (driftRunId tenantId storeId, "file_drift_task") →
        ran.1.journal.get r k = w.journal.get r k := by
  obtain ⟨hresult, hservices, hjournal⟩ := runPlan_single
    (driftStep tenantId storeId score report)
    rfl (validatePlan_driftPlan math now tenantId storeId score report) (get?_create math now) now
    (w.journal, w.services) (createManagerTask_driftStep now tenantId storeId score report _)
  dsimp only [World.runPlan]
  rw [hresult, hservices]
  refine ⟨rfl, ?_, ?_, fun r k hne => ?_⟩
  · split <;> rfl
  · show Services.sink (if (w.journal.get (driftRunId tenantId storeId)
      "file_drift_task").isSome = true then _ else _) = _
    split <;> rfl
  · rw [hjournal, if_neg]
    exact fun h => hne h.symm

/-! ## One store of a pass -/

/-- What the body of the loop does for a store whose plan can be built. -/
structure Revalidated (tenantId storeId : String) (w w' : World) : Prop where
  twin : w'.services.twin = w.services.twin
  recorded_self : recordedReport tenantId storeId w' =
    some ((recordedReport tenantId storeId w).getD (currentReport math tenantId storeId w))
  recorded_ne : ∀ other, storeId ≠ other →
    recordedReport tenantId other w' = recordedReport tenantId other w
  open_self : isBelowThreshold (scoreOf ((recordedReport tenantId storeId w).getD
    (currentReport math tenantId storeId w))) → DriftOpen tenantId storeId w'
  open_mono : ∀ other, DriftOpen tenantId other w → DriftOpen tenantId other w'
  open_ne : ∀ other, storeId ≠ other → (DriftOpen tenantId other w' ↔ DriftOpen tenantId other w)
  inv : Inv tenantId w'

/-- The steps of the two plans have different keys. -/
theorem recompute_ne_drift (r r' : String) :
    (r, "recompute_fidelity") ≠ (r', "file_drift_task") := by
  intro h
  have hkey : "recompute_fidelity" = "file_drift_task" := congrArg Prod.snd h
  exact absurd hkey (by decide)

theorem revalidateStore_of_buildable {tenantId storeId : String} (h : Buildable tenantId storeId)
    {w : World} (hinv : Inv tenantId w) :
    ∃ w', revalidateStore math now tenantId storeId w = (w', .ok (some
        ((recordedReport tenantId storeId w).getD (currentReport math tenantId storeId w)))) ∧
      Revalidated math tenantId storeId w w' := by
  obtain ⟨hstatus, hreport, hservices, hjournal⟩ :=
    runPlan_revalidationPlan math now tenantId storeId w
  rw [revalidateStore, validated_revalidationPlan h]
  simp only [hstatus, if_true, hreport]
  -- what the first plan leaves behind
  have hself : recordedReport tenantId storeId
      (w.runPlan math now (revalidationPlan tenantId storeId)).1 =
      some ((recordedReport tenantId storeId w).getD (currentReport math tenantId storeId w)) := by
    rw [recordedReport, hjournal, if_pos rfl, recordedReport]
    cases w.journal.get (planRunId (revalidationPlan tenantId storeId)) "recompute_fidelity" with
    | none => rfl
    | some seen => rfl
  have hne : ∀ other, storeId ≠ other → recordedReport tenantId other
      (w.runPlan math now (revalidationPlan tenantId storeId)).1 =
      recordedReport tenantId other w := by
    intro other hother
    rw [recordedReport, hjournal, if_neg, recordedReport]
    exact fun heq => hother (revalidationRunId_injective (congrArg Prod.fst heq))
  have hdrift : ∀ other, (w.runPlan math now (revalidationPlan tenantId storeId)).1.journal.get
      (driftRunId tenantId other) "file_drift_task" =
      w.journal.get (driftRunId tenantId other) "file_drift_task" := by
    intro other
    rw [hjournal, if_neg]
    exact recompute_ne_drift _ _
  split
  · rename_i hbelow
    generalize hw1 : (w.runPlan math now (revalidationPlan tenantId storeId)).1 = w1 at *
    generalize hused : (recordedReport tenantId storeId w).getD
      (currentReport math tenantId storeId w) = report at *
    obtain ⟨hdone, htwin, hsink, hkept⟩ :=
      runPlan_driftPlan math now tenantId storeId (scoreOf report) report w1
    rw [fileDriftTask, validated_driftPlan h]
    simp only [hdone, if_true]
    refine ⟨_, rfl, ?_⟩
    generalize (w1.runPlan math now
      (driftPlan tenantId storeId (scoreOf report) report)).1 = w2 at *
    have hkey : (driftRequest tenantId storeId (scoreOf report) report).key =
        driftTaskKey tenantId storeId := rfl
    have hgrow : ∀ key task, w.services.sink.get? key = some task →
        w2.services.sink.get? key = some task := by
      intro key task hget
      rw [hsink, hservices]
      split
      · exact hget
      · exact TaskSink.get?_createTask_of_some now _ hget
    have hother : ∀ other, storeId ≠ other →
        w2.services.sink.get? (driftTaskKey tenantId other) =
        w.services.sink.get? (driftTaskKey tenantId other) := by
      intro other hne'
      rw [hsink, hservices]
      split
      · rfl
      · exact TaskSink.get?_createTask_ne now _ fun heq => hne' (driftTaskKey_injective heq)
    have hthere : (w2.services.sink.get? (driftTaskKey tenantId storeId)).isSome := by
      rw [hsink, hservices]
      split
      · rename_i hfiled
        rw [hdrift] at hfiled
        exact hinv.filed storeId hfiled
      · rw [← hkey, TaskSink.get?_createTask_self]
        rfl
    have hpending : ∀ other task, w2.services.sink.get? (driftTaskKey tenantId other) = some task →
        Value.get task "status" = .str pendingStatus := by
      intro other task hget
      by_cases heq : storeId = other
      · subst heq
        cases hold : w.services.sink.get? (driftTaskKey tenantId storeId) with
        | some task' =>
          rw [hgrow _ _ hold] at hget
          exact Option.some.inj hget ▸ hinv.pending storeId task' hold
        | none =>
          -- the task is the one this plan created
          rw [hsink, hservices] at hget
          split at hget
          · rw [hold] at hget
            cases hget
          · rw [← hkey, TaskSink.createTask, hkey, hold] at hget
            rw [← hkey, Dict.get?_set_self] at hget
            rw [← Option.some.inj hget]
            exact TaskRequest.status_task now _ _
      · rw [hother other heq] at hget
        exact hinv.pending other task hget
    have hinv2 : Inv tenantId { w2 with status.driftTasksFiled := w2.status.driftTasksFiled + 1 } := by
      refine ⟨fun other hfiled => ?_, hpending⟩
      by_cases heq : storeId = other
      · subst heq
        exact hthere
      · rw [hother other heq]
        have hsame := hkept (driftRunId tenantId other) "file_drift_task" fun hk =>
          heq (driftRunId_injective (congrArg Prod.fst hk)).symm
        refine hinv.filed other ?_
        rw [← hdrift, ← hsame]
        exact hfiled
    refine ⟨htwin.trans (by rw [hservices]), ?_, ?_, fun _ => ?_, ?_, ?_, hinv2⟩
    · rw [hused, ← hself, recordedReport, hkept _ _ (recompute_ne_drift _ _)]
      rfl
    · intro other hne'
      rw [recordedReport, hkept _ _ (recompute_ne_drift _ _)]
      exact hne other hne'
    · exact (hinv2.driftOpen_iff storeId).mpr hthere
    · rintro other ⟨task, hget, hstatus'⟩
      exact ⟨task, hgrow _ _ hget, hstatus'⟩
    · intro other hne'
      rw [hinv2.driftOpen_iff, hinv.driftOpen_iff, ← hother other hne']
  · rename_i hbelow
    refine ⟨_, rfl, by rw [hservices], hself, hne, fun hb => absurd hb hbelow, ?_, ?_, ?_⟩
    · intro other hopen
      rw [DriftOpen, hservices]
      exact hopen
    · intro other _
      rw [DriftOpen, hservices]
      rfl
    · refine ⟨fun other hfiled => ?_, ?_⟩
      · rw [hdrift] at hfiled
        rw [hservices]
        exact hinv.filed other hfiled
      · rw [hservices]
        exact hinv.pending

theorem revalidateStore_of_not_buildable {tenantId storeId : String}
    (h : Buildable tenantId storeId = false) (w : World) :
    ∃ e, revalidateStore math now tenantId storeId w = (w, .error e) := by
  obtain ⟨e, he⟩ := not_validated_revalidationPlan h
  exact ⟨e, by rw [revalidateStore, he]⟩

/-! ## A pass -/

/-- The pass uses the fidelity of the twin as it is, and every store below the threshold has an open
drift task after it. -/
structure Live (tenantId : String) (stores : List String) (w w' : World)
    (used : List (String × Items)) : Prop where
  current : ∀ p ∈ used, p.2 = currentReport math tenantId p.1 w
  filed : ∀ storeId ∈ stores, isBelowThreshold (scoreOf (currentReport math tenantId storeId w)) →
    DriftOpen tenantId storeId w'

/-- The journal has no other fidelity for the stores before the first whose plan cannot be built,
and the other stores need no drift task that is not open already. -/
structure UpToDate (tenantId : String) (stores : List String) (w : World) : Prop where
  recorded : ∀ storeId ∈ stores.takeWhile (Buildable tenantId), ∀ report,
    recordedReport tenantId storeId w = some report →
      report = currentReport math tenantId storeId w
  skipped : ∀ storeId ∈ stores, storeId ∉ stores.takeWhile (Buildable tenantId) →
    isBelowThreshold (scoreOf (currentReport math tenantId storeId w)) →
      DriftOpen tenantId storeId w

/-- What a pass over some stores leaves behind, and when it is live. -/
structure PassSpec (tenantId : String) (stores : List String) (w : World)
    (ran : World × List (String × Items) × Option Exc) : Prop where
  twin : ran.1.services.twin = w.services.twin
  inv : Inv tenantId ran.1
  mono : ∀ storeId, DriftOpen tenantId storeId w → DriftOpen tenantId storeId ran.1
  live_iff : Live math tenantId stores w ran.1 ran.2.1 ↔ UpToDate math tenantId stores w

theorem currentReport_congr {tenantId storeId : String} {w w' : World}
    (h : w'.services.twin = w.services.twin) :
    currentReport math tenantId storeId w' = currentReport math tenantId storeId w :=
  congrArg (fun twin => fidelity math twin tenantId storeId []) h

theorem passSpec_nil (tenantId : String) {w : World} (hinv : Inv tenantId w) :
    PassSpec math tenantId [] w (w, [], none) where
  twin := rfl
  inv := hinv
  mono := fun _ h => h
  live_iff := iff_of_true ⟨fun _ h => (nomatch h), fun _ h => (nomatch h)⟩
    ⟨fun _ h => (nomatch h), fun _ h => (nomatch h)⟩

/-- A plan that cannot be built ends the pass. -/
theorem passSpec_raise {tenantId storeId : String} (hb : Buildable tenantId storeId = false)
    (rest : List String) {w : World} (hinv : Inv tenantId w) (e : Exc) :
    PassSpec math tenantId (storeId :: rest) w (w, [], some e) := by
  have hnone : (storeId :: rest).takeWhile (Buildable tenantId) = [] :=
    List.takeWhile_cons_of_neg (by rw [hb]; exact Bool.false_ne_true)
  refine ⟨rfl, hinv, fun _ h => h, fun h => ⟨?_, ?_⟩, fun h => ⟨fun _ hp => (nomatch hp), ?_⟩⟩
  · rw [hnone]
    exact fun _ hs => (nomatch hs)
  · exact fun other hother _ => h.filed other hother
  · intro other hother
    refine h.skipped other hother ?_
    rw [hnone]
    exact List.not_mem_nil

/-- A store whose plan can be built, then the rest of the pass. -/
theorem passSpec_cons {tenantId storeId : String} (hb : Buildable tenantId storeId = true)
    {rest : List String} {w w1 : World} (hstep : Revalidated math tenantId storeId w w1)
    {more : World × List (String × Items) × Option Exc}
    (hrest : PassSpec math tenantId rest w1 more) :
    PassSpec math tenantId (storeId :: rest) w (more.1,
      (storeId, (recordedReport tenantId storeId w).getD (currentReport math tenantId storeId w)) ::
        more.2.1, more.2.2) := by
  have hcurrent : ∀ other, currentReport math tenantId other w1 =
      currentReport math tenantId other w := fun other => currentReport_congr math hstep.twin
  have htake : (storeId :: rest).takeWhile (Buildable tenantId) =
      storeId :: rest.takeWhile (Buildable tenantId) := List.takeWhile_cons_of_pos hb
  -- what is recorded of the store, if anything is, is current
  have hself : (recordedReport tenantId storeId w).getD (currentReport math tenantId storeId w) =
      currentReport math tenantId storeId w ↔
      ∀ report, recordedReport tenantId storeId w = some report →
        report = currentReport math tenantId storeId w := by
    cases recordedReport tenantId storeId w with
    | none => simp
    | some report => simp
  refine ⟨hrest.twin.trans hstep.twin, hrest.inv,
    fun other h => hrest.mono other (hstep.open_mono other h), fun h => ?_, fun h => ?_⟩
  · have hhead := h.current _ List.mem_cons_self
    have hupto := hrest.live_iff.mp ⟨fun p hp => by
        rw [hcurrent]
        exact h.current p (List.mem_cons_of_mem _ hp), fun other hother hbelow => by
        rw [hcurrent] at hbelow
        exact h.filed other (List.mem_cons_of_mem _ hother) hbelow⟩
    refine ⟨fun other hother report hreport => ?_, fun other hother hnot hbelow => ?_⟩
    · by_cases heq : storeId = other
      · subst heq
        exact hself.mp hhead report hreport
      · rw [htake] at hother
        rw [← hcurrent]
        exact hupto.recorded other ((List.mem_cons.mp hother).resolve_left (Ne.symm heq)) report
          ((hstep.recorded_ne other heq).trans hreport)
    · rw [htake, List.mem_cons, not_or] at hnot
      rw [← hcurrent] at hbelow
      exact (hstep.open_ne other (Ne.symm hnot.1)).mp
        (hupto.skipped other ((List.mem_cons.mp hother).resolve_left hnot.1) hnot.2 hbelow)
  · have hhead := hself.mpr (h.recorded storeId (htake ▸ List.mem_cons_self))
    have hopen : isBelowThreshold (scoreOf (currentReport math tenantId storeId w)) →
        DriftOpen tenantId storeId w1 := fun hbelow => hstep.open_self (by rw [hhead]; exact hbelow)
    have hlive := hrest.live_iff.mpr ⟨fun other hother report hreport => ?_,
      fun other hother hnot hbelow => ?_⟩
    · refine ⟨fun p hp => ?_, fun other hother hbelow => ?_⟩
      · rcases List.mem_cons.mp hp with rfl | hp
        · exact hhead
        · rw [← hcurrent]
          exact hlive.current p hp
      · by_cases heq : storeId = other
        · subst heq
          exact hrest.mono storeId (hopen hbelow)
        · rw [← hcurrent] at hbelow
          exact hlive.filed other ((List.mem_cons.mp hother).resolve_left (Ne.symm heq)) hbelow
    · rw [hcurrent]
      by_cases heq : storeId = other
      · subst heq
        rw [hstep.recorded_self, hhead] at hreport
        exact (Option.some.inj hreport).symm
      · exact h.recorded other (htake ▸ List.mem_cons_of_mem _ hother) report
          ((hstep.recorded_ne other heq).symm.trans hreport)
    · rw [hcurrent] at hbelow
      by_cases heq : storeId = other
      · subst heq
        exact hopen hbelow
      · refine (hstep.open_ne other heq).mpr
          (h.skipped other (List.mem_cons_of_mem _ hother) ?_ hbelow)
        rw [htake, List.mem_cons, not_or]
        exact ⟨Ne.symm heq, hnot⟩

theorem revalidateStores_cons (tenantId storeId : String) (rest : List String) (w : World) :
    revalidateStores math now tenantId (storeId :: rest) w =
      match revalidateStore math now tenantId storeId w with
      | (w', .error e) => (w', [], some e)
      | (w', .ok used) =>
        let more := revalidateStores math now tenantId rest w'
        (more.1, (used.map fun report => (storeId, report)).toList ++ more.2.1, more.2.2) := rfl

theorem passSpec_revalidateStores (tenantId : String) (stores : List String) {w : World}
    (hinv : Inv tenantId w) :
    PassSpec math tenantId stores w (revalidateStores math now tenantId stores w) := by
  induction stores generalizing w with
  | nil => exact passSpec_nil math tenantId hinv
  | cons storeId rest ih =>
    by_cases hb : Buildable tenantId storeId = true
    · obtain ⟨w1, hstore, hstep⟩ := revalidateStore_of_buildable math now hb hinv
      rw [revalidateStores_cons, hstore]
      exact passSpec_cons math hb hstep (ih hstep.inv)
    · rw [Bool.not_eq_true] at hb
      obtain ⟨e, he⟩ := revalidateStore_of_not_buildable math now hb w
      rw [revalidateStores_cons, he]
      exact passSpec_raise math hb rest hinv e

/-- A pass of the service. -/
theorem passSpec_runOnce (tenantId : String) {w : World} (hinv : Inv tenantId w) :
    PassSpec math tenantId (onboardedStores tenantId w.services.twin) w
      (runOnce math now tenantId w) := by
  have h := passSpec_revalidateStores math now tenantId (onboardedStores tenantId w.services.twin)
    hinv
  simp only [runOnce]
  generalize revalidateStores math now tenantId (onboardedStores tenantId w.services.twin) w =
    ran at h ⊢
  split
  · exact h
  · exact ⟨h.twin, ⟨h.inv.filed, h.inv.pending⟩, h.mono,
      fun hl => h.live_iff.mp ⟨hl.current, hl.filed⟩, fun hu =>
        ⟨(h.live_iff.mpr hu).current, (h.live_iff.mpr hu).filed⟩⟩

/-! ## Runs -/

/-- What happens to the service: something changes the twin (an observation, a calibration), or a
pass runs at a time. -/
inductive Act where
  | twin (change : TwinSide → TwinSide)
  | pass (now : String)

/-- One step: the world after it, and the fidelities a pass used. -/
def act (tenantId : String) (w : World) : Act → World × List (String × Items)
  | .twin change => ({ w with services.twin := change w.services.twin }, [])
  | .pass now => ((runOnce math now tenantId w).1, (runOnce math now tenantId w).2.1)

/-- The step is no pass, or a live one. -/
def LiveStep (tenantId : String) (step : Step World Act (List (String × Items))) : Prop :=
  match step.input with
  | .twin _ => True
  | .pass _ => Live math tenantId (onboardedStores tenantId step.before.services.twin) step.before
      step.after step.output

/-- The step is no pass, or one before which the journal is up to date. -/
def UpToDateStep (tenantId : String) (step : Step World Act (List (String × Items))) : Prop :=
  match step.input with
  | .twin _ => True
  | .pass _ =>
    UpToDate math tenantId (onboardedStores tenantId step.before.services.twin) step.before

theorem inv_act (tenantId : String) (w : World) (a : Act) (h : Inv tenantId w) :
    Inv tenantId (act math tenantId w a).1 := by
  cases a with
  | twin change => exact ⟨h.filed, h.pending⟩
  | pass now => exact (passSpec_runOnce math now tenantId h).inv

/-- **Live revalidation.** In every run, the passes use the fidelity of the twin as it is and leave
an open drift task for every store below the threshold exactly when the journal is up to date before
each of them. -/
theorem revalidation_live_iff (tenantId : String) (twin : TwinSide) (acts : List Act) :
    (∀ step ∈ trace (act math tenantId) (World.start twin) acts, LiveStep math tenantId step) ↔
      ∀ step ∈ trace (act math tenantId) (World.start twin) acts,
        UpToDateStep math tenantId step := by
  refine forall₂_congr fun step hstep => ?_
  obtain ⟨hinv, hof⟩ := invariant_of_mem_trace (inv_act math tenantId) (inv_start tenantId twin)
    hstep
  rw [hof]
  simp only [LiveStep, UpToDateStep, stepOf]
  cases step.input with
  | twin change => exact Iff.rfl
  | pass now => exact (passSpec_runOnce math now tenantId hinv).live_iff

/-! ## A stale fidelity -/

/-- The weighing of a twin of which only the store root and calibrations are known: identity and
agreement count, and a perfect calibration. -/
def rootMath : FidelityMath where
  meanScore := fun rows => if rows.isEmpty then ⟨.finite 0, "0.0"⟩ else ⟨.finite 1, "1.0"⟩
  calculateFidelity := fun inputs =>
    { total :=
        if inputs.calibrationScore.value = .finite 1 then ⟨.finite 45, "45.0"⟩
        else ⟨.finite 30, "30.0"⟩
      dimensions :=
        [("identity", ⟨.finite 1, "1.0"⟩), ("topology", ⟨.finite 0, "0.0"⟩),
          ("freshness", ⟨.finite 0, "0.0"⟩), ("provenance", ⟨.finite 0, "0.0"⟩),
          ("agreement", ⟨.finite 1, "1.0"⟩), ("projection", ⟨.finite 0, "0.0"⟩),
          ("calibration", inputs.calibrationScore)]
      weakestDimension := "topology" }

/-- A twin that has its store root and nothing else. -/
def rootTwin : TwinSide where
  store := (TwinStore.empty.ensureEntity
    { twinId := "urn:shelfwise:shop:main:store:main"
      tenantId := "shop"
      storeId := "main"
      entityType := "store"
      displayName := "Main"
      modelVersion := "twin-v1"
      attributes := []
      createdAt := ⟨0, "2026-07-20T08:00:00+00:00"⟩
      retiredAt := none }).1
  calibrations := .empty

/-- A reading that agrees with its reference. -/
def calibrateProbe (side : TwinSide) : TwinSide :=
  { side with
    calibrations := CalibrationRegistry.record
      { tenantId := "shop"
        storeId := "main"
        deviceId := "probe_01"
        propertyName := "temperature"
        referenceValue := ⟨.finite 4, "4.0"⟩
        observedValue := ⟨.finite 4, "4.0"⟩
        tolerance := ⟨.finite 1, "1.0"⟩
        calibratedAt := ⟨3600000000, "2026-07-20T09:00:00+00:00"⟩
        calibrationId := "cal_shop_main_probe_01_temperature" } side.calibrations }

/-- A pass, a calibration, another pass. -/
def staleRun : List Act := [.pass "08:30", .twin calibrateProbe, .pass "09:30"]

/-- The second pass uses the fidelity of the first. -/
theorem revalidation_stale :
    ¬ ∀ step ∈ trace (act rootMath "shop") (World.start rootTwin) staleRun,
      LiveStep rootMath "shop" step := by
  intro h
  have hlive := h _ (List.mem_cons_of_mem _ (List.mem_cons_of_mem _ List.mem_cons_self))
  have hcurrent := (hlive : Live rootMath "shop" _ _ _ _).current
  revert hcurrent
  decide +kernel

end ShelfWise.Worker
