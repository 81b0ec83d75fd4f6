import ShelfWise.Twin.Models

/-!
# Plans and their journal

`shelfwise_backend/worker`: the in-memory journal of `journal.py`, and the plans and the runner of
`plans.py`. The runner asks the journal first: a step whose output is recorded under the run id is
not executed again.

A capability acts on a state `σ` that stands for the services its handler closes over. Publishing
progress only logs, and is left out. `now` is the text of the clock.
-/

namespace ShelfWise.Worker

open Py

/-- A JSON object. -/
abbrev Items := List (String × Value)

/-! ## The journal -/

/-- `JournalRun`. -/
structure JournalRun where
  runId : String
  tenantId : String
  dataDomain : DataDomain
  status : String
  startedAt : String
  finishedAt : Option String
deriving DecidableEq

/-- `InMemoryJournal`. -/
structure Journal where
  runs : Dict String JournalRun
  steps : Dict (String × String) Items
  compensations : Dict String (List Items)

namespace Journal

/-- A journal nothing was written to. -/
def empty : Journal := ⟨.empty, .empty, .empty⟩

/-- `start_run`. -/
def startRun (now runId tenantId : String) (dataDomain : DataDomain) (j : Journal) : Journal :=
  { j with runs := j.runs.setdefault runId ⟨runId, tenantId, dataDomain, "running", now, none⟩ }

/-- `finish_run`. -/
def finishRun (now runId status : String) (j : Journal) : Journal :=
  let run := match j.runs.get? runId with
    | some existing => { existing with status, finishedAt := some now }
    | none => ⟨runId, "default", .operationalTwin, status, now, some now⟩
  { j with runs := j.runs.set runId run }

/-- `get`. -/
def get (runId stepKey : String) (j : Journal) : Option Items := j.steps.get? (runId, stepKey)

/-- `put`. -/
def put (runId stepKey : String) (output : Items) (compensation : Option Items) (j : Journal) :
    Journal :=
  { j with
    steps := j.steps.setdefault (runId, stepKey) output
    compensations := match compensation with
      | none => j.compensations
      | some c => j.compensations.set runId ((j.compensations.get? runId).getD [] ++ [c]) }

/-- `journaled`, with the output at hand. -/
def journaled (runId stepKey : String) (output : Items) (compensation : Option Items)
    (j : Journal) : Journal :=
  match j.get runId stepKey with
  | some _ => j
  | none => j.put runId stepKey output compensation

@[simp] theorem get_startRun (now runId tenantId : String) (dataDomain : DataDomain) (j : Journal)
    (r k : String) : (j.startRun now runId tenantId dataDomain).get r k = j.get r k := rfl

@[simp] theorem get_finishRun (now runId status : String) (j : Journal) (r k : String) :
    (j.finishRun now runId status).get r k = j.get r k := rfl

/-- A recorded output stays. -/
theorem get_put (runId stepKey : String) (output : Items) (compensation : Option Items)
    (j : Journal) (r k : String) :
    (j.put runId stepKey output compensation).get r k =
      if (runId, stepKey) = (r, k) then some ((j.get r k).getD output) else j.get r k := by
  unfold get put
  rw [Dict.get?_setdefault]
  split
  · rename_i h
    rw [h]
  · rfl

theorem get_put_self (runId stepKey : String) (output : Items) (compensation : Option Items)
    (j : Journal) :
    (j.put runId stepKey output compensation).get runId stepKey =
      some ((j.get runId stepKey).getD output) := by
  rw [get_put, if_pos rfl]

theorem get_journaled (runId stepKey : String) (output : Items) (compensation : Option Items)
    (j : Journal) (r k : String) :
    (j.journaled runId stepKey output compensation).get r k =
      if (runId, stepKey) = (r, k) then some ((j.get r k).getD output) else j.get r k := by
  unfold journaled
  cases hget : j.get runId stepKey with
  | none => exact get_put runId stepKey output compensation j r k
  | some seen =>
    by_cases h : (runId, stepKey) = (r, k)
    · obtain ⟨rfl, rfl⟩ := Prod.ext_iff.mp h
      rw [if_pos rfl]
      dsimp only
      rw [hget, Option.getD_some]
    · rw [if_neg h]

end Journal

/-! ## Plans -/

/-- `Capability`. -/
structure Capability (σ : Type) where
  name : String
  handler : Items → σ → σ × Except Exc Items
  exposedTo : List String
  writes : Bool

/-- `CapabilityRegistry`. -/
abbrev CapabilityRegistry (σ : Type) := Dict String (Capability σ)

/-- `PlanStep`. -/
structure PlanStep where
  key : String
  capability : String
  params : Items
  compensation : Option Items

/-- `Plan`. -/
structure Plan where
  planId : String
  tenantId : String
  dataDomain : DataDomain
  actorRole : String
  steps : List PlanStep

/-- The first field `PlanStep` refuses. -/
def PlanStep.violation (step : PlanStep) : Option String :=
  Twin.firstViolation
    [("key", Twin.lengthBetween 1 64 step.key),
      ("capability", Twin.lengthBetween 1 64 step.capability)]

/-- The first field `Plan` refuses. -/
def Plan.violation (plan : Plan) : Option String :=
  (plan.steps.findSome? PlanStep.violation).or <|
    Twin.firstViolation
      [("plan_id", Twin.lengthBetween 1 128 plan.planId),
        ("tenant_id", Twin.lengthBetween 1 128 plan.tenantId),
        ("actor_role", Twin.lengthBetween 1 64 plan.actorRole),
        ("steps", 1 ≤ plan.steps.length ∧ plan.steps.length ≤ 32)]

/-- `Plan(...)`. -/
def Plan.validated (plan : Plan) : Except Exc Plan :=
  match plan.violation with
  | none => .ok plan
  | some field => .error (.validationError "Plan" field)

theorem Plan.validated_of_none {plan : Plan} (h : plan.violation = none) :
    plan.validated = .ok plan := by
  rw [Plan.validated, h]

theorem Plan.validated_of_some {plan : Plan} {field : String} (h : plan.violation = some field) :
    plan.validated = .error (.validationError "Plan" field) := by
  rw [Plan.validated, h]

-- the lengths of the fields of a plan are not to be computed while a match on the check is split
attribute [irreducible] Plan.validated

/-- `PlanResult`. -/
structure PlanResult where
  planId : String
  status : String
  outputs : List (String × Items)
  failedStep : Option String

/-- The problems of one step, apart from a repeated key. -/
def stepProblems {σ : Type} (registry : CapabilityRegistry σ) (plan : Plan) (step : PlanStep) :
    List String :=
  match registry.get? step.capability with
  | none => ["unknown capability: " ++ step.capability]
  | some capability =>
    (if plan.actorRole ∈ capability.exposedTo then []
      else ["capability not exposed to role " ++ plan.actorRole ++ ": " ++ step.capability]) ++
    (if capability.writes ∧ step.compensation.isNone then
      ["write step without compensation: " ++ step.key] else []) ++
    (if capability.writes ∧ plan.dataDomain ≠ .operationalTwin then
      ["write step outside operational domain: " ++ step.key] else [])

/-- The loop of `validate_plan`, with the keys seen so far. -/
def planProblems {σ : Type} (registry : CapabilityRegistry σ) (plan : Plan) :
    List String → List PlanStep → List String
  | _, [] => []
  | seen, step :: rest =>
    (if step.key ∈ seen then ["duplicate step key: " ++ step.key] else []) ++
      stepProblems registry plan step ++ planProblems registry plan (step.key :: seen) rest

/-- `validate_plan`. -/
def validatePlan {σ : Type} (registry : CapabilityRegistry σ) (plan : Plan) : List String :=
  planProblems registry plan [] plan.steps

/-- `_plan_run_id`. -/
def planRunId (plan : Plan) : String :=
  "plan:" ++ plan.tenantId ++ ":" ++ plan.dataDomain.value ++ ":" ++ plan.planId

/-! ## The runner -/

section Runner

variable {σ : Type}

/-- `_run_step`. -/
def runStep (runId : String) (step : PlanStep) (capability : Capability σ) (w : Journal × σ) :
    (Journal × σ) × Except Exc Items :=
  match w.1.get runId step.key with
  | some seen => (w, .ok seen)
  | none =>
    match capability.handler step.params w.2 with
    | (s, .error e) => ((w.1, s), .error e)
    | (s, .ok output) => ((w.1.journaled runId step.key output step.compensation, s), .ok output)

/-- The loop of `_run_bound` over the steps. -/
def runSteps (registry : CapabilityRegistry σ) (runId : String) :
    List PlanStep → PlanResult → Journal × σ → (Journal × σ) × PlanResult
  | [], result, w => (w, result)
  | step :: rest, result, w =>
    match registry.get? step.capability with
    | none => (w, { result with status := "failed", failedStep := some step.key })
    | some capability =>
      match runStep runId step capability w with
      | (w', .error _) => (w', { result with status := "failed", failedStep := some step.key })
      | (w', .ok output) =>
        runSteps registry runId rest
          { result with outputs := Dict.setEntries step.key output result.outputs } w'

/-- `PlanRunner.run`. -/
def runPlan (registry : CapabilityRegistry σ) (now : String) (plan : Plan) (w : Journal × σ) :
    (Journal × σ) × PlanResult :=
  match validatePlan registry plan with
  | problem :: _ => (w, ⟨plan.planId, "failed", [], some ("validation: " ++ problem)⟩)
  | [] =>
    let runId := planRunId plan
    let started := w.1.startRun now runId plan.tenantId plan.dataDomain
    let ran := runSteps registry runId plan.steps ⟨plan.planId, "done", [], none⟩ (started, w.2)
    ((ran.1.1.finishRun now runId ran.2.status, ran.1.2), ran.2)

/-- A plan of one step whose capability is registered and whose handler succeeds: the step is
answered from the journal or executed and recorded. -/
theorem runPlan_single {registry : CapabilityRegistry σ} {plan : Plan} (step : PlanStep)
    {capability : Capability σ} (hsteps : plan.steps = [step])
    (hvalid : validatePlan registry plan = [])
    (hcapability : registry.get? step.capability = some capability) (now : String)
    (w : Journal × σ) {s : σ} {output : Items}
    (hhandler : capability.handler step.params w.2 = (s, .ok output)) :
    (runPlan registry now plan w).2 = ⟨plan.planId, "done",
        [(step.key, (w.1.get (planRunId plan) step.key).getD output)], none⟩ ∧
      (runPlan registry now plan w).1.2 =
        (if (w.1.get (planRunId plan) step.key).isSome then w.2 else s) ∧
      ∀ r k, (runPlan registry now plan w).1.1.get r k =
        if (planRunId plan, step.key) = (r, k) then some ((w.1.get r k).getD output)
        else w.1.get r k := by
  have hrun : runPlan registry now plan w =
      let started := w.1.startRun now (planRunId plan) plan.tenantId plan.dataDomain
      let ran := runSteps registry (planRunId plan) [step] ⟨plan.planId, "done", [], none⟩
        (started, w.2)
      ((ran.1.1.finishRun now (planRunId plan) ran.2.status, ran.1.2), ran.2) := by
    rw [runPlan, hvalid, hsteps]
  simp only [hrun, runSteps, hcapability, runStep, Journal.get_startRun]
  cases hget : w.1.get (planRunId plan) step.key with
  | some seen =>
    refine ⟨rfl, rfl, fun r k => ?_⟩
    simp only [Journal.get_finishRun, Journal.get_startRun]
    split
    · rename_i h
      obtain ⟨rfl, rfl⟩ := Prod.ext_iff.mp h
      rw [hget]
      rfl
    · rfl
  | none =>
    simp only [hhandler]
    refine ⟨rfl, rfl, fun r k => ?_⟩
    simp only [Journal.get_finishRun, Journal.get_journaled, Journal.get_startRun]

end Runner

end ShelfWise.Worker
