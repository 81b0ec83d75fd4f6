import ShelfWise.Sys.Run
import ShelfWise.Worker.Plans

/-!
# What a plan result is about

`PlanRunner` answers a step from the journal when an output is recorded under the run id and the key
of the step, whatever step recorded it. `planCalls` are the handler calls of a run, each with the
step it was made for (`runPlan_recording` shows that they are what the handlers see).

A run that reports `done` has its outputs in step order and made no call after a failed one. Its
steps have been executed, each by its own capability and with its own parameters, when nothing else
was executed under their keys before (`plan_result_iff`).
-/

namespace ShelfWise.Worker

open Py Sys

variable {σ : Type}

/-! ## Handler calls -/

/-- A call of a capability's handler, with the run and the step it was made for. -/
structure HandlerCall where
  runId : String
  stepKey : String
  capability : String
  params : Items
  succeeded : Bool
deriving DecidableEq

/-- The handler calls of `_run_step`. -/
def stepCalls (runId : String) (step : PlanStep) (capability : Capability σ) (w : Journal × σ) :
    List HandlerCall :=
  match w.1.get runId step.key with
  | some _ => []
  | none =>
    [⟨runId, step.key, step.capability, step.params, (capability.handler step.params w.2).2.isOk⟩]

/-- The handler calls of the loop over the steps. -/
def stepsCalls (registry : CapabilityRegistry σ) (runId : String) :
    List PlanStep → Journal × σ → List HandlerCall
  | [], _ => []
  | step :: rest, w =>
    match registry.get? step.capability with
    | none => []
    | some capability =>
      stepCalls runId step capability w ++
        match runStep runId step capability w with
        | (_, .error _) => []
        | (w', .ok _) => stepsCalls registry runId rest w'

/-- The handler calls of `PlanRunner.run`. -/
def planCalls (registry : CapabilityRegistry σ) (now : String) (plan : Plan) (w : Journal × σ) :
    List HandlerCall :=
  match validatePlan registry plan with
  | _ :: _ => []
  | [] => stepsCalls registry (planRunId plan) plan.steps
      (w.1.startRun now (planRunId plan) plan.tenantId plan.dataDomain, w.2)

/-! ## What the handlers see

A handler is called with parameters and either returns or raises. Keeping these calls in the state
of the capabilities shows that `planCalls` are the calls the runner makes. -/

/-- A call as the capability sees it: its name, the parameters, and whether it returned. -/
abbrev SeenCall := String × Items × Bool

/-- The call without the run and the step. -/
def HandlerCall.seen (call : HandlerCall) : SeenCall :=
  (call.capability, call.params, call.succeeded)

/-- The capability, keeping the calls of its handler. -/
def Capability.recording (name : String) (c : Capability σ) : Capability (σ × List SeenCall) where
  name := c.name
  handler := fun params w =>
    (((c.handler params w.1).1, w.2 ++ [(name, params, (c.handler params w.1).2.isOk)]),
      (c.handler params w.1).2)
  exposedTo := c.exposedTo
  writes := c.writes

/-- The registry whose capabilities keep their calls. -/
def recordingRegistry (registry : CapabilityRegistry σ) :
    CapabilityRegistry (σ × List SeenCall) where
  entries := registry.entries.map fun e => (e.1, e.2.recording e.1)
  nodupKeys := by
    rw [List.map_map]
    exact registry.nodupKeys

theorem get?_recordingRegistry (registry : CapabilityRegistry σ) (name : String) :
    (recordingRegistry registry).get? name = (registry.get? name).map (·.recording name) := by
  change Dict.lookup name (registry.entries.map fun e => (e.1, e.2.recording e.1)) =
    (Dict.lookup name registry.entries).map (·.recording name)
  induction registry.entries with
  | nil => rfl
  | cons e rest ih =>
    simp only [List.map_cons, Dict.lookup]
    by_cases hname : e.1 = name
    · rw [if_pos hname, if_pos hname, Option.map_some, hname]
    · rw [if_neg hname, if_neg hname]
      exact ih

theorem validatePlan_recording (registry : CapabilityRegistry σ) (plan : Plan) :
    validatePlan (recordingRegistry registry) plan = validatePlan registry plan := by
  have hstep : ∀ step, stepProblems (recordingRegistry registry) plan step =
      stepProblems registry plan step := by
    intro step
    unfold stepProblems
    rw [get?_recordingRegistry]
    cases registry.get? step.capability <;> rfl
  have hsteps : ∀ steps seen, planProblems (recordingRegistry registry) plan seen steps =
      planProblems registry plan seen steps := by
    intro steps
    induction steps with
    | nil => exact fun _ => rfl
    | cons step rest ih =>
      intro seen
      rw [planProblems, planProblems, hstep, ih]
  exact hsteps plan.steps []

theorem runSteps_recording (registry : CapabilityRegistry σ) (runId : String)
    (steps : List PlanStep) (result : PlanResult) (j : Journal) (s : σ) (seen : List SeenCall) :
    runSteps (recordingRegistry registry) runId steps result (j, s, seen) =
      (((runSteps registry runId steps result (j, s)).1.1,
        (runSteps registry runId steps result (j, s)).1.2,
        seen ++ (stepsCalls registry runId steps (j, s)).map HandlerCall.seen),
        (runSteps registry runId steps result (j, s)).2) := by
  induction steps generalizing result j s seen with
  | nil => simp [runSteps, stepsCalls]
  | cons step rest ih =>
    simp only [runSteps, stepsCalls, get?_recordingRegistry]
    cases registry.get? step.capability with
    | none => simp
    | some capability =>
      simp only [Option.map_some, runStep, stepCalls, Capability.recording]
      cases j.get runId step.key with
      | some output => simp [ih]
      | none =>
        dsimp only
        obtain ⟨s', e | output⟩ := capability.handler step.params s
        · simp [HandlerCall.seen, Except.isOk, Except.toBool]
        · simp [ih, HandlerCall.seen, Except.isOk, Except.toBool]

/-- The calls of a run are those its handlers see, and keeping them changes nothing else. -/
theorem runPlan_recording (registry : CapabilityRegistry σ) (now : String) (plan : Plan)
    (j : Journal) (s : σ) (seen : List SeenCall) :
    runPlan (recordingRegistry registry) now plan (j, s, seen) =
      (((runPlan registry now plan (j, s)).1.1, (runPlan registry now plan (j, s)).1.2,
        seen ++ (planCalls registry now plan (j, s)).map HandlerCall.seen),
        (runPlan registry now plan (j, s)).2) := by
  unfold runPlan planCalls
  rw [validatePlan_recording]
  cases validatePlan registry plan with
  | cons problem problems => simp
  | nil =>
    dsimp only
    rw [runSteps_recording]

/-! ## Histories -/

/-- A call of `PlanRunner.run`, at a time. -/
structure PlanRequest where
  now : String
  plan : Plan

/-- One run, with its result and its handler calls. -/
def planStep (registry : CapabilityRegistry σ) (w : Journal × σ) (request : PlanRequest) :
    (Journal × σ) × PlanResult × List HandlerCall :=
  ((runPlan registry request.now request.plan w).1,
    (runPlan registry request.now request.plan w).2,
    planCalls registry request.now request.plan w)

/-- The handler calls of a history, in order. -/
def callsMade (history : List (Step (Journal × σ) PlanRequest (PlanResult × List HandlerCall))) :
    List HandlerCall :=
  history.flatMap fun step => step.output.2

/-- The call a step of a plan asks for. -/
def ownCall (plan : Plan) (step : PlanStep) : HandlerCall :=
  ⟨planRunId plan, step.key, step.capability, step.params, true⟩

/-- No call is made after one that failed. -/
def StopsAtFailure (calls : List HandlerCall) : Prop :=
  ∀ earlier call later, calls = earlier ++ call :: later → call.succeeded = false → later = []

/-- The result of a run is about its plan: every step was executed, in this run or an earlier one,
the outputs are in step order, and this run made no call after a failed one. -/
structure AboutPlan (before now : List HandlerCall) (plan : Plan) (result : PlanResult) : Prop where
  executed : ∀ step ∈ plan.steps, ownCall plan step ∈ before ++ now
  ordered : result.outputs.map Prod.fst = plan.steps.map PlanStep.key
  stops : StopsAtFailure now

/-- What was executed for the plan's run id under the key of one of its steps was that step. -/
def NotReused (before : List HandlerCall) (plan : Plan) : Prop :=
  ∀ step ∈ plan.steps, ∀ call ∈ before, call.runId = planRunId plan → call.stepKey = step.key →
    call.succeeded = true → call.capability = step.capability ∧ call.params = step.params

/-! ## The journal and the calls -/

/-- The steps of the journal are those of the successful calls, and no step was executed twice. -/
structure Recorded (j : Journal) (calls : List HandlerCall) : Prop where
  isSome_iff : ∀ r k, (j.get r k).isSome = true ↔
    ∃ call ∈ calls, call.succeeded = true ∧ call.runId = r ∧ call.stepKey = k
  once : ((calls.filter (·.succeeded)).map fun call => (call.runId, call.stepKey)).Nodup

theorem recorded_empty : Recorded Journal.empty [] :=
  ⟨fun _ _ => ⟨nofun, fun ⟨_, hcall, _⟩ => absurd hcall List.not_mem_nil⟩, List.nodup_nil⟩

variable {j : Journal} {calls : List HandlerCall}

/-- Two successful calls for one step are one call. -/
theorem Recorded.unique (h : Recorded j calls) {call call' : HandlerCall} (hcall : call ∈ calls)
    (hcall' : call' ∈ calls) (hok : call.succeeded = true) (hok' : call'.succeeded = true)
    (hrun : call.runId = call'.runId) (hkey : call.stepKey = call'.stepKey) : call = call' :=
  List.inj_on_of_nodup_map h.once (List.mem_filter.mpr ⟨hcall, hok⟩)
    (List.mem_filter.mpr ⟨hcall', hok'⟩) (Prod.ext hrun hkey)

variable {call : HandlerCall}

/-- A call that fails records nothing. -/
theorem Recorded.failed (h : Recorded j calls) (hfailed : call.succeeded = false) :
    Recorded j (calls ++ [call]) where
  isSome_iff := fun r k => by
    rw [h.isSome_iff]
    constructor
    · rintro ⟨call', hmem, hcall'⟩
      exact ⟨call', List.mem_append_left _ hmem, hcall'⟩
    · rintro ⟨call', hmem, hok, hcall'⟩
      rcases List.mem_append.mp hmem with hmem | hmem
      · exact ⟨call', hmem, hok, hcall'⟩
      · rw [List.mem_singleton.mp hmem, hfailed] at hok
        cases hok
  once := by
    rw [List.filter_append, List.filter_singleton, hfailed]
    simpa using h.once

/-- A call that succeeds records its step, which was not recorded before. -/
theorem Recorded.succeeded (h : Recorded j calls) (call : HandlerCall) (hok : call.succeeded = true)
    (hfresh : j.get call.runId call.stepKey = none) (output : Items) (compensation : Option Items) :
    Recorded (j.journaled call.runId call.stepKey output compensation) (calls ++ [call]) where
  isSome_iff := fun r k => by
    rw [Journal.get_journaled]
    constructor
    · intro hsome
      split at hsome
      · rename_i hkey
        obtain ⟨hrun, hstep⟩ := Prod.ext_iff.mp hkey
        exact ⟨call, by simp, hok, hrun, hstep⟩
      · obtain ⟨call', hmem, hcall'⟩ := (h.isSome_iff r k).mp hsome
        exact ⟨call', List.mem_append_left _ hmem, hcall'⟩
    · rintro ⟨call', hmem, hok', hrun, hstep⟩
      split
      · rfl
      · rename_i hkey
        rcases List.mem_append.mp hmem with hmem | hmem
        · exact (h.isSome_iff r k).mpr ⟨call', hmem, hok', hrun, hstep⟩
        · rw [List.mem_singleton.mp hmem] at hrun hstep
          exact absurd (Prod.ext hrun hstep) hkey
  once := by
    have hsingle : [call].filter (·.succeeded) = [call] := by
      rw [List.filter_singleton, hok]
      rfl
    rw [List.filter_append, hsingle, List.map_append]
    refine List.nodup_append.mpr ⟨h.once, List.nodup_singleton _, fun key hkey key' hkey' => ?_⟩
    rintro rfl
    obtain ⟨call', hcall', rfl⟩ := List.mem_map.mp hkey
    obtain ⟨hmem, hok'⟩ := List.mem_filter.mp hcall'
    have hsame := List.mem_singleton.mp hkey'
    have hsome := (h.isSome_iff call.runId call.stepKey).mpr
      ⟨call', hmem, hok', congrArg Prod.fst hsame, congrArg Prod.snd hsame⟩
    rw [hfresh] at hsome
    cases hsome

variable {w : Journal × σ}

/-- A step keeps the journal and the calls in line. -/
theorem Recorded.runStep (h : Recorded w.1 calls) (runId : String) (step : PlanStep)
    (capability : Capability σ) :
    Recorded (Worker.runStep runId step capability w).1.1
      (calls ++ stepCalls runId step capability w) := by
  unfold Worker.runStep stepCalls
  cases hget : w.1.get runId step.key with
  | some seen =>
    rw [List.append_nil]
    exact h
  | none =>
    dsimp only
    obtain ⟨s, e | output⟩ := capability.handler step.params w.2
    · exact h.failed rfl
    · exact h.succeeded ⟨runId, step.key, step.capability, step.params, true⟩ rfl hget output
        step.compensation

/-- The loop over the steps keeps the journal and the calls in line. -/
theorem Recorded.runSteps (registry : CapabilityRegistry σ) (runId : String) (steps : List PlanStep)
    (result : PlanResult) (h : Recorded w.1 calls) :
    Recorded (Worker.runSteps registry runId steps result w).1.1
      (calls ++ stepsCalls registry runId steps w) := by
  induction steps generalizing result w calls with
  | nil =>
    rw [stepsCalls, List.append_nil]
    exact h
  | cons step rest ih =>
    unfold Worker.runSteps stepsCalls
    cases registry.get? step.capability with
    | none =>
      rw [List.append_nil]
      exact h
    | some capability =>
      have hstep := h.runStep runId step capability
      dsimp only
      rw [← List.append_assoc]
      generalize Worker.runStep runId step capability w = ran at hstep ⊢
      obtain ⟨w', e | output⟩ := ran
      · rw [List.append_nil]
        exact hstep
      · exact ih _ hstep

/-- A run keeps the journal and the calls in line. -/
theorem Recorded.planStep (registry : CapabilityRegistry σ) (w : Journal × σ)
    (request : PlanRequest) (h : Recorded w.1 calls) :
    Recorded (Worker.planStep registry w request).1.1
      (calls ++ (Worker.planStep registry w request).2.2) := by
  unfold Worker.planStep runPlan planCalls
  cases validatePlan registry request.plan with
  | cons problem problems =>
    rw [List.append_nil]
    exact h
  | nil =>
    have hstarted : Recorded (w.1.startRun request.now (planRunId request.plan)
        request.plan.tenantId request.plan.dataDomain) calls := ⟨h.isSome_iff, h.once⟩
    have hran := Recorded.runSteps registry (planRunId request.plan) request.plan.steps
      ⟨request.plan.planId, "done", [], none⟩
      (w := (w.1.startRun request.now (planRunId request.plan) request.plan.tenantId
        request.plan.dataDomain, w.2)) hstarted
    exact ⟨hran.isSome_iff, hran.once⟩

/-- A history keeps the journal and the calls in line. -/
theorem Recorded.history (registry : CapabilityRegistry σ) (h : Recorded w.1 calls)
    (history : List PlanRequest) :
    Recorded (final (Worker.planStep registry) w history).1
      (calls ++ callsMade (trace (Worker.planStep registry) w history)) := by
  induction history generalizing w calls with
  | nil =>
    rw [trace, callsMade, List.flatMap_nil, List.append_nil]
    exact h
  | cons request history ih =>
    rw [trace, callsMade, List.flatMap_cons, ← List.append_assoc]
    exact ih (h.planStep registry w request)

/-! ## The calls of one run -/

theorem StopsAtFailure.nil : StopsAtFailure [] := by
  intro earlier call later hsplit
  simp at hsplit

/-- A successful call in front changes nothing. -/
theorem StopsAtFailure.cons (h : StopsAtFailure calls) (hok : call.succeeded = true) :
    StopsAtFailure (call :: calls) := by
  intro earlier call' later hsplit hfailed
  cases earlier with
  | nil =>
    rw [List.nil_append, List.cons.injEq] at hsplit
    rw [← hsplit.1, hok] at hfailed
    cases hfailed
  | cons first earlier =>
    rw [List.cons_append, List.cons.injEq] at hsplit
    exact h earlier call' later hsplit.2 hfailed

theorem StopsAtFailure.single (call : HandlerCall) : StopsAtFailure [call] := by
  intro earlier call' later hsplit _
  have hlength := congrArg List.length hsplit
  rw [List.length_singleton, List.length_append, List.length_cons] at hlength
  have hlater : later.length = 0 := by omega
  exact List.eq_nil_of_length_eq_zero hlater

theorem stops_stepsCalls (registry : CapabilityRegistry σ) (runId : String)
    (steps : List PlanStep) (w : Journal × σ) :
    StopsAtFailure (stepsCalls registry runId steps w) := by
  induction steps generalizing w with
  | nil => exact .nil
  | cons step rest ih =>
    unfold stepsCalls
    cases registry.get? step.capability with
    | none => exact .nil
    | some capability =>
      dsimp only
      unfold stepCalls runStep
      cases w.1.get runId step.key with
      | some seen => exact ih w
      | none =>
        dsimp only
        obtain ⟨s, e | output⟩ := capability.handler step.params w.2
        · exact .single _
        · exact (ih _).cons rfl

variable {registry : CapabilityRegistry σ} {runId : String}

/-- Every call of a run is made for one of the steps. -/
theorem mem_stepsCalls {steps : List PlanStep} (h : call ∈ stepsCalls registry runId steps w) :
    ∃ step ∈ steps, call.runId = runId ∧ call.stepKey = step.key ∧
      call.capability = step.capability ∧ call.params = step.params := by
  induction steps generalizing w with
  | nil => cases h
  | cons step rest ih =>
    unfold stepsCalls at h
    cases hget : registry.get? step.capability with
    | none =>
      rw [hget] at h
      cases h
    | some capability =>
      rw [hget] at h
      dsimp only at h
      rcases List.mem_append.mp h with hown | hlater
      · unfold stepCalls at hown
        cases hseen : w.1.get runId step.key with
        | some seen =>
          rw [hseen] at hown
          cases hown
        | none =>
          rw [hseen] at hown
          rw [List.mem_singleton.mp hown]
          exact ⟨step, List.mem_cons_self, rfl, rfl, rfl, rfl⟩
      · generalize runStep runId step capability w = ran at hlater
        obtain ⟨w', e | output⟩ := ran
        · cases hlater
        · obtain ⟨step', hmem, hcall⟩ := ih hlater
          exact ⟨step', List.mem_cons_of_mem _ hmem, hcall⟩

/-! ## A run that reports done -/

theorem isSome_runStep (runId : String) (step : PlanStep) (capability : Capability σ) {r k : String}
    (h : (w.1.get r k).isSome = true) :
    ((runStep runId step capability w).1.1.get r k).isSome = true := by
  unfold runStep
  cases w.1.get runId step.key with
  | some seen => exact h
  | none =>
    dsimp only
    obtain ⟨s, e | output⟩ := capability.handler step.params w.2
    · exact h
    · dsimp only
      rw [Journal.get_journaled]
      split
      · rfl
      · exact h

theorem isSome_runSteps {steps : List PlanStep} {result : PlanResult} {r k : String}
    (h : (w.1.get r k).isSome = true) :
    ((runSteps registry runId steps result w).1.1.get r k).isSome = true := by
  induction steps generalizing result w with
  | nil => exact h
  | cons step rest ih =>
    unfold runSteps
    cases registry.get? step.capability with
    | none => exact h
    | some capability =>
      have hstep := isSome_runStep runId step capability h
      dsimp only
      generalize runStep runId step capability w = ran at hstep ⊢
      obtain ⟨w', e | output⟩ := ran
      · exact hstep
      · exact ih hstep

/-- A step that has an output is recorded. -/
theorem recorded_of_runStep {step : PlanStep} {capability : Capability σ} {w w' : Journal × σ}
    {output : Items} (h : runStep runId step capability w = (w', .ok output)) :
    (w'.1.get runId step.key).isSome = true := by
  unfold runStep at h
  cases hget : w.1.get runId step.key with
  | some seen =>
    rw [hget, Prod.mk.injEq] at h
    rw [← h.1, hget]
    rfl
  | none =>
    rw [hget] at h
    dsimp only at h
    generalize capability.handler step.params w.2 = ran at h
    obtain ⟨s, e | out⟩ := ran
    · cases h
    · rw [Prod.mk.injEq] at h
      rw [← h.1, Journal.get_journaled, if_pos rfl]
      rfl

theorem failed_ne_done : "failed" ≠ "done" := by decide

/-- A run over steps with distinct keys that reports done has recorded every step, and its outputs
are in step order. -/
theorem runSteps_done {steps : List PlanStep} {result : PlanResult}
    (hkeys : (result.outputs.map Prod.fst ++ steps.map PlanStep.key).Nodup)
    (hdone : (runSteps registry runId steps result w).2.status = "done") :
    (∀ step ∈ steps,
      ((runSteps registry runId steps result w).1.1.get runId step.key).isSome = true) ∧
      (runSteps registry runId steps result w).2.outputs.map Prod.fst =
        result.outputs.map Prod.fst ++ steps.map PlanStep.key := by
  induction steps generalizing result w with
  | nil => exact ⟨fun step hstep => absurd hstep List.not_mem_nil, by simp [runSteps]⟩
  | cons step rest ih =>
    unfold runSteps at hdone ⊢
    cases hget : registry.get? step.capability with
    | none =>
      rw [hget] at hdone
      exact absurd hdone failed_ne_done
    | some capability =>
      rw [hget] at hdone
      dsimp only at hdone ⊢
      cases hran : runStep runId step capability w with
      | mk w' answer =>
        rw [hran] at hdone
        cases answer with
        | error e => exact absurd hdone failed_ne_done
        | ok output =>
          have hfresh : step.key ∉ result.outputs.map Prod.fst := by
            intro hmem
            exact (List.nodup_append.mp hkeys).2.2 _ hmem _ List.mem_cons_self rfl
          have houtputs : (Dict.setEntries step.key output result.outputs).map Prod.fst =
              result.outputs.map Prod.fst ++ [step.key] := by
            rw [Dict.map_fst_setEntries, if_neg hfresh]
          obtain ⟨hrest, hordered⟩ := ih (by
            rw [houtputs, List.append_assoc]
            exact hkeys) hdone
          dsimp only
          refine ⟨fun step' hstep' => ?_, ?_⟩
          · rcases List.mem_cons.mp hstep' with rfl | hlater
            · exact isSome_runSteps (recorded_of_runStep hran)
            · exact hrest step' hlater
          · rw [hordered, houtputs, List.append_assoc]
            rfl

/-- A valid plan has distinct keys. -/
theorem nodup_of_planProblems {plan : Plan} {seen : List String} {steps : List PlanStep}
    (h : planProblems registry plan seen steps = []) :
    (steps.map PlanStep.key).Nodup ∧ ∀ step ∈ steps, step.key ∉ seen := by
  induction steps generalizing seen with
  | nil => exact ⟨List.nodup_nil, fun step hstep => absurd hstep List.not_mem_nil⟩
  | cons step rest ih =>
    unfold planProblems at h
    obtain ⟨hfront, hrest⟩ := List.append_eq_nil_iff.mp h
    have hfresh : step.key ∉ seen := by
      intro hmem
      rw [if_pos hmem] at hfront
      cases hfront
    obtain ⟨hnodup, hunseen⟩ := ih hrest
    refine ⟨?_, fun step' hstep' => ?_⟩
    · rw [List.map_cons, List.nodup_cons]
      refine ⟨fun hmem => ?_, hnodup⟩
      obtain ⟨step', hstep', hkey⟩ := List.mem_map.mp hmem
      exact hunseen step' hstep' (hkey ▸ List.mem_cons_self)
    · rcases List.mem_cons.mp hstep' with rfl | hlater
      · exact hfresh
      · exact fun hmem => hunseen step' hlater (List.mem_cons_of_mem _ hmem)

/-- A run that reports done ran over a valid plan. -/
theorem runPlan_done {request : PlanRequest}
    (hdone : (planStep registry w request).2.1.status = "done") :
    (request.plan.steps.map PlanStep.key).Nodup ∧
      (∀ step ∈ request.plan.steps, ((planStep registry w request).1.1.get
        (planRunId request.plan) step.key).isSome = true) ∧
      (planStep registry w request).2.1.outputs.map Prod.fst =
        request.plan.steps.map PlanStep.key := by
  unfold planStep runPlan at hdone ⊢
  cases hvalid : validatePlan registry request.plan with
  | cons problem problems =>
    rw [hvalid] at hdone
    exact absurd hdone failed_ne_done
  | nil =>
    rw [hvalid] at hdone
    have hnodup := (nodup_of_planProblems hvalid).1
    obtain ⟨hsteps, hordered⟩ := runSteps_done (by simpa using hnodup) hdone
    exact ⟨hnodup, hsteps, hordered⟩

theorem stops_planStep (registry : CapabilityRegistry σ) (w : Journal × σ)
    (request : PlanRequest) : StopsAtFailure (planStep registry w request).2.2 := by
  change StopsAtFailure (planCalls registry request.now request.plan w)
  unfold planCalls
  cases validatePlan registry request.plan with
  | cons problem problems => exact .nil
  | nil => exact stops_stepsCalls registry _ _ _

theorem mem_planCalls {request : PlanRequest} (h : call ∈ (planStep registry w request).2.2) :
    ∃ step ∈ request.plan.steps, call.runId = planRunId request.plan ∧ call.stepKey = step.key ∧
      call.capability = step.capability ∧ call.params = step.params := by
  change call ∈ planCalls registry request.now request.plan w at h
  unfold planCalls at h
  cases hvalid : validatePlan registry request.plan with
  | cons problem problems =>
    rw [hvalid] at h
    cases h
  | nil =>
    rw [hvalid] at h
    exact mem_stepsCalls h

/-! ## Plan results -/

/-- **A result that reports done is about its plan** when, before the run, nothing but the steps of
the plan was executed for its run id under their keys. -/
theorem plan_result_iff (registry : CapabilityRegistry σ) (s : σ) (history : List PlanRequest)
    (request : PlanRequest)
    (hdone : (planStep registry (final (planStep registry) (.empty, s) history)
      request).2.1.status = "done") :
    AboutPlan (callsMade (trace (planStep registry) (.empty, s) history))
        (planStep registry (final (planStep registry) (.empty, s) history) request).2.2
        request.plan
        (planStep registry (final (planStep registry) (.empty, s) history) request).2.1 ↔
      NotReused (callsMade (trace (planStep registry) (.empty, s) history)) request.plan := by
  have hbefore := Recorded.history registry (w := (Journal.empty, s)) recorded_empty history
  rw [List.nil_append] at hbefore
  generalize final (planStep registry) (Journal.empty, s) history = w at hdone hbefore ⊢
  generalize callsMade (trace (planStep registry) (Journal.empty, s) history) = before
    at hbefore ⊢
  have hafter := hbefore.planStep registry w request
  obtain ⟨hnodup, hrecorded, hordered⟩ := runPlan_done hdone
  constructor
  · intro habout step hstep call hcall hrun hkey hok
    -- the step's own call and this one are made for the same step
    have hsame := hafter.unique (habout.executed step hstep) (List.mem_append_left _ hcall) rfl
      hok hrun.symm hkey.symm
    rw [← hsame]
    exact ⟨rfl, rfl⟩
  · intro hnot
    refine ⟨fun step hstep => ?_, hordered, stops_planStep registry w request⟩
    obtain ⟨call, hcall, hok, hrun, hkey⟩ :=
      (hafter.isSome_iff _ _).mp (hrecorded step hstep)
    have hown : call.capability = step.capability ∧ call.params = step.params := by
      rcases List.mem_append.mp hcall with hearlier | hnow
      · exact hnot step hstep call hearlier hrun hkey hok
      · obtain ⟨step', hstep', -, hkey', hcapability, hparams⟩ := mem_planCalls hnow
        obtain rfl := List.inj_on_of_nodup_map hnodup hstep' hstep (hkey'.symm.trans hkey)
        exact ⟨hcapability, hparams⟩
    have heq : call = ownCall request.plan step := by
      obtain ⟨runId, stepKey, capability, params, succeeded⟩ := call
      obtain ⟨hcapability, hparams⟩ := hown
      subst hok hrun hkey hcapability hparams
      rfl
    exact heq ▸ hcall

/-- A registry of one capability, which gives back its parameters. -/
def filingRegistry : CapabilityRegistry Unit :=
  ⟨[("file_task", ⟨"file_task", fun params s => (s, .ok params), ["manager"], false⟩)],
    List.nodup_singleton _⟩

/-- A plan that files a task for so many units, under one id for every number of them. -/
def filingPlan (units : ℤ) : Plan where
  planId := "restock"
  tenantId := "tenant_a"
  dataDomain := .operationalTwin
  actorRole := "manager"
  steps := [⟨"file", "file_task", [("units", .int units)], none⟩]

/-- The first plan of its id is executed. -/
theorem plan_result_first :
    AboutPlan (callsMade (trace (planStep filingRegistry) (.empty, ()) []))
      (planStep filingRegistry (final (planStep filingRegistry) (.empty, ()) [])
        ⟨"", filingPlan 3⟩).2.2 (filingPlan 3)
      (planStep filingRegistry (final (planStep filingRegistry) (.empty, ()) [])
        ⟨"", filingPlan 3⟩).2.1 :=
  (plan_result_iff filingRegistry () [] ⟨"", filingPlan 3⟩ (by decide +kernel)).mpr
    fun _ _ _ hcall => absurd hcall List.not_mem_nil

/-- A second plan of the same id is reported done, and its task was never filed. -/
theorem plan_result_of_another :
    ¬ ∀ (registry : CapabilityRegistry Unit) (history : List PlanRequest) (request : PlanRequest),
      (planStep registry (final (planStep registry) (.empty, ()) history)
        request).2.1.status = "done" →
      AboutPlan (callsMade (trace (planStep registry) (.empty, ()) history))
        (planStep registry (final (planStep registry) (.empty, ()) history) request).2.2
        request.plan
        (planStep registry (final (planStep registry) (.empty, ()) history) request).2.1 := by
  intro h
  have habout := h filingRegistry [⟨"", filingPlan 3⟩] ⟨"", filingPlan 5⟩ (by decide +kernel)
  have hexecuted := habout.executed ⟨"file", "file_task", [("units", .int 5)], none⟩
    (List.mem_singleton.mpr rfl)
  exact absurd hexecuted (by decide +kernel)

end ShelfWise.Worker
