import ShelfWise.Agentic.Escalation
import ShelfWise.Inference.Registry

/-!
# Deadlines of the cascades

`CascadeDeadlineExceeded` of `shelfwise_inference/orchestration.py`, which `run_messages` raises
before a call that it could not finish in time, and what the six cascades of
`shelfwise_backend/agentic_cascade.py` make of it. The exception is an `AgentOrchestrationError`, and
a `try` takes the first of its clauses that fits: where the clause of the general error comes first,
the one of the deadline is never reached.
-/

namespace ShelfWise.Agentic

open Py Inference

/-! ## Exceptions -/

/-- An exception of the agents: the two that tell how far a run had come, and any other. -/
inductive AgentException where
  | cascadeDeadlineExceeded (message : String) (completedModelCalls elapsedMs : ℕ)
      (toolCalls : List ToolExecution)
  | agenticCascadeDeadlineError (message : String) (completedModelCalls elapsedMs : ℕ)
  | other (e : Exc)
deriving DecidableEq

namespace AgentException

/-- A `CascadeDeadlineExceeded`. -/
def isDeadlineExceeded : AgentException → Bool
  | cascadeDeadlineExceeded .. => true
  | _ => false

/-- An `AgentOrchestrationError`, of which `CascadeDeadlineExceeded` is a subclass. -/
def isOrchestrationError : AgentException → Bool
  | cascadeDeadlineExceeded .. => true
  | agenticCascadeDeadlineError .. => false
  | other e => isRaised "AgentOrchestrationError" e || isRaised "LiveInferenceRequiredError" e

/-- A `ToolCallingError`. -/
def isToolCalling : AgentException → Bool
  | other e => isToolCallingError e
  | _ => false

/-- `str(exc)`, of the exceptions that have a message of the program. -/
def text : AgentException → String
  | cascadeDeadlineExceeded message .. => message
  | agenticCascadeDeadlineError message .. => message
  | other (.raised _ message) => message
  | other _ => ""

end AgentException

/-- An exception of the program among those of the agents. -/
def lift {α : Type} : Except Exc α → Except AgentException α
  | .ok a => .ok a
  | .error e => .error (.other e)

/-- `AgenticCascadeError`. -/
def agenticCascadeError (message : String) : Exc := .raised "AgenticCascadeError" message

/-! ## Runs with a deadline -/

/-- `AgentRunResult`. -/
structure AgentRunResult where
  answer : Value
  toolCalls : List ToolExecution
deriving DecidableEq

/-- The model of one agent and the clock: the response of each turn, and for a turn that starts too
late the milliseconds that have gone by. -/
structure AgentBehaviour where
  responses : ℕ → Except Exc Message
  late : ℕ → Option ℕ

/-- The message of `CascadeDeadlineExceeded`. -/
def deadlineMessage (completedModelCalls : ℕ) : String :=
  "cascade could not finish inside the response deadline after " ++ toString completedModelCalls ++
    " model call(s)"

/-- The loop of `run_messages` from turn `i` on, which is after `i` model calls. -/
def runTurnsBy (r : RunRequest) (b : AgentBehaviour) :
    ℕ → ℕ → LoopState → Except AgentException AgentRunResult
  | 0, _, _ => .error (.other (orchestrationError
      ("agent exceeded the " ++ toString r.maxModelCalls ++ "-call orchestration limit")))
  | turns + 1, i, st => match b.late i with
    | some elapsedMs =>
      .error (.cascadeDeadlineExceeded (deadlineMessage i) i elapsedMs st.executions)
    | none => match r.turn st (b.responses i) with
      | .raises e => .error (.other e)
      | .answer value => .ok ⟨value, st.executions⟩
      | .again st' => runTurnsBy r b turns (i + 1) st'

/-- `AgentOrchestrator.run` with a deadline. -/
def runBy (r : RunRequest) (b : AgentBehaviour) : Except AgentException AgentRunResult := do
  lift r.precheck
  if r.unknownRequired.isEmpty then runTurnsBy r b r.maxModelCalls 0 .start
  else .error (.other (.valueError "required tools are not registered"))

/-- The result without a deadline, unless one of its turns, from turn `i` on, starts too late. -/
def unlessLate (b : AgentBehaviour) (turns : List (LoopState × Except Exc Message)) (i : ℕ)
    (result : Except Exc (Value × List ToolExecution)) : Except AgentException AgentRunResult :=
  match (turns.zipIdx i).findSome? fun t => (b.late t.2).map fun elapsedMs =>
      .cascadeDeadlineExceeded (deadlineMessage t.2) t.2 elapsedMs t.1.1.executions with
  | some e => .error e
  | none => lift (result.map fun result => ⟨result.1, result.2⟩)

theorem runTurnsBy_eq_unlessLate (r : RunRequest) (b : AgentBehaviour) (turns i : ℕ) (st : LoopState) :
    runTurnsBy r b turns i st =
      unlessLate b (r.turnsFrom b.responses turns i st) i (r.runTurns b.responses turns i st) := by
  induction turns generalizing i st with
  | zero => rfl
  | succ turns ih =>
    rw [runTurnsBy, RunRequest.runTurns, RunRequest.turnsFrom, unlessLate, List.zipIdx_cons,
      List.findSome?_cons]
    cases b.late i with
    | some elapsedMs => rfl
    | none =>
      cases r.turn st (b.responses i) with
      | raises e => rfl
      | answer value => rfl
      | again st' => exact ih (i + 1) st'

/-- A deadline only stops a run: it raises in the first turn that starts too late, with what has been executed
by then, and a run without such a turn comes out as without a deadline. -/
theorem runBy_eq_unlessLate (r : RunRequest) (b : AgentBehaviour) : runBy r b =
    unlessLate b (r.turnsOf b.responses) 0 (r.runMessages b.responses) := by
  unfold runBy RunRequest.turnsOf RunRequest.runMessages
  cases r.precheck with
  | error e => rfl
  | ok checked =>
    show ite _ _ _ = unlessLate b (ite _ _ _) 0 (ite _ _ _)
    split
    · exact runTurnsBy_eq_unlessLate r b r.maxModelCalls 0 .start
    · rfl

/-! ## Clauses of a `try` -/

/-- An `except` clause: what it catches and what it raises instead. -/
structure Clause where
  catches : AgentException → Bool
  translate : AgentException → AgentException

/-- `except (AgentOrchestrationError, ToolCallingError) as exc`. -/
def generalClause (message : String) : Clause where
  catches := fun e => e.isOrchestrationError || e.isToolCalling
  translate := fun e => .other (agenticCascadeError (message ++ e.text))

/-- `except CascadeDeadlineExceeded as exc`. -/
def deadlineClause (message : String) : Clause where
  catches := AgentException.isDeadlineExceeded
  translate := fun e => match e with
    | .cascadeDeadlineExceeded text completedModelCalls elapsedMs _ =>
      .agenticCascadeDeadlineError (message ++ text) completedModelCalls elapsedMs
    | e => e

/-- A `try` with its clauses, of which the first that fits is taken. -/
def tryWith {α : Type} (clauses : List Clause) : Except AgentException α → Except AgentException α
  | .ok a => .ok a
  | .error e => .error ((clauses.find? fun clause => clause.catches e).elim e (·.translate e))

/-! ## The body of a cascade -/

/-- What a cascade does in its `try`: the run of the critic, the checks up to the second prompt, the
run of the executive and the checks of its answer. -/
structure AgentSteps where
  critic : RunRequest
  executive : RunRequest
  between : AgentRunResult → Except Exc Unit
  after : AgentRunResult → AgentRunResult → Except Exc Unit

/-- The body of the `try`. -/
def AgentSteps.run (steps : AgentSteps) (critic executive : AgentBehaviour) :
    Except AgentException (AgentRunResult × AgentRunResult) := do
  let criticRun ← runBy steps.critic critic
  lift (steps.between criticRun)
  let executiveRun ← runBy steps.executive executive
  lift (steps.after criticRun executiveRun)
  .ok (criticRun, executiveRun)

/-- `assert_conclusion_grounded_in_tool_results` of the conclusion of an answer. -/
def assertGrounded (answer : Value) (toolCalls : List ToolExecution) : Except Exc Unit := do
  let conclusion ← AgenticCascade.answerField answer "conclusion"
  assertConclusionGrounded conclusion.toText toolCalls

/-- The fields of the critic's answer that the prompt of the executive quotes. -/
def promptFields (answer : Value) : List String → Except Exc Unit
  | [] => .ok ()
  | key :: rest => do
    let _ ← AgenticCascade.answerField answer key
    promptFields answer rest

/-- The checks of a cascade whose executive is believed when the critic passed: the evidence may look
at the critic's answer. -/
def gatedSteps (critic executive : RunRequest) (quoted : List String)
    (evidence : AgentRunResult → Except Exc Bool) : AgentSteps where
  critic := critic
  executive := executive
  between := fun criticRun => do
    assertGrounded criticRun.answer criticRun.toolCalls
    promptFields criticRun.answer quoted
  after := fun criticRun executiveRun => do
    let reported ← AgenticCascade.answerField criticRun.answer "critic_passed"
    let supported ← evidence criticRun
    AgenticCascade.checkExecutive (serverVerifiedCriticPassed reported supported)
      executiveRun.answer criticRun.toolCalls

/-- The checks of a guardrail: the critic must ask for a review, and the executive must choose it. -/
def guardrailSteps (critic executive : RunRequest) (notRouted downgraded action : String) :
    AgentSteps where
  critic := critic
  executive := executive
  between := fun criticRun => do
    assertGrounded criticRun.answer criticRun.toolCalls
    let review ← AgenticCascade.answerField criticRun.answer "requires_human_review"
    if review.truthy then promptFields criticRun.answer ["critic_passed", "conclusion"]
    else .error (agenticCascadeError notRouted)
  after := fun criticRun executiveRun => do
    assertGrounded executiveRun.answer criticRun.toolCalls
    let chosen ← AgenticCascade.answerField executiveRun.answer "recommended_action_type"
    if chosen = .str action then .ok () else .error (agenticCascadeError downgraded)

/-- `_procurement_evidence_supports_action`. -/
def procurementEvidenceSupportsAction (toolCalls : List ToolExecution) (supplierId : String) :
    Except Exc Bool :=
  let policy := toolResult toolCalls "get_reorder_policy"
  let supplier := toolResult toolCalls "get_supplier_ranking"
  match decimalFromToolField supplier "coverage" with
  | none => .ok false
  | some coverage =>
    if Value.get policy "should_reorder" = .bool true then do
      let covered ← (Decimal.finite false 60 (-2)).le coverage
      .ok (covered && (Value.get supplier "top_supplier").eq (.str supplierId))
    else .ok false

/-! ## The six cascades -/

/-- What a cascade does before its agents run, with whether they run at all, and the result it builds
from their runs. -/
structure CascadeFrame where
  setup : Except Exc Bool
  build : AgentRunResult → AgentRunResult → Except Exc Value

/-- A cascade: its frame around the `try`. -/
def runCascade (frame : CascadeFrame) (clauses : List Clause) (steps : AgentSteps)
    (critic executive : AgentBehaviour) : Except AgentException (Option Value) := do
  let runs ← lift frame.setup
  if runs then do
    let agents ← tryWith clauses (steps.run critic executive)
    let result ← lift (frame.build agents.1 agents.2)
    .ok (some result)
  else .ok none

/-- The cascades of `agentic_cascade.py`. -/
inductive CascadeName where
  | golden
  | procurement
  | sales
  | catalogPrice
  | expiryRisk
  | coldChain
deriving DecidableEq

/-- The clauses of `_run`. -/
def goldenClauses : List Clause :=
  [generalClause "live agentic golden cascade failed: ",
    deadlineClause "live agentic golden cascade could not finish inside the response deadline: "]

/-- The clauses of `_run_procurement`. -/
def procurementClauses : List Clause :=
  [generalClause "live agentic procurement cascade failed: ",
    deadlineClause
      "live agentic procurement cascade could not finish inside the response deadline: "]

/-- The clauses of `_run_sales`. -/
def salesClauses : List Clause :=
  [generalClause "live agentic sales cascade failed: ",
    deadlineClause "live agentic sales cascade could not finish inside the response deadline: "]

/-- The clauses of `_run_catalog_price_check`. -/
def catalogPriceClauses : List Clause :=
  [deadlineClause "live agentic catalog-price cascade could not finish before the deadline: ",
    generalClause "live agentic catalog-price guardrail failed: "]

/-- The clauses of `_run_expiry_risk_check`. -/
def expiryRiskClauses : List Clause :=
  [deadlineClause "live agentic expiry cascade could not finish inside the response deadline: ",
    generalClause "live agentic expiry guardrail failed: "]

/-- The clauses of `_run_cold_chain`. -/
def coldChainClauses : List Clause :=
  [deadlineClause "live agentic cold-chain cascade could not finish inside the response deadline: ",
    generalClause "live agentic cold-chain cascade failed: "]

namespace AgentWiring

variable (w : AgentWiring)

/-- The agents of `_run`. -/
def goldenSteps : AgentSteps :=
  gatedSteps (w.criticRequest []) w.executiveRequest ["critic_passed", "conclusion"]
    fun criticRun => markdownEvidenceSupportsAction criticRun.toolCalls

/-- The agents of `_run_procurement`. -/
def procurementSteps : AgentSteps :=
  gatedSteps (w.criticRequest []) w.executiveRequest ["critic_passed", "supplier_id", "conclusion"]
    fun criticRun => do
      let supplierId ← AgenticCascade.answerField criticRun.answer "supplier_id"
      procurementEvidenceSupportsAction criticRun.toolCalls supplierId.toText

/-- The agents of `_run_sales`. -/
def salesSteps : AgentSteps :=
  gatedSteps (w.criticRequest []) w.executiveRequest ["critic_passed", "conclusion"]
    fun criticRun => priceEvidenceSupportsCleanSale criticRun.toolCalls

/-- The agents of `_run_catalog_price_check`. -/
def catalogPriceSteps : AgentSteps :=
  guardrailSteps (w.criticRequest []) w.executiveRequest
    "catalog price outlier was not routed for human review"
    "catalog price outlier was downgraded by executive agent" "review_price_exception"

/-- The agents of `_run_expiry_risk_check`. -/
def expiryRiskSteps : AgentSteps :=
  guardrailSteps (w.criticRequest ["get_expiry_risk"]) w.executiveRequest
    "expiry risk event was not routed for human review"
    "expiry risk event was downgraded by executive agent" "review_expiry_markdown"

/-- The agents of `_run_cold_chain`. -/
def coldChainSteps : AgentSteps :=
  gatedSteps (w.criticRequest ["get_cold_chain_status"]) w.executiveRequest
    ["critic_passed", "conclusion"]
    fun criticRun => coldChainEvidenceSupportsDispatch criticRun.toolCalls

/-- The agents of a cascade. -/
def steps : CascadeName → AgentSteps
  | .golden => w.goldenSteps
  | .procurement => w.procurementSteps
  | .sales => w.salesSteps
  | .catalogPrice => w.catalogPriceSteps
  | .expiryRisk => w.expiryRiskSteps
  | .coldChain => w.coldChainSteps

end AgentWiring

/-- The clauses of a cascade. -/
def clauses : CascadeName → List Clause
  | .golden => goldenClauses
  | .procurement => procurementClauses
  | .sales => salesClauses
  | .catalogPrice => catalogPriceClauses
  | .expiryRisk => expiryRiskClauses
  | .coldChain => coldChainClauses

/-- A cascade of `agentic_cascade.py`. -/
def AgentWiring.cascade (w : AgentWiring) (name : CascadeName) (frame : CascadeFrame)
    (critic executive : AgentBehaviour) : Except AgentException (Option Value) :=
  runCascade frame (clauses name) (w.steps name) critic executive

/-! ## Where a deadline comes out -/

/-- The deadline strikes a run of the cascade, with what it tells of the run: that of the critic, or
after it and its checks that of the executive. -/
structure StrikesIn (steps : AgentSteps) (critic executive : AgentBehaviour)
    (exceeded : AgentException) : Prop where
  is_deadline : exceeded.isDeadlineExceeded = true
  struck : runBy steps.critic critic = .error exceeded ∨
    ∃ criticRun, runBy steps.critic critic = .ok criticRun ∧ steps.between criticRun = .ok () ∧
      runBy steps.executive executive = .error exceeded

/-- What a deadline tells of the run, in either of the exceptions for it. -/
def evidence : AgentException → Option (ℕ × ℕ)
  | .cascadeDeadlineExceeded _ completedModelCalls elapsedMs _ =>
    some (completedModelCalls, elapsedMs)
  | .agenticCascadeDeadlineError _ completedModelCalls elapsedMs =>
    some (completedModelCalls, elapsedMs)
  | .other _ => none

/-- The cascade ends in its own deadline error, with what the deadline told. -/
def Surfaces (exceeded : AgentException) (outcome : Except AgentException (Option Value)) : Prop :=
  ∃ message completedModelCalls elapsedMs,
    outcome = .error (.agenticCascadeDeadlineError message completedModelCalls elapsedMs) ∧
      evidence exceeded = some (completedModelCalls, elapsedMs)

/-- The cascades that look for a deadline before they look for any error of the orchestration. -/
def deadlineFirst : CascadeName → Bool
  | .catalogPrice | .expiryRisk | .coldChain => true
  | .golden | .procurement | .sales => false

variable {critic executive : AgentBehaviour} {exceeded : AgentException}

/-- Whichever run the deadline strikes, it is what the body of the `try` raises. -/
theorem run_of_strikes {steps : AgentSteps} (h : StrikesIn steps critic executive exceeded) :
    steps.run critic executive = .error exceeded := by
  rw [AgentSteps.run]
  rcases h.struck with hcritic | ⟨criticRun, hcritic, hbetween, hexecutive⟩
  · rw [hcritic]
    rfl
  · rw [hcritic]
    show (lift (steps.between criticRun) >>= _) = _
    rw [hbetween]
    show (runBy steps.executive executive >>= _) = _
    rw [hexecutive]
    rfl

theorem cascade_of_strikes {w : AgentWiring} {name : CascadeName} {frame : CascadeFrame}
    (hsetup : frame.setup = .ok true) (h : StrikesIn (w.steps name) critic executive exceeded) :
    w.cascade name frame critic executive = .error
      (((clauses name).find? fun clause => clause.catches exceeded).elim exceeded
        (·.translate exceeded)) := by
  rw [AgentWiring.cascade, runCascade, hsetup, run_of_strikes h]
  rfl

/-- The clause of a deadline passes on what the deadline told. -/
theorem deadlineClause_first (h : exceeded.isDeadlineExceeded = true) (message : String)
    (rest : List Clause) :
    ∃ text completedModelCalls elapsedMs,
      ((deadlineClause message :: rest).find? fun clause => clause.catches exceeded).elim exceeded
          (·.translate exceeded) =
        .agenticCascadeDeadlineError text completedModelCalls elapsedMs ∧
      evidence exceeded = some (completedModelCalls, elapsedMs) := by
  cases exceeded with
  | cascadeDeadlineExceeded text completedModelCalls elapsedMs toolCalls =>
    exact ⟨message ++ text, completedModelCalls, elapsedMs, rfl, rfl⟩
  | agenticCascadeDeadlineError text completedModelCalls elapsedMs => cases h
  | other e => cases h

/-- The general clause takes a deadline for any other error. -/
theorem generalClause_first (h : exceeded.isDeadlineExceeded = true) (message : String)
    (rest : List Clause) :
    ((generalClause message :: rest).find? fun clause => clause.catches exceeded).elim exceeded
        (·.translate exceeded) = .other (agenticCascadeError (message ++ exceeded.text)) := by
  cases exceeded with
  | cascadeDeadlineExceeded text completedModelCalls elapsedMs toolCalls => rfl
  | agenticCascadeDeadlineError text completedModelCalls elapsedMs => cases h
  | other e => cases h

/-- **Deadlines.** Whichever run of a cascade the deadline strikes, the cascade ends in its own
deadline error with the same figures exactly when it looks for a deadline first. -/
theorem deadline_surfaces_iff (w : AgentWiring) (name : CascadeName) (frame : CascadeFrame)
    (critic executive : AgentBehaviour) (exceeded : AgentException)
    (hsetup : frame.setup = .ok true)
    (hstrikes : StrikesIn (w.steps name) critic executive exceeded) :
    Surfaces exceeded (w.cascade name frame critic executive) ↔ deadlineFirst name = true := by
  rw [cascade_of_strikes hsetup hstrikes]
  have hlost : ∀ message rest, ¬ Surfaces exceeded
      (.error (((generalClause message :: rest).find? fun clause =>
        clause.catches exceeded).elim exceeded (·.translate exceeded))) := by
    intro message rest h
    rw [generalClause_first hstrikes.is_deadline] at h
    obtain ⟨text, completedModelCalls, elapsedMs, heq, -⟩ := h
    cases heq
  have hkept : ∀ message rest, Surfaces exceeded
      (.error (((deadlineClause message :: rest).find? fun clause =>
        clause.catches exceeded).elim exceeded (·.translate exceeded))) := by
    intro message rest
    obtain ⟨text, completedModelCalls, elapsedMs, heq, hevidence⟩ :=
      deadlineClause_first hstrikes.is_deadline message rest
    exact ⟨text, completedModelCalls, elapsedMs, congrArg Except.error heq, hevidence⟩
  cases name with
  | golden | procurement | sales => exact iff_of_false (hlost _ _) Bool.noConfusion
  | catalogPrice | expiryRisk | coldChain => exact iff_of_true (hkept _ _) rfl

/-- No time is left for the first call of the critic. -/
def lateCritic : AgentBehaviour := ⟨tillCritic, fun _ => some 28000⟩

/-- A cascade that gets to its agents. -/
def openFrame : CascadeFrame := ⟨.ok true, fun _ _ => .ok .none⟩

/-- What the deadline raises before the first call. -/
def firstDeadline : AgentException := .cascadeDeadlineExceeded (deadlineMessage 0) 0 28000 []

/-- A cold chain whose critic is late says so. -/
theorem coldChain_deadline_surfaces : Surfaces firstDeadline
    (tillWiring.cascade .coldChain openFrame lateCritic lateCritic) := by
  have hstrikes : StrikesIn (tillWiring.steps .coldChain) lateCritic lateCritic firstDeadline :=
    ⟨rfl, .inl (by decide +kernel)⟩
  exact (deadline_surfaces_iff tillWiring .coldChain openFrame lateCritic lateCritic firstDeadline
    rfl hstrikes).mpr rfl

/-- A golden cascade whose critic is late reports a failure like any other. -/
theorem golden_deadline_lost :
    StrikesIn (tillWiring.steps .golden) lateCritic lateCritic firstDeadline ∧
      ¬ Surfaces firstDeadline (tillWiring.cascade .golden openFrame lateCritic lateCritic) := by
  refine ⟨⟨rfl, .inl (by decide +kernel)⟩, ?_⟩
  have hended : tillWiring.cascade .golden openFrame lateCritic lateCritic =
      .error (.other (agenticCascadeError ("live agentic golden cascade failed: " ++
        deadlineMessage 0))) := by
    decide +kernel
  rintro ⟨message, completedModelCalls, elapsedMs, heq, -⟩
  cases hended.symm.trans heq

end ShelfWise.Agentic
