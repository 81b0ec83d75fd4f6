import ShelfWise.Inference.Grounding

/-!
# The tool loop

`AgentOrchestrator.run_messages` of `shelfwise_inference/orchestration.py`, with the parser of
tool-call messages and the dispatch of `tool_calling.py`. The loop forces the next missing tool
through `tool_choice`, which the model may ignore, and takes a message without tool calls for the
final answer.

A run gets one response per turn: the message of the model, or the exception that the checks before
and after the call or the call itself ended in. JSON text, the tags of a message, the schema of the
answer and the language check are parameters. The conversation is left out: whatever the model sees,
its responses are arbitrary.
-/

namespace ShelfWise.Inference

open Py

/-- A JSON object. -/
abbrev Message := List (String × Value)

/-! ## Tool calls -/

/-- `ToolCall`. -/
structure ToolCall where
  callId : String
  name : String
  arguments : List (String × Value)
deriving DecidableEq

/-- What the parser of messages rests on: `json.loads` with its checks, the payloads of the two
kinds of tags, and `str.isprintable`. -/
structure MessageText where
  parseJson : String → Option Value
  toolTags : String → List String
  functionTags : String → List (String × String)
  isPrintable : String → Bool

/-- `ToolCallParseError`. -/
def parseError (message : String) : Exc := .raised "ToolCallParseError" message

/-- `_TOOL_NAME`. -/
def isToolName (name : String) : Bool :=
  1 ≤ name.length ∧ name.length ≤ 64 ∧ name.toList.all fun c =>
    ('A' ≤ c ∧ c ≤ 'Z') ∨ ('a' ≤ c ∧ c ≤ 'z') ∨ ('0' ≤ c ∧ c ≤ '9') ∨ c = '_' ∨ c = '-'

/-- `_arguments_object`. -/
def argumentsObject (text : MessageText) (arguments : Value) :
    Except Exc (List (String × Value)) :=
  match arguments with
  | .dict items => .ok items
  | .str s => match text.parseJson s with
    | none => .error (parseError "invalid JSON in tool arguments")
    | some (.dict items) => .ok items
    | some _ => .error (parseError "tool arguments must be a JSON object")
  | _ => .error (parseError "tool arguments must be a JSON object")

/-- The `call_id` of `_parse_call`. -/
def callIdOf (text : MessageText) (id : Value) (index : ℕ) : Except Exc String :=
  match id with
  | .str s =>
    if s = "" then .ok ("call_" ++ toString (index + 1))
    else if 256 < s.length ∨ text.isPrintable s = false then
      .error (parseError "tool call contains an invalid call ID")
    else .ok s
  | _ => .ok ("call_" ++ toString (index + 1))

/-- The `name` of `_parse_call`. -/
def callNameOf (name : Value) : Except Exc String :=
  match name with
  | .str s =>
    if s = "" then .error (parseError "tool call is missing a function name")
    else if isToolName s then .ok s
    else .error (parseError "tool call contains an invalid function name")
  | _ => .error (parseError "tool call is missing a function name")

/-- `_parse_call`. -/
def parseCall (text : MessageText) (rawCall : Value) (index : ℕ) : Except Exc ToolCall :=
  match rawCall with
  | .dict raw => match Value.getD raw "function" rawCall with
    | .dict function => do
      let name ← callNameOf (Value.get function "name")
      let callId ← callIdOf text (Value.get raw "id") index
      let arguments ← argumentsObject text
        (Value.getD function "arguments" (Value.getD function "parameters" (.dict [])))
      .ok ⟨callId, name, arguments⟩
    | _ => .error (parseError "tool call function must be an object")
  | _ => .error (parseError "tool call must be an object")

/-- `[_parse_call(item, index) for index, item in enumerate(…)]`. -/
def parseCalls (text : MessageText) : ℕ → List Value → Except Exc (List ToolCall)
  | _, [] => .ok []
  | index, item :: rest => do
    let call ← parseCall text item index
    let calls ← parseCalls text (index + 1) rest
    .ok (call :: calls)

/-- The calls of the tagged payloads, after `count` others. -/
def parseTagged (text : MessageText) : ℕ → List String → Except Exc (List ToolCall)
  | _, [] => .ok []
  | count, payload :: rest =>
    match text.parseJson payload with
    | none => .error (parseError "invalid JSON in tagged Gemma tool call")
    | some parsed => do
      let values := match parsed with
        | .list items => items
        | value => [value]
      let calls ← parseCalls text count values
      let more ← parseTagged text (count + calls.length) rest
      .ok (calls ++ more)

/-- The calls of the function tags. -/
def parseFunctionTags (text : MessageText) : ℕ → List (String × String) →
    Except Exc (List ToolCall)
  | _, [] => .ok []
  | index, (name, arguments) :: rest => do
    let arguments ← argumentsObject text (.str arguments)
    let calls ← parseFunctionTags text (index + 1) rest
    .ok (⟨"call_" ++ toString (index + 1), name, arguments⟩ :: calls)

/-- The calls in the content of a message. -/
def parseContent (text : MessageText) (content : Value) : Except Exc (List ToolCall) :=
  match content with
  | .str s =>
    if strip s = "" then .ok []
    else match text.toolTags s with
      | [] => parseFunctionTags text 0 (text.functionTags s)
      | tagged => parseTagged text 0 tagged
  | _ => .ok []

/-- `parse_tool_calls`. -/
def parseToolCalls (text : MessageText) (message : Message) : Except Exc (List ToolCall) :=
  let otherCalls := match Value.get message "function_call" with
    | .none => parseContent text (Value.get message "content")
    | legacyCall => parseCalls text 0 [.dict [("function", legacyCall)]]
  match Value.get message "tool_calls" with
  | .none | .list [] => otherCalls
  | .list rawCalls => parseCalls text 0 rawCalls
  | _ => .error (parseError "tool_calls must be a list")

/-! ## Dispatch -/

/-- A registered tool: the parameters it declares, and what validation and execution of its
arguments give at the `n`th execution of a run. -/
structure PlatformTool where
  declared : List String
  call : ℕ → List (String × Value) → Except Exc (List (String × Value) × Value)

/-- `PlatformToolRegistry`. -/
abbrev PlatformToolRegistry := Dict String PlatformTool

/-- `execute`, with the tenant as the trusted override. -/
def execute (registry : PlatformToolRegistry) (tenantId : String) (n : ℕ) (call : ToolCall) :
    Except Exc ToolExecution :=
  match registry.get? call.name with
  | none => .error (.raised "ToolPolicyError" ("tool is not registered: " ++ call.name))
  | some tool => do
    let merged := if "tenant_id" ∈ tool.declared then
        Value.setItem call.arguments "tenant_id" (.str tenantId)
      else call.arguments
    let ran ← tool.call n merged
    .ok ⟨call.name, ran.1, ran.2⟩

/-- The executions of the calls of one message. -/
def executeAll (registry : PlatformToolRegistry) (tenantId : String) :
    ℕ → List ToolCall → Except Exc (List ToolExecution)
  | _, [] => .ok []
  | n, call :: rest => do
    let execution ← execute registry tenantId n call
    let executions ← executeAll registry tenantId (n + 1) rest
    .ok (execution :: executions)

/-! ## The loop -/

/-- What `run_messages` is called with, and the orchestrator it is called on. `precheck` stands for
the checks of the role, the context window and the schema before the loop. -/
structure RunRequest where
  registry : PlatformToolRegistry
  requiredToolNames : List String
  requireToolCallFirst : Bool
  maxModelCalls : ℕ
  tenantId : String
  text : MessageText
  precheck : Except Exc Unit
  validateAnswer : String → Except Exc Value
  ensureEnglish : Value → Except Exc Unit

/-- The counters and lists of the loop. -/
structure LoopState where
  executions : List ToolExecution
  seenCallIds : List String
  finalAnswerRetries : ℕ
  openingToolRetries : ℕ

/-- The state before the first turn. -/
def LoopState.start : LoopState := ⟨[], [], 0, 0⟩

/-- What a turn comes to: another one, the final answer, or an exception. -/
inductive TurnOutcome where
  | again (st : LoopState)
  | answer (value : Value)
  | raises (e : Exc)

/-- `_MAX_FINAL_ANSWER_RETRIES`. -/
def maxFinalAnswerRetries : ℕ := 2

/-- `_MAX_OPENING_TOOL_RETRIES`. -/
def maxOpeningToolRetries : ℕ := 2

/-- `AgentOrchestrationError`. -/
def orchestrationError (message : String) : Exc := .raised "AgentOrchestrationError" message

/-- `FinalAnswerValidationError`. -/
def finalAnswerError (message : String) : Exc := .raised "FinalAnswerValidationError" message

/-- The exception is of a class of the program with this name. -/
def isRaised (className : String) : Exc → Bool
  | .raised name _ => name = className
  | _ => false

namespace RunRequest

variable (r : RunRequest)

/-- `required_names`. -/
def requiredNames : List String :=
  ((r.requiredToolNames.filter fun name => strip name ≠ "").map strip).eraseDups

/-- `next_required`. -/
def nextRequired (st : LoopState) : Option String :=
  r.requiredNames.find? fun name => st.executions.all fun execution => execution.name ≠ name

/-- No tool has been called, though one has to be called first. -/
def awaitsOpeningCall (st : LoopState) : Bool :=
  r.requireToolCallFirst ∧ ¬ r.registry.entries.isEmpty ∧ st.executions.isEmpty

/-- `forcing_tool_call`. -/
def forcingToolCall (st : LoopState) : Bool :=
  (r.nextRequired st).isSome ∨ r.awaitsOpeningCall st

/-- The answer in the content of a message. -/
def answerOf (message : Message) : Except Exc Value :=
  match Value.get message "content" with
  | .str content => r.validateAnswer content
  | _ => .error (finalAnswerError "final model response has no JSON content")

/-- The turn of a message without tool calls. -/
def answerTurn (st : LoopState) (message : Message) : TurnOutcome :=
  if r.awaitsOpeningCall st then
    if maxOpeningToolRetries ≤ st.openingToolRetries then
      .raises (orchestrationError "model ignored the required opening tool call after retries")
    else .again { st with openingToolRetries := st.openingToolRetries + 1 }
  else match r.answerOf message with
    | .error e =>
      if isRaised "FinalAnswerValidationError" e ∧ st.finalAnswerRetries < maxFinalAnswerRetries then
        .again { st with finalAnswerRetries := st.finalAnswerRetries + 1 }
      else .raises e
    | .ok answer => match r.ensureEnglish answer with
      | .error e => .raises e
      | .ok () => .answer answer

/-- The turn of a message with tool calls. -/
def callTurn (st : LoopState) (calls : List ToolCall) : TurnOutcome :=
  match calls.find? fun call => call.callId ∈ st.seenCallIds with
  | some call => .raises (orchestrationError ("model reused tool call ID: " ++ call.callId))
  | none =>
    if (calls.map (·.callId)).Nodup then
      match executeAll r.registry r.tenantId st.executions.length calls with
      | .error e => .raises e
      | .ok executions => .again
        { st with
          executions := st.executions ++ executions
          seenCallIds := st.seenCallIds ++ calls.map (·.callId) }
    else .raises (orchestrationError "model emitted duplicate tool call IDs")

/-- One turn of the loop. -/
def turn (st : LoopState) (response : Except Exc Message) : TurnOutcome :=
  match response with
  | .error e => .raises e
  | .ok message => match parseToolCalls r.text message with
    | .error e =>
      if isRaised "ToolCallParseError" e ∧ r.forcingToolCall st ∧ st.executions.isEmpty ∧
          st.openingToolRetries < maxOpeningToolRetries then
        .again { st with openingToolRetries := st.openingToolRetries + 1 }
      else .raises e
    | .ok [] => r.answerTurn st message
    | .ok calls => r.callTurn st calls

/-- The loop from turn `i` on: the answer with the executions before it. -/
def runTurns (responses : ℕ → Except Exc Message) :
    ℕ → ℕ → LoopState → Except Exc (Value × List ToolExecution)
  | 0, _, _ => .error (orchestrationError
      ("agent exceeded the " ++ toString r.maxModelCalls ++ "-call orchestration limit"))
  | turns + 1, i, st =>
    match r.turn st (responses i) with
    | .raises e => .error e
    | .answer value => .ok (value, st.executions)
    | .again st' => runTurns responses turns (i + 1) st'

/-- The names in `unknown_required`. -/
def unknownRequired : List String :=
  r.requiredNames.filter fun name => (r.registry.get? name).isNone

/-- `run_messages`: the `answer` and the `tool_calls` of its result. -/
def runMessages (responses : ℕ → Except Exc Message) : Except Exc (Value × List ToolExecution) := do
  r.precheck
  if r.unknownRequired.isEmpty then r.runTurns responses r.maxModelCalls 0 .start
  else .error (.valueError "required tools are not registered")

/-! ## Turns that are reached -/

/-- The turns from turn `i` on that a run gets to, with their responses. -/
def turnsFrom (responses : ℕ → Except Exc Message) :
    ℕ → ℕ → LoopState → List (LoopState × Except Exc Message)
  | 0, _, _ => []
  | turns + 1, i, st =>
    (st, responses i) :: match r.turn st (responses i) with
      | .again st' => turnsFrom responses turns (i + 1) st'
      | _ => []

/-- The turns of a run. -/
def turnsOf (responses : ℕ → Except Exc Message) : List (LoopState × Except Exc Message) :=
  match r.precheck with
  | .error _ => []
  | .ok () =>
    if r.unknownRequired.isEmpty then r.turnsFrom responses r.maxModelCalls 0 .start else []

/-- The response is a message without tool calls whose content passes for an answer, and no opening
call is awaited. -/
def IsAnswer (st : LoopState) (response : Except Exc Message) : Prop :=
  ∃ message answer, response = .ok message ∧ parseToolCalls r.text message = .ok [] ∧
    r.awaitsOpeningCall st = false ∧ r.answerOf message = .ok answer ∧
      r.ensureEnglish answer = .ok ()

/-- The model does not answer while a required tool has not been executed. -/
def Obeys (t : LoopState × Except Exc Message) : Prop :=
  (∃ name ∈ r.requiredNames, ∀ execution ∈ t.1.executions, execution.name ≠ name) →
    ¬ r.IsAnswer t.1 t.2

/-- Every required tool is among the executions. -/
def AllExecuted (executions : List ToolExecution) : Prop :=
  ∀ name ∈ r.requiredNames, ∃ execution ∈ executions, execution.name = name

variable {r}

variable {st : LoopState} {message : Message}

theorem answerTurn_eq_answer_iff {answer : Value} :
    r.answerTurn st message = .answer answer ↔ r.awaitsOpeningCall st = false ∧
      r.answerOf message = .ok answer ∧ r.ensureEnglish answer = .ok () := by
  rw [answerTurn]
  cases r.awaitsOpeningCall st with
  | true =>
    rw [if_pos rfl]
    split <;> simp
  | false =>
    simp only [Bool.false_eq_true, if_false, true_and]
    cases r.answerOf message with
    | error e =>
      dsimp only
      split <;> simp
    | ok value =>
      dsimp only
      cases henglish : r.ensureEnglish value with
      | error e =>
        simp only [reduceCtorEq, Except.ok.injEq, false_iff, not_and]
        rintro rfl
        simp [henglish]
      | ok u =>
        simp only [TurnOutcome.answer.injEq, Except.ok.injEq]
        constructor
        · rintro rfl
          exact ⟨rfl, henglish⟩
        · exact And.left

/-- Only a turn with calls adds executions, and only one without gives the answer. -/
theorem callTurn_ne_answer (st : LoopState) (calls : List ToolCall) (answer : Value) :
    r.callTurn st calls ≠ .answer answer := by
  rw [callTurn]
  split
  · exact TurnOutcome.noConfusion
  · split
    · split <;> exact TurnOutcome.noConfusion
    · exact TurnOutcome.noConfusion

/-- A turn gives an answer when its response is one. -/
theorem exists_answer_iff (st : LoopState) (response : Except Exc Message) :
    (∃ answer, r.turn st response = .answer answer) ↔ r.IsAnswer st response := by
  cases response with
  | error e => exact iff_of_false (fun ⟨_, h⟩ => nomatch h) fun ⟨_, _, h, _⟩ => nomatch h
  | ok message =>
    cases hparse : parseToolCalls r.text message with
    | error e =>
      refine iff_of_false (fun ⟨answer, h⟩ => ?_) fun ⟨message', _, hm, hp, _⟩ => ?_
      · simp only [turn, hparse] at h
        split at h <;> cases h
      · cases hm
        rw [hparse] at hp
        cases hp
    | ok calls =>
      cases calls with
      | nil =>
        simp only [turn, hparse, answerTurn_eq_answer_iff]
        constructor
        · rintro ⟨answer, h⟩
          exact ⟨message, answer, rfl, hparse, h⟩
        · rintro ⟨message', answer, hm, -, h⟩
          cases hm
          exact ⟨answer, h⟩
      | cons call calls =>
        refine iff_of_false (fun ⟨answer, h⟩ => ?_) ?_
        · simp only [turn, hparse] at h
          exact callTurn_ne_answer st _ answer h
        · rintro ⟨message', _, hm, hp, _⟩
          cases hm
          rw [hparse] at hp
          cases hp

theorem allExecuted_iff {executions : List ToolExecution} : r.AllExecuted executions ↔
    ¬ ∃ name ∈ r.requiredNames, ∀ execution ∈ executions, execution.name ≠ name := by
  simp only [AllExecuted]
  push Not
  rfl

/-- The turns from turn `i` on: the answer they come to has every required tool behind it exactly
when the model obeys in each of them. -/
theorem runTurns_iff (responses : ℕ → Except Exc Message) (turns i : ℕ) (st : LoopState) :
    (∀ result, r.runTurns responses turns i st = .ok result → r.AllExecuted result.2) ↔
      ∀ t ∈ r.turnsFrom responses turns i st, r.Obeys t := by
  induction turns generalizing i st with
  | zero => exact iff_of_true (fun _ h => nomatch h) fun _ h => nomatch h
  | succ turns ih =>
    rw [runTurns, turnsFrom, List.forall_mem_cons]
    have hanswer := exists_answer_iff (r := r) st (responses i)
    cases hturn : r.turn st (responses i) with
    | raises e =>
      refine iff_of_true (fun _ h => nomatch h) ⟨fun _ h => ?_, fun _ h => nomatch h⟩
      obtain ⟨answer, ha⟩ := hanswer.mpr h
      rw [hturn] at ha
      cases ha
    | answer value =>
      have his : r.IsAnswer st (responses i) := hanswer.mp ⟨value, hturn⟩
      dsimp only
      constructor
      · intro h
        refine ⟨fun hmissing _ => ?_, fun _ h => nomatch h⟩
        exact allExecuted_iff.mp (h (value, st.executions) rfl) hmissing
      · rintro ⟨hobeys, -⟩ result hresult
        rw [← Except.ok.inj hresult]
        exact allExecuted_iff.mpr fun hmissing => hobeys hmissing his
    | again st' =>
      dsimp only
      rw [ih]
      refine (and_iff_right fun _ h => ?_).symm
      obtain ⟨answer, ha⟩ := hanswer.mpr h
      rw [hturn] at ha
      cases ha

/-! ## Where executions come from -/

/-- Every execution is one of the registry, of some call. -/
def Genuine (r : RunRequest) (executions : List ToolExecution) : Prop :=
  ∀ execution ∈ executions, ∃ n call, execute r.registry r.tenantId n call = .ok execution

variable {calls : List ToolCall}

theorem genuine_executeAll {n : ℕ} {executions : List ToolExecution}
    (h : executeAll r.registry r.tenantId n calls = .ok executions) : r.Genuine executions := by
  induction calls generalizing n executions with
  | nil =>
    cases h
    exact fun _ hm => nomatch hm
  | cons call rest ih =>
    rw [executeAll] at h
    cases hcall : execute r.registry r.tenantId n call with
    | error e =>
      rw [hcall] at h
      cases h
    | ok first =>
      cases hrest : executeAll r.registry r.tenantId (n + 1) rest with
      | error e =>
        rw [hcall, hrest] at h
        cases h
      | ok others =>
        rw [hcall, hrest] at h
        cases h
        intro execution hm
        rcases List.mem_cons.mp hm with rfl | hm
        · exact ⟨n, call, hcall⟩
        · exact ih hrest execution hm

variable {st' : LoopState}

theorem genuine_answerTurn (h : r.answerTurn st message = .again st')
    (hst : r.Genuine st.executions) : r.Genuine st'.executions := by
  unfold answerTurn at h
  split at h
  · split at h
    · cases h
    · cases h
      exact hst
  · split at h
    · split at h
      · cases h
        exact hst
      · cases h
    · split at h <;> cases h

theorem genuine_callTurn (h : r.callTurn st calls = .again st') (hst : r.Genuine st.executions) :
    r.Genuine st'.executions := by
  unfold callTurn at h
  split at h
  · cases h
  · split at h
    · split at h
      · cases h
      · rename_i executions hexecutions
        cases h
        intro execution hm
        rcases List.mem_append.mp hm with hm | hm
        · exact hst execution hm
        · exact genuine_executeAll hexecutions execution hm
    · cases h

theorem genuine_turn {response : Except Exc Message} (h : r.turn st response = .again st')
    (hst : r.Genuine st.executions) : r.Genuine st'.executions := by
  unfold turn at h
  split at h
  · cases h
  · split at h
    · split at h
      · cases h
        exact hst
      · cases h
    · exact genuine_answerTurn h hst
    · exact genuine_callTurn h hst

variable {responses : ℕ → Except Exc Message} {result : Value × List ToolExecution}

theorem genuine_runTurns {turns i : ℕ} (h : r.runTurns responses turns i st = .ok result)
    (hst : r.Genuine st.executions) : r.Genuine result.2 := by
  induction turns generalizing i st with
  | zero => cases h
  | succ turns ih =>
    rw [runTurns] at h
    cases hturn : r.turn st (responses i) with
    | raises e =>
      rw [hturn] at h
      cases h
    | answer value =>
      rw [hturn] at h
      cases h
      exact hst
    | again st' =>
      rw [hturn] at h
      exact ih h (genuine_turn hturn hst)

/-- The executions of a run are executions of the registry. -/
theorem genuine_runMessages (h : r.runMessages responses = .ok result) : r.Genuine result.2 := by
  unfold runMessages at h
  cases hpre : r.precheck with
  | error e =>
    rw [hpre] at h
    cases h
  | ok u =>
    rw [hpre] at h
    dsimp only [bind, Except.bind] at h
    split at h
    · exact genuine_runTurns h fun _ hm => nomatch hm
    · cases h

end RunRequest

open RunRequest

/-- A run that must look up the expiry risk. -/
def expiryRequest : RunRequest where
  registry := Dict.empty.set "get_expiry_risk"
    ⟨["tenant_id", "sku"], fun _ arguments => .ok (arguments, .dict [("risk", .str "high")])⟩
  requiredToolNames := ["get_expiry_risk"]
  requireToolCallFirst := false
  maxModelCalls := 4
  tenantId := "shop"
  text := ⟨fun s => if s = "[]" then some (.list []) else none, fun _ => [], fun _ => [],
    fun _ => true⟩
  precheck := .ok ()
  validateAnswer := fun s =>
    if s = "[]" then .ok (.list []) else .error (finalAnswerError "final answer is not valid JSON")
  ensureEnglish := fun _ => .ok ()

end ShelfWise.Inference
