import ShelfWise.Inference.Orchestration
import ShelfWise.Py.Json

/-!
# The inference client

`OpenAICompatibleInferenceClient.chat_completions` sends a request at most twice and hands the recorder
one run, for whatever the provider does within the kinds of failure that it translates
(`chatCompletions_handled_iff`). The decoding of JSON and of error bodies is a parameter, and so are the
clock and the exchanges with the provider.
-/

namespace ShelfWise.Inference.Client

open Py

/-! ## Texts -/

mutual

/-- `json.dumps(v, sort_keys=True)`. -/
def jsonLine : Value → String
  | .none => "null"
  | .bool b => if b then "true" else "false"
  | .int n => toString n
  | .float f => jsonFloat f
  | .str s => jsonText s
  | .list items => "[" ++ ", ".intercalate (jsonLines items) ++ "]"
  | .dict items => "\x7b" ++ ", ".intercalate ((sortedBy Prod.fst (jsonItems items)).map fun e =>
      jsonText e.1 ++ ": " ++ e.2) ++ "\x7d"

def jsonLines : List Value → List String
  | [] => []
  | v :: rest => jsonLine v :: jsonLines rest

def jsonItems : List (String × Value) → List (String × String)
  | [] => []
  | (k, v) :: rest => (k, jsonLine v) :: jsonItems rest

end

/-- `json.dumps(v, sort_keys=True)`, which refuses an integer that is too long. -/
def dumpsSorted (v : Value) : Except Exc String :=
  if v.printable then .ok (jsonLine v) else .error Value.digitsError

/-- The folded form of a character, as far as a comparison with ASCII text can tell. -/
def casefoldChar (c : Char) : List Char :=
  if c.toNat = 0xdf ∨ c.toNat = 0x1e9e then ['s', 's']
  else if c.toNat = 0x17f then ['s']
  else if c.toNat = 0xfb00 then ['f', 'f']
  else if c.toNat = 0xfb01 then ['f', 'i']
  else if c.toNat = 0xfb02 then ['f', 'l']
  else if c.toNat = 0xfb03 then ['f', 'f', 'i']
  else if c.toNat = 0xfb04 then ['f', 'f', 'l']
  else if c.toNat = 0xfb05 ∨ c.toNat = 0xfb06 then ['s', 't']
  else lowerChar c

/-- `s.casefold()`, for text that is then compared with ASCII text. -/
def casefold (s : String) : String := String.ofList (s.toList.flatMap casefoldChar)

/-- `_estimate_tokens`. -/
def estimateTokens (text : String) : ℤ := max 1 (((text.length : ℤ) + 3) / 4)

/-- `_MAX_RECORDED_CHARS`. -/
def maxRecordedChars : ℕ := 4000

/-- `_truncate`. -/
def truncate (text : String) : String :=
  if text.length ≤ maxRecordedChars then text
  else "...[truncated " ++ toString (text.length - maxRecordedChars) ++ " chars]..." ++
    String.ofList (text.toList.drop (text.length - maxRecordedChars))

/-! ## The provider -/

/-- What `json.loads` raises: a `JSONDecodeError`, a `ValueError` for an integer that is too long, or a
`RecursionError`. -/
inductive JsonFault where
  | decodeError (message : String)
  | digits
  | recursion
deriving DecidableEq

/-- The decoders of the standard library that a response goes through. -/
structure Decoders where
  loads : String → Except JsonFault Value
  decodeReplacing : ByteArray → String

/-- What the transport raises while it waits or reads: an `OSError` such as a timeout or a reset, or
another exception such as one of `http.client`. -/
inductive Fault where
  | osError (className message : String)
  | otherError (className message : String)
deriving DecidableEq

/-- The exception of a fault. -/
def Fault.exc : Fault → Exc
  | .osError className message => .raised className message
  | .otherError className message => .raised className message

/-- What the provider does with a request: it is not reached, it refuses with a status that is no
success, the wait for the head of its response breaks off, or it answers; a body is read or not. -/
inductive Exchange where
  | unreachable (reason : String)
  | refused (code : ℕ) (reason : String) (body : Except Fault ByteArray)
  | broken (fault : Fault)
  | answered (body : Except Fault ByteArray)

/-- What an attempt raises: a `URLError`, an `HTTPError`, an `InferenceError`, a `JSONDecodeError` or
anything else. -/
inductive Failure where
  | url (reason : String)
  | http (code : ℕ) (reason : String) (body : Except Fault ByteArray)
  | inference (message : String)
  | json (message : String)
  | other (exc : Exc)

/-- `InferenceError`. -/
def inferenceError (message : String) : Exc := .raised "InferenceError" message

/-- `_is_transient_provider_error`, of the exceptions that it is asked about. -/
def Failure.isTransient : Failure → Bool
  | .url _ => true
  | .http code _ _ => decide (code ∈ [429, 500, 502, 503, 504])
  | .inference message => contains (casefold message) "error sentinel"
  | .json _ => false
  | .other _ => false

/-- `str(exc)`, of the exceptions that are translated. -/
def Failure.text : Failure → String
  | .url reason => "<urlopen error " ++ reason ++ ">"
  | .http code reason _ => "HTTP Error " ++ toString code ++ ": " ++ reason
  | .inference message => message
  | .json message => message
  | .other _ => ""

/-- `_is_provider_error_sentinel`. -/
def isProviderErrorSentinel (content : String) : Bool :=
  decide (casefold (strip content) ∈
    ["bad gateway", "gateway timeout", "internal server error", "service unavailable"])

/-- `_extract_message`. -/
def extractMessage (raw : Value) (allowToolCalls : Bool) : Except Failure (Message × String) :=
  match raw.attrGet "choices" with
  | .error exc => .error (.other exc)
  | .ok (.list (.dict choice :: _)) => match Value.get choice "message" with
    | .dict message =>
      let hasToolCall := (Value.get message "tool_calls").truthy ||
        decide ((Value.get message "function_call").typeName = "dict")
      if (Value.get message "content").typeName ≠ "str" ∧ ¬ (allowToolCalls ∧ hasToolCall) then
        .error (.inference "Inference response missing text content")
      else .ok (Value.setDefault message "role" (.str "assistant"),
        match Value.get choice "finish_reason" with
        | .str reason => reason
        | _ => "")
    | _ => .error (.inference "Inference response missing message")
  | .ok (.list (_ :: _)) => .error (.inference "Inference response contains an invalid choice")
  | .ok _ => .error (.inference "Inference response missing choices")

/-- The `content` of a message, or no text. -/
def contentOf (message : Message) : String :=
  match Value.get message "content" with
  | .str content => content
  | _ => ""

/-- What an attempt that succeeds leaves. -/
structure Answer where
  raw : Value
  message : Message
  finishReason : String
  content : String

/-- The exception of a text that `json.loads` refuses. -/
def JsonFault.failure : JsonFault → Failure
  | .decodeError message => .json message
  | .digits => .other Value.digitsError
  | .recursion => .other (.raised "RecursionError" "maximum recursion depth exceeded")

/-- `json.loads(body.decode("utf-8"))`. -/
def readJson (decoders : Decoders) (body : ByteArray) : Except Failure Value :=
  match String.fromUTF8? body with
  | none => .error (.other (.raised "UnicodeDecodeError" "'utf-8' codec can't decode the body"))
  | some text => (decoders.loads text).mapError JsonFault.failure

/-- The response of an exchange. -/
def Exchange.read (decoders : Decoders) : Exchange → Except Failure Value
  | .unreachable reason => .error (.url reason)
  | .refused code reason body => .error (.http code reason body)
  | .broken fault => .error (.other fault.exc)
  | .answered (.error fault) => .error (.other fault.exc)
  | .answered (.ok body) => readJson decoders body

/-- What is made of a response. -/
def accept (allowToolCalls : Bool) (raw : Value) : Except Failure Answer :=
  match extractMessage raw allowToolCalls with
  | .error failure => .error failure
  | .ok (message, finishReason) =>
    if isProviderErrorSentinel (contentOf message) then
      .error (.inference "Inference provider returned an error sentinel")
    else .ok ⟨raw, message, finishReason, contentOf message⟩

/-- An attempt. -/
def tryOnce (decoders : Decoders) (allowToolCalls : Bool) (exchange : Exchange) :
    Except Failure Answer := do
  accept allowToolCalls (← exchange.read decoders)

/-! ## The call -/

/-- `ProviderKind`. -/
inductive ProviderKind where
  | fireworks | vllmMi300x | openaiCompatible | offline
deriving DecidableEq

/-- `provider.value`. -/
def ProviderKind.value : ProviderKind → String
  | .fireworks => "fireworks"
  | .vllmMi300x => "vllm_mi300x"
  | .openaiCompatible => "openai_compatible"
  | .offline => "offline"

/-- `InferenceConfig`, with the fields that a call reads besides the address. -/
structure InferenceConfig where
  provider : ProviderKind
  routineModel : String
  strongModel : String
  apiKey : String
  timeoutSeconds : ℤ
  routineApiKey : String
  strongApiKey : String

/-- `STRONG_AGENT_NAMES`. -/
def strongAgentNames : List String := ["critic", "executive", "orchestrator"]

/-- `InferenceConfig.model_for_agent`. -/
def InferenceConfig.modelForAgent (self : InferenceConfig) (agent : String) : String :=
  if agent ∈ strongAgentNames then self.strongModel else self.routineModel

/-- `InferenceConfig.api_key_for_agent`. -/
def InferenceConfig.apiKeyForAgent (self : InferenceConfig) (agent : String) : String :=
  let own := if agent ∈ strongAgentNames then self.strongApiKey else self.routineApiKey
  if own = "" then self.apiKey else own

/-- The arguments of `chat_completions`. -/
structure ChatCall where
  agent : String
  messages : List Message
  tools : List Message := []
  toolChoice : Option Value := none
  responseFormat : Option Message := none
  temperature : PyFloat
  maxTokens : ℤ := 400
  tenantId : String := "default"
  correlationId : Option String := none
  promptVersion : String := "v1"
  schemaVersion : String := "v1"
  model : Option String := none
  timeoutSeconds : Option ℚ := none

/-- What happens around a call: the identifier of the run, the seconds that have passed when an attempt
begins and when the run is recorded, and what the provider does at each attempt. -/
structure Surroundings where
  runId : String
  elapsed : ℕ → ℚ
  elapsedAtEnd : ℚ
  exchange : ℕ → Exchange

/-- `InferenceResult`. -/
structure InferenceResult where
  provider : String
  model : String
  content : String
  usedNetwork : Bool
  inputTokens : ℤ
  outputTokens : ℤ
  latencyMs : ℤ
  runId : String
  correlationId : String
  status : String := "ok"
  raw : Option Value := none
  message : Option Message := none
  finishReason : String := ""
  fallback : Bool := false

/-- A recorded run; `shown` is its `response_text`, and its `error_detail` when it is an error. -/
structure RunRecord where
  id : String
  tenantId : String
  correlationId : String
  agent : String
  model : String
  provider : String
  promptVersion : String
  schemaVersion : String
  inputTokens : ℤ
  outputTokens : ℤ
  latencyMs : ℤ
  status : String
  userMessage : String
  shown : String

/-- How a call ends: what it returns or raises, how many requests it sends, and what the recorder is
handed. -/
structure Run where
  outcome : Except Exc InferenceResult
  requests : ℕ
  recorded : List RunRecord

/-- The text of a content. -/
def contentText : Value → Except Exc String
  | .str content => .ok content
  | content => dumpsSorted content

/-- `_last_user_text`. -/
def lastUserText (messages : List Message) : Except Exc String :=
  match messages.reverse.find? fun message => Value.get message "role" = .str "user" with
  | none => .ok ""
  | some message => contentText (Value.getD message "content" (.str ""))

/-- `_estimate_payload_tokens`. -/
def estimatePayloadTokens (call : ChatCall) : Except Exc ℤ :=
  (dumpsSorted (.dict ([("messages", .list (call.messages.map .dict))] ++
    (if call.tools = [] then [] else [("tools", .list (call.tools.map .dict))]) ++
    match call.responseFormat with
    | none => []
    | some format => if format = [] then [] else [("response_format", .dict format)]))).map
      estimateTokens

/-- The `payload` of a request. -/
def payloadOf (model : String) (call : ChatCall) : Value :=
  .dict ([("model", .str model), ("temperature", .float call.temperature),
      ("max_tokens", .int call.maxTokens), ("messages", .list (call.messages.map .dict))] ++
    (if call.tools = [] then [] else [("tools", .list (call.tools.map .dict)),
      ("tool_choice", (call.toolChoice.getD .none).orElse (.str "auto"))]) ++
    match call.responseFormat with
    | none => []
    | some format => [("response_format", .dict format)])

/-- `_non_negative_int`. -/
def nonNegativeInt (value : Value) (fallback : ℤ) : Except Exc ℤ :=
  value.intOrNone.map fun parsed => (parsed.map (max 0)).getD fallback

/-- The counts in the `usage` of a response. -/
def countsOf (usage : Value) (fallbackInput fallbackOutput : ℤ) : Except Exc (ℤ × ℤ) :=
  match usage with
  | .dict usage => do
    let inputTokens ← nonNegativeInt (Value.get usage "prompt_tokens") fallbackInput
    let outputTokens ← nonNegativeInt (Value.get usage "completion_tokens") fallbackOutput
    .ok (inputTokens, outputTokens)
  | _ => .ok (fallbackInput, fallbackOutput)

/-- `_usage_from_raw`. -/
def usageFromRaw (raw : Value) (fallbackInput fallbackOutput : ℤ) : Except Exc (ℤ × ℤ) := do
  countsOf (← raw.attrGet "usage") fallbackInput fallbackOutput

/-- `_provider_error_detail`. -/
def providerErrorDetail (decoders : Decoders) (failure : Failure) : Except Exc String :=
  match failure with
  | .http _ _ (.ok bytes) =>
    let words := ((decoders.decodeReplacing (bytes.extract 0 512)).toList.splitOnP isSpace).filter
      fun word => !word.isEmpty
    let safeBody := " ".intercalate (words.map String.ofList)
    .ok (if safeBody = "" then failure.text else failure.text ++ ": " ++ safeBody)
  | .http _ _ (.error (.otherError className message)) => .error (.raised className message)
  | _ => .ok failure.text

/-- The loop over the attempts: how many requests are sent, and how it ends. The last attempt always
breaks off the loop. -/
def attemptLoop (decoders : Decoders) (allowToolCalls : Bool) (timeout : ℚ)
    (around : Surroundings) : List ℕ → ℕ × Except Failure Answer
  | [] => (0, .error (.other (.raised "UnboundLocalError" "raw")))
  | attempt :: rest =>
    if timeout - around.elapsed attempt ≤ 0 then
      (0, .error (.inference "Inference provider request timed out"))
    else match tryOnce decoders allowToolCalls (around.exchange attempt) with
      | .ok answer => (1, .ok answer)
      | .error failure =>
        if attempt = 0 ∧ failure.isTransient then
          let next := attemptLoop decoders allowToolCalls timeout around rest
          (next.1 + 1, next.2)
        else (1, .error failure)

section Call

variable (decoders : Decoders) (config : InferenceConfig) (call : ChatCall) (around : Surroundings)

/-- `effective_model`. -/
def effectiveModel : String :=
  match call.model with
  | some model => if model = "" then config.modelForAgent call.agent else model
  | none => config.modelForAgent call.agent

/-- `effective_correlation_id`. -/
def effectiveCorrelationId : String :=
  match call.correlationId with
  | some id => if id = "" then around.runId else id
  | none => around.runId

/-- `effective_timeout`. -/
def effectiveTimeout : ℚ := call.timeoutSeconds.getD config.timeoutSeconds

/-- `_elapsed_ms`. -/
def elapsedMs : ℤ := max 0 ((around.elapsedAtEnd * 1000).num.tdiv (around.elapsedAtEnd * 1000).den)

/-- The result of a call. -/
def resultOf (inputTokens outputTokens : ℤ) (usedNetwork : Bool) (answer : Answer)
    (raw : Option Value) : InferenceResult :=
  { provider := config.provider.value
    model := effectiveModel config call
    content := answer.content
    usedNetwork := usedNetwork
    inputTokens := inputTokens
    outputTokens := outputTokens
    latencyMs := elapsedMs around
    runId := around.runId
    correlationId := effectiveCorrelationId call around
    raw := raw
    message := some answer.message
    finishReason := answer.finishReason }

/-- `_record_run`. -/
def recordRun (user : String) (result : InferenceResult) : RunRecord :=
  { id := result.runId
    tenantId := call.tenantId
    correlationId := result.correlationId
    agent := call.agent
    model := result.model
    provider := result.provider
    promptVersion := call.promptVersion
    schemaVersion := call.schemaVersion
    inputTokens := result.inputTokens
    outputTokens := result.outputTokens
    latencyMs := result.latencyMs
    status := result.status
    userMessage := truncate user
    shown := truncate result.content }

/-- `_record_error`. -/
def recordError (user : String) (inputTokens : ℤ) (errorDetail : String) : RunRecord :=
  { id := around.runId
    tenantId := call.tenantId
    correlationId := effectiveCorrelationId call around
    agent := call.agent
    model := effectiveModel config call
    provider := config.provider.value
    promptVersion := call.promptVersion
    schemaVersion := call.schemaVersion
    inputTokens := inputTokens
    outputTokens := 0
    latencyMs := elapsedMs around
    status := "error"
    userMessage := truncate user
    shown := truncate errorDetail }

/-- A run that records a result. -/
def succeeded (user : String) (requests : ℕ) (result : InferenceResult) : Run :=
  ⟨.ok result, requests, [recordRun call user result]⟩

/-- A run that records an error and raises an `InferenceError`. -/
def failed (user : String) (inputTokens : ℤ) (requests : ℕ) (errorDetail message : String) : Run :=
  ⟨.error (inferenceError message), requests,
    [recordError config call around user inputTokens errorDetail]⟩

/-- A run that ends in an exception without a record. -/
def escaped (requests : ℕ) (exc : Exc) : Run := ⟨.error exc, requests, []⟩

/-- A failure that is recorded and raised as an `InferenceError`. -/
def translate (user : String) (inputTokens : ℤ) (requests : ℕ) (failure : Failure) : Run :=
  match providerErrorDetail decoders failure with
  | .error exc => escaped requests exc
  | .ok errorDetail => failed config call around user inputTokens requests errorDetail
      "Inference provider request failed"

/-- What follows the attempts. -/
def settle (user : String) (inputTokens : ℤ) : ℕ × Except Failure Answer → Run
  | (requests, .ok answer) =>
    match usageFromRaw answer.raw inputTokens (estimateTokens answer.content) with
    | .error exc => escaped requests exc
    | .ok usage => succeeded call user requests
        (resultOf config call around usage.1 usage.2 true answer (some answer.raw))
  | (requests, .error (.other exc)) => escaped requests exc
  | (requests, .error failure) =>
    translate decoders config call around user inputTokens requests failure

/-- `chat_completions`, of a client with a recorder. -/
def chatCompletions : Run :=
  match lastUserText call.messages with
  | .error exc => escaped 0 exc
  | .ok user => match estimatePayloadTokens call with
    | .error exc => escaped 0 exc
    | .ok inputTokens =>
      if config.provider = .offline then
        let content := "offline: deterministic ShelfWise cascade is active"
        let answer : Answer := ⟨.none, [("role", .str "assistant"), ("content", .str content)], "",
          content⟩
        succeeded call user 0
          (resultOf config call around inputTokens (estimateTokens content) false answer none)
      else if config.apiKeyForAgent call.agent = "" then
        failed config call around user inputTokens 0
          "LLM_API_KEY is required when LLM_BASE_URL is configured"
          "LLM_API_KEY is required when LLM_BASE_URL is configured"
      else if call.tools = [] ∧ call.toolChoice ≠ none then
        escaped 0 (inferenceError "tool_choice requires at least one tool")
      else if (payloadOf (effectiveModel config call) call).printable = false then
        escaped 0 Value.digitsError
      else settle decoders config call around user inputTokens
        (attemptLoop decoders (decide (call.tools ≠ [])) (effectiveTimeout config call) around [0, 1])

end Call

/-! ## What is promised of a call -/

/-- A configured live client: it has a provider, and a key for every agent. -/
structure LiveConfig extends InferenceConfig where
  live : provider ≠ .offline
  keyed : ∀ agent, toInferenceConfig.apiKeyForAgent agent ≠ ""

/-- At most two requests, and one record of a result or of an `InferenceError`. -/
structure Run.Handled (run : Run) : Prop where
  requests : run.requests ≤ 2
  recorded : ∃ record, run.recorded = [record] ∧
    ((∃ result, run.outcome = .ok result ∧ record.status = "ok") ∨
      ∃ message, run.outcome = .error (inferenceError message) ∧ record.status = "error")

section Conditions

variable (decoders : Decoders) (allowToolCalls : Bool)

/-- The exchange is answered with a body that is the JSON text of a value. -/
def Answers (exchange : Exchange) (raw : Value) : Prop :=
  ∃ body text, exchange = .answered (.ok body) ∧ String.fromUTF8? body = some text ∧
    decoders.loads text = .ok raw

/-- A response with a message that is the error text of a proxy. -/
def IsSentinel (raw : Value) : Prop :=
  ∃ message finishReason, extractMessage raw allowToolCalls = .ok (message, finishReason) ∧
    isProviderErrorSentinel (contentOf message) = true

/-- The exchange ends in a response, or in an exception of the kinds that are caught: the provider is not
reached, it refuses, or it answers with a body that is read, is UTF-8, and is no JSON at all or an
object. -/
def Understood : Exchange → Prop
  | .unreachable _ => True
  | .refused _ _ _ => True
  | .broken _ => False
  | .answered body => ∃ bytes text, body = .ok bytes ∧ String.fromUTF8? bytes = some text ∧
      ((∃ message, decoders.loads text = .error (.decodeError message)) ∨
        ∃ items, decoders.loads text = .ok (.dict items))

/-- The request is sent again after the exchange. -/
def Retried : Exchange → Prop
  | .unreachable _ => True
  | .refused code _ _ => code ∈ [429, 500, 502, 503, 504]
  | .broken _ => False
  | .answered body => ∃ raw, Answers decoders (.answered body) raw ∧ IsSentinel allowToolCalls raw

/-- The counts of tokens in a response are no infinities. -/
def CountsTokens (raw : Value) : Prop :=
  ∀ items usage, raw = .dict items → Value.get items "usage" = .dict usage →
    ∀ key ∈ ["prompt_tokens", "completion_tokens"], ∀ count negative,
      Value.get usage key = .float count → count.value ≠ .infinity negative

/-- Nothing goes wrong once the exchange is the last one: the body of a refusal is read or fails with an
`OSError`, and a response that is taken has counts of tokens that are no infinities. -/
def Settles (exchange : Exchange) : Prop :=
  (∀ code reason className message,
      exchange ≠ .refused code reason (.error (.otherError className message))) ∧
    ∀ raw message finishReason, Answers decoders exchange raw →
      extractMessage raw allowToolCalls = .ok (message, finishReason) →
        isProviderErrorSentinel (contentOf message) = false → CountsTokens raw

/-- The provider fails in the ways that are translated. -/
def Translated (timeout : ℚ) (around : Surroundings) : Prop :=
  0 < timeout - around.elapsed 0 →
    (¬ Retried decoders allowToolCalls (around.exchange 0) →
      Understood decoders (around.exchange 0) ∧
        Settles decoders allowToolCalls (around.exchange 0)) ∧
    (Retried decoders allowToolCalls (around.exchange 0) → 0 < timeout - around.elapsed 1 →
      Understood decoders (around.exchange 1) ∧
        Settles decoders allowToolCalls (around.exchange 1))

end Conditions

/-- A request that can be sent: a choice of tools comes with tools, and every integer in the payload can
be printed. -/
def Sendable (config : InferenceConfig) (call : ChatCall) : Prop :=
  (call.tools = [] → call.toolChoice = none) ∧
    (payloadOf (effectiveModel config call) call).printable = true

/-! ## One attempt -/

/-- An attempt whose end is recorded. -/
def Good (decoders : Decoders) (inputTokens : ℤ) : Except Failure Answer → Prop
  | .ok answer =>
    ∃ usage, usageFromRaw answer.raw inputTokens (estimateTokens answer.content) = .ok usage
  | .error (.other _) => False
  | .error failure => ∃ detail, providerErrorDetail decoders failure = .ok detail

/-- Only an infinity is no integer, no text and nothing else that is passed over. -/
theorem intOrNone_eq_ok_iff (value : Value) : (∃ parsed, value.intOrNone = .ok parsed) ↔
    ∀ count negative, value = .float count → count.value ≠ .infinity negative := by
  cases value with
  | float f =>
    cases hf : f.value with
    | infinity negative =>
      refine iff_of_false ?_ fun h => h f negative rfl hf
      rintro ⟨parsed, hparsed⟩
      simp [Value.intOrNone, Value.toInt, hf] at hparsed
    | finite q =>
      refine iff_of_true ⟨some (if q < 0 then -(-q).floor else q.floor),
        by simp [Value.intOrNone, Value.toInt, hf]⟩ ?_
      intro count negative heq hvalue
      cases heq
      rw [hf] at hvalue
      cases hvalue
    | nan =>
      refine iff_of_true ⟨none, by simp [Value.intOrNone, Value.toInt, hf]⟩ ?_
      intro count negative heq hvalue
      cases heq
      rw [hf] at hvalue
      cases hvalue
  | str s =>
    refine iff_of_true ?_ fun count negative heq => by cases heq
    cases hs : Value.intOfText s with
    | none => exact ⟨none, by simp [Value.intOrNone, Value.toInt, hs]⟩
    | some n => exact ⟨some n, by simp [Value.intOrNone, Value.toInt, hs]⟩
  | none => exact iff_of_true ⟨_, rfl⟩ fun count negative heq => by cases heq
  | bool b => exact iff_of_true ⟨_, rfl⟩ fun count negative heq => by cases heq
  | int n => exact iff_of_true ⟨_, rfl⟩ fun count negative heq => by cases heq
  | list items => exact iff_of_true ⟨_, rfl⟩ fun count negative heq => by cases heq
  | dict items => exact iff_of_true ⟨_, rfl⟩ fun count negative heq => by cases heq

theorem nonNegativeInt_eq_ok_iff (value : Value) (fallback : ℤ) :
    (∃ n, nonNegativeInt value fallback = .ok n) ↔
      ∀ count negative, value = .float count → count.value ≠ .infinity negative := by
  rw [← intOrNone_eq_ok_iff, nonNegativeInt]
  cases value.intOrNone with
  | ok parsed => exact iff_of_true ⟨_, rfl⟩ ⟨_, rfl⟩
  | error exc => exact iff_of_false (fun ⟨_, h⟩ => by cases h) fun ⟨_, h⟩ => by cases h

theorem countsOf_dict_eq_ok_iff (usage : List (String × Value)) (fallbackInput fallbackOutput : ℤ) :
    (∃ counts, countsOf (.dict usage) fallbackInput fallbackOutput = .ok counts) ↔
      ∀ key ∈ ["prompt_tokens", "completion_tokens"], ∀ count negative,
        Value.get usage key = .float count → count.value ≠ .infinity negative := by
  rw [List.forall_mem_cons, List.forall_mem_singleton, ← nonNegativeInt_eq_ok_iff _ fallbackInput,
    ← nonNegativeInt_eq_ok_iff _ fallbackOutput]
  unfold countsOf
  constructor
  · rintro ⟨counts, h⟩
    obtain ⟨inputTokens, hinput, h⟩ := bind_eq_ok_iff.mp h
    obtain ⟨outputTokens, houtput, -⟩ := bind_eq_ok_iff.mp h
    exact ⟨⟨inputTokens, hinput⟩, outputTokens, houtput⟩
  · rintro ⟨⟨inputTokens, hinput⟩, outputTokens, houtput⟩
    refine ⟨(inputTokens, outputTokens), ?_⟩
    simp only [hinput, houtput, bind, Except.bind]

/-- The usage of a response is read exactly when its counts are no infinities. -/
theorem usageFromRaw_eq_ok_iff (items : List (String × Value)) (fallbackInput fallbackOutput : ℤ) :
    (∃ usage, usageFromRaw (.dict items) fallbackInput fallbackOutput = .ok usage) ↔
      CountsTokens (.dict items) := by
  have hread : usageFromRaw (.dict items) fallbackInput fallbackOutput =
      countsOf (Value.get items "usage") fallbackInput fallbackOutput := rfl
  rw [hread]
  by_cases hdict : ∃ usage, Value.get items "usage" = .dict usage
  · obtain ⟨usage, husage⟩ := hdict
    rw [husage, countsOf_dict_eq_ok_iff]
    constructor
    · intro h items' usage' hraw husage'
      cases hraw
      rw [husage] at husage'
      cases husage'
      exact h
    · intro h
      exact h items usage rfl husage
  · refine iff_of_true ?_ ?_
    · cases husage : Value.get items "usage" with
      | dict usage => exact absurd ⟨usage, husage⟩ hdict
      | _ => exact ⟨_, rfl⟩
    · intro items' usage' hraw husage'
      cases hraw
      exact absurd ⟨usage', husage'⟩ hdict

section Attempt

variable {decoders : Decoders} {allowToolCalls : Bool} {inputTokens : ℤ}

theorem not_good_other (exc : Exc) : ¬ Good decoders inputTokens (.error (.other exc)) := id

/-- An object is taken for a response, or refused for its shape; that is never tried again. -/
theorem extractMessage_dict (items : List (String × Value)) (allowToolCalls : Bool) :
    (∃ answer, extractMessage (.dict items) allowToolCalls = .ok answer) ∨
      ∃ message, extractMessage (.dict items) allowToolCalls = .error (.inference message) ∧
        contains (casefold message) "error sentinel" = false := by
  have hget : (Value.dict items).attrGet "choices" = .ok (Value.get items "choices") := rfl
  simp only [extractMessage, hget]
  split
  · rename_i heq
    cases heq
  · split
    · split
      · exact .inr ⟨_, rfl, by decide +kernel⟩
      · exact .inl ⟨_, rfl⟩
    · exact .inr ⟨_, rfl, by decide +kernel⟩
  · exact .inr ⟨_, rfl, by decide +kernel⟩
  · exact .inr ⟨_, rfl, by decide +kernel⟩

/-- A value that is no object is not asked for its choices. -/
theorem extractMessage_of_ne {raw : Value} (h : ∀ items, raw ≠ .dict items) (allowToolCalls : Bool) :
    ∃ exc, extractMessage raw allowToolCalls = .error (.other exc) := by
  cases raw with
  | dict items => exact absurd rfl (h items)
  | _ => exact ⟨_, rfl⟩

/-- What is made of an object. -/
theorem good_accept_iff (items : List (String × Value)) :
    Good decoders inputTokens (accept allowToolCalls (.dict items)) ↔
      ∀ message finishReason,
        extractMessage (.dict items) allowToolCalls = .ok (message, finishReason) →
          isProviderErrorSentinel (contentOf message) = false → CountsTokens (.dict items) := by
  unfold accept
  rcases extractMessage_dict items allowToolCalls with ⟨⟨message, finishReason⟩, heq⟩ | ⟨text, heq, -⟩
  · rw [heq]
    cases hsentinel : isProviderErrorSentinel (contentOf message) with
    | true =>
      simp only [hsentinel, if_true]
      refine iff_of_true ⟨_, rfl⟩ ?_
      intro message' finishReason' heq' hfalse
      cases heq'
      rw [hsentinel] at hfalse
      cases hfalse
    | false =>
      simp only [hsentinel, Bool.false_eq_true, if_false, Good]
      rw [usageFromRaw_eq_ok_iff]
      exact ⟨fun h _ _ _ _ => h, fun h => h message finishReason rfl hsentinel⟩
  · rw [heq]
    exact iff_of_true ⟨_, rfl⟩ fun _ _ h => by cases h

theorem readJson_of_some {body : ByteArray} {text : String} (htext : String.fromUTF8? body = some text) :
    readJson decoders body = (decoders.loads text).mapError JsonFault.failure := by
  simp only [readJson, htext]

theorem readJson_of_none {body : ByteArray} (htext : String.fromUTF8? body = none) :
    ∃ exc, readJson decoders body = .error (.other exc) := by
  simp only [readJson, htext]
  exact ⟨_, rfl⟩

theorem answers_iff {body : ByteArray} {text : String} (htext : String.fromUTF8? body = some text)
    (raw : Value) :
    Answers decoders (.answered (.ok body)) raw ↔ decoders.loads text = .ok raw := by
  constructor
  · rintro ⟨body', text', heq, htext', hloads⟩
    cases heq
    rw [htext] at htext'
    cases htext'
    exact hloads
  · intro h
    exact ⟨body, text, rfl, htext, h⟩

/-- An attempt ends in a record exactly when the provider is understood and nothing goes wrong after. -/
theorem good_tryOnce_iff (exchange : Exchange) :
    Good decoders inputTokens (tryOnce decoders allowToolCalls exchange) ↔
      Understood decoders exchange ∧ Settles decoders allowToolCalls exchange := by
  have hnone : ∀ {exchange : Exchange}, (∀ body, exchange ≠ .answered (.ok body)) →
      ∀ raw, ¬ Answers decoders exchange raw := by
    rintro exchange hne raw ⟨body, _, heq, _⟩
    exact hne body heq
  cases exchange with
  | unreachable reason =>
    refine iff_of_true ⟨_, rfl⟩ ⟨trivial, ?_, ?_⟩
    · intro code reason className message h
      cases h
    intro raw _ _ hanswers
    exact absurd hanswers (hnone (fun _ h => by cases h) raw)
  | refused code reason body =>
    have hsettles : Settles decoders allowToolCalls (.refused code reason body) ↔
        ∀ className message, body ≠ .error (.otherError className message) := by
      constructor
      · intro h className message hbody
        exact h.1 code reason className message (congrArg _ hbody)
      · intro h
        refine ⟨fun _ _ className message heq => ?_, fun raw _ _ hanswers => ?_⟩
        · cases heq
          exact h className message rfl
        · exact absurd hanswers (hnone (fun _ h => by cases h) raw)
    rw [hsettles, and_iff_right (show Understood decoders (.refused code reason body) from trivial)]
    cases body with
    | ok bytes => exact iff_of_true ⟨_, rfl⟩ fun _ _ h => by cases h
    | error fault =>
      cases fault with
      | osError className message => exact iff_of_true ⟨_, rfl⟩ fun _ _ h => by cases h
      | otherError className message =>
        exact iff_of_false (fun ⟨_, h⟩ => by cases h) fun h => h _ _ rfl
  | broken fault => exact iff_of_false (not_good_other _) fun h => h.1
  | answered body =>
    cases body with
    | error fault =>
      refine iff_of_false (not_good_other _) ?_
      rintro ⟨⟨_, _, heq, _⟩, _⟩
      cases heq
    | ok body =>
      have htry : tryOnce decoders allowToolCalls (.answered (.ok body)) =
          (readJson decoders body).bind (accept allowToolCalls) := rfl
      rw [htry]
      cases htext : String.fromUTF8? body with
      | none =>
        obtain ⟨exc, hread⟩ := @readJson_of_none decoders body htext
        rw [hread]
        refine iff_of_false (not_good_other _) ?_
        rintro ⟨⟨_, _, heq, htext', _⟩, _⟩
        cases heq
        rw [htext] at htext'
        cases htext'
      | some text =>
        have hunderstood : Understood decoders (.answered (.ok body)) ↔
            (∃ message, decoders.loads text = .error (.decodeError message)) ∨
              ∃ items, decoders.loads text = .ok (.dict items) := by
          constructor
          · rintro ⟨_, _, heq, htext', h⟩
            cases heq
            rw [htext] at htext'
            cases htext'
            exact h
          · intro h
            exact ⟨body, text, rfl, htext, h⟩
        have hsettles : Settles decoders allowToolCalls (.answered (.ok body)) ↔
            ∀ raw message finishReason, decoders.loads text = .ok raw →
              extractMessage raw allowToolCalls = .ok (message, finishReason) →
                isProviderErrorSentinel (contentOf message) = false → CountsTokens raw := by
          unfold Settles
          simp only [answers_iff htext]
          exact and_iff_right fun _ _ _ _ h => by cases h
        rw [hunderstood, hsettles, readJson_of_some htext]
        cases hloads : decoders.loads text with
        | error fault =>
          cases fault with
          | decodeError message =>
            exact iff_of_true ⟨_, rfl⟩ ⟨.inl ⟨message, rfl⟩, fun _ _ _ h => by cases h⟩
          | digits =>
            refine iff_of_false (not_good_other _) ?_
            rintro ⟨⟨_, h⟩ | ⟨_, h⟩, _⟩
            · cases h
            · cases h
          | recursion =>
            refine iff_of_false (not_good_other _) ?_
            rintro ⟨⟨_, h⟩ | ⟨_, h⟩, _⟩
            · cases h
            · cases h
        | ok raw =>
          by_cases hdict : ∃ items, raw = .dict items
          · obtain ⟨items, rfl⟩ := hdict
            refine (good_accept_iff items).trans ⟨fun h => ⟨.inr ⟨items, rfl⟩, ?_⟩, fun h => ?_⟩
            · intro raw message finishReason hraw
              cases hraw
              exact h message finishReason
            · intro message finishReason
              exact h.2 _ message finishReason rfl
          · have hne : ∀ items, raw ≠ .dict items := fun items h => hdict ⟨items, h⟩
            obtain ⟨exc, hextract⟩ := extractMessage_of_ne hne allowToolCalls
            have haccept : accept allowToolCalls raw = .error (.other exc) := by
              simp only [accept, hextract]
            refine iff_of_false ?_ ?_
            · show ¬ Good decoders inputTokens (accept allowToolCalls raw)
              rw [haccept]
              exact not_good_other exc
            · rintro ⟨⟨_, h⟩ | ⟨items, h⟩, _⟩
              · cases h
              · cases h
                exact hne items rfl

/-- What is made of an object is tried again when it is the error text of a proxy. -/
theorem transient_accept_iff (items : List (String × Value)) :
    (∃ failure, accept allowToolCalls (.dict items) = .error failure ∧ failure.isTransient = true) ↔
      IsSentinel allowToolCalls (.dict items) := by
  unfold accept IsSentinel
  rcases extractMessage_dict items allowToolCalls with ⟨⟨message, finishReason⟩, heq⟩ | ⟨text, heq, htext⟩
  · rw [heq]
    cases hsentinel : isProviderErrorSentinel (contentOf message) with
    | true =>
      simp only [hsentinel, if_true]
      refine iff_of_true ⟨_, rfl, ?_⟩ ⟨message, finishReason, rfl, hsentinel⟩
      decide +kernel
    | false =>
      simp only [hsentinel, Bool.false_eq_true, if_false]
      refine iff_of_false (fun ⟨_, h, _⟩ => by cases h) ?_
      rintro ⟨message', finishReason', h, htrue⟩
      cases h
      rw [hsentinel] at htrue
      cases htrue
  · rw [heq]
    refine iff_of_false ?_ fun ⟨_, _, h, _⟩ => by cases h
    rintro ⟨failure, h, htransient⟩
    cases h
    rw [Failure.isTransient, htext] at htransient
    cases htransient

/-- An attempt is followed by another one exactly when the exchange is one to retry. -/
theorem transient_tryOnce_iff (exchange : Exchange) :
    (∃ failure, tryOnce decoders allowToolCalls exchange = .error failure ∧
      failure.isTransient = true) ↔ Retried decoders allowToolCalls exchange := by
  have hother : ∀ exc, ¬ ∃ failure, (.error (.other exc) : Except Failure Answer) = .error failure ∧
      failure.isTransient = true := by
    rintro exc ⟨failure, h, htransient⟩
    cases h
    cases htransient
  cases exchange with
  | unreachable reason => exact iff_of_true ⟨_, rfl, rfl⟩ trivial
  | refused code reason body =>
    constructor
    · rintro ⟨failure, h, htransient⟩
      cases h
      have hcode : code ∈ [429, 500, 502, 503, 504] := of_decide_eq_true htransient
      exact hcode
    · intro h
      have hcode : code ∈ [429, 500, 502, 503, 504] := h
      have hagain : (Failure.http code reason body).isTransient = true := decide_eq_true hcode
      exact ⟨_, rfl, hagain⟩
  | broken fault => exact iff_of_false (hother _) id
  | answered body =>
    cases body with
    | error fault =>
      refine iff_of_false (hother _) ?_
      rintro ⟨raw, ⟨_, _, heq, _⟩, _⟩
      cases heq
    | ok body =>
      have htry : tryOnce decoders allowToolCalls (.answered (.ok body)) =
          (readJson decoders body).bind (accept allowToolCalls) := rfl
      rw [htry]
      cases htext : String.fromUTF8? body with
      | none =>
        obtain ⟨exc, hread⟩ := @readJson_of_none decoders body htext
        rw [hread]
        refine iff_of_false (hother _) ?_
        rintro ⟨raw, ⟨_, _, heq, htext', _⟩, _⟩
        cases heq
        rw [htext] at htext'
        cases htext'
      | some text =>
        have hretried : Retried decoders allowToolCalls (.answered (.ok body)) ↔
            ∃ raw, decoders.loads text = .ok raw ∧ IsSentinel allowToolCalls raw := by
          unfold Retried
          simp only [answers_iff htext]
        rw [hretried, readJson_of_some htext]
        cases hloads : decoders.loads text with
        | error fault =>
          refine iff_of_false ?_ fun ⟨_, h, _⟩ => by cases h
          rintro ⟨failure, h, htransient⟩
          cases h
          cases fault <;> cases htransient
        | ok raw =>
          have hraw : (∃ raw', (.ok raw : Except JsonFault Value) = .ok raw' ∧
              IsSentinel allowToolCalls raw') ↔ IsSentinel allowToolCalls raw := by
            constructor
            · rintro ⟨raw', h, hsentinel⟩
              cases h
              exact hsentinel
            · intro h
              exact ⟨raw, rfl, h⟩
          rw [hraw]
          by_cases hdict : ∃ items, raw = .dict items
          · obtain ⟨items, rfl⟩ := hdict
            exact transient_accept_iff items
          · obtain ⟨exc, hextract⟩ :=
              extractMessage_of_ne (fun items h => hdict ⟨items, h⟩) allowToolCalls
            have haccept : accept allowToolCalls raw = .error (.other exc) := by
              simp only [accept, hextract]
            refine iff_of_false ?_ ?_
            · show ¬ ∃ failure, accept allowToolCalls raw = .error failure ∧
                failure.isTransient = true
              rw [haccept]
              exact hother exc
            · rintro ⟨message, finishReason, h, _⟩
              rw [hextract] at h
              cases h

/-! ## The attempts -/

variable {timeout : ℚ} {around : Surroundings}

/-- The last attempt. -/
theorem attemptLoop_last :
    attemptLoop decoders allowToolCalls timeout around [1] =
      if timeout - around.elapsed 1 ≤ 0 then
        (0, .error (.inference "Inference provider request timed out"))
      else (1, tryOnce decoders allowToolCalls (around.exchange 1)) := by
  rw [attemptLoop]
  split
  · rfl
  · cases tryOnce decoders allowToolCalls (around.exchange 1) with
    | ok answer => rfl
    | error failure => exact if_neg fun h => absurd h.1 one_ne_zero

/-- At most two requests are sent, and the loop ends well exactly when the failures are translated. -/
theorem good_attemptLoop_iff :
    (attemptLoop decoders allowToolCalls timeout around [0, 1]).1 ≤ 2 ∧
      (Good decoders inputTokens (attemptLoop decoders allowToolCalls timeout around [0, 1]).2 ↔
        Translated decoders allowToolCalls timeout around) := by
  have htimedOut : Good decoders inputTokens
      (.error (.inference "Inference provider request timed out")) := ⟨_, rfl⟩
  have htransient := @transient_tryOnce_iff decoders allowToolCalls (around.exchange 0)
  have hfirst := @good_tryOnce_iff decoders allowToolCalls inputTokens (around.exchange 0)
  have hsecond := @good_tryOnce_iff decoders allowToolCalls inputTokens (around.exchange 1)
  rw [attemptLoop]
  unfold Translated
  by_cases htime : timeout - around.elapsed 0 ≤ 0
  · rw [if_pos htime]
    exact ⟨Nat.zero_le 2, iff_of_true htimedOut fun h => absurd htime (not_le.mpr h)⟩
  · rw [if_neg htime, forall_prop_of_true (not_le.mp htime)]
    by_cases hretried : Retried decoders allowToolCalls (around.exchange 0)
    · -- the request is sent again when there is time left
      obtain ⟨failure, hfailure, hagain⟩ := htransient.mpr hretried
      rw [hfailure]
      simp only [hagain, and_true, if_true, attemptLoop_last]
      rw [and_iff_right fun h => absurd hretried h, forall_prop_of_true hretried]
      by_cases hlate : timeout - around.elapsed 1 ≤ 0
      · rw [if_pos hlate]
        exact ⟨Nat.le_succ 1, iff_of_true htimedOut fun h => absurd hlate (not_le.mpr h)⟩
      · rw [if_neg hlate, forall_prop_of_true (not_le.mp hlate)]
        exact ⟨le_refl 2, hsecond⟩
    · rw [forall_prop_of_true hretried, and_iff_left fun h => absurd h hretried, ← hfirst]
      cases htry : tryOnce decoders allowToolCalls (around.exchange 0) with
      | ok answer => exact ⟨Nat.le_succ 1, Iff.rfl⟩
      | error failure =>
        have honce : ¬ (0 = 0 ∧ failure.isTransient = true) :=
          fun h => hretried (htransient.mp ⟨failure, htry, h.2⟩)
        dsimp only
        rw [if_neg honce]
        exact ⟨Nat.le_succ 1, Iff.rfl⟩

end Attempt

/-! ## The call -/

theorem not_handled_escaped (requests : ℕ) (exc : Exc) : ¬ (escaped requests exc).Handled := by
  rintro ⟨-, record, h, -⟩
  cases h

section Settled

variable {decoders : Decoders} {config : InferenceConfig} {call : ChatCall} {around : Surroundings}
  {user : String} {inputTokens : ℤ}

theorem handled_succeeded {requests : ℕ} (h : requests ≤ 2) {result : InferenceResult}
    (hstatus : result.status = "ok") : (succeeded call user requests result).Handled :=
  ⟨h, _, rfl, .inl ⟨result, rfl, hstatus⟩⟩

theorem handled_failed {requests : ℕ} (h : requests ≤ 2) (errorDetail message : String) :
    (failed config call around user inputTokens requests errorDetail message).Handled :=
  ⟨h, _, rfl, .inr ⟨message, rfl, rfl⟩⟩

theorem handled_settle_iff {requests : ℕ} (hrequests : requests ≤ 2) (ended : Except Failure Answer) :
    (settle decoders config call around user inputTokens (requests, ended)).Handled ↔
      Good decoders inputTokens ended := by
  have hfailed : ∀ failure : Failure,
      (translate decoders config call around user inputTokens requests failure).Handled ↔
        ∃ detail, providerErrorDetail decoders failure = .ok detail := by
    intro failure
    unfold translate
    cases providerErrorDetail decoders failure with
    | error exc => exact iff_of_false (not_handled_escaped _ _) fun ⟨_, h⟩ => by cases h
    | ok detail => exact iff_of_true (handled_failed hrequests _ _) ⟨detail, rfl⟩
  cases ended with
  | ok answer =>
    simp only [settle, Good]
    cases usageFromRaw answer.raw inputTokens (estimateTokens answer.content) with
    | error exc => exact iff_of_false (not_handled_escaped _ _) fun ⟨_, h⟩ => by cases h
    | ok usage => exact iff_of_true (handled_succeeded hrequests rfl) ⟨usage, rfl⟩
  | error failure =>
    cases failure with
    | other exc => exact iff_of_false (not_handled_escaped _ _) (not_good_other exc)
    | url reason => exact hfailed (.url reason)
    | http code reason body => exact hfailed (.http code reason body)
    | inference message => exact hfailed (.inference message)
    | json message => exact hfailed (.json message)

end Settled

/-! ### Payloads that can be printed -/

variable {v : Value}

theorem dumpsSorted_of_printable (h : v.printable = true) :
    dumpsSorted v = .ok (jsonLine v) := if_pos h

theorem exists_contentText (h : v.printable = true) : ∃ text, contentText v = .ok text := by
  cases v with
  | str content => exact ⟨content, rfl⟩
  | _ => exact ⟨_, dumpsSorted_of_printable h⟩

theorem printable_of_lookup {items : List (String × Value)} {key : String}
    (h : Value.printable (.dict items) = true) (hlookup : Dict.lookup key items = some v) :
    v.printable = true :=
  Value.printableItems_iff.mp h _ (Dict.mem_of_lookup hlookup)

variable {model : String} {call : ChatCall}

theorem printable_messages (h : (payloadOf model call).printable = true) :
    Value.printable (.list (call.messages.map .dict)) = true :=
  Value.printableItems_iff.mp h ("messages", _) (by simp)

theorem exists_lastUserText (h : (payloadOf model call).printable = true) :
    ∃ user, lastUserText call.messages = .ok user := by
  have hmessages := Value.printableList_iff.mp (printable_messages h)
  unfold lastUserText
  cases hfind : call.messages.reverse.find? fun message => Value.get message "role" = .str "user" with
  | none => exact ⟨_, rfl⟩
  | some message =>
    have hmem : message ∈ call.messages := List.mem_reverse.mp (List.mem_of_find?_eq_some hfind)
    have hprintable := hmessages (.dict message) (List.mem_map_of_mem hmem)
    have hcontent : (Value.getD message "content" (.str "")).printable = true := by
      rw [Value.getD]
      cases hlookup : Dict.lookup "content" message with
      | none => rfl
      | some v => exact printable_of_lookup hprintable hlookup
    show ∃ user, contentText (Value.getD message "content" (.str "")) = .ok user
    exact exists_contentText hcontent

theorem exists_estimatePayloadTokens (h : (payloadOf model call).printable = true) :
    ∃ inputTokens, estimatePayloadTokens call = .ok inputTokens := by
  have hall := Value.printableItems_iff.mp h
  unfold estimatePayloadTokens
  rw [dumpsSorted_of_printable]
  · exact ⟨_, rfl⟩
  · apply Value.printableItems_iff.mpr
    intro e he
    rcases List.mem_append.mp he with he | he
    · rcases List.mem_append.mp he with he | he
      · rw [List.mem_singleton.mp he]
        exact printable_messages h
      · by_cases htools : call.tools = []
        · rw [if_pos htools] at he
          cases he
        · rw [if_neg htools] at he
          rw [List.mem_singleton.mp he]
          apply hall ("tools", _)
          rw [if_neg htools]
          simp
    · cases hformat : call.responseFormat with
      | none =>
        rw [hformat] at he
        cases he
      | some format =>
        rw [hformat] at he
        dsimp only at he
        split at he
        · cases he
        · rw [List.mem_singleton.mp he]
          apply hall ("response_format", _)
          rw [hformat]
          simp

/-- A request that can be sent goes through the attempts. -/
theorem exists_settle (decoders : Decoders) (config : LiveConfig) (around : Surroundings)
    (h : Sendable config.toInferenceConfig call) :
    ∃ user inputTokens, chatCompletions decoders config.toInferenceConfig call around =
      settle decoders config.toInferenceConfig call around user inputTokens
        (attemptLoop decoders (decide (call.tools ≠ [])) (effectiveTimeout config.toInferenceConfig call)
          around [0, 1]) := by
  obtain ⟨hchoice, hprintable⟩ := h
  obtain ⟨user, huser⟩ := exists_lastUserText hprintable
  obtain ⟨inputTokens, htokens⟩ := exists_estimatePayloadTokens hprintable
  have hallowed : ¬ (call.tools = [] ∧ call.toolChoice ≠ none) := fun h => h.2 (hchoice h.1)
  refine ⟨user, inputTokens, ?_⟩
  unfold chatCompletions
  simp only [huser, htokens, if_neg config.live, if_neg (config.keyed call.agent), if_neg hallowed,
    hprintable, Bool.true_eq_false, if_false]

/-- A request that cannot be sent ends in an exception without a record. -/
theorem exists_escaped (decoders : Decoders) (config : LiveConfig) (around : Surroundings)
    (h : ¬ Sendable config.toInferenceConfig call) :
    ∃ exc, chatCompletions decoders config.toInferenceConfig call around = escaped 0 exc := by
  unfold chatCompletions
  cases lastUserText call.messages with
  | error exc => exact ⟨exc, rfl⟩
  | ok user =>
    cases estimatePayloadTokens call with
    | error exc => exact ⟨exc, rfl⟩
    | ok inputTokens =>
      simp only [if_neg config.live, if_neg (config.keyed call.agent)]
      by_cases hchoice : call.tools = [] ∧ call.toolChoice ≠ none
      · exact ⟨_, if_pos hchoice⟩
      · have hlong :
            (payloadOf (effectiveModel config.toInferenceConfig call) call).printable = false := by
          apply eq_false_of_ne_true
          intro hprintable
          exact h ⟨fun htools => by_contra fun hne => hchoice ⟨htools, hne⟩, hprintable⟩
        rw [if_neg hchoice, if_pos hlong]
        exact ⟨_, rfl⟩

/-- What the attempts come to. -/
theorem handled_iff_translated (decoders : Decoders) (config : LiveConfig) (around : Surroundings)
    (h : Sendable config.toInferenceConfig call) :
    (chatCompletions decoders config.toInferenceConfig call around).Handled ↔
      Translated decoders (decide (call.tools ≠ []))
        (effectiveTimeout config.toInferenceConfig call) around := by
  obtain ⟨user, inputTokens, hsettle⟩ := exists_settle decoders config around h
  have hloop := @good_attemptLoop_iff decoders (decide (call.tools ≠ [])) inputTokens
    (effectiveTimeout config.toInferenceConfig call) around
  rw [hsettle, ← hloop.2]
  exact handled_settle_iff hloop.1 _

/-- A call of a configured live client returns a result or raises an `InferenceError`, with at most two
requests and one record, exactly when its request can be sent and the provider fails in the ways that
are translated. -/
theorem chatCompletions_handled_iff (decoders : Decoders) (config : LiveConfig) (call : ChatCall)
    (around : Surroundings) :
    (chatCompletions decoders config.toInferenceConfig call around).Handled ↔
      Sendable config.toInferenceConfig call ∧
        Translated decoders (decide (call.tools ≠ []))
          (effectiveTimeout config.toInferenceConfig call) around := by
  by_cases hsendable : Sendable config.toInferenceConfig call
  · rw [and_iff_right hsendable]
    exact handled_iff_translated decoders config around hsendable
  · obtain ⟨exc, hescaped⟩ := exists_escaped decoders config around hsendable
    rw [hescaped]
    exact iff_of_false (not_handled_escaped 0 exc) fun h => hsendable h.1

/-- A client of a provider with one key. -/
def keyedConfig : LiveConfig where
  provider := .openaiCompatible
  routineModel := "routine"
  strongModel := "strong"
  apiKey := "key"
  timeoutSeconds := 25
  routineApiKey := ""
  strongApiKey := ""
  live := by decide
  keyed := by
    intro agent
    simp [InferenceConfig.apiKeyForAgent]

/-- A greeting. -/
def greeting : ChatCall where
  agent := "inventory"
  messages := [[("role", .str "user"), ("content", .str "hello")]]
  temperature := ⟨.finite (1 / 10), "0.1"⟩

/-- The provider answers, and the time is over before the body is read. -/
def slowBody : Surroundings where
  runId := "mr_000000000000"
  elapsed := fun _ => 0
  elapsedAtEnd := 25
  exchange := fun _ => .answered (.error (.osError "TimeoutError" "The read operation timed out"))

/-- Decoders that are given no body. -/
def noDecoders : Decoders where
  loads := fun _ => .error (.decodeError "Expecting value: line 1 column 1 (char 0)")
  decodeReplacing := fun _ => ""

/-- A timeout while the body is read is no `InferenceError`, and is not recorded. -/
theorem read_timeout_escapes :
    ¬ (chatCompletions noDecoders keyedConfig.toInferenceConfig greeting slowBody).Handled := by
  have hsendable : Sendable keyedConfig.toInferenceConfig greeting := by
    refine ⟨fun _ => rfl, ?_⟩
    decide +kernel
  rw [handled_iff_translated noDecoders keyedConfig slowBody hsendable]
  intro h
  have htime : 0 < effectiveTimeout keyedConfig.toInferenceConfig greeting - slowBody.elapsed 0 := by
    decide +kernel
  have hretried : ¬ Retried noDecoders (decide (greeting.tools ≠ [])) (slowBody.exchange 0) := by
    rintro ⟨raw, ⟨_, _, heq, _⟩, _⟩
    cases heq
  obtain ⟨⟨_, _, heq, _⟩, _⟩ := (h htime).1 hretried
  cases heq

end ShelfWise.Inference.Client
