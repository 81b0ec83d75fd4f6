import ShelfWise.Inference.CallIds

/-!
# Registered tools

`PlatformToolRegistry` of `shelfwise_inference/tool_calling.py`: the schemas offered to the model,
the binding and validation of the arguments of a call, and its execution. TypeHints and Python
objects are abstract; what pydantic, `_json_value` and `json.dumps` make of them is a parameter.

`Tool.platform` reads a registered tool as a tool of the loop, and `execute_platform` says that the
loop's dispatch is `PlatformToolRegistry.execute` with the tenant as its override.
-/

namespace ShelfWise.Inference

open Py

/-! ## Signatures -/

/-- `Parameter.kind`. -/
inductive ParameterKind where
  | positionalOnly
  | positionalOrKeyword
  | varPositional
  | keywordOnly
  | varKeyword
deriving DecidableEq

/-- The parameter takes an argument by its name. -/
def ParameterKind.isNamed : ParameterKind → Bool
  | .positionalOrKeyword | .keywordOnly => true
  | _ => false

/-- A parameter of a signature: its annotation as the type hints resolve it, and its default. -/
structure Parameter (TypeHint Object : Type) where
  name : String
  kind : ParameterKind
  typeHint : Option TypeHint
  default : Option Object

/-- What the registry makes of annotations and objects: the schema of an annotation, the strict
validation of JSON and of objects, `_json_value` and `json.dumps`. -/
structure Adapters (TypeHint Object : Type) where
  jsonSchema : TypeHint → Except Exc (List (String × Value))
  validateJson : TypeHint → Value → Except Exc Object
  validatePython : TypeHint → Object → Except Exc Object
  ofJson : Value → Object
  emptyTuple : Object
  jsonValue : Object → Except Exc Value
  dumps : Value → Except Exc Unit

/-- A `PlatformTool`. `typeHints` is what resolving its hints raises; the function is called for the
`n`th execution of a run. -/
structure Tool (TypeHint Object : Type) where
  description : String
  readOnly : Bool
  typeHints : Except Exc Unit
  parameters : List (Parameter TypeHint Object)
  fn : ℕ → List (String × Object) → Except Exc Object

variable {TypeHint Object : Type}

/-- `set(signature(tool.fn).parameters)`. -/
def Tool.declared (tool : Tool TypeHint Object) : List String := tool.parameters.map (·.name)

/-! ## Errors -/

/-- `ToolSchemaError`. -/
def toolSchemaError (message : String) : Exc := .raised "ToolSchemaError" message

/-- `ToolPolicyError`. -/
def toolPolicyError (message : String) : Exc := .raised "ToolPolicyError" message

/-- `ToolExecutionError`. -/
def toolExecutionError (message : String) : Exc := .raised "ToolExecutionError" message

/-- A `TypeError`. -/
def isTypeError : Exc → Bool
  | .typeError _ => true
  | _ => false

/-- A `ValueError`, of which the `ValidationError` is one. -/
def isValueError : Exc → Bool
  | .valueError _ | .validationError _ _ => true
  | _ => false

/-- The subclasses of `ToolCallingError`. -/
def toolCallingErrors : List String :=
  ["ToolCallingError", "ToolSchemaError", "ToolCallParseError", "ToolPolicyError",
    "ToolExecutionError", "FinalAnswerValidationError", "UngroundedAnswerError"]

/-- A `ToolCallingError`. -/
def isToolCallingError (e : Exc) : Bool := toolCallingErrors.any fun name => isRaised name e

/-- `except …: raise translated from exc`. -/
def translating (caught : Exc → Bool) (translated : Exc) {α : Type} : Except Exc α → Except Exc α
  | .ok a => .ok a
  | .error e => .error (if caught e then translated else e)

theorem translating_eq_ok_iff {caught : Exc → Bool} {translated : Exc} {α : Type} {a : α}
    {x : Except Exc α} : translating caught translated x = .ok a ↔ x = .ok a := by
  cases x with
  | ok b => rfl
  | error e => exact iff_of_false (fun h => nomatch h) fun h => nomatch h

/-! ## Schemas -/

/-- The parts of a schema of parameters, in the making. -/
structure SchemaParts where
  properties : List (String × Value)
  definitions : List (String × Value)
  required : List String

/-- The nested definitions of one parameter, added to those of the others. -/
def addDefinitions (name : String) : List (String × Value) → List (String × Value) →
    Except Exc (List (String × Value))
  | definitions, [] => .ok definitions
  | definitions, (definitionName, schema) :: rest =>
    if (Dict.lookup definitionName definitions).elim false (fun known => known.eq schema = false) then
      .error (toolSchemaError ("conflicting schema definition in registered tool: " ++ name))
    else addDefinitions name (Value.setItem definitions definitionName schema) rest

/-- One parameter of `platform_tool_to_openai_schema`. -/
def addParameter (adapters : Adapters TypeHint Object) (name : String) (parts : SchemaParts)
    (parameter : Parameter TypeHint Object) : Except Exc SchemaParts :=
  if parameter.kind = .varPositional ∨ parameter.kind = .varKeyword then
    .error (toolSchemaError ("variadic parameters are not supported: " ++ name))
  else if parameter.kind = .positionalOnly then
    .error (toolSchemaError ("positional-only parameters are not supported: " ++ name))
  else match parameter.typeHint with
    | none => .error (toolSchemaError
        ("registered tool parameter lacks a type annotation: " ++ name ++ "." ++ parameter.name))
    | some typeHint => do
      let schema ← translating (fun e => isTypeError e || isValueError e)
        (toolSchemaError ("cannot generate schema for: " ++ name ++ "." ++ parameter.name))
        (adapters.jsonSchema typeHint)
      let definitions ← addDefinitions name parts.definitions
        (Value.getD schema "$defs" (.dict [])).items
      let property := schema.filter fun e => e.1 ≠ "$defs"
      match parameter.default with
      | none => .ok ⟨Value.setItem parts.properties parameter.name (.dict property), definitions,
          parts.required ++ [parameter.name]⟩
      | some object => do
        let default ← adapters.jsonValue object
        .ok ⟨Value.setItem parts.properties parameter.name
          (.dict (Value.setItem property "default" default)), definitions, parts.required⟩

/-- The `parameters` of a schema. -/
def SchemaParts.parameters (parts : SchemaParts) : Value :=
  let parameters := [("type", .str "object"), ("properties", .dict parts.properties),
    ("additionalProperties", .bool false)]
  let parameters := if parts.required = [] then parameters
    else Value.setItem parameters "required" (.list (parts.required.map .str))
  .dict (if parts.definitions = [] then parameters
    else Value.setItem parameters "$defs" (.dict parts.definitions))

/-- `platform_tool_to_openai_schema`. -/
def platformToolToOpenaiSchema (adapters : Adapters TypeHint Object) (name : String)
    (tool : Tool TypeHint Object) : Except Exc Value :=
  if tool.readOnly then do
    translating (fun e => isTypeError e || isValueError e || isRaised "NameError" e)
      (toolSchemaError ("cannot inspect registered tool: " ++ name)) tool.typeHints
    let parts ← tool.parameters.foldlM (addParameter adapters name) ⟨[], [], []⟩
    translating (fun e => isTypeError e || isValueError e)
      (toolSchemaError ("tool schema is not JSON serializable: " ++ name))
      (adapters.dumps parts.parameters)
    .ok (.dict [("type", .str "function"), ("function", .dict [("name", .str name),
      ("description", .str tool.description), ("parameters", parts.parameters)])])
  else .error (toolPolicyError ("refusing write-capable tool: " ++ name))

/-! ## Arguments -/

/-- The value a parameter is bound to: one of the call, or an object of the signature. -/
inductive BoundValue (Object : Type) where
  | given (value : Value)
  | own (object : Object)

/-- The arguments that no parameter takes by its name. -/
def leftover (parameters : List (Parameter TypeHint Object)) (arguments : List (String × Value)) :
    List (String × Value) :=
  arguments.filter fun e => parameters.all fun parameter =>
    ¬ (parameter.name = e.1 ∧ (parameter.kind.isNamed ∨ parameter.kind = .positionalOnly))

/-- What a parameter gets when the call does not name it. -/
def bindDefault (parameter : Parameter TypeHint Object) : Except Exc (BoundValue Object) :=
  match parameter.default with
  | some object => .ok (.own object)
  | none => .error (.typeError ("missing a required argument: '" ++ parameter.name ++ "'"))

/-- The binding of one parameter, its default applied. -/
def bindOne (adapters : Adapters TypeHint Object) (rest arguments : List (String × Value))
    (parameter : Parameter TypeHint Object) : Except Exc (BoundValue Object) :=
  match parameter.kind with
  | .varPositional => .ok (.own adapters.emptyTuple)
  | .varKeyword => .ok (if rest = [] then .own (adapters.ofJson (.dict [])) else .given (.dict rest))
  | .positionalOnly => match Dict.lookup parameter.name arguments with
    | some _ => .error (.typeError
        ("'" ++ parameter.name ++ "' parameter is positional only, but was passed as a keyword"))
    | none => bindDefault parameter
  | .positionalOrKeyword | .keywordOnly => match Dict.lookup parameter.name arguments with
    | some value => .ok (.given value)
    | none => bindDefault parameter

/-- `fn_signature.bind(**arguments)` with the defaults applied. -/
def bindArguments (adapters : Adapters TypeHint Object)
    (parameters : List (Parameter TypeHint Object)) (arguments : List (String × Value)) :
    Except Exc (List (Parameter TypeHint Object × BoundValue Object)) :=
  let rest := leftover parameters arguments
  if rest ≠ [] ∧ parameters.all (fun parameter => parameter.kind ≠ .varKeyword) then
    .error (.typeError "got an unexpected keyword argument")
  else parameters.mapM fun parameter => do
    let value ← bindOne adapters rest arguments parameter
    .ok (parameter, value)

/-- The validation of one bound value: as JSON text when the call names the parameter. The only
object of the signature in that case is the empty tuple. -/
def validateBound (adapters : Adapters TypeHint Object) (typeHint : TypeHint)
    (provided : Bool) : BoundValue Object → Except Exc Object
  | .given value =>
    if provided then adapters.validateJson typeHint value
    else adapters.validatePython typeHint (adapters.ofJson value)
  | .own object =>
    if provided then adapters.validateJson typeHint (.list [])
    else adapters.validatePython typeHint object

/-- One round of the loop of `_validated_arguments`. -/
def validateParameter (adapters : Adapters TypeHint Object) (name : String)
    (arguments : List (String × Value)) (bound : Parameter TypeHint Object × BoundValue Object) :
    Except Exc (String × Object) :=
  match bound.1.typeHint with
  | none => .error (toolExecutionError
      ("untyped registered tool parameter: " ++ name ++ "." ++ bound.1.name))
  | some typeHint => do
    let object ← translating (fun e => isTypeError e || isValueError e)
      (toolExecutionError ("invalid arguments for registered tool: " ++ name))
      (validateBound adapters typeHint (Dict.lookup bound.1.name arguments).isSome bound.2)
    .ok (bound.1.name, object)

/-- `_validated_arguments`. -/
def validatedArguments (adapters : Adapters TypeHint Object) (name : String)
    (tool : Tool TypeHint Object) (arguments : List (String × Value)) :
    Except Exc (List (String × Object)) := do
  let bound ← translating (fun e => isTypeError e || isRaised "NameError" e)
    (toolExecutionError ("invalid arguments for registered tool: " ++ name)) (do
      tool.typeHints
      bindArguments adapters tool.parameters arguments)
  bound.mapM (validateParameter adapters name arguments)

/-! ## Execution -/

/-- `merged_arguments`. -/
def mergedArguments (declared : List String) (overrides arguments : List (String × Value)) :
    List (String × Value) :=
  overrides.foldl
    (fun merged e => if e.1 ∈ declared then Value.setItem merged e.1 e.2 else merged) arguments

/-- What the function of a tool gives, as JSON. -/
def runTool (adapters : Adapters TypeHint Object) (name : String) (tool : Tool TypeHint Object)
    (n : ℕ) (arguments : List (String × Object)) : Except Exc Value :=
  translating (fun e => !isToolCallingError e)
    (toolExecutionError ("registered tool failed: " ++ name)) do
      let object ← tool.fn n arguments
      let result ← adapters.jsonValue object
      adapters.dumps result
      .ok result

/-- The execution of a tool on merged arguments: the recorded arguments and the result. -/
def callTool (adapters : Adapters TypeHint Object) (name : String) (tool : Tool TypeHint Object)
    (n : ℕ) (merged : List (String × Value)) : Except Exc (List (String × Value) × Value) :=
  if tool.readOnly then do
    let arguments ← validatedArguments adapters name tool merged
    let result ← runTool adapters name tool n arguments
    let trace ← arguments.mapM fun e => do
      let value ← adapters.jsonValue e.2
      .ok (e.1, value)
    .ok (trace, result)
  else .error (toolPolicyError ("refusing write-capable tool: " ++ name))

/-- `PlatformToolRegistry`, by the names of its tools. -/
abbrev ToolRegistry (TypeHint Object : Type) := Dict String (Tool TypeHint Object)

namespace ToolRegistry

variable (registry : ToolRegistry TypeHint Object) (adapters : Adapters TypeHint Object)

/-- `openai_tools`. -/
def openaiTools : Except Exc (List Value) :=
  registry.entries.mapM fun e => platformToolToOpenaiSchema adapters e.1 e.2

/-- `execute`, at the `n`th execution of a run. -/
def execute (correlationId : String) (overrides : List (String × Value)) (n : ℕ)
    (call : ToolCall) : Except Exc ToolExecution :=
  if correlationId = "" then
    .error (toolExecutionError "tool execution requires a correlation ID")
  else match registry.get? call.name with
    | none => .error (toolPolicyError ("tool is not registered: " ++ call.name))
    | some tool => do
      let ran ← callTool adapters call.name tool n
        (mergedArguments tool.declared overrides call.arguments)
      .ok ⟨call.name, ran.1, ran.2⟩

/-- The registered tools as tools of the loop. -/
def platform : PlatformToolRegistry where
  entries := registry.entries.map fun e =>
    (e.1, ⟨e.2.declared, callTool adapters e.1 e.2⟩)
  nodupKeys := by
    rw [List.map_map]
    exact registry.nodupKeys

theorem get?_platform (name : String) : (registry.platform adapters).get? name =
    (registry.get? name).map fun tool => ⟨tool.declared, callTool adapters name tool⟩ := by
  show Dict.lookup name (registry.entries.map _) = (Dict.lookup name registry.entries).map _
  generalize registry.entries = entries
  induction entries with
  | nil => rfl
  | cons e rest ih =>
    rw [List.map_cons, Dict.lookup, Dict.lookup, ih]
    by_cases hname : e.1 = name
    · rw [if_pos hname, if_pos hname, ← hname]
      rfl
    · rw [if_neg hname, if_neg hname]

/-- The loop dispatches a call through `execute`, with the tenant as the one override. -/
theorem execute_platform {correlationId : String} (hid : correlationId ≠ "") (tenantId : String)
    (n : ℕ) (call : ToolCall) : Inference.execute (registry.platform adapters) tenantId n call =
      registry.execute adapters correlationId [("tenant_id", .str tenantId)] n call := by
  rw [Inference.execute, execute, if_neg hid, get?_platform]
  cases registry.get? call.name with
  | none => rfl
  | some tool => rfl

end ToolRegistry

/-! ## Tools with a schema -/

variable {adapters : Adapters TypeHint Object} {name : String}

theorem named_of_addParameter {parts parts' : SchemaParts} {parameter : Parameter TypeHint Object}
    (h : addParameter adapters name parts parameter = .ok parts') :
    parameter.kind.isNamed = true := by
  unfold addParameter at h
  split at h
  · cases h
  · rename_i hvariadic
    split at h
    · cases h
    · rename_i hpositional
      cases hkind : parameter.kind with
      | positionalOnly => exact absurd hkind hpositional
      | varPositional => exact absurd (.inl hkind) hvariadic
      | varKeyword => exact absurd (.inr hkind) hvariadic
      | positionalOrKeyword => rfl
      | keywordOnly => rfl

theorem named_of_foldlM {parameters : List (Parameter TypeHint Object)} {parts parts' : SchemaParts}
    (h : parameters.foldlM (addParameter adapters name) parts = .ok parts') :
    ∀ parameter ∈ parameters, parameter.kind.isNamed = true := by
  induction parameters generalizing parts with
  | nil => exact fun _ hmem => nomatch hmem
  | cons parameter rest ih =>
    rw [List.foldlM_cons] at h
    obtain ⟨next, hnext, hrest⟩ := bind_eq_ok_iff.mp h
    exact List.forall_mem_cons.mpr ⟨named_of_addParameter hnext, ih hrest⟩

/-- A tool with a schema takes every argument by its name. -/
theorem named_of_schema {tool : Tool TypeHint Object} {schema : Value}
    (h : platformToolToOpenaiSchema adapters name tool = .ok schema) :
    ∀ parameter ∈ tool.parameters, parameter.kind.isNamed = true := by
  unfold platformToolToOpenaiSchema at h
  split at h
  · obtain ⟨-, -, h⟩ := bind_eq_ok_iff.mp h
    obtain ⟨parts, hparts, -⟩ := bind_eq_ok_iff.mp h
    exact named_of_foldlM hparts
  · cases h

/-- The tools of a registry that is offered to the model have a schema. -/
theorem schema_of_openaiTools {registry : ToolRegistry TypeHint Object} {schemas : List Value}
    (h : registry.openaiTools adapters = .ok schemas) {tool : Tool TypeHint Object}
    (htool : registry.get? name = some tool) :
    ∃ schema, platformToolToOpenaiSchema adapters name tool = .ok schema := by
  have hmem : (name, tool) ∈ registry.entries := (Dict.mem_entries_iff registry name tool).mpr htool
  obtain ⟨schema, -, hschema⟩ := exists_mem_of_mapM h hmem
  exact ⟨schema, hschema⟩

end ShelfWise.Inference
