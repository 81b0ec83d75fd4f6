import ShelfWise.Inference.Registry

/-!
# The tenant of a tool call

`PlatformToolRegistry.execute` writes the trusted overrides over the arguments of a call before it
binds and validates them. Binding looks arguments up by their names, so what a call had at an
overridden name is out of reach from then on, whether it was there at all included.
-/

namespace ShelfWise.Inference

open Py

variable {TypeHint Object : Type} {adapters : Adapters TypeHint Object}

/-! ## Arguments by their names -/

theorem isSome_lookup_iff {key : String} {items : List (String × Value)} :
    (Dict.lookup key items).isSome = true ↔ ∃ e ∈ items, e.1 = key := by
  induction items with
  | nil => simp [Dict.lookup]
  | cons e rest ih =>
    rw [Dict.lookup]
    by_cases hkey : e.1 = key
    · rw [if_pos hkey]
      exact iff_of_true rfl ⟨e, List.mem_cons_self, hkey⟩
    · rw [if_neg hkey, ih]
      constructor
      · rintro ⟨e', he', hkey'⟩
        exact ⟨e', List.mem_cons_of_mem e he', hkey'⟩
      · rintro ⟨e', he', hkey'⟩
        rcases List.mem_cons.mp he' with rfl | hrest
        · exact absurd hkey' hkey
        · exact ⟨e', hrest, hkey'⟩

/-- The lookups of two argument objects agree. -/
def SameLookups (arguments arguments' : List (String × Value)) : Prop :=
  ∀ key, Dict.lookup key arguments = Dict.lookup key arguments'

/-- Two argument objects that differ only where an override decides. -/
def SameBeside (declared : List String) (overrides arguments arguments' : List (String × Value)) :
    Prop :=
  ∀ key, ¬ (key ∈ overrides.map Prod.fst ∧ key ∈ declared) →
    Dict.lookup key arguments = Dict.lookup key arguments'

theorem mergedArguments_cons (declared : List String) (e : String × Value)
    (overrides arguments : List (String × Value)) :
    mergedArguments declared (e :: overrides) arguments = mergedArguments declared overrides
      (if e.1 ∈ declared then Value.setItem arguments e.1 e.2 else arguments) := rfl

/-- What the overrides decide is the same after they are merged. -/
theorem sameLookups_mergedArguments {declared : List String}
    {overrides arguments arguments' : List (String × Value)}
    (h : SameBeside declared overrides arguments arguments') :
    SameLookups (mergedArguments declared overrides arguments)
      (mergedArguments declared overrides arguments') := by
  induction overrides generalizing arguments arguments' with
  | nil =>
    intro key
    apply h
    rintro ⟨hmem, -⟩
    cases hmem
  | cons e overrides ih =>
    rw [mergedArguments_cons, mergedArguments_cons]
    apply ih
    intro key hkey
    by_cases hdeclared : e.1 ∈ declared
    · rw [if_pos hdeclared, if_pos hdeclared, Value.setItem, Value.setItem,
        Dict.lookup_setEntries, Dict.lookup_setEntries]
      by_cases heq : e.1 = key
      · rw [if_pos heq, if_pos heq]
      · rw [if_neg heq, if_neg heq]
        apply h
        rintro ⟨hmem, hin⟩
        rcases List.mem_cons.mp hmem with hhead | hrest
        · exact heq hhead.symm
        · exact hkey ⟨hrest, hin⟩
    · rw [if_neg hdeclared, if_neg hdeclared]
      apply h
      rintro ⟨hmem, hin⟩
      rcases List.mem_cons.mp hmem with hhead | hrest
      · rw [← hhead] at hdeclared
        exact hdeclared hin
      · exact hkey ⟨hrest, hin⟩

/-- A declared override is what a lookup finds. -/
theorem lookup_mergedArguments {declared : List String} {key : String} (hkey : key ∈ declared)
    (value : Value) (arguments : List (String × Value)) :
    Dict.lookup key (mergedArguments declared [(key, value)] arguments) = some value := by
  rw [mergedArguments_cons, if_pos hkey]
  show Dict.lookup key (Value.setItem arguments key value) = some value
  rw [Value.setItem, Dict.lookup_setEntries, if_pos rfl]

/-! ## Binding and validation see the lookups only -/

section Named

variable {tool : Tool TypeHint Object} {arguments arguments' : List (String × Value)}
  (hnamed : ∀ parameter ∈ tool.parameters, parameter.kind.isNamed = true)
include hnamed

theorem leftover_eq_nil_iff : leftover tool.parameters arguments = [] ↔
    ∀ key, (Dict.lookup key arguments).isSome = true → key ∈ tool.declared := by
  rw [leftover, List.filter_eq_nil_iff]
  constructor
  · intro h key hkey
    obtain ⟨e, he, rfl⟩ := isSome_lookup_iff.mp hkey
    by_contra hnone
    apply h e he
    rw [List.all_eq_true]
    intro parameter hparameter
    apply decide_eq_true
    rintro ⟨hname, -⟩
    exact hnone (List.mem_map.mpr ⟨parameter, hparameter, hname⟩)
  · intro h e he hall
    obtain ⟨parameter, hparameter, hname⟩ :=
      List.mem_map.mp (h e.1 (isSome_lookup_iff.mpr ⟨e, he, rfl⟩))
    exact of_decide_eq_true (List.all_eq_true.mp hall parameter hparameter)
      ⟨hname, .inl (hnamed parameter hparameter)⟩

theorem bindOne_congr (h : SameLookups arguments arguments') (rest rest' : List (String × Value))
    {parameter : Parameter TypeHint Object} (hparameter : parameter ∈ tool.parameters) :
    bindOne adapters rest arguments parameter = bindOne adapters rest' arguments' parameter := by
  have hkind := hnamed parameter hparameter
  unfold bindOne
  rw [h parameter.name]
  cases hcase : parameter.kind with
  | positionalOrKeyword | keywordOnly | positionalOnly | varPositional => rfl
  | varKeyword =>
    -- the only kind that gets the arguments left over
    rw [hcase] at hkind
    cases hkind

theorem bindArguments_congr (h : SameLookups arguments arguments') :
    bindArguments adapters tool.parameters arguments =
      bindArguments adapters tool.parameters arguments' := by
  have hrest : leftover tool.parameters arguments = [] ↔ leftover tool.parameters arguments' = [] := by
    rw [leftover_eq_nil_iff hnamed, leftover_eq_nil_iff hnamed]
    constructor
    · intro hall key hkey
      rw [← h key] at hkey
      exact hall key hkey
    · intro hall key hkey
      rw [h key] at hkey
      exact hall key hkey
  unfold bindArguments
  simp only [ne_eq, hrest]
  split
  · rfl
  · apply mapM_congr_of_mem
    intro parameter hparameter
    rw [bindOne_congr hnamed h _ (leftover tool.parameters arguments') hparameter]

theorem validatedArguments_congr (h : SameLookups arguments arguments') (name : String) :
    validatedArguments adapters name tool arguments =
      validatedArguments adapters name tool arguments' := by
  unfold validatedArguments
  rw [bindArguments_congr hnamed h]
  have hvalidate : validateParameter adapters name arguments =
      validateParameter adapters name arguments' := by
    funext bound
    unfold validateParameter
    rw [h bound.1.name]
  rw [hvalidate]

end Named

theorem bindOne_of_lookup {arguments rest : List (String × Value)} {value : Value}
    {bound : BoundValue Object} {parameter : Parameter TypeHint Object}
    (hnamed : parameter.kind.isNamed = true)
    (h : bindOne adapters rest arguments parameter = .ok bound)
    (hvalue : Dict.lookup parameter.name arguments = some value) : bound = .given value := by
  unfold bindOne at h
  rw [hvalue] at h
  cases hkind : parameter.kind with
  | positionalOrKeyword | keywordOnly =>
    rw [hkind] at h
    exact (Except.ok.inj h).symm
  | positionalOnly =>
    rw [hkind] at h
    cases h
  | varPositional | varKeyword =>
    rw [hkind] at hnamed
    cases hnamed

/-- Where a validated argument comes from: it is what the validation of its parameter makes of the
argument of that name. -/
theorem validated_of_mem {tool : Tool TypeHint Object} {name key : String}
    {arguments : List (String × Value)} {validated : List (String × Object)} {object : Object}
    (hnamed : ∀ parameter ∈ tool.parameters, parameter.kind.isNamed = true)
    (h : validatedArguments adapters name tool arguments = .ok validated)
    (hmem : (key, object) ∈ validated) :
    ∃ parameter ∈ tool.parameters, parameter.name = key ∧ ∃ typeHint,
      parameter.typeHint = some typeHint ∧ ∀ value,
        Dict.lookup key arguments = some value → adapters.validateJson typeHint value = .ok object := by
  obtain ⟨bound, hbound, hall⟩ := bind_eq_ok_iff.mp h
  obtain ⟨⟨parameter, own⟩, hpair, hvalid⟩ := exists_of_mem_mapM hall hmem
  obtain ⟨-, -, hbind⟩ := bind_eq_ok_iff.mp (translating_eq_ok_iff.mp hbound)
  -- the pair is a parameter of the signature with what it was bound to
  have hone : parameter ∈ tool.parameters ∧
      bindOne adapters (leftover tool.parameters arguments) arguments parameter = .ok own := by
    unfold bindArguments at hbind
    dsimp only at hbind
    split at hbind
    · cases hbind
    · obtain ⟨parameter', hin, hpair'⟩ := exists_of_mem_mapM hbind hpair
      obtain ⟨own', hown, heq⟩ := bind_eq_ok_iff.mp hpair'
      cases heq
      exact ⟨hin, hown⟩
  obtain ⟨hin, hown⟩ := hone
  unfold validateParameter at hvalid
  cases hhint : parameter.typeHint with
  | none =>
    simp only [hhint] at hvalid
    cases hvalid
  | some typeHint =>
    simp only [hhint] at hvalid
    obtain ⟨object', hobject, heq⟩ := bind_eq_ok_iff.mp hvalid
    cases heq
    refine ⟨parameter, hin, rfl, typeHint, hhint, fun value hvalue => ?_⟩
    have hgiven := bindOne_of_lookup (hnamed parameter hin) hown hvalue
    have hjson := translating_eq_ok_iff.mp hobject
    rw [hgiven, hvalue] at hjson
    exact hjson

/-! ## Invocations -/

/-- A tool and the arguments its function is called with. -/
structure Invocation (Object : Type) where
  tool : String
  arguments : List (String × Object)

namespace ToolRegistry

variable (registry : ToolRegistry TypeHint Object) (adapters : Adapters TypeHint Object)
  (correlationId : String) (overrides : List (String × Value))

/-- The invocation that `execute` gets to. -/
def invocation (call : ToolCall) : Option (Invocation Object) :=
  if correlationId = "" then none
  else (registry.get? call.name).bind fun tool =>
    if tool.readOnly then
      (validatedArguments adapters call.name tool
        (mergedArguments tool.declared overrides call.arguments)).toOption.map (⟨call.name, ·⟩)
    else none

/-- The invocations for the calls of one message, up to the first that raises. -/
def invocations : ℕ → List ToolCall → List (Invocation Object)
  | _, [] => []
  | n, call :: rest =>
    (registry.invocation adapters correlationId overrides call).toList ++
      match registry.execute adapters correlationId overrides n call with
      | .error _ => []
      | .ok _ => invocations (n + 1) rest

/-- A run with these tools: their schemas are generated before the first turn. -/
def request (base : RunRequest) : RunRequest :=
  { base with
    registry := registry.platform adapters
    precheck := do
      base.precheck
      let _ ← registry.openaiTools adapters
      .ok () }

/-- The invocations of a run. -/
def runInvocations (base : RunRequest) (responses : ℕ → Except Exc Message) :
    List (Invocation Object) :=
  let r := registry.request adapters base
  (r.turnsOf responses).flatMap fun t =>
    if r.duplicate t = none ∧ ((r.callsOf t).map (·.callId)).Nodup then
      registry.invocations adapters correlationId [("tenant_id", .str base.tenantId)]
        t.1.executions.length (r.callsOf t)
    else []

variable {registry adapters correlationId overrides}

variable {invocation : Invocation Object}

theorem exists_call_of_mem {n : ℕ} {calls : List ToolCall}
    (h : invocation ∈ registry.invocations adapters correlationId overrides n calls) :
    ∃ call ∈ calls, registry.invocation adapters correlationId overrides call = some invocation := by
  induction calls generalizing n with
  | nil => cases h
  | cons call rest ih =>
    rw [invocations] at h
    rcases List.mem_append.mp h with hfirst | hrest
    · exact ⟨call, List.mem_cons_self, Option.mem_toList.mp hfirst⟩
    · cases hexecute : registry.execute adapters correlationId overrides n call with
      | error e =>
        rw [hexecute] at hrest
        cases hrest
      | ok execution =>
        rw [hexecute] at hrest
        obtain ⟨call', hcall', hinvocation⟩ := ih hrest
        exact ⟨call', List.mem_cons_of_mem _ hcall', hinvocation⟩

/-- A run with an invocation has generated the schemas of its tools. -/
theorem openaiTools_of_mem_run {base : RunRequest} {responses : ℕ → Except Exc Message}
    (h : invocation ∈ registry.runInvocations adapters correlationId base responses) :
    ∃ schemas, registry.openaiTools adapters = .ok schemas := by
  obtain ⟨t, ht, -⟩ := List.mem_flatMap.mp h
  unfold RunRequest.turnsOf at ht
  cases hprecheck : (registry.request adapters base).precheck with
  | error e =>
    rw [hprecheck] at ht
    cases ht
  | ok u =>
    obtain ⟨-, -, hschemas⟩ := bind_eq_ok_iff.mp hprecheck
    obtain ⟨schemas, hok, -⟩ := bind_eq_ok_iff.mp hschemas
    exact ⟨schemas, hok⟩

/-- The calls agree beside what the overrides decide for the tool they name. -/
def SameCall (registry : ToolRegistry TypeHint Object) (overrides : List (String × Value))
    (call call' : ToolCall) : Prop :=
  call.name = call'.name ∧ ∀ tool, registry.get? call.name = some tool →
    SameBeside tool.declared overrides call.arguments call'.arguments

variable {schemas : List Value} {call call' : ToolCall}

/-- The arguments of such calls are validated alike. -/
theorem validatedArguments_of_sameCall (hschemas : registry.openaiTools adapters = .ok schemas)
    (hcall : registry.SameCall overrides call call') {tool : Tool TypeHint Object}
    (htool : registry.get? call.name = some tool) :
    validatedArguments adapters call.name tool
        (mergedArguments tool.declared overrides call.arguments) =
      validatedArguments adapters call.name tool
        (mergedArguments tool.declared overrides call'.arguments) := by
  obtain ⟨schema, hschema⟩ := schema_of_openaiTools hschemas htool
  apply validatedArguments_congr (named_of_schema hschema)
  exact sameLookups_mergedArguments (hcall.2 tool htool)

theorem invocation_of_sameCall (hschemas : registry.openaiTools adapters = .ok schemas)
    (hcall : registry.SameCall overrides call call') :
    registry.invocation adapters correlationId overrides call =
      registry.invocation adapters correlationId overrides call' := by
  rw [invocation, invocation, ← hcall.1]
  cases htool : registry.get? call.name with
  | none => rfl
  | some tool =>
    rw [Option.bind_some, Option.bind_some, validatedArguments_of_sameCall hschemas hcall htool]

theorem execute_of_sameCall (hschemas : registry.openaiTools adapters = .ok schemas)
    (hcall : registry.SameCall overrides call call') (n : ℕ) :
    registry.execute adapters correlationId overrides n call =
      registry.execute adapters correlationId overrides n call' := by
  rw [execute, execute, ← hcall.1]
  cases htool : registry.get? call.name with
  | none => rfl
  | some tool =>
    simp only [callTool, validatedArguments_of_sameCall hschemas hcall htool]

/-- The annotation of `tenant_id` is one that keeps a text as it is. -/
def KeepsTenantText (registry : ToolRegistry TypeHint Object)
    (adapters : Adapters TypeHint Object) : Prop :=
  ∀ name tool, registry.get? name = some tool → ∀ parameter ∈ tool.parameters,
    parameter.name = "tenant_id" → ∀ typeHint, parameter.typeHint = some typeHint →
      ∀ s object, adapters.validateJson typeHint (.str s) = .ok object →
        object = adapters.ofJson (.str s)

/-- A tool that is called with a tenant is called with that of the override. -/
theorem tenant_of_invocation (hschemas : registry.openaiTools adapters = .ok schemas)
    (htext : registry.KeepsTenantText adapters) {tenantId : String} {object : Object}
    (h : registry.invocation adapters correlationId [("tenant_id", .str tenantId)] call = some invocation)
    (hmem : ("tenant_id", object) ∈ invocation.arguments) :
    object = adapters.ofJson (.str tenantId) := by
  rw [ToolRegistry.invocation] at h
  split at h
  · cases h
  · obtain ⟨tool, htool, h⟩ := Option.bind_eq_some_iff.mp h
    split at h
    · obtain ⟨validated, hvalidated, rfl⟩ := Option.map_eq_some_iff.mp h
      obtain ⟨schema, hschema⟩ := schema_of_openaiTools hschemas htool
      obtain ⟨parameter, hin, hname, typeHint, hhint, hvalue⟩ :=
        validated_of_mem (named_of_schema hschema) (ok_of_toOption hvalidated) hmem
      have hdeclared : "tenant_id" ∈ tool.declared := List.mem_map.mpr ⟨parameter, hin, hname⟩
      exact htext call.name tool htool parameter hin hname typeHint hhint tenantId object
        (hvalue _ (lookup_mergedArguments hdeclared _ _))
    · cases h

end ToolRegistry

open ToolRegistry

/-- **Tenant override.** Two calls that agree beside the declared keys that the overrides decide run
the tool with the same arguments and come to the same execution, when the tools have schemas, as a
run makes sure. And in a run no tool is called with the tenant of anyone but the caller. -/
theorem tenant_override_noninterfering (registry : ToolRegistry TypeHint Object)
    (adapters : Adapters TypeHint Object) (correlationId : String) (base : RunRequest)
    (htext : registry.KeepsTenantText adapters) :
    (∀ schemas, registry.openaiTools adapters = .ok schemas → ∀ overrides call call',
      registry.SameCall overrides call call' →
        registry.invocation adapters correlationId overrides call =
          registry.invocation adapters correlationId overrides call' ∧
        ∀ n, registry.execute adapters correlationId overrides n call =
          registry.execute adapters correlationId overrides n call') ∧
    ∀ responses, ∀ invocation ∈ registry.runInvocations adapters correlationId base responses,
      ∀ object, ("tenant_id", object) ∈ invocation.arguments →
        object = adapters.ofJson (.str base.tenantId) := by
  constructor
  · intro schemas hschemas overrides call call' hcall
    exact ⟨invocation_of_sameCall hschemas hcall, execute_of_sameCall hschemas hcall⟩
  · intro responses invocation hinvocation object hmem
    obtain ⟨schemas, hschemas⟩ := openaiTools_of_mem_run hinvocation
    obtain ⟨t, -, ht⟩ := List.mem_flatMap.mp hinvocation
    split at ht
    · obtain ⟨call, -, hcall⟩ := exists_call_of_mem ht
      exact tenant_of_invocation hschemas htext hcall hmem
    · cases ht

/-- Parameters annotated with `str`, and objects that are JSON already. -/
def textAdapters : Adapters Unit Value where
  jsonSchema := fun _ => .ok [("type", .str "string")]
  validateJson := fun _ value => match value with
    | .str s => .ok (.str s)
    | _ => .error (.validationError "str" "")
  validatePython := fun _ object => match object with
    | .str s => .ok (.str s)
    | _ => .error (.validationError "str" "")
  ofJson := fun value => value
  emptyTuple := .list []
  jsonValue := .ok
  dumps := fun _ => .ok ()

/-- `get_stock(tenant_id: str, sku: str)`. -/
def getStock : Tool Unit Value where
  description := "Read current stock context for one SKU."
  readOnly := true
  typeHints := .ok ()
  parameters := [⟨"tenant_id", .positionalOrKeyword, some (), none⟩,
    ⟨"sku", .positionalOrKeyword, some (), none⟩]
  fn := fun _ arguments => .ok (.dict arguments)

/-- The registry of `get_stock`. -/
def stockRegistry : ToolRegistry Unit Value := Dict.empty.set "get_stock" getStock

/-- The model asks for the stock of another tenant, or of none. -/
theorem tenant_of_model_ignored :
    stockRegistry.execute textAdapters "run" [("tenant_id", .str "tenant_a")] 0
        ⟨"call_1", "get_stock", [("tenant_id", .str "tenant_b"), ("sku", .str "4011")]⟩ =
      stockRegistry.execute textAdapters "run" [("tenant_id", .str "tenant_a")] 0
        ⟨"call_1", "get_stock", [("sku", .str "4011")]⟩ := by
  have htext : stockRegistry.KeepsTenantText textAdapters := by
    intro name tool _ parameter _ _ typeHint _ s object hobject
    exact (Except.ok.inj hobject).symm
  obtain ⟨schemas, hschemas⟩ :
      ∃ schemas, stockRegistry.openaiTools textAdapters = .ok schemas := ⟨_, rfl⟩
  refine ((tenant_override_noninterfering stockRegistry textAdapters "run" expiryRequest
    htext).1 schemas hschemas _ _ _ ⟨rfl, ?_⟩).2 0
  intro tool htool key hkey
  have hget : stockRegistry.get? "get_stock" = some getStock := Dict.get?_set_self _ _ _
  cases hget.symm.trans htool
  have hne : "tenant_id" ≠ key := by
    rintro rfl
    exact hkey ⟨List.mem_cons_self, List.mem_cons_self⟩
  show Dict.lookup key (("tenant_id", _) :: _) = _
  rw [Dict.lookup, if_neg hne]

end ShelfWise.Inference
