import ShelfWise.Py.Value

/-!
# Skill manifests

`SkillManifest` and `_manifest_from_dict` of `shelfwise_mlops/skill_registry.py`, and the evaluation
records of `shelfwise_mlops/registry.py`. A manifest is stored as the dictionary `to_dict` makes of it;
`manifestFromDict_toDict` says what is read back.
-/

namespace ShelfWise.Skills

open Py

/-! ## Comparing floats -/

/-- `a <= b`; a comparison with `nan` is false. -/
def floatLe : FloatValue → FloatValue → Bool
  | .nan, _ | _, .nan => false
  | .infinity negative, b => negative || b = .infinity false
  | _, .infinity negative => !negative
  | .finite a, .finite b => a ≤ b

/-- `a < b`. -/
def floatLt (a b : FloatValue) : Bool := floatLe a b && !floatLe b a

/-- `0.0 <= x <= 1.0`. -/
def isRate (x : FloatValue) : Bool := floatLe (.finite 0) x && floatLe x (.finite 1)

/-! ## Manifests -/

/-- `SkillManifest`. -/
structure SkillManifest where
  id : String
  version : String
  name : String
  description : String
  domainOwner : String
  allowedRoles : List String
  triggerTerms : List String
  requiredEntityTypes : List String
  requiredTools : List String
  riskTier : String
  readOnly : Bool
  maxContextTokens : ℤ
  criticRequired : Bool
  hitlRequired : Bool
  sourceRefs : List String
  evaluationIds : List String
  minimumPassRate : PyFloat
  tenantId : Option String
  status : String
deriving DecidableEq

/-- `validate`. -/
def SkillManifest.validate (m : SkillManifest) (knownAgents knownTools : List String) :
    Except Exc Unit :=
  if m.domainOwner ∉ knownAgents then
    .error (.valueError "skill domain owner is not an existing agent")
  else if ¬ m.requiredTools ⊆ knownTools then
    .error (.valueError "skill references an unknown tool")
  else if m.sourceRefs = [] ∨ m.evaluationIds = [] then
    .error (.valueError "skill requires sources and evaluations")
  else if isRate m.minimumPassRate.value = false then
    .error (.valueError "invalid skill pass rate")
  else if m.readOnly = false ∧ m.hitlRequired = false then
    .error (.valueError "write-capable skills require HITL")
  else .ok ()

/-- A list of texts. -/
def textList (texts : List String) : Value := .list (texts.map .str)

/-- A text or `None`. -/
def textOrNull : Option String → Value
  | none => .none
  | some text => .str text

/-- `to_dict`. -/
def SkillManifest.toDict (m : SkillManifest) : List (String × Value) :=
  [("id", .str m.id), ("version", .str m.version), ("name", .str m.name),
    ("description", .str m.description), ("domain_owner", .str m.domainOwner),
    ("allowed_roles", textList m.allowedRoles), ("trigger_terms", textList m.triggerTerms),
    ("required_entity_types", textList m.requiredEntityTypes),
    ("required_tools", textList m.requiredTools), ("risk_tier", .str m.riskTier),
    ("read_only", .bool m.readOnly), ("max_context_tokens", .int m.maxContextTokens),
    ("critic_required", .bool m.criticRequired), ("hitl_required", .bool m.hitlRequired),
    ("source_refs", textList m.sourceRefs), ("evaluation_ids", textList m.evaluationIds),
    ("minimum_pass_rate", .float m.minimumPassRate), ("tenant_id", textOrNull m.tenantId),
    ("status", .str m.status)]

/-- `payload[key]`. -/
def required (payload : List (String × Value)) (key : String) : Except Exc Value :=
  match Dict.lookup key payload with
  | some v => .ok v
  | none => .error (.keyError key)

/-- `tuple(payload.get(key) or ())`; the elements of a stored list are texts. -/
def tupleOf (payload : List (String × Value)) (key : String) : List String :=
  match Value.get payload key with
  | .list items => items.map Value.toText
  | _ => []

/-- `float(value)` of a stored rate. -/
def rateOf : Value → Except Exc PyFloat
  | .float f => .ok f
  | v => .error (.typeError ("float() argument must be a string or a real number, not '" ++
      v.typeName ++ "'"))

/-- A text or `None`, as it is stored. -/
def tenantOf : Value → Option String
  | .str text => some text
  | _ => none

/-- `_manifest_from_dict`. -/
def manifestFromDict (payload : List (String × Value)) : Except Exc SkillManifest := do
  let id ← required payload "id"
  let version ← required payload "version"
  let name ← required payload "name"
  let description ← required payload "description"
  let domainOwner ← required payload "domain_owner"
  let riskTier ← required payload "risk_tier"
  let readOnly ← required payload "read_only"
  let maxContextTokens ← required payload "max_context_tokens" >>= Value.toInt
  let criticRequired ← required payload "critic_required"
  let hitlRequired ← required payload "hitl_required"
  let minimumPassRate ← required payload "minimum_pass_rate" >>= rateOf
  .ok
    { id := id.toText, version := version.toText, name := name.toText
      description := description.toText, domainOwner := domainOwner.toText
      allowedRoles := tupleOf payload "allowed_roles"
      triggerTerms := tupleOf payload "trigger_terms"
      requiredEntityTypes := tupleOf payload "required_entity_types"
      requiredTools := tupleOf payload "required_tools"
      riskTier := riskTier.toText, readOnly := readOnly.truthy, maxContextTokens
      criticRequired := criticRequired.truthy, hitlRequired := hitlRequired.truthy
      sourceRefs := tupleOf payload "source_refs"
      evaluationIds := tupleOf payload "evaluation_ids"
      minimumPassRate, tenantId := tenantOf (Value.get payload "tenant_id")
      status := ((Value.get payload "status").orElse (.str "draft")).toText }

/-- An empty status is read as a draft. -/
def SkillManifest.reread (m : SkillManifest) : SkillManifest :=
  { m with status := if m.status = "" then "draft" else m.status }

theorem map_toText_textList (texts : List String) : (texts.map Value.str).map Value.toText = texts := by
  rw [List.map_map]
  exact List.map_id' texts

/-- What is read back of a stored manifest. -/
theorem manifestFromDict_toDict (m : SkillManifest) : manifestFromDict m.toDict = .ok m.reread := by
  have htuple : ∀ key texts, Value.get m.toDict key = textList texts → tupleOf m.toDict key = texts :=
    fun key texts h => by
      rw [tupleOf, h]
      exact map_toText_textList texts
  have htenant : tenantOf (Value.get m.toDict "tenant_id") = m.tenantId := by
    have hget : Value.get m.toDict "tenant_id" = textOrNull m.tenantId := rfl
    rw [hget]
    cases m.tenantId <;> rfl
  have hstatus : ((Value.get m.toDict "status").orElse (.str "draft")).toText =
      if m.status = "" then "draft" else m.status := by
    have hget : Value.get m.toDict "status" = .str m.status := rfl
    rw [hget, Value.orElse]
    by_cases hempty : m.status = ""
    · simp [Value.truthy, hempty]
    · simp [Value.truthy, hempty]
  have hread : manifestFromDict m.toDict = .ok
      { m with
        allowedRoles := tupleOf m.toDict "allowed_roles"
        triggerTerms := tupleOf m.toDict "trigger_terms"
        requiredEntityTypes := tupleOf m.toDict "required_entity_types"
        requiredTools := tupleOf m.toDict "required_tools"
        sourceRefs := tupleOf m.toDict "source_refs"
        evaluationIds := tupleOf m.toDict "evaluation_ids"
        tenantId := tenantOf (Value.get m.toDict "tenant_id")
        status := ((Value.get m.toDict "status").orElse (.str "draft")).toText } := rfl
  rw [hread, htenant, hstatus, htuple "allowed_roles" _ rfl, htuple "trigger_terms" _ rfl,
    htuple "required_entity_types" _ rfl, htuple "required_tools" _ rfl,
    htuple "source_refs" _ rfl, htuple "evaluation_ids" _ rfl]
  rfl

/-! ## Evaluations -/

/-- `EvaluationRecord`, with the checks of its constructor. -/
structure EvaluationRecord where
  id : String
  tenantId : String
  passRate : PyFloat
  gatePassed : Bool
  createdAt : String
  id_ne : id ≠ ""
  tenantId_ne : tenantId ≠ ""
  rate : isRate passRate.value = true

/-- The records of `InMemoryEvaluationRegistry`, by tenant and id. -/
abbrev Evaluations := Dict (String × String) EvaluationRecord

end ShelfWise.Skills
