import ShelfWise.Py.Listing
import ShelfWise.Skills.Manifest
import ShelfWise.Sys.Run

/-!
# The skill registry and its lifecycle

`InMemorySkillRegistry`, `discover`, `promote` and `retire` of `shelfwise_mlops/skill_registry.py`. A
manifest stands under its owner and its id; a manifest without a tenant belongs to the platform, and a
tenant's call for an id it has no manifest of its own for acts on the platform's.

`lifecycle_stays_inside` says what the calls of one tenant change for the others.
-/

namespace ShelfWise.Skills

open Py Sys

/-! ## The registry -/

/-- `_GLOBAL_TENANT`. -/
def platform : String := "__platform__"

/-- `tenant_id or _GLOBAL_TENANT`. -/
def orPlatform : Option String → String
  | none => platform
  | some tenantId => if tenantId = "" then platform else tenantId

/-- `_manifests`. -/
abbrev Registry := Dict (String × String) SkillManifest

/-- Where a manifest stands. -/
def SkillManifest.key (m : SkillManifest) : String × String := (orPlatform m.tenantId, m.id)

namespace Registry

/-- `upsert`. -/
def upsert (s : Registry) (m : SkillManifest) (knownAgents knownTools : List String) :
    Registry × Except Exc SkillManifest :=
  match m.validate knownAgents knownTools with
  | .error e => (s, .error e)
  | .ok () => (s.set m.key m, .ok m)

/-- `get`. -/
def get (s : Registry) (skillId : String) (tenantId : Option String) : Option SkillManifest :=
  match s.get? (orPlatform tenantId, skillId) with
  | some own => some own
  | none => s.get? (platform, skillId)

/-- `list`. -/
def list (s : Registry) (tenantId : Option String) : List SkillManifest :=
  sortedBy (·.id) ((s.entries.filter fun e =>
    decide (e.1.1 = platform) || decide (e.1.1 = orPlatform tenantId)).map Prod.snd)

/-- The owner whose manifest a status call finds first. -/
def ownerFor (s : Registry) (skillId : String) (tenantId : Option String) : Option String :=
  [orPlatform tenantId, platform].find? fun owner => s.contains (owner, skillId)

/-- `set_status`. -/
def setStatus (s : Registry) (skillId status : String) (tenantId : Option String) :
    Registry × Option SkillManifest :=
  match s.ownerFor skillId tenantId with
  | none => (s, none)
  | some owner => match s.get? (owner, skillId) with
    | none => (s, none)
    | some m => (s.set (owner, skillId) { m with status }, some { m with status })

/-- `transition_status`. -/
def transitionStatus (s : Registry) (skillId expectedStatus status : String)
    (tenantId : Option String) : Registry × Option SkillManifest :=
  match s.ownerFor skillId tenantId with
  | none => (s, none)
  | some owner => match s.get? (owner, skillId) with
    | none => (s, none)
    | some m =>
      if m.status ≠ expectedStatus then (s, none)
      else (s.set (owner, skillId) { m with status }, some { m with status })

end Registry

/-- A call of the registry. -/
inductive RegistryOp where
  | upsert (m : SkillManifest) (knownAgents knownTools : List String)
  | setStatus (skillId status : String) (tenantId : Option String)
  | transitionStatus (skillId expectedStatus status : String) (tenantId : Option String)

/-- The state after a call, and the manifest it answers with. -/
def registryStep (s : Registry) : RegistryOp → Registry × Except Exc (Option SkillManifest)
  | .upsert m knownAgents knownTools =>
    ((s.upsert m knownAgents knownTools).1, (s.upsert m knownAgents knownTools).2.map some)
  | .setStatus skillId status tenantId =>
    ((s.setStatus skillId status tenantId).1, .ok (s.setStatus skillId status tenantId).2)
  | .transitionStatus skillId expectedStatus status tenantId =>
    ((s.transitionStatus skillId expectedStatus status tenantId).1,
      .ok (s.transitionStatus skillId expectedStatus status tenantId).2)

/-! ## Discovery -/

/-- How many of the trigger terms occur in a question. -/
def SkillManifest.hits (m : SkillManifest) (question : String) : ℕ :=
  (m.triggerTerms.filter fun term => contains (lower question) (lower term)).length

/-- A promoted manifest for the role that has a hit. -/
def SkillManifest.isDiscoverable (m : SkillManifest) (question role : String) : Bool :=
  decide (m.status = "promoted") && (m.allowedRoles.isEmpty || decide (role ∈ m.allowedRoles)) &&
    decide (0 < m.hits question)

/-- More hits come first, then the smaller id. -/
def SkillManifest.rank (question : String) (m : SkillManifest) : ℤ ×ₗ String :=
  toLex (-(m.hits question : ℤ), m.id)

/-- `discover`, over what `registry.list` returns. -/
def discover (listed : List SkillManifest) (question role : String) (limit : ℤ) :
    Except Exc (List SkillManifest) :=
  if limit < 1 then .error (.valueError "limit must be at least 1")
  else .ok ((sortedBy (SkillManifest.rank question)
    (listed.filter fun m => m.isDiscoverable question role)).take limit.toNat)

/-! ## The lifecycle -/

/-- The checks of `promote` before the status changes: the manifest that is found. -/
def promotable (s : Registry) (skillId : String) (evaluations : Evaluations) (evaluationId : String)
    (tenantId : Option String) : Except Exc SkillManifest :=
  match s.get skillId tenantId with
  | none => .error (.valueError ("unknown skill: " ++ skillId))
  | some m =>
    if m.status = "retired" then
      .error (.valueError "a retired skill cannot be promoted; re-register a new version")
    else if evaluationId ∉ m.evaluationIds then
      .error (.valueError "evaluation is not referenced by this skill")
    else match tenantId with
      | none => .error (.valueError "tenant_id is required to promote a skill")
      | some tenant => match evaluations.get? (tenant, evaluationId) with
        | none => .error (.valueError "recorded evaluation was not found for this tenant")
        | some evaluation =>
          if evaluation.gatePassed = false then
            .error (.valueError "recorded evaluation did not pass its gate")
          else if floatLt evaluation.passRate.value m.minimumPassRate.value then
            .error (.valueError ("recorded pass rate " ++ evaluation.passRate.repr ++
              " is below the skill's required " ++ m.minimumPassRate.repr))
          else .ok m

/-- `promote`. -/
def promote (s : Registry) (skillId : String) (evaluations : Evaluations) (evaluationId : String)
    (tenantId : Option String) : Registry × Except Exc SkillManifest :=
  match promotable s skillId evaluations evaluationId tenantId with
  | .error e => (s, .error e)
  | .ok m =>
    if m.status = "promoted" then (s, .ok m)
    else match s.transitionStatus skillId "draft" "promoted" tenantId with
      | (s', none) => (s',
          .error (.valueError "skill lifecycle changed during promotion; retry with fresh evidence"))
      | (s', some promoted) => (s', .ok promoted)

/-- `retire`. -/
def retire (s : Registry) (skillId : String) (tenantId : Option String) :
    Registry × Except Exc SkillManifest :=
  match s.setStatus skillId "retired" tenantId with
  | (s', none) => (s', .error (.valueError ("unknown skill: " ++ skillId)))
  | (s', some m) => (s', .ok m)

/-- A call of the lifecycle; a promotion reads the evaluations recorded at its time. -/
inductive LifecycleCall where
  | promote (skillId : String) (evaluations : Evaluations) (evaluationId : String)
  | retire (skillId : String)

/-- The skill a call names. -/
def LifecycleCall.skillId : LifecycleCall → String
  | .promote skillId _ _ => skillId
  | .retire skillId => skillId

/-- A call of a tenant. -/
def lifecycleStep (tenantId : String) (s : Registry) :
    LifecycleCall → Registry × Except Exc SkillManifest
  | .promote skillId evaluations evaluationId =>
    promote s skillId evaluations evaluationId (some tenantId)
  | .retire skillId => retire s skillId (some tenantId)

/-! ## What the calls keep -/

/-- A manifest stands under its key and has a rate. -/
structure Registry.Valid (s : Registry) : Prop where
  keyed : Dict.KeyedBy SkillManifest.key s
  rated : ∀ key m, s.get? key = some m → isRate m.minimumPassRate.value = true

theorem orPlatform_some (tenantId : String) :
    orPlatform (some tenantId) = platform ∨ orPlatform (some tenantId) = tenantId := by
  by_cases hempty : tenantId = ""
  · exact .inl (if_pos hempty)
  · exact .inr (if_neg hempty)

namespace Registry

variable {s : Registry} {skillId : String} {tenantId : Option String} {owner : String}
  {m : SkillManifest}

theorem contains_of_ownerFor (h : s.ownerFor skillId tenantId = some owner) :
    ∃ m, s.get? (owner, skillId) = some m := by
  unfold ownerFor at h
  have hcontains := List.find?_some h
  exact (Dict.contains_iff s _).mp hcontains

theorem ownerFor_mem (h : s.ownerFor skillId tenantId = some owner) :
    owner = orPlatform tenantId ∨ owner = platform := by
  have hmem := List.mem_of_find?_eq_some h
  simpa only [List.mem_cons, List.not_mem_nil, or_false] using hmem

/-- The manifest that is found is the one a status call changes. -/
theorem get_eq_ownerFor :
    s.get skillId tenantId = (s.ownerFor skillId tenantId).bind fun owner => s.get? (owner, skillId) := by
  unfold get ownerFor Dict.contains
  simp only [List.find?_cons, List.find?_nil]
  cases hown : s.get? (orPlatform tenantId, skillId) with
  | some own => simp [hown]
  | none =>
    cases hshared : s.get? (platform, skillId) with
    | some shared => simp [hshared]
    | none => simp

/-- A status call changes the status of the manifest that is found, or nothing. -/
theorem setStatus_cases (s : Registry) (skillId status : String) (tenantId : Option String) :
    s.setStatus skillId status tenantId = (s, none) ∨
      ∃ owner m, s.ownerFor skillId tenantId = some owner ∧ s.get? (owner, skillId) = some m ∧
        s.setStatus skillId status tenantId =
          (s.set (owner, skillId) { m with status }, some { m with status }) := by
  unfold setStatus
  cases howner : s.ownerFor skillId tenantId with
  | none => exact .inl rfl
  | some owner =>
    obtain ⟨m, hm⟩ := contains_of_ownerFor howner
    refine .inr ⟨owner, m, rfl, hm, ?_⟩
    dsimp only
    rw [hm]

theorem transitionStatus_cases (s : Registry) (skillId expectedStatus status : String)
    (tenantId : Option String) :
    s.transitionStatus skillId expectedStatus status tenantId = (s, none) ∨
      ∃ owner m, s.ownerFor skillId tenantId = some owner ∧ s.get? (owner, skillId) = some m ∧
        m.status = expectedStatus ∧ s.transitionStatus skillId expectedStatus status tenantId =
          (s.set (owner, skillId) { m with status }, some { m with status }) := by
  unfold transitionStatus
  cases howner : s.ownerFor skillId tenantId with
  | none => exact .inl rfl
  | some owner =>
    obtain ⟨m, hm⟩ := contains_of_ownerFor howner
    dsimp only
    rw [hm]
    by_cases hstatus : m.status = expectedStatus
    · exact .inr ⟨owner, m, rfl, hm, hstatus, if_neg fun h => h hstatus⟩
    · exact .inl (if_pos hstatus)

theorem Valid.setManifest (h : s.Valid) (hm : s.get? (owner, skillId) = some m) (status : String) :
    Valid (s.set (owner, skillId) { m with status }) := by
  have hkey : (owner, skillId) = m.key := h.keyed _ _ hm
  constructor
  · have hkeyed := Dict.keyedBy_set h.keyed { m with status }
    rwa [show SkillManifest.key { m with status } = m.key from rfl, ← hkey] at hkeyed
  · intro key m' hget
    rw [Dict.get?_set] at hget
    split at hget
    · rw [← Option.some.inj hget]
      exact h.rated _ m hm
    · exact h.rated _ _ hget

theorem isRate_of_validate {knownAgents knownTools : List String}
    (h : m.validate knownAgents knownTools = .ok ()) : isRate m.minimumPassRate.value = true := by
  unfold SkillManifest.validate at h
  split at h
  · cases h
  · split at h
    · cases h
    · split at h
      · cases h
      · split at h
        · cases h
        · rename_i hrate
          exact Bool.not_eq_false _ ▸ hrate

theorem Valid.step (h : s.Valid) (op : RegistryOp) : Valid (registryStep s op).1 := by
  cases op with
  | upsert m knownAgents knownTools =>
    show Valid (s.upsert m knownAgents knownTools).1
    unfold upsert
    cases hvalidate : m.validate knownAgents knownTools with
    | error e => exact h
    | ok _ =>
      refine ⟨Dict.keyedBy_set h.keyed m, fun key m' hget => ?_⟩
      change (s.set m.key m).get? key = some m' at hget
      rw [Dict.get?_set] at hget
      split at hget
      · cases hget
        exact isRate_of_validate hvalidate
      · exact h.rated _ _ hget
  | setStatus skillId status tenantId =>
    show Valid (s.setStatus skillId status tenantId).1
    rcases setStatus_cases s skillId status tenantId with heq | ⟨owner, m, -, hm, heq⟩
    · rw [heq]
      exact h
    · rw [heq]
      exact h.setManifest hm status
  | transitionStatus skillId expectedStatus status tenantId =>
    show Valid (s.transitionStatus skillId expectedStatus status tenantId).1
    rcases transitionStatus_cases s skillId expectedStatus status tenantId with
      heq | ⟨owner, m, -, hm, -, heq⟩
    · rw [heq]
      exact h
    · rw [heq]
      exact h.setManifest hm status

end Registry

/-- The state that calls lead to from an empty registry. -/
def reached (ops : List RegistryOp) : Registry := final registryStep Dict.empty ops

theorem valid_reached (ops : List RegistryOp) : (reached ops).Valid :=
  invariant_final (fun _ op h => h.step op)
    ⟨Dict.keyedBy_empty _, fun key m h => by rw [Dict.get?_empty] at h; cases h⟩ ops

/-! ## The calls of one tenant -/

/-- A call that acts on the platform's manifest: the tenant has none of its own, or is the platform. -/
def FallsBack (tenantId : String) (step : Step Registry LifecycleCall (Except Exc SkillManifest)) :
    Prop :=
  step.before.ownerFor step.input.skillId (some tenantId) = some platform

/-- A tenant has promoted the draft under a key, on an evaluation of its own that passed the gate with
at least the required rate. -/
def PromotedOn (tenantId : String) (step : Step Registry LifecycleCall (Except Exc SkillManifest))
    (key : String × String) (m : SkillManifest) : Prop :=
  step.before.get? key = some { m with status := "draft" } ∧
    ∃ evaluations evaluationId evaluation,
      step.input = .promote key.2 evaluations evaluationId ∧ evaluationId ∈ m.evaluationIds ∧
        evaluations.get? (tenantId, evaluationId) = some evaluation ∧ evaluation.gatePassed = true ∧
        floatLe m.minimumPassRate.value evaluation.passRate.value = true

/-- Another owner's manifest does not show in the list of a tenant. -/
theorem Registry.list_set {s : Registry} {owner skillId : String} {tenantId : Option String}
    (hplatform : owner ≠ platform) (hother : orPlatform tenantId ≠ owner) (m : SkillManifest) :
    Registry.list (s.set (owner, skillId) m) tenantId = s.list tenantId := by
  have hhidden : ∀ v : SkillManifest, (fun e : (String × String) × SkillManifest =>
      decide (e.1.1 = platform) || decide (e.1.1 = orPlatform tenantId)) ((owner, skillId), v) =
        false := by
    intro v
    rw [Bool.or_eq_false_iff]
    exact ⟨decide_eq_false hplatform, decide_eq_false fun h => hother h.symm⟩
  unfold list
  congr 2
  exact filter_setEntries (hhidden m) fun old _ => hhidden old

/-- What `promote` has checked of the manifest. -/
theorem promotable_ok {s : Registry} {skillId evaluationId : String} {evaluations : Evaluations}
    {tenantId : Option String} {m : SkillManifest}
    (h : promotable s skillId evaluations evaluationId tenantId = .ok m) :
    s.get skillId tenantId = some m ∧ evaluationId ∈ m.evaluationIds ∧ ∃ tenant evaluation,
      tenantId = some tenant ∧ evaluations.get? (tenant, evaluationId) = some evaluation ∧
        evaluation.gatePassed = true ∧
        floatLt evaluation.passRate.value m.minimumPassRate.value = false := by
  unfold promotable at h
  split at h
  · cases h
  · rename_i found hget
    split at h
    · cases h
    · split at h
      · cases h
      · rename_i hreferenced
        split at h
        · cases h
        · rename_i tenant
          split at h
          · cases h
          · rename_i evaluation hevaluation
            split at h
            · cases h
            · rename_i hgate
              split at h
              · cases h
              · rename_i hrate
                cases h
                exact ⟨hget, not_not.mp hreferenced, tenant, evaluation, rfl, hevaluation,
                  Bool.not_eq_false _ ▸ hgate, Bool.not_eq_true _ ▸ hrate⟩

/-- A call of a tenant changes nothing, or the status of the manifest that is found. -/
theorem lifecycleStep_cases (tenantId : String) (s : Registry) (call : LifecycleCall) :
    (lifecycleStep tenantId s call).1 = s ∨
      ∃ owner m status, s.ownerFor call.skillId (some tenantId) = some owner ∧
        s.get? (owner, call.skillId) = some m ∧
        (lifecycleStep tenantId s call).1 = s.set (owner, call.skillId) { m with status } ∧
        (status = "promoted" → m.status = "draft" ∧ ∃ evaluations evaluationId,
          call = .promote call.skillId evaluations evaluationId ∧
            promotable s call.skillId evaluations evaluationId (some tenantId) = .ok m) := by
  cases call with
  | promote skillId evaluations evaluationId =>
    dsimp only [lifecycleStep, LifecycleCall.skillId]
    unfold promote
    cases hpromotable : promotable s skillId evaluations evaluationId (some tenantId) with
    | error e => exact .inl rfl
    | ok found =>
      dsimp only
      by_cases hpromoted : found.status = "promoted"
      · rw [if_pos hpromoted]
        exact .inl rfl
      · rw [if_neg hpromoted]
        rcases s.transitionStatus_cases skillId "draft" "promoted" (some tenantId) with
          heq | ⟨owner, m, howner, hm, hdraft, heq⟩
        · rw [heq]
          exact .inl rfl
        · have hget := (promotable_ok hpromotable).1
          rw [Registry.get_eq_ownerFor, howner] at hget
          have hfound : found = m := Option.some.inj (hget.symm.trans hm)
          subst hfound
          rw [heq]
          exact .inr ⟨owner, found, "promoted", howner, hm, rfl,
            fun _ => ⟨hdraft, evaluations, evaluationId, rfl, hpromotable⟩⟩
  | retire skillId =>
    dsimp only [lifecycleStep, LifecycleCall.skillId]
    unfold retire
    rcases s.setStatus_cases skillId "retired" (some tenantId) with heq | ⟨owner, m, howner, hm, heq⟩
    · rw [heq]
      exact .inl rfl
    · rw [heq]
      refine .inr ⟨owner, m, "retired", howner, hm, rfl, fun h => ?_⟩
      exact absurd h (by decide)

/-- A rate that is not below another one is at least that. -/
theorem floatLe_of_not_lt {a b : FloatValue} (ha : isRate a = true) (hb : isRate b = true)
    (h : floatLt b a = false) : floatLe a b = true := by
  cases a with
  | nan => exact absurd ha (by decide)
  | infinity negative => cases negative <;> exact absurd ha (by decide)
  | finite p =>
    cases b with
    | nan => exact absurd hb (by decide)
    | infinity negative => cases negative <;> exact absurd hb (by decide)
    | finite q =>
      simp only [floatLt, floatLe, Bool.and_eq_false_iff, decide_eq_false_iff_not,
        Bool.not_eq_false', decide_eq_true_eq] at h ⊢
      rcases h with h | h
      · exact le_of_lt (not_le.mp h)
      · exact h

/-- **The calls of one tenant.** For every registry that calls lead to, and every sequence of `promote`
and `retire` calls of a tenant: when none of them falls back to the platform's manifest, what `discover`
finds for another tenant, or for none, is what it was; manifests that belong to neither the tenant nor
the platform never change; and whatever is promoted after a call has been so before it, or was a draft
that the call promotes on an evaluation of the tenant. -/
theorem lifecycle_stays_inside (ops : List RegistryOp) (tenantId : String)
    (calls : List LifecycleCall) :
    ((∀ step ∈ trace (lifecycleStep tenantId) (reached ops) calls, ¬ FallsBack tenantId step) →
      ∀ other, orPlatform other ≠ tenantId → ∀ question role limit,
        discover (Registry.list (final (lifecycleStep tenantId) (reached ops) calls) other)
          question role limit = discover ((reached ops).list other) question role limit) ∧
    (∀ key, key.1 ≠ tenantId → key.1 ≠ platform →
      (final (lifecycleStep tenantId) (reached ops) calls).get? key = (reached ops).get? key) ∧
    ∀ step ∈ trace (lifecycleStep tenantId) (reached ops) calls, ∀ key m,
      step.after.get? key = some m → m.status = "promoted" →
        step.before.get? key = some m ∨ PromotedOn tenantId step key m := by
  have hvalid : ∀ s call, Registry.Valid s → Registry.Valid (lifecycleStep tenantId s call).1 := by
    intro s call h
    rcases lifecycleStep_cases tenantId s call with heq | ⟨owner, m, status, -, hm, heq, -⟩
    · rw [heq]
      exact h
    · rw [heq]
      exact h.setManifest hm status
  refine ⟨fun hsteps other hother question role limit => ?_, ?_, ?_⟩
  · -- a call that does not fall back acts on the tenant's own manifest
    have hlist := invariant_of_guarded
      (I := fun s => Registry.list s other = (reached ops).list other)
      (C := fun step => ¬ FallsBack tenantId step) (f := lifecycleStep tenantId) (fun s call h hc => by
        rcases lifecycleStep_cases tenantId s call with heq | ⟨owner, m, status, howner, hm, heq, -⟩
        · rw [heq]
          exact h
        · have hplatform : owner ≠ platform := by
            rintro rfl
            exact hc howner
          have hown : owner = tenantId := by
            have howner' := (Registry.ownerFor_mem howner).resolve_right hplatform
            rcases orPlatform_some tenantId with horPlatform | horPlatform
            · exact absurd (howner'.trans horPlatform) hplatform
            · exact howner'.trans horPlatform
          rw [heq, Registry.list_set hplatform (hown ▸ hother)]
          exact h) rfl calls hsteps
    rw [hlist]
  · intro key hkey hplatform
    refine invariant_final (I := fun s : Registry => s.get? key = (reached ops).get? key)
      (f := lifecycleStep tenantId) (fun s call h => ?_) rfl calls
    rcases lifecycleStep_cases tenantId s call with heq | ⟨owner, m, status, howner, -, heq, -⟩
    · rw [heq]
      exact h
    · have hne : (owner, call.skillId) ≠ key := by
        rintro rfl
        rcases Registry.ownerFor_mem howner with rfl | rfl
        · rcases orPlatform_some tenantId with horPlatform | horPlatform
          · exact hplatform horPlatform
          · exact hkey horPlatform
        · exact hplatform rfl
      rw [heq, Dict.get?_set_ne _ hne]
      exact h
  · intro step hstep key m hafter hpromoted
    obtain ⟨hbefore, heq⟩ := invariant_of_mem_trace hvalid (valid_reached ops) hstep
    rw [heq] at hafter
    change (lifecycleStep tenantId step.before step.input).1.get? key = some m at hafter
    rcases lifecycleStep_cases tenantId step.before step.input with
      hsame | ⟨owner, found, status, howner, hfound, hset, hdraft⟩
    · rw [hsame] at hafter
      exact .inl hafter
    · rw [hset, Dict.get?_set] at hafter
      split at hafter
      · rename_i hkey
        cases hafter
        obtain ⟨hwas, evaluations, evaluationId, hcall, hpromotable⟩ := hdraft hpromoted
        obtain ⟨-, hreferenced, tenant, evaluation, htenant, hevaluation, hgate, hrate⟩ :=
          promotable_ok hpromotable
        cases htenant
        refine .inr ⟨?_, evaluations, evaluationId, evaluation, ?_, hreferenced, hevaluation, hgate,
          floatLe_of_not_lt (hbefore.rated _ found hfound) evaluation.rate hrate⟩
        · rw [← hkey, hfound]
          congr 1
          cases found
          cases hwas
          rfl
        · rw [← hkey]
          exact hcall
      · exact .inl hafter

/-! ## A call that falls back -/

/-- The first manifest of the platform's catalogue. -/
def stockLookup : SkillManifest where
  id := "stock_position_lookup"
  version := "1.0.0"
  name := "Stock position lookup"
  description := "Answer on-hand, location, and expiry questions for one SKU from measured stock."
  domainOwner := "inventory"
  allowedRoles := ["manager", "owner", "associate"]
  triggerTerms := ["stock", "on hand", "units", "inventory", "how many"]
  requiredEntityTypes := ["sku"]
  requiredTools := ["get_stock"]
  riskTier := "low"
  readOnly := true
  maxContextTokens := 1000
  criticRequired := false
  hitlRequired := false
  sourceRefs := ["capabilities/manifest.json"]
  evaluationIds := ["tests/test_model_tool_calling.py"]
  minimumPassRate := ⟨.finite 1, "1.0"⟩
  tenantId := none
  status := "promoted"

/-- The registry with that manifest alone. -/
def stockCatalogue : List RegistryOp := [.upsert stockLookup ["inventory"] ["get_stock"]]

/-- A tenant retires the platform's manifest, and the others lose it. -/
theorem retire_reaches_others :
    ¬ ∀ (ops : List RegistryOp) (tenantId : String) (calls : List LifecycleCall)
        (other : Option String), orPlatform other ≠ orPlatform (some tenantId) →
      ∀ question role limit,
        discover (Registry.list (final (lifecycleStep tenantId) (reached ops) calls) other)
          question role limit = discover ((reached ops).list other) question role limit := by
  intro h
  have hsame := h stockCatalogue "tenant_a" [.retire "stock_position_lookup"] (some "tenant_b")
    (by decide) "How much stock is left?" "manager" 3
  revert hsame
  decide +kernel

end ShelfWise.Skills
