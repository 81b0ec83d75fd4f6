import ShelfWise.Twin.Store

/-!
# The twin projector

`shelfwise_twin/projector.py`: `apply` records an observation and projects it when it wins the
authority ordering against the property state it reads. It takes three atomic steps; `now` is what
its clock shows.

The ordering of `_may_replace` is the strict order of `PropertyFacts.rank`: the time of
observation, then the precedence of the source, lower first, then the observation id. A property
state and the observation it was made from have the same facts.
-/

namespace ShelfWise.Twin

open Py Sys TwinStore

/-! ## Source policies -/

/-- `SourcePolicy`; the maximal age is in microseconds. -/
structure SourcePolicy where
  sourceSystem : String
  precedence : ℤ
  maxAge : ℤ
  reliability : PyFloat
deriving DecidableEq

/-- `SourcePolicyResolver`: the policy of a property and a source system. -/
abbrev SourcePolicyResolver := String → String → SourcePolicy

/-- `timedelta(hours=n)`. -/
def hours (n : ℤ) : ℤ := n * 3600000000

/-- `default_source_policy`. -/
def defaultSourcePolicy : SourcePolicyResolver := fun _ sourceSystem =>
  let normalized := lower (strip sourceSystem)
  if normalized = "api" then
    ⟨normalized, 10, hours 1, ⟨.finite (4278419646001971 / 4503599627370496), "0.95"⟩⟩
  else if normalized = "manual" then
    ⟨normalized, 15, hours 4, ⟨.finite (8106479329266893 / 9007199254740992), "0.9"⟩⟩
  else if normalized = "scanner" then
    ⟨normalized, 20, hours 12, ⟨.finite (8106479329266893 / 9007199254740992), "0.9"⟩⟩
  else if normalized = "pos_csv" then
    ⟨normalized, 30, hours 24, ⟨.finite (7926335344172073 / 9007199254740992), "0.88"⟩⟩
  else if normalized = "wms_csv" then
    ⟨normalized, 30, hours 12, ⟨.finite (7926335344172073 / 9007199254740992), "0.88"⟩⟩
  else ⟨if normalized = "" then "unknown" else normalized, 50, hours 24, ⟨.finite (3 / 4), "0.75"⟩⟩

/-- `_freshness`. -/
def freshnessOf (now observedAt : Timestamp) (maxAge : ℤ) : FreshnessState × PyFloat :=
  let age := max 0 (now.instant - observedAt.instant)
  if age ≤ maxAge then (.fresh, ⟨.finite 1, "1.0"⟩)
  else if age ≤ maxAge * 2 then
    (.degraded, ⟨.finite (5404319552844595 / 9007199254740992), "0.6"⟩)
  else (.stale, ⟨.finite 0, "0.0"⟩)

/-! ## Facts and their rank -/

/-- What a property state takes over from its observation. -/
structure PropertyFacts where
  tenantId : String
  twinId : String
  propertyName : String
  lane : StateLane
  value : Value
  unit : Option String
  observationId : String
  observedAt : Timestamp
  sourceSystem : String
  sourceQuality : PyFloat
  scenarioBranchId : Option String
deriving DecidableEq

/-- The facts of an observation. -/
def TwinObservation.facts (o : TwinObservation) : PropertyFacts :=
  ⟨o.tenantId, o.twinId, o.propertyName, o.lane, o.value, o.unit, o.observationId, o.observedAt,
    o.sourceSystem, o.sourceQuality, o.scenarioBranchId⟩

/-- The facts of a property state: all of it but what depends on the clock. -/
def TwinPropertyState.facts (p : TwinPropertyState) : PropertyFacts :=
  ⟨p.tenantId, p.twinId, p.propertyName, p.lane, p.value, p.unit, p.observationId, p.observedAt,
    p.sourceSystem, p.sourceQuality, p.scenarioBranchId⟩

/-- The key under which facts are stored. -/
def PropertyFacts.key (f : PropertyFacts) : PropertyKey :=
  propertyKey f.tenantId f.twinId f.propertyName f.lane f.scenarioBranchId

/-- The authority of facts: later observations, then stronger sources, then greater ids. -/
def PropertyFacts.rank (policyFor : SourcePolicyResolver) (f : PropertyFacts) :
    ℤ ×ₗ (ℤᵒᵈ ×ₗ String) :=
  toLex (f.observedAt.instant,
    toLex (OrderDual.toDual (policyFor f.propertyName f.sourceSystem).precedence, f.observationId))

/-! ## The projector -/

/-- `_may_replace`. -/
def mayReplace (policyFor : SourcePolicyResolver) (current : TwinPropertyState)
    (incoming : TwinObservation) : Bool :=
  if incoming.observedAt.instant > current.observedAt.instant then true
  else if incoming.observedAt.instant < current.observedAt.instant then false
  else
    let incomingPolicy := policyFor incoming.propertyName incoming.sourceSystem
    let currentPolicy := policyFor current.propertyName current.sourceSystem
    if incomingPolicy.precedence ≠ currentPolicy.precedence then
      incomingPolicy.precedence < currentPolicy.precedence
    else incoming.observationId > current.observationId

/-- `_state`. -/
def stateOf (policyFor : SourcePolicyResolver) (now : Timestamp) (o : TwinObservation) :
    TwinPropertyState :=
  let policy := policyFor o.propertyName o.sourceSystem
  let freshness := freshnessOf now o.observedAt policy.maxAge
  { tenantId := o.tenantId
    twinId := o.twinId
    propertyName := o.propertyName
    lane := o.lane
    value := o.value
    unit := o.unit
    observationId := o.observationId
    observedAt := o.observedAt
    projectedAt := now
    sourceSystem := o.sourceSystem
    sourceQuality := o.sourceQuality
    confidence := ⟨policy.reliability, o.sourceQuality, freshness.2⟩
    freshness := freshness.1
    scenarioBranchId := o.scenarioBranchId }

/-- The status of a projection. -/
inductive ProjectionStatus where
  | duplicate
  | recordedNotProjected
  | projected
deriving DecidableEq

/-- `ProjectionResult`. -/
structure ProjectionResult where
  status : ProjectionStatus
  observationId : String
  reason : String
  state : Option TwinPropertyState
deriving DecidableEq

/-- The last part of `apply`: the observation has won. -/
def applyProject (policyFor : SourcePolicyResolver) (now : Timestamp) (o : TwinObservation) :
    Program TwinOp TwinStore ProjectionResult :=
  let state := stateOf policyFor now o
  Program.call .upsertProperty (upsertProperty state) >>= fun _ =>
    pure ⟨.projected, o.observationId, "accepted", some state⟩

/-- `current and not self._may_replace(current, observation)`. -/
def loses (policyFor : SourcePolicyResolver) (current : Option TwinPropertyState)
    (o : TwinObservation) : Bool :=
  match current with
  | none => false
  | some p => !mayReplace policyFor p o

/-- `apply` from the comparison with the property state it has read. -/
def applyRead (policyFor : SourcePolicyResolver) (now : Timestamp) (o : TwinObservation)
    (current : Option TwinPropertyState) : Program TwinOp TwinStore ProjectionResult :=
  if loses policyFor current o then
    pure ⟨.recordedNotProjected, o.observationId, "older or lower-authority observation", current⟩
  else applyProject policyFor now o

/-- `apply` from the answer of `record_observation`. -/
def applyRecorded (policyFor : SourcePolicyResolver) (now : Timestamp) (o : TwinObservation)
    (recorded : Bool) : Program TwinOp TwinStore ProjectionResult :=
  if recorded then
    Program.call .getProperty (getProperty o.facts.key) >>= applyRead policyFor now o
  else pure ⟨.duplicate, o.observationId, "already recorded", none⟩

/-- `TwinProjector.apply`. -/
def apply (policyFor : SourcePolicyResolver) (now : Timestamp) (o : TwinObservation) :
    Program TwinOp TwinStore ProjectionResult :=
  Program.call .recordObservation (recordObservation o) >>= applyRecorded policyFor now o

/-! ## Facts of the state -/

@[simp] theorem facts_stateOf (policyFor : SourcePolicyResolver) (now : Timestamp)
    (o : TwinObservation) : (stateOf policyFor now o).facts = o.facts := rfl

theorem key_facts (p : TwinPropertyState) : p.facts.key = p.key := rfl

variable {policyFor : SourcePolicyResolver}

/-- `_may_replace` compares ranks. -/
theorem mayReplace_iff {current : TwinPropertyState} {incoming : TwinObservation} :
    mayReplace policyFor current incoming = true ↔
      current.facts.rank policyFor < incoming.facts.rank policyFor := by
  unfold mayReplace PropertyFacts.rank
  rw [Prod.Lex.toLex_lt_toLex, Prod.Lex.toLex_lt_toLex]
  simp only [TwinObservation.facts, TwinPropertyState.facts, OrderDual.toDual_lt_toDual,
    EmbeddingLike.apply_eq_iff_eq]
  by_cases hlater : incoming.observedAt.instant > current.observedAt.instant
  · simp [hlater]
  by_cases hearlier : incoming.observedAt.instant < current.observedAt.instant
  · have hne : current.observedAt.instant ≠ incoming.observedAt.instant := by omega
    simp [hlater, hearlier, hne]
  · -- a tie in time is decided by precedence, a tie in both by the id
    have heq : current.observedAt.instant = incoming.observedAt.instant := by omega
    by_cases hprec : (policyFor incoming.propertyName incoming.sourceSystem).precedence
        = (policyFor current.propertyName current.sourceSystem).precedence
    · simp [heq, hprec]
    · have hprec' := Ne.symm hprec
      simp [heq, hprec, hprec']

variable {current : Option TwinPropertyState} {o : TwinObservation}

theorem loses_eq_false_iff : loses policyFor current o = false ↔
      ∀ p, current = some p → p.facts.rank policyFor < o.facts.rank policyFor := by
  cases current with
  | none => simp [loses]
  | some p => simp [loses, mayReplace_iff]

theorem loses_iff : loses policyFor current o = true ↔
      ∃ p, current = some p ∧ o.facts.rank policyFor ≤ p.facts.rank policyFor := by
  rw [← Bool.not_eq_false, loses_eq_false_iff]
  push Not
  rfl

end ShelfWise.Twin
