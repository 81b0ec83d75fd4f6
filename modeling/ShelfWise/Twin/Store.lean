import ShelfWise.Twin.Models
import ShelfWise.Py.Listing
import ShelfWise.Sys.Program
import Mathlib.Data.Finset.Insert

/-!
# The in-memory twin store

`InMemoryTwinStore` of `shelfwise_twin/store.py`: four tables and the set of source identities
under which observations were recorded. Every method holds the lock for its whole body, so a
method is one atomic step; `TwinOp` names the steps the projection takes.

The observations and the set of their source identities only change together, in
`record_observation`; `ObservationLog` keeps them in one value, with what that method maintains.
-/

namespace ShelfWise.Twin

open Py

/-! ## Tables -/

/-- The source identity of an observation: no two recorded observations share one. -/
structure DedupeKey where
  tenantId : String
  sourceSystem : String
  sourceObjectId : String
  propertyName : String
  lane : StateLane
  payloadHash : String
deriving DecidableEq

/-- The `dedupe_key` of `record_observation`. -/
def TwinObservation.dedupeKey (o : TwinObservation) : DedupeKey :=
  ⟨o.tenantId, o.sourceSystem, o.sourceObjectId, o.propertyName, o.lane, o.payloadHash⟩

/-- The key under which an observation is recorded. -/
def TwinObservation.key (o : TwinObservation) : String × String := (o.tenantId, o.observationId)

/-- The key of a property state. -/
structure PropertyKey where
  tenantId : String
  twinId : String
  propertyName : String
  lane : StateLane
  branch : String
deriving DecidableEq

/-- `_property_key`; a missing branch and an empty one are the same. -/
def propertyKey (tenantId twinId propertyName : String) (lane : StateLane)
    (scenarioBranchId : Option String) : PropertyKey :=
  ⟨tenantId, twinId, propertyName, lane, scenarioBranchId.getD ""⟩

/-- The key of an entity. -/
def TwinEntity.key (e : TwinEntity) : String × String := (e.tenantId, e.twinId)

/-- The key of a relationship. -/
def TwinRelationship.key (r : TwinRelationship) : String × String := (r.tenantId, r.relationshipId)

/-- The key of a property state. -/
def TwinPropertyState.key (p : TwinPropertyState) : PropertyKey :=
  propertyKey p.tenantId p.twinId p.propertyName p.lane p.scenarioBranchId

/-- `_observations` and `_observation_dedupe`: each observation stands under its own key, and the
identities are those of the recorded observations. -/
structure ObservationLog where
  observations : Dict (String × String) TwinObservation
  dedupe : Finset DedupeKey
  keyed : observations.KeyedBy TwinObservation.key
  mem_dedupe : ∀ d, d ∈ dedupe ↔ ∃ k o, observations.get? k = some o ∧ o.dedupeKey = d

namespace ObservationLog

/-- The log before the first observation. -/
def empty : ObservationLog where
  observations := Dict.empty
  dedupe := ∅
  keyed := Dict.keyedBy_empty _
  mem_dedupe := fun d => by simp

/-- The observation is in the log. -/
def Recorded (log : ObservationLog) (o : TwinObservation) : Prop :=
  log.observations.get? o.key = some o

/-- The observation would be refused: its id or its source identity is taken. -/
def refuses (log : ObservationLog) (o : TwinObservation) : Bool :=
  log.observations.contains o.key || decide (o.dedupeKey ∈ log.dedupe)

theorem fresh_of_not_refuses {log : ObservationLog} {o : TwinObservation}
    (h : log.refuses o = false) :
    log.observations.get? o.key = none ∧ o.dedupeKey ∉ log.dedupe := by
  simp only [refuses, Bool.or_eq_false_iff, Dict.contains_eq_false_iff, decide_eq_false_iff_not] at h
  exact h

/-- The log with one more observation. -/
def insert (log : ObservationLog) (o : TwinObservation) (h : log.refuses o = false) :
    ObservationLog where
  observations := log.observations.set o.key o
  dedupe := Insert.insert o.dedupeKey log.dedupe
  keyed := Dict.keyedBy_set log.keyed o
  mem_dedupe := fun d => by
    have hfresh := (fresh_of_not_refuses h).1
    rw [Finset.mem_insert, log.mem_dedupe]
    constructor
    · rintro (rfl | ⟨k, o', hget, hd⟩)
      · exact ⟨o.key, o, Dict.get?_set_self _ _ _, rfl⟩
      · have hne : o.key ≠ k := by
          rintro rfl
          rw [hfresh] at hget
          cases hget
        exact ⟨k, o', by rw [Dict.get?_set_ne _ hne]; exact hget, hd⟩
    · rintro ⟨k, o', hget, hd⟩
      rw [Dict.get?_set] at hget
      split at hget
      · cases hget
        exact .inl hd.symm
      · exact .inr ⟨k, o', hget, hd⟩

/-- The log after an observation has been offered. -/
def offer (log : ObservationLog) (o : TwinObservation) : ObservationLog :=
  if h : log.refuses o = false then log.insert o h else log

/-- The log after several observations have been offered in turn. -/
def offerAll (log : ObservationLog) (os : List TwinObservation) : ObservationLog :=
  os.foldl offer log

end ObservationLog

/-- `InMemoryTwinStore`. Every row stands under its own key. -/
structure TwinStore where
  entities : Dict (String × String) TwinEntity
  relationships : Dict (String × String) TwinRelationship
  log : ObservationLog
  properties : Dict PropertyKey TwinPropertyState
  entities_keyed : entities.KeyedBy TwinEntity.key
  relationships_keyed : relationships.KeyedBy TwinRelationship.key
  properties_keyed : properties.KeyedBy TwinPropertyState.key

/-- The store as it is constructed, and after `clear`. -/
def TwinStore.empty : TwinStore where
  entities := Dict.empty
  relationships := Dict.empty
  log := .empty
  properties := Dict.empty
  entities_keyed := Dict.keyedBy_empty _
  relationships_keyed := Dict.keyedBy_empty _
  properties_keyed := Dict.keyedBy_empty _

namespace TwinStore

/-! ## Methods -/

/-- The atomic steps of a projection. -/
inductive TwinOp where
  | ensureEntity
  | addRelationship
  | recordObservation
  | getProperty
  | upsertProperty
deriving DecidableEq

/-- `ensure_entity`: the first entity stored under a key stays. -/
def ensureEntity (entity : TwinEntity) (s : TwinStore) : TwinStore × TwinEntity :=
  ({ s with
      entities := s.entities.setdefault entity.key entity
      entities_keyed := Dict.keyedBy_setdefault s.entities_keyed entity },
    (s.entities.get? entity.key).getD entity)

/-- `add_relationship`. -/
def addRelationship (relationship : TwinRelationship) (s : TwinStore) :
    TwinStore × TwinRelationship :=
  ({ s with
      relationships := s.relationships.setdefault relationship.key relationship
      relationships_keyed := Dict.keyedBy_setdefault s.relationships_keyed relationship },
    (s.relationships.get? relationship.key).getD relationship)

/-- `record_observation`. -/
def recordObservation (value : TwinObservation) (s : TwinStore) : TwinStore × Bool :=
  ({ s with log := s.log.offer value }, !s.log.refuses value)

/-- `get_property`. -/
def getProperty (key : PropertyKey) (s : TwinStore) : TwinStore × Option TwinPropertyState :=
  (s, s.properties.get? key)

/-- `upsert_property`. -/
def upsertProperty (value : TwinPropertyState) (s : TwinStore) : TwinStore × Unit :=
  ({ s with
      properties := s.properties.set value.key value
      properties_keyed := Dict.keyedBy_set s.properties_keyed value }, ())

/-- `_entity_in_store`. -/
def entityInStore (s : TwinStore) (twinId tenantId storeId : String) : Bool :=
  match s.entities.get? (tenantId, twinId) with
  | none => false
  | some entity => entity.storeId = storeId

/-- `list_entities`. -/
def listEntities (s : TwinStore) (tenantId : String) (storeId : Option String) : List TwinEntity :=
  listing s.entities (·.twinId) fun e => e.1.1 = tenantId && storeId.all (e.2.storeId = ·)

/-- `list_relationships`: those with an end in the store. -/
def listRelationships (s : TwinStore) (tenantId : String) (storeId : Option String) :
    List TwinRelationship :=
  listing s.relationships (·.relationshipId) fun e =>
    e.1.1 = tenantId && storeId.all fun storeId =>
      s.entityInStore e.2.sourceTwinId tenantId storeId ||
        s.entityInStore e.2.targetTwinId tenantId storeId

/-- `list_properties`. -/
def listProperties (s : TwinStore) (tenantId : String) (storeId : Option String)
    (includePredicted : Bool) : List TwinPropertyState :=
  listing s.properties (fun p => toLex (p.twinId, p.propertyName)) fun e =>
    e.1.tenantId = tenantId && (storeId.all fun storeId =>
      s.entityInStore e.1.twinId tenantId storeId) &&
      (includePredicted || e.2.lane ≠ .predicted)

/-- `list_observations`: the newest first, at most `limit`. -/
def listObservations (s : TwinStore) (tenantId : String) (storeId : Option String) (limit : ℕ)
    (includePredicted : Bool) : List TwinObservation :=
  (listing s.log.observations
    (fun o => OrderDual.toDual (toLex (o.observedAt.instant, o.observationId))) fun e =>
      e.1.1 = tenantId && storeId.all (e.2.storeId = ·) &&
        (includePredicted || e.2.lane ≠ .predicted)).take limit

/-- The observation is in the log of the store. -/
abbrev Recorded (s : TwinStore) (o : TwinObservation) : Prop := s.log.Recorded o

/-- The entity `ensure_entity` answers with has the key of its argument. -/
theorem key_ensureEntity (entity : TwinEntity) (s : TwinStore) :
    (ensureEntity entity s).2.key = entity.key := by
  unfold ensureEntity
  cases hget : s.entities.get? entity.key with
  | none => simp
  | some e => simpa using (s.entities_keyed _ e hget).symm

end TwinStore

/-! ## Offers -/

namespace ObservationLog

variable {log : ObservationLog} {o : TwinObservation}

theorem offer_of_refuses (h : log.refuses o = true) : log.offer o = log := by
  rw [offer, dif_neg (by simp [h])]

theorem offer_of_fresh (h : log.refuses o = false) : log.offer o = log.insert o h := by
  rw [offer, dif_pos h]

theorem recorded_insert_iff (h : log.refuses o = false) (o' : TwinObservation) :
    (log.insert o h).Recorded o' ↔ o' = o ∨ log.Recorded o' := by
  unfold Recorded
  change (log.observations.set o.key o).get? o'.key = some o' ↔ _
  rw [Dict.get?_set]
  by_cases hk : o.key = o'.key
  · rw [if_pos hk, Option.some.injEq]
    constructor
    · exact fun he => .inl he.symm
    · rintro (he | hr)
      · exact he.symm
      · rw [← hk, (fresh_of_not_refuses h).1] at hr
        cases hr
  · rw [if_neg hk]
    constructor
    · exact .inr
    · rintro (rfl | hr)
      · exact absurd rfl hk
      · exact hr

/-- A recorded observation stays recorded. -/
theorem Recorded.offer (h : log.Recorded o) (o' : TwinObservation) : (log.offer o').Recorded o := by
  cases href : log.refuses o' with
  | true => rwa [offer_of_refuses href]
  | false =>
    rw [offer_of_fresh href]
    exact (recorded_insert_iff href o).mpr (.inr h)

theorem recorded_of_get? {k : String × String} (h : log.observations.get? k = some o) :
    log.Recorded o := by
  unfold Recorded
  rw [← log.keyed k o h, h]

theorem refuses_iff_exists :
    log.refuses o = true ↔
      ∃ o', log.Recorded o' ∧ (o'.key = o.key ∨ o'.dedupeKey = o.dedupeKey) := by
  rw [refuses, Bool.or_eq_true, Dict.contains_iff, decide_eq_true_iff, log.mem_dedupe]
  constructor
  · rintro (⟨o', hget⟩ | ⟨k, o', hget, hd⟩)
    · exact ⟨o', recorded_of_get? hget, .inl (log.keyed _ _ hget).symm⟩
    · exact ⟨o', recorded_of_get? hget, .inr hd⟩
  · rintro ⟨o', hrec, hk | hd⟩
    · exact .inl ⟨o', hk ▸ hrec⟩
    · exact .inr ⟨o'.key, o', hrec, hd⟩

theorem not_recorded_empty (o : TwinObservation) : ¬ empty.Recorded o := by
  intro h
  cases h

/-- Recorded observations with the same tenant and id are the same. -/
theorem recorded_unique {o o' : TwinObservation} (h : log.Recorded o) (h' : log.Recorded o')
    (hkey : o.key = o'.key) : o = o' := by
  unfold Recorded at h h'
  rw [hkey, h', Option.some.injEq] at h
  exact h.symm

/-- What is refused stays refused. -/
theorem refuses_offer (h : log.refuses o = true) (o' : TwinObservation) :
    (log.offer o').refuses o = true := by
  obtain ⟨r, hrec, hr⟩ := refuses_iff_exists.mp h
  exact refuses_iff_exists.mpr ⟨r, hrec.offer o', hr⟩

theorem refuses_offer_self (log : ObservationLog) (o : TwinObservation) :
    (log.offer o).refuses o = true := by
  cases href : log.refuses o with
  | true => rwa [offer_of_refuses href]
  | false =>
    rw [offer_of_fresh href]
    exact refuses_iff_exists.mpr ⟨o, (recorded_insert_iff href o).mpr (.inl rfl), .inl rfl⟩

theorem offerAll_cons (log : ObservationLog) (o : TwinObservation) (os : List TwinObservation) :
    log.offerAll (o :: os) = (log.offer o).offerAll os := rfl

theorem offerAll_append (log : ObservationLog) (os os' : List TwinObservation) :
    log.offerAll (os ++ os') = (log.offerAll os).offerAll os' := List.foldl_append

/-- A recorded observation stays recorded. -/
theorem Recorded.offerAll (h : log.Recorded o) (os : List TwinObservation) :
    (log.offerAll os).Recorded o := by
  induction os generalizing log with
  | nil => exact h
  | cons o' os ih => exact ih (h.offer o')

variable {os : List TwinObservation}

/-- What is recorded was recorded before or has been offered. -/
theorem mem_of_recorded_offerAll (h : (log.offerAll os).Recorded o) : o ∈ os ∨ log.Recorded o := by
  induction os generalizing log with
  | nil => exact .inr h
  | cons o' os ih =>
    rcases ih h with hmem | hrec
    · exact .inl (List.mem_cons_of_mem o' hmem)
    · cases href : log.refuses o' with
      | true => exact .inr (offer_of_refuses href ▸ hrec)
      | false =>
        rw [offer_of_fresh href] at hrec
        rcases (recorded_insert_iff href o).mp hrec with rfl | hr
        · exact .inl List.mem_cons_self
        · exact .inr hr

theorem refuses_offerAll (h : log.refuses o = true ∨ o ∈ os) :
    (log.offerAll os).refuses o = true := by
  induction os generalizing log with
  | nil => simpa [offerAll] using h
  | cons o' os ih =>
    rw [offerAll_cons]
    refine ih ?_
    rcases h with h | h
    · exact .inl (refuses_offer h o')
    · rcases List.mem_cons.mp h with rfl | h
      · exact .inl (refuses_offer_self log o)
      · exact .inr h

/-- Offering only what is refused changes nothing. -/
theorem offerAll_of_refuses (h : ∀ o ∈ os, log.refuses o = true) : log.offerAll os = log := by
  induction os with
  | nil => rfl
  | cons o os ih =>
    rw [offerAll_cons, offer_of_refuses (h o List.mem_cons_self)]
    exact ih fun o' ho' => h o' (List.mem_cons_of_mem o ho')

/-- Offering a sequence again from a prefix of it on comes to the same log as offering it once. -/
theorem offerAll_offerAll_take (log : ObservationLog) (os : List TwinObservation) (m : ℕ) :
    (log.offerAll (os.take m)).offerAll os = log.offerAll os := by
  have hagain : (log.offerAll (os.take m)).offerAll (os.take m) = log.offerAll (os.take m) :=
    offerAll_of_refuses fun o ho => refuses_offerAll (.inr ho)
  calc (log.offerAll (os.take m)).offerAll os
      = (log.offerAll (os.take m)).offerAll (os.take m ++ os.drop m) := by
        rw [List.take_append_drop]
    _ = (log.offerAll (os.take m)).offerAll (os.drop m) := by rw [offerAll_append, hagain]
    _ = log.offerAll os := by rw [← offerAll_append, List.take_append_drop]

end ObservationLog

end ShelfWise.Twin
