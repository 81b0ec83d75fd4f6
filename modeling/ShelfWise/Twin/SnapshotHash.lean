import ShelfWise.Twin.Bootstrap

/-!
# The snapshot hash and what it is about

`TwinService.snapshot` digests three sorted listings. Entities and relationships are sorted by their
ids; property states are sorted by twin id and property name only, and the states of several lanes of
one property stay in the order in which they were inserted.

`hash_of_content` says for which stores the digested document depends on the content alone.
-/

namespace ShelfWise.Twin

open Py TwinStore

/-! ## Stores with the same content -/

/-- Two stores that hold the same entities, relationships and non-predicted property states. -/
structure SameContent (s s' : TwinStore) : Prop where
  entities : ∀ e, e ∈ s.entities.values ↔ e ∈ s'.entities.values
  relationships : ∀ r, r ∈ s.relationships.values ↔ r ∈ s'.relationships.values
  properties : ∀ p : TwinPropertyState, p.lane ≠ .predicted →
    (p ∈ s.properties.values ↔ p ∈ s'.properties.values)

/-- A property state that a snapshot of the store is about. -/
structure Shows (s : TwinStore) (tenantId storeId : String) (p : TwinPropertyState) : Prop where
  held : p ∈ s.properties.values
  tenant : p.tenantId = tenantId
  inStore : s.entityInStore p.twinId tenantId storeId = true
  lane : p.lane ≠ .predicted

/-- No property of the store has two states that a snapshot is about. -/
def LanesApart (s : TwinStore) (tenantId storeId : String) : Prop :=
  ∀ p p', Shows s tenantId storeId p → Shows s tenantId storeId p' → p.twinId = p'.twinId →
    p.propertyName = p'.propertyName → p = p'

variable {s s' : TwinStore} {tenantId storeId : String}

/-! ## Rows under their keys -/

theorem mem_values_keyed {κ ν : Type} [DecidableEq κ] {d : Dict κ ν} {keyOf : ν → κ}
    (hd : d.KeyedBy keyOf) (v : ν) : v ∈ d.values ↔ d.get? (keyOf v) = some v := by
  rw [Dict.mem_values_iff]
  constructor
  · rintro ⟨k, hget⟩
    rw [← hd k v hget, hget]
  · intro hget
    exact ⟨keyOf v, hget⟩

theorem get?_eq_of_values {κ ν : Type} [DecidableEq κ] {d d' : Dict κ ν} {keyOf : ν → κ}
    (hd : d.KeyedBy keyOf) (hd' : d'.KeyedBy keyOf) (h : ∀ v, v ∈ d.values ↔ v ∈ d'.values) (k : κ) :
    d.get? k = d'.get? k := by
  ext v
  constructor
  · intro hget
    have hv := (mem_values_keyed hd' v).mp ((h v).mp ((Dict.mem_values_iff d v).mpr ⟨k, hget⟩))
    rw [hd k v hget, hv]
  · intro hget
    have hv := (mem_values_keyed hd v).mp ((h v).mpr ((Dict.mem_values_iff d' v).mpr ⟨k, hget⟩))
    rw [hd' k v hget, hv]

theorem SameContent.getEntity (h : SameContent s s') (k : String × String) :
    s.entities.get? k = s'.entities.get? k :=
  get?_eq_of_values s.entities_keyed s'.entities_keyed h.entities k

theorem SameContent.entityInStore (h : SameContent s s') (twinId : String) :
    s.entityInStore twinId tenantId storeId = s'.entityInStore twinId tenantId storeId := by
  unfold TwinStore.entityInStore
  rw [h.getEntity]

theorem SameContent.shows (h : SameContent s s') (p : TwinPropertyState) :
    Shows s tenantId storeId p ↔ Shows s' tenantId storeId p := by
  constructor
  · intro hp
    exact ⟨(h.properties p hp.lane).mp hp.held, hp.tenant, h.entityInStore p.twinId ▸ hp.inStore,
      hp.lane⟩
  · intro hp
    exact ⟨(h.properties p hp.lane).mpr hp.held, hp.tenant, h.entityInStore p.twinId ▸ hp.inStore,
      hp.lane⟩

/-! ## The three listings -/

theorem listEntities_of_content (h : SameContent s s') :
    s.listEntities tenantId (some storeId) = s'.listEntities tenantId (some storeId) := by
  refine listing_eq_of_mem_iff s.entities_keyed s'.entities_keyed (fun e => ?_) ?_
  · simp only [mem_listing_iff, h.getEntity]
  · intro e he e' he' hid
    obtain ⟨k, hget, hkeep⟩ := mem_listing_iff.mp he
    obtain ⟨k', hget', hkeep'⟩ := mem_listing_iff.mp he'
    rw [Bool.and_eq_true, decide_eq_true_eq] at hkeep hkeep'
    -- the tenant and the id are the key of an entity
    have hk : k = k' := by
      refine Prod.ext (hkeep.1.trans hkeep'.1.symm) ?_
      rw [s.entities_keyed k e hget, s.entities_keyed k' e' hget']
      exact hid
    rw [hk, hget'] at hget
    exact (Option.some.inj hget).symm

theorem listRelationships_of_content (h : SameContent s s') :
    s.listRelationships tenantId (some storeId) = s'.listRelationships tenantId (some storeId) := by
  refine listing_eq_of_mem_iff s.relationships_keyed s'.relationships_keyed (fun r => ?_) ?_
  · have hget : ∀ k, s.relationships.get? k = s'.relationships.get? k :=
      get?_eq_of_values s.relationships_keyed s'.relationships_keyed h.relationships
    simp only [mem_listing_iff, hget, h.entityInStore]
  · intro r hr r' hr' hid
    obtain ⟨k, hget, hkeep⟩ := mem_listing_iff.mp hr
    obtain ⟨k', hget', hkeep'⟩ := mem_listing_iff.mp hr'
    rw [Bool.and_eq_true, decide_eq_true_eq] at hkeep hkeep'
    have hk : k = k' := by
      refine Prod.ext (hkeep.1.trans hkeep'.1.symm) ?_
      rw [s.relationships_keyed k r hget, s.relationships_keyed k' r' hget']
      exact hid
    rw [hk, hget'] at hget
    exact (Option.some.inj hget).symm

theorem mem_listProperties {p : TwinPropertyState} :
    p ∈ s.listProperties tenantId (some storeId) false ↔ Shows s tenantId storeId p := by
  refine mem_listing_iff.trans ?_
  simp only [Bool.and_eq_true, decide_eq_true_eq, Option.all_some, Bool.false_or]
  constructor
  · rintro ⟨k, hget, ⟨htenant, hstore⟩, hlane⟩
    have hkey := s.properties_keyed k p hget
    have htwin : k.twinId = p.twinId := congrArg PropertyKey.twinId hkey
    rw [htwin] at hstore
    exact ⟨(Dict.mem_values_iff _ _).mpr ⟨k, hget⟩,
      (congrArg PropertyKey.tenantId hkey).symm.trans htenant, hstore, hlane⟩
  · intro h
    exact ⟨p.key, (mem_values_keyed s.properties_keyed p).mp h.held, ⟨h.tenant, h.inStore⟩, h.lane⟩

theorem listProperties_of_content (h : SameContent s s') (hapart : LanesApart s tenantId storeId) :
    s.listProperties tenantId (some storeId) false
      = s'.listProperties tenantId (some storeId) false := by
  refine listing_eq_of_mem_iff s.properties_keyed s'.properties_keyed (fun p => ?_) ?_
  · exact mem_listProperties.trans ((h.shows p).trans mem_listProperties.symm)
  · intro p hp p' hp' hkey
    have hpair : (p.twinId, p.propertyName) = (p'.twinId, p'.propertyName) := toLex.injective hkey
    exact hapart p p' (mem_listProperties.mp hp) (mem_listProperties.mp hp')
      (congrArg Prod.fst hpair) (congrArg Prod.snd hpair)

/-! ## The order of the lanes -/

theorem StateLane.value_inj {lane lane' : StateLane} (h : lane.value = lane'.value) :
    lane = lane' := by
  cases lane <;> cases lane' <;> first | rfl | exact absurd h (by decide)

theorem optionalText_inj {a b : Option String} (h : optionalText a = optionalText b) : a = b := by
  cases a with
  | none =>
    cases b with
    | none => rfl
    | some _ => cases h
  | some _ =>
    cases b with
    | none => cases h
    | some _ => exact congrArg some (Value.str.inj h)

/-- A property state in a snapshot shows the key it stands under. -/
theorem PropertyFacts.key_of_doc {f f' : PropertyFacts} (h : f.doc = f'.doc) : f.key = f'.key := by
  simp only [PropertyFacts.doc, Value.dict.injEq, List.cons.injEq, Prod.mk.injEq, Value.str.injEq,
    true_and, and_true] at h
  obtain ⟨htenant, htwin, hname, hlane, -, -, -, -, -, -, hbranch⟩ := h
  unfold PropertyFacts.key
  rw [htenant, htwin, hname, StateLane.value_inj hlane, optionalText_inj hbranch]

/-- The store whose property states were inserted in the opposite order. -/
def TwinStore.reversedProperties (s : TwinStore) : TwinStore where
  entities := s.entities
  relationships := s.relationships
  log := s.log
  properties := s.properties.reversed
  entities_keyed := s.entities_keyed
  relationships_keyed := s.relationships_keyed
  properties_keyed := fun k p h => s.properties_keyed k p (s.properties.get?_reversed k ▸ h)

theorem sameContent_reversed (s : TwinStore) : SameContent s s.reversedProperties where
  entities := fun _ => Iff.rfl
  relationships := fun _ => Iff.rfl
  properties := by
    intro p _
    rw [Dict.mem_values_iff, Dict.mem_values_iff]
    exact exists_congr fun k => by rw [reversedProperties, Dict.get?_reversed]

/-- Two states of one property change places in the document when they are inserted in the opposite
order. -/
theorem canonical_reversed_ne {p p' : TwinPropertyState} (hp : Shows s tenantId storeId p)
    (hp' : Shows s tenantId storeId p') (htwin : p.twinId = p'.twinId)
    (hname : p.propertyName = p'.propertyName) (hne : p ≠ p') :
    canonical s.reversedProperties tenantId storeId ≠ canonical s tenantId storeId := by
  intro heq
  simp only [canonical, Value.dict.injEq, List.cons.injEq, Prod.mk.injEq, Value.list.injEq,
    true_and, and_true] at heq
  refine map_listing_reversed_ne s.properties_keyed ?_ (mem_listProperties.mpr hp)
    (mem_listProperties.mpr hp') hne (congrArg toLex (Prod.ext htwin hname)) heq.2.2
  intro q hq q' hq' hdoc
  have hkey : q.key = q'.key := PropertyFacts.key_of_doc hdoc
  have hget := (mem_values_keyed s.properties_keyed q).mp (mem_listProperties.mp hq).held
  have hget' := (mem_values_keyed s.properties_keyed q').mp (mem_listProperties.mp hq').held
  rw [hkey, hget'] at hget
  exact (Option.some.inj hget).symm

/-! ## The hash of the content -/

/-- The digested document is a function of the content exactly when no property has two states that
the snapshot is about; then so is the hash. -/
theorem hash_of_content (s : TwinStore) (tenantId storeId : String) :
    (LanesApart s tenantId storeId ↔ ∀ s', SameContent s s' →
      canonical s' tenantId storeId = canonical s tenantId storeId) ∧
    (LanesApart s tenantId storeId → ∀ s', SameContent s s' → ∀ now now',
      (snapshot s' tenantId storeId now').projectionHash
        = (snapshot s tenantId storeId now).projectionHash) := by
  have hdocument : LanesApart s tenantId storeId → ∀ s', SameContent s s' →
      canonical s' tenantId storeId = canonical s tenantId storeId := by
    intro hapart s' h
    unfold canonical
    rw [listEntities_of_content h, listRelationships_of_content h,
      listProperties_of_content h hapart]
  refine ⟨⟨hdocument, fun h => ?_⟩, fun hapart s' h now now' => ?_⟩
  · intro p p' hp hp' htwin hname
    by_contra hne
    exact canonical_reversed_ne hp hp' htwin hname hne (h _ (sameContent_reversed s))
  · exact congrArg (fun document => sha256 (dumps document)) (hdocument hapart s' h)

/-- A product on a shelf. -/
def milk : TwinEntity where
  twinId := "urn:shelfwise:north:product:milk"
  tenantId := "north"
  storeId := "north"
  entityType := "product"
  displayName := "Milk"
  modelVersion := "twin-v1"
  attributes := []
  createdAt := ⟨0, ""⟩
  retiredAt := none

/-- Its stock in a lane. -/
def milkStock (lane : StateLane) (units : ℤ) : TwinPropertyState where
  tenantId := "north"
  twinId := "urn:shelfwise:north:product:milk"
  propertyName := "inventory.on_hand"
  lane := lane
  value := .int units
  unit := none
  observationId := "obs_" ++ lane.value
  observedAt := ⟨0, ""⟩
  projectedAt := ⟨0, ""⟩
  sourceSystem := "scanner"
  sourceQuality := ⟨.finite 1, "1.0"⟩
  confidence := ⟨⟨.finite 1, "1.0"⟩, ⟨.finite 1, "1.0"⟩, ⟨.finite 1, "1.0"⟩⟩
  freshness := .fresh
  scenarioBranchId := none

/-- A store that was told of two states of its milk. -/
def milkStore (first second : TwinPropertyState) : TwinStore :=
  (upsertProperty second (upsertProperty first (ensureEntity milk .empty).1).1).1

/-- The reported and the estimated stock of one product, inserted in either order. -/
theorem lanes_change_hash :
    SameContent (milkStore (milkStock .reported 8) (milkStock .estimated 7))
      (milkStore (milkStock .estimated 7) (milkStock .reported 8)) ∧
    (snapshot (milkStore (milkStock .reported 8) (milkStock .estimated 7)) "north" "north"
        ⟨0, ""⟩).projectionHash
      ≠ (snapshot (milkStore (milkStock .estimated 7) (milkStock .reported 8)) "north" "north"
        ⟨0, ""⟩).projectionHash := by
  refine ⟨⟨fun _ => Iff.rfl, fun _ => Iff.rfl, fun p _ => ?_⟩, by decide +kernel⟩
  have hvalues : (milkStore (milkStock .reported 8) (milkStock .estimated 7)).properties.values
      = [milkStock .reported 8, milkStock .estimated 7] := by decide +kernel
  have hvalues' : (milkStore (milkStock .estimated 7) (milkStock .reported 8)).properties.values
      = [milkStock .estimated 7, milkStock .reported 8] := by decide +kernel
  rw [hvalues, hvalues']
  simp only [List.mem_cons, List.not_mem_nil, or_false]
  exact or_comm

end ShelfWise.Twin
