import ShelfWise.Twin.FirstWriters

/-!
# What a snapshot digests

For a store whose rows all belong to one tenant and store (`Home`), the document `snapshot` digests
shows every entity and every relationship, so two such documents are the same exactly when the tables
show the same under every key (`canonical_eq_iff`). With `Follows` that becomes a statement about
the calls alone: the first writers of the two lists of calls agree.
-/

namespace ShelfWise.Twin

open Py Sys TwinStore

variable {tenantId storeId : String}

/-! ## Calls of one store -/

/-- The call is about the tenant and the store; links start at the store's root. -/
def TwinCall.AtHome (tenantId storeId : String) : TwinCall → Prop
  | .ensure e => e.tenantId = tenantId ∧ e.storeId = storeId
  | .link r => r.tenantId = tenantId ∧ r.sourceTwinId = urn tenantId storeId "store" storeId
  | .observe o => o.lane = .reported ∧ o.scenarioBranchId = none

/-- Every call is about the tenant and the store, and the root is among the entities. -/
structure AtHome (tenantId storeId : String) (calls : List TwinCall) : Prop where
  each : ∀ c ∈ calls, c.AtHome tenantId storeId
  rooted : calls ≠ [] →
    ∃ d, firstEntity calls (tenantId, urn tenantId storeId "store" storeId) = some d

theorem atHome_nil : AtHome tenantId storeId [] :=
  ⟨fun _ hc => absurd hc List.not_mem_nil, fun h => absurd rfl h⟩

theorem AtHome.append {calls calls' : List TwinCall} (h : AtHome tenantId storeId calls)
    (h' : AtHome tenantId storeId calls') : AtHome tenantId storeId (calls ++ calls') := by
  refine ⟨fun c hc => ?_, fun hne => ?_⟩
  · rcases List.mem_append.mp hc with hc | hc
    · exact h.each c hc
    · exact h'.each c hc
  · by_cases hnil : calls = []
    · subst hnil
      exact h'.rooted hne
    · obtain ⟨d, hd⟩ := h.rooted hnil
      refine ⟨d, ?_⟩
      rw [firstEntity, List.findSome?_append, ← firstEntity, hd, Option.some_or]

/-- Calls that start by ensuring the root. -/
theorem atHome_cons {root : TwinEntity} {calls : List TwinCall} (htenant : root.tenantId = tenantId)
    (hstore : root.storeId = storeId) (hid : root.twinId = urn tenantId storeId "store" storeId)
    (h : ∀ c ∈ calls, c.AtHome tenantId storeId) :
    AtHome tenantId storeId (.ensure root :: calls) := by
  refine ⟨fun c hc => ?_, fun _ => ⟨root.doc, ?_⟩⟩
  · rcases List.mem_cons.mp hc with rfl | hc
    · exact ⟨htenant, hstore⟩
    · exact h c hc
  · have hkey : root.key = (tenantId, urn tenantId storeId "store" storeId) :=
      Prod.ext htenant hid
    rw [firstEntity, List.findSome?_cons, TwinCall.entityDoc, if_pos hkey]

/-! ## Documents show their rows -/

theorem TwinEntity.doc_inj {e e' : TwinEntity} (h : e.doc = e'.doc) :
    e.key = e'.key ∧ e.storeId = e'.storeId := by
  simp only [TwinEntity.doc, Value.dict.injEq, List.cons.injEq, Prod.mk.injEq, Value.str.injEq,
    true_and] at h
  exact ⟨Prod.ext h.2.1 h.1, h.2.2.1⟩

theorem TwinRelationship.doc_inj {r r' : TwinRelationship} (h : r.doc = r'.doc) :
    r.key = r'.key ∧ r.sourceTwinId = r'.sourceTwinId ∧ r.targetTwinId = r'.targetTwinId := by
  simp only [TwinRelationship.doc, Value.dict.injEq, List.cons.injEq, Prod.mk.injEq,
    Value.str.injEq, true_and] at h
  exact ⟨Prod.ext h.2.1 h.1, h.2.2.1, h.2.2.2.2.1⟩

theorem firstEntity_eq_some {calls : List TwinCall} {k : String × String} {d : Value}
    (h : firstEntity calls k = some d) : ∃ e, .ensure e ∈ calls ∧ e.doc = d := by
  obtain ⟨c, hc, hdoc⟩ := List.exists_of_findSome?_eq_some h
  cases c with
  | ensure e =>
    simp only [TwinCall.entityDoc] at hdoc
    split at hdoc
    · exact ⟨e, hc, Option.some.inj hdoc⟩
    · cases hdoc
  | link r => cases hdoc
  | observe o => cases hdoc

theorem firstRelationship_eq_some {calls : List TwinCall} {k : String × String} {d : Value}
    (h : firstRelationship calls k = some d) : ∃ r, .link r ∈ calls ∧ r.doc = d := by
  obtain ⟨c, hc, hdoc⟩ := List.exists_of_findSome?_eq_some h
  cases c with
  | link r =>
    simp only [TwinCall.relationshipDoc] at hdoc
    split at hdoc
    · exact ⟨r, hc, Option.some.inj hdoc⟩
    · cases hdoc
  | ensure e => cases hdoc
  | observe o => cases hdoc

/-! ## Stores of one tenant and store -/

/-- Every row belongs to the tenant and the store. -/
structure Home (tenantId storeId : String) (s : TwinStore) : Prop where
  entity : ∀ k e, s.entities.get? k = some e → e.tenantId = tenantId ∧ e.storeId = storeId
  relationship : ∀ k r, s.relationships.get? k = some r →
    r.tenantId = tenantId ∧ s.entityInStore r.sourceTwinId tenantId storeId = true
  property : ∀ k p, s.properties.get? k = some p → p.lane = .reported ∧ p.scenarioBranchId = none

/-- What calls make of the empty store. -/
abbrev Built (policyFor : SourcePolicyResolver) (calls : List TwinCall) (s : TwinStore) : Prop :=
  Follows policyFor .empty calls s

variable {policyFor : SourcePolicyResolver} {calls calls' : List TwinCall} {s s' : TwinStore}

theorem Built.entityDoc (h : Built policyFor calls s) (k : String × String) :
    s.entityDoc k = firstEntity calls k := h.entities k

theorem Built.relationshipDoc (h : Built policyFor calls s) (k : String × String) :
    s.relationshipDoc k = firstRelationship calls k := h.relationships k

theorem Built.offered (h : Built policyFor calls s) {o : TwinObservation} (ho : s.Recorded o) :
    .observe o ∈ calls := by
  unfold Recorded at ho
  rw [h.log] at ho
  have hmem := (ObservationLog.mem_of_recorded_offerAll ho).resolve_right
    (ObservationLog.not_recorded_empty o)
  obtain ⟨c, hc, hobs⟩ := List.mem_filterMap.mp hmem
  cases c with
  | observe o' => exact Option.some.inj hobs ▸ hc
  | ensure e => cases hobs
  | link r => cases hobs

theorem Built.home (h : Built policyFor calls s) (hc : AtHome tenantId storeId calls) :
    Home tenantId storeId s := by
  have hentity : ∀ k e, s.entities.get? k = some e →
      e.tenantId = tenantId ∧ e.storeId = storeId := by
    intro k e hget
    have hdoc : s.entityDoc k = some e.doc := by rw [TwinStore.entityDoc, hget, Option.map_some]
    rw [h.entityDoc] at hdoc
    obtain ⟨e', hmem, he'⟩ := firstEntity_eq_some hdoc
    obtain ⟨hkey, hstore⟩ := TwinEntity.doc_inj he'
    obtain ⟨htenant, hstore'⟩ := hc.each _ hmem
    exact ⟨(congrArg Prod.fst hkey).symm.trans htenant, hstore.symm.trans hstore'⟩
  refine ⟨hentity, fun k r hget => ?_, fun k p hget => ?_⟩
  · have hdoc : s.relationshipDoc k = some r.doc := by
      rw [TwinStore.relationshipDoc, hget, Option.map_some]
    rw [h.relationshipDoc] at hdoc
    obtain ⟨r', hmem, hr'⟩ := firstRelationship_eq_some hdoc
    obtain ⟨hkey, hsource, -⟩ := TwinRelationship.doc_inj hr'
    obtain ⟨htenant, hroot⟩ := hc.each _ hmem
    refine ⟨(congrArg Prod.fst hkey).symm.trans htenant, ?_⟩
    -- a link is only made when the root has been ensured
    obtain ⟨d, hd⟩ := hc.rooted (List.ne_nil_of_mem hmem)
    rw [← h.entityDoc] at hd
    obtain ⟨e, hroot', -⟩ := Option.map_eq_some_iff.mp hd
    rw [← hsource, hroot, entityInStore, hroot']
    exact decide_eq_true (hentity _ e hroot').2
  · have hcov := h.covered (covered_empty policyFor _)
    have htable : s.table k = some p.facts := by rw [TwinStore.table, hget, Option.map_some]
    obtain ⟨o, ho, hfacts⟩ := (hcov.held k p.facts htable).1
    obtain ⟨hlane, hbranch⟩ := hc.each _ (h.offered ho)
    exact ⟨(congrArg PropertyFacts.lane hfacts).symm.trans hlane,
      (congrArg PropertyFacts.scenarioBranchId hfacts).symm.trans hbranch⟩

/-! ## Listings -/

theorem Home.sorts_entities (h : Home tenantId storeId s) (keep : (String × String) × TwinEntity → Bool) :
    SortsBy s.entities (·.twinId) keep fun i => (tenantId, i) := by
  refine ⟨fun k e hget _ => ?_, fun i e hget => ?_⟩
  · rw [s.entities_keyed k e hget]
    exact Prod.ext (h.entity k e hget).1 rfl
  · exact (congrArg Prod.snd (s.entities_keyed _ e hget)).symm

theorem Home.sorts_relationships (h : Home tenantId storeId s)
    (keep : (String × String) × TwinRelationship → Bool) :
    SortsBy s.relationships (·.relationshipId) keep fun i => (tenantId, i) := by
  refine ⟨fun k r hget _ => ?_, fun i r hget => ?_⟩
  · rw [s.relationships_keyed k r hget]
    exact Prod.ext (h.relationship k r hget).1 rfl
  · exact (congrArg Prod.snd (s.relationships_keyed _ r hget)).symm

theorem Home.sorts_properties (h : Home tenantId storeId s)
    {keep : PropertyKey × TwinPropertyState → Bool}
    (hkeep : ∀ e, keep e = true → e.1.tenantId = tenantId) :
    SortsBy s.properties (fun p => toLex (p.twinId, p.propertyName)) keep
      fun x => ⟨tenantId, (ofLex x).1, (ofLex x).2, .reported, ""⟩ := by
  refine ⟨fun k p hget hk => ?_, fun x p hget => ?_⟩
  · have hkey := s.properties_keyed k p hget
    obtain ⟨hlane, hbranch⟩ := h.property k p hget
    have htenant := hkeep (k, p) hk
    rw [hkey] at htenant ⊢
    simp only [TwinPropertyState.key, propertyKey, hlane, hbranch, Option.getD_none,
      ofLex_toLex] at htenant ⊢
    rw [htenant]
  · have hkey := s.properties_keyed _ p hget
    exact congrArg toLex
      (Prod.ext (congrArg PropertyKey.twinId hkey) (congrArg PropertyKey.propertyName hkey)).symm

theorem entityInStore_congr (h : ∀ k, s.entityDoc k = s'.entityDoc k) (twinId : String) :
    s.entityInStore twinId tenantId storeId = s'.entityInStore twinId tenantId storeId := by
  have hdoc := h (tenantId, twinId)
  unfold TwinStore.entityDoc at hdoc
  unfold entityInStore
  cases hget : s.entities.get? (tenantId, twinId) with
  | none =>
    rw [hget, Option.map_none] at hdoc
    rw [Option.map_eq_none_iff.mp hdoc.symm]
  | some e =>
    rw [hget, Option.map_some] at hdoc
    obtain ⟨e', hget', hdoc'⟩ := Option.map_eq_some_iff.mp hdoc.symm
    rw [hget']
    simp only [(TwinEntity.doc_inj hdoc').2]

theorem listEntities_congr (h : Home tenantId storeId s) (h' : Home tenantId storeId s')
    (hdoc : ∀ k, s.entityDoc k = s'.entityDoc k) :
    (s.listEntities tenantId (some storeId)).map TwinEntity.doc
      = (s'.listEntities tenantId (some storeId)).map TwinEntity.doc := by
  refine map_listing_eq (h.sorts_entities _) (h'.sorts_entities _) hdoc fun k e e' hd => ?_
  simp only [(TwinEntity.doc_inj hd).2]

theorem listRelationships_congr (h : Home tenantId storeId s) (h' : Home tenantId storeId s')
    (hentities : ∀ k, s.entityDoc k = s'.entityDoc k)
    (hdoc : ∀ k, s.relationshipDoc k = s'.relationshipDoc k) :
    (s.listRelationships tenantId (some storeId)).map TwinRelationship.doc
      = (s'.listRelationships tenantId (some storeId)).map TwinRelationship.doc := by
  refine map_listing_eq (h.sorts_relationships _) (h'.sorts_relationships _) hdoc
    fun k r r' hd => ?_
  obtain ⟨-, hsource, htarget⟩ := TwinRelationship.doc_inj hd
  simp only [hsource, htarget, entityInStore_congr hentities]

theorem listProperties_congr (h : Home tenantId storeId s) (h' : Home tenantId storeId s')
    (hentities : ∀ k, s.entityDoc k = s'.entityDoc k) (htable : s.table = s'.table) :
    (s.listProperties tenantId (some storeId) false).map TwinPropertyState.facts
      = (s'.listProperties tenantId (some storeId) false).map TwinPropertyState.facts := by
  refine map_listing_eq (h.sorts_properties ?_) (h'.sorts_properties ?_) (congrFun htable)
    fun k p p' hd => ?_
  · intro e he
    simp only [Bool.and_eq_true, decide_eq_true_eq] at he
    exact he.1.1
  · intro e he
    simp only [Bool.and_eq_true, decide_eq_true_eq] at he
    exact he.1.1
  · have hlane : p.lane = p'.lane := congrArg PropertyFacts.lane hd
    simp only [hlane, entityInStore_congr hentities]

/-- Two stores of one tenant and store with the same property states have the same document exactly
when they show the same entities and relationships. -/
theorem canonical_eq_iff (h : Home tenantId storeId s) (h' : Home tenantId storeId s')
    (htable : s.table = s'.table) :
    canonical s tenantId storeId = canonical s' tenantId storeId ↔
      (∀ k, s.entityDoc k = s'.entityDoc k) ∧ ∀ k, s.relationshipDoc k = s'.relationshipDoc k := by
  constructor
  · intro heq
    simp only [canonical, Value.dict.injEq, List.cons.injEq, Prod.mk.injEq, Value.list.injEq,
      true_and] at heq
    obtain ⟨hentities, hrelationships, -⟩ := heq
    constructor
    · intro k
      refine map_get?_eq_of_listing s.entities_keyed s'.entities_keyed ?_ ?_
        (fun e e' hd => (TwinEntity.doc_inj hd).1) hentities k
      · intro k e hget
        obtain ⟨htenant, hstore⟩ := h.entity k e hget
        rw [s.entities_keyed k e hget]
        simp [TwinEntity.key, htenant, hstore]
      · intro k e hget
        obtain ⟨htenant, hstore⟩ := h'.entity k e hget
        rw [s'.entities_keyed k e hget]
        simp [TwinEntity.key, htenant, hstore]
    · intro k
      refine map_get?_eq_of_listing s.relationships_keyed s'.relationships_keyed ?_ ?_
        (fun r r' hd => (TwinRelationship.doc_inj hd).1) hrelationships k
      · intro k r hget
        obtain ⟨htenant, hsource⟩ := h.relationship k r hget
        rw [s.relationships_keyed k r hget]
        simp [TwinRelationship.key, htenant, hsource]
      · intro k r hget
        obtain ⟨htenant, hsource⟩ := h'.relationship k r hget
        rw [s'.relationships_keyed k r hget]
        simp [TwinRelationship.key, htenant, hsource]
  · rintro ⟨hentities, hrelationships⟩
    have hproperties := congrArg (List.map PropertyFacts.doc)
      (listProperties_congr h h' hentities htable)
    simp only [List.map_map] at hproperties
    unfold canonical
    rw [listEntities_congr h h' hentities, listRelationships_congr h h' hentities hrelationships]
    exact congrArg (fun l => Value.dict [_, _, ("properties", Value.list l)]) hproperties

end ShelfWise.Twin
