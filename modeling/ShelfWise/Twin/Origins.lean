import ShelfWise.Twin.Script

/-!
# Where observations come from

An event yields at most one observation for each property name, and each carries the id of its event.
So over events with distinct ids the pair of event id and property name tells the observations apart
(`origins_nodup`), and with it the source identity they are deduplicated by. The observation id is a
truncated digest of that pair and the value: that no two of them collide is an assumption
(`IdsApart`). Under it every offered observation can be recorded (`distinct_offeredBy`).
-/

namespace ShelfWise.Twin

open Py Sys TwinStore

/-- The event and the property an observation reports. -/
def TwinObservation.origin (o : TwinObservation) : String × String :=
  (o.sourceObjectId, o.propertyName)

/-! ## Property names -/

theorem names_presentSpecs (twinId entityType displayName : String)
    (rows : List (String × Value × Option String)) :
    ((presentSpecs twinId entityType displayName rows).map (·.propertyName)).Sublist
      (rows.map Prod.fst) := by
  induction rows with
  | nil => exact List.Sublist.refl _
  | cons row rows ih =>
    unfold presentSpecs
    rw [List.filterMap_cons]
    by_cases hnone : row.2.1 = .none
    · simp only [hnone, if_true]
      exact ih.cons _
    · simp only [hnone, if_false, List.map_cons]
      exact ih.cons_cons _

theorem nodup_presentSpecs {twinId entityType displayName : String}
    {rows : List (String × Value × Option String)} (h : (rows.map Prod.fst).Nodup) :
    ((presentSpecs twinId entityType displayName rows).map (·.propertyName)).Nodup :=
  h.sublist (names_presentSpecs twinId entityType displayName rows)

/-- The specifications of an event name each property at most once. -/
theorem nodup_eventSpecs {event : Event} {storeId : String} {specs : List ObservationSpec}
    (h : eventSpecs event storeId = .ok specs) : (specs.map (·.propertyName)).Nodup := by
  unfold eventSpecs at h
  cases htype : event.type with
  | stockUpdate =>
    simp only [htype] at h
    split at h
    · cases h
    · split at h
      · cases h
      · cases h
        exact nodup_presentSpecs (by simp)
  | sale =>
    simp only [htype] at h
    cases h
    exact nodup_presentSpecs (by simp)
  | scan =>
    simp only [htype] at h
    cases h
    exact nodup_presentSpecs (by simp)
  | expiryEntry =>
    simp only [htype] at h
    cases h
    exact nodup_presentSpecs (by simp)
  | coldChainAlert =>
    simp only [htype] at h
    cases h
    refine nodup_presentSpecs ?_
    split <;> simp
  | shipment =>
    simp only [htype] at h
    cases h
    exact nodup_presentSpecs (by simp)
  | supplierUpdate =>
    simp only [htype] at h
    cases h
    -- the row of the product, if there is one, comes after those of the supplier
    split
    · rw [List.map_append]
      exact List.Nodup.sublist ((names_presentSpecs _ _ _ _).append (names_presentSpecs _ _ _ _))
        (by simp)
    · rw [List.append_nil]
      exact nodup_presentSpecs (by simp)
  | recallNotice =>
    simp only [htype] at h
    cases h
    exact nodup_presentSpecs (by simp)
  | inventoryException =>
    simp only [htype] at h
    cases h
    exact nodup_presentSpecs (by simp)

/-! ## Origins -/

theorem origin_of_spec {svc : TwinService} {event : Event} {spec : ObservationSpec}
    {twinId storeId : String} {o : TwinObservation}
    (h : observationForSpec svc event spec twinId storeId = .ok o) :
    o.origin = (event.id, spec.propertyName) := by
  unfold observationForSpec at h
  split at h
  · cases h
  · rw [TwinObservation.eq_of_validated h]
    rfl

theorem origins_specsScript (svc : TwinService) (event : Event) (storeId storeTwinId : String)
    (specs : List ObservationSpec) :
    (((specsScript svc event storeId storeTwinId specs).calls.filterMap
        TwinCall.observation).map TwinObservation.origin).Sublist
      (specs.map fun spec => (event.id, spec.propertyName)) := by
  induction specs with
  | nil => exact List.Sublist.refl _
  | cons spec rest ih =>
    unfold specsScript
    cases (eventSpecEntity event storeId spec).validated with
    | error e => exact List.nil_sublist _
    | ok entity =>
      cases hlink : (linkOf event.tenantId storeTwinId entity.twinId event.ts).validated with
      | error e =>
        simp only [Script.needs, Script.cons, hlink]
        exact List.nil_sublist _
      | ok r =>
        cases ho : observationForSpec svc event spec entity.twinId storeId with
        | error e =>
          simp only [Script.needs, Script.cons, hlink, ho]
          exact List.nil_sublist _
        | ok o =>
          simp only [Script.needs, Script.cons, hlink, ho, List.filterMap_cons,
            TwinCall.observation, List.map_cons, origin_of_spec ho]
          exact ih.cons_cons _

/-- Each comes from the event, and from a property of its own. -/
theorem origins_eventOffers (svc : TwinService) (event : Event) :
    ((eventOffers svc event).map TwinObservation.origin).Nodup ∧
      ∀ o ∈ eventOffers svc event, o.sourceObjectId = event.id := by
  have hnone : ((([] : List TwinObservation)).map TwinObservation.origin).Nodup ∧
      ∀ o ∈ ([] : List TwinObservation), o.sourceObjectId = event.id :=
    ⟨List.nodup_nil, fun o ho => absurd ho List.not_mem_nil⟩
  unfold eventOffers eventScript
  split
  · exact hnone
  · cases storeIdOf event.payload with
    | none => exact hnone
    | some storeId =>
      cases hentity : (eventStoreEntity event storeId).validated with
      | error e =>
        simp only [Script.needs, hentity]
        exact hnone
      | ok entity =>
        cases hspecs : eventSpecs event storeId with
        | error e =>
          simp only [Script.needs, Script.cons, hentity, hspecs]
          exact hnone
        | ok specs =>
          simp only [Script.needs, Script.cons, hentity, hspecs]
          change (((specsScript svc event storeId entity.twinId specs).calls.filterMap
            TwinCall.observation).map TwinObservation.origin).Nodup ∧
              ∀ o ∈ (specsScript svc event storeId entity.twinId specs).calls.filterMap
                TwinCall.observation, o.sourceObjectId = event.id
          have hsub := origins_specsScript svc event storeId entity.twinId specs
          have hnodup : (specs.map fun spec => (event.id, spec.propertyName)).Nodup := by
            have hnames := nodup_eventSpecs hspecs
            refine List.Nodup.of_map Prod.snd ?_
            rwa [List.map_map]
          refine ⟨List.Nodup.sublist hsub hnodup, fun o ho => ?_⟩
          have hmem : o.origin ∈ specs.map fun spec => (event.id, spec.propertyName) :=
            hsub.subset (List.mem_map_of_mem ho)
          rw [List.mem_map] at hmem
          obtain ⟨spec, -, horigin⟩ := hmem
          exact (congrArg Prod.fst horigin).symm

/-- Over events with distinct ids the origins are distinct. -/
theorem origins_nodup (svc : TwinService) {events : List Event}
    (hids : (events.map (·.id)).Nodup) :
    ((offeredBy svc events).map TwinObservation.origin).Nodup := by
  unfold offeredBy
  rw [List.map_flatMap, List.nodup_flatMap]
  refine ⟨fun event _ => (origins_eventOffers svc event).1, ?_⟩
  refine (List.pairwise_map.mp hids).imp fun {event event'} hne => ?_
  intro x hx hx'
  obtain ⟨o, ho, rfl⟩ := List.mem_map.mp hx
  obtain ⟨o', ho', heq⟩ := List.mem_map.mp hx'
  have hid := (origins_eventOffers svc event).2 o ho
  have hid' := (origins_eventOffers svc event').2 o' ho'
  exact hne (hid.symm.trans ((congrArg Prod.fst heq).symm.trans hid'))

/-! ## Distinct observations -/

/-- No two observations of different origin share an id: their truncated digests do not collide. -/
def IdsApart (os : List TwinObservation) : Prop :=
  ∀ o ∈ os, ∀ o' ∈ os, o.observationId = o'.observationId → o.origin = o'.origin

/-- Over events with distinct ids every offered observation can be recorded. -/
theorem distinct_offeredBy {svc : TwinService} {events : List Event}
    (hids : (events.map (·.id)).Nodup) (hapart : IdsApart (offeredBy svc events)) :
    Distinct fun o => o ∈ offeredBy svc events := by
  have hinj := List.inj_on_of_nodup_map (origins_nodup svc hids)
  refine ⟨fun o o' ho ho' hkey => ?_, fun o o' ho ho' hdedupe => ?_⟩
  · exact hinj ho ho' (hapart o ho o' ho' (congrArg Prod.snd hkey))
  · exact hinj ho ho' (Prod.ext (congrArg DedupeKey.sourceObjectId hdedupe)
      (congrArg DedupeKey.propertyName hdedupe))

end ShelfWise.Twin
