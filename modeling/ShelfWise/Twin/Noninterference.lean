import ShelfWise.Sys.Run
import ShelfWise.Twin.Fidelity
import ShelfWise.Twin.Scenario

/-!
# Scenarios and the twin they stand in

A run of the twin next to the same run with the calls of a scenario engine in it. `Shadows` relates
the two stores: the second has the rows of the first and predicted rows besides. Readers do not show
predicted rows by default, so they cannot tell the stores apart (`Shadows.unseen`).

A later observation can: `record_observation` refuses an id that is taken, by whatever row. So the two
runs stay together exactly until an observation comes with the id of a recorded what-if
(`scenario_apart_iff`).
-/

namespace ShelfWise.Twin

open Py Sys TwinStore

/-! ## Two stores -/

/-- A row of the log that readers show by default. -/
def shownObservation (e : (String × String) × TwinObservation) : Bool := e.2.lane ≠ .predicted

/-- A property that readers show by default. -/
def shownProperty (e : PropertyKey × TwinPropertyState) : Bool := e.2.lane ≠ .predicted

/-- The second store has the rows of the first, and predicted rows besides. -/
structure Shadows (s t : TwinStore) : Prop where
  entities : t.entities = s.entities
  relationships : t.relationships = s.relationships
  observations : t.log.observations.entries.filter shownObservation
    = s.log.observations.entries.filter shownObservation
  kept : ∀ k o, s.log.observations.get? k = some o → t.log.observations.get? k = some o
  properties : t.properties.entries.filter shownProperty
    = s.properties.entries.filter shownProperty

theorem Shadows.refl (s : TwinStore) : Shadows s s := ⟨rfl, rfl, rfl, fun _ _ h => h, rfl⟩

/-- What nobody can see of the second store when reading as by default. -/
structure Unseen (s t : TwinStore) : Prop where
  entities : ∀ tenantId storeId, t.listEntities tenantId storeId = s.listEntities tenantId storeId
  relationships : ∀ tenantId storeId,
    t.listRelationships tenantId storeId = s.listRelationships tenantId storeId
  properties : ∀ tenantId storeId,
    t.listProperties tenantId storeId false = s.listProperties tenantId storeId false
  observations : ∀ tenantId storeId limit,
    t.listObservations tenantId storeId limit false = s.listObservations tenantId storeId limit false
  projectionHash : ∀ tenantId storeId generatedAt,
    (snapshot t tenantId storeId generatedAt).projectionHash
      = (snapshot s tenantId storeId generatedAt).projectionHash
  fidelity : ∀ math calibrations tenantId storeId,
    fidelityInputs math ⟨t, calibrations⟩ tenantId storeId
      = fidelityInputs math ⟨s, calibrations⟩ tenantId storeId

theorem Shadows.unseen {s t : TwinStore} (h : Shadows s t) : Unseen s t := by
  have hentityInStore : ∀ twinId tenantId storeId,
      t.entityInStore twinId tenantId storeId = s.entityInStore twinId tenantId storeId := by
    intro twinId tenantId storeId
    unfold TwinStore.entityInStore
    rw [h.entities]
  have hentities : ∀ tenantId storeId,
      t.listEntities tenantId storeId = s.listEntities tenantId storeId := by
    intro tenantId storeId
    unfold TwinStore.listEntities
    rw [h.entities]
  have hrelationships : ∀ tenantId storeId,
      t.listRelationships tenantId storeId = s.listRelationships tenantId storeId := by
    intro tenantId storeId
    unfold TwinStore.listRelationships
    simp only [h.relationships, hentityInStore]
  have hproperties : ∀ tenantId storeId,
      t.listProperties tenantId storeId false = s.listProperties tenantId storeId false := by
    intro tenantId storeId
    unfold TwinStore.listProperties
    simp only [Bool.false_or, hentityInStore]
    exact listing_eq_of_filter_eq _ _ h.properties
  have hobservations : ∀ tenantId storeId limit, t.listObservations tenantId storeId limit false
      = s.listObservations tenantId storeId limit false := by
    intro tenantId storeId limit
    unfold TwinStore.listObservations
    simp only [Bool.false_or]
    exact congrArg (List.take limit) (listing_eq_of_filter_eq _ _ h.observations)
  refine ⟨hentities, hrelationships, hproperties, hobservations, ?_, ?_⟩
  · intro tenantId storeId generatedAt
    simp only [snapshot, canonical, hentities, hrelationships, hproperties]
  · intro math calibrations tenantId storeId
    simp only [fidelityInputs, freshProperties, hentities, hrelationships, hproperties,
      hobservations]

/-! ## Predicted rows -/

/-- A predicted observation about an entity that is there is a row readers do not show. -/
theorem Shadows.predicted {policyFor : SourcePolicyResolver} {now : Timestamp} {s t t' : TwinStore}
    {o : TwinObservation} (h : Shadows s t) (hlane : o.lane = .predicted)
    (hentity : t.entities.contains (o.tenantId, o.twinId) = true)
    (haccepted : Admitted policyFor now t o t') : Shadows s t' where
  entities := by
    rw [haccepted.entities, Dict.setdefault_of_contains hentity]
    exact h.entities
  relationships := haccepted.relationships.trans h.relationships
  observations := by
    rw [haccepted.log, ← h.observations]
    cases href : t.log.refuses o with
    | true => rw [ObservationLog.offer_of_refuses href]
    | false =>
      rw [ObservationLog.offer_of_fresh href]
      have hnone := (ObservationLog.fresh_of_not_refuses href).1
      refine filter_setEntries (by simp [shownObservation, hlane]) fun o' hmem => ?_
      rw [(Dict.mem_entries_iff _ _ _).mp hmem] at hnone
      cases hnone
  kept := by
    intro k o' hget
    rw [haccepted.log]
    have hrec := (ObservationLog.recorded_of_get? (h.kept k o' hget)).offer o
    have hkey := s.log.keyed k o' hget
    rw [hkey]
    exact hrec
  properties := by
    rw [haccepted.properties, ← h.properties]
    split
    · rfl
    · refine filter_setEntries (by simp [shownProperty, stateOf, hlane]) fun p hmem => ?_
      -- a row stands under the lane of its key
      have hkey := t.properties_keyed _ p ((Dict.mem_entries_iff _ _ _).mp hmem)
      have hpredicted : p.lane = .predicted :=
        (congrArg PropertyKey.lane hkey).symm.trans hlane
      simp [shownProperty, hpredicted]

/-- The engine only writes what readers do not show. -/
theorem Shadows.scenario {s : TwinStore} {st : ScenarioSide} (h : Shadows s st.twin)
    (svc : TwinService) (confidenceOf : Confidence → PyFloat) (c : ScenarioCall) :
    Shadows s (st.call svc confidenceOf c).1.twin := by
  rcases call_cases svc confidenceOf st c with heq | ⟨items, branch, heq⟩
  · rw [heq]
    exact h
  · rw [heq]
    exact applyDeltas_invariant (I := fun t => Shadows s t)
      (fun _ _ _ _ ht hlane hentity haccepted => ht.predicted hlane hentity haccepted) items branch h

/-! ## Calls on both stores -/

/-- What an observation finds taken in the second store only: its id, by a predicted row. -/
def Blocked (s t : TwinStore) (o : TwinObservation) : Prop :=
  s.log.refuses o = false ∧ t.log.observations.contains o.key = true

/-- An observation of a lane that is not predicted. -/
abbrev FactualObservation := { o : TwinObservation // o.lane ≠ .predicted }

section Steps

variable {policyFor : SourcePolicyResolver} {now : Timestamp} {s t : TwinStore}

/-- The stores refuse the same source identities. -/
theorem Shadows.mem_dedupe_iff (h : Shadows s t) {d : DedupeKey} (hd : d.lane ≠ .predicted) :
    d ∈ t.log.dedupe ↔ d ∈ s.log.dedupe := by
  have hmem : ∀ {a b : TwinStore}, a.log.observations.entries.filter shownObservation
      = b.log.observations.entries.filter shownObservation → d ∈ a.log.dedupe → d ∈ b.log.dedupe := by
    intro a b hab hin
    obtain ⟨k, o, hget, hkey⟩ := (a.log.mem_dedupe d).mp hin
    have hshown : shownObservation (k, o) = true := by
      subst hkey
      exact decide_eq_true hd
    have hrow : (k, o) ∈ a.log.observations.entries.filter shownObservation :=
      List.mem_filter.mpr ⟨(Dict.mem_entries_iff _ _ _).mpr hget, hshown⟩
    rw [hab] at hrow
    exact (b.log.mem_dedupe d).mpr
      ⟨k, o, (Dict.mem_entries_iff _ _ _).mp (List.mem_filter.mp hrow).1, hkey⟩
  exact ⟨hmem h.observations, hmem h.observations.symm⟩

/-- Unless it is blocked, an observation is refused in both stores or in neither. -/
theorem Shadows.refuses_eq (h : Shadows s t) (o : FactualObservation) (hfree : ¬ Blocked s t o.1) :
    t.log.refuses o.1 = s.log.refuses o.1 := by
  cases hs : s.log.refuses o.1 with
  | true =>
    obtain ⟨o', hrec, hsame⟩ := ObservationLog.refuses_iff_exists.mp hs
    exact ObservationLog.refuses_iff_exists.mpr ⟨o', h.kept _ _ hrec, hsame⟩
  | false =>
    have hkey : t.log.observations.contains o.1.key = false := by
      rw [← Bool.not_eq_true]
      exact fun hcontains => hfree ⟨hs, hcontains⟩
    have hdedupe : o.1.dedupeKey ∉ t.log.dedupe := by
      rw [h.mem_dedupe_iff o.2]
      exact (ObservationLog.fresh_of_not_refuses hs).2
    rw [ObservationLog.refuses, hkey, decide_eq_false hdedupe]
    rfl

theorem shown_of_lane {s : TwinStore} {key : PropertyKey} (hlane : key.lane ≠ .predicted)
    (p : TwinPropertyState) (hget : s.properties.get? key = some p) :
    shownProperty (key, p) = true := by
  have hkey := congrArg PropertyKey.lane (s.properties_keyed key p hget)
  exact decide_eq_true fun hp => hlane (hkey.trans hp)

/-- The stores agree in the properties that are not predicted. -/
theorem Shadows.get?_properties (h : Shadows s t) (key : PropertyKey) (hlane : key.lane ≠ .predicted) :
    t.properties.get? key = s.properties.get? key :=
  get?_eq_of_filter_eq h.properties (shown_of_lane hlane) (shown_of_lane hlane)

/-- The answer of `apply`. -/
theorem snd_run_apply (o : TwinObservation) (s : TwinStore) :
    ((apply policyFor now o).run s).2 =
      if s.log.refuses o = true then ⟨.duplicate, o.observationId, "already recorded", none⟩
      else if loses policyFor (s.properties.get? o.facts.key) o = true then
        ⟨.recordedNotProjected, o.observationId, "older or lower-authority observation",
          s.properties.get? o.facts.key⟩
      else ⟨.projected, o.observationId, "accepted", some (stateOf policyFor now o)⟩ := by
  have hanswer : (recordObservation o s).2 = !s.log.refuses o := rfl
  rw [apply, Program.run_bind, Program.run_call, hanswer]
  cases s.log.refuses o with
  | true => rfl
  | false =>
    rw [if_neg (by simp)]
    change ((applyRead policyFor now o (s.properties.get? o.facts.key)).run _).2 = _
    unfold applyRead
    split <;> rfl

variable (policyFor now) in
/-- A blocked observation is told apart. -/
theorem Shadows.snd_apply_iff (h : Shadows s t) (o : FactualObservation) :
    ((apply policyFor now o.1).run s).2 = ((apply policyFor now o.1).run t).2 ↔
      ¬ Blocked s t o.1 := by
  constructor
  · rintro heq ⟨hs, ht⟩
    have hrefused : t.log.refuses o.1 = true := by
      rw [ObservationLog.refuses, ht]
      rfl
    rw [snd_run_apply, snd_run_apply, hs, hrefused, if_neg (by simp), if_pos rfl] at heq
    have hstatus := congrArg ProjectionResult.status heq
    split at hstatus <;> cases hstatus
  · intro hfree
    rw [snd_run_apply, snd_run_apply, h.refuses_eq o hfree,
      h.get?_properties o.1.facts.key o.2]

/-- An observation that is not blocked keeps the stores together. -/
theorem Shadows.apply (h : Shadows s t) (o : FactualObservation) (hfree : ¬ Blocked s t o.1) :
    Shadows ((apply policyFor now o.1).run s).1 ((apply policyFor now o.1).run t).1 := by
  have hrefuses := h.refuses_eq o hfree
  have hproperty := h.get?_properties o.1.facts.key o.2
  obtain ⟨hentities, hrelationships⟩ := run_apply_tables policyFor now o.1 s
  obtain ⟨hentities', hrelationships'⟩ := run_apply_tables policyFor now o.1 t
  constructor
  · rw [hentities, hentities', h.entities]
  · rw [hrelationships, hrelationships', h.relationships]
  · rw [log_run_apply, log_run_apply]
    cases hs : s.log.refuses o.1 with
    | true =>
      rw [ObservationLog.offer_of_refuses hs, ObservationLog.offer_of_refuses (hrefuses.trans hs)]
      exact h.observations
    | false =>
      rw [ObservationLog.offer_of_fresh hs, ObservationLog.offer_of_fresh (hrefuses.trans hs)]
      have hshown : shownObservation (o.1.key, o.1) = true := decide_eq_true o.2
      have hnew : ∀ {a : TwinStore}, a.log.refuses o.1 = false → ∀ v,
          (o.1.key, v) ∈ a.log.observations.entries → shownObservation (o.1.key, v) = true := by
        intro a ha v hmem
        have hnone := (ObservationLog.fresh_of_not_refuses ha).1
        rw [(Dict.mem_entries_iff _ _ _).mp hmem] at hnone
        cases hnone
      change (Dict.setEntries _ _ _).filter _ = (Dict.setEntries _ _ _).filter _
      rw [filter_setEntries_shown hshown (hnew hs),
        filter_setEntries_shown hshown (hnew (hrefuses.trans hs)), h.observations]
  · intro k o' hget
    rw [log_run_apply] at hget ⊢
    cases hs : s.log.refuses o.1 with
    | true =>
      rw [ObservationLog.offer_of_refuses hs] at hget
      rw [ObservationLog.offer_of_refuses (hrefuses.trans hs)]
      exact h.kept k o' hget
    | false =>
      rw [ObservationLog.offer_of_fresh hs] at hget
      rw [ObservationLog.offer_of_fresh (hrefuses.trans hs)]
      change (t.log.observations.set o.1.key o.1).get? k = some o'
      change (s.log.observations.set o.1.key o.1).get? k = some o' at hget
      rw [Dict.get?_set] at hget ⊢
      split at hget
      · next hk =>
        rw [if_pos hk]
        exact hget
      · next hk =>
        rw [if_neg hk]
        exact h.kept k o' hget
  · rw [properties_run_apply, properties_run_apply, hrefuses, hproperty]
    split
    · exact h.properties
    · have hshown : shownProperty (o.1.facts.key, stateOf policyFor now o.1) = true :=
        decide_eq_true o.2
      change (Dict.setEntries _ _ _).filter _ = (Dict.setEntries _ _ _).filter _
      rw [filter_setEntries_shown hshown fun v hmem => shown_of_lane o.2 v ((Dict.mem_entries_iff _ _ _).mp hmem),
        filter_setEntries_shown hshown fun v hmem => shown_of_lane o.2 v ((Dict.mem_entries_iff _ _ _).mp hmem),
        h.properties]

end Steps

/-! ## Runs side by side -/

/-- What happens: to the twin in both runs, or in the engine of the second one. -/
inductive TwinMove where
  | ensure (entity : TwinEntity)
  | link (relationship : TwinRelationship)
  | observe (now : Timestamp) (o : FactualObservation)
  | scenario (c : ScenarioCall)

/-- The twin without the engine, and the one the engine works on. -/
abbrev SideBySide := TwinStore × ScenarioSide

/-- What the runs have answered to an observation. -/
abbrev MoveAnswers := Option ProjectionResult × Option ProjectionResult

/-- A move in both runs. -/
def sideBySide (svc : TwinService) (confidenceOf : Confidence → PyFloat) (st : SideBySide) :
    TwinMove → SideBySide × MoveAnswers
  | .ensure entity =>
    (((ensureEntity entity st.1).1, { st.2 with twin := (ensureEntity entity st.2.twin).1 }),
      (none, none))
  | .link r =>
    (((addRelationship r st.1).1, { st.2 with twin := (addRelationship r st.2.twin).1 }), (none, none))
  | .observe now o =>
    let done := (apply svc.policyFor now o.1).run st.1
    let done' := (apply svc.policyFor now o.1).run st.2.twin
    ((done.1, { st.2 with twin := done'.1 }), (some done.2, some done'.2))
  | .scenario c => ((st.1, (st.2.call svc confidenceOf c).1), (none, none))

/-- A step of the runs after which nobody can tell them apart. -/
def Together (step : Step SideBySide TwinMove MoveAnswers) : Prop :=
  Unseen step.after.1 step.after.2.twin ∧ step.output.1 = step.output.2

/-- A step whose observation finds its id taken by a predicted row. -/
def Collides (step : Step SideBySide TwinMove MoveAnswers) : Prop :=
  ∃ now o, step.input = .observe now o ∧ Blocked step.before.1 step.before.2.twin o.1

theorem Shadows.ensureEntity {s t : TwinStore} (h : Shadows s t) (entity : TwinEntity) :
    Shadows (ensureEntity entity s).1 (ensureEntity entity t).1 where
  entities := congrArg (Dict.setdefault · entity.key entity) h.entities
  relationships := h.relationships
  observations := h.observations
  kept := h.kept
  properties := h.properties

theorem Shadows.addRelationship {s t : TwinStore} (h : Shadows s t) (r : TwinRelationship) :
    Shadows (addRelationship r s).1 (addRelationship r t).1 where
  entities := h.entities
  relationships := congrArg (Dict.setdefault · r.key r) h.relationships
  observations := h.observations
  kept := h.kept
  properties := h.properties

/-- A step stays together exactly when it does not collide, and then the stores stay related. -/
theorem together_step (svc : TwinService) (confidenceOf : Confidence → PyFloat) {st : SideBySide}
    (h : Shadows st.1 st.2.twin) (move : TwinMove) :
    (Together (stepOf (sideBySide svc confidenceOf) st move) ↔
        ¬ Collides (stepOf (sideBySide svc confidenceOf) st move)) ∧
      (¬ Collides (stepOf (sideBySide svc confidenceOf) st move) →
        Shadows (sideBySide svc confidenceOf st move).1.1
          (sideBySide svc confidenceOf st move).1.2.twin) := by
  cases move with
  | ensure entity =>
    have hafter := h.ensureEntity entity
    refine ⟨iff_of_true ⟨hafter.unseen, rfl⟩ ?_, fun _ => hafter⟩
    rintro ⟨_, _, hinput, -⟩
    cases hinput
  | link r =>
    have hafter := h.addRelationship r
    refine ⟨iff_of_true ⟨hafter.unseen, rfl⟩ ?_, fun _ => hafter⟩
    rintro ⟨_, _, hinput, -⟩
    cases hinput
  | scenario c =>
    have hafter := h.scenario svc confidenceOf c
    refine ⟨iff_of_true ⟨hafter.unseen, rfl⟩ ?_, fun _ => hafter⟩
    rintro ⟨_, _, hinput, -⟩
    cases hinput
  | observe now o =>
    have hcollides : Collides (stepOf (sideBySide svc confidenceOf) st (.observe now o)) ↔
        Blocked st.1 st.2.twin o.1 := by
      constructor
      · rintro ⟨_, _, hinput, hblocked⟩
        cases hinput
        exact hblocked
      · exact fun hblocked => ⟨now, o, rfl, hblocked⟩
    have hanswers := h.snd_apply_iff svc.policyFor now o
    rw [hcollides]
    refine ⟨⟨fun htogether => hanswers.mp (Option.some.inj htogether.2), fun hfree => ?_⟩,
      fun hfree => h.apply o hfree⟩
    exact ⟨(h.apply o hfree).unseen, congrArg some (hanswers.mpr hfree)⟩

/-- The runs of a twin with and without the calls of a scenario engine show the same to every reader
and answer every observation alike, exactly when no observation comes with the id of a predicted row
that only the engine has recorded. -/
theorem scenario_apart_iff (svc : TwinService) (confidenceOf : Confidence → PyFloat)
    (twin : TwinStore) (branches : BranchStore) (moves : List TwinMove) :
    (∀ step ∈ trace (sideBySide svc confidenceOf) (twin, ⟨twin, branches⟩) moves, Together step) ↔
      ∀ step ∈ trace (sideBySide svc confidenceOf) (twin, ⟨twin, branches⟩) moves,
        ¬ Collides step := by
  suffices hrun : ∀ st : SideBySide, Shadows st.1 st.2.twin →
      ((∀ step ∈ trace (sideBySide svc confidenceOf) st moves, Together step) ↔
        ∀ step ∈ trace (sideBySide svc confidenceOf) st moves, ¬ Collides step) from
    hrun _ (Shadows.refl twin)
  induction moves with
  | nil => exact fun _ _ => iff_of_true (fun _ h => nomatch h) (fun _ h => nomatch h)
  | cons move moves ih =>
    intro st h
    obtain ⟨hstep, hafter⟩ := together_step svc confidenceOf h move
    rw [trace, List.forall_mem_cons, List.forall_mem_cons, hstep]
    constructor
    · rintro ⟨hfree, hrest⟩
      exact ⟨hfree, (ih _ (hafter hfree)).mp hrest⟩
    · rintro ⟨hfree, hrest⟩
      exact ⟨hfree, (ih _ (hafter hfree)).mpr hrest⟩

/-- A warmer fridge. -/
def warmerFridge : ScenarioDelta :=
  ⟨"urn:shelfwise:tenant_a:store_b:fixture:fridge_1", "cold_chain.average_temp_c", .int 9, some "degC"⟩

/-- A reading that comes with the id of the what-if. -/
def clashingReading : FactualObservation :=
  ⟨fridgeReading "store_b" ("scenario_" ++ take 32 (deltaDigest "warmer" warmerFridge)) 5, by decide⟩

/-- A branch takes the id of a later reading, which is refused as a duplicate. -/
theorem scenario_takes_id :
    ¬ ∀ (svc : TwinService) (confidenceOf : Confidence → PyFloat) (twin : TwinStore)
      (branches : BranchStore) (moves : List TwinMove),
      ∀ step ∈ trace (sideBySide svc confidenceOf) (twin, ⟨twin, branches⟩) moves,
        Together step := by
  intro h
  have hstep := h defaultService (fun c => c.reliability) fridgeTwin Dict.empty
    [.scenario (.create ⟨3, ""⟩ (fun _ => (⟨3, ""⟩, ⟨4, ""⟩)) "tenant_a" "store_b"
      ⟨"warmer", [], [warmerFridge]⟩), .observe ⟨6, ""⟩ clashingReading] _
    (List.mem_cons_of_mem _ List.mem_cons_self)
  exact absurd hstep.2 (by decide +kernel)

end ShelfWise.Twin
