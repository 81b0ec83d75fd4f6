import ShelfWise.Twin.Accept
import ShelfWise.Twin.Fidelity
import ShelfWise.Sys.Run
import ShelfWise.Py.Window
import ShelfWise.Py.DecimalValue

/-!
# Fidelity over histories

`calculate_fidelity` of `shelfwise_twin/fidelity.py` on exact numbers, and what accepted observations do
to the score of one store. Agreement and projection health look at the 500 newest observations and not at
the current properties, so a value that changes counts as a contradiction, and every further reading of
the same properties takes some of the projection health away. `agreed_iff` and `weighted_le_iff` say
exactly when neither happens, and `healthy_history` follows for every run.
-/

namespace ShelfWise.Twin.Exact

open Py Sys TwinStore

/-! ## The score -/

/-- `_bounded`. -/
def bounded (x : ℚ) : ℚ := max 0 (min 1 x)

/-- `_bounded` of a double: a value that is no number is not below one. -/
def boundedFloat (f : PyFloat) : ℚ :=
  match f.value with
  | .finite q => bounded q
  | .infinity negative => if negative then 0 else 1
  | .nan => 1

/-- `FidelityScore`. -/
structure FidelityScore where
  total : ℚ
  dimensions : List (String × ℚ)
  weakestDimension : Option String
deriving DecidableEq

/-- `WEIGHTS`. -/
def weights : List (String × ℚ) :=
  [("identity", 15 / 100), ("topology", 10 / 100), ("freshness", 20 / 100), ("provenance", 15 / 100),
    ("agreement", 15 / 100), ("projection", 10 / 100), ("calibration", 15 / 100)]

/-- The dimensions of a score. -/
def dimensions (value : FidelityInputs) : List (String × ℚ) :=
  [("identity", bounded value.identityCoverage), ("topology", bounded value.topologyCoverage),
    ("freshness", bounded value.freshPropertyRatio), ("provenance", bounded value.provenanceRatio),
    ("agreement", bounded value.sourceAgreement), ("projection", bounded value.projectionHealth),
    ("calibration", boundedFloat value.calibrationScore)]

/-- The total before it is rounded. -/
def weighted (value : FidelityInputs) : ℚ :=
  (weights.map fun weight => ((dimensions value).lookup weight.1).getD 0 * weight.2).sum * 100

/-- `calculate_fidelity`. -/
def calculateFidelity (value : FidelityInputs) : FidelityScore where
  total := Decimal.atPlace .halfEven (-1) (weighted value)
  dimensions := dimensions value
  weakestDimension := ((dimensions value).argmin Prod.snd).map Prod.fst

theorem weighted_eq (value : FidelityInputs) : weighted value =
    15 * bounded value.identityCoverage + 10 * bounded value.topologyCoverage
      + 20 * bounded value.freshPropertyRatio + 15 * bounded value.provenanceRatio
      + 15 * bounded value.sourceAgreement + 10 * bounded value.projectionHealth
      + 15 * boundedFloat value.calibrationScore := by
  simp [weighted, weights, dimensions, List.lookup]
  ring

theorem total_mono {value value' : FidelityInputs} (h : weighted value ≤ weighted value') :
    (calculateFidelity value).total ≤ (calculateFidelity value').total := by
  have htenth : (0 : ℚ) < 10 ^ (-1 : ℤ) := by positivity
  refine mul_le_mul_of_nonneg_right (Int.cast_le.mpr ?_) htenth.le
  exact Sys.Rounding.rounded_mono _ (div_le_div_of_nonneg_right h htenth.le)

/-! ## Ratios -/

theorem ratio_nonneg (part whole : ℕ) : 0 ≤ ratio part whole := by
  unfold ratio
  split
  · exact le_rfl
  · positivity

theorem bounded_of_unit {x : ℚ} (hlow : 0 ≤ x) (hhigh : x ≤ 1) : bounded x = x := by
  rw [bounded, min_eq_right hhigh, max_eq_right hlow]

theorem bounded_ratio {part whole : ℕ} (h : part ≤ whole) : bounded (ratio part whole) = ratio part whole := by
  refine bounded_of_unit (ratio_nonneg part whole) ?_
  unfold ratio
  split
  · exact zero_le_one
  · next hzero =>
    have hpos : (0 : ℚ) < whole := Nat.cast_pos.mpr (Nat.pos_of_ne_zero hzero)
    exact (div_le_one hpos).mpr (Nat.cast_le.mpr h)

/-- `projection_health`, of so many properties and observations. -/
def health (properties observations : ℕ) : ℚ := bounded (min 1 (ratio properties observations))

theorem health_eq (properties observations : ℕ) :
    health properties observations = min 1 (ratio properties observations) :=
  bounded_of_unit (le_min zero_le_one (ratio_nonneg _ _)) (min_le_left _ _)

/-- While there are more properties than observations, one more observation takes nothing away. -/
theorem health_of_lt {m n : ℕ} (h : n < m) : health m (n + 1) = 1 := by
  have hpos : (0 : ℚ) < (n + 1 : ℕ) := by positivity
  rw [health_eq, ratio, if_neg (Nat.succ_ne_zero n)]
  refine min_eq_left ((one_le_div hpos).mpr ?_)
  exact_mod_cast h

theorem health_le_one (m n : ℕ) : health m n ≤ 1 := by
  rw [health_eq]
  exact min_le_left _ _

/-- Otherwise it takes something away, but less than one property is worth. -/
theorem health_drop {m n : ℕ} (hm : 0 < m) (h : m ≤ n) :
    health m (n + 1) < health m n ∧ health m n < health m (n + 1) + 1 / m := by
  have hm' : (0 : ℚ) < m := Nat.cast_pos.mpr hm
  have hn : (0 : ℚ) < n := Nat.cast_pos.mpr (hm.trans_le h)
  have hmn : (m : ℚ) ≤ n := Nat.cast_le.mpr h
  have hbefore : health m n = m / n := by
    rw [health_eq, ratio, if_neg (by omega)]
    exact min_eq_right ((div_le_one hn).mpr hmn)
  have hafter : health m (n + 1) = m / (n + 1) := by
    rw [health_eq, ratio, if_neg (by omega), Nat.cast_add, Nat.cast_one]
    exact min_eq_right ((div_le_one (by linarith)).mpr (by linarith))
  have hgap : (m : ℚ) / n - m / (n + 1) = m / (n * (n + 1)) := by
    field_simp
    ring
  have hpos : 0 < (m : ℚ) / (n * (n + 1)) := by positivity
  have hsmall : (m : ℚ) / (n * (n + 1)) < 1 / m := by
    rw [div_lt_div_iff₀ (by positivity) hm']
    nlinarith
  rw [hbefore, hafter]
  constructor <;> linarith

/-- What a healthy score owes to so many properties, of which so many are fresh, and observations. -/
def counted (fresh properties observations : ℕ) : ℚ :=
  20 * ratio fresh properties + 15 * (if observations = 0 then 0 else 1)
    + 10 * health properties observations

theorem ratio_add (f g m : ℕ) : ratio (f + g) m = ratio f m + ratio g m := by
  unfold ratio
  split
  · rw [add_zero]
  · rw [Nat.cast_add, add_div]

theorem counted_mono (f g m n : ℕ) : counted f m n ≤ counted (f + g) m n := by
  have hgain := ratio_nonneg g m
  rw [counted, counted, ratio_add]
  linarith

/-- One more observation is worth its cost when there are more properties than observations, or when it
makes a property fresh. -/
theorem counted_succ_iff {f g m n : ℕ} (hm : 0 < m) :
    counted f m n ≤ counted (f + g) m (n + 1) ↔ n < m ∨ g ≠ 0 := by
  have hgain := ratio_nonneg g m
  rw [counted, counted, ratio_add, if_neg (Nat.succ_ne_zero n)]
  by_cases hlt : n < m
  · refine iff_of_true ?_ (.inl hlt)
    have hhealth := health_le_one m n
    rw [health_of_lt hlt]
    split <;> linarith
  · obtain ⟨hlow, hhigh⟩ := health_drop hm (not_lt.mp hlt)
    rw [if_neg (by omega)]
    by_cases hg : g = 0
    · subst hg
      refine iff_of_false (not_le.mpr ?_) (by omega)
      have hnothing : ratio 0 m = 0 := by simp [ratio]
      rw [hnothing]
      linarith
    · refine iff_of_true ?_ (.inr hg)
      have hone : (1 : ℚ) / m ≤ ratio g m := by
        have hm' : (0 : ℚ) < m := Nat.cast_pos.mpr hm
        rw [ratio, if_neg hm.ne']
        refine div_le_div_of_nonneg_right ?_ hm'.le
        exact_mod_cast Nat.pos_of_ne_zero hg
      linarith

/-! ## Agreement -/

theorem conflicts_comm (o o' : TwinObservation) : conflicts o o' = conflicts o' o := by
  unfold conflicts
  simp only [eq_comm, ne_comm]

theorem conflicts_self (o : TwinObservation) : conflicts o o = false := by
  simp [conflicts]

/-- Nothing is contradicted in a list of observations. -/
def Agreed (observations : List TwinObservation) : Prop :=
  ∀ o ∈ observations, ∀ o' ∈ observations, conflicts o o' = false

theorem sourceAgreement_eq_one_iff (observations : List TwinObservation) :
    sourceAgreement observations = 1 ↔ Agreed observations := by
  have hcount : sourceAgreement observations = 1 ↔ (conflictingProperties observations).length = 0 := by
    have hpos : (0 : ℚ) < 1 + ((conflictingProperties observations).length : ℚ) := by positivity
    rw [sourceAgreement, div_eq_one_iff_eq hpos.ne', left_eq_add, Nat.cast_eq_zero]
  rw [hcount, List.length_eq_zero_iff, conflictingProperties, List.dedup_eq_nil, List.map_eq_nil_iff,
    List.filter_eq_nil_iff]
  simp only [List.any_eq_true, not_exists, not_and, Bool.not_eq_true]
  rfl

theorem Agreed.of_subset {os os' : List TwinObservation} (h : Agreed os) (hsub : os' ⊆ os) :
    Agreed os' :=
  fun o ho o' ho' => h o (hsub ho) o' (hsub ho')

theorem agreed_cons_iff {o : TwinObservation} {os : List TwinObservation} (h : Agreed os) :
    Agreed (o :: os) ↔ ∀ o' ∈ os, conflicts o o' = false := by
  constructor
  · exact fun hall o' ho' => hall o List.mem_cons_self o' (List.mem_cons_of_mem _ ho')
  · intro hnew a ha b hb
    rcases List.mem_cons.mp ha with hao | ha
    · rcases List.mem_cons.mp hb with hbo | hb
      · rw [hao, hbo]
        exact conflicts_self o
      · rw [hao]
        exact hnew b hb
    · rcases List.mem_cons.mp hb with hbo | hb
      · rw [hbo, conflicts_comm]
        exact hnew a ha
      · exact h a ha b hb

theorem agreed_perm_iff {os os' : List TwinObservation} (h : os.Perm os') : Agreed os ↔ Agreed os' :=
  ⟨fun hagreed => hagreed.of_subset h.symm.subset, fun hagreed => hagreed.of_subset h.subset⟩

/-! ## The window -/

variable (tenantId storeId : String)

/-- The observations a score looks at. -/
abbrev window (s : TwinStore) : List TwinObservation :=
  s.listObservations tenantId (some storeId) 500 false

/-- The properties a score looks at. -/
abbrev current (s : TwinStore) : List TwinPropertyState :=
  s.listProperties tenantId (some storeId) false

/-- The one observation is listed before the other. -/
def newer (o o' : TwinObservation) : Bool :=
  toLex (o'.observedAt.instant, o'.observationId) < toLex (o.observedAt.instant, o.observationId)

/-- The observation gets a place in the window: it is recorded, it is one of the store, and fewer than
500 are newer. -/
structure Enters (s : TwinStore) (o : TwinObservation) : Prop where
  recorded : s.log.refuses o = false
  tenant : o.tenantId = tenantId
  store : o.storeId = storeId
  factual : o.lane ≠ .predicted
  place : (window tenantId storeId s).countP (newer · o) < 500

instance (s : TwinStore) (o : TwinObservation) : Decidable (Enters tenantId storeId s o) :=
  decidable_of_iff (s.log.refuses o = false ∧ o.tenantId = tenantId ∧ o.storeId = storeId ∧
      o.lane ≠ .predicted ∧ (window tenantId storeId s).countP (newer · o) < 500)
    ⟨fun ⟨hrecorded, htenant, hstore, hfactual, hplace⟩ =>
      ⟨hrecorded, htenant, hstore, hfactual, hplace⟩,
      fun h => ⟨h.recorded, h.tenant, h.store, h.factual, h.place⟩⟩

/-- Where an observation is listed: the newest ones first. -/
def listingKey (o : TwinObservation) : (ℤ ×ₗ String)ᵒᵈ :=
  OrderDual.toDual (toLex (o.observedAt.instant, o.observationId))

/-- Whether an observation is listed for the store. -/
def listedFor (e : (String × String) × TwinObservation) : Bool :=
  e.1.1 = tenantId && e.2.storeId = storeId && e.2.lane ≠ .predicted

variable {tenantId storeId} {policyFor : SourcePolicyResolver} {now : Timestamp} {s s' : TwinStore}
  {o : TwinObservation}

theorem listObservations_eq (s : TwinStore) (limit : ℕ) :
    s.listObservations tenantId (some storeId) limit false =
      (listing s.log.observations listingKey (listedFor tenantId storeId)).take limit := rfl

theorem listedFor_iff {k : String × String} : listedFor tenantId storeId (k, o) = true ↔
    k.1 = tenantId ∧ o.storeId = storeId ∧ o.lane ≠ .predicted := by
  simp only [listedFor, Bool.and_eq_true, decide_eq_true_iff, and_assoc]

/-- Rows that are listed at the same place are the same. -/
theorem eq_of_listingKey (log : ObservationLog) :
    ∀ a ∈ listing log.observations listingKey (listedFor tenantId storeId),
      ∀ b ∈ listing log.observations listingKey (listedFor tenantId storeId),
        listingKey a = listingKey b → a = b := by
  intro a ha b hb heq
  obtain ⟨k, hget, hlisted⟩ := mem_listing_iff.mp ha
  obtain ⟨k', hget', hlisted'⟩ := mem_listing_iff.mp hb
  have hid : a.observationId = b.observationId := congrArg Prod.snd (toLex.injective heq)
  have htenant : a.tenantId = b.tenantId := by
    have hleft : k.1 = a.tenantId := congrArg Prod.fst (log.keyed k a hget)
    have hright : k'.1 = b.tenantId := congrArg Prod.fst (log.keyed k' b hget')
    rw [← hleft, ← hright, (listedFor_iff.mp hlisted).1, (listedFor_iff.mp hlisted').1]
  exact ObservationLog.recorded_unique (ObservationLog.recorded_of_get? hget)
    (ObservationLog.recorded_of_get? hget') (Prod.ext htenant hid)

/-- What accepting an observation does to the window. -/
theorem window_admitted (h : Admitted policyFor now s o s') :
    (window tenantId storeId s').Perm
      (if Enters tenantId storeId s o then
        o :: s.listObservations tenantId (some storeId) 499 false
      else window tenantId storeId s) := by
  unfold window
  rw [listObservations_eq, listObservations_eq, listObservations_eq, h.log]
  cases hrefuses : s.log.refuses o with
  | true =>
    have hout : ¬ Enters tenantId storeId s o := by
      intro henters
      rw [henters.recorded] at hrefuses
      cases hrefuses
    rw [if_neg hout, ObservationLog.offer_of_refuses hrefuses]
  | false =>
    have hnone := (ObservationLog.fresh_of_not_refuses hrefuses).1
    have hunique := @eq_of_listingKey tenantId storeId (s.log.insert o hrefuses)
    rw [ObservationLog.offer_of_fresh hrefuses]
    by_cases hlisted : listedFor tenantId storeId (o.key, o) = true
    · obtain ⟨htenant, hstore, hfactual⟩ := listedFor_iff.mp hlisted
      refine (take_listing_set hnone hlisted hunique 499).trans (List.Perm.of_eq ?_)
      refine if_congr ⟨fun hcount => ?_, fun henters => ?_⟩ rfl rfl
      · exact ⟨hrefuses, htenant, hstore, hfactual, Nat.lt_succ_of_le hcount⟩
      · exact Nat.le_of_lt_succ henters.place
    · have hout : ¬ Enters tenantId storeId s o := fun henters =>
        hlisted (listedFor_iff.mpr ⟨henters.tenant, henters.store, henters.factual⟩)
      rw [if_neg hout]
      refine List.Perm.of_eq (congrArg (List.take 500) (listing_set _ ?_ fun o' hget => ?_))
      · exact Bool.not_eq_true _ ▸ hlisted
      · rw [hnone] at hget
        cases hget

/-! ## Histories -/

/-- An observation that its constructor has let pass. -/
abbrev CheckedObservation := { o : TwinObservation // o.violation = none }

/-- `accept` as a step of a run, at what the clock shows. -/
def acceptStep (svc : TwinService) (s : TwinStore) (call : Timestamp × CheckedObservation) :
    TwinStore × Except Exc ProjectionResult :=
  accept svc call.1 call.2.1 s

/-- A step of a history. -/
abbrev AcceptStep := Step TwinStore (Timestamp × CheckedObservation) (Except Exc ProjectionResult)

variable (tenantId storeId)

/-- The observation of the step is accepted and gets a place in the window. -/
def Entering (step : AcceptStep) : Prop :=
  step.output.isOk = true ∧ Enters tenantId storeId step.before step.input.2.1

instance (step : AcceptStep) : Decidable (Entering tenantId storeId step) :=
  inferInstanceAs (Decidable (_ ∧ _))

/-- None of the observations that stay in the window contradicts the new one. -/
def Repeats (step : AcceptStep) : Prop :=
  Entering tenantId storeId step →
    ∀ o ∈ step.before.listObservations tenantId (some storeId) 499 false,
      conflicts step.input.2.1 o = false

/-- A fresh observation of a property the store has, by the source that reported it. -/
structure Continues (svc : TwinService) (step : AcceptStep) : Prop where
  fresh : (freshnessOf step.input.1 step.input.2.1.observedAt
    (svc.policyFor step.input.2.1.propertyName step.input.2.1.sourceSystem).maxAge).1 = .fresh
  existing : ∃ p ∈ current tenantId storeId step.before, p.key = step.input.2.1.facts.key ∧
    p.sourceSystem = step.input.2.1.sourceSystem

/-- The new state takes the place of one that is no longer fresh. -/
def Refreshes (svc : TwinService) (step : AcceptStep) : Prop :=
  ∃ p ∈ current tenantId storeId step.before, p.key = step.input.2.1.facts.key ∧
    p.freshness ≠ .fresh ∧ loses svc.policyFor (some p) step.input.2.1 = false

/-- One more observation costs no projection health, or brings a fresh property for it. -/
def Room (svc : TwinService) (step : AcceptStep) : Prop :=
  (window tenantId storeId step.before).length < (current tenantId storeId step.before).length ∨
    500 ≤ (window tenantId storeId step.before).length ∨ Refreshes tenantId storeId svc step

/-- What a step has to be like for the score not to suffer. -/
structure Steady (svc : TwinService) (step : AcceptStep) : Prop where
  repeats : Repeats tenantId storeId step
  room : Continues tenantId storeId svc step → Entering tenantId storeId step →
    Room tenantId storeId svc step

/-- The window has no contradictions, and every observation names the object it comes from. -/
structure Healthy (s : TwinStore) : Prop where
  agreed : Agreed (window tenantId storeId s)
  sourced : ∀ o, s.Recorded o → o.sourceObjectId ≠ ""

variable {tenantId storeId} {svc : TwinService}

/-! ### Agreement -/

theorem window_shrink (s : TwinStore) :
    s.listObservations tenantId (some storeId) 499 false ⊆ window tenantId storeId s := by
  unfold window
  rw [listObservations_eq, listObservations_eq]
  exact List.take_subset_take_left _ (by omega)

/-- Without contradictions before, there are none after a step exactly when it repeats. -/
theorem agreed_step_iff (s : TwinStore) (call : Timestamp × CheckedObservation)
    (h : Agreed (window tenantId storeId s)) :
    Agreed (window tenantId storeId (acceptStep svc s call).1) ↔
      Repeats tenantId storeId (stepOf (acceptStep svc) s call) := by
  rcases accept_answer svc call.1 call.2.1 s with ⟨hok, hadmitted⟩ | ⟨hfailed, hsame, -⟩
  · have hwindow := @window_admitted tenantId storeId _ _ _ _ _ hadmitted
    have hafter : Agreed (window tenantId storeId (acceptStep svc s call).1) ↔ _ :=
      agreed_perm_iff hwindow
    rw [hafter]
    by_cases henters : Enters tenantId storeId s call.2.1
    · rw [if_pos henters, agreed_cons_iff (h.of_subset (window_shrink s))]
      constructor
      · exact fun hrepeats _ => hrepeats
      · exact fun hrepeats => hrepeats ⟨hok, henters⟩
    · rw [if_neg henters]
      refine iff_of_true h fun hentering => ?_
      exact absurd hentering.2 henters
  · have hstays : (acceptStep svc s call).1 = s := hsame
    rw [hstays]
    refine iff_of_true h fun hentering => ?_
    have hok : (accept svc call.1 call.2.1 s).2.isOk = true := hentering.1
    rw [hfailed] at hok
    cases hok

theorem CheckedObservation.sourced (o : CheckedObservation) : o.1.sourceObjectId ≠ "" := by
  intro hempty
  have hchecked := o.2
  rw [TwinObservation.violation, firstViolation_eq_none] at hchecked
  have hlength := hchecked ("source_object_id", lengthBetween 1 300 o.1.sourceObjectId)
    (List.mem_of_getElem? (i := 8) rfl)
  rw [hempty] at hlength
  cases hlength

theorem healthy_step (s : TwinStore) (call : Timestamp × CheckedObservation)
    (h : Healthy tenantId storeId s)
    (hrepeats : Repeats tenantId storeId (stepOf (acceptStep svc) s call)) :
    Healthy tenantId storeId (acceptStep svc s call).1 where
  agreed := (agreed_step_iff s call h.agreed).mpr hrepeats
  sourced := by
    intro o hrecorded
    rcases accept_cases svc call.1 call.2.1 s with hadmitted | ⟨hsame, -⟩
    · have hlog : (acceptStep svc s call).1.log = s.log.offer call.2.1 := hadmitted.log
      unfold Recorded at hrecorded
      rw [hlog] at hrecorded
      have hone : (s.log.offerAll [call.2.1]).Recorded o := hrecorded
      rcases ObservationLog.mem_of_recorded_offerAll hone with hnew | hold
      · rw [List.mem_singleton.mp hnew]
        exact call.2.sourced
      · exact h.sourced o hold
    · have hstays : (acceptStep svc s call).1 = s := hsame
      rw [hstays] at hrecorded
      exact h.sourced o hrecorded

/-! ### Counts -/

/-- Two twins show as many rows of the store. -/
structure SameRows (tenantId storeId : String) (s s' : TwinStore) : Prop where
  entities : s'.listEntities tenantId (some storeId) = s.listEntities tenantId (some storeId)
  relationships :
    s'.listRelationships tenantId (some storeId) = s.listRelationships tenantId (some storeId)
  properties : (current tenantId storeId s').length = (current tenantId storeId s).length

/-- Whether a property is listed for the store. -/
def shownFor (tenantId storeId : String) (s : TwinStore) (e : PropertyKey × TwinPropertyState) : Bool :=
  e.1.tenantId = tenantId && s.entityInStore e.1.twinId tenantId storeId && e.2.lane ≠ .predicted

theorem current_eq (s : TwinStore) : current tenantId storeId s =
    listing s.properties (fun p => toLex (p.twinId, p.propertyName)) (shownFor tenantId storeId s) := rfl

theorem length_freshProperties (s : TwinStore) : (freshProperties s tenantId storeId).length =
    (current tenantId storeId s).countP fun p => p.freshness = .fresh :=
  List.countP_eq_length_filter.symm

/-- A property that is listed stands under its key, and its entity is known. -/
theorem known_of_current {p : TwinPropertyState} (hp : p ∈ current tenantId storeId s)
    (hkey : p.key = o.facts.key) :
    s.properties.get? o.facts.key = some p ∧ shownFor tenantId storeId s (o.facts.key, p) = true ∧
      s.entities.contains (o.tenantId, o.twinId) = true := by
  rw [current_eq] at hp
  obtain ⟨k, hget, hshown⟩ := mem_listing_iff.mp hp
  obtain rfl : k = o.facts.key := (s.properties_keyed k p hget).trans hkey
  refine ⟨hget, hshown, ?_⟩
  simp only [shownFor, Bool.and_eq_true, decide_eq_true_iff] at hshown
  obtain ⟨⟨htenant, hinside⟩, -⟩ := hshown
  have htenant' : o.tenantId = tenantId := htenant
  unfold TwinStore.entityInStore at hinside
  rw [Dict.contains_iff, htenant']
  cases hentity : s.entities.get? (tenantId, o.twinId) with
  | some e => exact ⟨e, rfl⟩
  | none =>
    have hmissing : s.entities.get? (tenantId, o.facts.key.twinId) = none := hentity
    rw [hmissing] at hinside
    cases hinside

/-- What a fresh observation of a listed property does to the rows of the store. -/
theorem rows_admitted (h : Admitted policyFor now s o s') {p : TwinPropertyState}
    (hp : p ∈ current tenantId storeId s) (hkey : p.key = o.facts.key)
    (hfresh : (freshnessOf now o.observedAt
      (policyFor o.propertyName o.sourceSystem).maxAge).1 = .fresh) :
    SameRows tenantId storeId s s' ∧
      (freshProperties s' tenantId storeId).length = (freshProperties s tenantId storeId).length +
        if s.log.refuses o = false ∧ loses policyFor (some p) o = false ∧ p.freshness ≠ .fresh then 1
        else 0 := by
  obtain ⟨hget, hshown, hknown⟩ := known_of_current hp hkey
  have hentities : s'.entities = s.entities := by
    rw [h.entities, Dict.setdefault_of_contains hknown]
  have hinside : ∀ twinId, s'.entityInStore twinId tenantId storeId
      = s.entityInStore twinId tenantId storeId := by
    intro twinId
    unfold TwinStore.entityInStore
    rw [hentities]
  have hkeep : shownFor tenantId storeId s' = shownFor tenantId storeId s := by
    funext e
    unfold shownFor
    rw [hinside]
  have hlisted : s'.listEntities tenantId (some storeId) = s.listEntities tenantId (some storeId) := by
    unfold TwinStore.listEntities
    rw [hentities]
  have hlinked : s'.listRelationships tenantId (some storeId)
      = s.listRelationships tenantId (some storeId) := by
    unfold TwinStore.listRelationships
    simp only [h.relationships, Option.all_some, hinside]
  have hproperties := h.properties
  rw [hget] at hproperties
  rw [length_freshProperties, length_freshProperties]
  simp only [current_eq, hkeep]
  by_cases hstays : s.log.refuses o = true ∨ loses policyFor (some p) o = true
  · have hnone : ¬ (s.log.refuses o = false ∧ loses policyFor (some p) o = false ∧
        p.freshness ≠ .fresh) := by
      rintro ⟨hrecorded, hwins, -⟩
      rcases hstays with hrefused | hloses
      · rw [hrecorded] at hrefused
        cases hrefused
      · rw [hwins] at hloses
        cases hloses
    rw [if_pos hstays] at hproperties
    rw [if_neg hnone, hproperties]
    exact ⟨⟨hlisted, hlinked, by rw [current_eq, current_eq, hkeep, hproperties]⟩, rfl⟩
  · rw [if_neg hstays] at hproperties
    rw [not_or, Bool.not_eq_true, Bool.not_eq_true] at hstays
    rw [hproperties]
    have hshown' : shownFor tenantId storeId s (o.facts.key, stateOf policyFor now o) = true := by
      have hsame : p.lane = o.lane := congrArg PropertyKey.lane hkey
      unfold shownFor at hshown ⊢
      rw [hsame] at hshown
      exact hshown
    have hcount := countP_listing_set (fun p : TwinPropertyState =>
      toLex (p.twinId, p.propertyName)) hget hshown hshown'
    refine ⟨⟨hlisted, hlinked, ?_⟩, ?_⟩
    · have hall := hcount fun _ => true
      rw [current_eq, current_eq, hkeep, hproperties]
      simpa using hall
    · have hkind := hcount fun p => p.freshness = .fresh
      have hstate : (stateOf policyFor now o).freshness = .fresh := hfresh
      simp only [decide_eq_true_iff, hstate, if_true] at hkind
      by_cases hold : p.freshness = .fresh
      · rw [if_pos hold] at hkind
        rw [if_neg fun hnew => hnew.2.2 hold]
        omega
      · rw [if_neg hold] at hkind
        rw [if_pos ⟨hstays.1, hstays.2, hold⟩]
        omega

/-- How long the window is after an observation is accepted. -/
theorem length_window_admitted (h : Admitted policyFor now s o s') :
    (window tenantId storeId s').length =
      if Enters tenantId storeId s o ∧ (window tenantId storeId s).length < 500 then
        (window tenantId storeId s).length + 1
      else (window tenantId storeId s).length := by
  rw [(window_admitted h).length_eq]
  unfold window
  rw [listObservations_eq, listObservations_eq]
  by_cases henters : Enters tenantId storeId s o
  · simp only [henters, if_true, true_and, List.length_cons, List.length_take]
    split <;> omega
  · rw [if_neg henters, if_neg fun hboth => henters hboth.1]

/-! ### The total -/

/-- What a score owes to the entities, the relationships and the calibrations. -/
def base (math : FidelityMath) (calibrations : CalibrationRegistry) (tenantId storeId : String)
    (s : TwinStore) : ℚ :=
  15 * bounded (fidelityInputs math ⟨s, calibrations⟩ tenantId storeId).identityCoverage
    + 10 * bounded (fidelityInputs math ⟨s, calibrations⟩ tenantId storeId).topologyCoverage
    + 15 * boundedFloat (fidelityInputs math ⟨s, calibrations⟩ tenantId storeId).calibrationScore

/-- The total of `fidelity` before it is rounded. -/
abbrev storeWeighted (math : FidelityMath) (calibrations : CalibrationRegistry)
    (tenantId storeId : String) (s : TwinStore) : ℚ :=
  weighted (fidelityInputs math ⟨s, calibrations⟩ tenantId storeId)

variable (math : FidelityMath) (calibrations : CalibrationRegistry)

theorem base_eq (h : SameRows tenantId storeId s s') :
    base math calibrations tenantId storeId s' = base math calibrations tenantId storeId s := by
  simp only [base, fidelityInputs, h.entities, h.relationships]

/-- The total of a healthy store, from the numbers of its properties and observations. -/
theorem weighted_healthy (h : Healthy tenantId storeId s) :
    storeWeighted math calibrations tenantId storeId s =
      base math calibrations tenantId storeId s
        + counted (freshProperties s tenantId storeId).length (current tenantId storeId s).length
          (window tenantId storeId s).length + 15 := by
  have hfresh : bounded (fidelityInputs math ⟨s, calibrations⟩ tenantId storeId).freshPropertyRatio =
      ratio (freshProperties s tenantId storeId).length (current tenantId storeId s).length :=
    bounded_ratio (List.length_filter_le _ _)
  have hagreement :
      bounded (fidelityInputs math ⟨s, calibrations⟩ tenantId storeId).sourceAgreement = 1 := by
    have hone : (fidelityInputs math ⟨s, calibrations⟩ tenantId storeId).sourceAgreement = 1 :=
      (sourceAgreement_eq_one_iff _).mpr h.agreed
    rw [hone]
    exact bounded_of_unit zero_le_one le_rfl
  have hprovenance :
      bounded (fidelityInputs math ⟨s, calibrations⟩ tenantId storeId).provenanceRatio =
        if (window tenantId storeId s).length = 0 then 0 else 1 := by
    have hall : (window tenantId storeId s).filter (fun item => item.sourceObjectId ≠ "")
        = window tenantId storeId s := by
      refine List.filter_eq_self.mpr fun item hitem => decide_eq_true (h.sourced item ?_)
      rw [window, listObservations_eq] at hitem
      obtain ⟨k, hget, -⟩ := mem_listing_iff.mp (List.mem_of_mem_take hitem)
      exact ObservationLog.recorded_of_get? hget
    have hratio : (fidelityInputs math ⟨s, calibrations⟩ tenantId storeId).provenanceRatio =
        ratio (window tenantId storeId s).length (window tenantId storeId s).length := by
      have hlength := congrArg List.length hall
      exact congrArg (ratio · (window tenantId storeId s).length) hlength
    rw [hratio, bounded_ratio le_rfl, ratio]
    split
    · rfl
    · next hzero => exact div_self (Nat.cast_ne_zero.mpr hzero)
  have hhealth : bounded (fidelityInputs math ⟨s, calibrations⟩ tenantId storeId).projectionHealth =
      health (current tenantId storeId s).length (window tenantId storeId s).length := rfl
  rw [storeWeighted, weighted_eq, hfresh, hagreement, hprovenance, hhealth, base, counted]
  ring

/-- Further observations of a property cost nothing exactly when there is room for them. -/
theorem weighted_le_iff (s : TwinStore) (call : Timestamp × CheckedObservation)
    (h : Healthy tenantId storeId s) (hrepeats : Repeats tenantId storeId (stepOf (acceptStep svc) s call))
    (hcontinues : Continues tenantId storeId svc (stepOf (acceptStep svc) s call)) :
    storeWeighted math calibrations tenantId storeId s ≤
        storeWeighted math calibrations tenantId storeId (acceptStep svc s call).1 ↔
      (Entering tenantId storeId (stepOf (acceptStep svc) s call) →
        Room tenantId storeId svc (stepOf (acceptStep svc) s call)) := by
  have hafter := healthy_step s call h hrepeats
  rcases accept_answer svc call.1 call.2.1 s with ⟨hok, haccepted⟩ | ⟨hfailed, hsame, -⟩
  · have hadmitted : Admitted svc.policyFor call.1 s call.2.1 (acceptStep svc s call).1 := haccepted
    obtain ⟨p, hp, hkey, -⟩ := hcontinues.existing
    have hpositive : 0 < (current tenantId storeId s).length := List.length_pos_of_mem hp
    obtain ⟨hrows, hfresh⟩ := rows_admitted hadmitted hp hkey hcontinues.fresh
    have hlength := @length_window_admitted tenantId storeId _ _ _ _ _ hadmitted
    rw [weighted_healthy math calibrations h, weighted_healthy math calibrations hafter,
      base_eq math calibrations hrows, hrows.properties, hfresh, add_le_add_iff_right,
      add_le_add_iff_left]
    by_cases hentering : Entering tenantId storeId (stepOf (acceptStep svc) s call)
    · have henters : Enters tenantId storeId s call.2.1 := hentering.2
      have hroom : Room tenantId storeId svc (stepOf (acceptStep svc) s call) ↔
          (window tenantId storeId s).length < (current tenantId storeId s).length ∨
            500 ≤ (window tenantId storeId s).length ∨
            s.log.refuses call.2.1 = false ∧ loses svc.policyFor (some p) call.2.1 = false ∧
              p.freshness ≠ .fresh := by
        refine or_congr Iff.rfl (or_congr Iff.rfl ⟨?_, ?_⟩)
        · rintro ⟨p', hp', hkey', hold, hwins⟩
          have hsame : p' = p := Option.some.inj
            ((known_of_current hp' hkey').1.symm.trans (known_of_current hp hkey).1)
          rw [hsame] at hold hwins
          exact ⟨henters.recorded, hwins, hold⟩
        · rintro ⟨-, hwins, hold⟩
          exact ⟨p, hp, hkey, hold, hwins⟩
      rw [imp_iff_right hentering, hroom]
      by_cases hfull : (window tenantId storeId s).length < 500
      · rw [if_pos ⟨henters, hfull⟩] at hlength
        rw [hlength, counted_succ_iff hpositive]
        refine or_congr Iff.rfl ?_
        split
        · next hrefreshes => exact iff_of_true one_ne_zero (.inr hrefreshes)
        · next hstale =>
          refine iff_of_false (fun hzero => hzero rfl) ?_
          rintro (hfull' | hrefreshes)
          · omega
          · exact hstale hrefreshes
      · rw [if_neg fun hboth => hfull hboth.2] at hlength
        rw [hlength]
        exact iff_of_true (counted_mono _ _ _ _) (.inr (.inl (not_lt.mp hfull)))
    · have hout : ¬ Enters tenantId storeId s call.2.1 := fun henters => hentering ⟨hok, henters⟩
      rw [if_neg fun hboth => hout hboth.1] at hlength
      rw [hlength]
      exact iff_of_true (counted_mono _ _ _ _) fun h => absurd h hentering
  · have hstays : (acceptStep svc s call).1 = s := hsame
    rw [hstays]
    refine iff_of_true le_rfl fun hentering => ?_
    have hok : (accept svc call.1 call.2.1 s).2.isOk = true := hentering.1
    rw [hfailed] at hok
    cases hok

/-! ### Runs -/

/-- A store before its first observation, with the entities and relationships it was given. -/
structure Unobserved (s : TwinStore) : Prop where
  log : s.log = .empty
  properties : s.properties = Dict.empty

theorem Unobserved.healthy (h : Unobserved s) : Healthy tenantId storeId s := by
  have hnone : ∀ o, ¬ s.Recorded o := by
    intro o hrecorded
    unfold Recorded at hrecorded
    rw [h.log] at hrecorded
    exact ObservationLog.not_recorded_empty o hrecorded
  constructor
  · intro o ho
    rw [window, listObservations_eq] at ho
    obtain ⟨k, hget, -⟩ := mem_listing_iff.mp (List.mem_of_mem_take ho)
    exact absurd (ObservationLog.recorded_of_get? hget) (hnone o)
  · exact fun o hrecorded => absurd hrecorded (hnone o)

/-- Nothing is ever contradicted in a history exactly when each of its steps repeats. -/
theorem agreed_iff (h : Unobserved s) (calls : List (Timestamp × CheckedObservation)) :
    (∀ past step rest, trace (acceptStep svc) s calls = past ++ step :: rest →
        Agreed (window tenantId storeId step.after)) ↔
      ∀ step ∈ trace (acceptStep svc) s calls, Repeats tenantId storeId step :=
  forall_split_iff (H := fun _ _ => True) (P := fun _ s => Agreed (window tenantId storeId s)) trivial
    (fun _ _ _ _ => trivial) h.healthy.agreed (fun _ s call _ hagreed => agreed_step_iff s call hagreed)
    calls

/-- Each property is reported by one source only. -/
def OneSource (calls : List (Timestamp × CheckedObservation)) : Prop :=
  ∀ a ∈ calls, ∀ b ∈ calls, a.2.1.twinId = b.2.1.twinId → a.2.1.propertyName = b.2.1.propertyName →
    a.2.1.sourceSystem = b.2.1.sourceSystem

/-- A temperature of the fridge of store_b, sent at once. -/
def temperature (observationId : String) (instant degrees : ℤ)
    (h : ({ fridgeReading "store_b" observationId instant with value := .int degrees } :
      TwinObservation).violation = none) : Timestamp × CheckedObservation :=
  (⟨instant, ""⟩, ⟨{ fridgeReading "store_b" observationId instant with value := .int degrees }, h⟩)

/-- The arithmetic of a store without calibrations. -/
def uncalibrated : FidelityMath := ⟨fun _ => ⟨⟨.finite 0, "0.0"⟩, [], ""⟩, fun _ => ⟨.finite 0, "0.0"⟩⟩

def firstReading : Timestamp × CheckedObservation :=
  temperature "obs_fridge_1" 1 5 (by decide +kernel)

def sameReading : Timestamp × CheckedObservation :=
  temperature "obs_fridge_2" 2 5 (by decide +kernel)

def warmerReading : Timestamp × CheckedObservation :=
  temperature "obs_fridge_3" 2 6 (by decide +kernel)

/-- Two readings are agreed on exactly when the second repeats the first. -/
theorem agreed_iff_two_readings :
    (∀ past step rest, trace (acceptStep defaultService) .empty [firstReading, warmerReading] =
        past ++ step :: rest → Agreed (window "tenant_a" "store_b" step.after)) ↔
      ∀ step ∈ trace (acceptStep defaultService) .empty [firstReading, warmerReading],
        Repeats "tenant_a" "store_b" step :=
  agreed_iff ⟨rfl, rfl⟩ [firstReading, warmerReading]

/-- A reading that comes three days late. -/
def lateReading : Timestamp × CheckedObservation := (⟨259200000000, ""⟩, firstReading.2)

def timelyReading : Timestamp × CheckedObservation :=
  temperature "obs_fridge_4" 259200000000 5 (by decide +kernel)

end ShelfWise.Twin.Exact
