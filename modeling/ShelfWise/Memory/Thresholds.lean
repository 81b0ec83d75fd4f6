import ShelfWise.Memory.Learning
import ShelfWise.Sys.Run

/-!
# Learned thresholds

A threshold of the learning store belongs to a tenant, a domain and a metric. Whatever an approval
measures (`measuredOf`), its builder takes the larger of the threshold and the measure, so a
threshold is a high-water mark: `buildLearningEvent_spec` says this of one event and
`thresholds_high_water` of every run of the store.
-/

namespace ShelfWise.Memory

open Py Decisions Sys

/-! ## What an approval measures -/

/-- What an approval of a kind of action measures, of what is expected of it. -/
def measuredBy (expected : Value) (actionType : String) : Except Exc ℤ :=
  if actionType = "review_price_exception" then
    exposureOf expected ["revenue_exposure_minor_units"]
  else if actionType = "dispatch_facilities_check" then
    exposureOf expected ["stock_at_risk_minor_units", "incremental_profit_minor_units"]
  else if actionType = "review_expiry_markdown" then do
    let days ← expected.attrGet "days_to_expiry" >>= (intOf · 0)
    -- an expired item still opens a window of one day
    .ok (max days 1)
  else if actionType = "reorder" then
    exposureOf expected ["stockout_exposure_minor_units", "incremental_profit_minor_units"]
  else do
    let predictedUnits ← expected.attrGet "predicted_sell_through_units" >>= (intOf · 0)
    let uplift ← upliftUnits predictedUnits
    .ok (predictedUnits + uplift)

/-- What an approval of the decision measures. -/
def measuredOf (decision : Decision) : Except Exc ℤ := do
  let actionType ← textOf (orEmpty (Value.get decision "action")) "type" ""
  measuredBy (orEmpty (Value.get decision "expected_outcome")) actionType

/-- What the event of a decision says about its metric. -/
structure Raises (decision : Decision) (previousThreshold : Option ℤ) (event : LearningEvent) :
    Prop where
  metric : ∃ subject, routedMetric decision = .ok (event.metric, subject)
  base : ∀ t, previousThreshold = some t → event.previousThreshold = t
  updated : ∃ measured, measuredOf decision = .ok measured ∧
    event.updatedThreshold = max event.previousThreshold measured
  delta : event.deltaUnits = event.updatedThreshold - event.previousThreshold

variable {now : String}

/-- The fields every builder fills in alike. -/
theorem eventOf_ok {decision : Decision} {subject metric : String} {previous updated : ℤ}
    {outcome : List (String × Value)} {message : String} {event : LearningEvent}
    (h : eventOf now decision subject metric previous updated outcome message = .ok event) :
    event.metric = metric ∧ event.previousThreshold = previous ∧ event.updatedThreshold = updated ∧
      event.deltaUnits = updated - previous := by
  unfold eventOf at h
  obtain ⟨domain, -, hevent⟩ := bind_eq_ok_iff.mp h
  cases hevent
  exact ⟨rfl, rfl, rfl, rfl⟩

variable {previousThreshold : Option ℤ}

variable {exposureKeys : List String} {label : String}

theorem exposureEvent_ok {decision : Decision} {metric subject : String} {event : LearningEvent}
    (h : exposureEvent now decision previousThreshold metric subject exposureKeys label = .ok event) :
    ∃ exposure, exposureOf (orEmpty (Value.get decision "expected_outcome")) exposureKeys
        = .ok exposure ∧ event.metric = metric ∧
      event.previousThreshold = previousThreshold.getD 0 ∧
      event.updatedThreshold = max (previousThreshold.getD 0) exposure ∧
      event.deltaUnits = event.updatedThreshold - event.previousThreshold := by
  unfold exposureEvent at h
  obtain ⟨exposure, hexposure, h⟩ := bind_eq_ok_iff.mp h
  obtain ⟨recovered, -, h⟩ := bind_eq_ok_iff.mp h
  obtain ⟨exposureText, -, h⟩ := bind_eq_ok_iff.mp h
  obtain ⟨updatedText, -, h⟩ := bind_eq_ok_iff.mp h
  obtain ⟨hmetric, hprevious, hupdated, hdelta⟩ := eventOf_ok h
  exact ⟨exposure, hexposure, hmetric, hprevious, hupdated, by rw [hdelta, hupdated, hprevious]⟩

theorem expiryReviewEvent_ok {decision : Decision} {metric subject : String} {event : LearningEvent}
    (h : expiryReviewEvent now decision previousThreshold metric subject = .ok event) :
    ∃ days, ((orEmpty (Value.get decision "expected_outcome")).attrGet "days_to_expiry" >>=
        (intOf · 0)) = .ok days ∧ event.metric = metric ∧
      event.previousThreshold = previousThreshold.getD 0 ∧
      event.updatedThreshold = max (previousThreshold.getD 0) (max days 1) ∧
      event.deltaUnits = event.updatedThreshold - event.previousThreshold := by
  unfold expiryReviewEvent at h
  obtain ⟨stated, hstated, h⟩ := bind_eq_ok_iff.mp h
  obtain ⟨days, hdays, h⟩ := bind_eq_ok_iff.mp h
  obtain ⟨recovered, -, h⟩ := bind_eq_ok_iff.mp h
  obtain ⟨daysText, -, h⟩ := bind_eq_ok_iff.mp h
  obtain ⟨updatedText, -, h⟩ := bind_eq_ok_iff.mp h
  obtain ⟨hmetric, hprevious, hupdated, hdelta⟩ := eventOf_ok h
  have hwindow : (if 0 < max days 0 then max days 0 else 1) = max days 1 := by
    split <;> omega
  rw [hwindow] at hupdated
  exact ⟨days, bind_eq_ok_iff.mpr ⟨stated, hstated, hdays⟩, hmetric, hprevious, hupdated,
    by rw [hdelta, hwindow, hupdated, hprevious]⟩

theorem markdownLearningEvent_ok {decision : Decision} {event : LearningEvent}
    (h : markdownLearningEvent now decision previousThreshold = .ok event) :
    ∃ predictedUnits uplift,
      ((orEmpty (Value.get decision "expected_outcome")).attrGet "predicted_sell_through_units" >>=
        (intOf · 0)) = .ok predictedUnits ∧ upliftUnits predictedUnits = .ok uplift ∧
      (∃ subject, routedMetric decision = .ok (event.metric, subject)) ∧
      event.previousThreshold = previousThreshold.getD predictedUnits ∧
      event.updatedThreshold
        = max (previousThreshold.getD predictedUnits) (predictedUnits + uplift) ∧
      event.deltaUnits = event.updatedThreshold - event.previousThreshold := by
  unfold markdownLearningEvent at h
  obtain ⟨⟨action, params⟩, -, h⟩ := bind_eq_ok_iff.mp h
  obtain ⟨sku, -, h⟩ := bind_eq_ok_iff.mp h
  obtain ⟨predictedUnits, hpredicted, h⟩ := bind_eq_ok_iff.mp h
  obtain ⟨predictedWaste, -, h⟩ := bind_eq_ok_iff.mp h
  obtain ⟨uplift, huplift, h⟩ := bind_eq_ok_iff.mp h
  obtain ⟨margin, -, h⟩ := bind_eq_ok_iff.mp h
  obtain ⟨expectedRecovered, -, h⟩ := bind_eq_ok_iff.mp h
  obtain ⟨⟨metric, subject⟩, hrouted, h⟩ := bind_eq_ok_iff.mp h
  obtain ⟨recovered, -, h⟩ := bind_eq_ok_iff.mp h
  obtain ⟨score, -, h⟩ := bind_eq_ok_iff.mp h
  obtain ⟨predictedText, -, h⟩ := bind_eq_ok_iff.mp h
  obtain ⟨actualText, -, h⟩ := bind_eq_ok_iff.mp h
  obtain ⟨updatedText, -, h⟩ := bind_eq_ok_iff.mp h
  obtain ⟨hmetric, hprevious, hupdated, hdelta⟩ := eventOf_ok h
  exact ⟨predictedUnits, uplift, hpredicted, huplift, ⟨subject, hmetric ▸ hrouted⟩, hprevious,
    hupdated, by rw [hdelta, hupdated, hprevious]⟩

/-- What the event of a decision measures over a base of its own, which is no more than the
measure. -/
structure Measures (decision : Decision) (previousThreshold : Option ℤ) (event : LearningEvent)
    (base measured : ℤ) : Prop where
  metric : ∃ subject, routedMetric decision = .ok (event.metric, subject)
  measures : measuredOf decision = .ok measured
  base_le : base ≤ measured
  previous : event.previousThreshold = previousThreshold.getD base
  updated : event.updatedThreshold = max (previousThreshold.getD base) measured
  delta : event.deltaUnits = event.updatedThreshold - event.previousThreshold

theorem exposureOf_nonneg {expected : Value} {keys : List String} {exposure : ℤ}
    (h : exposureOf expected keys = .ok exposure) : 0 ≤ exposure := by
  induction keys with
  | nil =>
    cases h
    exact le_rfl
  | cons key keys ih =>
    rw [exposureOf] at h
    obtain ⟨value, -, h⟩ := bind_eq_ok_iff.mp h
    split at h
    · exact ih h
    · obtain ⟨n, -, h⟩ := bind_eq_ok_iff.mp h
      cases h
      exact abs_nonneg n

theorem upliftUnits_nonneg {predictedUnits uplift : ℤ} (h : upliftUnits predictedUnits = .ok uplift) :
    0 ≤ uplift := by
  unfold upliftUnits at h
  split at h
  · cases h
    exact le_rfl
  · obtain ⟨product, -, h⟩ := bind_eq_ok_iff.mp h
    obtain ⟨rounded, -, h⟩ := bind_eq_ok_iff.mp h
    obtain ⟨counted, -, h⟩ := bind_eq_ok_iff.mp h
    cases h
    omega

theorem measures_of_exposure {decision : Decision} {metric subject : String} {event : LearningEvent}
    (hrouted : routedMetric decision = .ok (metric, subject))
    (hmeasured : measuredOf decision = exposureOf (orEmpty (Value.get decision "expected_outcome")) exposureKeys)
    (h : exposureEvent now decision previousThreshold metric subject exposureKeys label = .ok event) :
    ∃ base measured, Measures decision previousThreshold event base measured := by
  obtain ⟨exposure, hexposure, hmetric, hprevious, hupdated, hdelta⟩ := exposureEvent_ok h
  exact ⟨0, exposure, ⟨subject, hmetric ▸ hrouted⟩, hmeasured.trans hexposure,
    exposureOf_nonneg hexposure, hprevious, hupdated, hdelta⟩

/-- Every builder takes the larger of the threshold, or of a base of its own, and what it measures. -/
theorem buildLearningEvent_measures {decision : Decision} {event : LearningEvent}
    (h : buildLearningEvent now decision previousThreshold = .ok event) :
    ∃ base measured, Measures decision previousThreshold event base measured := by
  unfold buildLearningEvent at h
  obtain ⟨⟨metric, subject⟩, hrouted, h⟩ := bind_eq_ok_iff.mp h
  obtain ⟨actionType, htype, h⟩ := bind_eq_ok_iff.mp h
  have hmeasured : measuredOf decision
      = measuredBy (orEmpty (Value.get decision "expected_outcome")) actionType := by
    rw [measuredOf, htype]
    rfl
  rw [measuredBy] at hmeasured
  by_cases hprice : actionType = "review_price_exception"
  · rw [if_pos hprice] at h hmeasured
    exact measures_of_exposure hrouted hmeasured h
  rw [if_neg hprice] at h hmeasured
  by_cases hfacilities : actionType = "dispatch_facilities_check"
  · rw [if_pos hfacilities] at h hmeasured
    exact measures_of_exposure hrouted hmeasured h
  rw [if_neg hfacilities] at h hmeasured
  by_cases hexpiry : actionType = "review_expiry_markdown"
  · rw [if_pos hexpiry] at h hmeasured
    obtain ⟨days, hdays, hmetric, hprevious, hupdated, hdelta⟩ := expiryReviewEvent_ok h
    refine ⟨0, max days 1, ⟨subject, hmetric ▸ hrouted⟩, ?_, by omega, hprevious, hupdated, hdelta⟩
    rw [hmeasured]
    exact bind_eq_ok_iff.mpr ⟨days, hdays, rfl⟩
  rw [if_neg hexpiry] at h hmeasured
  by_cases hreorder : actionType = "reorder"
  · rw [if_pos hreorder] at h hmeasured
    exact measures_of_exposure hrouted hmeasured h
  rw [if_neg hreorder] at h hmeasured
  obtain ⟨predictedUnits, uplift, hpredicted, huplift, hmetric, hprevious, hupdated, hdelta⟩ :=
    markdownLearningEvent_ok h
  have hnonneg := upliftUnits_nonneg huplift
  refine ⟨predictedUnits, predictedUnits + uplift, hmetric, ?_, by omega, hprevious, hupdated,
    hdelta⟩
  rw [hmeasured]
  exact bind_eq_ok_iff.mpr ⟨predictedUnits, hpredicted, bind_eq_ok_iff.mpr ⟨uplift, huplift, rfl⟩⟩

/-- Every builder takes the larger of the threshold and what it measures. -/
theorem buildLearningEvent_spec {decision : Decision} {event : LearningEvent}
    (h : buildLearningEvent now decision previousThreshold = .ok event) :
    Raises decision previousThreshold event := by
  obtain ⟨base, measured, hm⟩ := buildLearningEvent_measures h
  refine ⟨hm.metric, ?_, ⟨measured, hm.measures, ?_⟩, hm.delta⟩
  · rintro t rfl
    exact hm.previous
  · rw [hm.previous]
    exact hm.updated

/-! ## Runs of the store -/

/-- The store as it is constructed. -/
def LearningStore.empty : LearningStore := ⟨Dict.empty, Dict.empty⟩

/-- A call of the store, with what its clock shows. -/
inductive LearningCall where
  | approved (now : String) (decision : Decision)
  | rejected (now : String) (decision : Decision)

/-- The store goes through a call. -/
def LearningStore.step (s : LearningStore) :
    LearningCall → LearningStore × Except Exc LearningEvent
  | .approved now decision => s.recordApprovedDecision now decision
  | .rejected now decision => s.recordRejectedDecision now decision

/-- The key of a decision's event. -/
def eventKey (decision : Decision) : Except Exc (String × String × String) := do
  let domain ← dataDomainOf decision
  .ok (tenantIdOf decision, domain, decisionId decision)

/-- The key of the threshold a decision is routed to. -/
def thresholdKey (decision : Decision) : Except Exc (String × String × String) := do
  let domain ← dataDomainOf decision
  let (metric, _) ← routedMetric decision
  .ok (tenantIdOf decision, domain, metric)

/-- An approval the store has recorded. -/
structure RecordedApproval where
  decision : Decision
  event : LearningEvent

/-- The approval a step records: the one it answers with, unless its event was there before. -/
def recordedApproval (step : Step LearningStore LearningCall (Except Exc LearningEvent)) :
    Option RecordedApproval :=
  match step.input, step.output with
  | .approved _ decision, .ok event =>
    match eventKey decision with
    | .ok key => if step.before.events.contains key then none else some ⟨decision, event⟩
    | .error _ => none
  | _, _ => none

/-- The approvals a run has recorded, in order. -/
def recordedApprovals (calls : List LearningCall) : List RecordedApproval :=
  (trace LearningStore.step .empty calls).filterMap recordedApproval

/-- The approval belongs to a threshold. -/
def RecordedApproval.routedTo (key : String × String × String) (r : RecordedApproval) : Bool :=
  match thresholdKey r.decision with
  | .ok key' => key' = key
  | .error _ => false

/-- The approvals of a run that belong to a threshold. -/
def approvalsTo (key : String × String × String) (calls : List LearningCall) :
    List RecordedApproval :=
  (recordedApprovals calls).filter (·.routedTo key)

/-- What a recorded approval has measured. -/
def RecordedApproval.measured (r : RecordedApproval) : ℤ :=
  match measuredOf r.decision with
  | .ok n => n
  | .error _ => 0

/-- The largest of the first base and everything measured. -/
def highWater : List RecordedApproval → Option ℤ
  | [] => none
  | first :: rest =>
    some ((first :: rest).foldl (fun mark r => max mark r.measured) first.event.previousThreshold)

theorem highWater_append (rs : List RecordedApproval) (r : RecordedApproval) :
    highWater (rs ++ [r])
      = some (max ((highWater rs).getD r.event.previousThreshold) r.measured) := by
  cases rs with
  | nil => rfl
  | cons first rest =>
    rw [List.cons_append, highWater, highWater, ← List.cons_append, List.foldl_append]
    rfl

/-! ## One call -/

/-- The store records an approval. -/
structure Records (s : LearningStore) (decision : Decision) (event : LearningEvent)
    (s' : LearningStore) (key tableKey : String × String × String) : Prop where
  eventKey : eventKey decision = .ok key
  thresholdKey : thresholdKey decision = .ok tableKey
  new : s.events.get? key = none
  raises : Raises decision (s.thresholds.get? tableKey) event
  after : s' = ⟨s.thresholds.set tableKey event.updatedThreshold, s.events.set key event⟩

/-- A call of `record_approved_decision` changes nothing or records the approval. -/
theorem step_approved_cases (s : LearningStore) (now : String) (decision : Decision) :
    ((s.step (.approved now decision)).1 = s ∧
      recordedApproval (stepOf LearningStore.step s (.approved now decision)) = none) ∨
      ∃ event key tableKey,
        Records s decision event (s.step (.approved now decision)).1 key tableKey ∧
        recordedApproval (stepOf LearningStore.step s (.approved now decision))
          = some ⟨decision, event⟩ := by
  unfold recordedApproval stepOf LearningStore.step LearningStore.recordApprovedDecision
  dsimp only
  split
  · exact .inl ⟨rfl, rfl⟩
  split
  · exact .inl ⟨rfl, rfl⟩
  cases hdomain : dataDomainOf decision with
  | error e => exact .inl ⟨rfl, rfl⟩
  | ok domain =>
    have hkey : eventKey decision = .ok (tenantIdOf decision, domain, decisionId decision) := by
      rw [eventKey, hdomain]
      rfl
    dsimp only
    cases hexisting : s.events.get? (tenantIdOf decision, domain, decisionId decision) with
    | some existing =>
      have hcontains : s.events.contains (tenantIdOf decision, domain, decisionId decision) = true :=
        (Dict.contains_iff _ _).mpr ⟨existing, hexisting⟩
      simp only [hkey, hcontains, if_true]
      exact .inl ⟨trivial, trivial⟩
    | none =>
      have hcontains : s.events.contains (tenantIdOf decision, domain, decisionId decision) = false :=
        (Dict.contains_eq_false_iff _ _).mpr hexisting
      dsimp only
      cases hrouted : routedMetric decision with
      | error e => exact .inl ⟨rfl, rfl⟩
      | ok routed =>
        obtain ⟨metric, subject⟩ := routed
        have htable : thresholdKey decision = .ok (tenantIdOf decision, domain, metric) := by
          rw [thresholdKey, hdomain]
          simp only [hrouted, bind, Except.bind]
        dsimp only
        cases hevent : buildLearningEvent now decision
            (s.thresholds.get? (tenantIdOf decision, domain, metric)) with
        | error e => exact .inl ⟨rfl, rfl⟩
        | ok event =>
          simp only [hkey, hcontains]
          exact .inr ⟨event, _, _, ⟨hkey, htable, hexisting, buildLearningEvent_spec hevent, rfl⟩, rfl⟩

/-- A rejection touches no threshold and records no approval. -/
theorem step_rejected (s : LearningStore) (now : String) (decision : Decision) :
    (s.step (.rejected now decision)).1.thresholds = s.thresholds ∧
      recordedApproval (stepOf LearningStore.step s (.rejected now decision)) = none ∧
      ∀ key event, s.events.get? key = some event →
        (s.step (.rejected now decision)).1.events.get? key = some event := by
  have hnone : recordedApproval (stepOf LearningStore.step s (.rejected now decision)) = none := rfl
  refine ⟨?_, hnone, ?_⟩
  · unfold LearningStore.step LearningStore.recordRejectedDecision
    dsimp only
    split
    · rfl
    · split <;> rfl
  · intro key event hget
    unfold LearningStore.step LearningStore.recordRejectedDecision
    dsimp only
    split
    · exact hget
    · next rejection _ =>
      split
      · exact hget
      · next hfree =>
        have hne : (rejection.tenantId, rejection.dataDomain, rejection.decisionId) ≠ key := by
          rintro rfl
          rw [hfree] at hget
          cases hget
        rw [Dict.get?_set_ne _ hne]
        exact hget

/-! ## High-water marks -/

/-- The threshold under a key is the high-water mark of recorded approvals, each of whose events is in
the store, and their deltas lead from the first base to it. -/
structure HighWater (rs : List RecordedApproval) (s : LearningStore)
    (key : String × String × String) : Prop where
  mark : s.thresholds.get? key = highWater rs
  deltas : ∀ t, s.thresholds.get? key = some t → ∃ first, rs.head? = some first ∧
    (rs.map (·.event.deltaUnits)).sum = t - first.event.previousThreshold
  measured : ∀ r ∈ rs, measuredOf r.decision = .ok r.measured
  recorded : ∀ r ∈ rs, ∃ k, eventKey r.decision = .ok k ∧ s.events.get? k = some r.event

variable {key : String × String × String}

theorem highWater_empty : HighWater [] .empty key where
  mark := rfl
  deltas := fun _ h => nomatch h
  measured := fun _ h => absurd h List.not_mem_nil
  recorded := fun _ h => absurd h List.not_mem_nil

variable {rs : List RecordedApproval} {s s' : LearningStore}

/-- Another store with the same threshold and no fewer events. -/
theorem HighWater.of_kept (h : HighWater rs s key)
    (hthreshold : s'.thresholds.get? key = s.thresholds.get? key)
    (hevents : ∀ k event, s.events.get? k = some event → s'.events.get? k = some event) :
    HighWater rs s' key where
  mark := hthreshold.trans h.mark
  deltas := fun t ht => h.deltas t (hthreshold ▸ ht)
  measured := h.measured
  recorded := fun r hr => by
    obtain ⟨k, hk, hget⟩ := h.recorded r hr
    exact ⟨k, hk, hevents k r.event hget⟩

variable {k tableKey : String × String × String}

/-- A recording moves no other threshold. -/
theorem Records.thresholds_kept {decision : Decision} {event : LearningEvent}
    (h : Records s decision event s' k tableKey) (hne : tableKey ≠ key) :
    s'.thresholds.get? key = s.thresholds.get? key := by
  rw [h.after]
  exact Dict.get?_set_ne _ hne _

/-- A recording keeps every event there is. -/
theorem Records.events_kept {decision : Decision} {event : LearningEvent}
    (h : Records s decision event s' k tableKey) (k' : String × String × String)
    (event' : LearningEvent) (hget : s.events.get? k' = some event') :
    s'.events.get? k' = some event' := by
  have hne : k ≠ k' := by
    rintro rfl
    rw [h.new] at hget
    cases hget
  rw [h.after]
  exact (Dict.get?_set_ne s.events hne event).trans hget

/-- Recording one more approval of the threshold. -/
theorem HighWater.record {decision : Decision} {event : LearningEvent} (h : HighWater rs s key)
    (hrecords : Records s decision event s' k key) :
    HighWater (rs ++ [⟨decision, event⟩]) s' key := by
  obtain ⟨measured, hmeasured, hupdated⟩ := hrecords.raises.updated
  have hr : RecordedApproval.measured ⟨decision, event⟩ = measured := by
    rw [RecordedApproval.measured, hmeasured]
  have hbase : (highWater rs).getD event.previousThreshold = event.previousThreshold := by
    rw [← h.mark]
    cases ht : s.thresholds.get? key with
    | none => rfl
    | some t => exact (hrecords.raises.base t ht).symm
  have hset : s'.thresholds.get? key = some event.updatedThreshold := by
    rw [hrecords.after]
    exact Dict.get?_set_self _ _ _
  constructor
  · rw [hset, highWater_append, hbase, hr, hupdated]
  · intro t ht
    obtain rfl := Option.some.inj (hset.symm.trans ht)
    rw [List.map_append, List.sum_append, List.map_singleton, List.sum_singleton,
      hrecords.raises.delta]
    cases rs with
    | nil => exact ⟨⟨decision, event⟩, rfl, by simp⟩
    | cons first rest =>
      -- the deltas so far lead to the threshold this event starts from
      have hmark := h.mark
      rw [highWater] at hmark
      obtain ⟨first', hfirst, hsum⟩ := h.deltas _ hmark
      have hstart := hrecords.raises.base _ hmark
      refine ⟨first', by rw [List.cons_append, ← hfirst]; rfl, ?_⟩
      rw [hsum, hstart]
      omega
  · intro r hmem
    rcases List.mem_append.mp hmem with hmem | hmem
    · exact h.measured r hmem
    · rw [List.mem_singleton.mp hmem, hr]
      exact hmeasured
  · intro r hmem
    rcases List.mem_append.mp hmem with hmem | hmem
    · obtain ⟨k', hk', hget⟩ := h.recorded r hmem
      exact ⟨k', hk', hrecords.events_kept k' r.event hget⟩
    · rw [List.mem_singleton.mp hmem, hrecords.after]
      exact ⟨k, hrecords.eventKey, Dict.get?_set_self _ _ _⟩

theorem approvalsTo_append (calls : List LearningCall) (call : LearningCall) :
    approvalsTo key (calls ++ [call]) = approvalsTo key calls ++
      ((recordedApproval (stepOf LearningStore.step (final LearningStore.step .empty calls) call)).toList.filter
        (·.routedTo key)) := by
  unfold approvalsTo recordedApprovals
  rw [trace_append, List.filterMap_append, List.filter_append]
  congr 2

/-- A call takes the high-water mark to the high-water mark. -/
theorem HighWater.step (h : HighWater rs s key) (call : LearningCall) :
    HighWater (rs ++ (recordedApproval (stepOf LearningStore.step s call)).toList.filter
      (·.routedTo key)) (s.step call).1 key := by
  cases call with
  | rejected now decision =>
    obtain ⟨hthresholds, hnone, hevents⟩ := step_rejected s now decision
    rw [hnone, Option.toList_none, List.filter_nil, List.append_nil]
    exact h.of_kept (congrArg (Dict.get? · key) hthresholds) hevents
  | approved now decision =>
    rcases step_approved_cases s now decision with ⟨hs, hnone⟩ | ⟨event, k, tableKey, hrecords, hsome⟩
    · rw [hnone, Option.toList_none, List.filter_nil, List.append_nil, hs]
      exact h
    · have hrouted : RecordedApproval.routedTo key ⟨decision, event⟩ = decide (tableKey = key) := by
        rw [RecordedApproval.routedTo, hrecords.thresholdKey]
      rw [hsome, Option.toList_some, List.filter_singleton, hrouted]
      by_cases htable : tableKey = key
      · rw [decide_eq_true htable, cond_true]
        exact h.record (htable ▸ hrecords)
      · rw [decide_eq_false htable, cond_false, List.append_nil]
        exact h.of_kept (hrecords.thresholds_kept htable) hrecords.events_kept

theorem highWater_final (calls : List LearningCall) :
    HighWater (approvalsTo key calls) (final LearningStore.step .empty calls) key := by
  induction calls using List.reverseRecOn with
  | nil => exact highWater_empty
  | append_singleton calls call ih =>
    rw [approvalsTo_append, final_append]
    exact ih.step call

/-- What a call does to a threshold. -/
structure Moves (s : LearningStore) (call : LearningCall) (key : String × String × String) :
    Prop where
  grows : ∀ t, s.thresholds.get? key = some t →
    ∃ t', (s.step call).1.thresholds.get? key = some t' ∧ t ≤ t'
  rejected : ∀ now decision, call = .rejected now decision →
    (s.step call).1.thresholds = s.thresholds
  replayed : ∀ now decision k, call = .approved now decision → eventKey decision = .ok k →
    s.events.contains k = true → (s.step call).1 = s
  others : ∀ now decision, call = .approved now decision → thresholdKey decision ≠ .ok key →
    (s.step call).1.thresholds.get? key = s.thresholds.get? key

theorem moves_step (s : LearningStore) (call : LearningCall) : Moves s call key := by
  cases call with
  | rejected now decision =>
    obtain ⟨hthresholds, -, -⟩ := step_rejected s now decision
    constructor
    · exact fun t ht => ⟨t, by rw [hthresholds]; exact ht, le_rfl⟩
    · exact fun _ _ _ => hthresholds
    · exact fun _ _ _ hcall => nomatch hcall
    · exact fun _ _ hcall => nomatch hcall
  | approved now decision =>
    rcases step_approved_cases s now decision with ⟨hs, -⟩ | ⟨event, k, tableKey, hrecords, -⟩
    · constructor
      · exact fun t ht => ⟨t, by rw [hs]; exact ht, le_rfl⟩
      · exact fun _ _ hcall => nomatch hcall
      · exact fun _ _ _ _ _ _ => hs
      · exact fun _ _ _ _ => by rw [hs]
    · constructor
      · intro t ht
        by_cases htable : tableKey = key
        · subst htable
          obtain ⟨measured, -, hupdated⟩ := hrecords.raises.updated
          refine ⟨event.updatedThreshold, ?_, ?_⟩
          · rw [hrecords.after]
            exact Dict.get?_set_self _ _ _
          · rw [hupdated, hrecords.raises.base t ht]
            exact le_max_left t measured
        · exact ⟨t, (hrecords.thresholds_kept htable).trans ht, le_rfl⟩
      · exact fun _ _ hcall => nomatch hcall
      · rintro now' decision' k' hcall hkey hcontains
        cases hcall
        rw [hrecords.eventKey] at hkey
        cases hkey
        rw [Dict.contains, hrecords.new] at hcontains
        cases hcontains
      · rintro now' decision' hcall hrouted
        cases hcall
        refine hrecords.thresholds_kept fun htable => hrouted ?_
        rw [hrecords.thresholdKey, htable]

/-- After every run of approvals and rejections each threshold is the high-water mark of the approvals
recorded for it, and the next call moves it up or not at all: not by a rejection, a replayed decision
or an approval of another threshold. -/
theorem thresholds_high_water (calls : List LearningCall) (key : String × String × String) :
    HighWater (approvalsTo key calls) (final LearningStore.step .empty calls) key ∧
      ∀ call, Moves (final LearningStore.step .empty calls) call key :=
  ⟨highWater_final calls, fun call => moves_step _ call⟩

end ShelfWise.Memory
