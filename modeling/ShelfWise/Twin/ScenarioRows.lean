import ShelfWise.Twin.Scenario

/-!
# What a scenario shows of its deltas

`ScenarioEngine.create` on a branch id under which the twin holds no predicted state. Each delta
becomes an observation whose id digests the branch, the twin, the property and the value, so a delta
that repeats an earlier one is refused, and of two deltas with one clock reading the greater id stays.

`scenario_shows_iff` says exactly when the rows of the comparison show the last delta of every
property.
-/

namespace ShelfWise.Twin

open Py Sys TwinStore

/-! ## What was asked -/

/-- The property a delta is about. -/
def ScenarioDelta.pair (delta : ScenarioDelta) : String × String := (delta.twinId, delta.propertyName)

/-- The property a row is about. -/
def ScenarioRow.pair (row : ScenarioRow) : String × String := (row.twinId, row.propertyName)

/-- The property an observation is about. -/
def TwinObservation.pair (o : TwinObservation) : String × String := (o.twinId, o.propertyName)

/-- The last delta about a property. -/
def lastFor (deltas : List ScenarioDelta) (x : String × String) : Option ScenarioDelta :=
  (deltas.filter fun delta => delta.pair = x).getLast?

/-- One row for each property of the deltas, with the value of the last delta about it. -/
structure ShowsDeltas (deltas : List ScenarioDelta) (rows : List ScenarioRow) : Prop where
  pairs : (rows.map ScenarioRow.pair).Perm (deltas.map ScenarioDelta.pair).dedup
  values : ∀ row ∈ rows, ∀ delta, lastFor deltas row.pair = some delta →
    row.predicted = delta.value

/-- A branch id under which the twin holds no predicted state of the tenant. -/
def FreshBranch (s : TwinStore) (tenantId branchId : String) : Prop :=
  ∀ p ∈ s.properties.values, p.tenantId = tenantId → p.lane = .predicted →
    p.scenarioBranchId.getD "" ≠ branchId

/-! ## What is recorded of it -/

/-- The observations that are recorded when they are offered in turn: those whose id and source
identity are not taken yet. -/
def newObservations (log : ObservationLog) : List TwinObservation → List TwinObservation
  | [] => []
  | o :: os =>
    if log.refuses o then newObservations log os else o :: newObservations (log.offer o) os

/-- No other of the observations about the property comes later, by its time and then by its id. -/
structure Newest (os : List TwinObservation) (o : TwinObservation) : Prop where
  mem : o ∈ os
  last : ∀ o' ∈ os, o'.pair = o.pair → o'.observedAt.instant < o.observedAt.instant ∨
    o'.observedAt.instant = o.observedAt.instant ∧ o'.observationId ≤ o.observationId

/-- The observations of the deltas of a request, in their order. -/
def whatIfs (branch : Branch) (clock : ℕ → Timestamp × Timestamp) (request : ScenarioRequest) :
    List TwinObservation :=
  (request.timed clock).map fun item => predictedObservation branch item.2 item.1.1

/-- Of each property of the deltas, the newest observation that is recorded has the value of the last
delta. -/
def LastDeltaWins (log : ObservationLog) (os : List TwinObservation) (deltas : List ScenarioDelta) :
    Prop :=
  ∀ x delta, lastFor deltas x = some delta →
    ∃ o, Newest (newObservations log os) o ∧ o.pair = x ∧ o.value = delta.value

/-! ## Deltas in turn -/

section Run

variable {svc : TwinService} {branch branch' : Branch} {s : TwinStore}

/-- What an applied delta does to the twin and to the branch. -/
theorem applyDelta_ok {times : Timestamp × Timestamp} {delta : ScenarioDelta}
    (h : (applyDelta svc times branch delta s).2 = .ok branch') :
    branch' = { branch with deltas := branch.deltas ++ [delta.dump] } ∧
      s.entities.contains (branch.tenantId, delta.twinId) = true ∧
      Admitted svc.policyFor times.2 s (predictedObservation branch delta times.1)
        (applyDelta svc times branch delta s).1 := by
  unfold applyDelta at h ⊢
  by_cases hknown : knownEntity s branch.tenantId branch.storeId delta = false
  · rw [if_pos hknown] at h
    cases h
  rw [if_neg hknown] at h ⊢
  rw [Bool.not_eq_false] at hknown
  have hcontains : s.entities.contains (branch.tenantId, delta.twinId) = true := by
    unfold knownEntity TwinStore.entityInStore at hknown
    cases hget : s.entities.get? (branch.tenantId, delta.twinId) with
    | none =>
      rw [hget] at hknown
      cases hknown
    | some e => exact (Dict.contains_iff _ _).mpr ⟨e, hget⟩
  cases hvalid : (predictedObservation branch delta times.1).validated with
  | error e =>
    rw [hvalid] at h
    cases h
  | ok o =>
    obtain rfl := TwinObservation.eq_of_validated hvalid
    rw [hvalid] at h
    dsimp only at h ⊢
    refine ⟨?_, hcontains, ?_⟩
    · cases hanswer : (accept svc times.2 (predictedObservation branch delta times.1) s).2 with
      | error e =>
        rw [hanswer] at h
        cases h
      | ok result =>
        rw [hanswer] at h
        exact (Except.ok.inj h).symm
    · rcases accept_cases svc times.2 (predictedObservation branch delta times.1) s with
        hadmitted | ⟨-, hnone⟩
      · exact hadmitted
      · obtain ⟨e, hget⟩ := (Dict.contains_iff _ _).mp hcontains
        change s.entities.get? (branch.tenantId, delta.twinId) = none at hnone
        rw [hget] at hnone
        cases hnone

/-- The property table, as far as it is about one branch. -/
def branchTable (tenantId branchId : String) (s : TwinStore) (k : PropertyKey) :
    Option PropertyFacts :=
  if k.tenantId = tenantId ∧ k.lane = .predicted ∧ k.branch = branchId then s.table k else none

/-- The branch in the property table stands for the observations. -/
structure BranchCovers (policyFor : SourcePolicyResolver) (tenantId branchId : String)
    (done : List TwinObservation) (s : TwinStore) : Prop where
  recorded : ∀ o ∈ done, s.Recorded o
  covers : Register.Covers PropertyFacts.key (PropertyFacts.rank policyFor)
    (branchTable tenantId branchId s) (fun f => ∃ o ∈ done, o.facts = f) (fun _ => False)

variable {policyFor : SourcePolicyResolver} {tenantId branchId : String}

theorem branchCovers_fresh (hfresh : FreshBranch s tenantId branchId) :
    BranchCovers policyFor tenantId branchId [] s where
  recorded := fun o ho => absurd ho List.not_mem_nil
  covers := by
    have htable : branchTable tenantId branchId s = fun _ => none := by
      funext k
      unfold branchTable
      split
      · next hk =>
        obtain ⟨htenant, hlane, hbranch⟩ := hk
        unfold TwinStore.table
        cases hget : s.properties.get? k with
        | none => rfl
        | some p =>
          have hkey := s.properties_keyed k p hget
          rw [hkey] at htenant hlane hbranch
          exact absurd hbranch
            (hfresh p ((Dict.mem_values_iff _ _).mpr ⟨k, hget⟩) htenant hlane)
      · rfl
    have hoffered : (fun f => ∃ o ∈ ([] : List TwinObservation), o.facts = f) = fun _ => False := by
      funext f
      simp
    rw [htable, hoffered]
    exact Register.covers_empty

variable {done : List TwinObservation} {o : TwinObservation}

/-- One admitted observation of the branch. -/
theorem BranchCovers.admitted {now : Timestamp} {s' : TwinStore}
    (h : BranchCovers policyFor tenantId branchId done s) (htenant : o.tenantId = tenantId)
    (hlane : o.lane = .predicted) (hbranch : o.scenarioBranchId = some branchId)
    (hadmitted : Admitted policyFor now s o s') :
    BranchCovers policyFor tenantId branchId
      (if s.log.refuses o then done else done ++ [o]) s' := by
  have hown : o.facts.key.tenantId = tenantId ∧ o.facts.key.lane = .predicted ∧
      o.facts.key.branch = branchId := by
    refine ⟨htenant, hlane, ?_⟩
    change o.scenarioBranchId.getD "" = branchId
    rw [hbranch, Option.getD_some]
  cases hrefuses : s.log.refuses o with
  | true =>
    have hproperties : s'.properties = s.properties := by
      rw [hadmitted.properties, if_pos (.inl hrefuses)]
    have hlog : s'.log = s.log := by rw [hadmitted.log, ObservationLog.offer_of_refuses hrefuses]
    rw [if_pos rfl]
    refine ⟨fun o' ho' => ?_, ?_⟩
    · have hrecorded := h.recorded o' ho'
      unfold TwinStore.Recorded at hrecorded ⊢
      rw [hlog]
      exact hrecorded
    · have htable : branchTable tenantId branchId s' = branchTable tenantId branchId s := by
        funext k
        unfold branchTable TwinStore.table
        rw [hproperties]
      rw [htable]
      exact h.covers
  | false =>
    rw [if_neg (by simp)]
    refine ⟨fun o' ho' => ?_, ?_⟩
    · unfold TwinStore.Recorded
      rw [hadmitted.log]
      rcases List.mem_append.mp ho' with ho' | ho'
      · exact (h.recorded o' ho').offer o
      · rw [List.mem_singleton.mp ho', ObservationLog.offer_of_fresh hrefuses]
        exact (ObservationLog.recorded_insert_iff hrefuses o).mpr (.inl rfl)
    · have hoffered : (fun f => ∃ o' ∈ done ++ [o], o'.facts = f)
          = fun f => f = o.facts ∨ ∃ o' ∈ done, o'.facts = f := by
        funext f
        simp only [List.mem_append, List.mem_singleton, eq_iff_iff]
        constructor
        · rintro ⟨o', ho' | rfl, rfl⟩
          · exact .inr ⟨o', ho', rfl⟩
          · exact .inl rfl
        · rintro (rfl | ⟨o', ho', rfl⟩)
          · exact ⟨o, .inr rfl, rfl⟩
          · exact ⟨o', .inl ho', rfl⟩
      have hpending := h.covers.offer o.facts
      rw [hoffered]
      have hread : branchTable tenantId branchId s o.facts.key = s.table o.facts.key := if_pos hown
      by_cases hloses : loses policyFor (s.properties.get? o.facts.key) o = true
      · have hproperties : s'.properties = s.properties := by
          rw [hadmitted.properties, if_pos (.inr hloses)]
        have htable : branchTable tenantId branchId s' = branchTable tenantId branchId s := by
          funext k
          unfold branchTable TwinStore.table
          rw [hproperties]
        obtain ⟨p, hp, hle⟩ := loses_iff.mp hloses
        rw [htable]
        refine hpending.skip ⟨p.facts, ?_, hle⟩
        rw [hread, TwinStore.table, hp, Option.map_some]
      · have hproperties : s'.properties
            = s.properties.set o.facts.key (stateOf policyFor now o) := by
          rw [hadmitted.properties, if_neg]
          rintro (hr | hl)
          · rw [hrefuses] at hr
            cases hr
          · exact hloses hl
        have htable : branchTable tenantId branchId s'
            = Function.update (branchTable tenantId branchId s) o.facts.key (some o.facts) := by
          funext k
          unfold branchTable TwinStore.table
          rw [hproperties, Dict.get?_set]
          by_cases hk : o.facts.key = k
          · subst hk
            rw [if_pos rfl, if_pos hown, Function.update_self, Option.map_some, facts_stateOf]
          · rw [if_neg hk, Function.update_of_ne (Ne.symm hk)]
        rw [htable]
        refine hpending.write (.inl rfl) ?_
        intro g hg
        rw [hread] at hg
        obtain ⟨p, hp, rfl⟩ := Option.map_eq_some_iff.mp hg
        exact (loses_eq_false_iff.mp (Bool.not_eq_true _ ▸ hloses) p hp).le

/-- The observation of a delta depends on the ids of its branch alone. -/
theorem predictedObservation_congr (htenant : branch'.tenantId = branch.tenantId)
    (hstore : branch'.storeId = branch.storeId) (hid : branch'.branchId = branch.branchId)
    (delta : ScenarioDelta) (now : Timestamp) :
    predictedObservation branch' delta now = predictedObservation branch delta now := by
  unfold predictedObservation
  rw [htenant, hstore, hid]

/-- A run of the deltas leaves the entities alone, and the table of the branch stands for what was
recorded. -/
theorem applyDeltas_ok {items : List ((Timestamp × Timestamp) × ScenarioDelta)}
    (h : BranchCovers svc.policyFor branch.tenantId branch.branchId done s)
    (hok : (applyDeltas svc items branch s).2.2 = none) :
    (applyDeltas svc items branch s).1.entities = s.entities ∧
      BranchCovers svc.policyFor branch.tenantId branch.branchId
        (done ++ newObservations s.log
          (items.map fun item => predictedObservation branch item.2 item.1.1))
        (applyDeltas svc items branch s).1 := by
  induction items generalizing branch s done with
  | nil => exact ⟨rfl, by simpa [newObservations, applyDeltas] using h⟩
  | cons item rest ih =>
    unfold applyDeltas at hok ⊢
    dsimp only at hok ⊢
    cases hanswer : (applyDelta svc item.1 branch item.2 s).2 with
    | error e =>
      rw [hanswer] at hok
      cases hok
    | ok next =>
      rw [hanswer] at hok
      dsimp only at hok ⊢
      obtain ⟨hnext, hcontains, hadmitted⟩ := applyDelta_ok hanswer
      have htenant : next.tenantId = branch.tenantId := by rw [hnext]
      have hstore : next.storeId = branch.storeId := by rw [hnext]
      have hid : next.branchId = branch.branchId := by rw [hnext]
      have hstep := h.admitted rfl rfl rfl hadmitted
      rw [← htenant, ← hid] at hstep
      obtain ⟨hentities, hcovers⟩ := ih hstep hok
      rw [htenant, hid] at hcovers
      have hsame : ∀ other : (Timestamp × Timestamp) × ScenarioDelta,
          predictedObservation next other.2 other.1.1
            = predictedObservation branch other.2 other.1.1 := fun other =>
        predictedObservation_congr htenant hstore hid _ _
      refine ⟨?_, ?_⟩
      · rw [hentities, hadmitted.entities]
        exact Dict.setdefault_of_contains hcontains _
      · rw [hadmitted.log] at hcovers
        simp only [hsame] at hcovers
        rw [List.map_cons, newObservations]
        cases hrefuses : s.log.refuses (predictedObservation branch item.2 item.1.1) with
        | true =>
          rw [hrefuses, if_pos rfl, ObservationLog.offer_of_refuses hrefuses] at hcovers
          rw [if_pos rfl]
          exact hcovers
        | false =>
          rw [hrefuses, if_neg (by simp), List.append_assoc] at hcovers
          rw [if_neg (by simp)]
          exact hcovers

theorem newObservations_subset {log : ObservationLog} {os : List TwinObservation}
    (h : o ∈ newObservations log os) : o ∈ os := by
  induction os generalizing log with
  | nil => cases h
  | cons o' os ih =>
    unfold newObservations at h
    split at h
    · exact List.mem_cons_of_mem _ (ih h)
    · rcases List.mem_cons.mp h with rfl | h
      · exact List.mem_cons_self
      · exact List.mem_cons_of_mem _ (ih h)

/-- The observations of one branch about one property are ranked by their time and then their
id. -/
theorem rank_le_iff (policyFor : SourcePolicyResolver) {o o' : TwinObservation}
    (hproperty : o'.propertyName = o.propertyName) (hsource : o'.sourceSystem = o.sourceSystem) :
    o'.facts.rank policyFor ≤ o.facts.rank policyFor ↔
      o'.observedAt.instant < o.observedAt.instant ∨
        o'.observedAt.instant = o.observedAt.instant ∧ o'.observationId ≤ o.observationId := by
  have hprecedence : (policyFor o'.propertyName o'.sourceSystem).precedence
      = (policyFor o.propertyName o.sourceSystem).precedence := by rw [hproperty, hsource]
  unfold PropertyFacts.rank
  rw [Prod.Lex.toLex_le_toLex, Prod.Lex.toLex_le_toLex]
  simp only [TwinObservation.facts]
  rw [hprecedence]
  simp

end Run

/-! ## The rows -/

section Rows

variable {s : TwinStore} {tenantId storeId branchId : String}

/-- The states `compare` makes its rows of. -/
def predictedStates (s : TwinStore) (tenantId storeId branchId : String) : List TwinPropertyState :=
  (s.listProperties tenantId (some storeId) true).filter fun item =>
    item.lane = .predicted ∧ item.scenarioBranchId = some branchId

theorem mem_predictedStates {p : TwinPropertyState} :
    p ∈ predictedStates s tenantId storeId branchId ↔
      s.properties.get? p.key = some p ∧ p.tenantId = tenantId ∧
        s.entityInStore p.twinId tenantId storeId = true ∧ p.lane = .predicted ∧
        p.scenarioBranchId = some branchId := by
  unfold predictedStates TwinStore.listProperties
  rw [List.mem_filter, mem_listing_iff]
  simp only [Bool.and_eq_true, decide_eq_true_eq, Option.all_some, Bool.true_or, and_true]
  constructor
  · rintro ⟨⟨k, hget, htenant, hstore⟩, hlane, hbranch⟩
    have hkey := s.properties_keyed k p hget
    rw [hkey] at hget htenant hstore
    exact ⟨hget, htenant, hstore, hlane, hbranch⟩
  · rintro ⟨hget, htenant, hstore, hlane, hbranch⟩
    exact ⟨⟨p.key, hget, htenant, hstore⟩, hlane, hbranch⟩

/-- A property has one state in a branch. -/
theorem nodup_predictedStates :
    ((predictedStates s tenantId storeId branchId).map fun p => (p.twinId, p.propertyName)).Nodup := by
  have hrows : (predictedStates s tenantId storeId branchId).Nodup := by
    unfold predictedStates TwinStore.listProperties listing
    exact ((sortedBy_perm _ _).nodup_iff.mpr (nodup_kept s.properties_keyed _)).filter _
  refine List.Nodup.map_on ?_ hrows
  intro p hp p' hp' hpair
  obtain ⟨hget, htenant, -, hlane, hbranch⟩ := mem_predictedStates.mp hp
  obtain ⟨hget', htenant', -, hlane', hbranch'⟩ := mem_predictedStates.mp hp'
  obtain ⟨htwin, hname⟩ := Prod.mk.inj hpair
  have hkey : p.key = p'.key := by
    unfold TwinPropertyState.key
    rw [htenant, htenant', hlane, hlane', hbranch, hbranch', htwin, hname]
  rw [hkey, hget'] at hget
  exact (Option.some.inj hget).symm

variable {confidenceOf : Confidence → PyFloat} {st : ScenarioSide} {comparison : ScenarioComparison}

theorem compareBranch_rows
    (h : compareBranch confidenceOf tenantId storeId branchId st = .ok comparison) :
    comparison.rows.map (fun row => (row.pair, row.predicted))
      = (predictedStates st.twin tenantId storeId branchId).map
        fun p => ((p.twinId, p.propertyName), p.value) := by
  unfold compareBranch at h
  cases hbranch : st.branches.get? (tenantId, storeId, branchId) with
  | none =>
    rw [hbranch] at h
    cases h
  | some branch =>
    rw [hbranch] at h
    obtain rfl := Except.ok.inj h
    dsimp only
    rw [List.map_map]
    rfl

/-- What an accepted request has gone through. -/
theorem createBranch_ok {svc : TwinService} {createdAt : Timestamp}
    {clock : ℕ → Timestamp × Timestamp} {request : ScenarioRequest}
    (h : (createBranch svc confidenceOf createdAt clock tenantId storeId request st).2 = .ok comparison) :
    request.deltas.all (knownEntity st.twin tenantId storeId) = true ∧
      (applyDeltas svc (request.timed clock)
        (newBranch st.twin createdAt tenantId storeId request) st.twin).2.2 = none ∧
      ∃ branches, compareBranch confidenceOf tenantId storeId request.branchId
        ⟨(applyDeltas svc (request.timed clock)
          (newBranch st.twin createdAt tenantId storeId request) st.twin).1, branches⟩
            = .ok comparison := by
  unfold createBranch at h
  by_cases hknown : request.deltas.all (knownEntity st.twin tenantId storeId) = false
  · rw [if_pos hknown] at h
    cases h
  rw [if_neg hknown] at h
  refine ⟨Bool.not_eq_false _ ▸ hknown, ?_⟩
  dsimp only at h
  split at h
  · cases h
  · split at h
    · cases h
    · split at h
      · cases h
      · next hnone => exact ⟨hnone, _, h⟩

end Rows

/-! ## When the rows show the deltas -/

section Shows

variable {policyFor : SourcePolicyResolver} {tenantId storeId branchId : String} {s : TwinStore}
  {done : List TwinObservation} {o o' : TwinObservation}

/-- An observation of a delta in a branch. -/
structure OfBranch (tenantId branchId : String) (o : TwinObservation) : Prop where
  tenant : o.tenantId = tenantId
  lane : o.lane = .predicted
  branch : o.scenarioBranchId = some branchId
  source : o.sourceSystem = "scenario"

theorem OfBranch.key (h : OfBranch tenantId branchId o) : o.facts.key
    = propertyKey tenantId o.twinId o.propertyName .predicted (some branchId) := by
  change propertyKey o.tenantId o.twinId o.propertyName o.lane o.scenarioBranchId = _
  rw [h.tenant, h.lane, h.branch]

theorem OfBranch.key_eq_iff (h : OfBranch tenantId branchId o)
    (h' : OfBranch tenantId branchId o') : o'.facts.key = o.facts.key ↔ o'.pair = o.pair := by
  rw [h.key, h'.key]
  simp [propertyKey, TwinObservation.pair]

variable (policyFor) in
/-- Among the observations of a branch the newest one has the latest facts. -/
theorem newest_iff_latest (hbranch : ∀ o ∈ done, OfBranch tenantId branchId o) (ho : o ∈ done) : Newest done o ↔ Register.Latest PropertyFacts.key
      (PropertyFacts.rank policyFor) (fun f => ∃ o ∈ done, o.facts = f) o.facts := by
  have hrank : ∀ o' ∈ done, o'.pair = o.pair → (o'.facts.rank policyFor ≤ o.facts.rank policyFor ↔
      o'.observedAt.instant < o.observedAt.instant ∨
        o'.observedAt.instant = o.observedAt.instant ∧ o'.observationId ≤ o.observationId) :=
    fun o' ho' hpair => rank_le_iff policyFor (congrArg Prod.snd hpair)
      ((hbranch o' ho').source.trans (hbranch o ho).source.symm)
  constructor
  · intro hnewest
    refine ⟨⟨o, ho, rfl⟩, ?_⟩
    rintro g ⟨o', ho', rfl⟩ hkey
    have hpair := ((hbranch o ho).key_eq_iff (hbranch o' ho')).mp hkey
    exact (hrank o' ho' hpair).mpr (hnewest.last o' ho' hpair)
  · intro hlatest
    refine ⟨ho, fun o' ho' hpair => (hrank o' ho' hpair).mp ?_⟩
    exact hlatest.top o'.facts ⟨o', ho', rfl⟩
      (((hbranch o ho).key_eq_iff (hbranch o' ho')).mpr hpair)

/-- A state of the branch is that of the newest observation about its property. -/
theorem exists_predictedState_iff (hcovers : BranchCovers policyFor tenantId branchId done s)
    (hbranch : ∀ o ∈ done, OfBranch tenantId branchId o)
    (hstore : ∀ o ∈ done, s.entityInStore o.twinId tenantId storeId = true) (x : String × String)
    (v : Value) :
    (∃ p ∈ predictedStates s tenantId storeId branchId, (p.twinId, p.propertyName) = x ∧ p.value = v) ↔
      ∃ o, Newest done o ∧ o.pair = x ∧ o.value = v := by
  have hinj : ∀ f g : PropertyFacts, (∃ o ∈ done, o.facts = f) → (∃ o ∈ done, o.facts = g) →
      f.key = g.key → f.rank policyFor = g.rank policyFor → f = g := by
    rintro f g ⟨o, ho, rfl⟩ ⟨o', ho', rfl⟩ hkey hrank
    exact offered_unique policyFor s _ _ ⟨o, hcovers.recorded o ho, rfl⟩
      ⟨o', hcovers.recorded o' ho', rfl⟩ hkey hrank
  have htable : ∀ p : TwinPropertyState, p.tenantId = tenantId → p.lane = .predicted →
      p.scenarioBranchId = some branchId →
      branchTable tenantId branchId s p.key = s.table p.key := by
    intro p htenant hlane hid
    refine if_pos ⟨htenant, hlane, ?_⟩
    change p.scenarioBranchId.getD "" = branchId
    rw [hid, Option.getD_some]
  constructor
  · rintro ⟨p, hp, rfl, rfl⟩
    obtain ⟨hget, htenant, -, hlane, hid⟩ := mem_predictedStates.mp hp
    have hheld : branchTable tenantId branchId s p.key = some p.facts := by
      rw [htable p htenant hlane hid, TwinStore.table, hget, Option.map_some]
    obtain ⟨-, hlatest⟩ := (hcovers.covers.table_iff hinj).mp hheld
    obtain ⟨o, ho, hfacts⟩ := hlatest.isOffered
    rw [← hfacts] at hlatest
    exact ⟨o, (newest_iff_latest policyFor hbranch ho).mpr hlatest,
      Prod.ext (congrArg PropertyFacts.twinId hfacts) (congrArg PropertyFacts.propertyName hfacts),
      congrArg PropertyFacts.value hfacts⟩
  · rintro ⟨o, hnewest, rfl, rfl⟩
    have hof := hbranch o hnewest.mem
    have hlatest := (newest_iff_latest policyFor hbranch hnewest.mem).mp hnewest
    have hheld := (hcovers.covers.table_iff hinj).mpr ⟨rfl, hlatest⟩
    have hread : branchTable tenantId branchId s o.facts.key = s.table o.facts.key := by
      refine if_pos ⟨hof.tenant, hof.lane, ?_⟩
      change o.scenarioBranchId.getD "" = branchId
      rw [hof.branch, Option.getD_some]
    rw [hread] at hheld
    obtain ⟨p, hget, hfacts⟩ := Option.map_eq_some_iff.mp hheld
    have htwin : p.twinId = o.twinId := congrArg PropertyFacts.twinId hfacts
    have hkey : o.facts.key = p.key := s.properties_keyed _ p hget
    rw [hkey] at hget
    refine ⟨p, mem_predictedStates.mpr ⟨hget, ?_, ?_, ?_, ?_⟩, ?_, ?_⟩
    · exact (congrArg PropertyFacts.tenantId hfacts).trans hof.tenant
    · rw [htwin]
      exact hstore o hnewest.mem
    · exact (congrArg PropertyFacts.lane hfacts).trans hof.lane
    · exact (congrArg PropertyFacts.scenarioBranchId hfacts).trans hof.branch
    · exact Prod.ext htwin (congrArg PropertyFacts.propertyName hfacts)
    · exact congrArg PropertyFacts.value hfacts

/-- The rows show the deltas when the newest recorded observations have the last values. -/
theorem showsDeltas_iff {log : ObservationLog} {os : List TwinObservation}
    {deltas : List ScenarioDelta} {rows : List ScenarioRow}
    (hrow : ∀ x v, (∃ row ∈ rows, row.pair = x ∧ row.predicted = v) ↔
      ∃ o, Newest (newObservations log os) o ∧ o.pair = x ∧ o.value = v)
    (hnodup : (rows.map ScenarioRow.pair).Nodup)
    (hasked : ∀ o ∈ newObservations log os, o.pair ∈ deltas.map ScenarioDelta.pair) :
    ShowsDeltas deltas rows ↔ LastDeltaWins log os deltas := by
  constructor
  · intro h x delta hlast
    have hmem := List.mem_of_getLast? hlast
    rw [List.mem_filter, decide_eq_true_eq] at hmem
    have hx : x ∈ rows.map ScenarioRow.pair := h.pairs.mem_iff.mpr
      (List.mem_dedup.mpr (List.mem_map.mpr ⟨delta, hmem.1, hmem.2⟩))
    obtain ⟨row, hrowmem, rfl⟩ := List.mem_map.mp hx
    exact (hrow row.pair delta.value).mp ⟨row, hrowmem, rfl, h.values row hrowmem delta hlast⟩
  · intro h
    refine ⟨(List.perm_ext_iff_of_nodup hnodup (List.nodup_dedup _)).mpr fun x => ?_, ?_⟩
    · rw [List.mem_dedup]
      constructor
      · intro hx
        obtain ⟨row, hrowmem, rfl⟩ := List.mem_map.mp hx
        obtain ⟨o, hnewest, hpair, -⟩ := (hrow row.pair row.predicted).mp ⟨row, hrowmem, rfl, rfl⟩
        rw [← hpair]
        exact hasked o hnewest.mem
      · intro hx
        obtain ⟨delta, hdelta, hpair⟩ := List.mem_map.mp hx
        -- a property that was asked for has a last delta
        have hsome : delta ∈ deltas.filter fun d => d.pair = x :=
          List.mem_filter.mpr ⟨hdelta, decide_eq_true hpair⟩
        obtain ⟨last, hlast⟩ : ∃ last, lastFor deltas x = some last :=
          ⟨_, List.getLast?_eq_some_getLast (List.ne_nil_of_mem hsome)⟩
        obtain ⟨row, hrowmem, hrowpair, -⟩ := (hrow x last.value).mpr (h x last hlast)
        exact List.mem_map.mpr ⟨row, hrowmem, hrowpair⟩
    · intro row hrowmem delta hlast
      obtain ⟨other, hother, hpair, hvalue⟩ :=
        (hrow row.pair delta.value).mpr (h row.pair delta hlast)
      have hsame : other = row := List.inj_on_of_nodup_map hnodup hother hrowmem hpair
      rw [← hsame, hvalue]

end Shows

theorem mem_of_timed {clock : ℕ → Timestamp × Timestamp} {request : ScenarioRequest}
    {item : (Timestamp × Timestamp) × ScenarioDelta} (h : item ∈ request.timed clock) :
    item.2 ∈ request.deltas := by
  obtain ⟨indexed, hindexed, rfl⟩ := List.mem_map.mp h
  exact List.fst_mem_of_mem_zipIdx hindexed

/-- A run of the deltas on a fresh branch and the comparison after it. -/
theorem shows_of_run {svc : TwinService} {confidenceOf : Confidence → PyFloat}
    {clock : ℕ → Timestamp × Timestamp} {request : ScenarioRequest} {branch : Branch}
    {s : TwinStore} {branches : BranchStore} {comparison : ScenarioComparison}
    (hfresh : FreshBranch s branch.tenantId branch.branchId)
    (hknown : request.deltas.all (knownEntity s branch.tenantId branch.storeId) = true)
    (hnone : (applyDeltas svc (request.timed clock) branch s).2.2 = none)
    (hcompare : compareBranch confidenceOf branch.tenantId branch.storeId branch.branchId
      ⟨(applyDeltas svc (request.timed clock) branch s).1, branches⟩ = .ok comparison) :
    ShowsDeltas request.deltas comparison.rows ↔
      LastDeltaWins s.log (whatIfs branch clock request) request.deltas := by
  obtain ⟨hentities, hcovers⟩ := applyDeltas_ok (branchCovers_fresh hfresh) hnone
  rw [List.nil_append] at hcovers
  have hdelta : ∀ o ∈ newObservations s.log (whatIfs branch clock request),
      ∃ delta ∈ request.deltas, ∃ now, o = predictedObservation branch delta now := by
    intro o ho
    obtain ⟨item, hitem, rfl⟩ := List.mem_map.mp (newObservations_subset ho)
    exact ⟨item.2, mem_of_timed hitem, item.1.1, rfl⟩
  have hbranch : ∀ o ∈ newObservations s.log (whatIfs branch clock request),
      OfBranch branch.tenantId branch.branchId o := by
    intro o ho
    obtain ⟨delta, -, now, rfl⟩ := hdelta o ho
    exact ⟨rfl, rfl, rfl, rfl⟩
  have hstore : ∀ o ∈ newObservations s.log (whatIfs branch clock request),
      (applyDeltas svc (request.timed clock) branch s).1.entityInStore o.twinId branch.tenantId
        branch.storeId = true := by
    intro o ho
    obtain ⟨delta, hmem, now, rfl⟩ := hdelta o ho
    have hin := List.all_eq_true.mp hknown delta hmem
    unfold knownEntity TwinStore.entityInStore at hin
    unfold TwinStore.entityInStore
    rw [hentities]
    exact hin
  have hrows := compareBranch_rows hcompare
  have hpairs := congrArg (List.map Prod.fst) hrows
  rw [List.map_map, List.map_map] at hpairs
  refine showsDeltas_iff (fun x v => ?_) ?_ fun o ho => ?_
  · refine Iff.trans ?_ (exists_predictedState_iff hcovers hbranch hstore x v)
    have hmem : (x, v) ∈ comparison.rows.map (fun row => (row.pair, row.predicted)) ↔
        (x, v) ∈ (predictedStates (applyDeltas svc (request.timed clock) branch s).1 branch.tenantId
          branch.storeId branch.branchId).map fun p => ((p.twinId, p.propertyName), p.value) := by
      rw [hrows]
    simpa only [List.mem_map, Prod.mk.injEq] using hmem
  · have hnodup : (comparison.rows.map ScenarioRow.pair).Nodup := hpairs ▸ nodup_predictedStates
    exact hnodup
  · obtain ⟨delta, hmem, now, rfl⟩ := hdelta o ho
    exact List.mem_map.mpr ⟨delta, hmem, rfl⟩

/-- The comparison of an accepted request on a fresh branch shows the last delta of every property
exactly when the newest recorded observations have the last values. -/
theorem scenario_shows_iff (svc : TwinService) (confidenceOf : Confidence → PyFloat)
    (createdAt : Timestamp) (clock : ℕ → Timestamp × Timestamp) (tenantId storeId : String)
    (request : ScenarioRequest) (st : ScenarioSide) (comparison : ScenarioComparison)
    (hfresh : FreshBranch st.twin tenantId request.branchId)
    (haccepted : (createBranch svc confidenceOf createdAt clock tenantId storeId request st).2
      = .ok comparison) :
    ShowsDeltas request.deltas comparison.rows ↔ LastDeltaWins st.twin.log
      (whatIfs (newBranch st.twin createdAt tenantId storeId request) clock request)
      request.deltas := by
  obtain ⟨hknown, hnone, branches, hcompare⟩ := createBranch_ok haccepted
  exact shows_of_run hfresh hknown hnone hcompare

/-- A product on a shelf. -/
def bread : TwinEntity where
  twinId := "urn:shelfwise:north:product:bread"
  tenantId := "north"
  storeId := "north"
  entityType := "product"
  displayName := "Bread"
  modelVersion := "twin-v1"
  attributes := []
  createdAt := ⟨0, ""⟩
  retiredAt := none

/-- An engine over a store that sells bread. -/
def breadSide : ScenarioSide := ⟨(ensureEntity bread .empty).1, Dict.empty⟩

/-- What if its stock were a number? -/
def breadDelta (n : ℤ) : ScenarioDelta :=
  ⟨"urn:shelfwise:north:product:bread", "inventory.on_hand", .int n, none⟩

/-- What if its stock were one number after another? -/
def breadRequest (units : List ℤ) : ScenarioRequest := ⟨"what-if-1", [], units.map breadDelta⟩

/-- A clock that moves on between two deltas. -/
def tickingClock (n : ℕ) : Timestamp × Timestamp := (⟨n, ""⟩, ⟨n, ""⟩)

/-- The comparison of a request about bread. -/
def breadAnswer (units : List ℤ) : Except Exc ScenarioComparison :=
  (createBranch defaultService (fun c => c.reliability) ⟨0, ""⟩ tickingClock "north" "north"
    (breadRequest units) breadSide).2

theorem fresh_breadSide : FreshBranch breadSide.twin "north" "what-if-1" :=
  fun _ hp => absurd hp List.not_mem_nil

/-- What a comparison shows of its rows. -/
def ScenarioComparison.shown (c : ScenarioComparison) : List ((String × String) × Value) :=
  c.rows.map fun row => (row.pair, row.predicted)

theorem breadAnswer_ok {units : List ℤ} {rows : List ((String × String) × Value)}
    (h : (breadAnswer units).toOption.map ScenarioComparison.shown = some rows) :
    ∃ comparison, breadAnswer units = .ok comparison ∧ comparison.shown = rows := by
  cases hanswer : breadAnswer units with
  | error e =>
    rw [hanswer] at h
    cases h
  | ok comparison =>
    rw [hanswer] at h
    exact ⟨comparison, rfl, Option.some.inj h⟩

theorem lastFor_bread {units : List ℤ} {x : String × String} {delta : ScenarioDelta}
    (h : lastFor (breadRequest units).deltas x = some delta) : x = (breadDelta 0).pair := by
  have hmem := List.mem_of_getLast? h
  rw [List.mem_filter, decide_eq_true_eq] at hmem
  obtain ⟨n, -, rfl⟩ := List.mem_map.mp hmem.1
  exact hmem.2.symm

/-- Two stocks of bread: the second one is shown. -/
theorem scenario_shows_two : ∃ comparison, breadAnswer [5, 9] = .ok comparison ∧
    ShowsDeltas (breadRequest [5, 9]).deltas comparison.rows := by
  have hrows : (breadAnswer [5, 9]).toOption.map ScenarioComparison.shown
      = some [((breadDelta 0).pair, .int 9)] := by decide +kernel
  obtain ⟨comparison, hanswer, -⟩ := breadAnswer_ok hrows
  refine ⟨comparison, hanswer, (scenario_shows_iff defaultService (fun c => c.reliability) ⟨0, ""⟩
    tickingClock "north" "north" (breadRequest [5, 9]) breadSide comparison fresh_breadSide
    hanswer).mpr ?_⟩
  intro x delta hlast
  obtain rfl := lastFor_bread hlast
  have hnine : lastFor (breadRequest [5, 9]).deltas (breadDelta 0).pair = some (breadDelta 9) := by
    decide +kernel
  obtain rfl := Option.some.inj (hnine.symm.trans hlast)
  have hnew : newObservations breadSide.twin.log (whatIfs
      (newBranch breadSide.twin ⟨0, ""⟩ "north" "north" (breadRequest [5, 9])) tickingClock
      (breadRequest [5, 9]))
      = [predictedObservation (newBranch breadSide.twin ⟨0, ""⟩ "north" "north"
          (breadRequest [5, 9])) (breadDelta 5) ⟨0, ""⟩,
        predictedObservation (newBranch breadSide.twin ⟨0, ""⟩ "north" "north"
          (breadRequest [5, 9])) (breadDelta 9) ⟨1, ""⟩] := by
    decide +kernel
  rw [hnew]
  refine ⟨_, ⟨List.mem_cons_of_mem _ List.mem_cons_self, fun o' ho' _ => ?_⟩, rfl, rfl⟩
  rcases List.mem_cons.mp ho' with hfirst | hsecond
  · rw [hfirst]
    exact .inl (by decide)
  · rw [List.mem_singleton.mp hsecond]
    exact .inr ⟨rfl, le_refl _⟩

/-- A stock of bread that is changed and changed back: the change is shown. -/
theorem scenario_hides_return : FreshBranch breadSide.twin "north" "what-if-1" ∧
    (∀ n, (tickingClock n).1.instant ≤ (tickingClock (n + 1)).1.instant) ∧
    ∃ comparison, breadAnswer [5, 9, 5] = .ok comparison ∧
      ¬ ShowsDeltas (breadRequest [5, 9, 5]).deltas comparison.rows := by
  have hrows : (breadAnswer [5, 9, 5]).toOption.map ScenarioComparison.shown
      = some [((breadDelta 0).pair, .int 9)] := by decide +kernel
  obtain ⟨comparison, hanswer, hshown⟩ := breadAnswer_ok hrows
  refine ⟨fresh_breadSide, fun n => by simp [tickingClock], comparison, hanswer, fun hshows => ?_⟩
  have hlast : lastFor (breadRequest [5, 9, 5]).deltas (breadDelta 0).pair = some (breadDelta 5) := by
    decide +kernel
  obtain ⟨row, hrow, hpaired⟩ := List.map_eq_singleton_iff.mp hshown
  obtain ⟨hpair, hpredicted⟩ := Prod.mk.inj hpaired
  rw [← hpair] at hlast
  have hfive := hshows.values row (by rw [hrow]; exact List.mem_cons_self) _ hlast
  rw [hpredicted] at hfive
  exact absurd hfive (by decide)

end ShelfWise.Twin
