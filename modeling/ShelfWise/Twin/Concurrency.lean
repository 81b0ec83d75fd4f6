import ShelfWise.Twin.Order
import ShelfWise.Sys.Run

/-!
# Concurrent projection

Several calls of `TwinProjector.apply` for one property run at once over one store: the inline
ingest path and the projection worker do that. A call reads the property state in one step and
writes it in a later one, so another call may write in between. `concurrent_projection` says what
is enough for the authority ordering to decide the result: when a call writes, the state in the
store at that moment, if there is one, may be replaced by its observation.

The invariant is `Covered` with the observations of the calls between their first and their last
step as the pending ones.
-/

namespace ShelfWise.Twin

open Py Sys TwinStore

variable {ι : Type}

/-- The shared store and what is left of each call. -/
abbrev ProjectionPool (ι : Type) := Program.Pool ι TwinOp TwinStore ProjectionResult

/-- The calls before any of them has taken a step. -/
def startPool (policyFor : SourcePolicyResolver) (call : ι → Timestamp × TwinObservation) :
    ProjectionPool ι :=
  ⟨.empty, fun i => apply policyFor (call i).1 (call i).2⟩

/-- When the step is the write of a call, the state it replaces may be replaced by the observation
of the call. -/
def FreshWrite (policyFor : SourcePolicyResolver) (call : ι → Timestamp × TwinObservation)
    (step : Step (ProjectionPool ι) ι Unit) : Prop :=
  (step.before.program step.input).nextLabel = some .upsertProperty →
    loses policyFor (step.before.store.properties.get? (call step.input).2.facts.key)
      (call step.input).2 = false

instance (policyFor : SourcePolicyResolver) (call : ι → Timestamp × TwinObservation)
    (step : Step (ProjectionPool ι) ι Unit) : Decidable (FreshWrite policyFor call step) :=
  inferInstanceAs (Decidable (_ → _))

/-! ## Where a call stands -/

/-- The call has recorded its observation and has not returned. -/
def Active (policyFor : SourcePolicyResolver) (c : Timestamp × TwinObservation)
    (p : Program TwinOp TwinStore ProjectionResult) : Prop :=
  p = applyRecorded policyFor c.1 c.2 true ∨ p = applyProject policyFor c.1 c.2

/-- Where a call stands: before its first step, active with its observation recorded, or
returned. -/
def Stage (policyFor : SourcePolicyResolver) (c : Timestamp × TwinObservation) (s : TwinStore)
    (p : Program TwinOp TwinStore ProjectionResult) : Prop :=
  p = apply policyFor c.1 c.2 ∨ (Active policyFor c p ∧ s.Recorded c.2) ∨ ∃ r, p = .ret r

/-- The facts of the active calls. -/
def pendingFacts (policyFor : SourcePolicyResolver) (call : ι → Timestamp × TwinObservation)
    (w : ProjectionPool ι) (f : PropertyFacts) : Prop :=
  ∃ i, f = (call i).2.facts ∧ Active policyFor (call i) (w.program i)

variable {policyFor : SourcePolicyResolver}

theorem active_not_start {c : Timestamp × TwinObservation} :
    ¬ Active policyFor c (apply policyFor c.1 c.2) := by
  rintro (h | h) <;> cases h

theorem active_not_ret {c : Timestamp × TwinObservation} {r : ProjectionResult} :
    ¬ Active policyFor c (.ret r) := by
  rintro (h | h) <;> cases h

/-- The invariant of the pool. -/
structure PoolInv (policyFor : SourcePolicyResolver) (call : ι → Timestamp × TwinObservation)
    (w : ProjectionPool ι) : Prop where
  stage : ∀ i, Stage policyFor (call i) w.store (w.program i)
  covered : Covered policyFor w.store (pendingFacts policyFor call w)
  recorded : ∀ o, w.store.Recorded o → ∃ i, (call i).2 = o
  started : ∀ i, w.program i = apply policyFor (call i).1 (call i).2 ∨ ∃ o, w.store.Recorded o

theorem poolInv_start (policyFor : SourcePolicyResolver) (call : ι → Timestamp × TwinObservation) :
    PoolInv policyFor call (startPool policyFor call) :=
  ⟨fun _ => .inl rfl, covered_empty policyFor _, fun o ho => (ObservationLog.not_recorded_empty o ho).elim,
    fun _ => .inl rfl⟩

/-! ## One step -/

variable [DecidableEq ι]

variable {call : ι → Timestamp × TwinObservation} {w : ProjectionPool ι}

/-- A step of call `i` that keeps the recorded observations and takes its program to `p`, when no
fact but that of call `i` stops being pending. -/
theorem poolInv_update (h : PoolInv policyFor call w) (i : ι) {s' : TwinStore}
    {p : Program TwinOp TwinStore ProjectionResult} (hrec : ∀ o, w.store.Recorded o → s'.Recorded o)
    (hback : ∀ o, s'.Recorded o → o = (call i).2 ∨ w.store.Recorded o) (hsome : ∃ o, s'.Recorded o)
    (hstage : Stage policyFor (call i) s' p)
    (hcov : Covered policyFor s' (pendingFacts policyFor call ⟨s', Function.update w.program i p⟩)) :
    PoolInv policyFor call ⟨s', Function.update w.program i p⟩ := by
  refine ⟨fun j => ?_, hcov, fun o ho => ?_, fun _ => .inr hsome⟩
  · change Stage policyFor (call j) s' (Function.update w.program i p j)
    by_cases hij : j = i
    · subst hij
      rw [Function.update_self]
      exact hstage
    · rw [Function.update_of_ne hij]
      rcases h.stage j with hs | ⟨ha, hr⟩ | hd
      · exact .inl hs
      · exact .inr (.inl ⟨ha, hrec _ hr⟩)
      · exact .inr (.inr hd)
  · rcases hback o ho with rfl | hr
    · exact ⟨i, rfl⟩
    · exact h.recorded o hr

variable {i : ι} {f : PropertyFacts}

/-- The pending facts of the other calls stay pending. -/
theorem pendingFacts_update (s' : TwinStore) (p : Program TwinOp TwinStore ProjectionResult)
    (hf : pendingFacts policyFor call w f) : f = (call i).2.facts ∨
      pendingFacts policyFor call ⟨s', Function.update w.program i p⟩ f := by
  obtain ⟨j, rfl, hj⟩ := hf
  by_cases hij : j = i
  · exact .inl (by rw [hij])
  · refine .inr ⟨j, rfl, ?_⟩
    change Active policyFor (call j) (Function.update w.program i p j)
    rwa [Function.update_of_ne hij]

/-- While call `i` is active its fact is pending. -/
theorem pendingFacts_of_active (s' : TwinStore) {p : Program TwinOp TwinStore ProjectionResult}
    (hp : Active policyFor (call i) p) (hf : f = (call i).2.facts ∨ pendingFacts policyFor call w f) :
    pendingFacts policyFor call ⟨s', Function.update w.program i p⟩ f := by
  have hi : pendingFacts policyFor call ⟨s', Function.update w.program i p⟩ (call i).2.facts := by
    refine ⟨i, rfl, ?_⟩
    change Active policyFor (call i) (Function.update w.program i p i)
    rwa [Function.update_self]
  rcases hf with rfl | hf
  · exact hi
  · rcases pendingFacts_update s' p hf with he | h
    · exact he ▸ hi
    · exact h

/-- A call without an active program before and after the step changes no pending fact. -/
theorem pendingFacts_of_not_active (s' : TwinStore) (p : Program TwinOp TwinStore ProjectionResult)
    (hp : ¬ Active policyFor (call i) (w.program i)) (hf : pendingFacts policyFor call w f) :
    pendingFacts policyFor call ⟨s', Function.update w.program i p⟩ f := by
  obtain ⟨j, rfl, hj⟩ := hf
  have hij : j ≠ i := by
    rintro rfl
    exact hp hj
  refine ⟨j, rfl, ?_⟩
  change Active policyFor (call j) (Function.update w.program i p j)
  rwa [Function.update_of_ne hij]

/-- The first step of a call: its observation is recorded, or refused as a duplicate. -/
theorem poolInv_record (h : PoolInv policyFor call w) (i : ι)
    (hp : w.program i = apply policyFor (call i).1 (call i).2) :
    PoolInv policyFor call (w.tick i) := by
  have hnot : ¬ Active policyFor (call i) (w.program i) := by
    rw [hp]
    exact active_not_start
  rw [Program.Pool.tick_step (hp.trans (Program.call_bind _ _ _))]
  cases href : w.store.log.refuses (call i).2 with
  | true =>
    rw [recordObservation_of_refuses href]
    obtain ⟨o, hrec, -⟩ := ObservationLog.refuses_iff_exists.mp href
    have hsome : ∃ o, w.store.Recorded o := ⟨o, hrec⟩
    refine poolInv_update h i (fun _ ho => ho) (fun _ ho => .inr ho) hsome (.inr (.inr ⟨_, rfl⟩)) ?_
    exact h.covered.mono fun f hf => pendingFacts_of_not_active _ _ hnot hf
  | false =>
    have hanswer : (recordObservation (call i).2 w.store).2 = true := by
      change (!w.store.log.refuses (call i).2) = true
      rw [href]
      rfl
    have hiff : ∀ o, (recordObservation (call i).2 w.store).1.Recorded o ↔
        o = (call i).2 ∨ w.store.Recorded o := by
      intro o
      change (w.store.log.offer (call i).2).Recorded o ↔ _
      rw [ObservationLog.offer_of_fresh href]
      exact ObservationLog.recorded_insert_iff href o
    rw [hanswer]
    refine poolInv_update h i (fun o ho => (hiff o).mpr (.inr ho)) (fun o ho => (hiff o).mp ho)
      ⟨_, (hiff _).mpr (.inl rfl)⟩ (.inr (.inl ⟨.inl rfl, (hiff _).mpr (.inl rfl)⟩)) ?_
    exact (covered_insert h.covered href).mono fun f hf =>
      pendingFacts_of_active _ (.inl rfl) hf

/-- The second step of a call: it reads the property state and compares. -/
theorem poolInv_get (h : PoolInv policyFor call w) (i : ι)
    (hp : w.program i = applyRecorded policyFor (call i).1 (call i).2 true)
    (hrec : w.store.Recorded (call i).2) : PoolInv policyFor call (w.tick i) := by
  have hstep : w.program i = .step .getProperty (fun s => s) (fun s =>
      applyRead policyFor (call i).1 (call i).2 (s.properties.get? (call i).2.facts.key)) := hp
  rw [Program.Pool.tick_step hstep]
  cases hl : loses policyFor (w.store.properties.get? (call i).2.facts.key) (call i).2 with
  | true =>
    -- the state read, and with it the state in the store, is at least as strong
    have hread : applyRead policyFor (call i).1 (call i).2
        (w.store.properties.get? (call i).2.facts.key) = .ret ⟨.recordedNotProjected,
          (call i).2.observationId, "older or lower-authority observation",
          w.store.properties.get? (call i).2.facts.key⟩ := by
      rw [applyRead, if_pos hl]
      rfl
    rw [hread]
    refine poolInv_update h i (fun _ ho => ho) (fun _ ho => .inr ho) ⟨_, hrec⟩
      (.inr (.inr ⟨_, rfl⟩)) ?_
    exact covered_of_loses (h.covered.mono fun f hf => pendingFacts_update _ _ hf) hl
  | false =>
    have hread : applyRead policyFor (call i).1 (call i).2
        (w.store.properties.get? (call i).2.facts.key)
          = applyProject policyFor (call i).1 (call i).2 := by
      rw [applyRead, if_neg (by rw [hl]; exact Bool.false_ne_true)]
    rw [hread]
    refine poolInv_update h i (fun _ ho => ho) (fun _ ho => .inr ho) ⟨_, hrec⟩
      (.inr (.inl ⟨.inr rfl, hrec⟩)) ?_
    exact h.covered.mono fun f hf => pendingFacts_of_active _ (.inr rfl) (.inr hf)

/-- The last step of a call: it writes over a state its observation may replace. -/
theorem poolInv_write (h : PoolInv policyFor call w) (i : ι)
    (hp : w.program i = applyProject policyFor (call i).1 (call i).2)
    (hrec : w.store.Recorded (call i).2)
    (hwins : loses policyFor (w.store.properties.get? (call i).2.facts.key) (call i).2 = false) :
    PoolInv policyFor call (w.tick i) := by
  rw [Program.Pool.tick_step (hp.trans (Program.call_bind _ _ _))]
  refine poolInv_update h i (fun _ ho => ho) (fun _ ho => .inr ho) ⟨_, hrec⟩
    (.inr (.inr ⟨_, rfl⟩)) ?_
  exact covered_upsert (h.covered.mono fun f hf => pendingFacts_update _ _ hf) hrec hwins _

theorem poolInv_tick (w : ProjectionPool ι) (i : ι) (h : PoolInv policyFor call w)
    (hfresh : FreshWrite policyFor call (stepOf Program.Pool.step w i)) :
    PoolInv policyFor call (w.step i).1 := by
  change PoolInv policyFor call (w.tick i)
  rcases h.stage i with hp | ⟨hp | hp, hrec⟩ | ⟨r, hp⟩
  · exact poolInv_record h i hp
  · exact poolInv_get h i hp hrec
  · refine poolInv_write h i hp hrec (hfresh ?_)
    change (w.program i).nextLabel = _
    rw [hp]
    rfl
  · rw [Program.Pool.tick_ret hp]
    exact h

/-! ## The result -/

/-- When every write goes over a state the writer may replace, then once all calls have returned
the property state is that of the greatest accepted observation, whatever the interleaving. -/
theorem concurrent_projection (policyFor : SourcePolicyResolver)
    (call : ι → Timestamp × TwinObservation) (k : PropertyKey)
    (hkey : ∀ i, (call i).2.facts.key = k) (hsome : Nonempty ι) (schedule : List ι)
    (hfresh : ∀ step ∈ trace Program.Pool.step (startPool policyFor call) schedule,
      FreshWrite policyFor call step)
    (hdone : (final Program.Pool.step (startPool policyFor call) schedule).Finished) :
    ∃ o, (final Program.Pool.step (startPool policyFor call) schedule).store.Recorded o ∧
      (∀ o', (final Program.Pool.step (startPool policyFor call) schedule).store.Recorded o' →
        o'.facts.rank policyFor ≤ o.facts.rank policyFor) ∧
      (final Program.Pool.step (startPool policyFor call) schedule).store.table k
        = some o.facts := by
  have hinv := invariant_of_guarded poolInv_tick (poolInv_start policyFor call) schedule hfresh
  generalize final Program.Pool.step (startPool policyFor call) schedule = w at hinv hdone ⊢
  have hret : ∀ i, ∃ r, w.program i = .ret r := fun i => Program.nextLabel_eq_none (hdone i)
  have hcov : Covered policyFor w.store fun _ => False := by
    refine hinv.covered.mono fun f hf => ?_
    obtain ⟨i, -, hi⟩ := hf
    obtain ⟨r, hr⟩ := hret i
    rw [hr] at hi
    exact active_not_ret hi
  have hkeys : ∀ o, w.store.Recorded o → o.facts.key = k := by
    intro o ho
    obtain ⟨i, rfl⟩ := hinv.recorded o ho
    exact hkey i
  obtain ⟨i⟩ := hsome
  obtain ⟨o, ho⟩ : ∃ o, w.store.Recorded o := by
    rcases hinv.started i with hp | h
    · obtain ⟨r, hr⟩ := hret i
      rw [hp] at hr
      cases hr
    · exact h
  have htable := table_applyAll hcov k
  cases ht : w.store.table k with
  | none =>
    rw [ht] at htable
    exact absurd (hkeys o ho) (htable o.facts ⟨o, ho, rfl⟩)
  | some f =>
    rw [ht] at htable
    obtain ⟨hk, ⟨o', ho', rfl⟩, htop⟩ := htable
    exact ⟨o', ho', fun o'' ho'' => htop o''.facts ⟨o'', ho'', rfl⟩ ((hkeys o'' ho'').trans hk.symm),
      rfl⟩

/-- An earlier and a later count of one product. -/
def twoCounts (i : Fin 2) : Timestamp × TwinObservation :=
  (⟨9, ""⟩, if i = 0 then stockCount "obs_early" "api" 1 40 else stockCount "obs_late" "api" 2 38)

/-- One call after the other. -/
theorem concurrent_projection_sequential :
    ∃ o, (final Program.Pool.step (startPool defaultSourcePolicy twoCounts)
        [1, 1, 1, 0, 0, 0]).store.Recorded o ∧
      (∀ o', (final Program.Pool.step (startPool defaultSourcePolicy twoCounts)
          [1, 1, 1, 0, 0, 0]).store.Recorded o' →
        o'.facts.rank defaultSourcePolicy ≤ o.facts.rank defaultSourcePolicy) ∧
      (final Program.Pool.step (startPool defaultSourcePolicy twoCounts)
        [1, 1, 1, 0, 0, 0]).store.table (twoCounts 0).2.facts.key = some o.facts :=
  concurrent_projection defaultSourcePolicy twoCounts (twoCounts 0).2.facts.key
    (by decide +kernel) ⟨0⟩ [1, 1, 1, 0, 0, 0] (by decide +kernel)
    (by unfold Program.Pool.Finished; decide +kernel)

/-- Both calls read before either writes, and the earlier count is written last. -/
theorem concurrent_projection_lost_update :
    ¬ ∀ (policyFor : SourcePolicyResolver) (call : Fin 2 → Timestamp × TwinObservation)
      (k : PropertyKey), (∀ i, (call i).2.facts.key = k) → ∀ schedule : List (Fin 2),
      (final Program.Pool.step (startPool policyFor call) schedule).Finished →
      ∃ o, (final Program.Pool.step (startPool policyFor call) schedule).store.Recorded o ∧
        (∀ o', (final Program.Pool.step (startPool policyFor call) schedule).store.Recorded o' →
          o'.facts.rank policyFor ≤ o.facts.rank policyFor) ∧
        (final Program.Pool.step (startPool policyFor call) schedule).store.table k
          = some o.facts := by
  intro h
  obtain ⟨o, -, htop, htable⟩ := h defaultSourcePolicy twoCounts (twoCounts 0).2.facts.key
    (by decide +kernel) [0, 0, 1, 1, 1, 0] (by unfold Program.Pool.Finished; decide +kernel)
  have hearly : (final Program.Pool.step (startPool defaultSourcePolicy twoCounts)
      [0, 0, 1, 1, 1, 0]).store.table (twoCounts 0).2.facts.key = some (twoCounts 0).2.facts := by
    decide +kernel
  have hlate : (final Program.Pool.step (startPool defaultSourcePolicy twoCounts)
      [0, 0, 1, 1, 1, 0]).store.Recorded (twoCounts 1).2 := by
    unfold TwinStore.Recorded ObservationLog.Recorded
    decide +kernel
  have hle := htop _ hlate
  rw [← Option.some.inj (hearly.symm.trans htable)] at hle
  exact absurd hle (by decide +kernel)

end ShelfWise.Twin
