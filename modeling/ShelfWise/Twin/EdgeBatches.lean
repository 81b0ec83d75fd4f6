import ShelfWise.Sys.Run
import ShelfWise.Twin.Accept

/-!
# Acknowledged edge batches

The route of the edge devices (`ingest_edge_observations`), called again and again: by any device, with
any batch id, and with a failure at any step of the projection. The registry remembers a batch by its
tenant and its id alone, and answers a completed one before it looks at what is in it; an observation
whose id is taken is refused as a duplicate whatever it says.

`acknowledged_observations_logged` says that what the route acknowledges is in the log, in every run in
which a completed id comes back with observations of a batch acknowledged under it, and no observation
has the id of another one.
-/

namespace ShelfWise.Twin

open Py Sys TwinStore

/-! ## Calls of the route -/

/-- A call of the route: the device whose signature the body has, the batch, what the clock shows at
each observation, and where the projection fails, if it does: at which observation, and after how many
steps. -/
structure EdgeCall where
  clock : ℕ → Timestamp
  device : Option EdgeDevice
  batch : EdgeObservationBatch
  failure : Option (ℕ × ℕ)

/-- The key under which the registry knows the batch. -/
def EdgeCall.key (call : EdgeCall) : String × String := (call.batch.tenantId, call.batch.batchId)

/-- `accept` that dies after `k` steps of the projection. -/
def acceptCut (svc : TwinService) (now : Timestamp) (o : TwinObservation) (k : ℕ) (s : TwinStore) :
    TwinStore :=
  match s.entities.get? (o.tenantId, o.twinId) with
  | some _ => (apply svc.policyFor now o).cut k s
  | none =>
    match (observedEntity o).validated with
    | .error _ => s
    | .ok entity => (apply svc.policyFor now o).cut k (ensureEntity entity s).1

/-- The twin after the projection of a batch has failed at observation `n`. -/
def failedProjection (svc : TwinService) (items : List (Timestamp × TwinObservation)) (n k : ℕ)
    (s : TwinStore) : TwinStore :=
  let before := (acceptAll svc (items.take n) s).1
  (items[n]?).elim before fun c => acceptCut svc c.1 c.2 k before

/-- The call gets as far as the projection. -/
def EdgeCall.Reaches (call : EdgeCall) (st : EdgeSide) : Prop :=
  ∃ device ∈ call.device, Projects device call.batch st

instance (device : EdgeDevice) (batch : EdgeObservationBatch) (st : EdgeSide) :
    Decidable (Projects device batch st) :=
  inferInstanceAs (Decidable (_ ∧ _))

instance (call : EdgeCall) (st : EdgeSide) : Decidable (call.Reaches st) :=
  decidable_of_iff (call.device.any fun device => decide (Projects device call.batch st))
    (by simp [EdgeCall.Reaches, Option.any_eq_true])

/-- One call of the route. A failed projection releases the claim. -/
def edgeStep (svc : TwinService) (st : EdgeSide) (call : EdgeCall) : EdgeSide × EdgeAnswer :=
  match call.failure with
  | none => edgeObservations svc call.clock call.device call.batch st
  | some (n, k) =>
    if call.Reaches st then
      ({ st with twin := failedProjection svc (call.batch.timed call.clock) n k st.twin },
        .refused 503 "Edge batch projection failed; retry the same signed batch")
    else edgeObservations svc call.clock call.device call.batch st

/-- The route answers `accepted` or `duplicate`. -/
def EdgeAnswer.Acknowledges : EdgeAnswer → Prop
  | .refused _ _ => False
  | .duplicate _ => True
  | .accepted _ _ _ => True

/-! ## What a call does to the log -/

/-- What is in one log is in the other. -/
def LogGrows (log log' : ObservationLog) : Prop := ∀ o, log.Recorded o → log'.Recorded o

theorem logGrows_refl (log : ObservationLog) : LogGrows log log := fun _ h => h

section Log

variable {svc : TwinService} {s : TwinStore}

/-- A projection only touches the log in its first step. -/
theorem always_recorded_apply (policyFor : SourcePolicyResolver) (now : Timestamp)
    (o : TwinObservation) {r : TwinObservation} (h : s.Recorded r) :
    (apply policyFor now o).Always (fun s' => s'.Recorded r) s := by
  have hoffer : (s.log.offer o).Recorded r := h.offer o
  refine Program.always_call_bind.mpr ⟨h, ?_⟩
  show (applyRecorded policyFor now o (!s.log.refuses o)).Always _ _
  cases s.log.refuses o with
  | true => exact hoffer
  | false =>
    refine ⟨hoffer, ?_⟩
    show (applyRead policyFor now o (s.properties.get? o.facts.key)).Always _ _
    unfold applyRead
    cases loses policyFor (s.properties.get? o.facts.key) o with
    | true => exact hoffer
    | false => exact ⟨hoffer, hoffer⟩

theorem logGrows_acceptCut (now : Timestamp) (o : TwinObservation) (k : ℕ) :
    LogGrows s.log (acceptCut svc now o k s).log := by
  intro r h
  unfold acceptCut
  cases s.entities.get? (o.tenantId, o.twinId) with
  | some e => exact Program.always_cut (always_recorded_apply svc.policyFor now o h) k
  | none =>
    simp only
    cases (observedEntity o).validated with
    | error e => exact h
    | ok entity =>
      have h' : (ensureEntity entity s).1.Recorded r := h
      exact Program.always_cut (always_recorded_apply svc.policyFor now o h') k

variable (svc s) in
theorem log_accept (now : Timestamp) (o : TwinObservation) :
    (accept svc now o s).1.log = s.log.offer o ∨ (accept svc now o s).1 = s := by
  rcases accept_cases svc now o s with haccepted | ⟨heq, -⟩
  · exact .inl haccepted.log
  · exact .inr heq

variable (svc) in
theorem logGrows_acceptAll (items : List (Timestamp × TwinObservation)) :
    LogGrows s.log (acceptAll svc items s).1.log := by
  induction items generalizing s with
  | nil => exact logGrows_refl _
  | cons c rest ih =>
    have hfirst : LogGrows s.log (accept svc c.1 c.2 s).1.log := by
      intro r h
      rcases log_accept svc s c.1 c.2 with hlog | heq
      · rw [hlog]
        exact h.offer c.2
      · rw [heq]
        exact h
    rcases acceptAll_cons svc c rest s with ⟨-, heq⟩ | ⟨-, heq⟩
    · rw [heq]
      exact fun r h => ih r (hfirst r h)
    · rw [heq]
      exact hfirst

theorem logGrows_failedProjection (items : List (Timestamp × TwinObservation)) (n k : ℕ) :
    LogGrows s.log (failedProjection svc items n k s).log := by
  intro r h
  have hbefore := logGrows_acceptAll svc (items.take n) r h
  unfold failedProjection
  cases items[n]? with
  | none => exact hbefore
  | some c => exact logGrows_acceptCut c.1 c.2 k r hbefore

/-- An accepted observation that is answered has been offered. -/
theorem log_accept_of_ok {now : Timestamp} {o : TwinObservation} {result : ProjectionResult}
    (h : (accept svc now o s).2 = .ok result) : (accept svc now o s).1.log = s.log.offer o := by
  unfold accept at h ⊢
  cases hget : s.entities.get? (o.tenantId, o.twinId) with
  | some e => exact log_run_apply svc.policyFor now o s
  | none =>
    rw [hget] at h
    simp only at h ⊢
    cases hentity : (observedEntity o).validated with
    | error e =>
      rw [hentity] at h
      cases h
    | ok entity => exact log_run_apply svc.policyFor now o (ensureEntity entity s).1

/-- A batch that is accepted has been offered observation by observation. -/
theorem log_acceptAll_of_ok {items : List (Timestamp × TwinObservation)}
    {receipts : List ProjectionResult} (h : (acceptAll svc items s).2 = .ok receipts) :
    (acceptAll svc items s).1.log = s.log.offerAll (items.map Prod.snd) := by
  induction items generalizing s receipts with
  | nil => rfl
  | cons c rest ih =>
    rw [acceptAll] at h ⊢
    cases haccepted : (accept svc c.1 c.2 s).2 with
    | error e =>
      simp only [haccepted] at h
      cases h
    | ok result =>
      simp only [haccepted] at h ⊢
      cases hrest : (acceptAll svc rest (accept svc c.1 c.2 s).1).2 with
      | error e =>
        rw [hrest] at h
        cases h
      | ok results =>
        rw [ih hrest, log_accept_of_ok haccepted]
        rfl

theorem map_snd_timed (batch : EdgeObservationBatch) (clock : ℕ → Timestamp) :
    (batch.timed clock).map Prod.snd = batch.observations := by
  rw [EdgeObservationBatch.timed, List.map_map]
  exact List.zipIdx_map_fst 0 batch.observations

end Log

/-- What a call does: it is refused, and no batch is claimed or completed; its batch was completed, and
nothing changes; or its batch was unknown, its observations are offered, and it is completed. -/
theorem edgeStep_cases (svc : TwinService) (st : EdgeSide) (call : EdgeCall) :
    (¬ (edgeStep svc st call).2.Acknowledges ∧ LogGrows st.twin.log (edgeStep svc st call).1.twin.log) ∨
      (st.batches.get? call.key = some .completed ∧ (edgeStep svc st call).1 = st) ∨
      (st.batches.get? call.key = none ∧
        (edgeStep svc st call).1.twin.log = st.twin.log.offerAll call.batch.observations) := by
  have hroute : (¬ (edgeObservations svc call.clock call.device call.batch st).2.Acknowledges ∧
        LogGrows st.twin.log (edgeObservations svc call.clock call.device call.batch st).1.twin.log) ∨
      (st.batches.get? call.key = some .completed ∧
        (edgeObservations svc call.clock call.device call.batch st).1 = st) ∨
      (st.batches.get? call.key = none ∧
        (edgeObservations svc call.clock call.device call.batch st).1.twin.log
          = st.twin.log.offerAll call.batch.observations) := by
    unfold edgeObservations EdgeCall.key
    cases call.device with
    | none => exact .inl ⟨id, logGrows_refl _⟩
    | some device =>
      simp only
      split
      · exact .inl ⟨id, logGrows_refl _⟩
      · split
        · exact .inl ⟨id, logGrows_refl _⟩
        · cases hstate : st.batches.get? (call.batch.tenantId, call.batch.batchId) with
          | some state =>
            cases state with
            | completed => exact .inr (.inl ⟨rfl, rfl⟩)
            | claimed => exact .inl ⟨id, logGrows_refl _⟩
          | none =>
            simp only
            cases haccepted : (acceptAll svc (call.batch.timed call.clock) st.twin).2 with
            | error e => exact .inl ⟨id, logGrows_acceptAll _ _⟩
            | ok receipts =>
              refine .inr (.inr ⟨trivial, ?_⟩)
              have hlog := log_acceptAll_of_ok haccepted
              rw [map_snd_timed] at hlog
              exact hlog
  unfold edgeStep
  cases call.failure with
  | none => exact hroute
  | some failure =>
    simp only
    split
    · exact .inl ⟨id, logGrows_failedProjection _ _ _⟩
    · exact hroute

/-! ## Runs -/

/-- The steps of a run of the route. -/
abbrev EdgeStep := Step EdgeSide EdgeCall EdgeAnswer

/-- The observation is in the log, or one with its source identity is. -/
def Held (log : ObservationLog) (o : TwinObservation) : Prop :=
  log.Recorded o ∨ ∃ o', log.Recorded o' ∧ o'.dedupeKey = o.dedupeKey

/-- No observation has an id that the log, at its turn, has for another source identity, unless its own
source identity is there as well. -/
def IdsFree (log : ObservationLog) : List TwinObservation → Prop
  | [] => True
  | o :: os => (log.observations.contains o.key = true → o.dedupeKey ∈ log.dedupe) ∧
    IdsFree (log.offer o) os

/-- A batch that is completed comes back with observations of a batch that was acknowledged under its
id. -/
def RepeatsKnown (past : List EdgeStep) (step : EdgeStep) : Prop :=
  step.before.batches.get? step.input.key = some .completed →
    ∃ earlier ∈ past, earlier.input.key = step.input.key ∧ earlier.output.Acknowledges ∧
      ∀ o ∈ step.input.batch.observations, ∃ o' ∈ earlier.input.batch.observations,
        o'.dedupeKey = o.dedupeKey

/-- The condition on a step: it repeats what is known, or its ids are free. -/
def Consistent (past : List EdgeStep) (step : EdgeStep) : Prop :=
  RepeatsKnown past step ∧ (step.before.batches.get? step.input.key = none →
    IdsFree step.before.twin.log step.input.batch.observations)

section Runs

variable {svc : TwinService} {log log' : ObservationLog}

theorem held_iff {o : TwinObservation} : Held log o ↔ o.dedupeKey ∈ log.dedupe := by
  rw [log.mem_dedupe]
  constructor
  · rintro (hrecorded | ⟨o', hrecorded, hkey⟩)
    · exact ⟨o.key, o, hrecorded, rfl⟩
    · exact ⟨o'.key, o', hrecorded, hkey⟩
  · rintro ⟨k, o', hget, hkey⟩
    exact .inr ⟨o', ObservationLog.recorded_of_get? hget, hkey⟩

theorem Held.grow {o : TwinObservation} (h : Held log o) (hgrows : LogGrows log log') :
    Held log' o := by
  rcases h with hrecorded | ⟨o', hrecorded, hkey⟩
  · exact .inl (hgrows o hrecorded)
  · exact .inr ⟨o', hgrows o' hrecorded, hkey⟩

theorem logGrows_offerAll (os : List TwinObservation) : LogGrows log (log.offerAll os) :=
  fun _ h => h.offerAll os

/-- With free ids, every observation that is offered is held afterwards. -/
theorem held_offerAll {os : List TwinObservation} (h : IdsFree log os) :
    ∀ o ∈ os, Held (log.offerAll os) o := by
  induction os generalizing log with
  | nil => exact fun o ho => absurd ho List.not_mem_nil
  | cons first os ih =>
    intro o ho
    rw [ObservationLog.offerAll_cons]
    rcases List.mem_cons.mp ho with rfl | hrest
    · have hoffered : Held (log.offer o) o := by
        cases href : log.refuses o with
        | true =>
          rw [ObservationLog.offer_of_refuses href, held_iff]
          rw [ObservationLog.refuses, Bool.or_eq_true, decide_eq_true_iff] at href
          exact href.elim h.1 id
        | false =>
          rw [ObservationLog.offer_of_fresh href]
          exact .inl ((ObservationLog.recorded_insert_iff href o).mpr (.inl rfl))
      exact hoffered.grow (logGrows_offerAll os)
    · exact ih h.2 o hrest

variable (svc) in
theorem logGrows_edgeStep (st : EdgeSide) (call : EdgeCall) :
    LogGrows st.twin.log (edgeStep svc st call).1.twin.log := by
  rcases edgeStep_cases svc st call with ⟨-, hgrows⟩ | ⟨-, hsame⟩ | ⟨-, hlog⟩
  · exact hgrows
  · rw [hsame]
    exact logGrows_refl _
  · rw [hlog]
    exact logGrows_offerAll _

/-- What has been acknowledged is held. -/
def AllHeld (past : List EdgeStep) (st : EdgeSide) : Prop :=
  ∀ step ∈ past, step.output.Acknowledges → ∀ o ∈ step.input.batch.observations,
    Held st.twin.log o

/-- One call under the condition. -/
theorem allHeld_edgeStep {past : List EdgeStep} {st : EdgeSide} (h : AllHeld past st)
    (call : EdgeCall) (hcondition : Consistent past (stepOf (edgeStep svc) st call)) :
    AllHeld (past ++ [stepOf (edgeStep svc) st call]) (edgeStep svc st call).1 := by
  have hgrows := logGrows_edgeStep svc st call
  intro step hstep hacknowledges o ho
  rcases List.mem_append.mp hstep with hpast | hnew
  · exact (h step hpast hacknowledges o ho).grow hgrows
  · rw [List.mem_singleton.mp hnew] at hacknowledges ho
    rcases edgeStep_cases svc st call with ⟨hrefused, -⟩ | ⟨hcompleted, -⟩ | ⟨hunknown, hlog⟩
    · exact absurd hacknowledges hrefused
    · -- the observation was in a batch that was acknowledged before
      obtain ⟨earlier, hearlier, -, hknown, hsame⟩ := hcondition.1 hcompleted
      obtain ⟨o', ho', hkey⟩ := hsame o ho
      have hheld := (h earlier hearlier hknown o' ho').grow hgrows
      rw [held_iff, hkey] at hheld
      exact held_iff.mpr hheld
    · rw [hlog]
      exact held_offerAll (hcondition.2 hunknown) o ho

/-- In every run of the route whose calls all meet the condition, every observation of a body that is
answered `accepted` or `duplicate` is in the log, or one with its source identity is. -/
theorem acknowledged_observations_logged (svc : TwinService) (twin : TwinStore)
    (calls : List EdgeCall)
    (hcondition : ∀ past step rest,
      trace (edgeStep svc) ⟨twin, .empty⟩ calls = past ++ step :: rest → Consistent past step) :
    ∀ past step rest, trace (edgeStep svc) ⟨twin, .empty⟩ calls = past ++ step :: rest →
      step.output.Acknowledges → ∀ o ∈ step.input.batch.observations,
        Held step.after.twin.log o := by
  intro past step rest hsplit hacknowledges o ho
  have hpast : ∀ p s r, past = p ++ s :: r → Consistent p s := by
    intro p s r hp
    refine hcondition p s (r ++ step :: rest) ?_
    rw [hsplit, hp, List.append_assoc, List.cons_append]
  have hbefore : (∀ p s r, past = p ++ s :: r → Consistent p s) → AllHeld past step.before := by
    refine history_of_split (f := edgeStep svc) (H := fun past st =>
      (∀ p s r, past = p ++ s :: r → Consistent p s) → AllHeld past st) ?_ [] ?_ hsplit
    · intro past st call h hall
      refine allHeld_edgeStep (h fun p s r hp => ?_) call (hall past _ [] rfl)
      exact hall p s (r ++ [stepOf (edgeStep svc) st call])
        (by rw [hp, List.append_assoc, List.cons_append])
    · exact fun _ _ hmem => absurd hmem List.not_mem_nil
  have hstep : step = stepOf (edgeStep svc) step.before step.input :=
    (invariant_of_mem_trace (I := fun _ => True) (fun _ _ _ => trivial) trivial
      (by rw [hsplit]; simp)).2
  have hafter := allHeld_edgeStep (hbefore hpast) step.input
    (hstep ▸ hcondition past step rest hsplit) step
      (List.mem_append_right _ (List.mem_singleton.mpr hstep)) hacknowledges o ho
  rw [hstep]
  exact hafter

end Runs

/-- A batch of one reading of the fridge of store_b, from a device. -/
def fridgeCall (deviceId observationId : String) (failure : Option (ℕ × ℕ)) : EdgeCall where
  clock := fun _ => ⟨9, ""⟩
  device := some ⟨deviceId, "tenant_a", "store_b"⟩
  batch := ⟨"batch_0001", "tenant_a", "store_b", deviceId,
    [fridgeReading "store_b" observationId 1]⟩
  failure := failure

/-- A reading that fails once and is sent again. -/
def retriedCalls : List EdgeCall :=
  [fridgeCall "device_001" "obs_fridge_1" (some (0, 1)), fridgeCall "device_001" "obs_fridge_1" none]

/-- After a failure that left the reading in the log, the same batch is accepted. -/
theorem retried_batch_logged : ∃ past step,
    trace (edgeStep defaultService) ⟨.empty, .empty⟩ retriedCalls = past ++ [step] ∧
      step.output.Acknowledges ∧ ∀ o ∈ step.input.batch.observations,
        Held step.after.twin.log o := by
  have hanswer : (edgeStep defaultService (edgeStep defaultService ⟨.empty, .empty⟩
      (fridgeCall "device_001" "obs_fridge_1" (some (0, 1)))).1
        (fridgeCall "device_001" "obs_fridge_1" none)).2 = .accepted "batch_0001" 0 1 := by
    decide +kernel
  have hlast : ∀ first second : EdgeCall,
      (edgeStep defaultService (edgeStep defaultService ⟨.empty, .empty⟩ first).1 second).2 =
        .accepted "batch_0001" 0 1 →
      (∀ past step rest,
        trace (edgeStep defaultService) ⟨.empty, .empty⟩ [first, second] = past ++ step :: rest →
          step.output.Acknowledges → ∀ o ∈ step.input.batch.observations,
            Held step.after.twin.log o) →
      ∃ past step, trace (edgeStep defaultService) ⟨.empty, .empty⟩ [first, second] =
        past ++ [step] ∧ step.output.Acknowledges ∧ ∀ o ∈ step.input.batch.observations,
          Held step.after.twin.log o := by
    intro first second hsecond hall
    have hacknowledged : (edgeStep defaultService
        (edgeStep defaultService ⟨.empty, .empty⟩ first).1 second).2.Acknowledges := by
      rw [hsecond]
      trivial
    exact ⟨[stepOf (edgeStep defaultService) ⟨.empty, .empty⟩ first],
      stepOf (edgeStep defaultService) (edgeStep defaultService ⟨.empty, .empty⟩ first).1 second,
      rfl, hacknowledged,
      hall [stepOf (edgeStep defaultService) ⟨.empty, .empty⟩ first] _ [] rfl hacknowledged⟩
  refine hlast _ _ hanswer (acknowledged_observations_logged defaultService .empty retriedCalls ?_)
  intro past step rest hsplit
  have hstep : ∀ st call, st.batches.get? (EdgeCall.key call) = none →
      IdsFree st.twin.log call.batch.observations →
      Consistent past (stepOf (edgeStep defaultService) st call) := by
    intro st call hunknown hfree
    refine ⟨fun hcompleted => ?_, fun _ => hfree⟩
    have hcompleted' : st.batches.get? (EdgeCall.key call) = some .completed := hcompleted
    rw [hunknown] at hcompleted'
    cases hcompleted'
  cases past with
  | nil =>
    rw [← (List.cons.inj hsplit).1]
    exact hstep _ _ rfl ⟨fun h => absurd h (by decide +kernel), trivial⟩
  | cons first past =>
    cases past with
    | nil =>
      rw [← (List.cons.inj (List.cons.inj hsplit).2).1]
      refine hstep _ _ (by decide +kernel) ⟨fun _ => ?_, trivial⟩
      decide +kernel
    | cons second past =>
      have hlength := congrArg List.length hsplit
      simp only [trace, retriedCalls, List.length_append, List.length_cons, List.length_nil] at hlength
      omega

/-- The route after it has completed a batch; another device is about to use its id. -/
def reusedState : EdgeSide :=
  (edgeStep defaultService ⟨.empty, .empty⟩ (fridgeCall "device_001" "obs_fridge_1" none)).1

/-- A completed batch id answers for a reading that was never logged. -/
theorem reused_id_drops_reading :
    ¬ ∀ (svc : TwinService) (twin : TwinStore) (calls : List EdgeCall),
      ∀ past step rest, trace (edgeStep svc) ⟨twin, .empty⟩ calls = past ++ step :: rest →
        step.output.Acknowledges → ∀ o ∈ step.input.batch.observations,
          Held step.after.twin.log o := by
  intro h
  have hdropped : ∀ first second : EdgeCall,
      (edgeStep defaultService (edgeStep defaultService ⟨.empty, .empty⟩ first).1 second).2.Acknowledges →
      ∀ o ∈ second.batch.observations,
        Held (edgeStep defaultService (edgeStep defaultService ⟨.empty, .empty⟩ first).1
          second).1.twin.log o :=
    fun first second => h defaultService .empty [first, second]
      [stepOf (edgeStep defaultService) ⟨.empty, .empty⟩ first]
      (stepOf (edgeStep defaultService) (edgeStep defaultService ⟨.empty, .empty⟩ first).1 second) [] rfl
  have hanswer : (edgeStep defaultService reusedState (fridgeCall "device_002" "obs_fridge_2" none)).2
      = .duplicate "batch_0001" := by
    decide +kernel
  have hlost : (fridgeReading "store_b" "obs_fridge_2" 1).dedupeKey ∉
      (edgeStep defaultService reusedState
        (fridgeCall "device_002" "obs_fridge_2" none)).1.twin.log.dedupe := by
    decide +kernel
  have hacknowledged : (edgeStep defaultService reusedState
      (fridgeCall "device_002" "obs_fridge_2" none)).2.Acknowledges := by
    rw [hanswer]
    trivial
  exact hlost (held_iff.mp (hdropped (fridgeCall "device_001" "obs_fridge_1" none)
    (fridgeCall "device_002" "obs_fridge_2" none) hacknowledged _ (List.mem_singleton_self _)))

end ShelfWise.Twin
