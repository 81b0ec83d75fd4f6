import ShelfWise.Twin.Projector
import ShelfWise.Sys.Register
import Mathlib

/-!
# Sequential projection does not depend on the order

The property table, read as a table of facts, is a register that keeps the greatest fact recorded
for each key (`Covered`). `covered_apply` is the step: an uninterrupted `apply` leaves nothing
pending. `sequential_projection` follows for every sequence of calls that delivers a set of
observations, in any order and with any repetitions.
-/

namespace ShelfWise.Twin

open Py Sys TwinStore

/-! ## The property table as a register -/

/-- The facts of the recorded observations. -/
def TwinStore.offered (s : TwinStore) (f : PropertyFacts) : Prop := ∃ o, s.Recorded o ∧ o.facts = f

/-- The facts of the property states. -/
def TwinStore.table (s : TwinStore) (k : PropertyKey) : Option PropertyFacts :=
  (s.properties.get? k).map TwinPropertyState.facts

/-- The property table stands for the recorded observations but the pending ones. -/
def Covered (policyFor : SourcePolicyResolver) (s : TwinStore) (pending : PropertyFacts → Prop) :
    Prop :=
  Register.Covers PropertyFacts.key (PropertyFacts.rank policyFor) s.table s.offered pending

variable {policyFor : SourcePolicyResolver}

theorem facts_key_of_rank_eq {f g : PropertyFacts} (h : f.rank policyFor = g.rank policyFor) :
    f.observationId = g.observationId :=
  congrArg (fun r => (ofLex (ofLex r).2).2) h

/-- Among the facts for one key, the rank tells the recorded observations apart. -/
theorem offered_unique (policyFor : SourcePolicyResolver) (s : TwinStore) (f g : PropertyFacts)
    (hf : s.offered f) (hg : s.offered g) (hkey : f.key = g.key)
    (hrank : f.rank policyFor = g.rank policyFor) : f = g := by
  obtain ⟨o, ho, rfl⟩ := hf
  obtain ⟨o', ho', rfl⟩ := hg
  have htenant : o.tenantId = o'.tenantId := congrArg PropertyKey.tenantId hkey
  have hid : o.observationId = o'.observationId := facts_key_of_rank_eq hrank
  rw [ObservationLog.recorded_unique ho ho' (Prod.ext htenant hid)]

theorem covered_empty (policyFor : SourcePolicyResolver) (pending : PropertyFacts → Prop) :
    Covered policyFor .empty pending := by
  have hoffered : TwinStore.empty.offered = fun _ => False := by
    funext f
    refine eq_false ?_
    rintro ⟨o, ho, -⟩
    exact ObservationLog.not_recorded_empty o ho
  unfold Covered
  rw [hoffered]
  exact Register.covers_empty

/-! ## What the steps of `apply` do -/

variable {s : TwinStore} {o : TwinObservation}

theorem offered_insert (h : s.log.refuses o = false) :
    (recordObservation o s).1.offered = fun f => f = o.facts ∨ s.offered f := by
  funext f
  have hlog : (recordObservation o s).1.log = s.log.insert o h := ObservationLog.offer_of_fresh h
  unfold offered Recorded
  rw [hlog]
  refine propext ⟨?_, ?_⟩
  · rintro ⟨o', ho', rfl⟩
    rcases (ObservationLog.recorded_insert_iff h o').mp ho' with rfl | hr
    · exact .inl rfl
    · exact .inr ⟨o', hr, rfl⟩
  · rintro (rfl | ⟨o', hr, rfl⟩)
    · exact ⟨o, (ObservationLog.recorded_insert_iff h o).mpr (.inl rfl), rfl⟩
    · exact ⟨o', (ObservationLog.recorded_insert_iff h o').mpr (.inr hr), rfl⟩

variable {pending : PropertyFacts → Prop}

/-- A recorded observation is pending until it is projected or loses. -/
theorem covered_insert (hc : Covered policyFor s pending) (h : s.log.refuses o = false) :
    Covered policyFor (recordObservation o s).1 fun f => f = o.facts ∨ pending f := by
  unfold Covered
  rw [offered_insert h]
  exact Register.Covers.offer hc o.facts

theorem table_upsertProperty (p : TwinPropertyState) (s : TwinStore) :
    (upsertProperty p s).1.table = Function.update s.table p.facts.key (some p.facts) := by
  funext k
  change ((s.properties.set p.key p).get? k).map _ = _
  rw [Dict.get?_set, ← key_facts]
  by_cases hk : p.facts.key = k
  · subst hk
    rw [if_pos rfl, Function.update_self, Option.map_some]
  · rw [if_neg hk, Function.update_of_ne (Ne.symm hk)]
    rfl

/-- Writing a pending observation over a state it may replace. -/
theorem covered_upsert (hc : Covered policyFor s fun f => f = o.facts ∨ pending f)
    (ho : s.Recorded o) (hwins : loses policyFor (s.properties.get? o.facts.key) o = false)
    (now : Timestamp) :
    Covered policyFor (upsertProperty (stateOf policyFor now o) s).1 pending := by
  unfold Covered
  rw [table_upsertProperty, facts_stateOf]
  refine Register.Covers.write hc ⟨o, ho, rfl⟩ ?_
  intro g hg
  obtain ⟨p, hp, rfl⟩ := Option.map_eq_some_iff.mp hg
  exact le_of_lt (loses_eq_false_iff.mp hwins p hp)

/-- A pending observation that loses against the state in the table. -/
theorem covered_of_loses (hc : Covered policyFor s fun f => f = o.facts ∨ pending f)
    (hloses : loses policyFor (s.properties.get? o.facts.key) o = true) :
    Covered policyFor s pending := by
  obtain ⟨p, hp, hle⟩ := loses_iff.mp hloses
  refine Register.Covers.skip hc ⟨p.facts, ?_, hle⟩
  rw [TwinStore.table, hp, Option.map_some]

/-! ## One call -/

theorem recordObservation_of_refuses (h : s.log.refuses o = true) :
    recordObservation o s = (s, false) := by
  unfold recordObservation
  rw [ObservationLog.offer_of_refuses h, h]
  rfl

theorem run_apply_of_refuses {now : Timestamp} (h : s.log.refuses o = true) :
    ((apply policyFor now o).run s).1 = s := by
  rw [apply, Program.run_bind, Program.run_call, recordObservation_of_refuses h]
  rfl

theorem run_apply_of_fresh {now : Timestamp} (h : s.log.refuses o = false) :
    ((apply policyFor now o).run s).1 =
      if loses policyFor (s.properties.get? o.facts.key) o then (recordObservation o s).1
      else (upsertProperty (stateOf policyFor now o) (recordObservation o s).1).1 := by
  have hanswer : (recordObservation o s).2 = true := by
    change (!s.log.refuses o) = true
    rw [h]
    rfl
  rw [apply, Program.run_bind, Program.run_call, hanswer]
  change ((applyRead policyFor now o (s.properties.get? o.facts.key)).run _).1 = _
  unfold applyRead
  split <;> rfl

/-- What an uninterrupted call does to the log. -/
theorem log_run_apply (policyFor : SourcePolicyResolver) (now : Timestamp) (o : TwinObservation)
    (s : TwinStore) : ((apply policyFor now o).run s).1.log = s.log.offer o := by
  cases h : s.log.refuses o with
  | true => rw [run_apply_of_refuses h, ObservationLog.offer_of_refuses h]
  | false =>
    rw [run_apply_of_fresh h]
    split <;> rfl

/-- An uninterrupted call leaves the entities and the relationships alone. -/
theorem run_apply_tables (policyFor : SourcePolicyResolver) (now : Timestamp) (o : TwinObservation)
    (s : TwinStore) : ((apply policyFor now o).run s).1.entities = s.entities ∧
      ((apply policyFor now o).run s).1.relationships = s.relationships := by
  cases h : s.log.refuses o with
  | true =>
    rw [run_apply_of_refuses h]
    exact ⟨rfl, rfl⟩
  | false =>
    rw [run_apply_of_fresh h]
    split <;> exact ⟨rfl, rfl⟩

/-- What an uninterrupted call does to the property table. -/
theorem properties_run_apply (policyFor : SourcePolicyResolver) (now : Timestamp)
    (o : TwinObservation) (s : TwinStore) :
    ((apply policyFor now o).run s).1.properties =
      if s.log.refuses o = true ∨ loses policyFor (s.properties.get? o.facts.key) o = true then
        s.properties
      else s.properties.set o.facts.key (stateOf policyFor now o) := by
  cases href : s.log.refuses o with
  | true =>
    rw [run_apply_of_refuses href, if_pos (.inl rfl)]
  | false =>
    rw [run_apply_of_fresh href]
    cases hloses : loses policyFor (s.properties.get? o.facts.key) o with
    | true => rw [if_pos rfl, if_pos (.inr rfl)]; rfl
    | false => rw [if_neg (by simp), if_neg (by simp)]; rfl

/-- An observation with another key leaves a property alone. -/
theorem get?_run_apply_ne (policyFor : SourcePolicyResolver) (now : Timestamp) {key : PropertyKey}
    (h : o.facts.key ≠ key) (s : TwinStore) :
    ((apply policyFor now o).run s).1.properties.get? key = s.properties.get? key := by
  cases href : s.log.refuses o with
  | true => rw [run_apply_of_refuses href]
  | false =>
    rw [run_apply_of_fresh href]
    split
    · rfl
    · exact Dict.get?_set_ne s.properties h _

/-- An uninterrupted call leaves no new observation pending. -/
theorem covered_apply (hc : Covered policyFor s pending) (now : Timestamp) (o : TwinObservation) :
    Covered policyFor ((apply policyFor now o).run s).1 pending := by
  cases h : s.log.refuses o with
  | true =>
    rw [run_apply_of_refuses h]
    exact hc
  | false =>
    rw [run_apply_of_fresh h]
    have hinsert := covered_insert hc h
    have hrec : (recordObservation o s).1.Recorded o := by
      change (s.log.offer o).Recorded o
      rw [ObservationLog.offer_of_fresh h]
      exact (ObservationLog.recorded_insert_iff h o).mpr (.inl rfl)
    cases hl : loses policyFor (s.properties.get? o.facts.key) o with
    | true =>
      rw [if_pos rfl]
      exact covered_of_loses hinsert hl
    | false =>
      rw [if_neg Bool.false_ne_true]
      exact covered_upsert hinsert hrec hl now

/-! ## Sequences of calls -/

/-- `apply`, one call after another, each with what the clock shows. -/
def applyAll (policyFor : SourcePolicyResolver) (calls : List (Timestamp × TwinObservation))
    (s : TwinStore) : TwinStore :=
  calls.foldl (fun s c => ((apply policyFor c.1 c.2).run s).1) s

theorem applyAll_cons (policyFor : SourcePolicyResolver) (c : Timestamp × TwinObservation)
    (calls : List (Timestamp × TwinObservation)) (s : TwinStore) :
    applyAll policyFor (c :: calls) s
      = applyAll policyFor calls ((apply policyFor c.1 c.2).run s).1 := rfl

theorem covered_applyAll (hc : Covered policyFor s pending)
    (calls : List (Timestamp × TwinObservation)) :
    Covered policyFor (applyAll policyFor calls s) pending := by
  induction calls generalizing s with
  | nil => exact hc
  | cons c calls ih => exact ih (covered_apply hc c.1 c.2)

/-- The observations can all be recorded: no two share an id or a source identity. -/
structure Distinct (P : TwinObservation → Prop) : Prop where
  key : ∀ o o', P o → P o' → o.key = o'.key → o = o'
  dedupeKey : ∀ o o', P o → P o' → o.dedupeKey = o'.dedupeKey → o = o'

variable {P : TwinObservation → Prop} {log : ObservationLog}

/-- An observation is refused only when it has been recorded before. -/
theorem refuses_iff (hP : Distinct P) (hlog : ∀ o, log.Recorded o → P o) (ho : P o) :
    log.refuses o = true ↔ log.Recorded o := by
  constructor
  · intro h
    obtain ⟨o', hrec, hkey | hd⟩ := ObservationLog.refuses_iff_exists.mp h
    · rwa [hP.key o o' ho (hlog o' hrec) hkey.symm]
    · rwa [hP.dedupeKey o o' ho (hlog o' hrec) hd.symm]
  · exact fun h => ObservationLog.refuses_iff_exists.mpr ⟨o, h, .inl rfl⟩

theorem recorded_offer_iff (hP : Distinct P) (hlog : ∀ o, log.Recorded o → P o) (ho : P o)
    (o' : TwinObservation) : (log.offer o).Recorded o' ↔ o' = o ∨ log.Recorded o' := by
  cases h : log.refuses o with
  | true =>
    rw [ObservationLog.offer_of_refuses h]
    refine ⟨.inr, ?_⟩
    rintro (rfl | hr)
    · exact (refuses_iff hP hlog ho).mp h
    · exact hr
  | false =>
    rw [ObservationLog.offer_of_fresh h]
    exact ObservationLog.recorded_insert_iff h o'

/-- Offers that can all be recorded are. -/
theorem recorded_offerAll_iff (hP : Distinct P) (hlog : ∀ o, log.Recorded o → P o)
    {os : List TwinObservation} (hos : ∀ o ∈ os, P o) (o : TwinObservation) :
    (log.offerAll os).Recorded o ↔ o ∈ os ∨ log.Recorded o := by
  induction os generalizing log with
  | nil => simp [ObservationLog.offerAll]
  | cons o' os ih =>
    have ho' := hos o' List.mem_cons_self
    have hstep := recorded_offer_iff hP hlog ho'
    have hnext : ∀ o, (log.offer o').Recorded o → P o := by
      intro r hr
      rcases (hstep r).mp hr with rfl | hr
      · exact ho'
      · exact hlog r hr
    rw [ObservationLog.offerAll_cons, ih hnext fun r hr => hos r (List.mem_cons_of_mem o' hr), hstep,
      List.mem_cons]
    tauto

theorem recorded_offerAll_empty_iff (hP : Distinct P) {os : List TwinObservation}
    (hos : ∀ o ∈ os, P o) (o : TwinObservation) :
    (ObservationLog.empty.offerAll os).Recorded o ↔ o ∈ os := by
  have hnone := ObservationLog.not_recorded_empty
  rw [recorded_offerAll_iff hP (fun o ho => (hnone o ho).elim) hos]
  exact or_iff_left (hnone o)

theorem log_applyAll (policyFor : SourcePolicyResolver) (calls : List (Timestamp × TwinObservation))
    (s : TwinStore) :
    (applyAll policyFor calls s).log = s.log.offerAll (calls.map Prod.snd) := by
  induction calls generalizing s with
  | nil => rfl
  | cons c calls ih => rw [applyAll_cons, ih, log_run_apply, List.map_cons, ObservationLog.offerAll_cons]

/-! ## The result -/

theorem distinct_of_pairwise {obs : List TwinObservation}
    (hkey : obs.Pairwise fun a b => a.key ≠ b.key)
    (hdedupe : obs.Pairwise fun a b => a.dedupeKey ≠ b.dedupeKey) : Distinct fun o => o ∈ obs := by
  have hsymm : Std.Symm fun a b : TwinObservation => a.key ≠ b.key := ⟨fun _ _ => Ne.symm⟩
  have hsymm' : Std.Symm fun a b : TwinObservation => a.dedupeKey ≠ b.dedupeKey :=
    ⟨fun _ _ => Ne.symm⟩
  refine ⟨fun o o' ho ho' he => ?_, fun o o' ho ho' he => ?_⟩
  · by_contra hne
    exact hkey.forall ho ho' hne he
  · by_contra hne
    exact hdedupe.forall ho ho' hne he

/-- The property table after the calls is determined by the recorded observations. -/
theorem table_applyAll (hc : Covered policyFor s fun _ => False) (k : PropertyKey) :
    match s.table k with
    | some f => f.key = k ∧ Register.Latest PropertyFacts.key (PropertyFacts.rank policyFor)
        s.offered f
    | none => ∀ f, s.offered f → f.key ≠ k := by
  cases ht : s.table k with
  | some f => exact hc.latest ht fun _ _ h => h
  | none =>
    intro f hf hk
    rcases hc.behind f hf with h | ⟨g, hg, -⟩
    · exact h
    · rw [hk, ht] at hg
      cases hg

/-- Two stores that recorded the same observations show the same facts. -/
theorem table_eq_of_offered_eq {s s' : TwinStore} (hc : Covered policyFor s fun _ => False)
    (hc' : Covered policyFor s' fun _ => False) (h : s.offered = s'.offered) :
    s.table = s'.table := by
  funext k
  have htable := table_applyAll hc k
  cases ht : s.table k with
  | some f =>
    rw [ht] at htable
    obtain ⟨rfl, hlatest⟩ := htable
    rw [h] at hlatest
    exact (hc'.eq_of_latest (offered_unique policyFor s') hlatest fun hp => hp).symm
  | none =>
    rw [ht, h] at htable
    exact (hc'.eq_none htable).symm

/-- Any sequence of calls that delivers `obs`, in any order and with repetitions, records exactly
`obs` and leaves for every key the facts of the greatest observation. -/
theorem sequential_projection (policyFor : SourcePolicyResolver) (obs : List TwinObservation)
    (hkey : obs.Pairwise fun a b => a.key ≠ b.key)
    (hdedupe : obs.Pairwise fun a b => a.dedupeKey ≠ b.dedupeKey)
    (calls calls' : List (Timestamp × TwinObservation))
    (hcalls : ∀ o, o ∈ calls.map Prod.snd ↔ o ∈ obs)
    (hcalls' : ∀ o, o ∈ calls'.map Prod.snd ↔ o ∈ obs) :
    (∀ o, (∃ k, (applyAll policyFor calls .empty).log.observations.get? k = some o) ↔ o ∈ obs) ∧
    (∀ o ∈ obs, (∀ o' ∈ obs, o'.facts.key = o.facts.key →
        o'.facts.rank policyFor ≤ o.facts.rank policyFor) →
      (applyAll policyFor calls .empty).table o.facts.key = some o.facts) ∧
    (∀ k, (∀ o ∈ obs, o.facts.key ≠ k) → (applyAll policyFor calls .empty).table k = none) ∧
    (applyAll policyFor calls .empty).table = (applyAll policyFor calls' .empty).table := by
  have hP := distinct_of_pairwise hkey hdedupe
  have hrecorded : ∀ cs : List (Timestamp × TwinObservation),
      (∀ o, o ∈ cs.map Prod.snd ↔ o ∈ obs) →
      ∀ o, (applyAll policyFor cs .empty).Recorded o ↔ o ∈ obs := by
    intro cs hcs o
    unfold Recorded
    rw [log_applyAll]
    exact (recorded_offerAll_empty_iff hP (fun o ho => (hcs o).mp ho) o).trans (hcs o)
  have hoffered : ∀ cs : List (Timestamp × TwinObservation),
      (∀ o, o ∈ cs.map Prod.snd ↔ o ∈ obs) →
      (applyAll policyFor cs .empty).offered = fun f => ∃ o ∈ obs, o.facts = f := by
    intro cs hcs
    funext f
    exact propext (exists_congr fun o => and_congr_left' (hrecorded cs hcs o))
  have hcovered := fun cs => covered_applyAll (covered_empty policyFor fun _ => False) cs
  refine ⟨fun o => ?_, fun o ho htop => ?_, fun k hk => ?_, ?_⟩
  · rw [← hrecorded calls hcalls o]
    constructor
    · rintro ⟨k, hget⟩
      rwa [ObservationLog.keyed _ k o hget] at hget
    · exact fun h => ⟨o.key, h⟩
  · refine (hcovered calls).eq_of_latest (offered_unique policyFor _) ⟨?_, ?_⟩ fun h => h
    · exact ⟨o, (hrecorded calls hcalls o).mpr ho, rfl⟩
    · rintro g ⟨o', ho', rfl⟩ hk
      exact htop o' ((hrecorded calls hcalls o').mp ho') hk
  · refine (hcovered calls).eq_none ?_
    rintro f ⟨o, ho, rfl⟩
    exact hk o ((hrecorded calls hcalls o).mp ho)
  · exact table_eq_of_offered_eq (hcovered calls) (hcovered calls')
      ((hoffered calls hcalls).trans (hoffered calls' hcalls').symm)

/-- A stock count of one product. -/
def stockCount (id source : String) (instant : ℤ) (units : ℤ) : TwinObservation where
  observationId := id
  tenantId := "store_a"
  storeId := "main"
  twinId := "urn:shelfwise:store_a:main:product:4011"
  propertyName := "inventory.on_hand"
  lane := .reported
  value := .int units
  unit := some "units"
  observedAt := ⟨instant, ""⟩
  sourceSystem := source
  sourceObjectId := id
  sourceSequence := none
  sourceQuality := ⟨.finite 1, "1.0"⟩
  schemaVersion := "v1"
  correlationId := id
  causationId := none
  scenarioBranchId := none
  payloadHash := id

/-- Three counts at one time: the scanner's two lose against the till. -/
theorem sequential_projection_tie :
    (applyAll defaultSourcePolicy
        [(⟨9, ""⟩, stockCount "obs_scan_2" "scanner" 5 7), (⟨9, ""⟩, stockCount "obs_api" "api" 5 8),
          (⟨9, ""⟩, stockCount "obs_scan_1" "scanner" 5 6),
          (⟨9, ""⟩, stockCount "obs_scan_2" "scanner" 5 7)] .empty).table
        (stockCount "obs_api" "api" 5 8).facts.key
      = some (stockCount "obs_api" "api" 5 8).facts :=
  (sequential_projection defaultSourcePolicy
    [stockCount "obs_api" "api" 5 8, stockCount "obs_scan_1" "scanner" 5 6,
      stockCount "obs_scan_2" "scanner" 5 7] (by decide +kernel) (by decide +kernel) _
    [(⟨9, ""⟩, stockCount "obs_api" "api" 5 8), (⟨9, ""⟩, stockCount "obs_scan_1" "scanner" 5 6),
      (⟨9, ""⟩, stockCount "obs_scan_2" "scanner" 5 7)]
    (fun o => by simp only [List.map_cons, List.map_nil, List.mem_cons, List.not_mem_nil]; tauto)
    (fun o => by simp only [List.map_cons, List.map_nil])).2.1 _ List.mem_cons_self
    (by decide +kernel)

end ShelfWise.Twin
