import ShelfWise.Twin.Script

/-!
# Recovery by projecting again

A projection that dies between `record_observation` and `upsert_property` leaves its observation
recorded and its property unwritten. Projecting the same events again does not repair that: `apply`
finds the observation in the log and stops as a duplicate, before it looks at the property table.
Such an observation is `Stranded`.

`recovery_iff` says for every log and every crash point when the second pass comes to the state of an
uninterrupted one: exactly when some accepted observation of the log outranks each stranded one.
-/

namespace ShelfWise.Twin

open Py Sys TwinStore

/-! ## Stranded observations -/

/-- The observation is recorded, but the property state is missing or one it would replace. -/
def Stranded (policyFor : SourcePolicyResolver) (s : TwinStore) (o : TwinObservation) : Prop :=
  s.Recorded o ∧ loses policyFor (s.properties.get? o.facts.key) o = false

/-- The facts of the stranded observations. -/
def strandedFacts (policyFor : SourcePolicyResolver) (s : TwinStore) (f : PropertyFacts) : Prop :=
  ∃ o, Stranded policyFor s o ∧ o.facts = f

variable {policyFor : SourcePolicyResolver} {s : TwinStore}

/-- Only stranded observations are pending. -/
theorem covered_stranded {pending : PropertyFacts → Prop} (hc : Covered policyFor s pending) :
    Covered policyFor s (strandedFacts policyFor s) := by
  refine ⟨hc.held, ?_⟩
  rintro f ⟨o, ho, rfl⟩
  cases hl : loses policyFor (s.properties.get? o.facts.key) o with
  | false => exact .inl ⟨o, ⟨ho, hl⟩, rfl⟩
  | true =>
    obtain ⟨p, hp, hle⟩ := loses_iff.mp hl
    exact .inr ⟨p.facts, by rw [TwinStore.table, hp, Option.map_some], hle⟩

/-- The facts of a stranded observation are nowhere in the table. -/
theorem table_ne_of_stranded {pending : PropertyFacts → Prop} (hc : Covered policyFor s pending)
    {o : TwinObservation} (ho : Stranded policyFor s o) (k : PropertyKey) :
    s.table k ≠ some o.facts := by
  intro hk
  obtain ⟨-, rfl⟩ := hc.held k o.facts hk
  obtain ⟨p, hp, hfacts⟩ := Option.map_eq_some_iff.mp hk
  have hlt := loses_eq_false_iff.mp ho.2 p hp
  rw [hfacts] at hlt
  exact lt_irrefl _ hlt

/-! ## The states a crash can leave -/

/-- What holds at every step of a pass: a prefix of the offers has been made, and the table shows
recorded observations. -/
def CrashInv (policyFor : SourcePolicyResolver) (log : ObservationLog)
    (offers : List TwinObservation) (s : TwinStore) : Prop :=
  (∃ m, s.log = log.offerAll (offers.take m)) ∧ Covered policyFor s fun _ => True

theorem always_apply (hc : Covered policyFor s fun _ => False) (now : Timestamp)
    (o : TwinObservation) (rest : List TwinObservation) :
    (apply policyFor now o).Always (CrashInv policyFor s.log (o :: rest)) s := by
  have hstart : CrashInv policyFor s.log (o :: rest) s := ⟨⟨0, rfl⟩, hc.mono fun _ => False.elim⟩
  have hend := covered_apply hc now o
  cases href : s.log.refuses o with
  | true =>
    have hsame : recordObservation o s = (s, false) := recordObservation_of_refuses href
    refine Program.always_call_bind.mpr ⟨hstart, ?_⟩
    rw [hsame]
    exact hstart
  | false =>
    have hrecorded : CrashInv policyFor s.log (o :: rest) (recordObservation o s).1 :=
      ⟨⟨1, rfl⟩, (covered_insert hc href).mono fun _ _ => trivial⟩
    have hanswer : (recordObservation o s).2 = true := by
      change (!s.log.refuses o) = true
      rw [href]
      rfl
    rw [run_apply_of_fresh href] at hend
    refine Program.always_call_bind.mpr ⟨hstart, ?_⟩
    rw [hanswer]
    refine ⟨hrecorded, ?_⟩
    change (applyRead policyFor now o (s.properties.get? o.facts.key)).Always _ _
    unfold applyRead
    cases hl : loses policyFor (s.properties.get? o.facts.key) o with
    | true => exact hrecorded
    | false =>
      rw [hl] at hend
      exact ⟨hrecorded, ⟨1, rfl⟩, hend.mono fun _ => False.elim⟩

theorem always_playAll (hc : Covered policyFor s fun _ => False)
    (calls : List (Timestamp × TwinCall)) :
    (playAll policyFor calls).Always (CrashInv policyFor s.log (offersOf calls)) s := by
  have hstart : ∀ (s : TwinStore) (offers : List TwinObservation),
      Covered policyFor s (fun _ => False) → CrashInv policyFor s.log offers s :=
    fun s offers h => ⟨⟨0, rfl⟩, h.mono fun _ => False.elim⟩
  induction calls generalizing s with
  | nil => exact hstart s _ hc
  | cons c calls ih =>
    obtain ⟨now, e | r | o⟩ := c
    · exact ⟨hstart s _ hc, ih (s := (ensureEntity e s).1) hc⟩
    · exact ⟨hstart s _ hc, ih (s := (addRelationship r s).1) hc⟩
    · have hlater : ∀ s', CrashInv policyFor (s.log.offer o) (offersOf calls) s' →
          CrashInv policyFor s.log (o :: offersOf calls) s' := by
        rintro s' ⟨⟨m, hm⟩, h⟩
        exact ⟨⟨m + 1, hm⟩, h⟩
      have happly := always_apply hc now o (offersOf calls)
      have hrest := (ih (covered_apply hc now o)).mono fun s' h =>
        hlater s' (log_run_apply policyFor now o s ▸ h)
      rw [playAll, TwinCall.program, Program.bind_assoc]
      exact Program.always_bind happly hrest

/-! ## The second pass -/

/-- The observations a pass over the events from an empty store accepts. -/
def Accepted (svc : TwinService) (events : List Event) (o : TwinObservation) : Prop :=
  (ObservationLog.empty.offerAll (offeredBy svc events)).Recorded o

/-- An observation that is recorded and not in the table is not written by any later call. -/
theorem table_ne_playAll {o : TwinObservation} (hrec : s.Recorded o)
    (hk : ∀ k, s.table k ≠ some o.facts) (calls : List (Timestamp × TwinCall)) (k : PropertyKey) :
    ((playAll policyFor calls).run s).1.table k ≠ some o.facts := by
  have hstep : ∀ (s : TwinStore) now o', (s.Recorded o ∧ ∀ k, s.table k ≠ some o.facts) →
      ((apply policyFor now o').run s).1.Recorded o ∧
        ∀ k, ((apply policyFor now o').run s).1.table k ≠ some o.facts := by
    rintro s now o' ⟨hrec, hk⟩
    refine ⟨?_, ?_⟩
    · unfold Recorded
      rw [log_run_apply]
      exact hrec.offer o'
    · cases href : s.log.refuses o' with
      | true =>
        rw [run_apply_of_refuses href]
        exact hk
      | false =>
        -- what is written carries the key of an observation that was not recorded before
        have hne : o'.facts ≠ o.facts := by
          intro he
          have hkey : o'.key = o.key := Prod.ext (congrArg PropertyFacts.tenantId he)
            (congrArg PropertyFacts.observationId he)
          have hnone := (ObservationLog.fresh_of_not_refuses href).1
          rw [hkey] at hnone
          exact absurd (hnone.symm.trans hrec) (by simp)
        rw [run_apply_of_fresh href]
        split
        · exact hk
        · intro k
          rw [table_upsertProperty, facts_stateOf]
          by_cases hk' : k = o'.facts.key
          · rw [hk', Function.update_self]
            exact fun he => hne (Option.some.inj he)
          · rw [Function.update_of_ne hk']
            exact hk k
  exact (playAll_invariant (I := fun s => s.Recorded o ∧ ∀ k, s.table k ≠ some o.facts)
    (fun _ _ h => h) (fun _ _ h => h) hstep ⟨hrec, hk⟩ calls).2 k

/-- Projecting the events of an interrupted pass again comes to the property states of an
uninterrupted pass exactly when every observation the crash stranded is outranked by an accepted
one. -/
theorem recovery_iff (svc : TwinService) (log replay whole : List (Timestamp × Event))
    (hreplay : replay.map Prod.snd = log.map Prod.snd)
    (hwhole : whole.map Prod.snd = log.map Prod.snd) (n : ℕ) :
    ((projectLog svc replay).run ((projectLog svc log).cut n .empty)).1.table
        = ((projectLog svc whole).run .empty).1.table ↔
      ∀ o, Stranded svc.policyFor ((projectLog svc log).cut n .empty) o →
        ∃ o', Accepted svc (log.map Prod.snd) o' ∧ o'.facts.key = o.facts.key ∧
          o.facts.rank svc.policyFor < o'.facts.rank svc.policyFor := by
  obtain ⟨⟨m, hlog⟩, hheld⟩ : CrashInv svc.policyFor .empty (offeredBy svc (log.map Prod.snd))
      ((projectLog svc log).cut n .empty) := by
    rw [projectLog_eq_playAll, ← offersOf_logCalls]
    exact Program.always_cut (always_playAll (covered_empty svc.policyFor _) (logCalls svc log)) n
  generalize (projectLog svc log).cut n .empty = crashed at hlog hheld ⊢
  rw [projectLog_eq_playAll, projectLog_eq_playAll]
  have hagain := covered_playAll (covered_stranded hheld) (logCalls svc replay)
  have hclean := covered_playAll (covered_empty svc.policyFor fun _ => False) (logCalls svc whole)
  have hlogAgain := log_playAll svc.policyFor (logCalls svc replay) crashed
  have hlogClean := log_playAll svc.policyFor (logCalls svc whole) .empty
  have hstays : ∀ o, Stranded svc.policyFor crashed o →
      ((playAll svc.policyFor (logCalls svc replay)).run crashed).1.Recorded o := by
    intro o ho
    unfold Recorded
    rw [hlogAgain]
    exact ho.1.offerAll _
  -- both passes end with the log of the whole list of offers
  rw [offersOf_logCalls, hreplay, hlog, ObservationLog.offerAll_offerAll_take] at hlogAgain
  rw [offersOf_logCalls, hwhole] at hlogClean
  have hoffered : TwinStore.offered ((playAll svc.policyFor (logCalls svc whole)).run .empty).1
      = TwinStore.offered ((playAll svc.policyFor (logCalls svc replay)).run crashed).1 := by
    unfold TwinStore.offered Recorded
    rw [hlogAgain, hlogClean]
    rfl
  unfold Covered at hclean
  rw [hoffered] at hclean
  rw [hagain.table_eq_iff hclean (offered_unique svc.policyFor _)]
  · constructor
    · intro h o ho
      obtain ⟨g, ⟨o', ho', rfl⟩, hk, hlt⟩ := h o.facts ⟨o, ho, rfl⟩
      refine ⟨o', ?_, hk, hlt⟩
      unfold Accepted
      rw [← hlogAgain]
      exact ho'
    · rintro h f ⟨o, ho, rfl⟩
      obtain ⟨o', ho', hk, hlt⟩ := h o ho
      refine ⟨o'.facts, ⟨o', ?_, rfl⟩, hk, hlt⟩
      unfold Recorded
      rw [hlogAgain]
      exact ho'
  · rintro f ⟨o, ho, rfl⟩
    exact ⟨o, hstays o ho, rfl⟩
  · rintro f ⟨o, ho, rfl⟩
    exact table_ne_playAll ho.1 (table_ne_of_stranded hheld ho) _ _

/-- A count of twelve units, reported by an event. -/
def countEvent : Event where
  id := "evt_count_1"
  type := .stockUpdate
  ts := ⟨1000000, "2026-07-01T00:00:01+00:00"⟩
  actor := "scanner"
  payload := [("store_id", .str "store_a"), ("sku", .str "4011"), ("on_hand", .int 12)]
  source := .scanner
  tenantId := "tenant_a"
  dataDomain := .operationalTwin
  correlationId := "evt_count_1"
  causationId := none
  schemaVersion := "1"
  id_ne := by decide +kernel
  actor_ne := scanner_ne
  tenantId_ne := tenantA_ne
  correlationId_ne := by decide +kernel

/-- A crash before the observation is recorded. -/
theorem recovery_iff_early_crash :
    ((projectLog defaultService [(⟨9, ""⟩, countEvent)]).run
        ((projectLog defaultService [(⟨8, ""⟩, countEvent)]).cut 3 .empty)).1.table
      = ((projectLog defaultService [(⟨8, ""⟩, countEvent)]).run .empty).1.table := by
  refine (recovery_iff defaultService [(⟨8, ""⟩, countEvent)] [(⟨9, ""⟩, countEvent)]
    [(⟨8, ""⟩, countEvent)] rfl rfl 3).mpr ?_
  intro o ho
  have hnone : ((projectLog defaultService [(⟨8, ""⟩, countEvent)]).cut 3 .empty).log.observations
      = Dict.empty := by
    decide +kernel
  have hrec : ((projectLog defaultService [(⟨8, ""⟩, countEvent)]).cut 3 .empty).log.observations.get?
      o.key = some o := ho.1
  rw [hnone] at hrec
  cases hrec

/-- A crash after the observation is recorded and before its property is written. -/
theorem recovery_stranded :
    ¬ ∀ (svc : TwinService) (log replay whole : List (Timestamp × Event)),
      replay.map Prod.snd = log.map Prod.snd → whole.map Prod.snd = log.map Prod.snd → ∀ n : ℕ,
      ((projectLog svc replay).run ((projectLog svc log).cut n .empty)).1.table
        = ((projectLog svc whole).run .empty).1.table := by
  intro h
  have htable := h defaultService [(⟨8, ""⟩, countEvent)] [(⟨9, ""⟩, countEvent)]
    [(⟨8, ""⟩, countEvent)] rfl rfl 4
  have hat := congrFun htable (propertyKey "tenant_a"
    (urn "tenant_a" "store_a" "product" "4011") "inventory.on_hand" .reported none)
  exact absurd hat (by decide +kernel)

end ShelfWise.Twin
