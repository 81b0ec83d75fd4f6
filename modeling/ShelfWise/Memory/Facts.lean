import ShelfWise.Memory.Consolidation
import ShelfWise.Py.Listing
import ShelfWise.Sys.Run

/-!
# The store of learned facts

`InMemoryTenantFactStore` of `shelfwise_mlops/facts.py`. A fact is stored under its id, whoever owns it,
and recording writes it as active over whatever the id held.

`facts_stay_iff` says in which runs the facts of one tenant stay out of the others' way and a
tombstoned fact stays tombstoned.
-/

namespace ShelfWise.Memory

open Py Sys

/-! ## The store -/

/-- A stored fact: `to_dict` and what the store adds to it. -/
structure StoredFact where
  id : String
  tenantId : String
  dataDomain : String
  sku : String
  action : String
  fact : String
  supportCount : ℕ
  confidence : String
  evidenceRefs : List String
  active : Bool
  patternType : String
  createdAt : String
  updatedAt : String
  tombstoneReason : Option String
  tombstonedAt : Option String
deriving DecidableEq

/-- What a stored fact is about. -/
def StoredFact.label (m : StoredFact) : FactLabel := ⟨m.tenantId, m.dataDomain, m.sku, m.action⟩

/-- What `record` stores of a fact. -/
def TenantFact.stored (f : TenantFact) (now : String) : StoredFact where
  id := f.id
  tenantId := f.tenantId
  dataDomain := f.dataDomain
  sku := f.sku
  action := f.action
  fact := f.fact
  supportCount := f.supportCount
  confidence := f.confidence.str
  evidenceRefs := f.evidenceRefs
  active := true
  patternType := "tenant_fact"
  createdAt := now
  updatedAt := now
  tombstoneReason := none
  tombstonedAt := none

/-- `_facts`. -/
abbrev FactStore := Dict String StoredFact

/-- A fact that `consolidate_outcomes` has made of some outcomes. -/
structure LearnedFact where
  fact : TenantFact
  learned : ∃ records minSupport minSuccess facts,
    consolidateOutcomes records minSupport minSuccess = .ok facts ∧ fact ∈ facts

theorem LearnedFact.id_eq (f : LearnedFact) : f.fact.id = factId f.fact.label := by
  obtain ⟨_, _, _, _, hfacts, hmem⟩ := f.learned
  exact id_of_mem_consolidateOutcomes hfacts hmem

namespace FactStore

/-- `record`. -/
def record (s : FactStore) (f : TenantFact) (now : String) : FactStore × StoredFact :=
  (s.set f.id (f.stored now), f.stored now)

/-- `record_many`; each fact comes with the time its `record` reads. -/
def recordMany (s : FactStore) : List (LearnedFact × String) → FactStore × List StoredFact
  | [] => (s, [])
  | (f, now) :: rest =>
    let (s', stored) := s.record f.fact now
    let (s'', others) := recordMany s' rest
    (s'', stored :: others)

/-- `tombstone`. -/
def tombstone (s : FactStore) (id tenantId reason now : String) : FactStore × Option StoredFact :=
  match s.get? id with
  | none => (s, none)
  | some current =>
    if current.tenantId ≠ tenantId then (s, none)
    else
      let updated := { current with
        active := false, tombstoneReason := some reason, tombstonedAt := some now, updatedAt := now }
      (s.set id updated, some updated)

/-- The filters of `list`. -/
def shows (tenantId : Option String) (dataDomain : Option DataDomain) (activeOnly : Bool)
    (m : StoredFact) : Bool :=
  tenantId.all (fun t => decide (m.tenantId = t)) &&
    dataDomain.all (fun d => decide (m.dataDomain = d.value)) && (!activeOnly || m.active)

/-- `list`. -/
def list (s : FactStore) (tenantId dataDomain : Option String) (activeOnly : Bool) :
    Except Exc (List StoredFact) := do
  let resolved ← dataDomain.mapM fun d => normalizeDomain (.str d) .operationalTwin
  .ok (listing s (fun m => toLex (m.sku, m.action)) fun e => shows tenantId resolved activeOnly e.2)

end FactStore

/-! ## Runs -/

/-- A call of the learning loop. -/
inductive FactCall where
  | consolidate (records : List OutcomeRecord) (minSupport : ℤ) (minSuccess : Decimal)
  | recordMany (facts : List (LearnedFact × String))
  | tombstone (id tenantId reason now : String)

/-- What a call answers. -/
inductive FactAnswer where
  | consolidated (facts : Except Exc (List TenantFact))
  | recorded (stored : List StoredFact)
  | tombstoned (updated : Option StoredFact)

/-- The store after a call, and its answer. -/
def factStep (s : FactStore) : FactCall → FactStore × FactAnswer
  | .consolidate records minSupport minSuccess =>
    (s, .consolidated (consolidateOutcomes records minSupport minSuccess))
  | .recordMany facts => ((s.recordMany facts).1, .recorded (s.recordMany facts).2)
  | .tombstone id tenantId reason now =>
    ((s.tombstone id tenantId reason now).1, .tombstoned (s.tombstone id tenantId reason now).2)

/-- The facts a call makes or records. -/
def FactCall.facts : FactCall → List TenantFact
  | .consolidate records minSupport minSuccess =>
    (consolidateOutcomes records minSupport minSuccess).toOption.getD []
  | .recordMany facts => facts.map (·.1.fact)
  | .tombstone .. => []

/-- The steps of a run from the empty store. -/
abbrev factTrace (calls : List FactCall) : List (Step FactStore FactCall FactAnswer) :=
  trace factStep Dict.empty calls

/-- The facts of a run. -/
def factsOf (calls : List FactCall) : List TenantFact := calls.flatMap FactCall.facts

/-- The facts of a run stay with their owner. -/
structure FactsStay (calls : List FactCall) : Prop where
  /-- Facts about different things have different ids. -/
  apart : ∀ f ∈ factsOf calls, ∀ g ∈ factsOf calls, f.label ≠ g.label → f.id ≠ g.id
  /-- Recording the facts of some tenants leaves the list of every other one. -/
  others : ∀ step ∈ factTrace calls, ∀ facts, step.input = .recordMany facts → ∀ tenantId : String,
    (∀ c ∈ facts, c.1.fact.tenantId ≠ tenantId) → ∀ dataDomain activeOnly,
      FactStore.list step.after (some tenantId) dataDomain activeOnly =
        FactStore.list step.before (some tenantId) dataDomain activeOnly
  /-- Recording does not revive a fact that has been tombstoned. -/
  tombstoned : ∀ step ∈ factTrace calls, ∀ facts, step.input = .recordMany facts → ∀ id m,
    step.before.get? id = some m → m.active = false →
      ∃ m', step.after.get? id = some m' ∧ m'.active = false

/-- The labels of a run are told apart by their words. -/
def WordsApart (calls : List FactCall) : Prop :=
  ∀ f ∈ factsOf calls, ∀ g ∈ factsOf calls, f.label.words = g.label.words → f.label = g.label

/-- A tombstoned fact is not learned again. -/
def NotRelearned (calls : List FactCall) : Prop :=
  ∀ step ∈ factTrace calls, ∀ facts, step.input = .recordMany facts → ∀ c ∈ facts, ∀ id m,
    step.before.get? id = some m → m.active = false → c.1.fact.label ≠ m.label

/-! ## What a recording changes -/

namespace FactStore

/-- What is stored comes from a fact of the run, under the id of its label. -/
def Within (facts : List TenantFact) (s : FactStore) : Prop :=
  ∀ id m, s.get? id = some m → id = factId m.label ∧ ∃ f ∈ facts, f.label = m.label

variable {run : List TenantFact} {s : FactStore}

variable {f : LearnedFact}

theorem Within.record (h : s.Within run) (hf : f.fact ∈ run) (now : String) :
    Within run (s.record f.fact now).1 := by
  intro id m hget
  change (s.set f.fact.id (f.fact.stored now)).get? id = some m at hget
  rw [Dict.get?_set] at hget
  split at hget
  · rename_i hid
    cases hget
    exact ⟨hid ▸ f.id_eq, f.fact, hf, rfl⟩
  · exact h id m hget

variable {facts : List (LearnedFact × String)}

theorem Within.recordMany (h : s.Within run) (hfacts : ∀ c ∈ facts, c.1.fact ∈ run) :
    Within run (s.recordMany facts).1 := by
  induction facts generalizing s with
  | nil => exact h
  | cons c facts ih =>
    obtain ⟨f, now⟩ := c
    exact ih (h.record (hfacts _ List.mem_cons_self) now)
      fun c hc => hfacts c (List.mem_cons_of_mem _ hc)

theorem Within.tombstone (h : s.Within run) (id tenantId reason now : String) :
    Within run (s.tombstone id tenantId reason now).1 := by
  unfold FactStore.tombstone
  cases hcurrent : s.get? id with
  | none => exact h
  | some current =>
    dsimp only
    split
    · exact h
    · intro id' m hget
      change (s.set id _).get? id' = some m at hget
      rw [Dict.get?_set] at hget
      split at hget
      · rename_i hid
        cases hget
        exact hid ▸ h id current hcurrent
      · exact h id' m hget

variable {id : String}

/-- A recording under other ids leaves an entry. -/
theorem get?_recordMany_of_ne (h : ∀ c ∈ facts, c.1.fact.id ≠ id) :
    (s.recordMany facts).1.get? id = s.get? id := by
  induction facts generalizing s with
  | nil => rfl
  | cons c facts ih =>
    obtain ⟨f, now⟩ := c
    refine (ih fun c hc => h c (List.mem_cons_of_mem _ hc)).trans ?_
    exact Dict.get?_set_ne _ (h _ List.mem_cons_self) _

/-- What has just been recorded is active. -/
theorem active_recordMany (h : ∃ c ∈ facts, c.1.fact.id = id) :
    ∃ m, (s.recordMany facts).1.get? id = some m ∧ m.active = true := by
  induction facts generalizing s with
  | nil =>
    obtain ⟨c, hc, -⟩ := h
    cases hc
  | cons c facts ih =>
    obtain ⟨f, now⟩ := c
    by_cases hlater : ∃ c ∈ facts, c.1.fact.id = id
    · exact ih hlater
    · -- the first fact of the list is the last one under the id
      obtain ⟨c, hc, hid⟩ := h
      rcases List.mem_cons.mp hc with rfl | hc
      · refine ⟨f.fact.stored now, ?_, rfl⟩
        refine (get?_recordMany_of_ne fun c hc hsame => hlater ⟨c, hc, hsame⟩).trans ?_
        exact (Dict.get?_set _ _ _ _).trans (if_pos hid)
      · exact absurd ⟨c, hc, hid⟩ hlater

/-- Recording another tenant's fact leaves a tenant's list. -/
theorem list_record {tenantId : String} (hother : f.fact.tenantId ≠ tenantId)
    (hstored : ∀ m, s.get? f.fact.id = some m → m.tenantId ≠ tenantId) (now : String)
    (dataDomain : Option String) (activeOnly : Bool) :
    FactStore.list (s.record f.fact now).1 (some tenantId) dataDomain activeOnly =
      s.list (some tenantId) dataDomain activeOnly := by
  have hhidden : ∀ resolved (m : StoredFact), m.tenantId ≠ tenantId →
      shows (some tenantId) resolved activeOnly m = false := by
    intro resolved m hm
    simp only [shows, Option.all_some, hm, decide_false, Bool.false_and]
  have hlisting : ∀ resolved, listing (s.record f.fact now).1
      (fun m => toLex (m.sku, m.action)) (fun e => shows (some tenantId) resolved activeOnly e.2) =
        listing s (fun m => toLex (m.sku, m.action))
          fun e => shows (some tenantId) resolved activeOnly e.2 := by
    intro resolved
    exact listing_set _ (hhidden resolved (f.fact.stored now) hother)
      fun m hm => hhidden resolved m (hstored m hm)
  unfold FactStore.list
  simp only [hlisting]

end FactStore

/-! ## Runs whose labels are told apart -/

variable {run : List TenantFact} {s : FactStore}

theorem FactStore.Within.step (h : s.Within run) {call : FactCall}
    (hcall : ∀ f ∈ call.facts, f ∈ run) : FactStore.Within run (factStep s call).1 := by
  cases call with
  | consolidate records minSupport minSuccess => exact h
  | recordMany facts => exact h.recordMany fun c hc => hcall _ (List.mem_map_of_mem hc)
  | tombstone id tenantId reason now => exact h.tombstone id tenantId reason now

variable {calls : List FactCall}

/-- A step of a run starts from a store of the run's facts, with a call of the run. -/
theorem within_of_mem_trace (h : s.Within run) (hcalls : ∀ f ∈ factsOf calls, f ∈ run)
    {step : Step FactStore FactCall FactAnswer} (hm : step ∈ trace factStep s calls) :
    FactStore.Within run step.before ∧ step.after = (factStep step.before step.input).1 ∧
      ∀ f ∈ step.input.facts, f ∈ run := by
  induction calls generalizing s with
  | nil => cases hm
  | cons call calls ih =>
    have hcall : ∀ f ∈ call.facts, f ∈ run :=
      fun f hf => hcalls f (List.mem_flatMap.mpr ⟨call, List.mem_cons_self, hf⟩)
    rcases List.mem_cons.mp hm with rfl | hm
    · exact ⟨h, rfl, hcall⟩
    · refine ih (h.step hcall) (fun f hf => hcalls f ?_) hm
      obtain ⟨later, hlater, hmem⟩ := List.mem_flatMap.mp hf
      exact List.mem_flatMap.mpr ⟨later, List.mem_cons_of_mem _ hlater, hmem⟩

theorem within_empty (run : List TenantFact) : FactStore.Within run Dict.empty := by
  intro id m hget
  rw [Dict.get?_empty] at hget
  cases hget

theorem id_of_mem_factsOf {f : TenantFact} (hf : f ∈ factsOf calls) : f.id = factId f.label := by
  obtain ⟨call, -, hmem⟩ := List.mem_flatMap.mp hf
  cases call with
  | consolidate records minSupport minSuccess =>
    change f ∈ (consolidateOutcomes records minSupport minSuccess).toOption.getD [] at hmem
    cases hfacts : consolidateOutcomes records minSupport minSuccess with
    | error e =>
      rw [hfacts] at hmem
      cases hmem
    | ok facts =>
      rw [hfacts] at hmem
      exact id_of_mem_consolidateOutcomes hfacts hmem
  | recordMany facts =>
    obtain ⟨c, -, rfl⟩ := List.mem_map.mp hmem
    exact c.1.id_eq
  | tombstone id tenantId reason now => cases hmem

/-- Under labels that are told apart, the fact that is stored under an id has the label of every fact
with the id. -/
theorem WordsApart.label_of_get? (h : WordsApart calls) (hs : s.Within (factsOf calls))
    {f : LearnedFact} (hf : f.fact ∈ factsOf calls) {m : StoredFact}
    (hget : s.get? f.fact.id = some m) : f.fact.label = m.label := by
  obtain ⟨hid, g, hg, hlabel⟩ := hs _ m hget
  rw [f.id_eq, factId_eq_iff, ← hlabel] at hid
  rw [← hlabel]
  exact h _ hf _ hg hid

theorem WordsApart.list_recordMany (h : WordsApart calls) (hs : s.Within (factsOf calls))
    {facts : List (LearnedFact × String)} (hfacts : ∀ c ∈ facts, c.1.fact ∈ factsOf calls)
    {tenantId : String} (hothers : ∀ c ∈ facts, c.1.fact.tenantId ≠ tenantId)
    (dataDomain : Option String) (activeOnly : Bool) :
    FactStore.list (s.recordMany facts).1 (some tenantId) dataDomain activeOnly =
      s.list (some tenantId) dataDomain activeOnly := by
  induction facts generalizing s with
  | nil => rfl
  | cons c facts ih =>
    obtain ⟨f, now⟩ := c
    have hf := hfacts _ List.mem_cons_self
    have hother := hothers _ List.mem_cons_self
    refine (ih (hs.record hf now) (fun c hc => hfacts c (List.mem_cons_of_mem _ hc))
      fun c hc => hothers c (List.mem_cons_of_mem _ hc)).trans ?_
    refine FactStore.list_record hother (fun m hm hsame => hother ?_) now dataDomain activeOnly
    rw [← hsame]
    exact congrArg FactLabel.tenantId (h.label_of_get? hs hf hm)

/-- **Learned facts and their owners.** The facts of a run stay with their owner exactly when their
labels differ in their words and no tombstoned fact is learned again. -/
theorem facts_stay_iff (calls : List FactCall) :
    FactsStay calls ↔ WordsApart calls ∧ NotRelearned calls := by
  constructor
  · intro h
    constructor
    · intro f hf g hg hwords
      by_contra hne
      refine h.apart f hf g hg hne ?_
      rw [id_of_mem_factsOf hf, id_of_mem_factsOf hg]
      exact (factId_eq_iff _ _).mpr hwords
    · intro step hstep facts hinput c hc id m hget hinactive hlabel
      obtain ⟨hwithin, hafter, -⟩ := within_of_mem_trace (within_empty _) (fun _ hf => hf) hstep
      rw [hinput] at hafter
      have hid : c.1.fact.id = id := by
        rw [(hwithin id m hget).1, c.1.id_eq, hlabel]
      -- the recording has left the fact active
      obtain ⟨revived, hrevived, hactive⟩ :=
        FactStore.active_recordMany (s := step.before) ⟨c, hc, hid⟩
      obtain ⟨m', hget', hstill⟩ := h.tombstoned step hstep facts hinput id m hget hinactive
      rw [hafter] at hget'
      cases hrevived.symm.trans hget'
      rw [hactive] at hstill
      cases hstill
  · rintro ⟨hwords, hnew⟩
    refine ⟨fun f hf g hg hne hid => ?_, fun step hstep facts hinput tenantId hothers dataDomain
      activeOnly => ?_, fun step hstep facts hinput id m hget hinactive => ?_⟩
    · rw [id_of_mem_factsOf hf, id_of_mem_factsOf hg] at hid
      exact hne (hwords f hf g hg ((factId_eq_iff _ _).mp hid))
    · obtain ⟨hwithin, hafter, hfacts⟩ :=
        within_of_mem_trace (within_empty _) (fun _ hf => hf) hstep
      rw [hinput] at hafter hfacts
      rw [hafter]
      exact hwords.list_recordMany hwithin (fun c hc => hfacts _ (List.mem_map_of_mem hc)) hothers
        dataDomain activeOnly
    · obtain ⟨hwithin, hafter, hfacts⟩ :=
        within_of_mem_trace (within_empty _) (fun _ hf => hf) hstep
      rw [hinput] at hafter hfacts
      refine ⟨m, ?_, hinactive⟩
      rw [hafter]
      refine (FactStore.get?_recordMany_of_ne fun c hc hid => ?_).trans hget
      rw [← hid] at hget
      exact hnew step hstep facts hinput c hc _ m hget hinactive
        (hwords.label_of_get? hwithin (hfacts _ (List.mem_map_of_mem hc)) hget)

/-! ## Where the facts do not stay -/

/-- Two markdowns of a tenant that have worked. -/
def twoMarkdowns (tenantId : String) : List OutcomeRecord :=
  [⟨tenantId, "4011", "markdown", .finite false 85 (-2), ["dec_1"], "world_simulation"⟩,
    ⟨tenantId, "4011", "markdown", .finite false 80 (-2), ["dec_2"], "world_simulation"⟩]

/-- The fact that is learned from them. -/
def markdownFact (tenantId : String) : TenantFact where
  id := "fact_store_1_world_simulation_4011_markdown"
  tenantId := tenantId
  sku := "4011"
  action := "markdown"
  fact := "markdown has repeatedly worked for SKU 4011."
  supportCount := 2
  confidence := .finite false 82 (-2)
  evidenceRefs := ["dec_1", "dec_2"]
  dataDomain := "world_simulation"

theorem consolidate_twoMarkdowns : ∀ tenantId ∈ ["store:1", "store_1"],
    consolidateOutcomes (twoMarkdowns tenantId) 2 (.finite false 70 (-2)) =
      .ok [markdownFact tenantId] := by
  decide +kernel

/-- The fact of the tenant `store:1`. -/
def colonFact : LearnedFact := ⟨markdownFact "store:1", _, _, _, _,
  consolidate_twoMarkdowns _ List.mem_cons_self, List.mem_cons_self⟩

/-- The fact of the tenant `store_1`. -/
def underscoreFact : LearnedFact := ⟨markdownFact "store_1", _, _, _, _,
  consolidate_twoMarkdowns _ (List.mem_cons_of_mem _ List.mem_cons_self), List.mem_cons_self⟩

/-- The time of the recordings. -/
def learnedAt : String := "2026-07-01T00:00:00+00:00"

/-- What a tombstone leaves of it. -/
def tombstonedFact : StoredFact :=
  { colonFact.fact.stored learnedAt with
    active := false
    tombstoneReason := some "contradicted_by_later_outcome"
    tombstonedAt := some learnedAt }

/-- Recording the fact of `store_1` takes the fact of `store:1` out of its list, and learning a
tombstoned fact again revives it. -/
theorem facts_move_and_revive :
    ¬ FactsStay [.recordMany [(colonFact, learnedAt)], .recordMany [(underscoreFact, learnedAt)]] ∧
      ¬ FactsStay [.recordMany [(colonFact, learnedAt)],
        .tombstone colonFact.fact.id "store:1" "contradicted_by_later_outcome" learnedAt,
        .recordMany [(colonFact, learnedAt)]] := by
  constructor
  · intro h
    have hlist := h.others _ (List.mem_cons_of_mem _ List.mem_cons_self) _ rfl "store:1"
      (fun c hc => by rw [List.mem_singleton.mp hc]; decide +kernel) none true
    exact absurd hlist (by decide +kernel)
  · intro h
    obtain ⟨m, hget, hinactive⟩ := h.tombstoned _ (List.mem_cons_of_mem _ (List.mem_cons_of_mem _
      List.mem_cons_self)) _ rfl colonFact.fact.id tombstonedFact (by decide +kernel) rfl
    have hactive : (colonFact.fact.stored learnedAt).active = true := rfl
    have hrevived := (Dict.get?_set_self _ colonFact.fact.id (colonFact.fact.stored learnedAt)).symm.trans
      hget
    rw [Option.some.inj hrevived, hinactive] at hactive
    cases hactive

end ShelfWise.Memory
