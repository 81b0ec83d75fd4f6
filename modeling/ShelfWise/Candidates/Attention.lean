import ShelfWise.Candidates.Store
import ShelfWise.Sys.Fallible

/-!
# The attention queue and covered shortages

The part of `product_attention_queue` (`shelfwise_backend/product_catalog.py`) that writes to the
candidate store: the candidates of a refresh are observed, and a `low_stock` one whose reorder gap is
covered by the open order of its SKU is suppressed until the order is due.

A suppression is not lifted when the cover goes away. `suppressed_only_if_covered` says what a returned
suppression rests on: a cover at this refresh, or at an earlier one whose due time has not passed.

`utcIso` is what `datetime.fromisoformat` and `astimezone(UTC).isoformat()` make of a text, if it is a
date, and `nextDay` the UTC text of the time a day later.
-/

namespace ShelfWise.Candidates

open Py Sys

/-! ## The program -/

/-- What the queue takes from the calendar. -/
structure Calendar where
  utcIso : String → Option String
  nextDay : Timestamp → String

/-- What one refresh is given: the bounded mix of candidates that its stock rows lead to, the coverage
of the open orders by SKU, its `now`, and the wall clock. -/
structure Refresh where
  tenantId : String
  candidates : List FleetCandidate
  openOrders : Dict String (List (String × Value))
  now : Timestamp
  clock : Timestamp
  ofTenant : ∀ candidate ∈ candidates, candidate.tenantId = tenantId

/-- `_parse_eta`, in UTC. -/
def parseEta (calendar : Calendar) (value : Value) (fallback : String) : String :=
  match value with
  | .str text => if strip text = "" then fallback
    else (calendar.utcIso (replaceZ text)).getD fallback
  | _ => fallback

/-- `upsert_many`. -/
def upsertMany (clock : Timestamp) (timestamp : String) :
    List FleetCandidate → CandidateStore → CandidateStore × List CandidateRecord
  | [], s => (s, [])
  | candidate :: candidates, s =>
    let first := s.upsert clock candidate timestamp
    let rest := upsertMany clock timestamp candidates first.1
    (rest.1, first.2 :: rest.2)

/-- The coverage of a SKU. -/
def coverage (openOrders : Dict String (List (String × Value))) (sku : String) :
    List (String × Value) :=
  (openOrders.get? sku).getD []

/-- The reorder gap of a candidate. -/
def reorderGap (candidate : FleetCandidate) : Except Exc ℤ := do
  let point ← ((Value.get candidate.evidence "reorder_point").orElse (.int 0)).toInt
  .ok (max (point - candidate.exposureUnits) 0)

/-- The units that the open order of a candidate still brings. -/
def remainingUnits (openOrders : Dict String (List (String × Value))) (candidate : FleetCandidate) :
    Except Exc ℤ :=
  ((Value.get (coverage openOrders candidate.sku) "remaining_units").orElse (.int 0)).toInt

/-- The open order of a candidate covers its gap, and the gap is positive. -/
def Covers (openOrders : Dict String (List (String × Value))) (candidate : FleetCandidate) : Prop :=
  ∃ gap remaining, reorderGap candidate = .ok gap ∧
    remainingUnits openOrders candidate = .ok remaining ∧ 0 < gap ∧ gap ≤ remaining

/-- The reason of a suppression, when the gap of a candidate is covered. -/
def suppressionReason (openOrders : Dict String (List (String × Value)))
    (candidate : FleetCandidate) : Except Exc (Option String) := do
  let gap ← reorderGap candidate
  let remaining ← remainingUnits openOrders candidate
  if gap ≤ 0 ∨ remaining < gap then .ok none
  else
    let units ← Value.printInt remaining
    let missing ← Value.printInt gap
    .ok (some ("open order covers " ++ units ++ " units; reorder gap is " ++ missing))

/-- When the order that covers a candidate is due. -/
def dueText (calendar : Calendar) (input : Refresh) (candidate : FleetCandidate) : String :=
  parseEta calendar (Value.get (coverage input.openOrders candidate.sku) "eta")
    (calendar.nextDay input.now)

/-- `_suppress_covered_candidates`. -/
def suppressCovered (calendar : Calendar) (input : Refresh) :
    List CandidateRecord → Fallible CandidateStore Exc (List CandidateRecord)
  | [] => .ret []
  | record :: records =>
    if record.candidate.candidateType ≠ "low_stock" then
      suppressCovered calendar input records >>= fun rest => .ret (record :: rest)
    else
      Fallible.ofExcept (suppressionReason input.openOrders record.candidate) >>= fun reason =>
        reason.elim (suppressCovered calendar input records >>= fun rest => .ret (record :: rest))
          fun reason =>
            CandidateStore.suppress input.clock input.tenantId record.candidate.candidateKey reason
                (dueText calendar input record.candidate) >>= fun suppressed =>
              suppressCovered calendar input records >>= fun rest =>
                .ret (suppressed.getD record :: rest)

/-- The candidates of `product_attention_queue`. -/
def attentionCandidates (calendar : Calendar) (s : CandidateStore) (input : Refresh) :
    CandidateStore × Except Exc (List CandidateRecord) :=
  let observed := upsertMany input.clock input.now.isoformat input.candidates s
  if input.openOrders.entries = [] then (observed.1, .ok observed.2)
  else (suppressCovered calendar input observed.2).run observed.1

/-! ## What a suppression rests on -/

section Cover

variable {calendar : Calendar}

/-- A `low_stock` candidate under the key was covered at the refresh, by an order due then. -/
def CoveredAt (calendar : Calendar) (input : Refresh) (key : String × String) (expiry : String) :
    Prop :=
  ∃ candidate ∈ input.candidates, candidate.key = key ∧ candidate.candidateType = "low_stock" ∧
    Covers input.openOrders candidate ∧ expiry = dueText calendar input candidate

/-- The time has not passed. -/
def Running (expiry timestamp : String) : Prop := ¬ (expiry ≠ "" ∧ expiry ≤ timestamp)

/-- Every suppression that is stored comes from a cover at one of the refreshes, and ends when the
order was due. -/
def Latched (calendar : Calendar) (sources : List Refresh) (s : CandidateStore) : Prop :=
  ∀ key record, s.records.get? key = some record → record.status = .suppressed →
    ∃ source ∈ sources, ∃ expiry, CoveredAt calendar source key expiry ∧
      record.suppressedUntil = some expiry

theorem Latched.mono {sources sources' : List Refresh} {s : CandidateStore}
    (h : Latched calendar sources s) (hsub : ∀ source ∈ sources, source ∈ sources') :
    Latched calendar sources' s := by
  intro key record hget hstatus
  obtain ⟨source, hsource, hrest⟩ := h key record hget hstatus
  exact ⟨source, hsub source hsource, hrest⟩

/-- The reason of a suppression is there only when the gap is covered. -/
theorem covers_of_suppressionReason {openOrders : Dict String (List (String × Value))}
    {candidate : FleetCandidate} {reason : String}
    (h : suppressionReason openOrders candidate = .ok (some reason)) :
    Covers openOrders candidate := by
  obtain ⟨gap, hgap, h⟩ := bind_eq_ok_iff.mp h
  obtain ⟨remaining, hremaining, h⟩ := bind_eq_ok_iff.mp h
  by_cases hnot : gap ≤ 0 ∨ remaining < gap
  · rw [if_pos hnot] at h
    cases h
  obtain ⟨hpositive, hcovered⟩ := not_or.mp hnot
  exact ⟨gap, remaining, hgap, hremaining, not_le.mp hpositive, not_lt.mp hcovered⟩

variable {s : CandidateStore} {sources : List Refresh}

/-- An observation leaves a candidate suppressed only while its suppression runs. -/
theorem observed_suppressed {candidate : FleetCandidate} {timestamp : String}
    (h : (s.observed candidate timestamp).status = .suppressed) :
    ∃ existing, s.records.get? candidate.key = some existing ∧ existing.status = .suppressed ∧
      existing.expired timestamp = false ∧
      (s.observed candidate timestamp).suppressedUntil = existing.suppressedUntil := by
  unfold CandidateStore.observed at h ⊢
  cases hget : s.records.get? candidate.key with
  | none =>
    rw [hget] at h
    exact absurd h (observedStatus_ne_suppressed candidate)
  | some existing =>
    rw [hget] at h
    simp only [mergeObservation] at h ⊢
    cases hexpired : existing.expired timestamp with
    | true =>
      rw [hexpired, if_pos rfl] at h
      exact absurd h (observedStatus_ne_suppressed _)
    | false =>
      rw [hexpired, if_neg Bool.false_ne_true] at h
      exact ⟨existing, rfl, h, hexpired, rfl⟩

theorem running_of_not_expired {record : CandidateRecord} {timestamp expiry : String}
    (h : record.expired timestamp = false) (hstatus : record.status = .suppressed)
    (hexpiry : record.suppressedUntil = some expiry) : Running expiry timestamp := by
  intro hpassed
  rw [CandidateRecord.expired, hstatus, hexpiry, Option.any_some, decide_eq_true rfl,
    decide_eq_true hpassed] at h
  cases h

/-- Observing candidates keeps the store, and answers suppressed records only where an earlier cover
has not run out. -/
theorem upsertMany_spec (clock : Timestamp) (timestamp : String) (candidates : List FleetCandidate)
    (h : Sound s) (hl : Latched calendar sources s) :
    Sound (upsertMany clock timestamp candidates s).1 ∧
      Latched calendar sources (upsertMany clock timestamp candidates s).1 ∧
      ∀ record ∈ (upsertMany clock timestamp candidates s).2, record.candidate ∈ candidates ∧
        (record.status = .suppressed → ∃ source ∈ sources, ∃ expiry,
          CoveredAt calendar source record.candidate.key expiry ∧ Running expiry timestamp) := by
  induction candidates generalizing s with
  | nil => exact ⟨h, hl, fun _ hr => by cases hr⟩
  | cons candidate candidates ih =>
    have hw := writes_upsert h candidate timestamp
    have hcandidate := candidate_observed (s := s) candidate timestamp
    have hcover : (s.observed candidate timestamp).status = .suppressed →
        ∃ source ∈ sources, ∃ expiry, CoveredAt calendar source candidate.key expiry ∧
          (s.observed candidate timestamp).suppressedUntil = some expiry ∧
          Running expiry timestamp := by
      intro hstatus
      obtain ⟨existing, hget, hsuppressed, hexpired, hexpiry⟩ := observed_suppressed hstatus
      obtain ⟨source, hsource, expiry, hcovered, huntil⟩ := hl _ _ hget hsuppressed
      exact ⟨source, hsource, expiry, hcovered, hexpiry.trans huntil,
        running_of_not_expired hexpired hsuppressed huntil⟩
    have hsound := sound_put clock h hw
    have hlatched : Latched calendar sources (s.upsert clock candidate timestamp).1 := by
      intro key record hget hstatus
      have hrecords : (s.records.set (s.observed candidate timestamp).candidate.key
        (s.observed candidate timestamp)).get? key = some record := hget
      rw [Dict.get?_set, hcandidate] at hrecords
      split_ifs at hrecords with hkey
      · cases hrecords
        obtain ⟨source, hsource, expiry, hcovered, huntil, -⟩ := hcover hstatus
        exact ⟨source, hsource, expiry, hkey ▸ hcovered, huntil⟩
      · exact hl key record hrecords hstatus
    obtain ⟨hsound', hlatched', hrecords⟩ := ih hsound hlatched
    refine ⟨hsound', hlatched', fun record hr => ?_⟩
    rcases List.mem_cons.mp hr with rfl | hrest
    · refine ⟨?_, fun hstatus => ?_⟩
      · show (s.observed candidate timestamp).candidate ∈ candidate :: candidates
        rw [hcandidate]
        exact List.mem_cons_self
      · obtain ⟨source, hsource, expiry, hcovered, -, hrunning⟩ := hcover hstatus
        refine ⟨source, hsource, expiry, ?_, hrunning⟩
        show CoveredAt calendar source (s.observed candidate timestamp).candidate.key expiry
        rw [hcandidate]
        exact hcovered
    · obtain ⟨hmem, hcovered⟩ := hrecords record hrest
      exact ⟨List.mem_cons_of_mem _ hmem, hcovered⟩

/-- What a refresh leaves: a sound store whose suppressions come from the refreshes so far. -/
structure Refreshed (calendar : Calendar) (sources : List Refresh) (s : CandidateStore) : Prop where
  sound : Sound s
  latched : Latched calendar sources s

/-- What a returned record rests on when it is suppressed: a cover at this refresh, or one at an earlier
refresh that has not run out. -/
def RestsOnCover (calendar : Calendar) (sources : List Refresh) (input : Refresh)
    (record : CandidateRecord) : Prop :=
  record.status = .suppressed →
    (∃ expiry, CoveredAt calendar input record.candidate.key expiry) ∨
      ∃ source ∈ sources, ∃ expiry, CoveredAt calendar source record.candidate.key expiry ∧
        Running expiry input.now.isoformat

/-- One suppression of the loop. -/
theorem meets_suppress {input : Refresh} {record : CandidateRecord} {reason : String}
    (hinput : input ∈ sources) (hmem : record.candidate ∈ input.candidates)
    (htype : record.candidate.candidateType = "low_stock")
    (hreason : suppressionReason input.openOrders record.candidate = .ok (some reason))
    (h : Refreshed calendar sources s) :
    Fallible.Meets (CandidateStore.suppress input.clock input.tenantId record.candidate.candidateKey
        reason (dueText calendar input record.candidate)) s
      (fun suppressed s' => Refreshed calendar sources s' ∧ ∀ updated, suppressed = some updated →
        updated.status = .suppressed →
          ∃ expiry, CoveredAt calendar input updated.candidate.key expiry)
      fun _ s' => Refreshed calendar sources s' := by
  have hkey : record.candidate.key = (input.tenantId, record.candidate.candidateKey) := by
    rw [FleetCandidate.key, input.ofTenant _ hmem]
  have hcovered : CoveredAt calendar input record.candidate.key
      (dueText calendar input record.candidate) :=
    ⟨record.candidate, hmem, rfl, htype, covers_of_suppressionReason hreason, rfl⟩
  rcases suppress_cases h.sound input.clock input.tenantId record.candidate.candidateKey reason
      (dueText calendar input record.candidate) with ⟨hsame, -, hnot⟩ | ⟨old, -, hget, -, hwrite⟩
  · refine ⟨fun s' suppressed hrun => ?_, fun s' e hrun => ?_⟩
    · have hs : s' = s := (congrArg Prod.fst hrun).symm.trans hsame
      rw [hs]
      refine ⟨h, fun updated hupdated hstatus => ?_⟩
      exact absurd hstatus (hnot updated (by rw [← hupdated]; exact congrArg Prod.snd hrun))
    · have hs : s' = s := (congrArg Prod.fst hrun).symm.trans hsame
      rw [hs]
      exact h
  · have hold : record.candidate.key = old.candidate.key := hkey.trans (h.sound.keyed _ _ hget)
    refine Fallible.meets_of_run hwrite ⟨⟨?_, ?_⟩, ?_⟩
    · have hsound := sound_candidateStep h.sound (input.clock, .suppress input.tenantId
        record.candidate.candidateKey reason (dueText calendar input record.candidate))
      have hstep : (candidateStep s (input.clock, .suppress input.tenantId
          record.candidate.candidateKey reason (dueText calendar input record.candidate))).1
          = s.put input.clock _ _ := congrArg Prod.fst hwrite
      rw [hstep] at hsound
      exact hsound
    · intro key other hother hstatus
      have hrecords : (s.records.set old.candidate.key (CandidateStore.suppressedRecord input.clock
        reason (dueText calendar input record.candidate) old)).get? key = some other := hother
      rw [Dict.get?_set] at hrecords
      split_ifs at hrecords with hsamekey
      · cases hrecords
        rw [← hsamekey, ← hold]
        exact ⟨input, hinput, _, hcovered, rfl⟩
      · exact h.latched key other hrecords hstatus
    · intro updated hupdated _
      cases hupdated
      refine ⟨dueText calendar input record.candidate, ?_⟩
      show CoveredAt calendar input old.candidate.key _
      rw [← hold]
      exact hcovered

/-- The loop over the records of a refresh, by recursion on those that are left. -/
theorem meets_suppressCovered {input : Refresh} {past : List Refresh}
    (hinput : input ∈ sources)
    {records : List CandidateRecord}
    (hrecords : ∀ record ∈ records, record.candidate ∈ input.candidates ∧
      RestsOnCover calendar past input record)
    (h : Refreshed calendar sources s) :
    (suppressCovered calendar input records).Meets s
      (fun answer s' => Refreshed calendar sources s' ∧
        ∀ record ∈ answer, RestsOnCover calendar past input record)
      fun _ s' => Refreshed calendar sources s' := by
  induction records generalizing s with
  | nil => exact Fallible.meets_ret ⟨h, fun _ hr => by cases hr⟩
  | cons record records ih =>
    obtain ⟨hmem, hrests⟩ := hrecords record List.mem_cons_self
    have hrest := fun record hr => hrecords record (List.mem_cons_of_mem _ hr)
    have hcons : ∀ {s' : CandidateStore} {head : CandidateRecord}, Refreshed calendar sources s' →
        RestsOnCover calendar past input head →
        (suppressCovered calendar input records >>= fun rest =>
            Fallible.ret (head :: rest)).Meets s'
          (fun answer s'' => Refreshed calendar sources s'' ∧
            ∀ record ∈ answer, RestsOnCover calendar past input record)
          fun _ s'' => Refreshed calendar sources s'' := by
      intro s' head hs' hhead
      refine Fallible.meets_bind ((ih hrest hs').mono ?_ fun _ _ he => he)
      rintro rest s'' ⟨hs'', hall⟩
      refine Fallible.meets_ret ⟨hs'', fun r hr => ?_⟩
      rcases List.mem_cons.mp hr with rfl | hr
      · exact hhead
      · exact hall r hr
    rw [suppressCovered]
    by_cases htype : record.candidate.candidateType ≠ "low_stock"
    · rw [if_pos htype]
      exact hcons h hrests
    · rw [if_neg htype]
      refine Fallible.meets_bind (Fallible.meets_ofExcept ?_ fun _ _ => h)
      intro reason hreason
      cases reason with
      | none => exact hcons h hrests
      | some reason =>
        refine Fallible.meets_bind
          ((meets_suppress hinput hmem (not_not.mp htype) hreason h).mono ?_ fun _ _ he => he)
        rintro suppressed s' ⟨hs', hupdated⟩
        refine hcons hs' ?_
        cases suppressed with
        | none => exact hrests
        | some updated => exact fun hstatus => .inl (hupdated updated rfl hstatus)

end Cover

/-! ## Runs -/

/-- The refreshes of a run's steps. -/
def refreshes {β : Type} (steps : List (Step CandidateStore Refresh β)) : List Refresh :=
  steps.map (·.input)

theorem refreshed_attentionCandidates (calendar : Calendar) {past : List Refresh}
    {s : CandidateStore} (h : Refreshed calendar past s) (input : Refresh) :
    Refreshed calendar (past ++ [input]) (attentionCandidates calendar s input).1 ∧
      ∀ answer, (attentionCandidates calendar s input).2 = .ok answer →
        ∀ record ∈ answer, RestsOnCover calendar past input record := by
  have hpast : ∀ source ∈ past, source ∈ past ++ [input] :=
    fun source hsource => List.mem_append_left _ hsource
  obtain ⟨hsound, hlatched, hrecords⟩ := upsertMany_spec input.clock input.now.isoformat
    input.candidates h.sound h.latched
  have hobserved : Refreshed calendar (past ++ [input])
      (upsertMany input.clock input.now.isoformat input.candidates s).1 :=
    ⟨hsound, hlatched.mono hpast⟩
  have hrests : ∀ record ∈ (upsertMany input.clock input.now.isoformat input.candidates s).2,
      record.candidate ∈ input.candidates ∧ RestsOnCover calendar past input record :=
    fun record hr => ⟨(hrecords record hr).1, fun hstatus => .inr ((hrecords record hr).2 hstatus)⟩
  unfold attentionCandidates
  simp only
  by_cases hempty : input.openOrders.entries = []
  · rw [if_pos hempty]
    refine ⟨hobserved, fun answer hanswer record hr => ?_⟩
    cases hanswer
    exact (hrests record hr).2
  · rw [if_neg hempty]
    have hmeets := meets_suppressCovered (List.mem_append_right _ (List.mem_singleton_self _))
      hrests hobserved
    rcases hrun : (suppressCovered calendar input
      (upsertMany input.clock input.now.isoformat input.candidates s).2).run
        (upsertMany input.clock input.now.isoformat input.candidates s).1 with ⟨s', e | answer⟩
    · exact ⟨hmeets.error _ _ hrun, fun _ hanswer => by cases hanswer⟩
    · obtain ⟨hs', hall⟩ := hmeets.ok _ _ hrun
      refine ⟨hs', fun answer' hanswer => ?_⟩
      cases hanswer
      exact hall

/-- A record that a refresh returns is suppressed only if the open order of its SKU covered its positive
gap at this refresh, or did so at an earlier one and was not due yet. -/
theorem suppressed_only_if_covered (calendar : Calendar) (inputs : List Refresh) :
    ∀ past step rest,
      trace (attentionCandidates calendar) .empty inputs = past ++ step :: rest →
      ∀ answer, step.output = .ok answer → ∀ record ∈ answer, record.status = .suppressed →
        (∃ expiry, CoveredAt calendar step.input record.candidate.key expiry) ∨
          ∃ earlier ∈ past, ∃ expiry,
            CoveredAt calendar earlier.input record.candidate.key expiry ∧
              Running expiry step.input.now.isoformat := by
  intro past step rest hsplit answer hanswer record hr hstatus
  have hbefore : Refreshed calendar (refreshes past) step.before := by
    refine history_of_split (f := attentionCandidates calendar)
      (H := fun past s => Refreshed calendar (refreshes past) s) ?_ [] ?_ hsplit
    · intro past s input h
      rw [refreshes, List.map_append]
      exact (refreshed_attentionCandidates calendar h input).1
    · exact ⟨sound_empty, fun _ _ h => by cases h⟩
  have hstep : step = stepOf (attentionCandidates calendar) step.before step.input :=
    (invariant_of_mem_trace (I := fun _ => True) (fun _ _ _ => trivial) trivial
      (by rw [hsplit]; simp)).2
  rw [hstep] at hanswer
  rcases (refreshed_attentionCandidates calendar hbefore step.input).2 answer hanswer record hr
    hstatus with hnow | ⟨source, hsource, hcovered⟩
  · exact .inl hnow
  · obtain ⟨earlier, hearlier, rfl⟩ := List.mem_map.mp hsource
    exact .inr ⟨earlier, hearlier, hcovered⟩

/-- The first refresh: an order of ten units, due in four days, covers the gap of ten. -/
def orderedRefresh : Refresh where
  tenantId := "tenant_a"
  candidates := [soldOutMilk]
  openOrders := Dict.empty.set "milk_1" [("remaining_units", .int 10),
    ("order_ids", .list [.str "po_1"]), ("eta", .str "2026-07-05T00:00:00+00:00")]
  now := ⟨1, "2026-07-01T00:00:00+00:00"⟩
  clock := ⟨1, "2026-07-01T00:00:00+00:00"⟩
  ofTenant := by
    intro candidate hcandidate
    rw [List.mem_singleton.mp hcandidate]
    rfl

/-- The second, an hour later: the order was cancelled. -/
def cancelledRefresh : Refresh :=
  { orderedRefresh with
    openOrders := Dict.empty
    now := ⟨3600000001, "2026-07-01T01:00:00+00:00"⟩ }

/-- A calendar that reads UTC texts as they are. -/
def utcCalendar : Calendar := ⟨some, fun _ => "2026-07-02T00:00:00+00:00"⟩

theorem not_covers_cancelled : ¬ Covers cancelledRefresh.openOrders soldOutMilk := by
  rintro ⟨gap, remaining, hgap, hremaining, hpositive, hcovered⟩
  have hremaining' : (Except.ok 0 : Except Exc ℤ) = .ok remaining := hremaining
  cases hremaining'
  omega

/-- After the order is cancelled the candidate is still answered as suppressed. -/
theorem suppressed_after_cancel : ∃ answer,
    (stepOf (attentionCandidates utcCalendar)
      (attentionCandidates utcCalendar .empty orderedRefresh).1 cancelledRefresh).output =
        .ok answer ∧
      ∃ record ∈ answer, (record.candidate, record.status) = (soldOutMilk, .suppressed) := by
  have hanswer : (attentionCandidates utcCalendar
      (attentionCandidates utcCalendar .empty orderedRefresh).1 cancelledRefresh).2.toOption.map
      (List.map fun record => (record.candidate, record.status))
        = some [(soldOutMilk, .suppressed)] := by
    decide +kernel
  obtain ⟨answer, hok, hrecords⟩ := Option.map_eq_some_iff.mp hanswer
  refine ⟨answer, ok_of_toOption hok, ?_⟩
  rw [← List.mem_map, hrecords]
  exact List.mem_singleton_self _

/-- Then it was covered at the earlier refresh, by an order that is not due yet. -/
theorem suppressed_since_ordered : ∃ answer,
    (stepOf (attentionCandidates utcCalendar)
      (attentionCandidates utcCalendar .empty orderedRefresh).1 cancelledRefresh).output =
        .ok answer ∧
      ∃ record ∈ answer, record.status = .suppressed ∧
        ((∃ expiry, CoveredAt utcCalendar cancelledRefresh record.candidate.key expiry) ∨
          ∃ earlier ∈ [stepOf (attentionCandidates utcCalendar) .empty orderedRefresh], ∃ expiry,
            CoveredAt utcCalendar earlier.input record.candidate.key expiry ∧
              Running expiry cancelledRefresh.now.isoformat) := by
  obtain ⟨answer, hanswer, record, hmem, hrecord⟩ := suppressed_after_cancel
  have hstatus : record.status = .suppressed := congrArg Prod.snd hrecord
  exact ⟨answer, hanswer, record, hmem, hstatus,
    suppressed_only_if_covered utcCalendar [orderedRefresh, cancelledRefresh]
      [stepOf (attentionCandidates utcCalendar) .empty orderedRefresh] _ [] rfl answer hanswer
      record hmem hstatus⟩

/-- A candidate stays suppressed when its order is cancelled. -/
theorem cancelled_order_still_hides :
    ¬ ∀ (calendar : Calendar) (inputs : List Refresh),
      inputs.IsChain (fun a b => a.now.instant ≤ b.now.instant) →
      ∀ past step rest,
        trace (attentionCandidates calendar) .empty inputs = past ++ step :: rest →
        ∀ answer, step.output = .ok answer → ∀ record ∈ answer,
          record.candidate.candidateType = "low_stock" → record.status = .suppressed →
            Covers step.input.openOrders record.candidate := by
  intro h
  have hchain : [orderedRefresh, cancelledRefresh].IsChain
      (fun a b => a.now.instant ≤ b.now.instant) := by
    simp [orderedRefresh, cancelledRefresh]
  obtain ⟨answer, hanswer, record, hmem, hrecord⟩ := suppressed_after_cancel
  obtain ⟨hcandidate, hstatus⟩ := Prod.mk.inj hrecord
  have hcovers := h utcCalendar [orderedRefresh, cancelledRefresh] hchain
    [stepOf (attentionCandidates utcCalendar) .empty orderedRefresh] _ [] rfl answer
    hanswer record hmem (by rw [hcandidate]; rfl) hstatus
  rw [hcandidate] at hcovers
  exact not_covers_cancelled hcovers

end ShelfWise.Candidates
