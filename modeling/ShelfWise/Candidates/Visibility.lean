import ShelfWise.Candidates.Attention

/-!
# Candidates that become actionable

The status of a candidate is `monitoring` when its score is too low for a decision. `_base_record`
derives it from the first observation, `_merge_observation` from a later one only when a suppression
runs out; otherwise both branches of its test keep the status that is stored. So a candidate that has
neither a decision nor a suppression says what its latest observation was exactly as long as no
observation is of another kind than the one before (`escalation_visible_iff`).
-/

namespace ShelfWise.Candidates

open Py Sys

/-- A step of the store. -/
abbrev CandidateRunStep :=
  Step CandidateStore (Timestamp × CandidateCall) (Except Exc (Option CandidateRecord))

/-- What a call observes. -/
def CandidateCall.observation : CandidateCall → Option FleetCandidate
  | .upsert candidate _ => some candidate
  | _ => none

/-- The latest observation of a candidate. -/
def latestObservation (past : List CandidateRunStep) (key : String × String) :
    Option FleetCandidate :=
  ((past.filterMap fun step => step.input.2.observation).filter fun candidate =>
    candidate.key = key).getLast?

/-- A record without a decision that is not suppressed says whether its latest observation was for
monitoring only. -/
def StatusVisible (past : List CandidateRunStep) (s : CandidateStore) : Prop :=
  ∀ key record, s.records.get? key = some record → record.decisionId = none →
    record.status ≠ .suppressed → ∃ candidate, latestObservation past key = some candidate ∧
      (record.status = .monitoring ↔ candidate.monitoringOnly = true)

/-- The call observes a candidate without a decision or a suppression as one of the other kind. -/
def ChangesKind (s : CandidateStore) : CandidateCall → Prop
  | .upsert candidate _ => ∃ record, s.records.get? candidate.key = some record ∧
    record.decisionId = none ∧ record.status ≠ .suppressed ∧
      record.candidate.monitoringOnly ≠ candidate.monitoringOnly
  | _ => False

/-! ## What is stored of an observation -/

/-- Every record holds the latest observation of its candidate. -/
structure Recorded (past : List CandidateRunStep) (s : CandidateStore) : Prop where
  sound : Sound s
  latest : ∀ key record, s.records.get? key = some record →
    latestObservation past key = some record.candidate

section

variable {past : List CandidateRunStep} {s : CandidateStore}

/-- A call that observes nothing. -/
theorem latestObservation_of_none {call : Timestamp × CandidateCall}
    (h : call.2.observation = none) (key : String × String) :
    latestObservation (past ++ [stepOf candidateStep s call]) key = latestObservation past key := by
  have hnew : [stepOf candidateStep s call].filterMap (fun step => step.input.2.observation) =
      [] := List.filterMap_cons_none h
  rw [latestObservation, List.filterMap_append, hnew, List.append_nil, latestObservation]

/-- An observation is the latest one of its candidate, and of no other. -/
theorem latestObservation_upsert (clock : Timestamp) (candidate : FleetCandidate)
    (timestamp : String) (key : String × String) :
    latestObservation (past ++ [stepOf candidateStep s (clock, .upsert candidate timestamp)]) key =
      if candidate.key = key then some candidate else latestObservation past key := by
  have hnew : [stepOf candidateStep s (clock, .upsert candidate timestamp)].filterMap
      (fun step => step.input.2.observation) = [candidate] := rfl
  rw [latestObservation, List.filterMap_append, hnew, List.filter_append]
  by_cases hkey : candidate.key = key
  · rw [if_pos hkey, List.filter_cons_of_pos (by simpa using hkey), List.filter_nil,
      List.getLast?_concat]
  · rw [if_neg hkey, List.filter_cons_of_neg (by simpa using hkey), List.filter_nil,
      List.append_nil, latestObservation]

/-- What the record of an observed candidate says. -/
theorem observed_visible_iff (h : Recorded past s) (hvisible : StatusVisible past s)
    (candidate : FleetCandidate) (timestamp : String) :
    ((s.observed candidate timestamp).decisionId = none →
      (s.observed candidate timestamp).status ≠ .suppressed →
        ((s.observed candidate timestamp).status = .monitoring ↔
          candidate.monitoringOnly = true)) ↔
      ∀ record, s.records.get? candidate.key = some record → record.decisionId = none →
        record.status ≠ .suppressed →
          record.candidate.monitoringOnly = candidate.monitoringOnly := by
  have hobserved : observedStatus candidate = .monitoring ↔ candidate.monitoringOnly = true := by
    unfold observedStatus
    cases candidate.monitoringOnly <;> decide
  unfold CandidateStore.observed
  cases hget : s.records.get? candidate.key with
  | none =>
    refine iff_of_true (fun _ _ => hobserved) fun record hrecord => ?_
    cases hrecord
  | some existing =>
    simp only [Option.some.injEq, forall_eq']
    unfold mergeObservation
    by_cases hexpired : existing.expired timestamp = true
    · -- the suppression has run out, and the status is derived anew
      simp only [hexpired, if_true]
      exact iff_of_true (fun _ _ => hobserved) fun _ hnot =>
        absurd (status_of_expired hexpired) hnot
    · simp only [hexpired, Bool.false_eq_true, if_false]
      refine forall₂_congr fun hdecision hstatus => ?_
      obtain ⟨latest, hlatest, hkind⟩ := hvisible candidate.key existing hget hdecision hstatus
      rw [h.latest candidate.key existing hget, Option.some.injEq] at hlatest
      rw [hkind, ← hlatest]
      exact Bool.eq_iff_iff.symm

/-- A call that observes nothing leaves a record, or suppresses it, or links a decision to it. -/
theorem settled_candidateStep (h : Sound s) {call : Timestamp × CandidateCall}
    (hcall : call.2.observation = none) {key : String × String} {record : CandidateRecord}
    (hget : (candidateStep s call).1.records.get? key = some record) :
    ∃ old, s.records.get? key = some old ∧ record.candidate = old.candidate ∧
      (record = old ∨ record.status = .suppressed ∨ record.decisionId ≠ none) := by
  obtain ⟨clock, call⟩ := call
  cases call with
  | upsert candidate timestamp => cases hcall
  | suppress tenantId candidateKey reason suppressedUntil =>
    change (s.suppress clock tenantId candidateKey reason suppressedUntil).1.records.get? key = _
      at hget
    rcases suppress_cases h clock tenantId candidateKey reason suppressedUntil with
      ⟨hsame, -⟩ | ⟨old, -, hold, -, hwrite⟩
    · rw [hsame] at hget
      exact ⟨record, hget, rfl, Or.inl rfl⟩
    · rw [hwrite] at hget
      change (s.records.set old.candidate.key _).get? key = some record at hget
      rw [Dict.get?_set] at hget
      split at hget
      · rename_i hkey
        cases hget
        have hplace : (tenantId, candidateKey) = old.candidate.key := h.keyed _ _ hold
        rw [hplace, hkey] at hold
        exact ⟨old, hold, rfl, Or.inr (Or.inl rfl)⟩
      · exact ⟨record, hget, rfl, Or.inl rfl⟩
  | linkDecision tenantId candidateKey decisionId =>
    change (s.linkDecision clock tenantId candidateKey decisionId).1.records.get? key = _ at hget
    unfold CandidateStore.linkDecision at hget
    split at hget
    · exact ⟨record, hget, rfl, Or.inl rfl⟩
    · split at hget
      · exact ⟨record, hget, rfl, Or.inl rfl⟩
      · rename_i old hold
        split at hget
        · exact ⟨record, hget, rfl, Or.inl rfl⟩
        · change (s.records.set old.candidate.key _).get? key = some record at hget
          rw [Dict.get?_set] at hget
          split at hget
          · rename_i hkey
            cases hget
            have hplace : (tenantId, candidateKey) = old.candidate.key := h.keyed _ _ hold
            rw [hplace, hkey] at hold
            exact ⟨old, hold, rfl, Or.inr (Or.inr (Option.some_ne_none _))⟩
          · exact ⟨record, hget, rfl, Or.inl rfl⟩

theorem recorded_candidateStep (h : Recorded past s) (call : Timestamp × CandidateCall) :
    Recorded (past ++ [stepOf candidateStep s call]) (candidateStep s call).1 := by
  refine ⟨sound_candidateStep h.sound call, fun key record hget => ?_⟩
  cases hcall : call.2.observation with
  | none =>
    obtain ⟨old, hold, hsame, -⟩ := settled_candidateStep h.sound hcall hget
    rw [latestObservation_of_none hcall, h.latest key old hold, hsame]
  | some candidate =>
    obtain ⟨clock, call⟩ := call
    cases call with
    | suppress => cases hcall
    | linkDecision => cases hcall
    | upsert candidate timestamp =>
      rw [latestObservation_upsert]
      change (s.records.set (s.observed candidate timestamp).candidate.key _).get? key = _ at hget
      rw [candidate_observed, Dict.get?_set] at hget
      split at hget
      · rename_i hkey
        cases hget
        rw [if_pos hkey, candidate_observed]
      · rename_i hkey
        rw [if_neg hkey]
        exact h.latest key record hget

/-- A call keeps the statuses visible exactly when it observes nothing of another kind. -/
theorem statusVisible_candidateStep_iff (h : Recorded past s) (hvisible : StatusVisible past s)
    (call : Timestamp × CandidateCall) :
    StatusVisible (past ++ [stepOf candidateStep s call]) (candidateStep s call).1 ↔
      ¬ ChangesKind s call.2 := by
  cases hcall : call.2.observation with
  | none =>
    refine iff_of_true ?_ ?_
    · intro key record hget hdecision hstatus
      rw [latestObservation_of_none hcall]
      obtain ⟨old, hold, -, hsame⟩ := settled_candidateStep h.sound hcall hget
      have heq : record = old := hsame.resolve_right fun hsettled =>
        hsettled.elim hstatus fun hne => hne hdecision
      exact hvisible key record (heq ▸ hold) hdecision hstatus
    · obtain ⟨clock, call⟩ := call
      cases call with
      | upsert => cases hcall
      | suppress => exact id
      | linkDecision => exact id
  | some observed =>
    obtain ⟨clock, call⟩ := call
    cases call with
    | suppress => cases hcall
    | linkDecision => cases hcall
    | upsert candidate timestamp =>
      have hrecords : (candidateStep s (clock, .upsert candidate timestamp)).1.records =
          s.records.set candidate.key (s.observed candidate timestamp) := by
        change s.records.set (s.observed candidate timestamp).candidate.key _ = _
        rw [candidate_observed]
      have hchanges : ¬ ChangesKind s (.upsert candidate timestamp) ↔
          ∀ record, s.records.get? candidate.key = some record → record.decisionId = none →
            record.status ≠ .suppressed →
              record.candidate.monitoringOnly = candidate.monitoringOnly := by
        unfold ChangesKind
        push Not
        rfl
      show _ ↔ ¬ ChangesKind s (.upsert candidate timestamp)
      rw [hchanges, ← observed_visible_iff h hvisible candidate timestamp]
      unfold StatusVisible
      rw [hrecords]
      constructor
      · intro hall hdecision hstatus
        obtain ⟨latest, hlatest, hkind⟩ := hall candidate.key _ (Dict.get?_set_self _ _ _)
          hdecision hstatus
        rw [latestObservation_upsert, if_pos rfl, Option.some.injEq] at hlatest
        rw [hkind, hlatest]
      · intro hself key record hget hdecision hstatus
        rw [latestObservation_upsert]
        rw [Dict.get?_set] at hget
        split at hget
        · rename_i hkey
          cases hget
          rw [if_pos hkey]
          exact ⟨candidate, rfl, hself hdecision hstatus⟩
        · rename_i hkey
          rw [if_neg hkey]
          exact hvisible key record hget hdecision hstatus

end

/-- **Escalation.** Along every run of the store the records say after every call what their latest
observations were exactly when no call observes a candidate without a decision or a suppression as
one of the other kind. -/
theorem escalation_visible_iff (calls : List (Timestamp × CandidateCall)) :
    (∀ past step rest, trace candidateStep .empty calls = past ++ step :: rest →
      StatusVisible (past ++ [step]) step.after) ↔
      ∀ step ∈ trace candidateStep .empty calls, ¬ ChangesKind step.before step.input.2 := by
  refine forall_split_iff (H := Recorded) (P := StatusVisible)
    (C := fun step => ¬ ChangesKind step.before step.input.2) ?_ ?_ ?_ ?_ calls
  · exact ⟨sound_empty, fun _ _ hget => by cases hget⟩
  · intro past s call h
    exact recorded_candidateStep h call
  · intro key record hget
    cases hget
  · intro past s call h hvisible
    exact statusVisible_candidateStep_iff h hvisible call

/-- Five units of the milk are left, of the ten that it is reordered at. -/
def watchedMilk : FleetCandidate :=
  { soldOutMilk with
    score := ⟨.finite 40, "40.0"⟩
    urgency := ⟨.finite (3 / 5), "0.6"⟩
    exposureUnits := 5
    monitoringOnly := true }

/-- An hour later it has run out. -/
def milkRunsOut : List (Timestamp × CandidateCall) :=
  [(⟨1, "2026-07-01T00:00:00+00:00"⟩, .upsert watchedMilk "2026-07-01T00:00:00+00:00"),
    (⟨3600000001, "2026-07-01T01:00:00+00:00"⟩, .upsert soldOutMilk "2026-07-01T01:00:00+00:00")]

/-- Milk that has run out is still for monitoring. -/
theorem sold_out_still_monitored : ¬ ∀ calls : List (Timestamp × CandidateCall),
    ∀ past step rest, trace candidateStep .empty calls = past ++ step :: rest →
      StatusVisible (past ++ [step]) step.after := by
  intro h
  have hrecord : ((final candidateStep .empty milkRunsOut).records.get? soldOutMilk.key).map
      (fun record => (record.decisionId, record.status)) = some (none, .monitoring) := by
    decide +kernel
  obtain ⟨record, hget, hstage⟩ := Option.map_eq_some_iff.mp hrecord
  obtain ⟨hdecision, hstatus⟩ := Prod.mk.inj hstage
  obtain ⟨candidate, hlatest, hkind⟩ := h milkRunsOut
    [stepOf candidateStep .empty milkRunsOut[0]] _ [] rfl soldOutMilk.key record hget hdecision
    (by rw [hstatus]; decide)
  rw [latestObservation_upsert, if_pos rfl, Option.some.injEq] at hlatest
  have hactionable := hkind.mp hstatus
  rw [← hlatest] at hactionable
  cases hactionable

end ShelfWise.Candidates
