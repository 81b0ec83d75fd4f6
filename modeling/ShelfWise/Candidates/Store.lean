import ShelfWise.Contracts.Event
import ShelfWise.Sys.Run
import Mathlib.Data.List.Chain

/-!
# Candidates and their lifecycle

`InMemoryCandidateStore` of `shelfwise_backend/candidate_store.py` with the history of
`candidate_history.py`: one current record per candidate, and an append-only list of the transitions it
went through. Three calls write to it, and each decides on its own whether there was a transition.

`candidate_lifecycle_iff` says when the history has one entry per transition along a whole run: exactly
when no call suppresses a candidate that is suppressed. What the record says of itself holds on every
run.
-/

namespace ShelfWise.Candidates

open Py Sys

/-! ## Records -/

/-- `CANDIDATE_STATUSES`. -/
inductive CandidateStatus where
  | new
  | monitoring
  | suppressed
  | pending
  | approved
  | rejected
  | resolved
deriving DecidableEq

/-- `TERMINAL_CANDIDATE_STATUSES`. -/
def CandidateStatus.terminal : CandidateStatus → Bool
  | .approved => true
  | .rejected => true
  | .resolved => true
  | _ => false

/-- `FleetCandidate`. -/
structure FleetCandidate where
  candidateKey : String
  tenantId : String
  dataDomain : String
  candidateType : String
  sku : String
  lotId : Option String
  score : PyFloat
  urgency : PyFloat
  exposureUnits : ℤ
  monitoringOnly : Bool
  evidence : List (String × Value)
deriving DecidableEq

/-- The key of a candidate. -/
def FleetCandidate.key (candidate : FleetCandidate) : String × String :=
  (candidate.tenantId, candidate.candidateKey)

/-- The record of a candidate; its times are ISO texts in UTC. -/
structure CandidateRecord where
  candidate : FleetCandidate
  status : CandidateStatus
  firstSeenAt : String
  lastSeenAt : String
  updatedAt : String
  suppressionReason : Option String
  suppressedUntil : Option String
  decisionId : Option String
deriving DecidableEq

/-- The status of a candidate that nothing has happened to. -/
def observedStatus (candidate : FleetCandidate) : CandidateStatus :=
  if candidate.monitoringOnly then .monitoring else .new

/-- `_base_record`. -/
def baseRecord (candidate : FleetCandidate) (timestamp : String) : CandidateRecord where
  candidate := candidate
  status := observedStatus candidate
  firstSeenAt := timestamp
  lastSeenAt := timestamp
  updatedAt := timestamp
  suppressionReason := none
  suppressedUntil := none
  decisionId := none

/-- The suppression of a record has run out. -/
def CandidateRecord.expired (record : CandidateRecord) (timestamp : String) : Bool :=
  decide (record.status = .suppressed) &&
    record.suppressedUntil.any fun expiry => decide (expiry ≠ "" ∧ expiry ≤ timestamp)

/-- `_merge_observation`. -/
def mergeObservation (existing fresh : CandidateRecord) (timestamp : String) : CandidateRecord :=
  let expired := existing.expired timestamp
  { fresh with
    status := if expired then observedStatus fresh.candidate else existing.status
    firstSeenAt := existing.firstSeenAt
    lastSeenAt := timestamp
    suppressionReason := if expired then none else existing.suppressionReason
    suppressedUntil := if expired then none else existing.suppressedUntil
    decisionId := existing.decisionId }

/-! ## The history -/

/-- `CandidateHistoryEntry`. -/
structure HistoryEntry where
  tenantId : String
  dataDomain : String
  candidateKey : String
  sequence : ℕ
  reason : String
  status : CandidateStatus
  score : PyFloat
  urgency : PyFloat
  exposureUnits : ℤ
  decisionId : Option String
  recordedAt : Timestamp
deriving DecidableEq

/-- The entry of a record after the entries that are there. -/
def historyEntry (clock : Timestamp) (existing : List HistoryEntry) (record : CandidateRecord)
    (reason : String) : HistoryEntry where
  tenantId := record.candidate.tenantId
  dataDomain := record.candidate.dataDomain
  candidateKey := record.candidate.candidateKey
  sequence := existing.length + 1
  reason := reason
  status := record.status
  score := record.candidate.score
  urgency := record.candidate.urgency
  exposureUnits := record.candidate.exposureUnits
  decisionId := record.decisionId
  recordedAt := clock

/-- `InMemoryCandidateHistoryStore`. -/
abbrev CandidateHistory := Dict (String × String) (List HistoryEntry)

/-- The entries of a candidate, oldest first. -/
def CandidateHistory.entries (history : CandidateHistory) (key : String × String) :
    List HistoryEntry :=
  (history.get? key).getD []

/-- `record` of the history. -/
def CandidateHistory.record (clock : Timestamp) (record : CandidateRecord) (reason : String)
    (history : CandidateHistory) : CandidateHistory :=
  let existing := CandidateHistory.entries history record.candidate.key
  history.set record.candidate.key (existing ++ [historyEntry clock existing record reason])

/-! ## The store -/

/-- `InMemoryCandidateStore`. -/
structure CandidateStore where
  records : Dict (String × String) CandidateRecord
  history : CandidateHistory

namespace CandidateStore

/-- `InMemoryCandidateStore()`. -/
def empty : CandidateStore := ⟨.empty, .empty⟩

/-- The entries of a candidate. -/
def entries (s : CandidateStore) (key : String × String) : List HistoryEntry :=
  CandidateHistory.entries s.history key

/-- Write a record under its key, with an entry of the history when there is a reason for one. -/
def put (clock : Timestamp) (record : CandidateRecord) (reason : Option String)
    (s : CandidateStore) : CandidateStore where
  records := s.records.set record.candidate.key record
  history := reason.elim s.history fun reason => CandidateHistory.record clock record reason s.history

/-- The record that `upsert` writes. -/
def observed (s : CandidateStore) (candidate : FleetCandidate) (timestamp : String) :
    CandidateRecord :=
  match s.records.get? candidate.key with
  | none => baseRecord candidate timestamp
  | some existing => mergeObservation existing (baseRecord candidate timestamp) timestamp

/-- The reason of the entry that `upsert` writes, if any. -/
def observedReason (s : CandidateStore) (candidate : FleetCandidate) (timestamp : String) :
    Option String :=
  match s.records.get? candidate.key with
  | none => some "observed"
  | some existing =>
    if existing.status = (s.observed candidate timestamp).status then none
    else some "status_changed"

/-- `upsert`; `timestamp` is the text of `now`, and `clock` the time of the history's entry. -/
def upsert (clock : Timestamp) (candidate : FleetCandidate) (timestamp : String)
    (s : CandidateStore) : CandidateStore × CandidateRecord :=
  let record := s.observed candidate timestamp
  (s.put clock record (s.observedReason candidate timestamp), record)

/-- The record that `suppress` writes. -/
def suppressedRecord (clock : Timestamp) (reason suppressedUntil : String)
    (record : CandidateRecord) : CandidateRecord :=
  { record with
    status := .suppressed
    suppressionReason := some (strip reason)
    suppressedUntil := some suppressedUntil
    updatedAt := clock.isoformat }

/-- `suppress`; `suppressedUntil` is the UTC text of `until`. -/
def suppress (clock : Timestamp) (tenantId candidateKey reason suppressedUntil : String)
    (s : CandidateStore) : CandidateStore × Except Exc (Option CandidateRecord) :=
  if strip reason = "" then (s, .error (.valueError "suppression reason is required"))
  else match s.records.get? (tenantId, candidateKey) with
    | none => (s, .ok none)
    | some record =>
      if record.status.terminal ∨ record.decisionId.getD "" ≠ "" then (s, .ok (some record))
      else
        let updated := suppressedRecord clock reason suppressedUntil record
        (s.put clock updated (some "suppressed"), .ok (some updated))

/-- `link_decision`. -/
def linkDecision (clock : Timestamp) (tenantId candidateKey decisionId : String)
    (s : CandidateStore) : CandidateStore × Except Exc (Option CandidateRecord) :=
  if strip decisionId = "" then (s, .error (.valueError "decision_id is required"))
  else match s.records.get? (tenantId, candidateKey) with
    | none => (s, .ok none)
    | some record =>
      if record.status.terminal ∨
          (record.decisionId.getD "" ≠ "" ∧ record.decisionId ≠ some decisionId) ∨
          record.decisionId = some decisionId then (s, .ok (some record))
      else
        let updated := { record with
          decisionId := some decisionId
          status := .pending
          suppressionReason := none
          suppressedUntil := none
          updatedAt := clock.isoformat }
        (s.put clock updated (some "linked_decision"), .ok (some updated))

end CandidateStore

/-- A call on the store. -/
inductive CandidateCall where
  | upsert (candidate : FleetCandidate) (timestamp : String)
  | suppress (tenantId candidateKey reason suppressedUntil : String)
  | linkDecision (tenantId candidateKey decisionId : String)

/-- One call, at the time of the clock. -/
def candidateStep (s : CandidateStore) (call : Timestamp × CandidateCall) :
    CandidateStore × Except Exc (Option CandidateRecord) :=
  match call.2 with
  | .upsert candidate timestamp =>
    let answer := s.upsert call.1 candidate timestamp
    (answer.1, .ok (some answer.2))
  | .suppress tenantId candidateKey reason suppressedUntil =>
    s.suppress call.1 tenantId candidateKey reason suppressedUntil
  | .linkDecision tenantId candidateKey decisionId =>
    s.linkDecision call.1 tenantId candidateKey decisionId

/-! ## What a call writes -/

/-- What a record says of itself. -/
structure Valid (record : CandidateRecord) : Prop where
  pending : ∀ decisionId, record.decisionId = some decisionId →
    record.status = .pending ∧ strip decisionId ≠ ""
  reason : record.status = .suppressed ↔ record.suppressionReason ≠ none
  expiry : record.status = .suppressed ↔ record.suppressedUntil ≠ none

/-- A later record of a candidate keeps its first sight and its decision. -/
structure Kept (old record : CandidateRecord) : Prop where
  firstSeenAt : record.firstSeenAt = old.firstSeenAt
  decisionId : ∀ decisionId, old.decisionId = some decisionId →
    record.decisionId = some decisionId

/-- Two stages of a lifecycle that are not the same. -/
def Differs (status status' : CandidateStatus) (decisionId decisionId' : Option String) : Prop :=
  status ≠ status' ∨ decisionId ≠ decisionId'

/-- The call suppresses a candidate that is suppressed. -/
def Resuppresses (s : CandidateStore) : CandidateCall → Prop
  | .suppress tenantId candidateKey reason _ => strip reason ≠ "" ∧
    ∃ record, s.records.get? (tenantId, candidateKey) = some record ∧
      record.status = .suppressed
  | _ => False

/-- What a call writes: a valid record that keeps what is to be kept, without an entry when its stage
is the one before, and with an entry otherwise and when it suppresses again. -/
structure Writes (s : CandidateStore) (call : CandidateCall) (record : CandidateRecord)
    (reason : Option String) : Prop where
  valid : Valid record
  kept : ∀ old, s.records.get? record.candidate.key = some old → Kept old record
  silent : reason = none → ∃ old, s.records.get? record.candidate.key = some old ∧
    old.status = record.status ∧ old.decisionId = record.decisionId
  logged : reason ≠ none → ∀ old, s.records.get? record.candidate.key = some old →
    (Differs old.status record.status old.decisionId record.decisionId ↔ ¬ Resuppresses s call)
  quiet : (reason = none ∨ s.records.get? record.candidate.key = none) → ¬ Resuppresses s call

/-- The records are valid and stand under their keys, and the newest entry of a candidate carries the
stage of its record. -/
structure Sound (s : CandidateStore) : Prop where
  keyed : s.records.KeyedBy fun record => record.candidate.key
  valid : ∀ key record, s.records.get? key = some record → Valid record
  newest : ∀ key record, s.records.get? key = some record →
    ∃ entry, (s.entries key).getLast? = some entry ∧ entry.status = record.status ∧
      entry.decisionId = record.decisionId
  unseen : ∀ key, s.records.get? key = none → s.entries key = []

section Step

variable {s : CandidateStore}

theorem candidate_observed (candidate : FleetCandidate) (timestamp : String) :
    (s.observed candidate timestamp).candidate = candidate := by
  unfold CandidateStore.observed
  split
  · rfl
  · rfl

theorem observedStatus_ne_suppressed (candidate : FleetCandidate) :
    observedStatus candidate ≠ .suppressed := by
  unfold observedStatus
  split <;> decide

theorem valid_baseRecord (candidate : FleetCandidate) (timestamp : String) :
    Valid (baseRecord candidate timestamp) where
  pending := fun _ h => by cases h
  reason := iff_of_false (observedStatus_ne_suppressed candidate) fun h => h rfl
  expiry := iff_of_false (observedStatus_ne_suppressed candidate) fun h => h rfl

theorem status_of_expired {record : CandidateRecord} {timestamp : String}
    (h : record.expired timestamp = true) : record.status = .suppressed :=
  of_decide_eq_true (Bool.and_eq_true_iff.mp h).1

/-- Merging keeps a record valid: what runs out is the suppression, with its reason and time. -/
theorem valid_mergeObservation {existing : CandidateRecord} (h : Valid existing)
    (candidate : FleetCandidate) (timestamp : String) :
    Valid (mergeObservation existing (baseRecord candidate timestamp) timestamp) := by
  unfold mergeObservation
  by_cases hexpired : existing.expired timestamp = true
  · simp only [hexpired, if_true]
    refine ⟨fun decisionId hdecision => ?_, ?_, ?_⟩
    · -- a suppressed record has no decision
      have hpending := (h.pending decisionId hdecision).1
      rw [status_of_expired hexpired] at hpending
      cases hpending
    · exact iff_of_false (observedStatus_ne_suppressed candidate) fun hne => hne rfl
    · exact iff_of_false (observedStatus_ne_suppressed candidate) fun hne => hne rfl
  · simp only [hexpired, Bool.false_eq_true, if_false]
    exact ⟨h.pending, h.reason, h.expiry⟩

theorem decisionId_eq_none {record : CandidateRecord} (h : Valid record)
    (hblank : ¬ record.decisionId.getD "" ≠ "") : record.decisionId = none := by
  cases hdecision : record.decisionId with
  | none => rfl
  | some decisionId =>
    rw [hdecision, Option.getD_some, not_not] at hblank
    refine absurd ?_ (h.pending decisionId hdecision).2
    rw [hblank]
    decide +kernel

theorem writes_upsert (h : Sound s) (candidate : FleetCandidate) (timestamp : String) :
    Writes s (.upsert candidate timestamp) (s.observed candidate timestamp)
      (s.observedReason candidate timestamp) := by
  unfold CandidateStore.observedReason CandidateStore.observed
  cases hget : s.records.get? candidate.key with
  | none =>
    have hnone : s.records.get? (baseRecord candidate timestamp).candidate.key = none := hget
    simp only
    refine ⟨valid_baseRecord candidate timestamp, ?_, (fun hreason => by cases hreason), ?_,
      fun _ => id⟩
    · intro old hold
      rw [hnone] at hold
      cases hold
    · intro _ old hold
      rw [hnone] at hold
      cases hold
  | some existing =>
    have hold : ∀ old, s.records.get?
        (mergeObservation existing (baseRecord candidate timestamp) timestamp).candidate.key
          = some old → old = existing := by
      intro old hold
      have hsame : s.records.get? candidate.key = some old := hold
      rw [hget, Option.some.injEq] at hsame
      exact hsame.symm
    simp only
    refine ⟨valid_mergeObservation (h.valid _ _ hget) candidate timestamp, ?_, ?_, ?_, fun _ => id⟩
    · intro old hgot
      rw [hold old hgot]
      exact ⟨rfl, fun _ hdecision => hdecision⟩
    · intro hreason
      refine ⟨existing, hget, ?_, rfl⟩
      by_contra hne
      rw [if_neg hne] at hreason
      cases hreason
    · intro hreason old hgot
      rw [hold old hgot]
      refine iff_of_true (.inl fun hsame => ?_) id
      rw [if_pos hsame] at hreason
      exact hreason rfl

/-- A record that `suppress` and `linkDecision` leave as it is is not suppressed. -/
theorem not_suppressed_of_settled {record : CandidateRecord} (h : Valid record)
    (hsettled : record.status.terminal = true ∨ record.decisionId ≠ none) :
    record.status ≠ .suppressed := by
  intro hstatus
  rcases hsettled with hterminal | hdecision
  · rw [hstatus] at hterminal
    cases hterminal
  · obtain ⟨decisionId, hsome⟩ := Option.ne_none_iff_exists'.mp hdecision
    have hpending := (h.pending decisionId hsome).1
    rw [hstatus] at hpending
    cases hpending

/-- `suppress` leaves the store, and then answers no suppressed record, or it suppresses the record of
a candidate that has no decision. -/
theorem suppress_cases (h : Sound s) (clock : Timestamp)
    (tenantId candidateKey reason suppressedUntil : String) :
    ((s.suppress clock tenantId candidateKey reason suppressedUntil).1 = s ∧
      ¬ Resuppresses s (.suppress tenantId candidateKey reason suppressedUntil) ∧
      ∀ record, (s.suppress clock tenantId candidateKey reason suppressedUntil).2 = .ok (some record) →
        record.status ≠ .suppressed) ∨
    ∃ record, strip reason ≠ "" ∧ s.records.get? (tenantId, candidateKey) = some record ∧
      record.decisionId = none ∧
      s.suppress clock tenantId candidateKey reason suppressedUntil
        = (s.put clock (CandidateStore.suppressedRecord clock reason suppressedUntil record)
            (some "suppressed"),
          .ok (some (CandidateStore.suppressedRecord clock reason suppressedUntil record))) := by
  unfold CandidateStore.suppress
  by_cases hreason : strip reason = ""
  · rw [if_pos hreason]
    exact .inl ⟨rfl, fun hresuppresses => hresuppresses.1 hreason, fun _ hanswer => by cases hanswer⟩
  · rw [if_neg hreason]
    cases hget : s.records.get? (tenantId, candidateKey) with
    | none =>
      refine .inl ⟨rfl, ?_, fun _ hanswer => by cases hanswer⟩
      rintro ⟨-, record, hrecord, -⟩
      rw [hget] at hrecord
      cases hrecord
    | some record =>
      have hvalid := h.valid _ _ hget
      simp only
      by_cases hsettled : record.status.terminal = true ∨ record.decisionId.getD "" ≠ ""
      · rw [if_pos hsettled]
        have hnot : record.status ≠ .suppressed := by
          refine not_suppressed_of_settled hvalid (hsettled.imp id fun hdecision => ?_)
          rintro hnone
          rw [hnone] at hdecision
          exact hdecision rfl
        refine .inl ⟨rfl, ?_, fun record' hanswer => ?_⟩
        · rintro ⟨-, record', hrecord', hstatus⟩
          rw [hget, Option.some.injEq] at hrecord'
          subst hrecord'
          exact hnot hstatus
        · cases hanswer
          exact hnot
      · rw [if_neg hsettled]
        obtain ⟨-, hblank⟩ := not_or.mp hsettled
        exact .inr ⟨record, hreason, rfl, decisionId_eq_none hvalid hblank, rfl⟩

theorem writes_suppress (h : Sound s) (clock : Timestamp)
    (tenantId candidateKey reason suppressedUntil : String) :
    ((s.suppress clock tenantId candidateKey reason suppressedUntil).1 = s ∧
      ¬ Resuppresses s (.suppress tenantId candidateKey reason suppressedUntil)) ∨
    ∃ record entry, (s.suppress clock tenantId candidateKey reason suppressedUntil).1
        = s.put clock record entry ∧
      Writes s (.suppress tenantId candidateKey reason suppressedUntil) record entry := by
  rcases suppress_cases h clock tenantId candidateKey reason suppressedUntil with
    ⟨hsame, hnot, -⟩ | ⟨record, hreason, hget, hdecision, hwrite⟩
  · exact .inl ⟨hsame, hnot⟩
  · rw [hwrite]
    have hkey : (tenantId, candidateKey) = record.candidate.key := h.keyed _ _ hget
    have hold : ∀ old, s.records.get? record.candidate.key = some old → old = record := by
      intro old hgot
      rw [← hkey, hget, Option.some.injEq] at hgot
      exact hgot.symm
    have hresuppresses : Resuppresses s (.suppress tenantId candidateKey reason suppressedUntil)
        ↔ record.status = .suppressed := by
      constructor
      · rintro ⟨-, record', hrecord', hstatus⟩
        rw [hget, Option.some.injEq] at hrecord'
        rw [hrecord']
        exact hstatus
      · exact fun hstatus => ⟨hreason, record, hget, hstatus⟩
    refine .inr ⟨_, _, rfl, ?_, ?_, (fun hnone => by cases hnone), ?_, ?_⟩
    · refine ⟨fun decisionId hsome => ?_, iff_of_true rfl (Option.some_ne_none _),
        iff_of_true rfl (Option.some_ne_none _)⟩
      have hnone : record.decisionId = some decisionId := hsome
      rw [hdecision] at hnone
      cases hnone
    · intro old hgot
      rw [hold old hgot]
      exact ⟨rfl, fun _ hsome => hsome⟩
    · intro _ old hgot
      rw [hold old hgot, hresuppresses]
      constructor
      · rintro (hstatus | hne)
        · exact hstatus
        · exact absurd rfl hne
      · exact fun hstatus => .inl hstatus
    · rintro (hnone | hnone)
      · cases hnone
      · have hnone' : s.records.get? record.candidate.key = none := hnone
        rw [← hkey, hget] at hnone'
        cases hnone'

theorem writes_linkDecision (h : Sound s) (clock : Timestamp)
    (tenantId candidateKey decisionId : String) :
    (s.linkDecision clock tenantId candidateKey decisionId).1 = s ∨
    ∃ record entry, (s.linkDecision clock tenantId candidateKey decisionId).1
        = s.put clock record entry ∧
      Writes s (.linkDecision tenantId candidateKey decisionId) record entry := by
  unfold CandidateStore.linkDecision
  by_cases hid : strip decisionId = ""
  · rw [if_pos hid]
    exact .inl rfl
  · rw [if_neg hid]
    cases hget : s.records.get? (tenantId, candidateKey) with
    | none => exact .inl rfl
    | some record =>
      have hvalid := h.valid _ _ hget
      have hkey : (tenantId, candidateKey) = record.candidate.key := h.keyed _ _ hget
      simp only
      split_ifs with hsettled
      · exact .inl rfl
      · obtain ⟨-, hrest⟩ := not_or.mp hsettled
        obtain ⟨hother, hsame⟩ := not_or.mp hrest
        have hdecision := decisionId_eq_none hvalid fun hne => hother ⟨hne, hsame⟩
        have hold : ∀ old, s.records.get? record.candidate.key = some old → old = record := by
          intro old hgot
          rw [← hkey, hget, Option.some.injEq] at hgot
          exact hgot.symm
        refine .inr ⟨_, _, rfl, ?_, ?_, (fun hnone => by cases hnone), ?_, fun _ => id⟩
        · refine ⟨fun decisionId' hsome => ?_, iff_of_false (by simp) (by simp),
            iff_of_false (by simp) (by simp)⟩
          cases hsome
          exact ⟨rfl, hid⟩
        · intro old hgot
          rw [hold old hgot]
          refine ⟨rfl, fun decisionId' hsome => ?_⟩
          rw [hdecision] at hsome
          cases hsome
        · intro _ old hgot
          rw [hold old hgot, hdecision]
          exact iff_of_true (.inr (by simp)) id

/-- A call leaves the store, or writes one record. -/
theorem candidateStep_writes (h : Sound s) (call : Timestamp × CandidateCall) :
    ((candidateStep s call).1 = s ∧ ¬ Resuppresses s call.2) ∨
      ∃ record reason, (candidateStep s call).1 = s.put call.1 record reason ∧
        Writes s call.2 record reason := by
  obtain ⟨clock, call⟩ := call
  cases call with
  | upsert candidate timestamp => exact .inr ⟨_, _, rfl, writes_upsert h candidate timestamp⟩
  | suppress tenantId candidateKey reason suppressedUntil =>
    exact writes_suppress h clock tenantId candidateKey reason suppressedUntil
  | linkDecision tenantId candidateKey decisionId =>
    exact (writes_linkDecision h clock tenantId candidateKey decisionId).imp (fun he => ⟨he, id⟩) id

end Step

/-! ## Runs -/

section Runs

variable {s : CandidateStore} {clock : Timestamp} {record : CandidateRecord}

theorem entries_put_none (key : String × String) :
    (s.put clock record none).entries key = s.entries key := rfl

theorem entries_put_some (reason : String) (key : String × String) :
    (s.put clock record (some reason)).entries key = if record.candidate.key = key then
      s.entries key ++ [historyEntry clock (s.entries key) record reason] else s.entries key := by
  change CandidateHistory.entries (CandidateHistory.record clock record reason s.history) key = _
  rw [CandidateHistory.entries, CandidateHistory.record, Dict.get?_set]
  split
  · rename_i hkey
    rw [hkey]
    rfl
  · rfl

variable (clock) in
/-- A write keeps the store sound. -/
theorem sound_put (h : Sound s) {call : CandidateCall} {reason : Option String}
    (hw : Writes s call record reason) : Sound (s.put clock record reason) := by
  have hrecords : ∀ key, (s.put clock record reason).records.get? key
      = if record.candidate.key = key then some record else s.records.get? key :=
    fun key => Dict.get?_set _ _ _ _
  refine ⟨Dict.keyedBy_set h.keyed record, ?_, ?_, ?_⟩
  · intro key other hget
    rw [hrecords] at hget
    split_ifs at hget with hkey
    · cases hget
      exact hw.valid
    · exact h.valid key other hget
  · intro key other hget
    rw [hrecords] at hget
    cases reason with
    | none =>
      rw [entries_put_none]
      split_ifs at hget with hkey
      · -- the entry that is the newest one carries this stage
        cases hget
        obtain ⟨old, hold, hstatus, hdecision⟩ := hw.silent rfl
        obtain ⟨entry, hlast, hes, hed⟩ := h.newest _ _ hold
        rw [← hkey]
        exact ⟨entry, hlast, hes.trans hstatus, hed.trans hdecision⟩
      · exact h.newest key other hget
    | some reason =>
      rw [entries_put_some]
      split_ifs at hget with hkey
      · cases hget
        rw [if_pos hkey]
        exact ⟨_, List.getLast?_concat, rfl, rfl⟩
      · rw [if_neg hkey]
        exact h.newest key other hget
  · intro key hget
    rw [hrecords] at hget
    split_ifs at hget with hkey
    cases reason with
    | none => exact h.unseen key hget
    | some reason =>
      rw [entries_put_some, if_neg hkey]
      exact h.unseen key hget

/-- The history of every candidate has no entry with the stage of the one before. -/
def Transitions (s : CandidateStore) : Prop :=
  ∀ key, (s.entries key).IsChain fun a b => Differs a.status b.status a.decisionId b.decisionId

/-- A write keeps the history to transitions exactly when it is no second suppression. -/
theorem transitions_put_iff (h : Sound s) (ht : Transitions s) {call : CandidateCall}
    {reason : Option String} (hw : Writes s call record reason) :
    Transitions (s.put clock record reason) ↔ ¬ Resuppresses s call := by
  cases reason with
  | none => exact iff_of_true ht (hw.quiet (.inl rfl))
  | some reason =>
    have hchain : Transitions (s.put clock record (some reason)) ↔
        ∀ last ∈ (s.entries record.candidate.key).getLast?,
          Differs last.status record.status last.decisionId record.decisionId := by
      constructor
      · intro hall last hlast
        have hkey := hall record.candidate.key
        rw [entries_put_some, if_pos rfl, List.isChain_append] at hkey
        exact hkey.2.2 last hlast _ rfl
      · intro hlast key
        rw [entries_put_some]
        split_ifs with hkey
        · subst hkey
          refine (ht _).append (List.isChain_singleton _) fun last hmem entry hentry => ?_
          cases hentry
          exact hlast last hmem
        · exact ht key
    rw [hchain]
    cases hget : s.records.get? record.candidate.key with
    | none =>
      refine iff_of_true ?_ (hw.quiet (.inr hget))
      rw [h.unseen _ hget]
      intro last hlast
      cases hlast
    | some old =>
      obtain ⟨entry, hlast, hstatus, hdecision⟩ := h.newest _ _ hget
      rw [← hw.logged (by simp) old hget, hlast, ← hstatus, ← hdecision]
      exact ⟨fun hall => hall entry rfl, fun hdiffers last hmem => by cases hmem; exact hdiffers⟩

end Runs

/-- What holds of the records of a run: those there were are there, with their first sight and their
decision. -/
def KeptSince (past : List (Step CandidateStore (Timestamp × CandidateCall)
    (Except Exc (Option CandidateRecord)))) (s : CandidateStore) : Prop :=
  ∀ step ∈ past, ∀ key old, step.after.records.get? key = some old →
    ∃ record, s.records.get? key = some record ∧ Kept old record

section History

variable {s : CandidateStore}

theorem kept_refl (record : CandidateRecord) : Kept record record := ⟨rfl, fun _ h => h⟩

theorem Kept.trans {old record later : CandidateRecord} (h : Kept old record)
    (h' : Kept record later) : Kept old later :=
  ⟨h'.firstSeenAt.trans h.firstSeenAt, fun d hd => h'.decisionId d (h.decisionId d hd)⟩

theorem sound_candidateStep (h : Sound s) (call : Timestamp × CandidateCall) :
    Sound (candidateStep s call).1 := by
  rcases candidateStep_writes h call with ⟨hsame, -⟩ | ⟨record, reason, hput, hw⟩
  · rw [hsame]
    exact h
  · rw [hput]
    exact sound_put _ h hw

theorem kept_candidateStep (h : Sound s) (call : Timestamp × CandidateCall) {key : String × String}
    {old : CandidateRecord} (hget : s.records.get? key = some old) :
    ∃ record, (candidateStep s call).1.records.get? key = some record ∧ Kept old record := by
  rcases candidateStep_writes h call with ⟨hsame, -⟩ | ⟨record, reason, hput, hw⟩
  · rw [hsame]
    exact ⟨old, hget, kept_refl old⟩
  · rw [hput]
    by_cases hkey : record.candidate.key = key
    · subst hkey
      exact ⟨record, Dict.get?_set_self _ _ _, hw.kept old hget⟩
    · exact ⟨old, (Dict.get?_set_ne _ hkey _).trans hget, kept_refl old⟩

theorem keptSince_candidateStep {past} (h : Sound s) (hk : KeptSince past s)
    (call : Timestamp × CandidateCall) :
    KeptSince (past ++ [stepOf candidateStep s call]) (candidateStep s call).1 := by
  intro step hstep key old hget
  rcases List.mem_append.mp hstep with hpast | hnew
  · obtain ⟨record, hrecord, hkept⟩ := hk step hpast key old hget
    obtain ⟨later, hlater, hkept'⟩ := kept_candidateStep h call hrecord
    exact ⟨later, hlater, hkept.trans hkept'⟩
  · rw [List.mem_singleton.mp hnew] at hget
    exact ⟨old, hget, kept_refl old⟩

theorem transitions_candidateStep_iff (h : Sound s) (ht : Transitions s)
    (call : Timestamp × CandidateCall) :
    Transitions (candidateStep s call).1 ↔ ¬ Resuppresses s call.2 := by
  rcases candidateStep_writes h call with ⟨hsame, hnot⟩ | ⟨record, reason, hput, hw⟩
  · rw [hsame]
    exact iff_of_true ht hnot
  · rw [hput]
    exact transitions_put_iff h ht hw

theorem sound_empty : Sound .empty where
  keyed := Dict.keyedBy_empty _
  valid := fun _ _ h => by cases h
  newest := fun _ _ h => by cases h
  unseen := fun _ _ => rfl

end History

/-- The lifecycle of every candidate, after the steps so far: a decision and a first sight stay what
they were, a decision goes with the status `pending`, a suppression with its reason and its expiry, and
the history has one entry per transition, the newest one with the stage of the record. -/
structure Lifecycle (past : List (Step CandidateStore (Timestamp × CandidateCall)
    (Except Exc (Option CandidateRecord)))) (s : CandidateStore) : Prop where
  decision_kept : ∀ step ∈ past, ∀ key old, step.after.records.get? key = some old →
    ∀ decisionId, old.decisionId = some decisionId →
      ∃ record, s.records.get? key = some record ∧ record.decisionId = some decisionId
  firstSeenAt_kept : ∀ step ∈ past, ∀ key old, step.after.records.get? key = some old →
    ∃ record, s.records.get? key = some record ∧ record.firstSeenAt = old.firstSeenAt
  pending : ∀ key record, s.records.get? key = some record → record.decisionId ≠ none →
    record.status = .pending
  suppressed : ∀ key record, s.records.get? key = some record →
    (record.status = .suppressed ↔ record.suppressionReason ≠ none) ∧
      (record.status = .suppressed ↔ record.suppressedUntil ≠ none)
  transitions : ∀ key, (s.entries key).IsChain fun a b =>
    a.status ≠ b.status ∨ a.decisionId ≠ b.decisionId
  newest : ∀ key record, s.records.get? key = some record →
    ∃ entry, (s.entries key).getLast? = some entry ∧ entry.status = record.status ∧
      entry.decisionId = record.decisionId

theorem lifecycle_iff_transitions {past} {s : CandidateStore} (h : Sound s) (hk : KeptSince past s) :
    Lifecycle past s ↔ Transitions s := by
  constructor
  · exact fun hl => hl.transitions
  · intro ht
    refine ⟨?_, ?_, ?_, ?_, ht, h.newest⟩
    · intro step hstep key old hget decisionId hdecision
      obtain ⟨record, hrecord, hkept⟩ := hk step hstep key old hget
      exact ⟨record, hrecord, hkept.decisionId decisionId hdecision⟩
    · intro step hstep key old hget
      obtain ⟨record, hrecord, hkept⟩ := hk step hstep key old hget
      exact ⟨record, hrecord, hkept.firstSeenAt⟩
    · intro key record hget hdecision
      obtain ⟨decisionId, hsome⟩ := Option.ne_none_iff_exists'.mp hdecision
      exact ((h.valid key record hget).pending decisionId hsome).1
    · intro key record hget
      exact ⟨(h.valid key record hget).reason, (h.valid key record hget).expiry⟩

/-- Along a run the lifecycle of every candidate is in order after every call exactly when no call
suppresses a candidate that is suppressed. -/
theorem candidate_lifecycle_iff (calls : List (Timestamp × CandidateCall)) :
    (∀ past step rest, trace candidateStep .empty calls = past ++ step :: rest →
      Lifecycle (past ++ [step]) step.after) ↔
      ∀ step ∈ trace candidateStep .empty calls, ¬ Resuppresses step.before step.input.2 := by
  refine forall_split_iff (f := candidateStep) (H := fun past s => Sound s ∧ KeptSince past s)
    (P := Lifecycle) (C := fun step => ¬ Resuppresses step.before step.input.2) ?_ ?_ ?_ ?_ calls
  · exact ⟨sound_empty, fun _ h => by cases h⟩
  · exact fun past s call h =>
      ⟨sound_candidateStep h.1 call, keptSince_candidateStep h.1 h.2 call⟩
  · refine (lifecycle_iff_transitions sound_empty fun _ h => by cases h).mpr fun key => ?_
    exact List.isChain_nil
  · intro past s call h hl
    have ht := hl.transitions
    rw [lifecycle_iff_transitions (sound_candidateStep h.1 call)
      (keptSince_candidateStep h.1 h.2 call)]
    exact transitions_candidateStep_iff h.1 ht call

/-- A product that has run out. -/
def soldOutMilk : FleetCandidate where
  candidateKey := "379addcdfcd306086740f53a"
  tenantId := "tenant_a"
  dataDomain := "operational_twin"
  candidateType := "low_stock"
  sku := "milk_1"
  lotId := none
  score := ⟨.finite 60, "60.0"⟩
  urgency := ⟨.finite 1, "1.0"⟩
  exposureUnits := 0
  monitoringOnly := false
  evidence := [("name", .str "Milk"), ("reorder_point", .int 10)]

/-- It is observed, suppressed, and suppressed again. -/
def resuppressed : List (Timestamp × CandidateCall) :=
  [(⟨1, "2026-07-01T00:00:01+00:00"⟩, .upsert soldOutMilk "2026-07-01T00:00:01+00:00"),
    (⟨2, "2026-07-01T00:00:02+00:00"⟩, .suppress "tenant_a" soldOutMilk.candidateKey
      "open order covers 10 units; reorder gap is 10" "2026-07-05T00:00:00+00:00"),
    (⟨3, "2026-07-01T00:00:03+00:00"⟩, .suppress "tenant_a" soldOutMilk.candidateKey
      "open order covers 10 units; reorder gap is 10" "2026-07-05T00:00:00+00:00")]

/-- The history repeats a stage. -/
theorem resuppression_repeats_entry :
    ¬ ∀ calls : List (Timestamp × CandidateCall),
      ∀ past step rest, trace candidateStep .empty calls = past ++ step :: rest →
        Lifecycle (past ++ [step]) step.after := by
  intro h
  obtain ⟨past, step, rest, hsplit, hstages⟩ : ∃ past step rest,
      trace candidateStep .empty resuppressed = past ++ step :: rest ∧
        (step.after.entries soldOutMilk.key).map (fun entry => (entry.status, entry.decisionId))
          = [(.new, none), (.suppressed, none), (.suppressed, none)] :=
    ⟨[_, _], _, [], rfl, by decide +kernel⟩
  have hchain := (h resuppressed past step rest hsplit).transitions soldOutMilk.key
  have hmapped : ((step.after.entries soldOutMilk.key).map
      fun entry => (entry.status, entry.decisionId)).IsChain (· ≠ ·) := by
    rw [List.isChain_map]
    refine hchain.imp fun a b hdiffers heq => ?_
    rcases hdiffers with hstatus | hdecision
    · exact hstatus (congrArg Prod.fst heq)
    · exact hdecision (congrArg Prod.snd heq)
  rw [hstages] at hmapped
  revert hmapped
  decide

end ShelfWise.Candidates
