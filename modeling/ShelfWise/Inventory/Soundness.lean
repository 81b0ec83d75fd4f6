import ShelfWise.Inventory.Ledger
import ShelfWise.Sys.Run

/-!
# Soundness of the inventory ledger

A run is any sequence of `upsert` and `project_event` calls on the empty store. `ledger_sound`
says what holds of all of them: no quantity is negative, an event changes the positions at most
once, and a receipt that is neither a duplicate nor an issue accounts for the change its own call
made.

`ProjectOutcome` is the case analysis of one `project_event` call; the run facts are read off it.
-/

namespace ShelfWise.Inventory

open Py Sys

/-! ## One call -/

/-- What a `project_event` call can come to. -/
inductive ProjectOutcome (s : Store) (event : List (String × Value)) :
    Store → Except Exc Projected → Prop
  | ignored (hp : projectionInput event = none) (id : String) :
      ProjectOutcome s event s (.ok (.ignored id))
  | duplicate {p : Projection} {r : Receipt} (hp : projectionInput event = some p)
      (hr : s.projectionReceipts.get? (p.tenantId, p.eventId) = some r) :
      ProjectOutcome s event s (.ok (.receipt { r with status := .duplicate }))
  | refused {p : Projection} (hp : projectionInput event = some p) (e : Exc) :
      ProjectOutcome s event s (.error e)
  | issue {p : Projection} {r : Receipt} (hp : projectionInput event = some p)
      (hr : ReceiptFor p r) (hi : r.status.isIssue = true) :
      ProjectOutcome s event
        ⟨s.positions, s.projectionReceipts.set (p.tenantId, p.eventId) r⟩ (.ok (.receipt r))
  | applied {p : Projection} {r : Receipt} {after : Positions}
      (hp : projectionInput event = some p)
      (hfresh : s.projectionReceipts.get? (p.tenantId, p.eventId) = none)
      (ha : Applied p s.positions after r) :
      ProjectOutcome s event
        ⟨after, s.projectionReceipts.set (p.tenantId, p.eventId) r⟩ (.ok (.receipt r))

variable {s : Store}

theorem projectEvent_outcome (hk : Keyed s.positions) (now : String) (event : List (String × Value)) :
    ProjectOutcome s event (s.projectEvent now event).1 (s.projectEvent now event).2 := by
  unfold Store.projectEvent
  cases hp : projectionInput event with
  | none => exact .ignored hp _
  | some p =>
    simp only
    cases hr : s.projectionReceipts.get? (p.tenantId, p.eventId) with
    | some r => exact .duplicate hp hr
    | none =>
      simp only
      cases hi : p.issue with
      | some i =>
        rw [applyProjection_issue hi]
        exact .issue hp (receiptFor_projectionReceipt ..) rfl
      | none =>
        obtain ⟨quantity, hq⟩ := accepted_of_projectionInput hp hi
        rcases applyProjection_spec now hk hq with ⟨e, he⟩ | ⟨after, r, he, ha⟩
        · rw [he]
          exact .refused hp e
        · rw [he]
          exact .applied hp hr ha

variable {now : String} {event : List (String × Value)}

/-- A call that raises leaves the store as it is. -/
theorem projectEvent_error (hk : Keyed s.positions) {e : Exc}
    (h : (s.projectEvent now event).2 = .error e) : (s.projectEvent now event).1 = s := by
  have ho := projectEvent_outcome hk now event
  generalize s.projectEvent now event = out at ho h
  obtain ⟨s', answer⟩ := out
  cases ho with
  | refused hp e => rfl
  | ignored hp id | duplicate hp hr | issue hp hr hi | applied hp hfresh ha => cases h

/-- Projecting an event again, at whatever time, leaves the store as it is. -/
theorem projectEvent_again (hk : Keyed s.positions) {r : Projected}
    (h : (s.projectEvent now event).2 = .ok r) (now' : String) :
    ((s.projectEvent now event).1.projectEvent now' event).1 = (s.projectEvent now event).1 := by
  have ho := projectEvent_outcome hk now event
  generalize s.projectEvent now event = out at ho h
  obtain ⟨s', answer⟩ := out
  cases ho with
  | ignored hp id =>
    unfold Store.projectEvent
    rw [hp]
  | duplicate hp hr =>
    unfold Store.projectEvent
    simp only [hp, hr]
  | refused hp e => cases h
  | issue hp hr hi =>
    unfold Store.projectEvent
    simp only [hp, Dict.get?_set_self]
  | applied hp hfresh ha =>
    unfold Store.projectEvent
    simp only [hp, Dict.get?_set_self]

/-! ## Calls -/

/-- A call of the store, with the clock it reads. -/
inductive Call where
  | upsert (now : String) (value : List (String × Value))
  | projectEvent (now : String) (event : List (String × Value))

/-- What a call returns or raises. -/
inductive Answer where
  | upserted (r : Except Exc Position)
  | projected (r : Except Exc Projected)

/-- One call. -/
def Store.step (s : Store) : Call → Store × Answer
  | .upsert now value => ((s.upsert now value).1, .upserted (s.upsert now value).2)
  | .projectEvent now event => ((s.projectEvent now event).1, .projected (s.projectEvent now event).2)

theorem stepOf_upsert (s : Store) (now : String) (value : List (String × Value)) :
    stepOf Store.step s (.upsert now value)
      = ⟨s, .upsert now value, (s.upsert now value).1, .upserted (s.upsert now value).2⟩ := by
  simp only [stepOf, Store.step]

theorem stepOf_projectEvent (s : Store) (now : String) (event : List (String × Value)) :
    stepOf Store.step s (.projectEvent now event)
      = ⟨s, .projectEvent now event, (s.projectEvent now event).1,
        .projected (s.projectEvent now event).2⟩ := by
  simp only [stepOf, Store.step]

/-- The tenant and event id under which a call's receipt is kept. -/
def Call.eventKey : Call → Option (String × String)
  | .upsert _ _ => none
  | .projectEvent _ event => (projectionInput event).map fun p => (p.tenantId, p.eventId)

/-- The receipt of an answer that reports that its own call applied the event. -/
def Answer.appliedReceipt : Answer → Option Receipt
  | .projected (.ok (.receipt r)) =>
    if r.status = .duplicate ∨ r.status.isIssue = true then none else some r
  | _ => none

theorem keyed_upsert (hk : Keyed s.positions) (now : String) (value : List (String × Value)) :
    Keyed (s.upsert now value).1.positions := by
  unfold Store.upsert
  cases position now value with
  | error e => exact hk
  | ok p => exact keyed_set hk (names_key p)

theorem keyed_projectEvent (hk : Keyed s.positions) (now : String) (event : List (String × Value)) :
    Keyed (s.projectEvent now event).1.positions := by
  have h := projectEvent_outcome hk now event
  generalize s.projectEvent now event = out at h
  obtain ⟨s', answer⟩ := out
  cases h with
  | ignored hp id => exact hk
  | duplicate hp hr => exact hk
  | refused hp e => exact hk
  | issue hp hr hi => exact hk
  | applied hp hfresh ha => exact ha.keyed

theorem keyed_step (s : Store) (c : Call) (hk : Keyed s.positions) :
    Keyed (s.step c).1.positions := by
  cases c with
  | upsert now value =>
    simp only [Store.step]
    exact keyed_upsert hk now value
  | projectEvent now event =>
    simp only [Store.step]
    exact keyed_projectEvent hk now event

/-! ## An event changes the positions at most once -/

/-- The step is a call for the event that changed the positions. -/
def changesFor (k : String × String) (step : Step Store Call Answer) : Bool :=
  step.input.eventKey = some k ∧ step.after.positions ≠ step.before.positions

variable {k : String × String}

theorem changesFor_iff {step : Step Store Call Answer} :
    changesFor k step = true ↔
      step.input.eventKey = some k ∧ step.after.positions ≠ step.before.positions := by
  simp [changesFor]

/-- The receipt that rules out another application of the event. -/
def HasReceipt (k : String × String) (s : Store) : Prop :=
  ∃ r, s.projectionReceipts.get? k = some r

theorem hasReceipt_set {k k' : String × String} (h : HasReceipt k s) (positions : Positions)
    (r : Receipt) : HasReceipt k ⟨positions, s.projectionReceipts.set k' r⟩ := by
  unfold HasReceipt
  rw [Dict.get?_set]
  split
  · exact ⟨r, rfl⟩
  · exact h

theorem hasReceipt_step (k : String × String) (s : Store) (c : Call) (h : HasReceipt k s) :
    HasReceipt k (s.step c).1 := by
  cases c with
  | upsert now value =>
    simp only [Store.step, Store.upsert]
    cases position now value <;> exact h
  | projectEvent now event =>
    simp only [Store.step, Store.projectEvent]
    cases projectionInput event with
    | none => exact h
    | some p =>
      simp only
      cases s.projectionReceipts.get? (p.tenantId, p.eventId) with
      | some r => exact h
      | none =>
        simp only
        obtain ⟨positions, e | r⟩ := applyProjection now s.positions p
        · exact h
        · exact hasReceipt_set h positions r

theorem hasReceipt_of_changesFor (k : String × String) (s : Store) (c : Call)
    (hk : Keyed s.positions) (h : changesFor k (stepOf Store.step s c) = true) :
    HasReceipt k (s.step c).1 := by
  obtain ⟨hkey, hchange⟩ := changesFor_iff.mp h
  cases c with
  | upsert now value => cases hkey
  | projectEvent now event =>
    have hout := projectEvent_outcome hk now event
    rw [stepOf_projectEvent] at hkey hchange
    simp only [Store.step, Call.eventKey] at hkey hchange ⊢
    generalize s.projectEvent now event = out at hout hchange ⊢
    obtain ⟨s', answer⟩ := out
    cases hout with
    | ignored hp id => exact absurd rfl hchange
    | duplicate hp hr => exact absurd rfl hchange
    | refused hp e => exact absurd rfl hchange
    | issue hp hr hi => exact absurd rfl hchange
    | applied hp hfresh ha =>
      rw [hp] at hkey
      cases hkey
      exact ⟨_, Dict.get?_set_self _ _ _⟩

theorem not_changesFor_of_hasReceipt (k : String × String) (s : Store) (c : Call)
    (h : HasReceipt k s) : changesFor k (stepOf Store.step s c) = false := by
  rw [Bool.eq_false_iff]
  intro hc
  obtain ⟨hkey, hchange⟩ := changesFor_iff.mp hc
  cases c with
  | upsert now value => cases hkey
  | projectEvent now event =>
    obtain ⟨r, hr⟩ := h
    rw [stepOf_projectEvent] at hkey hchange
    obtain ⟨p, hp, rfl⟩ := Option.map_eq_some_iff.mp hkey
    simp only [Store.projectEvent, hp, hr, ne_eq, not_true_eq_false] at hchange

/-! ## Receipts and the calls that wrote them -/

/-- Every stored receipt is the answer of an earlier call. -/
def ReceiptsAnswered (past : List (Step Store Call Answer)) (s : Store) : Prop :=
  Keyed s.positions ∧ ∀ k r, s.projectionReceipts.get? k = some r →
    ∃ first ∈ past, first.output = .projected (.ok (.receipt r))

variable {past : List (Step Store Call Answer)}

theorem receiptsAnswered_set (h : ReceiptsAnswered past s) {positions : Positions}
    (hk : Keyed positions) {r : Receipt} {step : Step Store Call Answer}
    (hstep : step.output = .projected (.ok (.receipt r))) :
    ReceiptsAnswered (past ++ [step]) ⟨positions, s.projectionReceipts.set k r⟩ := by
  refine ⟨hk, fun k' r' hget => ?_⟩
  change (s.projectionReceipts.set k r).get? k' = some r' at hget
  rw [Dict.get?_set] at hget
  split at hget
  · cases hget
    exact ⟨step, by simp, hstep⟩
  · obtain ⟨first, hmem, hout⟩ := h.2 k' r' hget
    exact ⟨first, List.mem_append_left _ hmem, hout⟩

theorem receiptsAnswered_step (past : List (Step Store Call Answer)) (s : Store) (c : Call)
    (h : ReceiptsAnswered past s) :
    ReceiptsAnswered (past ++ [stepOf Store.step s c]) (s.step c).1 := by
  -- a call that stores no receipt keeps the fact for a longer past
  have hkeep : ∀ s' : Store, Keyed s'.positions → s'.projectionReceipts = s.projectionReceipts →
      ReceiptsAnswered (past ++ [stepOf Store.step s c]) s' := by
    intro s' hk hr
    refine ⟨hk, fun k r hget => ?_⟩
    obtain ⟨first, hmem, hout⟩ := h.2 k r (hr ▸ hget)
    exact ⟨first, List.mem_append_left _ hmem, hout⟩
  cases c with
  | upsert now value =>
    simp only [Store.step]
    refine hkeep _ (keyed_upsert h.1 now value) ?_
    simp only [Store.upsert]
    cases position now value <;> rfl
  | projectEvent now event =>
    have hout := projectEvent_outcome h.1 now event
    have hanswer : (stepOf Store.step s (.projectEvent now event)).output
        = .projected (s.projectEvent now event).2 := by rw [stepOf_projectEvent]
    simp only [Store.step]
    generalize stepOf Store.step s (.projectEvent now event) = step at hkeep hanswer ⊢
    generalize s.projectEvent now event = out at hout hanswer ⊢
    obtain ⟨s', answer⟩ := out
    cases hout with
    | ignored hp id => exact hkeep _ h.1 rfl
    | duplicate hp hr => exact hkeep _ h.1 rfl
    | refused hp e => exact hkeep _ h.1 rfl
    | issue hp hr hi => exact receiptsAnswered_set h h.1 hanswer
    | applied hp hfresh ha => exact receiptsAnswered_set h ha.keyed hanswer

/-! ## Soundness -/

/-- What the ledger promises about one step of a run, given the steps before it. -/
structure SoundStep (past : List (Step Store Call Answer)) (step : Step Store Call Answer) :
    Prop where
  /-- A fresh receipt is about the event of the call and accounts for the change. -/
  accounts : ∀ r, step.output.appliedReceipt = some r →
    Accounts step.before.positions step.after.positions r ∧
      ∃ now event p, step.input = .projectEvent now event ∧ projectionInput event = some p ∧
        ReceiptFor p r
  /-- A duplicate repeats the receipt of an earlier call. -/
  duplicate : ∀ r, step.output = .projected (.ok (.receipt r)) → r.status = .duplicate →
    ∃ first ∈ past, ∃ r', first.output = .projected (.ok (.receipt r')) ∧
      r = { r' with status := .duplicate }
  /-- An ignored, duplicate, refused or failed event leaves the positions alone. -/
  unchanged : ∀ now event, step.input = .projectEvent now event →
    step.output.appliedReceipt = none → step.after.positions = step.before.positions

theorem soundStep_of_receiptsAnswered (h : ReceiptsAnswered past s) (c : Call) :
    SoundStep past (stepOf Store.step s c) := by
  cases c with
  | upsert now value =>
    rw [stepOf_upsert]
    refine ⟨fun r hr => ?_, fun r hr _ => ?_, fun now event he => ?_⟩
    · simp [Answer.appliedReceipt] at hr
    · cases hr
    · cases he
  | projectEvent now event =>
    have hout := projectEvent_outcome h.1 now event
    rw [stepOf_projectEvent]
    generalize s.projectEvent now event = out at hout ⊢
    obtain ⟨s', answer⟩ := out
    cases hout with
    | ignored hp id =>
      refine ⟨fun r hr => ?_, fun r hr _ => ?_, fun _ _ _ _ => rfl⟩
      · simp [Answer.appliedReceipt] at hr
      · cases hr
    | refused hp e =>
      refine ⟨fun r hr => ?_, fun r hr _ => ?_, fun _ _ _ _ => rfl⟩
      · simp [Answer.appliedReceipt] at hr
      · cases hr
    | @duplicate p r hp hr =>
      refine ⟨fun r' hr' => ?_, fun r' hr' _ => ?_, fun _ _ _ _ => rfl⟩
      · simp [Answer.appliedReceipt] at hr'
      · cases hr'
        obtain ⟨first, hmem, hfirst⟩ := h.2 _ r hr
        exact ⟨first, hmem, r, hfirst, rfl⟩
    | @issue p r hp hr hi =>
      refine ⟨fun r' hr' => ?_, fun r' hr' hd => ?_, fun _ _ _ _ => rfl⟩
      · simp [Answer.appliedReceipt, hi] at hr'
      · cases hr'
        rw [hd] at hi
        cases hi
    | @applied p r after hp hfresh ha =>
      refine ⟨fun r' hr' => ?_, fun r' hr' hd => ?_, fun _ _ _ hnone => ?_⟩
      · simp only [Answer.appliedReceipt, ha.status, or_self, if_false, Bool.false_eq_true,
          Option.some.injEq] at hr'
        subst hr'
        exact ⟨ha.accounts, now, event, p, rfl, hp, ha.receiptFor⟩
      · cases hr'
        exact absurd hd ha.status.2
      · simp [Answer.appliedReceipt, ha.status] at hnone

/-- Soundness of the ledger, for every run of calls on the empty store. -/
theorem ledger_sound (calls : List Call) :
    (∀ k p, (final Store.step .empty calls).positions.get? k = some p → 0 ≤ p.quantity) ∧
    (∀ k, (trace Store.step .empty calls).countP (changesFor k) ≤ 1) ∧
    ∀ past step rest, trace Store.step .empty calls = past ++ step :: rest →
      SoundStep past step := by
  refine ⟨fun k p _ => p.quantity_nonneg, fun k => ?_, fun past step rest hsplit => ?_⟩
  · exact countP_le_one (I := fun s => Keyed s.positions) keyed_step (hasReceipt_of_changesFor k)
      (hasReceipt_step k) (not_changesFor_of_hasReceipt k) keyed_empty calls
  · have hhistory := history_of_split receiptsAnswered_step []
      (⟨keyed_empty, fun _ _ hget => nomatch hget⟩ : ReceiptsAnswered [] Store.empty) hsplit
    have hmem : step ∈ trace Store.step .empty calls := by
      rw [hsplit]
      exact List.mem_append_right _ List.mem_cons_self
    rw [(invariant_of_mem_trace (I := fun _ => True) (fun _ _ _ => trivial) trivial hmem).2]
    exact soundStep_of_receiptsAnswered hhistory _

end ShelfWise.Inventory
