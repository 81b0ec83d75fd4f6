import ShelfWise.Sys.Run
import ShelfWise.Worker.Plans

/-!
# The runs of the journal

`_event_run_id` of `shelfwise_backend/worker/worker.py` and `_plan_run_id` of `plans.py` name a run
of the journal by the tenant, the domain and the id of its work, joined with colons that the parts
may have too. `runId_eq_iff` says exactly which work shares a run.

The journal knows a run by that name alone. `run_identity_iff` says when two works have runs of their
own, and that a work which shares its run with none of a sequence of calls finds the answers it would
find without them.
-/

namespace ShelfWise.Worker

open Py Sys

/-! ## Works -/

/-- What makes an event or a plan another one. -/
structure WorkId where
  tenantId : String
  dataDomain : DataDomain
  id : String
deriving DecidableEq

/-- What an event is for the journal. -/
def eventWork (event : Event) : WorkId := ⟨event.tenantId, event.dataDomain, event.id⟩

/-- What a plan is for the journal. -/
def planWork (plan : Plan) : WorkId := ⟨plan.tenantId, plan.dataDomain, plan.planId⟩

/-- `_event_run_id`. -/
def eventRunId (event : Event) : String :=
  "event:" ++ event.tenantId ++ ":" ++ event.dataDomain.value ++ ":" ++ event.id

/-- What a run is about. -/
inductive WorkKind where
  | event
  | plan
deriving DecidableEq

/-- How the run of a kind begins. -/
def WorkKind.label : WorkKind → String
  | .event => "event:"
  | .plan => "plan:"

/-- A work of either kind. -/
@[ext] structure Work where
  kind : WorkKind
  subject : WorkId
deriving DecidableEq

/-- The run of a work. -/
def Work.runId (w : Work) : String :=
  w.kind.label ++ w.subject.tenantId ++ ":" ++ w.subject.dataDomain.value ++ ":" ++ w.subject.id

theorem eventRunId_eq (event : Event) :
    eventRunId event = Work.runId ⟨.event, eventWork event⟩ := rfl

theorem planRunId_eq (plan : Plan) : planRunId plan = Work.runId ⟨.plan, planWork plan⟩ := rfl

/-- The tenant of `w` looks like the tenant and the domain of `w'`, and the id of `w'` like the domain
and the id of `w`, perhaps with some text `v` between them. -/
def WorkId.Absorbs (w w' : WorkId) : Prop :=
  (w.tenantId = w'.tenantId ++ ":" ++ w'.dataDomain.value ∧
    w'.id = w.dataDomain.value ++ ":" ++ w.id) ∨
  ∃ v, w.tenantId = w'.tenantId ++ ":" ++ w'.dataDomain.value ++ ":" ++ v ∧
    w'.id = v ++ ":" ++ w.dataDomain.value ++ ":" ++ w.id

/-- The colons cannot tell the works apart. -/
def WorkId.Confused (w w' : WorkId) : Prop := w.Absorbs w' ∨ w'.Absorbs w

/-! ## Equal runs -/

theorem colon_not_mem_value (d : DataDomain) : ':' ∉ d.value.toList := by
  cases d <;> decide

theorem dataDomain_value_inj {d d' : DataDomain} (h : d.value.toList = d'.value.toList) :
    d = d' := by
  revert h
  cases d <;> cases d' <;> decide

/-- What stands behind the kind of a work. -/
def WorkId.parts (w : WorkId) : List Char :=
  w.tenantId.toList ++ ':' :: (w.dataDomain.value.toList ++ ':' :: w.id.toList)

/-- The tenant of one work goes on where the tenant of the other one ends. -/
theorem absorbs_iff_parts (w w' : WorkId) :
    (∃ x, w.tenantId.toList = w'.tenantId.toList ++ ':' :: x ∧
      w'.dataDomain.value.toList ++ ':' :: w'.id.toList =
        x ++ ':' :: (w.dataDomain.value.toList ++ ':' :: w.id.toList)) ↔ w.Absorbs w' := by
  unfold WorkId.Absorbs
  simp only [← String.toList_inj, String.toList_append]
  constructor
  · rintro ⟨x, htenant, hid⟩
    rcases (append_cons_eq_iff ':' _ _ _ _).mp hid with ⟨rfl, hid⟩ | ⟨y, hdomain, -⟩ | ⟨y, rfl, hid⟩
    · exact .inl ⟨by simpa using htenant, by simpa using hid⟩
    · -- a domain has no colon
      exact absurd (hdomain ▸ by simp) (colon_not_mem_value w'.dataDomain)
    · refine .inr ⟨String.ofList y, ?_, ?_⟩
      · simpa using htenant
      · simpa using hid
  · rintro (⟨htenant, hid⟩ | ⟨v, htenant, hid⟩)
    · exact ⟨w'.dataDomain.value.toList, by simpa using htenant, by simp [hid]⟩
    · exact ⟨w'.dataDomain.value.toList ++ ':' :: v.toList, by simpa using htenant, by simp [hid]⟩

theorem parts_eq_iff (w w' : WorkId) : w.parts = w'.parts ↔ w = w' ∨ w.Confused w' := by
  unfold WorkId.parts WorkId.Confused
  rw [append_cons_eq_iff, absorbs_iff_parts, absorbs_iff_parts]
  refine or_congr_left ?_
  constructor
  · rintro ⟨htenant, hrest⟩
    rcases (append_cons_eq_iff ':' _ _ _ _).mp hrest with ⟨hdomain, hid⟩ | ⟨x, hdomain, -⟩ |
      ⟨x, hdomain, -⟩
    · obtain ⟨tenant, domain, id⟩ := w
      obtain ⟨tenant', domain', id'⟩ := w'
      cases String.toList_inj.mp htenant
      cases dataDomain_value_inj hdomain
      cases String.toList_inj.mp hid
      rfl
    · exact absurd (hdomain ▸ by simp) (colon_not_mem_value w.dataDomain)
    · exact absurd (hdomain ▸ by simp) (colon_not_mem_value w'.dataDomain)
  · rintro rfl
    exact ⟨rfl, rfl⟩

theorem toList_runId (w : Work) : w.runId.toList = w.kind.label.toList ++ w.subject.parts := by
  simp [Work.runId, WorkId.parts, String.toList_append]

/-- Two works share a run exactly when they are of one kind, and the same or confused. -/
theorem runId_eq_iff (w w' : Work) : w.runId = w'.runId ↔
    w.kind = w'.kind ∧ (w.subject = w'.subject ∨ w.subject.Confused w'.subject) := by
  rw [← String.toList_inj, toList_runId, toList_runId]
  by_cases hkind : w.kind = w'.kind
  · rw [hkind, List.append_cancel_left_eq, parts_eq_iff]
    exact (and_iff_right rfl).symm
  · refine iff_of_false (fun h => ?_) fun h => hkind h.1
    -- the kinds begin with different letters
    revert h hkind
    cases w.kind <;> cases w'.kind <;> simp [WorkKind.label]

/-! ## Answers of the journal -/

/-- A call of `journaled`, with the output its function would give. -/
structure JournalCall where
  work : Work
  stepKey : String
  output : Items
  compensation : Option Items

/-- A call, with its answer. -/
def journalStep (j : Journal) (call : JournalCall) : Journal × Items :=
  (j.journaled call.work.runId call.stepKey call.output call.compensation,
    (j.get call.work.runId call.stepKey).getD call.output)

/-- Calls of works with other runs do not show in a run. -/
theorem get_final_own (w : Work) {calls : List JournalCall}
    (h : ∀ call ∈ calls, call.work.runId = w.runId → call.work = w) {j j' : Journal}
    (hsame : ∀ key, j.get w.runId key = j'.get w.runId key) (key : String) :
    (final journalStep j calls).get w.runId key =
      (final journalStep j' (calls.filter fun call => call.work = w)).get w.runId key := by
  induction calls generalizing j j' with
  | nil => exact hsame key
  | cons call calls ih =>
    have hrest := fun c hc => h c (List.mem_cons_of_mem call hc)
    rw [final_cons]
    by_cases hown : call.work = w
    · rw [List.filter_cons_of_pos (by simpa using hown), final_cons]
      refine ih hrest fun k => ?_
      simp only [journalStep, Journal.get_journaled, hsame k]
    · rw [List.filter_cons_of_neg (by simpa using hown)]
      refine ih hrest fun k => ?_
      have hrun : call.work.runId ≠ w.runId := fun heq => hown (h call List.mem_cons_self heq)
      simp only [journalStep, Journal.get_journaled]
      rw [if_neg fun heq => hrun (congrArg Prod.fst heq)]
      exact hsame k

/-- **Runs of the journal.** Two different events, and two different plans, have different runs
exactly when they are not confused; an event and a plan always have. Where a work is confused with
none of its kind, its calls are answered as if there were no others. -/
theorem run_identity_iff (e e' : Event) (p p' : Plan) (calls : List JournalCall)
    (call : JournalCall) :
    (eventWork e ≠ eventWork e' →
      (eventRunId e ≠ eventRunId e' ↔ ¬ (eventWork e).Confused (eventWork e'))) ∧
    (planWork p ≠ planWork p' →
      (planRunId p ≠ planRunId p' ↔ ¬ (planWork p).Confused (planWork p'))) ∧
    eventRunId e ≠ planRunId p ∧
    ((∀ other ∈ calls, other.work.kind = call.work.kind →
        ¬ other.work.subject.Confused call.work.subject) →
      (journalStep (final journalStep .empty calls) call).2 = (journalStep
        (final journalStep .empty (calls.filter fun other => other.work = call.work)) call).2) := by
  refine ⟨fun hne => ?_, fun hne => ?_, fun h => ?_, fun hapart => ?_⟩
  · rw [ne_eq, eventRunId_eq, eventRunId_eq, runId_eq_iff]
    simp [hne]
  · rw [ne_eq, planRunId_eq, planRunId_eq, runId_eq_iff]
    simp [hne]
  · rw [eventRunId_eq, planRunId_eq, runId_eq_iff] at h
    cases h.1
  · have hown : ∀ other ∈ calls, other.work.runId = call.work.runId → other.work = call.work := by
      intro other hother hrun
      obtain ⟨hkind, hsubject | hconfused⟩ := (runId_eq_iff _ _).mp hrun
      · exact Work.ext hkind hsubject
      · exact absurd hconfused (hapart other hother hkind)
    have hget := get_final_own call.work hown (j := Journal.empty) (fun _ => rfl) call.stepKey
    exact congrArg (fun answer => answer.getD call.output) hget

-- the texts of the two events
theorem acme_ne : "acme" ≠ "" := by decide

theorem acmeTwin_ne : "acme:operational_twin" ≠ "" := by decide

theorem e1_ne : "e1" ≠ "" := by decide

theorem domainE1_ne : "operational_twin:e1" ≠ "" := by decide

/-- An event of a tenant whose id begins like a domain. -/
def acmeEvent : Event where
  id := "operational_twin:e1"
  type := .scan
  ts := ⟨0, "2026-07-01T00:00:00+00:00"⟩
  actor := "scanner"
  payload := []
  source := .scanner
  tenantId := "acme"
  dataDomain := .operationalTwin
  correlationId := "e1"
  causationId := none
  schemaVersion := "v1"
  id_ne := domainE1_ne
  actor_ne := scanner_ne
  tenantId_ne := acme_ne
  correlationId_ne := e1_ne

/-- An event of another tenant, whose name ends like that domain. -/
def acmeTwinEvent : Event where
  id := "e1"
  type := .scan
  ts := ⟨0, "2026-07-01T00:00:00+00:00"⟩
  actor := "scanner"
  payload := []
  source := .scanner
  tenantId := "acme:operational_twin"
  dataDomain := .operationalTwin
  correlationId := "e1"
  causationId := none
  schemaVersion := "v1"
  id_ne := e1_ne
  actor_ne := scanner_ne
  tenantId_ne := acmeTwin_ne
  correlationId_ne := e1_ne

/-- Two events of different tenants with one run. -/
theorem run_identity_confused : ¬ ∀ e e' : Event, eventWork e ≠ eventWork e' →
    eventRunId e ≠ eventRunId e' := by
  intro h
  refine h acmeEvent acmeTwinEvent (by decide) ?_
  decide +kernel

end ShelfWise.Worker
