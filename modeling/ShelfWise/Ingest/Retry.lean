import ShelfWise.Ingest.Pipeline
import ShelfWise.Inventory.Soundness
import ShelfWise.Twin.Script

/-!
# Ingest retries

A call of `record_pipeline_event` may die or raise after any of its steps, and is then repeated with
the same event until it returns. Up to `mark_published` a retry does what the call before it left
undone. The cascade comes after that step: a retry finds the event published, answers `duplicate`
and does not come to the cascade, so that the decision of an attempt that died there is never
stored.

`retry_completes_iff` says for every event and every sequence of attempts when the stores end up as
one uninterrupted call leaves them. Every attempt reads a clock of its own, so that "as one
uninterrupted call" is up to the time at which each of its steps reads the clock.
-/

namespace ShelfWise.Ingest

open Py Sys

/-! ## What an uninterrupted call does -/

/-- The decisions after the cascade for an event in a state of the stores. -/
def cascaded (env : Pipeline) (now : Timestamp) (event : Event) (s : IngestState) :
    Decisions.Store := ((cascadeForEvent env now event).run s).1.decisions

/-- The ledger has taken up the event once. -/
def Applied (event : Event) (before after : Inventory.Store) : Prop :=
  ∃ now r, (before.projectEvent now event.toDict).2 = .ok r ∧
    (before.projectEvent now event.toDict).1 = after

/-- The twin has taken up the event once. -/
def Projected (env : Pipeline) (event : Event) (before after : Twin.TwinStore) : Prop :=
  ∃ now, ((Twin.projectEvent env.twinService now event).run before).1 = after

/-- The event has reached every store up to the cascade, and the bus. -/
structure Delivered (env : Pipeline) (event : Event) (s₀ s : IngestState) : Prop where
  recorded : ∃ now, s.events = (s₀.events.record now event).1.markPublished (eventKey event)
  observed : s.orders = (observeEvent env.utcIso event s₀.orders).1
  applied : Applied event s₀.inventory s.inventory
  projected : Projected env event s₀.twin s.twin
  onBus : ∃ message ∈ s.bus, message.stream = streamName event.tenantId ∧
    message.event = event.toDict

/-- One uninterrupted call has been made: the event is delivered, and the decision its cascade
produces is stored. -/
structure Completed (env : Pipeline) (event : Event) (s₀ s : IngestState) : Prop
    extends Delivered env event s₀ s where
  decided : ∃ now, s.decisions = cascaded env now event { s with decisions := s₀.decisions }

/-! ## The states between attempts -/

/-- The state before the first attempt: the event is new, and the inventory is one its calls can
lead to. -/
structure Unseen (event : Event) (s : IngestState) : Prop where
  unrecorded : s.events.events.contains (eventKey event) = false
  unpublished : eventKey event ∉ s.events.published
  reachable : ∃ calls, s.inventory = final Inventory.Store.step .empty calls

/-- The event is not published: each store is as it was or as its step leaves it. -/
structure Waiting (env : Pipeline) (event : Event) (s₀ s : IngestState) : Prop where
  recorded : s.events = s₀.events ∨ ∃ now, s.events = (s₀.events.record now event).1
  observed : s.orders = s₀.orders ∨ s.orders = (observeEvent env.utcIso event s₀.orders).1
  applied : s.inventory = s₀.inventory ∨ Applied event s₀.inventory s.inventory
  projected : s.twin = s₀.twin ∨ Projected env event s₀.twin s.twin
  kept : s.decisions = s₀.decisions

/-- The event is delivered, and the decisions are as they were. -/
structure Undecided (env : Pipeline) (event : Event) (s₀ s : IngestState) : Prop
    extends Delivered env event s₀ s where
  kept : s.decisions = s₀.decisions

/-- What holds where an attempt dies, given the step it dies before. -/
def DeathPoint (env : Pipeline) (event : Event) (s₀ : IngestState) (label : IngestOp)
    (s : IngestState) : Prop :=
  if label = .dispatch ∨ label = .upsertDecision then Undecided env event s₀ s
  else Waiting env event s₀ s

/-- What holds where an attempt ends. -/
def Outcome (env : Pipeline) (event : Event) (s₀ : IngestState) :
    Except Exc IngestReceipt → IngestState → Prop
  | .ok _, s => Completed env event s₀ s
  | .error _, s => Waiting env event s₀ s ∨ Completed env event s₀ s

section Steps

variable {env : Pipeline} {event : Event} {s₀ s : IngestState}

theorem Unseen.keyed (h : Unseen event s) : Inventory.Keyed s.inventory.positions := by
  obtain ⟨calls, hcalls⟩ := h.reachable
  rw [hcalls]
  exact invariant_final (I := fun s : Inventory.Store => Inventory.Keyed s.positions)
    Inventory.keyed_step Inventory.keyed_empty calls

theorem waiting_refl (env : Pipeline) (event : Event) (s : IngestState) :
    Waiting env event s s := ⟨.inl rfl, .inl rfl, .inl rfl, .inl rfl, rfl⟩

theorem Undecided.deathPoint (h : Undecided env event s₀ s) {label : IngestOp}
    (hl : label = .dispatch ∨ label = .upsertDecision) : DeathPoint env event s₀ label s := by
  unfold DeathPoint
  rw [if_pos hl]
  exact h

theorem Waiting.deathPoint (h : Waiting env event s₀ s) {label : IngestOp}
    (hl : ¬ (label = .dispatch ∨ label = .upsertDecision)) : DeathPoint env event s₀ label s := by
  unfold DeathPoint
  rw [if_neg hl]
  exact h

/-! ## The cascade -/

theorem run_cascadeForEvent (env : Pipeline) (now : Timestamp) (event : Event) (s : IngestState) :
    ((cascadeForEvent env now event).run s).1
      = { s with decisions := cascaded env now event s } := by
  unfold cascaded cascadeForEvent Program.bindExcept
  simp only [Program.run_bind, Program.run_call]
  cases dispatch env.cascades event s.inventory s.twin with
  | error e => rfl
  | ok result =>
    cases result with
    | none => rfl
    | some result =>
      simp only [Program.run_bind, recordCascade]
      cases env.attachGovernance (withDataDomain result) with
      | error e => rfl
      | ok result =>
        simp only
        cases storedDecision result with
        | none => rfl
        | some decision =>
          simp only [Program.bindExcept, Program.run_bind, Program.run_call]
          cases (upsertDecision now decision s).2 with
          | error e => rfl
          | ok record => rfl

theorem through_recordCascade (env : Pipeline) (now : Timestamp) (result : CascadeResult)
    (s : IngestState) :
    (recordCascade env now result).Through (fun label s' => label = .upsertDecision ∧ s' = s)
      (fun _ _ => True) s := by
  unfold recordCascade
  cases env.attachGovernance (withDataDomain result) with
  | error e => trivial
  | ok result =>
    simp only
    cases storedDecision result with
    | none => trivial
    | some decision =>
      refine Program.through_call_bindExcept ⟨rfl, rfl⟩ ?_
      cases (upsertDecision now decision s).2 with
      | error e => trivial
      | ok record => trivial

/-- A cascade can die before it is dispatched and before its decision is stored, and up to then it
has done nothing. -/
theorem through_cascadeForEvent (env : Pipeline) (now : Timestamp) (event : Event)
    (s : IngestState) :
    (cascadeForEvent env now event).Through
      (fun label s' => (label = .dispatch ∨ label = .upsertDecision) ∧ s' = s)
      (fun _ s' => s' = { s with decisions := cascaded env now event s }) s := by
  have hpoints : (cascadeForEvent env now event).Through
      (fun label s' => (label = .dispatch ∨ label = .upsertDecision) ∧ s' = s)
      (fun _ _ => True) s := by
    refine Program.through_call_bindExcept ⟨.inl rfl, rfl⟩ ?_
    simp only
    cases dispatch env.cascades event s.inventory s.twin with
    | error e => trivial
    | ok result =>
      cases result with
      | none => trivial
      | some result =>
        refine Program.through_bindExcept ((through_recordCascade env now result s).mono
          (fun label s' h => ⟨.inr h.1, h.2⟩) fun r s' _ => ?_)
        cases r with
        | error e => trivial
        | ok result => trivial
  refine (Program.through_exact hpoints).mono (fun _ _ h => h) fun r s' h => ?_
  rw [← run_cascadeForEvent, h]

/-! ## A call on an event that is not published -/

/-- The event has been taken up by every store before the publication. -/
structure Processed (env : Pipeline) (event : Event) (s₀ s : IngestState) : Prop where
  recorded : ∃ now, s.events = (s₀.events.record now event).1
  observed : s.orders = (observeEvent env.utcIso event s₀.orders).1
  applied : Applied event s₀.inventory s.inventory
  projected : Projected env event s₀.twin s.twin
  kept : s.decisions = s₀.decisions

theorem Processed.waiting (h : Processed env event s₀ s) : Waiting env event s₀ s :=
  ⟨.inr h.recorded, .inr h.observed, .inr h.applied, .inr h.projected, h.kept⟩

theorem through_publishAndCascade (h : Processed env event s₀ s) (now : Timestamp)
    (twin : TwinOutcome) (inventory : Inventory.Projected) :
    (publishAndCascade env now event twin inventory).Through (DeathPoint env event s₀)
      (Outcome env event s₀) s := by
  have hpublished : Processed env event s₀ (publishEvent event s).1 :=
    ⟨h.recorded, h.observed, h.applied, h.projected, h.kept⟩
  have hmarked : Undecided env event s₀ (markPublished event (publishEvent event s).1).1 := by
    obtain ⟨at', hat⟩ := h.recorded
    refine ⟨⟨⟨at', ?_⟩, h.observed, h.applied, h.projected, ?_⟩, h.kept⟩
    · change s.events.markPublished (eventKey event) = _
      rw [hat]
    · exact ⟨busMessage event s.bus.length, List.mem_append_right _ (List.mem_singleton_self _),
        rfl, rfl⟩
  refine ⟨h.waiting.deathPoint (by simp), hpublished.waiting.deathPoint (by simp), ?_⟩
  refine Program.through_bindExcept ((through_cascadeForEvent env now event _).mono ?_ ?_)
  · rintro label s' ⟨hl, rfl⟩
    exact hmarked.deathPoint hl
  · rintro r s' rfl
    have hcompleted : Completed env event s₀
        { (markPublished event (publishEvent event s).1).1 with
          decisions := cascaded env now event (markPublished event (publishEvent event s).1).1 } := by
      refine ⟨⟨hmarked.recorded, hmarked.observed, hmarked.applied, hmarked.projected,
        hmarked.onBus⟩, now, ?_⟩
      rw [← hmarked.kept]
    cases r with
    | error e => exact .inr hcompleted
    | ok result => exact hcompleted

theorem orders_observeOrder (h : Waiting env event s₀ s) :
    (observeOrder env event s).1.orders = (observeEvent env.utcIso event s₀.orders).1 := by
  change (observeEvent env.utcIso event s.orders).1 = _
  rcases h.observed with ho | ho
  · rw [ho]
  · rw [ho, observeEvent_again]

theorem twin_projectTwinEvent (h : Waiting env event s₀ s) (now : Timestamp) :
    Projected env event s₀.twin (projectTwinEvent env now event s).1.twin := by
  change Projected env event s₀.twin ((Twin.projectEvent env.twinService now event).run s.twin).1
  rcases h.projected with ht | ⟨at', ht⟩
  · rw [ht]
    exact ⟨now, rfl⟩
  · rw [← ht, Twin.run_projectEvent_again]
    exact ⟨at', rfl⟩

/-- Projecting into the inventory either raises and changes nothing, or takes up the event unless
that has been done. -/
theorem inventory_projectInventory (h : Waiting env event s₀ s)
    (hk : Inventory.Keyed s₀.inventory.positions) (now : Timestamp) :
    (∃ e, (projectInventory now event s).2 = .error e ∧
        (projectInventory now event s).1.inventory = s.inventory) ∨
      ∃ r, (projectInventory now event s).2 = .ok r ∧
        Applied event s₀.inventory (projectInventory now event s).1.inventory := by
  change (∃ e, (s.inventory.projectEvent now.isoformat event.toDict).2 = .error e ∧
      (s.inventory.projectEvent now.isoformat event.toDict).1 = s.inventory) ∨
    ∃ r, (s.inventory.projectEvent now.isoformat event.toDict).2 = .ok r ∧
      Applied event s₀.inventory (s.inventory.projectEvent now.isoformat event.toDict).1
  rcases h.applied with ha | ⟨at', r, hok, ha⟩
  · rw [ha]
    cases hr : (s₀.inventory.projectEvent now.isoformat event.toDict).2 with
    | error e => exact .inl ⟨e, rfl, Inventory.projectEvent_error hk hr⟩
    | ok r => exact .inr ⟨r, rfl, now.isoformat, r, hr, rfl⟩
  · have hagain : (s.inventory.projectEvent now.isoformat event.toDict).1 = s.inventory := by
      rw [← ha]
      exact Inventory.projectEvent_again hk hok now.isoformat
    rw [hagain]
    cases (s.inventory.projectEvent now.isoformat event.toDict).2 with
    | error e => exact .inl ⟨e, rfl, rfl⟩
    | ok r' => exact .inr ⟨r', rfl, at', r, hok, ha⟩

theorem through_acceptEvent (h : Waiting env event s₀ s)
    (hk : Inventory.Keyed s₀.inventory.positions)
    (hrec : ∃ now, s.events = (s₀.events.record now event).1) (now : Timestamp) :
    (acceptEvent env now event).Through (DeathPoint env event s₀) (Outcome env event s₀) s := by
  refine Program.through_call_bindExcept (h.deathPoint (by simp)) ?_
  have hobserved := orders_observeOrder h
  have h1 : Waiting env event s₀ (observeOrder env event s).1 :=
    ⟨h.recorded, .inr hobserved, h.applied, h.projected, h.kept⟩
  cases (observeOrder env event s).2 with
  | error e => exact .inl h1
  | ok order =>
    refine Program.through_call_bindExcept (h1.deathPoint (by simp)) ?_
    rcases inventory_projectInventory h1 hk now with ⟨e, hr, hsame⟩ | ⟨r, hr, happlied⟩
    · rw [hr]
      refine .inl ⟨h1.recorded, h1.observed, ?_, h1.projected, h1.kept⟩
      rw [hsame]
      exact h1.applied
    · rw [hr]
      have h2 : Waiting env event s₀
          (projectInventory now event (observeOrder env event s).1).1 :=
        ⟨h1.recorded, h1.observed, .inr happlied, h1.projected, h1.kept⟩
      refine ⟨h2.deathPoint (by simp), through_publishAndCascade ?_ now _ r⟩
      exact ⟨hrec, hobserved, happlied, twin_projectTwinEvent h2 now, h.kept⟩

theorem sameEventPayload_storedPayload (now : String) (event : Event) :
    sameEventPayload (some (EventStore.storedPayload now event)) event = true := by
  refine List.all_eq_true.mpr fun e he => ?_
  have hget : Value.get (EventStore.storedPayload now event) e.1 = e.2 :=
    EventStore.get_storedPayload now he
  rw [hget, Value.eq_self]

/-- Recording an event that is stored changes nothing. -/
theorem recordEvent_of_stored {now : Timestamp} {payload : List (String × Value)}
    (h : s.events.get (eventKey event) = some payload) : recordEvent now event s = (s, false) := by
  have hknown : s.events.events.contains (eventKey event) = true :=
    (Dict.contains_iff _ _).mpr ⟨payload, h⟩
  rw [recordEvent, EventStore.record_of_known hknown]

/-- A call on an event that is not published does what is left to do. -/
theorem through_of_waiting (hu : Unseen event s₀) (h : Waiting env event s₀ s) (now : Timestamp) :
    (recordPipelineEvent env now event).Through (DeathPoint env event s₀)
      (Outcome env event s₀) s := by
  refine Program.through_call_bind.mpr ⟨h.deathPoint (by simp), ?_⟩
  rcases h.recorded with he | ⟨at', he⟩
  · have hrec : ∃ at', (recordEvent now event s).1.events = (s₀.events.record at' event).1 :=
      ⟨now.isoformat, by rw [← he]; rfl⟩
    have hnew : (recordEvent now event s).2 = true := by
      change (s.events.record now.isoformat event).2 = true
      rw [he, EventStore.record_of_new hu.unrecorded]
    rw [hnew, if_pos rfl]
    exact through_acceptEvent ⟨.inr hrec, h.observed, h.applied, h.projected, h.kept⟩ hu.keyed
      hrec now
  · have hget : s.events.get (eventKey event) = some (EventStore.storedPayload at' event) := by
      rw [he, EventStore.record_of_new hu.unrecorded, EventStore.get, Dict.get?_set_self]
    have hpublished : s.events.isPublished (eventKey event) = false := by
      rw [he, EventStore.record_of_new hu.unrecorded, EventStore.isPublished]
      exact decide_eq_false hu.unpublished
    rw [recordEvent_of_stored hget, if_neg (by simp)]
    refine Program.through_call_bind.mpr ⟨h.deathPoint (by simp), ?_⟩
    simp only [hget, sameEventPayload_storedPayload, if_true]
    refine Program.through_call_bind.mpr ⟨h.deathPoint (by simp), ?_⟩
    simp only [hpublished, Bool.false_eq_true, if_false]
    exact through_acceptEvent h hu.keyed ⟨at', he⟩ now

/-- A call on an event that is delivered does nothing. -/
theorem through_of_delivered (hu : Unseen event s₀) (h : Delivered env event s₀ s)
    (now : Timestamp) :
    (recordPipelineEvent env now event).Through
      (fun label s' => ¬ (label = .dispatch ∨ label = .upsertDecision) ∧ s' = s)
      (fun _ s' => s' = s) s := by
  obtain ⟨at', he⟩ := h.recorded
  have hget : s.events.get (eventKey event) = some (EventStore.storedPayload at' event) := by
    rw [he, EventStore.record_of_new hu.unrecorded, EventStore.get, EventStore.markPublished,
      Dict.get?_set_self]
  have hpublished : s.events.isPublished (eventKey event) = true := by
    rw [he, EventStore.isPublished, EventStore.markPublished]
    exact decide_eq_true (Finset.mem_insert_self _ _)
  refine Program.through_call_bind.mpr ⟨⟨by simp, rfl⟩, ?_⟩
  rw [recordEvent_of_stored hget, if_neg (by simp)]
  refine Program.through_call_bind.mpr ⟨⟨by simp, rfl⟩, ?_⟩
  simp only [hget, sameEventPayload_storedPayload, if_true]
  refine Program.through_call_bind.mpr ⟨⟨by simp, rfl⟩, ?_⟩
  simp only [hpublished, if_true]
  rfl

end Steps

/-! ## Attempts -/

/-- An attempt at the call that dies after some number of steps. -/
def tryIngest (env : Pipeline) (event : Event) (s : IngestState) (c : Timestamp × ℕ) :
    IngestState × Option IngestOp :=
  (recordPipelineEvent env c.1 event).attempt s c.2

/-- The attempt died after `mark_published` and before its cascade was done. -/
def DiedInCascade (step : Step IngestState (Timestamp × ℕ) (Option IngestOp)) : Prop :=
  step.output = some .dispatch ∨ step.output = some .upsertDecision

instance (step : Step IngestState (Timestamp × ℕ) (Option IngestOp)) :
    Decidable (DiedInCascade step) := inferInstanceAs (Decidable (_ ∨ _))

/-- The cascade has nothing to store. -/
def CascadeIdle (env : Pipeline) (event : Event) (s : IngestState) : Prop :=
  ∃ now, cascaded env now event s = s.decisions

section Runs

variable {env : Pipeline} {event : Event} {s₀ s : IngestState}

theorem tryIngest_of_waiting (hu : Unseen event s₀) (h : Waiting env event s₀ s)
    (c : Timestamp × ℕ) :
    (DiedInCascade (stepOf (tryIngest env event) s c) ∧
        Undecided env event s₀ (tryIngest env event s c).1) ∨
      (¬ DiedInCascade (stepOf (tryIngest env event) s c) ∧
        (Waiting env event s₀ (tryIngest env event s c).1 ∨
          Completed env event s₀ (tryIngest env event s c).1)) := by
  rcases Program.through_attempt (through_of_waiting hu h c.1) c.2 with
    ⟨label, hlabel, hpoint⟩ | ⟨hnone, r, hout⟩
  · have houtput : (stepOf (tryIngest env event) s c).output = some label := hlabel
    unfold DeathPoint at hpoint
    unfold DiedInCascade
    rw [houtput, Option.some.injEq, Option.some.injEq]
    by_cases hl : label = .dispatch ∨ label = .upsertDecision
    · rw [if_pos hl] at hpoint
      exact .inl ⟨hl, hpoint⟩
    · rw [if_neg hl] at hpoint
      exact .inr ⟨hl, .inl hpoint⟩
  · have houtput : (stepOf (tryIngest env event) s c).output = none := hnone
    refine .inr ⟨?_, ?_⟩
    · unfold DiedInCascade
      rw [houtput]
      simp
    · cases r with
      | error e => exact hout
      | ok receipt => exact .inr hout

theorem tryIngest_of_delivered (hu : Unseen event s₀) (h : Delivered env event s₀ s)
    (c : Timestamp × ℕ) :
    ¬ DiedInCascade (stepOf (tryIngest env event) s c) ∧ (tryIngest env event s c).1 = s := by
  rcases Program.through_attempt (through_of_delivered hu h c.1) c.2 with
    ⟨label, hlabel, hl, hsame⟩ | ⟨hnone, r, hsame⟩
  · have houtput : (stepOf (tryIngest env event) s c).output = some label := hlabel
    refine ⟨?_, hsame⟩
    unfold DiedInCascade
    rw [houtput, Option.some.injEq, Option.some.injEq]
    exact hl
  · have houtput : (stepOf (tryIngest env event) s c).output = none := hnone
    refine ⟨?_, hsame⟩
    unfold DiedInCascade
    rw [houtput]
    simp

/-- Attempts on an event that is delivered do nothing. -/
theorem attempts_of_delivered (hu : Unseen event s₀) (h : Delivered env event s₀ s)
    (attempts : List (Timestamp × ℕ)) :
    final (tryIngest env event) s attempts = s ∧
      ∀ step ∈ trace (tryIngest env event) s attempts, ¬ DiedInCascade step := by
  induction attempts with
  | nil => exact ⟨rfl, fun _ h => nomatch h⟩
  | cons c attempts ih =>
    obtain ⟨hdied, hsame⟩ := tryIngest_of_delivered hu h c
    rw [final_cons, trace, hsame]
    refine ⟨ih.1, fun step hstep => ?_⟩
    rcases List.mem_cons.mp hstep with rfl | hstep
    · exact hdied
    · exact ih.2 step hstep

/-- What a sequence of attempts on an event that is not published comes to: no attempt died in its
cascade, or one did, and everything has stayed as that one left it. -/
theorem attempts_of_waiting (hu : Unseen event s₀) (h : Waiting env event s₀ s)
    (attempts : List (Timestamp × ℕ)) :
    ((∀ step ∈ trace (tryIngest env event) s attempts, ¬ DiedInCascade step) ∧
        (Waiting env event s₀ (final (tryIngest env event) s attempts) ∨
          Completed env event s₀ (final (tryIngest env event) s attempts))) ∨
      (Undecided env event s₀ (final (tryIngest env event) s attempts) ∧
        (∃ step ∈ trace (tryIngest env event) s attempts, DiedInCascade step) ∧
        ∀ step ∈ trace (tryIngest env event) s attempts, DiedInCascade step →
          step.after = final (tryIngest env event) s attempts) := by
  induction attempts generalizing s with
  | nil => exact .inl ⟨(fun _ hm => nomatch hm), .inl h⟩
  | cons c attempts ih =>
    rw [final_cons, trace]
    rcases tryIngest_of_waiting hu h c with ⟨hdied, hundecided⟩ | ⟨hdied, hwaiting | hcompleted⟩
    · obtain ⟨hfinal, hnone⟩ := attempts_of_delivered hu hundecided.toDelivered attempts
      rw [hfinal]
      refine .inr ⟨hundecided, ⟨_, List.mem_cons_self, hdied⟩, fun step hstep hd => ?_⟩
      rcases List.mem_cons.mp hstep with rfl | hstep
      · rfl
      · exact (hnone step hstep hd).elim
    · rcases ih hwaiting with ⟨hnone, hend⟩ | ⟨hundecided, ⟨step, hstep, hd⟩, hafter⟩
      · refine .inl ⟨fun step hstep => ?_, hend⟩
        rcases List.mem_cons.mp hstep with rfl | hstep
        · exact hdied
        · exact hnone step hstep
      · refine .inr ⟨hundecided, ⟨step, List.mem_cons_of_mem _ hstep, hd⟩, fun step hstep hd => ?_⟩
        rcases List.mem_cons.mp hstep with rfl | hstep
        · exact (hdied hd).elim
        · exact hafter step hstep hd
    · obtain ⟨hfinal, hnone⟩ := attempts_of_delivered hu hcompleted.toDelivered attempts
      rw [hfinal]
      refine .inl ⟨fun step hstep => ?_, .inr hcompleted⟩
      rcases List.mem_cons.mp hstep with rfl | hstep
      · exact hdied
      · exact hnone step hstep

end Runs

/-- When a call has returned after any attempts before it, the stores are as one uninterrupted call
leaves them exactly when the cascade had nothing to store in each attempt that died in it. -/
theorem retry_completes_iff (env : Pipeline) (event : Event) {s₀ : IngestState}
    (hu : Unseen event s₀) (attempts : List (Timestamp × ℕ)) (now : Timestamp)
    (hret : ((recordPipelineEvent env now event).run
      (final (tryIngest env event) s₀ attempts)).2.isOk = true) :
    Completed env event s₀ ((recordPipelineEvent env now event).run
        (final (tryIngest env event) s₀ attempts)).1 ↔
      ∀ step ∈ trace (tryIngest env event) s₀ attempts, DiedInCascade step →
        CascadeIdle env event step.after := by
  rcases attempts_of_waiting hu (waiting_refl env event s₀) attempts with
    ⟨hnone, hwaiting | hcompleted⟩ | ⟨hundecided, ⟨step, hstep, hdied⟩, hafter⟩
  · have hend := Program.through_run (through_of_waiting hu hwaiting now)
    have hcompleted : Completed env event s₀ ((recordPipelineEvent env now event).run
        (final (tryIngest env event) s₀ attempts)).1 := by
      cases hr : ((recordPipelineEvent env now event).run
          (final (tryIngest env event) s₀ attempts)).2 with
      | error e =>
        rw [hr] at hret
        cases hret
      | ok receipt =>
        rw [hr] at hend
        exact hend
    exact ⟨fun _ step hstep hdied => (hnone step hstep hdied).elim, fun _ => hcompleted⟩
  · have hend := Program.through_run (through_of_delivered hu hcompleted.toDelivered now)
    rw [hend]
    exact ⟨fun _ step hstep hdied => (hnone step hstep hdied).elim, fun _ => hcompleted⟩
  · have hend := Program.through_run (through_of_delivered hu hundecided.toDelivered now)
    have hsame : { final (tryIngest env event) s₀ attempts with decisions := s₀.decisions }
        = final (tryIngest env event) s₀ attempts := by
      rw [← hundecided.kept]
    rw [hend]
    constructor
    · rintro hcompleted step hstep hdied
      obtain ⟨at', hat⟩ := hcompleted.decided
      rw [hsame] at hat
      rw [hafter step hstep hdied]
      exact ⟨at', hat.symm⟩
    · intro hidle
      obtain ⟨at', hat⟩ := hidle step hstep hdied
      rw [hafter step hstep hdied] at hat
      refine ⟨hundecided.toDelivered, at', ?_⟩
      rw [hsame]
      exact hat.symm

/-- A batch that expires tomorrow. -/
def expiryEvent : Event where
  id := "evt_expiry_1"
  type := .expiryEntry
  ts := ⟨1000000, "2026-07-01T00:00:01+00:00"⟩
  actor := "store_a"
  payload := [("sku", .str "4011"), ("batch_id", .str "B1"), ("days_to_expiry", .int 1)]
  source := .wmsCsv
  tenantId := "tenant_a"
  dataDomain := .worldSimulation
  correlationId := "evt_expiry_1"
  causationId := none
  schemaVersion := "1"
  id_ne := by decide +kernel
  actor_ne := by decide +kernel
  tenantId_ne := tenantA_ne
  correlationId_ne := by decide +kernel

/-- The decision `run_expiry_risk_check` makes for it, with the fields its store reads. -/
def expiryDecision : Decisions.Decision :=
  [("id", .str "dec_tenant_a_world_simulation_evt_expiry_1"), ("status", .str "pending"),
    ("caused_by", .list [.str "evt_expiry_1"]), ("tenant_id", .str "tenant_a"),
    ("role", .str "inventory_manager")]

/-- Cascades of which the expiry check alone answers. -/
def expiryCascades : Cascades where
  runCatalogPriceCheck := fun _ _ _ => .ok none
  runColdChainCascade := fun _ _ _ => .ok none
  runExpiryRiskCheck := fun _ _ _ =>
    .ok (some [("scenario", .str "expiry_risk_markdown_review"),
      ("decision", .dict expiryDecision)])
  runGoldenCascade := fun _ _ _ => .ok none
  runInventoryExceptionCascade := fun _ _ _ => .ok none
  runProcurementCascade := fun _ _ _ => .ok none
  runRecallCascade := fun _ _ _ => .ok none
  runSalesCascade := fun _ _ _ => .ok none

/-- A pipeline with these cascades. -/
def expiryPipeline : Pipeline where
  twinService := Twin.defaultService
  utcIso := fun _ => none
  cascades := expiryCascades
  attachGovernance := .ok

/-- A crash between `publish` and `mark_published`. -/
theorem retry_completes_before_mark :
    Unseen expiryEvent .empty ∧
      ((recordPipelineEvent expiryPipeline ⟨9, ""⟩ expiryEvent).run
        (final (tryIngest expiryPipeline expiryEvent) .empty [(⟨8, ""⟩, 5)])).2.isOk = true ∧
      Completed expiryPipeline expiryEvent .empty
        ((recordPipelineEvent expiryPipeline ⟨9, ""⟩ expiryEvent).run
          (final (tryIngest expiryPipeline expiryEvent) .empty [(⟨8, ""⟩, 5)])).1 := by
  have hu : Unseen expiryEvent .empty := ⟨by decide, by decide, [], rfl⟩
  have hret : ((recordPipelineEvent expiryPipeline ⟨9, ""⟩ expiryEvent).run
      (final (tryIngest expiryPipeline expiryEvent) .empty [(⟨8, ""⟩, 5)])).2.isOk = true := by
    decide +kernel
  have hnone : ∀ step ∈ trace (tryIngest expiryPipeline expiryEvent) .empty [(⟨8, ""⟩, 5)],
      ¬ DiedInCascade step := by
    decide +kernel
  exact ⟨hu, hret, (retry_completes_iff expiryPipeline expiryEvent hu _ _ hret).mpr
    fun step hstep hdied => (hnone step hstep hdied).elim⟩

/-- A crash between `mark_published` and the cascade. -/
theorem retry_loses_decision :
    ¬ ∀ (env : Pipeline) (event : Event) (s₀ : IngestState), Unseen event s₀ →
      ∀ (attempts : List (Timestamp × ℕ)) (now : Timestamp),
      ((recordPipelineEvent env now event).run
        (final (tryIngest env event) s₀ attempts)).2.isOk = true →
      Completed env event s₀ ((recordPipelineEvent env now event).run
        (final (tryIngest env event) s₀ attempts)).1 := by
  intro h
  have hcompleted := h expiryPipeline expiryEvent .empty ⟨by decide, by decide, [], rfl⟩
    [(⟨8, ""⟩, 6)] ⟨9, ""⟩ (by decide +kernel)
  obtain ⟨now, hdecided⟩ := hcompleted.decided
  have hempty : ((recordPipelineEvent expiryPipeline ⟨9, ""⟩ expiryEvent).run
      (final (tryIngest expiryPipeline expiryEvent) .empty [(⟨8, ""⟩, 6)])).1.decisions
        = Dict.empty := by
    decide +kernel
  have hstored : ∀ s : IngestState, s.decisions = Dict.empty →
      (cascaded expiryPipeline now expiryEvent s).contains
        "dec_tenant_a_world_simulation_evt_expiry_1" = true := by
    rintro ⟨events, orders, inventory, twin, bus, decisions⟩ rfl
    rfl
  have hcontains := hstored
    { ((recordPipelineEvent expiryPipeline ⟨9, ""⟩ expiryEvent).run
      (final (tryIngest expiryPipeline expiryEvent) .empty [(⟨8, ""⟩, 6)])).1 with
        decisions := Dict.empty } rfl
  have habsent : Dict.contains (Dict.empty : Decisions.Store)
      "dec_tenant_a_world_simulation_evt_expiry_1" = true := by
    rw [← hempty, hdecided]
    exact hcontains
  exact absurd habsent (by decide)

end ShelfWise.Ingest
