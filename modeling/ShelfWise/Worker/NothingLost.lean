import ShelfWise.Worker.Delivery

/-!
# Nothing is lost

What one delivery can come to (`processOne_outcome`), and from it what every run of publishers and the
worker keeps: `nothing_lost_iff`.
-/

namespace ShelfWise.Worker

open Py Sys Ingest

/-! ## Store calls -/

section Rules

variable {d : Delivery} {w : WorkerState} {c c' : StoreCall} {α : Type} {runId stepKey : String}
  {Q : α → WorkerState → Prop} {E : Exc → WorkerState → Prop}

/-- The rule of a store call: it does what it does, or it raises before or after that. -/
theorem meets_call {action : WorkerAction α} (hnone : d.fault c = none → action.Meets w Q E)
    (hsome : d.fault c ≠ none → ∀ e, E e w ∧ E e (action.run w).1) :
    (d.call c action).Meets w Q E := by
  unfold Delivery.call
  cases hfault : d.fault c with
  | none => exact hnone hfault
  | some fault =>
    obtain ⟨hbefore, hafter⟩ := hsome (by simp [hfault]) fault.exc
    refine ⟨fun w' a hrun => ?_, fun w' e hrun => ?_⟩
    · cases congrArg Prod.snd hrun
    · cases hrun
      split
      · exact hafter
      · exact hbefore

/-- The rule of `journaled`: the recorded output, or that of `fn`, which is recorded. -/
theorem meets_journaled {fn : WorkerAction Items} {Q : Items → WorkerState → Prop}
    (hraise : d.fault c ≠ none → ∀ e, E e w)
    (hseen : d.fault c = none → ∀ seen, w.journal.get runId stepKey = some seen → Q seen w)
    (hfn : d.fault c = none → w.journal.get runId stepKey = none →
      fn.Meets w (fun output w' =>
        let recorded := { w' with journal := w'.journal.put runId stepKey output none }
        (d.fault c' = none → Q output recorded) ∧
          (d.fault c' ≠ none → ∀ e, E e w' ∧ E e recorded)) E) :
    (d.journaled c c' runId stepKey fn).Meets w Q E := by
  unfold Delivery.journaled Delivery.lookup
  refine Fallible.meets_bind (meets_call (fun hnone => ?_) fun hsome e => ?_)
  · refine ⟨?_, nofun⟩
    intro w' found hrun
    cases hrun
    cases hget : w.journal.get runId stepKey with
    | some seen => exact Fallible.meets_ret (hseen hnone seen hget)
    | none =>
      refine Fallible.meets_bind ((hfn hnone hget).mono (fun output w' h => ?_) fun _ _ h => h)
      unfold Delivery.record
      refine Fallible.meets_bind (meets_call (fun hrecord => ?_) fun hrecord e => h.2 hrecord e)
      exact Fallible.meets_update (Fallible.meets_ret (h.1 hrecord))
  · exact ⟨hraise hsome e, hraise hsome e⟩

end Rules

/-! ## The decision store -/

section Store

variable {decision : Items} {decisions : Decisions.Store} {now : String}

theorem upsert_ok_iff : (∃ stored, (Decisions.upsert now decision decisions).2 = .ok stored) ↔
    Accepts decisions decision := by
  unfold Decisions.upsert
  by_cases hid : Decisions.decisionId decision = ""
  · rw [if_pos hid]
    exact iff_of_false (fun ⟨_, h⟩ => nomatch h) fun h => h.id hid
  · rw [if_neg hid]
    cases hterminal : Decisions.isTerminal (decisions.get? (Decisions.decisionId decision)) with
    | error e =>
      refine iff_of_false (fun ⟨_, h⟩ => nomatch h) fun h => ?_
      obtain ⟨terminal, hok⟩ := h.status
      rw [hterminal] at hok
      cases hok
    | ok terminal =>
      refine iff_of_true ?_ ⟨hid, terminal, hterminal⟩
      cases terminal with
      | true => exact ⟨_, rfl⟩
      | false => exact ⟨_, rfl⟩

/-- An `upsert` removes no decision. -/
theorem isSome_upsert {id : String} (h : (decisions.get? id).isSome = true) :
    ((Decisions.upsert now decision decisions).1.get? id).isSome = true := by
  unfold Decisions.upsert
  split
  · exact h
  · split
    · exact h
    · exact h
    · dsimp only
      rw [Dict.get?_set]
      split
      · rfl
      · exact h

/-- A decision that was taken is in the store. -/
theorem isSome_upsert_self {stored : Items}
    (h : (Decisions.upsert now decision decisions).2 = .ok stored) :
    ((Decisions.upsert now decision decisions).1.get?
      (Decisions.decisionId decision)).isSome = true := by
  unfold Decisions.upsert at h ⊢
  split at h
  · cases h
  · rename_i hid
    rw [if_neg hid]
    split at h
    · cases h
    · rename_i hterminal
      -- only a stored decision has a terminal status
      cases hget : decisions.get? (Decisions.decisionId decision) with
      | none =>
        rw [hget] at hterminal
        cases hterminal
      | some existing => rfl
    · dsimp only
      rw [Dict.get?_set_self]
      rfl

end Store

/-! ## What a delivery keeps -/

/-- Only recorded cascades have recorded decisions, and those are in the store. -/
structure DecisionsKept (w : WorkerState) : Prop where
  unrecorded : ∀ runId, w.journal.get runId "cascade" = none →
    ∀ decision, w.journal.get runId (persistKey decision) = none
  persisted : ∀ runId cascade decision, w.journal.get runId "cascade" = some cascade →
    decisionOf cascade = some decision → w.journal.get runId (persistKey decision) ≠ none →
      (w.decisions.get? (Decisions.decisionId decision)).isSome = true

theorem DecisionsKept.of_same {w w' : WorkerState} (h : DecisionsKept w)
    (hget : ∀ r k, w'.journal.get r k = w.journal.get r k)
    (hdecisions : w'.decisions = w.decisions) : DecisionsKept w' := by
  refine ⟨fun r hnone decision => ?_, fun r cascade decision hcascade hdecision hrecorded => ?_⟩
  · rw [hget] at hnone ⊢
    exact h.unrecorded r hnone decision
  · rw [hget] at hcascade hrecorded
    rw [hdecisions]
    exact h.persisted r cascade decision hcascade hdecision hrecorded

/-- What every part of a delivery keeps: a recorded cascade stays, one of the run may be recorded
that the handler has answered, and the decisions are kept. -/
structure Advances (d : Delivery) (runId : String) (w w' : WorkerState) : Prop where
  cascade : ∀ r, w'.journal.get r "cascade" = w.journal.get r "cascade" ∨
    (w.journal.get r "cascade" = none ∧ r = runId ∧
      ∃ output, d.answer = .ok output ∧ w'.journal.get r "cascade" = some output)
  kept : DecisionsKept w → DecisionsKept w'

theorem cascade_ne_persistKey (decision : Items) : "cascade" ≠ persistKey decision := by
  unfold persistKey
  generalize (Value.getD decision "id" (.str "unknown")).toText = id
  intro h
  have hhead := congrArg (fun s : String => s.toList.head?) h
  simp [String.toList_append] at hhead

namespace Advances

variable {d : Delivery} {runId : String} {w w' w'' : WorkerState}

theorem refl (d : Delivery) (runId : String) (w : WorkerState) : Advances d runId w w :=
  ⟨fun _ => .inl rfl, id⟩

theorem trans (h : Advances d runId w w') (h' : Advances d runId w' w'') :
    Advances d runId w w'' := by
  refine ⟨fun r => ?_, fun hkept => h'.kept (h.kept hkept)⟩
  rcases h'.cascade r with hsame' | ⟨hnone', hr, houtput⟩
  · rw [hsame']
    exact h.cascade r
  · rcases h.cascade r with hsame | ⟨-, -, output, -, hsome⟩
    · exact .inr ⟨hsame ▸ hnone', hr, houtput⟩
    · rw [hsome] at hnone'
      cases hnone'

/-- A recorded cascade stays. -/
theorem get_of_some (h : Advances d runId w w') {r : String} {cascade : Items}
    (hget : w.journal.get r "cascade" = some cascade) :
    w'.journal.get r "cascade" = some cascade := by
  rcases h.cascade r with hsame | ⟨hnone, -⟩
  · rw [hsame, hget]
  · rw [hget] at hnone
    cases hnone

/-- A part that writes neither steps nor decisions. -/
theorem of_same (hget : ∀ r k, w'.journal.get r k = w.journal.get r k)
    (hdecisions : w'.decisions = w.decisions) : Advances d runId w w' :=
  ⟨fun r => .inl (hget r _), fun hkept => hkept.of_same hget hdecisions⟩

/-- The cascade of the run is recorded. -/
theorem of_recordCascade {output : Items} (hanswer : d.answer = .ok output)
    (hnone : w.journal.get runId "cascade" = none) :
    Advances d runId w { w with journal := w.journal.put runId "cascade" output none } := by
  constructor
  · intro r
    dsimp only
    rw [Journal.get_put]
    split
    · rename_i heq
      obtain rfl : runId = r := congrArg Prod.fst heq
      exact .inr ⟨hnone, rfl, output, hanswer, by rw [hnone, Option.getD_none]⟩
    · exact .inl rfl
  · intro hkept
    constructor
    · intro r hget decision
      dsimp only at hget ⊢
      rw [Journal.get_put, if_neg fun heq => cascade_ne_persistKey decision (congrArg Prod.snd heq)]
      rw [Journal.get_put] at hget
      split at hget
      · cases hget
      · exact hkept.unrecorded r hget decision
    · intro r cascade decision hget hdecision hrecorded
      dsimp only at hget hrecorded ⊢
      rw [Journal.get_put, if_neg fun heq =>
        cascade_ne_persistKey decision (congrArg Prod.snd heq)] at hrecorded
      rw [Journal.get_put] at hget
      split at hget
      · -- nothing else was recorded under the run before its cascade
        rename_i heq
        obtain rfl : runId = r := congrArg Prod.fst heq
        exact absurd (hkept.unrecorded runId hnone decision) hrecorded
      · exact hkept.persisted r cascade decision hget hdecision hrecorded

/-- A decision is stored. -/
theorem of_upsert (now : String) (decision : Items) :
    Advances d runId w { w with decisions := (Decisions.upsert now decision w.decisions).1 } :=
  ⟨fun _ => .inl rfl, fun hkept => ⟨hkept.unrecorded,
    fun r cascade decision' hcascade hdecision hrecorded =>
      isSome_upsert (hkept.persisted r cascade decision' hcascade hdecision hrecorded)⟩⟩

/-- The decision of the recorded cascade, which is in the store, is recorded. -/
theorem of_recordDecision {cascade decision : Items} (output : Items)
    (hcascade : w.journal.get runId "cascade" = some cascade)
    (hdecision : decisionOf cascade = some decision)
    (hstored : (w.decisions.get? (Decisions.decisionId decision)).isSome = true) :
    Advances d runId w
      { w with journal := w.journal.put runId (persistKey decision) output none } := by
  have hsame : ∀ r, (w.journal.put runId (persistKey decision) output none).get r "cascade" =
      w.journal.get r "cascade" := fun r => by
    rw [Journal.get_put, if_neg fun heq =>
      cascade_ne_persistKey decision (congrArg Prod.snd heq).symm]
  refine ⟨fun r => .inl (hsame r), fun hkept => ⟨fun r hnone decision' => ?_,
    fun r cascade' decision' hcascade' hdecision' hrecorded => ?_⟩⟩
  · dsimp only at hnone ⊢
    rw [hsame] at hnone
    rw [Journal.get_put, if_neg fun heq => ?_]
    · exact hkept.unrecorded r hnone decision'
    · obtain rfl : runId = r := congrArg Prod.fst heq
      rw [hcascade] at hnone
      cases hnone
  · dsimp only at hcascade' hrecorded ⊢
    rw [hsame] at hcascade'
    by_cases hr : runId = r
    · -- the run has one cascade, and its decision is the one stored
      subst hr
      obtain rfl : cascade = cascade' := Option.some.inj (hcascade.symm.trans hcascade')
      obtain rfl : decision = decision' := Option.some.inj (hdecision.symm.trans hdecision')
      exact hstored
    · rw [Journal.get_put, if_neg fun heq => hr (congrArg Prod.fst heq)] at hrecorded
      exact hkept.persisted r cascade' decision' hcascade' hdecision' hrecorded

end Advances

/-! ## The parts of a delivery -/

section Parts

variable (d : Delivery) (event : Event) (w : WorkerState)

/-- What a delivery has when it has its cascade. -/
structure Obtained (runId : String) (cascade : Items) (w' : WorkerState) : Prop where
  obtains : Obtains d runId w
  advances : Advances d runId w w'
  bus : w'.bus = w.bus
  decisions : w'.decisions = w.decisions
  decisionSteps : ∀ decision,
    w'.journal.get runId (persistKey decision) = w.journal.get runId (persistKey decision)
  recorded : w'.journal.get runId "cascade" = some cascade
  used : usedOutput d runId w = some cascade

theorem obtainCascade_meets :
    (d.obtainCascade event).Meets w (Obtained d w (eventRunId event)) fun _ w' =>
      ¬ Obtains d (eventRunId event) w ∧ Advances d (eventRunId event) w w' ∧ w'.bus = w.bus := by
  unfold Delivery.obtainCascade
  have hstarted : Advances d (eventRunId event) w { w with
      journal := w.journal.startRun d.now (eventRunId event) event.tenantId event.dataDomain } :=
    .of_same (fun _ _ => rfl) rfl
  refine Fallible.meets_bind (meets_call (fun hstart => ?_) fun hstart e =>
    ⟨⟨fun h => hstart h.startRun, .refl _ _ _, rfl⟩, fun h => hstart h.startRun, hstarted, rfl⟩)
  refine Fallible.meets_update (meets_journaled (fun hlookup e => ?_) (fun hlookup seen hseen => ?_)
    fun hlookup hnone => Fallible.meets_ofExcept (fun output hanswer => ?_) fun e hanswer => ?_)
  · exact ⟨fun h => hlookup h.lookupCascade, hstarted, rfl⟩
  · -- the cascade of an earlier delivery
    rw [Journal.get_startRun] at hseen
    refine ⟨⟨hstart, hlookup, fun hnone => ?_⟩, hstarted, rfl, rfl, fun _ => rfl, hseen, ?_⟩
    · rw [hseen] at hnone
      cases hnone
    · rw [usedOutput, hseen, Option.some_or]
  · -- the handler has answered
    rw [Journal.get_startRun] at hnone
    have hrecorded := hstarted.trans (.of_recordCascade hanswer hnone)
    refine ⟨fun hrecord => ?_, fun hrecord e => ?_⟩
    · refine ⟨⟨hstart, hlookup, fun _ => ⟨⟨output, hanswer⟩, hrecord⟩⟩, hrecorded, rfl, rfl, ?_, ?_, ?_⟩
      · intro decision
        rw [Journal.get_put, if_neg fun heq =>
          cascade_ne_persistKey decision (congrArg Prod.snd heq), Journal.get_startRun]
      · rw [Journal.get_put_self, Journal.get_startRun, hnone, Option.getD_none]
      · rw [usedOutput, hnone, Option.none_or, hanswer]
        rfl
    · have hstop : ¬ Obtains d (eventRunId event) w := fun h => hrecord (h.handler hnone).2
      exact ⟨⟨hstop, hstarted, rfl⟩, hstop, hrecorded, rfl⟩
  · refine ⟨fun h => ?_, hstarted, rfl⟩
    rw [Journal.get_startRun] at hnone
    obtain ⟨⟨output, hok⟩, -⟩ := h.handler hnone
    rw [hanswer] at hok
    cases hok

variable {d event w}

theorem persistDecision_meets {runId : String} {cascade : Items} (hkept : DecisionsKept w)
    (hcascade : w.journal.get runId "cascade" = some cascade) :
    (d.persistDecision runId cascade).Meets w
      (fun _ w' => Persists d runId cascade w ∧ Advances d runId w w' ∧ w'.bus = w.bus ∧
        ∀ decision, decisionOf cascade = some decision →
          (w'.decisions.get? (Decisions.decisionId decision)).isSome = true)
      fun _ w' => ¬ Persists d runId cascade w ∧ Advances d runId w w' ∧ w'.bus = w.bus := by
  unfold Delivery.persistDecision
  cases hdecision : decisionOf cascade with
  | none =>
    refine Fallible.meets_ret ⟨fun decision h => ?_, .refl _ _ _, rfl, nofun⟩
    rw [hdecision] at h
    cases h
  | some decision =>
    have honly : ∀ {P : Items → Prop}, P decision →
        ∀ decision', decisionOf cascade = some decision' → P decision' := fun h decision' h' =>
      Option.some.inj (hdecision.symm.trans h') ▸ h
    refine Fallible.meets_bind ((meets_journaled (Q := fun _ w' => Persists d runId cascade w ∧
      Advances d runId w w' ∧ w'.bus = w.bus ∧
        (w'.decisions.get? (Decisions.decisionId decision)).isSome = true)
      (fun hlookup e => ?_) (fun hlookup seen hseen => ?_) fun hlookup hnone => ?_).mono
      (fun result w' h => Fallible.meets_ret ⟨h.1, h.2.1, h.2.2.1, fun decision' h' =>
        Option.some.inj h' ▸ h.2.2.2⟩) fun _ _ h => h)
    · exact ⟨fun h => hlookup (h decision hdecision).1, .refl _ _ _, rfl⟩
    · -- stored by an earlier delivery
      refine ⟨honly ⟨hlookup, fun hnone => ?_⟩, .refl _ _ _, rfl,
        hkept.persisted runId cascade decision hcascade hdecision (hseen ▸ Option.some_ne_none _)⟩
      rw [hseen] at hnone
      cases hnone
    · unfold Delivery.upsertDecision
      have hstored : Advances d runId w
          { w with decisions := (Decisions.upsert d.now decision w.decisions).1 } :=
        .of_upsert d.now decision
      refine Fallible.meets_bind (meets_call (fun hupsert => ?_) fun hupsert e => ?_)
      · refine ⟨fun w' stored hrun => ?_, fun w' e hrun => ?_⟩
        · obtain rfl := congrArg Prod.fst hrun
          have hok : (Decisions.upsert d.now decision w.decisions).2 = .ok stored :=
            congrArg Prod.snd hrun
          have hsome := isSome_upsert_self hok
          have haccepts := upsert_ok_iff.mp ⟨stored, hok⟩
          have hrecorded := hstored.trans
            (.of_recordDecision [("decision", .dict stored)] hcascade hdecision hsome)
          refine Fallible.meets_ret ⟨fun hrecord => ?_, fun hrecord e => ?_⟩
          · exact ⟨honly ⟨hlookup, fun _ => ⟨hupsert, haccepts, hrecord⟩⟩, hrecorded, rfl, hsome⟩
          · have hstop : ¬ Persists d runId cascade w := fun h =>
              hrecord ((h decision hdecision).2 hnone).2.2
            exact ⟨⟨hstop, hstored, rfl⟩, hstop, hrecorded, rfl⟩
        · obtain rfl := congrArg Prod.fst hrun
          have herror : (Decisions.upsert d.now decision w.decisions).2 = .error e :=
            congrArg Prod.snd hrun
          refine ⟨fun h => ?_, hstored, rfl⟩
          obtain ⟨stored, hok⟩ := upsert_ok_iff.mpr ((h decision hdecision).2 hnone).2.1
          rw [herror] at hok
          cases hok
      · have hstop : ¬ Persists d runId cascade w := fun h =>
          hupsert ((h decision hdecision).2 hnone).1
        exact ⟨⟨hstop, .refl _ _ _, rfl⟩, hstop, hstored, rfl⟩

theorem status_finishRun (now runId status : String) (j : Journal) :
    ((j.finishRun now runId status).runs.get? runId).map (·.status) = some status := by
  unfold Journal.finishRun
  dsimp only
  rw [Dict.get?_set_self]
  cases j.runs.get? runId with
  | none => rfl
  | some existing => rfl

/-- What acknowledging a message is worth: the decision of its cascade is in the store, and its run is
done. -/
structure Settled (runId : String) (cascade : Items) (w' : WorkerState) : Prop where
  recorded : w'.journal.get runId "cascade" = some cascade
  decision : ∀ decision, decisionOf cascade = some decision →
    (w'.decisions.get? (Decisions.decisionId decision)).isSome = true
  status : (w'.journal.runs.get? runId).map (·.status) = some "done"

theorem settle_meets {m : BusMessage} {cascade : Items} (hkept : DecisionsKept w)
    (hcascade : w.journal.get (eventRunId event) "cascade" = some cascade) :
    (d.settle m event cascade).Meets w
      (fun _ w' => (Persists d (eventRunId event) cascade w ∧ d.fault .finishDone = none) ∧
        Advances d (eventRunId event) w w' ∧ w'.bus = w.bus.ack m.stream m.messageId ∧
        Settled (eventRunId event) cascade w')
      fun _ w' => ¬ (Persists d (eventRunId event) cascade w ∧ d.fault .finishDone = none) ∧
        Advances d (eventRunId event) w w' ∧ w'.bus = w.bus := by
  unfold Delivery.settle
  refine Fallible.meets_bind ((persistDecision_meets hkept hcascade).mono
    (fun persisted w' h => ?_) fun e w' h => ⟨fun hall => h.1 hall.1, h.2⟩)
  obtain ⟨hpersists, hadvances, hbus, hdecision⟩ := h
  have hfinished : Advances d (eventRunId event) w { w' with
      journal := w'.journal.finishRun d.now (eventRunId event) "done" } :=
    hadvances.trans (.of_same (fun _ _ => rfl) rfl)
  unfold Delivery.finishRun
  refine Fallible.meets_bind (meets_call (fun hfinish => ?_) fun hfinish e => ?_)
  · refine Fallible.meets_update (Fallible.meets_bind (Fallible.meets_update
      (Fallible.meets_ret ⟨⟨hpersists, hfinish⟩, ?_, ?_, ?_⟩)))
    · exact hfinished.trans (.of_same (fun _ _ => rfl) rfl)
    · exact congrArg (fun bus => EventBus.ack m.stream m.messageId bus) hbus
    · exact ⟨hadvances.get_of_some hcascade, hdecision, status_finishRun _ _ _ _⟩
  · have hstop : ¬ (Persists d (eventRunId event) cascade w ∧ d.fault .finishDone = none) :=
      fun hall => hfinish hall.2
    exact ⟨⟨hstop, hadvances, hbus⟩, hstop, hfinished, hbus⟩

theorem persists_congr {runId : String} {cascade : Items} {w' : WorkerState}
    (hsteps : ∀ decision,
      w'.journal.get runId (persistKey decision) = w.journal.get runId (persistKey decision))
    (hdecisions : w'.decisions = w.decisions) :
    Persists d runId cascade w' ↔ Persists d runId cascade w := by
  unfold Persists
  simp only [hsteps, hdecisions]

end Parts

/-! ## A delivery -/

section Delivery

variable {fromIso : String → Option Timestamp} {d : Delivery} {m : BusMessage} {w w' : WorkerState}

/-- What the part of a delivery whose exceptions are caught does to journal and decisions. -/
structure Attempted (fromIso : String → Option Timestamp) (d : Delivery) (m : BusMessage)
    (w w' : WorkerState) : Prop where
  cascade : ∀ r, w'.journal.get r "cascade" = w.journal.get r "cascade" ∨
    (w.journal.get r "cascade" = none ∧ ∃ event output, parseWire fromIso m.event = .ok event ∧
      eventRunId event = r ∧ d.answer = .ok output ∧ w'.journal.get r "cascade" = some output)
  kept : DecisionsKept w → DecisionsKept w'
  used : ∀ event cascade, parseWire fromIso m.event = .ok event →
    ((d.obtainCascade event).run w).2 = .ok cascade →
      w'.journal.get (eventRunId event) "cascade" = some cascade

theorem Attempted.of_advances {event : Event} (hparse : parseWire fromIso m.event = .ok event)
    (h : Advances d (eventRunId event) w w')
    (hused : ∀ cascade, ((d.obtainCascade event).run w).2 = .ok cascade →
      w'.journal.get (eventRunId event) "cascade" = some cascade) :
    Attempted fromIso d m w w' := by
  refine ⟨fun r => (h.cascade r).imp_right fun hnew => ?_, h.kept, fun event' cascade hparse' => ?_⟩
  · obtain ⟨hnone, hr, output, hanswer, hsome⟩ := hnew
    exact ⟨hnone, event, output, hparse, hr.symm, hanswer, hsome⟩
  · obtain rfl : event = event' := Except.ok.inj (hparse.symm.trans hparse')
    exact hused cascade

/-- Recording the failure and giving the message back changes neither steps nor decisions. -/
theorem Attempted.of_same {w'' : WorkerState} (h : Attempted fromIso d m w w')
    (hget : ∀ r k, w''.journal.get r k = w'.journal.get r k)
    (hdecisions : w''.decisions = w'.decisions) : Attempted fromIso d m w w'' where
  cascade := fun r => by
    rw [hget]
    exact h.cascade r
  kept := fun hkept => (h.kept hkept).of_same hget hdecisions
  used := fun event cascade hparse hok => by
    rw [hget]
    exact h.used event cascade hparse hok

variable (fromIso d m) in
theorem attempt_meets (hkept : DecisionsKept w) :
    (d.attempt fromIso m).Meets w
      (fun _ w' => Attempted fromIso d m w w' ∧ w'.bus = w.bus.ack m.stream m.messageId ∧
        ∃ event cascade, Completes fromIso d m event w ∧ Settled (eventRunId event) cascade w')
      fun _ w' => Attempted fromIso d m w w' ∧ w'.bus = w.bus ∧
        ∀ event, ¬ Completes fromIso d m event w := by
  unfold Delivery.attempt
  refine Fallible.meets_bind (Fallible.meets_ofExcept (fun event hparse => ?_) fun e hparse => ?_)
  · have hunique : ∀ {event'}, Completes fromIso d m event' w → event = event' := fun h =>
      Except.ok.inj (hparse.symm.trans h.parsed)
    have hobtain := obtainCascade_meets d event w
    refine Fallible.meets_bind ⟨fun w₁ cascade hrun => ?_, fun w₁ e hrun => ?_⟩
    · obtain ⟨hobtains, hadvances, hbus, hdecisions, hsteps, hrecorded, hused⟩ :=
        hobtain.ok w₁ cascade hrun
      have hcongr : Persists d (eventRunId event) cascade w₁ ↔
          Persists d (eventRunId event) cascade w := persists_congr hsteps hdecisions
      -- what is recorded from here on is the cascade
      have hattempted : ∀ w₂, Advances d (eventRunId event) w₁ w₂ → Attempted fromIso d m w w₂ :=
        fun w₂ h => .of_advances hparse (hadvances.trans h) fun cascade' hok => by
          rw [hrun] at hok
          cases hok
          exact h.get_of_some hrecorded
      refine Fallible.meets_bind ((settle_meets (hadvances.kept hkept) hrecorded).mono
        (fun settled w₂ h => Fallible.meets_ret ?_) fun e w₂ h => ?_)
      · obtain ⟨⟨hpersists, hfinish⟩, hadvances₂, hacked, hsettled⟩ := h
        refine ⟨hattempted w₂ hadvances₂, by rw [hacked, hbus], event, cascade,
          ⟨hparse, hobtains, fun cascade' hused' => ?_, hfinish⟩, hsettled⟩
        obtain rfl : cascade = cascade' := Option.some.inj (hused.symm.trans hused')
        exact hcongr.mp hpersists
      · obtain ⟨hstop, hadvances₂, hbus₂⟩ := h
        refine ⟨hattempted w₂ hadvances₂, by rw [hbus₂, hbus], fun event' h => hstop ?_⟩
        obtain rfl := hunique h
        exact ⟨hcongr.mpr (h.persists cascade hused), h.finishDone⟩
    · obtain ⟨hstop, hadvances, hbus⟩ := hobtain.error w₁ e hrun
      refine ⟨.of_advances hparse hadvances fun cascade hok => ?_, hbus, fun event' h => ?_⟩
      · rw [hrun] at hok
        cases hok
      · obtain rfl := hunique h
        exact hstop h.obtains
  · refine ⟨⟨fun _ => .inl rfl, id, fun event cascade hok => ?_⟩, rfl, fun event h => ?_⟩
    · rw [hparse] at hok
      cases hok
    · have hok := h.parsed
      rw [hparse] at hok
      cases hok

/-- Journal steps and decisions that are those of another state. -/
structure SameRecords (w w' : WorkerState) : Prop where
  get : ∀ r k, w'.journal.get r k = w.journal.get r k
  decisions : w'.decisions = w.decisions

variable (fromIso d m w) in
theorem recordFailure_meets :
    (d.recordFailure fromIso m).Meets w
      (fun _ w' => (d.fault .finishFailed = none ∨ Delivery.runIdFromMessage fromIso m = none) ∧
        w'.bus = w.bus ∧ SameRecords w w')
      fun _ w' => d.fault .finishFailed ≠ none ∧ w'.bus = w.bus ∧ SameRecords w w' := by
  unfold Delivery.recordFailure
  cases hrun : Delivery.runIdFromMessage fromIso m with
  | none => exact Fallible.meets_ret ⟨.inr rfl, rfl, fun _ _ => rfl, rfl⟩
  | some runId =>
    refine meets_call (fun hnone => ?_) fun hsome e => ?_
    · exact Fallible.meets_update ⟨.inl hnone, rfl, fun _ _ => rfl, rfl⟩
    · exact ⟨⟨hsome, rfl, fun _ _ => rfl, rfl⟩, hsome, rfl, fun _ _ => rfl, rfl⟩

variable (fromIso d m w) in
theorem handleFailure_meets (e : Exc) :
    (d.handleFailure fromIso m e).Meets w
      (fun _ w' => (d.fault .finishFailed = none ∨ Delivery.runIdFromMessage fromIso m = none) ∧
        w'.bus = (w.bus.nack m.messageId).1 ∧ SameRecords w w')
      fun _ w' => d.fault .finishFailed ≠ none ∧ w'.bus = w.bus ∧ SameRecords w w' := by
  unfold Delivery.handleFailure
  refine Fallible.meets_bind ((recordFailure_meets fromIso d m w).mono (fun _ w₁ h => ?_) fun _ _ h => h)
  obtain ⟨hrecorded, hbus, hsame⟩ := h
  refine Fallible.meets_bind ⟨fun w₂ deadLettered hrun => ?_, fun w₂ e hrun => ?_⟩
  · obtain rfl := congrArg Prod.fst hrun
    refine Fallible.meets_ret ⟨hrecorded, ?_, hsame.get, hsame.decisions⟩
    exact congrArg (fun bus => (EventBus.nack m.messageId bus).1) hbus
  · cases congrArg Prod.snd hrun

/-- What a delivery of `m` comes to: it is acknowledged, it is given back, or it is lost. -/
inductive Delivered (fromIso : String → Option Timestamp) (d : Delivery) (m : BusMessage)
    (w w' : WorkerState) : Prop
  | acknowledged (event : Event) (cascade : Items)
      (completes : Completes fromIso d m event (d.consumed w))
      (bus : w'.bus = (d.consumed w).bus.ack m.stream m.messageId)
      (settled : Settled (eventRunId event) cascade w')
  | returned (stopped : ∀ event, ¬ Completes fromIso d m event (d.consumed w))
      (recorded : d.fault .finishFailed = none ∨ Delivery.runIdFromMessage fromIso m = none)
      (bus : w'.bus = ((d.consumed w).bus.nack m.messageId).1)
  | lost (stopped : ∀ event, ¬ Completes fromIso d m event (d.consumed w))
      (raised : d.fault .finishFailed ≠ none) (bus : w'.bus = (d.consumed w).bus)

variable (fromIso) in
theorem delivered_processOne (hkept : DecisionsKept w)
    (hconsume : (w.bus.consumeOne d.stream).2 = some m) :
    Attempted fromIso d m (d.consumed w) ((processOne fromIso d).run w).1 ∧
      Delivered fromIso d m w ((processOne fromIso d).run w).1 := by
  have hkept₀ : DecisionsKept (d.consumed w) := ⟨hkept.unrecorded, hkept.persisted⟩
  have hattempt := attempt_meets fromIso d m hkept₀
  rcases hrun : (d.attempt fromIso m).run (d.consumed w) with ⟨w₁, e | result⟩
  · obtain ⟨hattempted, hbus₁, hstopped⟩ := hattempt.error w₁ e hrun
    have hprocess : (processOne fromIso d).run w = (d.handleFailure fromIso m e).run w₁ := by
      change processOne fromIso d w = _
      unfold processOne
      rw [hconsume]
      dsimp only
      rw [hrun]
    have hfailure := handleFailure_meets fromIso d m w₁ e
    rw [hprocess]
    rcases hhandle : (d.handleFailure fromIso m e).run w₁ with ⟨w₂, e' | result⟩
    · obtain ⟨hraised, hbus₂, hsame⟩ := hfailure.error w₂ e' hhandle
      exact ⟨hattempted.of_same hsame.get hsame.decisions, .lost hstopped hraised (hbus₂.trans hbus₁)⟩
    · obtain ⟨hrecorded, hbus₂, hsame⟩ := hfailure.ok w₂ result hhandle
      refine ⟨hattempted.of_same hsame.get hsame.decisions, .returned hstopped hrecorded ?_⟩
      rw [hbus₂, hbus₁]
  · obtain ⟨hattempted, hbus₁, event, cascade, hcompletes, hsettled⟩ := hattempt.ok w₁ result hrun
    have hprocess : (processOne fromIso d).run w = (w₁, .ok result) := by
      change processOne fromIso d w = _
      unfold processOne
      rw [hconsume]
      dsimp only
      rw [hrun]
    rw [hprocess]
    exact ⟨hattempted, .acknowledged event cascade hcompletes hbus₁ hsettled⟩

theorem processOne_idle (hconsume : (w.bus.consumeOne d.stream).2 = none) :
    ((processOne fromIso d).run w).1 = w := by
  have hprocess : ((processOne fromIso d).run w).1 = d.consumed w := by
    change (processOne fromIso d w).1 = _
    unfold processOne
    rw [hconsume]
  rw [hprocess, Delivery.consumed, EventBus.consumeOne_of_none hconsume]

theorem completes_consumed {event : Event} :
    Completes fromIso d m event (d.consumed w) ↔ Completes fromIso d m event w :=
  ⟨fun h => ⟨h.parsed, ⟨h.obtains.startRun, h.obtains.lookupCascade, h.obtains.handler⟩, h.persists,
    h.finishDone⟩, fun h => ⟨h.parsed, ⟨h.obtains.startRun, h.obtains.lookupCascade,
    h.obtains.handler⟩, h.persists, h.finishDone⟩⟩

/-- A message of the bus names a run. -/
theorem runIdFromMessage_busMessage (event : Event) (n : ℕ) :
    Delivery.runIdFromMessage fromIso (busMessage event n) ≠ none := by
  unfold Delivery.runIdFromMessage
  split
  · exact Option.some_ne_none _
  · have hid : Value.get (busMessage event n).event "id" = .str event.id := rfl
    have htext : ∀ v : Value, (Value.str event.id).orElse v = .str event.id := fun v => by
      simp [Value.orElse, Value.truthy, event.id_ne]
    dsimp only
    rw [hid, htext, htext, Value.toText_str, if_neg event.id_ne]
    exact Option.some_ne_none _

end Delivery

/-! ## The bus after a delivery -/

section Bus

variable {fromIso : String → Option Timestamp} {d : Delivery} {m x : BusMessage} {w w' : WorkerState}

/-- What a delivery of `m` leaves on the bus; `lost` says whether `m` has come off it. -/
structure BusAfter (m : BusMessage) (w w' : WorkerState) (lost : Prop) : Prop where
  carries : w'.bus.Carries
  messages : w'.bus.messages = w.bus.messages
  maxRetries : w'.bus.maxRetries = w.bus.maxRetries
  kept : ¬ lost → ∀ x ∈ w.bus.messages, w'.bus.places x = w.bus.places x
  gone : lost → ∀ x, w'.bus.places x + (if m = x then 1 else 0) = w.bus.places x
  pending : ∀ x ∈ w'.bus.pending, (x ≠ m ∧ x ∈ w.bus.pending ∧
      w'.bus.deliveryCounts.get? x.messageId = w.bus.deliveryCounts.get? x.messageId) ∨
    (x = m ∧ w'.bus.deliveryCounts.get? m.messageId =
      some ((w.bus.deliveryCounts.get? m.messageId).getD 0 + 1) ∧
      (w.bus.deliveryCounts.get? m.messageId).getD 0 + 1 < w.bus.maxRetries)

/-- A message stands once among the pending ones, and then nowhere else. -/
theorem once_of_pending {bus : EventBus} (honce : bus.places m ≤ 1) (hm : m ∈ bus.pending) :
    bus.pending.count m = 1 ∧ bus.acked.count (EventBus.ackName m) = 0 ∧
      bus.deadLetter.count m = 0 := by
  have hpos := List.count_pos_iff.mpr hm
  unfold EventBus.places at honce
  omega

theorem Delivered.bus (h : Delivered fromIso d m w w') (hcarries : w.bus.Carries)
    (honce : ∀ m ∈ w.bus.messages, w.bus.places m ≤ 1)
    (hconsume : (w.bus.consumeOne d.stream).2 = some m) :
    BusAfter m w w' ((∀ event, ¬ Completes fromIso d m event (d.consumed w)) ∧
      d.fault .finishFailed ≠ none) := by
  have hconsumes := EventBus.consumeOne_of_some hconsume
  have hm : m ∈ w.bus.messages := hcarries.pending m hconsumes.mem_pending
  have hcarries₀ : (d.consumed w).bus.Carries := hconsumes.carries hcarries
  have hm₀ : m ∈ (d.consumed w).bus.messages := hconsumes.messages ▸ hm
  have hplaces : ∀ x, w.bus.places x = (d.consumed w).bus.places x + if m = x then 1 else 0 :=
    hconsumes.places
  -- what is still pending is not the message, and its count has not changed
  have hrest : ∀ x ∈ (d.consumed w).bus.pending, x ≠ m ∧ x ∈ w.bus.pending ∧
      m.messageId ≠ x.messageId ∧ (d.consumed w).bus.deliveryCounts.get? x.messageId =
        w.bus.deliveryCounts.get? x.messageId := by
    intro x hx
    have hpending : x ∈ w.bus.pending := hconsumes.pending.mem_iff.mpr (List.mem_cons_of_mem _ hx)
    have hne : x ≠ m := by
      rintro rfl
      have hcount := (once_of_pending (honce x hm) hconsumes.mem_pending).1
      rw [hconsumes.pending.count_eq, List.count_cons_self] at hcount
      have hpos := List.count_pos_iff.mpr hx
      have hzero : List.count x (d.consumed w).bus.pending = 0 := Nat.succ.inj hcount
      omega
    have hid : m.messageId ≠ x.messageId := fun hid =>
      hne (hcarries.eq_of_messageId hm (hcarries.pending x hpending) hid).symm
    refine ⟨hne, hpending, hid, ?_⟩
    change ((w.bus.consumeOne d.stream).1.deliveryCounts).get? _ = _
    rw [hconsumes.counts, Dict.get?_set_ne _ hid]
  have hcount : (d.consumed w).bus.deliveryCounts.get? m.messageId =
      some ((w.bus.deliveryCounts.get? m.messageId).getD 0 + 1) := by
    change ((w.bus.consumeOne d.stream).1.deliveryCounts).get? _ = _
    rw [hconsumes.counts, Dict.get?_set_self]
  cases h with
  | acknowledged event cascade completes bus settled =>
    refine ⟨bus ▸ hcarries₀.ack hm₀, ?_, ?_, fun _ x hx => ?_, fun hlost => ?_, fun x hx => ?_⟩
    · rw [bus]
      exact hconsumes.messages
    · rw [bus]
      exact hconsumes.maxRetries
    · rw [bus, EventBus.places_ack hcarries₀ hm₀ (hconsumes.messages ▸ hx), hplaces]
    · exact absurd completes (hlost.1 event)
    · rw [bus] at hx
      obtain ⟨hne, hpending, hid, hsame⟩ := hrest x hx
      refine .inl ⟨hne, hpending, ?_⟩
      rw [bus]
      exact (Dict.get?_pop_ne _ hid).trans hsame
  | returned stopped recorded bus =>
    have hreturns := EventBus.nack_returns hcarries₀ hm₀
    generalize (d.consumed w).bus.nack m.messageId = result at bus hreturns
    refine ⟨bus ▸ hreturns.carries hcarries₀ hm₀, ?_, ?_, fun _ x hx => ?_, fun hlost => ?_,
      fun x hx => ?_⟩
    · rw [bus, hreturns.messages]
      exact hconsumes.messages
    · rw [bus, hreturns.maxRetries]
      exact hconsumes.maxRetries
    · rw [bus, hreturns.places, hplaces]
    · rcases recorded with hnone | hrun
      · exact absurd hnone hlost.2
      · obtain ⟨event, n, hevent⟩ := hcarries.published hm
        rw [hevent] at hrun
        exact absurd hrun (runIdFromMessage_busMessage event n)
    · rw [bus] at hx ⊢
      cases hreturns with
      | deadLetter hspent =>
        obtain ⟨hne, hpending, hid, hsame⟩ := hrest x hx
        exact .inl ⟨hne, hpending, (Dict.get?_pop_ne _ hid).trans hsame⟩
      | pending hleft =>
        rw [hcount, Option.getD_some] at hleft
        rcases List.mem_append.mp hx with hx | hx
        · obtain ⟨hne, hpending, -, hsame⟩ := hrest x hx
          exact .inl ⟨hne, hpending, hsame⟩
        · have hretries : (d.consumed w).bus.maxRetries = w.bus.maxRetries := hconsumes.maxRetries
          exact .inr ⟨List.mem_singleton.mp hx, hcount, hretries ▸ hleft⟩
  | lost stopped raised bus =>
    refine ⟨bus ▸ hcarries₀, ?_, ?_, fun hkept => ?_, fun _ x => ?_, fun x hx => ?_⟩
    · rw [bus]
      exact hconsumes.messages
    · rw [bus]
      exact hconsumes.maxRetries
    · exact absurd ⟨stopped, raised⟩ hkept
    · rw [bus, hplaces]
    · rw [bus] at hx ⊢
      obtain ⟨hne, hpending, -, hsame⟩ := hrest x hx
      exact .inl ⟨hne, hpending, hsame⟩

end Bus

/-! ## Runs -/

section Runs

variable {fromIso : String → Option Timestamp} {history : List WorkerStep} {w : WorkerState}

/-- What holds at every point of every run, whatever raises. -/
structure RunKept (fromIso : String → Option Timestamp) (history : List WorkerStep)
    (w : WorkerState) : Prop where
  carries : w.bus.Carries
  decisions : DecisionsKept w
  recorded : ∀ r, firstOutput history r = w.journal.get r "cascade"
  once : ∀ m ∈ w.bus.messages, w.bus.places m ≤ 1
  unseen : ∀ m, m ∉ w.bus.messages → deliveries history m = 0
  /-- The bus counts the deliveries of a message as long as it is pending. -/
  counted : ∀ m ∈ w.bus.pending,
    w.bus.deliveryCounts.get? m.messageId = some (deliveries history m) ∧
      deliveries history m < w.bus.maxRetries
  delivered : ∀ m ∈ w.bus.messages, deliveries history m ≤ w.bus.maxRetries
  acknowledged : ∀ step ∈ history, AcknowledgedDone fromIso step
  handler : ∀ step ∈ history, RecordsHandler fromIso step
  uses : ∀ step ∈ history, UsesFirstOutput fromIso history step

theorem deliveries_append (history : List WorkerStep) (step : WorkerStep) (m : BusMessage) :
    deliveries (history ++ [step]) m =
      deliveries history m + if (deliveryOf step).map Prod.snd = some m then 1 else 0 := by
  unfold deliveries
  rw [List.countP_append, List.countP_singleton]
  simp only [decide_eq_true_eq]

theorem firstOutput_append (history : List WorkerStep) (step : WorkerStep) (r : String) :
    firstOutput (history ++ [step]) r = (firstOutput history r).or (recordedOutput r step) := by
  unfold firstOutput
  rw [List.findSome?_append, List.findSome?_singleton]

/-- The first output stays the first. -/
theorem firstOutput_append_of_some {r : String} {cascade : Items}
    (h : firstOutput history r = some cascade) (step : WorkerStep) :
    firstOutput (history ++ [step]) r = some cascade := by
  rw [firstOutput_append, h, Option.some_or]

/-- A step that keeps what is recorded keeps the first outputs and the journal together. -/
theorem firstOutput_step {r : String} (step : WorkerStep)
    (h : firstOutput history r = step.before.journal.get r "cascade")
    (hstep : step.after.journal.get r "cascade" = step.before.journal.get r "cascade" ∨
      step.before.journal.get r "cascade" = none) :
    firstOutput (history ++ [step]) r = step.after.journal.get r "cascade" := by
  rw [firstOutput_append, h, recordedOutput]
  cases hbefore : step.before.journal.get r "cascade" with
  | none => rw [if_pos rfl, Option.none_or]
  | some cascade =>
    rcases hstep with hsame | hnone
    · rw [Option.some_or, hsame, hbefore]
    · rw [hbefore] at hnone
      cases hnone

theorem runKept_init (fromIso : String → Option Timestamp) (maxRetries : ℤ) :
    RunKept fromIso [] (.init maxRetries) where
  carries := EventBus.carries_init maxRetries
  decisions := ⟨fun _ _ _ => rfl, fun _ _ _ hget => absurd hget.symm (Option.some_ne_none _)⟩
  recorded := fun _ => rfl
  once := fun _ hm => absurd hm List.not_mem_nil
  unseen := fun _ _ => rfl
  counted := fun _ hm => absurd hm List.not_mem_nil
  delivered := fun _ hm => absurd hm List.not_mem_nil
  acknowledged := fun _ hm => absurd hm List.not_mem_nil
  handler := fun _ hm => absurd hm List.not_mem_nil
  uses := fun _ hm => absurd hm List.not_mem_nil

/-- What a step without a delivery does to the records of the run: nothing. -/
theorem RunKept.quiet {step : WorkerStep} (h : RunKept fromIso history step.before) (hnone : deliveryOf step = none)
    (hsame : SameRecords step.before step.after) :
    DecisionsKept step.after ∧
      (∀ r, firstOutput (history ++ [step]) r = step.after.journal.get r "cascade") ∧
      (∀ m, deliveries (history ++ [step]) m = deliveries history m) ∧
      (∀ step' ∈ history ++ [step], AcknowledgedDone fromIso step') ∧
      (∀ step' ∈ history ++ [step], RecordsHandler fromIso step') ∧
      ∀ step' ∈ history ++ [step], UsesFirstOutput fromIso (history ++ [step]) step' := by
  refine ⟨?_, fun r => firstOutput_step step (h.recorded r) (.inl (hsame.get r _)), fun m => ?_,
    fun step' hmem => ?_, fun step' hmem => ?_, fun step' hmem => ?_⟩
  · exact h.decisions.of_same hsame.get hsame.decisions
  · rw [deliveries_append, hnone]
    rfl
  · rcases List.mem_append.mp hmem with hmem | hmem
    · exact h.acknowledged step' hmem
    · intro d m hdelivery
      rw [List.mem_singleton.mp hmem, hnone] at hdelivery
      cases hdelivery
  · rcases List.mem_append.mp hmem with hmem | hmem
    · exact h.handler step' hmem
    · intro r output hrecorded
      rw [List.mem_singleton.mp hmem, recordedOutput, hsame.get] at hrecorded
      split at hrecorded
      · rename_i hget
        rw [hget] at hrecorded
        cases hrecorded
      · cases hrecorded
  · rcases List.mem_append.mp hmem with hmem | hmem
    · exact fun d m event cascade hdelivery hparse hok =>
        firstOutput_append_of_some (h.uses step' hmem d m event cascade hdelivery hparse hok) step
    · intro d m event cascade hdelivery
      rw [List.mem_singleton.mp hmem, hnone] at hdelivery
      cases hdelivery

theorem RunKept.publish (h : RunKept fromIso history w) (event : Event) :
    RunKept fromIso (history ++ [stepOf (workerStep fromIso) w (.publish event)])
      (workerStep fromIso w (.publish event)).1 := by
  have hnone : deliveryOf (stepOf (workerStep fromIso) w (.publish event)) = none := rfl
  obtain ⟨hdecisions, hrecorded, hdeliveries, hacknowledged, hhandler, huses⟩ :=
    RunKept.quiet h hnone ⟨fun _ _ => rfl, rfl⟩
  have hcarries := h.carries.publish event
  have hnew := EventBus.new_not_mem h.carries event
  obtain ⟨hone, hothers⟩ := EventBus.places_publish h.carries event
  have hmessages : ∀ m ∈ (w.bus.publish event).1.messages,
      m ∈ w.bus.messages ∨ m = busMessage event w.bus.messages.length := fun m hm =>
    (List.mem_append.mp hm).imp_right List.mem_singleton.mp
  refine ⟨hcarries, hdecisions, hrecorded, fun m hm => ?_, fun m hm => ?_, fun m hm => ?_,
    fun m hm => ?_, hacknowledged, hhandler, huses⟩
  · rcases hmessages m hm with hm | rfl
    · exact (hothers m hm).le.trans (h.once m hm)
    · exact hone.le
  · rw [hdeliveries]
    exact h.unseen m fun hmem => hm (List.mem_append_left _ hmem)
  · rw [hdeliveries]
    rcases List.mem_append.mp hm with hpending | hself
    · have hmem := h.carries.pending m hpending
      have hid : (busMessage event w.bus.messages.length).messageId ≠ m.messageId := fun hid =>
        hnew (hcarries.eq_of_messageId (List.mem_append_right _ List.mem_cons_self)
          (List.mem_append_left _ hmem) hid ▸ hmem)
      refine ⟨?_, (h.counted m hpending).2⟩
      exact (Dict.get?_set_ne _ hid _).trans (h.counted m hpending).1
    · obtain rfl := List.mem_singleton.mp hself
      rw [h.unseen _ hnew]
      exact ⟨Dict.get?_set_self _ _ _, h.carries.positive⟩
  · rw [hdeliveries]
    rcases hmessages m hm with hm | rfl
    · exact h.delivered m hm
    · rw [h.unseen _ hnew]
      exact Nat.zero_le _

/-- A delivery keeps what holds at every point of a run. -/
theorem RunKept.process (h : RunKept fromIso history w) {d : Delivery} {m : BusMessage}
    (hconsume : (w.bus.consumeOne d.stream).2 = some m) :
    RunKept fromIso (history ++ [stepOf (workerStep fromIso) w (.process d)])
      (workerStep fromIso w (.process d)).1 := by
  obtain ⟨hattempted, hdelivered⟩ := delivered_processOne fromIso h.decisions hconsume
  have hbus := hdelivered.bus h.carries h.once hconsume
  have hpending := (EventBus.consumeOne_of_some hconsume).mem_pending
  have hm := h.carries.pending m hpending
  have hdelivery : deliveryOf (stepOf (workerStep fromIso) w (.process d)) = some (d, m) :=
    congrArg (Option.map fun m => (d, m)) hconsume
  have hdeliveries : ∀ x, deliveries (history ++ [stepOf (workerStep fromIso) w (.process d)]) x =
      deliveries history x + if m = x then 1 else 0 := fun x => by
    rw [deliveries_append, hdelivery]
    simp only [Option.map_some, Option.some.injEq]
  have hrecorded : ∀ r, firstOutput (history ++ [stepOf (workerStep fromIso) w (.process d)]) r =
      ((processOne fromIso d).run w).1.journal.get r "cascade" := fun r =>
    firstOutput_step (stepOf (workerStep fromIso) w (.process d)) (h.recorded r)
      ((hattempted.cascade r).imp_right And.left)
  refine ⟨hbus.carries, hattempted.kept ⟨h.decisions.unrecorded, h.decisions.persisted⟩, hrecorded,
    fun x hx => ?_, fun x hx => ?_, fun x hx => ?_, fun x hx => ?_, fun step hmem => ?_,
    fun step hmem => ?_, fun step hmem => ?_⟩
  · have hx' : x ∈ w.bus.messages := hbus.messages ▸ hx
    have honce := h.once x hx'
    by_cases hlost : (∀ event, ¬ Completes fromIso d m event (d.consumed w)) ∧
        d.fault .finishFailed ≠ none
    · have hgone := hbus.gone hlost x
      exact (Nat.le_add_right _ _).trans (hgone.le.trans honce)
    · exact (hbus.kept hlost x hx').le.trans honce
  · have hx' : x ∉ w.bus.messages := fun hmem => hx (hbus.messages.symm ▸ hmem)
    have hne : m ≠ x := fun heq => hx' (heq ▸ hm)
    rw [hdeliveries, if_neg hne, h.unseen x hx']
  · obtain ⟨hcount, hleft⟩ := h.counted m hpending
    rcases hbus.pending x hx with ⟨hne, hpending', hsame⟩ | ⟨rfl, hcount', hleft'⟩
    · rw [hdeliveries, if_neg hne.symm]
      exact ⟨hsame.trans (h.counted x hpending').1,
        (h.counted x hpending').2.trans_eq hbus.maxRetries.symm⟩
    · rw [hcount, Option.getD_some] at hcount' hleft'
      rw [hdeliveries, if_pos rfl]
      exact ⟨hcount', hleft'.trans_eq hbus.maxRetries.symm⟩
  · have hx' : x ∈ w.bus.messages := hbus.messages ▸ hx
    rw [hdeliveries]
    refine le_of_le_of_eq ?_ hbus.maxRetries.symm
    split
    · rename_i heq
      exact heq ▸ (h.counted m hpending).2
    · exact h.delivered x hx'
  · rcases List.mem_append.mp hmem with hmem | hmem
    · exact h.acknowledged step hmem
    · obtain rfl := List.mem_singleton.mp hmem
      intro d' m' hdelivery' hacked
      cases hdelivery.symm.trans hdelivery'
      -- the message was pending, so nothing but this delivery can have acknowledged it
      have hunacked : EventBus.ackName m ∉ w.bus.acked := List.count_eq_zero.mp
        (once_of_pending (h.once m hm) hpending).2.1
      have hconsumes := EventBus.consumeOne_of_some hconsume
      cases hdelivered with
      | acknowledged event cascade completes bus settled =>
        exact ⟨event, cascade, completes.parsed, settled.recorded, settled.decision, settled.status⟩
      | returned stopped recorded bus =>
        have hreturns := EventBus.nack_returns (hconsumes.carries h.carries)
          (hconsumes.messages ▸ hm)
        have hsame : ((processOne fromIso d).run w).1.bus.acked = w.bus.acked := by
          rw [bus]
          exact hreturns.acked.trans hconsumes.acked
        exact absurd (hsame ▸ hacked) hunacked
      | lost stopped raised bus =>
        have hsame : ((processOne fromIso d).run w).1.bus.acked = w.bus.acked := by
          rw [bus]
          exact hconsumes.acked
        exact absurd (hsame ▸ hacked) hunacked
  · rcases List.mem_append.mp hmem with hmem | hmem
    · exact h.handler step hmem
    · obtain rfl := List.mem_singleton.mp hmem
      intro r output houtput
      unfold recordedOutput at houtput
      split at houtput
      · rename_i hnone
        rcases hattempted.cascade r with hsame | ⟨-, event, output', hparse, hr, hanswer, hsome⟩
        · have hget : w.journal.get r "cascade" = some output := hsame.symm.trans houtput
          exact absurd (hget.symm.trans hnone) (Option.some_ne_none _)
        · obtain rfl : output' = output := Option.some.inj (hsome.symm.trans houtput)
          exact ⟨d, m, event, hdelivery, hparse, hr, hanswer⟩
      · cases houtput
  · rcases List.mem_append.mp hmem with hmem | hmem
    · exact fun d m event cascade hdelivery hparse hok =>
        firstOutput_append_of_some (h.uses step hmem d m event cascade hdelivery hparse hok) _
    · obtain rfl := List.mem_singleton.mp hmem
      intro d' m' event cascade hdelivery' hparse hok
      cases hdelivery.symm.trans hdelivery'
      rw [hrecorded]
      exact hattempted.used event cascade hparse hok

theorem RunKept.after_call (h : RunKept fromIso history w) (call : WorkerCall) :
    RunKept fromIso (history ++ [stepOf (workerStep fromIso) w call])
      (workerStep fromIso w call).1 := by
  cases call with
  | publish event => exact h.publish event
  | process d =>
    cases hconsume : (w.bus.consumeOne d.stream).2 with
    | some m => exact h.process hconsume
    | none =>
      -- nothing was delivered
      have hsame : (workerStep fromIso w (.process d)).1 = w := processOne_idle hconsume
      have hnone : deliveryOf (stepOf (workerStep fromIso) w (.process d)) = none :=
        congrArg (Option.map fun m => (d, m)) hconsume
      obtain ⟨-, hrecorded, hdeliveries, hacknowledged, hhandler, huses⟩ :=
        RunKept.quiet h hnone ⟨fun r k => congrArg (fun w => w.journal.get r k) hsame,
            congrArg WorkerState.decisions hsame⟩
      have hget : ∀ r, (workerStep fromIso w (.process d)).1.journal.get r "cascade" =
          w.journal.get r "cascade" := fun r => congrArg (fun w => w.journal.get r "cascade") hsame
      rw [hsame]
      refine ⟨h.carries, h.decisions, fun r => (hrecorded r).trans (hget r), h.once, fun m hm => ?_,
        fun m hm => ?_, fun m hm => ?_, hacknowledged, hhandler, huses⟩
      · exact (hdeliveries m).trans (h.unseen m hm)
      · rw [hdeliveries]
        exact h.counted m hm
      · exact (hdeliveries m).le.trans (h.delivered m hm)

theorem nothingLost_iff (h : RunKept fromIso history w) :
    NothingLost fromIso history w ↔ ∀ m ∈ w.bus.messages, w.bus.places m = 1 :=
  ⟨fun hlost => hlost.placed, fun hplaced => ⟨hplaced, h.delivered, h.acknowledged, h.handler,
    h.uses⟩⟩

/-- From a state in which nothing is lost, a call leads to one exactly when it records its failure or
has none to record. -/
theorem nothingLost_step_iff (h : RunKept fromIso history w)
    (hplaced : ∀ m ∈ w.bus.messages, w.bus.places m = 1) (call : WorkerCall) :
    (∀ m ∈ (workerStep fromIso w call).1.bus.messages,
      (workerStep fromIso w call).1.bus.places m = 1) ↔
    FailureRecorded fromIso (stepOf (workerStep fromIso) w call) := by
  cases call with
  | publish event =>
    obtain ⟨hone, hothers⟩ := EventBus.places_publish h.carries event
    refine iff_of_true (fun m hm => ?_) fun d m hdelivery => ?_
    · rcases List.mem_append.mp hm with hm | hm
      · exact (hothers m hm).trans (hplaced m hm)
      · rw [List.mem_singleton.mp hm]
        exact hone
    · cases hdelivery
  | process d =>
    cases hconsume : (w.bus.consumeOne d.stream).2 with
    | none =>
      have hsame : (workerStep fromIso w (.process d)).1 = w := processOne_idle hconsume
      have hnone : deliveryOf (stepOf (workerStep fromIso) w (.process d)) = none :=
        congrArg (Option.map fun m => (d, m)) hconsume
      rw [hsame]
      refine iff_of_true hplaced fun d m hdelivery => ?_
      rw [hnone] at hdelivery
      cases hdelivery
    | some m =>
      have hm := h.carries.pending m (EventBus.consumeOne_of_some hconsume).mem_pending
      have hdelivery : deliveryOf (stepOf (workerStep fromIso) w (.process d)) = some (d, m) :=
        congrArg (Option.map fun m => (d, m)) hconsume
      have hbus := (delivered_processOne fromIso h.decisions hconsume).2.bus h.carries h.once hconsume
      constructor
      · intro hafter d' m' hdelivery'
        cases hdelivery.symm.trans hdelivery'
        by_contra hunrecorded
        rw [not_or, not_exists] at hunrecorded
        -- the message has come off the bus
        have hgone := hbus.gone ⟨fun event hcompletes =>
          hunrecorded.1 event (completes_consumed.mp hcompletes), hunrecorded.2⟩ m
        have hone : ((processOne fromIso d).run w).1.bus.places m = 1 :=
          hafter m (hbus.messages.symm ▸ hm)
        rw [if_pos rfl, hone, hplaced m hm] at hgone
        cases hgone
      · intro hrecorded x hx
        have hx' : x ∈ w.bus.messages := hbus.messages ▸ hx
        refine (hbus.kept (fun hlost => ?_) x hx').trans (hplaced x hx')
        rcases hrecorded d m hdelivery with ⟨event, hcompletes⟩ | hnone
        · exact hlost.1 event (completes_consumed.mpr hcompletes)
        · exact hlost.2 hnone

end Runs

/-- A scan of a shelf. -/
def shelfScan : Event where
  id := "evt_shelf_1"
  type := .scan
  ts := ⟨1000000, "2026-07-01T00:00:01+00:00"⟩
  actor := "scanner"
  payload := [("sku", .str "4011")]
  source := .scanner
  tenantId := "tenant_a"
  dataDomain := .operationalTwin
  correlationId := "evt_shelf_1"
  causationId := none
  schemaVersion := "v1"
  id_ne := by decide +kernel
  actor_ne := scanner_ne
  tenantId_ne := tenantA_ne
  correlationId_ne := by decide +kernel

/-- A delivery whose handler raises while the journal cannot be written. -/
def downDelivery : Delivery where
  stream := none
  now := "2026-07-01T00:00:02+00:00"
  answer := .error (.raised "RuntimeError" "boom")
  fault := fun c =>
    if c = .finishFailed then some ⟨.raised "OperationalError" "connection refused", false⟩ else none

end ShelfWise.Worker
