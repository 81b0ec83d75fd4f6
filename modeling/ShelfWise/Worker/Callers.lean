import ShelfWise.Sys.Program
import ShelfWise.Sys.Run
import ShelfWise.Worker.Plans

/-!
# Callers of one journaled step

`journaled` of `journal.py` and `_run_step` of `plans.py` for one run id and step key, as programs of
atomic steps: the journal's lock covers a `get` or a `put`, not the time between them. Any number of
callers run at once over one journal.

A caller that finds nothing calls its handler and, once it has an output, returns that output,
whatever is recorded by then; and `put` keeps the first output but appends every compensation.
`journal_agreement_iff` says which interleavings come out right.
-/

namespace ShelfWise.Worker

open Py Sys

/-- `compensations`: the newest first. -/
def Journal.listCompensations (runId : String) (j : Journal) : List Items :=
  ((j.compensations.get? runId).getD []).reverse

/-! ## Programs -/

/-- The steps of a caller. `recheck` is the `get` of the `journaled` call inside `_run_step`. -/
inductive JournalOp where
  | get
  | handler
  | recheck
  | put
deriving DecidableEq

/-- What a caller runs. -/
abbrev CallerProgram := Program JournalOp Journal (Except Exc Items)

/-- A step that reads the journal. -/
def lookupStep (op : JournalOp) (runId stepKey : String) : Program JournalOp Journal (Option Items) :=
  Program.call op fun j => (j, j.get runId stepKey)

/-- The handler: an output or an exception. -/
def handlerStep (answer : Except Exc Items) : CallerProgram :=
  Program.call .handler fun j => (j, answer)

/-- The step that writes the journal. -/
def putStep (runId stepKey : String) (compensation : Option Items) (output : Items) :
    CallerProgram :=
  Program.call .put (fun j => (j.put runId stepKey output compensation, ())) >>= fun _ =>
    .ret (.ok output)

/-- A recorded output is the answer; without one the program goes on. -/
def recordedOr (p : CallerProgram) : Option Items → CallerProgram
  | some seen => .ret (.ok seen)
  | none => p

/-- `journaled`. -/
def journaledCall (op : JournalOp) (runId stepKey : String) (fn : CallerProgram)
    (compensation : Option Items) : CallerProgram :=
  lookupStep op runId stepKey >>= recordedOr (fn.bindExcept (putStep runId stepKey compensation))

/-- What `_run_step` does with the output of its handler: it hands it to `journaled`, and returns
it. -/
def recordOutput (runId stepKey : String) (compensation : Option Items) (output : Items) :
    CallerProgram :=
  (journaledCall .recheck runId stepKey (.ret (.ok output)) compensation).bindExcept fun _ =>
    .ret (.ok output)

/-- `_run_step`. -/
def runStepCall (runId stepKey : String) (answer : Except Exc Items)
    (compensation : Option Items) : CallerProgram :=
  lookupStep .get runId stepKey >>=
    recordedOr ((handlerStep answer).bindExcept (recordOutput runId stepKey compensation))

/-- Without interruption `journaled` is the function of the sequential model. -/
theorem run_journaledCall (runId stepKey : String) (output : Items) (compensation : Option Items)
    (j : Journal) :
    (journaledCall .get runId stepKey (handlerStep (.ok output)) compensation).run j =
      (j.journaled runId stepKey output compensation,
        .ok ((j.get runId stepKey).getD output)) := by
  unfold journaledCall Journal.journaled lookupStep
  rw [Program.run_bind, Program.run_call]
  cases j.get runId stepKey with
  | some seen => rfl
  | none => rfl

/-- Without interruption `_run_step` is the function of the sequential model. -/
theorem run_runStepCall {σ : Type} (runId : String) (step : PlanStep) (capability : Capability σ)
    (w : Journal × σ) :
    (runStepCall runId step.key (capability.handler step.params w.2).2 step.compensation).run w.1 =
      ((runStep runId step capability w).1.1, (runStep runId step capability w).2) := by
  unfold runStepCall runStep lookupStep
  rw [Program.run_bind, Program.run_call]
  cases hget : w.1.get runId step.key with
  | some seen => rfl
  | none =>
    dsimp only [recordedOr]
    obtain ⟨s, e | output⟩ := capability.handler step.params w.2
    · rfl
    · -- nothing has been recorded in between
      change (recordOutput runId step.key step.compensation output).run w.1 = _
      have hrun : (journaledCall .recheck runId step.key (.ret (.ok output))
          step.compensation).run w.1 =
          (w.1.journaled runId step.key output step.compensation, .ok output) := by
        unfold journaledCall Journal.journaled lookupStep
        rw [Program.run_bind, Program.run_call]
        rw [hget]
        rfl
      unfold recordOutput Program.bindExcept
      rw [Program.run_bind, hrun]
      rfl

/-! ## Callers -/

/-- Which of the two functions a caller runs. -/
inductive CallerKind where
  | journaled
  | runStep
deriving DecidableEq

/-- A caller: what its handler answers, and the compensation of the step. -/
structure Caller where
  kind : CallerKind
  answer : Except Exc Items
  compensation : Option Items

section Callers

variable (runId stepKey : String)

/-- What a caller does with the output of its handler. -/
def Caller.record (c : Caller) (output : Items) : CallerProgram :=
  match c.kind with
  | .journaled => putStep runId stepKey c.compensation output
  | .runStep => recordOutput runId stepKey c.compensation output

/-- What a caller does when it has found nothing. -/
def Caller.compute (c : Caller) : CallerProgram :=
  (handlerStep c.answer).bindExcept (c.record runId stepKey)

/-- A caller before its first step. -/
def Caller.program (c : Caller) : CallerProgram :=
  match c.kind with
  | .journaled => journaledCall .get runId stepKey (handlerStep c.answer) c.compensation
  | .runStep => runStepCall runId stepKey c.answer c.compensation

theorem Caller.program_eq (c : Caller) :
    c.program runId stepKey =
      lookupStep .get runId stepKey >>= recordedOr (c.compute runId stepKey) := by
  obtain ⟨kind, answer, compensation⟩ := c
  cases kind with
  | journaled => rfl
  | runStep => rfl

theorem Caller.nextLabel_program (c : Caller) :
    (c.program runId stepKey).nextLabel = some .get := by
  rw [c.program_eq runId stepKey]
  rfl

theorem recordOutput_eq (compensation : Option Items) (output : Items) :
    recordOutput runId stepKey compensation output =
      lookupStep .recheck runId stepKey >>= fun seen =>
        (recordedOr (putStep runId stepKey compensation output) seen).bindExcept fun _ =>
          .ret (.ok output) := rfl

/-- Where a caller stands. -/
inductive CallerStage (c : Caller) : CallerProgram → Prop
  | start : CallerStage c (c.program runId stepKey)
  | compute : CallerStage c (c.compute runId stepKey)
  | recheck {output : Items} (h : c.answer = .ok output) :
      CallerStage c (recordOutput runId stepKey c.compensation output)
  | put {output : Items} (h : c.answer = .ok output) :
      CallerStage c (putStep runId stepKey c.compensation output)
  | returned (r : Except Exc Items) : CallerStage c (.ret r)

/-- What a caller's next step can come to: the label, and the journal and program it leaves. -/
inductive CallerMove (c : Caller) (j : Journal) :
    CallerProgram → Option JournalOp → Journal → CallerProgram → Prop
  | found {seen : Items} (hget : j.get runId stepKey = some seen) :
      CallerMove c j (c.program runId stepKey) (some .get) j (.ret (.ok seen))
  | missed (hget : j.get runId stepKey = none) :
      CallerMove c j (c.program runId stepKey) (some .get) j (c.compute runId stepKey)
  | raised {e : Exc} (h : c.answer = .error e) :
      CallerMove c j (c.compute runId stepKey) (some .handler) j (.ret (.error e))
  | computed {output : Items} (h : c.answer = .ok output) :
      CallerMove c j (c.compute runId stepKey) (some .handler) j (c.record runId stepKey output)
  | late {output seen : Items} (h : c.answer = .ok output)
      (hget : j.get runId stepKey = some seen) :
      CallerMove c j (recordOutput runId stepKey c.compensation output) (some .recheck) j
        (.ret (.ok output))
  | clear {output : Items} (h : c.answer = .ok output) (hget : j.get runId stepKey = none) :
      CallerMove c j (recordOutput runId stepKey c.compensation output) (some .recheck) j
        (putStep runId stepKey c.compensation output)
  | put {output : Items} (h : c.answer = .ok output) :
      CallerMove c j (putStep runId stepKey c.compensation output) (some .put)
        (j.put runId stepKey output c.compensation) (.ret (.ok output))
  | idle (r : Except Exc Items) : CallerMove c j (.ret r) none j (.ret r)

variable {ι : Type}

/-- The journal and what is left of each caller. -/
abbrev CallerPool (ι : Type) := Program.Pool ι JournalOp Journal (Except Exc Items)

/-- The callers before any of them has taken a step. -/
def startCallers (callers : ι → Caller) (j : Journal) : CallerPool ι :=
  ⟨j, fun i => (callers i).program runId stepKey⟩

/-! ## Agreement -/

/-- One step of a schedule. -/
abbrev CallerStep (ι : Type) := Step (CallerPool ι) ι Unit

/-- The callers that have written, in order. -/
def putters (history : List (CallerStep ι)) : List ι :=
  history.filterMap fun step =>
    if (step.before.program step.input).nextLabel = some .put then some step.input else none

/-- The compensation of the caller whose output was recorded. -/
def recordedCompensation (callers : ι → Caller) (history : List (CallerStep ι)) : List Items :=
  ((putters history).head?.bind fun i => (callers i).compensation).toList

/-- The callers agree with the journal: an output returned is the one recorded, and the
compensation of the recorded step is listed once, before those that were there. -/
structure Agreed (callers : ι → Caller) (start : Journal) (history : List (CallerStep ι))
    (w : CallerPool ι) : Prop where
  agreement : ∀ i output, w.program i = .ret (.ok output) →
    w.store.get runId stepKey = some output
  compensations : w.store.listCompensations runId =
    recordedCompensation callers history ++ start.listCompensations runId

/-- A caller whose output comes after another was recorded has the same output, and when it writes
it has no compensation. -/
def Undisputed (callers : ι → Caller) (step : CallerStep ι) : Prop :=
  ∀ seen, step.before.store.get runId stepKey = some seen →
    ((step.before.program step.input).nextLabel = some .put →
      (callers step.input).answer = .ok seen ∧ (callers step.input).compensation = none) ∧
    ((step.before.program step.input).nextLabel = some .recheck →
      (callers step.input).answer = .ok seen)

/-! ## What every schedule keeps -/

/-- What holds at every point of every schedule. -/
structure CallersKept (callers : ι → Caller) (start : Journal) (history : List (CallerStep ι))
    (w : CallerPool ι) : Prop where
  stage : ∀ i, CallerStage runId stepKey (callers i) (w.program i)
  /-- A caller goes past its first step only when nothing was recorded at the start. -/
  fresh : ∀ i op, (w.program i).nextLabel = some op → op ≠ .get → start.get runId stepKey = none
  /-- The step is recorded by the first caller that writes. -/
  written : putters history ≠ [] → w.store.get runId stepKey ≠ none
  unwritten : putters history = [] → w.store.get runId stepKey = start.get runId stepKey
  /-- Every caller that writes appends its compensation. -/
  compensations : w.store.listCompensations runId =
    ((putters history).filterMap fun i => (callers i).compensation).reverse ++
      start.listCompensations runId

theorem putters_append (history : List (CallerStep ι)) (step : CallerStep ι) :
    putters (history ++ [step]) = putters history ++
      if (step.before.program step.input).nextLabel = some .put then [step.input] else [] := by
  unfold putters
  rw [List.filterMap_append, List.filterMap_cons, List.filterMap_nil]
  by_cases hput : (step.before.program step.input).nextLabel = some .put
  · simp only [if_pos hput]
  · simp only [if_neg hput]

theorem listCompensations_put (output : Items) (compensation : Option Items) (j : Journal) :
    (j.put runId stepKey output compensation).listCompensations runId =
      compensation.toList ++ j.listCompensations runId := by
  unfold Journal.listCompensations Journal.put
  cases compensation with
  | none => rfl
  | some c =>
    dsimp only
    rw [Dict.get?_set_self, Option.getD_some, List.reverse_append]
    rfl

theorem callersKept_start (callers : ι → Caller) (j : Journal) :
    CallersKept runId stepKey callers j [] (startCallers runId stepKey callers j) where
  stage := fun _ => .start
  fresh := fun i op hop hne => by
    have hget : some op = some .get := hop.symm.trans ((callers i).nextLabel_program runId stepKey)
    exact absurd (Option.some.inj hget) hne
  written := fun h => absurd rfl h
  unwritten := fun _ => rfl
  compensations := rfl

variable {c : Caller}

/-- A move leads to a stage; past the first step only when nothing is recorded; and only a write
changes the journal. -/
theorem CallerMove.spec {j j' : Journal} {p p' : CallerProgram} {label : Option JournalOp}
    (h : CallerMove runId stepKey c j p label j' p') :
    CallerStage runId stepKey c p' ∧
      (∀ op, p'.nextLabel = some op → (label = some .get ∧ j.get runId stepKey = none) ∨
        ∃ op', label = some op' ∧ op' ≠ .get) ∧
      (label ≠ some .put → j' = j) := by
  cases h with
  | found hget => exact ⟨.returned _, nofun, fun _ => rfl⟩
  | missed hget => exact ⟨.compute, fun _ _ => .inl ⟨rfl, hget⟩, fun _ => rfl⟩
  | raised hanswer => exact ⟨.returned _, nofun, fun _ => rfl⟩
  | @computed output hanswer =>
    refine ⟨?_, fun _ _ => .inr ⟨.handler, rfl, nofun⟩, fun _ => rfl⟩
    unfold Caller.record
    cases c.kind with
    | journaled => exact .put hanswer
    | runStep => exact .recheck hanswer
  | late hanswer hget => exact ⟨.returned _, nofun, fun _ => rfl⟩
  | clear hanswer hget =>
    exact ⟨.put hanswer, fun _ _ => .inr ⟨.recheck, rfl, nofun⟩, fun _ => rfl⟩
  | put hanswer => exact ⟨.returned _, nofun, fun hne => absurd rfl hne⟩
  | idle r => exact ⟨.returned r, nofun, fun _ => rfl⟩

variable [DecidableEq ι]

variable {w : CallerPool ι} {i : ι}

/-- The next step of a caller is one of the moves. -/
theorem tick_move (h : CallerStage runId stepKey c (w.program i)) :
    ∃ j p, CallerMove runId stepKey c w.store (w.program i) (w.program i).nextLabel j p ∧
      w.tick i = ⟨j, Function.update w.program i p⟩ := by
  generalize hp : w.program i = p at h
  cases h with
  | start =>
    rw [Caller.program_eq] at hp
    rw [Program.Pool.tick_step (hp.trans (Program.call_bind _ _ _)), c.nextLabel_program]
    cases hget : w.store.get runId stepKey with
    | none => exact ⟨_, _, .missed hget, rfl⟩
    | some seen => exact ⟨_, _, .found hget, rfl⟩
  | compute =>
    rw [Program.Pool.tick_step (hp.trans (Program.call_bind _ _ _))]
    cases hanswer : c.answer with
    | error e => exact ⟨_, _, .raised hanswer, rfl⟩
    | ok output => exact ⟨_, _, .computed hanswer, rfl⟩
  | @recheck output hanswer =>
    rw [recordOutput_eq] at hp
    rw [Program.Pool.tick_step (hp.trans (Program.call_bind _ _ _))]
    cases hget : w.store.get runId stepKey with
    | none => exact ⟨_, _, .clear hanswer hget, rfl⟩
    | some seen => exact ⟨_, _, .late hanswer hget, rfl⟩
  | @put output hanswer =>
    rw [Program.Pool.tick_step (hp.trans (Program.call_bind _ _ _))]
    exact ⟨_, _, .put hanswer, rfl⟩
  | returned r =>
    rw [Program.Pool.tick_ret hp]
    refine ⟨_, _, .idle r, ?_⟩
    rw [← hp, Function.update_eq_self]

/-- A write is the write of an output the handler has answered. -/
theorem CallerMove.of_put {j j' : Journal} {p p' : CallerProgram}
    (h : CallerMove runId stepKey c j p (some .put) j' p') :
    ∃ output, c.answer = .ok output ∧ j' = j.put runId stepKey output c.compensation ∧
      p' = .ret (.ok output) := by
  generalize hlabel : some JournalOp.put = label at h
  cases h with
  | put hanswer => exact ⟨_, hanswer, rfl, rfl⟩
  | found hget | missed hget | raised hanswer | computed hanswer | late hanswer hget
  | clear hanswer hget | idle r => cases hlabel

variable {callers : ι → Caller} {start : Journal} {history : List (CallerStep ι)}

/-- Every step keeps it. -/
theorem CallersKept.step (h : CallersKept runId stepKey callers start history w) (i : ι) :
    CallersKept runId stepKey callers start (history ++ [stepOf Program.Pool.step w i])
      (w.tick i) := by
  obtain ⟨j, p, hmove, htick⟩ := tick_move runId stepKey (h.stage i)
  obtain ⟨hstage, hlabel, hsame⟩ := hmove.spec
  have hputters := putters_append history (stepOf Program.Pool.step w i)
  change putters _ = putters history ++
    if (w.program i).nextLabel = some .put then [i] else [] at hputters
  have hstages : ∀ k, CallerStage runId stepKey (callers k)
      (Function.update w.program i p k) := by
    intro k
    by_cases hk : k = i
    · subst hk
      rw [Function.update_self]
      exact hstage
    · rw [Function.update_of_ne hk]
      exact h.stage k
  have hfresh : ∀ k op, (Function.update w.program i p k).nextLabel = some op → op ≠ .get →
      start.get runId stepKey = none := by
    intro k op hop hne
    by_cases hk : k = i
    · subst hk
      rw [Function.update_self] at hop
      rcases hlabel op hop with ⟨-, hnone⟩ | ⟨op', hop', hne'⟩
      · by_cases hempty : putters history = []
        · rw [← h.unwritten hempty, hnone]
        · exact absurd hnone (h.written hempty)
      · exact h.fresh k op' hop' hne'
    · rw [Function.update_of_ne hk] at hop
      exact h.fresh k op hop hne
  rw [htick]
  by_cases hput : (w.program i).nextLabel = some .put
  · rw [if_pos hput] at hputters
    rw [hput] at hmove
    obtain ⟨output, hanswer, rfl, rfl⟩ := hmove.of_put
    refine ⟨hstages, hfresh, fun _ => ?_, fun hempty => ?_, ?_⟩
    · rw [Journal.get_put_self]
      exact Option.some_ne_none _
    · rw [hputters] at hempty
      simp at hempty
    · rw [listCompensations_put, h.compensations, hputters, List.filterMap_append,
        List.reverse_append, List.append_assoc]
      cases hcompensation : (callers i).compensation <;> simp [hcompensation]
  · rw [if_neg hput, List.append_nil] at hputters
    obtain rfl := hsame hput
    refine ⟨hstages, hfresh, fun hne => ?_, fun hempty => ?_, ?_⟩
    · exact h.written (hputters ▸ hne)
    · exact h.unwritten (hputters ▸ hempty)
    · rw [hputters]
      exact h.compensations

/-! ## What an undisputed schedule keeps -/

/-- An output that was recorded stays the one recorded. -/
theorem get_tick (h : CallersKept runId stepKey callers start history w) (i : ι) {seen : Items}
    (hseen : w.store.get runId stepKey = some seen) :
    (w.tick i).store.get runId stepKey = some seen := by
  obtain ⟨j, p, hmove, htick⟩ := tick_move runId stepKey (h.stage i)
  rw [htick]
  by_cases hput : (w.program i).nextLabel = some .put
  · rw [hput] at hmove
    obtain ⟨output, -, rfl, -⟩ := hmove.of_put
    rw [Journal.get_put_self, hseen, Option.getD_some]
  · obtain rfl := hmove.spec.2.2 hput
    exact hseen

/-- What the step of an undisputed caller returns is recorded. -/
theorem get_of_returned (hund : Undisputed runId stepKey callers (stepOf Program.Pool.step w i))
    {j : Journal} {p : CallerProgram} {output : Items}
    (hmove : CallerMove runId stepKey (callers i) w.store (w.program i) (w.program i).nextLabel j p)
    (hreturned : p = .ret (.ok output))
    (hbefore : w.program i = .ret (.ok output) → w.store.get runId stepKey = some output) :
    j.get runId stepKey = some output := by
  have hund : ∀ seen, w.store.get runId stepKey = some seen →
      ((w.program i).nextLabel = some .put →
        (callers i).answer = .ok seen ∧ (callers i).compensation = none) ∧
      ((w.program i).nextLabel = some .recheck → (callers i).answer = .ok seen) := hund
  generalize w.program i = q at hmove hund hbefore
  generalize hlabel : q.nextLabel = label at hmove hund
  cases hmove with
  | @found seen hget =>
    cases hreturned
    exact hget
  | missed hget => cases hreturned
  | raised hanswer => cases hreturned
  | @computed output' hanswer =>
    unfold Caller.record at hreturned
    cases hkind : (callers i).kind with
    | journaled =>
      rw [hkind] at hreturned
      cases hreturned
    | runStep =>
      rw [hkind] at hreturned
      cases hreturned
  | late hanswer hget =>
    cases hreturned
    have hsame := (hund _ hget).2 rfl
    rw [hanswer, Except.ok.injEq] at hsame
    rw [hget, hsame]
  | clear hanswer hget => cases hreturned
  | put hanswer =>
    cases hreturned
    rw [Journal.get_put_self]
    cases hget : w.store.get runId stepKey with
    | none => rfl
    | some seen =>
      have hsame := ((hund seen hget).1 rfl).1
      rw [hanswer, Except.ok.injEq] at hsame
      rw [Option.getD_some, hsame]
  | idle r => exact hbefore hreturned

/-- An undisputed step keeps the agreement. -/
theorem Agreed.step (h : Agreed runId stepKey callers start history w)
    (hkept : CallersKept runId stepKey callers start history w)
    (hund : Undisputed runId stepKey callers (stepOf Program.Pool.step w i)) :
    Agreed runId stepKey callers start (history ++ [stepOf Program.Pool.step w i])
      (w.tick i) := by
  have hseen : ∀ {seen}, w.store.get runId stepKey = some seen →
      (w.tick i).store.get runId stepKey = some seen := get_tick runId stepKey hkept i
  obtain ⟨j, p, hmove, htick⟩ := tick_move runId stepKey (hkept.stage i)
  have hputters := putters_append history (stepOf Program.Pool.step w i)
  change putters _ = putters history ++
    if (w.program i).nextLabel = some .put then [i] else [] at hputters
  rw [htick] at hseen ⊢
  refine ⟨fun k output hk => ?_, ?_⟩
  · change Function.update w.program i p k = .ret (.ok output) at hk
    by_cases hki : k = i
    · subst hki
      rw [Function.update_self] at hk
      exact get_of_returned runId stepKey hund hmove hk (h.agreement k output)
    · rw [Function.update_of_ne hki] at hk
      exact hseen (h.agreement k output hk)
  · change j.listCompensations runId = _
    unfold recordedCompensation
    by_cases hput : (w.program i).nextLabel = some .put
    · rw [if_pos hput] at hputters
      rw [hput] at hmove
      obtain ⟨output, hanswer, rfl, rfl⟩ := hmove.of_put
      rw [listCompensations_put, h.compensations, hputters, recordedCompensation]
      cases hhistory : putters history with
      | nil => rfl
      | cons first later =>
        -- the step was recorded before, so this caller has no compensation
        have hwritten := hkept.written (by rw [hhistory]; exact List.cons_ne_nil _ _)
        obtain ⟨seen, hget⟩ := Option.ne_none_iff_exists'.mp hwritten
        have hnone : (callers i).compensation = none := ((hund seen hget).1 hput).2
        rw [hnone]
        rfl
    · rw [if_neg hput, List.append_nil] at hputters
      obtain rfl := hmove.spec.2.2 hput
      rw [hputters, h.compensations, recordedCompensation]

/-! ## Which schedules come out right -/

/-- A step after which the callers agree is undisputed. -/
theorem undisputed_of_agreed (hkept : CallersKept runId stepKey callers start history w)
    (h : Agreed runId stepKey callers start (history ++ [stepOf Program.Pool.step w i]) (w.tick i)) :
    Undisputed runId stepKey callers (stepOf Program.Pool.step w i) := by
  intro seen hseen
  change w.store.get runId stepKey = some seen at hseen
  have hafter := get_tick runId stepKey hkept i hseen
  obtain ⟨j, p, hmove, htick⟩ := tick_move runId stepKey (hkept.stage i)
  rw [htick] at h hafter
  have hreturned : ∀ output, p = .ret (.ok output) → output = seen := by
    intro output hp
    have hget := h.agreement i output (by rw [← hp]; exact Function.update_self ..)
    rw [hafter, Option.some.injEq] at hget
    exact hget.symm
  refine ⟨fun hput => ?_, fun hrecheck => ?_⟩
  · change (w.program i).nextLabel = some .put at hput
    have hputters := putters_append history (stepOf Program.Pool.step w i)
    change putters _ = putters history ++
      if (w.program i).nextLabel = some .put then [i] else [] at hputters
    rw [if_pos hput] at hputters
    rw [hput] at hmove
    obtain ⟨output, hanswer, rfl, rfl⟩ := hmove.of_put
    refine ⟨by rw [← hreturned output rfl]; exact hanswer, ?_⟩
    -- another caller wrote before, and its compensation is in the list
    have hearlier : putters history ≠ [] := by
      intro hempty
      have hstart := hkept.fresh i .put hput nofun
      rw [hkept.unwritten hempty, hstart] at hseen
      cases hseen
    obtain ⟨first, later, hhistory⟩ := List.exists_cons_of_ne_nil hearlier
    have hlist := h.compensations
    change (w.store.put runId stepKey output (callers i).compensation).listCompensations runId = _
      at hlist
    rw [listCompensations_put, hkept.compensations, recordedCompensation, hputters, hhistory]
      at hlist
    have hlength := congrArg List.length hlist
    change _ = ((callers first).compensation.toList ++ _).length at hlength
    simp only [List.length_append, List.length_reverse] at hlength
    have hfirst : (callers first).compensation.toList.length ≤
        ((first :: later).filterMap fun i => (callers i).compensation).length := by
      cases hcompensation : (callers first).compensation with
      | none => exact Nat.zero_le _
      | some c =>
        simp only [List.filterMap_cons, hcompensation, List.length_cons]
        exact Nat.le_add_left 1 _
    have hnone : (callers i).compensation.toList.length = 0 := by omega
    cases hcompensation : (callers i).compensation with
    | none => exact hcompensation
    | some c =>
      rw [hcompensation] at hnone
      cases hnone
  · change (w.program i).nextLabel = some .recheck at hrecheck
    change (callers i).answer = .ok seen
    generalize w.program i = q at hmove hrecheck
    generalize hlabel : q.nextLabel = label at hmove hrecheck
    subst hrecheck
    cases hmove with
    | late hanswer hget => rw [← hreturned _ rfl]; exact hanswer
    | clear hanswer hget =>
      rw [hseen] at hget
      cases hget

omit [DecidableEq ι] in
theorem agreed_start (callers : ι → Caller) (start : Journal) :
    Agreed runId stepKey callers start [] (startCallers runId stepKey callers start) where
  agreement := fun i output hi => by
    have hlabel := (callers i).nextLabel_program runId stepKey
    change (callers i).program runId stepKey = _ at hi
    rw [hi] at hlabel
    cases hlabel
  compensations := rfl

/-- **Callers of one step agree.** In every schedule, all along, what the callers return is what the
journal has and the compensation of the step is listed once exactly when every caller that comes to
its output after another was recorded has the same output, and no compensation if it writes. -/
theorem journal_agreement_iff (callers : ι → Caller) (start : Journal) (schedule : List ι) :
    (∀ past step rest,
      trace Program.Pool.step (startCallers runId stepKey callers start) schedule =
        past ++ step :: rest →
      Agreed runId stepKey callers start (past ++ [step]) step.after) ↔
    ∀ step ∈ trace Program.Pool.step (startCallers runId stepKey callers start) schedule,
      Undisputed runId stepKey callers step :=
  forall_split_iff (H := CallersKept runId stepKey callers start)
    (callersKept_start runId stepKey callers start) (fun _ _ i h => h.step runId stepKey i)
    (agreed_start runId stepKey callers start)
    (fun _ _ _ hkept hagreed => ⟨undisputed_of_agreed runId stepKey hkept,
      hagreed.step runId stepKey hkept⟩) schedule

end Callers

/-- Two callers of `journaled` whose handlers count differently. -/
def countingCallers : Bool → Caller
  | false => ⟨.journaled, .ok [("units", .int 3)], none⟩
  | true => ⟨.journaled, .ok [("units", .int 5)], none⟩

/-- Both callers find nothing, and the second returns its own output after the first was
recorded. -/
theorem journal_disagreement :
    ¬ ∀ (runId stepKey : String) (callers : Bool → Caller) (start : Journal)
      (schedule : List Bool) (past : List (CallerStep Bool)) (step : CallerStep Bool)
      (rest : List (CallerStep Bool)),
      trace Program.Pool.step (startCallers runId stepKey callers start) schedule =
        past ++ step :: rest →
      Agreed runId stepKey callers start (past ++ [step]) step.after := by
  intro h
  let start := startCallers "event:evt_1" "cascade" countingCallers .empty
  have hagreed := h "event:evt_1" "cascade" countingCallers .empty
    [false, false, true, true, false, true]
    (trace Program.Pool.step start [false, false, true, true, false])
    (stepOf Program.Pool.step
      (final Program.Pool.step start [false, false, true, true, false]) true) [] rfl
  have hget := hagreed.agreement true [("units", .int 5)] rfl
  have hfirst : (final Program.Pool.step (startCallers "event:evt_1" "cascade" countingCallers .empty)
      [false, false, true, true, false, true]).store.get "event:evt_1" "cascade" =
        some [("units", .int 3)] := by decide +kernel
  have hboth : (some [("units", .int 3)] : Option Items) = some [("units", .int 5)] :=
    hfirst.symm.trans hget
  exact absurd hboth (by decide)

end ShelfWise.Worker
