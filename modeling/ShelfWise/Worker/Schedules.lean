import Mathlib.Data.List.Chain
import ShelfWise.Py.Value
import ShelfWise.Sys.Run

/-!
# The plan scheduler

`Scheduler` of `shelfwise_backend/worker/schedules.py` with any number of `tick` calls at once. A
call runs without interruption up to the `await` of a plan, and goes on when the plan has ended; a
plan that does not suspend is one that ends in the next step. How a plan ends makes no difference to
the schedules.

The list of due schedules is made at the start of a tick, and a plan takes any time, so a schedule
further down the list may have been started by another tick when its turn comes.
`no_overlap_iff` says exactly which runs never have two runs of one schedule in progress and keep its
starts apart: those in which every schedule is still due when it is started.

The readings of the clock are any ordered type with a difference.
-/

namespace ShelfWise.Worker

open Py Sys

/-! ## Schedules -/

section Scheduler

variable {τ : Type} [LinearOrder τ] [Sub τ]

/-- `Schedule`, less the function that makes its plan. -/
structure Schedule (τ : Type) where
  name : String
  everyS : τ
  enabled : Bool
  lastStarted : Option τ
  running : Bool
deriving DecidableEq

/-- How a plan ends: it is done, it fails at a step, or it raises. -/
inductive PlanEnd where
  | done
  | failed
  | raised

/-- Where a `tick` call stands: it has not begun or has returned, or it waits for the plan of a
schedule, with the schedules that come after it and the number it has fired. -/
inductive TickState where
  | idle
  | awaiting (current : String) (rest : List String) (fired : ℕ)
deriving DecidableEq

/-- `Scheduler`, with its calls. -/
structure Scheduler (ι τ : Type) where
  schedules : Dict String (Schedule τ)
  tick : ι → TickState

/-- The test of `due` on a schedule that is enabled: it does not run, and it has not been started too
short a time ago. -/
def Schedule.isDue (schedule : Schedule τ) (now : τ) : Bool :=
  !schedule.running && match schedule.lastStarted with
    | none => true
    | some last => decide (schedule.everyS ≤ now - last)

/-- `due`. -/
def Scheduler.due {ι : Type} (w : Scheduler ι τ) (now : τ) : List String :=
  (w.schedules.entries.filter fun e => e.2.enabled && e.2.isDue now).map Prod.fst

/-- `add`; the shortest interval is `1.0`. -/
def Scheduler.add {ι : Type} (one : τ) (name : String) (everyS : τ) (enabled : Bool)
    (w : Scheduler ι τ) : Scheduler ι τ × Option Exc :=
  if w.schedules.contains name then (w, some (.valueError ("schedule exists: " ++ name)))
  else
    let schedule : Schedule τ := ⟨name, max one everyS, enabled, none, false⟩
    ({ w with schedules := w.schedules.set name schedule }, none)

/-- A schedule of the scheduler is changed. -/
def Scheduler.change {ι : Type} (name : String) (f : Schedule τ → Schedule τ) (w : Scheduler ι τ) :
    Scheduler ι τ :=
  match w.schedules.get? name with
  | none => w
  | some schedule => { w with schedules := w.schedules.set name (f schedule) }

variable {ι : Type} [DecidableEq ι]

/-- What a step of a scheduler shows: the schedule that is started with the reading of the clock, what
a call of `tick` returns, and what a call of `add` raises. -/
structure TickShown (τ : Type) where
  started : Option (String × τ)
  fired : Option ℕ
  raised : Option Exc

/-- The loop of `tick` goes on with the schedules that are left: the first one is started, and its
plan is awaited. -/
def Scheduler.next (i : ι) (fired : ℕ) (now : τ) (w : Scheduler ι τ) :
    List String → Scheduler ι τ × TickShown τ
  | [] => ({ w with tick := Function.update w.tick i .idle }, ⟨none, some fired, none⟩)
  | name :: rest =>
    let started := w.change name fun s => { s with running := true, lastStarted := some now }
    ({ started with tick := Function.update w.tick i (.awaiting name rest fired) },
      ⟨some (name, now), none, none⟩)

/-- What happens to a scheduler: a schedule is added, a call of `tick` begins and reads the clock for
`due` and for its first start, or the plan it waits for ends. -/
inductive SchedulerInput (ι τ : Type) where
  | add (name : String) (everyS : τ) (enabled : Bool)
  | begin (i : ι) (dueAt startedAt : τ)
  | resume (i : ι) (ended : PlanEnd) (startedAt : τ)

/-- One step of the scheduler. -/
def schedulerStep (one : τ) (w : Scheduler ι τ) :
    SchedulerInput ι τ → Scheduler ι τ × TickShown τ
  | .add name everyS enabled =>
    let added := w.add one name everyS enabled
    (added.1, ⟨none, none, added.2⟩)
  | .begin i dueAt startedAt =>
    match w.tick i with
    | .idle => w.next i 0 startedAt (w.due dueAt)
    | .awaiting _ _ _ => (w, ⟨none, none, none⟩)
  | .resume i _ startedAt =>
    match w.tick i with
    | .idle => (w, ⟨none, none, none⟩)
    | .awaiting current rest fired =>
      (w.change current fun s => { s with running := false }).next i (fired + 1) startedAt rest

/-- A scheduler without schedules and calls. -/
def Scheduler.empty : Scheduler ι τ := ⟨Dict.empty, fun _ => .idle⟩

/-! ## Runs in progress -/

/-- A call waits for the plan of a schedule. -/
def TickState.Runs (t : TickState) (name : String) : Prop := ∃ rest fired, t = .awaiting name rest fired

/-- No two runs of one schedule are in progress. -/
def Scheduler.Exclusive (w : Scheduler ι τ) : Prop :=
  ∀ i j name, (w.tick i).Runs name → (w.tick j).Runs name → i = j

/-- The steps of a run of a scheduler. -/
abbrev SchedulerSteps (ι τ : Type) := List (Step (Scheduler ι τ) (SchedulerInput ι τ) (TickShown τ))

/-- The times at which a schedule has been started. -/
def startsOf (name : String) (steps : SchedulerSteps ι τ) : List τ :=
  steps.filterMap fun step => step.output.started.bind fun s => if s.1 = name then some s.2 else none

/-- Two consecutive starts of a schedule are at least its interval apart. -/
def Spaced (steps : SchedulerSteps ι τ) (w : Scheduler ι τ) : Prop :=
  ∀ name schedule, w.schedules.get? name = some schedule →
    (startsOf name steps).IsChain fun earlier later => schedule.everyS ≤ later - earlier

/-- The schedules of a run do not overlap. -/
structure NoOverlap (steps : SchedulerSteps ι τ) (w : Scheduler ι τ) : Prop where
  exclusive : ∀ step ∈ steps, step.after.Exclusive
  spaced : Spaced steps w

/-- The schedule that the step starts is still due. -/
def StillDue (step : Step (Scheduler ι τ) (SchedulerInput ι τ) (TickShown τ)) : Prop :=
  ∀ name now, step.output.started = some (name, now) →
    ∀ schedule, step.before.schedules.get? name = some schedule → schedule.isDue now = true

omit [LinearOrder τ] [Sub τ] [DecidableEq ι] in
theorem startsOf_concat (name : String) (steps : SchedulerSteps ι τ)
    (step : Step (Scheduler ι τ) (SchedulerInput ι τ) (TickShown τ)) :
    startsOf name (steps ++ [step]) = startsOf name steps ++
      (step.output.started.bind fun s => if s.1 = name then some s.2 else none).toList := by
  rw [startsOf, List.filterMap_append]
  congr 1

/-! ## What a run has recorded -/

/-- What the scheduler knows of the run so far: when each schedule was last started, and, if the
schedules have not overlapped, which of them run. -/
structure Bookkept (past : SchedulerSteps ι τ) (w : Scheduler ι τ) : Prop where
  known : ∀ name schedule, w.schedules.get? name = some schedule →
    schedule.lastStarted = (startsOf name past).getLast?
  unknown : ∀ name, w.schedules.get? name = none → startsOf name past = []
  pending : ∀ i current rest fired, w.tick i = .awaiting current rest fired →
    (current :: rest).Nodup ∧
      ∀ name ∈ current :: rest, ∃ schedule, w.schedules.get? name = some schedule
  exclusive : NoOverlap past w → w.Exclusive
  marked : NoOverlap past w → ∀ name schedule, w.schedules.get? name = some schedule →
    (schedule.running = true ↔ ∃ i, (w.tick i).Runs name)

section Bookkept

variable {past : SchedulerSteps ι τ} {w : Scheduler ι τ}
  {step : Step (Scheduler ι τ) (SchedulerInput ι τ) (TickShown τ)}

omit [DecidableEq ι] in
/-- A step that starts nothing. -/
theorem Bookkept.quiet (h : Bookkept past w) (hafter : step.after = w)
    (hnone : step.output.started = none) :
    Bookkept (past ++ [step]) w ∧ (NoOverlap (past ++ [step]) w ↔ NoOverlap past w) := by
  have hstarts : ∀ name, startsOf name (past ++ [step]) = startsOf name past := by
    intro name
    rw [startsOf_concat, hnone]
    exact List.append_nil _
  have hiff : NoOverlap (past ++ [step]) w ↔ NoOverlap past w := by
    constructor
    · rintro ⟨hexclusive, hspaced⟩
      refine ⟨fun s hs => hexclusive s (List.mem_append_left _ hs), fun name schedule hget => ?_⟩
      rw [← hstarts]
      exact hspaced name schedule hget
    · intro hno
      refine ⟨fun s hs => ?_, fun name schedule hget => ?_⟩
      · rcases List.mem_append.mp hs with hs | hs
        · exact hno.exclusive s hs
        · rw [List.mem_singleton.mp hs, hafter]
          exact h.exclusive hno
      · rw [hstarts]
        exact hno.spaced name schedule hget
  refine ⟨⟨fun name schedule hget => ?_, fun name hget => ?_, h.pending,
    fun hno => h.exclusive (hiff.mp hno), fun hno => h.marked (hiff.mp hno)⟩, hiff⟩
  · rw [hstarts]
    exact h.known name schedule hget
  · rw [hstarts]
    exact h.unknown name hget

variable {name : String}

omit [DecidableEq ι] in
/-- A schedule that is added has not been started. -/
theorem Bookkept.add (h : Bookkept past w) (hnew : w.schedules.get? name = none)
    (schedule : Schedule τ) (hstarted : schedule.lastStarted = none)
    (hrunning : schedule.running = false) :
    Bookkept past { w with schedules := w.schedules.set name schedule } ∧
      (NoOverlap past { w with schedules := w.schedules.set name schedule } ↔
        NoOverlap past w) := by
  have hother : ∀ {other}, other ≠ name →
      (w.schedules.set name schedule).get? other = w.schedules.get? other := fun hne =>
    Dict.get?_set_ne _ (fun h => hne h.symm) _
  have hkeep : ∀ {other found}, w.schedules.get? other = some found →
      (w.schedules.set name schedule).get? other = some found := by
    intro other found hget
    rw [hother, hget]
    rintro rfl
    rw [hnew] at hget
    cases hget
  have hcases : ∀ {other found}, (w.schedules.set name schedule).get? other = some found →
      other = name ∧ found = schedule ∨ w.schedules.get? other = some found := by
    intro other found hget
    by_cases hname : other = name
    · subst hname
      rw [Dict.get?_set_self] at hget
      exact .inl ⟨rfl, (Option.some.inj hget).symm⟩
    · rw [hother hname] at hget
      exact .inr hget
  have hiff : NoOverlap past { w with schedules := w.schedules.set name schedule } ↔
      NoOverlap past w := by
    constructor
    · exact fun hno => ⟨hno.exclusive, fun other found hget => hno.spaced other found (hkeep hget)⟩
    · refine fun hno => ⟨hno.exclusive, fun other found hget => ?_⟩
      rcases hcases hget with ⟨rfl, -⟩ | hget
      · rw [h.unknown _ hnew]
        exact List.IsChain.nil
      · exact hno.spaced other found hget
  refine ⟨⟨fun other found hget => ?_, fun other hget => ?_, fun i current rest fired htick => ?_,
    fun hno => h.exclusive (hiff.mp hno), fun hno other found hget => ?_⟩, hiff⟩
  · rcases hcases hget with ⟨rfl, rfl⟩ | hget
    · rw [hstarted, h.unknown _ hnew]
      rfl
    · exact h.known other found hget
  · refine h.unknown other ?_
    cases hfound : w.schedules.get? other with
    | none => rfl
    | some found =>
      rw [show (w.schedules.set name schedule).get? other = some found from hkeep hfound] at hget
      cases hget
  · obtain ⟨hnodup, hall⟩ := h.pending i current rest fired htick
    refine ⟨hnodup, fun other hother => ?_⟩
    obtain ⟨found, hfound⟩ := hall other hother
    exact ⟨found, hkeep hfound⟩
  · rcases hcases hget with ⟨rfl, rfl⟩ | hget
    · rw [hrunning]
      refine iff_of_false (by simp) ?_
      -- a schedule that runs has been added before
      rintro ⟨i, rest, fired, htick⟩
      obtain ⟨found, hfound⟩ := (h.pending i _ rest fired htick).2 _ List.mem_cons_self
      rw [hnew] at hfound
      cases hfound
    · exact h.marked (hiff.mp hno) other found hget

/-! ## One plan after another -/

variable {schedule : Schedule τ}

omit [LinearOrder τ] [Sub τ] [DecidableEq ι] in
theorem get?_change {f : Schedule τ → Schedule τ} (hget : w.schedules.get? name = some schedule)
    (other : String) :
    (w.change name f).schedules.get? other
      = if name = other then some (f schedule) else w.schedules.get? other := by
  unfold Scheduler.change
  rw [hget]
  exact Dict.get?_set _ _ _ _

omit [LinearOrder τ] [Sub τ] [DecidableEq ι] in
theorem tick_change (name : String) (f : Schedule τ → Schedule τ) (w : Scheduler ι τ) :
    (w.change name f).tick = w.tick := by
  unfold Scheduler.change
  split
  · rfl
  · rfl

/-- The plan a call waits for ends. -/
def Scheduler.stop (i : ι) (current : String) (w : Scheduler ι τ) : Scheduler ι τ :=
  { (w.change current fun s => { s with running := false }) with
    tick := Function.update w.tick i .idle }

variable {i : ι} {rest : List String} {fired : ℕ}

/-- After a plan has ended, its call waits for none. -/
theorem Bookkept.stop (h : Bookkept past w) {current : String}
    (htick : w.tick i = .awaiting current rest fired) :
    Bookkept past (w.stop i current) ∧ (NoOverlap past (w.stop i current) ↔ NoOverlap past w) := by
  obtain ⟨schedule, hschedule⟩ := (h.pending i current rest fired htick).2 _ List.mem_cons_self
  have hget : ∀ other, (w.stop i current).schedules.get? other
      = if current = other then some { schedule with running := false }
        else w.schedules.get? other := get?_change hschedule
  have htick' : ∀ j, (w.stop i current).tick j = if j = i then .idle else w.tick j := by
    intro j
    show Function.update w.tick i .idle j = _
    rw [Function.update_apply]
  have hsame : ∀ {other found}, (w.stop i current).schedules.get? other = some found →
      ∃ before, w.schedules.get? other = some before ∧ found.everyS = before.everyS ∧
        found.lastStarted = before.lastStarted ∧
        (other ≠ current → found.running = before.running) := by
    intro other found hfound
    rw [hget] at hfound
    split at hfound
    · next hname =>
      subst hname
      rw [← Option.some.inj hfound]
      exact ⟨schedule, hschedule, rfl, rfl, fun hne => absurd rfl hne⟩
    · exact ⟨found, hfound, rfl, rfl, fun _ => rfl⟩
  have hback : ∀ {other before}, w.schedules.get? other = some before →
      ∃ found, (w.stop i current).schedules.get? other = some found ∧
        found.everyS = before.everyS := by
    intro other before hbefore
    rw [hget]
    split
    · next hname =>
      subst hname
      obtain rfl := Option.some.inj (hschedule.symm.trans hbefore)
      exact ⟨_, rfl, rfl⟩
    · exact ⟨before, hbefore, rfl⟩
  have hiff : NoOverlap past (w.stop i current) ↔ NoOverlap past w := by
    constructor
    · refine fun hno => ⟨hno.exclusive, fun other before hbefore => ?_⟩
      obtain ⟨found, hfound, hevery⟩ := hback hbefore
      rw [← hevery]
      exact hno.spaced other found hfound
    · refine fun hno => ⟨hno.exclusive, fun other found hfound => ?_⟩
      obtain ⟨before, hbefore, hevery, -⟩ := hsame hfound
      rw [hevery]
      exact hno.spaced other before hbefore
  have hruns : ∀ {j name}, ((w.stop i current).tick j).Runs name → j ≠ i ∧ (w.tick j).Runs name := by
    rintro j name ⟨rest', fired', hj⟩
    rw [htick'] at hj
    split at hj
    · cases hj
    · next hne => exact ⟨hne, rest', fired', hj⟩
  refine ⟨⟨fun other found hfound => ?_, fun other hnone => ?_, fun j current' rest' fired' hj => ?_,
    fun hno j k name hj hk => ?_, fun hno other found hfound => ?_⟩, hiff⟩
  · obtain ⟨before, hbefore, -, hlast, -⟩ := hsame hfound
    rw [hlast]
    exact h.known other before hbefore
  · rw [hget] at hnone
    split at hnone
    · cases hnone
    · exact h.unknown other hnone
  · rw [htick'] at hj
    split at hj
    · cases hj
    · obtain ⟨hnodup, hall⟩ := h.pending j current' rest' fired' hj
      refine ⟨hnodup, fun other hother => ?_⟩
      obtain ⟨before, hbefore⟩ := hall other hother
      obtain ⟨found, hfound, -⟩ := hback hbefore
      exact ⟨found, hfound⟩
  · exact h.exclusive (hiff.mp hno) j k name (hruns hj).2 (hruns hk).2
  · obtain ⟨before, hbefore, -, -, hrunning⟩ := hsame hfound
    by_cases hname : other = current
    · -- only the call that has waited for this plan did
      subst hname
      rw [hget, if_pos rfl] at hfound
      rw [← Option.some.inj hfound]
      refine iff_of_false (by simp) ?_
      rintro ⟨j, hj⟩
      obtain ⟨hne, hj⟩ := hruns hj
      exact hne (h.exclusive (hiff.mp hno) j i other hj ⟨rest, fired, htick⟩)
    · rw [hrunning hname, h.marked (hiff.mp hno) other before hbefore]
      constructor
      · rintro ⟨j, rest', fired', hj⟩
        refine ⟨j, rest', fired', ?_⟩
        rw [htick', if_neg, hj]
        rintro rfl
        rw [htick] at hj
        cases hj
        exact hname rfl
      · rintro ⟨j, hj⟩
        exact ⟨j, (hruns hj).2⟩

/-- A call that waits for no plan starts a schedule. -/
def Scheduler.start (i : ι) (name : String) (rest : List String) (fired : ℕ) (now : τ)
    (w : Scheduler ι τ) : Scheduler ι τ :=
  { (w.change name fun s => { s with running := true, lastStarted := some now }) with
    tick := Function.update w.tick i (.awaiting name rest fired) }

theorem isDue_iff (schedule : Schedule τ) (now : τ) :
    schedule.isDue now = true ↔ schedule.running = false ∧
      ∀ last, schedule.lastStarted = some last → schedule.everyS ≤ now - last := by
  unfold Schedule.isDue
  cases schedule.lastStarted with
  | none => simp
  | some last => simp

variable {now : τ}

/-- Starting a schedule lets no schedules overlap exactly when it is due. -/
theorem Bookkept.start (h : Bookkept past w) (hidle : w.tick i = .idle)
    (hget : w.schedules.get? name = some schedule) (hnodup : (name :: rest).Nodup)
    (hrest : ∀ other ∈ rest, ∃ found, w.schedules.get? other = some found)
    (hafter : step.after = w.start i name rest fired now)
    (hstarted : step.output.started = some (name, now)) :
    Bookkept (past ++ [step]) (w.start i name rest fired now) ∧
      (NoOverlap (past ++ [step]) (w.start i name rest fired now) ↔
        NoOverlap past w ∧ schedule.isDue now = true) := by
  have hget' : ∀ other, (w.start i name rest fired now).schedules.get? other
      = if name = other then some { schedule with running := true, lastStarted := some now }
        else w.schedules.get? other := get?_change hget
  have htick' : ∀ j, (w.start i name rest fired now).tick j
      = if j = i then .awaiting name rest fired else w.tick j := by
    intro j
    show Function.update w.tick i _ j = _
    rw [Function.update_apply]
  have hstarts : ∀ other, startsOf other (past ++ [step])
      = startsOf other past ++ if name = other then [now] else [] := by
    intro other
    rw [startsOf_concat, hstarted]
    congr 1
    show (if name = other then some now else none).toList = _
    split
    · rfl
    · rfl
  have hknown := h.known name schedule hget
  have hback : ∀ {other before}, w.schedules.get? other = some before →
      ∃ found, (w.start i name rest fired now).schedules.get? other = some found ∧
        found.everyS = before.everyS := by
    intro other before hbefore
    rw [hget']
    split
    · next hname =>
      subst hname
      obtain rfl := Option.some.inj (hget.symm.trans hbefore)
      exact ⟨_, rfl, rfl⟩
    · exact ⟨before, hbefore, rfl⟩
  have hbefore : NoOverlap (past ++ [step]) (w.start i name rest fired now) → NoOverlap past w := by
    rintro ⟨hexclusive, hspaced⟩
    refine ⟨fun s hs => hexclusive s (List.mem_append_left _ hs), fun other before hother => ?_⟩
    obtain ⟨found, hfound, hevery⟩ := hback hother
    have hchain := hspaced other found hfound
    rw [hstarts, hevery] at hchain
    exact hchain.left_of_append
  have hiff : NoOverlap (past ++ [step]) (w.start i name rest fired now) ↔
      NoOverlap past w ∧ schedule.isDue now = true := by
    rw [isDue_iff]
    constructor
    · intro hno
      have hpast := hbefore hno
      refine ⟨hpast, ?_, fun last hlast => ?_⟩
      · -- if it ran, another call would wait for it
        by_contra hrunning
        rw [Bool.not_eq_false] at hrunning
        obtain ⟨j, hj⟩ := (h.marked hpast name schedule hget).mp hrunning
        have hne : j ≠ i := by
          rintro rfl
          obtain ⟨rest', fired', hj⟩ := hj
          rw [hidle] at hj
          cases hj
        refine hne (hno.exclusive step (by simp) j i name ?_ ?_)
        · rw [hafter, htick', if_neg hne]
          exact hj
        · rw [hafter, htick', if_pos rfl]
          exact ⟨rest, fired, rfl⟩
      · have hchain := hno.spaced name _ (by rw [hget', if_pos rfl])
        rw [hstarts, if_pos rfl, List.isChain_append] at hchain
        rw [hknown] at hlast
        exact hchain.2.2 last hlast now rfl
    · rintro ⟨hpast, hrunning, helapsed⟩
      have hnobody : ∀ j, ¬ (w.tick j).Runs name := fun j hj => by
        rw [(h.marked hpast name schedule hget).mpr ⟨j, hj⟩] at hrunning
        cases hrunning
      refine ⟨fun s hs => ?_, fun other found hfound => ?_⟩
      · rcases List.mem_append.mp hs with hs | hs
        · exact hpast.exclusive s hs
        · rw [List.mem_singleton.mp hs, hafter]
          intro j k other hj hk
          rw [htick'] at hj hk
          split at hj
          · next hji =>
            obtain ⟨_, _, heq⟩ := hj
            cases heq
            split at hk
            · next hki => rw [hji, hki]
            · exact absurd hk (hnobody k)
          · split at hk
            · obtain ⟨_, _, heq⟩ := hk
              cases heq
              exact absurd hj (hnobody j)
            · exact h.exclusive hpast j k other hj hk
      · rw [hget'] at hfound
        rw [hstarts]
        split at hfound
        · next hname =>
          subst hname
          rw [← Option.some.inj hfound, if_pos rfl]
          refine List.IsChain.append (hpast.spaced name schedule hget)
            (List.isChain_singleton now) fun last hlast later hlater => ?_
          obtain rfl := Option.some.inj hlater
          exact helapsed last (hknown.trans hlast)
        · next hname =>
          rw [if_neg hname, List.append_nil]
          exact hpast.spaced other found hfound
  refine ⟨⟨fun other found hfound => ?_, fun other hnone => ?_, fun j current rest' fired' hj => ?_,
    fun hno => ?_, fun hno other found hfound => ?_⟩, hiff⟩
  · rw [hget'] at hfound
    rw [hstarts]
    split at hfound
    · next hname =>
      rw [← Option.some.inj hfound, if_pos hname]
      simp
    · next hname =>
      rw [if_neg hname, List.append_nil]
      exact h.known other found hfound
  · rw [hget'] at hnone
    split at hnone
    · cases hnone
    · next hname =>
      rw [hstarts, if_neg hname, List.append_nil]
      exact h.unknown other hnone
  · have hall : ∀ {other before}, w.schedules.get? other = some before →
        ∃ found, (w.start i name rest fired now).schedules.get? other = some found :=
      fun hother => (hback hother).imp fun _ hf => hf.1
    rw [htick'] at hj
    split at hj
    · cases hj
      refine ⟨hnodup, fun other hother => ?_⟩
      rcases List.mem_cons.mp hother with rfl | hother
      · exact hall hget
      · obtain ⟨found, hfound⟩ := hrest other hother
        exact hall hfound
    · obtain ⟨hnodup', hall'⟩ := h.pending j current rest' fired' hj
      refine ⟨hnodup', fun other hother => ?_⟩
      obtain ⟨found, hfound⟩ := hall' other hother
      exact hall hfound
  · rw [← hafter]
    exact hno.exclusive step (by simp)
  · rw [hget'] at hfound
    split at hfound
    · next hname =>
      subst hname
      rw [← Option.some.inj hfound]
      refine iff_of_true rfl ⟨i, rest, fired, ?_⟩
      rw [htick', if_pos rfl]
    · next hname =>
      rw [h.marked (hbefore hno) other found hfound]
      constructor
      · rintro ⟨j, rest', fired', hj⟩
        refine ⟨j, rest', fired', ?_⟩
        rw [htick', if_neg, hj]
        rintro rfl
        rw [hidle] at hj
        cases hj
      · rintro ⟨j, rest', fired', hj⟩
        rw [htick'] at hj
        split at hj
        · cases hj
          exact absurd rfl hname
        · exact ⟨j, rest', fired', hj⟩

/-- The loop of a call that waits for no plan goes on. -/
theorem Bookkept.next (h : Bookkept past w) (hidle : w.tick i = .idle) {names : List String}
    (hnodup : names.Nodup)
    (hknown : ∀ name ∈ names, ∃ schedule, w.schedules.get? name = some schedule)
    (hsame : ∀ name ∈ names, step.before.schedules.get? name = w.schedules.get? name)
    (hafter : step.after = (w.next i fired now names).1)
    (hshown : step.output = (w.next i fired now names).2) :
    Bookkept (past ++ [step]) step.after ∧
      (NoOverlap (past ++ [step]) step.after ↔ NoOverlap past w ∧ StillDue step) := by
  cases names with
  | nil =>
    have hreturned : step.after = w := by
      rw [hafter]
      show { w with tick := Function.update w.tick i .idle } = w
      rw [← hidle, Function.update_eq_self]
    have hnone : step.output.started = none := by
      rw [hshown]
      rfl
    obtain ⟨hrecorded, hiff⟩ := h.quiet hreturned hnone
    rw [hreturned, hiff]
    refine ⟨hrecorded, iff_self_and.mpr fun _ name now hstarted => ?_⟩
    rw [hnone] at hstarted
    cases hstarted
  | cons name rest =>
    obtain ⟨schedule, hget⟩ := hknown name List.mem_cons_self
    have hstart : step.after = w.start i name rest fired now := by
      rw [hafter]
      rfl
    have hstarted : step.output.started = some (name, now) := by
      rw [hshown]
      rfl
    obtain ⟨hrecorded, hiff⟩ := h.start hidle hget hnodup
      (fun other hother => hknown other (List.mem_cons_of_mem _ hother)) hstart hstarted
    rw [hstart, hiff]
    refine ⟨hrecorded, and_congr_right fun _ => ⟨fun hdue other now' hother found hfound => ?_,
      fun hdue => hdue name now hstarted schedule ?_⟩⟩
    · rw [hstarted] at hother
      cases hother
      rw [hsame name List.mem_cons_self, hget, Option.some.injEq] at hfound
      rw [← hfound]
      exact hdue
    · rw [hsame name List.mem_cons_self, hget]

omit [DecidableEq ι] in
theorem nodup_due (w : Scheduler ι τ) (now : τ) : (w.due now).Nodup :=
  w.schedules.nodupKeys.sublist (List.filter_sublist.map _)

omit [DecidableEq ι] in
theorem known_due (h : name ∈ w.due now) : ∃ schedule, w.schedules.get? name = some schedule := by
  obtain ⟨e, he, rfl⟩ := List.mem_map.mp h
  exact ⟨e.2, (Dict.mem_entries_iff _ _ _).mp (List.mem_of_mem_filter he)⟩

omit [LinearOrder τ] [Sub τ] in
/-- It makes no difference to the rest of a call that it waits for no plan in between. -/
theorem next_stop (i : ι) (current : String) (fired : ℕ) (now : τ) (names : List String)
    (w : Scheduler ι τ) : (w.stop i current).next i fired now names
      = (w.change current fun s => { s with running := false }).next i fired now names := by
  have htick := tick_change current (fun s : Schedule τ => { s with running := false }) w
  cases names with
  | nil =>
    show ({ (w.stop i current) with tick := Function.update (w.stop i current).tick i .idle }, _) = _
    unfold Scheduler.stop Scheduler.next
    dsimp only
    rw [Function.update_idem, htick]
  | cons name rest =>
    unfold Scheduler.stop Scheduler.next
    simp only [tick_change, Function.update_idem]
    unfold Scheduler.change
    dsimp only
    split
    · split <;> rfl
    · split <;> rfl

/-- One step: what is recorded stays, and the schedules still do not overlap exactly when the step
starts none that is not due. -/
theorem Bookkept.after (one : τ) (h : Bookkept past w) (input : SchedulerInput ι τ) :
    Bookkept (past ++ [stepOf (schedulerStep one) w input]) (schedulerStep one w input).1 ∧
      (NoOverlap (past ++ [stepOf (schedulerStep one) w input]) (schedulerStep one w input).1 ↔
        NoOverlap past w ∧ StillDue (stepOf (schedulerStep one) w input)) := by
  have hquiet : ∀ {v}, Bookkept past v → (NoOverlap past v ↔ NoOverlap past w) →
      (schedulerStep one w input).1 = v → (schedulerStep one w input).2.started = none →
      Bookkept (past ++ [stepOf (schedulerStep one) w input]) (schedulerStep one w input).1 ∧
        (NoOverlap (past ++ [stepOf (schedulerStep one) w input]) (schedulerStep one w input).1 ↔
          NoOverlap past w ∧ StillDue (stepOf (schedulerStep one) w input)) := by
    rintro v hv hsame rfl hnone
    have hafter : (stepOf (schedulerStep one) w input).after = (schedulerStep one w input).1 := rfl
    obtain ⟨hrecorded, hiff⟩ := hv.quiet hafter hnone
    refine ⟨hrecorded, hiff.trans (hsame.trans (iff_self_and.mpr fun _ name now hstarted => ?_))⟩
    rw [show (stepOf (schedulerStep one) w input).output.started = none from hnone] at hstarted
    cases hstarted
  cases input with
  | add name everyS enabled =>
    cases hget : w.schedules.get? name with
    | some schedule =>
      have hcontains : w.schedules.contains name = true :=
        (Dict.contains_iff _ _).mpr ⟨schedule, hget⟩
      refine hquiet h Iff.rfl ?_ rfl
      show (w.add one name everyS enabled).1 = w
      rw [Scheduler.add, if_pos hcontains]
    | none =>
      have hcontains : ¬ w.schedules.contains name = true := by
        rw [(Dict.contains_eq_false_iff _ _).mpr hget]
        exact Bool.false_ne_true
      obtain ⟨hrecorded, hiff⟩ := h.add hget ⟨name, max one everyS, enabled, none, false⟩ rfl rfl
      refine hquiet hrecorded hiff ?_ rfl
      show (w.add one name everyS enabled).1 = _
      rw [Scheduler.add, if_neg hcontains]
  | begin i dueAt startedAt =>
    cases htick : w.tick i with
    | awaiting current rest fired =>
      refine hquiet h Iff.rfl ?_ ?_
      · simp only [schedulerStep, htick]
      · simp only [schedulerStep, htick]
    | idle =>
      have hbegin : schedulerStep one w (.begin i dueAt startedAt)
          = w.next i 0 startedAt (w.due dueAt) := by simp only [schedulerStep, htick]
      exact h.next htick (nodup_due w dueAt) (fun _ => known_due) (fun _ _ => rfl)
        (congrArg Prod.fst hbegin) (congrArg Prod.snd hbegin)
  | resume i ended startedAt =>
    cases htick : w.tick i with
    | idle =>
      refine hquiet h Iff.rfl ?_ ?_
      · simp only [schedulerStep, htick]
      · simp only [schedulerStep, htick]
    | awaiting current rest fired =>
      obtain ⟨hnodup, hall⟩ := h.pending i current rest fired htick
      obtain ⟨schedule, hschedule⟩ := hall current List.mem_cons_self
      obtain ⟨hrecorded, hiff⟩ := h.stop htick
      have hresume : schedulerStep one w (.resume i ended startedAt)
          = (w.stop i current).next i (fired + 1) startedAt rest := by
        rw [next_stop]
        simp only [schedulerStep, htick]
      -- the schedules that are left are not the one that has ended
      have hsame : ∀ name ∈ rest, w.schedules.get? name
          = (w.stop i current).schedules.get? name := by
        intro name hname
        show _ = (w.change current _).schedules.get? name
        rw [get?_change hschedule, if_neg]
        rintro rfl
        exact (List.nodup_cons.mp hnodup).1 hname
      have hknown : ∀ name ∈ rest, ∃ schedule,
          (w.stop i current).schedules.get? name = some schedule := by
        intro name hname
        rw [← hsame name hname]
        exact hall name (List.mem_cons_of_mem _ hname)
      have hidle : (w.stop i current).tick i = .idle := Function.update_self _ _ _
      have hafter : (stepOf (schedulerStep one) w (.resume i ended startedAt)).after
          = ((w.stop i current).next i (fired + 1) startedAt rest).1 := congrArg Prod.fst hresume
      have hnext := hrecorded.next hidle (List.nodup_cons.mp hnodup).2 hknown hsame hafter
        (congrArg Prod.snd hresume)
      rwa [hiff] at hnext

end Bookkept

omit [DecidableEq ι] in
theorem bookkept_empty : Bookkept [] (Scheduler.empty : Scheduler ι τ) where
  known := fun _ _ h => absurd h (by simp [Scheduler.empty])
  unknown := fun _ _ => rfl
  pending := fun _ _ _ _ h => absurd h (by simp [Scheduler.empty])
  exclusive := fun _ _ _ _ h => absurd h (by simp [Scheduler.empty, TickState.Runs])
  marked := fun _ _ _ h => absurd h (by simp [Scheduler.empty])

/-- **Overlaps.** In a run of any `tick` calls over any schedules, no two runs of one schedule are
ever in progress and consecutive starts of a schedule are at least its interval apart exactly when
every schedule that is started is still due. -/
theorem no_overlap_iff (one : τ) (inputs : List (SchedulerInput ι τ)) :
    NoOverlap (trace (schedulerStep one) Scheduler.empty inputs)
        (final (schedulerStep one) Scheduler.empty inputs) ↔
      ∀ step ∈ trace (schedulerStep one) Scheduler.empty inputs, StillDue step := by
  refine final_iff (H := Bookkept) (P := NoOverlap) bookkept_empty
    (fun past w input h => (h.after one input).1)
    ⟨fun _ h => absurd h List.not_mem_nil, fun _ _ h => absurd h (by simp [Scheduler.empty])⟩
    (fun past w input h hno => ((h.after one input).2.mp hno).1)
    (fun past w input h hno => ?_) inputs
  rw [(h.after one input).2]
  exact and_iff_right hno

end Scheduler

/-- Two schedules of one minute. A call finds both due and starts the first one; while its plan runs,
another call starts the second one, and the first call starts it again a second later. -/
def staleList : List (SchedulerInput Bool ℤ) :=
  [.add "sweep" 60 true, .add "audit" 60 true, .begin false 0 0, .begin true 1 1,
    .resume false .done 2]

/-- Two runs of one schedule are in progress, and they were started a second apart. -/
theorem schedules_overlap :
    (final (schedulerStep 1) Scheduler.empty staleList).tick false = .awaiting "audit" [] 1 ∧
      (final (schedulerStep 1) Scheduler.empty staleList).tick true = .awaiting "audit" [] 0 ∧
      startsOf "audit" (trace (schedulerStep 1) Scheduler.empty staleList) = [1, 2] ∧
      ((final (schedulerStep 1) Scheduler.empty staleList).schedules.get? "audit").map
        (·.everyS) = some 60 := by
  decide +kernel

end ShelfWise.Worker
