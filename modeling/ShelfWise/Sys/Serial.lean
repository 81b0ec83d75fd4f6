import ShelfWise.Sys.Program
import ShelfWise.Sys.Run

/-!
# Programs that do not overlap

A schedule of a pool in which no program takes a step while another one is under way (`Apart`) does
what the programs do one after another, in the order of their first steps: `store_of_apart`.
-/

namespace Sys.Program

variable {ι Λ σ α : Type}

/-! ## One more step of a program -/

/-- A program that has not returned after `n` steps takes one more. -/
theorem cut_succ {p : Program Λ σ α} {n : ℕ} {s : σ} {label : Λ} {act : σ → σ}
    {next : σ → Program Λ σ α} (h : p.rest n s = step label act next) :
    p.cut (n + 1) s = act (p.cut n s) ∧ p.rest (n + 1) s = next (p.cut n s) := by
  induction n generalizing p s with
  | zero =>
    have hp : p = step label act next := h
    subst hp
    exact ⟨rfl, rfl⟩
  | succ n ih =>
    cases p with
    | ret a => cases h
    | step label' act' next' => exact ih h

/-- A program that has returned after `n` steps has run. -/
theorem run_of_rest {p : Program Λ σ α} {n : ℕ} {s : σ} {a : α} (h : p.rest n s = ret a) :
    p.run s = (p.cut n s, a) := by
  induction n generalizing p s with
  | zero =>
    have hp : p = ret a := h
    subst hp
    rfl
  | succ n ih =>
    cases p with
    | ret b =>
      cases h
      rfl
    | step label act next => exact ih h

variable [DecidableEq ι]

/-! ## One after another -/

/-- The programs that have taken a step, in the order of their first steps. -/
def started (schedule : List ι) : List ι :=
  schedule.foldl (fun order i => if i ∈ order then order else order ++ [i]) []

/-- The state after programs that run one after another. -/
def runAll (program : ι → Program Λ σ α) (order : List ι) (s : σ) : σ :=
  order.foldl (fun s i => ((program i).run s).1) s

/-- No program takes a step while another one is under way. -/
def Apart (steps : List (Step (Pool ι Λ σ α) ι Unit)) : Prop :=
  ∀ past step rest, steps = past ++ step :: rest → ∀ earlier ∈ past, earlier.input ≠ step.input →
    (step.before.program earlier.input).nextLabel = none

theorem started_concat (schedule : List ι) (i : ι) :
    started (schedule ++ [i])
      = if i ∈ started schedule then started schedule else started schedule ++ [i] := by
  rw [started, List.foldl_append]
  rfl

theorem mem_started {schedule : List ι} {i : ι} : i ∈ started schedule ↔ i ∈ schedule := by
  induction schedule using List.reverseRecOn with
  | nil => rfl
  | append_singleton schedule j ih =>
    rw [started_concat]
    by_cases hj : j ∈ started schedule
    · rw [if_pos hj, ih, List.mem_append, List.mem_singleton]
      refine ⟨Or.inl, fun h => h.elim id fun hi => ?_⟩
      rw [hi]
      rwa [← hi, ← ih, hi]
    · rw [if_neg hj, List.mem_append, List.mem_append, ih]

omit [DecidableEq ι] in
theorem runAll_concat (program : ι → Program Λ σ α) (order : List ι) (i : ι) (s : σ) :
    runAll program (order ++ [i]) s = ((program i).run (runAll program order s)).1 := by
  rw [runAll, List.foldl_append]
  rfl

/-- What a schedule without overlaps has come to: the programs of `order` have returned, except
perhaps the last one, and the others are as they were. -/
structure Serial (program : ι → Program Λ σ α) (s : σ) (order : List ι) (w : Pool ι Λ σ α) :
    Prop where
  idle : ∀ j, j ∉ order → w.program j = program j
  fresh : order = [] → w.store = s
  returned : ∀ before i, order = before ++ [i] → ∀ j ∈ before, (w.program j).nextLabel = none
  underway : ∀ before i, order = before ++ [i] → ∃ n,
    w.store = (program i).cut n (runAll program before s) ∧
      w.program i = (program i).rest n (runAll program before s)

section Serial

variable {program : ι → Program Λ σ α} {s : σ} {order : List ι} {w : Pool ι Λ σ α}

omit [DecidableEq ι] in
/-- When every program has returned, they have run one after another. -/
theorem Serial.store_eq (h : Serial program s order w)
    (hquiet : ∀ i ∈ order, (w.program i).nextLabel = none) : w.store = runAll program order s := by
  rcases List.eq_nil_or_concat order with hnil | ⟨before, i, hconcat⟩
  · rw [h.fresh hnil, hnil]
    rfl
  · rw [List.concat_eq_append] at hconcat
    obtain ⟨n, hstore, hrest⟩ := h.underway before i hconcat
    obtain ⟨a, ha⟩ := nextLabel_eq_none (hquiet i (by simp [hconcat]))
    rw [hconcat, runAll_concat, run_of_rest (hrest.symm.trans ha), hstore]

/-- The program that is under way, or one that has returned, takes a step. -/
theorem Serial.again (h : Serial program s order w) {i : ι} (hi : i ∈ order) :
    Serial program s order (w.tick i) := by
  cases hp : w.program i with
  | ret a =>
    rw [Pool.tick_ret hp]
    exact h
  | step label act next =>
    have hlast : ∀ before c, order = before ++ [c] → i = c := by
      intro before c hconcat
      rw [hconcat, List.mem_append, List.mem_singleton] at hi
      refine hi.resolve_left fun hbefore => ?_
      have hnone := h.returned before c hconcat i hbefore
      rw [hp] at hnone
      cases hnone
    rw [Pool.tick_step hp]
    have hother : ∀ j, j ≠ i → Function.update w.program i (next w.store) j = w.program j :=
      fun j hj => Function.update_of_ne hj _ _
    refine ⟨fun j hj => ?_, fun hnil => ?_, fun before c hconcat j hj => ?_,
      fun before c hconcat => ?_⟩
    · show Function.update w.program i (next w.store) j = _
      rw [hother j fun hji => hj (hji ▸ hi)]
      exact h.idle j hj
    · rw [hnil] at hi
      cases hi
    · show (Function.update w.program i (next w.store) j).nextLabel = none
      have hnone := h.returned before c hconcat j hj
      rwa [hother j]
      rintro rfl
      rw [hp] at hnone
      cases hnone
    · obtain rfl := hlast before c hconcat
      obtain ⟨n, hstore, hrest⟩ := h.underway before i hconcat
      obtain ⟨hcut, hnext⟩ := cut_succ (hrest.symm.trans hp)
      refine ⟨n + 1, ?_, ?_⟩
      · show act w.store = _
        rw [hcut, hstore]
      · show Function.update w.program i (next w.store) i = _
        rw [Function.update_self, hnext, hstore]

/-- A program begins after all the others have returned. -/
theorem Serial.start (h : Serial program s order w)
    (hquiet : ∀ j ∈ order, (w.program j).nextLabel = none) {i : ι} (hi : i ∉ order) :
    Serial program s (order ++ [i]) (w.tick i) := by
  have hprogram : w.program i = program i := h.idle i hi
  have hstore := h.store_eq hquiet
  have hother : ∀ j, j ≠ i → (w.tick i).program j = w.program j := by
    intro j hj
    cases hp : w.program i with
    | ret a => rw [Pool.tick_ret hp]
    | step label act next =>
      rw [Pool.tick_step hp]
      exact Function.update_of_ne hj _ _
  refine ⟨fun j hj => ?_, fun hnil => absurd hnil (by simp), fun before c hconcat j hj => ?_,
    fun before c hconcat => ?_⟩
  · rw [List.mem_append, List.mem_singleton, not_or] at hj
    rw [hother j hj.2]
    exact h.idle j hj.1
  · obtain ⟨rfl, -⟩ := List.append_singleton_inj.mp hconcat
    rw [hother j fun hji => hi (hji ▸ hj)]
    exact hquiet j hj
  · obtain ⟨rfl, rfl⟩ := List.append_singleton_inj.mp hconcat
    refine ⟨1, ?_⟩
    rw [← hstore, ← hprogram]
    cases hp : w.program i with
    | ret a =>
      rw [Pool.tick_ret hp, hp]
      exact ⟨rfl, rfl⟩
    | step label act next =>
      rw [Pool.tick_step hp]
      refine ⟨rfl, ?_⟩
      show Function.update w.program i (next w.store) i = _
      rw [Function.update_self]
      rfl

end Serial

omit [DecidableEq ι] in
theorem Apart.of_append {steps later : List (Step (Pool ι Λ σ α) ι Unit)}
    (h : Apart (steps ++ later)) : Apart steps := fun past step rest hsplit =>
  h past step (rest ++ later) (by rw [hsplit, List.append_assoc, List.cons_append])

theorem serial_final {program : ι → Program Λ σ α} {s : σ} (schedule : List ι)
    (h : Apart (trace Pool.step ⟨s, program⟩ schedule)) :
    Serial program s (started schedule) (final Pool.step ⟨s, program⟩ schedule) := by
  induction schedule using List.reverseRecOn with
  | nil =>
    exact ⟨fun _ _ => rfl, fun _ => rfl, fun before i hconcat => absurd hconcat.symm (by simp [started]),
      fun before i hconcat => absurd hconcat.symm (by simp [started])⟩
  | append_singleton schedule i ih =>
    rw [trace_append] at h
    have hserial := ih h.of_append
    have hquiet : ∀ j ∈ schedule, j ≠ i →
        ((final Pool.step ⟨s, program⟩ schedule).program j).nextLabel = none := by
      intro j hj hne
      rw [← map_input_trace Pool.step ⟨s, program⟩ schedule] at hj
      obtain ⟨earlier, hearlier, rfl⟩ := List.mem_map.mp hj
      exact h _ _ [] rfl earlier hearlier hne
    rw [final_append, started_concat]
    by_cases hi : i ∈ started schedule
    · rw [if_pos hi]
      exact hserial.again hi
    · rw [if_neg hi]
      refine hserial.start (fun j hj => hquiet j (mem_started.mp hj) ?_) hi
      rintro rfl
      exact hi hj

/-- A schedule without overlaps, after which every program that it began has returned, does what the
programs do one after another. -/
theorem store_of_apart {program : ι → Program Λ σ α} {s : σ} {schedule : List ι}
    (h : Apart (trace Pool.step ⟨s, program⟩ schedule))
    (hquiet : ∀ i ∈ schedule, ((final Pool.step ⟨s, program⟩ schedule).program i).nextLabel = none) :
    (final Pool.step ⟨s, program⟩ schedule).store = runAll program (started schedule) s :=
  (serial_final schedule h).store_eq fun i hi => hquiet i (mem_started.mp hi)

end Sys.Program
