import Mathlib.Data.List.Basic
import Mathlib.Data.List.Count
import Mathlib.Data.List.Induction

/-!
# Runs of a state machine that answers its inputs

A system is a transition function `f : σ → ι → σ × β`: it takes a state and an input to the next
state and an answer. `final f s is` is the state after a list of inputs and `trace f s is` the
list of its steps, so that a statement about every step of every run is a statement about every
member of every trace.

The rules are `invariant_final`, `invariant_of_guarded`, `final_of_brought_about` and
`invariant_of_mem_trace` for a property of states, and `history_of_split` for a property that relates
a state to the steps that led to it; `forall_split_iff` and `final_iff` say exactly when such a
property holds after every step, and of the whole run. `countP_le_one` says that a kind of step
happens at most once, when the first one leaves a mark that rules out the others.
-/

namespace Sys

/-- One step of a run. -/
structure Step (σ ι β : Type*) where
  before : σ
  input : ι
  after : σ
  output : β

variable {σ ι β : Type*} (f : σ → ι → σ × β)

/-- The step that `f` takes on an input. -/
def stepOf (s : σ) (i : ι) : Step σ ι β := ⟨s, i, (f s i).1, (f s i).2⟩

/-- The steps of the run over a list of inputs. -/
def trace : σ → List ι → List (Step σ ι β)
  | _, [] => []
  | s, i :: is => stepOf f s i :: trace (f s i).1 is

/-- The state after a list of inputs. -/
def final : σ → List ι → σ
  | s, [] => s
  | s, i :: is => final (f s i).1 is

@[simp] theorem final_nil (s : σ) : final f s [] = s := rfl

@[simp] theorem final_cons (s : σ) (i : ι) (is : List ι) :
    final f s (i :: is) = final f (f s i).1 is := rfl

theorem final_append (s : σ) (is js : List ι) :
    final f s (is ++ js) = final f (final f s is) js := by
  induction is generalizing s with
  | nil => rfl
  | cons i is ih => exact ih (f s i).1

theorem trace_append (s : σ) (is js : List ι) :
    trace f s (is ++ js) = trace f s is ++ trace f (final f s is) js := by
  induction is generalizing s with
  | nil => rfl
  | cons i is ih => simp only [List.cons_append, trace, final_cons, ih]

theorem map_input_trace (s : σ) (is : List ι) : (trace f s is).map Step.input = is := by
  induction is generalizing s with
  | nil => rfl
  | cons i is ih => rw [trace, List.map_cons, ih, stepOf]

variable {f}

/-! ## Properties of states -/

variable {I : σ → Prop} {s : σ}

theorem invariant_final (hstep : ∀ s i, I s → I (f s i).1) (h : I s) (is : List ι) :
    I (final f s is) := by
  induction is generalizing s with
  | nil => exact h
  | cons i is ih => exact ih (hstep s i h)

variable {C : Step σ ι β → Prop}

/-- A property that the steps under a condition keep holds at the end of every run whose steps all
meet the condition. -/
theorem invariant_of_guarded (hstep : ∀ s i, I s → C (stepOf f s i) → I (f s i).1) (h : I s)
    (is : List ι) (hc : ∀ step ∈ trace f s is, C step) : I (final f s is) := by
  induction is generalizing s with
  | nil => exact h
  | cons i is ih =>
    exact ih (hstep s i h (hc _ List.mem_cons_self))
      fun step hm => hc step (List.mem_cons_of_mem _ hm)

variable {Q : σ → Prop} {is : List ι}

/-- What a kind of step brings about, and the steps under a condition keep, holds at the end of every run
under the condition that has such a step. -/
theorem final_of_brought_about {C E : Step σ ι β → Prop} (hstep : ∀ s i, I s → I (f s i).1)
    (hbring : ∀ s i, I s → E (stepOf f s i) → Q (f s i).1)
    (hkeep : ∀ s i, I s → C (stepOf f s i) → Q s → Q (f s i).1) (h : I s)
    (hc : ∀ step ∈ trace f s is, C step) (he : ∃ step ∈ trace f s is, E step) :
    Q (final f s is) := by
  induction is generalizing s with
  | nil =>
    obtain ⟨step, hm, -⟩ := he
    cases hm
  | cons i is ih =>
    have hrest : ∀ step ∈ trace f (f s i).1 is, C step := fun step hm =>
      hc step (List.mem_cons_of_mem _ hm)
    obtain ⟨step, hm, hbrings⟩ := he
    rcases List.mem_cons.mp hm with rfl | hm
    · exact (invariant_of_guarded (I := fun s => I s ∧ Q s)
        (fun s i hs hcondition => ⟨hstep s i hs.1, hkeep s i hs.1 hcondition hs.2⟩)
        ⟨hstep s i h, hbring s i h hbrings⟩ is hrest).2
    · exact ih (hstep s i h) hrest ⟨step, hm, hbrings⟩

variable {step : Step σ ι β}

/-- A member of a trace is a step of `f`, taken from a state that has the invariant. -/
theorem invariant_of_mem_trace (hstep : ∀ s i, I s → I (f s i).1) (h : I s)
    (hm : step ∈ trace f s is) : I step.before ∧ step = stepOf f step.before step.input := by
  induction is generalizing s with
  | nil => cases hm
  | cons i is ih =>
    rcases List.mem_cons.mp hm with rfl | hm
    · exact ⟨h, rfl⟩
    · exact ih (hstep s i h) hm

/-- The same for a property that the steps under a condition keep. -/
theorem guarded_of_mem_trace (hstep : ∀ s i, I s → C (stepOf f s i) → I (f s i).1) (h : I s)
    (hc : ∀ step ∈ trace f s is, C step) (hm : step ∈ trace f s is) :
    I step.before ∧ step = stepOf f step.before step.input := by
  induction is generalizing s with
  | nil => cases hm
  | cons i is ih =>
    rcases List.mem_cons.mp hm with rfl | hm
    · exact ⟨h, rfl⟩
    · have hfirst := hstep s i h (hc _ List.mem_cons_self)
      exact ih hfirst (fun step hm => hc step (List.mem_cons_of_mem _ hm)) hm

/-- Two systems that take the same steps along a run of the first run alike. -/
theorem trace_eq_of_agree {f g : σ → ι → σ × β}
    (h : ∀ step ∈ trace f s is, g step.before step.input = f step.before step.input) :
    trace g s is = trace f s is ∧ final g s is = final f s is := by
  induction is generalizing s with
  | nil => exact ⟨rfl, rfl⟩
  | cons i is ih =>
    have hfirst : g s i = f s i := h _ List.mem_cons_self
    obtain ⟨htrace, hfinal⟩ := ih fun step hm => h step (List.mem_cons_of_mem _ hm)
    constructor
    · rw [trace, trace, stepOf, stepOf, hfirst, htrace]
    · rw [final_cons, final_cons, hfirst, hfinal]

/-! ## States that stay -/

/-- The last step of a run leaves its final state. -/
theorem exists_last (h : is ≠ []) : ∃ step ∈ trace f s is, step.after = final f s is := by
  induction is generalizing s with
  | nil => exact absurd rfl h
  | cons i is ih =>
    by_cases his : is = []
    · subst his
      exact ⟨stepOf f s i, List.mem_cons_self, rfl⟩
    · obtain ⟨step, hm, hafter⟩ := ih (s := (f s i).1) his
      exact ⟨step, List.mem_cons_of_mem _ hm, hafter⟩

theorem final_of_fixed {P : σ → Prop} (hfix : ∀ s i, P s → (f s i).1 = s) (h : P s) (is : List ι) :
    final f s is = s := by
  induction is with
  | nil => rfl
  | cons i is ih =>
    rw [final_cons, hfix s i h]
    exact ih

/-- When no input leads out of the states of a kind, a run ends in the first of them it comes to. -/
theorem final_of_mem_trace {P : σ → Prop} (hfix : ∀ s i, P s → (f s i).1 = s)
    (hm : step ∈ trace f s is) (h : P step.after) : final f s is = step.after := by
  induction is generalizing s with
  | nil => cases hm
  | cons i is ih =>
    rcases List.mem_cons.mp hm with rfl | hm
    · exact final_of_fixed hfix h is
    · exact ih hm

/-! ## Properties that remember the run -/

/-- A relation between the steps so far and the state they led to, kept by every step, holds at
every point of a run. -/
theorem history_of_split {H : List (Step σ ι β) → σ → Prop}
    (hstep : ∀ past s i, H past s → H (past ++ [stepOf f s i]) (f s i).1) (past : List (Step σ ι β))
    (h : H past s) {pre post : List (Step σ ι β)} (hsplit : trace f s is = pre ++ step :: post) :
    H (past ++ pre) step.before := by
  induction is generalizing s past pre with
  | nil =>
    have hnil : pre ++ step :: post = [] := hsplit.symm
    simp at hnil
  | cons i is ih =>
    cases pre with
    | nil =>
      have hhead : stepOf f s i = step := (List.cons.inj hsplit).1
      rw [List.append_nil, ← hhead]
      exact h
    | cons first pre =>
      obtain ⟨hhead, htail⟩ := List.cons.inj hsplit
      have hnext := ih _ (hstep past s i h) htail
      rw [List.append_assoc, List.singleton_append, hhead] at hnext
      exact hnext

/-- Under what holds at every point of a run anyway (`H`), a property of the run so far and the state
(`P`) holds after every step exactly when every step meets the condition under which it is kept. -/
theorem forall_split_iff {H P : List (Step σ ι β) → σ → Prop} (hstart : H [] s)
    (hkeep : ∀ past s i, H past s → H (past ++ [stepOf f s i]) (f s i).1) (hfirst : P [] s)
    (hstep : ∀ past s i, H past s → P past s → (P (past ++ [stepOf f s i]) (f s i).1 ↔ C (stepOf f s i)))
    (is : List ι) :
    (∀ past step rest, trace f s is = past ++ step :: rest → P (past ++ [step]) step.after) ↔
      ∀ step ∈ trace f s is, C step := by
  have hsteps : ∀ step ∈ trace f s is, step = stepOf f step.before step.input := fun step hmem =>
    (invariant_of_mem_trace (I := fun _ => True) (fun _ _ _ => trivial) trivial hmem).2
  have hbefore : ∀ {past step rest}, trace f s is = past ++ step :: rest → H past step.before :=
    fun hsplit => history_of_split hkeep [] hstart hsplit
  constructor
  · intro hall step hmem
    obtain ⟨past, rest, hsplit⟩ := List.append_of_mem hmem
    -- the property holds before the step: after the step before it, or at the start
    have hlast : P past step.before := by
      have hhistory := history_of_split (H := fun history w => (history = [] → w = s) ∧
        ∀ earlier last, history = earlier ++ [last] → w = last.after)
        (fun past w i _ => ⟨fun hnil => absurd hnil (by simp), fun earlier last heq => by
          rw [← (List.append_singleton_inj.mp heq).2]
          rfl⟩) [] ⟨fun _ => rfl, fun earlier last heq => absurd heq (by simp)⟩ hsplit
      rcases List.eq_nil_or_concat past with rfl | ⟨earlier, last, hconcat⟩
      · rw [hhistory.1 rfl]
        exact hfirst
      · rw [List.concat_eq_append] at hconcat
        rw [hhistory.2 earlier last hconcat, hconcat]
        exact hall earlier last (step :: rest) (by rw [hsplit, hconcat]; simp)
    have hafter := hall past step rest hsplit
    rw [hsteps step hmem] at hafter ⊢
    exact (hstep past _ _ (hbefore hsplit) hlast).mp hafter
  · intro hall past step rest hsplit
    have hmem : ∀ {step'}, step' ∈ past ++ [step] → C step' := fun h => hall _ (by
      rw [hsplit]
      rcases List.mem_append.mp h with h | h
      · exact List.mem_append_left _ h
      · exact List.mem_append_right _ (List.mem_singleton.mp h ▸ List.mem_cons_self))
    have hhistory := history_of_split
      (H := fun history w => H history w ∧ ((∀ step ∈ history, C step) → P history w))
      (fun past w i h => ⟨hkeep past w i h.1, fun hall => (hstep past w i h.1
        (h.2 fun step hstep => hall step (List.mem_append_left _ hstep))).mpr (hall _ (by simp))⟩)
      [] ⟨hstart, fun _ => hfirst⟩ hsplit
    have hlast := hhistory.2 fun step' hstep' => hmem (List.mem_append_left _ hstep')
    have hcondition : C step := hmem (by simp)
    rw [hsteps step (by rw [hsplit]; simp)] at hcondition ⊢
    exact (hstep past _ _ hhistory.1 hlast).mpr hcondition

/-- The same for a property of whole runs that is never won back: a run has it exactly when every step
meets the condition under which it is kept. -/
theorem final_iff {H P : List (Step σ ι β) → σ → Prop} (hstart : H [] s)
    (hkeep : ∀ past s i, H past s → H (past ++ [stepOf f s i]) (f s i).1) (hfirst : P [] s)
    (hbefore : ∀ past s i, H past s → P (past ++ [stepOf f s i]) (f s i).1 → P past s)
    (hstep : ∀ past s i, H past s → P past s → (P (past ++ [stepOf f s i]) (f s i).1 ↔ C (stepOf f s i)))
    (is : List ι) : P (trace f s is) (final f s is) ↔ ∀ step ∈ trace f s is, C step := by
  have hhistory : H (trace f s is) (final f s is) ∧
      (P (trace f s is) (final f s is) ↔ ∀ step ∈ trace f s is, C step) := by
    induction is using List.reverseRecOn with
    | nil => exact ⟨hstart, iff_of_true hfirst fun step hm => absurd hm List.not_mem_nil⟩
    | append_singleton is i ih =>
      obtain ⟨hH, hiff⟩ := ih
      rw [trace_append, final_append]
      refine ⟨hkeep _ _ i hH, fun hP => ?_, fun hC => ?_⟩
      · have hpast := hbefore _ _ i hH hP
        intro step hm
        rcases List.mem_append.mp hm with hm | hm
        · exact hiff.mp hpast step hm
        · rw [List.mem_singleton.mp hm]
          exact (hstep _ _ i hH hpast).mp hP
      · have hpast := hiff.mpr fun step hm => hC step (List.mem_append_left _ hm)
        exact (hstep _ _ i hH hpast).mpr (hC _ (List.mem_append_right _ List.mem_cons_self))
  exact hhistory.2

/-! ## Steps that happen at most once -/

/-- Once the mark `Q` is there, no step of the kind `P` follows. -/
theorem countP_eq_zero {P : Step σ ι β → Bool} (hkeep : ∀ s i, Q s → Q (f s i).1)
    (hstop : ∀ s i, Q s → P (stepOf f s i) = false) (h : Q s) (is : List ι) :
    (trace f s is).countP P = 0 := by
  induction is generalizing s with
  | nil => rfl
  | cons i is ih =>
    rw [trace, List.countP_cons, ih (hkeep s i h), hstop s i h]
    rfl

/-- A step of the kind `P` leaves the mark `Q`, which stays and rules out another such step. -/
theorem countP_le_one {P : Step σ ι β → Bool} (hstep : ∀ s i, I s → I (f s i).1)
    (hmark : ∀ s i, I s → P (stepOf f s i) = true → Q (f s i).1) (hkeep : ∀ s i, Q s → Q (f s i).1)
    (hstop : ∀ s i, Q s → P (stepOf f s i) = false) (h : I s) (is : List ι) :
    (trace f s is).countP P ≤ 1 := by
  induction is generalizing s with
  | nil => exact Nat.zero_le 1
  | cons i is ih =>
    rw [trace, List.countP_cons]
    by_cases hp : P (stepOf f s i) = true
    · have hrest := countP_eq_zero hkeep hstop (hmark s i h hp) is
      simp only [hp, if_true]
      omega
    · rw [if_neg hp]
      exact ih (hstep s i h)

end Sys
