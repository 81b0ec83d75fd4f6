import Mathlib.Algebra.Order.Ring.Nat
import Mathlib.Algebra.Order.BigOperators.Group.List

/-!
# Worklist searches

A queue from whose front one item after the other is taken: an item that expands to others puts them
at the end, one that does not is a result. A search ends when the items that an item expands to weigh
less than it does; `mem_search_iff` then says what its results are, without the queue.

`collect` also takes results from the items that it goes on from. It works through the queue level by
level (`collect_eq_levels`), so that its results are told by induction on the level.
-/

namespace Sys.Worklist

variable {σ : Type*}

/-- The weight of what an item expands to. -/
def Shrinks (expand : σ → List σ) (weight : σ → ℕ) : Prop :=
  ∀ s, ((expand s).map weight).sum < weight s

/-- The results of a queue, in the order in which they are found. -/
def search (expand : σ → List σ) (weight : σ → ℕ) (h : Shrinks expand weight) : List σ → List σ
  | [] => []
  | s :: queue =>
    if (expand s).isEmpty then s :: search expand weight h queue
    else search expand weight h (queue ++ expand s)
termination_by queue => (queue.map weight).sum
decreasing_by
  · have hs := h s
    rw [List.map_cons, List.sum_cons]
    omega
  · have hs := h s
    rw [List.map_append, List.sum_append, List.map_cons, List.sum_cons]
    omega

/-- An item leads to a result through the items it expands to. -/
inductive Leads (expand : σ → List σ) : σ → σ → Prop where
  | done {s : σ} (h : expand s = []) : Leads expand s s
  | step {s t u : σ} (h : t ∈ expand s) (hrest : Leads expand t u) : Leads expand s u

variable {expand : σ → List σ} {weight : σ → ℕ}

theorem Leads.ended {s t : σ} (h : Leads expand s t) : expand t = [] := by
  induction h with
  | done hdone => exact hdone
  | step _ _ ih => exact ih

/-- An item that expands to nothing leads to itself only. -/
theorem leads_of_isEmpty {s t : σ} (h : expand s = []) : Leads expand s t ↔ t = s := by
  constructor
  · intro hleads
    cases hleads with
    | done _ => rfl
    | step hmem _ =>
      rw [h] at hmem
      cases hmem
  · rintro rfl
    exact .done h

/-- Any other item leads where what it expands to leads. -/
theorem leads_of_expand {s t : σ} (h : expand s ≠ []) :
    Leads expand s t ↔ ∃ u ∈ expand s, Leads expand u t := by
  constructor
  · intro hleads
    cases hleads with
    | done hdone => exact absurd hdone h
    | step hmem hrest => exact ⟨_, hmem, hrest⟩
  · rintro ⟨u, hmem, hrest⟩
    exact .step hmem hrest

/-- The results of a search are what the items of the queue lead to. -/
theorem mem_search_iff (h : Shrinks expand weight) (queue : List σ) (t : σ) :
    t ∈ search expand weight h queue ↔ ∃ s ∈ queue, Leads expand s t := by
  induction queue using search.induct expand weight h with
  | case1 => simp [search]
  | case2 s queue hempty ih =>
    have hnone : expand s = [] := List.isEmpty_iff.mp hempty
    rw [search, if_pos hempty, List.mem_cons, ih]
    constructor
    · rintro (rfl | ⟨u, hu, hleads⟩)
      · exact ⟨_, List.mem_cons_self, .done hnone⟩
      · exact ⟨u, List.mem_cons_of_mem s hu, hleads⟩
    · rintro ⟨u, hu, hleads⟩
      rcases List.mem_cons.mp hu with rfl | hu
      · exact .inl ((leads_of_isEmpty hnone).mp hleads)
      · exact .inr ⟨u, hu, hleads⟩
  | case3 s queue hempty ih =>
    have hsome : expand s ≠ [] := fun hnone => hempty (List.isEmpty_iff.mpr hnone)
    rw [search, if_neg hempty, ih]
    constructor
    · rintro ⟨u, hu, hleads⟩
      rcases List.mem_append.mp hu with hu | hu
      · exact ⟨u, List.mem_cons_of_mem s hu, hleads⟩
      · exact ⟨s, List.mem_cons_self, .step hu hleads⟩
    · rintro ⟨u, hu, hleads⟩
      rcases List.mem_cons.mp hu with rfl | hu
      · obtain ⟨v, hv, hrest⟩ := (leads_of_expand hsome).mp hleads
        exact ⟨v, List.mem_append_right _ hv, hrest⟩
      · exact ⟨u, List.mem_append_left _ hu, hleads⟩

/-- Every item leads to a result. -/
theorem exists_leads (h : Shrinks expand weight) (s : σ) : ∃ t, Leads expand s t := by
  by_cases hempty : expand s = []
  · exact ⟨s, .done hempty⟩
  · obtain ⟨u, hu⟩ := List.exists_mem_of_ne_nil _ hempty
    have hlt : weight u < weight s :=
      lt_of_le_of_lt (List.single_le_sum (fun _ _ => Nat.zero_le _) _ (List.mem_map_of_mem hu)) (h s)
    obtain ⟨t, ht⟩ := exists_leads h u
    exact ⟨t, .step hu ht⟩
termination_by weight s

/-! ## Results on the way -/

variable {ρ : Type*} (found : σ → List ρ)

/-- What is found at the items of a queue and at all they expand to, in the order of the queue. -/
def collect (expand : σ → List σ) (weight : σ → ℕ) (h : Shrinks expand weight) : List σ → List ρ
  | [] => []
  | s :: queue => found s ++ collect expand weight h (queue ++ expand s)
termination_by queue => (queue.map weight).sum
decreasing_by
  have hs := h s
  rw [List.map_append, List.sum_append, List.map_cons, List.sum_cons]
  omega

/-- What a queue has become when each of its items has been expanded `k` times. -/
def level (expand : σ → List σ) (queue : List σ) : ℕ → List σ
  | 0 => queue
  | k + 1 => (level expand queue k).flatMap expand

theorem level_succ (queue : List σ) (k : ℕ) :
    level expand queue (k + 1) = level expand (queue.flatMap expand) k := by
  induction k with
  | zero => rfl
  | succ k ih => rw [level, ih, level]

/-- The front of a queue is worked through before what it expands to. -/
theorem collect_append (h : Shrinks expand weight) (front rest : List σ) :
    collect found expand weight h (front ++ rest) =
      front.flatMap found ++ collect found expand weight h (rest ++ front.flatMap expand) := by
  induction front generalizing rest with
  | nil => rw [List.nil_append, List.flatMap_nil, List.flatMap_nil, List.nil_append, List.append_nil]
  | cons s front ih =>
    rw [List.cons_append, collect, List.append_assoc, ih, List.flatMap_cons, List.flatMap_cons,
      List.append_assoc, List.append_assoc]

/-- A queue whose last level is empty is worked through level by level. -/
theorem collect_eq_levels (h : Shrinks expand weight) (queue : List σ) {n : ℕ}
    (hlast : level expand queue n = []) : collect found expand weight h queue =
      (List.range n).flatMap fun k => (level expand queue k).flatMap found := by
  induction n generalizing queue with
  | zero =>
    have hempty : queue = [] := hlast
    subst hempty
    rw [collect]
    rfl
  | succ n ih =>
    have hstep := collect_append found h queue []
    rw [List.append_nil, List.nil_append] at hstep
    rw [level_succ] at hlast
    rw [hstep, ih (queue.flatMap expand) hlast, List.range_succ_eq_map, List.flatMap_cons,
      List.flatMap_map]
    simp only [level_succ]
    rfl

end Sys.Worklist
