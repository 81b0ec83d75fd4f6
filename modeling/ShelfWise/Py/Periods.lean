import Mathlib.Algebra.Order.BigOperators.Group.List
import Mathlib.Data.List.Dedup
import Mathlib.Data.List.Sort

/-!
# Totals by period

Amounts that are recorded in periods, the latest period first. `latestPeriods` are the periods in which
something was recorded, and `totalIn` is what was recorded in one of them.

`amounts_eq_totals` and `single_of_amounts_eq_totals` compare the amounts one by one with the totals:
they agree where every period has one amount, and for positive amounts only there.
-/

namespace Py

variable {α δ M : Type*} [LinearOrder δ] {period : α → δ} {xs ys : List α}

/-- The periods in which something was recorded, the latest first. -/
def periods (period : α → δ) (xs : List α) : List δ :=
  (xs.map period).dedup.insertionSort (· ≥ ·)

/-- The latest `n` of them. -/
def latestPeriods (period : α → δ) (xs : List α) (n : ℕ) : List δ := (periods period xs).take n

/-- What was recorded in a period. -/
def recordedIn (period : α → δ) (xs : List α) (d : δ) : List α := xs.filter fun x => period x = d

/-- The total of a period. -/
def totalIn [AddCommMonoid M] (period : α → δ) (amount : α → M) (xs : List α) (d : δ) : M :=
  ((recordedIn period xs d).map amount).sum

variable {d : δ}

theorem mem_periods : d ∈ periods period xs ↔ ∃ x ∈ xs, period x = d := by
  rw [periods, (List.perm_insertionSort _ _).mem_iff, List.mem_dedup, List.mem_map]

theorem nodup_periods : (periods period xs).Nodup :=
  (List.perm_insertionSort _ _).nodup_iff.mpr (List.nodup_dedup _)

theorem sorted_periods : (periods period xs).Pairwise (· ≥ ·) := List.pairwise_insertionSort _ _

variable {x : α}

/-- The latest period comes first, and the others are those of what is left of the list without it. -/
theorem periods_cons (hlatest : ∀ y ∈ xs, period y ≤ period x) :
    periods period (x :: xs) =
      period x :: periods period (xs.filter fun y => period y ≠ period x) := by
  have hother : ∀ d, d ∈ periods period (xs.filter fun y => period y ≠ period x) ↔
      (∃ y ∈ xs, period y = d) ∧ d ≠ period x := by
    intro d
    rw [mem_periods]
    constructor
    · rintro ⟨y, hy, rfl⟩
      obtain ⟨hy, hne⟩ := List.mem_filter.mp hy
      exact ⟨⟨y, hy, rfl⟩, of_decide_eq_true hne⟩
    · rintro ⟨⟨y, hy, rfl⟩, hne⟩
      exact ⟨y, List.mem_filter.mpr ⟨hy, decide_eq_true hne⟩, rfl⟩
  have hperm : (periods period (x :: xs)).Perm
      (period x :: periods period (xs.filter fun y => period y ≠ period x)) := by
    refine (List.perm_ext_iff_of_nodup nodup_periods (List.nodup_cons.mpr
      ⟨fun hmem => ((hother _).mp hmem).2 rfl, nodup_periods⟩)).mpr fun d => ?_
    rw [mem_periods, List.mem_cons, hother]
    constructor
    · rintro ⟨y, hy, rfl⟩
      by_cases hd : period y = period x
      · exact Or.inl hd
      · exact Or.inr ⟨⟨y, (List.mem_cons.mp hy).resolve_left fun heq => hd (heq ▸ rfl), rfl⟩, hd⟩
    · rintro (rfl | ⟨⟨y, hy, rfl⟩, -⟩)
      · exact ⟨x, List.mem_cons_self, rfl⟩
      · exact ⟨y, List.mem_cons_of_mem _ hy, rfl⟩
  refine hperm.eq_of_pairwise (fun a b _ _ hab hba => le_antisymm hba hab) sorted_periods
    (List.pairwise_cons.mpr ⟨fun d hd => ?_, sorted_periods⟩)
  obtain ⟨⟨y, hy, rfl⟩, -⟩ := (hother d).mp hd
  exact hlatest y hy

/-- Nothing else was recorded in the latest period. -/
theorem recordedIn_eq_nil_iff :
    recordedIn period xs (period x) = [] ↔ xs.filter (fun y => period y ≠ period x) = xs := by
  rw [recordedIn, List.filter_eq_nil_iff, List.filter_eq_self]
  refine forall₂_congr fun y _ => ?_
  rw [decide_eq_true_eq, decide_eq_true_eq]

theorem recordedIn_cons_self (x : α) :
    recordedIn period (x :: xs) (period x) = x :: recordedIn period xs (period x) :=
  List.filter_cons_of_pos (decide_eq_true rfl)

theorem recordedIn_cons_ne (hne : d ≠ period x) :
    recordedIn period (x :: xs) d = recordedIn period xs d :=
  List.filter_cons_of_neg (by simpa using Ne.symm hne)

/-- Every one of the latest `n` periods has one amount. -/
def SinglePeriods (period : α → δ) (xs : List α) (n : ℕ) : Prop :=
  ∀ d ∈ latestPeriods period xs n, (recordedIn period xs d).length = 1

/-- The latest periods of a list whose first element stands alone in its period. -/
theorem latestPeriods_cons (hlatest : ∀ y ∈ xs, period y ≤ period x)
    (halone : recordedIn period xs (period x) = []) (n : ℕ) :
    latestPeriods period (x :: xs) (n + 1) = period x :: latestPeriods period xs n := by
  rw [latestPeriods, periods_cons hlatest, recordedIn_eq_nil_iff.mp halone, List.take_succ_cons,
    latestPeriods]

variable {n : ℕ}

theorem ne_of_mem_latestPeriods (halone : recordedIn period xs (period x) = [])
    (hd : d ∈ latestPeriods period xs n) : d ≠ period x := by
  rintro rfl
  obtain ⟨y, hy, hperiod⟩ := mem_periods.mp (List.mem_of_mem_take hd)
  have hmem : y ∈ recordedIn period xs (period x) :=
    List.mem_filter.mpr ⟨hy, decide_eq_true hperiod⟩
  rw [halone] at hmem
  cases hmem

theorem singlePeriods_cons_iff (hlatest : ∀ y ∈ xs, period y ≤ period x) (n : ℕ) :
    SinglePeriods period (x :: xs) (n + 1) ↔
      recordedIn period xs (period x) = [] ∧ SinglePeriods period xs n := by
  constructor
  · intro h
    have hfirst : period x ∈ latestPeriods period (x :: xs) (n + 1) := by
      rw [latestPeriods, periods_cons hlatest, List.take_succ_cons]
      exact List.mem_cons_self
    have halone : recordedIn period xs (period x) = [] := by
      have hlength := h _ hfirst
      rw [recordedIn_cons_self, List.length_cons] at hlength
      exact List.eq_nil_of_length_eq_zero (by omega)
    refine ⟨halone, fun d hd => ?_⟩
    have hlength := h d (by
      rw [latestPeriods_cons hlatest halone]
      exact List.mem_cons_of_mem _ hd)
    rwa [recordedIn_cons_ne (ne_of_mem_latestPeriods halone hd)] at hlength
  · rintro ⟨halone, h⟩ d hd
    rw [latestPeriods_cons hlatest halone] at hd
    rcases List.mem_cons.mp hd with rfl | hd
    · rw [recordedIn_cons_self, halone, List.length_singleton]
    · rw [recordedIn_cons_ne (ne_of_mem_latestPeriods halone hd)]
      exact h d hd

variable {amount : α → M}

/-- Where every one of the latest periods has one amount, the first amounts are their totals. -/
theorem amounts_eq_totals [AddCommMonoid M] (hsorted : xs.Pairwise fun x y => period y ≤ period x)
    (h : SinglePeriods period xs n) :
    (xs.take (latestPeriods period xs n).length).map amount =
      (latestPeriods period xs n).map (totalIn period amount xs) := by
  induction xs generalizing n with
  | nil =>
    have hnone : latestPeriods period ([] : List α) n = [] := by
      rw [latestPeriods, periods, List.map_nil, List.dedup_nil, List.insertionSort_nil,
        List.take_nil]
    rw [hnone]
    rfl
  | cons x xs ih =>
    obtain ⟨hlatest, hsorted⟩ := List.pairwise_cons.mp hsorted
    cases n with
    | zero => rfl
    | succ n =>
      obtain ⟨halone, hrest⟩ := (singlePeriods_cons_iff hlatest n).mp h
      rw [latestPeriods_cons hlatest halone, List.length_cons, List.take_succ_cons, List.map_cons,
        List.map_cons, ih hsorted hrest]
      have hfirst : totalIn period amount (x :: xs) (period x) = amount x := by
        rw [totalIn, recordedIn_cons_self, halone, List.map_singleton, List.sum_singleton]
      rw [hfirst]
      refine congrArg (amount x :: ·) (List.map_congr_left fun d hd => ?_)
      rw [totalIn, totalIn, recordedIn_cons_ne (ne_of_mem_latestPeriods halone hd)]

/-- The amounts of the latest periods come first. -/
theorem mem_take_iff (hsorted : xs.Pairwise fun x y => period y ≤ period x)
    (h : SinglePeriods period xs n) :
    x ∈ xs.take (latestPeriods period xs n).length ↔
      x ∈ xs ∧ period x ∈ latestPeriods period xs n := by
  induction xs generalizing n with
  | nil => simp
  | cons first xs ih =>
    obtain ⟨hlatest, hsorted⟩ := List.pairwise_cons.mp hsorted
    cases n with
    | zero => simp [latestPeriods]
    | succ n =>
      obtain ⟨halone, hrest⟩ := (singlePeriods_cons_iff hlatest n).mp h
      rw [latestPeriods_cons hlatest halone, List.length_cons, List.take_succ_cons, List.mem_cons,
        List.mem_cons, List.mem_cons, ih hsorted hrest]
      constructor
      · rintro (rfl | ⟨hx, hperiod⟩)
        · exact ⟨Or.inl rfl, Or.inl rfl⟩
        · exact ⟨Or.inr hx, Or.inr hperiod⟩
      · rintro ⟨rfl | hx, hperiod⟩
        · exact Or.inl rfl
        · refine Or.inr ⟨hx, hperiod.resolve_left fun heq => ?_⟩
          have hmem : x ∈ recordedIn period xs (period first) :=
            List.mem_filter.mpr ⟨hx, decide_eq_true heq⟩
          rw [halone] at hmem
          cases hmem

/-- Positive amounts of which the first ones are the totals of the latest periods stand alone in
them. -/
theorem single_of_amounts_eq_totals [AddCommGroup M] [LinearOrder M] [IsOrderedAddMonoid M]
    (hsorted : xs.Pairwise fun x y => period y ≤ period x) (hpositive : ∀ x ∈ xs, 0 < amount x)
    (hstart : ys <+: xs)
    (h : (ys.take n).map amount = (latestPeriods period xs n).map (totalIn period amount xs)) :
    SinglePeriods period xs n := by
  induction xs generalizing n ys with
  | nil =>
    intro d hd
    obtain ⟨x, hx, -⟩ := mem_periods.mp (List.mem_of_mem_take hd)
    cases hx
  | cons x xs ih =>
    obtain ⟨hlatest, hrest⟩ := List.pairwise_cons.mp hsorted
    cases n with
    | zero =>
      intro d hd
      cases hd
    | succ n =>
      have hhead : latestPeriods period (x :: xs) (n + 1) = period x ::
          (periods period (xs.filter fun y => period y ≠ period x)).take n := by
        rw [latestPeriods, periods_cons hlatest, List.take_succ_cons]
      cases ys with
      | nil =>
        rw [hhead, List.map_cons] at h
        cases h
      | cons y ys =>
        obtain ⟨rfl, hrestStart⟩ := List.cons_prefix_cons.mp hstart
        rw [hhead, List.take_succ_cons, List.map_cons, List.map_cons, totalIn, recordedIn_cons_self,
          List.map_cons, List.sum_cons] at h
        obtain ⟨hfirst, htail⟩ := List.cons.inj h
        -- the total is the first amount, so that the others of the period would have to be none
        have hzero : ((recordedIn period xs (period y)).map amount).sum = 0 :=
          left_eq_add.mp hfirst
        have halone : recordedIn period xs (period y) = [] := by
          by_contra hne
          have hpos : 0 < ((recordedIn period xs (period y)).map amount).sum := by
            refine List.sum_pos _ (fun a ha => ?_) (by simpa using hne)
            obtain ⟨z, hz, rfl⟩ := List.mem_map.mp ha
            exact hpositive z (List.mem_cons_of_mem _ (List.mem_of_mem_filter hz))
          exact absurd hzero hpos.ne'
        refine (singlePeriods_cons_iff hlatest n).mpr ⟨halone, ?_⟩
        refine ih hrest (fun z hz => hpositive z (List.mem_cons_of_mem _ hz)) hrestStart ?_
        rw [htail, recordedIn_eq_nil_iff.mp halone]
        refine List.map_congr_left fun d hd => ?_
        rw [totalIn, totalIn, recordedIn_cons_ne (ne_of_mem_latestPeriods halone hd)]

end Py
