import Mathlib.Data.List.Induction
import Mathlib.Order.MinMax

/-!
# The newest report with the greatest level

Reports about one thing come in any order, and some come more than once. Each has a time and a level,
which only rises in the world; what is kept is the newest report with the greatest level that a
report has shown which was not late. A late report, older than the one kept, is dropped together with
its level.

`converges_iff` says exactly when the order does not matter: when some newest report shows the
greatest level, and the newest reports agree on what is read from them.
-/

namespace Sys

/-- What is kept: a report, and a level that is at least its own. -/
structure Kept (α κ : Type*) where
  report : α
  level : κ

variable {α τ κ : Type*} [LinearOrder τ] [LinearOrder κ] (time : α → τ) (level : α → κ)

/-- A report that is not older takes over, with the greater of the two levels. -/
def keepNewest : Option (Kept α κ) → α → Option (Kept α κ)
  | none, x => some ⟨x, level x⟩
  | some kept, x =>
    some (if time x < time kept.report then kept else ⟨x, max (level x) kept.level⟩)

/-- The reports of a list, one after another. -/
def keepAll (kept : Option (Kept α κ)) (xs : List α) : Option (Kept α κ) :=
  xs.foldl (keepNewest time level) kept

/-- `l` is one of the newest reports. -/
structure Newest (xs : List α) (l : α) : Prop where
  mem : l ∈ xs
  time_le : ∀ x ∈ xs, time x ≤ time l

variable {time level}

theorem keepAll_cons (kept : Option (Kept α κ)) (x : α) (xs : List α) :
    keepAll time level kept (x :: xs) = keepAll time level (keepNewest time level kept x) xs := rfl

theorem keepAll_concat (kept : Option (Kept α κ)) (xs : List α) (x : α) :
    keepAll time level kept (xs ++ [x]) = keepNewest time level (keepAll time level kept xs) x := by
  rw [keepAll, List.foldl_append]
  rfl

variable (time) in
theorem exists_newest {xs : List α} (h : xs ≠ []) : ∃ l, Newest time xs l := by
  induction xs with
  | nil => exact absurd rfl h
  | cons x xs ih =>
    by_cases hxs : xs = []
    · subst hxs
      exact ⟨x, List.mem_cons_self, by simp⟩
    · obtain ⟨l, hl, hle⟩ := ih hxs
      rcases le_total (time x) (time l) with hx | hx
      · exact ⟨l, List.mem_cons_of_mem _ hl, List.forall_mem_cons.mpr ⟨hx, hle⟩⟩
      · exact ⟨x, List.mem_cons_self,
          List.forall_mem_cons.mpr ⟨le_refl _, fun y hy => (hle y hy).trans hx⟩⟩

/-- What a list of reports leaves. -/
structure Keeps (time : α → τ) (level : α → κ) (xs : List α) (kept : Kept α κ) : Prop where
  newest : Newest time xs kept.report
  level_le : ∀ l, Newest time xs l → level l ≤ kept.level
  attained : ∃ x ∈ xs, kept.level = level x

theorem Keeps.concat {xs : List α} {kept : Kept α κ} (h : Keeps time level xs kept) (x : α) :
    ∃ kept', keepNewest time level (some kept) x = some kept' ∧
      Keeps time level (xs ++ [x]) kept' := by
  refine ⟨_, rfl, ?_⟩
  split
  · next hlate =>
    refine ⟨⟨List.mem_append_left _ h.newest.mem, ?_⟩, ?_, ?_⟩
    · intro y hy
      rcases List.mem_append.mp hy with hy | hy
      · exact h.newest.time_le y hy
      · rw [List.mem_singleton.mp hy]
        exact hlate.le
    · intro l hl
      refine h.level_le l ⟨?_, fun y hy => hl.time_le y (List.mem_append_left _ hy)⟩
      rcases List.mem_append.mp hl.mem with hmem | hmem
      · exact hmem
      · -- a late report is not among the newest
        rw [List.mem_singleton.mp hmem] at hl
        exact absurd (hl.time_le _ (List.mem_append_left _ h.newest.mem)) (not_le.mpr hlate)
    · obtain ⟨y, hy, hlevel⟩ := h.attained
      exact ⟨y, List.mem_append_left _ hy, hlevel⟩
  · next hfresh =>
    have hnewer : time kept.report ≤ time x := not_lt.mp hfresh
    refine ⟨⟨by simp, ?_⟩, ?_, ?_⟩
    · intro y hy
      rcases List.mem_append.mp hy with hy | hy
      · exact (h.newest.time_le y hy).trans hnewer
      · rw [List.mem_singleton.mp hy]
    · intro l hl
      rcases List.mem_append.mp hl.mem with hmem | hmem
      · refine (h.level_le l ⟨hmem, fun y hy => ?_⟩).trans (le_max_right _ _)
        exact hl.time_le y (List.mem_append_left _ hy)
      · rw [List.mem_singleton.mp hmem]
        exact le_max_left _ _
    · rcases max_choice (level x) kept.level with hmax | hmax
      · exact ⟨x, by simp, hmax⟩
      · obtain ⟨y, hy, hlevel⟩ := h.attained
        exact ⟨y, List.mem_append_left _ hy, hmax.trans hlevel⟩

variable (time level) in
/-- A list of reports leaves one of its newest reports. -/
theorem exists_keeps {xs : List α} (h : xs ≠ []) :
    ∃ kept, keepAll time level none xs = some kept ∧ Keeps time level xs kept := by
  induction xs using List.reverseRecOn with
  | nil => exact absurd rfl h
  | append_singleton xs x ih =>
    rw [keepAll_concat]
    by_cases hxs : xs = []
    · subst hxs
      refine ⟨⟨x, level x⟩, rfl, ⟨by simp, by simp⟩, fun l hl => ?_, x, by simp, rfl⟩
      have hmem := hl.mem
      rw [List.nil_append, List.mem_singleton] at hmem
      rw [hmem]
    · obtain ⟨kept, hkept, hkeeps⟩ := ih hxs
      rw [hkept]
      exact hkeeps.concat x

/-- A level that has been kept is not lost. -/
theorem level_le_keepAll {kept kept' : Kept α κ} (xs : List α)
    (h : keepAll time level (some kept) xs = some kept') : kept.level ≤ kept'.level := by
  induction xs generalizing kept with
  | nil =>
    rw [← Option.some.inj h]
  | cons x xs ih =>
    refine le_trans ?_ (ih h)
    split
    · exact le_refl _
    · exact le_max_right _ _

/-- After one of the newest reports, only the newest ones count. -/
theorem keepAll_level_lt {kept kept' : Kept α κ} {xs : List α} {bound : κ}
    (hnewest : ∀ x ∈ xs, time x ≤ time kept.report)
    (hbound : ∀ x ∈ xs, time x = time kept.report → level x < bound) (hkept : kept.level < bound)
    (h : keepAll time level (some kept) xs = some kept') : kept'.level < bound := by
  induction xs generalizing kept with
  | nil =>
    rw [← Option.some.inj h]
    exact hkept
  | cons x xs ih =>
    obtain ⟨hx, hnewest⟩ := List.forall_mem_cons.mp hnewest
    obtain ⟨hlevel, hbound⟩ := List.forall_mem_cons.mp hbound
    rw [keepAll_cons, keepNewest] at h
    split at h
    · exact ih hnewest hbound hkept h
    · next hfresh =>
      have htime : time x = time kept.report := le_antisymm hx (not_lt.mp hfresh)
      refine ih ?_ ?_ (max_lt (hlevel htime) hkept) h
      · rw [htime]
        exact hnewest
      · rw [htime]
        exact hbound

/-! ## When the order does not matter -/

/-- Two lists of the same reports, however often each comes. -/
def SameReports (xs ys : List α) : Prop := ∀ x, x ∈ xs ↔ x ∈ ys

theorem Newest.congr {xs ys : List α} (h : SameReports xs ys) {l : α} (hl : Newest time xs l) :
    Newest time ys l :=
  ⟨(h l).mp hl.mem, fun x hx => hl.time_le x ((h x).mpr hx)⟩

variable (time level) in
/-- Some newest report shows the greatest level, and the newest reports agree on what is read from
them with it. -/
structure NewestDecide {β : Type*} (read : κ → α → β) (xs : List α) : Prop where
  greatest : ∀ x ∈ xs, ∃ l, Newest time xs l ∧ level x ≤ level l
  agree : ∀ top ∈ xs, (∀ x ∈ xs, level x ≤ level top) → ∀ l l', Newest time xs l →
    Newest time xs l' → read (level top) l = read (level top) l'

/-- What is read from the reports of a list: the level, and what a reader makes of it and the
report. -/
def readout {β : Type*} (read : κ → α → β) (kept : Kept α κ) : κ × β :=
  (kept.level, read kept.level kept.report)

section Converges

variable {β : Type*} {read : κ → α → β} {xs : List α}

/-- If the newest reports show the greatest level, it is kept in any order. -/
theorem Keeps.level_eq {ys : List α} (hsame : SameReports ys xs)
    (h : ∀ x ∈ xs, ∃ l, Newest time xs l ∧ level x ≤ level l) {kept : Kept α κ}
    (hkept : Keeps time level ys kept) :
    ∃ top ∈ xs, kept.level = level top ∧ ∀ x ∈ xs, level x ≤ level top := by
  obtain ⟨top, htop, hlevel⟩ := hkept.attained
  refine ⟨top, (hsame top).mp htop, hlevel, fun x hx => ?_⟩
  obtain ⟨l, hl, hle⟩ := h x hx
  rw [← hlevel]
  exact hle.trans (hkept.level_le l (hl.congr fun x => (hsame x).symm))

theorem readout_eq (h : NewestDecide time level read xs) {ys zs : List α}
    (hys : SameReports ys xs) (hzs : SameReports zs xs) :
    (keepAll time level none ys).map (readout read)
      = (keepAll time level none zs).map (readout read) := by
  by_cases hxs : xs = []
  · subst hxs
    have hempty : ∀ ws : List α, SameReports ws [] → ws = [] := fun ws hws =>
      List.eq_nil_iff_forall_not_mem.mpr fun x hx => absurd ((hws x).mp hx) List.not_mem_nil
    rw [hempty ys hys, hempty zs hzs]
  · have hne : ∀ ws : List α, SameReports ws xs → ws ≠ [] := by
      rintro ws hws rfl
      exact hxs (List.eq_nil_iff_forall_not_mem.mpr fun x hx =>
        absurd ((hws x).mpr hx) List.not_mem_nil)
    obtain ⟨kept, hkept, hkeeps⟩ := exists_keeps time level (hne ys hys)
    obtain ⟨kept', hkept', hkeeps'⟩ := exists_keeps time level (hne zs hzs)
    obtain ⟨top, htop, hlevel, hall⟩ := hkeeps.level_eq hys h.greatest
    obtain ⟨top', htop', hlevel', hall'⟩ := hkeeps'.level_eq hzs h.greatest
    have hlevels : level top' = level top := le_antisymm (hall top' htop') (hall' top htop)
    have hread := h.agree top htop hall kept.report kept'.report (hkeeps.newest.congr hys)
      (hkeeps'.newest.congr hzs)
    rw [hkept, hkept']
    simp only [Option.map_some, readout, hlevel, hlevel', hlevels, hread]

/-- **Convergence.** The order of the reports, and how often each comes, makes no difference to what
is read exactly when the newest reports decide. -/
theorem converges_iff :
    (∀ ys zs, SameReports ys xs → SameReports zs xs →
      (keepAll time level none ys).map (readout read)
        = (keepAll time level none zs).map (readout read)) ↔
    NewestDecide time level read xs := by
  refine ⟨fun h => ?_, fun h _ _ hys hzs => readout_eq h hys hzs⟩
  have hfront : ∀ x ∈ xs, SameReports (x :: xs) xs := fun x hx y => by
    rw [List.mem_cons]
    exact ⟨fun hy => hy.elim (fun hy => hy ▸ hx) id, Or.inr⟩
  have hgreatest : ∀ x ∈ xs, ∃ l, Newest time xs l ∧ level x ≤ level l := by
    intro x hx
    by_contra hnone
    push Not at hnone
    obtain ⟨l, hl⟩ := exists_newest time (List.ne_nil_of_mem hx)
    -- first the report with the greater level, or first a newest one
    have heq := h (x :: xs) (l :: xs) (hfront x hx) (hfront l hl.mem)
    obtain ⟨kept, hkept, -⟩ := exists_keeps time level
      (List.cons_ne_nil x xs)
    obtain ⟨kept', hkept', -⟩ := exists_keeps time level
      (List.cons_ne_nil l xs)
    rw [hkept, hkept'] at heq
    have hlevels : kept.level = kept'.level := congrArg Prod.fst (Option.some.inj heq)
    have hlarge : level x ≤ kept.level := level_le_keepAll xs hkept
    have hsmall : kept'.level < level x := by
      refine keepAll_level_lt hl.time_le (fun y hy htime => hnone y ⟨hy, fun z hz => ?_⟩) (hnone l hl)
        hkept'
      rw [htime]
      exact hl.time_le z hz
    exact absurd (hlarge.trans hlevels.le) (not_le.mpr hsmall)
  refine ⟨hgreatest, fun top htop hall l l' hl hl' => ?_⟩
  have hback : ∀ m, Newest time xs m → SameReports (xs ++ [m]) xs := fun m hm y => by
    simp only [List.mem_append, List.mem_singleton]
    exact ⟨fun hy => hy.elim id fun hy => hy ▸ hm.mem, Or.inl⟩
  have heq := h (xs ++ [l]) (xs ++ [l']) (hback l hl) (hback l' hl')
  have hlast : ∀ m, Newest time xs m → ∃ kept, keepAll time level none (xs ++ [m]) = some kept ∧
      kept.report = m ∧ kept.level = level top := by
    intro m hm
    obtain ⟨k, hk, hkeeps⟩ := exists_keeps time level (List.ne_nil_of_mem hm.mem)
    obtain ⟨kept, hkept, hkeeps'⟩ := exists_keeps time level (List.concat_ne_nil m xs)
    obtain ⟨top', htop', hlevel, hall'⟩ := hkeeps'.level_eq (hback m hm) hgreatest
    refine ⟨kept, hkept, ?_, ?_⟩
    · rw [keepAll_concat, hk, keepNewest,
        if_neg (not_lt.mpr (hm.time_le _ hkeeps.newest.mem))] at hkept
      rw [← Option.some.inj hkept]
    · rw [hlevel]
      exact le_antisymm (hall top' htop') (hall' top htop)
  obtain ⟨kept, hkept, hreport, hlevel⟩ := hlast l hl
  obtain ⟨kept', hkept', hreport', hlevel'⟩ := hlast l' hl'
  rw [hkept, hkept'] at heq
  have hreads := congrArg Prod.snd (Option.some.inj heq)
  simpa only [readout, hreport, hreport', hlevel, hlevel'] using hreads

end Converges

end Sys
