import Mathlib.Data.List.Nodup
import Mathlib.Data.List.Perm.Subperm
import Mathlib.Order.MinMax
import Mathlib.Order.Nat

/-!
# Paging through a table by its greatest key

A reader fetches the first `size` rows above a cursor, in the order of a key, takes the greatest key
of the page for the next cursor and goes on. The server may break ties between equal keys in any
way, and differently in every answer: `FirstRows` says only which lists are a first page.

`mem_scan_iff` says when the reader sees every row: when no rows with one key lie across a page
boundary (`Aligned`).
-/

namespace Sys

variable {α κ : Type*} [LinearOrder κ]

/-! ## Pages -/

/-- `page` is a list of the first `size` rows in the order of their keys. -/
structure FirstRows (key : α → κ) (size : ℕ) (rows page : List α) : Prop where
  subset : page ⊆ rows
  nodup : page.Nodup
  length : page.length = min size rows.length
  least : ∀ a ∈ page, ∀ b ∈ rows, b ∉ page → key a ≤ key b

/-- The rows above a cursor. -/
def above (key : α → κ) (cursor : Option κ) (rows : List α) : List α :=
  match cursor with
  | none => rows
  | some c => rows.filter fun a => c < key a

/-- The rows up to a cursor, which the pages so far are about. -/
def upTo (key : α → κ) (cursor : Option κ) (rows : List α) : ℕ :=
  match cursor with
  | none => 0
  | some c => rows.countP fun a => key a ≤ c

theorem above_sublist (key : α → κ) (cursor : Option κ) (rows : List α) :
    (above key cursor rows).Sublist rows := by
  cases cursor with
  | none => exact List.Sublist.refl rows
  | some c => exact List.filter_sublist

theorem mem_above {key : α → κ} {cursor : Option κ} {rows : List α} {a : α} :
    a ∈ above key cursor rows ↔ a ∈ rows ∧ ∀ c, cursor = some c → c < key a := by
  cases cursor with
  | none => simp [above]
  | some c => simp [above]

/-- A count that takes in every row up to the cursor. -/
theorem countP_eq_upTo_add (key : α → κ) (cursor : Option κ) (rows : List α) {p : α → Bool}
    (hp : ∀ c, cursor = some c → ∀ a, key a ≤ c → p a = true) :
    rows.countP p = upTo key cursor rows + (above key cursor rows).countP p := by
  cases cursor with
  | none => simp [upTo, above]
  | some c =>
    induction rows with
    | nil => rfl
    | cons a rows ih =>
      simp only [upTo, above, List.countP_cons, List.filter_cons, decide_eq_true_eq] at ih ⊢
      rcases le_or_gt (key a) c with ha | ha
      · rw [ih, if_pos (hp c rfl a ha), if_pos ha, if_neg (not_lt.mpr ha)]
        omega
      · rw [ih, if_neg (not_le.mpr ha), if_pos ha, List.countP_cons]
        omega

/-- A page that holds all there is. -/
theorem FirstRows.mem_of_length_le {key : α → κ} {size : ℕ} {rows page : List α}
    (h : FirstRows key size rows page) (hlen : rows.length ≤ size) {a : α} (ha : a ∈ rows) :
    a ∈ page := by
  have hsub : page.Subperm rows := h.nodup.subperm h.subset
  have hle : rows.length ≤ page.length := by
    rw [h.length]
    omega
  exact (hsub.perm_of_length_le hle).mem_iff.mpr ha

/-- The first rows of a list that is sorted. -/
theorem firstRows_take {key : α → κ} (size : ℕ) {rows : List α}
    (hsorted : rows.Pairwise fun a b => key a ≤ key b) (hnodup : rows.Nodup) :
    FirstRows key size rows (rows.take size) where
  subset := List.take_subset size rows
  nodup := hnodup.sublist (List.take_sublist size rows)
  length := List.length_take
  least := by
    intro a ha b hb hnot
    have hsplit : rows = rows.take size ++ rows.drop size := (List.take_append_drop size rows).symm
    have hdrop : b ∈ rows.drop size := by
      rw [hsplit, List.mem_append] at hb
      exact hb.resolve_left hnot
    rw [hsplit, List.pairwise_append] at hsorted
    exact hsorted.2.2 a ha b hdrop

/-! ## Page boundaries -/

/-- No rows with one key lie on both sides of a page boundary. -/
def Aligned (key : α → κ) (size : ℕ) (rows : List α) : Prop :=
  ∀ a ∈ rows, ∀ k, size * k ≤ rows.countP (fun b => key b < key a) ∨
    rows.countP (fun b => key b ≤ key a) ≤ size * k

/-- The boundaries above a cursor are all right. -/
def AlignedAbove (key : α → κ) (size : ℕ) (rows : List α) (cursor : Option κ) : Prop :=
  ∀ a ∈ above key cursor rows, ∀ k, size * k ≤ rows.countP (fun b => key b < key a) ∨
    rows.countP (fun b => key b ≤ key a) ≤ size * k

section Boundaries

variable {key : α → κ} {size : ℕ} {rows : List α} {cursor : Option κ} {a : α}

/-- The rows up to the cursor stand below every row above it. -/
theorem upTo_le_countP (ha : a ∈ above key cursor rows) :
    upTo key cursor rows ≤ rows.countP fun b => key b < key a := by
  rw [countP_eq_upTo_add _ _ rows fun c hc b hb =>
    decide_eq_true (lt_of_le_of_lt hb ((mem_above.mp ha).2 c hc))]
  exact Nat.le_add_right _ _

/-- A row whose key starts after one boundary and ends before the next has none inside its key. -/
theorem aligned_of_bounds {j : ℕ} (hlow : size * j ≤ rows.countP fun b => key b < key a)
    (hhigh : rows.countP (fun b => key b ≤ key a) ≤ size * (j + 1)) (k : ℕ) :
    size * k ≤ rows.countP (fun b => key b < key a) ∨
      rows.countP (fun b => key b ≤ key a) ≤ size * k := by
  rcases Nat.lt_or_ge j k with hk | hk
  · exact Or.inr (Nat.le_trans hhigh (Nat.mul_le_mul_left size hk))
  · exact Or.inl (Nat.le_trans (Nat.mul_le_mul_left size hk) hlow)

end Boundaries

/-! ## One page -/

section Page

variable {key : α → κ} {size : ℕ} {rows page : List α} {cursor : Option κ} {top : κ}

/-- Whatever stands below the greatest key of a page is on the page. -/
theorem FirstRows.mem_of_lt (h : FirstRows key size (above key cursor rows) page) {a b : α}
    (ha : a ∈ page) (hb : b ∈ above key cursor rows) (hlt : key b < key a) : b ∈ page := by
  by_contra hnot
  exact absurd hlt (not_lt.mpr (h.least a ha b hb hnot))

/-- A cursor lies below every row of the page that follows it. -/
theorem FirstRows.lt_key (h : FirstRows key size (above key cursor rows) page) {a : α}
    (ha : a ∈ page) {c : κ} (hc : cursor = some c) : c < key a :=
  (mem_above.mp (h.subset ha)).2 c hc

/-- The rows up to the greatest key of a page: those before it, and those above the cursor that are
not greater. -/
theorem FirstRows.upTo_top (h : FirstRows key size (above key cursor rows) page) {a : α}
    (ha : a ∈ page) :
    upTo key (some (key a)) rows =
      upTo key cursor rows + (above key cursor rows).countP fun b => key b ≤ key a :=
  countP_eq_upTo_add _ _ rows fun _ hc _ hb => decide_eq_true (hb.trans (h.lt_key ha hc).le)

/-- Fewer rows than a page holds stand below its greatest key. -/
theorem FirstRows.countP_lt (hnodup : rows.Nodup)
    (h : FirstRows key size (above key cursor rows) page) {a : α} (ha : a ∈ page) :
    (above key cursor rows).countP (fun b => key b < key a) < page.length := by
  have hsub : ((above key cursor rows).filter fun b => key b < key a).Subperm
      (page.filter fun b => key b < key a) := by
    refine (List.Nodup.filter _ (hnodup.sublist (above_sublist key cursor rows))).subperm fun b hb => ?_
    obtain ⟨hb, hlt⟩ := List.mem_filter.mp hb
    exact List.mem_filter.mpr ⟨h.mem_of_lt ha hb (of_decide_eq_true hlt), hlt⟩
  rw [List.countP_eq_length_filter]
  refine Nat.lt_of_le_of_lt hsub.length_le ?_
  exact List.length_filter_lt_length_iff_exists.mpr ⟨a, ha, by simp⟩

/-- When a full page holds every row up to its greatest key, the next page starts at a boundary. -/
theorem FirstRows.mem_of_countP_eq (h : FirstRows key size (above key cursor rows) page) {a : α}
    (hmax : ∀ b ∈ page, key b ≤ key a)
    (hcount : (above key cursor rows).countP (fun b => key b ≤ key a) = page.length) {b : α}
    (hb : b ∈ above key cursor rows) (hle : key b ≤ key a) : b ∈ page := by
  have hsub : page.Subperm ((above key cursor rows).filter fun b => key b ≤ key a) :=
    h.nodup.subperm fun c hc =>
      List.mem_filter.mpr ⟨h.subset hc, decide_eq_true (hmax c hc)⟩
  rw [List.countP_eq_length_filter] at hcount
  exact (hsub.perm_of_length_le (Nat.le_of_eq hcount)).mem_iff.mpr
    (List.mem_filter.mpr ⟨hb, decide_eq_true hle⟩)

/-- When a page leaves out a row up to its greatest key, a boundary lies inside that key. -/
theorem FirstRows.exists_left_out (hnodup : rows.Nodup)
    (h : FirstRows key size (above key cursor rows) page) {a : α} (ha : a ∈ page)
    (hcount : page.length < (above key cursor rows).countP fun b => key b ≤ key a) :
    ∃ b ∈ above key cursor rows, b ∉ page ∧ key b = key a := by
  have hsub : ¬ (above key cursor rows).filter (fun b => key b ≤ key a) ⊆ page := by
    intro hsub
    have hlen :=
      ((List.Nodup.filter _ (hnodup.sublist (above_sublist key cursor rows))).subperm hsub).length_le
    rw [← List.countP_eq_length_filter] at hlen
    omega
  obtain ⟨b, hb, hnot⟩ := not_forall₂.mp hsub
  obtain ⟨hb, hle⟩ := List.mem_filter.mp hb
  refine ⟨b, hb, hnot, le_antisymm (of_decide_eq_true hle) (not_lt.mp fun hlt => ?_)⟩
  exact hnot (h.mem_of_lt ha hb hlt)

end Page

/-! ## The reader -/

/-- The greatest of some keys. -/
def greatest : List κ → Option κ
  | [] => none
  | a :: as => match greatest as with
    | none => some a
    | some b => some (max a b)

theorem greatest_eq_none {as : List κ} (h : greatest as = none) : as = [] := by
  cases as with
  | nil => rfl
  | cons a as =>
    rw [greatest] at h
    cases hb : greatest as with
    | none => simp [hb] at h
    | some b => simp [hb] at h

/-- The greatest key is one of the keys and not below any. -/
theorem greatest_eq_some {as : List κ} {top : κ} (h : greatest as = some top) :
    top ∈ as ∧ ∀ b ∈ as, b ≤ top := by
  induction as generalizing top with
  | nil => cases h
  | cons a as ih =>
    rw [greatest] at h
    cases hb : greatest as with
    | none =>
      simp only [hb, Option.some.injEq] at h
      subst h
      simp [greatest_eq_none hb]
    | some b =>
      simp only [hb, Option.some.injEq] at h
      subst h
      obtain ⟨hmem, hle⟩ := ih hb
      constructor
      · rcases max_choice a b with hm | hm <;> rw [hm]
        · exact List.mem_cons_self
        · exact List.mem_cons_of_mem a hmem
      · intro c hc
        rcases List.mem_cons.mp hc with rfl | hc
        · exact le_max_left _ _
        · exact (hle c hc).trans (le_max_right _ _)

/-- Read pages until one is empty, at most `fuel` of them. `fetch i cursor` is the `i`th answer. -/
def scan (key : α → κ) (fetch : ℕ → Option κ → List α) : ℕ → ℕ → Option κ → List α
  | 0, _, _ => []
  | fuel + 1, i, cursor =>
    match greatest ((fetch i cursor).map key) with
    | none => fetch i cursor
    | some top =>
      if some top = cursor then fetch i cursor
      else fetch i cursor ++ scan key fetch fuel (i + 1) (some top)

section Scan

variable {key : α → κ} {size : ℕ} {rows : List α} {fetch : ℕ → Option κ → List α}

/-- The greatest key of a page is the key of one of its rows. -/
theorem exists_of_greatest_map {page : List α} {top : κ} (h : greatest (page.map key) = some top) :
    ∃ a ∈ page, key a = top ∧ ∀ b ∈ page, key b ≤ key a := by
  obtain ⟨hmem, hmax⟩ := greatest_eq_some h
  obtain ⟨a, ha, rfl⟩ := List.mem_map.mp hmem
  exact ⟨a, ha, rfl, fun b hb => hmax (key b) (List.mem_map_of_mem hb)⟩

theorem scan_subset (hfetch : ∀ i cursor, FirstRows key size (above key cursor rows) (fetch i cursor))
    (fuel i : ℕ) (cursor : Option κ) :
    scan key fetch fuel i cursor ⊆ above key cursor rows := by
  induction fuel generalizing i cursor with
  | zero => exact List.nil_subset _
  | succ fuel ih =>
    rw [scan]
    cases htop : greatest ((fetch i cursor).map key) with
    | none => exact (hfetch i cursor).subset
    | some top =>
      obtain ⟨a, ha, rfl, -⟩ := exists_of_greatest_map htop
      dsimp only
      split
      · exact (hfetch i cursor).subset
      · refine List.append_subset.mpr ⟨(hfetch i cursor).subset, fun b hb => ?_⟩
        obtain ⟨hb, hlt⟩ := mem_above.mp (ih (i + 1) (some (key a)) hb)
        exact mem_above.mpr ⟨hb, fun c hc => ((hfetch i cursor).lt_key ha hc).trans (hlt _ rfl)⟩

/-- What the reader sees from a cursor on whose page starts at a boundary. -/
theorem mem_scan_iff_above (hsize : 0 < size) (hnodup : rows.Nodup)
    (hfetch : ∀ i cursor, FirstRows key size (above key cursor rows) (fetch i cursor))
    (fuel i j : ℕ) (cursor : Option κ) (hj : upTo key cursor rows = size * j)
    (hfuel : (above key cursor rows).length ≤ size * fuel) :
    (∀ a ∈ above key cursor rows, a ∈ scan key fetch fuel i cursor) ↔
      AlignedAbove key size rows cursor := by
  induction fuel generalizing i j cursor with
  | zero =>
    have hnil : above key cursor rows = [] := List.eq_nil_of_length_eq_zero (by omega)
    simp [AlignedAbove, hnil]
  | succ fuel ih =>
    have hpage := hfetch i cursor
    have htotal : rows.length = upTo key cursor rows + (above key cursor rows).length := by
      have h := countP_eq_upTo_add key cursor rows (p := fun _ => true)
        fun _ _ _ _ => rfl
      simpa only [List.countP_true] using h
    rw [scan]
    cases htop : greatest ((fetch i cursor).map key) with
    | none =>
      -- an empty page: nothing is left above the cursor
      have hempty : fetch i cursor = [] := List.map_eq_nil_iff.mp (greatest_eq_none htop)
      have hlen := hpage.length
      rw [hempty, List.length_nil] at hlen
      have hnil : above key cursor rows = [] := List.eq_nil_of_length_eq_zero (by omega)
      simp [AlignedAbove, hnil]
    | some top =>
      obtain ⟨a, ha, rfl, hmax⟩ := exists_of_greatest_map htop
      have hne : some (key a) ≠ cursor := fun h => lt_irrefl _ (hpage.lt_key ha h.symm)
      dsimp only
      rw [if_neg hne]
      rcases Nat.lt_or_ge size (above key cursor rows).length with hlong | hshort
      · have hfull : (fetch i cursor).length = size := by
          rw [hpage.length]
          omega
        have hle : (fetch i cursor).length ≤
            (above key cursor rows).countP fun b => key b ≤ key a := by
          rw [List.countP_eq_length_filter]
          exact (hpage.nodup.subperm fun b hb =>
            List.mem_filter.mpr ⟨hpage.subset hb, decide_eq_true (hmax b hb)⟩).length_le
        have hupTo := hpage.upTo_top ha
        rcases Nat.eq_or_lt_of_le hle with heq | hlt
        · -- the page ends at a boundary
          rw [← heq, hfull, hj, ← Nat.mul_succ] at hupTo
          have htotal' : rows.length =
              upTo key (some (key a)) rows + (above key (some (key a)) rows).length := by
            have h := countP_eq_upTo_add key (some (key a)) rows
              (p := fun _ => true) fun _ _ _ _ => rfl
            simpa only [List.countP_true] using h
          have hnext := ih (i + 1) (j + 1) (some (key a)) hupTo (by
            rw [Nat.mul_succ] at hupTo hfuel
            omega)
          have habove : ∀ b, b ∈ above key cursor rows →
              key b ≤ key a ∨ b ∈ above key (some (key a)) rows := by
            intro b hb
            rcases le_or_gt (key b) (key a) with hb' | hb'
            · exact Or.inl hb'
            · refine Or.inr (mem_above.mpr ⟨(mem_above.mp hb).1, fun c hc => ?_⟩)
              rw [← Option.some.inj hc]
              exact hb'
          have hmono : above key (some (key a)) rows ⊆ above key cursor rows := by
            intro b hb
            obtain ⟨hb, hlt⟩ := mem_above.mp hb
            exact mem_above.mpr ⟨hb, fun c hc => (hpage.lt_key ha hc).trans (hlt _ rfl)⟩
          constructor
          · intro hall
            have hrest := hnext.mp fun b hb => by
              refine (List.mem_append.mp (hall b (hmono hb))).resolve_left fun hb' => ?_
              exact absurd ((mem_above.mp hb).2 _ rfl) (not_lt.mpr (hmax b hb'))
            intro b hb
            rcases habove b hb with hle | hgt
            · refine aligned_of_bounds (j := j) (hj ▸ upTo_le_countP hb) ?_
              rw [← hupTo]
              refine List.countP_mono_left fun c _ hc => ?_
              simp only [decide_eq_true_eq] at hc ⊢
              exact hc.trans hle
            · exact hrest b hgt
          · intro hal b hb
            rcases habove b hb with hle | hgt
            · exact List.mem_append_left _ (hpage.mem_of_countP_eq hmax heq.symm hb hle)
            · exact List.mem_append_right _ (hnext.mpr (fun c hc => hal c (hmono hc)) b hgt)
        · -- a row with the greatest key is left out, and no later page has it
          obtain ⟨b, hb, hnot, hkey⟩ := hpage.exists_left_out hnodup ha hlt
          have hfew := hpage.countP_lt hnodup ha
          have hbelow := countP_eq_upTo_add key cursor rows
            (p := fun b => decide (key b < key a))
            fun c hc b hb => decide_eq_true (lt_of_le_of_lt hb (hpage.lt_key ha hc))
          constructor
          · intro hall
            have hrest := (List.mem_append.mp (hall b hb)).resolve_left hnot
            have hgt := (mem_above.mp (scan_subset hfetch fuel (i + 1) _ hrest)).2 _ rfl
            exact absurd hkey hgt.ne'
          · intro hal
            exfalso
            have hsplit := hal b hb (j + 1)
            rw [hkey, Nat.mul_succ] at hsplit
            have hcut : upTo key (some (key a)) rows = rows.countP fun b => key b ≤ key a := rfl
            omega
      · -- the last page
        have hall : ∀ b ∈ above key cursor rows, b ∈ fetch i cursor := fun b hb =>
          hpage.mem_of_length_le hshort hb
        refine iff_of_true (fun b hb => List.mem_append_left _ (hall b hb)) fun b hb => ?_
        refine aligned_of_bounds (j := j) (hj ▸ upTo_le_countP hb) ?_
        refine Nat.le_trans List.countP_le_length ?_
        rw [Nat.mul_succ]
        omega

/-- A reader with enough pages sees the whole table exactly when the table is aligned. -/
theorem mem_scan_iff (hsize : 0 < size) (hnodup : rows.Nodup)
    (hfetch : ∀ i cursor, FirstRows key size (above key cursor rows) (fetch i cursor)) {fuel : ℕ}
    (hfuel : rows.length ≤ size * fuel) :
    (∀ a ∈ rows, a ∈ scan key fetch fuel 0 none) ↔ Aligned key size rows :=
  mem_scan_iff_above hsize hnodup hfetch fuel 0 0 none rfl hfuel

end Scan

end Sys
