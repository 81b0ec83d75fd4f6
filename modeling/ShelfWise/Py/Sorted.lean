import Mathlib.Data.List.Sort
import Mathlib.Data.String.Basic
import Mathlib.Data.List.Count
import Mathlib.Data.Prod.Lex

/-!
# Stable sorting by a key

`sortedBy key xs` is `sorted(xs, key=key)`: stable, so that elements with equal keys keep their
order. Insertion sort computes it, and a list without repeated keys has only one such order
(`sortedBy_eq_of_perm`); with a repeated key the order of the list shows (`map_sortedBy_reverse_ne`).
-/

namespace Py

variable {α β : Type*} [LinearOrder β]

/-- `sorted(xs, key=key)`. -/
def sortedBy (key : α → β) (xs : List α) : List α :=
  xs.insertionSort fun a b => key a ≤ key b

theorem sortedBy_perm (key : α → β) (xs : List α) : (sortedBy key xs).Perm xs :=
  List.perm_insertionSort _ xs

theorem mem_sortedBy {key : α → β} {xs : List α} {a : α} : a ∈ sortedBy key xs ↔ a ∈ xs :=
  (sortedBy_perm key xs).mem_iff

theorem pairwise_sortedBy (key : α → β) (xs : List α) :
    (sortedBy key xs).Pairwise fun a b => key a ≤ key b := by
  have htotal : Std.Total fun a b : α => key a ≤ key b := ⟨fun a b => le_total (key a) (key b)⟩
  have htrans : IsTrans α fun a b => key a ≤ key b := ⟨fun _ _ _ => le_trans⟩
  exact List.pairwise_insertionSort _ xs

/-- Two arrangements of the same elements sort to the same list when the key tells the elements
apart. -/
theorem sortedBy_eq_of_perm {key : α → β} {xs ys : List α} (hp : xs.Perm ys)
    (hinj : ∀ a ∈ xs, ∀ b ∈ xs, key a = key b → a = b) : sortedBy key xs = sortedBy key ys := by
  refine ((sortedBy_perm key xs).trans (hp.trans (sortedBy_perm key ys).symm)).eq_of_pairwise ?_
    (pairwise_sortedBy key xs) (pairwise_sortedBy key ys)
  intro a b ha hb hab hba
  exact hinj a (mem_sortedBy.mp ha) b (hp.mem_iff.mpr (mem_sortedBy.mp hb)) (le_antisymm hab hba)

/-- Two lists without repeated keys whose elements show the same next to their keys show the same
when they are sorted. -/
theorem map_sortedBy_eq {γ : Type*} {key : α → β} {doc : α → γ} {xs ys : List α}
    (hxs : (xs.map key).Nodup) (hys : (ys.map key).Nodup)
    (h : ∀ p : β × γ, (∃ a ∈ xs, (key a, doc a) = p) ↔ ∃ b ∈ ys, (key b, doc b) = p) :
    (sortedBy key xs).map doc = (sortedBy key ys).map doc := by
  have hirrefl : Std.Irrefl fun p q : β × γ => p.1 < q.1 := ⟨fun p => lt_irrefl p.1⟩
  have hantisymm : Std.Antisymm fun p q : β × γ => p.1 < q.1 :=
    ⟨fun p q hpq hqp => absurd hqp (lt_asymm hpq)⟩
  have hsorted : ∀ zs : List α, (zs.map key).Nodup →
      ((sortedBy key zs).map fun a => (key a, doc a)).Pairwise fun p q => p.1 < q.1 := by
    intro zs hzs
    rw [List.pairwise_map]
    have hnodup : ((sortedBy key zs).map key).Nodup :=
      ((sortedBy_perm key zs).map key).nodup_iff.mpr hzs
    exact (pairwise_sortedBy key zs).imp₂ (fun a b hle hne => lt_of_le_of_ne hle hne)
      (List.pairwise_map.mp hnodup)
  have hpairs : ((sortedBy key xs).map fun a => (key a, doc a))
      = (sortedBy key ys).map fun a => (key a, doc a) := by
    refine List.Pairwise.eq_of_mem_iff (hsorted xs hxs) (hsorted ys hys) fun p => ?_
    simp only [List.mem_map, mem_sortedBy]
    exact h p
  have hdocs := congrArg (List.map Prod.snd) hpairs
  simpa only [List.map_map, Function.comp_def] using hdocs

/-! ## Ties -/

/-- Elements with equal keys stay in their order. -/
theorem pair_sublist_sortedBy {key : α → β} {xs : List α} {a b : α} (hkey : key a = key b)
    (h : [a, b].Sublist xs) : [a, b].Sublist (sortedBy key xs) :=
  List.pair_sublist_insertionSort (r := fun x y => key x ≤ key y) hkey.le h

/-- A list without repetitions does not have two elements in both orders. -/
theorem not_pair_sublist_swap {γ : Type*} {xs : List γ} (hnodup : xs.Nodup) {a b : γ}
    (h : [a, b].Sublist xs) : ¬ [b, a].Sublist xs := by
  intro h'
  induction xs with
  | nil => cases h
  | cons x xs ih =>
    obtain ⟨hx, hnodup⟩ := List.nodup_cons.mp hnodup
    cases h with
    | cons _ h =>
      cases h' with
      | cons _ h' => exact ih hnodup h h'
      | cons_cons _ h' => exact hx (h.subset (by simp))
    | cons_cons _ h =>
      have hb : b ∈ xs := List.singleton_sublist.mp h
      cases h' with
      | cons _ h' => exact hx (h'.subset (by simp))
      | cons_cons _ h' => exact hx hb

/-- Sorting the reversed list shows something else, when two elements have the same key. -/
theorem map_sortedBy_reverse_ne {γ : Type*} {key : α → β} {doc : α → γ} {xs : List α}
    (hnodup : (xs.map doc).Nodup) {a b : α} (ha : a ∈ xs) (hb : b ∈ xs) (hne : a ≠ b)
    (hkey : key a = key b) :
    (sortedBy key xs.reverse).map doc ≠ (sortedBy key xs).map doc := by
  have hone : ∀ {a b : α}, key a = key b → [a, b].Sublist xs →
      (sortedBy key xs.reverse).map doc ≠ (sortedBy key xs).map doc := by
    intro a b hkey h heq
    have hback : [b, a].Sublist xs.reverse := by simpa using h.reverse
    have hsorted : ((sortedBy key xs).map doc).Nodup :=
      ((sortedBy_perm key xs).map doc).nodup_iff.mpr hnodup
    have hfirst := (pair_sublist_sortedBy hkey h).map doc
    have hsecond := (pair_sublist_sortedBy hkey.symm hback).map doc
    rw [heq] at hsecond
    exact not_pair_sublist_swap hsorted hfirst hsecond
  obtain ⟨u, v, rfl⟩ := List.append_of_mem ha
  rcases List.mem_append.mp hb with hb | hb
  · refine hone hkey.symm (List.Sublist.append (List.singleton_sublist.mpr hb) ?_)
    exact (List.nil_sublist v).cons_cons a
  · have hv : b ∈ v := (List.mem_cons.mp hb).resolve_left hne.symm
    exact hone hkey ((List.singleton_sublist.mpr hv).cons_cons a |>.trans
      (List.sublist_append_right u _))

/-! ## Sorted lists and their first elements

A stable sort orders the places of a list by key, and equal keys by place (`sortedBy_eq_map_zipIdx`).
So it is a strict order, and an element is among the first `n` of it when fewer than `n` places come
before its own. `cut_related_iff` says when the first `n` elements are related to everything that
comes after them.
-/

/-! ## The order of the places -/

/-- The key of a place in a list: its element's key, then where it stands. -/
def placeKey (key : α → β) (place : α × ℕ) : Lex (β × ℕ) := toLex (key place.1, place.2)

theorem sortedBy_cons (key : α → β) (x : α) (xs : List α) :
    sortedBy key (x :: xs) = (sortedBy key xs).orderedInsert (fun a b => key a ≤ key b) x := rfl

/-- Sorting what is made of the elements is sorting the elements. -/
theorem sortedBy_map {γ : Type*} (make : γ → α) (key : α → β) (xs : List γ) :
    sortedBy key (xs.map make) = (sortedBy (fun x => key (make x)) xs).map make :=
  (List.map_insertionSort (fun a b : γ => key (make a) ≤ key (make b))
    (fun a b : α => key a ≤ key b) make xs fun _ _ _ _ => Iff.rfl).symm

/-- The elements with one key stand in their order. -/
theorem filter_sortedBy (key : α → β) (k : β) (xs : List α) :
    (sortedBy key xs).filter (fun a => key a = k) = xs.filter fun a => key a = k := by
  have htotal : Std.Total fun a b : α => key a ≤ key b := ⟨fun a b => le_total (key a) (key b)⟩
  have htrans : IsTrans α fun a b => key a ≤ key b := ⟨fun _ _ _ => le_trans⟩
  have hequal : (xs.filter fun a => key a = k).Pairwise fun a b => key a ≤ key b := by
    refine List.pairwise_of_forall_mem_list fun a ha b hb => ?_
    have hka := of_decide_eq_true (List.mem_filter.mp ha).2
    have hkb := of_decide_eq_true (List.mem_filter.mp hb).2
    exact le_of_eq (hka.trans hkb.symm)
  -- they are a sorted sublist, which the sort keeps
  have hsub := (List.sublist_insertionSort (r := fun a b : α => key a ≤ key b) hequal
    List.filter_sublist).filter fun a => decide (key a = k)
  rw [List.filter_filter] at hsub
  simp only [Bool.and_self] at hsub
  have hlength := ((sortedBy_perm key xs).filter fun a => decide (key a = k)).length_eq
  exact (hsub.eq_of_length hlength.symm).symm

/-- Sorting is sorting the places. -/
theorem sortedBy_eq_map_zipIdx (key : α → β) (xs : List α) (n : ℕ) :
    sortedBy key xs = (sortedBy (placeKey key) (xs.zipIdx n)).map Prod.fst := by
  induction xs generalizing n with
  | nil => rfl
  | cons x xs ih =>
    -- every other place is a later one, so the new place compares to it as its key does
    have hlater : ∀ place ∈ sortedBy (placeKey key) (xs.zipIdx (n + 1)), n < place.2 := by
      intro place hplace
      have hmem := List.le_snd_of_mem_zipIdx (mem_sortedBy.mp hplace)
      omega
    rw [sortedBy_cons, List.zipIdx_cons, sortedBy_cons, ih (n + 1)]
    generalize sortedBy (placeKey key) (xs.zipIdx (n + 1)) = places at hlater
    induction places with
    | nil => rfl
    | cons place places ihPlaces =>
      have hlt := hlater place List.mem_cons_self
      have hiff : placeKey key (x, n) ≤ placeKey key place ↔ key x ≤ key place.1 := by
        rw [placeKey, placeKey, Prod.Lex.toLex_le_toLex, le_iff_lt_or_eq (a := key x)]
        exact or_congr Iff.rfl (and_iff_left hlt.le)
      have hrest := ihPlaces fun other hother => hlater other (List.mem_cons_of_mem _ hother)
      rw [List.map_cons, List.orderedInsert_cons, List.orderedInsert_cons]
      by_cases hle : key x ≤ key place.1
      · rw [if_pos hle, if_pos (hiff.mpr hle), List.map_cons, List.map_cons]
      · rw [if_neg hle, if_neg (mt hiff.mp hle), List.map_cons, hrest]

/-- No two places have the same key. -/
theorem strict_sortedBy_placeKey (key : α → β) (xs : List α) :
    (sortedBy (placeKey key) xs.zipIdx).Pairwise fun p q => placeKey key p < placeKey key q := by
  have hnodup : (sortedBy (placeKey key) xs.zipIdx).Pairwise fun p q => p.2 ≠ q.2 := by
    have hplaces : (xs.zipIdx.map Prod.snd).Nodup := by
      rw [List.zipIdx_map_snd]
      exact List.nodup_range'
    exact List.pairwise_map.mp
      (((sortedBy_perm (placeKey key) xs.zipIdx).map Prod.snd).nodup_iff.mpr hplaces)
  refine (pairwise_sortedBy (placeKey key) xs.zipIdx).imp₂ (fun p q hle hne => ?_) hnodup
  refine lt_of_le_of_ne hle fun heq => hne ?_
  exact (Prod.ext_iff.mp (toLex.injective heq)).2

/-! ## What comes first -/

/-- The first `n` elements of a strictly sorted list are related to all that come after them exactly
when every element is that has fewer than `n` before it. -/
theorem pairwise_take_iff {key : α → β} {xs : List α}
    (hsorted : xs.Pairwise fun a b => key a < key b) (R : α → α → Prop) (n : ℕ) :
    ((xs.take n).Pairwise R ∧ ∀ y ∈ xs.take n, ∀ x ∈ xs.drop n, R y x) ↔
      ∀ w ∈ xs, ∀ z ∈ xs, key w < key z → xs.countP (fun v => key v < key w) < n → R w z := by
  induction xs generalizing n with
  | nil => simp
  | cons first rest ih =>
    obtain ⟨hfirst, hrest⟩ := List.pairwise_cons.mp hsorted
    cases n with
    | zero => simp
    | succ n =>
      have hnone : (first :: rest).countP (fun v => key v < key first) = 0 := by
        rw [List.countP_eq_zero]
        rintro v hv hlt
        rcases List.mem_cons.mp hv with rfl | hv
        · exact lt_irrefl _ (of_decide_eq_true hlt)
        · exact lt_asymm (hfirst v hv) (of_decide_eq_true hlt)
      have hone : ∀ w ∈ rest, (first :: rest).countP (fun v => key v < key w) =
          rest.countP (fun v => key v < key w) + 1 := fun w hw =>
        List.countP_cons_of_pos (decide_eq_true (hfirst w hw))
      have hsplit : ∀ P : α → Prop, (∀ x ∈ rest, P x) ↔
          (∀ x ∈ rest.take n, P x) ∧ ∀ x ∈ rest.drop n, P x := by
        intro P
        rw [← List.forall_mem_append, List.take_append_drop]
      rw [List.take_succ_cons, List.drop_succ_cons, List.pairwise_cons, List.forall_mem_cons]
      constructor
      · rintro ⟨⟨hnear, hpairs⟩, hfar, hcut⟩ w hw z hz hlt hcount
        have hz' : z ∈ rest := by
          refine (List.mem_cons.mp hz).resolve_left fun heq => ?_
          rcases List.mem_cons.mp hw with rfl | hw
          · exact lt_irrefl _ (heq ▸ hlt)
          · exact lt_asymm (hfirst w hw) (heq ▸ hlt)
        rcases List.mem_cons.mp hw with rfl | hw
        · exact (hsplit (R w)).mpr ⟨hnear, hfar⟩ z hz'
        · rw [hone w hw] at hcount
          exact (ih hrest n).mp ⟨hpairs, hcut⟩ w hw z hz' hlt (by omega)
      · intro h
        have hall : ∀ x ∈ rest, R first x := fun x hx =>
          h first List.mem_cons_self x (List.mem_cons_of_mem _ hx) (hfirst x hx) (by omega)
        have hlower := (ih hrest n).mpr fun w hw z hz hlt hcount =>
          h w (List.mem_cons_of_mem _ hw) z (List.mem_cons_of_mem _ hz) hlt (by
            rw [hone w hw]
            omega)
        obtain ⟨hnear, hfar⟩ := (hsplit (R first)).mp hall
        exact ⟨⟨hnear, hlower.1⟩, hfar, hlower.2⟩

/-- When the first `n` of a sorted list are related to everything that comes after them: fewer than
`n` places come before a place, and the place before another one, only where the two are related. -/
theorem cut_related_iff (key : α → β) (xs : List α) (R : α → α → Prop) (n : ℕ) :
    (((sortedBy key xs).take n).Pairwise R ∧
        ∀ y ∈ (sortedBy key xs).take n, ∀ x ∈ (sortedBy key xs).drop n, R y x) ↔
      ∀ w ∈ xs.zipIdx, ∀ z ∈ xs.zipIdx, placeKey key w < placeKey key z →
        xs.zipIdx.countP (fun v => placeKey key v < placeKey key w) < n → R w.1 z.1 := by
  have hiff := pairwise_take_iff (strict_sortedBy_placeKey key xs) (fun w z => R w.1 z.1) n
  rw [sortedBy_eq_map_zipIdx key xs 0, ← List.map_take, ← List.map_drop, List.pairwise_map,
    List.forall_mem_map]
  simp only [List.forall_mem_map]
  rw [hiff]
  simp only [mem_sortedBy, (sortedBy_perm (placeKey key) xs.zipIdx).countP_eq]

/-! ## Positions -/

section Positions

variable {γ : Type*} {key : α → β} {name : α → γ} {xs : List α}

theorem strict_sortedBy (hnames : (xs.map name).Nodup)
    (hkey : ∀ a ∈ xs, ∀ b ∈ xs, key a = key b → name a = name b) :
    (sortedBy key xs).Pairwise fun a b => key a < key b := by
  have hdistinct : (sortedBy key xs).Pairwise fun a b => name a ≠ name b :=
    List.pairwise_map.mp (((sortedBy_perm key xs).map name).nodup_iff.mpr hnames)
  have hle := (pairwise_sortedBy key xs).imp₂ (fun a b hle hne => And.intro hle hne) hdistinct
  refine hle.imp_of_mem fun {a b} ha hb h => lt_of_le_of_ne h.1 fun heq => h.2 ?_
  exact hkey a (mem_sortedBy.mp ha) b (mem_sortedBy.mp hb) heq

/-- In a strictly sorted list the elements in front of one are those with a smaller key. -/
theorem idxOf_of_strict [DecidableEq γ] (hsorted : xs.Pairwise fun a b => key a < key b)
    (hnames : (xs.map name).Nodup) {a : α} (ha : a ∈ xs) :
    (xs.map name).idxOf (name a) = xs.countP (fun b => key b < key a) := by
  induction xs with
  | nil => cases ha
  | cons first rest ih =>
    obtain ⟨hfirst, hrest⟩ := List.pairwise_cons.mp hsorted
    obtain ⟨hfresh, hrestNames⟩ := List.nodup_cons.mp hnames
    rcases List.mem_cons.mp ha with rfl | ha
    · have hnone : (a :: rest).countP (fun b => key b < key a) = 0 := by
        rw [List.countP_eq_zero]
        intro b hb hlt
        rcases List.mem_cons.mp hb with rfl | hb
        · exact lt_irrefl _ (of_decide_eq_true hlt)
        · exact lt_asymm (hfirst b hb) (of_decide_eq_true hlt)
      rw [hnone, List.map_cons, List.idxOf_cons_self]
    · have hne : name first ≠ name a := fun heq => hfresh (heq ▸ List.mem_map_of_mem ha)
      have hone : (first :: rest).countP (fun b => key b < key a) =
          rest.countP (fun b => key b < key a) + 1 :=
        List.countP_cons_of_pos (decide_eq_true (hfirst a ha))
      rw [List.map_cons, List.idxOf_cons_ne _ hne, ih hrest hrestNames ha, hone]

/-- A name stands behind as many names as have a smaller key. -/
theorem idxOf_sortedBy [DecidableEq γ] (hnames : (xs.map name).Nodup)
    (hkey : ∀ a ∈ xs, ∀ b ∈ xs, key a = key b → name a = name b) {a : α} (ha : a ∈ xs) :
    ((sortedBy key xs).map name).idxOf (name a) = xs.countP (fun b => key b < key a) := by
  have hsortedNames : ((sortedBy key xs).map name).Nodup :=
    ((sortedBy_perm key xs).map name).nodup_iff.mpr hnames
  rw [idxOf_of_strict (strict_sortedBy hnames hkey) hsortedNames (mem_sortedBy.mpr ha),
    (sortedBy_perm key xs).countP_eq]

/-- One name stands before another one exactly when its key is smaller. -/
theorem pair_sublist_map_iff (hnames : (xs.map name).Nodup)
    (hkey : ∀ a ∈ xs, ∀ b ∈ xs, key a = key b → name a = name b) (y z : γ) :
    [y, z].Sublist ((sortedBy key xs).map name) ↔
      ∃ a ∈ xs, ∃ b ∈ xs, name a = y ∧ name b = z ∧ key a < key b := by
  have hstrict := strict_sortedBy hnames hkey
  constructor
  · intro h
    obtain ⟨pair, hpair, hmap⟩ := List.sublist_map_iff.mp h
    obtain ⟨a, rest, rfl, rfl, hrest⟩ := List.map_eq_cons_iff.mp hmap.symm
    obtain ⟨b, last, rfl, rfl, hlast⟩ := List.map_eq_cons_iff.mp hrest
    obtain rfl : last = [] := List.map_eq_nil_iff.mp hlast
    have hlt : key a < key b := List.rel_of_pairwise_cons (hstrict.sublist hpair) (by simp)
    refine ⟨a, ?_, b, ?_, rfl, rfl, hlt⟩
    · exact mem_sortedBy.mp (hpair.subset (by simp))
    · exact mem_sortedBy.mp (hpair.subset (by simp))
  · rintro ⟨a, ha, b, hb, rfl, rfl, hlt⟩
    suffices h : [a, b].Sublist (sortedBy key xs) from h.map name
    obtain ⟨u, v, huv⟩ := List.append_of_mem (mem_sortedBy.mpr ha : a ∈ sortedBy key xs)
    have hmem : b ∈ sortedBy key xs := mem_sortedBy.mpr hb
    rw [huv] at hstrict hmem ⊢
    have hnot : b ∉ u := fun hu =>
      lt_asymm hlt ((List.pairwise_append.mp hstrict).2.2 b hu a List.mem_cons_self)
    have hrest : b ∈ v := by
      rcases List.mem_append.mp hmem with hu | hav
      · exact absurd hu hnot
      · refine (List.mem_cons.mp hav).resolve_left fun heq => ?_
        rw [heq] at hlt
        exact lt_irrefl _ hlt
    exact ((List.singleton_sublist.mpr hrest).cons_cons a).trans (List.sublist_append_right u _)

end Positions

end Py
