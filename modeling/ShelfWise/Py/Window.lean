import ShelfWise.Py.Listing

/-!
# The first rows of a listing

A window is the first so many rows of a sorted listing. A row that is stored under a fresh key gets
into the window when fewer rows of it come before the new one than it has places, and then the last
row leaves (`take_listing_set`). A row that is stored in the place of one the listing shows changes the
count of a kind of rows by these two (`countP_listing_set`).
-/

namespace Py

/-! ## One more element -/

section Insertion

variable {α β : Type*} [LinearOrder β]

/-- The first `n + 1` elements after an insertion: the new element takes the last place, unless `n + 1`
of them come before it. -/
theorem take_orderedInsert {key : α → β} {x : α} {ys : List α}
    (hsorted : ys.Pairwise fun a b => key a ≤ key b) (n : ℕ) :
    ((ys.orderedInsert (fun a b => key a ≤ key b) x).take (n + 1)).Perm
      (if (ys.take (n + 1)).countP (fun y => key y < key x) ≤ n then x :: ys.take n
        else ys.take (n + 1)) := by
  induction ys generalizing n with
  | nil => simp
  | cons y ys ih =>
    obtain ⟨hfirst, hrest⟩ := List.pairwise_cons.mp hsorted
    rw [List.orderedInsert_cons]
    by_cases hle : key x ≤ key y
    · -- nothing comes before the new element
      have hnone : ((y :: ys).take (n + 1)).countP (fun y => key y < key x) = 0 := by
        rw [List.countP_eq_zero]
        intro z hz
        rw [decide_eq_true_iff, not_lt]
        rcases List.mem_cons.mp (List.mem_of_mem_take hz) with rfl | hz
        · exact hle
        · exact hle.trans (hfirst z hz)
      rw [if_pos hle, hnone, if_pos (Nat.zero_le n), List.take_succ_cons]
    · have hlt : key y < key x := not_le.mp hle
      have hone : ((y :: ys).take (n + 1)).countP (fun y => key y < key x) =
          (ys.take n).countP (fun y => key y < key x) + 1 :=
        List.countP_cons_of_pos (decide_eq_true hlt)
      rw [if_neg hle, hone, List.take_succ_cons, List.take_succ_cons]
      cases n with
      | zero => simp
      | succ n =>
        refine ((ih hrest n).cons y).trans ?_
        by_cases hcount : (ys.take (n + 1)).countP (fun y => key y < key x) ≤ n
        · rw [if_pos hcount, if_pos (by omega), List.take_succ_cons]
          exact List.Perm.swap x y _
        · rw [if_neg hcount, if_neg (by omega)]

/-- The same for a list that is sorted again. -/
theorem take_sortedBy_cons (key : α → β) (x : α) (xs : List α) (n : ℕ) :
    ((sortedBy key (x :: xs)).take (n + 1)).Perm
      (if ((sortedBy key xs).take (n + 1)).countP (fun y => key y < key x) ≤ n then
        x :: (sortedBy key xs).take n else (sortedBy key xs).take (n + 1)) := by
  rw [sortedBy_cons]
  exact take_orderedInsert (pairwise_sortedBy key xs) n

end Insertion

/-! ## One more row -/

section Rows

variable {κ ν β : Type*} [DecidableEq κ] [LinearOrder β]

/-- The first rows of a listing after a row is stored under a fresh key. -/
theorem take_listing_set {d : Dict κ ν} {k : κ} {v : ν} {key : ν → β} {keep : κ × ν → Bool}
    (hfresh : d.get? k = none) (hkeep : keep (k, v) = true)
    (hinj : ∀ a ∈ listing (d.set k v) key keep, ∀ b ∈ listing (d.set k v) key keep,
      key a = key b → a = b) (n : ℕ) :
    ((listing (d.set k v) key keep).take (n + 1)).Perm
      (if ((listing d key keep).take (n + 1)).countP (fun y => key y < key v) ≤ n then
        v :: (listing d key keep).take n else (listing d key keep).take (n + 1)) := by
  have hrows : ((d.set k v).entries.filter keep).map Prod.snd =
      (d.entries.filter keep).map Prod.snd ++ [v] := by
    rw [Dict.entries_set_of_fresh hfresh, List.filter_append, List.map_append,
      List.filter_singleton, hkeep]
    rfl
  have hsorted : listing (d.set k v) key keep =
      sortedBy key (v :: (d.entries.filter keep).map Prod.snd) := by
    simp only [listing, mem_sortedBy] at hinj ⊢
    rw [hrows] at hinj ⊢
    exact sortedBy_eq_of_perm (List.perm_append_singleton _ _) hinj
  rw [hsorted]
  exact take_sortedBy_cons key v _ n

omit [DecidableEq κ] in
theorem countP_listing (d : Dict κ ν) (key : ν → β) (keep : κ × ν → Bool) (q : ν → Bool) :
    (listing d key keep).countP q = d.entries.countP fun e => q e.2 && keep e := by
  unfold listing
  rw [(sortedBy_perm key _).countP_eq, List.countP_map, List.countP_filter]
  rfl

theorem countP_setEntries {k : κ} {v old : ν} {es : List (κ × ν)} (hget : Dict.lookup k es = some old)
    (q : κ × ν → Bool) :
    (Dict.setEntries k v es).countP q + (if q (k, old) then 1 else 0) =
      es.countP q + (if q (k, v) then 1 else 0) := by
  induction es with
  | nil => cases hget
  | cons e rest ih =>
    obtain ⟨k', v'⟩ := e
    by_cases hk : k' = k
    · subst hk
      rw [Dict.lookup, if_pos rfl] at hget
      cases hget
      rw [Dict.setEntries, if_pos rfl, List.countP_cons, List.countP_cons]
      omega
    · rw [Dict.lookup, if_neg hk] at hget
      rw [Dict.setEntries, if_neg hk, List.countP_cons, List.countP_cons]
      have hrest := ih hget
      omega

/-- How many rows of a kind are listed after a row is stored in the place of one that is listed. -/
theorem countP_listing_set {d : Dict κ ν} {k : κ} {v old : ν} {keep : κ × ν → Bool}
    (key : ν → β) (hget : d.get? k = some old) (hold : keep (k, old) = true) (hkeep : keep (k, v) = true)
    (q : ν → Bool) :
    (listing (d.set k v) key keep).countP q + (if q old then 1 else 0) =
      (listing d key keep).countP q + (if q v then 1 else 0) := by
  have hcount := countP_setEntries (v := v) hget fun e => q e.2 && keep e
  simp only [hold, hkeep, Bool.and_true] at hcount
  rw [countP_listing, countP_listing]
  exact hcount

end Rows

end Py
