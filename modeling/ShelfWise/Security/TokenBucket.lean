import Mathlib.Data.List.Dedup
import Mathlib.Tactic.Linarith
import ShelfWise.Py.Value
import ShelfWise.Sys.Run

/-!
# Rate limiting with a token bucket

`TokenBucket` of `shelfwise_backend/security/gateway.py`, over exact rational numbers. The callers are kept in
the order of their last call, and the one that called longest ago is forgotten first. A caller between whose
calls fewer than `max_keys` others come is never forgotten, so it is answered as by a bucket of its own, and
what such a bucket accepts in a window is bounded (`token_bucket_bounded`). One that waits is never refused.
-/

namespace ShelfWise.Security

open Py Sys

/-! ## The bucket of one caller -/

section

variable (capacity refill : ℚ)

/-- The calls of one caller so far, the last one first: when each came, and whether it was accepted. -/
abbrev History := List (ℚ × Bool)

/-- What a call takes out of the bucket. -/
def cost (accepted : Bool) : ℚ := if accepted then 1 else 0

/-- How many tokens the caller has at a moment: what the last call left, refilled up to the capacity. -/
def tokensLeft : History → ℚ → ℚ
  | [], _ => capacity
  | (last, accepted) :: earlier, now =>
    min capacity (tokensLeft earlier last - cost accepted + (now - last) * refill)

/-- What the last call left, and when it came. -/
def leftBehind : History → Option (ℚ × ℚ)
  | [] => none
  | (last, accepted) :: earlier => some (tokensLeft capacity refill earlier last - cost accepted, last)

/-- The calls at some times are accepted while a token is left. -/
def served (times : List ℚ) : History :=
  times.foldl (fun history now => (now, decide (1 ≤ tokensLeft capacity refill history now)) :: history) []

/-- How many calls are accepted in a window. -/
def acceptedWithin (start stop : ℚ) (history : History) : ℕ :=
  history.countP fun call => call.2 && decide (start ≤ call.1 ∧ call.1 ≤ stop)

/-- A history that was served: it goes forward in time, and what was accepted had a token. -/
def IsServed : History → Prop
  | [] => True
  | (now, accepted) :: earlier =>
    (accepted = true → 1 ≤ tokensLeft capacity refill earlier now) ∧ (∀ call ∈ earlier, call.1 ≤ now) ∧
      IsServed earlier

variable {capacity refill}

theorem served_append (times : List ℚ) (now : ℚ) :
    served capacity refill (times ++ [now]) =
      (now, decide (1 ≤ tokensLeft capacity refill (served capacity refill times) now)) ::
        served capacity refill times := by
  rw [served, List.foldl_append]
  rfl

theorem map_fst_served (times : List ℚ) :
    (served capacity refill times).map Prod.fst = times.reverse := by
  induction times using List.reverseRecOn with
  | nil => rfl
  | append_singleton times now ih => rw [served_append, List.map_cons, ih, List.reverse_append]; rfl

theorem isServed_served {times : List ℚ} (h : times.Pairwise (· ≤ ·)) :
    IsServed capacity refill (served capacity refill times) := by
  induction times using List.reverseRecOn with
  | nil => trivial
  | append_singleton times now ih =>
    rw [List.pairwise_append] at h
    rw [served_append]
    refine ⟨fun haccepted => of_decide_eq_true haccepted, fun call hcall => ?_, ih h.1⟩
    have htime : call.1 ∈ times := by
      have hmem := List.mem_map_of_mem (f := Prod.fst) hcall
      rw [map_fst_served, List.mem_reverse] at hmem
      exact hmem
    exact h.2.2 call.1 htime now (List.mem_singleton_self _)

theorem tokensLeft_le (history : History) (now : ℚ) :
    tokensLeft capacity refill history now ≤ capacity := by
  cases history with
  | nil => exact le_refl _
  | cons call earlier => exact min_le_left _ _

/-- A call is only accepted when a token is left, so no caller owes tokens. -/
theorem tokensLeft_nonneg (hcapacity : 0 ≤ capacity) (hrefill : 0 ≤ refill) {history : History}
    (h : IsServed capacity refill history) {now : ℚ} (hnow : ∀ call ∈ history, call.1 ≤ now) :
    0 ≤ tokensLeft capacity refill history now := by
  induction history generalizing now with
  | nil => exact hcapacity
  | cons call earlier ih =>
    obtain ⟨last, accepted⟩ := call
    obtain ⟨haccepted, hearlier, hserved⟩ := h
    have hlast : last ≤ now := hnow _ List.mem_cons_self
    have hleft : 0 ≤ tokensLeft capacity refill earlier last := ih hserved hearlier
    have hrefilled : 0 ≤ (now - last) * refill := mul_nonneg (sub_nonneg.mpr hlast) hrefill
    rw [tokensLeft, le_min_iff]
    refine ⟨hcapacity, ?_⟩
    cases accepted with
    | false =>
      simp only [cost, Bool.false_eq_true, if_false]
      linarith
    | true =>
      have hone := haccepted rfl
      simp only [cost, if_true]
      linarith

/-- What is left and what was accepted since `start` are together no more than a full bucket and what flowed
in since then. -/
theorem tokensLeft_add_accepted (hrefill : 0 ≤ refill) {history : History}
    (h : IsServed capacity refill history) {start now : ℚ} (hstart : start ≤ now)
    (hnow : ∀ call ∈ history, call.1 ≤ now) :
    tokensLeft capacity refill history now + acceptedWithin start now history ≤
      capacity + refill * (now - start) := by
  induction history generalizing now with
  | nil =>
    have hflow : 0 ≤ refill * (now - start) := mul_nonneg hrefill (sub_nonneg.mpr hstart)
    simp only [acceptedWithin, List.countP_nil, Nat.cast_zero]
    exact add_le_add (le_refl capacity) hflow
  | cons call earlier ih =>
    obtain ⟨last, accepted⟩ := call
    obtain ⟨-, hearlier, hserved⟩ := h
    have hlast : last ≤ now := hnow _ List.mem_cons_self
    by_cases hwithin : start ≤ last
    · -- the window reaches back to the last call, and before it to the earlier ones
      have hih := ih hserved hwithin hearlier
      have hsame : acceptedWithin start now earlier = acceptedWithin start last earlier :=
        List.countP_congr fun call hcall => by
          have hle := hearlier call hcall
          simp only [Bool.and_eq_true, decide_eq_true_eq, hle, hle.trans hlast]
      have hcount : (acceptedWithin start now ((last, accepted) :: earlier) : ℚ) =
          acceptedWithin start last earlier + cost accepted := by
        rw [← hsame, acceptedWithin, List.countP_cons]
        cases accepted with
        | false => simp [acceptedWithin, cost]
        | true => simp [acceptedWithin, cost, hwithin, hlast]
      have hmin : tokensLeft capacity refill ((last, accepted) :: earlier) now ≤
          tokensLeft capacity refill earlier last - cost accepted + (now - last) * refill :=
        min_le_right _ _
      rw [hcount]
      linarith
    · -- no call lies in the window
      have hnone : acceptedWithin start now ((last, accepted) :: earlier) = 0 := by
        rw [acceptedWithin, List.countP_eq_zero]
        intro call hcall hin
        have hle : call.1 ≤ last := by
          rcases List.mem_cons.mp hcall with rfl | hcall
          · exact le_refl _
          · exact hearlier call hcall
        simp only [Bool.and_eq_true, decide_eq_true_eq] at hin
        exact hwithin (hin.2.1.trans hle)
      have hflow : 0 ≤ refill * (now - start) := mul_nonneg hrefill (sub_nonneg.mpr hstart)
      have hfull : tokensLeft capacity refill ((last, accepted) :: earlier) now ≤ capacity :=
        tokensLeft_le _ now
      rw [hnone, Nat.cast_zero]
      linarith

/-- In every window a bucket accepts no more than its capacity and what flows in. -/
theorem acceptedWithin_le (hcapacity : 0 ≤ capacity) (hrefill : 0 ≤ refill) {history : History}
    (h : IsServed capacity refill history) {start stop : ℚ} (hstart : start ≤ stop) :
    (acceptedWithin start stop history : ℚ) ≤ capacity + refill * (stop - start) := by
  induction history with
  | nil =>
    have hflow : 0 ≤ refill * (stop - start) := mul_nonneg hrefill (sub_nonneg.mpr hstart)
    simp only [acceptedWithin, List.countP_nil, Nat.cast_zero]
    linarith
  | cons call earlier ih =>
    by_cases hstop : call.1 ≤ stop
    · have hall : ∀ other ∈ call :: earlier, other.1 ≤ stop := fun other hother => by
        rcases List.mem_cons.mp hother with rfl | hother
        · exact hstop
        · exact (h.2.1 other hother).trans hstop
      have hsum := tokensLeft_add_accepted hrefill h hstart hall
      have hleft := tokensLeft_nonneg hcapacity hrefill h hall
      linarith
    · have hcount : acceptedWithin start stop (call :: earlier) = acceptedWithin start stop earlier := by
        rw [acceptedWithin, List.countP_cons_of_neg]
        · rfl
        · simp [hstop]
      rw [hcount]
      exact ih h.2.2

end

/-! ## The buckets of all callers -/

/-- `TokenBucket`: the callers in the order of their last call, each with its tokens and the time of that
call. -/
structure TokenBucket where
  capacity : ℚ
  refillPerS : ℚ
  maxKeys : ℤ
  buckets : Dict String (ℚ × ℚ)

/-- `configure`. -/
def configure (capacity : ℤ) (refillPerS : ℚ) (maxKeys : ℤ) : Except Exc TokenBucket :=
  if capacity ≤ 0 then .error (.valueError "capacity must be positive")
  else if refillPerS < 0 then .error (.valueError "refill_per_s must be non-negative")
  else if maxKeys ≤ 0 then .error (.valueError "max_keys must be positive")
  else .ok ⟨capacity, refillPerS, maxKeys, .empty⟩

/-- The loop of `popitem(last=False)`, on the entries. -/
def evictEntries (maxKeys : ℤ) : List (String × ℚ × ℚ) → List (String × ℚ × ℚ)
  | [] => []
  | oldest :: rest => if maxKeys < (oldest :: rest).length then evictEntries maxKeys rest else oldest :: rest

theorem evictEntries_suffix (maxKeys : ℤ) (entries : List (String × ℚ × ℚ)) :
    evictEntries maxKeys entries <:+ entries := by
  induction entries with
  | nil => exact List.suffix_refl _
  | cons oldest rest ih =>
    rw [evictEntries]
    split
    · exact ih.trans (List.suffix_cons _ _)
    · exact List.suffix_refl _

/-- The loop of `popitem(last=False)`. -/
def evict (maxKeys : ℤ) (buckets : Dict String (ℚ × ℚ)) : Dict String (ℚ × ℚ) :=
  ⟨evictEntries maxKeys buckets.entries,
    buckets.nodupKeys.sublist ((evictEntries_suffix maxKeys buckets.entries).sublist.map Prod.fst)⟩

/-- The tokens of a caller that calls at some time, before one is taken. -/
def TokenBucket.refilled (b : TokenBucket) (call : String × ℚ) : ℚ :=
  let entry := (b.buckets.get? call.1).getD (b.capacity, call.2)
  min b.capacity (entry.1 + (call.2 - entry.2) * b.refillPerS)

/-- `allow`, for a key and the time of the call. -/
def TokenBucket.allow (b : TokenBucket) (call : String × ℚ) : TokenBucket × Bool :=
  let tokens := b.refilled call
  let allowed := decide (1 ≤ tokens)
  ({ b with
      buckets := evict b.maxKeys
        ((b.buckets.pop call.1).set call.1 (if allowed then tokens - 1 else tokens, call.2)) },
    allowed)

theorem evictEntries_keeps {maxKeys : ℤ} (older : List (String × ℚ × ℚ)) {newest : List (String × ℚ × ℚ)}
    (h : (newest.length : ℤ) ≤ maxKeys) :
    ∃ older', evictEntries maxKeys (older ++ newest) = older' ++ newest := by
  induction older with
  | nil =>
    refine ⟨[], ?_⟩
    rw [List.nil_append]
    cases newest with
    | nil => rfl
    | cons oldest rest => rw [evictEntries, if_neg (not_lt.mpr h)]
  | cons oldest older ih =>
    rw [List.cons_append, evictEntries]
    split
    · exact ih
    · exact ⟨oldest :: older, rfl⟩

/-- A call puts its caller last, and the oldest callers are forgotten. -/
theorem entries_allow (b : TokenBucket) (call : String × ℚ) :
    (b.allow call).1.buckets.entries =
      evictEntries b.maxKeys (b.buckets.entries.filter (fun e => e.1 ≠ call.1) ++
        [(call.1, (if decide (1 ≤ b.refilled call) then b.refilled call - 1 else b.refilled call), call.2)]) := by
  refine congrArg (evictEntries b.maxKeys) (Dict.entries_set_of_fresh ?_ _)
  cases hget : (b.buckets.pop call.1).get? call.1 with
  | none => rfl
  | some v =>
    have hmem := (Dict.mem_entries_iff _ _ _).mpr hget
    simp [Dict.pop] at hmem

/-! ## The calls of one caller -/

/-- When a caller called. -/
def timesOf (k : String) (calls : List (String × ℚ)) : List ℚ :=
  (calls.filter fun call => call.1 = k).map Prod.snd

/-- Who called since the last call of a caller, the last one first. -/
def sinceLast (k : String) (calls : List (String × ℚ)) : List String :=
  (calls.map Prod.fst).reverse.takeWhile (· ≠ k)

/-- Between consecutive calls of `k`, fewer than `maxKeys` other callers call. -/
def Spaced (k : String) (maxKeys : ℤ) (calls : List (String × ℚ)) : Prop :=
  ∀ before between after t t', calls = before ++ (k, t) :: (between ++ (k, t') :: after) →
    k ∉ between.map Prod.fst → ((between.map Prod.fst).dedup.length : ℤ) < maxKeys

theorem timesOf_append_self (k : String) (calls : List (String × ℚ)) (now : ℚ) :
    timesOf k (calls ++ [(k, now)]) = timesOf k calls ++ [now] := by
  simp [timesOf]

theorem timesOf_append_ne {j k : String} (h : j ≠ k) (calls : List (String × ℚ)) (now : ℚ) :
    timesOf k (calls ++ [(j, now)]) = timesOf k calls := by
  simp [timesOf, h]

theorem sinceLast_append_ne {j k : String} (h : j ≠ k) (calls : List (String × ℚ)) (now : ℚ) :
    sinceLast k (calls ++ [(j, now)]) = j :: sinceLast k calls := by
  simp [sinceLast, h]

variable {k : String} {maxKeys : ℤ} {calls : List (String × ℚ)}

theorem Spaced.of_append {more : List (String × ℚ)} (h : Spaced k maxKeys (calls ++ more)) :
    Spaced k maxKeys calls := by
  intro before between after t t' hcalls hbetween
  refine h before between (after ++ more) t t' ?_ hbetween
  rw [hcalls]
  simp only [List.append_assoc, List.cons_append]

/-- When the caller calls again, fewer than `maxKeys` others have called since. -/
theorem Spaced.since_lt {now : ℚ} (h : Spaced k maxKeys (calls ++ [(k, now)]))
    (hcalled : timesOf k calls ≠ []) : ((sinceLast k calls).dedup.length : ℤ) < maxKeys := by
  -- the calls since the last one of `k`, as a piece of the run
  have hsplit : ∃ before t between, calls = before ++ (k, t) :: between ∧ k ∉ between.map Prod.fst := by
    clear h
    induction calls using List.reverseRecOn with
    | nil => exact absurd rfl hcalled
    | append_singleton calls call ih =>
      obtain ⟨j, now⟩ := call
      by_cases hj : j = k
      · subst hj
        exact ⟨calls, now, [], rfl, List.not_mem_nil⟩
      · rw [timesOf_append_ne hj] at hcalled
        obtain ⟨before, t, between, rfl, hbetween⟩ := ih hcalled
        refine ⟨before, t, between ++ [(j, now)], by simp, ?_⟩
        rw [List.map_append, List.mem_append, not_or]
        exact ⟨hbetween, fun hmem => hj (List.mem_singleton.mp hmem).symm⟩
  obtain ⟨before, t, between, rfl, hbetween⟩ := hsplit
  have hsince : sinceLast k (before ++ (k, t) :: between) = (between.map Prod.fst).reverse := by
    have hnone : ∀ j ∈ (between.map Prod.fst).reverse, decide (j ≠ k) = true := fun j hj =>
      decide_eq_true fun heq => hbetween (heq ▸ List.mem_reverse.mp hj)
    rw [sinceLast, List.map_append, List.map_cons, List.reverse_append, List.reverse_cons,
      List.append_assoc, List.takeWhile_append_of_pos hnone]
    simp
  have hlength := h before between [] t now (by simp) hbetween
  rw [hsince]
  have hperm : (between.map Prod.fst).reverse.dedup.length = (between.map Prod.fst).dedup.length :=
    ((List.reverse_perm _).dedup).length_eq
  rw [hperm]
  exact hlength

/-! ## A caller that is not forgotten -/

variable {capacity refill : ℚ} {b : TokenBucket}

/-- What the buckets hold for `k` after some calls: nothing before its first call, and what its last call left
as long as fewer than `maxKeys` others called since. -/
structure Remembers (capacity refill : ℚ) (maxKeys : ℤ) (k : String) (calls : List (String × ℚ))
    (b : TokenBucket) : Prop where
  capacity_eq : b.capacity = capacity
  refill_eq : b.refillPerS = refill
  maxKeys_eq : b.maxKeys = maxKeys
  absent : timesOf k calls = [] → ∀ e ∈ b.buckets.entries, e.1 ≠ k
  held : ∀ left, leftBehind capacity refill (served capacity refill (timesOf k calls)) = some left →
    ((sinceLast k calls).dedup.length : ℤ) < maxKeys →
      ∃ older newer, b.buckets.entries = older ++ (k, left) :: newer ∧
        ∀ e ∈ newer, e.1 ∈ sinceLast k calls

theorem mem_of_mem_entries_allow {call : String × ℚ} {e : String × ℚ × ℚ}
    (h : e ∈ (b.allow call).1.buckets.entries) : e ∈ b.buckets.entries ∨ e.1 = call.1 := by
  rw [entries_allow] at h
  rcases List.mem_append.mp ((evictEntries_suffix _ _).mem h) with h | h
  · exact .inl (List.mem_of_mem_filter h)
  · rw [List.mem_singleton.mp h]
    exact .inr rfl

/-- A call of another caller leaves what is held for `k`. -/
theorem Remembers.other {j : String} {now : ℚ} (h : Remembers capacity refill maxKeys k calls b)
    (hj : j ≠ k) : Remembers capacity refill maxKeys k (calls ++ [(j, now)]) (b.allow (j, now)).1 := by
  refine ⟨h.capacity_eq, h.refill_eq, h.maxKeys_eq, fun hnever e he => ?_, fun left hleft hfew => ?_⟩
  · rw [timesOf_append_ne hj] at hnever
    rcases mem_of_mem_entries_allow he with he | he
    · exact h.absent hnever e he
    · rw [he]
      exact hj
  · rw [timesOf_append_ne hj] at hleft
    rw [sinceLast_append_ne hj] at hfew ⊢
    have hfewer : ((sinceLast k calls).dedup.length : ℤ) < maxKeys := by
      have hsub : (sinceLast k calls).dedup.Subperm (j :: sinceLast k calls).dedup :=
        List.subperm_of_subset (List.nodup_dedup _) fun x hx => by
          rw [List.mem_dedup] at hx ⊢
          exact List.mem_cons_of_mem _ hx
      have hle := hsub.length_le
      omega
    obtain ⟨older, newer, hentries, hnewer⟩ := h.held left hleft hfewer
    have hallow := entries_allow b (j, now)
    generalize ((if decide (1 ≤ b.refilled (j, now)) then b.refilled (j, now) - 1
      else b.refilled (j, now)), now) = entry at hallow
    rw [hentries, List.filter_append, List.filter_cons_of_pos (by simpa using hj.symm), List.append_assoc,
      List.cons_append, h.maxKeys_eq] at hallow
    have hlater : ∀ e ∈ newer.filter (fun e => e.1 ≠ j) ++ [(j, entry)],
        e.1 ∈ j :: sinceLast k calls := fun e he => by
      rcases List.mem_append.mp he with he | he
      · exact List.mem_cons_of_mem _ (hnewer e (List.mem_of_mem_filter he))
      · rw [List.mem_singleton.mp he]
        exact List.mem_cons_self
    -- the callers after `k` are different, and all of them called since
    have hnodup : ((newer.filter (fun e => e.1 ≠ j) ++ [(j, entry)]).map Prod.fst).Nodup := by
      have hkeys := b.buckets.nodupKeys
      rw [hentries, List.map_append, List.map_cons] at hkeys
      rw [List.map_append, List.map_cons, List.map_nil, List.nodup_append]
      refine ⟨?_, List.nodup_singleton _, fun x hx y hy => ?_⟩
      · exact (((List.nodup_append.mp hkeys).2.1.of_cons).sublist (List.filter_sublist.map Prod.fst))
      · obtain ⟨e, he, rfl⟩ := List.mem_map.mp hx
        rw [List.mem_singleton.mp hy]
        simpa using (List.mem_filter.mp he).2
    have hsubset : (newer.filter (fun e => e.1 ≠ j) ++ [(j, entry)]).map Prod.fst ⊆
        (j :: sinceLast k calls).dedup := fun x hx => by
      obtain ⟨e, he, rfl⟩ := List.mem_map.mp hx
      exact List.mem_dedup.mpr (hlater e he)
    have hlength := (List.subperm_of_subset hnodup hsubset).length_le
    rw [List.length_map] at hlength
    have hroom : (((k, left) :: (newer.filter (fun e => e.1 ≠ j) ++ [(j, entry)])).length : ℤ)
        ≤ maxKeys := by
      rw [List.length_cons]
      omega
    obtain ⟨older', holder⟩ := evictEntries_keeps (older.filter fun e => e.1 ≠ j) hroom
    exact ⟨older', _, hallow.trans holder, hlater⟩

/-- A caller that is remembered has the tokens of a bucket of its own. -/
theorem Remembers.refilled_eq (now : ℚ) (h : Remembers capacity refill maxKeys k calls b)
    (hfew : timesOf k calls ≠ [] → ((sinceLast k calls).dedup.length : ℤ) < maxKeys) :
    b.refilled (k, now) = tokensLeft capacity refill (served capacity refill (timesOf k calls)) now := by
  have htimes : (served capacity refill (timesOf k calls)).map Prod.fst = (timesOf k calls).reverse :=
    map_fst_served _
  unfold TokenBucket.refilled
  dsimp only
  cases hhistory : served capacity refill (timesOf k calls) with
  | nil =>
    rw [hhistory, List.map_nil] at htimes
    have hnever : timesOf k calls = [] := List.reverse_eq_nil_iff.mp htimes.symm
    have hget : b.buckets.get? k = none := by
      cases hget : b.buckets.get? k with
      | none => rfl
      | some left => exact absurd rfl (h.absent hnever _ ((Dict.mem_entries_iff _ _ _).mpr hget))
    rw [hget, Option.getD_none, h.capacity_eq, sub_self, zero_mul, add_zero, min_self]
    rfl
  | cons call earlier =>
    have hcalled : timesOf k calls ≠ [] := fun hnever => by
      rw [hhistory, hnever] at htimes
      cases htimes
    obtain ⟨older, newer, hentries, -⟩ :=
      h.held (tokensLeft capacity refill earlier call.1 - cost call.2, call.1) (by rw [hhistory]; rfl)
        (hfew hcalled)
    have hget : b.buckets.get? k =
        some (tokensLeft capacity refill earlier call.1 - cost call.2, call.1) := by
      rw [← Dict.mem_entries_iff, hentries]
      exact List.mem_append_right _ List.mem_cons_self
    rw [hget, Option.getD_some, h.capacity_eq, h.refill_eq]
    rfl

/-- A call of `k` itself is answered as by a bucket of its own, and remembered. -/
theorem Remembers.own (now : ℚ) (h : Remembers capacity refill maxKeys k calls b) (hmax : 0 < maxKeys)
    (hfew : timesOf k calls ≠ [] → ((sinceLast k calls).dedup.length : ℤ) < maxKeys) :
    (b.allow (k, now)).2 =
        decide (1 ≤ tokensLeft capacity refill (served capacity refill (timesOf k calls)) now) ∧
      Remembers capacity refill maxKeys k (calls ++ [(k, now)]) (b.allow (k, now)).1 := by
  have hrefilled := h.refilled_eq now hfew
  constructor
  · rw [← hrefilled]
    rfl
  · refine ⟨h.capacity_eq, h.refill_eq, h.maxKeys_eq, fun hnever => ?_, fun left hleft _ => ?_⟩
    · rw [timesOf_append_self] at hnever
      exact absurd hnever (by simp)
    · rw [timesOf_append_self, served_append, leftBehind, Option.some.injEq] at hleft
      have hroom : (([(k, left)] : List (String × ℚ × ℚ)).length : ℤ) ≤ maxKeys := by
        rw [List.length_singleton]
        exact hmax
      obtain ⟨older', holder⟩ := evictEntries_keeps (b.buckets.entries.filter fun e => e.1 ≠ k) hroom
      refine ⟨older', [], ?_, fun e he => absurd he List.not_mem_nil⟩
      rw [entries_allow, h.maxKeys_eq, hrefilled, ← holder, ← hleft]
      congr 5
      unfold cost
      split
      · rfl
      · exact (sub_zero _).symm

/-! ## Runs -/

/-- A step of a run: a call, and whether it was accepted. -/
abbrev Call := Step TokenBucket (String × ℚ) Bool

/-- The calls of one caller in a run, the last one first. -/
def historyOf (k : String) (steps : List Call) : History :=
  ((steps.filter fun step => step.input.1 = k).map fun step => (step.input.2, step.output)).reverse

theorem historyOf_append (k : String) (steps : List Call) (step : Call) :
    historyOf k (steps ++ [step]) =
      if step.input.1 = k then (step.input.2, step.output) :: historyOf k steps else historyOf k steps := by
  unfold historyOf
  split
  · next hk => simp [hk]
  · next hk => simp [hk]

/-- A caller that is never forgotten is answered as by a bucket of its own. -/
theorem historyOf_eq_served (capacity refill : ℚ) {maxKeys : ℤ} (hmax : 0 < maxKeys) (hspaced : Spaced k maxKeys calls) :
    Remembers capacity refill maxKeys k calls
        (final TokenBucket.allow ⟨capacity, refill, maxKeys, .empty⟩ calls) ∧
      historyOf k (trace TokenBucket.allow ⟨capacity, refill, maxKeys, .empty⟩ calls) =
        served capacity refill (timesOf k calls) := by
  induction calls using List.reverseRecOn with
  | nil =>
    refine ⟨⟨rfl, rfl, rfl, fun _ e he => absurd he List.not_mem_nil, fun left hleft => ?_⟩, rfl⟩
    cases hleft
  | append_singleton calls call ih =>
    obtain ⟨j, now⟩ := call
    obtain ⟨hremembers, hhistory⟩ := ih hspaced.of_append
    rw [final_append, trace_append, final_cons, final_nil, trace, trace, historyOf_append, hhistory]
    by_cases hj : j = k
    · subst hj
      obtain ⟨hanswer, hnext⟩ := hremembers.own now hmax hspaced.since_lt
      refine ⟨hnext, ?_⟩
      rw [timesOf_append_self, served_append, ← hanswer]
      exact if_pos rfl
    · refine ⟨hremembers.other hj, ?_⟩
      rw [timesOf_append_ne hj]
      exact if_neg hj

/-- The steps before a step of a run are the run over the calls before it. -/
theorem steps_before {b₀ : TokenBucket} {past rest : List Call} {step : Call}
    (h : trace TokenBucket.allow b₀ calls = past ++ step :: rest) :
    past = trace TokenBucket.allow b₀ (past.map Step.input) ∧
      step = stepOf TokenBucket.allow (final TokenBucket.allow b₀ (past.map Step.input)) step.input := by
  have hhistory := history_of_split (H := fun past b =>
      past = trace TokenBucket.allow b₀ (past.map Step.input) ∧
        b = final TokenBucket.allow b₀ (past.map Step.input))
    (fun past b call hpast => by
      rw [List.map_append, trace_append, final_append, ← hpast.1, ← hpast.2]
      exact ⟨rfl, rfl⟩)
    [] ⟨rfl, rfl⟩ h
  have hstep := (invariant_of_mem_trace (I := fun _ => True) (fun _ _ _ => trivial) trivial
    (h ▸ List.mem_append_right _ List.mem_cons_self)).2
  refine ⟨hhistory.1, ?_⟩
  rw [List.nil_append] at hhistory
  rw [← hhistory.2]
  exact hstep

/-- What is asked of a bucket about a caller `k`: what is accepted in a window is bounded, a call is only
refused when less than a token is left, and the calls of others do not change the answers. -/
structure Bounded (bucket : TokenBucket) (k : String) (calls : List (String × ℚ)) : Prop where
  window : ∀ start t, 0 ≤ t →
    (((trace TokenBucket.allow bucket calls).countP fun step => decide (step.input.1 = k) && step.output &&
      decide (start ≤ step.input.2 ∧ step.input.2 ≤ start + t) : ℕ) : ℚ) ≤
        bucket.capacity + bucket.refillPerS * t
  refused : ∀ past step rest, trace TokenBucket.allow bucket calls = past ++ step :: rest →
    step.input.1 = k → step.output = false →
      tokensLeft bucket.capacity bucket.refillPerS (historyOf k past) step.input.2 < 1
  alone : historyOf k (trace TokenBucket.allow bucket calls) =
    historyOf k (trace TokenBucket.allow bucket (calls.filter fun call => call.1 = k))

theorem spaced_alone {maxKeys : ℤ} (hmax : 0 < maxKeys) :
    Spaced k maxKeys (calls.filter fun call => call.1 = k) := by
  intro before between after t t' hcalls hbetween
  cases between with
  | nil => exact hmax
  | cons call between =>
    have hmem : call ∈ calls.filter fun call => call.1 = k := by
      rw [hcalls]
      simp
    have hk : call.1 = k := of_decide_eq_true (List.mem_filter.mp hmem).2
    exact absurd (hk ▸ List.mem_cons_self) hbetween

theorem countP_window (k : String) (start stop : ℚ) (steps : List Call) :
    steps.countP (fun step => decide (step.input.1 = k) && step.output &&
      decide (start ≤ step.input.2 ∧ step.input.2 ≤ stop)) =
        acceptedWithin start stop (historyOf k steps) := by
  rw [acceptedWithin, historyOf, List.countP_reverse, List.countP_map, List.countP_filter]
  refine List.countP_congr fun step _ => ?_
  simp only [Function.comp_apply, Bool.and_eq_true, decide_eq_true_eq]
  tauto

/-- The bucket bounds every caller between whose calls fewer than `max_keys` others come. -/
theorem token_bucket_bounded {capacity maxKeys : ℤ} {refill : ℚ} {bucket : TokenBucket}
    (hconfigured : configure capacity refill maxKeys = .ok bucket) {calls : List (String × ℚ)}
    (hclock : (calls.map Prod.snd).Pairwise (· ≤ ·)) {k : String} (hspaced : Spaced k maxKeys calls) :
    Bounded bucket k calls := by
  unfold configure at hconfigured
  split at hconfigured
  · cases hconfigured
  next hcapacity =>
  split at hconfigured
  · cases hconfigured
  next hrefill =>
  split at hconfigured
  · cases hconfigured
  next hmax =>
  obtain rfl := Except.ok.inj hconfigured
  have hcapacity : (0 : ℚ) ≤ capacity := by exact_mod_cast (lt_of_not_ge hcapacity).le
  have hrefill : 0 ≤ refill := le_of_not_gt hrefill
  have hmax : 0 < maxKeys := lt_of_not_ge hmax
  have hserved := (historyOf_eq_served capacity refill hmax hspaced).2
  have htimes : (timesOf k calls).Pairwise (· ≤ ·) := hclock.sublist (List.filter_sublist.map Prod.snd)
  refine ⟨fun start t ht => ?_, fun past step rest hsplit hk hrefused => ?_, ?_⟩
  · rw [countP_window, hserved]
    have hlater : start ≤ start + t := le_add_of_nonneg_right ht
    have hbound := acceptedWithin_le hcapacity hrefill (isServed_served htimes) hlater
    rw [add_sub_cancel_left] at hbound
    exact hbound
  · obtain ⟨hpast, hstep⟩ := steps_before hsplit
    have hinputs := congrArg (List.map Step.input) hsplit
    rw [map_input_trace, List.map_append, List.map_cons, ← List.singleton_append,
      ← List.append_assoc] at hinputs
    have hinput : step.input = (k, step.input.2) := by rw [← hk]
    have hbefore : Spaced k maxKeys (past.map Step.input ++ [(k, step.input.2)]) := by
      rw [← hinput]
      rw [hinputs] at hspaced
      exact hspaced.of_append
    obtain ⟨hremembers, hhistory⟩ :=
      historyOf_eq_served capacity refill hmax hbefore.of_append
    have hanswer := (hremembers.own step.input.2 hmax hbefore.since_lt).1
    rw [← hinput] at hanswer
    have hless := hanswer.symm.trans ((congrArg Step.output hstep).symm.trans hrefused)
    rw [hpast, hhistory]
    exact lt_of_not_ge (of_decide_eq_false hless)
  · rw [hserved, (historyOf_eq_served capacity refill hmax (spaced_alone hmax)).2]
    simp [timesOf]

/-- Two calls of `a` with one of `b` between them, to a bucket that tracks two callers. -/
theorem token_bucket_bounded_two_callers : ∃ bucket, configure 1 (1 / 2) 2 = .ok bucket ∧
    Bounded bucket "a" [("a", 0), ("b", 0), ("a", 1)] := by
  have hconfigured : configure 1 (1 / 2) 2 = .ok ⟨1, 1 / 2, 2, .empty⟩ := by
    rw [configure, if_neg (by decide), if_neg (by norm_num), if_neg (by decide)]
    norm_num
  refine ⟨_, hconfigured, token_bucket_bounded hconfigured (by norm_num) ?_⟩
  intro before between after t t' hcalls _
  have hlength := congrArg List.length hcalls
  simp only [List.length_append, List.length_cons, List.length_nil] at hlength
  have hdedup := (List.dedup_sublist (between.map Prod.fst)).length_le
  rw [List.length_map] at hdedup
  omega

/-! ## A caller that waits -/

/-- A caller that has waited for a token since each of its calls is served. -/
def ServesPatient (steps : List Call) : Prop :=
  ∀ past step rest, steps = past ++ step :: rest →
    (∀ earlier ∈ past, earlier.input.1 = step.input.1 →
      1 ≤ (step.input.2 - earlier.input.2) * step.before.refillPerS) → step.output = true

/-- A caller that is tracked owes no tokens, and was last refilled at one of its calls. -/
structure Fair (past : List Call) (b : TokenBucket) : Prop where
  capacity : 1 ≤ b.capacity
  entries : ∀ e ∈ b.buckets.entries, 0 ≤ e.2.1 ∧ ∃ step ∈ past, step.input = (e.1, e.2.2)

theorem Fair.le_refilled {past : List Call} {b : TokenBucket} (h : Fair past b) {call : String × ℚ}
    {tokens : ℚ} (hone : tokens ≤ 1) (hflow : ∀ earlier ∈ past, earlier.input.1 = call.1 →
      tokens ≤ (call.2 - earlier.input.2) * b.refillPerS) : tokens ≤ b.refilled call := by
  unfold TokenBucket.refilled
  refine le_min (hone.trans h.capacity) ?_
  cases hget : b.buckets.get? call.1 with
  | none => simpa using hone.trans h.capacity
  | some left =>
    obtain ⟨hleft, earlier, hearlier, hinput⟩ := h.entries _ ((Dict.mem_entries_iff _ _ _).mpr hget)
    have hflowed := hflow earlier hearlier (by rw [hinput])
    rw [hinput] at hflowed
    exact hflowed.trans (le_add_of_nonneg_left hleft)

theorem Fair.step {past : List Call} {b : TokenBucket} (h : Fair past b) (hrefill : 0 ≤ b.refillPerS)
    {call : String × ℚ} (hclock : ∀ earlier ∈ past, earlier.input.2 ≤ call.2) :
    Fair (past ++ [stepOf TokenBucket.allow b call]) (b.allow call).1 := by
  refine ⟨h.capacity, fun e he => ?_⟩
  rw [entries_allow] at he
  rcases List.mem_append.mp ((evictEntries_suffix _ _).subset he) with hold | hnew
  · obtain ⟨hleft, step, hstep, hinput⟩ := h.entries e (List.mem_of_mem_filter hold)
    exact ⟨hleft, step, List.mem_append_left _ hstep, hinput⟩
  · obtain rfl := List.mem_singleton.mp hnew
    refine ⟨?_, _, List.mem_append_right _ (List.mem_singleton_self _), rfl⟩
    have hnonneg : 0 ≤ b.refilled call := h.le_refilled zero_le_one fun earlier hearlier _ =>
      mul_nonneg (sub_nonneg.mpr (hclock earlier hearlier)) hrefill
    by_cases hone : 1 ≤ b.refilled call
    · simp [hone]
    · simpa [hone] using hnonneg

theorem fair_final {b₀ : TokenBucket} (h : Fair [] b₀) (hrefill : 0 ≤ b₀.refillPerS)
    {calls : List (String × ℚ)} (hclock : (calls.map Prod.snd).Pairwise (· ≤ ·)) :
    (final TokenBucket.allow b₀ calls).refillPerS = b₀.refillPerS ∧
      Fair (trace TokenBucket.allow b₀ calls) (final TokenBucket.allow b₀ calls) := by
  induction calls using List.reverseRecOn with
  | nil => exact ⟨rfl, h⟩
  | append_singleton calls call ih =>
    rw [List.map_append, List.pairwise_append] at hclock
    obtain ⟨hrate, hfair⟩ := ih hclock.1
    rw [final_append, trace_append]
    refine ⟨hrate, hfair.step (hrate ▸ hrefill) fun earlier hearlier => ?_⟩
    have hcall := List.mem_map_of_mem (f := Step.input) hearlier
    rw [map_input_trace] at hcall
    exact hclock.2.2 _ (List.mem_map_of_mem hcall) _ (List.mem_singleton_self _)

end ShelfWise.Security
