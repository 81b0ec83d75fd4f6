import ShelfWise.Candidates.Factory
import Mathlib.Data.List.Dedup

/-!
# The bounded mix of candidates

`_bounded_candidate_mix` puts the first candidate of every type before it fills up by place, so that no
type is starved. A candidate with the key of such a representative is taken for the same one and left
out (`mix_keeps_types`).
-/

namespace ShelfWise.Candidates

open Py

variable {tenantId : String} {cs : List (TenantCandidate tenantId)} {limit : ℕ}

/-! ## Representatives -/

/-- The first candidates of the types that have not been seen. -/
def firstsOf (seen : List String) : List (TenantCandidate tenantId) → List (TenantCandidate tenantId)
  | [] => []
  | c :: cs =>
    if c.1.candidateType ∈ seen then firstsOf seen cs
    else c :: firstsOf (seen ++ [c.1.candidateType]) cs

/-- The loop takes the first candidates until the limit is reached. -/
theorem representatives_eq (kept cs : List (TenantCandidate tenantId)) (h : kept.length < limit) :
    representatives limit kept cs =
      (kept ++ firstsOf (kept.map (·.1.candidateType)) cs).take limit := by
  induction cs generalizing kept with
  | nil => rw [representatives, firstsOf, List.append_nil, List.take_of_length_le h.le]
  | cons c cs ih =>
    rw [representatives, firstsOf]
    by_cases hseen : c.1.candidateType ∈ kept.map (·.1.candidateType)
    · rw [if_pos hseen, if_pos hseen, ih kept h]
    · rw [if_neg hseen, if_neg hseen]
      have hsplit : kept ++ c :: firstsOf (kept.map (·.1.candidateType) ++ [c.1.candidateType]) cs =
          (kept ++ [c]) ++ firstsOf ((kept ++ [c]).map (·.1.candidateType)) cs := by
        rw [List.map_append, List.append_assoc]
        rfl
      rw [hsplit]
      by_cases hfull : (kept ++ [c]).length = limit
      · rw [if_pos hfull, List.take_append_of_le_length hfull.ge, List.take_of_length_le hfull.le]
      · rw [List.length_append, List.length_singleton] at hfull
        rw [if_neg (by rwa [List.length_append, List.length_singleton]),
          ih _ (by rw [List.length_append, List.length_singleton]; omega)]

/-- A candidate is the first of its type. -/
def IsFirst (cs : List (TenantCandidate tenantId)) (c : TenantCandidate tenantId) : Prop :=
  ∃ before after, cs = before ++ c :: after ∧
    c.1.candidateType ∉ before.map (·.1.candidateType)

theorem firstsOf_sublist (seen : List String) (cs : List (TenantCandidate tenantId)) :
    (firstsOf seen cs).Sublist cs := by
  induction cs generalizing seen with
  | nil => exact .slnil
  | cons c cs ih =>
    rw [firstsOf]
    split_ifs
    · exact (ih seen).cons c
    · exact (ih _).cons_cons c

/-- The types of the first candidates are those that had not been seen, each once. -/
theorem types_firstsOf (seen : List String) (cs : List (TenantCandidate tenantId)) :
    ((firstsOf seen cs).map (·.1.candidateType)).Nodup ∧ ∀ type,
      type ∈ (firstsOf seen cs).map (·.1.candidateType) ↔
        type ∈ cs.map (·.1.candidateType) ∧ type ∉ seen := by
  induction cs generalizing seen with
  | nil => exact ⟨List.nodup_nil, fun type => by simp [firstsOf]⟩
  | cons c cs ih =>
    rw [firstsOf]
    by_cases hseen : c.1.candidateType ∈ seen
    · rw [if_pos hseen]
      refine ⟨(ih seen).1, fun type => ?_⟩
      rw [(ih seen).2, List.map_cons, List.mem_cons]
      constructor
      · exact fun h => ⟨.inr h.1, h.2⟩
      · rintro ⟨rfl | hmem, hnew⟩
        · exact absurd hseen hnew
        · exact ⟨hmem, hnew⟩
    · rw [if_neg hseen]
      obtain ⟨hnodup, hmem⟩ := ih (seen ++ [c.1.candidateType])
      rw [List.map_cons, List.map_cons]
      refine ⟨List.nodup_cons.mpr ⟨fun h => ?_, hnodup⟩, fun type => ?_⟩
      · exact ((hmem _).mp h).2 (List.mem_append_right _ List.mem_cons_self)
      · rw [List.mem_cons, List.mem_cons, hmem, List.mem_append, List.mem_singleton]
        by_cases htype : type = c.1.candidateType
        · subst htype
          exact iff_of_true (.inl rfl) ⟨.inl rfl, hseen⟩
        · simp only [htype, false_or, or_false]

/-- There are as many first candidates as types. -/
theorem length_firstsOf (cs : List (TenantCandidate tenantId)) :
    (firstsOf [] cs).length = (cs.map (·.1.candidateType)).dedup.length := by
  obtain ⟨hnodup, hmem⟩ := types_firstsOf [] cs
  have hperm : ((firstsOf [] cs).map (·.1.candidateType)).Perm
      (cs.map (·.1.candidateType)).dedup := by
    rw [List.perm_ext_iff_of_nodup hnodup (List.nodup_dedup _)]
    intro type
    rw [hmem, List.mem_dedup]
    exact and_iff_left List.not_mem_nil
  rw [← hperm.length_eq, List.length_map]

theorem isFirst_of_mem {c : TenantCandidate tenantId} (past : List (TenantCandidate tenantId))
    {seen : List String} (hseen : ∀ type, type ∈ seen ↔ type ∈ past.map (·.1.candidateType))
    (h : c ∈ firstsOf seen cs) : IsFirst (past ++ cs) c := by
  induction cs generalizing past seen with
  | nil => cases h
  | cons first cs ih =>
    have hmove : past ++ first :: cs = (past ++ [first]) ++ cs := by
      rw [List.append_assoc, List.singleton_append]
    rw [firstsOf] at h
    by_cases hin : first.1.candidateType ∈ seen
    · rw [if_pos hin] at h
      rw [hmove]
      refine ih (past ++ [first]) (fun type => ?_) h
      rw [List.map_append, List.mem_append, ← hseen, List.map_singleton, List.mem_singleton]
      exact ⟨.inl, fun h => h.elim id fun heq => heq ▸ hin⟩
    · rw [if_neg hin] at h
      rcases List.mem_cons.mp h with rfl | hrest
      · exact ⟨past, cs, rfl, fun hmem => hin ((hseen _).mpr hmem)⟩
      · rw [hmove]
        refine ih (past ++ [first]) (fun type => ?_) hrest
        rw [List.mem_append, hseen, List.map_append, List.mem_append, List.map_singleton]

/-! ## The mix -/

/-- The candidates that do not have the key of a representative. -/
def others (cs : List (TenantCandidate tenantId)) : List (TenantCandidate tenantId) :=
  cs.filter fun c => c.1.candidateKey ∉ (firstsOf [] cs).map (·.1.candidateKey)

/-- The mix is a cut of the representatives and the others. -/
theorem boundedCandidateMix_eq (h : 1 ≤ limit) :
    boundedCandidateMix cs limit = (firstsOf [] cs ++ others cs).take limit := by
  have hkept : representatives limit [] cs = (firstsOf [] cs).take limit :=
    representatives_eq [] cs h
  unfold boundedCandidateMix
  simp only [hkept]
  by_cases hfull : ((firstsOf [] cs).take limit).length = limit
  · rw [List.length_take] at hfull
    rw [if_pos (by rwa [List.length_take]), List.take_append_of_le_length (by omega)]
  · rw [List.length_take] at hfull
    have hall : (firstsOf [] cs).take limit = firstsOf [] cs := List.take_of_length_le (by omega)
    rw [if_neg (by rwa [List.length_take]), hall]
    rfl

/-- The candidates are sorted by `(-score, candidate_key)`. -/
def SortedByScore (cs : List (TenantCandidate tenantId)) : Prop :=
  cs.Pairwise fun a b =>
    toLex (-scoreOf a.1, a.1.candidateKey) ≤ toLex (-scoreOf b.1, b.1.candidateKey)

/-- The first candidate of a type has its highest score. -/
theorem score_le_of_isFirst (hsorted : SortedByScore cs) {best c : TenantCandidate tenantId}
    (hbest : IsFirst cs best) (hmem : c ∈ cs) (htype : c.1.candidateType = best.1.candidateType) :
    scoreOf c.1 ≤ scoreOf best.1 := by
  obtain ⟨before, after, rfl, hfirst⟩ := hbest
  rcases List.mem_append.mp hmem with hmem | hmem
  · exact absurd (htype ▸ List.mem_map_of_mem hmem) hfirst
  · rcases List.mem_cons.mp hmem with rfl | hafter
    · exact le_rfl
    · have hpair := (List.pairwise_cons.mp (List.pairwise_append.mp hsorted).2.1).1 c hafter
      rw [Prod.Lex.toLex_le_toLex] at hpair
      rcases hpair with hlt | ⟨heq, -⟩
      · exact (neg_lt_neg_iff.mp hlt).le
      · exact (neg_inj.mp heq).ge

/-- What comes before an element of a cut is in the cut. -/
theorem mem_take_of_pair {α : Type*} {xs : List α} (hnodup : xs.Nodup) {a b : α} {n : ℕ}
    (hpair : [a, b].Sublist xs) (hb : b ∈ xs.take n) : a ∈ xs.take n := by
  rw [← List.take_append_drop n xs] at hpair hnodup
  obtain ⟨front, back, heq, hfront, hback⟩ := List.sublist_append_iff.mp hpair
  cases front with
  | nil =>
    rw [List.nil_append] at heq
    subst heq
    have hdrop : b ∈ xs.drop n := hback.subset (List.mem_cons_of_mem a List.mem_cons_self)
    exact absurd rfl ((List.nodup_append.mp hnodup).2.2 b hb b hdrop)
  | cons first rest =>
    obtain rfl := (List.cons.inj heq).1
    exact hfront.subset List.mem_cons_self

section

variable (hkeys : (cs.map (·.1.candidateKey)).Nodup)

include hkeys

/-- With distinct keys every candidate is a representative or one of the others. -/
theorem length_others : (firstsOf [] cs).length + (others cs).length = cs.length := by
  have hsub := firstsOf_sublist [] cs
  have hperm : (cs.filter fun c =>
      c.1.candidateKey ∈ (firstsOf [] cs).map (·.1.candidateKey)).Perm (firstsOf [] cs) := by
    rw [List.perm_ext_iff_of_nodup (hkeys.of_map.filter _) (hkeys.of_map.sublist hsub)]
    intro c
    rw [List.mem_filter, decide_eq_true_eq]
    constructor
    · rintro ⟨hc, hkey⟩
      obtain ⟨first, hfirst, heq⟩ := List.mem_map.mp hkey
      exact List.inj_on_of_nodup_map hkeys (hsub.subset hfirst) hc heq ▸ hfirst
    · exact fun h => ⟨hsub.subset h, List.mem_map_of_mem h⟩
  have htotal := List.length_eq_length_filter_add (l := cs) fun c =>
    c.1.candidateKey ∈ (firstsOf [] cs).map (·.1.candidateKey)
  rw [hperm.length_eq] at htotal
  simp only [others, decide_not]
  exact htotal.symm

theorem nodup_keys_mix :
    (((firstsOf [] cs ++ others cs).take limit).map (·.1.candidateKey)).Nodup := by
  have hwhole : ((firstsOf [] cs ++ others cs).map (·.1.candidateKey)).Nodup := by
    rw [List.map_append]
    refine List.nodup_append.mpr ⟨hkeys.sublist ((firstsOf_sublist [] cs).map _),
      hkeys.sublist (List.filter_sublist.map _), ?_⟩
    rintro key hkey _ hother rfl
    obtain ⟨c, hc, rfl⟩ := List.mem_map.mp hother
    exact of_decide_eq_true (List.mem_filter.mp hc).2 hkey
  exact hwhole.sublist ((List.take_sublist _ _).map _)

/-- What is left out does not come before what the mix was filled up with. -/
theorem filled_in_order {omitted chosen : TenantCandidate tenantId}
    (hpair : [omitted, chosen].Sublist cs)
    (homitted : omitted ∉ (firstsOf [] cs ++ others cs).take limit)
    (hchosen : chosen ∈ (firstsOf [] cs ++ others cs).take limit) : IsFirst cs chosen := by
  have hfirst : ∀ c ∈ firstsOf [] cs, IsFirst cs c := fun c =>
    isFirst_of_mem [] fun _ => Iff.rfl
  rw [List.take_append, List.mem_append] at homitted hchosen
  rcases hchosen with hchosen | hchosen
  · exact hfirst chosen (List.mem_of_mem_take hchosen)
  · exfalso
    -- there is room for an other one, so that all representatives are in the mix
    have hroom : (firstsOf [] cs).length ≤ limit := by
      by_contra hover
      rw [Nat.sub_eq_zero_of_le (by omega), List.take_zero] at hchosen
      cases hchosen
    rw [List.take_of_length_le hroom] at homitted
    have hin : omitted ∈ cs := hpair.subset List.mem_cons_self
    have hother : omitted.1.candidateKey ∉ (firstsOf [] cs).map (·.1.candidateKey) := by
      intro hkey
      obtain ⟨first, hmem, heq⟩ := List.mem_map.mp hkey
      have hsame := List.inj_on_of_nodup_map hkeys ((firstsOf_sublist [] cs).subset hmem) hin heq
      exact homitted (.inl (hsame ▸ hmem))
    have hothers : [omitted, chosen].Sublist (others cs) := by
      have hkept := of_decide_eq_true (List.mem_filter.mp (List.mem_of_mem_take hchosen)).2
      have hfilter := hpair.filter fun c =>
        c.1.candidateKey ∉ (firstsOf [] cs).map (·.1.candidateKey)
      rwa [List.filter_cons_of_pos (by simpa using hother),
        List.filter_cons_of_pos (by simpa using hkept)] at hfilter
    exact homitted (.inr (mem_take_of_pair (hkeys.of_map.filter _) hothers hchosen))

end

/-- The mix of a sorted list is part of it, with the best candidate of every type when there are at most
`limit` of them. With distinct keys it has as many candidates as it can, their keys are distinct, and
it is filled up in order; of the candidates with the key of a representative only that one is taken. -/
theorem mix_keeps_types (hsorted : SortedByScore cs) (hlimit : 1 ≤ limit) :
    (∀ c ∈ boundedCandidateMix cs limit, c ∈ cs) ∧
    ((cs.map (·.1.candidateType)).dedup.length ≤ limit → ∀ c ∈ cs,
      ∃ best ∈ boundedCandidateMix cs limit, best.1.candidateType = c.1.candidateType ∧
        scoreOf c.1 ≤ scoreOf best.1) ∧
    (boundedCandidateMix cs limit).length =
      min limit ((cs.map (·.1.candidateType)).dedup.length + (others cs).length) ∧
    ((cs.map (·.1.candidateKey)).Nodup →
      ((boundedCandidateMix cs limit).map (·.1.candidateKey)).Nodup ∧
      (boundedCandidateMix cs limit).length = min limit cs.length ∧
      ∀ omitted chosen, [omitted, chosen].Sublist cs → omitted ∉ boundedCandidateMix cs limit →
        chosen ∈ boundedCandidateMix cs limit → IsFirst cs chosen) := by
  rw [boundedCandidateMix_eq hlimit, ← length_firstsOf, List.length_take, List.length_append]
  refine ⟨fun c hc => ?_, fun htypes c hc => ?_, rfl, fun hkeys => ⟨nodup_keys_mix hkeys,
    by rw [length_others hkeys], fun _ _ => filled_in_order hkeys⟩⟩
  · rcases List.mem_append.mp (List.mem_of_mem_take hc) with hc | hc
    · exact (firstsOf_sublist [] cs).subset hc
    · exact List.mem_of_mem_filter hc
  · obtain ⟨best, hbest, htype⟩ := List.mem_map.mp
      (((types_firstsOf [] cs).2 _).mpr ⟨List.mem_map_of_mem hc, List.not_mem_nil⟩)
    refine ⟨best, ?_, htype, score_le_of_isFirst hsorted
      (isFirst_of_mem [] (fun _ => Iff.rfl) hbest) hc htype.symm⟩
    rw [List.take_append, List.take_of_length_le htypes]
    exact List.mem_append_left _ hbest

/-- A candidate of a shelf. -/
def listed (key candidateType : String) (score : ℚ) : TenantCandidate "t1" where
  val := ⟨key, "t1", "operational_twin", candidateType, "4011", none, ⟨.finite score, ""⟩,
    ⟨.finite 0, ""⟩, 1, false, []⟩
  property := rfl

theorem mix_keeps_types_two :
    let cs := [listed "a" "near_expiry" 90, listed "b" "near_expiry" 80, listed "c" "low_stock" 50]
    (∀ c ∈ boundedCandidateMix cs 2, c ∈ cs) ∧
    ((cs.map (·.1.candidateType)).dedup.length ≤ 2 → ∀ c ∈ cs,
      ∃ best ∈ boundedCandidateMix cs 2, best.1.candidateType = c.1.candidateType ∧
        scoreOf c.1 ≤ scoreOf best.1) ∧
    (boundedCandidateMix cs 2).length =
      min 2 ((cs.map (·.1.candidateType)).dedup.length + (others cs).length) ∧
    ((cs.map (·.1.candidateKey)).Nodup →
      ((boundedCandidateMix cs 2).map (·.1.candidateKey)).Nodup ∧
      (boundedCandidateMix cs 2).length = min 2 cs.length ∧
      ∀ omitted chosen, [omitted, chosen].Sublist cs → omitted ∉ boundedCandidateMix cs 2 →
        chosen ∈ boundedCandidateMix cs 2 → IsFirst cs chosen) :=
  mix_keeps_types (by norm_num [SortedByScore, listed, scoreOf, Prod.Lex.toLex_le_toLex]) (by decide)

/-- Of two candidates with one key the second is left out, although there is room for it. -/
theorem key_taken_once : ∃ cs : List (TenantCandidate "t1"), SortedByScore cs ∧
    (boundedCandidateMix cs 2).length ≠ min 2 cs.length :=
  ⟨[listed "a" "near_expiry" 90, listed "a" "near_expiry" 80],
    by norm_num [SortedByScore, listed, scoreOf, Prod.Lex.toLex_le_toLex], by decide⟩

end ShelfWise.Candidates
