import ShelfWise.Connectors.Normalize
import ShelfWise.Science.Exact
import Mathlib.Data.List.Dedup

/-!
# The ranking of suppliers

`recommend_suppliers` scores the profiled suppliers of a product against the longest lead time and the
highest cost among them, with decimals taken as rationals. A supplier that improves rises or stays, and
the others keep their order unless it carried one of the two maxima (`recommendSuppliers_improved`).
-/

namespace ShelfWise.Science.Exact

open Py

/-! ## The relation store -/

/-- `Relation`. -/
structure Relation where
  subject : String
  predicate : String
  object : String
deriving DecidableEq

/-- `RelationStore`. -/
structure RelationStore where
  out : Dict String (List Relation)

/-- `RelationStore.related`. -/
def RelationStore.related (self : RelationStore) (node : String) (predicate : Option String) :
    List String :=
  let kept := ((self.out.get? node).getD []).filter fun relation =>
    predicate = none ∨ predicate = some relation.predicate
  sortedBy id (kept.map (·.object)).dedup

/-! ## Scores -/

/-- `SupplierProfile`. -/
structure SupplierProfile where
  supplierId : String
  leadTimeDays : ℚ
  fillRate : ℚ
  unitCost : Connectors.Money

/-- `SupplierScore`. -/
structure SupplierScore where
  supplierId : String
  score : ℚ
  leadTimeDays : ℚ
  fillRate : ℚ
  unitCost : Connectors.Money

/-- `SupplierRanking`. -/
structure SupplierRanking where
  sku : String
  ranked : List SupplierScore
  coverage : ℚ
  method : String

/-- `max(xs, default=default)`. -/
def largest (xs : List ℚ) (default : ℚ) : ℚ := xs.max?.getD default

/-- The score of a supplier against the maxima. -/
def weightedScore (leadMax costMax : ℚ) (item : SupplierProfile) : ℚ :=
  q2 (1 / 2 * clamp item.fillRate 0 1
    + 3 / 10 * (1 - clamp (safeDiv item.leadTimeDays leadMax 1) 0 1)
    + 2 / 10 * (1 - clamp (safeDiv item.unitCost.minorUnits costMax 1) 0 1))

/-- The candidates that have a profile, in the order of the candidates. -/
def profiledOf (candidates : List String) (profiles : Dict String SupplierProfile) :
    List SupplierProfile := candidates.filterMap profiles.get?

/-- The longest lead time of the profiled candidates. -/
def leadMaxOf (profiled : List SupplierProfile) : ℚ := largest (profiled.map (·.leadTimeDays)) 1

/-- The highest cost of the profiled candidates, in cents. -/
def costMaxOf (profiled : List SupplierProfile) : ℚ :=
  largest (profiled.map fun item => (item.unitCost.minorUnits : ℚ)) 1

/-- `recommend_suppliers`. -/
def recommendSuppliers (sku : String) (graph : RelationStore)
    (profiles : Dict String SupplierProfile) : SupplierRanking :=
  let candidates := graph.related ("sku:" ++ sku) (some "supplied_by")
  let profiled := profiledOf candidates profiles
  let leadMax := leadMaxOf profiled
  let costMax := costMaxOf profiled
  let scores := profiled.map fun item =>
    { supplierId := item.supplierId
      score := weightedScore leadMax costMax item
      leadTimeDays := item.leadTimeDays
      fillRate := item.fillRate
      unitCost := item.unitCost : SupplierScore }
  { sku := sku
    ranked := sortedBy (fun item => toLex (-item.score, item.supplierId)) scores
    coverage := if candidates = [] then 0
      else q2 (safeDiv profiled.length candidates.length 0)
    method := "graph_candidates_weighted_fill_lead_cost" }

/-- The place of a supplier in a ranking. -/
def SupplierRanking.position (ranking : SupplierRanking) (supplier : String) : ℕ :=
  (ranking.ranked.map (·.supplierId)).idxOf supplier

/-- One supplier is ranked before another one. -/
def SupplierRanking.Before (ranking : SupplierRanking) (y z : String) : Prop :=
  [y, z].Sublist (ranking.ranked.map (·.supplierId))

/-! ## Maxima -/

theorem largest_spec {xs : List ℚ} (h : xs ≠ []) (default : ℚ) :
    largest xs default ∈ xs ∧ ∀ x ∈ xs, x ≤ largest xs default := by
  obtain ⟨top, htop⟩ := Option.isSome_iff_exists.mp (List.isSome_max?_iff.mpr h)
  obtain ⟨hmem, hle⟩ := List.max?_eq_some_iff.mp htop
  rw [largest, htop]
  exact ⟨hmem, hle⟩

/-- What an improved supplier does to a maximum over all of them: it falls at most, and it falls only
when the supplier carried it. -/
structure Lowered (value value' top top' : ℚ) : Prop where
  le_top : value ≤ top
  le_top' : value' ≤ top'
  falls : top' ≤ top
  carried : value = top ∨ top' = top

/-- A larger share of the maximum for what stays, a smaller one for what improves. -/
theorem share_mono {value top top' : ℚ} (hvalue : 0 ≤ value) (hle : value ≤ top') (hfalls : top' ≤ top) :
    clamp (safeDiv value top 1) 0 1 ≤ clamp (safeDiv value top' 1) 0 1 := by
  rcases (hvalue.trans hle).eq_or_lt with hzero | hpos
  · have hone : clamp (safeDiv value top' 1) 0 1 = 1 := by
      rw [safeDiv, if_pos hzero.symm, clamp, min_self, max_eq_right (by norm_num)]
    rw [hone]
    exact clamp_le (by norm_num) _
  · apply clamp_mono
    rw [safeDiv_of_pos hpos, safeDiv_of_pos (hpos.trans_le hfalls)]
    exact div_le_div_of_nonneg_left hvalue hpos hfalls

theorem share_lowered {value value' top top' : ℚ} (hvalue : 0 ≤ value') (hle : value' ≤ value)
    (h : Lowered value value' top top') :
    clamp (safeDiv value' top' 1) 0 1 ≤ clamp (safeDiv value top 1) 0 1 := by
  rcases h.carried with htop | hsame
  · -- the share of the supplier that carries the maximum is one
    have hone : clamp (safeDiv value top 1) 0 1 = 1 := by
      unfold safeDiv
      split_ifs with hzero
      · rw [clamp, min_self, max_eq_right (by norm_num)]
      · rw [htop, div_self hzero, clamp, min_self, max_eq_right (by norm_num)]
    rw [hone]
    exact clamp_le (by norm_num) _
  · rw [hsame]
    apply clamp_mono
    unfold safeDiv
    split_ifs
    · exact le_rfl
    · exact div_le_div_of_nonneg_right hle (hvalue.trans (hle.trans h.le_top))

/-! ## Profiles and their places -/

/-- Profiles as the callers build them: under their own names, with positive lead times and costs that
are not negative. -/
structure ValidProfiles (profiles : Dict String SupplierProfile) : Prop where
  keyed : profiles.KeyedBy (·.supplierId)
  lead_pos : ∀ c item, profiles.get? c = some item → 0 < item.leadTimeDays
  cost_nonneg : ∀ c item, profiles.get? c = some item → 0 ≤ item.unitCost.minorUnits

/-- A supplier that fills more, or delivers sooner, or costs less. -/
structure Improved (p q : SupplierProfile) : Prop where
  same : q.supplierId = p.supplierId
  fill : p.fillRate ≤ q.fillRate
  lead_pos : 0 < q.leadTimeDays
  lead : q.leadTimeDays ≤ p.leadTimeDays
  cost_nonneg : 0 ≤ q.unitCost.minorUnits
  cost : q.unitCost.minorUnits ≤ p.unitCost.minorUnits

section Places

variable {candidates : List String} {profiles : Dict String SupplierProfile}

theorem mem_profiledOf {item : SupplierProfile} :
    item ∈ profiledOf candidates profiles ↔ ∃ c ∈ candidates, profiles.get? c = some item :=
  List.mem_filterMap

theorem map_supplierId_profiledOf (hkeyed : profiles.KeyedBy (·.supplierId)) :
    (profiledOf candidates profiles).map (·.supplierId)
      = candidates.filter fun c => profiles.contains c := by
  induction candidates with
  | nil => rfl
  | cons c rest ih =>
    unfold profiledOf at ih ⊢
    cases hget : profiles.get? c with
    | none =>
      have hnot : profiles.contains c = false := (profiles.contains_eq_false_iff c).mpr hget
      rw [List.filterMap_cons_none hget, List.filter_cons_of_neg (by simp [hnot]), ih]
    | some item =>
      have hin : profiles.contains c = true := (profiles.contains_iff c).mpr ⟨item, hget⟩
      have hname : c = item.supplierId := hkeyed c item hget
      rw [List.filterMap_cons_some hget, List.filter_cons_of_pos hin, List.map_cons, ih, ← hname]

theorem nodup_related (graph : RelationStore) (node : String) (predicate : Option String) :
    (graph.related node predicate).Nodup :=
  (sortedBy_perm id _).nodup_iff.mpr (List.nodup_dedup _)

/-- The sort key of a supplier. -/
def supplierKey (leadMax costMax : ℚ) (item : SupplierProfile) : Lex (ℚ × String) :=
  toLex (-weightedScore leadMax costMax item, item.supplierId)

/-- The sort key of a supplier among the profiled candidates. -/
def keyIn (candidates : List String) (profiles : Dict String SupplierProfile)
    (item : SupplierProfile) : Lex (ℚ × String) :=
  supplierKey (leadMaxOf (profiledOf candidates profiles)) (costMaxOf (profiledOf candidates profiles))
    item

theorem supplierId_eq_of_keyIn_eq {a b : SupplierProfile}
    (h : keyIn candidates profiles a = keyIn candidates profiles b) : a.supplierId = b.supplierId :=
  (Prod.ext_iff.mp (toLex.injective h)).2

theorem nodup_profiledOf (hnodup : candidates.Nodup) (hkeyed : profiles.KeyedBy (·.supplierId)) :
    ((profiledOf candidates profiles).map (·.supplierId)).Nodup := by
  rw [map_supplierId_profiledOf hkeyed]
  exact hnodup.filter _

theorem map_supplierId_ranked (sku : String) (graph : RelationStore)
    (profiles : Dict String SupplierProfile) :
    (recommendSuppliers sku graph profiles).ranked.map (·.supplierId)
      = (sortedBy (keyIn (graph.related ("sku:" ++ sku) (some "supplied_by")) profiles)
          (profiledOf (graph.related ("sku:" ++ sku) (some "supplied_by")) profiles)).map
        (·.supplierId) := by
  generalize hcandidates : graph.related ("sku:" ++ sku) (some "supplied_by") = candidates
  unfold recommendSuppliers
  dsimp only
  rw [hcandidates, sortedBy_map, List.map_map]
  rfl

/-- The place of a profiled candidate counts the candidates with a smaller key. -/
theorem idxOf_ranked (hnodup : candidates.Nodup) (hkeyed : profiles.KeyedBy (·.supplierId))
    {x : String} {p : SupplierProfile} (hx : x ∈ candidates) (hget : profiles.get? x = some p) :
    ((sortedBy (keyIn candidates profiles) (profiledOf candidates profiles)).map
        (·.supplierId)).idxOf x
      = candidates.countP fun c => ((profiles.get? c).map fun item =>
          decide (keyIn candidates profiles item < keyIn candidates profiles p)).getD false := by
  have hplace := idxOf_sortedBy (nodup_profiledOf hnodup hkeyed)
    (fun a _ b _ => @supplierId_eq_of_keyIn_eq candidates profiles a b)
    (mem_profiledOf.mpr ⟨x, hx, hget⟩)
  have hname : x = p.supplierId := hkeyed x p hget
  rw [hname, hplace]
  exact List.countP_filterMap

theorem before_iff (hnodup : candidates.Nodup) (hkeyed : profiles.KeyedBy (·.supplierId))
    (y z : String) :
    [y, z].Sublist ((sortedBy (keyIn candidates profiles) (profiledOf candidates profiles)).map
        (·.supplierId)) ↔
      ∃ a b, y ∈ candidates ∧ z ∈ candidates ∧ profiles.get? y = some a ∧ profiles.get? z = some b ∧
        keyIn candidates profiles a < keyIn candidates profiles b := by
  have hiff := pair_sublist_map_iff (nodup_profiledOf hnodup hkeyed)
    (fun a _ b _ => @supplierId_eq_of_keyIn_eq candidates profiles a b) y z
  rw [hiff]
  constructor
  · rintro ⟨a, ha, b, hb, rfl, rfl, hlt⟩
    obtain ⟨c, hc, hcget⟩ := mem_profiledOf.mp ha
    obtain ⟨d, hd, hdget⟩ := mem_profiledOf.mp hb
    obtain rfl : c = a.supplierId := hkeyed c a hcget
    obtain rfl : d = b.supplierId := hkeyed d b hdget
    exact ⟨a, b, hc, hd, hcget, hdget, hlt⟩
  · rintro ⟨a, b, hy, hz, hyget, hzget, hlt⟩
    exact ⟨a, mem_profiledOf.mpr ⟨y, hy, hyget⟩, b, mem_profiledOf.mpr ⟨z, hz, hzget⟩,
      (hkeyed y a hyget).symm, (hkeyed z b hzget).symm, hlt⟩

end Places

/-! ## Improving one supplier -/

section Improving

variable {candidates : List String} {profiles : Dict String SupplierProfile} {x : String}
  {p q : SupplierProfile}

theorem validProfiles_empty : ValidProfiles Dict.empty :=
  ⟨Dict.keyedBy_empty _, fun _ _ h => (nomatch h), fun _ _ h => (nomatch h)⟩

theorem ValidProfiles.add (hv : ValidProfiles profiles) (item : SupplierProfile)
    (hlead : 0 < item.leadTimeDays) (hcost : 0 ≤ item.unitCost.minorUnits) :
    ValidProfiles (profiles.set item.supplierId item) := by
  have hcases : ∀ c other, (profiles.set item.supplierId item).get? c = some other →
      item = other ∨ profiles.get? c = some other := by
    intro c other hget
    rw [Dict.get?_set] at hget
    split_ifs at hget with hc
    · exact .inl (Option.some.inj hget)
    · exact .inr hget
  constructor
  · exact Dict.keyedBy_set hv.keyed item
  · intro c other hget
    rcases hcases c other hget with rfl | hold
    · exact hlead
    · exact hv.lead_pos c other hold
  · intro c other hget
    rcases hcases c other hget with rfl | hold
    · exact hcost
    · exact hv.cost_nonneg c other hold

theorem ValidProfiles.set (hv : ValidProfiles profiles) (hx : profiles.get? x = some p)
    (h : Improved p q) : ValidProfiles (profiles.set x q) := by
  have hname : x = q.supplierId := (hv.keyed x p hx).trans h.same.symm
  rw [hname]
  exact hv.add q h.lead_pos h.cost_nonneg

/-- A maximum over the profiled candidates, when one of them gets a smaller value. -/
theorem lowered_largest (f : SupplierProfile → ℚ) (hx : x ∈ candidates)
    (hget : profiles.get? x = some p) (hle : f q ≤ f p) :
    Lowered (f p) (f q) (largest ((profiledOf candidates profiles).map f) 1)
      (largest ((profiledOf candidates (profiles.set x q)).map f) 1) := by
  have hp : f p ∈ (profiledOf candidates profiles).map f :=
    List.mem_map_of_mem (mem_profiledOf.mpr ⟨x, hx, hget⟩)
  have hq : f q ∈ (profiledOf candidates (profiles.set x q)).map f :=
    List.mem_map_of_mem (mem_profiledOf.mpr ⟨x, hx, profiles.get?_set_self x q⟩)
  obtain ⟨hmem, htop⟩ := largest_spec (List.ne_nil_of_mem hp) 1
  obtain ⟨hmem', htop'⟩ := largest_spec (List.ne_nil_of_mem hq) 1
  have hfalls : largest ((profiledOf candidates (profiles.set x q)).map f) 1
      ≤ largest ((profiledOf candidates profiles).map f) 1 := by
    obtain ⟨item, hitem, hvalue⟩ := List.mem_map.mp hmem'
    obtain ⟨c, hc, hcget⟩ := mem_profiledOf.mp hitem
    rw [← hvalue]
    by_cases hcx : x = c
    · rw [Dict.get?_set, if_pos hcx, Option.some.injEq] at hcget
      rw [← hcget]
      exact hle.trans (htop _ hp)
    · rw [Dict.get?_set_ne _ hcx] at hcget
      exact htop _ (List.mem_map_of_mem (mem_profiledOf.mpr ⟨c, hc, hcget⟩))
  refine ⟨htop _ hp, htop' _ hq, hfalls, ?_⟩
  obtain ⟨item, hitem, hvalue⟩ := List.mem_map.mp hmem
  obtain ⟨c, hc, hcget⟩ := mem_profiledOf.mp hitem
  by_cases hcx : x = c
  · left
    rw [← hcx, hget, Option.some.injEq] at hcget
    rw [hcget, hvalue]
  · right
    rw [← Dict.get?_set_ne _ hcx q] at hcget
    refine le_antisymm hfalls ?_
    rw [← hvalue]
    exact htop' _ (List.mem_map_of_mem (mem_profiledOf.mpr ⟨c, hc, hcget⟩))

/-- What raises a score: a better fill rate and smaller shares of the maxima. -/
theorem weightedScore_mono {leadMax costMax leadMax' costMax' : ℚ} {a b : SupplierProfile}
    (hfill : a.fillRate ≤ b.fillRate)
    (hlead : clamp (safeDiv b.leadTimeDays leadMax' 1) 0 1
      ≤ clamp (safeDiv a.leadTimeDays leadMax 1) 0 1)
    (hcost : clamp (safeDiv b.unitCost.minorUnits costMax' 1) 0 1
      ≤ clamp (safeDiv a.unitCost.minorUnits costMax 1) 0 1) :
    weightedScore leadMax costMax a ≤ weightedScore leadMax' costMax' b := by
  have hshare : clamp a.fillRate 0 1 ≤ clamp b.fillRate 0 1 := clamp_mono hfill
  apply q2_mono
  linarith

theorem supplierKey_le {leadMax costMax leadMax' costMax' : ℚ} {a b : SupplierProfile}
    (hname : a.supplierId = b.supplierId)
    (h : weightedScore leadMax costMax a ≤ weightedScore leadMax' costMax' b) :
    supplierKey leadMax' costMax' b ≤ supplierKey leadMax costMax a := by
  unfold supplierKey
  rw [hname]
  rcases h.lt_or_eq with hlt | heq
  · exact Prod.Lex.toLex_le_toLex.mpr (.inl (neg_lt_neg hlt))
  · exact Prod.Lex.toLex_le_toLex.mpr (.inr ⟨congrArg Neg.neg heq.symm, le_rfl⟩)

/-- The improved supplier gets a smaller key, the others get larger ones. -/
theorem keyIn_improved (hv : ValidProfiles profiles) (hx : x ∈ candidates)
    (hget : profiles.get? x = some p) (h : Improved p q) :
    keyIn candidates (profiles.set x q) q ≤ keyIn candidates profiles p ∧
      ∀ c ∈ candidates, x ≠ c → ∀ item, profiles.get? c = some item →
        keyIn candidates profiles item ≤ keyIn candidates (profiles.set x q) item := by
  have hcostLe : (q.unitCost.minorUnits : ℚ) ≤ p.unitCost.minorUnits := Int.cast_le.mpr h.cost
  have hlead := lowered_largest (·.leadTimeDays) hx hget h.lead
  have hcost := lowered_largest (fun item => (item.unitCost.minorUnits : ℚ)) hx hget hcostLe
  constructor
  · refine supplierKey_le h.same.symm (weightedScore_mono h.fill ?_ ?_)
    · exact share_lowered h.lead_pos.le h.lead hlead
    · exact share_lowered (Int.cast_nonneg h.cost_nonneg) hcostLe hcost
  · intro c hc hcx item hitem
    have hmem : item ∈ profiledOf candidates (profiles.set x q) :=
      mem_profiledOf.mpr ⟨c, hc, by rw [Dict.get?_set_ne _ hcx, hitem]⟩
    refine supplierKey_le rfl (weightedScore_mono le_rfl ?_ ?_)
    · refine share_mono (hv.lead_pos c item hitem).le ?_ hlead.falls
      have hin := List.mem_map_of_mem (f := fun item : SupplierProfile => item.leadTimeDays) hmem
      exact (largest_spec (List.ne_nil_of_mem hin) 1).2 _ hin
    · refine share_mono (Int.cast_nonneg (hv.cost_nonneg c item hitem)) ?_ hcost.falls
      have hin := List.mem_map_of_mem
        (f := fun item : SupplierProfile => (item.unitCost.minorUnits : ℚ)) hmem
      exact (largest_spec (List.ne_nil_of_mem hin) 1).2 _ hin

/-- A supplier carries the longest lead time or the highest cost of the profiled candidates. -/
def CarriesMaximum (sku : String) (graph : RelationStore) (profiles : Dict String SupplierProfile)
    (item : SupplierProfile) : Prop :=
  let profiled := profiledOf (graph.related ("sku:" ++ sku) (some "supplied_by")) profiles
  item.leadTimeDays = leadMaxOf profiled ∨ item.unitCost.minorUnits = costMaxOf profiled

/-- A profile that is no candidate does not matter. -/
theorem profiledOf_set_of_notMem (hx : x ∉ candidates) (q : SupplierProfile) :
    profiledOf candidates (profiles.set x q) = profiledOf candidates profiles :=
  List.filterMap_congr fun _ hc => Dict.get?_set_ne _ (ne_of_mem_of_not_mem hc hx).symm q

/-- An improved supplier rises or stays, and the order of two others changes only when it carried a
maximum. -/
theorem recommendSuppliers_improved (sku : String) (graph : RelationStore)
    (hv : ValidProfiles profiles) (hget : profiles.get? x = some p) (h : Improved p q) :
    (recommendSuppliers sku graph (profiles.set x q)).position x
        ≤ (recommendSuppliers sku graph profiles).position x ∧
      ∀ y z, y ≠ x → z ≠ x →
        ¬ ((recommendSuppliers sku graph profiles).Before y z ↔
            (recommendSuppliers sku graph (profiles.set x q)).Before y z) →
        CarriesMaximum sku graph profiles p := by
  have hnodup := nodup_related graph ("sku:" ++ sku) (some "supplied_by")
  have hv' := hv.set hget h
  simp only [SupplierRanking.position, SupplierRanking.Before, map_supplierId_ranked, CarriesMaximum]
  generalize graph.related ("sku:" ++ sku) (some "supplied_by") = candidates at hnodup
  by_cases hx : x ∈ candidates
  · obtain ⟨hown, hothers⟩ := keyIn_improved hv hx hget h
    constructor
    · rw [idxOf_ranked hnodup hv.keyed hx hget,
        idxOf_ranked hnodup hv'.keyed hx (profiles.get?_set_self x q)]
      apply List.countP_mono_left
      intro c hc hcounted
      by_cases hcx : x = c
      · rw [← hcx, Dict.get?_set_self] at hcounted
        exact absurd (of_decide_eq_true hcounted) (lt_irrefl _)
      · rw [Dict.get?_set_ne _ hcx] at hcounted
        cases hitem : profiles.get? c with
        | none =>
          rw [hitem] at hcounted
          cases hcounted
        | some item =>
          rw [hitem] at hcounted
          have hlt := of_decide_eq_true hcounted
          exact decide_eq_true ((hothers c hc hcx item hitem).trans_lt (hlt.trans_le hown))
    · intro y z hy hz hchanged
      by_contra hnone
      obtain ⟨hnotLead, hnotCost⟩ := not_or.mp hnone
      refine hchanged ?_
      -- without a maximum that falls the keys of the others stay
      have hcostLe : (q.unitCost.minorUnits : ℚ) ≤ p.unitCost.minorUnits := Int.cast_le.mpr h.cost
      have hlead := (lowered_largest (·.leadTimeDays) hx hget h.lead).carried.resolve_left hnotLead
      have hcost := (lowered_largest (fun item => (item.unitCost.minorUnits : ℚ)) hx hget
        hcostLe).carried.resolve_left hnotCost
      have hkey : ∀ item, keyIn candidates (profiles.set x q) item = keyIn candidates profiles item := by
        intro item
        unfold keyIn leadMaxOf costMaxOf
        rw [hlead, hcost]
      rw [before_iff hnodup hv.keyed, before_iff hnodup hv'.keyed, Dict.get?_set_ne _ hy.symm,
        Dict.get?_set_ne _ hz.symm]
      simp only [hkey]
  · have hsame : profiledOf candidates (profiles.set x q) = profiledOf candidates profiles :=
      profiledOf_set_of_notMem hx q
    have hkey : keyIn candidates (profiles.set x q) = keyIn candidates profiles := by
      funext item
      unfold keyIn
      rw [hsame]
    rw [hsame, hkey]
    exact ⟨le_rfl, fun y z _ _ hchanged => absurd Iff.rfl hchanged⟩

/-- Two suppliers of one product. -/
def swift : SupplierProfile := ⟨"swift", 2, 1, ⟨500, "ZAR"⟩⟩

@[inherit_doc swift]
def tardy : SupplierProfile := ⟨"tardy", 6, 1, ⟨500, "ZAR"⟩⟩

/-- The two suppliers under their names. -/
def twoProfiles : Dict String SupplierProfile :=
  (Dict.empty.set swift.supplierId swift).set tardy.supplierId tardy

/-- The product and its two suppliers. -/
def twoSuppliers : RelationStore := ⟨Dict.empty.set "sku:4011"
  [⟨"sku:4011", "supplied_by", "swift"⟩, ⟨"sku:4011", "supplied_by", "tardy"⟩]⟩

/-- The slower one, when it delivers the next day. -/
def prompt : SupplierProfile := ⟨"tardy", 1, 1, ⟨500, "ZAR"⟩⟩

theorem validProfiles_two : ValidProfiles twoProfiles :=
  (validProfiles_empty.add swift (by norm_num [swift]) (by norm_num [swift])).add tardy
    (by norm_num [tardy]) (by norm_num [tardy])

theorem improved_prompt : Improved tardy prompt where
  same := rfl
  fill := le_rfl
  lead_pos := by norm_num [prompt]
  lead := by norm_num [prompt, tardy]
  cost_nonneg := by norm_num [prompt]
  cost := le_rfl

/-- The slower supplier delivers sooner. -/
theorem sooner_delivery_ranked :
    (recommendSuppliers "4011" twoSuppliers
        (twoProfiles.set tardy.supplierId prompt)).position tardy.supplierId
      ≤ (recommendSuppliers "4011" twoSuppliers twoProfiles).position tardy.supplierId :=
  (recommendSuppliers_improved "4011" twoSuppliers validProfiles_two (Dict.get?_set_self _ _ _)
    improved_prompt).1

end Improving

end ShelfWise.Science.Exact
