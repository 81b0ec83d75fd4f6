import ShelfWise.Science.Exact

/-!
# Sourcing plans

`plan_stock_sourcing` of `shelfwise_decision_science.sourcing`, with decimals taken as rationals. An
unknown cost ranks as zero, equal keys keep the order of the list, and every tie in time and distance
is put down to a lower cost. `plan_truthful_iff` says for which candidates the plan is true and the
same in every order.
-/

namespace ShelfWise.Science.Exact

open Py

/-! ## Candidates -/

/-- The keys of `_SOURCE_KINDS`. -/
inductive SourceType where
  | branch
  | distributionCenter
  | supplier
deriving DecidableEq

/-- The source type of a text. -/
def SourceType.ofText (text : String) : Option SourceType :=
  if text = "branch" then some .branch
  else if text = "distribution_center" then some .distributionCenter
  else if text = "supplier" then some .supplier
  else none

/-- `_SOURCE_KINDS`. -/
def sourceKind : SourceType → String
  | .branch => "branch"
  | .distributionCenter => "regional distribution centre"
  | .supplier => "supplier"

/-- `_ACTION_FOR_KIND`. -/
def actionForKind : SourceType → String
  | .branch => "transfer_from_branch"
  | .distributionCenter => "transfer_from_distribution_center"
  | .supplier => "expedite_supplier_order"

/-- `RankedStockSource`. -/
structure RankedStockSource where
  sourceType : SourceType
  sourceId : String
  availableUnits : ℤ
  distanceKm : ℚ
  leadTimeHours : ℚ
  unitCost : Option ℚ
deriving DecidableEq

/-- `StockSourceCandidate`, with what its checks leave. -/
structure StockSourceCandidate extends RankedStockSource where
  available_nonneg : 0 ≤ availableUnits
  distance_nonneg : 0 ≤ distanceKm
  leadTime_pos : 0 < leadTimeHours
deriving DecidableEq

/-- `StockSourceCandidate.__post_init__`. -/
def StockSourceCandidate.make (sourceType sourceId : String) (availableUnits : ℤ)
    (distanceKm leadTimeHours : ℚ) (unitCost : Option ℚ) : Except Exc StockSourceCandidate :=
  match SourceType.ofText sourceType with
  | none => .error (.valueError ("unknown source_type: " ++ sourceType))
  | some kind =>
    if havailable : availableUnits < 0 then
      .error (.valueError "available_units cannot be negative")
    else if hdistance : distanceKm < 0 then .error (.valueError "distance_km cannot be negative")
    else if hlead : leadTimeHours ≤ 0 then .error (.valueError "lead_time_hours must be positive")
    else
      .ok
        { sourceType := kind
          sourceId := sourceId
          availableUnits := availableUnits
          distanceKm := distanceKm
          leadTimeHours := leadTimeHours
          unitCost := unitCost
          available_nonneg := not_lt.mp havailable
          distance_nonneg := not_lt.mp hdistance
          leadTime_pos := not_le.mp hlead }

/-! ## Ranking -/

/-- The key of the ranking: the lead time, the distance, the cost, which is zero when it is unknown, and
the identifier. -/
def rankKey (item : RankedStockSource) : Lex (ℚ × Lex (ℚ × Lex (ℚ × String))) :=
  toLex (item.leadTimeHours, toLex (item.distanceKm, toLex (item.unitCost.getD 0, item.sourceId)))

/-- The candidates with stock. -/
def eligible (candidates : List StockSourceCandidate) : List StockSourceCandidate :=
  candidates.filter fun candidate => 0 < candidate.availableUnits

/-- The ranked sources. -/
def rankedSources (candidates : List StockSourceCandidate) : List RankedStockSource :=
  (sortedBy (fun candidate => rankKey candidate.toRankedStockSource) (eligible candidates)).map
    StockSourceCandidate.toRankedStockSource

/-! ## The plan -/

/-- A rational in whole hundredths. -/
def hundredthsOf (x : ℚ) : ℤ :=
  Sys.Rounding.rounded (Decimal.Rounding.up .halfUp) (x / 10 ^ (-2 : ℤ))

/-- `f"{q2(x)}"`. -/
def shown (x : ℚ) : Except Exc String :=
  if (hundredthsOf x).natAbs < 10 ^ 28 then
    .ok (Decimal.finite (hundredthsOf x < 0) (hundredthsOf x).natAbs (-2)).str
  else .error Decimal.invalidOperation

/-- On a decimal that is not negative it is what `q2` shows. -/
theorem shown_toRat (coefficient : ℕ) (exponent : ℤ) :
    (do
      let hundredths ← (Decimal.finite false coefficient exponent).q2
      .ok hundredths.str) = shown (Decimal.finite false coefficient exponent).toRat := by
  have hvalue : (Decimal.finite false coefficient exponent).toRat = coefficient * 10 ^ exponent := by
    simp only [Decimal.toRat, Bool.false_eq_true, if_false, one_mul]
  have hunits : hundredthsOf (Decimal.finite false coefficient exponent).toRat =
      Decimal.unitsOf .halfUp coefficient exponent (-2) := by
    rw [Decimal.cast_unitsOf, hundredthsOf, hvalue]
    exact Sys.Rounding.rounded_of_nonneg _ (by positivity)
  have hpositive : ¬ ((Decimal.unitsOf .halfUp coefficient exponent (-2) : ℕ) : ℤ) < 0 := by omega
  unfold shown Decimal.q2 Decimal.quantize
  rw [hunits, Int.natAbs_natCast, decide_eq_false hpositive]
  dsimp only
  have hprecision : Decimal.precision = 28 := rfl
  rw [hprecision]
  split_ifs <;> rfl

/-- `StockSourcingPlan`. -/
structure StockSourcingPlan where
  sku : String
  unitsNeeded : ℤ
  candidatesConsidered : ℕ
  eligibleConsidered : ℕ
  selectedSourceType : Option SourceType
  selectedSourceId : Option String
  unitsSourced : ℤ
  remainingGapUnits : ℤ
  recommendedAction : String
  conclusion : String
  ranked : List RankedStockSource
deriving DecidableEq

/-- What is said for the best source against the next one. -/
inductive Advantage where
  | faster
  | closer
  | cheaper
deriving DecidableEq

/-- The cascade that chooses what is said. -/
def advantageOf (best runnerUp : RankedStockSource) : Advantage :=
  if runnerUp.leadTimeHours ≠ best.leadTimeHours then .faster
  else if runnerUp.distanceKm ≠ best.distanceKm then .closer
  else .cheaper

/-- The comparison of the best source with the next one. -/
def comparison (runnerUp : RankedStockSource) : Advantage → Except Exc String
  | .faster => do
    let hours ← shown runnerUp.leadTimeHours
    .ok (", chosen over " ++ sourceKind runnerUp.sourceType ++ " " ++ runnerUp.sourceId ++ " (" ++ hours
      ++ "h away) for a faster delivery")
  | .closer => .ok (", chosen over " ++ sourceKind runnerUp.sourceType ++ " " ++ runnerUp.sourceId
      ++ " for being closer")
  | .cheaper => .ok (", chosen over " ++ sourceKind runnerUp.sourceType ++ " " ++ runnerUp.sourceId
      ++ " for a lower cost")

/-- The comparison with what comes behind the best source. -/
def comparisonWith (best : RankedStockSource) : List RankedStockSource → Except Exc String
  | [] => .ok ""
  | runnerUp :: _ => comparison runnerUp (advantageOf best runnerUp)

/-- The reason for the best source. -/
def reasonFor (best : RankedStockSource) : Except Exc String := do
  let distance ← shown best.distanceKm
  let hours ← shown best.leadTimeHours
  .ok ("has " ++ toString best.availableUnits ++ " units on hand, is " ++ distance
    ++ " km away, and can deliver in " ++ hours ++ " hours")

/-- The conclusion of a plan with a source. -/
def conclusionOf (sku : String) (unitsNeeded unitsSourced remaining : ℤ) (best : RankedStockSource)
    (reason comparison : String) : String :=
  "Source " ++ toString unitsSourced ++ " of the " ++ toString unitsNeeded ++ " units of " ++ sku
    ++ " needed from " ++ sourceKind best.sourceType ++ " " ++ best.sourceId ++ ": it " ++ reason
    ++ comparison ++ "."
    ++ (if 0 < remaining then " That only covers " ++ toString unitsSourced ++ " of "
          ++ toString unitsNeeded ++ " units - place a purchase order for the remaining "
          ++ toString remaining ++ " units." else "")

/-- The conclusion of a plan without a source. -/
def noStockConclusion (sku : String) (unitsNeeded : ℤ) (considered : ℕ) : String :=
  "Checked " ++ toString considered ++ " possible source(s) for " ++ sku ++ " (branches, the regional "
    ++ "distribution centre, and suppliers) and none has any stock available right now - place a "
    ++ "purchase order for the full " ++ toString unitsNeeded ++ " units needed."

/-- The plan of ranked sources. -/
def planOf (sku : String) (unitsNeeded : ℤ) (considered : ℕ) :
    List RankedStockSource → Except Exc StockSourcingPlan
  | [] =>
    .ok
      { sku := sku
        unitsNeeded := unitsNeeded
        candidatesConsidered := considered
        eligibleConsidered := 0
        selectedSourceType := none
        selectedSourceId := none
        unitsSourced := 0
        remainingGapUnits := unitsNeeded
        recommendedAction := "place_purchase_order"
        conclusion := noStockConclusion sku unitsNeeded considered
        ranked := [] }
  | best :: rest => do
    let unitsSourced := min best.availableUnits unitsNeeded
    let remaining := unitsNeeded - unitsSourced
    let reason ← reasonFor best
    let comparison ← comparisonWith best rest
    .ok
      { sku := sku
        unitsNeeded := unitsNeeded
        candidatesConsidered := considered
        eligibleConsidered := (best :: rest).length
        selectedSourceType := some best.sourceType
        selectedSourceId := some best.sourceId
        unitsSourced := unitsSourced
        remainingGapUnits := remaining
        recommendedAction :=
          if 0 < remaining then actionForKind best.sourceType ++ "_and_purchase_order_remainder"
          else actionForKind best.sourceType
        conclusion := conclusionOf sku unitsNeeded unitsSourced remaining best reason comparison
        ranked := best :: rest }

/-- `plan_stock_sourcing`. -/
def planStockSourcing (sku : String) (unitsNeeded : ℤ) (candidates : List StockSourceCandidate) :
    Except Exc StockSourcingPlan :=
  if unitsNeeded ≤ 0 then .error (.valueError "units_needed must be positive")
  else planOf sku unitsNeeded candidates.length (rankedSources candidates)

/-! ## What a plan promises -/

/-- Better in the lead time, the distance and the cost, as far as both costs are known. -/
def Better (a b : RankedStockSource) : Prop :=
  a.leadTimeHours < b.leadTimeHours ∨ a.leadTimeHours = b.leadTimeHours ∧
    (a.distanceKm < b.distanceKm ∨ a.distanceKm = b.distanceKm ∧
      ∃ cost ∈ a.unitCost, ∃ other ∈ b.unitCost, cost < other)

/-- What is said is strictly true of the two sources. -/
def Advantage.Holds (best runnerUp : RankedStockSource) : Advantage → Prop
  | .faster => best.leadTimeHours < runnerUp.leadTimeHours
  | .closer => best.distanceKm < runnerUp.distanceKm
  | .cheaper => ∃ cost ∈ best.unitCost, ∃ other ∈ runnerUp.unitCost, cost < other

/-- A plan is true of its candidates. -/
structure Truthful (candidates : List StockSourceCandidate) (unitsNeeded : ℤ)
    (plan : StockSourcingPlan) : Prop where
  gap : plan.unitsSourced + plan.remainingGapUnits = unitsNeeded
  selected : plan.selectedSourceType = plan.ranked.head?.map (·.sourceType) ∧
    plan.selectedSourceId = plan.ranked.head?.map (·.sourceId)
  stocked : ∀ best ∈ plan.ranked.head?, ∃ candidate ∈ candidates,
    candidate.toRankedStockSource = best ∧ 0 < best.availableUnits
  unbeaten : ∀ best ∈ plan.ranked.head?, ∀ candidate ∈ candidates, 0 < candidate.availableUnits →
    ¬ Better candidate.toRankedStockSource best
  stated : ∀ best runnerUp rest, plan.ranked = best :: runnerUp :: rest →
    (advantageOf best runnerUp).Holds best runnerUp

/-- What `q2` can show of a value. -/
def Fits (x : ℚ) : Prop := (hundredthsOf x).natAbs < 10 ^ 28

/-- One of the candidates with stock that come first. -/
def First (candidates : List StockSourceCandidate) (first : StockSourceCandidate) : Prop :=
  first ∈ eligible candidates ∧ ∀ other ∈ eligible candidates,
    rankKey first.toRankedStockSource ≤ rankKey other.toRankedStockSource

/-- Two of the candidates with stock, before which no others come. -/
def FirstTwo (candidates : List StockSourceCandidate) (first second : StockSourceCandidate) : Prop :=
  ∃ rest, (eligible candidates).Perm (first :: second :: rest) ∧
    rankKey first.toRankedStockSource ≤ rankKey second.toRankedStockSource ∧
      ∀ other ∈ rest, rankKey second.toRankedStockSource ≤ rankKey other.toRankedStockSource

/-- The candidates with stock are told apart, the two at the front by what is said of them, and what is
said can be shown. -/
structure ToldApart (candidates : List StockSourceCandidate) : Prop where
  keys : ∀ a ∈ eligible candidates, ∀ b ∈ eligible candidates,
    rankKey a.toRankedStockSource = rankKey b.toRankedStockSource → a = b
  costs : ∀ first second, FirstTwo candidates first second →
    first.leadTimeHours = second.leadTimeHours → first.distanceKm = second.distanceKm →
      ∃ cost ∈ first.unitCost, ∃ other ∈ second.unitCost, cost ≠ other
  first : ∀ first, First candidates first → Fits first.distanceKm ∧ Fits first.leadTimeHours
  second : ∀ first second, FirstTwo candidates first second →
    first.leadTimeHours ≠ second.leadTimeHours → Fits second.leadTimeHours

/-! ## The ranking and the list it is made of -/

section Ranking

variable {candidates other : List StockSourceCandidate} {first second : StockSourceCandidate}
  {rest : List StockSourceCandidate}

/-- The key of a candidate. -/
def keyOf (candidate : StockSourceCandidate) : Lex (ℚ × Lex (ℚ × Lex (ℚ × String))) :=
  rankKey candidate.toRankedStockSource

theorem toRankedStockSource_injective :
    Function.Injective StockSourceCandidate.toRankedStockSource := by
  intro a b h
  cases a
  cases b
  simp only at h
  subst h
  rfl

theorem rankedSources_eq (candidates : List StockSourceCandidate) : rankedSources candidates =
    (sortedBy keyOf (eligible candidates)).map StockSourceCandidate.toRankedStockSource := rfl

/-- What stands first in a sorted list is what has to. -/
theorem sortedBy_eq_cons_iff
    (hkeys : ∀ a ∈ eligible candidates, ∀ b ∈ eligible candidates, keyOf a = keyOf b → a = b) :
    (∃ rest, sortedBy keyOf (eligible candidates) = first :: rest) ↔ First candidates first := by
  have hsorted := pairwise_sortedBy keyOf (eligible candidates)
  constructor
  · rintro ⟨rest, h⟩
    have hmem : first ∈ sortedBy keyOf (eligible candidates) := h ▸ List.mem_cons_self
    refine ⟨mem_sortedBy.mp hmem, fun other hother => ?_⟩
    have hother' : other ∈ sortedBy keyOf (eligible candidates) := mem_sortedBy.mpr hother
    rw [h] at hsorted hother'
    rcases List.mem_cons.mp hother' with rfl | hrest
    · exact le_rfl
    · exact List.rel_of_pairwise_cons hsorted hrest
  · rintro ⟨hmem, hleast⟩
    have hmem' : first ∈ sortedBy keyOf (eligible candidates) := mem_sortedBy.mpr hmem
    cases hlist : sortedBy keyOf (eligible candidates) with
    | nil =>
      rw [hlist] at hmem'
      cases hmem'
    | cons head rest =>
      rw [hlist] at hsorted hmem'
      have hhead : head ∈ eligible candidates := mem_sortedBy.mp (hlist ▸ List.mem_cons_self)
      rcases List.mem_cons.mp hmem' with rfl | hrest
      · exact ⟨rest, rfl⟩
      · have hle : keyOf head ≤ keyOf first := List.rel_of_pairwise_cons hsorted hrest
        obtain rfl := hkeys head hhead first hmem (le_antisymm hle (hleast head hhead))
        exact ⟨rest, rfl⟩

/-- Nor do others stand in the second place. -/
theorem sortedBy_eq_cons_cons_iff
    (hkeys : ∀ a ∈ eligible candidates, ∀ b ∈ eligible candidates, keyOf a = keyOf b → a = b) :
    (∃ rest, sortedBy keyOf (eligible candidates) = first :: second :: rest) ↔
      FirstTwo candidates first second := by
  have hsorted := pairwise_sortedBy keyOf (eligible candidates)
  constructor
  · rintro ⟨rest, h⟩
    have hperm := (sortedBy_perm keyOf (eligible candidates)).symm
    rw [h] at hsorted hperm
    obtain ⟨hfirst, hrest⟩ := List.pairwise_cons.mp hsorted
    exact ⟨rest, hperm, hfirst second List.mem_cons_self, (List.pairwise_cons.mp hrest).1⟩
  · rintro ⟨rest, hperm, hle, hrest⟩
    refine ⟨sortedBy keyOf rest, ?_⟩
    -- the list with its rest sorted is sorted, and of the same elements
    have hpermSorted : (sortedBy keyOf (eligible candidates)).Perm
        (first :: second :: sortedBy keyOf rest) :=
      ((sortedBy_perm keyOf _).trans hperm).trans
        (((sortedBy_perm keyOf rest).symm.cons second).cons first)
    refine hpermSorted.eq_of_pairwise ?_ hsorted ?_
    · intro a b ha hb hab hba
      refine hkeys a (mem_sortedBy.mp ha) b ?_ (le_antisymm hab hba)
      exact mem_sortedBy.mp (hpermSorted.mem_iff.mpr hb)
    · refine List.pairwise_cons.mpr ⟨fun b hb => ?_, List.pairwise_cons.mpr ⟨fun b hb => ?_, ?_⟩⟩
      · rcases List.mem_cons.mp hb with rfl | hb
        · exact hle
        · exact le_trans hle (hrest b (mem_sortedBy.mp hb))
      · exact hrest b (mem_sortedBy.mp hb)
      · exact pairwise_sortedBy keyOf rest

theorem keyOf_le_of_sortedBy (h : sortedBy keyOf (eligible candidates) = first :: second :: rest) :
    keyOf first ≤ keyOf second := by
  have hsorted := pairwise_sortedBy keyOf (eligible candidates)
  rw [h] at hsorted
  exact (List.pairwise_cons.mp hsorted).1 second List.mem_cons_self

/-- A ranking that no arrangement changes tells the candidates with stock apart. -/
theorem keys_of_perm (h : ∀ other, other.Perm candidates → rankedSources other = rankedSources candidates) :
    ∀ a ∈ eligible candidates, ∀ b ∈ eligible candidates, keyOf a = keyOf b → a = b := by
  intro a ha b hb hkey
  by_contra hne
  have ha' := (List.mem_filter.mp ha).1
  have hb' : b ∈ candidates.erase a := (List.mem_erase_of_ne (Ne.symm hne)).mpr (List.mem_filter.mp hb).1
  -- the two of them in front of the others, in both orders
  have hperm : (a :: b :: (candidates.erase a).erase b).Perm candidates :=
    ((List.perm_cons_erase hb').symm.cons a).trans (List.perm_cons_erase ha').symm
  have hranked := (h _ hperm).trans (h _ ((List.Perm.swap a b _).trans hperm)).symm
  rw [rankedSources_eq, rankedSources_eq] at hranked
  have hsorted := toRankedStockSource_injective.list_map hranked
  have hfiltered := congrArg (List.filter fun c => decide (keyOf c = keyOf a)) hsorted
  rw [filter_sortedBy, filter_sortedBy, eligible, eligible] at hfiltered
  have hkb : decide (keyOf b = keyOf a) = true := decide_eq_true hkey.symm
  have hsa := (List.mem_filter.mp ha).2
  have hsb := (List.mem_filter.mp hb).2
  simp only [List.filter_cons, hsa, hsb, hkb, decide_true, if_true, List.cons.injEq] at hfiltered
  exact hne hfiltered.1

end Ranking

/-! ## Plans -/

section Plans

variable {sku : String} {unitsNeeded : ℤ} {considered : ℕ} {candidates : List StockSourceCandidate}
  {best runnerUp : RankedStockSource} {rest : List RankedStockSource} {plan : StockSourcingPlan}

theorem shown_eq_ok_iff (x : ℚ) : (∃ text, shown x = .ok text) ↔ Fits x := by
  unfold shown Fits
  split_ifs with hfits
  · exact ⟨fun _ => hfits, fun _ => ⟨_, rfl⟩⟩
  · exact ⟨fun ⟨_, h⟩ => (nomatch h), fun h => absurd h hfits⟩

theorem reasonFor_eq_ok_iff :
    (∃ reason, reasonFor best = .ok reason) ↔ Fits best.distanceKm ∧ Fits best.leadTimeHours := by
  unfold reasonFor
  rw [← shown_eq_ok_iff, ← shown_eq_ok_iff]
  constructor
  · rintro ⟨reason, h⟩
    obtain ⟨distance, hdistance, h⟩ := bind_eq_ok_iff.mp h
    obtain ⟨hours, hhours, -⟩ := bind_eq_ok_iff.mp h
    exact ⟨⟨distance, hdistance⟩, hours, hhours⟩
  · rintro ⟨⟨distance, hdistance⟩, hours, hhours⟩
    rw [hdistance, hhours]
    exact ⟨_, rfl⟩

theorem comparison_eq_ok_iff (best runnerUp : RankedStockSource) :
    (∃ text, comparison runnerUp (advantageOf best runnerUp) = .ok text) ↔
      (best.leadTimeHours ≠ runnerUp.leadTimeHours → Fits runnerUp.leadTimeHours) := by
  unfold advantageOf
  split_ifs with hlead hdistance
  · rw [← shown_eq_ok_iff]
    constructor
    · rintro ⟨text, h⟩ -
      obtain ⟨hours, hhours, -⟩ := bind_eq_ok_iff.mp h
      exact ⟨hours, hhours⟩
    · intro h
      obtain ⟨hours, hhours⟩ := h (Ne.symm hlead)
      unfold comparison
      rw [hhours]
      exact ⟨_, rfl⟩
  · exact ⟨fun _ hne => absurd (not_not.mp hlead).symm hne, fun _ => ⟨_, rfl⟩⟩
  · exact ⟨fun _ hne => absurd (not_not.mp hlead).symm hne, fun _ => ⟨_, rfl⟩⟩

/-- What a plan of ranked sources reports. -/
structure PlanSpec (unitsNeeded : ℤ) (sources : List RankedStockSource) (plan : StockSourcingPlan) :
    Prop where
  ranked : plan.ranked = sources
  gap : plan.unitsSourced + plan.remainingGapUnits = unitsNeeded
  selected : plan.selectedSourceType = sources.head?.map (·.sourceType) ∧
    plan.selectedSourceId = sources.head?.map (·.sourceId)

theorem planOf_spec {ranked : List RankedStockSource}
    (h : planOf sku unitsNeeded considered ranked = .ok plan) : PlanSpec unitsNeeded ranked plan := by
  cases ranked with
  | nil =>
    cases h
    exact ⟨rfl, zero_add _, rfl, rfl⟩
  | cons best rest =>
    unfold planOf at h
    obtain ⟨reason, -, h⟩ := bind_eq_ok_iff.mp h
    obtain ⟨comparison, -, h⟩ := bind_eq_ok_iff.mp h
    cases h
    exact ⟨rfl, add_sub_cancel _ _, rfl, rfl⟩

/-- A plan can be shown when what is said in it can. -/
theorem planOf_eq_ok_iff {ranked : List RankedStockSource} :
    (∃ plan, planOf sku unitsNeeded considered ranked = .ok plan) ↔
      (∀ best rest, ranked = best :: rest → Fits best.distanceKm ∧ Fits best.leadTimeHours) ∧
        ∀ best runnerUp rest, ranked = best :: runnerUp :: rest →
          best.leadTimeHours ≠ runnerUp.leadTimeHours → Fits runnerUp.leadTimeHours := by
  cases ranked with
  | nil => exact ⟨fun _ => ⟨fun _ _ h => (nomatch h), fun _ _ _ h => (nomatch h)⟩, fun _ => ⟨_, rfl⟩⟩
  | cons best rest =>
    unfold planOf
    constructor
    · rintro ⟨plan, h⟩
      obtain ⟨reason, hreason, h⟩ := bind_eq_ok_iff.mp h
      obtain ⟨text, htext, -⟩ := bind_eq_ok_iff.mp h
      refine ⟨fun first others heq => ?_, fun first second others heq => ?_⟩
      · cases heq
        exact reasonFor_eq_ok_iff.mp ⟨reason, hreason⟩
      · cases heq
        exact (comparison_eq_ok_iff best second).mp ⟨text, htext⟩
    · rintro ⟨hfirst, hsecond⟩
      obtain ⟨reason, hreason⟩ := reasonFor_eq_ok_iff.mpr (hfirst best rest rfl)
      have hcomparison : ∃ text, comparisonWith best rest = .ok text := by
        cases rest with
        | nil => exact ⟨"", rfl⟩
        | cons runnerUp others =>
          exact (comparison_eq_ok_iff best runnerUp).mpr (hsecond best runnerUp others rfl)
      obtain ⟨text, htext⟩ := hcomparison
      exact ⟨_, bind_eq_ok_iff.mpr ⟨reason, hreason, bind_eq_ok_iff.mpr ⟨text, htext, rfl⟩⟩⟩

/-- What is said of two sources in the order of the ranking is true, but for the cost. -/
theorem advantage_holds_iff (hle : rankKey best ≤ rankKey runnerUp) :
    (advantageOf best runnerUp).Holds best runnerUp ↔
      (best.leadTimeHours = runnerUp.leadTimeHours → best.distanceKm = runnerUp.distanceKm →
        ∃ cost ∈ best.unitCost, ∃ other ∈ runnerUp.unitCost, cost ≠ other) := by
  rw [rankKey, rankKey, Prod.Lex.toLex_le_toLex] at hle
  unfold advantageOf
  split_ifs with hlead hdistance
  · have hlt := hle.resolve_right fun h => hlead h.1.symm
    exact ⟨fun _ heq => absurd heq hlt.ne, fun _ => hlt⟩
  · have hlead' := (not_not.mp hlead).symm
    have hle' := (hle.resolve_left fun h => h.ne hlead').2
    rw [Prod.Lex.toLex_le_toLex] at hle'
    have hlt := hle'.resolve_right fun h => hdistance h.1.symm
    exact ⟨fun _ _ heq => absurd heq hlt.ne, fun _ => hlt⟩
  · -- the costs that rank are not in the wrong order
    have hlead' := (not_not.mp hlead).symm
    have hdistance' := (not_not.mp hdistance).symm
    have hle' := (hle.resolve_left fun h => h.ne hlead').2
    rw [Prod.Lex.toLex_le_toLex] at hle'
    have hcosts := (hle'.resolve_left fun h => h.ne hdistance').2
    rw [Prod.Lex.toLex_le_toLex] at hcosts
    have hcost : best.unitCost.getD 0 ≤ runnerUp.unitCost.getD 0 := by
      rcases hcosts with hlt | ⟨heq, -⟩
      · exact hlt.le
      · exact heq.le
    constructor
    · rintro ⟨cost, hcost, other, hother, hlt⟩ - -
      exact ⟨cost, hcost, other, hother, hlt.ne⟩
    · intro h
      obtain ⟨cost, hknown, other, hother, hne⟩ := h hlead' hdistance'
      rw [Option.mem_def.mp hknown, Option.mem_def.mp hother] at hcost
      exact ⟨cost, hknown, other, hother, lt_of_le_of_ne hcost hne⟩

/-- What is better comes first. -/
theorem rankKey_lt_of_better (h : Better best runnerUp) : rankKey best < rankKey runnerUp := by
  rw [rankKey, rankKey, Prod.Lex.toLex_lt_toLex]
  rcases h with hlead | ⟨hlead, h⟩
  · exact .inl hlead
  · refine .inr ⟨hlead, ?_⟩
    rw [Prod.Lex.toLex_lt_toLex]
    rcases h with hdistance | ⟨hdistance, cost, hcost, other, hother, hlt⟩
    · exact .inl hdistance
    · refine .inr ⟨hdistance, ?_⟩
      rw [Prod.Lex.toLex_lt_toLex, Option.mem_def.mp hcost, Option.mem_def.mp hother]
      exact .inl hlt

/-- A plan is made, is true of its candidates and is the same for every arrangement of them, exactly when
the candidates with stock are told apart. -/
theorem plan_truthful_iff (sku : String) (hneeded : 0 < unitsNeeded)
    (candidates : List StockSourceCandidate) :
    (∃ plan, planStockSourcing sku unitsNeeded candidates = .ok plan ∧
        Truthful candidates unitsNeeded plan ∧
          ∀ arranged, arranged.Perm candidates →
            planStockSourcing sku unitsNeeded arranged = .ok plan) ↔ ToldApart candidates := by
  have hplan : ∀ candidates : List StockSourceCandidate, planStockSourcing sku unitsNeeded candidates
      = planOf sku unitsNeeded candidates.length (rankedSources candidates) := fun candidates =>
    if_neg (not_le.mpr hneeded)
  constructor
  · rintro ⟨plan, hok, htrue, harranged⟩
    rw [hplan] at hok
    have hranked := (planOf_spec hok).ranked
    have hkeys := keys_of_perm fun arranged hperm => by
      have h := harranged arranged hperm
      rw [hplan] at h
      rw [← (planOf_spec h).ranked, hranked]
    obtain ⟨hfirst, hsecond⟩ := planOf_eq_ok_iff.mp ⟨plan, hok⟩
    rw [rankedSources_eq] at hfirst hsecond hranked
    refine ⟨hkeys, fun first second htwo => ?_, fun first hone => ?_, fun first second htwo => ?_⟩
    · obtain ⟨rest, hsorted⟩ := (sortedBy_eq_cons_cons_iff hkeys).mpr htwo
      rw [hsorted] at hranked
      exact (advantage_holds_iff (keyOf_le_of_sortedBy hsorted)).mp (htrue.stated _ _ _ hranked)
    · obtain ⟨rest, hsorted⟩ := (sortedBy_eq_cons_iff hkeys).mpr hone
      rw [hsorted] at hfirst
      exact hfirst _ _ rfl
    · obtain ⟨rest, hsorted⟩ := (sortedBy_eq_cons_cons_iff hkeys).mpr htwo
      rw [hsorted] at hsecond
      exact hsecond _ _ _ rfl
  · intro h
    have hkeys : ∀ a ∈ eligible candidates, ∀ b ∈ eligible candidates, keyOf a = keyOf b → a = b :=
      h.keys
    have hok : ∃ plan, planOf sku unitsNeeded candidates.length (rankedSources candidates) = .ok plan := by
      rw [planOf_eq_ok_iff, rankedSources_eq]
      constructor
      · intro best rest hsorted
        obtain ⟨first, others, hlist, rfl, -⟩ := List.map_eq_cons_iff.mp hsorted
        exact h.first first ((sortedBy_eq_cons_iff hkeys).mp ⟨others, hlist⟩)
      · intro best runnerUp rest hsorted
        obtain ⟨first, others, hlist, rfl, hothers⟩ := List.map_eq_cons_iff.mp hsorted
        obtain ⟨second, last, rfl, rfl, -⟩ := List.map_eq_cons_iff.mp hothers
        exact h.second first second ((sortedBy_eq_cons_cons_iff hkeys).mp ⟨last, hlist⟩)
    obtain ⟨plan, hok⟩ := hok
    have hspec := planOf_spec hok
    refine ⟨plan, (hplan candidates).trans hok, ?_, fun arranged hperm => ?_⟩
    · refine ⟨hspec.gap, hspec.ranked ▸ hspec.selected, ?_, ?_, ?_⟩
      · intro best hbest
        rw [hspec.ranked, rankedSources_eq, List.head?_map] at hbest
        obtain ⟨first, hfirst, rfl⟩ := Option.mem_map.mp hbest
        have hmem := mem_sortedBy.mp (List.mem_of_mem_head? hfirst)
        obtain ⟨hmem, hstock⟩ := List.mem_filter.mp hmem
        exact ⟨first, hmem, rfl, of_decide_eq_true hstock⟩
      · intro best hbest candidate hcandidate hstock hbetter
        rw [hspec.ranked, rankedSources_eq, List.head?_map] at hbest
        obtain ⟨first, hfirst, rfl⟩ := Option.mem_map.mp hbest
        obtain ⟨rest, hsorted⟩ := List.head?_eq_some_iff.mp hfirst
        obtain ⟨-, hleast⟩ := (sortedBy_eq_cons_iff hkeys).mp ⟨rest, hsorted⟩
        have hle := hleast candidate (List.mem_filter.mpr ⟨hcandidate, decide_eq_true hstock⟩)
        exact absurd (rankKey_lt_of_better hbetter) (not_lt.mpr hle)
      · intro best runnerUp rest hsorted
        rw [hspec.ranked, rankedSources_eq] at hsorted
        obtain ⟨first, others, hlist, rfl, hothers⟩ := List.map_eq_cons_iff.mp hsorted
        obtain ⟨second, last, rfl, rfl, -⟩ := List.map_eq_cons_iff.mp hothers
        have htwo := (sortedBy_eq_cons_cons_iff hkeys).mp ⟨last, hlist⟩
        exact (advantage_holds_iff (keyOf_le_of_sortedBy hlist)).mpr (h.costs first second htwo)
    · have heligible : (eligible arranged).Perm (eligible candidates) := hperm.filter _
      have hsorted := sortedBy_eq_of_perm heligible fun a ha b hb =>
        hkeys a (heligible.mem_iff.mp ha) b (heligible.mem_iff.mp hb)
      rw [hplan, rankedSources_eq, hperm.length_eq, hsorted]
      exact hok

end Plans

/-- A branch with ten units, two hours and five kilometres away. -/
def branchAt (sourceId : String) (unitCost : Option ℚ) : StockSourceCandidate :=
  { sourceType := .branch
    sourceId := sourceId
    availableUnits := 10
    distanceKm := 5
    leadTimeHours := 2
    unitCost := unitCost
    available_nonneg := by decide
    distance_nonneg := by decide
    leadTime_pos := by decide }

/-- Two branches with different costs. -/
theorem cheaper_branch :
    (∃ plan, planStockSourcing "4011" 5 [branchAt "A" (some 7), branchAt "B" (some 8)] = .ok plan ∧
      Truthful [branchAt "A" (some 7), branchAt "B" (some 8)] 5 plan ∧
        ∀ arranged, arranged.Perm [branchAt "A" (some 7), branchAt "B" (some 8)] →
          planStockSourcing "4011" 5 arranged = .ok plan) ↔
      ToldApart [branchAt "A" (some 7), branchAt "B" (some 8)] :=
  plan_truthful_iff "4011" (by decide) [branchAt "A" (some 7), branchAt "B" (some 8)]

/-- Two branches with one cost: the plan says that the one it chose has a lower one. -/
theorem equal_costs_told_lower : ∃ plan,
    planStockSourcing "4011" 5 [branchAt "A" (some 7), branchAt "B" (some 7)] = .ok plan ∧
      plan.conclusion = "Source 5 of the 5 units of 4011 needed from branch A: it has 10 units on hand, "
        ++ "is 5.00 km away, and can deliver in 2.00 hours, chosen over branch B for a lower cost." ∧
      ¬ Truthful [branchAt "A" (some 7), branchAt "B" (some 7)] 5 plan := by
  obtain ⟨plan, hplan⟩ := exists_eq_ok (by decide +kernel :
    (planStockSourcing "4011" 5 [branchAt "A" (some 7), branchAt "B" (some 7)]).toOption.isSome)
  have htext : (planStockSourcing "4011" 5 [branchAt "A" (some 7), branchAt "B" (some 7)]).map
      (fun plan => (plan.conclusion, plan.ranked)) = .ok
        ("Source 5 of the 5 units of 4011 needed from branch A: it has 10 units on hand, "
          ++ "is 5.00 km away, and can deliver in 2.00 hours, chosen over branch B for a lower cost.",
          [(branchAt "A" (some 7)).toRankedStockSource, (branchAt "B" (some 7)).toRankedStockSource]) := by
    decide +kernel
  rw [hplan] at htext
  have hvalues := Except.ok.inj htext
  simp only [Prod.mk.injEq] at hvalues
  refine ⟨plan, hplan, hvalues.1, fun htrue => ?_⟩
  have hstated := htrue.stated _ _ _ hvalues.2
  obtain ⟨cost, hcost, other, hother, hlt⟩ := hstated
  cases hcost
  cases hother
  exact lt_irrefl _ hlt

end ShelfWise.Science.Exact
