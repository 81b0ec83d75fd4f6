import ShelfWise.Agentic.Attribution
import Mathlib.Data.List.Dedup
import Mathlib.Data.List.GetD

/-!
# Calibration of the attribution

The references are looked at as a multiset: medians, modes and the quantile of their scores are the same
in every order. The value at rank `⌈(1 - alpha) * n⌉` leaves at most `alpha * n` values above it, and the
profile of equal runs expects exactly their steps (`attribution_calibrated`).
-/

namespace ShelfWise.Agentic.Attribution

open Py

/-! ## Order statistics -/

section OrderStatistics

variable {α : Type}

theorem sortedBy_id_eq [LinearOrder α] {xs ys : List α} (hp : xs.Perm ys) :
    sortedBy id xs = sortedBy id ys :=
  sortedBy_eq_of_perm hp fun _ _ _ _ h => h

theorem sortedBy_replicate {β : Type} [LinearOrder β] (key : α → β) (n : ℕ) (a : α) :
    sortedBy key (List.replicate n a) = List.replicate n a :=
  List.perm_replicate.mp (sortedBy_perm key _)

theorem median_eq {xs ys : List ℚ} (hp : xs.Perm ys) : median xs = median ys := by
  unfold median
  rw [sortedBy_id_eq hp]

theorem median_replicate {n : ℕ} (hn : n ≠ 0) (q : ℚ) : median (List.replicate n q) = q := by
  have hget : ∀ i < n, (List.replicate n q).getD i 0 = q := by
    intro i hi
    rw [List.getD_eq_getElem _ _ (by simpa using hi), List.getElem_replicate]
  unfold median
  simp only [sortedBy_replicate, List.length_replicate]
  rw [hget (n / 2) (by omega), hget (n / 2 - 1) (by omega), add_self_div_two, ite_self]

/-- The elements above the one at a position of a sorted list stand after it. -/
theorem countP_getD_lt_le {xs : List ℚ} (hsorted : xs.Pairwise (· ≤ ·)) {i : ℕ}
    (hi : i < xs.length) :
    xs.countP (fun x => decide (xs.getD i 0 < x)) ≤ xs.length - (i + 1) := by
  rw [List.getD_eq_getElem _ _ hi]
  have hsplit : xs.countP (fun x => decide (xs[i] < x))
      = (xs.take (i + 1)).countP (fun x => decide (xs[i] < x))
        + (xs.drop (i + 1)).countP fun x => decide (xs[i] < x) := by
    rw [← List.countP_append, List.take_append_drop]
  have hfirst : (xs.take (i + 1)).countP (fun x => decide (xs[i] < x)) = 0 := by
    rw [List.countP_eq_zero]
    intro x hx
    obtain ⟨j, hj, rfl⟩ := List.mem_take_iff_getElem.mp hx
    have hle : xs[j] ≤ xs[i] := by
      rcases Nat.lt_or_ge j i with hlt | hge
      · exact List.pairwise_iff_getElem.mp hsorted j i _ _ hlt
      · have heq : j = i := by omega
        subst heq
        exact le_refl _
    simpa using hle
  have hlast := (List.countP_le_length : (xs.drop (i + 1)).countP (fun x => decide (xs[i] < x)) ≤ _)
  rw [List.length_drop] at hlast
  omega

/-- At most the remaining share of the values is above a quantile. -/
theorem countP_quantile_lt_le {xs : List ℚ} (hsorted : xs.Pairwise (· ≤ ·)) {p : ℚ} (hp : 0 < p)
    (hp' : p ≤ 1) :
    (xs.countP (fun x => decide (quantile xs p < x)) : ℚ) ≤ (1 - p) * xs.length := by
  rcases Nat.eq_zero_or_pos xs.length with hnil | hpos
  · rw [List.length_eq_zero_iff.mp hnil]
    simp
  · have hlength : (0 : ℚ) < xs.length := by exact_mod_cast hpos
    have hone : 1 ≤ ⌈p * xs.length⌉ := Int.one_le_ceil_iff.mpr (mul_pos hp hlength)
    have hn : ⌈p * xs.length⌉ ≤ (xs.length : ℤ) := by
      apply Int.ceil_le.mpr
      push_cast
      exact mul_le_of_le_one_left hlength.le hp'
    -- the rank is at least 1 and at most the length, so that its position is not clamped
    have hindex : (max 0 (min ((xs.length : ℤ) - 1) (⌈p * xs.length⌉ - 1))).toNat
        = ⌈p * xs.length⌉.toNat - 1 := by omega
    have hcount := countP_getD_lt_le hsorted (i := ⌈p * xs.length⌉.toNat - 1) (by omega)
    have hquantile : quantile xs p = xs.getD (⌈p * xs.length⌉.toNat - 1) 0 := by
      unfold quantile
      rw [hindex]
    rw [← hquantile] at hcount
    have hint : ((xs.countP (fun x => decide (quantile xs p < x)) : ℤ)
        ≤ (xs.length : ℤ) - ⌈p * xs.length⌉) := by omega
    have hrat : ((xs.countP (fun x => decide (quantile xs p < x)) : ℚ)
        ≤ (xs.length : ℚ) - (⌈p * xs.length⌉ : ℤ)) := by exact_mod_cast hint
    have hceil := Int.le_ceil (p * xs.length)
    linarith

end OrderStatistics

/-! ## Modes -/

section Modes

variable {α : Type} {str : α → String}

theorem mem_of_mem_filterMap_id {xs : List (Option α)} {a : α} (h : a ∈ xs.filterMap id) :
    some a ∈ xs := by
  obtain ⟨x, hx, hxa⟩ := List.mem_filterMap.mp h
  rwa [← show x = some a from hxa]

theorem modeKey_eq {xs ys : List String} (hp : xs.Perm ys) : modeKey xs = modeKey ys := by
  funext text
  unfold modeKey
  rw [hp.count_eq]

/-- A mode is the same in every order of the values, when their texts tell them apart. -/
theorem mode_eq {xs ys : List (Option α)} (hp : xs.Perm ys)
    (hinj : ∀ a b, some a ∈ xs → some b ∈ xs → str a = str b → a = b) :
    mode str xs = mode str ys := by
  have hcleaned := hp.filterMap id
  have htexts := hcleaned.map str
  have hsorted : sortedBy (modeKey ((xs.filterMap id).map str)) ((xs.filterMap id).map str).dedup
      = sortedBy (modeKey ((ys.filterMap id).map str)) ((ys.filterMap id).map str).dedup := by
    rw [modeKey_eq htexts]
    apply sortedBy_eq_of_perm htexts.dedup
    intro a _ b _ hkey
    exact (Prod.mk.inj (toLex.injective hkey)).2
  unfold mode
  simp only [hsorted]
  apply Option.bind_congr
  intro selected _
  -- the first value with the selected text is the only one
  cases hx : (xs.filterMap id).find? fun value => str value = selected with
  | none =>
    rw [eq_comm, List.find?_eq_none]
    intro a ha
    exact List.find?_eq_none.mp hx a (hcleaned.mem_iff.mpr ha)
  | some a =>
    have ha := List.mem_of_find?_eq_some hx
    have hstr : str a = selected := by simpa using List.find?_some hx
    cases hy : (ys.filterMap id).find? fun value => str value = selected with
    | none =>
      exact absurd (decide_eq_true hstr) (List.find?_eq_none.mp hy a (hcleaned.mem_iff.mp ha))
    | some b =>
      have hb := hcleaned.mem_iff.mpr (List.mem_of_find?_eq_some hy)
      have hstr' : str b = selected := by simpa using List.find?_some hy
      rw [hinj a b (mem_of_mem_filterMap_id ha) (mem_of_mem_filterMap_id hb)
        (hstr.trans hstr'.symm)]

theorem mode_replicate {n : ℕ} (hn : n ≠ 0) (x : Option α) :
    mode str (List.replicate n x) = x := by
  obtain ⟨m, rfl⟩ := Nat.exists_eq_succ_of_ne_zero hn
  cases x with
  | none =>
    have hcleaned : (List.replicate (m + 1) (none : Option α)).filterMap id = [] := by
      simp
    unfold mode
    rw [hcleaned]
    rfl
  | some a =>
    have hcleaned : (List.replicate (m + 1) (some a)).filterMap id = List.replicate (m + 1) a := by
      exact List.filterMap_replicate_of_some rfl
    unfold mode
    simp only [hcleaned, List.map_replicate, List.replicate_dedup hn]
    rw [show sortedBy (modeKey (List.replicate (m + 1) (str a))) [str a] = [str a] from rfl]
    simp [List.replicate_succ]

end Modes

/-! ## Representations -/

section Representations

variable {tables : CharTables}

/-- The attributes that are flags. -/
def flagNames : List String := ["used_network", "fallback", "requires_human_review"]

/-- The value of an attribute is a flag. -/
def Attribute.isFlag : Attribute → Bool
  | .text _ => false
  | .flag _ => true

/-- The attributes of a step have the types that their names stand for. -/
def Step.Typed (step : Step) : Prop :=
  ∀ e ∈ step.attributes, e.2.isFlag = decide (e.1 ∈ flagNames)

theorem Attribute.str_inj {a b : Attribute} (hflag : a.isFlag = b.isFlag) (hstr : a.str = b.str) :
    a = b := by
  cases a with
  | text s =>
    cases b with
    | text t => exact congrArg Attribute.text hstr
    | flag b => cases hflag
  | flag x =>
    cases b with
    | text t => cases hflag
    | flag y => revert hstr; cases x <;> cases y <;> decide

variable {kind status : String} {name : Value} {metrics : List (String × ℤ)}
  {attributes : List (String × Attribute)} {s : Step}

theorem attributes_of_step (h : step kind name status metrics attributes = .ok s) :
    s.attributes = attributes := by
  unfold step at h
  cases hlabel : boundedLabel name with
  | error e =>
    rw [hlabel] at h
    cases h
  | ok label =>
    rw [hlabel] at h
    cases h
    rfl

theorem typed_of_step (h : step kind name status metrics attributes = .ok s)
    (htyped : ∀ e ∈ attributes, e.2.isFlag = decide (e.1 ∈ flagNames)) : s.Typed := by
  unfold Step.Typed
  rwa [attributes_of_step h]

theorem typed_of_spanStep {span : List (String × Value)} (h : spanStep tables span = .ok s) :
    s.Typed := by
  obtain ⟨status, _, h⟩ := bind_eq_ok_iff.mp h
  obtain ⟨latency, _, h⟩ := bind_eq_ok_iff.mp h
  apply typed_of_step h
  intro e he
  cases he

variable {call : List (String × Value)}

theorem typed_of_modelStep (h : modelStep tables call = .ok s) : s.Typed := by
  obtain ⟨status, _, h⟩ := bind_eq_ok_iff.mp h
  obtain ⟨latency, _, h⟩ := bind_eq_ok_iff.mp h
  obtain ⟨inputTokens, _, h⟩ := bind_eq_ok_iff.mp h
  obtain ⟨outputTokens, _, h⟩ := bind_eq_ok_iff.mp h
  obtain ⟨provider, _, h⟩ := bind_eq_ok_iff.mp h
  obtain ⟨model, _, h⟩ := bind_eq_ok_iff.mp h
  apply typed_of_step h
  simp [flagNames, Attribute.isFlag]

theorem typed_of_toolStep (h : toolStep call = .ok s) : s.Typed := by
  apply typed_of_step h
  intro e he
  cases he

theorem typed_of_evidenceStep {item : List (String × Value)} (h : evidenceStep item = .ok s) :
    s.Typed := by
  obtain ⟨confidence, _, h⟩ := bind_eq_ok_iff.mp h
  apply typed_of_step h
  simp [flagNames, Attribute.isFlag]

theorem typed_of_decisionStep {value : Value} {steps : List Step}
    (h : decisionStep tables value = .ok steps) (hs : s ∈ steps) : s.Typed := by
  cases value with
  | dict decision =>
    obtain ⟨status, _, h⟩ := bind_eq_ok_iff.mp h
    obtain ⟨riskTier, _, h⟩ := bind_eq_ok_iff.mp h
    obtain ⟨criticVerdict, _, h⟩ := bind_eq_ok_iff.mp h
    obtain ⟨last, hlast, h⟩ := bind_eq_ok_iff.mp h
    cases h
    rw [List.mem_singleton.mp hs]
    apply typed_of_step hlast
    simp [flagNames, Attribute.isFlag]
  | _ =>
    cases h
    cases hs

/-- The representation of a run. -/
structure Representation (tables : CharTables) where
  steps : List Step
  extracted : ∃ cascade, extractRepresentation tables cascade = .ok steps

theorem Representation.typed (r : Representation tables) (hs : s ∈ r.steps) : s.Typed := by
  obtain ⟨cascade, h⟩ := r.extracted
  obtain ⟨spans, hspans, h⟩ := bind_eq_ok_iff.mp h
  obtain ⟨modelCalls, hcalls, h⟩ := bind_eq_ok_iff.mp h
  obtain ⟨toolCalls, htools, h⟩ := bind_eq_ok_iff.mp h
  obtain ⟨evidence, hevidence, h⟩ := bind_eq_ok_iff.mp h
  obtain ⟨decision, hdecision, h⟩ := bind_eq_ok_iff.mp h
  rw [← Except.ok.inj h] at hs
  obtain ⟨⟨source, index⟩, hmem, rfl⟩ := List.mem_map.mp hs
  have hsource := List.mem_of_mem_take (List.fst_mem_of_mem_zipIdx hmem)
  show Step.Typed source
  simp only [List.mem_append] at hsource
  rcases hsource with (((hsource | hsource) | hsource) | hsource) | hsource
  · obtain ⟨span, _, hspan⟩ := exists_of_mem_mapM hspans hsource
    exact typed_of_spanStep hspan
  · obtain ⟨call, _, hcall⟩ := exists_of_mem_mapM hcalls hsource
    exact typed_of_modelStep hcall
  · obtain ⟨call, _, hcall⟩ := exists_of_mem_mapM htools hsource
    exact typed_of_toolStep hcall
  · obtain ⟨item, _, hitem⟩ := exists_of_mem_mapM hevidence hsource
    exact typed_of_evidenceStep hitem
  · exact typed_of_decisionStep hdecision hsource

theorem Representation.length_le (r : Representation tables) : r.steps.length ≤ maxSteps := by
  obtain ⟨cascade, h⟩ := r.extracted
  obtain ⟨spans, _, h⟩ := bind_eq_ok_iff.mp h
  obtain ⟨modelCalls, _, h⟩ := bind_eq_ok_iff.mp h
  obtain ⟨toolCalls, _, h⟩ := bind_eq_ok_iff.mp h
  obtain ⟨evidence, _, h⟩ := bind_eq_ok_iff.mp h
  obtain ⟨decision, _, h⟩ := bind_eq_ok_iff.mp h
  rw [← Except.ok.inj h, List.length_map, List.length_zipIdx, List.length_take]
  exact min_le_left _ _

/-- The references that are scored against are those that have steps. -/
theorem normalizedRefs_eq (references : List (Representation tables)) :
    normalizedRefs (references.map (·.steps))
      = (references.map (·.steps)).filter fun reference => !reference.isEmpty := by
  unfold normalizedRefs
  conv_rhs => rw [← List.map_id ((references.map (·.steps)).filter fun r => !r.isEmpty)]
  apply List.map_congr_left
  intro reference hreference
  obtain ⟨r, _, rfl⟩ := List.mem_map.mp (List.mem_of_mem_filter hreference)
  exact List.take_of_length_le r.length_le

end Representations

/-! ## References in another order -/

section Order

theorem namesOf_eq {ν : Type} {xs ys : List (List (String × ν))} (hp : xs.Perm ys) :
    namesOf xs = namesOf ys :=
  sortedBy_id_eq (hp.flatten.map Prod.fst).dedup

theorem expectedOf_eq {xs ys : List ℚ} (hp : xs.Perm ys) : expectedOf xs = expectedOf ys := by
  have hnil : xs = [] ↔ ys = [] := by
    rw [← List.length_eq_zero_iff, hp.length_eq, List.length_eq_zero_iff]
  unfold expectedOf
  simp only [hnil, median_eq hp, median_eq (hp.map fun value => |value - median ys|)]

theorem metricValues_perm {steps steps' : List Step} (hp : steps.Perm steps') (name : String) :
    (metricValues steps name).Perm (metricValues steps' name) :=
  (hp.filterMap _).map _

theorem profileStep_eq {steps steps' : List Step} (hp : steps.Perm steps')
    (htyped : ∀ s ∈ steps, s.Typed) : profileStep steps = profileStep steps' := by
  have htexts : ∀ field : Step → String,
      mode id (steps.map fun step => some (field step))
        = mode id (steps'.map fun step => some (field step)) := by
    intro field
    apply mode_eq (hp.map _)
    intro a b _ _ h
    exact h
  have hmetrics : ∀ name, expectedOf (metricValues steps name)
      = expectedOf (metricValues steps' name) :=
    fun name => expectedOf_eq (metricValues_perm hp name)
  have hattributes : ∀ name,
      mode Attribute.str (steps.map fun step => Dict.lookup name step.attributes)
        = mode Attribute.str (steps'.map fun step => Dict.lookup name step.attributes) := by
    intro name
    apply mode_eq (hp.map _)
    intro a b ha hb hstr
    obtain ⟨s, hs, hsa⟩ := List.mem_map.mp ha
    obtain ⟨t, ht, htb⟩ := List.mem_map.mp hb
    -- the name decides the type of both values
    apply Attribute.str_inj _ hstr
    rw [htyped s hs (name, a) (Dict.mem_of_lookup hsa), htyped t ht (name, b) (Dict.mem_of_lookup htb)]
  unfold profileStep
  simp only [htexts, hmetrics, hattributes, namesOf_eq (hp.map _)]

theorem buildProfile_eq {references references' : List (List Step)}
    (hp : references.Perm references')
    (htyped : ∀ reference ∈ references, ∀ s ∈ reference, s.Typed) :
    buildProfile references = buildProfile references' := by
  have hwidth : widthOf references = widthOf references' := (hp.map List.length).foldr_eq 0
  unfold buildProfile
  rw [hwidth]
  apply List.map_congr_left
  intro index _
  apply profileStep_eq (hp.filterMap _)
  intro s hs
  obtain ⟨reference, hreference, hget⟩ := List.mem_filterMap.mp hs
  exact htyped reference hreference s (List.mem_of_getElem? hget)

theorem thresholdOf_eq {references references' : List (List Step)} (config : AttributionConfig)
    (hp : references.Perm references')
    (htyped : ∀ reference ∈ references, ∀ s ∈ reference, s.Typed) :
    thresholdOf config references = thresholdOf config references' := by
  unfold thresholdOf
  simp only [buildProfile_eq hp htyped]
  rw [sortedBy_id_eq (hp.map _)]

variable {tables : CharTables}

theorem typed_of_mem_normalizedRefs {references : List (Representation tables)} :
    ∀ reference ∈ normalizedRefs (references.map (·.steps)), ∀ s ∈ reference, s.Typed := by
  intro reference hreference s hs
  rw [normalizedRefs_eq] at hreference
  obtain ⟨r, _, rfl⟩ := List.mem_map.mp (List.mem_of_mem_filter hreference)
  exact r.typed hs

/-- An attribution does not look at the order of its references. -/
theorem buildAttributedTrace_eq {references references' : List (Representation tables)}
    (hp : references.Perm references') (config : AttributionConfig)
    (cascade : List (String × Value)) :
    buildAttributedTrace tables config cascade (references.map (·.steps))
      = buildAttributedTrace tables config cascade (references'.map (·.steps)) := by
  have hrefs : (normalizedRefs (references.map (·.steps))).Perm
      (normalizedRefs (references'.map (·.steps))) := by
    unfold normalizedRefs
    exact ((hp.map _).filter _).map _
  have htyped := @typed_of_mem_normalizedRefs tables references
  have hscored : ∀ trace representation verified failures family,
      scoreAttribution trace representation (references.map (·.steps)) config verified failures
          family
        = scoreAttribution trace representation (references'.map (·.steps)) config verified
          failures family := by
    intro trace representation verified failures family
    unfold scoreAttribution
    simp only [hrefs.length_eq, buildProfile_eq hrefs htyped, thresholdOf_eq config hrefs htyped]
  unfold buildAttributedTrace
  simp only [hscored]

end Order

/-! ## References above the threshold -/

section Share

theorem roundHalfEven_intCast (n : ℤ) : FloatValue.roundHalfEven n = n := by
  unfold FloatValue.roundHalfEven
  simp

theorem rounded_rounded (x : ℚ) : rounded (rounded x) = rounded x := by
  unfold rounded
  rw [div_mul_cancel₀ _ (by norm_num), roundHalfEven_intCast]

theorem rounded_score_rowOf (representation : List Step) (profile : List ProfileStep) (index : ℕ) :
    rounded (rowOf representation profile index).score = (rowOf representation profile index).score := by
  unfold rowOf
  split
  all_goals exact rounded_rounded _

/-- The score of a representation is that of a row, or zero. -/
theorem score_cases (representation : List Step) (profile : List ProfileStep) :
    (scoreRepresentation representation profile).1 = 0 ∨
      ∃ index < max representation.length profile.length,
        (scoreRepresentation representation profile).1
          = (rowOf representation profile index).score := by
  unfold scoreRepresentation
  simp only
  cases hmax : (((List.range (max representation.length profile.length)).map
      (rowOf representation profile)).map (·.score)).max? with
  | none => exact Or.inl rfl
  | some score =>
    obtain ⟨row, hrow, rfl⟩ := List.mem_map.mp (List.max?_mem hmax)
    obtain ⟨index, hindex, rfl⟩ := List.mem_map.mp hrow
    exact Or.inr ⟨index, List.mem_range.mp hindex, rfl⟩

theorem rounded_zero : rounded 0 = 0 := by
  unfold rounded
  rw [zero_mul, show (0 : ℚ) = ((0 : ℤ) : ℚ) from rfl, roundHalfEven_intCast]
  simp

theorem rounded_score (representation : List Step) (profile : List ProfileStep) :
    rounded (scoreRepresentation representation profile).1
      = (scoreRepresentation representation profile).1 := by
  rcases score_cases representation profile with h | ⟨index, _, h⟩
  · rw [h, rounded_zero]
  · rw [h, rounded_score_rowOf]

variable (config : AttributionConfig) (references : List (List Step))

/-- The scores of the references against their profile, sorted. -/
def calibrationOf : List ℚ :=
  sortedBy id (references.map fun reference =>
    (scoreRepresentation reference (buildProfile references)).1)

theorem thresholdOf_eq_max :
    thresholdOf config references
      = max thresholdFloor (quantile (calibrationOf references) (1 - config.alpha)) := rfl

/-- The public threshold is the one that the score is compared with. -/
theorem rounded_thresholdOf :
    rounded (thresholdOf config references) = thresholdOf config references := by
  have hfloor : rounded thresholdFloor = thresholdFloor := by
    unfold rounded thresholdFloor
    rw [show (35 / 100 : ℚ) * 10 ^ 6 = ((350000 : ℤ) : ℚ) by norm_num, roundHalfEven_intCast]
    norm_num
  have hquantile : rounded (quantile (calibrationOf references) (1 - config.alpha))
      = quantile (calibrationOf references) (1 - config.alpha) := by
    unfold quantile
    rw [List.getD_eq_getElem?_getD]
    cases hget : (calibrationOf references)[(max 0 (min (((calibrationOf references).length : ℤ) - 1)
        (⌈(1 - config.alpha) * (calibrationOf references).length⌉ - 1))).toNat]? with
    | none => exact rounded_zero
    | some score =>
      have hmem := mem_sortedBy.mp (List.mem_of_getElem? hget)
      obtain ⟨reference, _, rfl⟩ := List.mem_map.mp hmem
      exact rounded_score reference _
  rw [thresholdOf_eq_max]
  rcases max_choice thresholdFloor (quantile (calibrationOf references) (1 - config.alpha))
    with h | h
  · rw [h, hfloor]
  · rw [h, hquantile]

/-- At most the share `alpha` of the references scores above the threshold. -/
theorem countP_thresholdOf_lt_le :
    (references.countP (fun reference => decide (thresholdOf config references
        < (scoreRepresentation reference (buildProfile references)).1)) : ℚ)
      ≤ config.alpha * references.length := by
  have hpos : 0 < 1 - config.alpha := by linarith [config.share.2]
  have hle : 1 - config.alpha ≤ 1 := by linarith [config.share.1]
  have hsorted : (calibrationOf references).Pairwise (· ≤ ·) := pairwise_sortedBy id _
  have hcalibration := countP_quantile_lt_le hsorted hpos hle
  have hperm := sortedBy_perm id (references.map fun reference =>
    (scoreRepresentation reference (buildProfile references)).1)
  have hlength : (calibrationOf references).length = references.length := by
    rw [calibrationOf, hperm.length_eq, List.length_map]
  have hcount : (calibrationOf references).countP
      (fun x => decide (quantile (calibrationOf references) (1 - config.alpha) < x))
      = references.countP fun reference =>
        decide (quantile (calibrationOf references) (1 - config.alpha)
          < (scoreRepresentation reference (buildProfile references)).1) := by
    conv_lhs => rw [calibrationOf, hperm.countP_eq, List.countP_map]
    rfl
  -- the threshold is at least the quantile
  have hmono : references.countP (fun reference => decide (thresholdOf config references
        < (scoreRepresentation reference (buildProfile references)).1))
      ≤ references.countP fun reference =>
        decide (quantile (calibrationOf references) (1 - config.alpha)
          < (scoreRepresentation reference (buildProfile references)).1) := by
    apply List.countP_mono_left
    intro reference _ h
    apply decide_eq_true
    exact lt_of_le_of_lt (le_max_right thresholdFloor _) (of_decide_eq_true h)
  rw [hcount, hlength, sub_sub_cancel] at hcalibration
  exact le_trans (by exact_mod_cast hmono) hcalibration

end Share

/-! ## A run that is identical to its references -/

section Identical

variable {n : ℕ}

theorem center_of_expectedOf (hn : n ≠ 0) {q : ℚ} {expected : Expected}
    (h : expectedOf (List.replicate n q) = some expected) : expected.center = q := by
  have hne : List.replicate n q ≠ [] := by simpa using hn
  unfold expectedOf at h
  rw [if_neg hne, median_replicate hn] at h
  rw [← Option.some.inj h]

theorem metricValues_replicate (s : Step) (name : String) :
    metricValues (List.replicate n s) name
      = ((Dict.lookup name s.metrics).map fun value : ℤ =>
          List.replicate n (value : ℚ)).getD [] := by
  unfold metricValues
  cases hlookup : Dict.lookup name s.metrics with
  | none =>
    have hnone : (List.replicate n s).filterMap (fun step => Dict.lookup name step.metrics) = [] :=
      List.filterMap_replicate_of_none hlookup
    rw [hnone]
    rfl
  | some value =>
    have hsome : (List.replicate n s).filterMap (fun step => Dict.lookup name step.metrics)
        = List.replicate n value := List.filterMap_replicate_of_some hlookup
    rw [hsome, List.map_replicate]
    rfl

/-- Nothing about a step differs from the profile of copies of it. -/
theorem weight_componentsOf_self (hn : n ≠ 0) (s : Step) :
    ∀ c ∈ componentsOf s (profileStep (List.replicate n s)), c.weight = 0 := by
  have hmode : ∀ field : Step → String,
      mode id ((List.replicate n s).map fun step => some (field step)) = some (field s) := by
    intro field
    rw [List.map_replicate, mode_replicate hn]
  intro c hc
  simp only [componentsOf, profileStep, hmode, List.mem_append] at hc
  rcases hc with (hc | hc) | hc
  · -- the fields
    simp only [List.mem_cons, List.not_mem_nil, or_false] at hc
    rcases hc with rfl | rfl | rfl
    all_goals simp [mismatch]
  · -- the attributes
    obtain ⟨e, he, rfl⟩ := List.mem_map.mp hc
    obtain ⟨name, _, rfl⟩ := List.mem_map.mp he
    simp [mismatch, List.map_replicate, mode_replicate hn]
  · -- the metrics
    obtain ⟨e, he, rfl⟩ := List.mem_map.mp hc
    obtain ⟨name, _, hname⟩ := List.mem_filterMap.mp he
    obtain ⟨expected, hexpected, rfl⟩ := Option.map_eq_some_iff.mp hname
    rw [metricValues_replicate] at hexpected
    cases hlookup : Dict.lookup name s.metrics with
    | none =>
      rw [hlookup] at hexpected
      cases hexpected
    | some value =>
      rw [hlookup] at hexpected
      have hcenter := center_of_expectedOf hn hexpected
      simp [deviation, hcenter]

theorem scoreStep_self (hn : n ≠ 0) (s : Step) :
    (scoreStep s (profileStep (List.replicate n s))).1 = 0 := by
  have hsum : ((componentsOf s (profileStep (List.replicate n s))).map (·.weight)).sum = 0 := by
    apply List.sum_eq_zero
    intro weight hweight
    obtain ⟨c, hc, rfl⟩ := List.mem_map.mp hweight
    exact weight_componentsOf_self hn s c hc
  unfold scoreStep
  simp only [hsum, zero_div]

theorem widthOf_replicate (hn : n ≠ 0) (steps : List Step) :
    widthOf (List.replicate n steps) = steps.length := by
  unfold widthOf
  induction n with
  | zero => exact absurd rfl hn
  | succ n ih =>
    rw [List.replicate_succ, List.map_cons, List.foldr_cons]
    rcases Nat.eq_zero_or_pos n with rfl | hpos
    · simp
    · rw [ih (by omega), max_self]

theorem score_self (hn : n ≠ 0) (steps : List Step) :
    (scoreRepresentation steps (buildProfile (List.replicate n steps))).1 = 0 := by
  have hlength : (buildProfile (List.replicate n steps)).length = steps.length := by
    rw [buildProfile, List.length_map, List.length_range, widthOf_replicate hn]
  rcases score_cases steps (buildProfile (List.replicate n steps)) with h | ⟨index, hindex, h⟩
  · exact h
  · rw [hlength, max_self] at hindex
    have hget := List.getElem?_eq_getElem hindex
    have hprofile : (buildProfile (List.replicate n steps))[index]?
        = some (profileStep (List.replicate n steps[index])) := by
      have hsteps : stepsAt (List.replicate n steps) index = List.replicate n steps[index] :=
        List.filterMap_replicate_of_some hget
      rw [buildProfile, List.getElem?_map, widthOf_replicate hn, List.getElem?_range hindex,
        Option.map_some, hsteps]
    have hrow : (rowOf steps (buildProfile (List.replicate n steps)) index).score = 0 := by
      unfold rowOf
      rw [hget, hprofile]
      show rounded (scoreStep steps[index] _).1 = 0
      rw [scoreStep_self hn, rounded_zero]
    rw [h, hrow]

theorem stateOf_ne_suspicious (structurallyVerified enough : Bool) :
    stateOf structurallyVerified false enough ≠ "suspicious" := by
  cases structurallyVerified <;> cases enough <;> decide

/-- A run with the steps of every reference is not suspicious. -/
theorem state_ne_suspicious (trace : CascadeTrace) {representation : List Step}
    {references : List (List Step)} (config : AttributionConfig) (verified : Bool)
    (failures : List String) (family : String)
    (hsame : ∀ reference ∈ normalizedRefs references, reference = representation) :
    (scoreAttribution trace representation references config verified failures family).1.state
      ≠ "suspicious" := by
  unfold scoreAttribution
  by_cases henough : config.minSuccesses ≤ (normalizedRefs references).length
  · have hn : (normalizedRefs references).length ≠ 0 := by
      have hsuccesses := config.successes.1
      omega
    have hle : ¬ thresholdOf config (normalizedRefs references)
        < (scoreRepresentation representation (buildProfile (normalizedRefs references))).1 := by
      have hscore : (scoreRepresentation representation
          (buildProfile (normalizedRefs references))).1 = 0 := by
        rw [List.eq_replicate_of_mem hsame]
        exact score_self hn representation
      rw [hscore, not_lt, thresholdOf_eq_max]
      exact le_trans (by norm_num [thresholdFloor]) (le_max_left thresholdFloor _)
    simp only [henough, decide_true, if_true, Option.mem_def, Option.some.injEq, exists_eq_left',
      hle, decide_false]
    exact stateOf_ne_suspicious _ _
  · simp only [henough, decide_false, Bool.false_eq_true, if_false, Option.mem_def, reduceCtorEq,
      false_and, exists_false]
    exact stateOf_ne_suspicious _ _

end Identical

/-! ## Calibration -/

section Calibration

variable (tables : CharTables) (config : AttributionConfig) (cascade : List (String × Value))
variable (references : List (Representation tables))

/-- The references that are scored against. -/
abbrev scoredReferences : List (List Step) :=
  (references.map (·.steps)).filter fun reference => !reference.isEmpty

/-- What an attribution is by its references. -/
structure Calibrated : Prop where
  /-- It is the same in every order of them. -/
  order : ∀ references' : List (Representation tables), references.Perm references' →
    buildAttributedTrace tables config cascade (references'.map (·.steps))
      = buildAttributedTrace tables config cascade (references.map (·.steps))
  /-- When there are enough of them, there is a threshold that at most the share `alpha` of them
  scores above. -/
  share : ∀ trace, buildAttributedTrace tables config cascade (references.map (·.steps)) = .ok trace →
    config.minSuccesses ≤ (scoredReferences tables references).length →
    ∃ threshold, trace.attribution.threshold = some threshold ∧
      ((scoredReferences tables references).countP (fun reference => decide (threshold
          < (scoreRepresentation reference (buildProfile (scoredReferences tables references))).1))
        : ℚ) ≤ config.alpha * (scoredReferences tables references).length
  /-- A run with the steps of every one of them is not suspicious. -/
  identical : ∀ trace,
    buildAttributedTrace tables config cascade (references.map (·.steps)) = .ok trace →
    (∀ reference ∈ scoredReferences tables references, reference = trace.representation) →
    trace.attribution.state ≠ "suspicious"

variable {tables config cascade references}

/-- What an attributed trace is made of. -/
theorem scoreAttribution_of_build {trace : AttributedTrace} {references : List (List Step)}
    (h : buildAttributedTrace tables config cascade references = .ok trace) :
    ∃ verified failures family, trace.attribution
      = (scoreAttribution trace.trace trace.representation references config verified failures
          family).1 := by
  obtain ⟨cascadeTrace, _, h⟩ := bind_eq_ok_iff.mp h
  obtain ⟨representation, _, h⟩ := bind_eq_ok_iff.mp h
  obtain ⟨family, _, h⟩ := bind_eq_ok_iff.mp h
  obtain ⟨verified, _, h⟩ := bind_eq_ok_iff.mp h
  cases h
  exact ⟨verified.1, verified.2, family, rfl⟩

/-- Enough references have a threshold. -/
theorem threshold_scoreAttribution (trace : CascadeTrace) (representation : List Step)
    {references : List (List Step)} (verified : Bool) (failures : List String) (family : String)
    (henough : config.minSuccesses ≤ (normalizedRefs references).length) :
    (scoreAttribution trace representation references config verified failures family).1.threshold
      = some (thresholdOf config (normalizedRefs references)) := by
  unfold scoreAttribution
  simp only [henough, decide_true, if_true, Option.map_some, rounded_thresholdOf]

variable (tables config cascade references)

/-- An attribution does not depend on the order of its references, at most the share `alpha` of them
scores above its threshold, and a run that is identical to them is not suspicious. -/
theorem attribution_calibrated : Calibrated tables config cascade references where
  order := fun references' hp => (buildAttributedTrace_eq hp config cascade).symm
  share := by
    intro trace h henough
    obtain ⟨verified, failures, family, hattribution⟩ := scoreAttribution_of_build h
    rw [hattribution]
    rw [scoredReferences, ← normalizedRefs_eq] at henough ⊢
    exact ⟨_, threshold_scoreAttribution _ _ _ _ _ henough, countP_thresholdOf_lt_le config _⟩
  identical := by
    intro trace h hsame
    obtain ⟨verified, failures, family, hattribution⟩ := scoreAttribution_of_build h
    rw [hattribution]
    rw [scoredReferences, ← normalizedRefs_eq] at hsame
    exact state_ne_suspicious _ config _ _ _ hsame

end Calibration

end ShelfWise.Agentic.Attribution
