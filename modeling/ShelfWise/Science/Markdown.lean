import ShelfWise.Science.Exact
import ShelfWise.Science.Retail

/-!
# Markdowns against holding

`simulate_markdown` of `shelfwise_decision_science.simulation` with every field of its report. Both
branches multiply the daily units with the days to the expiry and cap them from above alone, so that
an expired stock sells a negative number of units; how far a report is physical, and what a positive
incremental profit says of it, is `simulate_markdown_physical`.
-/

namespace ShelfWise.Science

open Py Connectors

/-! ## The simulation -/

/-- The arguments of `simulate_markdown`. -/
structure MarkdownInput where
  sku : String
  unitsOnHand : Decimal
  daysToExpiry : Decimal
  baseDailyUnits : Decimal
  unitPrice : Money
  unitCost : Money
  discountPct : Decimal
  demandElasticity : Decimal

/-- `MarkdownSimulation`. -/
structure MarkdownReport where
  sku : String
  markdownUnitsSold : Decimal
  holdUnitsSold : Decimal
  markdownWasteUnits : Decimal
  holdWasteUnits : Decimal
  markdownProfit : Money
  holdProfit : Money
  incrementalProfit : Money
  method : String
  confidence : Decimal

/-- The units of both branches before they are rounded to two places. -/
structure MarkdownUnits where
  holdUnits : Decimal
  markdownUnits : Decimal
  holdWaste : Decimal
  markdownWaste : Decimal

/-- What the days to the expiry sell without a markdown, however much is on hand. -/
def holdDemand (input : MarkdownInput) : Except Exc Decimal :=
  input.baseDailyUnits.mul input.daysToExpiry

/-- What they sell with the markdown. -/
def markdownDemand (input : MarkdownInput) : Except Exc Decimal := do
  let elastic ← input.demandElasticity.mul input.discountPct
  let uplift ← (Decimal.ofInt 1).add elastic
  let markdownDaily ← input.baseDailyUnits.mul uplift
  markdownDaily.mul input.daysToExpiry

/-- The units that are sold and wasted in both branches. -/
def unitsOf (input : MarkdownInput) : Except Exc MarkdownUnits := do
  let held ← holdDemand input
  let holdUnits ← input.unitsOnHand.minOf held
  let sold ← markdownDemand input
  let markdownUnits ← input.unitsOnHand.minOf sold
  let holdLeft ← input.unitsOnHand.sub holdUnits
  let holdWaste ← holdLeft.maxOf (.ofInt 0)
  let markdownLeft ← input.unitsOnHand.sub markdownUnits
  let markdownWaste ← markdownLeft.maxOf (.ofInt 0)
  .ok ⟨holdUnits, markdownUnits, holdWaste, markdownWaste⟩

/-- The report on the units of both branches. -/
def reportOf (input : MarkdownInput) (units : MarkdownUnits) : Except Exc MarkdownReport := do
  let holdMargin ← subMoney input.unitPrice input.unitCost
  let share ← (Decimal.ofInt 1).sub input.discountPct
  let markdownPrice ← timesMoney input.unitPrice share
  let markdownMargin ← subMoney markdownPrice input.unitCost
  let holdProfit ← profitOf holdMargin input.unitCost units.holdUnits units.holdWaste
  let markdownProfit ← profitOf markdownMargin input.unitCost units.markdownUnits units.markdownWaste
  let markdownUnitsSold ← units.markdownUnits.q2
  let holdUnitsSold ← units.holdUnits.q2
  let markdownWasteUnits ← units.markdownWaste.q2
  let holdWasteUnits ← units.holdWaste.q2
  let incrementalProfit ← subMoney markdownProfit holdProfit
  .ok
    { sku := input.sku
      markdownUnitsSold := markdownUnitsSold
      holdUnitsSold := holdUnitsSold
      markdownWasteUnits := markdownWasteUnits
      holdWasteUnits := holdWasteUnits
      markdownProfit := markdownProfit
      holdProfit := holdProfit
      incrementalProfit := incrementalProfit
      method := markdownMethod
      confidence := .finite false 80 (-2) }

/-- `simulate_markdown`, with the units before they are rounded. -/
def markdownOf (input : MarkdownInput) : Except Exc (MarkdownUnits × MarkdownReport) := do
  let negative ← input.discountPct.lt (.ofInt 0)
  let whole ← (Decimal.ofInt 1).le input.discountPct
  if negative || whole then .error (.valueError "discount_pct must be in [0, 1)")
  else
    let units ← unitsOf input
    let report ← reportOf input units
    .ok (units, report)

/-- `simulate_markdown`, with the elasticity as an argument. -/
def simulateMarkdownWith (input : MarkdownInput) : Except Exc MarkdownReport := do
  let result ← markdownOf input
  .ok result.2

/-- The arguments with which the cascades ask for a scenario, and the default elasticity. -/
def scenarioMarkdown (scenario : ScenarioFacts) (days baseDailyUnits discountPct : Decimal) :
    MarkdownInput :=
  { sku := scenario.sku
    unitsOnHand := .ofInt scenario.unitsOnHand
    daysToExpiry := days
    baseDailyUnits := baseDailyUnits
    unitPrice := scenario.unitPrice
    unitCost := scenario.unitCost
    discountPct := discountPct
    demandElasticity := .finite false 15 (-1) }

/-- The simulation of the cascades reads some of the fields. -/
theorem simulateMarkdown_eq (scenario : ScenarioFacts) (days baseDailyUnits discountPct : Decimal) :
    simulateMarkdown scenario days baseDailyUnits discountPct = (do
      let report ← simulateMarkdownWith (scenarioMarkdown scenario days baseDailyUnits discountPct)
      .ok ⟨report.markdownUnitsSold, report.markdownWasteUnits, report.holdWasteUnits,
        report.incrementalProfit⟩) := by
  unfold simulateMarkdown simulateMarkdownWith markdownOf
  simp only [bind_assoc]
  refine bind_congr fun negative => bind_congr fun whole => ?_
  split_ifs
  · rfl
  · unfold unitsOf reportOf holdDemand markdownDemand
    simp only [bind_assoc]
    rfl

/-! ## What is promised -/

/-- A branch sells between nothing and all that is on hand, and wastes the rest. -/
structure Physical (onHand sold waste : Decimal) : Prop where
  nonneg : 0 ≤ sold.toRat
  le_onHand : sold.toRat ≤ onHand.toRat
  rest : sold.toRat + waste.toRat = onHand.toRat

/-- Both branches are physical, and only more units sold make the markdown worth more. -/
structure Sound (input : MarkdownInput) (units : MarkdownUnits) (report : MarkdownReport) : Prop where
  hold : Physical input.unitsOnHand units.holdUnits units.holdWaste
  markdown : Physical input.unitsOnHand units.markdownUnits units.markdownWaste
  gain : 0 < report.incrementalProfit.minorUnits →
    units.holdUnits.toRat < units.markdownUnits.toRat

/-- The demand is not negative, and the context holds what it leaves on hand. -/
def Sellable (onHand demand : Decimal) : Prop :=
  demand = .infinity false ∨ demand.isFinite = true ∧ 0 ≤ demand.toRat ∧
    (demand.toRat < onHand.toRat →
      Decimal.inContext (onHand.toRat - demand.toRat) = onHand.toRat - demand.toRat)

/-- The demand of both branches is sellable. -/
def Marketable (input : MarkdownInput) : Prop :=
  ∀ demand, holdDemand input = .ok demand ∨ markdownDemand input = .ok demand →
    Sellable input.unitsOnHand demand

/-- A decimal that the context does not round. -/
def Carried (d : Decimal) : Prop := d.isFinite = true → Decimal.inContext d.toRat = d.toRat

/-! ## One branch -/

section Branch

variable {onHand demand sold left waste : Decimal}

/-- What is capped from above by a finite stock, and finite itself, by the demand. -/
theorem minOf_cases (hfinite : onHand.isFinite = true) (hmin : onHand.minOf demand = .ok sold)
    (hsold : sold.isFinite = true) :
    (demand = .infinity false ∧ sold = onHand) ∨
      (demand.isFinite = true ∧ sold.HasValue (min onHand.toRat demand.toRat)) := by
  cases demand with
  | finite s c e =>
    obtain ⟨r, hr, hvalue⟩ := (Decimal.exists_hasValue hfinite).minOf
      (Decimal.exists_hasValue (a := .finite s c e) rfl)
    cases hmin.symm.trans hr
    exact .inr ⟨rfl, hvalue⟩
  | infinity s =>
    obtain ⟨t, d, f, rfl, -⟩ := (Decimal.exists_hasValue hfinite).exists_finite
    cases s
    · cases hmin
      exact .inl ⟨rfl, rfl⟩
    · cases hmin
      cases hsold
  | nan s signalling payload => cases (Decimal.eq_or_eq_of_minOf hmin).2.2

/-- The waste next to a number of units that are sold. -/
theorem hasValue_waste {x : ℚ} (hfinite : onHand.isFinite = true) (hsold : sold.HasValue x)
    (hsub : onHand.sub sold = .ok left) (hmax : left.maxOf (.ofInt 0) = .ok waste) :
    waste.HasValue (max (Decimal.inContext (onHand.toRat - x)) 0) := by
  have hzero := Decimal.hasValue_ofInt 0
  rw [Int.cast_zero] at hzero
  have hleft := (Decimal.exists_hasValue hfinite).sub hsold hsub
  obtain ⟨r, hr, hvalue⟩ := hleft.maxOf hzero
  cases hmax.symm.trans hr
  exact hvalue

/-- A branch is physical exactly when its demand is sellable. -/
theorem physical_iff (hfinite : onHand.isFinite = true) (hpos : 0 ≤ onHand.toRat)
    (hmin : onHand.minOf demand = .ok sold) (hsold : sold.isFinite = true)
    (hsub : onHand.sub sold = .ok left) (hmax : left.maxOf (.ofInt 0) = .ok waste) :
    Physical onHand sold waste ↔ Sellable onHand demand := by
  rcases minOf_cases hfinite hmin hsold with ⟨rfl, rfl⟩ | ⟨hdemand, hvalue⟩
  · have hwaste := hasValue_waste hfinite (Decimal.exists_hasValue hfinite) hsub hmax
    rw [sub_self, Decimal.inContext_zero, max_self] at hwaste
    refine ⟨fun _ => .inl rfl, fun _ => ⟨hpos, le_rfl, ?_⟩⟩
    rw [hwaste.2, add_zero]
  · have hwaste := hasValue_waste hfinite hvalue hsub hmax
    have hinfinite : demand ≠ .infinity false := by
      rintro rfl
      cases hdemand
    unfold Sellable
    rw [or_iff_right hinfinite, and_iff_right hdemand]
    rcases lt_or_ge demand.toRat onHand.toRat with hlt | hge
    · -- the demand is sold, and the rest is positive
      rw [min_eq_right hlt.le] at hvalue hwaste
      rw [max_eq_left (Decimal.inContext_nonneg (sub_nonneg.mpr hlt.le))] at hwaste
      constructor
      · intro h
        have hnonneg := h.nonneg
        have hrest := h.rest
        rw [hvalue.2] at hnonneg hrest
        rw [hwaste.2] at hrest
        exact ⟨hnonneg, fun _ => by linarith⟩
      · rintro ⟨hnonneg, hexact⟩
        refine ⟨?_, ?_, ?_⟩
        · rw [hvalue.2]
          exact hnonneg
        · rw [hvalue.2]
          exact hlt.le
        · rw [hvalue.2, hwaste.2, hexact hlt]
          ring
    · -- all is sold
      rw [min_eq_left hge] at hvalue hwaste
      rw [sub_self, Decimal.inContext_zero, max_self] at hwaste
      constructor
      · exact fun _ => ⟨hpos.trans hge, fun hlt => absurd hlt (not_lt.mpr hge)⟩
      · refine fun _ => ⟨?_, ?_, ?_⟩
        · rw [hvalue.2]
          exact hpos
        · rw [hvalue.2]
        · rw [hvalue.2, hwaste.2, add_zero]

end Branch

/-! ## Both branches -/

section Branches

variable {input : MarkdownInput} {units : MarkdownUnits} {report : MarkdownReport}

theorem nonneg_of_le {d : Decimal} (hfinite : d.isFinite = true)
    (h : (Decimal.ofInt 0).le d = .ok true) : 0 ≤ d.toRat := by
  have hzero := Decimal.hasValue_ofInt 0
  rw [Int.cast_zero] at hzero
  rw [hzero.le (Decimal.exists_hasValue hfinite)] at h
  exact of_decide_eq_true (Except.ok.inj h)

/-- What the days sell without a markdown they sell with it, where neither is negative and the
context holds the daily units. -/
theorem holdDemand_le {held sold : Decimal} (hbase : (Decimal.ofInt 0).le input.baseDailyUnits = .ok true)
    (hcarried : Carried input.baseDailyUnits)
    (helasticity : (Decimal.ofInt 0).le input.demandElasticity = .ok true)
    (hdiscount : 0 ≤ input.discountPct.toRat) (hheld : holdDemand input = .ok held)
    (hsold : markdownDemand input = .ok sold) (hfinite : sold.isFinite = true)
    (hpos : 0 ≤ sold.toRat) :
    held.isFinite = true ∧ held.toRat ≤ sold.toRat := by
  unfold markdownDemand at hsold
  obtain ⟨elastic, helastic, hsold⟩ := bind_eq_ok_iff.mp hsold
  obtain ⟨uplift, huplift, hsold⟩ := bind_eq_ok_iff.mp hsold
  obtain ⟨markdownDaily, hdaily, hsold⟩ := bind_eq_ok_iff.mp hsold
  -- all that the demand is made of is finite
  obtain ⟨hdailyFinite, hdaysFinite⟩ := Decimal.isFinite_of_mul hsold hfinite
  obtain ⟨hbaseFinite, hupliftFinite⟩ := Decimal.isFinite_of_mul hdaily hdailyFinite
  obtain ⟨-, helasticFinite⟩ := Decimal.isFinite_of_add huplift hupliftFinite
  obtain ⟨helasticityFinite, hdiscountFinite⟩ := Decimal.isFinite_of_mul helastic helasticFinite
  have hdays := Decimal.exists_hasValue hdaysFinite
  have hbaseValue := Decimal.exists_hasValue hbaseFinite
  have hheldValue := hbaseValue.mul hdays hheld
  have hone := Decimal.hasValue_ofInt 1
  rw [Int.cast_one] at hone
  have helasticValue := (Decimal.exists_hasValue helasticityFinite).mul
    (Decimal.exists_hasValue hdiscountFinite) helastic
  have hupliftValue := hone.add helasticValue huplift
  have hdailyValue := hbaseValue.mul hupliftValue hdaily
  have hsoldValue := hdailyValue.mul hdays hsold
  refine ⟨hheldValue.1, ?_⟩
  rcases le_or_gt 0 input.daysToExpiry.toRat with hforward | hexpired
  · have hbasePos := nonneg_of_le hbaseFinite hbase
    have helasticPos : 0 ≤ Decimal.inContext
        (input.demandElasticity.toRat * input.discountPct.toRat) :=
      Decimal.inContext_nonneg (mul_nonneg (nonneg_of_le helasticityFinite helasticity) hdiscount)
    have hupliftPos : (1 : ℚ) ≤ Decimal.inContext
        (1 + Decimal.inContext (input.demandElasticity.toRat * input.discountPct.toRat)) := by
      refine le_of_eq_of_le Decimal.inContext_one.symm (Decimal.inContext_mono ?_)
      exact le_add_of_nonneg_right helasticPos
    have hdailyPos : input.baseDailyUnits.toRat ≤ Decimal.inContext (input.baseDailyUnits.toRat *
        Decimal.inContext
          (1 + Decimal.inContext (input.demandElasticity.toRat * input.discountPct.toRat))) := by
      rw [← hcarried hbaseFinite]
      apply Decimal.inContext_mono
      rw [hcarried hbaseFinite]
      exact le_mul_of_one_le_right hbasePos hupliftPos
    rw [hheldValue.2, hsoldValue.2]
    exact Decimal.inContext_mono (mul_le_mul_of_nonneg_right hdailyPos hforward)
  · -- behind the expiry nothing but zero is not negative
    have hnonpos := Decimal.inContext_mono (mul_nonpos_of_nonneg_of_nonpos
      (nonneg_of_le hbaseFinite hbase) hexpired.le)
    rw [Decimal.inContext_zero] at hnonpos
    rw [hheldValue.2]
    exact hnonpos.trans hpos

/-! ### Money -/

theorem subMoney_eq {a b r : Money} (h : subMoney a b = .ok r) :
    r.minorUnits = a.minorUnits - b.minorUnits := by
  unfold subMoney at h
  split_ifs at h
  cases h
  rfl

/-- The cents of an amount times a number of units, with both roundings. -/
def centsOf (minorUnits : ℤ) (x : ℚ) : ℤ :=
  Sys.Rounding.rounded (Decimal.Rounding.up .halfUp) (Decimal.inContext (minorUnits * x))

theorem timesMoney_value {money r : Money} {factor : Decimal} {x : ℚ} (hx : factor.HasValue x)
    (h : timesMoney money factor = .ok r) :
    r.minorUnits = centsOf money.minorUnits x ∧ (r.minorUnits : ℚ) < 10 ^ (28 : ℤ) := by
  unfold timesMoney at h
  obtain ⟨product, hproduct, h⟩ := bind_eq_ok_iff.mp h
  obtain ⟨cents, hcents, h⟩ := bind_eq_ok_iff.mp h
  obtain ⟨minorUnits, hunits, h⟩ := bind_eq_ok_iff.mp h
  cases h
  have hvalue := (Decimal.hasValue_ofInt money.minorUnits).mul hx hproduct
  have hrounded := hvalue.cents hcents hunits
  refine ⟨hrounded, ?_⟩
  have hfits := (abs_lt.mp (hvalue.quantize hcents).2).2
  rw [Decimal.atPlace, zpow_zero, div_one, mul_one, ← hrounded] at hfits
  exact hfits

/-- The rest of a price behind a discount is not more than the price. -/
theorem markdownPrice_le {price markdownPrice : Money} {share : Decimal} {discount : ℚ}
    (hprice : 0 ≤ price.minorUnits) (hdiscount : 0 ≤ discount)
    (hshare : share.HasValue (Decimal.inContext (1 - discount)))
    (h : timesMoney price share = .ok markdownPrice) :
    markdownPrice.minorUnits ≤ price.minorUnits := by
  obtain ⟨hvalue, hfits⟩ := timesMoney_value hshare h
  have hshareLe : Decimal.inContext (1 - discount) ≤ 1 := by
    refine le_of_le_of_eq (Decimal.inContext_mono ?_) Decimal.inContext_one
    linarith
  rcases lt_or_ge price.minorUnits (10 ^ 28) with hsmall | hlarge
  · -- the context holds the price
    have hshown : Decimal.inContext (price.minorUnits : ℚ) = price.minorUnits := by
      apply Decimal.inContext_intCast
      rwa [abs_of_nonneg hprice]
    rw [hvalue, centsOf]
    have hle : (price.minorUnits : ℚ) * Decimal.inContext (1 - discount) ≤ price.minorUnits :=
      mul_le_of_le_one_right (Int.cast_nonneg hprice) hshareLe
    have hcontext := Decimal.inContext_mono hle
    rw [hshown] at hcontext
    have hrounded := Sys.Rounding.rounded_mono (Decimal.Rounding.up .halfUp) hcontext
    rwa [Sys.Rounding.rounded_intCast] at hrounded
  · have hlt : markdownPrice.minorUnits < 10 ^ 28 := by exact_mod_cast hfits
    omega

theorem profitOf_value {margin unitCost r : Money} {sold waste : Decimal} {x y : ℚ}
    (hx : sold.HasValue x) (hy : waste.HasValue y) (h : profitOf margin unitCost sold waste = .ok r) :
    r.minorUnits = centsOf margin.minorUnits x - centsOf unitCost.minorUnits y := by
  unfold profitOf at h
  obtain ⟨earned, hearned, h⟩ := bind_eq_ok_iff.mp h
  obtain ⟨lost, hlost, h⟩ := bind_eq_ok_iff.mp h
  rw [subMoney_eq h, (timesMoney_value hx hearned).1, (timesMoney_value hy hlost).1]

theorem centsOf_mono {m n : ℤ} {x : ℚ} (hx : 0 ≤ x) (h : m ≤ n) : centsOf m x ≤ centsOf n x := by
  apply Sys.Rounding.rounded_mono
  apply Decimal.inContext_mono
  exact mul_le_mul_of_nonneg_right (Int.cast_le.mpr h) hx

/-! ### Reports -/

/-- What the report shows is finite. -/
structure Reported (units : MarkdownUnits) : Prop where
  holdUnits : units.holdUnits.isNan = false → units.holdUnits.isFinite = true
  markdownUnits : units.markdownUnits.isNan = false → units.markdownUnits.isFinite = true
  holdWaste : units.holdWaste.isNan = false → units.holdWaste.isFinite = true

/-- With the same units sold the markdown is worth no more, for it costs the discount. -/
theorem reportOf_spec (hprice : 0 ≤ input.unitPrice.minorUnits)
    (hdiscount : input.discountPct.isFinite = true) (hpos : 0 ≤ input.discountPct.toRat)
    (h : reportOf input units = .ok report) :
    Reported units ∧ ∀ {x y : ℚ}, 0 ≤ x → units.holdUnits.HasValue x →
      units.markdownUnits.HasValue x → units.holdWaste.HasValue y → units.markdownWaste.HasValue y →
        report.incrementalProfit.minorUnits ≤ 0 := by
  unfold reportOf at h
  obtain ⟨holdMargin, hholdMargin, h⟩ := bind_eq_ok_iff.mp h
  obtain ⟨share, hshare, h⟩ := bind_eq_ok_iff.mp h
  obtain ⟨markdownPrice, hmarkdownPrice, h⟩ := bind_eq_ok_iff.mp h
  obtain ⟨markdownMargin, hmarkdownMargin, h⟩ := bind_eq_ok_iff.mp h
  obtain ⟨holdProfit, hholdProfit, h⟩ := bind_eq_ok_iff.mp h
  obtain ⟨markdownProfit, hmarkdownProfit, h⟩ := bind_eq_ok_iff.mp h
  obtain ⟨markdownShown, hmarkdownShown, h⟩ := bind_eq_ok_iff.mp h
  obtain ⟨holdShown, hholdShown, h⟩ := bind_eq_ok_iff.mp h
  obtain ⟨markdownWasteShown, -, h⟩ := bind_eq_ok_iff.mp h
  obtain ⟨holdWasteShown, hholdWasteShown, h⟩ := bind_eq_ok_iff.mp h
  obtain ⟨incrementalProfit, hincremental, h⟩ := bind_eq_ok_iff.mp h
  cases h
  refine ⟨⟨?_, ?_, ?_⟩, ?_⟩
  · exact fun hnan => (Decimal.exists_hasValue_of_quantize hholdShown hnan).1
  · exact fun hnan => (Decimal.exists_hasValue_of_quantize hmarkdownShown hnan).1
  · exact fun hnan => (Decimal.exists_hasValue_of_quantize hholdWasteShown hnan).1
  · intro x y hx hhold hmarkdown hholdWaste hmarkdownWaste
    have hone := Decimal.hasValue_ofInt 1
    rw [Int.cast_one] at hone
    have hshareValue := hone.sub (Decimal.exists_hasValue hdiscount) hshare
    have hle := markdownPrice_le hprice hpos hshareValue hmarkdownPrice
    have hmargin : markdownMargin.minorUnits ≤ holdMargin.minorUnits := by
      rw [subMoney_eq hmarkdownMargin, subMoney_eq hholdMargin]
      omega
    have hearned := centsOf_mono hx hmargin
    show incrementalProfit.minorUnits ≤ 0
    rw [subMoney_eq hincremental, profitOf_value hmarkdown hmarkdownWaste hmarkdownProfit,
      profitOf_value hhold hholdWaste hholdProfit]
    omega

/-- A stock with a finite waste is finite. -/
theorem onHand_isFinite {onHand sold left waste : Decimal}
    (hunits : (Decimal.ofInt 0).le onHand = .ok true) (hsold : sold.isFinite = true)
    (hsub : onHand.sub sold = .ok left) (hmax : left.maxOf (.ofInt 0) = .ok waste)
    (hwaste : waste.isNan = false → waste.isFinite = true) : onHand.isFinite = true := by
  obtain ⟨t, d, f, rfl, -⟩ := (Decimal.exists_hasValue hsold).exists_finite
  cases onHand with
  | finite s c e => rfl
  | infinity s =>
    cases s
    · cases hsub
      cases hmax
      cases hwaste rfl
    · cases hunits
  | nan s signalling payload => cases hunits

/-- A discount that is accepted. -/
theorem discount_bounds {discount : Decimal} {negative whole : Bool}
    (hnegative : discount.lt (.ofInt 0) = .ok negative)
    (hwhole : (Decimal.ofInt 1).le discount = .ok whole) (h : ¬(negative || whole) = true) :
    discount.isFinite = true ∧ 0 ≤ discount.toRat := by
  have hzero := Decimal.hasValue_ofInt 0
  rw [Int.cast_zero] at hzero
  cases discount with
  | finite s c e =>
    refine ⟨rfl, ?_⟩
    rw [(Decimal.exists_hasValue rfl).lt hzero] at hnegative
    cases hnegative
    by_contra hlt
    apply h
    rw [decide_eq_true (not_le.mp hlt), Bool.true_or]
  | infinity s =>
    cases s
    · cases hwhole
      exact absurd (Bool.or_true _) h
    · cases hnegative
      exact absurd (Bool.true_or _) h
  | nan s signalling payload => cases hnegative

theorem isNan_of_minOf {a b r : Decimal} (h : a.minOf b = .ok r) : r.isNan = false := by
  obtain ⟨hr, ha, hb⟩ := Decimal.eq_or_eq_of_minOf h
  rcases hr with rfl | rfl
  · exact ha
  · exact hb

/-- The report of every input that the simulation returns on: it is physical only where the demand of
both branches is sellable, and there, for daily units that the context holds, it is physical and a
positive incremental profit means more units sold. -/
theorem simulate_markdown_physical (hunits : (Decimal.ofInt 0).le input.unitsOnHand = .ok true)
    (hbase : (Decimal.ofInt 0).le input.baseDailyUnits = .ok true)
    (helasticity : (Decimal.ofInt 0).le input.demandElasticity = .ok true)
    (hprice : 0 ≤ input.unitPrice.minorUnits) (h : markdownOf input = .ok (units, report)) :
    (Sound input units report → Marketable input) ∧
      (Carried input.baseDailyUnits → Marketable input → Sound input units report) := by
  unfold markdownOf at h
  obtain ⟨negative, hnegative, h⟩ := bind_eq_ok_iff.mp h
  obtain ⟨whole, hwhole, h⟩ := bind_eq_ok_iff.mp h
  split_ifs at h with hrange
  obtain ⟨units', hunitsOf, h⟩ := bind_eq_ok_iff.mp h
  obtain ⟨report', hreport, h⟩ := bind_eq_ok_iff.mp h
  cases h
  have hdiscount := discount_bounds hnegative hwhole hrange
  obtain ⟨hreported, hnoGain⟩ := reportOf_spec hprice hdiscount.1 hdiscount.2 hreport
  unfold unitsOf at hunitsOf
  obtain ⟨held, hheld, hunitsOf⟩ := bind_eq_ok_iff.mp hunitsOf
  obtain ⟨holdUnits, hholdUnits, hunitsOf⟩ := bind_eq_ok_iff.mp hunitsOf
  obtain ⟨sold, hsold, hunitsOf⟩ := bind_eq_ok_iff.mp hunitsOf
  obtain ⟨markdownUnits, hmarkdownUnits, hunitsOf⟩ := bind_eq_ok_iff.mp hunitsOf
  obtain ⟨holdLeft, hholdLeft, hunitsOf⟩ := bind_eq_ok_iff.mp hunitsOf
  obtain ⟨holdWaste, hholdWaste, hunitsOf⟩ := bind_eq_ok_iff.mp hunitsOf
  obtain ⟨markdownLeft, hmarkdownLeft, hunitsOf⟩ := bind_eq_ok_iff.mp hunitsOf
  obtain ⟨markdownWaste, hmarkdownWaste, hunitsOf⟩ := bind_eq_ok_iff.mp hunitsOf
  cases hunitsOf
  have hholdFinite := hreported.holdUnits (isNan_of_minOf hholdUnits)
  have hmarkdownFinite := hreported.markdownUnits (isNan_of_minOf hmarkdownUnits)
  have honHand := onHand_isFinite hunits hholdFinite hholdLeft hholdWaste hreported.holdWaste
  have honHandPos := nonneg_of_le honHand hunits
  have hholdIff := physical_iff honHand honHandPos hholdUnits hholdFinite hholdLeft hholdWaste
  have hmarkdownIff := physical_iff honHand honHandPos hmarkdownUnits hmarkdownFinite hmarkdownLeft
    hmarkdownWaste
  constructor
  · intro hsound demand hdemand
    rcases hdemand with hdemand | hdemand
    · cases hheld.symm.trans hdemand
      exact hholdIff.mp hsound.hold
    · cases hsold.symm.trans hdemand
      exact hmarkdownIff.mp hsound.markdown
  · intro hcarried hmarketable
    have hhold := hholdIff.mpr (hmarketable held (.inl hheld))
    have hmarkdown := hmarkdownIff.mpr (hmarketable sold (.inr hsold))
    refine ⟨hhold, hmarkdown, fun hgain => ?_⟩
    have hle : holdUnits.toRat ≤ markdownUnits.toRat := by
      rcases minOf_cases honHand hmarkdownUnits hmarkdownFinite with ⟨-, rfl⟩ | ⟨hfinite, hvalue⟩
      · exact hhold.le_onHand
      · have hpos : 0 ≤ sold.toRat := by
          have hnonneg := hmarkdown.nonneg
          rw [hvalue.2] at hnonneg
          exact hnonneg.trans (min_le_right _ _)
        obtain ⟨hheldFinite, hle⟩ := holdDemand_le hbase hcarried helasticity hdiscount.2 hheld hsold
          hfinite hpos
        rcases minOf_cases honHand hholdUnits hholdFinite with ⟨rfl, -⟩ | ⟨-, hvalue'⟩
        · cases hheldFinite
        · rw [hvalue.2, hvalue'.2]
          exact min_le_min le_rfl hle
    -- with equal units the wastes are equal as well
    by_contra hlt
    have heq : markdownUnits.toRat = holdUnits.toRat := le_antisymm (not_lt.mp hlt) hle
    have hholdValue := Decimal.exists_hasValue hholdFinite
    have hmarkdownValue := (Decimal.exists_hasValue hmarkdownFinite).congr heq
    have hnone := hnoGain hhold.nonneg hholdValue hmarkdownValue
      (hasValue_waste honHand hholdValue hholdLeft hholdWaste)
      (hasValue_waste honHand hmarkdownValue hmarkdownLeft hmarkdownWaste)
    omega

end Branches

/-- Thirty units on hand, of which five are sold a day, at R 20 each and for R 12. -/
def shelf (daysToExpiry discountPct : Decimal) : MarkdownInput :=
  { sku := "4011"
    unitsOnHand := .ofInt 30
    daysToExpiry := daysToExpiry
    baseDailyUnits := .ofInt 5
    unitPrice := ⟨2000, "ZAR"⟩
    unitCost := ⟨1200, "ZAR"⟩
    discountPct := discountPct
    demandElasticity := .finite false 15 (-1) }

/-- A fifth off, two days before the expiry. -/
theorem two_days_left : ∃ units report,
    markdownOf (shelf (.ofInt 2) (.finite false 2 (-1))) = .ok (units, report) ∧
      (Sound (shelf (.ofInt 2) (.finite false 2 (-1))) units report →
        Marketable (shelf (.ofInt 2) (.finite false 2 (-1)))) ∧
      (Carried (shelf (.ofInt 2) (.finite false 2 (-1))).baseDailyUnits →
        Marketable (shelf (.ofInt 2) (.finite false 2 (-1))) →
          Sound (shelf (.ofInt 2) (.finite false 2 (-1))) units report) := by
  obtain ⟨⟨units, report⟩, h⟩ := exists_eq_ok (by decide +kernel :
    (markdownOf (shelf (.ofInt 2) (.finite false 2 (-1)))).toOption.isSome)
  exact ⟨units, report, h, simulate_markdown_physical (by decide +kernel) (by decide +kernel)
    (by decide +kernel) (by decide) h⟩

/-- A day behind the expiry fewer than no units are sold, and at a tenth of the price still fewer, which
counts as a gain. -/
theorem a_day_late : ∃ units report,
    markdownOf (shelf (.ofInt (-1)) (.finite false 9 (-1))) = .ok (units, report) ∧
      ¬ Physical (.ofInt 30) units.holdUnits units.holdWaste ∧
        ¬ Physical (.ofInt 30) units.markdownUnits units.markdownWaste ∧
          0 < report.incrementalProfit.minorUnits ∧
            ¬ units.holdUnits.toRat < units.markdownUnits.toRat := by
  have h : (markdownOf (shelf (.ofInt (-1)) (.finite false 9 (-1)))).map (fun result =>
      (result.1.holdUnits.toRat, result.1.markdownUnits.toRat,
        result.2.incrementalProfit.minorUnits)) = .ok (-5, -1175 / 100, 7650) := by decide +kernel
  cases hresult : markdownOf (shelf (.ofInt (-1)) (.finite false 9 (-1))) with
  | error e =>
    rw [hresult] at h
    cases h
  | ok result =>
    rw [hresult] at h
    have hvalues := Except.ok.inj h
    simp only [Prod.mk.injEq] at hvalues
    obtain ⟨hhold, hmarkdown, hgain⟩ := hvalues
    refine ⟨result.1, result.2, rfl, fun hphysical => ?_, fun hphysical => ?_, ?_, ?_⟩
    · have hnonneg := hphysical.nonneg
      rw [hhold] at hnonneg
      exact absurd hnonneg (by norm_num)
    · have hnonneg := hphysical.nonneg
      rw [hmarkdown] at hnonneg
      exact absurd hnonneg (by norm_num)
    · rw [hgain]
      norm_num
    · rw [hhold, hmarkdown]
      norm_num

end ShelfWise.Science
