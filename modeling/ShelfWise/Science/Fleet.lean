import ShelfWise.Py.DecimalValue
import ShelfWise.Py.Heap
import ShelfWise.Science.Retail

/-!
# The scoring of a fleet

`score_fleet_expiry` scores a stream of batches one after the other and keeps those of the highest
priority in a heap of bounded length. What it returns is what a sort of all candidates would give
(`scoreFleetExpiry_eq`): the first ones of them, and counts and a total that cover every one.
-/

namespace ShelfWise.Science.Fleet

open Py Py.Heap Connectors

/-! ## The score of a batch -/

/-- `FleetBatchState`. -/
structure FleetBatchState where
  sku : String
  locationId : String
  lotId : String
  unitsOnHand : ℤ
  daysToExpiry : ℤ
  forecastDailyUnits : Decimal
  unitCost : Money
  coldChainRisk : Decimal

/-- `FleetExpiryCandidate`. -/
structure FleetExpiryCandidate where
  sku : String
  locationId : String
  lotId : String
  risk : Decimal
  zarAtRisk : Money
  daysToExpiry : ℤ

/-- `score_expiry_risk`. Of the postconditions of `ExpiryRisk` the one on the money can fail. -/
def scoreExpiryRisk (unitsOnHand daysToExpiry forecastDailyUnits : Decimal) (unitCost : Money)
    (coldChainRisk coldChainPenaltyDays : Decimal) : Except Exc ExpiryRisk := do
  let daysLeft ← daysToExpiry.sub coldChainPenaltyDays
  let effectiveDays ← daysLeft.maxOf (.ofInt 0)
  let forecastDaily ← forecastDailyUnits.maxOf (.finite false 1 (-2))
  let sellThroughDays ← unitsOnHand.safeDiv forecastDaily
  let expectedSold ← forecastDaily.mul effectiveDays
  let unsold ← unitsOnHand.sub expectedSold
  let wasteUnits ← unsold.maxOf (.ofInt 0)
  let slack ← sellThroughDays.sub effectiveDays
  let hazard ← slack.safeDiv sellThroughDays
  let velocityRisk ← hazard.clamp
  let velocityShare ← velocityRisk.mul (.finite false 75 (-2))
  let coldShare ← coldChainRisk.mul (.finite false 25 (-2))
  let blend ← velocityShare.add coldShare
  let risk ← blend.clamp
  let shownRisk ← risk.q2
  let shownWaste ← wasteUnits.q2
  let zarAtRisk ← timesMoney unitCost wasteUnits
  let shownDays ← effectiveDays.q2
  if zarAtRisk.minorUnits < 0 then
    .error (.valueError
      ("ExpiryRisk.zar_at_risk must be >= 0: " ++ toString zarAtRisk.minorUnits))
  else .ok ⟨shownRisk, shownWaste, zarAtRisk, shownDays⟩

/-- The score of a scenario is this one at its fields. -/
theorem scoreExpiryRisk_scenario (scenario : ScenarioFacts) (forecast : Decimal)
    (cold : ColdChainRisk) : Science.scoreExpiryRisk scenario forecast cold =
      scoreExpiryRisk (.ofInt scenario.unitsOnHand) (.ofInt scenario.daysToExpiry) forecast
        scenario.unitCost cold.risk cold.penaltyDays := rfl

/-- The call of `score_expiry_risk` for a row. -/
def scoreRow (row : FleetBatchState) : Except Exc ExpiryRisk := do
  let coldChainPenaltyDays ← row.coldChainRisk.mul (.ofInt 2)
  scoreExpiryRisk (.ofInt row.unitsOnHand) (.ofInt row.daysToExpiry) row.forecastDailyUnits
    row.unitCost row.coldChainRisk coldChainPenaltyDays

/-- The candidate of a row and its score. -/
def candidateOf (row : FleetBatchState) (result : ExpiryRisk) : FleetExpiryCandidate :=
  { sku := row.sku
    locationId := row.locationId
    lotId := row.lotId
    risk := result.risk
    zarAtRisk := result.zarAtRisk
    daysToExpiry := row.daysToExpiry }

/-! ## The stream -/

/-- `priority`, an item of the heap. -/
structure Priority where
  risk : Decimal
  minorUnits : ℤ
  sequence : ℕ
  candidate : FleetExpiryCandidate

/-- `priority[:3]`. The items of a heap have sequences of their own, so that these three places decide
their order. -/
def Priority.key (self : Priority) : ℚ ×ₗ ℤ ×ₗ ℕ :=
  toLex (self.risk.toRat, toLex (self.minorUnits, self.sequence))

/-- The `priority` of a candidate. -/
def priorityOf (candidate : FleetExpiryCandidate) (sequence : ℕ) : Priority :=
  ⟨candidate.risk, candidate.zarAtRisk.minorUnits, sequence, candidate⟩

/-- `FleetScoreSummary`. -/
structure FleetScoreSummary where
  rowsProcessed : ℕ
  chunksProcessed : ℤ
  candidatesCrossingThreshold : ℕ
  totalZarAtRisk : Money
  topCandidates : List FleetExpiryCandidate

/-- The variables of the loop. -/
structure Progress where
  processed : ℕ
  candidates : ℕ
  totalMinor : ℤ
  heap : List Priority

/-- `Decimal("0") <= risk_threshold <= Decimal("1")`. -/
def isShare (riskThreshold : Decimal) : Except Exc Bool := do
  let low ← (Decimal.ofInt 0).le riskThreshold
  if low then riskThreshold.le (.ofInt 1) else .ok false

/-- The arguments that are refused. -/
def checkArguments (chunkSize : ℤ) (riskThreshold : Decimal) (topLimit : ℤ) : Except Exc Unit :=
  if chunkSize ≤ 0 then .error (.valueError "chunk_size must be positive")
  else do
    let inside ← isShare riskThreshold
    if !inside then .error (.valueError "risk_threshold must be between 0 and 1")
    else if topLimit ≤ 0 then .error (.valueError "top_limit must be positive")
    else .ok ()

/-- What a candidate changes. -/
def Progress.take (self : Progress) (topLimit : ℕ) (priority : Priority) : Progress :=
  { processed := self.processed
    candidates := self.candidates + 1
    totalMinor := self.totalMinor + priority.minorUnits
    heap := keepLargest Priority.key topLimit self.heap priority }

/-- The body of the loop, for a row and its sequence. -/
def scoreStep (riskThreshold : Decimal) (topLimit : ℕ) (progress : Progress)
    (row : FleetBatchState × ℕ) : Except Exc Progress := do
  let result ← scoreRow row.1
  let counted := { progress with processed := progress.processed + 1 }
  let below ← result.risk.lt riskThreshold
  if below then .ok counted
  else .ok (counted.take topLimit (priorityOf (candidateOf row.1 result) row.2))

/-- `score_fleet_expiry`. -/
def scoreFleetExpiry (rows : List FleetBatchState) (chunkSize : ℤ) (riskThreshold : Decimal)
    (topLimit : ℤ) : Except Exc FleetScoreSummary := do
  checkArguments chunkSize riskThreshold topLimit
  let final ← (rows.zipIdx 1).foldlM (scoreStep riskThreshold topLimit.toNat) ⟨0, 0, 0, []⟩
  .ok { rowsProcessed := final.processed
        chunksProcessed := (final.processed + chunkSize - 1).fdiv chunkSize
        candidatesCrossingThreshold := final.candidates
        totalZarAtRisk := ⟨final.totalMinor, "ZAR"⟩
        topCandidates := (sortedDescending Priority.key final.heap).map (·.candidate) }

/-! ## The full sort -/

/-- The candidates of a whole stream that reach the threshold, in the order of the stream, the first
position of which is given. -/
def reaching (riskThreshold : Decimal) (first : ℕ) (candidates : List FleetExpiryCandidate) :
    List Priority :=
  ((candidates.zipIdx first).map fun e => priorityOf e.1 e.2).filter fun p =>
    riskThreshold.toRat ≤ p.risk.toRat

/-- The scoring of all rows. -/
def scoreRows (rows : List FleetBatchState) : Except Exc (List FleetExpiryCandidate) :=
  rows.mapM fun row => (scoreRow row).map (candidateOf row)

/-- The summary of a whole stream of candidates. -/
def summaryOf (chunkSize : ℤ) (riskThreshold : Decimal) (topLimit : ℤ)
    (candidates : List FleetExpiryCandidate) : FleetScoreSummary :=
  let all := reaching riskThreshold 1 candidates
  { rowsProcessed := candidates.length
    chunksProcessed := ⌈(candidates.length : ℚ) / chunkSize⌉
    candidatesCrossingThreshold := all.length
    totalZarAtRisk := ⟨(all.map (·.minorUnits)).sum, "ZAR"⟩
    topCandidates := ((sortedDescending Priority.key all).take topLimit.toNat).map (·.candidate) }

/-- What `score_fleet_expiry` is for: score all rows, and sort all that reach the threshold. -/
def scoreByFullSort (rows : List FleetBatchState) (chunkSize : ℤ) (riskThreshold : Decimal)
    (topLimit : ℤ) : Except Exc FleetScoreSummary := do
  checkArguments chunkSize riskThreshold topLimit
  let candidates ← scoreRows rows
  .ok (summaryOf chunkSize riskThreshold topLimit candidates)

/-! ### Scores are numbers -/

theorem isNan_of_clamp {d r : Decimal} (h : d.clamp = .ok r) : r.isNan = false := by
  obtain ⟨low, -, hmax⟩ := bind_eq_ok_iff.mp h
  obtain ⟨hzero, hlow⟩ := Decimal.isNan_of_maxOf hmax
  rcases Decimal.eq_or_eq_of_maxOf hmax with rfl | rfl
  · exact hzero
  · exact hlow

theorem isFinite_of_q2 {d r : Decimal} (hd : d.isNan = false) (h : d.q2 = .ok r) :
    r.isFinite = true := by
  cases d with
  | finite s c e =>
    unfold Decimal.q2 Decimal.quantize at h
    by_cases hlt : Decimal.unitsOf .halfUp c e (-2) < 10 ^ Decimal.precision
    · simp only [hlt, if_true] at h
      cases h
      rfl
    · simp only [hlt, if_false] at h
      cases h
  | infinity s => cases h
  | nan s signalling payload => cases hd

theorem isFinite_risk {row : FleetBatchState} {result : ExpiryRisk} (h : scoreRow row = .ok result) :
    result.risk.isFinite = true := by
  obtain ⟨penalty, -, h⟩ := bind_eq_ok_iff.mp h
  unfold scoreExpiryRisk at h
  -- the thirteen values that the clamped risk is computed from
  iterate 13 obtain ⟨_, -, h⟩ := bind_eq_ok_iff.mp h
  obtain ⟨risk, hrisk, h⟩ := bind_eq_ok_iff.mp h
  obtain ⟨shown, hshown, h⟩ := bind_eq_ok_iff.mp h
  iterate 2 obtain ⟨_, -, h⟩ := bind_eq_ok_iff.mp h
  obtain ⟨_, -, h⟩ := bind_eq_ok_iff.mp h
  split at h
  · cases h
  · cases h
    exact isFinite_of_q2 (isNan_of_clamp hrisk) hshown

theorem isFinite_of_isShare {d : Decimal} (h : isShare d = .ok true) : d.isFinite = true := by
  obtain ⟨low, hlow, h⟩ := bind_eq_ok_iff.mp h
  cases low with
  | false => cases h
  | true =>
    cases d with
    | finite s c e => rfl
    | infinity negative =>
      -- an infinity is below zero or above one
      cases negative
      · cases h
      · cases hlow
    | nan s signalling payload => cases hlow

/-- What accepted arguments are. -/
theorem of_checkArguments {chunkSize topLimit : ℤ} {riskThreshold : Decimal}
    (h : checkArguments chunkSize riskThreshold topLimit = .ok ()) :
    0 < chunkSize ∧ riskThreshold.isFinite = true ∧ 0 < topLimit := by
  unfold checkArguments at h
  by_cases hchunk : chunkSize ≤ 0
  · rw [if_pos hchunk] at h
    cases h
  · rw [if_neg hchunk] at h
    obtain ⟨inside, hinside, h⟩ := bind_eq_ok_iff.mp h
    cases inside with
    | false => cases h
    | true =>
      by_cases hlimit : topLimit ≤ 0
      · simp only [Bool.not_true, Bool.false_eq_true, if_false, if_pos hlimit] at h
        cases h
      · exact ⟨not_le.mp hchunk, isFinite_of_isShare hinside, not_le.mp hlimit⟩

/-! ### The loop -/

section Loop

variable {riskThreshold : Decimal} {topLimit : ℕ}

theorem reaching_cons (first : ℕ) (candidate : FleetExpiryCandidate)
    (candidates : List FleetExpiryCandidate) :
    reaching riskThreshold first (candidate :: candidates) =
      if riskThreshold.toRat ≤ candidate.risk.toRat then
        priorityOf candidate first :: reaching riskThreshold (first + 1) candidates
      else reaching riskThreshold (first + 1) candidates := by
  by_cases hreach : riskThreshold.toRat ≤ candidate.risk.toRat
  · rw [if_pos hreach]
    exact List.filter_cons_of_pos (decide_eq_true hreach)
  · rw [if_neg hreach]
    have hskip : ¬ decide (riskThreshold.toRat ≤ (priorityOf candidate first).risk.toRat) = true :=
      fun h => hreach (of_decide_eq_true h)
    exact List.filter_cons_of_neg hskip

/-- What the loop leaves after a stream of candidates. -/
def Progress.after (self : Progress) (topLimit : ℕ) (processed : ℕ) (all : List Priority) : Progress :=
  { processed := self.processed + processed
    candidates := self.candidates + all.length
    totalMinor := self.totalMinor + (all.map (·.minorUnits)).sum
    heap := all.foldl (keepLargest Priority.key topLimit) self.heap }

/-- The body of the loop for a row that is scored. -/
theorem scoreStep_eq (hfinite : riskThreshold.isFinite = true) {row : FleetBatchState}
    {result : ExpiryRisk} (hrow : scoreRow row = .ok result) (progress : Progress) (sequence : ℕ) :
    scoreStep riskThreshold topLimit progress (row, sequence) =
      .ok (if riskThreshold.toRat ≤ result.risk.toRat then
        { progress with processed := progress.processed + 1 }.take topLimit
          (priorityOf (candidateOf row result) sequence)
      else { progress with processed := progress.processed + 1 }) := by
  have hlt := (Decimal.exists_hasValue (isFinite_risk hrow)).lt (Decimal.exists_hasValue hfinite)
  simp only [scoreStep, hrow, hlt, bind, Except.bind]
  by_cases hreach : riskThreshold.toRat ≤ result.risk.toRat
  · rw [if_pos hreach, decide_eq_false (not_lt.mpr hreach)]
    rfl
  · rw [if_neg hreach, decide_eq_true (not_le.mp hreach)]
    rfl

theorem after_nil (progress : Progress) : progress.after topLimit 0 [] = progress := by
  simp [Progress.after]

theorem after_cons (progress : Progress) (first : ℕ) (candidate : FleetExpiryCandidate)
    (candidates : List FleetExpiryCandidate) :
    (if riskThreshold.toRat ≤ candidate.risk.toRat then
      { progress with processed := progress.processed + 1 }.take topLimit (priorityOf candidate first)
    else { progress with processed := progress.processed + 1 }).after topLimit candidates.length
        (reaching riskThreshold (first + 1) candidates) =
      progress.after topLimit (candidate :: candidates).length
        (reaching riskThreshold first (candidate :: candidates)) := by
  have hlength : progress.processed + 1 + candidates.length =
      progress.processed + (candidates.length + 1) := by omega
  rw [reaching_cons]
  by_cases hreach : riskThreshold.toRat ≤ candidate.risk.toRat
  · rw [if_pos hreach, if_pos hreach]
    simp only [Progress.after, Progress.take, List.length_cons, List.map_cons, List.sum_cons,
      List.foldl_cons, hlength, Nat.add_comm 1, add_assoc]
  · rw [if_neg hreach, if_neg hreach]
    simp only [Progress.after, List.length_cons, hlength]

theorem scoreRows_cons (row : FleetBatchState) (rows : List FleetBatchState) :
    scoreRows (row :: rows) = (scoreRow row).bind fun result =>
      (scoreRows rows).map (candidateOf row result :: ·) := by
  rw [scoreRows, List.mapM_cons]
  cases scoreRow row with
  | error e => rfl
  | ok result => rfl

/-- The loop is the scoring of all rows and what their candidates leave. -/
theorem foldlM_scoreStep (hfinite : riskThreshold.isFinite = true) (rows : List FleetBatchState)
    (first : ℕ) (progress : Progress) :
    (rows.zipIdx first).foldlM (scoreStep riskThreshold topLimit) progress =
      (scoreRows rows).map fun candidates =>
        progress.after topLimit candidates.length (reaching riskThreshold first candidates) := by
  induction rows generalizing first progress with
  | nil =>
    rw [List.zipIdx_nil, List.foldlM_nil]
    exact congrArg Except.ok (after_nil progress).symm
  | cons row rows ih =>
    rw [List.zipIdx_cons, List.foldlM_cons]
    cases hrow : scoreRow row with
    | error e => simp only [scoreStep, scoreRows_cons, hrow, bind, Except.bind, Except.map]
    | ok result =>
      rw [scoreStep_eq hfinite hrow, scoreRows_cons, hrow]
      simp only [bind, Except.bind]
      rw [ih]
      cases scoreRows rows with
      | error e => rfl
      | ok candidates =>
        simp only [Except.map]
        rw [← after_cons]
        rfl

end Loop

/-! ### The summary -/

/-- The sequences of the candidates are their positions, so that no key repeats. -/
theorem nodup_key_reaching (riskThreshold : Decimal) (first : ℕ)
    (candidates : List FleetExpiryCandidate) :
    ((reaching riskThreshold first candidates).map Priority.key).Nodup := by
  have hsequence : ((candidates.zipIdx first).map fun e => (priorityOf e.1 e.2).sequence).Nodup := by
    have hrange : ((candidates.zipIdx first).map fun e => (priorityOf e.1 e.2).sequence) =
        List.range' first candidates.length := List.zipIdx_map_snd first candidates
    rw [hrange]
    exact List.nodup_range'
  have hall : (((candidates.zipIdx first).map fun e => priorityOf e.1 e.2).map Priority.key).Nodup := by
    apply List.Nodup.of_map (fun k => (ofLex (ofLex k).2).2)
    rw [List.map_map, List.map_map]
    exact hsequence
  exact hall.sublist ((List.filter_sublist).map Priority.key)

theorem fdiv_eq_ceil {chunkSize : ℤ} (hchunk : 0 < chunkSize) (processed : ℕ) :
    ((processed : ℤ) + chunkSize - 1).fdiv chunkSize = ⌈(processed : ℚ) / chunkSize⌉ := by
  have hpos : (0 : ℚ) < chunkSize := by exact_mod_cast hchunk
  rw [Int.fdiv_eq_ediv_of_nonneg _ hchunk.le]
  symm
  rw [Int.ceil_eq_iff, lt_div_iff₀ hpos, div_le_iff₀ hpos]
  have hlow := Int.ediv_mul_le ((processed : ℤ) + chunkSize - 1) hchunk.ne'
  have hhigh := Int.lt_ediv_add_one_mul_self ((processed : ℤ) + chunkSize - 1) hchunk
  constructor
  · have hint : (((processed : ℤ) + chunkSize - 1) / chunkSize - 1) * chunkSize < processed := by
      linarith
    exact_mod_cast hint
  · have hint : (processed : ℤ) ≤ ((processed : ℤ) + chunkSize - 1) / chunkSize * chunkSize := by
      linarith
    exact_mod_cast hint

/-- The streamed scoring is the full sort: the first candidates of the sorted ones, and counts and a
total of all of them. -/
theorem scoreFleetExpiry_eq (rows : List FleetBatchState) (chunkSize : ℤ) (riskThreshold : Decimal)
    (topLimit : ℤ) :
    scoreFleetExpiry rows chunkSize riskThreshold topLimit =
      scoreByFullSort rows chunkSize riskThreshold topLimit := by
  cases hcheck : checkArguments chunkSize riskThreshold topLimit with
  | error e => simp only [scoreFleetExpiry, scoreByFullSort, hcheck, bind, Except.bind]
  | ok done =>
    obtain ⟨hchunk, hfinite, hlimit⟩ := of_checkArguments hcheck
    simp only [scoreFleetExpiry, scoreByFullSort, hcheck, foldlM_scoreStep hfinite]
    cases scoreRows rows with
    | error e => rfl
    | ok candidates =>
      have hpos : 0 < topLimit.toNat := by omega
      have htop := sortedDescending_keepLargest hpos (nodup_key_reaching riskThreshold 1 candidates)
      simp only [bind, Except.bind, Except.map, Progress.after, summaryOf, htop, zero_add,
        fdiv_eq_ceil hchunk]

end ShelfWise.Science.Fleet
