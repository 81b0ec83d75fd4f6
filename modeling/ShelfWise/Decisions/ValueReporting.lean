import ShelfWise.Decisions.Store
import ShelfWise.Py.Datetime
import ShelfWise.Py.Sorted

/-!
# Monthly value statements

`shelfwise_backend/value_reporting.py`: what the decisions recovered in a month by their verified
receipts, and what the approved ones among the others are estimated at. A receipt places its decision
by the month it was verified in, an estimate by the month of the last update; `value_counted_once_iff`
says when no decision is counted twice.

`padsYears` tells whether `strftime` pads the year to four digits, which depends on the platform.
-/

namespace ShelfWise.Decisions

open Py

/-! ## Months -/

/-- `start.strftime("%Y-%m")`. -/
def monthText (padsYears : Bool) (year month : ℕ) : String :=
  let digits := padded 4 year
  String.ofList ((if padsYears then digits else digits.dropWhile (· = '0')) ++ '-' :: padded 2 month)

/-- `datetime.strptime(month, "%Y-%m")`; a month with one digit is refused by what follows. -/
def readMonth (text : String) : Option (ℕ × ℕ) := do
  let (year, rest) ← readDigits 4 0 text.toList
  let rest ← expect '-' rest
  let (month, rest) ← readDigits 2 0 rest
  if rest = [] ∧ 1 ≤ year ∧ 1 ≤ month ∧ month ≤ 12 then some (year, month) else none

/-- `month_bounds`, as instants. -/
def monthBounds (padsYears : Bool) (month : String) : Except Exc (ℤ × ℤ) :=
  match readMonth month with
  | none => .error (.valueError "month must use YYYY-MM format")
  | some (year, number) =>
    if monthText padsYears year number ≠ month then
      .error (.valueError "month must use YYYY-MM format")
    else if number = 12 then
      if year = 9999 then .error (.valueError "year 10000 is out of range")
      else .ok (monthStart year 12, monthStart (year + 1) 1)
    else .ok (monthStart year number, monthStart year (number + 1))

/-- `start <= instant < end`. -/
def within (bounds : ℤ × ℤ) (instant : ℤ) : Bool := bounds.1 ≤ instant ∧ instant < bounds.2

/-! ## Decisions -/

/-- `_ESTIMATE_FIELDS`. -/
def estimateFields : List String :=
  ["incremental_profit_minor_units", "markdown_margin_minor_units", "expected_revenue_minor_units",
    "line_revenue_minor_units", "stock_at_risk_minor_units", "revenue_exposure_minor_units",
    "stockout_exposure_minor_units"]

/-- `_non_negative_int`. -/
def nonNegativeInt : Value → Option ℤ
  | .int n => if n < 0 then none else some n
  | _ => none

/-- An estimate, by the field it is read from. -/
structure Estimate where
  field : String
  minorUnits : ℤ
  currency : String
deriving DecidableEq

/-- `_decision_estimate`. -/
def decisionEstimate (decision : Decision) : Option Estimate :=
  match Value.get decision "expected_outcome" with
  | .dict outcome => estimateFields.findSome? fun field =>
      (nonNegativeInt (Value.get outcome field)).map fun amount => ⟨field, amount, "ZAR"⟩
  | _ => none

/-- `_verified_receipt`. -/
def verifiedReceipt (decision : Decision) : List (String × Value) :=
  (Value.get decision "verified_outcome").items

/-- `_timestamp`, as an instant: what lies outside the calendar in UTC is no `ValueError`. -/
def timestamp : Value → Except Exc (Option ℤ)
  | .str text =>
    if text = "" then .ok none
    else match fromisoformat (replaceZ text) with
      | none => .ok none
      | some parsed =>
        if monthStart 1 1 ≤ parsed.instant ∧ parsed.instant < monthStart 10000 1 then
          .ok (some parsed.instant)
        else .error (.overflowError "date value out of range")
  | _ => .ok none

/-- `str(obj.get(key) or "")`. -/
def textOf (obj : List (String × Value)) (key : String) : String :=
  ((Value.get obj key).orElse (.str "")).toText

/-- The instant at which a decision was verified. -/
def verifiedAt (decision : Decision) : Except Exc (Option ℤ) :=
  if (verifiedReceipt decision).isEmpty then .ok none
  else timestamp (Value.get (verifiedReceipt decision) "verified_at")

/-- The amount of a receipt. -/
def verifiedAmount (decision : Decision) : Option ℤ :=
  nonNegativeInt (Value.get (verifiedReceipt decision) "minor_units")

/-- The instant of the last update of a decision. -/
def decisionAt (decision : Decision) : Except Exc (Option ℤ) :=
  timestamp ((Value.get decision "updated_at").orElse (Value.get decision "created_at"))

/-! ## The statement -/

/-- An item of `verified_receipts`. -/
structure ReceiptItem where
  decisionId : String
  taskId : String
  sourceReference : String
  verifiedAt : String
  verifiedBy : String
  minorUnits : ℤ
  currency : String
deriving DecidableEq

/-- An item of `unverified_decisions`. -/
structure UnverifiedItem where
  decisionId : String
  estimate : Option Estimate
deriving DecidableEq

/-- What a decision is for a month. -/
inductive Entry where
  | verified (item : ReceiptItem)
  | unverified (item : UnverifiedItem)
  | passed
deriving DecidableEq

/-- The item of a receipt. -/
def receiptItem (decision : Decision) (instant amount : ℤ) : ReceiptItem :=
  { decisionId := textOf decision "id"
    taskId := textOf (verifiedReceipt decision) "task_id"
    sourceReference := textOf (verifiedReceipt decision) "source_reference"
    verifiedAt := (civilOfInstant instant).isoformat
    verifiedBy := textOf (verifiedReceipt decision) "verified_by"
    minorUnits := amount
    currency := "ZAR" }

/-- The branch of a decision whose receipt does not fall in the month. -/
def estimateEntry (bounds : ℤ × ℤ) (decision : Decision) : Except Exc Entry := do
  let moment ← decisionAt decision
  if textOf decision "status" ≠ "approved" then .ok .passed
  else match moment.filter (within bounds) with
    | none => .ok .passed
    | some _ => .ok (.unverified ⟨textOf decision "id", decisionEstimate decision⟩)

/-- The body of the loop over the decisions. -/
def entryOf (bounds : ℤ × ℤ) (decision : Decision) : Except Exc Entry := do
  let moment ← verifiedAt decision
  match moment.filter (within bounds) with
  | some instant => match verifiedAmount decision with
    | some amount => .ok (.verified (receiptItem decision instant amount))
    | none => .ok .passed
  | none => estimateEntry bounds decision

/-- What the loop adds up. -/
structure Totals where
  verifiedTotal : ℤ
  estimatedTotal : ℤ
  verifiedReceipts : List ReceiptItem
  unverifiedDecisions : List UnverifiedItem

/-- What an entry adds. -/
def Totals.add (totals : Totals) : Entry → Totals
  | .verified item =>
    { totals with
      verifiedTotal := totals.verifiedTotal + item.minorUnits
      verifiedReceipts := totals.verifiedReceipts ++ [item] }
  | .unverified item =>
    { totals with
      estimatedTotal := totals.estimatedTotal + (item.estimate.map (·.minorUnits)).getD 0
      unverifiedDecisions := totals.unverifiedDecisions ++ [item] }
  | .passed => totals

/-- One turn of the loop. -/
def countDecision (bounds : ℤ × ℤ) (totals : Totals) (decision : Decision) : Except Exc Totals := do
  let entry ← entryOf bounds decision
  .ok (totals.add entry)

/-- The statement of a month. -/
structure ValueStatement where
  month : String
  currency : String
  verifiedRecoveredMinorUnits : ℤ
  verifiedReceiptCount : ℕ
  verifiedReceipts : List ReceiptItem
  estimatedOpportunityMinorUnits : ℤ
  unverifiedDecisionCount : ℕ
  unverifiedDecisions : List UnverifiedItem
  method : String

/-- `monthly_value_statement`. -/
def monthlyValueStatement (padsYears : Bool) (decisions : List Decision) (month : String) :
    Except Exc ValueStatement := do
  let bounds ← monthBounds padsYears month
  let totals ← decisions.foldlM (countDecision bounds) ⟨0, 0, [], []⟩
  .ok
    { month := month
      currency := "ZAR"
      verifiedRecoveredMinorUnits := totals.verifiedTotal
      verifiedReceiptCount := totals.verifiedReceipts.length
      verifiedReceipts :=
        sortedBy (fun item => toLex (item.verifiedAt, item.decisionId)) totals.verifiedReceipts
      estimatedOpportunityMinorUnits := totals.estimatedTotal
      unverifiedDecisionCount := totals.unverifiedDecisions.length
      unverifiedDecisions := totals.unverifiedDecisions
      method := "Verified recovered value includes only explicit task-completion amounts with a "
        ++ "source reference; model outcomes and simulations are excluded." }

/-! ## What a statement promises -/

/-- A receipt with an instant and an amount. -/
def WellFormed (decision : Decision) : Prop :=
  (∃ instant, verifiedAt decision = .ok (some instant)) ∧ ∃ amount, verifiedAmount decision = some amount

/-- What a receipt amounts to in a month. -/
def verifiedIn (bounds : ℤ × ℤ) (decision : Decision) : ℤ :=
  match verifiedAt decision with
  | .ok (some instant) => if within bounds instant then (verifiedAmount decision).getD 0 else 0
  | _ => 0

/-- Two statements with the same items, the unverified ones in any order. -/
structure SameStatement (a b : ValueStatement) : Prop where
  month : a.month = b.month
  currency : a.currency = b.currency
  verified : a.verifiedRecoveredMinorUnits = b.verifiedRecoveredMinorUnits
  receiptCount : a.verifiedReceiptCount = b.verifiedReceiptCount
  receipts : a.verifiedReceipts = b.verifiedReceipts
  estimated : a.estimatedOpportunityMinorUnits = b.estimatedOpportunityMinorUnits
  unverifiedCount : a.unverifiedDecisionCount = b.unverifiedDecisionCount
  unverified : a.unverifiedDecisions.Perm b.unverifiedDecisions
  method : a.method = b.method

/-- Every month has its statement, with the receipts that fall in it; the arrangement of the decisions
does not matter; and a decision with a well-formed receipt counts in one month, as verified. -/
structure CountedOnce (padsYears : Bool) (decisions : List Decision) : Prop where
  total : ∀ month bounds, monthBounds padsYears month = .ok bounds →
    ∃ statement, monthlyValueStatement padsYears decisions month = .ok statement ∧
      statement.verifiedRecoveredMinorUnits = (decisions.map (verifiedIn bounds)).sum
  arranged : ∀ arranged, arranged.Perm decisions → ∀ month statement,
    monthlyValueStatement padsYears decisions month = .ok statement →
      ∃ other, monthlyValueStatement padsYears arranged month = .ok other ∧
        SameStatement other statement
  once : ∀ decision ∈ decisions, WellFormed decision → ∃! month, ∃ statement,
    monthlyValueStatement padsYears decisions month = .ok statement ∧
      textOf decision "id" ∈ statement.verifiedReceipts.map (·.decisionId)
  apart : ∀ decision ∈ decisions, WellFormed decision → ∀ month statement,
    monthlyValueStatement padsYears decisions month = .ok statement →
      textOf decision "id" ∉ statement.unverifiedDecisions.map (·.decisionId)

/-- The instants of a decision lie in the calendar, that of a well-formed receipt in a month that has a
statement, and an approved decision with such a receipt was last updated in the month of its receipt,
or in none that has a statement. -/
structure OneMonth (padsYears : Bool) (decision : Decision) : Prop where
  verified : ∃ moment, verifiedAt decision = .ok moment
  updated : ∃ moment, decisionAt decision = .ok moment
  covered : WellFormed decision → ∀ instant, verifiedAt decision = .ok (some instant) →
    ∃ month bounds, monthBounds padsYears month = .ok bounds ∧ within bounds instant = true
  same : WellFormed decision → textOf decision "status" = "approved" →
    ∀ instant updated month bounds, verifiedAt decision = .ok (some instant) →
      decisionAt decision = .ok (some updated) → monthBounds padsYears month = .ok bounds →
        within bounds updated = true → within bounds instant = true

/-! ## The months of statements -/

section Bounds

variable {padsYears : Bool} {month : String} {bounds : ℤ × ℤ}

/-- A month with a statement is one of the calendar, written in one way. -/
theorem monthBounds_cases (h : monthBounds padsYears month = .ok bounds) :
    ∃ k, 12 ≤ k ∧ month = monthText padsYears (k / 12) (k % 12 + 1) ∧
      bounds = (nthStart k, nthStart (k + 1)) := by
  unfold monthBounds at h
  cases hread : readMonth month with
  | none =>
    rw [hread] at h
    cases h
  | some read =>
    obtain ⟨year, number⟩ := read
    rw [hread] at h
    have hvalid : 1 ≤ year ∧ 1 ≤ number ∧ number ≤ 12 := by
      unfold readMonth at hread
      obtain ⟨⟨y, rest⟩, -, hread⟩ := Option.bind_eq_some_iff.mp hread
      obtain ⟨rest', -, hread⟩ := Option.bind_eq_some_iff.mp hread
      obtain ⟨⟨m, rest''⟩, -, hread⟩ := Option.bind_eq_some_iff.mp hread
      dsimp only at hread
      split_ifs at hread with hrange
      cases hread
      exact hrange.2
    obtain ⟨hyear, hlow, hhigh⟩ := hvalid
    dsimp only at h
    have hquotient : (12 * year + (number - 1)) / 12 = year := by omega
    have hremainder : (12 * year + (number - 1)) % 12 + 1 = number := by omega
    split_ifs at h with htext hdecember hlast
    · have heq := Except.ok.inj h
      subst heq
      refine ⟨12 * year + (number - 1), by omega, ?_, ?_⟩
      · rw [hquotient, hremainder]
        exact (not_not.mp htext).symm
      · have hnext : 12 * year + (number - 1) + 1 = 12 * (year + 1) + (1 - 1) := by omega
        rw [hnext, nthStart_eq year hlow hhigh, nthStart_eq (year + 1) le_rfl (by omega), hdecember]
    · have heq := Except.ok.inj h
      subst heq
      refine ⟨12 * year + (number - 1), by omega, ?_, ?_⟩
      · rw [hquotient, hremainder]
        exact (not_not.mp htext).symm
      · have hnext : 12 * year + (number - 1) + 1 = 12 * year + (number + 1 - 1) := by omega
        rw [hnext, nthStart_eq year hlow hhigh, nthStart_eq year (by omega) (by omega)]

/-- The digits of a year with four of them. -/
theorem monthText_of_four_digits (padsYears : Bool) {year : ℕ} (month : ℕ) (h : 1000 ≤ year)
    (h' : year ≤ 9999) :
    monthText padsYears year month = String.ofList (padded 4 year ++ '-' :: padded 2 month) := by
  have hfirst : digitChar (year / 10 ^ 3 % 10) ≠ '0' := by
    intro hzero
    have hdigit := digitChar_toNat (Nat.mod_lt (year / 10 ^ 3) (by decide : 0 < 10))
    rw [hzero] at hdigit
    have hcode : ('0').toNat - 48 = 0 := rfl
    omega
  have hdrop : (padded 4 year).dropWhile (· = '0') = padded 4 year := by
    apply List.dropWhile_cons_of_neg
    rw [decide_eq_true_eq]
    exact hfirst
  unfold monthText
  cases padsYears
  · show String.ofList ((padded 4 year).dropWhile (· = '0') ++ '-' :: padded 2 month) = _
    rw [hdrop]
  · rfl

/-- Every month of the years from 1000 on has a statement, but for the last one of the calendar. -/
theorem monthBounds_monthText (padsYears : Bool) {year number : ℕ} (h : 1000 ≤ year) (h' : year ≤ 9999)
    (hlow : 1 ≤ number) (hhigh : number ≤ 12) (hlast : ¬ (number = 12 ∧ year = 9999)) :
    monthBounds padsYears (monthText padsYears year number) =
      .ok (nthStart (12 * year + (number - 1)), nthStart (12 * year + (number - 1) + 1)) := by
  have hread : readMonth (monthText padsYears year number) = some (year, number) := by
    rw [monthText_of_four_digits padsYears number h h']
    unfold readMonth
    rw [String.toList_ofList, readDigits_of_lt 4 (by omega)]
    have hdigits := readDigits_of_lt 2 (by omega : number < 10 ^ 2) []
    rw [List.append_nil] at hdigits
    simp only [Option.bind_eq_bind, Option.bind_some, expect_self, hdigits]
    exact if_pos ⟨trivial, by omega, hlow, hhigh⟩
  unfold monthBounds
  rw [hread]
  dsimp only
  rw [if_neg (not_not.mpr rfl)]
  split_ifs with hdecember hyear
  · exact absurd ⟨hdecember, hyear⟩ hlast
  · have hnext : 12 * year + (number - 1) + 1 = 12 * (year + 1) + (1 - 1) := by omega
    rw [hnext, nthStart_eq year hlow hhigh, nthStart_eq (year + 1) le_rfl (by omega), hdecember]
  · have hnext : 12 * year + (number - 1) + 1 = 12 * year + (number + 1 - 1) := by omega
    rw [hnext, nthStart_eq year hlow hhigh, nthStart_eq year (by omega) (by omega)]

theorem within_iff {instant : ℤ} :
    within bounds instant = true ↔ bounds.1 ≤ instant ∧ instant < bounds.2 := decide_eq_true_iff

/-- No instant lies in two months. -/
theorem month_eq_of_within {month' : String} {bounds' : ℤ × ℤ} {instant : ℤ}
    (h : monthBounds padsYears month = .ok bounds) (h' : monthBounds padsYears month' = .ok bounds')
    (hin : within bounds instant = true) (hin' : within bounds' instant = true) : month = month' := by
  obtain ⟨k, hk, rfl, rfl⟩ := monthBounds_cases h
  obtain ⟨k', hk', rfl, rfl⟩ := monthBounds_cases h'
  rw [within_iff] at hin hin'
  obtain rfl := month_unique hk hk' hin hin'
  rfl

/-- From the year 1000 to the end of November 9999 every instant lies in a month with a statement. -/
theorem covered_of_bounds (padsYears : Bool) {instant : ℤ} (hlow : monthStart 1000 1 ≤ instant)
    (hhigh : instant < monthStart 9999 12) :
    ∃ month bounds, monthBounds padsYears month = .ok bounds ∧ within bounds instant = true := by
  rw [← nthStart_eq 1000 le_rfl (by omega)] at hlow
  rw [← nthStart_eq 9999 (by omega) le_rfl] at hhigh
  obtain ⟨k, hk, hk', hin⟩ := exists_month hlow hhigh (by omega)
  have hindex : 12 * (k / 12) + (k % 12 + 1 - 1) = k := by omega
  have hbounds := monthBounds_monthText padsYears (by omega : 1000 ≤ k / 12) (by omega : k / 12 ≤ 9999)
    (by omega : 1 ≤ k % 12 + 1) (by omega) (by omega)
  rw [hindex] at hbounds
  exact ⟨_, _, hbounds, within_iff.mpr hin⟩

/-- The months with a statement tile these years: every instant lies in exactly one of them. -/
theorem existsUnique_month_of_statement (padsYears : Bool) {instant : ℤ}
    (hlow : monthStart 1000 1 ≤ instant) (hhigh : instant < monthStart 9999 12) :
    ∃! month, ∃ bounds, monthBounds padsYears month = .ok bounds ∧ within bounds instant = true := by
  obtain ⟨month, bounds, hbounds, hin⟩ := covered_of_bounds padsYears hlow hhigh
  refine ⟨month, ⟨bounds, hbounds, hin⟩, ?_⟩
  rintro month' ⟨bounds', hbounds', hin'⟩
  exact month_eq_of_within hbounds' hbounds hin' hin

/-- The start of the epoch. -/
theorem existsUnique_month_of_epoch : ∃! month, ∃ bounds,
    monthBounds true month = .ok bounds ∧ within bounds 0 = true :=
  existsUnique_month_of_statement true (by decide +kernel) (by decide +kernel)

/-- July and August 2026 have statements. -/
theorem two_months (padsYears : Bool) : ∃ july august,
    monthBounds padsYears "2026-07" = .ok july ∧ monthBounds padsYears "2026-08" = .ok august := by
  have hjuly : (monthBounds padsYears "2026-07").toOption.isSome := by
    cases padsYears <;> decide +kernel
  have haugust : (monthBounds padsYears "2026-08").toOption.isSome := by
    cases padsYears <;> decide +kernel
  obtain ⟨july, hjuly⟩ := exists_eq_ok hjuly
  obtain ⟨august, haugust⟩ := exists_eq_ok haugust
  exact ⟨july, august, hjuly, haugust⟩

/-- Every receipt misses one of the months with a statement. -/
theorem exists_not_within (padsYears : Bool) (instant : ℤ) :
    ∃ month bounds, monthBounds padsYears month = .ok bounds ∧ within bounds instant = false := by
  obtain ⟨july, august, hjuly, haugust⟩ := two_months padsYears
  cases hin : within july instant with
  | false => exact ⟨"2026-07", july, hjuly, hin⟩
  | true =>
    refine ⟨"2026-08", august, haugust, ?_⟩
    cases hin' : within august instant with
    | false => rfl
    | true => exact absurd (month_eq_of_within hjuly haugust hin hin') (by decide)

end Bounds

/-! ## The entries of a month -/

section Entries

variable {bounds : ℤ × ℤ} {decision : Decision} {entry : Entry}

/-- The entry of a decision; one that has none is passed over. -/
def entryD (bounds : ℤ × ℤ) (decision : Decision) : Entry :=
  (entryOf bounds decision).toOption.getD .passed

/-- The amount, the estimate and the items that an entry adds. -/
def Entry.amount : Entry → ℤ
  | .verified item => item.minorUnits
  | _ => 0

def Entry.estimated : Entry → ℤ
  | .unverified item => (item.estimate.map (·.minorUnits)).getD 0
  | _ => 0

def Entry.receiptItem : Entry → Option ReceiptItem
  | .verified item => some item
  | _ => none

def Entry.unverifiedItem : Entry → Option UnverifiedItem
  | .unverified item => some item
  | _ => none

/-- An entry is made where both instants are read, the second one for a receipt of another month. -/
theorem entryOf_eq_ok_iff : (∃ entry, entryOf bounds decision = .ok entry) ↔
    ∃ moment, verifiedAt decision = .ok moment ∧
      (moment.filter (within bounds) = none → ∃ updated, decisionAt decision = .ok updated) := by
  unfold entryOf
  constructor
  · rintro ⟨entry, h⟩
    obtain ⟨moment, hmoment, h⟩ := bind_eq_ok_iff.mp h
    refine ⟨moment, hmoment, fun hnone => ?_⟩
    rw [hnone] at h
    obtain ⟨updated, hupdated, -⟩ := bind_eq_ok_iff.mp h
    exact ⟨updated, hupdated⟩
  · rintro ⟨moment, hmoment, hupdated⟩
    rw [hmoment]
    show ∃ entry, (match moment.filter (within bounds) with
      | some instant => match verifiedAmount decision with
        | some amount => .ok (.verified (receiptItem decision instant amount))
        | none => .ok .passed
      | none => estimateEntry bounds decision : Except Exc Entry) = .ok entry
    cases hfilter : moment.filter (within bounds) with
    | some instant =>
      cases verifiedAmount decision with
      | some amount => exact ⟨_, rfl⟩
      | none => exact ⟨_, rfl⟩
    | none =>
      obtain ⟨updated, hupdated⟩ := hupdated hfilter
      show ∃ entry, estimateEntry bounds decision = .ok entry
      unfold estimateEntry
      rw [hupdated]
      show ∃ entry, (if textOf decision "status" ≠ "approved" then .ok .passed
        else match updated.filter (within bounds) with
          | none => .ok .passed
          | some _ => .ok (.unverified ⟨textOf decision "id", decisionEstimate decision⟩)
            : Except Exc Entry) = .ok entry
      split_ifs
      · exact ⟨_, rfl⟩
      · cases updated.filter (within bounds) with
        | none => exact ⟨_, rfl⟩
        | some _ => exact ⟨_, rfl⟩

/-- What the entry of a decision is: its receipt in the month, with an amount that can be read or without
one, and otherwise its estimate, if it was approved and last updated in the month. -/
inductive EntrySpec (bounds : ℤ × ℤ) (decision : Decision) : Entry → Prop where
  | verified {instant amount : ℤ} (hat : verifiedAt decision = .ok (some instant))
      (hin : within bounds instant = true) (hamount : verifiedAmount decision = some amount) :
      EntrySpec bounds decision (.verified (receiptItem decision instant amount))
  | unreadable {instant : ℤ} (hat : verifiedAt decision = .ok (some instant))
      (hin : within bounds instant = true) (hamount : verifiedAmount decision = none) :
      EntrySpec bounds decision .passed
  | unverified {moment : Option ℤ} {updated : ℤ} (hat : verifiedAt decision = .ok moment)
      (hout : moment.filter (within bounds) = none) (hupdated : decisionAt decision = .ok (some updated))
      (hin : within bounds updated = true) (happroved : textOf decision "status" = "approved") :
      EntrySpec bounds decision (.unverified ⟨textOf decision "id", decisionEstimate decision⟩)
  | passed {moment updated : Option ℤ} (hat : verifiedAt decision = .ok moment)
      (hout : moment.filter (within bounds) = none) (hupdated : decisionAt decision = .ok updated)
      (hnot : textOf decision "status" = "approved" → updated.filter (within bounds) = none) :
      EntrySpec bounds decision .passed

theorem entryOf_spec (h : entryOf bounds decision = .ok entry) : EntrySpec bounds decision entry := by
  unfold entryOf at h
  obtain ⟨moment, hmoment, h⟩ := bind_eq_ok_iff.mp h
  cases hfilter : moment.filter (within bounds) with
  | some instant =>
    obtain ⟨rfl, hin⟩ := Option.filter_eq_some_iff.mp hfilter
    rw [hfilter] at h
    cases hamount : verifiedAmount decision with
    | some amount =>
      rw [hamount] at h
      cases h
      exact .verified hmoment hin hamount
    | none =>
      rw [hamount] at h
      cases h
      exact .unreadable hmoment hin hamount
  | none =>
    rw [hfilter] at h
    obtain ⟨updated, hupdated, h⟩ := bind_eq_ok_iff.mp h
    split_ifs at h with happroved
    · cases h
      exact .passed hmoment hfilter hupdated fun heq => absurd heq happroved
    · cases hupdatedIn : updated.filter (within bounds) with
      | none =>
        rw [hupdatedIn] at h
        cases h
        exact .passed hmoment hfilter hupdated fun _ => hupdatedIn
      | some instant =>
        obtain ⟨rfl, hin⟩ := Option.filter_eq_some_iff.mp hupdatedIn
        rw [hupdatedIn] at h
        cases h
        exact .unverified hmoment hfilter hupdated hin (not_not.mp happroved)

theorem entryD_eq (h : entryOf bounds decision = .ok entry) : entryD bounds decision = entry := by
  rw [entryD, h]
  rfl

theorem verifiedIn_of_out {moment : Option ℤ} (hat : verifiedAt decision = .ok moment)
    (hout : moment.filter (within bounds) = none) : verifiedIn bounds decision = 0 := by
  unfold verifiedIn
  rw [hat]
  cases moment with
  | none => rfl
  | some instant => exact if_neg (Option.filter_eq_none_iff.mp hout instant rfl)

/-- The amount of an entry is what the receipt amounts to in the month. -/
theorem EntrySpec.amount_eq (h : EntrySpec bounds decision entry) :
    entry.amount = verifiedIn bounds decision := by
  cases h with
  | verified hat hin hamount =>
    rw [verifiedIn, hat]
    show _ = if within bounds _ = true then _ else _
    rw [if_pos hin, hamount]
    rfl
  | unreadable hat hin hamount =>
    rw [verifiedIn, hat]
    show _ = if within bounds _ = true then _ else _
    rw [if_pos hin, hamount]
    rfl
  | unverified hat hout hupdated hin happroved => exact (verifiedIn_of_out hat hout).symm
  | passed hat hout hupdated hnot => exact (verifiedIn_of_out hat hout).symm

/-- Only the receipt of a decision is an item of it, and only where it falls in the month. -/
theorem EntrySpec.receipt_inv {item : ReceiptItem} (h : EntrySpec bounds decision entry)
    (hitem : entry.receiptItem = some item) :
    item.decisionId = textOf decision "id" ∧
      ∃ instant, verifiedAt decision = .ok (some instant) ∧ within bounds instant = true := by
  cases h with
  | verified hat hin hamount =>
    cases hitem
    exact ⟨rfl, _, hat, hin⟩
  | unreadable hat hin hamount => cases hitem
  | unverified hat hout hupdated hin happroved => cases hitem
  | passed hat hout hupdated hnot => cases hitem

/-- Only an approved decision that was updated in the month is unverified in it. -/
theorem EntrySpec.unverified_inv {item : UnverifiedItem} (h : EntrySpec bounds decision entry)
    (hitem : entry.unverifiedItem = some item) :
    item.decisionId = textOf decision "id" ∧ textOf decision "status" = "approved" ∧
      (∃ moment, verifiedAt decision = .ok moment ∧ moment.filter (within bounds) = none) ∧
        ∃ updated, decisionAt decision = .ok (some updated) ∧ within bounds updated = true := by
  cases h with
  | verified hat hin hamount => cases hitem
  | unreadable hat hin hamount => cases hitem
  | unverified hat hout hupdated hin happroved =>
    cases hitem
    exact ⟨rfl, happroved, ⟨_, hat, hout⟩, _, hupdated, hin⟩
  | passed hat hout hupdated hnot => cases hitem

end Entries

/-! ## The loop -/

section Loop

variable {bounds : ℤ × ℤ} {decisions : List Decision}

/-- The entries of all decisions. -/
def entriesOf (bounds : ℤ × ℤ) (decisions : List Decision) : List Entry :=
  decisions.map (entryD bounds)

theorem foldl_entriesOf_cons {decision : Decision} {entry : Entry}
    (h : entryOf bounds decision = .ok entry) (rest : List Decision) (totals : Totals) :
    (entriesOf bounds (decision :: rest)).foldl Totals.add totals
      = (entriesOf bounds rest).foldl Totals.add (totals.add entry) := by
  rw [entriesOf, List.map_cons, List.foldl_cons, entryD_eq h]
  rfl

theorem foldlM_countDecision (decisions : List Decision) (totals totals' : Totals) :
    decisions.foldlM (countDecision bounds) totals = .ok totals' ↔
      (∀ decision ∈ decisions, ∃ entry, entryOf bounds decision = .ok entry) ∧
        totals' = (entriesOf bounds decisions).foldl Totals.add totals := by
  induction decisions generalizing totals with
  | nil =>
    constructor
    · intro h
      cases h
      exact ⟨fun _ h => absurd h List.not_mem_nil, rfl⟩
    · rintro ⟨-, rfl⟩
      rfl
  | cons decision rest ih =>
    rw [List.foldlM_cons, bind_eq_ok_iff]
    constructor
    · rintro ⟨next, hstep, h⟩
      obtain ⟨entry, hentry, hstep⟩ := bind_eq_ok_iff.mp hstep
      cases hstep
      obtain ⟨hrest, rfl⟩ := (ih _).mp h
      exact ⟨List.forall_mem_cons.mpr ⟨⟨entry, hentry⟩, hrest⟩,
        (foldl_entriesOf_cons hentry rest totals).symm⟩
    · rintro ⟨hall, rfl⟩
      obtain ⟨⟨entry, hentry⟩, hrest⟩ := List.forall_mem_cons.mp hall
      exact ⟨totals.add entry, bind_eq_ok_iff.mpr ⟨entry, hentry, rfl⟩,
        (ih _).mpr ⟨hrest, foldl_entriesOf_cons hentry rest totals⟩⟩

/-- What a list of entries adds up to. -/
theorem foldl_add (entries : List Entry) (totals : Totals) : entries.foldl Totals.add totals =
    { verifiedTotal := totals.verifiedTotal + (entries.map Entry.amount).sum
      estimatedTotal := totals.estimatedTotal + (entries.map Entry.estimated).sum
      verifiedReceipts := totals.verifiedReceipts ++ entries.filterMap Entry.receiptItem
      unverifiedDecisions := totals.unverifiedDecisions ++ entries.filterMap Entry.unverifiedItem } := by
  induction entries generalizing totals with
  | nil => simp only [List.foldl_nil, List.map_nil, List.sum_nil, List.filterMap_nil, add_zero,
      List.append_nil]
  | cons entry rest ih =>
    rw [List.foldl_cons, ih]
    cases entry with
    | verified item =>
      simp only [Totals.add, Entry.amount, Entry.estimated, Entry.receiptItem, Entry.unverifiedItem,
        List.map_cons, List.sum_cons, List.filterMap_cons, List.append_assoc, List.singleton_append,
        add_assoc, zero_add]
    | unverified item =>
      simp only [Totals.add, Entry.amount, Entry.estimated, Entry.receiptItem, Entry.unverifiedItem,
        List.map_cons, List.sum_cons, List.filterMap_cons, List.append_assoc, List.singleton_append,
        add_assoc, zero_add]
    | passed =>
      simp only [Totals.add, Entry.amount, Entry.estimated, Entry.receiptItem, Entry.unverifiedItem,
        List.map_cons, List.sum_cons, List.filterMap_cons, zero_add]

end Loop

/-! ## Statements -/

section Statements

variable {padsYears : Bool} {decisions : List Decision} {month : String} {bounds : ℤ × ℤ}
  {statement : ValueStatement}

/-- The key of the receipts. -/
def receiptKey (item : ReceiptItem) : Lex (String × String) := toLex (item.verifiedAt, item.decisionId)

/-- The statement of a month of which every decision has an entry. -/
def statementOf (bounds : ℤ × ℤ) (decisions : List Decision) (month : String) : ValueStatement :=
  { month := month
    currency := "ZAR"
    verifiedRecoveredMinorUnits := ((entriesOf bounds decisions).map Entry.amount).sum
    verifiedReceiptCount := ((entriesOf bounds decisions).filterMap Entry.receiptItem).length
    verifiedReceipts :=
      sortedBy receiptKey ((entriesOf bounds decisions).filterMap Entry.receiptItem)
    estimatedOpportunityMinorUnits := ((entriesOf bounds decisions).map Entry.estimated).sum
    unverifiedDecisionCount := ((entriesOf bounds decisions).filterMap Entry.unverifiedItem).length
    unverifiedDecisions := (entriesOf bounds decisions).filterMap Entry.unverifiedItem
    method := "Verified recovered value includes only explicit task-completion amounts with a "
      ++ "source reference; model outcomes and simulations are excluded." }

/-- A statement is made where every decision has an entry. -/
theorem monthlyValueStatement_eq_ok_iff (hbounds : monthBounds padsYears month = .ok bounds) :
    monthlyValueStatement padsYears decisions month = .ok statement ↔
      (∀ decision ∈ decisions, ∃ entry, entryOf bounds decision = .ok entry) ∧
        statement = statementOf bounds decisions month := by
  unfold monthlyValueStatement
  rw [hbounds]
  show (decisions.foldlM (countDecision bounds) ⟨0, 0, [], []⟩ >>= _) = _ ↔ _
  rw [bind_eq_ok_iff]
  constructor
  · rintro ⟨totals, htotals, h⟩
    obtain ⟨hall, rfl⟩ := (foldlM_countDecision _ _ _).mp htotals
    refine ⟨hall, ?_⟩
    rw [foldl_add] at h
    have heq := Except.ok.inj h
    rw [← heq]
    simp only [zero_add, List.nil_append]
    rfl
  · rintro ⟨hall, rfl⟩
    refine ⟨_, (foldlM_countDecision _ _ _).mpr ⟨hall, rfl⟩, ?_⟩
    rw [foldl_add]
    simp only [zero_add, List.nil_append]
    rfl

/-- The receipts of a statement are those of its decisions. -/
theorem mem_receipts_iff {item : ReceiptItem} :
    item ∈ (statementOf bounds decisions month).verifiedReceipts ↔
      ∃ decision ∈ decisions, (entryD bounds decision).receiptItem = some item := by
  show item ∈ sortedBy receiptKey _ ↔ _
  rw [mem_sortedBy, List.mem_filterMap, entriesOf]
  simp only [List.mem_map, exists_exists_and_eq_and]

theorem mem_unverified_iff {item : UnverifiedItem} :
    item ∈ (statementOf bounds decisions month).unverifiedDecisions ↔
      ∃ decision ∈ decisions, (entryD bounds decision).unverifiedItem = some item := by
  show item ∈ List.filterMap _ _ ↔ _
  rw [List.mem_filterMap, entriesOf]
  simp only [List.mem_map, exists_exists_and_eq_and]

/-- Distinct identifiers tell the decisions apart. -/
theorem eq_of_id (hids : (decisions.map fun decision => textOf decision "id").Nodup)
    {a b : Decision} (ha : a ∈ decisions) (hb : b ∈ decisions) (h : textOf a "id" = textOf b "id") :
    a = b := List.inj_on_of_nodup_map hids ha hb h

/-- The decision of a receipt was verified in the month. -/
theorem within_of_receipt (hids : (decisions.map fun decision => textOf decision "id").Nodup)
    (hall : ∀ decision ∈ decisions, ∃ entry, entryOf bounds decision = .ok entry)
    {decision : Decision} (hdecision : decision ∈ decisions)
    (h : textOf decision "id" ∈
      (statementOf bounds decisions month).verifiedReceipts.map (·.decisionId)) :
    ∃ instant, verifiedAt decision = .ok (some instant) ∧ within bounds instant = true := by
  obtain ⟨item, hitem, hid⟩ := List.mem_map.mp h
  obtain ⟨other, hother, hentry⟩ := mem_receipts_iff.mp hitem
  obtain ⟨entry, hok⟩ := hall other hother
  rw [entryD_eq hok] at hentry
  obtain ⟨hsame, hwithin⟩ := (entryOf_spec hok).receipt_inv hentry
  obtain rfl := eq_of_id hids hother hdecision (hsame.symm.trans hid)
  exact hwithin

/-- A well-formed receipt is among those of its month. -/
theorem receipt_of_within {decision : Decision} (hdecision : decision ∈ decisions) {instant amount : ℤ}
    (hat : verifiedAt decision = .ok (some instant)) (hin : within bounds instant = true)
    (hamount : verifiedAmount decision = some amount) :
    textOf decision "id" ∈
      (statementOf bounds decisions month).verifiedReceipts.map (·.decisionId) := by
  have hentry : entryOf bounds decision = .ok (.verified (receiptItem decision instant amount)) := by
    unfold entryOf
    rw [hat]
    show (match (some instant).filter (within bounds) with
      | some instant => match verifiedAmount decision with
        | some amount => .ok (.verified (receiptItem decision instant amount))
        | none => .ok .passed
      | none => estimateEntry bounds decision : Except Exc Entry) = _
    rw [Option.filter_some, if_pos hin, hamount]
  refine List.mem_map.mpr ⟨receiptItem decision instant amount, ?_, rfl⟩
  refine mem_receipts_iff.mpr ⟨decision, hdecision, ?_⟩
  rw [entryD_eq hentry]
  rfl

/-- The decision of an unverified item is approved, was updated in the month and not verified in it. -/
theorem unverified_inv (hids : (decisions.map fun decision => textOf decision "id").Nodup)
    (hall : ∀ decision ∈ decisions, ∃ entry, entryOf bounds decision = .ok entry)
    {decision : Decision} (hdecision : decision ∈ decisions)
    (h : textOf decision "id" ∈
      (statementOf bounds decisions month).unverifiedDecisions.map (·.decisionId)) :
    textOf decision "status" = "approved" ∧
      (∃ moment, verifiedAt decision = .ok moment ∧ moment.filter (within bounds) = none) ∧
        ∃ updated, decisionAt decision = .ok (some updated) ∧ within bounds updated = true := by
  obtain ⟨item, hitem, hid⟩ := List.mem_map.mp h
  obtain ⟨other, hother, hentry⟩ := mem_unverified_iff.mp hitem
  obtain ⟨entry, hok⟩ := hall other hother
  rw [entryD_eq hok] at hentry
  obtain ⟨hsame, hrest⟩ := (entryOf_spec hok).unverified_inv hentry
  obtain rfl := eq_of_id hids hother hdecision (hsame.symm.trans hid)
  exact hrest

/-- An approved decision that was updated in the month and not verified in it is unverified. -/
theorem unverified_of_within {decision : Decision} (hdecision : decision ∈ decisions)
    {moment : Option ℤ} {updated : ℤ} (hat : verifiedAt decision = .ok moment)
    (hout : moment.filter (within bounds) = none) (happroved : textOf decision "status" = "approved")
    (hupdated : decisionAt decision = .ok (some updated)) (hin : within bounds updated = true) :
    textOf decision "id" ∈
      (statementOf bounds decisions month).unverifiedDecisions.map (·.decisionId) := by
  have hentry : entryOf bounds decision =
      .ok (.unverified ⟨textOf decision "id", decisionEstimate decision⟩) := by
    obtain ⟨entry, hok⟩ := entryOf_eq_ok_iff.mpr ⟨moment, hat, fun _ => ⟨_, hupdated⟩⟩
    cases entryOf_spec hok with
    | verified hat' hin' hamount =>
      cases hat.symm.trans hat'
      exact absurd hin' (Option.filter_eq_none_iff.mp hout _ rfl)
    | unreadable hat' hin' hamount =>
      cases hat.symm.trans hat'
      exact absurd hin' (Option.filter_eq_none_iff.mp hout _ rfl)
    | unverified hat' hout' hupdated' hin' happroved' => exact hok
    | passed hat' hout' hupdated' hnot =>
      cases hupdated.symm.trans hupdated'
      exact absurd hin (Option.filter_eq_none_iff.mp (hnot happroved) _ rfl)
  refine List.mem_map.mpr ⟨⟨textOf decision "id", decisionEstimate decision⟩, ?_, rfl⟩
  refine mem_unverified_iff.mpr ⟨decision, hdecision, ?_⟩
  rw [entryD_eq hentry]
  rfl

/-- An arrangement of the decisions has the same statement. -/
theorem sameStatement_of_perm (hids : (decisions.map fun decision => textOf decision "id").Nodup)
    (hall : ∀ decision ∈ decisions, ∃ entry, entryOf bounds decision = .ok entry)
    {arranged : List Decision} (hperm : arranged.Perm decisions) :
    SameStatement (statementOf bounds arranged month) (statementOf bounds decisions month) := by
  have hentries : (entriesOf bounds arranged).Perm (entriesOf bounds decisions) := hperm.map _
  have hreceipts := hentries.filterMap Entry.receiptItem
  have hunverified := hentries.filterMap Entry.unverifiedItem
  refine ⟨rfl, rfl, (hentries.map _).sum_eq, hreceipts.length_eq, ?_, (hentries.map _).sum_eq,
    hunverified.length_eq, hunverified, rfl⟩
  refine sortedBy_eq_of_perm hreceipts fun a ha b hb hkey => ?_
  -- the receipts are those of decisions with one identifier
  have hmem : ∀ {item}, item ∈ (entriesOf bounds arranged).filterMap Entry.receiptItem →
      ∃ decision ∈ decisions, (entryD bounds decision).receiptItem = some item ∧
        item.decisionId = textOf decision "id" := by
    intro item hitem
    obtain ⟨decision, hdecision, hentry⟩ := (@mem_receipts_iff decisions month bounds item).mp
      (mem_sortedBy.mpr (hreceipts.mem_iff.mp hitem))
    obtain ⟨entry, hok⟩ := hall decision hdecision
    refine ⟨decision, hdecision, hentry, ?_⟩
    rw [entryD_eq hok] at hentry
    exact ((entryOf_spec hok).receipt_inv hentry).1
  obtain ⟨first, hfirst, hentry, hid⟩ := hmem ha
  obtain ⟨second, hsecond, hentry', hid'⟩ := hmem hb
  have hsame : a.decisionId = b.decisionId := (Prod.ext_iff.mp (toLex.injective hkey)).2
  obtain rfl := eq_of_id hids hfirst hsecond (hid.symm.trans (hsame.trans hid'))
  exact Option.some.inj (hentry.symm.trans hentry')

/-- For decisions with distinct identifiers the statements of all months count every verified receipt
once, and only as such, exactly when every decision has one month. -/
theorem value_counted_once_iff (padsYears : Bool)
    (hids : (decisions.map fun decision => textOf decision "id").Nodup) :
    CountedOnce padsYears decisions ↔ ∀ decision ∈ decisions, OneMonth padsYears decision := by
  constructor
  · intro h decision hdecision
    have hall : ∀ {month bounds}, monthBounds padsYears month = .ok bounds →
        ∀ decision ∈ decisions, ∃ entry, entryOf bounds decision = .ok entry := by
      intro month bounds hbounds
      obtain ⟨statement, hstatement, -⟩ := h.total month bounds hbounds
      exact ((monthlyValueStatement_eq_ok_iff hbounds).mp hstatement).1
    obtain ⟨july, -, hjuly, -⟩ := two_months padsYears
    obtain ⟨moment, hmoment, hupdated⟩ := entryOf_eq_ok_iff.mp (hall hjuly decision hdecision)
    refine ⟨⟨moment, hmoment⟩, ?_, ?_, ?_⟩
    · cases moment with
      | none => exact hupdated rfl
      | some instant =>
        obtain ⟨month, bounds, hbounds, hout⟩ := exists_not_within padsYears instant
        obtain ⟨moment, hmoment', hupdated⟩ := entryOf_eq_ok_iff.mp (hall hbounds decision hdecision)
        cases hmoment.symm.trans hmoment'
        apply hupdated
        rw [Option.filter_some, hout]
        rfl
    · intro hformed instant hinstant
      obtain ⟨month, ⟨statement, hstatement, hid⟩, -⟩ := h.once decision hdecision hformed
      obtain ⟨bounds, hbounds, -⟩ := bind_eq_ok_iff.mp hstatement
      obtain ⟨hentries, rfl⟩ := (monthlyValueStatement_eq_ok_iff hbounds).mp hstatement
      obtain ⟨instant', hinstant', hin⟩ := within_of_receipt hids hentries hdecision hid
      cases hinstant.symm.trans hinstant'
      exact ⟨month, bounds, hbounds, hin⟩
    · intro hformed happroved instant updated month bounds hinstant hupdatedAt hbounds hin
      obtain ⟨statement, hstatement, -⟩ := h.total month bounds hbounds
      have hapart := h.apart decision hdecision hformed month statement hstatement
      obtain ⟨-, rfl⟩ := (monthlyValueStatement_eq_ok_iff hbounds).mp hstatement
      cases hwithin : within bounds instant with
      | true => rfl
      | false =>
        refine absurd (unverified_of_within hdecision hinstant ?_ happroved hupdatedAt hin) hapart
        rw [Option.filter_some, hwithin]
        rfl
  · intro h
    have hall : ∀ bounds, ∀ decision ∈ decisions, ∃ entry, entryOf bounds decision = .ok entry := by
      intro bounds decision hdecision
      obtain ⟨moment, hmoment⟩ := (h decision hdecision).verified
      exact entryOf_eq_ok_iff.mpr ⟨moment, hmoment, fun _ => (h decision hdecision).updated⟩
    refine ⟨?_, ?_, ?_, ?_⟩
    · intro month bounds hbounds
      refine ⟨_, (monthlyValueStatement_eq_ok_iff hbounds).mpr ⟨hall bounds, rfl⟩, ?_⟩
      show ((entriesOf bounds decisions).map Entry.amount).sum = _
      rw [entriesOf, List.map_map]
      refine congrArg List.sum (List.map_congr_left fun decision hdecision => ?_)
      obtain ⟨entry, hentry⟩ := hall bounds decision hdecision
      rw [Function.comp_apply, entryD_eq hentry]
      exact (entryOf_spec hentry).amount_eq
    · intro arranged hperm month statement hstatement
      obtain ⟨bounds, hbounds, -⟩ := bind_eq_ok_iff.mp hstatement
      obtain ⟨-, rfl⟩ := (monthlyValueStatement_eq_ok_iff hbounds).mp hstatement
      refine ⟨_, (monthlyValueStatement_eq_ok_iff hbounds).mpr ⟨fun decision hdecision => ?_, rfl⟩,
        sameStatement_of_perm hids (hall bounds) hperm⟩
      exact hall bounds decision (hperm.mem_iff.mp hdecision)
    · rintro decision hdecision ⟨⟨instant, hinstant⟩, amount, hamount⟩
      obtain ⟨month, bounds, hbounds, hin⟩ := (h decision hdecision).covered
        ⟨⟨instant, hinstant⟩, amount, hamount⟩ instant hinstant
      refine ⟨month, ⟨_, (monthlyValueStatement_eq_ok_iff hbounds).mpr ⟨hall bounds, rfl⟩,
        receipt_of_within hdecision hinstant hin hamount⟩, ?_⟩
      rintro month' ⟨statement, hstatement, hid⟩
      obtain ⟨bounds', hbounds', -⟩ := bind_eq_ok_iff.mp hstatement
      obtain ⟨hentries, rfl⟩ := (monthlyValueStatement_eq_ok_iff hbounds').mp hstatement
      obtain ⟨instant', hinstant', hin'⟩ := within_of_receipt hids hentries hdecision hid
      cases hinstant.symm.trans hinstant'
      exact month_eq_of_within hbounds' hbounds hin' hin
    · intro decision hdecision hformed month statement hstatement hid
      obtain ⟨bounds, hbounds, -⟩ := bind_eq_ok_iff.mp hstatement
      obtain ⟨hentries, rfl⟩ := (monthlyValueStatement_eq_ok_iff hbounds).mp hstatement
      obtain ⟨happroved, ⟨moment, hmoment, hout⟩, updated, hupdated, hin⟩ :=
        unverified_inv hids hentries hdecision hid
      obtain ⟨instant, hinstant⟩ := hformed.1
      cases hinstant.symm.trans hmoment
      have hwithin := (h decision hdecision).same hformed happroved instant updated month bounds
        hinstant hupdated hbounds hin
      exact absurd hwithin (Option.filter_eq_none_iff.mp hout instant rfl)

end Statements

/-- An approved decision with the instants of its last update and of its receipt, which recovered R 125. -/
def recovered (id updatedAt verifiedAt : String) : Decision :=
  [("id", .str id), ("status", .str "approved"), ("updated_at", .str updatedAt),
    ("verified_outcome", .dict [("minor_units", .int 12500), ("verified_at", .str verifiedAt),
      ("source_reference", .str "pos:receipt-1"), ("task_id", .str "task_1")])]

/-- Two decisions with their receipts in the month of their last update. -/
theorem verified_at_once :
    CountedOnce true [recovered "a" "2026-07-10T12:00:00+00:00" "2026-07-11T12:00:00+00:00",
        recovered "b" "2026-08-01T00:00:00+00:00" "2026-08-31T23:59:59+00:00"] ↔
      ∀ decision ∈ [recovered "a" "2026-07-10T12:00:00+00:00" "2026-07-11T12:00:00+00:00",
        recovered "b" "2026-08-01T00:00:00+00:00" "2026-08-31T23:59:59+00:00"],
          OneMonth true decision :=
  value_counted_once_iff true (by decide +kernel)

/-- A decision that was approved at the end of July and verified in August is counted in August, and is
among the unverified ones of July. -/
theorem verified_next_month :
    (monthlyValueStatement true
        [recovered "a" "2026-07-31T12:00:00+00:00" "2026-08-02T12:00:00+00:00"] "2026-08").map
        (·.verifiedRecoveredMinorUnits) = .ok 12500 ∧
      (monthlyValueStatement true
        [recovered "a" "2026-07-31T12:00:00+00:00" "2026-08-02T12:00:00+00:00"] "2026-07").map
        (·.unverifiedDecisions) = .ok [⟨"a", none⟩] ∧
      ¬ CountedOnce true [recovered "a" "2026-07-31T12:00:00+00:00" "2026-08-02T12:00:00+00:00"] := by
  have hjuly : (monthlyValueStatement true
      [recovered "a" "2026-07-31T12:00:00+00:00" "2026-08-02T12:00:00+00:00"] "2026-07").map
      (·.unverifiedDecisions) = .ok [⟨"a", none⟩] := by decide +kernel
  refine ⟨by decide +kernel, hjuly, fun h => ?_⟩
  have hformed : WellFormed (recovered "a" "2026-07-31T12:00:00+00:00" "2026-08-02T12:00:00+00:00") :=
    ⟨⟨1785672000000000, by decide +kernel⟩, 12500, by decide +kernel⟩
  cases hstatement : monthlyValueStatement true
      [recovered "a" "2026-07-31T12:00:00+00:00" "2026-08-02T12:00:00+00:00"] "2026-07" with
  | error e =>
    rw [hstatement] at hjuly
    cases hjuly
  | ok statement =>
    rw [hstatement] at hjuly
    have hitems : statement.unverifiedDecisions = [⟨"a", none⟩] := Except.ok.inj hjuly
    apply h.apart _ List.mem_cons_self hformed "2026-07" statement hstatement
    rw [hitems]
    decide +kernel

end ShelfWise.Decisions
