import ShelfWise.Science.Retail

/-!
# Story physics

`shelfwise_backend/cascade.py`: the constants of the two simulated stories, and how the golden and
the cold-chain cascade read the payload of an event. Where a field of the payload will not do, they
fall back on the constant. What falls back is told by the payload alone: `goldenFallbacks` and
`coldChainFallbacks` list the fields, and without one of them the constants are not read.
-/

namespace ShelfWise.Cascade

open Py Connectors Science

/-! ## Constants -/

/-- The `_GOLDEN_STORY_*` and `_COLD_CHAIN_STORY_*` constants. -/
structure Story where
  goldenColdArea : String
  goldenOutageHours : String
  goldenAverageTempC : String
  goldenPaydayMultiplier : String
  coldChainDiagnosis : String
  coldChainSeverity : ℤ
  coldChainMinutesToUnsafe : Decimal
  coldChainOutageHours : Decimal
  coldChainAverageTempC : Decimal

/-- Their values. -/
def Story.shipped : Story where
  goldenColdArea := "fridge_a"
  goldenOutageHours := "3"
  goldenAverageTempC := "7"
  goldenPaydayMultiplier := "1.35"
  coldChainDiagnosis := "generator_failed"
  coldChainSeverity := 2
  coldChainMinutesToUnsafe := .finite false 18 0
  coldChainOutageHours := .finite false 4 0
  coldChainAverageTempC := .finite false 82 (-1)

/-! ## Fields -/

/-- `Decimal(str(value))`. -/
def printedDecimal (value : Value) : Except Exc Decimal := do
  let text ← printed value
  match Decimal.ofText text with
  | some d => .ok d
  | none => .error Decimal.invalidOperation

/-- `payload.get(key) or default`. -/
def fieldOr (payload : List (String × Value)) (key default : String) : Value :=
  (Value.get payload key).orElse (.str default)

/-- `_payload_value` of the payload of an event. -/
def payloadValue (payload : List (String × Value)) (key default : String) : Value :=
  let value := Value.get payload key
  if value = .none ∨ value = .str "" then .str default else value

/-- `_int_payload`. -/
def intPayload (payload : List (String × Value)) (key : String) (default : ℤ) : Except Exc ℤ := do
  let number ← Value.intOrNone (Value.getD payload key (.int default))
  .ok (number.getD default)

/-- The decimal that `_decimal_payload` reads in a field, if it is one. -/
def decimalField (payload : List (String × Value)) (key : String) : Option Decimal := do
  let value ← Dict.lookup key payload
  (printedDecimal value).toOption

/-- `_decimal_payload`; a constant is a decimal, so it is read back from its own text. -/
def decimalPayload (payload : List (String × Value)) (key : String) (default : Decimal) : Decimal :=
  (decimalField payload key).getD default

/-- `_money_payload`. -/
def moneyPayload (value : Value) (default : Money) : Except Exc Money :=
  match value with
  | .none => .ok default
  | .dict items => do
    let minorUnits ← Value.intOrNone (Value.getD items "minor_units" (.int default.minorUnits))
    let currency := (printed (Value.getD items "currency" (.str default.currency))).toOption
    .ok ((minorUnits.bind fun n => currency.map fun c => ⟨n, c⟩).getD default)
  | value => do
    let minorUnits ← Value.intOrNone value
    .ok ((minorUnits.map fun n => ⟨n, default.currency⟩).getD default)

/-! ## The golden cascade -/

/-- What `run_golden_cascade` reads of a payload. -/
structure GoldenInputs where
  coldArea : String
  outageHours : Decimal
  averageTempC : Decimal
  paydayMultiplier : Decimal
deriving DecidableEq

/-- The fields of the golden cascade. -/
def goldenInputs (story : Story) (payload : List (String × Value)) : Except Exc GoldenInputs := do
  let coldArea ← printed (fieldOr payload "cold_chain_area" story.goldenColdArea)
  let outageHours ← printedDecimal
    (fieldOr payload "cold_chain_outage_hours" story.goldenOutageHours)
  let averageTempC ← printedDecimal
    (fieldOr payload "cold_chain_average_temp_c" story.goldenAverageTempC)
  let paydayMultiplier ← printedDecimal
    (fieldOr payload "payday_multiplier" story.goldenPaydayMultiplier)
  .ok ⟨coldArea, outageHours, averageTempC, paydayMultiplier⟩

/-- The fields that the golden cascade replaces: those that are falsy. -/
def goldenFallbacks (payload : List (String × Value)) : List String :=
  ["cold_chain_area", "cold_chain_outage_hours", "cold_chain_average_temp_c",
    "payday_multiplier"].filter fun field => !(Value.get payload field).truthy

variable {payload : List (String × Value)} {key : String}

theorem fieldOr_of_truthy (h : (Value.get payload key).truthy = true) (default : String) :
    fieldOr payload key default = Value.get payload key := by
  rw [fieldOr, Value.orElse, if_pos h]

theorem fieldOr_of_falsy (h : (Value.get payload key).truthy = false) (default : String) :
    fieldOr payload key default = .str default := by
  rw [fieldOr, Value.orElse, if_neg (by simp [h])]

/-- Without a field to replace, the golden cascade reads no constant. -/
theorem goldenInputs_of_measured (h : goldenFallbacks payload = []) (story story' : Story) :
    goldenInputs story payload = goldenInputs story' payload := by
  have htruthy : ∀ field ∈ ["cold_chain_area", "cold_chain_outage_hours",
      "cold_chain_average_temp_c", "payday_multiplier"],
      (Value.get payload field).truthy = true := by
    intro field hfield
    have hkept := List.filter_eq_nil_iff.mp h field hfield
    simpa using hkept
  have hfield : ∀ field ∈ ["cold_chain_area", "cold_chain_outage_hours",
      "cold_chain_average_temp_c", "payday_multiplier"], ∀ default default',
      fieldOr payload field default = fieldOr payload field default' := by
    intro field hfield default default'
    rw [fieldOr_of_truthy (htruthy field hfield), fieldOr_of_truthy (htruthy field hfield)]
  unfold goldenInputs
  rw [hfield "cold_chain_area" (by simp) _ story'.goldenColdArea,
    hfield "cold_chain_outage_hours" (by simp) _ story'.goldenOutageHours,
    hfield "cold_chain_average_temp_c" (by simp) _ story'.goldenAverageTempC,
    hfield "payday_multiplier" (by simp) _ story'.goldenPaydayMultiplier]

theorem goldenInputs_eq_ok_iff {story : Story} {inputs : GoldenInputs} :
    goldenInputs story payload = .ok inputs ↔
      printed (fieldOr payload "cold_chain_area" story.goldenColdArea) = .ok inputs.coldArea ∧
      printedDecimal (fieldOr payload "cold_chain_outage_hours" story.goldenOutageHours) =
        .ok inputs.outageHours ∧
      printedDecimal (fieldOr payload "cold_chain_average_temp_c" story.goldenAverageTempC) =
        .ok inputs.averageTempC ∧
      printedDecimal (fieldOr payload "payday_multiplier" story.goldenPaydayMultiplier) =
        .ok inputs.paydayMultiplier := by
  simp only [goldenInputs, bind_eq_ok_iff, Except.ok.injEq]
  constructor
  · rintro ⟨_, harea, _, houtage, _, htemp, _, hpayday, rfl⟩
    exact ⟨harea, houtage, htemp, hpayday⟩
  · rintro ⟨harea, houtage, htemp, hpayday⟩
    exact ⟨_, harea, _, houtage, _, htemp, _, hpayday, rfl⟩

/-- A text that is no number, in the place of one. -/
theorem printedDecimal_unreadable (h : (Value.get payload key).truthy = false) (d : Decimal) :
    printedDecimal (fieldOr payload key "unknown") ≠ .ok d := by
  have hunread : Decimal.ofText "unknown" = none := by decide +kernel
  rw [fieldOr_of_falsy h]
  simp [printedDecimal, bind_eq_ok_iff, hunread]

/-! ## The cold-chain cascade -/

/-- What `run_cold_chain_cascade` reads of a payload before it looks at the stock at risk. -/
structure ColdChainInputs where
  siteId : String
  assetId : String
  category : String
  diagnosis : String
  severity : ℤ
  predictedMinutes : Decimal
  measuredOutageHours : Decimal
  averageTempC : Decimal

/-- The fields of the cold-chain cascade. -/
def coldChainInputs (story : Story) (facts : ScenarioFacts) (payload : List (String × Value)) :
    Except Exc ColdChainInputs := do
  let siteId ← printed ((Value.get payload "site_id").orElse
    (payloadValue payload "location" facts.location))
  let assetId ← printed (fieldOr payload "asset_id"
    ("cold-chain:" ++ facts.location ++ ":" ++ facts.category))
  let category ← printed (fieldOr payload "category" facts.category)
  let diagnosis ← printed (fieldOr payload "diagnosis" story.coldChainDiagnosis)
  let severity ← intPayload payload "severity" story.coldChainSeverity
  .ok ⟨siteId, assetId, category, diagnosis, severity,
    decimalPayload payload "predicted_minutes_to_unsafe" story.coldChainMinutesToUnsafe,
    decimalPayload payload "measured_outage_hours" story.coldChainOutageHours,
    decimalPayload payload "temp_c" story.coldChainAverageTempC⟩

theorem coldChainInputs_eq_ok_iff {story : Story} {facts : ScenarioFacts} {inputs : ColdChainInputs} :
    coldChainInputs story facts payload = .ok inputs ↔
      printed ((Value.get payload "site_id").orElse
        (payloadValue payload "location" facts.location)) = .ok inputs.siteId ∧
      printed (fieldOr payload "asset_id"
        ("cold-chain:" ++ facts.location ++ ":" ++ facts.category)) = .ok inputs.assetId ∧
      printed (fieldOr payload "category" facts.category) = .ok inputs.category ∧
      printed (fieldOr payload "diagnosis" story.coldChainDiagnosis) = .ok inputs.diagnosis ∧
      intPayload payload "severity" story.coldChainSeverity = .ok inputs.severity ∧
      decimalPayload payload "predicted_minutes_to_unsafe" story.coldChainMinutesToUnsafe =
        inputs.predictedMinutes ∧
      decimalPayload payload "measured_outage_hours" story.coldChainOutageHours =
        inputs.measuredOutageHours ∧
      decimalPayload payload "temp_c" story.coldChainAverageTempC = inputs.averageTempC := by
  simp only [coldChainInputs, bind_eq_ok_iff, Except.ok.injEq]
  constructor
  · rintro ⟨_, hsite, _, hasset, _, hcategory, _, hdiagnosis, _, hseverity, rfl⟩
    exact ⟨hsite, hasset, hcategory, hdiagnosis, hseverity, rfl, rfl, rfl⟩
  · rintro ⟨hsite, hasset, hcategory, hdiagnosis, hseverity, hminutes, houtage, htemp⟩
    refine ⟨_, hsite, _, hasset, _, hcategory, _, hdiagnosis, _, hseverity, ?_⟩
    rw [hminutes, houtage, htemp]

/-- The severity of a payload is left out, or no integer. -/
def severityUnread (payload : List (String × Value)) : Bool :=
  (Dict.lookup "severity" payload).all fun value => decide (value.intOrNone = .ok none)

/-- The fields that the cold-chain cascade replaces: a falsy diagnosis, and numbers that cannot be
read. -/
def coldChainFallbacks (payload : List (String × Value)) : List String :=
  (["diagnosis"].filter fun field => !(Value.get payload field).truthy) ++
    (["severity"].filter fun _ => severityUnread payload) ++
    ["predicted_minutes_to_unsafe", "measured_outage_hours", "temp_c"].filter fun field =>
      (decimalField payload field).isNone

theorem intPayload_of_read (h : severityUnread payload = false) (default default' : ℤ) :
    intPayload payload "severity" default = intPayload payload "severity" default' := by
  unfold severityUnread at h
  unfold intPayload Value.getD
  cases hlookup : Dict.lookup "severity" payload with
  | none =>
    rw [hlookup] at h
    cases h
  | some value =>
    rw [hlookup] at h
    have hread : value.intOrNone ≠ .ok none := by simpa using h
    simp only [Option.getD_some]
    cases hvalue : value.intOrNone with
    | error e => rfl
    | ok number =>
      cases number with
      | none => exact absurd hvalue hread
      | some n => rfl

theorem intPayload_of_unread (h : severityUnread payload = true) (default : ℤ) :
    intPayload payload "severity" default = .ok default := by
  unfold severityUnread at h
  unfold intPayload Value.getD
  cases hlookup : Dict.lookup "severity" payload with
  | none => rfl
  | some value =>
    rw [hlookup] at h
    have hunread : value.intOrNone = .ok none := by simpa using h
    simp only [Option.getD_some, hunread]
    rfl

theorem decimalPayload_of_isNone (h : (decimalField payload key).isNone = true) (default : Decimal) :
    decimalPayload payload key default = default := by
  rw [decimalPayload, Option.isNone_iff_eq_none.mp h, Option.getD_none]

theorem decimalPayload_of_isSome (h : (decimalField payload key).isNone = false)
    (default default' : Decimal) :
    decimalPayload payload key default = decimalPayload payload key default' := by
  obtain ⟨d, hd⟩ := Option.isSome_iff_exists.mp (Option.isNone_eq_false_iff.mp h)
  rw [decimalPayload, decimalPayload, hd, Option.getD_some, Option.getD_some]

/-- Without a field to replace, the cold-chain cascade reads no constant. -/
theorem coldChainInputs_of_measured (h : coldChainFallbacks payload = []) (story story' : Story)
    (facts : ScenarioFacts) :
    coldChainInputs story facts payload = coldChainInputs story' facts payload := by
  unfold coldChainFallbacks at h
  obtain ⟨htext, hdecimals⟩ := List.append_eq_nil_iff.mp h
  obtain ⟨hdiagnosis, hseverity⟩ := List.append_eq_nil_iff.mp htext
  have htruthy : (Value.get payload "diagnosis").truthy = true := by
    simpa using List.filter_eq_nil_iff.mp hdiagnosis "diagnosis" (by simp)
  have hread : severityUnread payload = false := by
    simpa using List.filter_eq_nil_iff.mp hseverity "severity" (by simp)
  have hdecimal : ∀ field ∈ ["predicted_minutes_to_unsafe", "measured_outage_hours", "temp_c"],
      (decimalField payload field).isNone = false := by
    intro field hfield
    exact eq_false_of_ne_true (List.filter_eq_nil_iff.mp hdecimals field hfield)
  unfold coldChainInputs
  rw [fieldOr_of_truthy htruthy, fieldOr_of_truthy htruthy,
    intPayload_of_read hread _ story'.coldChainSeverity,
    decimalPayload_of_isSome (hdecimal "predicted_minutes_to_unsafe" (by simp)) _
      story'.coldChainMinutesToUnsafe,
    decimalPayload_of_isSome (hdecimal "measured_outage_hours" (by simp)) _
      story'.coldChainOutageHours,
    decimalPayload_of_isSome (hdecimal "temp_c" (by simp)) _ story'.coldChainAverageTempC]

end ShelfWise.Cascade
