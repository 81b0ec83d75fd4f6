import ShelfWise.Cascades.ColdChain

/-!
# Story physics in live decisions

The dispatcher turns an operational event away when a field that its cascade reads is `None`. The
cascades replace more than that: a falsy field, and a number that cannot be read. What they put there
is a constant of a simulated story.

`story_independent_iff` says for every operational event and all stores when two runs with different
constants make the same decision on the same evidence: when no field is replaced, or when the run
ends before the constants matter.
-/

namespace ShelfWise.Cascade

open Py Connectors Science Ingest

/-! ## Two runs -/

/-- The cascades with the constants of a story; only two of them read any. -/
def withStory (context : CascadeContext) (others : Cascades) (story : Story) : Cascades :=
  { others with
    runGoldenCascade := runGoldenCascade context story
    runColdChainCascade := runColdChainCascade context story }

/-- The decision and the evidence of a run, when it ends without an exception and has a result. -/
def decisionAndEvidence (answer : Except Exc (Option CascadeResult)) :
    Option (Option (Value × Value)) :=
  answer.toOption.map (Option.map fun result =>
    (Value.get result "decision", Value.get result "evidence"))

/-- What is decided on an event. -/
def outcome (context : CascadeContext) (others : Cascades) (event : Event)
    (inventory : Inventory.Store) (twin : Twin.TwinStore) (story : Story) :
    Option (Option (Value × Value)) :=
  decisionAndEvidence (dispatch (withStory context others story) event inventory twin)

/-- The fields of the payload that are replaced by a constant. -/
def fallbacks (event : Event) : List String :=
  if event.type = .scan then goldenFallbacks event.payload
  else if event.type = .coldChainAlert then coldChainFallbacks event.payload
  else []

/-- With the constants of a story, the figures of the cascade of an event can be calculated. -/
def Calculable (context : CascadeContext) (event : Event) (inventory : Inventory.Store)
    (twin : Twin.TwinStore) (story : Story) : Prop :=
  ∃ facts, context.scenarioFacts event inventory twin = .ok facts ∧
    ((event.type = .scan ∧ ∃ inputs figures, goldenInputs story event.payload = .ok inputs ∧
        goldenFigures facts inputs = .ok figures) ∨
      (event.type = .coldChainAlert ∧ ∃ inputs figures,
        coldChainInputs story facts event.payload = .ok inputs ∧
        coldChainFigures facts event.payload inputs = .ok figures))

section

variable {context : CascadeContext} {others : Cascades} {event : Event}
  {inventory : Inventory.Store} {twin : Twin.TwinStore} {facts : ScenarioFacts}

variable {story : Story}

/-- A result is decided on with its own evidence; the decision is stamped. -/
theorem outcome_of_result {result : CascadeResult} {decision : List (String × Value)}
    (hdecision : Value.get result "decision" = .dict decision)
    (h : route (withStory context others story) event inventory twin = .ok (some result)) :
    outcome context others event inventory twin story = some (some
      (.dict (Value.updateItems decision [("caused_by", .list [.str event.id]),
        ("tenant_id", .str event.tenantId), ("data_domain", .str event.dataDomain.value)]),
        Value.get result "evidence")) := by
  obtain ⟨hstamped, hevidence⟩ := get_attachEventCausality hdecision event
  unfold outcome
  rw [dispatch_of_result h, ← hstamped, ← hevidence]
  rfl

theorem outcome_of_raised {e : Exc}
    (h : route (withStory context others story) event inventory twin = .error (.raised e)) :
    outcome context others event inventory twin story = none := by
  unfold outcome
  rw [dispatch_of_raised h]
  rfl

theorem outcome_congr {story story' : Story}
    (h : route (withStory context others story) event inventory twin =
      route (withStory context others story') event inventory twin) :
    outcome context others event inventory twin story =
      outcome context others event inventory twin story' := by
  unfold outcome
  rw [dispatch_congr h]

/-! ## The golden cascade -/

theorem learnedThresholdEvidence_ok (learning : Option Memory.LearningStore) (sku : String)
    (event : Event) :
    ∃ history, learnedThresholdEvidence learning (markdownAction sku) event = .ok history := by
  cases learning with
  | none => exact ⟨none, rfl⟩
  | some store =>
    have hmetric : ∃ routed, Memory.routedMetric
        [("action", (markdownAction sku).toDict)] = .ok routed := ⟨_, rfl⟩
    obtain ⟨⟨metric, subject⟩, hmetric⟩ := hmetric
    unfold learnedThresholdEvidence
    rw [hmetric]
    simp only [bind, Except.bind]
    split
    · exact ⟨_, rfl⟩
    · split <;> exact ⟨_, rfl⟩

/-- The locator of the outage that the expiry agent shows. -/
def shownOutage : Value → Value
  | .list (_ :: _ :: expiry :: _) =>
    match Value.get expiry.items "sources" with
    | .list (_ :: outage :: _) => Value.get outage.items "locator"
    | _ => .none
  | _ => .none

theorem shownOutage_goldenResult (tables : CharTables) (inputs : GoldenInputs)
    (figures : GoldenFigures) (history : Option EvidenceObject) :
    shownOutage (Value.get (goldenResult tables event facts inputs figures history) "evidence") =
      .str (facts.location ++ ":" ++ inputs.coldArea) := rfl

section Scan

variable (hdomain : event.dataDomain = .operationalTwin) (htype : event.type = .scan)
  (hcomplete : missingFacts event = [])

include hdomain htype hcomplete

theorem route_scan (story : Story) :
    route (withStory context others story) event inventory twin =
      runGoldenCascade context story event inventory twin := by
  unfold route
  rw [if_neg (by simp [hdomain]), htype]
  exact withContext_of_complete hcomplete

variable (hfacts : context.scenarioFacts event inventory twin = .ok facts)

include hfacts

variable (others) in
/-- The decision of the golden cascade is one on its evidence. -/
theorem outcome_scan {inputs : GoldenInputs} {figures : GoldenFigures}
    (hinputs : goldenInputs story event.payload = .ok inputs)
    (hfigures : goldenFigures facts inputs = .ok figures) :
    ∃ decision history, outcome context others event inventory twin story = some (some (decision,
      Value.get (goldenResult context.tables event facts inputs figures history) "evidence")) := by
  obtain ⟨history, hhistory⟩ := learnedThresholdEvidence_ok context.learning facts.sku event
  have hrun : runGoldenCascade context story event inventory twin =
      .ok (some (goldenResult context.tables event facts inputs figures history)) := by
    unfold runGoldenCascade
    rw [hfacts, hinputs]
    simp only [orRaised, bind, Except.bind, Except.mapError, hfigures, hhistory]
  exact ⟨_, history, outcome_of_result rfl
    ((route_scan hdomain htype hcomplete story).trans hrun)⟩

theorem outcome_scan_none (h : ¬ Calculable context event inventory twin story) :
    outcome context others event inventory twin story = none := by
  have hrun : ∃ e, runGoldenCascade context story event inventory twin = .error (.raised e) := by
    unfold runGoldenCascade
    rw [hfacts]
    simp only [orRaised, bind, Except.bind]
    cases hinputs : goldenInputs story event.payload with
    | error e => exact ⟨e, rfl⟩
    | ok inputs =>
      cases hfigures : goldenFigures facts inputs with
      | error e => exact ⟨e, by simp only [Except.mapError, hfigures]⟩
      | ok figures =>
        exact absurd ⟨facts, hfacts, .inl ⟨htype, inputs, figures, hinputs, hfigures⟩⟩ h
  obtain ⟨e, hrun⟩ := hrun
  exact outcome_of_raised ((route_scan hdomain htype hcomplete story).trans hrun)

/-- A field that the golden cascade replaces makes the decision depend on its constant. -/
theorem dependent_of_goldenFallback {inputs : GoldenInputs} {figures : GoldenFigures}
    (hinputs : goldenInputs story event.payload = .ok inputs)
    (hfigures : goldenFigures facts inputs = .ok figures) {field : String}
    (hfield : field ∈ goldenFallbacks event.payload) : ¬ ∀ story story',
      outcome context others event inventory twin story =
        outcome context others event inventory twin story' := by
  intro hindependent
  obtain ⟨hmem, hfalsy⟩ := List.mem_filter.mp hfield
  have hfalsy : (Value.get event.payload field).truthy = false := by simpa using hfalsy
  obtain ⟨harea, houtage, htemp, hpayday⟩ := goldenInputs_eq_ok_iff.mp hinputs
  -- a story whose number cannot be read ends the run
  have hreadable : ∀ story', Calculable context event inventory twin story' := by
    intro story'
    by_contra hnone
    obtain ⟨decision, history, hsome⟩ := outcome_scan others hdomain htype hcomplete hfacts
      hinputs hfigures
    have hsame := hindependent story story'
    rw [hsome, outcome_scan_none hdomain htype hcomplete hfacts hnone] at hsame
    cases hsame
  have hread : ∀ story', ∃ inputs', goldenInputs story' event.payload = .ok inputs' := by
    intro story'
    obtain ⟨-, -, ⟨-, inputs', -, hinputs', -⟩ | ⟨halert, -⟩⟩ := hreadable story'
    · exact ⟨inputs', hinputs'⟩
    · cases htype.symm.trans halert
  simp only [List.mem_cons, List.not_mem_nil, or_false] at hmem
  rcases hmem with rfl | rfl | rfl | rfl
  · -- the area is shown by the expiry agent
    have hwith : ∀ area, goldenInputs { story with goldenColdArea := area } event.payload =
        .ok { inputs with coldArea := area } := by
      intro area
      refine goldenInputs_eq_ok_iff.mpr ⟨?_, houtage, htemp, hpayday⟩
      rw [fieldOr_of_falsy hfalsy]
      rfl
    obtain ⟨decision, history, hfirst⟩ := outcome_scan others hdomain htype hcomplete hfacts
      (hwith "a") hfigures
    obtain ⟨decision', history', hsecond⟩ := outcome_scan others hdomain htype hcomplete
      hfacts (hwith "b") hfigures
    have hsame := hindependent { story with goldenColdArea := "a" }
      { story with goldenColdArea := "b" }
    rw [hfirst, hsecond] at hsame
    have hevidence := (Prod.mk.inj (Option.some.inj (Option.some.inj hsame))).2
    have hshown := congrArg shownOutage hevidence
    rw [shownOutage_goldenResult, shownOutage_goldenResult] at hshown
    simp at hshown
  · obtain ⟨inputs', hinputs'⟩ := hread { story with goldenOutageHours := "unknown" }
    exact printedDecimal_unreadable hfalsy _ (goldenInputs_eq_ok_iff.mp hinputs').2.1
  · obtain ⟨inputs', hinputs'⟩ := hread { story with goldenAverageTempC := "unknown" }
    exact printedDecimal_unreadable hfalsy _ (goldenInputs_eq_ok_iff.mp hinputs').2.2.1
  · obtain ⟨inputs', hinputs'⟩ := hread { story with goldenPaydayMultiplier := "unknown" }
    exact printedDecimal_unreadable hfalsy _ (goldenInputs_eq_ok_iff.mp hinputs').2.2.2

end Scan

/-! ## The cold-chain cascade -/

/-- No risk is scored of an outage that is no number. -/
theorem scoreColdChainRisk_nan_outage (averageTempC : Decimal) (risk : ColdChainRisk) :
    scoreColdChainRisk (.nan false false 0) averageTempC ≠ .ok risk := by
  intro h
  cases h

/-- No risk is scored of a temperature that is no number. -/
theorem scoreColdChainRisk_nan_temp (outageHours : Decimal) (risk : ColdChainRisk) :
    scoreColdChainRisk outageHours (.nan false false 0) ≠ .ok risk := by
  intro h
  simp only [scoreColdChainRisk, bind_eq_ok_iff] at h
  obtain ⟨_, -, _, -, tempLeft, htemp, _, hexcess, -⟩ := h
  cases htemp
  cases hexcess

variable {inputs : ColdChainInputs} {figures : ColdChainFigures}

theorem risk_of_coldChainFigures {payload : List (String × Value)}
    (h : coldChainFigures facts payload inputs = .ok figures) :
    scoreColdChainRisk inputs.measuredOutageHours inputs.averageTempC = .ok figures.cold := by
  simp only [coldChainFigures, bind_eq_ok_iff] at h
  obtain ⟨_, -, _, -, cold, hcold, _, -, _, -, _, -, _, -, _, -, hfigures⟩ := h
  rw [hcold, ← Except.ok.inj hfigures]

section Alert

variable (hdomain : event.dataDomain = .operationalTwin) (htype : event.type = .coldChainAlert)
  (hcomplete : missingFacts event = [])

include hdomain htype hcomplete

theorem route_alert (story : Story) :
    route (withStory context others story) event inventory twin =
      runColdChainCascade context story event inventory twin := by
  unfold route
  rw [if_neg (by simp [hdomain]), htype]
  exact withContext_of_complete hcomplete

variable (hfacts : context.scenarioFacts event inventory twin = .ok facts)

include hfacts

variable (others) in
/-- The decision of the cold-chain cascade tells what it expects. -/
theorem outcome_alert (hinputs : coldChainInputs story facts event.payload = .ok inputs)
    (hfigures : coldChainFigures facts event.payload inputs = .ok figures) :
    ∃ decision evidence, outcome context others event inventory twin story =
      some (some (.dict decision, evidence)) ∧
        Value.get decision "expected_outcome" = .dict (coldChainExpectedOutcome inputs figures) := by
  have hrun : runColdChainCascade context story event inventory twin =
      .ok (some (coldChainResult context.tables event facts inputs figures)) := by
    unfold runColdChainCascade
    rw [hfacts]
    simp only [orRaised, bind, Except.bind, Except.mapError, hinputs, hfigures]
  refine ⟨_, _, outcome_of_result rfl
    ((route_alert hdomain htype hcomplete story).trans hrun), ?_⟩
  rw [Value.get_updateItems_of_not_mem (by simp)]
  rfl

theorem outcome_alert_none (h : ¬ Calculable context event inventory twin story) :
    outcome context others event inventory twin story = none := by
  have hrun : ∃ e, runColdChainCascade context story event inventory twin =
      .error (.raised e) := by
    unfold runColdChainCascade
    rw [hfacts]
    simp only [orRaised, bind, Except.bind]
    cases hinputs : coldChainInputs story facts event.payload with
    | error e => exact ⟨e, rfl⟩
    | ok inputs =>
      cases hfigures : coldChainFigures facts event.payload inputs with
      | error e => exact ⟨e, by simp only [Except.mapError, hfigures]⟩
      | ok figures =>
        exact absurd ⟨facts, hfacts, .inr ⟨htype, inputs, figures, hinputs, hfigures⟩⟩ h
  obtain ⟨e, hrun⟩ := hrun
  exact outcome_of_raised ((route_alert hdomain htype hcomplete story).trans hrun)

/-- A field that the cold-chain cascade replaces makes the decision depend on its constant. -/
theorem dependent_of_coldChainFallback
    (hinputs : coldChainInputs story facts event.payload = .ok inputs)
    (hfigures : coldChainFigures facts event.payload inputs = .ok figures) {field : String}
    (hfield : field ∈ coldChainFallbacks event.payload) : ¬ ∀ story story',
      outcome context others event inventory twin story =
        outcome context others event inventory twin story' := by
  intro hindependent
  obtain ⟨hsite, hasset, hcategory, hdiagnosis, hseverity, hminutes, houtage, htemp⟩ :=
    coldChainInputs_eq_ok_iff.mp hinputs
  -- what the decision expects is the same for all stories with these figures
  have hexpected : ∀ {first second inputs₁ inputs₂},
      coldChainInputs first facts event.payload = .ok inputs₁ →
      coldChainInputs second facts event.payload = .ok inputs₂ →
      coldChainFigures facts event.payload inputs₁ = .ok figures →
      coldChainFigures facts event.payload inputs₂ = .ok figures →
      coldChainExpectedOutcome inputs₁ figures = coldChainExpectedOutcome inputs₂ figures := by
    intro first second inputs₁ inputs₂ h₁ h₂ hf₁ hf₂
    obtain ⟨decision₁, evidence₁, ho₁, he₁⟩ := outcome_alert others hdomain htype hcomplete
      hfacts h₁ hf₁
    obtain ⟨decision₂, evidence₂, ho₂, he₂⟩ := outcome_alert others hdomain htype hcomplete
      hfacts h₂ hf₂
    have hsame := hindependent first second
    rw [ho₁, ho₂] at hsame
    have hdecision := (Prod.mk.inj (Option.some.inj (Option.some.inj hsame))).1
    rw [Value.dict.inj hdecision, he₂] at he₁
    exact (Value.dict.inj he₁).symm
  -- a story whose number is none ends the run
  have hfigured : ∀ story', ∃ inputs' figures',
      coldChainInputs story' facts event.payload = .ok inputs' ∧
        coldChainFigures facts event.payload inputs' = .ok figures' := by
    intro story'
    by_contra hnone
    obtain ⟨decision, evidence, hsome, -⟩ := outcome_alert others hdomain htype hcomplete
      hfacts hinputs hfigures
    have hcalculable : ¬ Calculable context event inventory twin story' := by
      rintro ⟨facts', hfacts', ⟨hscan, -⟩ | ⟨-, hfigured⟩⟩
      · cases htype.symm.trans hscan
      · cases hfacts.symm.trans hfacts'
        exact hnone hfigured
    have hsame := hindependent story story'
    rw [hsome, outcome_alert_none hdomain htype hcomplete hfacts hcalculable] at hsame
    cases hsame
  simp only [coldChainFallbacks, List.mem_append, List.mem_filter, List.mem_cons,
    List.not_mem_nil, or_false] at hfield
  rcases hfield with (⟨rfl, hfalsy⟩ | ⟨rfl, hunread⟩) | ⟨rfl | rfl | rfl, hnone⟩
  · have hfalsy : (Value.get event.payload "diagnosis").truthy = false := by simpa using hfalsy
    have hwith : ∀ diagnosis, coldChainInputs { story with coldChainDiagnosis := diagnosis } facts
        event.payload = .ok { inputs with diagnosis := diagnosis } := by
      intro diagnosis
      refine coldChainInputs_eq_ok_iff.mpr
        ⟨hsite, hasset, hcategory, ?_, hseverity, hminutes, houtage, htemp⟩
      rw [fieldOr_of_falsy hfalsy]
      rfl
    have hsame := hexpected (hwith "a") (hwith "b") hfigures hfigures
    have hshown := congrArg (Value.get · "diagnosis") hsame
    simp [coldChainExpectedOutcome, Value.get, Dict.lookup] at hshown
  · have hwith : ∀ severity, coldChainInputs { story with coldChainSeverity := severity } facts
        event.payload = .ok { inputs with severity := severity } := by
      intro severity
      exact coldChainInputs_eq_ok_iff.mpr ⟨hsite, hasset, hcategory, hdiagnosis,
        intPayload_of_unread hunread severity, hminutes, houtage, htemp⟩
    have hsame := hexpected (hwith 0) (hwith 1) hfigures hfigures
    have hshown := congrArg (Value.get · "severity") hsame
    simp [coldChainExpectedOutcome, Value.get, Dict.lookup] at hshown
  · have hwith : ∀ minutes, coldChainInputs { story with coldChainMinutesToUnsafe := minutes }
        facts event.payload = .ok { inputs with predictedMinutes := minutes } := by
      intro minutes
      exact coldChainInputs_eq_ok_iff.mpr ⟨hsite, hasset, hcategory, hdiagnosis, hseverity,
        decimalPayload_of_isNone hnone minutes, houtage, htemp⟩
    have hsame := hexpected (hwith (.ofInt 0)) (hwith (.ofInt 1)) hfigures hfigures
    have hshown := congrArg (Value.get · "predicted_minutes_to_unsafe") hsame
    have hne : (Decimal.ofInt 0).str ≠ (Decimal.ofInt 1).str := by decide +kernel
    exact hne (Value.str.inj hshown)
  · obtain ⟨inputs', figures', hinputs', hfigures'⟩ :=
      hfigured { story with coldChainOutageHours := .nan false false 0 }
    have hunmeasured := (coldChainInputs_eq_ok_iff.mp hinputs').2.2.2.2.2.2.1
    rw [decimalPayload_of_isNone hnone] at hunmeasured
    have hrisk := risk_of_coldChainFigures hfigures'
    rw [← hunmeasured] at hrisk
    exact scoreColdChainRisk_nan_outage _ _ hrisk
  · obtain ⟨inputs', figures', hinputs', hfigures'⟩ :=
      hfigured { story with coldChainAverageTempC := .nan false false 0 }
    have hunmeasured := (coldChainInputs_eq_ok_iff.mp hinputs').2.2.2.2.2.2.2
    rw [decimalPayload_of_isNone hnone] at hunmeasured
    have hrisk := risk_of_coldChainFigures hfigures'
    rw [← hunmeasured] at hrisk
    exact scoreColdChainRisk_nan_temp _ _ hrisk

end Alert

/-! ## When the constants do not matter -/

/-- Without facts no constant is read. -/
theorem route_of_no_facts {e : CascadeError}
    (hfacts : context.scenarioFacts event inventory twin = .error e) (story story' : Story) :
    route (withStory context others story) event inventory twin =
      route (withStory context others story') event inventory twin := by
  have hgolden : runGoldenCascade context story event inventory twin =
      runGoldenCascade context story' event inventory twin := by
    unfold runGoldenCascade
    rw [hfacts]
    rfl
  have halert : runColdChainCascade context story event inventory twin =
      runColdChainCascade context story' event inventory twin := by
    unfold runColdChainCascade
    rw [hfacts]
    rfl
  unfold route withContext
  simp only [withStory, hgolden, halert]

/-- Without a field to replace no constant is read. -/
theorem route_of_measured (h : fallbacks event = []) (story story' : Story) :
    route (withStory context others story) event inventory twin =
      route (withStory context others story') event inventory twin := by
  unfold fallbacks at h
  unfold route
  cases htype : event.type with
  | scan =>
    rw [if_pos htype] at h
    simp only [withStory, withContext, runGoldenCascade, goldenInputs_of_measured h story story']
  | coldChainAlert =>
    rw [htype, if_neg (by simp), if_pos rfl] at h
    simp only [withStory, withContext, runColdChainCascade,
      coldChainInputs_of_measured h story story']
  | sale | stockUpdate | expiryEntry | supplierUpdate | shipment | recallNotice
  | inventoryException => rfl

/-- An event that lacks a fact is turned away for every story. -/
theorem route_of_missing (hdomain : event.dataDomain = .operationalTwin)
    (h : missingFacts event ≠ []) (story story' : Story) :
    route (withStory context others story) event inventory twin =
      route (withStory context others story') event inventory twin := by
  unfold route
  cases htype : event.type with
  | scan =>
    dsimp only
    rw [withContext_of_missing hdomain h]
  | coldChainAlert =>
    dsimp only
    rw [withContext_of_missing hdomain h]
  | sale | stockUpdate | expiryEntry | supplierUpdate | shipment | recallNotice
  | inventoryException => rfl

end

/-- **No story physics in live decisions.** For every operational event and all stores, two runs
with different constants decide the same on the same evidence exactly when a required field is
missing, or no field is replaced, or the figures cannot be calculated with any constants. -/
theorem story_independent_iff (context : CascadeContext) (others : Cascades) {event : Event}
    (hdomain : event.dataDomain = .operationalTwin) (inventory : Inventory.Store)
    (twin : Twin.TwinStore) :
    (∀ story story', outcome context others event inventory twin story =
      outcome context others event inventory twin story') ↔
      missingFacts event ≠ [] ∨ fallbacks event = [] ∨
        ∀ story, ¬ Calculable context event inventory twin story := by
  constructor
  · intro hindependent
    by_contra hcondition
    push Not at hcondition
    obtain ⟨hcomplete, hfallbacks, story, facts, hfacts, hcalculable⟩ := hcondition
    obtain ⟨field, hfield⟩ := List.exists_mem_of_ne_nil _ hfallbacks
    rcases hcalculable with ⟨htype, inputs, figures, hinputs, hfigures⟩ |
      ⟨htype, inputs, figures, hinputs, hfigures⟩
    · rw [fallbacks, if_pos htype] at hfield
      exact dependent_of_goldenFallback hdomain htype hcomplete hfacts hinputs hfigures hfield
        hindependent
    · rw [fallbacks, htype, if_neg (by simp), if_pos rfl] at hfield
      exact dependent_of_coldChainFallback hdomain htype hcomplete hfacts hinputs hfigures hfield
        hindependent
  · rintro (hmissing | hmeasured | hnone) story story'
    · exact outcome_congr (route_of_missing hdomain hmissing story story')
    · exact outcome_congr (route_of_measured hmeasured story story')
    · by_cases hmissing : missingFacts event = []
      · cases hfacts : context.scenarioFacts event inventory twin with
        | error e => exact outcome_congr (route_of_no_facts hfacts story story')
        | ok facts =>
          -- both runs end with an exception, or the cascade reads no constant
          by_cases hscan : event.type = .scan
          · rw [outcome_scan_none hdomain hscan hmissing hfacts (hnone story),
              outcome_scan_none hdomain hscan hmissing hfacts (hnone story')]
          · by_cases halert : event.type = .coldChainAlert
            · rw [outcome_alert_none hdomain halert hmissing hfacts (hnone story),
                outcome_alert_none hdomain halert hmissing hfacts (hnone story')]
            · refine outcome_congr (route_of_measured ?_ story story')
              rw [fallbacks, if_neg hscan, if_neg halert]
      · exact outcome_congr (route_of_missing hdomain hmissing story story')

/-- The facts of a yoghurt in stock. -/
def yoghurtFacts : ScenarioFacts where
  sku := "yoghurt_500"
  productName := "Yoghurt 500 g"
  category := "dairy"
  location := "store_a"
  unitsOnHand := 40
  daysToExpiry := 4
  recentDailyUnits := [.ofInt 6, .ofInt 6, .ofInt 6]
  unitCost := ⟨1200, "ZAR"⟩
  unitPrice := ⟨2000, "ZAR"⟩

/-- A scan that measures all of them, and no outage. -/
def yoghurtScan : Event where
  id := "evt_scan_1"
  type := .scan
  ts := ⟨0, "2026-07-01T00:00:00+00:00"⟩
  actor := "scanner_1"
  payload := [("sku", .str "yoghurt_500"), ("product_name", .str "Yoghurt 500 g"),
    ("category", .str "dairy"), ("store_id", .str "store_a"), ("on_hand", .int 40),
    ("reorder_point", .int 10), ("days_to_expiry", .int 4),
    ("recent_daily_units", .list [.int 6, .int 6, .int 6]), ("unit_cost_cents", .int 1200),
    ("catalog_price_cents", .int 2000), ("supplier", .str "supplier_a"),
    ("lead_time_days", .int 2), ("recent_delay", .bool false), ("payday_multiplier", .int 1),
    ("cold_chain_area", .str "fridge_b"), ("cold_chain_outage_hours", .int 0),
    ("cold_chain_average_temp_c", .int 4)]
  source := .scanner
  tenantId := "tenant_a"
  dataDomain := .operationalTwin
  correlationId := "evt_scan_1"
  causationId := none
  schemaVersion := "v1"
  id_ne := by decide +kernel
  actor_ne := by decide +kernel
  tenantId_ne := tenantA_ne
  correlationId_ne := by decide +kernel

/-- A provider that reads these facts in the scan. -/
def yoghurtContext : CascadeContext where
  tables := ⟨Char.isAlphanum, id⟩
  scenarioFacts := fun _ _ _ => .ok yoghurtFacts
  learning := none

/-- Other cascades, which say nothing. -/
def silentCascades : Cascades where
  runCatalogPriceCheck := fun _ _ _ => .ok none
  runColdChainCascade := fun _ _ _ => .ok none
  runExpiryRiskCheck := fun _ _ _ => .ok none
  runGoldenCascade := fun _ _ _ => .ok none
  runInventoryExceptionCascade := fun _ _ _ => .ok none
  runProcurementCascade := fun _ _ _ => .ok none
  runRecallCascade := fun _ _ _ => .ok none
  runSalesCascade := fun _ _ _ => .ok none

/-- The scan without an outage: its zero hours are replaced, so its decision depends on them. -/
theorem story_independent_yoghurt : yoghurtScan.dataDomain = .operationalTwin ∧
    ¬ ∀ story story',
      outcome yoghurtContext silentCascades yoghurtScan .empty .empty story =
        outcome yoghurtContext silentCascades yoghurtScan .empty .empty story' := by
  refine ⟨rfl, fun hindependent => ?_⟩
  rcases (story_independent_iff yoghurtContext silentCascades rfl .empty .empty).mp hindependent
    with hmissing | hmeasured | hnone
  · exact hmissing (by decide +kernel)
  · have hzero : fallbacks yoghurtScan ≠ [] := by decide +kernel
    exact hzero hmeasured
  · refine hnone .shipped ⟨yoghurtFacts, rfl, .inl ⟨rfl, ?_⟩⟩
    have hinputs : goldenInputs .shipped yoghurtScan.payload =
        .ok ⟨"fridge_b", .ofInt 3, .ofInt 4, .ofInt 1⟩ := by decide +kernel
    have hfigures : (goldenFigures yoghurtFacts
        ⟨"fridge_b", .ofInt 3, .ofInt 4, .ofInt 1⟩).isOk = true := by decide +kernel
    cases hok : goldenFigures yoghurtFacts ⟨"fridge_b", .ofInt 3, .ofInt 4, .ofInt 1⟩ with
    | error e =>
      rw [hok] at hfigures
      cases hfigures
    | ok figures => exact ⟨_, figures, hinputs, hok⟩

/-- With an outage of three hours in the place of the measured zero the risk is another one than with
an outage of two. -/
theorem story_replaces_zero : ¬ ∀ (context : CascadeContext) (others : Cascades) (event : Event),
    event.dataDomain = .operationalTwin → ∀ (inventory : Inventory.Store) (twin : Twin.TwinStore)
      (story story' : Story), outcome context others event inventory twin story =
        outcome context others event inventory twin story' := by
  intro h
  have hsame := h yoghurtContext silentCascades yoghurtScan rfl .empty .empty .shipped
    { Story.shipped with goldenOutageHours := "2" }
  have hdiffer : outcome yoghurtContext silentCascades yoghurtScan .empty .empty .shipped ≠
      outcome yoghurtContext silentCascades yoghurtScan .empty .empty
        { Story.shipped with goldenOutageHours := "2" } := by
    decide +kernel
  exact hdiffer hsame

end ShelfWise.Cascade
