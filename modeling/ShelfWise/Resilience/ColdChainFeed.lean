import ShelfWise.Connectors.Normalize
import ShelfWise.Py.Float
import ShelfWise.Sys.Run

/-!
# The cold chain feed

`ColdChainFeed` reduces the readings of a site to tiles and alerts. An alert is published when the
diagnosis of a temperature reading is at least a warning and is news (`alerts_exact`), and the alerts of
an asset are those of its own readings and of the power and generator of the site
(`alerts_independent`). The minutes that a door is open are read and never written, so that no door is
ever diagnosed as left open (`cold_chain_exact_iff`).
-/

namespace ShelfWise.Resilience

open Py Connectors

/-! ## Telemetry -/

/-- `SignalKind`. -/
inductive SignalKind where
  | temperature | power | generator | door | ambient | energy
deriving DecidableEq

/-- `PowerState`. -/
inductive PowerState where
  | mains | outage
deriving DecidableEq

/-- `GeneratorState`. -/
inductive GeneratorState where
  | off | starting | running | failed | lowFuel | tripped
deriving DecidableEq

/-- `DoorState`. -/
inductive DoorState where
  | closed | opened
deriving DecidableEq

/-- The fields of a `SensorReading` that the feed reads. -/
structure ReadingFields where
  sensorId : String
  assetId : String
  siteId : String
  kind : SignalKind
  ts : AwareDatetime
  tempC : Option FloatValue := none
  power : Option PowerState := none
  generator : Option GeneratorState := none
  door : Option DoorState := none
  energyW : Option FloatValue := none
  synthetic : Bool := false
deriving DecidableEq

/-- `_validate_id`. -/
def validId (value : String) : Bool := decide (1 ≤ value.length) && decide (value.length ≤ 64)

/-- `_validate_range`. -/
def inRange (value : Option FloatValue) (low high : ℚ) : Bool :=
  value.all fun x => FloatValue.le (.finite low) x && FloatValue.le x (.finite high)

/-- The reading has the field of its kind. -/
def ReadingFields.hasField (self : ReadingFields) : Bool :=
  match self.kind with
  | .temperature => self.tempC.isSome
  | .ambient => self.tempC.isSome
  | .power => self.power.isSome
  | .generator => self.generator.isSome
  | .door => self.door.isSome
  | .energy => self.energyW.isSome

/-- `SensorReading.__post_init__`. -/
def ReadingFields.postInit (self : ReadingFields) : Bool :=
  validId self.sensorId && validId self.assetId && validId self.siteId &&
    inRange self.tempC (-100) 150 && inRange self.energyW 0 100000 && self.hasField

/-- `SensorReading`. -/
structure SensorReading extends ReadingFields where
  valid : toReadingFields.postInit = true
deriving DecidableEq

/-! ## Diagnoses -/

/-- `Diagnosis`. -/
inductive Diagnosis where
  | normal | onGenerator | generatorFailed | unitNotCooling | compressorFailure | doorAjar | warming
deriving DecidableEq

/-- `Severity`. -/
inductive Severity where
  | info | warning | critical
deriving DecidableEq

/-- `int(severity)`. -/
def Severity.value : Severity → ℕ
  | .info => 0
  | .warning => 1
  | .critical => 2

/-- `Snapshot`. -/
structure Snapshot where
  power : PowerState
  generator : GeneratorState
  tempSlopeCPerMin : FloatValue
  energyW : FloatValue
  doorOpenMin : FloatValue

/-- `DiagnosisResult`. -/
structure DiagnosisResult where
  diagnosis : Diagnosis
  severity : Severity
  headline : String
  recommendedAction : String
deriving DecidableEq

/-- `_RISE_C_PER_MIN`. -/
def riseCPerMin : FloatValue := .ofRat (5 / 100)

/-- `_IDLE_W`. -/
def idleW : FloatValue := .finite 20

/-- `_DOOR_AJAR_MIN`. -/
def doorAjarMin : FloatValue := .finite 10

/-- `diagnose`. -/
def diagnose (snapshot : Snapshot) : DiagnosisResult :=
  let rising := FloatValue.le riseCPerMin snapshot.tempSlopeCPerMin
  let coolingExpected := snapshot.power = .mains ∨ snapshot.generator = .running
  if FloatValue.le doorAjarMin snapshot.doorOpenMin then
    ⟨.doorAjar, .warning, "Door left open; temperature drifting.",
      "Close door and check seal or latch."⟩
  else if snapshot.power = .outage ∧
      snapshot.generator ∈ [GeneratorState.failed, .off, .tripped, .starting] then
    ⟨.generatorFailed, .critical,
      "Power outage and generator not carrying load; cold rooms at risk.",
      "Dispatch technician now; move high-value stock to backup refrigeration."⟩
  else if coolingExpected ∧ rising ∧ FloatValue.le snapshot.energyW idleW then
    ⟨.compressorFailure, .critical, "Powered but compressor draws no energy while warming.",
      "Dispatch refrigeration technician; relocate stock pre-emptively."⟩
  else if coolingExpected ∧ rising then
    ⟨.unitNotCooling, .warning, "Cooling is on but the unit is not holding temperature.",
      "Inspect the unit, load, and door state."⟩
  else if rising then ⟨.warming, .warning, "Temperature rising.", "Investigate the cause."⟩
  else if snapshot.generator = .lowFuel then
    ⟨.onGenerator, .warning, "On generator with low fuel.",
      "Refuel generator before runtime expires."⟩
  else if snapshot.power = .outage ∧ snapshot.generator = .running then
    ⟨.onGenerator, .info, "Mains down; generator is holding temperatures stable.",
      "Monitor fuel and runtime."⟩
  else ⟨.normal, .info, "Cold chain nominal.", "None."⟩

/-- The alert state of a diagnosis, `key`. -/
def DiagnosisResult.key (self : DiagnosisResult) : Diagnosis × Severity :=
  (self.diagnosis, self.severity)

/-! ## The feed -/

/-- `ColdChainProfile`. -/
structure ColdChainProfile where
  name : String
  safeMaxC : FloatValue
  unsafeAboveC : FloatValue

/-- The keys of `PROFILES`. -/
inductive ProfileName where
  | chilled | frozen
deriving DecidableEq

/-- `PROFILES`. -/
def profileOf : ProfileName → ColdChainProfile
  | .chilled => ⟨"chilled", .finite 5, .finite 8⟩
  | .frozen => ⟨"frozen", .finite (-15), .finite (-12)⟩

/-- `Prediction`. -/
structure Prediction where
  slopeCPerMin : FloatValue
  minutesToUnsafe : FloatValue
deriving DecidableEq

/-- What a feed is made with: the profiles of its assets, the predictor of the time to the unsafe
temperature, and the value of the stock of an asset that a prediction puts at risk. -/
structure FeedSetup where
  profiles : Dict String ProfileName
  predictTimeToUnsafe : List SensorReading → ColdChainProfile → Option Prediction
  stockAtRisk : String → Option Prediction → Money

/-- The state of `ColdChainFeed`. -/
structure FeedState where
  window : Dict String (List SensorReading)
  power : PowerState
  generator : GeneratorState
  energy : Dict String FloatValue
  doorMin : Dict String FloatValue
  lastAlert : Dict String (Diagnosis × Severity)

/-- `ColdChainFeed.__init__`. -/
def FeedState.initial : FeedState :=
  ⟨.empty, .mains, .off, .empty, .empty, .empty⟩

/-- The tile of a fridge. -/
structure FridgeTile where
  assetId : String
  profile : String
  tempC : FloatValue
  status : String
  minutesToUnsafe : Option FloatValue
  stockAtRisk : Money
  ts : String
  trend : List FloatValue
  synthetic : Bool
deriving DecidableEq

/-- `ColdChainAlert`. -/
structure ColdChainAlert where
  id : String
  siteId : String
  assetId : String
  severity : Severity
  diagnosis : Diagnosis
  headline : String
  recommendedAction : String
  predictedMinutesToUnsafe : Option FloatValue
  stockAtRisk : Money
  signals : List String
  ts : String
  synthetic : Bool
deriving DecidableEq

/-- What is published: under `"fridge"` a tile, and under `"cold_chain"` an alert. -/
inductive Message where
  | fridge (tile : FridgeTile)
  | coldChain (alert : ColdChainAlert)
deriving DecidableEq

/-- `_TREND_LEN`. -/
def trendLen : ℕ := 24

/-- `deque.append`, of a queue of bounded length. -/
def appendTrend (readings : List SensorReading) (reading : SensorReading) : List SensorReading :=
  (readings ++ [reading]).drop ((readings ++ [reading]).length - trendLen)

/-- `int(ts.timestamp())`. -/
def wholeSeconds (ts : AwareDatetime) : ℤ :=
  match FloatValue.ofRat (ts.instant / 1000000) with
  | .finite q => q.num.tdiv q.den
  | _ => 0

/-- `build_alert`. -/
def buildAlert (latest : SensorReading) (result : DiagnosisResult) (prediction : Option Prediction)
    (stockAtRisk : Money) (signals : List String) : ColdChainAlert :=
  { id := "cca_" ++ latest.assetId ++ "_" ++ toString (wholeSeconds latest.ts)
    siteId := latest.siteId
    assetId := latest.assetId
    severity := result.severity
    diagnosis := result.diagnosis
    headline := result.headline
    recommendedAction := result.recommendedAction
    predictedMinutesToUnsafe := prediction.map (·.minutesToUnsafe)
    stockAtRisk := stockAtRisk
    signals := signals
    ts := latest.ts.isoformat
    synthetic := true }

/-- `_status`. -/
def statusOf (tempC safeMaxC unsafeAboveC : FloatValue) (hasPrediction : Bool) : String :=
  if FloatValue.lt unsafeAboveC tempC then "unsafe"
  else if hasPrediction || FloatValue.lt safeMaxC tempC then "at_risk"
  else "safe"

namespace FeedSetup

variable (feed : FeedSetup)

/-- The profile of an asset. -/
def profile (assetId : String) : ColdChainProfile :=
  profileOf ((feed.profiles.get? assetId).getD .chilled)

/-- The readings in the window of an asset. -/
def readingsOf (state : FeedState) (assetId : String) : List SensorReading :=
  (state.window.get? assetId).getD []

/-- The prediction for an asset. -/
def prediction (state : FeedState) (assetId : String) : Option Prediction :=
  feed.predictTimeToUnsafe (readingsOf state assetId) (feed.profile assetId)

/-- The diagnosis of an asset. -/
def diagnosis (state : FeedState) (assetId : String) : DiagnosisResult :=
  diagnose
    { power := state.power
      generator := state.generator
      tempSlopeCPerMin := ((feed.prediction state assetId).map (·.slopeCPerMin)).getD (.finite 0)
      energyW := (state.energy.get? assetId).getD (.finite 180)
      doorOpenMin := (state.doorMin.get? assetId).getD (.finite 0) }

/-- The tile of an asset. -/
def tile (state : FeedState) (latest : SensorReading) (tempC : FloatValue) : FridgeTile :=
  let profile := feed.profile latest.assetId
  let prediction := feed.prediction state latest.assetId
  { assetId := latest.assetId
    profile := profile.name
    tempC := FloatValue.roundTo 2 tempC
    status := statusOf tempC profile.safeMaxC profile.unsafeAboveC prediction.isSome
    minutesToUnsafe := prediction.map (·.minutesToUnsafe)
    stockAtRisk := feed.stockAtRisk latest.assetId prediction
    ts := latest.ts.isoformat
    trend := (readingsOf state latest.assetId).filterMap fun r => r.tempC.map (FloatValue.roundTo 2)
    synthetic := latest.synthetic }

/-- The alert of an asset. -/
def alert (state : FeedState) (latest : SensorReading) : ColdChainAlert :=
  let signals := [latest.sensorId] ++
    if state.power = .outage then [latest.siteId ++ "_mains", latest.siteId ++ "_gen"] else []
  let prediction := feed.prediction state latest.assetId
  buildAlert latest (feed.diagnosis state latest.assetId) prediction
    (feed.stockAtRisk latest.assetId prediction) signals

/-- `_publish_alert`. -/
def publishAlert (state : FeedState) (latest : SensorReading) : FeedState × List Message :=
  let result := feed.diagnosis state latest.assetId
  if Severity.warning.value ≤ result.severity.value ∧
      state.lastAlert.get? latest.assetId ≠ some result.key then
    ({ state with lastAlert := state.lastAlert.set latest.assetId result.key },
      [.coldChain (feed.alert state latest)])
  else if result.severity = .info then
    ({ state with lastAlert := state.lastAlert.pop latest.assetId }, [])
  else (state, [])

/-- `_emit`. -/
def emit (state : FeedState) (latest : SensorReading) (tempC : FloatValue) :
    FeedState × List Message :=
  let published := feed.publishAlert state latest
  (published.1, .fridge (feed.tile state latest tempC) :: published.2)

/-- The state that `_emit` works with: the reading is in the window of its asset. -/
def taken (state : FeedState) (reading : SensorReading) : FeedState :=
  let readings := appendTrend (readingsOf state reading.assetId) reading
  { state with window := state.window.set reading.assetId readings }

/-- `ingest`. -/
def ingest (state : FeedState) (reading : SensorReading) : FeedState × List Message :=
  match reading.kind with
  | .power => (reading.power.elim state fun power => { state with power := power }, [])
  | .generator =>
    (reading.generator.elim state fun generator => { state with generator := generator }, [])
  | .energy =>
    (reading.energyW.elim state fun energyW =>
      { state with energy := state.energy.set reading.assetId energyW }, [])
  | .temperature => reading.tempC.elim (state, []) (feed.emit (taken state reading) reading)
  | .door => (state, [])
  | .ambient => (state, [])

/-! ## Runs -/

/-- The state after a history of readings. -/
def stateAfter (history : List SensorReading) : FeedState :=
  Sys.final feed.ingest .initial history

/-- The diagnosis of a temperature reading after a history. -/
def diagnosisAt (history : List SensorReading) (reading : SensorReading) : DiagnosisResult :=
  feed.diagnosis (taken (feed.stateAfter history) reading) reading.assetId

/-- A reading after a history publishes an alert. -/
def Alerts (history : List SensorReading) (reading : SensorReading) : Prop :=
  ∃ alert, .coldChain alert ∈ (feed.ingest (feed.stateAfter history) reading).2

end FeedSetup

/-- A temperature reading of the asset. -/
def IsTemperatureOf (assetId : String) (reading : SensorReading) : Prop :=
  reading.kind = .temperature ∧ reading.assetId = assetId

/-- The last temperature reading of the asset in a history, and the history before it. -/
structure Previous (history : List SensorReading) (assetId : String) (before : List SensorReading)
    (reading : SensorReading) : Prop where
  ofAsset : IsTemperatureOf assetId reading
  last : ∃ between, history = before ++ reading :: between ∧
    ∀ other ∈ between, ¬ IsTemperatureOf assetId other

/-- The door readings of the asset, of which the latest show the door open all the time from a first to
a last one that is at least ten minutes later. -/
def DoorShownOpen (assetId : String) (history : List SensorReading) : Prop :=
  ∃ earlier latest first last,
    history.filter (fun r => r.kind = .door ∧ r.assetId = assetId) = earlier ++ latest ∧
      (∀ r ∈ latest, r.door = some .opened) ∧ latest.head? = some first ∧
      latest.getLast? = some last ∧ 600000000 ≤ last.ts.instant - first.ts.instant

/-! ### What is promised of a run -/

namespace FeedSetup

variable (feed : FeedSetup)

/-- A temperature reading publishes an alert exactly when its diagnosis is a warning at least, and
differs from that of the temperature reading of the asset before it, or that one was no warning. -/
def AlertsExact (readings : List SensorReading) : Prop :=
  ∀ history reading rest, readings = history ++ reading :: rest → reading.kind = .temperature →
    (feed.Alerts history reading ↔
      Severity.warning.value ≤ (feed.diagnosisAt history reading).severity.value ∧
        ∀ before previous, Previous history reading.assetId before previous →
          (feed.diagnosisAt history reading).key ≠ (feed.diagnosisAt before previous).key ∨
            (feed.diagnosisAt before previous).severity = .info)

/-- The alert of an asset in a message. -/
def alertOf (assetId : String) : Message → Option ColdChainAlert
  | .coldChain alert => if alert.assetId = assetId then some alert else none
  | .fridge _ => none

/-- The alerts of an asset in the run from a state. -/
def alertsFrom (assetId : String) (state : FeedState) (readings : List SensorReading) :
    List ColdChainAlert :=
  (Sys.trace feed.ingest state readings).flatMap fun step => step.output.filterMap (alertOf assetId)

/-- The readings of the asset, and those of the power and the generator of the site. -/
def concerns (assetId : String) (reading : SensorReading) : Bool :=
  decide (reading.assetId = assetId) || decide (reading.kind = .power) ||
    decide (reading.kind = .generator)

/-- No other reading changes the alerts of an asset. -/
def AlertsIndependent (readings : List SensorReading) : Prop :=
  ∀ assetId, feed.alertsFrom assetId .initial readings =
    feed.alertsFrom assetId .initial (readings.filter (concerns assetId))

/-- A temperature reading of an asset whose door was shown open is diagnosed so. -/
def DoorsDiagnosed (readings : List SensorReading) : Prop :=
  ∀ history reading rest, readings = history ++ reading :: rest → reading.kind = .temperature →
    DoorShownOpen reading.assetId history →
      (feed.diagnosisAt history reading).diagnosis = .doorAjar

/-! ### One reading -/

variable {feed} {state : FeedState} {reading : SensorReading}

/-- A temperature reading has a temperature. -/
theorem exists_tempC (hkind : reading.kind = .temperature) : ∃ tempC, reading.tempC = some tempC := by
  have hvalid := reading.valid
  unfold ReadingFields.postInit at hvalid
  have hfield := (Bool.and_eq_true_iff.mp hvalid).2
  simp only [ReadingFields.hasField, hkind] at hfield
  exact Option.isSome_iff_exists.mp hfield

theorem ingest_temperature (hkind : reading.kind = .temperature) (state : FeedState) :
    ∃ tempC, feed.ingest state reading = feed.emit (taken state reading) reading tempC := by
  obtain ⟨tempC, htemp⟩ := exists_tempC hkind
  refine ⟨tempC, ?_⟩
  simp only [ingest, hkind, htemp, Option.elim_some]

/-- An alert is published when the diagnosis is a warning and not the one that is latched. -/
theorem exists_coldChain_iff (tempC : FloatValue) :
    (∃ alert, .coldChain alert ∈ (feed.emit state reading tempC).2) ↔
      Severity.warning.value ≤ (feed.diagnosis state reading.assetId).severity.value ∧
        state.lastAlert.get? reading.assetId ≠ some (feed.diagnosis state reading.assetId).key := by
  unfold emit publishAlert
  by_cases hnews : Severity.warning.value ≤ (feed.diagnosis state reading.assetId).severity.value ∧
      state.lastAlert.get? reading.assetId ≠ some (feed.diagnosis state reading.assetId).key
  · rw [if_pos hnews]
    exact ⟨fun _ => hnews, fun _ => ⟨feed.alert state reading, by simp⟩⟩
  · rw [if_neg hnews]
    refine ⟨?_, fun h => absurd h hnews⟩
    rintro ⟨alert, hmem⟩
    split at hmem
    · simp at hmem
    · simp at hmem

/-- What is latched after a diagnosis. -/
def latched (result : DiagnosisResult) : Option (Diagnosis × Severity) :=
  if Severity.warning.value ≤ result.severity.value then some result.key else none

theorem get?_pop_self {κ ν : Type} [DecidableEq κ] (d : Dict κ ν) (k : κ) :
    (d.pop k).get? k = none := by
  apply Dict.lookup_of_notMem
  intro hmem
  obtain ⟨e, he, hkey⟩ := List.mem_map.mp hmem
  have hne := (List.mem_filter.mp he).2
  simp [hkey] at hne

theorem get?_lastAlert_publishAlert : (feed.publishAlert state reading).1.lastAlert.get?
    reading.assetId = latched (feed.diagnosis state reading.assetId) := by
  unfold publishAlert latched
  by_cases hwarn : Severity.warning.value ≤ (feed.diagnosis state reading.assetId).severity.value
  · rw [if_pos hwarn]
    by_cases hnews :
        state.lastAlert.get? reading.assetId ≠ some (feed.diagnosis state reading.assetId).key
    · rw [if_pos ⟨hwarn, hnews⟩]
      exact Dict.get?_set_self _ _ _
    · -- the same alert is latched already
      have hinfo : (feed.diagnosis state reading.assetId).severity ≠ .info := by
        intro hinfo
        rw [hinfo] at hwarn
        exact absurd hwarn (by decide)
      rw [if_neg fun h => hnews h.2, if_neg hinfo]
      exact not_not.mp hnews
  · have hinfo : (feed.diagnosis state reading.assetId).severity = .info := by
      cases hseverity : (feed.diagnosis state reading.assetId).severity with
      | info => rfl
      | warning => exact absurd (by rw [hseverity]) hwarn
      | critical => exact absurd (by rw [hseverity]; decide) hwarn
    rw [if_neg hwarn, if_neg fun h => hwarn h.1, if_pos hinfo]
    exact get?_pop_self _ _

theorem get?_lastAlert_publishAlert_ne {assetId : String} (hne : reading.assetId ≠ assetId) :
    (feed.publishAlert state reading).1.lastAlert.get? assetId = state.lastAlert.get? assetId := by
  unfold publishAlert
  dsimp only
  split
  · exact Dict.get?_set_ne _ hne _
  · split
    · exact Dict.get?_pop_ne _ hne
    · rfl

/-- Only temperature readings change what is latched. -/
theorem lastAlert_ingest_of_ne (hkind : reading.kind ≠ .temperature) :
    (feed.ingest state reading).1.lastAlert = state.lastAlert := by
  unfold ingest
  cases hk : reading.kind with
  | power => cases reading.power <;> rfl
  | generator => cases reading.generator <;> rfl
  | energy => cases reading.energyW <;> rfl
  | door => rfl
  | ambient => rfl
  | temperature => exact absurd hk hkind

/-! ### Exact alerts -/

theorem stateAfter_concat (history : List SensorReading) (reading : SensorReading) :
    feed.stateAfter (history ++ [reading]) =
      (feed.ingest (feed.stateAfter history) reading).1 := by
  rw [stateAfter, Sys.final_append]
  rfl

/-- A temperature reading leaves its diagnosis latched. -/
theorem get?_lastAlert_concat (history : List SensorReading) {assetId : String}
    (hreading : IsTemperatureOf assetId reading) :
    (feed.stateAfter (history ++ [reading])).lastAlert.get? assetId =
      latched (feed.diagnosisAt history reading) := by
  obtain ⟨hkind, rfl⟩ := hreading
  obtain ⟨tempC, hingest⟩ := @ingest_temperature feed reading hkind (feed.stateAfter history)
  rw [stateAfter_concat, hingest]
  exact get?_lastAlert_publishAlert

/-- Any other reading leaves what was latched for the asset. -/
theorem get?_lastAlert_concat_ne (history : List SensorReading) {assetId : String}
    (hreading : ¬ IsTemperatureOf assetId reading) :
    (feed.stateAfter (history ++ [reading])).lastAlert.get? assetId =
      (feed.stateAfter history).lastAlert.get? assetId := by
  rw [stateAfter_concat]
  by_cases hkind : reading.kind = .temperature
  · obtain ⟨tempC, hingest⟩ := @ingest_temperature feed reading hkind (feed.stateAfter history)
    rw [hingest]
    exact get?_lastAlert_publishAlert_ne fun h => hreading ⟨hkind, h⟩
  · rw [lastAlert_ingest_of_ne hkind]

theorem get?_lastAlert_append (feed : FeedSetup) (before : List SensorReading) {assetId : String}
    (between : List SensorReading) (hbetween : ∀ other ∈ between, ¬ IsTemperatureOf assetId other) :
    (feed.stateAfter (before ++ between)).lastAlert.get? assetId =
      (feed.stateAfter before).lastAlert.get? assetId := by
  induction between using List.reverseRecOn with
  | nil => rw [List.append_nil]
  | append_singleton between other ih =>
    rw [← List.append_assoc, get?_lastAlert_concat_ne _ (hbetween other (by simp))]
    exact ih fun q hq => hbetween q (List.mem_append_left _ hq)

/-- What is latched is the diagnosis of the last temperature reading. -/
theorem get?_lastAlert_of_previous {history before : List SensorReading} {assetId : String}
    {previous : SensorReading} (h : Previous history assetId before previous) :
    (feed.stateAfter history).lastAlert.get? assetId =
      latched (feed.diagnosisAt before previous) := by
  obtain ⟨between, rfl, hbetween⟩ := h.last
  have hlast := get?_lastAlert_append feed (before ++ [previous]) between hbetween
  rw [List.append_assoc, List.singleton_append] at hlast
  rw [hlast, get?_lastAlert_concat before h.ofAsset]

theorem previous_or_none (history : List SensorReading) (assetId : String) :
    (∃ before previous, Previous history assetId before previous) ∨
      ∀ other ∈ history, ¬ IsTemperatureOf assetId other := by
  induction history using List.reverseRecOn with
  | nil => exact .inr fun other h => absurd h List.not_mem_nil
  | append_singleton history reading ih =>
    by_cases hreading : IsTemperatureOf assetId reading
    · exact .inl ⟨history, reading, hreading, [], rfl, fun other h => absurd h List.not_mem_nil⟩
    · have hshift : ∀ between, (∀ other ∈ between, ¬ IsTemperatureOf assetId other) →
          ∀ other ∈ between ++ [reading], ¬ IsTemperatureOf assetId other := by
        intro between hbetween other hother
        rcases List.mem_append.mp hother with hin | hin
        · exact hbetween other hin
        · rw [List.mem_singleton.mp hin]
          exact hreading
      rcases ih with ⟨before, previous, hprevious⟩ | hnone
      · obtain ⟨between, hsplit, hbetween⟩ := hprevious.last
        refine .inl ⟨before, previous, hprevious.ofAsset, between ++ [reading], ?_,
          hshift between hbetween⟩
        rw [hsplit, List.append_assoc, List.cons_append]
      · exact .inr (hshift history hnone)

/-- The latch is not the diagnosis exactly when the diagnosis is news. -/
theorem latched_ne_iff {result previous : DiagnosisResult} :
    latched previous ≠ some result.key ↔ result.key ≠ previous.key ∨ previous.severity = .info := by
  unfold latched
  cases hseverity : previous.severity with
  | info => simp [Severity.value]
  | warning => simp [Severity.value, eq_comm]
  | critical => simp [Severity.value, eq_comm]

theorem alerts_exact (readings : List SensorReading) : feed.AlertsExact readings := by
  rintro history reading rest - hkind
  obtain ⟨tempC, hingest⟩ := @ingest_temperature feed reading hkind (feed.stateAfter history)
  unfold Alerts
  rw [hingest, exists_coldChain_iff]
  apply and_congr_right
  intro _
  show (feed.stateAfter history).lastAlert.get? reading.assetId ≠ _ ↔ _
  rcases previous_or_none history reading.assetId with ⟨before, previous, hprevious⟩ | hnone
  · constructor
    · intro hnews before' previous' hprevious'
      rw [get?_lastAlert_of_previous hprevious'] at hnews
      exact latched_ne_iff.mp hnews
    · intro hnews
      rw [get?_lastAlert_of_previous hprevious]
      exact latched_ne_iff.mpr (hnews before previous hprevious)
  · have hlatch := get?_lastAlert_append feed [] history hnone
    rw [List.nil_append] at hlatch
    rw [hlatch]
    refine ⟨fun _ before previous hprevious => ?_, fun _ => (Option.some_ne_none _).symm⟩
    obtain ⟨between, hsplit, -⟩ := hprevious.last
    exact absurd hprevious.ofAsset (hnone previous (by simp [hsplit]))

/-! ### Independence -/

/-- Two states that an asset does not tell apart. -/
structure SameFor (assetId : String) (s s' : FeedState) : Prop where
  window : s.window.get? assetId = s'.window.get? assetId
  power : s.power = s'.power
  generator : s.generator = s'.generator
  energy : s.energy.get? assetId = s'.energy.get? assetId
  doorMin : s.doorMin.get? assetId = s'.doorMin.get? assetId
  lastAlert : s.lastAlert.get? assetId = s'.lastAlert.get? assetId

variable {s s' : FeedState} {assetId : String}

theorem SameFor.prediction (h : SameFor assetId s s') :
    feed.prediction s assetId = feed.prediction s' assetId := by
  rw [FeedSetup.prediction, FeedSetup.prediction, readingsOf, readingsOf, h.window]

theorem SameFor.diagnosis (h : SameFor assetId s s') :
    feed.diagnosis s assetId = feed.diagnosis s' assetId := by
  rw [FeedSetup.diagnosis, FeedSetup.diagnosis, h.power, h.generator, h.prediction, h.energy,
    h.doorMin]

theorem SameFor.alert {s s' : FeedState} (h : SameFor reading.assetId s s') :
    feed.alert s reading = feed.alert s' reading := by
  rw [FeedSetup.alert, FeedSetup.alert, h.power, h.prediction, h.diagnosis]

theorem SameFor.taken {s s' : FeedState} (h : SameFor reading.assetId s s') :
    SameFor reading.assetId (taken s reading) (taken s' reading) where
  window := by
    simp only [FeedSetup.taken, readingsOf, Dict.get?_set_self, h.window]
  power := h.power
  generator := h.generator
  energy := h.energy
  doorMin := h.doorMin
  lastAlert := h.lastAlert

/-- The alert of the asset itself is decided alike. -/
theorem SameFor.emit {s s' : FeedState} (h : SameFor reading.assetId s s') (tempC : FloatValue) :
    SameFor reading.assetId (feed.emit s reading tempC).1 (feed.emit s' reading tempC).1 ∧
      (feed.emit s reading tempC).2.filterMap (alertOf reading.assetId) =
        (feed.emit s' reading tempC).2.filterMap (alertOf reading.assetId) := by
  unfold FeedSetup.emit publishAlert
  dsimp only
  rw [← h.diagnosis, ← h.lastAlert, ← h.alert]
  by_cases hnews : Severity.warning.value ≤ (feed.diagnosis s reading.assetId).severity.value ∧
      s.lastAlert.get? reading.assetId ≠ some (feed.diagnosis s reading.assetId).key
  · rw [if_pos hnews, if_pos hnews]
    refine ⟨⟨h.window, h.power, h.generator, h.energy, h.doorMin, ?_⟩, rfl⟩
    rw [Dict.get?_set_self, Dict.get?_set_self]
  · rw [if_neg hnews, if_neg hnews]
    by_cases hinfo : (feed.diagnosis s reading.assetId).severity = .info
    · rw [if_pos hinfo, if_pos hinfo]
      refine ⟨⟨h.window, h.power, h.generator, h.energy, h.doorMin, ?_⟩, rfl⟩
      rw [get?_pop_self, get?_pop_self]
    · rw [if_neg hinfo, if_neg hinfo]
      exact ⟨h, rfl⟩

/-- A reading that concerns the asset. -/
theorem SameFor.ingest (h : SameFor assetId s s') (hconcerns : concerns assetId reading = true) :
    SameFor assetId (feed.ingest s reading).1 (feed.ingest s' reading).1 ∧
      (feed.ingest s reading).2.filterMap (alertOf assetId) =
        (feed.ingest s' reading).2.filterMap (alertOf assetId) := by
  cases hkind : reading.kind with
  | power =>
    simp only [FeedSetup.ingest, hkind]
    cases reading.power with
    | none => exact ⟨h, trivial⟩
    | some power => exact ⟨⟨h.window, rfl, h.generator, h.energy, h.doorMin, h.lastAlert⟩, trivial⟩
  | generator =>
    simp only [FeedSetup.ingest, hkind]
    cases reading.generator with
    | none => exact ⟨h, trivial⟩
    | some generator => exact ⟨⟨h.window, h.power, rfl, h.energy, h.doorMin, h.lastAlert⟩, trivial⟩
  | energy =>
    have hasset : reading.assetId = assetId := by simpa [concerns, hkind] using hconcerns
    simp only [FeedSetup.ingest, hkind]
    cases reading.energyW with
    | none => exact ⟨h, trivial⟩
    | some energyW =>
      refine ⟨⟨h.window, h.power, h.generator, ?_, h.doorMin, h.lastAlert⟩, trivial⟩
      simp only [Option.elim_some, hasset, Dict.get?_set_self]
  | temperature =>
    have hasset : reading.assetId = assetId := by simpa [concerns, hkind] using hconcerns
    subst hasset
    simp only [FeedSetup.ingest, hkind]
    cases reading.tempC with
    | none => exact ⟨h, rfl⟩
    | some tempC => exact h.taken.emit tempC
  | door =>
    simp only [FeedSetup.ingest, hkind]
    exact ⟨h, trivial⟩
  | ambient =>
    simp only [FeedSetup.ingest, hkind]
    exact ⟨h, trivial⟩

/-- What another asset emits leaves the asset as it was. -/
theorem SameFor.emit_ne (h : SameFor assetId s s') (hne : reading.assetId ≠ assetId)
    (tempC : FloatValue) : SameFor assetId (feed.emit (FeedSetup.taken s reading) reading tempC).1 s' ∧
      (feed.emit (FeedSetup.taken s reading) reading tempC).2.filterMap (alertOf assetId) = [] := by
  have htaken : SameFor assetId (FeedSetup.taken s reading) s' :=
    ⟨(Dict.get?_set_ne _ hne _).trans h.window, h.power, h.generator, h.energy, h.doorMin,
      h.lastAlert⟩
  have hlast := @get?_lastAlert_publishAlert_ne feed (FeedSetup.taken s reading) reading _ hne
  unfold FeedSetup.emit
  have hother : alertOf assetId (.coldChain (feed.alert (FeedSetup.taken s reading) reading)) = none :=
    if_neg hne
  unfold publishAlert at hlast ⊢
  dsimp only at hlast ⊢
  split
  · rename_i hnews
    rw [if_pos hnews] at hlast
    refine ⟨⟨htaken.window, h.power, h.generator, h.energy, h.doorMin, hlast.trans h.lastAlert⟩, ?_⟩
    rw [List.filterMap_cons, List.filterMap_cons, hother]
    rfl
  · split
    · rename_i hnews hinfo
      rw [if_neg hnews, if_pos hinfo] at hlast
      exact ⟨⟨htaken.window, h.power, h.generator, h.energy, h.doorMin, hlast.trans h.lastAlert⟩, rfl⟩
    · exact ⟨htaken, rfl⟩

/-- A reading that does not concern the asset. -/
theorem SameFor.skip (h : SameFor assetId s s') (hconcerns : concerns assetId reading = false) :
    SameFor assetId (feed.ingest s reading).1 s' ∧
      (feed.ingest s reading).2.filterMap (alertOf assetId) = [] := by
  have hne : reading.assetId ≠ assetId := by
    intro heq
    simp [concerns, heq] at hconcerns
  cases hkind : reading.kind with
  | power => simp [concerns, hkind] at hconcerns
  | generator => simp [concerns, hkind] at hconcerns
  | energy =>
    simp only [FeedSetup.ingest, hkind]
    cases reading.energyW with
    | none => exact ⟨h, rfl⟩
    | some energyW =>
      exact ⟨⟨h.window, h.power, h.generator, (Dict.get?_set_ne _ hne _).trans h.energy, h.doorMin,
        h.lastAlert⟩, rfl⟩
  | temperature =>
    simp only [FeedSetup.ingest, hkind]
    cases reading.tempC with
    | none => exact ⟨h, rfl⟩
    | some tempC => exact h.emit_ne hne tempC
  | door =>
    simp only [FeedSetup.ingest, hkind]
    exact ⟨h, rfl⟩
  | ambient =>
    simp only [FeedSetup.ingest, hkind]
    exact ⟨h, rfl⟩

theorem alertsFrom_filter (readings : List SensorReading) (h : SameFor assetId s s') :
    feed.alertsFrom assetId s readings =
      feed.alertsFrom assetId s' (readings.filter (concerns assetId)) := by
  induction readings generalizing s s' with
  | nil => rfl
  | cons reading readings ih =>
    cases hconcerns : concerns assetId reading with
    | true =>
      obtain ⟨hnext, halerts⟩ := @SameFor.ingest feed reading s s' assetId h hconcerns
      rw [List.filter_cons_of_pos hconcerns]
      simp only [alertsFrom, Sys.trace, List.flatMap_cons, Sys.stepOf, halerts]
      exact congrArg _ (ih hnext)
    | false =>
      obtain ⟨hnext, halerts⟩ := @SameFor.skip feed reading s s' assetId h hconcerns
      rw [List.filter_cons_of_neg (by simp [hconcerns])]
      simp only [alertsFrom, Sys.trace, List.flatMap_cons, Sys.stepOf, halerts, List.nil_append]
      exact ih hnext

theorem alerts_independent (readings : List SensorReading) : feed.AlertsIndependent readings :=
  fun _ => alertsFrom_filter readings ⟨rfl, rfl, rfl, rfl, rfl, rfl⟩

/-! ### Doors -/

/-- No reading is stored in the minutes that a door is open. -/
theorem doorMin_ingest (state : FeedState) (reading : SensorReading) :
    (feed.ingest state reading).1.doorMin = state.doorMin := by
  unfold FeedSetup.ingest
  cases reading.kind with
  | power => cases reading.power <;> rfl
  | generator => cases reading.generator <;> rfl
  | energy => cases reading.energyW <;> rfl
  | door => rfl
  | ambient => rfl
  | temperature =>
    cases reading.tempC with
    | none => rfl
    | some tempC =>
      simp only [Option.elim_some, FeedSetup.emit, publishAlert]
      split
      · rfl
      · split <;> rfl

theorem doorMin_stateAfter (history : List SensorReading) :
    (feed.stateAfter history).doorMin = .empty := by
  apply Sys.invariant_final (I := fun s : FeedState => s.doorMin = .empty)
  · intro s reading hs
    rw [doorMin_ingest, hs]
  · rfl

/-- No diagnosis is that of a door. -/
theorem diagnosisAt_ne_doorAjar (history : List SensorReading) (reading : SensorReading) :
    (feed.diagnosisAt history reading).diagnosis ≠ .doorAjar := by
  have hdoor : ((FeedSetup.taken (feed.stateAfter history) reading).doorMin.get? reading.assetId).getD
      (.finite 0) = FloatValue.finite 0 := by
    have hempty : (FeedSetup.taken (feed.stateAfter history) reading).doorMin = .empty :=
      doorMin_stateAfter history
    rw [hempty, Dict.get?_empty]
    rfl
  have hshut : FloatValue.le doorAjarMin (.finite 0) = false := by decide +kernel
  unfold diagnosisAt FeedSetup.diagnosis diagnose
  simp only [hdoor, hshut, Bool.false_eq_true, if_false]
  repeat' split
  all_goals simp

/-- The alerts are exact and those of an asset its own, and every door that is shown open is diagnosed,
exactly when no temperature is read of an asset whose door is shown open. -/
theorem cold_chain_exact_iff (feed : FeedSetup) (readings : List SensorReading) :
    (feed.AlertsExact readings ∧ feed.AlertsIndependent readings ∧ feed.DoorsDiagnosed readings) ↔
      ∀ history reading rest, readings = history ++ reading :: rest → reading.kind = .temperature →
        ¬ DoorShownOpen reading.assetId history := by
  constructor
  · rintro ⟨-, -, hdoors⟩ history reading rest hsplit hkind hopen
    exact diagnosisAt_ne_doorAjar history reading (hdoors history reading rest hsplit hkind hopen)
  · intro hshut
    refine ⟨alerts_exact readings, alerts_independent readings, ?_⟩
    intro history reading rest hsplit hkind hopen
    exact absurd hopen (hshut history reading rest hsplit hkind)

/-- A feed whose predictor sees no trend. -/
def flatFeed : FeedSetup :=
  { profiles := .empty
    predictTimeToUnsafe := fun _ _ => none
    stockAtRisk := fun _ _ => ⟨0, "ZAR"⟩ }

/-- A time in UTC has a zone. -/
theorem utc_aware : (some 0 : Option ℤ) ≠ none := Option.some_ne_none 0

/-- A reading of a fridge, on a morning at eight and some minutes. -/
def fridgeReading (kind : SignalKind) (minute : ℕ) (tempC : Option FloatValue) (door : Option DoorState)
    (hts : CivilTime.Valid ⟨2026, 7, 1, 8, minute, 0, 0, some 0⟩)
    (hvalid : ReadingFields.postInit
      { sensorId := "s1", assetId := "fridge-1", siteId := "site-1", kind := kind
        ts := ⟨⟨_, hts⟩, utc_aware⟩, tempC := tempC, door := door } = true) :
    SensorReading :=
  ⟨_, hvalid⟩

/-- The door of a fridge is open at eight and still open twenty minutes later, when its temperature is
read. -/
def openDoor : List SensorReading :=
  [fridgeReading .door 0 none (some .opened) (by decide) (by decide +kernel),
    fridgeReading .door 20 none (some .opened) (by decide) (by decide +kernel)]

/-- The reading of the temperature. -/
def warmReading : SensorReading :=
  fridgeReading .temperature 21 (some (.finite 6)) none (by decide) (by decide +kernel)

/-- The open door is not diagnosed. -/
theorem open_door_not_diagnosed :
    ¬ (flatFeed.AlertsExact (openDoor ++ [warmReading]) ∧
      flatFeed.AlertsIndependent (openDoor ++ [warmReading]) ∧
      flatFeed.DoorsDiagnosed (openDoor ++ [warmReading])) := by
  rintro ⟨-, -, hdoors⟩
  apply diagnosisAt_ne_doorAjar openDoor warmReading
  apply hdoors openDoor warmReading [] rfl rfl
  refine ⟨[], openDoor, _, _, ?_, ?_, rfl, rfl, ?_⟩
  · decide +kernel
  · decide +kernel
  · decide +kernel

end FeedSetup

end ShelfWise.Resilience
