import ShelfWise.Cascades.Golden
import ShelfWise.Connectors.CsvIntake

/-!
# Expiry dates

`run_expiry_risk_check` of `shelfwise_backend/cascade.py`: an expiry entry whose payload says in how
many days the batch expires gets a review when there are at most two. A spreadsheet says the date
instead, and the event of its row has no number of days. So no imported row is ever reviewed:
`imported_expiry_reviewed_iff` says for every row, every clock and all stores when that is right.
-/

namespace ShelfWise.Cascade

open Py Connectors Ingest

/-! ## The check -/

/-- `EXPIRY_REVIEW_MAX_DAYS`. -/
def expiryReviewMaxDays : ℤ := 2

/-- `int(payload["days_to_expiry"])`, where a missing key and a value that is no integer give
`None`. -/
def daysToExpiry (payload : List (String × Value)) : Except Exc (Option ℤ) :=
  match requireKey payload "days_to_expiry" with
  | .error _ => .ok none
  | .ok value => Value.intOrNone value

/-- What the check reads of a payload besides the days. -/
structure ExpiryBatch where
  sku : String
  batchId : String

/-- The batch of an event. -/
def expiryBatch (payload : List (String × Value)) : ExpiryBatch :=
  ⟨(Value.getD payload "sku" (.str "unknown")).toText,
    (Value.getD payload "batch_id" (.str "")).toText⟩

/-- The review of a batch. -/
def reviewAction (batch : ExpiryBatch) (days : ℤ) : RecommendedAction :=
  ⟨"review_expiry_markdown", [("sku", .str batch.sku), ("batch_id", .str batch.batchId),
    ("days_to_expiry", .str (toString days))], .medium⟩

/-- The dataset of an event. -/
def expirySource (event : Event) : SourceRef :=
  .dataset (if event.dataDomain = .operationalTwin then "operational_twin" else "worldgen_wms")
    ("expiry:" ++ event.id)

/-- The evidence of the inventory agent and of the critic. -/
def expiryFindings (event : Event) (batch : ExpiryBatch) (days : ℤ) : List EvidenceObject :=
  [{ agent := .inventory
     conclusion := "Batch " ++ (if batch.batchId = "" then batch.sku else batch.batchId) ++ " has " ++
       toString days ++ " day(s) to expiry - inside the " ++ toString expiryReviewMaxDays ++
       "-day markdown review window."
     supportingData :=
       [supportingFact "days_to_expiry" (toString days) (expirySource event).text
          "wms_expiry_entry",
        supportingFact "review_window_days" (toString expiryReviewMaxDays) (expirySource event).text
          "expiry_policy"]
     confidence := .finite false 82 (-2)
     recommendedAction := reviewAction batch days
     sources := [expirySource event]
     requiresHumanReview := true },
   { agent := .critic
     conclusion := "Imminent expiry confirmed by the WMS entry; hold the markdown until an " ++
       "inventory manager confirms shelf state."
     supportingData :=
       [supportingFact "within_review_window" "True" "critic_gate" "expiry_policy"]
     confidence := .finite false 85 (-2)
     recommendedAction := reviewAction batch days
     sources := [.tool "critic_gate"]
     requiresHumanReview := true }]

/-- The decision of the check. -/
def expiryDecision (tables : CharTables) (event : Event) (batch : ExpiryBatch) (days : ℤ) :
    List (String × Value) :=
  [("id", .str (decisionId tables event)), ("status", .str "pending"),
    ("action", (reviewAction batch days).toDict), ("caused_by", .list [.str event.id]),
    ("summary", .str ("Pending expiry markdown review for SKU " ++ batch.sku ++ ": " ++
      toString days ++ " day(s) to expiry.")),
    ("tenant_id", .str event.tenantId), ("scenario_id", .str "expiry_risk_markdown_review"),
    ("role", .str "inventory_manager"), ("critic_verdict", .str "review_required"),
    ("expected_outcome", .dict [("days_to_expiry", .int days), ("batch_id", .str batch.batchId)])]

/-- What the check returns for a batch that is due. -/
def expiryResult (tables : CharTables) (event : Event) (batch : ExpiryBatch) (days : ℤ) :
    CascadeResult :=
  [("correlation_id", .str event.correlationId), ("scenario", .str "expiry_risk_markdown_review"),
    ("evidence", .list ((expiryFindings event batch days).map EvidenceObject.toDict)),
    ("decision", .dict (expiryDecision tables event batch days))]

/-- `run_expiry_risk_check`. -/
def runExpiryRiskCheck (tables : CharTables) : Cascade := fun event _ _ => do
  let days ← orRaised (daysToExpiry event.payload)
  match days with
  | none => .ok none
  | some days =>
    if expiryReviewMaxDays < days then .ok none
    else .ok (some (expiryResult tables event (expiryBatch event.payload) days))

/-- The cascades with the expiry check in its place. -/
def withExpiryCheck (tables : CharTables) (others : Cascades) : Cascades :=
  { others with runExpiryRiskCheck := runExpiryRiskCheck tables }

/-! ## What a human is to see -/

/-- A result carries the pending review of a SKU with this number of days. -/
def CarriesReview (sku : String) (days : ℤ) (result : CascadeResult) : Prop :=
  ∃ decision action params, Value.get result "decision" = .dict decision ∧
    Value.get decision "status" = .str "pending" ∧ Value.get decision "action" = .dict action ∧
    Value.get action "type" = .str "review_expiry_markdown" ∧
    Value.get action "params" = .dict params ∧ Value.get params "sku" = .str sku ∧
    Value.get params "days_to_expiry" = .str (toString days)

/-- A result carries no decision. -/
def CarriesNone (result : CascadeResult) : Prop :=
  ∀ decision, Value.get result "decision" ≠ .dict decision

/-- The event of a record gets a review when there are few days left, and no decision otherwise. -/
structure ReachesHuman (fromIso : String → Option Timestamp) (cascades : Cascades)
    (inventory : Inventory.Store) (twin : Twin.TwinStore) (record : InboundRecord) (sku : String)
    (days : ℤ) : Prop where
  reviewed : days ≤ expiryReviewMaxDays → ∃ event result,
    recordToEvent fromIso record = .ok (some event) ∧
      dispatch cascades event inventory twin = .ok (some result) ∧ CarriesReview sku days result
  quiet : expiryReviewMaxDays < days → ∀ event result,
    recordToEvent fromIso record = .ok (some event) →
      dispatch cascades event inventory twin = .ok (some result) → CarriesNone result

/-- An event that does not say the days gets no decision. -/
theorem dispatch_of_no_days (tables : CharTables) (others : Cascades) {event : Event}
    (htype : event.type = .expiryEntry) (hdomain : event.dataDomain = .operationalTwin)
    (hdays : daysToExpiry event.payload = .ok none) (inventory : Inventory.Store)
    (twin : Twin.TwinStore) :
    dispatch (withExpiryCheck tables others) event inventory twin = .ok none := by
  have hroute : route (withExpiryCheck tables others) event inventory twin = .ok none := by
    unfold route
    rw [if_neg (by simp [hdomain]), htype]
    change runExpiryRiskCheck tables event inventory twin = _
    unfold runExpiryRiskCheck
    rw [hdays]
    rfl
  unfold dispatch
  rw [hroute]

/-! ## Imported rows -/

/-- `build_records` makes this record of the row at this line, which is a valid entry. -/
structure ImportedExpiry (env : CsvEnv) (now : ℕ → Timestamp) (upload : CsvUpload) (line : ℕ)
    (entry : ExpiryEntry) (record : InboundRecord) : Prop where
  kind : upload.kind = .expiry
  row : ∃ rows mapping values parsed, parsedRows env upload = .ok (rows, mapping, []) ∧
    (line, values) ∈ rows ∧
    expiryEntry env (fieldsOf mapping values) upload.tenantId upload.defaultLocation = .ok entry ∧
    canonicaliseRow env .expiry upload.tenantId upload.defaultLocation mapping (line, values) =
      .ok parsed ∧
    record = csvRecord env .expiry upload.tenantId (now line) parsed
  valid : record.validation.ok = true

/-- The days that are left on the day of the import. -/
def daysLeft (env : CsvEnv) (now : Timestamp) (entry : ExpiryEntry) : ℤ :=
  entry.expiryDate.ordinal - (env.dateOf now).ordinal

/-- The event of an expiry entry is one, and its payload does not say the days. -/
theorem expiryEvent_of_record {fromIso : String → Option Timestamp} {record : InboundRecord}
    (htype : record.canonicalType = "expiry_entry") {event : Event}
    (h : recordToEvent fromIso record = .ok (some event)) :
    event.type = .expiryEntry ∧ event.dataDomain = .operationalTwin ∧
      daysToExpiry event.payload = .ok none := by
  have hevent : expiryToEvent record = .ok event := by
    unfold recordToEvent at h
    rw [htype] at h
    split at h
    · cases h
    · rw [if_neg (by decide), if_neg (by decide), if_pos rfl] at h
      unfold orNoEvent at h
      cases hrun : expiryToEvent record with
      | ok event' =>
        rw [hrun] at h
        exact congrArg Except.ok (Option.some.inj (Except.ok.inj h))
      | error e =>
        rw [hrun] at h
        dsimp only at h
        split at h
        · cases h
        · cases h
  unfold expiryToEvent at hevent
  obtain ⟨sku, -, hevent⟩ := bind_eq_ok_iff.mp hevent
  obtain ⟨onHand, -, hevent⟩ := bind_eq_ok_iff.mp hevent
  obtain ⟨expiryDate, -, hevent⟩ := bind_eq_ok_iff.mp hevent
  have hbuilt := builtFrom_of_eventOf hevent
  refine ⟨hbuilt.type, hbuilt.dataDomain, ?_⟩
  rw [hbuilt.payload]
  rfl

/-- **Imported expiry dates.** For every imported row, every day of the import and all stores: the
event of the row gets the review it should get, and no other decision, exactly when the batch has
more days left than the window of the check. -/
theorem imported_expiry_reviewed_iff {env : CsvEnv} {now : ℕ → Timestamp} {upload : CsvUpload}
    {line : ℕ} {entry : ExpiryEntry} {record : InboundRecord}
    (h : ImportedExpiry env now upload line entry record) (others : Cascades)
    (inventory : Inventory.Store) (twin : Twin.TwinStore) :
    ReachesHuman env.fromIso (withExpiryCheck env.tables others) inventory twin record entry.sku
        (daysLeft env (now line) entry) ↔
      expiryReviewMaxDays < daysLeft env (now line) entry := by
  have htype : record.canonicalType = "expiry_entry" := by
    obtain ⟨rows, mapping, values, parsed, -, -, -, -, hrecord⟩ := h.row
    rw [hrecord]
    rfl
  have hnone : ∀ event, recordToEvent env.fromIso record = .ok (some event) →
      dispatch (withExpiryCheck env.tables others) event inventory twin = .ok none := by
    intro event hevent
    obtain ⟨hentry, hdomain, hdays⟩ := expiryEvent_of_record htype hevent
    exact dispatch_of_no_days env.tables others hentry hdomain hdays inventory twin
  constructor
  · intro hreaches
    by_contra hdue
    obtain ⟨event, result, hevent, hresult, -⟩ := hreaches.reviewed (not_lt.mp hdue)
    rw [hnone event hevent] at hresult
    cases hresult
  · intro hfresh
    refine ⟨fun hdue => absurd hfresh (not_lt.mpr hdue), fun _ event result hevent hresult => ?_⟩
    rw [hnone event hevent] at hresult
    cases hresult

/-- The first of July. -/
def julyFirst : Timestamp := ⟨1782864000000000, "2026-07-01T00:00:00+00:00"⟩

/-- A spreadsheet intake that knows two dates. -/
def julyEnv : CsvEnv where
  twinService := Twin.defaultService
  utcIso := fun _ => none
  cascades := ⟨silent, silent, silent, silent, silent, silent, silent, silent⟩
  attachGovernance := .ok
  fromIso := fun _ => none
  tables := ⟨fun _ => false, id⟩
  sniff := fun _ => some ','
  dateFromIso := fun text =>
    if text = "2026-07-02" then some ⟨739799, text⟩
    else if text = "2026-07-31" then some ⟨739828, text⟩
    else none
  dateOf := fun t => ⟨719163 + t.instant / 86400000000, take 10 t.isoformat⟩
  reads_isoformat := fun _ _ h => by cases h
where
  /-- A cascade without an answer. -/
  silent : Cascade := fun _ _ _ => .ok none

/-- Six units of one SKU that expire on a date. -/
def yoghurtUpload (date : String) : CsvUpload where
  kind := .expiry
  text := "sku,location,quantity,expiry date\n4011,store_a,6," ++ date ++ "\n"
  tenantId := "tenant_a"
  mapping := []
  defaultLocation := none

/-- Their entry. -/
def yoghurtEntry (date : CalendarDate) : ExpiryEntry :=
  ⟨"tenant_a", "4011", "store_a", .finite false 6 0, date⟩

/-- The row. -/
def yoghurtRow (date : String) : Cells :=
  [("sku", "4011"), ("location", "store_a"), ("quantity", "6"), ("expiry date", date)]

/-- The record of the row. -/
def yoghurtRecord (date : CalendarDate) : InboundRecord :=
  csvRecord julyEnv .expiry "tenant_a" julyFirst
    ⟨2, yoghurtRow date.isoformat, expiryCanonical (yoghurtEntry date), .passed⟩

/-- The columns of the upload. -/
def yoghurtMapping : Cells :=
  [("sku", "sku"), ("location_id", "location"), ("quantity", "quantity"),
    ("expiry_date", "expiry date")]

theorem importedExpiry_july :
    ImportedExpiry julyEnv (fun _ => julyFirst) (yoghurtUpload "2026-07-31") 2
      (yoghurtEntry ⟨739828, "2026-07-31"⟩) (yoghurtRecord ⟨739828, "2026-07-31"⟩) := by
  refine ⟨rfl, ⟨[(2, yoghurtRow "2026-07-31")], yoghurtMapping, yoghurtRow "2026-07-31", _, ?_,
    List.mem_singleton_self _, ?_, ?_, rfl⟩, rfl⟩
  · decide +kernel
  · decide +kernel
  · rfl

/-- Thirty days are left. -/
theorem imported_expiry_quiet :
    expiryReviewMaxDays < daysLeft julyEnv julyFirst (yoghurtEntry ⟨739828, "2026-07-31"⟩) ∧
      ReachesHuman julyEnv.fromIso (withExpiryCheck julyEnv.tables julyEnv.cascades) .empty .empty
        (yoghurtRecord ⟨739828, "2026-07-31"⟩) "4011" 30 := by
  have hdays : daysLeft julyEnv julyFirst (yoghurtEntry ⟨739828, "2026-07-31"⟩) = 30 := by decide
  refine ⟨by rw [hdays]; decide, ?_⟩
  have hquiet := (imported_expiry_reviewed_iff importedExpiry_july julyEnv.cascades .empty
    .empty).mpr (by rw [hdays]; decide)
  rw [hdays] at hquiet
  exact hquiet

/-- One day is left, and nobody is asked. -/
theorem imported_expiry_unseen : ¬ ∀ (env : CsvEnv) (now : ℕ → Timestamp) (upload : CsvUpload)
    (line : ℕ) (entry : ExpiryEntry) (record : InboundRecord),
    ImportedExpiry env now upload line entry record →
      ∀ (others : Cascades) (inventory : Inventory.Store) (twin : Twin.TwinStore),
        ReachesHuman env.fromIso (withExpiryCheck env.tables others) inventory twin record entry.sku
          (daysLeft env (now line) entry) := by
  intro hall
  have hrow : ImportedExpiry julyEnv (fun _ => julyFirst) (yoghurtUpload "2026-07-02") 2
      (yoghurtEntry ⟨739799, "2026-07-02"⟩) (yoghurtRecord ⟨739799, "2026-07-02"⟩) := by
    refine ⟨rfl, ⟨[(2, yoghurtRow "2026-07-02")], yoghurtMapping, yoghurtRow "2026-07-02", _, ?_,
      List.mem_singleton_self _, ?_, ?_, rfl⟩, rfl⟩
    · decide +kernel
    · decide +kernel
    · rfl
  have hreaches := hall _ _ _ _ _ _ hrow julyEnv.cascades .empty .empty
  obtain ⟨event, result, hevent, hresult, -⟩ := hreaches.reviewed (by decide)
  obtain ⟨htype, hdomain, hdays⟩ := expiryEvent_of_record rfl hevent
  rw [dispatch_of_no_days julyEnv.tables julyEnv.cascades htype hdomain hdays] at hresult
  cases hresult

end ShelfWise.Cascade
