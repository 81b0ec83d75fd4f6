import ShelfWise.Inventory.Store
import ShelfWise.Twin.Store

/-!
# The cascade dispatcher

`shelfwise_backend/cascade_dispatcher.py`: which cascade takes an event, and the trust boundary its
result is stamped with. The cascades themselves are parameters. They read the stores their facts
come from and change none of them.
-/

namespace ShelfWise.Ingest

open Py

/-- What a cascade returns. -/
abbrev CascadeResult := List (String × Value)

/-- Why a cascade raises. -/
inductive CascadeError where
  | missingOperationalFacts (missing : List String)
  | raised (e : Exc)

/-- A cascade: it may have nothing to say on an event. -/
abbrev Cascade :=
  Event → Inventory.Store → Twin.TwinStore → Except CascadeError (Option CascadeResult)

/-- The cascades of `cascade.py` that the dispatcher calls. -/
structure Cascades where
  runCatalogPriceCheck : Cascade
  runColdChainCascade : Cascade
  runExpiryRiskCheck : Cascade
  runGoldenCascade : Cascade
  runInventoryExceptionCascade : Cascade
  runProcurementCascade : Cascade
  runRecallCascade : Cascade
  runSalesCascade : Cascade

/-! ## Routing -/

/-- The facts `_require_operational_context` asks the payload of an event for. -/
def requiredContext : EventType → List String
  | .scan => ["payday_multiplier", "cold_chain_area", "cold_chain_outage_hours",
      "cold_chain_average_temp_c"]
  | .coldChainAlert => ["temp_c", "diagnosis", "severity", "predicted_minutes_to_unsafe",
      "measured_outage_hours"]
  | _ => []

/-- The facts that are missing, as `MissingOperationalFacts` lists them. -/
def missingFacts (event : Event) : List String :=
  sortedBy id ((requiredContext event.type).filter fun field =>
    Value.get event.payload field = .none)

/-- A cascade behind `_require_operational_context`. -/
def withContext (cascade : Cascade) : Cascade := fun event inventory twin =>
  if event.dataDomain = .operationalTwin ∧ missingFacts event ≠ [] then
    .error (.missingOperationalFacts (missingFacts event))
  else cascade event inventory twin

/-- `key in event.payload`. -/
def hasPayloadKey (event : Event) (key : String) : Bool := (Dict.lookup key event.payload).isSome

/-- `_is_catalog_price_event`. -/
def isCatalogPriceEvent (event : Event) : Bool :=
  hasPayloadKey event "unit_price_cents" && hasPayloadKey event "catalog_price_cents"

/-- `_has_partial_catalog_price`. -/
def hasPartialCatalogPrice (event : Event) : Bool :=
  hasPayloadKey event "unit_price_cents" || hasPayloadKey event "catalog_price_cents"

/-- The result for an event of a domain without cascades. -/
def ignoredDataDomain : CascadeResult :=
  [("scenario", .none), ("decision", .none), ("evidence", .list []), ("trace", .list []),
    ("status", .str "ignored_data_domain")]

/-- `_run`. -/
def route (cascades : Cascades) : Cascade := fun event inventory twin =>
  if event.dataDomain ≠ .operationalTwin ∧ event.dataDomain ≠ .worldSimulation then
    .ok (some ignoredDataDomain)
  else match event.type with
    | .recallNotice => cascades.runRecallCascade event inventory twin
    | .inventoryException => cascades.runInventoryExceptionCascade event inventory twin
    | .sale =>
      if isCatalogPriceEvent event then cascades.runCatalogPriceCheck event inventory twin
      else if hasPartialCatalogPrice event then .ok none
      else cascades.runSalesCascade event inventory twin
    | .expiryEntry => cascades.runExpiryRiskCheck event inventory twin
    | .scan => withContext cascades.runGoldenCascade event inventory twin
    | .supplierUpdate => cascades.runProcurementCascade event inventory twin
    | .coldChainAlert => withContext cascades.runColdChainCascade event inventory twin
    | .stockUpdate | .shipment => .ok none

/-! ## Results -/

/-- The result when measured facts are missing. -/
def insufficientFacts (missing : List String) : CascadeResult :=
  [("scenario", .str "insufficient_operational_facts"), ("decision", .none), ("evidence", .list []),
    ("trace", .list []), ("status", .str "insufficient_operational_facts"),
    ("missing_data", .list (missing.map .str))]

/-- `attach_event_causality`. -/
def attachEventCausality (result : CascadeResult) (event : Event) : CascadeResult :=
  let result := Value.updateItems result
    [("correlation_id", .str event.correlationId), ("tenant_id", .str event.tenantId),
      ("data_domain", .str event.dataDomain.value)]
  match Value.get result "decision" with
  | .dict decision => Value.setItem result "decision" (.dict (Value.updateItems decision
      [("caused_by", .list [.str event.id]), ("tenant_id", .str event.tenantId),
        ("data_domain", .str event.dataDomain.value)]))
  | _ => result

/-- `run`. -/
def dispatch (cascades : Cascades) (event : Event) (inventory : Inventory.Store)
    (twin : Twin.TwinStore) : Except Exc (Option CascadeResult) :=
  match route cascades event inventory twin with
  | .error (.raised e) => .error e
  | .error (.missingOperationalFacts missing) =>
    .ok (some (attachEventCausality (insufficientFacts missing) event))
  | .ok none => .ok none
  | .ok (some result) => .ok (some (attachEventCausality result event))

/-- An operational stock update starts no cascade. -/
theorem dispatch_stockUpdate (cascades : Cascades) {event : Event}
    (htype : event.type = .stockUpdate) (hdomain : event.dataDomain = .operationalTwin)
    (inventory : Inventory.Store) (twin : Twin.TwinStore) :
    dispatch cascades event inventory twin = .ok none := by
  unfold dispatch route
  rw [if_neg (by simp [hdomain]), htype]

/-! ## The stamp of a result -/

/-- A decision is stamped under its other fields, and the evidence stays. -/
theorem get_attachEventCausality {result : CascadeResult} {decision : List (String × Value)}
    (h : Value.get result "decision" = .dict decision) (event : Event) :
    Value.get (attachEventCausality result event) "decision" =
        .dict (Value.updateItems decision [("caused_by", .list [.str event.id]),
          ("tenant_id", .str event.tenantId), ("data_domain", .str event.dataDomain.value)]) ∧
      Value.get (attachEventCausality result event) "evidence" = Value.get result "evidence" := by
  have hkept : ∀ key, key ∉ ["correlation_id", "tenant_id", "data_domain"] →
      Value.get (Value.updateItems result [("correlation_id", .str event.correlationId),
        ("tenant_id", .str event.tenantId), ("data_domain", .str event.dataDomain.value)]) key =
      Value.get result key := fun key hkey => Value.get_updateItems_of_not_mem hkey result
  have hdecision := (hkept "decision" (by simp)).trans h
  unfold attachEventCausality
  simp only [hdecision]
  rw [Value.get_setItem, if_pos rfl, Value.get_setItem, if_neg (by simp),
    hkept "evidence" (by simp)]
  exact ⟨rfl, rfl⟩

section

variable {cascades : Cascades} {event : Event} {inventory : Inventory.Store}
  {twin : Twin.TwinStore}

theorem dispatch_of_result {result : CascadeResult}
    (h : route cascades event inventory twin = .ok (some result)) :
    dispatch cascades event inventory twin = .ok (some (attachEventCausality result event)) := by
  unfold dispatch
  rw [h]

theorem dispatch_of_raised {e : Exc} (h : route cascades event inventory twin = .error (.raised e)) :
    dispatch cascades event inventory twin = .error e := by
  unfold dispatch
  rw [h]

theorem dispatch_congr {cascades' : Cascades}
    (h : route cascades event inventory twin = route cascades' event inventory twin) :
    dispatch cascades event inventory twin = dispatch cascades' event inventory twin := by
  unfold dispatch
  rw [h]

/-- An operational event that lacks a fact starts no cascade. -/
theorem withContext_of_missing {cascade cascade' : Cascade}
    (hdomain : event.dataDomain = .operationalTwin) (h : missingFacts event ≠ []) :
    withContext cascade event inventory twin = withContext cascade' event inventory twin := by
  unfold withContext
  rw [if_pos ⟨hdomain, h⟩, if_pos ⟨hdomain, h⟩]

theorem withContext_of_complete {cascade : Cascade} (h : missingFacts event = []) :
    withContext cascade event inventory twin = cascade event inventory twin := by
  unfold withContext
  rw [if_neg (fun hmissing => hmissing.2 h)]

end

end ShelfWise.Ingest
