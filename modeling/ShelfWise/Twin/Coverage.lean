import ShelfWise.Twin.Recovery
import ShelfWise.Twin.Replay
import ShelfWise.Worker.Delivery

/-!
# Rebuilding a store from the event log

The bootstrap route of `shelfwise_backend/routes_twin.py`. It reads one page of the event log, the
newest 500 operational events of the tenant whatever their store, and replays those of the store in
question over an empty twin store. Events beyond the page are not read.

`bootstrap_covers_iff` says for every log when the properties of the store come out as if all its
events had been projected: exactly when the same observations lead their properties in the replay and
in the whole log. A log without a longer tail is replayed whole (`replayedEvents_of_short`).
-/

namespace ShelfWise.Twin

open Py Sys TwinStore Ingest Worker

/-! ## The route -/

/-- `_parse_events`: a row that does not parse is skipped. -/
def parseEvents (fromIso : String → Option Timestamp) (rows : List Items) : List Event :=
  rows.filterMap fun row => (parseWire fromIso row).toOption

/-- `raise HTTPException(status_code=422, detail=str(exc))` in place of a `ValueError`. -/
def unprocessable : Exc → Exc
  | .valueError message => .httpException 422 message
  | .validationError model field => .httpException 422 (model ++ "." ++ field)
  | e => e

/-- `bootstrap_twin_from_events`. -/
def bootstrapTwinFromEvents (svc : TwinService) (fromIso : String → Option Timestamp)
    (now : Timestamp) (tenantId storeId : String) (log : EventStore) (st : TwinState) :
    TwinState × Except Exc BootstrapReceipt :=
  match log.list 500 (some tenantId) (some .operationalTwin) with
  | .error e => (st, .error (unprocessable e))
  | .ok rows =>
    let done := bootstrapEvents svc now (parseEvents fromIso rows) tenantId storeId st
    (done.1, done.2.mapError unprocessable)

/-! ## The events of a log -/

/-- The operational rows of a tenant, oldest first. -/
def operationalRows (tenantId : String) (log : EventStore) : List Items :=
  (log.events.entries.filter fun e =>
    (tenantId = e.1.tenantId) && (DataDomain.operationalTwin = e.1.dataDomain)).map Prod.snd

/-- All operational events of a store in the log, in the order of a replay. -/
def storeEvents (fromIso : String → Option Timestamp) (tenantId storeId : String)
    (log : EventStore) : List Event :=
  orderedEvents (parseEvents fromIso (operationalRows tenantId log)) tenantId storeId

/-- The page the route reads. -/
def newestRows (tenantId : String) (log : EventStore) : List Items :=
  ((operationalRows tenantId log).drop ((operationalRows tenantId log).length - 500)).reverse

/-- The events of the store that the route replays. -/
def replayedEvents (fromIso : String → Option Timestamp) (tenantId storeId : String)
    (log : EventStore) : List Event :=
  orderedEvents (parseEvents fromIso (newestRows tenantId log)) tenantId storeId

theorem list_newestRows (tenantId : String) (log : EventStore) :
    log.list 500 (some tenantId) (some .operationalTwin) = .ok (newestRows tenantId log) := by
  unfold EventStore.list
  rw [if_neg (by omega)]
  rfl

/-- Every row of the log is an event as it was recorded, under its key. -/
def KeepsEvents (log : EventStore) : Prop :=
  ∀ k row, (k, row) ∈ log.events.entries → ∃ received event,
    eventKey event = k ∧ EventStore.storedPayload received event = row

variable {log : EventStore}

theorem keepsEvents_record (h : KeepsEvents log) (received : String) (event : Event) :
    KeepsEvents (log.record received event).1 := by
  unfold EventStore.record
  split
  · exact h
  · intro k row hmem
    rcases (Dict.mem_set_entries _ _ _ _).mp hmem with hnew | ⟨hold, -⟩
    · cases hnew
      exact ⟨received, event, rfl, rfl⟩
    · exact h k row hold

/-- The events of rows carry the ids of their keys. -/
theorem ids_parseEvents (fromIso : String → Option Timestamp) (entries : List (EventKey × Items))
    (h : ∀ e ∈ entries, ∃ received event,
      eventKey event = e.1 ∧ EventStore.storedPayload received event = e.2) :
    ((parseEvents fromIso (entries.map Prod.snd)).map Event.id).Sublist
      (entries.map fun e => e.1.eventId) := by
  induction entries with
  | nil => exact List.Sublist.refl _
  | cons e rest ih =>
    have hrest := ih fun e' he' => h e' (List.mem_cons_of_mem _ he')
    obtain ⟨received, event, hkey, hrow⟩ := h e List.mem_cons_self
    rw [List.map_cons, parseEvents, List.filterMap_cons]
    cases hparse : parseWire fromIso e.2 with
    | error exc => exact hrest.cons _
    | ok parsed =>
      have hid : textField e.2 "id" "" = .ok event.id := by
        rw [← hrow]
        exact textField_stored received (by simp [Event.toDict])
      rw [textField_of_parseWire hparse] at hid
      have hsame : parsed.id = e.1.eventId := by
        rw [← hkey]
        exact Except.ok.inj hid
      show (parsed.id :: (parseEvents fromIso (rest.map Prod.snd)).map Event.id).Sublist _
      rw [hsame]
      exact hrest.cons_cons _

theorem nodup_ids_storeEvents (h : KeepsEvents log) (fromIso : String → Option Timestamp)
    (tenantId storeId : String) :
    ((storeEvents fromIso tenantId storeId log).map Event.id).Nodup := by
  have hkept : ∀ e ∈ log.events.entries.filter (fun e => (tenantId = e.1.tenantId) &&
      (DataDomain.operationalTwin = e.1.dataDomain)), ∃ received event,
      eventKey event = e.1 ∧ EventStore.storedPayload received event = e.2 :=
    fun e he => h e.1 e.2 (List.mem_filter.mp he).1
  -- one tenant and one domain: the ids tell the keys apart
  have hids : ((log.events.entries.filter fun e => (tenantId = e.1.tenantId) &&
      (DataDomain.operationalTwin = e.1.dataDomain)).map fun e => e.1.eventId).Nodup := by
    refine List.Nodup.map_on ?_ (log.events.nodupKeys.of_map _ |>.filter _)
    intro a ha b hb heq
    obtain ⟨hmema, hina⟩ := List.mem_filter.mp ha
    obtain ⟨hmemb, hinb⟩ := List.mem_filter.mp hb
    simp only [Bool.and_eq_true, decide_eq_true_eq] at hina hinb
    refine List.inj_on_of_nodup_map log.events.nodupKeys hmema hmemb ?_
    obtain ⟨⟨tenant, domain, id⟩, row⟩ := a
    obtain ⟨⟨tenant', domain', id'⟩, row'⟩ := b
    obtain ⟨rfl, rfl⟩ := hina
    obtain ⟨rfl, rfl⟩ := hinb
    exact congrArg (EventKey.mk tenantId .operationalTwin) heq
  have hparsed := hids.sublist (ids_parseEvents fromIso _ hkept)
  unfold storeEvents orderedEvents relevantEvents
  rw [((sortedBy_perm _ _).map Event.id).nodup_iff]
  exact hparsed.sublist ((List.filter_sublist.trans List.filter_sublist).map Event.id)

theorem replayedEvents_subset (fromIso : String → Option Timestamp) (tenantId storeId : String)
    (log : EventStore) :
    replayedEvents fromIso tenantId storeId log ⊆ storeEvents fromIso tenantId storeId log := by
  intro event hevent
  unfold replayedEvents storeEvents orderedEvents relevantEvents parseEvents at *
  rw [(sortedBy_perm _ _).mem_iff] at hevent ⊢
  simp only [List.mem_filter, List.mem_filterMap] at hevent ⊢
  obtain ⟨⟨⟨row, hrow, hparse⟩, hstore⟩, hdomain⟩ := hevent
  exact ⟨⟨⟨row, List.mem_of_mem_drop (List.mem_reverse.mp hrow), hparse⟩, hstore⟩, hdomain⟩

variable {fromIso : String → Option Timestamp}

/-- A log of at most one page is replayed whole. -/
theorem replayedEvents_of_short {tenantId storeId : String} (hkept : KeepsEvents log)
    (h : (operationalRows tenantId log).length ≤ 500) :
    replayedEvents fromIso tenantId storeId log = storeEvents fromIso tenantId storeId log := by
  have hpage : newestRows tenantId log = (operationalRows tenantId log).reverse := by
    rw [newestRows, Nat.sub_eq_zero_of_le h, List.drop_zero]
  have hids := List.inj_on_of_nodup_map (nodup_ids_storeEvents hkept fromIso tenantId storeId)
  unfold storeEvents orderedEvents at hids
  unfold replayedEvents storeEvents orderedEvents
  symm
  apply sortedBy_eq_of_perm
  · have hperm : (parseEvents fromIso (operationalRows tenantId log)).Perm
        (parseEvents fromIso (newestRows tenantId log)) := by
      rw [hpage]
      exact ((List.reverse_perm _).filterMap _).symm
    exact (hperm.filter _).filter _
  · intro a ha b hb heq
    have hid : a.id = b.id := congrArg (fun key => (ofLex key).2) heq
    exact hids (mem_sortedBy.mpr ha) (mem_sortedBy.mpr hb) hid

/-! ## Offers -/

/-- What a bootstrap offers: the observations of the replayed events, up to a call that raises. -/
def replayOffers (svc : TwinService) (fromIso : String → Option Timestamp) (now : Timestamp)
    (tenantId storeId : String) (log : EventStore) (st : TwinState) : List TwinObservation :=
  ((manifestScript now (st.manifests.get? (tenantId, storeId))).andThen
    (eventsScript svc (replayedEvents fromIso tenantId storeId log))).calls.filterMap
      TwinCall.observation

/-- What all operational events of the store offer, up to a call that raises. -/
def storeOffers (svc : TwinService) (fromIso : String → Option Timestamp)
    (tenantId storeId : String) (log : EventStore) : List TwinObservation :=
  (eventsScript svc (storeEvents fromIso tenantId storeId log)).calls.filterMap TwinCall.observation

/-- The facts of an observation that leads its property among the observations: none was made later,
or at the same time by a stronger source, or by the same with a greater id. -/
def Leads (svc : TwinService) (os : List TwinObservation) (f : PropertyFacts) : Prop :=
  Register.Latest PropertyFacts.key (PropertyFacts.rank svc.policyFor)
    (fun g => ∃ o ∈ os, o.facts = g) f

theorem observations_eventsScript_subset (svc : TwinService) (events : List Event) :
    (eventsScript svc events).calls.filterMap TwinCall.observation ⊆ offeredBy svc events := by
  induction events with
  | nil => exact List.Subset.refl _
  | cons event rest ih =>
    intro o ho
    unfold eventsScript at ho
    rw [offeredBy, List.flatMap_cons, List.mem_append]
    cases herror : (eventScript svc event).error with
    | some e =>
      rw [Script.andThen_of_some herror] at ho
      exact .inl ho
    | none =>
      rw [Script.andThen_of_none herror, List.filterMap_append, List.mem_append] at ho
      exact ho.imp_right fun hrest => ih hrest

theorem replayOffers_subset (svc : TwinService) (fromIso : String → Option Timestamp)
    (now : Timestamp) (tenantId storeId : String) (log : EventStore) (st : TwinState) :
    replayOffers svc fromIso now tenantId storeId log st
      ⊆ offeredBy svc (storeEvents fromIso tenantId storeId log) := by
  have hmanifest : (manifestScript now (st.manifests.get? (tenantId, storeId))).calls.filterMap
      TwinCall.observation = [] := by
    cases st.manifests.get? (tenantId, storeId) with
    | none => rfl
    | some m => exact observations_onboardScript now now m
  have hevents : ∀ o ∈ (eventsScript svc (replayedEvents fromIso tenantId storeId log)).calls.filterMap
      TwinCall.observation, o ∈ offeredBy svc (storeEvents fromIso tenantId storeId log) := by
    intro o ho
    obtain ⟨event, hevent, ho⟩ := List.mem_flatMap.mp (observations_eventsScript_subset svc _ ho)
    exact List.mem_flatMap.mpr ⟨event, replayedEvents_subset fromIso tenantId storeId log hevent, ho⟩
  intro o ho
  unfold replayOffers at ho
  cases herror : (manifestScript now (st.manifests.get? (tenantId, storeId))).error with
  | some e =>
    rw [Script.andThen_of_some herror, hmanifest] at ho
    exact absurd ho List.not_mem_nil
  | none =>
    rw [Script.andThen_of_none herror, List.filterMap_append, hmanifest, List.nil_append] at ho
    exact hevents o ho

theorem replayOffers_of_short (svc : TwinService) (now : Timestamp)
    (fromIso : String → Option Timestamp) (tenantId storeId : String) (hkept : KeepsEvents log)
    (h : (operationalRows tenantId log).length ≤ 500) :
    replayOffers svc fromIso now tenantId storeId log .empty
      = storeOffers svc fromIso tenantId storeId log := by
  unfold replayOffers storeOffers
  rw [replayedEvents_of_short hkept h]
  rfl

/-! ## The result -/

/-- The twin store after a bootstrap over an empty one. -/
def bootstrapped (svc : TwinService) (fromIso : String → Option Timestamp) (now : Timestamp)
    (tenantId storeId : String) (log : EventStore) (st : TwinState) : TwinStore :=
  (bootstrapTwinFromEvents svc fromIso now tenantId storeId log { st with store := .empty }).1.store

/-- The twin store after the projection of all operational events of a store. -/
def projectedWhole (svc : TwinService) (fromIso : String → Option Timestamp) (now : Timestamp)
    (tenantId storeId : String) (log : EventStore) : TwinStore :=
  ((projectAll svc now (storeEvents fromIso tenantId storeId log)).run .empty).1

/-- After a bootstrap every property is what the projection of all operational events of the store
makes of it exactly when the same observations lead their properties in the replay and in the whole
log. -/
theorem bootstrap_covers_iff (svc : TwinService) (fromIso : String → Option Timestamp)
    (now : Timestamp) (tenantId storeId : String) (log : EventStore) (st : TwinState)
    (hkept : KeepsEvents log)
    (hapart : IdsApart (offeredBy svc (storeEvents fromIso tenantId storeId log))) :
    (∀ k, (bootstrapped svc fromIso now tenantId storeId log st).table k
        = (projectedWhole svc fromIso now tenantId storeId log).table k) ↔
      ∀ f, Leads svc (replayOffers svc fromIso now tenantId storeId log st) f ↔
        Leads svc (storeOffers svc fromIso tenantId storeId log) f := by
  have hdistinct := distinct_offeredBy (nodup_ids_storeEvents hkept fromIso tenantId storeId) hapart
  have hmono : ∀ os : List TwinObservation,
      os ⊆ offeredBy svc (storeEvents fromIso tenantId storeId log) → Distinct fun o => o ∈ os :=
    fun os hos => ⟨fun o o' ho ho' => hdistinct.key o o' (hos ho) (hos ho'),
      fun o o' ho ho' => hdistinct.dedupeKey o o' (hos ho) (hos ho')⟩
  have hrebuilt : Built svc.policyFor ((manifestScript now (st.manifests.get? (tenantId, storeId))).andThen
      (eventsScript svc (replayedEvents fromIso tenantId storeId log))).calls
      (bootstrapped svc fromIso now tenantId storeId log st) := by
    unfold bootstrapped bootstrapTwinFromEvents
    rw [list_newestRows]
    exact (bootstrapEvents_spec svc now _ tenantId storeId { st with store := .empty } rfl).1
  have hwhole : Built svc.policyFor (eventsScript svc (storeEvents fromIso tenantId storeId log)).calls
      (projectedWhole svc fromIso now tenantId storeId log) :=
    ((plays_projectAll svc now (storeEvents fromIso tenantId storeId log)).follows .empty).1
  have hempty := covered_empty svc.policyFor fun _ => False
  have hleads := Register.Covers.table_eq_iff_latest (hrebuilt.covered hempty)
    (offered_unique svc.policyFor _) (hwhole.covered hempty) (offered_unique svc.policyFor _)
  rw [hrebuilt.offered_eq (hmono _ (replayOffers_subset svc fromIso now tenantId storeId log st))
      fun _ => Iff.rfl,
    hwhole.offered_eq (hmono _ (observations_eventsScript_subset svc _)) fun _ => Iff.rfl] at hleads
  rw [← funext_iff]
  exact hleads

/-- A single observation is apart. -/
theorem idsApart_of_length {os : List TwinObservation} (h : os.length ≤ 1) : IdsApart os := by
  intro o ho o' ho' _
  obtain ⟨i, hi, rfl⟩ := List.mem_iff_getElem.mp ho
  obtain ⟨j, hj, rfl⟩ := List.mem_iff_getElem.mp ho'
  obtain rfl : i = j := by omega
  rfl

/-- Nothing to replay, and no manifest. -/
theorem bootstrapped_of_nothing (svc : TwinService) (now : Timestamp) {tenantId storeId : String}
    (h : replayedEvents fromIso tenantId storeId log = []) :
    bootstrapped svc fromIso now tenantId storeId log .empty = .empty := by
  have hordered : orderedEvents (parseEvents fromIso (newestRows tenantId log)) tenantId storeId
      = [] := h
  unfold bootstrapped bootstrapTwinFromEvents
  rw [list_newestRows]
  show (bootstrapEvents svc now (parseEvents fromIso (newestRows tenantId log)) tenantId storeId
    .empty).1.store = .empty
  unfold bootstrapEvents
  rw [hordered]
  rfl

/-- What `datetime.fromisoformat` makes of the time of the count. -/
def countTime (text : String) : Option Timestamp :=
  if text = "2026-07-01T00:00:01+00:00" then some ⟨1000000, text⟩ else none

/-- A log with one event. -/
def countLog : EventStore := (EventStore.empty.record "2026-07-01T00:00:02+00:00" countEvent).1

theorem storeEvents_countLog :
    storeEvents countTime "tenant_a" "store_a" countLog = [countEvent] := by
  decide +kernel

theorem idsApart_countEvent : IdsApart (offeredBy defaultService [countEvent]) :=
  idsApart_of_length (by decide +kernel)

theorem keepsEvents_countLog : KeepsEvents countLog :=
  keepsEvents_record (fun _ _ h => absurd h List.not_mem_nil) _ _

/-- A log that fits a page. -/
theorem bootstrap_covers_short_log :
    (bootstrapped defaultService countTime ⟨9, ""⟩ "tenant_a" "store_a" countLog .empty).table
      = (projectedWhole defaultService countTime ⟨9, ""⟩ "tenant_a" "store_a" countLog).table := by
  funext k
  refine (bootstrap_covers_iff defaultService countTime ⟨9, ""⟩ "tenant_a" "store_a" countLog .empty
    keepsEvents_countLog (storeEvents_countLog ▸ idsApart_countEvent)).mpr (fun f => ?_) k
  rw [replayOffers_of_short defaultService ⟨9, ""⟩ countTime "tenant_a" "store_a"
    keepsEvents_countLog (by decide +kernel)]

/-- Visits to another store. -/
def visitElsewhere (n : ℕ) : Event :=
  { visitEvent with
    id := "visit_" ++ Nat.repr n
    payload := [("store_id", .str "store_b")]
    id_ne := fun h => absurd (String.append_eq_empty_iff.mp h).1 (by decide +kernel) }

theorem visitElsewhere_injective {m n : ℕ} (h : (visitElsewhere m).id = (visitElsewhere n).id) :
    m = n := by
  have hlist := congrArg String.toList h
  simp only [visitElsewhere, String.toList_append, List.append_cancel_left_eq,
    Nat.repr_eq_ofList_toDigits, String.toList_ofList] at hlist
  exact Decimal.toDigits_injective hlist

/-- The count, and after it a page of visits to another store. -/
def busyEvents : List Event := countEvent :: (List.range 500).map visitElsewhere

theorem nodup_busyEvents : (busyEvents.map eventKey).Nodup := by
  refine List.nodup_cons.mpr ⟨?_, ?_⟩
  · intro h
    obtain ⟨event, hevent, hkey⟩ := List.mem_map.mp h
    obtain ⟨n, -, rfl⟩ := List.mem_map.mp hevent
    have hhead := congrArg (fun k : EventKey => k.eventId.toList.head?) hkey
    simp [eventKey, visitElsewhere, countEvent] at hhead
  · rw [List.map_map]
    refine List.nodup_range.map_on fun m _ n _ heq => ?_
    exact visitElsewhere_injective (congrArg EventKey.eventId heq)

/-- Their log. -/
def busyLog : EventStore where
  events :=
    { entries := busyEvents.map fun event =>
        (eventKey event, EventStore.storedPayload "2026-07-01T00:00:02+00:00" event)
      nodupKeys := by
        rw [List.map_map]
        exact nodup_busyEvents }
  published := ∅

theorem keepsEvents_busyLog : KeepsEvents busyLog := by
  intro k row h
  obtain ⟨event, -, heq⟩ := List.mem_map.mp h
  cases heq
  exact ⟨_, event, rfl, rfl⟩

theorem build_visitElsewhere (n : ℕ) : Event.build (visitElsewhere n).id (visitElsewhere n).type
    (visitElsewhere n).ts (visitElsewhere n).actor (visitElsewhere n).payload
    (visitElsewhere n).source (visitElsewhere n).tenantId (visitElsewhere n).dataDomain
    (visitElsewhere n).correlationId (visitElsewhere n).causationId
    (visitElsewhere n).schemaVersion = .ok (visitElsewhere n) := by
  unfold Event.build
  rw [dif_pos (visitElsewhere n).id_ne]
  rfl

theorem operationalRows_busyLog : operationalRows "tenant_a" busyLog =
    busyEvents.map (EventStore.storedPayload "2026-07-01T00:00:02+00:00") := by
  have hall : ∀ e ∈ busyLog.events.entries, (("tenant_a" = e.1.tenantId) &&
      (DataDomain.operationalTwin = e.1.dataDomain) : Bool) = true := by
    intro e he
    obtain ⟨event, hevent, rfl⟩ := List.mem_map.mp he
    rcases List.mem_cons.mp hevent with rfl | hvisit
    · rfl
    · obtain ⟨n, -, rfl⟩ := List.mem_map.mp hvisit
      rfl
  unfold operationalRows
  rw [List.filter_eq_self.mpr hall]
  exact List.map_map

theorem parseEvents_stored (received : String) {events : List Event}
    (h : ∀ event ∈ events, parseWire fromIso (EventStore.storedPayload received event) = .ok event) :
    parseEvents fromIso (events.map (EventStore.storedPayload received)) = events := by
  induction events with
  | nil => rfl
  | cons event rest ih =>
    rw [List.map_cons, parseEvents, List.filterMap_cons, h event List.mem_cons_self]
    exact congrArg _ (ih fun e he => h e (List.mem_cons_of_mem _ he))

theorem parseWire_busyEvents : ∀ event ∈ busyEvents, parseWire countTime
    (EventStore.storedPayload "2026-07-01T00:00:02+00:00" event) = .ok event := by
  intro event hevent
  rcases List.mem_cons.mp hevent with rfl | hvisit
  · decide +kernel
  · obtain ⟨n, -, rfl⟩ := List.mem_map.mp hvisit
    have htime : countTime (replaceZ visitEvent.ts.isoformat) = some visitEvent.ts := by
      decide +kernel
    exact parseWire_stored _ htime (build_visitElsewhere n)

theorem relevantEvents_visits (ns : List ℕ) :
    relevantEvents (ns.map visitElsewhere) "tenant_a" "store_a" = [] := by
  refine List.filter_eq_nil_iff.mpr fun event hevent => ?_
  obtain ⟨n, -, rfl⟩ := List.mem_map.mp hevent
  have hstore : storeIdOf [("store_id", .str "store_b")] ≠ some "store_a" := by decide +kernel
  rw [decide_eq_true_eq]
  exact fun h => hstore h.2

theorem storeEvents_busyLog :
    storeEvents countTime "tenant_a" "store_a" busyLog = [countEvent] := by
  have hrelevant : relevantEvents busyEvents "tenant_a" "store_a" = [countEvent] := by
    have hcount : relevantEvents [countEvent] "tenant_a" "store_a" = [countEvent] := by
      decide +kernel
    show relevantEvents ([countEvent] ++ (List.range 500).map visitElsewhere) "tenant_a" "store_a"
      = [countEvent]
    rw [relevantEvents, List.filter_append]
    show relevantEvents [countEvent] "tenant_a" "store_a" ++
      relevantEvents ((List.range 500).map visitElsewhere) "tenant_a" "store_a" = [countEvent]
    rw [hcount, relevantEvents_visits, List.append_nil]
  unfold storeEvents orderedEvents
  rw [operationalRows_busyLog, parseEvents_stored _ parseWire_busyEvents, hrelevant]
  rfl

theorem replayedEvents_busyLog : replayedEvents countTime "tenant_a" "store_a" busyLog = [] := by
  have hpage : newestRows "tenant_a" busyLog = ((List.range 500).map visitElsewhere).reverse.map
      (EventStore.storedPayload "2026-07-01T00:00:02+00:00") := by
    have hlength : (busyEvents.map
        (EventStore.storedPayload "2026-07-01T00:00:02+00:00")).length - 500 = 1 := by
      rw [List.length_map, busyEvents, List.length_cons, List.length_map, List.length_range]
    rw [newestRows, operationalRows_busyLog, hlength, List.map_reverse, busyEvents, List.map_cons,
      List.drop_succ_cons, List.drop_zero]
  unfold replayedEvents orderedEvents
  rw [hpage, parseEvents_stored _ fun event hevent => parseWire_busyEvents event
    (List.mem_cons_of_mem _ (List.mem_reverse.mp hevent)), ← List.map_reverse,
    relevantEvents_visits]
  rfl

/-- The count of the store is older than 500 events of another store. -/
theorem bootstrap_loses_count :
    ¬ ∀ (svc : TwinService) (fromIso : String → Option Timestamp) (now : Timestamp)
      (tenantId storeId : String) (log : EventStore) (st : TwinState), KeepsEvents log →
      IdsApart (offeredBy svc (storeEvents fromIso tenantId storeId log)) →
      ∀ k, (bootstrapped svc fromIso now tenantId storeId log st).table k
        = (projectedWhole svc fromIso now tenantId storeId log).table k := by
  intro h
  have htable := h defaultService countTime ⟨9, ""⟩ "tenant_a" "store_a" busyLog .empty
    keepsEvents_busyLog (storeEvents_busyLog ▸ idsApart_countEvent)
    (propertyKey "tenant_a" (urn "tenant_a" "store_a" "product" "4011") "inventory.on_hand"
      .reported none)
  have hnone := bootstrapped_of_nothing defaultService ⟨9, ""⟩ replayedEvents_busyLog
  have hwhole : (projectedWhole defaultService countTime ⟨9, ""⟩ "tenant_a" "store_a" busyLog)
      = ((projectAll defaultService ⟨9, ""⟩ [countEvent]).run .empty).1 := by
    rw [projectedWhole, storeEvents_busyLog]
  have hcount : ((projectAll defaultService ⟨9, ""⟩ [countEvent]).run .empty).1.table
      (propertyKey "tenant_a" (urn "tenant_a" "store_a" "product" "4011") "inventory.on_hand"
        .reported none) ≠ none := by
    decide +kernel
  rw [hnone, hwhole] at htable
  exact hcount htable.symm

end ShelfWise.Twin
