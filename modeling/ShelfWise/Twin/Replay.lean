import ShelfWise.Twin.Canonical
import ShelfWise.Twin.Origins

/-!
# Replaying a store from its manifest and its events

A store is onboarded and its events are projected, in whatever order the requests arrive. Later the
twin store is lost, and `bootstrap_events` rebuilds it: the saved manifest first, then the events by
time and id. The property states come out the same, since the authority ordering does not depend on
the order of arrival. Entities and relationships do not: the first writer of a row decides what it
shows, and the first writers of the two orders may differ.

`replay_reproduces_iff` says for every history exactly when the rebuilt store shows the same
document, and with it the same projection hash.
-/

namespace ShelfWise.Twin

open Py Sys TwinStore

/-! ## Histories -/

/-- A request to the service. -/
inductive TwinRequest where
  | onboard (now : Timestamp) (manifest : TwinOnboardingManifest)
  | project (now : Timestamp) (event : Event)

namespace TwinRequest

/-- The request is about the tenant and the store: a manifest of it, or an operational event. -/
def For (tenantId storeId : String) : TwinRequest → Prop
  | .onboard _ m => m.tenantId = tenantId ∧ m.storeId = storeId
  | .project _ e =>
    e.tenantId = tenantId ∧ storeIdOf e.payload = some storeId ∧ e.dataDomain = .operationalTwin

/-- The event of a request. -/
def event : TwinRequest → Option Event
  | .onboard _ _ => none
  | .project _ e => some e

/-- The manifest of a request. -/
def manifest : TwinRequest → Option TwinOnboardingManifest
  | .onboard _ m => some m
  | .project _ _ => none

/-- The calls of a request. -/
def script (svc : TwinService) : TwinRequest → Script
  | .onboard now m => onboardScript now now m
  | .project _ e => eventScript svc e

end TwinRequest

/-- The service handles a request; a request that raises leaves what it has done. -/
def handle (svc : TwinService) (st : TwinState) : TwinRequest → TwinState
  | .onboard now m => (onboard now m st).1
  | .project now e => { st with store := ((projectEvent svc now e).run st.store).1 }

/-- The service after a history of requests. -/
def live (svc : TwinService) (history : List TwinRequest) : TwinState :=
  history.foldl (handle svc) .empty

/-- The events of a history, in order of arrival. -/
def eventsOf (history : List TwinRequest) : List Event := history.filterMap TwinRequest.event

/-- The calls of a history, in order of arrival. -/
def arrivalCalls (svc : TwinService) (history : List TwinRequest) : List TwinCall :=
  history.flatMap fun r => (r.script svc).calls

/-- The manifest a history leaves saved. -/
def savedManifest (history : List TwinRequest) : Option TwinOnboardingManifest :=
  (history.filterMap TwinRequest.manifest).getLast?

/-! ## The calls of a replay -/

/-- One script after the other; an error of the first ends both. -/
def Script.andThen (a b : Script) : Script :=
  match a.error with
  | none => ⟨a.calls ++ b.calls, b.error⟩
  | some _ => a

/-- The script of `project_event` for one event after another. -/
def eventsScript (svc : TwinService) : List Event → Script
  | [] => .done
  | event :: rest => (eventScript svc event).andThen (eventsScript svc rest)

/-- The script of an optional manifest. -/
def manifestScript (now : Timestamp) : Option TwinOnboardingManifest → Script
  | none => .done
  | some m => onboardScript now now m

/-- The script of `bootstrap_events` after a history: the saved manifest, then the events. -/
def replayScript (svc : TwinService) (now : Timestamp) (tenantId storeId : String)
    (history : List TwinRequest) : Script :=
  (manifestScript now (savedManifest history)).andThen
    (eventsScript svc (orderedEvents (eventsOf history) tenantId storeId))

theorem Script.andThen_done (a : Script) : a.andThen .done = a := by
  unfold Script.andThen
  obtain ⟨calls, error⟩ := a
  cases error with
  | none => simp only [Script.done, List.append_nil]
  | some e => rfl

variable {a : Script}

theorem Script.andThen_of_none (h : a.error = none) (b : Script) :
    a.andThen b = ⟨a.calls ++ b.calls, b.error⟩ := by
  unfold Script.andThen
  rw [h]

theorem Script.andThen_of_some {e : Exc} (h : a.error = some e) (b : Script) : a.andThen b = a := by
  unfold Script.andThen
  rw [h]

variable {α β : Type} {policyFor : SourcePolicyResolver} {b : Script}

theorem plays_bindExcept {now : Timestamp} {p : Program TwinOp TwinStore (Except Exc α)}
    (hp : Plays policyFor now p a) {k : α → Program TwinOp TwinStore (Except Exc β)}
    (hk : ∀ r, Plays policyFor now (k r) b) :
    Plays policyFor now (p.bindExcept k) (a.andThen b) := by
  -- what follows depends on the result only through the error
  have hcont : (p.bindExcept k >>= fun r => .ret (raised r)) =
      (p >>= fun r => .ret (raised r)) >>= fun error =>
        error.elim (b.play policyFor now) fun e => .ret (some e) := by
    unfold Program.bindExcept
    rw [Program.bind_assoc, Program.bind_assoc]
    congr 1
    funext r
    cases r with
    | error e => rfl
    | ok x => exact hk x
  unfold Plays at hp ⊢
  rw [hcont, hp]
  unfold Script.play
  rw [Program.bind_assoc]
  cases herror : a.error with
  | some e =>
    rw [Script.andThen_of_some herror, herror]
    rfl
  | none =>
    rw [Script.andThen_of_none herror]
    simp only [List.map_append, playAll_append, Program.bind_assoc]
    rfl

theorem plays_projectAll (svc : TwinService) (now : Timestamp) (events : List Event) :
    Plays svc.policyFor now (projectAll svc now events) (eventsScript svc events) := by
  induction events with
  | nil => exact plays_ok _ _ _
  | cons event rest ih =>
    refine plays_bindExcept (plays_projectEvent svc now event) fun results => ?_
    have hlater := plays_bindExcept ih fun later =>
      plays_ok svc.policyFor now (results ++ later)
    rwa [Script.andThen_done] at hlater

/-! ## What the service does -/

theorem raised_map (f : α → β) (r : Except Exc α) : raised (r.map f) = raised r := by
  cases r <;> rfl

theorem follows_onboard (policyFor : SourcePolicyResolver) (now : Timestamp)
    (m : TwinOnboardingManifest) (st : TwinState) :
    Follows policyFor st.store (onboardScript now now m).calls (onboard now m st).1.store ∧
      raised (onboard now m st).2 = (onboardScript now now m).error := by
  obtain ⟨hfollows, hraised⟩ := follows_onboardTopology policyFor now m st.store now now
  simp only [onboard, raised_map]
  exact ⟨hfollows, hraised⟩

theorem follows_live (svc : TwinService) (history : List TwinRequest) (st : TwinState) :
    Follows svc.policyFor st.store (arrivalCalls svc history)
      (history.foldl (handle svc) st).store := by
  induction history generalizing st with
  | nil => exact Follows.refl _ _
  | cons r history ih =>
    refine Follows.append ?_ (ih (handle svc st r))
    cases r with
    | onboard now m => exact (follows_onboard svc.policyFor now m st).1
    | project now e => exact ((plays_projectEvent svc now e).follows st.store).1

variable {history : List TwinRequest}

/-- A history about one store leaves its last manifest saved. -/
theorem manifests_live (svc : TwinService) {tenantId storeId : String}
    (hfor : ∀ r ∈ history, r.For tenantId storeId) (st : TwinState) :
    (history.foldl (handle svc) st).manifests.get? (tenantId, storeId)
      = (savedManifest history).or (st.manifests.get? (tenantId, storeId)) := by
  induction history generalizing st with
  | nil => rfl
  | cons r history ih =>
    rw [List.foldl_cons, ih fun r' hr' => hfor r' (List.mem_cons_of_mem r hr')]
    cases r with
    | project now e => rfl
    | onboard now m =>
      obtain ⟨rfl, rfl⟩ := hfor _ List.mem_cons_self
      have hsaved : savedManifest (.onboard now m :: history)
          = some ((savedManifest history).getD m) := List.getLast?_cons
      have hset : (handle svc st (.onboard now m)).manifests.get? (m.tenantId, m.storeId) = some m :=
        Dict.get?_set_self _ _ _
      rw [hsaved, hset]
      cases savedManifest history <;> rfl

/-- The saved manifest applied again. -/
theorem follows_reapplyManifest (policyFor : SourcePolicyResolver) (now : Timestamp)
    (tenantId storeId : String) (st : TwinState) :
    Follows policyFor st.store (manifestScript now (st.manifests.get? (tenantId, storeId))).calls
        (reapplyManifest now tenantId storeId st).1.store ∧
      raised (reapplyManifest now tenantId storeId st).2
        = (manifestScript now (st.manifests.get? (tenantId, storeId))).error := by
  unfold reapplyManifest
  cases st.manifests.get? (tenantId, storeId) with
  | none => exact ⟨Follows.refl _ _, rfl⟩
  | some m =>
    obtain ⟨hfollows, hraised⟩ := follows_onboard policyFor now m st
    refine ⟨hfollows, ?_⟩
    simp only [raised_map]
    exact hraised

variable {script : Script}

/-- A bootstrap makes the calls of its script, and answers with a snapshot unless one raises. -/
theorem bootstrapEvents_spec (svc : TwinService) (now : Timestamp) (events : List Event)
    (tenantId storeId : String) (st : TwinState)
    (hscript : script = (manifestScript now (st.manifests.get? (tenantId, storeId))).andThen (eventsScript svc (orderedEvents events tenantId storeId))) :
    Follows svc.policyFor st.store script.calls
        (bootstrapEvents svc now events tenantId storeId st).1.store ∧
      raised (bootstrapEvents svc now events tenantId storeId st).2 = script.error ∧
      ∀ receipt, (bootstrapEvents svc now events tenantId storeId st).2 = .ok receipt →
        receipt.snapshot = snapshot (bootstrapEvents svc now events tenantId storeId st).1.store
          tenantId storeId now := by
  obtain ⟨hmanifest, hraised⟩ := follows_reapplyManifest svc.policyFor now tenantId storeId st
  unfold bootstrapEvents
  subst hscript
  cases h : reapplyManifest now tenantId storeId st with
  | mk st' result =>
    rw [h] at hmanifest hraised
    cases result with
    | error e =>
      simp only
      rw [Script.andThen_of_some hraised.symm]
      exact ⟨hmanifest, hraised, fun receipt hr => nomatch hr⟩
    | ok value =>
      obtain ⟨hevents, hprojected⟩ :=
        (plays_projectAll svc now (orderedEvents events tenantId storeId)).follows st'.store
      simp only
      rw [Script.andThen_of_none hraised.symm]
      rw [raised_map]
      refine ⟨hmanifest.append hevents, hprojected, fun receipt hr => ?_⟩
      cases hdone : ((projectAll svc now (orderedEvents events tenantId storeId)).run st'.store).2 with
      | error e =>
        rw [hdone] at hr
        cases hr
      | ok receipts =>
        rw [hdone] at hr
        rw [← Except.ok.inj hr]

/-! ## Calls about one store -/

variable {tenantId storeId : String}

variable {P : TwinCall → Prop}

theorem Script.forall_needs {r : Except Exc α} {k : α → Script}
    (h : ∀ a, r = .ok a → ∀ c ∈ (k a).calls, P c) : ∀ c ∈ (Script.needs r k).calls, P c := by
  cases r with
  | error e => exact fun c hc => absurd hc List.not_mem_nil
  | ok a => exact h a rfl

theorem Script.forall_cons {c : TwinCall} (hc : P c) (h : ∀ c ∈ script.calls, P c) :
    ∀ c' ∈ (Script.cons c script).calls, P c' :=
  List.forall_mem_cons.mpr ⟨hc, h⟩

variable {event : Event}

theorem reported_of_spec {svc : TwinService} {spec : ObservationSpec} {twinId storeId : String}
    {o : TwinObservation} (h : observationForSpec svc event spec twinId storeId = .ok o) :
    o.lane = .reported ∧ o.scenarioBranchId = none := by
  unfold observationForSpec at h
  split at h
  · cases h
  · rw [TwinObservation.eq_of_validated h]
    exact ⟨rfl, rfl⟩

theorem atHome_specsScript (svc : TwinService) (htenant : event.tenantId = tenantId)
    (specs : List ObservationSpec) :
    ∀ c ∈ (specsScript svc event storeId (urn tenantId storeId "store" storeId) specs).calls,
      c.AtHome tenantId storeId := by
  induction specs with
  | nil => exact fun c hc => absurd hc List.not_mem_nil
  | cons spec rest ih =>
    unfold specsScript
    refine Script.forall_needs fun entity hentity => Script.forall_cons ?_ ?_
    · rw [TwinEntity.eq_of_validated hentity]
      exact ⟨htenant, rfl⟩
    · refine Script.forall_needs fun r hr => Script.forall_cons ?_ ?_
      · rw [TwinRelationship.eq_of_validated hr]
        exact ⟨htenant, rfl⟩
      · exact Script.forall_needs fun o ho => Script.forall_cons (reported_of_spec ho) ih

theorem atHome_eventScript (svc : TwinService) (htenant : event.tenantId = tenantId)
    (hstore : storeIdOf event.payload = some storeId) :
    AtHome tenantId storeId (eventScript svc event).calls := by
  unfold eventScript
  split
  · exact atHome_nil
  · simp only [hstore]
    cases hroot : (eventStoreEntity event storeId).validated with
    | error e => exact atHome_nil
    | ok root =>
      obtain rfl := TwinEntity.eq_of_validated hroot
      have hid : (eventStoreEntity event storeId).twinId = urn tenantId storeId "store" storeId := by
        rw [← htenant]
        rfl
      change AtHome tenantId storeId (.ensure (eventStoreEntity event storeId) ::
        (Script.needs (eventSpecs event storeId) fun specs => specsScript svc event storeId
          (eventStoreEntity event storeId).twinId specs).calls)
      rw [hid]
      exact atHome_cons htenant rfl hid
        (Script.forall_needs fun specs _ => atHome_specsScript svc htenant specs)

variable {m : TwinOnboardingManifest}

theorem atHome_seedsScript (htenant : m.tenantId = tenantId) (hstore : m.storeId = storeId)
    (createdAt : Timestamp) (seeds : List TwinEntitySeed) :
    ∀ c ∈ (seedsScript m createdAt (urn tenantId storeId "store" storeId) seeds).calls,
      c.AtHome tenantId storeId := by
  induction seeds with
  | nil => exact fun c hc => absurd hc List.not_mem_nil
  | cons seed rest ih =>
    unfold seedsScript
    refine Script.forall_needs fun entity hentity => Script.forall_cons ?_ ?_
    · rw [TwinEntity.eq_of_validated hentity]
      exact ⟨htenant, hstore⟩
    · refine Script.forall_needs fun r hr => Script.forall_cons ?_ ih
      rw [TwinRelationship.eq_of_validated hr]
      exact ⟨htenant, rfl⟩

theorem atHome_onboardScript (htenant : m.tenantId = tenantId) (hstore : m.storeId = storeId)
    (now createdAt : Timestamp) :
    AtHome tenantId storeId (onboardScript now createdAt m).calls := by
  unfold onboardScript
  cases hroot : (onboardRoot now m).validated with
  | error e => exact atHome_nil
  | ok root =>
    obtain rfl := TwinEntity.eq_of_validated hroot
    have hid : (onboardRoot now m).twinId = urn tenantId storeId "store" storeId := by
      rw [← htenant, ← hstore]
      rfl
    simp only [Script.needs, hid]
    exact atHome_cons htenant hstore hid (atHome_seedsScript htenant hstore createdAt m.entities)

theorem AtHome.andThen (ha : AtHome tenantId storeId a.calls) (hb : AtHome tenantId storeId b.calls) :
    AtHome tenantId storeId (a.andThen b).calls := by
  cases herror : a.error with
  | none =>
    rw [Script.andThen_of_none herror]
    exact ha.append hb
  | some e =>
    rw [Script.andThen_of_some herror]
    exact ha

variable {events : List Event}

theorem atHome_eventsScript (svc : TwinService)
    (h : ∀ e ∈ events, e.tenantId = tenantId ∧ storeIdOf e.payload = some storeId) :
    AtHome tenantId storeId (eventsScript svc events).calls := by
  induction events with
  | nil => exact atHome_nil
  | cons event rest ih =>
    obtain ⟨htenant, hstore⟩ := h event List.mem_cons_self
    exact (atHome_eventScript svc htenant hstore).andThen
      (ih fun e he => h e (List.mem_cons_of_mem event he))

theorem atHome_arrivalCalls (svc : TwinService) (hfor : ∀ r ∈ history, r.For tenantId storeId) :
    AtHome tenantId storeId (arrivalCalls svc history) := by
  induction history with
  | nil => exact atHome_nil
  | cons r history ih =>
    refine AtHome.append ?_ (ih fun r' hr' => hfor r' (List.mem_cons_of_mem r hr'))
    have hr := hfor r List.mem_cons_self
    cases r with
    | onboard now m => exact atHome_onboardScript hr.1 hr.2 now now
    | project now e => exact atHome_eventScript svc hr.1 hr.2.1

/-! ## Offers -/

theorem observations_needs {r : Except Exc α} {k : α → Script}
    (h : ∀ a, r = .ok a → (k a).calls.filterMap TwinCall.observation = []) :
    (Script.needs r k).calls.filterMap TwinCall.observation = [] := by
  cases r with
  | error e => rfl
  | ok a => exact h a rfl

/-- An onboarding offers nothing. -/
theorem observations_onboardScript (now createdAt : Timestamp) (m : TwinOnboardingManifest) :
    (onboardScript now createdAt m).calls.filterMap TwinCall.observation = [] := by
  have hseeds : ∀ rootTwinId seeds, (seedsScript m createdAt rootTwinId seeds).calls.filterMap
      TwinCall.observation = [] := by
    intro rootTwinId seeds
    induction seeds with
    | nil => rfl
    | cons seed rest ih =>
      unfold seedsScript
      exact observations_needs fun entity _ => observations_needs fun r _ => ih
  unfold onboardScript
  exact observations_needs fun root _ => hseeds _ _

theorem observations_arrivalCalls (svc : TwinService) (history : List TwinRequest) :
    (arrivalCalls svc history).filterMap TwinCall.observation
      = offeredBy svc (eventsOf history) := by
  induction history with
  | nil => rfl
  | cons r history ih =>
    rw [arrivalCalls, List.flatMap_cons, List.filterMap_append, ← arrivalCalls, ih]
    cases r with
    | onboard now m =>
      rw [TwinRequest.script, observations_onboardScript]
      rfl
    | project now e => rfl

theorem observations_eventsScript (svc : TwinService) (h : (eventsScript svc events).error = none) :
    (eventsScript svc events).calls.filterMap TwinCall.observation = offeredBy svc events := by
  induction events with
  | nil => rfl
  | cons event rest ih =>
    unfold eventsScript at h ⊢
    cases herror : (eventScript svc event).error with
    | some e =>
      rw [Script.andThen_of_some herror, herror] at h
      cases h
    | none =>
      rw [Script.andThen_of_none herror] at h ⊢
      rw [List.filterMap_append, ih h]
      rfl

/-- A replay that raises nothing offers what its events offer. -/
theorem observations_replayScript (svc : TwinService) (now : Timestamp)
    (h : (replayScript svc now tenantId storeId history).error = none) :
    (replayScript svc now tenantId storeId history).calls.filterMap TwinCall.observation
      = offeredBy svc (orderedEvents (eventsOf history) tenantId storeId) := by
  have hmanifest : ∀ m, (manifestScript now m).calls.filterMap TwinCall.observation = [] := by
    intro m
    cases m with
    | none => rfl
    | some m => exact observations_onboardScript now now m
  unfold replayScript at h ⊢
  cases herror : (manifestScript now (savedManifest history)).error with
  | some e =>
    rw [Script.andThen_of_some herror, herror] at h
    cases h
  | none =>
    rw [Script.andThen_of_none herror] at h ⊢
    rw [List.filterMap_append, hmanifest, observations_eventsScript svc h]
    rfl

/-- A history about one store has every event replayed. -/
theorem orderedEvents_perm (hfor : ∀ r ∈ history, r.For tenantId storeId) :
    (orderedEvents (eventsOf history) tenantId storeId).Perm (eventsOf history) := by
  have hevents : ∀ e ∈ eventsOf history, e.tenantId = tenantId ∧
      storeIdOf e.payload = some storeId ∧ e.dataDomain = .operationalTwin := by
    intro e he
    obtain ⟨r, hr, hevent⟩ := List.mem_filterMap.mp he
    have h := hfor r hr
    cases r with
    | onboard now m => cases hevent
    | project now e' => exact Option.some.inj hevent ▸ h
  unfold orderedEvents relevantEvents
  rw [List.filter_filter, List.filter_eq_self.mpr]
  · exact sortedBy_perm _ _
  · intro e he
    obtain ⟨htenant, hstore, hdomain⟩ := hevents e he
    simp [htenant, hstore, hdomain]

theorem mem_offeredBy_perm (svc : TwinService) {events events' : List Event}
    (h : events.Perm events') (o : TwinObservation) :
    o ∈ offeredBy svc events ↔ o ∈ offeredBy svc events' := by
  unfold offeredBy
  rw [List.mem_flatMap, List.mem_flatMap]
  exact exists_congr fun e => and_congr_left' h.mem_iff

/-- The facts a store holds when all its offers can be recorded. -/
theorem Built.offered_eq {calls : List TwinCall} {s : TwinStore} (h : Built policyFor calls s)
    {os : List TwinObservation} (hdistinct : Distinct fun o => o ∈ os)
    (hos : ∀ o, o ∈ calls.filterMap TwinCall.observation ↔ o ∈ os) :
    s.offered = fun f => ∃ o ∈ os, o.facts = f := by
  funext f
  refine propext (exists_congr fun o => and_congr_left' ?_)
  unfold Recorded
  rw [h.log]
  exact (recorded_offerAll_empty_iff hdistinct (fun o ho => (hos o).mp ho) o).trans (hos o)

/-! ## The result -/

/-- The service after the twin store is lost and the store bootstrapped from the saved manifest and
the events of the history. -/
def rebuilt (svc : TwinService) (now : Timestamp) (tenantId storeId : String)
    (history : List TwinRequest) : TwinState × Except Exc BootstrapReceipt :=
  bootstrapEvents svc now (eventsOf history) tenantId storeId
    { live svc history with store := .empty }

/-- No call of the replay raises, and the first writers of every entity and every relationship in
the order of arrival and in the order of the replay show the same. -/
structure Reproducible (svc : TwinService) (now : Timestamp) (tenantId storeId : String)
    (history : List TwinRequest) : Prop where
  noError : (replayScript svc now tenantId storeId history).error = none
  entities : ∀ k, firstEntity (replayScript svc now tenantId storeId history).calls k
    = firstEntity (arrivalCalls svc history) k
  relationships : ∀ k, firstRelationship (replayScript svc now tenantId storeId history).calls k
    = firstRelationship (arrivalCalls svc history) k

/-- What a bootstrap makes of the lost store. -/
theorem rebuilt_spec (svc : TwinService) (now : Timestamp)
    (hfor : ∀ r ∈ history, r.For tenantId storeId) :
    Built svc.policyFor (replayScript svc now tenantId storeId history).calls
        (rebuilt svc now tenantId storeId history).1.store ∧
      raised (rebuilt svc now tenantId storeId history).2
        = (replayScript svc now tenantId storeId history).error ∧
      ∀ receipt, (rebuilt svc now tenantId storeId history).2 = .ok receipt →
        receipt.snapshot = snapshot (rebuilt svc now tenantId storeId history).1.store
          tenantId storeId now := by
  have hsaved : (live svc history).manifests.get? (tenantId, storeId) = savedManifest history :=
    (manifests_live svc hfor .empty).trans Option.or_none
  refine bootstrapEvents_spec svc now (eventsOf history) tenantId storeId
    { live svc history with store := .empty } ?_
  rw [replayScript, ← hsaved]

theorem atHome_replayScript (svc : TwinService) (now : Timestamp)
    (hfor : ∀ r ∈ history, r.For tenantId storeId) :
    AtHome tenantId storeId (replayScript svc now tenantId storeId history).calls := by
  refine AtHome.andThen ?_ (atHome_eventsScript svc fun e he => ?_)
  · cases hsaved : savedManifest history with
    | none => exact atHome_nil
    | some m =>
      obtain ⟨r, hr, hm⟩ := List.mem_filterMap.mp (List.mem_of_getLast? hsaved)
      have h := hfor r hr
      cases r with
      | project now e => cases hm
      | onboard now' m' =>
        obtain rfl := Option.some.inj hm
        exact atHome_onboardScript h.1 h.2 now now
  · obtain ⟨r, hr, hevent⟩ := List.mem_filterMap.mp ((orderedEvents_perm hfor).mem_iff.mp he)
    have h := hfor r hr
    cases r with
    | onboard now m => cases hevent
    | project now e' =>
      obtain rfl := Option.some.inj hevent
      exact ⟨h.1, h.2.1⟩

/-- The rebuilt and the live store hold the same property states. -/
theorem table_rebuilt (svc : TwinService) (now : Timestamp)
    (hfor : ∀ r ∈ history, r.For tenantId storeId) (hids : ((eventsOf history).map (·.id)).Nodup)
    (hapart : IdsApart (offeredBy svc (eventsOf history)))
    (hnone : (replayScript svc now tenantId storeId history).error = none) :
    (rebuilt svc now tenantId storeId history).1.store.table
      = (live svc history).store.table := by
  have hlive : Built svc.policyFor (arrivalCalls svc history) (live svc history).store :=
    follows_live svc history .empty
  have hrebuilt := (rebuilt_spec svc now hfor).1
  have hdistinct := distinct_offeredBy hids hapart
  have hempty := covered_empty svc.policyFor fun _ => False
  refine table_eq_of_offered_eq (hrebuilt.covered hempty) (hlive.covered hempty) ?_
  rw [hlive.offered_eq hdistinct fun o => by rw [observations_arrivalCalls],
    hrebuilt.offered_eq hdistinct fun o => by
      rw [observations_replayScript svc now hnone, mem_offeredBy_perm svc (orderedEvents_perm hfor)]]

/-- After any history of requests about one store, a bootstrap rebuilds the document the snapshot
digests exactly when the history is reproducible, and then the projection hash is the same. -/
theorem replay_reproduces_iff (svc : TwinService) (now : Timestamp) (tenantId storeId : String)
    (history : List TwinRequest) (hfor : ∀ r ∈ history, r.For tenantId storeId)
    (hids : ((eventsOf history).map (·.id)).Nodup)
    (hapart : IdsApart (offeredBy svc (eventsOf history))) :
    ((∃ receipt, (rebuilt svc now tenantId storeId history).2 = .ok receipt ∧
        canonical (rebuilt svc now tenantId storeId history).1.store tenantId storeId
          = canonical (live svc history).store tenantId storeId) ↔
      Reproducible svc now tenantId storeId history) ∧
    (Reproducible svc now tenantId storeId history →
      ∃ receipt, (rebuilt svc now tenantId storeId history).2 = .ok receipt ∧
        receipt.snapshot.projectionHash
          = (snapshot (live svc history).store tenantId storeId now).projectionHash) := by
  obtain ⟨hrebuilt, hraised, hreceipt⟩ := rebuilt_spec svc now hfor
  have hlive : Built svc.policyFor (arrivalCalls svc history) (live svc history).store :=
    follows_live svc history .empty
  have hsame : (∃ receipt, (rebuilt svc now tenantId storeId history).2 = .ok receipt ∧
      canonical (rebuilt svc now tenantId storeId history).1.store tenantId storeId
        = canonical (live svc history).store tenantId storeId) ↔
      Reproducible svc now tenantId storeId history := by
    cases hresult : (rebuilt svc now tenantId storeId history).2 with
    | error e =>
      rw [hresult] at hraised
      constructor
      · rintro ⟨receipt, hr, -⟩
        cases hr
      · intro h
        rw [h.noError] at hraised
        cases hraised
    | ok receipt =>
      rw [hresult] at hraised
      have htable := table_rebuilt svc now hfor hids hapart hraised.symm
      have hdocs := canonical_eq_iff (hrebuilt.home (atHome_replayScript svc now hfor))
        (hlive.home (atHome_arrivalCalls svc hfor)) htable
      constructor
      · rintro ⟨-, -, heq⟩
        obtain ⟨hentities, hrelationships⟩ := hdocs.mp heq
        refine ⟨hraised.symm, fun k => ?_, fun k => ?_⟩
        · rw [← hrebuilt.entityDoc, ← hlive.entityDoc, hentities]
        · rw [← hrebuilt.relationshipDoc, ← hlive.relationshipDoc, hrelationships]
      · intro h
        refine ⟨receipt, rfl, hdocs.mpr ⟨fun k => ?_, fun k => ?_⟩⟩
        · rw [hrebuilt.entityDoc, hlive.entityDoc, h.entities]
        · rw [hrebuilt.relationshipDoc, hlive.relationshipDoc, h.relationships]
  refine ⟨hsame, fun h => ?_⟩
  obtain ⟨receipt, hr, heq⟩ := hsame.mpr h
  refine ⟨receipt, hr, ?_⟩
  rw [hreceipt receipt hr]
  exact congrArg (fun doc => sha256 (dumps doc)) heq

/-- An event that names its store and nothing else. -/
def visitEvent : Event where
  id := "evt_visit_1"
  type := .stockUpdate
  ts := ⟨1000000, "2026-07-01T00:00:01+00:00"⟩
  actor := "scanner"
  payload := [("store_id", .str "store_a")]
  source := .scanner
  tenantId := "tenant_a"
  dataDomain := .operationalTwin
  correlationId := "evt_visit_1"
  causationId := none
  schemaVersion := "1"
  id_ne := by decide +kernel
  actor_ne := scanner_ne
  tenantId_ne := tenantA_ne
  correlationId_ne := by decide +kernel

/-- A manifest that gives the store a name. -/
def cornerShop : TwinOnboardingManifest where
  tenantId := "tenant_a"
  storeId := "store_a"
  displayName := "Corner Shop"
  timezone := "Africa/Johannesburg"
  modelVersion := "twin-v1"
  entities := []

/-- A store that is onboarded before its first event. -/
theorem replay_reproduces_onboarded_first :
    ∃ receipt, (rebuilt defaultService ⟨9, ""⟩ "tenant_a" "store_a"
        [.onboard ⟨7, ""⟩ cornerShop, .project ⟨8, ""⟩ visitEvent]).2 = .ok receipt ∧
      receipt.snapshot.projectionHash = (snapshot (live defaultService
        [.onboard ⟨7, ""⟩ cornerShop, .project ⟨8, ""⟩ visitEvent]).store
          "tenant_a" "store_a" ⟨9, ""⟩).projectionHash := by
  have hcalls : (replayScript defaultService ⟨9, ""⟩ "tenant_a" "store_a"
      [.onboard ⟨7, ""⟩ cornerShop, .project ⟨8, ""⟩ visitEvent]).calls.map TwinCall.untimed
        = (arrivalCalls defaultService
          [.onboard ⟨7, ""⟩ cornerShop, .project ⟨8, ""⟩ visitEvent]).map TwinCall.untimed := by
    decide +kernel
  refine (replay_reproduces_iff defaultService ⟨9, ""⟩ "tenant_a" "store_a"
    [.onboard ⟨7, ""⟩ cornerShop, .project ⟨8, ""⟩ visitEvent] ?_ (by decide +kernel) ?_).2
      ⟨by decide +kernel, fun k => ?_, fun k => ?_⟩
  · refine List.forall_mem_cons.mpr ⟨⟨rfl, rfl⟩, List.forall_mem_singleton.mpr ?_⟩
    exact ⟨rfl, by decide +kernel, rfl⟩
  · have hnone : offeredBy defaultService [visitEvent] = [] := by decide +kernel
    intro o ho
    exact absurd (hnone ▸ ho) List.not_mem_nil
  · rw [← firstEntity_untimed, hcalls, firstEntity_untimed]
  · rw [← firstRelationship_untimed, hcalls, firstRelationship_untimed]

/-- A store whose first event comes before its onboarding. -/
theorem replay_renames_store :
    ¬ ∀ (svc : TwinService) (now : Timestamp) (tenantId storeId : String)
      (history : List TwinRequest), (∀ r ∈ history, r.For tenantId storeId) →
      ((eventsOf history).map (·.id)).Nodup →
      ∃ receipt, (rebuilt svc now tenantId storeId history).2 = .ok receipt ∧
        receipt.snapshot.projectionHash
          = (snapshot (live svc history).store tenantId storeId now).projectionHash := by
  intro h
  obtain ⟨receipt, hr, hhash⟩ := h defaultService ⟨9, ""⟩ "tenant_a" "store_a"
    [.project ⟨7, ""⟩ visitEvent, .onboard ⟨8, ""⟩ cornerShop]
    (List.forall_mem_cons.mpr ⟨⟨rfl, by decide +kernel, rfl⟩,
      List.forall_mem_singleton.mpr ⟨rfl, rfl⟩⟩) (by decide +kernel)
  have hdiffer : (rebuilt defaultService ⟨9, ""⟩ "tenant_a" "store_a"
      [.project ⟨7, ""⟩ visitEvent, .onboard ⟨8, ""⟩ cornerShop]).2.toOption.map
        (fun receipt => receipt.snapshot.projectionHash)
      ≠ some (snapshot (live defaultService
        [.project ⟨7, ""⟩ visitEvent, .onboard ⟨8, ""⟩ cornerShop]).store
          "tenant_a" "store_a" ⟨9, ""⟩).projectionHash := by
    decide +kernel
  rw [hr] at hdiffer
  exact hdiffer (congrArg some hhash)

end ShelfWise.Twin
