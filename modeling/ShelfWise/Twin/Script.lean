import ShelfWise.Twin.Service
import ShelfWise.Twin.Order

/-!
# A projection as a script

Which calls `project_event` makes on the store does not depend on what the store holds: the only
answer it goes on with is an entity, and of that it reads only the identifier, which is the one it
asked for. So a projection is a list of store calls that is fixed before it starts, followed by the
validation error that ends it, if one does. `eventScript` computes that list from the event and
`projectEvent_eq_play` shows that the projection plays it.

What a list of calls does to the store is then a matter of lists: `offersOf` are the observations it
offers, and `log_playAll`, `covered_playAll` say what becomes of the log and of the property table.
-/

namespace ShelfWise.Twin

open Py Sys TwinStore

/-! ## Calls -/

/-- A call on the store or the projector, with its argument. -/
inductive TwinCall where
  | ensure (entity : TwinEntity)
  | link (relationship : TwinRelationship)
  | observe (o : TwinObservation)
deriving DecidableEq

/-- The atomic steps of a call. -/
def TwinCall.program (policyFor : SourcePolicyResolver) (now : Timestamp) :
    TwinCall → Program TwinOp TwinStore Unit
  | .ensure entity => Program.call .ensureEntity (ensureEntity entity) >>= fun _ => .ret ()
  | .link relationship =>
    Program.call .addRelationship (addRelationship relationship) >>= fun _ => .ret ()
  | .observe o => apply policyFor now o >>= fun _ => .ret ()

/-- Calls one after another, each with what the clock shows. -/
def playAll (policyFor : SourcePolicyResolver) :
    List (Timestamp × TwinCall) → Program TwinOp TwinStore Unit
  | [] => .ret ()
  | c :: calls => c.2.program policyFor c.1 >>= fun _ => playAll policyFor calls

theorem playAll_append (policyFor : SourcePolicyResolver) (calls calls' : List (Timestamp × TwinCall)) :
    playAll policyFor (calls ++ calls')
      = playAll policyFor calls >>= fun _ => playAll policyFor calls' := by
  induction calls with
  | nil => rfl
  | cons c calls ih =>
    rw [List.cons_append, playAll, ih, playAll, Program.bind_assoc]

/-! ## Scripts -/

/-- The calls a projection makes, and the error that ends it. -/
structure Script where
  calls : List TwinCall
  error : Option Exc

namespace Script

/-- Nothing to do. -/
def done : Script := ⟨[], none⟩

/-- One more call in front. -/
def cons (c : TwinCall) (script : Script) : Script := ⟨c :: script.calls, script.error⟩

/-- Go on with a value unless its computation raises. -/
def needs {α : Type} (r : Except Exc α) (k : α → Script) : Script :=
  match r with
  | .error e => ⟨[], some e⟩
  | .ok a => k a

/-- The calls of a script, then its error. -/
def play (policyFor : SourcePolicyResolver) (now : Timestamp) (script : Script) :
    Program TwinOp TwinStore (Option Exc) :=
  playAll policyFor (script.calls.map fun c => (now, c)) >>= fun _ => .ret script.error

theorem play_cons (policyFor : SourcePolicyResolver) (now : Timestamp) (c : TwinCall)
    (script : Script) :
    (cons c script).play policyFor now
      = c.program policyFor now >>= fun _ => script.play policyFor now := by
  unfold play cons
  rw [List.map_cons, playAll, Program.bind_assoc]

end Script

/-- The script of the loop over the specifications. -/
def specsScript (svc : TwinService) (event : Event) (storeId storeTwinId : String) :
    List ObservationSpec → Script
  | [] => .done
  | spec :: rest =>
    .needs (eventSpecEntity event storeId spec).validated fun entity =>
      .cons (.ensure entity) <|
        .needs (linkOf event.tenantId storeTwinId entity.twinId event.ts).validated fun r =>
          .cons (.link r) <|
            .needs (observationForSpec svc event spec entity.twinId storeId) fun o =>
              .cons (.observe o) (specsScript svc event storeId storeTwinId rest)

/-- The script of `project_event`. -/
def eventScript (svc : TwinService) (event : Event) : Script :=
  if event.dataDomain ≠ .operationalTwin then ⟨[], some (boundaryError event.dataDomain)⟩
  else match storeIdOf event.payload with
    | none => .done
    | some storeId =>
      .needs (eventStoreEntity event storeId).validated fun entity =>
        .cons (.ensure entity) <|
          .needs (eventSpecs event storeId) fun specs =>
            specsScript svc event storeId entity.twinId specs

/-! ## A projection plays its script -/

/-- The error of a result. -/
def raised {α : Type} : Except Exc α → Option Exc
  | .error e => some e
  | .ok _ => none

/-- A program that may raise plays a script. -/
def Plays {α : Type} (policyFor : SourcePolicyResolver) (now : Timestamp)
    (p : Program TwinOp TwinStore (Except Exc α)) (script : Script) : Prop :=
  (p >>= fun r => .ret (raised r)) = script.play policyFor now

variable {α : Type}

theorem plays_error (policyFor : SourcePolicyResolver) (now : Timestamp) (e : Exc) :
    Plays policyFor now (.ret (.error e) : Program TwinOp TwinStore (Except Exc α)) ⟨[], some e⟩ :=
  rfl

theorem plays_ok (policyFor : SourcePolicyResolver) (now : Timestamp) (a : α) :
    Plays policyFor now (.ret (.ok a)) .done := rfl

variable {policyFor : SourcePolicyResolver} {now : Timestamp}

/-- Ensuring an entity, when what follows only depends on the identifier of the answer. -/
theorem plays_ensure {entity : TwinEntity}
    {k : TwinEntity → Program TwinOp TwinStore (Except Exc α)} {script : TwinEntity → Script}
    (hk : ∀ e, e.twinId = entity.twinId → Plays policyFor now (k e) (script entity)) :
    Plays policyFor now ((ensureEntityStep entity).bindExcept k)
      (.needs entity.validated fun e => .cons (.ensure e) (script e)) := by
  unfold ensureEntityStep TwinEntity.validated
  cases entity.violation with
  | some field => rfl
  | none =>
    unfold Plays Script.needs
    rw [Script.play_cons]
    simp only [TwinCall.program, Program.bindExcept, Program.call_bind, Program.step_bind,
      Program.ret_bind]
    congr 1
    funext s
    exact hk _ (congrArg Prod.snd (key_ensureEntity entity s))

variable {script : Script}

theorem plays_link {tenantId source target : String} {ts : Timestamp}
    {k : TwinRelationship → Program TwinOp TwinStore (Except Exc α)}
    (hk : ∀ r, Plays policyFor now (k r) script) :
    Plays policyFor now ((linkStep tenantId source target ts).bindExcept k)
      (.needs (linkOf tenantId source target ts).validated fun r => .cons (.link r) script) := by
  unfold linkStep TwinRelationship.validated
  cases (linkOf tenantId source target ts).violation with
  | some field => rfl
  | none =>
    unfold Plays Script.needs
    rw [Script.play_cons]
    simp only [TwinCall.program, Program.bindExcept, Program.call_bind, Program.step_bind,
      Program.ret_bind]
    congr 1
    funext s
    exact hk _

theorem plays_apply {o : TwinObservation}
    {k : ProjectionResult → Program TwinOp TwinStore (Except Exc α)}
    (hk : ∀ result, Plays policyFor now (k result) script) :
    Plays policyFor now (apply policyFor now o >>= k) (.cons (.observe o) script) := by
  unfold Plays
  rw [Script.play_cons, TwinCall.program, Program.bind_assoc, Program.bind_assoc]
  congr 1
  funext result
  exact hk result

theorem plays_projectSpecs (svc : TwinService) (now : Timestamp) (event : Event) (storeId : String)
    (storeEntity : TwinEntity) {storeTwinId : String} (hid : storeEntity.twinId = storeTwinId)
    (specs : List ObservationSpec) (results : List ProjectionResult) :
    Plays svc.policyFor now (projectSpecs svc now event storeId storeEntity specs results)
      (specsScript svc event storeId storeTwinId specs) := by
  induction specs generalizing results with
  | nil => exact plays_ok _ _ _
  | cons spec rest ih =>
    unfold projectSpecs specsScript
    refine plays_ensure fun entity hentity => ?_
    rw [hid, hentity]
    refine plays_link fun _ => ?_
    cases observationForSpec svc event spec (eventSpecEntity event storeId spec).twinId storeId with
    | error e => exact plays_error _ _ _
    | ok o => exact plays_apply fun result => ih _

/-- `project_event` plays the script of its event. -/
theorem plays_projectEvent (svc : TwinService) (now : Timestamp) (event : Event) :
    Plays svc.policyFor now (projectEvent svc now event) (eventScript svc event) := by
  unfold projectEvent eventScript
  split
  · exact plays_error _ _ _
  · cases storeIdOf event.payload with
    | none => exact plays_ok _ _ _
    | some storeId =>
      refine plays_ensure fun entity hentity => ?_
      cases eventSpecs event storeId with
      | error e => exact plays_error _ _ _
      | ok specs => exact plays_projectSpecs svc now event storeId entity hentity specs []

/-! ## Projecting a log -/

/-- `project_event` for each event of a log, whether or not an earlier one raised. -/
def projectLog (svc : TwinService) : List (Timestamp × Event) → Program TwinOp TwinStore Unit
  | [] => .ret ()
  | c :: rest => projectEvent svc c.1 c.2 >>= fun _ => projectLog svc rest

/-- The calls of a log. -/
def logCalls (svc : TwinService) (log : List (Timestamp × Event)) : List (Timestamp × TwinCall) :=
  log.flatMap fun c => (eventScript svc c.2).calls.map fun call => (c.1, call)

theorem logCalls_cons (svc : TwinService) (c : Timestamp × Event) (log : List (Timestamp × Event)) :
    logCalls svc (c :: log)
      = (eventScript svc c.2).calls.map (fun call => (c.1, call)) ++ logCalls svc log :=
  List.flatMap_cons

theorem plays_bind {α β : Type} {p : Program TwinOp TwinStore (Except Exc α)}
    (h : Plays policyFor now p script) (q : Program TwinOp TwinStore β) :
    (p >>= fun _ => q) = playAll policyFor (script.calls.map fun c => (now, c)) >>= fun _ => q := by
  have hq := congrArg (fun r => r >>= fun _ => q) h
  simp only [Script.play, Program.bind_assoc, Program.ret_bind] at hq
  exact hq

theorem projectLog_eq_playAll (svc : TwinService) (log : List (Timestamp × Event)) :
    projectLog svc log = playAll svc.policyFor (logCalls svc log) := by
  induction log with
  | nil => rfl
  | cons c rest ih =>
    rw [projectLog, ih, plays_bind (plays_projectEvent svc c.1 c.2), logCalls_cons, playAll_append]

/-! ## What calls do to the store -/

/-- The observation a call offers. -/
def TwinCall.observation : TwinCall → Option TwinObservation
  | .observe o => some o
  | .ensure _ | .link _ => none

/-- The observations calls offer, in order. -/
def offersOf (calls : List (Timestamp × TwinCall)) : List TwinObservation :=
  calls.filterMap fun c => c.2.observation

/-- The observations an event offers, in order. -/
def eventOffers (svc : TwinService) (event : Event) : List TwinObservation :=
  (eventScript svc event).calls.filterMap TwinCall.observation

/-- The observations a list of events offers, in order. -/
def offeredBy (svc : TwinService) (events : List Event) : List TwinObservation :=
  events.flatMap (eventOffers svc)

theorem offersOf_logCalls (svc : TwinService) (log : List (Timestamp × Event)) :
    offersOf (logCalls svc log) = offeredBy svc (log.map Prod.snd) := by
  induction log with
  | nil => rfl
  | cons c log ih =>
    rw [logCalls_cons, offersOf, List.filterMap_append, List.filterMap_map, List.map_cons,
      offeredBy, List.flatMap_cons]
    exact congrArg _ ih

/-- The store after one call. -/
def afterCall (policyFor : SourcePolicyResolver) (s : TwinStore) (c : Timestamp × TwinCall) :
    TwinStore :=
  ((c.2.program policyFor c.1).run s).1

theorem run_playAll (policyFor : SourcePolicyResolver) (calls : List (Timestamp × TwinCall))
    (s : TwinStore) :
    ((playAll policyFor calls).run s).1 = calls.foldl (afterCall policyFor) s := by
  induction calls generalizing s with
  | nil => rfl
  | cons c calls ih =>
    rw [playAll, Program.run_bind, ih]
    rfl

variable {s : TwinStore}

/-- What a call keeps for every observation that is offered, calls keep. -/
theorem playAll_invariant {I : TwinStore → Prop} (hensure : ∀ s e, I s → I (ensureEntity e s).1)
    (hlink : ∀ s r, I s → I (addRelationship r s).1)
    (happly : ∀ s now o, I s → I ((apply policyFor now o).run s).1) (h : I s)
    (calls : List (Timestamp × TwinCall)) : I ((playAll policyFor calls).run s).1 := by
  induction calls generalizing s with
  | nil => exact h
  | cons c calls ih =>
    rw [playAll, Program.run_bind]
    refine ih ?_
    obtain ⟨now, e | r | o⟩ := c
    · exact hensure s e h
    · exact hlink s r h
    · change I ((apply policyFor now o >>= fun _ => Program.ret ()).run s).1
      rw [Program.run_bind]
      exact happly s now o h

/-- The log after calls: each offer is accepted or refused in turn. -/
theorem log_playAll (policyFor : SourcePolicyResolver) (calls : List (Timestamp × TwinCall))
    (s : TwinStore) :
    ((playAll policyFor calls).run s).1.log = s.log.offerAll (offersOf calls) := by
  induction calls generalizing s with
  | nil => rfl
  | cons c calls ih =>
    rw [playAll, Program.run_bind, ih]
    obtain ⟨now, e | r | o⟩ := c
    · rfl
    · rfl
    · change ObservationLog.offerAll ((apply policyFor now o >>= fun _ => Program.ret ()).run s).1.log _ = _
      rw [Program.run_bind]
      change ObservationLog.offerAll ((apply policyFor now o).run s).1.log _ = _
      rw [log_run_apply]
      rfl

/-- Calls leave no new observation pending. -/
theorem covered_playAll {pending : PropertyFacts → Prop} (hc : Covered policyFor s pending)
    (calls : List (Timestamp × TwinCall)) :
    Covered policyFor ((playAll policyFor calls).run s).1 pending :=
  playAll_invariant (I := fun s => Covered policyFor s pending) (fun _ _ h => h) (fun _ _ h => h)
    (fun _ now o h => covered_apply h now o) hc calls

/-! ## Calls repeated -/

/-- The store has seen the call, or one like it. -/
def TwinCall.Absorbed (s : TwinStore) : TwinCall → Prop
  | .ensure entity => s.entities.contains entity.key = true
  | .link r => s.relationships.contains r.key = true
  | .observe o => s.log.refuses o = true

theorem afterCall_observe (policyFor : SourcePolicyResolver) (now : Timestamp) (o : TwinObservation)
    (s : TwinStore) :
    afterCall policyFor s (now, .observe o) = ((apply policyFor now o).run s).1 := by
  change ((apply policyFor now o >>= fun _ => Program.ret ()).run s).1 = _
  rw [Program.run_bind]
  rfl

theorem absorbed_afterCall_self (policyFor : SourcePolicyResolver) (s : TwinStore)
    (c : Timestamp × TwinCall) : c.2.Absorbed (afterCall policyFor s c) := by
  obtain ⟨now, e | r | o⟩ := c
  · exact Dict.contains_setdefault_self s.entities e.key e
  · exact Dict.contains_setdefault_self s.relationships r.key r
  · rw [afterCall_observe]
    change ObservationLog.refuses ((apply policyFor now o).run s).1.log o = true
    rw [log_run_apply]
    exact ObservationLog.refuses_offer_self s.log o

theorem absorbed_afterCall {c' : TwinCall} (h : c'.Absorbed s) (c : Timestamp × TwinCall) :
    c'.Absorbed (afterCall policyFor s c) := by
  obtain ⟨now, e | r | o⟩ := c
  · cases c' with
    | ensure e' => exact Dict.contains_setdefault h e.key e
    | link r' => exact h
    | observe o' => exact h
  · cases c' with
    | ensure e' => exact h
    | link r' => exact Dict.contains_setdefault h r.key r
    | observe o' => exact h
  · rw [afterCall_observe]
    obtain ⟨hentities, hrelationships⟩ := run_apply_tables policyFor now o s
    cases c' with
    | ensure e' =>
      change Dict.contains _ _ = true
      rw [hentities]
      exact h
    | link r' =>
      change Dict.contains _ _ = true
      rw [hrelationships]
      exact h
    | observe o' =>
      change ObservationLog.refuses _ o' = true
      rw [log_run_apply]
      exact ObservationLog.refuses_offer h o

theorem afterCall_of_absorbed {c : Timestamp × TwinCall} (h : c.2.Absorbed s) :
    afterCall policyFor s c = s := by
  obtain ⟨now, e | r | o⟩ := c
  · obtain ⟨entities, relationships, log, properties, hentities, hrelationships, hproperties⟩ := s
    change TwinStore.mk (entities.setdefault e.key e) relationships log properties _ _ _ = _
    simp only [Dict.setdefault_of_contains h]
  · obtain ⟨entities, relationships, log, properties, hentities, hrelationships, hproperties⟩ := s
    change TwinStore.mk entities (relationships.setdefault r.key r) log properties _ _ _ = _
    simp only [Dict.setdefault_of_contains h]
  · rw [afterCall_observe]
    exact run_apply_of_refuses h

/-- Calls whose observations have other keys leave a property alone. -/
theorem get?_afterCalls {calls : List (Timestamp × TwinCall)} {key : PropertyKey}
    (h : ∀ c ∈ calls, ∀ o, c.2.observation = some o → o.facts.key ≠ key) (s : TwinStore) :
    (calls.foldl (afterCall policyFor) s).properties.get? key = s.properties.get? key := by
  induction calls generalizing s with
  | nil => rfl
  | cons c calls ih =>
    obtain ⟨hc, hcalls⟩ := List.forall_mem_cons.mp h
    rw [List.foldl_cons, ih hcalls]
    obtain ⟨now, e | r | o⟩ := c
    · rfl
    · rfl
    · rw [afterCall_observe]
      exact get?_run_apply_ne policyFor now (hc o rfl) s

theorem absorbed_foldl {c' : TwinCall} (h : c'.Absorbed s) (calls : List (Timestamp × TwinCall)) :
    c'.Absorbed (calls.foldl (afterCall policyFor) s) := by
  induction calls generalizing s with
  | nil => exact h
  | cons c calls ih => exact ih (absorbed_afterCall h c)

theorem absorbed_of_mem {calls : List (Timestamp × TwinCall)} {c : Timestamp × TwinCall}
    (hc : c ∈ calls) (s : TwinStore) : c.2.Absorbed (calls.foldl (afterCall policyFor) s) := by
  induction calls generalizing s with
  | nil => cases hc
  | cons first calls ih =>
    rcases List.mem_cons.mp hc with rfl | hc
    · exact absorbed_foldl (absorbed_afterCall_self policyFor s c) calls
    · exact ih hc _

theorem foldl_of_absorbed (calls : List (Timestamp × TwinCall)) (h : ∀ c ∈ calls, c.2.Absorbed s) :
    calls.foldl (afterCall policyFor) s = s := by
  induction calls with
  | nil => rfl
  | cons c calls ih =>
    rw [List.foldl_cons, afterCall_of_absorbed (h c List.mem_cons_self)]
    exact ih fun c' hc' => h c' (List.mem_cons_of_mem _ hc')

theorem run_projectEvent (svc : TwinService) (now : Timestamp) (event : Event) (s : TwinStore) :
    ((projectEvent svc now event).run s).1
      = ((eventScript svc event).calls.map fun c => (now, c)).foldl (afterCall svc.policyFor) s := by
  have hplays := congrArg (fun p => (p.run s).1) (plays_projectEvent svc now event)
  simp only [Script.play, Program.run_bind, Program.run_ret] at hplays
  rw [hplays, run_playAll]

/-- Projecting an event again, at whatever time, leaves the store as it is. -/
theorem run_projectEvent_again (svc : TwinService) (now now' : Timestamp) (event : Event)
    (s : TwinStore) :
    ((projectEvent svc now' event).run ((projectEvent svc now event).run s).1).1
      = ((projectEvent svc now event).run s).1 := by
  rw [run_projectEvent svc now' event]
  refine foldl_of_absorbed _ fun c hc => ?_
  obtain ⟨call, hcall, rfl⟩ := List.mem_map.mp hc
  rw [run_projectEvent]
  exact absorbed_of_mem (c := (now, call)) (List.mem_map.mpr ⟨call, hcall, rfl⟩) s

end ShelfWise.Twin
