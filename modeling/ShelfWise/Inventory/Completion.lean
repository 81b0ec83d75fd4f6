import ShelfWise.Connectors.Writeback
import ShelfWise.Inventory.Relocation

/-!
# Completing a task twice

`complete_writeback_task` of `shelfwise_backend/app.py` gives the receipt of a manager to the sink
of the tasks, which keeps it, and then records the movement of the completed task in the ledger. The
sink answers the same receipt with the same task, so the movement is recorded again, as two absolute
writes, whatever has happened to the two positions since. They stay as they were exactly when they
still rest as the movement left them (`resubmission_keeps_iff`).

The verified value that the route hands to the related decision at the end touches neither store and
is left out.
-/

namespace Py.Dict

variable {κ ν μ : Type*} [DecidableEq κ]

/-- A store shows in a view of the values exactly when the value under its key looks different. -/
theorem map_setEntries_eq_iff (g : ν → μ) (k : κ) (v : ν) (es : List (κ × ν)) :
    ((setEntries k v es).map fun e => (e.1, g e.2)) = (es.map fun e => (e.1, g e.2)) ↔
      (lookup k es).map g = some (g v) := by
  induction es with
  | nil =>
    refine iff_of_false ?_ ?_
    · intro h
      cases h
    · intro h
      cases h
  | cons e es ih =>
    obtain ⟨k', v'⟩ := e
    by_cases hk : k' = k
    · subst hk
      simp only [setEntries, lookup, if_true, List.map_cons, List.cons.injEq, Prod.mk.injEq,
        and_true, true_and, Option.map_some, Option.some.injEq]
      exact eq_comm
    · simp only [setEntries, lookup, hk, if_false, List.map_cons, List.cons.injEq, true_and]
      exact ih

theorem setEntries_overwrite (k : κ) (v w : ν) (es : List (κ × ν)) :
    setEntries k w (setEntries k v es) = setEntries k w es := by
  induction es with
  | nil => simp [setEntries]
  | cons e es ih =>
    obtain ⟨k', v'⟩ := e
    by_cases hk : k' = k
    · simp [setEntries, hk]
    · simp [setEntries, hk, ih]

/-- The values as a view shows them, with their keys. -/
def view (g : ν → μ) (d : Dict κ ν) : List (κ × μ) := d.entries.map fun e => (e.1, g e.2)

theorem view_set_eq_iff (g : ν → μ) (d : Dict κ ν) (k : κ) (v : ν) :
    (d.set k v).view g = d.view g ↔ (d.get? k).map g = some (g v) :=
  map_setEntries_eq_iff g k v d.entries

theorem lookup_map (g : ν → μ) (k : κ) (es : List (κ × ν)) :
    lookup k (es.map fun e => (e.1, g e.2)) = (lookup k es).map g := by
  induction es with
  | nil => rfl
  | cons e es ih =>
    obtain ⟨k', v⟩ := e
    rw [List.map_cons, lookup, lookup, ih]
    split <;> rfl

/-- Two stores show in a view exactly when one of them does that the other does not undo. -/
theorem view_set_set_eq_iff (g : ν → μ) (d : Dict κ ν) (k₁ k₂ : κ) (v₁ v₂ : ν) :
    ((d.set k₁ v₁).set k₂ v₂).view g = d.view g ↔
      (k₁ ≠ k₂ → (d.get? k₁).map g = some (g v₁)) ∧ (d.get? k₂).map g = some (g v₂) := by
  by_cases hk : k₁ = k₂
  · subst hk
    have hset : (d.set k₁ v₁).set k₁ v₂ = d.set k₁ v₂ :=
      ext_entries (setEntries_overwrite k₁ v₁ v₂ d.entries)
    rw [hset, view_set_eq_iff]
    exact ⟨fun h => ⟨fun hne => absurd rfl hne, h⟩, And.right⟩
  · constructor
    · intro h
      have hget : ∀ k, (((d.set k₁ v₁).set k₂ v₂).get? k).map g = (d.get? k).map g := by
        intro k
        have hlookup := congrArg (lookup k) h
        rw [view, view, lookup_map, lookup_map] at hlookup
        exact hlookup
      refine ⟨fun _ => ?_, ?_⟩
      · rw [← hget k₁, get?_set_ne _ (Ne.symm hk), get?_set_self, Option.map_some]
      · rw [← hget k₂, get?_set_self, Option.map_some]
    · rintro ⟨hfirst, hsecond⟩
      rw [← (view_set_eq_iff g d k₁ v₁).mpr (hfirst hk), view_set_eq_iff, get?_set_ne _ hk]
      exact hsecond

end Py.Dict

namespace ShelfWise.Inventory

open Py Sys Connectors

/-! ## The movement again -/

/-- A position without the time of its last write. -/
def Position.untimed (p : Position) : Position := { p with updatedAt := "" }

/-- The position is as a movement leaves one of its two positions, apart from the time. -/
structure Movement.LeftAt (m : Movement) (quantity : ℤ) (state : String) (p : Position) : Prop where
  quantity : p.quantity = quantity
  state : p.state.1 = state
  sourceReference : p.sourceReference.1 = strip m.sourceReference
  binId : p.binId = "unassigned"

/-- The destination can be written. -/
def Movement.Fills (m : Movement) : Prop := m.WritesAt m.destination ∧ 0 ≤ m.units

/-- The positions that the movement writes are as it leaves them, at times of a kind. -/
structure Movement.Rests (time : String → Prop) (m : Movement) (positions : Positions) : Prop where
  source : m.WritesAt m.source → ¬ (m.Fills ∧ m.keyAt m.source = m.keyAt m.destination) →
    ∃ p, positions.get? (m.keyAt m.source) = some p ∧ m.LeftAt 0 "relocated" p ∧ time p.updatedAt
  destination : m.WritesAt m.source → m.Fills →
    ∃ p, positions.get? (m.keyAt m.destination) = some p ∧ m.LeftAt m.units "available" p ∧
      time p.updatedAt

section

variable {now : String} {m : Movement} {locationId : String} {h : m.WritesAt locationId}
  {quantity : ℤ} {hq : 0 ≤ quantity} {state : String} {hstate : Required state}

/-- A position under the key of a location is what the movement writes there when it is as the
movement leaves it. -/
theorem untimed_eq_written_iff {p : Position} (hn : Names (m.keyAt locationId) p) :
    p.untimed = (m.written now h hq hstate).untimed ↔ m.LeftAt quantity state p := by
  obtain ⟨htenant, hsku, htype, hlocation⟩ := hn
  constructor
  · intro heq
    exact
      { quantity := congrArg Position.quantity heq
        state := congrArg (fun p => p.state.1) heq
        sourceReference := congrArg (fun p => p.sourceReference.1) heq
        binId := congrArg Position.binId heq }
  · rintro ⟨hquantity, hstated, hreference, hbin⟩
    obtain ⟨tenantId, sku, locationType, locationId', binId, quantity', nonneg, state', reference,
      updatedAt⟩ := p
    simp only [Position.untimed, Movement.written, Position.mk.injEq]
    exact ⟨Subtype.ext htenant.symm, Subtype.ext hsku.symm, Subtype.ext htype.symm,
      Subtype.ext hlocation.symm, hbin, hquantity, Subtype.ext hstated, Subtype.ext hreference,
      trivial⟩

theorem eq_written_iff {p : Position} (hn : Names (m.keyAt locationId) p) :
    p = m.written now h hq hstate ↔ m.LeftAt quantity state p ∧ p.updatedAt = now := by
  have huntimed : p.untimed = (m.written now h hq hstate).untimed ↔ _ := untimed_eq_written_iff hn
  rw [← huntimed]
  constructor
  · intro heq
    rw [heq]
    exact ⟨rfl, rfl⟩
  · rintro ⟨heq, htime⟩
    obtain ⟨tenantId, sku, locationType, locationId', binId, quantity', nonneg, state', reference,
      updatedAt⟩ := p
    simp only [Position.untimed, Movement.written, Position.mk.injEq] at heq ⊢
    obtain ⟨h₁, h₂, h₃, h₄, h₅, h₆, h₇, h₈, -⟩ := heq
    exact ⟨h₁, h₂, h₃, h₄, h₅, h₆, h₇, h₈, htime⟩

end

theorem required_relocated : Required "relocated" := by decide +kernel

theorem required_available : Required "available" := by decide +kernel

/-- A view of the positions at a kind of time: it tells a position from what a movement writes
exactly when the position is not as the movement leaves it, or its time is of another kind. -/
def Shows {μ : Type} (g : Position → μ) (now : String) (time : String → Prop) : Prop :=
  ∀ (m : Movement) (locationId : String) (h : m.WritesAt locationId) (quantity : ℤ)
    (hq : 0 ≤ quantity) (state : String) (hstate : Required state) (p : Position),
    Names (m.keyAt locationId) p →
      (g p = g (m.written now h hq hstate) ↔ m.LeftAt quantity state p ∧ time p.updatedAt)

theorem shows_id (now : String) : Shows id now (· = now) :=
  fun _ _ _ _ _ _ _ _ hn => eq_written_iff hn

theorem shows_untimed (now : String) : Shows Position.untimed now fun _ => True := by
  intro m locationId h quantity hq state hstate p hn
  rw [and_true]
  exact untimed_eq_written_iff hn

section

variable {μ : Type} {g : Position → μ} {now : String} {time : String → Prop}

theorem get?_shows_iff (hg : Shows g now time) {positions : Positions} (hk : Keyed positions)
    {m : Movement} {locationId : String} (h : m.WritesAt locationId) {quantity : ℤ}
    (hq : 0 ≤ quantity) {state : String} (hstate : Required state) :
    (positions.get? (m.keyAt locationId)).map g = some (g (m.written now h hq hstate)) ↔
      ∃ p, positions.get? (m.keyAt locationId) = some p ∧ m.LeftAt quantity state p ∧
        time p.updatedAt := by
  rw [Option.map_eq_some_iff]
  constructor
  · rintro ⟨p, hget, hshown⟩
    exact ⟨p, hget, (hg m locationId h quantity hq state hstate p (hk _ _ hget)).mp hshown⟩
  · rintro ⟨p, hget, hleft⟩
    exact ⟨p, hget, (hg m locationId h quantity hq state hstate p (hk _ _ hget)).mpr hleft⟩

/-- Recording a movement does not show exactly when its positions rest. -/
theorem record_view_iff (hg : Shows g now time) {s : Store} (hk : Keyed s.positions)
    {task : List (String × Value)} {m : Movement} (htask : movementOf task = .ok (some m)) :
    (recordCompletedInventoryMovement now s task).1.positions.view g = s.positions.view g ↔
      m.Rests time s.positions := by
  unfold recordCompletedInventoryMovement Store.upsert
  rw [htask]
  dsimp only
  by_cases hsource : m.WritesAt m.source
  · have hheld := get?_shows_iff hg hk hsource (le_refl 0) required_relocated
    rw [position_written now hsource (le_refl 0) required_relocated]
    dsimp only
    by_cases hfills : m.Fills
    · have hfilled := get?_shows_iff hg hk hfills.1 hfills.2 required_available
      rw [position_written now hfills.1 hfills.2 required_available]
      dsimp only
      refine (Dict.view_set_set_eq_iff g s.positions (m.keyAt m.source) (m.keyAt m.destination)
        _ _).trans ⟨?_, ?_⟩
      · rintro ⟨hfirst, hsecond⟩
        exact ⟨fun _ hne => hheld.mp (hfirst fun heq => hne ⟨hfills, heq⟩),
          fun _ _ => hfilled.mp hsecond⟩
      · intro hrests
        exact ⟨fun hne => hheld.mpr (hrests.source hsource fun heq => hne heq.2),
          hfilled.mpr (hrests.destination hsource hfills)⟩
    · obtain ⟨e, he⟩ := position_error hfills now "available"
      rw [he]
      dsimp only
      refine (Dict.view_set_eq_iff g s.positions (m.keyAt m.source) _).trans (hheld.trans ⟨?_, ?_⟩)
      · exact fun hleft => ⟨fun _ _ => hleft, fun _ hfilled => absurd hfilled hfills⟩
      · exact fun hrests => hrests.source hsource fun heq => hfills heq.1
  · have hrefused : ¬ (m.WritesAt m.source ∧ (0 : ℤ) ≤ 0) := fun h => hsource h.1
    obtain ⟨e, he⟩ := position_error hrefused now "relocated"
    rw [he]
    dsimp only
    exact iff_of_true rfl ⟨fun h => absurd h hsource, fun h => absurd h hsource⟩

end

variable {task : List (String × Value)}

/-- Without a movement nothing is recorded. -/
theorem record_of_no_movement (h : ∀ m, movementOf task ≠ .ok (some m)) (now : String) (s : Store) :
    (recordCompletedInventoryMovement now s task).1 = s := by
  unfold recordCompletedInventoryMovement
  cases hm : movementOf task with
  | error e => rfl
  | ok movement =>
    cases movement with
    | none => rfl
    | some m => exact absurd hm (h m)

/-! ## The route -/

/-- `TaskCompletionBody`. -/
structure TaskCompletionBody where
  sourceReference : String
  completedUnits : ℤ
  observedLocation : Option String
  note : Option String
  actualValueRecoveredMinorUnits : Option ℤ
  currency : String
  sourceReference_ne : sourceReference ≠ ""
  units_nonneg : 0 ≤ completedUnits

/-- A request to complete a task: the path, the query, the body and the caller. -/
structure Completion where
  taskId : String
  dataDomain : Option String
  body : TaskCompletionBody
  tenantId : String
  userId : String

/-- The receipt of a completion. -/
def Completion.receipt (c : Completion) : List (String × Value) :=
  [("source_reference", .str c.body.sourceReference),
    ("completed_units", .int c.body.completedUnits),
    ("observed_location", optionalText c.body.observedLocation),
    ("note", optionalText c.body.note), ("completed_by", .str c.userId),
    ("actual_value_recovered_minor_units",
      (c.body.actualValueRecoveredMinorUnits.map Value.int).getD .none),
    ("currency", .str c.body.currency)]

/-- `isinstance(expected_units, int) and completed_units != expected_units`. -/
def unitsDiffer (expectedUnits : Value) (completedUnits : ℤ) : Bool :=
  match expectedUnits with
  | .int n => completedUnits ≠ n
  | .bool b => completedUnits ≠ if b then 1 else 0
  | _ => false

/-- The first half of `complete_writeback_task`: the task with its receipt. -/
def acceptCompletion (now : String) (c : Completion) (sink : TaskSink) :
    TaskSink × Except Exc (List (String × Value)) :=
  match (sink.list c.tenantId c.dataDomain).find? fun task =>
      (Value.get task "id").eq (.str c.taskId) with
  | none => (sink, .error (.httpException 404 "Write-back task not found"))
  | some existing =>
    let dataDomain := ((Value.get existing "data_domain").orElse (.str "operational_twin")).toText
    let params := (Value.get (Value.get existing "action").items "params").items
    if unitsDiffer (Value.get params "units") c.body.completedUnits then
      (sink, .error (.httpException 409 ("Completion units must equal approved units (" ++
        (Value.get params "units").toText ++ ")")))
    else match sink.completeTask now c.taskId c.tenantId c.receipt dataDomain with
      | (sink, .error (.valueError message)) => (sink, .error (.httpException 409 message))
      | (sink, .error e) => (sink, .error e)
      | (sink, .ok none) => (sink, .error (.httpException 404 "Write-back task not found"))
      | (sink, .ok (some task)) => (sink, .ok task)

/-- The tasks and the ledger. -/
structure WorkState where
  sink : TaskSink
  inventory : Store

/-- `complete_writeback_task`. -/
def completeWritebackTask (now : String) (c : Completion) (s : WorkState) :
    WorkState × Except Exc (List (String × Value) × List Position) :=
  match acceptCompletion now c s.sink with
  | (sink, .error e) => (⟨sink, s.inventory⟩, .error e)
  | (sink, .ok task) =>
    let recorded := recordCompletedInventoryMovement now s.inventory task
    (⟨sink, recorded.1⟩, recorded.2.map fun positions => (task, positions))

/-- The task is one of the tenant, of the domain if one is given, and has the id. -/
def Completion.names (c : Completion) (task : List (String × Value)) : Bool :=
  ((Value.get task "tenant_id").eq (.str c.tenantId) &&
    c.dataDomain.all fun domain => (Value.get task "data_domain").eq (.str domain)) &&
  (Value.get task "id").eq (.str c.taskId)

theorem find?_list (c : Completion) (sink : TaskSink) :
    ((sink.list c.tenantId c.dataDomain).find? fun task =>
      (Value.get task "id").eq (.str c.taskId)) =
      (sink.entries.find? fun e => c.names e.2).map Prod.snd := by
  unfold TaskSink.list Dict.values
  rw [List.find?_filter, List.find?_map]
  refine congrArg (Option.map Prod.snd) (congrArg (List.find? · sink.entries) (funext fun e => ?_))
  unfold Completion.names
  rw [Function.comp_apply, Bool.decide_and, Bool.decide_eq_true, Bool.decide_eq_true]

variable {c : Completion}

theorem names_of_sameTask {task task' : List (String × Value)} (h : SameTask task task') :
    c.names task' = c.names task := by
  unfold Completion.names
  rw [h.id, h.tenantId, h.dataDomain]

theorem grown_acceptCompletion (now : String) (c : Completion) (sink : TaskSink) :
    Grown sink.entries (acceptCompletion now c sink).1.entries := by
  unfold acceptCompletion
  split
  · exact grown_refl _
  · rename_i existing _
    dsimp only
    split
    · exact grown_refl _
    · have hgrown := grown_completeTask now c.taskId c.tenantId c.receipt
        ((Value.get existing "data_domain").orElse (.str "operational_twin")).toText sink
      generalize sink.completeTask now c.taskId c.tenantId c.receipt
        ((Value.get existing "data_domain").orElse (.str "operational_twin")).toText = answer
        at hgrown
      split <;> exact hgrown

/-- What an accepted completion has found: a task with these units, and the task that the sink has
completed. -/
structure CompletionAccepted (c : Completion) (sink : TaskSink) (task : List (String × Value))
    (first : TaskKey × List (String × Value)) (key : TaskKey) : Prop where
  found : sink.entries.find? (fun e => c.names e.2) = some first
  units : unitsDiffer (Value.get (Value.get (Value.get first.2 "action").items "params").items
    "units") c.body.completedUnits = false
  completed : CompletedWith sink c.taskId c.tenantId
    ((Value.get first.2 "data_domain").orElse (.str "operational_twin")).toText c.receipt key task

theorem accepted_of_ok {now : String} {sink : TaskSink}
    (h : (acceptCompletion now c sink).2 = .ok task) :
    ∃ first key, CompletionAccepted c (acceptCompletion now c sink).1 task first key := by
  have hgrown := grown_acceptCompletion now c sink
  unfold acceptCompletion at h hgrown ⊢
  rw [find?_list] at h hgrown ⊢
  cases hfind : sink.entries.find? fun e => c.names e.2 with
  | none =>
    rw [hfind] at h
    cases h
  | some e =>
    rw [hfind] at h hgrown
    rw [Option.map_some] at h hgrown ⊢
    dsimp only at h hgrown ⊢
    split at h
    · cases h
    · rename_i hunits
      rw [if_neg hunits] at hgrown ⊢
      rw [Bool.not_eq_true] at hunits
      have hcompleted : ∀ task, (sink.completeTask now c.taskId c.tenantId c.receipt
          ((Value.get e.2 "data_domain").orElse (.str "operational_twin")).toText).2 =
            .ok (some task) → _ := fun task => completedWith_of_completeTask
      generalize sink.completeTask now c.taskId c.tenantId c.receipt
        ((Value.get e.2 "data_domain").orElse (.str "operational_twin")).toText = answer
        at h hgrown hcompleted ⊢
      split at h
      · cases h
      · cases h
      · cases h
      · cases h
        obtain ⟨key, hkey⟩ := hcompleted task rfl
        obtain ⟨first, hfirst, -, hsame⟩ := hgrown.find?
          (fun task task' hsame => names_of_sameTask hsame) hfind
        refine ⟨first, key, hfirst, ?_, ?_⟩
        · rw [hsame.action]
          exact hunits
        · rw [hsame.dataDomain]
          exact hkey

/-- What was accepted is accepted again, and the tasks stay as they are. -/
theorem CompletionAccepted.again {sink sink' : TaskSink} {first : TaskKey × List (String × Value)}
    {key : TaskKey} (h : CompletionAccepted c sink task first key)
    (hgrown : Grown sink.entries sink'.entries) (now : String) :
    acceptCompletion now c sink' = (sink', .ok task) := by
  obtain ⟨e, hfind, -, hsame⟩ := hgrown.find? (fun task task' hsame => names_of_sameTask hsame)
    h.found
  unfold acceptCompletion
  rw [find?_list, hfind, Option.map_some]
  dsimp only
  rw [hsame.action, hsame.dataDomain, h.units, if_neg (by decide), h.completed.again hgrown now]

/-! ## Runs -/

/-- A call that reaches the tasks or the ledger. -/
inductive WorkCall where
  | createTask (now : String) (request : TaskRequest)
  | complete (now : String) (completion : Completion)
  | inventory (call : Call)

/-- What such a call returns or raises. -/
inductive WorkAnswer where
  | created (task : List (String × Value))
  | completed (r : Except Exc (List (String × Value) × List Position))
  | inventory (answer : Answer)

/-- One call. -/
def WorkState.step (s : WorkState) : WorkCall → WorkState × WorkAnswer
  | .createTask now request =>
    (⟨(s.sink.createTask now request).1, s.inventory⟩,
      .created (s.sink.createTask now request).2)
  | .complete now c =>
    ((completeWritebackTask now c s).1, .completed (completeWritebackTask now c s).2)
  | .inventory call => (⟨s.sink, (s.inventory.step call).1⟩, .inventory (s.inventory.step call).2)

/-- Neither tasks nor positions. -/
def WorkState.empty : WorkState := ⟨Dict.empty, .empty⟩

/-- The state after a list of calls. -/
def workRun (calls : List WorkCall) : WorkState := final WorkState.step .empty calls

theorem sink_completeWritebackTask (now : String) (c : Completion) (s : WorkState) :
    (completeWritebackTask now c s).1.sink = (acceptCompletion now c s.sink).1 := by
  unfold completeWritebackTask
  split
  · rename_i heq
    rw [heq]
  · rename_i heq
    rw [heq]

/-- Calls change no completed task. -/
theorem grown_step (s : WorkState) (call : WorkCall) :
    Grown s.sink.entries (s.step call).1.sink.entries := by
  cases call with
  | createTask now request => exact grown_createTask now request s.sink
  | complete now c =>
    show Grown s.sink.entries (completeWritebackTask now c s).1.sink.entries
    rw [sink_completeWritebackTask]
    exact grown_acceptCompletion now c s.sink
  | inventory call => exact grown_refl _

theorem keyed_record {s : Store} (hk : Keyed s.positions) (now : String)
    (task : List (String × Value)) :
    Keyed (recordCompletedInventoryMovement now s task).1.positions := by
  unfold recordCompletedInventoryMovement
  split
  · exact hk
  · exact hk
  · rename_i m _
    have hfirst := keyed_upsert hk now (m.fields m.source 0 "relocated")
    split
    · rename_i heq
      rw [heq] at hfirst
      exact hfirst
    · rename_i s₁ source heq
      rw [heq] at hfirst
      have hsecond := keyed_upsert hfirst now (m.fields m.destination m.units "available")
      split
      · rename_i heq'
        rw [heq'] at hsecond
        exact hsecond
      · rename_i heq'
        rw [heq'] at hsecond
        exact hsecond

theorem keyed_workStep (s : WorkState) (call : WorkCall) (hk : Keyed s.inventory.positions) :
    Keyed (s.step call).1.inventory.positions := by
  cases call with
  | createTask now request => exact hk
  | complete now c =>
    show Keyed (completeWritebackTask now c s).1.inventory.positions
    unfold completeWritebackTask
    split
    · exact hk
    · exact keyed_record hk now _
  | inventory call => exact keyed_step s.inventory call hk

theorem keyed_workRun (calls : List WorkCall) : Keyed (workRun calls).inventory.positions :=
  invariant_final (I := fun s : WorkState => Keyed s.inventory.positions) keyed_workStep keyed_empty
    calls

/-- The tasks after a completion that was accepted, and any calls since. -/
theorem accepted_workRun {before : List WorkCall} {now : String}
    (h : (acceptCompletion now c (workRun before).sink).2 = .ok task) (later : List WorkCall)
    (now' : String) :
    acceptCompletion now' c (workRun (before ++ .complete now c :: later)).sink =
      ((workRun (before ++ .complete now c :: later)).sink, .ok task) := by
  obtain ⟨first, key, haccepted⟩ := accepted_of_ok h
  refine haccepted.again ?_ now'
  unfold workRun
  rw [final_append, final_cons]
  refine invariant_final (I := fun s : WorkState => Grown _ s.sink.entries)
    (fun s call hs => hs.trans (grown_step s call)) ?_ later
  show Grown _ (completeWritebackTask now c (workRun before)).1.sink.entries
  rw [sink_completeWritebackTask]
  exact grown_refl _

/-- The positions after a completion is submitted. -/
def submitted (now : String) (c : Completion) (s : WorkState) : Positions :=
  (completeWritebackTask now c s).1.inventory.positions

theorem view_id (positions : Positions) : positions.view id = positions.entries := List.map_id _

theorem view_eq_iff {a b : Positions} : a.view id = b.view id ↔ a = b := by
  rw [view_id, view_id]
  exact ⟨Dict.ext_entries, fun h => h ▸ rfl⟩

/-- A completion that was accepted, submitted again after any calls: the positions stay exactly as
they are when the movement of its task rests at this very time, and they stay as they are apart from
the time of their last write when it rests. -/
theorem resubmission_keeps_iff {before : List WorkCall} {now : String} {c : Completion}
    {task : List (String × Value)}
    (h : (acceptCompletion now c (workRun before).sink).2 = .ok task) (later : List WorkCall)
    (now' : String) :
    (submitted now' c (workRun (before ++ .complete now c :: later)) =
        (workRun (before ++ .complete now c :: later)).inventory.positions ↔
      ∀ m, movementOf task = .ok (some m) →
        m.Rests (· = now') (workRun (before ++ .complete now c :: later)).inventory.positions) ∧
    ((submitted now' c (workRun (before ++ .complete now c :: later))).view Position.untimed =
        (workRun (before ++ .complete now c :: later)).inventory.positions.view Position.untimed ↔
      ∀ m, movementOf task = .ok (some m) → m.Rests (fun _ => True)
        (workRun (before ++ .complete now c :: later)).inventory.positions) := by
  have hagain := accepted_workRun h later now'
  have hk := keyed_workRun (before ++ .complete now c :: later)
  generalize workRun (before ++ .complete now c :: later) = s at hagain hk ⊢
  have hsubmitted : submitted now' c s =
      (recordCompletedInventoryMovement now' s.inventory task).1.positions := by
    unfold submitted completeWritebackTask
    rw [hagain]
  rw [hsubmitted, ← view_eq_iff]
  by_cases hmovement : ∃ m, movementOf task = .ok (some m)
  · obtain ⟨m, hm⟩ := hmovement
    have hall : ∀ time : String → Prop, (∀ m', movementOf task = .ok (some m') →
        m'.Rests time s.inventory.positions) ↔ m.Rests time s.inventory.positions := by
      intro time
      constructor
      · exact fun hrests => hrests m hm
      · intro hrests m' hm'
        cases hm.symm.trans hm'
        exact hrests
    rw [hall, hall]
    exact ⟨record_view_iff (shows_id now') hk hm, record_view_iff (shows_untimed now') hk hm⟩
  · have hnone : ∀ m, movementOf task ≠ .ok (some m) := fun m hm => hmovement ⟨m, hm⟩
    rw [record_of_no_movement hnone]
    exact ⟨iff_of_true rfl fun m hm => absurd hm (hnone m),
      iff_of_true rfl fun m hm => absurd hm (hnone m)⟩

/-! ## Five units for the shelf -/

/-- The request of a task that moves five units to the shelf. -/
def relocationRequest : TaskRequest where
  idempotencyKey := "decision_4011"
  title := "Move 4011 to the shelf"
  action := [("type", .str "relocate_stock"),
    ("params", .dict [("sku", .str "4011"), ("observed_location", .str "backroom_b"),
      ("expected_location", .str "shelf_a"), ("units", .int 5)])]
  tenantId := "store_a"
  dataDomain := "operational_twin"
  assigneeRole := "manager"
  rollbackInstructions := []

/-- Its completion. -/
def relocationCompletion : Completion where
  taskId := "task_1"
  dataDomain := none
  body := ⟨"MOVE-4011-001", 5, some "shelf_a", none, none, "ZAR", by decide, by decide⟩
  tenantId := "store_a"
  userId := "manager_1"

/-- The task is created. -/
def relocationCreated : List WorkCall := [.createTask "t0" relocationRequest]

/-- A sale of two units from the shelf. -/
def shelfSale : List (String × Value) :=
  [("id", .str "sale_1"), ("tenant_id", .str "store_a"), ("type", .str "sale"),
    ("payload", .dict [("sku", .str "4011"), ("location_id", .str "shelf_a"),
      ("quantity", .int 2)])]

/-- The task as it is completed. -/
def relocationCompleted : List (String × Value) :=
  completedTask "t1" relocationCompletion.receipt (relocationRequest.task "t0" 1)

theorem accepted_relocation :
    (acceptCompletion "t1" relocationCompletion (workRun relocationCreated).sink).2 =
      .ok relocationCompleted := by
  decide +kernel

theorem movementOf_relocation :
    movementOf relocationCompleted = .ok (some relocationEvidence) := by
  decide +kernel

theorem rests_at {m : Movement} {positions : Positions} {k : PositionKey} {quantity : ℤ}
    {state : String}
    (h : (positions.get? k).map (fun p => (p.quantity, p.state.1, p.sourceReference.1, p.binId)) =
      some (quantity, state, strip m.sourceReference, "unassigned")) :
    ∃ p, positions.get? k = some p ∧ m.LeftAt quantity state p ∧ True := by
  obtain ⟨p, hget, heq⟩ := Option.map_eq_some_iff.mp h
  simp only [Prod.mk.injEq] at heq
  obtain ⟨hquantity, hstate, hreference, hbin⟩ := heq
  exact ⟨p, hget, ⟨hquantity, hstate, hreference, hbin⟩, trivial⟩

/-- Submitted again before anything else happens, the completion changes the times at most. -/
theorem resubmission_keeps_relocation :
    (submitted "t2" relocationCompletion
        (workRun (relocationCreated ++ [.complete "t1" relocationCompletion]))).view
          Position.untimed =
      (workRun (relocationCreated ++
        [.complete "t1" relocationCompletion])).inventory.positions.view Position.untimed := by
  refine (resubmission_keeps_iff accepted_relocation [] "t2").2.mpr fun m hm => ?_
  cases movementOf_relocation.symm.trans hm
  exact ⟨fun _ _ => rests_at (by decide +kernel), fun _ _ => rests_at (by decide +kernel)⟩

/-- The task is completed, and two of its five units are sold from the shelf. -/
def soldFromShelf : List WorkCall :=
  relocationCreated ++ .complete "t1" relocationCompletion ::
    [.inventory (.projectEvent "t2" shelfSale)]

/-- Submitted again after the sale, the completion puts five units back on the shelf. -/
theorem resubmission_undoes_sale :
    (acceptCompletion "t1" relocationCompletion (workRun relocationCreated).sink).2 =
        .ok relocationCompleted ∧
      quantityAt (workRun soldFromShelf).inventory.positions (relocationEvidence.keyAt "shelf_a") =
        3 ∧
      quantityAt (submitted "t3" relocationCompletion (workRun soldFromShelf))
        (relocationEvidence.keyAt "shelf_a") = 5 ∧
      submitted "t3" relocationCompletion (workRun soldFromShelf) ≠
        (workRun soldFromShelf).inventory.positions := by
  have hsold : quantityAt (workRun soldFromShelf).inventory.positions
      (relocationEvidence.keyAt "shelf_a") = 3 := by
    decide +kernel
  have hrestored : quantityAt (submitted "t3" relocationCompletion (workRun soldFromShelf))
      (relocationEvidence.keyAt "shelf_a") = 5 := by
    decide +kernel
  refine ⟨accepted_relocation, hsold, hrestored, fun hsame => ?_⟩
  rw [hsame, hsold] at hrestored
  exact absurd hrestored (by decide)

end ShelfWise.Inventory
