import ShelfWise.Contracts.Event

/-!
# The write-back sink

`TaskWriteBackSink` of `shelfwise_connectors/writeback.py`: a manager task under the tenant, the
domain and the idempotency key it was asked for with. The first request creates the task, later
ones get it back. A completed task keeps its receipt, and no call changes it any more (`Grown`).

`now` is the text of the clock. A task is a JSON object.
-/

namespace ShelfWise.Connectors

open Py

/-- The key of a task: tenant, domain and idempotency key. -/
abbrev TaskKey := String × String × String

/-- `TaskWriteBackSink`. -/
abbrev TaskSink := Dict TaskKey (List (String × Value))

/-- What `create_task` is asked for. -/
structure TaskRequest where
  idempotencyKey : String
  title : String
  action : List (String × Value)
  tenantId : String
  dataDomain : String
  assigneeRole : String
  rollbackInstructions : List (String × Value)

/-- The key a request is about. -/
def TaskRequest.key (request : TaskRequest) : TaskKey :=
  (request.tenantId, request.dataDomain, request.idempotencyKey)

/-- The status of a task that nobody has completed. -/
def pendingStatus : String := "pending_external_write"

/-- The task a request creates as the `n`th one. -/
def TaskRequest.task (now : String) (n : ℕ) (request : TaskRequest) : List (String × Value) :=
  [("id", .str ("task_" ++ toString n)), ("idempotency_key", .str request.idempotencyKey),
    ("tenant_id", .str request.tenantId), ("data_domain", .str request.dataDomain),
    ("assignee_role", .str request.assigneeRole), ("title", .str request.title),
    ("action", .dict request.action), ("status", .str pendingStatus),
    ("rollback_instructions", .dict request.rollbackInstructions), ("created_at", .str now),
    ("updated_at", .str now)]

/-- `create_task`. -/
def TaskSink.createTask (now : String) (request : TaskRequest) (sink : TaskSink) :
    TaskSink × List (String × Value) :=
  match sink.get? request.key with
  | some existing => (sink, existing)
  | none =>
    let task := request.task now (sink.entries.length + 1)
    (sink.set request.key task, task)

/-- The task under a key is there and open. -/
def TaskSink.Open (sink : TaskSink) (key : TaskKey) : Prop :=
  ∃ task, sink.get? key = some task ∧ Value.get task "status" = .str pendingStatus

theorem TaskRequest.status_task (now : String) (n : ℕ) (request : TaskRequest) :
    Value.get (request.task now n) "status" = .str pendingStatus := rfl

/-- After a request its key has the task it was answered with. -/
theorem TaskSink.get?_createTask_self (now : String) (request : TaskRequest) (sink : TaskSink) :
    (sink.createTask now request).1.get? request.key = some (sink.createTask now request).2 := by
  unfold TaskSink.createTask
  cases hget : sink.get? request.key with
  | some existing => exact hget
  | none => exact Dict.get?_set_self sink request.key _

/-- A request leaves the other keys alone. -/
theorem TaskSink.get?_createTask_ne (now : String) {request : TaskRequest} (sink : TaskSink)
    {key : TaskKey} (h : request.key ≠ key) :
    (sink.createTask now request).1.get? key = sink.get? key := by
  unfold TaskSink.createTask
  cases sink.get? request.key with
  | some existing => rfl
  | none => exact Dict.get?_set_ne sink h _

/-- A task that is there stays as it is. -/
theorem TaskSink.get?_createTask_of_some (now : String) (request : TaskRequest) {sink : TaskSink}
    {key : TaskKey} {task : List (String × Value)} (h : sink.get? key = some task) :
    (sink.createTask now request).1.get? key = some task := by
  by_cases hkey : request.key = key
  · subst hkey
    rw [TaskSink.createTask, h]
    exact h
  · rw [sink.get?_createTask_ne now hkey]
    exact h

/-! ## Completion -/

/-- The status of a task that is completed. -/
def completedStatus : String := "completed"

/-- `list` of a tenant, and of one domain when it is given. -/
def TaskSink.list (sink : TaskSink) (tenantId : String) (dataDomain : Option String) :
    List (List (String × Value)) :=
  sink.values.filter fun task => (Value.get task "tenant_id").eq (.str tenantId) &&
    dataDomain.all fun domain => (Value.get task "data_domain").eq (.str domain)

/-- The task has this id, and is one of this tenant and this domain. -/
def isTask (taskId tenantId dataDomain : String) (task : List (String × Value)) : Bool :=
  (Value.get task "id").eq (.str taskId) && (Value.get task "tenant_id").eq (.str tenantId) &&
    (Value.get task "data_domain").eq (.str dataDomain)

/-- The task with its receipt. -/
def completedTask (now : String) (receipt task : List (String × Value)) : List (String × Value) :=
  Value.updateItems task [("status", .str completedStatus), ("completion_receipt", .dict receipt),
    ("completed_at", .str now), ("updated_at", .str now)]

/-- `complete_task`. -/
def TaskSink.completeTask (now taskId tenantId : String) (receipt : List (String × Value))
    (dataDomain : String) (sink : TaskSink) :
    TaskSink × Except Exc (Option (List (String × Value))) :=
  match sink.entries.find? fun e => isTask taskId tenantId dataDomain e.2 with
  | none => (sink, .ok none)
  | some (key, task) =>
    if (Value.get task "status").eq (.str completedStatus) then
      if (Value.get task "completion_receipt").eq (.dict receipt) then (sink, .ok (some task))
      else (sink, .error (.valueError "task already has a different completion receipt"))
    else
      (sink.set key (completedTask now receipt task), .ok (some (completedTask now receipt task)))

/-- A task at two times: what it was created with is the same, and a completed task is the same
altogether. -/
structure SameTask (task task' : List (String × Value)) : Prop where
  id : Value.get task' "id" = Value.get task "id"
  tenantId : Value.get task' "tenant_id" = Value.get task "tenant_id"
  dataDomain : Value.get task' "data_domain" = Value.get task "data_domain"
  action : Value.get task' "action" = Value.get task "action"
  completed : Value.get task "status" = .str completedStatus → task' = task

theorem SameTask.refl (task : List (String × Value)) : SameTask task task :=
  ⟨rfl, rfl, rfl, rfl, fun _ => rfl⟩

theorem SameTask.trans {task₁ task₂ task₃ : List (String × Value)} (h : SameTask task₁ task₂)
    (h' : SameTask task₂ task₃) : SameTask task₁ task₃ where
  id := h'.id.trans h.id
  tenantId := h'.tenantId.trans h.tenantId
  dataDomain := h'.dataDomain.trans h.dataDomain
  action := h'.action.trans h.action
  completed := by
    intro hcompleted
    have hsame := h.completed hcompleted
    subst hsame
    exact h'.completed hcompleted

theorem sameTask_completedTask (now : String) (receipt : List (String × Value))
    {task : List (String × Value)} (h : Value.get task "status" ≠ .str completedStatus) :
    SameTask task (completedTask now receipt task) where
  id := Value.get_updateItems_of_not_mem (by simp) _
  tenantId := Value.get_updateItems_of_not_mem (by simp) _
  dataDomain := Value.get_updateItems_of_not_mem (by simp) _
  action := Value.get_updateItems_of_not_mem (by simp) _
  completed := fun hcompleted => absurd hcompleted h

theorem isTask_of_sameTask {taskId tenantId dataDomain : String}
    {task task' : List (String × Value)} (h : SameTask task task') :
    isTask taskId tenantId dataDomain task' = isTask taskId tenantId dataDomain task := by
  unfold isTask
  rw [h.id, h.tenantId, h.dataDomain]

/-- The entries of a sink at two times: every task keeps its place, and new ones stand behind. -/
inductive Grown : List (TaskKey × List (String × Value)) →
    List (TaskKey × List (String × Value)) → Prop where
  | nil (added : List (TaskKey × List (String × Value))) : Grown [] added
  | cons {e e' : TaskKey × List (String × Value)}
      {entries entries' : List (TaskKey × List (String × Value))} (hkey : e'.1 = e.1)
      (hsame : SameTask e.2 e'.2) (hrest : Grown entries entries') :
      Grown (e :: entries) (e' :: entries')

theorem grown_refl (entries : List (TaskKey × List (String × Value))) : Grown entries entries := by
  induction entries with
  | nil => exact .nil []
  | cons e entries ih => exact .cons rfl (SameTask.refl e.2) ih

theorem Grown.trans {entries₁ entries₂ entries₃ : List (TaskKey × List (String × Value))}
    (h : Grown entries₁ entries₂) (h' : Grown entries₂ entries₃) : Grown entries₁ entries₃ := by
  induction h generalizing entries₃ with
  | nil added => exact .nil entries₃
  | cons hkey hsame _ ih =>
    cases h' with
    | cons hkey' hsame' hrest' =>
      exact .cons (hkey'.trans hkey) (hsame.trans hsame') (ih hrest')

/-- A task that is stored under its key, or under a fresh one. -/
theorem grown_setEntries {key : TaskKey} {task : List (String × Value)}
    {entries : List (TaskKey × List (String × Value))}
    (h : ∀ old, Dict.lookup key entries = some old → SameTask old task) :
    Grown entries (Dict.setEntries key task entries) := by
  induction entries with
  | nil => exact .nil _
  | cons e entries ih =>
    obtain ⟨key', old⟩ := e
    rw [Dict.lookup] at h
    rw [Dict.setEntries]
    split
    · rename_i heq
      rw [if_pos heq] at h
      exact .cons heq.symm (h old rfl) (grown_refl entries)
    · rename_i hne
      rw [if_neg hne] at h
      exact .cons rfl (SameTask.refl old) (ih h)

/-- What is found by what a task was created with is found at the later time. -/
theorem Grown.find? {entries entries' : List (TaskKey × List (String × Value))}
    (h : Grown entries entries') {p : List (String × Value) → Bool}
    (hp : ∀ task task', SameTask task task' → p task' = p task)
    {e : TaskKey × List (String × Value)} (hfind : entries.find? (fun e => p e.2) = some e) :
    ∃ e', entries'.find? (fun e => p e.2) = some e' ∧ e'.1 = e.1 ∧ SameTask e.2 e'.2 := by
  induction h with
  | nil added => cases hfind
  | @cons first first' entries entries' hkey hsame _ ih =>
    rw [List.find?_cons] at hfind ⊢
    rw [hp _ _ hsame]
    cases hfirst : p first.2 with
    | true =>
      rw [hfirst] at hfind
      cases hfind
      exact ⟨first', rfl, hkey, hsame⟩
    | false =>
      rw [hfirst] at hfind
      exact ih hfind

theorem grown_createTask (now : String) (request : TaskRequest) (sink : TaskSink) :
    Grown sink.entries (sink.createTask now request).1.entries := by
  unfold TaskSink.createTask
  cases hget : sink.get? request.key with
  | some existing => exact grown_refl _
  | none =>
    refine grown_setEntries fun old hold => ?_
    cases hget.symm.trans hold

theorem grown_completeTask (now taskId tenantId : String) (receipt : List (String × Value))
    (dataDomain : String) (sink : TaskSink) :
    Grown sink.entries
      (sink.completeTask now taskId tenantId receipt dataDomain).1.entries := by
  unfold TaskSink.completeTask
  split
  · exact grown_refl _
  · rename_i key task hfind
    split
    · split
      · exact grown_refl _
      · exact grown_refl _
    · rename_i hopen
      refine grown_setEntries fun old hold => ?_
      have hmem : (key, task) ∈ sink.entries := List.mem_of_find?_eq_some hfind
      have hget : Dict.lookup key sink.entries = some task :=
        (sink.mem_entries_iff key task).mp hmem
      cases hget.symm.trans hold
      rw [Value.eq_str, decide_eq_true_eq] at hopen
      exact sameTask_completedTask now receipt hopen

/-- The task is completed with the receipt. -/
structure CompletedWith (sink : TaskSink) (taskId tenantId dataDomain : String)
    (receipt : List (String × Value)) (key : TaskKey) (task : List (String × Value)) : Prop where
  found : sink.entries.find? (fun e => isTask taskId tenantId dataDomain e.2) = some (key, task)
  status : Value.get task "status" = .str completedStatus
  receipt : (Value.get task "completion_receipt").eq (.dict receipt) = true

/-- What `complete_task` returns is completed. -/
theorem completedWith_of_completeTask {now taskId tenantId dataDomain : String}
    {receipt : List (String × Value)} {sink : TaskSink} {task : List (String × Value)}
    (h : (sink.completeTask now taskId tenantId receipt dataDomain).2 = .ok (some task)) :
    ∃ key, CompletedWith (sink.completeTask now taskId tenantId receipt dataDomain).1 taskId
      tenantId dataDomain receipt key task := by
  have hgrown := grown_completeTask now taskId tenantId receipt dataDomain sink
  unfold TaskSink.completeTask at h hgrown ⊢
  cases hfind : sink.entries.find? fun e => isTask taskId tenantId dataDomain e.2 with
  | none =>
    rw [hfind] at h
    cases h
  | some e =>
    obtain ⟨key, found⟩ := e
    rw [hfind] at h hgrown
    dsimp only at h hgrown ⊢
    split at h
    · rename_i hstatus
      rw [if_pos hstatus]
      split at h
      · rename_i hreceipt
        cases h
        rw [if_pos hreceipt]
        rw [Value.eq_str, decide_eq_true_eq] at hstatus
        exact ⟨key, hfind, hstatus, hreceipt⟩
      · cases h
    · rename_i hopen
      rw [if_neg hopen] at hgrown ⊢
      cases h
      obtain ⟨⟨key', task'⟩, hfind', hkey, -⟩ := hgrown.find?
        (fun task task' hsame => isTask_of_sameTask hsame) hfind
      have hkey' : key' = key := hkey
      subst hkey'
      have hget := ((sink.set key' (completedTask now receipt found)).mem_entries_iff key' task').mp
        (List.mem_of_find?_eq_some hfind')
      rw [Dict.get?_set_self] at hget
      cases hget
      refine ⟨key', hfind', ?_, ?_⟩
      · exact Value.get_updateItems_of_mem (by simp) (by simp) _
      · have hreceipt : Value.get (completedTask now receipt found) "completion_receipt" =
            .dict receipt := Value.get_updateItems_of_mem (by simp) (by simp) _
        rw [hreceipt, Value.eq_self]

/-- A completed task stays, and the same receipt gets it back. -/
theorem CompletedWith.again {sink sink' : TaskSink} {taskId tenantId dataDomain : String}
    {receipt : List (String × Value)} {key : TaskKey} {task : List (String × Value)}
    (h : CompletedWith sink taskId tenantId dataDomain receipt key task)
    (hgrown : Grown sink.entries sink'.entries) (now : String) :
    sink'.completeTask now taskId tenantId receipt dataDomain = (sink', .ok (some task)) := by
  obtain ⟨⟨key', task'⟩, hfind, hkey, hsame⟩ := hgrown.find?
    (fun task task' hsame => isTask_of_sameTask hsame) h.found
  have htask : task' = task := hsame.completed h.status
  subst htask
  unfold TaskSink.completeTask
  rw [hfind]
  dsimp only
  rw [if_pos (by rw [h.status, Value.eq_self]), if_pos h.receipt]

end ShelfWise.Connectors
