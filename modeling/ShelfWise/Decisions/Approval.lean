import ShelfWise.Memory.Learning
import ShelfWise.Connectors.Writeback
import ShelfWise.Sys.Program
import ShelfWise.Sys.Run

/-!
# The review of a decision

`approve_decision` and `reject_decision` of `shelfwise_backend/app.py`, over the in-memory stores: a
verdict is a transition of the decision store, a learning event, a write-back task when the verdict
is an approval, and an annotation of the decision, each in a store of its own. A call of a store is
one atomic step.

Both routes return early when the decision has the verdict of the other one. `approve_decision` does
so before it looks at the correction in the request; `reject_decision` annotates the decision with
the correction first. `served` says what a request that runs to its end does to the decision.
-/

namespace ShelfWise.Decisions

open Py Sys Memory Connectors

/-! ## Callers -/

/-- `TenantContext`, as far as the routes read it. -/
structure TenantContext where
  tenantId : String
  userId : String
deriving DecidableEq

/-- `SHELFWISE_AUTH_MODE`: without authentication every caller has the default context. -/
inductive AuthMode where
  | off (context : TenantContext)
  | jwt
deriving DecidableEq

/-- `current_tenant_context`, of a caller whose token has been verified when there has to be one. -/
def AuthMode.contextOf : AuthMode → TenantContext → TenantContext
  | .off context, _ => context
  | .jwt, verified => verified

/-- `str(decision.get("tenant_id") or "").strip()`. -/
def stampedTenant (decision : Decision) : String :=
  strip ((Value.get decision "tenant_id").orElse (.str "")).toText

/-- `_owned_by`. -/
def ownedBy (decision : Decision) (tenantId : String) : Bool :=
  stampedTenant decision ≠ "" ∧ stampedTenant decision = tenantId

/-- `decision_tenant_id`. -/
def decisionTenantId (decision : Decision) (fallback : String) : String :=
  if stampedTenant decision = "" then fallback else stampedTenant decision

/-- `decision_action`. -/
def decisionAction (decision : Decision) : List (String × Value) := (Value.get decision "action").items

/-! ## Requests -/

/-- The two routes. -/
inductive Verb where
  | approve
  | reject
deriving DecidableEq

namespace Verb

/-- `decision_action` of `as_correction`. -/
def value : Verb → String
  | approve => "approve"
  | reject => "reject"

/-- The status the route moves a decision to. -/
def status : Verb → String
  | approve => "approved"
  | reject => "rejected"

end Verb

/-- `DecisionCorrectionBody`. -/
structure DecisionCorrectionBody where
  reviewer : Option String
  reason : Option String
  overrideAction : Option (List (String × Value))
deriving DecidableEq

/-- `as_correction`. -/
def DecisionCorrectionBody.asCorrection (body : DecisionCorrectionBody) (verb : Verb) :
    Option (List (String × Value)) :=
  if body.reviewer = none ∧ body.reason = none ∧ body.overrideAction.isNone then none
  else some [("decision", .str verb.value), ("reviewer", optionalText body.reviewer),
    ("reason", optionalText body.reason),
    ("override_action", match body.overrideAction with
      | none => .none
      | some items => .dict items)]

/-- A request to one of the routes, with what the clock shows. -/
structure ReviewRequest where
  verb : Verb
  now : String
  verified : TenantContext
  body : Option DecisionCorrectionBody
deriving DecidableEq

/-- The correction a request brings. -/
def ReviewRequest.correction (r : ReviewRequest) : Option (List (String × Value)) :=
  r.body.bind fun body => body.asCorrection r.verb

variable {r : ReviewRequest}

theorem ReviewRequest.decision_correction {items : List (String × Value)}
    (h : r.correction = some items) : Value.get items "decision" = .str r.verb.value := by
  obtain ⟨body, -, hbody⟩ := Option.bind_eq_some_iff.mp h
  unfold DecisionCorrectionBody.asCorrection at hbody
  split at hbody
  · cases hbody
  · cases hbody
    rfl

/-! ## Stores -/

/-- The stores a review writes to. -/
structure Desk where
  decisions : Store
  learning : LearningStore
  sink : TaskSink

/-- The atomic steps of a review. -/
inductive DeskOp where
  | getDecision
  | transition
  | recordLearning
  | createTask
  | annotate
deriving DecidableEq

namespace Desk

/-- `decision_store.get`; an empty record counts as none. -/
def getDecision (id : String) (s : Desk) : Desk × Option Decision :=
  (s, (s.decisions.get? id).filter fun item => !item.isEmpty)

/-- `decision_store.approve` and `decision_store.reject`. -/
def transition (now id status reviewer : String) (s : Desk) :
    Desk × Except Exc (Option Decision) :=
  let answer := Decisions.transition now id status reviewer s.decisions
  ({ s with decisions := answer.1 }, answer.2)

/-- `decision_store.annotate`. -/
def annotate (now id : String) (fields : Decision) (s : Desk) : Desk × Option Decision :=
  let answer := Decisions.annotate now id fields s.decisions
  ({ s with decisions := answer.1 }, answer.2)

/-- `learning_store.record_approved_decision`. -/
def recordApproved (now : String) (decision : Decision) (s : Desk) :
    Desk × Except Exc LearningEvent :=
  let answer := s.learning.recordApprovedDecision now decision
  ({ s with learning := answer.1 }, answer.2)

/-- `learning_store.record_rejected_decision`. -/
def recordRejected (now : String) (decision : Decision) (s : Desk) :
    Desk × Except Exc LearningEvent :=
  let answer := s.learning.recordRejectedDecision now decision
  ({ s with learning := answer.1 }, answer.2)

/-- `writeback_sink.create_task`. -/
def createTask (now : String) (request : TaskRequest) (s : Desk) : Desk × List (String × Value) :=
  let answer := s.sink.createTask now request
  ({ s with sink := answer.1 }, answer.2)

end Desk

/-! ## Routes -/

/-- What a route returns. -/
structure ReviewResponse where
  decision : Decision
  learningEvent : Option LearningEvent

/-- `HTTPException(status_code=404, detail="Decision not found")`. -/
def decisionNotFound : Exc := .httpException 404 "Decision not found"

/-- `reject_cross_tenant_decision_access`. -/
def rejectCrossTenantDecisionAccess (auth : AuthMode) (id : String) (ctx : TenantContext) :
    Program DeskOp Desk (Except Exc Unit) :=
  match auth with
  | .off _ => .ret (.ok ())
  | .jwt => Program.call .getDecision (Desk.getDecision id) >>= fun existing =>
    .ret (if existing.any fun decision => !ownedBy decision ctx.tenantId then
      .error decisionNotFound else .ok ())

/-- The write-back task that `approve_decision` asks for. -/
def writebackRequest (id : String) (decision : Decision) (ctx : TenantContext) : TaskRequest where
  idempotencyKey := "writeback:" ++ id
  title := "Review " ++ ((Value.get (decisionAction decision) "type").orElse (.str "action")).toText
    ++ " for " ++ id
  action := decisionAction decision
  tenantId := decisionTenantId decision ctx.tenantId
  dataDomain := ((Value.get decision "data_domain").orElse (.str "world_simulation")).toText
  assigneeRole := ((Value.get decision "role").orElse (.str "manager")).toText
  rollbackInstructions := [("policy", .str "recommend_only_no_source_mutation"),
    ("rollback", .str "cancel_pending_manager_task_before_source_write"), ("decision_id", .str id)]

/-- `decision.get("write_back") or writeback_sink.create_task(...)`. -/
def writeBack (now id : String) (decision : Decision) (ctx : TenantContext) :
    Program DeskOp Desk Value :=
  if (Value.get decision "write_back").truthy then .ret (Value.get decision "write_back")
  else Program.call .createTask (Desk.createTask now (writebackRequest id decision ctx)) >>=
    fun task => .ret (.dict task)

/-- `annotations`. -/
def annotations (event : LearningEvent) (task : Value) (correction : Option (List (String × Value))) :
    Decision :=
  [("outcome", .dict event.outcome), ("learning_event", .dict event.toDict), ("write_back", task)] ++
    (match correction with
      | none => []
      | some items => [("correction", .dict items)])

/-- The end of `approve_decision`: the annotation with both effects. -/
def annotateApproved (id : String) (r : ReviewRequest) (event : LearningEvent) (task : Value) :
    Program DeskOp Desk (Except Exc ReviewResponse) :=
  Program.call .annotate (Desk.annotate r.now id (annotations event task r.correction)) >>=
    fun updated => match updated with
      | none => .ret (.error decisionNotFound)
      | some updated => .ret (.ok ⟨updated, some event⟩)

/-- `approve_decision` from the approved decision on. -/
def approveApproved (id : String) (r : ReviewRequest) (ctx : TenantContext) (decision : Decision) :
    Program DeskOp Desk (Except Exc ReviewResponse) :=
  (Program.call .recordLearning (Desk.recordApproved r.now decision)).bindExcept fun event =>
    writeBack r.now id decision ctx >>= annotateApproved id r event

/-- `approve_decision`. -/
def approveDecision (auth : AuthMode) (id : String) (r : ReviewRequest) :
    Program DeskOp Desk (Except Exc ReviewResponse) :=
  let ctx := auth.contextOf r.verified
  (rejectCrossTenantDecisionAccess auth id ctx).bindExcept fun _ =>
    (Program.call .transition (Desk.transition r.now id "approved" ctx.userId)).bindExcept
      fun decision => match decision with
        | none => .ret (.error decisionNotFound)
        | some decision =>
          if Value.get decision "status" ≠ .str "approved" then .ret (.ok ⟨decision, none⟩)
          else approveApproved id r ctx decision

/-- `reject_decision` from the decision with its correction on. -/
def rejectCorrected (id : String) (r : ReviewRequest) (decision : Decision) :
    Program DeskOp Desk (Except Exc ReviewResponse) :=
  if Value.get decision "status" ≠ .str "rejected" then .ret (.ok ⟨decision, none⟩)
  else (Program.call .recordLearning (Desk.recordRejected r.now decision)).bindExcept fun event =>
    Program.call .annotate (Desk.annotate r.now id
        [("outcome", .dict event.outcome), ("learning_event", .dict event.toDict)]) >>=
      fun updated => .ret (.ok ⟨updated.getD decision, some event⟩)

/-- `reject_decision` from the decision it has got: the correction is annotated first. -/
def rejectTransitioned (id : String) (r : ReviewRequest) (decision : Decision) :
    Program DeskOp Desk (Except Exc ReviewResponse) :=
  match r.correction with
  | none => rejectCorrected id r decision
  | some items =>
    Program.call .annotate (Desk.annotate r.now id [("correction", .dict items)]) >>=
      fun updated => rejectCorrected id r (updated.getD decision)

/-- `reject_decision`. -/
def rejectDecision (auth : AuthMode) (id : String) (r : ReviewRequest) :
    Program DeskOp Desk (Except Exc ReviewResponse) :=
  let ctx := auth.contextOf r.verified
  (rejectCrossTenantDecisionAccess auth id ctx).bindExcept fun _ =>
    (Program.call .transition (Desk.transition r.now id "rejected" ctx.userId)).bindExcept
      fun decision => match decision with
        | none => .ret (.error decisionNotFound)
        | some decision => rejectTransitioned id r decision

/-- The route of a request. -/
def review (auth : AuthMode) (id : String) (r : ReviewRequest) :
    Program DeskOp Desk (Except Exc ReviewResponse) :=
  match r.verb with
  | .approve => approveDecision auth id r
  | .reject => rejectDecision auth id r

/-- A request that runs to its end. -/
def serve (auth : AuthMode) (id : String) (s : Desk) (r : ReviewRequest) :
    Desk × Except Exc ReviewResponse :=
  (review auth id r).run s

/-! ## Steps on one decision -/

/-- The caller passes the check of `reject_cross_tenant_decision_access`. -/
def Admitted (auth : AuthMode) (decision : Decision) (verified : TenantContext) : Prop :=
  match auth with
  | .off _ => True
  | .jwt => ownedBy decision verified.tenantId = true

instance (auth : AuthMode) (decision : Decision) (verified : TenantContext) :
    Decidable (Admitted auth decision verified) := by
  cases auth <;> unfold Admitted <;> infer_instance

section Steps

variable {I : DeskOp → Desk → Prop} {Q : Except Exc ReviewResponse → Desk → Prop}

/-- A caller who is not admitted gets a 404, the others get on with the same stores. -/
theorem through_access {auth : AuthMode} {id : String} {verified : TenantContext} {s : Desk}
    {decision : Decision} {k : Unit → Program DeskOp Desk (Except Exc ReviewResponse)}
    (hget : s.decisions.get? id = some decision) (hne : decision ≠ []) (hI : I .getDecision s)
    (hk : if Admitted auth decision verified then (k ()).Through I Q s
      else Q (.error decisionNotFound) s) :
    ((rejectCrossTenantDecisionAccess auth id (auth.contextOf verified)).bindExcept k).Through
      I Q s := by
  cases auth with
  | off context => exact hk
  | jwt =>
    have hanswer : (Desk.getDecision id s).2 = some decision := by
      have hnonempty : decision.isEmpty = false := by simpa using hne
      simp [Desk.getDecision, hget, hnonempty]
    refine Program.through_bindExcept (Program.through_call_bind.mpr ⟨hI, ?_⟩)
    rw [hanswer]
    by_cases hadmitted : ownedBy decision verified.tenantId
    · have hcheck : (some decision).any (fun decision =>
          !ownedBy decision (AuthMode.jwt.contextOf verified).tenantId) = false := by
        simpa [AuthMode.contextOf] using hadmitted
      simp only [hcheck, Bool.false_eq_true, if_false]
      exact (if_pos hadmitted).mp hk
    · have hcheck : (some decision).any (fun decision =>
          !ownedBy decision (AuthMode.jwt.contextOf verified).tenantId) = true := by
        simpa [AuthMode.contextOf] using hadmitted
      simp only [hcheck, if_true]
      exact (if_neg hadmitted).mp hk

theorem isTerminalStatus_str (status : String) :
    isTerminalStatus (.str status) = .ok (decide (status = "approved" ∨ status = "rejected")) := by
  simp [isTerminalStatus]

/-- A transition moves a decision that has no verdict yet. -/
theorem transition_eq {id status' : String} {s : Desk} {decision : Decision}
    (hget : s.decisions.get? id = some decision)
    (hstatus : Value.get decision "status" = .str status') (now status reviewer : String) :
    Desk.transition now id status reviewer s =
      if status' = "approved" ∨ status' = "rejected" then (s, .ok (some decision))
      else ({ s with decisions := s.decisions.set id (reviewed now status reviewer decision) },
        .ok (some (reviewed now status reviewer decision))) := by
  unfold Desk.transition Decisions.transition
  rw [hget]
  dsimp only
  rw [hstatus, isTerminalStatus_str]
  by_cases hterminal : status' = "approved" ∨ status' = "rejected"
  · simp [hterminal]
  · simp [hterminal]

theorem annotate_eq {id : String} {s : Desk} {decision : Decision}
    (hget : s.decisions.get? id = some decision) (now : String) (fields : Decision) :
    Desk.annotate now id fields s =
      ({ s with decisions := s.decisions.set id (annotated now decision fields) },
        some (annotated now decision fields)) := by
  unfold Desk.annotate Decisions.annotate
  rw [hget]

end Steps

theorem get_annotated_last (now : String) (current fields : Decision) {key : String}
    (h : key ≠ "updated_at") (value : Value) :
    Value.get (annotated now current (fields ++ [(key, value)])) key = value := by
  rw [annotated, Value.get_setItem, if_neg (Ne.symm h), Value.updateItems, List.foldl_append]
  exact (Value.get_setItem _ _ _ _).trans (if_pos rfl)

/-! ## What a request does to the decision -/

/-- A request of the verb has found or given the decision its verdict, and has left no correction
but its own. -/
structure Settled (r : ReviewRequest) (before after : Decision) : Prop where
  status : Value.get after "status" = .str r.verb.status
  tenant : Value.get after "tenant_id" = Value.get before "tenant_id"
  correction : Value.get after "correction" = Value.get before "correction" ∨
    ∃ items, r.correction = some items ∧ Value.get after "correction" = .dict items

/-- The decision under an id has become one with the property. -/
def HasDecision (id : String) (P : Decision → Prop) (s : Desk) : Prop :=
  ∃ decision, s.decisions.get? id = some decision ∧ P decision

variable {fields : Decision}

theorem Settled.annotated {before after : Decision} (h : Settled r before after) (now : String)
    (names : List String) (hnames : fields.map Prod.fst = names)
    (hfields : ∀ key ∈ ["status", "tenant_id", "correction"], key ∉ names) :
    Settled r before (annotated now after fields) := by
  have hkeep : ∀ key ∈ ["status", "tenant_id", "correction"],
      Value.get (Decisions.annotated now after fields) key = Value.get after key := by
    intro key hkey
    apply get_annotated_of_not_mem
    rw [List.mem_cons, not_or]
    refine ⟨?_, hnames ▸ hfields key hkey⟩
    rintro rfl
    revert hkey
    decide
  constructor
  · rw [hkeep "status" (by decide)]
    exact h.status
  · rw [hkeep "tenant_id" (by decide)]
    exact h.tenant
  · rw [hkeep "correction" (by decide)]
    exact h.correction

/-- An annotation with the correction of the request among its fields. -/
theorem Settled.corrected {before after : Decision} (h : Settled r before after) (now : String)
    {items : List (String × Value)} (hcorrection : r.correction = some items) (names : List String)
    (hnames : fields.map Prod.fst = names) (hfields : ∀ key ∈ ["status", "tenant_id"], key ∉ names) :
    Settled r before (Decisions.annotated now after (fields ++ [("correction", .dict items)])) := by
  have hkeep : ∀ key ∈ ["status", "tenant_id"], Value.get
      (Decisions.annotated now after (fields ++ [("correction", .dict items)])) key =
        Value.get after key := by
    intro key hkey
    apply get_annotated_of_not_mem
    have hnot := hfields key hkey
    rw [← hnames] at hnot
    simp only [List.mem_cons, List.not_mem_nil, or_false] at hkey
    rcases hkey with rfl | rfl <;> simpa using hnot
  constructor
  · rw [hkeep "status" (by decide)]
    exact h.status
  · rw [hkeep "tenant_id" (by decide)]
    exact h.tenant
  · exact .inr ⟨items, hcorrection, get_annotated_last now after fields (by decide) _⟩

theorem settled_reviewed (now reviewer : String) (decision : Decision) :
    Settled r decision (reviewed now r.verb.status reviewer decision) where
  status := get_reviewed_status _ _ _ _
  tenant := get_reviewed_of_not_mem _ _ _ _ (by decide)
  correction := .inl (get_reviewed_of_not_mem _ _ _ _ (by decide))

variable {decision : Decision}

theorem settled_refl (h : Value.get decision "status" = .str r.verb.status) :
    Settled r decision decision :=
  ⟨h, rfl, .inl rfl⟩

/-- The end of a request, whatever happens at its steps. -/
abbrev Ends (p : Program DeskOp Desk (Except Exc ReviewResponse)) (Q : Desk → Prop) (s : Desk) :
    Prop :=
  p.Through (fun _ _ => True) (fun _ => Q) s

variable {s : Desk}

theorem ends_annotate {id now : String} {P P' : Decision → Prop}
    {k : Option Decision → Program DeskOp Desk (Except Exc ReviewResponse)} (h : HasDecision id P s)
    (hannotated : ∀ decision, P decision → P' (annotated now decision fields))
    (hk : ∀ updated s, HasDecision id P' s → Ends (k updated) (HasDecision id P') s) :
    Ends (Program.call .annotate (Desk.annotate now id fields) >>= k) (HasDecision id P') s := by
  obtain ⟨decision, hget, hP⟩ := h
  refine Program.through_call_bind.mpr ⟨trivial, ?_⟩
  rw [annotate_eq hget]
  exact hk _ _ ⟨_, Dict.get?_set_self _ _ _, hannotated decision hP⟩

variable {id : String}

theorem ends_approveApproved {before : Decision} (ctx : TenantContext) (decision : Decision)
    (h : HasDecision id (Settled r before) s) :
    Ends (approveApproved id r ctx decision) (HasDecision id (Settled r before)) s := by
  refine Program.through_call_bindExcept trivial ?_
  cases (Desk.recordApproved r.now decision s).2 with
  | error e => exact h
  | ok event =>
    -- the learning store and the sink are not where the decision is
    have hannotate : ∀ task s, HasDecision id (Settled r before) s →
        Ends (annotateApproved id r event task) (HasDecision id (Settled r before)) s := by
      intro task s hs
      refine ends_annotate hs (fun d hd => ?_) fun updated s hs => ?_
      · cases hcorrection : r.correction with
        | none =>
          exact hd.annotated r.now ["outcome", "learning_event", "write_back"] rfl (by decide)
        | some items =>
          exact hd.corrected r.now hcorrection ["outcome", "learning_event", "write_back"] rfl
            (by decide)
      · cases updated <;> exact hs
    refine Program.through_bind ?_
    unfold writeBack
    split
    · exact hannotate _ _ h
    · exact Program.through_call_bind.mpr ⟨trivial, hannotate _ _ h⟩

theorem ends_rejectCorrected {before : Decision} (decision : Decision)
    (h : HasDecision id (Settled r before) s) :
    Ends (rejectCorrected id r decision) (HasDecision id (Settled r before)) s := by
  unfold rejectCorrected
  split
  · exact h
  · refine Program.through_call_bindExcept trivial ?_
    cases (Desk.recordRejected r.now decision s).2 with
    | error e => exact h
    | ok event =>
      exact ends_annotate (P := Settled r before) h (fun d hd =>
        hd.annotated r.now ["outcome", "learning_event"] rfl (by decide)) fun _ _ hs => hs

/-- The statuses of a decision that waits for a verdict or has one. -/
def isReviewStatus (status : String) : Prop :=
  status = "pending" ∨ status = "approved" ∨ status = "rejected"

variable {status : String}

theorem ne_nil_of_status (h : Value.get decision "status" = .str status) : decision ≠ [] := by
  rintro rfl
  cases h

/-- What `approve_decision` does to a decision. -/
theorem ends_approveDecision (auth : AuthMode) (hverb : r.verb = .approve)
    (hget : s.decisions.get? id = some decision)
    (hstatus : Value.get decision "status" = .str status) (hknown : isReviewStatus status) :
    Ends (approveDecision auth id r) (HasDecision id fun after =>
      if Admitted auth decision r.verified ∧ status ≠ "rejected" then Settled r decision after
      else after = decision) s := by
  refine through_access hget (ne_nil_of_status hstatus) trivial ?_
  by_cases hadmitted : Admitted auth decision r.verified
  · simp only [hadmitted, if_true, true_and]
    refine Program.through_call_bindExcept trivial ?_
    rw [transition_eq hget hstatus]
    rcases hknown with rfl | rfl | rfl
    · -- a pending decision gets the verdict
      have hsettled := settled_reviewed (r := r) r.now (auth.contextOf r.verified).userId decision
      rw [hverb] at hsettled
      have happroved := get_reviewed_status r.now "approved" (auth.contextOf r.verified).userId
        decision
      simp only [String.reduceEq, or_self, if_false, ne_eq, not_false_eq_true, if_true, happroved]
      exact ends_approveApproved _ _ ⟨_, Dict.get?_set_self _ _ _, hsettled⟩
    · have hsettled : Settled r decision decision := settled_refl (by rw [hverb]; exact hstatus)
      simp only [String.reduceEq, true_or, if_true, ne_eq, not_false_eq_true, hstatus,
        not_true_eq_false, if_false]
      exact ends_approveApproved _ _ ⟨_, hget, hsettled⟩
    · -- the verdict of the other route is answered with
      simp only [String.reduceEq, or_true, if_true, ne_eq, hstatus, Value.str.injEq,
        not_false_eq_true, not_true_eq_false, if_false]
      exact ⟨decision, hget, rfl⟩
  · simp only [hadmitted, if_false, false_and]
    exact ⟨decision, hget, rfl⟩

/-- The decision that `reject_decision` leaves of an approved one. -/
def lateRejected (r : ReviewRequest) (decision : Decision) : Decision :=
  match r.correction with
  | none => decision
  | some items => annotated r.now decision [("correction", .dict items)]

/-- What `reject_decision` does to a decision. -/
theorem ends_rejectDecision (auth : AuthMode) (hverb : r.verb = .reject)
    (hget : s.decisions.get? id = some decision)
    (hstatus : Value.get decision "status" = .str status) (hknown : isReviewStatus status) :
    Ends (rejectDecision auth id r) (HasDecision id fun after =>
      if Admitted auth decision r.verified then
        if status ≠ "approved" then Settled r decision after else after = lateRejected r decision
      else after = decision) s := by
  refine through_access hget (ne_nil_of_status hstatus) trivial ?_
  by_cases hadmitted : Admitted auth decision r.verified
  · simp only [hadmitted, if_true]
    refine Program.through_call_bindExcept trivial ?_
    rw [transition_eq hget hstatus]
    -- from a decision with the verdict on, with the correction first
    have hend : ∀ (d : Decision) (s : Desk), s.decisions.get? id = some d → Settled r decision d →
        Ends (rejectTransitioned id r d) (HasDecision id (Settled r decision)) s := by
      intro d s hd hsettled
      unfold rejectTransitioned
      cases hcorrection : r.correction with
      | none => exact ends_rejectCorrected d ⟨d, hd, hsettled⟩
      | some items =>
        have hcorrected : ∀ d, Settled r decision d →
            Settled r decision (annotated r.now d ([] ++ [("correction", .dict items)])) :=
          fun d hd => hd.corrected r.now hcorrection [] rfl (by decide)
        exact ends_annotate ⟨d, hd, hsettled⟩ hcorrected fun _ _ hs => ends_rejectCorrected _ hs
    rcases hknown with rfl | rfl | rfl
    · have hsettled := settled_reviewed (r := r) r.now (auth.contextOf r.verified).userId decision
      rw [hverb] at hsettled
      simp only [String.reduceEq, or_self, if_false, ne_eq, not_false_eq_true, if_true]
      exact hend _ _ (Dict.get?_set_self _ _ _) hsettled
    · -- the decision is approved, and annotated before anyone looks at that
      simp only [String.reduceEq, true_or, if_true, ne_eq, not_true_eq_false, if_false]
      unfold lateRejected rejectTransitioned
      cases hcorrection : r.correction with
      | none =>
        dsimp only
        unfold rejectCorrected
        simp only [hstatus, ne_eq, Value.str.injEq, String.reduceEq, not_false_eq_true, if_true]
        exact ⟨decision, hget, rfl⟩
      | some items =>
        refine Program.through_call_bind.mpr ⟨trivial, ?_⟩
        rw [annotate_eq hget]
        have hkept : Value.get (annotated r.now decision [("correction", .dict items)]) "status" =
            .str "approved" := by
          rw [get_annotated_of_not_mem _ _ (by simp)]
          exact hstatus
        unfold rejectCorrected
        simp only [Option.getD_some, hkept, ne_eq, Value.str.injEq, String.reduceEq,
          not_false_eq_true, if_true]
        exact ⟨_, Dict.get?_set_self _ _ _, rfl⟩
    · have hsettled : Settled r decision decision := settled_refl (by rw [hverb]; exact hstatus)
      simp only [String.reduceEq, or_true, if_true, ne_eq, not_false_eq_true]
      exact hend _ _ hget hsettled
  · simp only [hadmitted, if_false]
    exact ⟨decision, hget, rfl⟩

/-! ## What every request does -/

/-- The verb of the other route. -/
def Verb.other : Verb → Verb
  | approve => reject
  | reject => approve

/-- What a request does to a decision whose status is `status`. -/
structure Served (auth : AuthMode) (r : ReviewRequest) (status : String)
    (before after : Decision) : Prop where
  refused : ¬ Admitted auth before r.verified → after = before
  settled : Admitted auth before r.verified → status ≠ r.verb.other.status → Settled r before after
  late : Admitted auth before r.verified → status = r.verb.other.status →
    after = if r.verb = .reject then lateRejected r before else before

theorem served {auth : AuthMode} (r : ReviewRequest) (hget : s.decisions.get? id = some decision)
    (hstatus : Value.get decision "status" = .str status) (hknown : isReviewStatus status) :
    HasDecision id (Served auth r status decision) (serve auth id s r).1 := by
  cases hverb : r.verb with
  | approve =>
    have hrun : (serve auth id s r).1 = ((approveDecision auth id r).run s).1 := by
      rw [serve, review, hverb]
    obtain ⟨after, hafter, heffect⟩ :=
      Program.through_run (ends_approveDecision auth hverb hget hstatus hknown)
    refine ⟨after, hrun ▸ hafter, ?_, ?_, ?_⟩
    · intro hadmitted
      rwa [if_neg fun h => hadmitted h.1] at heffect
    · intro hadmitted hother
      rw [hverb] at hother
      rwa [if_pos ⟨hadmitted, hother⟩] at heffect
    · intro hadmitted hother
      rw [hverb] at hother ⊢
      rw [if_neg fun h => h.2 hother] at heffect
      exact heffect
  | reject =>
    have hrun : (serve auth id s r).1 = ((rejectDecision auth id r).run s).1 := by
      rw [serve, review, hverb]
    obtain ⟨after, hafter, heffect⟩ :=
      Program.through_run (ends_rejectDecision auth hverb hget hstatus hknown)
    refine ⟨after, hrun ▸ hafter, ?_, ?_, ?_⟩
    · intro hadmitted
      rwa [if_neg hadmitted] at heffect
    · intro hadmitted hother
      rw [hverb] at hother
      have happroved : status ≠ "approved" := hother
      rwa [if_pos hadmitted, if_pos happroved] at heffect
    · intro hadmitted hother
      rw [hverb] at hother ⊢
      have happroved : ¬ status ≠ "approved" := fun h => h hother
      rw [if_pos hadmitted, if_neg happroved] at heffect
      exact heffect

end ShelfWise.Decisions
