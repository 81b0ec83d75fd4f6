import ShelfWise.Decisions.Verdicts

/-!
# The effects of an approval happen once

`approve_decision` writes to four stores without a transaction. Its caller can die before any of its
steps and try again; what the stores have then is what `Underway` says: the decision is the pending
one up to the fields of the review, its learning event has been recorded once or not at all, and so
has its write-back task been created. Every step keeps that (`through_approveDecision`), and the
request that returns finds both done and annotates the decision with them.
-/

namespace ShelfWise.Decisions

open Py Sys Memory Connectors

/-- A pending decision that no review has touched: it stands under its own id, and the learning store
and the sink have nothing of it. -/
structure IsApprovable (id : String) (decision : Decision) (s : Desk) : Prop where
  stored : s.decisions.get? id = some decision
  status : Value.get decision "status" = .str "pending"
  ident : Value.get decision "id" = .str id
  writeBack : Value.get decision "write_back" = .none
  noEvent : ∀ k, k.2.2 = id → s.learning.events.get? k = none
  noTask : ∀ k, k.2.2 = "writeback:" ++ id → s.sink.get? k = none

theorem decisionId_of_get {d : Decision} {id : String} (h : Value.get d "id" = .str id) :
    decisionId d = id := by
  unfold Value.get at h
  unfold decisionId Value.getD
  cases hlookup : Dict.lookup "id" d with
  | none =>
    rw [hlookup] at h
    cases h
  | some v =>
    rw [hlookup] at h
    rw [Option.getD_some] at h ⊢
    rw [h, Value.toText_str]

/-- The fields a review reads and never writes. -/
def subjectFields : List String :=
  ["id", "tenant_id", "data_domain", "action", "expected_outcome", "role"]

/-- The decision is the pending one, up to what a review writes. -/
def Unreviewed (decision d : Decision) : Prop :=
  ∀ key ∈ subjectFields, Value.get d key = Value.get decision key

theorem Unreviewed.sameSubject {decision d : Decision} {id : String} (h : Unreviewed decision d)
    (hident : Value.get decision "id" = .str id) : SameSubject decision d where
  id := by
    rw [decisionId_of_get hident, decisionId_of_get ((h "id" (by decide)).trans hident)]
  tenantId := h "tenant_id" (by decide)
  dataDomain := h "data_domain" (by decide)
  action := h "action" (by decide)
  expectedOutcome := h "expected_outcome" (by decide)

theorem Unreviewed.reviewed {decision d : Decision} (h : Unreviewed decision d)
    (now status reviewer : String) : Unreviewed decision (reviewed now status reviewer d) := by
  intro key hkey
  rw [get_reviewed_of_not_mem _ _ _ _ ?_, h key hkey]
  revert key
  decide

theorem Unreviewed.annotated {decision d : Decision} (h : Unreviewed decision d) (now : String)
    {fields : Decision} (names : List String) (hnames : fields.map Prod.fst = names)
    (hfields : ∀ key ∈ subjectFields, key ∉ "updated_at" :: names) :
    Unreviewed decision (annotated now d fields) := by
  intro key hkey
  rw [get_annotated_of_not_mem _ _ (hnames ▸ hfields key hkey), h key hkey]

/-! ## The write-back task -/

/-- The context that names the tenant of a task when the decision does not. -/
def AuthMode.homeContext : AuthMode → TenantContext
  | .off context => context
  | .jwt => ⟨"", ""⟩

/-- The task that any admitted caller asks for. -/
def taskRequest (auth : AuthMode) (id : String) (decision : Decision) : TaskRequest :=
  writebackRequest id decision auth.homeContext

theorem writebackRequest_eq {auth : AuthMode} {id : String} {decision d : Decision}
    {verified : TenantContext} (h : Unreviewed decision d) (hadmitted : Admitted auth d verified) :
    writebackRequest id d (auth.contextOf verified) = taskRequest auth id decision := by
  have haction : decisionAction d = decisionAction decision := by
    rw [decisionAction, decisionAction, h "action" (by decide)]
  have hstamped : stampedTenant d = stampedTenant decision := by
    rw [stampedTenant, stampedTenant, h "tenant_id" (by decide)]
  have htenant : decisionTenantId d (auth.contextOf verified).tenantId =
      decisionTenantId decision auth.homeContext.tenantId := by
    unfold decisionTenantId
    rw [hstamped]
    cases auth with
    | off context => rfl
    | jwt =>
      -- an admitted caller owns the decision, which then names its tenant
      have hnamed : stampedTenant decision ≠ "" := by
        rw [← hstamped]
        exact (of_decide_eq_true hadmitted).1
      rw [if_neg hnamed, if_neg hnamed]
  simp only [writebackRequest, taskRequest, haction, htenant, h "data_domain" (by decide),
    h "role" (by decide)]

/-- The task has been created in a sink that had none of it. -/
def Tasked (request : TaskRequest) (before : TaskSink) (task : List (String × Value))
    (after : TaskSink) : Prop :=
  ∃ now, task = request.task now (before.entries.length + 1) ∧ after = before.set request.key task

theorem Tasked.truthy {request : TaskRequest} {before after : TaskSink}
    {task : List (String × Value)} (h : Tasked request before task after) :
    (Value.dict task).truthy = true := by
  obtain ⟨now, rfl, -⟩ := h
  rfl

/-- Asking for the task again and again creates it once. -/
theorem createTask_spec {request : TaskRequest} {before s : TaskSink}
    (hnew : before.get? request.key = none)
    (hs : s = before ∨ ∃ task, Tasked request before task s) (now : String) :
    Tasked request before (s.createTask now request).2 (s.createTask now request).1 := by
  unfold TaskSink.createTask
  rcases hs with rfl | ⟨task, now', htask, rfl⟩
  · rw [hnew]
    exact ⟨now, rfl, rfl⟩
  · rw [Dict.get?_set_self]
    exact ⟨now', htask, rfl⟩

/-! ## A review on its way -/

/-- Where the stores can be while the decision is being approved. -/
structure Underway (auth : AuthMode) (id : String) (decision : Decision) (start : Desk)
    (d : Decision) (s : Desk) : Prop where
  stored : s.decisions.get? id = some d
  subject : Unreviewed decision d
  status : Value.get d "status" = .str "pending" ∨ Value.get d "status" = .str "approved"
  learning : s.learning = start.learning ∨ ∃ event, Recorded decision start.learning event s.learning
  task : (s.sink = start.sink ∧ Value.get d "write_back" = .none) ∨
    ∃ task, Tasked (taskRequest auth id decision) start.sink task s.sink ∧
      (Value.get d "write_back" = .none ∨ Value.get d "write_back" = .dict task)

/-- Both effects are there, and the decision carries them. -/
structure Finished (auth : AuthMode) (id : String) (decision : Decision) (start : Desk)
    (event : LearningEvent) (task : List (String × Value)) (d : Decision) (s : Desk) : Prop where
  stored : s.decisions.get? id = some d
  status : Value.get d "status" = .str "approved"
  recorded : Recorded decision start.learning event s.learning
  tasked : Tasked (taskRequest auth id decision) start.sink task s.sink
  outcome : Value.get d "outcome" = .dict event.outcome
  learningEvent : Value.get d "learning_event" = .dict event.toDict
  writeBack : Value.get d "write_back" = .dict task

theorem IsApprovable.underway {auth : AuthMode} {id : String} {decision : Decision} {start : Desk}
    (h : IsApprovable id decision start) : Underway auth id decision start decision start :=
  ⟨h.stored, fun _ _ => rfl, .inl h.status, .inl rfl, .inl ⟨rfl, h.writeBack⟩⟩

section

variable {auth : AuthMode} {id : String} {decision : Decision} {start : Desk}

variable {d : Decision} {s : Desk}

/-- The transition of a decision under way leaves it approved. -/
theorem Underway.transition (h : Underway auth id decision start d s) (now reviewer : String) :
    ∃ d' s', Desk.transition now id "approved" reviewer s =
      (s', .ok (some d')) ∧ Underway auth id decision start d' s' ∧
        Value.get d' "status" = .str "approved" := by
  rcases h.status with hpending | happroved
  · rw [transition_eq h.stored hpending]
    have hwriteBack : Value.get (Decisions.reviewed now "approved" reviewer d) "write_back" =
        Value.get d "write_back" := get_reviewed_of_not_mem _ _ _ _ (by decide)
    have hstatus := get_reviewed_status now "approved" reviewer d
    refine ⟨_, _, if_neg (by decide), ⟨Dict.get?_set_self _ _ _, h.subject.reviewed _ _ _,
      .inr hstatus, h.learning, ?_⟩, hstatus⟩
    rw [hwriteBack]
    exact h.task
  · rw [transition_eq h.stored happroved]
    exact ⟨d, s, if_pos (by decide), h, happroved⟩

variable {event : LearningEvent}

/-- The annotation that ends the approval. -/
theorem Underway.annotate (h : Underway auth id decision start d s)
    (hstatus : Value.get d "status" = .str "approved") {task : List (String × Value)}
    (hrecorded : Recorded decision start.learning event s.learning)
    (htasked : Tasked (taskRequest auth id decision) start.sink task s.sink) (now : String)
    (correction : Option (List (String × Value))) :
    ∃ d' s', Desk.annotate now id (annotations event (.dict task) correction) s = (s', some d') ∧
      Underway auth id decision start d' s' ∧ Finished auth id decision start event task d' s' := by
  rw [annotate_eq h.stored]
  have hget : ∀ key value, (key, value) ∈ annotations event (.dict task) correction →
      key ≠ "correction" → Value.get (annotated now d (annotations event (.dict task) correction))
        key = value := by
    intro key value hmem hne
    unfold annotations at hmem ⊢
    cases correction with
    | none =>
      simp only [List.append_nil, List.mem_cons, Prod.mk.injEq, List.not_mem_nil, or_false] at hmem
      rcases hmem with ⟨rfl, rfl⟩ | ⟨rfl, rfl⟩ | ⟨rfl, rfl⟩ <;>
        simp [annotated, Value.updateItems, Value.get_setItem]
    | some items =>
      simp only [List.mem_append, List.mem_cons, Prod.mk.injEq, List.not_mem_nil, or_false] at hmem
      rcases hmem with (⟨rfl, rfl⟩ | ⟨rfl, rfl⟩ | ⟨rfl, rfl⟩) | ⟨rfl, -⟩
      all_goals first
        | exact absurd rfl hne
        | simp [annotated, Value.updateItems, Value.get_setItem]
  have hkept : Value.get (annotated now d (annotations event (.dict task) correction)) "status" =
      .str "approved" := by
    rw [get_annotated_of_not_mem, hstatus]
    unfold annotations
    cases correction <;> simp
  have hsubject : Unreviewed decision
      (annotated now d (annotations event (.dict task) correction)) := by
    cases correction with
    | none =>
      exact h.subject.annotated now ["outcome", "learning_event", "write_back"] rfl (by decide)
    | some items =>
      exact h.subject.annotated now ["outcome", "learning_event", "write_back", "correction"] rfl
        (by decide)
  have hwriteBack := hget "write_back" (.dict task) (by simp [annotations]) (by decide)
  refine ⟨_, _, rfl, ⟨Dict.get?_set_self _ _ _, hsubject, .inr hkept, .inr ⟨event, hrecorded⟩,
    .inr ⟨task, htasked, .inr hwriteBack⟩⟩, ⟨Dict.get?_set_self _ _ _, hkept, hrecorded, htasked,
    ?_, ?_, hwriteBack⟩⟩
  · exact hget "outcome" _ (by simp [annotations]) (by decide)
  · exact hget "learning_event" _ (by simp [annotations]) (by decide)

/-- The decision is being approved. -/
def UnderwaySome (auth : AuthMode) (id : String) (decision : Decision) (start : Desk) (s : Desk) :
    Prop :=
  ∃ d, Underway auth id decision start d s

/-- A request that returns has finished the approval. -/
def ReturnsFinished (auth : AuthMode) (id : String) (decision : Decision) (start : Desk)
    (answer : Except Exc ReviewResponse) (s : Desk) : Prop :=
  UnderwaySome auth id decision start s ∧
    ∀ response, answer = .ok response → ∃ event task d, Finished auth id decision start event task d s

theorem returnsFinished_error (h : UnderwaySome auth id decision start s) (e : Exc) :
    ReturnsFinished auth id decision start (.error e) s :=
  ⟨h, fun _ h => nomatch h⟩

/-- The last two steps: the task, unless the decision has it, and the annotation. -/
theorem through_taskAndAnnotate (hnew : start.sink.get? (taskRequest auth id decision).key = none)
    (h : Underway auth id decision start d s) (hstatus : Value.get d "status" = .str "approved")
    (hrecorded : Recorded decision start.learning event s.learning) (r : ReviewRequest)
    (hadmitted : Admitted auth d r.verified) :
    (writeBack r.now id d (auth.contextOf r.verified) >>= annotateApproved id r event).Through
      (fun _ => UnderwaySome auth id decision start) (ReturnsFinished auth id decision start) s := by
  have hannotate : ∀ (task : List (String × Value)) (s : Desk),
      Underway auth id decision start d s → Recorded decision start.learning event s.learning →
      Tasked (taskRequest auth id decision) start.sink task s.sink →
      (annotateApproved id r event (.dict task)).Through
        (fun _ => UnderwaySome auth id decision start)
        (ReturnsFinished auth id decision start) s := by
    intro task s hs hrecorded htasked
    obtain ⟨d', s', hrun, hunderway, hfinished⟩ :=
      hs.annotate hstatus hrecorded htasked r.now r.correction
    refine Program.through_call_bind.mpr ⟨⟨d, hs⟩, ?_⟩
    rw [hrun]
    exact ⟨⟨d', hunderway⟩, fun _ _ => ⟨event, task, d', hfinished⟩⟩
  refine Program.through_bind ?_
  unfold writeBack
  by_cases hwriteBack : (Value.get d "write_back").truthy = true
  · rw [if_pos hwriteBack]
    -- the decision has the task already
    rcases h.task with ⟨-, hnone⟩ | ⟨task, htasked, hnone | hdict⟩
    · rw [hnone] at hwriteBack
      cases hwriteBack
    · rw [hnone] at hwriteBack
      cases hwriteBack
    · rw [hdict]
      exact hannotate task s h hrecorded htasked
  · rw [if_neg hwriteBack, writebackRequest_eq h.subject hadmitted]
    have hnone : Value.get d "write_back" = .none := by
      rcases h.task with ⟨-, hnone⟩ | ⟨task, htasked, hnone | hdict⟩
      · exact hnone
      · exact hnone
      · rw [hdict] at hwriteBack
        exact absurd htasked.truthy hwriteBack
    have hs : s.sink = start.sink ∨
        ∃ task, Tasked (taskRequest auth id decision) start.sink task s.sink := by
      rcases h.task with ⟨hsame, -⟩ | ⟨task, htasked, -⟩
      · exact .inl hsame
      · exact .inr ⟨task, htasked⟩
    have htasked := createTask_spec hnew hs r.now
    refine Program.through_call_bind.mpr ⟨⟨d, h⟩, hannotate _ _ ?_ hrecorded htasked⟩
    exact ⟨h.stored, h.subject, h.status, h.learning, .inr ⟨_, htasked, .inl hnone⟩⟩

/-- Every step of `approve_decision` keeps the decision under way, and a request that returns has
finished. -/
theorem through_approveDecision (hstart : IsApprovable id decision start)
    (h : UnderwaySome auth id decision start s) (r : ReviewRequest) :
    (approveDecision auth id r).Through (fun _ => UnderwaySome auth id decision start)
      (ReturnsFinished auth id decision start) s := by
  obtain ⟨d, hunderway⟩ := h
  have hnonempty : d ≠ [] := by
    rcases hunderway.status with hstatus | hstatus <;> exact ne_nil_of_status hstatus
  refine through_access hunderway.stored hnonempty ⟨d, hunderway⟩ ?_
  by_cases hadmitted : Admitted auth d r.verified
  · rw [if_pos hadmitted]
    refine Program.through_call_bindExcept ⟨d, hunderway⟩ ?_
    obtain ⟨d', s', hrun, h', hstatus⟩ :=
      hunderway.transition r.now (auth.contextOf r.verified).userId
    rw [hrun]
    simp only [hstatus, ne_eq, not_true_eq_false, if_false]
    have hadmitted' : Admitted auth d' r.verified := by
      refine (admitted_congr auth ?_ _).mp hadmitted
      rw [hunderway.subject "tenant_id" (by decide), h'.subject "tenant_id" (by decide)]
    refine Program.through_call_bindExcept ⟨d', h'⟩ ?_
    have hnewEvent : ∀ domain, start.learning.events.get?
        (tenantIdOf decision, domain, decisionId decision) = none := by
      intro domain
      exact hstart.noEvent _ (decisionId_of_get hstart.ident)
    rcases recordApprovedDecision_spec (h'.subject.sameSubject hstart.ident) hnewEvent h'.learning
      r.now with ⟨e, he⟩ | ⟨event, learning, he, hrecorded⟩
    · have hraised : Desk.recordApproved r.now d' s' = (s', .error e) := by
        rw [Desk.recordApproved, he]
      rw [hraised]
      exact returnsFinished_error ⟨d', h'⟩ e
    · have hanswered : Desk.recordApproved r.now d' s' =
          ({ s' with learning := learning }, .ok event) := by
        rw [Desk.recordApproved, he]
      rw [hanswered]
      have hnext : Underway auth id decision start d' { s' with learning := learning } :=
        ⟨h'.stored, h'.subject, h'.status, .inr ⟨event, hrecorded⟩, h'.task⟩
      exact through_taskAndAnnotate (hstart.noTask _ rfl) hnext hstatus hrecorded r hadmitted'
  · rw [if_neg hadmitted]
    exact returnsFinished_error ⟨d, hunderway⟩ _

/-- Requests that die after some of their steps. -/
def afterKilled (auth : AuthMode) (id : String) (start : Desk) (killed : List (ReviewRequest × ℕ)) :
    Desk :=
  killed.foldl (fun s attempt => (approveDecision auth id attempt.1).cut attempt.2 s) start

variable (auth) in
theorem underway_afterKilled (hstart : IsApprovable id decision start)
    (h : UnderwaySome auth id decision start s) (killed : List (ReviewRequest × ℕ)) :
    UnderwaySome auth id decision start (afterKilled auth id s killed) := by
  induction killed generalizing s with
  | nil => exact h
  | cons attempt killed ih =>
    apply ih
    refine Program.always_cut ((through_approveDecision hstart h attempt.1).mono ?_ ?_) attempt.2
    · exact fun _ _ hI => hI
    · exact fun _ _ hQ => hQ.1

end

/-! ## Exactly once -/

/-- The effects of the approval, and how often they happened. -/
structure ExactlyOnce (auth : AuthMode) (id : String) (decision : Decision) (start : Desk)
    (event : LearningEvent) (task : List (String × Value)) (s : Desk) : Prop where
  oneEvent : ∃ key, ∀ k e, (s.learning.events.get? k = some e ∧ k.2.2 = id) ↔ k = key ∧ e = event
  oneTask : ∃ key, ∀ k t, (s.sink.get? k = some t ∧ k.2.2 = "writeback:" ++ id) ↔ k = key ∧ t = task
  movedOnce : ∃ now domain metric subject, routedMetric decision = .ok (metric, subject) ∧
    buildLearningEvent now decision
      (start.learning.thresholds.get? (tenantIdOf decision, domain, metric)) = .ok event ∧
    s.learning.thresholds = start.learning.thresholds.set (tenantIdOf decision, domain, metric)
      event.updatedThreshold
  carried : ∃ d, s.decisions.get? id = some d ∧ Value.get d "status" = .str "approved" ∧
    Value.get d "outcome" = .dict event.outcome ∧
    Value.get d "learning_event" = .dict event.toDict ∧ Value.get d "write_back" = .dict task

/-- A key that is added is the only one of its kind when there was none before. -/
theorem get?_set_only {κ ν : Type} [DecidableEq κ] {before : Dict κ ν} {P : κ → Prop} {key : κ}
    (hkey : P key) (hnone : ∀ k, P k → before.get? k = none) (value : ν) (k : κ) (v : ν) :
    ((before.set key value).get? k = some v ∧ P k) ↔ k = key ∧ v = value := by
  rw [Dict.get?_set]
  constructor
  · rintro ⟨hget, hP⟩
    split at hget
    · rename_i heq
      exact ⟨heq.symm, (Option.some.inj hget).symm⟩
    · rw [hnone k hP] at hget
      cases hget
  · rintro ⟨rfl, rfl⟩
    exact ⟨if_pos rfl, hkey⟩

theorem Finished.exactlyOnce {auth : AuthMode} {id : String} {decision : Decision} {start : Desk}
    (hstart : IsApprovable id decision start) {event : LearningEvent}
    {task : List (String × Value)} {d : Decision} {s : Desk}
    (h : Finished auth id decision start event task d s) :
    ExactlyOnce auth id decision start event task s := by
  obtain ⟨now, domain, metric, subject, -, hmetric, hevent, hlearning⟩ := h.recorded
  obtain ⟨now', -, hsink⟩ := h.tasked
  constructor
  · refine ⟨(tenantIdOf decision, domain, decisionId decision), ?_⟩
    rw [hlearning]
    exact get?_set_only (P := fun k : String × String × String => k.2.2 = id)
      (decisionId_of_get hstart.ident) hstart.noEvent _
  · refine ⟨(taskRequest auth id decision).key, ?_⟩
    rw [hsink]
    exact get?_set_only (P := fun k : TaskKey => k.2.2 = "writeback:" ++ id) rfl hstart.noTask _
  · exact ⟨now, domain, metric, subject, hmetric, hevent, by rw [hlearning]⟩
  · exact ⟨d, h.stored, h.status, h.outcome, h.learningEvent, h.writeBack⟩

/-- **Exactly once.** However often `approve_decision` dies on the way, once it returns there is one
learning event and one write-back task of the decision, the threshold has moved once, and the
decision carries both. -/
theorem approval_exactly_once (auth : AuthMode) (id : String) (decision : Decision) (start : Desk)
    (hstart : IsApprovable id decision start) (killed : List (ReviewRequest × ℕ))
    (last : ReviewRequest) (response : ReviewResponse)
    (hreturns : ((approveDecision auth id last).run (afterKilled auth id start killed)).2 =
      .ok response) :
    ∃ event task, ExactlyOnce auth id decision start event task
      ((approveDecision auth id last).run (afterKilled auth id start killed)).1 := by
  have hunderway := underway_afterKilled auth hstart ⟨decision, hstart.underway⟩ killed
  have hrun := Program.through_run (through_approveDecision hstart hunderway last)
  obtain ⟨event, task, d, hfinished⟩ := hrun.2 response hreturns
  exact ⟨event, task, hfinished.exactlyOnce hstart⟩

theorem markdownDesk_isApprovable :
    IsApprovable "dec_markdown" markdownDecision markdownDesk where
  stored := by decide +kernel
  status := by decide +kernel
  ident := by decide +kernel
  writeBack := by decide +kernel
  noEvent := fun _ _ => rfl
  noTask := fun _ _ => rfl

/-- Three requests that die, after the transition, after the learning event and after the task, and
one that returns. -/
theorem approval_exactly_once_killed : ∃ event task, ExactlyOnce .jwt "dec_markdown"
    markdownDecision markdownDesk event task ((approveDecision .jwt "dec_markdown" approval).run
      (afterKilled .jwt "dec_markdown" markdownDesk [(approval, 2), (approval, 3), (approval, 4)])).1 := by
  have hreturns : ((approveDecision .jwt "dec_markdown" approval).run (afterKilled .jwt
      "dec_markdown" markdownDesk [(approval, 2), (approval, 3), (approval, 4)])).2.toOption.isSome =
      true := by decide +kernel
  cases hanswer : ((approveDecision .jwt "dec_markdown" approval).run (afterKilled .jwt
      "dec_markdown" markdownDesk [(approval, 2), (approval, 3), (approval, 4)])).2 with
  | error e =>
    rw [hanswer] at hreturns
    cases hreturns
  | ok response =>
    exact approval_exactly_once .jwt "dec_markdown" markdownDecision markdownDesk
      markdownDesk_isApprovable [(approval, 2), (approval, 3), (approval, 4)] approval response hanswer

end ShelfWise.Decisions
