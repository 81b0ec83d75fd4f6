import ShelfWise.Memory.Thresholds

/-!
# The Postgres learning store under concurrency

`PostgresLearningStore.record_approved_decision` of `shelfwise_memory`, one step per SQL statement, for
approvals of different decisions of one metric. A call is one transaction at READ COMMITTED: a
statement sees what is committed and what its own transaction has written, and the row of the metric is
held, from the first `for update` that finds it or from the upsert, until the transaction ends. A
statement that needs the row while another transaction holds it waits: its step changes nothing. A
`for update` that finds no row holds nothing.

`learning_deltas_telescope` says that the deltas of the stored events lead from the base to the
threshold when no transaction that found no row comes to its upsert after the row is there.
-/

namespace ShelfWise.Memory

open Py Decisions Sys

/-! ## Calls -/

/-- Calls for different decisions of one metric, with what the clock shows to each. -/
structure Approvals (ι : Type) where
  decision : ι → Decision
  now : ι → String
  tenantId : String
  dataDomain : String
  metric : String
  tenant : ∀ i, tenantIdOf (decision i) = tenantId
  domain : ∀ i, dataDomainOf (decision i) = .ok dataDomain
  routed : ∀ i, ∃ subject, routedMetric (decision i) = .ok (metric, subject)
  distinct : ∀ i j, decisionId (decision i) = decisionId (decision j) → i = j

/-- What a call has got to. -/
inductive Stage where
  | start
  | unrecorded
  | read (previous : Option ℤ)
  | upserted (event : LearningEvent) (written : ℤ)
  | patched (payload : LearningEvent) (written : ℤ)
  | inserted (payload : LearningEvent) (written : ℤ)
  | answered (payload : LearningEvent)
  | failed (e : Exc)
deriving DecidableEq

/-- The committed rows, and the transaction that holds the row of the metric. -/
structure LearningDb (ι : Type) where
  thresholds : Dict (String × String × String) ℤ
  events : Dict (String × String × String) LearningEvent
  holder : Option ι

/-- The database and the calls in progress. -/
structure LearningPool (ι : Type) where
  db : LearningDb ι
  stage : ι → Stage

/-! ## Statements -/

section Statements

variable {ι : Type} [DecidableEq ι] (a : Approvals ι)

/-- The key of the event of a call. -/
def Approvals.eventKey (i : ι) : String × String × String :=
  (a.tenantId, a.dataDomain, decisionId (a.decision i))

/-- The key of the threshold. -/
def Approvals.thresholdKey : String × String × String := (a.tenantId, a.dataDomain, a.metric)

/-- The committed threshold. -/
def Approvals.threshold (db : LearningDb ι) : Option ℤ := db.thresholds.get? a.thresholdKey

/-- No other transaction holds the row. -/
def LearningDb.Free (db : LearningDb ι) (i : ι) : Prop := db.holder = none ∨ db.holder = some i

instance (db : LearningDb ι) (i : ι) : Decidable (db.Free i) :=
  inferInstanceAs (Decidable (_ ∨ _))

/-- The end of a transaction that wrote nothing. -/
def LearningDb.release (db : LearningDb ι) (i : ι) : LearningDb ι :=
  { db with holder := if db.holder = some i then none else db.holder }

/-- The text before the first occurrence of another, or all of it. -/
def textBefore (needle : List Char) : List Char → List Char
  | [] => []
  | c :: cs => if needle.isPrefixOf (c :: cs) then [] else c :: textBefore needle cs

/-- The payload, patched when the threshold that was re-read is not the one of the event. -/
def patchedPayload (event : LearningEvent) (finalThreshold : ℤ) : Except Exc LearningEvent :=
  if finalThreshold ≠ event.updatedThreshold then do
    let finalText ← Value.printInt finalThreshold
    let messagePrefix :=
      String.ofList (textBefore "largest confirmed is now".toList event.message.toList)
    .ok { event with
      updatedThreshold := finalThreshold
      deltaUnits := finalThreshold - event.previousThreshold
      message := messagePrefix ++ "largest confirmed is now " ++ finalText ++ "." }
  else .ok event

/-- The checks of the decision, and the `select` of its event. -/
def selectEvent (db : LearningDb ι) (i : ι) : Stage :=
  if Value.get (a.decision i) "status" ≠ .str "approved" then
    .failed (.valueError "learning requires an approved decision")
  else if decisionId (a.decision i) = "" then .failed (.valueError "decision must include id")
  else match db.events.get? (a.eventKey i) with
    | some existing => .answered existing
    | none => .unrecorded

/-- The `select ... for update` of the threshold. -/
def selectForUpdate (db : LearningDb ι) (i : ι) : LearningDb ι × Stage :=
  match a.threshold db with
  | none => (db, .read none)
  | some t => if db.Free i then ({ db with holder := some i }, .read (some t)) else (db, .unrecorded)

/-- The event that is built, and the upsert of the threshold. -/
def upsertThreshold (db : LearningDb ι) (i : ι) (previous : Option ℤ) : LearningDb ι × Stage :=
  match buildLearningEvent (a.now i) (a.decision i) previous with
  | .error e => (db.release i, .failed e)
  | .ok event =>
    if db.Free i then
      ({ db with holder := some i },
        .upserted event ((a.threshold db).elim event.updatedThreshold (max · event.updatedThreshold)))
    else (db, .read previous)

/-- The `select` of what the transaction has written, and the patch of the payload. -/
def rereadThreshold (db : LearningDb ι) (i : ι) (event : LearningEvent) (written : ℤ) :
    LearningDb ι × Stage :=
  match patchedPayload event written with
  | .error e => (db.release i, .failed e)
  | .ok payload => (db, .patched payload written)

/-- The commit of the threshold. -/
def commitThreshold (db : LearningDb ι) (written : ℤ) : LearningDb ι :=
  { db with thresholds := db.thresholds.set a.thresholdKey written, holder := none }

/-- The `insert` of the event, `on conflict do nothing`; the winner's row is committed already, since
the calls are for different decisions. -/
def insertEvent (db : LearningDb ι) (i : ι) (payload : LearningEvent) (written : ℤ) :
    LearningDb ι × Stage :=
  match db.events.get? (a.eventKey i) with
  | some winner => (commitThreshold a db written, .answered winner)
  | none => (db, .inserted payload written)

/-- The commit of the threshold and the event. -/
def commitEvent (db : LearningDb ι) (i : ι) (payload : LearningEvent) (written : ℤ) : LearningDb ι :=
  { commitThreshold a db written with events := db.events.set (a.eventKey i) payload }

/-- The next statement of a call. -/
def statement (db : LearningDb ι) (i : ι) : Stage → LearningDb ι × Stage
  | .start => (db, selectEvent a db i)
  | .unrecorded => selectForUpdate a db i
  | .read previous => upsertThreshold a db i previous
  | .upserted event written => rereadThreshold db i event written
  | .patched payload written => insertEvent a db i payload written
  | .inserted payload written => (commitEvent a db i payload written, .answered payload)
  | .answered payload => (db, .answered payload)
  | .failed e => (db, .failed e)

/-- Call `i` takes its next statement. -/
def learningTick (w : LearningPool ι) (i : ι) : LearningPool ι × Unit :=
  let next := statement a w.db i (w.stage i)
  (⟨next.1, Function.update w.stage i next.2⟩, ())

/-- The calls before any of them has taken a step. -/
def startApprovals (thresholds : Dict (String × String × String) ℤ)
    (events : Dict (String × String × String) LearningEvent) : LearningPool ι :=
  ⟨⟨thresholds, events, none⟩, fun _ => .start⟩

end Statements

/-! ## The law of the deltas -/

section Law

variable {ι : Type} (a : Approvals ι)

/-- The events stored since a state of the database. -/
def storedSince (before db : LearningDb ι) :
    List ((String × String × String) × LearningEvent) :=
  db.events.entries.drop before.events.entries.length

/-- The threshold is the largest of the initial one and what the stored approvals measured, and their
deltas lead to it from the base: the initial threshold, or else that of the first event. -/
structure Telescopes (initial : Option ℤ)
    (stored : List ((String × String × String) × LearningEvent)) (threshold : Option ℤ) : Prop where
  largest : ∃ measures, List.Forall₂ (fun entry measured => ∃ i, entry.1 = a.eventKey i ∧
      measuredOf (a.decision i) = .ok measured) stored measures ∧
    threshold = (initial.toList ++ measures).max?
  deltas : ∀ t, threshold = some t → ∃ base,
    initial.or (stored.head?.map (·.2.previousThreshold)) = some base ∧
      (stored.map (·.2.deltaUnits)).sum = t - base

/-- A call that found no row comes to its upsert while there is none. -/
def FindsStillNone (step : Step (LearningPool ι) ι Unit) : Prop :=
  step.before.stage step.input = .read none → step.before.db.Free step.input →
    a.threshold step.before.db = none

instance (step : Step (LearningPool ι) ι Unit) [DecidableEq ι] : Decidable (FindsStillNone a step) :=
  inferInstanceAs (Decidable (_ → _ → _))

/-- What the stage of a call says of the database: its event is not stored, and from the first
statement that holds the row on nobody else changes it. -/
def StageOk (db : LearningDb ι) (i : ι) : Stage → Prop
  | .start => True
  | .unrecorded => db.events.get? (a.eventKey i) = none
  | .read none => db.events.get? (a.eventKey i) = none
  | .read (some t) => db.events.get? (a.eventKey i) = none ∧ db.holder = some i ∧
    a.threshold db = some t
  | .upserted event written => Pending event written
  | .patched event written => Pending event written
  | .inserted event written => Pending event written
  | .answered _ => True
  | .failed _ => True
where
  /-- The event is built from the committed threshold, and its own threshold is written. -/
  Pending (event : LearningEvent) (written : ℤ) : Prop :=
    db.events.get? (a.eventKey i) = none ∧ db.holder = some i ∧
      buildLearningEvent (a.now i) (a.decision i) (a.threshold db) = .ok event ∧
      written = event.updatedThreshold

variable {a} {db db' : LearningDb ι} {i j : ι}

theorem eventKey_ne (h : i ≠ j) : a.eventKey i ≠ a.eventKey j := by
  intro hkey
  exact h (a.distinct i j (congrArg (fun k => k.2.2) hkey))

/-- The stage of a call that does not hold the row asks for nothing but that its event is not
stored. -/
theorem StageOk.transfer {stage : Stage} (h : StageOk a db j stage) (hholder : db.holder ≠ some j)
    (hevents : db'.events.get? (a.eventKey j) = db.events.get? (a.eventKey j)) :
    StageOk a db' j stage := by
  cases stage with
  | start => trivial
  | unrecorded => exact hevents.trans h
  | read previous =>
    cases previous with
    | none => exact hevents.trans h
    | some t => exact absurd h.2.1 hholder
  | upserted event written => exact absurd h.2.1 hholder
  | patched event written => exact absurd h.2.1 hholder
  | inserted event written => exact absurd h.2.1 hholder
  | answered payload => trivial
  | failed e => trivial

theorem max?_concat {xs : List ℤ} {t : ℤ} (h : xs.max? = some t) (m : ℤ) :
    (xs ++ [m]).max? = some (max t m) := by
  cases xs with
  | nil => cases h
  | cons x xs =>
    rw [List.max?_cons', Option.some.injEq] at h
    rw [List.cons_append, List.max?_cons', List.foldl_append, h]
    rfl

/-- An event built from the committed threshold extends the law when it is stored with its own
threshold. -/
theorem Telescopes.commit {initial threshold : Option ℤ}
    {stored : List ((String × String × String) × LearningEvent)} {event : LearningEvent}
    (h : Telescopes a initial stored threshold)
    (hbuild : buildLearningEvent (a.now i) (a.decision i) threshold = .ok event) :
    Telescopes a initial (stored ++ [(a.eventKey i, event)]) (some event.updatedThreshold) := by
  obtain ⟨base, measured, hm⟩ := buildLearningEvent_measures hbuild
  obtain ⟨measures, hmeasures, hlargest⟩ := h.largest
  have hstored : List.Forall₂ (fun entry measured => ∃ i, entry.1 = a.eventKey i ∧
      measuredOf (a.decision i) = .ok measured) (stored ++ [(a.eventKey i, event)])
      (measures ++ [measured]) :=
    List.rel_append hmeasures (.cons ⟨i, rfl, hm.measures⟩ .nil)
  have hsum : ((stored ++ [(a.eventKey i, event)]).map (·.2.deltaUnits)).sum
      = (stored.map (·.2.deltaUnits)).sum + (event.updatedThreshold - event.previousThreshold) := by
    rw [List.map_append, List.sum_append, List.map_singleton, List.sum_singleton, hm.delta]
  cases threshold with
  | none =>
    -- the first event: there was no threshold, so nothing was measured before
    have hempty : initial.toList ++ measures = [] := List.max?_eq_none_iff.mp hlargest.symm
    obtain ⟨hinitial, hnone⟩ := List.append_eq_nil_iff.mp hempty
    subst hnone
    cases hmeasures
    have hinitial' : initial = none := Option.toList_eq_nil_iff.mp hinitial
    subst hinitial'
    have hupdated : event.updatedThreshold = measured := by
      rw [hm.updated, Option.getD_none]
      exact max_eq_right hm.base_le
    refine ⟨⟨[measured], hstored, ?_⟩, ?_⟩
    · rw [hupdated]
      rfl
    · rintro t ht
      cases ht
      refine ⟨event.previousThreshold, rfl, ?_⟩
      rw [hsum, List.map_nil, List.sum_nil, zero_add]
  | some t =>
    obtain ⟨first, hfirst, hdeltas⟩ := h.deltas t rfl
    have hprevious : event.previousThreshold = t := hm.previous
    have hupdated : event.updatedThreshold = max t measured := hm.updated
    refine ⟨⟨measures ++ [measured], hstored, ?_⟩, ?_⟩
    · rw [← List.append_assoc, max?_concat hlargest.symm, hupdated]
    · rintro t' ht'
      cases ht'
      refine ⟨first, ?_, ?_⟩
      · rw [List.head?_append, Option.map_or, ← Option.or_assoc, hfirst]
        rfl
      · rw [hsum, hdeltas, hprevious]
        omega

end Law

/-! ## Runs -/

section Runs

variable {ι : Type} [DecidableEq ι] {a : Approvals ι} {start : LearningDb ι}

/-- What holds at every point of a run under the condition. -/
structure Ordered (a : Approvals ι) (start : LearningDb ι) (w : LearningPool ι) : Prop where
  stages : ∀ i, StageOk a w.db i (w.stage i)
  grown : ∃ stored, w.db.events.entries = start.events.entries ++ stored ∧
    Telescopes a (a.threshold start) stored (a.threshold w.db)

variable {w : LearningPool ι} {i : ι} {db : LearningDb ι}

/-- A statement that stores nothing: the law stays, and the other calls are where they were. -/
theorem Ordered.of_kept (h : Ordered a start w) {stage : Stage} (hevents : db.events = w.db.events)
    (hthresholds : db.thresholds = w.db.thresholds)
    (hholder : db.holder = w.db.holder ∨ w.db.Free i) (hstage : StageOk a db i stage) :
    Ordered a start ⟨db, Function.update w.stage i stage⟩ := by
  refine ⟨fun j => ?_, ?_⟩
  · show StageOk a db j (Function.update w.stage i stage j)
    by_cases hij : j = i
    · subst hij
      rw [Function.update_self]
      exact hstage
    · rw [Function.update_of_ne hij]
      rcases hholder with hsame | hfree
      · obtain ⟨thresholds, events, holder⟩ := db
        cases hevents
        cases hthresholds
        cases hsame
        exact h.stages j
      · refine (h.stages j).transfer ?_ (by rw [hevents])
        rcases hfree with hnone | hown
        · rw [hnone]
          exact Option.some_ne_none j |>.symm
        · rw [hown]
          intro hsame
          exact hij (Option.some.inj hsame).symm
  · show ∃ stored, db.events.entries = _ ∧ Telescopes a _ stored (db.thresholds.get? _)
    rw [hevents, hthresholds]
    exact h.grown

theorem free_release (h : ¬ db.Free i) : db.release i = db := by
  obtain ⟨-, hne⟩ := not_or.mp h
  rw [LearningDb.release, if_neg hne]

/-- The end of a transaction that wrote nothing. -/
theorem Ordered.fail (h : Ordered a start w) (i : ι) (e : Exc) :
    Ordered a start ⟨w.db.release i, Function.update w.stage i (.failed e)⟩ := by
  by_cases hfree : w.db.Free i
  · exact h.of_kept rfl rfl (.inr hfree) trivial
  · rw [free_release hfree]
    exact h.of_kept rfl rfl (.inl rfl) trivial

/-- The commit of an event. -/
theorem Ordered.commit (h : Ordered a start w) {event : LearningEvent} {written : ℤ}
    (hpending : StageOk.Pending a w.db i event written) :
    Ordered a start
      ⟨commitEvent a w.db i event written, Function.update w.stage i (.answered event)⟩ := by
  obtain ⟨hnew, hholder, hbuild, rfl⟩ := hpending
  refine ⟨fun j => ?_, ?_⟩
  · show StageOk a _ j (Function.update w.stage i (.answered event) j)
    by_cases hij : j = i
    · subst hij
      rw [Function.update_self]
      trivial
    · rw [Function.update_of_ne hij]
      refine (h.stages j).transfer ?_ ?_
      · rw [hholder]
        intro hsame
        exact hij (Option.some.inj hsame).symm
      · exact Dict.get?_set_ne _ (eventKey_ne (Ne.symm hij)) _
  · obtain ⟨stored, hentries, htelescopes⟩ := h.grown
    refine ⟨stored ++ [(a.eventKey i, event)], ?_, ?_⟩
    · show (w.db.events.set (a.eventKey i) event).entries = _
      rw [Dict.entries_set_of_fresh hnew, hentries, List.append_assoc]
    · have hset : a.threshold (commitEvent a w.db i event event.updatedThreshold)
          = some event.updatedThreshold := Dict.get?_set_self _ _ _
      rw [hset]
      exact htelescopes.commit hbuild

/-- Each statement keeps the law, under the condition on an upsert. -/
theorem ordered_learningTick (h : Ordered a start w) (i : ι)
    (hcondition : FindsStillNone a (stepOf (learningTick a) w i)) :
    Ordered a start (learningTick a w i).1 := by
  have hi := h.stages i
  unfold learningTick statement
  cases hstage : w.stage i with
  | start =>
    refine h.of_kept rfl rfl (.inl rfl) ?_
    unfold selectEvent
    split_ifs
    · trivial
    · trivial
    · cases hevent : w.db.events.get? (a.eventKey i) with
      | some existing => trivial
      | none => exact hevent
  | unrecorded =>
    rw [hstage] at hi
    simp only [selectForUpdate]
    cases hthreshold : a.threshold w.db with
    | none => exact h.of_kept rfl rfl (.inl rfl) hi
    | some t =>
      simp only
      by_cases hfree : w.db.Free i
      · rw [if_pos hfree]
        exact h.of_kept rfl rfl (.inr hfree) ⟨hi, rfl, hthreshold⟩
      · rw [if_neg hfree]
        exact h.of_kept rfl rfl (.inl rfl) hi
  | read previous =>
    rw [hstage] at hi
    simp only [upsertThreshold]
    cases hbuild : buildLearningEvent (a.now i) (a.decision i) previous with
    | error e => exact h.fail i e
    | ok event =>
      simp only
      by_cases hfree : w.db.Free i
      · rw [if_pos hfree]
        -- what was found is what is committed: the row was held, or there is still none
        have hprevious : previous = a.threshold w.db := by
          cases previous with
          | none => exact (hcondition hstage hfree).symm
          | some t => exact hi.2.2.symm
        have hnew : w.db.events.get? (a.eventKey i) = none := by
          cases previous with
          | none => exact hi
          | some t => exact hi.1
        refine h.of_kept rfl rfl (.inr hfree) ⟨hnew, rfl, ?_, ?_⟩
        · exact hprevious ▸ hbuild
        · show (a.threshold w.db).elim event.updatedThreshold (max · event.updatedThreshold)
            = event.updatedThreshold
          obtain ⟨base, measured, hm⟩ := buildLearningEvent_measures hbuild
          rw [← hprevious]
          cases previous with
          | none => rfl
          | some t =>
            rw [Option.elim_some, hm.updated, Option.getD_some]
            omega
      · rw [if_neg hfree]
        exact h.of_kept rfl rfl (.inl rfl) hi
  | upserted event written =>
    rw [hstage] at hi
    have hwritten : written = event.updatedThreshold := hi.2.2.2
    have hpatched : patchedPayload event written = .ok event := by
      rw [patchedPayload, if_neg (not_not.mpr hwritten)]
    simp only [rereadThreshold, hpatched]
    exact h.of_kept rfl rfl (.inl rfl) hi
  | patched event written =>
    rw [hstage] at hi
    have hnew : w.db.events.get? (a.eventKey i) = none := hi.1
    simp only [insertEvent, hnew]
    exact h.of_kept rfl rfl (.inl rfl) hi
  | inserted event written =>
    rw [hstage] at hi
    exact h.commit hi
  | answered payload => exact h.of_kept rfl rfl (.inl rfl) trivial
  | failed e => exact h.of_kept rfl rfl (.inl rfl) trivial

omit [DecidableEq ι] in
theorem ordered_start (thresholds : Dict (String × String × String) ℤ)
    (events : Dict (String × String × String) LearningEvent) :
    Ordered a (startApprovals thresholds events).db (startApprovals thresholds events) where
  stages := fun _ => trivial
  grown := by
    refine ⟨[], (List.append_nil _).symm, ⟨[], .nil, ?_⟩, ?_⟩
    · rw [List.append_nil]
      cases a.threshold (startApprovals thresholds events).db <;> rfl
    · intro t ht
      refine ⟨t, ?_, ?_⟩
      · rw [ht]
        rfl
      · simp

/-- Over every interleaving of the statements in which a call that found no row comes to its upsert
while there is none, the threshold is the largest of what was measured, and the deltas of the stored
events sum to the threshold less the base. -/
theorem learning_deltas_telescope (a : Approvals ι)
    (thresholds : Dict (String × String × String) ℤ)
    (events : Dict (String × String × String) LearningEvent) (schedule : List ι)
    (hcondition : ∀ step ∈ trace (learningTick a) (startApprovals thresholds events) schedule,
      FindsStillNone a step) :
    Telescopes a (a.threshold (startApprovals thresholds events).db)
      (storedSince (startApprovals thresholds events).db
        (final (learningTick a) (startApprovals thresholds events) schedule).db)
      (a.threshold (final (learningTick a) (startApprovals thresholds events) schedule).db) := by
  have hordered := invariant_of_guarded (f := learningTick a) (C := FindsStillNone a)
    (I := Ordered a (startApprovals thresholds events).db)
    (fun w i h hc => ordered_learningTick h i hc) (ordered_start thresholds events) schedule
    hcondition
  obtain ⟨stored, hentries, htelescopes⟩ := hordered.grown
  rw [storedSince, hentries, List.drop_left]
  exact htelescopes

end Runs

/-- The approval of a price exception. -/
def priceApproval (id : String) (exposure : ℤ) : Decision :=
  [("id", .str id), ("status", .str "approved"), ("tenant_id", .str "tenant_a"),
    ("data_domain", .str "operational_twin"),
    ("action", .dict [("type", .str "review_price_exception"),
      ("params", .dict [("sku", .str "4011")])]),
    ("expected_outcome", .dict [("revenue_exposure_minor_units", .int exposure)])]

/-- Two exceptions of one product, the first approvals there are. -/
def firstApprovals : Approvals Bool where
  decision := fun second => if second then priceApproval "dec_2" 700 else priceApproval "dec_1" 500
  now := fun _ => "2026-07-01T00:00:00+00:00"
  tenantId := "tenant_a"
  dataDomain := "operational_twin"
  metric := "4011:price_exception_exposure_minor_units"
  tenant := by decide +kernel
  domain := by decide +kernel
  routed := fun second => ⟨"4011", by cases second <;> decide +kernel⟩
  distinct := by decide +kernel

/-- One call after the other. -/
theorem telescopes_in_turn :
    Telescopes firstApprovals (firstApprovals.threshold (startApprovals .empty .empty).db)
      (storedSince (startApprovals .empty .empty).db
        (final (learningTick firstApprovals) (startApprovals .empty .empty)
          (List.replicate 6 false ++ List.replicate 6 true)).db)
      (firstApprovals.threshold (final (learningTick firstApprovals) (startApprovals .empty .empty)
        (List.replicate 6 false ++ List.replicate 6 true)).db) :=
  learning_deltas_telescope firstApprovals .empty .empty
    (List.replicate 6 false ++ List.replicate 6 true) (by decide +kernel)

/-- Both calls find no row before either has committed one. -/
def overlapping : List Bool :=
  [false, false, true, true] ++ List.replicate 4 false ++ List.replicate 4 true

theorem overlapping_deltas :
    firstApprovals.threshold (final (learningTick firstApprovals) (startApprovals .empty .empty)
        overlapping).db = some 700 ∧
      (storedSince (startApprovals .empty .empty).db (final (learningTick firstApprovals)
          (startApprovals .empty .empty) overlapping).db).map
        (fun entry => (entry.2.previousThreshold, entry.2.deltaUnits)) = [(0, 500), (0, 700)] := by
  decide +kernel

/-- The deltas of two first approvals overlap. -/
theorem first_approvals_overlap :
    ¬ ∀ (a : Approvals Bool) (thresholds : Dict (String × String × String) ℤ)
      (events : Dict (String × String × String) LearningEvent) (schedule : List Bool),
      Telescopes a (a.threshold (startApprovals thresholds events).db)
        (storedSince (startApprovals thresholds events).db
          (final (learningTick a) (startApprovals thresholds events) schedule).db)
        (a.threshold (final (learningTick a) (startApprovals thresholds events) schedule).db) := by
  intro h
  obtain ⟨hthreshold, hstored⟩ := overlapping_deltas
  obtain ⟨base, hbase, hsum⟩ := (h firstApprovals .empty .empty overlapping).deltas 700 hthreshold
  have hfirst : base = 0 := by
    have hhead := congrArg (fun l => l.head?.map Prod.fst) hstored
    simp only [List.head?_map, Option.map_map] at hhead
    have hnone : firstApprovals.threshold (startApprovals .empty .empty).db = none := rfl
    rw [hnone, Option.none_or] at hbase
    exact Option.some.inj (hbase.symm.trans hhead)
  have htotal := congrArg (fun l => (l.map Prod.snd).sum) hstored
  simp only [List.map_map] at htotal
  have htotal' : (700 : ℤ) - base = 1200 := hsum.symm.trans htotal
  omega

end ShelfWise.Memory
