import ShelfWise.Decisions.Store
import ShelfWise.Sys.Program
import ShelfWise.Sys.Run

/-!
# The Postgres decision store under concurrency

`PostgresDecisionStore` of `shelfwise_action/store.py`, with one atomic step per SQL statement. A
row has the payload of its decision and the status once more in a column of its own, which the
`where` clauses of `upsert` and of a transition look at. The `update` of `annotate` has no such
clause: it writes the status and the payload it read, whatever has happened to the row since.

`terminal_stays` says what is enough for the verdict on a decision to stay once it is there: an
`annotate` that writes over a terminal row writes the verdict that the row has.

The texts of the clock are arguments of the calls. The columns for the tenant, the domain and the
times are left out, since no statement here reads them.
-/

namespace ShelfWise.Decisions

open Py Sys

/-! ## Rows and statements -/

/-- A row of `shelfwise_decisions`. -/
structure DecisionRow where
  status : String
  payload : Decision
deriving DecidableEq

/-- The table, by id. -/
abbrev Table := Dict String DecisionRow

/-- The row of a payload: `str(payload.get("status", ""))` in the status column. -/
def DecisionRow.ofPayload (payload : Decision) : DecisionRow :=
  ⟨(Value.getD payload "status" (.str "")).toText, payload⟩

/-- `status in ('approved', 'rejected')` of the status column. -/
def DecisionRow.isTerminal (row : DecisionRow) : Bool :=
  row.status = "approved" ∨ row.status = "rejected"

/-- The SQL statements, with their parameters. -/
inductive DecisionOp where
  | select (id : String)
  | insertOrUpdate (id : String) (record : Decision)
  | transition (id status : String) (payload : Decision)
  | savePayload (id : String) (payload : Decision)
deriving DecidableEq

/-- What a statement does to the table. -/
def DecisionOp.act : DecisionOp → Table → Table
  | .select _, t => t
  | .insertOrUpdate id record, t => match t.get? id with
    | none => t.set id (.ofPayload record)
    | some row => if row.isTerminal then t else t.set id (.ofPayload record)
  | .transition id status payload, t => match t.get? id with
    | none => t
    | some row => if row.status = "pending" then t.set id ⟨status, payload⟩ else t
  | .savePayload id payload, t => match t.get? id with
    | none => t
    | some _ => t.set id (.ofPayload payload)

/-- The id a statement is about. -/
def DecisionOp.id : DecisionOp → String
  | .select id | .insertOrUpdate id _ | .transition id _ _ | .savePayload id _ => id

/-- A statement leaves the rows of other ids alone. -/
theorem get?_act_ne {op : DecisionOp} {id : String} (h : op.id ≠ id) (t : Table) :
    (op.act t).get? id = t.get? id := by
  cases op with
  | select id' => rfl
  | insertOrUpdate id' record =>
    simp only [DecisionOp.act]
    split
    · exact Dict.get?_set_ne t h _
    · split
      · rfl
      · exact Dict.get?_set_ne t h _
  | transition id' status payload =>
    simp only [DecisionOp.act]
    split
    · rfl
    · split
      · exact Dict.get?_set_ne t h _
      · rfl
  | savePayload id' payload =>
    simp only [DecisionOp.act]
    split
    · rfl
    · exact Dict.get?_set_ne t h _

/-- The step of a statement, with what the caller reads of the table before it. -/
def perform {α : Type} (op : DecisionOp) (answer : Table → α) : Program DecisionOp Table α :=
  Program.call op fun t => (op.act t, answer t)

/-! ## Methods -/

/-- `get`. -/
def get (id : String) : Program DecisionOp Table (Option Decision) :=
  perform (.select id) fun t => (t.get? id).map (·.payload)

/-- `upsert`. -/
def pgUpsert (now : String) (decision : Decision) :
    Program DecisionOp Table (Except Exc (Option Decision)) :=
  if decisionId decision = "" then .ret (.error (.valueError "decision must include id"))
  else get (decisionId decision) >>= fun existing =>
    match isTerminal existing with
    | .error e => .ret (.error e)
    | .ok true => .ret (.ok existing)
    | .ok false =>
      let record := mergedRecord now existing decision
      perform (.insertOrUpdate (decisionId decision) record) (fun _ => ()) >>= fun _ =>
        get (decisionId decision) >>= fun stored => .ret (.ok (some (match stored with
          | none | some [] => record
          | some payload => payload)))

/-- `annotate`. -/
def pgAnnotate (now id : String) (fields : Decision) :
    Program DecisionOp Table (Except Exc (Option Decision)) :=
  get id >>= fun current => match current with
    | none => .ret (.ok none)
    | some current =>
      perform (.savePayload id (annotated now current fields)) (fun _ => ()) >>= fun _ =>
        .ret (.ok (some (annotated now current fields)))

/-- `_transition`. -/
def pgTransition (now id status reviewer : String) :
    Program DecisionOp Table (Except Exc (Option Decision)) :=
  get id >>= fun current => match current with
    | none => .ret (.ok none)
    | some current => match isTerminalStatus (Value.get current "status") with
      | .error e => .ret (.error e)
      | .ok true => .ret (.ok (some current))
      | .ok false =>
        let updated := reviewed now status reviewer current
        perform (.transition id status updated)
            (fun t => (t.get? id).any fun row => row.status = "pending") >>= fun done =>
          if done then .ret (.ok (some updated)) else get id >>= fun stored => .ret (.ok stored)

/-- A call of the store. -/
inductive DecisionCall where
  | upsert (now : String) (decision : Decision)
  | annotate (now id : String) (fields : Decision)
  | approve (now id reviewer : String)
  | reject (now id reviewer : String)

/-- The statements of a call. -/
def DecisionCall.program : DecisionCall → Program DecisionOp Table (Except Exc (Option Decision))
  | .upsert now decision => pgUpsert now decision
  | .annotate now id fields => pgAnnotate now id fields
  | .approve now id reviewer => pgTransition now id "approved" reviewer
  | .reject now id reviewer => pgTransition now id "rejected" reviewer

theorem labelled_get_bind {α : Type} {id : String}
    {k : Option Decision → Program DecisionOp Table α}
    (h : ∀ d, (k d).Labelled DecisionOp.act) : (get id >>= k).Labelled DecisionOp.act :=
  ⟨rfl, fun _ => h _⟩

theorem labelled_perform_bind {α β : Type} {op : DecisionOp} {answer : Table → α}
    {k : α → Program DecisionOp Table β} (h : ∀ a, (k a).Labelled DecisionOp.act) :
    (perform op answer >>= k).Labelled DecisionOp.act :=
  ⟨rfl, fun _ => h _⟩

/-- Every step of a call is the statement its label says. -/
theorem labelled_program (c : DecisionCall) : c.program.Labelled DecisionOp.act := by
  have htransition : ∀ now id status reviewer,
      (pgTransition now id status reviewer).Labelled DecisionOp.act := by
    intro now id status reviewer
    refine labelled_get_bind fun current => ?_
    cases current with
    | none => trivial
    | some current =>
      simp only
      cases isTerminalStatus (Value.get current "status") with
      | error e => trivial
      | ok terminal =>
        cases terminal with
        | true => trivial
        | false =>
          refine labelled_perform_bind fun done => ?_
          cases done with
          | true => trivial
          | false => exact labelled_get_bind fun _ => trivial
  cases c with
  | upsert now decision =>
    change (pgUpsert now decision).Labelled DecisionOp.act
    unfold pgUpsert
    split
    · trivial
    · refine labelled_get_bind fun existing => ?_
      cases isTerminal existing with
      | error e => trivial
      | ok terminal =>
        cases terminal with
        | true => trivial
        | false => exact labelled_perform_bind fun _ => labelled_get_bind fun _ => trivial
  | annotate now id fields =>
    refine labelled_get_bind fun current => ?_
    cases current with
    | none => trivial
    | some current => exact labelled_perform_bind fun _ => trivial
  | approve now id reviewer => exact htransition now id "approved" reviewer
  | reject now id reviewer => exact htransition now id "rejected" reviewer

/-! ## The verdict on a decision -/

/-- The verdict of a row: the status in its column, and the status and the review block of its
payload. -/
def DecisionRow.verdict (row : DecisionRow) : String × Value × Value :=
  (row.status, Value.get row.payload "status", Value.get row.payload "review")

/-- A statement of `annotate` that meets a terminal row writes the verdict of the row. -/
def KeepsVerdict (t : Table) : Option DecisionOp → Prop
  | some (.savePayload id payload) => ∀ row, t.get? id = some row → row.isTerminal = true →
      (DecisionRow.ofPayload payload).verdict = row.verdict
  | _ => True

/-- A statement leaves the verdict of a terminal row, under the condition on `annotate`. -/
theorem verdict_act {t : Table} {id : String} {row : DecisionRow} (hrow : t.get? id = some row)
    (hterminal : row.isTerminal = true) (op : DecisionOp) (hkeeps : KeepsVerdict t (some op)) :
    ∃ row', (op.act t).get? id = some row' ∧ row'.verdict = row.verdict := by
  by_cases hid : op.id = id
  · subst hid
    cases op with
    | select id' => exact ⟨row, hrow, rfl⟩
    | insertOrUpdate id' record =>
      have hrow' : t.get? id' = some row := hrow
      refine ⟨row, ?_, rfl⟩
      simp only [DecisionOp.act, DecisionOp.id, hrow', hterminal, if_true]
    | transition id' status payload =>
      have hrow' : t.get? id' = some row := hrow
      have hpending : row.status ≠ "pending" := by
        intro h
        simp [DecisionRow.isTerminal, h] at hterminal
      refine ⟨row, ?_, rfl⟩
      simp only [DecisionOp.act, DecisionOp.id, hrow', hpending, if_false]
    | savePayload id' payload =>
      have hrow' : t.get? id' = some row := hrow
      refine ⟨.ofPayload payload, ?_, hkeeps row hrow' hterminal⟩
      simp only [DecisionOp.act, DecisionOp.id, hrow', Dict.get?_set_self]
  · exact ⟨row, (get?_act_ne hid t).trans hrow, rfl⟩

theorem isTerminal_of_verdict {row row' : DecisionRow} (h : row'.verdict = row.verdict)
    (hterminal : row.isTerminal = true) : row'.isTerminal = true := by
  have hstatus : row'.status = row.status := congrArg Prod.fst h
  rw [DecisionRow.isTerminal, hstatus]
  exact hterminal

/-! ## Interleaved calls -/

section Interleaving

variable {ι : Type}

/-- The shared table and what is left of each call. -/
abbrev DecisionPool (ι : Type) := Program.Pool ι DecisionOp Table (Except Exc (Option Decision))

/-- The calls before any of them has taken a step. -/
def startCalls (t : Table) (call : ι → DecisionCall) : DecisionPool ι :=
  ⟨t, fun i => (call i).program⟩

variable [DecidableEq ι]

/-- The condition on a step: when it is the `update` of an `annotate`, it keeps the verdict. -/
def VerdictKept (step : Step (DecisionPool ι) ι Unit) : Prop :=
  KeepsVerdict step.before.store (step.before.program step.input).nextLabel

/-- The steps of every call are the statements their labels say. -/
theorem labelled_final {w : DecisionPool ι} (h : ∀ i, (w.program i).Labelled DecisionOp.act)
    (schedule : List ι) :
    ∀ i, ((final Program.Pool.step w schedule).program i).Labelled DecisionOp.act :=
  invariant_final (I := fun w : DecisionPool ι => ∀ i, (w.program i).Labelled DecisionOp.act)
    (fun _ i hw => (Program.Pool.tick_labelled hw i).1) h schedule

/-- A verdict that is there stays through a run whose steps keep it. -/
theorem verdict_final {w : DecisionPool ι} (h : ∀ i, (w.program i).Labelled DecisionOp.act)
    {id : String} {row : DecisionRow} (hrow : w.store.get? id = some row)
    (hterminal : row.isTerminal = true) (schedule : List ι)
    (hkept : ∀ step ∈ trace Program.Pool.step w schedule, VerdictKept step) :
    ∃ row', (final Program.Pool.step w schedule).store.get? id = some row' ∧
      row'.verdict = row.verdict := by
  refine (invariant_of_guarded (f := Program.Pool.step) (C := VerdictKept)
    (I := fun w : DecisionPool ι => (∀ i, (w.program i).Labelled DecisionOp.act) ∧
      ∃ row', w.store.get? id = some row' ∧ row'.verdict = row.verdict) ?_ ⟨h, row, hrow, rfl⟩
    schedule hkept).2
  rintro w i ⟨hw, row', hrow', hverdict⟩ hk
  obtain ⟨hw', ⟨-, hsame⟩ | ⟨label, hlabel, hact⟩⟩ := Program.Pool.tick_labelled hw i
  · have hstep : (w.step i).1 = w := hsame
    rw [hstep]
    exact ⟨hw, row', hrow', hverdict⟩
  · refine ⟨hw', ?_⟩
    have hkeeps : KeepsVerdict w.store (some label) := hlabel ▸ hk
    obtain ⟨row'', hrow'', hverdict'⟩ :=
      verdict_act hrow' (isTerminal_of_verdict hverdict hterminal) label hkeeps
    refine ⟨row'', ?_, hverdict'.trans hverdict⟩
    change (w.tick i).store.get? id = some row''
    rw [hact]
    exact hrow''

end Interleaving

/-- A pending decision. -/
def pendingDecision : Decision :=
  [("id", .str "dec_1"), ("status", .str "pending"), ("review", .none)]

/-- The table with the pending decision in it. -/
def pendingTable : Table := Dict.empty.set "dec_1" (.ofPayload pendingDecision)

/-- An approval and an annotation of the decision. -/
def approveAndAnnotate : Bool → DecisionCall
  | true => .approve "2026-07-01T08:00:00+00:00" "dec_1" "demo_manager"
  | false => .annotate "2026-07-01T08:00:01+00:00" "dec_1" [("correction", .none)]

instance (t : Table) (op : Option DecisionOp) : Decidable (KeepsVerdict t op) :=
  match op with
  | none | some (.select _) | some (.insertOrUpdate _ _) | some (.transition _ _ _) =>
    isTrue trivial
  | some (.savePayload id payload) =>
    match h : t.get? id with
    | none => isTrue fun row hrow => by rw [h] at hrow; cases hrow
    | some row =>
      decidable_of_iff (row.isTerminal = true → (DecisionRow.ofPayload payload).verdict = row.verdict)
        ⟨fun hv row' hrow' => by rw [h] at hrow'; cases hrow'; exact hv, fun hv => hv row h⟩

end ShelfWise.Decisions
