import ShelfWise.Py.Value

/-!
# The decision store

`shelfwise_action/store.py`, the in-memory store and what both stores share: a decision is a JSON
object under its id, an `upsert` merges it into what is stored, and a decision whose status is
terminal is not touched any more.

`now` is the text of the clock.
-/

namespace ShelfWise.Decisions

open Py

/-- A decision as a store keeps it. -/
abbrev Decision := List (String × Value)

/-- `status in {"approved", "rejected"}`. -/
def isTerminalStatus : Value → Except Exc Bool
  | .list _ => .error (.typeError "unhashable type: 'list'")
  | .dict _ => .error (.typeError "unhashable type: 'dict'")
  | status => .ok (status = .str "approved" ∨ status = .str "rejected")

/-- `existing and existing.get("status") in {"approved", "rejected"}`. -/
def isTerminal : Option Decision → Except Exc Bool
  | none | some [] => .ok false
  | some existing => isTerminalStatus (Value.get existing "status")

/-- `str(decision.get("id", ""))`. -/
def decisionId (decision : Decision) : String := (Value.getD decision "id" (.str "")).toText

/-- The record an `upsert` stores: the decision merged into what is there, with the defaults. -/
def mergedRecord (now : String) (existing : Option Decision) (decision : Decision) : Decision :=
  let record := Value.updateItems (existing.getD []) decision
  let record := Value.setDefault record "data_domain" (.str "world_simulation")
  let record := Value.setDefault record "created_at" (.str now)
  let record := Value.setDefault record "updated_at" (Value.get record "created_at")
  Value.setDefault record "review" .none

/-- `InMemoryDecisionStore`. -/
abbrev Store := Dict String Decision

/-- `upsert` of the in-memory store. -/
def upsert (now : String) (decision : Decision) (s : Store) : Store × Except Exc Decision :=
  if decisionId decision = "" then (s, .error (.valueError "decision must include id"))
  else match isTerminal (s.get? (decisionId decision)) with
    | .error e => (s, .error e)
    | .ok true => (s, .ok ((s.get? (decisionId decision)).getD []))
    | .ok false =>
      let record := mergedRecord now (s.get? (decisionId decision)) decision
      (s.set (decisionId decision) record, .ok record)

/-- The payload `annotate` writes. -/
def annotated (now : String) (current fields : Decision) : Decision :=
  Value.setItem (Value.updateItems current fields) "updated_at" (.str now)

/-- `annotate` of the in-memory store. -/
def annotate (now id : String) (fields : Decision) (s : Store) : Store × Option Decision :=
  match s.get? id with
  | none => (s, none)
  | some item => (s.set id (annotated now item fields), some (annotated now item fields))

/-- The payload of a transition. -/
def reviewed (now status reviewer : String) (current : Decision) : Decision :=
  let updated := Value.setItem (Value.setItem current "status" (.str status)) "updated_at" (.str now)
  Value.setItem updated "review" (.dict [("reviewer", .str reviewer), ("status", .str status),
    ("reviewed_at", .str now)])

/-- `_transition` of the in-memory store. -/
def transition (now id status reviewer : String) (s : Store) :
    Store × Except Exc (Option Decision) :=
  match s.get? id with
  | none => (s, .ok none)
  | some item => match isTerminalStatus (Value.get item "status") with
    | .error e => (s, .error e)
    | .ok true => (s, .ok (some item))
    | .ok false =>
      let updated := reviewed now status reviewer item
      (s.set id updated, .ok (some updated))

/-! ## Fields -/

/-- A field that an annotation does not name stays. -/
theorem get_annotated_of_not_mem (now : String) (current : Decision) {fields : Decision}
    {key : String} (h : key ∉ "updated_at" :: fields.map Prod.fst) :
    Value.get (annotated now current fields) key = Value.get current key := by
  rw [List.mem_cons, not_or] at h
  rw [annotated, Value.get_setItem, if_neg (Ne.symm h.1), Value.get_updateItems_of_not_mem h.2]

theorem get_reviewed_status (now status reviewer : String) (current : Decision) :
    Value.get (reviewed now status reviewer current) "status" = .str status := by
  simp [reviewed, Value.get_setItem]

/-- A transition leaves the fields that are not about the review. -/
theorem get_reviewed_of_not_mem (now status reviewer : String) (current : Decision) {key : String}
    (h : key ∉ ["status", "updated_at", "review"]) :
    Value.get (reviewed now status reviewer current) key = Value.get current key := by
  simp only [List.mem_cons, List.not_mem_nil, or_false, not_or] at h
  rw [reviewed, Value.get_setItem, if_neg (Ne.symm h.2.2), Value.get_setItem,
    if_neg (Ne.symm h.2.1), Value.get_setItem, if_neg (Ne.symm h.1)]

end ShelfWise.Decisions
