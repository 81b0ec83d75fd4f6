import ShelfWise.Py.Digest

/-!
# JSON documents

The values a JSON text can denote and when they can be printed.
-/

namespace Py

namespace Value

/-! ## Printing -/

mutual

/-- Every integer of a document is one that the interpreter prints. -/
def printable : Value → Bool
  | .int n => (Nat.toDigits 10 n.natAbs).length ≤ maxStrDigits
  | .list items => printableList items
  | .dict items => printableItems items
  | _ => true

def printableList : List Value → Bool
  | [] => true
  | v :: rest => printable v && printableList rest

def printableItems : List (String × Value) → Bool
  | [] => true
  | (_, v) :: rest => printable v && printableItems rest

end

theorem printableList_iff {values : List Value} :
    printableList values = true ↔ ∀ v ∈ values, printable v = true := by
  induction values with
  | nil => exact iff_of_true rfl fun _ h => nomatch h
  | cons v rest ih => rw [printableList, Bool.and_eq_true, ih, List.forall_mem_cons]

theorem printableItems_iff {items : List (String × Value)} :
    printableItems items = true ↔ ∀ e ∈ items, printable e.2 = true := by
  induction items with
  | nil => exact iff_of_true rfl fun _ h => nomatch h
  | cons e rest ih => rw [printableItems, Bool.and_eq_true, ih, List.forall_mem_cons]

/-- What printing a document with too long an integer raises. -/
def digitsError : Exc :=
  .valueError ("Exceeds the limit (4300 digits) for integer string conversion; " ++
    "use sys.set_int_max_str_digits() to increase the limit")

/-- `str(v)`. -/
def printed (v : Value) : Except Exc String :=
  if v.printable then .ok v.toText else .error digitsError

/-- `json.dumps(v, sort_keys=True, separators=(",", ":"))`. -/
def encoded (v : Value) : Except Exc String :=
  if v.printable then .ok (dumps v) else .error digitsError

end Value

end Py
