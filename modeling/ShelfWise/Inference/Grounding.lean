import ShelfWise.Py.Float

/-!
# Grounded conclusions

`shelfwise_inference/tool_calling.py`: the numbers of a tool's arguments and result that are worth
citing, and the check that a conclusion cites a computed number of every execution. A number counts
as cited when its text occurs somewhere in the conclusion.

`accepts_iff` says what the check accepts, in terms of the leaves of the documents. It looks for one
number of each execution and at no other number of the conclusion.
-/

namespace ShelfWise.Inference

open Py

/-! ## Leaves -/

mutual

/-- The values of a document that are no containers, in order. -/
def leaves : Value → List Value
  | .dict items => leavesOfItems items
  | .list items => leavesOfList items
  | leaf => [leaf]

def leavesOfList : List Value → List Value
  | [] => []
  | v :: rest => leaves v ++ leavesOfList rest

def leavesOfItems : List (String × Value) → List Value
  | [] => []
  | (_, v) :: rest => leaves v ++ leavesOfItems rest

end

/-! ## Salient numbers -/

/-- `abs(parsed) >= 10 or parsed != int(parsed)`. -/
def isSalientFloat : FloatValue → Except Exc Bool
  | .finite q => .ok (10 ≤ |q| ∨ q.den ≠ 1)
  | .infinity _ => .ok true
  | .nan => .error (.valueError "cannot convert float NaN to integer")

/-- The texts `walk` appends for a value that is no container: the number it shows, if it is worth
a citation. -/
def salientOfLeaf : Value → Except Exc (List String)
  | .int n => if 10 ≤ |n| then do
      let text ← Value.printInt n
      .ok [text]
    else .ok []
  | .float f => do
    let salient ← isSalientFloat f.value
    .ok (if salient then [f.repr] else [])
  | .str s => match FloatValue.ofText s with
    | none => .ok []
    | some parsed => do
      let salient ← isSalientFloat parsed
      .ok (if salient then [s] else [])
  | .none | .bool _ | .list _ | .dict _ => .ok []

mutual

/-- `extract_salient_numbers`. -/
def extractSalientNumbers : Value → Except Exc (List String)
  | .dict items => extractFromItems items
  | .list items => extractFromList items
  | leaf => salientOfLeaf leaf

def extractFromList : List Value → Except Exc (List String)
  | [] => .ok []
  | v :: rest => do
    let found ← extractSalientNumbers v
    let more ← extractFromList rest
    .ok (found ++ more)

def extractFromItems : List (String × Value) → Except Exc (List String)
  | [] => .ok []
  | (_, v) :: rest => do
    let found ← extractSalientNumbers v
    let more ← extractFromItems rest
    .ok (found ++ more)

end

/-! ## The check -/

/-- `ToolExecution`, with the fields the check reads. -/
structure ToolExecution where
  name : String
  arguments : List (String × Value)
  result : Value
  deriving DecidableEq

/-- `UngroundedAnswerError` of an execution. -/
def ungroundedAnswer (execution : ToolExecution) (outputNumbers : List String) : Exc :=
  .raised "UngroundedAnswerError"
    ("conclusion never cites any computed value from " ++ execution.name ++
      "'s result (expected one of " ++ Value.repr (.list ((outputNumbers.take 5).map .str)) ++
      ") - answer may be ungrounded, not calculator-backed")

/-- The numbers of the result that the arguments do not have. -/
def outputNumbers (execution : ToolExecution) : Except Exc (List String) := do
  let inputs ← extractSalientNumbers (.dict execution.arguments)
  let outputs ← extractSalientNumbers execution.result
  .ok (outputs.filter fun number => number ∉ inputs)

/-- One round of the loop of the check. -/
def assertExecutionCited (conclusion : String) (execution : ToolExecution) : Except Exc Unit := do
  let numbers ← outputNumbers execution
  if numbers.isEmpty ∨ numbers.any fun number => contains conclusion number then .ok ()
  else .error (ungroundedAnswer execution numbers)

/-- `assert_conclusion_grounded_in_tool_results`. -/
def assertConclusionGrounded (conclusion : String) : List ToolExecution → Except Exc Unit
  | [] => .ok ()
  | execution :: rest => do
    assertExecutionCited conclusion execution
    assertConclusionGrounded conclusion rest

/-! ## What is extracted -/

/-- A leaf shows a number worth a citation, with this text. -/
def Shows (leaf : Value) (number : String) : Prop :=
  ∃ texts, salientOfLeaf leaf = .ok texts ∧ number ∈ texts

/-- Every number in a document can be read and printed. -/
def Readable (v : Value) : Prop := ∀ leaf ∈ leaves v, ∃ texts, salientOfLeaf leaf = .ok texts

/-- What one value and the values after it have in common with their leaves. -/
structure Extracts (leaves : List Value) (found : Except Exc (List String)) : Prop where
  ok_iff : (∃ numbers, found = .ok numbers) ↔
    ∀ leaf ∈ leaves, ∃ texts, salientOfLeaf leaf = .ok texts
  mem_iff : ∀ numbers, found = .ok numbers →
    ∀ number, number ∈ numbers ↔ ∃ leaf ∈ leaves, Shows leaf number

theorem Extracts.nil : Extracts [] (.ok []) where
  ok_iff := iff_of_true ⟨[], rfl⟩ (fun _ h => nomatch h)
  mem_iff := by
    intro numbers h number
    cases h
    simp

theorem Extracts.leaf (leaf : Value) : Extracts [leaf] (salientOfLeaf leaf) where
  ok_iff := by simp
  mem_iff := by
    intro numbers h number
    simp [Shows, h]

theorem Extracts.append {ls ms : List Value} {found more : Except Exc (List String)}
    (hls : Extracts ls found) (hms : Extracts ms more) :
    Extracts (ls ++ ms) (do
      let a ← found
      let b ← more
      .ok (a ++ b)) := by
  cases found with
  | error e =>
    refine ⟨?_, fun numbers h => nomatch h⟩
    have hno : ¬ ∀ leaf ∈ ls, ∃ texts, salientOfLeaf leaf = .ok texts := fun h => by
      obtain ⟨numbers, hn⟩ := hls.ok_iff.mpr h
      cases hn
    refine iff_of_false (fun ⟨numbers, hn⟩ => nomatch hn) fun h => hno fun leaf hl => ?_
    exact h leaf (List.mem_append_left ms hl)
  | ok a =>
    cases more with
    | error e =>
      refine ⟨?_, fun numbers h => nomatch h⟩
      have hno : ¬ ∀ leaf ∈ ms, ∃ texts, salientOfLeaf leaf = .ok texts := fun h => by
        obtain ⟨numbers, hn⟩ := hms.ok_iff.mpr h
        cases hn
      refine iff_of_false (fun ⟨numbers, hn⟩ => nomatch hn) fun h => hno fun leaf hl => ?_
      exact h leaf (List.mem_append_right ls hl)
    | ok b =>
      constructor
      · refine iff_of_true ⟨a ++ b, rfl⟩ fun leaf hl => ?_
        rcases List.mem_append.mp hl with hl | hl
        · exact hls.ok_iff.mp ⟨a, rfl⟩ leaf hl
        · exact hms.ok_iff.mp ⟨b, rfl⟩ leaf hl
      · intro numbers hn number
        cases hn
        rw [List.mem_append, hls.mem_iff a rfl, hms.mem_iff b rfl]
        simp only [List.mem_append, or_and_right, exists_or]

mutual

/-- The extraction collects what the leaves show. -/
theorem extracts : (v : Value) → Extracts (leaves v) (extractSalientNumbers v)
  | .dict items => by
    rw [leaves, extractSalientNumbers]
    exact extracts_items items
  | .list items => by
    rw [leaves, extractSalientNumbers]
    exact extracts_list items
  | .none => by simpa only [leaves, extractSalientNumbers] using Extracts.leaf .none
  | .bool b => by simpa only [leaves, extractSalientNumbers] using Extracts.leaf (.bool b)
  | .int n => by simpa only [leaves, extractSalientNumbers] using Extracts.leaf (.int n)
  | .float f => by simpa only [leaves, extractSalientNumbers] using Extracts.leaf (.float f)
  | .str s => by simpa only [leaves, extractSalientNumbers] using Extracts.leaf (.str s)

theorem extracts_list : (items : List Value) →
    Extracts (leavesOfList items) (extractFromList items)
  | [] => by
    rw [leavesOfList, extractFromList]
    exact Extracts.nil
  | v :: rest => by
    rw [leavesOfList, extractFromList]
    exact (extracts v).append (extracts_list rest)

theorem extracts_items : (items : List (String × Value)) →
    Extracts (leavesOfItems items) (extractFromItems items)
  | [] => by
    rw [leavesOfItems, extractFromItems]
    exact Extracts.nil
  | (_, v) :: rest => by
    rw [leavesOfItems, extractFromItems]
    exact (extracts v).append (extracts_items rest)

end

/-! ## What is accepted -/

/-- A number the tool computed: a salient number of its result that its arguments do not show. -/
def Computed (execution : ToolExecution) (number : String) : Prop :=
  (∃ leaf ∈ leaves execution.result, Shows leaf number) ∧
    ¬ ∃ leaf ∈ leaves (.dict execution.arguments), Shows leaf number

/-- What the check asks of one execution. -/
structure CitedBy (conclusion : String) (execution : ToolExecution) : Prop where
  arguments : Readable (.dict execution.arguments)
  result : Readable execution.result
  cites : (∃ number, Computed execution number) →
    ∃ number, Computed execution number ∧ number.toList <:+: conclusion.toList

theorem contains_iff (s needle : String) : contains s needle = true ↔ needle.toList <:+: s.toList := by
  rw [contains, decide_eq_true_iff]

/-- The output numbers are the computed ones. -/
theorem outputNumbers_spec (execution : ToolExecution) :
    ((∃ numbers, outputNumbers execution = .ok numbers) ↔
      Readable (.dict execution.arguments) ∧ Readable execution.result) ∧
    ∀ numbers, outputNumbers execution = .ok numbers →
      ∀ number, number ∈ numbers ↔ Computed execution number := by
  have hin := extracts (.dict execution.arguments)
  have hout := extracts execution.result
  rw [outputNumbers]
  cases hi : extractSalientNumbers (.dict execution.arguments) with
  | error e =>
    rw [hi] at hin
    refine ⟨iff_of_false (fun ⟨numbers, hn⟩ => nomatch hn) fun h => ?_, fun _ h => nomatch h⟩
    obtain ⟨numbers, hn⟩ := hin.ok_iff.mpr h.1
    cases hn
  | ok inputs =>
    rw [hi] at hin
    cases ho : extractSalientNumbers execution.result with
    | error e =>
      rw [ho] at hout
      refine ⟨iff_of_false (fun ⟨numbers, hn⟩ => nomatch hn) fun h => ?_, fun _ h => nomatch h⟩
      obtain ⟨numbers, hn⟩ := hout.ok_iff.mpr h.2
      cases hn
    | ok outputs =>
      rw [ho] at hout
      refine ⟨iff_of_true ⟨_, rfl⟩ ⟨hin.ok_iff.mp ⟨inputs, rfl⟩, hout.ok_iff.mp ⟨outputs, rfl⟩⟩, ?_⟩
      intro numbers hn number
      cases hn
      rw [List.mem_filter, hout.mem_iff outputs rfl, decide_eq_true_iff, hin.mem_iff inputs rfl]
      rfl

theorem assertExecutionCited_iff (conclusion : String) (execution : ToolExecution) :
    assertExecutionCited conclusion execution = .ok () ↔ CitedBy conclusion execution := by
  obtain ⟨hok, hmem⟩ := outputNumbers_spec execution
  rw [assertExecutionCited]
  cases hn : outputNumbers execution with
  | error e =>
    refine iff_of_false (fun h => nomatch h) fun h => ?_
    obtain ⟨numbers, h'⟩ := hok.mpr ⟨h.arguments, h.result⟩
    rw [hn] at h'
    cases h'
  | ok numbers =>
    obtain ⟨hargs, hres⟩ := hok.mp ⟨numbers, hn⟩
    have hmem := hmem numbers hn
    have hiff : (numbers.isEmpty = true ∨
          (numbers.any fun number => contains conclusion number) = true) ↔
        ((∃ number, Computed execution number) →
          ∃ number, Computed execution number ∧ number.toList <:+: conclusion.toList) := by
      simp only [List.any_eq_true, contains_iff, ← hmem]
      cases numbers with
      | nil => simp
      | cons number rest => simp
    show (if _ then _ else _) = _ ↔ _
    split
    · rename_i h
      exact iff_of_true rfl ⟨hargs, hres, hiff.mp h⟩
    · rename_i h
      exact iff_of_false (fun h' => nomatch h') fun h' => h (hiff.mpr h'.cites)

/-- **What the check accepts.** A conclusion is accepted exactly when the numbers of every execution
can be read and, of every execution that computed numbers, one occurs in the conclusion. -/
theorem accepts_iff (conclusion : String) (executions : List ToolExecution) :
    assertConclusionGrounded conclusion executions = .ok () ↔
      ∀ execution ∈ executions, CitedBy conclusion execution := by
  induction executions with
  | nil => simp [assertConclusionGrounded]
  | cons execution rest ih =>
    rw [assertConclusionGrounded, List.forall_mem_cons, ← ih, ← assertExecutionCited_iff]
    cases assertExecutionCited conclusion execution with
    | error e => exact iff_of_false (fun h => nomatch h) fun h => nomatch h.1
    | ok u => exact (and_iff_right rfl).symm

/-! ## Figures that no tool produced -/

/-- The numerals of a text, by their values. -/
def numeralsOf (text : String) : List ℚ :=
  (text.toList.splitOnP fun c => !(c.isDigit || c == '.')).filterMap FloatValue.readRat

/-- The numerals of a document. -/
def numeralsOfValue (v : Value) : List ℚ := (leaves v).flatMap fun leaf => numeralsOf leaf.toText

/-- Every salient numeral of the conclusion stands in the arguments or the result of an execution. -/
def OnlyGroundedNumbers (conclusion : String) (executions : List ToolExecution) : Prop :=
  ∀ x ∈ numeralsOf conclusion, isSalientFloat (.finite x) = .ok true →
    ∃ execution ∈ executions, x ∈ numeralsOfValue (.dict execution.arguments) ∨
      x ∈ numeralsOfValue execution.result

/-- A tool that says how much to order. -/
def reorderExecution : ToolExecution where
  name := "get_reorder_quantity"
  arguments := [("sku", .str "4011")]
  result := .dict [("sku", .str "4011"), ("units", .int 250)]

/-- A conclusion with one genuine figure is accepted along with an invented one. -/
theorem accepts_invented_number :
    assertConclusionGrounded "Order 250 units, which earns 999 rand." [reorderExecution] = .ok () ∧
      ¬ OnlyGroundedNumbers "Order 250 units, which earns 999 rand." [reorderExecution] := by
  constructor
  · decide +kernel
  · intro h
    obtain ⟨execution, hmem, hx⟩ := h 999 (by decide +kernel) (by decide +kernel)
    rw [List.mem_singleton] at hmem
    subst hmem
    revert hx
    decide +kernel

end ShelfWise.Inference
