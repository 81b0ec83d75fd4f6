import ShelfWise.Inference.Grounding

/-!
# What escapes the check of a conclusion

`extract_salient_numbers` converts every text of a document to a float and the float to an integer. The
conversion to an integer is outside the `try`, and so are the texts of long integers; the walk itself is
recursive. `grounding_total_iff` says when the check comes to an answer or to the error it is meant to
raise.
-/

namespace ShelfWise.Inference

open Py

/-! ## Nesting -/

mutual

/-- How many calls of the walk are open at the innermost value of a document. -/
def nesting : Value → ℕ
  | .dict items => nestingOfItems items + 1
  | .list items => nestingOfList items + 1
  | _ => 1

def nestingOfList : List Value → ℕ
  | [] => 0
  | v :: rest => max (nesting v) (nestingOfList rest)

def nestingOfItems : List (String × Value) → ℕ
  | [] => 0
  | (_, v) :: rest => max (nesting v) (nestingOfItems rest)

end

theorem nestingOfList_le_iff {items : List Value} {n : ℕ} :
    nestingOfList items ≤ n ↔ ∀ v ∈ items, nesting v ≤ n := by
  induction items with
  | nil => exact iff_of_true (Nat.zero_le n) (List.forall_mem_nil _)
  | cons v rest ih => rw [nestingOfList, max_le_iff, ih, List.forall_mem_cons]

theorem nestingOfItems_le_iff {items : List (String × Value)} {n : ℕ} :
    nestingOfItems items ≤ n ↔ ∀ e ∈ items, nesting e.2 ≤ n := by
  induction items with
  | nil => exact iff_of_true (Nat.zero_le n) (List.forall_mem_nil _)
  | cons e rest ih => rw [nestingOfItems, max_le_iff, ih, List.forall_mem_cons]

/-! ## The walk on a bounded stack -/

/-- `extract_salient_numbers` where the interpreter has room for so many nested calls of `walk`. -/
def extractWithin : ℕ → Value → Except Exc (List String)
  | 0, _ => .error (.raised "RecursionError" "maximum recursion depth exceeded")
  | frames + 1, .dict items => do
    let found ← items.mapM fun e => extractWithin frames e.2
    .ok found.flatten
  | frames + 1, .list items => do
    let found ← items.mapM (extractWithin frames)
    .ok found.flatten
  | _ + 1, leaf => salientOfLeaf leaf

/-- The numbers of the result that the arguments do not have. -/
def outputNumbersWithin (frames : ℕ) (execution : ToolExecution) : Except Exc (List String) := do
  let inputs ← extractWithin frames (.dict execution.arguments)
  let outputs ← extractWithin frames execution.result
  .ok (outputs.filter fun number => number ∉ inputs)

/-- One round of the loop of the check. -/
def assertCitedWithin (frames : ℕ) (conclusion : String) (execution : ToolExecution) :
    Except Exc Unit := do
  let numbers ← outputNumbersWithin frames execution
  if numbers.isEmpty ∨ numbers.any fun number => contains conclusion number then .ok ()
  else .error (ungroundedAnswer execution numbers)

/-- `assert_conclusion_grounded_in_tool_results`. -/
def assertGroundedWithin (frames : ℕ) (conclusion : String) : List ToolExecution → Except Exc Unit
  | [] => .ok ()
  | execution :: rest => do
    assertCitedWithin frames conclusion execution
    assertGroundedWithin frames conclusion rest

theorem extractFromList_eq (items : List Value) : extractFromList items = (do
    let found ← items.mapM extractSalientNumbers
    .ok found.flatten) := by
  induction items with
  | nil => rfl
  | cons v rest ih =>
    rw [extractFromList, ih, List.mapM_cons]
    cases extractSalientNumbers v with
    | error e => rfl
    | ok found => cases rest.mapM extractSalientNumbers <;> rfl

theorem extractFromItems_eq (items : List (String × Value)) : extractFromItems items = (do
    let found ← items.mapM fun e => extractSalientNumbers e.2
    .ok found.flatten) := by
  induction items with
  | nil => rfl
  | cons e rest ih =>
    rw [extractFromItems, ih, List.mapM_cons]
    cases extractSalientNumbers e.2 with
    | error e => rfl
    | ok found => cases rest.mapM fun e : String × Value => extractSalientNumbers e.2 <;> rfl

variable {frames : ℕ} {v : Value}

/-- Where the stack is deep enough it does not show. -/
theorem extractWithin_eq (h : nesting v ≤ frames) :
    extractWithin frames v = extractSalientNumbers v := by
  induction frames generalizing v with
  | zero => cases v <;> simp [nesting] at h
  | succ frames ih =>
    cases v with
    | dict items =>
      rw [nesting, Nat.add_le_add_iff_right, nestingOfItems_le_iff] at h
      rw [extractWithin, extractSalientNumbers, extractFromItems_eq,
        mapM_congr_of_mem fun e he => ih (h e he)]
    | list items =>
      rw [nesting, Nat.add_le_add_iff_right, nestingOfList_le_iff] at h
      rw [extractWithin, extractSalientNumbers, extractFromList_eq,
        mapM_congr_of_mem fun v hv => ih (h v hv)]
    | none | bool b | int n | float f | str s => rfl

/-- A walk that goes through has had room for every value. -/
theorem nesting_le_of_extractWithin {numbers : List String}
    (h : extractWithin frames v = .ok numbers) : nesting v ≤ frames := by
  induction frames generalizing v numbers with
  | zero => cases h
  | succ frames ih =>
    cases v with
    | dict items =>
      rw [extractWithin] at h
      obtain ⟨found, hfound, -⟩ := bind_eq_ok_iff.mp h
      rw [nesting, Nat.add_le_add_iff_right, nestingOfItems_le_iff]
      intro e he
      obtain ⟨_, -, hitem⟩ := exists_mem_of_mapM hfound he
      exact ih hitem
    | list items =>
      rw [extractWithin] at h
      obtain ⟨found, hfound, -⟩ := bind_eq_ok_iff.mp h
      rw [nesting, Nat.add_le_add_iff_right, nestingOfList_le_iff]
      intro v hv
      obtain ⟨_, -, hitem⟩ := exists_mem_of_mapM hfound hv
      exact ih hitem
    | none | bool b | int n | float f | str s => exact Nat.le_add_left 1 frames

/-! ## Leaves that escape -/

/-- A leaf that is no NaN, does not read as one, and is no integer whose text is refused. -/
def Harmless : Value → Prop
  | .int n => |n| < 10 ∨ (Nat.toDigits 10 n.natAbs).length ≤ Value.maxStrDigits
  | .float f => f.value ≠ .nan
  | .str s => FloatValue.ofText s ≠ some .nan
  | _ => True

theorem exists_isSalientFloat_iff (x : FloatValue) :
    (∃ salient, isSalientFloat x = .ok salient) ↔ x ≠ .nan := by
  cases x with
  | finite q => exact iff_of_true ⟨_, rfl⟩ FloatValue.noConfusion
  | infinity negative => exact iff_of_true ⟨_, rfl⟩ FloatValue.noConfusion
  | nan => exact iff_of_false (fun ⟨_, h⟩ => by cases h) fun h => h rfl

theorem readable_leaf_iff (leaf : Value) :
    (∃ texts, salientOfLeaf leaf = .ok texts) ↔ Harmless leaf := by
  cases leaf with
  | int n =>
    rw [salientOfLeaf, Harmless, Value.printInt]
    by_cases hlarge : 10 ≤ |n|
    · rw [if_pos hlarge, or_iff_right (not_lt.mpr hlarge)]
      by_cases hlong : Value.maxStrDigits < (Nat.toDigits 10 n.natAbs).length
      · rw [if_pos hlong]
        exact iff_of_false (fun ⟨_, h⟩ => by cases h) (not_le.mpr hlong)
      · rw [if_neg hlong]
        exact iff_of_true ⟨_, rfl⟩ (not_lt.mp hlong)
    · rw [if_neg hlarge]
      exact iff_of_true ⟨_, rfl⟩ (.inl (not_le.mp hlarge))
  | float f =>
    rw [salientOfLeaf, Harmless, ← exists_isSalientFloat_iff]
    cases isSalientFloat f.value with
    | error e => exact iff_of_false (fun ⟨_, h⟩ => by cases h) fun ⟨_, h⟩ => by cases h
    | ok salient => exact iff_of_true ⟨_, rfl⟩ ⟨_, rfl⟩
  | str s =>
    rw [salientOfLeaf, Harmless]
    cases FloatValue.ofText s with
    | none => exact iff_of_true ⟨_, rfl⟩ (Option.some_ne_none _).symm
    | some parsed =>
      rw [ne_eq, Option.some.injEq, ← ne_eq, ← exists_isSalientFloat_iff]
      dsimp only
      cases isSalientFloat parsed with
      | error e => exact iff_of_false (fun ⟨_, h⟩ => by cases h) fun ⟨_, h⟩ => by cases h
      | ok salient => exact iff_of_true ⟨_, rfl⟩ ⟨_, rfl⟩
  | none | bool b | list items | dict items => exact iff_of_true ⟨_, rfl⟩ trivial

/-- A document that the walk has room for, of harmless leaves. -/
structure HarmlessDocument (frames : ℕ) (v : Value) : Prop where
  nesting : nesting v ≤ frames
  leaves : ∀ leaf ∈ leaves v, Harmless leaf

theorem HarmlessDocument.readable (h : HarmlessDocument frames v) :
    Readable v := fun leaf hleaf => (readable_leaf_iff leaf).mpr (h.leaves leaf hleaf)

/-- The walk goes through exactly on harmless documents. -/
theorem exists_extractWithin_iff (frames : ℕ) (v : Value) :
    (∃ numbers, extractWithin frames v = .ok numbers) ↔ HarmlessDocument frames v := by
  constructor
  · rintro ⟨numbers, h⟩
    have hnesting := nesting_le_of_extractWithin h
    rw [extractWithin_eq hnesting] at h
    exact ⟨hnesting, fun leaf hleaf =>
      (readable_leaf_iff leaf).mp ((extracts v).ok_iff.mp ⟨numbers, h⟩ leaf hleaf)⟩
  · intro h
    rw [extractWithin_eq h.nesting]
    exact (extracts v).ok_iff.mpr h.readable

/-! ## Exceptions of another type -/

/-- The error that the check is meant to raise. -/
def IsUngrounded (e : Exc) : Prop := ∃ execution numbers, e = ungroundedAnswer execution numbers

variable {e : Exc}

theorem not_isUngrounded_of_isSalientFloat {x : FloatValue} (h : isSalientFloat x = .error e) :
    ¬ IsUngrounded e := by
  rintro ⟨execution, numbers, rfl⟩
  cases x <;> cases h

theorem not_isUngrounded_of_leaf {leaf : Value} (h : salientOfLeaf leaf = .error e) :
    ¬ IsUngrounded e := by
  cases leaf with
  | int n =>
    rw [salientOfLeaf, Value.printInt] at h
    split_ifs at h
    · rintro ⟨execution, numbers, rfl⟩
      cases h
    · cases h
  | float f =>
    rw [salientOfLeaf] at h
    cases hsalient : isSalientFloat f.value with
    | ok salient => cases hsalient ▸ h
    | error e' =>
      rw [hsalient] at h
      cases h
      exact not_isUngrounded_of_isSalientFloat hsalient
  | str s =>
    rw [salientOfLeaf] at h
    cases hparsed : FloatValue.ofText s with
    | none => cases hparsed ▸ h
    | some parsed =>
      rw [hparsed] at h
      dsimp only at h
      cases hsalient : isSalientFloat parsed with
      | ok salient => cases hsalient ▸ h
      | error e' =>
        rw [hsalient] at h
        cases h
        exact not_isUngrounded_of_isSalientFloat hsalient
  | none | bool b | list items | dict items => cases h

/-- What stops a traversal is an error of one of its steps. -/
theorem exists_of_mapM_error {α β : Type} {f : α → Except Exc β} {xs : List α}
    (h : xs.mapM f = .error e) : ∃ x ∈ xs, f x = .error e := by
  induction xs with
  | nil => cases h
  | cons x xs ih =>
    rw [List.mapM_cons] at h
    cases hx : f x with
    | error e' =>
      rw [hx] at h
      cases h
      exact ⟨x, List.mem_cons_self, hx⟩
    | ok y =>
      rw [hx] at h
      cases hrest : xs.mapM f with
      | ok ys =>
        rw [hrest] at h
        cases h
      | error e' =>
        rw [hrest] at h
        cases h
        obtain ⟨x', hx', hf⟩ := ih hrest
        exact ⟨x', List.mem_cons_of_mem x hx', hf⟩

theorem not_isUngrounded_of_extractWithin (h : extractWithin frames v = .error e) :
    ¬ IsUngrounded e := by
  induction frames generalizing v with
  | zero =>
    cases h
    rintro ⟨execution, numbers, heq⟩
    exact absurd (Exc.raised.inj heq).1 (by decide)
  | succ frames ih =>
    cases v with
    | dict items =>
      rw [extractWithin] at h
      cases hitems : items.mapM fun e : String × Value => extractWithin frames e.2 with
      | ok found => cases hitems ▸ h
      | error e' =>
        rw [hitems] at h
        cases h
        obtain ⟨item, -, hitem⟩ := exists_of_mapM_error hitems
        exact ih hitem
    | list items =>
      rw [extractWithin] at h
      cases hitems : items.mapM (extractWithin frames) with
      | ok found => cases hitems ▸ h
      | error e' =>
        rw [hitems] at h
        cases h
        obtain ⟨item, -, hitem⟩ := exists_of_mapM_error hitems
        exact ih hitem
    | none | bool b | int n | float f | str s => exact not_isUngrounded_of_leaf h

/-! ## One execution -/

/-- Both documents of an execution are harmless. -/
structure HarmlessExecution (frames : ℕ) (execution : ToolExecution) : Prop where
  arguments : HarmlessDocument frames (.dict execution.arguments)
  result : HarmlessDocument frames execution.result

/-- Of a harmless execution the check asks whether it is cited. -/
theorem assertCitedWithin_of_harmless {execution : ToolExecution}
    (h : HarmlessExecution frames execution) (conclusion : String) :
    assertCitedWithin frames conclusion execution = .ok () ∧ CitedBy conclusion execution ∨
      (∃ e, assertCitedWithin frames conclusion execution = .error e ∧ IsUngrounded e) ∧
        ¬ CitedBy conclusion execution := by
  have hnumbers : outputNumbersWithin frames execution = outputNumbers execution := by
    rw [outputNumbersWithin, outputNumbers, extractWithin_eq h.arguments.nesting,
      extractWithin_eq h.result.nesting]
  have hsame : assertCitedWithin frames conclusion execution =
      assertExecutionCited conclusion execution := by
    rw [assertCitedWithin, assertExecutionCited, hnumbers]
  rw [hsame, ← assertExecutionCited_iff]
  obtain ⟨numbers, hfound⟩ := (outputNumbers_spec execution).1.mpr
    ⟨h.arguments.readable, h.result.readable⟩
  have hstep : assertExecutionCited conclusion execution =
      if numbers.isEmpty = true ∨ (numbers.any fun number => contains conclusion number) = true then
        .ok () else .error (ungroundedAnswer execution numbers) := by
    rw [assertExecutionCited, hfound]
    rfl
  rw [hstep]
  split_ifs
  · exact .inl ⟨rfl, rfl⟩
  · exact .inr ⟨⟨_, rfl, execution, numbers, rfl⟩, fun h => by cases h⟩

/-- Any other execution makes the check raise something else. -/
theorem assertCitedWithin_of_not_harmless {execution : ToolExecution}
    (h : ¬ HarmlessExecution frames execution) (conclusion : String) :
    ∃ e, assertCitedWithin frames conclusion execution = .error e ∧ ¬ IsUngrounded e := by
  rw [assertCitedWithin, outputNumbersWithin]
  cases hinputs : extractWithin frames (.dict execution.arguments) with
  | error e => exact ⟨e, rfl, not_isUngrounded_of_extractWithin hinputs⟩
  | ok inputs =>
    cases houtputs : extractWithin frames execution.result with
    | error e => exact ⟨e, rfl, not_isUngrounded_of_extractWithin houtputs⟩
    | ok outputs =>
      exact absurd ⟨(exists_extractWithin_iff _ _).mp ⟨inputs, hinputs⟩,
        (exists_extractWithin_iff _ _).mp ⟨outputs, houtputs⟩⟩ h

/-- The check returns or raises `UngroundedAnswerError` exactly when every execution is harmless that
has only cited ones before it. -/
theorem grounding_total_iff (frames : ℕ) (conclusion : String) (executions : List ToolExecution) :
    (assertGroundedWithin frames conclusion executions = .ok () ∨
        ∃ e, assertGroundedWithin frames conclusion executions = .error e ∧ IsUngrounded e) ↔
      ∀ before execution after, executions = before ++ execution :: after →
        (∀ earlier ∈ before, CitedBy conclusion earlier) → HarmlessExecution frames execution := by
  induction executions with
  | nil => exact iff_of_true (.inl rfl) fun before _ _ h => by simp at h
  | cons first rest ih =>
    rw [assertGroundedWithin]
    by_cases hharmless : HarmlessExecution frames first
    · rcases assertCitedWithin_of_harmless hharmless conclusion with ⟨hok, hcited⟩ |
        ⟨⟨e, he, hungrounded⟩, huncited⟩
      · rw [hok]
        refine ih.trans ⟨fun h before execution after heq hbefore => ?_,
          fun h before execution after heq hbefore => ?_⟩
        · rcases List.append_eq_cons_iff.mp heq.symm with ⟨rfl, hfirst⟩ | ⟨more, rfl, hrest⟩
          · rwa [(List.cons.inj hfirst).1]
          · exact h more execution after hrest fun earlier hmem =>
              hbefore earlier (List.mem_cons_of_mem first hmem)
        · exact h (first :: before) execution after (congrArg (first :: ·) heq)
            (List.forall_mem_cons.mpr ⟨hcited, hbefore⟩)
      · rw [he]
        refine iff_of_true (.inr ⟨e, rfl, hungrounded⟩) fun before execution after heq hbefore => ?_
        rcases List.append_eq_cons_iff.mp heq.symm with ⟨rfl, hfirst⟩ | ⟨more, rfl, -⟩
        · rwa [(List.cons.inj hfirst).1]
        · exact absurd (hbefore first List.mem_cons_self) huncited
    · obtain ⟨e, he, hother⟩ := assertCitedWithin_of_not_harmless hharmless conclusion
      rw [he]
      refine iff_of_false ?_ fun h => hharmless (h [] first rest rfl (List.forall_mem_nil _))
      rintro (hok | ⟨e', he', hungrounded⟩)
      · cases hok
      · cases he'
        exact hother hungrounded

/-- A tool whose answer has a remark that reads as a NaN. -/
def remarkExecution : ToolExecution where
  name := "get_reorder_quantity"
  arguments := [("sku", .str "4011")]
  result := .dict [("units", .int 250), ("remark", .str "nan")]

/-- The remark makes a grounded conclusion fail with a `ValueError`. -/
theorem remark_escapes : assertGroundedWithin 500 "Order 250 units." [remarkExecution] =
    .error (.valueError "cannot convert float NaN to integer") := by decide +kernel

end ShelfWise.Inference
