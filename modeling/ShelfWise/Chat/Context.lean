import ShelfWise.Py.Float
import ShelfWise.Py.Json

/-!
# The context of a prompt

`shelfwise_backend/context_assembler.py`: the state of a prompt is compacted, then cut to the keys
that matter most, then shrunk step by step until its encoding fits. The manifest that goes with it
says whether anything was cut, which it tells from the encoding of the state after compaction.
-/

namespace ShelfWise.Chat

open Py

/-- A state, or what is left of it. -/
abbrev State := List (String × Value)

/-! ## Limits -/

/-- `MAX_CONTEXT_CHARS`. -/
def maxContextChars : ℕ := 24000

/-- `MAX_LIST_ITEMS`. -/
def maxListItems : ℕ := 32

/-- `MAX_STRING_CHARS`. -/
def maxStringChars : ℕ := 1200

/-- The depth past which `_compact_value` cuts. -/
def maxDepth : ℕ := 5

/-- `_PRIORITY_KEYS`. -/
def priorityKeys : List String :=
  ["tenant_id", "subject", "tool_results", "decisions", "learning_events", "source_refs",
    "conversation_summary", "conversation_history", "skill_catalogue"]

/-- `_encode`. -/
def encode (state : State) : Except Exc String := (Value.dict state).encoded

/-! ## Compaction -/

/-- A value, cut when it is too deep. -/
def cutBelow (depth : ℕ) (value : Value) : Value :=
  if maxDepth < depth then .str "[truncated]" else value

section Compact

variable (listItems stringChars : ℕ)

mutual

/-- `_compact_value`. -/
def compactValue : Value → ℕ → Value
  | .str s, depth => cutBelow depth (.str (take stringChars s))
  | .dict items, depth => cutBelow depth (.dict (compactItems items (depth + 1)))
  | .list items, depth => cutBelow depth (.list ((compactList items (depth + 1)).take listItems))
  | value, depth => cutBelow depth value

def compactList : List Value → ℕ → List Value
  | [], _ => []
  | v :: rest, depth => compactValue v depth :: compactList rest depth

def compactItems : List (String × Value) → ℕ → List (String × Value)
  | [], _ => []
  | (k, v) :: rest, depth => (k, compactValue v depth) :: compactItems rest depth

end

end Compact

/-- `_compact_value` of a state. -/
def compactState (listItems stringChars : ℕ) (state : State) : State :=
  compactItems listItems stringChars state 1

/-- `_priority_subset`. -/
def prioritySubset (state : State) : State :=
  priorityKeys.filterMap fun key => (Dict.lookup key state).map (key, ·)

/-- The steps of `_fit_context`: how many items and characters they keep. -/
def fitSteps : List (ℕ × ℕ) := [(16, 600), (8, 240), (4, 80), (1, 20)]

/-- The payload of last resort. -/
def truncatedState : State := [("context", .str "[truncated]")]

/-- The loop of `_fit_context`. -/
def fitLoop (priority : State) (maxChars : ℕ) : List (ℕ × ℕ) → Except Exc State
  | [] => do
    let fallback ← encode truncatedState
    .ok (if fallback.length ≤ maxChars then truncatedState else [])
  | (listItems, stringChars) :: steps => do
    let candidate := compactState listItems stringChars priority
    let encoded ← encode candidate
    if encoded.length ≤ maxChars then .ok candidate else fitLoop priority maxChars steps

/-- `_fit_context`. -/
def fitContext (value : State) (maxChars : ℕ) : Except Exc State :=
  fitLoop (prioritySubset value) maxChars fitSteps

/-! ## The manifest -/

/-- `_source_refs`. -/
def sourceRefs (state : State) : Except Exc (List String) :=
  match Value.get state "source_refs" with
  | .list refs => do
    let texts ← (refs.take 32).mapM Value.printed
    .ok ((texts.filter fun text => strip text ≠ "").map (take 200))
  | _ => .ok []

/-- `_missing_data`. -/
def missingData (state : State) : List String :=
  ["tool_results", "decisions"].filter fun key => !(Value.get state key).truthy

/-- `0.1 * n`. -/
def tenths (n : ℕ) : FloatValue :=
  match FloatValue.ofRat (1 / 10) with
  | .finite q => .ofRat (q * n)
  | value => value

/-- The shortest text of a double with three decimal places. -/
def thousandthsText (x : FloatValue) : String :=
  let digits := (FloatValue.fixedText 3 x).toList.rdropWhile (· = '0')
  String.ofList (if digits.getLast? = some '.' then digits ++ ['0'] else digits)

/-- `_evidence_score`. -/
def evidenceScore (state : State) (missing : List String) : Except Exc PyFloat := do
  let available := ["tool_results", "decisions", "source_refs"].countP fun key =>
    (Value.get state key).truthy
  let share ← FloatValue.quotient available 3
  let score := if missing = [] then share else share.add (tenths missing.length).neg
  let bounded := if score.lt (.finite 1) then score else .finite 1
  let rounded := (if FloatValue.lt (.finite 0) bounded then bounded else .finite 0).roundTo 3
  .ok ⟨rounded, thousandthsText rounded⟩

/-- `ContextBundle`. -/
structure ContextBundle where
  payload : State
  sourceRefs : List String
  missingData : List String
  tokenEstimate : ℕ
  evidenceScore : PyFloat
  manifest : State
deriving DecidableEq

/-! ## Assembly -/

/-- A step that is taken when the encoding is too long, and the encoding of its result. -/
def shrinkWith (step : State → Except Exc State) (maxChars : ℕ) (current : State × String) :
    Except Exc (State × String) :=
  if maxChars < current.2.length then do
    let compact ← step current.1
    let encoded ← encode compact
    .ok (compact, encoded)
  else .ok current

/-- The payload before its manifest, with its encoding, for a compacted state. -/
def shrink (original : State) (encodedOriginal : String) (maxChars : ℕ) :
    Except Exc (State × String) := do
  let subset ← shrinkWith (fun compact => .ok (prioritySubset compact)) maxChars
    (original, encodedOriginal)
  shrinkWith (fun compact => fitContext compact maxChars) maxChars subset

/-- `assemble_context`. -/
def assembleContext (state : State) (decisionType : String) (maxChars : ℤ) :
    Except Exc ContextBundle :=
  if strip decisionType = "" then .error (.valueError "decision_type is required")
  else if maxChars ≤ 0 ∨ (maxContextChars : ℤ) < maxChars then
    .error (.valueError "max_chars must be between 1 and 24000")
  else do
    let original := compactState maxListItems maxStringChars state
    let encodedOriginal ← encode original
    let (compact, encoded) ← shrink original encodedOriginal maxChars.toNat
    let refs ← sourceRefs state
    let missing := missingData state
    let score ← evidenceScore state missing
    let tokenEstimate := max 1 ((encoded.length + 3) / 4)
    let manifest : State := [("decision_type", .str decisionType),
      ("source_refs", .list (refs.map .str)), ("missing_data", .list (missing.map .str)),
      ("token_estimate", .int tokenEstimate), ("evidence_score", .float score),
      ("context_chars", .int encoded.length), ("truncated", .bool (encoded ≠ encodedOriginal))]
    .ok ⟨Value.setItem compact "context_manifest" (.dict manifest), refs, missing, tokenEstimate,
      score, manifest⟩

/-! ## What compaction keeps -/

mutual

/-- A value at a depth that compaction leaves as it is: not too deep, its lists and texts within the
limits. -/
def Fits : Value → ℕ → Prop
  | .str s, depth => if maxDepth < depth then s = "[truncated]" else s.length ≤ maxStringChars
  | .dict items, depth => depth ≤ maxDepth ∧ FitsItems items (depth + 1)
  | .list items, depth =>
    depth ≤ maxDepth ∧ items.length ≤ maxListItems ∧ FitsList items (depth + 1)
  | _, depth => depth ≤ maxDepth

def FitsList : List Value → ℕ → Prop
  | [], _ => True
  | v :: rest, depth => Fits v depth ∧ FitsList rest depth

def FitsItems : List (String × Value) → ℕ → Prop
  | [], _ => True
  | (_, v) :: rest, depth => Fits v depth ∧ FitsItems rest depth

end

theorem length_le_of_take {α : Type} {n : ℕ} {xs : List α} (h : xs.take n = xs) :
    xs.length ≤ n := by
  have hlength := congrArg List.length h
  rw [List.length_take] at hlength
  omega

theorem take_eq_self_iff (n : ℕ) (s : String) : take n s = s ↔ s.length ≤ n := by
  rw [take, ← String.length_toList]
  constructor
  · intro h
    have htext := congrArg String.toList h
    rw [String.toList_ofList] at htext
    exact length_le_of_take htext
  · intro h
    rw [List.take_of_length_le h, String.ofList_toList]

theorem length_compactList (listItems stringChars : ℕ) (values : List Value) (depth : ℕ) :
    (compactList listItems stringChars values depth).length = values.length := by
  induction values with
  | nil => rfl
  | cons v rest ih => rw [compactList, List.length_cons, List.length_cons, ih]

variable {depth : ℕ}

theorem cutBelow_eq_iff {value compact : Value} (hne : value ≠ .str "[truncated]") :
    cutBelow depth compact = value ↔ depth ≤ maxDepth ∧ compact = value := by
  rw [cutBelow]
  split
  · rename_i hdeep
    refine iff_of_false (fun h => hne h.symm) ?_
    rintro ⟨hle, -⟩
    exact absurd hdeep (Nat.not_lt.mpr hle)
  · rename_i hshallow
    exact (and_iff_right (Nat.le_of_not_lt hshallow)).symm

mutual

/-- Compaction leaves what fits, and nothing else. -/
theorem compactValue_eq_iff (value : Value) (depth : ℕ) :
    compactValue maxListItems maxStringChars value depth = value ↔ Fits value depth := by
  cases value with
  | str s =>
    rw [compactValue, Fits, cutBelow]
    split
    · rw [Value.str.injEq]
      exact eq_comm
    · rw [Value.str.injEq]
      exact take_eq_self_iff maxStringChars s
  | dict items =>
    rw [compactValue, Fits, cutBelow_eq_iff Value.noConfusion, Value.dict.injEq,
      compactItems_eq_iff items (depth + 1)]
  | list items =>
    rw [compactValue, Fits, cutBelow_eq_iff Value.noConfusion, Value.list.injEq,
      ← compactList_eq_iff items (depth + 1)]
    refine and_congr_right fun _ => ?_
    constructor
    · intro h
      -- The list has the length of its compacted copy, so the limit cut nothing off.
      have hlength : items.length ≤ maxListItems := by
        have hcut := congrArg List.length h
        rw [List.length_take, length_compactList] at hcut
        omega
      rw [List.take_of_length_le (by rwa [length_compactList])] at h
      exact ⟨hlength, h⟩
    · rintro ⟨hlength, h⟩
      rw [h, List.take_of_length_le hlength]
  | none | bool b | int n | float f =>
    show cutBelow depth _ = _ ↔ depth ≤ maxDepth
    rw [cutBelow_eq_iff Value.noConfusion]
    exact and_iff_left rfl

theorem compactList_eq_iff (values : List Value) (depth : ℕ) :
    compactList maxListItems maxStringChars values depth = values ↔ FitsList values depth := by
  cases values with
  | nil => exact iff_of_true rfl trivial
  | cons v rest =>
    rw [compactList, FitsList, List.cons.injEq, compactValue_eq_iff v depth,
      compactList_eq_iff rest depth]

theorem compactItems_eq_iff (items : List (String × Value)) (depth : ℕ) :
    compactItems maxListItems maxStringChars items depth = items ↔ FitsItems items depth := by
  cases items with
  | nil => exact iff_of_true rfl trivial
  | cons e rest =>
    rw [compactItems, FitsItems, List.cons.injEq, compactItems_eq_iff rest depth,
      ← compactValue_eq_iff e.2 depth, Prod.ext_iff, and_iff_right rfl]

end

/-! ## Compacting again -/

section

variable {listItems stringChars : ℕ}

theorem compactList_take (values : List Value) (n depth : ℕ) :
    compactList listItems stringChars (values.take n) depth =
      (compactList listItems stringChars values depth).take n := by
  induction values generalizing n with
  | nil => simp [compactList]
  | cons v rest ih => cases n <;> simp [compactList, ih]

theorem compact_cutBelow {depth : ℕ} {value : Value}
    (h : compactValue listItems stringChars value depth = cutBelow depth value) :
    compactValue listItems stringChars (cutBelow depth value) depth = cutBelow depth value := by
  by_cases hdeep : maxDepth < depth
  · simp [cutBelow, hdeep, compactValue]
  · have hvalue : cutBelow depth value = value := by simp [cutBelow, hdeep]
    rw [hvalue] at h ⊢
    exact h

mutual

theorem compactValue_compactValue (value : Value) (depth : ℕ) :
    compactValue listItems stringChars (compactValue listItems stringChars value depth) depth =
      compactValue listItems stringChars value depth := by
  cases value with
  | str s => exact compact_cutBelow (by simp [compactValue, take, List.take_take])
  | dict items =>
    exact compact_cutBelow (by rw [compactValue, compactItems_compactItems items (depth + 1)])
  | list items =>
    exact compact_cutBelow (by
      rw [compactValue, compactList_take, compactList_compactList items (depth + 1), List.take_take,
        Nat.min_self])
  | none | bool b | int n | float f => exact compact_cutBelow rfl

theorem compactList_compactList (values : List Value) (depth : ℕ) :
    compactList listItems stringChars (compactList listItems stringChars values depth) depth =
      compactList listItems stringChars values depth := by
  cases values with
  | nil => rfl
  | cons v rest =>
    simp only [compactList, compactValue_compactValue v depth, compactList_compactList rest depth]

theorem compactItems_compactItems (items : List (String × Value)) (depth : ℕ) :
    compactItems listItems stringChars (compactItems listItems stringChars items depth) depth =
      compactItems listItems stringChars items depth := by
  cases items with
  | nil => rfl
  | cons e rest =>
    simp only [compactItems, compactValue_compactValue e.2 depth, compactItems_compactItems rest depth]

end

/-- A compacted state is left as it is. -/
theorem compactState_compactState (state : State) :
    compactState listItems stringChars (compactState listItems stringChars state) =
      compactState listItems stringChars state := compactItems_compactItems state 1

end

/-! ## The manifest stays apart -/

/-- The key of the manifest. -/
def manifestKey : String := "context_manifest"

/-- No key of a state is that of the manifest. -/
def NoManifest (state : State) : Prop := manifestKey ∉ state.map Prod.fst

instance (state : State) : Decidable (NoManifest state) := inferInstanceAs (Decidable (¬ _))

/-- A payload without its manifest. -/
def withoutManifest (payload : State) : State := payload.filter fun e => e.1 ≠ manifestKey

variable {state : State}

theorem withoutManifest_setItem (h : NoManifest state) (manifest : Value) :
    withoutManifest (Value.setItem state manifestKey manifest) = state := by
  rw [Value.setItem, Dict.setEntries_of_lookup_none (Dict.lookup_of_notMem h), withoutManifest, List.filter_append,
    List.filter_eq_self.mpr, List.filter_cons_of_neg (by simp), List.filter_nil, List.append_nil]
  intro e he
  have hne : e.1 ≠ manifestKey := fun hkey => h (hkey ▸ List.mem_map_of_mem he)
  exact decide_eq_true hne

theorem map_fst_compactItems (listItems stringChars : ℕ) (items : State) (depth : ℕ) :
    (compactItems listItems stringChars items depth).map Prod.fst = items.map Prod.fst := by
  induction items with
  | nil => rfl
  | cons e rest ih => rw [compactItems, List.map_cons, List.map_cons, ih]

theorem noManifest_compactState (h : NoManifest state) (listItems stringChars : ℕ) :
    NoManifest (compactState listItems stringChars state) := by
  rwa [NoManifest, compactState, map_fst_compactItems]

theorem noManifest_prioritySubset (state : State) : NoManifest (prioritySubset state) := by
  intro hmem
  obtain ⟨e, he, hkey⟩ := List.mem_map.mp hmem
  obtain ⟨key, hpriority, hsome⟩ := List.mem_filterMap.mp he
  obtain ⟨v, -, rfl⟩ := Option.map_eq_some_iff.mp hsome
  have hnot : manifestKey ∉ priorityKeys := by decide
  exact hnot (hkey ▸ hpriority)

/-! ## The cap -/

/-- A payload that may be sent: its encoding has at most `maxChars` characters. -/
def Capped (maxChars : ℕ) (payload : State) : Prop :=
  ∃ text, encode payload = .ok text ∧ text.length ≤ maxChars

theorem encode_nil : encode [] = .ok "{}" := by decide +kernel

variable {maxChars : ℕ}

/-- The ladder ends within the cap: at the latest with the empty payload. -/
theorem fitLoop_capped {priority payload : State} (hmin : 2 ≤ maxChars)
    (hpriority : NoManifest priority) {steps : List (ℕ × ℕ)}
    (h : fitLoop priority maxChars steps = .ok payload) :
    NoManifest payload ∧ Capped maxChars payload := by
  induction steps with
  | nil =>
    obtain ⟨fallback, hfallback, hpayload⟩ := bind_eq_ok_iff.mp h
    cases hpayload
    split
    · rename_i hfits
      exact ⟨by decide, fallback, hfallback, hfits⟩
    · exact ⟨by decide, _, encode_nil, hmin⟩
  | cons step steps ih =>
    obtain ⟨encoded, hencoded, hpayload⟩ := bind_eq_ok_iff.mp h
    split at hpayload
    · rename_i hfits
      cases hpayload
      exact ⟨noManifest_compactState hpriority step.1 step.2, encoded, hencoded, hfits⟩
    · exact ih hpayload

/-- What a payload and its encoding have come to after a shrinking step. -/
structure Shrunk (original : State) (encodedOriginal : String) (maxChars : ℕ)
    (current : State × String) : Prop where
  encoded : encode current.1 = .ok current.2
  apart : NoManifest current.1
  /-- Nothing is taken from a payload that fits. -/
  kept : encodedOriginal.length ≤ maxChars → current = (original, encodedOriginal)

variable {original : State} {encodedOriginal : String} {current next : State × String}
  {step : State → Except Exc State}

theorem Shrunk.shrinkWith (hcurrent : Shrunk original encodedOriginal maxChars current)
    (hstep : ∀ payload, step current.1 = .ok payload → NoManifest payload)
    (h : shrinkWith step maxChars current = .ok next) :
    Shrunk original encodedOriginal maxChars next := by
  rw [Chat.shrinkWith] at h
  split at h
  · rename_i hlong
    obtain ⟨payload, hpayload, hrest⟩ := bind_eq_ok_iff.mp h
    obtain ⟨text, htext, hnext⟩ := bind_eq_ok_iff.mp hrest
    cases hnext
    refine ⟨htext, hstep payload hpayload, fun hfits => ?_⟩
    -- A payload that fits was still the original, so no step was taken.
    rw [hcurrent.kept hfits] at hlong
    exact absurd hfits (Nat.not_le.mpr hlong)
  · cases h
    exact hcurrent

/-- The second step leaves a payload within the cap. -/
theorem length_of_shrinkWith
    (hstep : ∀ payload, step current.1 = .ok payload → Capped maxChars payload)
    (h : shrinkWith step maxChars current = .ok next) : next.2.length ≤ maxChars := by
  rw [shrinkWith] at h
  split at h
  · obtain ⟨payload, hpayload, hrest⟩ := bind_eq_ok_iff.mp h
    obtain ⟨text, htext, hnext⟩ := bind_eq_ok_iff.mp hrest
    cases hnext
    obtain ⟨text', htext', hfits⟩ := hstep payload hpayload
    rw [htext] at htext'
    cases htext'
    exact hfits
  · rename_i hshort
    cases h
    exact Nat.le_of_not_lt hshort

/-- What leaves the two shrinking steps is within the cap, and is the compacted state itself when
that fits. -/
theorem shrink_spec {final : State × String} (hencoded : encode original = .ok encodedOriginal)
    (hapart : NoManifest original) (hmin : 2 ≤ maxChars)
    (h : shrink original encodedOriginal maxChars = .ok final) :
    Shrunk original encodedOriginal maxChars final ∧ final.2.length ≤ maxChars := by
  obtain ⟨subset, hsubset, hfinal⟩ := bind_eq_ok_iff.mp h
  have hstart : Shrunk original encodedOriginal maxChars (original, encodedOriginal) :=
    ⟨hencoded, hapart, fun _ => rfl⟩
  have hshrunk : Shrunk original encodedOriginal maxChars subset := by
    refine hstart.shrinkWith (fun payload hpayload => ?_) hsubset
    rw [← Except.ok.inj hpayload]
    exact noManifest_prioritySubset original
  have hfit : ∀ payload, fitContext subset.1 maxChars = .ok payload →
      NoManifest payload ∧ Capped maxChars payload :=
    fun payload hpayload => fitLoop_capped hmin (noManifest_prioritySubset subset.1) hpayload
  exact ⟨hshrunk.shrinkWith (fun payload hpayload => (hfit payload hpayload).1) hfinal,
    length_of_shrinkWith (fun payload hpayload => (hfit payload hpayload).2) hfinal⟩

/-! ## What is printed -/

theorem printable_cutBelow {value : Value} (h : Value.printable value = true) :
    Value.printable (cutBelow depth value) = true := by
  rw [cutBelow]
  split
  · rfl
  · exact h

mutual

/-- Compaction leaves a printable value printable. -/
theorem printable_compactValue (listItems stringChars : ℕ) (value : Value) (depth : ℕ)
    (h : Value.printable value = true) :
    Value.printable (compactValue listItems stringChars value depth) = true := by
  cases value with
  | str s => exact printable_cutBelow rfl
  | dict items =>
    exact printable_cutBelow (printable_compactItems listItems stringChars items (depth + 1) h)
  | list items =>
    have hitems := printable_compactList listItems stringChars items (depth + 1) h
    exact printable_cutBelow (Value.printableList_iff.mpr fun v hv =>
      Value.printableList_iff.mp hitems v (List.mem_of_mem_take hv))
  | none | bool b | int n | float f => exact printable_cutBelow h

theorem printable_compactList (listItems stringChars : ℕ) (values : List Value) (depth : ℕ)
    (h : Value.printableList values = true) :
    Value.printableList (compactList listItems stringChars values depth) = true := by
  cases values with
  | nil => rfl
  | cons v rest =>
    rw [Value.printableList, Bool.and_eq_true] at h
    rw [compactList, Value.printableList, printable_compactValue listItems stringChars v depth h.1,
      printable_compactList listItems stringChars rest depth h.2, Bool.and_true]

theorem printable_compactItems (listItems stringChars : ℕ) (items : List (String × Value))
    (depth : ℕ) (h : Value.printableItems items = true) :
    Value.printableItems (compactItems listItems stringChars items depth) = true := by
  cases items with
  | nil => rfl
  | cons e rest =>
    rw [Value.printableItems, Bool.and_eq_true] at h
    rw [compactItems, Value.printableItems, printable_compactValue listItems stringChars e.2 depth h.1,
      printable_compactItems listItems stringChars rest depth h.2, Bool.and_true]

end

theorem printable_prioritySubset (h : Value.printableItems state = true) :
    Value.printableItems (prioritySubset state) = true := by
  refine Value.printableItems_iff.mpr fun e he => ?_
  obtain ⟨key, -, hsome⟩ := List.mem_filterMap.mp he
  obtain ⟨v, hlookup, rfl⟩ := Option.map_eq_some_iff.mp hsome
  exact Value.printableItems_iff.mp h (key, v) (Dict.mem_of_lookup hlookup)

theorem encode_eq_ok (h : Value.printableItems state = true) :
    encode state = .ok (dumps (.dict state)) := if_pos h

/-- The ladder raises nothing on what can be printed. -/
theorem exists_fitLoop {priority : State} (h : Value.printableItems priority = true) (maxChars : ℕ)
    (steps : List (ℕ × ℕ)) :
    ∃ payload, fitLoop priority maxChars steps = .ok payload ∧ Value.printableItems payload = true := by
  induction steps with
  | nil =>
    rw [fitLoop, encode_eq_ok rfl]
    refine ⟨_, rfl, ?_⟩
    split <;> rfl
  | cons step steps ih =>
    have hcandidate := printable_compactItems step.1 step.2 priority 1 h
    rw [fitLoop, compactState, encode_eq_ok hcandidate]
    by_cases hfits : (dumps (.dict (compactItems step.1 step.2 priority 1))).length ≤ maxChars
    · exact ⟨_, if_pos hfits, hcandidate⟩
    · obtain ⟨payload, hpayload, hprintable⟩ := ih
      exact ⟨payload, (if_neg hfits).trans hpayload, hprintable⟩

theorem exists_shrinkWith (step : State → Except Exc State) (maxChars : ℕ)
    (current : State × String) (hcurrent : Value.printableItems current.1 = true)
    (hstep : ∃ payload, step current.1 = .ok payload ∧ Value.printableItems payload = true) :
    ∃ next, shrinkWith step maxChars current = .ok next ∧ Value.printableItems next.1 = true := by
  by_cases hlong : maxChars < current.2.length
  · obtain ⟨payload, hpayload, hprintable⟩ := hstep
    refine ⟨(payload, dumps (.dict payload)), ?_, hprintable⟩
    rw [shrinkWith, if_pos hlong, hpayload]
    show (encode payload >>= fun encoded => .ok (payload, encoded)) = _
    rw [encode_eq_ok hprintable]
    rfl
  · exact ⟨current, if_neg hlong, hcurrent⟩

theorem exists_sourceRefs (h : Value.printableItems state = true) :
    ∃ refs, sourceRefs state = .ok refs := by
  rw [sourceRefs]
  split
  · rename_i refs hrefs
    have hprintable : Value.printableList refs = true := by
      rw [Value.get] at hrefs
      cases hlookup : Dict.lookup "source_refs" state with
      | none =>
        rw [hlookup] at hrefs
        cases hrefs
      | some v =>
        rw [hlookup] at hrefs
        cases hrefs
        exact Value.printableItems_iff.mp h _ (Dict.mem_of_lookup hlookup)
    have htexts : (refs.take 32).mapM Value.printed = .ok ((refs.take 32).map Value.toText) :=
      mapM_eq_ok fun v hv =>
        if_pos (Value.printableList_iff.mp hprintable v (List.mem_of_mem_take hv))
    rw [htexts]
    exact ⟨_, rfl⟩
  · exact ⟨_, rfl⟩

/-- At most three keys are counted, and each share of three is a double. -/
theorem exists_evidenceScore (state : State) (missing : List String) :
    ∃ score, evidenceScore state missing = .ok score := by
  have hshare : ∀ available ≤ 3, ∃ share, FloatValue.quotient (available : ℕ) 3 = .ok share := by
    intro available havailable
    interval_cases available <;> exact exists_eq_ok (by decide +kernel)
  obtain ⟨share, hok⟩ := hshare _ (List.countP_le_length
    (l := ["tool_results", "decisions", "source_refs"])
    (p := fun key => (Value.get state key).truthy))
  rw [evidenceScore, hok]
  exact ⟨_, rfl⟩

/-- A printable state gets a bundle, whatever the decision type and the cap that are allowed. -/
theorem exists_assembleContext (hprintable : Value.printableItems state = true)
    {decisionType : String} (htype : strip decisionType ≠ "") {maxChars : ℤ} (hpos : 0 < maxChars)
    (hmax : maxChars ≤ maxContextChars) :
    ∃ bundle, assembleContext state decisionType maxChars = .ok bundle := by
  have horiginal : Value.printableItems (compactState maxListItems maxStringChars state) = true :=
    printable_compactItems maxListItems maxStringChars state 1 hprintable
  obtain ⟨subset, hsubset, hsubsetPrintable⟩ := exists_shrinkWith
    (fun compact => .ok (prioritySubset compact)) maxChars.toNat
    (compactState maxListItems maxStringChars state,
      dumps (.dict (compactState maxListItems maxStringChars state))) horiginal
    ⟨_, rfl, printable_prioritySubset horiginal⟩
  obtain ⟨final, hfinal, -⟩ := exists_shrinkWith
    (fun compact => fitContext compact maxChars.toNat) maxChars.toNat subset hsubsetPrintable
    (exists_fitLoop (printable_prioritySubset hsubsetPrintable) maxChars.toNat fitSteps)
  obtain ⟨refs, hrefs⟩ := exists_sourceRefs hprintable
  obtain ⟨score, hscore⟩ := exists_evidenceScore state (missingData state)
  have hencoded := encode_eq_ok horiginal
  rw [assembleContext, if_neg htype, if_neg (by omega)]
  simp only [shrink, bind, Except.bind, hencoded, hsubset, hfinal, hrefs, hscore]
  exact ⟨_, rfl⟩

/-! ## Honesty -/

/-- A bundle that keeps the promise of its manifest: its payload is within the cap, and is the whole
state when the manifest says that nothing was cut. -/
structure HonestContext (state : State) (maxChars : ℤ) (bundle : ContextBundle) : Prop where
  capped : Capped maxChars.toNat (withoutManifest bundle.payload)
  honest : Value.get bundle.manifest "truncated" = .bool false →
    withoutManifest bundle.payload = state

/-- The encoding of the compacted state is over the cap, so the payload is shrunk. -/
def Overlong (state : State) (maxChars : ℤ) : Prop :=
  ∃ text, encode (compactState maxListItems maxStringChars state) = .ok text ∧
    maxChars < text.length

/-- What a bundle is made of. -/
theorem assembleContext_inv {decisionType : String} {maxChars : ℤ} {bundle : ContextBundle}
    (h : assembleContext state decisionType maxChars = .ok bundle) :
    ∃ encodedOriginal final,
      encode (compactState maxListItems maxStringChars state) = .ok encodedOriginal ∧
      shrink (compactState maxListItems maxStringChars state) encodedOriginal maxChars.toNat
        = .ok final ∧
      bundle.payload = Value.setItem final.1 manifestKey (.dict bundle.manifest) ∧
      Value.get bundle.manifest "truncated" = .bool (final.2 ≠ encodedOriginal) := by
  rw [assembleContext] at h
  split at h
  · cases h
  split at h
  · cases h
  obtain ⟨encodedOriginal, hencoded, h⟩ := bind_eq_ok_iff.mp h
  obtain ⟨final, hfinal, h⟩ := bind_eq_ok_iff.mp h
  obtain ⟨refs, hrefs, h⟩ := bind_eq_ok_iff.mp h
  obtain ⟨score, hscore, h⟩ := bind_eq_ok_iff.mp h
  cases h
  exact ⟨encodedOriginal, final, hencoded, hfinal, rfl, rfl⟩

/-- The payload is within the cap always, and the manifest is honest exactly when compaction cut
nothing or the compacted state was over the cap: what compaction cuts is not counted. -/
theorem honest_context_iff {state : State} (hapart : NoManifest state) (decisionType : String)
    {maxChars : ℤ} (hmin : 2 ≤ maxChars) {bundle : ContextBundle}
    (h : assembleContext state decisionType maxChars = .ok bundle) :
    HonestContext state maxChars bundle ↔ FitsItems state 1 ∨ Overlong state maxChars := by
  obtain ⟨encodedOriginal, final, hencoded, hfinal, hpayload, htruncated⟩ := assembleContext_inv h
  obtain ⟨hshrunk, hlength⟩ := shrink_spec hencoded
    (noManifest_compactState hapart maxListItems maxStringChars) (by omega) hfinal
  have hwithout : withoutManifest bundle.payload = final.1 := by
    rw [hpayload, withoutManifest_setItem hshrunk.apart]
  have hcapped : Capped maxChars.toNat (withoutManifest bundle.payload) := by
    rw [hwithout]
    exact ⟨final.2, hshrunk.encoded, hlength⟩
  have hfits : compactState maxListItems maxStringChars state = state ↔ FitsItems state 1 :=
    compactItems_eq_iff state 1
  constructor
  · intro hhonest
    by_cases hlong : maxChars < encodedOriginal.length
    · exact .inr ⟨encodedOriginal, hencoded, hlong⟩
    · -- The compacted state fits: it is the payload, and the manifest calls it whole.
      have hkept := hshrunk.kept (by omega)
      rw [hkept, decide_eq_false (not_not_intro rfl)] at htruncated
      have hwhole := hhonest.honest htruncated
      rw [hwithout, hkept] at hwhole
      exact .inl (hfits.mp hwhole)
  · intro hcondition
    refine ⟨hcapped, fun hflag => ?_⟩
    rw [htruncated] at hflag
    have hsame : final.2 = encodedOriginal := not_not.mp (of_decide_eq_false (Value.bool.inj hflag))
    rw [hsame] at hlength
    rw [hwithout, hshrunk.kept hlength]
    rcases hcondition with hwhole | hlong
    · exact hfits.mpr hwhole
    · -- A payload over the cap was shrunk, so its encoding is another one.
      obtain ⟨text, htext, hlong⟩ := hlong
      rw [hencoded] at htext
      cases htext
      omega

/-- A short state is sent whole. -/
theorem short_state_kept :
    ∃ bundle, assembleContext [("subject", .str "milk")] "chat" 24000 = .ok bundle ∧
      HonestContext [("subject", .str "milk")] 24000 bundle := by
  obtain ⟨bundle, hbundle⟩ := @exists_assembleContext [("subject", .str "milk")] rfl "chat"
    (by decide +kernel) 24000 (by decide) (by decide)
  refine ⟨bundle, hbundle, (honest_context_iff (by decide) "chat" (by decide) hbundle).mpr ?_⟩
  left
  simp only [FitsItems, Fits, and_true]
  decide

/-- One row more than a list may keep. -/
def manyRows : State := [("rows", .list (List.replicate 33 (.int 0)))]

/-- The last of 33 rows is cut by compaction, and the manifest says that nothing was. -/
theorem cut_row_not_reported :
    ¬ ∀ bundle, assembleContext manyRows "chat" 24000 = .ok bundle →
      HonestContext manyRows 24000 bundle := by
  intro hall
  obtain ⟨bundle, hbundle⟩ := @exists_assembleContext manyRows (by decide +kernel) "chat"
    (by decide +kernel) 24000 (by decide) (by decide)
  have hrun : (assembleContext manyRows "chat" 24000).toOption.map (fun b =>
      (Value.get b.manifest "truncated", decide (withoutManifest b.payload = manyRows)))
      = some (.bool false, false) := by decide +kernel
  rw [hbundle] at hrun
  obtain ⟨hflag, hother⟩ := Prod.mk.inj (Option.some.inj hrun)
  exact of_decide_eq_false hother ((hall bundle hbundle).honest hflag)

end ShelfWise.Chat
