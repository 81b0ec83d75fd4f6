import Mathlib.Data.List.ReduceOption
import ShelfWise.Inference.Orchestration

/-!
# Identifiers of tool calls

`_parse_call` of `tool_calling.py` gives a call without an identifier the one of its place in the
message, `call_1` for the first, while `run_messages` of `orchestration.py` wants the identifiers of
a whole run to be different. So the places of a run's calls without identifiers must be different
too, from one message to the next.

`parseToolCalls_ids` reads the identifiers of a message off its raw calls, for every encoding.
-/

namespace ShelfWise.Inference

open Py

/-! ## Identifiers of one message -/

/-- The identifier generated for the call at a place. -/
def generatedId (index : ℕ) : String := "call_" ++ toString (index + 1)

theorem generatedId_injective : Function.Injective generatedId := by
  intro i j h
  have htext : ("call_" ++ Nat.repr (i + 1)).toList = ("call_" ++ Nat.repr (j + 1)).toList :=
    congrArg String.toList h
  rw [String.toList_append, String.toList_append, Nat.repr_eq_ofList_toDigits,
    Nat.repr_eq_ofList_toDigits] at htext
  simp only [String.toList_ofList] at htext
  have hsucc : i + 1 = j + 1 := Decimal.toDigits_injective (List.append_cancel_left htext)
  omega

/-- The identifier a value is, if it is one: a text that is not empty. -/
def idOfValue : Value → Option String
  | .str s => if s = "" then none else some s
  | _ => none

/-- The identifier a raw call comes with. -/
def explicitId : Value → Option String
  | .dict raw => idOfValue (Value.get raw "id")
  | _ => none

/-- The raw calls of a tagged payload. -/
def callValues : Value → List Value
  | .list items => items
  | value => [value]

/-- The identifiers in tagged payloads. -/
def taggedIds (text : MessageText) : List String → List (Option String)
  | [] => []
  | payload :: rest =>
    ((text.parseJson payload).elim [] callValues).map explicitId ++ taggedIds text rest

/-- The identifiers in the content of a message; function tags have none. -/
def contentIds (text : MessageText) : Value → List (Option String)
  | .str s =>
    if strip s = "" then []
    else if text.toolTags s = [] then (text.functionTags s).map fun _ => none
    else taggedIds text (text.toolTags s)
  | _ => []

/-- The identifiers in a message without `tool_calls`. -/
def otherIds (text : MessageText) (message : Message) : List (Option String) :=
  if Value.get message "function_call" = .none then contentIds text (Value.get message "content")
  else [none]

/-- The identifiers the calls of a message come with, in the order of the calls. -/
def messageIds (text : MessageText) (message : Message) : List (Option String) :=
  match Value.get message "tool_calls" with
  | .list (rawCall :: rest) => (rawCall :: rest).map explicitId
  | _ => otherIds text message

/-- The identifiers of calls, the first of them at place `index`. -/
def idsFrom (index : ℕ) (ids : List (Option String)) : List String :=
  ids.mapIdx fun place id => id.getD (generatedId (index + place))

@[simp] theorem idsFrom_nil (index : ℕ) : idsFrom index [] = [] := rfl

theorem idsFrom_cons (index : ℕ) (id : Option String) (ids : List (Option String)) :
    idsFrom index (id :: ids) = id.getD (generatedId index) :: idsFrom (index + 1) ids := by
  rw [idsFrom, List.mapIdx_cons, idsFrom, Nat.add_zero]
  simp only [Nat.add_assoc, Nat.add_comm 1]

theorem idsFrom_append (index : ℕ) (ids ids' : List (Option String)) :
    idsFrom index (ids ++ ids') = idsFrom index ids ++ idsFrom (index + ids.length) ids' := by
  induction ids generalizing index with
  | nil => rfl
  | cons id ids ih =>
    have hplace : index + 1 + ids.length = index + (id :: ids).length := by
      rw [List.length_cons]
      omega
    rw [List.cons_append, idsFrom_cons, idsFrom_cons, ih, hplace, List.cons_append]

/-- An identifier of a message came with a call, or was generated for the place of one without. -/
theorem mem_idsFrom_iff {ids : List (Option String)} {s : String} :
    s ∈ idsFrom 0 ids ↔ some s ∈ ids ∨ ∃ place, ids[place]? = some none ∧ s = generatedId place := by
  rw [idsFrom, List.mem_mapIdx]
  constructor
  · rintro ⟨place, hplace, rfl⟩
    cases hid : ids[place] with
    | none =>
      refine .inr ⟨place, ?_, ?_⟩
      · rw [List.getElem?_eq_getElem hplace, hid]
      · rw [Option.getD_none, Nat.zero_add]
    | some s =>
      refine .inl ?_
      rw [Option.getD_some, ← hid]
      exact List.getElem_mem hplace
  · rintro (hmem | ⟨place, hplace, rfl⟩)
    · obtain ⟨place, hplace, hid⟩ := List.getElem_of_mem hmem
      refine ⟨place, hplace, ?_⟩
      rw [hid, Option.getD_some]
    · obtain ⟨hlt, hid⟩ := List.getElem?_eq_some_iff.mp hplace
      refine ⟨place, hlt, ?_⟩
      rw [hid, Option.getD_none, Nat.zero_add]

/-- No place has a call without an identifier in both messages, and no identifier that comes with a
call of one message is the one generated for a call of the other. -/
structure Apart (ids ids' : List (Option String)) : Prop where
  places : ∀ place : ℕ, ids[place]? = some none → ids'[place]? ≠ some none
  left : ∀ place : ℕ, ids[place]? = some none → some (generatedId place) ∉ ids'
  right : ∀ place : ℕ, ids'[place]? = some none → some (generatedId place) ∉ ids

/-- Two messages whose own identifiers differ share none exactly when they are apart. -/
theorem disjoint_idsFrom_iff {ids ids' : List (Option String)}
    (hexplicit : ids.reduceOption.Disjoint ids'.reduceOption) :
    (idsFrom 0 ids).Disjoint (idsFrom 0 ids') ↔ Apart ids ids' := by
  constructor
  · intro h
    constructor
    · intro place hplace hplace'
      exact h (mem_idsFrom_iff.mpr (.inr ⟨place, hplace, rfl⟩))
        (mem_idsFrom_iff.mpr (.inr ⟨place, hplace', rfl⟩))
    · intro place hplace hmem
      exact h (mem_idsFrom_iff.mpr (.inr ⟨place, hplace, rfl⟩)) (mem_idsFrom_iff.mpr (.inl hmem))
    · intro place hplace hmem
      exact h (mem_idsFrom_iff.mpr (.inl hmem)) (mem_idsFrom_iff.mpr (.inr ⟨place, hplace, rfl⟩))
  · intro h s hs hs'
    -- where `s` is from, on either side
    rcases mem_idsFrom_iff.mp hs with hmem | ⟨place, hplace, rfl⟩
    · rcases mem_idsFrom_iff.mp hs' with hmem' | ⟨place, hplace, rfl⟩
      · exact hexplicit (List.reduceOption_mem_iff.mpr hmem) (List.reduceOption_mem_iff.mpr hmem')
      · exact h.right place hplace hmem
    · rcases mem_idsFrom_iff.mp hs' with hmem' | ⟨place', hplace', heq⟩
      · exact h.left place hplace hmem'
      · rw [← generatedId_injective heq] at hplace'
        exact h.places place hplace hplace'

/-! ## The parser gives these identifiers -/

variable {text : MessageText}

variable {index : ℕ}

theorem callIdOf_eq {id : Value} {callId : String} (h : callIdOf text id index = .ok callId) :
    callId = (idOfValue id).getD (generatedId index) := by
  unfold callIdOf at h
  split at h
  · rename_i s
    rw [idOfValue]
    split at h
    · rename_i hempty
      cases h
      rw [if_pos hempty]
      rfl
    · rename_i hne
      rw [if_neg hne]
      split at h
      · cases h
      · cases h
        rfl
  · rename_i hnostr
    cases h
    have hnone : idOfValue id = none := by
      unfold idOfValue
      split
      · rename_i s
        exact absurd rfl (hnostr s)
      · rfl
    rw [hnone]
    rfl

theorem parseCall_callId {rawCall : Value} {call : ToolCall}
    (h : parseCall text rawCall index = .ok call) :
    call.callId = (explicitId rawCall).getD (generatedId index) := by
  unfold parseCall at h
  split at h
  · split at h
    · rename_i raw function hfunction
      obtain ⟨name, -, h⟩ := bind_eq_ok_iff.mp h
      obtain ⟨callId, hid, h⟩ := bind_eq_ok_iff.mp h
      obtain ⟨arguments, -, h⟩ := bind_eq_ok_iff.mp h
      cases h
      exact callIdOf_eq hid
    · cases h
  · cases h

variable {calls : List ToolCall}

theorem parseCalls_ids {rawCalls : List Value} (h : parseCalls text index rawCalls = .ok calls) :
    calls.map (·.callId) = idsFrom index (rawCalls.map explicitId) := by
  induction rawCalls generalizing index calls with
  | nil =>
    cases h
    rfl
  | cons rawCall rest ih =>
    rw [parseCalls] at h
    obtain ⟨call, hcall, h⟩ := bind_eq_ok_iff.mp h
    obtain ⟨others, hothers, h⟩ := bind_eq_ok_iff.mp h
    cases h
    rw [List.map_cons, List.map_cons, idsFrom_cons, ih hothers, parseCall_callId hcall]

theorem parseTagged_ids {count : ℕ} {payloads : List String}
    (h : parseTagged text count payloads = .ok calls) :
    calls.map (·.callId) = idsFrom count (taggedIds text payloads) := by
  induction payloads generalizing count calls with
  | nil =>
    cases h
    rfl
  | cons payload rest ih =>
    rw [parseTagged] at h
    cases hparsed : text.parseJson payload with
    | none =>
      rw [hparsed] at h
      cases h
    | some parsed =>
      rw [hparsed] at h
      obtain ⟨first, hfirst, h⟩ := bind_eq_ok_iff.mp h
      obtain ⟨more, hmore, h⟩ := bind_eq_ok_iff.mp h
      cases h
      have hids : first.map (·.callId) = idsFrom count ((callValues parsed).map explicitId) :=
        parseCalls_ids hfirst
      have hlength : ((callValues parsed).map explicitId).length = first.length := by
        have hboth := congrArg List.length hids
        rw [List.length_map, idsFrom, List.length_mapIdx] at hboth
        exact hboth.symm
      rw [taggedIds, hparsed, Option.elim_some, idsFrom_append, List.map_append, hids, hlength,
        ih hmore]

theorem parseFunctionTags_ids {tags : List (String × String)}
    (h : parseFunctionTags text index tags = .ok calls) :
    calls.map (·.callId) = idsFrom index (tags.map fun _ => none) := by
  induction tags generalizing index calls with
  | nil =>
    cases h
    rfl
  | cons tag rest ih =>
    rw [parseFunctionTags] at h
    obtain ⟨arguments, -, h⟩ := bind_eq_ok_iff.mp h
    obtain ⟨others, hothers, h⟩ := bind_eq_ok_iff.mp h
    cases h
    rw [List.map_cons, List.map_cons, idsFrom_cons, ih hothers]
    rfl

theorem parseContent_ids {content : Value} (h : parseContent text content = .ok calls) :
    calls.map (·.callId) = idsFrom 0 (contentIds text content) := by
  cases content with
  | str s =>
    rw [contentIds]
    rw [parseContent] at h
    by_cases hblank : strip s = ""
    · rw [if_pos hblank] at h ⊢
      cases h
      rfl
    · rw [if_neg hblank] at h ⊢
      cases htags : text.toolTags s with
      | nil =>
        rw [htags] at h
        rw [if_pos rfl]
        exact parseFunctionTags_ids h
      | cons payload rest =>
        rw [htags] at h
        rw [if_neg (List.cons_ne_nil payload rest)]
        exact parseTagged_ids h
  | none | bool b | int n | float f | list items | dict items =>
    cases h
    rfl

theorem parseToolCalls_otherIds {message : Message} (h : parseToolCalls text message = .ok calls)
    (hcalls : Value.get message "tool_calls" = .none ∨ Value.get message "tool_calls" = .list []) :
    calls.map (·.callId) = idsFrom 0 (otherIds text message) := by
  rw [otherIds]
  rw [parseToolCalls] at h
  cases hlegacy : Value.get message "function_call" with
  | none =>
    rw [if_pos rfl]
    rcases hcalls with hcalls | hcalls <;> rw [hcalls, hlegacy] at h <;> exact parseContent_ids h
  | bool b | int n | float f | str s | list items | dict items =>
    rw [if_neg Value.noConfusion]
    rcases hcalls with hcalls | hcalls <;> rw [hcalls, hlegacy] at h <;> exact parseCalls_ids h

/-- **Identifiers of a message.** The calls parsed from a message, in whichever encoding, have the
identifiers they came with, and those of their places where they came with none. -/
theorem parseToolCalls_ids {message : Message} (h : parseToolCalls text message = .ok calls) :
    calls.map (·.callId) = idsFrom 0 (messageIds text message) := by
  rw [messageIds]
  cases hcalls : Value.get message "tool_calls" with
  | list rawCalls =>
    cases rawCalls with
    | nil => exact parseToolCalls_otherIds h (.inr hcalls)
    | cons rawCall rest =>
      rw [parseToolCalls, hcalls] at h
      exact parseCalls_ids h
  | none => exact parseToolCalls_otherIds h (.inl hcalls)
  | bool b | int n | float f | str s | dict items =>
    rw [parseToolCalls, hcalls] at h
    cases h

/-! ## Identifiers of a run -/

/-- The message `to_tool_message` gives, before its content is encoded. -/
structure ToolMessage where
  toolCallId : String
  name : String
  content : Value

/-- The tool messages appended while the calls of one message are executed, up to the first that
raises. -/
def toolMessages (registry : PlatformToolRegistry) (tenantId : String) :
    ℕ → List ToolCall → List ToolMessage
  | _, [] => []
  | n, call :: rest => match execute registry tenantId n call with
    | .error _ => []
    | .ok execution =>
      ⟨call.callId, execution.name, execution.result⟩ :: toolMessages registry tenantId (n + 1) rest

theorem toolCallId_mem {registry : PlatformToolRegistry} {tenantId : String} {n : ℕ}
    {message : ToolMessage} (h : message ∈ toolMessages registry tenantId n calls) :
    message.toolCallId ∈ calls.map (·.callId) := by
  induction calls generalizing n with
  | nil => cases h
  | cons call rest ih =>
    rw [toolMessages] at h
    cases hcall : execute registry tenantId n call with
    | error e =>
      rw [hcall] at h
      cases h
    | ok execution =>
      rw [hcall] at h
      rcases List.mem_cons.mp h with rfl | hrest
      · exact List.mem_cons_self
      · exact List.mem_cons_of_mem _ (ih hrest)

/-- A turn that is reached, with its response. -/
abbrev Turn := LoopState × Except Exc Message

namespace RunRequest

variable (r : RunRequest)

/-- `parsed_calls`, empty when the message does not parse. -/
def callsOf (t : Turn) : List ToolCall :=
  (t.2.toOption.bind fun message => (parseToolCalls r.text message).toOption).getD []

/-- The identifiers the calls of a turn come with. -/
def idsOf (t : Turn) : List (Option String) :=
  (t.2.toOption.bind fun message =>
    (parseToolCalls r.text message).toOption.map fun _ => messageIds r.text message).getD []

/-- `duplicate`, with its call. -/
def duplicate (t : Turn) : Option ToolCall :=
  (r.callsOf t).find? fun call => call.callId ∈ t.1.seenCallIds

/-- The turn raises the error for a reused identifier. -/
def RaisesReused (t : Turn) : Prop :=
  ∃ call, r.duplicate t = some call ∧
    r.turn t.1 t.2 = .raises (orchestrationError ("model reused tool call ID: " ++ call.callId))

/-- The tool messages appended in a turn. -/
def turnMessages (t : Turn) : List ToolMessage :=
  if r.duplicate t = none ∧ ((r.callsOf t).map (·.callId)).Nodup then
    toolMessages r.registry r.tenantId t.1.executions.length (r.callsOf t)
  else []

/-- The identifiers of all calls of a run. -/
def runCallIds (responses : ℕ → Except Exc Message) : List String :=
  (r.turnsOf responses).flatMap fun t => (r.callsOf t).map (·.callId)

/-- No turn raises the error for a reused identifier, and the identifier of a tool message is that
of exactly one call of the run. -/
structure KeepsIds (responses : ℕ → Except Exc Message) : Prop where
  not_reused : ∀ t ∈ r.turnsOf responses, ¬ r.RaisesReused t
  used_once : ∀ t ∈ r.turnsOf responses, ∀ message ∈ r.turnMessages t,
    (r.runCallIds responses).count message.toolCallId = 1

/-- The identifiers that calls of the run come with are different. -/
def DistinctIds (responses : ℕ → Except Exc Message) : Prop :=
  ((r.turnsOf responses).flatMap fun t => (r.idsOf t).reduceOption).Nodup

variable {r}

theorem callsOf_ids (t : Turn) : (r.callsOf t).map (·.callId) = idsFrom 0 (r.idsOf t) := by
  obtain ⟨st, response⟩ := t
  cases response with
  | error e => rfl
  | ok message =>
    cases hparse : parseToolCalls r.text message with
    | error e => simp [callsOf, idsOf, Except.toOption, hparse]
    | ok calls =>
      simp only [callsOf, idsOf, Except.toOption, hparse, Option.bind_some, Option.map_some,
        Option.getD_some]
      exact parseToolCalls_ids hparse

theorem duplicate_eq_none_iff (t : Turn) :
    r.duplicate t = none ↔ t.1.seenCallIds.Disjoint ((r.callsOf t).map (·.callId)) := by
  rw [duplicate, List.find?_eq_none]
  constructor
  · intro h id hseen hcall
    obtain ⟨call, hmem, rfl⟩ := List.mem_map.mp hcall
    exact h call hmem (decide_eq_true hseen)
  · intro h call hmem hseen
    exact h (of_decide_eq_true hseen) (List.mem_map_of_mem hmem)

/-- A turn finds a duplicate only among calls, and raises for it. -/
theorem raisesReused_iff (t : Turn) : r.RaisesReused t ↔ r.duplicate t ≠ none := by
  constructor
  · rintro ⟨call, hcall, -⟩ hnone
    rw [hcall] at hnone
    cases hnone
  · intro h
    obtain ⟨call, hcall⟩ := Option.ne_none_iff_exists'.mp h
    refine ⟨call, hcall, ?_⟩
    obtain ⟨st, response⟩ := t
    cases response with
    | error e => cases hcall
    | ok message =>
      cases hparse : parseToolCalls r.text message with
      | error e => simp [duplicate, callsOf, Except.toOption, hparse] at hcall
      | ok calls =>
        simp only [duplicate, callsOf, Except.toOption, hparse, Option.bind_some,
          Option.getD_some] at hcall
        cases calls with
        | nil => cases hcall
        | cons first rest => simp only [turn, hparse, callTurn, hcall]

theorem seen_answerTurn {st st' : LoopState} {message : Message}
    (h : r.answerTurn st message = .again st') : st'.seenCallIds = st.seenCallIds := by
  unfold answerTurn at h
  split at h
  · split at h
    · cases h
    · cases h
      rfl
  · split at h
    · split at h
      · cases h
        rfl
      · cases h
    · split at h <;> cases h

theorem seen_callTurn {st st' : LoopState} {calls : List ToolCall}
    (h : r.callTurn st calls = .again st') :
    st'.seenCallIds = st.seenCallIds ++ calls.map (·.callId) := by
  unfold callTurn at h
  split at h
  · cases h
  · split at h
    · split at h
      · cases h
      · cases h
        rfl
    · cases h

/-- A turn that is followed by another has seen the identifiers of its calls. -/
theorem seen_turn {t : Turn} {st' : LoopState} (h : r.turn t.1 t.2 = .again st') :
    st'.seenCallIds = t.1.seenCallIds ++ (r.callsOf t).map (·.callId) := by
  obtain ⟨st, response⟩ := t
  cases response with
  | error e => cases h
  | ok message =>
    cases hparse : parseToolCalls r.text message with
    | error e =>
      simp only [turn, hparse] at h
      have hcalls : r.callsOf (st, .ok message) = [] := by
        simp [callsOf, Except.toOption, hparse]
      rw [hcalls, List.map_nil, List.append_nil]
      split at h
      · cases h
        rfl
      · cases h
    | ok calls =>
      simp only [turn, hparse] at h
      have hcalls : r.callsOf (st, .ok message) = calls := by
        simp [callsOf, Except.toOption, hparse]
      rw [hcalls]
      cases calls with
      | nil =>
        rw [List.map_nil, List.append_nil]
        exact seen_answerTurn h
      | cons first rest => exact seen_callTurn h

/-- The turns from turn `i` on find no duplicate exactly when their calls share no identifier with
those already seen, nor with one another from turn to turn. -/
theorem forall_duplicate_iff (responses : ℕ → Except Exc Message) (turns i : ℕ) (st : LoopState) :
    (∀ t ∈ r.turnsFrom responses turns i st, r.duplicate t = none) ↔
      (∀ t ∈ r.turnsFrom responses turns i st,
        st.seenCallIds.Disjoint ((r.callsOf t).map (·.callId))) ∧
      (r.turnsFrom responses turns i st).Pairwise fun t t' =>
        ((r.callsOf t).map (·.callId)).Disjoint ((r.callsOf t').map (·.callId)) := by
  induction turns generalizing i st with
  | zero => simp [turnsFrom]
  | succ turns ih =>
    rw [turnsFrom, List.forall_mem_cons, List.forall_mem_cons, List.pairwise_cons,
      duplicate_eq_none_iff]
    cases hturn : r.turn st (responses i) with
    | raises e => simp
    | answer value => simp
    | again st' =>
      have hseen := seen_turn (t := (st, responses i)) hturn
      simp only at hseen ⊢
      rw [ih, hseen]
      simp only [List.disjoint_append_left]
      rw [forall₂_and]
      constructor
      · rintro ⟨hfirst, ⟨hrest, hothers⟩, hpairwise⟩
        exact ⟨⟨hfirst, hrest⟩, hothers, hpairwise⟩
      · rintro ⟨⟨hfirst, hrest⟩, hothers, hpairwise⟩
        exact ⟨hfirst, ⟨hrest, hothers⟩, hpairwise⟩

/-- No turn of a run raises for a reused identifier exactly when no two of its turns have calls with
one identifier. -/
theorem not_reused_iff (responses : ℕ → Except Exc Message) :
    (∀ t ∈ r.turnsOf responses, ¬ r.RaisesReused t) ↔
      (r.turnsOf responses).Pairwise fun t t' =>
        ((r.callsOf t).map (·.callId)).Disjoint ((r.callsOf t').map (·.callId)) := by
  have hturn : ∀ t, ¬ r.RaisesReused t ↔ r.duplicate t = none := fun t => by
    rw [raisesReused_iff, not_not]
  simp only [hturn]
  rw [turnsOf]
  cases r.precheck with
  | error e => simp
  | ok u =>
    dsimp only
    by_cases hunknown : r.unknownRequired.isEmpty
    · rw [if_pos hunknown, forall_duplicate_iff]
      refine and_iff_right fun t _ => ?_
      exact List.disjoint_nil_left _
    · rw [if_neg hunknown]
      simp

/-- An identifier of one turn that is in no other and there only once. -/
theorem count_flatMap_eq_one {α β : Type} [DecidableEq β] {f : α → List β} {xs : List α} {x : α}
    {y : β} (hdisjoint : xs.Pairwise fun x x' => (f x).Disjoint (f x')) (hx : x ∈ xs)
    (hnodup : (f x).Nodup) (hy : y ∈ f x) : (xs.flatMap f).count y = 1 := by
  obtain ⟨before, after, rfl⟩ := List.append_of_mem hx
  obtain ⟨-, hafter, hbefore⟩ := List.pairwise_append.mp hdisjoint
  have hin : (f x).count y = 1 := List.count_eq_one_of_mem hnodup hy
  have hout : (before.flatMap f).count y = 0 := by
    apply List.count_eq_zero.mpr
    intro hmem
    obtain ⟨x', hx', hy'⟩ := List.mem_flatMap.mp hmem
    exact hbefore x' hx' x List.mem_cons_self hy' hy
  have hout' : (after.flatMap f).count y = 0 := by
    apply List.count_eq_zero.mpr
    intro hmem
    obtain ⟨x', hx', hy'⟩ := List.mem_flatMap.mp hmem
    exact (List.pairwise_cons.mp hafter).1 x' hx' hy hy'
  rw [List.flatMap_append, List.flatMap_cons, List.count_append, List.count_append, hin, hout,
    hout']

theorem pairwise_distinctIds {responses : ℕ → Except Exc Message} (h : r.DistinctIds responses) :
    (r.turnsOf responses).Pairwise fun t t' =>
      (r.idsOf t).reduceOption.Disjoint (r.idsOf t').reduceOption :=
  (List.nodup_flatMap.mp h).2

end RunRequest

open RunRequest

/-- **Identifiers of a run.** When the identifiers that calls come with are different, no turn raises
for a reused one, and each tool message has that of one call only, exactly when any two turns are
apart: no place has a call without an identifier in both, and no call of one comes with the
identifier generated for a call of the other. -/
theorem ids_used_once_iff (r : RunRequest) (responses : ℕ → Except Exc Message)
    (hdistinct : r.DistinctIds responses) : r.KeepsIds responses ↔
      (r.turnsOf responses).Pairwise fun t t' => Apart (r.idsOf t) (r.idsOf t') := by
  have hapart : (∀ t ∈ r.turnsOf responses, ¬ r.RaisesReused t) ↔
      (r.turnsOf responses).Pairwise fun t t' => Apart (r.idsOf t) (r.idsOf t') := by
    rw [not_reused_iff]
    have hexplicit := pairwise_distinctIds hdistinct
    constructor
    · intro h
      refine (h.and hexplicit).imp fun {t t'} hboth => ?_
      rw [callsOf_ids, callsOf_ids] at hboth
      exact (disjoint_idsFrom_iff hboth.2).mp hboth.1
    · intro h
      refine (h.and hexplicit).imp fun {t t'} hboth => ?_
      rw [callsOf_ids, callsOf_ids]
      exact (disjoint_idsFrom_iff hboth.2).mpr hboth.1
  rw [← hapart]
  constructor
  · exact KeepsIds.not_reused
  · intro h
    refine ⟨h, fun t ht message hmessage => ?_⟩
    -- only a turn whose identifiers differ appends messages
    rw [turnMessages] at hmessage
    split at hmessage
    · rename_i hfresh
      exact count_flatMap_eq_one ((not_reused_iff responses).mp h) ht hfresh.2
        (toolCallId_mem hmessage)
    · cases hmessage

/-- A message with one call, with the value it has for its identifier. -/
def callOfRisk (id : Value) (sku : String) : Message :=
  [("role", .str "assistant"), ("tool_calls", .list [.dict [("id", id), ("function", .dict
    [("name", .str "get_expiry_risk"), ("arguments", .dict [("sku", .str sku)])])]])]

/-- The model asks for one product, then for another without an identifier, and answers. -/
def asksForTwo (first : Value) (i : ℕ) : Except Exc Message :=
  .ok (if i = 0 then callOfRisk first "4011" else if i = 1 then callOfRisk .none "4012"
    else [("role", .str "assistant"), ("content", .str "[]")])

theorem ids_of_asksForTwo : (expiryRequest.turnsOf (asksForTwo (.str "risk-1"))).map
    expiryRequest.idsOf = [[some "risk-1"], [none], []] := by
  decide +kernel

/-- A call with an identifier, then one without. -/
theorem ids_kept_when_apart : expiryRequest.KeepsIds (asksForTwo (.str "risk-1")) := by
  have hdistinct : expiryRequest.DistinctIds (asksForTwo (.str "risk-1")) := by
    rw [DistinctIds]
    decide +kernel
  apply (ids_used_once_iff expiryRequest _ hdistinct).mpr
  rw [← List.pairwise_map, ids_of_asksForTwo]
  have hmixed : Apart [some "risk-1"] [none] := by
    constructor
    · intro place hplace
      cases place with
      | zero => cases hplace
      | succ place => cases hplace
    · intro place hplace
      cases place with
      | zero => cases hplace
      | succ place => cases hplace
    · intro place hplace
      cases place with
      | zero => decide +kernel
      | succ place => cases hplace
  have hlast : ∀ ids, Apart ids [] := by
    intro ids
    constructor
    · intro place _ hplace
      cases hplace
    · intro place _ hmem
      cases hmem
    · intro place hplace
      cases hplace
  refine List.pairwise_cons.mpr ⟨?_, List.pairwise_cons.mpr ⟨?_, List.pairwise_singleton _ _⟩⟩
  · intro ids hids
    rcases List.mem_cons.mp hids with rfl | hids
    · exact hmixed
    · rw [List.mem_singleton.mp hids]
      exact hlast _
  · intro ids hids
    rw [List.mem_singleton.mp hids]
    exact hlast _

/-- Two messages with one call each, both without an identifier: the second call is `call_1` again,
and the run ends there. -/
theorem second_call_reuses_id : expiryRequest.DistinctIds (asksForTwo .none) ∧
    expiryRequest.runMessages (asksForTwo .none) =
      .error (orchestrationError "model reused tool call ID: call_1") ∧
    ¬ expiryRequest.KeepsIds (asksForTwo .none) := by
  have hdistinct : expiryRequest.DistinctIds (asksForTwo .none) := by
    rw [DistinctIds]
    decide +kernel
  refine ⟨hdistinct, by decide +kernel, fun h => ?_⟩
  have hreused : ∃ t ∈ expiryRequest.turnsOf (asksForTwo .none),
      expiryRequest.duplicate t ≠ none := by
    decide +kernel
  obtain ⟨t, ht, hduplicate⟩ := hreused
  exact h.not_reused t ht ((raisesReused_iff t).mpr hduplicate)

end ShelfWise.Inference
