import ShelfWise.Py.Value

/-!
# The graph of causes

`_build_graph` and `_find_by_correlation` of `shelfwise_backend/detective.py`: events and decisions
under their ids, and an event also under its correlation id, unless an earlier one has it. A parent
id that is neither is looked for among the parents of the nodes.
-/

namespace ShelfWise.Detective

open Py

/-- The items of an event or a decision. -/
abbrev Record := List (String × Value)

/-- `RootCauseNode`. -/
structure RootCauseNode where
  id : String
  kind : String
  label : String
  parentIds : List String
  tenantId : String
deriving DecidableEq

/-- `str(value or default)`. -/
def textOr (value : Value) (default : String) : String := (value.orElse (.str default)).toText

/-! ## Nodes -/

/-- The node of an event, if it has an id. -/
def eventNode (event : Record) : Option RootCauseNode :=
  let eventId := textOr (Value.get event "id") ""
  let causationId := strip (textOr (Value.get event "causation_id") "")
  if eventId = "" then none
  else some ⟨eventId, "event", textOr (Value.get event "type") "event",
    if causationId = "" then [] else [causationId], textOr (Value.get event "tenant_id") "default"⟩

/-- The `correlation_id` of an event. -/
def correlationId (event : Record) : String := strip (textOr (Value.get event "correlation_id") "")

/-- What iterating a value gives, `()` standing in for one that is falsy. -/
def iterateOr (value : Value) : Except Exc (List Value) :=
  if value.truthy then value.iterate else .ok []

/-- The node of a decision, if it has an id. -/
def decisionNode (decision : Record) : Except Exc (Option RootCauseNode) :=
  let decisionId := textOr (Value.get decision "id") ""
  if decisionId = "" then .ok none
  else do
    let causes ← iterateOr (Value.get decision "caused_by")
    let action := (Value.get decision "action").items
    .ok (some ⟨decisionId, "decision",
      (Value.getD decision "status" (.str "decision")).toText ++ ":" ++
        (Value.getD action "type" (.str "unknown")).toText,
      (causes.filter (·.truthy)).map (·.toText), textOr (Value.get decision "tenant_id") "default"⟩)

/-! ## The graph -/

/-- The nodes under their ids and correlation ids. -/
abbrev Graph := Dict String RootCauseNode

/-- One event of `_build_graph`. -/
def addEvent (graph : Graph) (event : Record) : Graph :=
  (eventNode event).elim graph fun node =>
    if correlationId event = "" then graph.set node.id node
    else (graph.set node.id node).setdefault (correlationId event) node

/-- One decision of `_build_graph`. -/
def addDecision (graph : Graph) (decision : Record) : Except Exc Graph := do
  let node ← decisionNode decision
  .ok (node.elim graph fun node => graph.set node.id node)

/-- `_build_graph`. -/
def buildGraph (events decisions : List Record) : Except Exc Graph :=
  decisions.foldlM addDecision (events.foldl addEvent .empty)

/-- `_find_by_correlation`: the first node that names the id as a parent. -/
def findByCorrelation (targetId : String) (graph : Graph) : Option RootCauseNode :=
  graph.values.find? fun node => targetId ∈ node.parentIds

/-- `graph.get(parent_id) or _find_by_correlation(parent_id, graph)`. -/
def resolve (graph : Graph) (parentId : String) : Option RootCauseNode :=
  (graph.get? parentId).orElse fun _ => findByCorrelation parentId graph

/-! ## What stands under an id -/

/-- The node of one of the events or decisions. -/
def IsNode (events decisions : List Record) (node : RootCauseNode) : Prop :=
  (∃ event ∈ events, eventNode event = some node) ∨
    ∃ decision ∈ decisions, decisionNode decision = .ok (some node)

/-- The text is the correlation id of an event with this node. -/
def Correlates (events : List Record) (node : RootCauseNode) (text : String) : Prop :=
  text ≠ "" ∧ ∃ event ∈ events, eventNode event = some node ∧ correlationId event = text

/-- The text is the id of the node, or its correlation id. -/
def Names (events : List Record) (node : RootCauseNode) (text : String) : Prop :=
  text = node.id ∨ Correlates events node text

/-- The text is the id or the correlation id of some node. -/
def Known (events decisions : List Record) (text : String) : Prop :=
  ∃ node, IsNode events decisions node ∧ Names events node text

/-- Every node of the graph is one of the records', under its id or its correlation id. -/
def NamesOnly (events decisions : List Record) (graph : Graph) : Prop :=
  ∀ text node, graph.get? text = some node →
    IsNode events decisions node ∧ Names events node text

variable {events decisions : List Record} {graph : Graph} {key : String} {node : RootCauseNode}

theorem namesOnly_set (h : NamesOnly events decisions graph) (hnode : IsNode events decisions node)
    (hkey : Names events node key) : NamesOnly events decisions (graph.set key node) := by
  intro text found hget
  rw [Dict.get?_set] at hget
  split at hget
  · rename_i heq
    cases hget
    rw [← heq]
    exact ⟨hnode, hkey⟩
  · exact h text found hget

theorem namesOnly_setdefault (h : NamesOnly events decisions graph)
    (hnode : IsNode events decisions node) (hkey : Names events node key) :
    NamesOnly events decisions (graph.setdefault key node) := by
  unfold Dict.setdefault
  split
  · exact h
  · exact namesOnly_set h hnode hkey

theorem namesOnly_addEvent {event : Record} (h : NamesOnly events decisions graph)
    (hevent : event ∈ events) : NamesOnly events decisions (addEvent graph event) := by
  unfold addEvent
  cases hnode : eventNode event with
  | none => exact h
  | some node =>
    rw [Option.elim_some]
    have hin : IsNode events decisions node := .inl ⟨event, hevent, hnode⟩
    have hset := namesOnly_set h hin (.inl rfl)
    split
    · exact hset
    · rename_i hne
      exact namesOnly_setdefault hset hin (.inr ⟨hne, event, hevent, hnode, rfl⟩)

variable {graph' : Graph}

theorem namesOnly_addDecision {decision : Record} (h : NamesOnly events decisions graph)
    (hdecision : decision ∈ decisions) (hadd : addDecision graph decision = .ok graph') :
    NamesOnly events decisions graph' := by
  obtain ⟨found, hfound, hgraph⟩ := bind_eq_ok_iff.mp hadd
  cases hgraph
  cases found with
  | none => exact h
  | some node => exact namesOnly_set h (.inr ⟨decision, hdecision, hfound⟩) (.inl rfl)

/-- What a graph has is found under the ids and correlation ids of its records. -/
theorem namesOnly_buildGraph (h : buildGraph events decisions = .ok graph) :
    NamesOnly events decisions graph := by
  have hevents : ∀ added : List Record, (∀ event ∈ added, event ∈ events) → ∀ start : Graph,
      NamesOnly events decisions start → NamesOnly events decisions (added.foldl addEvent start) := by
    intro added
    induction added with
    | nil => exact fun _ _ hstart => hstart
    | cons event rest ih =>
      intro hin start hstart
      exact ih (fun e he => hin e (List.mem_cons_of_mem event he)) _
        (namesOnly_addEvent hstart (hin event List.mem_cons_self))
  have hdecisions : ∀ added : List Record, (∀ decision ∈ added, decision ∈ decisions) →
      ∀ start : Graph, NamesOnly events decisions start →
        added.foldlM addDecision start = .ok graph → NamesOnly events decisions graph := by
    intro added
    induction added with
    | nil =>
      intro _ start hstart hfold
      cases hfold
      exact hstart
    | cons decision rest ih =>
      intro hin start hstart hfold
      rw [List.foldlM_cons] at hfold
      obtain ⟨next, hnext, hrest⟩ := bind_eq_ok_iff.mp hfold
      exact ih (fun d hd => hin d (List.mem_cons_of_mem decision hd)) next
        (namesOnly_addDecision hstart (hin decision List.mem_cons_self) hnext) hrest
  apply hdecisions decisions (fun _ hmem => hmem) _ _ h
  exact hevents events (fun _ hmem => hmem) _ fun _ _ hget => nomatch hget

/-! ## Which ids the graph knows -/

variable {text : String}

theorem isSome_get?_set :
    ((graph.set key node).get? text).isSome = true ↔
      text = key ∨ (graph.get? text).isSome = true := by
  rw [Dict.get?_set]
  by_cases hkey : key = text
  · rw [if_pos hkey]
    exact iff_of_true rfl (.inl hkey.symm)
  · rw [if_neg hkey]
    exact ⟨.inr, fun h => h.resolve_left fun heq => hkey heq.symm⟩

theorem isSome_get?_setdefault :
    ((graph.setdefault key node).get? text).isSome = true ↔
      text = key ∨ (graph.get? text).isSome = true := by
  rw [Dict.setdefault]
  by_cases hkey : graph.contains key = true
  · rw [if_pos hkey]
    refine ⟨.inr, fun h => h.elim (fun heq => ?_) id⟩
    rw [heq]
    exact hkey
  · rw [if_neg hkey]
    exact isSome_get?_set

/-- The names a record stands under. -/
def EventNames (event : Record) (text : String) : Prop :=
  ∃ node, eventNode event = some node ∧
    (text = node.id ∨ text ≠ "" ∧ correlationId event = text)

theorem isSome_addEvent {event : Record} :
    ((addEvent graph event).get? text).isSome = true ↔
      EventNames event text ∨ (graph.get? text).isSome = true := by
  unfold addEvent EventNames
  cases hnode : eventNode event with
  | none => simp
  | some node =>
    simp only [Option.elim_some, Option.some.injEq, exists_eq_left']
    by_cases hempty : correlationId event = ""
    · rw [if_pos hempty, isSome_get?_set, hempty]
      constructor
      · rintro (hid | hknown)
        · exact .inl (.inl hid)
        · exact .inr hknown
      · rintro ((hid | ⟨hne, heq⟩) | hknown)
        · exact .inl hid
        · exact absurd heq.symm hne
        · exact .inr hknown
    · rw [if_neg hempty, isSome_get?_setdefault, isSome_get?_set]
      constructor
      · rintro (hcorrelation | hid | hknown)
        · exact .inl (.inr ⟨hcorrelation ▸ hempty, hcorrelation.symm⟩)
        · exact .inl (.inl hid)
        · exact .inr hknown
      · rintro ((hid | ⟨-, heq⟩) | hknown)
        · exact .inr (.inl hid)
        · exact .inl heq.symm
        · exact .inr (.inr hknown)

theorem isSome_addDecision {decision : Record} (hadd : addDecision graph decision = .ok graph') :
    (graph'.get? text).isSome = true ↔
      (∃ node, decisionNode decision = .ok (some node) ∧ text = node.id) ∨
        (graph.get? text).isSome = true := by
  obtain ⟨found, hfound, hgraph⟩ := bind_eq_ok_iff.mp hadd
  cases hgraph
  rw [hfound]
  cases found with
  | none => simp
  | some node =>
    rw [Option.elim_some, isSome_get?_set]
    simp

theorem isSome_foldl_addEvent :
    ((events.foldl addEvent graph).get? text).isSome = true ↔
      (∃ event ∈ events, EventNames event text) ∨ (graph.get? text).isSome = true := by
  induction events generalizing graph with
  | nil => simp
  | cons event rest ih =>
    rw [List.foldl_cons, ih, isSome_addEvent, List.exists_mem_cons_iff, or_left_comm, or_assoc]

theorem isSome_foldlM_addDecision (h : decisions.foldlM addDecision graph = .ok graph') :
    (graph'.get? text).isSome = true ↔
      (∃ decision ∈ decisions, ∃ node, decisionNode decision = .ok (some node) ∧ text = node.id) ∨
        (graph.get? text).isSome = true := by
  induction decisions generalizing graph with
  | nil =>
    cases h
    simp
  | cons decision rest ih =>
    rw [List.foldlM_cons] at h
    obtain ⟨next, hnext, hrest⟩ := bind_eq_ok_iff.mp h
    rw [ih hrest, isSome_addDecision hnext, List.exists_mem_cons_iff, or_left_comm, or_assoc]

/-- A graph has the ids and correlation ids of its records, and no other. -/
theorem isSome_buildGraph (h : buildGraph events decisions = .ok graph) (text : String) :
    (graph.get? text).isSome = true ↔ Known events decisions text := by
  rw [isSome_foldlM_addDecision h, isSome_foldl_addEvent]
  constructor
  · rintro (⟨decision, hdecision, node, hnode, htext⟩ | ⟨event, hevent, node, hnode, hname⟩ | hnone)
    · exact ⟨node, .inr ⟨decision, hdecision, hnode⟩, .inl htext⟩
    · refine ⟨node, .inl ⟨event, hevent, hnode⟩, ?_⟩
      rcases hname with hid | ⟨hne, hcorrelation⟩
      · exact .inl hid
      · exact .inr ⟨hne, event, hevent, hnode, hcorrelation⟩
    · cases hnone
  · rintro ⟨node, hnode, hname⟩
    rcases hname with hid | ⟨hne, event, hevent, hevent', hcorrelation⟩
    · rcases hnode with ⟨event, hevent, hnode⟩ | ⟨decision, hdecision, hnode⟩
      · exact .inr (.inl ⟨event, hevent, node, hnode, .inl hid⟩)
      · exact .inl ⟨decision, hdecision, node, hnode, hid⟩
    · exact .inr (.inl ⟨event, hevent, node, hevent', .inr ⟨hne, hcorrelation⟩⟩)

end ShelfWise.Detective
