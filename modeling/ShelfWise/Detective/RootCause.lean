import Mathlib.Data.List.Chain
import ShelfWise.Detective.Graph
import ShelfWise.Py.Sorted
import ShelfWise.Sys.Worklist

/-!
# Root causes

`analyze_root_cause` and `_walk_to_roots` of `shelfwise_backend/detective.py`: from the node of the
target the walk follows parent ids, along paths that repeat no id, to nodes without parents or to its
depth. A trail is a path with the last node first.

A parent id stands for one node, whatever else has it as an id or a correlation id, and an unknown
one for the first node that names it as a parent. `real_paths_iff` says when neither matters.
-/

namespace ShelfWise.Detective

open Py Sys.Worklist

/-! ## The walk -/

/-- A path, the last node first. -/
abbrev Trail := List RootCauseNode

/-- The trails that the body of the loop appends to the queue. -/
def extend (graph : Graph) (maxDepth : ℕ) : Trail → List Trail
  | [] => []
  | node :: earlier =>
    if maxDepth ≤ earlier.length ∨ node.parentIds = [] then []
    else node.parentIds.filterMap fun parentId => (resolve graph parentId).bind fun parent =>
      if parent.id ∈ (node :: earlier).map (·.id) then none else some (parent :: node :: earlier)

/-- The number of trails a trail comes to in so many extensions. -/
def size (graph : Graph) (maxDepth : ℕ) : ℕ → Trail → ℕ
  | 0, _ => 1
  | k + 1, trail => 1 + ((extend graph maxDepth trail).map (size graph maxDepth k)).sum

/-- The number of trails a trail comes to. -/
def weight (graph : Graph) (maxDepth : ℕ) (trail : Trail) : ℕ :=
  size graph maxDepth (maxDepth + 1 - trail.length) trail

variable {node : RootCauseNode}

theorem mem_extend_iff {graph : Graph} {maxDepth : ℕ} {earlier trail : Trail} :
    trail ∈ extend graph maxDepth (node :: earlier) ↔ earlier.length < maxDepth ∧
      ∃ parentId ∈ node.parentIds, ∃ parent, resolve graph parentId = some parent ∧
        parent.id ∉ (node :: earlier).map (·.id) ∧ trail = parent :: node :: earlier := by
  rw [extend]
  split
  · rename_i hstop
    refine iff_of_false (fun hmem => nomatch hmem) ?_
    rintro ⟨hdepth, parentId, hparent, -⟩
    rcases hstop with hle | hnone
    · omega
    · rw [hnone] at hparent
      cases hparent
  · rename_i hgo
    have hdepth : earlier.length < maxDepth := Nat.lt_of_not_le fun hle => hgo (.inl hle)
    rw [List.mem_filterMap, and_iff_right hdepth]
    constructor
    · rintro ⟨parentId, hparentId, htrail⟩
      obtain ⟨parent, hresolve, htrail⟩ := Option.bind_eq_some_iff.mp htrail
      split at htrail
      · cases htrail
      · rename_i hfresh
        exact ⟨parentId, hparentId, parent, hresolve, hfresh, (Option.some.inj htrail).symm⟩
    · rintro ⟨parentId, hparentId, parent, hresolve, hfresh, rfl⟩
      refine ⟨parentId, hparentId, ?_⟩
      rw [hresolve, Option.bind_some, if_neg hfresh]

/-- An extension is one node longer, and within the depth. -/
theorem length_of_mem_extend {graph : Graph} {maxDepth : ℕ} {trail longer : Trail}
    (h : longer ∈ extend graph maxDepth trail) :
    longer.length = trail.length + 1 ∧ longer.length ≤ maxDepth + 1 := by
  cases trail with
  | nil => cases h
  | cons node earlier =>
    obtain ⟨hdepth, -, -, parent, -, -, rfl⟩ := mem_extend_iff.mp h
    refine ⟨List.length_cons, ?_⟩
    rw [List.length_cons, List.length_cons]
    omega

theorem one_le_size (graph : Graph) (maxDepth k : ℕ) (trail : Trail) :
    1 ≤ size graph maxDepth k trail := by
  cases k with
  | zero => exact le_refl 1
  | succ k => exact Nat.le_add_right 1 _

/-- The walk ends: a trail weighs more than its extensions. -/
theorem shrinks_extend (graph : Graph) (maxDepth : ℕ) :
    Shrinks (extend graph maxDepth) (weight graph maxDepth) := by
  intro trail
  by_cases hnone : extend graph maxDepth trail = []
  · rw [hnone, List.map_nil, List.sum_nil]
    exact one_le_size graph maxDepth _ trail
  · obtain ⟨longer, hlonger⟩ := List.exists_mem_of_ne_nil _ hnone
    have hlength := length_of_mem_extend hlonger
    -- one extension is left over for the trail itself
    obtain ⟨k, hk⟩ : ∃ k, maxDepth + 1 - trail.length = k + 1 :=
      ⟨maxDepth - trail.length, by omega⟩
    have hsame : (extend graph maxDepth trail).map (weight graph maxDepth) =
        (extend graph maxDepth trail).map (size graph maxDepth k) := by
      apply List.map_congr_left
      intro other hother
      have hother := length_of_mem_extend hother
      rw [weight]
      congr 1
      omega
    rw [hsame, weight, hk, size]
    omega

/-- `_walk_to_roots`. -/
def walkToRoots (target : RootCauseNode) (graph : Graph) (maxDepth : ℕ) :
    List (List RootCauseNode) :=
  (search (extend graph maxDepth) (weight graph maxDepth) (shrinks_extend graph maxDepth)
    [[target]]).map List.reverse

/-! ## The analysis -/

/-- `RootCauseAnalysis`. -/
structure RootCauseAnalysis where
  targetId : String
  found : Bool
  paths : List (List RootCauseNode)
  rootEvents : List RootCauseNode
  method : String

/-- `_METHOD`. -/
def methodName : String := "bounded_bfs_event_decision_causality_recursive_cte_compatible"

/-- The last node of a path, when it is an event without parents. -/
def rootOf (path : List RootCauseNode) : Option (String × RootCauseNode) :=
  path.getLast?.bind fun node =>
    if node.kind = "event" ∧ node.parentIds = [] then some (node.id, node) else none

/-- `analyze_root_cause`. -/
def analyzeRootCause (targetId : String) (events decisions : List Record) (maxDepth : ℤ) :
    Except Exc RootCauseAnalysis :=
  if maxDepth ≤ 0 then .error (.valueError "max_depth must be positive")
  else do
    let graph ← buildGraph events decisions
    match resolve graph targetId with
    | none => .ok ⟨targetId, false, [], [], methodName⟩
    | some target =>
      let paths := walkToRoots target graph maxDepth.toNat
      .ok ⟨targetId, true, paths,
        sortedBy (·.id) (Dict.ofItems (paths.filterMap rootOf)).values, methodName⟩

/-! ## What the walk finds -/

/-- A walk from the target: a trail of lookups that repeats no id. -/
inductive Walk (graph : Graph) (target : RootCauseNode) : Trail → Prop where
  | target : Walk graph target [target]
  | step {child parent : RootCauseNode} {earlier : Trail} {parentId : String}
      (hwalk : Walk graph target (child :: earlier)) (hid : parentId ∈ child.parentIds)
      (hresolve : resolve graph parentId = some parent)
      (hfresh : parent.id ∉ (child :: earlier).map (·.id)) :
      Walk graph target (parent :: child :: earlier)

variable {graph : Graph} {target : RootCauseNode} {maxDepth : ℕ} {trail : Trail}

theorem Walk.ne_nil (h : Walk graph target trail) : trail ≠ [] := by
  cases h with
  | target => exact List.cons_ne_nil _ _
  | step => exact List.cons_ne_nil _ _

theorem Walk.nodup (h : Walk graph target trail) : (trail.map (·.id)).Nodup := by
  induction h with
  | target => exact List.nodup_singleton _
  | step _ _ _ hfresh ih => exact List.nodup_cons.mpr ⟨hfresh, ih⟩

variable {result : Trail}

/-- What a walk leads to is a walk within the depth that it is the beginning of. -/
theorem walk_of_leads (h : Leads (extend graph maxDepth) trail result)
    (hwalk : Walk graph target trail) (hlength : trail.length ≤ maxDepth + 1) :
    Walk graph target result ∧ result.length ≤ maxDepth + 1 ∧ trail <:+ result := by
  induction h with
  | done _ => exact ⟨hwalk, hlength, List.suffix_rfl⟩
  | @step before after result hmem _ ih =>
    cases before with
    | nil => cases hmem
    | cons node earlier =>
      have hlonger := length_of_mem_extend hmem
      obtain ⟨-, parentId, hid, parent, hresolve, hfresh, rfl⟩ := mem_extend_iff.mp hmem
      obtain ⟨hresult, hbound, hsuffix⟩ := ih (.step hwalk hid hresolve hfresh) hlonger.2
      exact ⟨hresult, hbound, (List.suffix_cons _ _).trans hsuffix⟩

/-- Every walk within the depth is come to from the target. -/
theorem leads_of_walk (hwalk : Walk graph target trail) (hlength : trail.length ≤ maxDepth + 1)
    (h : Leads (extend graph maxDepth) trail result) :
    Leads (extend graph maxDepth) [target] result := by
  induction hwalk generalizing result with
  | target => exact h
  | @step child parent earlier parentId hwalk hid hresolve hfresh ih =>
    rw [List.length_cons] at hlength
    apply ih (by omega)
    refine .step (mem_extend_iff.mpr ⟨?_, parentId, hid, parent, hresolve, hfresh, rfl⟩) h
    rw [List.length_cons] at hlength
    omega

variable {path : List RootCauseNode}

/-- The paths of a walk are the walks within the depth that go no further. -/
theorem mem_walkToRoots_iff :
    path ∈ walkToRoots target graph maxDepth ↔ ∃ trail, Walk graph target trail ∧
      trail.length ≤ maxDepth + 1 ∧ extend graph maxDepth trail = [] ∧ path = trail.reverse := by
  rw [walkToRoots, List.mem_map]
  constructor
  · rintro ⟨trail, hmem, rfl⟩
    obtain ⟨start, hstart, hleads⟩ := (mem_search_iff _ _ _).mp hmem
    cases List.mem_singleton.mp hstart
    obtain ⟨hwalk, hlength, -⟩ := walk_of_leads hleads .target (Nat.le_add_left 1 maxDepth)
    exact ⟨trail, hwalk, hlength, hleads.ended, rfl⟩
  · rintro ⟨trail, hwalk, hlength, hended, rfl⟩
    refine ⟨trail, (mem_search_iff _ _ _).mpr ⟨[target], List.mem_singleton_self _, ?_⟩, rfl⟩
    exact leads_of_walk hwalk hlength (.done hended)

/-- Every walk within the depth is the beginning of a path. -/
theorem exists_path_of_walk (hwalk : Walk graph target trail)
    (hlength : trail.length ≤ maxDepth + 1) :
    ∃ longer, longer.reverse ∈ walkToRoots target graph maxDepth ∧ trail <:+ longer := by
  obtain ⟨longer, hleads⟩ := exists_leads (shrinks_extend graph maxDepth) trail
  obtain ⟨hwalk', hlength', hsuffix⟩ := walk_of_leads hleads hwalk hlength
  exact ⟨longer, mem_walkToRoots_iff.mpr ⟨longer, hwalk', hlength', hleads.ended, rfl⟩, hsuffix⟩

/-! ## Real paths -/

/-- Some parent id of the child is the id or the correlation id of the parent. -/
def Link (events : List Record) (child parent : RootCauseNode) : Prop :=
  ∃ parentId ∈ child.parentIds, Names events parent parentId

/-- A node of the records that so many links lead to. -/
inductive LinkedIn (events decisions : List Record) (start : RootCauseNode) :
    ℕ → RootCauseNode → Prop where
  | start : LinkedIn events decisions start 0 start
  | link {k : ℕ} {child parent : RootCauseNode} (hchild : LinkedIn events decisions start k child)
      (hnode : IsNode events decisions parent) (hlink : Link events child parent) :
      LinkedIn events decisions start (k + 1) parent

/-- An event without causes that links lead to within the depth. -/
def RootWithin (events decisions : List Record) (start : RootCauseNode) (maxDepth : ℕ)
    (root : RootCauseNode) : Prop :=
  (∃ event ∈ events, eventNode event = some root) ∧ root.parentIds = [] ∧
    ∃ k ≤ maxDepth, LinkedIn events decisions start k root

/-- The analysis tells the truth: its paths are simple, within the depth and made of links, it finds
known targets only, and it lists every root event that links lead to. -/
structure RealPaths (events decisions : List Record) (targetId : String) (maxDepth : ℕ)
    (graph : Graph) (analysis : RootCauseAnalysis) : Prop where
  simple : ∀ path ∈ analysis.paths, (path.map (·.id)).Nodup
  bounded : ∀ path ∈ analysis.paths, path.length ≤ maxDepth + 1
  linked : ∀ path ∈ analysis.paths, path.IsChain (Link events)
  known : analysis.found = true → Known events decisions targetId
  listed : ∀ start, resolve graph targetId = some start →
    ∀ root, RootWithin events decisions start maxDepth root →
      ∃ listed ∈ analysis.rootEvents, listed.id = root.id

/-- A trail of links. -/
def Linked (events : List Record) (trail : Trail) : Prop :=
  trail.IsChain fun parent child => Link events child parent

/-- No id misleads the walk. An unknown target is no parent id. Where a walk along links meets an
unknown parent id, the first node with it is on the walk already or linked by another id. And to each
root event that links lead to there is a walk: its ids stand for the nodes on the way, not for
others that share them. -/
structure Unmistakable (events decisions : List Record) (targetId : String) (maxDepth : ℕ)
    (graph : Graph) : Prop where
  target : Known events decisions targetId ∨ ∀ node ∈ graph.values, targetId ∉ node.parentIds
  unknown : ∀ start, resolve graph targetId = some start → ∀ child earlier,
    Walk graph start (child :: earlier) → Linked events (child :: earlier) →
      earlier.length < maxDepth → ∀ parentId ∈ child.parentIds, ¬ Known events decisions parentId →
        ∀ other, findByCorrelation parentId graph = some other →
          other.id ∈ (child :: earlier).map (·.id) ∨ Link events child other
  unshadowed : ∀ start, resolve graph targetId = some start →
    ∀ root, RootWithin events decisions start maxDepth root → ∃ last earlier,
      Walk graph start (last :: earlier) ∧ earlier.length ≤ maxDepth ∧ last.kind = "event" ∧
        last.parentIds = [] ∧ last.id = root.id

variable {events decisions : List Record} {targetId : String}

theorem get?_eq_none_iff (hgraph : buildGraph events decisions = .ok graph) (text : String) :
    graph.get? text = none ↔ ¬ Known events decisions text := by
  rw [← isSome_buildGraph hgraph, Bool.not_eq_true, Option.isSome_eq_false_iff,
    Option.isNone_iff_eq_none]

variable {text : String}

theorem resolve_of_known (hgraph : buildGraph events decisions = .ok graph)
    (h : Known events decisions text) : resolve graph text = graph.get? text := by
  obtain ⟨node, hnode⟩ := Option.isSome_iff_exists.mp ((isSome_buildGraph hgraph text).mpr h)
  rw [resolve, hnode]
  rfl

theorem resolve_of_unknown (hgraph : buildGraph events decisions = .ok graph)
    (h : ¬ Known events decisions text) : resolve graph text = findByCorrelation text graph := by
  rw [resolve, (get?_eq_none_iff hgraph text).mpr h]
  rfl

/-- A known parent id leads along a link. -/
theorem link_of_known (hgraph : buildGraph events decisions = .ok graph)
    {child parent : RootCauseNode} {parentId : String} (hid : parentId ∈ child.parentIds)
    (hknown : Known events decisions parentId) (hresolve : resolve graph parentId = some parent) :
    Link events child parent := by
  rw [resolve_of_known hgraph hknown] at hresolve
  exact ⟨parentId, hid, (namesOnly_buildGraph hgraph parentId parent hresolve).2⟩

/-- The paths are made of links exactly when no unknown parent id leads off them. -/
theorem linked_iff (hgraph : buildGraph events decisions = .ok graph) (start : RootCauseNode) :
    (∀ path ∈ walkToRoots start graph maxDepth, path.IsChain (Link events)) ↔
      ∀ child earlier, Walk graph start (child :: earlier) → Linked events (child :: earlier) →
        earlier.length < maxDepth → ∀ parentId ∈ child.parentIds,
          ¬ Known events decisions parentId → ∀ other, findByCorrelation parentId graph = some other →
            other.id ∈ (child :: earlier).map (·.id) ∨ Link events child other := by
  constructor
  · intro h child earlier hwalk _ hdepth parentId hid hunknown other hother
    by_cases hfresh : other.id ∈ (child :: earlier).map (·.id)
    · exact .inl hfresh
    · rw [← resolve_of_unknown hgraph hunknown] at hother
      obtain ⟨longer, hpath, hsuffix⟩ := exists_path_of_walk
        (hwalk.step hid hother hfresh) (Nat.succ_le_succ hdepth)
      have hchain : Linked events longer := List.isChain_reverse.mp (h _ hpath)
      exact .inr (List.isChain_cons_cons.mp (hchain.suffix hsuffix)).1
  · intro h path hpath
    obtain ⟨trail, hwalk, hlength, -, rfl⟩ := mem_walkToRoots_iff.mp hpath
    apply List.isChain_reverse.mpr
    show Linked events trail
    clear hpath
    induction hwalk with
    | target => exact List.isChain_singleton _
    | @step child parent earlier parentId hwalk hid hresolve hfresh ih =>
      rw [List.length_cons, List.length_cons] at hlength
      have hchain := ih (by rw [List.length_cons]; omega)
      refine List.isChain_cons_cons.mpr ⟨?_, hchain⟩
      by_cases hknown : Known events decisions parentId
      · exact link_of_known hgraph hid hknown hresolve
      · rw [resolve_of_unknown hgraph hknown] at hresolve
        exact (h child earlier hwalk hchain (by omega) parentId hid hknown parent
          hresolve).resolve_left hfresh

/-! ## Root events -/

variable {ν : Type} {key : String}

theorem get?_ofItems_of_mem {items : List (String × ν)} {value : ν} (h : (key, value) ∈ items) :
    ∃ stored, (Dict.ofItems items).get? key = some stored := by
  rw [Dict.get?_ofItems]
  have hne : (items.filter fun kv => kv.1 = key) ≠ [] :=
    List.ne_nil_of_mem (List.mem_filter.mpr ⟨h, decide_eq_true rfl⟩)
  exact ⟨_, by rw [List.getLast?_eq_some_getLast hne, Option.map_some]⟩

theorem mem_of_get?_ofItems {items : List (String × ν)} {value : ν}
    (h : (Dict.ofItems items).get? key = some value) : (key, value) ∈ items := by
  rw [Dict.get?_ofItems] at h
  obtain ⟨⟨key', value'⟩, hlast, rfl⟩ := Option.map_eq_some_iff.mp h
  obtain ⟨hmem, hkey⟩ := List.mem_filter.mp (List.mem_of_getLast? hlast)
  have hname : key' = key := of_decide_eq_true hkey
  rw [← hname]
  exact hmem

theorem rootOf_reverse (last : RootCauseNode) (earlier : Trail) :
    rootOf (last :: earlier).reverse =
      if last.kind = "event" ∧ last.parentIds = [] then some (last.id, last) else none := by
  rw [rootOf, List.getLast?_reverse, List.head?_cons, Option.bind_some]

/-- The root events have the ids in which the paths end. -/
theorem exists_rootEvent_iff {paths : List (List RootCauseNode)} {id : String} :
    (∃ root ∈ sortedBy (·.id) (Dict.ofItems (paths.filterMap rootOf)).values, root.id = id) ↔
      ∃ path ∈ paths, ∃ root, rootOf path = some (id, root) := by
  have hid : ∀ path key root, rootOf path = some (key, root) → root.id = key := by
    intro path key root h
    obtain ⟨last, -, hlast⟩ := Option.bind_eq_some_iff.mp h
    split at hlast
    · cases hlast
      rfl
    · cases hlast
  constructor
  · rintro ⟨root, hroot, hname⟩
    obtain ⟨key, hget⟩ := (Dict.mem_values_iff _ root).mp (mem_sortedBy.mp hroot)
    obtain ⟨path, hpath, hend⟩ := List.mem_filterMap.mp (mem_of_get?_ofItems hget)
    rw [← hname, hid path key root hend]
    exact ⟨path, hpath, root, hend⟩
  · rintro ⟨path, hpath, root, hend⟩
    obtain ⟨stored, hget⟩ := get?_ofItems_of_mem (List.mem_filterMap.mpr ⟨path, hpath, hend⟩)
    obtain ⟨path', -, hend'⟩ := List.mem_filterMap.mp (mem_of_get?_ofItems hget)
    exact ⟨stored, mem_sortedBy.mpr ((Dict.mem_values_iff _ stored).mpr ⟨id, hget⟩),
      hid path' id stored hend'⟩

/-- A path ends in an id exactly when there is a walk to a root event of that id. -/
theorem exists_path_iff (start : RootCauseNode) (id : String) :
    (∃ path ∈ walkToRoots start graph maxDepth, ∃ root, rootOf path = some (id, root)) ↔
      ∃ last earlier, Walk graph start (last :: earlier) ∧ earlier.length ≤ maxDepth ∧
        last.kind = "event" ∧ last.parentIds = [] ∧ last.id = id := by
  constructor
  · rintro ⟨path, hpath, root, hroot⟩
    obtain ⟨trail, hwalk, hlength, -, rfl⟩ := mem_walkToRoots_iff.mp hpath
    cases trail with
    | nil => exact absurd rfl hwalk.ne_nil
    | cons last earlier =>
      rw [rootOf_reverse] at hroot
      split at hroot
      · rename_i hends
        have hid := (Prod.mk.inj (Option.some.inj hroot)).1
        exact ⟨last, earlier, hwalk, Nat.le_of_succ_le_succ hlength, hends.1, hends.2, hid⟩
      · cases hroot
  · rintro ⟨last, earlier, hwalk, hlength, hkind, hnone, hid⟩
    have hended : extend graph maxDepth (last :: earlier) = [] := by
      rw [extend, if_pos (.inr hnone)]
    refine ⟨(last :: earlier).reverse, mem_walkToRoots_iff.mpr
      ⟨last :: earlier, hwalk, Nat.succ_le_succ hlength, hended, rfl⟩, last, ?_⟩
    rw [rootOf_reverse, if_pos ⟨hkind, hnone⟩, hid]

/-! ## The claim of the analysis -/

/-- The analysis of a target, once the graph is built. -/
theorem analyzeRootCause_eq {maxDepth : ℤ} (hdepth : 0 < maxDepth)
    (hgraph : buildGraph events decisions = .ok graph) :
    analyzeRootCause targetId events decisions maxDepth =
      .ok ((resolve graph targetId).elim ⟨targetId, false, [], [], methodName⟩ fun target =>
        ⟨targetId, true, walkToRoots target graph maxDepth.toNat,
          sortedBy (·.id) (Dict.ofItems
            ((walkToRoots target graph maxDepth.toNat).filterMap rootOf)).values, methodName⟩) := by
  rw [analyzeRootCause, if_neg (not_le.mpr hdepth), hgraph]
  dsimp only [bind, Except.bind]
  cases resolve graph targetId with
  | none => rfl
  | some target => rfl

variable {start : RootCauseNode}

/-- What no record can change: every path is simple and within the depth. -/
theorem simple_of_path (h : path ∈ walkToRoots start graph maxDepth) :
    (path.map (·.id)).Nodup ∧ path.length ≤ maxDepth + 1 := by
  obtain ⟨trail, hwalk, hlength, -, rfl⟩ := mem_walkToRoots_iff.mp h
  rw [List.map_reverse, List.length_reverse]
  exact ⟨List.nodup_reverse.mpr hwalk.nodup, hlength⟩

/-- **Root causes.** The analysis ends, and tells the truth exactly when no id misleads the walk. -/
theorem real_paths_iff {maxDepth : ℤ} (hdepth : 0 < maxDepth)
    (hgraph : buildGraph events decisions = .ok graph) :
    (∃ analysis, analyzeRootCause targetId events decisions maxDepth = .ok analysis ∧
        RealPaths events decisions targetId maxDepth.toNat graph analysis) ↔
      Unmistakable events decisions targetId maxDepth.toNat graph := by
  rw [analyzeRootCause_eq hdepth hgraph]
  simp only [Except.ok.injEq, exists_eq_left']
  cases hresolve : resolve graph targetId with
  | none =>
    rw [Option.elim_none]
    -- nothing is found, so no node has the target's id, as its own or as a parent
    have hnone : ∀ node ∈ graph.values, targetId ∉ node.parentIds := by
      intro node hnode hparent
      have hfind : findByCorrelation targetId graph = none := by
        rw [resolve] at hresolve
        cases hget : graph.get? targetId with
        | none =>
          rw [hget] at hresolve
          exact hresolve
        | some other =>
          rw [hget] at hresolve
          cases hresolve
      exact List.find?_eq_none.mp hfind node hnode (decide_eq_true hparent)
    have hstart : ∀ start, resolve graph targetId ≠ some start := by
      intro start hsome
      rw [hresolve] at hsome
      cases hsome
    apply iff_of_true
    · constructor
      · intro path hpath
        cases hpath
      · intro path hpath
        cases hpath
      · intro path hpath
        cases hpath
      · intro hfound
        cases hfound
      · intro start hsome
        exact absurd hsome (hstart start)
    · exact ⟨.inr hnone, fun start hsome => absurd hsome (hstart start),
        fun start hsome => absurd hsome (hstart start)⟩
  | some start =>
    rw [Option.elim_some]
    have hstart : ∀ other, resolve graph targetId = some other → other = start := fun other hother =>
      (Option.some.inj (hresolve.symm.trans hother)).symm
    constructor
    · intro h
      refine ⟨.inl (h.known rfl), ?_, ?_⟩
      · intro other hother
        rw [hstart other hother]
        exact (linked_iff hgraph start).mp h.linked
      · intro other hother root hroot
        have hlisted := h.listed other hother root hroot
        rw [hstart other hother]
        exact (exists_path_iff start root.id).mp (exists_rootEvent_iff.mp hlisted)
    · intro h
      refine ⟨fun path hpath => (simple_of_path hpath).1, fun path hpath => (simple_of_path hpath).2,
        (linked_iff hgraph start).mpr (h.unknown start hresolve), fun _ => ?_, ?_⟩
      · rcases h.target with hknown | hnone
        · exact hknown
        · by_contra hunknown
          rw [resolve_of_unknown hgraph hunknown, findByCorrelation] at hresolve
          have hparent := List.find?_some hresolve
          exact hnone start (List.mem_of_find?_eq_some hresolve) (of_decide_eq_true hparent)
      · intro other hother root hroot
        have hwalk := h.unshadowed other hother root hroot
        rw [hstart other hother] at hwalk
        exact exists_rootEvent_iff.mpr ((exists_path_iff start root.id).mpr hwalk)

/-! ## A target without causes, and one with a lost cause -/

theorem walk_of_no_parents (hnone : start.parentIds = []) (h : Walk graph start trail) :
    trail = [start] := by
  induction h with
  | target => rfl
  | step _ hid _ _ ih =>
    obtain ⟨rfl, rfl⟩ := List.cons.inj ih
    rw [hnone] at hid
    cases hid

theorem linkedIn_of_no_parents {k : ℕ} (hnone : start.parentIds = [])
    (h : LinkedIn events decisions start k node) : node = start := by
  induction h with
  | start => rfl
  | link _ _ hlink ih =>
    obtain ⟨parentId, hid, -⟩ := hlink
    rw [ih, hnone] at hid
    cases hid

/-- A scan at the shelf, and its cause if it has one. -/
def scanEvent (id causationId : String) : Record :=
  [("id", .str id), ("type", .str "scan"), ("causation_id", .str causationId)]

/-- The node of such a scan. -/
def scanNode (id : String) (parentIds : List String) : RootCauseNode :=
  ⟨id, "event", "scan", parentIds, "default"⟩

/-- A scan without a cause is its own root event. -/
theorem scan_is_root : ∃ analysis,
    analyzeRootCause "evt_1" [scanEvent "evt_1" ""] [] 6 = .ok analysis ∧
      RealPaths [scanEvent "evt_1" ""] [] "evt_1" 6
        (Dict.empty.set "evt_1" (scanNode "evt_1" [])) analysis := by
  have hgraph : buildGraph [scanEvent "evt_1" ""] [] =
      .ok (Dict.empty.set "evt_1" (scanNode "evt_1" [])) := by decide +kernel
  have hnode : eventNode (scanEvent "evt_1" "") = some (scanNode "evt_1" []) := by decide +kernel
  have hresolve : resolve (Dict.empty.set "evt_1" (scanNode "evt_1" [])) "evt_1" =
      some (scanNode "evt_1" []) := by decide +kernel
  apply (real_paths_iff (by decide) hgraph).mpr
  refine ⟨.inl ⟨_, .inl ⟨_, List.mem_singleton_self _, hnode⟩, .inl rfl⟩, ?_, ?_⟩
  · intro start hstart child earlier hwalk _ _ parentId hid
    cases hresolve.symm.trans hstart
    obtain ⟨rfl, rfl⟩ := List.cons.inj (walk_of_no_parents rfl hwalk)
    cases hid
  · intro start hstart root hroot
    cases hresolve.symm.trans hstart
    obtain ⟨-, -, k, -, hlinked⟩ := hroot
    rw [linkedIn_of_no_parents rfl hlinked]
    exact ⟨_, [], .target, Nat.zero_le _, rfl, rfl, rfl⟩

/-- Two scans with one cause that is not among the events. -/
def siblingEvents : List Record := [scanEvent "evt_1" "evt_0", scanEvent "evt_2" "evt_0"]

/-- The graph of the two scans. -/
def siblingGraph : Graph :=
  (Dict.empty.set "evt_1" (scanNode "evt_1" ["evt_0"])).set "evt_2" (scanNode "evt_2" ["evt_0"])

/-- The first of two effects of a lost cause is reported as the cause of the second. -/
theorem sibling_reported_as_cause : buildGraph siblingEvents [] = .ok siblingGraph ∧
    ¬ ∃ analysis, analyzeRootCause "evt_2" siblingEvents [] 6 = .ok analysis ∧
      RealPaths siblingEvents [] "evt_2" 6 siblingGraph analysis := by
  have hgraph : buildGraph siblingEvents [] = .ok siblingGraph := by decide +kernel
  refine ⟨hgraph, ?_⟩
  rintro ⟨analysis, hanalysis, hreal⟩
  have hresolve : resolve siblingGraph "evt_2" = some (scanNode "evt_2" ["evt_0"]) := by
    decide +kernel
  have hcause : resolve siblingGraph "evt_0" = some (scanNode "evt_1" ["evt_0"]) := by
    decide +kernel
  have hwalk : Walk siblingGraph (scanNode "evt_2" ["evt_0"])
      [scanNode "evt_1" ["evt_0"], scanNode "evt_2" ["evt_0"]] :=
    .step .target (List.mem_singleton_self _) hcause (by decide +kernel)
  have hended : extend siblingGraph 6
      [scanNode "evt_1" ["evt_0"], scanNode "evt_2" ["evt_0"]] = [] := by decide +kernel
  rw [analyzeRootCause_eq (by decide) hgraph, hresolve] at hanalysis
  cases hanalysis
  have hchain := hreal.linked _ (mem_walkToRoots_iff.mpr ⟨_, hwalk, by decide, hended, rfl⟩)
  obtain ⟨parentId, hid, hname⟩ := (List.isChain_cons_cons.mp hchain).1
  cases List.mem_singleton.mp hid
  rcases hname with heq | ⟨-, event, hevent, -, hcorrelation⟩
  · exact absurd heq (by decide +kernel)
  · have hnone : ∀ event ∈ siblingEvents, correlationId event ≠ "evt_0" := by decide +kernel
    exact hnone event hevent hcorrelation

end ShelfWise.Detective
