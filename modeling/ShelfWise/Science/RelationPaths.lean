import ShelfWise.Science.SupplierRanking
import ShelfWise.Sys.Worklist
import Mathlib.Data.List.Chain

/-!
# Paths between related nodes

`RelationStore.paths` searches the relations breadth first, with partial paths in its queue. It finds the
simple paths to the target with at most so many hops, each of them once and the short ones first
(`paths_exact`).
-/

namespace ShelfWise.Science.Exact

open Py Sys.Worklist

namespace RelationStore

/-- `RelationStore()`. -/
def empty : RelationStore := ⟨Dict.empty⟩

/-- `RelationStore.add`. -/
def add (self : RelationStore) (relation : Relation) : RelationStore :=
  ⟨self.out.set relation.subject ((self.out.get? relation.subject).getD [] ++ [relation])⟩

/-- The nodes with which the loop extends a path, which is never empty. -/
def extensions (self : RelationStore) (maxHops : ℤ) (path : List String) : List String :=
  if (path.length : ℤ) - 1 ≥ maxHops then []
  else match path.getLast? with
    | none => []
    | some node => (self.related node none).filter fun next => next ∉ path

/-- The extensions of a path that end at the target. -/
def foundFrom (self : RelationStore) (target : String) (maxHops : ℤ) (path : List String) :
    List (List String) :=
  ((self.extensions maxHops path).filter (· = target)).map fun next => path ++ [next]

/-- The extensions of a path that are put into the queue. -/
def queuedFrom (self : RelationStore) (target : String) (maxHops : ℤ) (path : List String) :
    List (List String) :=
  ((self.extensions maxHops path).filter (· ≠ target)).map fun next => path ++ [next]

/-! ## The search ends -/

/-- No node has more neighbours than there are relations. -/
def width (self : RelationStore) : ℕ := (self.out.entries.map fun e => e.2.length).sum

/-- A bound for the paths that a path leads to in the hops that are left. -/
def weight (self : RelationStore) (maxHops : ℤ) (path : List String) : ℕ :=
  (self.width + 1) ^ (maxHops - ((path.length : ℤ) - 1)).toNat

theorem length_related_le (self : RelationStore) (node : String) (predicate : Option String) :
    (self.related node predicate).length ≤ self.width := by
  have hkept : (self.related node predicate).length ≤ ((self.out.get? node).getD []).length := by
    unfold related
    rw [(sortedBy_perm id _).length_eq]
    refine (List.dedup_sublist _).length_le.trans ?_
    rw [List.length_map]
    exact List.length_filter_le _ _
  refine hkept.trans ?_
  cases hget : self.out.get? node with
  | none => exact Nat.zero_le _
  | some relations =>
    have hmem : (node, relations) ∈ self.out.entries := (self.out.mem_entries_iff node relations).mpr hget
    exact List.single_le_sum (fun _ _ => Nat.zero_le _) _
      (List.mem_map_of_mem (f := fun e : String × List Relation => e.2.length) hmem)

theorem length_extensions_le (self : RelationStore) (maxHops : ℤ) (path : List String) :
    (self.extensions maxHops path).length ≤ self.width := by
  unfold extensions
  split
  · exact Nat.zero_le _
  · cases path.getLast? with
    | none => exact Nat.zero_le _
    | some node => exact (List.length_filter_le _ _).trans (self.length_related_le node none)

theorem shrinks (self : RelationStore) (target : String) (maxHops : ℤ) :
    Shrinks (self.queuedFrom target maxHops) (self.weight maxHops) := by
  intro path
  by_cases hleft : (path.length : ℤ) - 1 ≥ maxHops
  · have hnone : self.queuedFrom target maxHops path = [] := by
      rw [queuedFrom, extensions, if_pos hleft]
      rfl
    rw [hnone]
    exact Nat.pow_pos (Nat.succ_pos _)
  · obtain ⟨hops, hhops⟩ : ∃ hops : ℕ, maxHops - ((path.length : ℤ) - 1) = hops + 1 :=
      ⟨(maxHops - ((path.length : ℤ) - 1) - 1).toNat, by omega⟩
    have hsum : ((self.queuedFrom target maxHops path).map (self.weight maxHops)).sum =
        ((self.extensions maxHops path).filter (· ≠ target)).length * (self.width + 1) ^ hops := by
      rw [queuedFrom, List.map_map]
      have hconst : ∀ next, (self.weight maxHops ∘ fun next => path ++ [next]) next =
          (self.width + 1) ^ hops := by
        intro next
        rw [Function.comp, weight, List.length_append, List.length_singleton]
        congr 1
        omega
      rw [funext hconst, List.map_const', List.sum_replicate, nsmul_eq_mul, Nat.cast_id]
    have hcount := (List.length_filter_le (· ≠ target) (self.extensions maxHops path)).trans
      (self.length_extensions_le maxHops path)
    rw [hsum, weight, hhops]
    calc _ ≤ self.width * (self.width + 1) ^ hops := Nat.mul_le_mul_right _ hcount
      _ < (self.width + 1) * (self.width + 1) ^ hops :=
        Nat.mul_lt_mul_of_pos_right (Nat.lt_succ_self _) (Nat.pow_pos (Nat.succ_pos _))
      _ = (self.width + 1) ^ ((hops + 1 : ℤ).toNat) := by
        rw [show (hops + 1 : ℤ).toNat = hops + 1 from rfl, pow_succ']

/-- `RelationStore.paths`. -/
def paths (self : RelationStore) (source target : String) (maxHops : ℤ) : List (List String) :=
  collect (self.foundFrom target maxHops) (self.queuedFrom target maxHops) (self.weight maxHops)
    (self.shrinks target maxHops) [[source]]

end RelationStore

/-! ## Simple paths -/

/-- A path without a repeated node that begins at the source and follows a relation at every hop. -/
structure Trail (linked : String → String → Prop) (source : String) (path : List String) : Prop where
  head : path.head? = some source
  nodup : path.Nodup
  chain : path.IsChain linked

section

variable {linked : String → String → Prop} {source : String}

theorem trail_singleton_iff {path : List String} (h : path.length = 1) :
    Trail linked source path ↔ path = [source] := by
  obtain ⟨node, rfl⟩ := List.length_eq_one_iff.mp h
  constructor
  · intro htrail
    rw [Option.some.inj htrail.head]
  · intro heq
    rw [heq]
    exact ⟨rfl, List.nodup_singleton source, .singleton source⟩

/-- A path is extended by a new node that its last node is linked to. -/
theorem trail_concat_iff {path : List String} {node next : String} (h : path.getLast? = some node) :
    Trail linked source (path ++ [next]) ↔
      Trail linked source path ∧ next ∉ path ∧ linked node next := by
  have hne : path ≠ [] := by
    rintro rfl
    cases h
  have hhead : (path ++ [next]).head? = path.head? := List.head?_append_of_ne_nil path hne
  have hlast : (∀ x ∈ path.getLast?, ∀ y ∈ [next].head?, linked x y) ↔ linked node next := by
    rw [h]
    constructor
    · exact fun hlinked => hlinked node rfl next rfl
    · intro hlinked x hx y hy
      rw [← Option.some.inj hx, ← Option.some.inj hy]
      exact hlinked
  constructor
  · rintro ⟨hsource, hnodup, hchain⟩
    obtain ⟨hbefore, -, hdisjoint⟩ := List.nodup_append.mp hnodup
    obtain ⟨hlinks, -, hnext⟩ := List.isChain_append.mp hchain
    exact ⟨⟨hhead ▸ hsource, hbefore, hlinks⟩,
      fun hmem => hdisjoint next hmem next List.mem_cons_self rfl, hlast.mp hnext⟩
  · rintro ⟨⟨hsource, hnodup, hchain⟩, hnew, hlinked⟩
    refine ⟨hhead.trans hsource, List.nodup_append.mpr ⟨hnodup, List.nodup_singleton next, ?_⟩,
      List.isChain_append.mpr ⟨hchain, .singleton next, hlast.mpr hlinked⟩⟩
    intro x hx y hy hxy
    rw [List.mem_singleton.mp hy] at hxy
    exact hnew (hxy ▸ hx)

/-- A path with a hop has a last one. -/
theorem exists_last_hop {path : List String} {k : ℕ} (h : path.length = k + 2) :
    ∃ before node next, path = before ++ [next] ∧ before.getLast? = some node ∧
      before.length = k + 1 := by
  have hne : path ≠ [] := by
    rintro rfl
    cases h
  obtain ⟨before, next, rfl⟩ : ∃ before next, path = before ++ [next] :=
    ⟨path.dropLast, path.getLast hne, (List.dropLast_append_getLast hne).symm⟩
  rw [List.length_append, List.length_singleton] at h
  have hbefore : before ≠ [] := by
    rintro rfl
    cases h
  exact ⟨before, before.getLast hbefore, next, rfl, List.getLast?_eq_some_getLast hbefore, by omega⟩

end

/-- A simple directed path over some relations. -/
structure SimplePath (relations : List Relation) (source target : String) (path : List String) :
    Prop extends
    Trail (fun a b => ∃ relation ∈ relations, relation.subject = a ∧ relation.object = b) source path
    where
  last : path.getLast? = some target

/-! ## The levels of the search -/

section

variable {self : RelationStore} {source target : String} {maxHops : ℤ}

/-- A node has a relation to another one in the store. -/
def RelationStore.Links (self : RelationStore) (node next : String) : Prop :=
  next ∈ self.related node none

theorem mem_extensions_iff {path : List String} {next : String} :
    next ∈ self.extensions maxHops path ↔ (path.length : ℤ) ≤ maxHops ∧
      ∃ node, path.getLast? = some node ∧ self.Links node next ∧ next ∉ path := by
  unfold RelationStore.extensions
  by_cases hhops : (path.length : ℤ) - 1 ≥ maxHops
  · rw [if_pos hhops]
    exact iff_of_false List.not_mem_nil fun h => by omega
  · rw [if_neg hhops]
    cases hlast : path.getLast? with
    | none => exact iff_of_false List.not_mem_nil fun ⟨_, _, h, _⟩ => by cases h
    | some node =>
      rw [List.mem_filter, decide_eq_true_eq]
      constructor
      · exact fun h => ⟨by omega, node, rfl, h⟩
      · rintro ⟨-, _, hnode, h⟩
        rw [Option.some.inj hnode]
        exact h

theorem mem_queuedFrom_iff {path extended : List String} :
    extended ∈ self.queuedFrom target maxHops path ↔
      ∃ next ∈ self.extensions maxHops path, next ≠ target ∧ path ++ [next] = extended := by
  rw [RelationStore.queuedFrom, List.mem_map]
  simp only [List.mem_filter, decide_eq_true_eq, and_assoc]

theorem mem_foundFrom_iff {path extended : List String} :
    extended ∈ self.foundFrom target maxHops path ↔
      target ∈ self.extensions maxHops path ∧ path ++ [target] = extended := by
  rw [RelationStore.foundFrom, List.mem_map]
  simp only [List.mem_filter, decide_eq_true_eq, and_assoc]
  constructor
  · rintro ⟨next, hnext, rfl, h⟩
    exact ⟨hnext, h⟩
  · exact fun ⟨hnext, h⟩ => ⟨target, hnext, rfl, h⟩

/-- The queue after `k` hops holds the simple paths of `k` hops that have not met the target. -/
theorem mem_level_iff (h : source ≠ target) (k : ℕ) {path : List String} :
    path ∈ level (self.queuedFrom target maxHops) [[source]] k ↔
      k ≤ maxHops.toNat ∧ path.length = k + 1 ∧ Trail self.Links source path ∧ target ∉ path := by
  induction k generalizing path with
  | zero =>
    rw [level, List.mem_singleton]
    constructor
    · rintro rfl
      exact ⟨Nat.zero_le _, rfl, (trail_singleton_iff rfl).mpr rfl,
        fun hmem => h (List.mem_singleton.mp hmem).symm⟩
    · rintro ⟨-, hlength, htrail, -⟩
      exact (trail_singleton_iff hlength).mp htrail
  | succ k ih =>
    rw [level, List.mem_flatMap]
    constructor
    · rintro ⟨before, hbefore, hqueued⟩
      obtain ⟨next, hnext, hother, rfl⟩ := mem_queuedFrom_iff.mp hqueued
      obtain ⟨hhops, node, hlast, hlinks, hnew⟩ := mem_extensions_iff.mp hnext
      obtain ⟨-, hlength, htrail, htarget⟩ := ih.mp hbefore
      refine ⟨by omega, by rw [List.length_append, hlength, List.length_singleton],
        (trail_concat_iff hlast).mpr ⟨htrail, hnew, hlinks⟩, fun hmem => ?_⟩
      rcases List.mem_append.mp hmem with hmem | hmem
      · exact htarget hmem
      · exact hother (List.mem_singleton.mp hmem).symm
    · rintro ⟨hk, hlength, htrail, htarget⟩
      obtain ⟨before, node, next, rfl, hlast, hbefore⟩ := exists_last_hop hlength
      obtain ⟨hshorter, hnew, hlinks⟩ := (trail_concat_iff hlast).mp htrail
      have houtside : target ∉ before := fun hmem => htarget (List.mem_append_left _ hmem)
      refine ⟨before, ih.mpr ⟨by omega, hbefore, hshorter, houtside⟩, mem_queuedFrom_iff.mpr
        ⟨next, mem_extensions_iff.mpr ⟨by omega, node, hlast, hlinks, hnew⟩, ?_, rfl⟩⟩
      rintro rfl
      exact htarget (List.mem_append_right _ List.mem_cons_self)

/-- What is found after `k` hops are the simple paths to the target with one more hop. -/
theorem mem_found_iff (h : source ≠ target) (k : ℕ) {path : List String} :
    path ∈ (level (self.queuedFrom target maxHops) [[source]] k).flatMap
        (self.foundFrom target maxHops) ↔
      k + 1 ≤ maxHops.toNat ∧ path.length = k + 2 ∧ Trail self.Links source path ∧
        path.getLast? = some target := by
  rw [List.mem_flatMap]
  constructor
  · rintro ⟨before, hbefore, hfound⟩
    obtain ⟨hnext, rfl⟩ := mem_foundFrom_iff.mp hfound
    obtain ⟨hhops, node, hlast, hlinks, hnew⟩ := mem_extensions_iff.mp hnext
    obtain ⟨-, hlength, htrail, -⟩ := (mem_level_iff h k).mp hbefore
    exact ⟨by omega, by rw [List.length_append, hlength, List.length_singleton],
      (trail_concat_iff hlast).mpr ⟨htrail, hnew, hlinks⟩, List.getLast?_concat⟩
  · rintro ⟨hk, hlength, htrail, htarget⟩
    obtain ⟨before, node, next, rfl, hlast, hbefore⟩ := exists_last_hop hlength
    rw [List.getLast?_concat] at htarget
    obtain rfl := Option.some.inj htarget
    obtain ⟨hshorter, hnew, hlinks⟩ := (trail_concat_iff hlast).mp htrail
    exact ⟨before, (mem_level_iff h k).mpr ⟨by omega, hbefore, hshorter, hnew⟩,
      mem_foundFrom_iff.mpr ⟨mem_extensions_iff.mpr ⟨by omega, node, hlast, hlinks, hnew⟩, rfl⟩⟩

/-- The search is over when the hops are used up. -/
theorem paths_eq_levels (h : source ≠ target) : self.paths source target maxHops =
    (List.range (maxHops.toNat + 1)).flatMap fun k =>
      (level (self.queuedFrom target maxHops) [[source]] k).flatMap
        (self.foundFrom target maxHops) := by
  apply collect_eq_levels
  rw [List.eq_nil_iff_forall_not_mem]
  intro path hpath
  have hk := ((mem_level_iff h _).mp hpath).1
  omega

/-! ## Every path once -/

theorem nodup_extensions (path : List String) : (self.extensions maxHops path).Nodup := by
  unfold RelationStore.extensions
  split
  · exact List.nodup_nil
  · cases path.getLast? with
    | none => exact List.nodup_nil
    | some node => exact (nodup_related self node none).filter _

/-- Extending each of different paths by different nodes makes different paths. -/
theorem nodup_flatMap_extended {paths : List (List String)} (h : paths.Nodup) (keep : String → Bool) :
    (paths.flatMap fun path => ((self.extensions maxHops path).filter keep).map
      fun next => path ++ [next]).Nodup := by
  rw [List.nodup_flatMap]
  constructor
  · intro path _
    exact ((nodup_extensions path).filter keep).map fun a b hab => by
      simpa using hab
  · refine h.imp fun {a b} hab => ?_
    intro path ha hb
    obtain ⟨_, -, rfl⟩ := List.mem_map.mp ha
    obtain ⟨_, -, heq⟩ := List.mem_map.mp hb
    exact hab (List.append_inj_left' heq rfl).symm

theorem nodup_level (k : ℕ) : (level (self.queuedFrom target maxHops) [[source]] k).Nodup := by
  induction k with
  | zero => exact List.nodup_singleton _
  | succ k ih => exact nodup_flatMap_extended ih _

/-- The paths are found level by level, and each level has its own length. -/
theorem nodup_paths (h : source ≠ target) : (self.paths source target maxHops).Nodup := by
  rw [paths_eq_levels h, List.nodup_flatMap]
  constructor
  · exact fun k _ => nodup_flatMap_extended (nodup_level k) _
  · refine List.nodup_range.imp fun {a b} hab => ?_
    intro path ha hb
    have hlength := ((mem_found_iff h a).mp ha).2.1
    have hlength' := ((mem_found_iff h b).mp hb).2.1
    omega

theorem pairwise_length_paths (h : source ≠ target) :
    (self.paths source target maxHops).Pairwise fun a b => a.length ≤ b.length := by
  rw [paths_eq_levels h, List.pairwise_flatMap]
  constructor
  · intro k _
    apply List.pairwise_of_forall_mem_list
    intro a ha b hb
    rw [((mem_found_iff h k).mp ha).2.1, ((mem_found_iff h k).mp hb).2.1]
  · refine List.pairwise_lt_range.imp fun {a b} hab => ?_
    intro path ha path' hb
    rw [((mem_found_iff h a).mp ha).2.1, ((mem_found_iff h b).mp hb).2.1]
    omega

end

/-! ## Stores that relations are added to -/

/-- The relations of a node are those with it as their subject, in the order of their additions. -/
theorem get?_foldl_add (relations : List Relation) (self : RelationStore) (node : String) :
    ((relations.foldl RelationStore.add self).out.get? node).getD [] =
      (self.out.get? node).getD [] ++ relations.filter fun relation => relation.subject = node := by
  induction relations generalizing self with
  | nil => rw [List.foldl_nil, List.filter_nil, List.append_nil]
  | cons relation rest ih =>
    rw [List.foldl_cons, ih, RelationStore.add]
    dsimp only
    by_cases hsubject : relation.subject = node
    · rw [hsubject, Dict.get?_set_self, List.filter_cons_of_pos (by simpa using hsubject),
        Option.getD_some, List.append_assoc, List.singleton_append]
    · rw [Dict.get?_set_ne _ hsubject, List.filter_cons_of_neg (by simpa using hsubject)]

theorem links_foldl_add_iff (relations : List Relation) (node next : String) :
    (relations.foldl RelationStore.add .empty).Links node next ↔
      ∃ relation ∈ relations, relation.subject = node ∧ relation.object = next := by
  unfold RelationStore.Links RelationStore.related
  rw [mem_sortedBy, List.mem_dedup, List.mem_map, get?_foldl_add]
  simp only [RelationStore.empty, Dict.get?_empty, Option.getD_none, List.nil_append, true_or,
    decide_true, List.filter_true, List.mem_filter, decide_eq_true_eq, and_assoc]

/-- However relations have been added, the search finds the simple paths to another node with at most
so many hops, each once and the short ones first. -/
theorem paths_exact (relations : List Relation) {source target : String} (h : source ≠ target)
    (maxHops : ℤ) :
    let found := (relations.foldl RelationStore.add .empty).paths source target maxHops
    found.Nodup ∧ (∀ path, path ∈ found ↔
        SimplePath relations source target path ∧ (path.length : ℤ) - 1 ≤ maxHops) ∧
      found.Pairwise fun a b => a.length ≤ b.length := by
  refine ⟨nodup_paths h, fun path => ?_, pairwise_length_paths h⟩
  have hlinks : (relations.foldl RelationStore.add .empty).Links =
      fun a b => ∃ relation ∈ relations, relation.subject = a ∧ relation.object = b := by
    funext node next
    exact propext (links_foldl_add_iff relations node next)
  rw [paths_eq_levels h, List.mem_flatMap]
  constructor
  · rintro ⟨k, -, hfound⟩
    obtain ⟨hk, hlength, htrail, htarget⟩ := (mem_found_iff h k).mp hfound
    exact ⟨⟨hlinks ▸ htrail, htarget⟩, by omega⟩
  · rintro ⟨⟨htrail, htarget⟩, hhops⟩
    -- a path between two nodes has a hop
    obtain ⟨k, hk⟩ : ∃ k, path.length = k + 2 := by
      match path, htrail.head, htarget with
      | [_], hhead, hlast => exact absurd ((Option.some.inj hhead).symm.trans (Option.some.inj hlast)) h
      | _ :: _ :: rest, _, _ => exact ⟨rest.length, rfl⟩
    exact ⟨k, List.mem_range.mpr (by omega),
      (mem_found_iff h k).mpr ⟨by omega, hk, hlinks ▸ htrail, htarget⟩⟩

/-- Of two ways to a supplier the direct one is found first. -/
theorem paths_exact_two_ways :
    let found := ([⟨"sku", "from", "dc"⟩, ⟨"dc", "from", "farm"⟩, ⟨"sku", "from", "farm"⟩,
      ⟨"farm", "feeds", "sku"⟩].foldl RelationStore.add .empty).paths "sku" "farm" 3
    found.Nodup ∧ (∀ path, path ∈ found ↔
        SimplePath [⟨"sku", "from", "dc"⟩, ⟨"dc", "from", "farm"⟩, ⟨"sku", "from", "farm"⟩,
          ⟨"farm", "feeds", "sku"⟩] "sku" "farm" path ∧ (path.length : ℤ) - 1 ≤ 3) ∧
      found.Pairwise fun a b => a.length ≤ b.length :=
  paths_exact _ (by decide) 3

end ShelfWise.Science.Exact
