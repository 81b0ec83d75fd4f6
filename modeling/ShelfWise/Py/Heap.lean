import ShelfWise.Py.Window
import Mathlib.Order.WithBot

/-!
# Binary heaps in a list

A heap keeps the smallest key at its root: the children of position `p` are `2 * p + 1` and `2 * p + 2`,
and no child comes before its parent (`Ordered`). An element is put in by moving it towards the root
(`heapPush`), and the root is replaced by moving its smaller children up to a leaf and the new element
from there back towards the root (`heapReplace`). Both keep the order and lose no element, and so a heap
of bounded length that takes the elements of a stream holds the largest ones (`KeepsLargest.run`).
-/

namespace Py.Heap

/-- The parent of a position. -/
def parent (pos : ℕ) : ℕ := (pos - 1) / 2

theorem parent_lt {pos : ℕ} (h : 0 < pos) : parent pos < pos := by
  unfold parent
  omega

theorem child_of_parent {i pos : ℕ} (hi : 0 < i) (h : parent i = pos) :
    i = 2 * pos + 1 ∨ i = 2 * pos + 2 := by
  unfold parent at h
  omega

/-! ## Keys in a tree -/

section Keys

variable {β : Type*} [LinearOrder β]

/-- No position comes before its parent. -/
def Ordered (k : ℕ → β) : Prop := ∀ i, 0 < i → k (parent i) ≤ k i

/-- Only the given position may come before its parent, and what is below it does not. -/
structure OrderedBut (k : ℕ → β) (pos : ℕ) : Prop where
  except : ∀ i, 0 < i → i ≠ pos → k (parent i) ≤ k i
  grand : 0 < pos → ∀ i, 0 < i → parent i = pos → k (parent pos) ≤ k i

variable {k : ℕ → β} {pos : ℕ}

theorem Ordered.root_le (h : Ordered k) (i : ℕ) : k 0 ≤ k i := by
  induction i using Nat.strong_induction_on with
  | h i ih =>
    rcases Nat.eq_zero_or_pos i with hzero | hpos
    · rw [hzero]
    · exact (ih (parent i) (parent_lt hpos)).trans (h i hpos)

/-- The order holds when the position does not come before its parent after all. -/
theorem OrderedBut.finish (h : OrderedBut k pos) (hstop : 0 < pos → k (parent pos) ≤ k pos) :
    Ordered k := by
  intro i hi
  by_cases hpos : i = pos
  · rw [hpos]
    exact hstop (hpos ▸ hi)
  · exact h.except i hi hpos

/-- The position is exchanged with its parent. -/
theorem OrderedBut.move (h : OrderedBut k pos) (hpos : 0 < pos) (hlt : k pos < k (parent pos)) :
    OrderedBut (Function.update (Function.update k pos (k (parent pos))) (parent pos) (k pos))
      (parent pos) := by
  have hup : parent pos < pos := parent_lt hpos
  have hother : ∀ i, i ≠ pos → i ≠ parent pos →
      Function.update (Function.update k pos (k (parent pos))) (parent pos) (k pos) i = k i := by
    intro i hi hi'
    rw [Function.update_of_ne hi', Function.update_of_ne hi]
  have hself : Function.update (Function.update k pos (k (parent pos))) (parent pos) (k pos) pos =
      k (parent pos) := by
    rw [Function.update_of_ne (by omega), Function.update_self]
  constructor
  · intro i hi hne
    by_cases hipos : i = pos
    · rw [hipos, hself, Function.update_self]
      exact hlt.le
    · rw [hother i hipos hne]
      by_cases hbelow : parent i = pos
      · -- what was below the position is now below its old parent
        rw [hbelow, hself]
        exact h.grand hpos i hi hbelow
      · by_cases hsibling : parent i = parent pos
        · rw [hsibling, Function.update_self]
          exact hlt.le.trans (hsibling ▸ h.except i hi hipos)
        · rw [hother _ hbelow hsibling]
          exact h.except i hi hipos
  · intro hroot i hi hbelow
    have habove : k (parent (parent pos)) ≤ k (parent pos) :=
      h.except (parent pos) hroot (by omega)
    have hgrand : parent (parent pos) < parent pos := parent_lt hroot
    rw [hother (parent (parent pos)) (by omega) (by omega)]
    by_cases hipos : i = pos
    · rw [hipos, hself]
      exact habove
    · have hne : i ≠ parent pos := by
        have := parent_lt hi
        omega
      rw [hother i hipos hne]
      exact habove.trans (hbelow ▸ h.except i hi hipos)

/-- A child that no other child comes before moves up, whatever stands at the position itself. -/
theorem Ordered.lift {r : β} (h : Ordered (Function.update k pos r)) {child : ℕ}
    (hchild : 0 < child) (hparent : parent child = pos)
    (hleast : ∀ i, 0 < i → parent i = pos → k child ≤ k i) :
    Ordered (Function.update k pos (k child)) := by
  have hdown : ∀ i, 0 < i → parent i = pos → i ≠ pos := by
    intro i hi hbelow
    have := parent_lt hi
    omega
  have hr : r ≤ k child := by
    have hle := h child hchild
    rwa [hparent, Function.update_self, Function.update_of_ne (hdown child hchild hparent)] at hle
  intro i hi
  by_cases hipos : i = pos
  · have hle := h i hi
    have hne : parent i ≠ pos := by
      have := parent_lt hi
      omega
    rw [Function.update_of_ne hne, hipos, Function.update_self] at hle ⊢
    exact hle.trans hr
  · rw [Function.update_of_ne hipos]
    by_cases hbelow : parent i = pos
    · rw [hbelow, Function.update_self]
      exact hleast i hi hbelow
    · have hle := h i hi
      rw [Function.update_of_ne hbelow, Function.update_of_ne hipos] at hle
      rwa [Function.update_of_ne hbelow]

/-- Below the position stands nothing, so that anything may be put there. -/
theorem Ordered.place {r : β} (h : Ordered (Function.update k pos r)) {top : β}
    (hleaf : ∀ i, 0 < i → parent i = pos → k i = top) (htop : ∀ x : β, x ≤ top) (x : β) :
    OrderedBut (Function.update k pos x) pos := by
  have hdown : ∀ i, 0 < i → parent i = pos → i ≠ pos := by
    intro i hi hbelow
    have := parent_lt hi
    omega
  constructor
  · intro i hi hipos
    rw [Function.update_of_ne hipos]
    by_cases hbelow : parent i = pos
    · rw [hleaf i hi hbelow]
      exact htop _
    · have hle := h i hi
      rw [Function.update_of_ne hbelow, Function.update_of_ne hipos] at hle
      rwa [Function.update_of_ne hbelow]
  · intro _ i hi hbelow
    rw [Function.update_of_ne (hdown i hi hbelow), hleaf i hi hbelow]
    exact htop _

end Keys

/-! ## The keys of a list -/

section Positions

variable {α β : Type*}

/-- The key at a position, above all others past the end. -/
def keyAt (key : α → β) (heap : List α) (pos : ℕ) : WithTop β := (heap[pos]?.map key).elim ⊤ (↑)

variable {key : α → β} {heap : List α} {pos : ℕ}

theorem keyAt_of_lt (h : pos < heap.length) : keyAt key heap pos = key heap[pos] := by
  rw [keyAt, List.getElem?_eq_getElem h]
  rfl

theorem keyAt_of_le (h : heap.length ≤ pos) : keyAt key heap pos = ⊤ := by
  rw [keyAt, List.getElem?_eq_none h]
  rfl

theorem keyAt_set (h : pos < heap.length) (a : α) :
    keyAt key (heap.set pos a) = Function.update (keyAt key heap) pos (key a) := by
  funext i
  by_cases hi : i = pos
  · rw [hi, Function.update_self, keyAt, List.getElem?_set_self h]
    rfl
  · rw [Function.update_of_ne hi, keyAt, List.getElem?_set_ne (Ne.symm hi)]
    rfl

end Positions

/-! ## The two sifts -/

variable {α β : Type*} [LinearOrder β]

/-- `_siftdown(heap, 0, pos)`: the new element moves towards the root. -/
def siftDown (key : α → β) (newitem : α) (heap : List α) (pos : ℕ) : List α :=
  if h : 0 < pos ∧ parent pos < heap.length then
    if key newitem < key heap[parent pos] then
      siftDown key newitem (heap.set pos heap[parent pos]) (parent pos)
    else heap.set pos newitem
  else heap.set pos newitem
termination_by pos
decreasing_by exact parent_lt h.1

/-- The position of the smaller child, the right one of equal ones. -/
def smallerChild (key : α → β) (heap : List α) (pos : ℕ) : ℕ :=
  if h : 2 * pos + 2 < heap.length then
    if key heap[2 * pos + 1] < key heap[2 * pos + 2] then 2 * pos + 1 else 2 * pos + 2
  else 2 * pos + 1

theorem smallerChild_cases (key : α → β) (heap : List α) (pos : ℕ) :
    smallerChild key heap pos = 2 * pos + 1 ∨
      smallerChild key heap pos = 2 * pos + 2 ∧ 2 * pos + 2 < heap.length := by
  unfold smallerChild
  by_cases h : 2 * pos + 2 < heap.length
  · rw [dif_pos h]
    by_cases hlt : key heap[2 * pos + 1] < key heap[2 * pos + 2]
    · rw [if_pos hlt]
      exact .inl rfl
    · rw [if_neg hlt]
      exact .inr ⟨rfl, h⟩
  · rw [dif_neg h]
    exact .inl rfl

theorem smallerChild_lt (key : α → β) {heap : List α} {pos : ℕ} (h : 2 * pos + 1 < heap.length) :
    smallerChild key heap pos < heap.length := by
  rcases smallerChild_cases key heap pos with hleft | ⟨hright, hlt⟩
  · omega
  · omega

theorem lt_smallerChild (key : α → β) (heap : List α) (pos : ℕ) : pos < smallerChild key heap pos := by
  rcases smallerChild_cases key heap pos with hleft | ⟨hright, _⟩
  · omega
  · omega

theorem parent_smallerChild (key : α → β) (heap : List α) (pos : ℕ) :
    parent (smallerChild key heap pos) = pos := by
  unfold parent
  rcases smallerChild_cases key heap pos with hleft | ⟨hright, _⟩
  · omega
  · omega

/-- `_siftup(heap, pos)`: the smaller children move up to the place of the new element, which then
moves back from the leaf. -/
def siftUp (key : α → β) (newitem : α) (heap : List α) (pos : ℕ) : List α :=
  if h : 2 * pos + 1 < heap.length then
    have hchild := smallerChild_lt key h
    siftUp key newitem (heap.set pos heap[smallerChild key heap pos]) (smallerChild key heap pos)
  else siftDown key newitem heap pos
termination_by heap.length - pos
decreasing_by
  have := lt_smallerChild key heap pos
  rw [List.length_set]
  omega

/-- `heappush(heap, item)`. -/
def heapPush (key : α → β) (heap : List α) (item : α) : List α :=
  siftDown key item (heap ++ [item]) heap.length

/-- `heapreplace(heap, item)`, without the root that it returns. -/
def heapReplace (key : α → β) (heap : List α) (item : α) : List α :=
  siftUp key item (heap.set 0 item) 0

/-! ## No element is lost -/

section Elements

variable (key : α → β) (newitem : α)

theorem set_set_perm_set {heap : List α} {i j : ℕ} (hi : i < heap.length) (hj : j < heap.length)
    (hne : i ≠ j) : ((heap.set i heap[j]).set j newitem).Perm (heap.set i newitem) := by
  have hperm := @List.set_set_perm _ (heap.set i newitem) i j (by simpa using hi) (by simpa using hj)
  rw [List.getElem_set_self, List.getElem_set_ne hne, List.set_set] at hperm
  exact hperm

theorem siftDown_perm (heap : List α) (pos : ℕ) (hlt : pos < heap.length) :
    (siftDown key newitem heap pos).Perm (heap.set pos newitem) := by
  induction heap, pos using siftDown.induct key newitem with
  | case1 heap pos h hless ih =>
    have hup := parent_lt h.1
    rw [siftDown, dif_pos h, if_pos hless]
    exact (ih (by rw [List.length_set]; exact h.2)).trans
      (set_set_perm_set newitem hlt h.2 (by omega))
  | case2 heap pos h hless =>
    rw [siftDown, dif_pos h, if_neg hless]
  | case3 heap pos h =>
    rw [siftDown, dif_neg h]

theorem siftUp_perm (heap : List α) (pos : ℕ) (hlt : pos < heap.length) :
    (siftUp key newitem heap pos).Perm (heap.set pos newitem) := by
  induction heap, pos using siftUp.induct key with
  | case1 heap pos h hchild ih =>
    have hdown := lt_smallerChild key heap pos
    rw [siftUp, dif_pos h]
    exact (ih (by rw [List.length_set]; exact hchild)).trans
      (set_set_perm_set newitem hlt hchild (by omega))
  | case2 heap pos h =>
    rw [siftUp, dif_neg h]
    exact siftDown_perm key newitem heap pos hlt

theorem heapPush_perm (heap : List α) (item : α) : (heapPush key heap item).Perm (item :: heap) := by
  have hlt : heap.length < (heap ++ [item]).length := by simp
  refine (siftDown_perm key item _ _ hlt).trans ?_
  rw [List.set_append_right _ _ (Nat.le_refl _), Nat.sub_self, List.set_cons_zero]
  exact List.perm_append_singleton item heap

theorem heapReplace_perm (root : α) (rest : List α) (item : α) :
    (heapReplace key (root :: rest) item).Perm (item :: rest) := by
  have hperm := siftUp_perm key item ((root :: rest).set 0 item) 0 (by simp)
  rwa [List.set_set, List.set_cons_zero] at hperm

end Elements

/-! ## The order is kept -/

section Order

variable (key : α → β) (newitem : α)

/-- The root of a heap has the smallest key. -/
theorem key_root_le {root : α} {rest : List α} (h : Ordered (keyAt key (root :: rest))) {a : α}
    (ha : a ∈ root :: rest) : key root ≤ key a := by
  obtain ⟨i, hi, hget⟩ := List.getElem_of_mem ha
  have hle := h.root_le i
  rw [keyAt_of_lt hi, hget, keyAt_of_lt (Nat.succ_pos _)] at hle
  exact WithTop.coe_le_coe.mp hle

theorem siftDown_ordered (heap : List α) (pos : ℕ) (hlt : pos < heap.length)
    (h : OrderedBut (keyAt key (heap.set pos newitem)) pos) :
    Ordered (keyAt key (siftDown key newitem heap pos)) := by
  induction heap, pos using siftDown.induct key newitem with
  | case1 heap pos hup hless ih =>
    have hpar := parent_lt hup.1
    rw [siftDown, dif_pos hup, if_pos hless]
    have hlen : parent pos < (heap.set pos heap[parent pos]).length := by
      rw [List.length_set]
      exact hup.2
    apply ih hlen
    have hself : keyAt key (heap.set pos newitem) pos = key newitem := by
      rw [keyAt_set hlt, Function.update_self]
    have habove : keyAt key (heap.set pos newitem) (parent pos) = key heap[parent pos] := by
      rw [keyAt_set hlt, Function.update_of_ne (by omega), keyAt_of_lt hup.2]
    have hmove := h.move hup.1 (by rw [hself, habove]; exact WithTop.coe_lt_coe.mpr hless)
    rw [hself, habove, keyAt_set hlt, Function.update_idem] at hmove
    rw [keyAt_set hlen, keyAt_set hlt]
    exact hmove
  | case2 heap pos hup hless =>
    rw [siftDown, dif_pos hup, if_neg hless]
    apply h.finish
    intro hpos
    have hpar := parent_lt hpos
    rw [keyAt_set hlt, Function.update_self, Function.update_of_ne (by omega), keyAt_of_lt hup.2]
    exact WithTop.coe_le_coe.mpr (not_lt.mp hless)
  | case3 heap pos hup =>
    rw [siftDown, dif_neg hup]
    apply h.finish
    intro hpos
    have hpar := parent_lt hpos
    exact absurd ⟨hpos, by omega⟩ hup

/-- No child comes before the smaller one. -/
theorem smallerChild_le {heap : List α} {pos : ℕ} (h : 2 * pos + 1 < heap.length) {i : ℕ} (hi : 0 < i)
    (hbelow : parent i = pos) :
    keyAt key heap (smallerChild key heap pos) ≤ keyAt key heap i := by
  unfold smallerChild
  by_cases hright : 2 * pos + 2 < heap.length
  · rw [dif_pos hright]
    by_cases hlt : key heap[2 * pos + 1] < key heap[2 * pos + 2]
    · rw [if_pos hlt]
      rcases child_of_parent hi hbelow with hleft | hother
      · rw [hleft]
      · rw [hother, keyAt_of_lt h, keyAt_of_lt hright]
        exact WithTop.coe_le_coe.mpr hlt.le
    · rw [if_neg hlt]
      rcases child_of_parent hi hbelow with hleft | hother
      · rw [hleft, keyAt_of_lt h, keyAt_of_lt hright]
        exact WithTop.coe_le_coe.mpr (not_lt.mp hlt)
      · rw [hother]
  · rw [dif_neg hright]
    rcases child_of_parent hi hbelow with hleft | hother
    · rw [hleft]
    · rw [hother, keyAt_of_le (not_lt.mp hright)]
      exact le_top

theorem siftUp_ordered (heap : List α) (pos : ℕ) (hlt : pos < heap.length) {r : WithTop β}
    (h : Ordered (Function.update (keyAt key heap) pos r)) :
    Ordered (keyAt key (siftUp key newitem heap pos)) := by
  induction heap, pos using siftUp.induct key generalizing r with
  | case1 heap pos hdown hchild ih =>
    have hlt' := lt_smallerChild key heap pos
    rw [siftUp, dif_pos hdown]
    have hlift := h.lift (Nat.zero_lt_of_lt hlt') (parent_smallerChild key heap pos)
      fun i hi hbelow => smallerChild_le key hdown hi hbelow
    rw [keyAt_of_lt hchild, ← keyAt_set hlt] at hlift
    apply ih (by rw [List.length_set]; exact hchild)
    -- what moved up may stay at its old place as well
    rw [Function.update_eq_self]
    exact hlift
  | case2 heap pos hdown =>
    rw [siftUp, dif_neg hdown]
    apply siftDown_ordered key newitem heap pos hlt
    rw [keyAt_set hlt]
    apply h.place _ (fun _ => le_top)
    intro i hi hbelow
    rcases child_of_parent hi hbelow with hleft | hright
    · exact keyAt_of_le (by omega)
    · exact keyAt_of_le (by omega)

theorem heapPush_ordered {heap : List α} (h : Ordered (keyAt key heap)) (item : α) :
    Ordered (keyAt key (heapPush key heap item)) := by
  have hlt : heap.length < (heap ++ [item]).length := by simp
  apply siftDown_ordered key item _ _ hlt
  have hset : (heap ++ [item]).set heap.length item = heap ++ [item] := by
    rw [List.set_append_right _ _ (Nat.le_refl _), Nat.sub_self, List.set_cons_zero]
  have hbefore : ∀ i, i < heap.length → keyAt key (heap ++ [item]) i = keyAt key heap i := by
    intro i hi
    rw [keyAt, keyAt, List.getElem?_append_left hi]
  have hpast : ∀ i, heap.length < i → keyAt key (heap ++ [item]) i = ⊤ := by
    intro i hi
    apply keyAt_of_le
    simp only [List.length_append, List.length_singleton]
    omega
  rw [hset]
  constructor
  · intro i hi hne
    rcases lt_or_gt_of_ne hne with hin | hout
    · have hup := parent_lt hi
      rw [hbefore i hin, hbefore (parent i) (by omega)]
      exact h i hi
    · rw [hpast i hout]
      exact le_top
  · intro _ i hi hbelow
    have hup := parent_lt hi
    rw [hpast i (by omega)]
    exact le_top

theorem heapReplace_ordered {root : α} {rest : List α} (h : Ordered (keyAt key (root :: rest)))
    (item : α) : Ordered (keyAt key (heapReplace key (root :: rest) item)) := by
  apply siftUp_ordered key item _ 0 (by simp) (r := keyAt key (root :: rest) 0)
  rw [keyAt_set (Nat.succ_pos _), Function.update_idem, Function.update_eq_self]
  exact h

end Order

/-! ## The largest elements of a stream -/

section Descending

variable {key : α → β}

/-- `sorted(xs, key=key, reverse=True)`, where equal keys keep their order as well. -/
def sortedDescending (key : α → β) (xs : List α) : List α :=
  sortedBy (fun a => OrderDual.toDual (key a)) xs

theorem mem_sortedDescending {xs : List α} {a : α} : a ∈ sortedDescending key xs ↔ a ∈ xs :=
  mem_sortedBy

theorem pairwise_sortedDescending (xs : List α) :
    (sortedDescending key xs).Pairwise fun a b => key b ≤ key a :=
  pairwise_sortedBy (fun a => OrderDual.toDual (key a)) xs

theorem sortedDescending_eq_of_perm {xs ys : List α} (hp : xs.Perm ys)
    (hinj : ∀ a ∈ xs, ∀ b ∈ xs, key a = key b → a = b) :
    sortedDescending key xs = sortedDescending key ys := by
  apply sortedBy_eq_of_perm hp
  intro a ha b hb heq
  exact hinj a ha b hb (OrderDual.toDual_inj.mp heq)

theorem sortedDescending_of_pairwise {xs : List α} (h : xs.Pairwise fun a b => key b ≤ key a) :
    sortedDescending key xs = xs :=
  List.Pairwise.insertionSort_eq h

/-- The first elements with one more to sort. -/
theorem take_sortedDescending_cons (item : α) (xs : List α) (n : ℕ) :
    ((sortedDescending key (item :: xs)).take (n + 1)).Perm
      (if ((sortedDescending key xs).take (n + 1)).countP (fun y => key item < key y) ≤ n then
        item :: (sortedDescending key xs).take n else (sortedDescending key xs).take (n + 1)) :=
  take_sortedBy_cons (fun a => OrderDual.toDual (key a)) item xs n

end Descending

section Largest

variable (key : α → β) (limit : ℕ)

/-- One more element of a stream: it is put into a heap that is not full, and takes the place of the
root of a full one when it has a larger key. -/
def keepLargest (heap : List α) (item : α) : List α :=
  if heap.length < limit then heapPush key heap item
  else if heap.head?.any fun root => key root < key item then heapReplace key heap item
  else heap

/-- The heap holds the largest elements that were seen. -/
structure KeepsLargest (seen heap : List α) : Prop where
  ordered : Ordered (keyAt key heap)
  largest : heap.Perm ((sortedDescending key seen).take limit)

variable {key limit} {seen : List α}

theorem KeepsLargest.nil : KeepsLargest key limit [] [] where
  ordered := fun _ _ => le_top
  largest := by
    rw [sortedDescending_of_pairwise List.Pairwise.nil, List.take_nil]

theorem KeepsLargest.mem_seen {heap : List α} (h : KeepsLargest key limit seen heap) {a : α}
    (ha : a ∈ heap) : a ∈ seen :=
  mem_sortedDescending.mp (List.mem_of_mem_take (h.largest.mem_iff.mp ha))

/-- What stands in the last place of the heap, when it is sorted, has the key of the root. -/
theorem KeepsLargest.key_last {root : α} {rest init : List α} {last : α}
    (h : KeepsLargest key limit seen (root :: rest))
    (htake : (sortedDescending key seen).take limit = init ++ [last]) : key root = key last := by
  have hperm := h.largest
  rw [htake] at hperm
  have hsorted := (@pairwise_sortedDescending _ _ _ key seen).sublist (List.take_sublist limit _)
  rw [htake, List.pairwise_append] at hsorted
  apply le_antisymm
  · exact key_root_le key h.ordered (hperm.mem_iff.mpr (by simp))
  · rcases List.mem_append.mp (hperm.mem_iff.mp List.mem_cons_self) with hin | hin
    · exact hsorted.2.2 root hin last (by simp)
    · rw [List.mem_singleton.mp hin]

/-- A heap that is full is its root and the first elements but the last one. -/
theorem KeepsLargest.rest_perm {n : ℕ} {root : α} {rest : List α}
    (h : KeepsLargest key (n + 1) seen (root :: rest)) (hfull : n ≤ rest.length)
    (hinj : ∀ a ∈ seen, ∀ b ∈ seen, key a = key b → a = b) :
    (sortedDescending key seen).take (n + 1) = (sortedDescending key seen).take n ++ [root] ∧
      rest.Perm ((sortedDescending key seen).take n) := by
  have hlen := h.largest.length_eq
  rw [List.length_cons, List.length_take] at hlen
  have hlt : n < (sortedDescending key seen).length := by omega
  have htake := List.take_append_getElem hlt
  have hlast : root = (sortedDescending key seen)[n] := by
    apply hinj root (h.mem_seen List.mem_cons_self) _ _ (h.key_last htake.symm)
    exact mem_sortedDescending.mp (List.getElem_mem hlt)
  rw [← hlast] at htake
  refine ⟨htake.symm, ?_⟩
  have hperm := h.largest
  rw [← htake] at hperm
  exact (hperm.trans (List.perm_append_singleton _ _)).cons_inv

/-- One more element, with a key of its own. -/
theorem KeepsLargest.step {heap : List α} (h : KeepsLargest key limit seen heap)
    (hlimit : 0 < limit) (hinj : ∀ a ∈ seen, ∀ b ∈ seen, key a = key b → a = b) {item : α}
    (hnew : ∀ a ∈ seen, key a ≠ key item) :
    KeepsLargest key limit (item :: seen) (keepLargest key limit heap item) := by
  obtain ⟨n, rfl⟩ : ∃ n, limit = n + 1 := ⟨limit - 1, by omega⟩
  have htake := @take_sortedDescending_cons _ _ _ key item seen n
  have hlen := h.largest.length_eq
  rw [List.length_take] at hlen
  unfold keepLargest
  by_cases hroom : heap.length < n + 1
  · -- the heap holds all that was seen
    rw [if_pos hroom]
    refine ⟨heapPush_ordered key h.ordered item, (heapPush_perm key heap item).trans ?_⟩
    have hcount : ((sortedDescending key seen).take (n + 1)).countP (fun y => key item < key y) ≤
        ((sortedDescending key seen).take (n + 1)).length := List.countP_le_length
    rw [List.length_take] at hcount
    rw [if_pos (by omega)] at htake
    have hall : (sortedDescending key seen).length ≤ n := by omega
    have hperm := h.largest
    rw [List.take_of_length_le (by omega), ← List.take_of_length_le hall] at hperm
    exact (hperm.cons item).trans htake.symm
  · rw [if_neg hroom]
    cases heap with
    | nil => exact absurd (Nat.succ_pos n) hroom
    | cons root rest =>
      obtain ⟨hlast, hrest⟩ := h.rest_perm (by simpa using hroom) hinj
      rw [List.head?_cons, Option.any_some]
      by_cases hless : key root < key item
      · -- the root leaves
        rw [if_pos (decide_eq_true hless)]
        refine ⟨heapReplace_ordered key h.ordered item,
          (heapReplace_perm key root rest item).trans ?_⟩
        have hcount :
            ((sortedDescending key seen).take (n + 1)).countP (fun y => key item < key y) ≤ n := by
          rw [hlast, List.countP_append, List.countP_singleton, if_neg (by simpa using hless.le),
            Nat.add_zero]
          exact List.countP_le_length.trans (List.length_take_le n _)
        rw [if_pos hcount] at htake
        exact (hrest.cons item).trans htake.symm
      · -- all that the heap holds comes before the element
        rw [if_neg (by simpa using hless)]
        refine ⟨h.ordered, h.largest.trans ?_⟩
        have hlt : key item < key root :=
          lt_of_le_of_ne (not_lt.mp hless) (Ne.symm (hnew root (h.mem_seen List.mem_cons_self)))
        have hcount :
            ((sortedDescending key seen).take (n + 1)).countP (fun y => key item < key y) = n + 1 := by
          rw [List.countP_eq_length.mpr, List.length_take]
          · omega
          · intro y hy
            have hle := key_root_le key h.ordered (h.largest.mem_iff.mpr hy)
            exact decide_eq_true (hlt.trans_le hle)
        rw [if_neg (by omega)] at htake
        exact htake.symm

/-- The whole stream. -/
theorem KeepsLargest.run (hlimit : 0 < limit) {heap : List α} (h : KeepsLargest key limit seen heap)
    {items : List α} (hnodup : ((items.reverse ++ seen).map key).Nodup) :
    KeepsLargest key limit (items.reverse ++ seen) (items.foldl (keepLargest key limit) heap) := by
  induction items generalizing seen heap with
  | nil => exact h
  | cons item items ih =>
    have hshift : (item :: items).reverse ++ seen = items.reverse ++ item :: seen := by simp
    rw [hshift] at hnodup ⊢
    have hfirst : ((item :: seen).map key).Nodup :=
      hnodup.sublist ((List.sublist_append_right _ _).map key)
    rw [List.map_cons, List.nodup_cons] at hfirst
    apply ih _ hnodup
    apply h.step hlimit (fun a ha b hb => List.inj_on_of_nodup_map hfirst.2 ha hb)
    intro a ha heq
    exact hfirst.1 (heq ▸ List.mem_map_of_mem ha)

/-- The heap that a whole stream leaves, sorted, is the beginning of the sorted stream. -/
theorem sortedDescending_keepLargest (hlimit : 0 < limit) {items : List α}
    (hnodup : (items.map key).Nodup) :
    sortedDescending key (items.foldl (keepLargest key limit) []) =
      (sortedDescending key items).take limit := by
  have hinj : ∀ a ∈ items, ∀ b ∈ items, key a = key b → a = b :=
    fun a ha b hb => List.inj_on_of_nodup_map hnodup ha hb
  have hback : ((items.reverse ++ []).map key).Nodup := by
    rw [List.append_nil, List.map_reverse, List.nodup_reverse]
    exact hnodup
  have hrun := KeepsLargest.nil.run hlimit hback
  rw [List.append_nil] at hrun
  have hperm := hrun.largest
  rw [sortedDescending_eq_of_perm items.reverse_perm fun a ha b hb =>
    hinj a (List.mem_reverse.mp ha) b (List.mem_reverse.mp hb)] at hperm
  have hmem : ∀ a ∈ items.foldl (keepLargest key limit) [], a ∈ items :=
    fun a ha => List.mem_reverse.mp (hrun.mem_seen ha)
  rw [sortedDescending_eq_of_perm hperm fun a ha b hb => hinj a (hmem a ha) b (hmem b hb)]
  exact sortedDescending_of_pairwise
    ((pairwise_sortedDescending items).sublist (List.take_sublist _ _))

end Largest

end Py.Heap
