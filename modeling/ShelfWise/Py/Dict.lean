import Mathlib.Algebra.BigOperators.Group.List.Basic
import Mathlib.Data.List.Nodup
import Mathlib.Tactic.Abel
import Mathlib.Data.List.Perm.Subperm

/-!
# Insertion-ordered dictionaries

`Dict κ ν` is the dictionary of a language whose maps keep insertion order: storing under a key
that is present replaces the value where it stands, storing under a fresh key appends. The
uniqueness of the keys is a field, so a lookup and a membership statement carry the same
information (`mem_entries_iff`).

The rules a client needs are the lookup after a store (`get?_set`, `get?_setdefault`), what a
store does to the list of entries (`mem_set_entries`), and what it does to a sum over the
entries (`sum_set`).
-/

namespace Py

/-- A finite map that remembers the order in which its keys first appeared. -/
structure Dict (κ : Type*) (ν : Type*) where
  entries : List (κ × ν)
  nodupKeys : (entries.map Prod.fst).Nodup

namespace Dict

variable {κ ν : Type*}

instance [DecidableEq κ] [DecidableEq ν] : DecidableEq (Dict κ ν) := fun a b =>
  decidable_of_iff (a.entries = b.entries)
    ⟨fun h => by cases a; cases b; cases h; rfl, fun h => h ▸ rfl⟩

theorem ext_entries {a b : Dict κ ν} (h : a.entries = b.entries) : a = b := by
  cases a; cases b; cases h; rfl

/-- The dictionary without entries. -/
def empty : Dict κ ν := ⟨[], List.nodup_nil⟩

instance : Inhabited (Dict κ ν) := ⟨empty⟩

/-- The values, in insertion order. -/
def values (d : Dict κ ν) : List ν := d.entries.map Prod.snd

/-- The keys, in insertion order. -/
def keys (d : Dict κ ν) : List κ := d.entries.map Prod.fst

variable [DecidableEq κ]

/-- Lookup in a list of entries: the first entry with the key. -/
def lookup (k : κ) : List (κ × ν) → Option ν
  | [] => none
  | (k', v) :: rest => if k' = k then some v else lookup k rest

/-- `d.get(k)`. -/
def get? (d : Dict κ ν) (k : κ) : Option ν := lookup k d.entries

/-- `k in d`. -/
def contains (d : Dict κ ν) (k : κ) : Bool := (d.get? k).isSome

/-- Store in a list of entries: in place when the key is there, else at the end. -/
def setEntries (k : κ) (v : ν) : List (κ × ν) → List (κ × ν)
  | [] => [(k, v)]
  | (k', v') :: rest => if k' = k then (k, v) :: rest else (k', v') :: setEntries k v rest

theorem map_fst_setEntries (k : κ) (v : ν) (es : List (κ × ν)) :
    (setEntries k v es).map Prod.fst
      = if k ∈ es.map Prod.fst then es.map Prod.fst else es.map Prod.fst ++ [k] := by
  induction es with
  | nil => rfl
  | cons e rest ih =>
    obtain ⟨k', v'⟩ := e
    by_cases h : k' = k
    · subst h
      simp [setEntries]
    · have h' : k ≠ k' := fun he => h he.symm
      simp only [setEntries, h, if_false, List.map_cons, ih, List.mem_cons, h', false_or]
      split <;> rfl

variable {k : κ} {v : ν} {es : List (κ × ν)}

theorem nodup_setEntries (h : (es.map Prod.fst).Nodup) :
    ((setEntries k v es).map Prod.fst).Nodup := by
  rw [map_fst_setEntries]
  split
  · exact h
  · rename_i hk
    exact List.nodup_append.mpr ⟨h, List.nodup_singleton k, by
      intro a ha b hb
      rw [List.mem_singleton] at hb
      subst hb
      exact fun hab => hk (hab ▸ ha)⟩

/-- `d[k] = v`. -/
def set (d : Dict κ ν) (k : κ) (v : ν) : Dict κ ν :=
  ⟨setEntries k v d.entries, nodup_setEntries d.nodupKeys⟩

/-- The dictionary after `d.setdefault(k, v)`: a present key keeps its value. -/
def setdefault (d : Dict κ ν) (k : κ) (v : ν) : Dict κ ν :=
  if d.contains k then d else d.set k v

/-! ## Lookup -/

@[simp] theorem get?_empty (k : κ) : (empty : Dict κ ν).get? k = none := rfl

theorem lookup_setEntries (k k' : κ) (v : ν) (es : List (κ × ν)) :
    lookup k' (setEntries k v es) = if k = k' then some v else lookup k' es := by
  induction es with
  | nil => rfl
  | cons e rest ih =>
    obtain ⟨a, b⟩ := e
    by_cases ha : a = k
    · subst ha
      by_cases hk : a = k' <;> simp [setEntries, lookup, hk]
    · by_cases hk : a = k'
      · subst hk
        have hka : k ≠ a := fun he => ha he.symm
        simp [setEntries, lookup, ha, hka]
      · simp only [setEntries, ha, if_false, lookup, hk, ih]

theorem get?_set (d : Dict κ ν) (k k' : κ) (v : ν) :
    (d.set k v).get? k' = if k = k' then some v else d.get? k' :=
  lookup_setEntries k k' v d.entries

@[simp] theorem get?_set_self (d : Dict κ ν) (k : κ) (v : ν) : (d.set k v).get? k = some v := by
  rw [get?_set, if_pos rfl]

theorem get?_set_ne (d : Dict κ ν) {k k' : κ} (h : k ≠ k') (v : ν) :
    (d.set k v).get? k' = d.get? k' := by
  rw [get?_set, if_neg h]

theorem contains_iff (d : Dict κ ν) (k : κ) : d.contains k = true ↔ ∃ v, d.get? k = some v := by
  rw [contains, Option.isSome_iff_exists]

theorem contains_eq_false_iff (d : Dict κ ν) (k : κ) :
    d.contains k = false ↔ d.get? k = none := by
  rw [contains, Option.isSome_eq_false_iff, Option.isNone_iff_eq_none]

/-- A present key keeps its value under `setdefault`; a fresh one takes the default. -/
theorem get?_setdefault (d : Dict κ ν) (k k' : κ) (v : ν) :
    (d.setdefault k v).get? k'
      = if k = k' then some ((d.get? k).getD v) else d.get? k' := by
  unfold setdefault
  by_cases hc : d.contains k
  · obtain ⟨w, hw⟩ := (d.contains_iff k).mp hc
    rw [if_pos hc]
    by_cases hk : k = k'
    · subst hk
      rw [if_pos rfl, hw, Option.getD_some]
    · rw [if_neg hk]
  · rw [if_neg hc, get?_set]
    have hn := (d.contains_eq_false_iff k).mp (by simpa using hc)
    rw [hn, Option.getD_none]

theorem setEntries_setEntries (k : κ) (v : ν) (es : List (κ × ν)) :
    setEntries k v (setEntries k v es) = setEntries k v es := by
  induction es with
  | nil => simp [setEntries]
  | cons e rest ih =>
    obtain ⟨a, b⟩ := e
    by_cases ha : a = k
    · simp [setEntries, ha]
    · simp [setEntries, ha, ih]

/-- Storing the same again changes nothing. -/
theorem set_set (d : Dict κ ν) (k : κ) (v : ν) : (d.set k v).set k v = d.set k v :=
  ext_entries (setEntries_setEntries k v d.entries)

variable {d : Dict κ ν}

theorem setdefault_of_contains (h : d.contains k = true) (v : ν) : d.setdefault k v = d := by
  unfold setdefault
  rw [if_pos h]

theorem contains_setdefault_self (d : Dict κ ν) (k : κ) (v : ν) :
    (d.setdefault k v).contains k = true := by
  rw [contains_iff]
  exact ⟨_, (get?_setdefault d k k v).trans (if_pos rfl)⟩

theorem contains_setdefault (h : d.contains k = true) (k' : κ) (v : ν) :
    (d.setdefault k' v).contains k = true := by
  obtain ⟨w, hw⟩ := (d.contains_iff k).mp h
  rw [contains_iff, get?_setdefault]
  split
  · exact ⟨_, rfl⟩
  · exact ⟨w, hw⟩

/-! ## Removal -/

/-- The dictionary after `d.pop(k, None)`. -/
def pop (d : Dict κ ν) (k : κ) : Dict κ ν :=
  ⟨d.entries.filter fun e => e.1 ≠ k, d.nodupKeys.sublist (List.filter_sublist.map Prod.fst)⟩

theorem get?_pop_ne (d : Dict κ ν) {k k' : κ} (h : k ≠ k') : (d.pop k).get? k' = d.get? k' := by
  change lookup k' (d.entries.filter fun e => e.1 ≠ k) = lookup k' d.entries
  induction d.entries with
  | nil => rfl
  | cons e rest ih =>
    obtain ⟨a, b⟩ := e
    by_cases ha : a = k
    · have hne : a ≠ k' := ha ▸ h
      rw [List.filter_cons_of_neg (by simp [ha]), ih, lookup, if_neg hne]
    · rw [List.filter_cons_of_pos (by simp [ha]), lookup, lookup, ih]

/-! ## Comprehensions -/

/-- `{k: v for k, v in items}`. -/
def ofItems (items : List (κ × ν)) : Dict κ ν :=
  items.foldl (fun acc kv => acc.set kv.1 kv.2) empty

/-- Of the items with one key the last one stays. -/
theorem get?_ofItems (items : List (κ × ν)) (k : κ) :
    (ofItems items).get? k = (items.filter fun kv => kv.1 = k).getLast?.map Prod.snd := by
  have hfold (d : Dict κ ν) : (items.foldl (fun acc kv => acc.set kv.1 kv.2) d).get? k =
      ((items.filter fun kv => kv.1 = k).getLast?.map Prod.snd).or (d.get? k) := by
    induction items generalizing d with
    | nil => rfl
    | cons kv items ih =>
      rw [List.foldl_cons, ih, get?_set]
      by_cases hk : kv.1 = k
      · -- the item decides, unless a later one has its key
        rw [if_pos hk, List.filter_cons_of_pos (by simpa using hk), List.getLast?_cons]
        cases (items.filter fun kv => kv.1 = k).getLast? <;> rfl
      · rw [if_neg hk, List.filter_cons_of_neg (by simpa using hk)]
  rw [ofItems, hfold, get?_empty, Option.or_none]

/-- Of the defaults for one key the first one stays. -/
theorem get?_foldl_setdefault (items : List (κ × ν)) (d : Dict κ ν) (k : κ) :
    (items.foldl (fun acc kv => acc.setdefault kv.1 kv.2) d).get? k =
      (d.get? k).or ((items.find? fun kv => kv.1 = k).map Prod.snd) := by
  induction items generalizing d with
  | nil => rw [List.foldl_nil, List.find?_nil, Option.map_none, Option.or_none]
  | cons kv items ih =>
    rw [List.foldl_cons, ih, get?_setdefault]
    by_cases hk : kv.1 = k
    · rw [if_pos hk, List.find?_cons_of_pos (by simpa using hk), hk]
      cases d.get? k <;> rfl
    · rw [if_neg hk, List.find?_cons_of_neg (by simpa using hk)]

/-! ## Values that know their key -/

/-- Every value stands under the key it computes to. -/
def KeyedBy (f : ν → κ) (d : Dict κ ν) : Prop := ∀ k v, d.get? k = some v → k = f v

theorem keyedBy_empty (f : ν → κ) : KeyedBy f (empty : Dict κ ν) := fun _ _ h => nomatch h

theorem keyedBy_set {f : ν → κ} (h : KeyedBy f d) (v : ν) : KeyedBy f (d.set (f v) v) := by
  intro k w hget
  rw [get?_set] at hget
  split at hget
  · cases hget
    symm
    assumption
  · exact h k w hget

theorem keyedBy_setdefault {f : ν → κ} (h : KeyedBy f d) (v : ν) :
    KeyedBy f (d.setdefault (f v) v) := by
  unfold setdefault
  split
  · exact h
  · exact keyedBy_set h v

/-! ## Entries -/

theorem mem_of_lookup (h : lookup k es = some v) : (k, v) ∈ es := by
  induction es with
  | nil => cases h
  | cons e rest ih =>
    obtain ⟨a, b⟩ := e
    by_cases ha : a = k
    · subst ha
      rw [lookup, if_pos rfl, Option.some.injEq] at h
      exact h ▸ List.mem_cons_self
    · rw [lookup, if_neg ha] at h
      exact List.mem_cons_of_mem _ (ih h)

theorem lookup_of_mem (hn : (es.map Prod.fst).Nodup) (h : (k, v) ∈ es) : lookup k es = some v := by
  induction es with
  | nil => cases h
  | cons e rest ih =>
    obtain ⟨a, b⟩ := e
    rw [List.map_cons, List.nodup_cons] at hn
    rcases List.mem_cons.mp h with he | hr
    · cases he
      rw [lookup, if_pos rfl]
    · have hne : a ≠ k := fun he => hn.1 (he ▸ List.mem_map.mpr ⟨(k, v), hr, rfl⟩)
      rw [lookup, if_neg hne]
      exact ih hn.2 hr

/-- Because keys are unique, membership of an entry is a successful lookup. -/
theorem mem_entries_iff (d : Dict κ ν) (k : κ) (v : ν) :
    (k, v) ∈ d.entries ↔ d.get? k = some v :=
  ⟨lookup_of_mem d.nodupKeys, mem_of_lookup⟩

theorem mem_values_iff (d : Dict κ ν) (v : ν) : v ∈ d.values ↔ ∃ k, d.get? k = some v := by
  simp only [values, List.mem_map, Prod.exists, exists_eq_right, mem_entries_iff]

/-- The entries after a store: the new one, and every old one under another key. -/
theorem mem_set_entries (d : Dict κ ν) (k : κ) (v : ν) (e : κ × ν) :
    e ∈ (d.set k v).entries ↔ e = (k, v) ∨ (e ∈ d.entries ∧ e.1 ≠ k) := by
  obtain ⟨a, b⟩ := e
  rw [mem_entries_iff, mem_entries_iff, get?_set]
  by_cases h : k = a
  · subst h
    simp [eq_comm]
  · have h' : a ≠ k := fun he => h he.symm
    simp [h, h']

/-- A key that stands nowhere is not found. -/
theorem lookup_of_notMem (h : k ∉ es.map Prod.fst) : lookup k es = none := by
  induction es with
  | nil => rfl
  | cons e es ih =>
    rw [List.map_cons, List.mem_cons, not_or] at h
    rw [lookup, if_neg (Ne.symm h.1), ih h.2]

theorem setEntries_of_lookup_none (h : lookup k es = none) (v : ν) :
    setEntries k v es = es ++ [(k, v)] := by
  induction es with
  | nil => rfl
  | cons e rest ih =>
    obtain ⟨a, b⟩ := e
    by_cases ha : a = k
    · rw [lookup, if_pos ha] at h
      cases h
    · rw [lookup, if_neg ha] at h
      rw [setEntries, if_neg ha, ih h, List.cons_append]

/-- A fresh key goes to the end. -/
theorem entries_set_of_fresh (h : d.get? k = none) (v : ν) :
    (d.set k v).entries = d.entries ++ [(k, v)] :=
  setEntries_of_lookup_none h v

/-! ## Sums over the entries -/

section Sums

variable {M : Type*} [AddCommGroup M]

/-- What the entry under `k` contributes to a sum: nothing when there is none. -/
def weightAt (d : Dict κ ν) (w : κ × ν → M) (k : κ) : M := ((d.get? k).map fun v => w (k, v)).getD 0

theorem sum_setEntries (w : κ × ν → M) (k : κ) (v : ν) (es : List (κ × ν)) :
    ((setEntries k v es).map w).sum
      = (es.map w).sum - ((lookup k es).map fun v => w (k, v)).getD 0 + w (k, v) := by
  induction es with
  | nil => simp [setEntries, lookup]
  | cons e rest ih =>
    obtain ⟨a, b⟩ := e
    by_cases ha : a = k
    · subst ha
      simp only [setEntries, lookup, if_true, List.map_cons, List.sum_cons, Option.map_some,
        Option.getD_some]
      abel
    · simp only [setEntries, lookup, ha, if_false, List.map_cons, List.sum_cons, ih]
      abel

/-- A store changes a sum over the entries by the new entry less the one it replaces. -/
theorem sum_set (d : Dict κ ν) (w : κ × ν → M) (k : κ) (v : ν) :
    ((d.set k v).entries.map w).sum = (d.entries.map w).sum - d.weightAt w k + w (k, v) :=
  sum_setEntries w k v d.entries

end Sums

end Dict

/-! ## One row for each key

When rows are written under their keys, one row of each key is left. `Represents key kept rows` says so
of what is left, without saying which row of a key it is. Nothing is lost exactly when no two rows have
the same key (`Represents.map_perm_iff`).
-/

variable {α β κ : Type*} {key : α → κ} {kept rows : List α}

/-- What is left of some rows is one of them for each key. -/
structure Represents (key : α → κ) (kept rows : List α) : Prop where
  nodup : (kept.map key).Nodup
  subset : ∀ a ∈ kept, a ∈ rows
  covers : ∀ a ∈ rows, key a ∈ kept.map key

/-- Two readings that tell the same rows apart. -/
theorem nodup_map_iff {γ : Type*} {f : α → β} {g : α → γ}
    (h : ∀ a ∈ rows, ∀ b ∈ rows, f a = f b ↔ g a = g b) :
    (rows.map f).Nodup ↔ (rows.map g).Nodup := by
  rw [List.Nodup, List.Nodup, List.pairwise_map, List.pairwise_map]
  constructor
  · exact fun hf => hf.imp_of_mem fun ha hb hne => mt (h _ ha _ hb).mpr hne
  · exact fun hg => hg.imp_of_mem fun ha hb hne => mt (h _ ha _ hb).mp hne

namespace Represents

/-- Rows may be dropped first, as long as one of each key stays. -/
theorem of_cover {fewer : List α} (h : Represents key kept fewer) (hsubset : ∀ a ∈ fewer, a ∈ rows)
    (hcovers : ∀ a ∈ rows, key a ∈ fewer.map key) : Represents key kept rows where
  nodup := h.nodup
  subset := fun a ha => hsubset a (h.subset a ha)
  covers := by
    intro a ha
    obtain ⟨b, hb, hkey⟩ := List.mem_map.mp (hcovers a ha)
    exact hkey ▸ h.covers b hb

/-- The rows of a kind that depends on the key only. -/
theorem filter (h : Represents key kept rows) {p : α → Bool}
    (hp : ∀ a ∈ rows, ∀ b ∈ rows, key a = key b → p a = p b) :
    Represents key (kept.filter p) (rows.filter p) where
  nodup := h.nodup.sublist (List.filter_sublist.map key)
  subset := by
    intro a ha
    obtain ⟨ha, hpa⟩ := List.mem_filter.mp ha
    exact List.mem_filter.mpr ⟨h.subset a ha, hpa⟩
  covers := by
    intro a ha
    obtain ⟨ha, hpa⟩ := List.mem_filter.mp ha
    obtain ⟨b, hb, hkey⟩ := List.mem_map.mp (h.covers a ha)
    have hpb : p b = true := (hp b (h.subset b hb) a ha hkey).trans hpa
    exact List.mem_map.mpr ⟨b, List.mem_filter.mpr ⟨hb, hpb⟩, hkey⟩

/-- Rows with different keys are all left. -/
theorem perm (h : Represents key kept rows) (hnodup : (rows.map key).Nodup) : kept.Perm rows := by
  refine (List.perm_ext_iff_of_nodup h.nodup.of_map hnodup.of_map).mpr fun a => ⟨h.subset a, ?_⟩
  intro ha
  obtain ⟨b, hb, hkey⟩ := List.mem_map.mp (h.covers a ha)
  exact List.inj_on_of_nodup_map hnodup (h.subset b hb) ha hkey ▸ hb

/-- As many rows are left as there were exactly when their keys differ. -/
theorem nodup_of_length (h : Represents key kept rows) (hlength : kept.length = rows.length) :
    (rows.map key).Nodup := by
  have hsubset : kept.map key ⊆ rows.map key := by
    intro k hk
    obtain ⟨a, ha, rfl⟩ := List.mem_map.mp hk
    exact List.mem_map.mpr ⟨a, h.subset a ha, rfl⟩
  have hperm : (kept.map key).Perm (rows.map key) :=
    (List.subperm_of_subset h.nodup hsubset).perm_of_length_le (by
      rw [List.length_map, List.length_map, hlength])
  exact hperm.nodup_iff.mp h.nodup

/-- What the rows say is all left exactly when their keys differ. -/
theorem map_perm_iff (h : Represents key kept rows) (f : α → β) :
    (kept.map f).Perm (rows.map f) ↔ (rows.map key).Nodup := by
  constructor
  · intro hperm
    refine h.nodup_of_length ?_
    have hlength := hperm.length_eq
    rwa [List.length_map, List.length_map] at hlength
  · exact fun hnodup => (h.perm hnodup).map f

end Represents

end Py
