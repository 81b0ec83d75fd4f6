import ShelfWise.Py.Dict
import ShelfWise.Py.Sorted

/-!
# Sorted listings of a dictionary

`listing d key keep` is what a store answers when it is asked for its rows: the values of the entries
a filter keeps, sorted by a key. What a listing shows of its rows is determined by what the
dictionary shows under each key (`map_listing_eq`), whatever the order of insertion, and a listing
of all rows determines that in turn (`map_get?_eq_of_listing`). Where the sort key does not tell the
rows apart, the order of insertion shows (`map_listing_reversed_ne`).
-/

namespace Py

variable {κ ν β γ : Type*} [DecidableEq κ]

/-! ## Rows and their keys -/

variable {d : Dict κ ν} {keep : κ × ν → Bool}

theorem mem_kept_iff {v : ν} :
    v ∈ (d.entries.filter keep).map Prod.snd ↔ ∃ k, d.get? k = some v ∧ keep (k, v) = true := by
  simp only [List.mem_map, List.mem_filter, Prod.exists, exists_eq_right, Dict.mem_entries_iff]

variable {keyOf : ν → κ}

/-- A row that stands under its own key is kept once. -/
theorem nodup_kept (hd : d.KeyedBy keyOf) (keep : κ × ν → Bool) :
    ((d.entries.filter keep).map Prod.snd).Nodup := by
  have hkept : ((d.entries.filter keep).map Prod.fst).Nodup :=
    d.nodupKeys.sublist (List.Sublist.map _ List.filter_sublist)
  refine List.Nodup.of_map keyOf ?_
  rw [List.map_map]
  have hsame : (d.entries.filter keep).map (keyOf ∘ Prod.snd)
      = (d.entries.filter keep).map Prod.fst := by
    refine List.map_congr_left fun e he => ?_
    exact (hd e.1 e.2 ((d.mem_entries_iff e.1 e.2).mp (List.mem_filter.mp he).1)).symm
  rw [hsame]
  exact hkept

/-- The sort key of a kept row says under which key the row stands. -/
structure SortsBy (d : Dict κ ν) (key : ν → β) (keep : κ × ν → Bool) (place : β → κ) : Prop where
  place_key : ∀ k v, d.get? k = some v → keep (k, v) = true → k = place (key v)
  key_place : ∀ b v, d.get? (place b) = some v → key v = b

variable {place : β → κ}

theorem SortsBy.nodup {key : ν → β} (h : SortsBy d key keep place) :
    (((d.entries.filter keep).map Prod.snd).map key).Nodup := by
  have hkept : ((d.entries.filter keep).map Prod.fst).Nodup :=
    d.nodupKeys.sublist (List.Sublist.map _ List.filter_sublist)
  rw [List.map_map]
  refine List.Nodup.of_map place ?_
  rw [List.map_map]
  have hsame : (d.entries.filter keep).map (place ∘ key ∘ Prod.snd)
      = (d.entries.filter keep).map Prod.fst := by
    refine List.map_congr_left fun e he => ?_
    obtain ⟨hmem, hkeep⟩ := List.mem_filter.mp he
    exact (h.place_key e.1 e.2 ((d.mem_entries_iff e.1 e.2).mp hmem) hkeep).symm
  rw [hsame]
  exact hkept

variable {doc : ν → γ}

theorem SortsBy.pair_mem_iff {key : ν → β} (h : SortsBy d key keep place) (p : β × γ) :
    (∃ v ∈ (d.entries.filter keep).map Prod.snd, (key v, doc v) = p) ↔
      ∃ v, d.get? (place p.1) = some v ∧ keep (place p.1, v) = true ∧ doc v = p.2 := by
  constructor
  · rintro ⟨v, hv, rfl⟩
    obtain ⟨k, hget, hkeep⟩ := mem_kept_iff.mp hv
    have hk := h.place_key k v hget hkeep
    rw [hk] at hget hkeep
    exact ⟨v, hget, hkeep, rfl⟩
  · rintro ⟨v, hget, hkeep, hdoc⟩
    exact ⟨v, mem_kept_iff.mpr ⟨_, hget, hkeep⟩, Prod.ext (h.key_place _ v hget) hdoc⟩

/-! ## Listings -/

variable [LinearOrder β]

/-- `sorted([v for k, v in d.items() if keep(k, v)], key=key)`. -/
def listing (d : Dict κ ν) (key : ν → β) (keep : κ × ν → Bool) : List ν :=
  sortedBy key ((d.entries.filter keep).map Prod.snd)

theorem mem_listing_iff {key : ν → β} {v : ν} :
    v ∈ listing d key keep ↔ ∃ k, d.get? k = some v ∧ keep (k, v) = true :=
  mem_sortedBy.trans mem_kept_iff

variable {d' : Dict κ ν} {keep' : κ × ν → Bool}

/-- Dictionaries that show the same under every key have listings that show the same. -/
theorem map_listing_eq {key : ν → β} (h : SortsBy d key keep place)
    (h' : SortsBy d' key keep' place) (hdoc : ∀ k, (d.get? k).map doc = (d'.get? k).map doc)
    (hkeep : ∀ k v v', doc v = doc v' → keep (k, v) = keep' (k, v')) :
    (listing d key keep).map doc = (listing d' key keep').map doc := by
  refine map_sortedBy_eq h.nodup h'.nodup fun p => ?_
  rw [h.pair_mem_iff, h'.pair_mem_iff]
  have hp := hdoc (place p.1)
  constructor
  · rintro ⟨v, hget, hk, hv⟩
    rw [hget, Option.map_some] at hp
    obtain ⟨v', hget', hv'⟩ := Option.map_eq_some_iff.mp hp.symm
    exact ⟨v', hget', hkeep _ v v' hv'.symm ▸ hk, hv'.trans hv⟩
  · rintro ⟨v', hget', hk, hv'⟩
    rw [hget', Option.map_some] at hp
    obtain ⟨v, hget, hv⟩ := Option.map_eq_some_iff.mp hp
    exact ⟨v, hget, (hkeep _ v v' hv).symm ▸ hk, hv.trans hv'⟩

/-- What a listing of all rows shows determines what the dictionary shows under every key, when a
row shows its key. -/
theorem map_get?_eq_of_listing {key : ν → β} (hd : d.KeyedBy keyOf) (hd' : d'.KeyedBy keyOf)
    (hall : ∀ k v, d.get? k = some v → keep (k, v) = true)
    (hall' : ∀ k v, d'.get? k = some v → keep' (k, v) = true)
    (hdoc : ∀ v v', doc v = doc v' → keyOf v = keyOf v')
    (h : (listing d key keep).map doc = (listing d' key keep').map doc) (k : κ) :
    (d.get? k).map doc = (d'.get? k).map doc := by
  have hone : ∀ {a b : Dict κ ν} {ka kb : κ × ν → Bool}, a.KeyedBy keyOf → b.KeyedBy keyOf →
      (∀ k v, a.get? k = some v → ka (k, v) = true) →
      (listing a key ka).map doc = (listing b key kb).map doc →
      ∀ x, (a.get? k).map doc = some x → (b.get? k).map doc = some x := by
    intro a b ka kb ha hb hkeep heq x hx
    obtain ⟨v, hget, rfl⟩ := Option.map_eq_some_iff.mp hx
    have hmem : doc v ∈ (listing b key kb).map doc :=
      heq ▸ List.mem_map_of_mem (mem_listing_iff.mpr ⟨k, hget, hkeep k v hget⟩)
    obtain ⟨v', hv', hdv⟩ := List.mem_map.mp hmem
    obtain ⟨k', hget', -⟩ := mem_listing_iff.mp hv'
    have hk : k' = k := by
      rw [hb k' v' hget', hdoc v' v hdv, ← ha k v hget]
    rw [← hk, hget', Option.map_some, hdv]
  ext x
  exact ⟨hone hd hd' hall h x, hone hd' hd hall' h.symm x⟩

/-! ## The order of insertion -/

/-- Listings of the same rows are the same, whatever the order of insertion, when the key tells the
rows apart. -/
theorem listing_eq_of_mem_iff {key : ν → β} (hd : d.KeyedBy keyOf) (hd' : d'.KeyedBy keyOf)
    (h : ∀ v, v ∈ listing d key keep ↔ v ∈ listing d' key keep')
    (hinj : ∀ v ∈ listing d key keep, ∀ w ∈ listing d key keep, key v = key w → v = w) :
    listing d key keep = listing d' key keep' := by
  simp only [listing, mem_sortedBy] at h hinj ⊢
  exact sortedBy_eq_of_perm ((List.perm_ext_iff_of_nodup (nodup_kept hd keep)
    (nodup_kept hd' keep')).mpr h) hinj

/-- The dictionary that was filled in the opposite order. -/
def Dict.reversed (d : Dict κ ν) : Dict κ ν :=
  ⟨d.entries.reverse, by rw [List.map_reverse]; exact List.nodup_reverse.mpr d.nodupKeys⟩

theorem Dict.get?_reversed (d : Dict κ ν) (k : κ) : d.reversed.get? k = d.get? k := by
  ext v
  rw [← Dict.mem_entries_iff, ← Dict.mem_entries_iff]
  exact List.mem_reverse

/-- When two rows have the same key, their order in a listing is that of their insertion. -/
theorem map_listing_reversed_ne {key : ν → β} (hd : d.KeyedBy keyOf)
    (hdoc : ∀ v ∈ listing d key keep, ∀ w ∈ listing d key keep, doc v = doc w → v = w) {v w : ν}
    (hv : v ∈ listing d key keep) (hw : w ∈ listing d key keep) (hne : v ≠ w) (hkey : key v = key w) :
    (listing d.reversed key keep).map doc ≠ (listing d key keep).map doc := by
  have hrows : (d.reversed.entries.filter keep).map Prod.snd
      = ((d.entries.filter keep).map Prod.snd).reverse := by
    change (d.entries.reverse.filter keep).map Prod.snd = _
    rw [List.filter_reverse, List.map_reverse]
  simp only [listing, mem_sortedBy] at hdoc hv hw
  unfold listing
  rw [hrows]
  exact map_sortedBy_reverse_ne (List.Nodup.map_on hdoc (nodup_kept hd keep)) hv hw hne hkey

/-! ## Rows a listing does not show -/

variable {k : κ} {es : List (κ × ν)}

theorem filter_setEntries {v : ν} (hnew : keep (k, v) = false)
    (hold : ∀ v', (k, v') ∈ es → keep (k, v') = false) :
    (Dict.setEntries k v es).filter keep = es.filter keep := by
  induction es with
  | nil => simp [Dict.setEntries, hnew]
  | cons e rest ih =>
    obtain ⟨k', v'⟩ := e
    have hrest := ih fun v'' hmem => hold v'' (List.mem_cons_of_mem _ hmem)
    by_cases hk : k' = k
    · subst hk
      simp [Dict.setEntries, hnew, hold v' List.mem_cons_self]
    · rw [Dict.setEntries, if_neg hk, List.filter_cons, List.filter_cons, hrest]

/-- A row that is shown, in the place of one that was. -/
theorem filter_setEntries_shown {v : ν} (hnew : keep (k, v) = true)
    (hold : ∀ v', (k, v') ∈ es → keep (k, v') = true) :
    (Dict.setEntries k v es).filter keep = Dict.setEntries k v (es.filter keep) := by
  induction es with
  | nil => simp [Dict.setEntries, hnew]
  | cons e rest ih =>
    obtain ⟨k', v'⟩ := e
    have hrest := ih fun v'' hmem => hold v'' (List.mem_cons_of_mem _ hmem)
    by_cases hk : k' = k
    · subst hk
      simp [Dict.setEntries, hnew, hold v' List.mem_cons_self]
    · rw [Dict.setEntries, if_neg hk, List.filter_cons, List.filter_cons, hrest]
      split
      · rw [Dict.setEntries, if_neg hk]
      · rfl

/-- A row in the place of one that a search takes for the same does not change what is found. -/
theorem find?_setEntries {v old : ν} {p : κ × ν → Bool} (hnodup : (es.map Prod.fst).Nodup)
    (hget : Dict.lookup k es = some old) (hsame : p (k, v) = p (k, old)) :
    (Dict.setEntries k v es).find? p = (es.find? p).map fun e => if e.1 = k then (k, v) else e := by
  induction es with
  | nil => cases hget
  | cons e rest ih =>
    obtain ⟨k', v'⟩ := e
    obtain ⟨hnotmem, hnodup⟩ := List.nodup_cons.mp hnodup
    by_cases hk : k' = k
    · subst hk
      rw [Dict.lookup, if_pos rfl] at hget
      cases hget
      rw [Dict.setEntries, if_pos rfl]
      by_cases hp : p (k', old) = true
      · rw [List.find?_cons_of_pos (hsame.trans hp), List.find?_cons_of_pos hp, Option.map_some,
          if_pos rfl]
      · rw [List.find?_cons_of_neg (hsame ▸ hp), List.find?_cons_of_neg hp]
        -- the key does not occur again
        cases hfound : rest.find? p with
        | none => rfl
        | some e =>
          have hne : e.1 ≠ k' := fun hek =>
            hnotmem (List.mem_map.mpr ⟨e, List.mem_of_find?_eq_some hfound, hek⟩)
          rw [Option.map_some, if_neg hne]
    · rw [Dict.lookup, if_neg hk] at hget
      rw [Dict.setEntries, if_neg hk]
      by_cases hp : p (k', v') = true
      · rw [List.find?_cons_of_pos hp, List.find?_cons_of_pos hp, Option.map_some, if_neg hk]
      · rw [List.find?_cons_of_neg hp, List.find?_cons_of_neg hp]
        exact ih hnodup hget

/-- Dictionaries with the same shown rows agree under a key whose rows are shown. -/
theorem get?_eq_of_filter_eq (h : d.entries.filter keep = d'.entries.filter keep)
    (hd : ∀ v, d.get? k = some v → keep (k, v) = true)
    (hd' : ∀ v, d'.get? k = some v → keep (k, v) = true) : d.get? k = d'.get? k := by
  ext v
  constructor
  · intro hget
    have hmem : (k, v) ∈ d.entries.filter keep :=
      List.mem_filter.mpr ⟨(d.mem_entries_iff k v).mpr hget, hd v hget⟩
    rw [h] at hmem
    exact (d'.mem_entries_iff k v).mp (List.mem_filter.mp hmem).1
  · intro hget
    have hmem : (k, v) ∈ d'.entries.filter keep :=
      List.mem_filter.mpr ⟨(d'.mem_entries_iff k v).mpr hget, hd' v hget⟩
    rw [← h] at hmem
    exact (d.mem_entries_iff k v).mp (List.mem_filter.mp hmem).1

omit [DecidableEq κ] in
/-- Dictionaries with the same shown rows have the same listings of them. -/
theorem listing_eq_of_filter_eq (key : ν → β) (keep : κ × ν → Bool) {shown : κ × ν → Bool}
    (h : d.entries.filter shown = d'.entries.filter shown) :
    listing d key (fun e => keep e && shown e) = listing d' key (fun e => keep e && shown e) := by
  unfold listing
  rw [← List.filter_filter, ← List.filter_filter, h]

/-- A row that is not shown, in the place of one that was not. -/
theorem listing_set {v : ν} (key : ν → β) (hnew : keep (k, v) = false)
    (hold : ∀ v', d.get? k = some v' → keep (k, v') = false) :
    listing (d.set k v) key keep = listing d key keep := by
  unfold listing
  rw [show (d.set k v).entries = Dict.setEntries k v d.entries from rfl,
    filter_setEntries hnew fun v' hmem => hold v' ((d.mem_entries_iff k v').mp hmem)]

end Py
