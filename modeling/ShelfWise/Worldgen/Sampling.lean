import ShelfWise.Contracts.Event
import ShelfWise.Py.Float
import Mathlib.Data.Finset.Sort
import Mathlib.Data.Rat.Floor

/-!
# Samples of an event stream

`span_event_stream` of `shelfwise_worldgen/world.py` cuts a stream of events to a limit. The first event
of every type has its place in the sample, and the places that are left go to events at regular
intervals (`sample_spans`).
-/

namespace ShelfWise.Worldgen

open Py

/-! ## The sample -/

/-- `sys.maxsize`. -/
def maxSize : ℕ := 2 ^ 63 - 1

/-- A sequence of events; none is longer than `sys.maxsize`. -/
structure EventSequence where
  rows : List Event
  fits : rows.length ≤ maxSize

/-- `first_by_type`. -/
def firstByType (rows : List Event) : Dict EventType ℕ :=
  (rows.zipIdx.map fun e => (e.1.type, e.2)).foldl (fun acc kv => acc.setdefault kv.1 kv.2) .empty

/-- The loop over the slots. -/
def fillSlots (size limit : ℕ) : List ℕ → Finset ℕ → Except Exc (Finset ℕ)
  | [], selected => .ok selected
  | slot :: slots, selected =>
    if limit ≤ selected.card then .ok selected
    else do
      let share ← FloatValue.quotient (slot * size : ℕ) limit
      let index ← share.toInt
      -- no index is negative, as neither number is
      fillSlots size limit slots (insert (min index (size - 1)).toNat selected)

/-- The loop over the indexes. -/
def topUp (limit : ℕ) : List ℕ → Finset ℕ → Finset ℕ
  | [], selected => selected
  | index :: rest, selected =>
    if limit ≤ (insert index selected).card then insert index selected
    else topUp limit rest (insert index selected)

/-- `rows[index]`. -/
def rowAt (rows : List Event) (index : ℕ) : Except Exc Event :=
  match rows[index]? with
  | some event => .ok event
  | none => .error (.raised "IndexError" "list index out of range")

/-- `span_event_stream`. -/
def spanEventStream (events : EventSequence) (limit : ℤ) : Except Exc (List Event) :=
  let rows := events.rows
  let types := (firstByType rows).entries.length
  if limit ≤ 0 then .error (.valueError "limit must be positive")
  else if rows.length ≤ limit then .ok rows
  else if limit < types then
    .error (.valueError ("limit " ++ toString limit ++ " cannot cover " ++ toString types ++
      " event types"))
  else do
    let selected ← fillSlots rows.length limit.toNat (List.range limit.toNat)
      (firstByType rows).values.toFinset
    let filled := if selected.card < limit.toNat then
        topUp limit.toNat (List.range rows.length) selected
      else selected
    (filled.sort.take limit.toNat).mapM (rowAt rows)

/-! ## The first event of a type -/

/-- An event is the first of its type, at its place in the stream. -/
def IsFirst (rows : List Event) (event : Event) (index : ℕ) : Prop :=
  ∃ before after, rows = before ++ event :: after ∧ before.length = index ∧
    event.type ∉ before.map (·.type)

theorem get?_firstByType (rows : List Event) (type : EventType) :
    (firstByType rows).get? type = (rows.zipIdx.find? fun e => e.1.type = type).map Prod.snd := by
  rw [firstByType, Dict.get?_foldl_setdefault, Dict.get?_empty, Option.none_or, List.find?_map,
    Option.map_map]
  rfl

variable {rows : List Event} {index : ℕ}

theorem mem_values_of_isFirst {event : Event} (h : IsFirst rows event index) :
    index ∈ (firstByType rows).values := by
  obtain ⟨before, after, rfl, rfl, hfirst⟩ := h
  rw [Dict.mem_values_iff]
  refine ⟨event.type, ?_⟩
  have hnone : before.zipIdx.find? (fun e => decide (e.1.type = event.type)) = none := by
    refine List.find?_eq_none.mpr fun e he htype => hfirst ?_
    rw [← of_decide_eq_true htype]
    exact List.mem_map_of_mem (List.fst_mem_of_mem_zipIdx he)
  rw [get?_firstByType, List.zipIdx_append, List.find?_append, hnone, Option.none_or,
    List.zipIdx_cons, List.find?_cons_of_pos (by simp), Option.map_some, Nat.zero_add]

theorem lt_of_mem_values (h : index ∈ (firstByType rows).values) : index < rows.length := by
  obtain ⟨type, hget⟩ := ((firstByType rows).mem_values_iff index).mp h
  rw [get?_firstByType] at hget
  obtain ⟨e, he, rfl⟩ := Option.map_eq_some_iff.mp hget
  exact List.snd_lt_of_mem_zipIdx (List.mem_of_find?_eq_some he)

/-- There are as many first events as types. -/
theorem length_firstByType (rows : List Event) :
    (firstByType rows).entries.length = (rows.map (·.type)).dedup.length := by
  have hkeys : ((firstByType rows).entries.map Prod.fst).Perm (rows.map (·.type)).dedup := by
    rw [List.perm_ext_iff_of_nodup (firstByType rows).nodupKeys (List.nodup_dedup _)]
    intro type
    rw [List.mem_dedup, List.mem_map, List.mem_map]
    constructor
    · rintro ⟨⟨_, index⟩, hentry, rfl⟩
      rw [Dict.mem_entries_iff, get?_firstByType] at hentry
      obtain ⟨e, he, -⟩ := Option.map_eq_some_iff.mp hentry
      have htype := List.find?_some he
      exact ⟨e.1, List.fst_mem_of_mem_zipIdx (List.mem_of_find?_eq_some he),
        of_decide_eq_true htype⟩
    · rintro ⟨event, hevent, rfl⟩
      obtain ⟨index, hindex, rfl⟩ := List.getElem_of_mem hevent
      have hmem : (rows[index], index) ∈ rows.zipIdx :=
        List.mem_zipIdx_iff_getElem?.mpr (List.getElem?_eq_getElem hindex)
      obtain ⟨e, he⟩ := Option.isSome_iff_exists.mp
        (List.find?_isSome.mpr ⟨_, hmem, decide_eq_true rfl⟩ :
          (rows.zipIdx.find? fun e => e.1.type = rows[index].type).isSome)
      refine ⟨(rows[index].type, e.2), ?_, rfl⟩
      rw [Dict.mem_entries_iff, get?_firstByType, he]
      rfl
  rw [← hkeys.length_eq, List.length_map]

/-! ## Indexes of slots -/

theorem roundHalfEven_bounds (q : ℚ) :
    q.floor ≤ FloatValue.roundHalfEven q ∧ FloatValue.roundHalfEven q ≤ q.floor + 1 := by
  unfold FloatValue.roundHalfEven
  dsimp only
  split_ifs <;> omega

/-- A quotient of a number that a double can hold is no infinity. -/
theorem exists_ofRat {q : ℚ} (h : 0 ≤ q) (hnum : q.num.natAbs < 2 ^ 126) :
    ∃ r, 0 ≤ r ∧ FloatValue.ofRat q = .finite r := by
  by_cases hzero : q = 0
  · exact ⟨0, le_rfl, by rw [FloatValue.ofRat, if_pos hzero]⟩
  · have hlog : FloatValue.floorLog2 |q| ≤ 125 := by
      have hlt : Nat.log2 |q|.num.natAbs < 126 := by
        rw [abs_of_nonneg h]
        exact (Nat.log2_lt (by simpa using hzero)).mpr hnum
      unfold FloatValue.floorLog2
      dsimp only
      split_ifs <;> omega
    have hsmall : q < 2 ^ 126 := by
      have hle : q ≤ (q.num.natAbs : ℚ) := by
        rw [Nat.cast_natAbs, abs_of_nonneg (Rat.num_nonneg.mpr h)]
        calc q = q.num / q.den := (Rat.num_div_den q).symm
          _ ≤ q.num := div_le_self (by exact_mod_cast Rat.num_nonneg.mpr h)
            (by exact_mod_cast q.den_pos)
      exact lt_of_le_of_lt hle (by exact_mod_cast hnum)
    generalize he : max (-1074 : ℤ) (FloatValue.floorLog2 |q| - 52) = e
    have hexponent : e ≤ 73 := by omega
    have hunit : (0 : ℚ) < (2 : ℚ) ^ e := zpow_pos (by norm_num) e
    have hlarge : (2 : ℚ) ^ e ≤ 2 ^ 73 := by
      have := zpow_le_zpow_right₀ (by norm_num : (1 : ℚ) ≤ 2) hexponent
      exact_mod_cast this
    obtain ⟨hlow, hhigh⟩ := roundHalfEven_bounds (|q| / (2 : ℚ) ^ e)
    have hfloor : (0 : ℤ) ≤ (|q| / (2 : ℚ) ^ e).floor :=
      Int.floor_nonneg.mpr (div_nonneg (abs_nonneg q) hunit.le)
    have hround : (FloatValue.roundHalfEven (|q| / (2 : ℚ) ^ e) : ℚ) * 2 ^ e ≤ q + 2 ^ e := by
      have hcast : (FloatValue.roundHalfEven (|q| / (2 : ℚ) ^ e) : ℚ) ≤ |q| / (2 : ℚ) ^ e + 1 :=
        le_trans (by exact_mod_cast hhigh) (add_le_add_left (Int.floor_le _) 1)
      calc _ ≤ (|q| / (2 : ℚ) ^ e + 1) * 2 ^ e := mul_le_mul_of_nonneg_right hcast hunit.le
        _ = q + 2 ^ e := by rw [add_mul, div_mul_cancel₀ _ hunit.ne', one_mul, abs_of_nonneg h]
    refine ⟨FloatValue.roundHalfEven (|q| / (2 : ℚ) ^ e) * 2 ^ e,
      mul_nonneg (by exact_mod_cast hfloor.trans hlow) hunit.le, ?_⟩
    have hbounded : ¬ (2 : ℚ) ^ (1024 : ℤ) ≤
        FloatValue.roundHalfEven (|q| / (2 : ℚ) ^ e) * 2 ^ e := by
      rw [not_le]
      calc _ ≤ q + 2 ^ e := hround
        _ < 2 ^ 126 + 2 ^ 73 := add_lt_add_of_lt_of_le hsmall hlarge
        _ < (2 : ℚ) ^ (127 : ℤ) := by norm_num
        _ ≤ 2 ^ (1024 : ℤ) := zpow_le_zpow_right₀ (by norm_num) (by norm_num)
    rw [FloatValue.ofRat, if_neg hzero]
    simp only [he]
    rw [if_neg hbounded, if_neg (not_lt.mpr h)]

/-- The index of a slot can be computed. -/
theorem exists_share {slot size limit : ℕ} (hslot : slot < limit) (hlimit : limit < size)
    (hsize : size ≤ maxSize) :
    ∃ share index, FloatValue.quotient (slot * size : ℕ) limit = .ok share ∧
      share.toInt = .ok index := by
  have hpositive : (limit : ℤ) ≠ 0 := by omega
  have hnonneg : (0 : ℚ) ≤ ((slot * size : ℕ) : ℤ) / (limit : ℤ) := by positivity
  have hnum : (((slot * size : ℕ) : ℤ) / (limit : ℤ) : ℚ).num.natAbs < 2 ^ 126 := by
    have hdvd := Rat.num_dvd ((slot * size : ℕ) : ℤ) hpositive
    rw [Rat.divInt_eq_div] at hdvd
    have hproduct : slot * size ≤ maxSize * maxSize := Nat.mul_le_mul (by omega) hsize
    have hlt : maxSize * maxSize < 2 ^ 126 := by norm_num [maxSize]
    by_cases hzero : slot * size = 0
    · rw [hzero, Nat.cast_zero, Int.cast_zero, zero_div]
      norm_num
    · have hle := Nat.le_of_dvd (Nat.pos_of_ne_zero hzero) (Int.natAbs_dvd_natAbs.mpr hdvd)
      omega
  obtain ⟨r, hr, hvalue⟩ := exists_ofRat hnonneg hnum
  refine ⟨.finite r, _, ?_, rfl⟩
  rw [FloatValue.quotient, if_neg hpositive, hvalue]

variable {selected : Finset ℕ}

/-- The loop over the slots adds indexes of the stream, and not too many. -/
theorem fillSlots_spec {size limit : ℕ} (hlimit : limit < size) (hsize : size ≤ maxSize)
    {slots : List ℕ} (hslots : ∀ slot ∈ slots, slot < limit) (hin : selected ⊆ Finset.range size)
    (hcard : selected.card ≤ limit) :
    ∃ filled, fillSlots size limit slots selected = .ok filled ∧ selected ⊆ filled ∧
      filled ⊆ Finset.range size ∧ filled.card ≤ limit := by
  induction slots generalizing selected with
  | nil => exact ⟨selected, rfl, Finset.Subset.refl _, hin, hcard⟩
  | cons slot slots ih =>
    rw [fillSlots]
    by_cases hfull : limit ≤ selected.card
    · rw [if_pos hfull]
      exact ⟨selected, rfl, Finset.Subset.refl _, hin, hcard⟩
    · rw [if_neg hfull]
      obtain ⟨share, index, hshare, hindex⟩ :=
        exists_share (hslots slot List.mem_cons_self) hlimit hsize
      have hrange : insert (min index ((size : ℤ) - 1)).toNat selected ⊆ Finset.range size :=
        Finset.insert_subset (Finset.mem_range.mpr (by omega)) hin
      obtain ⟨filled, hfilled, hkept, hspec⟩ := ih (fun s hs => hslots s (List.mem_cons_of_mem _ hs))
        hrange ((Finset.card_insert_le _ _).trans (by omega))
      refine ⟨filled, ?_, (Finset.subset_insert _ _).trans hkept, hspec⟩
      rw [hshare]
      show (share.toInt >>= _) = _
      rw [hindex]
      exact hfilled

/-- The loop over the indexes stops when the limit is reached, or has added all of them. -/
theorem topUp_spec {limit : ℕ} (indexes : List ℕ) (hcard : selected.card < limit) :
    selected ⊆ topUp limit indexes selected ∧
      topUp limit indexes selected ⊆ selected ∪ indexes.toFinset ∧
      ((topUp limit indexes selected).card = limit ∨
        (topUp limit indexes selected).card < limit ∧ indexes.toFinset ⊆ topUp limit indexes selected) := by
  induction indexes generalizing selected with
  | nil => exact ⟨Finset.Subset.refl _, Finset.subset_union_left, .inr ⟨hcard, Finset.empty_subset _⟩⟩
  | cons index rest ih =>
    have hone := Finset.card_insert_le index selected
    rw [topUp]
    by_cases hfull : limit ≤ (insert index selected).card
    · rw [if_pos hfull]
      refine ⟨Finset.subset_insert _ _, ?_, .inl (by omega)⟩
      rw [List.toFinset_cons]
      exact Finset.insert_subset (Finset.mem_union_right _ (Finset.mem_insert_self _ _))
        Finset.subset_union_left
    · rw [if_neg hfull]
      obtain ⟨hkept, hfrom, hend⟩ := ih (not_le.mp hfull)
      rw [List.toFinset_cons]
      refine ⟨(Finset.subset_insert _ _).trans hkept, hfrom.trans ?_, hend.imp_right fun h =>
        ⟨h.1, Finset.insert_subset (hkept (Finset.mem_insert_self _ _)) h.2⟩⟩
      rw [Finset.insert_union, Finset.union_insert]

/-- The sorted indexes of a sample are those of the stream that have been selected. -/
theorem sort_eq_picked (h : selected ⊆ Finset.range rows.length) :
    selected.sort = (rows.zipIdx.filter fun e => e.2 ∈ selected).map Prod.snd := by
  have hrange : selected.sort = (List.range rows.length).filter (· ∈ selected) := by
    refine selected.sortedLT_sort.eq_of_mem_iff
      (List.pairwise_lt_range.filter _).sortedLT fun index => ?_
    rw [Finset.mem_sort, List.mem_filter, List.mem_range, decide_eq_true_eq]
    exact ⟨fun hmem => ⟨Finset.mem_range.mp (h hmem), hmem⟩, And.right⟩
  rw [hrange, List.range_eq_range', ← List.zipIdx_map_snd 0 rows, List.filter_map]
  rfl

/-- The events at the indexes that have been selected. -/
theorem mapM_rowAt (h : selected ⊆ Finset.range rows.length) : selected.sort.mapM (rowAt rows) =
      .ok ((rows.zipIdx.filter fun e => e.2 ∈ selected).map Prod.fst) := by
  rw [sort_eq_picked h]
  have hrow : ∀ e ∈ rows.zipIdx.filter (fun e => e.2 ∈ selected), rowAt rows e.2 = .ok e.1 := by
    intro e he
    rw [rowAt, List.mem_zipIdx_iff_getElem?.mp (List.mem_of_mem_filter he)]
  generalize rows.zipIdx.filter (fun e => e.2 ∈ selected) = picked at hrow
  induction picked with
  | nil => rfl
  | cons e rest ih =>
    rw [List.map_cons, List.mapM_cons, hrow e List.mem_cons_self,
      ih fun e he => hrow e (List.mem_cons_of_mem _ he)]
    rfl

/-! ## What a sample keeps -/

/-- A sample is a part of the stream in its order, with the first event of every type. -/
def Spans (rows sample : List Event) : Prop :=
  ∃ picked : List (Event × ℕ), picked.Sublist rows.zipIdx ∧ picked.map Prod.fst = sample ∧
    ∀ event index, IsFirst rows event index → (event, index) ∈ picked

theorem Spans.sublist {rows sample : List Event} (h : Spans rows sample) : sample.Sublist rows := by
  obtain ⟨picked, hsub, rfl, -⟩ := h
  have hmap := hsub.map Prod.fst
  rwa [List.zipIdx_map_fst] at hmap

theorem mem_zipIdx_of_isFirst {event : Event} (h : IsFirst rows event index) :
    (event, index) ∈ rows.zipIdx := by
  obtain ⟨before, after, rfl, rfl, -⟩ := h
  exact List.mem_zipIdx_iff_getElem?.mpr (by simp)

/-- A stream over the limit with no more types than places is cut to the limit. -/
theorem exists_sample (events : EventSequence) {limit : ℤ} (hlimit : 1 ≤ limit)
    (hlong : limit < events.rows.length)
    (htypes : (events.rows.map (·.type)).dedup.length ≤ limit) :
    ∃ sample, spanEventStream events limit = .ok sample ∧ Spans events.rows sample ∧
      (sample.length : ℤ) = limit := by
  obtain ⟨places, rfl⟩ := Int.eq_ofNat_of_zero_le (by omega : 0 ≤ limit)
  obtain ⟨rows, hfits⟩ := events
  dsimp only at hlong htypes ⊢
  rw [← length_firstByType] at htypes
  have hreserved : (firstByType rows).values.toFinset.card ≤ places := by
    refine (List.toFinset_card_le _).trans ?_
    rw [Dict.values, List.length_map]
    exact_mod_cast htypes
  obtain ⟨slotted, hslotted, hfirst, hin, hcard⟩ := fillSlots_spec (by exact_mod_cast hlong) hfits
    (fun slot hslot => List.mem_range.mp hslot)
    (fun index hindex => Finset.mem_range.mpr (lt_of_mem_values (List.mem_toFinset.mp hindex)))
    hreserved
  obtain ⟨filled, hfilled, hkept, hrange, hfull⟩ : ∃ filled, (if slotted.card < places then
      topUp places (List.range rows.length) slotted else slotted) = filled ∧
      slotted ⊆ filled ∧ filled ⊆ Finset.range rows.length ∧ filled.card = places := by
    by_cases hleft : slotted.card < places
    · rw [if_pos hleft]
      obtain ⟨hkept, hfrom, hend⟩ := topUp_spec (List.range rows.length) hleft
      have hindexes : (List.range rows.length).toFinset = Finset.range rows.length := by
        ext index
        rw [List.mem_toFinset, List.mem_range, Finset.mem_range]
      rw [hindexes] at hfrom hend
      refine ⟨_, rfl, hkept, hfrom.trans (Finset.union_subset hin (Finset.Subset.refl _)), ?_⟩
      -- all indexes of the stream are more than the limit
      refine hend.resolve_right ?_
      rintro ⟨hless, hall⟩
      have hcount := Finset.card_le_card hall
      rw [Finset.card_range] at hcount
      omega
    · rw [if_neg hleft]
      exact ⟨slotted, rfl, Finset.Subset.refl _, hin, by omega⟩
  have hsample : spanEventStream ⟨rows, hfits⟩ places =
      .ok ((rows.zipIdx.filter fun e => e.2 ∈ filled).map Prod.fst) := by
    unfold spanEventStream
    dsimp only
    rw [if_neg (by omega), if_neg (by omega), if_neg (by omega), Int.toNat_natCast, hslotted]
    show (((if slotted.card < places then topUp places (List.range rows.length) slotted
      else slotted).sort.take places).mapM (rowAt rows)) = _
    rw [hfilled, List.take_of_length_le (by rw [Finset.length_sort, hfull]), mapM_rowAt hrange]
  have hlength : ((rows.zipIdx.filter fun e => e.2 ∈ filled).map Prod.fst).length = places := by
    have hsorted : filled.sort.length = filled.card := Finset.length_sort _
    rw [sort_eq_picked hrange, List.length_map] at hsorted
    rw [List.length_map, hsorted, hfull]
  refine ⟨_, hsample, ⟨_, List.filter_sublist, rfl, fun event index hevent => ?_⟩,
    by exact_mod_cast hlength⟩
  exact List.mem_filter.mpr ⟨mem_zipIdx_of_isFirst hevent, decide_eq_true
    (hkept (hfirst (List.mem_toFinset.mpr (mem_values_of_isFirst hevent))))⟩

/-- For every limit from 1 on, a sample holds the first event of every type and as many events as the
limit or the stream allow; only a stream over the limit with more types than places is refused. -/
theorem sample_spans (events : EventSequence) {limit : ℤ} (hlimit : 1 ≤ limit) :
    (∀ sample, spanEventStream events limit = .ok sample → sample.Sublist events.rows ∧
      Spans events.rows sample ∧ (sample.length : ℤ) = min limit events.rows.length) ∧
    ((∃ e, spanEventStream events limit = .error e) ↔ limit < events.rows.length ∧
      limit < (events.rows.map (·.type)).dedup.length) := by
  by_cases hlong : limit < events.rows.length
  · by_cases htypes : limit < (events.rows.map (·.type)).dedup.length
    · have hrefused : ∃ e, spanEventStream events limit = .error e := by
        unfold spanEventStream
        dsimp only
        rw [if_neg (by omega), if_neg (by omega), if_pos (by rwa [length_firstByType])]
        exact ⟨_, rfl⟩
      refine ⟨fun sample hsample => ?_, iff_of_true hrefused ⟨hlong, htypes⟩⟩
      obtain ⟨e, he⟩ := hrefused
      cases he.symm.trans hsample
    · obtain ⟨found, hfound, hspans, hlength⟩ := exists_sample events hlimit hlong (not_lt.mp htypes)
      refine ⟨fun sample hsample => ?_, iff_of_false ?_ fun h => htypes h.2⟩
      · obtain rfl := Except.ok.inj (hfound.symm.trans hsample)
        exact ⟨hspans.sublist, hspans, by rw [hlength, min_eq_left hlong.le]⟩
      · rintro ⟨e, he⟩
        cases he.symm.trans hfound
  · -- a stream within the limit is its own sample
    have hwhole : spanEventStream events limit = .ok events.rows := by
      unfold spanEventStream
      dsimp only
      rw [if_neg (by omega), if_pos (not_lt.mp hlong)]
    refine ⟨fun sample hsample => ?_, iff_of_false ?_ fun h => hlong h.1⟩
    · obtain rfl := Except.ok.inj (hwhole.symm.trans hsample)
      exact ⟨List.Sublist.refl _, ⟨_, List.Sublist.refl _, List.zipIdx_map_fst 0 _,
        fun event index => mem_zipIdx_of_isFirst⟩, (min_eq_right (not_lt.mp hlong)).symm⟩
    · rintro ⟨e, he⟩
      cases he.symm.trans hwhole

/-- An event of a simulated till. -/
def simulated (id : String) (hid : id ≠ "") (type : EventType) : Event where
  id := id
  type := type
  ts := ⟨0, "1970-01-01T00:00:00+00:00"⟩
  actor := "sim"
  payload := []
  source := .api
  tenantId := "t1"
  dataDomain := .worldSimulation
  correlationId := id
  causationId := none
  schemaVersion := "1"
  id_ne := hid
  actor_ne := by decide +kernel
  tenantId_ne := by decide +kernel
  correlationId_ne := hid

/-- Three sales and a scan. -/
def tillStream : EventSequence :=
  ⟨[simulated "e1" (by decide) .sale, simulated "e2" (by decide) .sale,
    simulated "e3" (by decide) .sale, simulated "e4" (by decide) .scan], by norm_num [maxSize]⟩

theorem sample_spans_two_places :
    (∀ sample, spanEventStream tillStream 2 = .ok sample → sample.Sublist tillStream.rows ∧
      Spans tillStream.rows sample ∧ (sample.length : ℤ) = min 2 tillStream.rows.length) ∧
    ((∃ e, spanEventStream tillStream 2 = .error e) ↔ 2 < (tillStream.rows.length : ℤ) ∧
      2 < ((tillStream.rows.map (·.type)).dedup.length : ℤ)) :=
  sample_spans tillStream (by decide)

end ShelfWise.Worldgen
