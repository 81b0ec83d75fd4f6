import ShelfWise.Inventory.Store
import Mathlib.Algebra.Order.BigOperators.Group.List
import Mathlib.Tactic.Ring

/-!
# What one event does to the ledger

`stockAt` is the stock of a SKU at a location: the sum over its positions, whatever their bins and
location types. This file connects the arithmetic of `_apply_stock_projection` and
`_apply_sale_projection` with that sum: a receipt that applies an event accounts for the change of
the stock (`Accounts`), and every other position stays where it was.

The invariant is `Keyed`: a position stands under a key that names its own tenant, SKU and
location. A sale writes a position back under the key it was read from, so the bin of the key and
the bin of the position may differ.
-/

namespace ShelfWise.Inventory

open Py

/-! ## Fields -/

variable {s : String}

theorem orElse_str (h : s ≠ "") (v : Value) : (Value.str s).orElse v = .str s := by
  simp [Value.orElse, Value.truthy, h]

theorem toText_orElse_empty (s : String) : ((Value.str s).orElse (.str "")).toText = s := by
  by_cases h : s = ""
  · subst h
    rfl
  · rw [orElse_str h, Value.toText_str]

variable {value : List (String × Value)}

variable {field : String}

/-- A text with something besides white space in it is accepted, stripped. -/
theorem requiredField_str (h : Value.get value field = .str s) (hne : strip s ≠ "") :
    requiredField value field = .ok ⟨strip s, stripped_strip s, hne⟩ := by
  have hs : s ≠ "" := by
    rintro rfl
    exact hne (by decide +kernel)
  have htext : strip ((Value.get value field).orElse (.str "")).toText = strip s := by
    rw [h, orElse_str hs, Value.toText_str]
  simp only [requiredField, htext, ne_eq, hne, not_false_eq_true, dite_true]

variable {t : RequiredText}

theorem requiredField_eq (h : Value.get value field = .str t.1) :
    requiredField value field = .ok t := by
  obtain ⟨s, hstrip, hne⟩ := t
  have hstrip' : strip s = s := hstrip
  rw [requiredField_str h (by rwa [hstrip'])]
  congr 1
  exact Subtype.ext hstrip'

/-- The text of an accepted field is the stripped text of the field. -/
theorem requiredField_inv (h : requiredField value field = .ok t) :
    t.1 = strip ((Value.get value field).orElse (.str "")).toText := by
  unfold requiredField at h
  simp only at h
  split at h
  · cases h
    rfl
  · cases h

/-- What `_position` reads from its argument. -/
structure FromFields (now : String) (value : List (String × Value)) (p : Position) : Prop where
  tenantId : requiredField value "tenant_id" = .ok p.tenantId
  sku : requiredField value "sku" = .ok p.sku
  locationType : requiredField value "location_type" = .ok p.locationType
  locationId : requiredField value "location_id" = .ok p.locationId
  state : requiredField value "state" = .ok p.state
  sourceReference : requiredField value "source_reference" = .ok p.sourceReference
  binId : p.binId = strip ((Value.get value "bin_id").orElse (.str "unassigned")).toText
  quantity : ((Value.get value "quantity").orElse (.int 0)).toInt = .ok p.quantity
  updatedAt : p.updatedAt = ((Value.get value "updated_at").orElse (.str now)).toText

variable {now : String}

theorem position_of_fields {p : Position} (h : FromFields now value p) :
    position now value = .ok p := by
  simp only [position, h.tenantId, h.sku, h.locationType, h.locationId, h.state, h.sourceReference,
    h.quantity, bind, Except.bind, p.quantity_nonneg, dite_true, ← h.binId, ← h.updatedAt]

theorem position_inv {p : Position} (h : position now value = .ok p) : FromFields now value p := by
  unfold position at h
  cases ht : requiredField value "tenant_id" with
  | error e => simp [ht, bind, Except.bind] at h
  | ok tenantId =>
  cases hs : requiredField value "sku" with
  | error e => simp [ht, hs, bind, Except.bind] at h
  | ok sku =>
  cases hlt : requiredField value "location_type" with
  | error e => simp [ht, hs, hlt, bind, Except.bind] at h
  | ok locationType =>
  cases hl : requiredField value "location_id" with
  | error e => simp [ht, hs, hlt, hl, bind, Except.bind] at h
  | ok locationId =>
  cases hst : requiredField value "state" with
  | error e => simp [ht, hs, hlt, hl, hst, bind, Except.bind] at h
  | ok state =>
  cases hsr : requiredField value "source_reference" with
  | error e => simp [ht, hs, hlt, hl, hst, hsr, bind, Except.bind] at h
  | ok sourceReference =>
  cases hq : ((Value.get value "quantity").orElse (.int 0)).toInt with
  | error e => simp [ht, hs, hlt, hl, hst, hsr, hq, bind, Except.bind] at h
  | ok quantity =>
    simp only [ht, hs, hlt, hl, hst, hsr, hq, bind, Except.bind] at h
    split at h
    · cases h
      exact ⟨ht, hs, hlt, hl, hst, hsr, rfl, hq, rfl⟩
    · cases h

/-! ## Stock -/

/-- What an entry adds to the total of the positions with a property. -/
def quantityWhere (P : Position → Bool) (e : PositionKey × Position) : ℤ :=
  if P e.2 then e.2.quantity else 0

/-- The sum of the quantities of the positions with a property. -/
def totalWhere (P : Position → Bool) (positions : Positions) : ℤ :=
  (positions.entries.map (quantityWhere P)).sum

/-- The sum of the quantities of a tenant's positions of a SKU at a location. -/
def stockAt (positions : Positions) (tenantId sku locationId : String) : ℤ :=
  totalWhere (fun p => p.isAt tenantId sku locationId) positions

/-- The key names the tenant, SKU and location of the position. -/
structure Names (k : PositionKey) (p : Position) : Prop where
  tenantId : k.tenantId = p.tenantId.1
  sku : k.sku = p.sku.1
  locationType : k.locationType = p.locationType.1
  locationId : k.locationId = p.locationId.1

/-- Every position stands under a key that names it. -/
def Keyed (positions : Positions) : Prop := ∀ k p, positions.get? k = some p → Names k p

theorem keyed_empty : Keyed Dict.empty := fun _ _ h => nomatch h

variable {positions : Positions} {k : PositionKey}

theorem keyed_set (h : Keyed positions) {p : Position} (hn : Names k p) :
    Keyed (positions.set k p) := by
  intro k' p' hget
  rw [Dict.get?_set] at hget
  split at hget
  · cases hget
    subst k'
    exact hn
  · exact h k' p' hget

theorem names_key (p : Position) : Names (key p) p := ⟨rfl, rfl, rfl, rfl⟩

/-- A property that looks at the names of a position only. -/
def ByName (P : Position → Bool) : Prop := ∀ k p q, Names k p → Names k q → P p = P q

theorem isAt_iff {p : Position} {tenantId sku locationId : String} :
    p.isAt tenantId sku locationId = true ↔
      p.tenantId.1 = tenantId ∧ p.sku.1 = sku ∧ p.locationId.1 = locationId := by
  simp [Position.isAt]

theorem byName_isAt (tenantId sku locationId : String) :
    ByName fun p => p.isAt tenantId sku locationId := by
  intro k p q hp hq
  rw [Bool.eq_iff_iff, isAt_iff, isAt_iff, ← hp.tenantId, ← hp.sku, ← hp.locationId, hq.tenantId,
    hq.sku, hq.locationId]

/-- Two positions that may stand under one key are at the same locations. -/
theorem Names.isAt_eq {p q : Position} (hp : Names k p) (hq : Names k q)
    (tenantId sku locationId : String) :
    p.isAt tenantId sku locationId = q.isAt tenantId sku locationId :=
  byName_isAt tenantId sku locationId k p q hp hq

variable {P : Position → Bool}

theorem weightAt_quantityWhere (hP : ByName P) (hk : Keyed positions) {p : Position}
    (hn : Names k p) :
    positions.weightAt (quantityWhere P) k = if P p then quantityAt positions k else 0 := by
  unfold Dict.weightAt quantityAt
  cases hget : positions.get? k with
  | none => simp
  | some q => simp [quantityWhere, hP k q p (hk k q hget) hn]

/-- A store under a key that names the new position changes the totals the position counts for by
the difference of the two quantities, and no other total. -/
theorem totalWhere_set (hP : ByName P) (hk : Keyed positions) {p : Position} (hn : Names k p) :
    totalWhere P (positions.set k p)
      = totalWhere P positions + if P p then p.quantity - quantityAt positions k else 0 := by
  unfold totalWhere
  rw [Dict.sum_set, weightAt_quantityWhere hP hk hn]
  unfold quantityWhere
  by_cases hat : P p = true
  · simp only [hat, if_true]
    ring
  · simp only [hat, Bool.false_eq_true, if_false]
    ring

theorem stockAt_set (hk : Keyed positions) {p : Position} (hn : Names k p)
    (tenantId sku locationId : String) :
    stockAt (positions.set k p) tenantId sku locationId
      = stockAt positions tenantId sku locationId
        + if p.isAt tenantId sku locationId then p.quantity - quantityAt positions k else 0 :=
  totalWhere_set (byName_isAt tenantId sku locationId) hk hn

/-- Every position that is not at the location is where it was. -/
def Elsewhere (before after : Positions) (tenantId sku locationId : String) : Prop :=
  ∀ k p, p.isAt tenantId sku locationId = false →
    (after.get? k = some p ↔ before.get? k = some p)

theorem elsewhere_refl (positions : Positions) (tenantId sku locationId : String) :
    Elsewhere positions positions tenantId sku locationId := fun _ _ _ => Iff.rfl

theorem Elsewhere.trans {a b c : Positions} {tenantId sku locationId : String}
    (hab : Elsewhere a b tenantId sku locationId) (hbc : Elsewhere b c tenantId sku locationId) :
    Elsewhere a c tenantId sku locationId :=
  fun k p hp => (hbc k p hp).trans (hab k p hp)

theorem elsewhere_set (hk : Keyed positions) {p : Position} (hn : Names k p)
    {tenantId sku locationId : String} (hat : p.isAt tenantId sku locationId = true) :
    Elsewhere positions (positions.set k p) tenantId sku locationId := by
  intro k' q hq
  rw [Dict.get?_set]
  by_cases hkk : k = k'
  · subst hkk
    rw [if_pos rfl]
    -- neither the new position nor the replaced one is elsewhere
    constructor
    · intro h
      cases h
      rw [hat] at hq
      cases hq
    · intro h
      rw [(hk k q h).isAt_eq hn, hat] at hq
      cases hq
  · rw [if_neg hkk]

/-! ## The matching keys -/

variable {p : Projection}

theorem mem_matchingKeys :
    k ∈ matchingKeys positions p ↔
      ∃ q, positions.get? k = some q ∧ q.isAt p.tenantId p.sku p.locationId = true := by
  simp only [matchingKeys, mem_sortedBy, List.mem_map, List.mem_filter, Prod.exists,
    exists_and_right, exists_eq_right, Dict.mem_entries_iff]

theorem nodup_matchingKeys (positions : Positions) (p : Projection) :
    (matchingKeys positions p).Nodup := by
  unfold matchingKeys
  rw [(sortedBy_perm _ _).nodup_iff]
  exact positions.nodupKeys.sublist (List.filter_sublist.map Prod.fst)

/-- `before` in `_apply_projection` is the stock of the event's SKU at its location. -/
theorem sum_matchingKeys (positions : Positions) (p : Projection) :
    ((matchingKeys positions p).map (quantityAt positions)).sum
      = stockAt positions p.tenantId p.sku p.locationId := by
  unfold matchingKeys stockAt totalWhere
  rw [((sortedBy_perm _ _).map _).sum_eq, List.map_map]
  have hquantity : ∀ e ∈ positions.entries, (quantityAt positions ∘ Prod.fst) e = e.2.quantity := by
    intro e he
    have hget := (positions.mem_entries_iff e.1 e.2).mp he
    simp only [Function.comp_apply, quantityAt, hget, Option.map_some, Option.getD_some]
  generalize positions.entries = es at hquantity ⊢
  induction es with
  | nil => rfl
  | cons e rest ih =>
    have ih := ih fun e he => hquantity e (List.mem_cons_of_mem _ he)
    have he := hquantity e List.mem_cons_self
    by_cases hat : e.2.isAt p.tenantId p.sku p.locationId = true
    · simp only [List.filter_cons, hat, if_true, List.map_cons, List.sum_cons, ih, he, quantityWhere]
    · simp only [List.filter_cons, hat, Bool.false_eq_true, if_false, List.map_cons, List.sum_cons,
        ih, quantityWhere, zero_add]

theorem quantityAt_nonneg (positions : Positions) (k : PositionKey) :
    0 ≤ quantityAt positions k := by
  unfold quantityAt
  cases positions.get? k with
  | none => exact le_refl 0
  | some p => exact p.quantity_nonneg

theorem sum_quantityAt_nonneg (positions : Positions) (keys : List PositionKey) :
    0 ≤ (keys.map (quantityAt positions)).sum := by
  refine List.sum_nonneg ?_
  intro n hn
  obtain ⟨k, -, rfl⟩ := List.mem_map.mp hn
  exact quantityAt_nonneg positions k

/-! ## Accepted events -/

/-- An event without an issue. -/
structure Accepted (p : Projection) (quantity : ℤ) : Prop where
  issue : p.issue = none
  quantity_eq : p.quantity = some quantity
  tenantId : Required p.tenantId
  eventId : Required p.eventId
  sku : Required p.sku
  locationId : Required p.locationId
  nonneg : 0 ≤ quantity
  positive : p.eventType = .sale → 0 < quantity

theorem projectionIssue_eq_none {eventType : EventType} {fields : List String}
    {quantity : Option ℤ} (h : projectionIssue eventType fields quantity = none) :
    ∃ n, quantity = some n ∧ 0 ≤ n ∧ (eventType = .sale → 0 < n) ∧ ∀ s ∈ fields, s ≠ "" := by
  cases quantity with
  | none => cases h
  | some n =>
    simp only [projectionIssue] at h
    by_cases hsale : eventType = .sale ∧ n ≤ 0
    · rw [if_pos hsale] at h
      cases h
    by_cases hstock : eventType = .stockUpdate ∧ n < 0
    · rw [if_neg hsale, if_pos hstock] at h
      cases h
    by_cases hall : fields.all (· ≠ "") = true
    · have hfields : ∀ s ∈ fields, s ≠ "" := by simpa using hall
      cases eventType with
      | stockUpdate =>
        have hn : ¬ n < 0 := fun hn => hstock ⟨rfl, hn⟩
        exact ⟨n, rfl, by omega, nofun, hfields⟩
      | sale =>
        have hn : ¬ n ≤ 0 := fun hn => hsale ⟨rfl, hn⟩
        exact ⟨n, rfl, by omega, fun _ => by omega, hfields⟩
    · rw [if_neg hsale, if_neg hstock, if_neg hall] at h
      cases h

variable {event : List (String × Value)}

/-- The identifying texts of a projection are stripped. -/
theorem stripped_of_projectionInput (h : projectionInput event = some p) :
    Stripped p.tenantId ∧ Stripped p.eventId ∧ Stripped p.sku ∧ Stripped p.locationId := by
  obtain ⟨eventType, -, rfl⟩ := Option.map_eq_some_iff.mp h
  exact ⟨stripped_strip _, stripped_strip _, stripped_strip _, stripped_strip _⟩

theorem accepted_of_projectionInput (h : projectionInput event = some p) (hissue : p.issue = none) :
    ∃ n, Accepted p n := by
  obtain ⟨htenant, hevent, hsku, hlocation⟩ := stripped_of_projectionInput h
  obtain ⟨n, hn, hnonneg, hpositive, hfields⟩ := projectionIssue_eq_none (p.issue_eq ▸ hissue)
  exact ⟨n, hissue, hn, ⟨htenant, hfields _ (by simp)⟩, ⟨hevent, hfields _ (by simp)⟩,
    ⟨hsku, hfields _ (by simp)⟩, ⟨hlocation, hfields _ (by simp)⟩, hnonneg, hpositive⟩

theorem toInt_orElse_int (n : ℤ) : ((Value.int n).orElse (.int 0)).toInt = .ok n := by
  by_cases h : n = 0
  · subst h
    rfl
  · simp [Value.orElse, Value.truthy, h, Value.toInt]

/-! ## Stock updates -/

variable {quantity : ℤ}

/-- What `_position` makes of the fields of a stock update, when it accepts them. -/
theorem position_stockFields {new : Position} (hp : Accepted p quantity)
    (h : position now (stockFields p quantity) = .ok new) :
    new.isAt p.tenantId p.sku p.locationId = true ∧ new.quantity = quantity := by
  have hf := position_inv h
  have htenant : requiredField (stockFields p quantity) "tenant_id" = .ok ⟨_, hp.tenantId⟩ :=
    requiredField_eq (by simp [Value.get, stockFields, Dict.lookup])
  have hsku : requiredField (stockFields p quantity) "sku" = .ok ⟨_, hp.sku⟩ :=
    requiredField_eq (by simp [Value.get, stockFields, Dict.lookup])
  have hlocation : requiredField (stockFields p quantity) "location_id" = .ok ⟨_, hp.locationId⟩ :=
    requiredField_eq (by simp [Value.get, stockFields, Dict.lookup])
  have hquantity : Value.get (stockFields p quantity) "quantity" = .int quantity := by
    simp [Value.get, stockFields, Dict.lookup]
  have hn := hf.quantity
  rw [hquantity, toInt_orElse_int] at hn
  refine ⟨isAt_iff.mpr ⟨?_, ?_, ?_⟩, (Except.ok.inj hn).symm⟩
  · rw [← Except.ok.inj (htenant.symm.trans hf.tenantId)]
  · rw [← Except.ok.inj (hsku.symm.trans hf.sku)]
  · rw [← Except.ok.inj (hlocation.symm.trans hf.locationId)]

/-! ## Sales -/

/-- The position a sale writes back differs from the one it read in quantity, bin, state, source
and time only. -/
theorem position_saleFields (now : String) (hp : Required p.eventId) (current : Position)
    {after : ℤ} (hafter : 0 ≤ after) :
    ∃ new, position now (saleFields now p current after) = .ok new ∧ new.quantity = after ∧
      new.tenantId = current.tenantId ∧ new.sku = current.sku ∧
      new.locationType = current.locationType ∧ new.locationId = current.locationId := by
  have hstate : Required (if after = 0 then "depleted" else current.state.1) := by
    split
    · decide +kernel
    · exact current.state.2
  let new : Position :=
    { current with
      binId := strip ((Value.str current.binId).orElse (.str "unassigned")).toText
      quantity := after
      quantity_nonneg := hafter
      state := ⟨_, hstate⟩
      sourceReference := ⟨p.eventId, hp⟩
      updatedAt := ((Value.str now).orElse (.str now)).toText }
  have hf : FromFields now (saleFields now p current after) new :=
    { tenantId := requiredField_eq (by simp [Value.get, saleFields, Dict.lookup, new])
      sku := requiredField_eq (by simp [Value.get, saleFields, Dict.lookup, new])
      locationType := requiredField_eq (by simp [Value.get, saleFields, Dict.lookup, new])
      locationId := requiredField_eq (by simp [Value.get, saleFields, Dict.lookup, new])
      state := requiredField_eq (by simp [Value.get, saleFields, Dict.lookup, new])
      sourceReference := requiredField_eq (by simp [Value.get, saleFields, Dict.lookup, new])
      binId := by simp [Value.get, saleFields, Dict.lookup, new]
      quantity := by
        have hq : Value.get (saleFields now p current after) "quantity" = .int after := by
          simp [Value.get, saleFields, Dict.lookup]
        rw [hq, toInt_orElse_int]
      updatedAt := by simp [Value.get, saleFields, Dict.lookup, new] }
  exact ⟨new, position_of_fields hf, rfl, rfl, rfl, rfl, rfl⟩

/-- What the loop of a sale does over `keys`, started with `remaining` to deduct: it deducts what
is there, and what is left over is what the keys do not hold. -/
structure SaleRun (p : Projection) (keys : List PositionKey) (before : Positions) (remaining : ℤ)
    (after : Positions) (left : ℤ) : Prop where
  left_eq : left = max 0 (remaining - (keys.map (quantityAt before)).sum)
  stock : stockAt after p.tenantId p.sku p.locationId
    = stockAt before p.tenantId p.sku p.locationId - (remaining - left)
  elsewhere : Elsewhere before after p.tenantId p.sku p.locationId
  keyed : Keyed after

variable {keys : List PositionKey}

theorem map_quantityAt_set (hk : k ∉ keys) (q : Position) :
    keys.map (quantityAt (positions.set k q)) = keys.map (quantityAt positions) := by
  refine List.map_congr_left ?_
  intro k' hk'
  have hne : k ≠ k' := fun he => hk (he ▸ hk')
  rw [quantityAt, quantityAt, Dict.get?_set_ne positions hne]

/-- The loop of `_apply_sale_projection` never raises over distinct keys that match. -/
theorem saleLoop_spec (now : String) (hp : Required p.eventId) (hnodup : keys.Nodup)
    (hkeyed : Keyed positions)
    (hmatch : ∀ k ∈ keys, ∃ q, positions.get? k = some q ∧ q.isAt p.tenantId p.sku p.locationId = true)
    {remaining : ℤ} (hremaining : 0 ≤ remaining) (updated : ℕ) :
    ∃ after left count, saleLoop now p keys positions remaining updated = (after, .ok (left, count)) ∧
      SaleRun p keys positions remaining after left := by
  induction keys generalizing positions remaining updated with
  | nil =>
    refine ⟨positions, remaining, updated, rfl, ?_, ?_, elsewhere_refl _ _ _ _, hkeyed⟩
    · simp [hremaining]
    · ring
  | cons k rest ih =>
    obtain ⟨hk, hrest⟩ := List.nodup_cons.mp hnodup
    obtain ⟨current, hget, hat⟩ := hmatch k List.mem_cons_self
    have hquantity : quantityAt positions k = current.quantity := by
      rw [quantityAt, hget, Option.map_some, Option.getD_some]
    have hsum := sum_quantityAt_nonneg positions rest
    have hcurrent := current.quantity_nonneg
    rw [saleLoop]
    by_cases hdone : remaining ≤ 0
    · -- the sale is served before the loop reaches this key
      rw [if_pos hdone]
      refine ⟨positions, remaining, updated, rfl, ?_, ?_, elsewhere_refl _ _ _ _, hkeyed⟩
      · rw [List.map_cons, List.sum_cons, hquantity]
        omega
      · ring
    rw [if_neg hdone, hget]
    simp only
    by_cases hempty : min current.quantity remaining ≤ 0
    · -- an empty bin is skipped
      rw [if_pos hempty]
      obtain ⟨after, left, count, hrun, hspec⟩ := ih hrest hkeyed
        (fun k' hk' => hmatch k' (List.mem_cons_of_mem k hk')) hremaining updated
      refine ⟨after, left, count, hrun, ?_, hspec.stock, hspec.elsewhere, hspec.keyed⟩
      rw [List.map_cons, List.sum_cons, hquantity, hspec.left_eq]
      omega
    rw [if_neg hempty]
    have hafter : 0 ≤ current.quantity - min current.quantity remaining := by omega
    obtain ⟨new, hnew, hnewq, ht, hs, hlt, hl⟩ := position_saleFields now hp current hafter
    rw [hnew]
    simp only
    have hnames : Names k new := by
      have hn := hkeyed k current hget
      exact ⟨ht ▸ hn.tenantId, hs ▸ hn.sku, hlt ▸ hn.locationType, hl ▸ hn.locationId⟩
    have hnewat : new.isAt p.tenantId p.sku p.locationId = true := by
      rw [hnames.isAt_eq (hkeyed k current hget), hat]
    -- the bins still to come are untouched by the write under `k`
    obtain ⟨after, left, count, hrun, hspec⟩ := ih hrest (keyed_set hkeyed hnames)
      (fun k' hk' => by
        have hne : k ≠ k' := fun he => hk (he ▸ hk')
        rw [Dict.get?_set_ne positions hne]
        exact hmatch k' (List.mem_cons_of_mem k hk'))
      (show 0 ≤ remaining - min current.quantity remaining by omega) (updated + 1)
    have hleft := hspec.left_eq
    rw [map_quantityAt_set hk] at hleft
    refine ⟨after, left, count, hrun, ?_, ?_,
      (elsewhere_set hkeyed hnames hnewat).trans hspec.elsewhere, hspec.keyed⟩
    · rw [List.map_cons, List.sum_cons, hquantity, hleft]
      omega
    · rw [hspec.stock, stockAt_set hkeyed hnames, if_pos hnewat, hnewq, hquantity]
      ring

/-! ## Receipts -/

/-- A receipt accounts for the change from one ledger to the next: it states the stock before and
after, a sale takes away what it could serve, and every other position is where it was. -/
structure Accounts (before after : Positions) (r : Receipt) : Prop where
  before_quantity : r.beforeQuantity = some (stockAt before r.tenantId r.sku r.locationId)
  after_quantity : r.afterQuantity = some (stockAt after r.tenantId r.sku r.locationId)
  sale : r.eventType = .sale → ∃ requested, r.requestedQuantity = some requested ∧
    stockAt before r.tenantId r.sku r.locationId - stockAt after r.tenantId r.sku r.locationId
      = requested - r.unfulfilledQuantity ∧
    r.unfulfilledQuantity = max 0 (requested - stockAt before r.tenantId r.sku r.locationId)
  elsewhere : Elsewhere before after r.tenantId r.sku r.locationId

/-- The statuses of a receipt for an event that could not be applied. -/
def Status.isIssue : Status → Bool
  | .issue _ => true
  | _ => false

/-- The receipt is about the event. -/
structure ReceiptFor (p : Projection) (r : Receipt) : Prop where
  tenantId : r.tenantId = p.tenantId
  eventId : r.eventId = p.eventId
  eventType : r.eventType = p.eventType
  sku : r.sku = p.sku
  locationId : r.locationId = p.locationId
  requestedQuantity : r.requestedQuantity = p.quantity

theorem receiptFor_projectionReceipt (now : String) (p : Projection) (status : Status)
    (before after : Option ℤ) (unfulfilled : ℤ) (updated : ℕ) :
    ReceiptFor p (projectionReceipt now p status before after unfulfilled updated) :=
  ⟨rfl, rfl, rfl, rfl, rfl, rfl⟩

/-- What applying an accepted event comes to when it does not raise. -/
structure Applied (p : Projection) (before after : Positions) (r : Receipt) : Prop where
  receiptFor : ReceiptFor p r
  status : r.status.isIssue = false ∧ r.status ≠ .duplicate
  accounts : Accounts before after r
  keyed : Keyed after

theorem applyStockProjection_spec (now : String) (hkeyed : Keyed positions)
    (hp : Accepted p quantity) (htype : p.eventType = .stockUpdate) :
    (∃ e, applyStockProjection now positions p quantity
        (stockAt positions p.tenantId p.sku p.locationId) = (positions, .error e)) ∨
      ∃ after r, applyStockProjection now positions p quantity
        (stockAt positions p.tenantId p.sku p.locationId) = (after, .ok r) ∧
        Applied p positions after r := by
  unfold applyStockProjection
  cases hnew : position now (stockFields p quantity) with
  | error e => exact .inl ⟨e, rfl⟩
  | ok new =>
    obtain ⟨hat, hquantity⟩ := position_stockFields hp hnew
    refine .inr ⟨_, _, rfl, receiptFor_projectionReceipt .., ⟨rfl, nofun⟩, ⟨rfl, ?_, ?_, ?_⟩,
      keyed_set hkeyed (names_key new)⟩
    · change some _ = some (stockAt (positions.set (key new) new) p.tenantId p.sku p.locationId)
      rw [stockAt_set hkeyed (names_key new), if_pos hat, hquantity]
      congr 1
      ring
    · intro hsale
      rw [show p.eventType = .sale from hsale] at htype
      cases htype
    · exact elsewhere_set hkeyed (names_key new) hat

theorem applySaleProjection_spec (now : String) (hkeyed : Keyed positions)
    (hp : Accepted p quantity) :
    ∃ after r, applySaleProjection now positions p quantity (matchingKeys positions p)
        (stockAt positions p.tenantId p.sku p.locationId) = (after, .ok r) ∧
        Applied p positions after r := by
  unfold applySaleProjection
  by_cases hnone : matchingKeys positions p = []
  · rw [if_pos hnone]
    have hzero : stockAt positions p.tenantId p.sku p.locationId = 0 := by
      rw [← sum_matchingKeys, hnone]
      rfl
    refine ⟨_, _, rfl, receiptFor_projectionReceipt .., ⟨rfl, nofun⟩,
      ⟨by rw [← hzero]; rfl, by rw [← hzero]; rfl, ?_, elsewhere_refl _ _ _ _⟩, hkeyed⟩
    intro _
    refine ⟨quantity, hp.quantity_eq, ?_, ?_⟩
    · change _ - _ = quantity - quantity
      ring
    · change quantity = max 0 (quantity - stockAt positions p.tenantId p.sku p.locationId)
      rw [hzero, sub_zero, max_eq_right hp.nonneg]
  · rw [if_neg hnone]
    obtain ⟨after, left, count, hrun, hspec⟩ := saleLoop_spec now hp.eventId
      (nodup_matchingKeys positions p) hkeyed (fun k hk => mem_matchingKeys.mp hk) hp.nonneg 0
    rw [hrun]
    have hleft := hspec.left_eq
    rw [sum_matchingKeys] at hleft
    have hstock := hspec.stock
    refine ⟨_, _, rfl, receiptFor_projectionReceipt .., ?_, ⟨rfl, ?_, ?_, hspec.elsewhere⟩,
      hspec.keyed⟩
    · change (if left = 0 then Status.saleApplied else .salePartiallyApplied).isIssue = false ∧
        (if left = 0 then Status.saleApplied else .salePartiallyApplied) ≠ .duplicate
      split <;> exact ⟨rfl, nofun⟩
    · change some _ = some (stockAt after p.tenantId p.sku p.locationId)
      rw [hstock]
    · intro _
      refine ⟨quantity, hp.quantity_eq, ?_, hleft⟩
      change stockAt positions p.tenantId p.sku p.locationId
        - stockAt after p.tenantId p.sku p.locationId = quantity - left
      rw [hstock]
      ring

/-- Applying an accepted event raises without having written, or it accounts for what it wrote. -/
theorem applyProjection_spec (now : String) (hkeyed : Keyed positions) (hp : Accepted p quantity) :
    (∃ e, applyProjection now positions p = (positions, .error e)) ∨
      ∃ after r, applyProjection now positions p = (after, .ok r) ∧
        Applied p positions after r := by
  unfold applyProjection
  rw [hp.issue, hp.quantity_eq]
  simp only [sum_matchingKeys]
  cases htype : p.eventType with
  | stockUpdate => exact applyStockProjection_spec now hkeyed hp htype
  | sale => exact .inr (applySaleProjection_spec now hkeyed hp)

theorem applyProjection_issue {i : Issue} (h : p.issue = some i) : applyProjection now positions p
      = (positions, .ok (projectionReceipt now p (.issue i) none none 0 0)) := by
  unfold applyProjection
  rw [h]

end ShelfWise.Inventory
