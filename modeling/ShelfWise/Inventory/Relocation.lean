import ShelfWise.Inventory.Soundness

/-!
# Relocations

`_record_completed_inventory_movement` in `shelfwise_backend/app.py` records the completion of a
relocation as two absolute writes: the source position is set to nothing and the destination
position to the units moved. `relocation_conserves_iff` says for which ledgers that is a movement
of stock: the source position must hold exactly the units moved, and the destination position
nothing.
-/

namespace ShelfWise.Inventory

open Py Sys

/-! ## The movement -/

/-- The evidence a completed relocation carries. -/
structure Movement where
  tenantId : String
  sku : String
  source : String
  destination : String
  sourceReference : String
  units : ℤ
deriving DecidableEq

/-- The first half of `_record_completed_inventory_movement`: the evidence of a task, nothing for
an action of another type. -/
def movementOf (task : List (String × Value)) : Except Exc (Option Movement) :=
  let action := (Value.get task "action").items
  if (Value.get action "type").eq (.str "relocate_stock") then
    let params := (Value.get action "params").items
    let receipt := (Value.get task "completion_receipt").items
    let tenantId := ((Value.get task "tenant_id").orElse (.str "")).toText
    let sku := ((Value.get params "sku").orElse (.str "")).toText
    let source := ((Value.get params "observed_location").orElse (.str "")).toText
    let destination := ((Value.get params "expected_location").orElse (.str "")).toText
    let sourceReference := ((Value.get receipt "source_reference").orElse (.str "")).toText
    match ((Value.get receipt "completed_units").orElse (.int 0)).toInt with
    | .error e => .error e
    | .ok units =>
      if [tenantId, sku, source, destination, sourceReference].all (· ≠ "") then
        .ok (some { tenantId, sku, source, destination, sourceReference, units })
      else .error (.httpException 409 "Relocation receipt lacks position evidence")
  else .ok none

/-- `_physical_location_type`. -/
def physicalLocationType (locationId : String) : String :=
  (["backroom", "shelf", "quarantine", "returns", "bin"].find? fun locationType =>
    contains (lower locationId) locationType).getD "bin"

/-- The dictionary handed to `upsert` for one of the two positions. -/
def Movement.fields (m : Movement) (locationId : String) (quantity : ℤ) (state : String) :
    List (String × Value) :=
  [("tenant_id", .str m.tenantId), ("sku", .str m.sku),
    ("location_type", .str (physicalLocationType locationId)), ("location_id", .str locationId),
    ("quantity", .int quantity), ("state", .str state),
    ("source_reference", .str m.sourceReference)]

/-- `_record_completed_inventory_movement`. -/
def recordCompletedInventoryMovement (now : String) (s : Store) (task : List (String × Value)) :
    Store × Except Exc (List Position) :=
  match movementOf task with
  | .error e => (s, .error e)
  | .ok none => (s, .ok [])
  | .ok (some m) =>
    match s.upsert now (m.fields m.source 0 "relocated") with
    | (s₁, .error e) => (s₁, .error e)
    | (s₁, .ok source) =>
      match s₁.upsert now (m.fields m.destination m.units "available") with
      | (s₂, .error e) => (s₂, .error e)
      | (s₂, .ok destination) => (s₂, .ok [source, destination])

/-! ## What it writes -/

theorem required_physicalLocationType (locationId : String) :
    Required (physicalLocationType locationId) := by
  have hall : ∀ t ∈ ["backroom", "shelf", "quarantine", "returns", "bin"], Required t := by
    decide +kernel
  unfold physicalLocationType
  cases hfind : List.find? (fun locationType => contains (lower locationId) locationType)
      ["backroom", "shelf", "quarantine", "returns", "bin"] with
  | none => exact hall "bin" (by simp)
  | some t => exact hall t (List.mem_of_find?_eq_some hfind)

/-- What the callers make sure of: the event policy refuses blank or equal locations and a blank
SKU, and the completion body refuses negative units. -/
structure Movement.Valid (m : Movement) : Prop where
  tenantId : strip m.tenantId ≠ ""
  sku : strip m.sku ≠ ""
  source : strip m.source ≠ ""
  destination : strip m.destination ≠ ""
  distinct : strip m.source ≠ strip m.destination
  units : 0 ≤ m.units

/-- The key of the position a relocation writes at a location. -/
def Movement.keyAt (m : Movement) (locationId : String) : PositionKey :=
  ⟨strip m.tenantId, strip m.sku, physicalLocationType locationId, strip locationId, "unassigned"⟩

/-- What `_position` requires of the texts of a movement at a location. -/
structure Movement.WritesAt (m : Movement) (locationId : String) : Prop where
  tenantId : strip m.tenantId ≠ ""
  sku : strip m.sku ≠ ""
  locationId : strip locationId ≠ ""
  sourceReference : strip m.sourceReference ≠ ""

/-- The position that is written there. -/
def Movement.written (now : String) (m : Movement) {locationId : String} (h : m.WritesAt locationId)
    {quantity : ℤ} (hq : 0 ≤ quantity) {state : String} (hstate : Required state) : Position where
  tenantId := ⟨strip m.tenantId, stripped_strip _, h.tenantId⟩
  sku := ⟨strip m.sku, stripped_strip _, h.sku⟩
  locationType := ⟨physicalLocationType locationId, required_physicalLocationType locationId⟩
  locationId := ⟨strip locationId, stripped_strip _, h.locationId⟩
  binId := "unassigned"
  quantity := quantity
  quantity_nonneg := hq
  state := ⟨state, hstate⟩
  sourceReference := ⟨strip m.sourceReference, stripped_strip _, h.sourceReference⟩
  updatedAt := now

variable {m : Movement} {locationId : String} {quantity : ℤ}

theorem position_written (now : String) (h : m.WritesAt locationId) (hq : 0 ≤ quantity)
    {state : String} (hstate : Required state) :
    position now (m.fields locationId quantity state) = .ok (m.written now h hq hstate) := by
  refine position_of_fields ?_
  exact
    { tenantId := requiredField_str (by simp [Value.get, Movement.fields, Dict.lookup]) h.tenantId
      sku := requiredField_str (by simp [Value.get, Movement.fields, Dict.lookup]) h.sku
      locationType := requiredField_eq
        (by simp [Value.get, Movement.fields, Dict.lookup, Movement.written])
      locationId := requiredField_str (by simp [Value.get, Movement.fields, Dict.lookup])
        h.locationId
      state := requiredField_eq
        (by simp [Value.get, Movement.fields, Dict.lookup, Movement.written])
      sourceReference := requiredField_str (by simp [Value.get, Movement.fields, Dict.lookup])
        h.sourceReference
      binId := by
        have hget : Value.get (m.fields locationId quantity state) "bin_id" = .none := by
          simp [Value.get, Movement.fields, Dict.lookup]
        have hstrip : strip "unassigned" = "unassigned" := by decide +kernel
        rw [hget]
        exact hstrip.symm
      quantity := by
        have hget : Value.get (m.fields locationId quantity state) "quantity" = .int quantity := by
          simp [Value.get, Movement.fields, Dict.lookup]
        rw [hget, toInt_orElse_int]
        rfl
      updatedAt := by
        have hget : Value.get (m.fields locationId quantity state) "updated_at" = .none := by
          simp [Value.get, Movement.fields, Dict.lookup]
        rw [hget]
        exact (Value.toText_str now).symm }

/-- A relocation with a source reference writes the position it means to. -/
theorem position_fields (now : String) (hm : m.Valid) (href : strip m.sourceReference ≠ "")
    (hloc : strip locationId ≠ "") (hq : 0 ≤ quantity) (state : String) (hstate : Required state) :
    ∃ p, position now (m.fields locationId quantity state) = .ok p ∧ key p = m.keyAt locationId ∧
      p.quantity = quantity :=
  ⟨_, position_written now ⟨hm.tenantId, hm.sku, hloc, href⟩ hq hstate, rfl, rfl⟩

/-- A required field that was accepted was not blank. -/
theorem strip_ne_of_requiredField {value : List (String × Value)} {field s : String}
    {t : RequiredText} (hget : Value.get value field = .str s)
    (h : requiredField value field = .ok t) : strip s ≠ "" := by
  have htext := requiredField_inv h
  have hself : ((Value.str s).orElse (.str "")).toText = s := by
    by_cases hs : s = ""
    · rw [hs]
      rfl
    · rw [orElse_str hs, Value.toText_str]
  rw [hget, hself] at htext
  rw [← htext]
  exact t.2.2

/-- What was written could be written. -/
theorem writesAt_of_position {now : String} {state : String} {p : Position}
    (h : position now (m.fields locationId quantity state) = .ok p) :
    m.WritesAt locationId ∧ 0 ≤ quantity := by
  have hfields := position_inv h
  refine ⟨⟨?_, ?_, ?_, ?_⟩, ?_⟩
  · exact strip_ne_of_requiredField (by simp [Value.get, Movement.fields, Dict.lookup])
      hfields.tenantId
  · exact strip_ne_of_requiredField (by simp [Value.get, Movement.fields, Dict.lookup]) hfields.sku
  · exact strip_ne_of_requiredField (by simp [Value.get, Movement.fields, Dict.lookup])
      hfields.locationId
  · exact strip_ne_of_requiredField (by simp [Value.get, Movement.fields, Dict.lookup])
      hfields.sourceReference
  · have hget : Value.get (m.fields locationId quantity state) "quantity" = .int quantity := by
      simp [Value.get, Movement.fields, Dict.lookup]
    have hquantity := hfields.quantity
    rw [hget, toInt_orElse_int] at hquantity
    cases hquantity
    exact p.quantity_nonneg

/-- What cannot be written is refused. -/
theorem position_error (h : ¬ (m.WritesAt locationId ∧ 0 ≤ quantity)) (now state : String) :
    ∃ e, position now (m.fields locationId quantity state) = .error e := by
  cases hp : position now (m.fields locationId quantity state) with
  | error e => exact ⟨e, rfl⟩
  | ok p => exact absurd (writesAt_of_position hp) h

theorem record_of_blank (now : String) (s : Store) {task : List (String × Value)}
    (htask : movementOf task = .ok (some m)) (href : strip m.sourceReference = "") :
    (recordCompletedInventoryMovement now s task).1 = s := by
  have hblank : ¬ (m.WritesAt m.source ∧ (0 : ℤ) ≤ 0) := fun h => h.1.sourceReference href
  obtain ⟨e, he⟩ := position_error hblank now "relocated"
  simp only [recordCompletedInventoryMovement, htask, Store.upsert, he]

/-- The ledger after a relocation: the two writes. -/
theorem record_positions (now : String) (s : Store) {task : List (String × Value)}
    (htask : movementOf task = .ok (some m)) (hm : m.Valid) (href : strip m.sourceReference ≠ "") :
    ∃ emptied filled : Position, key emptied = m.keyAt m.source ∧ emptied.quantity = 0 ∧
      key filled = m.keyAt m.destination ∧ filled.quantity = m.units ∧
      (recordCompletedInventoryMovement now s task).1.positions
        = (s.positions.set (key emptied) emptied).set (key filled) filled := by
  obtain ⟨emptied, hemptied, hkey, hq⟩ := position_fields now hm href hm.source (le_refl 0)
    "relocated" (by decide +kernel)
  obtain ⟨filled, hfilled, hkey', hq'⟩ := position_fields now hm href hm.destination hm.units
    "available" (by decide +kernel)
  refine ⟨emptied, filled, hkey, hq, hkey', hq', ?_⟩
  simp only [recordCompletedInventoryMovement, htask, Store.upsert, hemptied, hfilled]

/-! ## Conservation -/

/-- The position belongs to this tenant and SKU. -/
def Position.isOf (p : Position) (tenantId sku : String) : Bool :=
  p.tenantId.1 = tenantId ∧ p.sku.1 = sku

/-- The sum of the quantities of a SKU over all positions of a tenant. -/
def stockOf (positions : Positions) (tenantId sku : String) : ℤ :=
  totalWhere (fun p => p.isOf tenantId sku) positions

theorem isOf_iff {p : Position} {tenantId sku : String} :
    p.isOf tenantId sku = true ↔ p.tenantId.1 = tenantId ∧ p.sku.1 = sku := by
  simp [Position.isOf]

theorem byName_isOf (tenantId sku : String) : ByName fun p => p.isOf tenantId sku := by
  intro k p q hp hq
  rw [Bool.eq_iff_iff, isOf_iff, isOf_iff, ← hp.tenantId, ← hp.sku, hq.tenantId, hq.sku]

/-- The units moved from the source to the destination, and nothing else changed. -/
structure Moved (m : Movement) (before after : Positions) : Prop where
  total : stockOf after (strip m.tenantId) (strip m.sku)
    = stockOf before (strip m.tenantId) (strip m.sku)
  source : stockAt after (strip m.tenantId) (strip m.sku) (strip m.source)
    = stockAt before (strip m.tenantId) (strip m.sku) (strip m.source) - m.units
  destination : stockAt after (strip m.tenantId) (strip m.sku) (strip m.destination)
    = stockAt before (strip m.tenantId) (strip m.sku) (strip m.destination) + m.units
  elsewhere : ∀ k, k ≠ m.keyAt m.source → k ≠ m.keyAt m.destination →
    after.get? k = before.get? k

/-- When the two writes of a relocation move stock: nothing is written for a blank source
reference; else the source position must hold the units moved and the destination nothing. -/
def Movement.Fits (m : Movement) (positions : Positions) : Prop :=
  if strip m.sourceReference = "" then m.units = 0
  else quantityAt positions (m.keyAt m.source) = m.units ∧
    quantityAt positions (m.keyAt m.destination) = 0

instance (m : Movement) (positions : Positions) : Decidable (m.Fits positions) :=
  inferInstanceAs (Decidable (ite _ _ _))

theorem moved_refl_iff (positions : Positions) : Moved m positions positions ↔ m.units = 0 := by
  constructor
  · intro h
    have := h.source
    omega
  · intro h
    exact ⟨rfl, by omega, by omega, fun _ _ _ => rfl⟩

/-- The two writes change each total by what the written positions held before. -/
theorem totalWhere_writes {P : Position → Bool} (hP : ByName P) {positions : Positions}
    (hk : Keyed positions) {p q : Position} (hne : key p ≠ key q) :
    totalWhere P ((positions.set (key p) p).set (key q) q)
      = totalWhere P positions + (if P p then p.quantity - quantityAt positions (key p) else 0)
        + if P q then q.quantity - quantityAt positions (key q) else 0 := by
  have hq : quantityAt (positions.set (key p) p) (key q) = quantityAt positions (key q) := by
    rw [quantityAt, quantityAt, Dict.get?_set_ne positions hne]
  rw [totalWhere_set hP (keyed_set hk (names_key p)) (names_key q), hq,
    totalWhere_set hP hk (names_key p)]

theorem moved_writes_iff (hm : m.Valid) {positions : Positions} (hk : Keyed positions)
    {emptied filled : Position} (hke : key emptied = m.keyAt m.source) (hqe : emptied.quantity = 0)
    (hkf : key filled = m.keyAt m.destination) (hqf : filled.quantity = m.units) :
    Moved m positions ((positions.set (key emptied) emptied).set (key filled) filled) ↔
      quantityAt positions (m.keyAt m.source) = m.units ∧
        quantityAt positions (m.keyAt m.destination) = 0 := by
  obtain ⟨het, hes, -, hel, -⟩ := PositionKey.mk.inj hke
  obtain ⟨hft, hfs, -, hfl, -⟩ := PositionKey.mk.inj hkf
  have hne : key emptied ≠ key filled := by
    intro h
    exact hm.distinct (by rw [← hel, ← hfl]; exact congrArg PositionKey.locationId h)
  have hof : ∀ p : Position, p.tenantId.1 = strip m.tenantId → p.sku.1 = strip m.sku →
      p.isOf (strip m.tenantId) (strip m.sku) = true := fun p ht hs => isOf_iff.mpr ⟨ht, hs⟩
  -- each written position counts at its own location only
  have hee : emptied.isAt (strip m.tenantId) (strip m.sku) (strip m.source) = true :=
    isAt_iff.mpr ⟨het, hes, hel⟩
  have hff : filled.isAt (strip m.tenantId) (strip m.sku) (strip m.destination) = true :=
    isAt_iff.mpr ⟨hft, hfs, hfl⟩
  have hef : emptied.isAt (strip m.tenantId) (strip m.sku) (strip m.destination) = false := by
    rw [Bool.eq_false_iff, ne_eq, isAt_iff]
    exact fun h => hm.distinct (hel ▸ h.2.2)
  have hfe : filled.isAt (strip m.tenantId) (strip m.sku) (strip m.source) = false := by
    rw [Bool.eq_false_iff, ne_eq, isAt_iff]
    exact fun h => hm.distinct (hfl ▸ h.2.2).symm
  have htotal := totalWhere_writes (byName_isOf (strip m.tenantId) (strip m.sku)) hk hne
  have hsource := totalWhere_writes (byName_isAt (strip m.tenantId) (strip m.sku)
    (strip m.source)) hk hne
  have hdestination := totalWhere_writes (byName_isAt (strip m.tenantId) (strip m.sku)
    (strip m.destination)) hk hne
  simp only [hof emptied het hes, hof filled hft hfs, if_true, hqe, hqf, hke, hkf] at htotal
  simp only [hee, hfe, if_true, Bool.false_eq_true, if_false, hqe, hke, hkf] at hsource
  simp only [hef, hff, if_true, Bool.false_eq_true, if_false, hqf, hke, hkf] at hdestination
  rw [hke, hkf]
  constructor
  · intro h
    have h₁ := h.source
    have h₂ := h.destination
    unfold stockAt at h₁ h₂
    constructor <;> omega
  · rintro ⟨h₁, h₂⟩
    refine ⟨?_, ?_, ?_, ?_⟩
    · unfold stockOf
      omega
    · unfold stockAt
      omega
    · unfold stockAt
      omega
    · intro k hks hkd
      rw [Dict.get?_set_ne _ (Ne.symm hkd), Dict.get?_set_ne _ (Ne.symm hks)]

/-- A completed relocation moves stock exactly when it fits the ledger it is recorded in. -/
theorem relocation_moves_iff (calls : List Call) (now : String) (task : List (String × Value))
    (m : Movement) (htask : movementOf task = .ok (some m)) (hm : m.Valid) :
    Moved m (final Store.step .empty calls).positions
        (recordCompletedInventoryMovement now (final Store.step .empty calls) task).1.positions ↔
      m.Fits (final Store.step .empty calls).positions := by
  have hk : Keyed (final Store.step .empty calls).positions :=
    invariant_final (I := fun s : Store => Keyed s.positions) keyed_step keyed_empty calls
  generalize final Store.step .empty calls = s at hk ⊢
  unfold Movement.Fits
  by_cases href : strip m.sourceReference = ""
  · rw [record_of_blank now s htask href, if_pos href, moved_refl_iff]
  · obtain ⟨emptied, filled, hke, hqe, hkf, hqf, hrec⟩ := record_positions now s htask hm href
    rw [hrec, if_neg href, moved_writes_iff hm hk hke hqe hkf hqf]

/-- A completed relocation task of five units. -/
def relocationTask : List (String × Value) :=
  [("tenant_id", .str "store_a"),
    ("action", .dict [("type", .str "relocate_stock"),
      ("params", .dict [("sku", .str "4011"), ("observed_location", .str "backroom_b"),
        ("expected_location", .str "shelf_a")])]),
    ("completion_receipt", .dict [("source_reference", .str "MOVE-4011-001"),
      ("completed_units", .int 5)])]

/-- The evidence of `relocationTask`. -/
def relocationEvidence : Movement :=
  ⟨"store_a", "4011", "backroom_b", "shelf_a", "MOVE-4011-001", 5⟩

theorem relocationEvidence_valid : relocationEvidence.Valid :=
  ⟨by decide +kernel, by decide +kernel, by decide +kernel, by decide +kernel, by decide +kernel,
    by decide⟩

/-- The call that records a quantity in the backroom. -/
def backroomCall (quantity : ℤ) : Call :=
  .upsert "t0" (relocationEvidence.fields "backroom_b" quantity "available")

theorem relocation_moves_iff_exact_stock :
    Moved relocationEvidence (final Store.step .empty [backroomCall 5]).positions
      (recordCompletedInventoryMovement "t1" (final Store.step .empty [backroomCall 5])
        relocationTask).1.positions :=
  (relocation_moves_iff [backroomCall 5] "t1" relocationTask relocationEvidence (by decide +kernel)
    relocationEvidence_valid).mpr (by decide +kernel)

/-- Five of ten units are moved: the other five are lost. -/
theorem relocation_loses_stock :
    ¬ ∀ (calls : List Call) (now : String) (task : List (String × Value)) (m : Movement),
      movementOf task = .ok (some m) → m.Valid →
      m.units ≤ stockAt (final Store.step .empty calls).positions (strip m.tenantId)
        (strip m.sku) (strip m.source) →
      Moved m (final Store.step .empty calls).positions
        (recordCompletedInventoryMovement now (final Store.step .empty calls)
          task).1.positions := by
  intro h
  have hmoved := h [backroomCall 10] "t1" relocationTask relocationEvidence (by decide +kernel)
    relocationEvidence_valid (by decide +kernel)
  exact absurd hmoved.total (by decide +kernel)

end ShelfWise.Inventory
