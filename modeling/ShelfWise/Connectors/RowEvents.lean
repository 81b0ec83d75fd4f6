import ShelfWise.Connectors.Normalize

/-!
# When a record becomes an event

`record_to_event` keeps quiet about a record whose payload it cannot read. A sale whose price was
made by `Money.zar` and whose time reads back becomes an event exactly when its quantity can be
printed and read again (`recordToEvent_sale_iff`), and an expiry entry on the same condition
(`recordToEvent_expiry_iff`).
-/

namespace Py

namespace Decimal

/-- What is read from a text can be held. -/
theorem inRange_of_ofText {s : String} {d : Decimal} (h : ofText s = some d) : d.InRange := by
  obtain ⟨cs, -, hread⟩ := Option.bind_eq_some_iff.mp h
  unfold readSigned at hread
  dsimp only at hread
  split at hread
  · rename_i d' hnumber
    cases hread
    unfold readNumber at hnumber
    dsimp only at hnumber
    split at hnumber
    · cases hnumber
    · obtain ⟨e, -, hguard⟩ := Option.bind_eq_some_iff.mp hnumber
      split at hguard
      · cases hguard
        assumption
      · cases hguard
  · unfold readSpecial at hread
    dsimp only at hread
    split at hread
    · cases hread
      trivial
    · split at hread
      · cases hread
        trivial
      · split at hread
        · cases hread
          trivial
        · cases hread

/-- A finite decimal that was read is read back from its text. -/
theorem ofText_str_of_ofText {s : String} {d : Decimal} (h : ofText s = some d)
    (hfinite : d.isFinite = true) : ofText d.str = some d := by
  cases d with
  | finite negative coefficient exponent => exact ofText_str (inRange_of_ofText h)
  | infinity negative => cases hfinite
  | nan negative signalling payload => cases hfinite

/-- The text of an integer is that of a decimal. -/
theorem toString_eq_str (n : ℤ) : toString n = (finite (n < 0) n.natAbs 0).str := by
  have hdigits : ∀ k : ℕ, finiteText (Nat.toDigits 10 k) 0 = Nat.toDigits 10 k := by
    intro k
    have hpos : 0 < (Nat.toDigits 10 k).length := Nat.length_toDigits_pos
    unfold finiteText
    dsimp only
    rw [if_pos ⟨le_refl 0, by omega⟩, if_neg (by omega), if_pos rfl]
  refine String.toList_injective ?_
  rw [str, String.toList_ofList, chars, hdigits]
  cases n with
  | ofNat k =>
    rw [decide_eq_false (by simp)]
    change (Nat.repr k).toList = _
    rw [Nat.repr_eq_ofList_toDigits, String.toList_ofList]
    rfl
  | negSucc k =>
    rw [decide_eq_true (Int.negSucc_lt_zero k)]
    show ("-" ++ Nat.repr (k + 1)).toList = _
    rw [Nat.repr_eq_ofList_toDigits, String.toList_append, String.toList_ofList,
      String.toList_ofList, if_pos rfl]
    rfl

/-- A number that can be printed is read back. -/
theorem printed_int {n : ℤ} (h : (Nat.toDigits 10 n.natAbs).length ≤ Value.maxStrDigits) :
    Value.printInt n = .ok (toString n) ∧
      ofText (toString n) = some (finite (n < 0) n.natAbs 0) := by
  have hlimit : Value.maxStrDigits = 4300 := rfl
  refine ⟨?_, ?_⟩
  · unfold Value.printInt
    rw [if_neg (by omega)]
  · rw [toString_eq_str]
    refine ofText_str ⟨by decide, ?_⟩
    unfold maxEmax
    omega

/-- The decimal of an integer is integral, and it is the integer. -/
theorem truncate_int (n : ℤ) :
    (finite (n < 0) n.natAbs 0).isIntegral = true ∧ (finite (n < 0) n.natAbs 0).truncate = n := by
  refine ⟨rfl, ?_⟩
  unfold truncate
  dsimp only
  rw [if_pos (le_refl 0), Int.toNat_zero, pow_zero, mul_one]
  split <;> rename_i h <;> simp only [decide_eq_true_eq] at h <;> omega

/-- Units that are quantized to an integer fit into the context. -/
theorem natAbs_lt_of_quantize {mode : Rounding} {d e : Decimal} {n : ℤ}
    (h : d.quantize mode 0 = .ok e) (hn : e.toInt = .ok n) : n.natAbs < 10 ^ precision := by
  cases d with
  | infinity negative => cases h
  | nan negative signalling payload =>
    unfold quantize at h
    dsimp only at h
    split at h
    · cases h
    · cases h
      cases hn
  | finite negative coefficient exponent =>
    unfold quantize at h
    dsimp only at h
    split at h
    · rename_i hunits
      cases h
      cases hn
      cases negative with
      | false => simpa [truncate] using hunits
      | true => simpa [truncate] using hunits
    · cases h

end Decimal

end Py

namespace ShelfWise.Connectors

open Py

/-! ## Money -/

/-- An integer that can be printed is read back as a decimal. -/
theorem read_printed_int {n : ℤ} (h : (Nat.toDigits 10 n.natAbs).length ≤ Value.maxStrDigits) :
    (printed (.int n)).toOption.bind Decimal.ofText = some (.finite (n < 0) n.natAbs 0) := by
  obtain ⟨hprinted, hread⟩ := Decimal.printed_int h
  have htext : printed (.int n) = .ok (toString n) := hprinted
  rw [htext]
  exact hread

/-- The minor units of a price fit into the context. -/
theorem minorUnits_of_zar {rand : Value} {money : Money} (h : Money.zar rand = .ok money) :
    money.minorUnits.natAbs < 10 ^ Decimal.precision ∧ money.currency = "ZAR" := by
  unfold Money.zar at h
  obtain ⟨text, -, h⟩ := bind_eq_ok_iff.mp h
  split at h
  · cases h
  · obtain ⟨hundredfold, -, h⟩ := bind_eq_ok_iff.mp h
    obtain ⟨cents, hcents, h⟩ := bind_eq_ok_iff.mp h
    obtain ⟨minorUnits, hminor, h⟩ := bind_eq_ok_iff.mp h
    cases h
    exact ⟨Decimal.natAbs_lt_of_quantize hcents hminor, rfl⟩

/-- A price that was made by `Money.zar` is read back from its dictionary. -/
theorem unitPriceMoney_of_zar {rand : Value} {money : Money} (h : Money.zar rand = .ok money)
    {price : List (String × Value)} (hminor : Value.get price "minor_units" = .int money.minorUnits)
    (hcurrency : Value.get price "currency" = .str "ZAR") :
    unitPriceMoney (.dict price) = .ok money := by
  obtain ⟨hbound, hzar⟩ := minorUnits_of_zar h
  have hlength : (Nat.toDigits 10 money.minorUnits.natAbs).length ≤ Value.maxStrDigits := by
    have hprecision := (Nat.length_toDigits_le_iff (by norm_num) (by decide)).mpr hbound
    exact hprecision.trans (by decide)
  obtain ⟨hintegral, htruncate⟩ := Decimal.truncate_int money.minorUnits
  have hunits : minorUnitsOf (.int money.minorUnits) = .ok money.minorUnits := by
    unfold minorUnitsOf
    rw [read_printed_int hlength]
    dsimp only
    rw [if_pos ⟨rfl, hintegral⟩, htruncate]
  unfold unitPriceMoney
  dsimp only
  rw [hminor, if_neg (by simp), hunits, hcurrency]
  dsimp only
  rw [Value.orElse, if_pos (by decide), Value.toText_str, ← hzar]

/-- Such a price has an amount. -/
theorem amount_of_zar {rand : Value} {money : Money} (h : Money.zar rand = .ok money) :
    ∃ amount, money.amount = .ok amount := by
  obtain ⟨hbound, -⟩ := minorUnits_of_zar h
  have hlength : (Nat.toDigits 10 money.minorUnits.natAbs).length ≤ Decimal.precision :=
    (Nat.length_toDigits_le_iff (by norm_num) (by decide)).mpr hbound
  have hfix : Decimal.fix (money.minorUnits < 0) money.minorUnits.natAbs (-2) =
      .ok (.finite (money.minorUnits < 0) money.minorUnits.natAbs (-2)) := by
    unfold Decimal.fix
    by_cases hzero : money.minorUnits.natAbs = 0
    · rw [if_pos hzero, hzero]
      rfl
    · have hprecision : Decimal.precision = 28 := rfl
      have hetop : Decimal.etop = 999972 := rfl
      have hetiny : Decimal.etiny = -1000026 := rfl
      rw [if_neg hzero, if_neg (by omega), if_pos (by omega)]
  unfold Money.amount
  rw [hfix]
  change ∃ amount, Decimal.quantize .halfEven (-2) (.finite _ _ _) = .ok amount
  unfold Decimal.quantize Decimal.unitsOf
  dsimp only
  rw [if_pos (le_refl _), sub_self, Int.toNat_zero, pow_zero, mul_one, if_pos hbound]
  exact ⟨_, rfl⟩

/-! ## Quantities -/

/-- An integral quantity that can be printed is read back. -/
theorem quantityValue_int {n : ℤ} (hzero : n ≠ 0)
    (hlength : (Nat.toDigits 10 n.natAbs).length ≤ Value.maxStrDigits) :
    quantityValue (.int n) = .ok (.int n) := by
  have hself : (Value.int n).orElse (.str "0") = .int n :=
    if_pos (by simpa [Value.truthy] using hzero)
  obtain ⟨hintegral, htruncate⟩ := Decimal.truncate_int n
  unfold quantityValue
  rw [hself, read_printed_int hlength]
  dsimp only
  rw [if_pos hintegral, htruncate]

/-- An integral quantity is read back exactly when it can be printed. -/
theorem quantityValue_int_iff (n : ℤ) :
    (quantityValue (.int n)).isOk = true ↔
      (Nat.toDigits 10 n.natAbs).length ≤ Value.maxStrDigits := by
  by_cases hzero : n = 0
  · rw [hzero]
    exact iff_of_true (by decide +kernel) (by decide)
  · by_cases hlength : (Nat.toDigits 10 n.natAbs).length ≤ Value.maxStrDigits
    · rw [quantityValue_int hzero hlength]
      exact iff_of_true rfl hlength
    · have hself : (Value.int n).orElse (.str "0") = .int n :=
        if_pos (by simpa [Value.truthy] using hzero)
      unfold quantityValue
      rw [hself]
      have hprinted : ∃ e, printed (.int n) = .error e := ⟨_, if_pos (by omega)⟩
      obtain ⟨e, herror⟩ := hprinted
      rw [herror]
      dsimp only [Except.toOption, Option.bind]
      exact iff_of_false (by simp [Except.isOk, Except.toBool]) hlength

/-! ## Events -/

/-- A record with an actor, a tenant and a payload of its own domain becomes an event. -/
theorem eventOf_ok {record : InboundRecord} (type : EventType) (ts : Timestamp) {actor : String}
    (payload : List (String × Value)) (hactor : actor ≠ "") (htenant : record.tenantId ≠ "")
    (hdomain : checkPayloadDomain payload .operationalTwin = .ok ())
    (hsynthetic : ∀ key ∈ ["synthetic", "synthetic_probe"], Value.get payload key = .none) :
    ∃ event, eventOf record type ts actor payload = .ok event ∧
      BuiltFrom record type payload event := by
  have hid : eventIdOf record ≠ "" := by
    intro h
    have hlist := congrArg String.toList h
    simp [eventIdOf, String.toList_append] at hlist
  have hplain : ¬ (DataDomain.operationalTwin = .operationalTwin ∧
      (Value.get payload "synthetic" = .bool true ∨
        Value.get payload "synthetic_probe" = .bool true)) := by
    rw [hsynthetic "synthetic" (by simp), hsynthetic "synthetic_probe" (by simp)]
    rintro ⟨-, h | h⟩ <;> cases h
  have hbuilt : ∃ event, eventOf record type ts actor payload = .ok event := by
    unfold eventOf Event.build
    rw [dif_pos hid, dif_pos hactor, dif_pos htenant, hdomain]
    dsimp only
    rw [if_neg hplain]
    exact ⟨_, rfl⟩
  obtain ⟨event, hevent⟩ := hbuilt
  exact ⟨event, hevent, builtFrom_of_eventOf hevent⟩

/-- The payload of the event of a sale. -/
def salePayload (record : InboundRecord) (locationId : String) (quantity : Value) (unitPrice : Money)
    (amount : Decimal) : List (String × Value) :=
  let get := Value.get record.canonicalPayload
  [("sku", .str ((get "sku").orElse (.str "")).toText), ("location", .str locationId),
    ("location_id", .str locationId), ("quantity", quantity),
    ("unit_price", .str amount.str), ("unit_price_minor_units", .int unitPrice.minorUnits),
    ("unit_price_currency", .str unitPrice.currency),
    ("order_id", .str ((get "order_id").orElse (.str record.sourceObjectId)).toText),
    ("line_id", .str ((get "line_id").orElse (.str record.sourceObjectId)).toText),
    ("source_object_id", .str record.sourceObjectId),
    ("raw_payload_hash", .str record.payloadHash)]

/-- The payload of the event of an expiry entry. -/
def expiryPayload (record : InboundRecord) (sku : String) (locationId : String) (onHand : Value)
    (expiryDate : String) : List (String × Value) :=
  [("sku", .str sku), ("location", .str locationId), ("location_id", .str locationId),
    ("on_hand", onHand), ("expiry_date", .str expiryDate),
    ("source_object_id", .str record.sourceObjectId),
    ("raw_payload_hash", .str record.payloadHash)]

section

variable (fromIso : String → Option Timestamp) (record : InboundRecord)

/-- A sale with a price and a time becomes an event exactly when its quantity is read. -/
theorem recordToEvent_sale_iff (htype : record.canonicalType = "sales_line")
    (hvalid : record.validation.ok = true) (htenant : record.tenantId ≠ "") {locationId : String}
    (hlocation : ((Value.get record.canonicalPayload "location_id").orElse (.str "online")).toText =
      locationId) (hactor : locationId ≠ "") {price : Money}
    (hprice : unitPriceMoney (Value.get record.canonicalPayload "unit_price") = .ok price)
    {amount : Decimal} (hamount : price.amount = .ok amount) {ts : Timestamp}
    (hts : datetimeValue fromIso (Value.get record.canonicalPayload "sold_at") record.eventTime =
      .ok ts) :
    (∀ event, recordToEvent fromIso record = .ok (some event) → ∃ quantity,
      quantityValue (Value.get record.canonicalPayload "quantity") = .ok quantity) ∧
    ∀ quantity, quantityValue (Value.get record.canonicalPayload "quantity") = .ok quantity →
      ∃ event, recordToEvent fromIso record = .ok (some event) ∧
        BuiltFrom record .sale (salePayload record locationId quantity price amount) event := by
  have hrecord : recordToEvent fromIso record = orNoEvent false (salesLineToEvent fromIso record) := by
    unfold recordToEvent
    rw [if_neg (by simp [hvalid]), htype, if_neg (by decide), if_pos rfl]
  rw [hrecord]
  constructor
  · intro event hevent
    cases hquantity : quantityValue (Value.get record.canonicalPayload "quantity") with
    | ok quantity => exact ⟨quantity, rfl⟩
    | error e =>
      have hsale : salesLineToEvent fromIso record = .error e := by
        unfold salesLineToEvent
        simp only [hquantity, bind, Except.bind]
      rw [hsale, orNoEvent] at hevent
      split at hevent
      · cases hevent
      · cases hevent
  · intro quantity hquantity
    obtain ⟨event, hevent, hbuilt⟩ := eventOf_ok .sale ts
      (salePayload record locationId quantity price amount) hactor htenant rfl (by
        intro key hkey
        rcases List.mem_cons.mp hkey with rfl | hkey
        · rfl
        · rw [List.mem_singleton.mp hkey]
          rfl)
    have hsale : salesLineToEvent fromIso record = .ok event := by
      unfold salesLineToEvent
      simp only [hquantity, hprice, hts, hamount, hlocation, bind, Except.bind]
      exact hevent
    exact ⟨event, by rw [hsale]; rfl, hbuilt⟩

/-- An expiry entry with a product and a date becomes an event exactly when its quantity is read. -/
theorem recordToEvent_expiry_iff (htype : record.canonicalType = "expiry_entry")
    (hvalid : record.validation.ok = true) (htenant : record.tenantId ≠ "") {locationId : String}
    (hlocation : ((Value.get record.canonicalPayload "location_id").orElse (.str "")).toText =
      locationId) {sku expiryDate : Value} (hsku : requireKey record.canonicalPayload "sku" = .ok sku)
    (hdate : requireKey record.canonicalPayload "expiry_date" = .ok expiryDate) :
    (∀ event, recordToEvent fromIso record = .ok (some event) → ∃ quantity,
      quantityValue (Value.get record.canonicalPayload "quantity") = .ok quantity) ∧
    ∀ quantity, quantityValue (Value.get record.canonicalPayload "quantity") = .ok quantity →
      ∃ event, recordToEvent fromIso record = .ok (some event) ∧
        BuiltFrom record .expiryEntry
          (expiryPayload record sku.toText locationId quantity expiryDate.toText) event := by
  have hrecord : recordToEvent fromIso record = orNoEvent true (expiryToEvent record) := by
    unfold recordToEvent
    rw [if_neg (by simp [hvalid]), htype, if_neg (by decide), if_neg (by decide), if_pos rfl]
  rw [hrecord]
  constructor
  · intro event hevent
    cases hquantity : quantityValue (Value.get record.canonicalPayload "quantity") with
    | ok quantity => exact ⟨quantity, rfl⟩
    | error e =>
      have hexpiry : expiryToEvent record = .error e := by
        unfold expiryToEvent
        simp only [hquantity, hsku, bind, Except.bind]
      rw [hexpiry, orNoEvent] at hevent
      split at hevent
      · cases hevent
      · cases hevent
  · intro quantity hquantity
    have hactor : (if locationId = "" then record.sourceSystem.value else locationId) ≠ "" := by
      split
      · cases record.sourceSystem <;> decide
      · assumption
    obtain ⟨event, hevent, hbuilt⟩ := eventOf_ok .expiryEntry record.eventTime
      (expiryPayload record sku.toText locationId quantity expiryDate.toText) hactor htenant rfl (by
        intro key hkey
        rcases List.mem_cons.mp hkey with rfl | hkey
        · rfl
        · rw [List.mem_singleton.mp hkey]
          rfl)
    have hexpiry : expiryToEvent record = .ok event := by
      unfold expiryToEvent
      simp only [hquantity, hsku, hdate, hlocation, bind, Except.bind]
      exact hevent
    exact ⟨event, by rw [hexpiry]; rfl, hbuilt⟩

/-- A state of stock that is read from a record becomes its event. -/
theorem recordToEvent_stock {fromIso : String → Option Timestamp} {record : InboundRecord}
    (htype : record.canonicalType = "inventory_state")
    (hvalid : record.validation.ok = true) (htenant : record.tenantId ≠ "")
    {inventory : InventoryState} (hreads : inventoryFromPayload fromIso record = .ok inventory) :
    ∃ event, recordToEvent fromIso record = .ok (some event) ∧
      BuiltFrom record .stockUpdate (stockPayload inventory record) event := by
  have hactor : record.sourceSystem.value ≠ "" := by
    cases record.sourceSystem <;> decide
  obtain ⟨event, hevent, hbuilt⟩ := eventOf_ok .stockUpdate inventory.eventTime
    (stockPayload inventory record) hactor htenant rfl (by
      intro key hkey
      rcases List.mem_cons.mp hkey with rfl | hkey
      · rfl
      · rw [List.mem_singleton.mp hkey]
        rfl)
  have hstock : inventoryToEvent inventory record = .ok event := hevent
  refine ⟨event, ?_, hbuilt⟩
  unfold recordToEvent
  rw [if_neg (by simp [hvalid]), if_pos htype, hreads]
  simp only [hstock, bind, Except.bind]

end

end ShelfWise.Connectors
