import ShelfWise.Connectors.Orders
import ShelfWise.Py.DecimalValue
import ShelfWise.Py.Json

/-!
# Checkouts of the payment processor

`map_yoco_checkout` of `connectors/systems/yoco.py`: a settled checkout whose metadata names a product becomes
one sale, with the amount split evenly over the quantity. The split is computed with 28 significant digits,
so it keeps the revenue exactly when it needs no rounding, or the rounded price is no integer
(`checkout_keeps_revenue_iff`). A quotient with more than a million digits raises `Overflow`, which is not
caught, and a payload with an integer of more than 4300 digits cannot be hashed.
-/

namespace ShelfWise.Connectors

open Py

/-! ## The mapping -/

/-- `_checkout_object`. -/
def checkoutObject (payload : List (String × Value)) : List (String × Value) :=
  match Value.get payload "data" with
  | .dict data => match Value.get data "object" with
    | .dict object => object
    | _ => payload
  | _ => payload

/-- A quantity as a decimal. -/
def PosQuantity.toDecimal : PosQuantity → Decimal
  | .int n => Decimal.ofInt n
  | .decimal d => d

/-- `_exact_unit_price_minor`. -/
def exactUnitPriceMinor (amountMinor : ℤ) (quantity : PosQuantity) : Except Exc ℤ := do
  let unitPrice ← (Decimal.ofInt amountMinor).div quantity.toDecimal
  if unitPrice.isFinite = false ∨ unitPrice.isIntegral = false then
    .error (.valueError "checkout total cannot be represented as an exact unit price")
  else unitPrice.toInt

/-- `wrap` of a sale, whose payload is hashed, in a list of its own. -/
def wrapCheckout (sale : SaleHeader) (checkoutId : String) (canonical : List (String × Value))
    (validation : ValidationResult) : Except Exc (List InboundRecord) := do
  let _encoded ← (Value.dict sale.raw).encoded
  .ok [wrapSale .yoco sale checkoutId canonical validation]

/-- `_invalid`. -/
def invalidCheckout (tenantId checkoutId : String) (soldAt : Timestamp) (payload : List (String × Value))
    (error : String) : Except Exc (List InboundRecord) :=
  wrapCheckout ⟨tenantId, "", "", soldAt, payload⟩ checkoutId [] (ValidationResult.passed.fail error)

/-- The value that a checkout is identified with. -/
def checkoutIdValue (payload : List (String × Value)) : Value :=
  ((Value.get (checkoutObject payload) "id").orElse (Value.get payload "id")).orElse (.str "unknown")

/-- The value of the time of a checkout. -/
def createdValue (checkout : List (String × Value)) : Value :=
  (Value.get checkout "createdDate").orElse (Value.get checkout "created_at")

/-- The sale of a checkout, with its price. -/
def checkoutSale (payload metadata : List (String × Value)) (tenantId checkoutId sku : String)
    (soldAt : Timestamp) : Except Exc (SaleHeader × PosLine) := do
  let checkout := checkoutObject payload
  let amountMinor ← (Value.get checkout "amount").toInt
  if amountMinor < 0 then .error (.valueError "amount must be non-negative")
  else do
    let quantity ← parseQuantity (Value.getD metadata "quantity" (.int 1))
    if quantity.notPositive then .error (.valueError "quantity must be positive")
    else do
      let minorUnits ← exactUnitPriceMinor amountMinor quantity
      let orderId ← Value.printed ((Value.get metadata "order_id").orElse (.str checkoutId))
      let lineId ← Value.printed ((Value.get metadata "line_id").orElse (.str checkoutId))
      let locationId ← Value.printed ((Value.get metadata "location_id").orElse (.str "online"))
      let currency ← Value.printed ((Value.get checkout "currency").orElse (.str "ZAR"))
      .ok (⟨tenantId, orderId, locationId, soldAt, payload⟩, ⟨lineId, sku, quantity, ⟨minorUnits, currency⟩⟩)

/-- `str(exc)` of an exception that is caught. -/
def exceptionText : Exc → String
  | .valueError message | .typeError message => message
  | .decimalError _ => "[<class 'decimal.InvalidOperation'>]"
  | _ => ""

/-- The record of a sale, or of the exception that is caught in its place. -/
def checkoutRecords (tenantId checkoutId : String) (soldAt : Timestamp)
    (payload : List (String × Value)) : Except Exc (SaleHeader × PosLine) → Except Exc (List InboundRecord)
  | .ok (sale, line) => wrapCheckout sale checkoutId (serialiseLine sale line) (validateLine sale line)
  | .error e =>
    if isMalformed false e then
      invalidCheckout tenantId checkoutId soldAt payload
        ("yoco checkout is malformed: " ++ exceptionText e)
    else .error e

/-- A checkout that is paid. -/
def IsSettled (status : String) : Prop := status = "succeeded" ∨ status = "completed"

instance (status : String) : Decidable (IsSettled status) := inferInstanceAs (Decidable (_ ∨ _))

/-- `map_yoco_checkout`, at the time `now`. -/
def mapYocoCheckout (fromIso : String → Option Timestamp) (now : Timestamp) (tenantId : String)
    (payload : List (String × Value)) : Except Exc (List InboundRecord) := do
  let checkout := checkoutObject payload
  let checkoutId ← Value.printed (checkoutIdValue payload)
  match datetimeValue fromIso (createdValue checkout) now with
  | .error _ => invalidCheckout tenantId checkoutId now payload "yoco checkout timestamp is malformed"
  | .ok soldAt => match Value.get checkout "metadata" with
    | .dict metadata => do
      let status ← Value.printed ((Value.get checkout "status").orElse (.str ""))
      if ¬ IsSettled (lower (strip status)) then
        invalidCheckout tenantId checkoutId soldAt payload "yoco checkout is not succeeded"
      else do
        let sku ← Value.printed ((Value.get metadata "sku").orElse (.str ""))
        if strip sku = "" then
          invalidCheckout tenantId checkoutId soldAt payload "yoco checkout metadata has no sku"
        else
          checkoutRecords tenantId checkoutId soldAt payload
            (checkoutSale payload metadata tenantId checkoutId (strip sku) soldAt)
    | _ => invalidCheckout tenantId checkoutId soldAt payload "yoco checkout has no metadata"

/-! ## The price -/

/-- A rational that is an integer. -/
def Whole (x : ℚ) : Prop := ∃ n : ℤ, (n : ℚ) = x

open Decimal in
theorem isIntegral_iff {d : Decimal} {x : ℚ} (h : HasValue d x) : d.isIntegral = true ↔ Whole x := by
  obtain ⟨s, c, e, rfl, rfl⟩ := h.exists_finite
  simp only [isIntegral, Bool.or_eq_true, decide_eq_true_eq]
  rcases le_or_gt 0 e with he | he
  · refine iff_of_true (.inl he) ⟨signed s c * 10 ^ e.toNat, ?_⟩
    push_cast
    rw [cast_signed, ← zpow_natCast, Int.toNat_of_nonneg he]
  · have hpow : (10 : ℚ) ^ e = ((10 ^ e.natAbs : ℕ) : ℚ)⁻¹ := by
      rw [show e = -(e.natAbs : ℤ) by omega, zpow_neg, zpow_natCast, Int.natAbs_neg, Int.natAbs_natCast]
      push_cast
      rfl
    have hunit : ((10 ^ e.natAbs : ℕ) : ℚ) ≠ 0 := by positivity
    rw [hpow, ← div_eq_mul_inv]
    constructor
    · rintro (h | ⟨k, hk⟩)
      · omega
      · refine ⟨signed s k, ?_⟩
        rw [cast_signed, hk, eq_div_iff hunit]
        push_cast
        ring
    · rintro ⟨n, hn⟩
      refine .inr ⟨n.natAbs, ?_⟩
      have habs := congrArg abs hn
      rw [abs_div, abs_mul, Nat.abs_cast, Nat.abs_cast, eq_div_iff hunit] at habs
      have hsign : |signOf s| = 1 := by cases s <;> simp [signOf]
      rw [hsign, one_mul, ← Int.cast_abs, Int.abs_eq_natAbs] at habs
      rw [mul_comm]
      exact_mod_cast habs.symm

open Decimal in
/-- `int(d)` of a decimal that is an integer. -/
theorem toInt_of_whole {d : Decimal} {n : ℤ} (h : HasValue d n) : d.toInt = .ok n := by
  have hintegral := (isIntegral_iff h).mpr ⟨n, rfl⟩
  obtain ⟨s, c, e, rfl, hn⟩ := h.exists_finite
  have hmagnitude : ∃ k : ℕ, (finite s c e).truncate = signed s k ∧ (c : ℚ) * 10 ^ e = k := by
    simp only [isIntegral, Bool.or_eq_true, decide_eq_true_eq] at hintegral
    rcases le_or_gt 0 e with he | he
    · refine ⟨c * 10 ^ e.toNat, ?_, ?_⟩
      · simp only [truncate, he, if_true]
        rfl
      · push_cast
        rw [← zpow_natCast, Int.toNat_of_nonneg he]
    · obtain ⟨k, rfl⟩ := hintegral.resolve_left (by omega)
      have hunit : 0 < 10 ^ e.natAbs := by positivity
      refine ⟨k, ?_, ?_⟩
      · simp only [truncate, not_le.mpr he, if_false, Nat.mul_div_cancel_left k hunit]
        rfl
      · rw [show e = -(e.natAbs : ℤ) by omega, zpow_neg, zpow_natCast, Int.natAbs_neg, Int.natAbs_natCast]
        push_cast
        field_simp
  obtain ⟨k, htruncate, hk⟩ := hmagnitude
  have hcast : ((signed s k : ℤ) : ℚ) = n := by rw [cast_signed, hn, mul_assoc, hk]
  rw [← Int.cast_injective hcast, ← htruncate]
  rfl

open Decimal in
/-- The price of a split: it overflows, or it is the rounded quotient when that is an integer. -/
theorem exactUnitPriceMinor_spec {amount : ℤ} {quantity : PosQuantity} {y : ℚ}
    (hquantity : HasValue quantity.toDecimal y) (hy : y ≠ 0) :
    (¬ |inContext (amount / y)| < 10 ^ (emax + 1) ∧
        exactUnitPriceMinor amount quantity = .error overflow) ∨
      |inContext (amount / y)| < 10 ^ (emax + 1) ∧
        ((∃ n : ℤ, (n : ℚ) = inContext (amount / y) ∧ exactUnitPriceMinor amount quantity = .ok n) ∨
          (¬ Whole (inContext (amount / y)) ∧ exactUnitPriceMinor amount quantity =
            .error (.valueError "checkout total cannot be represented as an exact unit price"))) := by
  have hamount := hasValue_ofInt amount
  unfold exactUnitPriceMinor
  cases hdiv : (ofInt amount).div quantity.toDecimal with
  | error error =>
    have hnone : ¬ ∃ r, (ofInt amount).div quantity.toDecimal = .ok r := fun ⟨r, hr⟩ => by
      rw [hdiv] at hr
      cases hr
    refine .inl ⟨fun hless => hnone ((div_ok_iff _ _ hamount hquantity hy).mpr hless), ?_⟩
    rw [div_eq_overflow hamount hquantity hy hdiv]
    rfl
  | ok r =>
    have hvalue := hamount.div hquantity hdiv
    refine .inr ⟨(div_ok_iff _ _ hamount hquantity hy).mp ⟨r, hdiv⟩, ?_⟩
    have hchecks : (Except.ok r >>= fun unitPrice : Decimal =>
        if unitPrice.isFinite = false ∨ unitPrice.isIntegral = false then
          .error (.valueError "checkout total cannot be represented as an exact unit price")
        else unitPrice.toInt) =
        if r.isIntegral = false then
          .error (.valueError "checkout total cannot be represented as an exact unit price")
        else r.toInt := by
      show (if _ then _ else _) = _
      simp only [hvalue.1, Bool.true_eq_false, false_or]
    rw [hchecks]
    by_cases hwhole : Whole (inContext (amount / y))
    · obtain ⟨n, hn⟩ := hwhole
      refine .inl ⟨n, hn, ?_⟩
      rw [if_neg, toInt_of_whole (hvalue.congr hn.symm)]
      rw [(isIntegral_iff hvalue).mpr ⟨n, hn⟩]
      exact Bool.noConfusion
    · refine .inr ⟨hwhole, if_pos ?_⟩
      rw [← Bool.not_eq_true, isIntegral_iff hvalue]
      exact hwhole

/-! ## Payloads that can be printed -/

theorem printable_lookup {items : List (String × Value)} (h : Value.printableItems items = true)
    (key : String) {default : Value} (hdefault : default.printable = true) :
    (Value.getD items key default).printable = true := by
  unfold Value.getD
  cases hlookup : Dict.lookup key items with
  | none => exact hdefault
  | some value => exact Value.printableItems_iff.mp h _ (Dict.mem_of_lookup hlookup)

theorem printable_get {items : List (String × Value)} (h : Value.printableItems items = true)
    (key : String) : (Value.get items key).printable = true := printable_lookup h key rfl

theorem printable_orElse {a b : Value} (ha : a.printable = true) (hb : b.printable = true) :
    (a.orElse b).printable = true := by
  unfold Value.orElse
  split
  · exact ha
  · exact hb

theorem printed_of_printable {v : Value} (h : v.printable = true) : v.printed = .ok v.toText := if_pos h

theorem printable_checkoutObject {payload : List (String × Value)}
    (h : Value.printableItems payload = true) : Value.printableItems (checkoutObject payload) = true := by
  unfold checkoutObject
  split
  · next data hdata =>
    have hdataItems : Value.printableItems data = true := by
      have hget := printable_get h "data"
      rw [hdata] at hget
      exact hget
    split
    · next object hobject =>
      have hget := printable_get hdataItems "object"
      rw [hobject] at hget
      exact hget
    · exact h
  · exact h

/-- The number that a quantity denotes. -/
def quantityNumber : Value → Option ℚ
  | .int n => some n
  | value => (parseQuantity value).toOption.map fun quantity => quantity.toDecimal.toRat

open Decimal in
theorem hasValue_of_parseQuantity {value : Value} {quantity : PosQuantity}
    (h : parseQuantity value = .ok quantity) : HasValue quantity.toDecimal quantity.toDecimal.toRat := by
  unfold parseQuantity at h
  split at h
  · cases h
  · next d _ =>
    split at h
    · cases h
    · next hfinite =>
      split at h
      · cases h
        exact (hasValue_ofInt _).congr (hasValue_ofInt _).2.symm
      · cases h
        exact exists_hasValue (Bool.not_eq_false _ ▸ hfinite)

open Decimal in
/-- A quantity that can be printed is parsed. -/
theorem exists_parseQuantity {value : Value} {y : ℚ} (hprintable : value.printable = true)
    (h : quantityNumber value = some y) :
    ∃ quantity, parseQuantity value = .ok quantity ∧ HasValue quantity.toDecimal y := by
  unfold quantityNumber at h
  split at h
  · next n =>
    obtain rfl := Option.some.inj h
    by_cases hn : n = 0
    · subst hn
      exact ⟨.int 0, by decide +kernel, hasValue_ofInt 0⟩
    · have hread := read_printed_int (n := n) (of_decide_eq_true hprintable)
      have htruthy : (Value.int n).orElse (.str "0") = .int n := if_pos (bne_iff_ne.mpr hn)
      refine ⟨.int n, ?_, hasValue_ofInt n⟩
      unfold parseQuantity
      rw [htruthy, hread]
      dsimp only
      rw [(truncate_int n).1, (truncate_int n).2]
      rfl
  · cases hparse : parseQuantity value with
    | error e =>
      rw [hparse] at h
      cases h
    | ok quantity =>
      rw [hparse] at h
      exact ⟨quantity, rfl, (hasValue_of_parseQuantity hparse).congr (Option.some.inj h)⟩

open Decimal in
theorem notPositive_iff {quantity : PosQuantity} {y : ℚ} (h : HasValue quantity.toDecimal y) :
    quantity.notPositive = true ↔ y ≤ 0 := by
  cases quantity with
  | int n =>
    have hvalue : (n : ℚ) = y := (hasValue_ofInt n).unique h
    rw [← hvalue]
    simp only [PosQuantity.notPositive, decide_eq_true_eq, Int.cast_nonpos]
  | decimal d =>
    have hvalue : d.toRat = y := h.2
    rw [← hvalue]
    exact decide_eq_true_iff

/-! ## What becomes of a checkout -/

section

variable {fromIso : String → Option Timestamp} {now : Timestamp} {tenantId checkoutId sku : String}
  {payload metadata : List (String × Value)} {amount : ℤ} {y : ℚ} {quantity : PosQuantity}
  {soldAt : Timestamp}

theorem wrapCheckout_of_printable {sale : SaleHeader} (h : Value.printableItems sale.raw = true)
    (canonical : List (String × Value)) (validation : ValidationResult) :
    wrapCheckout sale checkoutId canonical validation =
      .ok [wrapSale .yoco sale checkoutId canonical validation] := by
  have hdict : (Value.dict sale.raw).printable = true := h
  unfold wrapCheckout Value.encoded
  rw [if_pos hdict]
  rfl

/-- A payload that cannot be printed has no hash. -/
theorem wrapCheckout_of_not_printable {sale : SaleHeader} (h : Value.printableItems sale.raw = false)
    (canonical : List (String × Value)) (validation : ValidationResult) :
    wrapCheckout sale checkoutId canonical validation = .error Value.digitsError := by
  have hdict : ¬ (Value.dict sale.raw).printable = true := by
    rw [Bool.not_eq_true]
    exact h
  unfold wrapCheckout Value.encoded
  rw [if_neg hdict]
  rfl

theorem invalidCheckout_of_printable (h : Value.printableItems payload = true) (error : String) :
    ∃ record, invalidCheckout tenantId checkoutId soldAt payload error = .ok [record] ∧
      record.validation.ok = false :=
  ⟨_, wrapCheckout_of_printable h _ _, rfl⟩

theorem raw_of_checkoutSale {sale : SaleHeader} {line : PosLine}
    (h : checkoutSale payload metadata tenantId checkoutId sku soldAt = .ok (sale, line)) :
    sale.raw = payload := by
  unfold checkoutSale at h
  obtain ⟨amountMinor, -, h⟩ := bind_eq_ok_iff.mp h
  split at h
  · cases h
  obtain ⟨quantity, -, h⟩ := bind_eq_ok_iff.mp h
  split at h
  · cases h
  obtain ⟨minorUnits, -, h⟩ := bind_eq_ok_iff.mp h
  obtain ⟨orderId, -, h⟩ := bind_eq_ok_iff.mp h
  obtain ⟨lineId, -, h⟩ := bind_eq_ok_iff.mp h
  obtain ⟨locationId, -, h⟩ := bind_eq_ok_iff.mp h
  obtain ⟨currency, -, h⟩ := bind_eq_ok_iff.mp h
  rw [← (Prod.mk.inj (Except.ok.inj h)).1]

/-- A checkout whose payload cannot be printed raises. -/
theorem map_of_not_printable (tenantId : String) (h : Value.printableItems payload = false) :
    ∃ error, mapYocoCheckout fromIso now tenantId payload = .error error := by
  have hinvalid : ∀ checkoutId soldAt error records,
      invalidCheckout tenantId checkoutId soldAt payload error ≠ .ok records := by
    intro checkoutId soldAt error records hrecords
    rw [invalidCheckout, wrapCheckout_of_not_printable h] at hrecords
    cases hrecords
  cases hmap : mapYocoCheckout fromIso now tenantId payload with
  | error error => exact ⟨error, rfl⟩
  | ok records =>
    exfalso
    unfold mapYocoCheckout at hmap
    obtain ⟨checkoutId, -, hmap⟩ := bind_eq_ok_iff.mp hmap
    split at hmap
    · exact hinvalid _ _ _ _ hmap
    next soldAt _ =>
    split at hmap
    · next metadata _ =>
      obtain ⟨status, -, hmap⟩ := bind_eq_ok_iff.mp hmap
      split at hmap
      · exact hinvalid _ _ _ _ hmap
      obtain ⟨sku, -, hmap⟩ := bind_eq_ok_iff.mp hmap
      split at hmap
      · exact hinvalid _ _ _ _ hmap
      cases hsale : checkoutSale payload metadata tenantId checkoutId (strip sku) soldAt with
      | ok built =>
        rw [hsale] at hmap
        have hraw := raw_of_checkoutSale hsale
        rw [checkoutRecords, wrapCheckout_of_not_printable (by rw [hraw]; exact h)] at hmap
        cases hmap
      | error error =>
        rw [hsale, checkoutRecords] at hmap
        split at hmap
        · exact hinvalid _ _ _ _ hmap
        · cases hmap
    · exact hinvalid _ _ _ _ hmap

/-- The text of the id of a checkout. -/
def checkoutIdText (payload : List (String × Value)) : String := (checkoutIdValue payload).toText

/-- The sale of a checkout whose payload can be printed, at a price. -/
def headerOf (tenantId : String) (payload metadata : List (String × Value)) (soldAt : Timestamp) :
    SaleHeader :=
  ⟨tenantId, ((Value.get metadata "order_id").orElse (.str (checkoutIdText payload))).toText,
    ((Value.get metadata "location_id").orElse (.str "online")).toText, soldAt, payload⟩

/-- The line of the sale. -/
def lineOf (payload metadata : List (String × Value)) (sku : String) (quantity : PosQuantity)
    (minorUnits : ℤ) : PosLine :=
  ⟨((Value.get metadata "line_id").orElse (.str (checkoutIdText payload))).toText, sku, quantity,
    ⟨minorUnits, ((Value.get (checkoutObject payload) "currency").orElse (.str "ZAR")).toText⟩⟩

theorem printable_metadata (h : Value.printableItems payload = true)
    (hmetadata : Value.get (checkoutObject payload) "metadata" = .dict metadata) :
    Value.printableItems metadata = true := by
  have hget := printable_get (printable_checkoutObject h) "metadata"
  rw [hmetadata] at hget
  exact hget

/-- The texts by which a checkout is told can be printed. -/
theorem printed_texts (h : Value.printableItems payload = true)
    (hmetadata : Value.get (checkoutObject payload) "metadata" = .dict metadata) :
    Value.printed (checkoutIdValue payload) = .ok (checkoutIdText payload) ∧
      Value.printed ((Value.get (checkoutObject payload) "status").orElse (.str "")) =
        .ok ((Value.get (checkoutObject payload) "status").orElse (.str "")).toText ∧
      Value.printed ((Value.get metadata "sku").orElse (.str "")) =
        .ok ((Value.get metadata "sku").orElse (.str "")).toText := by
  have hcheckout := printable_checkoutObject h
  exact ⟨printed_of_printable (printable_orElse
      (printable_orElse (printable_get hcheckout "id") (printable_get h "id")) rfl),
    printed_of_printable (printable_orElse (printable_get hcheckout "status") rfl),
    printed_of_printable (printable_orElse (printable_get (printable_metadata h hmetadata) "sku") rfl)⟩

/-- The checks before the price pass. -/
structure Sellable (fromIso : String → Option Timestamp) (now : Timestamp)
    (payload metadata : List (String × Value)) (amount : ℤ) (y : ℚ) : Prop where
  timed : ∃ soldAt, datetimeValue fromIso (createdValue (checkoutObject payload)) now = .ok soldAt
  settled : IsSettled (lower (strip
    ((Value.get (checkoutObject payload) "status").orElse (.str "")).toText))
  sku_ne : strip ((Value.get metadata "sku").orElse (.str "")).toText ≠ ""
  amount_nonneg : 0 ≤ amount
  quantity_pos : 0 < y

section Readable

variable (h : Value.printableItems payload = true)
  (hmetadata : Value.get (checkoutObject payload) "metadata" = .dict metadata)
  (hamount : Value.get (checkoutObject payload) "amount" = .int amount)
  (hquantity : parseQuantity (Value.getD metadata "quantity" (.int 1)) = .ok quantity)

include h hmetadata hamount hquantity

theorem checkoutSale_eq (tenantId sku : String) (soldAt : Timestamp) :
    checkoutSale payload metadata tenantId (checkoutIdText payload) sku soldAt =
      if amount < 0 then .error (.valueError "amount must be non-negative")
      else if quantity.notPositive then .error (.valueError "quantity must be positive")
      else (exactUnitPriceMinor amount quantity).map fun minorUnits =>
        (headerOf tenantId payload metadata soldAt, lineOf payload metadata sku quantity minorUnits) := by
  have hprintable := printable_metadata h hmetadata
  have htexts : ∀ key (default : String), Value.printed ((Value.get metadata key).orElse (.str default)) =
      .ok ((Value.get metadata key).orElse (.str default)).toText := fun key default =>
    printed_of_printable (printable_orElse (printable_get hprintable key) rfl)
  have hcurrency := printed_of_printable (printable_orElse
    (printable_get (printable_checkoutObject h) "currency") (b := .str "ZAR") rfl)
  unfold checkoutSale
  dsimp only
  rw [hamount]
  show (if amount < 0 then _ else _) = _
  refine if_congr Iff.rfl rfl ?_
  rw [hquantity]
  show (if quantity.notPositive then _ else _) = _
  refine if_congr Iff.rfl rfl ?_
  cases exactUnitPriceMinor amount quantity with
  | error error => rfl
  | ok minorUnits =>
    show (Value.printed _ >>= _) = _
    rw [htexts "order_id", htexts "line_id", htexts "location_id", hcurrency]
    rfl

variable (hvalue : Decimal.HasValue quantity.toDecimal y)

include hvalue

/-- A checkout that fails a check before the price is quarantined. -/
theorem map_of_not_sellable (tenantId : String)
    (hsellable : ¬ Sellable fromIso now payload metadata amount y) :
    ∃ record, mapYocoCheckout fromIso now tenantId payload = .ok [record] ∧
      record.validation.ok = false := by
  obtain ⟨hid, hstatus, hsku⟩ := printed_texts h hmetadata
  unfold mapYocoCheckout
  cases htimed : datetimeValue fromIso (createdValue (checkoutObject payload)) now with
  | error error =>
    simp only [hid, htimed, bind, Except.bind]
    exact invalidCheckout_of_printable h _
  | ok soldAt =>
    simp only [hid, htimed, hmetadata, hstatus, hsku, bind, Except.bind]
    by_cases hsettled : IsSettled (lower (strip
      ((Value.get (checkoutObject payload) "status").orElse (.str "")).toText))
    · rw [if_neg (not_not.mpr hsettled)]
      by_cases hempty : strip ((Value.get metadata "sku").orElse (.str "")).toText = ""
      · rw [if_pos hempty]
        exact invalidCheckout_of_printable h _
      · rw [if_neg hempty, checkoutSale_eq h hmetadata hamount hquantity]
        by_cases hnegative : amount < 0
        · rw [if_pos hnegative]
          exact invalidCheckout_of_printable h _
        · have hnotPositive : quantity.notPositive = true := by
            rw [notPositive_iff hvalue]
            by_contra hpos
            exact hsellable ⟨⟨soldAt, htimed⟩, hsettled, hempty, not_lt.mp hnegative, not_le.mp hpos⟩
          rw [if_neg hnegative, if_pos hnotPositive]
          exact invalidCheckout_of_printable h _
    · rw [if_pos hsettled]
      exact invalidCheckout_of_printable h _

/-- A checkout that passes these checks is as good as its price. -/
theorem map_of_sellable (tenantId : String) (hsellable : Sellable fromIso now payload metadata amount y) :
    (∀ minorUnits, exactUnitPriceMinor amount quantity = .ok minorUnits → ∃ record sale sku,
      mapYocoCheckout fromIso now tenantId payload = .ok [record] ∧
      record.canonicalPayload = serialiseLine sale (lineOf payload metadata sku quantity minorUnits) ∧
      record.validation = validateLine sale (lineOf payload metadata sku quantity minorUnits) ∧
      sku ≠ "" ∧ ∃ soldAt, sale = headerOf tenantId payload metadata soldAt) ∧
    (∀ message, exactUnitPriceMinor amount quantity = .error (.valueError message) → ∃ record,
      mapYocoCheckout fromIso now tenantId payload = .ok [record] ∧ record.validation.ok = false) ∧
    (exactUnitPriceMinor amount quantity = .error Decimal.overflow →
      mapYocoCheckout fromIso now tenantId payload = .error Decimal.overflow) := by
  obtain ⟨hid, hstatus, hsku⟩ := printed_texts h hmetadata
  obtain ⟨soldAt, htimed⟩ := hsellable.timed
  have hsale := checkoutSale_eq h hmetadata hamount hquantity tenantId
    (strip ((Value.get metadata "sku").orElse (.str "")).toText) soldAt
  rw [if_neg (not_lt.mpr hsellable.amount_nonneg), if_neg (by
    rw [notPositive_iff hvalue, not_le]
    exact hsellable.quantity_pos)] at hsale
  -- the mapping, down to the price
  have hmap : mapYocoCheckout fromIso now tenantId payload =
      checkoutRecords tenantId (checkoutIdText payload) soldAt payload
        ((exactUnitPriceMinor amount quantity).map fun minorUnits =>
          (headerOf tenantId payload metadata soldAt,
            lineOf payload metadata (strip ((Value.get metadata "sku").orElse (.str "")).toText) quantity
              minorUnits)) := by
    rw [← hsale]
    unfold mapYocoCheckout
    simp only [hid, htimed, hmetadata, hstatus, hsku, bind, Except.bind]
    rw [if_neg (not_not.mpr hsellable.settled), if_neg hsellable.sku_ne]
  refine ⟨fun minorUnits hprice => ?_, fun message hprice => ?_, fun hprice => ?_⟩
  · rw [hprice] at hmap
    refine ⟨_, headerOf tenantId payload metadata soldAt, _,
      hmap.trans (wrapCheckout_of_printable (by exact h) _ _), rfl, rfl, hsellable.sku_ne, soldAt, rfl⟩
  · rw [hprice] at hmap
    obtain ⟨record, hrecord, hfailed⟩ : ∃ record,
        invalidCheckout tenantId (checkoutIdText payload) soldAt payload
          ("yoco checkout is malformed: " ++ exceptionText (.valueError message)) = .ok [record] ∧
            record.validation.ok = false :=
      invalidCheckout_of_printable h _
    exact ⟨record, hmap.trans hrecord, hfailed⟩
  · rw [hprice] at hmap
    exact hmap

end Readable

/-! ## Revenue -/

/-- The amount is a whole price times the quantity. -/
def Splits (amount : ℤ) (y : ℚ) : Prop := ∃ price : ℤ, price * y = (amount : ℚ)

/-- What is asked of a checkout: a valid sale has the amount as its price times its quantity, and an amount
that cannot be split becomes one record that fails its validation. -/
structure KeepsRevenue (result : Except Exc (List InboundRecord)) (amount : ℤ) (y : ℚ) : Prop where
  exact : ∀ records, result = .ok records → ∀ record ∈ records, record.validation.ok = true →
    ∃ sale line, record.canonicalPayload = serialiseLine sale line ∧ line.quantity.toDecimal.toRat = y ∧
      (line.unitPrice.minorUnits : ℚ) * y = amount
  quarantined : ¬ Splits amount y → ∃ record, result = .ok [record] ∧ record.validation.ok = false

/-- An exception loses a split that needs a quarantine. -/
theorem keepsRevenue_error_iff {error : Exc} : KeepsRevenue (.error error) amount y ↔ Splits amount y := by
  constructor
  · intro hkeeps
    by_contra hnot
    obtain ⟨record, hrecord, -⟩ := hkeeps.quarantined hnot
    cases hrecord
  · exact fun hsplits => ⟨fun _ h => (by cases h), fun hnot => absurd hsplits hnot⟩

/-- A checkout in quarantine claims no revenue. -/
theorem keepsRevenue_of_failed {record : InboundRecord} (h : record.validation.ok = false) :
    KeepsRevenue (.ok [record]) amount y := by
  refine ⟨fun records hrecords other hother hok => ?_, fun _ => ⟨record, rfl, h⟩⟩
  obtain rfl := Except.ok.inj hrecords
  rw [List.mem_singleton.mp hother, h] at hok
  cases hok

/-- The texts that a sale needs are there. -/
structure Named (tenantId : String) (payload metadata : List (String × Value)) : Prop where
  tenantId_ne : tenantId ≠ ""
  orderId_ne : ((Value.get metadata "order_id").orElse (.str (checkoutIdText payload))).toText ≠ ""
  lineId_ne : ((Value.get metadata "line_id").orElse (.str (checkoutIdText payload))).toText ≠ ""

/-- An amount that cannot be split comes in a payload that can be printed, and its quotient, if it is taken,
does not overflow; and where the quotient, rounded to 28 digits, is an integer, it needed no rounding. -/
structure SplitsCleanly (fromIso : String → Option Timestamp) (now : Timestamp) (tenantId : String)
    (payload metadata : List (String × Value)) (amount : ℤ) (y : ℚ) : Prop where
  printable : ¬ Splits amount y → Value.printableItems payload = true
  small : ¬ Splits amount y → Sellable fromIso now payload metadata amount y →
    |Decimal.inContext (amount / y)| < 10 ^ (Decimal.emax + 1)
  clean : Value.printableItems payload = true → Sellable fromIso now payload metadata amount y →
    Named tenantId payload metadata → |Decimal.inContext (amount / y)| < 10 ^ (Decimal.emax + 1) →
      Whole (Decimal.inContext (amount / y)) → Decimal.inContext (amount / y) = amount / y

theorem validateLine_ok_iff {sale : SaleHeader} {line : PosLine} :
    (validateLine sale line).ok = true ↔ sale.tenantId ≠ "" ∧ sale.orderId ≠ "" ∧ line.lineId ≠ "" ∧
      line.sku ≠ "" ∧ line.quantity.notPositive = false ∧ 0 ≤ line.unitPrice.minorUnits := by
  simp only [validateLine, ok_failIf, ValidationResult.passed, Bool.and_eq_true, Bool.not_eq_true',
    decide_eq_false_iff_not, not_lt, true_and, and_assoc, ne_eq]

/-- The price of a line can be read off its payload. -/
theorem minorUnits_of_serialiseLine {sale sale' : SaleHeader} {line line' : PosLine}
    (h : serialiseLine sale line = serialiseLine sale' line') :
    line.unitPrice.minorUnits = line'.unitPrice.minorUnits := by
  have hprice := congrArg (fun fields => fields.getD 6 ("", .none)) h
  have hfields := Value.dict.inj (Prod.mk.inj hprice).2
  exact Value.int.inj (Prod.mk.inj (List.cons.inj hfields).1).2

/-- A payload that cannot be printed raises, which loses a split that needs a quarantine. -/
theorem keepsRevenue_iff_of_not_printable (hprintable : Value.printableItems payload = false) :
    KeepsRevenue (mapYocoCheckout fromIso now tenantId payload) amount y ↔
      SplitsCleanly fromIso now tenantId payload metadata amount y := by
  obtain ⟨error, herror⟩ : ∃ error, mapYocoCheckout fromIso now tenantId payload = .error error :=
    map_of_not_printable tenantId hprintable
  rw [herror, keepsRevenue_error_iff]
  constructor
  · refine fun hsplits => ⟨absurd hsplits, absurd hsplits, fun h => ?_⟩
    rw [hprintable] at h
    cases h
  · intro hcleanly
    by_contra hnot
    rw [hcleanly.printable hnot] at hprintable
    cases hprintable

section Readable

variable (hprintable : Value.printableItems payload = true)
  (hmetadata : Value.get (checkoutObject payload) "metadata" = .dict metadata)
  (hamount : Value.get (checkoutObject payload) "amount" = .int amount)
  (hquantity : parseQuantity (Value.getD metadata "quantity" (.int 1)) = .ok quantity)
  (hvalue : Decimal.HasValue quantity.toDecimal y)

include hprintable hmetadata hamount hquantity hvalue

/-- A checkout that fails a check before the price is quarantined. -/
theorem keepsRevenue_iff_of_not_sellable
    (hsellable : ¬ Sellable fromIso now payload metadata amount y) :
    KeepsRevenue (mapYocoCheckout fromIso now tenantId payload) amount y ↔
      SplitsCleanly fromIso now tenantId payload metadata amount y := by
  obtain ⟨record, hrecord, hfailed⟩ :=
    map_of_not_sellable hprintable hmetadata hamount hquantity hvalue tenantId hsellable
  rw [hrecord]
  exact iff_of_true (keepsRevenue_of_failed hfailed)
    ⟨fun _ => hprintable, fun _ h => absurd h hsellable, fun _ h => absurd h hsellable⟩

open Decimal in
/-- A checkout that passes these checks keeps its revenue when the quotient is what it stands for. -/
theorem keepsRevenue_iff_of_sellable (hsellable : Sellable fromIso now payload metadata amount y) :
    KeepsRevenue (mapYocoCheckout fromIso now tenantId payload) amount y ↔
      SplitsCleanly fromIso now tenantId payload metadata amount y := by
  obtain ⟨hsold, hfailed, hoverflow⟩ := map_of_sellable hprintable hmetadata hamount hquantity hvalue
    tenantId hsellable
  have hy := hsellable.quantity_pos
  rcases exactUnitPriceMinor_spec hvalue hy.ne' with
    ⟨hlarge, hprice⟩ | ⟨hsmall, ⟨n, hn, hprice⟩ | ⟨hwhole, hprice⟩⟩
  · -- the quotient overflows
    rw [hoverflow hprice, keepsRevenue_error_iff]
    refine ⟨fun hsplits => ⟨absurd hsplits, absurd hsplits, fun _ _ _ hsmall => absurd hsmall hlarge⟩,
      fun hcleanly => ?_⟩
    by_contra hnot
    exact hlarge (hcleanly.small hnot hsellable)
  · -- the rounded quotient is a price
    obtain ⟨record, sale, sku, hrecord, hpayload, hvalidation, hsku, soldAt, rfl⟩ := hsold n hprice
    have hpositive : quantity.notPositive = false := by
      rw [← Bool.not_eq_true, notPositive_iff hvalue, not_le]
      exact hy
    have hnonneg : 0 ≤ n := by
      have hquotient : (0 : ℚ) ≤ amount / y := div_nonneg (Int.cast_nonneg hsellable.amount_nonneg) hy.le
      have hle := inContext_nonneg hquotient
      rw [← hn] at hle
      exact_mod_cast hle
    have hvalid : record.validation.ok = true ↔ Named tenantId payload metadata := by
      rw [hvalidation, validateLine_ok_iff]
      exact ⟨fun h => ⟨h.1, h.2.1, h.2.2.1⟩,
        fun h => ⟨h.tenantId_ne, h.orderId_ne, h.lineId_ne, hsku, hpositive, hnonneg⟩⟩
    have hexact : inContext (amount / y) = amount / y ↔ (n : ℚ) * y = amount := by
      rw [← hn, eq_div_iff hy.ne']
    constructor
    · intro hkeeps
      refine ⟨fun _ => hprintable, fun _ _ => hsmall, fun _ _ hnamed _ _ => ?_⟩
      obtain ⟨sale', line', hline, -, hamount'⟩ :=
        hkeeps.exact _ hrecord record (List.mem_singleton_self _) (hvalid.mpr hnamed)
      have hminor := minorUnits_of_serialiseLine (hpayload.symm.trans hline)
      rw [← hminor] at hamount'
      exact hexact.mpr hamount'
    · intro hcleanly
      have hrevenue : record.validation.ok = true → (n : ℚ) * y = amount := fun hok =>
        hexact.mp (hcleanly.clean hprintable hsellable (hvalid.mp hok) hsmall ⟨n, hn⟩)
      refine ⟨fun records hrecords other hother hok => ?_, fun hnot => ⟨record, hrecord, ?_⟩⟩
      · rw [hrecord] at hrecords
        obtain rfl := Except.ok.inj hrecords
        rw [List.mem_singleton.mp hother] at hok ⊢
        exact ⟨_, _, hpayload, hvalue.2, hrevenue hok⟩
      · rw [← Bool.not_eq_true]
        exact fun hok => hnot ⟨n, hrevenue hok⟩
  · -- the rounded quotient is no integer
    obtain ⟨record, hrecord, hinvalid⟩ := hfailed _ hprice
    rw [hrecord]
    exact iff_of_true (keepsRevenue_of_failed hinvalid)
      ⟨fun _ => hprintable, fun _ _ => hsmall, fun _ _ _ _ h => absurd h hwhole⟩

end Readable

/-- A checkout keeps its revenue exactly when its split needs no rounding that hides a rest. -/
theorem checkout_keeps_revenue_iff
    (hmetadata : Value.get (checkoutObject payload) "metadata" = .dict metadata)
    (hamount : Value.get (checkoutObject payload) "amount" = .int amount)
    (hnumber : quantityNumber (Value.getD metadata "quantity" (.int 1)) = some y) :
    KeepsRevenue (mapYocoCheckout fromIso now tenantId payload) amount y ↔
      SplitsCleanly fromIso now tenantId payload metadata amount y := by
  by_cases hprintable : Value.printableItems payload = true
  · obtain ⟨quantity, hquantity, hvalue⟩ := exists_parseQuantity
      (printable_lookup (printable_metadata hprintable hmetadata) "quantity" (by decide +kernel)) hnumber
    by_cases hsellable : Sellable fromIso now payload metadata amount y
    · exact keepsRevenue_iff_of_sellable hprintable hmetadata hamount hquantity hvalue hsellable
    · exact keepsRevenue_iff_of_not_sellable hprintable hmetadata hamount hquantity hvalue hsellable
  · exact keepsRevenue_iff_of_not_printable (by simpa using hprintable)

end

/-- A settled checkout of three cartons of milk. -/
def milkCheckout (amount : ℤ) : List (String × Value) :=
  [("id", .str "ch_1"), ("status", .str "succeeded"), ("amount", .int amount),
    ("metadata", .dict [("sku", .str "milk"), ("quantity", .int 3)])]

/-- Three hundred cents are a hundred for each carton. -/
theorem checkout_keeps_revenue_milk :
    KeepsRevenue (mapYocoCheckout (fun _ => none) ⟨0, "2026-07-01T09:00:00+00:00"⟩ "tenant_a"
      (milkCheckout 300)) 300 3 := by
  refine (checkout_keeps_revenue_iff rfl rfl rfl).mpr ?_
  have hsplits : Splits 300 3 := ⟨100, by norm_num⟩
  refine ⟨fun hnot => absurd hsplits hnot, fun hnot => absurd hsplits hnot, fun _ _ _ _ _ => ?_⟩
  have hquotient : ((300 : ℤ) : ℚ) / 3 = (100 : ℤ) := by norm_num
  rw [hquotient]
  exact Decimal.inContext_intCast (by decide)

open Decimal in
/-- The rest of a large amount is rounded away. -/
theorem checkout_loses_revenue :
    ¬ KeepsRevenue (mapYocoCheckout (fun _ => none) ⟨0, "2026-07-01T09:00:00+00:00"⟩ "tenant_a"
      (milkCheckout (10 ^ 28))) (10 ^ 28) 3 := by
  intro hkeeps
  have hdiv : (ofInt (10 ^ 28)).div (ofInt 3) = .ok (finite false 3333333333333333333333333333 0) := by
    decide +kernel
  have hvalue := (hasValue_ofInt (10 ^ 28)).div (hasValue_ofInt 3) hdiv
  have hrounded : inContext (((10 ^ 28 : ℤ) : ℚ) / ((3 : ℤ) : ℚ)) = (3333333333333333333333333333 : ℤ) := by
    rw [← hvalue.2]
    norm_num [toRat]
  have hsellable : Sellable (fun _ => none) ⟨0, "2026-07-01T09:00:00+00:00"⟩ (milkCheckout (10 ^ 28))
      [("sku", .str "milk"), ("quantity", .int 3)] (10 ^ 28) 3 :=
    ⟨⟨_, rfl⟩, by decide +kernel, by decide +kernel, by decide, by norm_num⟩
  have hthree : HasValue (PosQuantity.int 3).toDecimal 3 := by
    have h := hasValue_ofInt 3
    rwa [Int.cast_ofNat] at h
  have hcleanly := (keepsRevenue_iff_of_sellable (by decide +kernel) rfl rfl rfl hthree
    hsellable).mp hkeeps
  have hsmall : |((3333333333333333333333333333 : ℤ) : ℚ)| < 10 ^ (emax + 1) := by
    have hpow : (10 : ℚ) ^ (28 : ℤ) ≤ 10 ^ (emax + 1) := zpow_le_zpow_right₀ (by norm_num) (by decide)
    refine lt_of_lt_of_le ?_ hpow
    norm_num
  have hclean := hcleanly.clean (by decide +kernel) hsellable
    ⟨by decide, by decide +kernel, by decide +kernel⟩ (by
      rw [show (3 : ℚ) = ((3 : ℤ) : ℚ) by norm_num, hrounded]
      exact hsmall) ⟨3333333333333333333333333333, hrounded.symm⟩
  rw [show (3 : ℚ) = ((3 : ℤ) : ℚ) by norm_num, hrounded] at hclean
  norm_num at hclean

end ShelfWise.Connectors
