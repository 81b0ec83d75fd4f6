import ShelfWise.Ingest.Receiving
import ShelfWise.Sys.Rely
import ShelfWise.Sys.Serial

/-!
# The durable ledger of open orders

`PostgresOpenOrderStore` of `shelfwise_backend/open_orders.py`, one step for each statement of
`observe_event`: the row of the order is read, the new row is worked out from it, and an upsert writes
it unless the row in the table is later. A row has the columns of its payload, and the integer columns
hold 32 bits; an upsert of a row that they cannot hold raises.

The units received are the greater of those that were read and those of the event, so a call that has
read an earlier row can take units away. `receipts_kept_iff` says in which runs none are taken away,
and that calls that do not overlap leave the table as the in-memory store.
-/

namespace ShelfWise.Ingest

open Py Sys Program

/-! ## Statements -/

/-- The key of a row. -/
def OrderRecord.key (row : OrderRecord) : OrderKey :=
  ⟨row.tenantId, row.dataDomain, row.payload.orderId⟩

/-- The key of the order of an event. -/
def orderKey (event : Event) (payload : ShipmentPayload) : OrderKey :=
  ⟨event.tenantId, event.dataDomain, payload.orderId⟩

/-- What an `integer` column holds. -/
def fitsInteger (n : ℤ) : Bool := decide (-2147483648 ≤ n ∧ n ≤ 2147483647)

/-- What a `text` column holds. -/
def fitsText (text : String) : Bool := !text.toList.contains (Char.ofNat 0)

/-- The columns hold a row. -/
def OrderRecord.fits (row : OrderRecord) : Bool :=
  fitsText row.tenantId && fitsText row.payload.orderId && fitsText row.payload.sku &&
    fitsText row.payload.supplierId && fitsText row.sourceEventId &&
    fitsInteger row.payload.orderedUnits && fitsInteger row.payload.receivedUnits &&
    fitsInteger row.remainingUnits

/-- A statement of `observe_event`; the upsert is labelled by the event, its shipment and the row that
was read. -/
inductive OrderStatement where
  | get (key : OrderKey)
  | upsert (event : Event) (payload : ShipmentPayload) (existing : Option OrderRecord)
  | select (key : OrderKey)

/-- `insert … on conflict … do update … where updated_at <= excluded.updated_at`. -/
def upsertOrder (record : OrderRecord) (rows : Orders) : Orders × Except Exc Unit :=
  if record.fits = false then (rows, .error (.raised "DataError" "the row does not fit its columns"))
  else match rows.get? record.key with
    | none => (rows.set record.key record, .ok ())
    | some stored =>
      if stored.eventTs ≤ record.eventTs then (rows.set record.key record, .ok ())
      else (rows, .ok ())

/-- What a statement does to the rows. -/
def OrderStatement.act : OrderStatement → Orders → Orders
  | .get _, rows => rows
  | .upsert event payload existing, rows =>
    (upsertOrder (orderRecord event payload existing) rows).1
  | .select _, rows => rows

/-- `observe_event`. -/
def observeRow (utcIso : String → Option String) (event : Event) :
    Program OrderStatement Orders (Except Exc (Option OrderRecord)) :=
  match shipmentPayload utcIso event with
  | .error e => ret (.error e)
  | .ok none => ret (.ok none)
  | .ok (some payload) =>
    let key := orderKey event payload
    call (.get key) (fun rows => (rows, rows.get? key)) >>= fun existing =>
    let record := orderRecord event payload existing
    (call (.upsert event payload existing) (upsertOrder record)).bindExcept fun _ =>
    call (.select key) (fun rows => (rows, .ok (some ((rows.get? key).getD record))))

/-! ## What a call may write -/

/-- The event is older than the row that was read. -/
def Stale (event : Event) (existing : Option OrderRecord) : Prop :=
  ∃ row, existing = some row ∧ event.ts.instant < row.eventTs

/-- The columns hold the row of a shipment. -/
def shipmentFits (event : Event) (payload : ShipmentPayload) : Bool :=
  fitsText event.tenantId && fitsText payload.orderId && fitsText payload.sku &&
    fitsText payload.supplierId && fitsText event.id && fitsInteger payload.orderedUnits &&
    fitsInteger payload.receivedUnits

/-- The rows of a table: each under its key, and such as the columns hold. -/
structure Table (rows : Orders) : Prop where
  keyed : Dict.KeyedBy OrderRecord.key rows
  fits : ∀ key row, rows.get? key = some row → row.fits = true

/-- A valid shipment, and a row of its order that the columns hold. -/
structure Sound (utcIso : String → Option String) (event : Event) (payload : ShipmentPayload)
    (existing : Option OrderRecord) : Prop where
  valid : shipmentPayload utcIso event = .ok (some payload)
  key_eq : ∀ row, existing = some row → row.key = orderKey event payload
  fits : ∀ row, existing = some row → row.fits = true

theorem Table.sound {utcIso : String → Option String} {event : Event} {payload : ShipmentPayload}
    {rows : Orders} (h : Table rows) (hvalid : shipmentPayload utcIso event = .ok (some payload)) :
    Sound utcIso event payload (rows.get? (orderKey event payload)) :=
  ⟨hvalid, fun row hrow => (h.keyed _ row hrow).symm, fun row hrow => h.fits _ row hrow⟩

section Row

variable {utcIso : String → Option String} {event : Event} {payload : ShipmentPayload}
  {existing : Option OrderRecord} {rows : Orders}

theorem shipmentPayload_units (h : shipmentPayload utcIso event = .ok (some payload)) :
    0 < payload.orderedUnits ∧ 0 ≤ payload.receivedUnits := by
  unfold shipmentPayload at h
  split at h
  · cases h
  · dsimp only at h
    split at h
    · cases h
    · cases h
    · split at h
      · cases h
      · cases h
      · split at h
        · cases h
        · next hordered =>
          split at h
          · cases h
          · rw [Except.ok.injEq, Option.some.injEq] at h
            rw [← h]
            exact ⟨not_le.mp fun hle => hordered (.inr hle), le_max_right _ _⟩

/-- An event that is older than its row leaves it. -/
theorem orderRecord_of_stale {row : OrderRecord} (h : event.ts.instant < row.eventTs) :
    orderRecord event payload (some row) = row := if_pos h

theorem orderRecord_of_fresh {row : OrderRecord} (h : ¬ event.ts.instant < row.eventTs) :
    orderRecord event payload (some row)
      = orderRecord.fresh event payload (max payload.receivedUnits row.payload.receivedUnits) :=
  if_neg h

theorem Sound.record_key (h : Sound utcIso event payload existing) :
    (orderRecord event payload existing).key = orderKey event payload := by
  cases existing with
  | none => rfl
  | some row =>
    by_cases hstale : event.ts.instant < row.eventTs
    · rw [orderRecord_of_stale hstale]
      exact h.key_eq row rfl
    · rw [orderRecord_of_fresh hstale]
      rfl

/-- The columns hold a row with units that they hold. -/
theorem fits_fresh (h : 0 < payload.orderedUnits ∧ 0 ≤ payload.receivedUnits) {received : ℤ}
    (hle : payload.receivedUnits ≤ received)
    (hreceived : fitsInteger received = fitsInteger payload.receivedUnits) :
    (orderRecord.fresh event payload received).fits = shipmentFits event payload := by
  unfold orderRecord.fresh OrderRecord.fits shipmentFits
  dsimp only
  rw [hreceived]
  by_cases hordered : fitsInteger payload.orderedUnits = true
  · have hremaining : fitsInteger (max (payload.orderedUnits - received) 0) = true := by
      unfold fitsInteger at hordered ⊢
      rw [decide_eq_true_eq] at hordered ⊢
      omega
    rw [hremaining, Bool.and_true]
  · rw [Bool.not_eq_true] at hordered
    rw [hordered]
    simp only [Bool.and_false, Bool.false_and]

/-- The columns hold what is written when they hold the shipment, or the row that was there stays. -/
theorem Sound.fits_iff (h : Sound utcIso event payload existing) :
    (orderRecord event payload existing).fits = true ↔
      Stale event existing ∨ shipmentFits event payload = true := by
  have hunits := shipmentPayload_units h.valid
  cases existing with
  | none =>
    rw [show orderRecord event payload none = orderRecord.fresh event payload payload.receivedUnits
      from rfl, fits_fresh hunits (le_refl _) rfl]
    exact ⟨Or.inr, fun hor => hor.resolve_left fun ⟨_, hrow, _⟩ => by cases hrow⟩
  | some row =>
    by_cases hstale : event.ts.instant < row.eventTs
    · rw [orderRecord_of_stale hstale]
      exact iff_of_true (h.fits row rfl) (.inl ⟨row, rfl, hstale⟩)
    · have hrow : fitsInteger row.payload.receivedUnits = true := by
        have hfits := h.fits row rfl
        unfold OrderRecord.fits at hfits
        simp only [Bool.and_eq_true] at hfits
        exact hfits.1.2
      have hmax : fitsInteger (max payload.receivedUnits row.payload.receivedUnits)
          = fitsInteger payload.receivedUnits := by
        unfold fitsInteger at hrow ⊢
        rw [decide_eq_true_eq] at hrow
        rw [decide_eq_decide]
        omega
      rw [orderRecord_of_fresh hstale, fits_fresh hunits (le_max_left _ _) hmax]
      refine ⟨Or.inr, fun hor => hor.resolve_left fun ⟨r, hr, hlt⟩ => hstale ?_⟩
      rwa [Option.some.inj hr]

/-! ## Tables -/

theorem table_empty : Table Dict.empty :=
  ⟨Dict.keyedBy_empty _, fun _ _ h => absurd h (by simp)⟩

theorem Table.set (h : Table rows) {record : OrderRecord} (hfits : record.fits = true) :
    Table (rows.set record.key record) := by
  refine ⟨Dict.keyedBy_set h.keyed record, fun key row hrow => ?_⟩
  rw [Dict.get?_set] at hrow
  split at hrow
  · rw [← Option.some.inj hrow]
    exact hfits
  · exact h.fits key row hrow

theorem Table.upsert (h : Table rows) (record : OrderRecord) : Table (upsertOrder record rows).1 := by
  unfold upsertOrder
  split
  · exact h
  · next hfits =>
    rw [Bool.not_eq_false] at hfits
    cases rows.get? record.key with
    | none => exact h.set hfits
    | some stored =>
      dsimp only
      split
      · exact h.set hfits
      · exact h

/-- A statement keeps the table one. -/
theorem Table.act (h : Table rows) (statement : OrderStatement) : Table (statement.act rows) := by
  cases statement with
  | get key => exact h
  | upsert event payload existing => exact h.upsert _
  | select key => exact h

/-! ## When a write takes no units away -/

/-- A statement takes no received units away. -/
def KeepsUnits (before after : Orders) : Prop :=
  ∀ key row, before.get? key = some row →
    ∃ row', after.get? key = some row' ∧ row.payload.receivedUnits ≤ row'.payload.receivedUnits

theorem keepsUnits_refl (rows : Orders) : KeepsUnits rows rows :=
  fun _ row hrow => ⟨row, hrow, le_refl _⟩

/-- The units of the row in the table are known to the call that writes: they were in the row that it
read, or they are in its event, which is not older than that row; or what it writes is older than the
row in the table, or does not fit the columns. -/
def OrderStatement.KnowsUnits (rows : Orders) : OrderStatement → Prop
  | .get _ => True
  | .upsert event payload existing =>
    ∀ stored, rows.get? (orderKey event payload) = some stored →
      (∃ row, existing = some row ∧ (stored.payload.receivedUnits ≤ row.payload.receivedUnits ∨
        event.ts.instant < row.eventTs ∧ row.eventTs < stored.eventTs)) ∨
      ¬ Stale event existing ∧ (shipmentFits event payload = false ∨
        event.ts.instant < stored.eventTs ∨
          stored.payload.receivedUnits ≤ payload.receivedUnits)
  | .select _ => True

/-- An upsert takes units away from its own row only. -/
theorem keepsUnits_upsert_iff (record : OrderRecord) (rows : Orders) :
    KeepsUnits rows (upsertOrder record rows).1 ↔
      ∀ stored, rows.get? record.key = some stored → record.fits = false ∨
        record.eventTs < stored.eventTs ∨
          stored.payload.receivedUnits ≤ record.payload.receivedUnits := by
  have hset : KeepsUnits rows (rows.set record.key record) ↔ ∀ stored,
      rows.get? record.key = some stored →
        stored.payload.receivedUnits ≤ record.payload.receivedUnits := by
    constructor
    · intro hkeeps stored hstored
      obtain ⟨row', hrow', hle⟩ := hkeeps _ _ hstored
      rw [Dict.get?_set_self, Option.some.injEq] at hrow'
      rwa [hrow']
    · intro hle key row hrow
      by_cases hkey : record.key = key
      · subst hkey
        exact ⟨record, Dict.get?_set_self _ _ _, hle row hrow⟩
      · exact ⟨row, by rw [Dict.get?_set_ne _ hkey, hrow], le_refl _⟩
  unfold upsertOrder
  split
  · next hfits => exact iff_of_true (keepsUnits_refl rows) fun _ _ => .inl hfits
  · next hfits =>
    cases hstored : rows.get? record.key with
    | none =>
      dsimp only
      rw [hset, hstored]
      exact iff_of_true (fun _ h => absurd h (by simp)) fun _ h => absurd h (by simp)
    | some stored =>
      dsimp only
      split
      · next hle =>
        rw [hset, hstored]
        refine forall_congr' fun row => imp_congr_right fun hrow => ?_
        obtain rfl := Option.some.inj hrow
        refine ⟨fun h => .inr (.inr h), fun h => ?_⟩
        exact (h.resolve_left hfits).resolve_left (not_lt.mpr hle)
      · next hlater =>
        refine iff_of_true (keepsUnits_refl rows) fun row hrow => ?_
        obtain rfl := Option.some.inj hrow
        exact .inr (.inl (not_le.mp hlater))

/-- What a call writes of the units of a stored row. -/
theorem Sound.keeps_iff (h : Sound utcIso event payload existing) (stored : OrderRecord) :
    ((orderRecord event payload existing).fits = false ∨
      (orderRecord event payload existing).eventTs < stored.eventTs ∨
        stored.payload.receivedUnits ≤
          (orderRecord event payload existing).payload.receivedUnits) ↔
    ((∃ row, existing = some row ∧ (stored.payload.receivedUnits ≤ row.payload.receivedUnits ∨
        event.ts.instant < row.eventTs ∧ row.eventTs < stored.eventTs)) ∨
      ¬ Stale event existing ∧ (shipmentFits event payload = false ∨
        event.ts.instant < stored.eventTs ∨
          stored.payload.receivedUnits ≤ payload.receivedUnits)) := by
  have hfits := h.fits_iff
  cases existing with
  | none =>
    have hfresh : ¬ Stale event none := fun ⟨_, hrow, _⟩ => by cases hrow
    have hunfit : (orderRecord event payload none).fits = false ↔
        shipmentFits event payload = false := by
      rw [← Bool.not_eq_true, ← Bool.not_eq_true, hfits]
      exact not_congr (or_iff_right hfresh)
    rw [hunfit]
    exact ⟨fun hor => .inr ⟨hfresh, hor⟩,
      fun hor => (hor.resolve_left fun ⟨_, hrow, _⟩ => by cases hrow).2⟩
  | some row =>
    by_cases hstale : event.ts.instant < row.eventTs
    · have hold : Stale event (some row) := ⟨row, rfl, hstale⟩
      have hrow := hfits.mpr (.inl hold)
      rw [orderRecord_of_stale hstale] at hrow ⊢
      constructor
      · rintro (hunfit | hlater | hunits)
        · rw [hunfit] at hrow
          cases hrow
        · exact .inl ⟨row, rfl, .inr ⟨hstale, hlater⟩⟩
        · exact .inl ⟨row, rfl, .inl hunits⟩
      · rintro (⟨r, hr, hunits | ⟨-, hlater⟩⟩ | ⟨hnot, -⟩)
        · obtain rfl := Option.some.inj hr
          exact .inr (.inr hunits)
        · obtain rfl := Option.some.inj hr
          exact .inr (.inl hlater)
        · exact absurd hold hnot
    · have hnot : ¬ Stale event (some row) := by
        rintro ⟨r, hr, hlt⟩
        obtain rfl := Option.some.inj hr
        exact hstale hlt
      have hunfit : (orderRecord event payload (some row)).fits = false ↔
          shipmentFits event payload = false := by
        rw [← Bool.not_eq_true, ← Bool.not_eq_true, hfits]
        exact not_congr (or_iff_right hnot)
      rw [hunfit, orderRecord_of_fresh hstale]
      show _ ∨ event.ts.instant < stored.eventTs ∨
        stored.payload.receivedUnits ≤ max payload.receivedUnits row.payload.receivedUnits ↔ _
      rw [le_max_iff]
      constructor
      · rintro (hunfit | hlater | hunits | hunits)
        · exact .inr ⟨hnot, .inl hunfit⟩
        · exact .inr ⟨hnot, .inr (.inl hlater)⟩
        · exact .inr ⟨hnot, .inr (.inr hunits)⟩
        · exact .inl ⟨row, rfl, .inl hunits⟩
      · rintro (⟨r, hr, hunits | ⟨hlt, -⟩⟩ | ⟨-, hunfit | hlater | hunits⟩)
        · obtain rfl := Option.some.inj hr
          exact .inr (.inr (.inr hunits))
        · obtain rfl := Option.some.inj hr
          exact absurd hlt hstale
        · exact .inl hunfit
        · exact .inr (.inl hlater)
        · exact .inr (.inr (.inl hunits))

end Row

/-- What is pending in a call is sound. -/
def OrderStatement.Pending (utcIso : String → Option String) : OrderStatement → Prop
  | .get _ => True
  | .upsert event payload existing => Sound utcIso event payload existing
  | .select _ => True

/-- A statement takes no units away exactly when the units in the table are known to its call. -/
theorem OrderStatement.keepsUnits_iff {utcIso : String → Option String} {statement : OrderStatement}
    (h : statement.Pending utcIso) (rows : Orders) :
    KeepsUnits rows (statement.act rows) ↔ statement.KnowsUnits rows := by
  cases statement with
  | get key => exact iff_of_true (keepsUnits_refl rows) trivial
  | upsert event payload existing =>
    refine (keepsUnits_upsert_iff _ rows).trans ?_
    rw [Sound.record_key h]
    exact forall_congr' fun stored => imp_congr_right fun _ => Sound.keeps_iff h stored
  | select key => exact iff_of_true (keepsUnits_refl rows) trivial

/-! ## Calls at once -/

section Calls

variable {utcIso : String → Option String}

/-- A call keeps its statements sound, as long as the others keep the table one. -/
theorem observeRow_guarded (event : Event) {rows : Orders} (h : Table rows) :
    (observeRow utcIso event).Guarded OrderStatement.act (fun s t => Table s → Table t)
      (fun statement rows => Table rows ∧ statement.Pending utcIso) rows := by
  unfold observeRow
  split
  · trivial
  · trivial
  · next payload hvalid =>
    refine guarded_call_bind rfl fun rows₁ hrely₁ => ⟨⟨hrely₁ h, trivial⟩, ?_⟩
    refine guarded_call_bindExcept rfl fun rows₂ hrely₂ =>
      ⟨⟨hrely₂ (hrely₁ h), (hrely₁ h).sound hvalid⟩, fun _ _ => ?_⟩
    have htable := Table.act (hrely₂ (hrely₁ h)) (.upsert event payload
      (rows₁.get? (orderKey event payload)))
    exact fun rows₃ hrely₃ => ⟨rfl, ⟨hrely₃ htable, trivial⟩, trivial⟩

/-- The calls of a run, all about to begin. -/
def orderCalls {ι : Type} (utcIso : String → Option String) (event : ι → Event) (rows : Orders) :
    Pool ι OrderStatement Orders (Except Exc (Option OrderRecord)) :=
  ⟨rows, fun i => observeRow utcIso (event i)⟩

variable {ι : Type} [DecidableEq ι]

/-- The table and the calls are sound at any time. -/
structure CallsSound (utcIso : String → Option String)
    (w : Pool ι OrderStatement Orders (Except Exc (Option OrderRecord))) : Prop where
  table : Table w.store
  guarded : ∀ i, (w.program i).Guarded OrderStatement.act (fun s t => Table s → Table t)
    (fun statement rows => Table rows ∧ statement.Pending utcIso) w.store

theorem CallsSound.step {w : Pool ι OrderStatement Orders (Except Exc (Option OrderRecord))}
    (h : CallsSound utcIso w) (i : ι) :
    CallsSound utcIso (Pool.step w i).1 ∧
      ((w.program i).nextLabel = none ∧ (Pool.step w i).1 = w ∨
        ∃ statement, (w.program i).nextLabel = some statement ∧ statement.Pending utcIso ∧
          (Pool.step w i).1.store = statement.act w.store) := by
  obtain ⟨hguarded, hstep⟩ := guarded_tick (fun _ hs => hs) (fun _ _ _ hst htu hs => htu (hst hs))
    (fun statement _ hI _ => hI.1.act statement) h.guarded i
  rcases hstep with ⟨hnone, hsame⟩ | ⟨statement, hlabel, hI, hstore⟩
  · refine ⟨⟨?_, hguarded⟩, .inl ⟨hnone, hsame⟩⟩
    rw [Pool.step, hsame]
    exact h.table
  · refine ⟨⟨?_, hguarded⟩, .inr ⟨statement, hlabel, hI.2, hstore⟩⟩
    rw [Pool.step, hstore]
    exact h.table.act statement

/-- The step of a run takes no units away. -/
def KeepsReceipts
    (step : Step (Pool ι OrderStatement Orders (Except Exc (Option OrderRecord))) ι Unit) : Prop :=
  KeepsUnits step.before.store step.after.store

/-- The call that takes the step knows the units that are in the table. -/
def Informed
    (step : Step (Pool ι OrderStatement Orders (Except Exc (Option OrderRecord))) ι Unit) : Prop :=
  ∀ statement, (step.before.program step.input).nextLabel = some statement →
    statement.KnowsUnits step.before.store

theorem keepsReceipts_iff {event : ι → Event} {rows : Orders} (h : Table rows) {schedule : List ι}
    {step : Step (Pool ι OrderStatement Orders (Except Exc (Option OrderRecord))) ι Unit}
    (hm : step ∈ trace Pool.step (orderCalls utcIso event rows) schedule) :
    KeepsReceipts step ↔ Informed step := by
  obtain ⟨hsound, hstep⟩ := invariant_of_mem_trace (I := CallsSound utcIso)
    (fun w i hw => (hw.step i).1) ⟨h, fun i => observeRow_guarded (event i) h⟩ hm
  unfold KeepsReceipts Informed
  rw [hstep]
  show KeepsUnits step.before.store (Pool.step step.before step.input).1.store ↔ _
  rcases (hsound.step step.input).2 with ⟨hnone, hsame⟩ | ⟨statement, hlabel, hpending, hstore⟩
  · rw [hsame]
    refine iff_of_true (keepsUnits_refl _) fun statement hlabel => ?_
    rw [show (stepOf Pool.step step.before step.input).before = step.before from rfl,
      show (stepOf Pool.step step.before step.input).input = step.input from rfl, hnone] at hlabel
    cases hlabel
  · rw [hstore, statement.keepsUnits_iff hpending]
    refine ⟨fun hknows other hother => ?_, fun hall => hall statement hlabel⟩
    rw [show (stepOf Pool.step step.before step.input).before = step.before from rfl,
      show (stepOf Pool.step step.before step.input).input = step.input from rfl, hlabel,
      Option.some.injEq] at hother
    rw [← hother]
    exact hknows

end Calls

/-! ## One call after another -/

section Serially

variable {utcIso : String → Option String}

/-- The table after calls one after another. -/
def observeRows (utcIso : String → Option String) (events : List Event) (rows : Orders) : Orders :=
  events.foldl (fun rows event => ((observeRow utcIso event).run rows).1) rows

/-- The columns hold what a call writes: its event is older than the row of its order, or they hold
its shipment. -/
def CallFits (utcIso : String → Option String) (event : Event) (rows : Orders) : Prop :=
  ∀ payload, shipmentPayload utcIso event = .ok (some payload) →
    Stale event (rows.get? (orderKey event payload)) ∨ shipmentFits event payload = true

/-- They hold what each of the calls writes. -/
def AllFit (utcIso : String → Option String) : List Event → Orders → Prop
  | [], _ => True
  | event :: events, rows =>
    CallFits utcIso event rows ∧ AllFit utcIso events (observeEvent utcIso event rows).1

variable {event : Event} {payload : ShipmentPayload}

theorem run_observeRow (hvalid : shipmentPayload utcIso event = .ok (some payload)) (rows : Orders) :
    ((observeRow utcIso event).run rows).1
      = (upsertOrder (orderRecord event payload (rows.get? (orderKey event payload))) rows).1 := by
  unfold observeRow bindExcept
  simp only [hvalid]
  rw [run_bind, run_call]
  dsimp only
  rw [run_bind, run_call]
  cases (upsertOrder (orderRecord event payload (rows.get? (orderKey event payload))) rows).2 with
  | error e => rfl
  | ok u => rfl

variable {rows : Orders}

/-- What a call alone writes is not older than the row it has read. -/
theorem upsertOrder_alone (h : Sound utcIso event payload (rows.get? (orderKey event payload))) :
    (upsertOrder (orderRecord event payload (rows.get? (orderKey event payload))) rows).1
      = if (orderRecord event payload (rows.get? (orderKey event payload))).fits = false then rows
        else rows.set (orderKey event payload)
          (orderRecord event payload (rows.get? (orderKey event payload))) := by
  unfold upsertOrder
  rw [h.record_key]
  split
  · rfl
  · cases hstored : rows.get? (orderKey event payload) with
    | none => rfl
    | some stored =>
      have hle : stored.eventTs ≤ (orderRecord event payload (some stored)).eventTs := by
        by_cases hstale : event.ts.instant < stored.eventTs
        · rw [orderRecord_of_stale hstale]
        · rw [orderRecord_of_fresh hstale]
          exact not_lt.mp hstale
      dsimp only
      rw [if_pos hle]

/-- A call alone does what the in-memory store does exactly when the columns hold what it writes. -/
theorem observeRow_eq_iff (event : Event) (h : Table rows) :
    ((observeRow utcIso event).run rows).1 = (observeEvent utcIso event rows).1 ↔
      CallFits utcIso event rows := by
  cases hpayload : shipmentPayload utcIso event with
  | error e =>
    refine iff_of_true ?_ fun payload hvalid => by
      rw [hpayload] at hvalid
      cases hvalid
    unfold observeRow observeEvent
    rw [hpayload]
    rfl
  | ok shipment =>
    cases shipment with
    | none =>
      refine iff_of_true ?_ fun payload hvalid => by
        rw [hpayload] at hvalid
        cases hvalid
      unfold observeRow observeEvent
      rw [hpayload]
      rfl
    | some payload =>
      have hsound := h.sound hpayload
      have hmemory : (observeEvent utcIso event rows).1 = rows.set (orderKey event payload)
          (orderRecord event payload (rows.get? (orderKey event payload))) := by
        unfold observeEvent
        rw [hpayload]
        rfl
      have hcall : CallFits utcIso event rows ↔
          (orderRecord event payload (rows.get? (orderKey event payload))).fits = true := by
        rw [hsound.fits_iff]
        refine ⟨fun hall => hall payload hpayload, fun hfits other hother => ?_⟩
        rw [hpayload, Except.ok.injEq, Option.some.injEq] at hother
        rw [← hother]
        exact hfits
      rw [run_observeRow hpayload, upsertOrder_alone hsound, hmemory, hcall]
      by_cases hfits : (orderRecord event payload (rows.get? (orderKey event payload))).fits = true
      · rw [if_neg (by rw [hfits]; simp)]
        exact iff_of_true rfl hfits
      · rw [if_pos (Bool.not_eq_true _ ▸ hfits)]
        refine iff_of_false (fun hsame => hfits ?_) hfits
        have hget := congrArg (Dict.get? · (orderKey event payload)) hsame
        rw [Dict.get?_set_self] at hget
        exact h.fits _ _ hget

theorem Table.observe (event : Event) (h : Table rows) (hfits : CallFits utcIso event rows) :
    Table (observeEvent utcIso event rows).1 := by
  rw [← (observeRow_eq_iff event h).mpr hfits]
  cases hpayload : shipmentPayload utcIso event with
  | error e =>
    unfold observeRow
    rw [hpayload]
    exact h
  | ok shipment =>
    cases shipment with
    | none =>
      unfold observeRow
      rw [hpayload]
      exact h
    | some payload =>
      rw [run_observeRow hpayload]
      exact h.upsert _

/-- Calls one after another leave at any time the table as the in-memory store exactly when the
columns hold what each of them writes. -/
theorem observeRows_eq_iff (events : List Event) (h : Table rows) :
    (∀ n, observeRows utcIso (events.take n) rows = observeAll utcIso (events.take n) rows) ↔
      AllFit utcIso events rows := by
  induction events generalizing rows with
  | nil => exact iff_of_true (fun n => by rw [List.take_nil]; rfl) trivial
  | cons event events ih =>
    rw [AllFit, ← observeRow_eq_iff event h]
    constructor
    · intro hall
      have hfirst : ((observeRow utcIso event).run rows).1 = (observeEvent utcIso event rows).1 :=
        hall 1
      refine ⟨hfirst, (ih (h.observe event ((observeRow_eq_iff event h).mp hfirst))).mp fun n => ?_⟩
      have hnext := hall (n + 1)
      rw [List.take_succ_cons, observeRows, observeAll, List.foldl_cons, List.foldl_cons, hfirst]
        at hnext
      exact hnext
    · rintro ⟨hfirst, hrest⟩ n
      cases n with
      | zero => rfl
      | succ n =>
        rw [List.take_succ_cons, observeRows, observeAll, List.foldl_cons, List.foldl_cons, hfirst]
        exact (ih (h.observe event ((observeRow_eq_iff event h).mp hfirst))).mpr hrest n

theorem runAll_orderCalls {ι : Type} (event : ι → Event) (order : List ι) (rows : Orders) :
    runAll (orderCalls utcIso event rows).program order rows
      = observeRows utcIso (order.map event) rows := by
  rw [runAll, observeRows, List.foldl_map]
  rfl

end Serially

/-! ## The ledger among concurrent calls -/

/-- **Receipts.** In a run of concurrent calls no statement takes received units away exactly when
every call that writes knows the units in the table. When the calls do not overlap, the table is what
the in-memory store has after the same calls, as long as the columns hold what they write; calls one
after another agree with the in-memory store at any time exactly then. -/
theorem receipts_kept_iff {ι : Type} [DecidableEq ι] (utcIso : String → Option String)
    (event : ι → Event) {rows : Orders} (h : Table rows) (schedule : List ι) :
    ((∀ step ∈ trace Pool.step (orderCalls utcIso event rows) schedule, KeepsReceipts step) ↔
      ∀ step ∈ trace Pool.step (orderCalls utcIso event rows) schedule, Informed step) ∧
    (Apart (trace Pool.step (orderCalls utcIso event rows) schedule) →
      (∀ i ∈ schedule, ((final Pool.step (orderCalls utcIso event rows) schedule).program
        i).nextLabel = none) →
      AllFit utcIso ((started schedule).map event) rows →
        (final Pool.step (orderCalls utcIso event rows) schedule).store
          = observeAll utcIso ((started schedule).map event) rows) ∧
    (∀ events, (∀ n, observeRows utcIso (events.take n) rows
        = observeAll utcIso (events.take n) rows) ↔ AllFit utcIso events rows) := by
  refine ⟨forall₂_congr fun step hm => keepsReceipts_iff h hm, fun hapart hquiet hfits => ?_,
    fun events => observeRows_eq_iff events h⟩
  have hall := (observeRows_eq_iff _ h).mpr hfits ((started schedule).map event).length
  rw [List.take_length] at hall
  rw [← hall, ← runAll_orderCalls]
  exact store_of_apart hapart hquiet

/-- Two deliveries of an order at once: twelve units, and then, dated later, five. -/
def overlapping (second : Bool) : Event := if second then fiveReceived.event else twelveReceived.event

/-- One after the other they leave the table as the in-memory store. -/
theorem receipts_kept_apart :
    observeRows (fun _ => none) [twelveReceived.event, fiveReceived.event] Dict.empty
      = observeAll (fun _ => none) [twelveReceived.event, fiveReceived.event] Dict.empty := by
  refine ((receipts_kept_iff (fun _ => none) overlapping table_empty []).2.2
    [twelveReceived.event, fiveReceived.event]).mpr
    ⟨fun payload hvalid => .inr ?_, fun payload hvalid => .inr ?_, trivial⟩ 2
  · obtain rfl := Option.some.inj (Except.ok.inj (twelveReceived.valid.symm.trans hvalid))
    decide +kernel
  · obtain rfl := Option.some.inj (Except.ok.inj (fiveReceived.valid.symm.trans hvalid))
    decide +kernel

/-- Both calls read before either writes, and the twelve units are overwritten by five; the in-memory
store keeps them. -/
theorem receipt_lost :
    (final Pool.step (orderCalls (fun _ => none) overlapping Dict.empty) [false, true, false]).store.get?
        ⟨"north", .operationalTwin, "PO-1"⟩ = some ⟨"north", .operationalTwin,
          ⟨"PO-1", "SKU-1", "supplier-1", 20, 12, none⟩, 8, .open, "shipment-1", 1⟩ ∧
      (final Pool.step (orderCalls (fun _ => none) overlapping Dict.empty)
        [false, true, false, true]).store.get? ⟨"north", .operationalTwin, "PO-1"⟩
          = some ⟨"north", .operationalTwin,
            ⟨"PO-1", "SKU-1", "supplier-1", 20, 5, none⟩, 15, .open, "shipment-2", 2⟩ := by
  decide +kernel

end ShelfWise.Ingest
