import ShelfWise.Catalog.Store
import ShelfWise.Ingest.Inbound
import ShelfWise.Sys.Fallible

/-!
# Committing product rows

`_commit_product_record` of `shelfwise_backend/app.py`: a product row goes through the intake of
inbound records, and a row that is new and valid writes its product, its variant and up to three
codes, one after another. A code that is mapped to another variant is collected as a conflict, and
the writes before and after it stay.

`catalog_write_once` says what holds over every run all the same: a mapping is never changed, every
code resolves to a variant whose product is there, and a row with conflicts touches its own product,
its own variant and codes that were free.
-/

namespace ShelfWise.Catalog

open Py Sys Connectors Ingest

/-! ## The program -/

/-- The stores that a product row is written to. -/
structure CommitState where
  inbound : InboundState
  catalog : ProductCatalogStore

/-- `_catalog_hash`. -/
def catalogHash (tenantId value : String) : String := take 16 (sha256 (tenantId ++ ":" ++ value))

/-- The name of a row. -/
def rowName (canonical : List (String × Value)) : String :=
  ((Value.get canonical "name").orElse (.str "")).toText

/-- The id of the product family of a row. -/
def rowProductId (tables : CharTables) (record : InboundRecord) : String :=
  "prod_" ++ catalogHash record.tenantId (tables.lowerText (rowName record.canonicalPayload))

/-- The id of the variant of a row. -/
def rowVariantId (tables : CharTables) (record : InboundRecord) : String :=
  let primaryCode :=
    ((Value.get record.canonicalPayload "source_product_id").orElse (.str "")).toText
  "var_" ++ catalogHash record.tenantId (primaryCode ++ "|" ++ rowProductId tables record)

/-- The codes of a row: those that were mapped, and those refused, with the message. -/
structure RowCodes where
  identifiers : List (IdentifierKind × String)
  conflicts : List (IdentifierKind × String × String)

/-- The kinds of code that a row may carry. -/
def rowKinds : List IdentifierKind := [.sku, .barcode, .gtin]

/-- `upsert_identifier` of one code of a row, with its conflict collected. -/
def upsertCode (identifier : ProductIdentifier) (found : RowCodes) :
    Fallible ProductCatalogStore Exc RowCodes := fun s =>
  match s.upsertIdentifier identifier with
  | .ok s' =>
    (s', .ok { found with
      identifiers := found.identifiers ++ [(identifier.kind, identifier.value)] })
  | .error detail =>
    (s, .ok { found with
      conflicts := found.conflicts ++ [(identifier.kind, identifier.value, detail)] })

/-- The loop over the codes of a row. -/
def upsertCodes (record : InboundRecord) (variantId : String) :
    List IdentifierKind → RowCodes → Fallible ProductCatalogStore Exc RowCodes
  | [], found => .ret found
  | kind :: kinds, found =>
    let value := Value.get record.canonicalPayload kind.value
    if value.truthy then
      Fallible.ofExcept (ProductIdentifier.build record.tenantId variantId kind value.toText
          (some SourceSystem.csv.value)) >>= fun identifier =>
        upsertCode identifier found >>= upsertCodes record variantId kinds
    else upsertCodes record variantId kinds found

/-- The product and the variant of a row. -/
def rowEntities (tables : CharTables) (record : InboundRecord) :
    Except Exc (Product × ProductVariant) := do
  let canonical := record.canonicalPayload
  let product ← Product.build record.tenantId (rowProductId tables record) (rowName canonical)
    (Value.get canonical "category") (Value.get canonical "brand")
  let variant ← ProductVariant.build record.tenantId (rowVariantId tables record)
    (rowProductId tables record) (Value.get canonical "pack_size")
    (Value.get canonical "unit_of_measure") false
  .ok (product, variant)

/-- What a row was answered with. -/
inductive CommitOutcome where
  | inbound (outcome : InboundOutcome)
  | invalid (outcome : InboundOutcome) (e : Exc)
  | catalog (outcome : InboundOutcome) (productId variantId : String) (codes : RowCodes)

/-- The status of an inbound row. -/
def inboundStatus : InboundOutcome → String
  | .duplicate _ => "duplicate"
  | .invalid _ => "invalid"
  | .recorded _ => "recorded"
  | .processed _ (.duplicate _) => "duplicate"
  | .processed _ (.accepted _ _ _ _ _) => "accepted"

/-- The status of a row. -/
def CommitOutcome.status : CommitOutcome → String
  | .inbound outcome => inboundStatus outcome
  | .invalid _ _ => "invalid"
  | .catalog _ _ _ codes => if codes.conflicts = [] then "cataloged" else "identifier_conflict"

/-- The part of `_commit_product_record` that writes to the catalog. -/
def catalogRow (tables : CharTables) (record : InboundRecord) (outcome : InboundOutcome) :
    Fallible ProductCatalogStore Exc CommitOutcome :=
  match rowEntities tables record with
  | .error e => .ret (.invalid outcome e)
  | .ok (product, variant) =>
    Fallible.update (fun s => (s.upsertProduct product).upsertVariant variant) >>= fun _ =>
      upsertCodes record variant.variantId rowKinds ⟨[], []⟩ >>= fun codes =>
        .ret (.catalog outcome product.productId variant.variantId codes)

/-- `_commit_product_record`. -/
def commitProductRecord (env : Intake) (tables : CharTables) (now : Timestamp)
    (record : InboundRecord) : Fallible CommitState Exc CommitOutcome := fun s =>
  let inbound := (processInboundRecord env now record).run s.inbound
  match inbound.2 with
  | .error e => ({ s with inbound := inbound.1 }, .error e)
  | .ok outcome =>
    if inboundStatus outcome ≠ "recorded" then
      ({ s with inbound := inbound.1 }, .ok (.inbound outcome))
    else
      let catalog := (catalogRow tables record outcome).run s.catalog
      (⟨inbound.1, catalog.1⟩, catalog.2)

/-! ## What a row writes -/

/-- A code of the row. -/
structure HasCode (record : InboundRecord) (key : IdentifierKey) : Prop where
  tenantId : key.tenantId = record.tenantId
  kind : key.kind ∈ rowKinds
  truthy : (Value.get record.canonicalPayload key.kind.value).truthy = true
  value : key.value = (Value.get record.canonicalPayload key.kind.value).toText

/-- The loop over the codes maps free codes of the row, and its new conflicts are codes that another
variant has. -/
structure Linked (record : InboundRecord) (variantId : String) (s : ProductCatalogStore)
    (found codes : RowCodes) (s' : ProductCatalogStore) : Prop where
  extends_ : s.Extends variantId (HasCode record) s'
  conflicts : ∀ c ∈ codes.conflicts, c ∈ found.conflicts ∨
    ∃ other, other ≠ variantId ∧
      s.identifiers.get? ⟨record.tenantId, c.1, c.2.1⟩ = some other

section Rows

variable {record : InboundRecord} {variantId : String} {s : ProductCatalogStore}
  {found : RowCodes}

theorem Linked.trans {middle codes : RowCodes} {s' s'' : ProductCatalogStore}
    (h : Linked record variantId s found middle s')
    (h' : Linked record variantId s' middle codes s'') :
    Linked record variantId s found codes s'' where
  extends_ := h.extends_.trans h'.extends_
  conflicts := by
    intro c hc
    rcases h'.conflicts c hc with hmiddle | ⟨other, hother, hmapped⟩
    · exact h.conflicts c hmiddle
    · refine .inr ⟨other, hother, ?_⟩
      rcases h.extends_.identifiers ⟨record.tenantId, c.1, c.2.1⟩ with he | ⟨-, -, hv⟩
      · rw [← he, hmapped]
      · rw [hv, Option.some.injEq] at hmapped
        exact absurd hmapped.symm hother

theorem run_upsertCode_of_ok {identifier : ProductIdentifier} {s' : ProductCatalogStore}
    (h : s.upsertIdentifier identifier = .ok s') :
    (upsertCode identifier found).run s = (s', .ok { found with
      identifiers := found.identifiers ++ [(identifier.kind, identifier.value)] }) := by
  unfold Fallible.run upsertCode
  simp only [h]

theorem run_upsertCode_of_error {identifier : ProductIdentifier} {detail : String}
    (h : s.upsertIdentifier identifier = .error detail) :
    (upsertCode identifier found).run s = (s, .ok { found with
      conflicts := found.conflicts ++ [(identifier.kind, identifier.value, detail)] }) := by
  unfold Fallible.run upsertCode
  simp only [h]

theorem meets_upsertCode {identifier : ProductIdentifier} (hvariant : identifier.variantId = variantId)
    (hcode : HasCode record identifier.key) {E : Exc → ProductCatalogStore → Prop} :
    (upsertCode identifier found).Meets s (Linked record variantId s found) E := by
  subst hvariant
  cases hupsert : s.upsertIdentifier identifier with
  | ok next =>
    refine Fallible.meets_of_run (run_upsertCode_of_ok hupsert) ?_
    exact ⟨ProductCatalogStore.extends_upsertIdentifier hupsert hcode, fun c hc => .inl hc⟩
  | error detail =>
    refine Fallible.meets_of_run (run_upsertCode_of_error hupsert) ?_
    refine ⟨ProductCatalogStore.extends_refl s, fun c hc => ?_⟩
    rcases List.mem_append.mp hc with hfound | hnew
    · exact .inl hfound
    · rw [List.mem_singleton] at hnew
      subst hnew
      obtain ⟨existing, hexisting⟩ := ProductCatalogStore.exists_of_upsertIdentifier_error hupsert
      obtain ⟨hmapped, hne⟩ := ProductCatalogStore.mappedElsewhere_eq_some_iff.mp hexisting
      have hkey : identifier.key = ⟨record.tenantId, identifier.kind, identifier.value⟩ := by
        rw [← hcode.tenantId]
        rfl
      exact .inr ⟨existing, hne, hkey ▸ hmapped⟩

/-- The loop over the codes, by recursion on the kinds that are left. -/
theorem meets_upsertCodes {kinds : List IdentifierKind} (hkinds : ∀ kind ∈ kinds, kind ∈ rowKinds) :
    (upsertCodes record variantId kinds found).Meets s (Linked record variantId s found)
      fun _ s' => s.Extends variantId (HasCode record) s' := by
  induction kinds generalizing found s with
  | nil =>
    exact Fallible.meets_ret ⟨ProductCatalogStore.extends_refl s, fun c hc => .inl hc⟩
  | cons kind kinds ih =>
    have hrest := fun kind' hkind => hkinds kind' (List.mem_cons_of_mem _ hkind)
    rw [upsertCodes]
    by_cases htruthy : (Value.get record.canonicalPayload kind.value).truthy = true
    · rw [if_pos htruthy]
      refine Fallible.meets_bind (Fallible.meets_ofExcept ?_ ?_)
      · intro identifier hbuild
        obtain ⟨htenant, hvariant, hkind, hvalue⟩ := ProductIdentifier.of_build hbuild
        have hcode : HasCode record identifier.key := by
          refine ⟨htenant, ?_, ?_, ?_⟩
          · show identifier.kind ∈ rowKinds
            rw [hkind]
            exact hkinds kind List.mem_cons_self
          · show (Value.get record.canonicalPayload identifier.kind.value).truthy = true
            rw [hkind]
            exact htruthy
          · show identifier.value = (Value.get record.canonicalPayload identifier.kind.value).toText
            rw [hvalue, hkind]
        refine Fallible.meets_bind ((meets_upsertCode hvariant hcode).mono ?_ fun _ _ h => h)
        intro middle s' hmiddle
        refine (ih hrest).mono (fun codes s'' hcodes => hmiddle.trans hcodes) ?_
        exact fun _ s'' herror => hmiddle.extends_.trans herror
      · exact fun _ _ => ProductCatalogStore.extends_refl s
    · rw [if_neg htruthy]
      exact ih hrest

/-- The product and the variant of a row stand under its ids. -/
theorem ids_of_rowEntities {tables : CharTables} {product : Product} {variant : ProductVariant}
    (h : rowEntities tables record = .ok (product, variant)) :
    (product.tenantId = record.tenantId ∧ product.productId = rowProductId tables record) ∧
      variant.tenantId = record.tenantId ∧ variant.variantId = rowVariantId tables record ∧
        variant.productId = rowProductId tables record := by
  obtain ⟨p, hp, h⟩ := bind_eq_ok_iff.mp h
  obtain ⟨v, hv, h⟩ := bind_eq_ok_iff.mp h
  cases h
  exact ⟨Product.of_build hp, ProductVariant.of_build hv⟩

end Rows

/-- A row touches its own product, its own variant, and codes of its own that were free. -/
structure Confined (tables : CharTables) (record : InboundRecord) (s s' : ProductCatalogStore) :
    Prop where
  products : ∀ key, key ≠ (record.tenantId, rowProductId tables record) →
    s'.products.get? key = s.products.get? key
  variants : ∀ key, key ≠ (record.tenantId, rowVariantId tables record) →
    s'.variants.get? key = s.variants.get? key
  identifiers : ∀ key, s'.identifiers.get? key = s.identifiers.get? key ∨
    s.identifiers.get? key = none ∧ HasCode record key ∧
      s'.identifiers.get? key = some (rowVariantId tables record)

/-- The conflicts of an answer are codes that a variant other than the row's has. -/
def ConflictsHeld (tables : CharTables) (record : InboundRecord) (s : ProductCatalogStore) :
    CommitOutcome → Prop
  | .catalog _ _ _ codes => ∀ c ∈ codes.conflicts, ∃ other, other ≠ rowVariantId tables record ∧
      s.identifiers.get? ⟨record.tenantId, c.1, c.2.1⟩ = some other
  | _ => True

section Commit

variable {tables : CharTables} {record : InboundRecord} {s s' s'' : ProductCatalogStore}

theorem Confined.kept (h : Confined tables record s s') {key : IdentifierKey} {variantId : String}
    (hkey : s.identifiers.get? key = some variantId) :
    s'.identifiers.get? key = some variantId := by
  rcases h.identifiers key with he | ⟨hnone, -, -⟩
  · rw [he, hkey]
  · rw [hnone] at hkey
    cases hkey

theorem confined_refl (s : ProductCatalogStore) : Confined tables record s s :=
  ⟨fun _ _ => rfl, fun _ _ => rfl, fun _ => .inl rfl⟩

/-- What a row writes: a change confined to it, which keeps every code resolved. -/
structure RowWrites (tables : CharTables) (record : InboundRecord) (s s' : ProductCatalogStore) :
    Prop where
  confined : Confined tables record s s'
  sound : s.Sound → s'.Sound

theorem rowWrites_refl (s : ProductCatalogStore) : RowWrites tables record s s :=
  ⟨confined_refl s, id⟩

/-- Writing the product and the variant, and then codes. -/
theorem rowWrites_of_extends {product : Product} {variant : ProductVariant}
    (hentities : rowEntities tables record = .ok (product, variant))
    (h : ((s.upsertProduct product).upsertVariant variant).Extends variant.variantId
      (HasCode record) s') : RowWrites tables record s s' := by
  obtain ⟨⟨hptenant, hpid⟩, hvtenant, hvid, hvproduct⟩ := ids_of_rowEntities hentities
  have hproductKey : (product.tenantId, product.productId)
      = (record.tenantId, rowProductId tables record) := by rw [hptenant, hpid]
  have hvariantKey : (variant.tenantId, variant.variantId)
      = (record.tenantId, rowVariantId tables record) := by rw [hvtenant, hvid]
  refine ⟨⟨?_, ?_, ?_⟩, ?_⟩
  · intro key hkey
    rw [h.products]
    exact Dict.get?_set_ne _ (hproductKey ▸ hkey.symm) _
  · intro key hkey
    rw [h.variants]
    exact Dict.get?_set_ne _ (hvariantKey ▸ hkey.symm) _
  · intro key
    rw [← hvid]
    exact h.identifiers key
  · intro hsound
    refine h.sound (ProductCatalogStore.sound_upsert hsound (hvtenant.trans hptenant.symm)
      (hvproduct.trans hpid.symm)) ?_
    intro key hcode
    refine ⟨variant, product, ?_, ?_⟩
    · rw [hcode.tenantId, ← hvtenant]
      exact Dict.get?_set_self _ _ _
    · rw [hcode.tenantId, ← hptenant, hvproduct, ← hpid]
      exact Dict.get?_set_self _ _ _

variable (tables record s) in
/-- A row's writes, whether it is answered or raises, and the conflicts it is answered with. -/
theorem meets_catalogRow (outcome : InboundOutcome) :
    (catalogRow tables record outcome).Meets s
      (fun answer s' => RowWrites tables record s s' ∧ ConflictsHeld tables record s answer)
      fun _ s' => RowWrites tables record s s' := by
  unfold catalogRow
  cases hentities : rowEntities tables record with
  | error e => exact Fallible.meets_ret ⟨rowWrites_refl s, trivial⟩
  | ok entities =>
    obtain ⟨product, variant⟩ := entities
    have hvid := (ids_of_rowEntities hentities).2.2.1
    refine Fallible.meets_bind (Fallible.meets_update (Fallible.meets_bind ?_))
    refine (meets_upsertCodes fun kind hkind => hkind).mono ?_ ?_
    · intro codes s' hlinked
      refine Fallible.meets_ret ⟨rowWrites_of_extends hentities hlinked.extends_, ?_⟩
      intro c hc
      rcases hlinked.conflicts c hc with hnew | ⟨other, hother, hmapped⟩
      · cases hnew
      · exact ⟨other, hvid ▸ hother, hmapped⟩
    · exact fun _ s' hextends => rowWrites_of_extends hentities hextends

variable (tables record) in
/-- A committed row, whatever it is answered with. -/
theorem rowWrites_commitProductRecord (env : Intake) (now : Timestamp) (s : CommitState) :
    RowWrites tables record s.catalog ((commitProductRecord env tables now record).run s).1.catalog ∧
      ∀ answer, ((commitProductRecord env tables now record).run s).2 = .ok answer →
        ConflictsHeld tables record s.catalog answer := by
  unfold Fallible.run commitProductRecord
  cases hinbound : ((processInboundRecord env now record).run s.inbound).2 with
  | error e =>
    simp only [hinbound]
    exact ⟨rowWrites_refl _, fun _ h => by cases h⟩
  | ok outcome =>
    simp only [hinbound]
    by_cases hstatus : inboundStatus outcome ≠ "recorded"
    · rw [if_pos hstatus]
      refine ⟨rowWrites_refl _, fun answer h => ?_⟩
      cases h
      trivial
    · rw [if_neg hstatus]
      have hrow := meets_catalogRow tables record s.catalog outcome
      rcases hrun : (catalogRow tables record outcome).run s.catalog with ⟨s', e | answer⟩
      · exact ⟨hrow.error _ _ hrun, fun _ h => by cases h⟩
      · obtain ⟨hwrites, hheld⟩ := hrow.ok _ _ hrun
        refine ⟨hwrites, fun answer' h => ?_⟩
        cases h
        exact hheld

end Commit

/-! ## Runs -/

/-- The state with nothing in the catalog. -/
def CommitState.fresh (inbound : InboundState) : CommitState := ⟨inbound, .empty⟩

/-- One committed row of a run. -/
def commitStep (env : Intake) (tables : CharTables) (s : CommitState)
    (row : Timestamp × InboundRecord) : CommitState × Except Exc CommitOutcome :=
  (commitProductRecord env tables row.1 row.2).run s

/-- Over every run of committed rows a mapping is never changed, every code resolves to a variant
whose product is there, and a row with conflicts writes its own product, its own variant and free codes
of its own only, while each of its conflicts is a code of another variant. -/
theorem catalog_write_once (env : Intake) (tables : CharTables) (inbound : InboundState)
    (rows : List (Timestamp × InboundRecord)) :
    (∀ past later key variantId, rows = past ++ later →
      (final (commitStep env tables) (.fresh inbound) past).catalog.identifiers.get? key
        = some variantId →
      (final (commitStep env tables) (.fresh inbound) rows).catalog.identifiers.get? key
        = some variantId) ∧
    (final (commitStep env tables) (.fresh inbound) rows).catalog.Sound ∧
    ∀ step ∈ trace (commitStep env tables) (.fresh inbound) rows, ∀ answer,
      step.output = .ok answer → answer.status = "identifier_conflict" →
        Confined tables step.input.2 step.before.catalog step.after.catalog ∧
          ConflictsHeld tables step.input.2 step.before.catalog answer := by
  refine ⟨?_, ?_, ?_⟩
  · intro past later key variantId hrows hkey
    rw [hrows, final_append]
    refine invariant_final (I := fun s : CommitState =>
      s.catalog.identifiers.get? key = some variantId) ?_ hkey later
    exact fun s row h => (rowWrites_commitProductRecord tables row.2 env row.1 s).1.confined.kept h
  · refine invariant_final (I := fun s : CommitState => s.catalog.Sound) ?_ ?_ rows
    · exact fun s row h => (rowWrites_commitProductRecord tables row.2 env row.1 s).1.sound h
    · intro key variantId hkey
      cases hkey
  · intro step hstep answer hanswer _
    obtain ⟨-, hstep⟩ := invariant_of_mem_trace (I := fun _ => True) (fun _ _ h => h) trivial hstep
    rw [hstep] at hanswer ⊢
    obtain ⟨hwrites, hheld⟩ := rowWrites_commitProductRecord tables step.input.2
      env step.input.1 step.before
    exact ⟨hwrites.confined, hheld answer hanswer⟩

/-- A product row of an imported file. -/
def productRow (objectId name : String) (barcode : Value) : InboundRecord where
  tenantId := "tenant_a"
  sourceSystem := .csv
  sourceObjectType := "csv_products_row"
  sourceObjectId := objectId
  eventTime := ⟨2000000, "2026-07-01T00:00:02+00:00"⟩
  rawPayload := [("line", .int 2), ("sku", .str objectId), ("name", .str name)]
  canonicalType := "product_master"
  correlationId := objectId
  canonicalPayload := [("tenant_id", .str "tenant_a"), ("source_system", .str "csv"),
    ("source_product_id", .str objectId), ("sku", .str objectId), ("gtin", .none),
    ("barcode", barcode), ("name", .str name), ("category", .none), ("brand", .none),
    ("pack_size", .none), ("unit_of_measure", .none)]
  validation := .passed
  sourceQuality := ⟨.finite 1, "1.0"⟩
  actor := none

/-- Tables that leave text outside ASCII as it is. -/
def plainTables : CharTables := ⟨fun _ => false, id⟩

/-- The catalog with one row in it. -/
def milkState : CommitState :=
  (commitStep stockIntake plainTables (.fresh ⟨Dict.empty, .empty⟩)
    (⟨8, ""⟩, productRow "milk_1" "Full Cream" .none)).1

/-- The row of another product under the same code, with a new barcode. -/
def lowFatRow : Timestamp × InboundRecord :=
  (⟨9, ""⟩, productRow "milk_1" "Low Fat" (.str "6001"))

/-- The code is refused, and the barcode is mapped. -/
theorem lowFatRow_conflict :
    (commitStep stockIntake plainTables milkState lowFatRow).2.toOption.map CommitOutcome.status
        = some "identifier_conflict" ∧
      milkState.catalog.identifiers.get? ⟨"tenant_a", .barcode, "6001"⟩ = none ∧
      (commitStep stockIntake plainTables milkState lowFatRow).1.catalog.identifiers.get?
        ⟨"tenant_a", .barcode, "6001"⟩ ≠ none := by
  decide +kernel

/-- A row with a conflict leaves its other writes. -/
theorem conflict_keeps_writes :
    ¬ ∀ (env : Intake) (tables : CharTables) (inbound : InboundState)
      (rows : List (Timestamp × InboundRecord)),
      ∀ step ∈ trace (commitStep env tables) (.fresh inbound) rows, ∀ answer,
        step.output = .ok answer → answer.status = "identifier_conflict" →
          step.after.catalog = step.before.catalog := by
  intro h
  obtain ⟨hstatus, hbefore, hafter⟩ := lowFatRow_conflict
  obtain ⟨answer, hanswer, hconflict⟩ := Option.map_eq_some_iff.mp hstatus
  have hok := ok_of_toOption hanswer
  have hsame := h stockIntake plainTables ⟨Dict.empty, .empty⟩
    [(⟨8, ""⟩, productRow "milk_1" "Full Cream" .none), lowFatRow]
    (stepOf (commitStep stockIntake plainTables) milkState lowFatRow)
    (List.mem_cons_of_mem _ List.mem_cons_self) answer hok hconflict
  have hcatalog : (commitStep stockIntake plainTables milkState lowFatRow).1.catalog
      = milkState.catalog := hsame
  rw [hcatalog] at hafter
  exact hafter hbefore

end ShelfWise.Catalog
