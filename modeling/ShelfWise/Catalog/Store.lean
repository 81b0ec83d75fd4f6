import ShelfWise.Py.Value

/-!
# The product catalog

The records of `shelfwise_catalog/models.py`, with what their constructors check, and
`InMemoryProductCatalogStore` of `shelfwise_catalog/store.py`: product families, their variants, and
the codes a variant is resolved by. A code that is mapped to another variant is refused
(`upsertIdentifier`), so a catalog only ever grows mappings (`Extends`).
-/

namespace ShelfWise.Catalog

open Py

/-! ## Records -/

/-- `IDENTIFIER_KINDS`. -/
inductive IdentifierKind where
  | gtin
  | barcode
  | sku
  | plu
  | sourceSystemId
deriving DecidableEq

/-- The text of a kind. -/
def IdentifierKind.value : IdentifierKind → String
  | .gtin => "gtin"
  | .barcode => "barcode"
  | .sku => "sku"
  | .plu => "plu"
  | .sourceSystemId => "source_system_id"

/-- `Product`, with what its constructor has checked. -/
structure Product where
  tenantId : String
  productId : String
  name : String
  category : Value
  brand : Value
  tenantId_nonblank : strip tenantId ≠ ""
  productId_nonblank : strip productId ≠ ""
  name_nonblank : strip name ≠ ""
deriving DecidableEq

/-- `Product(...)`. -/
def Product.build (tenantId productId name : String) (category brand : Value) :
    Except Exc Product :=
  if htenant : strip tenantId = "" then .error (.valueError "tenant_id is required")
  else if hproduct : strip productId = "" then .error (.valueError "product_id is required")
  else if hname : strip name = "" then .error (.valueError "name is required")
  else .ok ⟨tenantId, productId, name, category, brand, htenant, hproduct, hname⟩

/-- `ProductVariant`, with what its constructor has checked. -/
structure ProductVariant where
  tenantId : String
  variantId : String
  productId : String
  packSize : Value
  unitOfMeasure : Value
  isCasePack : Bool
  tenantId_nonblank : strip tenantId ≠ ""
  variantId_nonblank : strip variantId ≠ ""
  productId_nonblank : strip productId ≠ ""
deriving DecidableEq

/-- `ProductVariant(...)`. -/
def ProductVariant.build (tenantId variantId productId : String) (packSize unitOfMeasure : Value)
    (isCasePack : Bool) : Except Exc ProductVariant :=
  if htenant : strip tenantId = "" then .error (.valueError "tenant_id is required")
  else if hvariant : strip variantId = "" then .error (.valueError "variant_id is required")
  else if hproduct : strip productId = "" then .error (.valueError "product_id is required")
  else .ok ⟨tenantId, variantId, productId, packSize, unitOfMeasure, isCasePack, htenant, hvariant,
    hproduct⟩

/-- `ProductIdentifier`, with what its constructor has checked. -/
structure ProductIdentifier where
  tenantId : String
  variantId : String
  kind : IdentifierKind
  value : String
  sourceSystem : Option String
  tenantId_nonblank : strip tenantId ≠ ""
  variantId_nonblank : strip variantId ≠ ""
  value_nonblank : strip value ≠ ""
deriving DecidableEq

/-- `ProductIdentifier(...)`. -/
def ProductIdentifier.build (tenantId variantId : String) (kind : IdentifierKind) (value : String)
    (sourceSystem : Option String) : Except Exc ProductIdentifier :=
  if htenant : strip tenantId = "" then .error (.valueError "tenant_id is required")
  else if hvariant : strip variantId = "" then .error (.valueError "variant_id is required")
  else if hvalue : strip value = "" then .error (.valueError "value is required")
  else .ok ⟨tenantId, variantId, kind, value, sourceSystem, htenant, hvariant, hvalue⟩

/-- What a constructed identifier holds. -/
theorem ProductIdentifier.of_build {tenantId variantId value : String} {kind : IdentifierKind}
    {sourceSystem : Option String} {identifier : ProductIdentifier}
    (h : ProductIdentifier.build tenantId variantId kind value sourceSystem = .ok identifier) :
    identifier.tenantId = tenantId ∧ identifier.variantId = variantId ∧ identifier.kind = kind ∧
      identifier.value = value := by
  unfold ProductIdentifier.build at h
  split_ifs at h
  cases h
  exact ⟨rfl, rfl, rfl, rfl⟩

theorem Product.of_build {tenantId productId name : String} {category brand : Value}
    {product : Product} (h : Product.build tenantId productId name category brand = .ok product) :
    product.tenantId = tenantId ∧ product.productId = productId := by
  unfold Product.build at h
  split_ifs at h
  cases h
  exact ⟨rfl, rfl⟩

theorem ProductVariant.of_build {tenantId variantId productId : String}
    {packSize unitOfMeasure : Value} {isCasePack : Bool} {variant : ProductVariant}
    (h : ProductVariant.build tenantId variantId productId packSize unitOfMeasure isCasePack
      = .ok variant) :
    variant.tenantId = tenantId ∧ variant.variantId = variantId ∧
      variant.productId = productId := by
  unfold ProductVariant.build at h
  split_ifs at h
  cases h
  exact ⟨rfl, rfl, rfl⟩

/-! ## The store -/

/-- The key of a code. -/
structure IdentifierKey where
  tenantId : String
  kind : IdentifierKind
  value : String
deriving DecidableEq

/-- The key of an identifier. -/
def ProductIdentifier.key (identifier : ProductIdentifier) : IdentifierKey :=
  ⟨identifier.tenantId, identifier.kind, identifier.value⟩

/-- `InMemoryProductCatalogStore`. -/
structure ProductCatalogStore where
  products : Dict (String × String) Product
  variants : Dict (String × String) ProductVariant
  identifiers : Dict IdentifierKey String

namespace ProductCatalogStore

/-- `InMemoryProductCatalogStore()`. -/
def empty : ProductCatalogStore := ⟨.empty, .empty, .empty⟩

/-- `upsert_product`. -/
def upsertProduct (product : Product) (s : ProductCatalogStore) : ProductCatalogStore :=
  { s with products := s.products.set (product.tenantId, product.productId) product }

/-- `upsert_variant`. -/
def upsertVariant (variant : ProductVariant) (s : ProductCatalogStore) : ProductCatalogStore :=
  { s with variants := s.variants.set (variant.tenantId, variant.variantId) variant }

/-- The variant that a code is mapped to, when it is not the one of the identifier. -/
def mappedElsewhere (s : ProductCatalogStore) (identifier : ProductIdentifier) : Option String :=
  (s.identifiers.get? identifier.key).filter fun existing => existing ≠ identifier.variantId

/-- The message of `ConflictingIdentifierError`. -/
def conflictMessage (identifier : ProductIdentifier) (existing : String) : String :=
  identifier.kind.value ++ "=" ++ Value.reprText identifier.value ++
    " is already mapped to variant " ++ Value.reprText existing ++ ", not " ++
    Value.reprText identifier.variantId ++
    " - resolve the conflict explicitly (human review) instead of silently overwriting it"

/-- `upsert_identifier`; the error is the message of a `ConflictingIdentifierError`. -/
def upsertIdentifier (identifier : ProductIdentifier) (s : ProductCatalogStore) :
    Except String ProductCatalogStore :=
  match s.mappedElsewhere identifier with
  | some existing => .error (conflictMessage identifier existing)
  | none => .ok { s with identifiers := s.identifiers.set identifier.key identifier.variantId }

/-- `resolve_identifier`. -/
def resolveIdentifier (s : ProductCatalogStore) (key : IdentifierKey) : Option ProductVariant :=
  (s.identifiers.get? key).bind fun variantId => s.variants.get? (key.tenantId, variantId)

/-- `list_products`. -/
def listProducts (s : ProductCatalogStore) (tenantId : String) : List Product :=
  (s.products.entries.filter fun e => e.1.1 = tenantId).map Prod.snd

/-- `list_variants` of a product. -/
def listVariants (s : ProductCatalogStore) (tenantId productId : String) : List ProductVariant :=
  (s.variants.entries.filter fun e => e.1.1 = tenantId ∧ e.2.productId = productId).map Prod.snd

/-- `list_identifiers`: the codes that are mapped to a variant. -/
def listIdentifiers (s : ProductCatalogStore) (tenantId variantId : String) : List IdentifierKey :=
  (s.identifiers.entries.filter fun e => e.1.tenantId = tenantId ∧ e.2 = variantId).map Prod.fst

/-! ## Mappings -/

/-- Every code resolves to a variant, and its product is there. -/
def Sound (s : ProductCatalogStore) : Prop :=
  ∀ key variantId, s.identifiers.get? key = some variantId →
    ∃ variant product, s.resolveIdentifier key = some variant ∧
      s.products.get? (key.tenantId, variant.productId) = some product

/-- The products and variants of one catalog are those of the other, no mapping is lost, and each
new one goes to the variant for a code of the given ones. -/
structure Extends (variantId : String) (codes : IdentifierKey → Prop)
    (s s' : ProductCatalogStore) : Prop where
  products : s'.products = s.products
  variants : s'.variants = s.variants
  identifiers : ∀ key, s'.identifiers.get? key = s.identifiers.get? key ∨
    s.identifiers.get? key = none ∧ codes key ∧ s'.identifiers.get? key = some variantId

variable {variantId : String} {codes : IdentifierKey → Prop} {s s' : ProductCatalogStore}

theorem extends_refl (s : ProductCatalogStore) : Extends variantId codes s s :=
  ⟨rfl, rfl, fun _ => .inl rfl⟩

theorem Extends.trans (h : Extends variantId codes s s') {s'' : ProductCatalogStore}
    (h' : Extends variantId codes s' s'') : Extends variantId codes s s'' where
  products := h'.products.trans h.products
  variants := h'.variants.trans h.variants
  identifiers := by
    intro key
    rcases h'.identifiers key with he | ⟨hnone, hcode, hv⟩
    · rw [he]
      exact h.identifiers key
    · refine .inr ⟨?_, hcode, hv⟩
      rcases h.identifiers key with he | ⟨hfree, -, -⟩
      · rw [← he]
        exact hnone
      · exact hfree

theorem mappedElsewhere_eq_some_iff {identifier : ProductIdentifier} {existing : String} :
    s.mappedElsewhere identifier = some existing ↔
      s.identifiers.get? identifier.key = some existing ∧ existing ≠ identifier.variantId := by
  rw [mappedElsewhere, Option.filter_eq_some_iff, decide_eq_true_iff]

theorem exists_of_upsertIdentifier_error {identifier : ProductIdentifier} {detail : String}
    (h : s.upsertIdentifier identifier = .error detail) :
    ∃ existing, s.mappedElsewhere identifier = some existing := by
  unfold upsertIdentifier at h
  cases helsewhere : s.mappedElsewhere identifier with
  | some existing => exact ⟨existing, rfl⟩
  | none =>
    rw [helsewhere] at h
    cases h

/-- An identifier that is not refused extends the catalog by its own code. -/
theorem extends_upsertIdentifier {identifier : ProductIdentifier}
    (h : s.upsertIdentifier identifier = .ok s') (hcode : codes identifier.key) :
    Extends identifier.variantId codes s s' := by
  unfold upsertIdentifier at h
  cases helsewhere : s.mappedElsewhere identifier with
  | some existing =>
    rw [helsewhere] at h
    cases h
  | none =>
    rw [helsewhere] at h
    cases h
    refine ⟨rfl, rfl, fun key => ?_⟩
    by_cases hkey : identifier.key = key
    · subst hkey
      cases hget : s.identifiers.get? identifier.key with
      | none => exact .inr ⟨rfl, hcode, Dict.get?_set_self _ _ _⟩
      | some existing =>
        -- the code was mapped to this variant before
        have hsame : existing = identifier.variantId := by
          by_contra hne
          rw [mappedElsewhere_eq_some_iff.mpr ⟨hget, hne⟩] at helsewhere
          cases helsewhere
        rw [← hsame]
        exact .inl (Dict.get?_set_self _ _ _)
    · exact .inl (Dict.get?_set_ne _ hkey _)

/-- Writing a variant with its product keeps every code resolved. -/
theorem sound_upsert (h : s.Sound) {product : Product} {variant : ProductVariant}
    (htenant : variant.tenantId = product.tenantId) (hid : variant.productId = product.productId) :
    ((s.upsertProduct product).upsertVariant variant).Sound := by
  have hproducts : ∀ (key : String × String) (p : Product), s.products.get? key = some p →
      ∃ p', (s.upsertProduct product).products.get? key = some p' := by
    intro key p hget
    by_cases hkey : (product.tenantId, product.productId) = key
    · subst hkey
      exact ⟨product, Dict.get?_set_self _ _ _⟩
    · exact ⟨p, (Dict.get?_set_ne _ hkey _).trans hget⟩
  intro key variantId hmapped
  have hkey : s.identifiers.get? key = some variantId := hmapped
  obtain ⟨v, p, hresolve, hproduct⟩ := h key variantId hkey
  have hvariant : s.variants.get? (key.tenantId, variantId) = some v := by
    rwa [resolveIdentifier, hkey, Option.bind_some] at hresolve
  by_cases hsame : (variant.tenantId, variant.variantId) = (key.tenantId, variantId)
  · -- the code resolves to the variant that is written
    refine ⟨variant, product, ?_, ?_⟩
    · change (s.identifiers.get? key).bind _ = _
      rw [hkey, Option.bind_some, ← hsame]
      exact Dict.get?_set_self _ _ _
    · have ht : variant.tenantId = key.tenantId := congrArg Prod.fst hsame
      change (s.products.set _ product).get? _ = _
      rw [← ht, htenant, hid]
      exact Dict.get?_set_self _ _ _
  · obtain ⟨p', hp'⟩ := hproducts _ p hproduct
    refine ⟨v, p', ?_, hp'⟩
    change (s.identifiers.get? key).bind _ = _
    rw [hkey, Option.bind_some]
    exact (Dict.get?_set_ne _ hsame _).trans hvariant

/-- New mappings to a variant that is there with its product keep every code resolved. -/
theorem Extends.sound (h : Extends variantId codes s s') (hsound : s.Sound)
    (hcodes : ∀ key, codes key → ∃ variant product,
      s.variants.get? (key.tenantId, variantId) = some variant ∧
        s.products.get? (key.tenantId, variant.productId) = some product) : s'.Sound := by
  intro key other hkey
  rw [h.products]
  rcases h.identifiers key with he | ⟨-, hcode, hv⟩
  · rw [he] at hkey
    obtain ⟨variant, product, hresolve, hproduct⟩ := hsound key other hkey
    refine ⟨variant, product, ?_, hproduct⟩
    rw [← hresolve, resolveIdentifier, resolveIdentifier, he, h.variants]
  · obtain ⟨variant, product, hvariant, hproduct⟩ := hcodes key hcode
    refine ⟨variant, product, ?_, hproduct⟩
    rw [resolveIdentifier, hv, h.variants]
    exact hvariant

end ProductCatalogStore

end ShelfWise.Catalog
