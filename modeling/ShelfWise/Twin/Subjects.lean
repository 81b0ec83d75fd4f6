import ShelfWise.Twin.Replay

/-!
# The subjects of events

Which twin an event's observations are attached to. `_event_specs` names a twin by a URN of slugs and
`project_event` takes the last segment of it for the entity it ensures; `twinId_eventOffers` says that
nothing gets lost on the way: the observation stands at the URN of the event's tenant and store, of
the kind of thing the property is about and of the id the event has for it.

Most properties are about the product of the event. A shipment is about its order and a supplier
update about its supplier, which events about other products name as well; `subjects_apart` is what
keeps the products themselves apart.
-/

namespace ShelfWise.Twin

open Py Sys TwinStore

/-! ## Slugs -/

variable {inRun : Bool} {cs : List Char}

theorem isSlugChar_slugChars : ∀ c ∈ slugChars inRun cs, isSlugChar c = true := by
  induction cs generalizing inRun with
  | nil => exact fun c hc => absurd hc List.not_mem_nil
  | cons first rest ih =>
    unfold slugChars
    split
    · next hfirst =>
      exact List.forall_mem_cons.mpr ⟨hfirst, ih⟩
    · split
      · exact ih
      · exact List.forall_mem_cons.mpr ⟨by decide, ih⟩

theorem slugChars_of_all (h : ∀ c ∈ cs, isSlugChar c = true) : slugChars inRun cs = cs := by
  induction cs generalizing inRun with
  | nil => rfl
  | cons first rest ih =>
    obtain ⟨hfirst, hrest⟩ := List.forall_mem_cons.mp h
    rw [slugChars, if_pos hfirst, ih hrest]

/-- What is kept of the value, unless nothing is. -/
theorem slug_cases (value : String) :
    slug value = "unknown" ∨
      slug value = String.ofList ((slugChars false (strip value).toList).take 120) ∧
        slug value ≠ "" := by
  rw [slug]
  by_cases hempty : String.ofList ((slugChars false (strip value).toList).take 120) = ""
  · exact .inl (if_pos hempty)
  · simp only [if_neg hempty]
    exact .inr ⟨trivial, hempty⟩

/-- A slug consists of the characters `_slug` keeps. -/
theorem isSlugChar_slug (value : String) : ∀ c ∈ (slug value).toList, isSlugChar c = true := by
  intro c hc
  rcases slug_cases value with hslug | ⟨hslug, -⟩
  · have hall : "unknown".toList.all isSlugChar = true := by decide
    rw [hslug] at hc
    exact List.all_eq_true.mp hall c hc
  · rw [hslug, String.toList_ofList] at hc
    exact isSlugChar_slugChars c (List.mem_of_mem_take hc)

theorem length_slug (value : String) : (slug value).toList.length ≤ 120 := by
  rcases slug_cases value with hslug | ⟨hslug, -⟩
  · rw [hslug]
    decide
  · rw [hslug, String.toList_ofList]
    exact List.length_take_le 120 _

theorem slug_ne_empty (value : String) : slug value ≠ "" := by
  rcases slug_cases value with hslug | ⟨-, hne⟩
  · rw [hslug]
    decide
  · exact hne

/-- The characters of a slug are not white space. -/
theorem isSpace_of_isSlugChar {c : Char} (h : isSlugChar c = true) : isSpace c = false := by
  have hspace : isSpace c = true → ¬ isSlugChar c = true := by
    intro hs
    simp only [isSpace, Bool.or_eq_true, Bool.and_eq_true, decide_eq_true_eq, beq_iff_eq] at hs
    simp only [isSlugChar, decide_eq_true_eq, Char.le_def, UInt32.le_iff_toNat_le, ← Char.toNat_inj]
    simp only [Char.toNat] at hs ⊢
    simp only [Char.reduceVal, UInt32.reduceToNat]
    omega
  exact Bool.eq_false_iff.mpr fun hs => hspace hs h

theorem slug_of_all {value : String} (hall : value.toList.all isSlugChar = true)
    (hlen : value.toList.length ≤ 120) (hne : value ≠ "") : slug value = value := by
  have hkept := List.all_eq_true.mp hall
  have hstrip : strip value = value := by
    unfold strip
    rw [Decimal.stripChars_eq fun c hc => isSpace_of_isSlugChar (hkept c hc), String.ofList_toList]
  rw [slug, hstrip, slugChars_of_all hkept, List.take_of_length_le hlen, String.ofList_toList]
  exact if_neg hne

/-- A slug is its own slug. -/
@[simp] theorem slug_slug (value : String) : slug (slug value) = slug value :=
  slug_of_all (List.all_eq_true.mpr (isSlugChar_slug value)) (length_slug value)
    (slug_ne_empty value)

theorem colon_notMem_slug (value : String) : ':' ∉ (slug value).toList := by
  intro hmem
  have hcolon := isSlugChar_slug value ':' hmem
  exact absurd hcolon (by decide)

/-! ## URNs -/

theorem toList_urn (tenantId storeId entityType localId : String) :
    (urn tenantId storeId entityType localId).toList
      = "urn:shelfwise:".toList ++ ((slug tenantId).toList ++ ':' :: ((slug storeId).toList ++ ':' ::
          ((slug entityType).toList ++ ':' :: (slug localId).toList))) := by
  have hcolon : ":".toList = [':'] := by rfl
  unfold urn
  simp only [String.toList_append, hcolon, List.append_assoc, List.cons_append, List.nil_append]

/-- The last segment of a URN is the slug of the local id. -/
@[simp] theorem localIdOf_urn (tenantId storeId entityType localId : String) :
    localIdOf (urn tenantId storeId entityType localId) = slug localId := by
  have hall : ∀ c ∈ (slug localId).toList, decide (c ≠ ':') = true := by
    intro c hc
    rw [decide_eq_true_eq]
    rintro rfl
    exact colon_notMem_slug localId hc
  have hsplit : (urn tenantId storeId entityType localId).toList
      = ("urn:shelfwise:".toList ++ ((slug tenantId).toList ++ ':' :: ((slug storeId).toList ++ ':' ::
          (slug entityType).toList))) ++ ':' :: (slug localId).toList := by
    rw [toList_urn]
    simp only [List.append_assoc, List.cons_append]
  unfold localIdOf
  rw [hsplit, List.rtakeWhile, List.reverse_append, List.reverse_cons, List.append_assoc,
    List.takeWhile_append_of_pos fun c hc => hall c (List.mem_reverse.mp hc)]
  simp

/-- Two texts without the mark in front of it, at the first mark. -/
theorem append_mark_inj {mark : Char} {a b c d : List Char} (ha : mark ∉ a) (hc : mark ∉ c) :
    a ++ mark :: b = c ++ mark :: d ↔ a = c ∧ b = d := by
  rw [append_cons_eq_iff]
  constructor
  · rintro (h | ⟨w, rfl, -⟩ | ⟨w, rfl, -⟩)
    · exact h
    · exact absurd (by simp) ha
    · exact absurd (by simp) hc
  · exact .inl

/-- A URN has one segment for each slug. -/
theorem urn_eq_iff (tenantId storeId entityType localId tenantId' storeId' entityType' localId' :
    String) :
    urn tenantId storeId entityType localId = urn tenantId' storeId' entityType' localId' ↔
      slug tenantId = slug tenantId' ∧ slug storeId = slug storeId' ∧
        slug entityType = slug entityType' ∧ slug localId = slug localId' := by
  rw [← String.toList_inj, toList_urn, toList_urn, List.append_cancel_left_eq,
    append_mark_inj (colon_notMem_slug _) (colon_notMem_slug _),
    append_mark_inj (colon_notMem_slug _) (colon_notMem_slug _),
    append_mark_inj (colon_notMem_slug _) (colon_notMem_slug _), String.toList_inj,
    String.toList_inj, String.toList_inj, String.toList_inj]

/-! ## What a property is about -/

/-- `subject_id` of `_event_specs`. -/
def subjectIdOf (event : Event) (storeId : String) : String :=
  ((text (Value.get event.payload "sku") <|> text (Value.get event.payload "asset_id")) <|>
    text (Value.get event.payload "supplier")).getD storeId

/-- The kind of thing an event is about when it is not about a party. -/
def subjectKind (event : Event) : String :=
  match event.type with
  | .coldChainAlert => "asset"
  | .recallNotice | .inventoryException =>
    if (text (Value.get event.payload "sku")).isSome then "product" else "store"
  | _ => "product"

/-- The party a property is about instead: the order of a shipment, the supplier of a supplier
update. Which supplier a product has is about the product. -/
def partyOf (event : Event) (propertyName : String) : Option (String × String) :=
  match event.type with
  | .shipment => some ("order", (text (Value.get event.payload "order_id")).getD event.id)
  | .supplierUpdate =>
    if propertyName = "sourcing.supplier_id" then none
    else some ("supplier", (text (Value.get event.payload "supplier")).getD "unknown")
  | _ => none

/-- The kind and the id of what a property of an event is about. -/
def aboutOf (event : Event) (storeId propertyName : String) : String × String :=
  (partyOf event propertyName).getD (subjectKind event, subjectIdOf event storeId)

variable {spec : ObservationSpec}

variable {rows : List (String × Value × Option String)}

theorem mem_presentSpecs {twinId entityType displayName : String}
    (h : spec ∈ presentSpecs twinId entityType displayName rows) :
    spec.twinId = twinId ∧ spec.entityType = entityType ∧
      spec.propertyName ∈ rows.map Prod.fst := by
  unfold presentSpecs at h
  obtain ⟨row, hrow, hspec⟩ := List.mem_filterMap.mp h
  split at hspec
  · cases hspec
  · cases hspec
    exact ⟨rfl, rfl, List.mem_map_of_mem hrow⟩

/-- A specification has the kind of what its property is about, and a twin with its local id. -/
def Files (event : Event) (storeId : String) (spec : ObservationSpec) : Prop :=
  spec.entityType = (aboutOf event storeId spec.propertyName).1 ∧
    ∃ kind, spec.twinId = urn event.tenantId storeId kind (aboutOf event storeId spec.propertyName).2

/-- The twin of an event that is not about a party. -/
theorem subjectTwin_eq (event : Event) (storeId : String) :
    ∃ kind, ((text (Value.get event.payload "sku")).map (urn event.tenantId storeId "product")).getD
      (urn event.tenantId storeId "asset" (subjectIdOf event storeId))
        = urn event.tenantId storeId kind (subjectIdOf event storeId) := by
  unfold subjectIdOf
  cases text (Value.get event.payload "sku") with
  | none => exact ⟨"asset", rfl⟩
  | some sku => exact ⟨"product", rfl⟩

variable {event : Event}

/-- The rows of an event that is not about a party. -/
theorem files_subject {storeId displayName : String} {entityType : String}
    (hkind : entityType = subjectKind event) (hparty : ∀ name, partyOf event name = none)
    (h : spec ∈ presentSpecs (((text (Value.get event.payload "sku")).map (urn event.tenantId storeId "product")).getD (urn event.tenantId storeId "asset" (subjectIdOf event storeId))) entityType displayName rows) :
    Files event storeId spec := by
  obtain ⟨htwin, htype, -⟩ := mem_presentSpecs h
  obtain ⟨kind, hkindTwin⟩ := subjectTwin_eq event storeId
  unfold Files aboutOf
  rw [hparty, htwin, htype, hkindTwin]
  exact ⟨hkind, kind, rfl⟩

variable {storeId : String}

variable {specs : List ObservationSpec}

/-- What `_event_specs` files, it files under what the property is about. -/
theorem files_eventSpecs (h : eventSpecs event storeId = .ok specs) (hspec : spec ∈ specs) :
    Files event storeId spec := by
  unfold eventSpecs at h
  cases htype : event.type with
  | stockUpdate =>
    simp only [htype] at h
    split at h
    · cases h
    · split at h
      · cases h
      · cases h
        exact files_subject (by simp [subjectKind, htype]) (fun _ => by simp [partyOf, htype]) hspec
  | sale | scan | expiryEntry | coldChainAlert | recallNotice | inventoryException =>
    simp only [htype] at h
    cases h
    exact files_subject (by simp [subjectKind, htype]) (fun _ => by simp [partyOf, htype]) hspec
  | shipment =>
    simp only [htype] at h
    cases h
    obtain ⟨htwin, hkind, -⟩ := mem_presentSpecs hspec
    unfold Files aboutOf partyOf
    rw [htwin, hkind, htype]
    exact ⟨rfl, "order", rfl⟩
  | supplierUpdate =>
    simp only [htype] at h
    cases h
    rcases List.mem_append.mp hspec with hspec | hspec
    · -- the supplier's own properties
      obtain ⟨htwin, hkind, hname⟩ := mem_presentSpecs hspec
      have hne : spec.propertyName ≠ "sourcing.supplier_id" := by
        intro heq
        rw [heq] at hname
        simp at hname
      unfold Files aboutOf partyOf
      rw [htwin, hkind, htype]
      simp only [if_neg hne]
      exact ⟨rfl, "supplier", rfl⟩
    · -- the supplier of the product
      cases hsku : text (Value.get event.payload "sku") with
      | none =>
        rw [hsku] at hspec
        exact absurd hspec List.not_mem_nil
      | some sku =>
        rw [hsku] at hspec
        obtain ⟨htwin, hkind, hname⟩ := mem_presentSpecs hspec
        have heq : spec.propertyName = "sourcing.supplier_id" := by simpa using hname
        unfold Files aboutOf partyOf subjectKind subjectIdOf
        rw [htwin, hkind, htype, heq, hsku]
        exact ⟨rfl, "product", rfl⟩

/-! ## Where observations are attached -/

/-- The observation stands at the twin of what its property is about. -/
def Attached (event : Event) (storeId : String) (o : TwinObservation) : Prop :=
  o.tenantId = event.tenantId ∧
    o.twinId = urn event.tenantId storeId (aboutOf event storeId o.propertyName).1
      (aboutOf event storeId o.propertyName).2

/-- The local id goes through `_urn`, `_local_id` and `_urn` again unharmed. -/
theorem twinId_eventSpecEntity (h : Files event storeId spec) :
    (eventSpecEntity event storeId spec).twinId
      = urn event.tenantId storeId (aboutOf event storeId spec.propertyName).1
          (aboutOf event storeId spec.propertyName).2 := by
  obtain ⟨htype, kind, htwin⟩ := h
  unfold eventSpecEntity eventEntity
  rw [htwin, localIdOf_urn, htype, urn_eq_iff]
  exact ⟨rfl, rfl, rfl, slug_slug _⟩

variable {svc : TwinService}

theorem attached_of_spec {o : TwinObservation} (h : Files event storeId spec)
    (ho : observationForSpec svc event spec (eventSpecEntity event storeId spec).twinId storeId = .ok o) :
    Attached event storeId o := by
  unfold observationForSpec at ho
  split at ho
  · cases ho
  · rw [TwinObservation.eq_of_validated ho]
    exact ⟨rfl, twinId_eventSpecEntity h⟩

theorem attached_specsScript (svc : TwinService) {storeId storeTwinId : String}
    (h : ∀ spec ∈ specs, Files event storeId spec) :
    ∀ c ∈ (specsScript svc event storeId storeTwinId specs).calls, ∀ o, c.observation = some o →
      Attached event storeId o := by
  induction specs with
  | nil => exact fun c hc => absurd hc List.not_mem_nil
  | cons spec rest ih =>
    obtain ⟨hspec, hrest⟩ := List.forall_mem_cons.mp h
    unfold specsScript
    refine Script.forall_needs fun entity hentity => Script.forall_cons (fun o ho => by cases ho) ?_
    rw [TwinEntity.eq_of_validated hentity]
    refine Script.forall_needs fun r _ => Script.forall_cons (fun o ho => by cases ho) ?_
    refine Script.forall_needs fun o ho => Script.forall_cons ?_ (ih hrest)
    rintro o' ⟨rfl⟩
    exact attached_of_spec hspec ho

/-- Every observation an event offers stands at the twin of what its property is about. -/
theorem attached_eventOffers (svc : TwinService) (event : Event) :
    ∀ o ∈ eventOffers svc event, ∃ storeId, storeIdOf event.payload = some storeId ∧
      Attached event storeId o := by
  intro o ho
  obtain ⟨c, hc, hobservation⟩ := List.mem_filterMap.mp ho
  unfold eventScript at hc
  split at hc
  · exact absurd hc List.not_mem_nil
  · cases hstore : storeIdOf event.payload with
    | none =>
      rw [hstore] at hc
      exact absurd hc List.not_mem_nil
    | some storeId =>
      rw [hstore] at hc
      have hcalls : ∀ c ∈ (Script.needs (eventStoreEntity event storeId).validated fun entity =>
          Script.cons (.ensure entity) <|
            Script.needs (eventSpecs event storeId) fun specs =>
              specsScript svc event storeId entity.twinId specs).calls,
          ∀ o, c.observation = some o → Attached event storeId o :=
        Script.forall_needs fun entity _ => Script.forall_cons (fun o ho => by cases ho)
          (Script.forall_needs fun specs hspecs => attached_specsScript svc fun spec hspec =>
            files_eventSpecs hspecs hspec)
      exact ⟨storeId, rfl, hcalls c hc o hobservation⟩

/-! ## Properties that are left alone -/

/-- An event that offers nothing at a twin leaves its properties alone. -/
theorem get?_run_projectEvent {key : PropertyKey}
    (h : ∀ o ∈ eventOffers svc event, o.twinId ≠ key.twinId) (now : Timestamp) (s : TwinStore) :
    ((projectEvent svc now event).run s).1.properties.get? key = s.properties.get? key := by
  rw [run_projectEvent]
  refine get?_afterCalls ?_ s
  intro c hc o ho heq
  obtain ⟨call, hcall, rfl⟩ := List.mem_map.mp hc
  exact h o (List.mem_filterMap.mpr ⟨call, hcall, ho⟩) (congrArg PropertyKey.twinId heq)

/-! ## Subjects -/

/-- Two properties of events are about one order or one supplier. -/
def SameParty (event event' : Event) (propertyName propertyName' : String) : Prop :=
  ∃ party party', partyOf event propertyName = some party ∧
    partyOf event' propertyName' = some party' ∧ party.1 = party'.1 ∧ slug party.2 = slug party'.2

/-- With a SKU, what is not about a party is about the SKU. -/
theorem aboutOf_of_sku (storeId : String) {sku propertyName : String}
    (hsku : text (Value.get event.payload "sku") = some sku)
    (hparty : partyOf event propertyName = none) :
    (aboutOf event storeId propertyName).2 = sku ∧
      (slug (aboutOf event storeId propertyName).1 = "product" ∨
        slug (aboutOf event storeId propertyName).1 = "asset") := by
  have hproduct : slug "product" = "product" := slug_of_all (by decide) (by decide) (by decide)
  have hasset : slug "asset" = "asset" := slug_of_all (by decide) (by decide) (by decide)
  unfold aboutOf subjectIdOf subjectKind
  rw [hparty, hsku]
  refine ⟨rfl, ?_⟩
  cases event.type with
  | coldChainAlert => exact .inr hasset
  | _ => exact .inl hproduct

theorem slug_order : slug "order" = "order" := slug_of_all (by decide) (by decide) (by decide)

theorem slug_supplier : slug "supplier" = "supplier" :=
  slug_of_all (by decide) (by decide) (by decide)

theorem kind_of_party {propertyName : String} {party : String × String}
    (hparty : partyOf event propertyName = some party) :
    party.1 = "order" ∨ party.1 = "supplier" := by
  unfold partyOf at hparty
  split at hparty
  · cases hparty
    exact .inl rfl
  · split at hparty
    · cases hparty
    · cases hparty
      exact .inr rfl
  · cases hparty

theorem slug_of_party {propertyName : String} {party : String × String}
    (hparty : partyOf event propertyName = some party) :
    slug party.1 ≠ "product" ∧ slug party.1 ≠ "asset" := by
  rcases kind_of_party hparty with hk | hk
  · rw [hk, slug_order]
    decide
  · rw [hk, slug_supplier]
    decide

theorem party_kind_inj {event event' : Event} {propertyName propertyName' : String}
    {party party' : String × String} (hparty : partyOf event propertyName = some party)
    (hparty' : partyOf event' propertyName' = some party') (hslug : slug party.1 = slug party'.1) :
    party.1 = party'.1 := by
  have hne : slug "order" ≠ slug "supplier" := by
    rw [slug_order, slug_supplier]
    decide
  rcases kind_of_party hparty with hk | hk <;> rcases kind_of_party hparty' with hk' | hk' <;>
    rw [hk, hk'] at hslug ⊢
  · exact absurd hslug hne
  · exact absurd hslug.symm hne

/-- Observations of two events at one twin are about one order, about one supplier, or about SKUs
with the same slug. -/
theorem twinId_eq_cases {event event' : Event} {storeId storeId' sku sku' : String}
    {o o' : TwinObservation} (hsku : text (Value.get event.payload "sku") = some sku)
    (hsku' : text (Value.get event'.payload "sku") = some sku') (ho : Attached event storeId o)
    (ho' : Attached event' storeId' o') (htwin : o.twinId = o'.twinId) :
    slug storeId = slug storeId' ∧
      (SameParty event event' o.propertyName o'.propertyName ∨
        partyOf event o.propertyName = none ∧ slug sku = slug sku') := by
  rw [ho.2, ho'.2, urn_eq_iff] at htwin
  obtain ⟨-, hstore, hkind, hlocal⟩ := htwin
  refine ⟨hstore, ?_⟩
  cases hparty : partyOf event o.propertyName with
  | none =>
    obtain ⟨hid, hsubject⟩ := aboutOf_of_sku storeId hsku hparty
    cases hparty' : partyOf event' o'.propertyName with
    | none =>
      obtain ⟨hid', -⟩ := aboutOf_of_sku storeId' hsku' hparty'
      rw [hid, hid'] at hlocal
      exact .inr ⟨rfl, hlocal⟩
    | some party' =>
      have habout' : aboutOf event' storeId' o'.propertyName = party' := by simp [aboutOf, hparty']
      obtain ⟨hproduct, hasset⟩ := slug_of_party hparty'
      rw [hkind, habout'] at hsubject
      exact (hsubject.elim hproduct hasset).elim
  | some party =>
    have habout : aboutOf event storeId o.propertyName = party := by simp [aboutOf, hparty]
    cases hparty' : partyOf event' o'.propertyName with
    | none =>
      obtain ⟨-, hsubject⟩ := aboutOf_of_sku storeId' hsku' hparty'
      obtain ⟨hproduct, hasset⟩ := slug_of_party hparty
      rw [← hkind, habout] at hsubject
      exact (hsubject.elim hproduct hasset).elim
    | some party' =>
      have habout' : aboutOf event' storeId' o'.propertyName = party' := by simp [aboutOf, hparty']
      rw [habout, habout'] at hkind hlocal
      exact .inl ⟨party, party', hparty, hparty', party_kind_inj hparty hparty' hkind, hlocal⟩

/-- Events whose stores or SKUs have different slugs meet at no twin but that of an order or a supplier
they both name in one store: projecting the second leaves every property of the first one's product or
asset as it is, in whatever state the twin is. -/
theorem subjects_apart (svc : TwinService) {event event' : Event} {storeId storeId' sku sku' : String}
    (hstore : storeIdOf event.payload = some storeId)
    (hstore' : storeIdOf event'.payload = some storeId')
    (hsku : text (Value.get event.payload "sku") = some sku)
    (hsku' : text (Value.get event'.payload "sku") = some sku')
    (hslug : slug storeId ≠ slug storeId' ∨ slug sku ≠ slug sku') :
    (∀ o ∈ eventOffers svc event, ∀ o' ∈ eventOffers svc event', o.twinId = o'.twinId →
        slug storeId = slug storeId' ∧ SameParty event event' o.propertyName o'.propertyName) ∧
      ∀ o ∈ eventOffers svc event,
        slug storeId ≠ slug storeId' ∨ partyOf event o.propertyName = none →
        ∀ (now : Timestamp) (s : TwinStore) (key : PropertyKey), key.twinId = o.twinId →
          ((projectEvent svc now event').run s).1.properties.get? key = s.properties.get? key := by
  have hmeet : ∀ o ∈ eventOffers svc event, ∀ o' ∈ eventOffers svc event', o.twinId = o'.twinId →
      slug storeId = slug storeId' ∧
        SameParty event event' o.propertyName o'.propertyName := by
    intro o ho o' ho' htwin
    obtain ⟨_, hs, hattached⟩ := attached_eventOffers svc event o ho
    obtain ⟨_, hs', hattached'⟩ := attached_eventOffers svc event' o' ho'
    obtain rfl := Option.some.inj (hstore.symm.trans hs)
    obtain rfl := Option.some.inj (hstore'.symm.trans hs')
    obtain ⟨hstores, hparty | ⟨-, hskus⟩⟩ := twinId_eq_cases hsku hsku' hattached hattached' htwin
    · exact ⟨hstores, hparty⟩
    · exact (hslug.elim (· hstores) (· hskus)).elim
  refine ⟨hmeet, fun o ho hown now s key hkey => get?_run_projectEvent ?_ now s⟩
  intro o' ho' htwin
  obtain ⟨hstores, party, _, hparty, -⟩ := hmeet o ho o' ho' (hkey.symm.trans htwin.symm)
  rcases hown with hne | hnone
  · exact hne hstores
  · rw [hnone] at hparty
    cases hparty

/-- What a supplier says about one of its products. -/
def leadTimeEvent (sku : String) : Event :=
  { visitEvent with
    type := .supplierUpdate
    payload := [("store_id", .str "store_a"), ("sku", .str sku), ("supplier", .str "Acme"),
      ("lead_time_days", .int 2)] }

/-- A sale of one unit. -/
def unitSaleEvent (sku : String) : Event :=
  { visitEvent with
    type := .sale
    payload := [("store_id", .str "store_a"), ("sku", .str sku), ("units", .int 1)] }

/-- Two products of one store. -/
theorem subjects_apart_milk :
    (∀ o ∈ eventOffers defaultService (unitSaleEvent "MILK"),
        ∀ o' ∈ eventOffers defaultService (unitSaleEvent "BREAD"), o.twinId = o'.twinId →
        slug "store_a" = slug "store_a" ∧ SameParty (unitSaleEvent "MILK") (unitSaleEvent "BREAD")
          o.propertyName o'.propertyName) ∧
      ∀ o ∈ eventOffers defaultService (unitSaleEvent "MILK"),
        slug "store_a" ≠ slug "store_a" ∨ partyOf (unitSaleEvent "MILK") o.propertyName = none →
        ∀ (now : Timestamp) (s : TwinStore) (key : PropertyKey), key.twinId = o.twinId →
          ((projectEvent defaultService now (unitSaleEvent "BREAD")).run s).1.properties.get? key
            = s.properties.get? key := by
  have hmilk : text (Value.get (unitSaleEvent "MILK").payload "sku") = some "MILK" := by
    decide +kernel
  have hbread : text (Value.get (unitSaleEvent "BREAD").payload "sku") = some "BREAD" := by
    decide +kernel
  have hslug : slug "MILK" ≠ slug "BREAD" := by decide +kernel
  exact subjects_apart defaultService (by decide +kernel) (by decide +kernel) hmilk hbread
    (.inr hslug)

/-- Two products of one supplier share the supplier's twin. -/
theorem subjects_share_supplier :
    ¬ ∀ (svc : TwinService) (event event' : Event) (storeId storeId' sku sku' : String),
      event.tenantId = event'.tenantId →
      storeIdOf event.payload = some storeId → storeIdOf event'.payload = some storeId' →
      text (Value.get event.payload "sku") = some sku →
      text (Value.get event'.payload "sku") = some sku' →
      (storeId, sku) ≠ (storeId', sku') →
      ∀ o ∈ eventOffers svc event, ∀ o' ∈ eventOffers svc event', o.twinId ≠ o'.twinId := by
  intro h
  have hshared : ∃ o ∈ eventOffers defaultService (leadTimeEvent "MILK"),
      ∃ o' ∈ eventOffers defaultService (leadTimeEvent "BREAD"), o.twinId = o'.twinId := by
    decide +kernel
  obtain ⟨o, ho, o', ho', htwin⟩ := hshared
  exact h defaultService (leadTimeEvent "MILK") (leadTimeEvent "BREAD") "store_a" "store_a" "MILK"
    "BREAD" rfl (by decide +kernel) (by decide +kernel) (by decide +kernel) (by decide +kernel)
    (by decide) o ho o' ho' htwin

end ShelfWise.Twin
