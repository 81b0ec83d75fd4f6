import ShelfWise.Candidates.Lots

/-!
# The records of the lots at risk

What the candidate store holds after `product_attention_queue` has run on an empty one: a record for
each key of the generated candidates, with one candidate of that key (`represents_stored`). Suppressing
a covered shortage changes the state of a record, not its candidate.

`every_lot_kept_iff` puts this together with what the lots of an item lead to: no lot at risk is lost
exactly when the lots at risk differ in their kind of candidate or in their id. Lots without an id all
have the same one.
-/

namespace ShelfWise.Candidates

open Py Sys Connectors

/-! ## The candidates of the store -/

/-- The candidates of a store. -/
def CandidateStore.candidates (s : CandidateStore) : List FleetCandidate :=
  s.records.values.map (·.candidate)

/-- The candidate under a key. -/
def CandidateStore.candidateAt (s : CandidateStore) (key : String × String) :
    Option FleetCandidate :=
  (s.records.get? key).map (·.candidate)

/-- Every record stands under its key. -/
abbrev CandidateStore.Keyed (s : CandidateStore) : Prop :=
  s.records.KeyedBy fun record => record.candidate.key

section Store

variable {s : CandidateStore} {rows : List FleetCandidate}

theorem mem_candidates_iff (h : s.Keyed) {c : FleetCandidate} :
    c ∈ s.candidates ↔ s.candidateAt c.key = some c := by
  unfold CandidateStore.candidates CandidateStore.candidateAt
  rw [List.mem_map, Option.map_eq_some_iff]
  constructor
  · rintro ⟨record, hrecord, rfl⟩
    obtain ⟨key, hget⟩ := (s.records.mem_values_iff record).mp hrecord
    have hkey : key = record.candidate.key := h key record hget
    exact ⟨record, hkey ▸ hget, rfl⟩
  · rintro ⟨record, hget, heq⟩
    exact ⟨record, (s.records.mem_values_iff record).mpr ⟨_, hget⟩, heq⟩

/-- No two candidates have the same key. -/
theorem nodup_candidates (h : s.Keyed) : (s.candidates.map FleetCandidate.key).Nodup := by
  have hkeys : s.candidates.map FleetCandidate.key = s.records.entries.map Prod.fst := by
    unfold CandidateStore.candidates Dict.values
    rw [List.map_map, List.map_map]
    refine List.map_congr_left fun e he => ?_
    exact (h e.1 e.2 ((s.records.mem_entries_iff e.1 e.2).mp he)).symm
  rw [hkeys]
  exact s.records.nodupKeys

/-- A store whose candidates are some of the rows, with one for each key of a row. -/
theorem represents_of_candidateAt (h : s.Keyed)
    (hsubset : ∀ key c, s.candidateAt key = some c → c ∈ rows)
    (hcovers : ∀ c ∈ rows, (s.candidateAt c.key).isSome) :
    Represents FleetCandidate.key s.candidates rows where
  nodup := nodup_candidates h
  subset := fun c hc => hsubset c.key c ((mem_candidates_iff h).mp hc)
  covers := by
    intro c hc
    obtain ⟨c', hc'⟩ := Option.isSome_iff_exists.mp (hcovers c hc)
    obtain ⟨record, hget, heq⟩ := Option.map_eq_some_iff.mp hc'
    have hkey : c.key = record.candidate.key := h c.key record hget
    rw [heq] at hkey
    have hmem : c' ∈ s.candidates := (mem_candidates_iff h).mpr (hkey ▸ hc')
    exact List.mem_map.mpr ⟨c', hmem, hkey.symm⟩

theorem candidateAt_put (clock : Timestamp) (record : CandidateRecord) (reason : Option String)
    (key : String × String) : (s.put clock record reason).candidateAt key =
      if record.candidate.key = key then some record.candidate else s.candidateAt key := by
  unfold CandidateStore.candidateAt CandidateStore.put
  dsimp only
  rw [Dict.get?_set]
  split
  · rfl
  · rfl

theorem keyed_put (h : s.Keyed) (clock : Timestamp) (record : CandidateRecord)
    (reason : Option String) : (s.put clock record reason).Keyed :=
  Dict.keyedBy_set h record

/-! ## What a refresh leaves -/

/-- Observing candidates leaves one of each key. -/
theorem candidateAt_upsertMany (clock : Timestamp) (timestamp : String) (cs : List FleetCandidate)
    (hsubset : ∀ key c, s.candidateAt key = some c → c ∈ rows)
    (hcovers : ∀ c ∈ rows, (s.candidateAt c.key).isSome) (h : s.Keyed) :
    (upsertMany clock timestamp cs s).1.Keyed ∧
      (∀ key c, (upsertMany clock timestamp cs s).1.candidateAt key = some c → c ∈ rows ++ cs) ∧
        ∀ c ∈ rows ++ cs, ((upsertMany clock timestamp cs s).1.candidateAt c.key).isSome := by
  induction cs generalizing s rows with
  | nil =>
    rw [List.append_nil]
    exact ⟨h, hsubset, hcovers⟩
  | cons c cs ih =>
    have hat : ∀ key, (s.upsert clock c timestamp).1.candidateAt key =
        if c.key = key then some c else s.candidateAt key := by
      intro key
      have hput := candidateAt_put (s := s) clock (s.observed c timestamp)
        (s.observedReason c timestamp) key
      rwa [candidate_observed] at hput
    have hstep := @ih (s.upsert clock c timestamp).1 (rows ++ [c]) ?_ ?_
      (keyed_put h clock _ _)
    · rw [List.append_assoc, List.singleton_append] at hstep
      exact hstep
    · intro key c' hc'
      rw [hat] at hc'
      split_ifs at hc' with hkey
      · cases hc'
        exact List.mem_append_right _ List.mem_cons_self
      · exact List.mem_append_left _ (hsubset key c' hc')
    · intro c' hc'
      rw [hat]
      split_ifs with hkey
      · rfl
      · rcases List.mem_append.mp hc' with hc' | hc'
        · exact hcovers c' hc'
        · exact absurd (congrArg FleetCandidate.key (List.mem_singleton.mp hc').symm) hkey

/-- What a step of a refresh changes: no candidate. -/
def SameCandidates (s s' : CandidateStore) : Prop :=
  s'.Keyed ∧ ∀ key, s'.candidateAt key = s.candidateAt key

/-- A suppression leaves the candidates. -/
theorem sameCandidates_suppress (h : s.Keyed) (clock : Timestamp)
    (tenantId candidateKey reason suppressedUntil : String) :
    SameCandidates s
      (s.suppress clock tenantId candidateKey reason suppressedUntil).1 := by
  unfold CandidateStore.suppress
  split
  · exact ⟨h, fun _ => rfl⟩
  · cases hget : s.records.get? (tenantId, candidateKey) with
    | none => exact ⟨h, fun _ => rfl⟩
    | some record =>
      dsimp only
      split
      · exact ⟨h, fun _ => rfl⟩
      · refine ⟨keyed_put h clock _ _, fun key => ?_⟩
        rw [candidateAt_put]
        split_ifs with hkey
        · have hplace : (tenantId, candidateKey) = record.candidate.key := h _ record hget
          rw [← hkey]
          show some record.candidate = s.candidateAt record.candidate.key
          rw [← hplace, CandidateStore.candidateAt, hget, Option.map_some]
        · rfl

/-- The loop over the records of a refresh leaves the candidates, whether or not it raises. -/
theorem sameCandidates_suppressCovered (calendar : Calendar) (input : Refresh)
    (records : List CandidateRecord) (h : s.Keyed) :
    (suppressCovered calendar input records).Meets s (fun _ s' => SameCandidates s s')
      fun _ s' => SameCandidates s s' := by
  induction records generalizing s with
  | nil => exact Fallible.meets_ret ⟨h, fun _ => rfl⟩
  | cons record records ih =>
    have hrest : ∀ {s' : CandidateStore} (head : CandidateRecord), SameCandidates s s' →
        (suppressCovered calendar input records >>= fun rest => Fallible.ret (head :: rest)).Meets
          s' (fun _ s'' => SameCandidates s s'') fun _ s'' => SameCandidates s s'' := by
      intro s' head hs'
      have htrans : ∀ {s'' : CandidateStore}, SameCandidates s' s'' → SameCandidates s s'' :=
        fun hs'' => ⟨hs''.1, fun key => (hs''.2 key).trans (hs'.2 key)⟩
      refine Fallible.meets_bind ((ih hs'.1).mono ?_ fun _ _ => htrans)
      exact fun rest s'' hs'' => Fallible.meets_ret (htrans hs'')
    have hsame : SameCandidates s s := ⟨h, fun _ => rfl⟩
    rw [suppressCovered]
    by_cases htype : record.candidate.candidateType ≠ "low_stock"
    · rw [if_pos htype]
      exact hrest record hsame
    · rw [if_neg htype]
      refine Fallible.meets_bind (Fallible.meets_ofExcept ?_ fun _ _ => hsame)
      intro reason _
      cases reason with
      | none => exact hrest record hsame
      | some reason =>
        have hsuppress := sameCandidates_suppress h input.clock input.tenantId
          record.candidate.candidateKey reason (dueText calendar input record.candidate)
        refine Fallible.meets_bind ⟨fun s' suppressed hrun => ?_, fun s' e hrun => ?_⟩
        · have hs' : _ = s' := congrArg Prod.fst hrun
          rw [← hs']
          exact hrest _ hsuppress
        · have hs' : _ = s' := congrArg Prod.fst hrun
          rw [← hs']
          exact hsuppress

/-- What a refresh leaves in an empty store. -/
theorem represents_attentionCandidates (calendar : Calendar) (input : Refresh) :
    Represents FleetCandidate.key (attentionCandidates calendar .empty input).1.candidates
      input.candidates := by
  have hnone : ∀ key c, CandidateStore.empty.candidateAt key = some c → c ∈ ([] : List _) := by
    intro key c hc
    cases hc
  obtain ⟨hkeyed, hsubset, hcovers⟩ := @candidateAt_upsertMany .empty []
    input.clock input.now.isoformat input.candidates hnone (fun c hc => by cases hc)
    (Dict.keyedBy_empty _)
  rw [List.nil_append] at hsubset hcovers
  have hsame : SameCandidates
      (upsertMany input.clock input.now.isoformat input.candidates .empty).1
      (attentionCandidates calendar .empty input).1 := by
    unfold attentionCandidates
    dsimp only
    split
    · exact ⟨hkeyed, fun _ => rfl⟩
    · have hmeets := sameCandidates_suppressCovered calendar input
        (upsertMany input.clock input.now.isoformat input.candidates .empty).2 hkeyed
      rcases hrun : (suppressCovered calendar input
        (upsertMany input.clock input.now.isoformat input.candidates .empty).2).run
          (upsertMany input.clock input.now.isoformat input.candidates .empty).1 with ⟨s', e | a⟩
      · exact hmeets.error _ _ hrun
      · exact hmeets.ok _ _ hrun
  refine represents_of_candidateAt hsame.1 (fun key c hc => ?_) fun c hc => ?_
  · exact hsubset key c (hsame.2 key ▸ hc)
  · rw [hsame.2]
    exact hcovers c hc

end Store

/-! ## Rows and items -/

variable {row : ShelfRow}

theorem sku_of_completeRow {product : ProductRow} {stock : StockRow}
    (h : completeRow product stock = some row) : row.sku = product.sku := by
  unfold completeRow at h
  simp only [Option.bind_eq_bind, Option.bind_eq_some_iff] at h
  obtain ⟨_, -, _, -, _, -, _, -, _, -, _, -, _, -, _, -, heq⟩ := h
  cases heq
  rfl

/-- The rows of a provider have different SKUs, none of them blank. -/
theorem skus_shelfRows (facts : ProductFacts) : (facts.shelfRows.map (·.sku)).Nodup ∧
    ∀ row ∈ facts.shelfRows, strip row.sku ≠ "" := by
  have hsku : ∀ product : ProductRow, ∀ row,
      (facts.stockOf product.sku).bind (completeRow product) = some row →
        row.sku = product.sku := by
    intro product row h
    obtain ⟨stock, -, hrow⟩ := Option.bind_eq_some_iff.mp h
    exact sku_of_completeRow hrow
  constructor
  · refine facts.nodup.sublist ?_
    unfold ProductFacts.shelfRows
    induction facts.products with
    | nil => exact List.Sublist.slnil
    | cons product products ih =>
      rw [List.filterMap_cons]
      split
      · exact ih.cons _
      · rename_i row hrow
        rw [List.map_cons, List.map_cons, hsku product row hrow]
        exact ih.cons_cons _
  · intro row hrow
    obtain ⟨product, hproduct, hbuilt⟩ := List.mem_filterMap.mp hrow
    rw [hsku product row hbuilt]
    exact facts.nonblank product hproduct

/-- A lot holds no negative number of units. -/
theorem onHand_nonneg {asOf : Day} {batches : List BatchItem} {evidence : Bool}
    (h : batchItems row asOf = .ok (batches, evidence)) : ∀ b ∈ batches, 0 ≤ b.onHand := by
  obtain ⟨read, hread, heq⟩ := bind_eq_ok_iff.mp h
  cases heq
  intro b hb
  obtain ⟨raw, -, hraw⟩ := exists_of_mem_mapM hread (List.reduceOption_mem_iff.mp hb)
  unfold batchItem at hraw
  split at hraw
  · rename_i fields
    cases hexpiry : batchExpiry fields with
    | none =>
      rw [hexpiry] at hraw
      cases hraw
    | some expiry =>
      rw [hexpiry, Option.elim_some] at hraw
      obtain ⟨quantity, -, hraw⟩ := bind_eq_ok_iff.mp hraw
      cases quantity with
      | none => cases hraw
      | some quantity =>
        rw [Option.elim_some] at hraw
        split at hraw
        · cases hraw
        · obtain ⟨lotId, -, heq⟩ := bind_eq_ok_iff.mp hraw
          cases heq
          exact not_lt.mp ‹_›
  · cases hraw

theorem leastOr_le {values : List ℤ} {x : ℤ} (h : x ∈ values) (default : ℤ) :
    leastOr values default ≤ x := by
  unfold leastOr
  cases hmin : values.min? with
  | none =>
    rw [List.min?_eq_none_iff.mp hmin] at h
    cases h
  | some least => exact (List.min?_eq_some_iff.mp hmin).2 x h

/-- What an item takes from its row. -/
structure ItemOf (row : ShelfRow) (asOf : Day) (item : ProductItem) : Prop where
  sku : item.sku = row.sku
  policy : item.policy = row.policy
  batches : ∃ evidence, batchItems row asOf = .ok (item.batches, evidence)
  attention : atRisk item.policy item.batches ≠ [] → item.requiresAttention = true

theorem of_productItem {signals : ProductSignals} {asOf : Day} {source : String}
    {item : ProductItem} (h : productItem row signals asOf source = .ok item) :
    ItemOf row asOf item := by
  unfold productItem at h
  obtain ⟨⟨batches, evidence⟩, hbatches, h⟩ := bind_eq_ok_iff.mp h
  obtain ⟨stockExpiry, -, h⟩ := bind_eq_ok_iff.mp h
  obtain ⟨recent, -, h⟩ := bind_eq_ok_iff.mp h
  obtain ⟨average, -, h⟩ := bind_eq_ok_iff.mp h
  obtain ⟨overstock, -, heq⟩ := bind_eq_ok_iff.mp h
  rcases hunits : inventoryClassification batches row.onHand with ⟨blocked, sellFirst, normal⟩
  rw [hunits] at heq
  cases heq
  refine ⟨rfl, rfl, ⟨evidence, hbatches⟩, fun hrisk => ?_⟩
  obtain ⟨b, hb⟩ := List.exists_mem_of_ne_nil _ hrisk
  obtain ⟨hb, hdays⟩ := List.mem_filter.mp hb
  have hleast := leastOr_le (List.mem_map_of_mem (f := BatchItem.daysToExpiry) hb)
    (stockExpiry.ordinal - asOf.ordinal)
  have hexpiring : leastOr (batches.map BatchItem.daysToExpiry)
      (stockExpiry.ordinal - asOf.ordinal) ≤ row.policy.expiryReviewDays :=
    hleast.trans (of_decide_eq_true hdays)
  rw [ProductItem.requiresAttention, decide_eq_true hexpiring]
  simp [attentionReasons]

/-- The items of a provider: one for each row, in the order of the rows. -/
structure ItemsOf (facts : ProductFacts) (asOf : Day) (items : List ProductItem) : Prop where
  nodup : (items.map (·.sku)).Nodup
  nonblank : ∀ item ∈ items, strip item.sku ≠ ""
  exists_item : ∀ row ∈ facts.shelfRows, ∃ item ∈ items, ItemOf row asOf item

variable {items : List ProductItem}

theorem of_providerProductItems {facts : ProductFacts} {asOf : Day}
    (h : providerProductItems facts asOf = .ok items) : ItemsOf facts asOf items := by
  obtain ⟨hskus, hnonblank⟩ := skus_shelfRows facts
  have hsame : items.map (·.sku) = facts.shelfRows.map (·.sku) :=
    map_eq_of_mapM h fun row _ item hitem => (of_productItem hitem).sku
  refine ⟨hsame ▸ hskus, fun item hitem => ?_, fun row hrow => ?_⟩
  · obtain ⟨row, hrow, hbuilt⟩ := exists_of_mem_mapM h hitem
    rw [(of_productItem hbuilt).sku]
    exact hnonblank row hrow
  · obtain ⟨item, hitem, hbuilt⟩ := exists_mem_of_mapM h hrow
    exact ⟨item, hitem, of_productItem hbuilt⟩

/-! ## No lot is lost -/

/-- The store holds one candidate for each of the lots, with its units. -/
structure EveryLotKept (s : CandidateStore) (sku : String) (lots : List BatchItem) : Prop where
  units : ((s.candidates.filter (·.isLotOf sku)).map (·.exposureUnits)).sum =
    (lots.map (·.onHand)).sum
  perLot : ((s.candidates.filter (·.isLotOf sku)).map fun c =>
      ((c.candidateType, c.lotId), c.exposureUnits)).Perm
    (lots.map fun b => (b.lotKey, b.onHand))

/-- No two of the candidates have the same key, unless they are about the same. -/
def CollisionFree {tenantId : String} (cs : List (TenantCandidate tenantId)) : Prop :=
  ∀ c ∈ cs, ∀ c' ∈ cs, c.1.candidateKey = c'.1.candidateKey →
    c.1.candidateType = c'.1.candidateType ∧ c.1.sku = c'.1.sku ∧ c.1.lotId = c'.1.lotId

instance {tenantId : String} (cs : List (TenantCandidate tenantId)) : Decidable (CollisionFree cs) :=
  inferInstanceAs (Decidable (∀ c ∈ cs, ∀ c' ∈ cs, _ → _))

variable {input : QueueInput}

/-- The candidates that are generated for the lots of a SKU. -/
theorem lotClaims_generated {lib : Library} {generated : List (TenantCandidate input.tenantId)}
    {item : ProductItem} (hitems : ItemsOf input.facts input.asOf items)
    (hgenerated : input.generated lib items = .ok generated) (hfew : generated.length < 500)
    (hitem : item ∈ items) (hof : ItemOf row input.asOf item) (hbatches : item.batches ≠ []) :
    ((generated.map (·.1)).filter (·.isLotOf row.sku)).map FleetCandidate.lotClaim |>.Perm
      ((atRisk item.policy item.batches).map fun b => b.lotClaim lib input.generation item) := by
  obtain ⟨found, hfound, hperm⟩ := generated_perm hgenerated (by exact_mod_cast hfew)
  have hinj := List.inj_on_of_nodup_map hitems.nodup
  have hmem : ∀ other ∈ attentionItems items, other ∈ items := fun other hother =>
    List.mem_of_mem_filter (mem_sortedBy.mp hother)
  have hunique : ∀ other ∈ attentionItems items, other.sku = row.sku → other = item :=
    fun other hother hsku => hinj (hmem other hother) hitem (hsku.trans hof.sku.symm)
  have hclaims := @flatten_lotClaims _ _ row.sku _ _
    (fun other hother => hitems.nonblank other (hmem other hother))
    (fun other hother hsku => hunique other hother hsku ▸ hbatches) hfound
  have hother : ∀ other ∈ attentionItems items, other ≠ item →
      lotClaims lib input.generation row.sku other = [] := fun other hother hne =>
    if_neg fun hsku => hne (hunique other hother hsku)
  have hself : lotClaims lib input.generation row.sku item =
      (atRisk item.policy item.batches).map fun b => b.lotClaim lib input.generation item :=
    if_pos hof.sku
  have hall : ((attentionItems items).map (lotClaims lib input.generation row.sku)).flatten =
      (atRisk item.policy item.batches).map fun b => b.lotClaim lib input.generation item := by
    by_cases hshown : item ∈ attentionItems items
    · have hnodup : (attentionItems items).Nodup :=
        (sortedBy_perm attentionKey _).nodup_iff.mpr (hitems.nodup.of_map.filter _)
      rw [flatten_eq_of_unique hshown hnodup hother, hself]
    · -- an item that needs no attention has no lot at risk
      have hquiet : atRisk item.policy item.batches = [] := by
        by_contra hrisk
        exact hshown (mem_sortedBy.mpr (List.mem_filter.mpr ⟨hitem, hof.attention hrisk⟩))
      rw [hquiet, List.map_nil]
      refine List.flatten_eq_nil_iff.mpr fun l hl => ?_
      obtain ⟨other, hmem, rfl⟩ := List.mem_map.mp hl
      exact hother other hmem fun heq => hshown (heq ▸ hmem)
  have hread := (hperm.filter fun c => c.1.isLotOf row.sku).map fun c => c.1.lotClaim
  rw [hclaims, hall] at hread
  rw [List.filter_map, List.map_map]
  exact hread

/-- The candidates that the queue keeps. -/
theorem represents_queue {lib : Library} {calendar : Calendar}
    {generated : List (TenantCandidate input.tenantId)} {s : CandidateStore}
    {answer : AttentionPage × List CandidateRecord}
    (hitems : providerProductItems input.facts input.asOf = .ok items)
    (hgenerated : input.generated lib items = .ok generated)
    (hlimit : (generated.length : ℤ) ≤ input.limit)
    (hrun : (productAttentionQueue lib calendar input).run .empty = (s, .ok answer)) :
    generated.length < 500 ∧
      Represents FleetCandidate.key s.candidates (generated.map (·.1)) := by
  have hmeets : (productAttentionQueue lib calendar input).Meets .empty
      (fun _ s => generated.length < 500 ∧
        Represents FleetCandidate.key s.candidates (generated.map (·.1))) fun _ _ => True := by
    unfold productAttentionQueue
    refine Fallible.meets_bind (Fallible.meets_ofExcept (fun bound hbound => ?_) fun _ _ => trivial)
    rw [hitems]
    refine Fallible.meets_bind (Fallible.meets_ofExcept (fun items' hitems' => ?_) fun _ _ => trivial)
    cases hitems'
    refine Fallible.meets_bind (Fallible.meets_ofExcept (fun page _ => ?_) fun _ _ => trivial)
    rw [hgenerated]
    refine Fallible.meets_bind (Fallible.meets_ofExcept (fun cs hcs => ?_) fun _ _ => trivial)
    cases hcs
    have hbounds : generated.length ≤ bound ∧ bound ≤ 50 := by
      unfold boundedLimit maxProductLimit at hbound
      split_ifs at hbound
      cases hbound
      omega
    obtain ⟨hsubset, hcovers⟩ := boundedCandidateMix_spec hbounds.1
    have hkept := represents_attentionCandidates calendar
      (input.refresh (boundedCandidateMix generated bound))
    have hall : Represents FleetCandidate.key
        (attentionCandidates calendar .empty
          (input.refresh (boundedCandidateMix generated bound))).1.candidates
        (generated.map (·.1)) := by
      refine hkept.of_cover (fun row hrow => ?_) fun row hrow => ?_
      · obtain ⟨c, hc, rfl⟩ := List.mem_map.mp hrow
        exact List.mem_map_of_mem (hsubset c hc)
      · obtain ⟨c, hc, rfl⟩ := List.mem_map.mp hrow
        obtain ⟨c', hc', hkey⟩ := List.mem_map.mp (hcovers c hc)
        refine List.mem_map.mpr ⟨c'.1, List.mem_map_of_mem hc', ?_⟩
        exact Prod.ext (c'.2.trans c.2.symm) hkey
    refine Fallible.meets_bind ⟨fun s' records hrun => ?_, fun _ _ _ => trivial⟩
    have hs' : _ = s' := congrArg Prod.fst hrun
    exact Fallible.meets_ret ⟨by omega, hs' ▸ hall⟩
  exact hmeets.ok s answer hrun

section Claims

variable {lib : Library} {g : Generation} {item : ProductItem} {rows : List FleetCandidate}
  {lots : List BatchItem}

/-- The key of a candidate of a lot is made from its kind and its lot. -/
theorem key_of_mem_claims
    (h : (rows.map FleetCandidate.lotClaim).Perm (lots.map fun b => b.lotClaim lib g item))
    {c : FleetCandidate} (hc : c ∈ rows) :
    c.key = (g.tenantId, candidateKey lib g item c.candidateType c.lotId) := by
  obtain ⟨b, -, hb⟩ :=
    List.mem_map.mp (h.mem_iff.mp (List.mem_map_of_mem (f := FleetCandidate.lotClaim) hc))
  have hmade : (g.tenantId, candidateKey lib g item b.candidateType (nonblank b.lotId)) = c.key :=
    congrArg LotClaim.key hb
  have hlot : (b.candidateType, nonblank b.lotId) = (c.candidateType, c.lotId) :=
    congrArg LotClaim.lotKey hb
  obtain ⟨htype, hid⟩ := Prod.mk.inj hlot
  rw [← hmade, htype, hid]

/-- The lots are kept exactly when all that is said of them is. -/
theorem everyLotKept_iff_perm {s : CandidateStore} {sku : String}
    (h : (rows.map FleetCandidate.lotClaim).Perm (lots.map fun b => b.lotClaim lib g item))
    (hunits : ∀ b ∈ lots, 0 ≤ b.onHand) :
    EveryLotKept s sku lots ↔
      ((s.candidates.filter (·.isLotOf sku)).map fun c =>
        ((c.candidateType, c.lotId), c.exposureUnits)).Perm
          (rows.map fun c => ((c.candidateType, c.lotId), c.exposureUnits)) := by
  have hread := h.map fun claim => (claim.lotKey, claim.units)
  rw [List.map_map, List.map_map] at hread
  have hwhole : lots.map (fun b => (b.lotKey, max b.onHand 0)) =
      lots.map fun b => (b.lotKey, b.onHand) :=
    List.map_congr_left fun b hb => by rw [max_eq_left (hunits b hb)]
  have hlots : (rows.map fun c => ((c.candidateType, c.lotId), c.exposureUnits)).Perm
      (lots.map fun b => (b.lotKey, b.onHand)) := hwhole ▸ hread
  constructor
  · exact fun hkept => hkept.perLot.trans hlots.symm
  · intro hperm
    have hall := hperm.trans hlots
    have hsum := (hall.map Prod.snd).sum_eq
    rw [List.map_map, List.map_map] at hsum
    exact ⟨hsum, hall⟩

end Claims

/-- No lot at risk of a SKU is lost exactly when its lots at risk differ in the kind of their candidate
or in their id, for digests that do not collide. -/
theorem every_lot_kept_iff {lib : Library} {calendar : Calendar} {input : QueueInput}
    {items : List ProductItem} {generated : List (TenantCandidate input.tenantId)}
    {s : CandidateStore} {answer : AttentionPage × List CandidateRecord} {row : ShelfRow}
    {batches : List BatchItem} {evidence : Bool}
    (hitems : providerProductItems input.facts input.asOf = .ok items)
    (hgenerated : input.generated lib items = .ok generated)
    (hfree : CollisionFree generated) (hlimit : (generated.length : ℤ) ≤ input.limit)
    (hrun : (productAttentionQueue lib calendar input).run .empty = (s, .ok answer))
    (hrow : row ∈ input.facts.shelfRows)
    (hbatches : batchItems row input.asOf = .ok (batches, evidence)) (hne : batches ≠ []) :
    EveryLotKept s row.sku (atRisk row.policy batches) ↔
      ((atRisk row.policy batches).map BatchItem.lotKey).Nodup := by
  have hof := of_providerProductItems hitems
  obtain ⟨item, hitem, hitemOf⟩ := hof.exists_item row hrow
  obtain ⟨evidence', hsame⟩ := hitemOf.batches
  have hitemBatches : item.batches = batches := by
    rw [hbatches] at hsame
    exact (Prod.ext_iff.mp (Except.ok.inj hsame)).1.symm
  obtain ⟨hfew, hrepresents⟩ := represents_queue hitems hgenerated hlimit hrun
  have hclaims := lotClaims_generated hof hgenerated hfew hitem hitemOf (hitemBatches ▸ hne)
  rw [hitemBatches, hitemOf.policy] at hclaims
  have hkind : ∀ c ∈ generated.map (·.1), ∀ c' ∈ generated.map (·.1), c.key = c'.key →
      c.candidateType = c'.candidateType ∧ c.sku = c'.sku ∧ c.lotId = c'.lotId := by
    intro c hc c' hc' hkey
    obtain ⟨d, hd, rfl⟩ := List.mem_map.mp hc
    obtain ⟨d', hd', rfl⟩ := List.mem_map.mp hc'
    exact hfree d hd d' hd' (Prod.ext_iff.mp hkey).2
  have hkept : Represents FleetCandidate.key (s.candidates.filter (·.isLotOf row.sku))
      ((generated.map (·.1)).filter (·.isLotOf row.sku)) := by
    refine hrepresents.filter fun c hc c' hc' hkey => ?_
    obtain ⟨htype, hsku, -⟩ := hkind c hc c' hc' hkey
    rw [FleetCandidate.isLotOf, FleetCandidate.isLotOf, htype, hsku]
  have hkeys := fun c => key_of_mem_claims hclaims (c := c)
  have hnodup : (((generated.map (·.1)).filter (·.isLotOf row.sku)).map FleetCandidate.key).Nodup ↔
      (((generated.map (·.1)).filter (·.isLotOf row.sku)).map fun c =>
        (c.candidateType, c.lotId)).Nodup := by
    refine nodup_map_iff fun c hc c' hc' => ⟨fun hkey => ?_, fun hlot => ?_⟩
    · obtain ⟨htype, -, hid⟩ :=
        hkind c (List.mem_of_mem_filter hc) c' (List.mem_of_mem_filter hc') hkey
      exact Prod.ext htype hid
    · obtain ⟨htype, hid⟩ := Prod.mk.inj hlot
      rw [hkeys c hc, hkeys c' hc', htype, hid]
  have hlotKeys := hclaims.map LotClaim.lotKey
  rw [List.map_map, List.map_map] at hlotKeys
  rw [everyLotKept_iff_perm hclaims fun b hb =>
      onHand_nonneg hbatches b (List.mem_of_mem_filter hb), hkept.map_perm_iff, hnodup]
  exact hlotKeys.nodup_iff

/-! ## Lots with and without ids -/

/-- The digests and the texts of the doubles that a lot of five expired units leads to. -/
def expiredLibrary : Library := ⟨sha256, fun v => if v = .finite 1 then "1.0" else "100.05"⟩

/-- Five units that expired on 1 July. -/
def expiredUnits (lotId : Value) : Value :=
  .dict [("lot_id", lotId), ("on_hand", .int 5), ("expiry_date", .str "2026-07-01")]

/-- Milk of which two lots of five units have expired. -/
def expiredMilk (first second : Value) : QueueInput where
  facts :=
    { products := [dairyProduct "MILK" "Milk"]
      stock := [⟨"MILK", some 10, some 2, some "2026-07-01",
        .list [expiredUnits first, expiredUnits second]⟩]
      signals := .empty
      sourceDataset := "generated_world"
      nonblank := by decide +kernel
      nodup := by decide }
  tenantId := "tenant-a"
  limit := 50
  openOrders := .empty
  asOf := secondOfJuly
  now := ⟨1782950400000000, "2026-07-02T00:00:00+00:00"⟩
  clock := ⟨1782950400000000, "2026-07-02T00:00:00+00:00"⟩

/-- The row of the milk. -/
def expiredRow (first second : Value) : ShelfRow where
  sku := "MILK"
  name := "Milk"
  category := "Dairy"
  supplier := "Farm"
  physics := none
  onHand := 10
  reorderPoint := 2
  expiryDate := "2026-07-01"
  batches := .list [expiredUnits first, expiredUnits second]

/-- A computation that goes through. -/
theorem eq_ok_getD {ε α : Type} {x : Except ε α} (h : x.toOption.isSome = true) (default : α) :
    x = .ok (x.toOption.getD default) := by
  cases x with
  | error e => cases h
  | ok a => rfl

/-- Five units of an item that expired yesterday. -/
def expiredLot (lotId : String) : BatchItem := ⟨lotId, 5, "2026-07-01", -1⟩

/-- Two lots with different ids are both kept. -/
theorem lots_with_ids_kept : ∃ s answer,
    (productAttentionQueue expiredLibrary utcCalendar
      (expiredMilk (.str "LOT-A") (.str "LOT-B"))).run .empty = (s, .ok answer) ∧
        EveryLotKept s "MILK" [expiredLot "LOT-A", expiredLot "LOT-B"] := by
  have hrun := eq_ok_getD (x := ((productAttentionQueue expiredLibrary utcCalendar
    (expiredMilk (.str "LOT-A") (.str "LOT-B"))).run .empty).2) (by decide +kernel) ⟨⟨0, false, []⟩, []⟩
  have hbatches : batchItems (expiredRow (.str "LOT-A") (.str "LOT-B")) secondOfJuly =
      .ok ([expiredLot "LOT-A", expiredLot "LOT-B"], true) := by decide +kernel
  have hrisk : atRisk (expiredRow (.str "LOT-A") (.str "LOT-B")).policy
      [expiredLot "LOT-A", expiredLot "LOT-B"] = [expiredLot "LOT-A", expiredLot "LOT-B"] := by
    decide +kernel
  have hkept := (every_lot_kept_iff
    (eq_ok_getD (by decide +kernel) []) (eq_ok_getD (by decide +kernel) []) (by decide +kernel)
    (by decide +kernel) (Prod.ext rfl hrun) (by decide +kernel) hbatches
    (List.cons_ne_nil _ _)).mpr (by decide +kernel)
  rw [hrisk] at hkept
  exact ⟨_, _, Prod.ext rfl hrun, hkept⟩

/-- Two lots without an id share a record, and the units of one of them are lost. -/
theorem lots_without_ids_lost : ∃ s answer,
    (productAttentionQueue expiredLibrary utcCalendar (expiredMilk .none .none)).run .empty =
        (s, .ok answer) ∧
      batchItems (expiredRow .none .none) secondOfJuly =
          .ok ([expiredLot "unknown", expiredLot "unknown"], true) ∧
        ¬ EveryLotKept s "MILK" [expiredLot "unknown", expiredLot "unknown"] := by
  have hrun := eq_ok_getD (x := ((productAttentionQueue expiredLibrary utcCalendar
    (expiredMilk .none .none)).run .empty).2) (by decide +kernel) ⟨⟨0, false, []⟩, []⟩
  refine ⟨_, _, Prod.ext rfl hrun, by decide +kernel, fun h => ?_⟩
  have hunits : ((((productAttentionQueue expiredLibrary utcCalendar
      (expiredMilk .none .none)).run .empty).1.candidates.filter (·.isLotOf "MILK")).map
        (·.exposureUnits)).sum = 5 := by decide +kernel
  have hsum := h.units
  rw [hunits] at hsum
  exact absurd hsum (by decide)

end ShelfWise.Candidates
