import Mathlib.Data.List.ReduceOption
import ShelfWise.Candidates.Factory

/-!
# The lots at risk

What `product_attention_queue` leaves in an empty candidate store for the lots of one SKU. A lot that
has expired or is to be reviewed leads to one candidate (`expiryCandidates_spec`), and the store keeps
one candidate for each key. A key is a digest of the kind of candidate and the id of the lot, so lots
that share their id share their record.

`every_lot_kept_iff` says when no lot is lost.
-/

namespace ShelfWise.Candidates

open Py Sys Connectors

/-! ## What the candidates of lots say -/

/-- The kind of candidate that a lot at risk leads to. -/
def BatchItem.candidateType (b : BatchItem) : String :=
  if b.daysToExpiry < 0 then "expired_lot" else "expiry_risk"

/-- The kind of candidate and the lot that it names. -/
def BatchItem.lotKey (b : BatchItem) : String × Option String := (b.candidateType, nonblank b.lotId)

/-- The lots that have expired or are to be reviewed. -/
def atRisk (policy : ProductPolicy) (batches : List BatchItem) : List BatchItem :=
  batches.filter fun b => b.daysToExpiry ≤ policy.expiryReviewDays

/-- What is read off a candidate of a lot. -/
structure LotClaim where
  key : String × String
  lotKey : String × Option String
  units : ℤ

/-- What a candidate says. -/
def FleetCandidate.lotClaim (c : FleetCandidate) : LotClaim :=
  ⟨c.key, (c.candidateType, c.lotId), c.exposureUnits⟩

/-- Whether a candidate is one of a lot of a SKU. -/
def FleetCandidate.isLotOf (sku : String) (c : FleetCandidate) : Bool :=
  decide (c.sku = sku) &&
    (decide (c.candidateType = "expired_lot") || decide (c.candidateType = "expiry_risk"))

section

variable {lib : Library} {g : Generation} {item : ProductItem}

/-- What the candidate of a lot says. -/
def BatchItem.lotClaim (lib : Library) (g : Generation) (item : ProductItem) (b : BatchItem) :
    LotClaim :=
  ⟨(g.tenantId, candidateKey lib g item b.candidateType (nonblank b.lotId)), b.lotKey,
    max b.onHand 0⟩

theorem lotClaim_candidate (b : BatchItem) (score urgency : FloatValue) :
    ((candidate lib g item (lotSignal b.candidateType (nonblank b.lotId) score urgency b.onHand
        b.daysToExpiry)).1.isLotOf item.sku,
      (candidate lib g item (lotSignal b.candidateType (nonblank b.lotId) score urgency b.onHand
        b.daysToExpiry)).1.lotClaim) = (true, b.lotClaim lib g item) := by
  have htype : b.candidateType = "expired_lot" ∨ b.candidateType = "expiry_risk" := by
    unfold BatchItem.candidateType
    split
    · exact Or.inl rfl
    · exact Or.inr rfl
  refine Prod.ext ?_ rfl
  show (decide (item.sku = item.sku) && (decide (b.candidateType = "expired_lot") ||
    decide (b.candidateType = "expiry_risk"))) = true
  simpa using htype

/-- The candidate of a lot. -/
theorem batchCandidate_spec {b : BatchItem} {found : Option (TenantCandidate g.tenantId)}
    (h : batchCandidate lib g item (some b) = .ok found) :
    found.toList.map (fun c => (c.1.isLotOf item.sku, c.1.lotClaim)) =
      (atRisk item.policy [b]).map fun b => (true, b.lotClaim lib g item) := by
  have hreview : 0 ≤ item.policy.expiryReviewDays := expiryReviewDays_nonneg _ _
  rw [batchCandidate, Option.elim_some, Option.elim_some, Option.bind_some] at h
  unfold expiryCandidate at h
  by_cases hrisk : b.daysToExpiry ≤ item.policy.expiryReviewDays
  · have hkept : atRisk item.policy [b] = [b] :=
      List.filter_cons_of_pos (decide_eq_true hrisk)
    rw [hkept, List.map_singleton]
    by_cases hexpired : b.daysToExpiry < 0
    · have htype : b.candidateType = "expired_lot" := if_pos hexpired
      rw [if_pos hexpired, ← htype] at h
      obtain ⟨exposure, -, heq⟩ := bind_eq_ok_iff.mp h
      cases heq
      exact congrArg (fun claim => [claim]) (lotClaim_candidate b _ _)
    · have htype : b.candidateType = "expiry_risk" := if_neg hexpired
      rw [if_neg hexpired, if_pos hrisk, ← htype] at h
      obtain ⟨nearness, -, h⟩ := bind_eq_ok_iff.mp h
      obtain ⟨exposure, -, h⟩ := bind_eq_ok_iff.mp h
      obtain ⟨urgency, -, heq⟩ := bind_eq_ok_iff.mp h
      cases heq
      exact congrArg (fun claim => [claim]) (lotClaim_candidate b _ _)
  · have hdropped : atRisk item.policy [b] = [] :=
      List.filter_cons_of_neg (by simpa using hrisk)
    rw [if_neg (by omega), if_neg hrisk] at h
    cases h
    rw [hdropped]
    rfl

variable {cs : List (TenantCandidate g.tenantId)}

/-- The lots of an item lead to one candidate for each of them that is at risk. -/
theorem expiryCandidates_spec (hbatches : item.batches ≠ [])
    (h : expiryCandidates lib g item = .ok cs) :
    cs.map (fun c => (c.1.isLotOf item.sku, c.1.lotClaim)) =
      (atRisk item.policy item.batches).map fun b => (true, b.lotClaim lib g item) := by
  unfold expiryCandidates at h
  simp only [if_neg hbatches] at h
  obtain ⟨found, hfound, heq⟩ := bind_eq_ok_iff.mp h
  cases heq
  generalize item.batches = batches at hfound
  clear hbatches h
  induction batches generalizing found with
  | nil =>
    rw [mapM_nil_eq_ok_iff.mp hfound]
    rfl
  | cons b batches ih =>
    obtain ⟨first, rest, hfirst, hrest, rfl⟩ := mapM_cons_eq_ok_iff.mp hfound
    have hsplit : (first :: rest).reduceOption = first.toList ++ rest.reduceOption := by
      cases first <;> rfl
    have hwhole : atRisk item.policy (b :: batches) =
        atRisk item.policy [b] ++ atRisk item.policy batches :=
      List.filter_append [b] batches
    rw [hsplit, List.map_append, batchCandidate_spec hfirst, ih rest hrest, hwhole, List.map_append]

/-! ## The candidates of an item -/

/-- A candidate of an item for something other than the expiry of a lot. -/
def OtherSignal (lib : Library) (g : Generation) (item : ProductItem)
    (c : TenantCandidate g.tenantId) : Prop :=
  ∃ s : Signal, c = candidate lib g item s ∧
    s.candidateType ∈ ["low_stock", "supplier_delay", "slow_mover", "overstock",
      "missing_batch_expiry"]

theorem otherSignal_itemSignal {candidateType : String}
    (h : candidateType ∈ ["low_stock", "supplier_delay", "slow_mover", "overstock",
      "missing_batch_expiry"]) (score urgency : FloatValue) (signal : String) :
    ∀ c ∈ [candidate lib g item (itemSignal item candidateType score urgency signal)],
      OtherSignal lib g item c := by
  intro c hc
  exact ⟨_, List.mem_singleton.mp hc, h⟩

theorem otherSignal_lowStock (h : lowStockCandidates lib g item = .ok cs) :
    ∀ c ∈ cs, OtherSignal lib g item c := by
  unfold lowStockCandidates at h
  split at h
  · obtain ⟨missing, -, h⟩ := bind_eq_ok_iff.mp h
    obtain ⟨urgency, -, h⟩ := bind_eq_ok_iff.mp h
    obtain ⟨openOrderUnits, -, h⟩ := bind_eq_ok_iff.mp h
    obtain ⟨openOrderEta, -, h⟩ := bind_eq_ok_iff.mp h
    cases h
    intro c hc
    exact ⟨_, List.mem_singleton.mp hc, List.mem_cons_self⟩
  · cases h
    intro c hc
    cases hc

theorem otherSignal_demand (h : demandCandidates lib g item = .ok cs) :
    ∀ c ∈ cs, OtherSignal lib g item c := by
  have hnone : ∀ c ∈ ([] : List (TenantCandidate g.tenantId)), OtherSignal lib g item c := by
    intro c hc
    cases hc
  unfold demandCandidates at h
  obtain ⟨recent, -, h⟩ := bind_eq_ok_iff.mp h
  split at h
  · cases h
    exact hnone
  · obtain ⟨days, -, h⟩ := bind_eq_ok_iff.mp h
    obtain ⟨average, -, h⟩ := bind_eq_ok_iff.mp h
    split at h
    · obtain ⟨share, -, h⟩ := bind_eq_ok_iff.mp h
      cases h
      exact otherSignal_itemSignal (by decide) _ _ _
    · split at h
      · obtain ⟨units, -, h⟩ := bind_eq_ok_iff.mp h
        obtain ⟨supply, -, h⟩ := bind_eq_ok_iff.mp h
        split at h
        · obtain ⟨share, -, h⟩ := bind_eq_ok_iff.mp h
          cases h
          exact otherSignal_itemSignal (by decide) _ _ _
        · cases h
          exact hnone
      · cases h
        exact hnone

theorem otherSignal_signals (h : signalCandidates lib g item = .ok cs) :
    ∀ c ∈ cs, OtherSignal lib g item c := by
  unfold signalCandidates at h
  obtain ⟨demand, hdemand, heq⟩ := bind_eq_ok_iff.mp h
  cases heq
  intro c hc
  rcases List.mem_append.mp hc with hc | hc
  · rcases List.mem_append.mp hc with hc | hc
    · split at hc
      · exact otherSignal_itemSignal (by decide) _ _ _ c hc
      · cases hc
    · exact otherSignal_demand hdemand c hc
  · split at hc
    · cases hc
    · exact otherSignal_itemSignal (by decide) _ _ _ c hc

theorem sku_of_expiryCandidate {days units : ℤ} {lotId : Option String}
    {c : TenantCandidate g.tenantId} (h : expiryCandidate lib g item days units lotId = .ok (some c)) :
    c.1.sku = item.sku := by
  unfold expiryCandidate at h
  dsimp only at h
  split at h
  · obtain ⟨exposure, -, heq⟩ := bind_eq_ok_iff.mp h
    cases heq
    rfl
  · split at h
    · obtain ⟨nearness, -, h⟩ := bind_eq_ok_iff.mp h
      obtain ⟨exposure, -, h⟩ := bind_eq_ok_iff.mp h
      obtain ⟨urgency, -, heq⟩ := bind_eq_ok_iff.mp h
      cases heq
      rfl
    · cases h

theorem sku_of_mem_expiryCandidates (h : expiryCandidates lib g item = .ok cs) :
    ∀ c ∈ cs, c.1.sku = item.sku := by
  intro c hc
  unfold expiryCandidates at h
  obtain ⟨found, hfound, heq⟩ := bind_eq_ok_iff.mp h
  cases heq
  have hsome : some c ∈ found := List.reduceOption_mem_iff.mp hc
  obtain ⟨batch, -, hbatch⟩ := exists_of_mem_mapM hfound hsome
  exact sku_of_expiryCandidate hbatch

/-- What an item says of the lots of a SKU. -/
def lotClaims (lib : Library) (g : Generation) (sku : String) (item : ProductItem) :
    List LotClaim :=
  if item.sku = sku then
    (atRisk item.policy item.batches).map fun b => b.lotClaim lib g item
  else []

/-- The candidates of an item for the lots of a SKU: one for each lot at risk, when it is the item of
that SKU. -/
theorem itemCandidates_spec {sku : String} (hsku : strip item.sku ≠ "")
    (hbatches : item.sku = sku → item.batches ≠ []) (h : itemCandidates lib g item = .ok cs) :
    (cs.filter fun c => c.1.isLotOf sku).map (fun c => c.1.lotClaim) = lotClaims lib g sku item := by
  rw [itemCandidates, if_neg hsku] at h
  obtain ⟨expiry, hexpiry, h⟩ := bind_eq_ok_iff.mp h
  obtain ⟨low, hlow, h⟩ := bind_eq_ok_iff.mp h
  obtain ⟨signals, hsignals, heq⟩ := bind_eq_ok_iff.mp h
  cases heq
  have hother : ∀ c ∈ low ++ signals, c.1.isLotOf sku = false := by
    intro c hc
    obtain ⟨s, rfl, htype⟩ : OtherSignal lib g item c := by
      rcases List.mem_append.mp hc with hc | hc
      · exact otherSignal_lowStock hlow c hc
      · exact otherSignal_signals hsignals c hc
    have hkind : ∀ t ∈ ["low_stock", "supplier_delay", "slow_mover", "overstock",
        "missing_batch_expiry"], (decide (t = "expired_lot") || decide (t = "expiry_risk")) =
          false := by decide
    show (decide (item.sku = sku) && (decide (s.candidateType = "expired_lot") ||
      decide (s.candidateType = "expiry_risk"))) = false
    rw [hkind _ htype, Bool.and_false]
  have hnone : (low ++ signals).filter (fun c => c.1.isLotOf sku) = [] :=
    List.filter_eq_nil_iff.mpr fun c hc => by rw [hother c hc]; decide
  rw [List.append_assoc, List.filter_append, hnone, List.append_nil, lotClaims]
  by_cases hitem : item.sku = sku
  · subst hitem
    have hspec := expiryCandidates_spec (hbatches rfl) hexpiry
    have hall : expiry.filter (fun c => c.1.isLotOf item.sku) = expiry := by
      refine List.filter_eq_self.mpr fun c hc => ?_
      have hmem := List.mem_map_of_mem (f := fun c => (c.1.isLotOf item.sku, c.1.lotClaim)) hc
      rw [hspec] at hmem
      obtain ⟨b, -, heq⟩ := List.mem_map.mp hmem
      exact (Prod.ext_iff.mp heq).1.symm
    have hclaims := congrArg (List.map Prod.snd) hspec
    rw [List.map_map, List.map_map] at hclaims
    rw [hall, if_pos rfl]
    exact hclaims
  · have hforeign : expiry.filter (fun c => c.1.isLotOf sku) = [] := by
      refine List.filter_eq_nil_iff.mpr fun c hc hlot => hitem ?_
      rw [← sku_of_mem_expiryCandidates hexpiry c hc]
      exact of_decide_eq_true (Bool.and_eq_true_iff.mp hlot).1
    rw [hforeign, if_neg hitem, List.map_nil]

/-! ## All candidates -/

/-- The candidates that a call generates, when there are fewer of them than it may. -/
theorem generated_perm {items : List ProductItem} {limit : ℤ}
    (h : generateFleetCandidates lib g items limit = .ok cs) (hlimit : (cs.length : ℤ) < limit) :
    ∃ found, items.mapM (itemCandidates lib g) = .ok found ∧ cs.Perm found.flatten := by
  unfold generateFleetCandidates at h
  split_ifs at h
  obtain ⟨found, hfound, heq⟩ := bind_eq_ok_iff.mp h
  refine ⟨found, hfound, ?_⟩
  have hcs := (Except.ok.inj heq).symm
  have hall : cs = sortedBy (fun c => toLex (-scoreOf c.1, c.1.candidateKey)) found.flatten := by
    rw [hcs, List.take_of_length_le]
    rw [hcs, List.length_take] at hlimit
    omega
  rw [hall]
  exact sortedBy_perm _ _

/-- What the candidates of several items say of the lots of a SKU. -/
theorem flatten_lotClaims {sku : String} {items : List ProductItem}
    {found : List (List (TenantCandidate g.tenantId))}
    (hsku : ∀ item ∈ items, strip item.sku ≠ "")
    (hbatches : ∀ item ∈ items, item.sku = sku → item.batches ≠ [])
    (h : items.mapM (itemCandidates lib g) = .ok found) :
    (found.flatten.filter fun c => c.1.isLotOf sku).map (fun c => c.1.lotClaim) =
      (items.map (lotClaims lib g sku)).flatten := by
  have hmap := map_eq_of_mapM h (g := lotClaims lib g sku)
    (k := fun cs => (cs.filter fun c => c.1.isLotOf sku).map fun c => c.1.lotClaim)
    fun item hitem cs hcs => itemCandidates_spec (hsku item hitem) (hbatches item hitem) hcs
  rw [← hmap, List.filter_flatten, List.map_flatten, List.map_map]
  rfl

end

/-- Only one of the items is of the SKU. -/
theorem flatten_eq_of_unique {γ : Type} {items : List ProductItem} {f : ProductItem → List γ}
    {item : ProductItem} (hitem : item ∈ items) (hnodup : items.Nodup)
    (hother : ∀ other ∈ items, other ≠ item → f other = []) : (items.map f).flatten = f item := by
  induction items with
  | nil => cases hitem
  | cons first rest ih =>
    obtain ⟨hfirst, hrest⟩ := List.nodup_cons.mp hnodup
    rw [List.map_cons, List.flatten_cons]
    rcases List.mem_cons.mp hitem with rfl | hmem
    · have hnone : (rest.map f).flatten = [] := by
        refine List.flatten_eq_nil_iff.mpr fun l hl => ?_
        obtain ⟨other, hmem, rfl⟩ := List.mem_map.mp hl
        exact hother other (List.mem_cons_of_mem _ hmem) fun heq => hfirst (heq ▸ hmem)
      rw [hnone, List.append_nil]
    · have hne : first ≠ item := fun heq => hfirst (heq ▸ hmem)
      rw [hother first List.mem_cons_self hne, List.nil_append]
      exact ih hmem hrest fun other h => hother other (List.mem_cons_of_mem _ h)

/-! ## The mix -/

section Mix

variable {tenantId : String}

/-- The representatives are some of the candidates. -/
theorem representatives_sublist (limit : ℕ) (kept cs : List (TenantCandidate tenantId)) :
    ∃ more, representatives limit kept cs = kept ++ more ∧ more.Sublist cs := by
  induction cs generalizing kept with
  | nil => exact ⟨[], (List.append_nil kept).symm, List.Sublist.refl _⟩
  | cons c cs ih =>
    unfold representatives
    split_ifs
    · obtain ⟨more, heq, hsub⟩ := ih kept
      exact ⟨more, heq, hsub.cons c⟩
    · exact ⟨[c], rfl, (List.nil_sublist cs).cons_cons c⟩
    · obtain ⟨more, heq, hsub⟩ := ih (kept ++ [c])
      exact ⟨c :: more, by rw [heq, List.append_assoc, List.singleton_append], hsub.cons_cons c⟩

/-- A mix that may hold every candidate has one for each key. -/
theorem boundedCandidateMix_spec {cs : List (TenantCandidate tenantId)} {limit : ℕ}
    (hlimit : cs.length ≤ limit) :
    (∀ c ∈ boundedCandidateMix cs limit, c ∈ cs) ∧
      ∀ c ∈ cs, c.1.candidateKey ∈ (boundedCandidateMix cs limit).map (·.1.candidateKey) := by
  obtain ⟨kept, heq, hsub⟩ := representatives_sublist limit [] cs
  rw [List.nil_append] at heq
  unfold boundedCandidateMix
  simp only [heq]
  by_cases hfull : kept.length = limit
  · have hall : kept = cs := hsub.eq_of_length_le (by omega)
    rw [if_pos hfull, hall]
    exact ⟨fun _ h => h, fun c hc => List.mem_map_of_mem hc⟩
  · -- what is kept has its keys among the keys of what is kept, the rest has other keys
    have hsplit : kept.length +
        (cs.filter fun c => c.1.candidateKey ∉ kept.map (·.1.candidateKey)).length ≤ limit := by
      have hkept : (kept.filter fun c => c.1.candidateKey ∈ kept.map (·.1.candidateKey)) = kept :=
        List.filter_eq_self.mpr fun c hc => decide_eq_true (List.mem_map_of_mem hc)
      have hlength := (hsub.filter fun c =>
        c.1.candidateKey ∈ kept.map (·.1.candidateKey)).length_le
      have htotal := List.length_eq_length_filter_add (l := cs) fun c =>
        c.1.candidateKey ∈ kept.map (·.1.candidateKey)
      rw [hkept] at hlength
      simp only [decide_not] at htotal ⊢
      omega
    rw [if_neg hfull, List.take_of_length_le (by rw [List.length_append]; exact hsplit)]
    refine ⟨fun c hc => ?_, fun c hc => ?_⟩
    · rcases List.mem_append.mp hc with hc | hc
      · exact hsub.subset hc
      · exact List.mem_of_mem_filter hc
    · by_cases hmem : c.1.candidateKey ∈ kept.map (·.1.candidateKey)
      · rw [List.map_append]
        exact List.mem_append_left _ hmem
      · refine List.mem_map_of_mem (List.mem_append_right _ ?_)
        exact List.mem_filter.mpr ⟨hc, decide_eq_true hmem⟩

end Mix

end ShelfWise.Candidates
