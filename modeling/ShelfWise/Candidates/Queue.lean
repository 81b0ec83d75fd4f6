import ShelfWise.Candidates.Products

/-!
# The page of the attention queue

The part of `product_attention_queue` (`shelfwise_backend/product_catalog.py`) that chooses what is
shown: the items that need attention, most urgent first, cut at a limit. `_attention_sort` reads a
missing number of days as 9999, and takes 0 for a missing one.

`urgent_first_iff` says when the page hides nothing more urgent than what it shows.
-/

namespace ShelfWise.Candidates

open Py

/-! ## The program -/

/-- `MAX_PRODUCT_LIMIT`. -/
def maxProductLimit : ℤ := 50

/-- `_bounded_limit`. -/
def boundedLimit (limit : ℤ) : Except Exc ℕ :=
  if limit ≤ 0 ∨ maxProductLimit < limit then
    .error (.valueError "limit must be between 1 and 50")
  else .ok limit.toNat

/-- `days_to_expiry or 9999`. -/
def sortDays (item : ProductItem) : ℤ := if item.daysToExpiry = 0 then 9999 else item.daysToExpiry

/-- The key of `_attention_sort`. -/
def attentionKey (item : ProductItem) : Lex (ℤ × Lex (ℤ × String)) :=
  toLex (-item.sellFirstUnits, toLex (sortDays item, item.name))

/-- `_attention_sort`. -/
def attentionSort (items : List ProductItem) : List ProductItem := sortedBy attentionKey items

/-- The items that need attention, in the order of the queue. -/
def attentionItems (items : List ProductItem) : List ProductItem :=
  attentionSort (items.filter ProductItem.requiresAttention)

/-- What the queue shows of the items. -/
structure AttentionPage where
  limit : ℕ
  truncated : Bool
  items : List ProductItem

/-- The page of a limit. -/
def attentionPage (items : List ProductItem) (limit : ℤ) : Except Exc AttentionPage := do
  let bound ← boundedLimit limit
  .ok
    { limit := bound, truncated := bound < (attentionItems items).length
      items := (attentionItems items).take bound }

/-! ## What comes first -/

/-- How urgent an item is: first the one with more units to sell first, then the one that expires
earlier. -/
def urgency (item : ProductItem) : Lex (ℤ × ℤ) := toLex (-item.sellFirstUnits, item.daysToExpiry)

/-- A page hides nothing more urgent than what it shows, and shows in the order of the expiry dates
what has the same units to sell first. -/
structure UrgentFirst (items shown : List ProductItem) : Prop where
  cut : ∀ y ∈ shown, ∀ x ∈ (items.filter ProductItem.requiresAttention).diff shown,
    urgency y ≤ urgency x
  order : shown.Pairwise fun y x =>
    y.sellFirstUnits = x.sellFirstUnits → y.daysToExpiry ≤ x.daysToExpiry

/-- The places of the items that need attention. -/
def attentionPlaces (items : List ProductItem) : List (ProductItem × ℕ) :=
  (items.filter ProductItem.requiresAttention).zipIdx

/-- The first `n` places of the queue are none from which an item that expires today is missed: at
least `n` places come before every item that expires later than such an item, has the same units to
sell first and yet comes before it. -/
def TodayInTime (items : List ProductItem) (n : ℕ) : Prop :=
  ∀ w ∈ attentionPlaces items, ∀ z ∈ attentionPlaces items,
    w.1.sellFirstUnits = z.1.sellFirstUnits → z.1.daysToExpiry = 0 → 0 < w.1.daysToExpiry →
      placeKey attentionKey w < placeKey attentionKey z →
        n ≤ (attentionPlaces items).countP fun v => placeKey attentionKey v < placeKey attentionKey w

/-- What the page leaves out is the rest of the queue. -/
theorem diff_take_perm (items : List ProductItem) (n : ℕ) :
    ((items.filter ProductItem.requiresAttention).diff ((attentionItems items).take n)).Perm
      ((attentionItems items).drop n) := by
  have hsorted : (items.filter ProductItem.requiresAttention).Perm
      ((attentionItems items).take n ++ (attentionItems items).drop n) := by
    rw [List.take_append_drop]
    exact (sortedBy_perm attentionKey _).symm
  refine (hsorted.diff_right _).trans ?_
  rw [List.perm_iff_count]
  intro item
  rw [List.count_diff, List.count_append]
  omega

/-- An item comes before another one in the queue and is not as urgent: then it expires later, and
the other one today. -/
theorem not_urgency_le_iff {w z : ProductItem × ℕ}
    (hlt : placeKey attentionKey w < placeKey attentionKey z) :
    ¬ urgency w.1 ≤ urgency z.1 ↔
      w.1.sellFirstUnits = z.1.sellFirstUnits ∧ z.1.daysToExpiry = 0 ∧ 0 < w.1.daysToExpiry := by
  have hkey : attentionKey w.1 ≤ attentionKey z.1 := by
    rcases Prod.Lex.toLex_lt_toLex.mp hlt with hlt | ⟨heq, -⟩
    · exact le_of_lt hlt
    · exact le_of_eq heq
  rw [not_le, urgency, urgency, Prod.Lex.toLex_lt_toLex]
  rw [attentionKey, attentionKey, Prod.Lex.toLex_le_toLex, Prod.Lex.toLex_le_toLex] at hkey
  unfold sortDays at hkey
  constructor
  · intro hurgent
    split_ifs at hkey <;> omega
  · intro h
    omega

theorem urgentFirst_iff (items : List ProductItem) (n : ℕ) :
    UrgentFirst items ((attentionItems items).take n) ↔ TodayInTime items n := by
  have hperm := diff_take_perm items n
  have hsorted : ((attentionItems items).take n).Pairwise fun y x =>
      attentionKey y ≤ attentionKey x := (pairwise_sortedBy attentionKey _).take
  have hiff : UrgentFirst items ((attentionItems items).take n) ↔
      ((attentionItems items).take n).Pairwise (fun y x => urgency y ≤ urgency x) ∧
        ∀ y ∈ (attentionItems items).take n, ∀ x ∈ (attentionItems items).drop n,
          urgency y ≤ urgency x := by
    constructor
    · rintro ⟨hcut, horder⟩
      refine ⟨hsorted.imp₂ (fun y x hkey hdays => ?_) horder,
        fun y hy x hx => hcut y hy x (hperm.mem_iff.mpr hx)⟩
      rw [attentionKey, attentionKey, Prod.Lex.toLex_le_toLex] at hkey
      rw [urgency, urgency, Prod.Lex.toLex_le_toLex]
      rcases hkey with hmore | ⟨hsame, -⟩
      · exact Or.inl hmore
      · exact Or.inr ⟨hsame, hdays (neg_injective hsame)⟩
    · rintro ⟨hpairs, hcut⟩
      refine ⟨fun y hy x hx => hcut y hy x (hperm.mem_iff.mp hx), hpairs.imp fun hle hsame => ?_⟩
      rw [urgency, urgency, Prod.Lex.toLex_le_toLex] at hle
      rcases hle with hmore | ⟨-, hdays⟩
      · exact absurd hmore (by simp only [hsame, lt_irrefl, not_false_eq_true])
      · exact hdays
  rw [hiff]
  refine (cut_related_iff attentionKey _ (fun y x => urgency y ≤ urgency x) n).trans ?_
  refine forall₄_congr fun w _ z _ => ?_
  constructor
  · intro h hsame htoday hlater hlt
    by_contra hfew
    exact (not_urgency_le_iff hlt).mpr ⟨hsame, htoday, hlater⟩ (h hlt (not_le.mp hfew))
  · intro h hlt hcount
    by_contra hnot
    obtain ⟨hsame, htoday, hlater⟩ := (not_urgency_le_iff hlt).mp hnot
    exact absurd hcount (not_lt.mpr (h hsame htoday hlater hlt))

/-- A page hides nothing more urgent than what it shows exactly when it is cut at no item that
expires later and comes before one that expires today. -/
theorem urgent_first_iff (items : List ProductItem) (limit : ℤ) :
    (∀ page, attentionPage items limit = .ok page → UrgentFirst items page.items) ↔
      ∀ n, boundedLimit limit = .ok n → TodayInTime items n := by
  constructor
  · intro h n hn
    refine (urgentFirst_iff items n).mp (h ⟨n, n < (attentionItems items).length, _⟩ ?_)
    rw [attentionPage, hn]
    rfl
  · intro h page hpage
    obtain ⟨n, hn, heq⟩ := bind_eq_ok_iff.mp hpage
    cases heq
    exact (urgentFirst_iff items n).mpr (h n hn)

/-! ## A product that expires today -/

/-- A dairy product with one lot of five units. -/
def dairyProduct (sku name : String) : ProductRow :=
  ⟨sku, some name, some "Dairy", some "Farm", none, some (.finite false 199 (-2)),
    some (.finite false 99 (-2))⟩

/-- Its stock. -/
def dairyStock (sku expiryDate : String) : StockRow where
  sku := sku
  onHand := some 5
  reorderPoint := some 2
  expiryDate := some expiryDate
  batches := .list [.dict [("lot_id", .str sku), ("on_hand", .int 5),
    ("expiry_date", .str expiryDate)]]

/-- Milk that expires on 2 July, and yoghurt that expires a day later. -/
def dairyFacts : ProductFacts where
  products := [dairyProduct "MILK" "Milk", dairyProduct "YOGHURT" "Yoghurt"]
  stock := [dairyStock "MILK" "2026-07-02", dairyStock "YOGHURT" "2026-07-03"]
  signals := .empty
  sourceDataset := "generated_world"
  nonblank := by decide +kernel
  nodup := by decide

/-- 2 July 2026. -/
def secondOfJuly : Day := ⟨2026, 7, 2, by decide⟩

/-- The item of such a product. -/
def dairyItem (sku name expiryDate : String) (days : ℤ) : ProductItem where
  sku := sku
  name := name
  category := "Dairy"
  supplier := "Farm"
  physics := none
  recentDailyUnits := []
  supplierRecentDelay := false
  hasBatchEvidence := true
  dataDomain := "world_simulation"
  onHand := 5
  reorderPoint := 2
  expiryDate := expiryDate
  daysToExpiry := days
  attentionReasons := ["sell_first", "expiring"]
  sellFirstUnits := 5
  normalUnits := 0
  blockedUnits := 0
  batches := [⟨sku, 5, expiryDate, days⟩]

/-- Of two products with five units to sell first, a page of one item shows the one that expires
tomorrow, and hides the one that expires today. -/
theorem today_hidden_by_tomorrow : ∃ items page,
    providerProductItems dairyFacts secondOfJuly = .ok items ∧
      attentionPage items 1 = .ok page ∧ ¬ UrgentFirst items page.items := by
  refine ⟨[dairyItem "MILK" "Milk" "2026-07-02" 0, dairyItem "YOGHURT" "Yoghurt" "2026-07-03" 1],
    ⟨1, true, [dairyItem "YOGHURT" "Yoghurt" "2026-07-03" 1]⟩, by decide +kernel, by rfl, ?_⟩
  intro h
  have hle := h.cut (dairyItem "YOGHURT" "Yoghurt" "2026-07-03" 1) List.mem_cons_self
    (dairyItem "MILK" "Milk" "2026-07-02" 0) (by decide)
  exact absurd hle (by decide)

end ShelfWise.Candidates
