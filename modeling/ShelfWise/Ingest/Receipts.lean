import ShelfWise.Ingest.Imports

/-!
# What imports leave in the ledger

The ledger keeps one receipt for each event, under the stripped tenant and the stripped id.
`receipts_projectAll` says which receipts a list of sales leaves: one for each key that no receipt was
kept under and no sale before had, with the SKU and the units that were asked for. Two source objects
of one tenant share a key exactly when their ids differ in trailing white space only.
-/

namespace Py

/-- `s.rstrip()`. -/
def rstrip (s : String) : String := String.ofList (s.toList.rdropWhile isSpace)

theorem rdropWhile_append_cons {cs ds : List Char} {c : Char} (hc : isSpace c = false) :
    (cs ++ c :: ds).rdropWhile isSpace = cs ++ c :: ds.rdropWhile isSpace := by
  induction ds using List.reverseRecOn with
  | nil =>
    have hlast : (cs ++ [c]).rdropWhile isSpace = cs ++ [c] :=
      List.rdropWhile_concat_neg _ _ _ (by simp [hc])
    rw [hlast]
    rfl
  | append_singleton ds d ih =>
    have hassoc : cs ++ c :: (ds ++ [d]) = (cs ++ c :: ds) ++ [d] := by simp
    by_cases hd : isSpace d = true
    · rw [hassoc, List.rdropWhile_concat_pos _ _ _ hd, List.rdropWhile_concat_pos _ _ _ hd, ih]
    · rw [hassoc, List.rdropWhile_concat_neg _ _ _ hd, List.rdropWhile_concat_neg _ _ _ hd, hassoc]

/-- A text that begins with no white space is stripped behind a colon only. -/
theorem strip_colon {pre s : String} {first : Char} {rest : List Char}
    (hpre : pre.toList = first :: rest) (hfirst : isSpace first = false) :
    strip (pre ++ ":" ++ s) = pre ++ ":" ++ rstrip s := by
  refine String.toList_injective ?_
  have hcolon : isSpace ':' = false := by decide
  have hlist : (pre ++ ":" ++ s).toList = (first :: rest) ++ ':' :: s.toList := by
    rw [String.toList_append, String.toList_append, hpre]
    simp
  unfold strip stripChars rstrip
  rw [String.toList_ofList, hlist, List.cons_append,
    List.dropWhile_cons_of_neg (by simp [hfirst]), ← List.cons_append,
    rdropWhile_append_cons hcolon, String.toList_append, String.toList_append, hpre,
    String.toList_ofList]
  simp

theorem rstrip_of_stripped {s : String} (h : Stripped s) : rstrip s = s := by
  have hchars : (s.toList.dropWhile isSpace).rdropWhile isSpace = s.toList := by
    have hlist := congrArg String.toList h
    unfold strip at hlist
    rwa [String.toList_ofList] at hlist
  have hsuffix := List.dropWhile_suffix (p := isSpace) (l := s.toList)
  have hprefix := List.rdropWhile_prefix isSpace (s.toList.dropWhile isSpace)
  have hlength : (s.toList.dropWhile isSpace).length = s.toList.length := by
    have hle := hprefix.length_le
    rw [hchars] at hle
    exact le_antisymm hsuffix.length_le hle
  rw [hsuffix.eq_of_length hlength] at hchars
  unfold rstrip
  rw [hchars, String.ofList_toList]

end Py

namespace ShelfWise.Ingest

open Py Sys Connectors

/-! ## One event -/

/-- The key of the receipt of an event. -/
def ledgerKey (event : Event) : String × String := (strip event.tenantId, strip event.id)

/-- The receipt asks for the units of the event. -/
structure ReceiptOf (event : Event) (r : Inventory.Receipt) : Prop where
  sku : r.sku = ledgerSku event
  requested : r.requestedQuantity = Inventory.integralQuantity (ledgerQuantity event)
  status : r.status ≠ .duplicate

/-- The ledger takes an event once: it leaves a receipt where there was none. -/
theorem receipt_projectEvent {event : Event} (h : Importable event) (hprojectable : Projectable event)
    {s : Inventory.Store} (hkeyed : Inventory.Keyed s.positions) (now : Timestamp) :
    (ledgerKey event ∈ s.projectionReceipts.keys →
      (s.projectEvent now.isoformat event.toDict).1 = s) ∧
    (ledgerKey event ∉ s.projectionReceipts.keys → ∃ r, ReceiptOf event r ∧
      (s.projectEvent now.isoformat event.toDict).1.projectionReceipts.entries =
        s.projectionReceipts.entries ++ [(ledgerKey event, r)]) := by
  obtain ⟨p, hp, hreads⟩ := readsEvent hprojectable
  have hkey : (p.tenantId, p.eventId) = ledgerKey event :=
    Prod.ext hreads.tenantId hreads.eventId
  have hmem : ledgerKey event ∈ s.projectionReceipts.keys ↔
      s.projectionReceipts.get? (ledgerKey event) ≠ none := by
    rw [Option.ne_none_iff_exists']
    unfold Dict.keys
    rw [List.mem_map]
    constructor
    · rintro ⟨⟨k, r⟩, hentry, rfl⟩
      exact ⟨r, (Dict.mem_entries_iff _ _ _).mp hentry⟩
    · rintro ⟨r, hget⟩
      exact ⟨(_, r), (Dict.mem_entries_iff _ _ _).mpr hget, rfl⟩
  rw [hmem]
  unfold Inventory.Store.projectEvent
  rw [hp]
  dsimp only
  rw [hkey]
  cases hget : s.projectionReceipts.get? (ledgerKey event) with
  | some existing => exact ⟨fun _ => rfl, fun h => absurd (by simp) h⟩
  | none =>
    refine ⟨fun h => absurd rfl h, fun _ => ?_⟩
    dsimp only
    have hof : ∀ r, Inventory.ReceiptFor p r → r.status ≠ .duplicate → ReceiptOf event r :=
      fun r hr hstatus => ⟨hr.sku.trans hreads.sku, hr.requestedQuantity.trans hreads.quantity, hstatus⟩
    cases hissue : p.issue with
    | some issue =>
      rw [Inventory.applyProjection_issue hissue]
      exact ⟨_, hof _ (Inventory.receiptFor_projectionReceipt ..) (by simp [Inventory.projectionReceipt]),
        Dict.entries_set_of_fresh hget _⟩
    | none =>
      obtain ⟨n, haccepted⟩ := Inventory.accepted_of_projectionInput hp hissue
      have hstripped := stripped_readsEvent hreads
      obtain ⟨after, r, hrun⟩ := (applyProjection_applied_iff now.isoformat hkeyed haccepted
        hstripped.1 hstripped.2).mpr ((stock_readsEvent_iff hprojectable hreads).mpr h.stock)
      rcases Inventory.applyProjection_spec now.isoformat hkeyed haccepted with
        ⟨e, herror⟩ | ⟨after', r', hrun', happlied⟩
      · rw [hrun] at herror
        cases herror
      · rw [hrun']
        exact ⟨r', hof _ happlied.receiptFor happlied.status.2, Dict.entries_set_of_fresh hget _⟩

/-! ## Many events -/

/-- The receipts that events leave: one for each, in their order. -/
def ReceiptsOf (imports : List Import) (entries : List ((String × String) × Inventory.Receipt)) :
    Prop :=
  List.Forall₂ (fun i e => e.1 = ledgerKey i.event ∧ ReceiptOf i.event e.2) imports entries

/-- The sales whose key no receipt and no sale before has leave their receipts, and no others do. -/
theorem receipts_projectAll {imports : List Import}
    (himports : ∀ i ∈ imports, Importable i.event ∧ i.event.type = .sale) {s : Inventory.Store}
    (hkeyed : Inventory.Keyed s.positions) :
    ∃ entries, (projectAll s imports).projectionReceipts.entries =
        s.projectionReceipts.entries ++ entries ∧
      ReceiptsOf (firstsBy (fun i => ledgerKey i.event) s.projectionReceipts.keys imports) entries := by
  induction imports generalizing s with
  | nil => exact ⟨[], (List.append_nil _).symm, .nil⟩
  | cons i rest ih =>
    obtain ⟨himportable, hsale⟩ := himports i List.mem_cons_self
    have hrest := fun j hj => himports j (List.mem_cons_of_mem i hj)
    have hprojectable : Projectable i.event := ⟨himportable.operational, .inl hsale⟩
    obtain ⟨hold, hnew⟩ := receipt_projectEvent himportable hprojectable hkeyed i.now
    have hkeyed' := Inventory.keyed_projectEvent hkeyed i.now.isoformat i.event.toDict
    obtain ⟨entries, hentries, hreceipts⟩ := ih hrest hkeyed'
    have hcons : projectAll s (i :: rest) =
        projectAll (s.projectEvent i.now.isoformat i.event.toDict).1 rest := rfl
    rw [hcons, firstsBy]
    by_cases hmem : ledgerKey i.event ∈ s.projectionReceipts.keys
    · rw [if_pos hmem]
      rw [hold hmem] at hentries hreceipts ⊢
      exact ⟨entries, hentries, hreceipts⟩
    · obtain ⟨r, hr, hset⟩ := hnew hmem
      have hkeys : (s.projectEvent i.now.isoformat i.event.toDict).1.projectionReceipts.keys =
          s.projectionReceipts.keys ++ [ledgerKey i.event] := by
        unfold Dict.keys
        rw [hset, List.map_append]
        rfl
      rw [hkeys] at hreceipts
      rw [if_neg hmem]
      refine ⟨(ledgerKey i.event, r) :: entries, ?_, .cons ⟨rfl, hr⟩ hreceipts⟩
      rw [hentries, hset, List.append_assoc]
      rfl

end ShelfWise.Ingest
