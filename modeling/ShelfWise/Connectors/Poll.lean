import ShelfWise.Connectors.Record

/-!
# Polling

`shelfwise_connectors/connectors/poll.py`: the cursor store and `PollingConnector.pull`, which reads
page after page, yields the records it has not yielded yet and keeps the cursor of the last page.

A connector is its `fetch_page`, which gets the number of the page besides the cursor: an answer of
the outside world may be another one each time it is asked for. A run of the generator is the list
of what it yields, with the exception that ended it.
-/

namespace ShelfWise.Connectors

open Py

/-- `InMemoryCursorStore`. -/
abbrev CursorStore := Dict (String × String) String

/-- `fetch_page`. -/
abbrev FetchPage := ℕ → Option String → Except Exc (List InboundRecord × Option String)

/-- `_MAX_POLL_PAGES`. -/
def maxPollPages : ℕ := 10000

/-- `_dedupe_key`. -/
def dedupeKey (record : InboundRecord) : String × String × String × String :=
  (record.sourceSystem.value, record.sourceObjectType, record.sourceObjectId, record.payloadHash)

/-- The records of a page that are yielded, with the keys seen after it. -/
def newRecords (seen : List (String × String × String × String)) :
    List InboundRecord → List InboundRecord × List (String × String × String × String)
  | [] => ([], seen)
  | record :: page =>
    if dedupeKey record ∈ seen then newRecords seen page
    else
      let rest := newRecords (dedupeKey record :: seen) page
      (record :: rest.1, rest.2)

/-- `key in seen`. -/
def isSeen (seen : List (String × String × String × String)) (record : InboundRecord) : Bool :=
  decide (dedupeKey record ∈ seen)

/-- What a run of the generator leaves behind: the cursors, the records it yielded, and the
exception it raised. -/
structure Pulled where
  cursors : CursorStore
  records : List InboundRecord
  raised : Option Exc

/-- The loop of `pull` over the pages that are left, from page `i` on. -/
def pullPages (fetchPage : FetchPage) (key : String × String) : ℕ → ℕ → Option String →
    List (String × String × String × String) → CursorStore → Pulled
  | 0, _, _, _, cursors => ⟨cursors, [], none⟩
  | pages + 1, i, cursor, seen, cursors =>
    match fetchPage i cursor with
    | .error e => ⟨cursors, [], some e⟩
    | .ok (page, nextCursor) =>
      let fresh := newRecords seen page
      match nextCursor with
      | none => ⟨cursors, fresh.1, none⟩
      | some next =>
        if some next = cursor then ⟨cursors, fresh.1, none⟩
        else
          let rest := pullPages fetchPage key pages (i + 1) (some next) fresh.2
            (cursors.set key next)
          ⟨rest.cursors, fresh.1 ++ rest.records, rest.raised⟩

/-- The cursors without the one under a key. -/
def CursorStore.delete (key : String × String) (cursors : CursorStore) : CursorStore :=
  ⟨cursors.entries.filter fun e => e.1 ≠ key,
    cursors.nodupKeys.sublist (List.filter_sublist.map Prod.fst)⟩

/-- `pull`. -/
def pull (fetchPage : FetchPage) (usesIncrementalCursor : Bool) (tenantId : String)
    (system : SourceSystem) (cursors : CursorStore) : Pulled :=
  let key := (tenantId, system.value)
  let pulled := pullPages fetchPage key maxPollPages 0 (cursors.get? key) [] cursors
  if usesIncrementalCursor ∨ pulled.raised.isSome then pulled
  else { pulled with cursors := pulled.cursors.delete key }

/-! ## What is yielded -/

/-- The records of the pages a run fetches, before the duplicates are dropped. -/
def fetchedRecords (fetchPage : FetchPage) : ℕ → ℕ → Option String → List InboundRecord
  | 0, _, _ => []
  | pages + 1, i, cursor =>
    match fetchPage i cursor with
    | .error _ => []
    | .ok (page, none) => page
    | .ok (page, some next) =>
      if some next = cursor then page
      else page ++ fetchedRecords fetchPage pages (i + 1) (some next)

theorem newRecords_sublist (seen : List (String × String × String × String))
    (page : List InboundRecord) : (newRecords seen page).1.Sublist page := by
  induction page generalizing seen with
  | nil => exact List.Sublist.refl []
  | cons record page ih =>
    rw [newRecords]
    split
    · exact (ih seen).cons record
    · exact (ih _).cons_cons record

/-- The keys seen after a page are those seen before it and those of what it yields. -/
theorem mem_newRecords_snd {seen : List (String × String × String × String)}
    {page : List InboundRecord} {k : String × String × String × String} :
    k ∈ (newRecords seen page).2 ↔ k ∈ seen ∨ ∃ r ∈ (newRecords seen page).1, dedupeKey r = k := by
  induction page generalizing seen with
  | nil => simp [newRecords]
  | cons record page ih =>
    rw [newRecords]
    split
    · exact ih
    · simp only [ih, List.mem_cons, exists_eq_or_imp, eq_comm (a := k)]
      tauto

/-- Whatever is on a page has been seen afterwards. -/
theorem dedupeKey_mem_newRecords {seen : List (String × String × String × String)}
    {page : List InboundRecord} {r : InboundRecord} (hr : r ∈ page) :
    dedupeKey r ∈ (newRecords seen page).2 := by
  induction page generalizing seen with
  | nil => cases hr
  | cons record page ih =>
    rw [newRecords]
    rcases List.mem_cons.mp hr with rfl | hr
    · split
      · rename_i hseen
        exact mem_newRecords_snd.mpr (Or.inl hseen)
      · exact mem_newRecords_snd.mpr (Or.inl List.mem_cons_self)
    · split
      · exact ih hr
      · exact ih hr

section Yielded

variable {fetchPage : FetchPage} {key : String × String}

/-- What is yielded was fetched. -/
theorem pullPages_subset (pages i : ℕ) (cursor : Option String)
    (seen : List (String × String × String × String)) (cursors : CursorStore) :
    (pullPages fetchPage key pages i cursor seen cursors).records ⊆
      fetchedRecords fetchPage pages i cursor := by
  induction pages generalizing i cursor seen cursors with
  | zero => exact List.nil_subset _
  | succ pages ih =>
    rw [pullPages, fetchedRecords]
    cases fetchPage i cursor with
    | error e => exact List.nil_subset _
    | ok answer =>
      obtain ⟨page, nextCursor⟩ := answer
      cases nextCursor with
      | none => exact (newRecords_sublist seen page).subset
      | some next =>
        dsimp only
        split
        · exact (newRecords_sublist seen page).subset
        · refine List.append_subset.mpr ⟨?_, ?_⟩
          · exact List.subset_append_of_subset_left _ (newRecords_sublist seen page).subset
          · exact List.subset_append_of_subset_right _ (ih _ _ _ _)

/-- What is fetched is yielded, or a record with its key is, or its key had been seen before. -/
theorem exists_of_mem_fetchedRecords (key : String × String) (pages i : ℕ) (cursor : Option String)
    (seen : List (String × String × String × String)) (cursors : CursorStore) {r : InboundRecord}
    (hr : r ∈ fetchedRecords fetchPage pages i cursor) :
    dedupeKey r ∈ seen ∨ ∃ r' ∈ (pullPages fetchPage key pages i cursor seen cursors).records,
      dedupeKey r' = dedupeKey r := by
  induction pages generalizing i cursor seen cursors with
  | zero => cases hr
  | succ pages ih =>
    rw [fetchedRecords] at hr
    rw [pullPages]
    cases hfetch : fetchPage i cursor with
    | error e => simp [hfetch] at hr
    | ok answer =>
      obtain ⟨page, nextCursor⟩ := answer
      cases nextCursor with
      | none =>
        rw [hfetch] at hr
        exact mem_newRecords_snd.mp (dedupeKey_mem_newRecords hr)
      | some next =>
        simp only [hfetch] at hr
        dsimp only
        split at hr
        · rename_i heq
          rw [if_pos heq]
          exact mem_newRecords_snd.mp (dedupeKey_mem_newRecords hr)
        · rename_i hne
          rw [if_neg hne]
          dsimp only
          have hkey : dedupeKey r ∈ (newRecords seen page).2 ∨ _ :=
            (List.mem_append.mp hr).imp dedupeKey_mem_newRecords
              (ih (i + 1) (some next) (newRecords seen page).2 (cursors.set key next))
          simp only [List.mem_append]
          rcases hkey with hkey | hkey | ⟨r', hr', hkey⟩
          · exact (mem_newRecords_snd.mp hkey).imp id fun ⟨r', hr', h⟩ => ⟨r', Or.inl hr', h⟩
          · exact (mem_newRecords_snd.mp hkey).imp id fun ⟨r', hr', h⟩ => ⟨r', Or.inl hr', h⟩
          · exact Or.inr ⟨r', Or.inr hr', hkey⟩

end Yielded

end ShelfWise.Connectors
