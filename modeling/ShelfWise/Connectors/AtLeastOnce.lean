import ShelfWise.Connectors.Poll
import ShelfWise.Sys.Run

/-!
# Polling until everything has been taken

`PollingConnector.pull` under a consumer that may raise at any record, and `run_once` of
`shelfwise_backend/connector_poll_service.py`. A record whose consumer raises ends the run at the
`yield`, so the cursor of its page is not written; the next run goes on from the cursor that is kept.

`polled_at_least_once` is about a source whose pages form a `Walk` of at most `maxPollPages` pages:
once a run has completed, every record of every page has been taken, or a record with its key has.
`poll_of_taken` connects a run whose consumer does not raise to `pull`.
-/

namespace ShelfWise.Connectors

open Py Sys

/-! ## A run and its consumer -/

/-- The body of an `async for` over `pull`: what it raises on the record that comes after so many
others. -/
abbrev Consumer := ℕ → InboundRecord → Option Exc

/-- The records of a page that the consumer has taken, the keys seen after them, and what it has
raised. -/
structure Taken where
  records : List InboundRecord
  seen : List (String × String × String × String)
  raised : Option Exc

/-- The loop of `pull` over the records of a page, after `n` records of the run. -/
def takeRecords (consume : Consumer) :
    ℕ → List (String × String × String × String) → List InboundRecord → Taken
  | _, seen, [] => ⟨[], seen, none⟩
  | n, seen, record :: page =>
    if isSeen seen record then takeRecords consume n seen page
    else if (consume n record).isSome then ⟨[], dedupeKey record :: seen, consume n record⟩
    else
      let rest := takeRecords consume (n + 1) (dedupeKey record :: seen) page
      ⟨record :: rest.records, rest.seen, rest.raised⟩

/-- What a run leaves behind: the cursors, the cursors it has asked the source about, the records its
consumer has taken, and the exception that ended it. -/
structure Polled where
  cursors : CursorStore
  asked : List (Option String)
  records : List InboundRecord
  raised : Option Exc

/-- The loop of `pull` over the pages that are left, from page `i` on, after `n` records. -/
def pollPages (fetchPage : FetchPage) (consume : Consumer) (key : String × String) :
    ℕ → ℕ → ℕ → Option String → List (String × String × String × String) → CursorStore → Polled
  | 0, _, _, _, _, cursors => ⟨cursors, [], [], none⟩
  | pages + 1, i, n, cursor, seen, cursors =>
    match fetchPage i cursor with
    | .error e => ⟨cursors, [cursor], [], some e⟩
    | .ok (page, nextCursor) =>
      let taken := takeRecords consume n seen page
      match taken.raised with
      | some e => ⟨cursors, [cursor], taken.records, some e⟩
      | none =>
        match nextCursor with
        | none => ⟨cursors, [cursor], taken.records, none⟩
        | some next =>
          if some next = cursor then ⟨cursors, [cursor], taken.records, none⟩
          else
            -- the cursor is written after the consumer has gone through the page
            let rest := pollPages fetchPage consume key pages (i + 1) (n + taken.records.length)
              (some next) taken.seen (cursors.set key next)
            ⟨rest.cursors, cursor :: rest.asked, taken.records ++ rest.records, rest.raised⟩

/-- A connector at the time of a run, with the consumer of the run. -/
structure PollRun where
  tenantId : String
  system : SourceSystem
  usesIncrementalCursor : Bool
  fetchPage : FetchPage
  consume : Consumer

/-- The key of the cursor of a run. -/
def PollRun.key (run : PollRun) : String × String := (run.tenantId, run.system.value)

/-- `pull`, with the consumer of a run. -/
def poll (cursors : CursorStore) (run : PollRun) : Polled :=
  let polled := pollPages run.fetchPage run.consume run.key maxPollPages 0 0
    (cursors.get? run.key) [] cursors
  if run.usesIncrementalCursor ∨ polled.raised.isSome then polled
  else { polled with cursors := polled.cursors.delete run.key }

/-- A run as a step on the cursors. -/
def pollStep (cursors : CursorStore) (run : PollRun) : CursorStore × Polled :=
  ((poll cursors run).cursors, poll cursors run)

/-- `run_once`: the connectors are pulled one after another, until one of the runs raises. -/
def runOnce : List PollRun → CursorStore → CursorStore × Except Exc ℕ
  | [], cursors => (cursors, .ok 0)
  | run :: runs, cursors =>
    let polled := poll cursors run
    match polled.raised with
    | some e => (polled.cursors, .error e)
    | none =>
      let rest := runOnce runs polled.cursors
      (rest.1, rest.2.map (polled.records.length + ·))

/-! ## A consumer that does not raise -/

section NeverRaises

variable {consume : Consumer} (hconsume : ∀ n record, consume n record = none)

include hconsume

theorem takeRecords_of_taken (n : ℕ) (seen : List (String × String × String × String))
    (page : List InboundRecord) :
    takeRecords consume n seen page
      = ⟨(newRecords seen page).1, (newRecords seen page).2, none⟩ := by
  induction page generalizing n seen with
  | nil => rfl
  | cons record page ih =>
    rw [takeRecords, newRecords]
    by_cases hseen : dedupeKey record ∈ seen
    · have hin : isSeen seen record = true := decide_eq_true hseen
      rw [if_pos hin, if_pos hseen]
      exact ih n seen
    · have hout : ¬ isSeen seen record = true := fun h => hseen (of_decide_eq_true h)
      rw [if_neg hout, if_neg hseen]
      simp only [hconsume, ih]
      rfl

theorem pollPages_of_taken (fetchPage : FetchPage) (key : String × String)
    (pages i n : ℕ) (cursor : Option String) (seen : List (String × String × String × String))
    (cursors : CursorStore) :
    let polled := pollPages fetchPage consume key pages i n cursor seen cursors
    (⟨polled.cursors, polled.records, polled.raised⟩ : Pulled)
      = pullPages fetchPage key pages i cursor seen cursors := by
  induction pages generalizing i n cursor seen cursors with
  | zero => rfl
  | succ pages ih =>
    rw [pollPages, pullPages]
    cases fetchPage i cursor with
    | error e => rfl
    | ok answer =>
      obtain ⟨page, nextCursor⟩ := answer
      simp only [takeRecords_of_taken hconsume]
      cases nextCursor with
      | none => rfl
      | some next =>
        dsimp only
        split
        · rfl
        · rw [← ih (i + 1) (n + (newRecords seen page).1.length) (some next)
            (newRecords seen page).2 (cursors.set key next)]

/-- A run whose consumer does not raise is a run of the generator. -/
theorem poll_of_taken {run : PollRun} (hrun : run.consume = consume) (cursors : CursorStore) :
    (⟨(poll cursors run).cursors, (poll cursors run).records, (poll cursors run).raised⟩ : Pulled)
      = pull run.fetchPage run.usesIncrementalCursor run.tenantId run.system cursors := by
  have hpages := pollPages_of_taken hconsume run.fetchPage run.key maxPollPages 0 0
    (cursors.get? run.key) [] cursors
  rw [← hrun] at hpages
  dsimp only at hpages
  have hpull : pull run.fetchPage run.usesIncrementalCursor run.tenantId run.system cursors
      = (let pulled := pullPages run.fetchPage run.key maxPollPages 0 (cursors.get? run.key) []
          cursors
        if run.usesIncrementalCursor ∨ pulled.raised.isSome then pulled
        else { pulled with cursors := pulled.cursors.delete run.key }) := rfl
  rw [hpull, ← hpages]
  unfold poll
  dsimp only
  split <;> rfl

end NeverRaises

/-! ## The pages of a source -/

/-- A source that gives a cursor the same answer every time. -/
abbrev Source := Option String → List InboundRecord × Option String

/-- What a source answers, if it answers, is its page. -/
def Serves (source : Source) (fetchPage : FetchPage) : Prop :=
  ∀ i cursor answer, fetchPage i cursor = .ok answer → answer = source cursor

/-- The cursors of the pages of a source, from one on: the last page has no next cursor, or its own
cursor again. -/
inductive Walk (source : Source) : Option String → List (Option String) → Prop
  | last {cursor : Option String}
      (h : (source cursor).2 = none ∨ (source cursor).2 = cursor) : Walk source cursor [cursor]
  | next {cursor : Option String} {next : String} {rest : List (Option String)}
      (h : (source cursor).2 = some next) (hne : some next ≠ cursor)
      (hrest : Walk source (some next) rest) : Walk source cursor (cursor :: rest)

theorem Walk.head? {source : Source} {cursor : Option String} {walk : List (Option String)}
    (h : Walk source cursor walk) : walk.head? = some cursor := by
  cases h with
  | last => rfl
  | next => rfl

variable {done rest : List (Option String)}

/-- What is left of a walk is a walk. -/
theorem Walk.of_append {source : Source} {cursor cursor' : Option String}
    (h : Walk source cursor (done ++ rest)) (hhead : rest.head? = some cursor') :
    Walk source cursor' rest := by
  induction done generalizing cursor with
  | nil =>
    have hcursor := h.head?
    rw [List.nil_append, hhead, Option.some.injEq] at hcursor
    rwa [hcursor]
  | cons c done ih =>
    rw [List.cons_append] at h
    generalize htail : done ++ rest = tail at h
    cases h with
    | last hlast =>
      rw [List.append_eq_nil_iff] at htail
      rw [htail.2] at hhead
      cases hhead
    | next hnext hne hrest => exact ih (htail ▸ hrest)

/-- Every record of a page is among some records, up to the key. -/
def Covers (source : Source) (records : List InboundRecord) (cursor : Option String) : Prop :=
  ∀ record ∈ (source cursor).1, ∃ r ∈ records, dedupeKey r = dedupeKey record

variable {records records' : List InboundRecord}

theorem Covers.mono {source : Source} {cursor : Option String} (h : Covers source records cursor)
    (hsub : records ⊆ records') : Covers source records' cursor := by
  intro record hrecord
  obtain ⟨r, hr, hkey⟩ := h record hrecord
  exact ⟨r, hsub hr, hkey⟩

/-! ## What a run takes -/

/-- Every key that has been seen is the key of a record that has been taken. -/
def SeenTaken (seen : List (String × String × String × String)) (records : List InboundRecord) :
    Prop :=
  ∀ k ∈ seen, ∃ r ∈ records, dedupeKey r = k

variable {seen : List (String × String × String × String)}

/-- What a page leaves that the consumer has gone through: its records have been taken. -/
theorem takeRecords_taken {consume : Consumer} {n : ℕ} {page before : List InboundRecord}
    (hseen : SeenTaken seen before) (hraised : (takeRecords consume n seen page).raised = none) :
    SeenTaken (takeRecords consume n seen page).seen
        (before ++ (takeRecords consume n seen page).records) ∧
      ∀ record ∈ page, ∃ r ∈ before ++ (takeRecords consume n seen page).records,
        dedupeKey r = dedupeKey record := by
  induction page generalizing n seen before with
  | nil =>
    rw [takeRecords, List.append_nil]
    exact ⟨hseen, fun record hrecord => absurd hrecord List.not_mem_nil⟩
  | cons record page ih =>
    rw [takeRecords] at hraised ⊢
    split at hraised
    · next hmem =>
      rw [if_pos hmem]
      obtain ⟨hseen', hpage⟩ := ih hseen hraised
      refine ⟨hseen', List.forall_mem_cons.mpr ⟨?_, hpage⟩⟩
      obtain ⟨r, hr, hkey⟩ := hseen _ (of_decide_eq_true hmem)
      exact ⟨r, List.mem_append_left _ hr, hkey⟩
    · next hmem =>
      rw [if_neg hmem]
      split at hraised
      · next hsome =>
        rw [show consume n record = none from hraised] at hsome
        cases hsome
      · next hnone =>
        rw [if_neg hnone]
        have hnext : SeenTaken (dedupeKey record :: seen) (before ++ [record]) := by
          refine List.forall_mem_cons.mpr ⟨⟨record, by simp, rfl⟩, fun k hk => ?_⟩
          obtain ⟨r, hr, hkey⟩ := hseen k hk
          exact ⟨r, List.mem_append_left _ hr, hkey⟩
        obtain ⟨hseen', hpage⟩ := ih hnext hraised
        rw [List.append_assoc, List.singleton_append] at hseen' hpage
        exact ⟨hseen', List.forall_mem_cons.mpr ⟨⟨record, by simp, rfl⟩, hpage⟩⟩

/-- How far a run over the pages `walk` has come: the pages before the cursor that is kept are
covered by the records taken so far. -/
def Reached (source : Source) (walk : List (Option String)) (cursor : Option String)
    (records : List InboundRecord) : Prop :=
  ∃ done rest, walk = done ++ rest ∧ rest.head? = some cursor ∧
    ∀ c ∈ done, Covers source records c

theorem Reached.mono {source : Source} {walk : List (Option String)} {cursor : Option String}
    (h : Reached source walk cursor records) (hsub : records ⊆ records') :
    Reached source walk cursor records' := by
  obtain ⟨done, rest, hwalk, hhead, hdone⟩ := h
  exact ⟨done, rest, hwalk, hhead, fun c hc => (hdone c hc).mono hsub⟩

theorem Reached.cons {source : Source} {walk : List (Option String)} {c cursor : Option String}
    (hc : Covers source records c) (h : Reached source walk cursor records) :
    Reached source (c :: walk) cursor records := by
  obtain ⟨done, rest, hwalk, hhead, hdone⟩ := h
  refine ⟨c :: done, rest, ?_, hhead, List.forall_mem_cons.mpr ⟨hc, hdone⟩⟩
  rw [hwalk, List.cons_append]

theorem Reached.append {source : Source} {cursor : Option String}
    (hdone : ∀ c ∈ done, Covers source records c) (h : Reached source rest cursor records) :
    Reached source (done ++ rest) cursor records := by
  induction done with
  | nil => exact h
  | cons c done ih =>
    obtain ⟨hc, hdone⟩ := List.forall_mem_cons.mp hdone
    exact (ih hdone).cons hc

/-- The first page is where every walk begins. -/
theorem Walk.reached {source : Source} {cursor : Option String} {walk : List (Option String)}
    (h : Walk source cursor walk) (records : List InboundRecord) :
    Reached source walk cursor records :=
  ⟨[], walk, rfl, h.head?, fun _ hc => absurd hc List.not_mem_nil⟩

/-- What the pages that are left do, from the cursor that is kept: the run gets to a cursor behind
covered pages, and if it completes it covers them all. -/
theorem pollPages_reached {source : Source} {fetchPage : FetchPage} (consume : Consumer)
    (key : String × String) (hserves : Serves source fetchPage) {cursor : Option String}
    {walk : List (Option String)} (hwalk : Walk source cursor walk) {pages : ℕ}
    (hlen : walk.length ≤ pages) (i n : ℕ) {before : List InboundRecord}
    (hseen : SeenTaken seen before) {cursors : CursorStore} (hkept : cursors.get? key = cursor) :
    let polled := pollPages fetchPage consume key pages i n cursor seen cursors
    Reached source walk (polled.cursors.get? key) (before ++ polled.records) ∧
      (polled.raised = none → ∀ c ∈ walk, Covers source (before ++ polled.records) c) := by
  induction hwalk generalizing pages i n seen before cursors with
  | @last cursor hlast =>
    cases pages with
    | zero => simp at hlen
    | succ pages =>
      rw [pollPages]
      cases hfetch : fetchPage i cursor with
      | error e =>
        refine ⟨?_, by simp⟩
        rw [hkept]
        exact (Walk.last hlast).reached _
      | ok answer =>
        obtain rfl := hserves i cursor answer hfetch
        dsimp only
        cases hraised : (takeRecords consume n seen (source cursor).1).raised with
        | some e =>
          refine ⟨?_, by simp⟩
          rw [hkept]
          exact (Walk.last hlast).reached _
        | none =>
          have hcovers := (takeRecords_taken hseen hraised).2
          have hends : ∀ polled : Polled,
              polled = ⟨cursors, [cursor], (takeRecords consume n seen (source cursor).1).records,
                none⟩ →
              Reached source [cursor] (polled.cursors.get? key) (before ++ polled.records) ∧
                (polled.raised = none →
                  ∀ c ∈ [cursor], Covers source (before ++ polled.records) c) := by
            rintro polled rfl
            refine ⟨?_, fun _ c hc => ?_⟩
            · rw [hkept]
              exact (Walk.last hlast).reached _
            · rw [List.mem_singleton.mp hc]
              exact hcovers
          apply hends
          dsimp only
          cases hnext : (source cursor).2 with
          | none => rfl
          | some next =>
            rw [hnext] at hlast
            dsimp only
            rw [if_pos (hlast.resolve_left (by simp))]
  | @next cursor next rest hnext hne hrest ih =>
    cases pages with
    | zero => simp at hlen
    | succ pages =>
      rw [pollPages]
      have hwalk : Walk source cursor (cursor :: rest) := .next hnext hne hrest
      cases hfetch : fetchPage i cursor with
      | error e =>
        refine ⟨?_, by simp⟩
        rw [hkept]
        exact hwalk.reached _
      | ok answer =>
        obtain rfl := hserves i cursor answer hfetch
        dsimp only
        cases hraised : (takeRecords consume n seen (source cursor).1).raised with
        | some e =>
          refine ⟨?_, by simp⟩
          rw [hkept]
          exact hwalk.reached _
        | none =>
          obtain ⟨hseen', hpage⟩ := takeRecords_taken hseen hraised
          simp only [hnext, if_neg hne]
          have hlen' : rest.length ≤ pages := by
            rw [List.length_cons] at hlen
            omega
          obtain ⟨hreached, hall⟩ := ih hlen' (i + 1)
            (n + (takeRecords consume n seen (source cursor).1).records.length) hseen'
            (Dict.get?_set_self cursors key next)
          rw [List.append_assoc] at hreached hall
          have hcovers : ∀ later, Covers source (before ++ ((takeRecords consume n seen
              (source cursor).1).records ++ later)) cursor := by
            intro later
            rw [← List.append_assoc]
            exact Covers.mono hpage (List.subset_append_left _ _)
          exact ⟨hreached.cons (hcovers _), fun hdone =>
            List.forall_mem_cons.mpr ⟨hcovers _, hall hdone⟩⟩

/-! ## Runs one after another -/

theorem CursorStore.get?_delete_self (key : String × String) (cursors : CursorStore) :
    (cursors.delete key).get? key = none := by
  by_contra h
  obtain ⟨cursor, hcursor⟩ := Option.ne_none_iff_exists'.mp h
  have hmem := (Dict.mem_entries_iff _ _ _).mpr hcursor
  simp [CursorStore.delete] at hmem

theorem CursorStore.get?_delete_ne {key key' : String × String} (h : key' ≠ key)
    (cursors : CursorStore) : (cursors.delete key).get? key' = cursors.get? key' := by
  ext cursor
  simp only [← Dict.mem_entries_iff]
  simp [CursorStore.delete, h]

/-- A run writes its own cursor only. -/
theorem pollPages_get?_ne (fetchPage : FetchPage) (consume : Consumer) {key key' : String × String}
    (hkey : key' ≠ key) (pages i n : ℕ) (cursor : Option String)
    (seen : List (String × String × String × String)) (cursors : CursorStore) :
    (pollPages fetchPage consume key pages i n cursor seen cursors).cursors.get? key'
      = cursors.get? key' := by
  induction pages generalizing i n cursor seen cursors with
  | zero => rfl
  | succ pages ih =>
    rw [pollPages]
    cases fetchPage i cursor with
    | error e => rfl
    | ok answer =>
      obtain ⟨page, nextCursor⟩ := answer
      dsimp only
      cases (takeRecords consume n seen page).raised with
      | some e => rfl
      | none =>
        cases nextCursor with
        | none => rfl
        | some next =>
          dsimp only
          split
          · rfl
          · rw [ih, Dict.get?_set_ne _ (fun h => hkey h.symm)]

theorem poll_get?_ne {run : PollRun} {key : String × String} (hkey : key ≠ run.key)
    (cursors : CursorStore) : (poll cursors run).cursors.get? key = cursors.get? key := by
  have hpages := pollPages_get?_ne run.fetchPage run.consume hkey maxPollPages 0 0
    (cursors.get? run.key) [] cursors
  unfold poll
  dsimp only
  split
  · exact hpages
  · rw [CursorStore.get?_delete_ne hkey, hpages]

/-- The runs of a connector: they have its key and kind, and its source is behind them. -/
structure PollRun.Of (key : String × String) (usesIncrementalCursor : Bool) (source : Source)
    (run : PollRun) : Prop where
  key_eq : run.key = key
  kind : run.usesIncrementalCursor = usesIncrementalCursor
  serves : Serves source run.fetchPage

/-- The records the runs under a key have taken. -/
def takenBy (key : String × String) (steps : List (Step CursorStore PollRun Polled)) :
    List InboundRecord :=
  (steps.filter fun step => step.input.key = key).flatMap fun step => step.output.records

theorem mem_takenBy {key : String × String} {steps : List (Step CursorStore PollRun Polled)}
    {r : InboundRecord} :
    r ∈ takenBy key steps ↔ ∃ step ∈ steps, step.input.key = key ∧ r ∈ step.output.records := by
  simp [takenBy, and_assoc]

section Runs

variable {key : String × String} {usesIncrementalCursor : Bool} {source : Source}
  {walk : List (Option String)}

/-- One run of the connector, after records that cover the pages before its cursor. -/
theorem poll_reached (hwalk : Walk source none walk) (hlen : walk.length ≤ maxPollPages)
    {run : PollRun} (hrun : run.Of key usesIncrementalCursor source) {cursors : CursorStore}
    {before : List InboundRecord} (h : Reached source walk (cursors.get? key) before) :
    Reached source walk ((poll cursors run).cursors.get? key)
        (before ++ (poll cursors run).records) ∧
      ((poll cursors run).raised = none →
        ∀ c ∈ walk, Covers source (before ++ (poll cursors run).records) c) := by
  obtain ⟨done, rest, hsplit, hhead, hdone⟩ := h
  have hrest : Walk source (cursors.get? key) rest := Walk.of_append (hsplit ▸ hwalk) hhead
  have hlen' : rest.length ≤ maxPollPages := by
    rw [hsplit, List.length_append] at hlen
    omega
  have hseen : SeenTaken [] before := fun k hk => absurd hk List.not_mem_nil
  obtain ⟨hreached, hall⟩ := pollPages_reached run.consume key hrun.serves hrest hlen' 0 0 hseen rfl
  have hdone' : ∀ c ∈ done, Covers source (before ++ (pollPages run.fetchPage run.consume key
      maxPollPages 0 0 (cursors.get? key) [] cursors).records) c := fun c hc =>
    (hdone c hc).mono (List.subset_append_left _ _)
  have hcompleted : (pollPages run.fetchPage run.consume key maxPollPages 0 0 (cursors.get? key) []
      cursors).raised = none → ∀ c ∈ walk, Covers source (before ++ (pollPages run.fetchPage
        run.consume key maxPollPages 0 0 (cursors.get? key) [] cursors).records) c := by
    intro hraised c hc
    rw [hsplit, List.mem_append] at hc
    exact hc.elim (hdone' c) (hall hraised c)
  unfold poll
  rw [hrun.key_eq]
  dsimp only
  split
  · exact ⟨hsplit ▸ hreached.append hdone', hcompleted⟩
  · refine ⟨?_, hcompleted⟩
    rw [CursorStore.get?_delete_self]
    exact hwalk.reached _

/-- A run under another key leaves the cursor. -/
theorem pollStep_of_ne {run : PollRun} (hkey : run.key ≠ key) (cursors : CursorStore) :
    (pollStep cursors run).1.get? key = cursors.get? key :=
  poll_get?_ne (fun h => hkey h.symm) cursors

/-- At any time, the pages before the cursor that is kept are covered by what has been taken. -/
theorem reached_final (hwalk : Walk source none walk) (hlen : walk.length ≤ maxPollPages)
    {runs : List PollRun}
    (hruns : ∀ run ∈ runs, run.key = key → run.Of key usesIncrementalCursor source)
    {cursors : CursorStore} (hfresh : cursors.get? key = none) :
    Reached source walk ((final pollStep cursors runs).get? key)
      (takenBy key (trace pollStep cursors runs)) := by
  induction runs using List.reverseRecOn with
  | nil =>
    rw [final_nil, hfresh]
    exact hwalk.reached _
  | append_singleton runs run ih =>
    have hbefore := ih fun r hr => hruns r (List.mem_append_left _ hr)
    rw [final_append, trace_append]
    by_cases hkey : run.key = key
    · have hrun := hruns run (by simp) hkey
      have hstep := (poll_reached hwalk hlen hrun hbefore).1
      simpa [takenBy, trace, stepOf, pollStep, hkey] using hstep
    · have hstep := pollStep_of_ne hkey (final pollStep cursors runs)
      simp only [final_cons, final_nil, hstep]
      refine hbefore.mono ?_
      simp [takenBy, trace, stepOf, hkey]

/-- A completed run of a connector that is not incremental leaves no cursor. -/
theorem poll_forgets {run : PollRun} (hkind : run.usesIncrementalCursor = false)
    {cursors : CursorStore} (hcompleted : (poll cursors run).raised = none) :
    (poll cursors run).cursors.get? run.key = none := by
  have hraised : (pollPages run.fetchPage run.consume run.key maxPollPages 0 0
      (cursors.get? run.key) [] cursors).raised = none := by
    unfold poll at hcompleted
    dsimp only at hcompleted
    split at hcompleted
    · exact hcompleted
    · exact hcompleted
  unfold poll
  simp only [hkind, hraised, Option.isSome_none, Bool.false_eq_true, or_self, if_false]
  exact CursorStore.get?_delete_self run.key _

/-- A run begins at the cursor that is kept. -/
theorem poll_asked (cursors : CursorStore) (run : PollRun) :
    (poll cursors run).asked.head? = some (cursors.get? run.key) := by
  have hpages : ∀ pages i n cursor seen, (pollPages run.fetchPage run.consume run.key (pages + 1) i n
      cursor seen cursors).asked.head? = some cursor := by
    intro pages i n cursor seen
    rw [pollPages]
    cases run.fetchPage i cursor with
    | error e => rfl
    | ok answer =>
      obtain ⟨page, nextCursor⟩ := answer
      dsimp only
      cases (takeRecords run.consume n seen page).raised with
      | some e => rfl
      | none =>
        cases nextCursor with
        | none => rfl
        | some next =>
          dsimp only
          split <;> rfl
  unfold poll
  dsimp only
  split <;> exact hpages _ _ _ _ _

/-- **At least once.** Whenever a run over a source of finitely many pages completes, every record of
every page has been taken in it or before it, up to records with the same key; and if the connector
is not incremental, its next run begins again at the first page. -/
theorem polled_at_least_once (hwalk : Walk source none walk) (hlen : walk.length ≤ maxPollPages)
    {cursors : CursorStore} (hfresh : cursors.get? key = none) {runs : List PollRun} {last : PollRun}
    (hruns : ∀ run ∈ runs ++ [last], run.key = key → run.Of key usesIncrementalCursor source)
    (hlast : last.key = key) (hcompleted : (poll (final pollStep cursors runs) last).raised = none) :
    (∀ c ∈ walk, ∀ record ∈ (source c).1,
      ∃ step ∈ trace pollStep cursors (runs ++ [last]), step.input.key = key ∧
        ∃ r ∈ step.output.records, dedupeKey r = dedupeKey record) ∧
    (usesIncrementalCursor = false →
      ∀ others next, (∀ run ∈ others, run.key ≠ key) → next.key = key →
        (poll (final pollStep cursors (runs ++ [last] ++ others)) next).asked.head? = some none) := by
  have hrun := hruns last (by simp) hlast
  constructor
  · intro c hc record hrecord
    have hbefore := reached_final hwalk hlen
      (fun run hmem => hruns run (List.mem_append_left _ hmem)) hfresh
    obtain ⟨r, hr, hkey⟩ :=
      (poll_reached hwalk hlen hrun hbefore).2 hcompleted c hc record hrecord
    rw [trace_append]
    rcases List.mem_append.mp hr with hr | hr
    · obtain ⟨step, hstep, hinput, hmem⟩ := mem_takenBy.mp hr
      exact ⟨step, List.mem_append_left _ hstep, hinput, r, hmem, hkey⟩
    · exact ⟨_, List.mem_append_right _ List.mem_cons_self, hlast, r, hr, hkey⟩
  · intro hkind others next hothers hnext
    have hforgets : (final pollStep cursors (runs ++ [last])).get? key = none := by
      rw [final_append]
      have hgone := poll_forgets (hrun.kind.trans hkind) hcompleted
      rwa [hlast] at hgone
    have hkept : ∀ (others : List PollRun) (kept : CursorStore), (∀ run ∈ others, run.key ≠ key) →
        (final pollStep kept others).get? key = kept.get? key := by
      intro others
      induction others with
      | nil => exact fun _ _ => rfl
      | cons run others ih =>
        intro kept hne
        rw [final_cons, ih _ fun r hr => hne r (List.mem_cons_of_mem _ hr),
          pollStep_of_ne (hne run List.mem_cons_self)]
    rw [poll_asked, hnext, final_append, hkept others _ hothers, hforgets]

end Runs

/-- A product record of a system, for an example. -/
def polledRecord (objectId : String) : InboundRecord where
  tenantId := "acme"
  sourceSystem := .syspro
  sourceObjectType := "product"
  sourceObjectId := objectId
  eventTime := ⟨0, "1970-01-01T00:00:00+00:00"⟩
  rawPayload := []
  canonicalType := "product"
  correlationId := objectId
  canonicalPayload := []
  validation := .passed
  sourceQuality := ⟨.finite 1, "1.0"⟩
  actor := none

/-- Two pages: two records, then one. -/
def twoPages : Source
  | none => ([polledRecord "P-1", polledRecord "P-2"], some "page-2")
  | some "page-2" => ([polledRecord "P-3"], none)
  | some _ => ([], none)

/-- A run over the two pages. -/
def twoPagesRun (consume : Consumer) : PollRun where
  tenantId := "acme"
  system := .syspro
  usesIncrementalCursor := false
  fetchPage := fun _ cursor => .ok (twoPages cursor)
  consume := consume

/-- The consumer of the first run fails on the third record, which the second run takes. -/
theorem polled_at_least_once_resumed :
    let failing := twoPagesRun fun n _ =>
      if n = 2 then some (.raised "RuntimeError" "intake failed") else none
    let whole := twoPagesRun fun _ _ => none
    ∀ c ∈ [none, some "page-2"], ∀ record ∈ (twoPages c).1,
      ∃ step ∈ trace pollStep Dict.empty [failing, whole], step.input.key = ("acme", "syspro") ∧
        ∃ r ∈ step.output.records, dedupeKey r = dedupeKey record := by
  intro failing whole
  have hwalk : Walk twoPages none [none, some "page-2"] :=
    .next rfl (by simp) (.last (Or.inl rfl))
  have hserves : ∀ consume, (twoPagesRun consume).Of ("acme", "syspro") false twoPages :=
    fun consume => ⟨rfl, rfl, fun _ _ _ h => (Except.ok.inj h).symm⟩
  have hruns : ∀ run ∈ [failing] ++ [whole], run.key = ("acme", "syspro") →
      run.Of ("acme", "syspro") false twoPages := by
    intro run hrun _
    rcases List.mem_pair.mp hrun with rfl | rfl
    · exact hserves _
    · exact hserves _
  have hcompleted : (poll (final pollStep Dict.empty [failing]) whole).raised = none := by
    show (poll (final pollStep Dict.empty [twoPagesRun fun n _ =>
      if n = 2 then some (.raised "RuntimeError" "intake failed") else none])
        (twoPagesRun fun _ _ => none)).raised = none
    decide +kernel
  exact (polled_at_least_once hwalk (by decide) rfl hruns rfl hcompleted).1

end ShelfWise.Connectors
