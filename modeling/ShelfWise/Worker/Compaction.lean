import ShelfWise.Py.Sorted
import ShelfWise.Py.Value

/-!
# Compaction of turns

`shelfwise_backend/worker/compaction.py`: the newest turns are kept while they fit beside the pinned facts,
the older ones are folded into a marker. The loop counts the facts and the texts that it keeps, not the
labels and the marker that are put before them, so the result is within the budget exactly when these happen
to fit as well (`compact_respects_budget_iff`).
-/

namespace ShelfWise.Worker

open Py

/-! ## The turns -/

/-- `Turn`. -/
structure Turn where
  role : String
  text : String
deriving DecidableEq

/-- The counts that `compact` returns next to the turns. -/
structure FoldReport where
  folded : ℕ
  kept : ℕ
  chars : ℕ
deriving DecidableEq

/-- How many characters turns have together. -/
def charsOf (turns : List Turn) : ℕ := (turns.map fun turn => turn.text.length).sum

/-- `pin_block`. -/
def pinBlock (pinned : Dict String String) : String :=
  "; ".intercalate ((sortedBy Prod.fst pinned.entries).map fun fact => fact.1 ++ "=" ++ fact.2)

/-- What the loop over the reversed turns has when it ends: the turns kept, the newest first, the characters
used, and how many turns are folded. -/
structure KeepState where
  kept : List Turn
  used : ℕ
  folded : ℕ

/-- The loop over the reversed turns. -/
def keepNewest (budget : ℤ) : List Turn → ℕ → KeepState
  | [], used => ⟨[], used, 0⟩
  | turn :: older, used =>
    if budget < used + turn.text.length then ⟨[], used, (turn :: older).length⟩
    else
      let rest := keepNewest budget older (used + turn.text.length)
      ⟨turn :: rest.kept, rest.used, rest.folded⟩

/-- The turn that shows the pinned facts. -/
def pinnedTurn (block : String) : Turn := ⟨"tool", "[pinned facts] " ++ block⟩

/-- The turn that stands for the folded ones. -/
def foldedTurn (folded : ℕ) : Turn :=
  ⟨"tool", "[compacted] " ++ toString folded ++ " earlier turn(s) folded; pinned facts retained."⟩

/-- The turns that are put before those that are kept. -/
def markerTurns (block : String) (folded : ℕ) : List Turn :=
  (if block = "" then [] else [pinnedTurn block]) ++ if folded = 0 then [] else [foldedTurn folded]

/-- `compact`. -/
def compact (turns : List Turn) (pinned : Dict String String) (budgetChars : ℤ) :
    Except Exc (List Turn × FoldReport) :=
  if budgetChars ≤ 0 then .error (.valueError "budget_chars must be positive")
  else
    let block := pinBlock pinned
    let state := keepNewest budgetChars turns.reverse block.length
    let kept := state.kept.reverse
    .ok (markerTurns block state.folded ++ kept, ⟨state.folded, kept.length, state.used⟩)

/-! ## The loop -/

/-- The newest turns fit beside the pinned facts. -/
def Beside (pinned : Dict String String) (budgetChars : ℤ) (newest : List Turn) : Prop :=
  ((pinBlock pinned).length + charsOf newest : ℤ) ≤ budgetChars

theorem charsOf_cons (turn : Turn) (turns : List Turn) :
    charsOf (turn :: turns) = turn.text.length + charsOf turns := by
  simp only [charsOf, List.map_cons, List.sum_cons]

theorem charsOf_append (xs ys : List Turn) : charsOf (xs ++ ys) = charsOf xs + charsOf ys := by
  simp only [charsOf, List.map_append, List.sum_append]

theorem charsOf_reverse (turns : List Turn) : charsOf turns.reverse = charsOf turns := by
  simp only [charsOf, List.map_reverse, List.sum_reverse]

variable {budget : ℤ}

/-- What the loop leaves behind, on turns with the newest first. -/
structure Keeps (budget : ℤ) (turns : List Turn) (used : ℕ) (state : KeepState) : Prop where
  split : ∃ older, turns = state.kept ++ older ∧ older.length = state.folded ∧
    ∀ turn ∈ older.head?, budget < state.used + turn.text.length
  used : state.used = used + charsOf state.kept
  fits : state.kept ≠ [] → (state.used : ℤ) ≤ budget

theorem keepNewest_keeps (budget : ℤ) (turns : List Turn) (used : ℕ) :
    Keeps budget turns used (keepNewest budget turns used) := by
  induction turns generalizing used with
  | nil =>
    refine ⟨⟨[], rfl, rfl, fun turn h => ?_⟩, rfl, fun h => absurd rfl h⟩
    cases h
  | cons turn older ih =>
    rw [keepNewest]
    split
    · next hover =>
      refine ⟨⟨turn :: older, rfl, rfl, fun next h => ?_⟩, rfl, fun h => absurd rfl h⟩
      rw [← Option.some.inj h]
      exact hover
    · next hroom =>
      obtain ⟨⟨rest, hsplit, hfolded, hnext⟩, hused, hfits⟩ := ih (used + turn.text.length)
      refine ⟨⟨rest, ?_, hfolded, hnext⟩, ?_, fun _ => ?_⟩
      · rw [List.cons_append, ← hsplit]
      · dsimp only
        rw [hused, charsOf_cons]
        omega
      · dsimp only
        cases hkept : (keepNewest budget older (used + turn.text.length)).kept with
        | nil =>
          rw [hkept] at hused
          rw [hused]
          simp only [charsOf, List.map_nil, List.sum_nil]
          omega
        | cons next more =>
          refine hfits ?_
          rw [hkept]
          exact List.cons_ne_nil _ _

/-! ## The pinned facts -/

variable {pinned : Dict String String}

/-- Facts are shown in a text that is not empty. -/
theorem pinBlock_ne_empty (h : pinned.entries ≠ []) : pinBlock pinned ≠ "" := by
  intro hempty
  rw [pinBlock] at hempty
  have hperm := (sortedBy_perm Prod.fst pinned.entries).length_eq
  cases hsorted : sortedBy Prod.fst pinned.entries with
  | nil =>
    rw [hsorted] at hperm
    exact h (List.length_eq_zero_iff.mp hperm.symm)
  | cons fact facts =>
    -- the first fact brings at least its equals sign
    rw [hsorted, List.map_cons] at hempty
    have hlength := congrArg String.length hempty
    cases hfacts : facts.map fun fact => fact.1 ++ "=" ++ fact.2 with
    | nil =>
      rw [hfacts, String.intercalate_singleton] at hlength
      simp only [String.length_append, String.length_empty] at hlength
      have hequals : "=".length = 1 := rfl
      omega
    | cons next rest =>
      rw [hfacts, String.intercalate_cons_cons] at hlength
      simp only [String.length_append, String.length_empty] at hlength
      have hequals : "=".length = 1 := rfl
      omega

/-- How many characters the label of the pinned facts and the marker of the folded turns add. -/
def labelChars (pinned : Dict String String) (folded : ℕ) : ℕ :=
  (if pinBlock pinned = "" then 0 else "[pinned facts] ".length) +
    if folded = 0 then 0
    else "[compacted] ".length + (toString folded).length +
      " earlier turn(s) folded; pinned facts retained.".length

theorem charsOf_markerTurns (pinned : Dict String String) (folded : ℕ) :
    charsOf (markerTurns (pinBlock pinned) folded) =
      (pinBlock pinned).length + labelChars pinned folded := by
  have hmarker : charsOf (if folded = 0 then [] else [foldedTurn folded]) =
      if folded = 0 then 0
      else "[compacted] ".length + (toString folded).length +
        " earlier turn(s) folded; pinned facts retained.".length := by
    split
    · rfl
    · simp only [charsOf, foldedTurn, List.map_cons, List.map_nil, List.sum_cons, List.sum_nil,
        String.length_append, Nat.add_zero]
  rw [markerTurns, charsOf_append, hmarker, labelChars]
  split
  · next hempty =>
    rw [hempty]
    simp [charsOf]
  · simp only [charsOf, pinnedTurn, List.map_cons, List.map_nil, List.sum_cons, List.sum_nil,
      String.length_append]
    omega

/-! ## The budget -/

/-- What is asked of a compaction: a suffix of the turns is kept in order and the rest is counted as folded,
every turn is kept that fits beside the pinned facts together with all newer ones, the pinned facts are
shown, and the result is within the budget when the facts alone are. -/
structure Compacted (turns : List Turn) (pinned : Dict String String) (budget : ℤ) (out : List Turn)
    (report : FoldReport) : Prop where
  suffix : ∃ markers kept, out = markers ++ kept ∧ kept <:+ turns ∧ kept.length = report.kept ∧
    (∀ newest, newest <:+ turns → Beside pinned budget newest → newest <:+ kept) ∧
    (pinned.entries ≠ [] → ∃ turn ∈ markers, ∃ label, turn.text = label ++ pinBlock pinned)
  counts : report.folded + report.kept = turns.length
  within : ((pinBlock pinned).length : ℤ) ≤ budget → (charsOf out : ℤ) ≤ budget

/-- The labels fit too, beside the pinned facts and the newest turns of which no more fit. -/
def Roomy (turns : List Turn) (pinned : Dict String String) (budget : ℤ) : Prop :=
  ((pinBlock pinned).length : ℤ) ≤ budget →
    ∀ older newest, turns = older ++ newest → Beside pinned budget newest →
      (∀ turn ∈ older.getLast?, ¬ Beside pinned budget (turn :: newest)) →
        ((pinBlock pinned).length + charsOf newest + labelChars pinned older.length : ℤ) ≤ budget

/-- The loop splits the turns into those that are folded and the newest ones that fit. -/
theorem exists_split (turns : List Turn) (pinned : Dict String String) (budget : ℤ) :
    ∃ older, turns = older ++ (keepNewest budget turns.reverse (pinBlock pinned).length).kept.reverse ∧
      older.length = (keepNewest budget turns.reverse (pinBlock pinned).length).folded ∧
      ∀ turn ∈ older.getLast?, ¬ Beside pinned budget
        (turn :: (keepNewest budget turns.reverse (pinBlock pinned).length).kept.reverse) := by
  have hkeeps := keepNewest_keeps budget turns.reverse (pinBlock pinned).length
  obtain ⟨older, hsplit, hfolded, hnext⟩ := hkeeps.split
  refine ⟨older.reverse, ?_, ?_, fun turn h hbeside => ?_⟩
  · rw [← List.reverse_append, ← hsplit, List.reverse_reverse]
  · rw [List.length_reverse]
    exact hfolded
  · rw [List.getLast?_reverse] at h
    have hover := hnext turn h
    rw [hkeeps.used] at hover
    rw [Beside, charsOf_cons, charsOf_reverse] at hbeside
    push_cast at hover hbeside
    omega

/-- The turns that are kept fit, once the pinned facts do. -/
theorem beside_kept (turns : List Turn) (h : ((pinBlock pinned).length : ℤ) ≤ budget) :
    Beside pinned budget (keepNewest budget turns.reverse (pinBlock pinned).length).kept.reverse := by
  have hkeeps := keepNewest_keeps budget turns.reverse (pinBlock pinned).length
  have hused := hkeeps.used
  rw [Beside, charsOf_reverse]
  by_cases hkept : (keepNewest budget turns.reverse (pinBlock pinned).length).kept = []
  · rw [hkept]
    simpa [charsOf] using h
  · have hfits := hkeeps.fits hkept
    rw [hused] at hfits
    push_cast at hfits
    exact hfits

/-- Newest turns that fit are among those beside which no older one fits. -/
theorem eq_of_splits {older newest older' newest' : List Turn} (h : older ++ newest = older' ++ newest')
    (hnewest' : Beside pinned budget newest')
    (hfull : ∀ turn ∈ older.getLast?, ¬ Beside pinned budget (turn :: newest)) :
    newest' <:+ newest := by
  rcases List.append_eq_append_iff.mp h with ⟨more, -, hmore⟩ | ⟨more, hmore, hnewest⟩
  · exact ⟨more, hmore.symm⟩
  · rcases List.eq_nil_or_concat more with rfl | ⟨rest, turn, rfl⟩
    · rw [List.nil_append] at hnewest
      rw [hnewest]
    · -- the last of the older turns would fit as well
      exfalso
      rw [List.concat_eq_append] at hmore hnewest
      have hlast : turn ∈ older.getLast? := by
        rw [hmore, ← List.append_assoc, List.getLast?_append]
        rfl
      refine hfull turn hlast ?_
      rw [hnewest, Beside, List.append_assoc, List.singleton_append, charsOf_append] at hnewest'
      rw [Beside]
      push_cast at hnewest'
      omega

/-- A compaction does what is asked of it exactly when the labels fit too. -/
theorem compact_respects_budget_iff (turns : List Turn) (pinned : Dict String String) (budget : ℤ)
    (hbudget : 0 < budget) :
    (∃ out report, compact turns pinned budget = .ok (out, report) ∧
      Compacted turns pinned budget out report) ↔ Roomy turns pinned budget := by
  obtain ⟨older, hturns, hfolded, hfull⟩ := exists_split turns pinned budget
  have hkeeps := keepNewest_keeps budget turns.reverse (pinBlock pinned).length
  have hcompact : compact turns pinned budget = .ok
      (markerTurns (pinBlock pinned) (keepNewest budget turns.reverse (pinBlock pinned).length).folded ++
        (keepNewest budget turns.reverse (pinBlock pinned).length).kept.reverse,
       ⟨(keepNewest budget turns.reverse (pinBlock pinned).length).folded,
        (keepNewest budget turns.reverse (pinBlock pinned).length).kept.reverse.length,
        (keepNewest budget turns.reverse (pinBlock pinned).length).used⟩) := by
    rw [compact, if_neg (not_le_of_gt hbudget)]
  have hbesides : ((pinBlock pinned).length : ℤ) ≤ budget → Beside pinned budget
      (keepNewest budget turns.reverse (pinBlock pinned).length).kept.reverse := beside_kept turns
  rw [hcompact, ← hfolded]
  clear hcompact hfolded
  generalize (keepNewest budget turns.reverse (pinBlock pinned).length).kept.reverse = newest at *
  constructor
  · rintro ⟨out, report, heq, hout⟩ hblock older' newest' hturns' hnewest' hfull'
    obtain ⟨rfl, rfl⟩ := Prod.mk.inj (Except.ok.inj heq)
    have hsame : newest' = newest :=
      (eq_of_splits (hturns ▸ hturns') hnewest' hfull).eq_of_length_le
        (eq_of_splits (hturns' ▸ hturns) (hbesides hblock) hfull').length_le
    subst hsame
    have hsame : older' = older := List.append_cancel_right (hturns'.symm.trans hturns)
    subst hsame
    have hwithin := hout.within hblock
    rw [charsOf_append, charsOf_markerTurns] at hwithin
    push_cast at hwithin
    omega
  · intro hroomy
    refine ⟨_, _, rfl, ⟨⟨_, _, rfl, ⟨older, hturns.symm⟩, rfl, ?_, ?_⟩, ?_, ?_⟩⟩
    · intro fitting hsuffix hfits
      obtain ⟨before, hbefore⟩ := hsuffix
      exact eq_of_splits (hturns ▸ hbefore.symm) hfits hfull
    · intro hfacts
      refine ⟨pinnedTurn (pinBlock pinned), ?_, "[pinned facts] ", rfl⟩
      rw [markerTurns, if_neg (pinBlock_ne_empty hfacts)]
      exact List.mem_append_left _ (List.mem_singleton_self _)
    · rw [hturns, List.length_append]
    · intro hblock
      have hlabels := hroomy hblock older newest hturns (hbesides hblock) hfull
      rw [charsOf_append, charsOf_markerTurns]
      push_cast
      omega

/-- With the one turn `0123456789` and nothing pinned, a budget of ten keeps the turn. -/
theorem compact_keeps_fitting_turn : ∃ out report,
    compact [⟨"user", "0123456789"⟩] .empty 10 = .ok (out, report) ∧
      Compacted [⟨"user", "0123456789"⟩] .empty 10 out report := by
  refine (compact_respects_budget_iff _ _ 10 (by decide)).mpr ?_
  intro _ older newest hturns _ hfull
  rcases List.append_eq_singleton_iff.mp hturns.symm with ⟨rfl, rfl⟩ | ⟨rfl, rfl⟩
  · decide +kernel
  · have hfits : Beside .empty 10 [⟨"user", "0123456789"⟩] := by
      unfold Beside
      decide +kernel
    exact absurd hfits (hfull ⟨"user", "0123456789"⟩ rfl)

/-- A budget of five characters is answered with a marker of sixty. -/
theorem compact_exceeds_budget : ¬ ∃ out report,
    compact [⟨"user", "0123456789"⟩] .empty 5 = .ok (out, report) ∧
      Compacted [⟨"user", "0123456789"⟩] .empty 5 out report := by
  rintro ⟨out, report, heq, hout⟩
  have hfolded : compact [⟨"user", "0123456789"⟩] .empty 5 = .ok ([foldedTurn 1], ⟨1, 0, 0⟩) := by
    decide +kernel
  obtain ⟨rfl, rfl⟩ := Prod.mk.inj (Except.ok.inj (hfolded.symm.trans heq))
  have hwithin := hout.within (by decide +kernel)
  exact absurd hwithin (by decide +kernel)

end ShelfWise.Worker
