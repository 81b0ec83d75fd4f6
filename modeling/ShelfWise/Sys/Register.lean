import Mathlib.Logic.Function.Basic
import Mathlib.Order.Defs.PartialOrder

/-!
# Registers that keep the greatest fact

A table keeps at most one fact per key. Facts are offered, and written one at a time; `rank` says
which of two facts for a key should stay. `Covers table offered pending` is the state of the table
while some of the offered facts are still on their way: every fact in the table was offered, and
every offered fact is pending or stands behind a fact of at least its rank.

When nothing is pending the table holds the greatest offered fact of each key
(`Covers.eq_of_latest`), whatever the order in which the facts came.
-/

namespace Sys.Register

variable {κ φ ρ : Type*}

section Rules

variable [Preorder ρ]

/-- A fact no offered fact for its key outranks. -/
structure Latest (key : φ → κ) (rank : φ → ρ) (offered : φ → Prop) (f : φ) : Prop where
  isOffered : offered f
  top : ∀ g, offered g → key g = key f → rank g ≤ rank f

/-- The table holds only offered facts, and stands for all of them but the pending ones. -/
structure Covers (key : φ → κ) (rank : φ → ρ) (table : κ → Option φ) (offered pending : φ → Prop) :
    Prop where
  held : ∀ k f, table k = some f → offered f ∧ key f = k
  behind : ∀ f, offered f → pending f ∨ ∃ g, table (key f) = some g ∧ rank f ≤ rank g

variable {key : φ → κ} {rank : φ → ρ} {table : κ → Option φ} {offered pending : φ → Prop}

theorem covers_empty : Covers key rank (fun _ => none) (fun _ => False) pending :=
  ⟨fun _ _ h => (nomatch h), fun _ h => False.elim h⟩

/-- More facts may be pending than are. -/
theorem Covers.mono (h : Covers key rank table offered pending) {pending' : φ → Prop}
    (himp : ∀ f, pending f → pending' f) : Covers key rank table offered pending' :=
  ⟨h.held, fun f hf => (h.behind f hf).imp_left (himp f)⟩

/-- A newly offered fact is pending. -/
theorem Covers.offer (h : Covers key rank table offered pending) (f : φ) :
    Covers key rank table (fun g => g = f ∨ offered g) (fun g => g = f ∨ pending g) :=
  ⟨fun k g hg => ⟨.inr (h.held k g hg).1, (h.held k g hg).2⟩, fun g hg =>
    hg.elim (fun he => .inl (.inl he)) fun ho => (h.behind g ho).imp_left .inr⟩

/-- A fact that stands behind the table is not pending any more. -/
theorem Covers.skip {f : φ} (h : Covers key rank table offered fun g => g = f ∨ pending g)
    (hbehind : ∃ g, table (key f) = some g ∧ rank f ≤ rank g) :
    Covers key rank table offered pending := by
  refine ⟨h.held, fun g hg => ?_⟩
  rcases h.behind g hg with (rfl | hp) | hb
  · exact .inr hbehind
  · exact .inl hp
  · exact .inr hb

variable [DecidableEq κ]

/-- Writing an offered fact over nothing, or over a fact it outranks. -/
theorem Covers.write {f : φ} (h : Covers key rank table offered fun g => g = f ∨ pending g)
    (hf : offered f) (hover : ∀ g, table (key f) = some g → rank g ≤ rank f) :
    Covers key rank (Function.update table (key f) (some f)) offered pending := by
  refine ⟨fun k g hg => ?_, fun g hg => ?_⟩
  · by_cases hk : k = key f
    · subst hk
      rw [Function.update_self, Option.some.injEq] at hg
      subst hg
      exact ⟨hf, rfl⟩
    · rw [Function.update_of_ne hk] at hg
      exact h.held k g hg
  · by_cases hk : key g = key f
    · -- the new fact stands for every fact of its key
      rcases h.behind g hg with (rfl | hp) | ⟨g', hg', hle⟩
      · exact .inr ⟨g, Function.update_self .., le_refl _⟩
      · exact .inl hp
      · refine .inr ⟨f, ?_, le_trans hle (hover g' (hk ▸ hg'))⟩
        rw [hk, Function.update_self]
    · rcases h.behind g hg with (rfl | hp) | hb
      · exact absurd rfl hk
      · exact .inl hp
      · refine .inr ?_
        rw [Function.update_of_ne hk]
        exact hb

end Rules

section Result

variable [PartialOrder ρ] {key : φ → κ} {rank : φ → ρ} {table : κ → Option φ}
  {offered pending : φ → Prop}

/-- What the table holds for a key when no fact of the key is pending. -/
theorem Covers.latest (h : Covers key rank table offered pending) {k : κ} {f : φ}
    (hf : table k = some f) (hp : ∀ g, key g = k → ¬ pending g) :
    key f = k ∧ Latest key rank offered f := by
  obtain ⟨hoff, rfl⟩ := h.held k f hf
  refine ⟨rfl, hoff, fun g hg hk => ?_⟩
  rcases h.behind g hg with hpend | ⟨g', hg', hle⟩
  · exact absurd hpend (hp g hk)
  · rw [hk, hf, Option.some.injEq] at hg'
    exact hg' ▸ hle

/-- The greatest offered fact of a key is in the table, when it is not pending and its rank is its
own among the facts of the key. -/
theorem Covers.eq_of_latest (h : Covers key rank table offered pending)
    (hinj : ∀ f g, offered f → offered g → key f = key g → rank f = rank g → f = g) {f : φ}
    (hf : Latest key rank offered f) (hp : ¬ pending f) : table (key f) = some f := by
  rcases h.behind f hf.isOffered with hpend | ⟨g, hg, hle⟩
  · exact absurd hpend hp
  · obtain ⟨hoff, hk⟩ := h.held _ g hg
    rw [hg, hinj g f hoff hf.isOffered hk (le_antisymm (hf.top g hoff hk) hle)]

theorem Covers.eq_none (h : Covers key rank table offered pending) {k : κ}
    (hk : ∀ f, offered f → key f ≠ k) : table k = none := by
  cases ht : table k with
  | none => rfl
  | some f => exact absurd (h.held k f ht).2 (hk f (h.held k f ht).1)

/-- What the table holds when nothing is pending: the latest fact of each key. -/
theorem Covers.table_iff (h : Covers key rank table offered fun _ => False)
    (hinj : ∀ f g, offered f → offered g → key f = key g → rank f = rank g → f = g) {k : κ} {f : φ} :
    table k = some f ↔ key f = k ∧ Latest key rank offered f := by
  constructor
  · intro hf
    exact h.latest hf fun _ _ => id
  · rintro ⟨rfl, hlatest⟩
    exact h.eq_of_latest hinj hlatest id

/-- Two tables that stand for different facts agree exactly when they have the same latest facts. -/
theorem Covers.table_eq_iff_latest (h : Covers key rank table offered fun _ => False)
    (hinj : ∀ f g, offered f → offered g → key f = key g → rank f = rank g → f = g)
    {table' : κ → Option φ} {offered' : φ → Prop}
    (h' : Covers key rank table' offered' fun _ => False)
    (hinj' : ∀ f g, offered' f → offered' g → key f = key g → rank f = rank g → f = g) :
    table = table' ↔ ∀ f, Latest key rank offered f ↔ Latest key rank offered' f := by
  constructor
  · rintro rfl f
    have hf := (h.table_iff hinj (k := key f) (f := f)).symm.trans (h'.table_iff hinj')
    simpa using hf
  · intro hlatest
    funext k
    apply Option.ext
    intro f
    show table k = some f ↔ table' k = some f
    rw [h.table_iff hinj, h'.table_iff hinj', hlatest f]

/-- Two tables that stand for the same facts, one of them with facts pending that it does not hold:
they agree exactly when every pending fact is outranked. -/
theorem Covers.table_eq_iff (h : Covers key rank table offered pending) {table' : κ → Option φ}
    (h' : Covers key rank table' offered fun _ => False)
    (hinj : ∀ f g, offered f → offered g → key f = key g → rank f = rank g → f = g)
    (hoffered : ∀ f, pending f → offered f) (hmissing : ∀ f, pending f → table (key f) ≠ some f) :
    table = table' ↔ ∀ f, pending f → ∃ g, offered g ∧ key g = key f ∧ rank f < rank g := by
  constructor
  · rintro rfl f hf
    obtain ⟨g, hg, hle⟩ := (h'.behind f (hoffered f hf)).resolve_left id
    obtain ⟨hoff, hk⟩ := h'.held _ g hg
    refine ⟨g, hoff, hk, lt_of_le_of_ne hle fun he => hmissing f hf ?_⟩
    rw [hg, hinj f g (hoffered f hf) hoff hk.symm he]
  · intro hout
    funext k
    cases ht : table' k with
    | some f =>
      obtain ⟨rfl, hlatest⟩ := h'.latest ht fun _ _ => id
      refine h.eq_of_latest hinj hlatest fun hp => ?_
      obtain ⟨g, hg, hk, hlt⟩ := hout f hp
      exact absurd (hlatest.top g hg hk) (not_le_of_gt hlt)
    | none =>
      refine h.eq_none fun f hf hk => ?_
      obtain ⟨g, hg, -⟩ := (h'.behind f hf).resolve_left id
      rw [hk, ht] at hg
      cases hg

end Result

end Sys.Register
