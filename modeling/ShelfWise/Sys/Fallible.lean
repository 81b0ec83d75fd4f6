import Mathlib.Logic.Basic

/-!
# Computations over a state that may raise

A `Fallible σ ε α` takes a state to the next state and a result or an exception; what it did before it
raised stays done.

`Meets x s Q E` says of the run of `x` from `s` that a result and the state it leaves satisfy `Q`, and
an exception and the state it leaves satisfy `E`. It composes along `bind` (`meets_bind`), so that a
program is verified by one rule for each of its operations.
-/

namespace Sys

/-- A computation over a state that may raise. -/
def Fallible (σ ε α : Type) := σ → σ × Except ε α

namespace Fallible

variable {σ ε α β : Type}

/-- The state and the result of a run. -/
def run (x : Fallible σ ε α) (s : σ) : σ × Except ε α := x s

/-- A computation that returns its argument. -/
def ret (a : α) : Fallible σ ε α := fun s => (s, .ok a)

/-- A computation that raises. -/
def raise (e : ε) : Fallible σ ε α := fun s => (s, .error e)

/-- A result or an exception that is at hand. -/
def ofExcept : Except ε α → Fallible σ ε α
  | .ok a => ret a
  | .error e => raise e

/-- A change of the state that does not raise. -/
def update (f : σ → σ) : Fallible σ ε Unit := fun s => (f s, .ok ())

/-- Go on with the result, unless there is an exception. -/
def bind (x : Fallible σ ε α) (f : α → Fallible σ ε β) : Fallible σ ε β := fun s =>
  match x s with
  | (s, .ok a) => f a s
  | (s, .error e) => (s, .error e)

instance : Monad (Fallible σ ε) where
  pure := ret
  bind := bind

variable {x : Fallible σ ε α} {a : α}

theorem run_bind_of_ok {s s' : σ} (h : x.run s = (s', .ok a)) (f : α → Fallible σ ε β) :
    (x >>= f).run s = (f a).run s' := by
  have hx : x s = (s', .ok a) := h
  change bind x f s = _
  rw [bind, hx]
  rfl

variable {e : ε}

theorem run_bind_of_error {s s' : σ} (h : x.run s = (s', .error e)) (f : α → Fallible σ ε β) :
    (x >>= f).run s = (s', .error e) := by
  have hx : x s = (s', .error e) := h
  change bind x f s = _
  rw [bind, hx]

/-! ## Postconditions -/

/-- From `s`, a result satisfies `Q` and an exception satisfies `E`, with the state they leave. -/
structure Meets (x : Fallible σ ε α) (s : σ) (Q : α → σ → Prop) (E : ε → σ → Prop) : Prop where
  ok : ∀ s' a, x.run s = (s', .ok a) → Q a s'
  error : ∀ s' e, x.run s = (s', .error e) → E e s'

variable {Q : α → σ → Prop} {R : β → σ → Prop} {E : ε → σ → Prop} {s : σ}

theorem meets_ret (h : Q a s) : (ret a : Fallible σ ε α).Meets s Q E where
  ok := by
    intro s' a' hrun
    cases hrun
    exact h
  error := nofun

theorem meets_raise (h : E e s) : (raise e : Fallible σ ε α).Meets s Q E where
  ok := nofun
  error := by
    intro s' e' hrun
    cases hrun
    exact h

theorem meets_update {f : σ → σ} {Q : Unit → σ → Prop} (h : Q () (f s)) :
    (update f : Fallible σ ε Unit).Meets s Q E where
  ok := by
    intro s' a hrun
    cases hrun
    exact h
  error := nofun

theorem meets_ofExcept {x : Except ε α} (hok : ∀ a, x = .ok a → Q a s)
    (herror : ∀ e, x = .error e → E e s) : (ofExcept x : Fallible σ ε α).Meets s Q E := by
  cases x with
  | ok a => exact meets_ret (hok a rfl)
  | error e => exact meets_raise (herror e rfl)

/-- A run that is known to return. -/
theorem meets_of_run {s' : σ} (hrun : x.run s = (s', .ok a)) (h : Q a s') : x.Meets s Q E where
  ok := by
    intro t b ht
    rw [hrun] at ht
    cases ht
    exact h
  error := by
    intro t e ht
    rw [hrun] at ht
    cases ht

/-- The rule of composition. -/
theorem meets_bind {f : α → Fallible σ ε β} (h : x.Meets s (fun a s' => (f a).Meets s' R E) E) :
    (x >>= f).Meets s R E := by
  rcases hx : x.run s with ⟨s', e | a⟩
  · refine ⟨fun t b hrun => ?_, fun t e' hrun => ?_⟩
    · rw [run_bind_of_error hx] at hrun
      cases hrun
    · rw [run_bind_of_error hx] at hrun
      cases hrun
      exact h.error s' e hx
  · have hrest := h.ok s' a hx
    refine ⟨fun t b hrun => ?_, fun t e hrun => ?_⟩
    · rw [run_bind_of_ok hx] at hrun
      exact hrest.ok t b hrun
    · rw [run_bind_of_ok hx] at hrun
      exact hrest.error t e hrun

/-- The rule of consequence. -/
theorem Meets.mono {Q' : α → σ → Prop} {E' : ε → σ → Prop} (h : x.Meets s Q E)
    (hok : ∀ a s', Q a s' → Q' a s') (herror : ∀ e s', E e s' → E' e s') :
    x.Meets s Q' E' where
  ok := fun s' a hrun => hok a s' (h.ok s' a hrun)
  error := fun s' e hrun => herror e s' (h.error s' e hrun)

end Fallible

end Sys
