import Mathlib.Data.Nat.Notation
import Mathlib.Logic.Function.Basic

/-!
# Programs of atomic steps over a shared state

A `Program Λ σ α` is a computation that touches a shared state `σ` in atomic steps, each with a
label, and returns an `α`. Between two of its steps anything may happen: the process may die
(`cut` stops after any number of steps) and other programs may run (`Pool` holds one program per
index, and `tick i` lets program `i` take its next step, so that a schedule is a list of indices).

`run` is the computation without interruption. `Through I Q p s` says that every state the run of `p`
from `s` passes through has the property `I`, which also looks at the step that comes next, and that
the run ends in `Q`; it composes along `bind` and covers every place to die (`through_attempt`).
`Always I p s` is the case where one property of the states does for all.
-/

namespace Sys

/-- A computation in atomic steps: what a step does to the state, and how the computation goes on
given the state the step found. -/
inductive Program (Λ σ α : Type) where
  | ret (a : α)
  | step (label : Λ) (act : σ → σ) (next : σ → Program Λ σ α)

namespace Program

variable {Λ σ α β γ : Type}

/-- The program of one step that answers. -/
def call (label : Λ) (op : σ → σ × α) : Program Λ σ α :=
  step label (fun s => (op s).1) fun s => ret (op s).2

/-- Go on with the result of a program. -/
def bind : Program Λ σ α → (α → Program Λ σ β) → Program Λ σ β
  | ret a, k => k a
  | step label act next, k => step label act fun s => bind (next s) k

instance : Monad (Program Λ σ) where
  pure := ret
  bind := bind

theorem ret_bind (a : α) (k : α → Program Λ σ β) : (ret a : Program Λ σ α) >>= k = k a := rfl

theorem step_bind (label : Λ) (act : σ → σ) (next : σ → Program Λ σ α) (k : α → Program Λ σ β) :
    step label act next >>= k = step label act fun s => next s >>= k := rfl

theorem call_bind (label : Λ) (op : σ → σ × α) (k : α → Program Λ σ β) :
    call label op >>= k = step label (fun s => (op s).1) fun s => k (op s).2 := rfl

theorem bind_assoc (p : Program Λ σ α) (k : α → Program Λ σ β) (l : β → Program Λ σ γ) :
    p >>= k >>= l = p >>= fun a => k a >>= l := by
  induction p with
  | ret a => rfl
  | step label act next ih =>
    rw [step_bind, step_bind, step_bind]
    congr 1
    funext s
    exact ih s

/-- Go on with the value of a program that may have raised. -/
def bindExcept {ε : Type} (p : Program Λ σ (Except ε α)) (k : α → Program Λ σ (Except ε β)) :
    Program Λ σ (Except ε β) :=
  p >>= fun r => match r with
    | .error e => ret (.error e)
    | .ok a => k a

/-! ## Running -/

/-- The state and the result of a run without interruption. -/
def run : Program Λ σ α → σ → σ × α
  | ret a, s => (s, a)
  | step _ act next, s => run (next s) (act s)

@[simp] theorem run_ret (a : α) (s : σ) : (ret a : Program Λ σ α).run s = (s, a) := rfl

@[simp] theorem run_step (label : Λ) (act : σ → σ) (next : σ → Program Λ σ α) (s : σ) :
    (step label act next).run s = (next s).run (act s) := rfl

@[simp] theorem run_call (label : Λ) (op : σ → σ × α) (s : σ) : (call label op).run s = op s := rfl

theorem run_bind (p : Program Λ σ α) (k : α → Program Λ σ β) (s : σ) :
    (p >>= k).run s = (k (p.run s).2).run (p.run s).1 := by
  induction p generalizing s with
  | ret a => rfl
  | step label act next ih => exact ih s (act s)

/-! ## Cutting a run short -/

/-- The label of the step a program takes next; a program that has returned has none. -/
def nextLabel : Program Λ σ α → Option Λ
  | ret _ => none
  | step label _ _ => some label

theorem nextLabel_eq_none {p : Program Λ σ α} (h : p.nextLabel = none) : ∃ a, p = ret a := by
  cases p with
  | ret a => exact ⟨a, rfl⟩
  | step label act next => cases h

/-- The state when the process dies after `n` steps, or the final state of a shorter run. -/
def cut : ℕ → Program Λ σ α → σ → σ
  | 0, _, s => s
  | _ + 1, ret _, s => s
  | n + 1, step _ act next, s => cut n (next s) (act s)

/-- What a process that dies after `n` steps has left to do. -/
def rest : ℕ → Program Λ σ α → σ → Program Λ σ α
  | 0, p, _ => p
  | _ + 1, ret a, _ => ret a
  | n + 1, step _ act next, s => rest n (next s) (act s)

/-- An attempt that dies after `n` steps: the state it leaves, and the step it died before. As a
transition function, it makes a list of numbers a sequence of attempts. -/
def attempt (p : Program Λ σ α) (s : σ) (n : ℕ) : σ × Option Λ :=
  (p.cut n s, (p.rest n s).nextLabel)

/-- Every state the run from `s` passes through before a step has the property `I` of that step, and
the result and the final state have the property `Q`. -/
def Through (I : Λ → σ → Prop) (Q : α → σ → Prop) : Program Λ σ α → σ → Prop
  | ret a, s => Q a s
  | step label act next, s => I label s ∧ Through I Q (next s) (act s)

/-- Every state the run from `s` passes through has the property. -/
abbrev Always (I : σ → Prop) (p : Program Λ σ α) (s : σ) : Prop :=
  p.Through (fun _ => I) (fun _ => I) s

section Rules

variable {I J : Λ → σ → Prop} {Q R : α → σ → Prop}

variable {p : Program Λ σ α} {s : σ}

theorem Through.mono (h : p.Through I Q s) (himp : ∀ label s, I label s → J label s)
    (hend : ∀ a s, Q a s → R a s) : p.Through J R s := by
  induction p generalizing s with
  | ret a => exact hend a s h
  | step label act next ih => exact ⟨himp label s h.1, ih s h.2⟩

/-- The end of an uninterrupted run. -/
theorem through_run (h : p.Through I Q s) : Q (p.run s).2 (p.run s).1 := by
  induction p generalizing s with
  | ret a => exact h
  | step label act next ih => exact ih s h.2

/-- The end of a run is known exactly. -/
theorem through_exact (h : p.Through I Q s) : p.Through I (fun a s' => p.run s = (s', a)) s := by
  induction p generalizing s with
  | ret a => rfl
  | step label act next ih => exact ⟨h.1, ih s h.2⟩

/-- Where an attempt can die. -/
theorem through_attempt (h : p.Through I Q s) (n : ℕ) :
    (∃ label, (p.attempt s n).2 = some label ∧ I label (p.attempt s n).1) ∨
      ((p.attempt s n).2 = none ∧ ∃ a, Q a (p.attempt s n).1) := by
  induction n generalizing p s with
  | zero =>
    cases p with
    | ret a => exact .inr ⟨rfl, a, h⟩
    | step label act next => exact .inl ⟨label, rfl, h.1⟩
  | succ n ih =>
    cases p with
    | ret a => exact .inr ⟨rfl, a, h⟩
    | step label act next => exact ih h.2

/-- A program with a continuation: first the points of the program, then those of the
continuation. -/
theorem through_bind {k : α → Program Λ σ β} {Q : β → σ → Prop}
    (h : p.Through I (fun a s => (k a).Through I Q s) s) : (p >>= k).Through I Q s := by
  induction p generalizing s with
  | ret a => exact h
  | step label act next ih => exact ⟨h.1, ih s h.2⟩

theorem through_call_bind {label : Λ} {op : σ → σ × α} {k : α → Program Λ σ β} {Q : β → σ → Prop} :
    (call label op >>= k).Through I Q s ↔
      I label s ∧ (k (op s).2).Through I Q (op s).1 := Iff.rfl

/-- A program that may raise, with a continuation. -/
theorem through_bindExcept {ε : Type} {p : Program Λ σ (Except ε α)}
    {k : α → Program Λ σ (Except ε β)} {Q : Except ε β → σ → Prop}
    (h : p.Through I (fun r s => match r with | .error e => Q (.error e) s | .ok a => (k a).Through I Q s) s) :
    (p.bindExcept k).Through I Q s := by
  refine through_bind (h.mono (fun _ _ hI => hI) fun r s hr => ?_)
  cases r with
  | error e => exact hr
  | ok a => exact hr

theorem through_call_bindExcept {ε : Type} {label : Λ} {op : σ → σ × Except ε α}
    {k : α → Program Λ σ (Except ε β)} {Q : Except ε β → σ → Prop} (hI : I label s)
    (hk : match (op s).2 with | .error e => Q (.error e) (op s).1 | .ok a => (k a).Through I Q (op s).1) :
    ((call label op).bindExcept k).Through I Q s :=
  through_bindExcept ⟨hI, hk⟩

end Rules

section Rules

variable {I J : σ → Prop}

variable {p : Program Λ σ α} {s : σ}

theorem Always.mono (himp : ∀ s, I s → J s) (h : p.Always I s) :
    p.Always J s := Through.mono h (fun _ => himp) fun _ => himp

/-- A property of every state passed through holds wherever the run is cut. -/
theorem always_cut (h : p.Always I s) (n : ℕ) : I (p.cut n s) := by
  rcases through_attempt h n with ⟨label, -, hI⟩ | ⟨-, a, hI⟩
  · exact hI
  · exact hI

variable {k : α → Program Λ σ β}

/-- A program with a continuation: first the states of the program, then those of the
continuation. -/
theorem always_bind (hp : p.Always I s) (hk : (k (p.run s).2).Always I (p.run s).1) :
    (p >>= k).Always I s := by
  induction p generalizing s with
  | ret a => exact hk
  | step label act next ih => exact ⟨hp.1, ih s hp.2 hk⟩

theorem always_call_bind {label : Λ} {op : σ → σ × α} :
    (call label op >>= k).Always I s ↔ I s ∧ (k (op s).2).Always I (op s).1 := through_call_bind

end Rules

/-! ## Part of a larger state -/

variable {M τ : Type}

/-- A program over a part of a larger state. -/
def zoom (embed : Λ → M) (get : τ → σ) (set : σ → τ → τ) : Program Λ σ α → Program M τ α
  | ret a => ret a
  | step label act next =>
    step (embed label) (fun t => set (act (get t)) t) fun t => zoom embed get set (next (get t))

variable {embed : Λ → M} {get : τ → σ} {set : σ → τ → τ}

/-- A run over a part changes the part. -/
theorem run_zoom (hget : ∀ s t, get (set s t) = s) (hset : ∀ s s' t, set s (set s' t) = set s t)
    (hself : ∀ t, set (get t) t = t) (p : Program Λ σ α) (t : τ) :
    (p.zoom embed get set).run t = (set (p.run (get t)).1 t, (p.run (get t)).2) := by
  induction p generalizing t with
  | ret a => exact Prod.ext (hself t).symm rfl
  | step label act next ih =>
    rw [zoom, run_step, ih (get t), hget, hset]
    rfl

/-- What holds along a run holds of the part, and `R` holds of the whole when no step of the part
can end it. -/
theorem through_zoom {R : τ → Prop} (hget : ∀ s t, get (set s t) = s)
    (hset : ∀ s t, R t → R (set s t)) {I : Λ → σ → Prop} {Q : α → σ → Prop} {p : Program Λ σ α}
    {t : τ} (hR : R t) (h : p.Through I Q (get t)) :
    (p.zoom embed get set).Through (fun m t => R t ∧ ∃ label, m = embed label ∧ I label (get t))
      (fun a t => R t ∧ Q a (get t)) t := by
  induction p generalizing t with
  | ret a => exact ⟨hR, h⟩
  | step label act next ih =>
    refine ⟨⟨hR, label, rfl, h.1⟩, ih (get t) (hset _ t hR) ?_⟩
    rw [hget]
    exact h.2

/-! ## Several programs at once -/

/-- A shared state and the rest of each program's computation. -/
structure Pool (ι Λ σ α : Type) where
  store : σ
  program : ι → Program Λ σ α

variable {ι : Type} [DecidableEq ι]

/-- Program `i` takes its next step; a program that has returned does nothing. -/
def Pool.tick (w : Pool ι Λ σ α) (i : ι) : Pool ι Λ σ α :=
  match w.program i with
  | ret _ => w
  | step _ act next => ⟨act w.store, Function.update w.program i (next w.store)⟩

/-- One step of a schedule, in the form of a transition function. -/
def Pool.step (w : Pool ι Λ σ α) (i : ι) : Pool ι Λ σ α × Unit := (w.tick i, ())

/-- Every step of a program does what its label says. -/
def Labelled (actOf : Λ → σ → σ) : Program Λ σ α → Prop
  | ret _ => True
  | step label act next => act = actOf label ∧ ∀ s, Labelled actOf (next s)

/-- Every program has returned. -/
def Pool.Finished (w : Pool ι Λ σ α) : Prop := ∀ i, (w.program i).nextLabel = none

variable {w : Pool ι Λ σ α} {i : ι}

theorem Pool.tick_ret {a : α} (h : w.program i = ret a) : w.tick i = w := by
  unfold Pool.tick
  rw [h]

theorem Pool.tick_step {label : Λ} {act : σ → σ} {next : σ → Program Λ σ α}
    (h : w.program i = .step label act next) :
    w.tick i = ⟨act w.store, Function.update w.program i (next w.store)⟩ := by
  unfold Pool.tick
  rw [h]

/-- The step of a program whose steps do what their labels say. -/
theorem Pool.tick_labelled {actOf : Λ → σ → σ} (h : ∀ i, (w.program i).Labelled actOf) (i : ι) :
    (∀ j, ((w.tick i).program j).Labelled actOf) ∧
      (((w.program i).nextLabel = none ∧ w.tick i = w) ∨
        ∃ label, (w.program i).nextLabel = some label ∧
          (w.tick i).store = actOf label w.store) := by
  cases hp : w.program i with
  | ret a =>
    rw [tick_ret hp]
    exact ⟨h, .inl ⟨rfl, rfl⟩⟩
  | step label act next =>
    have hi := h i
    rw [hp] at hi
    rw [tick_step hp]
    refine ⟨fun j => ?_, .inr ⟨label, rfl, congrFun hi.1 w.store⟩⟩
    change (Function.update w.program i (next w.store) j).Labelled actOf
    by_cases hij : j = i
    · subst hij
      rw [Function.update_self]
      exact hi.2 w.store
    · rw [Function.update_of_ne hij]
      exact h j

end Program

end Sys
