import ShelfWise.Sys.Program

/-!
# Programs among others

What a program can rely on while others run. `Guarded actOf rely I p s` says: whatever the others do to
the shared state from `s` on, as long as each of their changes is one of `rely`, every step that `p` takes
does what its label says, in a state that has the property `I` of that label.

With a `rely` that allows no change this is a program that runs alone (`guarded_run`). When the acts that
`I` admits are themselves changes of `rely`, programs that are each guarded are guarded together
(`guarded_tick`). `Uses` is the case where the labels alone decide.
-/

namespace Sys.Program

variable {Λ σ α β ε : Type}

/-- Among others that change the state by `rely`, the program only takes steps with `I`. -/
def Guarded (actOf : Λ → σ → σ) (rely : σ → σ → Prop) (I : Λ → σ → Prop) : Program Λ σ α → σ → Prop
  | ret _, _ => True
  | step label act next, s =>
    ∀ s', rely s s' → act = actOf label ∧ I label s' ∧ Guarded actOf rely I (next s') (act s')

/-- Every step of a program does what its label says, and the label has the property `P`. -/
def Uses (actOf : Λ → σ → σ) (P : Λ → Prop) : Program Λ σ α → Prop
  | ret _ => True
  | step label act next => act = actOf label ∧ P label ∧ ∀ s, Uses actOf P (next s)

section Uses

variable {actOf : Λ → σ → σ} {P R : Λ → Prop}

theorem uses_call {label : Λ} {op : σ → σ × α} (hact : (fun s => (op s).1) = actOf label)
    (hP : P label) : (call label op).Uses actOf P := ⟨hact, hP, fun _ => trivial⟩

theorem uses_bind {p : Program Λ σ α} {k : α → Program Λ σ β} (hp : p.Uses actOf P)
    (hk : ∀ a, (k a).Uses actOf P) : (p >>= k).Uses actOf P := by
  induction p with
  | ret a => exact hk a
  | step label act next ih => exact ⟨hp.1, hp.2.1, fun s => ih s (hp.2.2 s)⟩

theorem uses_bindExcept {p : Program Λ σ (Except ε α)} {k : α → Program Λ σ (Except ε β)}
    (hp : p.Uses actOf P) (hk : ∀ a, (k a).Uses actOf P) : (p.bindExcept k).Uses actOf P := by
  refine uses_bind hp fun r => ?_
  cases r with
  | error e => trivial
  | ok a => exact hk a

theorem Uses.mono {p : Program Λ σ α} (h : p.Uses actOf P) (himp : ∀ label, P label → R label) :
    p.Uses actOf R := by
  induction p with
  | ret a => trivial
  | step label act next ih => exact ⟨h.1, himp label h.2.1, fun s => ih s (h.2.2 s)⟩

end Uses

section Guarded

variable {actOf : Λ → σ → σ} {rely : σ → σ → Prop} {I J : Λ → σ → Prop}

variable {p : Program Λ σ α} {s : σ}

theorem Guarded.mono (h : p.Guarded actOf rely I s) (himp : ∀ label s, I label s → J label s) :
    p.Guarded actOf rely J s := by
  induction p generalizing s with
  | ret a => trivial
  | step label act next ih =>
    intro s' hrely
    obtain ⟨hact, hI, hnext⟩ := h s' hrely
    exact ⟨hact, himp label s' hI, ih s' hnext⟩

/-- Where the labels decide, the state does not matter. -/
theorem Uses.guarded {P : Λ → Prop} (h : p.Uses actOf P) (himp : ∀ label s, P label → I label s)
    (s : σ) : p.Guarded actOf rely I s := by
  induction p generalizing s with
  | ret a => trivial
  | step label act next ih =>
    exact fun s' _ => ⟨h.1, himp label s' h.2.1, ih s' (h.2.2 s') (act s')⟩

/-- Among others that can do less. -/
theorem Guarded.narrow {narrower : σ → σ → Prop} (himp : ∀ s t, narrower s t → rely s t)
    (h : p.Guarded actOf rely I s) : p.Guarded actOf narrower I s := by
  induction p generalizing s with
  | ret a => trivial
  | step label act next ih =>
    intro s' hrely
    obtain ⟨hact, hI, hnext⟩ := h s' (himp s s' hrely)
    exact ⟨hact, hI, ih s' hnext⟩

variable {k : α → Program Λ σ (Except ε β)}

/-- After a guarded program, a continuation where the labels decide. -/
theorem Guarded.bindExcept_uses {P : Λ → Prop} {p : Program Λ σ (Except ε α)}
    (hp : p.Guarded actOf rely I s) (hk : ∀ a, (k a).Uses actOf P)
    (himp : ∀ label s, P label → I label s) : (p.bindExcept k).Guarded actOf rely I s := by
  induction p generalizing s with
  | ret r =>
    cases r with
    | error e => trivial
    | ok a => exact (hk a).guarded himp s
  | step label act next ih =>
    intro s' hrely
    obtain ⟨hact, hI, hnext⟩ := hp s' hrely
    exact ⟨hact, hI, ih s' hnext⟩

/-- The others may have made a change already. -/
theorem Guarded.later (htrans : ∀ s t u, rely s t → rely t u → rely s u) {s s' : σ}
    (h : p.Guarded actOf rely I s) (hrely : rely s s') : p.Guarded actOf rely I s' := by
  cases p with
  | ret a => trivial
  | step label act next => exact fun t ht => h t (htrans s s' t hrely ht)

theorem guarded_call_bind {label : Λ} {op : σ → σ × α} {k : α → Program Λ σ β}
    (hact : (fun s => (op s).1) = actOf label)
    (h : ∀ s', rely s s' → I label s' ∧ (k (op s').2).Guarded actOf rely I (op s').1) :
    (call label op >>= k).Guarded actOf rely I s :=
  fun s' hrely => ⟨hact, (h s' hrely).1, (h s' hrely).2⟩

theorem guarded_call_bindExcept {label : Λ} {op : σ → σ × Except ε α}
    (hact : (fun s => (op s).1) = actOf label)
    (h : ∀ s', rely s s' → I label s' ∧ ∀ a, (op s').2 = .ok a → (k a).Guarded actOf rely I (op s').1) :
    ((call label op).bindExcept k).Guarded actOf rely I s := by
  refine guarded_call_bind hact fun s' hrely => ⟨(h s' hrely).1, ?_⟩
  cases hresult : (op s').2 with
  | error e => trivial
  | ok a => exact (h s' hrely).2 a hresult

/-- What has been computed already. -/
theorem guarded_ret_bindExcept {result : Except ε α}
    (h : ∀ a, result = .ok a → (k a).Guarded actOf rely I s) :
    (bindExcept (ret result) k).Guarded actOf rely I s := by
  cases result with
  | error e => trivial
  | ok a => exact h a rfl

/-- A program that runs alone keeps what its steps keep. -/
theorem guarded_run {K : σ → Prop} (hstep : ∀ label s, K s → I label s → K (actOf label s))
    (h : p.Guarded actOf Eq I s) (hs : K s) : K (p.run s).1 := by
  induction p generalizing s with
  | ret a => exact hs
  | step label act next ih =>
    obtain ⟨hact, hI, hnext⟩ := h s rfl
    subst hact
    exact ih s hnext (hstep label s hs hI)

variable {ι : Type} [DecidableEq ι]

/-- Programs that are each guarded stay so, when every step they take is a change the others allow
for; and the step that is taken has `I`. -/
theorem guarded_tick (hrefl : ∀ s, rely s s) (htrans : ∀ s t u, rely s t → rely t u → rely s u)
    (hact : ∀ label s, I label s → rely s (actOf label s)) {w : Pool ι Λ σ α}
    (h : ∀ i, (w.program i).Guarded actOf rely I w.store) (i : ι) :
    (∀ j, ((w.tick i).program j).Guarded actOf rely I (w.tick i).store) ∧
      ((w.program i).nextLabel = none ∧ w.tick i = w ∨ ∃ label, (w.program i).nextLabel = some label ∧ I label w.store ∧
        (w.tick i).store = actOf label w.store) := by
  cases hp : w.program i with
  | ret a =>
    rw [Pool.tick_ret hp]
    exact ⟨h, .inl ⟨rfl, rfl⟩⟩
  | step label act next =>
    have hi := h i
    rw [hp] at hi
    obtain ⟨hsame, hI, hnext⟩ := hi w.store (hrefl _)
    rw [Pool.tick_step hp, hsame]
    refine ⟨fun j => ?_, .inr ⟨label, rfl, hI, rfl⟩⟩
    show (Function.update w.program i (next w.store) j).Guarded actOf rely I _
    by_cases hij : j = i
    · subst hij
      rw [Function.update_self, ← hsame]
      exact hnext
    · rw [Function.update_of_ne hij]
      exact (h j).later htrans (hact label w.store hI)

end Guarded

end Sys.Program
