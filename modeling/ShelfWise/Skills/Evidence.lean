import ShelfWise.Py.Digest
import ShelfWise.Skills.Manifest
import ShelfWise.Sys.Run

/-!
# Governance evidence

`InMemoryEvaluationRegistry` and `InMemoryPromptRegistry` of `shelfwise_mlops/registry.py`. Both keep the
first record of a tenant and an id. The prompt registry compares the contents before it fills in a missing
creation time; the evaluation registry fills it in first, so the same record without a time is another
record once the clock has advanced (`evidence_immutable_iff`).
-/

namespace ShelfWise.Skills

open Py Sys

/-- A record that is handed in, and the text of the clock at that moment. -/
structure Submission (ρ : Type) where
  record : ρ
  now : String
deriving DecidableEq

/-! ## The evaluation registry -/

/-- The record with a creation time. -/
def EvaluationRecord.stamped (record : EvaluationRecord) (now : String) : EvaluationRecord :=
  if record.createdAt = "" then { record with createdAt := now } else record

/-- Where a record stands. -/
def EvaluationRecord.key (record : EvaluationRecord) : String × String := (record.tenantId, record.id)

/-- What the record says, its creation time apart. -/
def EvaluationRecord.content (record : EvaluationRecord) : String × String × FloatValue × Bool :=
  (record.id, record.tenantId, record.passRate.value, record.gatePassed)

/-- What `==` compares of a record. -/
def EvaluationRecord.shown (record : EvaluationRecord) :
    (String × String × FloatValue × Bool) × String := (record.content, record.createdAt)

/-- `InMemoryEvaluationRegistry.record`. -/
def recordEvaluation (s : Evaluations) (call : Submission EvaluationRecord) :
    Evaluations × Except Exc EvaluationRecord :=
  let stored := call.record.stamped call.now
  match s.get? stored.key with
  | some existing =>
    if existing.shown ≠ stored.shown then
      (s, .error (.valueError ("evaluation " ++ stored.id ++ " already has different content")))
    else (s.set stored.key stored, .ok stored)
  | none => (s.set stored.key stored, .ok stored)

/-! ## The prompt registry -/

/-- `PromptVersion`. -/
structure PromptVersion where
  id : String
  tenantId : String
  agent : String
  version : String
  sha : String
  systemPrompt : String
  schemaVersion : String
  createdAt : String
deriving DecidableEq

/-- The versions of `InMemoryPromptRegistry`, by tenant and id. -/
abbrev PromptVersions := Dict (String × String) PromptVersion

/-- Where a version stands. -/
def PromptVersion.key (version : PromptVersion) : String × String := (version.tenantId, version.id)

/-- `_prompt_identity`. -/
def promptIdentity (version : PromptVersion) : List String :=
  [version.tenantId, version.agent, version.version, version.sha, version.systemPrompt,
    version.schemaVersion]

/-- `prompt_sha`. -/
def promptSha (systemPrompt : String) : String := sha256 systemPrompt

/-- `InMemoryPromptRegistry.record`. -/
def recordPrompt (s : PromptVersions) (call : Submission PromptVersion) :
    PromptVersions × Except Exc PromptVersion :=
  let version := call.record
  match s.get? version.key with
  | some existing =>
    if promptIdentity existing ≠ promptIdentity version then
      (s, .error (.valueError ("Prompt version " ++ version.id ++ " already has different content")))
    else (s, .ok existing)
  | none =>
    if version.sha ≠ promptSha version.systemPrompt then
      (s, .error (.valueError "Prompt version sha does not match system prompt"))
    else
      let stored := if version.createdAt = "" then { version with createdAt := call.now } else version
      (s.set version.key stored, .ok stored)

/-! ## Registries that keep the first record -/

section

variable {ρ κ γ φ : Type} [DecidableEq κ]
variable (record : Dict κ ρ → Submission ρ → Dict κ ρ × Except Exc ρ)
variable (key : ρ → κ) (content : ρ → γ) (shown : ρ → φ)

/-- One step of a run of `record` calls. -/
abbrev Recording (ρ κ : Type) := Step (Dict κ ρ) (Submission ρ) (Except Exc ρ)

/-- After the steps `past`, the step leaves the evidence as it is: what was accepted first under a key is
what is found there, a record that was accepted before is answered with what is found, and other content is
refused. -/
structure Faithful (past : List (Recording ρ κ)) (step : Recording ρ κ) : Prop where
  kept : ∀ earlier ∈ past ++ [step], ∀ first, earlier.before.get? (key earlier.input.record) = none →
    earlier.output = .ok first → content first = content earlier.input.record ∧
      ∃ held, step.after.get? (key earlier.input.record) = some held ∧ shown held = shown first
  again : ∀ earlier ∈ past, earlier.input.record = step.input.record →
    (∃ accepted, earlier.output = .ok accepted) →
      ∃ held answer, step.before.get? (key step.input.record) = some held ∧
        step.output = .ok answer ∧ shown answer = shown held
  other : ∀ held, step.before.get? (key step.input.record) = some held →
    content held ≠ content step.input.record →
      step.after = step.before ∧ ∃ message, step.output = .error (.valueError message)

/-- What a call does: it keeps a new record, it answers with what is kept, or it refuses. -/
inductive Keeps (s : Dict κ ρ) (call : Submission ρ) : Dict κ ρ × Except Exc ρ → Prop
  | new (stored : ρ) (hnew : s.get? (key call.record) = none)
      (hcontent : content stored = content call.record) :
      Keeps s call (s.set (key call.record) stored, .ok stored)
  | again (held answer : ρ) (s' : Dict κ ρ) (hheld : s.get? (key call.record) = some held)
      (hcontent : content answer = content call.record) (hshown : shown answer = shown held)
      (hsame : ∀ k, (s'.get? k).map shown = (s.get? k).map shown) : Keeps s call (s', .ok answer)
  | refused (message : String) : Keeps s call (s, .error (.valueError message))

variable {key content shown}

/-- What is found stays as it is shown. -/
theorem Keeps.shown_kept {s : Dict κ ρ} {call : Submission ρ} {next : Dict κ ρ × Except Exc ρ}
    (h : Keeps key content shown s call next) {k : κ} {held : ρ} (hheld : s.get? k = some held) :
    ∃ held', next.1.get? k = some held' ∧ shown held' = shown held := by
  cases h with
  | new stored hnew hcontent =>
    have hne : key call.record ≠ k := fun heq => by
      rw [heq, hheld] at hnew
      cases hnew
    exact ⟨held, (s.get?_set_ne hne stored).trans hheld, rfl⟩
  | again held₀ answer s' hheld₀ hcontent hshown hsame =>
    have hmap := hsame k
    rw [hheld, Option.map_some, Option.map_eq_some_iff] at hmap
    exact hmap
  | refused message => exact ⟨held, hheld, rfl⟩

/-- An accepted record is found under its key. -/
theorem Keeps.accepted {s : Dict κ ρ} {call : Submission ρ} {next : Dict κ ρ × Except Exc ρ}
    (h : Keeps key content shown s call next) {answer : ρ} (hanswer : next.2 = .ok answer) :
    content answer = content call.record ∧
      ∃ held, next.1.get? (key call.record) = some held ∧ shown held = shown answer := by
  cases h with
  | new stored hnew hcontent =>
    obtain rfl := Except.ok.inj hanswer
    exact ⟨hcontent, stored, s.get?_set_self _ stored, rfl⟩
  | again held answer' s' hheld hcontent hshown hsame =>
    obtain rfl := Except.ok.inj hanswer
    have hmap := hsame (key call.record)
    rw [hheld, Option.map_some, Option.map_eq_some_iff] at hmap
    obtain ⟨held', hheld', hshown'⟩ := hmap
    exact ⟨hcontent, held', hheld', hshown'.trans hshown.symm⟩
  | refused message => cases hanswer

variable {record}

/-- In a run of a registry, every accepted record is found as it was answered. -/
theorem accepted_held (hkeeps : ∀ s call, Keeps key content shown s call (record s call))
    {calls : List (Submission ρ)} {past rest : List (Recording ρ κ)} {step : Recording ρ κ}
    (hsplit : trace record .empty calls = past ++ step :: rest) {earlier : Recording ρ κ}
    (hearlier : earlier ∈ past) {accepted : ρ} (haccepted : earlier.output = .ok accepted) :
    content accepted = content earlier.input.record ∧
      ∃ held, step.before.get? (key earlier.input.record) = some held ∧ shown held = shown accepted := by
  have hhistory := history_of_split (H := fun past s => ∀ earlier ∈ past, ∀ accepted,
      earlier.output = .ok accepted → content accepted = content earlier.input.record ∧
        ∃ held, s.get? (key earlier.input.record) = some held ∧ shown held = shown accepted)
    (fun past s call hpast earlier hmem accepted haccepted => by
      rcases List.mem_append.mp hmem with hmem | hmem
      · obtain ⟨hcontent, held, hheld, hshown⟩ := hpast earlier hmem accepted haccepted
        obtain ⟨held', hheld', hshown'⟩ := (hkeeps s call).shown_kept hheld
        exact ⟨hcontent, held', hheld', hshown'.trans hshown⟩
      · rw [List.mem_singleton.mp hmem] at haccepted ⊢
        exact (hkeeps s call).accepted haccepted)
    [] (fun _ hmem => absurd hmem List.not_mem_nil) hsplit
  exact hhistory earlier hearlier accepted haccepted

omit [DecidableEq κ] in
/-- The step that stands in a run is one of `record`. -/
theorem step_eq {calls : List (Submission ρ)} {past rest : List (Recording ρ κ)} {step : Recording ρ κ}
    (hsplit : trace record .empty calls = past ++ step :: rest) :
    step = stepOf record step.before step.input :=
  (invariant_of_mem_trace (I := fun _ => True) (fun _ _ _ => trivial) trivial
    (hsplit ▸ List.mem_append_right _ List.mem_cons_self)).2

/-- What was accepted first under a key is found there ever after. -/
theorem first_kept (hkeeps : ∀ s call, Keeps key content shown s call (record s call))
    {calls : List (Submission ρ)} {past rest : List (Recording ρ κ)} {step : Recording ρ κ}
    (hsplit : trace record .empty calls = past ++ step :: rest) {earlier : Recording ρ κ}
    (hearlier : earlier ∈ past ++ [step]) {first : ρ} (hfirst : earlier.output = .ok first) :
    content first = content earlier.input.record ∧
      ∃ held, step.after.get? (key earlier.input.record) = some held ∧ shown held = shown first := by
  have hstep := hkeeps step.before step.input
  have hafter : step.after = (record step.before step.input).1 := congrArg Step.after (step_eq hsplit)
  rw [hafter]
  rcases List.mem_append.mp hearlier with hearlier | hearlier
  · obtain ⟨hcontent, held, hheld, hshown⟩ := accepted_held hkeeps hsplit hearlier hfirst
    obtain ⟨held', hheld', hshown'⟩ := hstep.shown_kept hheld
    exact ⟨hcontent, held', hheld', hshown'.trans hshown⟩
  · rw [List.mem_singleton.mp hearlier] at hfirst ⊢
    exact hstep.accepted ((congrArg Step.output (step_eq hsplit)).symm.trans hfirst)

end

/-! ## Prompt versions -/

theorem recordPrompt_keeps (s : PromptVersions) (call : Submission PromptVersion) :
    Keeps PromptVersion.key promptIdentity id s call (recordPrompt s call) := by
  unfold recordPrompt
  dsimp only
  cases hheld : s.get? call.record.key with
  | some existing =>
    dsimp only
    split
    · exact .refused _
    · next hsame => exact .again existing existing s hheld (not_not.mp hsame) rfl fun _ => rfl
  | none =>
    dsimp only
    split
    · exact .refused _
    · refine .new _ hheld ?_
      split
      · rfl
      · rfl

/-- The prompt registry leaves the evidence as it is at every call. -/
theorem faithful_prompt {calls : List (Submission PromptVersion)}
    {past rest : List (Recording PromptVersion (String × String))}
    {step : Recording PromptVersion (String × String)}
    (hsplit : trace recordPrompt .empty calls = past ++ step :: rest) :
    Faithful PromptVersion.key promptIdentity id past step := by
  have houtput : step.output = (recordPrompt step.before step.input).2 :=
    congrArg Step.output (step_eq hsplit)
  have hafter : step.after = (recordPrompt step.before step.input).1 :=
    congrArg Step.after (step_eq hsplit)
  refine ⟨fun earlier hearlier first _ hfirst => first_kept recordPrompt_keeps hsplit hearlier hfirst,
    fun earlier hearlier hsame haccepted => ?_, fun held hheld hother => ?_⟩
  · obtain ⟨accepted, haccepted⟩ := haccepted
    obtain ⟨hcontent, held, hheld, hshown⟩ := accepted_held recordPrompt_keeps hsplit hearlier haccepted
    obtain rfl : held = accepted := hshown
    rw [hsame] at hcontent hheld
    refine ⟨held, held, hheld, ?_, rfl⟩
    rw [houtput, recordPrompt]
    simp only [hheld, ne_eq, hcontent, not_true_eq_false, if_false]
  · have hrefused : recordPrompt step.before step.input = (step.before, .error (.valueError
        ("Prompt version " ++ step.input.record.id ++ " already has different content"))) := by
      rw [recordPrompt]
      simp only [hheld]
      exact if_pos hother
    rw [hafter, houtput, hrefused]
    exact ⟨rfl, _, rfl⟩

/-! ## Evaluations -/

variable {s : Evaluations} {call : Submission EvaluationRecord} {held : EvaluationRecord}

theorem stamped_key (record : EvaluationRecord) (now : String) :
    (record.stamped now).key = record.key := by
  unfold EvaluationRecord.stamped
  split
  · rfl
  · rfl

theorem stamped_content (record : EvaluationRecord) (now : String) :
    (record.stamped now).content = record.content := by
  unfold EvaluationRecord.stamped
  split
  · rfl
  · rfl

theorem shown_stamped (record : EvaluationRecord) (now : String) :
    (record.stamped now).shown =
      (record.content, if record.createdAt = "" then now else record.createdAt) := by
  unfold EvaluationRecord.stamped
  split
  · rfl
  · rfl

theorem recordEvaluation_of_new (h : s.get? call.record.key = none) :
    recordEvaluation s call =
      (s.set call.record.key (call.record.stamped call.now), .ok (call.record.stamped call.now)) := by
  unfold recordEvaluation
  simp only [stamped_key, h]

theorem recordEvaluation_of_same (h : s.get? call.record.key = some held)
    (hsame : held.shown = (call.record.stamped call.now).shown) :
    recordEvaluation s call =
      (s.set call.record.key (call.record.stamped call.now), .ok (call.record.stamped call.now)) := by
  unfold recordEvaluation
  simp only [stamped_key, h, hsame, ne_eq, not_true_eq_false, if_false]

theorem recordEvaluation_of_differs (h : s.get? call.record.key = some held)
    (hdiffers : held.shown ≠ (call.record.stamped call.now).shown) :
    ∃ message, recordEvaluation s call = (s, .error (.valueError message)) := by
  unfold recordEvaluation
  simp only [stamped_key, h]
  exact ⟨_, if_pos hdiffers⟩

theorem recordEvaluation_keeps (s : Evaluations) (call : Submission EvaluationRecord) :
    Keeps EvaluationRecord.key EvaluationRecord.content EvaluationRecord.shown s call
      (recordEvaluation s call) := by
  cases hheld : s.get? call.record.key with
  | none =>
    rw [recordEvaluation_of_new hheld]
    exact .new _ hheld (stamped_content _ _)
  | some held =>
    by_cases hsame : held.shown = (call.record.stamped call.now).shown
    · rw [recordEvaluation_of_same hheld hsame]
      refine .again held _ _ hheld (stamped_content _ _) hsame.symm fun k => ?_
      by_cases hk : call.record.key = k
      · subst hk
        rw [s.get?_set_self, hheld, Option.map_some, Option.map_some, hsame]
      · rw [s.get?_set_ne hk]
    · obtain ⟨message, hrefused⟩ := recordEvaluation_of_differs hheld hsame
      rw [hrefused]
      exact .refused message

/-- An accepted evaluation is answered with its creation time filled in. -/
theorem eq_stamped_of_accepted {accepted : EvaluationRecord}
    (h : (recordEvaluation s call).2 = .ok accepted) : accepted = call.record.stamped call.now := by
  cases hheld : s.get? call.record.key with
  | none =>
    rw [recordEvaluation_of_new hheld] at h
    exact (Except.ok.inj h).symm
  | some held =>
    by_cases hsame : held.shown = (call.record.stamped call.now).shown
    · rw [recordEvaluation_of_same hheld hsame] at h
      exact (Except.ok.inj h).symm
    · obtain ⟨message, hrefused⟩ := recordEvaluation_of_differs hheld hsame
      rw [hrefused] at h
      cases h

/-- The steps of the evaluation registry. -/
abbrev EvaluationStep := Recording EvaluationRecord (String × String)

/-- A call repeats a record without a creation time that was accepted when the clock showed the time that is
kept; now the clock shows another. -/
def Restamped (past : List EvaluationStep) (step : EvaluationStep) : Prop :=
  step.input.record.createdAt = "" ∧ ∃ held, step.before.get? step.input.record.key = some held ∧
    held.content = step.input.record.content ∧ held.createdAt ≠ step.input.now ∧
      ∃ earlier ∈ past, earlier.input = ⟨step.input.record, held.createdAt⟩

variable {calls : List (Submission EvaluationRecord)} {past rest : List EvaluationStep}
  {step : EvaluationStep}

/-- A call was accepted, or it differs from what is found under its key. -/
theorem accepted_or_differs (hsplit : trace recordEvaluation .empty calls = past ++ step :: rest)
    {earlier : EvaluationStep} (hearlier : earlier ∈ past) :
    ∃ held, step.before.get? earlier.input.record.key = some held ∧
      ((∃ accepted, earlier.output = .ok accepted) ∨
        held.shown ≠ (earlier.input.record.stamped earlier.input.now).shown) := by
  have hhistory := history_of_split (H := fun past s => ∀ earlier ∈ past,
      ∃ held : EvaluationRecord, s.get? earlier.input.record.key = some held ∧
        ((∃ accepted, earlier.output = .ok accepted) ∨
          held.shown ≠ (earlier.input.record.stamped earlier.input.now).shown))
    (fun past s call hpast earlier hmem => by
      rcases List.mem_append.mp hmem with hmem | hmem
      · obtain ⟨held, hheld, hcase⟩ := hpast earlier hmem
        obtain ⟨held', hheld', hshown⟩ := (recordEvaluation_keeps s call).shown_kept hheld
        exact ⟨held', hheld', hcase.imp_right fun hdiffers => hshown ▸ hdiffers⟩
      · rw [List.mem_singleton.mp hmem]
        cases hheld : s.get? call.record.key with
        | none =>
          refine ⟨call.record.stamped call.now, ?_, .inl ⟨call.record.stamped call.now, ?_⟩⟩
          · rw [recordEvaluation_of_new hheld]
            exact s.get?_set_self _ _
          · simp only [stepOf, recordEvaluation_of_new hheld]
        | some held =>
          by_cases hsame : held.shown = (call.record.stamped call.now).shown
          · refine ⟨call.record.stamped call.now, ?_, .inl ⟨call.record.stamped call.now, ?_⟩⟩
            · rw [recordEvaluation_of_same hheld hsame]
              exact s.get?_set_self _ _
            · simp only [stepOf, recordEvaluation_of_same hheld hsame]
          · obtain ⟨message, hrefused⟩ := recordEvaluation_of_differs hheld hsame
            refine ⟨held, ?_, .inr hsame⟩
            rw [hrefused]
            exact hheld)
    [] (fun _ hmem => absurd hmem List.not_mem_nil) hsplit
  exact hhistory earlier hearlier

/-- The evaluation registry leaves the evidence as it is at every call that does not fill in another time. -/
theorem faithful_evaluation_iff (hsplit : trace recordEvaluation .empty calls = past ++ step :: rest) :
    Faithful EvaluationRecord.key EvaluationRecord.content EvaluationRecord.shown past step ↔
      ¬ Restamped past step := by
  have houtput : step.output = (recordEvaluation step.before step.input).2 :=
    congrArg Step.output (step_eq hsplit)
  have hafter : step.after = (recordEvaluation step.before step.input).1 :=
    congrArg Step.after (step_eq hsplit)
  constructor
  · rintro hfaithful ⟨hempty, held, hheld, hcontent, hnow, earlier, hearlier, hinput⟩
    -- the earlier call had the time that is kept, so it was accepted
    obtain ⟨held', hheld', hcase⟩ := accepted_or_differs hsplit hearlier
    rw [hinput] at hheld' hcase
    obtain rfl := Option.some.inj (hheld.symm.trans hheld')
    have haccepted : ∃ accepted, earlier.output = .ok accepted := by
      refine hcase.resolve_right fun hdiffers => hdiffers ?_
      rw [shown_stamped, if_pos hempty, ← hcontent]
      rfl
    obtain ⟨_, answer, -, hanswer, -⟩ := hfaithful.again earlier hearlier (by rw [hinput]) haccepted
    have hdiffers : held.shown ≠ (step.input.record.stamped step.input.now).shown := by
      rw [shown_stamped, if_pos hempty]
      exact fun heq => hnow (congrArg Prod.snd heq)
    obtain ⟨message, hrefused⟩ := recordEvaluation_of_differs hheld hdiffers
    rw [houtput, hrefused] at hanswer
    cases hanswer
  · intro hrestamped
    refine ⟨fun earlier hearlier first _ hfirst =>
      first_kept recordEvaluation_keeps hsplit hearlier hfirst,
      fun earlier hearlier hsame haccepted => ?_, fun held hheld hother => ?_⟩
    · obtain ⟨accepted, haccepted⟩ := haccepted
      obtain ⟨hcontent, held, hheld, hshown⟩ :=
        accepted_held recordEvaluation_keeps hsplit hearlier haccepted
      have hearlierStep := (invariant_of_mem_trace (I := fun _ => True) (fun _ _ _ => trivial) trivial
        (hsplit ▸ List.mem_append_left _ hearlier)).2
      have hstamped : accepted = earlier.input.record.stamped earlier.input.now :=
        eq_stamped_of_accepted ((congrArg Step.output hearlierStep).symm.trans haccepted)
      rw [hsame] at hheld hstamped
      rw [hstamped] at hshown
      have hagain : held.shown = (step.input.record.stamped step.input.now).shown := by
        rw [hshown, shown_stamped, shown_stamped]
        by_cases hempty : step.input.record.createdAt = ""
        · -- the time was filled in then, so it must be the same one now
          rw [if_pos hempty, if_pos hempty]
          by_contra hne
          rw [shown_stamped, if_pos hempty] at hshown
          have hcreated : held.createdAt = earlier.input.now := congrArg Prod.snd hshown
          have hheldContent : held.content = step.input.record.content := congrArg Prod.fst hshown
          refine hrestamped ⟨hempty, held, hheld, hheldContent, fun hnow => hne ?_, earlier, hearlier, ?_⟩
          · rw [← hcreated, hnow]
          · rw [hcreated, ← hsame]
        · rw [if_neg hempty, if_neg hempty]
      refine ⟨held, _, hheld, ?_, hagain.symm⟩
      rw [houtput, recordEvaluation_of_same hheld hagain]
    · have hdiffers : held.shown ≠ (step.input.record.stamped step.input.now).shown := by
        rw [shown_stamped]
        exact fun heq => hother (congrArg Prod.fst heq)
      obtain ⟨message, hrefused⟩ := recordEvaluation_of_differs hheld hdiffers
      rw [hafter, houtput, hrefused]
      exact ⟨rfl, message, rfl⟩

/-- In runs of both registries the evidence stays as it is at every call exactly when no evaluation is given
another creation time. -/
theorem evidence_immutable_iff (evaluations : List (Submission EvaluationRecord))
    (prompts : List (Submission PromptVersion)) :
    ((∀ past step rest, trace recordEvaluation .empty evaluations = past ++ step :: rest →
        Faithful EvaluationRecord.key EvaluationRecord.content EvaluationRecord.shown past step) ∧
      ∀ past step rest, trace recordPrompt .empty prompts = past ++ step :: rest →
        Faithful PromptVersion.key promptIdentity id past step) ↔
      ∀ past step rest, trace recordEvaluation .empty evaluations = past ++ step :: rest →
        ¬ Restamped past step := by
  constructor
  · intro hfaithful past step rest hsplit
    exact (faithful_evaluation_iff hsplit).mp (hfaithful.1 past step rest hsplit)
  · intro hrestamped
    refine ⟨fun past step rest hsplit => ?_, fun past step rest hsplit => faithful_prompt hsplit⟩
    exact (faithful_evaluation_iff hsplit).mpr (hrestamped past step rest hsplit)

/-- The evaluation `eval_1` of `tenant_1`, without a creation time. -/
def bareEvaluation : EvaluationRecord where
  id := "eval_1"
  tenantId := "tenant_1"
  passRate := ⟨.finite (9 / 10), "0.9"⟩
  gatePassed := true
  createdAt := ""
  id_ne := by decide +kernel
  tenantId_ne := by decide +kernel
  rate := by decide +kernel

/-- The same evaluation is handed in again a second later. -/
theorem evaluation_retry_refused :
    ¬ ∀ past step rest, trace recordEvaluation .empty
        [⟨bareEvaluation, "2026-07-01T09:00:00+00:00"⟩, ⟨bareEvaluation, "2026-07-01T09:00:01+00:00"⟩] =
          past ++ step :: rest →
      Faithful EvaluationRecord.key EvaluationRecord.content EvaluationRecord.shown past step := by
  intro hfaithful
  have hsplit : trace recordEvaluation .empty
      [⟨bareEvaluation, "2026-07-01T09:00:00+00:00"⟩, ⟨bareEvaluation, "2026-07-01T09:00:01+00:00"⟩] =
        [stepOf recordEvaluation .empty ⟨bareEvaluation, "2026-07-01T09:00:00+00:00"⟩] ++
          stepOf recordEvaluation
            (recordEvaluation .empty ⟨bareEvaluation, "2026-07-01T09:00:00+00:00"⟩).1
            ⟨bareEvaluation, "2026-07-01T09:00:01+00:00"⟩ :: [] := rfl
  refine (faithful_evaluation_iff hsplit).mp (hfaithful _ _ _ hsplit) ?_
  refine ⟨rfl, bareEvaluation.stamped "2026-07-01T09:00:00+00:00", ?_, rfl, ?_, _,
    List.mem_singleton_self _, rfl⟩
  · exact Dict.get?_set_self _ _ _
  · decide


end ShelfWise.Skills
