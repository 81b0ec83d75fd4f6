import ShelfWise.Decisions.Approval

/-!
# The integrity of verdicts

Sequences of review requests on one pending decision. The first request whose caller is admitted
fixes the status (`standing_final`), and a later one with the other verb should find nothing to do.
A late `approve_decision` does not; a late `reject_decision` leaves its correction on a decision that
was approved. `verdict_integrity_iff` says that nothing else goes wrong.
-/

namespace ShelfWise.Decisions

open Py Sys

/-- A decision that waits for its verdict, with no correction yet. -/
structure IsPending (id : String) (decision : Decision) (s : Desk) : Prop where
  stored : s.decisions.get? id = some decision
  status : Value.get decision "status" = .str "pending"
  correction : Value.get decision "correction" = .none

/-- The first request that gets past the check of its caller. -/
def firstAdmitted (auth : AuthMode) (decision : Decision) (requests : List ReviewRequest) :
    Option ReviewRequest :=
  requests.find? fun r => Admitted auth decision r.verified

/-- The decision after a sequence of requests. -/
def decisionAfter (auth : AuthMode) (id : String) (s : Desk) (requests : List ReviewRequest) :
    Option Decision :=
  (final (serve auth id) s requests).decisions.get? id

/-- The law of the two routes. -/
structure VerdictIntegrity (auth : AuthMode) (id : String) (decision : Decision) (s : Desk)
    (requests : List ReviewRequest) : Prop where
  fixed : ∀ pre post first, requests = pre ++ post → firstAdmitted auth decision pre = some first →
    ∃ d, decisionAfter auth id s pre = some d ∧ Value.get d "status" = .str first.verb.status
  unchanged : ∀ pre r post first, requests = pre ++ r :: post →
    firstAdmitted auth decision pre = some first → r.verb = first.verb.other →
    decisionAfter auth id s (pre ++ [r]) = decisionAfter auth id s pre
  correction : ∀ pre post d items, requests = pre ++ post → decisionAfter auth id s pre = some d →
    Value.get d "correction" = .dict items →
    ∃ first, firstAdmitted auth decision pre = some first ∧
      Value.get items "decision" = .str first.verb.value

/-- No request to reject the decision brings a correction once the decision is approved. -/
def NoLateCorrection (auth : AuthMode) (decision : Decision) (requests : List ReviewRequest) :
    Prop :=
  ∀ pre r post first, requests = pre ++ r :: post → firstAdmitted auth decision pre = some first →
    first.verb = .approve → r.verb = .reject → Admitted auth decision r.verified →
    r.correction = none

/-! ## The status -/

theorem admitted_congr (auth : AuthMode) {d d' : Decision}
    (h : Value.get d "tenant_id" = Value.get d' "tenant_id") (verified : TenantContext) :
    Admitted auth d verified ↔ Admitted auth d' verified := by
  have hstamped : stampedTenant d = stampedTenant d' := by
    unfold stampedTenant
    rw [h]
  cases auth with
  | off context => exact Iff.rfl
  | jwt =>
    unfold Admitted ownedBy
    rw [hstamped]

/-- What a sequence of requests has made of the decision, by the first request that was admitted. -/
structure Standing (decision : Decision) (first : Option ReviewRequest) (d : Decision) : Prop where
  tenant : Value.get d "tenant_id" = Value.get decision "tenant_id"
  untouched : first = none → d = decision
  status : ∀ r, first = some r → Value.get d "status" = .str r.verb.status

theorem other_ne (verb : Verb) : verb.other ≠ verb := by
  cases verb <;> decide

theorem eq_or_eq_other (verb verb' : Verb) : verb = verb' ∨ verb = verb'.other := by
  cases verb <;> cases verb' <;> decide

theorem other_status_inj {verb verb' : Verb} (h : verb.status = verb'.other.status) :
    verb = verb'.other := by
  revert h
  cases verb <;> cases verb' <;> decide

theorem isReviewStatus_status (verb : Verb) : isReviewStatus verb.status := by
  cases verb
  · exact .inr (.inl rfl)
  · exact .inr (.inr rfl)

theorem firstAdmitted_append (auth : AuthMode) (decision : Decision) (pre : List ReviewRequest)
    (r : ReviewRequest) : firstAdmitted auth decision (pre ++ [r]) =
      (firstAdmitted auth decision pre).or
        (if Admitted auth decision r.verified then some r else none) := by
  rw [firstAdmitted, List.find?_append, List.find?_singleton, firstAdmitted]
  by_cases hadmitted : Admitted auth decision r.verified <;> simp [hadmitted]

theorem decisionAfter_append (auth : AuthMode) (id : String) (s : Desk) (pre : List ReviewRequest)
    (r : ReviewRequest) : decisionAfter auth id s (pre ++ [r]) =
      (serve auth id (final (serve auth id) s pre) r).1.decisions.get? id := by
  rw [decisionAfter, final_append]
  rfl

section

variable {auth : AuthMode} {id : String} {decision : Decision} {s : Desk}

/-- One more request, by what the earlier ones have made of the decision. -/
theorem served_of_standing (hpending : IsPending id decision s) {pre : List ReviewRequest}
    {d : Decision} (hd : decisionAfter auth id s pre = some d)
    (hstanding : Standing decision (firstAdmitted auth decision pre) d) (r : ReviewRequest) :
    ∃ after, decisionAfter auth id s (pre ++ [r]) = some after ∧
      (¬ Admitted auth decision r.verified → after = d) ∧
      (Admitted auth decision r.verified →
        (∀ first, firstAdmitted auth decision pre = some first → r.verb = first.verb) →
          Settled r d after) ∧
      (∀ first, Admitted auth decision r.verified → firstAdmitted auth decision pre = some first →
        r.verb = first.verb.other → after = if r.verb = .reject then lateRejected r d else d) := by
  have htenant := admitted_congr auth hstanding.tenant r.verified
  cases hfirst : firstAdmitted auth decision pre with
  | none =>
    have hstatus : Value.get d "status" = .str "pending" := by
      rw [hstanding.untouched hfirst]
      exact hpending.status
    obtain ⟨after, hafter, hserved⟩ := served r hd hstatus (.inl rfl)
    refine ⟨after, (decisionAfter_append auth id s pre r).trans hafter, ?_, ?_, ?_⟩
    · exact fun hnot => hserved.refused fun h => hnot (htenant.mp h)
    · intro hadmitted _
      refine hserved.settled (htenant.mpr hadmitted) ?_
      cases r.verb <;> decide
    · intro first _ h
      cases h
  | some first =>
    have hstatus := hstanding.status first hfirst
    obtain ⟨after, hafter, hserved⟩ := served r hd hstatus (isReviewStatus_status _)
    refine ⟨after, (decisionAfter_append auth id s pre r).trans hafter, ?_, ?_, ?_⟩
    · exact fun hnot => hserved.refused fun h => hnot (htenant.mp h)
    · intro hadmitted hsame
      refine hserved.settled (htenant.mpr hadmitted) fun hother => ?_
      have hverb := other_status_inj hother
      rw [hsame first rfl] at hverb
      exact other_ne _ hverb.symm
    · intro first' hadmitted h hother
      cases h
      refine hserved.late (htenant.mpr hadmitted) ?_
      rw [hother]
      cases first.verb <;> rfl

variable (auth) in
/-- The first admitted request fixes the status of the decision. -/
theorem standing_final (hpending : IsPending id decision s) (pre : List ReviewRequest) :
    ∃ d, decisionAfter auth id s pre = some d ∧
      Standing decision (firstAdmitted auth decision pre) d := by
  induction pre using List.reverseRecOn with
  | nil => exact ⟨decision, hpending.stored, rfl, fun _ => rfl, fun _ h => nomatch h⟩
  | append_singleton pre r ih =>
    obtain ⟨d, hd, hstanding⟩ := ih
    obtain ⟨after, hafter, hrefused, hsettled, hlate⟩ := served_of_standing hpending hd hstanding r
    refine ⟨after, hafter, ?_⟩
    rw [firstAdmitted_append]
    by_cases hadmitted : Admitted auth decision r.verified
    · rw [if_pos hadmitted]
      cases hfirst : firstAdmitted auth decision pre with
      | none =>
        have hs := hsettled hadmitted fun first h => by rw [hfirst] at h; cases h
        refine ⟨hs.tenant.trans hstanding.tenant, fun h => (nomatch h), fun f hf => ?_⟩
        cases hf
        exact hs.status
      | some first =>
        rcases eq_or_eq_other r.verb first.verb with hverb | hverb
        · have hs := hsettled hadmitted fun f hf => by
            rw [hfirst] at hf
            cases hf
            exact hverb
          refine ⟨hs.tenant.trans hstanding.tenant, fun h => (nomatch h), fun f hf => ?_⟩
          cases hf
          rw [← hverb]
          exact hs.status
        · -- a late request keeps the status, whatever else it does
          have hafter := hlate first hadmitted hfirst hverb
          have hkept : ∀ key ∈ ["status", "tenant_id"], Value.get after key = Value.get d key := by
            intro key hkey
            rw [hafter]
            split
            · unfold lateRejected
              split
              · rfl
              · apply get_annotated_of_not_mem
                simp only [List.mem_cons, List.not_mem_nil, or_false] at hkey
                rcases hkey with rfl | rfl <;> simp
            · rfl
          refine ⟨(hkept "tenant_id" (by decide)).trans hstanding.tenant, fun h => (nomatch h),
            fun f hf => ?_⟩
          cases hf
          rw [hkept "status" (by decide)]
          exact hstanding.status first hfirst
    · rw [if_neg hadmitted, Option.or_none, hrefused hadmitted]
      exact hstanding

/-! ## Corrections -/

/-- A late request changes nothing, unless it brings a correction to a decision that was approved. -/
theorem late_unchanged {requests : List ReviewRequest}
    (hcorrections : NoLateCorrection auth decision requests) {pre post : List ReviewRequest}
    {r first : ReviewRequest} (hsplit : requests = pre ++ r :: post)
    (hfirst : firstAdmitted auth decision pre = some first) (hverb : r.verb = first.verb.other)
    (hadmitted : Admitted auth decision r.verified) (d : Decision) :
    (if r.verb = .reject then lateRejected r d else d) = d := by
  split
  · rename_i hreject
    have happrove : first.verb = .approve := by
      rw [hreject] at hverb
      cases hfirstVerb : first.verb with
      | approve => rfl
      | reject =>
        rw [hfirstVerb] at hverb
        cases hverb
    rw [lateRejected, hcorrections pre r post first hsplit hfirst happrove hreject hadmitted]
  · rfl

/-- A correction on the decision is one of the verb that was first. -/
theorem correction_of_first (hpending : IsPending id decision s) {requests : List ReviewRequest}
    (hcorrections : NoLateCorrection auth decision requests) (pre : List ReviewRequest) :
    ∀ post d items, requests = pre ++ post → decisionAfter auth id s pre = some d →
      Value.get d "correction" = .dict items →
      ∃ first, firstAdmitted auth decision pre = some first ∧
        Value.get items "decision" = .str first.verb.value := by
  induction pre using List.reverseRecOn with
  | nil =>
    intro post d items _ hd hitems
    have hsame : decision = d := Option.some.inj (hpending.stored.symm.trans hd)
    rw [← hsame, hpending.correction] at hitems
    cases hitems
  | append_singleton pre r ih =>
    intro post after items hsplit hafter hitems
    rw [List.append_assoc] at hsplit
    obtain ⟨d, hd, hstanding⟩ := standing_final auth hpending pre
    obtain ⟨after', hafter', hrefused, hsettled, hlate⟩ := served_of_standing hpending hd hstanding r
    have hsame : after' = after := Option.some.inj (hafter'.symm.trans hafter)
    rw [hsame] at hrefused hsettled hlate
    rw [firstAdmitted_append]
    by_cases hadmitted : Admitted auth decision r.verified
    · rw [if_pos hadmitted]
      -- what a request of the first verb leaves is what was there, or a correction of its own
      have hown : ∀ first : ReviewRequest, Settled r d after → r.verb = first.verb →
          (Value.get d "correction" = .dict items →
            Value.get items "decision" = .str first.verb.value) →
          Value.get items "decision" = .str first.verb.value := by
        intro first hs hverb hbefore
        rcases hs.correction with hkept | ⟨own, hown, hdict⟩
        · exact hbefore (hkept.symm.trans hitems)
        · have hitemsOwn : own = items := Value.dict.inj (hdict.symm.trans hitems)
          rw [← hitemsOwn, ReviewRequest.decision_correction hown, hverb]
      cases hfirst : firstAdmitted auth decision pre with
      | none =>
        refine ⟨r, rfl, hown r (hsettled hadmitted ?_) rfl fun hbefore => ?_⟩
        · intro first h
          rw [hfirst] at h
          cases h
        · obtain ⟨first, h, -⟩ := ih _ d items hsplit hd hbefore
          rw [hfirst] at h
          cases h
      | some first =>
        have hbefore : Value.get d "correction" = .dict items →
            Value.get items "decision" = .str first.verb.value := by
          intro hd'
          obtain ⟨first', h, hdecision⟩ := ih _ d items hsplit hd hd'
          rw [hfirst] at h
          cases h
          exact hdecision
        refine ⟨first, rfl, ?_⟩
        rcases eq_or_eq_other r.verb first.verb with hverb | hverb
        · refine hown first (hsettled hadmitted fun f hf => ?_) hverb hbefore
          rw [hfirst] at hf
          cases hf
          exact hverb
        · have hunchanged := (hlate first hadmitted hfirst hverb).trans
            (late_unchanged hcorrections hsplit hfirst hverb hadmitted d)
          exact hbefore (hunchanged ▸ hitems)
    · rw [if_neg hadmitted, Option.or_none]
      exact ih _ d items hsplit hd (hrefused hadmitted ▸ hitems)

end

/-- **Integrity of verdicts.** For every sequence of review requests on a pending decision, the
first admitted one fixes the status, later ones of the other verb change nothing and a correction is
one of the first verb, exactly when no request to reject brings a correction once the decision is
approved. -/
theorem verdict_integrity_iff (auth : AuthMode) (id : String) (decision : Decision) (s : Desk)
    (hpending : IsPending id decision s) (requests : List ReviewRequest) :
    VerdictIntegrity auth id decision s requests ↔ NoLateCorrection auth decision requests := by
  constructor
  · intro h pre r post first hsplit hfirst happrove hreject hadmitted
    cases hcorrection : r.correction with
    | none => rfl
    | some items =>
      exfalso
      obtain ⟨d, hd, hstanding⟩ := standing_final auth hpending pre
      obtain ⟨after, hafter, -, -, hlate⟩ := served_of_standing hpending hd hstanding r
      have hlate := hlate first hadmitted hfirst (by rw [happrove]; exact hreject)
      have hdict : Value.get after "correction" = .dict items := by
        rw [hlate, if_pos hreject, lateRejected, hcorrection]
        exact get_annotated_last r.now d [] (by decide) _
      obtain ⟨first', hfirst', hdecision⟩ :=
        h.correction (pre ++ [r]) post after items (by simp [hsplit]) hafter hdict
      rw [firstAdmitted_append, hfirst, Option.some_or, Option.some.injEq] at hfirst'
      rw [← hfirst', happrove, ReviewRequest.decision_correction hcorrection, hreject] at hdecision
      revert hdecision
      decide
  · intro hcorrections
    constructor
    · intro pre post first _ hfirst
      obtain ⟨d, hd, hstanding⟩ := standing_final auth hpending pre
      exact ⟨d, hd, hstanding.status first hfirst⟩
    · intro pre r post first hsplit hfirst hverb
      obtain ⟨d, hd, hstanding⟩ := standing_final auth hpending pre
      obtain ⟨after, hafter, hrefused, -, hlate⟩ := served_of_standing hpending hd hstanding r
      rw [hafter, hd, Option.some.injEq]
      by_cases hadmitted : Admitted auth decision r.verified
      · exact (hlate first hadmitted hfirst hverb).trans
          (late_unchanged hcorrections hsplit hfirst hverb hadmitted d)
      · exact hrefused hadmitted
    · intro pre post d items
      exact correction_of_first hpending hcorrections pre post d items

/-- A pending markdown decision, and stores that hold nothing else. -/
def markdownDecision : Decision :=
  [("id", .str "dec_markdown"), ("status", .str "pending"), ("tenant_id", .str "shop"),
    ("data_domain", .str "operational_twin"),
    ("action", .dict [("type", .str "apply_markdown"), ("params", .dict [("sku", .str "4011")])]),
    ("expected_outcome", .dict [("predicted_sell_through_units", .int 10)])]

/-- The stores before the first request. -/
def markdownDesk : Desk :=
  ⟨Dict.empty.set "dec_markdown" markdownDecision, ⟨Dict.empty, Dict.empty⟩, Dict.empty⟩

theorem markdownDesk_isPending : IsPending "dec_markdown" markdownDecision markdownDesk :=
  ⟨by decide +kernel, by decide +kernel, by decide +kernel⟩

/-- Two approvals of the decision, the second one with a reason. -/
def approvals : List ReviewRequest :=
  [⟨.approve, "2026-07-01T00:00:01+00:00", ⟨"shop", "ana"⟩, none⟩,
    ⟨.approve, "2026-07-01T00:00:02+00:00", ⟨"shop", "ben"⟩, some ⟨none, some "fair", none⟩⟩]

theorem verdict_integrity_iff_approvals :
    VerdictIntegrity .jwt "dec_markdown" markdownDecision markdownDesk approvals := by
  refine (verdict_integrity_iff .jwt "dec_markdown" markdownDecision markdownDesk
    markdownDesk_isPending approvals).mpr ?_
  intro pre r post first hsplit _ _ hreject _
  have hmem : r ∈ approvals := by
    rw [hsplit]
    exact List.mem_append_right pre List.mem_cons_self
  simp only [approvals, List.mem_cons, List.not_mem_nil, or_false] at hmem
  rcases hmem with rfl | rfl <;> cases hreject

/-- An approval. -/
def approval : ReviewRequest := ⟨.approve, "2026-07-01T00:00:01+00:00", ⟨"shop", "ana"⟩, none⟩

/-- A rejection that gives a reason. -/
def rejection : ReviewRequest :=
  ⟨.reject, "2026-07-01T00:00:02+00:00", ⟨"shop", "ben"⟩, some ⟨none, some "too cheap", none⟩⟩

/-- A rejection with a reason, after the approval: the approved decision then carries a correction
that says it was rejected. -/
theorem verdict_integrity_late_rejection :
    ¬ VerdictIntegrity .jwt "dec_markdown" markdownDecision markdownDesk [approval, rejection] := by
  intro h
  have hchanged := h.unchanged [approval] rejection [] approval rfl (by decide +kernel) rfl
  revert hchanged
  decide +kernel

end ShelfWise.Decisions
