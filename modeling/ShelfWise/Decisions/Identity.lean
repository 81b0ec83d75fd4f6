import ShelfWise.Contracts.Event
import ShelfWise.Decisions.Store
import ShelfWise.Sys.Run

/-!
# The identity of decisions

`_decision_id` of `shelfwise_backend/cascade.py`: the id of the decision of an event joins the slugs
of its tenant, its domain and its own id with the character that a slug also has in place of others.
`decisionId_eq_iff` says exactly when two events get one id.

The store knows a decision by that id alone. `isolation_iff` says for every sequence of calls of the
store when the upsert of a decision leaves the decisions of other events alone.
-/

namespace ShelfWise.Cascade

open Py

/-! ## Slugs -/

/-- `text.strip("_")`. -/
def stripUnderscores (cs : List Char) : List Char :=
  (cs.dropWhile (· = '_')).rdropWhile (· = '_')

/-- `_slug`. -/
def slug (tables : CharTables) (value : String) : String :=
  let clean := (tables.lowerText (strip value)).toList.map fun c =>
    if tables.isalnum c then c else '_'
  let stripped := String.ofList (stripUnderscores clean)
  if stripped = "" then "cold_chain_alert" else stripped

/-- `_decision_id` of an event. -/
def decisionId (tables : CharTables) (event : Event) : String :=
  "dec_" ++ slug tables event.tenantId ++ "_" ++ slug tables event.dataDomain.value ++ "_" ++
    slug tables event.id

/-- What makes an event another event: its tenant, its domain or its id. -/
def identity (event : Event) : String × DataDomain × String :=
  (event.tenantId, event.dataDomain, event.id)

/-- The tenant of `e` looks like the tenant and the domain of `e'`, and the id of `e'` like the domain
and the id of `e`, with some text `v` between them, or with a word that both domains have. -/
def Absorbs (tables : CharTables) (e e' : Event) : Prop :=
  (slug tables e.tenantId = slug tables e'.tenantId ++ "_" ++ e'.dataDomain.value ∧
    slug tables e'.id = e.dataDomain.value ++ "_" ++ slug tables e.id) ∨
  (∃ v, slug tables e.tenantId = slug tables e'.tenantId ++ "_" ++ e'.dataDomain.value ++ "_" ++ v ∧
    slug tables e'.id = v ++ "_" ++ e.dataDomain.value ++ "_" ++ slug tables e.id) ∨
  (e.dataDomain = .twinScenario ∧ e'.dataDomain = .operationalTwin ∧
    slug tables e.tenantId = slug tables e'.tenantId ++ "_operational" ∧
    slug tables e'.id = "scenario_" ++ slug tables e.id)

/-- The slugs cannot tell the events apart. -/
def Collide (tables : CharTables) (e e' : Event) : Prop :=
  (slug tables e.tenantId = slug tables e'.tenantId ∧ e.dataDomain = e'.dataDomain ∧
    slug tables e.id = slug tables e'.id) ∨ Absorbs tables e e' ∨ Absorbs tables e' e

/-! ## Domains -/

/-- The two words of a domain. -/
def domainWords : DataDomain → List Char × List Char
  | .operationalTwin => ("operational".toList, "twin".toList)
  | .worldSimulation => ("world".toList, "simulation".toList)
  | .trainingFixture => ("training".toList, "fixture".toList)
  | .twinScenario => ("twin".toList, "scenario".toList)

theorem value_eq_words (d : DataDomain) :
    d.value.toList = (domainWords d).1 ++ '_' :: (domainWords d).2 := by
  cases d <;> decide

theorem not_mem_domainWords (d : DataDomain) :
    '_' ∉ (domainWords d).1 ∧ '_' ∉ (domainWords d).2 := by
  cases d <;> decide

theorem value_inj {d d' : DataDomain} (h : d.value.toList = d'.value.toList) : d = d' := by
  revert h
  cases d <;> cases d' <;> decide

/-- The slug of a domain is its value. -/
theorem slug_value (tables : CharTables) (d : DataDomain) : slug tables d.value = d.value := by
  have hstrip : strip d.value = d.value := by cases d <;> decide +kernel
  have hascii : d.value.toList.all CharTables.isAscii = true := by cases d <;> decide
  have hlower : d.value.toList.map Char.toLower = d.value.toList := by cases d <;> decide
  have hclean : (d.value.toList.map fun c => if tables.isalnum c then c else '_') =
      d.value.toList := by
    have hascii' : ∀ c ∈ d.value.toList, (if tables.isalnum c then c else '_') =
        if c.isAlphanum then c else '_' := by
      intro c hc
      rw [tables.isalnum_of_ascii (List.all_eq_true.mp hascii c hc)]
    rw [List.map_congr_left hascii']
    cases d <;> decide
  have hunderscores : stripUnderscores d.value.toList = d.value.toList := by cases d <;> decide
  have hne : d.value ≠ "" := by cases d <;> decide
  unfold slug
  simp only [hstrip, tables.lowerText_of_ascii hascii, hlower, String.ofList_toList, hclean,
    hunderscores, hne, if_false]

/-- A cut of a domain at an underscore is the one between its words. -/
theorem domain_cut {d : DataDomain} {w v : List Char} (h : d.value.toList = w ++ '_' :: v) :
    w = (domainWords d).1 ∧ v = (domainWords d).2 := by
  rw [value_eq_words, append_cons_eq_iff] at h
  rcases h with ⟨hw, hv⟩ | ⟨x, hw, -⟩ | ⟨x, -, hv⟩
  · exact ⟨hw.symm, hv.symm⟩
  · exact absurd (hw ▸ by simp) (not_mem_domainWords d).1
  · exact absurd (hv ▸ by simp) (not_mem_domainWords d).2

/-- Domains in front of an underscore are told apart. -/
theorem domain_append_inj {d d' : DataDomain} {b b' : List Char} :
    d.value.toList ++ '_' :: b = d'.value.toList ++ '_' :: b' ↔ d = d' ∧ b = b' := by
  constructor
  · intro h
    rcases (append_cons_eq_iff '_' _ _ _ _).mp h with ⟨hd, hb⟩ | ⟨w, hd, -⟩ | ⟨w, hd, -⟩
    · exact ⟨value_inj hd, hb⟩
    · -- a domain has one underscore, not two
      have hcut := (domain_cut hd).1
      exact absurd (hcut ▸ by rw [value_eq_words]; simp) (not_mem_domainWords d).1
    · have hcut := (domain_cut hd).1
      exact absurd (hcut ▸ by rw [value_eq_words]; simp) (not_mem_domainWords d').1
  · rintro ⟨rfl, rfl⟩
    rfl

/-! ## Equal ids -/

theorem toList_decisionId (tables : CharTables) (e : Event) : (decisionId tables e).toList =
    "dec_".toList ++ ((slug tables e.tenantId).toList ++
      '_' :: (e.dataDomain.value.toList ++ '_' :: (slug tables e.id).toList)) := by
  simp [decisionId, slug_value, String.toList_append]

/-- The tenant of one event goes on where the tenant of the other one ends. -/
theorem absorbs_iff (tables : CharTables) (e e' : Event) :
    (∃ w, (slug tables e.tenantId).toList = (slug tables e'.tenantId).toList ++ '_' :: w ∧
      e'.dataDomain.value.toList ++ '_' :: (slug tables e'.id).toList =
        w ++ '_' :: (e.dataDomain.value.toList ++ '_' :: (slug tables e.id).toList)) ↔
      Absorbs tables e e' := by
  unfold Absorbs
  simp only [← String.toList_inj, String.toList_append]
  constructor
  · rintro ⟨w, htenant, hid⟩
    rcases (append_cons_eq_iff '_' _ _ _ _).mp hid with
      ⟨hw, hid⟩ | ⟨v, hdomain, hrest⟩ | ⟨v, hw, hid⟩
    · refine .inl ⟨?_, ?_⟩
      · simpa [← hw] using htenant
      · simpa using hid
    · -- the cut is inside the domain of `e'`, so its second word is the first one of `e`
      obtain ⟨hw, hv⟩ := domain_cut hdomain
      have hwords : '_' ∉ v := hv ▸ (not_mem_domainWords e'.dataDomain).2
      rcases (append_cons_eq_iff '_' _ _ _ _).mp hrest with
        ⟨hd, -⟩ | ⟨x, hd, hid⟩ | ⟨x, hd, -⟩
      · rw [← hd, value_eq_words] at hwords
        exact absurd (by simp) hwords
      · obtain ⟨hv', hx⟩ := domain_cut hd
        have hboth : e.dataDomain = .twinScenario ∧ e'.dataDomain = .operationalTwin := by
          rw [hv] at hv'
          revert hv'
          cases e.dataDomain <;> cases e'.dataDomain <;> decide
        obtain ⟨hdomain, hdomain'⟩ := hboth
        refine .inr (.inr ⟨hdomain, hdomain', ?_, ?_⟩)
        · rw [hdomain'] at hw
          rw [htenant, hw]
          rfl
        · rw [hdomain] at hx
          rw [hid, hx]
          rfl
      · exact absurd (hd ▸ by simp) hwords
    · refine .inr (.inl ⟨String.ofList v, ?_, ?_⟩)
      · simpa [hw] using htenant
      · simpa using hid
  · rintro (⟨htenant, hid⟩ | ⟨v, htenant, hid⟩ | ⟨hdomain, hdomain', htenant, hid⟩)
    · exact ⟨e'.dataDomain.value.toList, by simpa using htenant, by simp [hid]⟩
    · exact ⟨e'.dataDomain.value.toList ++ '_' :: v.toList, by simpa using htenant, by simp [hid]⟩
    · refine ⟨"operational".toList, htenant, ?_⟩
      rw [hid, hdomain, hdomain']
      rfl

/-- Two events get one id exactly when their slugs cannot tell them apart. -/
theorem decisionId_eq_iff (tables : CharTables) (e e' : Event) :
    decisionId tables e = decisionId tables e' ↔ Collide tables e e' := by
  rw [← String.toList_inj, toList_decisionId, toList_decisionId, List.append_cancel_left_eq,
    append_cons_eq_iff, absorbs_iff, absorbs_iff, domain_append_inj, Collide, String.toList_inj,
    String.toList_inj]

end ShelfWise.Cascade

namespace ShelfWise.Decisions

open Py Sys

/-! ## Calls of the store -/

/-- The decision that a cascade makes of an event. -/
structure EventDecision (tables : CharTables) where
  event : Event
  body : Decision
  nodup : (body.map Prod.fst).Nodup
  id_eq : Value.get body "id" = .str (Cascade.decisionId tables event)
  status_text : ∃ status, Value.get body "status" = .str status

/-- The calls of the store. An annotation is about other fields than the id and the status. -/
inductive StoreCall (tables : CharTables) where
  | upsert (now : String) (decision : EventDecision tables)
  | review (now id status reviewer : String)
  | annotate (now id : String) (fields : Decision) (id_status : ∀ key ∈ ["id", "status"],
      key ∉ "updated_at" :: fields.map Prod.fst)

/-- A call of the store, with the decision it returns. -/
def storeStep {tables : CharTables} (s : Store) : StoreCall tables → Store × Except Exc (Option Decision)
  | .upsert now decision =>
    let answer := upsert now decision.body s
    (answer.1, answer.2.map some)
  | .review now id status reviewer => transition now id status reviewer s
  | .annotate now id fields _ =>
    let answer := annotate now id fields s
    (answer.1, .ok answer.2)

/-- Every decision stands under its id, with a status in words. -/
def Labelled (s : Store) : Prop :=
  ∀ k d, s.get? k = some d → Value.get d "id" = .str k ∧ ∃ status, Value.get d "status" = .str status

theorem labelled_empty : Labelled Dict.empty := by
  intro k d h
  cases h

theorem labelled_set {s : Store} (h : Labelled s) {k : String} {d : Decision}
    (hid : Value.get d "id" = .str k) (hstatus : ∃ status, Value.get d "status" = .str status) :
    Labelled (s.set k d) := by
  intro k' d' hget
  rw [Dict.get?_set] at hget
  split at hget
  · rename_i heq
    cases hget
    exact ⟨heq ▸ hid, hstatus⟩
  · exact h k' d' hget

section

variable {tables : CharTables}

theorem decisionId_body (x : EventDecision tables) :
    decisionId x.body = Cascade.decisionId tables x.event := by
  have hmem := Value.mem_of_get x.id_eq (fun h => nomatch h)
  have hlookup := Dict.lookup_of_mem x.nodup hmem
  rw [decisionId, Value.getD, hlookup, Option.getD_some, Value.toText_str]

theorem cascade_decisionId_ne (tables : CharTables) (e : Event) :
    Cascade.decisionId tables e ≠ "" := by
  intro h
  have hlist := congrArg String.toList h
  rw [Cascade.toList_decisionId] at hlist
  cases hlist

theorem get_mergedRecord (now : String) (existing : Option Decision) (x : EventDecision tables)
    (key : String) (hkey : key ∈ ["id", "status"]) {text : String}
    (h : Value.get x.body key = .str text) :
    Value.get (mergedRecord now existing x.body) key = .str text := by
  have hapart : ∀ other ∈ ["data_domain", "created_at", "updated_at", "review"],
      other ∉ ["id", "status"] := by decide
  have hne : ∀ other ∈ ["data_domain", "created_at", "updated_at", "review"], other ≠ key :=
    fun other hother heq => hapart other hother (heq ▸ hkey)
  unfold mergedRecord
  simp only [Value.get_setDefault_of_ne (hne "review" (by decide)),
    Value.get_setDefault_of_ne (hne "updated_at" (by decide)),
    Value.get_setDefault_of_ne (hne "created_at" (by decide)),
    Value.get_setDefault_of_ne (hne "data_domain" (by decide))]
  exact Value.get_updateItems_of_mem x.nodup (Value.mem_of_get h fun h => by cases h) _

/-- An upsert returns the record under the id of the event, and leaves the other ones alone. -/
theorem upsert_spec {s : Store} (h : Labelled s) (now : String) (x : EventDecision tables) :
    Labelled (upsert now x.body s).1 ∧
      (∃ record, (upsert now x.body s).2 = .ok record ∧
        Value.get record "id" = .str (Cascade.decisionId tables x.event)) ∧
      ∀ k, Cascade.decisionId tables x.event ≠ k → (upsert now x.body s).1.get? k = s.get? k := by
  obtain ⟨text, htext⟩ := x.status_text
  have hmerged := get_mergedRecord now (s.get? (Cascade.decisionId tables x.event)) x
    "id" (by decide) x.id_eq
  have hstatus := get_mergedRecord now (s.get? (Cascade.decisionId tables x.event)) x
    "status" (by decide) htext
  unfold upsert
  rw [decisionId_body, if_neg (cascade_decisionId_ne tables x.event)]
  have hset : Labelled (s.set (Cascade.decisionId tables x.event)
      (mergedRecord now (s.get? (Cascade.decisionId tables x.event)) x.body)) :=
    labelled_set h hmerged ⟨text, hstatus⟩
  have hwritten : Labelled (s.set (Cascade.decisionId tables x.event)
        (mergedRecord now (s.get? (Cascade.decisionId tables x.event)) x.body)) ∧
      (∃ record, (Except.ok (mergedRecord now (s.get? (Cascade.decisionId tables x.event)) x.body) :
          Except Exc Decision) = .ok record ∧
        Value.get record "id" = .str (Cascade.decisionId tables x.event)) ∧
      ∀ k, Cascade.decisionId tables x.event ≠ k →
        (s.set (Cascade.decisionId tables x.event) (mergedRecord now
          (s.get? (Cascade.decisionId tables x.event)) x.body)).get? k = s.get? k :=
    ⟨hset, ⟨_, rfl, hmerged⟩, fun k hk => Dict.get?_set_ne s hk _⟩
  cases hget : s.get? (Cascade.decisionId tables x.event) with
  | none =>
    rw [hget] at hwritten
    exact hwritten
  | some existing =>
    obtain ⟨hid, status, hexisting⟩ := h _ existing hget
    cases existing with
    | nil => cases hid
    | cons item items =>
      have hterminal : isTerminal (some (item :: items)) =
          .ok (decide (status = "approved" ∨ status = "rejected")) := by
        rw [isTerminal, hexisting]
        · simp [isTerminalStatus]
        · simp
      rw [hterminal]
      by_cases hverdict : status = "approved" ∨ status = "rejected"
      · rw [decide_eq_true hverdict]
        exact ⟨h, ⟨_, rfl, hid⟩, fun _ _ => rfl⟩
      · rw [decide_eq_false hverdict]
        rw [hget] at hwritten
        exact hwritten

theorem labelled_storeStep {s : Store} (h : Labelled s) (call : StoreCall tables) :
    Labelled (storeStep s call).1 := by
  cases call with
  | upsert now x => exact (upsert_spec h now x).1
  | review now id status reviewer =>
    change Labelled (transition now id status reviewer s).1
    unfold transition
    cases hget : s.get? id with
    | none => exact h
    | some item =>
      obtain ⟨hid, status', hstatus⟩ := h id item hget
      dsimp only
      rw [hstatus]
      by_cases hverdict : Value.str status' = .str "approved" ∨ Value.str status' = .str "rejected"
      · simp only [isTerminalStatus, hverdict, decide_true]
        exact h
      · simp only [isTerminalStatus, hverdict, decide_false]
        refine labelled_set h ?_ ⟨status, get_reviewed_status _ _ _ _⟩
        rw [get_reviewed_of_not_mem _ _ _ _ (by decide)]
        exact hid
  | annotate now id fields id_status =>
    change Labelled (annotate now id fields s).1
    unfold annotate
    cases hget : s.get? id with
    | none => exact h
    | some item =>
      obtain ⟨hid, status', hstatus⟩ := h id item hget
      refine labelled_set h ?_ ⟨status', ?_⟩
      · rw [get_annotated_of_not_mem _ _ (id_status "id" (by decide))]
        exact hid
      · rw [get_annotated_of_not_mem _ _ (id_status "status" (by decide))]
        exact hstatus

theorem labelled_calls (calls : List (StoreCall tables)) :
    Labelled (final storeStep Dict.empty calls) :=
  invariant_final (I := Labelled) (f := storeStep) (fun _ call h => labelled_storeStep h call)
    labelled_empty calls

/-! ## Isolation -/

/-- An upsert leaves the decisions of other events alone: it neither writes to the record of one nor
returns it. -/
def Isolated (calls : List (StoreCall tables)) : Prop :=
  ∀ pre now x post, calls = pre ++ .upsert now x :: post → ∀ now' y, .upsert now' y ∈ pre →
    Cascade.identity y.event ≠ Cascade.identity x.event →
      (upsert now x.body (final storeStep Dict.empty pre)).1.get?
          (Cascade.decisionId tables y.event) =
        (final storeStep Dict.empty pre).get? (Cascade.decisionId tables y.event) ∧
      ∀ record, (upsert now x.body (final storeStep Dict.empty pre)).2 = .ok record →
        Value.get record "id" ≠ .str (Cascade.decisionId tables y.event)

/-- No two events whose decisions are stored are different and collide. -/
def Apart (calls : List (StoreCall tables)) : Prop :=
  ∀ pre now x post, calls = pre ++ .upsert now x :: post → ∀ now' y, .upsert now' y ∈ pre →
    Cascade.identity y.event ≠ Cascade.identity x.event → ¬ Cascade.Collide tables x.event y.event

/-- Upserts are isolated from each other exactly when their events do not collide. -/
theorem isolated_iff_apart (calls : List (StoreCall tables)) : Isolated calls ↔ Apart calls := by
  constructor
  · intro h pre now x post hsplit now' y hy hne hcollide
    obtain ⟨-, ⟨record, hanswer, hid⟩, -⟩ := upsert_spec (labelled_calls pre) now x
    have hsame := (Cascade.decisionId_eq_iff tables x.event y.event).mpr hcollide
    exact (h pre now x post hsplit now' y hy hne).2 record hanswer (hsame ▸ hid)
  · intro h pre now x post hsplit now' y hy hne
    obtain ⟨-, ⟨record, hanswer, hid⟩, hframe⟩ := upsert_spec (labelled_calls pre) now x
    have hdiffer : Cascade.decisionId tables x.event ≠ Cascade.decisionId tables y.event :=
      fun hsame => h pre now x post hsplit now' y hy hne
        ((Cascade.decisionId_eq_iff tables x.event y.event).mp hsame)
    refine ⟨hframe _ hdiffer, fun record' hrecord => ?_⟩
    rw [hanswer, Except.ok.injEq] at hrecord
    rw [← hrecord, hid]
    exact fun hsame => hdiffer (Value.str.inj hsame)

end

/-- **Identity of decisions.** Different events have different decision ids exactly when their slugs
do not collide, and in every sequence of calls of the store an upsert leaves the decisions of other
events alone exactly when no two different events of the sequence collide. -/
theorem decision_identity_iff (tables : CharTables) :
    (∀ e e', Cascade.identity e ≠ Cascade.identity e' →
      (Cascade.decisionId tables e ≠ Cascade.decisionId tables e' ↔
        ¬ Cascade.Collide tables e e')) ∧
      ∀ calls : List (StoreCall tables), Isolated calls ↔ Apart calls := by
  constructor
  · intro e e' _
    exact not_congr (Cascade.decisionId_eq_iff tables e e')
  · exact isolated_iff_apart

/-- Tables for text in ASCII. -/
def asciiTables : CharTables := ⟨fun _ => false, fun s => s⟩

/-- A delivery of a tenant. -/
def deliveryEvent (tenantId : String) (tenantId_ne : tenantId ≠ "") : Event where
  id := "evt_delivery_1"
  type := .stockUpdate
  ts := ⟨1000000, "2026-07-01T00:00:01+00:00"⟩
  actor := "wms"
  payload := []
  source := .api
  tenantId := tenantId
  dataDomain := .operationalTwin
  correlationId := "evt_delivery_1"
  causationId := none
  schemaVersion := "1"
  id_ne := by decide +kernel
  actor_ne := by decide +kernel
  tenantId_ne := tenantId_ne
  correlationId_ne := by decide +kernel

/-- The decision of a delivery. -/
def deliveryDecision (tenantId : String) (tenantId_ne : tenantId ≠ "")
    (h : Cascade.decisionId asciiTables (deliveryEvent tenantId tenantId_ne) =
      "dec_acme_za_operational_twin_evt_delivery_1") : EventDecision asciiTables where
  event := deliveryEvent tenantId tenantId_ne
  body := [("id", .str "dec_acme_za_operational_twin_evt_delivery_1"),
    ("status", .str "pending"), ("tenant_id", .str tenantId)]
  nodup := by
    change ["id", "status", "tenant_id"].Nodup
    decide
  id_eq := by
    rw [h]
    rfl
  status_text := ⟨"pending", rfl⟩

theorem acmeDot_ne : "acme.za" ≠ "" := by
  decide

theorem acmeDash_ne : "acme-za" ≠ "" := by
  decide

theorem decisionId_acmeDot : Cascade.decisionId asciiTables (deliveryEvent "acme.za" acmeDot_ne) =
    "dec_acme_za_operational_twin_evt_delivery_1" := by
  decide +kernel

theorem decisionId_acmeDash : Cascade.decisionId asciiTables (deliveryEvent "acme-za" acmeDash_ne) =
    "dec_acme_za_operational_twin_evt_delivery_1" := by
  decide +kernel

/-- The decision of one tenant. -/
def dotDecision : EventDecision asciiTables :=
  deliveryDecision "acme.za" acmeDot_ne decisionId_acmeDot

/-- The decision of a tenant whose name differs in one symbol. -/
def dashDecision : EventDecision asciiTables :=
  deliveryDecision "acme-za" acmeDash_ne decisionId_acmeDash

/-- The decision of the second tenant is merged into the record of the first one. -/
theorem decision_identity_merged :
    ¬ ∀ calls : List (StoreCall asciiTables), Isolated calls := by
  intro h
  have hne : Cascade.identity dotDecision.event ≠ Cascade.identity dashDecision.event := by decide
  have hisolated := h [.upsert "2026-07-01T00:00:02+00:00" dotDecision,
    .upsert "2026-07-01T00:00:03+00:00" dashDecision]
    [.upsert "2026-07-01T00:00:02+00:00" dotDecision]
    "2026-07-01T00:00:03+00:00" dashDecision [] rfl
    "2026-07-01T00:00:02+00:00" dotDecision List.mem_cons_self hne
  -- the upsert returns the shared record, whose id is that of the first decision
  obtain ⟨-, ⟨record, hanswer, hid⟩, -⟩ := upsert_spec
    (labelled_calls [.upsert "2026-07-01T00:00:02+00:00" dotDecision])
    "2026-07-01T00:00:03+00:00" dashDecision
  apply hisolated.2 record hanswer
  rw [hid]
  exact congrArg Value.str (decisionId_acmeDash.trans decisionId_acmeDot.symm)

end ShelfWise.Decisions
