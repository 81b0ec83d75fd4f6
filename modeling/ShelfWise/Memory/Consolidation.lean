import ShelfWise.Contracts.Event
import ShelfWise.Py.DecimalArithmetic

/-!
# Facts learned from repeated outcomes

`consolidate_outcomes` of `shelfwise_mlops/memory_consolidation.py`: the outcomes that succeeded, grouped
by tenant, domain, SKU and action, and one fact for each group with enough of them.

The id of a fact joins the four parts of its label with underscores and writes colons as underscores.
`factId_eq_iff` says which labels share an id: those with the same words between these characters.
-/

namespace ShelfWise.Memory

open Py

/-! ## Labels and their ids -/

/-- What a fact is about. -/
structure FactLabel where
  tenantId : String
  dataDomain : String
  sku : String
  action : String
deriving DecidableEq

/-- A colon becomes an underscore. -/
def foldColon (c : Char) : Char := if c = ':' then '_' else c

/-- The text of an id before its colons are replaced. -/
def FactLabel.chars (label : FactLabel) : List Char :=
  "fact_".toList ++ (label.tenantId.toList ++ '_' :: (label.dataDomain.toList ++ '_' ::
    (label.sku.toList ++ '_' :: label.action.toList)))

/-- The `id` of the fact with a label. -/
def factId (label : FactLabel) : String := String.ofList (label.chars.map foldColon)

/-- The pieces of a text between its colons and underscores. -/
def wordsOf (cs : List Char) : List (List Char) := cs.splitOnP fun c => c = ':' || c = '_'

/-- The words of the four parts of a label, in their order. -/
def FactLabel.words (label : FactLabel) : List (List Char) :=
  wordsOf label.tenantId.toList ++ (wordsOf label.dataDomain.toList ++
    (wordsOf label.sku.toList ++ wordsOf label.action.toList))

theorem wordsOf_append (as bs : List Char) : wordsOf (as ++ '_' :: bs) = wordsOf as ++ wordsOf bs :=
  List.splitOnP_append_cons as bs (by decide)

/-- Replacing the colons first gives the same words. -/
theorem splitOn_map_foldColon (cs : List Char) : (cs.map foldColon).splitOn '_' = wordsOf cs := by
  unfold wordsOf
  induction cs with
  | nil => rfl
  | cons c cs ih =>
    rw [List.map_cons, List.splitOn_cons_eq_if_modifyHead, List.splitOnP_cons_eq_if_modifyHead, ih]
    by_cases hcolon : c = ':'
    · subst hcolon
      rfl
    · rw [foldColon, if_neg hcolon]
      simp only [hcolon, decide_false, Bool.false_or, beq_iff_eq, decide_eq_true_eq]

theorem map_foldColon_eq_iff (as bs : List Char) :
    as.map foldColon = bs.map foldColon ↔ wordsOf as = wordsOf bs := by
  constructor
  · intro h
    rw [← splitOn_map_foldColon, h, splitOn_map_foldColon]
  · intro h
    rw [← splitOn_map_foldColon, ← splitOn_map_foldColon] at h
    have hjoin := congrArg (List.intercalate ['_']) h
    rwa [List.intercalate_splitOn, List.intercalate_splitOn] at hjoin

theorem FactLabel.wordsOf_chars (label : FactLabel) :
    wordsOf label.chars = "fact".toList :: label.words := by
  have hstart : label.chars = "fact".toList ++ '_' :: (label.tenantId.toList ++ '_' ::
      (label.dataDomain.toList ++ '_' :: (label.sku.toList ++ '_' :: label.action.toList))) := rfl
  have hfact : wordsOf "fact".toList = ["fact".toList] := by decide +kernel
  rw [hstart, wordsOf_append, wordsOf_append, wordsOf_append, wordsOf_append, hfact]
  rfl

/-- Two labels share an id exactly when they have the same words. -/
theorem factId_eq_iff (label other : FactLabel) : factId label = factId other ↔ label.words = other.words := by
  unfold factId
  rw [String.ofList_inj, map_foldColon_eq_iff, FactLabel.wordsOf_chars, FactLabel.wordsOf_chars]
  exact ⟨fun h => (List.cons.inj h).2, fun h => by rw [h]⟩

/-! ## Consolidation -/

/-- `OutcomeRecord`. -/
structure OutcomeRecord where
  tenantId : String
  sku : String
  action : String
  successScore : Decimal
  evidenceRefs : List String
  dataDomain : String
deriving DecidableEq

/-- `TenantFact`. -/
structure TenantFact where
  id : String
  tenantId : String
  sku : String
  action : String
  fact : String
  supportCount : ℕ
  confidence : Decimal
  evidenceRefs : List String
  dataDomain : String
deriving DecidableEq

/-- What a fact is about. -/
def TenantFact.label (f : TenantFact) : FactLabel := ⟨f.tenantId, f.dataDomain, f.sku, f.action⟩

/-- `groups`. -/
abbrev OutcomeGroups := Dict FactLabel (List OutcomeRecord)

/-- The groups after one record; a record below `min_success` joins none. -/
def groupOutcome (minSuccess : Decimal) (groups : OutcomeGroups) (record : OutcomeRecord) :
    Except Exc OutcomeGroups := do
  if ← minSuccess.le record.successScore then
    let domain ← normalizeDomain (.str record.dataDomain) .worldSimulation
    let label : FactLabel := ⟨record.tenantId, domain.value, record.sku, record.action⟩
    .ok (groups.set label ((groups.get? label).getD [] ++ [record]))
  else .ok groups

/-- The order of the groups: by tenant, domain, SKU and action. -/
def FactLabel.rank (label : FactLabel) : String ×ₗ String ×ₗ String ×ₗ String :=
  toLex (label.tenantId, toLex (label.dataDomain, toLex (label.sku, label.action)))

/-- The evidence of a group, each reference once. -/
def evidenceOf (group : List OutcomeRecord) : List String :=
  sortedBy id (group.flatMap (·.evidenceRefs)).dedup

/-- The fact of a group. -/
def factOf (label : FactLabel) (group : List OutcomeRecord) : Except Exc TenantFact := do
  let total ← Decimal.sum (group.map (·.successScore))
  let average ← total.div (.ofInt group.length)
  let confidence ← average.quantize .halfEven (-2)
  .ok {
    id := factId label
    tenantId := label.tenantId
    sku := label.sku
    action := label.action
    fact := label.action ++ " has repeatedly worked for SKU " ++ label.sku ++ "."
    supportCount := group.length
    confidence := confidence
    evidenceRefs := evidenceOf group
    dataDomain := label.dataDomain }

/-- `consolidate_outcomes`. -/
def consolidateOutcomes (records : List OutcomeRecord) (minSupport : ℤ) (minSuccess : Decimal) :
    Except Exc (List TenantFact) := do
  let groups ← records.foldlM (groupOutcome minSuccess) Dict.empty
  let supported := (sortedBy (fun e => e.1.rank) groups.entries).filter fun e =>
    decide (minSupport ≤ (e.2.length : ℤ))
  supported.mapM fun e => factOf e.1 e.2

/-- A fact has the id of its label. -/
theorem factOf_id {label : FactLabel} {group : List OutcomeRecord} {f : TenantFact}
    (h : factOf label group = .ok f) : f.id = factId f.label := by
  unfold factOf at h
  obtain ⟨_, -, h⟩ := bind_eq_ok_iff.mp h
  obtain ⟨_, -, h⟩ := bind_eq_ok_iff.mp h
  obtain ⟨_, -, h⟩ := bind_eq_ok_iff.mp h
  cases h
  rfl

theorem id_of_mem_mapM {entries : List (FactLabel × List OutcomeRecord)} {facts : List TenantFact}
    (h : (entries.mapM fun e => factOf e.1 e.2) = .ok facts) {f : TenantFact} (hf : f ∈ facts) :
    f.id = factId f.label := by
  induction entries generalizing facts with
  | nil =>
    cases h
    cases hf
  | cons e entries ih =>
    rw [List.mapM_cons] at h
    obtain ⟨first, hfirst, h⟩ := bind_eq_ok_iff.mp h
    obtain ⟨rest, hrest, h⟩ := bind_eq_ok_iff.mp h
    cases h
    rcases List.mem_cons.mp hf with rfl | hf
    · exact factOf_id hfirst
    · exact ih hrest hf

/-- Every learned fact has the id of its label. -/
theorem id_of_mem_consolidateOutcomes {records : List OutcomeRecord} {minSupport : ℤ}
    {minSuccess : Decimal} {facts : List TenantFact}
    (h : consolidateOutcomes records minSupport minSuccess = .ok facts) {f : TenantFact}
    (hf : f ∈ facts) : f.id = factId f.label := by
  unfold consolidateOutcomes at h
  obtain ⟨groups, -, h⟩ := bind_eq_ok_iff.mp h
  exact id_of_mem_mapM h hf

end ShelfWise.Memory
