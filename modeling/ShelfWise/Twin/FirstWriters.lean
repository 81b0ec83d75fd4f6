import ShelfWise.Twin.Script
import ShelfWise.Twin.Bootstrap

/-!
# First writers

The tables of entities and relationships keep the first row written under a key, so what they show
after a list of calls is what the first call for each key shows (`firstEntity`,
`firstRelationship`). `Follows` says of two stores that one is what a list of calls makes of the
other, up to the times stamped on the rows; it composes along lists, and both a projection and an
onboarding come with such a list.

An onboarding reads the time of the store's root entity back, so its calls depend on the store; but
only in times, which a snapshot does not show (`follows_onboardTopology`).
-/

namespace ShelfWise.Twin

open Py Sys TwinStore

/-! ## What the tables show -/

/-- What a snapshot shows of the entity under a key. -/
def TwinStore.entityDoc (s : TwinStore) (k : String × String) : Option Value :=
  (s.entities.get? k).map TwinEntity.doc

/-- What a snapshot shows of the relationship under a key. -/
def TwinStore.relationshipDoc (s : TwinStore) (k : String × String) : Option Value :=
  (s.relationships.get? k).map TwinRelationship.doc

/-- The entity a call writes under a key. -/
def TwinCall.entityDoc (k : String × String) : TwinCall → Option Value
  | .ensure e => if e.key = k then some e.doc else none
  | .link _ | .observe _ => none

/-- The relationship a call writes under a key. -/
def TwinCall.relationshipDoc (k : String × String) : TwinCall → Option Value
  | .link r => if r.key = k then some r.doc else none
  | .ensure _ | .observe _ => none

/-- The first entity written under a key. -/
def firstEntity (calls : List TwinCall) (k : String × String) : Option Value :=
  calls.findSome? (TwinCall.entityDoc k)

/-- The first relationship written under a key. -/
def firstRelationship (calls : List TwinCall) (k : String × String) : Option Value :=
  calls.findSome? (TwinCall.relationshipDoc k)

/-- `s'` is what the calls make of `s`, up to the times of its rows. -/
structure Follows (policyFor : SourcePolicyResolver) (s : TwinStore) (calls : List TwinCall)
    (s' : TwinStore) : Prop where
  entities : ∀ k, s'.entityDoc k = (s.entityDoc k).or (firstEntity calls k)
  relationships : ∀ k, s'.relationshipDoc k = (s.relationshipDoc k).or (firstRelationship calls k)
  log : s'.log = s.log.offerAll (calls.filterMap TwinCall.observation)
  covered : Covered policyFor s (fun _ => False) → Covered policyFor s' fun _ => False

namespace Follows

variable {policyFor : SourcePolicyResolver} {s s' s'' : TwinStore} {calls calls' : List TwinCall}

theorem refl (policyFor : SourcePolicyResolver) (s : TwinStore) : Follows policyFor s [] s :=
  ⟨fun _ => Option.or_none.symm, fun _ => Option.or_none.symm, rfl, id⟩

theorem append (h : Follows policyFor s calls s') (h' : Follows policyFor s' calls' s'') :
    Follows policyFor s (calls ++ calls') s'' := by
  refine ⟨fun k => ?_, fun k => ?_, ?_, h'.covered ∘ h.covered⟩
  · rw [h'.entities, h.entities, Option.or_assoc, firstEntity, firstEntity, firstEntity,
      List.findSome?_append]
  · rw [h'.relationships, h.relationships, Option.or_assoc, firstRelationship, firstRelationship,
      firstRelationship, List.findSome?_append]
  · rw [h'.log, h.log, List.filterMap_append, ObservationLog.offerAll_append]

end Follows

/-! ## Calls -/

theorem map_get?_setdefault {κ ν : Type} [DecidableEq κ] (d : Dict κ ν) (doc : ν → Value) (k k' : κ)
    (v : ν) : ((d.setdefault k v).get? k').map doc
      = ((d.get? k').map doc).or (if k = k' then some (doc v) else none) := by
  rw [Dict.get?_setdefault]
  by_cases hk : k = k'
  · subst hk
    rw [if_pos rfl, if_pos rfl]
    cases d.get? k <;> rfl
  · rw [if_neg hk, if_neg hk, Option.or_none]

theorem follows_call (policyFor : SourcePolicyResolver) (now : Timestamp) (c : TwinCall)
    (s : TwinStore) : Follows policyFor s [c] ((c.program policyFor now).run s).1 := by
  cases c with
  | ensure e =>
    refine ⟨fun k => ?_, fun k => Option.or_none.symm, rfl, id⟩
    refine (map_get?_setdefault s.entities TwinEntity.doc e.key k e).trans ?_
    rw [firstEntity, List.findSome?_singleton]
    rfl
  | link r =>
    refine ⟨fun k => Option.or_none.symm, fun k => ?_, rfl, id⟩
    refine (map_get?_setdefault s.relationships TwinRelationship.doc r.key k r).trans ?_
    rw [firstRelationship, List.findSome?_singleton]
    rfl
  | observe o =>
    have hrun : (((TwinCall.observe o).program policyFor now).run s).1
        = ((apply policyFor now o).run s).1 := by
      rw [TwinCall.program, Program.run_bind]
      rfl
    obtain ⟨hentities, hrelationships⟩ := run_apply_tables policyFor now o s
    rw [hrun]
    refine ⟨fun k => ?_, fun k => ?_, log_run_apply policyFor now o s, fun hc => covered_apply hc now o⟩
    · rw [entityDoc, hentities]
      exact Option.or_none.symm
    · rw [relationshipDoc, hrelationships]
      exact Option.or_none.symm

theorem follows_playAll (policyFor : SourcePolicyResolver) (calls : List (Timestamp × TwinCall))
    (s : TwinStore) :
    Follows policyFor s (calls.map Prod.snd) ((playAll policyFor calls).run s).1 := by
  induction calls generalizing s with
  | nil => exact Follows.refl policyFor s
  | cons c calls ih =>
    rw [playAll, Program.run_bind]
    exact (follows_call policyFor c.1 c.2 s).append (ih _)

/-- A run of a program that plays a script. -/
theorem Plays.follows {α : Type} {policyFor : SourcePolicyResolver} {now : Timestamp}
    {p : Program TwinOp TwinStore (Except Exc α)} {script : Script}
    (h : Plays policyFor now p script) (s : TwinStore) :
    Follows policyFor s script.calls (p.run s).1 ∧ raised (p.run s).2 = script.error := by
  have hrun := congrArg (fun q => q.run s) h
  simp only [Script.play, Program.run_bind, Program.run_ret, Prod.mk.injEq] at hrun
  refine ⟨?_, hrun.2⟩
  rw [hrun.1]
  have hplay := follows_playAll policyFor (script.calls.map fun c => (now, c)) s
  rwa [List.map_map, Function.comp_def, List.map_id''] at hplay
  exact fun _ => rfl

/-! ## Times -/

/-- A call with its times wiped out. -/
def TwinCall.untimed : TwinCall → TwinCall
  | .ensure e => .ensure { e with createdAt := ⟨0, ""⟩ }
  | .link r => .link { r with validFrom := ⟨0, ""⟩ }
  | .observe o => .observe o

theorem firstEntity_untimed (calls : List TwinCall) (k : String × String) :
    firstEntity (calls.map TwinCall.untimed) k = firstEntity calls k := by
  unfold firstEntity
  rw [List.findSome?_map]
  congr 1
  funext c
  cases c <;> rfl

theorem firstRelationship_untimed (calls : List TwinCall) (k : String × String) :
    firstRelationship (calls.map TwinCall.untimed) k = firstRelationship calls k := by
  unfold firstRelationship
  rw [List.findSome?_map]
  congr 1
  funext c
  cases c <;> rfl

theorem observations_untimed (calls : List TwinCall) :
    (calls.map TwinCall.untimed).filterMap TwinCall.observation
      = calls.filterMap TwinCall.observation := by
  rw [List.filterMap_map]
  congr 1
  funext c
  cases c <;> rfl

/-- The times on the calls do not matter. -/
theorem Follows.congr {policyFor : SourcePolicyResolver} {s s' : TwinStore}
    {calls calls' : List TwinCall} (h : Follows policyFor s calls s')
    (hsame : calls.map TwinCall.untimed = calls'.map TwinCall.untimed) :
    Follows policyFor s calls' s' := by
  refine ⟨fun k => ?_, fun k => ?_, ?_, h.covered⟩
  · rw [h.entities, ← firstEntity_untimed calls, hsame, firstEntity_untimed]
  · rw [h.relationships, ← firstRelationship_untimed calls, hsame, firstRelationship_untimed]
  · rw [h.log, ← observations_untimed calls, hsame, observations_untimed]

/-! ## Onboarding -/

/-- The script of the loop of `onboard`, for a root with the given time and identifier. -/
def seedsScript (m : TwinOnboardingManifest) (createdAt : Timestamp) (rootTwinId : String) :
    List TwinEntitySeed → Script
  | [] => .done
  | seed :: rest =>
    .needs (onboardSeed m createdAt seed).validated fun entity =>
      .cons (.ensure entity) <|
        .needs (linkOf m.tenantId rootTwinId entity.twinId createdAt).validated fun r =>
          .cons (.link r) (seedsScript m createdAt rootTwinId rest)

/-- The script of `onboard`. -/
def onboardScript (now createdAt : Timestamp) (m : TwinOnboardingManifest) : Script :=
  .needs (onboardRoot now m).validated fun root =>
    .cons (.ensure root) (seedsScript m createdAt root.twinId m.entities)

/-- Two scripts that only differ in times. -/
def Script.Similar (a b : Script) : Prop :=
  a.error = b.error ∧ a.calls.map TwinCall.untimed = b.calls.map TwinCall.untimed

theorem Script.Similar.cons {a b : Script} (h : a.Similar b) {c c' : TwinCall}
    (hc : c.untimed = c'.untimed) : (Script.cons c a).Similar (Script.cons c' b) := by
  refine ⟨h.1, ?_⟩
  simp only [Script.cons, List.map_cons, hc, h.2]

theorem Script.similar_ensure {e e' : TwinEntity} (hv : e.violation = e'.violation)
    {k k' : TwinEntity → Script} (hk : (k e).Similar (k' e')) :
    (Script.needs e.validated k).Similar (Script.needs e'.validated k') := by
  unfold TwinEntity.validated
  rw [hv]
  cases e'.violation with
  | some field => exact ⟨rfl, rfl⟩
  | none => exact hk

theorem Script.similar_link {r r' : TwinRelationship} (hv : r.violation = r'.violation)
    {k k' : TwinRelationship → Script} (hk : (k r).Similar (k' r')) :
    (Script.needs r.validated k).Similar (Script.needs r'.validated k') := by
  unfold TwinRelationship.validated
  rw [hv]
  cases r'.violation with
  | some field => exact ⟨rfl, rfl⟩
  | none => exact hk

theorem seedsScript_similar (m : TwinOnboardingManifest) (createdAt createdAt' : Timestamp)
    (rootTwinId : String) (seeds : List TwinEntitySeed) :
    (seedsScript m createdAt rootTwinId seeds).Similar
      (seedsScript m createdAt' rootTwinId seeds) := by
  induction seeds with
  | nil => exact ⟨rfl, rfl⟩
  | cons seed rest ih =>
    have hentity : (onboardSeed m createdAt seed).violation
        = (onboardSeed m createdAt' seed).violation := rfl
    have hlink : (linkOf m.tenantId rootTwinId (onboardSeed m createdAt seed).twinId
        createdAt).violation = (linkOf m.tenantId rootTwinId (onboardSeed m createdAt' seed).twinId
          createdAt').violation := rfl
    unfold seedsScript
    refine Script.similar_ensure hentity (Script.Similar.cons ?_ rfl)
    exact Script.similar_link hlink (ih.cons rfl)

theorem onboardScript_similar (m : TwinOnboardingManifest)
    (now createdAt now' createdAt' : Timestamp) :
    (onboardScript now createdAt m).Similar (onboardScript now' createdAt' m) :=
  have hroot : (onboardRoot now m).violation = (onboardRoot now' m).violation := rfl
  have hseeds := seedsScript_similar m createdAt createdAt' (onboardRoot now m).twinId m.entities
  Script.similar_ensure hroot (hseeds.cons rfl)

theorem plays_onboardSeeds (policyFor : SourcePolicyResolver) (now : Timestamp)
    (m : TwinOnboardingManifest) (root : TwinEntity) (seeds : List TwinEntitySeed) :
    Plays policyFor now (onboardSeeds m root seeds)
      (seedsScript m root.createdAt root.twinId seeds) := by
  induction seeds with
  | nil => exact plays_ok _ _ _
  | cons seed rest ih =>
    unfold onboardSeeds seedsScript
    refine plays_ensure fun entity hentity => ?_
    rw [hentity]
    exact plays_link fun _ => ih

/-- What an onboarding makes of a store, and whether it raises. -/
theorem follows_onboardTopology (policyFor : SourcePolicyResolver) (now : Timestamp)
    (m : TwinOnboardingManifest) (s : TwinStore) (now' createdAt : Timestamp) :
    Follows policyFor s (onboardScript now' createdAt m).calls ((onboardTopology now m).run s).1 ∧
      raised ((onboardTopology now m).run s).2 = (onboardScript now' createdAt m).error := by
  -- the root that is stored gives the seeds their time
  obtain ⟨stored, hrun⟩ : ∃ stored : Timestamp,
      Follows policyFor s (onboardScript now stored m).calls ((onboardTopology now m).run s).1 ∧
        raised ((onboardTopology now m).run s).2 = (onboardScript now stored m).error := by
    unfold onboardTopology ensureEntityStep onboardScript TwinEntity.validated
    cases (onboardRoot now m).violation with
    | some field => exact ⟨now, Follows.refl _ _, rfl⟩
    | none =>
      have hroot : (ensureEntity (onboardRoot now m) s).2.twinId = (onboardRoot now m).twinId :=
        congrArg Prod.snd (key_ensureEntity (onboardRoot now m) s)
      obtain ⟨hseeds, herror⟩ := (plays_onboardSeeds policyFor now m
        (ensureEntity (onboardRoot now m) s).2 m.entities).follows
          (ensureEntity (onboardRoot now m) s).1
      rw [hroot] at hseeds herror
      exact ⟨(ensureEntity (onboardRoot now m) s).2.createdAt,
        (follows_call policyFor now (.ensure (onboardRoot now m)) s).append hseeds, herror⟩
  have hsimilar := onboardScript_similar m now stored now' createdAt
  exact ⟨hrun.1.congr hsimilar.2, hrun.2.trans hsimilar.1⟩

end ShelfWise.Twin
