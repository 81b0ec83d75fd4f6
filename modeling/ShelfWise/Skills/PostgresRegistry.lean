import ShelfWise.Skills.Registry

/-!
# The skill registry in Postgres

`PostgresSkillRegistry` of `shelfwise_mlops/skill_registry.py`, one statement at a time. A row keeps the
status in a column of its own beside the manifest, and what is read is what `_manifest_from_dict` makes
of the stored dictionary.

The two registries hold the same manifests after the same calls (`holds_reached`). They list them
differently: here a tenant's manifest replaces the platform's of the same id, in memory both are listed.
`registries_discover_same_iff` says when that shows in what `discover` finds.
-/

namespace ShelfWise.Skills

open Py Sys

/-! ## Rows -/

/-- A row of `shelfwise_skill_manifests`, by tenant and skill id. -/
structure SkillRow where
  status : String
  manifest : List (String × Value)

/-- The table. -/
abbrev SkillRows := Dict (String × String) SkillRow

/-- The row of a manifest. -/
def SkillManifest.row (m : SkillManifest) : SkillRow := ⟨m.status, m.toDict⟩

/-- The manifests of rows. -/
def readRows : List SkillRow → Except Exc (List SkillManifest)
  | [] => .ok []
  | row :: rest => do
    let m ← manifestFromDict row.manifest
    let ms ← readRows rest
    .ok (m :: ms)

namespace SkillRows

/-- `upsert`. -/
def upsert (db : SkillRows) (m : SkillManifest) (knownAgents knownTools : List String) :
    SkillRows × Except Exc SkillManifest :=
  match m.validate knownAgents knownTools with
  | .error e => (db, .error e)
  | .ok () => (db.set (orPlatform m.tenantId, m.id) m.row, .ok m)

/-- `get`: the row of the tenant, then that of the platform. -/
def get (db : SkillRows) (skillId : String) (tenantId : Option String) :
    Except Exc (Option SkillManifest) :=
  match db.get? (orPlatform tenantId, skillId) with
  | some row => (manifestFromDict row.manifest).map some
  | none => match db.get? (platform, skillId) with
    | some row => (manifestFromDict row.manifest).map some
    | none => .ok none

/-- `select manifest ... where tenant_id = owner`. -/
def ofOwner (db : SkillRows) (owner : String) : List SkillRow :=
  (db.entries.filter fun e => decide (e.1.1 = owner)).map Prod.snd

/-- `list`: a manifest read later replaces one of the same id. -/
def list (db : SkillRows) (tenantId : Option String) : Except Exc (List SkillManifest) := do
  let shared ← readRows (db.ofOwner platform)
  let own ← readRows (db.ofOwner (orPlatform tenantId))
  .ok (sortedBy (·.id) (Dict.ofItems ((shared ++ own).map fun m => (m.id, m))).values)

/-- `update ... where tenant_id = owner and skill_id = skillId`. -/
def update (db : SkillRows) (owner skillId : String) (row : SkillRow) : SkillRows :=
  if db.contains (owner, skillId) then db.set (owner, skillId) row else db

/-- `set_status`. -/
def setStatus (db : SkillRows) (skillId status : String) (tenantId : Option String) :
    SkillRows × Except Exc (Option SkillManifest) :=
  match db.get skillId tenantId with
  | .error e => (db, .error e)
  | .ok none => (db, .ok none)
  | .ok (some current) =>
    let updated := { current with status }
    (db.update (orPlatform updated.tenantId) skillId updated.row, .ok (some updated))

/-- `transition_status`. -/
def transitionStatus (db : SkillRows) (skillId expectedStatus status : String)
    (tenantId : Option String) : SkillRows × Except Exc (Option SkillManifest) :=
  match db.get skillId tenantId with
  | .error e => (db, .error e)
  | .ok none => (db, .ok none)
  | .ok (some current) =>
    let owner := orPlatform current.tenantId
    let updated := { current with status }
    if (db.get? (owner, skillId)).map (·.status) = some expectedStatus then
      (db.set (owner, skillId) updated.row, (manifestFromDict updated.toDict).map some)
    else (db, .ok none)

/-- `discover`, which checks the limit before it lists. -/
def discover (db : SkillRows) (tenantId : Option String) (question role : String) (limit : ℤ) :
    Except Exc (List SkillManifest) :=
  if limit < 1 then .error (.valueError "limit must be at least 1")
  else do
    let listed ← db.list tenantId
    Skills.discover listed question role limit

end SkillRows

/-- The state after a call, and the manifest it answers with. -/
def rowsStep (db : SkillRows) : RegistryOp → SkillRows × Except Exc (Option SkillManifest)
  | .upsert m knownAgents knownTools =>
    ((db.upsert m knownAgents knownTools).1, (db.upsert m knownAgents knownTools).2.map some)
  | .setStatus skillId status tenantId => db.setStatus skillId status tenantId
  | .transitionStatus skillId expectedStatus status tenantId =>
    db.transitionStatus skillId expectedStatus status tenantId

/-- The rows that calls lead to from an empty table. -/
def reachedRows (ops : List RegistryOp) : SkillRows := final rowsStep Dict.empty ops

/-! ## The same manifests -/

/-- The table holds the rows of the manifests. -/
def Holds (s : Registry) (db : SkillRows) : Prop :=
  ∀ key, db.get? key = (s.get? key).map SkillManifest.row

namespace Holds

variable {s : Registry} {db : SkillRows}

theorem set (h : Holds s db) (key : String × String) (m : SkillManifest) :
    Holds (s.set key m) (db.set key m.row) := by
  intro key'
  rw [Dict.get?_set, Dict.get?_set]
  split
  · rfl
  · exact h key'

theorem get_eq (h : Holds s db) (skillId : String) (tenantId : Option String) :
    db.get skillId tenantId = .ok ((s.get skillId tenantId).map SkillManifest.reread) := by
  unfold SkillRows.get Registry.get
  rw [h]
  cases s.get? (orPlatform tenantId, skillId) with
  | some own =>
    dsimp only [Option.map_some]
    rw [SkillManifest.row, manifestFromDict_toDict]
    rfl
  | none =>
    dsimp only [Option.map_none]
    rw [h]
    cases s.get? (platform, skillId) with
    | some shared =>
      dsimp only [Option.map_some]
      rw [SkillManifest.row, manifestFromDict_toDict]
      rfl
    | none => rfl

/-- The row that a status call writes is the one it has found. -/
theorem owner_eq (hvalid : s.Valid) {owner skillId : String} {m : SkillManifest}
    (hm : s.get? (owner, skillId) = some m) : orPlatform m.tenantId = owner :=
  (congrArg Prod.fst (hvalid.keyed _ _ hm)).symm

theorem step (hvalid : s.Valid) (h : Holds s db) (op : RegistryOp) :
    Holds (registryStep s op).1 (rowsStep db op).1 := by
  cases op with
  | upsert m knownAgents knownTools =>
    show Holds (s.upsert m knownAgents knownTools).1 (db.upsert m knownAgents knownTools).1
    unfold Registry.upsert SkillRows.upsert
    cases m.validate knownAgents knownTools with
    | error e => exact h
    | ok _ => exact h.set _ m
  | setStatus skillId status tenantId =>
    show Holds (s.setStatus skillId status tenantId).1 (db.setStatus skillId status tenantId).1
    unfold SkillRows.setStatus
    rw [h.get_eq, Registry.get_eq_ownerFor]
    unfold Registry.setStatus
    cases howner : s.ownerFor skillId tenantId with
    | none => exact h
    | some owner =>
      obtain ⟨m, hm⟩ := Registry.contains_of_ownerFor howner
      have hrow : db.contains (owner, skillId) = true := by
        unfold Dict.contains
        rw [h, hm]
        rfl
      dsimp only [Option.bind_some]
      rw [hm]
      dsimp only [Option.map_some, SkillManifest.reread]
      rw [owner_eq hvalid hm]
      unfold SkillRows.update
      rw [if_pos hrow]
      exact h.set _ { m with status }
  | transitionStatus skillId expectedStatus status tenantId =>
    show Holds (s.transitionStatus skillId expectedStatus status tenantId).1
      (db.transitionStatus skillId expectedStatus status tenantId).1
    unfold SkillRows.transitionStatus
    rw [h.get_eq, Registry.get_eq_ownerFor]
    unfold Registry.transitionStatus
    cases howner : s.ownerFor skillId tenantId with
    | none => exact h
    | some owner =>
      obtain ⟨m, hm⟩ := Registry.contains_of_ownerFor howner
      dsimp only [Option.bind_some]
      rw [hm]
      dsimp only [Option.map_some, SkillManifest.reread]
      have hcolumn : (db.get? (owner, skillId)).map (·.status) = some m.status := by
        rw [h, hm]
        rfl
      rw [owner_eq hvalid hm, hcolumn]
      by_cases hstatus : m.status = expectedStatus
      · rw [if_neg fun hne => hne hstatus, if_pos (congrArg some hstatus)]
        exact h.set _ { m with status }
      · rw [if_pos hstatus, if_neg fun heq => hstatus (Option.some.inj heq)]
        exact h

end Holds

/-- After the same calls the table holds the manifests of the registry. -/
theorem holds_reached (ops : List RegistryOp) : Holds (reached ops) (reachedRows ops) := by
  have hrun : ∀ (s : Registry) (db : SkillRows), s.Valid → Holds s db →
      Holds (final registryStep s ops) (final rowsStep db ops) := by
    induction ops with
    | nil => exact fun _ _ _ h => h
    | cons op ops ih => exact fun s db hvalid h => ih _ _ (hvalid.step op) (h.step hvalid op)
  exact hrun _ _ (valid_reached []) fun key => rfl

/-! ## What is listed -/

section

variable {s : Registry} {db : SkillRows} {tenantId : Option String}

theorem readRows_map (ms : List SkillManifest) :
    readRows (ms.map SkillManifest.row) = .ok (ms.map SkillManifest.reread) := by
  induction ms with
  | nil => rfl
  | cons m rest ih =>
    rw [List.map_cons, readRows, ih, SkillManifest.row, manifestFromDict_toDict]
    rfl

/-- The rows of an owner are those of its manifests. -/
theorem Holds.ofOwner (hvalid : s.Valid) (h : Holds s db) (owner : String) :
    ∃ ms : List SkillManifest, db.ofOwner owner = ms.map SkillManifest.row ∧
      ∀ m, m ∈ ms ↔ s.get? (owner, m.id) = some m := by
  have hrows : ∀ es : List ((String × String) × SkillRow),
      (∀ e ∈ es, (s.get? e.1).map SkillManifest.row = some e.2) →
      ∃ ms : List SkillManifest, (es.filter fun e => decide (e.1.1 = owner)).map Prod.snd =
          ms.map SkillManifest.row ∧
        ∀ m, m ∈ ms ↔ ∃ e ∈ es, e.1.1 = owner ∧ s.get? e.1 = some m := by
    intro es hes
    induction es with
    | nil => exact ⟨[], rfl, fun m => by simp⟩
    | cons e rest ih =>
      obtain ⟨ms, hmap, hmem⟩ := ih fun e' he' => hes e' (List.mem_cons_of_mem _ he')
      obtain ⟨m, hm, hrow⟩ := Option.map_eq_some_iff.mp (hes e List.mem_cons_self)
      by_cases howner : e.1.1 = owner
      · refine ⟨m :: ms, ?_, fun m' => ?_⟩
        · rw [List.filter_cons_of_pos (by simpa using howner), List.map_cons, hmap, List.map_cons,
            hrow]
        · rw [List.mem_cons, hmem]
          constructor
          · rintro (rfl | ⟨e', he', howner', hget⟩)
            · exact ⟨e, List.mem_cons_self, howner, hm⟩
            · exact ⟨e', List.mem_cons_of_mem _ he', howner', hget⟩
          · rintro ⟨e', he', howner', hget⟩
            rcases List.mem_cons.mp he' with rfl | he'
            · exact .inl (Option.some.inj (hget.symm.trans hm))
            · exact .inr ⟨e', he', howner', hget⟩
      · refine ⟨ms, ?_, fun m' => ?_⟩
        · rw [List.filter_cons_of_neg (by simpa using howner), hmap]
        · rw [hmem]
          constructor
          · rintro ⟨e', he', howner', hget⟩
            exact ⟨e', List.mem_cons_of_mem _ he', howner', hget⟩
          · rintro ⟨e', he', howner', hget⟩
            rcases List.mem_cons.mp he' with rfl | he'
            · exact absurd howner' howner
            · exact ⟨e', he', howner', hget⟩
  obtain ⟨ms, hmap, hmem⟩ := hrows db.entries fun e he => by
    rw [← h e.1]
    exact (Dict.mem_entries_iff db e.1 e.2).mp he
  refine ⟨ms, hmap, fun m => ?_⟩
  rw [hmem]
  constructor
  · rintro ⟨e, -, rfl, hget⟩
    have hkey := hvalid.keyed _ _ hget
    rw [show (e.1.1, m.id) = e.1 from Prod.ext rfl (congrArg Prod.snd hkey).symm]
    exact hget
  · intro hget
    refine ⟨((owner, m.id), m.row), (Dict.mem_entries_iff db _ _).mpr ?_, rfl, hget⟩
    rw [h, hget]
    rfl

theorem getLast?_of_forall_eq {α : Type} {xs : List α} {a : α} (hmem : a ∈ xs)
    (h : ∀ b ∈ xs, b = a) : xs.getLast? = some a := by
  have hne : xs ≠ [] := List.ne_nil_of_mem hmem
  rw [List.getLast?_eq_some_getLast hne, h _ (List.getLast_mem hne)]

/-- The last of an owner's manifests with an id. -/
theorem getLast?_ofOwner (hvalid : s.Valid) {owner : String} {ms : List SkillManifest}
    (hms : ∀ m, m ∈ ms ↔ s.get? (owner, m.id) = some m) (id : String) :
    ((ms.map fun m => (m.id, m.reread)).filter fun e => e.1 = id).getLast? =
      (s.get? (owner, id)).map fun m => (id, m.reread) := by
  cases hget : s.get? (owner, id) with
  | none =>
    have hempty : ((ms.map fun m => (m.id, m.reread)).filter fun e => e.1 = id) = [] := by
      refine List.filter_eq_nil_iff.mpr fun e he => ?_
      obtain ⟨m, hm, rfl⟩ := List.mem_map.mp he
      rw [decide_eq_true_eq]
      rintro rfl
      rw [(hms m).mp hm] at hget
      cases hget
    rw [hempty]
    rfl
  | some m =>
    have hid : m.id = id := (congrArg Prod.snd (hvalid.keyed _ _ hget)).symm
    refine getLast?_of_forall_eq (List.mem_filter.mpr ⟨List.mem_map.mpr ⟨m, ?_, ?_⟩, ?_⟩) ?_
    · rw [hms, hid]
      exact hget
    · rw [hid]
    · exact decide_eq_true rfl
    · intro e he
      obtain ⟨he, hkey⟩ := List.mem_filter.mp he
      obtain ⟨m', hm', rfl⟩ := List.mem_map.mp he
      have hid' : m'.id = id := of_decide_eq_true hkey
      have hget' := (hms m').mp hm'
      rw [hid', hget] at hget'
      rw [hid', Option.some.inj hget']

/-- The table lists, under each id, the manifest that `get` finds. -/
theorem Holds.list_eq (hvalid : s.Valid) (h : Holds s db) (tenantId : Option String) :
    ∃ listed, db.list tenantId = .ok listed ∧ (listed.map (·.id)).Nodup ∧
      ∀ m, m ∈ listed ↔ ∃ m', s.get m'.id tenantId = some m' ∧ m = m'.reread := by
  obtain ⟨shared, hshared, hmemShared⟩ := h.ofOwner hvalid platform
  obtain ⟨own, hown, hmemOwn⟩ := h.ofOwner hvalid (orPlatform tenantId)
  have hlist : db.list tenantId = .ok (sortedBy (·.id) (Dict.ofItems (((shared ++ own).map
      SkillManifest.reread).map fun m => (m.id, m))).values) := by
    unfold SkillRows.list
    rw [hshared, hown, readRows_map, readRows_map, List.map_append]
    rfl
  have hitems : ((shared ++ own).map SkillManifest.reread).map (fun m => (m.id, m)) =
      (shared.map fun m => (m.id, m.reread)) ++ own.map fun m => (m.id, m.reread) := by
    rw [List.map_map, List.map_append]
    rfl
  rw [hitems] at hlist
  generalize hd : Dict.ofItems ((shared.map fun m => (m.id, m.reread)) ++
    own.map fun m => (m.id, m.reread)) = d at hlist
  -- the own manifest comes last
  have hget : ∀ id, d.get? id = (s.get id tenantId).map SkillManifest.reread := by
    intro id
    rw [← hd, Dict.get?_ofItems, List.filter_append, List.getLast?_append,
      getLast?_ofOwner hvalid hmemOwn, getLast?_ofOwner hvalid hmemShared]
    unfold Registry.get
    cases s.get? (orPlatform tenantId, id) with
    | some own => rfl
    | none => cases s.get? (platform, id) <;> rfl
  have hid : ∀ id m, s.get id tenantId = some m → m.id = id := by
    intro id m hm
    rw [Registry.get_eq_ownerFor, Option.bind_eq_some_iff] at hm
    obtain ⟨owner, -, hm⟩ := hm
    exact (congrArg Prod.snd (hvalid.keyed _ _ hm)).symm
  refine ⟨_, hlist, ?_, fun m => ?_⟩
  · have hkeys : d.values.map (·.id) = d.keys := by
      unfold Dict.values Dict.keys
      rw [List.map_map]
      refine List.map_congr_left fun e he => ?_
      have hentry := (Dict.mem_entries_iff d e.1 e.2).mp he
      rw [hget, Option.map_eq_some_iff] at hentry
      obtain ⟨m', hm', hreread⟩ := hentry
      show e.2.id = e.1
      rw [← hreread]
      exact hid _ m' hm'
    rw [((sortedBy_perm _ d.values).map (·.id)).nodup_iff, hkeys]
    exact d.nodupKeys
  · rw [mem_sortedBy, Dict.mem_values_iff]
    constructor
    · rintro ⟨id, hentry⟩
      rw [hget, Option.map_eq_some_iff] at hentry
      obtain ⟨m', hm', rfl⟩ := hentry
      exact ⟨m', (hid _ _ hm').symm ▸ hm', rfl⟩
    · rintro ⟨m', hm', rfl⟩
      exact ⟨m'.id, by rw [hget, hm']; rfl⟩

/-- In memory the manifests of the platform and of the tenant are listed. -/
theorem mem_list (hvalid : s.Valid) (tenantId : Option String) (m : SkillManifest) :
    m ∈ s.list tenantId ↔
      s.get? (platform, m.id) = some m ∨ s.get? (orPlatform tenantId, m.id) = some m := by
  unfold Registry.list
  rw [mem_sortedBy, List.mem_map]
  constructor
  · rintro ⟨e, he, rfl⟩
    obtain ⟨hentry, howner⟩ := List.mem_filter.mp he
    have hget := (Dict.mem_entries_iff s e.1 e.2).mp hentry
    have hid : e.1.2 = e.2.id := congrArg Prod.snd (hvalid.keyed _ _ hget)
    have hkey : e.1 = (e.1.1, e.2.id) := Prod.ext rfl hid
    rw [hkey] at hget
    rw [Bool.or_eq_true, decide_eq_true_eq, decide_eq_true_eq] at howner
    rcases howner with howner | howner
    · exact .inl (howner ▸ hget)
    · exact .inr (howner ▸ hget)
  · rintro (hget | hget)
    · exact ⟨_, List.mem_filter.mpr ⟨(Dict.mem_entries_iff s _ _).mpr hget, by simp⟩, rfl⟩
    · exact ⟨_, List.mem_filter.mpr ⟨(Dict.mem_entries_iff s _ _).mpr hget, by simp⟩, rfl⟩

theorem nodup_list (hvalid : s.Valid) (tenantId : Option String) : (s.list tenantId).Nodup := by
  unfold Registry.list
  rw [(sortedBy_perm _ _).nodup_iff]
  refine List.Nodup.of_map SkillManifest.key ?_
  rw [List.map_map]
  have hkeys : (s.entries.filter fun e => decide (e.1.1 = platform) ||
      decide (e.1.1 = orPlatform tenantId)).map (SkillManifest.key ∘ Prod.snd) =
      (s.entries.filter fun e => decide (e.1.1 = platform) ||
        decide (e.1.1 = orPlatform tenantId)).map Prod.fst := by
    refine List.map_congr_left fun e he => ?_
    exact (hvalid.keyed _ _ ((Dict.mem_entries_iff s e.1 e.2).mp (List.mem_of_mem_filter he))).symm
  rw [hkeys]
  exact s.nodupKeys.sublist (List.filter_sublist.map Prod.fst)

/-! ## What is discovered -/

/-- A manifest of the platform that the tenant has a manifest of its own for. -/
def Shadowed (s : Registry) (tenantId : Option String) (m : SkillManifest) : Prop :=
  s.get? (platform, m.id) = some m ∧ orPlatform tenantId ≠ platform ∧
    s.contains (orPlatform tenantId, m.id) = true

/-- What `get` finds is the manifest of the tenant, or one of the platform that is not shadowed. -/
theorem get_iff (m : SkillManifest) :
    s.get m.id tenantId = some m ↔ s.get? (orPlatform tenantId, m.id) = some m ∨
      (s.get? (platform, m.id) = some m ∧ ¬ Shadowed s tenantId m) := by
  unfold Registry.get Shadowed Dict.contains
  cases hown : s.get? (orPlatform tenantId, m.id) with
  | some own =>
    dsimp only
    constructor
    · exact .inl
    · rintro (heq | ⟨hshared, hshadowed⟩)
      · exact heq
      · by_cases hplatform : orPlatform tenantId = platform
        · rw [hplatform, hshared] at hown
          exact hown.symm
        · exact absurd ⟨hshared, hplatform, rfl⟩ hshadowed
  | none =>
    dsimp only
    constructor
    · exact fun hshared => .inr ⟨hshared, fun h => by cases h.2.2⟩
    · rintro (heq | hshared)
      · cases heq
      · exact hshared.1

theorem isDiscoverable_reread (m : SkillManifest) (question role : String) :
    m.reread.isDiscoverable question role = m.isDiscoverable question role := by
  unfold SkillManifest.reread
  by_cases hempty : m.status = ""
  · unfold SkillManifest.isDiscoverable
    rw [if_pos hempty, hempty]
    rfl
  · rw [if_neg hempty]

theorem reread_of_discoverable {m : SkillManifest} {question role : String}
    (h : m.isDiscoverable question role = true) : m.reread = m := by
  have hpromoted : m.status = "promoted" := by
    unfold SkillManifest.isDiscoverable at h
    simp only [Bool.and_eq_true, decide_eq_true_eq] at h
    exact h.1.1
  unfold SkillManifest.reread
  rw [if_neg (hpromoted ▸ by decide)]

/-- Two lists of the same manifests, told apart by their ids, give the same answer. -/
theorem discover_congr {xs ys : List SkillManifest} {question role : String}
    (hxs : xs.Nodup) (hys : (ys.map (·.id)).Nodup)
    (h : ∀ m, m.isDiscoverable question role = true → (m ∈ xs ↔ m ∈ ys)) (limit : ℤ) :
    discover xs question role limit = discover ys question role limit := by
  have hperm : (xs.filter fun m => m.isDiscoverable question role).Perm
      (ys.filter fun m => m.isDiscoverable question role) := by
    refine (List.perm_ext_iff_of_nodup (hxs.filter _) ((hys.of_map _).filter _)).mpr fun m => ?_
    rw [List.mem_filter, List.mem_filter]
    constructor
    · exact fun hm => ⟨(h m hm.2).mp hm.1, hm.2⟩
    · exact fun hm => ⟨(h m hm.2).mpr hm.1, hm.2⟩
  unfold discover
  rw [sortedBy_eq_of_perm hperm]
  intro a ha b hb hrank
  have hid : a.id = b.id := congrArg (fun r => (ofLex r).2) hrank
  have ha' := List.mem_of_mem_filter (hperm.mem_iff.mp ha)
  have hb' := List.mem_of_mem_filter (hperm.mem_iff.mp hb)
  exact List.inj_on_of_nodup_map hys ha' hb' hid

/-- With a limit that is not reached, every manifest that is listed and discoverable is found. -/
theorem mem_discover {xs : List SkillManifest} {n : ℕ} (hn : xs.length ≤ n)
    (question role : String) (m : SkillManifest) :
    (∃ found, discover xs question role (n + 1 : ℕ) = .ok found ∧ m ∈ found) ↔
      m ∈ xs ∧ m.isDiscoverable question role = true := by
  have hlimit : ¬ ((n + 1 : ℕ) : ℤ) < 1 := by omega
  have hlength : (sortedBy (SkillManifest.rank question)
      (xs.filter fun m => m.isDiscoverable question role)).length ≤ n + 1 := by
    rw [(sortedBy_perm _ _).length_eq]
    exact (List.length_filter_le _ _).trans (hn.trans (Nat.le_succ n))
  unfold discover
  rw [if_neg hlimit, Int.toNat_natCast, List.take_of_length_le hlength]
  constructor
  · rintro ⟨found, hfound, hm⟩
    cases hfound
    rw [mem_sortedBy, List.mem_filter] at hm
    exact hm
  · intro hm
    exact ⟨_, rfl, mem_sortedBy.mpr (List.mem_filter.mpr hm)⟩

end

/-- A manifest that is promoted and has a trigger term is found by some question for some role. -/
theorem exists_discoverable {m : SkillManifest} (hpromoted : m.status = "promoted")
    (hterms : m.triggerTerms ≠ []) : ∃ question role, m.isDiscoverable question role = true := by
  obtain ⟨term, hterm⟩ := List.exists_mem_of_ne_nil _ hterms
  have hhit : 0 < m.hits term := by
    refine List.length_pos_of_mem (List.mem_filter.mpr ⟨hterm, ?_⟩)
    unfold contains
    exact decide_eq_true (List.infix_refl _)
  cases hroles : m.allowedRoles with
  | nil =>
    refine ⟨term, "", ?_⟩
    unfold SkillManifest.isDiscoverable
    rw [hpromoted, hroles, decide_eq_true hhit]
    rfl
  | cons role rest =>
    refine ⟨term, role, ?_⟩
    unfold SkillManifest.isDiscoverable
    rw [hpromoted, hroles, decide_eq_true hhit, decide_eq_true List.mem_cons_self]
    rfl

/-- **Two registries.** After the same calls, `discover` over the two registries finds the same for a
tenant, with every question, role and limit, exactly when no manifest of the platform that the tenant
has one of its own for is promoted and has trigger terms. -/
theorem registries_discover_same_iff (ops : List RegistryOp) (tenantId : Option String) :
    (∀ question role limit, (reachedRows ops).discover tenantId question role limit =
        discover ((reached ops).list tenantId) question role limit) ↔
      ∀ m, Shadowed (reached ops) tenantId m → m.status = "promoted" → m.triggerTerms = [] := by
  have hvalid := valid_reached ops
  obtain ⟨listed, hlist, hids, hmem⟩ := (holds_reached ops).list_eq hvalid tenantId
  have hrows : ∀ question role limit, (reachedRows ops).discover tenantId question role limit =
      discover listed question role limit := by
    intro question role limit
    unfold SkillRows.discover
    split
    · rename_i hlimit
      unfold discover
      rw [if_pos hlimit]
    · rw [hlist]
      rfl
  have hlisted : ∀ m question role, m.isDiscoverable question role = true →
      (m ∈ listed ↔ (reached ops).get m.id tenantId = some m) := by
    intro m question role hm
    rw [hmem]
    constructor
    · rintro ⟨m', hget, rfl⟩
      rw [isDiscoverable_reread] at hm
      rw [reread_of_discoverable hm]
      exact hget
    · exact fun hget => ⟨m, hget, (reread_of_discoverable hm).symm⟩
  constructor
  · intro hsame m hshadowed hpromoted
    by_contra hterms
    obtain ⟨question, role, hfound⟩ := exists_discoverable hpromoted hterms
    -- with a high limit it is found in memory, and not in the table
    have hmemory := (mem_discover
      (le_max_left ((reached ops).list tenantId).length listed.length) question role m).mpr
        ⟨(mem_list hvalid tenantId m).mpr (.inl hshadowed.1), hfound⟩
    rw [← hsame, hrows, mem_discover (le_max_right _ _), hlisted m question role hfound,
      get_iff] at hmemory
    rcases hmemory.1 with hown | hshared
    · have hkeys := (hvalid.keyed _ _ hown).trans (hvalid.keyed _ _ hshadowed.1).symm
      exact hshadowed.2.1 (congrArg Prod.fst hkeys)
    · exact hshared.2 hshadowed
  · intro hshadowed question role limit
    rw [hrows]
    refine (discover_congr (nodup_list hvalid tenantId) hids (fun m hm => ?_) limit).symm
    rw [hlisted m question role hm, get_iff, mem_list hvalid]
    constructor
    · rintro (hshared | hown)
      · refine .inr ⟨hshared, fun h => ?_⟩
        -- a discoverable manifest is promoted and has a trigger term
        unfold SkillManifest.isDiscoverable at hm
        simp only [Bool.and_eq_true, decide_eq_true_eq] at hm
        have hnone := hshadowed m h hm.1.1
        have hhits := hm.2
        unfold SkillManifest.hits at hhits
        rw [hnone] at hhits
        exact absurd hhits (lt_irrefl 0)
      · exact .inl hown
    · rintro (hown | hshared)
      · exact .inr hown
      · exact .inl hshared.1

/-- A tenant's retired manifest hides the platform's in the table, and not in memory. -/
theorem registries_discover_differently :
    ¬ ∀ (ops : List RegistryOp) (tenantId : Option String) question role limit,
      (reachedRows ops).discover tenantId question role limit =
        discover ((reached ops).list tenantId) question role limit := by
  intro h
  have hsame := h (stockCatalogue ++ [.upsert { stockLookup with
    tenantId := some "tenant_a", status := "retired" } ["inventory"] ["get_stock"]])
    (some "tenant_a") "How much stock is left?" "manager" 3
  revert hsame
  decide +kernel

end ShelfWise.Skills
