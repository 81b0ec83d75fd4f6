import ShelfWise.Accounts.Workforce

/-!
# Requests at the same time

Any number of account requests whose store calls interleave in any order. A tenant keeps an active owner and
an activated account is never invited again as long as the checks of two routes still hold where their
writes happen (`guards_hold`): the check for another active owner of a deactivation, and the check for a
pending invitation of a link. The check of a change of role needs no such condition: no request makes an
owner, whatever the schedule (`changeRole_guarded`).

`guards_broken` has two schedules where a check no longer holds.
-/

namespace ShelfWise.Accounts

open Py Sys Sys.Program

/-! ## Pools of requests -/

/-- The store, and what each request has still to do. -/
abbrev RequestPool (ι : Type) := Program.Pool ι RouteCall AccountState (Except Exc RouteResponse)

/-- All requests before their first call, on an empty store. -/
def startRequests {ι : Type} (env : AccountEnv) (requests : ι → AccountRequest × RouteDraws) :
    RequestPool ι :=
  ⟨AccountState.empty, fun i => (requests i).1.program env (requests i).2⟩

/-- What a route has checked before the call still holds of the account the call meets. -/
def AccountCall.StillChecked (s : AccountStore) (key : String × String) (a : Account) :
    AccountCall → Prop
  | .setActive _ _ active => active = false → a.role = Role.owner.value →
      ∃ key' b, key' ≠ key ∧ s.get? key' = some b ∧ b.OwnsActively a.tenantId
  | .setInvitation .. => a.status = "invited"
  | _ => True

/-- The account a call is to change, and where it stands. -/
def AccountCall.met (s : AccountStore) (call : AccountCall) :
    Option ((String × String) × Account) :=
  call.target.bind fun named => (checkTenant named.1).toOption.bind fun tenant =>
    s.find tenant named.2

theorem AccountCall.meets_iff {s : AccountStore} {P : String × String → Account → Prop}
    {call : AccountCall} : call.Meets s P ↔ ∀ e ∈ call.met s, P e.1 e.2 := by
  constructor
  · intro h e hmet
    obtain ⟨named, htarget, hmet⟩ := Option.bind_eq_some_iff.mp hmet
    obtain ⟨tenant, htenant, hfind⟩ := Option.bind_eq_some_iff.mp hmet
    cases hcheck : checkTenant named.1 with
    | error e =>
      rw [hcheck] at htenant
      cases htenant
    | ok tenant' =>
      rw [hcheck] at htenant
      cases htenant
      exact h named.1 named.2 tenant e.1 e.2 htarget hcheck hfind
  · intro h tenantId accountId tenant key a htarget htenant hfind
    refine h (key, a) ?_
    show call.met s = some (key, a)
    unfold AccountCall.met
    rw [htarget, Option.bind_some, htenant]
    exact hfind

instance (s : AccountStore) (key : String × String) (a : Account) (call : AccountCall) :
    Decidable (call.StillChecked s key a) :=
  match call with
  | .setActive _ _ active => decidable_of_iff (active = false → a.role = Role.owner.value →
      ∃ e ∈ s.entries, e.1 ≠ key ∧ e.2.OwnsActively a.tenantId) (by
        refine imp_congr_right fun _ => imp_congr_right fun _ => ?_
        rw [exists_entry_iff (P := fun key' b => key' ≠ key ∧ b.OwnsActively a.tenantId)]
        exact exists_congr fun key' => exists_congr fun b => and_left_comm)
  | .setInvitation .. => inferInstanceAs (Decidable (a.status = "invited"))
  | .create .. => isTrue trivial
  | .createFirstOwner .. => isTrue trivial
  | .setRole .. => isTrue trivial
  | .setPassword .. => isTrue trivial
  | .activateInvitation .. => isTrue trivial
  | .setResetToken .. => isTrue trivial
  | .consumeResetToken .. => isTrue trivial

/-- What the label of a step must still have checked. -/
def labelHolds (s : AccountStore) : Option RouteCall → Bool
  | some (.change call _) => (call.met s).all fun e => decide (call.StillChecked s e.1 e.2)
  | _ => true

section Pools

variable {ι : Type} [DecidableEq ι]

/-- The check behind the call that a step makes still holds. -/
def CheckHolds (step : Step (RequestPool ι) ι Unit) : Prop :=
  ∀ call now, (step.before.program step.input).nextLabel = some (.change call now) →
    call.Meets step.before.store.accounts (call.StillChecked step.before.store.accounts)

omit [DecidableEq ι] in
theorem checkHolds_of_labelHolds {step : Step (RequestPool ι) ι Unit}
    (h : labelHolds step.before.store.accounts (step.before.program step.input).nextLabel = true) :
    CheckHolds step := by
  intro call now hlabel
  rw [hlabel] at h
  refine AccountCall.meets_iff.mpr fun e hmet => ?_
  exact of_decide_eq_true ((Option.all_eq_true _ _).mp h e hmet)

/-- A step that activates the invitation of the account under a key. -/
def Activates (tables : CharTables) (key : String × String)
    (step : Step (RequestPool ι) ι Unit) : Prop :=
  ∃ tenantId accountId tokenHash passwordHash now account,
    (step.before.program step.input).nextLabel =
      some (.change (.activateInvitation tenantId accountId tokenHash passwordHash) now) ∧
    (accountStep tables step.before.store.accounts
      (.activateInvitation tenantId accountId tokenHash passwordHash, now)).2 = .ok (some account) ∧
    (account.tenantId, account.email) = key

end Pools

/-- There is an account under the key, and it is not invited. -/
def Joined (key : String × String) (s : AccountStore) : Prop :=
  ∃ a, s.get? key = some a ∧ a.status ≠ "invited"

/-! ## What no schedule breaks -/

/-- A call that gives no one the role of an owner and changes no owner's role, where it is made. -/
structure AccountCall.RoleSafe (s : AccountStore) (call : AccountCall) : Prop where
  lawful : ∃ uuid4, call.Lawful uuid4
  meets : call.setsRole = true → call.Meets s fun _ a => a.role ≠ Role.owner.value

section Roles

variable {tables : CharTables} {s : AccountStore} {call : AccountCall}

theorem AccountCall.apply_role_ne {uuid4 : String} (hcall : call.Lawful uuid4) (now : Moment)
    {a : Account} (h : a.role ≠ Role.owner.value) : (call.apply now a).role ≠ Role.owner.value := by
  cases call with
  | setRole => exact hcall
  | create => exact h
  | createFirstOwner => exact h
  | setActive => exact h
  | setPassword => exact h
  | setInvitation => exact h
  | activateInvitation => exact h
  | setResetToken => exact h
  | consumeResetToken => exact h

theorem rolesKept_accountStep (hs : Valid s) {uuid4 : String} (hcall : call.Lawful uuid4)
    (now : Moment) : RolesKept s (accountStep tables s (call, now)).1 := by
  intro tenant accountId key a hfind hrole
  have heffect := accountStep_effect tables s now call
  generalize accountStep tables s (call, now) = result at heffect
  cases heffect with
  | refused e => exact ⟨a, hfind, hrole⟩
  | missed => exact ⟨a, hfind, hrole⟩
  | created b hcreates =>
    refine ⟨a, ?_, hrole⟩
    rw [AccountStore.find_set_fresh (hcreates.fresh hs.keyed), hfind, Option.some_or]
  | changed tenantId accountId' tenant' key' b htarget htenant hmet haccepts =>
    have hget := (AccountStore.get?_of_find hmet).1
    rw [AccountStore.find_set hget (call.apply_tenantId now b) (call.apply_id now b), hfind,
      Option.map_some]
    by_cases hkey : key = key'
    · subst hkey
      have hsame := (AccountStore.get?_of_find hfind).1
      rw [hget] at hsame
      cases hsame
      exact ⟨_, congrArg some (if_pos rfl), call.apply_role_ne hcall now hrole⟩
    · exact ⟨a, congrArg some (if_neg hkey), hrole⟩

/-- A call that is safe for the roles is one that others can live with. -/
theorem rolesStay_routeAct {label : RouteCall} {w : AccountState}
    (h : label.Changes (AccountCall.RoleSafe w.accounts)) :
    RolesStay w (routeAct tables label w) := by
  intro hs
  refine routeAct_keeps (K := fun s => Valid s ∧ RolesKept w.accounts s)
    (P := fun s call => s = w.accounts ∧ call.RoleSafe s) ?_
    ⟨hs, fun _ _ _ a hfind hrole => ⟨a, hfind, hrole⟩⟩ (h.mono fun _ hsafe => ⟨rfl, hsafe⟩)
  rintro s call now ⟨hvalid, -⟩ ⟨rfl, hsafe⟩
  obtain ⟨uuid4, hlawful⟩ := hsafe.lawful
  exact ⟨hvalid.step _, rolesKept_accountStep hvalid hlawful now⟩

end Roles

theorem rolesStay_refl (w : AccountState) : RolesStay w w :=
  fun hs => ⟨hs, fun _ _ _ a hfind hrole => ⟨a, hfind, hrole⟩⟩

theorem rolesStay_trans (w w' w'' : AccountState) (h : RolesStay w w') (h' : RolesStay w' w'') :
    RolesStay w w'' := by
  intro hs
  obtain ⟨hs', hkept⟩ := h hs
  obtain ⟨hs'', hkept'⟩ := h' hs'
  refine ⟨hs'', fun tenant accountId key a hfind hrole => ?_⟩
  obtain ⟨a', hfind', hrole'⟩ := hkept tenant accountId key a hfind hrole
  exact hkept' tenant accountId key a' hfind' hrole'

/-- Among the others, no request takes an owner's role or gives one. -/
theorem request_roleSafe (env : AccountEnv) (o : RouteDraws) (r : AccountRequest) {w : AccountState}
    (hs : Valid w.accounts) : (r.program env o).Guarded (routeAct env.tables) RolesStay
      (fun label w => label.Changes (AccountCall.RoleSafe w.accounts)) w := by
  have hroleless : ∀ (label : RouteCall) (w : AccountState),
      label.Changes (AccountCall.Roleless o.newId) →
        label.Changes (AccountCall.RoleSafe w.accounts) := by
    intro label w h
    refine h.mono fun call hcall => ⟨⟨o.newId, hcall.1⟩, fun hsets => ?_⟩
    rw [hcall.2] at hsets
    cases hsets
  by_cases hchecked : r.checked = false
  · exact (unchecked_uses env o hchecked).guarded
      (fun label w h => hroleless label w (h.mono fun _ hplain => hplain.roleless)) w
  · cases r with
    | invite context body role =>
      exact (inviteWorkAccount_uses env o context body role).guarded hroleless w
    | resend context accountId =>
      exact (resendWorkAccountInvitation_uses env o context accountId).guarded hroleless w
    | deactivate context accountId =>
      exact (deactivateWorkAccount_uses env o context accountId).guarded hroleless w
    | reactivate context accountId =>
      exact (reactivateWorkAccount_uses env o context accountId).guarded hroleless w
    | changeRole context accountId role =>
      refine (changeRole_guarded env o hs context accountId role).mono fun label w h => ?_
      exact h.mono fun call hcall => ⟨⟨o.newId, hcall.1⟩, fun _ => hcall.2.2⟩
    | bootstrap => exact absurd rfl hchecked
    | login => exact absurd rfl hchecked
    | activate => exact absurd rfl hchecked
    | requestReset => exact absurd rfl hchecked
    | consumeReset => exact absurd rfl hchecked
    | changePassword => exact absurd rfl hchecked
    | create => exact absurd rfl hchecked
    | ownerReset => exact absurd rfl hchecked

/-! ## What a call does where its check still holds -/

section Calls

variable {tables : CharTables} {s : AccountStore} {call : AccountCall}

/-- A call whose check still holds leaves a tenant an active owner. -/
theorem spares_of_stillChecked (hcoherent : Coherent s) (hsafe : call.RoleSafe s)
    (hchecked : call.Meets s (call.StillChecked s)) : call.Meets s (call.Spares s) := by
  intro tenantId accountId tenant key a htarget htenant hfind
  have hcheck := hchecked tenantId accountId tenant key a htarget htenant hfind
  cases call with
  | setActive => exact hcheck
  | setRole => exact hsafe.meets rfl tenantId accountId tenant key a htarget htenant hfind
  | setInvitation =>
    have hinvited : a.status = "invited" := hcheck
    show a.active = false
    rw [← Bool.not_eq_true, hcoherent key a (AccountStore.get?_of_find hfind).1, hinvited]
    decide
  | create => trivial
  | createFirstOwner => trivial
  | setPassword => trivial
  | activateInvitation => trivial
  | setResetToken => trivial
  | consumeResetToken => trivial

theorem AccountCall.apply_status_ne (now : Moment) {key : String × String} {a : Account}
    (hchecked : call.StillChecked s key a) (h : a.status ≠ "invited") :
    (call.apply now a).status ≠ "invited" := by
  cases call with
  | setActive tenantId accountId active =>
    cases active with
    | true => exact (show "active" ≠ "invited" by decide)
    | false => exact (show "inactive" ≠ "invited" by decide)
  | setInvitation => exact absurd hchecked h
  | activateInvitation => exact (show "active" ≠ "invited" by decide)
  | create => exact h
  | createFirstOwner => exact h
  | setRole => exact h
  | setPassword => exact h
  | setResetToken => exact h
  | consumeResetToken => exact h

theorem Joined.step {key : String × String} (h : Joined key s) (hs : Valid s)
    (hchecked : call.Meets s (call.StillChecked s)) (now : Moment) :
    Joined key (accountStep tables s (call, now)).1 := by
  obtain ⟨a, hget, hstatus⟩ := h
  have heffect := accountStep_effect tables s now call
  generalize accountStep tables s (call, now) = result at heffect
  cases heffect with
  | refused e => exact ⟨a, hget, hstatus⟩
  | missed => exact ⟨a, hget, hstatus⟩
  | created b hcreates =>
    have hne : b.key ≠ key := fun hkey => by
      have hfresh := hcreates.fresh hs.keyed
      rw [hkey, hget] at hfresh
      cases hfresh
    exact ⟨a, (Dict.get?_set_ne s hne b).trans hget, hstatus⟩
  | changed tenantId accountId tenant key' b htarget htenant hfind haccepts =>
    by_cases hkey : key' = key
    · subst hkey
      have hsame := (AccountStore.get?_of_find hfind).1
      rw [hget] at hsame
      cases hsame
      have hcheck := hchecked tenantId accountId tenant key' a htarget htenant hfind
      exact ⟨_, Dict.get?_set_self _ _ _, call.apply_status_ne now hcheck hstatus⟩
    · exact ⟨a, (Dict.get?_set_ne s hkey _).trans hget, hstatus⟩

/-- An account whose invitation is activated has joined. -/
theorem joined_of_activation (hs : Valid s) {now : Moment}
    {tenantId accountId tokenHash passwordHash : String} {account : PublicAccount}
    (h : (accountStep tables s (.activateInvitation tenantId accountId tokenHash passwordHash,
      now)).2 = .ok (some account)) : Joined (account.tenantId, account.email)
        (accountStep tables s (.activateInvitation tenantId accountId tokenHash passwordHash,
          now)).1 := by
  have heffect := accountStep_effect tables s now
    (.activateInvitation tenantId accountId tokenHash passwordHash)
  generalize accountStep tables s (.activateInvitation tenantId accountId tokenHash passwordHash,
    now) = result at heffect h ⊢
  cases heffect with
  | refused e => cases h
  | missed => cases h
  | created a hcreates => exact False.elim hcreates
  | changed tenantId' accountId' tenant key a htarget htenant hfind haccepts =>
    cases h
    refine ⟨AccountCall.apply now a (.activateInvitation tenantId accountId tokenHash passwordHash),
      ?_, (show "active" ≠ "invited" by decide)⟩
    have hkey := hs.keyed key a (AccountStore.get?_of_find hfind).1
    show (s.set key _).get? a.key = _
    rw [← hkey]
    exact Dict.get?_set_self _ _ _

end Calls

/-! ## Every schedule -/

section Schedules

variable {ι : Type} [DecidableEq ι] {env : AccountEnv} {w : RequestPool ι}

/-- What holds of a pool whatever has happened. -/
structure Kept (env : AccountEnv) (w : RequestPool ι) : Prop where
  guarded : ∀ i, (w.program i).Guarded (routeAct env.tables) RolesStay
    (fun label w => label.Changes (AccountCall.RoleSafe w.accounts)) w.store
  valid : Valid w.store.accounts
  coherent : Coherent w.store.accounts

omit [DecidableEq ι] in
theorem kept_start (requests : ι → AccountRequest × RouteDraws) :
    Kept env (startRequests env requests) where
  guarded i := request_roleSafe env _ _ valid_empty
  valid := valid_empty
  coherent key a hget := by cases hget

/-- What a step does: nothing to the accounts, or an account call that is safe for the roles. -/
theorem Kept.effect (h : Kept env w) (i : ι) :
    (∀ j, ((w.tick i).program j).Guarded (routeAct env.tables) RolesStay
      (fun label w => label.Changes (AccountCall.RoleSafe w.accounts)) (w.tick i).store) ∧
    ((w.tick i).store.accounts = w.store.accounts ∧
        (∀ call now, (w.program i).nextLabel ≠ some (.change call now)) ∨
      ∃ call now, (w.program i).nextLabel = some (.change call now) ∧
        call.RoleSafe w.store.accounts ∧
          (w.tick i).store.accounts = (accountStep env.tables w.store.accounts (call, now)).1) := by
  obtain ⟨hguarded, heffect⟩ := guarded_tick rolesStay_refl rolesStay_trans
    (fun label w hsafe => rolesStay_routeAct hsafe) h.guarded i
  refine ⟨hguarded, ?_⟩
  rcases heffect with ⟨hnone, hsame⟩ | ⟨label, hlabel, hsafe, hstore⟩
  · rw [hsame, hnone]
    exact .inl ⟨rfl, fun _ _ h => by cases h⟩
  · rw [hstore, hlabel]
    cases label with
    | change call now => exact .inr ⟨call, now, rfl, hsafe, rfl⟩
    | getByEmail => exact .inl ⟨rfl, fun _ _ h => by cases h⟩
    | getById => exact .inl ⟨rfl, fun _ _ h => by cases h⟩
    | list => exact .inl ⟨rfl, fun _ _ h => by cases h⟩
    | recordAudit =>
      exact .inl ⟨routeAct_keeps (K := fun s => s = w.store.accounts) (P := fun _ _ => False)
        (fun _ _ _ _ h => h.elim) rfl trivial, fun _ _ h => by cases h⟩

theorem Kept.tick (h : Kept env w) (i : ι) : Kept env (w.tick i) := by
  obtain ⟨hguarded, ⟨hsame, -⟩ | ⟨call, now, -, hsafe, hafter⟩⟩ := h.effect i
  · exact ⟨hguarded, by rw [hsame]; exact h.valid, by rw [hsame]; exact h.coherent⟩
  · obtain ⟨uuid4, hlawful⟩ := hsafe.lawful
    refine ⟨hguarded, ?_, ?_⟩
    · rw [hafter]
      exact h.valid.step _
    · rw [hafter]
      exact h.coherent.step hlawful now

/-- A step whose check still holds leaves a tenant an active owner. -/
theorem Kept.hasActiveOwner_tick (h : Kept env w) {i : ι}
    (hchecked : CheckHolds (stepOf Pool.step w i)) {tenant : String}
    (howner : HasActiveOwner tenant w.store.accounts) :
    HasActiveOwner tenant (w.tick i).store.accounts := by
  obtain ⟨-, ⟨hsame, -⟩ | ⟨call, now, hlabel, hsafe, hafter⟩⟩ := h.effect i
  · rw [hsame]
    exact howner
  · rw [hafter]
    exact howner.step h.valid (spares_of_stillChecked h.coherent hsafe (hchecked call now hlabel)) now

/-- A step whose check still holds invites no one who has joined. -/
theorem Kept.joined_tick (h : Kept env w) {i : ι} (hchecked : CheckHolds (stepOf Pool.step w i))
    {key : String × String} (hjoined : Joined key w.store.accounts) :
    Joined key (w.tick i).store.accounts := by
  obtain ⟨-, ⟨hsame, -⟩ | ⟨call, now, hlabel, hsafe, hafter⟩⟩ := h.effect i
  · rw [hsame]
    exact hjoined
  · rw [hafter]
    exact hjoined.step h.valid (hchecked call now hlabel) now

theorem Kept.joined_of_activates (h : Kept env w) {i : ι} {key : String × String}
    (hactivates : Activates env.tables key (stepOf Pool.step w i)) :
    Joined key (w.tick i).store.accounts := by
  obtain ⟨tenantId, accountId, tokenHash, passwordHash, now, account, hlabel, hreply, hkey⟩ :=
    hactivates
  change (w.program i).nextLabel = _ at hlabel
  obtain ⟨-, ⟨-, hnone⟩ | ⟨call, now', hlabel', -, hafter⟩⟩ := h.effect i
  · exact absurd hlabel (hnone _ _)
  · rw [hlabel] at hlabel'
    cases hlabel'
    rw [hafter, ← hkey]
    exact joined_of_activation h.valid hreply

/-- **The guards hold.** In any schedule of any requests whose checks still hold where their writes happen, a
tenant that has an active owner at some moment has one at every later moment, and an account whose
invitation has been activated is not invited. -/
theorem guards_hold (env : AccountEnv) (requests : ι → AccountRequest × RouteDraws)
    (schedule later : List ι)
    (hchecked : ∀ step ∈ trace Pool.step (startRequests env requests) (schedule ++ later),
      CheckHolds step) :
    (∀ tenant, HasActiveOwner tenant
        (final Pool.step (startRequests env requests) schedule).store.accounts →
      HasActiveOwner tenant
        (final Pool.step (startRequests env requests) (schedule ++ later)).store.accounts) ∧
    ∀ key, (∃ step ∈ trace Pool.step (startRequests env requests) (schedule ++ later),
        Activates env.tables key step) →
      Joined key
        (final Pool.step (startRequests env requests) (schedule ++ later)).store.accounts := by
  have hkept : ∀ schedule, Kept env (final Pool.step (startRequests env requests) schedule) :=
    invariant_final (fun _ i h => h.tick i) (kept_start requests)
  refine ⟨fun tenant howner => ?_, fun key hactivated => ?_⟩
  · rw [final_append]
    rw [trace_append] at hchecked
    exact (invariant_of_guarded
      (I := fun w => Kept env w ∧ HasActiveOwner tenant w.store.accounts)
      (fun w i h hholds => ⟨h.1.tick i, h.1.hasActiveOwner_tick hholds h.2⟩)
      ⟨hkept schedule, howner⟩ later
      fun step hm => hchecked step (List.mem_append_right _ hm)).2
  · exact final_of_brought_about (fun _ i h => Kept.tick h i)
      (fun _ _ h hactivates => h.joined_of_activates hactivates)
      (fun _ _ h hholds hjoined => h.joined_tick hholds hjoined) (kept_start requests) hchecked
      hactivated

end Schedules

/-! ### Schedules of four requests -/

/-- The deployment, with a configured legacy owner and a link for the worker. -/
def raceEnv : AccountEnv := { exampleEnv with
  crypto := { exampleEnv.crypto with verifyAccountToken := fun _ _ => .ok ⟨"tenant_a", "acc_2"⟩ }
  loginEmail := "legacy@ubuntu.test"
  loginPasswordHash := "scrypt$0102$0000"
  legacyOwnerRecovery := "true" }

/-- The requests of a list, by their place in it. -/
def requestAt (requests : List (AccountRequest × RouteDraws)) (i : ℕ) :
    AccountRequest × RouteDraws :=
  requests.getD i bootstrapRequest

/-- A worker is invited; the invitation is sent again while the worker activates it. -/
def invitationRace : ℕ → AccountRequest × RouteDraws := requestAt [bootstrapRequest,
  (.invite ownerSession workerBody .inventory, julyDraws "acc_2"),
  (.resend ownerSession "acc_2", julyDraws "acc_3"),
  (.activate "token-of-acc_2" workerBody "worker-password-1", julyDraws "acc_4")]

/-- The session of the legacy owner, whom the recovery login has made the second owner. -/
def legacySession : TenantContext := ⟨"tenant_a", "acc_2", .owner, some 1, false⟩

/-- Two owners deactivate each other. -/
def ownersRace : ℕ → AccountRequest × RouteDraws := requestAt [bootstrapRequest,
  (.login "legacy@ubuntu.test" "legacy-password-1", julyDraws "acc_2"),
  (.deactivate ownerSession "acc_2", julyDraws "acc_3"),
  (.deactivate legacySession "acc_1", julyDraws "acc_4")]

/-- Where the worker of the race stands. -/
def workerKey : String × String := ("tenant_a", "receiver@example.test")

/-- The worker activates the invitation in the last step of this schedule. -/
def activationSchedule : List ℕ := [1, 1, 1, 1, 2, 3, 3]

/-- The pool before the worker's activation is written. -/
def beforeActivation : RequestPool ℕ :=
  final Pool.step (startRequests raceEnv invitationRace) [0, 0, 0, 1, 1, 1, 1, 2, 3]

/-- The write of the worker's activation. -/
def workerActivation : AccountCall :=
  .activateInvitation "tenant_a" "acc_2" (tokenDigest "token-of-acc_2")
    (scryptPasswordHash raceEnv.crypto "worker-password-1" [1, 2])

theorem activates_worker (later : List ℕ) : ∃ step ∈ trace Pool.step
    (startRequests raceEnv invitationRace) ([0, 0, 0] ++ activationSchedule ++ later),
      Activates raceEnv.tables workerKey step := by
  have hreply : ((accountStep raceEnv.tables beforeActivation.store.accounts
      (workerActivation, julyMoment)).2.map
        (Option.map fun a => (a.tenantId, a.email))) = .ok (some workerKey) := by decide +kernel
  have hlabel : (beforeActivation.program 3).nextLabel =
      some (.change workerActivation julyMoment) := by decide +kernel
  refine ⟨stepOf Pool.step beforeActivation 3, ?_, ?_⟩
  · rw [trace_append]
    refine List.mem_append_left _ ?_
    rw [show [0, 0, 0] ++ activationSchedule = [0, 0, 0, 1, 1, 1, 1, 2, 3] ++ [3] from rfl,
      trace_append]
    exact List.mem_append_right _ List.mem_cons_self
  · cases hanswer : (accountStep raceEnv.tables beforeActivation.store.accounts
      (workerActivation, julyMoment)).2 with
    | error e =>
      rw [hanswer] at hreply
      cases hreply
    | ok account =>
      rw [hanswer] at hreply
      obtain ⟨a, rfl, hkey⟩ := Option.map_eq_some_iff.mp (Except.ok.inj hreply)
      exact ⟨_, _, _, _, _, a, hlabel, hanswer, hkey⟩

/-- When the worker has activated the invitation before anything is sent again, the owner is there and the
worker has joined. -/
theorem guards_hold_activation :
    HasActiveOwner "tenant_a" (final Pool.step (startRequests raceEnv invitationRace)
        ([0, 0, 0] ++ activationSchedule)).store.accounts ∧
      Joined workerKey (final Pool.step (startRequests raceEnv invitationRace)
        ([0, 0, 0] ++ activationSchedule)).store.accounts := by
  have hall : ((trace Pool.step (startRequests raceEnv invitationRace)
      ([0, 0, 0] ++ activationSchedule)).all fun step =>
        labelHolds step.before.store.accounts (step.before.program step.input).nextLabel) = true := by
    decide +kernel
  obtain ⟨howner, hjoined⟩ := guards_hold raceEnv invitationRace [0, 0, 0] activationSchedule
    fun step hm => checkHolds_of_labelHolds (List.all_eq_true.mp hall step hm)
  refine ⟨howner "tenant_a" (by decide +kernel), hjoined workerKey ?_⟩
  have hactivates := activates_worker []
  rw [List.append_nil] at hactivates
  exact hactivates

/-- **The guards broken.** Two owners who deactivate each other, each after having counted two, leave none;
and an invitation that is sent again by a request that has read the account before its activation invites
the worker anew. -/
theorem guards_broken :
    (HasActiveOwner "tenant_a" (final Pool.step (startRequests raceEnv ownersRace)
        [0, 0, 0, 1, 1, 1, 1, 1]).store.accounts ∧
      ¬ HasActiveOwner "tenant_a" (final Pool.step (startRequests raceEnv ownersRace)
        ([0, 0, 0, 1, 1, 1, 1, 1] ++ [2, 2, 3, 3, 2, 3])).store.accounts) ∧
    (∃ step ∈ trace Pool.step (startRequests raceEnv invitationRace)
        ([0, 0, 0] ++ activationSchedule ++ [2]), Activates raceEnv.tables workerKey step) ∧
      ((final Pool.step (startRequests raceEnv invitationRace)
        ([0, 0, 0] ++ activationSchedule ++ [2])).store.accounts.get? workerKey).map
          Account.status = some "invited" :=
  ⟨⟨by decide +kernel, by decide +kernel⟩, activates_worker [2], by decide +kernel⟩

end ShelfWise.Accounts
