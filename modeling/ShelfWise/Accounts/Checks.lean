import Mathlib.Data.Finset.Card
import ShelfWise.Accounts.Standing

/-!
# The checks of the account routes

What the routes that look at an account's standing know when they change it. Run alone, such a route only
makes calls that are sound where they are made (`deactivate_sound` and the others); the change of a role is
safe among other requests as well, because no request makes an owner (`changeRole_guarded`).
-/

namespace ShelfWise.Accounts

open Py Sys Sys.Program

/-! ## Sound calls -/

/-- A call that keeps the standing of the accounts in order, where it is made. -/
structure AccountCall.Sound (uuid4 : String) (s : AccountStore) (call : AccountCall) : Prop where
  lawful : call.Lawful uuid4
  meets : call.Meets s fun key a => call.Credits a ∧ call.Spares s key a

/-- Of the calls of a route, those that can change the accounts are sound. -/
abbrev RouteCall.Sound (uuid4 : String) (label : RouteCall) (w : AccountState) : Prop :=
  label.Changes (AccountCall.Sound uuid4 w.accounts)

variable {uuid4 : String} {s : AccountStore} {call : AccountCall}

theorem AccountCall.Sound.credits (h : call.Sound uuid4 s) :
    call.Meets s fun _ a => call.Credits a :=
  fun tenantId accountId tenant key a htarget htenant hfind =>
    (h.meets tenantId accountId tenant key a htarget htenant hfind).1

theorem AccountCall.Sound.spares (h : call.Sound uuid4 s) : call.Meets s (call.Spares s) :=
  fun tenantId accountId tenant key a htarget htenant hfind =>
    (h.meets tenantId accountId tenant key a htarget htenant hfind).2

theorem AccountCall.Plain.sound (h : call.Plain uuid4) (key : String × String) (a : Account)
    (s : AccountStore) : call.Credits a ∧ call.Spares s key a := by
  obtain ⟨-, hchecked⟩ := h
  cases call with
  | setActive => cases hchecked
  | setRole => cases hchecked
  | setInvitation => cases hchecked
  | create => exact ⟨trivial, trivial⟩
  | createFirstOwner => exact ⟨trivial, trivial⟩
  | setPassword => exact ⟨trivial, trivial⟩
  | activateInvitation => exact ⟨trivial, trivial⟩
  | setResetToken => exact ⟨trivial, trivial⟩
  | consumeResetToken => exact ⟨trivial, trivial⟩

theorem sound_of_plain (label : RouteCall) (w : AccountState)
    (h : label.Changes (AccountCall.Plain uuid4)) : label.Sound uuid4 w :=
  h.mono fun _ hplain => ⟨hplain.1, fun _ _ _ key a _ _ _ => hplain.sound key a w.accounts⟩

/-- A route that changes nothing more. -/
theorem sound_of_quiet (label : RouteCall) (w : AccountState) (h : label.Changes fun _ => False) :
    label.Sound uuid4 w := h.mono fun _ hfalse => hfalse.elim

/-- The requests that do not look at an account's standing are sound. -/
theorem unchecked_sound (env : AccountEnv) (o : RouteDraws) {r : AccountRequest}
    (hr : r.checked = false) (w : AccountState) :
    (r.program env o).Guarded (routeAct env.tables) Eq (RouteCall.Sound o.newId) w :=
  (unchecked_uses env o hr).guarded sound_of_plain w

/-! ## What a route finds -/

theorem AccountStore.find_of_getById {tenantId accountId : String} {a : Account}
    (h : s.getById tenantId accountId = .ok (some a)) :
    ∃ tenant key, checkTenant tenantId = .ok tenant ∧ s.find tenant accountId = some (key, a) := by
  unfold AccountStore.getById at h
  split at h
  · cases h
  · obtain ⟨tenant, htenant, h⟩ := bind_eq_ok_iff.mp h
    obtain ⟨e, hfind, hsame⟩ := Option.map_eq_some_iff.mp (Except.ok.inj h)
    subst hsame
    exact ⟨tenant, e.1, htenant, hfind⟩

/-- The tenant of a stored account names itself. -/
theorem Valid.checkTenant_eq (hs : Valid s) {key : String × String} {a : Account}
    (hget : s.get? key = some a) {tenant : String} (h : checkTenant a.tenantId = .ok tenant) :
    tenant = a.tenantId := by
  unfold checkTenant at h
  split at h
  · cases h
  · cases h
    exact hs.stripped key a hget

theorem orHttp_guarded {α β : Type} {tables : CharTables}
    {rely : AccountState → AccountState → Prop} {I : RouteCall → AccountState → Prop}
    {statusCode : ℕ} {detail : String} {found : Option α} {k : α → RouteProgram β} {w : AccountState}
    (h : ∀ a, found = some a → (k a).Guarded (routeAct tables) rely I w) :
    ((orHttp statusCode detail found).bindExcept k).Guarded (routeAct tables) rely I w := by
  cases found with
  | none => trivial
  | some a => exact h a rfl

section Alone

variable {tables : CharTables} {I : RouteCall → AccountState → Prop} {w : AccountState}

/-- A route that runs alone goes on with the account it has read. -/
theorem getById_guarded {β : Type} {tenantId accountId : String}
    {k : Option Account → RouteProgram β} (hI : I (.getById tenantId accountId) w)
    (h : ∀ found, w.accounts.getById tenantId accountId = .ok found →
      (k found).Guarded (routeAct tables) Eq I w) :
    ((getById tenantId accountId).bindExcept k).Guarded (routeAct tables) Eq I w :=
  guarded_call_bindExcept rfl fun s' hsame => by
    subst hsame
    exact ⟨hI, h⟩

/-- The last change of a route that runs alone. -/
theorem changeAccount_guarded {β : Type} {call : AccountCall} {now : Moment}
    {k : Option PublicAccount → RouteProgram β} (hI : I (.change call now) w)
    (hquiet : ∀ label w, label.Changes (fun _ => False) → I label w)
    (h : ∀ account, (k account).Uses (routeAct tables) (RouteCall.Changes fun _ => False)) :
    ((changeAccount tables call now).bindExcept k).Guarded (routeAct tables) Eq I w :=
  guarded_call_bindExcept rfl fun s' hsame => by
    subst hsame
    exact ⟨hI, fun account _ => (h account).guarded hquiet _⟩

end Alone

/-! ## Deactivation -/

/-- Where two owners are active, there is one beside any account. -/
theorem exists_other_owner {tenantId tenant : String} {accounts : List PublicAccount}
    (hlist : s.list tenantId = .ok accounts) (htenant : checkTenant tenantId = .ok tenant)
    (hmany : ¬ (activeOwners accounts).length ≤ 1) (key : String × String) :
    ∃ key' b, key' ≠ key ∧ s.get? key' = some b ∧ b.OwnsActively tenant := by
  unfold AccountStore.list at hlist
  rw [htenant] at hlist
  have hrows := Except.ok.inj hlist
  -- the entries of the active owners
  let owners := s.entries.filter fun e => decide (e.2.tenantId = tenant) &&
    (decide (e.2.role = Role.owner.value) && e.2.active)
  have hlength : (activeOwners accounts).length = owners.length := by
    rw [← hrows]
    unfold activeOwners Dict.values
    rw [((sortedBy_perm _ _).filter _).length_eq, List.filter_map, List.filter_filter,
      List.length_map, List.filter_map, List.length_map]
    congr 1
    refine List.filter_congr fun e _ => ?_
    simp only [Function.comp, Account.public, Bool.and_comm]
    rfl
  have hnodup : (owners.map Prod.fst).Nodup :=
    s.nodupKeys.sublist (List.Sublist.map _ List.filter_sublist)
  have hcard : 1 < (owners.map Prod.fst).toFinset.card := by
    rw [List.toFinset_card_of_nodup hnodup, List.length_map]
    omega
  obtain ⟨key', hmem, hne⟩ := Finset.exists_mem_ne hcard key
  obtain ⟨e, he, rfl⟩ := List.mem_map.mp (List.mem_toFinset.mp hmem)
  obtain ⟨hentry, howns⟩ := List.mem_filter.mp he
  simp only [Bool.and_eq_true, decide_eq_true_eq] at howns
  exact ⟨e.1, e.2, hne, (s.mem_entries_iff e.1 e.2).mp hentry, ⟨howns.1, howns.2.1, howns.2.2⟩⟩

section Routes

variable (env : AccountEnv) (o : RouteDraws) {w : AccountState}

theorem setInactive_sound (context : TenantContext) (accountId : String)
    (h : (AccountCall.setActive context.tenantId accountId false).Meets w.accounts fun key a =>
      a.role = Role.owner.value →
        ∃ key' b, key' ≠ key ∧ w.accounts.get? key' = some b ∧ b.OwnsActively a.tenantId) :
    (setInactive env o context accountId).Guarded (routeAct env.tables) Eq
      (RouteCall.Sound o.newId) w := by
  refine changeAccount_guarded ⟨trivial, ?_⟩ sound_of_quiet fun _ => auditAndAnswer_uses _ _ _ _ _ _
  intro tenantId' accountId' tenant key a htarget htenant hfind
  exact ⟨fun htrue => absurd htrue Bool.false_ne_true,
    fun _ => h tenantId' accountId' tenant key a htarget htenant hfind⟩

theorem deactivate_sound (context : TenantContext) (accountId : String) :
    (deactivateWorkAccount env o context accountId).Guarded (routeAct env.tables) Eq
      (RouteCall.Sound o.newId) w := by
  unfold deactivateWorkAccount
  split
  · trivial
  · refine getById_guarded trivial fun found hfound => orHttp_guarded fun current hcurrent => ?_
    subst hcurrent
    obtain ⟨tenant, key, htenant, hfind⟩ := AccountStore.find_of_getById hfound
    -- the account of the deactivation is the one the route has looked at
    have hmeets : ∀ {P : String × String → Account → Prop}, P key current →
        (AccountCall.setActive context.tenantId accountId false).Meets w.accounts P := by
      intro P hP tenantId' accountId' tenant' key' a htarget htenant' hfind'
      cases htarget
      rw [htenant] at htenant'
      cases htenant'
      rw [hfind] at hfind'
      cases hfind'
      exact hP
    split
    · refine guarded_call_bindExcept rfl fun s' hsame => ?_
      subst hsame
      refine ⟨trivial, fun accounts hlist => ?_⟩
      dsimp only
      split
      · trivial
      · rename_i hmany
        refine setInactive_sound env o context accountId (hmeets fun _ => ?_)
        rw [(AccountStore.get?_of_find hfind).2.1]
        exact exists_other_owner hlist htenant hmany key
    · rename_i hrole
      exact setInactive_sound env o context accountId (hmeets fun howner => absurd howner hrole)

/-! ## Reactivation -/

/-- The accounts a reactivation brings back have a credential. -/
def AccountRequest.CreditedIn (w : AccountState) : AccountRequest → Prop
  | .reactivate context accountId => ∀ a,
    w.accounts.getById context.tenantId accountId = .ok (some a) → a.status ≠ "invited" →
      a.passwordHash ≠ ""
  | _ => True

theorem reactivate_sound (context : TenantContext) (accountId : String)
    (h : (AccountRequest.reactivate context accountId).CreditedIn w) :
    (reactivateWorkAccount env o context accountId).Guarded (routeAct env.tables) Eq
      (RouteCall.Sound o.newId) w := by
  refine getById_guarded trivial fun found hfound => orHttp_guarded fun current hcurrent => ?_
  subst hcurrent
  obtain ⟨tenant, key, htenant, hfind⟩ := AccountStore.find_of_getById hfound
  split
  · trivial
  · rename_i hstatus
    refine changeAccount_guarded ⟨trivial, ?_⟩ sound_of_quiet fun _ => auditAndAnswer_uses _ _ _ _ _ _
    intro tenantId' accountId' tenant' key' a htarget htenant' hfind'
    cases htarget
    rw [htenant] at htenant'
    cases htenant'
    rw [hfind] at hfind'
    cases hfind'
    exact ⟨fun _ => h current hfound hstatus, fun hfalse => absurd hfalse Bool.false_ne_true.symm⟩

/-! ## Invitations -/

/-- The last change of a route that sends an invitation to an account that is not active. -/
theorem issueAndSendInvitation_sound {β : Type} {account : Account} {k : Unit → RouteProgram β}
    (h : (AccountCall.setInvitation account.tenantId account.id (tokenDigest o.token)
      o.expiresAt).Meets w.accounts fun _ a => a.active = false)
    (hk : ∀ u, (k u).Uses (routeAct env.tables) (RouteCall.Changes fun _ => False)) :
    ((issueAndSendInvitation env o account).bindExcept k).Guarded (routeAct env.tables) Eq
      (RouteCall.Sound o.newId) w := by
  refine Guarded.bindExcept_uses ?_ hk sound_of_quiet
  unfold issueAndSendInvitation
  split
  · trivial
  · split
    · trivial
    · refine changeAccount_guarded ⟨trivial, ?_⟩ sound_of_quiet fun stored =>
        uses_bindExcept (orHttp_uses _ _ _) fun _ => trivial
      intro tenantId accountId tenant key a htarget htenant hfind
      exact ⟨trivial, h tenantId accountId tenant key a htarget htenant hfind⟩

theorem resend_sound (hs : Valid w.accounts) (hcoherent : Coherent w.accounts)
    (context : TenantContext) (accountId : String) :
    (resendWorkAccountInvitation env o context accountId).Guarded (routeAct env.tables) Eq
      (RouteCall.Sound o.newId) w := by
  refine guarded_ret_bindExcept fun _ _ => ?_
  refine getById_guarded trivial fun found hfound => orHttp_guarded fun account hcurrent => ?_
  subst hcurrent
  obtain ⟨tenant, key, htenant, hfind⟩ := AccountStore.find_of_getById hfound
  split
  · trivial
  · rename_i hstatus
    refine issueAndSendInvitation_sound env o ?_ fun _ => auditAndAnswer_uses _ _ _ _ _ _
    intro tenantId' accountId' tenant' key' a htarget htenant' hfind'
    cases htarget
    obtain ⟨hget, hin, hid⟩ := AccountStore.get?_of_find hfind
    rw [hs.checkTenant_eq hget htenant', hin, hid, hfind] at hfind'
    cases hfind'
    rw [← Bool.not_eq_true, hcoherent key account hget, not_not.mp hstatus]
    decide

theorem valueErrorAs_eq_ok {α : Type} {statusCode : ℕ} {result : Except Exc α} {a : α}
    (h : valueErrorAs statusCode result = .ok a) : result = .ok a := by
  unfold valueErrorAs at h
  split at h
  · cases h
  · exact h

theorem createdId_eq_ok {account : Option PublicAccount} {accountId : String}
    (h : createdId account = .ok accountId) : ∃ a, account = some a ∧ a.id = accountId := by
  cases account with
  | none => cases h
  | some a => exact ⟨a, rfl, Except.ok.inj h⟩

/-- The account of a creation is the one that has its id. -/
theorem created_of_ok {tables : CharTables} {s : AccountStore} {input : AccountInput}
    {newId : String} {now : Moment} {p : PublicAccount} (hid : input.id = none)
    (h : (accountStep tables s (.create input newId, now)).2 = .ok (some p)) :
    ∃ a, record tables input newId now = .ok a ∧ p.id = newId ∧
      (accountStep tables s (.create input newId, now)).1 = s.set a.key a := by
  have heffect := accountStep_effect tables s now (.create input newId)
  generalize accountStep tables s (.create input newId, now) = result at heffect h ⊢
  cases heffect with
  | refused e => cases h
  | missed => cases h
  | created a hcreates =>
    cases h
    refine ⟨a, hcreates.1, ?_, rfl⟩
    show a.id = newId
    rw [(recorded_of_record hcreates.1).id, hid]
    rfl
  | changed tenantId accountId tenant key a htarget => cases htarget

theorem invite_sound (hnew : ∀ key a, w.accounts.get? key = some a → a.id ≠ o.newId)
    (context : TenantContext) (body : IdentityBody) (role : Role) :
    (inviteWorkAccount env o context body role).Guarded (routeAct env.tables) Eq
      (RouteCall.Sound o.newId) w := by
  have hconsistent : (invitedInput context.tenantId body role).Consistent := ⟨rfl, .inr ⟨rfl, rfl⟩⟩
  refine guarded_ret_bindExcept fun _ _ => guarded_ret_bindExcept fun _ _ => ?_
  rintro _ rfl
  refine ⟨rfl, ⟨⟨hconsistent, rfl⟩, fun _ _ _ _ _ htarget => by cases htarget⟩, ?_⟩
  refine guarded_ret_bindExcept fun account haccount => guarded_ret_bindExcept fun accountId hid => ?_
  obtain ⟨p, rfl, rfl⟩ := createdId_eq_ok hid
  obtain ⟨b, hrecord, hpid, hafter⟩ := created_of_ok hconsistent.id (valueErrorAs_eq_ok haccount)
  have hrecorded := recorded_of_record hrecord
  dsimp only
  rw [hafter]
  refine getById_guarded trivial fun found hfound => orHttp_guarded fun invited hinvited => ?_
  subst hinvited
  refine issueAndSendInvitation_sound env o ?_ fun _ => auditAndAnswer_uses _ _ _ _ _ _
  intro tenantId' accountId' tenant' key' a htarget htenant' hfind'
  cases htarget
  -- the only account with the new id is the one that has just been created
  obtain ⟨tenant, key, -, hfind⟩ := AccountStore.find_of_getById hfound
  obtain ⟨hget', -, hid'⟩ := AccountStore.get?_of_find hfind'
  rw [(AccountStore.get?_of_find hfind).2.2, hpid] at hid'
  change (w.accounts.set b.key b).get? key' = some a at hget'
  rw [Dict.get?_set] at hget'
  split at hget'
  · cases hget'
    exact (standing_of_recorded hrecorded hconsistent).2.2 rfl
  · exact absurd hid' (hnew key' a hget')

/-! ## Roles -/

/-- An account that is no owner is found where it was, and is none later. -/
def RolesKept (s s' : AccountStore) : Prop :=
  ∀ tenant accountId key a, s.find tenant accountId = some (key, a) → a.role ≠ Role.owner.value →
    ∃ a', s'.find tenant accountId = some (key, a') ∧ a'.role ≠ Role.owner.value

/-- Others may do anything to a store, except make an owner of an account that is none. -/
def RolesStay (w w' : AccountState) : Prop :=
  Valid w.accounts → Valid w'.accounts ∧ RolesKept w.accounts w'.accounts

/-- A change of a role that meets no owner, where it is made. -/
def RouteCall.SparesRoles (uuid4 : String) (label : RouteCall) (w : AccountState) : Prop :=
  label.Changes fun call => call.Lawful uuid4 ∧ call.setsRole = true ∧
    call.Meets w.accounts fun _ a => a.role ≠ Role.owner.value

theorem changeRole_guarded (hs : Valid w.accounts) (context : TenantContext) (accountId : String) (role : Role) :
    (changeWorkAccountRole env o context accountId role).Guarded (routeAct env.tables) RolesStay
      (RouteCall.SparesRoles o.newId) w := by
  have hquiet : ∀ (label : RouteCall) (w : AccountState), label.Changes (fun _ => False) →
      label.SparesRoles o.newId w := fun _ _ h => h.mono fun _ hfalse => hfalse.elim
  refine guarded_ret_bindExcept fun _ haccepted => ?_
  have hrole : role.value ≠ Role.owner.value := by
    unfold rejectOwnerRole at haccepted
    split at haccepted
    · cases haccepted
    · cases role with
      | owner => contradiction
      | executive => decide
      | manager => decide
      | inventory => decide
      | analyst => decide
      | auditor => decide
  refine guarded_call_bindExcept rfl fun w' hread => ⟨trivial, fun found hfound => ?_⟩
  refine orHttp_guarded fun current hcurrent => ?_
  subst hcurrent
  obtain ⟨tenant, key, htenant, hfind⟩ := AccountStore.find_of_getById hfound
  split
  · trivial
  · rename_i hother
    refine guarded_call_bindExcept rfl fun w'' hstay => ⟨⟨hrole, rfl, ?_⟩, fun account _ =>
      (auditAndAnswer_uses _ _ _ _ _ _).guarded hquiet _⟩
    intro tenantId' accountId' tenant' key' a htarget htenant' hfind'
    cases htarget
    rw [htenant] at htenant'
    cases htenant'
    obtain ⟨-, hroles⟩ := hstay (hread hs).1
    obtain ⟨a', hfind'', hkept⟩ := hroles tenant accountId key current hfind hother
    rw [hfind''] at hfind'
    cases hfind'
    exact hkept

theorem changeRole_sound (hs : Valid w.accounts) (context : TenantContext) (accountId : String) (role : Role) :
    (changeWorkAccountRole env o context accountId role).Guarded (routeAct env.tables) Eq
      (RouteCall.Sound o.newId) w := by
  refine ((changeRole_guarded env o hs context accountId role).narrow ?_).mono ?_
  · intro w w' hsame hvalid
    subst hsame
    exact ⟨hvalid, fun _ _ _ a hfind hrole => ⟨a, hfind, hrole⟩⟩
  · intro label w h
    refine h.mono fun call hcall => ⟨hcall.1, ?_⟩
    obtain ⟨-, hsets, hmeets⟩ := hcall
    intro tenantId accountId tenant key a htarget htenant hfind
    have hother := hmeets tenantId accountId tenant key a htarget htenant hfind
    cases call with
    | setRole => exact ⟨trivial, hother⟩
    | create => cases hsets
    | createFirstOwner => cases hsets
    | setActive => cases hsets
    | setPassword => cases hsets
    | setInvitation => cases hsets
    | activateInvitation => cases hsets
    | setResetToken => cases hsets
    | consumeResetToken => cases hsets

/-- Every request that runs alone only makes sound calls, when it brings no account back without a
credential. -/
theorem request_sound {r : AccountRequest} (hs : Valid w.accounts) (hcoherent : Coherent w.accounts)
    (hnew : ∀ key a, w.accounts.get? key = some a → a.id ≠ o.newId) (hr : r.CreditedIn w) :
    (r.program env o).Guarded (routeAct env.tables) Eq (RouteCall.Sound o.newId) w := by
  by_cases hchecked : r.checked = false
  · exact unchecked_sound env o hchecked w
  · cases r with
    | invite context body role => exact invite_sound env o hnew context body role
    | resend context accountId => exact resend_sound env o hs hcoherent context accountId
    | deactivate context accountId => exact deactivate_sound env o context accountId
    | reactivate context accountId => exact reactivate_sound env o context accountId hr
    | changeRole context accountId role => exact changeRole_sound env o hs context accountId role
    | bootstrap => exact absurd rfl hchecked
    | login => exact absurd rfl hchecked
    | activate => exact absurd rfl hchecked
    | requestReset => exact absurd rfl hchecked
    | consumeReset => exact absurd rfl hchecked
    | changePassword => exact absurd rfl hchecked
    | create => exact absurd rfl hchecked
    | ownerReset => exact absurd rfl hchecked

end Routes

end ShelfWise.Accounts
