import ShelfWise.Accounts.Routes
import ShelfWise.Sys.Rely

/-!
# The calls of the account routes

What the routes put into their calls, whatever the store answers: `AccountCall.Lawful` for every route, and
no change of an account's standing for the routes that do not look at it first (`unchecked_uses`).
-/

namespace ShelfWise.Accounts

open Py Sys Sys.Program

/-! ## Kinds of calls -/

/-- A creation makes an active account or an invited one, and leaves the id to `uuid4`. -/
structure AccountInput.Consistent (input : AccountInput) : Prop where
  id : input.id = none
  standing : (input.active = some true ∧ input.status = some "active") ∨
    (input.active = some false ∧ input.status = some "invited")

/-- What the routes put into a call: a new id of `uuid4`, a credential that is there, and no owner. -/
def AccountCall.Lawful (uuid4 : String) : AccountCall → Prop
  | .create input newId => input.Consistent ∧ newId = uuid4
  | .createFirstOwner input newId => input.id = none ∧ newId = uuid4
  | .setPassword _ _ passwordHash => passwordHash ≠ ""
  | .activateInvitation _ _ _ passwordHash => passwordHash ≠ ""
  | .consumeResetToken _ _ _ passwordHash => passwordHash ≠ ""
  | .setRole _ _ role => role ≠ Role.owner.value
  | _ => True

/-- A call that changes a role. -/
def AccountCall.setsRole : AccountCall → Bool
  | .setRole .. => true
  | _ => false

/-- A call that a route makes after a look at the account's standing. -/
def AccountCall.checked : AccountCall → Bool
  | .setActive .. => true
  | .setRole .. => true
  | .setInvitation .. => true
  | _ => false

/-- Among the calls of a route, those that can change the accounts have a property. -/
def RouteCall.Changes (P : AccountCall → Prop) : RouteCall → Prop
  | .change call _ => P call
  | _ => True

/-- The requests whose routes look at an account's standing. -/
def AccountRequest.checked : AccountRequest → Bool
  | .invite .. => true
  | .resend .. => true
  | .deactivate .. => true
  | .reactivate .. => true
  | .changeRole .. => true
  | _ => false

theorem RouteCall.Changes.mono {P R : AccountCall → Prop} (himp : ∀ call, P call → R call)
    {label : RouteCall} (h : label.Changes P) : label.Changes R := by
  cases label with
  | change call now => exact himp call h
  | getByEmail => trivial
  | getById => trivial
  | list => trivial
  | recordAudit => trivial

/-! ## Parts of routes -/

section Parts

variable {tables : CharTables} {env : AccountEnv} {o : RouteDraws} {P : AccountCall → Prop}

theorem getByEmail_uses (tenantId email : String) :
    (getByEmail tables tenantId email).Uses (routeAct tables) (RouteCall.Changes P) :=
  uses_call rfl trivial

theorem getById_uses (tenantId accountId : String) :
    (getById tenantId accountId).Uses (routeAct tables) (RouteCall.Changes P) :=
  uses_call rfl trivial

theorem listAccounts_uses (tenantId : String) :
    (listAccounts tenantId).Uses (routeAct tables) (RouteCall.Changes P) :=
  uses_call rfl trivial

theorem changeAccount_uses {call : AccountCall} (now : Moment) (h : P call) :
    (changeAccount tables call now).Uses (routeAct tables) (RouteCall.Changes P) :=
  uses_call rfl h

theorem recordAudit_uses (tenantId action accountId actorId eventId : String) (now : Moment) :
    (recordAudit tenantId action accountId actorId eventId now).Uses (routeAct tables)
      (RouteCall.Changes P) :=
  uses_call rfl trivial

theorem orHttp_uses {α : Type} (statusCode : ℕ) (detail : String) (found : Option α) :
    (orHttp statusCode detail found).Uses (routeAct tables) (RouteCall.Changes P) := by
  cases found with
  | none => trivial
  | some a => trivial

theorem handled_uses {α β : Type} {p : RouteProgram α}
    (h : p.Uses (routeAct tables) (RouteCall.Changes P)) (handler : Except Exc α → Except Exc β) :
    (handled p handler).Uses (routeAct tables) (RouteCall.Changes P) :=
  uses_bind h fun _ => trivial

/-- A check of what the route has. -/
theorem uses_check {α β : Type} {result : Except Exc α} {k : α → RouteProgram β}
    (h : ∀ a, (k a).Uses (routeAct tables) (RouteCall.Changes P)) :
    (Program.bindExcept (.ret result) k).Uses (routeAct tables) (RouteCall.Changes P) :=
  uses_bindExcept trivial h

theorem auditAndOpen_uses (tenantId action accountId actorId detail : String) :
    (auditAndOpen env o tenantId action accountId actorId detail).Uses (routeAct tables)
      (RouteCall.Changes P) := by
  refine uses_bindExcept (recordAudit_uses _ _ _ _ _ _) fun _ => ?_
  refine uses_bindExcept (getById_uses _ _) fun full => ?_
  exact uses_bindExcept (orHttp_uses _ _ _) fun _ => trivial

variable (tables) in
theorem auditAndAnswer_uses (tenantId action accountId actorId : String)
    (response : RouteResponse) : (auditAndAnswer o tenantId action accountId actorId response).Uses
      (routeAct tables) (RouteCall.Changes P) :=
  uses_bindExcept (recordAudit_uses _ _ _ _ _ _) fun _ => trivial

theorem issueAndSendInvitation_uses (account : Account)
    (h : P (.setInvitation account.tenantId account.id (tokenDigest o.token) o.expiresAt)) :
    (issueAndSendInvitation env o account).Uses (routeAct env.tables) (RouteCall.Changes P) := by
  unfold issueAndSendInvitation
  split
  · trivial
  · split
    · trivial
    · refine uses_bindExcept (changeAccount_uses _ h) fun stored => ?_
      exact uses_bindExcept (orHttp_uses _ _ _) fun _ => trivial

theorem issueAndSendReset_uses (account : Account)
    (h : P (.setResetToken account.tenantId account.id (tokenDigest o.token) o.expiresAt)) :
    (issueAndSendReset env o account).Uses (routeAct env.tables) (RouteCall.Changes P) := by
  unfold issueAndSendReset
  split
  · trivial
  · split
    · trivial
    · refine uses_bindExcept (changeAccount_uses _ h) fun stored => ?_
      exact uses_bindExcept (orHttp_uses _ _ _) fun _ => trivial

end Parts

/-! ## Routes that do not look at an account's standing -/

/-- A call such a route makes. -/
def AccountCall.Plain (uuid4 : String) (call : AccountCall) : Prop :=
  call.Lawful uuid4 ∧ call.checked = false

/-- A call of a route that leaves the roles alone. -/
def AccountCall.Roleless (uuid4 : String) (call : AccountCall) : Prop :=
  call.Lawful uuid4 ∧ call.setsRole = false

theorem AccountCall.Plain.roleless {uuid4 : String} {call : AccountCall} (h : call.Plain uuid4) :
    call.Roleless uuid4 := by
  obtain ⟨hlawful, hchecked⟩ := h
  refine ⟨hlawful, ?_⟩
  cases call with
  | setRole => cases hchecked
  | create => rfl
  | createFirstOwner => rfl
  | setActive => rfl
  | setPassword => rfl
  | setInvitation => rfl
  | activateInvitation => rfl
  | setResetToken => rfl
  | consumeResetToken => rfl

theorem accountPayload_consistent (env : AccountEnv) (o : RouteDraws) (tenantId : String)
    (body : IdentityBody) (role : Role) (password : String) :
    (accountPayload env o tenantId body role password).Consistent := ⟨rfl, .inl ⟨rfl, rfl⟩⟩

section Routes

variable (env : AccountEnv) (o : RouteDraws)

theorem bootstrapClientOwner_uses (key : Option String) (body : IdentityBody) (password : String) :
    (bootstrapClientOwner env o key body password).Uses (routeAct env.tables)
      (RouteCall.Changes fun call => ∃ input, call = .createFirstOwner input o.newId ∧
        input.id = none ∧ input.tenantId = env.tenantId) := by
  unfold bootstrapClientOwner
  split
  · trivial
  · refine uses_check fun authorized => ?_
    split
    · trivial
    · split
      · trivial
      · refine uses_bindExcept (handled_uses (changeAccount_uses _ ⟨_, rfl, rfl, rfl⟩) _) fun _ => ?_
        refine uses_check fun _ => ?_
        refine uses_check fun accountId => ?_
        exact auditAndOpen_uses _ _ _ _ _

theorem recoverLegacyOwner_uses (password configuredEmail : String)
    (existing : List PublicAccount) :
    (recoverLegacyOwner env o password configuredEmail existing).Uses (routeAct env.tables)
      (RouteCall.Changes (AccountCall.Plain o.newId)) := by
  unfold recoverLegacyOwner
  split
  · trivial
  · dsimp only
    refine uses_bindExcept (uses_bind (changeAccount_uses _ ?_) fun result => ?_) fun accountId => ?_
    · split
      · exact ⟨⟨rfl, rfl⟩, rfl⟩
      · exact ⟨⟨accountPayload_consistent _ _ _ _ _ _, rfl⟩, rfl⟩
    · unfold legacyOwnerId
      split
      · exact uses_bindExcept (getByEmail_uses _ _) fun _ => trivial
      · trivial
      · trivial
    · cases accountId with
      | none => trivial
      | some accountId =>
        exact uses_bindExcept (recordAudit_uses _ _ _ _ _ _) fun _ => getById_uses _ _

theorem companyLogin_uses (email password : String) :
    (companyLogin env o email password).Uses (routeAct env.tables)
      (RouteCall.Changes (AccountCall.Plain o.newId)) := by
  refine uses_bindExcept (getByEmail_uses _ _) fun account => ?_
  cases account with
  | none =>
    refine uses_bindExcept ?_ fun legacy => ?_
    · unfold migrateOrRecoverLegacyOwner
      dsimp only
      split
      · trivial
      · refine uses_check fun valid => ?_
        split
        · trivial
        · exact uses_bindExcept (listAccounts_uses _) fun _ => recoverLegacyOwner_uses _ _ _ _ _
    · cases legacy with
      | some account => trivial
      | none =>
        refine uses_bindExcept (listAccounts_uses _) fun existing => ?_
        split
        · trivial
        · trivial
  | some account =>
    dsimp only
    split
    · trivial
    · refine uses_check fun valid => ?_
      split
      · trivial
      · trivial

theorem activateInvitation_uses (token : String) (body : IdentityBody) (password : String) :
    (activateInvitation env o token body password).Uses (routeAct env.tables)
      (RouteCall.Changes (AccountCall.Plain o.newId)) := by
  refine uses_check fun claims => uses_bindExcept (getById_uses _ _) fun found => ?_
  refine uses_bindExcept (orHttp_uses _ _ _) fun account => uses_check fun matching => ?_
  split
  · trivial
  · have hplain : (AccountCall.activateInvitation claims.tenantId claims.accountId
        (tokenDigest token) (scryptPasswordHash env.crypto password o.salt)).Plain o.newId :=
      ⟨scryptPasswordHash_ne _ _ _, rfl⟩
    refine uses_bindExcept (changeAccount_uses _ hplain) fun _ => ?_
    exact uses_bindExcept (orHttp_uses _ _ _) fun _ => auditAndOpen_uses _ _ _ _ _

theorem requestPasswordReset_uses (email : String) :
    (requestPasswordReset env o email).Uses (routeAct env.tables)
      (RouteCall.Changes (AccountCall.Plain o.newId)) := by
  refine uses_check fun _ => uses_bindExcept (getByEmail_uses _ _) fun found => ?_
  cases found with
  | none => trivial
  | some account =>
    dsimp only
    split
    · trivial
    · refine uses_bindExcept (issueAndSendReset_uses account ⟨trivial, rfl⟩) fun _ => ?_
      exact auditAndAnswer_uses _ _ _ _ _ _

theorem consumePasswordReset_uses (token password : String) :
    (consumePasswordReset env o token password).Uses (routeAct env.tables)
      (RouteCall.Changes (AccountCall.Plain o.newId)) := by
  refine uses_check fun claims => ?_
  have hplain : (AccountCall.consumeResetToken claims.tenantId claims.accountId
      (tokenDigest token) (scryptPasswordHash env.crypto password o.salt)).Plain o.newId :=
    ⟨scryptPasswordHash_ne _ _ _, rfl⟩
  refine uses_bindExcept (changeAccount_uses _ hplain) fun account => ?_
  exact uses_bindExcept (orHttp_uses _ _ _) fun _ => auditAndOpen_uses _ _ _ _ _

theorem changeOwnPassword_uses (context : TenantContext) (currentPassword password : String) :
    (changeOwnPassword env o context currentPassword password).Uses (routeAct env.tables)
      (RouteCall.Changes (AccountCall.Plain o.newId)) := by
  refine uses_bindExcept (getById_uses _ _) fun found => ?_
  refine uses_bindExcept (orHttp_uses _ _ _) fun account => uses_check fun valid => ?_
  split
  · trivial
  · have hplain : (AccountCall.setPassword context.tenantId context.userId
        (scryptPasswordHash env.crypto password o.salt)).Plain o.newId :=
      ⟨scryptPasswordHash_ne _ _ _, rfl⟩
    refine uses_bindExcept (changeAccount_uses _ hplain) fun updated => ?_
    exact uses_bindExcept (orHttp_uses _ _ _) fun _ => auditAndOpen_uses _ _ _ _ _

theorem createWorkAccount_uses (context : TenantContext) (body : IdentityBody) (role : Role)
    (password : String) : (createWorkAccount env o context body role password).Uses
      (routeAct env.tables) (RouteCall.Changes (AccountCall.Plain o.newId)) := by
  refine uses_check fun _ => ?_
  have hplain : (AccountCall.create { accountPayload env o context.tenantId body role password with
      mustChangePassword := some true } o.newId).Plain o.newId :=
    ⟨⟨⟨rfl, .inl ⟨rfl, rfl⟩⟩, rfl⟩, rfl⟩
  refine uses_bindExcept (handled_uses (changeAccount_uses _ hplain) _) fun account => ?_
  exact uses_check fun accountId => auditAndAnswer_uses _ _ _ _ _ _

theorem ownerPasswordReset_uses (context : TenantContext) (accountId : String) :
    (ownerPasswordReset env o context accountId).Uses (routeAct env.tables)
      (RouteCall.Changes (AccountCall.Plain o.newId)) := by
  refine uses_check fun _ => uses_bindExcept (getById_uses _ _) fun found => ?_
  refine uses_bindExcept (orHttp_uses _ _ _) fun account => ?_
  refine uses_bindExcept (issueAndSendReset_uses account ⟨trivial, rfl⟩) fun _ => ?_
  exact auditAndAnswer_uses _ _ _ _ _ _

/-- The routes that do not look at an account's standing do not change it. -/
theorem unchecked_uses {r : AccountRequest} (hr : r.checked = false) :
    (r.program env o).Uses (routeAct env.tables)
      (RouteCall.Changes (AccountCall.Plain o.newId)) := by
  cases r with
  | bootstrap key body password =>
    refine (bootstrapClientOwner_uses env o key body password).mono fun label h => ?_
    refine h.mono fun call hcall => ?_
    obtain ⟨input, rfl, hid, -⟩ := hcall
    exact ⟨⟨hid, rfl⟩, rfl⟩
  | login email password => exact companyLogin_uses env o email password
  | activate token body password => exact activateInvitation_uses env o token body password
  | requestReset email => exact requestPasswordReset_uses env o email
  | consumeReset token password => exact consumePasswordReset_uses env o token password
  | changePassword context currentPassword password =>
    exact changeOwnPassword_uses env o context currentPassword password
  | create context body role password => exact createWorkAccount_uses env o context body role password
  | ownerReset context accountId => exact ownerPasswordReset_uses env o context accountId
  | invite => cases hr
  | resend => cases hr
  | deactivate => cases hr
  | reactivate => cases hr
  | changeRole => cases hr

/-! ## Routes that leave the roles alone -/

theorem inviteWorkAccount_uses (context : TenantContext) (body : IdentityBody) (role : Role) :
    (inviteWorkAccount env o context body role).Uses (routeAct env.tables)
      (RouteCall.Changes (AccountCall.Roleless o.newId)) := by
  refine uses_check fun _ => uses_check fun _ => ?_
  have hcreate : (AccountCall.create (invitedInput context.tenantId body role) o.newId).Roleless
      o.newId := ⟨⟨⟨rfl, .inr ⟨rfl, rfl⟩⟩, rfl⟩, rfl⟩
  refine uses_bindExcept (handled_uses (changeAccount_uses _ hcreate) _) fun account => ?_
  refine uses_check fun accountId => uses_bindExcept (getById_uses _ _) fun full => ?_
  refine uses_bindExcept (orHttp_uses _ _ _) fun invited => ?_
  refine uses_bindExcept (issueAndSendInvitation_uses invited ⟨trivial, rfl⟩) fun _ => ?_
  exact auditAndAnswer_uses _ _ _ _ _ _

theorem resendWorkAccountInvitation_uses (context : TenantContext) (accountId : String) :
    (resendWorkAccountInvitation env o context accountId).Uses (routeAct env.tables)
      (RouteCall.Changes (AccountCall.Roleless o.newId)) := by
  refine uses_check fun _ => uses_bindExcept (getById_uses _ _) fun found => ?_
  refine uses_bindExcept (orHttp_uses _ _ _) fun account => ?_
  split
  · trivial
  · refine uses_bindExcept (issueAndSendInvitation_uses account ⟨trivial, rfl⟩) fun _ => ?_
    exact auditAndAnswer_uses _ _ _ _ _ _

theorem deactivateWorkAccount_uses (context : TenantContext) (accountId : String) :
    (deactivateWorkAccount env o context accountId).Uses (routeAct env.tables)
      (RouteCall.Changes (AccountCall.Roleless o.newId)) := by
  have hset : (AccountCall.setActive context.tenantId accountId false).Roleless o.newId :=
    ⟨trivial, rfl⟩
  have hend : (setInactive env o context accountId).Uses (routeAct env.tables)
      (RouteCall.Changes (AccountCall.Roleless o.newId)) :=
    uses_bindExcept (changeAccount_uses _ hset) fun _ => auditAndAnswer_uses _ _ _ _ _ _
  unfold deactivateWorkAccount
  split
  · trivial
  · refine uses_bindExcept (getById_uses _ _) fun found => ?_
    refine uses_bindExcept (orHttp_uses _ _ _) fun current => ?_
    split
    · refine uses_bindExcept (listAccounts_uses _) fun accounts => ?_
      split
      · trivial
      · exact hend
    · exact hend

theorem reactivateWorkAccount_uses (context : TenantContext) (accountId : String) :
    (reactivateWorkAccount env o context accountId).Uses (routeAct env.tables)
      (RouteCall.Changes (AccountCall.Roleless o.newId)) := by
  have hset : (AccountCall.setActive context.tenantId accountId true).Roleless o.newId :=
    ⟨trivial, rfl⟩
  refine uses_bindExcept (getById_uses _ _) fun found => ?_
  refine uses_bindExcept (orHttp_uses _ _ _) fun current => ?_
  split
  · trivial
  · exact uses_bindExcept (changeAccount_uses _ hset) fun _ => auditAndAnswer_uses _ _ _ _ _ _

end Routes

end ShelfWise.Accounts
