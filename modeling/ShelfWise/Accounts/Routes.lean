import ShelfWise.Accounts.Revocation
import ShelfWise.Sys.Program
import ShelfWise.Py.Digest

/-!
# The account routes

The routes of `routes_accounts.py` that can change an account, as programs of calls of the account store.
Each call is atomic; between two calls of a route others may run. A request comes with the context its
dependencies have established and with what it draws from outside the store (`RouteDraws`).
-/

namespace ShelfWise.Accounts

open Py Sys

/-! ## Passwords and account links

`auth_credentials.py` and the parts of `account_tokens.py` that the account routes use. The key derivation
and the signature of a link belong to libraries: `AccountCrypto` stands for them.
-/

/-- `AccountTokenClaims`. -/
structure AccountTokenClaims where
  tenantId : String
  accountId : String
deriving DecidableEq

/-- `hashlib.scrypt` with the cost of the deployment, and `verify_account_token` with its secret. -/
structure AccountCrypto where
  scrypt : (password salt : List ℕ) → (length : ℕ) → List ℕ
  verifyAccountToken : (token purpose : String) → Except Exc AccountTokenClaims

/-- `hmac.compare_digest` of two texts. -/
def compareDigest (a b : String) : Except Exc Bool :=
  if (a.toList.all fun c => c.toNat < 128) && (b.toList.all fun c => c.toNat < 128) then
    .ok (decide (a = b))
  else .error (.typeError "comparing strings with non-ASCII characters is not supported")

/-- The value of a hexadecimal digit. -/
def hexDigit? (c : Char) : Option ℕ :=
  if '0' ≤ c ∧ c ≤ '9' then some (c.toNat - 48)
  else if 'a' ≤ c ∧ c ≤ 'f' then some (c.toNat - 87)
  else if 'A' ≤ c ∧ c ≤ 'F' then some (c.toNat - 55)
  else none

/-- `bytes.fromhex`: pairs of digits, with blanks between them. -/
def fromHex : List Char → Option (List ℕ)
  | [] => some []
  | [c] => if c ∈ [' ', '\t', '\n', '\r', '\x0b', '\x0c'] then some [] else none
  | c :: d :: rest =>
    if c ∈ [' ', '\t', '\n', '\r', '\x0b', '\x0c'] then fromHex (d :: rest)
    else match hexDigit? c, hexDigit? d with
      | some high, some low => (fromHex rest).map ((high * 16 + low) :: ·)
      | _, _ => none

/-- `text.split("$", 2)`, when it has three parts. -/
def splitCredential (text : String) : Option (List Char × List Char × List Char) :=
  match text.toList.span (· ≠ '$') with
  | (scheme, '$' :: rest) => match rest.span (· ≠ '$') with
    | (salt, '$' :: hash) => some (scheme, salt, hash)
    | _ => none
  | _ => none

/-- `scrypt_password_hash`, with the salt of `os.urandom`. -/
def scryptPasswordHash (crypto : AccountCrypto) (password : String) (salt : List ℕ) : String :=
  "scrypt$" ++ hexText salt ++ "$" ++ hexText (crypto.scrypt (utf8 password) salt 64)

/-- `login_credentials_valid`; a credential that cannot be read fits no password. -/
def loginCredentialsValid (tables : CharTables) (crypto : AccountCrypto)
    (email password configuredEmail configuredHash : String) : Except Exc Bool :=
  match splitCredential configuredHash with
  | none => .ok false
  | some (scheme, saltHex, hashHex) =>
    if scheme ≠ "scrypt".toList then .ok false
    else match fromHex hashHex, fromHex saltHex with
      | some expected, some salt =>
        if expected = [] then .ok false
        else do
          let computed := crypto.scrypt (utf8 password) salt expected.length
          let emailOk ← compareDigest (tables.lowerText (strip email)) configuredEmail
          .ok (emailOk && decide (computed = expected))
      | _, _ => .ok false

/-- `token_digest`. -/
def tokenDigest (token : String) : String := hexText (sha256Digest (utf8 token))

theorem scryptPasswordHash_ne (crypto : AccountCrypto) (password : String) (salt : List ℕ) :
    scryptPasswordHash crypto password salt ≠ "" := by
  intro h
  have hlength := congrArg (fun text => text.toList.length) h
  simp [scryptPasswordHash] at hlength

/-! ## The store calls of a route -/

/-- What `record_audit` appends. -/
structure AuditEvent where
  tenantId : String
  eventId : String
  action : String
  accountId : String
  actorId : String
  createdAt : String
deriving DecidableEq

/-- The account store with its audit trail. -/
structure AccountState where
  accounts : AccountStore
  audit : List AuditEvent

/-- A call of the account store. -/
inductive RouteCall where
  | getByEmail (tenantId email : String)
  | getById (tenantId accountId : String)
  | list (tenantId : String)
  | change (call : AccountCall) (now : Moment)
  | recordAudit (tenantId action accountId actorId eventId : String) (now : Moment)
deriving DecidableEq

/-- What a route computes. -/
abbrev RouteProgram (α : Type) := Program RouteCall AccountState (Except Exc α)

/-- `record_audit`. -/
def AccountState.recordAudit (w : AccountState)
    (tenantId action accountId actorId eventId : String) (now : Moment) :
    AccountState × Except Exc AuditEvent :=
  if strip action = "" ∨ strip accountId = "" ∨ strip actorId = "" then
    (w, .error (.valueError "Account audit action, account, and actor are required"))
  else match checkTenant tenantId with
    | .error e => (w, .error e)
    | .ok tenant =>
      let event := ⟨tenant, eventId, strip action, strip accountId, strip actorId, now.iso⟩
      ({ w with audit := w.audit ++ [event] }, .ok event)

/-- What a call does to the store. -/
def routeAct (tables : CharTables) : RouteCall → AccountState → AccountState
  | .change call now, w => { w with accounts := (accountStep tables w.accounts (call, now)).1 }
  | .recordAudit tenantId action accountId actorId eventId now, w =>
    (w.recordAudit tenantId action accountId actorId eventId now).1
  | _, w => w

section Calls

variable (tables : CharTables)

/-- `account_store.get_by_email`. -/
def getByEmail (tenantId email : String) : RouteProgram (Option Account) :=
  Program.call (.getByEmail tenantId email) fun w => (w, w.accounts.getByEmail tables tenantId email)

/-- `account_store.get_by_id`. -/
def getById (tenantId accountId : String) : RouteProgram (Option Account) :=
  Program.call (.getById tenantId accountId) fun w => (w, w.accounts.getById tenantId accountId)

/-- `account_store.list`. -/
def listAccounts (tenantId : String) : RouteProgram (List PublicAccount) :=
  Program.call (.list tenantId) fun w => (w, w.accounts.list tenantId)

/-- A call that can change the accounts. -/
def changeAccount (call : AccountCall) (now : Moment) : RouteProgram (Option PublicAccount) :=
  Program.call (.change call now) fun w =>
    ({ w with accounts := (accountStep tables w.accounts (call, now)).1 },
      (accountStep tables w.accounts (call, now)).2)

/-- `account_store.record_audit`. -/
def recordAudit (tenantId action accountId actorId eventId : String) (now : Moment) :
    RouteProgram AuditEvent :=
  Program.call (.recordAudit tenantId action accountId actorId eventId now) fun w =>
    w.recordAudit tenantId action accountId actorId eventId now

end Calls

/-! ## Requests -/

/-- The deployment: its tables and libraries, and its settings. -/
structure AccountEnv where
  tables : CharTables
  crypto : AccountCrypto
  tenantId : String
  authSecret : String
  bootstrapKey : String
  loginEmail : String
  loginPasswordHash : String
  loginGivenName : String
  loginSurname : String
  loginPosition : String
  legacyOwnerRecovery : String
  invitationSeconds : ℤ
  resetSeconds : ℤ

/-- What a request draws from outside the account store: `uuid4`, `os.urandom`, a new link and its
expiry, the clock, and what the mail and the tenant profiles answer. -/
structure RouteDraws where
  newId : String
  salt : List ℕ
  token : String
  expiresAt : String
  eventId : String
  times : ℕ → Moment
  emailConfigured : Except Exc Unit
  delivery : Except Exc Unit
  profile : Except Exc Unit

/-- The identity fields of a body. -/
structure IdentityBody where
  email : String
  givenName : String
  surname : String
  position : String

/-- What a route answers. -/
inductive RouteResponse where
  | session (context : TenantContext) (mustChangePassword : Bool)
  | account (account : Option PublicAccount)
  | status (text : String)

/-- A request of one of the routes; the passwords are those of the validated bodies. -/
inductive AccountRequest where
  | bootstrap (key : Option String) (body : IdentityBody) (password : String)
  | login (email password : String)
  | activate (token : String) (body : IdentityBody) (password : String)
  | requestReset (email : String)
  | consumeReset (token password : String)
  | changePassword (context : TenantContext) (currentPassword password : String)
  | create (context : TenantContext) (body : IdentityBody) (role : Role) (password : String)
  | invite (context : TenantContext) (body : IdentityBody) (role : Role)
  | resend (context : TenantContext) (accountId : String)
  | ownerReset (context : TenantContext) (accountId : String)
  | deactivate (context : TenantContext) (accountId : String)
  | reactivate (context : TenantContext) (accountId : String)
  | changeRole (context : TenantContext) (accountId : String) (role : Role)

/-- `raise HTTPException(...)`. -/
def raiseHttp {α : Type} (statusCode : ℕ) (detail : String) : RouteProgram α :=
  .ret (.error (.httpException statusCode detail))

/-- `except ValueError as exc: raise HTTPException(...)`. -/
def valueErrorAs {α : Type} (statusCode : ℕ) : Except Exc α → Except Exc α
  | .error (.valueError message) => .error (.httpException statusCode message)
  | r => r

/-- Any text for the detail of a `ValueError`. -/
def valueErrorTo {α : Type} (statusCode : ℕ) (detail : String) : Except Exc α → Except Exc α
  | .error (.valueError _) => .error (.httpException statusCode detail)
  | r => r

/-- `except NotificationUnavailable as exc: raise HTTPException(...)`. -/
def notified : Except Exc Unit → Except Exc Unit
  | .error (.raised className message) =>
    if className = "NotificationUnavailable" then .error (.httpException 503 message)
    else .error (.raised className message)
  | r => r

/-- A call within `try`, with what the handlers make of its result. -/
def handled {α β : Type} (p : RouteProgram α) (handler : Except Exc α → Except Exc β) :
    RouteProgram β :=
  Program.bind p fun r => .ret (handler r)

/-- The account of an answer that is there. -/
def orHttp {α : Type} (statusCode : ℕ) (detail : String) : Option α → RouteProgram α
  | none => raiseHttp statusCode detail
  | some a => .ret (.ok a)

section Helpers

variable (env : AccountEnv) (o : RouteDraws)

/-- `_account_payload`. -/
def accountPayload (tenantId : String) (body : IdentityBody) (role : Role) (password : String) :
    AccountInput where
  tenantId := tenantId
  email := body.email
  givenName := body.givenName
  surname := body.surname
  position := body.position
  role := role.value
  passwordHash := some (scryptPasswordHash env.crypto password o.salt)
  active := some true
  status := some "active"

/-- `Role(...)`. -/
def readRole (text : String) : Except Exc Role :=
  match [Role.owner, .executive, .manager, .inventory, .analyst, .auditor].find? (·.value = text) with
  | some role => .ok role
  | none => .error (.valueError (Value.reprText text ++ " is not a valid Role"))

/-- `_account_session_response`, without the cookie. -/
def accountSessionResponse (account : Account) : Except Exc RouteResponse :=
  if env.authSecret = "" then .error (.httpException 503 "Tenant authentication is unavailable")
  else (readRole account.role).map fun role =>
    .session ⟨account.tenantId, account.id, role, some account.sessionVersion, false⟩
      account.mustChangePassword

/-- The end of a route that opens a session: the audit, and the account as it is then. -/
def auditAndOpen (tenantId action accountId actorId detail : String) : RouteProgram RouteResponse :=
  (recordAudit tenantId action accountId actorId o.eventId (o.times 2)).bindExcept fun _ =>
    (getById tenantId accountId).bindExcept fun full =>
      (orHttp 500 detail full).bindExcept fun account => .ret (accountSessionResponse env account)

/-- The end of a route that answers with what it has. -/
def auditAndAnswer (tenantId action accountId actorId : String) (response : RouteResponse) :
    RouteProgram RouteResponse :=
  (recordAudit tenantId action accountId actorId o.eventId (o.times 2)).bindExcept fun _ =>
    .ret (.ok response)

/-- `_issue_and_send_account_link` with the purpose `activation`. -/
def issueAndSendInvitation (account : Account) : RouteProgram Unit :=
  if env.authSecret = "" then .ret (.error (.valueError "Tenant authentication is unavailable"))
  else if env.invitationSeconds < 60 then
    .ret (.error (.valueError "Account token lifetime must be at least 60 seconds"))
  else (changeAccount env.tables
      (.setInvitation account.tenantId account.id (tokenDigest o.token) o.expiresAt)
      (o.times 1)).bindExcept fun stored =>
    (orHttp 404 "Work account not found" stored).bindExcept fun _ => .ret (notified o.delivery)

/-- `_issue_and_send_account_link` with the purpose `password_reset`. -/
def issueAndSendReset (account : Account) : RouteProgram Unit :=
  if env.authSecret = "" then .ret (.error (.valueError "Tenant authentication is unavailable"))
  else if env.resetSeconds < 60 then
    .ret (.error (.valueError "Account token lifetime must be at least 60 seconds"))
  else (changeAccount env.tables
      (.setResetToken account.tenantId account.id (tokenDigest o.token) o.expiresAt)
      (o.times 1)).bindExcept fun stored =>
    (orHttp 404 "Work account not found" stored).bindExcept fun _ => .ret (notified o.delivery)

/-- `_identity_matches`. -/
def identityMatches (account : Account) (body : IdentityBody) : Except Exc Bool := do
  if ← compareDigest account.email (env.tables.lowerText (strip body.email)) then
    if ← compareDigest account.givenName (strip body.givenName) then
      if ← compareDigest account.surname (strip body.surname) then
        compareDigest account.position (strip body.position)
      else .ok false
    else .ok false
  else .ok false

/-- `_verified_token`. -/
def verifiedToken (token purpose : String) : Except Exc AccountTokenClaims :=
  valueErrorTo 400
    (if purpose = "activation" then "Invalid or expired invitation"
      else "Invalid or expired password reset")
    (env.crypto.verifyAccountToken token purpose)

/-- `_reject_owner_role`. -/
def rejectOwnerRole (role : Role) : Except Exc Unit :=
  if role = .owner then
    .error (.httpException 422 "Additional owners require an operator-reviewed recovery process")
  else .ok ()

/-- The id of an account that a creation has answered with. -/
def createdId : Option PublicAccount → Except Exc String
  | none => .error (.typeError "'NoneType' object is not subscriptable")
  | some account => .ok account.id

end Helpers

/-! ## The routes -/

section Routes

variable (env : AccountEnv) (o : RouteDraws)

/-- `bootstrap_client_owner`. -/
def bootstrapClientOwner (key : Option String) (body : IdentityBody) (password : String) :
    RouteProgram RouteResponse :=
  if env.bootstrapKey = "" then raiseHttp 503 "Platform bootstrap is not configured"
  else
    let matching := match key with
      | none => .ok false
      | some key => if key = "" then .ok false else compareDigest key env.bootstrapKey
    Program.bindExcept (.ret matching) fun authorized =>
      if authorized = false then raiseHttp 401 "Invalid platform bootstrap credential"
      else if env.authSecret = "" then raiseHttp 503 "Tenant authentication is unavailable"
      else (handled (changeAccount env.tables
          (.createFirstOwner (accountPayload env o env.tenantId body .owner password) o.newId)
          (o.times 0)) (valueErrorAs 409)).bindExcept fun account =>
        Program.bindExcept (.ret (valueErrorAs 409 o.profile)) fun _ =>
          Program.bindExcept (.ret (createdId account)) fun accountId =>
            auditAndOpen env o env.tenantId "platform_owner_bootstrapped" accountId
              "platform_bootstrap" "Platform bootstrap could not be completed"

/-- The id of the legacy owner, from the result of its creation; one that is there already does. -/
def legacyOwnerId (configuredEmail : String) :
    Except Exc (Option PublicAccount) → RouteProgram (Option String)
  | .error (.valueError _) => (getByEmail env.tables env.tenantId configuredEmail).bindExcept
      fun account => .ret (.ok (account.map (·.id)))
  | .error e => .ret (.error e)
  | .ok account => .ret ((createdId account).map some)

/-- `_migrate_or_recover_legacy_owner`, from the accounts of the tenant on. -/
def recoverLegacyOwner (password configuredEmail : String) (existing : List PublicAccount) :
    RouteProgram (Option Account) :=
  if existing.isEmpty = false ∧ env.tables.lowerText (strip env.legacyOwnerRecovery) ≠ "true" then
    .ret (.ok none)
  else
    let body := ⟨configuredEmail, env.loginGivenName, env.loginSurname, env.loginPosition⟩
    let payload := accountPayload env o env.tenantId body .owner password
    let call : AccountCall := if existing.isEmpty then .createFirstOwner payload o.newId
      else .create payload o.newId
    (Program.bind (changeAccount env.tables call (o.times 0))
      (legacyOwnerId env configuredEmail)).bindExcept fun accountId =>
    match accountId with
    | none => .ret (.ok none)
    | some accountId =>
      (recordAudit env.tenantId "legacy_owner_migrated" accountId "system:legacy_migration"
        o.eventId (o.times 2)).bindExcept fun _ => getById env.tenantId accountId

/-- `_migrate_or_recover_legacy_owner`. -/
def migrateOrRecoverLegacyOwner (email password : String) : RouteProgram (Option Account) :=
  let configuredEmail := env.tables.lowerText (strip env.loginEmail)
  let configuredHash := strip env.loginPasswordHash
  if env.authSecret = "" ∨ configuredEmail = "" ∨ configuredHash = "" then .ret (.ok none)
  else Program.bindExcept
    (.ret (loginCredentialsValid env.tables env.crypto email password configuredEmail
      configuredHash)) fun valid =>
    if valid = false then .ret (.ok none)
    else (listAccounts env.tenantId).bindExcept (recoverLegacyOwner env o password configuredEmail)

/-- `company_login` for an email without an account. -/
def legacyLogin (email password : String) : RouteProgram RouteResponse :=
  (migrateOrRecoverLegacyOwner env o email password).bindExcept fun legacy =>
    match legacy with
    | some account => .ret (accountSessionResponse env account)
    | none => (listAccounts env.tenantId).bindExcept fun existing =>
      if existing.isEmpty ∧ strip env.loginEmail = "" then
        raiseHttp 503 "Company login is not configured"
      else raiseHttp 401 "Invalid credentials"

/-- `company_login`. -/
def companyLogin (email password : String) : RouteProgram RouteResponse :=
  (getByEmail env.tables env.tenantId email).bindExcept fun account =>
    match account with
    | none => legacyLogin env o email password
    | some account =>
      if account.active = false then raiseHttp 401 "Invalid credentials"
      else Program.bindExcept
        (.ret (loginCredentialsValid env.tables env.crypto email password account.email
          account.passwordHash)) fun valid =>
        if valid = false then raiseHttp 401 "Invalid credentials"
        else .ret (accountSessionResponse env account)

/-- `activate_invitation`. -/
def activateInvitation (token : String) (body : IdentityBody) (password : String) :
    RouteProgram RouteResponse :=
  Program.bindExcept (.ret (verifiedToken env token "activation")) fun claims =>
    (getById claims.tenantId claims.accountId).bindExcept fun found =>
      (orHttp 400 "Invalid or expired invitation" found).bindExcept fun account =>
        Program.bindExcept (.ret (identityMatches env account body)) fun matching =>
          if matching = false then raiseHttp 400 "Invalid or expired invitation"
          else (changeAccount env.tables
              (.activateInvitation claims.tenantId claims.accountId (tokenDigest token)
                (scryptPasswordHash env.crypto password o.salt)) (o.times 0)).bindExcept
            fun activated =>
              (orHttp 400 "Invalid or expired invitation" activated).bindExcept fun _ =>
                auditAndOpen env o claims.tenantId "invitation_activated" claims.accountId
                  claims.accountId "Account activation could not be completed"

/-- `request_password_reset`. -/
def requestPasswordReset (email : String) : RouteProgram RouteResponse :=
  Program.bindExcept (.ret (notified o.emailConfigured)) fun _ =>
    (getByEmail env.tables env.tenantId email).bindExcept fun found =>
      match found with
      | none => .ret (.ok (.status "accepted"))
      | some account =>
        if account.active = false then .ret (.ok (.status "accepted"))
        else (issueAndSendReset env o account).bindExcept fun _ =>
          auditAndAnswer o env.tenantId "password_reset_requested" account.id account.id
            (.status "accepted")

/-- `consume_password_reset`. -/
def consumePasswordReset (token password : String) : RouteProgram RouteResponse :=
  Program.bindExcept (.ret (verifiedToken env token "password_reset")) fun claims =>
    (changeAccount env.tables
      (.consumeResetToken claims.tenantId claims.accountId (tokenDigest token)
        (scryptPasswordHash env.crypto password o.salt)) (o.times 0)).bindExcept fun account =>
      (orHttp 400 "Invalid or expired password reset" account).bindExcept fun _ =>
        auditAndOpen env o claims.tenantId "password_reset_completed" claims.accountId
          claims.accountId "Password reset could not be completed"

/-- `change_own_password`. -/
def changeOwnPassword (context : TenantContext) (currentPassword password : String) :
    RouteProgram RouteResponse :=
  (getById context.tenantId context.userId).bindExcept fun found =>
    (orHttp 401 "Invalid credentials" found).bindExcept fun account =>
      Program.bindExcept
        (.ret (loginCredentialsValid env.tables env.crypto account.email currentPassword
          account.email account.passwordHash)) fun valid =>
        if valid = false then raiseHttp 401 "Invalid credentials"
        else (changeAccount env.tables
            (.setPassword context.tenantId context.userId
              (scryptPasswordHash env.crypto password o.salt)) (o.times 0)).bindExcept fun updated =>
          (orHttp 404 "Work account not found" updated).bindExcept fun _ =>
            auditAndOpen env o context.tenantId "password_changed" context.userId context.userId
              "Password change could not be completed"

/-- `create_work_account`. -/
def createWorkAccount (context : TenantContext) (body : IdentityBody) (role : Role)
    (password : String) : RouteProgram RouteResponse :=
  Program.bindExcept (.ret (rejectOwnerRole role)) fun _ =>
    (handled (changeAccount env.tables
      (.create { accountPayload env o context.tenantId body role password with
        mustChangePassword := some true } o.newId) (o.times 0))
      (valueErrorAs 422)).bindExcept fun account =>
      Program.bindExcept (.ret (createdId account)) fun accountId =>
        auditAndAnswer o context.tenantId "account_created" accountId context.userId
          (.account account)

/-- The input of an invited account. -/
def invitedInput (tenantId : String) (body : IdentityBody) (role : Role) : AccountInput where
  tenantId := tenantId
  email := body.email
  givenName := body.givenName
  surname := body.surname
  position := body.position
  role := role.value
  active := some false
  status := some "invited"

/-- `invite_work_account`. -/
def inviteWorkAccount (context : TenantContext) (body : IdentityBody) (role : Role) :
    RouteProgram RouteResponse :=
  Program.bindExcept (.ret (rejectOwnerRole role)) fun _ =>
    Program.bindExcept (.ret (notified o.emailConfigured)) fun _ =>
      (handled (changeAccount env.tables
        (.create (invitedInput context.tenantId body role) o.newId) (o.times 0))
        (valueErrorAs 422)).bindExcept fun account =>
        Program.bindExcept (.ret (createdId account)) fun accountId =>
          (getById context.tenantId accountId).bindExcept fun full =>
            (orHttp 500 "Invitation could not be created" full).bindExcept fun invited =>
              (issueAndSendInvitation env o invited).bindExcept fun _ =>
                auditAndAnswer o context.tenantId "account_invited" accountId context.userId
                  (.account account)

/-- `resend_work_account_invitation`. -/
def resendWorkAccountInvitation (context : TenantContext) (accountId : String) :
    RouteProgram RouteResponse :=
  Program.bindExcept (.ret (notified o.emailConfigured)) fun _ =>
    (getById context.tenantId accountId).bindExcept fun found =>
      (orHttp 404 "Work account not found" found).bindExcept fun account =>
        if account.status ≠ "invited" then raiseHttp 409 "Only pending invitations can be resent"
        else (issueAndSendInvitation env o account).bindExcept fun _ =>
          auditAndAnswer o context.tenantId "invitation_resent" accountId context.userId
            (.status "sent")

/-- `owner_password_reset`. -/
def ownerPasswordReset (context : TenantContext) (accountId : String) :
    RouteProgram RouteResponse :=
  Program.bindExcept (.ret (notified o.emailConfigured)) fun _ =>
    (getById context.tenantId accountId).bindExcept fun found =>
      (orHttp 404 "Work account not found" found).bindExcept fun account =>
        (issueAndSendReset env o account).bindExcept fun _ =>
          auditAndAnswer o context.tenantId "password_reset_requested_by_owner" accountId
            context.userId (.status "sent")

/-- The active owners of a list. -/
def activeOwners (accounts : List PublicAccount) : List PublicAccount :=
  accounts.filter fun a => decide (a.role = Role.owner.value) && a.active

/-- The end of `deactivate_work_account`. -/
def setInactive (context : TenantContext) (accountId : String) : RouteProgram RouteResponse :=
  (changeAccount env.tables (.setActive context.tenantId accountId false) (o.times 0)).bindExcept
    fun account => auditAndAnswer o context.tenantId "account_deactivated" accountId context.userId
      (.account account)

/-- `deactivate_work_account`. -/
def deactivateWorkAccount (context : TenantContext) (accountId : String) :
    RouteProgram RouteResponse :=
  if accountId = context.userId then raiseHttp 409 "Owners cannot deactivate their own account"
  else (getById context.tenantId accountId).bindExcept fun found =>
    (orHttp 404 "Work account not found" found).bindExcept fun current =>
      if current.role = Role.owner.value then
        (listAccounts context.tenantId).bindExcept fun accounts =>
          if (activeOwners accounts).length ≤ 1 then
            raiseHttp 409 "The last active owner cannot be deactivated"
          else setInactive env o context accountId
      else setInactive env o context accountId

/-- `reactivate_work_account`. -/
def reactivateWorkAccount (context : TenantContext) (accountId : String) :
    RouteProgram RouteResponse :=
  (getById context.tenantId accountId).bindExcept fun found =>
    (orHttp 404 "Work account not found" found).bindExcept fun current =>
      if current.status = "invited" then raiseHttp 409 "Resend the pending invitation instead"
      else (changeAccount env.tables (.setActive context.tenantId accountId true)
          (o.times 0)).bindExcept fun account =>
        auditAndAnswer o context.tenantId "account_reactivated" accountId context.userId
          (.account account)

/-- `change_work_account_role`. -/
def changeWorkAccountRole (context : TenantContext) (accountId : String) (role : Role) :
    RouteProgram RouteResponse :=
  Program.bindExcept (.ret (rejectOwnerRole role)) fun _ =>
    (getById context.tenantId accountId).bindExcept fun found =>
      (orHttp 404 "Work account not found" found).bindExcept fun current =>
        if current.role = Role.owner.value then
          raiseHttp 409 "The bootstrap owner role cannot be changed"
        else (changeAccount env.tables (.setRole context.tenantId accountId role.value)
            (o.times 0)).bindExcept fun account =>
          auditAndAnswer o context.tenantId "account_role_changed" accountId context.userId
            (.account account)

/-- The program of a request. -/
def AccountRequest.program : AccountRequest → RouteProgram RouteResponse
  | .bootstrap key body password => bootstrapClientOwner env o key body password
  | .login email password => companyLogin env o email password
  | .activate token body password => activateInvitation env o token body password
  | .requestReset email => requestPasswordReset env o email
  | .consumeReset token password => consumePasswordReset env o token password
  | .changePassword context currentPassword password =>
    changeOwnPassword env o context currentPassword password
  | .create context body role password => createWorkAccount env o context body role password
  | .invite context body role => inviteWorkAccount env o context body role
  | .resend context accountId => resendWorkAccountInvitation env o context accountId
  | .ownerReset context accountId => ownerPasswordReset env o context accountId
  | .deactivate context accountId => deactivateWorkAccount env o context accountId
  | .reactivate context accountId => reactivateWorkAccount env o context accountId
  | .changeRole context accountId role => changeWorkAccountRole env o context accountId role

end Routes

end ShelfWise.Accounts
