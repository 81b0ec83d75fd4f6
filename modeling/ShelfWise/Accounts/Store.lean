import ShelfWise.Py.Datetime
import ShelfWise.Py.Listing
import ShelfWise.Py.Value
import ShelfWise.Sys.Run

/-!
# The store of workforce accounts

`InMemoryAccountStore` of `shelfwise_storage/accounts.py`. An account stands under its tenant and its
email; every change names it by its id and meets the first account of the tenant with that id.

`accountStep_cases` says once what a call can do to the store.
-/

namespace ShelfWise.Accounts

open Py Sys

/-! ## Accounts -/

/-- What a caller hands to `create`. -/
structure AccountInput where
  tenantId : String
  email : String
  givenName : String
  surname : String
  position : String
  role : String
  id : Option String := none
  active : Option Bool := none
  status : Option String := none
  passwordHash : Option String := none
  mustChangePassword : Option Bool := none
  sessionVersion : Option ℤ := none
  invitationTokenHash : Option String := none
  invitationExpiresAt : Option String := none
  resetTokenHash : Option String := none
  resetExpiresAt : Option String := none
  createdAt : Option String := none
deriving DecidableEq

/-- A stored account. -/
structure Account where
  tenantId : String
  email : String
  givenName : String
  surname : String
  position : String
  role : String
  id : String
  active : Bool
  status : String
  passwordHash : String
  mustChangePassword : Bool
  sessionVersion : ℤ
  invitationTokenHash : Option String
  invitationExpiresAt : Option String
  resetTokenHash : Option String
  resetExpiresAt : Option String
  createdAt : String
  updatedAt : String
deriving DecidableEq

/-- What `public_account` leaves of an account. -/
structure PublicAccount where
  tenantId : String
  email : String
  givenName : String
  surname : String
  position : String
  role : String
  id : String
  active : Bool
  status : String
  mustChangePassword : Bool
  invitationExpiresAt : Option String
  resetExpiresAt : Option String
  createdAt : String
  updatedAt : String
deriving DecidableEq

/-- `public_account`. -/
def Account.public (a : Account) : PublicAccount where
  tenantId := a.tenantId
  email := a.email
  givenName := a.givenName
  surname := a.surname
  position := a.position
  role := a.role
  id := a.id
  active := a.active
  status := a.status
  mustChangePassword := a.mustChangePassword
  invitationExpiresAt := a.invitationExpiresAt
  resetExpiresAt := a.resetExpiresAt
  createdAt := a.createdAt
  updatedAt := a.updatedAt

/-- A reading of the clock: the instant, and what `now_iso` prints. -/
structure Moment where
  instant : ℤ
  iso : String
deriving DecidableEq

/-- `_tenant`. -/
def checkTenant (value : String) : Except Exc String :=
  if strip value = "" then .error (.valueError "tenant_id is required") else .ok (strip value)

/-- `_email`. -/
def checkEmail (tables : CharTables) (value : String) : Except Exc String :=
  let email := tables.lowerText (strip value)
  if '@' ∉ email.toList ∨ email.toList.head? = some '@' ∨ email.toList.getLast? = some '@' ∨
      200 < email.toList.length then
    .error (.valueError "A valid work email is required")
  else .ok email

/-- `_expired`. -/
def expired (now : Moment) : Option String → Bool
  | none => true
  | some value =>
    if value = "" then true
    else match fromisoformat (replaceZ value) with
      | none => true
      | some t => decide (t.orUtc.instant < now.instant)

/-- The text of an option, when it is there and not empty. -/
def textOr (default : String) : Option String → String
  | none => default
  | some "" => default
  | some text => text

/-- `_record`; `newId` is what `uuid4` answers. -/
def record (tables : CharTables) (input : AccountInput) (newId : String) (now : Moment) :
    Except Exc Account :=
  if strip input.tenantId = "" ∨ strip input.email = "" ∨ strip input.givenName = "" ∨
      strip input.surname = "" ∨ strip input.position = "" ∨ strip input.role = "" then
    .error (.valueError "All work-account identity fields are required")
  else
    let passwordHash := strip (textOr "" input.passwordHash)
    let status := strip (textOr (if passwordHash ≠ "" then "active" else "invited") input.status)
    if status = "active" ∧ passwordHash = "" then
      .error (.valueError "An active work account requires a password credential")
    else match checkEmail tables (strip input.email) with
      | .error e => .error e
      | .ok email => .ok {
          tenantId := strip input.tenantId
          email := email
          givenName := strip input.givenName
          surname := strip input.surname
          position := strip input.position
          role := strip input.role
          id := textOr newId input.id
          active := input.active.getD (decide (status = "active"))
          status := status
          passwordHash := passwordHash
          mustChangePassword := input.mustChangePassword.getD false
          sessionVersion := input.sessionVersion.getD 1
          invitationTokenHash := input.invitationTokenHash
          invitationExpiresAt := input.invitationExpiresAt
          resetTokenHash := input.resetTokenHash
          resetExpiresAt := input.resetExpiresAt
          createdAt := textOr now.iso input.createdAt
          updatedAt := now.iso }

/-- What a recorded account takes from its input, and what has been checked of it. -/
structure Recorded (input : AccountInput) (newId : String) (a : Account) : Prop where
  tenantId : a.tenantId = strip input.tenantId
  role : a.role = strip input.role
  id : a.id = textOr newId input.id
  status : a.status = strip (textOr (if a.passwordHash ≠ "" then "active" else "invited") input.status)
  active : a.active = input.active.getD (decide (a.status = "active"))
  passwordHash : a.passwordHash = strip (textOr "" input.passwordHash)
  credential : a.status = "active" → a.passwordHash ≠ ""
  invitationTokenHash : a.invitationTokenHash = input.invitationTokenHash
  resetTokenHash : a.resetTokenHash = input.resetTokenHash

theorem recorded_of_record {tables : CharTables} {input : AccountInput} {newId : String}
    {now : Moment} {a : Account} (h : record tables input newId now = .ok a) :
    Recorded input newId a := by
  unfold record at h
  split at h
  · cases h
  · dsimp only at h
    generalize hpassword : strip (textOr "" input.passwordHash) = passwordHash at h
    generalize hstatus : strip (textOr (if passwordHash ≠ "" then "active" else "invited")
      input.status) = status at h
    split at h
    · cases h
    · rename_i hcredential
      split at h
      · cases h
      · cases h
        exact {
          tenantId := rfl
          role := rfl
          id := rfl
          status := hstatus.symm
          active := rfl
          passwordHash := hpassword.symm
          credential := fun hactive hempty => hcredential ⟨hactive, hempty⟩
          invitationTokenHash := rfl
          resetTokenHash := rfl }

/-! ## The store -/

/-- `_accounts`. -/
abbrev AccountStore := Dict (String × String) Account

/-- Where an account stands. -/
def Account.key (a : Account) : String × String := (a.tenantId, a.email)

/-- What a call answers. -/
abbrev AccountReply := Except Exc (Option PublicAccount)

namespace AccountStore

/-- The first account of a tenant with an id, and where it stands. -/
def find (s : AccountStore) (tenant accountId : String) : Option ((String × String) × Account) :=
  s.entries.find? fun e => decide (e.2.tenantId = tenant) && decide (e.2.id = accountId)

/-- `create`. -/
def create (tables : CharTables) (s : AccountStore) (input : AccountInput) (newId : String)
    (now : Moment) : AccountStore × AccountReply :=
  match record tables input newId now with
  | .error e => (s, .error e)
  | .ok account =>
    if s.contains account.key then
      (s, .error (.valueError "An account with this work email already exists"))
    else (s.set account.key account, .ok (some account.public))

/-- `create_first_owner`. -/
def createFirstOwner (tables : CharTables) (s : AccountStore) (input : AccountInput)
    (newId : String) (now : Moment) : AccountStore × AccountReply :=
  let owner := { input with role := "owner", active := some true, status := some "active" }
  match record tables owner newId now with
  | .error e => (s, .error e)
  | .ok account =>
    if s.values.any fun item => decide (item.tenantId = account.tenantId) then
      (s, .error (.valueError "This client already has a workforce account"))
    else (s.set account.key account, .ok (some account.public))

/-- `get_by_email`. -/
def getByEmail (tables : CharTables) (s : AccountStore) (tenantId email : String) :
    Except Exc (Option Account) := do
  let tenant ← checkTenant tenantId
  let email ← checkEmail tables email
  .ok (s.get? (tenant, email))

/-- `get_by_id`; an empty store does not look at the tenant. -/
def getById (s : AccountStore) (tenantId accountId : String) : Except Exc (Option Account) :=
  if s.entries.isEmpty then .ok none
  else do
    let tenant ← checkTenant tenantId
    .ok ((s.find tenant accountId).map Prod.snd)

/-- `list`. -/
def list (s : AccountStore) (tenantId : String) : Except Exc (List PublicAccount) := do
  let tenant ← checkTenant tenantId
  let rows := (s.values.filter fun item => decide (item.tenantId = tenant)).map Account.public
  .ok (sortedBy (fun item => toLex (item.surname, item.givenName)) rows)

/-- The loop of `_update` and of the two consuming calls: the first account of the tenant with the id is
changed when it is accepted. -/
def change (s : AccountStore) (tenantId accountId : String) (accepts : Account → Bool)
    (updated : Account → Account) : AccountStore × AccountReply :=
  match checkTenant tenantId with
  | .error e => (s, .error e)
  | .ok tenant => match s.find tenant accountId with
    | none => (s, .ok none)
    | some (key, account) =>
      if accepts account then (s.set key (updated account), .ok (some (updated account).public))
      else (s, .ok none)

/-- `_update`. -/
def update (s : AccountStore) (tenantId accountId : String) (values : Account → Account)
    (invalidateSession : Bool) (now : Moment) : AccountStore × AccountReply :=
  s.change tenantId accountId (fun _ => true) fun account =>
    { values account with
      updatedAt := now.iso
      sessionVersion := account.sessionVersion + if invalidateSession then 1 else 0 }

/-- `set_active`. -/
def setActive (s : AccountStore) (tenantId accountId : String) (active : Bool) (now : Moment) :
    AccountStore × AccountReply :=
  s.update tenantId accountId
    (fun a => { a with active, status := if active then "active" else "inactive" }) true now

/-- `set_role`. -/
def setRole (s : AccountStore) (tenantId accountId role : String) (now : Moment) :
    AccountStore × AccountReply :=
  s.update tenantId accountId (fun a => { a with role }) true now

/-- `set_password`. -/
def setPassword (s : AccountStore) (tenantId accountId passwordHash : String) (now : Moment) :
    AccountStore × AccountReply :=
  s.update tenantId accountId (fun a => { a with passwordHash, mustChangePassword := false }) true now

/-- `set_invitation`. -/
def setInvitation (s : AccountStore) (tenantId accountId tokenHash expiresAt : String)
    (now : Moment) : AccountStore × AccountReply :=
  s.update tenantId accountId (fun a => { a with
    active := false
    status := "invited"
    invitationTokenHash := some tokenHash
    invitationExpiresAt := some expiresAt }) false now

/-- `activate_invitation`. -/
def activateInvitation (s : AccountStore) (tenantId accountId tokenHash passwordHash : String)
    (now : Moment) : AccountStore × AccountReply :=
  s.change tenantId accountId
    (fun a => decide (a.status = "invited") && decide (a.invitationTokenHash = some tokenHash) &&
      !expired now a.invitationExpiresAt)
    fun a => { a with
      active := true
      status := "active"
      passwordHash
      mustChangePassword := false
      invitationTokenHash := none
      invitationExpiresAt := none
      sessionVersion := a.sessionVersion + 1
      updatedAt := now.iso }

/-- `set_reset_token`. -/
def setResetToken (s : AccountStore) (tenantId accountId tokenHash expiresAt : String)
    (now : Moment) : AccountStore × AccountReply :=
  s.update tenantId accountId (fun a => { a with
    resetTokenHash := some tokenHash
    resetExpiresAt := some expiresAt }) false now

/-- `consume_reset_token`. -/
def consumeResetToken (s : AccountStore) (tenantId accountId tokenHash passwordHash : String)
    (now : Moment) : AccountStore × AccountReply :=
  s.change tenantId accountId
    (fun a => decide (a.resetTokenHash = some tokenHash) && !expired now a.resetExpiresAt)
    fun a => { a with
      passwordHash
      resetTokenHash := none
      resetExpiresAt := none
      sessionVersion := a.sessionVersion + 1
      updatedAt := now.iso }

end AccountStore

/-- A call that can change the store. -/
inductive AccountCall where
  | create (input : AccountInput) (newId : String)
  | createFirstOwner (input : AccountInput) (newId : String)
  | setActive (tenantId accountId : String) (active : Bool)
  | setRole (tenantId accountId role : String)
  | setPassword (tenantId accountId passwordHash : String)
  | setInvitation (tenantId accountId tokenHash expiresAt : String)
  | activateInvitation (tenantId accountId tokenHash passwordHash : String)
  | setResetToken (tenantId accountId tokenHash expiresAt : String)
  | consumeResetToken (tenantId accountId tokenHash passwordHash : String)
deriving DecidableEq

/-- The store after a call at a moment, and its answer. -/
def accountStep (tables : CharTables) (s : AccountStore) :
    AccountCall × Moment → AccountStore × AccountReply
  | (.create input newId, now) => s.create tables input newId now
  | (.createFirstOwner input newId, now) => s.createFirstOwner tables input newId now
  | (.setActive tenantId accountId active, now) => s.setActive tenantId accountId active now
  | (.setRole tenantId accountId role, now) => s.setRole tenantId accountId role now
  | (.setPassword tenantId accountId passwordHash, now) =>
    s.setPassword tenantId accountId passwordHash now
  | (.setInvitation tenantId accountId tokenHash expiresAt, now) =>
    s.setInvitation tenantId accountId tokenHash expiresAt now
  | (.activateInvitation tenantId accountId tokenHash passwordHash, now) =>
    s.activateInvitation tenantId accountId tokenHash passwordHash now
  | (.setResetToken tenantId accountId tokenHash expiresAt, now) =>
    s.setResetToken tenantId accountId tokenHash expiresAt now
  | (.consumeResetToken tenantId accountId tokenHash passwordHash, now) =>
    s.consumeResetToken tenantId accountId tokenHash passwordHash now

/-! ## What a call does -/

/-- The tenant and the id of the account a call is to change; a creation names none. -/
def AccountCall.target : AccountCall → Option (String × String)
  | .create .. => none
  | .createFirstOwner .. => none
  | .setActive tenantId accountId _ => some (tenantId, accountId)
  | .setRole tenantId accountId _ => some (tenantId, accountId)
  | .setPassword tenantId accountId _ => some (tenantId, accountId)
  | .setInvitation tenantId accountId _ _ => some (tenantId, accountId)
  | .activateInvitation tenantId accountId _ _ => some (tenantId, accountId)
  | .setResetToken tenantId accountId _ _ => some (tenantId, accountId)
  | .consumeResetToken tenantId accountId _ _ => some (tenantId, accountId)

/-- The account a change accepts: the consuming calls want their token. -/
def AccountCall.Accepts (now : Moment) (a : Account) : AccountCall → Prop
  | .activateInvitation _ _ tokenHash _ => a.status = "invited" ∧
      a.invitationTokenHash = some tokenHash ∧ expired now a.invitationExpiresAt = false
  | .consumeResetToken _ _ tokenHash _ =>
    a.resetTokenHash = some tokenHash ∧ expired now a.resetExpiresAt = false
  | _ => True

/-- A change that ends the sessions of the account. -/
def AccountCall.invalidates : AccountCall → Bool
  | .setActive .. => true
  | .setRole .. => true
  | .setPassword .. => true
  | .activateInvitation .. => true
  | .consumeResetToken .. => true
  | _ => false

/-- The account after a change. -/
def AccountCall.apply (now : Moment) (a : Account) : AccountCall → Account
  | .create .. => a
  | .createFirstOwner .. => a
  | .setActive _ _ active => { a with
      active, status := if active then "active" else "inactive"
      sessionVersion := a.sessionVersion + 1, updatedAt := now.iso }
  | .setRole _ _ role => { a with
      role, sessionVersion := a.sessionVersion + 1, updatedAt := now.iso }
  | .setPassword _ _ passwordHash => { a with
      passwordHash, mustChangePassword := false
      sessionVersion := a.sessionVersion + 1, updatedAt := now.iso }
  | .setInvitation _ _ tokenHash expiresAt => { a with
      active := false, status := "invited", invitationTokenHash := some tokenHash
      invitationExpiresAt := some expiresAt, updatedAt := now.iso }
  | .activateInvitation _ _ _ passwordHash => { a with
      active := true, status := "active", passwordHash, mustChangePassword := false
      invitationTokenHash := none, invitationExpiresAt := none
      sessionVersion := a.sessionVersion + 1, updatedAt := now.iso }
  | .setResetToken _ _ tokenHash expiresAt => { a with
      resetTokenHash := some tokenHash, resetExpiresAt := some expiresAt, updatedAt := now.iso }
  | .consumeResetToken _ _ _ passwordHash => { a with
      passwordHash, resetTokenHash := none, resetExpiresAt := none
      sessionVersion := a.sessionVersion + 1, updatedAt := now.iso }

section Apply

variable (call : AccountCall) (now : Moment) (a : Account)

@[simp] theorem AccountCall.apply_tenantId : (call.apply now a).tenantId = a.tenantId := by
  cases call <;> rfl

@[simp] theorem AccountCall.apply_id : (call.apply now a).id = a.id := by
  cases call <;> rfl

@[simp] theorem AccountCall.apply_key : (call.apply now a).key = a.key := by
  cases call <;> rfl

theorem AccountCall.apply_sessionVersion : (call.apply now a).sessionVersion =
    a.sessionVersion + if call.invalidates then 1 else 0 := by
  cases call <;> simp [apply, invalidates]

end Apply

/-- The account a creation makes. -/
def AccountCall.Creates (tables : CharTables) (s : AccountStore) (now : Moment) (a : Account) :
    AccountCall → Prop
  | .create input newId => record tables input newId now = .ok a ∧ s.get? a.key = none
  | .createFirstOwner input newId =>
    record tables { input with role := "owner", active := some true, status := some "active" } newId
      now = .ok a ∧ ∀ key b, s.get? key = some b → b.tenantId ≠ a.tenantId
  | _ => False

/-- What a call does to the store: nothing, a new account, or a change of the account it names. -/
inductive Effect (tables : CharTables) (s : AccountStore) (call : AccountCall) (now : Moment) :
    AccountStore × AccountReply → Prop
  | refused (e : Exc) : Effect tables s call now (s, .error e)
  | missed (tenantId accountId tenant : String) : call.target = some (tenantId, accountId) →
      checkTenant tenantId = .ok tenant →
      (∀ key a, s.find tenant accountId = some (key, a) → ¬ call.Accepts now a) →
      Effect tables s call now (s, .ok none)
  | created (a : Account) : call.Creates tables s now a →
      Effect tables s call now (s.set a.key a, .ok (some a.public))
  | changed (tenantId accountId tenant : String) (key : String × String) (a : Account) :
      call.target = some (tenantId, accountId) → checkTenant tenantId = .ok tenant →
      s.find tenant accountId = some (key, a) → call.Accepts now a →
      Effect tables s call now (s.set key (call.apply now a), .ok (some (call.apply now a).public))

section Effects

variable {tables : CharTables} {s : AccountStore} {now : Moment}

theorem effect_change {call : AccountCall} {tenantId accountId : String} {accepts : Account → Bool}
    {updated : Account → Account} (htarget : call.target = some (tenantId, accountId))
    (haccepts : ∀ a, accepts a = true ↔ call.Accepts now a) (hupdated : updated = call.apply now) :
    Effect tables s call now (s.change tenantId accountId accepts updated) := by
  subst hupdated
  unfold AccountStore.change
  cases htenant : checkTenant tenantId with
  | error e => exact .refused e
  | ok tenant =>
    dsimp only
    cases hfind : s.find tenant accountId with
    | none =>
      refine .missed tenantId accountId tenant htarget htenant fun key a h => ?_
      rw [hfind] at h
      cases h
    | some found =>
      obtain ⟨key, a⟩ := found
      dsimp only
      by_cases ha : accepts a = true
      · rw [if_pos ha]
        exact .changed tenantId accountId tenant key a htarget htenant hfind ((haccepts a).mp ha)
      · rw [if_neg ha]
        refine .missed tenantId accountId tenant htarget htenant fun key' a' h => ?_
        rw [hfind] at h
        cases h
        exact fun hacc => ha ((haccepts a).mpr hacc)

/-- A change that accepts every account. -/
theorem effect_update {call : AccountCall} {tenantId accountId : String}
    {values : Account → Account} {invalidateSession : Bool}
    (htarget : call.target = some (tenantId, accountId)) (haccepts : ∀ a, call.Accepts now a)
    (hupdated : ∀ a, { values a with
      updatedAt := now.iso
      sessionVersion := a.sessionVersion + if invalidateSession then 1 else 0 } = call.apply now a) :
    Effect tables s call now (s.update tenantId accountId values invalidateSession now) :=
  effect_change htarget (fun a => iff_of_true rfl (haccepts a)) (funext hupdated)

theorem effect_create (input : AccountInput) (newId : String) :
    Effect tables s (.create input newId) now (s.create tables input newId now) := by
  unfold AccountStore.create
  cases hrecord : record tables input newId now with
  | error e => exact .refused e
  | ok a =>
    dsimp only
    by_cases hcontains : s.contains a.key = true
    · rw [if_pos hcontains]
      exact .refused _
    · rw [if_neg hcontains]
      exact .created a ⟨hrecord, (s.contains_eq_false_iff _).mp (Bool.not_eq_true _ ▸ hcontains)⟩

theorem effect_createFirstOwner (input : AccountInput) (newId : String) :
    Effect tables s (.createFirstOwner input newId) now
      (s.createFirstOwner tables input newId now) := by
  unfold AccountStore.createFirstOwner
  dsimp only
  cases hrecord : record tables { input with
      role := "owner", active := some true, status := some "active" } newId now with
  | error e => exact .refused e
  | ok a =>
    dsimp only
    by_cases hany : (s.values.any fun item => decide (item.tenantId = a.tenantId)) = true
    · rw [if_pos hany]
      exact .refused _
    · rw [if_neg hany]
      refine .created a ⟨hrecord, fun key b hb hsame => hany ?_⟩
      exact List.any_eq_true.mpr ⟨b, (s.mem_values_iff b).mpr ⟨key, hb⟩, decide_eq_true hsame⟩

variable (tables s now) in
/-- What every call does. -/
theorem accountStep_effect (call : AccountCall) :
    Effect tables s call now (accountStep tables s (call, now)) := by
  cases call with
  | create input newId => exact effect_create input newId
  | createFirstOwner input newId => exact effect_createFirstOwner input newId
  | setActive tenantId accountId active =>
    exact effect_update rfl (fun _ => trivial) fun _ => rfl
  | setRole tenantId accountId role => exact effect_update rfl (fun _ => trivial) fun _ => rfl
  | setPassword tenantId accountId passwordHash =>
    exact effect_update rfl (fun _ => trivial) fun _ => rfl
  | setInvitation tenantId accountId tokenHash expiresAt =>
    exact effect_update rfl (fun _ => trivial) fun _ => by simp [AccountCall.apply]
  | activateInvitation tenantId accountId tokenHash passwordHash =>
    refine effect_change rfl (fun a => ?_) rfl
    simp only [AccountCall.Accepts, Bool.and_eq_true, decide_eq_true_eq, Bool.not_eq_true',
      and_assoc]
  | setResetToken tenantId accountId tokenHash expiresAt =>
    exact effect_update rfl (fun _ => trivial) fun _ => by simp [AccountCall.apply]
  | consumeResetToken tenantId accountId tokenHash passwordHash =>
    refine effect_change rfl (fun a => ?_) rfl
    simp only [AccountCall.Accepts, Bool.and_eq_true, decide_eq_true_eq, Bool.not_eq_true']

end Effects

/-! ## Finding an account -/

section Find

variable {s : AccountStore} {tenant accountId : String} {key : String × String} {a b : Account}

theorem AccountStore.get?_of_find (h : s.find tenant accountId = some (key, a)) :
    s.get? key = some a ∧ a.tenantId = tenant ∧ a.id = accountId := by
  unfold AccountStore.find at h
  have hmem := List.mem_of_find?_eq_some h
  have hnamed := List.find?_some h
  rw [Bool.and_eq_true, decide_eq_true_eq, decide_eq_true_eq] at hnamed
  exact ⟨(s.mem_entries_iff key a).mp hmem, hnamed⟩

/-- A change of an account that keeps its tenant and id does not change what is found where. -/
theorem AccountStore.find_set (hget : s.get? key = some a) (htenant : b.tenantId = a.tenantId)
    (hid : b.id = a.id) : AccountStore.find (s.set key b) tenant accountId =
      (s.find tenant accountId).map fun e => if e.1 = key then (key, b) else e := by
  unfold AccountStore.find
  exact find?_setEntries s.nodupKeys hget (by rw [htenant, hid])

/-- A new account is found after the others. -/
theorem AccountStore.find_set_fresh (hget : s.get? key = none) :
    AccountStore.find (s.set key b) tenant accountId = (s.find tenant accountId).or
      (if b.tenantId = tenant ∧ b.id = accountId then some (key, b) else none) := by
  unfold AccountStore.find
  rw [Dict.entries_set_of_fresh hget, List.find?_append]
  congr 1
  by_cases hnamed : b.tenantId = tenant ∧ b.id = accountId
  · rw [if_pos hnamed]
    exact List.find?_cons_of_pos (by simp [hnamed])
  · rw [if_neg hnamed]
    exact (List.find?_cons_of_neg (by simpa using hnamed)).trans List.find?_nil

theorem AccountStore.getById_of_find (ha : Stripped a.tenantId)
    (hfind : s.find a.tenantId a.id = some (key, a))
    (hget : s.getById a.tenantId a.id = .ok (some b)) : b = a := by
  unfold AccountStore.getById at hget
  split at hget
  · cases hget
  · obtain ⟨tenant, htenant, hget⟩ := bind_eq_ok_iff.mp hget
    unfold checkTenant at htenant
    split at htenant
    · cases htenant
    · cases htenant
      rw [show strip a.tenantId = a.tenantId from ha, hfind] at hget
      cases hget
      rfl

end Find

/-! ## Creations -/

section Creations

variable {tables : CharTables} {s : AccountStore} {now : Moment} {a : Account} {call : AccountCall}

theorem AccountCall.Creates.cases (h : call.Creates tables s now a) :
    (∃ input newId, call = .create input newId ∧ record tables input newId now = .ok a ∧
        s.get? a.key = none) ∨
      ∃ input newId, call = .createFirstOwner input newId ∧
        record tables { input with role := "owner", active := some true, status := some "active" }
          newId now = .ok a ∧ ∀ key b, s.get? key = some b → b.tenantId ≠ a.tenantId := by
  cases call with
  | create input newId => exact .inl ⟨input, newId, rfl, h⟩
  | createFirstOwner input newId => exact .inr ⟨input, newId, rfl, h⟩
  | setActive => exact h.elim
  | setRole => exact h.elim
  | setPassword => exact h.elim
  | setInvitation => exact h.elim
  | activateInvitation => exact h.elim
  | setResetToken => exact h.elim
  | consumeResetToken => exact h.elim

/-- What is created has been recorded. -/
theorem AccountCall.Creates.recorded (h : call.Creates tables s now a) :
    ∃ input newId, Recorded input newId a := by
  rcases h.cases with ⟨input, newId, -, hrecord, -⟩ | ⟨input, newId, -, hrecord, -⟩
  · exact ⟨input, newId, recorded_of_record hrecord⟩
  · exact ⟨_, newId, recorded_of_record hrecord⟩

/-- A creation meets no account under its key. -/
theorem AccountCall.Creates.fresh (hs : Dict.KeyedBy Account.key s)
    (h : call.Creates tables s now a) : s.get? a.key = none := by
  rcases h.cases with ⟨_, _, -, -, hfresh⟩ | ⟨_, _, -, -, hothers⟩
  · exact hfresh
  · cases hget : s.get? a.key with
    | none => rfl
    | some b => exact absurd (congrArg Prod.fst (hs _ b hget)).symm (hothers _ b hget)

theorem AccountCall.Creates.stripped (h : call.Creates tables s now a) : Stripped a.tenantId := by
  obtain ⟨input, newId, hrecorded⟩ := h.recorded
  rw [hrecorded.tenantId]
  exact stripped_strip _

end Creations

/-! ## Runs -/

/-- The steps of a run from the empty store. -/
abbrev accountTrace (tables : CharTables) (calls : List (AccountCall × Moment)) :
    List (Step AccountStore (AccountCall × Moment) AccountReply) :=
  trace (accountStep tables) Dict.empty calls

/-- The store a run from the empty one leads to. -/
abbrev storeAfter (tables : CharTables) (calls : List (AccountCall × Moment)) : AccountStore :=
  final (accountStep tables) Dict.empty calls

/-- Every account stands under its tenant and its email, and tenants have no blanks around them. -/
structure Valid (s : AccountStore) : Prop where
  keyed : Dict.KeyedBy Account.key s
  stripped : ∀ key a, s.get? key = some a → Stripped a.tenantId

theorem Valid.set {s : AccountStore} (h : Valid s) {a : Account} (ha : Stripped a.tenantId) :
    Valid (s.set a.key a) where
  keyed := Dict.keyedBy_set h.keyed a
  stripped key b hget := by
    rw [Dict.get?_set] at hget
    split at hget
    · cases hget
      exact ha
    · exact h.stripped key b hget

theorem valid_empty : Valid Dict.empty where
  keyed := Dict.keyedBy_empty _
  stripped key a hget := by
    rw [Dict.get?_empty] at hget
    cases hget

theorem Valid.step {tables : CharTables} {s : AccountStore} (h : Valid s)
    (input : AccountCall × Moment) : Valid (accountStep tables s input).1 := by
  obtain ⟨call, now⟩ := input
  have heffect := accountStep_effect tables s now call
  generalize accountStep tables s (call, now) = result at heffect
  cases heffect with
  | refused e => exact h
  | missed => exact h
  | created a hcreates => exact h.set hcreates.stripped
  | changed tenantId accountId tenant key a htarget htenant hfind haccepts =>
    have hget := (AccountStore.get?_of_find hfind).1
    have hkey : key = (call.apply now a).key := by
      rw [AccountCall.apply_key]
      exact h.keyed key a hget
    rw [hkey]
    refine h.set ?_
    rw [AccountCall.apply_tenantId]
    exact h.stripped key a hget

theorem valid_storeAfter (tables : CharTables) (calls : List (AccountCall × Moment)) :
    Valid (storeAfter tables calls) :=
  invariant_final (fun _ input h => h.step input) valid_empty calls


end ShelfWise.Accounts
