import ShelfWise.Accounts.Revocation

/-!
# The durable account store

`PostgresAccountStore` of `shelfwise_storage/accounts.py`: each call is one statement over the payloads, and a
token is checked by the `where` clause of an update. The clause of an activation does not look at the
status of the account, which the in-memory store does.

`stores_agree` says in which runs the two stores answer alike and hold the same accounts.
-/

namespace ShelfWise.Accounts

open Py Sys

/-! ## Statements -/

/-- `(payload->>'session_version')::integer + 1`. -/
def nextVersion (version : ℤ) : Except Exc ℤ :=
  if -2147483648 ≤ version ∧ version < 2147483647 then .ok (version + 1)
  else .error (.raised "NumericValueOutOfRange" "integer out of range")

/-- The rows an update meets, with what it writes there; an error ends the statement. -/
def hits (matched : Account → Except Exc Bool) (written : Account → Except Exc Account) :
    List ((String × String) × Account) → Except Exc (List ((String × String) × Account))
  | [] => .ok []
  | (key, account) :: rest => do
    let hit ← matched account
    if hit then
      let new ← written account
      let others ← hits matched written rest
      .ok ((key, new) :: others)
    else hits matched written rest

/-- The rows of `shelfwise_work_accounts`, by their primary key. -/
abbrev AccountRows := Dict (String × String) Account

namespace AccountRows

/-- `update ... where ... returning payload`: the first row that comes back is the answer. -/
def updateWhere (rows : AccountRows) (matched : Account → Except Exc Bool)
    (written : Account → Except Exc Account) : AccountRows × AccountReply :=
  match hits matched written rows.entries with
  | .error e => (rows, .error e)
  | .ok new => (new.foldl (fun rows e => rows.set e.1 e.2) rows,
      .ok (new.head?.map fun e => e.2.public))

/-- `create`. -/
def create (tables : CharTables) (rows : AccountRows) (input : AccountInput) (newId : String)
    (now : Moment) : AccountRows × AccountReply :=
  match record tables input newId now with
  | .error e => (rows, .error e)
  | .ok account =>
    if rows.contains account.key then
      (rows, .error (.valueError "An account with this work email already exists"))
    else (rows.set account.key account, .ok (some account.public))

/-- `create_first_owner`. -/
def createFirstOwner (tables : CharTables) (rows : AccountRows) (input : AccountInput)
    (newId : String) (now : Moment) : AccountRows × AccountReply :=
  let owner := { input with role := "owner", active := some true, status := some "active" }
  match record tables owner newId now with
  | .error e => (rows, .error e)
  | .ok account =>
    if rows.entries.any fun row => decide (row.2.tenantId = account.tenantId) then
      (rows, .error (.valueError "This client already has a workforce account"))
    else (rows.set account.key account, .ok (some account.public))

/-- `where tenant_id = %s and payload->>'id' = %s`. -/
def named (tenant accountId : String) (a : Account) : Bool :=
  decide (a.tenantId = tenant) && decide (a.id = accountId)

/-- `_update_payload`. -/
def updatePayload (rows : AccountRows) (tenantId accountId : String) (values : Account → Account)
    (invalidateSession : Bool) (now : Moment) : AccountRows × AccountReply :=
  match checkTenant tenantId with
  | .error e => (rows, .error e)
  | .ok tenant => rows.updateWhere (fun a => .ok (named tenant accountId a)) fun a =>
      (if invalidateSession then nextVersion a.sessionVersion else .ok a.sessionVersion).map
        fun version => { values a with updatedAt := now.iso, sessionVersion := version }

/-- The clause of `_consume_token`; `readTimestamptz` is the cast of the expiry, which an absent one
passes as no row. -/
def unexpired (readTimestamptz : String → Option ℤ) (now : Moment) :
    Option String → Except Exc Bool
  | none => .ok false
  | some text => match readTimestamptz text with
    | none => .error (.raised "InvalidDatetimeFormat" "invalid input syntax for type timestamp")
    | some instant => .ok (decide (now.instant ≤ instant))

/-- `_consume_token`. -/
def consumeToken (readTimestamptz : String → Option ℤ) (rows : AccountRows)
    (tenantId accountId : String) (tokenField expiryField : Account → Option String)
    (tokenHash : String) (values : Account → Account) (now : Moment) :
    AccountRows × AccountReply :=
  match checkTenant tenantId with
  | .error e => (rows, .error e)
  | .ok tenant => rows.updateWhere
      (fun a =>
        if named tenant accountId a && decide (tokenField a = some tokenHash) then
          unexpired readTimestamptz now (expiryField a)
        else .ok false)
      fun a => (nextVersion a.sessionVersion).map fun version =>
        { values a with updatedAt := now.iso, sessionVersion := version }

end AccountRows

/-- The rows after a call at a moment, and its answer. -/
def rowsStep (tables : CharTables) (readTimestamptz : String → Option ℤ) (rows : AccountRows) :
    AccountCall × Moment → AccountRows × AccountReply
  | (.create input newId, now) => AccountRows.create tables rows input newId now
  | (.createFirstOwner input newId, now) => AccountRows.createFirstOwner tables rows input newId now
  | (.setActive tenantId accountId active, now) =>
    AccountRows.updatePayload rows tenantId accountId
      (fun a => { a with active, status := if active then "active" else "inactive" }) true now
  | (.setRole tenantId accountId role, now) =>
    AccountRows.updatePayload rows tenantId accountId (fun a => { a with role }) true now
  | (.setPassword tenantId accountId passwordHash, now) =>
    AccountRows.updatePayload rows tenantId accountId
      (fun a => { a with passwordHash, mustChangePassword := false }) true now
  | (.setInvitation tenantId accountId tokenHash expiresAt, now) =>
    AccountRows.updatePayload rows tenantId accountId
      (fun a => { a with
        active := false
        status := "invited"
        invitationTokenHash := some tokenHash
        invitationExpiresAt := some expiresAt }) false now
  | (.activateInvitation tenantId accountId tokenHash passwordHash, now) =>
    AccountRows.consumeToken readTimestamptz rows tenantId accountId Account.invitationTokenHash
      Account.invitationExpiresAt tokenHash
      (fun a => { a with
        active := true
        status := "active"
        passwordHash
        mustChangePassword := false
        invitationTokenHash := none
        invitationExpiresAt := none }) now
  | (.setResetToken tenantId accountId tokenHash expiresAt, now) =>
    AccountRows.updatePayload rows tenantId accountId
      (fun a => { a with
        resetTokenHash := some tokenHash
        resetExpiresAt := some expiresAt }) false now
  | (.consumeResetToken tenantId accountId tokenHash passwordHash, now) =>
    AccountRows.consumeToken readTimestamptz rows tenantId accountId Account.resetTokenHash
      Account.resetExpiresAt tokenHash
      (fun a => { a with passwordHash, resetTokenHash := none, resetExpiresAt := none }) now

/-! ## When a call means the same to both -/

/-- The token a consuming call looks at, and its expiry. -/
def AccountCall.place (a : Account) : AccountCall → Option (Option String × Option String)
  | .activateInvitation .. => some (a.invitationTokenHash, a.invitationExpiresAt)
  | .consumeResetToken .. => some (a.resetTokenHash, a.resetExpiresAt)
  | _ => none

/-- A text that both stores read as expired, or both as not expired. -/
def ReadAlike (readTimestamptz : String → Option ℤ) (now : Moment) (text : String) : Prop :=
  ∃ instant, readTimestamptz text = some instant ∧
    decide (now.instant ≤ instant) = !expired now (some text)

/-- The account a call is to change. -/
def AccountCall.Names (s : AccountStore) (key : String × String) (a : Account) (call : AccountCall) :
    Prop :=
  ∃ tenantId accountId tenant, call.target = some (tenantId, accountId) ∧
    checkTenant tenantId = .ok tenant ∧ s.find tenant accountId = some (key, a)

/-- When both stores do the same with an account that a call names. -/
structure AgreeableAt (readTimestamptz : String → Option ℤ) (s : AccountStore)
    (input : AccountCall × Moment) (key : String × String) (a : Account) : Prop where
  /-- The account is the only one of its tenant with its id. -/
  unique : ∀ key' a', s.get? key' = some a' → a'.tenantId = a.tenantId → a'.id = a.id → key' = key
  /-- A version that is raised is an integer of the database, and so is the next one. -/
  version : input.1.Accepts input.2 a → input.1.invalidates = true →
    -2147483648 ≤ a.sessionVersion ∧ a.sessionVersion < 2147483647
  /-- The expiry of a token that is presented reads alike. -/
  expiry : ∀ text, input.1.place a = some (input.1.presents, some text) →
    ReadAlike readTimestamptz input.2 text
  /-- An account whose unexpired invitation is presented is still invited. -/
  invited : ∀ tenantId accountId tokenHash passwordHash,
    input.1 = .activateInvitation tenantId accountId tokenHash passwordHash →
      a.invitationTokenHash = some tokenHash → expired input.2 a.invitationExpiresAt = false →
        a.status = "invited"

/-- What a call has to find in the store for both stores to do the same. -/
def Agreeable (readTimestamptz : String → Option ℤ) (s : AccountStore)
    (input : AccountCall × Moment) : Prop :=
  ∀ key a, input.1.Names s key a → AgreeableAt readTimestamptz s input key a

/-! ## The statements of a call -/

section Statements

variable {rows : AccountRows} {matched : Account → Except Exc Bool}
  {written : Account → Except Exc Account}

theorem hits_of_none {entries : List ((String × String) × Account)}
    (h : ∀ e ∈ entries, matched e.2 = .ok false) : hits matched written entries = .ok [] := by
  induction entries with
  | nil => rfl
  | cons e rest ih =>
    rw [hits, h e List.mem_cons_self]
    exact ih fun e he => h e (List.mem_cons_of_mem _ he)

/-- An update of one row. -/
theorem hits_of_unique {entries : List ((String × String) × Account)} {key : String × String}
    {a : Account} (hmem : (key, a) ∈ entries) (hnodup : (entries.map Prod.fst).Nodup)
    (hothers : ∀ e ∈ entries, e.1 ≠ key → matched e.2 = .ok false) :
    hits matched written entries = (do
      let hit ← matched a
      if hit then (written a).map fun new => [(key, new)] else .ok []) := by
  induction entries with
  | nil => cases hmem
  | cons e rest ih =>
    obtain ⟨hnotmem, hnodup⟩ := List.nodup_cons.mp hnodup
    rcases List.mem_cons.mp hmem with rfl | hmem
    · have hrest : hits matched written rest = .ok [] := hits_of_none fun e he =>
        hothers e (List.mem_cons_of_mem _ he) fun hkey =>
          hnotmem (List.mem_map.mpr ⟨e, he, hkey⟩)
      rw [hits, hrest]
      cases matched a with
      | error e => rfl
      | ok hit => cases hit with
        | false => rfl
        | true => cases written a with
          | error e => rfl
          | ok new => rfl
    · have hne : e.1 ≠ key := fun hkey =>
        hnotmem (List.mem_map.mpr ⟨(key, a), hmem, hkey.symm⟩)
      rw [hits, hothers e List.mem_cons_self hne]
      exact ih hmem hnodup fun e he => hothers e (List.mem_cons_of_mem _ he)

theorem updateWhere_of_none (h : ∀ e ∈ rows.entries, matched e.2 = .ok false) :
    rows.updateWhere matched written = (rows, .ok none) := by
  unfold AccountRows.updateWhere
  rw [hits_of_none h]
  rfl

/-- A statement that can meet one row only: whether it does, and what it writes. -/
theorem updateWhere_of_unique (hit : Bool) {key : String × String} {a new : Account}
    (hget : rows.get? key = some a) (hothers : ∀ e ∈ rows.entries, e.1 ≠ key → matched e.2 = .ok false)
    (hmatched : matched a = .ok hit) (hwritten : hit = true → written a = .ok new) :
    rows.updateWhere matched written =
      if hit then (rows.set key new, .ok (some new.public)) else (rows, .ok none) := by
  have hmem := (rows.mem_entries_iff key a).mpr hget
  unfold AccountRows.updateWhere
  rw [hits_of_unique hmem rows.nodupKeys hothers, hmatched]
  cases hit with
  | false => rfl
  | true =>
    rw [hwritten rfl]
    rfl

theorem nextVersion_eq {version : ℤ} (h : -2147483648 ≤ version ∧ version < 2147483647) :
    nextVersion version = .ok (version + 1) := if_pos h

end Statements

section Calls

variable {s : AccountStore} {tenantId accountId : String}

/-- Rows that do not have the name. -/
theorem not_named_of_find {tenant : String} (hfind : s.find tenant accountId = none) :
    ∀ e ∈ s.entries, AccountRows.named tenant accountId e.2 = false := by
  intro e he
  unfold AccountStore.find at hfind
  exact Bool.eq_false_iff.mpr (List.find?_eq_none.mp hfind e he)

theorem not_named_of_unique {tenant : String} {key : String × String} {a : Account}
    (hsame : a.tenantId = tenant) (hid : a.id = accountId) (hunique : ∀ key' a',
      s.get? key' = some a' → a'.tenantId = a.tenantId → a'.id = a.id → key' = key) :
    ∀ e ∈ s.entries, e.1 ≠ key → AccountRows.named tenant accountId e.2 = false := by
  subst hsame hid
  intro e he hne
  rw [Bool.eq_false_iff]
  intro hnamed
  unfold AccountRows.named at hnamed
  rw [Bool.and_eq_true, decide_eq_true_eq, decide_eq_true_eq] at hnamed
  exact hne (hunique e.1 e.2 ((s.mem_entries_iff e.1 e.2).mp he) hnamed.1 hnamed.2)

theorem updatePayload_eq {values : Account → Account} {invalidateSession : Bool} {now : Moment}
    (hfound : ∀ tenant, checkTenant tenantId = .ok tenant → ∀ key a,
      s.find tenant accountId = some (key, a) →
        (∀ key' a', s.get? key' = some a' → a'.tenantId = a.tenantId → a'.id = a.id → key' = key) ∧
          (invalidateSession = true →
            -2147483648 ≤ a.sessionVersion ∧ a.sessionVersion < 2147483647)) :
    AccountRows.updatePayload s tenantId accountId values invalidateSession now =
      s.update tenantId accountId values invalidateSession now := by
  unfold AccountRows.updatePayload AccountStore.update AccountStore.change
  cases htenant : checkTenant tenantId with
  | error e => rfl
  | ok tenant =>
    dsimp only
    cases hfind : s.find tenant accountId with
    | none => exact updateWhere_of_none fun e he => by rw [not_named_of_find hfind e he]
    | some found =>
      obtain ⟨key, a⟩ := found
      obtain ⟨hunique, hversion⟩ := hfound tenant htenant key a hfind
      obtain ⟨hget, hsame, hid⟩ := AccountStore.get?_of_find hfind
      refine (updateWhere_of_unique true hget (fun e he hne => ?_) ?_ fun _ => ?_).trans
        (if_pos rfl)
      · rw [not_named_of_unique hsame hid hunique e he hne]
      · rw [AccountRows.named, decide_eq_true hsame, decide_eq_true hid]
        rfl
      · cases invalidateSession with
        | false =>
          show Except.ok _ = Except.ok _
          simp
        | true =>
          rw [if_pos rfl, nextVersion_eq (hversion rfl)]
          rfl

theorem consumeToken_eq {readTimestamptz : String → Option ℤ}
    {tokenField expiryField : Account → Option String} {tokenHash : String}
    {values : Account → Account} {now : Moment} {accepts : Account → Bool}
    (hfound : ∀ tenant, checkTenant tenantId = .ok tenant → ∀ key a,
      s.find tenant accountId = some (key, a) →
        (∀ key' a', s.get? key' = some a' → a'.tenantId = a.tenantId → a'.id = a.id → key' = key) ∧
          (if decide (tokenField a = some tokenHash) = true then
            AccountRows.unexpired readTimestamptz now (expiryField a) else .ok false) =
              .ok (accepts a) ∧
          (accepts a = true → -2147483648 ≤ a.sessionVersion ∧ a.sessionVersion < 2147483647)) :
    AccountRows.consumeToken readTimestamptz s tenantId accountId tokenField expiryField tokenHash
        values now =
      s.change tenantId accountId accepts fun a =>
        { values a with updatedAt := now.iso, sessionVersion := a.sessionVersion + 1 } := by
  unfold AccountRows.consumeToken AccountStore.change
  cases htenant : checkTenant tenantId with
  | error e => rfl
  | ok tenant =>
    dsimp only
    cases hfind : s.find tenant accountId with
    | none =>
      refine updateWhere_of_none fun e he => ?_
      rw [not_named_of_find hfind e he]
      rfl
    | some found =>
      obtain ⟨key, a⟩ := found
      obtain ⟨hunique, hclause, hversion⟩ := hfound tenant htenant key a hfind
      obtain ⟨hget, hsame, hid⟩ := AccountStore.get?_of_find hfind
      refine updateWhere_of_unique (accepts a) hget (fun e he hne => ?_) ?_ fun hhit => ?_
      · rw [not_named_of_unique hsame hid hunique e he hne]
        rfl
      · rw [AccountRows.named, decide_eq_true hsame, decide_eq_true hid]
        exact hclause
      · rw [nextVersion_eq (hversion hhit)]
        rfl

end Calls

/-! ## Runs -/

variable {tables : CharTables} {readTimestamptz : String → Option ℤ}

/-- The clause of a token, when its expiry reads alike: an unexpired token that matches. -/
theorem clause_eq {now : Moment} {held expiry : Option String} {tokenHash : String}
    (hread : held = some tokenHash → ∀ text, expiry = some text →
      ReadAlike readTimestamptz now text) :
    (if decide (held = some tokenHash) = true then
      AccountRows.unexpired readTimestamptz now expiry else .ok false) =
        .ok (decide (held = some tokenHash) && !expired now expiry) := by
  by_cases hheld : held = some tokenHash
  · rw [if_pos (decide_eq_true hheld), decide_eq_true hheld, Bool.true_and]
    cases expiry with
    | none => rfl
    | some text =>
      obtain ⟨instant, hinstant, hsame⟩ := hread hheld text rfl
      rw [AccountRows.unexpired, hinstant, ← hsame]
  · rw [if_neg (by simpa using hheld), decide_eq_false hheld]
    rfl

/-- A statement that accepts every account. -/
theorem updatePayload_of_agreeable {s : AccountStore} {call : AccountCall} {now : Moment}
    (h : Agreeable readTimestamptz s (call, now)) {tenantId accountId : String}
    (htarget : call.target = some (tenantId, accountId)) (haccepts : ∀ a, call.Accepts now a)
    {values : Account → Account} :
    AccountRows.updatePayload s tenantId accountId values call.invalidates now =
      s.update tenantId accountId values call.invalidates now := by
  refine updatePayload_eq fun tenant htenant key a hfind => ?_
  have hat := h key a ⟨tenantId, accountId, tenant, htarget, htenant, hfind⟩
  exact ⟨hat.unique, hat.version (haccepts a)⟩

/-- A statement does what the call does in memory. -/
theorem rowsStep_eq {s : AccountStore} {input : AccountCall × Moment}
    (h : Agreeable readTimestamptz s input) :
    rowsStep tables readTimestamptz s input = accountStep tables s input := by
  obtain ⟨call, now⟩ := input
  cases call with
  | create input newId => rfl
  | createFirstOwner input newId =>
    show AccountRows.createFirstOwner tables s input newId now =
      s.createFirstOwner tables input newId now
    have hany : ∀ p : Account → Bool, s.values.any p = s.entries.any fun row => p row.2 :=
      fun _ => List.any_map
    unfold AccountStore.createFirstOwner
    simp only [hany]
    rfl
  | setActive => exact updatePayload_of_agreeable h rfl fun _ => trivial
  | setRole => exact updatePayload_of_agreeable h rfl fun _ => trivial
  | setPassword => exact updatePayload_of_agreeable h rfl fun _ => trivial
  | setInvitation => exact updatePayload_of_agreeable h rfl fun _ => trivial
  | activateInvitation tenantId accountId tokenHash passwordHash =>
    refine consumeToken_eq fun tenant htenant key a hfind => ?_
    have hat := h key a ⟨tenantId, accountId, tenant, rfl, htenant, hfind⟩
    refine ⟨hat.unique, ?_, fun haccepts => hat.version ?_ rfl⟩
    · rw [clause_eq fun hheld text htext => hat.expiry text (congrArg some (Prod.ext hheld htext))]
      congr 1
      -- the clause leaves out the status, which is that of an invited account
      cases hmatches : decide (a.invitationTokenHash = some tokenHash) &&
          !expired now a.invitationExpiresAt with
      | false => rw [Bool.and_assoc, hmatches, Bool.and_false]
      | true =>
        rw [Bool.and_eq_true, decide_eq_true_eq, Bool.not_eq_true'] at hmatches
        have hinvited := hat.invited _ _ _ _ rfl hmatches.1 hmatches.2
        simp [hinvited, hmatches]
    · simpa only [AccountCall.Accepts, Bool.and_eq_true, decide_eq_true_eq, Bool.not_eq_true',
        and_assoc] using haccepts
  | setResetToken => exact updatePayload_of_agreeable h rfl fun _ => trivial
  | consumeResetToken tenantId accountId tokenHash passwordHash =>
    refine consumeToken_eq fun tenant htenant key a hfind => ?_
    have hat := h key a ⟨tenantId, accountId, tenant, rfl, htenant, hfind⟩
    refine ⟨hat.unique, ?_, fun haccepts => hat.version ?_ rfl⟩
    · exact clause_eq fun hheld text htext => hat.expiry text (congrArg some (Prod.ext hheld htext))
    · simpa only [AccountCall.Accepts, Bool.and_eq_true, decide_eq_true_eq, Bool.not_eq_true']
        using haccepts

/-- The two stores answer alike in a run from the empty store, and hold the same accounts after it. -/
structure StoresAgree (tables : CharTables) (readTimestamptz : String → Option ℤ)
    (calls : List (AccountCall × Moment)) : Prop where
  answers : (trace (rowsStep tables readTimestamptz) Dict.empty calls).map Step.output =
    (accountTrace tables calls).map Step.output
  accounts : ∀ key, (final (rowsStep tables readTimestamptz) Dict.empty calls).get? key =
    (storeAfter tables calls).get? key

/-- **The durable store refines the one in memory** along every run whose calls find the accounts as
both stores expect them. -/
theorem stores_agree (tables : CharTables) (readTimestamptz : String → Option ℤ)
    (calls : List (AccountCall × Moment))
    (h : ∀ step ∈ accountTrace tables calls, Agreeable readTimestamptz step.before step.input) :
    StoresAgree tables readTimestamptz calls := by
  obtain ⟨htrace, hfinal⟩ := trace_eq_of_agree (f := accountStep tables)
    (g := rowsStep tables readTimestamptz) fun step hm => rowsStep_eq (h step hm)
  exact ⟨by rw [htrace], fun key => by rw [hfinal]⟩

/-! ### A worker who is deactivated before the activation -/

/-- A cast that reads what `fromisoformat` reads. -/
def readIso (text : String) : Option ℤ := (fromisoformat (replaceZ text)).map fun t => t.orUtc.instant

theorem agreeable_of_find {s : AccountStore} {input : AccountCall × Moment}
    {tenantId accountId tenant : String} {key : String × String} {a : Account}
    (htarget : input.1.target = some (tenantId, accountId)) (htenant : checkTenant tenantId = .ok tenant)
    (hfind : s.find tenant accountId = some (key, a))
    (hat : AgreeableAt readTimestamptz s input key a) : Agreeable readTimestamptz s input := by
  rintro key' a' ⟨tenantId', accountId', tenant', htarget', htenant', hfind'⟩
  cases htarget.symm.trans htarget'
  cases htenant.symm.trans htenant'
  cases hfind.symm.trans hfind'
  exact hat

/-- The worker's account before and after the invitation is sent. -/
def createdWorker : Account :=
  { activeWorker with active := false, status := "invited", passwordHash := "", sessionVersion := 1 }

/-- The worker's account while the invitation stands. -/
def invitedWorker : Account :=
  { createdWorker with
    invitationTokenHash := some "digest_1"
    invitationExpiresAt := some "2026-07-02T00:00:00+00:00" }

/-- In both stores the activation of an invitation that stands does the same. -/
theorem stores_agree_activation : StoresAgree asciiTables readIso activationRun := by
  refine stores_agree asciiTables readIso activationRun fun step hm => ?_
  rcases List.mem_cons.mp hm with rfl | hm
  · rintro key a ⟨_, _, _, htarget, -⟩
    cases htarget
  · rcases List.mem_cons.mp hm with rfl | hm
    · rintro key a ⟨_, _, _, htarget, -⟩
      cases htarget
    · have hunique : ∀ s ∈ [storeAfter asciiTables (activationRun.take 2),
          storeAfter asciiTables (activationRun.take 3)], ∀ e ∈ s.entries,
            e.2.tenantId = "tenant_a" → e.2.id = "acc_2" → e.1 = createdWorker.key := by
        decide +kernel
      rcases List.mem_cons.mp hm with rfl | hm
      · refine agreeable_of_find rfl (by decide +kernel : checkTenant "tenant_a" = .ok "tenant_a")
          (by decide +kernel : AccountStore.find (storeAfter asciiTables (activationRun.take 2))
            "tenant_a" "acc_2" = some (createdWorker.key, createdWorker)) ?_
        refine ⟨fun key' a' hget => hunique _ List.mem_cons_self (key', a')
          ((Dict.mem_entries_iff _ _ _).mpr hget), fun _ h => ?_, fun _ h => ?_, fun _ _ _ _ h => ?_⟩
        · cases h
        · cases h
        · cases h
      · rcases List.mem_cons.mp hm with rfl | hm
        · refine agreeable_of_find rfl (by decide +kernel : checkTenant "tenant_a" = .ok "tenant_a")
            (by decide +kernel : AccountStore.find (storeAfter asciiTables (activationRun.take 3))
              "tenant_a" "acc_2" = some (invitedWorker.key, invitedWorker)) ?_
          refine ⟨fun key' a' hget => hunique _ (List.mem_cons_of_mem _ List.mem_cons_self) (key', a')
            ((Dict.mem_entries_iff _ _ _).mpr hget), fun _ _ => by decide, fun text h => ?_,
              fun _ _ _ _ _ _ _ => rfl⟩
          cases h
          exact ⟨1782950400000000, by decide +kernel, by decide +kernel⟩
        · cases hm

/-- The owner deactivates the worker before the invitation is used. -/
def lapsedRun : List (AccountCall × Moment) :=
  [(.createFirstOwner exampleOwner "acc_1", julyMoment), (.create exampleWorker "acc_2", julyMoment),
    (.setInvitation "tenant_a" "acc_2" "digest_1" "2026-07-02T00:00:00+00:00", julyMoment),
    (.setActive "tenant_a" "acc_2" false, julyMoment),
    (.activateInvitation "tenant_a" "acc_2" "digest_1" "scrypt$02$03", julyMoment)]

/-- The invitation activates the account in the database only. -/
theorem stores_disagree : ¬ StoresAgree asciiTables readIso lapsedRun := by
  intro h
  exact absurd h.answers (by decide +kernel)

end ShelfWise.Accounts
