import ShelfWise.Accounts.Store

/-!
# Sessions end when an account changes, and tokens are used once

`_verified_tenant_context` of `deps.py` over the account store. A session carries the version its account
had when it was opened; the calls that take something away from the account raise the version, and no
call lowers it.

`revocation_is_final` says so over every run, and that no invitation or reset token is used twice.
-/

namespace ShelfWise.Accounts

open Py Sys

/-! ## Sessions -/

/-- `Role`. -/
inductive Role where
  | owner
  | executive
  | manager
  | inventory
  | analyst
  | auditor
deriving DecidableEq

/-- The value of a role. -/
def Role.value : Role → String
  | .owner => "owner"
  | .executive => "executive"
  | .manager => "manager"
  | .inventory => "inventory"
  | .analyst => "analyst"
  | .auditor => "auditor"

/-- `TenantContext`. -/
structure TenantContext where
  tenantId : String
  userId : String
  role : Role
  sessionVersion : Option ℤ
  passwordChangeRequired : Bool
deriving DecidableEq

/-- `_verified_tenant_context`; `verifyBearer` is `verify_bearer_token` with the secret of the
deployment. -/
def verifiedTenantContext (verifyBearer : Option String → Except Exc TenantContext)
    (s : AccountStore) (authorization : Option String) : Except Exc TenantContext := do
  let context ← verifyBearer authorization
  match context.sessionVersion with
  | none => .ok context
  | some version =>
    let account ← s.getById context.tenantId context.userId
    match account with
    | none => .error (.valueError "account session is no longer current")
    | some account =>
      if account.active = false ∨ account.sessionVersion ≠ version then
        .error (.valueError "account session is no longer current")
      else .ok { context with passwordChangeRequired := account.mustChangePassword }

/-- What is accepted was opened at the present version of an active account. -/
theorem account_of_verifiedTenantContext {verifyBearer : Option String → Except Exc TenantContext}
    {s : AccountStore} {authorization : Option String} {context accepted : TenantContext}
    {version : ℤ} (hbearer : verifyBearer authorization = .ok context)
    (hversion : context.sessionVersion = some version)
    (h : verifiedTenantContext verifyBearer s authorization = .ok accepted) :
    ∃ account, s.getById context.tenantId context.userId = .ok (some account) ∧
      account.active = true ∧ account.sessionVersion = version := by
  unfold verifiedTenantContext at h
  rw [hbearer] at h
  obtain ⟨_, hcontext, h⟩ := bind_eq_ok_iff.mp h
  cases hcontext
  rw [hversion] at h
  obtain ⟨account, haccount, h⟩ := bind_eq_ok_iff.mp h
  cases account with
  | none => cases h
  | some account =>
    dsimp only at h
    split at h
    · cases h
    · rename_i hcurrent
      rw [not_or, Bool.not_eq_false, not_not] at hcurrent
      exact ⟨account, haccount, hcurrent⟩

/-! ## What stays along a run -/

/-- The id a creation gives. -/
def AccountCall.newId : AccountCall → Option String
  | .create input newId => some (textOr newId input.id)
  | .createFirstOwner input newId => some (textOr newId input.id)
  | _ => none

/-- The ids a run gives. -/
def newIds (calls : List (AccountCall × Moment)) : List String :=
  calls.filterMap fun call => call.1.newId

/-- An account of the store is the one that is found by its id. -/
def Found (s : AccountStore) : Prop :=
  ∀ key a, s.get? key = some a → s.find a.tenantId a.id = some (key, a)

/-- A call that ends the sessions of the account under a key. -/
def Revokes (key : String × String) (step : Step AccountStore (AccountCall × Moment) AccountReply) :
    Prop :=
  step.input.1.invalidates = true ∧ ∃ account, step.output = .ok (some account) ∧
    (account.tenantId, account.email) = key

section Steps

variable {tables : CharTables} {s : AccountStore}

theorem AccountCall.Creates.newId_eq {call : AccountCall} {now : Moment} {a : Account}
    (h : call.Creates tables s now a) : call.newId = some a.id := by
  rcases h.cases with ⟨input, newId, rfl, hrecord, -⟩ | ⟨input, newId, rfl, hrecord, -⟩
  · rw [(recorded_of_record hrecord).id]
    rfl
  · rw [(recorded_of_record hrecord).id]
    rfl

theorem Found.step (h : Found s) (hs : Valid s) (input : AccountCall × Moment)
    (hnew : ∀ id ∈ input.1.newId, ∀ key a, s.get? key = some a → a.id ≠ id) :
    Found (accountStep tables s input).1 := by
  obtain ⟨call, now⟩ := input
  have heffect := accountStep_effect tables s now call
  generalize accountStep tables s (call, now) = result at heffect
  cases heffect with
  | refused e => exact h
  | missed => exact h
  | created a hcreates =>
    intro key b hget
    have hfresh := hcreates.fresh hs.keyed
    have hnone : s.find a.tenantId a.id = none := by
      cases hfind : s.find a.tenantId a.id with
      | none => rfl
      | some e =>
        obtain ⟨hold, -, hid⟩ := AccountStore.get?_of_find hfind
        exact absurd hid (hnew a.id hcreates.newId_eq e.1 e.2 hold)
    rw [AccountStore.find_set_fresh hfresh]
    change (s.set a.key a).get? key = some b at hget
    rw [Dict.get?_set] at hget
    split at hget
    · rename_i hkey
      cases hget
      rw [hnone, Option.none_or, if_pos ⟨rfl, rfl⟩, hkey]
    · rw [h key b hget, Option.some_or]
  | changed tenantId accountId tenant key a htarget htenant hfind haccepts =>
    intro key' a' hget
    have hkept := (AccountStore.get?_of_find hfind).1
    rw [AccountStore.find_set hkept (call.apply_tenantId now a) (call.apply_id now a)]
    change (s.set key (call.apply now a)).get? key' = some a' at hget
    rw [Dict.get?_set] at hget
    split at hget
    · rename_i hkey
      cases hget
      rw [AccountCall.apply_tenantId, AccountCall.apply_id, h key a hkept, Option.map_some,
        if_pos rfl, hkey]
    · rename_i hkey
      rw [h key' a' hget, Option.map_some, if_neg fun h => hkey h.symm]

variable (tables) in
/-- The id of an account has been there before, or the call gives it. -/
theorem id_step (input : AccountCall × Moment) {key : String × String} {a : Account}
    (hget : (accountStep tables s input).1.get? key = some a) :
    (∃ key' b, s.get? key' = some b ∧ b.id = a.id) ∨ input.1.newId = some a.id := by
  obtain ⟨call, now⟩ := input
  have heffect := accountStep_effect tables s now call
  generalize accountStep tables s (call, now) = result at heffect hget
  cases heffect with
  | refused e => exact .inl ⟨key, a, hget, rfl⟩
  | missed => exact .inl ⟨key, a, hget, rfl⟩
  | created b hcreates =>
    change (s.set b.key b).get? key = some a at hget
    rw [Dict.get?_set] at hget
    split at hget
    · cases hget
      exact .inr hcreates.newId_eq
    · exact .inl ⟨key, a, hget, rfl⟩
  | changed tenantId accountId tenant key' b htarget htenant hfind haccepts =>
    change (s.set key' (call.apply now b)).get? key = some a at hget
    rw [Dict.get?_set] at hget
    split at hget
    · cases hget
      exact .inl ⟨key', b, (AccountStore.get?_of_find hfind).1, (call.apply_id now b).symm⟩
    · exact .inl ⟨key, a, hget, rfl⟩

variable (tables) in
/-- An account keeps its tenant and its id; its version does not fall, and it rises in a call that ends
its sessions. -/
theorem version_step (hs : Valid s) (input : AccountCall × Moment) {key : String × String}
    {a : Account} (hget : s.get? key = some a) :
    ∃ a', (accountStep tables s input).1.get? key = some a' ∧ a'.tenantId = a.tenantId ∧
      a'.id = a.id ∧ a.sessionVersion ≤ a'.sessionVersion ∧
        (Revokes key (stepOf (accountStep tables) s input) →
          a.sessionVersion < a'.sessionVersion) := by
  obtain ⟨call, now⟩ := input
  have heffect := accountStep_effect tables s now call
  unfold Revokes stepOf
  generalize accountStep tables s (call, now) = result at heffect
  cases heffect with
  | refused e =>
    refine ⟨a, hget, rfl, rfl, le_rfl, fun h => ?_⟩
    obtain ⟨-, account, haccount, -⟩ := h
    cases haccount
  | missed =>
    refine ⟨a, hget, rfl, rfl, le_rfl, fun h => ?_⟩
    obtain ⟨-, account, haccount, -⟩ := h
    cases haccount
  | created b hcreates =>
    have hfresh := hcreates.fresh hs.keyed
    have hne : b.key ≠ key := fun hkey => by
      rw [hkey, hget] at hfresh
      cases hfresh
    refine ⟨a, (Dict.get?_set_ne s hne b).trans hget, rfl, rfl, le_rfl, fun h => ?_⟩
    rcases hcreates.cases with ⟨_, _, rfl, -, -⟩ | ⟨_, _, rfl, -, -⟩
    · cases h.1
    · cases h.1
  | changed tenantId accountId tenant key' b htarget htenant hfind haccepts =>
    have hb := (AccountStore.get?_of_find hfind).1
    have hversion := call.apply_sessionVersion now b
    by_cases hkey : key' = key
    · subst hkey
      rw [hb] at hget
      cases hget
      refine ⟨call.apply now a, Dict.get?_set_self _ _ _, call.apply_tenantId now a,
        call.apply_id now a, ?_, fun h => ?_⟩
      · rw [hversion]
        split
        · omega
        · omega
      · rw [hversion, if_pos h.1]
        omega
    · refine ⟨a, (Dict.get?_set_ne s hkey _).trans hget, rfl, rfl, le_rfl, fun h => ?_⟩
      -- the answer names the account that was changed, which stands elsewhere
      obtain ⟨-, account, haccount, hnamed⟩ := h
      cases haccount
      refine absurd ?_ hkey
      rw [hs.keyed key' b hb, ← hnamed]
      exact (call.apply_key now b).symm

end Steps

section Runs

variable {tables : CharTables}

theorem found_final {s : AccountStore} {calls : List (AccountCall × Moment)} (h : Found s)
    (hs : Valid s) (hids : (newIds calls).Nodup)
    (hnew : ∀ id ∈ newIds calls, ∀ key a, s.get? key = some a → a.id ≠ id) :
    Found (final (accountStep tables) s calls) := by
  induction calls generalizing s with
  | nil => exact h
  | cons call calls ih =>
    have hcall : ∀ id ∈ call.1.newId, id ∈ newIds (call :: calls) := fun id hid =>
      List.mem_filterMap.mpr ⟨call, List.mem_cons_self, hid⟩
    have hrest : ∀ id ∈ newIds calls, id ∈ newIds (call :: calls) := fun id hid => by
      obtain ⟨later, hlater, hgives⟩ := List.mem_filterMap.mp hid
      exact List.mem_filterMap.mpr ⟨later, List.mem_cons_of_mem _ hlater, hgives⟩
    refine ih (h.step hs call fun id hid => hnew id (hcall id hid)) (hs.step call) ?_ ?_
    · unfold newIds at hids
      rw [List.filterMap_cons] at hids
      split at hids
      · exact hids
      · exact (List.nodup_cons.mp hids).2
    · intro id hid key a hget hsame
      rcases id_step tables call hget with ⟨key', b, hb, hkept⟩ | hgives
      · exact hnew id (hrest id hid) key' b hb (hkept.trans hsame)
      · -- the account is new, and its id would be given again
        unfold newIds at hids
        rw [List.filterMap_cons, hgives, hsame] at hids
        exact (List.nodup_cons.mp hids).1 hid

theorem found_storeAfter {calls : List (AccountCall × Moment)} (hids : (newIds calls).Nodup) :
    Found (storeAfter tables calls) := by
  refine found_final (fun key a hget => ?_) valid_empty hids fun id _ key a hget => ?_
  · rw [Dict.get?_empty] at hget
    cases hget
  · rw [Dict.get?_empty] at hget
    cases hget

/-- Along a run an account keeps its tenant and id, and its version tells whether its sessions have
been ended. -/
theorem version_final {s : AccountStore} (hs : Valid s) (calls : List (AccountCall × Moment))
    {key : String × String} {a : Account} (hget : s.get? key = some a) :
    ∃ a', (final (accountStep tables) s calls).get? key = some a' ∧ a'.tenantId = a.tenantId ∧
      a'.id = a.id ∧ a.sessionVersion ≤ a'.sessionVersion ∧
        ((∃ step ∈ trace (accountStep tables) s calls, Revokes key step) →
          a.sessionVersion < a'.sessionVersion) := by
  induction calls generalizing s a with
  | nil =>
    refine ⟨a, hget, rfl, rfl, le_rfl, fun h => ?_⟩
    obtain ⟨step, hm, -⟩ := h
    cases hm
  | cons call calls ih =>
    obtain ⟨b, hb, htenant, hid, hle, hlt⟩ := version_step tables hs call hget
    obtain ⟨c, hc, htenant', hid', hle', hlt'⟩ := ih (hs.step call) hb
    refine ⟨c, hc, htenant'.trans htenant, hid'.trans hid, hle.trans hle', fun h => ?_⟩
    obtain ⟨step, hm, hrevokes⟩ := h
    rcases List.mem_cons.mp hm with rfl | hm
    · exact lt_of_lt_of_le (hlt hrevokes) hle'
    · exact lt_of_le_of_lt hle (hlt' ⟨step, hm, hrevokes⟩)

end Runs

/-! ## Tokens -/

/-- Whether a place holds a token. -/
def slot (tokenHash : String) (place : Option String) : ℕ := place.toList.count tokenHash

theorem slot_none (tokenHash : String) : slot tokenHash none = 0 := rfl

theorem slot_some (tokenHash token : String) :
    slot tokenHash (some token) = if token = tokenHash then 1 else 0 := by
  simp [slot, List.count_singleton]

/-- How many of the two places of an account hold a token. -/
def Account.holds (tokenHash : String) (a : Account) : ℕ :=
  slot tokenHash a.invitationTokenHash + slot tokenHash a.resetTokenHash

/-- How many places of the store hold a token. -/
def held (tokenHash : String) (s : AccountStore) : ℤ :=
  (s.entries.map fun e => (e.2.holds tokenHash : ℤ)).sum

/-- The tokens a call issues. -/
def AccountCall.tokens : AccountCall → List String
  | .create input _ => input.invitationTokenHash.toList ++ input.resetTokenHash.toList
  | .createFirstOwner input _ => input.invitationTokenHash.toList ++ input.resetTokenHash.toList
  | .setInvitation _ _ tokenHash _ => [tokenHash]
  | .setResetToken _ _ tokenHash _ => [tokenHash]
  | _ => []

/-- The tokens a run issues. -/
def issuedTokens (calls : List (AccountCall × Moment)) : List String :=
  calls.flatMap fun call => call.1.tokens

/-- The token a call presents. -/
def AccountCall.presents : AccountCall → Option String
  | .activateInvitation _ _ tokenHash _ => some tokenHash
  | .consumeResetToken _ _ tokenHash _ => some tokenHash
  | _ => none

/-- A reply that is an account. -/
def isSuccess : AccountReply → Bool
  | .ok (some _) => true
  | _ => false

/-- A call that presents a token, with success. -/
def consumes (tokenHash : String) (step : Step AccountStore (AccountCall × Moment) AccountReply) :
    Bool :=
  decide (step.input.1.presents = some tokenHash) && isSuccess step.output

theorem held_nonneg (tokenHash : String) (s : AccountStore) : 0 ≤ held tokenHash s := by
  unfold held
  induction s.entries with
  | nil => exact le_rfl
  | cons e rest ih =>
    rw [List.map_cons, List.sum_cons]
    omega

/-- A change gives up a token that it consumes, and takes no token that it does not issue. -/
theorem holds_apply {call : AccountCall} {now : Moment} {a : Account} (h : call.Accepts now a)
    (tokenHash : String) : slot tokenHash call.presents + (call.apply now a).holds tokenHash ≤
      a.holds tokenHash + call.tokens.count tokenHash := by
  unfold Account.holds
  cases call with
  | create => simp only [AccountCall.presents, AccountCall.apply, slot_none]; omega
  | createFirstOwner => simp only [AccountCall.presents, AccountCall.apply, slot_none]; omega
  | setActive => simp only [AccountCall.presents, AccountCall.apply, slot_none]; omega
  | setRole => simp only [AccountCall.presents, AccountCall.apply, slot_none]; omega
  | setPassword => simp only [AccountCall.presents, AccountCall.apply, slot_none]; omega
  | setInvitation =>
    simp only [AccountCall.presents, AccountCall.apply, AccountCall.tokens, slot,
      Option.toList_some, Option.toList_none, List.count_nil]
    omega
  | activateInvitation =>
    simp only [AccountCall.presents, AccountCall.apply, h.2.1, slot_none]
    omega
  | setResetToken =>
    simp only [AccountCall.presents, AccountCall.apply, AccountCall.tokens, slot,
      Option.toList_some, Option.toList_none, List.count_nil]
    omega
  | consumeResetToken =>
    simp only [AccountCall.presents, AccountCall.apply, h.1, slot_none]
    omega

section Tokens

variable {tables : CharTables} {s : AccountStore}

theorem consumes_eq (tokenHash : String)
    (step : Step AccountStore (AccountCall × Moment) AccountReply) :
    (if consumes tokenHash step = true then 1 else 0) ≤ slot tokenHash step.input.1.presents := by
  unfold consumes
  by_cases hpresents : step.input.1.presents = some tokenHash
  · rw [hpresents, slot_some, if_pos rfl]
    split
    · exact le_rfl
    · exact Nat.zero_le 1
  · rw [if_neg (by simp [hpresents])]
    exact Nat.zero_le _

variable (tables) in
/-- A call that consumes a token leaves one place less for it; only an issue adds one. -/
theorem held_step (hs : Valid s) (input : AccountCall × Moment) (tokenHash : String) :
    ((if consumes tokenHash (stepOf (accountStep tables) s input) = true then 1 else 0 : ℕ) : ℤ) +
        held tokenHash (accountStep tables s input).1 ≤
      held tokenHash s + input.1.tokens.count tokenHash := by
  obtain ⟨call, now⟩ := input
  have heffect := accountStep_effect tables s now call
  have hpresents := consumes_eq tokenHash (stepOf (accountStep tables) s (call, now))
  revert hpresents
  unfold stepOf
  generalize accountStep tables s (call, now) = result at heffect
  intro hpresents
  cases heffect with
  | refused e =>
    simp only [consumes, isSuccess, Bool.and_false, Bool.false_eq_true, if_false]
    omega
  | missed =>
    simp only [consumes, isSuccess, Bool.and_false, Bool.false_eq_true, if_false]
    omega
  | created a hcreates =>
    have hheld : held tokenHash (s.set a.key a) = held tokenHash s + a.holds tokenHash := by
      have hsum := Dict.sum_set s (fun e => (e.2.holds tokenHash : ℤ)) a.key a
      rw [Dict.weightAt, hcreates.fresh hs.keyed] at hsum
      simpa [held] using hsum
    have hissues : call.tokens.count tokenHash = a.holds tokenHash ∧ call.presents = none := by
      rcases hcreates.cases with ⟨_, _, rfl, hrecord, -⟩ | ⟨_, _, rfl, hrecord, -⟩
      · have hrecorded := recorded_of_record hrecord
        rw [Account.holds, hrecorded.invitationTokenHash, hrecorded.resetTokenHash]
        exact ⟨List.count_append, rfl⟩
      · have hrecorded := recorded_of_record hrecord
        rw [Account.holds, hrecorded.invitationTokenHash, hrecorded.resetTokenHash]
        exact ⟨List.count_append, rfl⟩
    dsimp only at hpresents ⊢
    rw [hissues.2, slot_none] at hpresents
    rw [hissues.1, hheld]
    omega
  | changed tenantId accountId tenant key a htarget htenant hfind haccepts =>
    have hkept := (AccountStore.get?_of_find hfind).1
    have hheld : held tokenHash (s.set key (call.apply now a)) =
        held tokenHash s - a.holds tokenHash + (call.apply now a).holds tokenHash := by
      have hsum := Dict.sum_set s (fun e => (e.2.holds tokenHash : ℤ)) key (call.apply now a)
      rw [Dict.weightAt, hkept] at hsum
      simpa [held] using hsum
    have happly := holds_apply haccepts tokenHash
    dsimp only at hpresents ⊢
    rw [hheld]
    omega

variable (tables) in
/-- A token is consumed no more often than it has been issued. -/
theorem consumed_le (hs : Valid s) (calls : List (AccountCall × Moment)) (tokenHash : String) :
    ((trace (accountStep tables) s calls).countP (consumes tokenHash) : ℤ) ≤
      held tokenHash s + (issuedTokens calls).count tokenHash := by
  induction calls generalizing s with
  | nil =>
    have hnonneg := held_nonneg tokenHash s
    simpa [trace, issuedTokens] using hnonneg
  | cons call calls ih =>
    have hstep := held_step tables hs call tokenHash
    have hrest := ih (Valid.step hs call : Valid (accountStep tables s call).1)
    rw [trace, List.countP_cons]
    have hissued : (issuedTokens (call :: calls)).count tokenHash =
        call.1.tokens.count tokenHash + (issuedTokens calls).count tokenHash := List.count_append
    rw [hissued, Nat.cast_add, Nat.cast_add]
    omega

end Tokens

/-! ## Revocation is final -/

/-- What `uuid4` and the nonces of the tokens promise of a run: no id and no token is given out
twice. -/
structure Minted (calls : List (AccountCall × Moment)) : Prop where
  ids : (newIds calls).Nodup
  tokens : (issuedTokens calls).Nodup

/-- A session of an account, as it was when the session was opened. -/
structure OpenedBy (context : TenantContext) (a : Account) : Prop where
  tenantId : context.tenantId = a.tenantId
  userId : context.userId = a.id
  sessionVersion : context.sessionVersion = some a.sessionVersion

/-- **Revocation is final.** A session that is accepted at a later moment belongs to an active account,
and no call has ended it in between; and no token is consumed twice. -/
theorem revocation_is_final (tables : CharTables)
    (verifyBearer : Option String → Except Exc TenantContext)
    (calls later : List (AccountCall × Moment)) (hminted : Minted (calls ++ later)) :
    (∀ key a, (storeAfter tables calls).get? key = some a → ∀ authorization context accepted,
      verifyBearer authorization = .ok context → OpenedBy context a →
      verifiedTenantContext verifyBearer (storeAfter tables (calls ++ later)) authorization =
        .ok accepted →
      (∃ a', (storeAfter tables (calls ++ later)).get? key = some a' ∧ a'.active = true) ∧
        ∀ step ∈ trace (accountStep tables) (storeAfter tables calls) later, ¬ Revokes key step) ∧
    ∀ tokenHash, (accountTrace tables (calls ++ later)).countP (consumes tokenHash) ≤ 1 := by
  constructor
  · intro key a hget authorization context accepted hbearer hopened haccepted
    obtain ⟨account, hbyId, hactive, hversion⟩ :=
      account_of_verifiedTenantContext hbearer hopened.sessionVersion haccepted
    have hvalid := valid_storeAfter tables calls
    have hsplit : storeAfter tables (calls ++ later) =
        final (accountStep tables) (storeAfter tables calls) later := final_append _ _ _ _
    obtain ⟨a', hget', htenant, hid, -, hrises⟩ := version_final hvalid later hget
    rw [← hsplit] at hget'
    -- the account that is looked up is the one the session was opened for
    have hfound := found_storeAfter hminted.ids key a' hget'
    have hsame : account = a' := by
      rw [hopened.tenantId, hopened.userId, ← htenant, ← hid] at hbyId
      have hstripped := (valid_storeAfter tables (calls ++ later)).stripped key a' hget'
      exact AccountStore.getById_of_find hstripped hfound hbyId
    subst hsame
    refine ⟨⟨account, hget', hactive⟩, fun step hm hrevokes => ?_⟩
    have hlt := hrises ⟨step, hm, hrevokes⟩
    rw [hversion] at hlt
    exact lt_irrefl _ hlt
  · intro tokenHash
    have hle := consumed_le tables valid_empty (calls ++ later) tokenHash
    have hissued := List.nodup_iff_count_le_one.mp hminted.tokens tokenHash
    have hnone : held tokenHash Dict.empty = 0 := rfl
    rw [hnone] at hle
    show (trace (accountStep tables) Dict.empty (calls ++ later)).countP _ ≤ 1
    omega

/-! ### A worker who changes roles -/

/-- Tables for text within ASCII. -/
def asciiTables : CharTables := ⟨fun _ => false, id⟩

/-- A moment of a July day. -/
def julyMoment : Moment := ⟨1782864000000000, "2026-07-01T00:00:00+00:00"⟩

/-- The owner of a client. -/
def exampleOwner : AccountInput where
  tenantId := "tenant_a"
  email := "owner@ubuntu.test"
  givenName := "Naledi"
  surname := "Mokoena"
  position := "Business Owner"
  role := "owner"
  passwordHash := some "scrypt$00$01"

/-- A worker who is to be invited. -/
def exampleWorker : AccountInput where
  tenantId := "tenant_a"
  email := "receiver@example.test"
  givenName := "Thandi"
  surname := "Ndlovu"
  position := "Receiving Supervisor"
  role := "inventory"
  active := some false
  status := some "invited"

/-- The owner is set up, the worker is invited and activates the invitation. -/
def activationRun : List (AccountCall × Moment) :=
  [(.createFirstOwner exampleOwner "acc_1", julyMoment), (.create exampleWorker "acc_2", julyMoment),
    (.setInvitation "tenant_a" "acc_2" "digest_1" "2026-07-02T00:00:00+00:00", julyMoment),
    (.activateInvitation "tenant_a" "acc_2" "digest_1" "scrypt$02$03", julyMoment)]

/-- The worker gets another role. -/
def roleRun : List (AccountCall × Moment) := [(.setRole "tenant_a" "acc_2" "manager", julyMoment)]

/-- The worker's session, opened at the activation. -/
def workerSession : TenantContext := ⟨"tenant_a", "acc_2", .inventory, some 2, false⟩

/-- The worker's account after the activation. -/
def activeWorker : Account where
  tenantId := "tenant_a"
  email := "receiver@example.test"
  givenName := "Thandi"
  surname := "Ndlovu"
  position := "Receiving Supervisor"
  role := "inventory"
  id := "acc_2"
  active := true
  status := "active"
  passwordHash := "scrypt$02$03"
  mustChangePassword := false
  sessionVersion := 2
  invitationTokenHash := none
  invitationExpiresAt := none
  resetTokenHash := none
  resetExpiresAt := none
  createdAt := "2026-07-01T00:00:00+00:00"
  updatedAt := "2026-07-01T00:00:00+00:00"

/-- Once the worker has another role, the session of the activation is refused, and no token of the run
has been consumed twice. -/
theorem revocation_is_final_worker :
    (∀ accepted, verifiedTenantContext (fun _ => .ok workerSession)
      (storeAfter asciiTables (activationRun ++ roleRun)) none ≠ .ok accepted) ∧
      (accountTrace asciiTables (activationRun ++ roleRun)).countP (consumes "digest_1") ≤ 1 := by
  have hminted : Minted (activationRun ++ roleRun) := ⟨by decide +kernel, by decide +kernel⟩
  obtain ⟨hsessions, htokens⟩ := revocation_is_final asciiTables (fun _ => .ok workerSession)
    activationRun roleRun hminted
  refine ⟨fun accepted haccepted => ?_, htokens "digest_1"⟩
  have hactivated : (storeAfter asciiTables activationRun).get? activeWorker.key =
      some activeWorker := by decide +kernel
  have hnone := (hsessions _ activeWorker hactivated none workerSession accepted rfl ⟨rfl, rfl, rfl⟩
    haccepted).2
  refine hnone _ List.mem_cons_self ⟨rfl, { activeWorker with role := "manager" }.public, ?_, rfl⟩
  decide +kernel

end ShelfWise.Accounts
