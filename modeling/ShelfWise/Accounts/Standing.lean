import ShelfWise.Accounts.RouteCalls

/-!
# The standing of accounts

What a lawful call of the account store does to the standing of the accounts: active is the same as the
status `active` (`Coherent.step`), an active account keeps a credential unless it is made active without one
(`Credentialed.step`), and a tenant keeps an active owner unless the call is aimed at the last one
(`HasActiveOwner.step`).
-/

namespace ShelfWise.Accounts

open Py Sys

/-- Every account is active exactly when its status says so. -/
def Coherent (s : AccountStore) : Prop :=
  ∀ key a, s.get? key = some a → (a.active = true ↔ a.status = "active")

/-- Every active account has a password credential. -/
def Credentialed (s : AccountStore) : Prop :=
  ∀ key a, s.get? key = some a → a.active = true → a.passwordHash ≠ ""

/-- An active owner of a tenant. -/
structure Account.OwnsActively (a : Account) (tenant : String) : Prop where
  tenantId : a.tenantId = tenant
  role : a.role = Role.owner.value
  active : a.active = true

/-- At least one owner of the tenant is active. -/
def HasActiveOwner (tenant : String) (s : AccountStore) : Prop :=
  ∃ key a, s.get? key = some a ∧ a.OwnsActively tenant

instance (a : Account) (tenant : String) : Decidable (a.OwnsActively tenant) :=
  decidable_of_iff (a.tenantId = tenant ∧ a.role = Role.owner.value ∧ a.active = true)
    ⟨fun h => ⟨h.1, h.2.1, h.2.2⟩, fun h => ⟨h.tenantId, h.role, h.active⟩⟩

theorem exists_entry_iff {s : AccountStore} {P : String × String → Account → Prop} :
    (∃ e ∈ s.entries, P e.1 e.2) ↔ ∃ key a, s.get? key = some a ∧ P key a := by
  constructor
  · rintro ⟨⟨key, a⟩, hmem, hP⟩
    exact ⟨key, a, (s.mem_entries_iff key a).mp hmem, hP⟩
  · rintro ⟨key, a, hget, hP⟩
    exact ⟨(key, a), (s.mem_entries_iff key a).mpr hget, hP⟩

instance (tenant : String) (s : AccountStore) : Decidable (HasActiveOwner tenant s) :=
  decidable_of_iff (∃ e ∈ s.entries, e.2.OwnsActively tenant)
    (exists_entry_iff (P := fun _ a => a.OwnsActively tenant))

/-- Every account the call is to change has the property. -/
def AccountCall.Meets (s : AccountStore) (P : String × String → Account → Prop)
    (call : AccountCall) : Prop :=
  ∀ tenantId accountId tenant key a, call.target = some (tenantId, accountId) →
    checkTenant tenantId = .ok tenant → s.find tenant accountId = some (key, a) → P key a

/-- A call does not make an account active that has no credential. -/
def AccountCall.Credits (a : Account) : AccountCall → Prop
  | .setActive _ _ active => active = true → a.passwordHash ≠ ""
  | _ => True

/-- A call on an account leaves the tenant an active owner, if it had one. -/
def AccountCall.Spares (s : AccountStore) (key : String × String) (a : Account) :
    AccountCall → Prop
  | .setActive _ _ active => active = false → a.role = Role.owner.value →
      ∃ key' b, key' ≠ key ∧ s.get? key' = some b ∧ b.OwnsActively a.tenantId
  | .setRole .. => a.role ≠ Role.owner.value
  | .setInvitation .. => a.active = false
  | _ => True

/-! ## New accounts -/

theorem standing_of_recorded {input : AccountInput} {newId : String} {a : Account}
    (h : Recorded input newId a) (hinput : input.Consistent) :
    (a.active = true ↔ a.status = "active") ∧ a.id = newId ∧
      (input.active = some false → a.active = false) := by
  have hstatus := h.status
  have hactive := h.active
  refine ⟨?_, ?_, fun hfalse => by rw [hactive, hfalse]; rfl⟩
  · rcases hinput.standing with ⟨hgiven, hnamed⟩ | ⟨hgiven, hnamed⟩
    · rw [hnamed, show textOr _ (some "active") = "active" from rfl,
        show strip "active" = "active" by decide +kernel] at hstatus
      rw [hgiven] at hactive
      exact iff_of_true hactive hstatus
    · rw [hnamed, show textOr _ (some "invited") = "invited" from rfl,
        show strip "invited" = "invited" by decide +kernel] at hstatus
      rw [hgiven] at hactive
      refine iff_of_false (by rw [hactive]; exact Bool.false_ne_true) ?_
      rw [hstatus]
      decide
  · rw [h.id, hinput.id]
    rfl

section Created

variable {tables : CharTables} {s : AccountStore} {now : Moment} {a : Account} {call : AccountCall}
  {uuid4 : String}

/-- What a lawful creation makes. -/
theorem AccountCall.Creates.standing (h : call.Creates tables s now a) (hcall : call.Lawful uuid4) :
    (a.active = true ↔ a.status = "active") ∧ a.id = uuid4 ∧
      (a.active = true → a.passwordHash ≠ "") := by
  have hcredential : (a.active = true ↔ a.status = "active") →
      (a.status = "active" → a.passwordHash ≠ "") → a.active = true → a.passwordHash ≠ "" :=
    fun hiff himp hactive => himp (hiff.mp hactive)
  rcases h.cases with ⟨input, newId, rfl, hrecord, -⟩ | ⟨input, newId, rfl, hrecord, -⟩
  · have hrecorded := recorded_of_record hrecord
    obtain ⟨hiff, hid, -⟩ := standing_of_recorded hrecorded hcall.1
    exact ⟨hiff, hid.trans hcall.2, hcredential hiff hrecorded.credential⟩
  · have hrecorded := recorded_of_record hrecord
    obtain ⟨hiff, hid, -⟩ := standing_of_recorded hrecorded ⟨hcall.1, .inl ⟨rfl, rfl⟩⟩
    exact ⟨hiff, hid.trans hcall.2, hcredential hiff hrecorded.credential⟩

/-- The first account of a client is an active owner. -/
theorem owns_of_createFirstOwner {input : AccountInput} {newId : String}
    (h : (AccountCall.createFirstOwner input newId).Creates tables s now a) :
    a.OwnsActively (strip input.tenantId) := by
  have hrecorded := recorded_of_record h.1
  refine ⟨hrecorded.tenantId, ?_, ?_⟩
  · rw [hrecorded.role]
    show strip "owner" = "owner"
    decide +kernel
  · exact hrecorded.active

end Created

/-! ## What a call does to the standing -/

section Steps

variable {tables : CharTables} {s : AccountStore} {call : AccountCall} {uuid4 : String}

theorem AccountCall.apply_active_iff (now : Moment) {a : Account}
    (h : a.active = true ↔ a.status = "active") :
    (call.apply now a).active = true ↔ (call.apply now a).status = "active" := by
  cases call with
  | setActive tenantId accountId active =>
    cases active with
    | true => exact iff_of_true rfl rfl
    | false => exact iff_of_false Bool.false_ne_true (show "inactive" ≠ "active" by decide)
  | setInvitation => exact iff_of_false Bool.false_ne_true (show "invited" ≠ "active" by decide)
  | activateInvitation => exact iff_of_true rfl rfl
  | create => exact h
  | createFirstOwner => exact h
  | setRole => exact h
  | setPassword => exact h
  | setResetToken => exact h
  | consumeResetToken => exact h

theorem AccountCall.apply_credential (now : Moment) {a : Account} (hcall : call.Lawful uuid4)
    (hcredits : call.Credits a) (h : a.active = true → a.passwordHash ≠ "") :
    (call.apply now a).active = true → (call.apply now a).passwordHash ≠ "" := by
  cases call with
  | setActive tenantId accountId active => exact hcredits
  | setInvitation => exact fun hactive => absurd hactive Bool.false_ne_true
  | activateInvitation => exact fun _ => hcall
  | setPassword => exact fun _ => hcall
  | consumeResetToken => exact fun _ => hcall
  | create => exact h
  | createFirstOwner => exact h
  | setRole => exact h
  | setResetToken => exact h

/-- A call on an active owner that spares the owners leaves this one, or there is another. -/
theorem AccountCall.apply_owns (now : Moment) {key : String × String} {a : Account} {tenant : String}
    (hspares : call.Spares s key a) (h : a.OwnsActively tenant) :
    (call.apply now a).OwnsActively tenant ∨
      ∃ key' b, key' ≠ key ∧ s.get? key' = some b ∧ b.OwnsActively tenant := by
  cases call with
  | setActive tenantId accountId active =>
    cases active with
    | true => exact .inl ⟨h.tenantId, h.role, rfl⟩
    | false =>
      obtain ⟨key', b, hne, hget, howns⟩ := hspares rfl h.role
      rw [h.tenantId] at howns
      exact .inr ⟨key', b, hne, hget, howns⟩
  | setRole => exact absurd h.role hspares
  | setInvitation =>
    have hinactive : a.active = false := hspares
    rw [h.active] at hinactive
    cases hinactive
  | activateInvitation => exact .inl ⟨h.tenantId, h.role, rfl⟩
  | create => exact .inl h
  | createFirstOwner => exact .inl h
  | setPassword => exact .inl ⟨h.tenantId, h.role, h.active⟩
  | setResetToken => exact .inl ⟨h.tenantId, h.role, h.active⟩
  | consumeResetToken => exact .inl ⟨h.tenantId, h.role, h.active⟩

/-- What holds of every account holds after a call, when it holds of what the call makes. -/
theorem forall_accountStep {P : Account → Prop} {now : Moment}
    (hcreated : ∀ a, call.Creates tables s now a → P a)
    (hchanged : call.Meets s fun _ a => P a → P (call.apply now a))
    (h : ∀ key a, s.get? key = some a → P a) {key : String × String} {a : Account}
    (hget : (accountStep tables s (call, now)).1.get? key = some a) : P a := by
  have heffect := accountStep_effect tables s now call
  generalize accountStep tables s (call, now) = result at heffect hget
  cases heffect with
  | refused e => exact h key a hget
  | missed => exact h key a hget
  | created b hcreates =>
    change (s.set b.key b).get? key = some a at hget
    rw [Dict.get?_set] at hget
    split at hget
    · cases hget
      exact hcreated a hcreates
    · exact h key a hget
  | changed tenantId accountId tenant key' b htarget htenant hfind haccepts =>
    change (s.set key' (call.apply now b)).get? key = some a at hget
    rw [Dict.get?_set] at hget
    split at hget
    · cases hget
      exact hchanged _ _ _ _ _ htarget htenant hfind (h key' b (AccountStore.get?_of_find hfind).1)
    · exact h key a hget

theorem Coherent.step (h : Coherent s) (hcall : call.Lawful uuid4) (now : Moment) :
    Coherent (accountStep tables s (call, now)).1 :=
  fun _ _ hget => forall_accountStep (fun _ hcreates => (hcreates.standing hcall).1)
    (fun _ _ _ _ _ _ _ _ => call.apply_active_iff now) h hget

theorem Credentialed.step (h : Credentialed s) (hcall : call.Lawful uuid4)
    (hcredits : call.Meets s fun _ a => call.Credits a) (now : Moment) :
    Credentialed (accountStep tables s (call, now)).1 :=
  fun _ _ hget => forall_accountStep (P := fun a => a.active = true → a.passwordHash ≠ "")
    (fun _ hcreates => (hcreates.standing hcall).2.2)
    (fun _ _ _ _ _ htarget htenant hfind =>
      call.apply_credential now hcall (hcredits _ _ _ _ _ htarget htenant hfind)) h hget

theorem HasActiveOwner.step {tenant : String} (h : HasActiveOwner tenant s) (hs : Valid s)
    (hspares : call.Meets s (call.Spares s)) (now : Moment) :
    HasActiveOwner tenant (accountStep tables s (call, now)).1 := by
  obtain ⟨key, a, hget, howns⟩ := h
  have heffect := accountStep_effect tables s now call
  generalize accountStep tables s (call, now) = result at heffect
  cases heffect with
  | refused e => exact ⟨key, a, hget, howns⟩
  | missed => exact ⟨key, a, hget, howns⟩
  | created b hcreates =>
    have hne : b.key ≠ key := fun hkey => by
      have hfresh := hcreates.fresh hs.keyed
      rw [hkey, hget] at hfresh
      cases hfresh
    exact ⟨key, a, (Dict.get?_set_ne s hne b).trans hget, howns⟩
  | changed tenantId accountId tenant' key' b htarget htenant hfind haccepts =>
    by_cases hkey : key' = key
    · subst hkey
      have hsame := (AccountStore.get?_of_find hfind).1
      rw [hget] at hsame
      cases hsame
      rcases call.apply_owns now (hspares _ _ _ _ _ htarget htenant hfind) howns with
        hkept | ⟨key'', b, hne, hother, howns⟩
      · exact ⟨key', _, Dict.get?_set_self _ _ _, hkept⟩
      · exact ⟨key'', b, (Dict.get?_set_ne s hne.symm _).trans hother, howns⟩
    · exact ⟨key, a, (Dict.get?_set_ne s hkey _).trans hget, howns⟩

end Steps

end ShelfWise.Accounts
