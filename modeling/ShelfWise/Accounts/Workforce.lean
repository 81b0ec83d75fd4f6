import ShelfWise.Accounts.Checks

/-!
# The accounts of a workforce stay in order

Requests that run one at a time, from an empty store. After every request active is the same as the status
`active`, every active account has a credential, and a tenant that has been bootstrapped has an active
owner: exactly when no reactivation brings back an account that never had a credential
(`workforce_in_order_iff`). An account that is invited, deactivated and reactivated is such an account
(`workforce_out_of_order`).
-/

namespace ShelfWise.Accounts

open Py Sys Sys.Program

/-! ## Requests one at a time -/

/-- The state after a request, and its answer. -/
def routeStep (env : AccountEnv) (w : AccountState) (input : AccountRequest × RouteDraws) :
    AccountState × Except Exc RouteResponse :=
  (input.1.program env input.2).run w

/-- No account and no audit event. -/
def AccountState.empty : AccountState := ⟨Dict.empty, []⟩

/-- A step of the requests. -/
abbrev RouteStep := Step AccountState (AccountRequest × RouteDraws) (Except Exc RouteResponse)

/-- The steps of requests that run one at a time. -/
abbrev routeTrace (env : AccountEnv) (requests : List (AccountRequest × RouteDraws)) :
    List RouteStep :=
  trace (routeStep env) AccountState.empty requests

/-- A bootstrap that gives the tenant of the deployment its first account. -/
structure Bootstraps (env : AccountEnv) (step : RouteStep) : Prop where
  request : ∃ key body password, step.input.1 = .bootstrap key body password
  first : ∀ key a, step.before.accounts.get? key = some a → a.tenantId ≠ strip env.tenantId
  created : ∃ key a, step.after.accounts.get? key = some a ∧ a.tenantId = strip env.tenantId

/-- What is expected after some requests. -/
structure InOrder (env : AccountEnv) (past : List RouteStep) (w : AccountState) : Prop where
  coherent : Coherent w.accounts
  credentialed : Credentialed w.accounts
  owner : (∃ earlier ∈ past, Bootstraps env earlier) →
    HasActiveOwner (strip env.tenantId) w.accounts

/-! ## Calls and programs -/

section Programs

variable {tables : CharTables}

variable {K : AccountStore → Prop} {P : AccountStore → AccountCall → Prop} {w : AccountState}

/-- A call changes the accounts by an account call or not at all. -/
theorem routeAct_keeps
    (hstep : ∀ s call now, K s → P s call → K (accountStep tables s (call, now)).1)
    {label : RouteCall} (hK : K w.accounts) (h : label.Changes (P w.accounts)) :
    K (routeAct tables label w).accounts := by
  cases label with
  | change call now => exact hstep w.accounts call now hK h
  | getByEmail => exact hK
  | getById => exact hK
  | list => exact hK
  | recordAudit tenantId action accountId actorId eventId now =>
    show K (w.recordAudit tenantId action accountId actorId eventId now).1.accounts
    unfold AccountState.recordAudit
    split
    · exact hK
    · split
      · exact hK
      · exact hK

variable {α : Type}

/-- A route that runs alone keeps what its calls keep. -/
theorem run_keeps (hstep : ∀ s call now, K s → P s call → K (accountStep tables s (call, now)).1)
    {p : RouteProgram α}
    (h : p.Guarded (routeAct tables) Eq (fun label w => label.Changes (P w.accounts)) w)
    (hK : K w.accounts) : K (p.run w).1.accounts :=
  guarded_run (K := fun w => K w.accounts) (fun _ _ hw hP => routeAct_keeps hstep hw hP) h hK

theorem accounts_of_quiet {p : RouteProgram α}
    (h : p.Uses (routeAct tables) (RouteCall.Changes fun _ => False)) (w : AccountState) :
    (p.run w).1.accounts = w.accounts :=
  run_keeps (K := fun s => s = w.accounts) (P := fun _ _ => False) (fun _ _ _ _ h => h.elim)
    (h.guarded (fun _ _ h => h) w) rfl

end Programs

/-! ## One request -/

section Requests

variable {env : AccountEnv} {past : List RouteStep} {w : AccountState}

/-- A bootstrap that makes the first account makes an active owner. -/
theorem Bootstraps.hasActiveOwner {input : AccountRequest × RouteDraws}
    (h : Bootstraps env (stepOf (routeStep env) w input)) :
    HasActiveOwner (strip env.tenantId) (routeStep env w input).1.accounts := by
  obtain ⟨r, o⟩ := input
  obtain ⟨⟨bootstrapKey, body, password, hrequest⟩, hfirst, key, a, hget, htenant⟩ := h
  change r = .bootstrap bootstrapKey body password at hrequest
  subst hrequest
  -- the only call is the creation of the first owner
  have hcalls : (bootstrapClientOwner env o bootstrapKey body password).Guarded
      (routeAct env.tables) Eq (fun label _ => label.Changes fun call => ∃ input,
        call = .createFirstOwner input o.newId ∧ input.id = none ∧ input.tenantId = env.tenantId) w :=
    (bootstrapClientOwner_uses env o bootstrapKey body password).guarded (fun _ _ h => h) w
  refine ⟨key, a, hget, run_keeps (K := fun s => ∀ key a, s.get? key = some a →
    a.tenantId = strip env.tenantId → a.OwnsActively (strip env.tenantId))
    (P := fun _ call => ∃ input, call = .createFirstOwner input o.newId ∧ input.id = none ∧
      input.tenantId = env.tenantId) ?_ hcalls
    (fun key a hget hsame => absurd hsame (hfirst key a hget)) key a hget htenant⟩
  intro s call now hK hcall key a
  obtain ⟨input, rfl, -, hin⟩ := hcall
  refine forall_accountStep (P := fun a => a.tenantId = strip env.tenantId →
    a.OwnsActively (strip env.tenantId)) (fun a hcreates _ => ?_) ?_ hK
  · rw [← hin]
    exact owns_of_createFirstOwner hcreates
  · intro tenantId accountId tenant key a htarget
    cases htarget

/-- What is known along the requests: what is expected, and where the ids come from. -/
structure Orderly (env : AccountEnv) (past : List RouteStep) (w : AccountState) : Prop extends
    InOrder env past w where
  valid : Valid w.accounts
  ids : ∀ key a, w.accounts.get? key = some a → ∃ earlier ∈ past, earlier.input.2.newId = a.id

theorem orderly_empty : Orderly env [] AccountState.empty where
  coherent key a hget := by cases hget
  credentialed key a hget := by cases hget
  owner h := by
    obtain ⟨earlier, hmem, -⟩ := h
    cases hmem
  valid := valid_empty
  ids key a hget := by cases hget

theorem Orderly.step (h : Orderly env past w) (input : AccountRequest × RouteDraws)
    (hnew : ∀ earlier ∈ past, earlier.input.2.newId ≠ input.2.newId)
    (hcredited : input.1.CreditedIn w) :
    Orderly env (past ++ [stepOf (routeStep env) w input]) (routeStep env w input).1 := by
  have hfresh : ∀ key a, w.accounts.get? key = some a → a.id ≠ input.2.newId := by
    intro key a hget hsame
    obtain ⟨earlier, hmem, hid⟩ := h.ids key a hget
    exact hnew earlier hmem (hid.trans hsame)
  have hsound := request_sound env input.2 h.valid h.coherent hfresh hcredited
  exact {
    coherent := run_keeps (fun s call now hK hcall => hK.step hcall.lawful now) hsound h.coherent
    credentialed := run_keeps (fun s call now hK hcall => hK.step hcall.lawful hcall.credits now)
      hsound h.credentialed
    owner := by
      rintro ⟨earlier, hmem, hbootstraps⟩
      rcases List.mem_append.mp hmem with hmem | hmem
      · exact (run_keeps (K := fun s => Valid s ∧ HasActiveOwner (strip env.tenantId) s)
          (fun s call now hK hcall => ⟨hK.1.step _, hK.2.step hK.1 hcall.spares now⟩) hsound
          ⟨h.valid, h.owner ⟨earlier, hmem, hbootstraps⟩⟩).2
      · rw [List.mem_singleton.mp hmem] at hbootstraps
        exact hbootstraps.hasActiveOwner
    valid := run_keeps (fun s call now hK _ => hK.step _) hsound h.valid
    ids := by
      have hids : ∀ key a, (routeStep env w input).1.accounts.get? key = some a →
          a.id = input.2.newId ∨ ∃ earlier ∈ past, earlier.input.2.newId = a.id := by
        refine run_keeps (K := fun s => ∀ key a, s.get? key = some a →
          a.id = input.2.newId ∨ ∃ earlier ∈ past, earlier.input.2.newId = a.id) ?_ hsound
          fun key a hget => .inr (h.ids key a hget)
        intro s call now hK hcall key a
        refine forall_accountStep (P := fun a => a.id = input.2.newId ∨
          ∃ earlier ∈ past, earlier.input.2.newId = a.id)
          (fun a hcreates => .inl (hcreates.standing hcall.lawful).2.1) ?_ hK
        intro tenantId accountId tenant key a _ _ _ ha
        rw [AccountCall.apply_id]
        exact ha
      intro key a hget
      rcases hids key a hget with hid | ⟨earlier, hmem, hid⟩
      · exact ⟨_, List.mem_append_right _ List.mem_cons_self, hid.symm⟩
      · exact ⟨earlier, List.mem_append_left _ hmem, hid⟩ }

/-- A reactivation makes the account active that the route has found. -/
theorem reactivate_accounts {o : RouteDraws} {context : TenantContext} {accountId : String}
    {a : Account} (hget : w.accounts.getById context.tenantId accountId = .ok (some a))
    (hstatus : a.status ≠ "invited") :
    (routeStep env w (.reactivate context accountId, o)).1.accounts =
      (accountStep env.tables w.accounts (.setActive context.tenantId accountId true,
        o.times 0)).1 := by
  show ((reactivateWorkAccount env o context accountId).run w).1.accounts = _
  unfold reactivateWorkAccount getById Program.bindExcept
  rw [run_bind, run_call, hget]
  show ((if a.status = "invited" then _ else _ : RouteProgram RouteResponse).run w).1.accounts = _
  rw [if_neg hstatus, run_bind]
  unfold changeAccount
  rw [run_call]
  dsimp only
  split
  · rfl
  · exact accounts_of_quiet (auditAndAnswer_uses env.tables _ _ _ _ _) _

/-- After a request that leaves the accounts in order, it has brought none back without a credential. -/
theorem creditedIn_of_credentialed {input : AccountRequest × RouteDraws}
    (h : Credentialed (routeStep env w input).1.accounts) : input.1.CreditedIn w := by
  obtain ⟨r, o⟩ := input
  cases r with
  | reactivate context accountId =>
    intro a hget hstatus
    rw [reactivate_accounts hget hstatus] at h
    obtain ⟨tenant, key, htenant, hfind⟩ := AccountStore.find_of_getById hget
    refine h key { a with
      active := true, status := "active"
      sessionVersion := a.sessionVersion + 1, updatedAt := (o.times 0).iso } ?_ rfl
    show (AccountStore.change _ _ _ _ _).1.get? key = _
    unfold AccountStore.change
    rw [htenant]
    dsimp only
    rw [hfind]
    exact Dict.get?_set_self _ _ _
  | bootstrap => trivial
  | login => trivial
  | activate => trivial
  | requestReset => trivial
  | consumeReset => trivial
  | changePassword => trivial
  | create => trivial
  | invite => trivial
  | resend => trivial
  | ownerReset => trivial
  | deactivate => trivial
  | changeRole => trivial

end Requests

/-! ## Every run -/

/-- **The workforce stays in order.** Where `uuid4` answers no id twice, the accounts are in order after
every request exactly when no request brings an account back that has no credential. -/
theorem workforce_in_order_iff (env : AccountEnv) (requests : List (AccountRequest × RouteDraws))
    (huuids : (requests.map fun request => request.2.newId).Nodup) :
    (∀ past step rest, routeTrace env requests = past ++ step :: rest →
      InOrder env (past ++ [step]) step.after) ↔
      ∀ step ∈ routeTrace env requests, step.input.1.CreditedIn step.before := by
  have hsteps : ∀ step ∈ routeTrace env requests,
      step = stepOf (routeStep env) step.before step.input := fun step hmem =>
    (invariant_of_mem_trace (I := fun _ => True) (fun _ _ _ => trivial) trivial hmem).2
  constructor
  · intro hall step hmem
    obtain ⟨past, rest, hsplit⟩ := List.append_of_mem hmem
    have hafter := (hall past step rest hsplit).credentialed
    rw [hsteps step hmem] at hafter
    exact creditedIn_of_credentialed hafter
  · intro hall past step rest hsplit
    have hnodup : ((past ++ step :: rest).map fun step => step.input.2.newId).Nodup := by
      rw [← hsplit]
      rw [← map_input_trace (routeStep env) AccountState.empty requests, List.map_map] at huuids
      exact huuids
    rw [List.map_append, List.map_cons, List.nodup_append] at hnodup
    obtain ⟨hpast, -, hdisjoint⟩ := hnodup
    have hcredited : ∀ earlier ∈ past, earlier.input.1.CreditedIn earlier.before := fun earlier h =>
      hall earlier (by rw [hsplit]; exact List.mem_append_left _ h)
    -- by induction on the requests: they are orderly as long as the steps are credited
    have hbefore := history_of_split (H := fun (past : List RouteStep) w =>
      (∀ earlier ∈ past, earlier.input.1.CreditedIn earlier.before) →
        (past.map fun step => step.input.2.newId).Nodup → Orderly env past w)
      (fun past w input ih hcredited hnodup => by
        rw [List.map_append, List.nodup_append] at hnodup
        refine (ih (fun earlier h => hcredited earlier (List.mem_append_left _ h)) hnodup.1).step input
          (fun earlier h => hnodup.2.2 _ (List.mem_map_of_mem h) _ List.mem_cons_self) ?_
        exact hcredited (stepOf (routeStep env) w input)
          (List.mem_append_right _ List.mem_cons_self)) [] (fun _ _ => orderly_empty) hsplit
    have hmem : step ∈ routeTrace env requests := by
      rw [hsplit]
      exact List.mem_append_right _ List.mem_cons_self
    have hafter := (hbefore hcredited hpast).step step.input
      (fun earlier h => hdisjoint _ (List.mem_map_of_mem h) _ List.mem_cons_self) (hall step hmem)
    rw [hsteps step hmem]
    exact hafter.toInOrder

/-! ### A worker who comes back -/

/-- A deployment of one client; the key derivation answers zeros, and no link is verified. -/
def exampleEnv : AccountEnv where
  tables := asciiTables
  crypto := ⟨fun _ _ length => List.replicate length 0,
    fun _ _ => .error (.valueError "Invalid account token")⟩
  tenantId := "tenant_a"
  authSecret := "tenant-secret"
  bootstrapKey := "platform-key"
  loginEmail := ""
  loginPasswordHash := ""
  loginGivenName := "Legacy"
  loginSurname := "Owner"
  loginPosition := "Business Owner"
  legacyOwnerRecovery := ""
  invitationSeconds := 86400
  resetSeconds := 3600

/-- What a request draws on a July day, with the mail working. -/
def julyDraws (newId : String) : RouteDraws where
  newId := newId
  salt := [1, 2]
  token := "token-of-" ++ newId
  expiresAt := "2026-07-02T00:00:00+00:00"
  eventId := "event-of-" ++ newId
  times := fun _ => julyMoment
  emailConfigured := .ok ()
  delivery := .ok ()
  profile := .ok ()

/-- The owner's session. -/
def ownerSession : TenantContext := ⟨"tenant_a", "acc_1", .owner, some 1, false⟩

/-- The identity of the owner. -/
def ownerBody : IdentityBody := ⟨"owner@ubuntu.test", "Naledi", "Mokoena", "Business Owner"⟩

/-- The identity of the worker. -/
def workerBody : IdentityBody :=
  ⟨"receiver@example.test", "Thandi", "Ndlovu", "Receiving Supervisor"⟩

/-- The bootstrap of the client. -/
def bootstrapRequest : AccountRequest × RouteDraws :=
  (.bootstrap (some "platform-key") ownerBody "owner-password-1", julyDraws "acc_1")

/-- A worker with a password of the owner's choice is deactivated and comes back. -/
def createdRun : List (AccountRequest × RouteDraws) :=
  [bootstrapRequest,
    (.create ownerSession workerBody .inventory "worker-password-1", julyDraws "acc_2"),
    (.deactivate ownerSession "acc_2", julyDraws "acc_3"),
    (.reactivate ownerSession "acc_2", julyDraws "acc_4")]

/-- A worker who has been given a password comes back with it: the accounts are in order after the
last request. -/
theorem workforce_in_order_created : ∃ past step,
    routeTrace exampleEnv createdRun = past ++ [step] ∧
      InOrder exampleEnv (past ++ [step]) step.after := by
  have hne : routeTrace exampleEnv createdRun ≠ [] := List.cons_ne_nil _ _
  have hsplit := (List.dropLast_append_getLast hne).symm
  refine ⟨_, _, hsplit, ?_⟩
  refine (workforce_in_order_iff exampleEnv createdRun (by decide +kernel)).mpr ?_ _ _ [] hsplit
  have hreactivated : ((final (routeStep exampleEnv) AccountState.empty
      (createdRun.take 3)).accounts.getById "tenant_a" "acc_2").map
        (Option.map fun a => decide (a.passwordHash = "")) = .ok (some false) := by decide +kernel
  intro step hmem
  rcases List.mem_cons.mp hmem with rfl | hmem
  · trivial
  rcases List.mem_cons.mp hmem with rfl | hmem
  · trivial
  rcases List.mem_cons.mp hmem with rfl | hmem
  · trivial
  rw [List.mem_singleton.mp hmem]
  intro a hget _
  change AccountStore.getById (final (routeStep exampleEnv) AccountState.empty
    (createdRun.take 3)).accounts "tenant_a" "acc_2" = .ok (some a) at hget
  rw [hget] at hreactivated
  exact of_decide_eq_false (Option.some.inj (Except.ok.inj hreactivated))

/-- A worker is invited, deactivated before the invitation is used, and brought back. -/
def invitedRun : List (AccountRequest × RouteDraws) :=
  [bootstrapRequest,
    (.invite ownerSession workerBody .inventory, julyDraws "acc_2"),
    (.deactivate ownerSession "acc_2", julyDraws "acc_3"),
    (.reactivate ownerSession "acc_2", julyDraws "acc_4")]

/-- A worker who has never had a password is active after the reactivation, for a client that has been
bootstrapped. -/
theorem workforce_out_of_order :
    (∃ step ∈ routeTrace exampleEnv invitedRun, Bootstraps exampleEnv step) ∧
      ¬ Credentialed (final (routeStep exampleEnv) AccountState.empty invitedRun).accounts := by
  constructor
  · have hcreated : (((routeStep exampleEnv AccountState.empty bootstrapRequest).1.accounts.get?
        ("tenant_a", "owner@ubuntu.test")).map fun a => decide (a.tenantId = strip "tenant_a")) =
          some true := by decide +kernel
    obtain ⟨a, hget, htenant⟩ := Option.map_eq_some_iff.mp hcreated
    exact ⟨_, List.mem_cons_self, ⟨_, _, _, rfl⟩, fun key b hb => (by cases hb), _, a, hget,
      of_decide_eq_true htenant⟩
  · intro hall
    have hactive : ((final (routeStep exampleEnv) AccountState.empty invitedRun).accounts.get?
        ("tenant_a", "receiver@example.test")).map (fun a => (a.active, a.passwordHash)) =
          some (true, "") := by decide +kernel
    obtain ⟨a, hget, hstanding⟩ := Option.map_eq_some_iff.mp hactive
    exact hall _ a hget (congrArg Prod.fst hstanding) (congrArg Prod.snd hstanding)

end ShelfWise.Accounts
