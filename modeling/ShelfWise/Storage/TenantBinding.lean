import ShelfWise.Py.Value
import ShelfWise.Sys.Run

/-!
# Which tenant a connection is bound to

`connect` of `shelfwise_storage/postgres.py` binds the tenant of a call to its connection, as the setting
`app.tenant_id` that the row policies of `rls.py` read: for the session on a pooled connection, for the
transaction on an unpooled one. The statement that binds it is part of the first transaction of the call.
-/

namespace ShelfWise.Storage

open Py Sys

/-! ## Settings of a session -/

/-- A setting of a session: what the last transaction left behind, and what the open one has set, for the
session and for itself. -/
structure Setting where
  session : String
  pending : Option String
  transient : Option String

namespace Setting

variable (setting : Setting)

/-- `current_setting(name, true)`. -/
def current : String := setting.transient.getD (setting.pending.getD setting.session)

/-- `set_config(name, value, is_local)`. -/
def setConfig (value : String) (isLocal : Bool) : Setting :=
  if isLocal then { setting with transient := some value }
  else { setting with pending := some value, transient := none }

/-- The end of a committed transaction. -/
def commit : Setting := ⟨setting.pending.getD setting.session, none, none⟩

/-- The end of a rolled back transaction. -/
def rollback : Setting := ⟨setting.session, none, none⟩

end Setting

/-! ## Connections -/

/-- `_clean_tenant_id`. -/
def cleanTenantId (value : String) : Except Exc String :=
  if strip value = "" then .error (.valueError "tenant_id is required") else .ok (strip value)

/-- The tenant that `connect` binds: the one of the call, or else that of the context or the process. -/
def resolvedTenant (current : String) (tenantId : Option String) : Except Exc String :=
  if tenantId.getD "" = "" then cleanTenantId current else cleanTenantId (tenantId.getD "")

/-- `_pooling_enabled()`. -/
inductive Mode where
  | pooled
  | unpooled
deriving DecidableEq

/-- What happens to a connection; a check-in is `clean` when no exception left the block. -/
inductive ConnectionEvent where
  | connect (current : String) (tenantId : Option String)
  | execute
  | commit
  | rollback
  | checkin (clean : Bool)

/-- `app.tenant_id` on a connection, and the tenant of the call that has it; an absent setting is the
empty text. -/
structure Connection where
  setting : Setting
  holder : Option String

/-- A connection that no call has. -/
def Connection.idle : Connection := ⟨⟨"", none, none⟩, none⟩

/-- The end of a block: the transaction ends, and the connection is closed, or cleared by
`_reset_pooled_connection`. -/
def Connection.close (mode : Mode) (setting : Setting) (clean : Bool) : Connection :=
  match mode with
  | .unpooled => .idle
  | .pooled => ⟨((if clean then setting.commit else setting.rollback).setConfig "" false).commit, none⟩

/-- One event; the answer of a statement is the tenant whose rows the policies let it see. -/
def Connection.step (mode : Mode) (connection : Connection) (event : ConnectionEvent) :
    Connection × Option String :=
  match connection.holder, event with
  | none, .connect current tenantId =>
    match resolvedTenant current tenantId with
    | .error _ => (connection, none)
    | .ok tenant =>
      (⟨connection.setting.setConfig tenant (decide (mode = .unpooled)), some tenant⟩, none)
  | some _, .execute => (connection, some connection.setting.current)
  | some _, .commit => ({ connection with setting := connection.setting.commit }, none)
  | some _, .rollback => ({ connection with setting := connection.setting.rollback }, none)
  | some _, .checkin clean => (.close mode connection.setting clean, none)
  | _, _ => (connection, none)

/-! ## What a call sees -/

abbrev ConnectionStep := Step Connection ConnectionEvent (Option String)

/-- Whether the first transaction of a call was committed, if it has ended, after a step. -/
def endAfter (ended : Option Bool) (step : ConnectionStep) : Option Bool :=
  match step.input with
  | .connect _ _ => if step.before.holder.isNone then none else ended
  | .commit => ended.or (some true)
  | .rollback => ended.or (some false)
  | _ => ended

/-- Whether the first transaction of the call that has the connection was committed, if it has ended. -/
def firstEnd (past : List ConnectionStep) : Option Bool := past.foldl endAfter none

/-- The binding outlasts the first transaction. -/
def Outlasts (mode : Mode) (ended : Option Bool) : Prop :=
  match mode with
  | .pooled => ended ≠ some false
  | .unpooled => ended = none

/-- The setting of a connection that a call has. -/
def heldSetting (mode : Mode) (tenant : String) (ended : Option Bool) : Setting :=
  match mode, ended with
  | .pooled, none => ⟨"", some tenant, none⟩
  | .pooled, some true => ⟨tenant, none, none⟩
  | .unpooled, none => ⟨"", none, some tenant⟩
  | _, _ => ⟨"", none, none⟩

/-- The connection is idle, or has the setting that its call has come to. -/
def InOrder (mode : Mode) (ended : Option Bool) (connection : Connection) : Prop :=
  connection = .idle ∨
    ∃ tenant, tenant ≠ "" ∧ connection = ⟨heldSetting mode tenant ended, some tenant⟩

theorem ne_empty_of_resolvedTenant {current tenant : String} {tenantId : Option String}
    (h : resolvedTenant current tenantId = .ok tenant) : tenant ≠ "" := by
  have hclean : ∀ {value}, cleanTenantId value = .ok tenant → tenant ≠ "" := by
    intro value hvalue
    unfold cleanTenantId at hvalue
    split_ifs at hvalue with hblank
    exact Except.ok.inj hvalue ▸ hblank
  unfold resolvedTenant at h
  split_ifs at h <;> exact hclean h

theorem close_eq_idle (mode : Mode) (setting : Setting) (clean : Bool) :
    Connection.close mode setting clean = .idle := by
  cases mode <;> cases clean <;> rfl

section

variable {mode : Mode} {ended : Option Bool} {connection : Connection}

theorem InOrder.step (h : InOrder mode ended connection) (event : ConnectionEvent) :
    InOrder mode (endAfter ended (stepOf (Connection.step mode) connection event))
      (connection.step mode event).1 := by
  rcases h with rfl | ⟨tenant, htenant, rfl⟩
  · cases event with
    | connect current tenantId =>
      cases hresolved : resolvedTenant current tenantId with
      | error e =>
        left
        simp only [Connection.step, Connection.idle, hresolved]
      | ok tenant =>
        -- the binding is part of the transaction that begins with it
        refine .inr ⟨tenant, ne_empty_of_resolvedTenant hresolved, ?_⟩
        simp only [Connection.step, Connection.idle, hresolved]
        cases mode <;> rfl
    | execute => exact .inl rfl
    | commit => exact .inl rfl
    | rollback => exact .inl rfl
    | checkin clean => exact .inl rfl
  · cases event with
    | connect current tenantId => exact .inr ⟨tenant, htenant, rfl⟩
    | execute => exact .inr ⟨tenant, htenant, rfl⟩
    | commit =>
      refine .inr ⟨tenant, htenant, ?_⟩
      rcases ended with _ | _ | _ <;> cases mode <;> rfl
    | rollback =>
      refine .inr ⟨tenant, htenant, ?_⟩
      rcases ended with _ | _ | _ <;> cases mode <;> rfl
    | checkin clean => exact .inl (close_eq_idle mode _ clean)

/-- What a statement sees: the rows of its tenant as long as the binding is there, and none without it. -/
theorem InOrder.current_iff (h : InOrder mode ended connection) {tenant : String}
    (hholder : connection.holder = some tenant) :
    (connection.setting.current = tenant ∨ connection.setting.current = "") ∧
      (connection.setting.current = tenant ↔ Outlasts mode ended) := by
  rcases h with rfl | ⟨held, hheld, rfl⟩
  · cases hholder
  · obtain rfl := Option.some.inj hholder
    rcases ended with _ | _ | _ <;> cases mode <;>
      simp [heldSetting, Setting.current, Outlasts, Ne.symm hheld]

end

/-- A call that rolls back and goes on. -/
def rolledBack : List ConnectionEvent := [.connect "local" (some "tenant_a"), .rollback]

end ShelfWise.Storage
