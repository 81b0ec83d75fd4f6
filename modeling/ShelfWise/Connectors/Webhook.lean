import Mathlib.Data.Finset.Erase
import Mathlib.Data.Finset.Insert
import ShelfWise.Py.Digest
import ShelfWise.Sys.Program
import ShelfWise.Sys.Run

/-!
# Webhook deliveries

`connectors/webhook.py`: a receiver that checks the signature of a delivery, claims its event id in the
dedup store, builds its records and gives the id back when that fails. A provider sends a delivery again
until one is acknowledged, and the copies can run at once.

`webhook_kept` says that no event id is built twice, whatever the schedule, and that no acknowledged
delivery is lost in a run where none is answered as a duplicate of a delivery whose build fails.
-/

namespace ShelfWise.Connectors

open Py Sys

/-! ## Signatures -/

/-- `MAX_WEBHOOK_BYTES`. -/
def maxWebhookBytes : ℕ := 1 * 1024 * 1024

/-- `_clean_signature`. -/
def cleanSignature (signature : String) : String :=
  let value := strip signature
  if "sha256=".toList <+: (lower value).toList then
    strip (String.ofList ((value.toList.dropWhile (· ≠ '=')).drop 1))
  else value

/-- `verify_signature`; a text with other than ASCII characters cannot be compared. -/
def verifySignature (secret : String) (body : List ℕ) (signature : String) : Except Exc Bool :=
  if secret = "" ∨ signature = "" then .ok false
  else
    let expected := hmacSha256 (utf8 secret) body
    let supplied := cleanSignature signature
    if supplied.toList.all fun c => c.toNat < 128 then
      .ok (decide (hexText expected = supplied) || decide (base64Text expected = supplied))
    else .error (.typeError "comparing strings with non-ASCII characters is not supported")

/-! ## The receiver -/

/-- The dedup store, and the event ids that have been built, in order. -/
structure ReceiverState where
  seen : Finset String
  built : List String

/-- The steps of a delivery. -/
inductive ReceiveOp where
  | markIfNew
  | build
  | unmark
deriving DecidableEq

/-- A delivery, with what its call of `build` comes to. -/
structure WebhookDelivery (ρ : Type) where
  signature : String
  body : List ℕ
  eventId : String
  outcome : Except Exc ρ

/-- What a delivery returns: the records, or nothing for a duplicate. -/
abbrev Received (ρ : Type) := Except Exc (Option ρ)

/-- A computation of the receiver. -/
abbrev ReceiverProgram (α : Type) := Program ReceiveOp ReceiverState α

section

variable {ρ : Type}

/-- `mark_if_new`. -/
def markIfNew (eventId : String) (s : ReceiverState) : ReceiverState × Bool :=
  if eventId ∈ s.seen then (s, false) else ({ s with seen := insert eventId s.seen }, true)

/-- `build`. -/
def buildInbound (d : WebhookDelivery ρ) (s : ReceiverState) : ReceiverState × Except Exc ρ :=
  match d.outcome with
  | .ok records => ({ s with built := s.built ++ [d.eventId] }, .ok records)
  | .error e => (s, .error e)

/-- `unmark`. -/
def unmark (eventId : String) (s : ReceiverState) : ReceiverState × Unit :=
  ({ s with seen := s.seen.erase eventId }, ())

/-- Give the id back and raise. -/
def release (eventId : String) (e : Exc) : ReceiverProgram (Received ρ) :=
  Program.call .unmark (unmark eventId) >>= fun _ => .ret (.error e)

/-- The answer to what the build came to. -/
def builtOr (eventId : String) : Except Exc ρ → ReceiverProgram (Received ρ)
  | .ok records => .ret (.ok (some records))
  | .error e => release eventId e

/-- Build, and give the id back on a failure. -/
def buildOrRelease (d : WebhookDelivery ρ) : ReceiverProgram (Received ρ) :=
  Program.call .build (buildInbound d) >>= builtOr d.eventId

/-- A new id is built, a known one is a duplicate. -/
def buildIfNew (d : WebhookDelivery ρ) : Bool → ReceiverProgram (Received ρ)
  | true => buildOrRelease d
  | false => .ret (.ok none)

/-- `receive`. -/
def receive (secret : String) (d : WebhookDelivery ρ) : ReceiverProgram (Received ρ) :=
  if maxWebhookBytes < d.body.length then .ret (.error (.valueError "webhook body exceeds size cap"))
  else match verifySignature secret d.body d.signature with
    | .error e => .ret (.error e)
    | .ok false => .ret (.error (.raised "PermissionError" "invalid webhook signature"))
    | .ok true => Program.call .markIfNew (markIfNew d.eventId) >>= buildIfNew d

/-- The deliveries at once, with what is left of each. -/
abbrev ReceiverPool (ι ρ : Type) := Program.Pool ι ReceiveOp ReceiverState (Received ρ)

/-- The deliveries before any of them has taken a step. -/
def startReceiver {ι : Type} (secret : String) (deliveries : ι → WebhookDelivery ρ) :
    ReceiverPool ι ρ :=
  ⟨⟨∅, []⟩, fun i => receive secret (deliveries i)⟩

/-- A program that has claimed its event id and neither kept it nor given it back. -/
def HoldsId (p : ReceiverProgram (Received ρ)) : Prop :=
  p.nextLabel = some .build ∨ p.nextLabel = some .unmark

/-- A delivery that holds its event id. -/
def Holds {ι : Type} (w : ReceiverPool ι ρ) (i : ι) : Prop := HoldsId (w.program i)

/-- No event id is built twice, and once all calls have finished, what was acknowledged is built. -/
structure NeverLost {ι : Type} (deliveries : ι → WebhookDelivery ρ) (w : ReceiverPool ι ρ) : Prop where
  once : w.store.built.Nodup
  kept : w.Finished → ∀ i r, w.program i = .ret (.ok r) → (deliveries i).eventId ∈ w.store.built

/-- A delivery that asks for its event id does not find it with another whose build fails. -/
def NoFailingHolder {ι : Type} (deliveries : ι → WebhookDelivery ρ)
    (step : Step (ReceiverPool ι ρ) ι Unit) : Prop :=
  (step.before.program step.input).nextLabel = some .markIfNew →
    ∀ i, Holds step.before i → (deliveries i).eventId = (deliveries step.input).eventId →
      (deliveries i).outcome.isOk = true

/-! ## The steps of a delivery -/

/-- Where a delivery stands. -/
inductive ReceiveStage (d : WebhookDelivery ρ) : ReceiverProgram (Received ρ) → Prop
  | start : ReceiveStage d (Program.call .markIfNew (markIfNew d.eventId) >>= buildIfNew d)
  | build : ReceiveStage d (buildOrRelease d)
  | release {e : Exc} (h : d.outcome = .error e) : ReceiveStage d (release d.eventId e)
  | returned (r : Received ρ) : ReceiveStage d (.ret r)

/-- What the next step of a delivery can come to: the label, and the state and program it leaves. -/
inductive ReceiveMove (d : WebhookDelivery ρ) (s : ReceiverState) :
    ReceiverProgram (Received ρ) → ReceiverState → ReceiverProgram (Received ρ) → Prop
  | claimed (hnew : d.eventId ∉ s.seen) :
      ReceiveMove d s (Program.call .markIfNew (markIfNew d.eventId) >>= buildIfNew d)
        { s with seen := insert d.eventId s.seen } (buildOrRelease d)
  | duplicate (hseen : d.eventId ∈ s.seen) :
      ReceiveMove d s (Program.call .markIfNew (markIfNew d.eventId) >>= buildIfNew d) s
        (.ret (.ok none))
  | built {records : ρ} (h : d.outcome = .ok records) :
      ReceiveMove d s (buildOrRelease d) { s with built := s.built ++ [d.eventId] }
        (.ret (.ok (some records)))
  | failed {e : Exc} (h : d.outcome = .error e) :
      ReceiveMove d s (buildOrRelease d) s (release d.eventId e)
  | released {e : Exc} (h : d.outcome = .error e) :
      ReceiveMove d s (release d.eventId e) { s with seen := s.seen.erase d.eventId }
        (.ret (.error e))
  | idle (r : Received ρ) : ReceiveMove d s (.ret r) s (.ret r)

theorem receive_stage (secret : String) (d : WebhookDelivery ρ) : ReceiveStage d (receive secret d) := by
  unfold receive
  split
  · exact .returned _
  · split
    · exact .returned _
    · exact .returned _
    · exact .start

variable {ι : Type} [DecidableEq ι]

/-- The next step of a delivery is one of the moves. -/
theorem receive_move {d : WebhookDelivery ρ} {w : ReceiverPool ι ρ} {i : ι}
    (h : ReceiveStage d (w.program i)) :
    ∃ s p, ReceiveMove d w.store (w.program i) s p ∧
      w.tick i = ⟨s, Function.update w.program i p⟩ := by
  generalize hp : w.program i = p at h
  cases h with
  | start =>
    rw [Program.Pool.tick_step (hp.trans (Program.call_bind _ _ _))]
    unfold markIfNew
    by_cases hseen : d.eventId ∈ w.store.seen
    · simp only [if_pos hseen]
      exact ⟨_, _, .duplicate hseen, rfl⟩
    · simp only [if_neg hseen]
      exact ⟨_, _, .claimed hseen, rfl⟩
  | build =>
    rw [Program.Pool.tick_step (hp.trans (Program.call_bind _ _ _))]
    unfold buildInbound
    cases houtcome : d.outcome with
    | ok records => exact ⟨_, _, .built houtcome, rfl⟩
    | error e => exact ⟨_, _, .failed houtcome, rfl⟩
  | release houtcome =>
    rw [Program.Pool.tick_step (hp.trans (Program.call_bind _ _ _))]
    exact ⟨_, _, .released houtcome, rfl⟩
  | returned r =>
    rw [Program.Pool.tick_ret hp]
    refine ⟨_, _, .idle r, ?_⟩
    rw [← hp, Function.update_eq_self]

/-! ## Claims -/

/-- An event id is claimed when it is built, or while one delivery holds it. -/
structure Claims (eventId : ι → String) (holds : ι → Prop) (s : ReceiverState) : Prop where
  held : ∀ i, holds i → eventId i ∈ s.seen ∧ eventId i ∉ s.built
  one : ∀ i j, holds i → holds j → eventId i = eventId j → i = j
  claimed : ∀ id ∈ s.seen, id ∈ s.built ∨ ∃ i, holds i ∧ eventId i = id
  built_seen : ∀ id ∈ s.built, id ∈ s.seen
  once : s.built.Nodup

namespace Claims

variable {eventId : ι → String} {holds holds' : ι → Prop} {s : ReceiverState} {i : ι}

omit [DecidableEq ι] in
theorem congr (h : Claims eventId holds s) (hholds : ∀ j, holds' j ↔ holds j) :
    Claims eventId holds' s := by
  have heq : holds' = holds := funext fun j => propext (hholds j)
  rw [heq]
  exact h

omit [DecidableEq ι] in
/-- A new id gets a holder. -/
theorem claim (h : Claims eventId holds s) (hnew : eventId i ∉ s.seen)
    (hholds : ∀ j, holds' j ↔ j = i ∨ holds j) :
    Claims eventId holds' { s with seen := insert (eventId i) s.seen } := by
  have hother : ∀ j, holds j → eventId j ≠ eventId i := fun j hj heq =>
    hnew (heq ▸ (h.held j hj).1)
  constructor
  · intro j hj
    rcases (hholds j).mp hj with rfl | hj
    · exact ⟨Finset.mem_insert_self _ _, fun hbuilt => hnew (h.built_seen _ hbuilt)⟩
    · exact ⟨Finset.mem_insert_of_mem (h.held j hj).1, (h.held j hj).2⟩
  · intro j k hj hk heq
    rcases (hholds j).mp hj with rfl | hj
    · rcases (hholds k).mp hk with rfl | hk
      · rfl
      · exact absurd heq.symm (hother k hk)
    · rcases (hholds k).mp hk with rfl | hk
      · exact absurd heq (hother j hj)
      · exact h.one j k hj hk heq
  · intro id hid
    rcases Finset.mem_insert.mp hid with rfl | hid
    · exact .inr ⟨i, (hholds i).mpr (.inl rfl), rfl⟩
    · rcases h.claimed id hid with hbuilt | ⟨j, hj, hjid⟩
      · exact .inl hbuilt
      · exact .inr ⟨j, (hholds j).mpr (.inr hj), hjid⟩
  · exact fun id hid => Finset.mem_insert_of_mem (h.built_seen id hid)
  · exact h.once

/-- The holder has built its id. -/
theorem build (h : Claims eventId holds s) (hi : holds i)
    (hholds : ∀ j, holds' j ↔ j ≠ i ∧ holds j) :
    Claims eventId holds' { s with built := s.built ++ [eventId i] } := by
  constructor
  · intro j hj
    obtain ⟨hne, hj⟩ := (hholds j).mp hj
    refine ⟨(h.held j hj).1, fun hbuilt => ?_⟩
    rcases List.mem_append.mp hbuilt with hbuilt | hbuilt
    · exact (h.held j hj).2 hbuilt
    · exact hne (h.one j i hj hi (List.mem_singleton.mp hbuilt))
  · exact fun j k hj hk => h.one j k ((hholds j).mp hj).2 ((hholds k).mp hk).2
  · intro id hid
    rcases h.claimed id hid with hbuilt | ⟨j, hj, hjid⟩
    · exact .inl (List.mem_append_left _ hbuilt)
    · by_cases hij : j = i
      · subst hij
        exact .inl (List.mem_append_right _ (List.mem_singleton.mpr hjid.symm))
      · exact .inr ⟨j, (hholds j).mpr ⟨hij, hj⟩, hjid⟩
  · intro id hid
    rcases List.mem_append.mp hid with hid | hid
    · exact h.built_seen id hid
    · rw [List.mem_singleton.mp hid]
      exact (h.held i hi).1
  · refine List.Nodup.append h.once (List.nodup_singleton _) fun id hid hid' => ?_
    rw [List.mem_singleton.mp hid'] at hid
    exact (h.held i hi).2 hid

omit [DecidableEq ι] in
/-- The holder gives its id back. -/
theorem unmark (h : Claims eventId holds s) (hi : holds i)
    (hholds : ∀ j, holds' j ↔ j ≠ i ∧ holds j) :
    Claims eventId holds' { s with seen := s.seen.erase (eventId i) } := by
  constructor
  · intro j hj
    obtain ⟨hne, hj⟩ := (hholds j).mp hj
    exact ⟨Finset.mem_erase.mpr ⟨fun heq => hne (h.one j i hj hi heq), (h.held j hj).1⟩,
      (h.held j hj).2⟩
  · exact fun j k hj hk => h.one j k ((hholds j).mp hj).2 ((hholds k).mp hk).2
  · intro id hid
    obtain ⟨hne, hid⟩ := Finset.mem_erase.mp hid
    rcases h.claimed id hid with hbuilt | ⟨j, hj, hjid⟩
    · exact .inl hbuilt
    · refine .inr ⟨j, (hholds j).mpr ⟨fun hij => hne ?_, hj⟩, hjid⟩
      rw [← hjid, hij]
  · intro id hid
    refine Finset.mem_erase.mpr ⟨fun heq => ?_, h.built_seen id hid⟩
    rw [heq] at hid
    exact (h.held i hi).2 hid
  · exact h.once

end Claims

/-! ## What every schedule keeps -/

/-- What holds at every point of every schedule. -/
structure ReceiverKept (deliveries : ι → WebhookDelivery ρ) (w : ReceiverPool ι ρ) : Prop where
  stage : ∀ i, ReceiveStage (deliveries i) (w.program i)
  claims : Claims (fun i => (deliveries i).eventId) (Holds w) w.store
  returned : ∀ i records, w.program i = .ret (.ok (some records)) →
    (deliveries i).eventId ∈ w.store.built

/-- A duplicate has been built, or is held by a delivery whose build succeeds. -/
def DuplicatesKept (deliveries : ι → WebhookDelivery ρ) (w : ReceiverPool ι ρ) : Prop :=
  ∀ i, w.program i = .ret (.ok none) → (deliveries i).eventId ∈ w.store.built ∨
    ∃ j, Holds w j ∧ (deliveries j).eventId = (deliveries i).eventId ∧
      (deliveries j).outcome.isOk = true

section

variable {deliveries : ι → WebhookDelivery ρ} {w : ReceiverPool ι ρ} {i : ι} {s : ReceiverState}
  {p : ReceiverProgram (Received ρ)}

theorem holdsId_build (d : WebhookDelivery ρ) : HoldsId (buildOrRelease d) := .inl rfl

theorem holdsId_release (eventId : String) (e : Exc) :
    HoldsId (release eventId e : ReceiverProgram (Received ρ)) := .inr rfl

theorem not_holdsId_ret (r : Received ρ) : ¬ HoldsId (.ret r : ReceiverProgram (Received ρ)) := by
  rintro (h | h) <;> cases h

theorem not_holdsId_start (d : WebhookDelivery ρ) :
    ¬ HoldsId (Program.call .markIfNew (markIfNew d.eventId) >>= buildIfNew d) := by
  rintro (h | h) <;> cases h

theorem holds_of_holdsId (h : HoldsId p) (j : ι) :
    Holds ⟨s, Function.update w.program i p⟩ j ↔ j = i ∨ Holds w j := by
  by_cases hij : j = i
  · subst hij
    refine iff_of_true ?_ (.inl rfl)
    show HoldsId (Function.update w.program j p j)
    rw [Function.update_self]
    exact h
  · show HoldsId (Function.update w.program i p j) ↔ _
    rw [Function.update_of_ne hij]
    exact ⟨.inr, fun hor => hor.resolve_left hij⟩

theorem holds_of_not_holdsId (h : ¬ HoldsId p) (j : ι) :
    Holds ⟨s, Function.update w.program i p⟩ j ↔ j ≠ i ∧ Holds w j := by
  by_cases hij : j = i
  · subst hij
    refine iff_of_false ?_ fun hne => hne.1 rfl
    show ¬ HoldsId (Function.update w.program j p j)
    rw [Function.update_self]
    exact h
  · show HoldsId (Function.update w.program i p j) ↔ _
    rw [Function.update_of_ne hij]
    exact ⟨fun hj => ⟨hij, hj⟩, And.right⟩

/-- The stage of the delivery that moves. -/
theorem stage_update (h : ∀ j, ReceiveStage (deliveries j) (w.program j))
    (hp : ReceiveStage (deliveries i) p) (j : ι) :
    ReceiveStage (deliveries j) (Function.update w.program i p j) := by
  by_cases hij : j = i
  · subst hij
    rw [Function.update_self]
    exact hp
  · rw [Function.update_of_ne hij]
    exact h j

/-- What the deliveries have returned. -/
theorem update_eq_ret {j : ι} {r : Received ρ} (h : Function.update w.program i p j = .ret r) :
    (j = i ∧ p = .ret r) ∨ w.program j = .ret r := by
  by_cases hij : j = i
  · subst hij
    rw [Function.update_self] at h
    exact .inl ⟨rfl, h⟩
  · rw [Function.update_of_ne hij] at h
    exact .inr h

/-- Every step keeps it. -/
theorem ReceiverKept.step (h : ReceiverKept deliveries w) (i : ι) :
    ReceiverKept deliveries (w.tick i) := by
  obtain ⟨s, p, hmove, htick⟩ := receive_move (h.stage i)
  rw [htick]
  generalize hp : w.program i = q at hmove
  have hself : Holds w i ↔ HoldsId q := by
    unfold Holds
    rw [hp]
  cases hmove with
  | claimed hnew =>
    refine ⟨stage_update h.stage .build,
      h.claims.claim hnew (holds_of_holdsId (holdsId_build _)), fun j records hret => ?_⟩
    rcases update_eq_ret hret with ⟨-, hret⟩ | hret
    · cases hret
    · exact h.returned j records hret
  | duplicate hseen =>
    have hfree := mt hself.mp (not_holdsId_start _)
    refine ⟨stage_update h.stage (.returned _), h.claims.congr fun j => ?_,
      fun j records hret => ?_⟩
    · rw [holds_of_not_holdsId (not_holdsId_ret _)]
      exact ⟨And.right, fun hj => ⟨fun hij => hfree (hij ▸ hj), hj⟩⟩
    · rcases update_eq_ret hret with ⟨-, hret⟩ | hret
      · cases hret
      · exact h.returned j records hret
  | built houtcome =>
    have hi := hself.mpr (holdsId_build _)
    refine ⟨stage_update h.stage (.returned _),
      h.claims.build hi (holds_of_not_holdsId (not_holdsId_ret _)), fun j records hret => ?_⟩
    rcases update_eq_ret hret with ⟨rfl, -⟩ | hret
    · exact List.mem_append_right _ (List.mem_singleton_self _)
    · exact List.mem_append_left _ (h.returned j records hret)
  | failed houtcome =>
    have hi := hself.mpr (holdsId_build _)
    refine ⟨stage_update h.stage (.release houtcome), h.claims.congr fun j => ?_,
      fun j records hret => ?_⟩
    · rw [holds_of_holdsId (holdsId_release _ _)]
      exact ⟨fun hor => hor.elim (fun hij => hij ▸ hi) id, .inr⟩
    · rcases update_eq_ret hret with ⟨-, hret⟩ | hret
      · cases hret
      · exact h.returned j records hret
  | released houtcome =>
    have hi := hself.mpr (holdsId_release _ _)
    refine ⟨stage_update h.stage (.returned _),
      h.claims.unmark hi (holds_of_not_holdsId (not_holdsId_ret _)), fun j records hret => ?_⟩
    rcases update_eq_ret hret with ⟨-, hret⟩ | hret
    · cases hret
    · exact h.returned j records hret
  | idle r =>
    rw [← hp, Function.update_eq_self]
    exact h

/-- A step keeps the duplicates, when none is answered for a delivery whose build fails. -/
theorem DuplicatesKept.step (hkept : ReceiverKept deliveries w) (h : DuplicatesKept deliveries w)
    (hstep : NoFailingHolder deliveries (stepOf Program.Pool.step w i)) :
    DuplicatesKept deliveries (w.tick i) := by
  obtain ⟨s, p, hmove, htick⟩ := receive_move (hkept.stage i)
  rw [htick]
  generalize hp : w.program i = q at hmove
  have hasks : q.nextLabel = some .markIfNew → ∀ j, Holds w j →
      (deliveries j).eventId = (deliveries i).eventId → (deliveries j).outcome.isOk = true := by
    rw [← hp]
    exact hstep
  cases hmove with
  | claimed hnew =>
    intro j hret
    rcases update_eq_ret hret with ⟨-, hret⟩ | hret
    · cases hret
    · rcases h j hret with hbuilt | ⟨k, hk, hid, hok⟩
      · exact .inl hbuilt
      · exact .inr ⟨k, (holds_of_holdsId (holdsId_build _) k).mpr (.inr hk), hid, hok⟩
  | duplicate hseen =>
    have hfree : ¬ Holds w i := by
      unfold Holds
      rw [hp]
      exact not_holdsId_start _
    have hstays : ∀ k, Holds w k → Holds ⟨w.store, Function.update w.program i (.ret (.ok none))⟩ k :=
      fun k hk => (holds_of_not_holdsId (not_holdsId_ret _) k).mpr ⟨fun hki => hfree (hki ▸ hk), hk⟩
    intro j hret
    rcases update_eq_ret hret with ⟨rfl, -⟩ | hret
    · -- the holder of a duplicate's id has a build that succeeds
      rcases hkept.claims.claimed _ hseen with hbuilt | ⟨k, hk, hid⟩
      · exact .inl hbuilt
      · exact .inr ⟨k, hstays k hk, hid, hasks rfl k hk hid⟩
    · rcases h j hret with hbuilt | ⟨k, hk, hid, hok⟩
      · exact .inl hbuilt
      · exact .inr ⟨k, hstays k hk, hid, hok⟩
  | built houtcome =>
    intro j hret
    rcases update_eq_ret hret with ⟨-, hret⟩ | hret
    · cases hret
    · rcases h j hret with hbuilt | ⟨k, hk, hid, hok⟩
      · exact .inl (List.mem_append_left _ hbuilt)
      · by_cases hki : k = i
        · subst hki
          exact .inl (List.mem_append_right _ (List.mem_singleton.mpr hid.symm))
        · exact .inr ⟨k, (holds_of_not_holdsId (not_holdsId_ret _) k).mpr ⟨hki, hk⟩, hid, hok⟩
  | failed houtcome =>
    intro j hret
    rcases update_eq_ret hret with ⟨-, hret⟩ | hret
    · cases hret
    · rcases h j hret with hbuilt | ⟨k, hk, hid, hok⟩
      · exact .inl hbuilt
      · exact .inr ⟨k, (holds_of_holdsId (holdsId_release _ _) k).mpr (.inr hk), hid, hok⟩
  | released houtcome =>
    intro j hret
    rcases update_eq_ret hret with ⟨-, hret⟩ | hret
    · cases hret
    · rcases h j hret with hbuilt | ⟨k, hk, hid, hok⟩
      · exact .inl hbuilt
      · -- the delivery that gives its id back has failed
        have hki : k ≠ i := by
          rintro rfl
          rw [houtcome] at hok
          cases hok
        exact .inr ⟨k, (holds_of_not_holdsId (not_holdsId_ret _) k).mpr ⟨hki, hk⟩, hid, hok⟩
  | idle r =>
    rw [← hp, Function.update_eq_self]
    exact h

end

/-! ## No acknowledged delivery is lost -/

section

variable (secret : String) (deliveries : ι → WebhookDelivery ρ)

omit [DecidableEq ι] in
theorem not_holds_start (i : ι) : ¬ Holds (startReceiver secret deliveries) i := by
  show ¬ HoldsId (receive secret (deliveries i))
  unfold receive
  split
  · exact not_holdsId_ret _
  · split
    · exact not_holdsId_ret _
    · exact not_holdsId_ret _
    · exact not_holdsId_start _

omit [DecidableEq ι] in
theorem receive_ne_ok (d : WebhookDelivery ρ) (r : Option ρ) : receive secret d ≠ .ret (.ok r) := by
  intro h
  unfold receive at h
  split at h
  · cases h
  · split at h <;> cases h

omit [DecidableEq ι] in
theorem receiverKept_start : ReceiverKept deliveries (startReceiver secret deliveries) where
  stage := fun i => receive_stage secret (deliveries i)
  claims :=
    { held := fun i hi => absurd hi (not_holds_start secret deliveries i)
      one := fun i _ hi => absurd hi (not_holds_start secret deliveries i)
      claimed := fun id hid => absurd hid (Finset.notMem_empty id)
      built_seen := fun _ hid => absurd hid List.not_mem_nil
      once := List.nodup_nil }
  returned := fun i _ hret => absurd hret (receive_ne_ok secret (deliveries i) _)

/-- **No acknowledged delivery is lost.** For any deliveries and any choice of the builds that fail: no
event id is built twice in any schedule. And in a schedule where no delivery asks for its event id
while another whose build fails holds it, a delivery that returned without raising has been built when
all calls have finished. -/
theorem webhook_kept (schedule : List ι) :
    (final Program.Pool.step (startReceiver secret deliveries) schedule).store.built.Nodup ∧
      ((∀ step ∈ trace Program.Pool.step (startReceiver secret deliveries) schedule,
          NoFailingHolder deliveries step) →
        NeverLost deliveries (final Program.Pool.step (startReceiver secret deliveries) schedule)) := by
  have hkept : ReceiverKept deliveries
      (final Program.Pool.step (startReceiver secret deliveries) schedule) :=
    invariant_final (fun w i hw => hw.step i) (receiverKept_start secret deliveries) schedule
  refine ⟨hkept.claims.once, fun hsteps => ⟨hkept.claims.once, fun hfinished i r hret => ?_⟩⟩
  obtain ⟨-, hduplicates⟩ := invariant_of_guarded (I := fun w : ReceiverPool ι ρ =>
      ReceiverKept deliveries w ∧ DuplicatesKept deliveries w) (C := NoFailingHolder deliveries)
    (fun w i hw hc => ⟨hw.1.step i, hw.2.step hw.1 hc⟩)
    ⟨receiverKept_start secret deliveries, fun i hret =>
      absurd hret (receive_ne_ok secret (deliveries i) _)⟩ schedule hsteps
  cases r with
  | some records => exact hkept.returned i records hret
  | none =>
    rcases hduplicates i hret with hbuilt | ⟨j, hj, -, -⟩
    · exact hbuilt
    · -- nobody holds an id when all have returned
      unfold Holds HoldsId at hj
      rw [hfinished j] at hj
      rcases hj with hj | hj <;> cases hj

end

end

/-- A delivery whose signature is that of its body. -/
def CorrectlySigned {ρ : Type} (secret : String) (d : WebhookDelivery ρ) : Prop :=
  d.body.length ≤ maxWebhookBytes ∧ verifySignature secret d.body d.signature = .ok true

theorem receive_of_signed {ρ : Type} {secret : String} {d : WebhookDelivery ρ}
    (h : CorrectlySigned secret d) :
    receive secret d = Program.call .markIfNew (markIfNew d.eventId) >>= buildIfNew d := by
  unfold receive
  rw [if_neg (not_lt.mpr h.1), h.2]

/-- Two deliveries of one event: the build of the first comes to an outcome, that of the second
succeeds. -/
def twoDeliveries (first : Except Exc Unit) (second : Bool) : WebhookDelivery Unit where
  signature := "3c093fbf73d81de11a9162aa133b70d15ba87660ba3b57aac1166d8e510117d3"
  body := utf8 "evt_1"
  eventId := "evt_1"
  outcome := if second then .ok () else first

theorem correctlySigned_twoDeliveries (first : Except Exc Unit) (second : Bool) :
    CorrectlySigned "key" (twoDeliveries first second) := by
  have hsigned : CorrectlySigned "key" (twoDeliveries (.ok ()) true) :=
    ⟨by decide +kernel, ok_of_toOption (by decide +kernel)⟩
  exact hsigned

theorem startReceiver_twoDeliveries (first : Except Exc Unit) :
    startReceiver "key" (twoDeliveries first) = ⟨⟨∅, []⟩, fun second =>
      Program.call .markIfNew (markIfNew "evt_1") >>= buildIfNew (twoDeliveries first second)⟩ := by
  unfold startReceiver
  congr 1
  funext second
  exact receive_of_signed (correctlySigned_twoDeliveries first second)

/-- Two builds that succeed, the second delivery a duplicate of the first. -/
theorem webhook_kept_two :
    NeverLost (twoDeliveries (.ok ()))
      (final Program.Pool.step (startReceiver "key" (twoDeliveries (.ok ())))
        [false, true, false]) := by
  refine (webhook_kept "key" (twoDeliveries (.ok ())) [false, true, false]).2 ?_
  intro step _ _ i _ _
  cases i <;> rfl

/-- The second delivery is answered as a duplicate of the first, whose build fails. -/
theorem webhook_lost :
    ¬ ∀ (secret : String) (deliveries : Bool → WebhookDelivery Unit),
      (∀ i, CorrectlySigned secret (deliveries i)) → ∀ schedule : List Bool, NeverLost deliveries
        (final Program.Pool.step (startReceiver secret deliveries) schedule) := by
  intro h
  have hlost := h "key" (twoDeliveries (.error (.raised "OperationalError" "connection refused")))
    (correctlySigned_twoDeliveries _) [false, true, false, false]
  rw [startReceiver_twoDeliveries] at hlost
  have hbuilt := hlost.kept (fun i => by cases i <;> rfl) true none rfl
  exact absurd hbuilt List.not_mem_nil

end ShelfWise.Connectors
