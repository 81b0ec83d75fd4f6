import ShelfWise.Ingest.EventStore

/-!
# The in-memory event bus

`InMemoryEventBus` of `shelfwise_backend/event_bus.py`. `consume_one` takes a message off the queue and
counts the delivery; whoever took it has to `ack` or `nack` it, and a message that was delivered
`max_retries` times goes to the dead letters.

`places` counts where a message stands. Each operation has one lemma about it: `publish` adds a place
for the new message, `consume_one` takes one away from the message it hands out, and `ack` and `nack`
give one back.
-/

namespace ShelfWise.Worker

open Py Ingest

/-- `InMemoryEventBus`; `maxRetries` is `max(1, max_retries)`. -/
structure EventBus where
  maxRetries : ℕ
  messages : List BusMessage
  pending : List BusMessage
  acked : List String
  deadLetter : List BusMessage
  deliveryCounts : Dict String ℕ

namespace EventBus

/-- A bus without messages. -/
def init (maxRetries : ℤ) : EventBus := ⟨(max 1 maxRetries).toNat, [], [], [], [], .empty⟩

/-- `publish`. -/
def publish (event : Event) (bus : EventBus) : EventBus × String :=
  let message := busMessage event bus.messages.length
  ({ bus with
      messages := bus.messages ++ [message]
      pending := bus.pending ++ [message]
      deliveryCounts := bus.deliveryCounts.set message.messageId 0 }, message.messageId)

/-- Whether a message is one of the stream asked for; without a stream every message is. -/
def ofStream (stream : Option String) (message : BusMessage) : Bool :=
  stream.all fun s => message.stream = s

/-- `consume_one`: the first pending message of the stream. -/
def consumeOne (stream : Option String) (bus : EventBus) : EventBus × Option BusMessage :=
  match bus.pending.find? (ofStream stream) with
  | none => (bus, none)
  | some found =>
    ({ bus with
        pending := bus.pending.eraseP (ofStream stream)
        deliveryCounts := bus.deliveryCounts.set found.messageId
          ((bus.deliveryCounts.get? found.messageId).getD 0 + 1) }, some found)

/-- `ack`. -/
def ack (stream messageId : String) (bus : EventBus) : EventBus :=
  { bus with
    acked := bus.acked ++ [stream ++ ":" ++ messageId]
    deliveryCounts := bus.deliveryCounts.pop messageId }

/-- `nack`: whether the message went to the dead letters. -/
def nack (messageId : String) (bus : EventBus) : EventBus × Bool :=
  match bus.messages.find? fun item => item.messageId = messageId with
  | none => (bus, false)
  | some source =>
    if bus.maxRetries ≤ (bus.deliveryCounts.get? messageId).getD 1 then
      ({ bus with
          deadLetter := bus.deadLetter ++ [source]
          deliveryCounts := bus.deliveryCounts.pop messageId }, true)
    else ({ bus with pending := bus.pending ++ [source] }, false)

/-! ## Messages of a bus -/

/-- What `ack` notes of a message. -/
def ackName (m : BusMessage) : String := m.stream ++ ":" ++ m.messageId

/-- In how many places of the bus a message stands. -/
def places (bus : EventBus) (m : BusMessage) : ℕ :=
  bus.pending.count m + bus.acked.count (ackName m) + bus.deadLetter.count m

/-- A bus that only ever carried its own messages. -/
structure Carries (bus : EventBus) : Prop where
  positive : 0 < bus.maxRetries
  numbered : ∀ i m, bus.messages[i]? = some m → ∃ event, m = busMessage event i
  pending : ∀ m ∈ bus.pending, m ∈ bus.messages
  acked : ∀ name ∈ bus.acked, ∃ m ∈ bus.messages, name = ackName m
  deadLetter : ∀ m ∈ bus.deadLetter, m ∈ bus.messages

theorem carries_init (maxRetries : ℤ) : (init maxRetries).Carries where
  positive := by
    change 0 < (max 1 maxRetries).toNat
    omega
  numbered := nofun
  pending := nofun
  acked := nofun
  deadLetter := nofun

theorem toList_messageId (event : Event) (n : ℕ) :
    (busMessage event n).messageId.toList = "mem-".toList ++ Nat.toDigits 10 (n + 1) := by
  have htext : (busMessage event n).messageId = "mem-" ++ Nat.repr (n + 1) := rfl
  have hdigits : (Nat.repr (n + 1)).toList = Nat.toDigits 10 (n + 1) := by
    rw [Nat.repr_eq_ofList_toDigits, String.toList_ofList]
  rw [htext, String.toList_append, hdigits]

/-- The id of a message is free of the colon that `ack` writes before it. -/
theorem colon_not_mem_messageId (event : Event) (n : ℕ) :
    ':' ∉ (busMessage event n).messageId.toList := by
  rw [toList_messageId, List.mem_append]
  rintro (hmem | hdigit)
  · exact absurd hmem (by decide)
  · exact absurd (Decimal.isDigit_toDigits hdigit) (by decide)

theorem messageId_injective {event event' : Event} {m n : ℕ}
    (h : (busMessage event m).messageId = (busMessage event' n).messageId) : m = n := by
  have hlist := congrArg String.toList h
  rw [toList_messageId, toList_messageId, List.append_cancel_left_eq] at hlist
  exact Nat.succ.inj (Decimal.toDigits_injective hlist)

namespace Carries

variable {bus : EventBus} {m x : BusMessage}

theorem published (h : bus.Carries) (hm : m ∈ bus.messages) :
    ∃ event n, m = busMessage event n := by
  obtain ⟨i, hi⟩ := List.mem_iff_getElem?.mp hm
  obtain ⟨event, hevent⟩ := h.numbered i m hi
  exact ⟨event, i, hevent⟩

theorem eq_of_messageId (h : bus.Carries) (hm : m ∈ bus.messages) (hx : x ∈ bus.messages)
    (hid : m.messageId = x.messageId) : m = x := by
  obtain ⟨i, hi⟩ := List.mem_iff_getElem?.mp hm
  obtain ⟨j, hj⟩ := List.mem_iff_getElem?.mp hx
  obtain ⟨event, hevent⟩ := h.numbered i m hi
  obtain ⟨event', hevent'⟩ := h.numbered j x hj
  have hij : i = j := by
    rw [hevent, hevent'] at hid
    exact messageId_injective hid
  rw [hij, hj] at hi
  exact (Option.some.inj hi).symm

/-- What `ack` notes tells the messages apart. -/
theorem eq_of_ackName (h : bus.Carries) (hm : m ∈ bus.messages) (hx : x ∈ bus.messages)
    (hname : ackName m = ackName x) : m = x := by
  have hcolon : ∀ y ∈ bus.messages, ':' ∉ y.messageId.toList := by
    intro y hy
    obtain ⟨event, n, rfl⟩ := h.published hy
    exact colon_not_mem_messageId event n
  have hlist := congrArg String.toList hname
  simp only [ackName, String.toList_append] at hlist
  have hcut : m.stream.toList ++ ':' :: m.messageId.toList =
      x.stream.toList ++ ':' :: x.messageId.toList := by simpa using hlist
  rcases (append_cons_eq_iff ':' _ _ _ _).mp hcut with ⟨-, hid⟩ | ⟨w, -, hid⟩ | ⟨w, -, hid⟩
  · exact h.eq_of_messageId hm hx (String.toList_inj.mp hid)
  · exact absurd (hid ▸ by simp) (hcolon x hx)
  · exact absurd (hid ▸ by simp) (hcolon m hm)

/-- `nack` finds the message by its id. -/
theorem find?_messageId (h : bus.Carries) (hm : m ∈ bus.messages) :
    (bus.messages.find? fun item => item.messageId = m.messageId) = some m := by
  cases hfind : bus.messages.find? fun item => item.messageId = m.messageId with
  | none =>
    have hne := List.find?_eq_none.mp hfind m hm
    simp at hne
  | some found =>
    have hid : found.messageId = m.messageId := by simpa using List.find?_some hfind
    rw [h.eq_of_messageId (List.mem_of_find?_eq_some hfind) hm hid]

end Carries

/-! ## The operations -/

section Operations

variable {bus : EventBus} {m x : BusMessage}

theorem new_not_mem (h : bus.Carries) (event : Event) :
    busMessage event bus.messages.length ∉ bus.messages := by
  intro hmem
  obtain ⟨i, hi⟩ := List.mem_iff_getElem?.mp hmem
  obtain ⟨event', hevent'⟩ := h.numbered i _ hi
  have hindex : bus.messages.length = i := messageId_injective (congrArg (·.messageId) hevent')
  obtain ⟨hlt, -⟩ := List.getElem?_eq_some_iff.mp hi
  omega

/-- A message that is not on the bus stands nowhere, even when the bus comes to carry it. -/
theorem places_eq_zero (h : bus.Carries) (hm : m ∉ bus.messages)
    (hname : ∀ x ∈ bus.messages, ackName m ≠ ackName x) : bus.places m = 0 := by
  have hpending : bus.pending.count m = 0 :=
    List.count_eq_zero.mpr fun hmem => hm (h.pending m hmem)
  have hacked : bus.acked.count (ackName m) = 0 := by
    refine List.count_eq_zero.mpr fun hmem => ?_
    obtain ⟨x, hx, heq⟩ := h.acked _ hmem
    exact hname x hx heq
  have hdead : bus.deadLetter.count m = 0 :=
    List.count_eq_zero.mpr fun hmem => hm (h.deadLetter m hmem)
  unfold places
  omega

theorem Carries.publish (h : bus.Carries) (event : Event) : (bus.publish event).1.Carries where
  positive := h.positive
  numbered := by
    intro i m hi
    change (bus.messages ++ [busMessage event bus.messages.length])[i]? = some m at hi
    rw [List.getElem?_append] at hi
    split at hi
    · exact h.numbered i m hi
    · rename_i hlt
      obtain ⟨hlen, -⟩ := List.getElem?_eq_some_iff.mp hi
      simp only [List.length_singleton] at hlen
      obtain rfl : i = bus.messages.length := by omega
      rw [Nat.sub_self] at hi
      exact ⟨event, (Option.some.inj hi).symm⟩
  pending := by
    intro m hm
    change m ∈ bus.messages ++ [busMessage event bus.messages.length]
    rcases List.mem_append.mp hm with hm | hm
    · exact List.mem_append_left _ (h.pending m hm)
    · exact List.mem_append_right _ hm
  acked := by
    intro name hname
    obtain ⟨m, hm, heq⟩ := h.acked name hname
    exact ⟨m, List.mem_append_left _ hm, heq⟩
  deadLetter := fun m hm => List.mem_append_left _ (h.deadLetter m hm)

/-- A new message stands in one place, and the others stay where they are. -/
theorem places_publish (h : bus.Carries) (event : Event) :
    (bus.publish event).1.places (busMessage event bus.messages.length) = 1 ∧
      ∀ m ∈ bus.messages, (bus.publish event).1.places m = bus.places m := by
  have hcarries := h.publish event
  have hnew := new_not_mem h event
  have hself : busMessage event bus.messages.length ∈ (bus.publish event).1.messages :=
    List.mem_append_right _ List.mem_cons_self
  have hplaces : ∀ m, (bus.publish event).1.places m =
      bus.places m + [busMessage event bus.messages.length].count m := by
    intro m
    change (bus.pending ++ [busMessage event bus.messages.length]).count m +
      bus.acked.count (ackName m) + bus.deadLetter.count m = _
    rw [List.count_append]
    unfold places
    omega
  constructor
  · have hzero := places_eq_zero h hnew fun x hx hname => hnew
      (hcarries.eq_of_ackName hself (List.mem_append_left _ hx) hname ▸ hx)
    rw [hplaces, hzero, List.count_singleton_self]
  · intro m hm
    have hne : m ∉ [busMessage event bus.messages.length] := fun hmem =>
      hnew (List.mem_singleton.mp hmem ▸ hm)
    rw [hplaces, List.count_eq_zero.mpr hne, Nat.add_zero]

/-- Taking the first element of a kind leaves the others. -/
theorem perm_of_find? {α : Type} {p : α → Bool} {xs : List α} {x : α}
    (h : xs.find? p = some x) : xs.Perm (x :: xs.eraseP p) := by
  induction xs with
  | nil => cases h
  | cons y ys ih =>
    cases hp : p y with
    | true =>
      rw [List.find?_cons_of_pos hp] at h
      rw [List.eraseP_cons_of_pos hp, Option.some.inj h]
    | false =>
      rw [List.find?_cons_of_neg (by simp [hp])] at h
      rw [List.eraseP_cons_of_neg (by simp [hp])]
      exact ((ih h).cons y).trans (List.Perm.swap x y _)

/-- What `consume_one` leaves when it hands out `m`. -/
structure Consumes (bus bus' : EventBus) (m : BusMessage) : Prop where
  maxRetries : bus'.maxRetries = bus.maxRetries
  messages : bus'.messages = bus.messages
  pending : bus.pending.Perm (m :: bus'.pending)
  acked : bus'.acked = bus.acked
  deadLetter : bus'.deadLetter = bus.deadLetter
  counts : bus'.deliveryCounts = bus.deliveryCounts.set m.messageId
    ((bus.deliveryCounts.get? m.messageId).getD 0 + 1)

theorem consumeOne_of_some {stream : Option String} (h : (bus.consumeOne stream).2 = some m) :
    Consumes bus (bus.consumeOne stream).1 m := by
  unfold consumeOne at h ⊢
  cases hfind : bus.pending.find? (ofStream stream) with
  | none =>
    rw [hfind] at h
    cases h
  | some found =>
    rw [hfind] at h
    obtain rfl : found = m := Option.some.inj h
    exact ⟨rfl, rfl, perm_of_find? hfind, rfl, rfl, rfl⟩

theorem consumeOne_of_none {stream : Option String} (h : (bus.consumeOne stream).2 = none) :
    (bus.consumeOne stream).1 = bus := by
  unfold consumeOne at h ⊢
  cases hfind : bus.pending.find? (ofStream stream) with
  | none => rfl
  | some found =>
    rw [hfind] at h
    cases h

namespace Consumes

variable {bus' : EventBus}

theorem mem_pending (h : Consumes bus bus' m) : m ∈ bus.pending :=
  h.pending.mem_iff.mpr List.mem_cons_self

theorem carries (h : Consumes bus bus' m) (hcarries : bus.Carries) : bus'.Carries where
  positive := h.maxRetries ▸ hcarries.positive
  numbered := h.messages ▸ hcarries.numbered
  pending := fun x hx => h.messages ▸
    hcarries.pending x (h.pending.mem_iff.mpr (List.mem_cons_of_mem _ hx))
  acked := by
    rw [h.messages, h.acked]
    exact hcarries.acked
  deadLetter := by
    rw [h.messages, h.deadLetter]
    exact hcarries.deadLetter

/-- The message handed out has lost a place. -/
theorem places (h : Consumes bus bus' m) (x : BusMessage) :
    bus.places x = bus'.places x + if m = x then 1 else 0 := by
  unfold EventBus.places
  rw [h.pending.count_eq, List.count_cons, h.acked, h.deadLetter]
  simp only [beq_iff_eq]
  omega

end Consumes

theorem Carries.ack (h : bus.Carries) (hm : m ∈ bus.messages) :
    (bus.ack m.stream m.messageId).Carries where
  positive := h.positive
  numbered := h.numbered
  pending := h.pending
  acked := by
    intro name hname
    rcases List.mem_append.mp hname with hname | hname
    · exact h.acked name hname
    · exact ⟨m, hm, List.mem_singleton.mp hname⟩
  deadLetter := h.deadLetter

/-- An acknowledged message stands among the acknowledged ones. -/
theorem places_ack (h : bus.Carries) (hm : m ∈ bus.messages) (hx : x ∈ bus.messages) :
    (bus.ack m.stream m.messageId).places x = bus.places x + if m = x then 1 else 0 := by
  have hname : ackName m = ackName x ↔ m = x :=
    ⟨h.eq_of_ackName hm hx, fun heq => congrArg ackName heq⟩
  change bus.pending.count x + (bus.acked ++ [ackName m]).count (ackName x) +
    bus.deadLetter.count x = _
  rw [List.count_append, List.count_singleton]
  simp only [beq_iff_eq, hname]
  unfold places
  omega

/-- What `nack` leaves: the message is among the dead letters, or pending again. -/
inductive Returns (bus : EventBus) (m : BusMessage) : EventBus × Bool → Prop
  | deadLetter (h : bus.maxRetries ≤ (bus.deliveryCounts.get? m.messageId).getD 1) :
      Returns bus m ({ bus with
        deadLetter := bus.deadLetter ++ [m]
        deliveryCounts := bus.deliveryCounts.pop m.messageId }, true)
  | pending (h : (bus.deliveryCounts.get? m.messageId).getD 1 < bus.maxRetries) :
      Returns bus m ({ bus with pending := bus.pending ++ [m] }, false)

theorem nack_returns (h : bus.Carries) (hm : m ∈ bus.messages) :
    Returns bus m (bus.nack m.messageId) := by
  unfold nack
  rw [h.find?_messageId hm]
  dsimp only
  by_cases hspent : bus.maxRetries ≤ (bus.deliveryCounts.get? m.messageId).getD 1
  · rw [if_pos hspent]
    exact .deadLetter hspent
  · rw [if_neg hspent]
    exact .pending (Nat.lt_of_not_le hspent)

namespace Returns

variable {result : EventBus × Bool}

theorem messages (h : Returns bus m result) : result.1.messages = bus.messages := by
  cases h with
  | deadLetter => rfl
  | pending => rfl

theorem acked (h : Returns bus m result) : result.1.acked = bus.acked := by
  cases h with
  | deadLetter => rfl
  | pending => rfl

theorem maxRetries (h : Returns bus m result) : result.1.maxRetries = bus.maxRetries := by
  cases h with
  | deadLetter => rfl
  | pending => rfl

theorem carries (h : Returns bus m result) (hcarries : bus.Carries) (hm : m ∈ bus.messages) :
    result.1.Carries := by
  cases h with
  | deadLetter =>
    refine ⟨hcarries.positive, hcarries.numbered, hcarries.pending, hcarries.acked, ?_⟩
    intro x hx
    rcases List.mem_append.mp hx with hx | hx
    · exact hcarries.deadLetter x hx
    · exact List.mem_singleton.mp hx ▸ hm
  | pending =>
    refine ⟨hcarries.positive, hcarries.numbered, ?_, hcarries.acked, hcarries.deadLetter⟩
    intro x hx
    rcases List.mem_append.mp hx with hx | hx
    · exact hcarries.pending x hx
    · exact List.mem_singleton.mp hx ▸ hm

/-- A message that comes back has a place again. -/
theorem places (h : Returns bus m result) (x : BusMessage) :
    result.1.places x = bus.places x + if m = x then 1 else 0 := by
  cases h with
  | deadLetter =>
    unfold EventBus.places
    dsimp only
    rw [List.count_append, List.count_singleton]
    simp only [beq_iff_eq]
    omega
  | pending =>
    unfold EventBus.places
    dsimp only
    rw [List.count_append, List.count_singleton]
    simp only [beq_iff_eq]
    omega

end Returns

end Operations

end EventBus

end ShelfWise.Worker
