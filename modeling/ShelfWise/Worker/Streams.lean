import ShelfWise.Py.Sorted
import ShelfWise.Sys.Run
import ShelfWise.Worker.EventBus
import ShelfWise.Worker.Plans

/-!
# The streams of two tenants

The names that `shelfwise_backend/event_bus.py` makes of a tenant id: the source stream, the dead-letter
stream and the names of acknowledgements, all joined with a colon and told apart by their prefixes and
suffixes. `_source_streams` takes a key of Redis that ends with `:dead` for a dead-letter stream, and
`InMemoryEventBus.stats` takes an acknowledgement that begins with a stream and a colon for one of it.

`separate_iff` says for which tenants this is right. The Redis client is a parameter; `Documented` says
what is used of it.
-/

namespace ShelfWise.Worker

open Py Sys Ingest

/-! ## The streams in Redis -/

/-- `s.startswith(prefix)`. -/
def startsWith (s start : String) : Bool := start.toList.isPrefixOf s.toList

/-- `s.endswith(suffix)`. -/
def endsWith (s ending : String) : Bool := ending.toList.isSuffixOf s.toList

/-- What the bus uses of the Redis client to publish and to find streams; `σ` is the database. -/
structure RedisClient (σ : Type) where
  keys : σ → List String
  scanIter : String → σ → List String
  xadd : String → Items → σ → σ × String

/-- A text that a glob pattern matches as it stands. -/
def Plain (pattern : String) : Prop := ∀ c ∈ pattern.toList, c.isAlphanum ∨ c = ':'

/-- What Redis documents of the commands: a scan to its end returns the keys that match, and an entry
creates the stream it is added to. -/
structure RedisClient.Documented {σ : Type} (client : RedisClient σ) : Prop where
  scan : ∀ start, Plain start → ∀ s key, key ∈ client.scanIter (start ++ "*") s ↔
    key ∈ client.keys s ∧ startsWith key start
  xadd : ∀ stream fields s key, key ∈ client.keys (client.xadd stream fields s).1 ↔
    key = stream ∨ key ∈ client.keys s

/-- `publish` of `RedisStreamsEventBus`; the event is written as the JSON text of its dictionary. -/
def RedisClient.publish {σ : Type} (client : RedisClient σ) (event : Event) (s : σ) : σ × String :=
  client.xadd (streamName event.tenantId) [("event", .dict event.toDict)] s

/-- `_source_streams`. -/
def RedisClient.sourceStreams {σ : Type} (client : RedisClient σ) (s : σ) : List String :=
  (client.scanIter ("shelfwise:events:" ++ "*") s).filter fun key => !endsWith key ":dead"

/-- Where `_move_to_dead_letter` adds the messages of a stream, and `dead_letter` reads them. -/
def deadStream (stream : String) : String := stream ++ ":dead"

/-! ## The counts of a tenant -/

/-- What `stats` answers, besides the name of the backend. -/
structure BusStats where
  messagesTotal : ℕ
  pendingMessages : ℕ
  ackedMessages : ℕ
  deadLetterMessages : ℕ
  streams : List String
deriving DecidableEq

namespace EventBus

/-- Whether an acknowledgement counts for a stream; without a stream every one does. -/
def ackOfStream (stream : Option String) (item : String) : Bool :=
  stream.all fun s => startsWith item (s ++ ":")

/-- `stats`. -/
def stats (tenantId : Option String) (bus : EventBus) : BusStats :=
  let stream := (tenantId.filter (· ≠ "")).map streamName
  let messages := bus.messages.filter (ofStream stream)
  { messagesTotal := messages.length
    pendingMessages := (bus.pending.filter (ofStream stream)).length
    ackedMessages := (bus.acked.filter (ackOfStream stream)).length
    deadLetterMessages := (bus.deadLetter.filter (ofStream stream)).length
    streams := sortedBy id (messages.map (·.stream)).dedup }

end EventBus

/-- A call to the bus. A message that is acknowledged or given back is one that the bus carries, and is
called by its number. -/
inductive BusCall where
  | publish (event : Event)
  | consumeOne (stream : Option String)
  | ack (n : ℕ)
  | nack (n : ℕ)

/-- The bus after a call. -/
def busStep (bus : EventBus) : BusCall → EventBus × Unit
  | .publish event => ((bus.publish event).1, ())
  | .consumeOne stream => ((bus.consumeOne stream).1, ())
  | .ack n =>
    (bus.messages[n]?.elim bus fun message => bus.ack message.stream message.messageId, ())
  | .nack n => (bus.messages[n]?.elim bus fun message => (bus.nack message.messageId).1, ())

/-! ## Separate tenants -/

/-- A message of a tenant. -/
def BusMessage.isOf (tenantId : String) (message : BusMessage) : Bool :=
  Value.get message.event "tenant_id" = .str tenantId

/-- An acknowledgement of a message of a tenant. -/
def EventBus.acksOf (tenantId : String) (bus : EventBus) (item : String) : Bool :=
  bus.messages.any fun message => BusMessage.isOf tenantId message && item = EventBus.ackName message

/-- The bus without what it holds of a tenant. -/
def EventBus.without (tenantId : String) (bus : EventBus) : EventBus :=
  { bus with
    messages := bus.messages.filter fun message => !BusMessage.isOf tenantId message
    pending := bus.pending.filter fun message => !BusMessage.isOf tenantId message
    acked := bus.acked.filter fun item => !bus.acksOf tenantId item
    deadLetter := bus.deadLetter.filter fun message => !BusMessage.isOf tenantId message }

/-- The counts of `t` are never about a message, an acknowledgement or a dead letter of `t'`. -/
def CountsNoneOf (t t' : String) : Prop :=
  ∀ maxRetries calls, (final busStep (.init maxRetries) calls).stats (some t) =
    ((final busStep (.init maxRetries) calls).without t').stats (some t)

/-- What a tenant publishes goes to a stream that is found again. -/
def RedisClient.Finds {σ : Type} (client : RedisClient σ) (t : String) : Prop :=
  ∀ (event : Event) (s : σ), event.tenantId = t →
    streamName event.tenantId ∈ client.sourceStreams (client.publish event s).1

/-- The streams of two tenants are separate. -/
structure Separate {σ : Type} (client : RedisClient σ) (t t' : String) : Prop where
  names : [streamName t, deadStream (streamName t), streamName t', deadStream (streamName t')].Nodup
  finds : client.Finds t ∧ client.Finds t'
  counts : CountsNoneOf t t' ∧ CountsNoneOf t' t

/-- A tenant id that makes a source stream look like a dead-letter stream. -/
def NamedDead (t : String) : Prop := t = "dead" ∨ endsWith t ":dead" = true

instance (t : String) : Decidable (NamedDead t) := by
  unfold NamedDead
  infer_instance

/-- A tenant id that begins with the other one and a colon. -/
def Extends (t t' : String) : Prop := startsWith t' (t ++ ":") = true

instance (t t' : String) : Decidable (Extends t t') := by
  unfold Extends
  infer_instance

/-! ## The names -/

theorem startsWith_iff {s start : String} : startsWith s start = true ↔ start.toList <+: s.toList :=
  List.isPrefixOf_iff_prefix

theorem endsWith_iff {s ending : String} : endsWith s ending = true ↔ ending.toList <:+ s.toList :=
  List.isSuffixOf_iff_suffix

theorem toList_eventPrefix : "shelfwise:events:".toList = "shelfwise:events".toList ++ [':'] := by
  decide

theorem toList_dead : ":dead".toList = [':', 'd', 'e', 'a', 'd'] := by decide

section Names

variable {t t' : String}

theorem streamName_of_stripped (h : Stripped t) (hne : t ≠ "") :
    streamName t = "shelfwise:events:" ++ t := by
  have hstrip : strip t = t := h
  unfold streamName
  dsimp only
  rw [hstrip, if_neg hne]

theorem toList_streamName (h : Stripped t) (hne : t ≠ "") :
    (streamName t).toList = "shelfwise:events:".toList ++ t.toList := by
  rw [streamName_of_stripped h hne, String.toList_append]

theorem streamName_inj (h : Stripped t) (hne : t ≠ "") (h' : Stripped t') (hne' : t' ≠ "") :
    streamName t = streamName t' ↔ t = t' := by
  constructor
  · intro heq
    have hlist := congrArg String.toList heq
    rw [toList_streamName h hne, toList_streamName h' hne', List.append_cancel_left_eq] at hlist
    exact String.toList_inj.mp hlist
  · intro heq
    rw [heq]

/-- A source stream looks like a dead-letter stream for the ids named so only. -/
theorem endsWith_streamName (h : Stripped t) (hne : t ≠ "") :
    endsWith (streamName t) ":dead" = true ↔ NamedDead t := by
  rw [endsWith_iff, toList_streamName h hne]
  constructor
  · rintro ⟨u, hu⟩
    rw [toList_dead] at hu
    rcases List.append_eq_append_iff.mp hu with ⟨w, hcolons, hw⟩ | ⟨w, -, hw⟩
    · -- the name of the tenant is the rest of `:dead` after `w`, which ends in a colon
      cases w with
      | nil => exact .inr (endsWith_iff.mpr ⟨[], toList_dead.trans hw⟩)
      | cons c w =>
        obtain ⟨-, hrest⟩ := List.cons.inj hw
        cases w using List.reverseRecOn with
        | nil => exact .inl (String.toList_inj.mp hrest.symm)
        | append_singleton w last =>
          have hcolon : last = ':' := by
            have hlast := congrArg List.getLast? hcolons
            rw [toList_eventPrefix, List.getLast?_concat, ← List.cons_append, ← List.append_assoc,
              List.getLast?_concat] at hlast
            exact (Option.some.inj hlast).symm
          have hmem : ':' ∈ ['d', 'e', 'a', 'd'] := by
            rw [hrest, hcolon]
            simp
          exact absurd hmem (by decide)
    · exact .inr (endsWith_iff.mpr ⟨w, by rw [hw, toList_dead]⟩)
  · rintro (rfl | hdead)
    · exact ⟨"shelfwise:events".toList, by decide⟩
    · exact (endsWith_iff.mp hdead).trans (List.suffix_append _ _)

theorem namedDead_of_deadStream (h : Stripped t) (hne : t ≠ "") (h' : Stripped t') (hne' : t' ≠ "")
    (heq : streamName t = deadStream (streamName t')) : NamedDead t := by
  have hlist := congrArg String.toList heq
  rw [deadStream, String.toList_append, toList_streamName h hne, toList_streamName h' hne',
    List.append_assoc, List.append_cancel_left_eq] at hlist
  exact .inr (endsWith_iff.mpr ⟨t'.toList, hlist.symm⟩)

theorem ne_deadStream (stream : String) : stream ≠ deadStream stream := by
  intro heq
  have hlength := congrArg (fun s => s.toList.length) heq
  simp only [deadStream, String.toList_append, List.length_append] at hlength
  have hdead : ":dead".toList.length = 5 := rfl
  omega

theorem deadStream_inj {s s' : String} (h : deadStream s = deadStream s') : s = s' := by
  have hlist := congrArg String.toList h
  rw [deadStream, deadStream, String.toList_append, String.toList_append,
    List.append_cancel_right_eq] at hlist
  exact String.toList_inj.mp hlist

theorem nodup_names (h : Stripped t) (hne : t ≠ "") (h' : Stripped t') (hne' : t' ≠ "")
    (hdistinct : t ≠ t') (hdead : ¬ NamedDead t) (hdead' : ¬ NamedDead t') :
    [streamName t, deadStream (streamName t), streamName t', deadStream (streamName t')].Nodup := by
  have hsource : streamName t ≠ streamName t' := fun heq =>
    hdistinct ((streamName_inj h hne h' hne').mp heq)
  have hcross : streamName t ≠ deadStream (streamName t') := fun heq =>
    hdead (namedDead_of_deadStream h hne h' hne' heq)
  have hcross' : deadStream (streamName t) ≠ streamName t' := fun heq =>
    hdead' (namedDead_of_deadStream h' hne' h hne heq.symm)
  have hboth : deadStream (streamName t) ≠ deadStream (streamName t') := fun heq =>
    hsource (deadStream_inj heq)
  simp only [List.nodup_cons, List.mem_cons, List.not_mem_nil, or_false, not_or, not_false_eq_true,
    List.nodup_nil, and_true]
  exact ⟨⟨ne_deadStream _, hsource, hcross⟩, ⟨hcross', hboth⟩, ne_deadStream _⟩

/-! ## Finding the streams -/

/-- A scan of a tenant, as its scanner sends it. -/
def tenantScan (t : String) (hne : t ≠ "") : Event where
  id := "scanner"
  type := .scan
  ts := ⟨1000000, "2026-07-01T00:00:01+00:00"⟩
  actor := "scanner"
  payload := []
  source := .scanner
  tenantId := t
  dataDomain := .operationalTwin
  correlationId := "scanner"
  causationId := none
  schemaVersion := "v1"
  id_ne := scanner_ne
  actor_ne := scanner_ne
  tenantId_ne := hne
  correlationId_ne := scanner_ne

theorem plain_eventPrefix : Plain "shelfwise:events:" := by
  have hall : "shelfwise:events:".toList.all (fun c => c.isAlphanum || c == ':') = true := by
    decide +kernel
  intro c hc
  simpa using List.all_eq_true.mp hall c hc

/-- A stream that was published to is found unless it looks like a dead-letter stream. -/
theorem finds_iff {σ : Type} [Inhabited σ] {client : RedisClient σ} (hclient : client.Documented)
    (h : Stripped t) (hne : t ≠ "") : client.Finds t ↔ ¬ NamedDead t := by
  have hmem : ∀ (event : Event) (s : σ), event.tenantId = t →
      (streamName event.tenantId ∈ client.sourceStreams (client.publish event s).1 ↔
        ¬ NamedDead t) := by
    intro event s htenant
    have hkey : streamName t ∈ client.keys (client.publish event s).1 :=
      (hclient.xadd _ _ s _).mpr (.inl (by rw [htenant]))
    have hstart : startsWith (streamName t) "shelfwise:events:" = true := by
      rw [startsWith_iff, toList_streamName h hne]
      exact List.prefix_append _ _
    unfold RedisClient.sourceStreams
    rw [htenant, List.mem_filter, hclient.scan _ plain_eventPrefix, ← endsWith_streamName h hne]
    simp [hkey, hstart]
  constructor
  · intro hfinds
    exact (hmem (tenantScan t hne) default rfl).mp (hfinds _ default rfl)
  · intro hdead event s htenant
    exact (hmem event s htenant).mpr hdead

/-! ## Counting what is a tenant's own -/

theorem carries_busStep (bus : EventBus) (call : BusCall) (h : bus.Carries) :
    (busStep bus call).1.Carries := by
  cases call with
  | publish event => exact h.publish event
  | consumeOne stream =>
    change (bus.consumeOne stream).1.Carries
    cases hfound : (bus.consumeOne stream).2 with
    | none =>
      rw [EventBus.consumeOne_of_none hfound]
      exact h
    | some m => exact (EventBus.consumeOne_of_some hfound).carries h
  | ack n =>
    show (bus.messages[n]?.elim bus fun m => bus.ack m.stream m.messageId).Carries
    cases hm : bus.messages[n]? with
    | none => exact h
    | some m => exact h.ack (List.mem_of_getElem? hm)
  | nack n =>
    show (bus.messages[n]?.elim bus fun m => (bus.nack m.messageId).1).Carries
    cases hm : bus.messages[n]? with
    | none => exact h
    | some m =>
      have hmem : m ∈ bus.messages := List.mem_of_getElem? hm
      exact (EventBus.nack_returns h hmem).carries h hmem

theorem carries_busFinal (maxRetries : ℤ) (calls : List BusCall) :
    (final busStep (.init maxRetries) calls).Carries :=
  invariant_final carries_busStep (EventBus.carries_init maxRetries) calls

/-- What a filter keeps of a filtered list, when it keeps nothing that was left out. -/
theorem filter_filter_of_imp {α : Type} {p q : α → Bool} {xs : List α}
    (h : ∀ x ∈ xs, p x = true → q x = true) : (xs.filter q).filter p = xs.filter p := by
  rw [List.filter_filter]
  refine List.filter_congr fun x hx => ?_
  cases hp : p x with
  | false => rfl
  | true => rw [h x hx hp, Bool.and_self]

section Counts

variable {bus : EventBus}

/-- The messages on the stream of a tenant are none of another one. -/
theorem not_isOf_of_ofStream (hcarries : bus.Carries) (h : Stripped t) (hne : t ≠ "")
    (h' : Stripped t') (hne' : t' ≠ "") (hdistinct : t ≠ t') {m : BusMessage}
    (hm : m ∈ bus.messages) (hstream : EventBus.ofStream (some (streamName t)) m = true) :
    (!BusMessage.isOf t' m) = true := by
  obtain ⟨event, n, rfl⟩ := hcarries.published hm
  have hname : streamName event.tenantId = streamName t := by
    simpa [EventBus.ofStream, busMessage] using hstream
  have htenant : Value.get (busMessage event n).event "tenant_id" = .str event.tenantId := rfl
  simp only [BusMessage.isOf, htenant, Value.str.injEq, Bool.not_eq_true', decide_eq_false_iff_not]
  intro heq
  rw [heq] at hname
  exact hdistinct ((streamName_inj h hne h' hne').mp hname.symm)

/-- When the acknowledgement of a message of `t'` counts for `t`. -/
theorem ackOfStream_ackName (h : Stripped t) (hne : t ≠ "") (h' : Stripped t') (hne' : t' ≠ "")
    {m : BusMessage} (hstream : m.stream = streamName t') :
    EventBus.ackOfStream (some (streamName t)) (EventBus.ackName m) = true ↔
      ∃ w, t.toList ++ ':' :: w = t'.toList ++ ':' :: m.messageId.toList := by
  have hname : (EventBus.ackName m).toList =
      "shelfwise:events:".toList ++ (t'.toList ++ ':' :: m.messageId.toList) := by
    rw [EventBus.ackName, hstream, String.toList_append, String.toList_append,
      toList_streamName h' hne', List.append_assoc, List.append_assoc]
    rfl
  have hstart : ∀ w, (streamName t ++ ":").toList ++ w =
      "shelfwise:events:".toList ++ (t.toList ++ ':' :: w) := by
    intro w
    rw [String.toList_append, toList_streamName h hne, List.append_assoc, List.append_assoc]
    rfl
  refine startsWith_iff.trans (exists_congr fun w => ?_)
  rw [hname, hstart, List.append_cancel_left_eq]

/-- An acknowledgement that counts for a tenant is none of another one that does not extend its
id. -/
theorem not_acksOf_of_ackOfStream (hcarries : bus.Carries) (h : Stripped t) (hne : t ≠ "")
    (h' : Stripped t') (hne' : t' ≠ "") (hdistinct : t ≠ t') (hextends : ¬ Extends t t')
    {item : String} (hitem : EventBus.ackOfStream (some (streamName t)) item = true) :
    (!bus.acksOf t' item) = true := by
  rw [Bool.not_eq_true', ← Bool.not_eq_true]
  intro hacks
  obtain ⟨m, hm, hboth⟩ := List.any_eq_true.mp hacks
  rw [Bool.and_eq_true, decide_eq_true_eq] at hboth
  obtain ⟨hof, rfl⟩ := hboth
  obtain ⟨event, n, rfl⟩ := hcarries.published hm
  have htenant : event.tenantId = t' := Value.str.inj (of_decide_eq_true hof)
  have hstream : (busMessage event n).stream = streamName t' := congrArg streamName htenant
  obtain ⟨w, hcut⟩ := (ackOfStream_ackName h hne h' hne' hstream).mp hitem
  rcases (append_cons_eq_iff ':' _ _ _ _).mp hcut with ⟨heq, -⟩ | ⟨u, -, hid⟩ | ⟨u, hlonger, -⟩
  · exact hdistinct (String.toList_inj.mp heq)
  · exact EventBus.colon_not_mem_messageId event n (by rw [hid]; simp)
  · refine hextends (startsWith_iff.mpr ⟨u, ?_⟩)
    rw [hlonger, String.toList_append, List.append_assoc]
    rfl

/-- The counts of a tenant stay when another one is taken off the bus. -/
theorem stats_without (hcarries : bus.Carries) (h : Stripped t) (hne : t ≠ "") (h' : Stripped t')
    (hne' : t' ≠ "") (hdistinct : t ≠ t') (hextends : ¬ Extends t t') :
    (bus.without t').stats (some t) = bus.stats (some t) := by
  have hstream : ((some t).filter (· ≠ "")).map streamName = some (streamName t) := by
    simp [hne]
  have hof : ∀ xs : List BusMessage, (∀ m ∈ xs, m ∈ bus.messages) →
      (xs.filter fun m => !BusMessage.isOf t' m).filter (EventBus.ofStream (some (streamName t))) =
        xs.filter (EventBus.ofStream (some (streamName t))) := fun xs hxs =>
    filter_filter_of_imp fun m hm hp =>
      not_isOf_of_ofStream hcarries h hne h' hne' hdistinct (hxs m hm) hp
  have hacked : (bus.acked.filter fun item => !bus.acksOf t' item).filter
      (EventBus.ackOfStream (some (streamName t))) =
        bus.acked.filter (EventBus.ackOfStream (some (streamName t))) :=
    filter_filter_of_imp fun _ _ hp =>
      not_acksOf_of_ackOfStream hcarries h hne h' hne' hdistinct hextends hp
  unfold EventBus.stats EventBus.without
  dsimp only
  rw [hstream, hof _ fun _ hm => hm, hof _ hcarries.pending, hof _ hcarries.deadLetter, hacked]

end Counts

theorem ackedMessages_of_ne {bus : EventBus} (hne : t ≠ "") : (bus.stats (some t)).ackedMessages =
    (bus.acked.filter (EventBus.ackOfStream (some (streamName t)))).length := by
  have hstream : ((some t).filter (· ≠ "")).map streamName = some (streamName t) := by
    simp [hne]
  unfold EventBus.stats
  rw [hstream]

theorem countsNoneOf_iff (h : Stripped t) (hne : t ≠ "") (h' : Stripped t') (hne' : t' ≠ "")
    (hdistinct : t ≠ t') : CountsNoneOf t t' ↔ ¬ Extends t t' := by
  constructor
  · intro hcounts hextends
    -- one message of the other tenant, published and acknowledged
    have hstats := congrArg BusStats.ackedMessages
      (hcounts 3 [.publish (tenantScan t' hne'), .ack 0])
    rw [ackedMessages_of_ne hne, ackedMessages_of_ne hne] at hstats
    obtain ⟨bus, hbus⟩ : ∃ bus, bus = final busStep (.init 3)
      [.publish (tenantScan t' hne'), .ack 0] := ⟨_, rfl⟩
    have hmessages : bus.messages = [busMessage (tenantScan t' hne') 0] := by rw [hbus]; rfl
    have hnames : bus.acked = [EventBus.ackName (busMessage (tenantScan t' hne') 0)] := by
      rw [hbus]
      rfl
    have hcounted : EventBus.ackOfStream (some (streamName t))
        (EventBus.ackName (busMessage (tenantScan t' hne') 0)) = true := by
      obtain ⟨u, hu⟩ := startsWith_iff.mp hextends
      refine (ackOfStream_ackName h hne h' hne' rfl).mpr
        ⟨u ++ ':' :: (busMessage (tenantScan t' hne') 0).messageId.toList, ?_⟩
      rw [← hu, String.toList_append, List.append_assoc, List.append_assoc]
      rfl
    have hremoved : bus.acksOf t' (EventBus.ackName (busMessage (tenantScan t' hne') 0)) = true := by
      have hof : BusMessage.isOf t' (busMessage (tenantScan t' hne') 0) = true :=
        decide_eq_true rfl
      simp [EventBus.acksOf, hmessages, hof]
    rw [← hbus] at hstats
    simp [EventBus.without, hnames, hcounted, hremoved] at hstats
  · intro hextends maxRetries calls
    exact (stats_without (carries_busFinal maxRetries calls) h hne h' hne' hdistinct hextends).symm

end Names

/-! ## When two tenants are separate -/

/-- The streams of two tenants are separate exactly when neither id makes a source stream look like a
dead-letter stream and neither begins with the other one and a colon. -/
theorem separate_iff {σ : Type} [Inhabited σ] {client : RedisClient σ} (hclient : client.Documented)
    {t t' : String} (h : Stripped t) (hne : t ≠ "") (h' : Stripped t') (hne' : t' ≠ "")
    (hdistinct : t ≠ t') :
    Separate client t t' ↔ (¬ NamedDead t ∧ ¬ NamedDead t') ∧ ¬ Extends t t' ∧ ¬ Extends t' t := by
  have hfinds := finds_iff hclient h hne
  have hfinds' := finds_iff hclient h' hne'
  have hcounts := countsNoneOf_iff h hne h' hne' hdistinct
  have hcounts' := countsNoneOf_iff h' hne' h hne hdistinct.symm
  constructor
  · intro hseparate
    exact ⟨⟨hfinds.mp hseparate.finds.1, hfinds'.mp hseparate.finds.2⟩,
      hcounts.mp hseparate.counts.1, hcounts'.mp hseparate.counts.2⟩
  · rintro ⟨⟨hdead, hdead'⟩, hextends, hextends'⟩
    exact
      { names := nodup_names h hne h' hne' hdistinct hdead hdead'
        finds := ⟨hfinds.mpr hdead, hfinds'.mpr hdead'⟩
        counts := ⟨hcounts.mpr hextends, hcounts'.mpr hextends'⟩ }

/-- A Redis database that holds streams only, as the list of its entries. -/
def entryList : RedisClient (List (String × Items)) where
  keys s := s.map Prod.fst
  scanIter pattern s := (s.map Prod.fst).filter fun key =>
    (pattern.toList.dropLast).isPrefixOf key.toList
  xadd stream fields s := (s ++ [(stream, fields)], toString s.length ++ "-0")

theorem documented_entryList : entryList.Documented where
  scan := by
    intro start _ s key
    simp [entryList, startsWith]
  xadd := by
    intro stream fields s key
    simp [entryList, or_comm]

/-- Two stores of one company have streams of their own. -/
theorem separate_north_south : Separate entryList "north" "south" :=
  (separate_iff documented_entryList (by decide +kernel) (by decide) (by decide +kernel) (by decide)
    (by decide)).mpr (by decide +kernel)

/-- The streams of `north` and `north:dead` are not separate: the dead letters of the first one and the
messages of the second one share a stream, these messages are not found, and their acknowledgements
count for the first one. -/
theorem dead_not_separate : Stripped "north" ∧ Stripped "north:dead" ∧
    ¬ Separate entryList "north" "north:dead" ∧
    deadStream (streamName "north") = streamName "north:dead" ∧
    ¬ entryList.Finds "north:dead" ∧ ¬ CountsNoneOf "north" "north:dead" := by
  have hnorth : Stripped "north" := by decide +kernel
  have hdead : Stripped "north:dead" := by decide +kernel
  have hfinds : ¬ entryList.Finds "north:dead" := fun h =>
    (finds_iff documented_entryList hdead (by decide)).mp h (by decide +kernel)
  have hcounts : ¬ CountsNoneOf "north" "north:dead" := fun h =>
    (countsNoneOf_iff hnorth (by decide) hdead (by decide) (by decide)).mp h (by decide +kernel)
  have hshared : deadStream (streamName "north") = streamName "north:dead" := by decide +kernel
  exact ⟨hnorth, hdead, fun h => hcounts h.counts.1, hshared, hfinds, hcounts⟩

end ShelfWise.Worker
