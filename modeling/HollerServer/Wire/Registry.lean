import HollerServer.Lib.Channel
import HollerServer.Lib.FiniteMap
import HollerServer.Token.Record
import HollerServer.Wire.Hello

/-!
# The live-connection registry

The data and the lock sections of `src/wire/registry.rs`.  Every function here
is what one critical section of the `entries` mutex does: it maps the registry
to the registry and lists what the section does to the request channels, a
message sent or a sender dropped.  A sender half is named by the request whose
channel it feeds; an outbound sender half by the connection it belongs to.
-/

namespace HollerServer.Wire

open HollerServer.Proto
open HollerServer.Token (ConnectionStatus)

/-- A connection task. -/
abbrev ConnId := Nat

/-- A call of one of the five request functions. -/
abbrev ReqId := Nat

inductive Kind where
  | ping
  | query
  | prompt
  | interrupt
  | answer
  deriving DecidableEq, Repr

/-- The arguments of a request function other than token and envelope id. -/
inductive Call where
  | ping (serverHostname : String)
  | query (cmd : String) (args : List String)
  | prompt (session text : String) (metadata : Option Value)
  | interrupt (session : String)
  | answer (session choice : String)
  deriving Repr

namespace Call

def kind : Call → Kind
  | .ping _ => .ping
  | .query _ _ => .query
  | .prompt _ _ _ => .prompt
  | .interrupt _ => .interrupt
  | .answer _ _ => .answer

/-- The frame the call sends. -/
def envelope (call : Call) (id ts : String) : Envelope :=
  match call with
  | .ping serverHostname => newPingEnvelope id serverHostname ts
  | .query cmd args => newQueryEnvelope id cmd args ts
  | .prompt session text metadata =>
      newPromptEnvelope id session text metadata ts
  | .interrupt session => newInterruptEnvelope id session ts
  | .answer session choice => newAnswerEnvelope id session choice ts

end Call

inductive QueryOutcome where
  | ok (body : QueryOkBody)
  | err (body : ErrorBody)
  | disconnected
  deriving Repr

inductive PromptOutcome where
  | done (text : String) (exit : Option Int64)
  | err (body : ErrorBody)
  | disconnected
  | cancelled
  deriving DecidableEq, Repr

inductive InterruptOutcome where
  | acked
  | timedOut
  | disconnected
  deriving DecidableEq, Repr

inductive AnswerOutcome where
  | acked
  | err (body : ErrorBody)
  | timedOut
  | disconnected
  deriving DecidableEq, Repr

/-- What one of the five request functions returns. -/
inductive Outcome where
  | ping (status : ConnectionStatus)
  | query (outcome : QueryOutcome)
  | prompt (outcome : PromptOutcome)
  | interrupt (outcome : InterruptOutcome)
  | answer (outcome : AnswerOutcome)
  deriving Repr

/-- The `Disconnected` outcome of each request function. -/
def Kind.disconnected : Kind → Outcome
  | .ping => .ping .disconnected
  | .query => .query .disconnected
  | .prompt => .prompt .disconnected
  | .interrupt => .interrupt .disconnected
  | .answer => .answer .disconnected

/-- A message on a request channel: the elapsed time of a ping, a
`PendingQueryReply`, a `PromptEvent`, the unit of an interrupt, a
`PendingAnswerReply`. -/
inductive Event where
  | pong (elapsed : Nat)
  | queryOk (body : QueryOkBody)
  | queryErr (body : ErrorBody)
  | reply (body : ReplyBody)
  | promptErr (body : ErrorBody)
  | cancelled
  | interruptAck
  | answerAck
  | answerErr (body : ErrorBody)
  deriving Repr

def Event.kind : Event → Kind
  | .pong _ => .ping
  | .queryOk _ => .query
  | .queryErr _ => .query
  | .reply _ => .prompt
  | .promptErr _ => .prompt
  | .cancelled => .prompt
  | .interruptAck => .interrupt
  | .answerAck => .answer
  | .answerErr _ => .answer

/-- What a lock section does to the request channels, in order. -/
abbrev Signals := List (ReqId × Signal Event)

/-- One live connection's handle: its identity, its outbound sender half and the
five maps of outstanding requests, keyed by envelope id. -/
structure Entry where
  hostname : String
  clientId : String
  outTx : ConnId
  pending : FiniteMap String (Nat × ReqId)
  pendingQueries : FiniteMap String ReqId
  pendingPrompts : FiniteMap String (String × ReqId)
  pendingInterrupts : FiniteMap String ReqId
  pendingAnswers : FiniteMap String ReqId

namespace Entry

/-- A fresh entry: every pending map is empty. -/
def new (hostname clientId : String) (outTx : ConnId) : Entry where
  hostname := hostname
  clientId := clientId
  outTx := outTx
  pending := ∅
  pendingQueries := ∅
  pendingPrompts := ∅
  pendingInterrupts := ∅
  pendingAnswers := ∅

/-- The sender half stored under an id in the map of one request kind. -/
def tx? (entry : Entry) (kind : Kind) (id : String) : Option ReqId :=
  match kind with
  | .ping => (entry.pending.get? id).map Prod.snd
  | .query => entry.pendingQueries.get? id
  | .prompt => (entry.pendingPrompts.get? id).map Prod.snd
  | .interrupt => entry.pendingInterrupts.get? id
  | .answer => entry.pendingAnswers.get? id

/-- Remove an id from the map of one request kind. -/
def forget (entry : Entry) (kind : Kind) (id : String) : Entry :=
  match kind with
  | .ping => { entry with pending := entry.pending.delete id }
  | .query =>
      { entry with pendingQueries := entry.pendingQueries.delete id }
  | .prompt =>
      { entry with pendingPrompts := entry.pendingPrompts.delete id }
  | .interrupt =>
      { entry with pendingInterrupts := entry.pendingInterrupts.delete id }
  | .answer =>
      { entry with pendingAnswers := entry.pendingAnswers.delete id }

/-- Insert a call's sender half into the map of its kind. -/
def enroll
    (entry : Entry) (call : Call) (id : String) (tx : ReqId) (now : Nat) :
    Entry :=
  match call with
  | .ping _ => { entry with pending := entry.pending.put id (now, tx) }
  | .query _ _ =>
      { entry with pendingQueries := entry.pendingQueries.put id tx }
  | .prompt session _ _ =>
      { entry with
        pendingPrompts := entry.pendingPrompts.put id (session, tx) }
  | .interrupt _ =>
      { entry with
        pendingInterrupts := entry.pendingInterrupts.put id tx }
  | .answer _ _ =>
      { entry with pendingAnswers := entry.pendingAnswers.put id tx }

/-- Every sender half the entry owns. -/
def senders (entry : Entry) : List ReqId :=
  entry.pending.values.map Prod.snd ++ entry.pendingQueries.values ++
    entry.pendingPrompts.values.map Prod.snd ++
    entry.pendingInterrupts.values ++ entry.pendingAnswers.values

@[simp]
theorem tx?_new
    (hostname clientId : String) (outTx : ConnId)
    (kind : Kind) (id : String) :
    (new hostname clientId outTx).tx? kind id = none := by
  cases kind <;> simp [new, tx?]

@[simp]
theorem outTx_forget (entry : Entry) (kind : Kind) (id : String) :
    (entry.forget kind id).outTx = entry.outTx := by
  cases kind <;> rfl

@[simp]
theorem outTx_enroll
    (entry : Entry) (call : Call) (id : String) (tx : ReqId) (now : Nat) :
    (entry.enroll call id tx now).outTx = entry.outTx := by
  cases call <;> rfl

theorem tx?_forget
    (entry : Entry) (kind kind' : Kind) (id id' : String) :
    (entry.forget kind id).tx? kind' id' =
      if kind' = kind ∧ id' = id then none else entry.tx? kind' id' := by
  cases kind <;> cases kind' <;>
    simp [tx?, forget, FiniteMap.get?_delete] <;> split <;> simp_all

theorem tx?_enroll
    (entry : Entry) (call : Call) (id id' : String) (tx : ReqId) (now : Nat)
    (kind' : Kind) :
    (entry.enroll call id tx now).tx? kind' id' =
      if kind' = call.kind ∧ id' = id then some tx
      else entry.tx? kind' id' := by
  cases call <;> cases kind' <;>
    simp [tx?, enroll, Call.kind, FiniteMap.get?_put] <;> split <;> simp_all

/-- The owned sender halves are those found under some kind and id. -/
theorem mem_senders {entry : Entry} {tx : ReqId} :
    tx ∈ entry.senders ↔ ∃ kind id, entry.tx? kind id = some tx := by
  simp only [senders, List.mem_append, List.mem_map,
    FiniteMap.mem_values]
  constructor
  · rintro ((((⟨slot, ⟨id, stored⟩, rfl⟩ | ⟨id, stored⟩) |
      ⟨slot, ⟨id, stored⟩, rfl⟩) | ⟨id, stored⟩) | ⟨id, stored⟩)
    · exact ⟨.ping, id, by simp [tx?, stored]⟩
    · exact ⟨.query, id, stored⟩
    · exact ⟨.prompt, id, by simp [tx?, stored]⟩
    · exact ⟨.interrupt, id, stored⟩
    · exact ⟨.answer, id, stored⟩
  · rintro ⟨kind, id, stored⟩
    cases kind with
    | ping =>
        obtain ⟨slot, found, rfl⟩ := Option.map_eq_some_iff.mp stored
        exact .inl (.inl (.inl (.inl ⟨slot, ⟨id, found⟩, rfl⟩)))
    | query => exact .inl (.inl (.inl (.inr ⟨id, stored⟩)))
    | prompt =>
        obtain ⟨slot, found, rfl⟩ := Option.map_eq_some_iff.mp stored
        exact .inl (.inl (.inr ⟨slot, ⟨id, found⟩, rfl⟩))
    | interrupt => exact .inl (.inr ⟨id, stored⟩)
    | answer => exact .inr ⟨id, stored⟩

end Entry

/-- The table of live connections, keyed by token id. -/
structure Registry where
  entries : FiniteMap String Entry

namespace Registry

def new : Registry where
  entries := ∅

def get? (registry : Registry) (tokenId : String) : Option Entry :=
  registry.entries.get? tokenId

/-- Write an entry back under its key. -/
def setEntry
    (registry : Registry) (tokenId : String) (entry : Entry) : Registry where
  entries := registry.entries.put tokenId entry

/-- Dropping an entry drops every sender half it owns. -/
def dropSignals : Option Entry → Signals
  | none => []
  | some entry => entry.senders.map fun tx => (tx, .drop)

/-- `Registry::insert`: register a connection and hand back the entry it
replaces. -/
def insert
    (registry : Registry) (tokenId clientId hostname : String)
    (outTx : ConnId) : Registry × Option Entry :=
  (registry.setEntry tokenId (.new hostname clientId outTx),
    registry.get? tokenId)

/-- The notice `Registry::insert` sends to the connection it supersedes. -/
def supersededNotice : Envelope :=
  errorWithMessage codeSessionSuperseded
    "a new connection authenticated for this token; closing" "" "server"

def setHostname
    (registry : Registry) (tokenId hostname : String) : Registry where
  entries := registry.entries.modify tokenId fun entry =>
    { entry with hostname := hostname }

/-- `Registry::remove`: take the entry of a token out and hand it back. -/
def remove
    (registry : Registry) (tokenId : String) : Registry × Option Entry :=
  ({ entries := registry.entries.delete tokenId }, registry.get? tokenId)

/-- The common body of the `oneshot` resolvers: take the slot out of its map and
send; the sender half is consumed by the send. -/
def resolveOnce
    (registry : Registry) (kind : Kind) (tokenId id : String)
    (event : Event) : Registry × Signals :=
  match registry.get? tokenId with
  | none => (registry, [])
  | some entry =>
      match entry.tx? kind id with
      | none => (registry, [])
      | some tx =>
          (registry.setEntry tokenId (entry.forget kind id),
            [(tx, .send event), (tx, .drop)])

/-- `resolve_pong`: the elapsed time is read off the slot. -/
def resolvePong
    (registry : Registry) (tokenId replyTo : String) (now : Nat) :
    Registry × Signals :=
  match (registry.get? tokenId).bind (·.pending.get? replyTo) with
  | none => (registry, [])
  | some (sentAt, _) =>
      registry.resolveOnce .ping tokenId replyTo (.pong (now - sentAt))

def resolveQueryOk
    (registry : Registry) (tokenId replyTo : String) (body : QueryOkBody) :
    Registry × Signals :=
  registry.resolveOnce .query tokenId replyTo (.queryOk body)

def resolveQueryErr
    (registry : Registry) (tokenId replyTo : String) (body : ErrorBody) :
    Registry × Signals :=
  registry.resolveOnce .query tokenId replyTo (.queryErr body)

def resolveInterruptAck
    (registry : Registry) (tokenId ofId : String) : Registry × Signals :=
  registry.resolveOnce .interrupt tokenId ofId .interruptAck

def resolveAnswerAck
    (registry : Registry) (tokenId ofId : String) : Registry × Signals :=
  registry.resolveOnce .answer tokenId ofId .answerAck

def resolveAnswerErr
    (registry : Registry) (tokenId replyTo : String) (body : ErrorBody) :
    Registry × Signals :=
  registry.resolveOnce .answer tokenId replyTo (.answerErr body)

/-- The common body of the prompt resolvers: the slot stays, the event goes to
its sender half. -/
def notifyPrompt
    (registry : Registry) (tokenId id : String) (event : Event) : Signals :=
  match registry.get? tokenId with
  | none => []
  | some entry =>
      match entry.pendingPrompts.get? id with
      | none => []
      | some (_, tx) => [(tx, .send event)]

def resolveReply
    (registry : Registry) (tokenId replyTo : String) (body : ReplyBody) :
    Signals :=
  registry.notifyPrompt tokenId replyTo (.reply body)

def resolvePromptErr
    (registry : Registry) (tokenId replyTo : String) (body : ErrorBody) :
    Signals :=
  registry.notifyPrompt tokenId replyTo (.promptErr body)

/-- Wake every pending prompt of the session in the token's entry. -/
def cancelPendingPromptsForSession
    (registry : Registry) (tokenId session : String) : Signals :=
  match registry.get? tokenId with
  | none => []
  | some entry =>
      (entry.pendingPrompts.values.filter fun slot =>
        slot.1 = session).map fun slot => (slot.2, .send .cancelled)

/-- The common body of the five forget functions: the removed sender half is
dropped. -/
def forgetSlot
    (registry : Registry) (kind : Kind) (tokenId id : String) :
    Registry × Signals :=
  match registry.get? tokenId with
  | none => (registry, [])
  | some entry =>
      (registry.setEntry tokenId (entry.forget kind id),
        (entry.tx? kind id).toList.map fun tx => (tx, .drop))

def forgetPending (registry : Registry) : String → String → Registry × Signals :=
  registry.forgetSlot .ping

def forgetPendingQuery
    (registry : Registry) : String → String → Registry × Signals :=
  registry.forgetSlot .query

def forgetPendingPrompt
    (registry : Registry) : String → String → Registry × Signals :=
  registry.forgetSlot .prompt

def forgetPendingInterrupt
    (registry : Registry) : String → String → Registry × Signals :=
  registry.forgetSlot .interrupt

def forgetPendingAnswer
    (registry : Registry) : String → String → Registry × Signals :=
  registry.forgetSlot .answer

/-- The second lock section of a request function: look the token up again and
insert the sender half; a slot already stored under the id is dropped. -/
def enroll
    (registry : Registry) (tokenId id : String) (call : Call) (tx : ReqId)
    (now : Nat) : Option (ConnId × Registry × Signals) :=
  (registry.get? tokenId).map fun entry =>
    (entry.outTx,
      registry.setEntry tokenId (entry.enroll call id tx now),
      (entry.tx? call.kind id).toList.map fun old => (old, .drop))

@[simp]
theorem get?_new (tokenId : String) : new.get? tokenId = none := by
  simp [new, get?]

theorem get?_setEntry
    (registry : Registry) (tokenId tokenId' : String) (entry : Entry) :
    (registry.setEntry tokenId entry).get? tokenId' =
      if tokenId' = tokenId then some entry
      else registry.get? tokenId' :=
  registry.entries.get?_put tokenId tokenId' entry

theorem get?_remove (registry : Registry) (tokenId tokenId' : String) :
    (registry.remove tokenId).1.get? tokenId' =
      if tokenId' = tokenId then none else registry.get? tokenId' :=
  registry.entries.get?_delete tokenId tokenId'

theorem get?_setHostname
    (registry : Registry) (tokenId hostname tokenId' : String) :
    (registry.setHostname tokenId hostname).get? tokenId' =
      if tokenId' = tokenId then
        (registry.get? tokenId).map fun entry =>
          { entry with hostname := hostname }
      else registry.get? tokenId' :=
  registry.entries.get?_modify tokenId tokenId' _

/-- No slot is left where one was forgotten. -/
theorem tx?_forgetSlot
    {registry : Registry} {kind : Kind} {tokenId id : String}
    {entry : Entry}
    (stored :
      (registry.forgetSlot kind tokenId id).1.get? tokenId = some entry) :
    entry.tx? kind id = none := by
  unfold forgetSlot at stored
  split at stored
  next absent =>
    rw [absent] at stored
    cases stored
  next previous present =>
    rw [get?_setEntry, if_pos rfl] at stored
    cases stored
    rw [Entry.tx?_forget, if_pos ⟨rfl, rfl⟩]

theorem mem_dropSignals
    {dropped : Option Entry} {tx : ReqId} {signal : Signal Event} :
    (tx, signal) ∈ dropSignals dropped ↔
      signal = .drop ∧ ∃ entry kind id,
        dropped = some entry ∧ entry.tx? kind id = some tx := by
  cases dropped with
  | none => simp [dropSignals]
  | some entry =>
      simp only [dropSignals, List.mem_map, Prod.mk.injEq,
        Entry.mem_senders]
      constructor
      · rintro ⟨owned, ⟨kind, id, stored⟩, rfl, rfl⟩
        exact ⟨rfl, entry, kind, id, rfl, stored⟩
      · rintro ⟨rfl, owner, kind, id, same, stored⟩
        cases same
        exact ⟨tx, ⟨kind, id, stored⟩, rfl, rfl⟩

end Registry

end HollerServer.Wire
