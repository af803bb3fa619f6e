import HollerServer.Lib.Transition
import HollerServer.Wire.Registry

/-!
# Connection tasks and request calls over one registry

The machine interleaves any number of `handle_connection` tasks, any number of
calls of the five request functions of the registry, and revoke requests of the
control channel.  One action is one critical section of the registry, one
operation on a channel, or one decision of the environment (a frame arrives, a
write fails, a timer fires).  `Registry::insert` sends its notice and drops the
entry it replaced right after its section; nobody else can reach that entry any
more, so all three are one action.

A connection task enters the machine when its credential has been verified.
The frames it receives, the envelopes put on its outbound channel and the entry
a request registered in are kept for ever; the code only reads the parts that
its own position gives it access to.
-/

namespace HollerServer.Wire

open HollerServer.Proto
open Transition

/-- One call `handle_frame` makes on the registry. -/
inductive Resolution where
  | setHostname (hostname : String)
  | pong (replyTo : String)
  | queryOk (replyTo : String) (body : QueryOkBody)
  | queryErr (replyTo : String) (body : ErrorBody)
  | reply (replyTo : String) (body : ReplyBody)
  | promptErr (replyTo : String) (body : ErrorBody)
  | answerErr (replyTo : String) (body : ErrorBody)
  | interruptAck (ofId : String)
  | answerAck (ofId : String)
  deriving Repr

/-- The registry calls `handle_frame` makes for a decoded frame, in order.  The
other bodies touch the roster or the socket only. -/
def handleFrame (envelope : Envelope) : List Resolution :=
  match envelope.body with
  | .hello body => [.setHostname body.hostname]
  | .queryOk body => [.queryOk envelope.id body]
  | .pong _ => [.pong envelope.id]
  | .error body =>
      [.queryErr envelope.id body, .promptErr envelope.id body,
        .answerErr envelope.id body]
  | .reply body => [.reply envelope.id body]
  | .ack body =>
      match body.of with
      | some ofId => [.interruptAck ofId, .answerAck ofId]
      | none => []
  | .query _ | .ping _ | .auth _ | .join _ | .joinOk _ | .presence _
  | .sessionBlocked _ | .prompt _ | .interrupt _ | .answer _ => []

/-- Carry out one registry call on behalf of a connection authenticated as
`tokenId`. -/
def Registry.perform
    (registry : Registry) (tokenId : String) (now : Nat) :
    Resolution → Registry × Signals
  | .setHostname hostname => (registry.setHostname tokenId hostname, [])
  | .pong replyTo => registry.resolvePong tokenId replyTo now
  | .queryOk replyTo body => registry.resolveQueryOk tokenId replyTo body
  | .queryErr replyTo body => registry.resolveQueryErr tokenId replyTo body
  | .reply replyTo body =>
      (registry, registry.resolveReply tokenId replyTo body)
  | .promptErr replyTo body =>
      (registry, registry.resolvePromptErr tokenId replyTo body)
  | .answerErr replyTo body =>
      registry.resolveAnswerErr tokenId replyTo body
  | .interruptAck ofId => registry.resolveInterruptAck tokenId ofId
  | .answerAck ofId => registry.resolveAnswerAck tokenId ofId

/-- The forget function each request function calls. -/
def Registry.forgetFor
    (registry : Registry) : Kind → String → String → Registry × Signals
  | .ping => registry.forgetPending
  | .query => registry.forgetPendingQuery
  | .prompt => registry.forgetPendingPrompt
  | .interrupt => registry.forgetPendingInterrupt
  | .answer => registry.forgetPendingAnswer

/-- Where a connection task stands after its credential was verified. -/
inductive Phase where
  | verified
  | greeting
  | session (todo : List Resolution)
  | closing (certainClose : Bool)
  | removed (certainClose : Bool)
  | returned
  deriving Repr

/-- An item of an outbound channel, with the request that put it there. -/
structure Outgoing where
  envelope : Envelope
  request : Option ReqId
  deriving Repr

/-- A `handle_connection` task. -/
structure Conn where
  tokenId : String
  clientId : String
  machine : String
  phase : Phase
  received : List Envelope := []
  enqueued : List Outgoing := []
  written : Nat := 0

namespace Conn

/-- The task still owns the receiving half of its outbound channel. -/
def receiving (conn : Conn) : Bool :=
  match conn.phase with
  | .returned => false
  | _ => true

/-- `out_tx.send`: without effect once the receiver is gone. -/
def enqueue (conn : Conn) (item : Outgoing) : Conn :=
  if conn.receiving then
    { conn with enqueued := conn.enqueued ++ [item] }
  else conn

end Conn

/-- Where a request call stands. -/
inductive Pc where
  | start
  | cloned (outTx : ConnId) (hostname : String)
  | enrolled (outTx : ConnId) (hostname : String)
  | waiting (outTx : ConnId) (hostname : String) (pieces : List String)
  | forgetting (outTx : ConnId) (outcome : Option Outcome)
  | checking (outTx : ConnId)
  | cancelling (outTx : ConnId)
  | returned (outcome : Outcome)
  deriving Repr

/-- The outbound sender half the call holds in a local variable. -/
def Pc.outTx? : Pc → Option ConnId
  | .start => none
  | .cloned outTx _ => some outTx
  | .enrolled outTx _ => some outTx
  | .waiting outTx _ _ => some outTx
  | .forgetting outTx _ => some outTx
  | .checking outTx => some outTx
  | .cancelling outTx => some outTx
  | .returned _ => none

/-- A call of a request function. -/
structure Request where
  tokenId : String
  id : String
  call : Call
  pc : Pc := .start
  chan : Channel Event := {}
  enrolledIn : Option ConnId := none

/-- What a call does with the next message on its channel. -/
def onEvent
    (outTx : ConnId) (hostname : String) (pieces : List String) :
    Kind → Event → Option Pc
  | .ping, .pong elapsed =>
      some (.returned
        (.ping (.connected hostname (elapsed / 1000000 % UInt64.size))))
  | .query, .queryOk body => some (.returned (.query (.ok body)))
  | .query, .queryErr body => some (.returned (.query (.err body)))
  | .prompt, .reply body =>
      let pieces := pieces ++ body.text.toList ++ body.chunks
      if body.done then
        some (.forgetting outTx
          (some (.prompt (.done (String.join pieces) body.exit))))
      else some (.waiting outTx hostname pieces)
  | .prompt, .promptErr body =>
      some (.forgetting outTx (some (.prompt (.err body))))
  | .prompt, .cancelled =>
      some (.forgetting outTx (some (.prompt .cancelled)))
  | .interrupt, .interruptAck => some (.cancelling outTx)
  | .answer, .answerAck => some (.returned (.answer .acked))
  | .answer, .answerErr body => some (.returned (.answer (.err body)))
  | _, _ => none

/-- What a call does when its sender half is gone without a message. -/
def onEnded (outTx : ConnId) : Kind → Pc
  | .ping => .forgetting outTx (some (.ping .disconnected))
  | .query => .forgetting outTx (some (.query .disconnected))
  | .prompt => .forgetting outTx (some (.prompt .disconnected))
  | .interrupt => .returned (.interrupt .disconnected)
  | .answer => .returned (.answer .disconnected)

/-- What a call does when its timer fires: the control frames look at the
registry once more after they have forgotten their slot. -/
def onTimeout (outTx : ConnId) : Kind → Pc
  | .ping => .forgetting outTx (some (.ping .disconnected))
  | .query => .forgetting outTx (some (.query .disconnected))
  | .prompt => .forgetting outTx (some (.prompt .disconnected))
  | .interrupt => .forgetting outTx none
  | .answer => .forgetting outTx none

/-- The outcome of the second look. -/
def onCheck (live : Bool) : Kind → Option Outcome
  | .interrupt =>
      some (.interrupt (if live then .timedOut else .disconnected))
  | .answer => some (.answer (if live then .timedOut else .disconnected))
  | _ => none

/-- The session whose prompts an acknowledged call wakes. -/
def Call.cancels? : Call → Option String
  | .interrupt session => some session
  | _ => none

/-- Connection tasks, request calls and the registry they share. -/
structure Live where
  now : Nat := 0
  registry : Registry := .new
  conns : FiniteMap ConnId Conn := ∅
  reqs : FiniteMap ReqId Request := ∅

/-- Carry the signals of a lock section to the request channels. -/
def deliver
    (reqs : FiniteMap ReqId Request) (signals : Signals) :
    FiniteMap ReqId Request :=
  signals.foldl
    (fun current signal =>
      current.modify signal.1 fun req =>
        { req with chan := req.chan.apply signal.2 })
    reqs

inductive Action where
  | tick (elapsed : Nat)
  | auth (conn : ConnId) (tokenId clientId machine : String)
  | register (conn : ConnId)
  | hello (conn : ConnId) (written : Bool)
  | frame (conn : ConnId) (envelope : Envelope)
  | resolve (conn : ConnId)
  | outgoing (conn : ConnId) (written : Bool)
  | outClosed (conn : ConnId)
  | stop (conn : ConnId) (certainClose : Bool)
  | teardown (conn : ConnId)
  | finish (conn : ConnId)
  | revoke (tokenId : String)
  | call (req : ReqId) (tokenId id : String) (call : Call)
  | lookup (req : ReqId)
  | enroll (req : ReqId)
  | send (req : ReqId) (ts : String)
  | recv (req : ReqId)
  | timeout (req : ReqId)
  | forget (req : ReqId)
  | check (req : ReqId)
  | cancel (req : ReqId)
  deriving Repr

namespace Live

def setConn (live : Live) (id : ConnId) (conn : Conn) : Live :=
  { live with conns := live.conns.put id conn }

def setReq (live : Live) (id : ReqId) (req : Request) : Live :=
  { live with reqs := live.reqs.put id req }

/-- The effect of a lock section. -/
def commit (live : Live) (result : Registry × Signals) : Live :=
  { live with registry := result.1, reqs := deliver live.reqs result.2 }

/-- Some sender half of the connection's outbound channel is left. -/
def hasSender (live : Live) (id : ConnId) : Bool :=
  (live.registry.entries.values.any fun entry => entry.outTx = id) ||
    live.reqs.values.any fun req => req.pc.outTx? = some id

/-- The notice to a superseded connection. -/
def notify (live : Live) : Option Entry → Live
  | none => live
  | some previous =>
      { live with
        conns := live.conns.modify previous.outTx fun superseded =>
          superseded.enqueue
            { envelope := Registry.supersededNotice, request := none } }

/-- `Registry::insert`: the entry it replaces gets the notice and is dropped. -/
def register (live : Live) (id : ConnId) (conn : Conn) : Live :=
  let (registry, previous) :=
    live.registry.insert conn.tokenId conn.clientId conn.machine id
  ((live.setConn id { conn with phase := .greeting }).notify
    previous).commit (registry, Registry.dropSignals previous)

/-- `Registry::remove` with the drop of the removed entry. -/
def removeEntry (live : Live) (tokenId : String) : Live :=
  let (registry, removed) := live.registry.remove tokenId
  live.commit (registry, Registry.dropSignals removed)

/-- One action of a connection task. -/
def connStep
    (live : Live) (id : ConnId) (conn : Conn) : Action → Option Live
  | .register _ =>
      match conn.phase with
      | .verified => some (live.register id conn)
      | _ => none
  | .hello _ written =>
      match conn.phase with
      | .greeting =>
          some <| live.setConn id
            { conn with
              phase := if written then .session [] else .closing false }
      | _ => none
  | .frame _ envelope =>
      match conn.phase with
      | .session [] =>
          some <| live.setConn id
            { conn with
              phase := .session (handleFrame envelope)
              received := conn.received ++ [envelope] }
      | _ => none
  | .resolve _ =>
      match conn.phase with
      | .session (resolution :: todo) =>
          some <|
            (live.commit
              (live.registry.perform conn.tokenId live.now resolution)).setConn
              id { conn with phase := .session todo }
      | _ => none
  | .outgoing _ written =>
      match conn.phase with
      | .session [] =>
          if conn.written < conn.enqueued.length then
            some <| live.setConn id
              { conn with
                written := conn.written + 1
                phase := if written then .session [] else .closing false }
          else none
      | _ => none
  | .outClosed _ =>
      match conn.phase with
      | .session [] =>
          if conn.enqueued.length ≤ conn.written ∧
              live.hasSender id = false then
            some <| live.setConn id { conn with phase := .closing false }
          else none
      | _ => none
  | .stop _ certainClose =>
      match conn.phase with
      | .session [] =>
          some <| live.setConn id
            { conn with phase := .closing certainClose }
      | _ => none
  | .teardown _ =>
      match conn.phase with
      | .closing certainClose =>
          some <| (live.removeEntry conn.tokenId).setConn id
            { conn with phase := .removed certainClose }
      | _ => none
  | .finish _ =>
      match conn.phase with
      | .removed _ =>
          some <| live.setConn id { conn with phase := .returned }
      | _ => none
  | _ => none

/-- One action of a request call. -/
def reqStep
    (live : Live) (id : ReqId) (req : Request) : Action → Option Live
  | .lookup _ =>
      match req.pc with
      | .start =>
          match live.registry.get? req.tokenId with
          | none =>
              some <| live.setReq id
                { req with pc := .returned req.call.kind.disconnected }
          | some entry =>
              some <| live.setReq id
                { req with pc := .cloned entry.outTx entry.hostname }
      | _ => none
  | .enroll _ =>
      match req.pc with
      | .cloned outTx hostname =>
          match live.registry.enroll req.tokenId req.id req.call id
              live.now with
          | none =>
              some <| live.setReq id
                { req with pc := .returned req.call.kind.disconnected }
          | some (owner, result) =>
              some <| (live.commit result).setReq id
                { req with
                  pc := .enrolled outTx hostname
                  enrolledIn := some owner }
      | _ => none
  | .send _ ts =>
      match req.pc with
      | .enrolled outTx hostname =>
          match live.conns.get? outTx with
          | some conn =>
              if conn.receiving then
                some <|
                  (live.setConn outTx <| conn.enqueue
                    { envelope := req.call.envelope req.id ts
                      request := some id }).setReq id
                    { req with pc := .waiting outTx hostname [] }
              else
                some <| live.setReq id
                  { req with
                    pc := .forgetting outTx
                      (some req.call.kind.disconnected) }
          | none => none
      | _ => none
  | .recv _ =>
      match req.pc with
      | .waiting outTx hostname pieces =>
          match req.chan.poll with
          | .ready event =>
              (onEvent outTx hostname pieces req.call.kind event).map
                fun pc =>
                  live.setReq id { req with pc, chan := req.chan.take }
          | .ended =>
              some <| live.setReq id
                { req with pc := onEnded outTx req.call.kind }
          | .pending => none
      | _ => none
  | .timeout _ =>
      match req.pc with
      | .waiting outTx _ _ =>
          match req.chan.poll with
          | .pending =>
              some <| live.setReq id
                { req with pc := onTimeout outTx req.call.kind }
          | _ => none
      | _ => none
  | .forget _ =>
      match req.pc with
      | .forgetting outTx outcome =>
          let live := live.commit
            (live.registry.forgetFor req.call.kind req.tokenId req.id)
          some
            { live with
              reqs := live.reqs.modify id fun current =>
                { current with
                  pc := match outcome with
                    | some outcome => .returned outcome
                    | none => .checking outTx } }
      | _ => none
  | .check _ =>
      match req.pc with
      | .checking _ =>
          (onCheck (live.registry.get? req.tokenId).isSome
              req.call.kind).map
            fun outcome => live.setReq id { req with pc := .returned outcome }
      | _ => none
  | .cancel _ =>
      match req.pc with
      | .cancelling _ =>
          req.call.cancels?.map fun session =>
            let live := live.commit
              (live.registry,
                live.registry.cancelPendingPromptsForSession
                  req.tokenId session)
            { live with
              reqs := live.reqs.modify id fun current =>
                { current with pc := .returned (.interrupt .acked) } }
      | _ => none
  | _ => none

/-- One action of the machine; `none` when it is not enabled. -/
def step (live : Live) (action : Action) : Option Live :=
  match action with
  | .tick elapsed => some { live with now := live.now + elapsed }
  | .auth id tokenId clientId machine =>
      match live.conns.get? id with
      | none =>
          some <| live.setConn id
            { tokenId, clientId, machine, phase := .verified }
      | some _ => none
  | .register id | .hello id _ | .frame id _ | .resolve id
  | .outgoing id _ | .outClosed id | .stop id _ | .teardown id
  | .finish id =>
      (live.conns.get? id).bind fun conn => live.connStep id conn action
  | .revoke tokenId => some (live.removeEntry tokenId)
  | .call id tokenId envelopeId call =>
      match live.reqs.get? id with
      | none =>
          some <| live.setReq id { tokenId, id := envelopeId, call }
      | some _ => none
  | .lookup id | .enroll id | .send id _ | .recv id | .timeout id
  | .forget id | .check id | .cancel id =>
      (live.reqs.get? id).bind fun req => live.reqStep id req action

/-- The machine of connection tasks and request calls. -/
def machine : Machine Live Action where
  init := {}
  step := step

/-- The state a run from the start ends in; the initial state when some action is
not enabled. -/
def after (actions : List Action) : Live :=
  (machine.run machine.init actions).getD machine.init

end Live

end HollerServer.Wire
