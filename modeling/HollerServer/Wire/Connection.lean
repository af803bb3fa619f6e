import HollerServer.Token.Store
import HollerServer.Wire.Live
import HollerServer.Wire.Lockout
import HollerServer.Wire.Presence
import HollerServer.Wire.Query
import HollerServer.Wire.TalkLog

/-!
# One connection, from its first frame to its end

`src/wire/connection.rs` as a function: what one `handle_connection` task does to
the tables of the server, and what it writes, given the messages of its peer and
the answers of its environment (clocks, random bytes, which writes fail, in which
order the session loop takes frames and outbound envelopes).  The text of an
envelope is kept as the envelope itself.
-/

namespace HollerServer.Wire

open HollerServer.Proto
open HollerServer.Token

/-- The tables a connection task shares with the rest of the server. -/
structure Context where
  file : File
  registry : Registry
  confirmed : ConfirmedHarnesses
  roster : Roster
  talkLog : TalkLog
  lockout : LockoutTracker

/-- What does not change while the server runs: the crates it is built with and
its own description. -/
structure Settings where
  serde : SerdeJson
  talkJson : TalkJson
  crates : Crates
  pepper : List UInt8
  quoted : String → String
  serverHostname : String
  listening : List String

/-- A WebSocket message. -/
inductive Message where
  | text (text : String)
  | binary
  | ping (payload : List UInt8)
  | pong
  | close
  | frame
  deriving DecidableEq, Repr

/-- An item of the inbound stream; the end of the list is the end of the
stream. -/
inductive Incoming where
  | message (message : Message)
  | failed
  deriving DecidableEq, Repr

/-- A message the task writes. -/
inductive Written where
  | text (envelope : Envelope)
  | pong (payload : List UInt8)
  | close
  deriving Repr

def Written.isText : Written → Bool
  | .text _ => true
  | .pong _ | .close => false

/-- `next_text_frame`: the next text message and what comes after it. -/
def nextTextFrame : List Incoming → Option (String × List Incoming)
  | .message (.text text) :: rest => some (text, rest)
  | .message (.ping _) :: rest => nextTextFrame rest
  | .message .pong :: rest => nextTextFrame rest
  | _ => none

def decodeErrorEnvelope : DecodeError → Envelope
  | .unsupportedVersion v =>
      errorWithMessage codeUnsupportedVersion
        ("unsupported protocol version " ++ toString v) "" "server"
  | .unknownType =>
      errorWithMessage codeUnknownType "unknown message type" "" "server"
  | .malformed message =>
      errorWithMessage codeUnknownType ("malformed frame: " ++ message) ""
        "server"

/-- The text of a store error; `detail` is the text of the error of a crate
behind it. -/
def tokenErrorText (quoted : String → String) (detail : String) :
    TokenError → String
  | .pepperMissing =>
      "HOLLER_SERVER_PEPPER is not set; refusing to mint a token without a server pepper"
  | .invalidTtl ttl =>
      "invalid --ttl " ++ quoted ttl ++ " (expected e.g. 30m, 24h, 7d)"
  | .notFound tokenId => "no such token: " ++ tokenId
  | .unbound tokenId =>
      "token " ++ tokenId ++ " has not been redeemed; nothing to ping"
  | .disconnected tokenId =>
      "token " ++ tokenId ++ " is bound but not connected"
  | .wrongSecret tokenId => "wrong secret for token " ++ tokenId
  | .wrongCredential tokenId => "wrong credential for token " ++ tokenId
  | .alreadyBound tokenId =>
      "token " ++ tokenId ++ " was already redeemed and is bound to a client"
  | .invalidated tokenId =>
      "token " ++ tokenId ++ " was invalidated and cannot be redeemed"
  | .revoked tokenId =>
      "token " ++ tokenId ++ " was revoked and cannot be redeemed"
  | .stale tokenId =>
      "token " ++ tokenId ++ "'s secret has expired and cannot be redeemed"
  | .io message => "token store I/O error: " ++ message
  | .serde => "token store is corrupt: " ++ detail
  | .rng => "failed to generate randomness: " ++ detail
  | .time message => "time error: " ++ message

def Registry.len (registry : Registry) : Nat :=
  registry.entries.values.length

/-- Carry out the registry calls of a frame; `clock index` is the clock reading
of call number `index`. -/
def Registry.performAll
    (tokenId : String) (clock : Nat → Nat) :
    Nat → List Resolution → Registry → Registry × Signals
  | _, [], registry => (registry, [])
  | index, resolution :: rest, registry =>
      let (performed, signals) :=
        registry.perform tokenId (clock index) resolution
      let (final, later) :=
        performAll tokenId clock (index + 1) rest performed
      (final, signals ++ later)

/-- What `handle_frame` leaves. -/
structure Handled where
  context : Context
  signals : Signals
  written : List Written
  proceed : Bool

namespace Context

variable (settings : Settings) (context : Context)

/-- The direct answer to a query of the client. -/
def queryReply
    (envelope : Envelope) (body : QueryBody) (now : Nat) : Envelope :=
  let dispatched :=
    dispatch settings.quoted body.cmd body.args settings.serverHostname
      settings.listening context.registry.len
      (context.roster.liveCount now)
      (confirmedHarnessesSnapshot context.confirmed)
  match dispatched with
  | .ok body =>
      { v := 1
        msgType := .queryOk
        id := envelope.id
        ts := envelope.ts
        sender := "server"
        body := .queryOk body }
  | .error body =>
      { v := 1
        msgType := .error
        id := envelope.id
        ts := envelope.ts
        sender := "server"
        body := .error body }

/-- What `handle_frame` writes for a decoded frame. -/
def answers
    (envelope : Envelope) (now : Nat) (ts : String) : List Written :=
  match envelope.body with
  | .query body => [.text (context.queryReply settings envelope body now)]
  | .ping _ =>
      [.text (newPongEnvelope envelope.id settings.serverHostname ts)]
  | _ => []

/-- `handle_frame`.  The calls on the roster, on the talk log and on the registry
come in this order, where a frame has more than one kind of them. -/
def handleFrame
    (tokenId clientId raw : String) (clock : Nat → Nat) (ts : String) :
    Handled :=
  match decode settings.serde raw with
  | .error error =>
      { context
        signals := []
        written := [.text (decodeErrorEnvelope error)]
        proceed := false }
  | .ok envelope =>
      let roster :=
        Roster.performAll tokenId clientId clock 0 (rosterChores envelope)
          context.roster
      let talkLog :=
        match envelope.body with
        | .reply body =>
            context.talkLog.recordReply settings.talkJson ts envelope.id
              body.session body
        | _ => context.talkLog
      let (registry, signals) :=
        Registry.performAll tokenId clock 0 (Wire.handleFrame envelope)
          context.registry
      { context := { context with roster, talkLog, registry }
        signals
        written := context.answers settings envelope (clock 0) ts
        proceed := true }

end Context

/-- The next choice of the session loop: it takes the next inbound item, or the
next outbound envelope, whose write may fail; without an envelope its outbound
channel is closed. -/
inductive Pick where
  | incoming (clock : Nat → Nat) (ts : String)
  | outgoing (envelope : Option Envelope) (accepted : Bool)

/-- How far the session loop got: `ended` is `certain_close` once it is over. -/
structure SessionRun where
  context : Context
  signals : Signals := []
  written : List Written := []
  ended : Option Bool := none

/-- Put what happened before in front. -/
def SessionRun.after
    (run : SessionRun) (signals : Signals) (written : List Written) :
    SessionRun :=
  { run with
    signals := signals ++ run.signals
    written := written ++ run.written }

/-- The notice to a client that sends a binary message. -/
def binaryNotice : Envelope :=
  errorWithMessage codeUnknownType
    "binary frames are not part of Holler v1" "" "server"

/-- The session loop. -/
def sessionLoop
    (settings : Settings) (tokenId clientId : String) :
    List Pick → List Incoming → Context → SessionRun
  | [], _, context => { context }
  | .outgoing none _ :: _, _, context => { context, ended := some false }
  | .outgoing (some envelope) accepted :: picks, incoming, context =>
      if accepted then
        (sessionLoop settings tokenId clientId picks incoming
          context).after [] [.text envelope]
      else { context, ended := some false }
  | .incoming clock ts :: picks, incoming, context =>
      match incoming with
      | .message (.text raw) :: rest =>
          let handled :=
            context.handleFrame settings tokenId clientId raw clock ts
          if handled.proceed then
            (sessionLoop settings tokenId clientId picks rest
              handled.context).after handled.signals handled.written
          else
            { context := handled.context
              signals := handled.signals
              written := handled.written
              ended := some false }
      | .message (.ping payload) :: rest =>
          (sessionLoop settings tokenId clientId picks rest
            context).after [] [.pong payload]
      | .message .pong :: rest =>
          sessionLoop settings tokenId clientId picks rest context
      | .message .close :: _ | [] => { context, ended := some true }
      | .message .binary :: _ | .message .frame :: _ =>
          { context
            written := [.text binaryNotice]
            ended := some false }
      | .failed :: _ => { context, ended := some false }

/-- What a connection task finds in its environment. -/
structure Environment where
  peer : IpAddr
  acceptedAt : Nat
  handshake : Bool
  firstFrameInTime : Bool
  failedAt : Nat
  now : Instant
  clientDraw : Draw 16
  credentialDraw : Draw 32
  detail : String
  conn : ConnId
  helloId : String
  helloTs : String
  helloWritten : Bool
  picks : List Pick

/-- How far a connection task got.  `verified` is what `verify_credential`
returned, if it was called and succeeded; `notices` are the envelopes put on the
channels of other connections. -/
structure ConnectionRun where
  context : Context
  signals : Signals := []
  written : List Written := []
  notices : List (ConnId × Envelope) := []
  verified : Option VerifiedClient := none
  returned : Bool := true

namespace Context

variable (settings : Settings) (environment : Environment)
  (context : Context)

/-- A failed attempt of the peer is counted. -/
def recordFailure : Context :=
  { context with
    lockout :=
      (context.lockout.recordFailure environment.failedAt
        environment.peer).2 }

/-- `handle_join`: the connection is closed whatever comes of it. -/
def handleJoin (envelope : Envelope) (secret hostname : String) :
    ConnectionRun :=
  let redeem :=
    Mutation.redeem environment.now environment.clientDraw
      environment.credentialDraw envelope.sender secret hostname
  match redeem.exec settings.crates settings.pepper context.file with
  | (.ok (.redeemed result), file) =>
      { context := { context with file }
        written :=
          [.text
            { v := 1
              msgType := .joinOk
              id := envelope.id
              ts := envelope.ts
              sender := "server"
              body := .joinOk
                { clientId := result.clientId
                  credential := result.credential } },
            .close] }
  | (.err error, file) =>
      { context :=
          { context with file }.recordFailure environment
        written :=
          [.text
            (errorWithMessage codeJoinFailed
              (tokenErrorText settings.quoted environment.detail error)
              envelope.id "server"),
            .close] }
  -- a panic takes the task down; a redeem has no other answer
  | (_, file) => { context := { context with file } }

/-- The task from its registration on. -/
def serve (client : VerifiedClient) (incoming : List Incoming) :
    ConnectionRun :=
  let (registry, previous) :=
    context.registry.insert client.tokenId client.clientId client.machine
      environment.conn
  let registered : ConnectionRun :=
    { context := { context with registry }
      signals := Registry.dropSignals previous
      notices :=
        previous.toList.map fun entry =>
          (entry.outTx, Registry.supersededNotice)
      verified := some client }
  let teardown (run : SessionRun) (certainClose : Bool) : ConnectionRun :=
    let (registry, removed) := run.context.registry.remove client.tokenId
    { registered with
      context :=
        { run.context with
          registry
          roster :=
            if certainClose then run.context.roster.markGone client.tokenId
            else run.context.roster }
      signals :=
        registered.signals ++ run.signals ++ Registry.dropSignals removed
      written := run.written }
  if environment.helloWritten then
    let run :=
      (sessionLoop settings client.tokenId client.clientId
        environment.picks incoming registered.context).after []
        [.text
          (serverHello environment.helloId settings.serverHostname
            environment.helloTs)]
    match run.ended with
    | some certainClose => teardown run certainClose
    | none =>
        { registered with
          context := run.context
          signals := registered.signals ++ run.signals
          written := run.written
          returned := false }
  else teardown { context := registered.context } false

/-- The check of a credential. -/
def handleAuth
    (envelope : Envelope) (credential : String) (rest : List Incoming) :
    ConnectionRun :=
  let verify :=
    Mutation.verifyCredential environment.now envelope.sender credential
  match verify.exec settings.crates settings.pepper context.file with
  | (.ok (.verified client), file) =>
      { context with file }.serve settings environment client rest
  | (.err _, file) =>
      { context :=
          { context with file }.recordFailure environment
        written :=
          [.text
            (errorWithMessage codeUnauthenticated "authentication failed"
              envelope.id "server")] }
  | (_, file) => { context := { context with file } }

/-- The first frame. -/
def handleFirst (raw : String) (rest : List Incoming) : ConnectionRun :=
  match decode settings.serde raw with
  | .error error =>
      { context, written := [.text (decodeErrorEnvelope error)] }
  | .ok envelope =>
      match envelope.body with
      | .join body =>
          context.handleJoin settings environment envelope body.secret
            body.hostname
      | .auth body =>
          match body.credential.asStr with
          | some credential =>
              context.handleAuth settings environment envelope credential
                rest
          | none =>
              { context
                written :=
                  [.text
                    (errorWithMessage codeUnauthenticated
                      "auth credential must be a string" envelope.id
                      "server")] }
      | _ =>
          { context
            written :=
              [.text
                (errorWithMessage codeUnauthenticated
                  "first frame must be `auth` or `join`" envelope.id
                  "server")] }

/-- `handle_connection`. -/
def handleConnection (incoming : List Incoming) : ConnectionRun :=
  let (locked, lockout) :=
    context.lockout.isLockedOut environment.acceptedAt environment.peer
  let context := { context with lockout }
  if locked then { context }
  else if !environment.handshake then { context }
  else if !environment.firstFrameInTime then { context }
  else
    match nextTextFrame incoming with
    | none => { context }
    | some (raw, rest) =>
        context.handleFirst settings environment raw rest

end Context

end HollerServer.Wire
