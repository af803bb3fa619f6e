import Mathlib.Logic.Basic

/-!
# Holler protocol v1: envelopes and bodies

The data types of `src/proto/mod.rs`: one envelope per WebSocket text frame,
one body per message type.  An opaque JSON value is kept as a tree whose
objects are ordered key lists.  The envelope field `from` is called `sender`,
the prompt field `meta` is called `metadata`.
-/

namespace HollerServer.Proto

/-- A JSON value as `serde_json::Value` holds it.  A number that is not an
integer keeps its literal. -/
inductive Value where
  | null
  | bool (value : Bool)
  | int (value : Int)
  | float (literal : String)
  | string (value : String)
  | array (items : List Value)
  | object (fields : List (String × Value))
  deriving Repr

inductive Role where
  | client
  | server
  deriving DecidableEq, Repr

inductive MessageType where
  | join
  | joinOk
  | auth
  | hello
  | query
  | queryOk
  | prompt
  | reply
  | interrupt
  | answer
  | presence
  | sessionBlocked
  | ping
  | pong
  | ack
  | error
  deriving DecidableEq, Repr

structure JoinBody where
  secret : String
  hostname : String
  deriving DecidableEq, Repr

structure JoinOkBody where
  clientId : String
  credential : String
  deriving DecidableEq, Repr

structure AuthBody where
  credential : Value
  deriving Repr

structure HelloSession where
  name : String
  harness : String
  deriving DecidableEq, Repr

structure HelloBody where
  protocol : UInt32
  protocolMin : UInt32
  protocolMax : UInt32
  role : Role
  hostname : String
  tokenId : Option String
  clientId : Option String
  harnesses : List String
  harnessesKnown : List String
  harnessesConfirmed : List String
  features : List String
  sessions : List HelloSession
  deriving DecidableEq, Repr

structure QueryBody where
  cmd : String
  args : List String
  deriving DecidableEq, Repr

structure QueryOkBody where
  cmd : String
  rest : Value
  deriving Repr

structure PromptBody where
  session : String
  text : String
  metadata : Option Value
  deriving Repr

structure ReplyBody where
  session : String
  text : Option String
  chunks : List String
  done : Bool
  exit : Option Int64
  deriving DecidableEq, Repr

structure InterruptBody where
  session : String
  deriving DecidableEq, Repr

structure AnswerBody where
  session : String
  choice : String
  deriving DecidableEq, Repr

structure PresenceBody where
  sessions : List Value
  deriving Repr

structure SessionBlockedBody where
  session : String
  blocked : Bool
  deriving DecidableEq, Repr

structure PingBody where
  hostname : Option String
  deriving DecidableEq, Repr

structure PongBody where
  hostname : Option String
  deriving DecidableEq, Repr

structure AckBody where
  of : Option String
  deriving DecidableEq, Repr

structure ErrorBody where
  code : String
  cmd : Option String
  message : Option String
  deriving DecidableEq, Repr

/-- One body variant per message type. -/
inductive Body where
  | join (body : JoinBody)
  | joinOk (body : JoinOkBody)
  | auth (body : AuthBody)
  | hello (body : HelloBody)
  | query (body : QueryBody)
  | queryOk (body : QueryOkBody)
  | prompt (body : PromptBody)
  | reply (body : ReplyBody)
  | interrupt (body : InterruptBody)
  | answer (body : AnswerBody)
  | presence (body : PresenceBody)
  | sessionBlocked (body : SessionBlockedBody)
  | ping (body : PingBody)
  | pong (body : PongBody)
  | ack (body : AckBody)
  | error (body : ErrorBody)
  deriving Repr

/-- One WebSocket text frame. -/
structure Envelope where
  v : UInt32
  msgType : MessageType
  id : String
  ts : String
  sender : String
  body : Body
  deriving Repr

def codeUnsupportedVersion : String := "unsupported_version"

def codeUnknownType : String := "unknown_type"

def codeUnauthenticated : String := "unauthenticated"

def codeUnknownCmd : String := "unknown_cmd"

def codeUnknownFeature : String := "unknown_feature"

def codeUnknownSession : String := "unknown_session"

def codeJoinFailed : String := "join_failed"

def codeSessionSuperseded : String := "session_superseded"

/-- The error envelope constructor; its timestamp is a constant of the source. -/
def newErrorEnvelope
    (code : String) (cmd : Option String) (message : Option String)
    (replyId sender : String) : Envelope where
  v := 1
  msgType := .error
  id := replyId
  ts := "1970-01-01T00:00:00Z"
  sender := sender
  body := .error { code, cmd, message }

def errorForUnknownType
    (unknownType replyId sender : String) : Envelope :=
  newErrorEnvelope codeUnknownType none
    (some ("unknown type: " ++ unknownType)) replyId sender

def errorFor (code replyId sender : String) : Envelope :=
  newErrorEnvelope code none none replyId sender

def errorForUnknownCmd (cmd replyId sender : String) : Envelope :=
  newErrorEnvelope codeUnknownCmd (some cmd)
    (some ("unknown query cmd: " ++ cmd)) replyId sender

def errorWithMessage
    (code message replyId sender : String) : Envelope :=
  newErrorEnvelope code none (some message) replyId sender

end HollerServer.Proto
