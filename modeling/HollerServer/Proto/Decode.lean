import HollerServer.Proto
import Mathlib.Algebra.Ring.Int.Defs

/-!
# Decoding of frames

`decode` of `src/proto/mod.rs`.  Two functions of serde_json are parameters: the
value of a JSON text, and the text of the error for a body that does not fit.
The bodies are read as the derived `Deserialize` reads a struct from a value: by
field name from an object, where unknown keys are ignored, or in field order
from an array that has no more items than the struct has fields.
-/

namespace HollerServer.Proto

/-- What the codec uses of serde_json. -/
structure SerdeJson where
  fromStr : String → Except String Value
  misfit : MessageType → Value → String
  /-- A text that nests as deep as this is refused. -/
  limit : Nat := 128

/-- serde_json where the texts of a table are all that is read. -/
def SerdeJson.ofTable (table : List (String × Value)) : SerdeJson where
  fromStr := fun text =>
    match table.lookup text with
    | some value => .ok value
    | none => .error "expected value at line 1 column 1"
  misfit := fun _ _ => "invalid type"

namespace Value

def asStr : Value → Option String
  | .string value => some value
  | _ => none

def asU64 : Value → Option Nat
  | .int value =>
      if 0 ≤ value ∧ value < 2 ^ 64 then some value.toNat else none
  | _ => none

end Value

section Readers

variable {α : Type}

def readString : Value → Option String :=
  Value.asStr

def readValue : Value → Option Value :=
  some

def readBool : Value → Option Bool
  | .bool value => some value
  | _ => none

def readU32 : Value → Option UInt32
  | .int value =>
      if 0 ≤ value ∧ value < 2 ^ 32 then
        some (UInt32.ofNat value.toNat)
      else none
  | _ => none

def readI64 : Value → Option Int64
  | .int value =>
      if -2 ^ 63 ≤ value ∧ value < 2 ^ 63 then some (Int64.ofInt value)
      else none
  | _ => none

def readOption (read : Value → Option α) : Value → Option (Option α)
  | .null => some none
  | value => (read value).map some

def readVec (read : Value → Option α) : Value → Option (List α)
  | .array items => items.mapM read
  | _ => none

def Role.fromWire : String → Option Role
  | "client" => some .client
  | "server" => some .server
  | _ => none

/-- A unit variant is its name, or an object that maps its name to null. -/
def readRole : Value → Option Role
  | .string name => Role.fromWire name
  | .object [(name, .null)] => Role.fromWire name
  | _ => none

/-- The fields of a struct, by name or in order. -/
inductive Fields where
  | named (fields : List (String × Value))
  | ordered (items : List Value)

namespace Fields

def find? (fields : Fields) (index : Nat) (name : String) :
    Option Value :=
  match fields with
  | .named entries => entries.lookup name
  | .ordered items => items[index]?

def required
    (fields : Fields) (index : Nat) (name : String)
    (read : Value → Option α) : Option α :=
  (fields.find? index name).bind read

/-- A field with `#[serde(default)]`. -/
def defaulted
    (fields : Fields) (index : Nat) (name : String)
    (read : Value → Option α) (default : α) : Option α :=
  match fields.find? index name with
  | some value => read value
  | none => some default

def optional
    (fields : Fields) (index : Nat) (name : String)
    (read : Value → Option α) : Option (Option α) :=
  fields.defaulted index name (readOption read) none

def strings (fields : Fields) (index : Nat) (name : String) :
    Option (List String) :=
  fields.defaulted index name (readVec readString) []

end Fields

def readStruct
    (arity : Nat) (build : Fields → Option α) : Value → Option α
  | .object fields => build (.named fields)
  | .array items =>
      if items.length ≤ arity then build (.ordered items) else none
  | _ => none

end Readers

def readJoinBody : Value → Option JoinBody :=
  readStruct 2 fun fields => do
    some
      { secret := ← fields.required 0 "secret" readString
        hostname := ← fields.required 1 "hostname" readString }

def readJoinOkBody : Value → Option JoinOkBody :=
  readStruct 2 fun fields => do
    some
      { clientId := ← fields.required 0 "client_id" readString
        credential := ← fields.required 1 "credential" readString }

def readAuthBody : Value → Option AuthBody :=
  readStruct 1 fun fields => do
    some { credential := ← fields.required 0 "credential" readValue }

def readHelloSession : Value → Option HelloSession :=
  readStruct 2 fun fields => do
    some
      { name := ← fields.required 0 "name" readString
        harness := ← fields.required 1 "harness" readString }

def readHelloBody : Value → Option HelloBody :=
  readStruct 12 fun fields => do
    some
      { protocol := ← fields.required 0 "protocol" readU32
        protocolMin := ← fields.required 1 "protocol_min" readU32
        protocolMax := ← fields.required 2 "protocol_max" readU32
        role := ← fields.required 3 "role" readRole
        hostname := ← fields.required 4 "hostname" readString
        tokenId := ← fields.optional 5 "token_id" readString
        clientId := ← fields.optional 6 "client_id" readString
        harnesses := ← fields.strings 7 "harnesses"
        harnessesKnown := ← fields.strings 8 "harnesses_known"
        harnessesConfirmed := ← fields.strings 9 "harnesses_confirmed"
        features := ← fields.strings 10 "features"
        sessions := ←
          fields.defaulted 11 "sessions" (readVec readHelloSession) [] }

def readQueryBody : Value → Option QueryBody :=
  readStruct 2 fun fields => do
    some
      { cmd := ← fields.required 0 "cmd" readString
        args := ← fields.strings 1 "args" }

/-- A struct with a flattened field is read from an object only; the flattened
field takes the keys that are left. -/
def readQueryOkBody : Value → Option QueryOkBody
  | .object fields => do
      some
        { cmd := ← (fields.lookup "cmd").bind readString
          rest := .object (fields.filter fun field => field.1 ≠ "cmd") }
  | _ => none

def readPromptBody : Value → Option PromptBody :=
  readStruct 3 fun fields => do
    some
      { session := ← fields.required 0 "session" readString
        text := ← fields.required 1 "text" readString
        metadata := ← fields.optional 2 "meta" readValue }

def readReplyBody : Value → Option ReplyBody :=
  readStruct 5 fun fields => do
    some
      { session := ← fields.required 0 "session" readString
        text := ← fields.optional 1 "text" readString
        chunks := ← fields.strings 2 "chunks"
        done := ← fields.defaulted 3 "done" readBool false
        exit := ← fields.optional 4 "exit" readI64 }

def readInterruptBody : Value → Option InterruptBody :=
  readStruct 1 fun fields => do
    some { session := ← fields.required 0 "session" readString }

def readAnswerBody : Value → Option AnswerBody :=
  readStruct 2 fun fields => do
    some
      { session := ← fields.required 0 "session" readString
        choice := ← fields.required 1 "choice" readString }

def readPresenceBody : Value → Option PresenceBody :=
  readStruct 1 fun fields => do
    some { sessions := ← fields.required 0 "sessions" (readVec readValue) }

def readSessionBlockedBody : Value → Option SessionBlockedBody :=
  readStruct 2 fun fields => do
    some
      { session := ← fields.required 0 "session" readString
        blocked := ← fields.required 1 "blocked" readBool }

def readPingBody : Value → Option PingBody :=
  readStruct 1 fun fields => do
    some { hostname := ← fields.optional 0 "hostname" readString }

def readPongBody : Value → Option PongBody :=
  readStruct 1 fun fields => do
    some { hostname := ← fields.optional 0 "hostname" readString }

def readAckBody : Value → Option AckBody :=
  readStruct 1 fun fields => do
    some { of := ← fields.optional 0 "of" readString }

def readErrorBody : Value → Option ErrorBody :=
  readStruct 3 fun fields => do
    some
      { code := ← fields.required 0 "code" readString
        cmd := ← fields.optional 1 "cmd" readString
        message := ← fields.optional 2 "message" readString }

/-- The wire string of a message type. -/
def MessageType.asWireStr : MessageType → String
  | .join => "join"
  | .joinOk => "join_ok"
  | .auth => "auth"
  | .hello => "hello"
  | .query => "query"
  | .queryOk => "query_ok"
  | .prompt => "prompt"
  | .reply => "reply"
  | .interrupt => "interrupt"
  | .answer => "answer"
  | .presence => "presence"
  | .sessionBlocked => "session_blocked"
  | .ping => "ping"
  | .pong => "pong"
  | .ack => "ack"
  | .error => "error"

def MessageType.fromWire : String → Option MessageType
  | "join" => some .join
  | "join_ok" => some .joinOk
  | "auth" => some .auth
  | "hello" => some .hello
  | "query" => some .query
  | "query_ok" => some .queryOk
  | "prompt" => some .prompt
  | "reply" => some .reply
  | "interrupt" => some .interrupt
  | "answer" => some .answer
  | "presence" => some .presence
  | "session_blocked" => some .sessionBlocked
  | "ping" => some .ping
  | "pong" => some .pong
  | "ack" => some .ack
  | "error" => some .error
  | _ => none

inductive DecodeError where
  | unsupportedVersion (v : UInt32)
  | unknownType
  | malformed (message : String)
  deriving DecidableEq, Repr

/-- An envelope whose body is still a JSON value. -/
structure ParsedEnvelope where
  v : UInt32
  msgType : MessageType
  id : String
  ts : String
  sender : String
  body : Value

section Decode

variable (serde : SerdeJson)

/-- A required scalar of the envelope. -/
def requireField {α : Type}
    (fields : List (String × Value)) (key message : String)
    (read : Value → Option α) : Except DecodeError α :=
  match (fields.lookup key).bind read with
  | some value => .ok value
  | none => .error (.malformed message)

def parseEnvelope (raw : String) : Except DecodeError ParsedEnvelope :=
  match serde.fromStr raw with
  | .error message => .error (.malformed message)
  | .ok (.object fields) => do
      let typeStr ←
        requireField fields "type" "missing or non-string `type`"
          Value.asStr
      match MessageType.fromWire typeStr with
      | none => .error .unknownType
      | some msgType =>
          let v ←
            requireField fields "v" "missing or non-numeric `v`"
              Value.asU64
          let id ←
            requireField fields "id" "missing or non-string `id`"
              Value.asStr
          let ts ←
            requireField fields "ts" "missing or non-string `ts`"
              Value.asStr
          let sender ←
            requireField fields "from" "missing or non-string `from`"
              Value.asStr
          let body ←
            requireField fields "body" "missing `body`" readValue
          -- `as u32` keeps the low 32 bits
          .ok { v := UInt32.ofNat v, msgType, id, ts, sender, body }
  | .ok _ => .error (.malformed "envelope must be a JSON object")

/-- `Body::deserialize_value`: the message type selects the struct. -/
def deserializeValue
    (body : Value) (msgType : MessageType) : Except DecodeError Body :=
  let read : Option Body :=
    match msgType with
    | .join => (readJoinBody body).map .join
    | .joinOk => (readJoinOkBody body).map .joinOk
    | .auth => (readAuthBody body).map .auth
    | .hello => (readHelloBody body).map .hello
    | .query => (readQueryBody body).map .query
    | .queryOk => (readQueryOkBody body).map .queryOk
    | .prompt => (readPromptBody body).map .prompt
    | .reply => (readReplyBody body).map .reply
    | .interrupt => (readInterruptBody body).map .interrupt
    | .answer => (readAnswerBody body).map .answer
    | .presence => (readPresenceBody body).map .presence
    | .sessionBlocked =>
        (readSessionBlockedBody body).map .sessionBlocked
    | .ping => (readPingBody body).map .ping
    | .pong => (readPongBody body).map .pong
    | .ack => (readAckBody body).map .ack
    | .error => (readErrorBody body).map .error
  match read with
  | some body => .ok body
  | none => .error (.malformed (serde.misfit msgType body))

/-- The body is read once the envelope is known to be of version 1. -/
def ParsedEnvelope.tryInto
    (parsed : ParsedEnvelope) : Except DecodeError Envelope :=
  match deserializeValue serde parsed.body parsed.msgType with
  | .ok body =>
      .ok
        { v := parsed.v
          msgType := parsed.msgType
          id := parsed.id
          ts := parsed.ts
          sender := parsed.sender
          body }
  | .error (.malformed message) =>
      .error (.malformed
        ("            body for `type: " ++ parsed.msgType.asWireStr ++
          "`: " ++ message))
  | .error other => .error other

def decode (raw : String) : Except DecodeError Envelope := do
  let parsed ← parseEnvelope serde raw
  if parsed.v ≠ 1 then .error (.unsupportedVersion parsed.v)
  else parsed.tryInto serde

end Decode

end HollerServer.Proto
