import HollerServer.Wire.RoundTrip

/-!
# The control channel

`src/wire/control.rs`: the requests and replies that a command and the server
exchange, one line of JSON each.  An internally tagged enum is an object with its
tag in front of the fields of the variant.  The JSON tree of a line is a parameter;
its integers may have any size, since `last_seen_ms` has 128 bits.
-/

namespace HollerServer.Wire.Control

open HollerServer.Proto

inductive Request where
  | status
  | ping (tokenId : String)
  | roster
  | query (target : Option String) (queryCmd : String) (args : List String)
  | say (session text : String)
  | interrupt (session : String)
  | answer (session choice : String)
  | revoke (tokenId : String)
  deriving DecidableEq, Repr

structure PingReply where
  connected : Bool
  hostname : Option String
  rttMs : Option UInt64
  deriving DecidableEq, Repr

inductive QueryReply where
  | ok (queryOk : QueryOkBody)
  | err (error : ErrorBody)
  | notConnected
  deriving Repr

inductive SayReply where
  | ok (text : String) (exit : Option Int64)
  | interrupted
  | err (error : ErrorBody)
  deriving DecidableEq, Repr

/-- The shape of `InterruptReply` and of `AnswerReply`. -/
inductive AckReply where
  | ok
  | timedOut
  | disconnected
  | err (error : ErrorBody)
  deriving DecidableEq, Repr

abbrev InterruptReply := AckReply

abbrev AnswerReply := AckReply

structure RevokeReply where
  closed : Bool
  deriving DecidableEq, Repr

structure StatusDoc where
  hostname : String
  listening : List String
  clients : UInt64
  deriving DecidableEq, Repr

structure RosterRowDoc where
  name : String
  harness : String
  clientId : String
  state : String
  lastSeenMs : BitVec 128
  mode : Option String
  harnessSessionId : Option String
  blocked : Bool
  deriving DecidableEq, Repr

/-- A reply of each kind. -/
inductive Reply where
  | status (doc : StatusDoc)
  | ping (reply : PingReply)
  | roster (rows : List RosterRowDoc)
  | query (reply : QueryReply)
  | say (reply : SayReply)
  | interrupt (reply : InterruptReply)
  | answer (reply : AnswerReply)
  | revoke (reply : RevokeReply)
  deriving Repr

inductive Kind where
  | status
  | ping
  | roster
  | query
  | say
  | interrupt
  | answer
  | revoke
  deriving DecidableEq, Repr

def Request.kind : Request → Kind
  | .status => .status
  | .ping _ => .ping
  | .roster => .roster
  | .query _ _ _ => .query
  | .say _ _ => .say
  | .interrupt _ => .interrupt
  | .answer _ _ => .answer
  | .revoke _ => .revoke

def Reply.kind : Reply → Kind
  | .status _ => .status
  | .ping _ => .ping
  | .roster _ => .roster
  | .query _ => .query
  | .say _ => .say
  | .interrupt _ => .interrupt
  | .answer _ => .answer
  | .revoke _ => .revoke

section Serialize

/-- A variant of an internally tagged enum. -/
def tagged (tag name : String) (fields : List (String × Option Value)) :
    Value :=
  structValue ((tag, textField name) :: fields)

def requestValue : Request → Value
  | .status => tagged "cmd" "status" []
  | .ping tokenId => tagged "cmd" "ping" [("token_id", textField tokenId)]
  | .roster => tagged "cmd" "roster" []
  | .query target queryCmd args =>
      tagged "cmd" "query"
        [("target", textFieldIfSome target),
          ("query_cmd", textField queryCmd),
          ("args", some (jsonStrings args))]
  | .say session text =>
      tagged "cmd" "say"
        [("session", textField session), ("text", textField text)]
  | .interrupt session =>
      tagged "cmd" "interrupt" [("session", textField session)]
  | .answer session choice =>
      tagged "cmd" "answer"
        [("session", textField session), ("choice", textField choice)]
  | .revoke tokenId =>
      tagged "cmd" "revoke" [("token_id", textField tokenId)]

def natField (value : Nat) : Option Value :=
  some (.int value)

def statusValue (doc : StatusDoc) : Value :=
  structValue
    [("hostname", textField doc.hostname),
      ("listening", some (jsonStrings doc.listening)),
      ("clients", natField doc.clients.toNat)]

def pingValue (reply : PingReply) : Value :=
  structValue
    [("connected", some (.bool reply.connected)),
      ("hostname", textFieldIfSome reply.hostname),
      ("rtt_ms", reply.rttMs.bind fun millis => natField millis.toNat)]

def rosterRowValue (row : RosterRowDoc) : Value :=
  structValue
    [("name", textField row.name), ("harness", textField row.harness),
      ("client_id", textField row.clientId),
      ("state", textField row.state),
      ("last_seen_ms", natField row.lastSeenMs.toNat),
      ("mode", textFieldIfSome row.mode),
      ("harness_session_id", textFieldIfSome row.harnessSessionId),
      ("blocked", some (.bool row.blocked))]

/-- It fails where the answer cannot be flattened. -/
def queryReplyValue : QueryReply → Option Value
  | .ok body =>
      (queryOkValue body).map fun inner =>
        tagged "outcome" "ok" [("query_ok", some inner)]
  | .err body =>
      some (tagged "outcome" "err" [("error", some (errorValue body))])
  | .notConnected => some (tagged "outcome" "not_connected" [])

def sayReplyValue : SayReply → Value
  | .ok text exit =>
      tagged "outcome" "ok"
        [("text", textField text),
          ("exit", exit.map fun code => .int code.toInt)]
  | .interrupted => tagged "outcome" "interrupted" []
  | .err body => tagged "outcome" "err" [("error", some (errorValue body))]

def ackReplyValue : AckReply → Value
  | .ok => tagged "outcome" "ok" []
  | .timedOut => tagged "outcome" "timed_out" []
  | .disconnected => tagged "outcome" "disconnected" []
  | .err body => tagged "outcome" "err" [("error", some (errorValue body))]

def replyValue : Reply → Option Value
  | .status doc => some (statusValue doc)
  | .ping reply => some (pingValue reply)
  | .roster rows => some (.array (rows.map rosterRowValue))
  | .query reply => queryReplyValue reply
  | .say reply => some (sayReplyValue reply)
  | .interrupt reply => some (ackReplyValue reply)
  | .answer reply => some (ackReplyValue reply)
  | .revoke reply =>
      some (structValue [("closed", some (.bool reply.closed))])

/-- `serde_json::to_string` of a request. -/
def requestLine (request : Request) : String :=
  (requestValue request).compact

/-- `serde_json::to_string` of a reply. -/
def replyLine (reply : Reply) : Option String :=
  (replyValue reply).map Value.compact

end Serialize

section Deserialize

/-- The tag of an internally tagged enum, and what is left for the variant. -/
def readTag (tag : String) : Value → Option (String × Value)
  | .object fields =>
      ((fields.lookup tag).bind readString).map fun name =>
        (name, .object (fields.filter fun field => field.1 ≠ tag))
  | .array (.string name :: items) => some (name, .array items)
  | _ => none

/-- A variant without fields. -/
def readUnit {α : Type} (variant : α) : Value → Option α :=
  readStruct 0 fun _ => some variant

def readRequest (value : Value) : Option Request := do
  let (name, content) ← readTag "cmd" value
  match name with
  | "status" => readUnit .status content
  | "ping" =>
      readStruct 1 (fun fields => do
        some (.ping (← fields.required 0 "token_id" readString))) content
  | "roster" => readUnit .roster content
  | "query" =>
      readStruct 3 (fun fields => do
        some
          (.query (← fields.optional 0 "target" readString)
            (← fields.required 1 "query_cmd" readString)
            (← fields.strings 2 "args"))) content
  | "say" =>
      readStruct 2 (fun fields => do
        some
          (.say (← fields.required 0 "session" readString)
            (← fields.required 1 "text" readString))) content
  | "interrupt" =>
      readStruct 1 (fun fields => do
        some (.interrupt (← fields.required 0 "session" readString)))
        content
  | "answer" =>
      readStruct 2 (fun fields => do
        some
          (.answer (← fields.required 0 "session" readString)
            (← fields.required 1 "choice" readString))) content
  | "revoke" =>
      readStruct 1 (fun fields => do
        some (.revoke (← fields.required 0 "token_id" readString))) content
  | _ => none

/-- An unsigned integer below a bound. -/
def readNatBelow (bound : Nat) : Value → Option Nat
  | .int value =>
      if 0 ≤ value ∧ value < bound then some value.toNat else none
  | _ => none

def readU64 (value : Value) : Option UInt64 :=
  (readNatBelow (2 ^ 64) value).map UInt64.ofNat

def readU128 (value : Value) : Option (BitVec 128) :=
  (readNatBelow (2 ^ 128) value).map (BitVec.ofNat 128)

def readStatusDoc : Value → Option StatusDoc :=
  readStruct 3 fun fields => do
    some
      { hostname := ← fields.required 0 "hostname" readString
        listening := ← fields.required 1 "listening" (readVec readString)
        clients := ← fields.required 2 "clients" readU64 }

def readPingReply : Value → Option PingReply :=
  readStruct 3 fun fields => do
    some
      { connected := ← fields.required 0 "connected" readBool
        hostname := ← fields.optional 1 "hostname" readString
        rttMs := ← fields.optional 2 "rtt_ms" readU64 }

def readRosterRowDoc : Value → Option RosterRowDoc :=
  readStruct 8 fun fields => do
    some
      { name := ← fields.required 0 "name" readString
        harness := ← fields.required 1 "harness" readString
        clientId := ← fields.required 2 "client_id" readString
        state := ← fields.required 3 "state" readString
        lastSeenMs := ← fields.required 4 "last_seen_ms" readU128
        mode := ← fields.optional 5 "mode" readString
        harnessSessionId :=
          ← fields.optional 6 "harness_session_id" readString
        blocked := ← fields.required 7 "blocked" readBool }

def readQueryReply (value : Value) : Option QueryReply := do
  let (name, content) ← readTag "outcome" value
  match name with
  | "ok" =>
      readStruct 1 (fun fields => do
        some (.ok (← fields.required 0 "query_ok" readQueryOkBody))) content
  | "err" =>
      readStruct 1 (fun fields => do
        some (.err (← fields.required 0 "error" readErrorBody))) content
  | "not_connected" => readUnit .notConnected content
  | _ => none

def readSayReply (value : Value) : Option SayReply := do
  let (name, content) ← readTag "outcome" value
  match name with
  | "ok" =>
      readStruct 2 (fun fields => do
        some
          (.ok (← fields.required 0 "text" readString)
            (← fields.optional 1 "exit" readI64))) content
  | "interrupted" => readUnit .interrupted content
  | "err" =>
      readStruct 1 (fun fields => do
        some (.err (← fields.required 0 "error" readErrorBody))) content
  | _ => none

def readAckReply (value : Value) : Option AckReply := do
  let (name, content) ← readTag "outcome" value
  match name with
  | "ok" => readUnit .ok content
  | "timed_out" => readUnit .timedOut content
  | "disconnected" => readUnit .disconnected content
  | "err" =>
      readStruct 1 (fun fields => do
        some (.err (← fields.required 0 "error" readErrorBody))) content
  | _ => none

def readRevokeReply : Value → Option RevokeReply :=
  readStruct 1 fun fields => do
    some { closed := ← fields.required 0 "closed" readBool }

/-- The reply a command reads for its request. -/
def readReply : Kind → Value → Option Reply
  | .status => fun value => (readStatusDoc value).map .status
  | .ping => fun value => (readPingReply value).map .ping
  | .roster => fun value => (readVec readRosterRowDoc value).map .roster
  | .query => fun value => (readQueryReply value).map .query
  | .say => fun value => (readSayReply value).map .say
  | .interrupt => fun value => (readAckReply value).map .interrupt
  | .answer => fun value => (readAckReply value).map .answer
  | .revoke => fun value => (readRevokeReply value).map .revoke

end Deserialize

section RoundTrip

/-- Behind the tag, a variant is read like a struct. -/
theorem readTag_tagged {tag name : String}
    {fields : List (String × Option Value)}
    (distinct : (tag :: fields.map Prod.fst).Nodup) :
    readTag tag (normal (tagged tag name fields)) =
      some (name, normal (structValue fields)) := by
  have inner : (fields.map Prod.fst).Nodup := List.Nodup.of_cons distinct
  have absent : tag ∉ fields.map Prod.fst := (List.nodup_cons.mp distinct).1
  have missing : fields.lookup tag = none := by
    apply Keyed.lookup_eq_none
    intro entry member same
    exact absent (List.mem_map.mpr ⟨entry, member, same⟩)
  have distinct' :
      (((tag, textField name) :: fields).map Prod.fst).Nodup := distinct
  obtain ⟨entries, held, found⟩ :
      ∃ entries,
        normal (tagged tag name fields) = .object entries ∧
          (∀ key,
            entries.lookup key =
              (((tag, textField name) :: fields).lookup key).join.map
                normal) :=
    ⟨_, rfl, find_present distinct' 0⟩
  have ascending : Keyed.Ascending entries := by
    cases held
    exact ascending_collectFields _
  have left :
      (entries.filter fun field => field.1 ≠ tag) =
        collectFields (normalFields (present fields)) := by
    apply (ascending.filter _).ext (ascending_collectFields _)
    intro key
    have right :
        (collectFields (normalFields (present fields))).lookup key =
          (fields.lookup key).join.map normal :=
      find_present inner 0 key
    rw [right]
    by_cases same : key = tag
    · subst same
      rw [missing]
      exact Keyed.lookup_filter_of_not (fun other => other ≠ key) (by simp)
    · rw [Keyed.lookup_filter (fun other => other ≠ tag) (by simpa using same),
        found, Keyed.lookup_of_ne same]
  have first : (entries.lookup tag).bind readString = some name := by
    rw [found, Keyed.lookup_self]
    rfl
  rw [held, readTag, first, left]
  rfl

theorem readUnit_structValue {α : Type} (variant : α) :
    readUnit variant (normal (structValue [])) = some variant :=
  rfl

/-- A request is read back from its value. -/
theorem readRequest_requestValue (request : Request) :
    readRequest (normal (requestValue request)) = some request := by
  cases request <;>
    simp (disch := simp) [readRequest, requestValue, readTag_tagged,
      readUnit_structValue, readStruct_structValue, required_structFields,
      optional_structFields, strings_structFields, List.lookup_cons]

theorem readBack_errorValue (body : ErrorBody) :
    readBack readErrorBody (some (errorValue body)) = some body := by
  unfold readBack
  rw [Option.map_some, Option.bind_some, errorValue, readErrorBody,
    readStruct_structValue]
  simp (disch := simp) [required_structFields, optional_structFields,
    List.lookup_cons]

theorem readBack_jsonStrings (values : List String) :
    readBack (readVec readString) (some (jsonStrings values)) =
      some values := by
  unfold readBack
  rw [Option.map_some, Option.bind_some, normal_jsonStrings,
    readVec_jsonStrings]

theorem readNatBelow_int {bound value : Nat} (below : value < bound) :
    readNatBelow bound (.int value) = some value := by
  have inside : (0 : Int) ≤ value ∧ (value : Int) < bound := by omega
  unfold readNatBelow
  simp only
  rw [if_pos inside, Int.toNat_natCast]

theorem readU64_int (value : UInt64) :
    readU64 (.int value.toNat) = some value := by
  unfold readU64
  rw [readNatBelow_int value.toNat_lt, Option.map_some,
    UInt64.ofNat_toNat]

theorem readU128_int (value : BitVec 128) :
    readU128 (.int value.toNat) = some value := by
  unfold readU128
  rw [readNatBelow_int value.isLt, Option.map_some, BitVec.ofNat_toNat,
    BitVec.setWidth_eq]

theorem readBack_u64 (value : UInt64) :
    readBack readU64 (natField value.toNat) = some value := by
  unfold readBack natField
  rw [Option.map_some, Option.bind_some, normal, readU64_int]

theorem readBack_u128 (value : BitVec 128) :
    readBack readU128 (natField value.toNat) = some value := by
  unfold readBack natField
  rw [Option.map_some, Option.bind_some, normal, readU128_int]

theorem readBackOr_u64 (value : Option UInt64) :
    readBackOr (readOption readU64) none
        (value.bind fun millis => natField millis.toNat) =
      some value := by
  cases value with
  | none => rfl
  | some millis =>
      rw [Option.bind_some, natField, readBackOr, normal, readOption,
        readU64_int, Option.map_some]
      simp

theorem readRosterRowDoc_rosterRowValue (row : RosterRowDoc) :
    readRosterRowDoc (normal (rosterRowValue row)) = some row := by
  unfold readRosterRowDoc rosterRowValue
  rw [readStruct_structValue]
  simp (disch := simp) [required_structFields, optional_structFields,
    List.lookup_cons, readBack_u128]

/-- The replies that have a text which is read: the answer to a query is an object
without a key `cmd`, such as serde_json holds, its numbers are integers, and it nests
less deep than the reader goes. -/
def Sendable (limit : Nat) : Reply → Prop
  | .query (.ok body) =>
      HasNoCmd body.rest ∧ IsHeld body.rest ∧
        body.rest.isIntegral isMachineInt = true ∧
        body.rest.depth + 1 < limit
  | _ => True

theorem readBack_queryOk {body : QueryOkBody} {inner : Value}
    (encoded : queryOkValue body = some inner)
    (plain : HasNoCmd body.rest) (held : IsHeld body.rest) :
    readBack readQueryOkBody (some inner) = some body := by
  obtain ⟨fields, object, apart⟩ := plain
  unfold readBack
  rw [Option.map_some, Option.bind_some]
  exact deserialize_queryOk encoded object apart held

/-- A query reply is read back from its value. -/
theorem readQueryReply_value {limit : Nat} {reply : QueryReply} {value : Value}
    (sendable : Sendable limit (.query reply))
    (encoded : queryReplyValue reply = some value) :
    readQueryReply (normal value) = some reply := by
  cases reply with
  | ok body =>
      obtain ⟨inner, innerEncoded, rfl⟩ := Option.map_eq_some_iff.mp encoded
      have back := readBack_queryOk innerEncoded sendable.1 sendable.2.1
      simp (disch := simp) [readQueryReply, readTag_tagged,
        readStruct_structValue, required_structFields, back]
  | err body =>
      cases encoded
      simp (disch := simp) [readQueryReply, readTag_tagged,
        readStruct_structValue, required_structFields,
        readBack_errorValue]
  | notConnected =>
      cases encoded
      simp (disch := simp) [readQueryReply, readTag_tagged,
        readUnit_structValue]

theorem readSayReply_value (reply : SayReply) :
    readSayReply (normal (sayReplyValue reply)) = some reply := by
  cases reply <;>
    simp (disch := simp) [readSayReply, sayReplyValue, readTag_tagged,
      readUnit_structValue, readStruct_structValue, required_structFields,
      optional_structFields, List.lookup_cons, readBack_errorValue]

theorem readAckReply_value (reply : AckReply) :
    readAckReply (normal (ackReplyValue reply)) = some reply := by
  cases reply <;>
    simp (disch := simp) [readAckReply, ackReplyValue, readTag_tagged,
      readUnit_structValue, readStruct_structValue, required_structFields,
      readBack_errorValue]

/-- A reply is read back from its value. -/
theorem readReply_replyValue {limit : Nat} {reply : Reply} {value : Value}
    (sendable : Sendable limit reply)
    (encoded : replyValue reply = some value) :
    readReply reply.kind (normal value) = some reply := by
  cases reply with
  | status doc =>
      cases encoded
      simp (disch := simp) [readReply, Reply.kind, readStatusDoc,
        statusValue, readStruct_structValue, required_structFields,
        List.lookup_cons, readBack_jsonStrings, readBack_u64]
  | ping reply =>
      cases encoded
      simp (disch := simp) [readReply, Reply.kind, readPingReply, pingValue,
        readStruct_structValue, required_structFields,
        optional_structFields, List.lookup_cons, readBackOr_u64]
  | roster rows =>
      cases encoded
      simp [readReply, Reply.kind, readVec_map readRosterRowDoc_rosterRowValue]
  | query reply =>
      simp [readReply, Reply.kind, readQueryReply_value sendable encoded]
  | say reply =>
      cases encoded
      simp [readReply, Reply.kind, readSayReply_value]
  | interrupt reply =>
      cases encoded
      simp [readReply, Reply.kind, readAckReply_value]
  | answer reply =>
      cases encoded
      simp [readReply, Reply.kind, readAckReply_value]
  | revoke reply =>
      cases encoded
      simp (disch := simp) [readReply, Reply.kind, readRevokeReply,
        readStruct_structValue, required_structFields]

end RoundTrip

end HollerServer.Wire.Control
