import HollerServer.Wire.Control

/-!
# Lines on the control channel

`handle_control_conn` and `run_client_query` of `src/wire/control.rs`: the server
takes the lines of a connection, skips blank ones and those it cannot read, and
writes one line for each request; a command writes the line of its request and
reads one line.  What the server does for a request is a parameter.
-/

namespace HollerServer.Wire.Control

open HollerServer.Proto

/-- What the control channel uses of serde_json: the JSON tree of a text, as the
derived `Deserialize` goes through it. -/
structure LineJson where
  tree : String → Option Value
  /-- A text that nests as deep as this is refused. -/
  limit : Nat := 128

def anyInt : Int → Bool :=
  fun _ => true

/-- The text of a value whose numbers are integers, and that nests less deep than the
limit, has that value for its tree, also with white space behind it. -/
structure LineJson.ReadsBack (json : LineJson) : Prop where
  deep : 128 ≤ json.limit
  reads :
    ∀ (value : Value) (behind : String),
      value.isIntegral anyInt = true →
      value.depth < json.limit →
      behind.toList.all Value.isSpace = true →
      json.tree (value.compact ++ behind) = some (normal value)

/-- The reader of compact texts in the place of serde_json's. -/
def compactLineJson : LineJson where
  tree := fun text => (Value.ofText text).map normal

theorem readsBack_compactLineJson : compactLineJson.ReadsBack where
  deep := by decide
  reads := by
    intro value behind integral _ blank
    simp [compactLineJson, Value.ofText_compact integral blank]

/-- What the server does for each request, over its state. -/
structure Server (σ : Type) where
  status : σ → StatusDoc × σ
  ping : String → σ → PingReply × σ
  roster : σ → List RosterRowDoc × σ
  query :
    Option String → String → List String → σ → QueryReply × σ
  say : String → String → σ → SayReply × σ
  interrupt : String → σ → InterruptReply × σ
  answer : String → String → σ → AnswerReply × σ
  revoke : String → σ → RevokeReply × σ

namespace Server

variable {σ : Type} (server : Server σ)

/-- The reply to a request. -/
def respond : Request → σ → Reply × σ
  | .status, state => (server.status state).map .status id
  | .ping tokenId, state => (server.ping tokenId state).map .ping id
  | .roster, state => (server.roster state).map .roster id
  | .query target cmd args, state =>
      (server.query target cmd args state).map .query id
  | .say session text, state =>
      (server.say session text state).map .say id
  | .interrupt session, state =>
      (server.interrupt session state).map .interrupt id
  | .answer session choice, state =>
      (server.answer session choice state).map .answer id
  | .revoke tokenId, state => (server.revoke tokenId state).map .revoke id

/-- The replies to requests one after the other. -/
def respondAll : List Request → σ → List Reply × σ
  | [], state => ([], state)
  | request :: rest, state =>
      let (reply, next) := server.respond request state
      let (replies, final) := respondAll rest next
      (reply :: replies, final)

theorem kind_respond (request : Request) (state : σ) :
    (server.respond request state).1.kind = request.kind := by
  cases request <;> rfl

theorem kinds_respondAll (requests : List Request) (state : σ) :
    (server.respondAll requests state).1.map Reply.kind =
      requests.map Request.kind := by
  induction requests generalizing state with
  | nil => rfl
  | cons request rest ih =>
      simp only [respondAll, List.map_cons, kind_respond, ih]

end Server

section Exchange

variable {σ : Type} (json : LineJson) (server : Server σ)

/-- The loop of `handle_control_conn` over the lines of a connection; without a
result a reply could not be serialized, and the task panicked. -/
def handleLines : List (List Char) → σ → Option (List Char × σ)
  | [], state => some ([], state)
  | line :: rest, state =>
      if Text.isBlank (String.ofList line) then handleLines rest state
      else
        match (json.tree (String.ofList line)).bind readRequest with
        | none => handleLines rest state
        | some request =>
            let (reply, next) := server.respond request state
            (replyLine reply).bind fun text =>
              (handleLines rest next).map fun (written, final) =>
                (text.toList ++ '\n' :: written, final)

def handleControlConn
    (stream : List Char) (state : σ) : Option (List Char × σ) :=
  handleLines json server (Lines.lines stream) state

/-- What a command writes. -/
def sent (request : Request) : List Char :=
  (requestLine request).toList ++ ['\n']

/-- The reply a command reads from the stream, and what is behind it. -/
def received (kind : Kind) (stream : List Char) :
    Option (Reply × List Char) :=
  let (response, rest) := Lines.readLine stream
  if Text.isBlank (String.ofList response) then none
  else
    ((json.tree (String.ofList response)).bind (readReply kind)).map
      fun reply => (reply, rest)

/-- The replies to requests of these kinds. -/
def receivedAll : List Kind → List Char → Option (List Reply × List Char)
  | [], stream => some ([], stream)
  | kind :: rest, stream => do
      let (reply, stream) ← received json kind stream
      let (replies, stream) ← receivedAll rest stream
      some (reply :: replies, stream)

end Exchange

section Texts

variable {json : LineJson} {limit : Nat}

@[simp] theorem all_natField (value : Nat) :
    (natField value).all (Value.isIntegral anyInt) = true :=
  rfl

theorem isIntegral_requestValue (request : Request) :
    (requestValue request).isIntegral anyInt = true := by
  cases request <;> simp [requestValue, tagged]

theorem isIntegral_errorValue (body : ErrorBody) :
    (errorValue body).isIntegral anyInt = true := by
  simp [errorValue]

theorem isIntegral_queryOkValue {body : QueryOkBody} {value : Value}
    (encoded : queryOkValue body = some value)
    (integral : body.rest.isIntegral isMachineInt = true) :
    value.isIntegral anyInt = true := by
  have rest : body.rest.isIntegral anyInt = true :=
    Value.isIntegral_weaken (fun _ _ => rfl) body.rest integral
  unfold queryOkValue at encoded
  split at encoded
  next fields same =>
    cases encoded
    rw [same] at rest
    exact rest
  next =>
    cases encoded
    rfl
  next => cases encoded

theorem isIntegral_replyValue {reply : Reply} {value : Value}
    (sendable : Sendable limit reply)
    (encoded : replyValue reply = some value) :
    value.isIntegral anyInt = true := by
  cases reply with
  | status doc =>
      cases encoded
      simp [statusValue]
  | ping reply =>
      cases encoded
      cases millis : reply.rttMs <;>
        simp [pingValue, Value.isIntegral, millis]
  | roster rows =>
      cases encoded
      refine (areIntegral_iff _).mpr ?_
      intro item member
      obtain ⟨row, _, rfl⟩ := List.mem_map.mp member
      simp [rosterRowValue, Value.isIntegral]
  | query reply =>
      cases reply with
      | ok body =>
          obtain ⟨inner, innerEncoded, rfl⟩ :=
            Option.map_eq_some_iff.mp encoded
          have integral :=
            isIntegral_queryOkValue innerEncoded sendable.2.2.1
          simp [tagged, integral]
      | err body =>
          cases encoded
          simp [tagged, isIntegral_errorValue]
      | notConnected =>
          cases encoded
          simp [tagged]
  | say reply =>
      cases encoded
      cases reply with
      | ok text exit =>
          cases exit <;>
            simp [sayReplyValue, tagged, Value.isIntegral, anyInt]
      | interrupted => simp [sayReplyValue, tagged]
      | err body => simp [sayReplyValue, tagged, isIntegral_errorValue]
  | interrupt reply | answer reply =>
      cases encoded
      cases reply <;>
        simp [ackReplyValue, tagged, isIntegral_errorValue]
  | revoke reply =>
      cases encoded
      simp [Value.isIntegral]

@[simp] theorem depth_structValue_nil : (structValue []).depth = 1 :=
  rfl

@[simp] theorem depth_structValue_cons (key : String)
    (field : Option Value) (fields : List (String × Option Value)) :
    (structValue ((key, field) :: fields)).depth =
      max (field.elim 0 Value.depth + 1) (structValue fields).depth := by
  cases field with
  | none => exact (Nat.max_eq_right (Nat.le_add_left 1 _)).symm
  | some value => exact (Nat.add_max_add_right _ _ 1).symm

@[simp] theorem depth_textField (value : String) :
    (textField value).elim 0 Value.depth = 0 :=
  rfl

@[simp] theorem depth_textFieldIfSome (value : Option String) :
    (textFieldIfSome value).elim 0 Value.depth = 0 := by
  cases value <;> rfl

@[simp] theorem depth_natField (value : Nat) :
    (natField value).elim 0 Value.depth = 0 :=
  rfl

theorem depth_jsonStrings_le (values : List String) :
    (jsonStrings values).depth ≤ 1 := by
  refine Nat.succ_le_succ (Value.itemsDepth_le_iff.mpr ?_)
  intro item member
  obtain ⟨value, _, rfl⟩ := List.mem_map.mp member
  exact Nat.le_refl 0

theorem depth_errorValue (body : ErrorBody) : (errorValue body).depth = 1 := by
  simp [errorValue]

theorem depth_requestValue_le (request : Request) :
    (requestValue request).depth ≤ 2 := by
  cases request
  case query target queryCmd args =>
    have strings := depth_jsonStrings_le args
    simp [requestValue, tagged, strings]
  all_goals simp [requestValue, tagged]

/-- The answer to a query nests as deep as the value that is flattened into it. -/
theorem depth_queryOkValue {body : QueryOkBody} {value : Value}
    (encoded : queryOkValue body = some value)
    (plain : HasNoCmd body.rest) :
    value.depth = body.rest.depth := by
  obtain ⟨fields, object, _⟩ := plain
  rw [object]
  simp only [queryOkValue, object, Option.some.injEq] at encoded
  rw [← encoded]
  simp [Value.depth, Value.fieldsDepth]

theorem depth_rosterRowValue (row : RosterRowDoc) :
    (rosterRowValue row).depth = 1 := by
  simp [rosterRowValue, Value.depth]

theorem depth_ackReplyValue_le (reply : AckReply) :
    (ackReplyValue reply).depth ≤ 2 := by
  cases reply <;> simp [ackReplyValue, tagged, depth_errorValue]

/-- Only the answer to a query nests at will. -/
theorem depth_replyValue_lt (deep : 128 ≤ limit) {reply : Reply}
    {value : Value} (sendable : Sendable limit reply)
    (encoded : replyValue reply = some value) :
    value.depth < limit := by
  have low (nested : value.depth ≤ 2) : value.depth < limit := by omega
  cases reply with
  | status doc =>
      cases encoded
      have strings := depth_jsonStrings_le doc.listening
      exact low (by simp [statusValue, strings])
  | ping reply =>
      cases encoded
      cases millis : reply.rttMs <;>
        exact low (by simp [pingValue, Value.depth, millis])
  | roster rows =>
      cases encoded
      refine low (Nat.succ_le_succ (Value.itemsDepth_le_iff.mpr ?_))
      intro item member
      obtain ⟨row, _, rfl⟩ := List.mem_map.mp member
      exact Nat.le_of_eq (depth_rosterRowValue row)
  | query reply =>
      cases reply with
      | ok body =>
          obtain ⟨inner, innerEncoded, rfl⟩ :=
            Option.map_eq_some_iff.mp encoded
          have nested := depth_queryOkValue innerEncoded sendable.1
          have shallow := sendable.2.2.2
          simp only [tagged, depth_structValue_cons, depth_structValue_nil,
            depth_textField, Option.elim_some, nested]
          omega
      | err body =>
          cases encoded
          exact low (by simp [tagged, depth_errorValue])
      | notConnected =>
          cases encoded
          exact low (by simp [tagged])
  | say reply =>
      cases encoded
      cases reply with
      | ok text exit =>
          cases exit <;>
            exact low (by simp [sayReplyValue, tagged, Value.depth])
      | interrupted => exact low (by simp [sayReplyValue, tagged])
      | err body =>
          exact low (by simp [sayReplyValue, tagged, depth_errorValue])
  | interrupt reply | answer reply =>
      cases encoded
      exact low (depth_ackReplyValue_le reply)
  | revoke reply =>
      cases encoded
      exact low (by simp [Value.depth])

/-- The line of a request reads back, whatever white space is behind it. -/
theorem request_reads_back (readsBack : json.ReadsBack)
    (request : Request) :
    Lines.OneLine (requestLine request).toList ∧
      Text.isBlank (requestLine request) = false ∧
      (json.tree (requestLine request)).bind readRequest =
        some request := by
  have integral := isIntegral_requestValue request
  refine ⟨Value.oneLine_compact integral, Value.isBlank_compact integral, ?_⟩
  have nested := depth_requestValue_le request
  have deep := readsBack.deep
  have shallow : (requestValue request).depth < json.limit := by omega
  have tree := readsBack.reads (requestValue request) "" integral shallow rfl
  rw [String.append_empty] at tree
  rw [requestLine, tree, Option.bind_some, readRequest_requestValue]

/-- A reply that can be sent has a line. -/
theorem exists_replyLine {reply : Reply}
    (sendable : Sendable limit reply) :
    ∃ value, replyValue reply = some value := by
  cases reply
  case query reply =>
    cases reply with
    | ok body =>
        obtain ⟨⟨fields, object, _⟩, _⟩ := sendable
        refine
          ⟨tagged "outcome" "ok"
            [("query_ok",
              some (.object (("cmd", .string body.cmd) :: fields)))], ?_⟩
        simp [replyValue, queryReplyValue, queryOkValue, object]
    | err | notConnected => exact ⟨_, rfl⟩
  all_goals exact ⟨_, rfl⟩

theorem reply_reads_back (readsBack : json.ReadsBack) {reply : Reply}
    (sendable : Sendable json.limit reply) :
    ∃ line,
      replyLine reply = some line ∧
        Lines.OneLine line.toList ∧ Text.isBlank line = false ∧
        (json.tree (line ++ "\n")).bind (readReply reply.kind) =
          some reply := by
  obtain ⟨value, encoded⟩ := exists_replyLine sendable
  have integral := isIntegral_replyValue sendable encoded
  refine ⟨value.compact, by simp [replyLine, encoded],
    Value.oneLine_compact integral, Value.isBlank_compact integral, ?_⟩
  have shallow := depth_replyValue_lt readsBack.deep sendable encoded
  rw [readsBack.reads value "\n" integral shallow rfl, Option.bind_some]
  exact readReply_replyValue sendable encoded

end Texts

section Faithful

variable {σ : Type} {json : LineJson} {server : Server σ}

/-- A request in front of a stream is answered by one line. -/
theorem handleControlConn_sent (readsBack : json.ReadsBack)
    (request : Request) (rest : List Char) (state : σ) :
    handleControlConn json server (sent request ++ rest) state =
      (replyLine (server.respond request state).1).bind fun text =>
        (handleControlConn json server rest
          (server.respond request state).2).map fun (written, final) =>
            (text.toList ++ '\n' :: written, final) := by
  obtain ⟨oneLine, visible, read⟩ := request_reads_back readsBack request
  have lines :
      Lines.lines (sent request ++ rest) =
        (requestLine request).toList :: Lines.lines rest := by
    rw [sent, List.append_assoc]
    exact Lines.lines_append oneLine rest
  unfold handleControlConn
  rw [lines, handleLines]
  simp only [String.ofList_toList, visible, Bool.false_eq_true, if_false,
    read]

/-- A reply in front of a stream is read by the command that waits for it. -/
theorem received_reply (readsBack : json.ReadsBack) {reply : Reply}
    (sendable : Sendable json.limit reply) {line : String}
    (written : replyLine reply = some line) (rest : List Char) :
    received json reply.kind (line.toList ++ '\n' :: rest) =
      some (reply, rest) := by
  obtain ⟨line', written', oneLine, visible, read⟩ :=
    reply_reads_back readsBack sendable
  cases written.symm.trans written'
  have text : String.ofList (line.toList ++ ['\n']) = line ++ "\n" := by
    rw [String.ofList_append, String.ofList_toList]
  have notBlank : Text.isBlank (line ++ "\n") = false := by
    rw [Text.isBlank_append, visible, Bool.false_and]
  unfold received
  rw [Lines.readLine_append oneLine.1]
  simp only [text, notBlank, Bool.false_eq_true, if_false, read,
    Option.map_some]

/-- Requests one after the other are answered by one line each, and the commands
that wait for them read the replies of the server. -/
theorem exchange_faithful (readsBack : json.ReadsBack)
    (requests : List Request) (state : σ)
    (sendable :
      ∀ reply ∈ (server.respondAll requests state).1, Sendable json.limit reply) :
    ∃ written,
      handleControlConn json server (requests.flatMap sent) state =
          some (written, (server.respondAll requests state).2) ∧
        receivedAll json (requests.map Request.kind) written =
          some ((server.respondAll requests state).1, []) := by
  induction requests generalizing state with
  | nil => exact ⟨[], rfl, rfl⟩
  | cons request rest ih =>
      simp only [Server.respondAll, List.forall_mem_cons] at sendable
      obtain ⟨first, others⟩ := sendable
      obtain ⟨line, written, _⟩ := reply_reads_back readsBack first
      obtain ⟨behind, handled, read⟩ :=
        ih (server.respond request state).2 others
      refine ⟨line.toList ++ '\n' :: behind, ?_, ?_⟩
      · rw [List.flatMap_cons, handleControlConn_sent readsBack, written,
          Option.bind_some, handled]
        rfl
      · have back := received_reply readsBack first written behind
        rw [server.kind_respond] at back
        simp only [List.map_cons, receivedAll, back, read,
          Server.respondAll, Option.bind_eq_bind, Option.bind_some]

end Faithful

/-- The control channel is a line protocol that loses nothing: the text of a
request, and that of a reply that can be sent, is one line that is not blank and
reads back; each request is answered by one reply of its kind. -/
theorem control_channel_faithful
    (json : LineJson) (readsBack : json.ReadsBack) :
    (∀ request : Request,
      '\n' ∉ (requestLine request).toList ∧
        Text.isBlank (requestLine request) = false ∧
        (json.tree (requestLine request)).bind readRequest =
          some request) ∧
    (∀ reply : Reply,
      Sendable json.limit reply →
      ∃ line,
        replyLine reply = some line ∧ '\n' ∉ line.toList ∧
          Text.isBlank line = false ∧
          (json.tree (line ++ "\n")).bind (readReply reply.kind) =
            some reply) ∧
    ∀ (σ : Type) (server : Server σ) (requests : List Request) (state : σ),
      (∀ reply ∈ (server.respondAll requests state).1, Sendable json.limit reply) →
      (server.respondAll requests state).1.map Reply.kind =
          requests.map Request.kind ∧
        ∃ written,
          handleControlConn json server (requests.flatMap sent) state =
              some (written, (server.respondAll requests state).2) ∧
            receivedAll json (requests.map Request.kind) written =
              some ((server.respondAll requests state).1, []) := by
  refine ⟨?_, ?_, ?_⟩
  · intro request
    obtain ⟨oneLine, visible, read⟩ := request_reads_back readsBack request
    exact ⟨oneLine.1, visible, read⟩
  · intro reply sendable
    obtain ⟨line, written, oneLine, visible, read⟩ :=
      reply_reads_back readsBack sendable
    exact ⟨line, written, oneLine.1, visible, read⟩
  · intro σ server requests state sendable
    exact ⟨server.kinds_respondAll requests state,
      exchange_faithful readsBack requests state sendable⟩

/-- A server whose sessions repeat what they are told. -/
def echoServer : Server Unit where
  status := fun _ => (⟨"hub", [], 0⟩, ())
  ping := fun _ _ => (⟨false, none, none⟩, ())
  roster := fun _ => ([], ())
  query := fun _ _ _ _ => (.notConnected, ())
  say := fun _ text _ => (.ok text (some 0), ())
  interrupt := fun _ _ => (.ok, ())
  answer := fun _ _ _ => (.timedOut, ())
  revoke := fun _ _ => (⟨false⟩, ())

/-- A text of two lines, with quotes. -/
def twoLines : Request :=
  .say "s1" "one\n\"two\""

theorem control_channel_faithful_twoLines :
    requestLine twoLines =
        "\x7b\"cmd\":\"say\",\"session\":\"s1\"," ++
          "\"text\":\"one\\n\\\"two\\\"\"\x7d" ∧
      '\n' ∉ (requestLine twoLines).toList ∧
      ∃ written,
        handleControlConn compactLineJson echoServer (sent twoLines) () =
            some (written, ()) ∧
          receivedAll compactLineJson [.say] written =
            some ([.say (.ok "one\n\"two\"" (some 0))], []) := by
  obtain ⟨requests, _, exchange⟩ :=
    control_channel_faithful compactLineJson readsBack_compactLineJson
  refine ⟨by decide +kernel, (requests twoLines).1, ?_⟩
  have replies := exchange Unit echoServer [twoLines] () (by
    intro reply member
    cases List.mem_singleton.mp member
    trivial)
  exact replies.2

end HollerServer.Wire.Control
