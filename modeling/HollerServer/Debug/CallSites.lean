import HollerServer.Debug.Leaks
import HollerServer.Wire.Attempts
import HollerServer.Wire.PromptStream

/-!
# The lines of a frame and of a prompt

The events that are emitted while an inbound text frame is handled, first or in a
session, and while a prompt is sent: those of `src/wire/connection.rs`, of
`Registry::prompt` and of the talk log, in their order and with the texts they are
built of.  Redaction covers the frame of an event alone, so a secret stays out of
the log exactly if none stands in a text that a line shows beside it.
-/

namespace HollerServer.Debug

open HollerServer.Proto HollerServer.Wire HollerServer.Token

/-- The names of the values that are never printed. -/
def neverPrintFields : List String :=
  ["join secret", "join_secret", "client credential", "client_credential",
    "connect ticket", "connect_ticket", "authorization", "pepper"]

def redact (fieldName value : String) : String :=
  if neverPrintFields.contains
      (String.ofList (fieldName.toList.map Char.toLower)) then "[redacted]"
  else value

/-- `Display` of a decode error. -/
def decodeErrorText : DecodeError → String
  | .unsupportedVersion v =>
      "unsupported protocol version " ++ toString v ++ " (v1 requires v == 1)"
  | .unknownType => "unknown message type"
  | .malformed message => "malformed frame: " ++ message

/-- `Debug` of a message type: the name of its variant. -/
def variantName : MessageType → String
  | .join => "Join"
  | .joinOk => "JoinOk"
  | .auth => "Auth"
  | .hello => "Hello"
  | .query => "Query"
  | .queryOk => "QueryOk"
  | .prompt => "Prompt"
  | .reply => "Reply"
  | .interrupt => "Interrupt"
  | .answer => "Answer"
  | .presence => "Presence"
  | .sessionBlocked => "SessionBlocked"
  | .ping => "Ping"
  | .pong => "Pong"
  | .ack => "Ack"
  | .error => "Error"

/-- `Display` of a conflict, with the name of the session quoted. -/
def conflictText (quoted : String → String) (conflict : RosterConflict) :
    String :=
  "session " ++ quoted conflict.session ++
    " is already advertised by client " ++ conflict.heldByClientId

def isAddrChar (char : Char) : Bool :=
  char.isDigit ||
    char ∈ ['a', 'b', 'c', 'd', 'e', 'f', '.', ':', '[', ']', '%']

/-- The text of a socket address: digits and separators. -/
structure AddrText where
  text : String
  plain : text.toList.all isAddrChar = true

/-- The text and the chunks of a reply in a row. -/
def textPreview (body : ReplyBody) : String :=
  String.join (body.text.toList ++ body.chunks)

section Frames

variable {isDouble : String → Bool}

theorem numbers_textField (text : String) :
    ∀ value ∈ textField text,
      value.hasNumbers isMachineInt isDouble = true := by
  intro value isValue
  cases isValue
  rfl

theorem numbers_textFieldIfSome (text? : Option String) :
    ∀ value ∈ textFieldIfSome text?,
      value.hasNumbers isMachineInt isDouble = true := by
  intro value isValue
  obtain ⟨text, _, rfl⟩ := Option.map_eq_some_iff.mp isValue
  rfl

theorem numbers_textsFieldIfAny (texts : List String) :
    ∀ value ∈ textsFieldIfAny texts,
      value.hasNumbers isMachineInt isDouble = true := by
  have strings :
      (jsonStrings texts).hasNumbers isMachineInt isDouble = true := by
    unfold jsonStrings
    induction texts with
    | nil => rfl
    | cons text texts inductionHypothesis => exact inductionHypothesis
  intro value isValue
  unfold textsFieldIfAny at isValue
  split at isValue
  · cases isValue
  · cases isValue
    exact strings

theorem numbers_u32Field (number : UInt32) :
    ∀ value ∈ u32Field number,
      value.hasNumbers isMachineInt isDouble = true := by
  intro value isValue
  rw [← Option.some.inj isValue, Value.hasNumbers, isMachineInt_u32]

theorem numbers_replyValue (body : ReplyBody) :
    ∀ value ∈ bodyValue (.reply body),
      value.hasNumbers isMachineInt isDouble = true := by
  intro value isValue
  cases isValue
  apply hasNumbers_structValue
  simp only [List.forall_mem_cons]
  refine ⟨numbers_textField _, numbers_textFieldIfSome _,
    numbers_textsFieldIfAny _, ?_, ?_, List.forall_mem_nil _⟩
  · intro done isDone
    cases isDone
    rfl
  · intro exit isExit
    obtain ⟨code, _, rfl⟩ := Option.map_eq_some_iff.mp isExit
    exact isMachineInt_i64 code

theorem numbers_errorValue (body? : Option ErrorBody) :
    ∀ value ∈ body?.map errorValue,
      value.hasNumbers isMachineInt isDouble = true := by
  intro value isValue
  obtain ⟨body, _, rfl⟩ := Option.map_eq_some_iff.mp isValue
  apply hasNumbers_structValue
  simp only [List.forall_mem_cons]
  exact ⟨numbers_textField _, numbers_textFieldIfSome _,
    numbers_textFieldIfSome _, List.forall_mem_nil _⟩

theorem numbers_promptValue
    {metadata : Option Value}
    (numbers :
      ∀ value ∈ metadata, value.hasNumbers isMachineInt isDouble = true)
    (id session text ts : String) :
    ∀ value ∈ envelopeValue (newPromptEnvelope id session text metadata ts),
      value.hasNumbers isMachineInt isDouble = true := by
  intro value isValue
  obtain ⟨body, isBody, rfl⟩ := Option.map_eq_some_iff.mp isValue
  have inBody : body.hasNumbers isMachineInt isDouble = true := by
    cases isBody
    apply hasNumbers_structValue
    simp only [List.forall_mem_cons]
    exact ⟨numbers_textField _, numbers_textField _, numbers,
      List.forall_mem_nil _⟩
  apply hasNumbers_structValue
  simp only [envelopeFields, List.forall_mem_cons]
  refine ⟨numbers_u32Field _, numbers_textField _, numbers_textField _,
    numbers_textField _, numbers_textField _, ?_, List.forall_mem_nil _⟩
  intro value isValue
  cases isValue
  exact inBody

end Frames

section Lines

variable {isDouble : String → Bool} (cfg : DebugConfig)

/-- A line of the connection, about a peer or not. -/
def connLine (peer : Option String) (fields : List (FieldKey × String))
    (distinct : (fields.map Prod.fst).Nodup) : Parts isDouble where
  cfg := cfg
  severity := .debug
  dir := .local
  component := .wire
  kind := .conn
  id := none
  peer := peer
  fields := fields
  frame := none
  distinct := distinct
  numbers := by
    intro value impossible
    cases impossible

def trace (message : String) : Parts isDouble :=
  connLine cfg none [(.event, message)] (List.nodup_singleton _)

/-- The line of a peer that got in. -/
def admittedLine (event tokenId : String) (addr : AddrText) :
    Parts isDouble :=
  connLine cfg (some (redact "token_id" tokenId))
    [(.event, event), (.addr, addr.text)]
    (by change [FieldKey.event, .addr].Nodup; decide)

/-- The line of a peer that did not. -/
def rejectedLine (event tokenId : String) (addr : AddrText) (reason : String) :
    Parts isDouble :=
  connLine cfg (some (redact "token_id" tokenId))
    [(.event, event), (.addr, addr.text), (.reason, reason)]
    (by change [FieldKey.event, .addr, .reason].Nodup; decide)

/-- The line of a session that the server itself ends. -/
def disconnectedLine (tokenId : String) (addr : AddrText) : Parts isDouble :=
  connLine cfg (some (redact "token_id" tokenId))
    [(.event, "disconnected"), (.addr, addr.text), (.close, "ambiguous")]
    (by change [FieldKey.event, .addr, .close].Nodup; decide)

/-- The details of a reply line; a reply without text has none. -/
def replyFields (session : String) (body : ReplyBody) :
    List (FieldKey × String) :=
  [(.session, session), (.done, toString body.done)] ++
    if textPreview body = "" then [] else [(.text, textPreview body)]

/-- The line of a reply, on receipt or where its prompt waits for it. -/
def replyLine (component : Component) (id peer session : String)
    (body : ReplyBody) : Parts isDouble where
  cfg := cfg
  severity := .debug
  dir := .into
  component := component
  kind := .reply
  id := some id
  peer := some peer
  fields := replyFields session body
  frame := bodyValue (.reply body)
  distinct := by
    unfold replyFields
    split
    · change [FieldKey.session, .done].Nodup
      decide
    · change [FieldKey.session, .done, .text].Nodup
      decide
  numbers := numbers_replyValue body

/-- The line of an exchange that ends without a reply. -/
def outcomeLine (id peer session outcome : String) (body? : Option ErrorBody) :
    Parts isDouble where
  cfg := cfg
  severity := .debug
  dir := .into
  component := .registry
  kind := .reply
  id := some id
  peer := some peer
  fields := [(.session, session), (.outcome, outcome)]
  frame := body?.map errorValue
  distinct := by
    change [FieldKey.session, .outcome].Nodup
    decide
  numbers := numbers_errorValue body?

/-- `warn_persist_failed`. -/
def persistFailedLine (session reason : String) : Parts isDouble where
  cfg := cfg
  severity := .warn
  dir := .local
  component := .talklog
  kind := .talklog
  id := none
  peer := none
  fields :=
    [(.event, "persist_failed"), (.session, session), (.reason, reason)]
  frame := none
  distinct := by
    change [FieldKey.event, .session, .reason].Nodup
    decide
  numbers := by
    intro value impossible
    cases impossible

end Lines

/-- What `Registry::prompt` is called with and what comes of it: whether the token
has a connection, whether its outbound channel takes the frame, and what arrives on
the channel of the call.  The prompt is recorded before, which may fail. -/
structure PromptRun (isDouble : String → Bool) where
  tokenId : String
  promptId : String
  session : String
  text : String
  metadata : Option Value
  ts : String
  saveError : Option String
  registered : Bool
  accepted : Bool
  items : List StreamItem
  numbers :
    ∀ value ∈ metadata, value.hasNumbers isMachineInt isDouble = true

namespace PromptRun

variable {isDouble : String → Bool} (cfg : DebugConfig) (run : PromptRun isDouble)

/-- The items the loop takes: up to the first that ends the exchange. -/
def takenOf : List StreamItem → List StreamItem
  | [] => []
  | item :: rest => item :: if item.terminal then [] else takenOf rest

def taken : List StreamItem :=
  if run.accepted then takenOf run.items else []

/-- The line of the outgoing prompt. -/
def sentLine : Parts isDouble where
  cfg := cfg
  severity := .debug
  dir := .out
  component := .registry
  kind := .prompt
  id := some run.promptId
  peer := some run.tokenId
  fields := [(.session, run.session), (.text, run.text)]
  frame :=
    envelopeValue
      (newPromptEnvelope run.promptId run.session run.text run.metadata run.ts)
  distinct := by
    change [FieldKey.session, .text].Nodup
    decide
  numbers := numbers_promptValue run.numbers _ _ _ _

def itemLines : StreamItem → List (Parts isDouble)
  | .event (.reply body) =>
      [replyLine cfg .registry run.promptId run.tokenId run.session body]
  | .event (.promptErr body) =>
      [outcomeLine cfg run.promptId run.tokenId run.session "err" (some body)]
  | .event .cancelled =>
      [outcomeLine cfg run.promptId run.tokenId run.session "cancelled" none]
  -- no other event is sent on the channel of a prompt
  | .event _ => []
  | .ended =>
      [outcomeLine cfg run.promptId run.tokenId run.session "timeout" none]

def lines : List (Parts isDouble) :=
  run.saveError.toList.map (persistFailedLine cfg run.session) ++
    if run.registered then
      run.sentLine cfg :: run.taken.flatMap (run.itemLines cfg)
    else []

end PromptRun

/-- What the lines of a connection are made with: the texts of `serde_json` for a row
of a `presence` frame that does not fit, and the address of the peer. -/
structure ConnLog where
  cfg : DebugConfig
  addr : AddrText
  rowError : Value → String

namespace ConnLog

variable {isDouble : String → Bool} (log : ConnLog) (settings : Settings)

section First

variable (environment : Environment) (context : Context)

/-- What a store call comes to, where the file system may fail it. -/
def storeReply (storeError : Option String) (reply : Token.Reply) :
    Token.Reply :=
  match storeError with
  | some message => .err (.io message)
  | none => reply

/-- The line after the store call of a `join`. -/
def joinLines (envelope : Envelope) : Token.Reply → List (Parts isDouble)
  | .ok (.redeemed _) => [admittedLine log.cfg "join_ok" envelope.sender log.addr]
  | .err error =>
      [rejectedLine log.cfg "join_rejected" envelope.sender log.addr
        (tokenErrorText settings.quoted environment.detail error)]
  | _ => []

/-- The line after the store call of an `auth`. -/
def authLines (envelope : Envelope) : Token.Reply → List (Parts isDouble)
  | .ok (.verified client) =>
      [admittedLine log.cfg "authenticated" client.tokenId log.addr]
  | .err error =>
      [rejectedLine log.cfg "auth_rejected" envelope.sender log.addr
        (tokenErrorText settings.quoted environment.detail error)]
  | _ => []

/-- The lines of a first frame, whose store call may fail on the file system. -/
def firstLines (storeError : Option String) (raw : String) : List (Parts isDouble) :=
  match decode settings.serde raw with
  | .error error =>
      [trace log.cfg
        ("[" ++ log.addr.text ++ "] first frame did not decode: " ++
          decodeErrorText error)]
  | .ok envelope =>
      match envelope.body with
      | .join body =>
          log.joinLines settings environment envelope
            (storeReply storeError
              ((Context.redeemOf environment envelope body.secret
                body.hostname).exec settings.crates settings.pepper
                  context.file).1)
      | .auth body =>
          match body.credential.asStr with
          | some credential =>
              log.authLines settings environment envelope
                (storeReply storeError
                  ((Context.verifyOf environment envelope credential).exec
                    settings.crates settings.pepper context.file).1)
          | none => []
      | _ => []

end First

section Session

variable (tokenId clientId : String) (clock : Nat → Nat)

/-- The lines of the rows of a `presence` frame; a row that is refused and a row that
does not fit are noted. -/
def rowLines : Nat → List Value → Roster → List (Parts isDouble)
  | _, [], _ => []
  | index, row :: rest, roster =>
      match readPresenceSession row with
      | none =>
          trace log.cfg
              ("presence: skipping malformed session row: " ++
                log.rowError row) ::
            rowLines index rest roster
      | some session =>
          let (advertised, outcome) :=
            roster.advertiseWithMode (clock index) session tokenId clientId
          let later := rowLines (index + 1) rest advertised
          match outcome with
          | .ok () => later
          | .error conflict =>
              trace log.cfg
                  ("presence: " ++ conflictText settings.quoted conflict ++
                    ", ignoring advertise") ::
                later

variable (context : Context) (saveError : Option String)

/-- The line of a reply that was not saved, if its prompt was recorded. -/
def replyWarnings (id : String) (body : ReplyBody) : List (Parts isDouble) :=
  if ((context.talkLog.load settings.talkJson body.session).findKey
      TalkEntry.id id).isSome then
    saveError.toList.map (persistFailedLine log.cfg body.session)
  else []

/-- The lines of a frame of a session, and of the end of the session where the frame
is its last. -/
def sessionLines (raw : String) : List (Parts isDouble) :=
  match decode settings.serde raw with
  | .error error =>
      [trace log.cfg ("frame did not decode: " ++ decodeErrorText error),
        disconnectedLine log.cfg tokenId log.addr]
  | .ok envelope =>
      match envelope.body with
      | .hello body =>
          [trace log.cfg ("client hello: hostname=" ++ body.hostname)]
      | .ping body =>
          [trace log.cfg ("client ping from " ++ body.hostname.getD "")]
      | .auth _ => [trace log.cfg "ignoring mid-session `auth` frame"]
      | .join _ | .joinOk _ =>
          [trace log.cfg
            ("ignoring mid-session " ++ variantName envelope.msgType ++
              " frame")]
      | .presence body =>
          log.rowLines settings tokenId clientId clock 0 body.sessions
            context.roster
      | .sessionBlocked body =>
          [trace log.cfg
            ("session_blocked: " ++ body.session ++ " blocked=" ++
              toString body.blocked)]
      | .reply body =>
          replyLine log.cfg .wire envelope.id clientId body.session body ::
            log.replyWarnings settings context saveError envelope.id body
      | .ack body =>
          match body.of with
          | some _ => []
          | none => [trace log.cfg "ignoring `ack` with no `of`"]
      | .prompt _ | .interrupt _ | .answer _ =>
          [trace log.cfg
            ("ignoring unimplemented frame type " ++
              variantName envelope.msgType)]
      | .query _ | .queryOk _ | .pong _ | .error _ => []

end Session

end ConnLog

end HollerServer.Debug
