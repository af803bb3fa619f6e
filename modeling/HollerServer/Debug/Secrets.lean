import HollerServer.Debug.CallSites

/-!
# Which secrets reach the log

For every level and format, every inbound text frame and every prompt: no line that is
emitted holds a secret exactly if no text does that is shown beside the frames.  With
debugging on these are the message of a decode error, hostnames, session names, the
texts of prompts and replies, the identifiers as far as they are shown, the sender of
a first frame, and the names in a refused or unfit row of a `presence` frame.  Where
the talk log cannot be saved, the session is shown at any level.
-/

namespace HollerServer.Debug

open HollerServer.Proto HollerServer.Wire HollerServer.Token Runs

section Phrases

/-- No secret reaches out of a text that ends outside a token. -/
theorem holdsSecret_append_iff_of_last
    {left right : String}
    (last : ∀ char ∈ left.toList.getLast?, isTokenChar char = false) :
    HoldsSecret (left ++ right) ↔ HoldsSecret left ∨ HoldsSecret right := by
  unfold HoldsSecret
  rw [String.toList_append]
  exact Pattern.occurs_append_iff_of_last last

/-- Nor into a text that starts outside one. -/
theorem holdsSecret_append_iff_of_ends
    {left right : String} (ends : EndsToken right.toList) :
    HoldsSecret (left ++ right) ↔ HoldsSecret left ∨ HoldsSecret right := by
  unfold HoldsSecret
  rw [String.toList_append]
  exact ends.occurs_append_iff

/-- A constant in front of a text: it holds no secret and ends outside a token. -/
def Opens (constant : String) : Prop :=
  ¬HoldsSecret constant ∧
    ∀ char ∈ constant.toList.getLast?, isTokenChar char = false

/-- A constant behind a text. -/
def Closes (constant : String) : Prop :=
  ¬HoldsSecret constant ∧
    ∀ char ∈ constant.toList.head?, isTokenChar char = false

theorem opens_ofList
    {chars : List Char}
    (opens :
      ¬secretPattern.Occurs chars ∧
        chars.getLast?.any isTokenChar = false) :
    Opens (String.ofList chars) := by
  refine ⟨not_holdsSecret_ofList opens.1, ?_⟩
  rw [String.toList_ofList]
  intro char isLast
  have ends : chars.getLast? = some char := isLast
  simpa only [ends, Option.any_some] using opens.2

theorem closes_ofList
    {chars : List Char}
    (closes :
      ¬secretPattern.Occurs chars ∧
        chars.head?.any isTokenChar = false) :
    Closes (String.ofList chars) := by
  refine ⟨not_holdsSecret_ofList closes.1, ?_⟩
  rw [String.toList_ofList]
  intro char isHead
  have isFirst : chars.head? = some char := isHead
  simpa only [isFirst, Option.any_some] using closes.2

theorem Opens.holdsSecret_iff
    {constant : String} (opens : Opens constant) (text : String) :
    HoldsSecret (constant ++ text) ↔ HoldsSecret text := by
  rw [holdsSecret_append_iff_of_last opens.2, or_iff_right opens.1]

theorem Closes.holdsSecret_iff
    {constant : String} (closes : Closes constant) (text : String) :
    HoldsSecret (text ++ constant) ↔ HoldsSecret text := by
  rw [holdsSecret_append_iff_of_ends closes.2, or_iff_left closes.1]

theorem holdsSecret_between_iff
    {before after : String} (opens : Opens before) (closes : Closes after)
    (text : String) :
    HoldsSecret (before ++ text ++ after) ↔ HoldsSecret text := by
  rw [closes.holdsSecret_iff, opens.holdsSecret_iff]

theorem not_holdsSecret_of_notMem
    {text : String} (absent : 'h' ∉ text.toList) : ¬HoldsSecret text :=
  Pattern.not_occurs_of_notMem absent

theorem AddrText.notMem (addr : AddrText) : 'h' ∉ addr.text.toList := by
  intro isMember
  cases List.all_eq_true.mp addr.plain _ isMember

theorem redact_tokenId (value : String) : redact "token_id" value = value := by
  have listed :
      neverPrintFields.contains
          (String.ofList ("token_id".toList.map Char.toLower)) =
        false := by
    decide
  unfold redact
  rw [listed]
  rfl

theorem not_holdsSecret_variantName (msgType : MessageType) :
    ¬HoldsSecret (variantName msgType) := by
  cases msgType
  all_goals exact not_holdsSecret_ofList (by decide)

/-- The message of a frame that does not decode holds no secret. -/
def PlainError : DecodeError → Prop
  | .malformed message => ¬HoldsSecret message
  | .unsupportedVersion _ | .unknownType => True

theorem notMem_toString (number : UInt32) : 'h' ∉ (toString number).toList := by
  have written : (toString number).toList = Nat.toDigits 10 number.toNat :=
    Nat.toList_repr
  intro isMember
  rw [written] at isMember
  have digit : Char.isDigit 'h' = true :=
    Nat.isDigit_of_mem_toDigits (by decide) (by decide) isMember
  cases digit

theorem plainError_iff (error : DecodeError) :
    ¬HoldsSecret (decodeErrorText error) ↔ PlainError error := by
  cases error with
  | unsupportedVersion v =>
      refine iff_of_true ?_ trivial
      unfold decodeErrorText
      rw [holdsSecret_between_iff (opens_ofList (by decide))
        (closes_ofList (by decide))]
      exact not_holdsSecret_of_notMem (notMem_toString v)
  | unknownType =>
      exact iff_of_true (not_holdsSecret_ofList (by decide)) trivial
  | malformed message =>
      unfold decodeErrorText
      rw [Opens.holdsSecret_iff (opens_ofList (by decide))]
      rfl

/-- What an error over a token tells: the text of the crate it comes from, or else the
token. -/
def told (tokenId detail : String) : TokenError → String
  | .serde | .rng => detail
  | .io message | .time message => message
  | _ => tokenId

theorem holdsSecret_tokenErrorText_iff
    (quoted : String → String) {tokenId detail : String} {error : TokenError}
    (concerns : error.Concerns tokenId) :
    HoldsSecret (tokenErrorText quoted detail error) ↔
      HoldsSecret (told tokenId detail error) := by
  cases error with
  | pepperMissing => cases concerns
  | invalidTtl ttl => cases concerns
  | notFound named =>
      cases concerns
      exact Opens.holdsSecret_iff (opens_ofList (by decide)) tokenId
  | unbound named =>
      cases concerns
      exact holdsSecret_between_iff (opens_ofList (by decide))
        (closes_ofList (by decide)) tokenId
  | disconnected named =>
      cases concerns
      exact holdsSecret_between_iff (opens_ofList (by decide))
        (closes_ofList (by decide)) tokenId
  | wrongSecret named =>
      cases concerns
      exact Opens.holdsSecret_iff (opens_ofList (by decide)) tokenId
  | wrongCredential named =>
      cases concerns
      exact Opens.holdsSecret_iff (opens_ofList (by decide)) tokenId
  | alreadyBound named =>
      cases concerns
      exact holdsSecret_between_iff (opens_ofList (by decide))
        (closes_ofList (by decide)) tokenId
  | invalidated named =>
      cases concerns
      exact holdsSecret_between_iff (opens_ofList (by decide))
        (closes_ofList (by decide)) tokenId
  | revoked named =>
      cases concerns
      exact holdsSecret_between_iff (opens_ofList (by decide))
        (closes_ofList (by decide)) tokenId
  | stale named =>
      cases concerns
      exact holdsSecret_between_iff (opens_ofList (by decide))
        (closes_ofList (by decide)) tokenId
  | io message => exact Opens.holdsSecret_iff (opens_ofList (by decide)) message
  | serde => exact Opens.holdsSecret_iff (opens_ofList (by decide)) detail
  | rng => exact Opens.holdsSecret_iff (opens_ofList (by decide)) detail
  | time message => exact Opens.holdsSecret_iff (opens_ofList (by decide)) message

end Phrases

section Lines

variable {serde : SerdeJson} {isDouble : String → Bool} {reread : String → String}
  {cfg : DebugConfig}

/-- With debugging on a text is plain if it holds no secret; with debugging off it is
not written. -/
def Plain (cfg : DebugConfig) (text : String) : Prop :=
  cfg.isOn = true → ¬HoldsSecret text

/-- So is an identifier, as far as it is shown. -/
def PlainId (cfg : DebugConfig) (id : String) : Prop :=
  Plain cfg (shown cfg.format id)

theorem keepsSecrets_iff_of_debug
    (reads : ReadsLimited serde isDouble reread) {parts : Parts isDouble}
    (debug : parts.severity = .debug) :
    KeepsSecrets serde parts ↔
      (∀ id ∈ parts.id, PlainId parts.cfg id) ∧
        (∀ peer ∈ parts.peer, PlainId parts.cfg peer) ∧
        ∀ detail ∈ parts.fields, Plain parts.cfg detail.2 := by
  have written : parts.written = parts.cfg.isOn := by
    unfold Parts.written
    rw [debug]
    rfl
  rw [keepsSecrets_iff reads, withholds_iff, written]
  unfold PlainId Plain
  by_cases on : parts.cfg.isOn = true
  · simp only [on, forall_const]
  · simp [on]

theorem keepsSecrets_connLine_iff
    (reads : ReadsLimited serde isDouble reread)
    {peer : Option String} {fields : List (FieldKey × String)}
    {distinct : (fields.map Prod.fst).Nodup} :
    KeepsSecrets serde (connLine cfg peer fields distinct : Parts isDouble) ↔
      (∀ tokenId ∈ peer, PlainId cfg tokenId) ∧
        ∀ detail ∈ fields, Plain cfg detail.2 := by
  rw [keepsSecrets_iff_of_debug reads rfl]
  simp [connLine]

theorem plain_of_not_holdsSecret
    {text : String} (clean : ¬HoldsSecret text) : Plain cfg text :=
  fun _ => clean

theorem plain_congr
    {text other : String} (same : HoldsSecret text ↔ HoldsSecret other) :
    Plain cfg text ↔ Plain cfg other := by
  unfold Plain
  rw [same]

theorem keepsSecrets_trace_iff
    (reads : ReadsLimited serde isDouble reread) (message : String) :
    KeepsSecrets serde (trace cfg message : Parts isDouble) ↔
      Plain cfg message := by
  unfold trace
  rw [keepsSecrets_connLine_iff reads]
  simp

theorem plain_addr (addr : AddrText) : Plain cfg addr.text :=
  plain_of_not_holdsSecret (not_holdsSecret_of_notMem addr.notMem)

theorem keepsSecrets_admittedLine_iff
    (reads : ReadsLimited serde isDouble reread)
    {event : String} (constant : ¬HoldsSecret event) (tokenId : String)
    (addr : AddrText) :
    KeepsSecrets serde (admittedLine cfg event tokenId addr : Parts isDouble) ↔
      PlainId cfg tokenId := by
  unfold admittedLine
  rw [keepsSecrets_connLine_iff reads, redact_tokenId]
  simp [plain_of_not_holdsSecret constant, plain_addr addr]

theorem keepsSecrets_rejectedLine_iff
    (reads : ReadsLimited serde isDouble reread)
    {event : String} (constant : ¬HoldsSecret event) (tokenId : String)
    (addr : AddrText) (reason : String) :
    KeepsSecrets serde
        (rejectedLine cfg event tokenId addr reason : Parts isDouble) ↔
      PlainId cfg tokenId ∧ Plain cfg reason := by
  unfold rejectedLine
  rw [keepsSecrets_connLine_iff reads, redact_tokenId]
  simp [plain_of_not_holdsSecret constant, plain_addr addr]

theorem keepsSecrets_disconnectedLine_iff
    (reads : ReadsLimited serde isDouble reread) (tokenId : String)
    (addr : AddrText) :
    KeepsSecrets serde (disconnectedLine cfg tokenId addr : Parts isDouble) ↔
      PlainId cfg tokenId := by
  have event : Plain cfg "disconnected" :=
    plain_of_not_holdsSecret (not_holdsSecret_ofList (by decide))
  have close : Plain cfg "ambiguous" :=
    plain_of_not_holdsSecret (not_holdsSecret_ofList (by decide))
  unfold disconnectedLine
  rw [keepsSecrets_connLine_iff reads, redact_tokenId]
  simp [event, close, plain_addr addr]

theorem keepsSecrets_replyLine_iff
    (reads : ReadsLimited serde isDouble reread) (component : Component)
    (id peer session : String) (body : ReplyBody) :
    KeepsSecrets serde
        (replyLine cfg component id peer session body : Parts isDouble) ↔
      PlainId cfg id ∧ PlainId cfg peer ∧ Plain cfg session ∧
        Plain cfg (textPreview body) := by
  have done : Plain cfg (toString body.done) := by
    apply plain_of_not_holdsSecret
    cases body.done <;> decide
  have empty : Plain cfg "" := plain_of_not_holdsSecret (by decide)
  have fields :
      (∀ detail ∈ replyFields session body, Plain cfg detail.2) ↔
        Plain cfg session ∧ Plain cfg (textPreview body) := by
    unfold replyFields
    by_cases blank : textPreview body = ""
    · simp [blank, done, empty]
    · simp [blank, done]
  rw [keepsSecrets_iff_of_debug reads rfl, ← fields]
  simp [replyLine]

theorem keepsSecrets_outcomeLine_iff
    (reads : ReadsLimited serde isDouble reread)
    {outcome : String} (constant : ¬HoldsSecret outcome)
    (id peer session : String) (body? : Option ErrorBody) :
    KeepsSecrets serde
        (outcomeLine cfg id peer session outcome body? : Parts isDouble) ↔
      PlainId cfg id ∧ PlainId cfg peer ∧ Plain cfg session := by
  rw [keepsSecrets_iff_of_debug reads rfl]
  simp [outcomeLine, plain_of_not_holdsSecret constant]

/-- A warning is written at every level. -/
theorem keepsSecrets_persistFailedLine_iff
    (reads : ReadsLimited serde isDouble reread) (session reason : String) :
    KeepsSecrets serde
        (persistFailedLine cfg session reason : Parts isDouble) ↔
      ¬HoldsSecret session ∧ ¬HoldsSecret reason := by
  have event : ¬HoldsSecret "persist_failed" :=
    not_holdsSecret_ofList (by decide)
  have written :
      (persistFailedLine cfg session reason : Parts isDouble).written =
        true :=
    rfl
  rw [keepsSecrets_iff reads, withholds_iff, forall_prop_of_true written]
  simp [persistFailedLine, event]

end Lines

/-- What the line after a store call shows: the sender as far as it is shown, and in
the reason of a refusal all of it or what a crate tells. -/
def PlainAttempt (cfg : DebugConfig) (sender detail : String) :
    Token.Reply → Prop
  | .ok _ => PlainId cfg sender
  | .err error => PlainId cfg sender ∧ Plain cfg (told sender detail error)
  | .panicked => True

namespace ConnLog

variable (log : ConnLog) (settings : Settings)

section First

variable (environment : Environment) (context : Context)

/-- A first frame gives no secret away. -/
def PlainFirst (storeError : Option String) (raw : String) : Prop :=
  match decode settings.serde raw with
  | .error error => log.cfg.isOn = true → PlainError error
  | .ok envelope =>
      match envelope.body with
      | .join body =>
          PlainAttempt log.cfg envelope.sender environment.detail
            (storeReply storeError
              ((Context.redeemOf environment envelope body.secret
                body.hostname).exec settings.crates settings.pepper
                  context.file).1)
      | .auth body =>
          match body.credential.asStr with
          | some credential =>
              PlainAttempt log.cfg envelope.sender environment.detail
                (storeReply storeError
                  ((Context.verifyOf environment envelope credential).exec
                    settings.crates settings.pepper context.file).1)
          | none => True
      | _ => True

end First

section Session

variable (tokenId clientId : String) (clock : Nat → Nat)

/-- No row of a `presence` frame gives a secret away: neither the error of a row that
does not fit, nor the name and the holder of a row that another client holds. -/
def PlainRows : Nat → List Value → Roster → Prop
  | _, [], _ => True
  | index, row :: rest, roster =>
      match readPresenceSession row with
      | none => Plain log.cfg (log.rowError row) ∧ PlainRows index rest roster
      | some session =>
          (∀ held, roster.get? session.name = some held →
            held.tokenId ≠ tokenId →
            roster.live (clock index) held = true →
            Plain log.cfg (settings.quoted session.name) ∧
              Plain log.cfg held.clientId) ∧
            PlainRows (index + 1) rest
              (roster.advertiseWithMode (clock index) session tokenId
                clientId).1

variable (context : Context) (saveError : Option String)

/-- Where a recorded reply cannot be saved, its session and the error of the file
system are shown. -/
def PlainSave (id session : String) : Prop :=
  ((context.talkLog.load settings.talkJson session).findKey TalkEntry.id
      id).isSome = true →
    ∀ reason ∈ saveError, ¬HoldsSecret session ∧ ¬HoldsSecret reason

/-- A frame of a session gives no secret away. -/
def PlainSession (raw : String) : Prop :=
  match decode settings.serde raw with
  | .error error =>
      (log.cfg.isOn = true → PlainError error) ∧ PlainId log.cfg tokenId
  | .ok envelope =>
      match envelope.body with
      | .hello body => Plain log.cfg body.hostname
      | .ping body => Plain log.cfg (body.hostname.getD "")
      | .presence body =>
          log.PlainRows settings tokenId clientId clock 0 body.sessions
            context.roster
      | .sessionBlocked body => Plain log.cfg body.session
      | .reply body =>
          (PlainId log.cfg envelope.id ∧ PlainId log.cfg clientId ∧
            Plain log.cfg body.session ∧ Plain log.cfg (textPreview body)) ∧
            PlainSave settings context saveError envelope.id body.session
      | _ => True

end Session

end ConnLog

/-- A prompt gives no secret away: with a connection, neither its identifiers, its
session and its text nor the texts of its replies; where it cannot be recorded, its
session and the error of the file system. -/
def PromptRun.PlainPrompt {isDouble : String → Bool} (cfg : DebugConfig)
    (run : PromptRun isDouble) : Prop :=
  (∀ reason ∈ run.saveError,
      ¬HoldsSecret run.session ∧ ¬HoldsSecret reason) ∧
    (run.registered = true →
      PlainId cfg run.promptId ∧ PlainId cfg run.tokenId ∧
        Plain cfg run.session ∧ Plain cfg run.text ∧
        ∀ body, .event (.reply body) ∈ run.taken →
          Plain cfg (textPreview body))

section Frames

variable {settings : Settings} {isDouble : String → Bool}
  {reread : String → String} {log : ConnLog}
  {environment : Environment} {context : Context}

theorem plainAttempt_iff_refused
    (reads : ReadsLimited settings.serde isDouble reread)
    {event : String} (constant : ¬HoldsSecret event)
    {sender : String} {error : TokenError}
    (concerns : error.Concerns sender) :
    (∀ parts ∈
        [(rejectedLine log.cfg event sender log.addr
          (tokenErrorText settings.quoted environment.detail error) :
            Parts isDouble)],
        KeepsSecrets settings.serde parts) ↔
      PlainAttempt log.cfg sender environment.detail (.err error) := by
  rw [List.forall_mem_singleton, keepsSecrets_rejectedLine_iff reads constant,
    plain_congr (holdsSecret_tokenErrorText_iff settings.quoted concerns)]
  rfl

theorem joinLines_iff
    (reads : ReadsLimited settings.serde isDouble reread)
    (envelope : Envelope) (secret hostname : String) :
    (∀ parts ∈
        (log.joinLines settings environment envelope
          ((Context.redeemOf environment envelope secret hostname).exec
            settings.crates settings.pepper context.file).1 :
          List (Parts isDouble)),
        KeepsSecrets settings.serde parts) ↔
      PlainAttempt log.cfg envelope.sender environment.detail
        ((Context.redeemOf environment envelope secret hostname).exec
          settings.crates settings.pepper context.file).1 := by
  have refuses :
      RefusesOver envelope.sender
        ((Context.redeemOf environment envelope secret hostname).exec
          settings.crates settings.pepper context.file).1 :=
    refusesOver_exec_redeem _ _ _ _ _ _
  cases executed :
      (Context.redeemOf environment envelope secret hostname).exec
        settings.crates settings.pepper context.file with
  | mk reply file =>
      rw [executed] at refuses
      cases reply with
      | ok answer =>
          obtain ⟨result, rfl⟩ := Mutation.exec_redeem_eq_ok executed
          change
            (∀ parts ∈ [admittedLine log.cfg "join_ok" envelope.sender log.addr],
              KeepsSecrets settings.serde parts) ↔ _
          rw [List.forall_mem_singleton,
            keepsSecrets_admittedLine_iff reads
              (not_holdsSecret_ofList (by decide))]
          rfl
      | err error =>
          exact plainAttempt_iff_refused reads
            (not_holdsSecret_ofList (by decide))
            (refuses error rfl)
      | panicked => exact iff_of_true (List.forall_mem_nil _) trivial

theorem authLines_iff
    (reads : ReadsLimited settings.serde isDouble reread)
    (envelope : Envelope) (credential : String) :
    (∀ parts ∈
        (log.authLines settings environment envelope
          ((Context.verifyOf environment envelope credential).exec
            settings.crates settings.pepper context.file).1 :
          List (Parts isDouble)),
        KeepsSecrets settings.serde parts) ↔
      PlainAttempt log.cfg envelope.sender environment.detail
        ((Context.verifyOf environment envelope credential).exec
          settings.crates settings.pepper context.file).1 := by
  have refuses :
      RefusesOver envelope.sender
        ((Context.verifyOf environment envelope credential).exec
          settings.crates settings.pepper context.file).1 :=
    refusesOver_exec_verifyCredential _ _ _
  cases executed :
      (Context.verifyOf environment envelope credential).exec
        settings.crates settings.pepper context.file with
  | mk reply file =>
      rw [executed] at refuses
      cases reply with
      | ok answer =>
          obtain ⟨client, rfl⟩ := Mutation.exec_verifyCredential_eq_ok executed
          have same : client.tokenId = envelope.sender :=
            Mutation.tokenId_of_exec_verifyCredential executed
          change
            (∀ parts ∈
              [admittedLine log.cfg "authenticated" client.tokenId log.addr],
              KeepsSecrets settings.serde parts) ↔ _
          rw [List.forall_mem_singleton,
            keepsSecrets_admittedLine_iff reads
              (not_holdsSecret_ofList (by decide)), same]
          rfl
      | err error =>
          exact plainAttempt_iff_refused reads
            (not_holdsSecret_ofList (by decide))
            (refuses error rfl)
      | panicked => exact iff_of_true (List.forall_mem_nil _) trivial

/-- Lines that are right for what the store answers and for a failure of the file
system are right. -/
theorem storeReply_iff
    {serde : SerdeJson} {lines : Token.Reply → List (Parts isDouble)}
    {plain : Token.Reply → Prop} {reply : Token.Reply}
    (storeError : Option String)
    (served :
      (∀ parts ∈ lines reply, KeepsSecrets serde parts) ↔ plain reply)
    (failed :
      ∀ message,
        (∀ parts ∈ lines (.err (.io message)), KeepsSecrets serde parts) ↔
          plain (.err (.io message))) :
    (∀ parts ∈ lines (ConnLog.storeReply storeError reply),
        KeepsSecrets serde parts) ↔
      plain (ConnLog.storeReply storeError reply) := by
  cases storeError with
  | none => exact served
  | some message => exact failed message

theorem plain_decodeError_iff
    {opening : String} (opens : Opens opening) (error : DecodeError) :
    Plain log.cfg (opening ++ decodeErrorText error) ↔
      (log.cfg.isOn = true → PlainError error) := by
  rw [plain_congr (opens.holdsSecret_iff _)]
  unfold Plain
  rw [plainError_iff]

theorem AddrText.opens (addr : AddrText) :
    Opens ("[" ++ addr.text ++ "] first frame did not decode: ") := by
  constructor
  · apply not_holdsSecret_of_notMem
    simp only [String.toList_append, List.mem_append, not_or]
    exact ⟨⟨by decide, addr.notMem⟩, by decide⟩
  · intro char isLast
    rw [String.toList_append, List.getLast?_append_of_ne_nil _ (by decide)]
      at isLast
    cases isLast
    rfl

/-- The lines of a first frame hold no secret exactly if it gives none away. -/
theorem firstLines_iff
    (reads : ReadsLimited settings.serde isDouble reread)
    (storeError : Option String) (raw : String) :
    (∀ parts ∈
        (log.firstLines settings environment context storeError raw :
          List (Parts isDouble)),
        KeepsSecrets settings.serde parts) ↔
      log.PlainFirst settings environment context storeError raw := by
  unfold ConnLog.firstLines ConnLog.PlainFirst
  cases decode settings.serde raw with
  | error error =>
      simp only
      rw [List.forall_mem_singleton, keepsSecrets_trace_iff reads]
      exact plain_decodeError_iff log.addr.opens error
  | ok envelope =>
      have silent :
          (∀ parts ∈ ([] : List (Parts isDouble)),
            KeepsSecrets settings.serde parts) ↔ True :=
        iff_true_intro (List.forall_mem_nil _)
      cases body : envelope.body with
      | join inner =>
          simp only [body]
          exact
            storeReply_iff storeError
              (joinLines_iff reads envelope inner.secret inner.hostname)
              fun _ =>
                plainAttempt_iff_refused reads
                  (not_holdsSecret_ofList (by decide)) trivial
      | auth inner =>
          simp only [body]
          cases inner.credential.asStr with
          | some credential =>
              exact
                storeReply_iff storeError
                  (authLines_iff reads envelope credential)
                  fun _ =>
                    plainAttempt_iff_refused reads
                      (not_holdsSecret_ofList (by decide)) trivial
          | none => exact silent
      | _ => simpa only [body] using silent

theorem endsToken_append_of_head
    {left right : String} {char : Char}
    (head : left.toList.head? = some char)
    (outside : isTokenChar char = false) :
    EndsToken (left ++ right).toList := by
  intro other isHead
  rw [String.toList_append, List.head?_append, head] at isHead
  cases isHead
  exact outside

theorem plain_conflict_iff
    (cfg : DebugConfig) (quoted : String → String)
    (conflict : RosterConflict) :
    Plain cfg
        ("presence: " ++ conflictText quoted conflict ++
          ", ignoring advertise") ↔
      Plain cfg (quoted conflict.session) ∧
        Plain cfg conflict.heldByClientId := by
  have holder :
      HoldsSecret
          (" is already advertised by client " ++ conflict.heldByClientId) ↔
        HoldsSecret conflict.heldByClientId :=
    Opens.holdsSecret_iff (opens_ofList (by decide)) _
  have inConflict :
      HoldsSecret (conflictText quoted conflict) ↔
        HoldsSecret (quoted conflict.session) ∨
          HoldsSecret conflict.heldByClientId := by
    have ends :
        EndsToken
          (" is already advertised by client " ++
            conflict.heldByClientId).toList :=
      endsToken_append_of_head rfl rfl
    unfold conflictText
    rw [String.append_assoc, holdsSecret_append_iff_of_ends ends, holder,
      Opens.holdsSecret_iff (opens_ofList (by decide))]
  unfold Plain
  rw [holdsSecret_between_iff (opens_ofList (by decide))
        (closes_ofList (by decide)), inConflict, not_or]
  exact forall_and

section Session

variable {tokenId clientId : String} {clock : Nat → Nat}

/-- The lines of the rows hold no secret exactly if the rows give none away. -/
theorem rowLines_iff
    (reads : ReadsLimited settings.serde isDouble reread)
    (index : Nat) (rows : List Value) (roster : Roster) :
    (∀ parts ∈
        (log.rowLines settings tokenId clientId clock index rows roster :
          List (Parts isDouble)),
        KeepsSecrets settings.serde parts) ↔
      log.PlainRows settings tokenId clientId clock index rows roster := by
  induction rows generalizing index roster with
  | nil => exact iff_of_true (List.forall_mem_nil _) trivial
  | cons row rest inductionHypothesis =>
      unfold ConnLog.rowLines ConnLog.PlainRows
      cases readPresenceSession row with
      | none =>
          simp only
          rw [List.forall_mem_cons, keepsSecrets_trace_iff reads,
            inductionHypothesis,
            plain_congr (Opens.holdsSecret_iff (opens_ofList (by decide)) _)]
      | some session =>
          have advertises :=
            roster.advertises_advertiseWithMode (clock index) session tokenId
              clientId
          simp only
          generalize
            roster.advertiseWithMode (clock index) session tokenId clientId =
              result at advertises ⊢
          cases advertises with
          | inserted free =>
              simp only
              rw [inductionHypothesis, iff_and_self]
              intro _ held isHeld other live
              rcases free held isHeld with own | gone
              · exact absurd own other
              · rw [live] at gone
                cases gone
          | refused isHeld other live =>
              simp only
              rw [List.forall_mem_cons, keepsSecrets_trace_iff reads,
                inductionHypothesis, plain_conflict_iff]
              refine and_congr_left ?_
              intro _
              constructor
              · intro plain held alsoHeld _ _
                rw [isHeld] at alsoHeld
                cases alsoHeld
                exact plain
              · intro plain
                exact plain _ isHeld other live

variable {saveError : Option String}

theorem persistFailedLines_iff
    {serde : SerdeJson} (reads : ReadsLimited serde isDouble reread)
    (cfg : DebugConfig) (session : String) (saveError : Option String) :
    (∀ parts ∈
        (saveError.toList.map (persistFailedLine cfg session) :
          List (Parts isDouble)),
        KeepsSecrets serde parts) ↔
      ∀ reason ∈ saveError, ¬HoldsSecret session ∧ ¬HoldsSecret reason := by
  simp only [List.forall_mem_map, Option.mem_toList, Option.mem_def,
    keepsSecrets_persistFailedLine_iff reads]

theorem replyWarnings_iff
    (reads : ReadsLimited settings.serde isDouble reread)
    (id : String) (body : ReplyBody) :
    (∀ parts ∈
        (log.replyWarnings settings context saveError id body :
          List (Parts isDouble)),
        KeepsSecrets settings.serde parts) ↔
      ConnLog.PlainSave settings context saveError id body.session := by
  unfold ConnLog.replyWarnings ConnLog.PlainSave
  split
  · next recorded =>
      rw [persistFailedLines_iff reads, forall_prop_of_true recorded]
  · next unrecorded =>
      exact iff_of_true (List.forall_mem_nil _)
        fun recorded => absurd recorded unrecorded

/-- The lines of a frame of a session hold no secret exactly if it gives none
away. -/
theorem sessionLines_iff
    (reads : ReadsLimited settings.serde isDouble reread) (raw : String) :
    (∀ parts ∈
        (log.sessionLines settings tokenId clientId clock context saveError
          raw : List (Parts isDouble)),
        KeepsSecrets settings.serde parts) ↔
      log.PlainSession settings tokenId clientId clock context saveError
        raw := by
  have silent :
      (∀ parts ∈ ([] : List (Parts isDouble)),
        KeepsSecrets settings.serde parts) ↔ True :=
    iff_true_intro (List.forall_mem_nil _)
  have constant {message : String} (clean : ¬HoldsSecret message) :
      (∀ parts ∈ [(trace log.cfg message : Parts isDouble)],
        KeepsSecrets settings.serde parts) ↔ True := by
    rw [List.forall_mem_singleton, keepsSecrets_trace_iff reads]
    exact iff_true_intro (plain_of_not_holdsSecret clean)
  unfold ConnLog.sessionLines ConnLog.PlainSession
  cases decode settings.serde raw with
  | error error =>
      simp only
      rw [List.forall_mem_cons, List.forall_mem_singleton,
        keepsSecrets_trace_iff reads, keepsSecrets_disconnectedLine_iff reads,
        plain_decodeError_iff (opens_ofList (by decide))]
  | ok envelope =>
      cases body : envelope.body with
      | hello inner =>
          simp only [body]
          rw [List.forall_mem_singleton, keepsSecrets_trace_iff reads,
            plain_congr (Opens.holdsSecret_iff (opens_ofList (by decide)) _)]
      | ping inner =>
          simp only [body]
          rw [List.forall_mem_singleton, keepsSecrets_trace_iff reads,
            plain_congr (Opens.holdsSecret_iff (opens_ofList (by decide)) _)]
      | auth inner => simpa only [body] using constant (not_holdsSecret_ofList (by decide))
      | join inner =>
          simp only [body]
          apply constant
          rw [holdsSecret_between_iff (opens_ofList (by decide))
            (closes_ofList (by decide))]
          exact not_holdsSecret_variantName _
      | joinOk inner =>
          simp only [body]
          apply constant
          rw [holdsSecret_between_iff (opens_ofList (by decide))
            (closes_ofList (by decide))]
          exact not_holdsSecret_variantName _
      | presence inner =>
          simp only [body]
          exact rowLines_iff reads 0 inner.sessions context.roster
      | sessionBlocked inner =>
          simp only [body]
          have closes : Closes (" blocked=" ++ toString inner.blocked) := by
            constructor
            · rw [Opens.holdsSecret_iff (opens_ofList (by decide))]
              cases inner.blocked <;> decide
            · exact endsToken_append_of_head rfl rfl
          rw [List.forall_mem_singleton, keepsSecrets_trace_iff reads,
            String.append_assoc, plain_congr
              (holdsSecret_between_iff (opens_ofList (by decide)) closes
                inner.session)]
      | reply inner =>
          simp only [body]
          rw [List.forall_mem_cons, keepsSecrets_replyLine_iff reads,
            replyWarnings_iff reads]
      | ack inner =>
          simp only [body]
          cases inner.of with
          | some acknowledged => exact silent
          | none => exact constant (not_holdsSecret_ofList (by decide))
      | prompt inner =>
          simp only [body]
          apply constant
          rw [Opens.holdsSecret_iff (opens_ofList (by decide))]
          exact not_holdsSecret_variantName _
      | interrupt inner =>
          simp only [body]
          apply constant
          rw [Opens.holdsSecret_iff (opens_ofList (by decide))]
          exact not_holdsSecret_variantName _
      | answer inner =>
          simp only [body]
          apply constant
          rw [Opens.holdsSecret_iff (opens_ofList (by decide))]
          exact not_holdsSecret_variantName _
      | query inner => simpa only [body] using silent
      | queryOk inner => simpa only [body] using silent
      | pong inner => simpa only [body] using silent
      | error inner => simpa only [body] using silent

end Session

end Frames

section Prompts

variable {serde : SerdeJson} {isDouble : String → Bool}
  {reread : String → String} {cfg : DebugConfig} {run : PromptRun isDouble}

theorem keepsSecrets_sentLine_iff
    (reads : ReadsLimited serde isDouble reread) :
    KeepsSecrets serde (run.sentLine cfg) ↔
      PlainId cfg run.promptId ∧ PlainId cfg run.tokenId ∧
        Plain cfg run.session ∧ Plain cfg run.text := by
  rw [keepsSecrets_iff_of_debug reads rfl]
  simp [PromptRun.sentLine]

/-- Once the prompt itself gives nothing away, an item of its stream does so in the
text of a reply only. -/
theorem itemLines_iff
    (reads : ReadsLimited serde isDouble reread)
    (promptId : PlainId cfg run.promptId) (tokenId : PlainId cfg run.tokenId)
    (session : Plain cfg run.session) (item : StreamItem) :
    (∀ parts ∈ run.itemLines cfg item, KeepsSecrets serde parts) ↔
      ∀ body, item = .event (.reply body) → Plain cfg (textPreview body) := by
  have outcome {text : String} (constant : ¬HoldsSecret text)
      (body? : Option ErrorBody) :
      ∀ parts ∈
        [outcomeLine cfg run.promptId run.tokenId run.session text body?],
        KeepsSecrets serde (parts : Parts isDouble) := by
    rw [List.forall_mem_singleton, keepsSecrets_outcomeLine_iff reads constant]
    exact ⟨promptId, tokenId, session⟩
  have noReply {item : StreamItem}
      (other : ∀ body, item ≠ .event (.reply body)) :
      ∀ body, item = .event (.reply body) →
        Plain cfg (textPreview body) := by
    intro body isReply
    exact absurd isReply (other body)
  cases item with
  | ended =>
      exact
        iff_of_true (outcome (not_holdsSecret_ofList (by decide)) none)
          (noReply (by simp))
  | event event =>
      cases event with
      | reply body =>
          change
            (∀ parts ∈
              [replyLine cfg .registry run.promptId run.tokenId run.session
                body], KeepsSecrets serde (parts : Parts isDouble)) ↔ _
          rw [List.forall_mem_singleton, keepsSecrets_replyLine_iff reads]
          simp [promptId, tokenId, session]
      | promptErr body =>
          exact iff_of_true (outcome (not_holdsSecret_ofList (by decide)) (some body))
            (noReply (by simp))
      | cancelled =>
          exact iff_of_true
            (outcome (not_holdsSecret_ofList (by decide)) none)
            (noReply (by simp))
      | _ => exact iff_of_true (List.forall_mem_nil _) (noReply (by simp))

/-- The lines of a prompt hold no secret exactly if it gives none away. -/
theorem promptLines_iff
    (reads : ReadsLimited serde isDouble reread) :
    (∀ parts ∈ run.lines cfg, KeepsSecrets serde parts) ↔
      run.PlainPrompt cfg := by
  unfold PromptRun.lines PromptRun.PlainPrompt
  rw [List.forall_mem_append, persistFailedLines_iff reads]
  refine and_congr_right ?_
  intro _
  by_cases registered : run.registered = true
  · rw [if_pos registered, forall_prop_of_true registered,
      List.forall_mem_cons, keepsSecrets_sentLine_iff reads]
    constructor
    · rintro ⟨⟨promptId, tokenId, session, text⟩, items⟩
      refine ⟨promptId, tokenId, session, text, ?_⟩
      intro body isTaken
      apply (itemLines_iff reads promptId tokenId session _).mp ?_ body rfl
      intro parts isLine
      exact items parts (List.mem_flatMap.mpr ⟨_, isTaken, isLine⟩)
    · rintro ⟨promptId, tokenId, session, text, replies⟩
      refine ⟨⟨promptId, tokenId, session, text⟩, ?_⟩
      intro parts isMember
      obtain ⟨item, isTaken, isLine⟩ := List.mem_flatMap.mp isMember
      refine (itemLines_iff reads promptId tokenId session item).mpr ?_ parts
        isLine
      rintro body rfl
      exact replies body isTaken
  · rw [if_neg registered]
    exact iff_of_true (List.forall_mem_nil _)
      fun isRegistered => absurd isRegistered registered

end Prompts

/-- What is handled: a first frame, a frame of a session, or a prompt. -/
inductive Exchange (isDouble : String → Bool) where
  | first (environment : Environment) (storeError : Option String)
      (raw : String)
  | session (tokenId clientId : String) (clock : Nat → Nat)
      (saveError : Option String) (raw : String)
  | prompt (run : PromptRun isDouble)

namespace Exchange

variable {isDouble : String → Bool} (log : ConnLog) (settings : Settings)
  (context : Context)

/-- The events emitted while it is handled, in order. -/
def lines : Exchange isDouble → List (Parts isDouble)
  | .first environment storeError raw =>
      log.firstLines settings environment context storeError raw
  | .session tokenId clientId clock saveError raw =>
      log.sessionLines settings tokenId clientId clock context saveError raw
  | .prompt run => run.lines log.cfg

/-- No line that is written for it holds a secret. -/
def LogsNoSecret (exchange : Exchange isDouble) : Prop :=
  ∀ parts ∈ exchange.lines log settings context, ∀ now line,
    parts.build.emit settings.serde now = some line → ¬HoldsSecret line

/-- It gives no secret away beside the frames. -/
def GivesNothingAway : Exchange isDouble → Prop
  | .first environment storeError raw =>
      log.PlainFirst settings environment context storeError raw
  | .session tokenId clientId clock saveError raw =>
      log.PlainSession settings tokenId clientId clock context saveError raw
  | .prompt run => run.PlainPrompt log.cfg

variable {log settings context} {reread : String → String}

theorem keepsSecrets_lines_iff
    (reads : ReadsLimited settings.serde isDouble reread)
    (exchange : Exchange isDouble) :
    (∀ parts ∈ exchange.lines log settings context,
        KeepsSecrets settings.serde parts) ↔
      exchange.GivesNothingAway log settings context := by
  cases exchange with
  | first environment storeError raw =>
      exact firstLines_iff reads storeError raw
  | session tokenId clientId clock saveError raw =>
      exact sessionLines_iff reads raw
  | prompt run => exact promptLines_iff reads

end Exchange

section Samples

open HollerServer.Wire.Sample

/-- The log of a local peer. -/
def sampleLog (level : DebugLevel) (format : LogFormat) : ConnLog where
  cfg := { level, format }
  addr :=
    { text := "127.0.0.1:4242"
      plain := by decide }
  rowError := fun _ => "invalid type"

/-- The sample server, with a reader for all texts, and no token. -/
noncomputable def sampleSettings : Settings :=
  { settings with serde := limitedSerde }

noncomputable def noTokens : Context :=
  { context with file := none }

/-- An `auth` frame from a sender. -/
def authValue (sender : String) : Value :=
  .object
    [("body", .object [("credential", .string "x")]),
      ("from", .string sender), ("id", .string "a1"),
      ("ts", .string "2023-11-14T22:13:20Z"), ("type", .string "auth"),
      ("v", .int 1)]

def authEnvelope (sender : String) : Envelope where
  v := 1
  msgType := .auth
  id := "a1"
  ts := "2023-11-14T22:13:20Z"
  sender := sender
  body := .auth { credential := .string "x" }

theorem isHeld_authValue (sender : String) : IsHeld (authValue sender) := by
  have ascending :
      ["body", "from", "id", "ts", "type", "v"].Pairwise (· < ·) := by
    decide
  constructor
  · exact List.pairwise_map.mp ascending
  · simp [FieldsAreHeld, IsHeld, Keyed.Ascending]

theorem decode_authValue (sender : String) :
    decode limitedSerde (authValue sender).compact =
      .ok (authEnvelope sender) := by
  have numbers :
      (authValue sender).hasNumbers isMachineInt (fun _ => false) = true :=
    rfl
  have depth : (authValue sender).depth = 2 := rfl
  have shallow : (authValue sender).depth < 128 := by
    rw [depth]
    decide
  have same : (authValue sender).mapDoubles id = authValue sender := rfl
  have read :=
    readsLimited_limitedSerde.reads (authValue sender) numbers shallow
  rw [same, normal_of_isHeld _ (isHeld_authValue sender)] at read
  unfold decode parseEnvelope
  rw [read]
  rfl

/-- The store refuses a token it does not have. -/
theorem verify_noTokens (sender : String) :
    ((Context.verifyOf environment (authEnvelope sender) "x").exec
        sampleSettings.crates sampleSettings.pepper noTokens.file).1 =
      .err (.notFound sender) := by
  have loaded : load sampleSettings.crates noTokens.file = .ok [] := load_none
  unfold Mutation.exec withLock
  rw [loaded]
  rfl

theorem readsLimited_sampleSettings :
    ReadsLimited sampleSettings.serde (fun _ => false) id :=
  readsLimited_limitedSerde

/-- The first frame of a sender that the store does not know. -/
def authFrame (sender : String) : Exchange (fun _ => false) :=
  .first environment none (authValue sender).compact

theorem givesNothingAway_authFrame_iff
    (level : DebugLevel) (format : LogFormat) (sender : String) :
    (authFrame sender).GivesNothingAway (sampleLog level format)
        sampleSettings noTokens ↔
      PlainId { level, format } sender ∧ Plain { level, format } sender := by
  have decoded :
      decode sampleSettings.serde (authValue sender).compact =
        .ok (authEnvelope sender) :=
    decode_authValue sender
  have attempt :
      (authFrame sender).GivesNothingAway (sampleLog level format)
          sampleSettings noTokens ↔
        PlainAttempt { level, format } sender environment.detail
          ((Context.verifyOf environment (authEnvelope sender) "x").exec
            sampleSettings.crates sampleSettings.pepper noTokens.file).1 := by
    unfold authFrame Exchange.GivesNothingAway ConnLog.PlainFirst
    simp only
    rw [decoded]
    exact Iff.rfl
  rw [attempt, verify_noTokens]
  exact Iff.rfl

end Samples

end HollerServer.Debug
