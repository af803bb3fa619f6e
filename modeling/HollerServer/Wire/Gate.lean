import HollerServer.Token.Sample
import HollerServer.Wire.Connection
import HollerServer.Wire.TalkText

/-!
# A peer that is not authenticated

Every way out of `handle_connection` before the session loop.  A connection whose
credential was never accepted leaves the live tables alone, writes at most one
text, and reads nothing behind its first text frame; the store changes only by an
accepted redeem, in the one record that was redeemed.
-/

namespace HollerServer.Wire

open HollerServer.Proto
open HollerServer.Token

/-- The tables of live state are as they were. -/
structure Context.Untouched (context after : Context) : Prop where
  registry : after.registry = context.registry
  confirmed : after.confirmed = context.confirmed
  roster : after.roster = context.roster
  talkLog : after.talkLog = context.talkLog

/-- The store after a redeem that returned `Ok`: one record was rewritten in its
place. -/
def RedeemedOnly
    (settings : Settings) (environment : Environment)
    (envelope : Envelope) (body : JoinBody) (file file' : File) : Prop :=
  ∃ result earlier record later,
    ((Mutation.redeem environment.now environment.clientDraw
        environment.credentialDraw envelope.sender body.secret
        body.hostname).exec settings.crates settings.pepper file).1 =
      .ok (.redeemed result) ∧
    load settings.crates file = .ok (earlier ++ record :: later) ∧
    record.tokenId = envelope.sender ∧
    file' =
      save settings.crates
        (earlier ++
          record.redeemed settings.crates settings.pepper body.hostname
            result.clientId result.credential :: later)

namespace Context

variable {settings : Settings} {environment : Environment}
  {context : Context}

/-- What holds of a task that ends without an accepted credential. -/
structure TurnedAway
    (settings : Settings) (environment : Environment)
    (context : Context) (first : Option String)
    (run : ConnectionRun) : Prop where
  returned : run.returned = true
  untouched : context.Untouched run.context
  file :
    run.context.file = context.file ∨
      ∃ raw envelope body,
        first = some raw ∧
        decode settings.serde raw = .ok envelope ∧
        envelope.body = .join body ∧
        RedeemedOnly settings environment envelope body context.file
          run.context.file
  replies : (run.written.filter Written.isText).length ≤ 1

/-- A way out that leaves the store alone, too. -/
theorem TurnedAway.of_file_eq
    {first : Option String} {run : ConnectionRun}
    (returned : run.returned = true)
    (untouched : context.Untouched run.context)
    (same : run.context.file = context.file)
    (replies : (run.written.filter Written.isText).length ≤ 1) :
    TurnedAway settings environment context first run where
  returned := returned
  untouched := untouched
  file := Or.inl same
  replies := replies

theorem redeemedOnly_of_exec
    {envelope : Envelope} {body : JoinBody} {file file' : File}
    {result : RedeemResult}
    (executed :
      (Mutation.redeem environment.now environment.clientDraw
          environment.credentialDraw envelope.sender body.secret
          body.hostname).exec settings.crates settings.pepper file =
        (.ok (.redeemed result), file')) :
    RedeemedOnly settings environment envelope body file file' := by
  obtain ⟨records, records', loaded, modified, saved⟩ :=
    Mutation.exec_eq_ok executed
  obtain ⟨pair, redeemed, answered⟩ := Result.bind_eq_ok.mp modified
  obtain ⟨sameRecords, sameAnswer⟩ :=
    Prod.mk.inj (Result.ok.inj answered)
  have sameResult : pair.2 = result := Answer.redeemed.inj sameAnswer
  obtain ⟨record, _, _, found, _, _, _, _, _, put⟩ :=
    redeemSection_eq_ok.mp redeemed
  have keyed := (List.findKey_eq_some found).2
  obtain ⟨earlier, later, split, rewritten⟩ :=
    List.rewriteFirst_eq_append found
      (record.redeemed settings.crates settings.pepper body.hostname
        pair.2.clientId pair.2.credential)
  refine ⟨result, earlier, record, later, ?_, ?_, keyed, ?_⟩
  · rw [executed]
  · rw [loaded, split]
  · have sameKey :
        (record.redeemed settings.crates settings.pepper body.hostname
          pair.2.clientId pair.2.credential).tokenId =
        envelope.sender := keyed
    rw [saved, ← sameRecords, put, putRecord, sameKey, rewritten,
      sameResult]

/-- Neither outcome of a `join` reaches the live tables. -/
theorem turnedAway_handleJoin
    {raw : String} {envelope : Envelope} {body : JoinBody}
    (decoded : decode settings.serde raw = .ok envelope)
    (isJoin : envelope.body = .join body) :
    TurnedAway settings environment context (some raw)
      (context.handleJoin settings environment envelope body.secret
        body.hostname) := by
  unfold handleJoin
  have failed :=
    @Mutation.file_of_not_ok settings.crates settings.pepper
      (Mutation.redeem environment.now environment.clientDraw
        environment.credentialDraw envelope.sender body.secret
        body.hostname) context.file
  simp only
  split
  next result file executed =>
    exact
      { returned := rfl
        untouched := ⟨rfl, rfl, rfl, rfl⟩
        file :=
          Or.inr
            ⟨raw, envelope, body, rfl, decoded, isJoin,
              redeemedOnly_of_exec executed⟩
        replies := Nat.le_refl 1 }
  next error file executed =>
    rw [executed] at failed
    exact
      TurnedAway.of_file_eq rfl ⟨rfl, rfl, rfl, rfl⟩ (failed rfl)
        (Nat.le_refl 1)
  next reply file notRedeemed notError executed =>
    have refused : reply.isOk = false := by
      cases reply with
      | ok answer =>
          obtain ⟨result, rfl⟩ := Mutation.exec_redeem_eq_ok executed
          exact (notRedeemed result rfl).elim
      | err error => rfl
      | panicked => rfl
    rw [executed] at failed
    exact
      TurnedAway.of_file_eq rfl ⟨rfl, rfl, rfl, rfl⟩ (failed refused)
        (Nat.zero_le 1)

theorem verified_handleJoin
    {envelope : Envelope} {secret hostname : String} :
    (context.handleJoin settings environment envelope secret
      hostname).verified = none := by
  unfold handleJoin
  simp only
  split <;> rfl

/-- A task that serves a client has an accepted credential. -/
theorem verified_serve (client : VerifiedClient) (rest : List Incoming) :
    (context.serve settings environment client rest).verified =
      some client := by
  unfold serve
  simp only
  split
  · split <;> rfl
  · rfl

/-- A credential that is not accepted leaves everything but the count of failed
attempts as it was, whatever follows. -/
theorem turnedAway_handleAuth
    {first : Option String} {envelope : Envelope} {credential : String}
    {rest : List Incoming}
    (unverified :
      (context.handleAuth settings environment envelope credential
        rest).verified = none) :
    TurnedAway settings environment context first
        (context.handleAuth settings environment envelope credential
          rest) ∧
      ∀ rest',
        context.handleAuth settings environment envelope credential
            rest' =
          context.handleAuth settings environment envelope credential
            rest := by
  unfold handleAuth at unverified ⊢
  have failed :=
    @Mutation.file_of_not_ok settings.crates settings.pepper
      (Mutation.verifyCredential environment.now envelope.sender
        credential) context.file
  simp only at unverified ⊢
  split at unverified
  next client file executed =>
    rw [verified_serve] at unverified
    cases unverified
  next error file executed =>
    rw [executed] at failed
    exact
      ⟨TurnedAway.of_file_eq rfl ⟨rfl, rfl, rfl, rfl⟩ (failed rfl)
        (Nat.le_refl 1), fun _ => rfl⟩
  next reply file notVerified notError executed =>
    cases reply with
    | ok answer =>
        obtain ⟨client, rfl⟩ :=
          Mutation.exec_verifyCredential_eq_ok executed
        exact (notVerified client rfl).elim
    | err error => exact (notError error rfl).elim
    | panicked =>
        rw [executed] at failed
        exact
          ⟨TurnedAway.of_file_eq rfl ⟨rfl, rfl, rfl, rfl⟩ (failed rfl)
            (Nat.zero_le 1), fun _ => rfl⟩

/-- A first frame that does not lead to an accepted credential ends the task, and
what follows it is not looked at. -/
theorem turnedAway_handleFirst
    {raw : String} {rest : List Incoming}
    (unverified :
      (context.handleFirst settings environment raw rest).verified =
        none) :
    TurnedAway settings environment context (some raw)
        (context.handleFirst settings environment raw rest) ∧
      ∀ rest',
        context.handleFirst settings environment raw rest' =
          context.handleFirst settings environment raw rest := by
  have refused :
      ∀ reply : Envelope,
        TurnedAway settings environment context (some raw)
          { context, written := [.text reply] } :=
    fun reply =>
      TurnedAway.of_file_eq rfl ⟨rfl, rfl, rfl, rfl⟩ rfl (Nat.le_refl 1)
  unfold handleFirst at unverified ⊢
  split at unverified
  next error decoded =>
    exact ⟨refused _, fun _ => rfl⟩
  next envelope decoded =>
    split at unverified
    next body isJoin =>
      exact ⟨turnedAway_handleJoin decoded isJoin, fun _ => rfl⟩
    next body isAuth =>
      split at unverified
      next credential isText =>
        exact turnedAway_handleAuth unverified
      next notText =>
        exact ⟨refused _, fun _ => rfl⟩
    next notJoin notAuth => exact ⟨refused _, fun _ => rfl⟩

/-- Taking stock of the lockouts first changes nothing of this. -/
theorem TurnedAway.of_lockout
    {lockout : LockoutTracker} {first : Option String}
    {run : ConnectionRun}
    (turnedAway :
      TurnedAway settings environment { context with lockout } first
        run) :
    TurnedAway settings environment context first run where
  returned := turnedAway.returned
  untouched := ⟨turnedAway.untouched.registry,
    turnedAway.untouched.confirmed, turnedAway.untouched.roster,
    turnedAway.untouched.talkLog⟩
  file := turnedAway.file
  replies := turnedAway.replies

/-- A connection whose credential is never accepted is turned away, and only its
first text frame matters. -/
theorem turnedAway_handleConnection
    {incoming : List Incoming}
    (unverified :
      (context.handleConnection settings environment
        incoming).verified = none) :
    TurnedAway settings environment context
        ((nextTextFrame incoming).map Prod.fst)
        (context.handleConnection settings environment incoming) ∧
      ∀ incoming',
        (nextTextFrame incoming').map Prod.fst =
            (nextTextFrame incoming).map Prod.fst →
          context.handleConnection settings environment incoming' =
            context.handleConnection settings environment incoming := by
  have dropped :
      ∀ lockout first,
        TurnedAway settings environment context first
          { context := { context with lockout } } :=
    fun lockout first =>
      TurnedAway.of_file_eq rfl ⟨rfl, rfl, rfl, rfl⟩ rfl (Nat.zero_le 1)
  unfold handleConnection at unverified ⊢
  generalize context.lockout.isLockedOut environment.acceptedAt
    environment.peer = checked at unverified ⊢
  obtain ⟨locked, lockout⟩ := checked
  simp only at unverified ⊢
  cases locked with
  | true => exact ⟨dropped _ _, fun _ _ => rfl⟩
  | false =>
      cases shaken : environment.handshake with
      | false => exact ⟨dropped _ _, fun _ _ => rfl⟩
      | true =>
          cases inTime : environment.firstFrameInTime with
          | false => exact ⟨dropped _ _, fun _ _ => rfl⟩
          | true =>
              simp only [shaken, inTime, Bool.not_true,
                Bool.false_eq_true, if_false] at unverified ⊢
              cases first : nextTextFrame incoming with
              | none =>
                  refine ⟨dropped _ _, fun incoming' same => ?_⟩
                  rw [Option.map_none, Option.map_eq_none_iff] at same
                  rw [same]
              | some found =>
                  obtain ⟨raw, rest⟩ := found
                  simp only [first] at unverified
                  obtain ⟨turnedAway, blind⟩ :=
                    turnedAway_handleFirst unverified
                  refine
                    ⟨turnedAway.of_lockout, fun incoming' same => ?_⟩
                  rw [Option.map_some, Option.map_eq_some_iff] at same
                  obtain ⟨⟨raw', rest'⟩, found', rfl⟩ := same
                  rw [found']
                  exact blind rest'

/-- A peer that never gets a credential accepted cannot touch live state.
Whatever it sends, the registry, the confirmed harnesses, the roster and the talk
log are as before when its task returns; the store changes only if the first text
frame is a `join` whose redeem returned `Ok`, and then only in the record of the
token; every other sequence of messages with the same first text frame comes to
the same; and at most one text is written. -/
theorem unauthenticated_peer_cannot_touch_live_state
    (settings : Settings) (environment : Environment)
    (context : Context) (incoming : List Incoming)
    (unverified :
      (context.handleConnection settings environment
        incoming).verified = none) :
    (context.handleConnection settings environment
      incoming).returned = true ∧
    context.Untouched
      (context.handleConnection settings environment
        incoming).context ∧
    ((context.handleConnection settings environment
        incoming).context.file ≠ context.file →
      ∃ raw rest envelope body,
        nextTextFrame incoming = some (raw, rest) ∧
        decode settings.serde raw = .ok envelope ∧
        envelope.body = .join body ∧
        RedeemedOnly settings environment envelope body context.file
          (context.handleConnection settings environment
            incoming).context.file) ∧
    (∀ incoming',
      (nextTextFrame incoming').map Prod.fst =
          (nextTextFrame incoming).map Prod.fst →
        context.handleConnection settings environment incoming' =
          context.handleConnection settings environment incoming) ∧
    ((context.handleConnection settings environment
      incoming).written.filter Written.isText).length ≤ 1 := by
  obtain ⟨turnedAway, blind⟩ := turnedAway_handleConnection unverified
  refine ⟨turnedAway.returned, turnedAway.untouched, ?_, blind,
    turnedAway.replies⟩
  intro changed
  rcases turnedAway.file with
    same | ⟨raw, envelope, body, isFirst, decoded, isJoin, redeemed⟩
  · exact absurd same changed
  · obtain ⟨⟨_, rest⟩, found, rfl⟩ := Option.map_eq_some_iff.mp isFirst
    exact ⟨_, rest, envelope, body, found, decoded, isJoin, redeemed⟩

end Context

namespace Sample

open HollerServer.Token.Sample

/-- `{:?}` of a text without quotes, backslashes and control characters. -/
def quoted (text : String) : String :=
  "\"" ++ text ++ "\""

/-- The text of a frame of the sample token. -/
def frameText (kind id body : String) : String :=
  "\x7b\"v\":1,\"type\":" ++ quoted kind ++ ",\"id\":" ++ quoted id ++
    ",\"ts\":\"2023-11-14T22:13:20Z\",\"from\":" ++ quoted tokenId ++
    ",\"body\":" ++ body ++ "\x7d"

/-- The value of such a text. -/
def frameValue (kind id : String) (body : Value) : Value :=
  .object
    [("body", body), ("from", .string tokenId), ("id", .string id),
      ("ts", .string "2023-11-14T22:13:20Z"), ("type", .string kind),
      ("v", .int 1)]

def joinText : String :=
  frameText "join" "j1"
    ("\x7b\"secret\":" ++ quoted secret ++
      ",\"hostname\":\"laptop\"\x7d")

def authText : String :=
  frameText "auth" "a1"
    ("\x7b\"credential\":" ++ quoted credential ++ "\x7d")

noncomputable def settings : Settings where
  serde :=
    SerdeJson.ofTable
      [(joinText,
        frameValue "join" "j1"
          (.object
            [("hostname", .string "laptop"),
              ("secret", .string secret)])),
       (authText,
        frameValue "auth" "a1"
          (.object [("credential", .string credential)]))]
  talkJson := prettyTalkJson
  crates := .sample
  pepper := pepper
  quoted := quoted
  serverHostname := "hub"
  listening := ["127.0.0.1:41807"]

def environment : Environment where
  peer := .v4 0x7f000001#32
  acceptedAt := 0
  handshake := true
  firstFrameInTime := true
  failedAt := 1
  now := mintedAt
  clientDraw := some clientBytes
  credentialDraw := some credentialBytes
  detail := ""
  conn := 0
  helloId := "h1"
  helloTs := "2023-11-14T22:13:20Z"
  helloWritten := true
  picks := []

noncomputable def context : Context where
  file := save .sample [minted]
  registry := Registry.new
  confirmed := ∅
  roster := Roster.new RosterConfig.default
  talkLog := ⟨∅⟩
  lockout := LockoutTracker.new

def joinEnvelope : Envelope where
  v := 1
  msgType := .join
  id := "j1"
  ts := "2023-11-14T22:13:20Z"
  sender := tokenId
  body := .join { secret, hostname := "laptop" }

theorem decode_joinText :
    decode settings.serde joinText = .ok joinEnvelope := by
  have parsed :
      settings.serde.fromStr joinText =
        .ok
          (frameValue "join" "j1"
            (.object
              [("hostname", .string "laptop"),
                ("secret", .string secret)])) := by
    simp [settings, SerdeJson.ofTable]
  unfold decode parseEnvelope
  rw [parsed]
  rfl

/-- A peer that joins and then sends its new credential on the same socket. -/
def joinThenAuth : List Incoming :=
  [.message (.text joinText), .message (.text authText)]

theorem handleConnection_joinThenAuth :
    context.handleConnection settings environment joinThenAuth =
      context.handleJoin settings environment joinEnvelope secret
        "laptop" := by
  have admitted :
      context.lockout.isLockedOut environment.acceptedAt
        environment.peer = (false, context.lockout) :=
    rfl
  have first :
      nextTextFrame joinThenAuth =
        some (joinText, [.message (.text authText)]) :=
    rfl
  have shaken : environment.handshake = true := rfl
  have inTime : environment.firstFrameInTime = true := rfl
  unfold Context.handleConnection
  simp only [admitted, first, shaken, inTime, Bool.not_true,
    Bool.false_eq_true, if_false, Context.handleFirst, decode_joinText]
  rfl

theorem verified_joinThenAuth :
    (context.handleConnection settings environment
      joinThenAuth).verified = none := by
  rw [handleConnection_joinThenAuth]
  exact Context.verified_handleJoin

theorem unauthenticated_peer_cannot_touch_live_state_joinThenAuth :
    context.Untouched
        (context.handleConnection settings environment
          joinThenAuth).context ∧
      (∀ rest,
        context.handleConnection settings environment
            (.message (.text joinText) :: rest) =
          context.handleConnection settings environment
            joinThenAuth) ∧
      ((context.handleConnection settings environment
        joinThenAuth).written.filter Written.isText).length ≤ 1 := by
  obtain ⟨_, untouched, _, blind, replies⟩ :=
    Context.unauthenticated_peer_cannot_touch_live_state settings
      environment context joinThenAuth verified_joinThenAuth
  exact ⟨untouched, fun rest => blind _ rfl, replies⟩

end Sample

end HollerServer.Wire
