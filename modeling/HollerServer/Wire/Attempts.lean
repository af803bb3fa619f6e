import HollerServer.Wire.Gate

/-!
# Which attempts are counted

The calls of `record_failure` that `handle_connection` makes, branch by branch as the
connection task itself; replayed on the lockout tracker they leave what the task leaves.
A refused `auth` or `join` is to be counted once, and nothing else.  It is, unless the
credential of an `auth` is not a string, or the store panics on a damaged hash.
-/

namespace HollerServer.Wire

open HollerServer.Proto
open HollerServer.Token

/-- A call of `record_failure`: when it is made, and for which address. -/
abbrev FailureCall := Nat × IpAddr

/-- What the calls make of a tracker. -/
def LockoutTracker.replay
    (tracker : LockoutTracker) (calls : List FailureCall) : LockoutTracker :=
  calls.foldl (fun tracker call => (tracker.recordFailure call.1 call.2).2)
    tracker

/-- The peer got in: its credential was verified, or it was sent a `join_ok`. -/
def ConnectionRun.Accepted (run : ConnectionRun) : Prop :=
  run.verified.isSome = true ∨
    ∃ reply, .text reply ∈ run.written ∧ reply.msgType = .joinOk

namespace Context

variable (settings : Settings) (environment : Environment)
  (context : Context)

/-- The redeem of a `join`. -/
def redeemOf (envelope : Envelope) (secret hostname : String) : Mutation :=
  .redeem environment.now environment.clientDraw environment.credentialDraw
    envelope.sender secret hostname

/-- The check of the credential of an `auth`. -/
def verifyOf (envelope : Envelope) (credential : String) : Mutation :=
  .verifyCredential environment.now envelope.sender credential

/-- The store call of an attempt is followed by `record_failure` where it returns an
error. -/
def failuresAfter : Reply → List FailureCall
  | .err _ => [(environment.failedAt, environment.peer)]
  | .ok _ | .panicked => []

def joinFailures (envelope : Envelope) (secret hostname : String) :
    List FailureCall :=
  failuresAfter environment
    ((redeemOf environment envelope secret hostname).exec settings.crates
      settings.pepper context.file).1

def authFailures (envelope : Envelope) (credential : String) :
    List FailureCall :=
  failuresAfter environment
    ((verifyOf environment envelope credential).exec settings.crates
      settings.pepper context.file).1

def firstFailures (raw : String) : List FailureCall :=
  match decode settings.serde raw with
  | .error _ => []
  | .ok envelope =>
      match envelope.body with
      | .join body =>
          context.joinFailures settings environment envelope body.secret
            body.hostname
      | .auth body =>
          match body.credential.asStr with
          | some credential =>
              context.authFailures settings environment envelope credential
          | none => []
      | _ => []

/-- The calls of `record_failure` of one connection task. -/
def failures (incoming : List Incoming) : List FailureCall :=
  if (context.lockout.isLockedOut environment.acceptedAt
      environment.peer).1 then []
  else if !environment.handshake then []
  else if !environment.firstFrameInTime then []
  else
    match nextTextFrame incoming with
    | none => []
    | some (raw, _) => context.firstFailures settings environment raw

/-- The frame is the first text frame of the connection, in time. -/
def IsFirst
    (environment : Environment) (incoming : List Incoming) (raw : String) :
    Prop :=
  environment.handshake = true ∧ environment.firstFrameInTime = true ∧
    ∃ rest, nextTextFrame incoming = some (raw, rest)

/-- The first text frame decodes to an `auth` or a `join`. -/
def Attempts (incoming : List Incoming) : Prop :=
  ∃ raw envelope,
    IsFirst environment incoming raw ∧
      decode settings.serde raw = .ok envelope ∧
      ((∃ body, envelope.body = .auth body) ∨
        ∃ body, envelope.body = .join body)

/-- A refused attempt is counted once for its address, and nothing else is. -/
def CountsFailures (incoming : List Incoming) : Prop :=
  let run := context.handleConnection settings environment incoming
  let calls := context.failures settings environment incoming
  (Attempts settings environment incoming → ¬run.Accepted →
      calls.map Prod.snd = [environment.peer]) ∧
    (run.Accepted ∨ ¬Attempts settings environment incoming → calls = [])

/-- The stored hash that the attempt is checked against is damaged. -/
def Damaged (envelope : Envelope) : Prop :=
  ∃ records record,
    load settings.crates context.file = .ok records ∧
    records.findKey TokenRecord.tokenId envelope.sender = some record ∧
    (((∃ body, envelope.body = .join body) ∧
        record.displayState settings.crates environment.now.nanos = .unused ∧
        Unsliceable record.secretHash) ∨
      ((∃ body, envelope.body = .auth body) ∧
        record.state = .bound ∧
        ∃ hash, record.credentialHash = some hash ∧ Unsliceable hash))

/-- The first frame can be counted: an `auth` has a string for its credential, and the
hash it is checked against can be read. -/
def Countable (incoming : List Incoming) : Prop :=
  ∀ raw envelope, IsFirst environment incoming raw →
    decode settings.serde raw = .ok envelope →
    (∀ body, envelope.body = .auth body →
      body.credential.asStr.isSome = true) ∧
    ¬context.Damaged settings environment envelope

section Replay

variable {settings : Settings} {environment : Environment}
  {context : Context}

theorem lockout_handleFrame
    {tokenId clientId raw ts : String} {clock : Nat → Nat} :
    (context.handleFrame settings tokenId clientId raw clock ts).context.lockout =
      context.lockout := by
  unfold handleFrame
  split <;> rfl

/-- Nothing is counted while a client is served. -/
theorem lockout_sessionLoop
    {tokenId clientId : String} (picks : List Pick) (incoming : List Incoming)
    (context : Context) :
    (sessionLoop settings tokenId clientId picks incoming
      context).context.lockout = context.lockout := by
  induction picks generalizing incoming context with
  | nil => rfl
  | cons pick picks inductionHypothesis =>
      cases pick with
      | outgoing envelope accepted =>
          cases envelope with
          | none => rfl
          | some envelope =>
              unfold sessionLoop
              split
              · exact inductionHypothesis incoming context
              · rfl
      | incoming clock ts =>
          unfold sessionLoop
          split
          · next raw rest =>
              simp only
              split
              · exact
                  (inductionHypothesis rest _).trans lockout_handleFrame
              · exact lockout_handleFrame
          · next payload rest => exact inductionHypothesis rest context
          · next rest => exact inductionHypothesis rest context
          · rfl
          · rfl
          · rfl
          · rfl
          · rfl

theorem lockout_serve (client : VerifiedClient) (rest : List Incoming) :
    (context.serve settings environment client rest).context.lockout =
      context.lockout := by
  unfold serve
  simp only
  split
  · split
    · exact lockout_sessionLoop _ _ _
    · exact lockout_sessionLoop _ _ _
  · rfl

theorem lockout_handleJoin
    {envelope : Envelope} {secret hostname : String} :
    (context.handleJoin settings environment envelope secret
        hostname).context.lockout =
      context.lockout.replay
        (context.joinFailures settings environment envelope secret
          hostname) := by
  unfold handleJoin joinFailures redeemOf
  simp only
  split
  next executed =>
    rw [executed]
    rfl
  next executed =>
    rw [executed]
    rfl
  next reply file notRedeemed notError executed =>
    rw [executed]
    cases reply with
    | ok answer => rfl
    | err error => exact (notError error rfl).elim
    | panicked => rfl

theorem lockout_handleAuth
    {envelope : Envelope} {credential : String} {rest : List Incoming} :
    (context.handleAuth settings environment envelope credential
        rest).context.lockout =
      context.lockout.replay
        (context.authFailures settings environment envelope
          credential) := by
  unfold handleAuth authFailures verifyOf
  simp only
  split
  next executed =>
    rw [executed]
    exact lockout_serve _ _
  next executed =>
    rw [executed]
    rfl
  next reply file notVerified notError executed =>
    rw [executed]
    cases reply with
    | ok answer => rfl
    | err error => exact (notError error rfl).elim
    | panicked => rfl

theorem lockout_handleFirst {raw : String} {rest : List Incoming} :
    (context.handleFirst settings environment raw rest).context.lockout =
      context.lockout.replay
        (context.firstFailures settings environment raw) := by
  unfold handleFirst firstFailures
  cases decode settings.serde raw with
  | error error => rfl
  | ok envelope =>
      simp only
      cases envelope.body with
      | join body => exact lockout_handleJoin
      | auth body =>
          simp only
          cases body.credential.asStr with
          | some credential => exact lockout_handleAuth
          | none => rfl
      | _ => rfl

/-- The calls are those of the task: replayed on the tracker as the gate left it they
give the tracker the task leaves. -/
theorem lockout_handleConnection (incoming : List Incoming) :
    (context.handleConnection settings environment
        incoming).context.lockout =
      (context.lockout.isLockedOut environment.acceptedAt
        environment.peer).2.replay
        (context.failures settings environment incoming) := by
  unfold handleConnection failures
  simp only
  split
  · rfl
  · split
    · rfl
    · split
      · rfl
      · cases nextTextFrame incoming with
        | none => rfl
        | some found => exact lockout_handleFirst

end Replay

section Counting

variable {settings : Settings} {environment : Environment}
  {context : Context}

/-- A `join` is accepted exactly if the redeem succeeds. -/
theorem accepted_handleJoin
    {envelope : Envelope} {secret hostname : String} :
    (context.handleJoin settings environment envelope secret
        hostname).Accepted ↔
      ((redeemOf environment envelope secret hostname).exec settings.crates
        settings.pepper context.file).1.isOk = true := by
  unfold ConnectionRun.Accepted
  rw [verified_handleJoin]
  unfold handleJoin redeemOf
  simp only
  split
  next executed =>
    rw [executed]
    simp [Result.isOk]
  next executed =>
    rw [executed]
    simp [Result.isOk, errorWithMessage, newErrorEnvelope]
  next reply file notRedeemed notError executed =>
    rw [executed]
    cases reply with
    | ok answer =>
        obtain ⟨result, rfl⟩ := Mutation.exec_redeem_eq_ok executed
        exact (notRedeemed result rfl).elim
    | err error => exact (notError error rfl).elim
    | panicked => simp [Result.isOk]

/-- An `auth` is accepted exactly if the credential is verified. -/
theorem accepted_handleAuth
    {envelope : Envelope} {credential : String} {rest : List Incoming} :
    (context.handleAuth settings environment envelope credential
        rest).Accepted ↔
      ((verifyOf environment envelope credential).exec settings.crates
        settings.pepper context.file).1.isOk = true := by
  unfold handleAuth verifyOf
  simp only
  split
  next executed =>
    rw [executed]
    simp [ConnectionRun.Accepted, verified_serve, Result.isOk]
  next executed =>
    rw [executed]
    simp [ConnectionRun.Accepted, Result.isOk, errorWithMessage,
      newErrorEnvelope]
  next reply file notVerified notError executed =>
    rw [executed]
    cases reply with
    | ok answer =>
        obtain ⟨client, rfl⟩ := Mutation.exec_verifyCredential_eq_ok executed
        exact (notVerified client rfl).elim
    | err error => exact (notError error rfl).elim
    | panicked => simp [ConnectionRun.Accepted, Result.isOk]

/-- The calls after a store call count the refusals, a panic apart. -/
theorem counted_iff_of_reply
    {reply : Reply} {accepted : Prop}
    (isAccepted : accepted ↔ reply.isOk = true) :
    ((¬accepted →
        (failuresAfter environment reply).map Prod.snd =
          [environment.peer]) ∧
      (accepted → failuresAfter environment reply = [])) ↔
    reply ≠ .panicked := by
  rw [isAccepted]
  cases reply <;> simp [Result.isOk, failuresAfter]

/-- The redeem of a `join` panics on a damaged hash only. -/
theorem redeem_panics_iff
    {envelope : Envelope} {body : JoinBody}
    (isJoin : envelope.body = .join body) :
    ((redeemOf environment envelope body.secret body.hostname).exec
        settings.crates settings.pepper context.file).1 = .panicked ↔
      context.Damaged settings environment envelope := by
  rw [Mutation.exec_fst_eq_panicked]
  have modified (records : List TokenRecord) :
      (redeemOf environment envelope body.secret body.hostname).modify
          settings.crates settings.pepper records = .panicked ↔
        ∃ record,
          records.findKey TokenRecord.tokenId envelope.sender =
              some record ∧
            record.displayState settings.crates environment.now.nanos =
              .unused ∧
            Unsliceable record.secretHash := by
    unfold redeemOf Mutation.modify
    rw [Result.bind_eq_panicked, redeemSection_eq_panicked]
    simp
  constructor
  · rintro ⟨records, loaded, panicked⟩
    obtain ⟨record, found, unused, unsliceable⟩ := (modified records).mp panicked
    exact
      ⟨records, record, loaded, found,
        .inl ⟨⟨body, isJoin⟩, unused, unsliceable⟩⟩
  · rintro ⟨records, record, loaded, found,
      ⟨_, unused, unsliceable⟩ | ⟨⟨other, isAuth⟩, _⟩⟩
    · exact
        ⟨records, loaded, (modified records).mpr
          ⟨record, found, unused, unsliceable⟩⟩
    · rw [isJoin] at isAuth
      cases isAuth

/-- So does the check of a credential. -/
theorem verify_panics_iff
    {envelope : Envelope} {body : AuthBody} (credential : String)
    (isAuth : envelope.body = .auth body) :
    ((verifyOf environment envelope credential).exec
        settings.crates settings.pepper context.file).1 = .panicked ↔
      context.Damaged settings environment envelope := by
  rw [Mutation.exec_fst_eq_panicked]
  have modified (records : List TokenRecord) :
      (verifyOf environment envelope credential).modify
          settings.crates settings.pepper records = .panicked ↔
        ∃ record hash,
          records.findKey TokenRecord.tokenId envelope.sender =
              some record ∧
            record.state = .bound ∧
            record.credentialHash = some hash ∧
            Unsliceable hash := by
    unfold verifyOf Mutation.modify
    rw [Result.bind_eq_panicked, verifySection_eq_panicked]
    simp
  constructor
  · rintro ⟨records, loaded, panicked⟩
    obtain ⟨record, hash, found, bound, hashed, unsliceable⟩ :=
      (modified records).mp panicked
    exact
      ⟨records, record, loaded, found,
        .inr ⟨⟨body, isAuth⟩, bound, hash, hashed, unsliceable⟩⟩
  · rintro ⟨records, record, loaded, found,
      ⟨⟨other, isJoin⟩, _⟩ | ⟨_, bound, hash, hashed, unsliceable⟩⟩
    · rw [isAuth] at isJoin
      cases isJoin
    · exact
        ⟨records, loaded, (modified records).mpr
          ⟨record, hash, found, bound, hashed, unsliceable⟩⟩

/-- What counts if there is no attempt. -/
theorem countsFailures_of_not_attempts
    {incoming : List Incoming}
    (notAttempts : ¬Attempts settings environment incoming)
    (nothing : context.failures settings environment incoming = []) :
    context.CountsFailures settings environment incoming :=
  ⟨fun attempts => absurd attempts notAttempts, fun _ => nothing⟩

/-- What counts if there is one. -/
theorem countsFailures_of_attempts
    {incoming : List Incoming}
    (attempts : Attempts settings environment incoming) :
    context.CountsFailures settings environment incoming ↔
      (¬(context.handleConnection settings environment incoming).Accepted →
        (context.failures settings environment incoming).map Prod.snd =
          [environment.peer]) ∧
      ((context.handleConnection settings environment incoming).Accepted →
        context.failures settings environment incoming = []) := by
  unfold CountsFailures
  simp [attempts]

theorem IsFirst.unique
    {incoming : List Incoming} {raw raw' : String}
    (first : IsFirst environment incoming raw)
    (first' : IsFirst environment incoming raw') : raw = raw' := by
  obtain ⟨_, _, rest, found⟩ := first
  obtain ⟨_, _, rest', found'⟩ := first'
  rw [found] at found'
  exact (Prod.mk.inj (Option.some.inj found')).1

/-- An admitted connection gets as far as its first frame. -/
theorem handleConnection_of_first
    (admitted :
      (context.lockout.isLockedOut environment.acceptedAt
        environment.peer).1 = false)
    {incoming rest : List Incoming} {raw : String}
    (shaken : environment.handshake = true)
    (inTime : environment.firstFrameInTime = true)
    (found : nextTextFrame incoming = some (raw, rest)) :
    context.handleConnection settings environment incoming =
        Context.handleFirst settings environment
          { context with
            lockout :=
              (context.lockout.isLockedOut environment.acceptedAt
                environment.peer).2 }
          raw rest ∧
      context.failures settings environment incoming =
        context.firstFailures settings environment raw := by
  unfold handleConnection failures
  simp [admitted, shaken, inTime, found]

/-- A first frame that decodes is counted as it should be, if its credential is a
string and the hash it is checked against can be read, and not otherwise. -/
theorem countsFailures_of_decoded
    (admitted :
      (context.lockout.isLockedOut environment.acceptedAt
        environment.peer).1 = false)
    {incoming : List Incoming} {raw : String} {envelope : Envelope}
    (first : IsFirst environment incoming raw)
    (decoded : decode settings.serde raw = .ok envelope) :
    context.CountsFailures settings environment incoming ↔
      (∀ body, envelope.body = .auth body →
        body.credential.asStr.isSome = true) ∧
      ¬context.Damaged settings environment envelope := by
  have attempts_iff :
      Attempts settings environment incoming ↔
        (∃ body, envelope.body = .auth body) ∨
          ∃ body, envelope.body = .join body := by
    constructor
    · rintro ⟨raw', envelope', first', decoded', isAttempt⟩
      rw [← first.unique first', decoded] at decoded'
      cases decoded'
      exact isAttempt
    · intro isAttempt
      exact ⟨raw, envelope, first, decoded, isAttempt⟩
  obtain ⟨shaken, inTime, rest, found⟩ := first
  obtain ⟨isRun, isFailures⟩ :=
    @handleConnection_of_first settings environment context admitted incoming
      rest raw shaken inTime found
  unfold handleFirst at isRun
  unfold firstFailures at isFailures
  rw [decoded] at isRun isFailures
  cases kind : envelope.body with
  | join body =>
      simp only [kind] at isRun isFailures
      have attempts := attempts_iff.mpr (.inr ⟨body, kind⟩)
      rw [countsFailures_of_attempts attempts, isRun, isFailures]
      unfold joinFailures
      rw [counted_iff_of_reply accepted_handleJoin, ne_eq,
        @redeem_panics_iff settings environment context envelope body kind]
      simp
  | auth body =>
      simp only [kind] at isRun isFailures
      have attempts := attempts_iff.mpr (.inl ⟨body, kind⟩)
      rw [countsFailures_of_attempts attempts, isRun, isFailures]
      cases text : body.credential.asStr with
      | some credential =>
          simp only
          unfold authFailures
          rw [counted_iff_of_reply accepted_handleAuth, ne_eq,
            @verify_panics_iff settings environment context envelope body
              credential kind]
          simp [text]
      | none =>
          -- The refusal of such a credential is not counted.
          simp [text, ConnectionRun.Accepted, errorWithMessage,
            newErrorEnvelope]
  | _ =>
      simp only [kind] at isRun isFailures
      have notAttempts : ¬Attempts settings environment incoming := by
        rw [attempts_iff, kind]
        simp
      have undamaged : ¬context.Damaged settings environment envelope := by
        rintro ⟨_, _, _, _, ⟨⟨body, isJoin⟩, _⟩ | ⟨⟨body, isAuth⟩, _⟩⟩
        · rw [kind] at isJoin
          cases isJoin
        · rw [kind] at isAuth
          cases isAuth
      simp [countsFailures_of_not_attempts notAttempts isFailures, undamaged]

theorem countsFailures_iff_countable
    (admitted :
      (context.lockout.isLockedOut environment.acceptedAt
        environment.peer).1 = false)
    (incoming : List Incoming) :
    context.CountsFailures settings environment incoming ↔
      context.Countable settings environment incoming := by
  by_cases decodes :
      ∃ raw envelope, IsFirst environment incoming raw ∧
        decode settings.serde raw = .ok envelope
  · obtain ⟨raw, envelope, first, decoded⟩ := decodes
    rw [countsFailures_of_decoded admitted first decoded]
    constructor
    · intro countable raw' envelope' first' decoded'
      rw [← first.unique first', decoded] at decoded'
      cases decoded'
      exact countable
    · intro countable
      exact countable raw envelope first decoded
  · have notAttempts : ¬Attempts settings environment incoming := by
      rintro ⟨raw, envelope, first, decoded, _⟩
      exact decodes ⟨raw, envelope, first, decoded⟩
    have nothing : context.failures settings environment incoming = [] := by
      unfold failures
      split
      · rfl
      split
      · rfl
      split
      · rfl
      · next notEarly notLate =>
          cases found : nextTextFrame incoming with
          | none => rfl
          | some pair =>
              unfold firstFailures
              simp only
              cases decoded : decode settings.serde pair.1 with
              | error error => rfl
              | ok envelope =>
                  have first : IsFirst environment incoming pair.1 :=
                    ⟨by simpa using notEarly, by simpa using notLate, pair.2,
                      found⟩
                  exact absurd ⟨pair.1, envelope, first, decoded⟩ decodes
    refine
      iff_of_true (countsFailures_of_not_attempts notAttempts nothing) ?_
    intro raw envelope first decoded
    exact absurd ⟨raw, envelope, first, decoded⟩ decodes

end Counting

end Context

namespace Sample

open HollerServer.Token.Sample

/-- The server after the token of the sample was redeemed. -/
noncomputable def usedContext : Context :=
  { context with file := save .sample [bound] }

/-- An `auth` whose credential is a number. -/
def numberText : String :=
  frameText "auth" "a2" "\x7b\"credential\":42\x7d"

noncomputable def numberSettings : Settings :=
  { settings with
    serde :=
      SerdeJson.ofTable
        [(numberText,
          frameValue "auth" "a2" (.object [("credential", .int 42)]))] }

def numberEnvelope : Envelope where
  v := 1
  msgType := .auth
  id := "a2"
  ts := "2023-11-14T22:13:20Z"
  sender := tokenId
  body := .auth { credential := .int 42 }

theorem decode_numberText :
    decode numberSettings.serde numberText = .ok numberEnvelope := by
  have parsed :
      numberSettings.serde.fromStr numberText =
        .ok (frameValue "auth" "a2" (.object [("credential", .int 42)])) := by
    simp [numberSettings, SerdeJson.ofTable]
  unfold decode parseEnvelope
  rw [parsed]
  rfl

end Sample

end HollerServer.Wire
