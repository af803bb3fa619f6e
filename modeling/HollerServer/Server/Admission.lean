import HollerServer.Lib.Service
import HollerServer.Token.History
import HollerServer.Wire.Arrival

/-!
# Who is admitted

The store with the two ways that lead to it: the command line, and connections
whose first frame is a `join` or an `auth`.  What happened to a token is read off
what was shown: the replies of the command line and the frames that were written.
A connection is admitted exactly with a credential that was handed out this way,
and handed one exactly for a secret that was.
-/

namespace HollerServer.Server

open HollerServer.Proto
open HollerServer.Token
open HollerServer.Wire

/-- What reaches the store: a call of the command line, or a connection with the
tables it finds, its environment and the messages of its peer. -/
inductive Approach where
  | command (op : Op)
  | connection (context : Context) (environment : Environment)
      (incoming : List Incoming)

/-- What an approach shows. -/
inductive Shown where
  | replied (reply : Reply)
  | ran (run : ConnectionRun)

/-- The first text frame of a connection that is let in, if it decodes. -/
def firstEnvelope
    (settings : Settings) (context : Context) (environment : Environment)
    (incoming : List Incoming) : Option Envelope :=
  if (context.lockout.isLockedOut environment.acceptedAt
      environment.peer).1 then none
  else if !environment.handshake then none
  else if !environment.firstFrameInTime then none
  else
    match nextTextFrame incoming with
    | none => none
    | some (raw, _) =>
        match decode settings.serde raw with
        | .error _ => none
        | .ok envelope => some envelope

/-- The credential of an `auth`. -/
def presented? (envelope : Envelope) : Option String :=
  match envelope.body with
  | .auth body => body.credential.asStr
  | _ => none

/-- The secret and the hostname of a `join`. -/
def joining? (envelope : Envelope) : Option (String × String) :=
  match envelope.body with
  | .join body => some (body.secret, body.hostname)
  | _ => none

/-- The client id and the credential of a `join_ok`. -/
def joinOk? : Written → Option (String × String)
  | .text envelope =>
      match envelope.body with
      | .joinOk body => some (body.clientId, body.credential)
      | _ => none
  | .pong _ | .close => none

namespace Approach

variable (settings : Settings)

/-- What the approach does to the file, and what it shows. -/
def happen : Approach → File → Shown × File
  | .command op, file =>
      let (reply, file) := op.exec settings.crates settings.pepper file
      (.replied reply, file)
  | .connection context environment incoming, file =>
      let run :=
        Context.handleConnection settings environment { context with file }
          incoming
      (.ran run, run.context.file)

/-- What was established about a token, as far as it was shown. -/
def established : Approach × Shown → Option Fact
  | (.command op, .replied reply) => Fact.of? (op, reply)
  | (.connection context environment incoming, .ran run) => do
      let envelope ←
        firstEnvelope settings context environment incoming
      let (_, hostname) ← joining? envelope
      let (clientId, credential) ← run.written.findSome? joinOk?
      some (.redeemed envelope.sender credential clientId hostname)
  | _ => none

/-- The call of the store an approach comes to. -/
def op? : Approach → Option Op
  | .command op => some op
  | .connection context environment incoming => do
      let envelope ←
        firstEnvelope settings context environment incoming
      match joining? envelope with
      | some (secret, hostname) =>
          some
            (.redeem environment.now environment.clientDraw
              environment.credentialDraw envelope.sender secret hostname)
      | none =>
          (presented? envelope).map
            (.verifyCredential environment.now envelope.sender)

/-- The store behind its two ways. -/
def service : Service File Approach Shown where
  init := none
  call := happen settings

/-- What was established in a list of approaches, from the empty store on. -/
def facts (approaches : List Approach) : List Fact :=
  (approaches.zip ((service settings).replies approaches none)).filterMap
    (established settings)

/-- The file after a list of approaches. -/
def file (approaches : List Approach) : File :=
  (service settings).after approaches none

end Approach

section Connections

variable {settings : Settings} {environment : Environment}
  {context : Context} {incoming : List Incoming}

/-- A connection without an envelope to judge does nothing to the store. -/
theorem handleConnection_of_no_envelope
    (nothing :
      firstEnvelope settings context environment incoming = none) :
    let run := context.handleConnection settings environment incoming
    run.context.file = context.file ∧ run.verified = none := by
  unfold firstEnvelope at nothing
  unfold Context.handleConnection
  simp only
  split at nothing
  next locked =>
    rw [if_pos locked]
    exact ⟨rfl, rfl⟩
  next admitted =>
  rw [if_neg admitted]
  split at nothing
  next unshaken =>
    rw [if_pos unshaken]
    exact ⟨rfl, rfl⟩
  next shaken =>
  rw [if_neg shaken]
  split at nothing
  next late =>
    rw [if_pos late]
    exact ⟨rfl, rfl⟩
  next inTime =>
  rw [if_neg inTime]
  cases found : nextTextFrame incoming with
  | none => exact ⟨rfl, rfl⟩
  | some pair =>
      obtain ⟨raw, rest⟩ := pair
      rw [found] at nothing
      simp only at nothing ⊢
      unfold Context.handleFirst
      cases decoded : decode settings.serde raw with
      | error error => exact ⟨rfl, rfl⟩
      | ok envelope =>
          rw [decoded] at nothing
          cases nothing

/-- The connection after the check of its address. -/
def checked (context : Context) (environment : Environment) : Context :=
  { context with
    lockout :=
      (context.lockout.isLockedOut environment.acceptedAt
        environment.peer).2 }

/-- A connection with an envelope judges it. -/
theorem handleConnection_of_envelope
    {envelope : Envelope}
    (first :
      firstEnvelope settings context environment incoming =
        some envelope) :
    ∃ raw rest,
      decode settings.serde raw = .ok envelope ∧
        context.handleConnection settings environment incoming =
          (checked context environment).handleFirst settings environment raw
            rest := by
  unfold firstEnvelope at first
  split at first
  next => cases first
  next admitted =>
  split at first
  next => cases first
  next shaken =>
  split at first
  next => cases first
  next inTime =>
  cases found : nextTextFrame incoming with
  | none =>
      rw [found] at first
      cases first
  | some pair =>
      obtain ⟨raw, rest⟩ := pair
      rw [found] at first
      simp only at first
      cases decoded : decode settings.serde raw with
      | error error =>
          rw [decoded] at first
          cases first
      | ok decodedEnvelope =>
          rw [decoded] at first
          cases first
          refine ⟨raw, rest, decoded, ?_⟩
          exact
            (Context.handleConnection_of_first
              (by simpa using admitted) (by simpa using shaken)
              (by simpa using inTime) found).1

/-- The redeem of a `join`: the file it leaves, and the `join_ok` that shows its
result. -/
theorem handleJoin_shows {envelope : Envelope} {secret hostname : String} :
    let outcome :=
      (Op.redeem environment.now environment.clientDraw
          environment.credentialDraw envelope.sender secret hostname).exec
        settings.crates settings.pepper context.file
    let run :=
      context.handleJoin settings environment envelope secret hostname
    run.context.file = outcome.2 ∧
      (run.written.findSome? joinOk?).map (fun shown =>
          Fact.redeemed envelope.sender shown.2 shown.1 hostname) =
        Fact.of?
          (.redeem environment.now environment.clientDraw
            environment.credentialDraw envelope.sender secret hostname,
            outcome.1) := by
  simp only [Op.exec]
  unfold Context.handleJoin
  simp only
  generalize executed :
    (Mutation.redeem environment.now environment.clientDraw
      environment.credentialDraw envelope.sender secret hostname).exec
        settings.crates settings.pepper context.file = outcome
  obtain ⟨reply, file⟩ := outcome
  cases reply with
  | ok answer =>
      obtain ⟨result, rfl⟩ := Mutation.exec_redeem_eq_ok executed
      exact ⟨rfl, rfl⟩
  | err error => exact ⟨rfl, rfl⟩
  | panicked => exact ⟨rfl, rfl⟩

/-- The check of the credential of an `auth`: the file it leaves, and the client
that is admitted. -/
theorem handleAuth_shows
    {envelope : Envelope} {credential : String} {rest : List Incoming} :
    let outcome :=
      (Op.verifyCredential environment.now envelope.sender credential).exec
        settings.crates settings.pepper context.file
    let run :=
      context.handleAuth settings environment envelope credential rest
    run.context.file = outcome.2 ∧
      ∀ client,
        run.verified = some client ↔ outcome.1 = .ok (.verified client) := by
  simp only [Op.exec]
  unfold Context.handleAuth
  simp only
  generalize executed :
    (Mutation.verifyCredential environment.now envelope.sender
      credential).exec settings.crates settings.pepper context.file = outcome
  obtain ⟨reply, file⟩ := outcome
  cases reply with
  | ok answer =>
      obtain ⟨client, rfl⟩ := Mutation.exec_verifyCredential_eq_ok executed
      refine ⟨Context.file_serve client rest, fun other => ?_⟩
      simp [Context.verified_serve]
  | err error => exact ⟨rfl, by simp⟩
  | panicked => exact ⟨rfl, by simp⟩

end Connections

section Approaches

variable {settings : Settings}

theorem of?_verifyCredential
    {now : Instant} {tokenId credential : String} (reply : Reply) :
    Fact.of? (.verifyCredential now tokenId credential, reply) = none := by
  cases reply <;> rfl

/-- An approach that comes to a call does what the call does, and shows what its
reply establishes. -/
theorem Approach.happen_of_op
    {approach : Approach} {op : Op} (comesTo : approach.op? settings = some op)
    (file : File) :
    let outcome := op.exec settings.crates settings.pepper file
    (approach.happen settings file).2 = outcome.2 ∧
      established settings (approach, (approach.happen settings file).1) =
        Fact.of? (op, outcome.1) := by
  cases approach with
  | command called =>
      cases comesTo
      exact ⟨rfl, rfl⟩
  | connection context environment incoming =>
      simp only [op?, happen, established] at comesTo ⊢
      have seen :
          firstEnvelope settings { context with file } environment incoming =
            firstEnvelope settings context environment incoming :=
        rfl
      cases first : firstEnvelope settings context environment incoming with
      | none =>
          rw [first] at comesTo
          cases comesTo
      | some envelope =>
          obtain ⟨raw, rest, decoded, isRun⟩ :=
            handleConnection_of_envelope (seen.trans first)
          rw [first] at comesTo
          simp only [Option.bind_eq_bind, Option.bind_some] at comesTo ⊢
          rw [isRun]
          unfold Context.handleFirst
          rw [decoded]
          unfold joining? presented? at comesTo
          unfold joining?
          cases body : envelope.body with
          | join joinBody =>
              simp only [body] at comesTo ⊢
              cases comesTo
              have shows :=
                @handleJoin_shows settings environment
                  (checked { context with file } environment) envelope
                  joinBody.secret joinBody.hostname
              exact ⟨shows.1, Option.map_eq_bind.symm.trans shows.2⟩
          | auth authBody =>
              simp only [body] at comesTo ⊢
              cases text : authBody.credential.asStr with
              | none =>
                  rw [text] at comesTo
                  cases comesTo
              | some credential =>
                  rw [text] at comesTo
                  cases comesTo
                  exact ⟨handleAuth_shows.1, (of?_verifyCredential _).symm⟩
          | _ =>
              simp only [body] at comesTo
              cases comesTo

/-- An approach that comes to no call leaves the file, and establishes
nothing. -/
theorem Approach.happen_of_no_op
    {approach : Approach} (comesToNone : approach.op? settings = none)
    (file : File) :
    (approach.happen settings file).2 = file ∧
      established settings (approach, (approach.happen settings file).1) =
        none := by
  cases approach with
  | command called => cases comesToNone
  | connection context environment incoming =>
      simp only [op?, happen, established] at comesToNone ⊢
      have seen :
          firstEnvelope settings { context with file } environment incoming =
            firstEnvelope settings context environment incoming :=
        rfl
      cases first : firstEnvelope settings context environment incoming with
      | none =>
          exact ⟨(handleConnection_of_no_envelope (seen.trans first)).1, rfl⟩
      | some envelope =>
          obtain ⟨raw, rest, decoded, isRun⟩ :=
            handleConnection_of_envelope (seen.trans first)
          rw [first] at comesToNone
          simp only [Option.bind_eq_bind, Option.bind_some] at comesToNone ⊢
          rw [isRun]
          unfold Context.handleFirst
          rw [decoded]
          unfold joining? presented? at comesToNone
          unfold joining?
          cases body : envelope.body with
          | join joinBody =>
              simp only [body] at comesToNone
              cases comesToNone
          | auth authBody =>
              simp only [body] at comesToNone ⊢
              cases text : authBody.credential.asStr with
              | none => exact ⟨rfl, rfl⟩
              | some credential =>
                  rw [text] at comesToNone
                  cases comesToNone
          | _ =>
              simp only [body]
              exact ⟨rfl, rfl⟩

/-- The approaches leave the file their calls leave, and what they show
establishes what the replies of these calls do. -/
theorem Approach.history (approaches : List Approach) :
    let history :=
      History.ofOps settings.crates settings.pepper
        (approaches.filterMap (op? settings))
    file settings approaches = history.file ∧
      facts settings approaches = history.facts := by
  induction approaches using List.reverseRecOn with
  | nil => exact ⟨rfl, rfl⟩
  | append_singleton approaches approach inductionHypothesis =>
      simp only at inductionHypothesis ⊢
      obtain ⟨sameFile, sameFacts⟩ := inductionHypothesis
      have grownFile :
          file settings (approaches ++ [approach]) =
            (approach.happen settings (file settings approaches)).2 := by
        unfold file
        rw [Service.after_append]
        rfl
      have grownFacts :
          facts settings (approaches ++ [approach]) =
            facts settings approaches ++
              (established settings
                (approach,
                  (approach.happen settings
                    (file settings approaches)).1)).toList := by
        unfold facts
        rw [Service.replies_append,
          List.zip_append (Service.length_replies _ approaches none).symm,
          List.filterMap_append]
        rfl
      rw [grownFile, grownFacts, List.filterMap_append, sameFacts, sameFile]
      cases comesTo : approach.op? settings with
      | none =>
          have idle := happen_of_no_op comesTo
          rw [(idle _).1, (idle _).2]
          simp [comesTo]
      | some op =>
          have called := happen_of_op comesTo
          have single : [approach].filterMap (op? settings) = [op] := by
            simp [comesTo]
          rw [(called _).1, (called _).2, single, History.ofOps_snoc,
            History.facts_call]
          exact ⟨rfl, rfl⟩

end Approaches

section Admission

variable {settings : Settings} {environment : Environment}
  {context : Context} {incoming : List Incoming}

/-- A client is verified only by the check of a presented credential. -/
theorem verified_handleConnection_iff (client : VerifiedClient) :
    (context.handleConnection settings environment incoming).verified =
        some client ↔
      ∃ envelope credential,
        firstEnvelope settings context environment incoming =
            some envelope ∧
          presented? envelope = some credential ∧
          ((Op.verifyCredential environment.now envelope.sender
              credential).exec settings.crates settings.pepper
            context.file).1 = .ok (.verified client) := by
  cases first : firstEnvelope settings context environment incoming with
  | none =>
      rw [(handleConnection_of_no_envelope first).2]
      simp
  | some envelope =>
      obtain ⟨raw, rest, decoded, isRun⟩ := handleConnection_of_envelope first
      rw [isRun]
      unfold Context.handleFirst presented?
      rw [decoded]
      simp only [Option.some.injEq, exists_and_left, exists_eq_left']
      cases body : envelope.body with
      | join joinBody =>
          simp only
          rw [Context.verified_handleJoin]
          simp
      | auth authBody =>
          simp only
          cases text : authBody.credential.asStr with
          | none => simp
          | some credential =>
              simp only [Option.some.injEq, exists_eq_left']
              exact handleAuth_shows.2 client
      | _ => simp

/-- A redeem establishes something exactly if it succeeds. -/
theorem isSome_of?_redeem
    {now : Instant} {clientDraw : Draw 16} {credentialDraw : Draw 32}
    {tokenId secret machine : String} {file : File} :
    let op := Op.redeem now clientDraw credentialDraw tokenId secret machine
    (Fact.of?
        (op, (op.exec settings.crates settings.pepper file).1)).isSome =
        true ↔
      (op.exec settings.crates settings.pepper file).1.isOk = true := by
  simp only [Op.exec]
  generalize executed :
    (Mutation.redeem now clientDraw credentialDraw tokenId secret
      machine).exec settings.crates settings.pepper file = outcome
  obtain ⟨reply, file'⟩ := outcome
  cases reply with
  | ok answer =>
      obtain ⟨result, rfl⟩ := Mutation.exec_redeem_eq_ok executed
      exact ⟨fun _ => rfl, fun _ => rfl⟩
  | err error => simp [Fact.of?, Result.isOk]
  | panicked => simp [Fact.of?, Result.isOk]

/-- A `join` is answered with a `join_ok` exactly if its redeem succeeds. -/
theorem joinOk_handleConnection_iff
    {envelope : Envelope} {secret hostname : String}
    (first :
      firstEnvelope settings context environment incoming = some envelope)
    (joins : joining? envelope = some (secret, hostname)) :
    ((context.handleConnection settings environment
        incoming).written.findSome? joinOk?).isSome = true ↔
      ((Op.redeem environment.now environment.clientDraw
          environment.credentialDraw envelope.sender secret hostname).exec
        settings.crates settings.pepper context.file).1.isOk = true := by
  obtain ⟨raw, rest, decoded, isRun⟩ := handleConnection_of_envelope first
  rw [isRun]
  unfold Context.handleFirst
  unfold joining? at joins
  rw [decoded]
  cases body : envelope.body with
  | join joinBody =>
      simp only [body] at joins ⊢
      cases joins
      have shows :=
        (@handleJoin_shows settings environment (checked context environment)
          envelope joinBody.secret joinBody.hostname).2
      have known := congrArg Option.isSome shows
      rw [Option.isSome_map] at known
      rw [known]
      exact isSome_of?_redeem
  | _ =>
      simp only [body] at joins
      cases joins

/-- A credential that is accepted was returned by a redeem of the token, for the
client and the machine it is accepted for. -/
theorem credentialed_of_verified
    {crates : Crates} {pepper : List UInt8} {facts : List Fact}
    {records : List TokenRecord} {file : File}
    (lawful : crates.Lawful)
    (collisionFree : crates.CollisionFree pepper)
    (tracks : Tracks crates pepper facts records)
    (loaded : load crates file = .ok records)
    {now : Instant} {tokenId credential : String} {client : VerifiedClient}
    (verified :
      ((Op.verifyCredential now tokenId credential).exec crates pepper
        file).1 = .ok (.verified client)) :
    tokenId = client.tokenId ∧
      Credentialed facts client.tokenId credential client.clientId
        client.machine := by
  obtain ⟨⟨record, found, bound, matching⟩, lastSeen, formatted⟩ :=
    (Mutation.isOk_exec loaded).mp (Result.isOk_iff.mpr ⟨_, verified⟩)
  have credentialed :=
    (tracks.verify_ready collisionFree tokenId credential _ _).mpr
      ⟨record, found, bound, matching, rfl, rfl⟩
  have replied :=
    (tracks.exec_verify lawful collisionFree loaded formatted
      credentialed).1
  rw [verified] at replied
  cases replied
  exact ⟨rfl, credentialed⟩

/-- Without collisions of the hash, and with a new id at every mint: however many
calls of the command line and connections there were, whatever their peers sent
and whatever the tables held, a connection is admitted as a client
exactly if it presents, in time and from an address that is not locked out, a
credential that was shown for that token, by a `join_ok` or by a redeem on the
command line, and the token was not deleted since.  A `join` gets a `join_ok`
exactly if the server can draw the bytes it returns, a mint showed its secret for
the token, the time of the secret has not run out, and until then no credential
was shown for the token nor was it deleted. -/
theorem admitted_iff_handed_out
    (lawful : settings.crates.Lawful)
    (collisionFree : settings.crates.CollisionFree settings.pepper)
    (approaches : List Approach)
    (fresh : Fresh (approaches.filterMap (Approach.op? settings)))
    (context : Context) (environment : Environment)
    (incoming : List Incoming) :
    let facts := Approach.facts settings approaches
    let run :=
      Context.handleConnection settings environment
        { context with file := Approach.file settings approaches } incoming
    (∀ client,
      run.verified = some client ↔
        ∃ envelope credential,
          firstEnvelope settings context environment incoming =
              some envelope ∧
            presented? envelope = some credential ∧
            envelope.sender = client.tokenId ∧
            Credentialed facts client.tokenId credential client.clientId
              client.machine) ∧
      ∀ envelope secret hostname,
        firstEnvelope settings context environment incoming =
            some envelope →
          joining? envelope = some (secret, hostname) →
          ((run.written.findSome? joinOk?).isSome = true ↔
            (environment.clientDraw.isSome = true ∧
              environment.credentialDraw.isSome = true) ∧
            ∃ expiry,
              .minted envelope.sender secret expiry ∈ facts ∧
                environment.now.nanos < expiry ∧
                ¬ Redeemed facts envelope.sender ∧
                .deleted envelope.sender ∉ facts) := by
  intro facts run
  obtain ⟨sameFile, sameFacts⟩ :=
    @Approach.history settings approaches
  obtain ⟨records, loaded, tracks, _⟩ := tracks_ofOps lawful _ fresh
  rw [← sameFile] at loaded
  rw [← sameFacts] at tracks
  constructor
  · intro client
    refine (verified_handleConnection_iff client).trans ?_
    constructor
    · rintro ⟨envelope, credential, first, presents, verified⟩
      exact
        ⟨envelope, credential, first, presents,
          credentialed_of_verified lawful collisionFree tracks loaded
            verified⟩
    · rintro ⟨envelope, credential, first, presents, named, credentialed⟩
      obtain ⟨lastSeen, formatted⟩ := lawful.format_clock environment.now
      have accepted :=
        (tracks.exec_verify lawful collisionFree loaded formatted
          credentialed).1
      refine ⟨envelope, credential, first, presents, ?_⟩
      rw [named]
      exact accepted
  · intro envelope secret hostname first joins
    refine
      (@joinOk_handleConnection_iff _ _
        { context with file := Approach.file settings approaches } _ _ _ _
        first joins).trans ?_
    rw [← tracks.redeem_ready collisionFree environment.now.nanos
      envelope.sender secret]
    exact (Mutation.isOk_exec loaded).trans And.comm

end Admission

namespace Sample

open HollerServer.Token.Sample
open HollerServer.Wire.Sample

theorem firstEnvelope_joinThenAuth :
    firstEnvelope settings context environment joinThenAuth =
      some joinEnvelope := by
  have admitted :
      (context.lockout.isLockedOut environment.acceptedAt
        environment.peer).1 = false :=
    rfl
  have first :
      nextTextFrame joinThenAuth =
        some (joinText, [.message (.text authText)]) :=
    rfl
  have shaken : environment.handshake = true := rfl
  have inTime : environment.firstFrameInTime = true := rfl
  unfold firstEnvelope
  simp only [admitted, first, shaken, inTime, Bool.not_true,
    Bool.false_eq_true, if_false, decode_joinText]

theorem facts_mint :
    Approach.facts settings [.command mint] =
      [.minted tokenId secret (mintedAt.nanos + ttl)] := by
  have isHistory :
      Approach.facts settings [.command mint] =
        (History.ofOps .sample pepper [mint]).facts :=
    (@Approach.history settings [.command mint]).2
  rw [isHistory, sample_ofOps_mint]
  rfl

/-- The token of the sample is minted on the command line and joined by a
connection that presents its secret. -/
theorem admitted_iff_handed_out_join :
    ((Context.handleConnection settings environment
        { context with file := Approach.file settings [.command mint] }
        joinThenAuth).written.findSome? joinOk?).isSome = true := by
  have fresh :
      Fresh ([Approach.command mint].filterMap (Approach.op? settings)) :=
    List.nodup_singleton _
  have admission :=
    (admitted_iff_handed_out Crates.sample_lawful
      (Crates.sample_collisionFree _) [.command mint] fresh context
      environment joinThenAuth).2 joinEnvelope secret "laptop"
      firstEnvelope_joinThenAuth rfl
  rw [facts_mint] at admission
  refine admission.mpr ⟨⟨rfl, rfl⟩, mintedAt.nanos + ttl, ?_, by decide, ?_, ?_⟩
  · exact List.mem_cons_self
  · rintro ⟨_, _, _, redeemed⟩
    cases List.mem_singleton.mp redeemed
  · intro deleted
    cases List.mem_singleton.mp deleted

end Sample

end HollerServer.Server
