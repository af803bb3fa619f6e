import HollerServer.Wire.Attempts
import HollerServer.Wire.FrontDoor

/-!
# One connection at the front door

The front door takes `handle_connection` apart into the steps between which other
connections can take theirs.  A connection that is alone does in these steps what
the function does: it leaves the same store and the same tracker and becomes a session for
the same client.
-/

namespace HollerServer.Wire

open HollerServer.Proto
open HollerServer.Token
open Transition

/-- What the environment of a task supplies to its judgement. -/
def Environment.circumstances (environment : Environment) :
    Circumstances where
  now := environment.now
  clientDraw := environment.clientDraw
  credentialDraw := environment.credentialDraw
  detail := environment.detail

namespace Context

variable {settings : Settings} {environment : Environment}
  {context : Context}

/-- What every inbound frame leaves alone is left alone by the session loop. -/
theorem sessionLoop_keeps
    {β : Type} (view : Context → β) {tokenId clientId : String}
    (kept :
      ∀ (context : Context) raw clock ts,
        view (context.handleFrame settings tokenId clientId raw clock
          ts).context = view context)
    (picks : List Pick) (incoming : List Incoming) (context : Context) :
    view (sessionLoop settings tokenId clientId picks incoming
      context).context = view context := by
  induction picks generalizing incoming context with
  | nil => rfl
  | cons pick picks inductionHypothesis =>
      cases pick with
      | outgoing envelope accepted =>
          cases envelope with
          | none => rfl
          | some envelope =>
              unfold sessionLoop
              split
              · exact inductionHypothesis incoming context
              · rfl
      | incoming clock ts =>
          unfold sessionLoop
          split
          · next raw rest =>
              simp only
              split
              · exact
                  (inductionHypothesis rest _).trans
                    (kept context raw clock ts)
              · exact kept context raw clock ts
          · next payload rest => exact inductionHypothesis rest context
          · next rest => exact inductionHypothesis rest context
          · rfl
          · rfl
          · rfl
          · rfl
          · rfl

theorem file_handleFrame
    {tokenId clientId raw ts : String} {clock : Nat → Nat} :
    (context.handleFrame settings tokenId clientId raw clock
      ts).context.file = context.file := by
  unfold handleFrame
  split <;> rfl

theorem file_serve (client : VerifiedClient) (rest : List Incoming) :
    (context.serve settings environment client rest).context.file =
      context.file := by
  have kept :=
    @sessionLoop_keeps settings _ Context.file client.tokenId
      client.clientId fun _ _ _ _ => file_handleFrame
  unfold serve
  simp only
  split
  · split
    · exact kept _ _ _
    · exact kept _ _ _
  · rfl

/-- The run of a task after a first frame, against the judgement of the frame. -/
structure Judged
    (environment : Environment) (context : Context)
    (judged : Verdict × File) (run : ConnectionRun) : Prop where
  file : run.context.file = judged.2
  verified :
    ∀ client, run.verified = some client ↔ judged.1 = .accepted client
  lockout :
    run.context.lockout =
      match judged.1 with
      | .failed _ =>
          (context.lockout.recordFailure environment.failedAt
            environment.peer).2
      | _ => context.lockout

variable {run : ConnectionRun} {file : File}

theorem Judged.answered
    {reply : Envelope}
    (sameFile : run.context.file = file) (unverified : run.verified = none)
    (sameLockout : run.context.lockout = context.lockout) :
    Judged environment context (.answered reply, file) run where
  file := sameFile
  verified := by
    intro client
    simp [unverified]
  lockout := sameLockout

theorem Judged.failed
    {reply : Envelope}
    (sameFile : run.context.file = file) (unverified : run.verified = none)
    (counted :
      run.context.lockout =
        (context.lockout.recordFailure environment.failedAt
          environment.peer).2) :
    Judged environment context (.failed reply, file) run where
  file := sameFile
  verified := by
    intro client
    simp [unverified]
  lockout := counted

theorem Judged.panicked
    (sameFile : run.context.file = file) (unverified : run.verified = none)
    (sameLockout : run.context.lockout = context.lockout) :
    Judged environment context (.panicked, file) run where
  file := sameFile
  verified := by
    intro client
    simp [unverified]
  lockout := sameLockout

theorem judged_handleJoin
    {envelope : Envelope} {secret hostname : String} :
    Judged environment context
      (judgeJoin settings environment.circumstances envelope secret
        hostname context.file)
      (context.handleJoin settings environment envelope secret
        hostname) := by
  unfold handleJoin judgeJoin Environment.circumstances
  simp only
  generalize
    (Mutation.redeem environment.now environment.clientDraw
      environment.credentialDraw envelope.sender secret hostname).exec
        settings.crates settings.pepper context.file = outcome
  obtain ⟨reply, file⟩ := outcome
  cases reply with
  | ok answer =>
      cases answer with
      | redeemed result => exact .answered rfl rfl rfl
      | _ => exact .panicked rfl rfl rfl
  | err error => exact .failed rfl rfl rfl
  | panicked => exact .panicked rfl rfl rfl

theorem judged_handleAuth
    {envelope : Envelope} {credential : String} {rest : List Incoming} :
    Judged environment context
      (judgeAuth settings environment.circumstances envelope credential
        context.file)
      (context.handleAuth settings environment envelope credential
        rest) := by
  unfold handleAuth judgeAuth Environment.circumstances
  simp only
  generalize
    (Mutation.verifyCredential environment.now envelope.sender
      credential).exec settings.crates settings.pepper context.file = outcome
  obtain ⟨reply, file⟩ := outcome
  cases reply with
  | ok answer =>
      cases answer with
      | verified client =>
          exact
            { file := file_serve client rest
              verified := by
                intro other
                simp only
                rw [verified_serve]
                simp
              lockout := lockout_serve client rest }
      | _ => exact .panicked rfl rfl rfl
  | err error => exact .failed rfl rfl rfl
  | panicked => exact .panicked rfl rfl rfl

theorem judged_handleFirst {raw : String} {rest : List Incoming} :
    Judged environment context
      (judge settings environment.circumstances raw context.file)
      (context.handleFirst settings environment raw rest) := by
  unfold handleFirst judge
  cases decode settings.serde raw with
  | error error => exact .answered rfl rfl rfl
  | ok envelope =>
      simp only
      cases envelope.body with
      | join body => exact judged_handleJoin
      | auth body =>
          simp only
          cases body.credential.asStr with
          | some credential => exact judged_handleAuth
          | none => exact .answered rfl rfl rfl
      | _ => exact .answered rfl rfl rfl

end Context

namespace FrontDoor

variable {settings : Settings} {limits : ConnectionLimits}
  {policy : LockoutPolicy} {stored : File} {environment : Environment}
  {context : Context} {door : FrontDoor}

/-- The door after the task took all its steps before a session, against the run
of the task. -/
structure Agrees
    (environment : Environment) (run : ConnectionRun)
    (target : FrontDoor) : Prop where
  file : target.file = run.context.file
  tracker : target.tracker = run.context.lockout
  task :
    target.tasks.get? environment.conn =
      some
        { ip := environment.peer
          phase :=
            match run.verified with
            | some client => .session client
            | none => .returned
          permit := false }

/-- The steps are those of the connection; meanwhile time may pass. -/
def Alone (id : ConnId) (actions : List DoorAction) : Prop :=
  ∀ action ∈ actions,
    action.conn? = some id ∨ ∃ elapsed, action = .tick elapsed

/-- The connection alone leads from one door to the other. -/
def Reaches
    (settings : Settings) (limits : ConnectionLimits) (id : ConnId)
    (door target : FrontDoor) : Prop :=
  ∃ actions, Alone id actions ∧
    ∀ policy file,
      (machine settings limits policy file).run door actions = some target

variable {id : ConnId} {task : DoorTask} {next target : FrontDoor}

theorem Reaches.refl (door : FrontDoor) :
    Reaches settings limits id door door :=
  ⟨[], by simp [Alone], fun _ _ => rfl⟩

theorem Reaches.cons
    {action : DoorAction}
    (alone :
      action.conn? = some id ∨ ∃ elapsed, action = .tick elapsed)
    (stepped : door.step settings limits action = some next)
    (rest : Reaches settings limits id next target) :
    Reaches settings limits id door target := by
  obtain ⟨actions, others, ran⟩ := rest
  refine ⟨action :: actions, ?_, ?_⟩
  · exact List.forall_mem_cons.mpr ⟨alone, others⟩
  · intro policy file
    exact
      (Machine.run_cons_eq_some _).mpr ⟨next, stepped, ran policy file⟩

/-- The task takes a step. -/
theorem Reaches.own
    (action : DoorAction)
    (found : door.tasks.get? id = some task)
    (own : action.conn? = some id)
    (moved : door.taskStep settings limits id task action = some next)
    (rest : Reaches settings limits id next target) :
    Reaches settings limits id door target :=
  Reaches.cons (Or.inl own) (step_of_taskStep found own moved) rest

/-- Time passes. -/
theorem Reaches.wait
    (elapsed : Nat)
    (rest :
      Reaches settings limits id { door with now := door.now + elapsed }
        target) :
    Reaches settings limits id door target :=
  Reaches.cons (Or.inr ⟨elapsed, rfl⟩) rfl rest

/-- The reply is written and the task returns. -/
theorem Reaches.reply
    {ip : IpAddr} {reply : Envelope}
    (found :
      door.tasks.get? id =
        some { ip, phase := .replying reply, permit := true }) :
    Reaches settings limits id door
      (door.finish id { ip, phase := .replying reply, permit := true }) :=
  .own (.reply id) found rfl rfl (.refl _)

/-- The failure is counted before that. -/
theorem Reaches.fail
    {ip : IpAddr} {reply : Envelope} (elapsed : Nat)
    (found :
      door.tasks.get? id =
        some { ip, phase := .failing reply, permit := true }) :
    Reaches settings limits id door
      (({ door with
          now := door.now + elapsed
          tracker :=
            (door.tracker.recordFailure (door.now + elapsed) ip).2 }.settle
        id { ip, phase := .failing reply, permit := true }
        (.replying reply)).finish id
          { ip, phase := .replying reply, permit := true }) :=
  .wait elapsed
    (.own (.recordFailure id) found rfl rfl
      (.reply (FiniteMap.get?_put_self _ _ _)))

/-- The door and the context agree on what they share. -/
structure Shares
    (context : Context) (now : Nat) (door : FrontDoor) : Prop where
  now : door.now = now
  tracker : door.tracker = context.lockout
  file : door.file = context.file

theorem verified_eq_none
    {judged : Verdict × File} {run : ConnectionRun}
    (agrees : Context.Judged environment context judged run)
    (refused : ∀ client, judged.1 ≠ .accepted client) :
    run.verified = none := by
  rw [Option.eq_none_iff_forall_ne_some]
  intro client verified
  exact refused client ((agrees.verified client).mp verified)

/-- The judgement of the first frame and what follows it. -/
theorem reaches_of_received
    (settings : Settings) (limits : ConnectionLimits)
    {raw : String} (rest : List Incoming)
    (shares : door.Shares context environment.acceptedAt)
    (forward : environment.acceptedAt ≤ environment.failedAt)
    (found :
      door.tasks.get? environment.conn =
        some
          { ip := environment.peer, phase := .received raw, permit := true }) :
    ∃ target, Reaches settings limits environment.conn door target ∧
      Agrees environment
        (context.handleFirst settings environment raw rest) target := by
  have judged :=
    @Context.judged_handleFirst settings environment context raw rest
  generalize context.handleFirst settings environment raw rest = run
    at judged ⊢
  rw [← shares.file] at judged
  generalize isJudged :
    judge settings environment.circumstances raw door.file = pair at judged
  obtain ⟨verdict, file⟩ := pair
  have returned :
      (∀ client, verdict ≠ .accepted client) →
        run.verified = none :=
    verified_eq_none judged
  have moved :
      door.taskStep settings limits environment.conn
          { ip := environment.peer, phase := .received raw, permit := true }
          (.judge environment.conn environment.circumstances) =
        some
          ({ door with file }.conclude environment.conn
            { ip := environment.peer
              phase := .received raw
              permit := true } verdict) := by
    simp only [taskStep, isJudged]
  cases verdict with
  | answered reply =>
      refine
        ⟨_, .own _ found rfl moved
          (.reply (FiniteMap.get?_put_self _ _ _)), ?_⟩
      refine
        { file := judged.file.symm
          tracker := shares.tracker.trans judged.lockout.symm
          task := ?_ }
      rw [returned (by simp)]
      exact FiniteMap.get?_put_self _ _ _
  | failed reply =>
      refine
        ⟨_, .own _ found rfl moved
          (.fail (environment.failedAt - environment.acceptedAt)
            (FiniteMap.get?_put_self _ _ _)), ?_⟩
      have later :
          door.now + (environment.failedAt - environment.acceptedAt) =
            environment.failedAt := by
        rw [shares.now]
        omega
      refine
        { file := judged.file.symm
          tracker := ?_
          task := ?_ }
      · show
          (door.tracker.recordFailure
            (door.now + (environment.failedAt - environment.acceptedAt))
            environment.peer).2 = run.context.lockout
        rw [later, shares.tracker]
        exact judged.lockout.symm
      · rw [returned (by simp)]
        exact FiniteMap.get?_put_self _ _ _
  | accepted client =>
      refine ⟨_, .own _ found rfl moved (.refl _), ?_⟩
      refine
        { file := judged.file.symm
          tracker := shares.tracker.trans judged.lockout.symm
          task := ?_ }
      rw [(judged.verified client).mpr rfl]
      exact FiniteMap.get?_put_self _ _ _
  | panicked =>
      refine ⟨_, .own _ found rfl moved (.refl _), ?_⟩
      refine
        { file := judged.file.symm
          tracker := shares.tracker.trans judged.lockout.symm
          task := ?_ }
      rw [returned (by simp)]
      exact FiniteMap.get?_put_self _ _ _

/-- The wait for the first text frame and what follows it. -/
theorem reaches_of_shaken
    (settings : Settings) (limits : ConnectionLimits)
    (shares : door.Shares context environment.acceptedAt)
    (forward : environment.acceptedAt ≤ environment.failedAt)
    (found :
      door.tasks.get? environment.conn =
        some
          { ip := environment.peer
            phase := .shaken door.now
            permit := true })
    (incoming : List Incoming) :
    ∃ target, Reaches settings limits environment.conn door target ∧
      Agrees environment
        (if !environment.firstFrameInTime then { context }
        else
          match nextTextFrame incoming with
          | none => { context }
          | some (raw, rest) =>
              context.handleFirst settings environment raw rest)
        target := by
  cases environment.firstFrameInTime with
  | false =>
      refine
        ⟨_, .wait limits.preAuthTimeout
          (.own (.timeout environment.conn) found rfl
            (if_pos (Nat.le_refl _)) (.refl _)), ?_⟩
      exact
        { file := shares.file
          tracker := shares.tracker
          task := FiniteMap.get?_put_self _ _ _ }
  | true =>
      cases nextTextFrame incoming with
      | none =>
          refine
            ⟨_, .own (.streamEnd environment.conn) found rfl rfl (.refl _),
              ?_⟩
          exact
            { file := shares.file
              tracker := shares.tracker
              task := FiniteMap.get?_put_self _ _ _ }
      | some first =>
          obtain ⟨raw, rest⟩ := first
          have received :
              (door.settle environment.conn
                { ip := environment.peer
                  phase := .shaken door.now
                  permit := true } (.received raw)).Shares context
                environment.acceptedAt :=
            ⟨shares.now, shares.tracker, shares.file⟩
          obtain ⟨target, reached, agrees⟩ :=
            reaches_of_received settings limits rest received forward
              (FiniteMap.get?_put_self _ _ _)
          exact
            ⟨target,
              .own (.firstText environment.conn raw) found rfl rfl reached,
              agrees⟩

/-- The handshake and what follows it. -/
theorem reaches_of_admitted
    (settings : Settings) (limits : ConnectionLimits)
    (shares : door.Shares context environment.acceptedAt)
    (forward : environment.acceptedAt ≤ environment.failedAt)
    (found :
      door.tasks.get? environment.conn =
        some
          { ip := environment.peer, phase := .admitted, permit := true })
    (incoming : List Incoming) :
    ∃ target, Reaches settings limits environment.conn door target ∧
      Agrees environment
        (if !environment.handshake then { context }
        else if !environment.firstFrameInTime then { context }
        else
          match nextTextFrame incoming with
          | none => { context }
          | some (raw, rest) =>
              context.handleFirst settings environment raw rest)
        target := by
  cases environment.handshake with
  | false =>
      refine
        ⟨_, .own (.handshake environment.conn false) found rfl rfl (.refl _),
          ?_⟩
      exact
        { file := shares.file
          tracker := shares.tracker
          task := FiniteMap.get?_put_self _ _ _ }
  | true =>
      have shaken :
          (door.settle environment.conn
            { ip := environment.peer, phase := .admitted, permit := true }
            (.shaken door.now)).Shares context environment.acceptedAt :=
        ⟨shares.now, shares.tracker, shares.file⟩
      obtain ⟨target, reached, agrees⟩ :=
        reaches_of_shaken settings limits shaken
          forward (FiniteMap.get?_put_self _ _ _) incoming
      exact
        ⟨target,
          .own (.handshake environment.conn true) found rfl rfl reached,
          agrees⟩

/-- `handle_connection` is a run of the front door.  The steps of the connection,
with time passing between them but no step of anybody else, lead from the door at
which its task was spawned to one with the store and the tracker that
`handle_connection` leaves; the task is the session of the client that was
verified, or has returned, and owns no slot. -/
theorem handleConnection_is_a_run_of_the_door
    (shares : door.Shares context environment.acceptedAt)
    (forward : environment.acceptedAt ≤ environment.failedAt)
    (found :
      door.tasks.get? environment.conn =
        some { ip := environment.peer, phase := .spawned, permit := true })
    (incoming : List Incoming) :
    ∃ target, Reaches settings limits environment.conn door target ∧
      Agrees environment
        (context.handleConnection settings environment incoming)
        target := by
  have sameCheck :
      door.tracker.isLockedOut door.now environment.peer =
        context.lockout.isLockedOut environment.acceptedAt
          environment.peer := by
    rw [shares.tracker, shares.now]
  unfold Context.handleConnection
  generalize context.lockout.isLockedOut environment.acceptedAt
    environment.peer = checked at sameCheck ⊢
  obtain ⟨locked, tracker⟩ := checked
  simp only
  have checked :
      door.taskStep settings limits environment.conn
          { ip := environment.peer, phase := .spawned, permit := true }
          (.check environment.conn) =
        some
          (if locked then
            { door with tracker }.finish environment.conn
              { ip := environment.peer, phase := .spawned, permit := true }
          else
            { door with tracker }.settle environment.conn
              { ip := environment.peer, phase := .spawned, permit := true }
              .admitted) := by
    simp only [taskStep, sameCheck]
  cases locked with
  | true =>
      refine ⟨_, .own _ found rfl checked (.refl _), ?_⟩
      exact
        { file := shares.file
          tracker := rfl
          task := FiniteMap.get?_put_self _ _ _ }
  | false =>
      have admitted :
          ({ door with tracker }.settle environment.conn
            { ip := environment.peer, phase := .spawned, permit := true }
            .admitted).Shares
            { context with lockout := tracker } environment.acceptedAt :=
        ⟨shares.now, rfl, shares.file⟩
      obtain ⟨target, reached, agrees⟩ :=
        reaches_of_admitted settings limits
          admitted forward (FiniteMap.get?_put_self _ _ _) incoming
      exact ⟨target, .own _ found rfl checked reached, agrees⟩

end FrontDoor

namespace Sample

open HollerServer.Token.Sample

noncomputable def openedDoor : FrontDoor where
  slots := ⟨74⟩
  tracker := .new
  file := context.file
  tasks :=
    (∅ : FiniteMap ConnId DoorTask).put environment.conn
      { ip := environment.peer, phase := .spawned, permit := true }

theorem handleConnection_is_a_run_of_the_door_join :
    ∃ target,
      FrontDoor.Reaches settings .default environment.conn openedDoor
        target ∧
      FrontDoor.Agrees environment
        (context.handleConnection settings environment joinThenAuth)
        target :=
  FrontDoor.handleConnection_is_a_run_of_the_door ⟨rfl, rfl, rfl⟩
    (Nat.zero_le 1) rfl joinThenAuth

end Sample

end HollerServer.Wire
