import HollerServer.Lib.Permits
import HollerServer.Lib.Potential
import HollerServer.Wire.Connection
import HollerServer.Wire.LockoutGate

/-!
# From the accept loop to the session

`accept_loop` of `src/wire/mod.rs` and `handle_connection` of
`src/wire/connection.rs` up to the session loop, for any number of connections at
once.  They share the semaphore of unauthenticated connections, the lockout
tracker and the store file, which other processes rewrite, too.
-/

namespace HollerServer.Wire

open HollerServer.Proto
open HollerServer.Token
open Transition

/-- `ConnectionLimits`; the window is in nanoseconds. -/
structure ConnectionLimits where
  maxFrameBytes : Nat
  preAuthTimeout : Nat
  maxUnauthConnections : Nat
  deriving DecidableEq, Repr

namespace ConnectionLimits

def default : ConnectionLimits where
  maxFrameBytes := 2 * 1024 * 1024
  preAuthTimeout := 20 * 1000000000
  maxUnauthConnections := 75

/-- `env_parsed` at an unsigned type; `env` is the environment as far as it is
valid Unicode. -/
def envParsed (env : String → Option String) (size : Nat) (key : String) :
    Option Nat :=
  (env key).bind fun value => Text.parseUnsigned size (Text.trim value)

/-- `ConnectionLimits::from_env`, where `usize` has 64 bits. -/
def fromEnv (env : String → Option String) : ConnectionLimits where
  maxFrameBytes :=
    (envParsed env UInt64.size "HOLLER_MAX_FRAME_BYTES").getD
      default.maxFrameBytes
  preAuthTimeout :=
    ((envParsed env UInt64.size "HOLLER_PRE_AUTH_TIMEOUT_MS").map
      (· * 1000000)).getD default.preAuthTimeout
  maxUnauthConnections :=
    (envParsed env UInt64.size "HOLLER_MAX_UNAUTH_CONNECTIONS").getD
      default.maxUnauthConnections

end ConnectionLimits

/-- Where a task stands between its start and its end.  A refusal that counts for
the lockout is recorded before it is written. -/
inductive DoorPhase where
  | spawned
  | admitted
  | shaken (since : Nat)
  | received (raw : String)
  | failing (reply : Envelope)
  | replying (reply : Envelope)
  | session (client : VerifiedClient)
  | returned
  deriving Repr

/-- A `handle_connection` task; `permit` tells whether it owns one. -/
structure DoorTask where
  ip : IpAddr
  phase : DoorPhase
  permit : Bool
  deriving Repr

/-- What the first frame comes to. -/
inductive Verdict where
  | answered (reply : Envelope)
  | failed (reply : Envelope)
  | accepted (client : VerifiedClient)
  | panicked
  deriving Repr

/-- What a task draws and reads while it judges a first frame. -/
structure Circumstances where
  now : Instant
  clientDraw : Draw 16
  credentialDraw : Draw 32
  detail : String

instance : Inhabited Circumstances where
  default :=
    { now := ⟨0, by decide, by decide⟩
      clientDraw := none
      credentialDraw := none
      detail := "" }

/-- The outcome of a `join`. -/
def judgeJoin
    (settings : Settings) (circumstances : Circumstances)
    (envelope : Envelope) (secret hostname : String) (file : File) :
    Verdict × File :=
  let redeem :=
    Mutation.redeem circumstances.now circumstances.clientDraw
      circumstances.credentialDraw envelope.sender secret hostname
  match redeem.exec settings.crates settings.pepper file with
  | (.ok (.redeemed result), file) =>
      (.answered
        { v := 1
          msgType := .joinOk
          id := envelope.id
          ts := envelope.ts
          sender := "server"
          body := .joinOk
            { clientId := result.clientId
              credential := result.credential } }, file)
  | (.err error, file) =>
      (.failed
        (errorWithMessage codeJoinFailed
          (tokenErrorText settings.quoted circumstances.detail error)
          envelope.id "server"), file)
  | (_, file) => (.panicked, file)

/-- The outcome of an `auth`. -/
def judgeAuth
    (settings : Settings) (circumstances : Circumstances)
    (envelope : Envelope) (credential : String) (file : File) :
    Verdict × File :=
  let verify :=
    Mutation.verifyCredential circumstances.now envelope.sender credential
  match verify.exec settings.crates settings.pepper file with
  | (.ok (.verified client), file) => (.accepted client, file)
  | (.err _, file) =>
      (.failed
        (errorWithMessage codeUnauthenticated "authentication failed"
          envelope.id "server"), file)
  | (_, file) => (.panicked, file)

/-- The outcome of a first text frame. -/
def judge
    (settings : Settings) (circumstances : Circumstances)
    (raw : String) (file : File) : Verdict × File :=
  match decode settings.serde raw with
  | .error error => (.answered (decodeErrorEnvelope error), file)
  | .ok envelope =>
      match envelope.body with
      | .join body =>
          judgeJoin settings circumstances envelope body.secret
            body.hostname file
      | .auth body =>
          match body.credential.asStr with
          | some credential =>
              judgeAuth settings circumstances envelope credential file
          | none =>
              (.answered
                (errorWithMessage codeUnauthenticated
                  "auth credential must be a string" envelope.id
                  "server"), file)
      | _ =>
          (.answered
            (errorWithMessage codeUnauthenticated
              "first frame must be `auth` or `join`" envelope.id
              "server"), file)

/-- The tasks and what they share. -/
structure FrontDoor where
  now : Nat := 0
  accepting : Bool := true
  slots : Semaphore
  tracker : LockoutTracker
  file : File
  tasks : FiniteMap ConnId DoorTask := ∅

/-- One step of the accept loop, of a task, or of the environment: which
connections arrive, how a handshake ends, what a peer sends, when time passes and
when another process rewrites the store. -/
inductive DoorAction where
  | tick (elapsed : Nat)
  | store (file : File)
  | shutdown
  | accept (conn : ConnId) (ip : IpAddr)
  | check (conn : ConnId)
  | handshake (conn : ConnId) (succeeds : Bool)
  | firstText (conn : ConnId) (raw : String)
  | streamEnd (conn : ConnId)
  | timeout (conn : ConnId)
  | judge (conn : ConnId) (circumstances : Circumstances)
  | recordFailure (conn : ConnId)
  | reply (conn : ConnId)
  | close (conn : ConnId)

/-- The task a step is one of. -/
def DoorAction.conn? : DoorAction → Option ConnId
  | .tick _ | .store _ | .shutdown | .accept _ _ => none
  | .check id | .handshake id _ | .firstText id _ | .streamEnd id
  | .timeout id | .judge id _ | .recordFailure id | .reply id
  | .close id => some id

namespace DoorPhase

/-- How many steps a task takes at most before it no longer counts as
unauthenticated. -/
def stage : DoorPhase → Nat
  | .spawned => 6
  | .admitted => 5
  | .shaken _ => 4
  | .received _ => 3
  | .failing _ => 2
  | .replying _ => 1
  | .session _ | .returned => 0

/-- How many steps a task takes at most before it returns. -/
def remaining : DoorPhase → Nat
  | .session _ => 1
  | phase => phase.stage

/-- The ways on from each phase, with the step of the task that takes them. -/
inductive Moves (id : ConnId) : DoorAction → DoorPhase → DoorPhase → Prop
  | refused : Moves id (.check id) .spawned .returned
  | admitted : Moves id (.check id) .spawned .admitted
  | shaken {since : Nat} :
      Moves id (.handshake id true) .admitted (.shaken since)
  | broken : Moves id (.handshake id false) .admitted .returned
  | received {since : Nat} {raw : String} :
      Moves id (.firstText id raw) (.shaken since) (.received raw)
  | ended {since : Nat} :
      Moves id (.streamEnd id) (.shaken since) .returned
  | timedOut {since : Nat} :
      Moves id (.timeout id) (.shaken since) .returned
  | answered {circumstances : Circumstances} {raw : String}
      {reply : Envelope} :
      Moves id (.judge id circumstances) (.received raw) (.replying reply)
  | failed {circumstances : Circumstances} {raw : String}
      {reply : Envelope} :
      Moves id (.judge id circumstances) (.received raw) (.failing reply)
  | accepted {circumstances : Circumstances} {raw : String}
      {client : VerifiedClient} :
      Moves id (.judge id circumstances) (.received raw) (.session client)
  | panicked {circumstances : Circumstances} {raw : String} :
      Moves id (.judge id circumstances) (.received raw) .returned
  | recorded {reply : Envelope} :
      Moves id (.recordFailure id) (.failing reply) (.replying reply)
  | replied {reply : Envelope} :
      Moves id (.reply id) (.replying reply) .returned
  | closed {client : VerifiedClient} :
      Moves id (.close id) (.session client) .returned

section Moves

variable {id : ConnId} {action : DoorAction} {before after : DoorPhase}

theorem Moves.own (moves : Moves id action before after) :
    action.conn? = some id := by
  cases moves <;> rfl

theorem Moves.remaining_lt (moves : Moves id action before after) :
    after.remaining < before.remaining := by
  cases moves <;> simp [remaining, stage]

/-- A task that is still unauthenticated after a step has come closer to the
end. -/
theorem Moves.stage_lt
    (moves : Moves id action before after) (early : 0 < after.stage) :
    after.stage < before.stage := by
  cases moves with
  | accepted => cases early
  | closed => cases early
  | _ => simp [stage]

/-- A task that has not just passed the lockout check had passed it before. -/
theorem Moves.past
    (moves : Moves id action before after) (early : 0 < after.stage)
    (elsewhere : after ≠ .admitted) :
    before.stage ≤ 5 := by
  cases moves with
  | refused => cases early
  | admitted => exact absurd rfl elsewhere
  | _ => simp [stage]

/-- Only the peer takes a task out of its handshake. -/
theorem Moves.handshake_of_admitted
    (moves : Moves id action before after) (waiting : before = .admitted) :
    ∃ succeeds, action = .handshake id succeeds := by
  cases moves with
  | shaken => exact ⟨true, rfl⟩
  | broken => exact ⟨false, rfl⟩
  | _ => cases waiting

theorem Moves.stage_of_judge
    {circumstances : Circumstances} {other : ConnId}
    (moves : Moves id (.judge other circumstances) before after) :
    before.stage = 3 ∧ after.stage < 3 := by
  cases moves <;> simp [stage]

end Moves

end DoorPhase

namespace FrontDoor

variable (settings : Settings) (limits : ConnectionLimits)
  (door : FrontDoor)

/-- A task goes on and keeps its permit. -/
def settle (id : ConnId) (task : DoorTask) (phase : DoorPhase) : FrontDoor :=
  { door with tasks := door.tasks.put id { task with phase } }

/-- A task drops its permit if it still owns it. -/
def dropPermit (id : ConnId) (task : DoorTask) (phase : DoorPhase) :
    FrontDoor :=
  { door with
    slots := door.slots.releaseIf task.permit
    tasks := door.tasks.put id { task with phase, permit := false } }

/-- A task returns. -/
def finish (id : ConnId) (task : DoorTask) : FrontDoor :=
  door.dropPermit id task .returned

/-- What a task does once its first frame is judged. -/
def conclude (id : ConnId) (task : DoorTask) : Verdict → FrontDoor
  | .answered reply => door.settle id task (.replying reply)
  | .failed reply => door.settle id task (.failing reply)
  | .accepted client => door.dropPermit id task (.session client)
  -- the unwinding task drops what it owns
  | .panicked => door.finish id task

/-- A step of a task. -/
def taskStep (id : ConnId) (task : DoorTask) :
    DoorAction → Option FrontDoor
  | .check _ =>
      match task.phase with
      | .spawned =>
          let (locked, tracker) :=
            door.tracker.isLockedOut door.now task.ip
          let door := { door with tracker }
          some
            (if locked then door.finish id task
            else door.settle id task .admitted)
      | _ => none
  | .handshake _ succeeds =>
      match task.phase with
      | .admitted =>
          some
            (if succeeds then door.settle id task (.shaken door.now)
            else door.finish id task)
      | _ => none
  | .firstText _ raw =>
      match task.phase with
      | .shaken _ => some (door.settle id task (.received raw))
      | _ => none
  | .streamEnd _ =>
      match task.phase with
      | .shaken _ => some (door.finish id task)
      | _ => none
  | .timeout _ =>
      match task.phase with
      | .shaken since =>
          if since + limits.preAuthTimeout ≤ door.now then
            some (door.finish id task)
          else none
      | _ => none
  | .judge _ circumstances =>
      match task.phase with
      | .received raw =>
          let (verdict, file) := judge settings circumstances raw door.file
          some ({ door with file }.conclude id task verdict)
      | _ => none
  | .recordFailure _ =>
      match task.phase with
      | .failing reply =>
          let tracker := (door.tracker.recordFailure door.now task.ip).2
          some ({ door with tracker }.settle id task (.replying reply))
      | _ => none
  | .reply _ =>
      match task.phase with
      | .replying _ => some (door.finish id task)
      | _ => none
  | .close _ =>
      match task.phase with
      | .session _ => some (door.finish id task)
      | _ => none
  | .tick _ | .store _ | .shutdown | .accept _ _ => none

/-- One step; `none` when it is not enabled.  A connection that gets no permit is
dropped before a task is spawned for it. -/
def step (action : DoorAction) : Option FrontDoor :=
  match action with
  | .tick elapsed => some { door with now := door.now + elapsed }
  | .store file => some { door with file }
  | .shutdown => some { door with accepting := false }
  | .accept id ip =>
      if door.accepting = true then
        match door.tasks.get? id with
        | some _ => none
        | none =>
            match door.slots.tryAcquire with
            | none => some door
            | some slots =>
                some
                  { door with
                    slots
                    tasks := door.tasks.put id
                      { ip, phase := .spawned, permit := true } }
      else none
  | .check id | .handshake id _ | .firstText id _ | .streamEnd id
  | .timeout id | .judge id _ | .recordFailure id | .reply id
  | .close id =>
      (door.tasks.get? id).bind fun task =>
        door.taskStep settings limits id task action

/-- The server that `serve` starts on a store file; its tracker has the policy of
`LockoutTracker::new`. -/
def machine (policy : LockoutPolicy) (file : File) :
    Machine FrontDoor DoorAction where
  init :=
    { slots := .new limits.maxUnauthConnections
      tracker := .ofPolicy policy
      file }
  step := step settings limits

variable {settings : Settings} {limits : ConnectionLimits}
  {door next : FrontDoor} {action : DoorAction}

theorem step_of_taskStep
    {id : ConnId} {task : DoorTask}
    (found : door.tasks.get? id = some task)
    (own : action.conn? = some id)
    (moved : door.taskStep settings limits id task action = some next) :
    door.step settings limits action = some next := by
  cases action <;> cases own <;>
    exact Option.bind_eq_some_iff.mpr ⟨task, found, moved⟩

/-- The tracker after at most one call at the present time. -/
def Consulted (door : FrontDoor) (tracker : LockoutTracker) : Prop :=
  tracker = door.tracker ∨
    ∃ op, tracker = (door.tracker.exec door.now op).1

/-- What a step can do.  A task that moves on keeps its permit as long as it is
unauthenticated and drops it otherwise. -/
inductive Steps (door : FrontDoor) : DoorAction → FrontDoor → Prop
  | ticked {elapsed : Nat} :
      Steps door (.tick elapsed) { door with now := door.now + elapsed }
  | stored {file : File} : Steps door (.store file) { door with file }
  | shut : Steps door .shutdown { door with accepting := false }
  | turnedAway {id : ConnId} {ip : IpAddr}
      (fresh : door.tasks.get? id = none)
      (full : door.slots.tryAcquire = none) :
      Steps door (.accept id ip) door
  | spawned {id : ConnId} {ip : IpAddr} {slots : Semaphore}
      (fresh : door.tasks.get? id = none)
      (acquired : door.slots.tryAcquire = some slots) :
      Steps door (.accept id ip)
        { door with
          slots
          tasks := door.tasks.put id
            { ip, phase := .spawned, permit := true } }
  | settled {action : DoorAction} {id : ConnId} {task : DoorTask}
      {phase : DoorPhase} {tracker : LockoutTracker} {file : File}
      (found : door.tasks.get? id = some task)
      (moves : task.phase.Moves id action phase)
      (early : 0 < phase.stage)
      (unlocked :
        phase = .admitted →
          (door.tracker.isLockedOut door.now task.ip).1 = false)
      (consulted : door.Consulted tracker) :
      Steps door action
        ({ door with tracker, file }.settle id task phase)
  | dropped {action : DoorAction} {id : ConnId} {task : DoorTask}
      {phase : DoorPhase} {tracker : LockoutTracker} {file : File}
      (found : door.tasks.get? id = some task)
      (moves : task.phase.Moves id action phase)
      (last : phase.stage = 0)
      (consulted : door.Consulted tracker) :
      Steps door action
        ({ door with tracker, file }.dropPermit id task phase)

theorem consulted_isLockedOut (ip : IpAddr) :
    door.Consulted (door.tracker.isLockedOut door.now ip).2 :=
  Or.inr ⟨.isLockedOut ip, rfl⟩

theorem consulted_recordFailure (ip : IpAddr) :
    door.Consulted (door.tracker.recordFailure door.now ip).2 :=
  Or.inr ⟨.recordFailure ip, rfl⟩

theorem steps_of_taskStep
    {id : ConnId} {task : DoorTask}
    (found : door.tasks.get? id = some task)
    (own : action.conn? = some id)
    (stepped : door.taskStep settings limits id task action = some next) :
    Steps door action next := by
  have settled :
      ∀ {phase : DoorPhase} {tracker : LockoutTracker} {file : File},
        task.phase.Moves id action phase →
        0 < phase.stage →
        phase ≠ .admitted →
        door.Consulted tracker →
        Steps door action
          ({ door with tracker, file }.settle id task phase) :=
    fun moves early elsewhere consulted =>
      .settled found moves early
        (fun admitted => absurd admitted elsewhere) consulted
  cases action with
  | tick elapsed => cases stepped
  | store file => cases stepped
  | shutdown => cases stepped
  | accept other ip => cases stepped
  | check other =>
      cases own
      simp only [taskStep] at stepped
      split at stepped
      next before =>
        cases locked : (door.tracker.isLockedOut door.now task.ip).1 with
        | true =>
            simp only [locked, if_true] at stepped
            cases stepped
            refine .dropped found ?_ rfl (consulted_isLockedOut task.ip)
            rw [before]
            exact .refused
        | false =>
            simp only [locked, Bool.false_eq_true, if_false] at stepped
            cases stepped
            refine
              .settled found ?_ (Nat.succ_pos 4) (fun _ => locked)
                (consulted_isLockedOut task.ip)
            rw [before]
            exact .admitted
      next => cases stepped
  | handshake other succeeds =>
      cases own
      simp only [taskStep] at stepped
      split at stepped
      next before =>
        cases succeeds with
        | true =>
            cases stepped
            refine settled ?_ (Nat.succ_pos 3) (by simp) (Or.inl rfl)
            rw [before]
            exact .shaken
        | false =>
            cases stepped
            refine .dropped found ?_ rfl (Or.inl rfl)
            rw [before]
            exact .broken
      next => cases stepped
  | firstText other raw =>
      cases own
      simp only [taskStep] at stepped
      split at stepped
      next since before =>
        cases stepped
        refine settled ?_ (Nat.succ_pos 2) (by simp) (Or.inl rfl)
        rw [before]
        exact .received
      next => cases stepped
  | streamEnd other =>
      cases own
      simp only [taskStep] at stepped
      split at stepped
      next since before =>
        cases stepped
        refine .dropped found ?_ rfl (Or.inl rfl)
        rw [before]
        exact .ended
      next => cases stepped
  | timeout other =>
      cases own
      simp only [taskStep] at stepped
      split at stepped
      next since before =>
        split at stepped
        next =>
          cases stepped
          refine .dropped found ?_ rfl (Or.inl rfl)
          rw [before]
          exact .timedOut
        next => cases stepped
      next => cases stepped
  | judge other circumstances =>
      cases own
      simp only [taskStep] at stepped
      split at stepped
      next raw before =>
        generalize judge settings circumstances raw door.file = judged
          at stepped
        obtain ⟨verdict, file⟩ := judged
        cases verdict with
        | answered reply =>
            cases stepped
            refine settled ?_ (Nat.succ_pos 0) (by simp) (Or.inl rfl)
            rw [before]
            exact .answered
        | failed reply =>
            cases stepped
            refine settled ?_ (Nat.succ_pos 1) (by simp) (Or.inl rfl)
            rw [before]
            exact .failed
        | accepted client =>
            cases stepped
            refine .dropped found ?_ rfl (Or.inl rfl)
            rw [before]
            exact .accepted
        | panicked =>
            cases stepped
            refine .dropped found ?_ rfl (Or.inl rfl)
            rw [before]
            exact .panicked
      next => cases stepped
  | recordFailure other =>
      cases own
      simp only [taskStep] at stepped
      split at stepped
      next reply before =>
        cases stepped
        refine
          settled ?_ (Nat.succ_pos 0) (by simp)
            (consulted_recordFailure task.ip)
        rw [before]
        exact .recorded
      next => cases stepped
  | reply other =>
      cases own
      simp only [taskStep] at stepped
      split at stepped
      next reply before =>
        cases stepped
        refine .dropped found ?_ rfl (Or.inl rfl)
        rw [before]
        exact .replied
      next => cases stepped
  | close other =>
      cases own
      simp only [taskStep] at stepped
      split at stepped
      next client before =>
        cases stepped
        refine .dropped found ?_ rfl (Or.inl rfl)
        rw [before]
        exact .closed
      next => cases stepped

theorem steps_of_step
    (stepped : door.step settings limits action = some next) :
    Steps door action next := by
  have ofTask :
      ∀ id, action.conn? = some id →
        ((door.tasks.get? id).bind fun task =>
          door.taskStep settings limits id task action) = some next →
        Steps door action next := by
    intro id own moved
    obtain ⟨task, found, moved⟩ := Option.bind_eq_some_iff.mp moved
    exact steps_of_taskStep found own moved
  cases action with
  | tick elapsed =>
      cases stepped
      exact .ticked
  | store file =>
      cases stepped
      exact .stored
  | shutdown =>
      cases stepped
      exact .shut
  | accept id ip =>
      simp only [step] at stepped
      split at stepped
      next =>
        split at stepped
        next => cases stepped
        next fresh =>
          split at stepped
          next full =>
            cases stepped
            exact .turnedAway fresh full
          next slots acquired =>
            cases stepped
            exact .spawned fresh acquired
      next => cases stepped
  | check id => exact ofTask id rfl stepped
  | handshake id succeeds => exact ofTask id rfl stepped
  | firstText id raw => exact ofTask id rfl stepped
  | streamEnd id => exact ofTask id rfl stepped
  | timeout id => exact ofTask id rfl stepped
  | judge id circumstances => exact ofTask id rfl stepped
  | recordFailure id => exact ofTask id rfl stepped
  | reply id => exact ofTask id rfl stepped
  | close id => exact ofTask id rfl stepped

/-- Time does not go back. -/
theorem now_le_step
    (stepped : door.step settings limits action = some next) :
    door.now ≤ next.now := by
  cases steps_of_step stepped with
  | ticked => exact Nat.le_add_right _ _
  | stored => exact Nat.le_refl _
  | shut => exact Nat.le_refl _
  | turnedAway fresh full => exact Nat.le_refl _
  | spawned fresh acquired => exact Nat.le_refl _
  | settled found moves early unlocked consulted => exact Nat.le_refl _
  | dropped found moves last consulted => exact Nat.le_refl _

end FrontDoor

end HollerServer.Wire
