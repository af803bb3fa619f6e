import HollerServer.Wire.LockoutWindow
import HollerServer.Wire.Registry

/-!
# Connections at the lockout gate

Any number of connection tasks up to the verdict on their credential.  Each looks
at the lockout of its source once, before the WebSocket handshake; its first
frame is judged later, and a rejection is counted later still.

While a source is locked out no connection from it gets past the look.  A
connection that was past it when the lockout began is not stopped any more.
-/

namespace HollerServer.Wire

open Transition

/-- Where a connection task stands before it serves a session. -/
inductive GatePhase where
  | admitted
  | shaken
  | presented
  | rejected
  | ended
  deriving DecidableEq, Repr

/-- The task is past the lockout check and its credential is not yet judged. -/
def GatePhase.pending : GatePhase → Bool
  | .admitted | .shaken | .presented => true
  | .rejected | .ended => false

structure GateConn where
  ip : IpAddr
  phase : GatePhase
  deriving DecidableEq, Repr

/-- The tracker and the connection tasks that share it. -/
structure Gate where
  now : Nat := 0
  tracker : LockoutTracker
  conns : FiniteMap ConnId GateConn := ∅

namespace Gate

/-- One step of a connection task.  The environment decides whether the handshake
succeeds, whether the first frame presents a credential or a secret, and what
`verify_credential` or `redeem` makes of it. -/
inductive Action where
  | tick (elapsed : Nat)
  | accept (conn : ConnId) (ip : IpAddr)
  | handshake (conn : ConnId) (succeeds : Bool)
  | firstFrame (conn : ConnId) (presents : Bool)
  | evaluate (conn : ConnId) (accepted : Bool)
  | recordFailure (conn : ConnId)
  deriving DecidableEq, Repr

variable (gate : Gate)

def setPhase (id : ConnId) (conn : GateConn) (phase : GatePhase) : Gate :=
  { gate with conns := gate.conns.put id { conn with phase } }

/-- A task that stands at the first phase goes on to the second. -/
def advance
    (id : ConnId) (conn : GateConn) (present next : GatePhase) :
    Option Gate :=
  if conn.phase = present then some (gate.setPhase id conn next) else none

/-- A step of a task that has been accepted. -/
def connStep (id : ConnId) (conn : GateConn) : Action → Option Gate
  | .handshake _ succeeds =>
      gate.advance id conn .admitted (if succeeds then .shaken else .ended)
  | .firstFrame _ presents =>
      gate.advance id conn .shaken (if presents then .presented else .ended)
  | .evaluate _ accepted =>
      gate.advance id conn .presented
        (if accepted then .ended else .rejected)
  | .recordFailure _ =>
      if conn.phase = .rejected then
        some
          { gate.setPhase id conn .ended with
            tracker := (gate.tracker.recordFailure gate.now conn.ip).2 }
      else none
  | .tick _ | .accept _ _ => none

def step : Action → Option Gate
  | .tick elapsed => some { gate with now := gate.now + elapsed }
  | .accept id ip =>
      match gate.conns.get? id with
      | some _ => none
      | none =>
          let (locked, tracker) := gate.tracker.isLockedOut gate.now ip
          some
            { gate with
              tracker
              conns := gate.conns.put id
                { ip, phase := if locked then .ended else .admitted } }
  | .handshake id succeeds =>
      (gate.conns.get? id).bind fun conn =>
        gate.connStep id conn (.handshake id succeeds)
  | .firstFrame id presents =>
      (gate.conns.get? id).bind fun conn =>
        gate.connStep id conn (.firstFrame id presents)
  | .evaluate id accepted =>
      (gate.conns.get? id).bind fun conn =>
        gate.connStep id conn (.evaluate id accepted)
  | .recordFailure id =>
      (gate.conns.get? id).bind fun conn =>
        gate.connStep id conn (.recordFailure id)

def machine (policy : LockoutPolicy) : Machine Gate Action where
  init := { tracker := .ofPolicy policy }
  step := step

/-- A credential or secret of a connection from the source is judged. -/
def Evaluates (ip : IpAddr) (gate : Gate) (action : Action) : Prop :=
  ∃ id conn accepted, action = .evaluate id accepted ∧
    gate.conns.get? id = some conn ∧ conn.ip = ip

/-- No connection from the source is past the lockout check with its credential
still to be judged. -/
def NonePending (ip : IpAddr) (gate : Gate) : Prop :=
  ∀ id conn, gate.conns.get? id = some conn → conn.ip = ip →
    conn.phase.pending = false

variable {gate} {next : Gate} {action : Action} {ip : IpAddr}
  {expiry : Nat}

/-- What a step can do: time passes, a connection is accepted, or a connection
task moves on and may count a failure of its source. -/
inductive Steps (gate : Gate) : Action → Gate → Prop
  | ticked {elapsed : Nat} :
      Steps gate (.tick elapsed) { gate with now := gate.now + elapsed }
  | accepted {id : ConnId} {ip : IpAddr}
      (fresh : gate.conns.get? id = none) :
      Steps gate (.accept id ip)
        { gate with
          tracker := (gate.tracker.isLockedOut gate.now ip).2
          conns := gate.conns.put id
            { ip
              phase :=
                if (gate.tracker.isLockedOut gate.now ip).1 then .ended
                else .admitted } }
  | moved {action : Action} {id : ConnId} {conn : GateConn}
      {phase : GatePhase} (found : gate.conns.get? id = some conn)
      (onward : phase.pending = true → conn.phase.pending = true) :
      Steps gate action (gate.setPhase id conn phase)
  | failed {id : ConnId} {conn : GateConn}
      (found : gate.conns.get? id = some conn)
      (rejected : conn.phase = .rejected) :
      Steps gate (.recordFailure id)
        { gate.setPhase id conn .ended with
          tracker := (gate.tracker.recordFailure gate.now conn.ip).2 }

theorem steps_of_advance
    {id : ConnId} {conn : GateConn} {present following : GatePhase}
    (found : gate.conns.get? id = some conn)
    (pending : present.pending = true)
    (moved : gate.advance id conn present following = some next) :
    Steps gate action next := by
  unfold advance at moved
  split at moved
  next phase =>
    cases moved
    refine .moved found ?_
    intro _
    rw [phase]
    exact pending
  next => cases moved

theorem steps_of_step (stepped : gate.step action = some next) :
    Steps gate action next := by
  cases action with
  | tick elapsed =>
      cases stepped
      exact .ticked
  | accept id ip =>
      simp only [step] at stepped
      split at stepped
      next => cases stepped
      next fresh =>
        cases stepped
        exact .accepted fresh
  | handshake id succeeds =>
      obtain ⟨conn, found, moved⟩ := Option.bind_eq_some_iff.mp stepped
      exact steps_of_advance found rfl moved
  | firstFrame id presents =>
      obtain ⟨conn, found, moved⟩ := Option.bind_eq_some_iff.mp stepped
      exact steps_of_advance found rfl moved
  | evaluate id accepted =>
      obtain ⟨conn, found, moved⟩ := Option.bind_eq_some_iff.mp stepped
      exact steps_of_advance found rfl moved
  | recordFailure id =>
      obtain ⟨conn, found, moved⟩ := Option.bind_eq_some_iff.mp stepped
      simp only [connStep] at moved
      split at moved
      next phase =>
        cases moved
        exact .failed found phase
      next => cases moved

/-- Time does not go back. -/
theorem now_le_step (stepped : gate.step action = some next) :
    gate.now ≤ next.now := by
  cases steps_of_step stepped with
  | ticked => exact Nat.le_add_right _ _
  | accepted fresh => exact Nat.le_refl _
  | moved found onward => exact Nat.le_refl _
  | failed found rejected => exact Nat.le_refl _

/-- The source is locked out until its expiry and none of its connections is
past the check. -/
structure Shut (ip : IpAddr) (expiry : Nat) (gate : Gate) : Prop where
  locked : (gate.tracker.entry ip).lockedUntil = some expiry
  idle : gate.NonePending ip

theorem NonePending.setPhase
    {id : ConnId} {conn : GateConn} {phase : GatePhase}
    (idle : gate.NonePending ip)
    (found : gate.conns.get? id = some conn)
    (onward : phase.pending = true → conn.phase.pending = true) :
    (gate.setPhase id conn phase).NonePending ip := by
  intro other conn' found' source
  have moved := (FiniteMap.get?_put gate.conns id other _).symm.trans found'
  split at moved
  next =>
    cases moved
    have before := idle id conn found source
    cases isPending : phase.pending with
    | false => rfl
    | true =>
        rw [onward isPending] at before
        cases before
  next => exact idle other conn' moved source

/-- While the lockout lasts, the source stays shut. -/
theorem Shut.step
    (shut : gate.Shut ip expiry) (during : gate.now < expiry)
    (stepped : gate.step action = some next) :
    next.Shut ip expiry := by
  have isLocked : (gate.tracker.entry ip).locked gate.now = true := by
    simp [IpState.locked, shut.locked, during]
  have notExpired : (gate.tracker.entry ip).expired gate.now = false := by
    simp [IpState.expired, shut.locked, Nat.not_le.mpr during]
  cases steps_of_step stepped with
  | ticked => exact ⟨shut.locked, shut.idle⟩
  | @accepted id source fresh =>
      refine { locked := ?_, idle := ?_ }
      · simp only [LockoutTracker.entry_isLockedOut]
        split
        next dropped =>
          obtain ⟨rfl, expired⟩ := dropped
          rw [notExpired] at expired
          cases expired
        next => exact shut.locked
      · intro other conn found sameSource
        have stored :=
          (FiniteMap.get?_put gate.conns id other _).symm.trans found
        split at stored
        next =>
          cases stored
          have refused :
              (gate.tracker.isLockedOut gate.now source).1 = true := by
            rw [LockoutTracker.isLockedOut_fst, show source = ip from sameSource]
            exact isLocked
          rw [if_pos refused]
          rfl
        next => exact shut.idle other conn stored sameSource
  | moved found onward =>
      exact ⟨shut.locked, shut.idle.setPhase found onward⟩
  | @failed id conn found rejected =>
      have judged :
          GatePhase.ended.pending = true → conn.phase.pending = true := by
        intro pending
        cases pending
      refine { locked := ?_, idle := shut.idle.setPhase found judged }
      obtain ⟨_, state, records, entry⟩ :=
        @LockoutTracker.recordFailure_spec gate.tracker gate.now conn.ip
      have entryAfter := entry ip
      show
        ((gate.tracker.recordFailure gate.now conn.ip).2.entry
          ip).lockedUntil = some expiry
      rw [entryAfter]
      split
      next same =>
        rw [← same] at records
        generalize (gate.tracker.recordFailure gate.now ip).1 = reply
          at records
        cases records with
        | ignored _ => exact shut.locked
        | locks unlocked _ =>
            rw [isLocked] at unlocked
            cases unlocked
        | counts unlocked _ =>
            rw [isLocked] at unlocked
            cases unlocked
      next => exact shut.locked

/-- The failure that starts a lockout sets its expiry. -/
theorem lockedUntil_of_trigger
    {tracker : LockoutTracker} {now : Nat}
    (triggered : (tracker.recordFailure now ip).1 = true) :
    ((tracker.recordFailure now ip).2.entry ip).lockedUntil =
      some (now + tracker.lockoutDuration) := by
  obtain ⟨_, state, records, entry⟩ :=
    @LockoutTracker.recordFailure_spec tracker now ip
  rw [entry ip, if_pos rfl]
  rw [triggered] at records
  cases records with
  | locks _ _ => rfl

theorem get?_setPhase
    {id : ConnId} {conn : GateConn} {phase : GatePhase} :
    (gate.setPhase id conn phase).conns.get? id =
      some { conn with phase } :=
  FiniteMap.get?_put_self _ _ _

theorem advance_of_phase
    {id : ConnId} {conn : GateConn} {present following : GatePhase}
    (phase : conn.phase = present) :
    gate.advance id conn present following =
      some (gate.setPhase id conn following) :=
  if_pos phase

/-- The credential of a connection from the source can be judged without any time
passing. -/
def CanEvaluate
    (policy : LockoutPolicy) (ip : IpAddr) (gate : Gate) : Prop :=
  ∃ actions middle action final,
    (machine policy).run gate actions = some middle ∧
    middle.now = gate.now ∧
    (machine policy).step middle action = some final ∧
    Evaluates ip middle action

variable {policy : LockoutPolicy} {id : ConnId} {conn : GateConn}

theorem CanEvaluate.before
    (can : CanEvaluate policy ip next)
    (stepped : (machine policy).step gate action = some next)
    (sameNow : next.now = gate.now) :
    CanEvaluate policy ip gate := by
  obtain ⟨actions, middle, evaluate, final, ran, still, judged, evaluates⟩ :=
    can
  exact
    ⟨action :: actions, middle, evaluate, final,
      ((machine policy).run_cons_eq_some).mpr ⟨next, stepped, ran⟩,
      still.trans sameNow, judged, evaluates⟩

theorem canEvaluate_of_presented
    (found : gate.conns.get? id = some conn)
    (phase : conn.phase = .presented) :
    CanEvaluate policy conn.ip gate := by
  have judged :
      (machine policy).step gate (.evaluate id false) =
        some (gate.setPhase id conn .rejected) := by
    show gate.step (.evaluate id false) = _
    rw [step, found, Option.bind_some, connStep, advance_of_phase phase]
    rfl
  exact
    ⟨[], gate, .evaluate id false, _, rfl, rfl, judged, id, conn, false,
      rfl, found, rfl⟩

theorem canEvaluate_of_shaken
    (found : gate.conns.get? id = some conn)
    (phase : conn.phase = .shaken) :
    CanEvaluate policy conn.ip gate := by
  have presented :
      (machine policy).step gate (.firstFrame id true) =
        some (gate.setPhase id conn .presented) := by
    show gate.step (.firstFrame id true) = _
    rw [step, found, Option.bind_some, connStep, advance_of_phase phase]
    rfl
  exact
    (canEvaluate_of_presented get?_setPhase rfl).before presented rfl

theorem canEvaluate_of_admitted
    (found : gate.conns.get? id = some conn)
    (phase : conn.phase = .admitted) :
    CanEvaluate policy conn.ip gate := by
  have shaken :
      (machine policy).step gate (.handshake id true) =
        some (gate.setPhase id conn .shaken) := by
    show gate.step (.handshake id true) = _
    rw [step, found, Option.bind_some, connStep, advance_of_phase phase]
    rfl
  exact (canEvaluate_of_shaken get?_setPhase rfl).before shaken rfl

/-- A connection past the check can have its credential judged at once. -/
theorem canEvaluate_of_pending
    (found : gate.conns.get? id = some conn)
    (pending : conn.phase.pending = true) :
    CanEvaluate policy conn.ip gate := by
  cases phase : conn.phase with
  | admitted => exact canEvaluate_of_admitted found phase
  | shaken => exact canEvaluate_of_shaken found phase
  | presented => exact canEvaluate_of_presented found phase
  | rejected | ended =>
      rw [phase] at pending
      cases pending

/-- A failure starts a lockout.  Until its expiry no credential or secret of a
connection from the source is judged, whatever happens, exactly if the lockout
has no duration or no connection from the source is past the lockout check with
its credential still to be judged when the lockout starts. -/
theorem lockout_enforced_iff
    {before started : Gate}
    (found : before.conns.get? id = some conn)
    (triggered :
      (before.tracker.recordFailure before.now conn.ip).1 = true)
    (stepped :
      (machine policy).step before (.recordFailure id) = some started) :
    (∀ actions middle action final,
      (machine policy).run started actions = some middle →
      (machine policy).step middle action = some final →
      Evaluates conn.ip middle action →
      started.now + before.tracker.lockoutDuration ≤ middle.now) ↔
      before.tracker.lockoutDuration = 0 ∨
        started.NonePending conn.ip := by
  obtain ⟨sameNow, locked⟩ :
      started.now = before.now ∧
        (started.tracker.entry conn.ip).lockedUntil =
          some (before.now + before.tracker.lockoutDuration) := by
    obtain ⟨conn', found', moved⟩ := Option.bind_eq_some_iff.mp stepped
    cases found'.symm.trans found
    simp only [connStep] at moved
    split at moved
    next =>
      cases moved
      exact ⟨rfl, lockedUntil_of_trigger triggered⟩
    next => cases moved
  constructor
  · intro never
    by_cases instant : before.tracker.lockoutDuration = 0
    · exact Or.inl instant
    · refine Or.inr ?_
      intro other conn' found' source
      rw [Bool.eq_false_iff]
      intro pending
      obtain ⟨actions, middle, action, final, ran, still, judged, evaluates⟩ :=
        @canEvaluate_of_pending started policy other conn' found' pending
      rw [source] at evaluates
      have late := never actions middle action final ran judged evaluates
      omega
  · rintro (instant | idle) actions middle action final ran judged evaluates
    · have forward :
          started.now ≤ middle.now :=
        (machine policy).run_preserves
          (fun _ _ _ after stepped =>
            Nat.le_trans after (now_le_step stepped))
          (Nat.le_refl started.now) ran
      omega
    · rw [sameNow]
      by_contra early
      have during :
          middle.now < before.now + before.tracker.lockoutDuration :=
        Nat.not_le.mp early
      have shut :
          middle.now < before.now + before.tracker.lockoutDuration →
            middle.Shut conn.ip
              (before.now + before.tracker.lockoutDuration) := by
        refine
          @Machine.run_preserves _ _ (machine policy)
            (fun state =>
              state.now < before.now + before.tracker.lockoutDuration →
                state.Shut conn.ip
                  (before.now + before.tracker.lockoutDuration))
            ?_ actions started middle (fun _ => ⟨locked, idle⟩) ran
        intro state action next kept stepped nextDuring
        have stateDuring := Nat.lt_of_le_of_lt (now_le_step stepped) nextDuring
        exact (kept stateDuring).step stateDuring stepped
      obtain ⟨other, conn', accepted, rfl, found', source⟩ := evaluates
      obtain ⟨conn'', found'', moved⟩ := Option.bind_eq_some_iff.mp judged
      cases found''.symm.trans found'
      have notPending := (shut during).idle other conn' found' source
      simp only [connStep, advance] at moved
      split at moved
      next phase =>
        rw [phase] at notPending
        cases notPending
      next => cases moved

/-- The state after a run; the state before it when some action is not enabled. -/
def after (gate : Gate) (actions : List Action) : Gate :=
  ((machine LockoutTracker.defaultPolicy).run gate actions).getD gate

def sampleIp : IpAddr := .v4 0x7f000001

/-- A connection whose credential is rejected. -/
def rejectedRun (id : ConnId) : List Action :=
  [.accept id sampleIp, .handshake id true, .firstFrame id true,
    .evaluate id false]

def failedRun (id : ConnId) : List Action :=
  rejectedRun id ++ [.recordFailure id]

/-- Four connections have failed, and a fifth has been rejected. -/
def almostLocked : Gate :=
  after (machine LockoutTracker.defaultPolicy).init
    (failedRun 0 ++ failedRun 1 ++ failedRun 2 ++ failedRun 3 ++
      rejectedRun 4)

theorem lockout_enforced_iff_fifthFailure :
    (almostLocked.tracker.recordFailure almostLocked.now sampleIp).1 =
        true ∧
      ∀ actions middle action final,
        (machine LockoutTracker.defaultPolicy).run
            (after almostLocked [.recordFailure 4]) actions =
          some middle →
        (machine LockoutTracker.defaultPolicy).step middle action =
          some final →
        Evaluates sampleIp middle action → 600000000000 ≤ middle.now := by
  have found :
      almostLocked.conns.get? 4 = some ⟨sampleIp, .rejected⟩ := rfl
  have stepped :
      (machine LockoutTracker.defaultPolicy).step almostLocked
          (.recordFailure 4) =
        some (after almostLocked [.recordFailure 4]) := rfl
  have idle :
      (after almostLocked [.recordFailure 4]).NonePending sampleIp := by
    have keys :
        (after almostLocked [.recordFailure 4]).conns.keys =
          [4, 3, 2, 1, 0] := rfl
    intro id conn foundConn _
    have member :
        id ∈ (after almostLocked [.recordFailure 4]).conns.keys :=
      AList.lookup_isSome.mp (by rw [← FiniteMap.get?, foundConn]; rfl)
    rw [keys] at member
    simp only [List.mem_cons, List.not_mem_nil, or_false] at member
    rcases member with rfl | rfl | rfl | rfl | rfl
    all_goals
      cases foundConn
      rfl
  refine ⟨rfl, ?_⟩
  exact (lockout_enforced_iff found rfl stepped).mpr (Or.inr idle)

/-- The same with one more connection that has passed the check before the fifth
failure is counted. -/
def overtakenGate : Gate :=
  after almostLocked
    [.accept 5 sampleIp, .handshake 5 true, .firstFrame 5 true]

/-- A connection that was accepted before the lockout has its credential judged
during it. -/
theorem overtakenGate_evaluates_during_lockout :
    (machine LockoutTracker.defaultPolicy).run
        (machine LockoutTracker.defaultPolicy).init
        (failedRun 0 ++ failedRun 1 ++ failedRun 2 ++ failedRun 3 ++
          rejectedRun 4 ++
          [.accept 5 sampleIp, .handshake 5 true, .firstFrame 5 true]) =
      some overtakenGate ∧
    (overtakenGate.tracker.recordFailure overtakenGate.now sampleIp).1 =
      true ∧
    ∃ started final,
      (machine LockoutTracker.defaultPolicy).step overtakenGate
        (.recordFailure 4) = some started ∧
      (started.tracker.isLockedOut started.now sampleIp).1 = true ∧
      (machine LockoutTracker.defaultPolicy).step started
        (.evaluate 5 true) = some final ∧
      Evaluates sampleIp started (.evaluate 5 true) :=
  ⟨rfl, rfl, _, _, rfl, rfl, rfl, 5, _, true, rfl, rfl, rfl⟩

end Gate

end HollerServer.Wire
