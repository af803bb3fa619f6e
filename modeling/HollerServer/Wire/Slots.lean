import HollerServer.Wire.FrontDoor
import HollerServer.Wire.Gate

/-!
# The cap on unauthenticated connections

Every task that has not authenticated owns one of the slots, and no other task
does, whatever the order of the steps.  What follows from that: a connection is
turned away only when the cap is reached; a lockout is overtaken by fewer
connections than there are slots; and connections that stall in their handshake,
which no timer watches, keep their slots for ever.
-/

namespace HollerServer.Wire

open HollerServer.Proto
open HollerServer.Token
open Transition

/-- The connection has been accepted and is neither authenticated nor over. -/
def DoorPhase.unauthenticated (phase : DoorPhase) : Bool :=
  0 < phase.stage

def DoorTask.unauthenticated (task : DoorTask) : Bool :=
  task.phase.unauthenticated

/-- A task of the source that is past the lockout check and whose first frame is
not judged. -/
def DoorTask.pending (ip : IpAddr) (task : DoorTask) : Bool :=
  decide (task.ip = ip) &&
    (decide (3 ≤ task.phase.stage) && decide (task.phase.stage ≤ 5))

namespace FrontDoor

/-- How many connections count against the cap. -/
def unauthenticated (door : FrontDoor) : Nat :=
  door.tasks.countWhere DoorTask.unauthenticated

/-- The unauthenticated tasks own the slots that are not free. -/
structure Slotted (capacity : Nat) (door : FrontDoor) : Prop where
  balanced :
    Semaphore.Balanced capacity DoorTask.unauthenticated door.slots
      door.tasks
  owned :
    ∀ id task, door.tasks.get? id = some task →
      task.permit = task.unauthenticated

variable {settings : Settings} {limits : ConnectionLimits}
  {door next : FrontDoor} {action : DoorAction} {capacity : Nat}
  {id : ConnId} {task : DoorTask} {phase : DoorPhase}
  {policy : LockoutPolicy} {file : File} {ip : IpAddr} {expiry : Nat}

theorem Slotted.settle
    (slotted : door.Slotted capacity)
    (found : door.tasks.get? id = some task)
    (before : 0 < task.phase.stage) (after : 0 < phase.stage)
    (tracker : LockoutTracker) (file : File) :
    ({ door with tracker, file }.settle id task phase).Slotted capacity := by
  have still : phase.unauthenticated = true := decide_eq_true after
  have was : task.unauthenticated = true := decide_eq_true before
  refine { balanced := ?_, owned := ?_ }
  · refine slotted.balanced.move found false ?_
    rw [was]
    simp [DoorTask.unauthenticated, still]
  · intro other task' stored
    have moved :=
      (FiniteMap.get?_put door.tasks id other _).symm.trans stored
    split at moved
    next =>
      cases moved
      have owned := slotted.owned id task found
      rw [was] at owned
      exact owned.trans still.symm
    next => exact slotted.owned other task' moved

theorem Slotted.dropPermit
    (slotted : door.Slotted capacity)
    (found : door.tasks.get? id = some task) (last : phase.stage = 0)
    (tracker : LockoutTracker) (file : File) :
    ({ door with tracker, file }.dropPermit id task phase).Slotted
      capacity := by
  have done : phase.unauthenticated = false := by
    simp [DoorPhase.unauthenticated, last]
  refine { balanced := ?_, owned := ?_ }
  · refine slotted.balanced.move found task.permit ?_
    rw [slotted.owned id task found]
    simp [DoorTask.unauthenticated, done]
  · intro other task' stored
    have moved :=
      (FiniteMap.get?_put door.tasks id other _).symm.trans stored
    split at moved
    next =>
      cases moved
      exact done.symm
    next => exact slotted.owned other task' moved

/-- Every step keeps the slots accounted for. -/
theorem Slotted.step
    (slotted : door.Slotted capacity)
    (stepped : door.step settings limits action = some next) :
    next.Slotted capacity := by
  cases steps_of_step stepped with
  | ticked => exact ⟨slotted.balanced, slotted.owned⟩
  | stored => exact ⟨slotted.balanced, slotted.owned⟩
  | shut => exact ⟨slotted.balanced, slotted.owned⟩
  | turnedAway fresh full => exact slotted
  | @spawned id ip slots fresh acquired =>
      refine { balanced := ?_, owned := ?_ }
      · exact slotted.balanced.acquire acquired fresh rfl
      · intro other task stored
        have moved :=
          (FiniteMap.get?_put door.tasks id other _).symm.trans stored
        split at moved
        next =>
          cases moved
          rfl
        next => exact slotted.owned other task moved
  | settled found moves early unlocked consulted =>
      exact
        slotted.settle found
          (Nat.lt_trans early (moves.stage_lt early)) early _ _
  | dropped found moves last consulted =>
      exact slotted.dropPermit found last _ _

theorem slotted_of_reachable
    (reachable : (machine settings limits policy file).Reachable door) :
    door.Slotted limits.maxUnauthConnections := by
  refine
    reachable.invariant (Slotted limits.maxUnauthConnections) ?_ ?_
  · refine { balanced := rfl, owned := ?_ }
    intro id task stored
    cases (FiniteMap.get?_empty id).symm.trans stored
  · intro state action next slotted stepped
    exact slotted.step stepped

/-- The cap holds in every order of the steps.  Free slots and unauthenticated
connections add up to it; exactly the unauthenticated tasks own a slot, so a
session never does; and a connection that arrives gets a task if and only if the
cap is not reached. -/
theorem unauthenticated_connections_are_capped
    (reachable : (machine settings limits policy file).Reachable door) :
    door.slots.available + door.unauthenticated =
        limits.maxUnauthConnections ∧
      (∀ id task, door.tasks.get? id = some task →
        task.permit = task.unauthenticated) ∧
      ∀ id ip next,
        (machine settings limits policy file).step door (.accept id ip) =
          some next →
        ((next.tasks.get? id).isSome = true ↔
          door.unauthenticated < limits.maxUnauthConnections) := by
  have slotted := slotted_of_reachable reachable
  refine ⟨slotted.balanced, slotted.owned, ?_⟩
  intro id ip next accepted
  have stepped : door.step settings limits (.accept id ip) = some next :=
    accepted
  have full := slotted.balanced.tryAcquire_eq_none
  have bounded := slotted.balanced.countWhere_le
  unfold unauthenticated
  cases steps_of_step stepped with
  | turnedAway fresh refused =>
      have reached := full.mp refused
      rw [fresh, Option.isSome_none]
      constructor
      · intro absurdity
        cases absurdity
      · intro below
        omega
  | @spawned _ _ slots fresh acquired =>
      rw [FiniteMap.get?_put_self, Option.isSome_some]
      constructor
      · intro _
        refine Nat.lt_of_le_of_ne bounded ?_
        intro reached
        have refused := full.mpr reached
        cases refused.symm.trans acquired
      · intro _
        rfl
  | settled found moves early unlocked consulted => cases moves
  | dropped found moves last consulted => cases moves

/-! ## A lockout that is overtaken -/

/-- The expiry of the source's lockout. -/
def LockedUntil (ip : IpAddr) (expiry : Nat) (door : FrontDoor) : Prop :=
  (door.tracker.entry ip).lockedUntil = some expiry

/-- No call on the tracker ends a lockout before its expiry. -/
theorem lockedUntil_exec
    {tracker : LockoutTracker} {now : Nat}
    (locked : (tracker.entry ip).lockedUntil = some expiry)
    (during : now < expiry) (op : LockoutOp) :
    ((tracker.exec now op).1.entry ip).lockedUntil = some expiry := by
  have isLocked : (tracker.entry ip).locked now = true := by
    simp [IpState.locked, locked, during]
  have notExpired : (tracker.entry ip).expired now = false := by
    simp [IpState.expired, locked, Nat.not_le.mpr during]
  cases op with
  | isLockedOut other =>
      show
        ((tracker.isLockedOut now other).2.entry ip).lockedUntil =
          some expiry
      rw [LockoutTracker.entry_isLockedOut]
      split
      next dropped =>
        obtain ⟨rfl, expired⟩ := dropped
        rw [notExpired] at expired
        cases expired
      next => exact locked
  | recordFailure other =>
      obtain ⟨_, state, records, entry⟩ :=
        @LockoutTracker.recordFailure_spec tracker now other
      show
        ((tracker.recordFailure now other).2.entry ip).lockedUntil =
          some expiry
      rw [entry ip]
      split
      next same =>
        subst same
        generalize (tracker.recordFailure now ip).1 = reply at records
        cases records with
        | ignored _ => exact locked
        | locks unlocked _ =>
            rw [isLocked] at unlocked
            cases unlocked
        | counts unlocked _ =>
            rw [isLocked] at unlocked
            cases unlocked
      next => exact locked

theorem Consulted.lockedUntil
    {tracker : LockoutTracker}
    (consulted : door.Consulted tracker)
    (locked : door.LockedUntil ip expiry) (during : door.now < expiry) :
    (tracker.entry ip).lockedUntil = some expiry := by
  rcases consulted with rfl | ⟨op, rfl⟩
  · exact locked
  · exact lockedUntil_exec locked during op

theorem LockedUntil.step
    (locked : door.LockedUntil ip expiry) (during : door.now < expiry)
    (stepped : door.step settings limits action = some next) :
    next.LockedUntil ip expiry := by
  cases steps_of_step stepped with
  | ticked => exact locked
  | stored => exact locked
  | shut => exact locked
  | turnedAway fresh full => exact locked
  | spawned fresh acquired => exact locked
  | settled found moves early unlocked consulted =>
      exact consulted.lockedUntil locked during
  | dropped found moves last consulted =>
      exact consulted.lockedUntil locked during

/-- A first frame of a connection from the source is judged before the time is
up. -/
def judges (ip : IpAddr) (expiry : Nat) (door : FrontDoor) :
    DoorAction → Bool
  | .judge id _ =>
      decide (door.now < expiry) &&
        (door.tasks.get? id).any fun task => decide (task.ip = ip)
  | _ => false

/-- The connections that can still be judged before the time is up. -/
def stragglers (ip : IpAddr) (expiry : Nat) (door : FrontDoor) : Nat :=
  if door.now < expiry then door.tasks.countWhere (DoorTask.pending ip)
  else 0

/-- Only a frame that was received is judged. -/
theorem received_of_judges
    (judged : door.judges ip expiry action = true)
    (found : door.tasks.get? id = some task)
    (moves : task.phase.Moves id action phase) :
    task.ip = ip ∧ task.phase.stage = 3 ∧ phase.stage < 3 := by
  unfold judges at judged
  split at judged
  next other circumstances =>
    cases moves.own
    rw [Bool.and_eq_true, found, Option.any_some] at judged
    exact ⟨of_decide_eq_true judged.2, moves.stage_of_judge⟩
  next => cases judged

/-- A task that moves on stays pending at most, and one that is judged is not
pending any more. -/
theorem countWhere_pending_put
    (found : door.tasks.get? id = some task)
    (moves : task.phase.Moves id action phase) {moved : DoorTask}
    (same : moved.ip = task.ip ∧ moved.phase = phase)
    (onward : moved.pending ip = true → task.phase.stage ≤ 5) :
    (door.tasks.put id moved).countWhere (DoorTask.pending ip) +
        (if door.judges ip expiry action then 1 else 0) ≤
      door.tasks.countWhere (DoorTask.pending ip) := by
  obtain ⟨sameSource, samePhase⟩ := same
  have counted :=
    door.tasks.countWhere_put id moved (DoorTask.pending ip)
  rw [found, Option.any_some] at counted
  have still :
      moved.pending ip = true → task.pending ip = true := by
    intro pending
    have late := onward pending
    unfold DoorTask.pending at pending ⊢
    simp only [Bool.and_eq_true, decide_eq_true_eq] at pending ⊢
    rw [samePhase] at pending
    have fewer := moves.stage_lt (by omega)
    refine ⟨sameSource.symm.trans pending.1, ?_, late⟩
    omega
  cases judged : door.judges ip expiry action with
  | false =>
      simp only [Bool.false_eq_true, if_false]
      cases movedPending : moved.pending ip with
      | false =>
          rw [movedPending] at counted
          simp only [Bool.false_eq_true, if_false] at counted
          omega
      | true =>
          rw [movedPending, still movedPending] at counted
          omega
  | true =>
      obtain ⟨source, stage, fewer⟩ :=
        received_of_judges judged found moves
      have was : task.pending ip = true := by
        simp [DoorTask.pending, source, stage]
      have isOver : moved.pending ip = false := by
        rw [Bool.eq_false_iff]
        unfold DoorTask.pending
        simp only [Ne, Bool.and_eq_true, decide_eq_true_eq, samePhase]
        omega
      rw [was, isOver] at counted
      simp only [Bool.false_eq_true, if_true, if_false] at counted ⊢
      omega

/-- While the lockout lasts, no connection from the source joins the ones that
can still be judged, and a judgement takes one of them away. -/
theorem stragglers_step
    (locked : door.now < expiry → door.LockedUntil ip expiry)
    (stepped : door.step settings limits action = some next) :
    next.stragglers ip expiry +
        (if door.judges ip expiry action then 1 else 0) ≤
      door.stragglers ip expiry := by
  have forward := now_le_step stepped
  by_cases during : door.now < expiry
  · have fewer :
        next.stragglers ip expiry ≤
          next.tasks.countWhere (DoorTask.pending ip) := by
      unfold stragglers
      split
      next => exact Nat.le_refl _
      next => exact Nat.zero_le _
    have all :
        door.stragglers ip expiry =
          door.tasks.countWhere (DoorTask.pending ip) :=
      if_pos during
    rw [all]
    refine Nat.le_trans (Nat.add_le_add_right fewer _) ?_
    cases steps_of_step stepped with
    | ticked => exact Nat.le_refl _
    | stored => exact Nat.le_refl _
    | shut => exact Nat.le_refl _
    | turnedAway fresh full => exact Nat.le_refl _
    | @spawned id source slots fresh acquired =>
        have counted :=
          door.tasks.countWhere_put id
            { ip := source, phase := .spawned, permit := true }
            (DoorTask.pending ip)
        rw [fresh] at counted
        simp only [Option.any_none, DoorTask.pending, DoorPhase.stage,
          Nat.reduceLeDiff, decide_false, decide_true, Bool.and_false,
          Bool.false_eq_true, if_false, Nat.add_zero] at counted
        exact Nat.le_of_eq counted
    | @settled action id task phase tracker file found moves early unlocked
        consulted =>
        refine countWhere_pending_put found moves ⟨rfl, rfl⟩ ?_
        intro pending
        by_cases joins : phase = .admitted
        · -- The source is locked out, so the task belongs to another one.
          have free := unlocked joins
          rw [LockoutTracker.isLockedOut_fst] at free
          unfold DoorTask.pending at pending
          simp only [Bool.and_eq_true, decide_eq_true_eq] at pending
          have isLocked :
              (door.tracker.entry task.ip).locked door.now = true := by
            have until_ := locked during
            unfold LockedUntil at until_
            rw [pending.1]
            simp [IpState.locked, until_, during]
          rw [isLocked] at free
          cases free
        · exact moves.past early joins
    | dropped found moves last consulted =>
        refine countWhere_pending_put found moves ⟨rfl, rfl⟩ ?_
        intro pending
        unfold DoorTask.pending at pending
        simp only [Bool.and_eq_true, decide_eq_true_eq, last] at pending
        omega
  · have after : ¬next.now < expiry :=
      fun before => during (Nat.lt_of_le_of_lt forward before)
    have nothing : door.judges ip expiry action = false := by
      unfold judges
      split
      next => simp [during]
      next => rfl
    simp [stragglers, during, after, nothing]

/-- A lockout is overtaken by fewer connections than there are slots.  From the
failure that locks a source out until the lockout expires, the first frames that
are judged for that source are fewer than the cap on unauthenticated connections,
in whatever order the connections take their steps and however many more of them
arrive. -/
theorem lockout_is_overtaken_by_fewer_than_the_cap
    {before started : FrontDoor}
    (reachable : (machine settings limits policy file).Reachable before)
    (found : before.tasks.get? id = some task)
    (triggered :
      (before.tracker.recordFailure before.now task.ip).1 = true)
    (stepped :
      (machine settings limits policy file).step before
          (.recordFailure id) =
        some started)
    {actions : List DoorAction} {target : FrontDoor}
    (ran :
      (machine settings limits policy file).run started actions = some target) :
    (machine settings limits policy file).countAlong
        (judges task.ip (before.now + before.tracker.lockoutDuration))
        started actions <
      limits.maxUnauthConnections := by
  have slotted := slotted_of_reachable (reachable.step stepped)
  obtain ⟨task', found', moved⟩ := Option.bind_eq_some_iff.mp stepped
  cases found'.symm.trans found
  simp only [taskStep] at moved
  split at moved
  next reply failing =>
    have shape := Option.some.inj moved
    have locked :
        started.LockedUntil task.ip
          (before.now + before.tracker.lockoutDuration) := by
      rw [← shape]
      exact Gate.lockedUntil_of_trigger triggered
    have stored :
        started.tasks.get? id =
          some { task with phase := .replying reply } := by
      rw [← shape]
      exact FiniteMap.get?_put_self _ _ _
    have few :=
      (machine settings limits policy file).countAlong_le
        (judges task.ip (before.now + before.tracker.lockoutDuration))
        (fun door =>
          door.now < before.now + before.tracker.lockoutDuration →
            door.LockedUntil task.ip
              (before.now + before.tracker.lockoutDuration))
        (stragglers task.ip (before.now + before.tracker.lockoutDuration))
        ?_ ?_ (fun _ => locked) ran
    · refine Nat.lt_of_le_of_lt few ?_
      refine Nat.lt_of_lt_of_le ?_ slotted.balanced.countWhere_le
      unfold stragglers
      split
      next =>
        -- The connection whose failure started the lockout is not pending, but
        -- it still owns a slot.
        refine FiniteMap.countWhere_lt ?_ stored rfl ?_
        · intro task pending
          unfold DoorTask.pending at pending
          simp only [Bool.and_eq_true, decide_eq_true_eq] at pending
          exact decide_eq_true (by omega)
        · simp [DoorTask.pending, DoorPhase.stage]
      next => exact FiniteMap.countWhere_pos stored rfl
    · intro door action next kept stepped during
      have earlier := Nat.lt_of_le_of_lt (now_le_step stepped) during
      exact (kept earlier).step earlier stepped
    · intro door action next kept stepped
      exact stragglers_step kept stepped
  next => cases moved

end FrontDoor

/-! ## How long a slot is kept -/

def DoorTask.inHandshake (task : DoorTask) : Bool :=
  match task.phase with
  | .admitted => true
  | _ => false

theorem DoorTask.phase_of_inHandshake
    {task : DoorTask} (waiting : task.inHandshake = true) :
    task.phase = .admitted := by
  unfold inHandshake at waiting
  split at waiting
  next admitted => exact admitted
  next => cases waiting

theorem DoorTask.unauthenticated_of_inHandshake
    (task : DoorTask) (waiting : task.inHandshake = true) :
    task.unauthenticated = true := by
  unfold unauthenticated
  rw [phase_of_inHandshake waiting]
  rfl

namespace FrontDoor

variable {settings : Settings} {limits : ConnectionLimits}
  {door next : FrontDoor} {action : DoorAction} {id : ConnId}
  {task : DoorTask} {policy : LockoutPolicy} {file : File}

/-- The steps the task of this connection has left. -/
def remaining (id : ConnId) (door : FrontDoor) : Nat :=
  ((door.tasks.get? id).map fun task => task.phase.remaining).getD 0

theorem remaining_of_found (found : door.tasks.get? id = some task) :
    door.remaining id = task.phase.remaining := by
  unfold remaining
  rw [found]
  rfl

theorem remaining_of_put
    {other : ConnId} {moved : DoorTask}
    (put : next.tasks = door.tasks.put other moved) :
    next.remaining id =
      if id = other then moved.phase.remaining else door.remaining id := by
  unfold remaining
  rw [put, FiniteMap.get?_put]
  split <;> rfl

/-- A step of a task uses up one of the steps it has left; nothing gives it new
ones. -/
theorem remaining_step
    (found : door.tasks.get? id = some task)
    (stepped : door.step settings limits action = some next) :
    next.remaining id +
        (if action.conn? = some id then 1 else 0) ≤
      door.remaining id := by
  have moved :
      ∀ {other : ConnId} {before after : DoorTask},
        door.tasks.get? other = some before →
        before.phase.Moves other action after.phase →
        next.tasks = door.tasks.put other after →
        next.remaining id + (if action.conn? = some id then 1 else 0) ≤
          door.remaining id := by
    intro other before after stored moves put
    rw [remaining_of_put put, moves.own]
    by_cases same : id = other
    · subst same
      rw [remaining_of_found stored, if_pos rfl, if_pos rfl]
      exact moves.remaining_lt
    · have different : ¬some other = some id :=
        fun equal => same (Option.some.inj equal).symm
      rw [if_neg same, if_neg different]
      exact Nat.le_refl _
  cases steps_of_step stepped with
  | ticked => exact Nat.le_refl _
  | stored => exact Nat.le_refl _
  | shut => exact Nat.le_refl _
  | turnedAway fresh full => exact Nat.le_refl _
  | @spawned other ip slots fresh acquired =>
      have different : id ≠ other := by
        rintro rfl
        cases found.symm.trans fresh
      rw [remaining_of_put rfl, if_neg different]
      exact Nat.le_refl _
  | settled stored moves early unlocked consulted =>
      exact moved stored moves rfl
  | dropped stored moves last consulted => exact moved stored moves rfl

theorem isSome_step
    (present : (door.tasks.get? id).isSome = true)
    (stepped : door.step settings limits action = some next) :
    (next.tasks.get? id).isSome = true := by
  cases steps_of_step stepped with
  | ticked => exact present
  | stored => exact present
  | shut => exact present
  | turnedAway fresh full => exact present
  | spawned fresh acquired =>
      exact FiniteMap.isSome_get?_put _ _ present
  | settled found moves early unlocked consulted =>
      exact FiniteMap.isSome_get?_put _ _ present
  | dropped found moves last consulted =>
      exact FiniteMap.isSome_get?_put _ _ present

/-- The door as long as every slot is held by a connection in its handshake. -/
structure Stalled (capacity : Nat) (door : FrontDoor) : Prop where
  slotted : door.Slotted capacity
  stalled : door.tasks.countWhere DoorTask.inHandshake = capacity

/-- No other connection is unauthenticated then. -/
theorem Stalled.inHandshake
    {capacity : Nat} (held : door.Stalled capacity)
    (found : door.tasks.get? id = some task)
    (counts : task.unauthenticated = true) :
    task.inHandshake = true := by
  by_contra elsewhere
  have fewer :=
    FiniteMap.countWhere_lt DoorTask.unauthenticated_of_inHandshake found
      counts (Bool.eq_false_iff.mpr elsewhere)
  have bounded := held.slotted.balanced.countWhere_le
  have all := held.stalled
  omega

theorem Stalled.full
    {capacity : Nat} (held : door.Stalled capacity) :
    door.slots.tryAcquire = none := by
  have waiting :=
    door.tasks.countWhere_mono DoorTask.unauthenticated_of_inHandshake
  have bounded := held.slotted.balanced.countWhere_le
  have all := held.stalled
  rw [held.slotted.balanced.tryAcquire_eq_none]
  omega

/-- As long as the peers are silent nothing changes, and nobody gets in. -/
theorem Stalled.step
    {capacity : Nat} (held : door.Stalled capacity)
    (silent : ∀ id succeeds, action ≠ .handshake id succeeds)
    (stepped : door.step settings limits action = some next) :
    next.Stalled capacity ∧
      ∀ id, (next.tasks.get? id).isSome = true →
        (door.tasks.get? id).isSome = true := by
  have slotted := held.slotted.step stepped
  have idle :
      ∀ {id : ConnId} {task : DoorTask} {phase : DoorPhase},
        door.tasks.get? id = some task →
        task.phase.Moves id action phase →
        task.unauthenticated = false := by
    intro id task phase found moves
    rw [Bool.eq_false_iff]
    intro counts
    obtain ⟨succeeds, isHandshake⟩ :=
      moves.handshake_of_admitted
        (DoorTask.phase_of_inHandshake (held.inHandshake found counts))
    exact silent id succeeds isHandshake
  cases steps_of_step stepped with
  | ticked => exact ⟨⟨slotted, held.stalled⟩, fun _ present => present⟩
  | stored => exact ⟨⟨slotted, held.stalled⟩, fun _ present => present⟩
  | shut => exact ⟨⟨slotted, held.stalled⟩, fun _ present => present⟩
  | turnedAway fresh full => exact ⟨held, fun _ present => present⟩
  | spawned fresh acquired => cases held.full.symm.trans acquired
  | settled found moves early unlocked consulted =>
      have counts :=
        decide_eq_true (Nat.lt_trans early (moves.stage_lt early))
      cases (idle found moves).symm.trans counts
  | @dropped action id task phase tracker file found moves last
      consulted =>
      have elsewhere : task.inHandshake = false := by
        rw [Bool.eq_false_iff]
        intro waiting
        cases
          (idle found moves).symm.trans
            (task.unauthenticated_of_inHandshake waiting)
      refine ⟨⟨slotted, ?_⟩, ?_⟩
      · have counted :=
          door.tasks.countWhere_put id
            { task with phase, permit := false } DoorTask.inHandshake
        have gone :
            DoorTask.inHandshake { task with phase, permit := false } =
              false := by
          rw [Bool.eq_false_iff]
          intro waiting
          have admitted := DoorTask.phase_of_inHandshake waiting
          simp only at admitted
          rw [admitted] at last
          cases last
        rw [found, Option.any_some, elsewhere, gone] at counted
        exact counted.trans held.stalled
      · intro other present
        by_cases same : other = id
        · rw [same, found]
          rfl
        · have unchanged :=
            door.tasks.get?_put_of_ne { task with phase, permit := false }
              same
          rw [← unchanged]
          exact present

/-- The window for the first frame does not cover the handshake.  When every slot
is held by a connection that has not finished its handshake, then as long as those
peers stay silent no slot becomes free and no other connection gets a task,
however much time passes. -/
theorem stalled_handshakes_starve_the_door
    (reachable : (machine settings limits policy file).Reachable door)
    (stalled :
      door.tasks.countWhere DoorTask.inHandshake =
        limits.maxUnauthConnections)
    {actions : List DoorAction} {target : FrontDoor}
    (silent :
      ∀ action ∈ actions, ∀ id succeeds,
        action ≠ .handshake id succeeds)
    (ran :
      (machine settings limits policy file).run door actions =
        some target) :
    target.slots.available = 0 ∧
      ∀ id, (target.tasks.get? id).isSome = true →
        (door.tasks.get? id).isSome = true := by
  have held : door.Stalled limits.maxUnauthConnections :=
    ⟨slotted_of_reachable reachable, stalled⟩
  have along :
      (machine settings limits policy file).Along
        (fun _ action => ∀ id succeeds, action ≠ .handshake id succeeds)
        door actions := by
    refine (Machine.along_iff_forall _ ?_).mpr silent
    rw [ran]
    rfl
  have kept :
      target.Stalled limits.maxUnauthConnections ∧
        ∀ id, (target.tasks.get? id).isSome = true →
          (door.tasks.get? id).isSome = true := by
    refine
      @Machine.run_preserves_along _ _
        (machine settings limits policy file) _
        (fun state =>
          state.Stalled limits.maxUnauthConnections ∧
            ∀ id, (state.tasks.get? id).isSome = true →
              (door.tasks.get? id).isSome = true)
        ?_ actions door target ⟨held, fun _ present => present⟩ along ran
    intro state action next before met stepped
    obtain ⟨still, noneNew⟩ := before.1.step met stepped
    exact ⟨still, fun id present => before.2 id (noneNew id present)⟩
  exact ⟨Semaphore.tryAcquire_eq_none.mp kept.1.full, kept.2⟩

end FrontDoor

namespace Sample

open HollerServer.Token.Sample

def doorLimits : ConnectionLimits :=
  { ConnectionLimits.default with maxUnauthConnections := 2 }

/-- One failure locks a source out. -/
def oneStrike : LockoutPolicy where
  maxFailures := 1
  window := 10
  lockoutDuration := 100

def circumstances : Circumstances where
  now := mintedAt
  clientDraw := some clientBytes
  credentialDraw := some credentialBytes
  detail := ""

noncomputable def refusal : Envelope :=
  errorWithMessage codeJoinFailed
    (tokenErrorText settings.quoted "" (.notFound tokenId)) "j1" "server"

/-- Nobody can join a server without tokens. -/
theorem judge_joinText :
    judge settings circumstances joinText none =
      (.failed refusal, none) := by
  unfold judge
  rw [decode_joinText]
  rfl

noncomputable def doorMachine : Machine FrontDoor DoorAction :=
  FrontDoor.machine settings doorLimits oneStrike none

def arrivalActions : List DoorAction :=
  [.accept 0 environment.peer, .check 0, .handshake 0 true,
    .firstText 0 joinText]

def arrivedTask : DoorTask where
  ip := environment.peer
  phase := .received joinText
  permit := true

def arrivedDoor : FrontDoor where
  slots := ⟨1⟩
  tracker := .ofPolicy oneStrike
  file := none
  tasks := (∅ : FiniteMap ConnId DoorTask).put 0 arrivedTask

theorem run_arrivalActions :
    doorMachine.run doorMachine.init arrivalActions = some arrivedDoor :=
  rfl

noncomputable def failingTask : DoorTask :=
  { arrivedTask with phase := .failing refusal }

noncomputable def failingDoor : FrontDoor :=
  arrivedDoor.settle 0 arrivedTask (.failing refusal)

theorem step_judge :
    doorMachine.step arrivedDoor (.judge 0 circumstances) =
      some failingDoor := by
  have found : arrivedDoor.tasks.get? 0 = some arrivedTask := rfl
  have noFile : arrivedDoor.file = none := rfl
  unfold doorMachine FrontDoor.machine
  simp only [FrontDoor.step, found, Option.bind_some, FrontDoor.taskStep]
  rw [show arrivedTask.phase = .received joinText from rfl, noFile]
  simp only [judge_joinText]
  rfl

theorem reachable_failingDoor : doorMachine.Reachable failingDoor :=
  (doorMachine.reachable_init.run run_arrivalActions).step step_judge

theorem unauthenticated_connections_are_capped_failing :
    failingDoor.slots.available + failingDoor.unauthenticated = 2 :=
  (FrontDoor.unauthenticated_connections_are_capped
    reachable_failingDoor).1

theorem lockout_is_overtaken_by_fewer_than_the_cap_refused :
    doorMachine.countAlong (FrontDoor.judges environment.peer 100)
        { failingDoor.settle 0 failingTask (.replying refusal) with
          tracker :=
            (failingDoor.tracker.recordFailure 0 environment.peer).2 }
        [.tick 5, .reply 0] < 2 :=
  FrontDoor.lockout_is_overtaken_by_fewer_than_the_cap
    reachable_failingDoor (FiniteMap.get?_put_self _ _ _) rfl rfl rfl

/-- Two connections that stop after the lockout check. -/
def stalledDoor : FrontDoor where
  slots := ⟨0⟩
  tracker := .ofPolicy oneStrike
  file := none
  tasks :=
    ((∅ : FiniteMap ConnId DoorTask).put 0
        { ip := environment.peer, phase := .admitted, permit := true }).put
      1 { ip := environment.peer, phase := .admitted, permit := true }

theorem reachable_stalledDoor : doorMachine.Reachable stalledDoor :=
  ⟨[.accept 0 environment.peer, .accept 1 environment.peer, .check 0,
    .check 1], rfl⟩

theorem stalled_handshakes_starve_the_door_for_a_day :
    ∃ target,
      doorMachine.run stalledDoor
          [.tick 86400000000000, .accept 2 environment.peer] =
        some target ∧
      target.slots.available = 0 ∧
      (target.tasks.get? 2).isSome = false := by
  have ran :
      doorMachine.run stalledDoor
          [.tick 86400000000000, .accept 2 environment.peer] =
        some { stalledDoor with now := 86400000000000 } :=
    rfl
  obtain ⟨none_, noneNew⟩ :=
    FrontDoor.stalled_handshakes_starve_the_door reachable_stalledDoor rfl
      (fun action member id succeeds => by
        rcases List.mem_cons.mp member with rfl | member
        · simp
        · rw [List.mem_singleton.mp member]
          simp)
      ran
  refine ⟨_, ran, none_, ?_⟩
  rw [Bool.eq_false_iff]
  intro present
  cases noneNew 2 present

end Sample

end HollerServer.Wire
