import HollerServer.Lib.FiniteMap
import HollerServer.Lib.Transition

/-!
# The control socket of a state directory

`bind_control_socket` and the end of `serve_control_socket` in
`src/wire/control.rs`, as steps of any number of processes that share one state
directory.  Each step is one system call: the check that the path exists, the probe,
the removal of a stale file, the bind, the removal at shutdown, and the end of the
listener.  A process may be killed at any time; the file it leaves is stale.
-/

namespace HollerServer.Server

open Transition

abbrev Pid := Nat

/-- How far a process got. -/
inductive SocketPhase where
  /-- `bind_control_socket` was called -/
  | entered
  /-- the path exists -/
  | sawFile
  /-- nobody answered at the path -/
  | foundStale
  /-- the path was free, or its file was removed -/
  | cleared
  /-- the listener serves -/
  | bound
  /-- shut down: the path was unlinked, the listener is still there -/
  | closing
  | gone
  deriving DecidableEq, Repr

/-- The process has a listener from `bind_control_socket`. -/
def SocketPhase.holds : SocketPhase → Bool
  | .bound | .closing => true
  | .entered | .sawFile | .foundStale | .cleared | .gone => false

/-- A socket file, and the process that bound it; a file from before has none. -/
structure SocketFile where
  owner : Option Pid
  deriving DecidableEq, Repr

/-- A state directory and the processes that were started on it. -/
structure Directory where
  path : Option SocketFile
  procs : FiniteMap Pid SocketPhase

inductive SocketAction where
  | start (pid : Pid)
  | checkExists (pid : Pid)
  | probe (pid : Pid)
  | removeStale (pid : Pid)
  | bind (pid : Pid)
  | unlink (pid : Pid)
  | dropListener (pid : Pid)
  | kill (pid : Pid)
  deriving DecidableEq, Repr

namespace Directory

/-- The phase of a process; one that was not started is gone. -/
def phase (directory : Directory) (pid : Pid) : SocketPhase :=
  (directory.procs.get? pid).getD .gone

def setPhase (directory : Directory) (pid : Pid) (phase : SocketPhase) :
    Directory :=
  { directory with procs := directory.procs.put pid phase }

@[simp]
theorem phase_setPhase
    (directory : Directory) (pid other : Pid) (phase : SocketPhase) :
    (directory.setPhase pid phase).phase other =
      if other = pid then phase else directory.phase other := by
  unfold Directory.phase setPhase
  rw [FiniteMap.get?_put]
  split <;> rfl

/-- `control_socket_is_live`: somebody listens on the file at the path. -/
def isLive (directory : Directory) : Bool :=
  match directory.path with
  | some file =>
      file.owner.any fun owner => (directory.phase owner).holds
  | none => false

/-- One system call of a process, or the end of a process. -/
def step (directory : Directory) : SocketAction → Option Directory
  | .start pid =>
      match directory.procs.get? pid with
      | none => some (directory.setPhase pid .entered)
      | some _ => none
  | .checkExists pid =>
      if directory.phase pid = .entered then
        some
          (directory.setPhase pid
            (if directory.path.isSome then .sawFile else .cleared))
      else none
  | .probe pid =>
      if directory.phase pid = .sawFile then
        -- a live owner is `AlreadyRunning`
        some
          (directory.setPhase pid
            (if directory.isLive then .gone else .foundStale))
      else none
  | .removeStale pid =>
      if directory.phase pid = .foundStale then
        some { directory.setPhase pid .cleared with path := none }
      else none
  | .bind pid =>
      if directory.phase pid = .cleared then
        -- the bind fails if the path exists
        if directory.path.isSome then some (directory.setPhase pid .gone)
        else
          some
            { directory.setPhase pid .bound with
              path := some { owner := some pid } }
      else none
  | .unlink pid =>
      if directory.phase pid = .bound then
        some { directory.setPhase pid .closing with path := none }
      else none
  | .dropListener pid =>
      if directory.phase pid = .closing then
        some (directory.setPhase pid .gone)
      else none
  | .kill pid =>
      if directory.phase pid = .gone then none
      else some (directory.setPhase pid .gone)

end Directory

/-- A directory without a socket file, or with a stale one, before any process is
started. -/
def Directory.fresh (stale : Bool) : Directory where
  path := if stale then some { owner := none } else none
  procs := ∅

/-- The processes on a state directory. -/
def socketMachine (stale : Bool) : Machine Directory SocketAction where
  init := Directory.fresh stale
  step := Directory.step

namespace Directory

variable {directory next : Directory} {action : SocketAction}

/-- The step unlinks the socket file of another process that is alive. -/
def UnlinksOther (directory : Directory) (action : SocketAction) : Prop :=
  ∃ pid owner,
    (action = .removeStale pid ∨ action = .unlink pid) ∧
      directory.path = some { owner := some owner } ∧
      owner ≠ pid ∧ directory.phase owner ≠ .gone

/-- At most one process holds a listener for the directory. -/
def OneHolder (directory : Directory) : Prop :=
  ∀ first second,
    (directory.phase first).holds = true →
    (directory.phase second).holds = true → first = second

/-- No start-up removes a file while a server is bound, and none binds while a
server that has unlinked its file still has its listener. -/
def Careful (directory : Directory) : SocketAction → Prop
  | .removeStale _ => ∀ other, directory.phase other ≠ .bound
  | .bind _ =>
      directory.path = none → ∀ other, directory.phase other ≠ .closing
  | _ => True

/-- What holds of every process is what holds of the started ones and of one that is
gone. -/
theorem forall_phase_iff {holds : SocketPhase → Prop} (gone : holds .gone) :
    (∀ other, holds (directory.phase other)) ↔
      ∀ entry ∈ directory.procs.pairs, holds entry.2 := by
  constructor
  · rintro all ⟨pid, phase⟩ member
    have known := all pid
    unfold Directory.phase at known
    rw [FiniteMap.mem_pairs.mp member] at known
    exact known
  · intro all other
    unfold phase
    cases stored : directory.procs.get? other with
    | none => exact gone
    | some phase => exact all (other, phase) (FiniteMap.mem_pairs.mpr stored)

instance decidableCareful (directory : Directory) :
    ∀ action, Decidable (directory.Careful action)
  | .removeStale _ =>
      decidable_of_iff _
        (@forall_phase_iff directory (· ≠ .bound) (by decide)).symm
  | .bind _ =>
      decidable_of_iff
        (directory.path = none →
          ∀ entry ∈ directory.procs.pairs, entry.2 ≠ .closing)
        (imp_congr_right fun _ =>
          (@forall_phase_iff directory (· ≠ .closing) (by decide)).symm)
  | .start _ | .checkExists _ | .probe _ | .unlink _ | .dropListener _
  | .kill _ => .isTrue trivial

/-- The file of a bound server is at the path, and the file of a live process is
that of a bound server. -/
structure Owned (directory : Directory) : Prop where
  one : directory.OneHolder
  bound :
    ∀ pid, directory.phase pid = .bound →
      directory.path = some { owner := some pid }
  live :
    ∀ owner, directory.path = some { owner := some owner } →
      directory.phase owner ≠ .gone → directory.phase owner = .bound
  known :
    ∀ owner, directory.path = some { owner := some owner } →
      (directory.procs.get? owner).isSome = true

theorem owned_fresh (stale : Bool) : (fresh stale).Owned where
  one := by
    intro first second held
    cases held
  bound := by
    intro pid phase
    cases phase
  live := by
    intro owner path alive
    exact absurd rfl alive
  known := by
    intro owner path
    cases stale <;> cases path

/-- A process that has no listener goes on without one. -/
theorem Owned.setPhase {pid : Pid} {phase : SocketPhase}
    (owned : directory.Owned)
    (idle : (directory.phase pid).holds = false)
    (quiet : phase.holds = false)
    (foreign : directory.path ≠ some { owner := some pid }) :
    (directory.setPhase pid phase).Owned where
  one := by
    intro first second
    simp only [phase_setPhase]
    intro firstHolds secondHolds
    split at firstHolds
    · rw [quiet] at firstHolds
      cases firstHolds
    · split at secondHolds
      · rw [quiet] at secondHolds
        cases secondHolds
      · exact owned.one first second firstHolds secondHolds
  bound := by
    intro other
    simp only [phase_setPhase]
    intro bound
    split at bound
    · rw [bound] at quiet
      cases quiet
    · exact owned.bound other bound
  live := by
    intro owner path
    simp only [phase_setPhase]
    split
    next same =>
      subst same
      exact absurd path foreign
    next => exact owned.live owner path
  known := by
    intro owner path
    exact FiniteMap.isSome_get?_put pid phase (owned.known owner path)

/-- A process may end at any time. -/
theorem Owned.setGone (owned : directory.Owned) (pid : Pid) :
    (directory.setPhase pid .gone).Owned where
  one := by
    intro first second
    simp only [phase_setPhase]
    intro firstHolds secondHolds
    split at firstHolds
    · cases firstHolds
    · split at secondHolds
      · cases secondHolds
      · exact owned.one first second firstHolds secondHolds
  bound := by
    intro other
    simp only [phase_setPhase]
    intro bound
    split at bound
    · cases bound
    · exact owned.bound other bound
  live := by
    intro owner path
    simp only [phase_setPhase]
    intro alive
    split at alive
    · exact absurd rfl alive
    next apart =>
      rw [if_neg apart]
      exact owned.live owner path alive
  known := by
    intro owner path
    exact FiniteMap.isSome_get?_put pid .gone (owned.known owner path)

/-- The path of a process that is alive and not bound is not its own. -/
theorem Owned.foreign {pid : Pid} (owned : directory.Owned)
    (alive : directory.phase pid ≠ .gone)
    (unbound : directory.phase pid ≠ .bound) :
    directory.path ≠ some { owner := some pid } :=
  fun path => unbound (owned.live pid path alive)

theorem Owned.removeStale {pid : Pid} (owned : directory.Owned)
    (stale : directory.phase pid = .foundStale)
    (careful : ∀ other, directory.phase other ≠ .bound) :
    ({ directory.setPhase pid .cleared with path := none } :
      Directory).Owned := by
  have idle : (directory.phase pid).holds = false := by
    rw [stale]
    rfl
  have foreign :=
    owned.foreign (by rw [stale]; decide) (by rw [stale]; decide)
  have kept : (directory.setPhase pid .cleared).Owned :=
    owned.setPhase idle rfl foreign
  constructor
  case one => exact kept.one
  case bound =>
    intro other bound
    have same := phase_setPhase directory pid other .cleared
    split at same
    · exact absurd (same.symm.trans bound) (by decide)
    · exact absurd (same.symm.trans bound) (careful other)
  case live =>
    intro owner path
    cases path
  case known =>
    intro owner path
    cases path

/-- With the path free and no server shutting down, nobody holds a listener. -/
theorem Owned.no_holder (owned : directory.Owned)
    (free : directory.path = none)
    (settled : ∀ other, directory.phase other ≠ .closing) (other : Pid) :
    (directory.phase other).holds = false := by
  have unbound : directory.phase other ≠ .bound := by
    intro bound
    have path := owned.bound other bound
    rw [free] at path
    cases path
  have unclosed := settled other
  cases phase : directory.phase other with
  | bound => exact absurd phase unbound
  | closing => exact absurd phase unclosed
  | entered => rfl
  | sawFile => rfl
  | foundStale => rfl
  | cleared => rfl
  | gone => rfl

theorem Owned.bind {pid : Pid} (owned : directory.Owned)
    (free : directory.path = none)
    (settled : ∀ other, directory.phase other ≠ .closing) :
    ({ directory.setPhase pid .bound with
      path := some { owner := some pid } } : Directory).Owned := by
  have alone :
      ∀ other, ((directory.setPhase pid .bound).phase other).holds = true →
        other = pid := by
    intro other
    rw [phase_setPhase]
    intro holds
    split at holds
    · assumption
    · rw [owned.no_holder free settled other] at holds
      cases holds
  constructor
  case one =>
    intro first second firstHolds secondHolds
    exact (alone first firstHolds).trans (alone second secondHolds).symm
  case bound =>
    intro other bound
    have same : other = pid := by
      apply alone
      change (directory.setPhase pid .bound).phase other = .bound at bound
      rw [bound]
      rfl
    rw [same]
  case live =>
    intro owner path alive
    cases path
    exact (phase_setPhase directory pid pid .bound).trans (if_pos rfl)
  case known =>
    intro owner path
    cases path
    change
      ((directory.procs.put pid .bound).get? pid).isSome = true
    rw [FiniteMap.get?_put_self]
    rfl

theorem Owned.unlink {pid : Pid} (owned : directory.Owned)
    (bound : directory.phase pid = .bound) :
    ({ directory.setPhase pid .closing with path := none } :
      Directory).Owned := by
  have heldBefore :
      ∀ other,
        ((directory.setPhase pid .closing).phase other).holds = true →
          (directory.phase other).holds = true := by
    intro other
    rw [phase_setPhase]
    intro holds
    split at holds
    next same =>
      rw [same, bound]
      rfl
    next => exact holds
  constructor
  case one =>
    intro first second firstHolds secondHolds
    exact
      owned.one first second (heldBefore first firstHolds)
        (heldBefore second secondHolds)
  case bound =>
    intro other boundAfter
    have same := phase_setPhase directory pid other .closing
    split at same
    · exact absurd (same.symm.trans boundAfter) (by decide)
    next apart =>
      have boundBefore := same.symm.trans boundAfter
      have own := owned.bound pid bound
      rw [owned.bound other boundBefore] at own
      cases own
      exact absurd rfl apart
  case live =>
    intro owner path
    cases path
  case known =>
    intro owner path
    cases path

/-- A process without a listener that stays without one. -/
theorem Owned.advance {pid : Pid} {before after : SocketPhase}
    (owned : directory.Owned) (phase : directory.phase pid = before)
    (alive : before ≠ .gone) (idle : before.holds = false)
    (quiet : after.holds = false) :
    (directory.setPhase pid after).Owned := by
  refine owned.setPhase ?_ quiet ?_
  · rw [phase]
    exact idle
  · apply owned.foreign
    · rw [phase]
      exact alive
    · intro bound
      rw [phase.symm.trans bound] at idle
      cases idle

/-- When each step is possible, and what it does. -/
inductive Steps (directory : Directory) : SocketAction → Directory → Prop
  | start {pid : Pid} (unknown : directory.procs.get? pid = none) :
      Steps directory (.start pid) (directory.setPhase pid .entered)
  | checkExists {pid : Pid} (entered : directory.phase pid = .entered) :
      Steps directory (.checkExists pid)
        (directory.setPhase pid
          (if directory.path.isSome then .sawFile else .cleared))
  | probe {pid : Pid} (saw : directory.phase pid = .sawFile) :
      Steps directory (.probe pid)
        (directory.setPhase pid
          (if directory.isLive then .gone else .foundStale))
  | removeStale {pid : Pid} (stale : directory.phase pid = .foundStale) :
      Steps directory (.removeStale pid)
        { directory.setPhase pid .cleared with path := none }
  | bindFails {pid : Pid} (cleared : directory.phase pid = .cleared)
      (occupied : directory.path ≠ none) :
      Steps directory (.bind pid) (directory.setPhase pid .gone)
  | bind {pid : Pid} (cleared : directory.phase pid = .cleared)
      (free : directory.path = none) :
      Steps directory (.bind pid)
        { directory.setPhase pid .bound with
          path := some { owner := some pid } }
  | unlink {pid : Pid} (bound : directory.phase pid = .bound) :
      Steps directory (.unlink pid)
        { directory.setPhase pid .closing with path := none }
  | dropListener {pid : Pid} (closing : directory.phase pid = .closing) :
      Steps directory (.dropListener pid) (directory.setPhase pid .gone)
  | kill {pid : Pid} (alive : directory.phase pid ≠ .gone) :
      Steps directory (.kill pid) (directory.setPhase pid .gone)

theorem steps_of_step (stepped : directory.step action = some next) :
    Steps directory action next := by
  cases action with
  | start pid =>
      simp only [step] at stepped
      split at stepped
      next unknown =>
        cases stepped
        exact .start unknown
      next => cases stepped
  | checkExists pid =>
      obtain ⟨entered, ⟨⟩⟩ := Option.ite_none_right_eq_some.mp stepped
      exact .checkExists entered
  | probe pid =>
      obtain ⟨saw, ⟨⟩⟩ := Option.ite_none_right_eq_some.mp stepped
      exact .probe saw
  | removeStale pid =>
      obtain ⟨stale, ⟨⟩⟩ := Option.ite_none_right_eq_some.mp stepped
      exact .removeStale stale
  | bind pid =>
      obtain ⟨cleared, bound⟩ := Option.ite_none_right_eq_some.mp stepped
      split at bound
      next occupied =>
        cases bound
        exact .bindFails cleared (Option.isSome_iff_ne_none.mp occupied)
      next free =>
        cases bound
        exact .bind cleared (by simpa using free)
  | unlink pid =>
      obtain ⟨bound, ⟨⟩⟩ := Option.ite_none_right_eq_some.mp stepped
      exact .unlink bound
  | dropListener pid =>
      obtain ⟨closing, ⟨⟩⟩ := Option.ite_none_right_eq_some.mp stepped
      exact .dropListener closing
  | kill pid =>
      obtain ⟨alive, ⟨⟩⟩ := Option.ite_none_left_eq_some.mp stepped
      exact .kill alive

/-- Every careful step keeps the file of the bound server at the path. -/
theorem Owned.step (owned : directory.Owned)
    (careful : directory.Careful action)
    (stepped : directory.step action = some next) : next.Owned := by
  cases steps_of_step stepped with
  | @start pid unknown =>
      refine owned.setPhase ?_ rfl ?_
      · unfold phase
        rw [unknown]
        rfl
      · intro path
        have known := owned.known pid path
        rw [unknown] at known
        cases known
  | checkExists entered =>
      refine owned.advance entered (by decide) rfl ?_
      split <;> rfl
  | probe saw =>
      refine owned.advance saw (by decide) rfl ?_
      split <;> rfl
  | removeStale stale => exact owned.removeStale stale careful
  | bindFails _ _ => exact owned.setGone _
  | bind _ free => exact owned.bind free (careful free)
  | unlink bound => exact owned.unlink bound
  | dropListener _ => exact owned.setGone _
  | kill _ => exact owned.setGone _

/-- A careful step unlinks no file of another live process. -/
theorem Owned.not_unlinksOther (owned : directory.Owned)
    (careful : directory.Careful action)
    (stepped : directory.step action = some next) :
    ¬ directory.UnlinksOther action := by
  rintro ⟨pid, owner, rfl | rfl, path, apart, alive⟩
  · exact careful owner (owned.live owner path alive)
  · cases steps_of_step stepped with
    | unlink bound =>
        have own := owned.bound pid bound
        rw [path] at own
        cases own
        exact apart rfl

/-- A step that is not careful unlinks the file of a live server, or is the bind of
a second listener. -/
theorem Owned.careful_of_exclusive (owned : directory.Owned)
    (stepped : directory.step action = some next)
    (spared : ¬ directory.UnlinksOther action)
    (one : next.OneHolder) : directory.Careful action := by
  cases steps_of_step stepped with
  | @removeStale pid stale =>
      intro other bound
      apply spared
      refine ⟨pid, other, .inl rfl, owned.bound other bound, ?_, ?_⟩
      · rintro rfl
        rw [stale] at bound
        cases bound
      · rw [bound]
        decide
  | bindFails _ occupied =>
      intro free
      exact absurd free occupied
  | @bind pid cleared _ =>
      intro _ other closing
      have apart : other ≠ pid := by
        rintro rfl
        rw [cleared] at closing
        cases closing
      apply apart
      apply one
      · change ((directory.setPhase pid .bound).phase other).holds = true
        rw [phase_setPhase, if_neg apart, closing]
        rfl
      · change ((directory.setPhase pid .bound).phase pid).holds = true
        rw [phase_setPhase, if_pos rfl]
        rfl
  | start _ | checkExists _ | probe _ | unlink _ | dropListener _
  | kill _ => trivial

/-- The step unlinks no file of another live process and leaves at most one
listener. -/
def Exclusive (directory : Directory) (action : SocketAction) : Prop :=
  ¬ directory.UnlinksOther action ∧
    ∀ next, directory.step action = some next → next.OneHolder

theorem Owned.exclusive_iff (owned : directory.Owned)
    (stepped : directory.step action = some next) :
    directory.Exclusive action ↔ directory.Careful action := by
  constructor
  · rintro ⟨spared, one⟩
    exact owned.careful_of_exclusive stepped spared (one next stepped)
  · intro careful
    refine ⟨owned.not_unlinksOther careful stepped, ?_⟩
    intro next' stepped'
    exact (owned.step careful stepped').one

end Directory

/-- On a state directory without a socket file or with a stale one, whatever the
order of the steps of any number of processes: no live process ever loses its socket
file to another and no two hold a listener, exactly if every removal of a stale file
finds no server bound and every bind finds none that is shutting down. -/
theorem one_live_owner_iff_careful
    (stale : Bool) (actions : List SocketAction)
    (enabled :
      ((socketMachine stale).run (Directory.fresh stale) actions).isSome =
        true) :
    ((socketMachine stale).Along
        (fun directory action => ¬ directory.UnlinksOther action)
        (Directory.fresh stale) actions ∧
      ∀ done target, done <+: actions →
        (socketMachine stale).run (Directory.fresh stale) done =
          some target →
        target.OneHolder) ↔
      (socketMachine stale).Along Directory.Careful
        (Directory.fresh stale) actions := by
  rw [(socketMachine stale).prefixes_iff_along_next
    (Directory.owned_fresh stale).one enabled]
  rw [← Machine.along_and]
  exact
    (socketMachine stale).along_congr
      (fun _ _ _ owned careful stepped => owned.step careful stepped)
      (fun _ _ _ owned stepped => owned.exclusive_iff stepped)
      (Directory.owned_fresh stale) enabled

/-- A server is killed; the next one clears the file it left and shuts down. -/
def recovery : List SocketAction :=
  [.start 0, .checkExists 0, .bind 0, .kill 0,
    .start 1, .checkExists 1, .probe 1, .removeStale 1, .bind 1,
    .unlink 1, .dropListener 1]

theorem one_live_owner_iff_careful_recovery :
    ((socketMachine false).run (Directory.fresh false) recovery).isSome =
        true ∧
      ∀ done target, done <+: recovery →
        (socketMachine false).run (Directory.fresh false) done =
          some target →
        target.OneHolder := by
  have enabled :
      ((socketMachine false).run (Directory.fresh false)
        recovery).isSome = true := by
    decide
  refine ⟨enabled, ?_⟩
  have careful :
      (socketMachine false).Along Directory.Careful
        (Directory.fresh false) recovery := by
    decide
  exact ((one_live_owner_iff_careful false recovery enabled).mpr careful).2

/-- Two processes find the same stale file; the slower one removes it again, after
the faster one is up. -/
def overtaken : List SocketAction :=
  [.start 0, .checkExists 0, .probe 0, .start 1, .checkExists 1, .probe 1,
    .removeStale 0, .bind 0, .removeStale 1, .bind 1]

theorem start_up_steals_live_socket :
    ¬ (socketMachine true).Along
        (fun directory action => ¬ directory.UnlinksOther action)
        (Directory.fresh true) overtaken ∧
      ∃ target,
        (socketMachine true).run (Directory.fresh true) overtaken =
          some target ∧
        ¬ target.OneHolder := by
  constructor
  · intro along
    have split : overtaken = overtaken.take 8 ++ overtaken.drop 8 := rfl
    rw [split] at along
    -- the second process removes the file of the first, which serves
    exact (along.of_append.2 _ rfl).1
      ⟨1, 0, .inl rfl, rfl, by decide, by decide⟩
  · refine ⟨_, rfl, ?_⟩
    intro one
    exact absurd (one 0 1 rfl rfl) (by decide)

end HollerServer.Server
