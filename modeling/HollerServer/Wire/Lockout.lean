import HollerServer.Lib.FiniteMap

/-!
# The failed-auth lockout

`src/wire/lockout.rs`: failures of a source within a sliding window lock the
source out for a while.  Times are in nanoseconds and `Instant::now()` is an
argument.
-/

namespace HollerServer.Wire

inductive IpAddr where
  | v4 (address : BitVec 32)
  | v6 (address : BitVec 128)
  deriving DecidableEq, Repr

/-- What is kept of one source: its failures, oldest first, and the end of its
lockout. -/
structure IpState where
  failures : List Nat := []
  lockedUntil : Option Nat := none
  deriving DecidableEq, Repr

structure LockoutTracker where
  byIp : FiniteMap IpAddr IpState
  maxFailures : Nat
  window : Nat
  lockoutDuration : Nat

namespace LockoutTracker

def withParams
    (maxFailures window lockoutDuration : Nat) : LockoutTracker where
  byIp := ∅
  maxFailures := maxFailures
  window := window
  lockoutDuration := lockoutDuration

/-- Five failures in ten minutes lock a source out for ten minutes. -/
def new : LockoutTracker :=
  withParams 5 600000000000 600000000000

/-- `is_locked_out`: a lockout that is over is forgotten when it is seen. -/
def isLockedOut
    (tracker : LockoutTracker) (now : Nat) (ip : IpAddr) :
    Bool × LockoutTracker :=
  match (tracker.byIp.get? ip).bind IpState.lockedUntil with
  | some until' =>
      if now < until' then (true, tracker)
      else (false, { tracker with byIp := tracker.byIp.delete ip })
  | none => (false, tracker)

/-- `record_failure`: whether this failure locks the source out. -/
def recordFailure
    (tracker : LockoutTracker) (now : Nat) (ip : IpAddr) :
    Bool × LockoutTracker :=
  let state := (tracker.byIp.get? ip).getD {}
  let locked :=
    match state.lockedUntil with
    | some until' => decide (now < until')
    | none => false
  if locked then
    (false, { tracker with byIp := tracker.byIp.put ip state })
  else
    let failures :=
      (state.failures.filter fun time => now - time < tracker.window) ++
        [now]
    if tracker.maxFailures ≤ failures.length % UInt32.size then
      (true,
        { tracker with
          byIp := tracker.byIp.put ip
            { failures := []
              lockedUntil := some (now + tracker.lockoutDuration) } })
    else
      (false,
        { tracker with
          byIp := tracker.byIp.put ip { state with failures } })

end LockoutTracker

end HollerServer.Wire
