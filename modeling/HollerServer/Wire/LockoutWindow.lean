import HollerServer.Lib.Clocked
import HollerServer.Wire.Lockout

/-!
# The lockout as a sliding window

The reference for the lockout tracker is computed from the failures of one source
alone: a failure during a lockout is ignored, any other one starts a lockout if
it completes the permitted number of failures within the window since the last
start.

The tracker keeps less than the reference: it prunes failures that have left the
window and drops the entry of a source whose lockout is over as soon as somebody
asks for it.  The two agree as long as no entry with a recent failure is dropped.
-/

namespace HollerServer.Wire

open Transition

inductive LockoutOp where
  | isLockedOut (ip : IpAddr)
  | recordFailure (ip : IpAddr)
  deriving DecidableEq, Repr

def LockoutOp.ip : LockoutOp → IpAddr
  | .isLockedOut ip => ip
  | .recordFailure ip => ip

abbrev LockoutCall := Clocked.Call LockoutOp

/-- The parameters of a tracker. -/
structure LockoutPolicy where
  maxFailures : Nat
  window : Nat
  lockoutDuration : Nat

/-- The failures that are less than the window old. -/
def LockoutPolicy.young
    (policy : LockoutPolicy) (now : Nat) (times : List Nat) : List Nat :=
  times.filter fun time => now - time < policy.window

/-- The history of one source: when its last lockout began, and its failures
since then, oldest first. -/
structure LockoutRecord where
  trigger : Option Nat := none
  since : List Nat := []
  deriving DecidableEq, Repr

namespace LockoutRecord

variable (policy : LockoutPolicy) (record : LockoutRecord)

/-- A lockout is active from its trigger until before its expiry. -/
def active (now : Nat) : Bool :=
  match record.trigger with
  | some time => now < time + policy.lockoutDuration
  | none => false

/-- A failure at this time starts a lockout. -/
def triggers (now : Nat) : Bool :=
  !record.active policy now &&
    policy.maxFailures ≤
      (policy.young now (record.since ++ [now])).length

/-- The history with one more failure. -/
def fail (now : Nat) : LockoutRecord :=
  if record.active policy now then record
  else if record.triggers policy now then
    { trigger := some now, since := [] }
  else { record with since := record.since ++ [now] }

/-- The history of a source with failures at the given times. -/
def ofTimes (times : List Nat) : LockoutRecord :=
  times.foldl (fun record now => record.fail policy now) {}

@[simp]
theorem ofTimes_snoc (times : List Nat) (now : Nat) :
    ofTimes policy (times ++ [now]) =
      (ofTimes policy times).fail policy now := by
  simp [ofTimes]

end LockoutRecord

/-- The times of the failures of one source among some calls. -/
def failureTimes (ip : IpAddr) (calls : List LockoutCall) : List Nat :=
  calls.filterMap fun call =>
    if call.op = .recordFailure ip then some call.now else none

/-- The answer of the reference to a call after some earlier calls. -/
def LockoutPolicy.answer
    (policy : LockoutPolicy) (before : List LockoutCall)
    (call : LockoutCall) : Bool :=
  let record := .ofTimes policy (failureTimes call.op.ip before)
  match call.op with
  | .isLockedOut _ => LockoutRecord.active policy record call.now
  | .recordFailure _ => LockoutRecord.triggers policy record call.now

/-- The answers of the reference to a list of calls. -/
def LockoutPolicy.answers (policy : LockoutPolicy) :
    List LockoutCall → List LockoutCall → List Bool
  | _, [] => []
  | before, call :: rest =>
      policy.answer before call :: policy.answers (before ++ [call]) rest

namespace LockoutTracker

/-- One call on the tracker. -/
def exec (tracker : LockoutTracker) (now : Nat) :
    LockoutOp → LockoutTracker × Bool
  | .isLockedOut ip =>
      let (locked, next) := tracker.isLockedOut now ip
      (next, locked)
  | .recordFailure ip =>
      let (locks, next) := tracker.recordFailure now ip
      (next, locks)

def ofPolicy (policy : LockoutPolicy) : LockoutTracker :=
  withParams policy.maxFailures policy.window policy.lockoutDuration

/-- Calls at non-decreasing times on a tracker that starts empty. -/
def machine (policy : LockoutPolicy) :
    Machine (Clocked.State LockoutTracker) LockoutCall :=
  Clocked.machine exec (ofPolicy policy)

/-- What the tracker keeps of a source. -/
def entry (tracker : LockoutTracker) (ip : IpAddr) : IpState :=
  (tracker.byIp.get? ip).getD {}

/-- The replies to a list of calls. -/
def replies (tracker : LockoutTracker) (calls : List LockoutCall) :
    List Bool :=
  Clocked.shown exec some tracker calls

end LockoutTracker

/-- The source is locked out at this time. -/
def IpState.locked (state : IpState) (now : Nat) : Bool :=
  match state.lockedUntil with
  | some expiry => now < expiry
  | none => false

/-- The lockout of the source is over. -/
def IpState.expired (state : IpState) (now : Nat) : Bool :=
  match state.lockedUntil with
  | some expiry => expiry ≤ now
  | none => false

theorem IpState.locked_of_expired
    {state : IpState} {now later : Nat}
    (expired : state.expired now = true) (onward : now ≤ later) :
    state.locked later = false := by
  unfold IpState.expired at expired
  unfold IpState.locked
  split at expired
  next expiry isExpiry =>
    have past : expiry ≤ now := of_decide_eq_true expired
    simp only [decide_eq_false_iff_not, Nat.not_lt]
    exact Nat.le_trans past onward
  next => cases expired

namespace LockoutPolicy

variable (policy : LockoutPolicy) {now later : Nat}

theorem young_append (times more : List Nat) :
    policy.young now (times ++ more) =
      policy.young now times ++ policy.young now more :=
  List.filter_append times more

/-- A failure is within the window when it happens. -/
theorem young_now (open_ : 0 < policy.window) :
    policy.young now [now] = [now] := by
  simp [young, open_]

/-- What has left the window does not come back. -/
theorem young_young (onward : now ≤ later) (times : List Nat) :
    policy.young later (policy.young now times) =
      policy.young later times := by
  unfold young
  rw [List.filter_filter]
  apply List.filter_congr
  intro time _
  have still : later - time < policy.window → now - time < policy.window := by
    omega
  by_cases recent : later - time < policy.window
  · simp [recent, still recent]
  · simp [recent]

theorem young_eq_nil_later (onward : now ≤ later) {times : List Nat}
    (aged : policy.young now times = []) :
    policy.young later times = [] := by
  rw [← policy.young_young onward, aged]
  rfl

end LockoutPolicy

namespace LockoutTracker

variable {tracker : LockoutTracker} {now : Nat} {ip other : IpAddr}

/-- The parameters the tracker was created with. -/
def policy (tracker : LockoutTracker) : LockoutPolicy where
  maxFailures := tracker.maxFailures
  window := tracker.window
  lockoutDuration := tracker.lockoutDuration

theorem isLockedOut_fst :
    (tracker.isLockedOut now ip).1 = (tracker.entry ip).locked now := by
  unfold isLockedOut entry IpState.locked
  cases tracker.byIp.get? ip with
  | none => rfl
  | some state =>
      simp only [Option.bind_some, Option.getD_some]
      cases state.lockedUntil with
      | none => rfl
      | some expiry =>
          by_cases locked : now < expiry
          · simp [locked]
          · simp [locked]

theorem policy_isLockedOut :
    (tracker.isLockedOut now ip).2.policy = tracker.policy := by
  unfold isLockedOut
  split
  next =>
    split
    next => rfl
    next => rfl
  next => rfl

theorem entry_isLockedOut :
    (tracker.isLockedOut now ip).2.entry other =
      if other = ip ∧ (tracker.entry ip).expired now = true then {}
      else tracker.entry other := by
  unfold isLockedOut entry IpState.expired
  cases found : tracker.byIp.get? ip with
  | none => simp
  | some state =>
      obtain ⟨failures, lockedUntil⟩ := state
      cases lockedUntil with
      | none => simp
      | some expiry =>
          by_cases locked : now < expiry
          · simp [locked, Nat.not_le.mpr locked]
          · have past : expiry ≤ now := Nat.not_lt.mp locked
            by_cases same : other = ip
            · simp [locked, past, same, FiniteMap.get?_delete]
            · simp [locked, same, FiniteMap.get?_delete]

/-- The failures a source has once it has failed again. -/
def failuresAfter (tracker : LockoutTracker) (now : Nat) (ip : IpAddr) :
    List Nat :=
  tracker.policy.young now (tracker.entry ip).failures ++ [now]

/-- What a failure does to the entry of its source. -/
inductive Records (tracker : LockoutTracker) (now : Nat) (ip : IpAddr) :
    Bool → IpState → Prop
  | ignored (locked : (tracker.entry ip).locked now = true) :
      Records tracker now ip false (tracker.entry ip)
  | locks (unlocked : (tracker.entry ip).locked now = false)
      (enough :
        tracker.maxFailures ≤
          (tracker.failuresAfter now ip).length % UInt32.size) :
      Records tracker now ip true
        { failures := []
          lockedUntil := some (now + tracker.lockoutDuration) }
  | counts (unlocked : (tracker.entry ip).locked now = false)
      (few :
        (tracker.failuresAfter now ip).length % UInt32.size <
          tracker.maxFailures) :
      Records tracker now ip false
        { tracker.entry ip with
          failures := tracker.failuresAfter now ip }

theorem recordFailure_spec :
    (tracker.recordFailure now ip).2.policy = tracker.policy ∧
      ∃ state, Records tracker now ip (tracker.recordFailure now ip).1
          state ∧
        ∀ other, (tracker.recordFailure now ip).2.entry other =
          if other = ip then state else tracker.entry other := by
  have entry_put :
      ∀ (state : IpState) (other : IpAddr),
        LockoutTracker.entry
            { tracker with byIp := tracker.byIp.put ip state } other =
          if other = ip then state else tracker.entry other := by
    intro state other
    unfold entry
    rw [FiniteMap.get?_put]
    split
    next => rfl
    next => rfl
  have unfolded :
      tracker.recordFailure now ip =
        if (tracker.entry ip).locked now then
          (false,
            { tracker with
              byIp := tracker.byIp.put ip (tracker.entry ip) })
        else if tracker.maxFailures ≤
            (tracker.failuresAfter now ip).length % UInt32.size then
          (true,
            { tracker with
              byIp := tracker.byIp.put ip
                { failures := []
                  lockedUntil := some (now + tracker.lockoutDuration) } })
        else
          (false,
            { tracker with
              byIp := tracker.byIp.put ip
                { tracker.entry ip with
                  failures := tracker.failuresAfter now ip } }) := rfl
  rw [unfolded]
  split
  next locked =>
    exact ⟨rfl, _, .ignored locked, entry_put _⟩
  next unlocked =>
    rw [Bool.not_eq_true] at unlocked
    split
    next enough =>
      exact ⟨rfl, _, .locks unlocked enough, entry_put _⟩
    next few =>
      exact ⟨rfl, _, .counts unlocked (Nat.not_le.mp few), entry_put _⟩

/-- From this time on the entry of a source shows the same as its history. -/
structure Mirrors
    (policy : LockoutPolicy) (now : Nat) (state : IpState)
    (record : LockoutRecord) : Prop where
  locked :
    ∀ later, now ≤ later → state.locked later = record.active policy later
  young :
    ∀ later, now ≤ later →
      policy.young later state.failures = policy.young later record.since
  few : state.failures.length < policy.maxFailures

theorem Mirrors.later
    {policy : LockoutPolicy} {state : IpState} {record : LockoutRecord}
    {now later : Nat}
    (mirrors : Mirrors policy now state record) (onward : now ≤ later) :
    Mirrors policy later state record where
  locked := fun time after =>
    mirrors.locked time (Nat.le_trans onward after)
  young := fun time after => mirrors.young time (Nat.le_trans onward after)
  few := mirrors.few

/-- The parameters are in range: the permitted number of failures is a positive
32-bit number and the window is not empty. -/
structure InRange (policy : LockoutPolicy) : Prop where
  positive : 1 ≤ policy.maxFailures
  bounded : policy.maxFailures < UInt32.size
  window : 0 < policy.window

variable {policy : LockoutPolicy} {state : IpState}
  {record : LockoutRecord} {reply : Bool}

/-- The count of failures fits the 32 bits it is cast to. -/
theorem length_failuresAfter_mod
    (inRange : InRange tracker.policy)
    (mirrors : Mirrors tracker.policy now (tracker.entry ip) record) :
    (tracker.failuresAfter now ip).length % UInt32.size =
      (tracker.failuresAfter now ip).length := by
  have few := mirrors.few
  have bounded := inRange.bounded
  have kept :
      (tracker.policy.young now (tracker.entry ip).failures).length ≤
        (tracker.entry ip).failures.length :=
    List.length_filter_le _ _
  apply Nat.mod_eq_of_lt
  unfold failuresAfter
  rw [List.length_append, List.length_singleton]
  omega

/-- The failures the tracker counts are those the reference counts. -/
theorem failuresAfter_eq
    (inRange : InRange tracker.policy)
    (mirrors : Mirrors tracker.policy now (tracker.entry ip) record) :
    tracker.failuresAfter now ip =
      tracker.policy.young now (record.since ++ [now]) := by
  unfold failuresAfter
  rw [LockoutPolicy.young_append, LockoutPolicy.young_now _ inRange.window,
    mirrors.young now (Nat.le_refl now)]

/-- A failure is answered as the reference answers it, and keeps entry and
history in step. -/
theorem Mirrors.fail
    (inRange : InRange tracker.policy)
    (mirrors : Mirrors tracker.policy now (tracker.entry ip) record)
    (records : Records tracker now ip reply state) :
    reply = record.triggers tracker.policy now ∧
      Mirrors tracker.policy now state
        (record.fail tracker.policy now) := by
  have sameLocked := mirrors.locked now (Nat.le_refl now)
  have sameFailures := failuresAfter_eq inRange mirrors
  have whole := length_failuresAfter_mod inRange mirrors
  unfold LockoutRecord.fail LockoutRecord.triggers
  rw [← sameFailures]
  cases records with
  | ignored locked =>
      rw [sameLocked] at locked
      simp only [locked, Bool.not_true, Bool.false_and, if_true,
        true_and]
      exact mirrors
  | locks unlocked enough =>
      rw [sameLocked] at unlocked
      rw [whole] at enough
      have enough' :
          tracker.policy.maxFailures ≤
            (tracker.failuresAfter now ip).length := enough
      simp only [unlocked, Bool.not_false, Bool.true_and, enough',
        decide_true, Bool.false_eq_true, if_false, if_true, true_and]
      exact
        { locked := fun _ _ => rfl
          young := fun _ _ => rfl
          few := inRange.positive }
  | counts unlocked few =>
      rw [sameLocked] at unlocked
      rw [whole] at few
      have notEnough :
          ¬ tracker.policy.maxFailures ≤
            (tracker.failuresAfter now ip).length := Nat.not_le.mpr few
      simp only [unlocked, Bool.not_false, Bool.true_and, notEnough,
        decide_false, Bool.false_eq_true, if_false, true_and]
      refine
        { locked := fun later onward => mirrors.locked later onward
          young := ?_
          few := few }
      intro later onward
      simp only [failuresAfter, LockoutPolicy.young_append,
        LockoutPolicy.young_young _ onward, mirrors.young later onward]

theorem failureTimes_snoc (before : List LockoutCall) (call : LockoutCall) :
    failureTimes ip (before ++ [call]) =
      failureTimes ip before ++
        if call.op = .recordFailure ip then [call.now] else [] := by
  unfold failureTimes
  rw [List.filterMap_append]
  by_cases isFailure : call.op = .recordFailure ip
  · simp [isFailure]
  · simp [isFailure]

/-- The tracker is in step with the failures among the calls so far. -/
structure Follows
    (policy : LockoutPolicy) (before : List LockoutCall)
    (state : Clocked.State LockoutTracker) : Prop where
  samePolicy : state.object.policy = policy
  entries :
    ∀ ip, Mirrors policy state.now (state.object.entry ip)
      (.ofTimes policy (failureTimes ip before))

/-- The call does not drop the entry of a source that has failed within the
window. -/
def Careful
    (state : Clocked.State LockoutTracker) (call : LockoutCall) : Prop :=
  ∀ ip, call.op = .isLockedOut ip →
    (state.object.entry ip).expired call.now = true →
    state.object.policy.young call.now (state.object.entry ip).failures =
      []

variable {before : List LockoutCall}
  {tracked : Clocked.State LockoutTracker} {call : LockoutCall}

/-- One careful call is answered as the reference answers it. -/
theorem Follows.step
    (inRange : InRange policy)
    (follows : Follows policy before tracked)
    (careful : Careful tracked call)
    (onward : tracked.now ≤ call.now) :
    (exec tracked.object call.now call.op).2 = policy.answer before call ∧
      Follows policy (before ++ [call])
        { now := call.now
          object := (exec tracked.object call.now call.op).1 } := by
  obtain ⟨now, op⟩ := call
  obtain ⟨rfl, entries⟩ := follows
  have mirrors := fun ip => (entries ip).later onward
  cases op with
  | isLockedOut ip =>
      refine ⟨?_, { samePolicy := policy_isLockedOut, entries := ?_ }⟩
      · exact
          isLockedOut_fst.trans ((mirrors ip).locked now (Nat.le_refl now))
      · intro other
        rw [failureTimes_snoc, if_neg nofun, List.append_nil]
        simp only [exec, entry_isLockedOut]
        split
        next dropped =>
          obtain ⟨rfl, expired⟩ := dropped
          have aged := careful other rfl expired
          refine
            { locked := ?_
              young := ?_
              few := inRange.positive }
          · intro later after
            rw [← (mirrors other).locked later after,
              IpState.locked_of_expired expired after]
            rfl
          · intro later after
            rw [← (mirrors other).young later after,
              LockoutPolicy.young_eq_nil_later _ after aged]
            rfl
        next => exact mirrors other
  | recordFailure ip =>
      obtain ⟨samePolicy, state, records, entry⟩ :=
        @recordFailure_spec tracked.object now ip
      obtain ⟨reply, kept⟩ := (mirrors ip).fail inRange records
      refine ⟨reply, { samePolicy := samePolicy, entries := ?_ }⟩
      intro other
      rw [failureTimes_snoc]
      simp only [exec, entry]
      by_cases same : other = ip
      · subst same
        simp only [if_true, LockoutRecord.ofTimes_snoc]
        exact kept
      · have different :
            ¬ LockoutOp.recordFailure ip = .recordFailure other := by
          intro isSame
          cases isSame
          exact same rfl
        rw [if_neg same, if_neg different, List.append_nil]
        exact mirrors other

theorem careful_of_failure
    (isFailure : ∃ ip, call.op = .recordFailure ip) :
    Careful tracked call := by
  intro ip isCheck
  obtain ⟨failed, isFailure⟩ := isFailure
  cases isCheck.symm.trans isFailure

theorem replies_cons (rest : List LockoutCall) :
    tracker.replies (call :: rest) =
      (exec tracker call.now call.op).2 ::
        (exec tracker call.now call.op).1.replies rest :=
  rfl

/-- Failures are answered as the reference answers them. -/
theorem Follows.failures
    (inRange : InRange policy) {more : List LockoutCall}
    (follows : Follows policy before tracked)
    (failures : ∀ call ∈ more, ∃ ip, call.op = .recordFailure ip)
    (enabled : ((machine policy).run tracked more).isSome = true) :
    tracked.object.replies more = policy.answers before more := by
  induction more generalizing before tracked with
  | nil => rfl
  | cons call rest inductionHypothesis =>
      obtain ⟨target, ran⟩ := Option.isSome_iff_exists.mp enabled
      obtain ⟨next, stepped, remaining⟩ :=
        ((machine policy).run_cons_eq_some).mp ran
      obtain ⟨onward, rfl⟩ := Clocked.step_eq_some.mp stepped
      have careful : Careful tracked call :=
        careful_of_failure (failures call List.mem_cons_self)
      obtain ⟨reply, kept⟩ := follows.step inRange careful onward
      have others :=
        inductionHypothesis kept
          (fun other member =>
            failures other (List.mem_cons_of_mem call member))
          (Option.isSome_iff_exists.mpr ⟨target, remaining⟩)
      rw [replies_cons, LockoutPolicy.answers, reply, others]

/-- The number of failures of a source within the window. -/
def recent (tracker : LockoutTracker) (now : Nat) (ip : IpAddr) : Nat :=
  (tracker.policy.young now (tracker.entry ip).failures).length

/-- A failure of a source that is not locked out: it is answered by the number of
recent failures, and adds to them unless it starts a lockout. -/
theorem recordFailure_of_unlocked
    (inRange : InRange tracker.policy)
    (unlocked : (tracker.entry ip).locked now = false)
    (few : tracker.recent now ip < tracker.policy.maxFailures) :
    (tracker.recordFailure now ip).1 =
        decide (tracker.policy.maxFailures ≤ tracker.recent now ip + 1) ∧
      (tracker.recent now ip + 1 < tracker.policy.maxFailures →
        (((tracker.recordFailure now ip).2.entry ip).locked now = false ∧
          (tracker.recordFailure now ip).2.recent now ip =
            tracker.recent now ip + 1)) := by
  have bounded := inRange.bounded
  have length :
      (tracker.failuresAfter now ip).length =
        tracker.recent now ip + 1 := by
    simp [failuresAfter, recent]
  have whole :
      (tracker.failuresAfter now ip).length % UInt32.size =
        tracker.recent now ip + 1 := by
    rw [length]
    exact Nat.mod_eq_of_lt (by omega)
  obtain ⟨samePolicy, state, records, entry⟩ :=
    @recordFailure_spec tracker now ip
  have entryAfter := entry ip
  rw [if_pos rfl] at entryAfter
  generalize (tracker.recordFailure now ip).1 = reply at records ⊢
  cases records with
  | ignored locked =>
      rw [locked] at unlocked
      cases unlocked
  | locks _ enough =>
      rw [whole] at enough
      have enough' :
          tracker.policy.maxFailures ≤ tracker.recent now ip + 1 := enough
      refine ⟨(decide_eq_true enough').symm, ?_⟩
      intro fewer
      exact absurd enough' (Nat.not_le.mpr fewer)
  | counts _ notEnough =>
      rw [whole] at notEnough
      refine ⟨(decide_eq_false (Nat.not_le.mpr notEnough)).symm, ?_⟩
      intro _
      rw [recent, entryAfter, samePolicy]
      refine ⟨unlocked, ?_⟩
      simp only [failuresAfter, LockoutPolicy.young_append,
        LockoutPolicy.young_young _ (Nat.le_refl now),
        LockoutPolicy.young_now _ inRange.window, List.length_append,
        List.length_singleton]
      rfl

/-- Repeated failures at one time reveal how many failures are counted: if tracker
and reference answer all of them alike, they count the same number. -/
theorem recent_eq_of_agreement
    (inRange : InRange policy)
    (samePolicy : tracker.policy = policy)
    (isRecord : .ofTimes policy (failureTimes ip before) = record)
    (unlocked : (tracker.entry ip).locked now = false)
    (inactive : record.active policy now = false)
    (few : tracker.recent now ip < policy.maxFailures)
    (fewSince :
      (policy.young now record.since).length < policy.maxFailures)
    (agree :
      ∀ count,
        tracker.replies
            (List.replicate count ⟨now, .recordFailure ip⟩) =
          policy.answers before
            (List.replicate count ⟨now, .recordFailure ip⟩)) :
    tracker.recent now ip = (policy.young now record.since).length := by
  induction left : policy.maxFailures - tracker.recent now ip
    generalizing tracker before record with
  | zero => omega
  | succ left inductionHypothesis =>
      subst samePolicy
      obtain ⟨reply, after⟩ := recordFailure_of_unlocked inRange unlocked few
      have countSince :
          (tracker.policy.young now (record.since ++ [now])).length =
            (tracker.policy.young now record.since).length + 1 := by
        rw [LockoutPolicy.young_append,
          LockoutPolicy.young_now _ inRange.window]
        simp
      have triggers :
          record.triggers tracker.policy now =
            decide
              (tracker.policy.maxFailures ≤
                (tracker.policy.young now record.since).length + 1) := by
        simp [LockoutRecord.triggers, inactive, countSince]
      have split := fun count => agree (count + 1)
      simp only [List.replicate_succ, replies_cons, LockoutPolicy.answers,
        List.cons.injEq, LockoutPolicy.answer, LockoutOp.ip, isRecord,
        exec, reply, triggers] at split
      have sameReply := decide_eq_decide.mp (split 0).1
      by_cases enough :
          tracker.policy.maxFailures ≤ tracker.recent now ip + 1
      · have enoughSince := sameReply.mp enough
        omega
      · have notEnoughSince := fun most => enough (sameReply.mpr most)
        obtain ⟨unlockedAfter, recentAfter⟩ := after (Nat.not_le.mp enough)
        have recordAfter :
            .ofTimes tracker.policy
                (failureTimes ip
                  (before ++ [⟨now, .recordFailure ip⟩])) =
              { record with since := record.since ++ [now] } := by
          rw [failureTimes_snoc, if_pos rfl, LockoutRecord.ofTimes_snoc,
            isRecord, LockoutRecord.fail, inactive, triggers,
            decide_eq_false notEnoughSince]
          rfl
        have fewAfter :
            (tracker.policy.young now (record.since ++ [now])).length <
              tracker.policy.maxFailures := by
          omega
        have next :
            (tracker.recordFailure now ip).2.recent now ip =
              (tracker.policy.young now (record.since ++ [now])).length :=
          inductionHypothesis recordFailure_spec.1 recordAfter
            unlockedAfter inactive (by omega) fewAfter
            (fun count => (split count).2) (by omega)
        omega

/-- If no failures whatsoever can tell the tracker from the reference after a call,
the call was careful. -/
theorem Follows.careful
    (inRange : InRange policy)
    (follows : Follows policy before tracked)
    (onward : tracked.now ≤ call.now)
    (agree :
      ∀ more, (∀ other ∈ more, other.now = call.now) →
        (∀ other ∈ more, ∃ ip, other.op = .recordFailure ip) →
        (exec tracked.object call.now call.op).1.replies more =
          policy.answers (before ++ [call]) more) :
    Careful tracked call := by
  intro ip isCheck expired
  obtain ⟨now, op⟩ := call
  cases isCheck
  obtain ⟨rfl, entries⟩ := follows
  have mirrors := (entries ip).later onward
  have dropped :
      (tracked.object.isLockedOut now ip).2.entry ip = {} := by
    rw [entry_isLockedOut, if_pos ⟨rfl, expired⟩]
  have noneRecent :
      (tracked.object.isLockedOut now ip).2.recent now ip = 0 := by
    rw [recent, dropped]
    rfl
  have sameYoung := mirrors.young now (Nat.le_refl now)
  have shorter :
      (tracked.object.policy.young now
        (tracked.object.entry ip).failures).length ≤
        (tracked.object.entry ip).failures.length :=
    List.length_filter_le _ _
  have few := mirrors.few
  have positive := inRange.positive
  have same :
      (tracked.object.isLockedOut now ip).2.recent now ip =
        (tracked.object.policy.young now
          (LockoutRecord.ofTimes tracked.object.policy
            (failureTimes ip before)).since).length := by
    refine
      @recent_eq_of_agreement _ now ip tracked.object.policy _
        (before ++ [⟨now, .isLockedOut ip⟩]) inRange policy_isLockedOut
        ?_ ?_ ?_ ?_ ?_ ?_
    · rw [failureTimes_snoc, if_neg nofun, List.append_nil]
    · rw [dropped]
      rfl
    · rw [← mirrors.locked now (Nat.le_refl now)]
      exact IpState.locked_of_expired expired (Nat.le_refl now)
    · omega
    · rw [← sameYoung]
      omega
    · intro count
      apply agree
      · intro other member
        rw [List.eq_of_mem_replicate member]
      · intro other member
        exact ⟨ip, by rw [List.eq_of_mem_replicate member]⟩
  rw [noneRecent, ← sameYoung] at same
  exact List.length_eq_zero_iff.mp same.symm

/-- Calls at the present time are always possible. -/
theorem enabled_at_present {more : List LockoutCall}
    (present : ∀ call ∈ more, call.now = tracked.now) :
    ((machine policy).run tracked more).isSome = true := by
  induction more generalizing tracked with
  | nil => rfl
  | cons call rest inductionHypothesis =>
      have now : call.now = tracked.now := present call List.mem_cons_self
      have stepped :
          (machine policy).step tracked call =
            some
              { now := call.now
                object := (exec tracked.object call.now call.op).1 } :=
        Clocked.step_eq_some.mpr ⟨Nat.le_of_eq now.symm, rfl⟩
      rw [(machine policy).run_cons, stepped, Option.bind_some]
      apply inductionHypothesis
      intro other member
      exact (present other (List.mem_cons_of_mem call member)).trans now.symm

/-- The replies to some calls are those of the reference. -/
def Agrees
    (policy : LockoutPolicy) (before : List LockoutCall)
    (tracked : Clocked.State LockoutTracker) (calls : List LockoutCall) :
    Prop :=
  ((machine policy).run tracked calls).isSome = true →
    tracked.object.replies calls = policy.answers before calls

/-- The replies to every part of the calls from the start, followed by any
failures, are those of the reference. -/
def AgreesThroughout
    (policy : LockoutPolicy) (before : List LockoutCall)
    (tracked : Clocked.State LockoutTracker) (calls : List LockoutCall) :
    Prop :=
  ∀ done more, done <+: calls →
    (∀ call ∈ more, ∃ ip, call.op = .recordFailure ip) →
    Agrees policy before tracked (done ++ more)

/-- After a call that is answered alike, the agreement is that of the rest. -/
theorem agrees_cons
    (onward : tracked.now ≤ call.now)
    (reply :
      (exec tracked.object call.now call.op).2 =
        policy.answer before call)
    (rest : List LockoutCall) :
    Agrees policy before tracked (call :: rest) ↔
      Agrees policy (before ++ [call])
        { now := call.now
          object := (exec tracked.object call.now call.op).1 } rest := by
  have stepped :
      (machine policy).step tracked call =
        some
          { now := call.now
            object := (exec tracked.object call.now call.op).1 } :=
    Clocked.step_eq_some.mpr ⟨onward, rfl⟩
  unfold Agrees
  rw [(machine policy).run_cons, stepped, Option.bind_some, replies_cons,
    LockoutPolicy.answers, reply, List.cons.injEq]
  simp only [true_and]

theorem Follows.agreesThroughout_iff
    (inRange : InRange policy) {calls : List LockoutCall}
    (follows : Follows policy before tracked)
    (enabled : ((machine policy).run tracked calls).isSome = true) :
    AgreesThroughout policy before tracked calls ↔
      (machine policy).Along Careful tracked calls := by
  induction calls generalizing before tracked with
  | nil =>
      refine ⟨fun _ => trivial, ?_⟩
      intro _ done more isPrefix failures
      rw [List.prefix_nil.mp isPrefix]
      exact follows.failures inRange failures
  | cons call rest inductionHypothesis =>
      obtain ⟨target, ran⟩ := Option.isSome_iff_exists.mp enabled
      obtain ⟨next, stepped, remaining⟩ :=
        ((machine policy).run_cons_eq_some).mp ran
      obtain ⟨onward, isNext⟩ := Clocked.step_eq_some.mp stepped
      have enabledRest : ((machine policy).run next rest).isSome = true :=
        Option.isSome_iff_exists.mpr ⟨target, remaining⟩
      constructor
      · intro throughout
        have careful : Careful tracked call := by
          apply follows.careful inRange onward
          intro more present failures
          have agrees := throughout [call] more ⟨rest, rfl⟩ failures
          have possible :
              ((machine policy).run tracked
                ([call] ++ more)).isSome = true := by
            rw [List.singleton_append, (machine policy).run_cons, stepped,
              Option.bind_some]
            apply enabled_at_present
            intro other member
            rw [isNext]
            exact present other member
          have sameReplies := agrees possible
          rw [List.singleton_append, replies_cons,
            LockoutPolicy.answers] at sameReplies
          exact (List.cons.inj sameReplies).2
        obtain ⟨reply, kept⟩ := follows.step inRange careful onward
        rw [← isNext] at kept
        refine (machine policy).along_cons stepped careful ?_
        apply (inductionHypothesis kept enabledRest).mp
        intro done more isPrefix failures
        have agrees :=
          throughout (call :: done) more
            (List.cons_prefix_cons.mpr ⟨rfl, isPrefix⟩) failures
        rw [List.cons_append, agrees_cons onward reply, ← isNext] at agrees
        exact agrees
      · intro along done more isPrefix failures
        obtain ⟨reply, kept⟩ := follows.step inRange along.1 onward
        rw [← isNext] at kept
        cases done with
        | nil => exact follows.failures inRange failures
        | cons first others =>
            obtain ⟨rfl, shorter⟩ := List.cons_prefix_cons.mp isPrefix
            rw [List.cons_append, agrees_cons onward reply, ← isNext]
            exact
              (inductionHypothesis kept enabledRest).mpr
                (along.2 next stepped) others more shorter failures

/-- Five failures in ten minutes lock a source out for ten minutes. -/
def defaultPolicy : LockoutPolicy where
  maxFailures := 5
  window := 600000000000
  lockoutDuration := 600000000000

theorem inRange_defaultPolicy : InRange defaultPolicy where
  positive := by decide
  bounded := by decide
  window := by decide

def failureAt (now : Nat) : LockoutCall where
  now := now
  op := .recordFailure (.v4 0x7f000001)

def checkAt (now : Nat) : LockoutCall where
  now := now
  op := .isLockedOut (.v4 0x7f000001)

/-- A lockout, and a look at it before and after its expiry. -/
def orderlyCalls : List LockoutCall :=
  [failureAt 0, failureAt 0, failureAt 0, failureAt 0, failureAt 0,
    checkAt 1, checkAt 600000000000, failureAt 600000000000]

/-- A lockout, a failure after its expiry, a look at the source, and four more
failures. -/
def droppedCalls : List LockoutCall :=
  [failureAt 0, failureAt 0, failureAt 0, failureAt 0, failureAt 0,
    failureAt 600000000000, checkAt 600000000000,
    failureAt 600000000000, failureAt 600000000000,
    failureAt 600000000000, failureAt 600000000000]

end LockoutTracker

end HollerServer.Wire
