import HollerServer.Lib.FiniteMap
import HollerServer.Lib.Text
import Mathlib.Data.List.Sort
import Mathlib.Data.String.Basic

/-!
# The roster of advertised sessions

The data and the operations of `src/wire/roster.rs`.  Rows are keyed by session
name.  A row keeps the time it was last refreshed and a mark for the connections
the server knows to be over; whether it is connected, reconnecting or gone is
computed from these two whenever the row is read.

Times and durations are in nanoseconds.  `Instant::now()` is an argument of the
operations that read the clock.
-/

namespace HollerServer.Wire

inductive RosterState where
  | connected
  | reconnecting
  | gone
  deriving DecidableEq, Repr

structure RosterConfig where
  reconnectAfter : Nat
  goneAfter : Nat
  pruneAfter : Nat
  sweepInterval : Nat
  deriving DecidableEq, Repr

namespace RosterConfig

def fromSecs (seconds : Nat) : Nat :=
  seconds * 1000000000

def fromMillis (millis : Nat) : Nat :=
  millis * 1000000

def default : RosterConfig :=
  let goneAfter := fromSecs 180
  { reconnectAfter := fromSecs 45
    goneAfter
    pruneAfter := goneAfter * 2
    sweepInterval := fromSecs 30 }

/-- A duration in milliseconds from an environment variable. -/
def envDurationMs (env : String → Option String) (key : String) :
    Option Nat :=
  (env key).bind fun value =>
    (Text.parseUnsigned UInt64.size (Text.trim value)).map fromMillis

/-- `RosterConfig::from_env`; `env` is the environment as far as it is valid
Unicode. -/
def fromEnv (env : String → Option String) : RosterConfig :=
  let goneAfter :=
    (envDurationMs env "HOLLER_ROSTER_GONE_MS").getD default.goneAfter
  { reconnectAfter :=
      (envDurationMs env "HOLLER_ROSTER_RECONNECT_MS").getD
        default.reconnectAfter
    goneAfter
    pruneAfter :=
      (envDurationMs env "HOLLER_ROSTER_PRUNE_MS").getD (goneAfter * 2)
    sweepInterval :=
      (envDurationMs env "HOLLER_ROSTER_SWEEP_MS").getD
        default.sweepInterval }

end RosterConfig

/-- One session's row. -/
structure RosterEntry where
  harness : String
  tokenId : String
  clientId : String
  lastSeen : Nat
  goneNow : Bool
  mode : Option String
  harnessSessionId : Option String
  blocked : Bool
  deriving DecidableEq, Repr

/-- The state of a row as of now. -/
def RosterEntry.stateAt
    (entry : RosterEntry) (now : Nat) (config : RosterConfig) :
    RosterState :=
  if entry.goneNow then .gone
  else
    let elapsed := now - entry.lastSeen
    if config.goneAfter ≤ elapsed then .gone
    else if config.reconnectAfter ≤ elapsed then .reconnecting
    else .connected

/-- A row of a snapshot. -/
structure RosterRow where
  name : String
  harness : String
  clientId : String
  state : RosterState
  lastSeenMsAgo : Nat
  mode : Option String
  harnessSessionId : Option String
  blocked : Bool
  deriving DecidableEq, Repr

structure RosterConflict where
  session : String
  heldByClientId : String
  deriving DecidableEq, Repr

/-- What a client says about one session it hosts. -/
structure PresenceSession where
  name : String
  harness : String
  mode : Option String
  harnessSessionId : Option String
  deriving DecidableEq, Repr

structure Roster where
  entries : FiniteMap String RosterEntry
  config : RosterConfig

namespace Roster

def new (config : RosterConfig) : Roster where
  entries := ∅
  config := config

def get? (roster : Roster) (name : String) : Option RosterEntry :=
  roster.entries.get? name

/-- The row is not gone as of now. -/
def live (roster : Roster) (now : Nat) (entry : RosterEntry) : Bool :=
  entry.stateAt now roster.config ≠ .gone

/-- The row a successful advertisement leaves. -/
def advertisedEntry
    (now : Nat) (session : PresenceSession) (tokenId clientId : String) :
    RosterEntry where
  harness := session.harness
  tokenId := tokenId
  clientId := clientId
  lastSeen := now
  goneNow := false
  mode := session.mode
  harnessSessionId := session.harnessSessionId
  blocked := false

/-- `advertise_with_mode`: a name that another client holds and that is not gone
is refused. -/
def advertiseWithMode
    (roster : Roster) (now : Nat) (session : PresenceSession)
    (tokenId clientId : String) : Roster × Except RosterConflict Unit :=
  let inserted :=
    { roster with
      entries := roster.entries.put session.name
        (advertisedEntry now session tokenId clientId) }
  match roster.get? session.name with
  | some existing =>
      if existing.tokenId ≠ tokenId ∧ roster.live now existing then
        (roster,
          .error
            { session := session.name
              heldByClientId := existing.clientId })
      else (inserted, .ok ())
  | none => (inserted, .ok ())

/-- Update the rows a client owns. -/
def updateOwned
    (roster : Roster) (tokenId : String)
    (update : RosterEntry → RosterEntry) : Roster :=
  { roster with
    entries := roster.entries.mapValues fun entry =>
      if entry.tokenId = tokenId then update entry else entry }

def touchClient (roster : Roster) (now : Nat) (tokenId : String) : Roster :=
  roster.updateOwned tokenId fun entry => { entry with lastSeen := now }

def setBlocked
    (roster : Roster) (name : String) (blocked : Bool) : Roster :=
  { roster with
    entries := roster.entries.modify name fun entry =>
      { entry with blocked := blocked } }

def markGone (roster : Roster) (tokenId : String) : Roster :=
  roster.updateOwned tokenId fun entry => { entry with goneNow := true }

def resolveSession
    (roster : Roster) (now : Nat) (name : String) : Option String :=
  (roster.get? name).bind fun entry =>
    if entry.stateAt now roster.config = .gone then none
    else some entry.tokenId

def liveCount (roster : Roster) (now : Nat) : Nat :=
  (roster.entries.values.filter (roster.live now)).length

/-- The row of a snapshot for one entry. -/
def row (roster : Roster) (now : Nat) (name : String)
    (entry : RosterEntry) : RosterRow where
  name := name
  harness := entry.harness
  clientId := entry.clientId
  state := entry.stateAt now roster.config
  lastSeenMsAgo := (now - entry.lastSeen) / 1000000
  mode := entry.mode
  harnessSessionId := entry.harnessSessionId
  blocked := entry.blocked

def snapshot (roster : Roster) (now : Nat) : List RosterRow :=
  (roster.entries.pairs.map fun entry =>
    roster.row now entry.1 entry.2).insertionSort
      fun first second => first.name ≤ second.name

def prune (roster : Roster) (now : Nat) : Roster :=
  { roster with
    entries := roster.entries.retain fun entry =>
      now - entry.lastSeen < roster.config.pruneAfter }

theorem live_iff
    {roster : Roster} {now : Nat} {entry : RosterEntry} :
    roster.live now entry = true ↔
      entry.goneNow = false ∧
        now - entry.lastSeen < roster.config.goneAfter := by
  unfold live RosterEntry.stateAt
  cases entry.goneNow with
  | true => simp
  | false =>
      simp only [Bool.false_eq_true, if_false, ne_eq, decide_not,
        Bool.not_eq_eq_eq_not, Bool.not_true, decide_eq_false_iff_not,
        true_and]
      split
      next aged => simp [aged]
      next young =>
        simp only [Nat.not_le.mp young, iff_true]
        split <;> simp

@[simp]
theorem get?_new (config : RosterConfig) (name : String) :
    (new config).get? name = none :=
  FiniteMap.get?_empty name

theorem get?_updateOwned
    (roster : Roster) (tokenId : String)
    (update : RosterEntry → RosterEntry) (name : String) :
    (roster.updateOwned tokenId update).get? name =
      (roster.get? name).map fun entry =>
        if entry.tokenId = tokenId then update entry else entry :=
  roster.entries.get?_mapValues _ name

/-- An update of the rows of a client, seen from one name. -/
theorem updateOwned_cases
    (roster : Roster) (tokenId : String)
    (update : RosterEntry → RosterEntry) (name : String) :
    (∃ entry, roster.get? name = some entry ∧ entry.tokenId = tokenId ∧
      (roster.updateOwned tokenId update).get? name =
        some (update entry)) ∨
    (∀ entry, roster.get? name = some entry → entry.tokenId ≠ tokenId) ∧
      (roster.updateOwned tokenId update).get? name =
        roster.get? name := by
  rw [get?_updateOwned]
  cases found : roster.get? name with
  | none => exact Or.inr ⟨nofun, rfl⟩
  | some entry =>
      by_cases same : entry.tokenId = tokenId
      · exact Or.inl ⟨entry, rfl, same, by simp [same]⟩
      · refine Or.inr ⟨?_, by simp [same]⟩
        intro other isEntry
        cases isEntry
        exact same

theorem get?_setBlocked
    (roster : Roster) (name name' : String) (blocked : Bool) :
    (roster.setBlocked name blocked).get? name' =
      if name' = name then
        (roster.get? name).map fun entry =>
          { entry with blocked := blocked }
      else roster.get? name' :=
  roster.entries.get?_modify name name' _

theorem get?_prune (roster : Roster) (now : Nat) (name : String) :
    (roster.prune now).get? name =
      (roster.get? name).filter fun entry =>
        now - entry.lastSeen < roster.config.pruneAfter :=
  roster.entries.get?_retain _ name

/-- Nobody else holds the name. -/
def Free
    (roster : Roster) (now : Nat) (name tokenId : String) : Prop :=
  ∀ existing, roster.get? name = some existing →
    existing.tokenId = tokenId ∨ roster.live now existing = false

/-- An advertisement succeeds exactly if nobody else holds the name. -/
inductive Advertises
    (roster : Roster) (now : Nat) (session : PresenceSession)
    (tokenId clientId : String) :
    Roster × Except RosterConflict Unit → Prop
  | inserted (free : roster.Free now session.name tokenId) :
      Advertises roster now session tokenId clientId
        ({ roster with
            entries := roster.entries.put session.name
              (advertisedEntry now session tokenId clientId) },
          .ok ())
  | refused {existing : RosterEntry}
      (held : roster.get? session.name = some existing)
      (other : existing.tokenId ≠ tokenId)
      (live : roster.live now existing = true) :
      Advertises roster now session tokenId clientId
        (roster,
          .error
            { session := session.name
              heldByClientId := existing.clientId })

theorem advertises_advertiseWithMode
    (roster : Roster) (now : Nat) (session : PresenceSession)
    (tokenId clientId : String) :
    Advertises roster now session tokenId clientId
      (roster.advertiseWithMode now session tokenId clientId) := by
  unfold advertiseWithMode
  split
  next existing held =>
    split
    next conflict =>
      exact .refused held conflict.1 conflict.2
    next agreed =>
      refine .inserted ?_
      intro existing' held'
      cases held.symm.trans held'
      by_cases same : existing.tokenId = tokenId
      · exact Or.inl same
      · refine Or.inr (Bool.eq_false_iff.mpr ?_)
        intro live
        exact agreed ⟨same, live⟩
  next absent =>
    refine .inserted ?_
    intro existing held
    cases absent.symm.trans held

theorem advertiseWithMode_ok
    {roster : Roster} {now : Nat} {session : PresenceSession}
    {tokenId clientId : String} :
    (roster.advertiseWithMode now session tokenId clientId).2 = .ok () ↔
      roster.Free now session.name tokenId := by
  have advertises :=
    roster.advertises_advertiseWithMode now session tokenId clientId
  generalize roster.advertiseWithMode now session tokenId clientId =
    result at advertises ⊢
  cases advertises with
  | inserted free => exact ⟨fun _ => free, fun _ => rfl⟩
  | refused held other live =>
      refine ⟨nofun, ?_⟩
      intro free
      rcases free _ held with same | gone
      · exact absurd same other
      · rw [gone] at live
        cases live

theorem resolveSession_eq_some
    {roster : Roster} {now : Nat} {name tokenId : String} :
    roster.resolveSession now name = some tokenId ↔
      ∃ entry, roster.get? name = some entry ∧
        roster.live now entry = true ∧ entry.tokenId = tokenId := by
  unfold resolveSession live
  rw [Option.bind_eq_some_iff]
  simp

/-! ## Snapshots -/

theorem mem_snapshot
    {roster : Roster} {now : Nat} {line : RosterRow} :
    line ∈ roster.snapshot now ↔
      ∃ name entry, roster.get? name = some entry ∧
        roster.row now name entry = line := by
  unfold snapshot get?
  rw [List.mem_insertionSort, List.mem_map]
  constructor
  · rintro ⟨⟨name, entry⟩, member, same⟩
    exact ⟨name, entry, FiniteMap.mem_pairs.mp member, same⟩
  · rintro ⟨name, entry, found, same⟩
    exact ⟨(name, entry), FiniteMap.mem_pairs.mpr found, same⟩

/-- A snapshot is sorted by name, and no name occurs twice. -/
theorem sorted_snapshot (roster : Roster) (now : Nat) :
    ((roster.snapshot now).map RosterRow.name).Pairwise (· < ·) := by
  have ordered :
      ((roster.snapshot now).map RosterRow.name).Pairwise (· ≤ ·) := by
    rw [List.pairwise_map]
    have total :
        Std.Total fun first second : RosterRow =>
          first.name ≤ second.name :=
      ⟨fun first second => le_total first.name second.name⟩
    have transitive :
        IsTrans RosterRow fun first second => first.name ≤ second.name :=
      ⟨fun _ _ _ => le_trans⟩
    exact List.pairwise_insertionSort _ _
  have distinct :
      ((roster.snapshot now).map RosterRow.name).Nodup := by
    have names := roster.entries.nodup_keys_pairs
    have permuted :=
      (List.perm_insertionSort
        (fun first second : RosterRow => first.name ≤ second.name)
        (roster.entries.pairs.map fun entry =>
          roster.row now entry.1 entry.2)).map RosterRow.name
    refine permuted.nodup_iff.mpr ?_
    rw [List.map_map]
    exact names
  exact
    (ordered.and distinct).imp fun both => lt_of_le_of_ne both.1 both.2

/-- The live rows of a snapshot are as many as the roster counts. -/
theorem liveCount_eq_length (roster : Roster) (now : Nat) :
    roster.liveCount now =
      ((roster.snapshot now).filter fun line =>
        line.state ≠ .gone).length := by
  have permuted :=
    (List.perm_insertionSort
      (fun first second : RosterRow => first.name ≤ second.name)
      (roster.entries.pairs.map fun entry =>
        roster.row now entry.1 entry.2)).filter
      fun line => line.state ≠ .gone
  unfold snapshot
  rw [permuted.length_eq, List.filter_map, List.length_map]
  unfold liveCount FiniteMap.values FiniteMap.pairs
  rw [List.filter_map, List.filter_map, List.length_map, List.length_map]
  rfl

end Roster

end HollerServer.Wire
