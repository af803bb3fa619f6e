import HollerServer.Lib.Clocked
import HollerServer.Wire.Roster

/-!
# Runs of the roster

The operations of the roster as calls at non-decreasing times, and what one call
does to the row of one name.

A row that is live can only be refreshed by its own client, and no call takes it
away but a mark for that client or a prune that finds it too old.
-/

namespace HollerServer.Wire

open Transition

inductive RosterOp where
  | advertiseWithMode (session : PresenceSession) (tokenId clientId : String)
  | touchClient (tokenId : String)
  | setBlocked (name : String) (blocked : Bool)
  | markGone (tokenId : String)
  | prune
  | resolveSession (name : String)
  | liveCount
  | snapshot
  deriving DecidableEq, Repr

inductive RosterReply where
  | advertised (result : Except RosterConflict Unit)
  | done
  | resolved (tokenId : Option String)
  | count (rows : Nat)
  | rows (rows : List RosterRow)

abbrev RosterCall := Clocked.Call RosterOp

/-- The client of the token is heard from, as far as the row of the name is
concerned. -/
def RosterOp.refreshes (name tokenId : String) : RosterOp → Bool
  | .advertiseWithMode session tokenId' _ =>
      session.name = name && tokenId' = tokenId
  | .touchClient tokenId' => tokenId' = tokenId
  | _ => false

namespace Roster

/-- One call on the roster. -/
def exec (roster : Roster) (now : Nat) : RosterOp → Roster × RosterReply
  | .advertiseWithMode session tokenId clientId =>
      let (next, result) :=
        roster.advertiseWithMode now session tokenId clientId
      (next, .advertised result)
  | .touchClient tokenId => (roster.touchClient now tokenId, .done)
  | .setBlocked name blocked => (roster.setBlocked name blocked, .done)
  | .markGone tokenId => (roster.markGone tokenId, .done)
  | .prune => (roster.prune now, .done)
  | .resolveSession name =>
      (roster, .resolved (roster.resolveSession now name))
  | .liveCount => (roster, .count (roster.liveCount now))
  | .snapshot => (roster, .rows (roster.snapshot now))

/-- Calls at non-decreasing times on a roster that starts empty. -/
def machine (config : RosterConfig) :
    Machine (Clocked.State Roster) RosterCall :=
  Clocked.machine exec (new config)

/-- What a call does to the row of a name. -/
inductive RowStep (roster : Roster) (now : Nat) (name : String) :
    RosterOp → Option RosterEntry → Prop
  | advertised {session : PresenceSession} {tokenId clientId : String}
      (named : session.name = name)
      (free : roster.Free now name tokenId) :
      RowStep roster now name
        (.advertiseWithMode session tokenId clientId)
        (some (advertisedEntry now session tokenId clientId))
  | refused {session : PresenceSession} {tokenId clientId : String}
      {existing : RosterEntry}
      (held : roster.get? session.name = some existing)
      (other : existing.tokenId ≠ tokenId)
      (live : roster.live now existing = true) :
      RowStep roster now name
        (.advertiseWithMode session tokenId clientId)
        (roster.get? name)
  | advertisedOther {session : PresenceSession} {tokenId clientId : String}
      (different : session.name ≠ name) :
      RowStep roster now name
        (.advertiseWithMode session tokenId clientId)
        (roster.get? name)
  | touched {entry : RosterEntry} (found : roster.get? name = some entry) :
      RowStep roster now name (.touchClient entry.tokenId)
        (some { entry with lastSeen := now })
  | untouched {tokenId : String}
      (other :
        ∀ entry, roster.get? name = some entry → entry.tokenId ≠ tokenId) :
      RowStep roster now name (.touchClient tokenId) (roster.get? name)
  | marked {entry : RosterEntry} (found : roster.get? name = some entry) :
      RowStep roster now name (.markGone entry.tokenId)
        (some { entry with goneNow := true })
  | unmarked {tokenId : String}
      (other :
        ∀ entry, roster.get? name = some entry → entry.tokenId ≠ tokenId) :
      RowStep roster now name (.markGone tokenId) (roster.get? name)
  | blocked {entry : RosterEntry} {blocked : Bool}
      (found : roster.get? name = some entry) :
      RowStep roster now name (.setBlocked name blocked)
        (some { entry with blocked := blocked })
  | unblocked {name' : String} {blocked : Bool}
      (other : name' = name → roster.get? name = none) :
      RowStep roster now name (.setBlocked name' blocked)
        (roster.get? name)
  | pruned {entry : RosterEntry} (found : roster.get? name = some entry)
      (aged : roster.config.pruneAfter ≤ now - entry.lastSeen) :
      RowStep roster now name .prune none
  | retained
      (young :
        ∀ entry, roster.get? name = some entry →
          now - entry.lastSeen < roster.config.pruneAfter) :
      RowStep roster now name .prune (roster.get? name)
  | resolved {name' : String} :
      RowStep roster now name (.resolveSession name') (roster.get? name)
  | counted : RowStep roster now name .liveCount (roster.get? name)
  | listed : RowStep roster now name .snapshot (roster.get? name)

theorem RowStep.ofEq
    {roster : Roster} {now : Nat} {name : String} {op : RosterOp}
    {row row' : Option RosterEntry}
    (same : row' = row) (step : RowStep roster now name op row) :
    RowStep roster now name op row' :=
  same ▸ step

theorem row_step
    (roster : Roster) (now : Nat) (name : String) (op : RosterOp) :
    RowStep roster now name op ((roster.exec now op).1.get? name) := by
  cases op with
  | advertiseWithMode session tokenId clientId =>
      have advertises :=
        roster.advertises_advertiseWithMode now session tokenId clientId
      simp only [exec]
      generalize roster.advertiseWithMode now session tokenId clientId =
        result at advertises ⊢
      cases advertises with
      | inserted free =>
          have stored :=
            roster.entries.get?_put session.name name
              (advertisedEntry now session tokenId clientId)
          by_cases named : session.name = name
          · rw [if_pos named.symm] at stored
            exact .ofEq stored (.advertised named (named ▸ free))
          · rw [if_neg (Ne.symm named)] at stored
            exact .ofEq stored (.advertisedOther named)
      | refused held other live => exact .refused held other live
  | touchClient tokenId =>
      rcases roster.updateOwned_cases tokenId
        (fun entry => { entry with lastSeen := now }) name with
        ⟨entry, found, rfl, updated⟩ | ⟨other, same⟩
      · exact .ofEq updated (.touched found)
      · exact .ofEq same (.untouched other)
  | setBlocked name' blocked =>
      have stored := roster.get?_setBlocked name' name blocked
      by_cases same : name = name'
      · subst same
        rw [if_pos rfl] at stored
        cases found : roster.get? name with
        | none =>
            rw [found] at stored
            exact
              .ofEq (stored.trans found.symm) (.unblocked fun _ => found)
        | some entry =>
            rw [found] at stored
            exact .ofEq stored (.blocked found)
      · rw [if_neg same] at stored
        exact
          .ofEq stored (.unblocked fun equal => absurd equal.symm same)
  | markGone tokenId =>
      rcases roster.updateOwned_cases tokenId
        (fun entry => { entry with goneNow := true }) name with
        ⟨entry, found, rfl, updated⟩ | ⟨other, same⟩
      · exact .ofEq updated (.marked found)
      · exact .ofEq same (.unmarked other)
  | prune =>
      have stored := roster.get?_prune now name
      cases found : roster.get? name with
      | none =>
          rw [found] at stored
          refine .ofEq (stored.trans found.symm) (.retained ?_)
          intro entry isEntry
          cases found.symm.trans isEntry
      | some entry =>
          rw [found, Option.filter_some] at stored
          by_cases young :
              now - entry.lastSeen < roster.config.pruneAfter
          · rw [if_pos (decide_eq_true young)] at stored
            refine .ofEq (stored.trans found.symm) (.retained ?_)
            intro other isEntry
            cases found.symm.trans isEntry
            exact young
          · rw [if_neg (by simpa using young)] at stored
            exact .ofEq stored (.pruned found (Nat.not_lt.mp young))
  | resolveSession name' => exact .resolved
  | liveCount => exact .counted
  | snapshot => exact .listed

/-- A live row stays with its client: the client's own calls refresh it, other
calls leave its time and its mark. -/
theorem kept_step
    {roster : Roster} {now : Nat} {name : String} {op : RosterOp}
    {entry : RosterEntry}
    (found : roster.get? name = some entry)
    (live : roster.live now entry = true)
    (unmarked : op ≠ .markGone entry.tokenId)
    (unpruned :
      op = .prune → now - entry.lastSeen < roster.config.pruneAfter) :
    ∃ entry', (roster.exec now op).1.get? name = some entry' ∧
      entry'.tokenId = entry.tokenId ∧ entry'.goneNow = false ∧
      entry'.lastSeen =
        if op.refreshes name entry.tokenId then now
        else entry.lastSeen := by
  have notGone : entry.goneNow = false := (live_iff.mp live).1
  have step := roster.row_step now name op
  generalize (roster.exec now op).1.get? name = row at step
  cases step with
  | @advertised session tokenId clientId named free =>
      refine ⟨_, rfl, ?_, rfl, ?_⟩
      · rcases free entry found with same | gone
        · exact same.symm
        · rw [live] at gone
          cases gone
      · rcases free entry found with same | gone
        · simp [RosterOp.refreshes, advertisedEntry, named, same]
        · rw [live] at gone
          cases gone
  | @refused session tokenId clientId existing held other _ =>
      refine ⟨entry, found, rfl, notGone, ?_⟩
      have foreign :
          ¬ (session.name = name ∧ tokenId = entry.tokenId) := by
        rintro ⟨rfl, rfl⟩
        cases held.symm.trans found
        exact other rfl
      simp [RosterOp.refreshes, foreign]
  | advertisedOther different =>
      refine ⟨entry, found, rfl, notGone, ?_⟩
      simp [RosterOp.refreshes, different]
  | touched foundBefore =>
      cases foundBefore.symm.trans found
      exact ⟨_, rfl, rfl, notGone, by simp [RosterOp.refreshes]⟩
  | untouched other =>
      refine ⟨entry, found, rfl, notGone, ?_⟩
      simp [RosterOp.refreshes, Ne.symm (other entry found)]
  | marked foundBefore =>
      cases foundBefore.symm.trans found
      exact absurd rfl unmarked
  | blocked foundBefore =>
      cases foundBefore.symm.trans found
      exact ⟨_, rfl, rfl, notGone, by simp [RosterOp.refreshes]⟩
  | pruned foundBefore aged =>
      cases foundBefore.symm.trans found
      exact absurd (unpruned rfl) (Nat.not_lt.mpr aged)
  | unmarked _ | unblocked _ | retained _ | resolved | counted | listed =>
      exact
        ⟨entry, found, rfl, notGone, by simp [RosterOp.refreshes]⟩

/-- No call changes the configuration. -/
theorem config_exec (roster : Roster) (now : Nat) (op : RosterOp) :
    (roster.exec now op).1.config = roster.config := by
  cases op with
  | advertiseWithMode session tokenId clientId =>
      have advertises :=
        roster.advertises_advertiseWithMode now session tokenId clientId
      simp only [exec]
      generalize roster.advertiseWithMode now session tokenId clientId =
        result at advertises ⊢
      cases advertises <;> rfl
  | _ => rfl

theorem config_of_run
    {config : RosterConfig} {calls : List RosterCall}
    {state target : Clocked.State Roster}
    (ran : (machine config).run state calls = some target) :
    target.object.config = state.object.config := by
  refine
    @Transition.Machine.run_preserves _ _ (machine config)
      (fun later => later.object.config = state.object.config) ?_
      calls state target rfl ran
  intro middle call next same stepped
  obtain ⟨_, rfl⟩ := Clocked.step_eq_some.mp stepped
  exact (middle.object.config_exec call.now call.op).trans same

end Roster

end HollerServer.Wire
