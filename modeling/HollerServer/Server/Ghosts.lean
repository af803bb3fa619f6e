import HollerServer.Server.Hub

/-!
# Sessions a client no longer advertises

A presence frame adds rows and removes none, and a ping refreshes every row of
its token.  A row that its client has stopped advertising fades away exactly if
no connection of the client pings while it is still there.
-/

namespace HollerServer.Server.Hub

open HollerServer.Token
open HollerServer.Wire
open Transition

/-- An entry is connected while its last refresh is recent and nothing has marked
it. -/
theorem stateAt_connected_iff
    {entry : RosterEntry} {now : Nat} {config : RosterConfig} :
    entry.stateAt now config = .connected ↔
      entry.goneNow = false ∧ now - entry.lastSeen < config.goneAfter ∧
        now - entry.lastSeen < config.reconnectAfter := by
  unfold RosterEntry.stateAt
  cases entry.goneNow with
  | true => simp
  | false =>
      simp only [Bool.false_eq_true, if_false, true_and]
      split
      next aged => simp [Nat.not_lt.mpr aged]
      next young =>
        rw [Nat.not_le] at young
        simp only [young, true_and]
        split
        next late => simp [Nat.not_lt.mpr late]
        next recent => simp [Nat.not_le.mp recent]

theorem stateAt_gone_of_le
    {entry : RosterEntry} {now : Nat} {config : RosterConfig}
    (aged : config.goneAfter ≤ now - entry.lastSeen) :
    entry.stateAt now config = .gone := by
  unfold RosterEntry.stateAt
  split
  next => rfl
  next => exact if_pos aged

/-- The action advertises the name for the token. -/
def Advertises
    (tokenId name : String) (hub : Hub) (action : Action) : Prop :=
  ∃ id session, action = .chore id ∧
    hub.Performs tokenId (.advertise session) id ∧ session.name = name

/-- If a connection of the token pings, the row of that name is not the token's,
or was refreshed this very moment. -/
def SparesRow
    (tokenId name : String) (hub : Hub) (action : Action) : Prop :=
  ∀ id entry, action = .chore id →
    hub.Performs tokenId .touchClient id →
    hub.roster.get? name = some entry → entry.tokenId = tokenId →
    entry.lastSeen = hub.now

/-- From an earlier state to a later one, the row of the token has not been
refreshed: a row that is there now was there before, with the same last refresh,
and is connected now only if it was connected before. -/
def Fades (tokenId name : String) (earlier later : Hub) : Prop :=
  ∀ entry', later.roster.get? name = some entry' →
    entry'.tokenId = tokenId →
    ∃ entry, earlier.roster.get? name = some entry ∧
      entry.tokenId = tokenId ∧
      entry'.lastSeen = entry.lastSeen ∧
      (entry'.stateAt later.now later.roster.config = .connected →
        entry.stateAt earlier.now earlier.roster.config = .connected)

variable {crates : Crates} {pepper : List UInt8} {hub next : Hub}
  {tokenId name : String}

theorem Fades.refl (hub : Hub) : Fades tokenId name hub hub :=
  fun entry found owner => ⟨entry, found, owner, rfl, id⟩

theorem Fades.trans {first second third : Hub}
    (earlier : Fades tokenId name first second)
    (later : Fades tokenId name second third) :
    Fades tokenId name first third := by
  intro entry found owner
  obtain ⟨middle, foundMiddle, ownerMiddle, sameSeen, back⟩ :=
    later entry found owner
  obtain ⟨origin, foundOrigin, ownerOrigin, sameOrigin, backOrigin⟩ :=
    earlier middle foundMiddle ownerMiddle
  exact
    ⟨origin, foundOrigin, ownerOrigin, sameSeen.trans sameOrigin,
      fun connected => backOrigin (back connected)⟩

/-- A step that neither advertises the row nor refreshes it lets it fade. -/
theorem fades_step {action : Action}
    (unnamed : ¬Advertises tokenId name hub action)
    (spares : SparesRow tokenId name hub action)
    (stepped : hub.step crates pepper action = some next) :
    Fades tokenId name hub next := by
  intro entry' found' owner'
  have forward := now_le_step stepped
  have sameConfig := config_step stepped
  cases row_step stepped found' owner' with
  | @kept _ entry _ found owner lastSeen gone =>
      refine ⟨entry, found, owner, lastSeen, ?_⟩
      rw [sameConfig, stateAt_connected_iff, stateAt_connected_iff,
        lastSeen]
      rintro ⟨notGone, young, recent⟩
      refine ⟨?_, by omega, by omega⟩
      rw [Bool.eq_false_iff] at notGone ⊢
      exact fun marked => notGone (gone marked)
  | @touched actor entry performs found owner =>
      have sameSeen := spares actor entry rfl performs found owner
      refine ⟨entry, found, owner, sameSeen.symm, ?_⟩
      rw [sameConfig, stateAt_connected_iff, stateAt_connected_iff]
      rintro ⟨notGone, young, recent⟩
      exact ⟨notGone, by omega, by omega⟩
  | @advertised actor session clientId performs named =>
      exact absurd ⟨actor, session, rfl, performs, named⟩ unnamed

/-- A refresh at a later time shows in the row. -/
theorem lastSeen_of_touch {id : ConnId} {entry : RosterEntry}
    (performs : hub.Performs tokenId .touchClient id)
    (found : hub.roster.get? name = some entry)
    (owner : entry.tokenId = tokenId)
    (stepped : hub.step crates pepper (.chore id) = some next) :
    next.roster.get? name = some { entry with lastSeen := hub.now } := by
  obtain ⟨⟨conn, foundConn, token⟩, rest, todo⟩ := performs
  obtain ⟨conn', chore, rest', foundConn', todo', rfl⟩ :=
    step_chore stepped
  cases foundConn.symm.trans foundConn'
  cases todo.symm.trans todo'
  have touched :=
    hub.roster.get?_updateOwned conn.tokenId
      (fun entry => { entry with lastSeen := hub.now }) name
  rw [found, Option.map_some, if_pos (owner.trans token.symm)] at touched
  exact touched

/-- The last refresh of the row, as long as it is the token's. -/
def SeenAt
    (tokenId name : String) (seen : Nat) (hub : Hub) : Prop :=
  ∀ entry, hub.roster.get? name = some entry →
    entry.tokenId = tokenId → entry.lastSeen = seen

theorem SeenAt.of_found {entry : RosterEntry}
    (found : hub.roster.get? name = some entry) :
    SeenAt tokenId name entry.lastSeen hub := by
  intro entry' found' _
  cases found.symm.trans found'
  rfl

theorem SeenAt.of_fades {seen : Nat}
    (seenAt : SeenAt tokenId name seen hub)
    (fades : Fades tokenId name hub next) :
    SeenAt tokenId name seen next := by
  intro entry' found' owner'
  obtain ⟨entry, found, owner, sameSeen, _⟩ := fades entry' found' owner'
  exact sameSeen.trans (seenAt entry found owner)

/-- If the last refresh of the row does not change in a step, the step spares the
row. -/
theorem sparesRow_of_seenAt {seen : Nat} {action : Action}
    (seenAt : SeenAt tokenId name seen hub)
    (stepped : hub.step crates pepper action = some next)
    (seenAtNext : SeenAt tokenId name seen next) :
    SparesRow tokenId name hub action := by
  rintro id entry rfl performs found owner
  have found' := lastSeen_of_touch performs found owner stepped
  have isNow : hub.now = seen := seenAtNext _ found' owner
  rw [isNow]
  exact seenAt entry found owner

variable {config : RosterConfig}

/-- A run that neither advertises the row nor refreshes it lets it fade. -/
theorem fades_run {actions : List Action} {target : Hub}
    (unnamed :
      (machine crates pepper config).Along
        (fun hub action => ¬Advertises tokenId name hub action) hub
        actions)
    (spares :
      (machine crates pepper config).Along (SparesRow tokenId name) hub
        actions)
    (reached :
      (machine crates pepper config).run hub actions = some target) :
    Fades tokenId name hub target := by
  induction actions generalizing hub with
  | nil =>
      cases reached
      exact Fades.refl _
  | cons action rest inductionHypothesis =>
      obtain ⟨middle, stepped, remaining⟩ :=
        (Machine.run_cons_eq_some _).mp reached
      exact
        (fades_step unnamed.1 spares.1 stepped).trans
          (inductionHypothesis (unnamed.2 middle stepped)
            (spares.2 middle stepped) remaining)

/-- A row of a token, and a run in which no connection of the token advertises its
name: for instance after a presence frame that does not name it.  The row is never
refreshed, never returns to connected and is gone once `gone_after` has passed
since its last refresh, exactly if no connection of the token pings while the row
is still the token's, at a time later than its last refresh. -/
theorem no_ghost_session_iff
    {start : Hub} {entry : RosterEntry} {run : List Action}
    (found : start.roster.get? name = some entry)
    (enabled :
      ((machine crates pepper config).run start run).isSome = true)
    (unnamed :
      (machine crates pepper config).Along
        (fun hub action => ¬Advertises tokenId name hub action) start
        run) :
    (∀ earlier later middle target,
      earlier ++ later <+: run →
      (machine crates pepper config).run start earlier = some middle →
      (machine crates pepper config).run middle later = some target →
      Fades tokenId name middle target ∧
        ∀ entry', target.roster.get? name = some entry' →
          entry'.tokenId = tokenId →
          entry.lastSeen + target.roster.config.goneAfter ≤ target.now →
          entry'.stateAt target.now target.roster.config = .gone) ↔
      (machine crates pepper config).Along (SparesRow tokenId name)
        start run := by
  constructor
  · intro fades
    refine
      (@Machine.prefixes_iff_along _ _ (machine crates pepper config)
        (fun hub action => ¬Advertises tokenId name hub action)
        (SparesRow tokenId name) (SeenAt tokenId name entry.lastSeen)
        ?_ ?_ run start (SeenAt.of_found found) enabled unnamed).mp ?_
    · intro hub action next seenAt unnamed spares stepped
      exact seenAt.of_fades (fades_step unnamed spares stepped)
    · intro hub action next seenAt _ stepped seenAtNext
      exact sparesRow_of_seenAt seenAt stepped seenAtNext
    · intro done target isPrefix reached
      exact
        (SeenAt.of_found found).of_fades
          (fades [] done start target isPrefix rfl reached).1
  · intro spares earlier later middle target isPrefix reachedMiddle
      reached
    obtain ⟨rest, rfl⟩ := isPrefix
    have unnamedDone := unnamed.of_append.1
    have sparesDone := spares.of_append.1
    refine
      ⟨fades_run (unnamedDone.of_append.2 middle reachedMiddle)
        (sparesDone.of_append.2 middle reachedMiddle) reached, ?_⟩
    intro entry' found' owner' aged
    have reachedDone :
        (machine crates pepper config).run start (earlier ++ later) =
          some target :=
      (Machine.run_append_eq_some _).mpr ⟨middle, reachedMiddle, reached⟩
    have sameSeen :=
      (SeenAt.of_found found).of_fades
        (fades_run unnamedDone sparesDone reachedDone) entry' found'
        owner'
    refine stateAt_gone_of_le ?_
    omega

end HollerServer.Server.Hub

namespace HollerServer.Server.Sample

open HollerServer.Token
open HollerServer.Token.Sample
open HollerServer.Wire
open Transition

/-- Connection 0 advertises two sessions and is lost. -/
def lostRun : List Hub.Action :=
  [wire (.register 0), wire (.hello 0 true),
    wire (.frame 0 (presence ["alpha", "beta"])), .chore 0, .chore 0,
    wire (.stop 0 false), wire (.teardown 0), wire (.finish 0)]

noncomputable def lostHub : Hub :=
  after presentedHub lostRun

theorem run_lostHub :
    machine.run machine.init (presented.map .serve ++ lostRun) =
      some lostHub :=
  (Machine.run_append_eq_some _).mpr ⟨presentedHub, run_presentedHub, rfl⟩

/-- Connection 1 advertises one of them. -/
def returnRun : List Hub.Action :=
  [wire (.register 1), wire (.hello 1 true),
    wire (.frame 1 (presence ["alpha"])), .chore 1]

noncomputable def returnHub : Hub :=
  after
    { lostHub with
      system :=
        { file := save .sample [seen]
          live := lostHub.live.setConn 1 sampleConn } }
    returnRun

theorem run_returnHub :
    machine.run machine.init
        (presented.map .serve ++ lostRun ++
          .serve (.auth 1 seenAt tokenId credential) :: returnRun) =
      some returnHub := by
  refine
    (Machine.run_append_eq_some _).mpr ⟨lostHub, run_lostHub, ?_⟩
  exact
    (Machine.run_cons_eq_some _).mpr
      ⟨_, step_auth_sample rfl exec_verify_seen rfl, rfl⟩

/-- The row of the other one. -/
def betaEntry : RosterEntry :=
  Roster.advertisedEntry 0
    { name := "beta"
      harness := "claude"
      mode := none
      harnessSessionId := none }
    tokenId clientId

theorem get?_returnHub :
    returnHub.roster.get? "beta" = some betaEntry :=
  rfl

/-- A ping of connection 1 after thirty seconds. -/
def heartbeatRun : List Hub.Action :=
  [wire (.tick 30000000000), wire (.frame 1 ping), .chore 1]

theorem heartbeatRun_does_not_advertise :
    machine.Along
      (fun hub action => ¬Hub.Advertises tokenId "beta" hub action)
      returnHub heartbeatRun := by
  have ticked :
      machine.step returnHub (wire (.tick 30000000000)) =
        some (after returnHub (heartbeatRun.take 1)) := rfl
  have framed :
      machine.step (after returnHub (heartbeatRun.take 1))
          (wire (.frame 1 ping)) =
        some (after returnHub (heartbeatRun.take 2)) := rfl
  have todo :
      ((after returnHub (heartbeatRun.take 2)).desk 1).todo =
        [.touchClient] := rfl
  refine machine.along_cons ticked ?_ (machine.along_cons framed ?_ ?_)
  · rintro ⟨_, _, isChore, _⟩
    cases isChore
  · rintro ⟨_, _, isChore, _⟩
    cases isChore
  · refine ⟨?_, fun _ _ => trivial⟩
    rintro ⟨id, session, isChore, ⟨_, rest, advertises⟩, _⟩
    cases isChore
    cases todo.symm.trans advertises

/-- A ping of the client refreshes the row of a session it no longer
advertises. -/
theorem heartbeatRun_refreshes_ghost :
    machine.run machine.init
        (presented.map .serve ++ lostRun ++
          .serve (.auth 1 seenAt tokenId credential) :: returnRun) =
      some returnHub ∧
    returnHub.roster.get? "beta" = some betaEntry ∧
    betaEntry.tokenId = tokenId ∧
    machine.Along
      (fun hub action => ¬Hub.Advertises tokenId "beta" hub action)
      returnHub heartbeatRun ∧
    ∃ target,
      machine.run returnHub heartbeatRun = some target ∧
      ¬Hub.Fades tokenId "beta" returnHub target := by
  refine
    ⟨run_returnHub, get?_returnHub, rfl, heartbeatRun_does_not_advertise,
      _, rfl, ?_⟩
  intro fades
  obtain ⟨entry, found, _, sameSeen, _⟩ := fades _ rfl rfl
  cases found.symm.trans get?_returnHub
  cases sameSeen

/-- Without a ping the session is gone after three minutes. -/
theorem no_ghost_session_iff_silent :
    ∃ target,
      machine.run returnHub [wire (.tick 180000000000)] = some target ∧
      Hub.Fades tokenId "beta" returnHub target ∧
      ∀ entry, target.roster.get? "beta" = some entry →
        entry.tokenId = tokenId →
        entry.stateAt target.now target.roster.config = .gone := by
  have unnamed :
      machine.Along
        (fun hub action => ¬Hub.Advertises tokenId "beta" hub action)
        returnHub [wire (.tick 180000000000)] := by
    refine ⟨?_, fun _ _ => trivial⟩
    rintro ⟨_, _, isChore, _⟩
    cases isChore
  have spares :
      machine.Along (Hub.SparesRow tokenId "beta") returnHub
        [wire (.tick 180000000000)] := by
    refine ⟨?_, fun _ _ => trivial⟩
    intro _ _ isChore
    cases isChore
  obtain ⟨fades, gone⟩ :=
    (Hub.no_ghost_session_iff get?_returnHub rfl unnamed).mpr spares []
      [wire (.tick 180000000000)] returnHub _ (List.prefix_refl _) rfl rfl
  refine ⟨_, rfl, fades, ?_⟩
  intro entry found owner
  exact gone entry found owner (Nat.le_refl _)

end HollerServer.Server.Sample
