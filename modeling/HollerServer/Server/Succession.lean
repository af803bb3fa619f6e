import HollerServer.Server.Retirement

/-!
# A connection and its successor

Two connection tasks of one token, the later of which has superseded the earlier.
The rows of the roster belong to the token, not to a connection: when the close of
the earlier connection is certain, its end marks the rows the later one has
advertised.  While the later one stays in its session loop, pings in time and the
token is not revoked, a session it advertised can be addressed throughout exactly
if no other connection of the token ends with a certain close.
-/

namespace HollerServer.Server.Hub

open HollerServer.Token
open HollerServer.Wire
open Transition

variable {crates : Crates} {pepper : List UInt8} {hub next : Hub}
  {tokenId name : String} {successor : ConnId} {since : Nat}
  {config : RosterConfig}

/-- The last sign of life of a connection: its advertisement, or its last
refresh. -/
def heardAt (since : Nat) (successor : ConnId) (hub : Hub) : Nat :=
  max since (hub.desk successor).touchedAt

/-- The successor is in its session loop and has been heard within
`reconnect_after`, also at the end of the step, and the step is not the second
half of a revoke of the token. -/
structure Attended
    (tokenId : String) (successor : ConnId) (since : Nat) (hub : Hub)
    (action : Action) : Prop where
  inSession : hub.InSession successor
  notRevoked : action ≠ .answerRevoke tokenId
  heard :
    hub.now + elapsed action - hub.heardAt since successor <
      hub.roster.config.reconnectAfter

/-- No other connection of the token ends with a certain close in this step. -/
def NoRivalClose
    (tokenId : String) (successor : ConnId) (hub : Hub)
    (action : Action) : Prop :=
  ∀ id, action = .serve (.wire (.finish id)) → id ≠ successor →
    hub.closed? id ≠ some tokenId

/-- The row of the name was refreshed whenever the successor was heard. -/
structure Tracked
    (config : RosterConfig) (tokenId name : String) (successor : ConnId)
    (since : Nat) (hub : Hub) : Prop where
  config : hub.roster.config = config
  conn : ∃ conn, hub.live.conns.get? successor = some conn ∧
    conn.tokenId = tokenId
  past : hub.heardAt since successor ≤ hub.now
  rows :
    ∀ entry, hub.roster.get? name = some entry →
      entry.tokenId = tokenId →
      hub.heardAt since successor ≤ entry.lastSeen

/-- Every row of a token was refreshed just now when one of its connections
pings. -/
theorem lastSeen_after_touch {id : ConnId} {entry' : RosterEntry}
    {conn : Conn} {rest : List RosterChore}
    (found' :
      (hub.perform id conn .touchClient rest).roster.get? name =
        some entry')
    (owner' : entry'.tokenId = conn.tokenId) :
    entry'.lastSeen = hub.now := by
  rcases hub.roster.updateOwned_cases conn.tokenId
    (fun entry => { entry with lastSeen := hub.now }) name with
    ⟨entry, _, _, touched⟩ | ⟨foreign, same⟩
  · cases touched.symm.trans found'
    rfl
  · exact absurd owner' (foreign entry' (same.symm.trans found'))

theorem conn_step {action : Action} {id : ConnId} {conn : Conn}
    (stepped : hub.step crates pepper action = some next)
    (found : hub.live.conns.get? id = some conn) :
    ∃ conn', next.live.conns.get? id = some conn' ∧
      conn'.tokenId = conn.tokenId := by
  rcases live_step stepped with
    ⟨same, _⟩ | ⟨_, _, _, moved⟩ | ⟨_, _, _, _, _, _, _, _, moved⟩
  · rw [same]
    exact ⟨conn, found, rfl⟩
  · obtain ⟨conn', found', follows⟩ := Live.conn_follows_step moved found
    exact ⟨conn', found', follows.token⟩
  · obtain ⟨conn', found', follows⟩ := Live.conn_follows_step moved found
    exact ⟨conn', found', follows.token⟩

/-- Being heard does not go back, and only a refresh moves it. -/
theorem heardAt_step {action : Action}
    (stepped : hub.step crates pepper action = some next) :
    next.heardAt since successor = hub.heardAt since successor ∨
      ∃ conn rest, action = .chore successor ∧
        hub.live.conns.get? successor = some conn ∧
        (hub.desk successor).todo = .touchClient :: rest ∧
        next.heardAt since successor = max since hub.now := by
  unfold heardAt
  have desk := desk_step successor stepped
  generalize next.desk successor = desk' at desk ⊢
  cases desk with
  | same => exact Or.inl rfl
  | framed => exact Or.inl rfl
  | @performed conn chore rest found todo =>
      cases chore with
      | touchClient => exact Or.inr ⟨conn, rest, rfl, found, todo, rfl⟩
      | advertise session => exact Or.inl rfl
      | setBlocked session blocked => exact Or.inl rfl

/-- The successor stays tracked, whatever happens. -/
theorem Tracked.step {action : Action}
    (tracked : Tracked config tokenId name successor since hub)
    (stepped : hub.step crates pepper action = some next) :
    Tracked config tokenId name successor since next := by
  have forward := now_le_step stepped
  have past := tracked.past
  have heldSince : since ≤ hub.now := (Nat.le_max_left _ _).trans past
  obtain ⟨conn, found, token⟩ := tracked.conn
  obtain ⟨conn', found', token'⟩ := conn_step stepped found
  refine
    { config := (config_step stepped).trans tracked.config
      conn := ⟨conn', found', token'.trans token⟩
      past := ?_
      rows := ?_ }
  · rcases @heardAt_step crates pepper hub next successor since action
      stepped with same | ⟨_, _, _, _, _, heard⟩
    · rw [same]
      exact past.trans forward
    · rw [heard, Nat.max_eq_right heldSince]
      exact forward
  · intro entry' foundRow owner'
    rcases @heardAt_step crates pepper hub next successor since action
      stepped with same | ⟨other, rest, rfl, foundOther, todo, heard⟩
    · rw [same]
      cases row_step stepped foundRow owner' with
      | kept foundBefore owner lastSeen _ =>
          rw [lastSeen]
          exact tracked.rows _ foundBefore owner
      | touched _ _ _ => exact past
      | advertised _ _ => exact past
    · cases foundOther.symm.trans found
      obtain ⟨actor, chore, rest', foundActor, todo', rfl⟩ :=
        step_chore stepped
      cases foundActor.symm.trans found
      cases todo.symm.trans todo'
      rw [heard, Nat.max_eq_right heldSince,
        lastSeen_after_touch foundRow (owner'.trans token.symm)]

/-- The row of the name is the token's and not marked. -/
def Unmarked (tokenId name : String) (hub : Hub) : Prop :=
  ∃ entry, hub.roster.get? name = some entry ∧
    entry.tokenId = tokenId ∧ entry.goneNow = false

theorem unmarked_markGone_other
    {closed : String} (unmarked : hub.Unmarked tokenId name)
    (other : closed ≠ tokenId) :
    ∃ entry, (hub.roster.markGone closed).get? name = some entry ∧
      entry.tokenId = tokenId ∧ entry.goneNow = false := by
  obtain ⟨entry, found, rfl, notGone⟩ := unmarked
  refine ⟨entry, ?_, rfl, notGone⟩
  simp only [Roster.markGone, Roster.get?_updateOwned, found,
    Option.map_some, if_neg (Ne.symm other)]

/-- A call of a connection leaves a live row of the token unmarked. -/
theorem unmarked_perform
    {conn : Conn} {chore : RosterChore}
    (resolved : hub.resolveSession name = some tokenId) :
    ∃ entry,
      (hub.roster.perform conn.tokenId conn.clientId hub.now chore).get?
          name = some entry ∧
        entry.tokenId = tokenId ∧ entry.goneNow = false := by
  obtain ⟨entry, found, owner, notGone, young⟩ :=
    resolveSession_eq_some.mp resolved
  cases chore with
  | advertise session =>
      rcases @Roster.get?_advertise hub.roster conn.tokenId conn.clientId
        hub.now session name with same | ⟨_, free, inserted⟩
      · exact ⟨entry, same.trans found, owner, notGone⟩
      · rcases free entry found with own | gone
        · exact ⟨_, inserted, own.symm.trans owner, rfl⟩
        · rw [Roster.live_iff.mpr ⟨notGone, young⟩] at gone
          cases gone
  | touchClient =>
      simp only [Roster.perform, Roster.touchClient,
        Roster.get?_updateOwned, found, Option.map_some]
      split
      next => exact ⟨_, rfl, owner, notGone⟩
      next => exact ⟨_, rfl, owner, notGone⟩
  | setBlocked session blocked =>
      simp only [Roster.perform, Roster.get?_setBlocked]
      split
      next same =>
        subst same
        rw [found]
        exact ⟨_, rfl, owner, notGone⟩
      next => exact ⟨entry, found, owner, notGone⟩

theorem not_closed_of_inSession
    (inSession : hub.InSession successor) :
    hub.closed? successor = none := by
  obtain ⟨conn, todo, found, phase⟩ := inSession
  simp only [closed?, found, Option.bind_some, phase]

/-- In an attended step without a rival close the row stays unmarked. -/
theorem unmarked_step {action : Action}
    (ordered : hub.roster.config.reconnectAfter ≤
      hub.roster.config.pruneAfter)
    (tracked : Tracked config tokenId name successor since hub)
    (resolved : hub.resolveSession name = some tokenId)
    (attended : hub.Attended tokenId successor since action)
    (noRival : hub.NoRivalClose tokenId successor action)
    (stepped : hub.step crates pepper action = some next) :
    next.Unmarked tokenId name := by
  obtain ⟨entry, found, owner, notGone, _⟩ :=
    resolveSession_eq_some.mp resolved
  have unmarked : hub.Unmarked tokenId name :=
    ⟨entry, found, owner, notGone⟩
  have roster := roster_step stepped
  unfold Unmarked
  generalize next.roster = roster' at roster ⊢
  cases roster with
  | same => exact unmarked
  | performed foundConn todo => exact unmarked_perform resolved
  | @closed id closed isClosed =>
      refine unmarked_markGone_other unmarked ?_
      rintro rfl
      refine noRival id rfl ?_ isClosed
      rintro rfl
      rw [not_closed_of_inSession attended.inSession] at isClosed
      cases isClosed
  | revoked asked =>
      refine unmarked_markGone_other unmarked ?_
      rintro rfl
      exact attended.notRevoked rfl
  | pruned =>
      refine ⟨entry, ?_, owner, notGone⟩
      have heard := attended.heard
      have seen := tracked.rows entry found owner
      have young :
          hub.now - entry.lastSeen < hub.roster.config.pruneAfter := by
        simp only [elapsed, Nat.add_zero] at heard
        omega
      rw [Roster.get?_prune, found]
      simp [young]

/-- In an attended step without a rival close the name keeps leading to the
token. -/
theorem resolved_step {action : Action}
    (ordered : config.reconnectAfter ≤ config.goneAfter ∧
      config.reconnectAfter ≤ config.pruneAfter)
    (tracked : Tracked config tokenId name successor since hub)
    (resolved : hub.resolveSession name = some tokenId)
    (attended : hub.Attended tokenId successor since action)
    (noRival : hub.NoRivalClose tokenId successor action)
    (stepped : hub.step crates pepper action = some next) :
    next.resolveSession name = some tokenId := by
  have isConfig := tracked.config
  obtain ⟨entry', found', owner', notGone⟩ :=
    unmarked_step (by rw [isConfig]; exact ordered.2) tracked resolved
      attended noRival stepped
  refine
    resolveSession_eq_some.mpr ⟨entry', found', owner', notGone, ?_⟩
  have seen := (tracked.step stepped).rows entry' found' owner'
  have heard := attended.heard
  have sameNow := now_step stepped
  have monotone :
      hub.heardAt since successor ≤ next.heardAt since successor := by
    have past := tracked.past
    rcases @heardAt_step crates pepper hub next successor since action
      stepped with same | ⟨_, _, _, _, _, moved⟩
    · omega
    · rw [moved]
      exact past.trans (Nat.le_max_right _ _)
  rw [(tracked.step stepped).config]
  rw [isConfig] at heard
  omega

/-- A rival close hides the session. -/
theorem noRivalClose_of_resolved {action : Action}
    (stepped : hub.step crates pepper action = some next)
    (resolved : next.resolveSession name = some tokenId) :
    hub.NoRivalClose tokenId successor action := by
  rintro id rfl _ isClosed
  obtain ⟨_, system, _, rfl⟩ := step_serve stepped
  obtain ⟨entry', found', owner', notGone, _⟩ :=
    resolveSession_eq_some.mp resolved
  simp only [follow, isClosed] at found'
  rcases hub.roster.updateOwned_cases tokenId
    (fun entry => { entry with goneNow := true }) name with
    ⟨entry, _, _, marked⟩ | ⟨foreign, same⟩
  · cases marked.symm.trans found'
    cases notGone
  · exact foreign entry' (same.symm.trans found') owner'

/-- A connection whose advertisement was accepted is tracked from then on. -/
theorem tracked_of_advertised
    {before start : Hub} {conn : Conn} {session : PresenceSession}
    {rest : List RosterChore}
    (reachable : (machine crates pepper config).Reachable before)
    (found : before.live.conns.get? successor = some conn)
    (todo : (before.desk successor).todo = .advertise session :: rest)
    (advertised :
      before.step crates pepper (.chore successor) = some start)
    (accepted :
      start.resolveSession session.name = some conn.tokenId) :
    Tracked config conn.tokenId session.name successor start.now
      start := by
  obtain ⟨conn', chore, rest', found', todo', rfl⟩ :=
    step_chore advertised
  cases found.symm.trans found'
  cases todo.symm.trans todo'
  have touched := touchedAt_of_reachable reachable successor
  have heard :
      (before.perform successor conn (.advertise session) rest).heardAt
          before.now successor = before.now := by
    unfold heardAt
    rw [desk_of_put rfl, if_pos rfl]
    exact Nat.max_eq_left touched
  refine
    { config :=
        (config_step advertised).trans (config_of_reachable reachable)
      conn := ⟨conn, found, rfl⟩
      past := Nat.le_of_eq heard
      rows := ?_ }
  intro entry foundEntry _
  refine Nat.le_trans (Nat.le_of_eq heard) ?_
  obtain ⟨entry', foundEntry', owner, _⟩ :=
    resolveSession_eq_some.mp accepted
  cases foundEntry.symm.trans foundEntry'
  have advertises :=
    before.roster.advertises_advertiseWithMode before.now session
      conn.tokenId conn.clientId
  simp only [perform, Roster.perform] at foundEntry
  generalize before.roster.advertiseWithMode before.now session
    conn.tokenId conn.clientId = result at advertises foundEntry
  cases advertises with
  | refused held other live =>
      cases held.symm.trans foundEntry
      exact absurd owner other
  | inserted free =>
      cases foundEntry.symm.trans (FiniteMap.get?_put_self _ _ _)
      exact Nat.le_refl _

/-- A connection has advertised a session.  As long as it stays in its session
loop, is heard within `reconnect_after` and the token is not revoked, the name
leads to its token in every state exactly if no other connection of the token ends
with a certain close. -/
theorem successor_keeps_session_iff
    {before start : Hub} {conn : Conn} {session : PresenceSession}
    {rest : List RosterChore} {run : List Action}
    (ordered : config.reconnectAfter ≤ config.goneAfter ∧
      config.reconnectAfter ≤ config.pruneAfter)
    (reachable : (machine crates pepper config).Reachable before)
    (found : before.live.conns.get? successor = some conn)
    (todo : (before.desk successor).todo = .advertise session :: rest)
    (advertised :
      (machine crates pepper config).step before (.chore successor) =
        some start)
    (accepted :
      start.resolveSession session.name = some conn.tokenId)
    (enabled :
      ((machine crates pepper config).run start run).isSome = true)
    (attended :
      (machine crates pepper config).Along
        (Attended conn.tokenId successor start.now) start run) :
    (∀ done target, done <+: run →
      (machine crates pepper config).run start done = some target →
      target.resolveSession session.name = some conn.tokenId) ↔
      (machine crates pepper config).Along
        (NoRivalClose conn.tokenId successor) start run := by
  have tracked :
      Tracked config conn.tokenId session.name successor start.now
        start :=
    tracked_of_advertised reachable found todo advertised accepted
  rw [← @Machine.prefixes_iff_along _ _ (machine crates pepper config)
    (Attended conn.tokenId successor start.now) _
    (fun hub =>
      hub.resolveSession session.name = some conn.tokenId ∧
        Tracked config conn.tokenId session.name successor start.now hub)
    ?_ ?_ run start ⟨accepted, tracked⟩ enabled attended]
  · constructor
    · intro everywhere done target isPrefix reached
      refine ⟨everywhere done target isPrefix reached, ?_⟩
      exact
        (machine crates pepper config).run_preserves
          (fun _ _ _ tracked stepped => tracked.step stepped) tracked
          reached
    · intro everywhere done target isPrefix reached
      exact (everywhere done target isPrefix reached).1
  · rintro hub action next ⟨resolved, tracked⟩ attended noRival stepped
    exact
      ⟨resolved_step ordered tracked resolved attended noRival stepped,
        tracked.step stepped⟩
  · rintro hub action next _ _ stepped ⟨resolved, _⟩
    exact noRivalClose_of_resolved stepped resolved

end HollerServer.Server.Hub

namespace HollerServer.Server.Sample

open HollerServer.Token
open HollerServer.Token.Sample
open HollerServer.Wire
open Transition

/-- Connection 0 starts its session. -/
def firstRun : List Hub.Action :=
  [wire (.register 0), wire (.hello 0 true)]

noncomputable def firstHub : Hub :=
  after presentedHub firstRun

/-- Connection 1 supersedes it and takes its presence frame. -/
def supersedeRun : List Hub.Action :=
  [wire (.register 1), wire (.hello 1 true),
    wire (.frame 1 (presence ["alpha"]))]

noncomputable def supersededHub : Hub :=
  after
    { firstHub with
      system :=
        { file := save .sample [seen]
          live := firstHub.live.setConn 1 sampleConn } }
    supersedeRun

theorem run_supersededHub :
    machine.run machine.init
        (presented.map .serve ++ firstRun ++
          .serve (.auth 1 seenAt tokenId credential) :: supersedeRun) =
      some supersededHub := by
  refine
    (Machine.run_append_eq_some _).mpr
      ⟨firstHub,
        (Machine.run_append_eq_some _).mpr
          ⟨presentedHub, run_presentedHub, rfl⟩, ?_⟩
  exact
    (Machine.run_cons_eq_some _).mpr
      ⟨_, step_auth_sample rfl exec_verify_seen rfl, rfl⟩

/-- The successor has advertised its session. -/
noncomputable def succeededHub : Hub :=
  after supersededHub [.chore 1]

/-- Connection 0 reads the close of its peer and ends. -/
def rivalClose (certainClose : Bool) : List Hub.Action :=
  [wire (.stop 0 certainClose), wire (.teardown 0), wire (.finish 0)]

/-- No time passes at the start of the sample runs. -/
theorem attended_wire {hub : Hub} {action : Wire.Action}
    (inSession : hub.InSession 1) (start : hub.now = 0)
    (still : Live.elapsed action = 0)
    (isConfig : hub.roster.config = RosterConfig.default) :
    hub.Attended tokenId 1 0 (wire action) where
  inSession := inSession
  notRevoked := by
    intro same
    cases same
  heard := by
    rw [isConfig, start, Nat.zero_add]
    show Live.elapsed action - _ < 45000000000
    rw [still, Nat.zero_sub]
    decide

/-- A side condition along the end of connection 0, step by step. -/
theorem along_rivalClose
    {meets : Hub → Hub.Action → Prop} (certainClose : Bool)
    (stops : meets succeededHub (wire (.stop 0 certainClose)))
    (tearsDown :
      meets (after succeededHub ((rivalClose certainClose).take 1))
        (wire (.teardown 0)))
    (finishes :
      meets (after succeededHub ((rivalClose certainClose).take 2))
        (wire (.finish 0))) :
    machine.Along meets succeededHub (rivalClose certainClose) := by
  have stopped :
      machine.step succeededHub (wire (.stop 0 certainClose)) =
        some (after succeededHub ((rivalClose certainClose).take 1)) := rfl
  have tornDown :
      machine.step
          (after succeededHub ((rivalClose certainClose).take 1))
          (wire (.teardown 0)) =
        some (after succeededHub ((rivalClose certainClose).take 2)) := rfl
  exact
    machine.along_cons stopped stops
      (machine.along_cons tornDown tearsDown
        ⟨finishes, fun _ _ => trivial⟩)

theorem attended_rivalClose (certainClose : Bool) :
    machine.Along (Hub.Attended tokenId 1 0) succeededHub
      (rivalClose certainClose) := by
  refine along_rivalClose certainClose ?_ ?_ ?_
  · exact attended_wire ⟨_, _, rfl, rfl⟩ rfl rfl rfl
  · exact attended_wire ⟨_, _, rfl, rfl⟩ rfl rfl rfl
  · exact attended_wire ⟨_, _, rfl, rfl⟩ rfl rfl rfl

/-- The close of the superseded connection hides the session its successor has
advertised, while the successor is in its session loop. -/
theorem rivalClose_hides_session :
    machine.run machine.init
        (presented.map .serve ++ firstRun ++
          .serve (.auth 1 seenAt tokenId credential) :: supersedeRun) =
      some supersededHub ∧
    machine.step supersededHub (.chore 1) = some succeededHub ∧
    succeededHub.resolveSession "alpha" = some tokenId ∧
    machine.Along (Hub.Attended tokenId 1 succeededHub.now) succeededHub
      (rivalClose true) ∧
    ∃ target,
      machine.run succeededHub (rivalClose true) = some target ∧
      target.InSession 1 ∧ target.resolveSession "alpha" = none :=
  ⟨run_supersededHub, rfl, rfl, attended_rivalClose true, _, rfl,
    ⟨_, _, rfl, rfl⟩, rfl⟩

/-- If the superseded connection is lost instead, the session stays. -/
theorem successor_keeps_session_iff_lost :
    machine.step supersededHub (.chore 1) = some succeededHub ∧
    ∀ done target, done <+: rivalClose false →
      machine.run succeededHub done = some target →
      target.resolveSession "alpha" = some tokenId := by
  have noRival :
      machine.Along (Hub.NoRivalClose tokenId 1) succeededHub
        (rivalClose false) := by
    have lost :
        (after succeededHub ((rivalClose false).take 2)).closed? 0 =
          none := rfl
    refine along_rivalClose false ?_ ?_ ?_
    · intro _ isFinish
      cases isFinish
    · intro _ isFinish
      cases isFinish
    · intro id isFinish _
      cases isFinish
      rw [lost]
      nofun
  refine ⟨rfl, ?_⟩
  exact
    (@Hub.successor_keeps_session_iff .sample pepper 1
      RosterConfig.default supersededHub succeededHub _
      (Hub.claudeSession "alpha") [] (rivalClose false)
      ⟨by decide, by decide⟩ ⟨_, run_supersededHub⟩ rfl rfl rfl rfl rfl
      (attended_rivalClose false)).mpr noRival

end HollerServer.Server.Sample
