import HollerServer.Server.Ghosts

/-!
# The sessions of a revoked token

A revoke takes the token out of the registry and marks its rows.  The connection
task notices only when it finds its outbound channel closed; until then it may
take frames, and an advertisement makes a row that is not marked.  After the
token was deleted and the revoke answered its rows stay gone exactly if no
connection task of the token is before or in its session loop by then.
-/

namespace HollerServer.Server

open HollerServer.Proto
open HollerServer.Token
open HollerServer.Wire
open Transition

/-- The task is before or in its session loop. -/
def serving : Phase → Bool
  | .verified | .greeting | .session _ => true
  | .closing _ | .removed _ | .returned => false

/-- A task that serves was serving before. -/
theorem serving_of_moves
    {live : Live} {id : ConnId} {conn conn' : Conn}
    {action : Wire.Action}
    (moves : Live.ConnMoves live id conn action conn')
    (serves : serving conn'.phase = true) :
    serving conn.phase = true := by
  cases moves with
  | stay => exact serves
  | notified _ => exact serves
  | queued _ _ _ => exact serves
  | registered phase _ => rw [phase]; rfl
  | greeted phase => rw [phase]; rfl
  | framed phase => rw [phase]; rfl
  | resolved phase => rw [phase]; rfl
  | wrote phase => rw [phase]; rfl
  | closing phase _ => rw [phase]; rfl
  | tornDown phase => cases serves
  | finished phase => cases serves

namespace Hub

variable {crates : Crates} {pepper : List UInt8} {hub next : Hub}
  {tokenId name : String}

/-- No connection task of the token is before or in its session loop. -/
def NoneServing (tokenId : String) (hub : Hub) : Prop :=
  ∀ id conn, hub.live.conns.get? id = some conn →
    conn.tokenId = tokenId → serving conn.phase = false

/-- Without such a task nobody makes roster calls for the token. -/
theorem NoneServing.not_performs {chore : RosterChore} {id : ConnId}
    (noneServing : NoneServing tokenId hub) (occupied : hub.Occupied) :
    ¬hub.Performs tokenId chore id := by
  rintro ⟨⟨conn, found, token⟩, rest, todo⟩
  have busy : (hub.desk id).todo ≠ [] := by
    rw [todo]
    exact List.cons_ne_nil _ _
  obtain ⟨conn', resolutions, found', phase⟩ := occupied id busy
  cases found.symm.trans found'
  have idle := noneServing id conn found token
  rw [phase] at idle
  cases idle

/-- The token is dead, nobody serves it and its rows are marked. -/
structure Retired
    (crates : Crates) (tokenId : String) (hub : Hub) : Prop where
  dead : Dead crates tokenId hub.system.file
  idle : NoneServing tokenId hub
  occupied : hub.Occupied
  marked :
    ∀ name entry, hub.roster.get? name = some entry →
      entry.tokenId = tokenId → entry.goneNow = true

theorem dead_step
    (lawful : crates.Lawful) {action : Action}
    (dead : Dead crates tokenId hub.system.file)
    (stepped : hub.step crates pepper action = some next) :
    Dead crates tokenId next.system.file := by
  cases action with
  | serve action =>
      obtain ⟨_, system, served, rfl⟩ := step_serve stepped
      rw [system_follow]
      exact Server.dead_step lawful dead served
  | chore id =>
      obtain ⟨conn, chore, rest, _, _, rfl⟩ := step_chore stepped
      exact dead
  | answerRevoke tokenId' =>
      obtain ⟨_, rfl⟩ := step_answerRevoke stepped
      exact dead
  | prune =>
      rw [step_prune stepped]
      exact dead

/-- A dead token gets no new connection task. -/
theorem noneServing_step {action : Action}
    (dead : Dead crates tokenId hub.system.file)
    (noneServing : NoneServing tokenId hub)
    (stepped : hub.step crates pepper action = some next) :
    NoneServing tokenId next := by
  have moved :
      ∀ wireAction, hub.live.step wireAction = some next.live →
        (∀ conn tokenId' clientId machine,
          wireAction = .auth conn tokenId' clientId machine →
          tokenId' ≠ tokenId) →
        NoneServing tokenId next := by
    intro wireAction lived other id conn' found' token
    rw [Bool.eq_false_iff]
    intro serves
    cases Live.connection_step lived found' with
    | accepted _ fresh =>
        subst fresh
        exact other _ _ _ _ rfl token
    | @moved _ conn found moves =>
        have idle :=
          noneServing id conn found
            (moves.follows.token.symm.trans token)
        rw [serving_of_moves moves serves] at idle
        cases idle
  rcases live_step stepped with
    ⟨same, _⟩ | ⟨wireAction, isWire, _, lived⟩ |
    ⟨conn, now, checked, credential, client, file, _, verified, lived⟩
  · unfold NoneServing
    rw [same]
    exact noneServing
  · refine moved wireAction lived ?_
    rintro conn tokenId' clientId machine rfl
    subst isWire
    obtain ⟨_, system, served, _⟩ := step_serve stepped
    cases served
  · refine moved _ lived ?_
    rintro _ _ _ _ isAuth same
    cases isAuth
    have isChecked := tokenId_of_verified verified
    rw [← same, isChecked] at dead
    have refused :=
      @not_verified_of_dead crates pepper _ _ dead now credential
    rw [verified] at refused
    cases refused

/-- A retired token stays retired. -/
theorem Retired.step
    (lawful : crates.Lawful) {action : Action}
    (retired : Retired crates tokenId hub)
    (stepped : hub.step crates pepper action = some next) :
    Retired crates tokenId next where
  dead := Hub.dead_step lawful retired.dead stepped
  idle := noneServing_step retired.dead retired.idle stepped
  occupied := retired.occupied.step stepped
  marked := by
    intro name entry' found' owner'
    have idle :=
      fun chore id =>
        @NoneServing.not_performs hub tokenId chore id retired.idle
          retired.occupied
    cases row_step stepped found' owner' with
    | kept found owner _ gone =>
        exact gone (retired.marked name _ found owner)
    | touched performs _ _ => exact absurd performs (idle _ _)
    | advertised performs _ => exact absurd performs (idle _ _)

/-- A step of a connection task that has made its roster calls. -/
theorem step_wire_of {action : Wire.Action} {moved : Live}
    (ready : hub.ready (.wire action) = true)
    (goesOn : startsConnection action = false)
    (lived : hub.live.step action = some moved) :
    hub.step crates pepper (.serve (.wire action)) =
      some (hub.follow { hub.system with live := moved }
        (.wire action)) := by
  refine step_serve_of ready ?_
  unfold live at lived
  simp only [Server.step, goesOn, Bool.false_eq_true, if_false, lived,
    Option.map_some]

theorem ready_of_idle {action : Wire.Action} {id : ConnId}
    (idle : (hub.desk id).todo = []) (own : actor? action = some id) :
    hub.ready (.wire action) = true := by
  simp only [ready, own, idle, List.isEmpty_nil]

variable {config : RosterConfig}

/-- A connection can make the roster calls it has to make. -/
theorem exists_idle {id : ConnId} {conn : Conn}
    (found : hub.live.conns.get? id = some conn) :
    ∃ actions final,
      (machine crates pepper config).run hub actions = some final ∧
      (final.desk id).todo = [] ∧ final.live = hub.live := by
  generalize isTodo : (hub.desk id).todo = todo
  induction todo generalizing hub with
  | nil => exact ⟨[], hub, rfl, isTodo, rfl⟩
  | cons chore rest inductionHypothesis =>
      have stepped :
          (machine crates pepper config).step hub (.chore id) =
            some (hub.perform id conn chore rest) := by
        show hub.step crates pepper (.chore id) = _
        simp only [step, isTodo, found]
      have rested : ((hub.perform id conn chore rest).desk id).todo = rest := by
        rw [desk_of_put rfl, if_pos rfl]
      obtain ⟨actions, final, reached, idle, sameLive⟩ :=
        @inductionHypothesis (hub.perform id conn chore rest) found rested
      exact
        ⟨.chore id :: actions, final,
          (Machine.run_cons_eq_some _).mpr ⟨_, stepped, reached⟩, idle,
          sameLive⟩

/-- A connection of the token waits for its next frame. -/
structure Listening (tokenId : String) (id : ConnId) (hub : Hub) :
    Prop where
  idle : (hub.desk id).todo = []
  conn : ∃ conn, hub.live.conns.get? id = some conn ∧
    conn.tokenId = tokenId ∧ conn.phase = .session []

/-- A connection can finish the frame it handles. -/
theorem exists_listening_of_session
    {id : ConnId} {conn : Conn} {todo : List Resolution}
    (idle : (hub.desk id).todo = [])
    (found : hub.live.conns.get? id = some conn)
    (token : conn.tokenId = tokenId)
    (phase : conn.phase = .session todo) :
    ∃ actions final,
      (machine crates pepper config).run hub actions = some final ∧
      Listening tokenId id final := by
  induction todo generalizing hub conn with
  | nil =>
      exact ⟨[], hub, rfl, ⟨idle, conn, found, token, phase⟩⟩
  | cons resolution rest inductionHypothesis =>
      have stepped :=
        @step_wire_of crates pepper hub (.resolve id) _
          (ready_of_idle idle rfl) rfl (Live.resolve_enabled found phase)
      generalize isMoved : hub.follow _ _ = moved at stepped
      have foundMoved :
          moved.live.conns.get? id =
            some { conn with phase := .session rest } := by
        rw [← isMoved]
        exact FiniteMap.get?_put_self _ _ _
      have idleMoved : (moved.desk id).todo = [] := by
        rw [← isMoved]
        exact idle
      obtain ⟨actions, final, reached, listening⟩ :=
        inductionHypothesis idleMoved foundMoved token rfl
      exact
        ⟨.serve (.wire (.resolve id)) :: actions, final,
          (Machine.run_cons_eq_some _).mpr ⟨moved, stepped, reached⟩,
          listening⟩

/-- A greeting can be written. -/
theorem exists_listening_of_greeting
    {id : ConnId} {conn : Conn}
    (idle : (hub.desk id).todo = [])
    (found : hub.live.conns.get? id = some conn)
    (token : conn.tokenId = tokenId)
    (phase : conn.phase = .greeting) :
    ∃ actions final,
      (machine crates pepper config).run hub actions = some final ∧
      Listening tokenId id final := by
  have lived :
      hub.live.step (.hello id true) =
        some
          (hub.live.setConn id { conn with phase := .session [] }) := by
    simp only [Live.step, found, Option.bind_some, Live.connStep, phase,
      if_true]
  have stepped :=
    @step_wire_of crates pepper hub (.hello id true) _
      (ready_of_idle idle rfl) rfl lived
  refine
    ⟨[.serve (.wire (.hello id true))], _,
      (Machine.run_cons_eq_some _).mpr ⟨_, stepped, rfl⟩, idle, ?_⟩
  exact
    ⟨{ conn with phase := .session [] }, FiniteMap.get?_put_self _ _ _,
      token, rfl⟩

/-- A task that was verified can register. -/
theorem exists_listening_of_verified
    {id : ConnId} {conn : Conn}
    (idle : (hub.desk id).todo = [])
    (found : hub.live.conns.get? id = some conn)
    (token : conn.tokenId = tokenId)
    (phase : conn.phase = .verified) :
    ∃ actions final,
      (machine crates pepper config).run hub actions = some final ∧
      Listening tokenId id final := by
  have lived :
      hub.live.step (.register id) =
        some (hub.live.register id conn) := by
    simp only [Live.step, found, Option.bind_some, Live.connStep, phase]
  have stepped :=
    @step_wire_of crates pepper hub (.register id) _
      (ready_of_idle idle rfl) rfl lived
  obtain ⟨conn', found', follows⟩ := Live.conn_follows_step lived found
  generalize isMoved : hub.follow _ _ = moved at stepped
  have foundMoved : moved.live.conns.get? id = some conn' := by
    rw [← isMoved]
    exact found'
  have idleMoved : (moved.desk id).todo = [] := by
    rw [← isMoved]
    exact idle
  obtain ⟨actions, final, reached, listening⟩ :=
    @exists_listening_of_greeting crates pepper moved tokenId config id
      conn' idleMoved foundMoved (follows.token.trans token)
      (Live.phase_register found')
  exact
    ⟨.serve (.wire (.register id)) :: actions, final,
      (Machine.run_cons_eq_some _).mpr ⟨moved, stepped, reached⟩,
      listening⟩

/-- A task before or in its session loop can come to wait for a frame. -/
theorem exists_listening
    {id : ConnId} {conn : Conn} (occupied : hub.Occupied)
    (found : hub.live.conns.get? id = some conn)
    (token : conn.tokenId = tokenId)
    (serves : serving conn.phase = true) :
    ∃ actions final,
      (machine crates pepper config).run hub actions = some final ∧
      Listening tokenId id final := by
  have idle_of_not_session :
      (∀ todo, conn.phase ≠ .session todo) → (hub.desk id).todo = [] := by
    intro notSession
    by_contra busy
    obtain ⟨conn', todo, found', phase⟩ := occupied id busy
    cases found.symm.trans found'
    exact notSession todo phase
  cases phase : conn.phase with
  | verified =>
      refine exists_listening_of_verified ?_ found token phase
      exact idle_of_not_session (by rw [phase]; nofun)
  | greeting =>
      refine exists_listening_of_greeting ?_ found token phase
      exact idle_of_not_session (by rw [phase]; nofun)
  | session todo =>
      obtain ⟨calls, middle, reachedMiddle, idle, sameLive⟩ :=
        @exists_idle crates pepper hub config id conn found
      rw [← sameLive] at found
      obtain ⟨actions, final, reached, listening⟩ :=
        @exists_listening_of_session crates pepper middle tokenId config
          id conn todo idle found token phase
      exact
        ⟨calls ++ actions, final,
          (Machine.run_append_eq_some _).mpr
            ⟨middle, reachedMiddle, reached⟩,
          listening⟩
  | closing certainClose | removed certainClose | returned =>
      rw [phase] at serves
      cases serves

/-- The session a presence frame of one name advertises. -/
def claudeSession (name : String) : PresenceSession where
  name := name
  harness := "claude"
  mode := none
  harnessSessionId := none

/-- A connection that waits for a frame can advertise a session under a name that
is free. -/
theorem exists_advertised {id : ConnId}
    (listening : Listening tokenId id hub)
    (free : hub.roster.get? name = none) :
    ∃ actions final clientId,
      (machine crates pepper config).run hub actions = some final ∧
      final.now = hub.now ∧
      final.roster.get? name =
        some
          (Roster.advertisedEntry hub.now (claudeSession name) tokenId
            clientId) := by
  obtain ⟨idle, conn, found, rfl, phase⟩ := listening
  let envelope := presenceFrame conn.tokenId [name]
  have chores :
      rosterChores envelope = [.advertise (claudeSession name)] := rfl
  have lived :
      hub.live.step (.frame id envelope) =
        some
          (hub.live.setConn id
            { conn with
              phase := .session (handleFrame envelope)
              received := conn.received ++ [envelope] }) := by
    simp only [Live.step, found, Option.bind_some, Live.connStep, phase]
  have framed :=
    @step_wire_of crates pepper hub (.frame id envelope) _
      (ready_of_idle idle rfl) rfl lived
  generalize isMoved : hub.follow _ _ = moved at framed
  have todo : (moved.desk id).todo = [.advertise (claudeSession name)] := by
    rw [← isMoved, ← chores]
    unfold follow
    rw [desk_of_put rfl, if_pos rfl]
  obtain ⟨conn', found', follows⟩ := Live.conn_follows_step lived found
  have foundMoved : moved.live.conns.get? id = some conn' := by
    rw [← isMoved]
    exact found'
  have sameRoster : moved.roster = hub.roster := by
    rw [← isMoved]
    rfl
  have sameNow : moved.now = hub.now := by
    rw [← isMoved]
    rfl
  have performed :
      moved.step crates pepper (.chore id) =
        some
          (moved.perform id conn' (.advertise (claudeSession name))
            []) := by
    simp only [step, todo, foundMoved]
  refine
    ⟨[.serve (.wire (.frame id envelope)), .chore id], _, conn'.clientId,
      (Machine.run_cons_eq_some _).mpr
        ⟨moved, framed,
          (Machine.run_cons_eq_some _).mpr ⟨_, performed, rfl⟩⟩,
      sameNow, ?_⟩
  simp only [perform, Roster.perform, Roster.advertiseWithMode, sameRoster,
    sameNow, claudeSession, free, follows.token]
  exact FiniteMap.get?_put_self _ _ _

/-- A live row of the token can come up as long as a task of the token is before or
in its session loop. -/
theorem exists_resolved
    {id : ConnId} {conn : Conn} (occupied : hub.Occupied)
    (lasting : 0 < hub.roster.config.goneAfter)
    (found : hub.live.conns.get? id = some conn)
    (token : conn.tokenId = tokenId)
    (serves : serving conn.phase = true) :
    ∃ actions final name,
      (machine crates pepper config).run hub actions = some final ∧
      final.resolveSession name = some tokenId := by
  obtain ⟨first, middle, reachedMiddle, listening⟩ :=
    @exists_listening crates pepper hub tokenId config id conn occupied
      found token serves
  obtain ⟨name, free⟩ := middle.roster.entries.exists_get?_eq_none
  obtain ⟨second, final, clientId, reached, sameNow, advertised⟩ :=
    @exists_advertised crates pepper middle tokenId name config id
      listening free
  have reachedFinal :
      (machine crates pepper config).run hub (first ++ second) =
        some final :=
    (Machine.run_append_eq_some _).mpr ⟨middle, reachedMiddle, reached⟩
  have sameConfig : final.roster.config = hub.roster.config :=
    config_run reachedFinal
  refine
    ⟨first ++ second, final, name, reachedFinal,
      resolveSession_eq_some.mpr ⟨_, advertised, rfl, rfl, ?_⟩⟩
  rw [sameNow, sameConfig, Roster.advertisedEntry, Nat.sub_self]
  exact lasting

/-- No row of the token is anything but gone, and no name leads to it. -/
def AllGone (tokenId : String) (hub : Hub) : Prop :=
  (∀ name entry, hub.roster.get? name = some entry →
    entry.tokenId = tokenId →
    entry.stateAt hub.now hub.roster.config = .gone) ∧
  ∀ name, hub.resolveSession name ≠ some tokenId

theorem allGone_of_rows
    (rows :
      ∀ name entry, hub.roster.get? name = some entry →
        entry.tokenId = tokenId →
        entry.stateAt hub.now hub.roster.config = .gone) :
    AllGone tokenId hub := by
  refine ⟨rows, ?_⟩
  intro name resolved
  obtain ⟨entry, found, live, owner⟩ :=
    Roster.resolveSession_eq_some.mp resolved
  unfold Roster.live at live
  rw [rows name entry found owner] at live
  cases live

/-- The second half of a revoke marks the rows of the token. -/
theorem marked_of_answerRevoke
    (answered :
      hub.step crates pepper (.answerRevoke tokenId) = some next) :
    ∀ name entry, next.roster.get? name = some entry →
      entry.tokenId = tokenId → entry.goneNow = true := by
  obtain ⟨_, rfl⟩ := step_answerRevoke answered
  intro name entry' found' owner'
  rcases Roster.updateOwned_cases _ tokenId
    (fun entry => { entry with goneNow := true }) name with
    ⟨entry, _, _, marked⟩ | ⟨foreign, same⟩
  · cases marked.symm.trans found'
    rfl
  · exact absurd owner' (foreign entry' (same.symm.trans found'))

/-- After a token was deleted and its revoke answered, its sessions are gone
whatever happens next, exactly if no connection task of the token was before or in
its session loop when the revoke was answered, or a row is gone as soon as it is
there. -/
theorem revoked_sessions_gone_iff
    (lawful : crates.Lawful)
    {before handled revoked : Hub} {now : Instant} {answer : Answer}
    {between : List Action}
    (reachable : (machine crates pepper config).Reachable before)
    (deleted :
      ((Op.delete now tokenId).exec crates pepper
        before.system.file).1 = .ok answer)
    (ran :
      (machine crates pepper config).run before
        (.serve (.store (.delete now tokenId)) :: between) =
          some handled)
    (answered :
      (machine crates pepper config).step handled
        (.answerRevoke tokenId) = some revoked) :
    (∀ later final,
      (machine crates pepper config).run revoked later = some final →
      AllGone tokenId final) ↔
      config.goneAfter = 0 ∨ NoneServing tokenId revoked := by
  have answeredStep :
      handled.step crates pepper (.answerRevoke tokenId) = some revoked :=
    answered
  obtain ⟨deletedHub, deleteStep, ranBetween⟩ :=
    (Machine.run_cons_eq_some _).mp ran
  have reachableHandled : (machine crates pepper config).Reachable handled :=
    reachable.run ran
  have reachableRevoked : (machine crates pepper config).Reachable revoked :=
    reachableHandled.step answered
  have isConfig := config_of_reachable reachableRevoked
  have occupied := occupied_of_reachable reachableRevoked
  have deadDeleted : Dead crates tokenId deletedHub.system.file := by
    cases deleteStep
    exact dead_of_delete lawful (Prod.ext deleted rfl)
  have deadHandled : Dead crates tokenId handled.system.file :=
    (machine crates pepper config).run_preserves
      (fun _ _ _ dead stepped => Hub.dead_step lawful dead stepped)
      deadDeleted ranBetween
  constructor
  · intro always
    by_contra neither
    obtain ⟨lasting, someServing⟩ := not_or.mp neither
    refine someServing ?_
    intro id conn found token
    rw [Bool.eq_false_iff]
    intro serves
    obtain ⟨later, final, name, reached, resolved⟩ :=
      @exists_resolved crates pepper revoked tokenId config id conn
        occupied (by rw [isConfig]; omega) found token serves
    exact (always later final reached).2 name resolved
  · rintro (instant | noneServing) later final reached
    · refine allGone_of_rows ?_
      intro name entry found owner
      refine stateAt_gone_of_le ?_
      rw [config_run reached, isConfig, instant]
      exact Nat.zero_le _
    · have retired : Retired crates tokenId revoked :=
        { dead := Hub.dead_step lawful deadHandled answeredStep
          idle := noneServing
          occupied := occupied
          marked := marked_of_answerRevoke answeredStep }
      have retiredFinal : Retired crates tokenId final :=
        (machine crates pepper config).run_preserves
          (fun _ _ _ retired stepped => retired.step lawful stepped)
          retired reached
      refine allGone_of_rows ?_
      intro name entry found owner
      unfold RosterEntry.stateAt
      exact if_pos (retiredFinal.marked name entry found owner)

end Hub

namespace Sample

open HollerServer.Token.Sample

/-- Connection 0 advertises a session. -/
def alphaRun : List Hub.Action :=
  [wire (.register 0), wire (.hello 0 true),
    wire (.frame 0 (presence ["alpha"])), .chore 0]

noncomputable def alphaHub : Hub :=
  after presentedHub alphaRun

theorem run_alphaHub :
    machine.run machine.init (presented.map .serve ++ alphaRun) =
      some alphaHub :=
  (Machine.run_append_eq_some _).mpr ⟨presentedHub, run_presentedHub, rfl⟩

/-- A server whose sample token has been deleted. -/
noncomputable def withoutToken (hub : Hub) : Hub :=
  { hub with system := { hub.system with file := save .sample [revoked] } }

theorem step_deleteSample {hub : Hub}
    (isFile : hub.system.file = save .sample [seen]) :
    machine.step hub (.serve (.store (.delete seenAt tokenId))) =
      some (withoutToken hub) :=
  step_store_sample isFile exec_delete_seen

/-- Both halves of the revoke. -/
def revokeRun : List Hub.Action :=
  [wire (.revoke tokenId), .answerRevoke tokenId]

/-- A presence frame that connection 0 takes before it finds its channel
closed. -/
def queuedPresence : List Hub.Action :=
  [wire (.frame 0 (presence ["alpha"])), .chore 0]

/-- The session of a deleted and revoked token can be addressed again. -/
theorem queuedPresence_revives_revoked_session :
    ∃ final,
      machine.run machine.init
          (presented.map .serve ++ alphaRun) = some alphaHub ∧
      machine.run alphaHub
          (.serve (.store (.delete seenAt tokenId)) :: revokeRun) =
        some (after (withoutToken alphaHub) revokeRun) ∧
      machine.run (after (withoutToken alphaHub) revokeRun)
          queuedPresence = some final ∧
      ¬Hub.AllGone tokenId final ∧
      final.resolveSession "alpha" = some tokenId := by
  have resolved :
      (after (after (withoutToken alphaHub) revokeRun)
        queuedPresence).resolveSession "alpha" = some tokenId := rfl
  refine
    ⟨_, run_alphaHub,
      (Machine.run_cons_eq_some _).mpr ⟨_, step_deleteSample rfl, rfl⟩,
      rfl, ?_, resolved⟩
  intro allGone
  exact allGone.2 "alpha" resolved

/-- The token is deleted and revoked after its connection was lost. -/
noncomputable def lostRevokedHub : Hub :=
  after (withoutToken lostHub) revokeRun

theorem noneServing_lostRevokedHub :
    Hub.NoneServing tokenId lostRevokedHub := by
  intro id conn found _
  have keys : lostRevokedHub.live.conns.keys = [0] := rfl
  have member : id ∈ lostRevokedHub.live.conns.keys :=
    AList.lookup_isSome.mp (by rw [← FiniteMap.get?, found]; rfl)
  rw [keys, List.mem_singleton] at member
  subst member
  cases found
  rfl

theorem revoked_sessions_gone_iff_lost :
    machine.run lostHub
        (.serve (.store (.delete seenAt tokenId)) :: revokeRun) =
      some lostRevokedHub ∧
    ∀ later final,
      machine.run lostRevokedHub later = some final →
      Hub.AllGone tokenId final := by
  have reachable : machine.Reachable lostHub := ⟨_, run_lostHub⟩
  have handled :
      machine.run lostHub
          [.serve (.store (.delete seenAt tokenId)),
            wire (.revoke tokenId)] =
        some (after (withoutToken lostHub) (revokeRun.take 1)) :=
    (Machine.run_cons_eq_some _).mpr ⟨_, step_deleteSample rfl, rfl⟩
  have answered :
      machine.step (after (withoutToken lostHub) (revokeRun.take 1))
        (.answerRevoke tokenId) = some lostRevokedHub := rfl
  refine
    ⟨(Machine.run_cons_eq_some _).mpr ⟨_, step_deleteSample rfl, rfl⟩, ?_⟩
  exact
    (Hub.revoked_sessions_gone_iff Crates.sample_lawful reachable
      (congrArg Prod.fst exec_delete_seen) handled answered).mpr
      (Or.inr noneServing_lostRevokedHub)

end Sample

end HollerServer.Server
