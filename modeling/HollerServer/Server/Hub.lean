import HollerServer.Server.Revocation
import HollerServer.Wire.Presence

/-!
# The server with its roster

The system of store and connection tasks, together with the roster.  A frame
leaves its connection with roster calls to make, each one a step of its own; the
end of a connection whose close is certain marks the rows of its token, and so
does the second half of a revoke request; the sweeper prunes.

The time of the last refresh by each connection is kept beside the roster.  No
code reads it: the roster has one time for all connections of a token.
-/

namespace HollerServer.Server

open HollerServer.Token
open HollerServer.Wire
open Transition

/-- The connection whose task takes an action. -/
def actor? : Wire.Action → Option ConnId
  | .register id | .hello id _ | .frame id _ | .resolve id
  | .outgoing id _ | .outClosed id | .stop id _ | .teardown id
  | .finish id => some id
  | _ => none

/-- The roster calls a connection has still to make for its last frame, and the
time of its last refresh. -/
structure Desk where
  todo : List RosterChore := []
  touchedAt : Nat := 0

/-- The server: store, connection tasks, roster, and the revokes whose second
half is still to come. -/
structure Hub where
  system : System := {}
  roster : Roster
  desks : FiniteMap ConnId Desk := ∅
  revoking : List String := []

namespace Hub

inductive Action where
  | serve (action : Server.Action)
  | chore (conn : ConnId)
  | answerRevoke (tokenId : String)
  | prune

variable (hub : Hub)

def live : Live :=
  hub.system.live

def now : Nat :=
  hub.live.now

def desk (id : ConnId) : Desk :=
  (hub.desks.get? id).getD {}

/-- The token a session name leads to now. -/
def resolveSession (name : String) : Option String :=
  hub.roster.resolveSession hub.now name

/-- The task that takes the action has made the roster calls of its last
frame. -/
def ready : Server.Action → Bool
  | .wire action =>
      match actor? action with
      | some id => (hub.desk id).todo.isEmpty
      | none => true
  | _ => true

/-- The token whose rows the end of a connection task marks. -/
def closed? (id : ConnId) : Option String :=
  (hub.live.conns.get? id).bind fun conn =>
    match conn.phase with
    | .removed true => some conn.tokenId
    | _ => none

/-- What a step of store and connection tasks means for the roster and the
desks. -/
def follow (system : System) : Server.Action → Hub
  | .wire (.frame id envelope) =>
      { hub with
        system
        desks := hub.desks.put id
          { hub.desk id with todo := rosterChores envelope } }
  | .wire (.finish id) =>
      { hub with
        system
        roster :=
          match hub.closed? id with
          | some tokenId => hub.roster.markGone tokenId
          | none => hub.roster }
  | .wire (.revoke tokenId) =>
      { hub with system, revoking := tokenId :: hub.revoking }
  | _ => { hub with system }

/-- The time of the last refresh by a connection once it has made the call. -/
def touchedAfter (id : ConnId) : RosterChore → Nat
  | .touchClient => hub.now
  | .advertise _ | .setBlocked _ _ => (hub.desk id).touchedAt

/-- A connection makes the next roster call of its frame. -/
def perform
    (id : ConnId) (conn : Conn) (chore : RosterChore)
    (rest : List RosterChore) : Hub :=
  { hub with
    roster :=
      hub.roster.perform conn.tokenId conn.clientId hub.now chore
    desks := hub.desks.put id
      { todo := rest
        touchedAt := hub.touchedAfter id chore } }

section Steps

variable (crates : Crates) (pepper : List UInt8)

def step : Action → Option Hub
  | .serve action =>
      if hub.ready action then
        (Server.step crates pepper hub.system action).map fun system =>
          hub.follow system action
      else none
  | .chore id =>
      match (hub.desk id).todo, hub.live.conns.get? id with
      | chore :: rest, some conn => some (hub.perform id conn chore rest)
      | _, _ => none
  | .answerRevoke tokenId =>
      if tokenId ∈ hub.revoking then
        some
          { hub with
            roster := hub.roster.markGone tokenId
            revoking := hub.revoking.erase tokenId }
      else none
  | .prune => some { hub with roster := hub.roster.prune hub.now }

def machine (config : RosterConfig) : Machine Hub Action where
  init := { roster := Roster.new config }
  step hub := hub.step crates pepper

end Steps

variable {hub} {crates : Crates} {pepper : List UInt8} {next : Hub}

theorem step_serve {action : Server.Action}
    (stepped : hub.step crates pepper (.serve action) = some next) :
    hub.ready action = true ∧
      ∃ system,
        Server.step crates pepper hub.system action = some system ∧
        next = hub.follow system action := by
  simp only [step] at stepped
  split at stepped
  next ready =>
    obtain ⟨system, served, rfl⟩ := Option.map_eq_some_iff.mp stepped
    exact ⟨ready, system, served, rfl⟩
  next => cases stepped

theorem step_serve_of
    {action : Server.Action} {system : System}
    (ready : hub.ready action = true)
    (served :
      Server.step crates pepper hub.system action = some system) :
    hub.step crates pepper (.serve action) =
      some (hub.follow system action) := by
  simp only [step, ready, served, if_true, Option.map_some]

theorem step_chore {id : ConnId}
    (stepped : hub.step crates pepper (.chore id) = some next) :
    ∃ conn chore rest,
      hub.live.conns.get? id = some conn ∧
      (hub.desk id).todo = chore :: rest ∧
      next = hub.perform id conn chore rest := by
  simp only [step] at stepped
  split at stepped
  next chore rest conn todo found =>
    cases stepped
    exact ⟨conn, chore, rest, found, todo, rfl⟩
  next => cases stepped

theorem step_answerRevoke {tokenId : String}
    (stepped :
      hub.step crates pepper (.answerRevoke tokenId) = some next) :
    tokenId ∈ hub.revoking ∧
      next =
        { hub with
          roster := hub.roster.markGone tokenId
          revoking := hub.revoking.erase tokenId } := by
  simp only [step] at stepped
  split at stepped
  next asked =>
    cases stepped
    exact ⟨asked, rfl⟩
  next => cases stepped

theorem step_prune
    (stepped : hub.step crates pepper .prune = some next) :
    next = { hub with roster := hub.roster.prune hub.now } := by
  cases stepped
  rfl

/-- The time that passes with an action. -/
def elapsed : Action → Nat
  | .serve (.wire action) => Live.elapsed action
  | _ => 0

@[simp]
theorem system_follow (system : System) (action : Server.Action) :
    (hub.follow system action).system = system := by
  unfold follow
  split <;> rfl

theorem elapsed_of_not_wire {action : Action}
    (inner : ∀ wireAction, action ≠ .serve (.wire wireAction)) :
    elapsed action = 0 := by
  cases action with
  | serve action =>
      cases action with
      | store op => rfl
      | auth conn now tokenId credential => rfl
      | wire wireAction => exact absurd rfl (inner wireAction)
  | chore id => rfl
  | answerRevoke tokenId => rfl
  | prune => rfl

/-- What a step does to the connection tasks: nothing, a step after the check of
a credential, or the start of a connection. -/
theorem live_step {action : Action}
    (stepped : hub.step crates pepper action = some next) :
    (next.live = hub.live ∧
      ∀ wireAction, action ≠ .serve (.wire wireAction)) ∨
    (∃ wireAction, action = .serve (.wire wireAction) ∧
      hub.ready (.wire wireAction) = true ∧
      hub.live.step wireAction = some next.live) ∨
    ∃ conn now tokenId credential client file,
      action = .serve (.auth conn now tokenId credential) ∧
      (Mutation.verifyCredential now tokenId credential).exec
        crates pepper hub.system.file = (.ok (.verified client), file) ∧
      hub.live.step
          (.auth conn client.tokenId client.clientId client.machine) =
        some next.live := by
  cases action with
  | serve action =>
      obtain ⟨ready, system, served, rfl⟩ := step_serve stepped
      unfold live
      rw [system_follow]
      cases action with
      | store op =>
          cases served
          exact Or.inl ⟨rfl, fun _ isWire => by cases isWire⟩
      | auth conn now tokenId credential =>
          simp only [Server.step] at served
          split at served
          next client file verified =>
            obtain ⟨lived, started, rfl⟩ :=
              Option.map_eq_some_iff.mp served
            exact
              Or.inr (Or.inr
                ⟨conn, now, tokenId, credential, client, file, rfl,
                  verified, started⟩)
          next =>
            cases served
            exact Or.inl ⟨rfl, fun _ isWire => by cases isWire⟩
      | wire wireAction =>
          simp only [Server.step] at served
          split at served
          next => cases served
          next =>
            obtain ⟨lived, moved, rfl⟩ :=
              Option.map_eq_some_iff.mp served
            exact Or.inr (Or.inl ⟨wireAction, rfl, ready, moved⟩)
  | chore id =>
      obtain ⟨conn, chore, rest, _, _, rfl⟩ := step_chore stepped
      exact Or.inl ⟨rfl, fun _ isWire => by cases isWire⟩
  | answerRevoke tokenId =>
      obtain ⟨_, rfl⟩ := step_answerRevoke stepped
      exact Or.inl ⟨rfl, fun _ isWire => by cases isWire⟩
  | prune =>
      rw [step_prune stepped]
      exact Or.inl ⟨rfl, fun _ isWire => by cases isWire⟩

theorem now_step {action : Action}
    (stepped : hub.step crates pepper action = some next) :
    next.now = hub.now + elapsed action := by
  unfold now
  rcases live_step stepped with
    ⟨same, inner⟩ | ⟨wireAction, rfl, _, moved⟩ |
    ⟨conn, _, _, _, client, _, rfl, _, started⟩
  · rw [same, elapsed_of_not_wire inner]
    rfl
  · exact Live.now_step moved
  · exact Live.now_step started

theorem now_le_step {action : Action}
    (stepped : hub.step crates pepper action = some next) :
    hub.now ≤ next.now := by
  rw [now_step stepped]
  exact Nat.le_add_right _ _

/-- What a step can do to the roster. -/
inductive RosterStep (hub : Hub) : Action → Roster → Prop
  | same {action : Action} : RosterStep hub action hub.roster
  | performed {id : ConnId} {conn : Conn} {chore : RosterChore}
      {rest : List RosterChore}
      (found : hub.live.conns.get? id = some conn)
      (todo : (hub.desk id).todo = chore :: rest) :
      RosterStep hub (.chore id)
        (hub.roster.perform conn.tokenId conn.clientId hub.now chore)
  | closed {id : ConnId} {tokenId : String}
      (closed : hub.closed? id = some tokenId) :
      RosterStep hub (.serve (.wire (.finish id)))
        (hub.roster.markGone tokenId)
  | revoked {tokenId : String} (asked : tokenId ∈ hub.revoking) :
      RosterStep hub (.answerRevoke tokenId)
        (hub.roster.markGone tokenId)
  | pruned : RosterStep hub .prune (hub.roster.prune hub.now)

theorem roster_step {action : Action}
    (stepped : hub.step crates pepper action = some next) :
    RosterStep hub action next.roster := by
  cases action with
  | serve action =>
      obtain ⟨_, system, _, rfl⟩ := step_serve stepped
      unfold follow
      split
      next => exact .same
      next id =>
        simp only
        split
        next tokenId closed => exact .closed closed
        next => exact .same
      next => exact .same
      next => exact .same
  | chore id =>
      obtain ⟨conn, chore, rest, found, todo, rfl⟩ := step_chore stepped
      exact .performed found todo
  | answerRevoke tokenId =>
      obtain ⟨asked, rfl⟩ := step_answerRevoke stepped
      exact .revoked asked
  | prune =>
      rw [step_prune stepped]
      exact .pruned

theorem config_step {action : Action}
    (stepped : hub.step crates pepper action = some next) :
    next.roster.config = hub.roster.config := by
  have roster := roster_step stepped
  generalize next.roster = roster' at roster
  cases roster with
  | same => rfl
  | performed found todo => exact Roster.config_perform _
  | closed closed => rfl
  | revoked asked => rfl
  | pruned => rfl

theorem config_run {config : RosterConfig} {actions : List Action}
    {target : Hub}
    (reached :
      (machine crates pepper config).run hub actions = some target) :
    target.roster.config = hub.roster.config :=
  (machine crates pepper config).run_preserves
    (fun _ _ _ same stepped => (config_step stepped).trans same) rfl
    reached

/-- The roster of a running server has the configuration it was started with. -/
theorem config_of_reachable {config : RosterConfig}
    (reachable : (machine crates pepper config).Reachable hub) :
    hub.roster.config = config :=
  reachable.invariant (fun hub => hub.roster.config = config) rfl
    fun _ _ _ holds stepped => (config_step stepped).trans holds

theorem desk_of_put {id : ConnId} {desk : Desk}
    (put : next.desks = hub.desks.put id desk) (other : ConnId) :
    next.desk other = if other = id then desk else hub.desk other := by
  unfold Hub.desk
  rw [put, FiniteMap.get?_put]
  split <;> rfl

/-- What a step can do to the desk of a connection. -/
inductive DeskStep (hub : Hub) (id : ConnId) : Action → Desk → Prop
  | same {action : Action} : DeskStep hub id action (hub.desk id)
  | framed {envelope : Proto.Envelope} :
      DeskStep hub id (.serve (.wire (.frame id envelope)))
        { hub.desk id with todo := rosterChores envelope }
  | performed {conn : Conn} {chore : RosterChore}
      {rest : List RosterChore}
      (found : hub.live.conns.get? id = some conn)
      (todo : (hub.desk id).todo = chore :: rest) :
      DeskStep hub id (.chore id)
        { todo := rest
          touchedAt := hub.touchedAfter id chore }

theorem desk_step {action : Action} (id : ConnId)
    (stepped : hub.step crates pepper action = some next) :
    DeskStep hub id action (next.desk id) := by
  cases action with
  | serve action =>
      obtain ⟨-, system, -, rfl⟩ := step_serve stepped
      clear stepped
      unfold follow
      split
      next actor envelope =>
        rw [desk_of_put rfl]
        split
        next same =>
          subst same
          exact .framed
        next => exact .same
      next => exact .same
      next => exact .same
      next => exact .same
  | chore actor =>
      obtain ⟨conn, chore, rest, found, todo, rfl⟩ := step_chore stepped
      rw [desk_of_put rfl]
      split
      next same =>
        subst same
        exact .performed found todo
      next => exact .same
  | answerRevoke tokenId =>
      obtain ⟨_, rfl⟩ := step_answerRevoke stepped
      exact .same
  | prune =>
      rw [step_prune stepped]
      exact .same

/-- No connection refreshed in the future. -/
theorem touchedAt_of_reachable {config : RosterConfig}
    (reachable : (machine crates pepper config).Reachable hub)
    (id : ConnId) : (hub.desk id).touchedAt ≤ hub.now := by
  refine
    reachable.invariant
      (fun hub => ∀ id, (hub.desk id).touchedAt ≤ hub.now)
      (fun _ => Nat.le_refl 0) ?_ id
  intro hub action next holds stepped id
  have forward := now_le_step stepped
  have desk := desk_step id stepped
  generalize next.desk id = desk' at desk ⊢
  cases desk with
  | same => exact (holds id).trans forward
  | framed => exact (holds id).trans forward
  | @performed conn chore rest found todo =>
      cases chore with
      | touchClient => exact forward
      | advertise session => exact (holds id).trans forward
      | setBlocked session blocked => exact (holds id).trans forward

/-- An action of another task leaves the phase of a connection. -/
theorem phase_step_other
    {live next : Live} {action : Wire.Action} {id : ConnId}
    {conn : Conn}
    (stepped : live.step action = some next)
    (found : live.conns.get? id = some conn)
    (other : actor? action ≠ some id) :
    ∃ conn', next.conns.get? id = some conn' ∧
      conn'.phase = conn.phase := by
  have kept : (next.conns.get? id).isSome = true :=
    Live.connection_kept stepped (by rw [found]; rfl)
  obtain ⟨conn', found'⟩ := Option.isSome_iff_exists.mp kept
  refine ⟨conn', found', ?_⟩
  cases Live.connection_step stepped found' with
  | accepted absent _ =>
      rw [found] at absent
      cases absent
  | @moved _ origin foundOrigin moves =>
      have same : origin = conn :=
        Option.some.inj (foundOrigin.symm.trans found)
      subst same
      cases moves with
      | stay => rfl
      | notified receiving => rfl
      | queued foundReq pc receiving => rfl
      | registered phase anonymous => exact absurd rfl other
      | greeted phase => exact absurd rfl other
      | framed phase => exact absurd rfl other
      | resolved phase => exact absurd rfl other
      | wrote phase => exact absurd rfl other
      | tornDown phase => exact absurd rfl other
      | finished phase => exact absurd rfl other
      | closing phase ends =>
          rcases ends with rfl | rfl
          · exact absurd rfl other
          · exact absurd rfl other

/-- The connection is in its session loop. -/
def InSession (hub : Hub) (id : ConnId) : Prop :=
  ∃ conn todo, hub.live.conns.get? id = some conn ∧
    conn.phase = .session todo

theorem InSession.step_other {action : Action} {id : ConnId}
    (inSession : hub.InSession id)
    (stepped : hub.step crates pepper action = some next)
    (other :
      ∀ wireAction, action = .serve (.wire wireAction) →
        actor? wireAction ≠ some id) :
    next.InSession id := by
  obtain ⟨conn, todo, found, phase⟩ := inSession
  unfold InSession
  rcases live_step stepped with
    ⟨same, _⟩ | ⟨wireAction, isWire, _, moved⟩ |
    ⟨_, _, _, _, client, _, _, _, started⟩
  · rw [same]
    exact ⟨conn, todo, found, phase⟩
  · obtain ⟨conn', found', samePhase⟩ :=
      phase_step_other moved found (other wireAction isWire)
    exact ⟨conn', todo, found', samePhase.trans phase⟩
  · obtain ⟨conn', found', samePhase⟩ :=
      phase_step_other started found nofun
    exact ⟨conn', todo, found', samePhase.trans phase⟩

/-- Every connection with roster calls to make is in its session loop. -/
def Occupied (hub : Hub) : Prop :=
  ∀ id, (hub.desk id).todo ≠ [] → hub.InSession id

theorem Occupied.step {action : Action} (occupied : hub.Occupied)
    (stepped : hub.step crates pepper action = some next) :
    next.Occupied := by
  intro id busy
  have desk := desk_step id stepped
  generalize next.desk id = desk' at desk busy
  cases desk with
  | same =>
      refine (occupied id busy).step_other stepped ?_
      rintro wireAction rfl own
      obtain ⟨ready, _⟩ := step_serve stepped
      simp only [Hub.ready, own] at ready
      exact busy (List.isEmpty_iff.mp ready)
  | @framed envelope =>
      rcases live_step stepped with
        ⟨_, inner⟩ | ⟨wireAction, isWire, _, moved⟩ |
        ⟨_, _, _, _, _, _, isAuth, _⟩
      · exact absurd rfl (inner _)
      · cases isWire
        obtain ⟨conn, _, _, isNext⟩ := Live.step_frame moved
        unfold InSession
        rw [isNext]
        exact ⟨_, _, FiniteMap.get?_put_self _ _ _, rfl⟩
      · cases isAuth
  | performed found todo =>
      refine (occupied id ?_).step_other stepped ?_
      · rw [todo]
        exact List.cons_ne_nil _ _
      · intro wireAction isWire
        cases isWire

theorem occupied_of_reachable {config : RosterConfig}
    (reachable : (machine crates pepper config).Reachable hub) :
    hub.Occupied :=
  reachable.invariant Hub.Occupied (fun _ busy => absurd rfl busy)
    fun _ _ _ occupied stepped => occupied.step stepped

theorem resolveSession_eq_some {tokenId name : String} :
    hub.resolveSession name = some tokenId ↔
      ∃ entry, hub.roster.get? name = some entry ∧
        entry.tokenId = tokenId ∧ entry.goneNow = false ∧
        hub.now - entry.lastSeen < hub.roster.config.goneAfter := by
  unfold resolveSession
  simp only [Roster.resolveSession_eq_some, Roster.live_iff]
  constructor
  · rintro ⟨entry, found, alive, owner⟩
    exact ⟨entry, found, owner, alive⟩
  · rintro ⟨entry, found, owner, alive⟩
    exact ⟨entry, found, alive, owner⟩

/-- A connection of the token makes a roster call. -/
structure Performs
    (hub : Hub) (tokenId : String) (chore : RosterChore)
    (id : ConnId) : Prop where
  conn : ∃ conn, hub.live.conns.get? id = some conn ∧
    conn.tokenId = tokenId
  todo : ∃ rest, (hub.desk id).todo = chore :: rest

/-- Where a row of a token comes from: it was there, or a connection of the token
has just refreshed or advertised it. -/
inductive RowStep (hub : Hub) (tokenId name : String) :
    Action → RosterEntry → Prop
  | kept {action : Action} {entry entry' : RosterEntry}
      (found : hub.roster.get? name = some entry)
      (owner : entry.tokenId = tokenId)
      (lastSeen : entry'.lastSeen = entry.lastSeen)
      (gone : entry.goneNow = true → entry'.goneNow = true) :
      RowStep hub tokenId name action entry'
  | touched {id : ConnId} {entry : RosterEntry}
      (performs : hub.Performs tokenId .touchClient id)
      (found : hub.roster.get? name = some entry)
      (owner : entry.tokenId = tokenId) :
      RowStep hub tokenId name (.chore id)
        { entry with lastSeen := hub.now }
  | advertised {id : ConnId} {session : PresenceSession}
      {clientId : String}
      (performs : hub.Performs tokenId (.advertise session) id)
      (named : session.name = name) :
      RowStep hub tokenId name (.chore id)
        (Roster.advertisedEntry hub.now session tokenId clientId)

theorem rowStep_markGone
    {tokenId name closed : String} {action : Action}
    {entry' : RosterEntry}
    (found' : (hub.roster.markGone closed).get? name = some entry')
    (owner' : entry'.tokenId = tokenId) :
    RowStep hub tokenId name action entry' := by
  rcases hub.roster.updateOwned_cases closed
    (fun entry => { entry with goneNow := true }) name with
    ⟨entry, found, _, marked⟩ | ⟨_, same⟩
  · cases marked.symm.trans found'
    exact .kept found owner' rfl fun _ => rfl
  · exact .kept (same.symm.trans found') owner' rfl id

/-- Where a row of a token comes from in a step. -/
theorem row_step {tokenId name : String} {action : Action}
    {entry' : RosterEntry}
    (stepped : hub.step crates pepper action = some next)
    (found' : next.roster.get? name = some entry')
    (owner' : entry'.tokenId = tokenId) :
    RowStep hub tokenId name action entry' := by
  have roster := roster_step stepped
  generalize next.roster = roster' at roster found'
  cases roster with
  | same => exact .kept found' owner' rfl id
  | @performed actor conn chore rest foundConn todo =>
      cases chore with
      | advertise session =>
          rcases @Roster.get?_advertise hub.roster conn.tokenId
            conn.clientId hub.now session name with
            same | ⟨named, _, inserted⟩
          · exact .kept (same.symm.trans found') owner' rfl id
          · cases inserted.symm.trans found'
            subst owner'
            exact
              .advertised ⟨⟨conn, foundConn, rfl⟩, rest, todo⟩ named.symm
      | touchClient =>
          rcases hub.roster.updateOwned_cases conn.tokenId
            (fun entry => { entry with lastSeen := hub.now }) name with
            ⟨entry, found, own, touched⟩ | ⟨_, same⟩
          · cases touched.symm.trans found'
            exact
              .touched
                ⟨⟨conn, foundConn, own.symm.trans owner'⟩, rest, todo⟩
                found owner'
          · exact .kept (same.symm.trans found') owner' rfl id
      | setBlocked session blocked =>
          simp only [Roster.perform, Roster.get?_setBlocked] at found'
          split at found'
          next same =>
            subst same
            obtain ⟨entry, found, rfl⟩ :=
              Option.map_eq_some_iff.mp found'
            exact .kept found owner' rfl id
          next => exact .kept found' owner' rfl id
  | closed closed => exact rowStep_markGone found' owner'
  | revoked asked => exact rowStep_markGone found' owner'
  | pruned =>
      rw [Roster.get?_prune] at found'
      obtain ⟨found, _⟩ := Option.filter_eq_some_iff.mp found'
      exact .kept found owner' rfl id

/-- A presence frame for sessions of one harness. -/
def presenceFrame (sender : String) (names : List String) :
    Proto.Envelope where
  v := 1
  msgType := .presence
  id := "p1"
  ts := "2023-11-14T22:14:20Z"
  sender := sender
  body :=
    .presence
      { sessions :=
          names.map fun name =>
            .object
              [("harness", .string "claude"), ("name", .string name)] }

end Hub

namespace Sample

open HollerServer.Proto
open HollerServer.Token.Sample

/-- The presence frame of the sample client. -/
def presence : List String → Envelope :=
  Hub.presenceFrame tokenId

def ping : Envelope where
  v := 1
  msgType := .ping
  id := "g1"
  ts := "2023-11-14T22:14:20Z"
  sender := tokenId
  body := .ping { hostname := none }

/-- A step of a connection task. -/
def wire (action : Wire.Action) : Hub.Action :=
  .serve (.wire action)

noncomputable def machine : Machine Hub Hub.Action :=
  Hub.machine .sample pepper RosterConfig.default

/-- The state after a run; the state before it when some action is not enabled. -/
noncomputable def after (hub : Hub) (actions : List Hub.Action) : Hub :=
  (machine.run hub actions).getD hub

/-- The sample token is minted and redeemed, and connection 0 has presented its
credential. -/
noncomputable def presentedHub : Hub where
  system :=
    { file := save .sample [seen]
      live := ({} : Live).setConn 0 sampleConn }
  roster := Roster.new RosterConfig.default

theorem step_store_sample
    {hub : Hub} {op : Op} {file file' : File} {reply : Reply}
    (isFile : hub.system.file = file)
    (executed : op.exec .sample pepper file = (reply, file')) :
    machine.step hub (.serve (.store op)) =
      some { hub with system := { hub.system with file := file' } } := by
  subst isFile
  have served :
      Server.step .sample pepper hub.system (.store op) =
        some { hub.system with file := file' } :=
    step_store executed
  exact @Hub.step_serve_of hub _ _ (.store op) _ rfl served

/-- The client comes back with the same credential. -/
theorem exec_verify_seen :
    verify.exec .sample pepper (save .sample [seen]) =
      (.ok (.verified client), save .sample [seen]) :=
  Mutation.exec_of_modify (load_save Crates.sample_lawful _)
    (modify_verify_record rfl rfl rfl rfl rfl)

theorem step_auth_sample
    {hub : Hub} {id : ConnId} {file file' : File}
    (isFile : hub.system.file = file)
    (verified :
      verify.exec .sample pepper file = (.ok (.verified client), file'))
    (fresh : hub.live.conns.get? id = none) :
    machine.step hub (.serve (.auth id seenAt tokenId credential)) =
      some
        { hub with
          system :=
            { file := file'
              live := hub.live.setConn id sampleConn } } := by
  subst isFile
  have started :
      hub.live.step (.auth id tokenId clientId "laptop") =
        some (hub.live.setConn id sampleConn) := by
    simp only [Live.step, fresh]
    rfl
  have served :
      Server.step .sample pepper hub.system
          (.auth id seenAt tokenId credential) =
        some
          { file := file'
            live := hub.live.setConn id sampleConn } :=
    step_auth verified started
  exact
    @Hub.step_serve_of hub _ _ (.auth id seenAt tokenId credential) _ rfl
      served

theorem run_presentedHub :
    machine.run machine.init (presented.map .serve) =
      some presentedHub := by
  refine
    (Machine.run_cons_eq_some _).mpr
      ⟨_, step_store_sample rfl exec_mint, ?_⟩
  refine
    (Machine.run_cons_eq_some _).mpr
      ⟨_, step_store_sample rfl exec_redeemCall, ?_⟩
  exact
    (Machine.run_cons_eq_some _).mpr
      ⟨_, step_auth_sample rfl exec_verify rfl, rfl⟩

end Sample

end HollerServer.Server
