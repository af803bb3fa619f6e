import HollerServer.Server.Switchboard
import HollerServer.Wire.Cancellation

/-!
# Requests of control connections and their calls

What a step does to a control connection, to the server below it and to the calls
of the registry.  Each call belongs to one request of one connection.
-/

namespace HollerServer.Server

open HollerServer.Proto
open HollerServer.Token
open HollerServer.Wire
open Transition

/-- The call that led to the errand. -/
def Errand.tx? : Errand → Option ReqId
  | .calling tx _ => some tx
  | .writing tx _ => tx
  | .confirmed _ | .counted _ _ | .resolved _ | .removed _ _ => none

/-- The request in service, with its call. -/
def Station.errand? : Station → Option (Control.Request × Option ReqId)
  | .serving request errand => some (request, errand.tx?)
  | .reading | .returned => none

/-- The requests a task has taken up, each with the call it led to. -/
def ControlTask.errands (control : ControlTask) :
    List (Control.Request × Option ReqId) :=
  control.served.map (fun item => (item.request, item.tx)) ++
    control.station.errand?.toList

namespace Switchboard

variable {settings : Settings} {json : Control.LineJson}
  {board next : Switchboard} {action : Action}

/-! ## What a step does -/

section Sections

variable (settings board)

/-- The reply that one look at the server gives. -/
def reading : Control.Request → Option Control.Reply
  | .status =>
      some
        (.status
          { hostname := settings.serverHostname
            listening := settings.listening
            clients := UInt64.ofNat board.live.registry.len })
  | .roster =>
      some
        (.roster
          ((board.hub.roster.snapshot board.hub.now).map rosterRowDoc))
  | .ping _ | .query _ _ _ | .say _ _ | .interrupt _ | .answer _ _
  | .revoke _ => none

/-- The answer to an untargeted query that has read the confirmed harnesses and the
number of clients before. -/
def answerHere
    (rows : List HarnessConfirmation) (clients : Nat) (cmd : String)
    (args : List String) : Control.QueryReply :=
  match dispatch settings.quoted cmd args settings.serverHostname
      settings.listening clients
      (board.hub.roster.liveCount board.hub.now) rows with
  | .ok body => .ok body
  | .error body => .err body

/-- One critical section of a request: how far it was before, the server after it
and how far it is then. -/
inductive Section (request : Control.Request) :
    Option Errand → Hub → Errand → Prop
  | replied {reply : Control.Reply}
      (kind : reply.kind = request.kind)
      (refused :
        call? settings request ≠ none → refusal settings request = some reply)
      (read :
        call? settings request = none →
          reading settings board request = some reply) :
      Section request none board.hub (.writing none reply)
  | polled {cmd : String} {args : List String}
      (asked : request = .query none cmd args) :
      Section request none board.hub
        (.confirmed (confirmedHarnessesSnapshot board.confirmed))
  | resolved {tokenId target cmd : String} {args : List String}
      (asked : request = .query (some target) cmd args)
      (led : board.LeadsTo tokenId request) :
      Section request none board.hub (.resolved tokenId)
  | called {tokenId id : String} {tx : ReqId} {host : Option String}
      {call : Call} {hub : Hub} (asks : call? settings request = some call)
      (led : board.LeadsTo tokenId request)
      (moved :
        board.stepHub settings (.serve (.wire (.call tx tokenId id call))) =
          some hub) :
      Section request none hub (.calling tx host)
  | removed {tokenId : String} {hub : Hub}
      (asked : request = .revoke tokenId)
      (moved :
        board.stepHub settings (.serve (.wire (.revoke tokenId))) =
          some hub) :
      Section request none hub
        (.removed tokenId (board.live.registry.get? tokenId).isSome)
  | counted {rows : List HarnessConfirmation} :
      Section request (some (.confirmed rows)) board.hub
        (.counted rows board.live.registry.len)
  | dispatched {rows : List HarnessConfirmation} {clients : Nat}
      {target : Option String} {cmd : String} {args : List String}
      (asked : request = .query target cmd args) :
      Section request (some (.counted rows clients)) board.hub
        (.writing none
          (.query (answerHere settings board rows clients cmd args)))
  | relayed {tokenId id : String} {tx : ReqId} {host : Option String}
      {call : Call} {hub : Hub} (asks : call? settings request = some call)
      (moved :
        board.stepHub settings (.serve (.wire (.call tx tokenId id call))) =
          some hub) :
      Section request (some (.resolved tokenId)) hub (.calling tx host)
  | unlisted {tokenId : String} {closed : Bool} {hub : Hub}
      (moved :
        board.stepHub settings (.answerRevoke tokenId) = some hub) :
      Section request (some (.removed tokenId closed)) hub
        (.writing none (.revoke { closed }))

end Sections

theorem place_eq_some
    {request : Control.Request} {tokenId id : String}
    {host : Option String} {tx : ReqId} {hub : Hub} {errand : Errand}
    (placed :
      board.place settings request tokenId host tx id =
        some (hub, errand)) :
    ∃ call, call? settings request = some call ∧
      board.stepHub settings (.serve (.wire (.call tx tokenId id call))) =
        some hub ∧
      errand = .calling tx host := by
  unfold place at placed
  obtain ⟨call, asks, mapped⟩ := Option.bind_eq_some_iff.mp placed
  obtain ⟨moved, stepped, same⟩ := Option.map_eq_some_iff.mp mapped
  cases same
  exact ⟨call, asks, stepped, rfl⟩

theorem kind_of_refusal
    {request : Control.Request} {reply : Control.Reply}
    (refused : refusal settings request = some reply) :
    reply.kind = request.kind := by
  unfold refusal at refused
  split at refused <;> cases refused <;> rfl

/-- Only a request that asks for a call is refused. -/
theorem call?_of_refusal
    {request : Control.Request} {reply : Control.Reply}
    (refused : refusal settings request = some reply) :
    call? settings request ≠ none := by
  unfold refusal at refused
  split at refused <;> cases refused <;> simp [call?]

/-- A request that the server refuses without a call. -/
theorem section_of_refusal
    {request : Control.Request} {hub : Hub} {errand : Errand}
    (refused :
      ((refusal settings request).map fun reply =>
        (board.hub, Errand.writing none reply)) = some (hub, errand)) :
    Section settings board request none hub errand := by
  obtain ⟨reply, found, same⟩ := Option.map_eq_some_iff.mp refused
  cases same
  refine .replied (kind_of_refusal found) (fun _ => found) ?_
  intro silent
  exact absurd silent (call?_of_refusal found)

theorem section_of_placeFor
    {request : Control.Request} {session id : String} {tx : ReqId}
    {hub : Hub} {errand : Errand}
    (led :
      ∀ tokenId, board.hub.resolveSession session = some tokenId →
        board.LeadsTo tokenId request)
    (placed :
      board.placeFor settings request session tx id = some (hub, errand)) :
    Section settings board request none hub errand := by
  unfold placeFor at placed
  split at placed
  next tokenId resolved =>
    obtain ⟨call, asks, moved, rfl⟩ := place_eq_some placed
    exact .called asks (led tokenId resolved) moved
  next => exact section_of_refusal placed

theorem section_of_takeUp
    {request : Control.Request} {target : Option String} {tx : ReqId}
    {id : String} {hub : Hub} {errand : Errand}
    (taken :
      board.takeUp settings request target tx id = some (hub, errand)) :
    Section settings board request none hub errand := by
  cases request with
  | status =>
      cases taken
      exact .replied rfl (by simp [call?]) fun _ => rfl
  | ping tokenId =>
      obtain ⟨call, asks, moved, rfl⟩ := place_eq_some taken
      exact .called asks rfl moved
  | roster =>
      cases taken
      exact .replied rfl (by simp [call?]) fun _ => rfl
  | query wanted cmd args =>
      cases wanted with
      | none =>
          cases taken
          exact .polled rfl
      | some wanted =>
          simp only [takeUp] at taken
          split at taken
          next resolves =>
            cases target with
            | none => exact section_of_refusal taken
            | some tokenId =>
                cases taken
                exact .resolved rfl resolves
          next => cases taken
  | say session text =>
      exact section_of_placeFor (fun _ resolved => resolved) taken
  | interrupt session =>
      exact section_of_placeFor (fun _ resolved => resolved) taken
  | answer session choice =>
      exact section_of_placeFor (fun _ resolved => resolved) taken
  | revoke tokenId =>
      simp only [takeUp] at taken
      obtain ⟨moved, stepped, same⟩ := Option.map_eq_some_iff.mp taken
      cases same
      exact .removed rfl stepped

theorem section_of_goOn
    {request : Control.Request} {errand after : Errand} {tx : ReqId}
    {id : String} {hub : Hub}
    (went :
      board.goOn settings request errand tx id = some (hub, after)) :
    Section settings board request (some errand) hub after := by
  unfold goOn at went
  split at went
  · cases went
    exact .counted
  · cases went
    exact .dispatched rfl
  · obtain ⟨call, asks, moved, rfl⟩ := place_eq_some went
    exact .relayed asks moved
  · obtain ⟨moved, stepped, same⟩ := Option.map_eq_some_iff.mp went
    cases same
    exact .unlisted stepped
  · cases went

/-- What an action does to the board. -/
inductive Takes
    (settings : Settings) (json : Control.LineJson) (board : Switchboard) :
    Action → Switchboard → Prop
  | hub {inner : Hub.Action} {hub : Hub}
      (outside : ofControl inner = false)
      (moved : board.stepHub settings inner = some hub) :
      Takes settings json board (.hub inner) { board with hub }
  | accept {task : TaskId} (free : board.tasks.get? task = none) :
      Takes settings json board (.accept task) (board.setTask task {})
  | skip {task : TaskId} {text id : String} {target : Option String}
      {tx : ReqId} {control : ControlTask}
      (found : board.tasks.get? task = some control)
      (station : control.station = .reading)
      (unread : readLine json text = none) :
      Takes settings json board (.line task text target tx id) board
  | line {task : TaskId} {text id : String} {target : Option String}
      {tx : ReqId} {control : ControlTask} {request : Control.Request}
      {hub : Hub} {errand : Errand}
      (found : board.tasks.get? task = some control)
      (station : control.station = .reading)
      (read : readLine json text = some request)
      (opened : Section settings board request none hub errand) :
      Takes settings json board (.line task text target tx id)
        { board.setTask task
            { control with
              station := .serving request errand
              asked := control.asked ++ [request] } with
          hub }
  | hangUp {task : TaskId} {control : ControlTask}
      (found : board.tasks.get? task = some control)
      (station : control.station = .reading) :
      Takes settings json board (.hangUp task)
        (board.setTask task { control with station := .returned })
  | proceed {task : TaskId} {id : String} {tx : ReqId}
      {control : ControlTask} {request : Control.Request}
      {before after : Errand} {hub : Hub}
      (found : board.tasks.get? task = some control)
      (station : control.station = .serving request before)
      (went : Section settings board request (some before) hub after) :
      Takes settings json board (.proceed task tx id)
        { board.setTask task
            { control with station := .serving request after } with
          hub }
  | settle {task : TaskId} {control : ControlTask}
      {request : Control.Request} {tx : ReqId} {host : Option String}
      {req : Request} {outcome : Outcome} {reply : Control.Reply}
      (found : board.tasks.get? task = some control)
      (station : control.station = .serving request (.calling tx host))
      (foundReq : board.live.reqs.get? tx = some req)
      (returned : req.pc = .returned outcome)
      (replied : outcomeReply settings request outcome = some reply) :
      Takes settings json board (.settle task)
        { board.setTask task
            { control with
              station := .serving request (.writing (some tx) reply) } with
          confirmed := board.confirmedAfter request host outcome }
  | write {task : TaskId} {written : Bool} {control : ControlTask}
      {request : Control.Request} {tx : Option ReqId}
      {reply : Control.Reply} {sent : Bool}
      (found : board.tasks.get? task = some control)
      (station : control.station = .serving request (.writing tx reply))
      (serialized : sent = true → (Control.replyLine reply).isSome = true) :
      Takes settings json board (.write task written)
        (board.setTask task
          { control with
            station := if sent then .reading else .returned
            served := control.served ++ [{ request, tx, reply, sent }] })

theorem takes_of_step
    (stepped : board.step settings json action = some next) :
    Takes settings json board action next := by
  cases action with
  | hub inner =>
      simp only [step] at stepped
      split at stepped
      next => cases stepped
      next outside =>
        obtain ⟨hub, moved, rfl⟩ := Option.map_eq_some_iff.mp stepped
        exact .hub (Bool.eq_false_iff.mpr outside) moved
  | accept task =>
      simp only [step] at stepped
      split at stepped
      next free =>
        cases stepped
        exact .accept free
      next => cases stepped
  | line task text target tx id =>
      obtain ⟨control, found, moved⟩ := Option.bind_eq_some_iff.mp stepped
      simp only [controlStep] at moved
      split at moved
      next station =>
        split at moved
        next unread =>
          cases moved
          exact .skip found station unread
        next request read =>
          obtain ⟨⟨hub, errand⟩, taken, rfl⟩ :=
            Option.map_eq_some_iff.mp moved
          exact .line found station read (section_of_takeUp taken)
      next => cases moved
  | hangUp task =>
      obtain ⟨control, found, moved⟩ := Option.bind_eq_some_iff.mp stepped
      simp only [controlStep] at moved
      split at moved
      next station =>
        cases moved
        exact .hangUp found station
      next => cases moved
  | proceed task tx id =>
      obtain ⟨control, found, moved⟩ := Option.bind_eq_some_iff.mp stepped
      simp only [controlStep] at moved
      split at moved
      next request errand station =>
        obtain ⟨⟨hub, after⟩, went, rfl⟩ := Option.map_eq_some_iff.mp moved
        exact .proceed found station (section_of_goOn went)
      next => cases moved
  | settle task =>
      obtain ⟨control, found, moved⟩ := Option.bind_eq_some_iff.mp stepped
      simp only [controlStep] at moved
      split at moved
      next request tx host station =>
        split at moved
        next outcome pc =>
          obtain ⟨req, foundReq, returned⟩ := Option.map_eq_some_iff.mp pc
          obtain ⟨reply, replied, rfl⟩ := Option.map_eq_some_iff.mp moved
          exact .settle found station foundReq returned replied
        next => cases moved
      next => cases moved
  | write task written =>
      obtain ⟨control, found, moved⟩ := Option.bind_eq_some_iff.mp stepped
      simp only [controlStep] at moved
      split at moved
      next request tx reply station =>
        cases moved
        refine .write found station ?_
        intro sent
        exact (Bool.and_eq_true_iff.mp sent).2
      next => cases moved

/-! ## The server below -/

/-- The connection tasks and the calls go on without a new call. -/
def Quiet (live after : Live) : Prop :=
  after = live ∨
    ∃ action, live.step action = some after ∧
      ∀ tx tokenId id call, action ≠ .call tx tokenId id call

theorem live_of_wire {wireAction : Wire.Action} {hub : Hub}
    (moved :
      board.stepHub settings (.serve (.wire wireAction)) = some hub) :
    board.live.step wireAction = some hub.live := by
  rcases Hub.live_step moved with
    ⟨_, inner⟩ | ⟨other, same, _, stepped⟩ |
    ⟨conn, now, tokenId, credential, client, file, same, _⟩
  · exact absurd rfl (inner wireAction)
  · cases same
    exact stepped
  · cases same

theorem quiet_of_outside {inner : Hub.Action} {hub : Hub}
    (outside : ofControl inner = false)
    (moved : board.stepHub settings inner = some hub) :
    Quiet board.live hub.live := by
  rcases Hub.live_step moved with
    ⟨same, _⟩ | ⟨wireAction, rfl, _, stepped⟩ |
    ⟨conn, now, tokenId, credential, client, file, rfl, _, stepped⟩
  · exact Or.inl same
  · refine Or.inr ⟨wireAction, stepped, ?_⟩
    rintro tx tokenId id call rfl
    cases outside
  · exact Or.inr ⟨_, stepped, by simp⟩

theorem quiet_of_revoke {tokenId : String} {hub : Hub}
    (moved :
      board.stepHub settings (.serve (.wire (.revoke tokenId))) =
        some hub) :
    Quiet board.live hub.live :=
  Or.inr ⟨_, live_of_wire moved, by simp⟩

theorem quiet_of_answerRevoke {tokenId : String} {hub : Hub}
    (moved :
      board.stepHub settings (.answerRevoke tokenId) = some hub) :
    Quiet board.live hub.live := by
  obtain ⟨_, rfl⟩ := Hub.step_answerRevoke moved
  exact Or.inl rfl

/-- A critical section is a step of the server, or reads only. -/
theorem Section.hub
    {request : Control.Request} {before : Option Errand} {hub : Hub}
    {after : Errand}
    (went : Section settings board request before hub after) :
    hub = board.hub ∨
      ∃ inner, board.stepHub settings inner = some hub := by
  cases went with
  | replied | polled | resolved | counted | dispatched => exact Or.inl rfl
  | called asks led moved => exact Or.inr ⟨_, moved⟩
  | removed asked moved => exact Or.inr ⟨_, moved⟩
  | relayed asks moved => exact Or.inr ⟨_, moved⟩
  | unlisted moved => exact Or.inr ⟨_, moved⟩

theorem Takes.hub_moves (takes : Takes settings json board action next) :
    next.hub = board.hub ∨
      ∃ inner, board.stepHub settings inner = some next.hub := by
  cases takes with
  | hub outside moved => exact Or.inr ⟨_, moved⟩
  | line found station read opened => exact opened.hub
  | proceed found station went => exact went.hub
  | accept | skip | hangUp | settle | write => exact Or.inl rfl

/-- The server under the control connections runs as it does by itself. -/
theorem hub_reachable {config : RosterConfig}
    (reachable : (machine settings json config).Reachable board) :
    (Hub.machine settings.crates settings.pepper config).Reachable
      board.hub := by
  refine
    reachable.invariant
      (fun board =>
        (Hub.machine settings.crates settings.pepper config).Reachable
          board.hub)
      (Machine.reachable_init _) ?_
  intro board action next reached stepped
  rcases (takes_of_step stepped).hub_moves with same | ⟨inner, moved⟩
  · rw [same]
    exact reached
  · exact reached.step moved

theorem live_reachable {config : RosterConfig}
    (reachable : (machine settings json config).Reachable board) :
    Live.machine.Reachable board.live := by
  refine
    (hub_reachable reachable).invariant
      (fun hub => Live.machine.Reachable hub.live)
      (Machine.reachable_init _) ?_
  intro hub action next reached stepped
  rcases Hub.live_step stepped with
    ⟨same, _⟩ | ⟨wireAction, _, _, moved⟩ |
    ⟨conn, now, tokenId, credential, client, file, _, _, moved⟩
  · rw [same]
    exact reached
  · exact reached.step moved
  · have started :
        Live.machine.step hub.live
            (.auth conn client.tokenId client.clientId client.machine) =
          some next.live :=
      moved
    exact reached.step started

/-! ## The requests and their calls -/

/-- The requests of a task with their calls; none if there is no such task. -/
def errandsOf (board : Switchboard) (task : TaskId) :
    List (Control.Request × Option ReqId) :=
  ((board.tasks.get? task).map ControlTask.errands).getD []

theorem errandsOf_of_found {task : TaskId} {control : ControlTask}
    (found : board.tasks.get? task = some control) :
    board.errandsOf task = control.errands := by
  unfold errandsOf
  rw [found]
  rfl

/-- What the tasks have taken up once one of them has gone on. -/
theorem errandsOf_of_put {task : TaskId} {control : ControlTask}
    (put : next.tasks = board.tasks.put task control) (other : TaskId) :
    next.errandsOf other =
      if other = task then control.errands else board.errandsOf other := by
  unfold errandsOf
  rw [put, FiniteMap.get?_put]
  split <;> rfl

theorem errandsOf_of_kept {task : TaskId} {control moved : ControlTask}
    (found : board.tasks.get? task = some control)
    (put : next.tasks = board.tasks.put task moved)
    (kept : moved.errands = control.errands) (other : TaskId) :
    next.errandsOf other = board.errandsOf other := by
  rw [errandsOf_of_put put]
  split
  next same => rw [same, errandsOf_of_found found, kept]
  next => rfl

/-- The task serves the request, having answered `index` others. -/
def Serves
    (board : Switchboard) (task : TaskId) (index : Nat)
    (request : Control.Request) : Prop :=
  ∃ control errand,
    board.tasks.get? task = some control ∧
    control.served.length = index ∧
    control.station = .serving request errand

theorem serves_of_put
    {task : TaskId} {index : Nat} {control : ControlTask}
    {asked : List Control.Request} {request : Control.Request}
    {errand : Errand} (length : control.served.length = index)
    (put :
      next.tasks = board.tasks.put task
        { control with station := .serving request errand, asked }) :
    next.Serves task index request := by
  refine
    ⟨{ control with station := .serving request errand, asked }, errand, ?_,
      length, rfl⟩
  rw [put]
  exact FiniteMap.get?_put_self _ _ _

/-- The task has resolved the target of the request it serves. -/
def HasResolved
    (board : Switchboard) (task : TaskId) (index : Nat)
    (request : Control.Request) (tokenId : String) : Prop :=
  ∃ control,
    board.tasks.get? task = some control ∧
    control.served.length = index ∧
    control.station = .serving request (.resolved tokenId)

/-- What a step does to the requests and their calls: nothing, a request is taken up
without a call, or the last request of a task leads to a new call. -/
inductive Books (settings : Settings) (board next : Switchboard) : Prop
  | kept
      (same : ∀ other, next.errandsOf other = board.errandsOf other)
      (quiet : Quiet board.live next.live)
  | noted {task : TaskId} {request : Control.Request}
      (after :
        ∀ other,
          next.errandsOf other =
            if other = task then board.errandsOf task ++ [(request, none)]
            else board.errandsOf other)
      (quiet : Quiet board.live next.live)
  | placed {task : TaskId}
      {earlier : List (Control.Request × Option ReqId)}
      {request : Control.Request} {tokenId id : String} {tx : ReqId}
      {call : Call}
      (before :
        board.errandsOf task = earlier ∨
          board.errandsOf task = earlier ++ [(request, none)])
      (after :
        ∀ other,
          next.errandsOf other =
            if other = task then earlier ++ [(request, some tx)]
            else board.errandsOf other)
      (asks : call? settings request = some call)
      (serves : next.Serves task earlier.length request)
      (led :
        board.LeadsTo tokenId request ∨
          board.HasResolved task earlier.length request tokenId)
      (started :
        board.live.step (.call tx tokenId id call) = some next.live)

/-- A section that opens a request. -/
theorem books_of_opened
    {request : Control.Request} {errand : Errand} {task : TaskId}
    {control : ControlTask} {asked : List Control.Request}
    (found : board.tasks.get? task = some control)
    (station : control.station = .reading)
    (opened : Section settings board request none next.hub errand)
    (put :
      next.tasks = board.tasks.put task
        { control with
          station := .serving request errand
          asked }) :
    Books settings board next := by
  have before :
      board.errandsOf task =
        control.served.map fun item => (item.request, item.tx) := by
    rw [errandsOf_of_found found, ControlTask.errands, station]
    exact List.append_nil _
  have after := errandsOf_of_put put
  have place :
      control.served.length =
        (control.served.map fun item => (item.request, item.tx)).length :=
    (List.length_map _).symm
  have serves := serves_of_put place put
  have quietly (silent : errand.tx? = none)
      (quiet : Quiet board.live next.live) :
      Books settings board next := by
    refine @Books.noted _ _ _ task request ?_ quiet
    intro other
    rw [after, before, ControlTask.errands, Station.errand?, silent]
    rfl
  generalize hub : next.hub = moved at opened
  have sameLive : next.live = moved.live := by
    rw [← hub]
    rfl
  rw [sameLive] at quietly
  cases opened with
  | replied kind refused read => exact quietly rfl (Or.inl rfl)
  | polled asked => exact quietly rfl (Or.inl rfl)
  | resolved asked led => exact quietly rfl (Or.inl rfl)
  | called asks led stepped =>
      have started := live_of_wire stepped
      rw [← sameLive] at started
      exact .placed (Or.inl before) after asks serves (Or.inl led) started
  | removed asked stepped => exact quietly rfl (quiet_of_revoke stepped)

/-- A section of a request in service. -/
theorem books_of_went
    {request : Control.Request} {errand errand' : Errand} {task : TaskId}
    {control : ControlTask}
    (found : board.tasks.get? task = some control)
    (station : control.station = .serving request errand)
    (went :
      Section settings board request (some errand) next.hub errand')
    (put :
      next.tasks = board.tasks.put task
        { control with station := .serving request errand' }) :
    Books settings board next := by
  have before :
      board.errandsOf task =
        control.served.map (fun item => (item.request, item.tx)) ++
          [(request, errand.tx?)] := by
    rw [errandsOf_of_found found, ControlTask.errands, station]
    rfl
  have after := errandsOf_of_put put
  have place :
      control.served.length =
        (control.served.map fun item => (item.request, item.tx)).length :=
    (List.length_map _).symm
  have serves := serves_of_put place put
  have quietly (silent : errand'.tx? = errand.tx?)
      (quiet : Quiet board.live next.live) :
      Books settings board next := by
    refine .kept ?_ quiet
    refine errandsOf_of_kept found put ?_
    rw [ControlTask.errands, ControlTask.errands, station,
      Station.errand?, Station.errand?, silent]
  generalize hub : next.hub = moved at went
  have sameLive : next.live = moved.live := by
    rw [← hub]
    rfl
  rw [sameLive] at quietly
  cases went with
  | counted => exact quietly rfl (Or.inl rfl)
  | dispatched asked => exact quietly rfl (Or.inl rfl)
  | relayed asks stepped =>
      have started := live_of_wire stepped
      rw [← sameLive] at started
      exact
        .placed (Or.inr before) after asks serves
          (Or.inr ⟨control, found, place, station⟩) started
  | unlisted stepped => exact quietly rfl (quiet_of_answerRevoke stepped)

theorem Takes.books (takes : Takes settings json board action next) :
    Books settings board next := by
  cases takes with
  | hub outside moved =>
      exact .kept (fun _ => rfl) (quiet_of_outside outside moved)
  | @accept task free =>
      refine .kept ?_ (Or.inl rfl)
      intro other
      rw [errandsOf_of_put rfl]
      split
      next same =>
        unfold errandsOf
        rw [same, free]
        rfl
      next => rfl
  | skip found station unread => exact .kept (fun _ => rfl) (Or.inl rfl)
  | line found station read opened =>
      exact books_of_opened found station opened rfl
  | hangUp found station =>
      refine .kept (errandsOf_of_kept found rfl ?_) (Or.inl rfl)
      rw [ControlTask.errands, ControlTask.errands, station]
      rfl
  | proceed found station went =>
      exact books_of_went found station went rfl
  | settle found station foundReq returned replied =>
      refine .kept (errandsOf_of_kept found rfl ?_) (Or.inl rfl)
      rw [ControlTask.errands, ControlTask.errands, station]
      rfl
  | @write task written control request tx reply sent found station
      serialized =>
      refine .kept (errandsOf_of_kept found rfl ?_) (Or.inl rfl)
      rw [ControlTask.errands, ControlTask.errands, station,
        List.map_append, List.append_assoc]
      cases sent <;> rfl

/-- The request at a position of a task has led to the call. -/
def Holds
    (board : Switchboard) (task : TaskId) (index : Nat)
    (request : Control.Request) (tx : ReqId) : Prop :=
  (board.errandsOf task)[index]? = some (request, some tx)

theorem getElem?_concat_iff {α : Type}
    {earlier : List α} {last item : α} {index : Nat} :
    (earlier ++ [last])[index]? = some item ↔
      earlier[index]? = some item ∨
        index = earlier.length ∧ item = last := by
  rcases Nat.lt_trichotomy index earlier.length with below | same | above
  · rw [List.getElem?_append_left below]
    have apart : index ≠ earlier.length := Nat.ne_of_lt below
    simp [apart]
  · subst same
    simp [eq_comm]
  · have outside : (earlier ++ [last]).length ≤ index := by
      rw [List.length_append, List.length_singleton]
      omega
    have apart : index ≠ earlier.length := by omega
    rw [List.getElem?_eq_none outside,
      List.getElem?_eq_none (Nat.le_of_lt above)]
    simp [apart]

/-- A request without a call holds none. -/
theorem holds_concat_none
    {earlier : List (Control.Request × Option ReqId)}
    {request request' : Control.Request} {index : Nat} {tx : ReqId} :
    (earlier ++ [(request, none)])[index]? = some (request', some tx) ↔
      earlier[index]? = some (request', some tx) := by
  rw [getElem?_concat_iff]
  simp

/-- A request keeps its place and its call. -/
theorem Books.holds (books : Books settings board next)
    {task : TaskId} {index : Nat} {request : Control.Request} {tx : ReqId}
    (holds : board.Holds task index request tx) :
    next.Holds task index request tx := by
  unfold Holds at holds ⊢
  cases books with
  | kept same quiet =>
      rw [same]
      exact holds
  | noted after quiet =>
      rw [after]
      split
      next same =>
        rw [same] at holds
        exact holds_concat_none.mpr holds
      next => exact holds
  | placed before after asks serves led started =>
      rw [after]
      split
      next same =>
        refine getElem?_concat_iff.mpr (Or.inl ?_)
        rw [same] at holds
        rcases before with before | before
        · rw [before] at holds
          exact holds
        · rw [before] at holds
          exact holds_concat_none.mp holds
      next => exact holds

/-- The requests of a task only grow. -/
theorem Books.length_le (books : Books settings board next)
    (task : TaskId) :
    (board.errandsOf task).length ≤ (next.errandsOf task).length := by
  cases books with
  | kept same quiet => rw [same]
  | noted after quiet =>
      rw [after]
      split
      next same =>
        rw [same, List.length_append]
        exact Nat.le_add_right _ _
      next => exact Nat.le_refl _
  | placed before after asks serves led started =>
      rw [after]
      split
      next same =>
        rw [same]
        rcases before with before | before
        · rw [before, List.length_append]
          exact Nat.le_add_right _ _
        · rw [before, List.length_append, List.length_append]
          exact Nat.le_refl _
      next => exact Nat.le_refl _

section Rows

variable {live after : Live} {tx : ReqId} {req : Request}

theorem known_of_quiet (coherent : live.Coherent)
    (quiet : Quiet live after)
    (known : (after.reqs.get? tx).isSome = true) :
    (live.reqs.get? tx).isSome = true := by
  rcases quiet with rfl | ⟨action, stepped, none_⟩
  · exact known
  · obtain ⟨req', found'⟩ := Option.isSome_iff_exists.mp known
    cases Live.request_step coherent stepped found' with
    | created absent fresh => exact absurd rfl (none_ _ _ _ _)
    | moved found emits moves delivered =>
        rw [found]
        rfl

/-- A call goes on with the arguments it was made with. -/
theorem call_of_quiet (coherent : live.Coherent)
    (quiet : Quiet live after) (found : live.reqs.get? tx = some req) :
    ∃ req', after.reqs.get? tx = some req' ∧ req'.call = req.call ∧
      req'.tokenId = req.tokenId := by
  rcases quiet with rfl | ⟨action, stepped, _⟩
  · exact ⟨req, found, rfl, rfl⟩
  · obtain ⟨req', found', follows⟩ :=
      Live.follows_step coherent stepped found
    exact ⟨req', found', follows.call, follows.token⟩

end Rows

/-- Every call belongs to one request, and was made for it. -/
structure Accounts (settings : Settings) (board : Switchboard) : Prop where
  called :
    ∀ task index request tx, board.Holds task index request tx →
      ∃ req, board.live.reqs.get? tx = some req ∧
        call? settings request = some req.call
  owned :
    ∀ tx, (board.live.reqs.get? tx).isSome = true →
      ∃ task index request, board.Holds task index request tx
  apart :
    ∀ tx task index request task' index' request',
      board.Holds task index request tx →
      board.Holds task' index' request' tx →
      task = task' ∧ index = index'

namespace Accounts

variable (accounts : Accounts settings board)
include accounts

theorem of_quiet (coherent : board.live.Coherent)
    (same :
      ∀ task index request tx,
        next.Holds task index request tx ↔
          board.Holds task index request tx)
    (quiet : Quiet board.live next.live) :
    Accounts settings next where
  called := by
    intro task index request tx holds
    obtain ⟨req, found, asks⟩ :=
      accounts.called task index request tx
        ((same task index request tx).mp holds)
    obtain ⟨req', found', sameCall, _⟩ :=
      call_of_quiet coherent quiet found
    exact ⟨req', found', by rw [sameCall, asks]⟩
  owned := by
    intro tx known
    obtain ⟨task, index, request, holds⟩ :=
      accounts.owned tx (known_of_quiet coherent quiet known)
    exact
      ⟨task, index, request, (same task index request tx).mpr holds⟩
  apart := by
    intro tx task index request task' index' request' first second
    exact
      accounts.apart tx task index request task' index' request'
        ((same task index request tx).mp first)
        ((same task' index' request' tx).mp second)

/-- A new call is booked for the request it was made for. -/
theorem of_placed
    {task : TaskId} {position : Nat} {request : Control.Request}
    {tokenId id : String} {tx : ReqId} {call : Call}
    (more :
      ∀ other index request' tx',
        next.Holds other index request' tx' ↔
          board.Holds other index request' tx' ∨
            other = task ∧ index = position ∧ request' = request ∧
              tx' = tx)
    (asks : call? settings request = some call)
    (started :
      board.live.step (.call tx tokenId id call) = some next.live) :
    Accounts settings next := by
  obtain ⟨absent, added⟩ := Live.step_call started
  have rows (other : ReqId) :
      next.live.reqs.get? other =
        if other = tx then some { tokenId, id, call }
        else board.live.reqs.get? other := by
    rw [added]
    exact FiniteMap.get?_put _ _ _ _
  -- nobody holds a call that was not there before
  have fresh (other : TaskId) (index : Nat) (request' : Control.Request) :
      ¬board.Holds other index request' tx := by
    intro holds
    obtain ⟨req, found, _⟩ := accounts.called _ _ _ _ holds
    cases absent.symm.trans found
  refine ⟨?_, ?_, ?_⟩
  · intro other index request' tx' holds
    rcases (more _ _ _ _).mp holds with old | ⟨rfl, rfl, rfl, rfl⟩
    · obtain ⟨req, found, asked⟩ := accounts.called _ _ _ _ old
      have apart : tx' ≠ tx := by
        rintro rfl
        exact fresh _ _ _ old
      exact ⟨req, by rw [rows, if_neg apart, found], asked⟩
    · exact ⟨_, by rw [rows, if_pos rfl], asks⟩
  · intro tx' known
    by_cases same : tx' = tx
    · exact
        ⟨task, position, request,
          (more _ _ _ _).mpr (Or.inr ⟨rfl, rfl, rfl, same⟩)⟩
    · rw [rows, if_neg same] at known
      obtain ⟨other, index, request', holds⟩ := accounts.owned tx' known
      exact
        ⟨other, index, request', (more _ _ _ _).mpr (Or.inl holds)⟩
  · intro tx' first index request₁ second index' request₂ holds holds'
    rcases (more _ _ _ _).mp holds with old | ⟨rfl, rfl, _, rfl⟩
    · rcases (more _ _ _ _).mp holds' with old' | ⟨_, _, _, rfl⟩
      · exact accounts.apart _ _ _ _ _ _ _ old old'
      · exact absurd old (fresh _ _ _)
    · rcases (more _ _ _ _).mp holds' with old' | ⟨rfl, rfl, _, _⟩
      · exact absurd old' (fresh _ _ _)
      · exact ⟨rfl, rfl⟩

theorem of_books (coherent : board.live.Coherent)
    (books : Books settings board next) : Accounts settings next := by
  cases books with
  | kept same quiet =>
      refine accounts.of_quiet coherent ?_ quiet
      intro task index request tx
      unfold Holds
      rw [same]
  | noted after quiet =>
      refine accounts.of_quiet coherent ?_ quiet
      intro other index request tx
      unfold Holds
      rw [after]
      split
      next same => rw [holds_concat_none, same]
      next => rfl
  | @placed task earlier request tokenId id tx call before after asks
      serves led started =>
      refine
        @of_placed _ _ _ accounts task earlier.length request tokenId id tx
          call ?_ asks started
      intro other index request' tx'
      unfold Holds
      rw [after]
      split
      next same =>
        rw [getElem?_concat_iff, same]
        have old :
            (board.errandsOf task)[index]? = some (request', some tx') ↔
              earlier[index]? = some (request', some tx') := by
          rcases before with before | before
          · rw [before]
          · rw [before, holds_concat_none]
        rw [old]
        simp
      next different => simp [different]

end Accounts

/-- Where the call of a request comes from: it was there before, or it is made now,
for a token the request leads to or has been resolved to. -/
theorem Books.origin (books : Books settings board next)
    (accounts : Accounts settings board) (coherent : board.live.Coherent)
    {task : TaskId} {index : Nat} {request : Control.Request} {tx : ReqId}
    {req : Request} (holds : next.Holds task index request tx)
    (found : next.live.reqs.get? tx = some req) :
    (∃ old, board.Holds task index request tx ∧
      board.live.reqs.get? tx = some old ∧ old.tokenId = req.tokenId) ∨
    next.Serves task index request ∧
      (board.LeadsTo req.tokenId request ∨
        board.HasResolved task index request req.tokenId) := by
  -- a call that was there keeps its token
  have kept (quiet : Quiet board.live next.live)
      (before : board.Holds task index request tx) :
      ∃ old, board.Holds task index request tx ∧
        board.live.reqs.get? tx = some old ∧
        old.tokenId = req.tokenId := by
    obtain ⟨old, foundOld, _⟩ := accounts.called _ _ _ _ before
    obtain ⟨req', found', _, sameToken⟩ :=
      call_of_quiet coherent quiet foundOld
    cases found'.symm.trans found
    exact ⟨old, before, foundOld, sameToken.symm⟩
  unfold Holds at holds
  cases books with
  | kept same quiet =>
      rw [same] at holds
      exact Or.inl (kept quiet holds)
  | noted after quiet =>
      rw [after] at holds
      split at holds
      next isTask =>
        subst isTask
        exact Or.inl (kept quiet (holds_concat_none.mp holds))
      next => exact Or.inl (kept quiet holds)
  | @placed task' earlier request' tokenId id tx' call before after asks
      serves led started =>
      obtain ⟨absent, added⟩ := Live.step_call started
      -- the calls that were there stay as they are
      have other (holdsBefore : board.Holds task index request tx) :
          ∃ old, board.Holds task index request tx ∧
            board.live.reqs.get? tx = some old ∧
            old.tokenId = req.tokenId := by
        obtain ⟨old, foundOld, _⟩ := accounts.called _ _ _ _ holdsBefore
        rw [added] at found
        have apart : tx ≠ tx' := by
          rintro rfl
          cases absent.symm.trans foundOld
        have same : board.live.reqs.get? tx = some req :=
          (FiniteMap.get?_put_of_ne _ _ apart).symm.trans found
        exact ⟨req, holdsBefore, same, rfl⟩
      rw [after] at holds
      split at holds
      next isTask =>
        subst isTask
        rcases getElem?_concat_iff.mp holds with old | ⟨rfl, isNew⟩
        · refine Or.inl (other ?_)
          unfold Holds
          rcases before with before | before
          · rw [before]
            exact old
          · rw [before]
            exact holds_concat_none.mpr old
        · cases isNew
          rw [added] at found
          cases (FiniteMap.get?_put_self _ _ _).symm.trans found
          exact Or.inr ⟨serves, led⟩
      next => exact Or.inl (other holds)

/-- A target that is resolved was so before, or is resolved now. -/
theorem Takes.resolved (takes : Takes settings json board action next)
    {task : TaskId} {index : Nat} {request : Control.Request}
    {tokenId : String}
    (resolved : next.HasResolved task index request tokenId) :
    board.HasResolved task index request tokenId ∨
      next.Serves task index request ∧ board.LeadsTo tokenId request := by
  obtain ⟨control, found, length, station⟩ := resolved
  have serves : next.Serves task index request :=
    ⟨control, _, found, length, station⟩
  -- a task that was put there and has not just resolved a target
  have elsewhere {other : TaskId} {moved : ControlTask}
      (put : next.tasks = board.tasks.put other moved)
      (idle :
        ∀ request tokenId,
          moved.station ≠ .serving request (.resolved tokenId)) :
      board.HasResolved task index request tokenId := by
    rw [put, FiniteMap.get?_put] at found
    split at found
    next =>
      cases found
      exact absurd station (idle _ _)
    next => exact ⟨control, found, length, station⟩
  cases takes with
  | hub | skip => exact Or.inl ⟨control, found, length, station⟩
  | accept | hangUp | settle =>
      refine Or.inl (elsewhere rfl ?_)
      intro request tokenId same
      cases same
  | @line other text id target tx earlier request' hub errand foundEarlier
      wasReading read opened =>
      cases opened with
      | resolved asked led =>
          have foundAfter := found
          simp only [setTask, FiniteMap.get?_put] at foundAfter
          split at foundAfter
          next =>
            cases foundAfter
            cases station
            exact Or.inr ⟨serves, led⟩
          next => exact Or.inl ⟨control, foundAfter, length, station⟩
      | _ =>
          refine Or.inl (elsewhere rfl ?_)
          intro request tokenId same
          cases same
  | proceed foundEarlier wasServing went =>
      refine Or.inl (elsewhere rfl ?_)
      intro request tokenId same
      cases went <;> cases same
  | @write other written earlier request' tx reply sent =>
      refine Or.inl (elsewhere rfl ?_)
      intro request tokenId same
      cases sent <;> cases same

theorem accounts_of_reachable {config : RosterConfig}
    (reachable : (machine settings json config).Reachable board) :
    Accounts settings board := by
  refine reachable.induction (Accounts settings) ?_ ?_
  · refine ⟨?_, ?_, ?_⟩
    · intro task index request tx holds
      cases holds
    · intro tx known
      cases known
    · intro tx task index request task' index' request' holds
      cases holds
  · intro board action next reachable accounts stepped
    exact
      accounts.of_books
        (Live.coherent_of_reachable (live_reachable reachable))
        (takes_of_step stepped).books

end Switchboard

end HollerServer.Server
