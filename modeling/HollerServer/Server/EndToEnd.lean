import HollerServer.Cli.Overview
import HollerServer.Server.Reports
import HollerServer.Wire.Outcomes

/-!
# From the state of the server to what a command prints

From the frame of a peer to the exit status of a command: the peer's connection
handles the frame for a call, the control connection makes its reply of what the
call returned, and the command reads this reply from the line.  From the tables of
the server to the lines of `status` and `caps`: the control connection looks at them
one after the other, and the command prints what it reads.
-/

namespace HollerServer.Server

open HollerServer.Cli
open HollerServer.Proto
open HollerServer.Token
open HollerServer.Wire
open Transition

/-- A connection of the token of the call handled a frame that names the call, and
its message decides the outcome. -/
def DoneByPeer
    (live : Live) (tx : ReqId) (req : Request) (outcome : Outcome) : Prop :=
  ∃ actions before id conn envelope event,
    Live.machine.run Live.machine.init actions = some live ∧
    Live.Feeds actions before id conn envelope tx event ∧
    conn.tokenId = req.tokenId ∧
    event.CarriedBy req.id envelope ∧
    event.Decides outcome

/-- A positive outcome is the doing of the peer. -/
theorem doneByPeer_of_positive {live : Live} {tx : ReqId} {req : Request}
    {outcome : Outcome}
    (reachable : Live.machine.Reachable live)
    (found : live.reqs.get? tx = some req)
    (returned : req.pc = .returned outcome)
    (positive : outcome.positive = true) :
    DoneByPeer live tx req outcome := by
  obtain ⟨actions, reached⟩ := reachable
  obtain ⟨event, member, decides⟩ :=
    Live.backed_of_reachable ⟨actions, reached⟩ tx req found outcome
      (by rw [returned]; rfl) positive
  rcases Live.message_has_frame reached tx req event found member with
    rfl | ⟨before, id, conn, envelope, feeds⟩
  · cases decides
  · obtain ⟨last, foundLast, token, _, carried⟩ :=
      feeds.addressee_run reached
    cases foundLast.symm.trans found
    exact
      ⟨actions, before, id, conn, envelope, event, reached, feeds,
        token.symm, carried, decides⟩

namespace Switchboard

variable {settings : Settings} {json : Control.LineJson}
  {board : Switchboard} {command : Command} {reply : Control.Reply}

/-- No command ends well on a refusal. -/
theorem not_endsWellOn_refusal
    (refused : refusal settings command.request = some reply) :
    ¬command.EndsWellOn reply := by
  intro endsWell
  cases command with
  | ping id => cases refused
  | query target cmd args asJson =>
      cases target with
      | none => cases refused
      | some target =>
          cases refused
          exact endsWell
  | say session text =>
      cases refused
      exact endsWell
  | interrupt session =>
      cases refused
      exact endsWell
  | answer session choice =>
      cases refused
      exact endsWell

/-- A command ends well only on a positive outcome. -/
theorem positive_of_endsWellOn {outcome : Outcome}
    (replied :
      outcomeReply settings command.request outcome = some reply)
    (endsWell : command.EndsWellOn reply) : outcome.positive = true := by
  cases command with
  | ping id =>
      cases outcome with
      | ping status =>
          cases replied
          cases status with
          | connected hostname rttMs => rfl
          | disconnected => cases endsWell
      | query | prompt | interrupt | answer => cases replied
  | query target cmd args asJson =>
      cases target with
      | none => cases outcome <;> cases replied
      | some target =>
          cases outcome with
          | query outcome =>
              cases replied
              cases outcome with
              | ok body => rfl
              | err | disconnected => exact False.elim endsWell
          | ping | prompt | interrupt | answer => cases replied
  | say session text =>
      cases outcome with
      | prompt outcome =>
          cases replied
          cases outcome with
          | done text exit => rfl
          | err | cancelled | disconnected => exact False.elim endsWell
      | ping | query | interrupt | answer => cases replied
  | interrupt session =>
      cases outcome with
      | interrupt outcome =>
          cases replied
          cases outcome with
          | acked => rfl
          | timedOut | disconnected => exact False.elim endsWell
      | ping | query | prompt | answer => cases replied
  | answer session choice =>
      cases outcome with
      | answer outcome =>
          cases replied
          cases outcome with
          | acked => rfl
          | err | timedOut | disconnected => exact False.elim endsWell
      | ping | query | prompt | interrupt => cases replied

/-- A `ping`, a targeted query, a `say`, an `interrupt` or an `answer` ends well only
if the peer did it: the reply it has read was made of what the call of its request
returned, the call was made for a token that the request led to while it was in
service, and a connection of that token has handled a frame that names the call and
decides that outcome. -/
theorem commands_end_well_by_their_peers
    {config : RosterConfig} {actions : List Action}
    (ran :
      (machine settings json config).run
        (machine settings json config).init actions = some board)
    {task : TaskId} {control : ControlTask} {index : Nat} {item : Served}
    (found : board.tasks.get? task = some control)
    (served : control.served[index]? = some item)
    {shell : Shell} {line : String}
    (readsBack : shell.json.ReadsBack)
    (sendable : Control.Sendable shell.json.limit item.reply)
    (written : Control.replyLine item.reply = some line)
    (asked : command.request = item.request)
    (targeted : ∀ cmd args, command.request ≠ .query none cmd args)
    (succeeded :
      (shell.run command (.read (line ++ "\n"))).2.status = 0) :
    ∃ tx req outcome,
      item.tx = some tx ∧
      board.live.reqs.get? tx = some req ∧
      call? settings command.request = some req.call ∧
      LedTo settings json config actions task index command.request
        req.tokenId ∧
      outcomeReply settings command.request outcome = some item.reply ∧
      DoneByPeer board.live tx req outcome := by
  have reachable : (machine settings json config).Reachable board :=
    ⟨actions, ran⟩
  have sound := allSound_of_reachable reachable task control found
  have justified := sound.justified item (List.mem_of_getElem? served)
  have kind : item.reply.kind = command.request.kind := by
    rw [asked]
    exact justified.kind
  have endsWell :=
    endsWellOn_of_run readsBack sendable written kind targeted succeeded
  have calls : call? settings item.request ≠ none := by
    rw [← asked]
    intro silent
    cases command with
    | query target cmd args asJson =>
        cases target with
        | none => exact targeted cmd args rfl
        | some target => cases silent
    | ping | say | interrupt | answer => cases silent
  cases called : item.tx with
  | none =>
      have refused := justified.refused called calls
      rw [← asked] at refused
      exact absurd endsWell (not_endsWellOn_refusal refused)
  | some tx =>
      obtain ⟨req, outcome, foundReq, returned, replied⟩ :=
        justified.returned tx called
      rw [← asked] at replied
      have holds : board.Holds task index item.request tx := by
        have inside := (List.getElem?_eq_some_iff.mp served).1
        unfold Holds
        rw [errandsOf_of_found found, ControlTask.errands,
          List.getElem?_append_left (by rw [List.length_map]; exact inside),
          List.getElem?_map, served, Option.map_some, called]
      obtain ⟨req', foundReq', asks⟩ :=
        (accounts_of_reachable reachable).called _ _ _ _ holds
      cases foundReq'.symm.trans foundReq
      have led :=
        (directed_of_run ran).called task index item.request tx req holds
          foundReq
      rw [← asked] at asks led
      exact
        ⟨tx, req, outcome, rfl, foundReq, asks, led, replied,
          doneByPeer_of_positive (live_reachable reachable) foundReq
            returned (positive_of_endsWellOn replied endsWell)⟩

/-- `status` and `caps` print what was so: the harnesses that were confirmed at one
moment while the request was in service and the number of connections at a later
one, or, with no server to ask, a server nobody is connected with. -/
theorem overviews_print_what_was_so
    {config : RosterConfig} {actions : List Action}
    (ran :
      (machine settings json config).run
        (machine settings json config).init actions = some board)
    {task : TaskId} {control : ControlTask} {index : Nat} {item : Served}
    (found : board.tasks.get? task = some control)
    (served : control.served[index]? = some item)
    {cmd : String} {args : List String}
    (overview : PrintsOverview command cmd args)
    (asked : command.request = item.request)
    (few :
      ∀ sofar moment after,
        During settings json config actions task index item.request sofar
          moment after →
        moment.live.registry.len < 2 ^ 64 ∧
          moment.hub.roster.liveCount moment.hub.now < 2 ^ 64)
    {shell : Shell} {line : String}
    (opened : shell.opened = .ok ())
    (readsBack : shell.json.ReadsBack)
    (written : Control.replyLine item.reply = some line) :
    (∃ first polled polledAfter second counted countedAfter,
      During settings json config actions task index item.request first
        polled polledAfter ∧
      During settings json config actions task index item.request second
        counted countedAfter ∧
      first.length < second.length ∧
      shell.run command (.read (line ++ "\n")) =
        (printedOverview cmd settings.serverHostname settings.listening
          counted.live.registry.len
          (confirmedHarnessesSnapshot polled.confirmed),
          .returned (.ok ()))) ∧
    ∀ roundTrip hostname,
      runClientQuery roundTrip = none →
      shell.localHostname = .ok hostname →
      shell.run command roundTrip =
        (printedOverview cmd hostname [] 0 [], .returned (.ok ())) := by
  have isOverview := overview.isOverview
  have untargeted := overview.untargeted
  subst untargeted
  constructor
  · have tells := tells_of_run ran task control found
    have reports := tells.served index item served
    obtain ⟨request, tx, reply, sent⟩ := item
    change _ = request at asked
    subst asked
    obtain ⟨first, polled, polledAfter, second, counted, countedAfter,
      third, answered, answeredAfter, polls, counts, answers, order, _,
      same⟩ := reports
    have fewClients := (few second counted countedAfter counts).1
    have fewSessions := (few third answered answeredAfter answers).2
    obtain ⟨body, dispatched, printed⟩ :=
      @exists_overview shell cmd args settings.serverHostname
        settings.listening counted.live.registry.len
        (answered.hub.roster.liveCount answered.hub.now)
        (confirmedHarnessesSnapshot polled.confirmed) settings.quoted
        isOverview fewClients
    have isReply : reply = .query (.ok body) := by
      refine same.trans ?_
      rw [answerHere, dispatched]
    subst isReply
    refine
      ⟨first, polled, polledAfter, second, counted, countedAfter, polls,
        counts, order, ?_⟩
    rw [run_query_line opened readsBack
      (sendable_dispatch readsBack.deep fewClients fewSessions dispatched)
      written]
    exact printed
  · intro roundTrip hostname unreachable hosted
    exact
      run_overview_of_unreachable isOverview opened hosted unreachable

section Later

variable {config : RosterConfig} {task : TaskId} {next : Switchboard}
  {action : Action}

/-- No control connection leaves the table. -/
theorem task_kept
    (stepped : board.step settings json action = some next)
    (present : (board.tasks.get? task).isSome = true) :
    (next.tasks.get? task).isSome = true := by
  have put (other : TaskId) (control : ControlTask) :
      ((board.tasks.put other control).get? task).isSome = true := by
    rw [FiniteMap.get?_put]
    split
    next => rfl
    next => exact present
  cases takes_of_step stepped with
  | hub | skip => exact present
  | accept | line | hangUp | proceed | settle | write => exact put _ _

/-- What a control connection does, it does after it was accepted. -/
theorem During.meets {meets : Switchboard → Action → Prop}
    {first rest sofar : List Action} {middle moment after : Switchboard}
    {index : Nat} {request : Control.Request}
    (during :
      During settings json config (first ++ rest) task index request sofar
        moment after)
    (ran :
      (machine settings json config).run
        (machine settings json config).init first = some middle)
    (absent : middle.tasks.get? task = none)
    (along : (machine settings json config).Along meets middle rest) :
    ∃ action, meets moment action := by
  obtain ⟨⟨reached, action, later, split, stepped⟩, serves⟩ := during
  have suffix (early : List Action) (isSofar : sofar = first ++ early)
      (isRest : rest = early ++ action :: later) :
      ∃ action, meets moment action := by
    rw [isSofar, Machine.run_append_of_eq_some _ ran] at reached
    rw [isRest] at along
    exact ⟨action, (along.of_append.2 moment reached).1⟩
  rcases List.append_eq_append_iff.mp split with
    ⟨early, isSofar, isRest⟩ | ⟨more, isFirst, isLater⟩
  · exact suffix early isSofar isRest
  · cases more with
    | nil =>
        rw [List.append_nil] at isFirst
        exact suffix [] (by rw [isFirst, List.append_nil]) isLater.symm
    | cons other more =>
        obtain ⟨rfl, rfl⟩ := List.cons_eq_cons.mp isLater
        rw [isFirst, Machine.run_append_of_eq_some _ reached] at ran
        obtain ⟨next, stepped', going⟩ :=
          (Machine.run_cons_eq_some _).mp ran
        cases stepped.symm.trans stepped'
        obtain ⟨control, _, found, _⟩ := serves
        have kept :=
          @Machine.run_preserves _ _ (machine settings json config)
            (fun board => (board.tasks.get? task).isSome = true)
            (fun board action next present stepped =>
              task_kept stepped present)
            _ _ _ (by rw [found]; rfl) going
        rw [absent] at kept
        cases kept

end Later

end Switchboard

namespace Sample

open HollerServer.Token.Sample
open Switchboard (reachable_step)

noncomputable def boardMachine : Machine Switchboard Switchboard.Action :=
  Switchboard.machine Wire.Sample.settings Control.compactLineJson
    RosterConfig.default

/-- What the server does below the control connections is a run of the board. -/
theorem run_hub (board : Switchboard) {actions : List Hub.Action}
    {hub : Hub}
    (outside : actions.any Switchboard.ofControl = false)
    (ran : machine.run board.hub actions = some hub) :
    boardMachine.run board (actions.map .hub) =
      some { board with hub } := by
  induction actions generalizing board with
  | nil =>
      cases ran
      rfl
  | cons action rest inductionHypothesis =>
      obtain ⟨next, stepped, going⟩ :=
        (Machine.run_cons_eq_some _).mp ran
      obtain ⟨first, others⟩ := Bool.or_eq_false_iff.mp outside
      have moved :
          boardMachine.step board (.hub action) =
            some { board with hub := next } := by
        have below :
            board.stepHub Wire.Sample.settings action = some next := stepped
        show board.step Wire.Sample.settings Control.compactLineJson
          (.hub action) = _
        simp only [Switchboard.step, first,
          Bool.false_eq_true, if_false, below, Option.map_some]
      exact
        (Machine.run_cons_eq_some _).mpr
          ⟨_, moved,
            inductionHypothesis { board with hub := next } others going⟩

/-- The shell of the host the sample server runs on. -/
noncomputable def shell : Shell where
  json := Control.compactLineJson
  crates := .sample
  quoted := id
  detail := ""
  opened := .ok ()
  file := save .sample [seen]
  localHostname := .ok "hub"
  toStringPretty := fun value => .ok value.pretty

def pong : Envelope :=
  newPongEnvelope "p" "laptop" "2023-11-14T22:14:20Z"

def pinged : Control.Reply :=
  .ping (Server.pingReply (.connected "laptop" 0))

def greetedRun : List Hub.Action :=
  [wire (.register 0), wire (.hello 0 true)]

noncomputable def greetedHub : Hub :=
  after presentedHub greetedRun

/-- The sample client is in its session, and a control connection is open. -/
noncomputable def openBoard : Switchboard where
  hub := greetedHub
  tasks := ({} : FiniteMap TaskId ControlTask).put 0 {}

/-- The ping of the sample token has called the registry. -/
noncomputable def askedBoard : Switchboard :=
  { openBoard.setTask 0
      { station := .serving (.ping tokenId) (.calling 5 none)
        asked := [.ping tokenId] } with
    hub :=
      after greetedHub [.serve (.wire (.call 5 tokenId "p"
            (.ping Wire.Sample.settings.serverHostname)))] }

/-- The sample client answers, and the reply is written. -/
def pingRun : List Switchboard.Action :=
  [.hub (wire (.lookup 5)), .hub (wire (.enroll 5)),
    .hub (wire (.send 5 "now")), .hub (wire (.frame 0 pong)),
    .hub (wire (.resolve 0)), .hub (wire (.recv 5)), .settle 0,
    .write 0 true]

noncomputable def pingedBoard : Switchboard :=
  (boardMachine.run askedBoard pingRun).getD askedBoard

theorem reachable_openBoard : boardMachine.Reachable openBoard := by
  have presentedRun :=
    run_hub boardMachine.init rfl run_presentedHub
  have connected :=
    run_hub { hub := presentedHub } rfl
      (show machine.run presentedHub greetedRun = some greetedHub from rfl)
  have started : boardMachine.Reachable { hub := greetedHub } :=
    ⟨_, (Machine.run_append_of_eq_some _ presentedRun _).trans connected⟩
  exact reachable_step (.accept 0) started rfl

theorem reachable_pingedBoard : boardMachine.Reachable pingedBoard := by
  have read :=
    Switchboard.readLine_requestLine Control.readsBack_compactLineJson
      (.ping tokenId)
  have asked : boardMachine.Reachable askedBoard :=
    reachable_step _ reachable_openBoard
      (@Switchboard.step_line Wire.Sample.settings Control.compactLineJson
        openBoard 0 _ "p" none 5 _ _ _ _ rfl rfl read rfl)
  obtain ⟨actions, reached⟩ := asked
  exact
    ⟨actions ++ pingRun,
      (Machine.run_append_of_eq_some _ reached _).trans rfl⟩

theorem finishPing_shell :
    shell.finishPing tokenId (.connected "laptop" 0) =
      (["laptop rtt=0ms"], .returned (.ok ())) := by
  have looked : findRecord tokenId [seen] = .ok seen :=
    findRecord_eq_ok.mpr (by simp [List.findKey, seen, bound, minted])
  have found :
      Token.ping shell.crates tokenId (.connected "laptop" 0) shell.file =
        .ok { hostname := "laptop", rttMs := 0 } := by
    show Token.ping .sample tokenId _ (save .sample [seen]) = _
    unfold Token.ping
    rw [load_save Crates.sample_lawful, Result.ok_bind, looked,
      Result.ok_bind]
    rfl
  exact Shell.finishPing_of_ok found

/-- A `token ping` of the sample token reads the reply, finds the record in the store
and ends well. -/
theorem run_ping_line {line : String}
    (written : Control.replyLine pinged = some line) :
    shell.run (.ping tokenId) (.read (line ++ "\n")) =
      (["laptop rtt=0ms"], .returned (.ok ())) := by
  have readsBack := Control.readsBack_compactLineJson
  have sendable : Control.Sendable shell.json.limit pinged := trivial
  have asked := runClientQuery_line readsBack sendable written
  obtain ⟨inner, read, same⟩ :=
    read_of_map (reached_line readsBack sendable written).2
  cases same
  have probed :
      probe shell.json (.read (line ++ "\n")) =
        .connected "laptop" 0 := by
    show probe Control.compactLineJson _ = _
    simp only [probe, asked, read]
    rfl
  calc shell.run (.ping tokenId) (.read (line ++ "\n"))
      = shell.finishPing tokenId
          (probe shell.json (.read (line ++ "\n"))) := rfl
    _ = shell.finishPing tokenId (.connected "laptop" 0) := by rw [probed]
    _ = _ := finishPing_shell

/-- The sample client answers the ping of a `token ping`. -/
theorem commands_end_well_by_their_peers_ping :
    ∃ actions tx req outcome,
      boardMachine.run boardMachine.init actions = some pingedBoard ∧
      some (5 : ReqId) = some tx ∧
      pingedBoard.live.reqs.get? tx = some req ∧
      call? Wire.Sample.settings (.ping tokenId) = some req.call ∧
      Switchboard.LedTo Wire.Sample.settings Control.compactLineJson
        RosterConfig.default actions 0 0 (.ping tokenId) req.tokenId ∧
      outcomeReply Wire.Sample.settings (.ping tokenId) outcome =
        some pinged ∧
      DoneByPeer pingedBoard.live tx req outcome := by
  obtain ⟨actions, ran⟩ := reachable_pingedBoard
  obtain ⟨tx, req, outcome, ended⟩ :=
    @Switchboard.commands_end_well_by_their_peers
      Wire.Sample.settings Control.compactLineJson pingedBoard
      (.ping tokenId) RosterConfig.default actions ran 0 _ 0
      { request := .ping tokenId, tx := some 5, reply := pinged, sent := true }
      rfl rfl shell _ Control.readsBack_compactLineJson trivial rfl rfl
      (fun _ _ same => by cases same) (by rw [run_ping_line rfl]; rfl)
  exact ⟨actions, tx, req, outcome, ran, ended⟩

/-- A `support` that is meant for the sample client. -/
def supportQuery : Control.Request :=
  .query (some tokenId) "support" ["opencode"]

noncomputable def resolvedBoard : Switchboard :=
  openBoard.setTask 0
    { station := .serving supportQuery (.resolved tokenId)
      asked := [supportQuery] }

def supported : Envelope where
  v := 1
  msgType := .queryOk
  id := "q"
  ts := "2023-11-14T22:14:20Z"
  sender := tokenId
  body :=
    .queryOk
      { cmd := "support"
        rest := .object [("ok", .bool true)] }

/-- The sample client confirms the harness. -/
def confirmRun : List Switchboard.Action :=
  [.proceed 0 6 "q", .hub (wire (.lookup 6)), .hub (wire (.enroll 6)),
    .hub (wire (.send 6 "now")), .hub (wire (.frame 0 supported)),
    .hub (wire (.resolve 0)), .hub (wire (.recv 6)), .settle 0,
    .write 0 true]

noncomputable def confirmedBoard : Switchboard :=
  (boardMachine.run resolvedBoard confirmRun).getD resolvedBoard

theorem reachable_confirmedBoard :
    boardMachine.Reachable confirmedBoard := by
  have read :=
    Switchboard.readLine_requestLine Control.readsBack_compactLineJson
      supportQuery
  have resolved : boardMachine.Reachable resolvedBoard :=
    reachable_step _ reachable_openBoard
      (@Switchboard.step_line Wire.Sample.settings Control.compactLineJson
        openBoard 0 _ "q" (some tokenId) 6 _ _ _ _ rfl rfl read rfl)
  obtain ⟨actions, reached⟩ := resolved
  exact
    ⟨actions ++ confirmRun,
      (Machine.run_append_of_eq_some _ reached _).trans rfl⟩

theorem connected_confirmedBoard :
    confirmedBoard.live.registry.len = 1 ∧
      confirmedHarnessesSnapshot confirmedBoard.confirmed =
        [⟨"opencode", ["laptop"]⟩] ∧
      confirmedBoard.hub.roster.liveCount confirmedBoard.hub.now = 0 := by
  refine ⟨rfl, rfl, rfl⟩

/-- Another control connection asks for the overview. -/
noncomputable def askingBoard : Switchboard :=
  confirmedBoard.setTask 1 {}

noncomputable def polledBoard : Switchboard :=
  askingBoard.setTask 1
    { station :=
        .serving (.query none "caps" [])
          (.confirmed (confirmedHarnessesSnapshot askingBoard.confirmed))
      asked := [.query none "caps" []] }

/-- The rest of a `caps`. -/
def answerRun : List Switchboard.Action :=
  [.proceed 1 0 "", .proceed 1 0 "", .write 1 true]

noncomputable def reportedBoard : Switchboard :=
  (boardMachine.run polledBoard answerRun).getD polledBoard

def capsRun : List Switchboard.Action :=
  [.accept 1,
    .line 1 (Control.requestLine (.query none "caps" [])) none 7 "c"] ++
      answerRun

theorem step_polledBoard :
    askingBoard.step Wire.Sample.settings Control.compactLineJson
        (.line 1 (Control.requestLine (.query none "caps" [])) none 7
          "c") =
      some polledBoard :=
  @Switchboard.step_line Wire.Sample.settings Control.compactLineJson
    askingBoard 1 _ "c" none 7 {} _ askingBoard.hub
    (.confirmed (confirmedHarnessesSnapshot askingBoard.confirmed)) rfl rfl
    (Switchboard.readLine_requestLine Control.readsBack_compactLineJson _)
    rfl

/-- The server stays as it was when the harness was confirmed. -/
def Unchanged (board : Switchboard) (_ : Switchboard.Action) : Prop :=
  board.hub = confirmedBoard.hub ∧
    board.confirmed = confirmedBoard.confirmed

section Steps

variable {board next : Switchboard} {action : Switchboard.Action}
  {rest : List Switchboard.Action}
  (stepped :
    board.step Wire.Sample.settings Control.compactLineJson action =
      some next)
include stepped

theorem run_step {target : Switchboard}
    (ran : boardMachine.run next rest = some target) :
    boardMachine.run board (action :: rest) = some target :=
  (Machine.run_cons_eq_some _).mpr ⟨next, stepped, ran⟩

theorem along_step (unchanged : Unchanged board action)
    (along : boardMachine.Along Unchanged next rest) :
    boardMachine.Along Unchanged board (action :: rest) :=
  boardMachine.along_cons stepped unchanged along

end Steps

theorem run_capsRun :
    boardMachine.run confirmedBoard capsRun = some reportedBoard := by
  have accepted :
      confirmedBoard.step Wire.Sample.settings Control.compactLineJson
          (.accept 1) = some askingBoard := rfl
  have answered :
      boardMachine.run polledBoard answerRun = some reportedBoard := rfl
  exact run_step accepted (run_step step_polledBoard answered)

theorem along_capsRun : boardMachine.Along Unchanged confirmedBoard capsRun := by
  have accepted :
      confirmedBoard.step Wire.Sample.settings Control.compactLineJson
          (.accept 1) = some askingBoard := rfl
  have answered : boardMachine.Along Unchanged polledBoard answerRun := by
    refine along_step rfl ⟨rfl, rfl⟩ ?_
    refine along_step rfl ⟨rfl, rfl⟩ ?_
    exact ⟨⟨rfl, rfl⟩, fun _ _ => trivial⟩
  exact
    along_step accepted ⟨rfl, rfl⟩
      (along_step step_polledBoard ⟨rfl, rfl⟩ answered)

/-- One client is connected and has confirmed a harness: `caps` prints so, and with
no server to ask it prints the overview of a server nobody is connected with. -/
theorem overviews_print_what_was_so_caps :
    ∃ actions control item line,
      boardMachine.run boardMachine.init actions = some reportedBoard ∧
      reportedBoard.tasks.get? 1 = some control ∧
      control.served[0]? = some item ∧
      Control.replyLine item.reply = some line ∧
      shell.run (.caps none false) (.read (line ++ "\n")) =
        (printedOverview "caps" Wire.Sample.settings.serverHostname
          Wire.Sample.settings.listening 1 [⟨"opencode", ["laptop"]⟩],
          .returned (.ok ())) ∧
      shell.run (.caps none false) .connectFailed =
        (printedOverview "caps" "hub" [] 0 [], .returned (.ok ())) := by
  obtain ⟨actions, reached⟩ := reachable_confirmedBoard
  have ran :
      boardMachine.run boardMachine.init (actions ++ capsRun) =
        some reportedBoard :=
    (Machine.run_append_of_eq_some _ reached _).trans run_capsRun
  have few :
      ∀ sofar moment after,
        Switchboard.During Wire.Sample.settings Control.compactLineJson
          RosterConfig.default (actions ++ capsRun) 1 0
          (.query none "caps" []) sofar moment after →
        moment.live.registry.len < 2 ^ 64 ∧
          moment.hub.roster.liveCount moment.hub.now < 2 ^ 64 := by
    intro sofar moment after during
    obtain ⟨_, sameHub, _⟩ := during.meets reached rfl along_capsRun
    obtain ⟨one, _, noSession⟩ := connected_confirmedBoard
    unfold Switchboard.live at one ⊢
    rw [sameHub, one, noSession]
    decide
  have overviews :=
    @Switchboard.overviews_print_what_was_so Wire.Sample.settings
      Control.compactLineJson reportedBoard (.caps none false)
      RosterConfig.default (actions ++ capsRun) ran 1 _ 0 _ rfl rfl "caps" []
      .caps rfl few shell _ rfl Control.readsBack_compactLineJson rfl
  obtain ⟨⟨first, polled, polledAfter, second, counted, countedAfter, polls,
    counts, _, printed⟩, unreachable⟩ := overviews
  obtain ⟨_, _, sameConfirmed⟩ := polls.meets reached rfl along_capsRun
  obtain ⟨_, sameHub, _⟩ := counts.meets reached rfl along_capsRun
  obtain ⟨one, confirmed, _⟩ := connected_confirmedBoard
  unfold Switchboard.live at one printed
  rw [sameConfirmed, sameHub, one, confirmed] at printed
  exact
    ⟨_, _, _, _, ran, rfl, rfl, rfl, printed,
      unreachable .connectFailed "hub" rfl rfl⟩

end Sample

end HollerServer.Server
