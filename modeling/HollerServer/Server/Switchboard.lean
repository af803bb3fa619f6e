import HollerServer.Cli.Say
import HollerServer.Server.Confirmation
import HollerServer.Server.Hub
import HollerServer.Wire.Connection
import HollerServer.Wire.ControlChannel

/-!
# The control connections of a running server

The server with its roster, together with any number of `handle_control_conn`
tasks.  A task reads a line, does what its request asks for, writes one line and
reads on.  Each critical section it goes through is a step of its own; while it
waits for a call of the registry, everybody else goes on.

Nobody but these tasks calls the request functions of the registry or revokes a
token.  `asked` and `served` are not in the code: they keep the requests a task
has read and what it made of them.  The talk log is left to `TalkRuns`.
-/

namespace HollerServer.Server

open HollerServer.Proto
open HollerServer.Token
open HollerServer.Wire
open Transition

abbrev TaskId := Nat

/-- The call of the registry that a request leads to. -/
def call? (settings : Settings) : Control.Request → Option Call
  | .ping _ => some (.ping settings.serverHostname)
  | .query (some _) cmd args => some (.query cmd args)
  | .say session text => some (.prompt session text none)
  | .interrupt session => some (.interrupt session)
  | .answer session choice => some (.answer session choice)
  | .status | .roster | .query none _ _ | .revoke _ => none

/-- The reply to a request whose target is not connected or whose session the roster
does not know. -/
def refusal (settings : Settings) : Control.Request → Option Control.Reply
  | .query (some _) _ _ => some (.query .notConnected)
  | .say session _ =>
      some (.say (Cli.sayReply settings.quoted session none))
  | .interrupt session =>
      some (.interrupt (.err
        { code := codeUnknownSession
          cmd := none
          message := some ("unknown session: " ++ session) }))
  | .answer session _ =>
      some (.answer (.err
        { code := codeUnknownSession
          cmd := none
          message := some ("unknown session: " ++ session) }))
  | .status | .ping _ | .roster | .query none _ _ | .revoke _ => none

def pingReply : ConnectionStatus → Control.PingReply
  | .connected hostname rttMs =>
      { connected := true
        hostname := some hostname
        rttMs := some (UInt64.ofNat rttMs) }
  | .disconnected =>
      { connected := false
        hostname := none
        rttMs := none }

def queryReply : QueryOutcome → Control.QueryReply
  | .ok body => .ok body
  | .err body => .err body
  | .disconnected => .notConnected

def interruptReply : InterruptOutcome → Control.InterruptReply
  | .acked => .ok
  | .timedOut => .timedOut
  | .disconnected => .disconnected

def answerReply : AnswerOutcome → Control.AnswerReply
  | .acked => .ok
  | .err body => .err body
  | .timedOut => .timedOut
  | .disconnected => .disconnected

/-- The reply made of what the call of the registry returned. -/
def outcomeReply (settings : Settings) :
    Control.Request → Outcome → Option Control.Reply
  | .ping _, .ping status => some (.ping (pingReply status))
  | .query (some _) _ _, .query outcome => some (.query (queryReply outcome))
  | .say session _, .prompt outcome =>
      some (.say (Cli.sayReply settings.quoted session (some outcome)))
  | .interrupt _, .interrupt outcome =>
      some (.interrupt (interruptReply outcome))
  | .answer _ _, .answer outcome => some (.answer (answerReply outcome))
  | _, _ => none

def rosterStateText : RosterState → String
  | .connected => "connected"
  | .reconnecting => "reconnecting"
  | .gone => "gone"

def rosterRowDoc (row : RosterRow) : Control.RosterRowDoc where
  name := row.name
  harness := row.harness
  clientId := row.clientId
  state := rosterStateText row.state
  lastSeenMs := BitVec.ofNat 128 row.lastSeenMsAgo
  mode := row.mode
  harnessSessionId := row.harnessSessionId
  blocked := row.blocked

/-- How far a task got with a request. -/
inductive Errand where
  /-- an untargeted query has read `confirmed_harnesses_snapshot` -/
  | confirmed (rows : List HarnessConfirmation)
  /-- and then `Registry::len` -/
  | counted (rows : List HarnessConfirmation) (clients : Nat)
  /-- `resolve_target` gave a token -/
  | resolved (tokenId : String)
  /-- waiting for a call; a query has read `hostname_of` before it -/
  | calling (tx : ReqId) (host : Option String)
  /-- `Registry::remove` was called, `mark_gone` is to come -/
  | removed (tokenId : String) (closed : Bool)
  /-- about to write the reply, which a call may have led to -/
  | writing (tx : Option ReqId) (reply : Control.Reply)

/-- Where a `handle_control_conn` task stands. -/
inductive Station where
  | reading
  | serving (request : Control.Request) (errand : Errand)
  | returned

/-- What became of a request: the call it led to, the reply, and whether its line
was written. -/
structure Served where
  request : Control.Request
  tx : Option ReqId
  reply : Control.Reply
  sent : Bool

/-- A `handle_control_conn` task. -/
structure ControlTask where
  station : Station := .reading
  asked : List Control.Request := []
  served : List Served := []

/-- The server and its control connections. -/
structure Switchboard where
  hub : Hub
  confirmed : ConfirmedHarnesses := ∅
  tasks : FiniteMap TaskId ControlTask := ∅

namespace Switchboard

inductive Action where
  | hub (action : Hub.Action)
  | accept (task : TaskId)
  | line
      (task : TaskId) (text : String) (target : Option String) (tx : ReqId)
      (id : String)
  | hangUp (task : TaskId)
  | proceed (task : TaskId) (tx : ReqId) (id : String)
  | settle (task : TaskId)
  | write (task : TaskId) (written : Bool)

/-- The steps of the server that only a control connection takes. -/
def ofControl : Hub.Action → Bool
  | .serve (.wire (.call _ _ _ _)) => true
  | .serve (.wire (.revoke _)) => true
  | .answerRevoke _ => true
  | _ => false

/-- `Registry::resolve_target` may give this: a token the id leads to, or nothing if
there is none. -/
def resolvesTo
    (registry : Registry) (id : String) : Option String → Bool
  | some tokenId => targets registry id tokenId
  | none =>
      registry.entries.pairs.all fun entry => !targets registry id entry.1

/-- The token the request asks for: the one it names, one its target leads to, or
the one its session has. -/
def LeadsTo
    (board : Switchboard) (tokenId : String) : Control.Request → Prop
  | .ping asked => tokenId = asked
  | .query (some target) _ _ =>
      targets board.hub.live.registry target tokenId = true
  | .say session _ | .interrupt session | .answer session _ =>
      board.hub.resolveSession session = some tokenId
  | .status | .roster | .query none _ _ | .revoke _ => False

section Steps

variable (settings : Settings) (json : Control.LineJson)
  (board : Switchboard)

def live : Live :=
  board.hub.live

def setTask (task : TaskId) (control : ControlTask) : Switchboard :=
  { board with tasks := board.tasks.put task control }

def stepHub (action : Hub.Action) : Option Hub :=
  board.hub.step settings.crates settings.pepper action

/-- Call the registry for a request. -/
def place
    (request : Control.Request) (tokenId : String) (host : Option String)
    (tx : ReqId) (id : String) : Option (Hub × Errand) :=
  (call? settings request).bind fun call =>
    (board.stepHub settings
      (.serve (.wire (.call tx tokenId id call)))).map fun hub =>
      (hub, .calling tx host)

/-- Call the registry for the token a session leads to. -/
def placeFor
    (request : Control.Request) (session : String) (tx : ReqId)
    (id : String) : Option (Hub × Errand) :=
  match board.hub.resolveSession session with
  | some tokenId => board.place settings request tokenId none tx id
  | none =>
      (refusal settings request).map fun reply =>
        (board.hub, .writing none reply)

/-- The first critical section of a request. -/
def takeUp
    (request : Control.Request) (target : Option String) (tx : ReqId)
    (id : String) : Option (Hub × Errand) :=
  match request with
  | .status =>
      some
        (board.hub,
          .writing none
            (.status
              { hostname := settings.serverHostname
                listening := settings.listening
                clients := UInt64.ofNat board.live.registry.len }))
  | .ping tokenId => board.place settings request tokenId none tx id
  | .roster =>
      some
        (board.hub,
          .writing none
            (.roster
              ((board.hub.roster.snapshot board.hub.now).map
                rosterRowDoc)))
  | .query none _ _ =>
      some
        (board.hub, .confirmed (confirmedHarnessesSnapshot board.confirmed))
  | .query (some wanted) _ _ =>
      if resolvesTo board.live.registry wanted target then
        match target with
        | some tokenId => some (board.hub, .resolved tokenId)
        | none =>
            (refusal settings request).map fun reply =>
              (board.hub, .writing none reply)
      else none
  | .say session _ | .interrupt session | .answer session _ =>
      board.placeFor settings request session tx id
  | .revoke tokenId =>
      (board.stepHub settings (.serve (.wire (.revoke tokenId)))).map
        fun hub =>
          (hub,
            .removed tokenId (board.live.registry.get? tokenId).isSome)

/-- The next critical section of a request that is not waiting. -/
def goOn
    (request : Control.Request) (errand : Errand) (tx : ReqId)
    (id : String) : Option (Hub × Errand) :=
  match errand, request with
  | .confirmed rows, _ =>
      some (board.hub, .counted rows board.live.registry.len)
  | .counted rows clients, .query _ cmd args =>
      some
        (board.hub,
          .writing none
            (.query
              (match dispatch settings.quoted cmd args
                  settings.serverHostname settings.listening clients
                  (board.hub.roster.liveCount board.hub.now) rows with
              | .ok body => .ok body
              | .error body => .err body)))
  | .resolved tokenId, .query _ _ _ =>
      board.place settings request tokenId
        (hostnameOf board.live.registry tokenId) tx id
  | .removed tokenId closed, _ =>
      (board.stepHub settings (.answerRevoke tokenId)).map fun hub =>
        (hub, .writing none (.revoke { closed }))
  | _, _ => none

/-- What a call returned leaves in the table of confirmed harnesses. -/
def confirmedAfter
    (request : Control.Request) (host : Option String)
    (outcome : Outcome) : ConfirmedHarnesses :=
  match request, outcome with
  | .query _ cmd args, .query (.ok body) =>
      if cmd = "support" then
        match args.head?, host with
        | some feature, some host =>
            if saysOk body.rest then
              recordHarnessConfirmed board.confirmed feature host
            else board.confirmed
        | _, _ => board.confirmed
      else board.confirmed
  | _, _ => board.confirmed

/-- The request of a line; blank lines and lines that are no request are skipped. -/
def readLine (text : String) : Option Control.Request :=
  if Text.isBlank text then none
  else (json.tree text).bind Control.readRequest

/-- One step of a control connection. -/
def controlStep
    (task : TaskId) (control : ControlTask) : Action → Option Switchboard
  | .line _ text target tx id =>
      match control.station with
      | .reading =>
          match readLine json text with
          | none => some board
          | some request =>
              (board.takeUp settings request target tx id).map
                fun (hub, errand) =>
                  { board.setTask task
                      { control with
                        station := .serving request errand
                        asked := control.asked ++ [request] } with
                    hub }
      | _ => none
  | .hangUp _ =>
      match control.station with
      | .reading =>
          some (board.setTask task { control with station := .returned })
      | _ => none
  | .proceed _ tx id =>
      match control.station with
      | .serving request errand =>
          (board.goOn settings request errand tx id).map
            fun (hub, errand) =>
              { board.setTask task
                  { control with station := .serving request errand } with
                hub }
      | _ => none
  | .settle _ =>
      match control.station with
      | .serving request (.calling tx host) =>
          match (board.live.reqs.get? tx).map Request.pc with
          | some (.returned outcome) =>
              (outcomeReply settings request outcome).map fun reply =>
                { board.setTask task
                    { control with
                      station :=
                        .serving request (.writing (some tx) reply) } with
                  confirmed := board.confirmedAfter request host outcome }
          | _ => none
      | _ => none
  | .write _ written =>
      match control.station with
      | .serving request (.writing tx reply) =>
          -- a reply that cannot be serialized panics, and the task is gone
          let sent := written && (Control.replyLine reply).isSome
          some
            (board.setTask task
              { control with
                station := if sent then .reading else .returned
                served := control.served ++ [{ request, tx, reply, sent }] })
      | _ => none
  | .hub _ | .accept _ => none

/-- One step of the server or of a control connection. -/
def step (action : Action) : Option Switchboard :=
  match action with
  | .hub inner =>
      if ofControl inner then none
      else
        (board.stepHub settings inner).map fun hub => { board with hub }
  | .accept task =>
      match board.tasks.get? task with
      | none => some (board.setTask task {})
      | some _ => none
  | .line task _ _ _ _ | .hangUp task | .proceed task _ _ | .settle task
  | .write task _ =>
      (board.tasks.get? task).bind fun control =>
        board.controlStep settings json task control action

def machine (config : RosterConfig) : Machine Switchboard Action where
  init := { hub := { roster := Roster.new config } }
  step board := board.step settings json

end Steps

end Switchboard

end HollerServer.Server
