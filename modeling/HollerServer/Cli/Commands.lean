import HollerServer.Cli.Say
import HollerServer.Wire.Connection
import HollerServer.Wire.Query

/-!
# The commands that ask a running server

What `token ping`, `status`, `support`, `caps`, `query`, `say`, `interrupt` and
`answer` send over the control channel, how they read the line that comes back, what
they print and how they end: the client side of `src/wire/control.rs` and the
functions of `src/main.rs` that call it.
-/

namespace HollerServer.Cli

open HollerServer.Proto
open HollerServer.Token
open HollerServer.Wire
open HollerServer.Wire.Control
  (AckReply InterruptReply AnswerReply LineJson QueryReply RevokeReply)

/-! ## The client side of the control channel -/

section Client

variable (json : LineJson) (roundTrip : RoundTrip)

/-- `run_client_query`: a timeout is no live server. -/
def runClientQuery : Option String :=
  match runClientQueryWithTimeout roundTrip with
  | .reached line => some line
  | .notReachable => none
  | .timedOut => none

/-- `control::run_query`. -/
def controlRunQuery : Option QueryReply :=
  (runClientQuery roundTrip).bind fun line =>
    (json.tree line).bind Control.readQueryReply

/-- What `control::run_interrupt` and `control::run_answer` make of the line. -/
def controlRunAck : ControlOutcome AckReply :=
  match runClientQueryWithTimeout roundTrip with
  | .reached line =>
      match (json.tree line).bind Control.readAckReply with
      | some reply => .reached reply
      | none => .notReachable
  | .notReachable => .notReachable
  | .timedOut => .timedOut

def controlRunInterrupt : ControlOutcome InterruptReply :=
  controlRunAck json roundTrip

def controlRunAnswer : ControlOutcome AnswerReply :=
  controlRunAck json roundTrip

/-- `LiveProbe::probe`. -/
def probe : ConnectionStatus :=
  match runClientQuery roundTrip with
  | none => .disconnected
  | some line =>
      match (json.tree line).bind Control.readPingReply with
      | some reply =>
          if reply.connected then
            .connected (reply.hostname.getD "")
              ((reply.rttMs.map UInt64.toNat).getD 0)
          else .disconnected
      | none => .disconnected

end Client

/-! ## The commands -/

/-- What a command finds on the host it runs on: the token store and whether it
opens, the host's name, and the crates. -/
structure Shell where
  json : LineJson
  crates : Crates
  quoted : String → String
  /-- the `Display` text of the error of a crate -/
  detail : String
  opened : Except String Unit
  file : File
  localHostname : Except String String
  toStringPretty : Value → Except String String

def notReachableText : String :=
  "no live `holler-server serve` process is reachable on this host"

/-- The match of `run_interrupt` and `run_answer`: what is printed when it worked, and
what may not have landed when nobody acknowledged it. -/
def finishAck
    (quoted : String → String) (worked verb lost session : String) :
    ControlOutcome AckReply → List String × Ending
  | .reached .ok => ([worked ++ " " ++ session], .returned (.ok ()))
  | .reached .timedOut =>
      ([],
        .returned
          (.error
            (verb ++ " sent to " ++ quoted session ++
              ", but no ack arrived in time — the connection is alive but " ++
              "the " ++ lost ++ " may not have landed")))
  | .reached .disconnected =>
      ([],
        .returned
          (.error ("session " ++ quoted session ++ "'s connection is gone")))
  | .reached (.err error) =>
      ([],
        .returned (.error (error.code ++ ": " ++ error.message.getD "")))
  | .timedOut =>
      ([],
        .returned
          (.error
            (verb ++ " to " ++ quoted session ++
              " timed out waiting for a reply from the server — the " ++
              "session may still be working; try `holler-server status` " ++
              "to check whether the server is still up")))
  | .notReachable => ([], .returned (.error notReachableText))

def finishInterrupt
    (quoted : String → String) (session : String) :
    ControlOutcome InterruptReply → List String × Ending :=
  finishAck quoted "interrupted" "interrupt" "cancel" session

def finishAnswer
    (quoted : String → String) (session : String) :
    ControlOutcome AnswerReply → List String × Ending :=
  finishAck quoted "answered" "answer" "reply" session

/-- `print_status_like`. -/
def printStatusLike (body : QueryOkBody) : List String :=
  let rest := body.rest
  let getStr (key : String) :=
    ((member? rest key).bind Value.asStr).getD "?"
  let getNat (key : String) :=
    toString (((member? rest key).bind Value.asU64).getD 0)
  let listening : List Value :=
    match member? rest "listening" with
    | some (.array items) => items
    | _ => []
  [ "role:      " ++ getStr "role",
    "hostname:  " ++ getStr "hostname",
    "protocol:  " ++ getNat "protocol" ++ " (min " ++
      getNat "protocol_min" ++ " max " ++ getNat "protocol_max" ++ ")",
    "listening: " ++
      (if listening.isEmpty then "not running"
      else ", ".intercalate (listening.filterMap Value.asStr)),
    "clients:   " ++ getNat "clients",
    "status:    " ++
      (if listening.isEmpty then "not running" else "healthy") ] ++
    match member? rest "capabilities" with
    | some (.object capabilities) =>
        "capabilities:" ::
          ((capabilities.map Prod.fst).insertionSort (· ≤ ·)).map fun id =>
            let ok :=
              (((capabilities.lookup id).bind (member? · "ok")).bind
                readBool).getD false
            "  " ++ id ++ ": " ++ if ok then "ok" else "no"
    | _ => []

/-- `print_generic`. -/
def printGeneric (body : QueryOkBody) : List String :=
  ("cmd: " ++ body.cmd) ::
    match body.rest with
    | .object fields =>
        ((fields.map Prod.fst).insertionSort (· ≤ ·)).map fun key =>
          key ++ ": " ++ ((fields.lookup key).getD .null).compact
    | _ => []

/-- A command that asks a running server; the flag is `--json`. -/
inductive Command where
  | ping (id : String)
  | query
      (target : Option String) (cmd : String) (args : List String)
      (json : Bool)
  | say (session text : String)
  | interrupt (session : String)
  | answer (session choice : String)

namespace Command

def knownQueryCmds : List String :=
  ["status", "caps", "support", "protocol"]

/-- `run_status` and `run_caps`. -/
def status (id : Option String) (json : Bool) : Command :=
  .query id "status" [] json

def caps (id : Option String) (json : Bool) : Command :=
  .query id "caps" [] json

/-- `run_query`, for the words it is given; there is at least one. -/
def ofWords (words : List String) (json : Bool) : Option Command :=
  match words with
  | first :: second :: rest =>
      if knownQueryCmds.contains first then
        some (.query none first (second :: rest) json)
      else some (.query (some first) second rest json)
  | [cmd] => some (.query none cmd [] json)
  | [] => none

/-- The request the command sends. -/
def request : Command → Control.Request
  | .ping id => .ping id
  | .query target cmd args _ => .query target cmd args
  | .say session text => .say session text
  | .interrupt session => .interrupt session
  | .answer session choice => .answer session choice

end Command

namespace Shell

variable (shell : Shell)

/-- This binary's own view, where no server is reachable. -/
def localBody
    (cmd : String) (args : List String) : Except String QueryOkBody :=
  shell.localHostname.bind fun hostname =>
    match dispatch shell.quoted cmd args hostname [] 0 0 [] with
    | .ok body => .ok body
    | .error error =>
        .error (error.code ++ ": " ++ error.message.getD "")

/-- The match of `run_query_command`. -/
def queryBody
    (target : Option String) (cmd : String) (args : List String) :
    Option QueryReply → Except String QueryOkBody
  | some (.ok body) => .ok body
  | some (.err error) =>
      .error (error.code ++ ": " ++ error.message.getD "")
  | some .notConnected =>
      match target with
      | some id =>
          .error ("no live connection matches " ++ shell.quoted id)
      | none => shell.localBody cmd args
  | none =>
      match target with
      | some _ => .error notReachableText
      | none => shell.localBody cmd args

/-- What `run_query_command` prints. -/
def printBody (json : Bool) (body : QueryOkBody) :
    List String × Ending :=
  if json then
    match shell.toStringPretty body.rest with
    | .ok text => ([text], .returned (.ok ()))
    | .error message => ([], .returned (.error message))
  else if body.cmd = "status" ∨ body.cmd = "caps" then
    (printStatusLike body, .returned (.ok ()))
  else (printGeneric body, .returned (.ok ()))

/-- `run_query_command`, once the store is open. -/
def finishQuery
    (target : Option String) (cmd : String) (args : List String)
    (json : Bool) (reply : Option QueryReply) : List String × Ending :=
  match shell.queryBody target cmd args reply with
  | .ok body => shell.printBody json body
  | .error message => ([], .returned (.error message))

/-- `TokenCommands::Ping` of `run_token`, once the store is open. -/
def finishPing (id : String) (status : ConnectionStatus) :
    List String × Ending :=
  match ping shell.crates id status shell.file with
  | .ok outcome =>
      ([outcome.hostname ++ " rtt=" ++ toString outcome.rttMs ++ "ms"],
        .returned (.ok ()))
  | .err error =>
      ([],
        .returned (.error (tokenErrorText shell.quoted shell.detail error)))
  | .panicked => ([], .exited 101)

theorem finishPing_of_ok
    {shell : Shell} {id : String} {status : ConnectionStatus}
    {outcome : PingOutcome}
    (answered : ping shell.crates id status shell.file = .ok outcome) :
    shell.finishPing id status =
      ([outcome.hostname ++ " rtt=" ++ toString outcome.rttMs ++ "ms"],
        .returned (.ok ())) := by
  unfold finishPing
  rw [answered]

/-- A command with the round trip it makes; nothing is asked if the store does not
open. -/
def run (command : Command) (roundTrip : RoundTrip) :
    List String × Ending :=
  match shell.opened with
  | .error message => ([], .returned (.error message))
  | .ok () =>
      match command with
      | .ping id => shell.finishPing id (probe shell.json roundTrip)
      | .query target cmd args json =>
          shell.finishQuery target cmd args json
            (controlRunQuery shell.json roundTrip)
      | .say session _ =>
          finishSay shell.quoted session
            (controlRunSay shell.json roundTrip)
      | .interrupt session =>
          finishInterrupt shell.quoted session
            (controlRunInterrupt shell.json roundTrip)
      | .answer session _ =>
          finishAnswer shell.quoted session
            (controlRunAnswer shell.json roundTrip)

end Shell

/-! ## A command that ends well -/

/-- The reply with which the command ends well, if a peer has to answer it. -/
def Command.EndsWellOn : Command → Control.Reply → Prop
  | .ping _, .ping reply => reply.connected = true
  | .query (some _) _ _ _, .query (.ok _) => True
  | .say _ _, .say (.ok _ _) => True
  | .interrupt _, .interrupt .ok => True
  | .answer _ _, .answer .ok => True
  | _, _ => False

section Lines

variable {json : LineJson} {reply : Control.Reply} {line : String}

/-- The line of a reply reaches the command and reads as this reply. -/
theorem reached_line (readsBack : json.ReadsBack)
    (sendable : Control.Sendable json.limit reply)
    (written : Control.replyLine reply = some line) :
    runClientQueryWithTimeout (.read (line ++ "\n")) =
        .reached (line ++ "\n") ∧
      (json.tree (line ++ "\n")).bind (Control.readReply reply.kind) =
        some reply := by
  obtain ⟨line', written', _, visible, read⟩ :=
    Control.reply_reads_back readsBack sendable
  cases written.symm.trans written'
  refine ⟨?_, read⟩
  have notBlank := Text.isBlank_append line "\n"
  rw [visible, Bool.false_and] at notBlank
  simp only [runClientQueryWithTimeout, Text.toList_ne_nil notBlank,
    notBlank, Bool.false_eq_true, if_false]

theorem runClientQuery_line (readsBack : json.ReadsBack)
    (sendable : Control.Sendable json.limit reply)
    (written : Control.replyLine reply = some line) :
    runClientQuery (.read (line ++ "\n")) = some (line ++ "\n") := by
  unfold runClientQuery
  rw [(reached_line readsBack sendable written).1]

/-- A reader that wraps its results in one kind of reply has read this one. -/
theorem read_of_map {α : Type} {read : Value → Option α}
    {wrap : α → Control.Reply}
    (tree :
      (json.tree line).bind (fun value => (read value).map wrap) =
        some reply) :
    ∃ inner, (json.tree line).bind read = some inner ∧
      wrap inner = reply := by
  obtain ⟨value, treeRead, mapped⟩ := Option.bind_eq_some_iff.mp tree
  obtain ⟨inner, innerRead, same⟩ := Option.map_eq_some_iff.mp mapped
  exact ⟨inner, by rw [treeRead, Option.bind_some, innerRead], same⟩

end Lines

theorem ok_of_finishAck
    {quoted : String → String} {worked verb lost session : String}
    {reply : AckReply}
    (succeeded :
      (finishAck quoted worked verb lost session
        (.reached reply)).2.status = 0) :
    reply = .ok := by
  cases reply with
  | ok => rfl
  | timedOut | disconnected | err => cases succeeded

theorem ok_of_finishSay
    {quoted : String → String} {session : String}
    {reply : Control.SayReply}
    (succeeded :
      (finishSay quoted session (.reached reply)).2.status = 0) :
    ∃ text exit, reply = .ok text exit := by
  cases reply with
  | ok text exit => exact ⟨text, exit, rfl⟩
  | interrupted | err => cases succeeded

section EndsWell

variable {shell : Shell} {command : Command} {reply : Control.Reply}
  {line : String}

theorem connected_of_finishPing {id : String} {status : ConnectionStatus}
    (succeeded : (shell.finishPing id status).2.status = 0) :
    ∃ hostname rttMs, status = .connected hostname rttMs := by
  unfold Shell.finishPing at succeeded
  split at succeeded
  next outcome pinged =>
    obtain ⟨records, _, looked⟩ := Result.bind_eq_ok.mp pinged
    obtain ⟨record, _, answered⟩ := Result.bind_eq_ok.mp looked
    cases status with
    | connected hostname rttMs => exact ⟨hostname, rttMs, rfl⟩
    | disconnected =>
        simp only at answered
        split at answered <;> cases answered
  next => cases succeeded
  next => cases succeeded

/-- A targeted query ends well only on an answer. -/
theorem ok_of_finishQuery
    {target cmd : String} {args : List String} {asJson : Bool}
    {reply : Option QueryReply}
    (succeeded :
      (shell.finishQuery (some target) cmd args asJson reply).2.status =
        0) :
    ∃ body, reply = some (.ok body) := by
  unfold Shell.finishQuery at succeeded
  cases reply with
  | none => cases succeeded
  | some reply =>
      cases reply with
      | ok body => exact ⟨body, rfl⟩
      | err | notConnected => cases succeeded

/-- A command that reads the line of a reply ends well only on a reply that says
so. -/
theorem endsWellOn_of_run
    (readsBack : shell.json.ReadsBack)
    (sendable : Control.Sendable shell.json.limit reply)
    (written : Control.replyLine reply = some line)
    (kind : reply.kind = command.request.kind)
    (targeted : ∀ cmd args, command.request ≠ .query none cmd args)
    (succeeded :
      (shell.run command (.read (line ++ "\n"))).2.status = 0) :
    command.EndsWellOn reply := by
  obtain ⟨reached, tree⟩ := reached_line readsBack sendable written
  have asked := runClientQuery_line readsBack sendable written
  unfold Shell.run at succeeded
  split at succeeded
  next => cases succeeded
  next =>
    rw [kind] at tree
    cases command with
    | ping id =>
        obtain ⟨inner, read, rfl⟩ := read_of_map tree
        obtain ⟨hostname, rttMs, connected⟩ :=
          connected_of_finishPing succeeded
        simp only [probe, asked, read] at connected
        split at connected
        next said => exact said
        next => cases connected
    | query target cmd args asJson =>
        obtain ⟨inner, read, rfl⟩ := read_of_map tree
        cases target with
        | none => exact absurd rfl (targeted cmd args)
        | some target =>
            obtain ⟨body, same⟩ := ok_of_finishQuery succeeded
            simp only [controlRunQuery, asked, Option.bind_some, read]
              at same
            cases same
            trivial
    | say session text =>
        obtain ⟨inner, read, rfl⟩ := read_of_map tree
        simp only [controlRunSay, reached, read] at succeeded
        obtain ⟨text, exit, rfl⟩ := ok_of_finishSay succeeded
        trivial
    | interrupt session =>
        obtain ⟨inner, read, rfl⟩ := read_of_map tree
        simp only [controlRunInterrupt, controlRunAck, reached, read]
          at succeeded
        cases ok_of_finishAck succeeded
        trivial
    | answer session choice =>
        obtain ⟨inner, read, rfl⟩ := read_of_map tree
        simp only [controlRunAnswer, controlRunAck, reached, read]
          at succeeded
        cases ok_of_finishAck succeeded
        trivial

end EndsWell

end HollerServer.Cli
