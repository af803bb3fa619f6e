import HollerServer.Lib.FirstMatch
import HollerServer.Proto.Decode
import HollerServer.Wire.Capabilities
import HollerServer.Wire.Peers

/-!
# Confirmed harnesses

The relayed queries of the control channel (`Request::Query` with a target in
`src/wire/control.rs`) on top of the machine of connection tasks and request
calls, and the table of confirmed harnesses they write.  A relay resolves its
target, reads the hostname of the connection, asks, and records the answer; each
of these is an action of its own, with anything in between.

`askedOn`, `answeredOn` and `asked` are not in the code.  They keep the connection
a query was sent to, the one whose frame answered it and the order of the queries,
so that one can say what a connection answered last.
-/

namespace HollerServer.Server

open HollerServer.Proto
open HollerServer.Wire
open Transition

/-- `body.rest.get("ok").and_then(Value::as_bool) == Some(true)`. -/
def saysOk (doc : Value) : Bool :=
  (member? doc "ok").bind readBool == some true

/-- The hosts under `clients`. -/
def listedClients (doc : Value) : List String :=
  match member? doc "clients" with
  | some (.array items) => items.filterMap Value.asStr
  | _ => []

/-- `Registry::record_harness_confirmed`. -/
def recordHarnessConfirmed
    (confirmed : ConfirmedHarnesses) (harness hostname : String) :
    ConfirmedHarnesses :=
  confirmed.put harness
    (((confirmed.get? harness).getD []).insert hostname)

/-- `Registry::resolve_target` may give this token: it is the id itself, or, if
that is no live token, one whose hostname or client id it is. -/
def targets (registry : Registry) (id tokenId : String) : Bool :=
  if (registry.get? id).isSome then tokenId = id
  else
    (registry.get? tokenId).any fun entry =>
      entry.hostname = id || entry.clientId = id

/-- `Registry::hostname_of`. -/
def hostnameOf (registry : Registry) (tokenId : String) : Option String :=
  (registry.get? tokenId).map Entry.hostname

/-- How far a relayed query got. -/
inductive RelayStage where
  | resolved
  /-- `hostname_of` was read and `Registry::query` called -/
  | asking (host : Option String)
  /-- the outcome was taken up; it may be an answer, with `ok: true` or not -/
  | finished (answer : Option Bool)
  deriving DecidableEq, Repr

/-- A `Request::Query` with a target. -/
structure Relay where
  tokenId : String
  cmd : String
  args : List String
  stage : RelayStage := .resolved
  askedOn : Option ConnId := none
  answeredOn : Option ConnId := none

namespace Relay

/-- The feature a `support` query asks for. -/
def feature? (relay : Relay) : Option String :=
  if relay.cmd = "support" then relay.args.head? else none

/-- What the connection answered to this query about the harness. -/
def answerOf
    (relay : Relay) (conn : ConnId) (harness : String) : Option Bool :=
  match relay.stage with
  | .finished answer =>
      if relay.feature? = some harness ∧ relay.askedOn = some conn ∧
          relay.answeredOn = some conn then
        answer
      else none
  | .resolved | .asking _ => none

end Relay

/-- The answer of the peer: any other than an `ok: true` is a no. -/
def answer? : QueryOutcome → Option Bool
  | .ok body => some (saysOk body.rest)
  | .err _ => some false
  | .disconnected => none

/-- The connections, the calls, the relayed queries among them in the order they
were sent, newest first, and the table of confirmed harnesses. -/
structure Relays where
  live : Live := {}
  confirmed : ConfirmedHarnesses := ∅
  relays : FiniteMap ReqId Relay := ∅
  asked : List ReqId := []

namespace Relays

inductive Action where
  | wire (action : Wire.Action)
  | resolveTarget
      (req : ReqId) (id tokenId cmd : String) (args : List String)
  | ask (req : ReqId) (queryId : String)
  | record (req : ReqId)
  deriving Repr

/-- The connection a call is about to send its frame to. -/
def addressee? (live : Live) (req : ReqId) : Option ConnId :=
  (live.reqs.get? req).bind fun request =>
    match request.pc with
    | .enrolled outTx _ =>
        if (live.conns.get? outTx).any Conn.receiving then some outTx
        else none
    | _ => none

/-- The query that the connection is about to answer. -/
def answering? (live : Live) (id : ConnId) : Option ReqId :=
  (live.conns.get? id).bind fun conn =>
    match conn.phase with
    | .session (.queryOk replyTo _ :: _)
    | .session (.queryErr replyTo _ :: _) =>
        (live.registry.get? conn.tokenId).bind (·.tx? .query replyTo)
    | _ => none

/-- Note something about a relayed query that waits for its answer; `sent` is the
query itself if it goes out now. -/
def note
    (state : Relays) (req : ReqId) (sent : List ReqId)
    (update : Relay → Relay) : Relays :=
  match state.relays.get? req with
  | some relay =>
      match relay.stage with
      | .asking _ =>
          { state with
            relays := state.relays.put req (update relay)
            asked := sent ++ state.asked }
      | .resolved | .finished _ => state
  | none => state

/-- What is noted of an action of the connections and calls. -/
def observe (state : Relays) : Wire.Action → Relays
  | .send req _ =>
      match addressee? state.live req with
      | some conn =>
          state.note req [req] fun relay =>
            { relay with askedOn := some conn }
      | none => state
  | .resolve id =>
      match answering? state.live id with
      | some req =>
          state.note req [] fun relay =>
            { relay with answeredOn := some id }
      | none => state
  | _ => state

/-- Nobody but a relay calls `Registry::query`. -/
def callsQuery : Wire.Action → Bool
  | .call _ _ _ (.query _ _) => true
  | _ => false

/-- What the control channel does with the outcome of a relayed query. -/
def takeUp
    (state : Relays) (req : ReqId) (relay : Relay) (host : Option String)
    (outcome : QueryOutcome) : Relays :=
  { state with
    confirmed :=
      match outcome, relay.feature?, host with
      | .ok body, some feature, some host =>
          if saysOk body.rest then
            recordHarnessConfirmed state.confirmed feature host
          else state.confirmed
      | _, _, _ => state.confirmed
    relays :=
      state.relays.put req
        { relay with stage := .finished (answer? outcome) } }

def step (state : Relays) : Action → Option Relays
  | .wire action =>
      if callsQuery action then none
      else
        (state.live.step action).map fun live =>
          { state.observe action with live }
  | .resolveTarget req id tokenId cmd args =>
      match state.relays.get? req with
      | none =>
          if targets state.live.registry id tokenId then
            some
              { state with
                relays := state.relays.put req { tokenId, cmd, args } }
          else none
      | some _ => none
  | .ask req queryId =>
      match state.relays.get? req with
      | some relay =>
          match relay.stage with
          | .resolved =>
              (state.live.step
                (.call req relay.tokenId queryId
                  (.query relay.cmd relay.args))).map fun live =>
                { state with
                  live
                  relays :=
                    state.relays.put req
                      { relay with
                        stage :=
                          .asking
                            (hostnameOf state.live.registry
                              relay.tokenId) } }
          | .asking _ | .finished _ => none
      | none => none
  | .record req =>
      match state.relays.get? req, state.live.reqs.get? req with
      | some relay, some request =>
          match relay.stage, request.pc with
          | .asking host, .returned (.query outcome) =>
              some (state.takeUp req relay host outcome)
          | _, _ => none
      | _, _ => none

/-- The machine of the relayed queries. -/
def machine : Machine Relays Action where
  init := {}
  step := step

/-- What the connection answered to the last relayed `support` query about the
harness that it has answered. -/
def lastAnswer
    (state : Relays) (conn : ConnId) (harness : String) : Option Bool :=
  state.asked.findSome? fun req =>
    (state.relays.get? req).bind fun relay => relay.answerOf conn harness

/-- The connection registered for the token has that hostname and has confirmed
the harness. -/
def Confirms (state : Relays) (tokenId host harness : String) : Prop :=
  ∃ conn, state.live.peer? tokenId = some (conn, host) ∧
    state.lastAnswer conn harness = some true

/-- A document says `ok` exactly if a registered connection has confirmed the
harness, and lists the hostnames of these connections. -/
def Reports (state : Relays) (harness : String) (doc : Value) : Prop :=
  (saysOk doc = true ↔ ∃ tokenId host, state.Confirms tokenId host harness) ∧
    ∀ host, host ∈ listedClients doc ↔
      ∃ tokenId, state.Confirms tokenId host harness

/-- The answers to `support` and the capabilities in `caps` report the
confirmations of the registered connections, for every known harness and whatever
else the server says of itself. -/
def ConfirmationLive (state : Relays) : Prop :=
  ∀ harness ∈ harnessesKnown,
    (∃ doc,
      supportBody [harness] (confirmedHarnessesSnapshot state.confirmed) =
          .ok { cmd := "support", rest := doc } ∧
        state.Reports harness doc) ∧
    ∀ hostname listening clients sessions,
      ∃ doc,
        (member?
          (capsBody hostname listening clients sessions
            (confirmedHarnessesSnapshot state.confirmed)).rest
          "capabilities").bind (member? · harness) = some doc ∧
        state.Reports harness doc

end Relays

section Reports

variable {confirmed : List HarnessConfirmation} {harness : String}

theorem listedClients_strings {doc : Value} {hosts : List String}
    (clients : member? doc "clients" = some (jsonStrings hosts)) :
    listedClients doc = hosts := by
  unfold listedClients
  rw [clients]
  have strings :
      (hosts.map Value.string).filterMap Value.asStr = hosts := by
    rw [List.filterMap_map]
    exact List.filterMap_some
  exact strings

theorem listedClients_absent {doc : Value}
    (absent : member? doc "clients" = none) : listedClients doc = [] := by
  unfold listedClients
  rw [absent]

theorem saysOk_bool {doc : Value} {ok : Bool}
    (stored : member? doc "ok" = some (.bool ok)) : saysOk doc = ok := by
  unfold saysOk
  rw [stored]
  cases ok <;> rfl

/-- A document that reports on these hosts. -/
def Lists (doc : Value) (hosts : List String) : Prop :=
  (saysOk doc = true ↔ hosts ≠ []) ∧ listedClients doc = hosts

/-- The standing of a harness lists its hosts. -/
theorem lists_of_tells {doc : Value}
    (tells : Tells doc (harnessStanding confirmed harness)) :
    Lists doc ((confirmedHosts confirmed harness).getD []) := by
  have ok := saysOk_bool tells.ok
  have clients := tells.clients
  unfold harnessStanding at ok clients
  cases hosts : (confirmedHosts confirmed harness).getD [] with
  | nil =>
      rw [hosts] at ok clients
      refine ⟨?_, listedClients_absent clients⟩
      rw [ok]
      decide
  | cons host rest =>
      rw [hosts] at ok clients
      refine ⟨?_, listedClients_strings clients⟩
      rw [ok]
      exact iff_of_true rfl (List.cons_ne_nil host rest)

/-- The answer to `support` for a known harness. -/
theorem supportBody_lists (known : harness ∈ harnessesKnown) :
    ∃ doc,
      supportBody [harness] confirmed =
          .ok { cmd := "support", rest := doc } ∧
        Lists doc ((confirmedHosts confirmed harness).getD []) := by
  obtain ⟨doc, answered, tells⟩ := harnessAnswer_tells confirmed known []
  exact ⟨doc, answered, lists_of_tells tells⟩

/-- The capability of a known harness. -/
theorem harnessCapability_lists :
    Lists (harnessCapability confirmed harness)
      ((confirmedHosts confirmed harness).getD []) :=
  lists_of_tells (harnessCapability_tells confirmed harness)

/-- The entry of a known harness among the capabilities. -/
theorem capsBody_harness
    (hostname : String) (listening : List String) (clients sessions : Nat)
    (known : harness ∈ harnessesKnown) :
    (member?
      (capsBody hostname listening clients sessions confirmed).rest
      "capabilities").bind (member? · harness) =
      some (harnessCapability confirmed harness) := by
  have apart : harness ∉ protocolFeatures :=
    (harnessesKnown_apart harness known).2
  unfold capsBody statusRest jsonObject
  rw [setKey_object, member?_object, lookup_insertField, if_pos rfl,
    Option.bind_some]
  rw [member?_capabilities, if_neg apart, if_pos known]

/-- The hosts of a harness in a snapshot are those of the table. -/
theorem mem_confirmedHosts_snapshot
    {table : ConfirmedHarnesses} {host : String} :
    host ∈
        (confirmedHosts (confirmedHarnessesSnapshot table)
          harness).getD [] ↔
      host ∈ (table.get? harness).getD [] := by
  have rows :
      (confirmedHarnessesSnapshot table).Perm
        (table.pairs.map fun row =>
          { id := row.1
            clients := row.2.insertionSort (· ≤ ·) :
            HarnessConfirmation }) :=
    List.perm_insertionSort _ _
  have distinct :
      ((confirmedHarnessesSnapshot table).map
        HarnessConfirmation.id).Nodup := by
    refine (rows.map HarnessConfirmation.id).nodup_iff.mpr ?_
    rw [List.map_map]
    exact table.nodup_keys_pairs
  cases stored : table.get? harness with
  | none =>
      have absent :
          confirmedHosts (confirmedHarnessesSnapshot table) harness =
            none := by
        unfold confirmedHosts
        rw [Option.map_eq_none_iff, List.find?_eq_none]
        intro row member
        obtain ⟨⟨id, hosts⟩, isRow, rfl⟩ :=
          List.mem_map.mp (rows.mem_iff.mp member)
        have found := FiniteMap.mem_pairs.mp isRow
        simp only [decide_eq_true_eq]
        rintro rfl
        rw [stored] at found
        cases found
      rw [absent]
  | some hosts =>
      have member :
          ({ id := harness, clients := hosts.insertionSort (· ≤ ·) } :
            HarnessConfirmation) ∈ confirmedHarnessesSnapshot table :=
        rows.mem_iff.mpr
          (List.mem_map.mpr
            ⟨(harness, hosts), FiniteMap.mem_pairs.mpr stored, rfl⟩)
      have found := List.findKey_of_mem distinct member rfl
      have listed :
          confirmedHosts (confirmedHarnessesSnapshot table) harness =
            some (hosts.insertionSort (· ≤ ·)) := by
        unfold confirmedHosts
        exact congrArg (Option.map HarnessConfirmation.clients) found
      rw [listed]
      exact List.mem_insertionSort _

end Reports

namespace Relays

variable {state next : Relays} {harness : String}

/-- The hosts that the table has for a harness. -/
def hosts (state : Relays) (harness : String) : List String :=
  (state.confirmed.get? harness).getD []

/-- The table has the hostnames of the registered connections that confirmed the
harness. -/
def Mirrors (state : Relays) (harness : String) : Prop :=
  ∀ host, host ∈ state.hosts harness ↔
    ∃ tokenId, state.Confirms tokenId host harness

theorem reports_iff_mirrors {doc : Value}
    (lists :
      Lists doc
        ((confirmedHosts (confirmedHarnessesSnapshot state.confirmed)
          harness).getD [])) :
    state.Reports harness doc ↔ state.Mirrors harness := by
  obtain ⟨ok, clients⟩ := lists
  unfold Reports
  rw [clients, ok]
  simp only [mem_confirmedHosts_snapshot]
  constructor
  · exact And.right
  · intro mirrors
    refine ⟨?_, mirrors⟩
    constructor
    · intro some
      obtain ⟨host, member⟩ := List.exists_mem_of_ne_nil _ some
      obtain ⟨tokenId, confirms⟩ :=
        (mirrors host).mp (mem_confirmedHosts_snapshot.mp member)
      exact ⟨tokenId, host, confirms⟩
    · rintro ⟨tokenId, host, confirms⟩
      exact
        List.ne_nil_of_mem
          (mem_confirmedHosts_snapshot.mpr
            ((mirrors host).mpr ⟨tokenId, confirms⟩))

/-- Every known harness is mirrored. -/
def InStep (state : Relays) : Prop :=
  ∀ harness ∈ harnessesKnown, state.Mirrors harness

theorem confirmationLive_iff :
    state.ConfirmationLive ↔ state.InStep := by
  constructor
  · intro live harness known
    obtain ⟨⟨doc, answered, reports⟩, _⟩ := live harness known
    obtain ⟨doc', answered', lists⟩ :=
      @supportBody_lists (confirmedHarnessesSnapshot state.confirmed) _
        known
    cases answered.symm.trans answered'
    exact (reports_iff_mirrors lists).mp reports
  · intro mirrors harness known
    constructor
    · obtain ⟨doc, answered, lists⟩ :=
        @supportBody_lists (confirmedHarnessesSnapshot state.confirmed) _
          known
      exact
        ⟨doc, answered,
          (reports_iff_mirrors lists).mpr (mirrors harness known)⟩
    · intro hostname listening clients sessions
      exact
        ⟨_, capsBody_harness hostname listening clients sessions known,
          (reports_iff_mirrors harnessCapability_lists).mpr
            (mirrors harness known)⟩

end Relays

end HollerServer.Server
