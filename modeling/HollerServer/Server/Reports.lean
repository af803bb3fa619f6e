import HollerServer.Server.OwnReplies

/-!
# What reports tell

The requests that call nobody: `status`, `roster`, untargeted queries and revokes.
Their replies are read off the server while the request is in service, an untargeted
query in three looks between which everybody else goes on.
-/

namespace HollerServer.Server.Switchboard

open HollerServer.Proto
open HollerServer.Wire
open Transition

variable {settings : Settings} {json : Control.LineJson}
  {board next : Switchboard} {action : Action}

section Reports

variable (settings json) (config : RosterConfig) (actions : List Action)
  (task : TaskId) (index : Nat)

/-- The reply tells what was so while the request was in service.  Nothing is asked
of a reply that a call of the registry led to. -/
def Reports (request : Control.Request) (reply : Control.Reply) : Prop :=
  match request with
  | .status | .roster =>
      ∃ sofar moment after,
        During settings json config actions task index request sofar
          moment after ∧
        reading settings moment request = some reply
  | .query none cmd args =>
      ∃ first asked askedAfter second counted countedAfter third answered
        answeredAfter,
        During settings json config actions task index request first
          asked askedAfter ∧
        During settings json config actions task index request second
          counted countedAfter ∧
        During settings json config actions task index request third
          answered answeredAfter ∧
        first.length < second.length ∧ second.length < third.length ∧
        reply =
          .query
            (answerHere settings answered
              (confirmedHarnessesSnapshot asked.confirmed)
              counted.live.registry.len cmd args)
  | .revoke tokenId =>
      ∃ sofar moment after,
        During settings json config actions task index request sofar
          moment after ∧
        reply =
          .revoke
            { closed := (moment.live.registry.get? tokenId).isSome } ∧
        after.live.registry.get? tokenId = none
  | .ping _ | .query (some _) _ _ | .say _ _ | .interrupt _
  | .answer _ _ => True

/-- What a request in service has read so far. -/
def Underway (request : Control.Request) : Errand → Prop
  | .confirmed rows =>
      ∃ cmd args, request = .query none cmd args ∧
        ∃ sofar moment after,
          During settings json config actions task index request sofar
            moment after ∧
          rows = confirmedHarnessesSnapshot moment.confirmed
  | .counted rows clients =>
      ∃ cmd args, request = .query none cmd args ∧
        ∃ first asked askedAfter second counted countedAfter,
          During settings json config actions task index request first
            asked askedAfter ∧
          During settings json config actions task index request second
            counted countedAfter ∧
          first.length < second.length ∧
          rows = confirmedHarnessesSnapshot asked.confirmed ∧
          clients = counted.live.registry.len
  | .removed tokenId closed =>
      request = .revoke tokenId ∧
        ∃ sofar moment after,
          During settings json config actions task index request sofar
            moment after ∧
          closed = (moment.live.registry.get? tokenId).isSome ∧
          after.live.registry.get? tokenId = none
  | .resolved _ | .calling _ _ => call? settings request ≠ none
  | .writing _ reply =>
      Reports settings json config actions task index request reply

end Reports

section Extend

variable {config : RosterConfig} {actions : List Action} {task : TaskId}
  {index : Nat} {request : Control.Request}

/-- What was read during a run was read during every longer one. -/
theorem Reports.extend {reply : Control.Reply}
    (reports :
      Reports settings json config actions task index request reply)
    (more : List Action) :
    Reports settings json config (actions ++ more) task index request
      reply := by
  cases request with
  | status | roster =>
      obtain ⟨sofar, moment, after, during, read⟩ := reports
      exact ⟨sofar, moment, after, during.extend more, read⟩
  | query target cmd args =>
      cases target with
      | none =>
          obtain ⟨first, asked, askedAfter, second, counted, countedAfter,
            third, answered, answeredAfter, asks, counts, answers,
            order⟩ := reports
          exact
            ⟨first, asked, askedAfter, second, counted, countedAfter,
              third, answered, answeredAfter, asks.extend more,
              counts.extend more, answers.extend more, order⟩
      | some target => trivial
  | revoke tokenId =>
      obtain ⟨sofar, moment, after, during, read⟩ := reports
      exact ⟨sofar, moment, after, during.extend more, read⟩
  | ping | say | interrupt | answer => trivial

theorem Underway.extend {errand : Errand}
    (underway :
      Underway settings json config actions task index request errand)
    (more : List Action) :
    Underway settings json config (actions ++ more) task index request
      errand := by
  cases errand with
  | confirmed rows =>
      obtain ⟨cmd, args, query, sofar, moment, after, during, read⟩ :=
        underway
      exact
        ⟨cmd, args, query, sofar, moment, after, during.extend more, read⟩
  | counted rows clients =>
      obtain ⟨cmd, args, query, first, asked, askedAfter, second, counted,
        countedAfter, asks, counts, order⟩ := underway
      exact
        ⟨cmd, args, query, first, asked, askedAfter, second, counted,
          countedAfter, asks.extend more, counts.extend more, order⟩
  | removed tokenId closed =>
      obtain ⟨revoke, sofar, moment, after, during, read⟩ := underway
      exact
        ⟨revoke, sofar, moment, after, during.extend more, read⟩
  | resolved | calling => exact underway
  | writing tx reply => exact Reports.extend underway more

end Extend

/-! ## One section -/

section OneSection

variable {config : RosterConfig} {actions : List Action} {task : TaskId}
  {index : Nat} {request : Control.Request} {hub : Hub}
  {errand : Errand}

/-- Nothing is asked of a reply that a call leads to. -/
theorem reports_of_call {reply : Control.Reply}
    (calls : call? settings request ≠ none) :
    Reports settings json config actions task index request reply := by
  cases request with
  | status | roster | revoke => exact absurd rfl calls
  | query target cmd args =>
      cases target with
      | none => exact absurd rfl calls
      | some target => trivial
  | ping | say | interrupt | answer => trivial

theorem registry_of_revoke {tokenId : String}
    (moved :
      board.stepHub settings (.serve (.wire (.revoke tokenId))) =
        some hub) :
    hub.live.registry.get? tokenId = none := by
  rw [Live.step_revoke (live_of_wire moved)]
  exact (Registry.get?_remove _ tokenId tokenId).trans (if_pos rfl)

/-- The section that takes a request up. -/
theorem underway_of_opened {sofar : List Action}
    (opened : Section settings board request none next.hub errand)
    (during :
      During settings json config actions task index request sofar board
        next) :
    Underway settings json config actions task index request errand := by
  generalize same : next.hub = moved at opened
  cases opened with
  | @replied reply kind refused read =>
      by_cases calls : call? settings request = none
      · have found := read calls
        cases request with
        | status | roster => exact ⟨_, _, _, during, found⟩
        | query target cmd args =>
            cases target with
            | none => cases found
            | some target => cases calls
        | revoke => cases found
        | ping | say | interrupt | answer => cases calls
      · exact reports_of_call calls
  | polled asked => exact ⟨_, _, asked, _, _, _, during, rfl⟩
  | resolved asked led =>
      subst asked
      simp [Underway, call?]
  | called asks led stepped =>
      unfold Underway
      rw [asks]
      simp
  | removed asked stepped =>
      refine ⟨asked, _, _, _, during, rfl, ?_⟩
      have gone := registry_of_revoke stepped
      rw [← same] at gone
      exact gone

/-- A later section of a request. -/
theorem underway_of_went {before : Errand}
    (went : Section settings board request (some before) hub errand)
    (underway :
      Underway settings json config actions task index request before)
    (during :
      During settings json config (actions ++ [action]) task index request
        actions board next) :
    Underway settings json config (actions ++ [action]) task index request
      errand := by
  cases went with
  | counted =>
      obtain ⟨cmd, args, query, sofar, moment, after, asked, read⟩ :=
        underway
      exact
        ⟨cmd, args, query, sofar, moment, after, actions, board, next,
          asked.extend [action], during, asked.1.length_lt, read, rfl⟩
  | dispatched asked =>
      obtain ⟨cmd, args, query, first, polled, polledAfter, second,
        counted, countedAfter, asks, counts, order, rfl, rfl⟩ := underway
      subst query
      cases asked
      exact
        ⟨first, polled, polledAfter, second, counted, countedAfter,
          actions, board, next, asks.extend [action],
          counts.extend [action], during, order, counts.1.length_lt, rfl⟩
  | relayed asks moved =>
      unfold Underway
      rw [asks]
      simp
  | unlisted moved =>
      obtain ⟨revoke, sofar, moment, after, removed, rfl, gone⟩ :=
        underway
      subst revoke
      exact ⟨sofar, moment, after, removed.extend [action], rfl, gone⟩

end OneSection

/-! ## Whole runs -/

section Runs

variable {config : RosterConfig} {actions : List Action} {task : TaskId}

/-- What a task has served and serves tells what was so. -/
structure Tells
    (settings : Settings) (json : Control.LineJson)
    (config : RosterConfig) (actions : List Action) (task : TaskId)
    (control : ControlTask) : Prop where
  served :
    ∀ index item, control.served[index]? = some item →
      Reports settings json config actions task index item.request
        item.reply
  serving :
    ∀ request errand, control.station = .serving request errand →
      Underway settings json config actions task control.served.length
        request errand

theorem Tells.extend {control : ControlTask}
    (tells : Tells settings json config actions task control)
    (more : List Action) :
    Tells settings json config (actions ++ more) task control where
  served index item found := (tells.served index item found).extend more
  serving request errand station :=
    (tells.serving request errand station).extend more

/-- A task that moves on has served the same requests. -/
theorem Tells.moved {control : ControlTask} {station : Station}
    {asked : List Control.Request}
    (tells : Tells settings json config actions task control)
    (serving :
      ∀ request errand, station = .serving request errand →
        Underway settings json config actions task control.served.length
          request errand) :
    Tells settings json config actions task
      { control with station, asked } where
  served := tells.served
  serving := serving

/-- A task has answered one more request. -/
theorem Tells.answered {control : ControlTask} {station : Station}
    {request : Control.Request} {tx : Option ReqId}
    {reply : Control.Reply} {sent : Bool}
    (tells : Tells settings json config actions task control)
    (serving : control.station = .serving request (.writing tx reply))
    (idle : ∀ request errand, station ≠ .serving request errand) :
    Tells settings json config actions task
      { control with
        station
        served := control.served ++ [{ request, tx, reply, sent }] } where
  served := by
    intro index item found
    rcases getElem?_concat_iff.mp found with old | ⟨rfl, rfl⟩
    · exact tells.served index item old
    · exact tells.serving request _ serving
  serving := by
    intro request errand same
    exact absurd same (idle request errand)

theorem tells_of_put {moved : ControlTask}
    (tells :
      ∀ other control, board.tasks.get? other = some control →
        Tells settings json config actions other control)
    (put : next.tasks = board.tasks.put task moved)
    (here : Tells settings json config (actions ++ [action]) task moved)
    (other : TaskId) (control : ControlTask)
    (found : next.tasks.get? other = some control) :
    Tells settings json config (actions ++ [action]) other control := by
  rw [put, FiniteMap.get?_put] at found
  split at found
  next same =>
    cases found
    rw [same]
    exact here
  next => exact (tells other control found).extend [action]

theorem tells_of_takes
    (takes : Takes settings json board action next)
    (passes :
      (machine settings json config).Passes (actions ++ [action]) actions
        board next)
    (tells :
      ∀ other control, board.tasks.get? other = some control →
        Tells settings json config actions other control) :
    ∀ other control, next.tasks.get? other = some control →
      Tells settings json config (actions ++ [action]) other control := by
  cases takes with
  | hub outside moved =>
      intro other control found
      exact (tells other control found).extend _
  | accept free =>
      refine tells_of_put tells rfl ⟨?_, ?_⟩
      · intro index item found
        cases found
      · intro request errand station
        cases station
  | skip found station unread =>
      intro other control found
      exact (tells other control found).extend _
  | @line task text id target tx control request hub errand found station
      read opened =>
      refine
        tells_of_put tells rfl
          (((tells task control found).extend _).moved ?_)
      intro request' errand' same
      cases same
      exact
        underway_of_opened opened
          ⟨passes, _, errand, FiniteMap.get?_put_self _ _ _, rfl, rfl⟩
  | @hangUp task control found station =>
      refine
        tells_of_put tells rfl
          (((tells task control found).extend _).moved ?_)
      intro request errand same
      cases same
  | @proceed task id tx control request before after hub found station
      went =>
      refine
        tells_of_put tells rfl
          (((tells task control found).extend _).moved ?_)
      intro request' errand' same
      cases same
      exact
        underway_of_went went
          ((tells task control found).serving _ _ station)
          ⟨passes, _, after, FiniteMap.get?_put_self _ _ _, rfl, rfl⟩
  | @settle task control request tx host req outcome reply found station
      foundReq returned replied =>
      refine
        tells_of_put tells rfl
          (((tells task control found).extend _).moved ?_)
      intro request' errand' same
      cases same
      exact
        reports_of_call ((tells task control found).serving _ _ station)
  | @write task written control request tx reply sent found station
      serialized =>
      refine
        tells_of_put tells rfl
          (((tells task control found).extend _).answered station ?_)
      intro request errand same
      split at same <;> cases same

theorem tells_of_run
    (ran :
      (machine settings json config).run
        (machine settings json config).init actions = some board) :
    ∀ other control, board.tasks.get? other = some control →
      Tells settings json config actions other control := by
  refine
    (machine settings json config).run_induction
      (motive := fun actions board =>
        ∀ other control, board.tasks.get? other = some control →
          Tells settings json config actions other control) ?_ ?_ ran
  · intro other control noTask
    cases noTask
  · intro actions board action next ran tells stepped
    exact
      tells_of_takes (takes_of_step stepped)
        (Machine.passes_last ran stepped) tells

/-- Whatever else goes on, the replies to `status`, `roster`, untargeted queries and
revokes tell what was so while these requests were in service: `status` and `roster`
at one moment, a query at three in this order, and a revoke closes what it says and
leaves no entry. -/
theorem reports_are_readings
    (ran :
      (machine settings json config).run
        (machine settings json config).init actions = some board)
    {control : ControlTask} {index : Nat} {item : Served}
    (found : board.tasks.get? task = some control)
    (served : control.served[index]? = some item) :
    Reports settings json config actions task index item.request
      item.reply := by
  have tells := tells_of_run ran task control found
  exact tells.served index item served

end Runs

/-- An untargeted query; between its looks another control connection asks for a
ping. -/
theorem reports_are_readings_query :
    ∃ actions board control item,
      (machine Wire.Sample.settings Control.compactLineJson .default).run
          (machine Wire.Sample.settings Control.compactLineJson
            .default).init actions =
        some board ∧
      board.tasks.get? 0 = some control ∧
      control.served[0]? = some item ∧
      item.request = .query none "status" [] ∧
      Reports Wire.Sample.settings Control.compactLineJson .default actions
        0 0 item.request item.reply := by
  have read :=
    readLine_requestLine Control.readsBack_compactLineJson
      (.query none "status" [])
  have readPing :=
    readLine_requestLine Control.readsBack_compactLineJson (.ping "t")
  have start :=
    Machine.reachable_init
      (machine Wire.Sample.settings Control.compactLineJson .default)
  have first := reachable_step (.accept 0) start rfl
  have both := reachable_step (.accept 1) first rfl
  have taken :=
    reachable_step _ both
      (@step_line Wire.Sample.settings Control.compactLineJson _ 0 _ "q" none
        5 _ _ _ _ rfl rfl read rfl)
  have pinged :=
    reachable_step _ taken
      (@step_line Wire.Sample.settings Control.compactLineJson _ 1 _ "p" none
        6 _ _ _ _ rfl rfl readPing rfl)
  have counted := reachable_step (.proceed 0 0 "") pinged rfl
  have answered := reachable_step (.proceed 0 0 "") counted rfl
  obtain ⟨actions, ran⟩ := reachable_step (.write 0 true) answered rfl
  exact
    ⟨actions, _, _, _, ran, rfl, rfl, rfl,
      @reports_are_readings _ _ _ _ _ _ ran _ 0 _ rfl rfl⟩

end HollerServer.Server.Switchboard
