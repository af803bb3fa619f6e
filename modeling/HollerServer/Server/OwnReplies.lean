import HollerServer.Server.SwitchboardRuns
import HollerServer.Wire.Gate

/-!
# Every request gets its own reply

A control connection answers its requests in the order it has read them, each with
one line, and the reply is made of what the call of this very request returned.
-/

namespace HollerServer.Server.Switchboard

open HollerServer.Proto
open HollerServer.Wire
open Transition

variable {settings : Settings} {json : Control.LineJson}
  {board next : Switchboard} {action : Action}

/-- The reply belongs to the request: it has its kind, it is made of what the call
returned, and without a call it is the refusal of a request that leads to one. -/
structure Justified
    (settings : Settings) (live : Live) (request : Control.Request)
    (tx : Option ReqId) (reply : Control.Reply) : Prop where
  kind : reply.kind = request.kind
  returned :
    ∀ id, tx = some id →
      ∃ req outcome, live.reqs.get? id = some req ∧
        req.pc = .returned outcome ∧
        outcomeReply settings request outcome = some reply
  refused :
    tx = none → call? settings request ≠ none →
      refusal settings request = some reply

/-- What a task is doing for a request is something this request asks for. -/
def ErrandFits
    (settings : Settings) (live : Live) (request : Control.Request) :
    Errand → Prop
  | .confirmed _ => ∃ cmd args, request = .query none cmd args
  | .counted _ _ => ∃ cmd args, request = .query none cmd args
  | .resolved _ => ∃ target cmd args, request = .query (some target) cmd args
  | .calling _ _ => (call? settings request).isSome = true
  | .removed tokenId _ => request = .revoke tokenId
  | .writing tx reply => Justified settings live request tx reply

/-- The requests are taken up in the order they were read; every line but the last
was written, and the last one too as long as the task goes on. -/
structure Sound
    (settings : Settings) (live : Live) (control : ControlTask) : Prop where
  inOrder : control.asked = control.errands.map Prod.fst
  written :
    control.station ≠ .returned →
      ∀ item ∈ control.served, item.sent = true
  earlier : ∀ item ∈ control.served.dropLast, item.sent = true
  lines :
    ∀ item ∈ control.served, item.sent = true →
      (Control.replyLine item.reply).isSome = true
  justified :
    ∀ item ∈ control.served,
      Justified settings live item.request item.tx item.reply
  fits :
    ∀ request errand, control.station = .serving request errand →
      ErrandFits settings live request errand

/-- One step of connections and calls, or none. -/
def Grows (live after : Live) : Prop :=
  after = live ∨ ∃ action, live.step action = some after

theorem Takes.grows (takes : Takes settings json board action next) :
    Grows board.live next.live := by
  cases takes.books with
  | kept same quiet | noted after quiet =>
      rcases quiet with same | ⟨action, stepped, _⟩
      · exact Or.inl same
      · exact Or.inr ⟨action, stepped⟩
  | placed before after asks serves led started =>
      exact Or.inr ⟨_, started⟩

section Kept

variable {live after : Live} {request : Control.Request}
  {control : ControlTask}

theorem Justified.kept {tx : Option ReqId} {reply : Control.Reply}
    (justified : Justified settings live request tx reply)
    (coherent : live.Coherent) (grows : Grows live after) :
    Justified settings after request tx reply where
  kind := justified.kind
  returned := by
    intro id same
    obtain ⟨req, outcome, found, returned, replied⟩ :=
      justified.returned id same
    rcases grows with rfl | ⟨action, stepped⟩
    · exact ⟨req, outcome, found, returned, replied⟩
    · obtain ⟨req', found', returned'⟩ :=
        Live.returned_step coherent stepped found returned
      exact ⟨req', outcome, found', returned', replied⟩
  refused := justified.refused

theorem errandFits_kept {errand : Errand}
    (fits : ErrandFits settings live request errand)
    (coherent : live.Coherent) (grows : Grows live after) :
    ErrandFits settings after request errand := by
  cases errand with
  | writing tx reply => exact Justified.kept fits coherent grows
  | _ => exact fits

theorem Sound.kept (sound : Sound settings live control)
    (coherent : live.Coherent) (grows : Grows live after) :
    Sound settings after control where
  inOrder := sound.inOrder
  written := sound.written
  earlier := sound.earlier
  lines := sound.lines
  justified := fun item member =>
    (sound.justified item member).kept coherent grows
  fits := fun request errand station =>
    errandFits_kept (sound.fits request errand station) coherent grows

end Kept

/-- A section leaves a task with something its request asks for. -/
theorem Section.fits
    {request : Control.Request} {before : Option Errand} {hub : Hub}
    {errand : Errand}
    (went : Section settings board request before hub errand)
    (fits :
      ∀ earlier, before = some earlier →
        ErrandFits settings board.live request earlier) :
    ErrandFits settings hub.live request errand := by
  cases went with
  | replied kind refused read =>
      exact ⟨kind, by simp, fun _ => refused⟩
  | polled asked => exact ⟨_, _, asked⟩
  | resolved asked led => exact ⟨_, _, _, asked⟩
  | called asks led moved =>
      unfold ErrandFits
      rw [asks]
      rfl
  | removed asked moved => exact asked
  | counted =>
      obtain ⟨cmd, args, asked⟩ := fits _ rfl
      exact ⟨cmd, args, asked⟩
  | dispatched asked =>
      obtain ⟨cmd, args, rfl⟩ := fits _ rfl
      exact ⟨rfl, by simp, by simp [call?]⟩
  | relayed asks moved =>
      unfold ErrandFits
      rw [asks]
      rfl
  | unlisted moved =>
      have asked := fits _ rfl
      unfold ErrandFits at asked
      subst asked
      exact ⟨rfl, by simp, by simp [call?]⟩

theorem kind_of_outcomeReply
    {request : Control.Request} {outcome : Outcome} {reply : Control.Reply}
    (replied : outcomeReply settings request outcome = some reply) :
    reply.kind = request.kind := by
  unfold outcomeReply at replied
  split at replied <;> cases replied <;> rfl

section TaskSteps

variable {live : Live} {request : Control.Request}
  {control : ControlTask} {errand : Errand}

theorem Sound.opened (sound : Sound settings live control)
    (station : control.station = .reading)
    (fits : ErrandFits settings live request errand) :
    Sound settings live
      { control with
        station := .serving request errand
        asked := control.asked ++ [request] } where
  inOrder := by
    simp only [sound.inOrder, ControlTask.errands, station,
      Station.errand?, Option.toList_none, Option.toList_some,
      List.append_nil, List.map_append, List.map_cons, List.map_nil]
  written := fun _ => sound.written (by rw [station]; simp)
  earlier := sound.earlier
  lines := sound.lines
  justified := sound.justified
  fits := by
    intro request' errand' same
    cases same
    exact fits

theorem Sound.hungUp (sound : Sound settings live control)
    (station : control.station = .reading) :
    Sound settings live { control with station := .returned } where
  inOrder := by
    have before := sound.inOrder
    rw [ControlTask.errands, station] at before
    exact before
  written := fun running => absurd rfl running
  earlier := sound.earlier
  lines := sound.lines
  justified := sound.justified
  fits := by
    intro request' errand' same
    cases same

theorem Sound.went {before : Errand} (sound : Sound settings live control)
    (station : control.station = .serving request before)
    (fits : ErrandFits settings live request errand) :
    Sound settings live
      { control with station := .serving request errand } where
  inOrder := by
    have before := sound.inOrder
    simp only [ControlTask.errands, station, Station.errand?,
      Option.toList_some, List.map_append, List.map_cons, List.map_nil]
      at before ⊢
    exact before
  written := fun _ => sound.written (by rw [station]; simp)
  earlier := sound.earlier
  lines := sound.lines
  justified := sound.justified
  fits := by
    intro request' errand' same
    cases same
    exact fits

theorem Sound.wrote {tx : Option ReqId} {reply : Control.Reply} {sent : Bool}
    (sound : Sound settings live control)
    (station : control.station = .serving request (.writing tx reply))
    (serialized : sent = true → (Control.replyLine reply).isSome = true) :
    Sound settings live
      { control with
        station := if sent then .reading else .returned
        served := control.served ++ [{ request, tx, reply, sent }] } := by
  have before : ∀ item ∈ control.served, item.sent = true :=
    sound.written (by rw [station]; simp)
  refine ⟨?_, ?_, ?_, ?_, ?_, ?_⟩
  · have order := sound.inOrder
    simp only [ControlTask.errands, station, Station.errand?,
      Option.toList_some, List.map_append, List.map_cons, List.map_nil]
      at order ⊢
    rw [order]
    cases sent <;> exact (List.append_nil _).symm
  · intro running item member
    rcases List.mem_append.mp member with old | last
    · exact before item old
    · cases List.mem_singleton.mp last
      cases sent with
      | true => rfl
      | false => exact absurd rfl running
  · intro item member
    rw [List.dropLast_concat] at member
    exact before item member
  · intro item member itemSent
    rcases List.mem_append.mp member with old | last
    · exact sound.lines item old itemSent
    · cases List.mem_singleton.mp last
      exact serialized itemSent
  · intro item member
    rcases List.mem_append.mp member with old | last
    · exact sound.justified item old
    · cases List.mem_singleton.mp last
      exact sound.fits _ _ station
  · intro request' errand' same
    cases sent <;> cases same

end TaskSteps

/-- Every task is sound. -/
def AllSound (settings : Settings) (board : Switchboard) : Prop :=
  ∀ task control, board.tasks.get? task = some control →
    Sound settings board.live control

theorem AllSound.put {task : TaskId} {control : ControlTask}
    (all : AllSound settings board)
    (coherent : board.live.Coherent) (grows : Grows board.live next.live)
    (put : next.tasks = board.tasks.put task control)
    (sound : Sound settings next.live control) :
    AllSound settings next := by
  intro other found stored
  rw [put, FiniteMap.get?_put] at stored
  split at stored
  next =>
    cases stored
    exact sound
  next => exact (all other found stored).kept coherent grows

theorem AllSound.step (all : AllSound settings board)
    (coherent : board.live.Coherent)
    (takes : Takes settings json board action next) :
    AllSound settings next := by
  have grows := takes.grows
  cases takes with
  | hub outside moved =>
      intro task control found
      exact (all task control found).kept coherent grows
  | accept free =>
      refine all.put coherent grows rfl ?_
      refine ⟨rfl, ?_, ?_, ?_, ?_, ?_⟩
      · intro _ item member
        cases member
      · intro item member
        cases member
      · intro item member
        cases member
      · intro item member
        cases member
      · intro request errand station
        cases station
  | skip found station unread => exact all
  | line found station read opened =>
      refine all.put coherent grows rfl ?_
      refine ((all _ _ found).kept coherent grows).opened station ?_
      refine opened.fits ?_
      intro earlier impossible
      cases impossible
  | hangUp found station =>
      exact all.put coherent grows rfl ((all _ _ found).hungUp station)
  | proceed found station went =>
      refine all.put coherent grows rfl ?_
      refine ((all _ _ found).kept coherent grows).went station ?_
      refine went.fits ?_
      intro earlier same
      cases same
      exact (all _ _ found).fits _ _ station
  | settle found station foundReq returned replied =>
      refine all.put coherent grows rfl ?_
      refine ((all _ _ found).kept coherent grows).went station ?_
      refine ⟨kind_of_outcomeReply replied, ?_, by simp⟩
      intro id same
      cases same
      exact ⟨_, _, foundReq, returned, replied⟩
  | write found station serialized =>
      exact
        all.put coherent grows rfl
          ((all _ _ found).wrote station serialized)

theorem allSound_of_reachable {config : RosterConfig}
    (reachable : (machine settings json config).Reachable board) :
    AllSound settings board := by
  refine reachable.induction (AllSound settings) ?_ ?_
  · intro task control found
    cases found
  · intro board action next reachable all stepped
    exact
      all.step (Live.coherent_of_reachable (live_reachable reachable))
        (takes_of_step stepped)

/-! ## What the commands read -/

/-- The replies whose lines were written. -/
def sentReplies (control : ControlTask) : List Served :=
  control.served.filter Served.sent

/-- What a control connection has written in whole lines. -/
def output (control : ControlTask) : List Char :=
  (sentReplies control).flatMap fun item =>
    ((Control.replyLine item.reply).getD "").toList ++ ['\n']

/-- Lines of replies are read back by commands that wait for their kinds. -/
theorem receivedAll_lines (readsBack : json.ReadsBack)
    {items : List Served}
    (kinds : ∀ item ∈ items, item.reply.kind = item.request.kind)
    (lines :
      ∀ item ∈ items, (Control.replyLine item.reply).isSome = true)
    (sendable :
      ∀ item ∈ items, Control.Sendable json.limit item.reply) :
    Control.receivedAll json (items.map fun item => item.request.kind)
        (items.flatMap fun item =>
          ((Control.replyLine item.reply).getD "").toList ++ ['\n']) =
      some (items.map Served.reply, []) := by
  induction items with
  | nil => rfl
  | cons item rest inductionHypothesis =>
      simp only [List.forall_mem_cons] at kinds lines sendable
      obtain ⟨line, written⟩ := Option.isSome_iff_exists.mp lines.1
      have behind :=
        inductionHypothesis kinds.2 lines.2 sendable.2
      have first :=
        Control.received_reply readsBack sendable.1 written
          (rest.flatMap fun item =>
            ((Control.replyLine item.reply).getD "").toList ++ ['\n'])
      rw [kinds.1] at first
      simp only [List.map_cons, List.flatMap_cons, Control.receivedAll,
        written, Option.getD_some, List.append_assoc, List.cons_append,
        List.nil_append, first, Option.bind_eq_bind, Option.bind_some,
        behind]

theorem mem_sentReplies {control : ControlTask} {item : Served} :
    item ∈ sentReplies control ↔
      item ∈ control.served ∧ item.sent = true :=
  List.mem_filter

/-- The written lines answer the first requests, one line each. -/
theorem Sound.sent_prefix {live : Live} {control : ControlTask}
    (sound : Sound settings live control) :
    (sentReplies control).map Served.request <+: control.asked := by
  have whole :
      control.served.map Served.request <+: control.asked := by
    rw [sound.inOrder, ControlTask.errands, List.map_append, List.map_map]
    exact List.prefix_append _ _
  refine List.IsPrefix.trans (List.IsPrefix.map _ ?_) whole
  rcases List.eq_nil_or_concat control.served with
    empty | ⟨earlier, last, split⟩
  · unfold sentReplies
    rw [empty]
    exact List.prefix_refl _
  · have sent : ∀ item ∈ earlier, item.sent = true := by
      have before := sound.earlier
      rw [split, List.concat_eq_append, List.dropLast_concat] at before
      exact before
    unfold sentReplies
    rw [split, List.concat_eq_append, List.filter_append,
      List.filter_eq_self.mpr sent]
    refine (List.prefix_append_right_inj _).mpr ?_
    cases sent : last.sent <;> simp [sent]

theorem Sound.read_back {live : Live} {control : ControlTask}
    (sound : Sound settings live control) (readsBack : json.ReadsBack)
    (sendable :
      ∀ item ∈ sentReplies control,
        Control.Sendable json.limit item.reply) :
    Control.receivedAll json
        ((sentReplies control).map fun item => item.request.kind)
        (output control) =
      some ((sentReplies control).map Served.reply, []) := by
  refine receivedAll_lines readsBack ?_ ?_ sendable
  · intro item member
    exact (sound.justified item (mem_sentReplies.mp member).1).kind
  · intro item member
    obtain ⟨served, sent⟩ := mem_sentReplies.mp member
    exact sound.lines item served sent

section Directed

variable (settings json) (config : RosterConfig) (actions : List Action)
  (task : TaskId) (index : Nat)

/-- A step of the run that takes the request up or leaves it in service. -/
def During
    (request : Control.Request) (sofar : List Action)
    (moment after : Switchboard) : Prop :=
  (machine settings json config).Passes actions sofar moment after ∧
    after.Serves task index request

/-- While the request was taken up or in service, it led to the token. -/
def LedTo (request : Control.Request) (tokenId : String) : Prop :=
  ∃ sofar moment after,
    During settings json config actions task index request sofar moment
      after ∧
    moment.LeadsTo tokenId request

/-- The calls of the run were made for the tokens their requests led to. -/
structure Directed (board : Switchboard) : Prop where
  resolved :
    ∀ task index request tokenId,
      board.HasResolved task index request tokenId →
      LedTo settings json config actions task index request tokenId
  called :
    ∀ task index request tx req,
      board.Holds task index request tx →
      board.live.reqs.get? tx = some req →
      LedTo settings json config actions task index request req.tokenId

end Directed

section Runs

variable {config : RosterConfig} {actions : List Action} {task : TaskId}
  {index : Nat} {request : Control.Request}

theorem During.extend {sofar : List Action} {moment after : Switchboard}
    (during :
      During settings json config actions task index request sofar moment
        after) (more : List Action) :
    During settings json config (actions ++ more) task index request sofar
      moment after :=
  ⟨during.1.extend more, during.2⟩

theorem LedTo.extend {tokenId : String}
    (led : LedTo settings json config actions task index request tokenId)
    (more : List Action) :
    LedTo settings json config (actions ++ more) task index request
      tokenId := by
  obtain ⟨sofar, moment, after, during, leads⟩ := led
  exact ⟨sofar, moment, after, during.extend more, leads⟩

theorem Directed.takes
    (directed : Directed settings json config actions board)
    (accounts : Accounts settings board) (coherent : board.live.Coherent)
    (takes : Takes settings json board action next)
    (passes :
      (machine settings json config).Passes (actions ++ [action]) actions
        board next) :
    Directed settings json config (actions ++ [action]) next where
  resolved := by
    intro task index request tokenId resolved
    rcases takes.resolved resolved with before | ⟨serves, leads⟩
    · exact
        (directed.resolved task index request tokenId before).extend
          [action]
    · exact ⟨actions, board, next, ⟨passes, serves⟩, leads⟩
  called := by
    intro task index request tx req holds found
    rcases takes.books.origin accounts coherent holds found with
      ⟨old, before, foundOld, sameToken⟩ | ⟨serves, leads | before⟩
    · rw [← sameToken]
      exact
        (directed.called task index request tx old before
          foundOld).extend [action]
    · exact ⟨actions, board, next, ⟨passes, serves⟩, leads⟩
    · exact
        (directed.resolved task index request req.tokenId before).extend
          [action]

theorem directed_of_run
    (ran :
      (machine settings json config).run
        (machine settings json config).init actions = some board) :
    Directed settings json config actions board := by
  refine
    (machine settings json config).run_induction
      (motive := fun actions board =>
        Directed settings json config actions board) ?_ ?_ ran
  · refine ⟨?_, ?_⟩
    · rintro task index request tokenId ⟨control, noTask, _⟩
      cases noTask
    · intro task index request tx req holds
      cases holds
  · intro actions board action next ran directed stepped
    have reachable : (machine settings json config).Reachable board :=
      ⟨actions, ran⟩
    exact
      directed.takes (accounts_of_reachable reachable)
        (Live.coherent_of_reachable (live_reachable reachable))
        (takes_of_step stepped) (Machine.passes_last ran stepped)

/-- Whatever the connections, the calls and the other control connections do, the
requests of a control connection are served in the order they were read: the lines
it has written answer the first of them, one each, and the commands at the other
end read the replies, as long as these can be sent.  Each reply is made of what the
call of this very request returned, and each call of the registry belongs to exactly
one request and was made for the token this request led to. -/
theorem requests_get_their_own_replies
    (readsBack : json.ReadsBack)
    (ran :
      (machine settings json config).run
        (machine settings json config).init actions = some board) :
    (∀ task control, board.tasks.get? task = some control →
      control.asked = control.errands.map Prod.fst ∧
      (sentReplies control).map Served.request <+: control.asked ∧
      (∀ item ∈ control.served,
        Justified settings board.live item.request item.tx item.reply) ∧
      ((∀ item ∈ sentReplies control,
          Control.Sendable json.limit item.reply) →
        Control.receivedAll json
            ((sentReplies control).map fun item => item.request.kind)
            (output control) =
          some ((sentReplies control).map Served.reply, []))) ∧
    (∀ task index request tx, board.Holds task index request tx →
      ∃ req, board.live.reqs.get? tx = some req ∧
        call? settings request = some req.call ∧
        LedTo settings json config actions task index request
          req.tokenId) ∧
    ∀ tx, (board.live.reqs.get? tx).isSome = true →
      ∃ task index request, board.Holds task index request tx ∧
        ∀ task' index' request', board.Holds task' index' request' tx →
          task' = task ∧ index' = index := by
  have reachable : (machine settings json config).Reachable board :=
    ⟨actions, ran⟩
  have all := allSound_of_reachable reachable
  have accounts := accounts_of_reachable reachable
  refine ⟨?_, ?_, ?_⟩
  · intro task control found
    have sound := all task control found
    exact
      ⟨sound.inOrder, sound.sent_prefix, sound.justified,
        sound.read_back readsBack⟩
  · intro task index request tx holds
    obtain ⟨req, foundReq, asks⟩ :=
      accounts.called task index request tx holds
    exact
      ⟨req, foundReq, asks,
        (directed_of_run ran).called task index request tx req holds
          foundReq⟩
  · intro tx known
    obtain ⟨task, index, request, holds⟩ := accounts.owned tx known
    refine ⟨task, index, request, holds, ?_⟩
    intro task' index' request' other
    exact accounts.apart tx task' index' request' task index request other holds

end Runs

/-- A line with a request, read and taken up. -/
theorem step_line
    {task : TaskId} {text id : String} {target : Option String} {tx : ReqId}
    {control : ControlTask} {request : Control.Request} {hub : Hub}
    {errand : Errand}
    (found : board.tasks.get? task = some control)
    (station : control.station = .reading)
    (read : readLine json text = some request)
    (taken :
      board.takeUp settings request target tx id = some (hub, errand)) :
    board.step settings json (.line task text target tx id) =
      some
        { board.setTask task
            { control with
              station := .serving request errand
              asked := control.asked ++ [request] } with
          hub } := by
  simp only [step, found, Option.bind_some, controlStep, station, read,
    taken, Option.map_some]

theorem readLine_requestLine (readsBack : json.ReadsBack)
    (request : Control.Request) :
    readLine json (Control.requestLine request) = some request := by
  obtain ⟨_, visible, read⟩ := Control.request_reads_back readsBack request
  unfold readLine
  rw [visible, read]
  rfl

theorem reachable_step {config : RosterConfig} (action : Action)
    (reachable : (machine settings json config).Reachable board)
    (stepped : board.step settings json action = some next) :
    (machine settings json config).Reachable next :=
  reachable.step stepped

/-- A ping of a token nobody is connected with, from a control connection, answered
while another one waits for the next line. -/
theorem requests_get_their_own_replies_ping :
    ∃ board control,
      (machine Wire.Sample.settings Control.compactLineJson .default).Reachable
          board ∧
        board.tasks.get? 0 = some control ∧
        Control.receivedAll Control.compactLineJson [.ping]
            (output control) =
          some ([.ping (pingReply .disconnected)], []) := by
  have asked :=
    readLine_requestLine Control.readsBack_compactLineJson (.ping "t")
  have start :=
    Machine.reachable_init
      (machine Wire.Sample.settings Control.compactLineJson .default)
  have first := reachable_step (.accept 0) start rfl
  have both := reachable_step (.accept 1) first rfl
  have taken :=
    reachable_step _ both
      (@step_line Wire.Sample.settings Control.compactLineJson _ 0 _ "p" none
        5 _ _ _ _ rfl rfl asked rfl)
  have gone := reachable_step (.hub (.serve (.wire (.lookup 5)))) taken rfl
  have settled := reachable_step (.settle 0) gone rfl
  have written := reachable_step (.write 0 true) settled rfl
  obtain ⟨actions, ran⟩ := written
  refine ⟨_, _, ⟨actions, ran⟩, rfl, ?_⟩
  exact
    ((requests_get_their_own_replies Control.readsBack_compactLineJson
      ran).1 0 _ rfl).2.2.2 (by
        intro item member
        cases List.mem_singleton.mp member
        trivial)

end HollerServer.Server.Switchboard
