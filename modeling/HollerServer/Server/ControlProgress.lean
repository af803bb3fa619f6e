import HollerServer.Server.OwnReplies
import HollerServer.Lib.Permits
import HollerServer.Wire.Progress

/-!
# Every request is answered

A control connection that serves a request is never stuck: it can take a step of its
own, or the call it waits for can.  And these steps are few, so that the reply is
written after at most nine of them; a `say` takes one more for each message that was
sent to its call.
-/

namespace HollerServer.Server

open HollerServer.Proto
open HollerServer.Wire
open Transition

/-- A token was removed from the registry and its rows are not marked yet. -/
def Errand.unlists (tokenId : String) : Errand → Bool
  | .removed other _ => other = tokenId
  | _ => false

def Station.unlists (tokenId : String) : Station → Bool
  | .serving _ errand => errand.unlists tokenId
  | .reading | .returned => false

/-- How many steps are left for a request, besides those of its call. -/
def Errand.rank : Errand → Nat
  | .confirmed _ => 3
  | .counted _ _ => 2
  | .resolved _ => 9
  | .calling _ _ => 2
  | .removed _ _ => 2
  | .writing _ _ => 1

/-- How many steps are left for the request in service, with those of its call. -/
def Station.left (live : Live) : Station → Nat
  | .serving _ (.calling tx _) => 2 + live.rank tx
  | .serving _ errand => errand.rank
  | .reading | .returned => 0

namespace Switchboard

variable {settings : Settings} {json : Control.LineJson}
  {board next : Switchboard} {action : Action}

/-! ## Half-done revokes -/

theorem revoking_of_outside {inner : Hub.Action} {hub : Hub}
    (outside : ofControl inner = false)
    (moved : board.stepHub settings inner = some hub) :
    hub.revoking = board.hub.revoking := by
  cases inner with
  | serve action =>
      obtain ⟨_, system, _, rfl⟩ := Hub.step_serve moved
      unfold Hub.follow
      split
      next => rfl
      next => rfl
      next => cases outside
      next => rfl
  | chore id =>
      obtain ⟨conn, chore, rest, _, _, rfl⟩ := Hub.step_chore moved
      rfl
  | answerRevoke tokenId => cases outside
  | prune =>
      rw [Hub.step_prune moved]

theorem revoking_of_call {tokenId id : String} {tx : ReqId} {call : Call}
    {hub : Hub}
    (moved :
      board.stepHub settings (.serve (.wire (.call tx tokenId id call))) =
        some hub) :
    hub.revoking = board.hub.revoking := by
  obtain ⟨_, system, _, rfl⟩ := Hub.step_serve moved
  rfl

theorem revoking_of_revoke {tokenId : String} {hub : Hub}
    (moved :
      board.stepHub settings (.serve (.wire (.revoke tokenId))) =
        some hub) :
    hub.revoking = tokenId :: board.hub.revoking := by
  obtain ⟨_, system, _, rfl⟩ := Hub.step_serve moved
  rfl

theorem revoking_of_answerRevoke {tokenId : String} {hub : Hub}
    (moved :
      board.stepHub settings (.answerRevoke tokenId) = some hub) :
    hub.revoking = board.hub.revoking.erase tokenId := by
  obtain ⟨_, rfl⟩ := Hub.step_answerRevoke moved
  rfl

/-- A token is as often half revoked as there are tasks that have still to mark its
rows. -/
def Halved (board : Switchboard) : Prop :=
  ∀ tokenId,
    board.hub.revoking.count tokenId =
      board.tasks.countWhere fun control => control.station.unlists tokenId

/-- A section takes up or gives up at most one half-done revoke. -/
theorem Section.count_revoking
    {request : Control.Request} {before : Option Errand} {hub : Hub}
    {after : Errand}
    (went : Section settings board request before hub after)
    (tokenId : String) :
    hub.revoking.count tokenId +
        (if before.any (Errand.unlists tokenId) then 1 else 0) =
      board.hub.revoking.count tokenId +
        (if after.unlists tokenId then 1 else 0) := by
  cases went with
  | replied | polled | resolved | counted | dispatched => rfl
  | called asks led moved =>
      rw [revoking_of_call moved]
      rfl
  | relayed asks moved =>
      rw [revoking_of_call moved]
      rfl
  | removed asked moved =>
      rw [revoking_of_revoke moved, List.count_cons]
      simp [Errand.unlists]
  | @unlisted other closed _ moved =>
      have half := (Hub.step_answerRevoke moved).1
      rw [revoking_of_answerRevoke moved]
      by_cases same : other = tokenId
      · subst same
        have positive := List.count_pos_iff.mpr half
        rw [List.count_erase_self]
        simp only [Option.any_some, Errand.unlists, decide_true, if_true,
          Bool.false_eq_true, if_false]
        omega
      · rw [List.count_erase_of_ne (Ne.symm same)]
        simp [Errand.unlists, same]

/-- The tasks with a half-done revoke once a task has moved on. -/
theorem countWhere_moved {task : TaskId} {control moved : ControlTask}
    (found : board.tasks.get? task = some control)
    (put : next.tasks = board.tasks.put task moved) (tokenId : String) :
    (next.tasks.countWhere fun control =>
          control.station.unlists tokenId) +
        (if control.station.unlists tokenId then 1 else 0) =
      (board.tasks.countWhere fun control =>
          control.station.unlists tokenId) +
        (if moved.station.unlists tokenId then 1 else 0) := by
  have counted :=
    board.tasks.countWhere_put task moved
      (fun control => control.station.unlists tokenId)
  rw [found, ← put] at counted
  exact counted

theorem Halved.of_quiet {task : TaskId} {control moved : ControlTask}
    (halved : board.Halved)
    (same : next.hub.revoking = board.hub.revoking)
    (found : board.tasks.get? task = some control)
    (put : next.tasks = board.tasks.put task moved)
    (idle : ∀ tokenId, control.station.unlists tokenId = false)
    (quiet : ∀ tokenId, moved.station.unlists tokenId = false) :
    next.Halved := by
  intro tokenId
  have counted := countWhere_moved found put tokenId
  rw [idle, quiet] at counted
  rw [same, halved tokenId]
  simpa using counted.symm

theorem Halved.of_section {request : Control.Request}
    {before : Option Errand} {after : Errand} {task : TaskId}
    {control moved : ControlTask}
    (halved : board.Halved)
    (went : Section settings board request before next.hub after)
    (found : board.tasks.get? task = some control)
    (put : next.tasks = board.tasks.put task moved)
    (stood :
      ∀ tokenId,
        control.station.unlists tokenId =
          before.any (Errand.unlists tokenId))
    (stands : moved.station = .serving request after) :
    next.Halved := by
  intro tokenId
  have counted := countWhere_moved found put tokenId
  have revoked := went.count_revoking tokenId
  have known := halved tokenId
  have stood' :
      moved.station.unlists tokenId = after.unlists tokenId := by
    rw [stands]
    rfl
  rw [stood, stood'] at counted
  omega

theorem Halved.step (halved : board.Halved)
    (takes : Takes settings json board action next) : next.Halved := by
  cases takes with
  | hub outside moved =>
      intro tokenId
      simp only [revoking_of_outside outside moved]
      exact halved tokenId
  | @accept task free =>
      intro tokenId
      have counted :=
        board.tasks.countWhere_put task {}
          (fun control => control.station.unlists tokenId)
      rw [free] at counted
      exact (halved tokenId).trans counted.symm
  | skip found station unread => exact halved
  | line found station read opened =>
      refine halved.of_section opened found rfl ?_ rfl
      intro tokenId
      rw [station]
      rfl
  | hangUp found station =>
      refine halved.of_quiet rfl found rfl ?_ (fun _ => rfl)
      intro tokenId
      rw [station]
      rfl
  | proceed found station went =>
      refine halved.of_section went found rfl ?_ rfl
      intro tokenId
      rw [station]
      rfl
  | settle found station foundReq returned replied =>
      refine halved.of_quiet rfl found rfl ?_ (fun _ => rfl)
      intro tokenId
      rw [station]
      rfl
  | @write task written control request tx reply sent found station
      serialized =>
      refine halved.of_quiet rfl found rfl ?_ ?_
      · intro tokenId
        rw [station]
        rfl
      · intro tokenId
        cases sent <;> rfl

theorem halved_of_reachable {config : RosterConfig}
    (reachable : (machine settings json config).Reachable board) :
    board.Halved := by
  refine reachable.invariant Halved ?_ ?_
  · intro tokenId
    rfl
  · intro board action next halved stepped
    exact halved.step (takes_of_step stepped)

/-! ## A request can go on -/

/-- The action is a step of the task for its request, or of the call it waits
for. -/
def serves (board : Switchboard) (task : TaskId) : Action → Bool
  | .proceed other _ _ | .settle other | .write other _ => other = task
  | .hub (.serve (.wire wireAction)) =>
      match (board.tasks.get? task).map ControlTask.station with
      | some (.serving _ (.calling tx _)) => wireAction.caller? = some tx
      | _ => false
  | _ => false

theorem isSome_stepHub_of_wire {wireAction : Wire.Action}
    (idle : actor? wireAction = none)
    (started : startsConnection wireAction = false)
    (enabled : (board.live.step wireAction).isSome = true) :
    (board.stepHub settings (.serve (.wire wireAction))).isSome = true := by
  obtain ⟨after, stepped⟩ := Option.isSome_iff_exists.mp enabled
  have stepped' : board.hub.system.live.step wireAction = some after :=
    stepped
  simp [stepHub, Hub.step, Hub.ready, idle, Server.step, started, stepped']

/-- A call that can be made. -/
theorem exists_place {request : Control.Request}
    (asks : (call? settings request).isSome = true) (tokenId : String)
    (host : Option String) :
    ∃ tx, (board.place settings request tokenId host tx "").isSome = true := by
  obtain ⟨call, same⟩ := Option.isSome_iff_exists.mp asks
  obtain ⟨tx, free⟩ := FiniteMap.exists_get?_eq_none board.live.reqs
  refine ⟨tx, ?_⟩
  have enabled :
      (board.live.step (.call tx tokenId "" call)).isSome = true := by
    simp only [Live.step, free]
    rfl
  unfold place
  rw [same, Option.bind_some, Option.isSome_map]
  exact isSome_stepHub_of_wire rfl rfl enabled

/-- A call's own action is one the server takes between the control connections. -/
theorem isSome_step_of_caller {wireAction : Wire.Action} {tx : ReqId}
    {req : Request}
    (found : board.live.reqs.get? tx = some req)
    (own : wireAction.caller? = some tx)
    (enabled : (board.live.step wireAction).isSome = true) :
    (board.step settings json (.hub (.serve (.wire wireAction)))).isSome =
      true := by
  have outside : ofControl (.serve (.wire wireAction)) = false := by
    cases wireAction <;> cases own <;> try rfl
    -- the call is there already, so it cannot be made once more
    simp only [Live.step, found] at enabled
    cases enabled
  have idle : actor? wireAction = none := by
    cases wireAction <;> cases own <;> rfl
  have quiet : startsConnection wireAction = false := by
    cases wireAction <;> cases own <;> rfl
  simp only [step, outside, Bool.false_eq_true, if_false, Option.isSome_map]
  exact isSome_stepHub_of_wire idle quiet enabled

theorem isSome_outcomeReply {request : Control.Request} {call : Call}
    {outcome : Outcome} (asks : call? settings request = some call)
    (kind : outcome.kind = call.kind) :
    (outcomeReply settings request outcome).isSome = true := by
  unfold call? at asks
  split at asks <;> cases asks <;> cases outcome <;> cases kind <;> rfl

/-- The call a task waits for was made for its request. -/
theorem call_of_calling {config : RosterConfig}
    (reachable : (machine settings json config).Reachable board)
    {task : TaskId} {control : ControlTask} {request : Control.Request}
    {errand : Errand} {tx : ReqId}
    (found : board.tasks.get? task = some control)
    (station : control.station = .serving request errand)
    (calls : errand.tx? = some tx) :
    board.Holds task control.served.length request tx ∧
      ∃ req, board.live.reqs.get? tx = some req ∧
        call? settings request = some req.call := by
  have holds : board.Holds task control.served.length request tx := by
    unfold Holds
    rw [errandsOf_of_found found, ControlTask.errands, station,
      Station.errand?, calls]
    simp
  exact ⟨holds, (accounts_of_reachable reachable).called _ _ _ _ holds⟩

theorem calling_goes_on {config : RosterConfig}
    (reachable : (machine settings json config).Reachable board)
    {task : TaskId} {control : ControlTask} {request : Control.Request}
    {tx : ReqId} {host : Option String}
    (found : board.tasks.get? task = some control)
    (station : control.station = .serving request (.calling tx host)) :
    ∃ action, board.serves task action = true ∧
      (board.step settings json action).isSome = true := by
  obtain ⟨_, req, foundReq, asks⟩ :=
    call_of_calling reachable found station rfl
  have lives := live_reachable reachable
  have own {wireAction : Wire.Action}
      (caller : wireAction.caller? = some tx)
      (enabled : (board.live.step wireAction).isSome = true) :
      ∃ action, board.serves task action = true ∧
        (board.step settings json action).isSome = true := by
    refine ⟨.hub (.serve (.wire wireAction)), ?_, ?_⟩
    · simp [serves, found, station, caller]
    · exact isSome_step_of_caller foundReq caller enabled
  cases pc : req.pc with
  | returned outcome =>
      have kind :=
        Live.outcomeFits_of_reachable lives tx req foundReq outcome
          (by rw [pc]; rfl)
      refine ⟨.settle task, by simp [serves], ?_⟩
      simp only [step, found, Option.bind_some, controlStep, station,
        foundReq, Option.map_some, pc, Option.isSome_map]
      exact isSome_outcomeReply asks kind
  | _ =>
      have running : req.pc.isReturned = false := by
        rw [pc]
        rfl
      rcases Live.can_go_on lives foundReq running with
        ⟨wireAction, caller, _, enabled⟩ | ⟨_, _, enabled⟩
      · exact own caller enabled
      · exact own rfl enabled

/-- A task that serves a request can take a step for it, or the call it waits for
can. -/
theorem serving_goes_on {config : RosterConfig}
    (reachable : (machine settings json config).Reachable board)
    {task : TaskId} {control : ControlTask} {request : Control.Request}
    {errand : Errand}
    (found : board.tasks.get? task = some control)
    (station : control.station = .serving request errand) :
    ∃ action, board.serves task action = true ∧
      (board.step settings json action).isSome = true := by
  have fits :=
    (allSound_of_reachable reachable task control found).fits _ _ station
  have proceeds {tx : ReqId}
      (enabled : (board.goOn settings request errand tx "").isSome = true) :
      ∃ action, board.serves task action = true ∧
        (board.step settings json action).isSome = true := by
    refine ⟨.proceed task tx "", by simp [serves], ?_⟩
    simp only [step, found, Option.bind_some, controlStep, station,
      Option.isSome_map]
    exact enabled
  cases errand with
  | confirmed rows => exact @proceeds 0 rfl
  | counted rows clients =>
      obtain ⟨cmd, args, rfl⟩ := fits
      exact @proceeds 0 rfl
  | resolved tokenId =>
      obtain ⟨target, cmd, args, rfl⟩ := fits
      obtain ⟨tx, placed⟩ :=
        @exists_place settings board (.query (some target) cmd args) rfl
          tokenId (hostnameOf board.live.registry tokenId)
      exact proceeds placed
  | calling tx host => exact calling_goes_on reachable found station
  | removed tokenId closed =>
      have counted :
          0 < board.tasks.countWhere fun control =>
            control.station.unlists tokenId := by
        refine FiniteMap.countWhere_pos found ?_
        rw [station]
        exact decide_eq_true rfl
      rw [← halved_of_reachable reachable tokenId] at counted
      have half := List.count_pos_iff.mp counted
      refine @proceeds 0 ?_
      simp only [goOn, stepHub, Hub.step, half, if_true, Option.isSome_map]
      rfl
  | writing tx reply =>
      refine ⟨.write task true, by simp [serves], ?_⟩
      simp only [step, found, Option.bind_some, controlStep, station]
      rfl

/-! ## A request takes few steps -/

/-- How many steps are left for the request at a position; none once the task has
gone on to another one. -/
def left (task : TaskId) (index : Nat) (board : Switchboard) : Nat :=
  match board.tasks.get? task with
  | some control =>
      if control.errands.length = index + 1 then
        control.station.left board.live
      else 0
  | none => 0

/-- The reply pieces the call of the request has read. -/
def credit (task : TaskId) (index : Nat) (board : Switchboard) : Nat :=
  match (board.errandsOf task)[index]? with
  | some (_, some tx) => board.live.credit tx
  | _ => 0

/-- The reply pieces that were sent to the call of a `say`. -/
def pieces (board : Switchboard) (task : TaskId) (index : Nat) : Nat :=
  match (board.errandsOf task)[index]? with
  | some (.say _ _, some tx) =>
      ((board.live.reqs.get? tx).map Request.pieces).getD 0
  | _ => 0

/-- The action is a step for the request at a position of a task. -/
def servesAt
    (task : TaskId) (index : Nat) (board : Switchboard) (action : Action) :
    Bool :=
  (board.errandsOf task).length = index + 1 && board.serves task action

section Bound

variable {config : RosterConfig} {task : TaskId} {index : Nat}
  {control : ControlTask} {request : Control.Request}

theorem left_of_found (found : board.tasks.get? task = some control)
    (current : (board.errandsOf task).length = index + 1) :
    board.left task index = control.station.left board.live := by
  rw [errandsOf_of_found found] at current
  unfold left
  rw [found]
  exact if_pos current

theorem left_of_past (past : (board.errandsOf task).length ≠ index + 1) :
    board.left task index = 0 := by
  unfold left
  split
  next control found =>
    rw [errandsOf_of_found found] at past
    exact if_neg past
  next => rfl

theorem credit_of_holds {tx : ReqId}
    (holds : board.Holds task index request tx) :
    board.credit task index = board.live.credit tx := by
  unfold credit
  rw [holds]

theorem credit_le_of_grows {live after : Live} (coherent : live.Coherent)
    (grows : Grows live after) (tx : ReqId) :
    live.credit tx ≤ after.credit tx := by
  rcases grows with rfl | ⟨action, stepped⟩
  · exact Nat.le_refl _
  · exact Live.credit_step coherent stepped tx

theorem credit_kept (coherent : board.live.Coherent)
    (takes : Takes settings json board action next) :
    board.credit task index ≤ next.credit task index := by
  cases held : (board.errandsOf task)[index]? with
  | none =>
      unfold credit
      rw [held]
      exact Nat.zero_le _
  | some item =>
      obtain ⟨request, call⟩ := item
      cases call with
      | none =>
          unfold credit
          rw [held]
          exact Nat.zero_le _
      | some tx =>
          rw [credit_of_holds held, credit_of_holds (takes.books.holds held)]
          exact credit_le_of_grows coherent takes.grows tx

/-- What a step has to pay for the request at a position. -/
def Paid
    (task : TaskId) (index : Nat) (board next : Switchboard)
    (action : Action) : Prop :=
  next.left task index + board.credit task index +
      (if servesAt task index board action then 1 else 0) ≤
    board.left task index + next.credit task index

/-- Once the task has gone on to another request, nothing is paid any more. -/
theorem paid_of_past (coherent : board.live.Coherent)
    (takes : Takes settings json board action next)
    (past : index + 1 < (next.errandsOf task).length)
    (unserved : servesAt task index board action = false) :
    Paid task index board next action := by
  unfold Paid
  rw [left_of_past (Nat.ne_of_gt past), unserved]
  have grown := @credit_kept _ _ _ _ _ task index coherent takes
  simp only [Bool.false_eq_true, if_false]
  omega

/-- A step that leaves less to do. -/
theorem paid_of_less {moved : ControlTask} (coherent : board.live.Coherent)
    (takes : Takes settings json board action next)
    (found : board.tasks.get? task = some control)
    (found' : next.tasks.get? task = some moved)
    (current : (board.errandsOf task).length = index + 1)
    (less :
      moved.station.left next.live < control.station.left board.live) :
    Paid task index board next action := by
  have grown := @credit_kept _ _ _ _ _ task index coherent takes
  have before := left_of_found found current
  have after : next.left task index ≤ moved.station.left next.live := by
    unfold left
    rw [found']
    dsimp only
    split
    · exact Nat.le_refl _
    · exact Nat.zero_le _
  have once :
      (if servesAt task index board action then 1 else 0) ≤ 1 := by
    split <;> omega
  unfold Paid
  omega

/-- A step of somebody else, or of the call the task waits for. -/
theorem paid_of_same
    (reachable : (machine settings json config).Reachable board)
    (takes : Takes settings json board action next)
    (found : board.tasks.get? task = some control)
    (found' : next.tasks.get? task = some control)
    (current : (board.errandsOf task).length = index + 1)
    (foreign :
      board.serves task action = true →
        ∃ wireAction, action = .hub (.serve (.wire wireAction))) :
    Paid task index board next action := by
  have coherent :=
    Live.coherent_of_reachable (live_reachable reachable)
  have current' : (next.errandsOf task).length = index + 1 := by
    rw [errandsOf_of_found found', ← errandsOf_of_found found]
    exact current
  have grown := @credit_kept _ _ _ _ _ task index coherent takes
  unfold Paid
  rw [left_of_found found current, left_of_found found' current']
  -- unless the task waits for a call, nobody takes a step for it
  have idle
      (unaware :
        ∀ request tx host,
          control.station ≠ .serving request (.calling tx host)) :
      servesAt task index board action = false := by
    rw [Bool.eq_false_iff]
    intro served
    obtain ⟨_, serves⟩ := Bool.and_eq_true_iff.mp served
    obtain ⟨wireAction, rfl⟩ := foreign serves
    simp only [Switchboard.serves, found, Option.map_some] at serves
    split at serves
    next waits =>
      exact unaware _ _ _ (Option.some.inj waits)
    next => cases serves
  have steady
      (unaware :
        ∀ request tx host,
          control.station ≠ .serving request (.calling tx host))
      (same :
        control.station.left next.live = control.station.left board.live) :
      control.station.left next.live + board.credit task index +
          (if servesAt task index board action then 1 else 0) ≤
        control.station.left board.live + next.credit task index := by
    rw [idle unaware, same]
    simp only [Bool.false_eq_true, if_false]
    omega
  cases station : control.station with
  | reading =>
      rw [station] at steady
      exact steady (by simp) rfl
  | returned =>
      rw [station] at steady
      exact steady (by simp) rfl
  | serving request errand =>
      rw [station] at steady
      cases errand with
      | calling tx host =>
          obtain ⟨holds, req, foundReq, _⟩ :=
            call_of_calling reachable found station rfl
          have length : control.served.length = index := by
            rw [errandsOf_of_found found, ControlTask.errands, station]
              at current
            simpa [Station.errand?] using current
          rw [length] at holds
          rw [credit_of_holds holds,
            credit_of_holds (takes.books.holds holds)]
          simp only [Station.left]
          by_cases served : servesAt task index board action = true
          · obtain ⟨_, serves⟩ := Bool.and_eq_true_iff.mp served
            obtain ⟨wireAction, rfl⟩ := foreign serves
            have caller : wireAction.caller? = some tx := by
              simpa [Switchboard.serves, found, station] using serves
            cases takes with
            | hub outside moved =>
                have paid :=
                  Live.pays_step coherent foundReq (live_of_wire moved)
                rw [if_pos caller] at paid
                rw [if_pos served]
                simp only [live] at paid ⊢
                omega
          · rw [if_neg served]
            rcases takes.grows with same | ⟨wireAction, stepped⟩
            · rw [same]
              exact Nat.le_refl _
            · have paid := Live.pays_step coherent foundReq stepped
              omega
      | confirmed | counted | resolved | removed | writing =>
          exact steady (by simp) rfl

/-- A step of the task that is none for a request. -/
theorem paid_of_idle {moved : ControlTask} (coherent : board.live.Coherent)
    (takes : Takes settings json board action next)
    (found' : next.tasks.get? task = some moved)
    (idle : moved.station.left next.live = 0)
    (unserved : board.serves task action = false) :
    Paid task index board next action := by
  have grown := @credit_kept _ _ _ _ _ task index coherent takes
  have after : next.left task index = 0 := by
    unfold left
    rw [found']
    dsimp only
    rw [idle, ite_self]
  unfold Paid servesAt
  rw [after, unserved, Bool.and_false]
  simp only [Bool.false_eq_true, if_false]
  omega

/-- A section takes a request nearer to its reply. -/
theorem Section.less {before after : Errand} {hub : Hub}
    (went : Section settings board request (some before) hub after) :
    (Station.serving request after).left hub.live <
      (Station.serving request before).left board.live := by
  cases went with
  | counted => exact Nat.lt_succ_self 2
  | dispatched => exact Nat.lt_succ_self 1
  | @relayed _ _ tx _ _ _ asks moved =>
      have few := Live.rank_le tx hub.live
      simp only [Station.left, Errand.rank]
      omega
  | unlisted moved => exact Nat.lt_succ_self 1

theorem paid_step
    (reachable : (machine settings json config).Reachable board)
    (begun : index < (board.errandsOf task).length)
    (stepped : board.step settings json action = some next) :
    Paid task index board next action := by
  have coherent :=
    Live.coherent_of_reachable (live_reachable reachable)
  have takes := takes_of_step stepped
  have grown := takes.books.length_le task
  by_cases current : (board.errandsOf task).length = index + 1
  case neg =>
    refine paid_of_past coherent takes (by omega) ?_
    simp [servesAt, current]
  case pos =>
    obtain ⟨control, found⟩ :
        ∃ control, board.tasks.get? task = some control := by
      cases found : board.tasks.get? task with
      | some control => exact ⟨control, rfl⟩
      | none =>
          simp [errandsOf, found] at begun
    have kept := takes
    -- a step of another task leaves this one as it is
    have elsewhere {other : TaskId} {moved : ControlTask}
        (put : next.tasks = board.tasks.put other moved)
        (apart : other ≠ task)
        (unserved : board.serves task action = false) :
        Paid task index board next action := by
      refine paid_of_same reachable kept found ?_ current ?_
      · rw [put, FiniteMap.get?_put_of_ne _ _ (Ne.symm apart)]
        exact found
      · intro served
        rw [unserved] at served
        cases served
    cases takes with
    | @hub inner hub outside moved =>
        refine paid_of_same reachable kept found found current ?_
        intro served
        cases inner with
        | serve inner =>
            cases inner with
            | wire wireAction => exact ⟨wireAction, rfl⟩
            | store op => cases served
            | auth conn now tokenId credential => cases served
        | chore id => cases served
        | answerRevoke tokenId => cases served
        | prune => cases served
    | @accept other free =>
        refine elsewhere rfl ?_ rfl
        rintro rfl
        cases free.symm.trans found
    | skip found station unread =>
        exact
          paid_of_same reachable kept ‹_› ‹_› current
            (fun served => by cases served)
    | @line other text id target tx control' request hub errand found'
        station read opened =>
        by_cases same : other = task
        · subst same
          cases found.symm.trans found'
          refine paid_of_past coherent kept ?_ (by simp [servesAt, serves])
          rw [errandsOf_of_found found, ControlTask.errands, station]
            at current
          rw [errandsOf_of_put rfl, if_pos rfl, ControlTask.errands]
          simp only [Station.errand?, Option.toList_none, List.append_nil,
            Option.toList_some, List.length_append,
            List.length_singleton] at current ⊢
          omega
        · exact elsewhere rfl same rfl
    | @hangUp other control' found' station =>
        by_cases same : other = task
        · subst same
          exact
            paid_of_idle coherent kept (FiniteMap.get?_put_self _ _ _) rfl
              rfl
        · exact elsewhere rfl same rfl
    | @proceed other id tx control' request before after hub found'
        station went =>
        by_cases same : other = task
        · subst same
          cases found.symm.trans found'
          refine
            paid_of_less coherent kept found
              (FiniteMap.get?_put_self _ _ _) current ?_
          rw [station]
          exact went.less
        · exact elsewhere rfl same (decide_eq_false same)
    | @settle other control' request tx host req outcome reply found'
        station foundReq returned replied =>
        by_cases same : other = task
        · subst same
          cases found.symm.trans found'
          refine
            paid_of_less coherent kept found
              (FiniteMap.get?_put_self _ _ _) current ?_
          rw [station]
          simp only [Station.left, Errand.rank]
          omega
        · exact elsewhere rfl same (decide_eq_false same)
    | @write other written control' request tx reply sent found' station
        serialized =>
        by_cases same : other = task
        · subst same
          cases found.symm.trans found'
          refine
            paid_of_less coherent kept found
              (FiniteMap.get?_put_self _ _ _) current ?_
          rw [station]
          cases sent <;> exact Nat.zero_lt_one
        · exact elsewhere rfl same (decide_eq_false same)

theorem credit_le_pieces
    (reachable : (machine settings json config).Reachable board) :
    board.credit task index ≤ board.pieces task index := by
  cases held : (board.errandsOf task)[index]? with
  | none =>
      unfold credit
      rw [held]
      exact Nat.zero_le _
  | some item =>
      obtain ⟨request, call⟩ := item
      cases call with
      | none =>
          unfold credit
          rw [held]
          exact Nat.zero_le _
      | some tx =>
          obtain ⟨req, found, asks⟩ :=
            (accounts_of_reachable reachable).called _ _ _ _ held
          have read := req.credit_le_pieces
          rw [credit_of_holds held, Live.credit_of_found found]
          unfold pieces
          rw [held]
          cases request with
          | say session text =>
              simp only [found, Option.map_some, Option.getD_some]
              exact read
          | query target cmd args =>
              cases target with
              | none => cases asks
              | some wanted =>
                  have call := Option.some.inj asks
                  unfold Request.pieces at read
                  rw [← call] at read
                  exact read
          | status | roster | revoke => cases asks
          | ping | interrupt | answer =>
              have call := Option.some.inj asks
              unfold Request.pieces at read
              rw [← call] at read
              exact read

theorem left_le : board.left task index ≤ 9 := by
  unfold left
  split
  next control found =>
    split
    · cases control.station with
      | reading => exact Nat.zero_le _
      | returned => exact Nat.zero_le _
      | serving request errand =>
          cases errand with
          | calling tx host =>
              have few := Live.rank_le tx board.live
              simp only [Station.left]
              omega
          | _ => simp [Station.left, Errand.rank]
    · exact Nat.zero_le _
  next => exact Nat.zero_le _

end Bound

end Switchboard

end HollerServer.Server
