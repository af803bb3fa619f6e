import HollerServer.Wire.Cancellation
import HollerServer.Wire.PendingSlots
import HollerServer.Wire.PromptStream

/-!
# The turn an interrupt is aimed at

The turn in flight is the earliest-sent prompt of a session that is still
outstanding.  An interrupt is aimed at the turn in flight when its frame is put
on the outbound channel, and its cancel section runs later and by session name.
`TurnAlone` says that the turn is then the only pending prompt of the session;
under it an interrupt cancels its turn and nothing else, and a prompt that is
not the turn of an interrupt can still be answered.
-/

namespace HollerServer.Wire

open HollerServer.Proto

/-- The outcomes of a prompt that was answered. -/
def PromptOutcome.answered : PromptOutcome → Bool
  | .done _ _ | .err _ => true
  | .disconnected | .cancelled => false

namespace Live

variable {live next : Live}

/-- The frame of the prompt was sent and the prompt is still pending. -/
def Outstanding
    (live : Live) (tokenId session : String) (tx : ReqId) : Prop :=
  live.registry.Pending tokenId session tx ∧ live.Accepted tx

/-- The earliest-sent prompt of the session that is outstanding after the
actions `done`. -/
def InFlight
    (done : List Action) (live : Live) (tokenId session : String)
    (tx : ReqId) : Prop :=
  live.Outstanding tokenId session tx ∧
    ∃ earlier ts later, done = earlier ++ .send tx ts :: later ∧
      ∀ tx' ts', .send tx' ts' ∈ earlier →
        ¬ live.Outstanding tokenId session tx'

/-- The turn of an interrupt: the one in flight when its frame is sent. -/
def Turn (actions : List Action) (caller tx : ReqId) : Prop :=
  ∃ done ts rest sent interrupt session,
    actions = done ++ .send caller ts :: rest ∧
    machine.run machine.init done = some sent ∧
    sent.reqs.get? caller = some interrupt ∧
    interrupt.call = .interrupt session ∧
    InFlight done sent interrupt.tokenId session tx

/-- When an interrupt comes to its cancel section, its turn is the only prompt of
the session that is pending. -/
def TurnAlone (actions : List Action) : Prop :=
  ∀ done caller rest before interrupt session tx,
    actions = done ++ .cancel caller :: rest →
    machine.run machine.init done = some before →
    before.reqs.get? caller = some interrupt →
    interrupt.call = .interrupt session →
    before.registry.Pending interrupt.tokenId session tx →
    Turn done caller tx

theorem InFlight.unique
    {done : List Action} {tokenId session : String} {tx tx' : ReqId}
    (first : InFlight done live tokenId session tx)
    (second : InFlight done live tokenId session tx') :
    tx = tx' := by
  obtain ⟨outstanding, earlier, ts, later, split, noneEarlier⟩ := first
  obtain ⟨outstanding', earlier', ts', later', split', noneEarlier'⟩ :=
    second
  have same := split.symm.trans split'
  rcases List.append_eq_append_iff.mp same with
    ⟨between, longer, remaining⟩ | ⟨between, longer, remaining⟩
  · cases between with
    | nil => exact (Action.send.inj (List.cons.inj remaining).1).1
    | cons action rest =>
        cases (List.cons.inj remaining).1
        refine absurd outstanding (noneEarlier' tx ts ?_)
        rw [longer]
        exact List.mem_append_right _ List.mem_cons_self
  · cases between with
    | nil => exact (Action.send.inj (List.cons.inj remaining).1).1.symm
    | cons action rest =>
        cases (List.cons.inj remaining).1
        refine absurd outstanding' (noneEarlier tx' ts' ?_)
        rw [longer]
        exact List.mem_append_right _ List.mem_cons_self

theorem Turn.extend
    {actions : List Action} {caller tx : ReqId}
    (turn : Turn actions caller tx) (more : List Action) :
    Turn (actions ++ more) caller tx := by
  obtain ⟨done, ts, rest, sent, interrupt, session, split, others⟩ := turn
  refine
    ⟨done, ts, rest ++ more, sent, interrupt, session, ?_, others⟩
  rw [split, List.append_assoc, List.cons_append]

theorem sent_of_onEvent
    {outTx : ConnId} {hostname : String} {pieces : List String}
    {kind : Kind} {event : Event} {pc : Pc}
    (handled : onEvent outTx hostname pieces kind event = some pc) :
    pc.sent = true := by
  cases kind <;> cases event <;> simp only [onEvent] at handled <;>
    (try split at handled) <;> cases handled <;> rfl

theorem Moves.sent
    {id : ReqId} {req moved : Request} {action : Action}
    (moves : Moves live id req action moved)
    (sent : req.pc.sent = true) :
    moved.pc.sent = true := by
  cases moves with
  | stay _ => exact sent
  | lookup pc _ =>
      rw [pc] at sent
      cases sent
  | enroll pc _ =>
      rw [pc] at sent
      cases sent
  | event _ _ handled => exact sent_of_onEvent handled
  | @ended outTx _ _ _ _ =>
      show (onEnded outTx req.call.kind).sent = true
      cases req.call.kind <;> rfl
  | @timeout outTx _ _ _ =>
      show (onTimeout outTx req.call.kind).sent = true
      cases req.call.kind <;> rfl
  | _ => rfl

/-- A call that is past its send stays past it. -/
theorem sent_run
    {actions : List Action} {target : Live}
    (coherent : live.Coherent)
    (reached : machine.run live actions = some target)
    {tx : ReqId} {req : Request}
    (found : live.reqs.get? tx = some req)
    (sent : req.pc.sent = true) :
    ∃ last, target.reqs.get? tx = some last ∧
      last.pc.sent = true := by
  have both :=
    machine.run_preserves
      (fun live action next (holds : live.Coherent ∧
          ∃ req, live.reqs.get? tx = some req ∧
            req.pc.sent = true) stepped => by
        obtain ⟨coherent, req, found, sent⟩ := holds
        refine ⟨coherent.step stepped, ?_⟩
        obtain ⟨req', found', _⟩ := follows_step coherent stepped found
        refine ⟨req', found', ?_⟩
        cases request_step coherent stepped found' with
        | created absent _ => cases absent.symm.trans found
        | moved foundOrigin _ moves delivered =>
            cases foundOrigin.symm.trans found
            subst delivered
            exact moves.sent sent)
      ⟨coherent, req, found, sent⟩ reached
  exact both.2

/-- After its send a call is past it. -/
theorem sent_of_send
    {tx : ReqId} {ts : String}
    (stepped : live.step (.send tx ts) = some next) :
    ∃ req, next.reqs.get? tx = some req ∧ req.pc.sent = true := by
  obtain ⟨req, outTx, hostname, conn, _, _, _,
    ⟨_, rfl⟩ | ⟨_, rfl⟩⟩ := step_send stepped
  · exact ⟨_, FiniteMap.get?_put_self _ _ _, rfl⟩
  · exact ⟨_, FiniteMap.get?_put_self _ _ _, rfl⟩

/-- A call sends once. -/
theorem not_send_again
    {caller : ReqId} {ts ts' : String} {between rest : List Action}
    (coherent : live.Coherent) :
    machine.run live
      (.send caller ts :: (between ++ .send caller ts' :: rest)) ≠
        some next := by
  intro reached
  obtain ⟨first, sends, remaining⟩ :=
    (machine.run_cons_eq_some).mp reached
  have stepped : live.step (.send caller ts) = some first := sends
  obtain ⟨req, found, sent⟩ := sent_of_send stepped
  have coherentFirst : first.Coherent := coherent.step stepped
  obtain ⟨second, reachedSecond, again⟩ :=
    (machine.run_append_eq_some).mp remaining
  obtain ⟨last, foundLast, sentLast⟩ :=
    sent_run coherentFirst reachedSecond found sent
  obtain ⟨third, sendsAgain, _⟩ := (machine.run_cons_eq_some).mp again
  obtain ⟨row, outTx, hostname, _, foundRow, pc, _⟩ :=
    step_send sendsAgain
  cases foundRow.symm.trans foundLast
  rw [pc] at sentLast
  cases sentLast

/-- An interrupt has one turn. -/
theorem Turn.unique
    {actions : List Action} {caller tx tx' : ReqId}
    (reached : machine.run machine.init actions = some live)
    (first : Turn actions caller tx) (second : Turn actions caller tx') :
    tx = tx' := by
  obtain ⟨done, ts, rest, sent, interrupt, session, split, reachedSent,
    found, call, inFlight⟩ := first
  obtain ⟨done', ts', rest', sent', interrupt', session', split',
    reachedSent', found', call', inFlight'⟩ := second
  have once :
      ∀ {done between rest : List Action} {ts ts' : String} {sent : Live},
        machine.run machine.init done = some sent →
        actions ≠
          done ++ .send caller ts :: (between ++ .send caller ts' :: rest) := by
    intro done between rest ts ts' sent reachedSent same
    rw [same, machine.run_append_of_eq_some reachedSent] at reached
    exact
      not_send_again (coherent_of_reachable ⟨done, reachedSent⟩) reached
  have sameDone : done = done' := by
    rcases List.append_eq_append_iff.mp (split.symm.trans split') with
      ⟨between, longer, remaining⟩ | ⟨between, longer, remaining⟩
    · cases between with
      | nil => rw [longer, List.append_nil]
      | cons action others =>
          cases (List.cons.inj remaining).1
          rw [(List.cons.inj remaining).2] at split
          exact absurd split (once reachedSent)
    · cases between with
      | nil => rw [longer, List.append_nil]
      | cons action others =>
          cases (List.cons.inj remaining).1
          rw [(List.cons.inj remaining).2] at split'
          exact absurd split' (once reachedSent')
  subst sameDone
  cases reachedSent.symm.trans reachedSent'
  cases found.symm.trans found'
  cases call.symm.trans call'
  exact inFlight.unique inFlight'

/-- Some continuation lets the prompt return an answer. -/
def CanComplete (live : Live) (tx : ReqId) : Prop :=
  ∃ more target last outcome, machine.run live more = some target ∧
    target.reqs.get? tx = some last ∧
    last.pc = .returned (.prompt outcome) ∧ outcome.answered = true

theorem CanComplete.after
    {action : Action} {tx : ReqId}
    (stepped : live.step action = some next)
    (complete : CanComplete next tx) :
    CanComplete live tx := by
  obtain ⟨more, target, last, outcome, reached, rest⟩ := complete
  exact
    ⟨action :: more, target, last, outcome,
      (machine.run_cons_eq_some).mpr ⟨next, stepped, reached⟩, rest⟩

theorem step_recv_of_ready
    {tx : ReqId} {req : Request} {outTx : ConnId} {hostname : String}
    {pieces : List String} {event : Event} {pc : Pc}
    (found : live.reqs.get? tx = some req)
    (waiting : req.pc = .waiting outTx hostname pieces)
    (ready : req.chan.poll = .ready event)
    (handled :
      onEvent outTx hostname pieces req.call.kind event = some pc) :
    live.step (.recv tx) =
      some (live.setReq tx { req with pc, chan := req.chan.take }) := by
  simp only [step, found, Option.bind_some, reqStep, waiting, ready,
    handled, Option.map_some]

/-- A prompt that has its answer returns it. -/
theorem canComplete_of_forgetting
    {tx : ReqId} {req : Request} {outTx : ConnId}
    {outcome : PromptOutcome}
    (found : live.reqs.get? tx = some req)
    (pc : req.pc = .forgetting outTx (some (.prompt outcome)))
    (answered : outcome.answered = true) :
    CanComplete live tx := by
  have enabled :
      ∃ next, live.step (.forget tx) = some next := by
    simp only [step, found, Option.bind_some, reqStep, pc]
    exact ⟨_, rfl⟩
  obtain ⟨next, stepped⟩ := enabled
  obtain ⟨req', _, _, found', pc', _, _, _, sameReqs⟩ :=
    step_forget stepped
  cases found'.symm.trans found
  cases pc'.symm.trans pc
  have returned :
      ∃ last, next.reqs.get? tx = some last ∧
        last.pc = .returned (.prompt outcome) := by
    rw [sameReqs, FiniteMap.get?_modify, if_pos rfl,
      get?_deliver_of_found found]
    exact ⟨_, rfl, rfl⟩
  obtain ⟨last, foundLast, pcLast⟩ := returned
  exact
    ⟨[.forget tx], next, last, outcome,
      (machine.run_cons_eq_some).mpr ⟨next, stepped, rfl⟩,
      foundLast, pcLast, answered⟩

/-- A waiting prompt with an answer among its unread messages, and no
cancellation, comes to an answer by reading. -/
theorem canComplete_of_unread
    {tx : ReqId} {req : Request} {outTx : ConnId} {hostname : String}
    {pieces : List String} {unread : List Event}
    (found : live.reqs.get? tx = some req)
    (isPrompt : req.call.kind = .prompt)
    (waiting : req.pc = .waiting outTx hostname pieces)
    (remaining : req.chan.sent.drop req.chan.taken = unread)
    (fits : ∀ event ∈ unread, event.kind = .prompt)
    (uncancelled : .cancelled ∉ unread)
    (final :
      ∃ event ∈ unread, (StreamItem.event event).terminal = true) :
    CanComplete live tx := by
  induction unread generalizing live req pieces with
  | nil =>
      obtain ⟨_, member, _⟩ := final
      cases member
  | cons event rest inductionHypothesis =>
      have ready : req.chan.poll = .ready event := by
        refine Channel.poll_eq_ready.mpr ?_
        rw [← List.head?_drop, remaining]
        rfl
      have later :
          req.chan.take.sent.drop req.chan.take.taken = rest := by
        rw [Channel.sent_take, Channel.taken_take, ← List.drop_drop,
          remaining]
        rfl
      have fitsEvent := fits event List.mem_cons_self
      cases event with
      | cancelled => exact absurd List.mem_cons_self uncancelled
      | promptErr body =>
          have handled :
              onEvent outTx hostname pieces req.call.kind
                  (.promptErr body) =
                some (.forgetting outTx (some (.prompt (.err body)))) := by
            rw [isPrompt]
            rfl
          refine
            .after (step_recv_of_ready found waiting ready handled) ?_
          exact
            canComplete_of_forgetting (FiniteMap.get?_put_self _ _ _)
              rfl rfl
      | reply body =>
          cases done : body.done with
          | true =>
              have handled :
                  onEvent outTx hostname pieces req.call.kind
                      (.reply body) =
                    some (.forgetting outTx (some (.prompt (.done
                      (String.join
                        (pieces ++ body.text.toList ++ body.chunks))
                      body.exit)))) := by
                rw [isPrompt]
                simp only [onEvent, done, if_true]
              refine
                .after (step_recv_of_ready found waiting ready handled) ?_
              exact
                canComplete_of_forgetting (FiniteMap.get?_put_self _ _ _)
                  rfl rfl
          | false =>
              have handled :
                  onEvent outTx hostname pieces req.call.kind
                      (.reply body) =
                    some (.waiting outTx hostname
                      (pieces ++ body.text.toList ++ body.chunks)) := by
                rw [isPrompt]
                simp only [onEvent, done, Bool.false_eq_true, if_false]
              refine
                .after (step_recv_of_ready found waiting ready handled) ?_
              refine
                inductionHypothesis (FiniteMap.get?_put_self _ _ _)
                  isPrompt rfl later ?_ ?_ ?_
              · intro event member
                exact fits event (List.mem_cons_of_mem _ member)
              · intro member
                exact uncancelled (List.mem_cons_of_mem _ member)
              · obtain ⟨event, member, terminal⟩ := final
                rcases List.mem_cons.mp member with rfl | inRest
                · cases done.symm.trans terminal
                · exact ⟨event, inRest, terminal⟩
      | _ => cases fitsEvent

theorem notifyPrompt_of_prompt?
    {registry : Registry} {tokenId id session : String} {tx : ReqId}
    (stored : registry.prompt? tokenId id = some (session, tx))
    (event : Event) :
    registry.notifyPrompt tokenId id event = [(tx, .send event)] := by
  obtain ⟨entry, present, slot⟩ := Option.bind_eq_some_iff.mp stored
  unfold Registry.notifyPrompt
  rw [present]
  simp only [slot]

/-- A reply that a connection of the token hands over is put on the channel of
the prompt it names. -/
theorem reply_delivered
    {tokenId id session : String} {tx : ReqId} {req : Request}
    {connId : ConnId} {conn : Conn} (body : ReplyBody)
    (found : live.reqs.get? tx = some req)
    (stored : live.registry.prompt? tokenId id = some (session, tx))
    (foundConn : live.conns.get? connId = some conn)
    (token : conn.tokenId = tokenId) (phase : conn.phase = .session []) :
    ∃ next, machine.run live
        [.frame connId (serverEnvelope .reply id "" (.reply body)),
          .resolve connId] = some next ∧
      next.reqs.get? tx =
        some { req with chan := req.chan.send (.reply body) } := by
  have framed :
      live.step
          (.frame connId (serverEnvelope .reply id "" (.reply body))) =
        some (live.setConn connId
          { conn with
            phase := .session [.reply id body]
            received := conn.received ++
              [serverEnvelope .reply id "" (.reply body)] }) := by
    simp only [step, foundConn, Option.bind_some, connStep, phase]
    rfl
  have resolved :=
    @resolve_enabled
      (live.setConn connId
        { conn with
          phase := .session [.reply id body]
          received := conn.received ++
            [serverEnvelope .reply id "" (.reply body)] })
      connId _ _ _ (FiniteMap.get?_put_self _ _ _) rfl
  refine
    ⟨_, (machine.run_cons_eq_some).mpr ⟨_, framed,
      (machine.run_cons_eq_some).mpr ⟨_, resolved, rfl⟩⟩, ?_⟩
  show
    (deliver live.reqs
      (live.registry.notifyPrompt conn.tokenId id
        (.reply body))).get? tx = _
  rw [token, notifyPrompt_of_prompt? stored, get?_deliver_of_found found]
  simp only [signalsTo, List.filterMap_cons, if_true,
    List.filterMap_nil]
  rfl

/-- A call reads no further than what was sent to it. -/
theorem taken_le_of_reachable
    (reachable : machine.Reachable live) :
    ∀ tx req, live.reqs.get? tx = some req →
      req.chan.taken ≤ req.chan.sent.length := by
  refine
    row_of_reachable
      (fun req => req.chan.taken ≤ req.chan.sent.length) ?_ ?_ ?_ reachable
  · intro tokenId envelopeId call
    exact Nat.zero_le _
  · intro live action tx req moved _ bounded moves
    cases moves with
    | event _ ready _ =>
        have inside := Channel.poll_eq_ready.mp ready
        exact (List.getElem?_eq_some_iff.mp inside).1
    | _ => exact bounded
  · intro req signals bounded
    simp only [Channel.taken_applyAll, Channel.sent_applyAll,
      List.length_append]
    omega

/-- A prompt that waits, is pending and was not cancelled can be answered, as
long as a connection of its token is in its session loop. -/
theorem canComplete_of_pending
    (reachable : machine.Reachable live)
    {tokenId session : String} {tx : ReqId} {req : Request}
    {outTx connId : ConnId} {hostname : String} {pieces : List String}
    {conn : Conn}
    (pending : live.registry.Pending tokenId session tx)
    (found : live.reqs.get? tx = some req)
    (waiting : req.pc = .waiting outTx hostname pieces)
    (uncancelled : .cancelled ∉ req.chan.sent)
    (foundConn : live.conns.get? connId = some conn)
    (token : conn.tokenId = tokenId) (phase : conn.phase = .session []) :
    CanComplete live tx := by
  obtain ⟨id, stored⟩ := pending
  have coherent := coherent_of_reachable reachable
  obtain ⟨entry, present, slot⟩ := Registry.tx?_of_prompt? stored
  obtain ⟨owner, foundOwner, owns⟩ := coherent.slot present slot
  cases foundOwner.symm.trans found
  have sound := Consistent.sound coherent found
  obtain ⟨next, reached, foundNext⟩ :=
    reply_delivered ⟨session, none, [], true, none⟩ found stored foundConn
      token phase
  have complete : CanComplete next tx := by
    refine
      canComplete_of_unread foundNext owns.kind waiting rfl ?_ ?_ ?_
    · intro event member
      rcases List.mem_append.mp (List.mem_of_mem_drop member) with
        old | new
      · exact (sound.fits event old).trans owns.kind
      · cases List.mem_singleton.mp new
        rfl
    · intro member
      rcases List.mem_append.mp (List.mem_of_mem_drop member) with
        old | new
      · exact uncancelled old
      · cases List.mem_singleton.mp new
    · refine ⟨.reply ⟨session, none, [], true, none⟩, ?_, rfl⟩
      show
        Event.reply ⟨session, none, [], true, none⟩ ∈
          (req.chan.sent ++ [_]).drop req.chan.taken
      rw [List.drop_append_of_le_length
        (taken_le_of_reachable reachable tx req found)]
      exact List.mem_append_right _ List.mem_cons_self
  obtain ⟨more, target, last, outcome, finished, rest⟩ := complete
  exact
    ⟨_, target, last, outcome,
      (machine.run_append_eq_some).mpr ⟨next, reached, finished⟩, rest⟩

/-- An interrupt cancels its turn only, in every run in which the turn is the
only pending prompt of the session whenever an acknowledged interrupt comes to
its cancel section.

A prompt returns `Cancelled` only if it was the turn of an interrupt on the same
token and session that returns `Acked`.  The cancel section of an interrupt
reaches its turn at most, and an interrupt has one turn.  The section changes
nothing in the registry and no other call; and a prompt that waits and was not
the turn of such an interrupt can still return `Done` or `Err`, as long as a
connection of its token is in its session loop. -/
theorem interrupt_cancels_turn_only
    {actions : List Action}
    (reached : machine.run machine.init actions = some live)
    (alone : TurnAlone actions) :
    (∀ tx req, live.reqs.get? tx = some req →
      req.pc = .returned (.prompt .cancelled) →
      ∃ caller interrupt session, live.reqs.get? caller = some interrupt ∧
        interrupt.tokenId = req.tokenId ∧
        interrupt.call = .interrupt session ∧
        req.call.promptSession? = some session ∧
        interrupt.pc = .returned (.interrupt .acked) ∧
        Turn actions caller tx) ∧
    (∀ caller tx tx', Turn actions caller tx →
      Turn actions caller tx' → tx = tx') ∧
    (∀ done caller rest before next,
      actions = done ++ .cancel caller :: rest →
      machine.run machine.init done = some before →
      before.step (.cancel caller) = some next →
      (∀ tx, Cancelled before next tx → Turn done caller tx) ∧
      next.registry = before.registry ∧
      ∀ tx, tx ≠ caller → ¬ Turn done caller tx →
        next.reqs.get? tx = before.reqs.get? tx) ∧
    (∀ tx req tokenId session outTx hostname pieces connId conn,
      live.registry.Pending tokenId session tx →
      live.reqs.get? tx = some req →
      req.pc = .waiting outTx hostname pieces →
      (∀ caller, .cancel caller ∈ actions → ¬ Turn actions caller tx) →
      live.conns.get? connId = some conn → conn.tokenId = tokenId →
      conn.phase = .session [] →
      CanComplete live tx) := by
  have reachable : machine.Reachable live := ⟨actions, reached⟩
  have turn_of_wakes :
      ∀ {before caller interrupt session tx},
        Wakes actions before caller interrupt session tx →
        .cancel caller ∈ actions ∧ Turn actions caller tx := by
    intro before caller interrupt session tx wakes
    obtain ⟨done, rest, split, reachedBefore⟩ := wakes.reached
    have turn :=
      alone done caller rest before interrupt session tx split
        reachedBefore wakes.found wakes.call wakes.pending
    rw [split]
    exact
      ⟨List.mem_append_right _ List.mem_cons_self, turn.extend _⟩
  refine ⟨?_, ?_, ?_, ?_⟩
  · intro tx req found returned
    obtain ⟨before, caller, interrupt, session, wakes, token, ofSession⟩ :=
      wakes_of_returned reached found returned
    obtain ⟨last, foundLast, sameToken, _, call, acked⟩ :=
      wakes.interrupt_run reached
    exact
      ⟨caller, last, session, foundLast, sameToken.trans token.symm, call,
        ofSession, acked, (turn_of_wakes wakes).2⟩
  · intro caller tx tx' first second
    exact first.unique reached second
  · intro done caller rest before next split reachedBefore stepped
    obtain ⟨interrupt, _, session, foundCaller, _, call, _, _,
      sameRegistry, _⟩ := step_cancel stepped
    have pendingTurn :
        ∀ tx, before.registry.Pending interrupt.tokenId session tx →
          Turn done caller tx := by
      intro tx pending
      exact
        alone done caller rest before interrupt session tx split
          reachedBefore foundCaller call pending
    refine ⟨?_, sameRegistry, ?_⟩
    · intro tx cancelled
      have coherent := coherent_of_reachable ⟨done, reachedBefore⟩
      obtain ⟨caller', interrupt', session', _, isCancel, found', call',
        _, pending⟩ := interrupt_of_cancelled coherent stepped cancelled
      cases isCancel
      cases found'.symm.trans foundCaller
      cases call'.symm.trans call
      exact pendingTurn tx pending
    · intro tx other notTurn
      refine
        unchanged_of_not_pending stepped foundCaller call other ?_
      intro pending
      exact notTurn (pendingTurn tx pending)
  · intro tx req tokenId session outTx hostname pieces connId conn
      pending found waiting notTurn foundConn token phase
    refine
      canComplete_of_pending reachable pending found waiting ?_ foundConn
        token phase
    intro member
    obtain ⟨before, caller, interrupt, session', wakes⟩ :=
      cancellation_has_interrupt reached tx req found member
    obtain ⟨cancels, turn⟩ := turn_of_wakes wakes
    exact notTurn caller cancels turn

/-- The prompt is in flight when the interrupt is sent. -/
theorem turn_interruptedRun :
    Turn (interruptedRun.take 15) 1 0 := by
  refine
    ⟨interruptedRun.take 10, "now", (interruptedRun.take 15).drop 11, _, _,
      "s", rfl, rfl, rfl, rfl, ⟨⟨"p", rfl⟩, ?_⟩, interruptedRun.take 6,
      "now", (interruptedRun.take 10).drop 7, rfl, ?_⟩
  · exact ⟨0, _, _, rfl, List.mem_cons_self, rfl⟩
  · intro tx' ts' member
    simp [interruptedRun] at member

theorem turnAlone_interruptedRun : TurnAlone interruptedRun := by
  intro done caller rest before interrupt session tx split reached found
    call pending
  have enrolled := enroll_mem_of_pending reached _ _ _ pending
  obtain ⟨prompt, foundPrompt, _, ofSession⟩ :=
    pending_of_reachable ⟨done, reached⟩ _ _ _ pending
  simp only [interruptedRun, List.cons_eq_append_iff, List.nil_eq,
    List.append_eq_nil_iff, reduceCtorEq, and_false, false_and, or_false,
    exists_false, false_or, List.cons.injEq, Action.cancel.injEq] at split
  obtain ⟨_, rfl, _, rfl, _, rfl, _, rfl, _, rfl, _, rfl, _, rfl, _, rfl,
    _, rfl, _, rfl, _, rfl, _, rfl, _, rfl, _, rfl, _, rfl, rfl, rfl,
    rfl⟩ := split
  cases reached
  simp only [List.mem_cons, reduceCtorEq, Action.enroll.injEq, false_or,
    List.not_mem_nil, or_false] at enrolled
  rcases enrolled with rfl | rfl
  · exact turn_interruptedRun
  · cases foundPrompt
    cases ofSession

theorem interrupt_cancels_turn_only_interruptedRun :
    ∃ req, (after interruptedRun).reqs.get? 0 = some req ∧
      req.pc = .returned (.prompt .cancelled) ∧
      ∃ caller interrupt session,
        (after interruptedRun).reqs.get? caller = some interrupt ∧
        interrupt.tokenId = "t" ∧
        interrupt.call = .interrupt session ∧
        req.call.promptSession? = some session ∧
        interrupt.pc = .returned (.interrupt .acked) ∧
        Turn interruptedRun caller 0 := by
  have reached :
      machine.run machine.init interruptedRun =
        some (after interruptedRun) := rfl
  refine ⟨_, rfl, rfl, ?_⟩
  exact
    (interrupt_cancels_turn_only reached turnAlone_interruptedRun).1 0 _
      rfl rfl

/-- Two prompts of one session are outstanding when the interrupt is sent. -/
def queuedPromptRun : List Action :=
  [.auth 0 "t" "client" "host", .register 0, .hello 0 true,
    .call 0 "t" "p" (.prompt "s" "hi" none), .lookup 0, .enroll 0,
    .send 0 "now",
    .call 1 "t" "q" (.prompt "s" "ho" none), .lookup 1, .enroll 1,
    .send 1 "now",
    .call 2 "t" "i" (.interrupt "s"), .lookup 2, .enroll 2,
    .send 2 "now",
    .frame 0 (serverEnvelope .ack "x" "now" (.ack ⟨some "i"⟩)),
    .resolve 0, .resolve 0, .recv 2, .cancel 2, .recv 0, .forget 0,
    .recv 1, .forget 1]

/-- One acknowledged interrupt cancels both prompts: the turn in flight and the
one queued behind it. -/
theorem queuedPromptRun_cancels_both :
    ∃ live before interrupt first second,
      machine.run machine.init queuedPromptRun = some live ∧
      Wakes queuedPromptRun before 2 interrupt "s" 0 ∧
      Wakes queuedPromptRun before 2 interrupt "s" 1 ∧
      Turn queuedPromptRun 2 0 ∧ ¬ Turn queuedPromptRun 2 1 ∧
      live.reqs.get? 0 = some first ∧
      first.pc = .returned (.prompt .cancelled) ∧
      live.reqs.get? 1 = some second ∧
      second.pc = .returned (.prompt .cancelled) := by
  have reached :
      machine.run machine.init queuedPromptRun =
        some (after queuedPromptRun) := rfl
  have turn : Turn queuedPromptRun 2 0 := by
    refine
      ⟨queuedPromptRun.take 14, "now", queuedPromptRun.drop 15, _, _, "s",
        rfl, rfl, rfl, rfl, ⟨⟨"p", rfl⟩, ?_⟩, queuedPromptRun.take 6,
        "now", (queuedPromptRun.take 14).drop 7, rfl, ?_⟩
    · exact ⟨0, _, _, rfl, List.mem_cons_self, rfl⟩
    · intro tx' ts' member
      simp [queuedPromptRun] at member
  have split :
      queuedPromptRun =
        queuedPromptRun.take 19 ++ .cancel 2 :: queuedPromptRun.drop 20 :=
    rfl
  refine
    ⟨_, after (queuedPromptRun.take 19), _, _, _, reached,
      { reached := ⟨_, _, split, rfl⟩
        found := rfl
        call := rfl
        cancelling := ⟨0, rfl⟩
        pending := ⟨"p", rfl⟩ },
      { reached := ⟨_, _, split, rfl⟩
        found := rfl
        call := rfl
        cancelling := ⟨0, rfl⟩
        pending := ⟨"q", rfl⟩ }, turn, ?_, rfl, rfl, rfl, rfl⟩
  intro other
  exact absurd (turn.unique reached other) Nat.zero_ne_one

end Live

end HollerServer.Wire
