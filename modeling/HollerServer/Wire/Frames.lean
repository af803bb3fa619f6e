import HollerServer.Wire.Consistency

/-!
# What an action does to one call and to one connection

`request_step` and `connection_step` follow one row of the request table and one
row of the connection table through an action: the row moves by itself when the
action is its own, and on top of that a call gets the signals of the critical
section and a connection the envelopes put on its queue.  Invariants of single
rows are proved from these two.
-/

namespace HollerServer.Wire

open HollerServer.Proto

/-- The call that takes the action. -/
def Action.caller? : Action → Option ReqId
  | .call id _ _ _ | .lookup id | .enroll id | .send id _ | .recv id
  | .timeout id | .forget id | .check id | .cancel id => some id
  | _ => none

namespace Live

variable {live next : Live}

/-- The signals of the critical section an action runs.  Messages come from two
sections only: a frame that is handled and an interrupt that was acknowledged. -/
inductive Emits (live : Live) : Action → Signals → Prop
  | drops {action : Action} {after : Registry} {signals : Signals}
      (disciplined : Disciplined live.registry after signals)
      (silent : ∀ tx event, (tx, .send event) ∉ signals) :
      Emits live action signals
  | resolve {id : ConnId} {conn : Conn} {resolution : Resolution}
      {todo : List Resolution}
      (found : live.conns.get? id = some conn)
      (phase : conn.phase = .session (resolution :: todo)) :
      Emits live (.resolve id)
        (live.registry.perform conn.tokenId live.now resolution).2
  | cancel {id : ReqId} {req : Request} {session : String}
      (found : live.reqs.get? id = some req)
      (call : req.call = .interrupt session) :
      Emits live (.cancel id)
        (live.registry.cancelPendingPromptsForSession
          req.tokenId session)

namespace Emits

theorem quiet (action : Action) : Emits live action [] :=
  .drops Disciplined.refl nofun

theorem disciplined
    {action : Action} {signals : Signals}
    (emits : Emits live action signals) :
    ∃ after, Disciplined live.registry after signals := by
  cases emits with
  | drops disciplined _ => exact ⟨_, disciplined⟩
  | resolve _ _ => exact ⟨_, Disciplined.perform _⟩
  | cancel _ _ =>
      exact ⟨_, Disciplined.cancelPendingPromptsForSession⟩

theorem ofDropSignals {action : Action} (tokenId : String) :
    Emits live action
      (Registry.dropSignals (live.registry.get? tokenId)) := by
  refine .drops (@Disciplined.remove live.registry tokenId) ?_
  intro tx event member
  obtain ⟨isDrop, _⟩ := Registry.mem_dropSignals.mp member
  cases isDrop

theorem ofForgetSlot
    {action : Action} (kind : Kind) (tokenId id : String) :
    Emits live action (live.registry.forgetSlot kind tokenId id).2 := by
  refine .drops Disciplined.forgetSlot ?_
  intro tx event member
  unfold Registry.forgetSlot at member
  split at member
  next => cases member
  next entry present =>
    simp only [List.mem_map, Prod.mk.injEq] at member
    obtain ⟨_, _, _, isDrop⟩ := member
    cases isDrop

end Emits

/-- The move of a call in its own action. -/
inductive Moves (live : Live) (id : ReqId) (req : Request) :
    Action → Request → Prop
  | stay {action : Action} (other : action.caller? ≠ some id) :
      Moves live id req action req
  | absent {action : Action} (before : req.pc.before = true) :
      Moves live id req action
        { req with pc := .returned req.call.kind.disconnected }
  | lookup {entry : Entry} (pc : req.pc = .start)
      (present : live.registry.get? req.tokenId = some entry) :
      Moves live id req (.lookup id)
        { req with pc := .cloned entry.outTx entry.hostname }
  | enroll {outTx : ConnId} {hostname : String} {entry : Entry}
      (pc : req.pc = .cloned outTx hostname)
      (present : live.registry.get? req.tokenId = some entry) :
      Moves live id req (.enroll id)
        { req with
          pc := .enrolled outTx hostname
          enrolledIn := some entry.outTx }
  | send {outTx : ConnId} {hostname ts : String} {conn : Conn}
      (pc : req.pc = .enrolled outTx hostname)
      (found : live.conns.get? outTx = some conn)
      (receiving : conn.receiving = true) :
      Moves live id req (.send id ts)
        { req with pc := .waiting outTx hostname [] }
  | sendFailed {outTx : ConnId} {hostname ts : String} {conn : Conn}
      (pc : req.pc = .enrolled outTx hostname)
      (found : live.conns.get? outTx = some conn)
      (gone : conn.receiving = false) :
      Moves live id req (.send id ts)
        { req with
          pc := .forgetting outTx (some req.call.kind.disconnected) }
  | event {outTx : ConnId} {hostname : String} {pieces : List String}
      {event : Event} {pc : Pc}
      (waiting : req.pc = .waiting outTx hostname pieces)
      (ready : req.chan.poll = .ready event)
      (handled :
        onEvent outTx hostname pieces req.call.kind event = some pc) :
      Moves live id req (.recv id)
        { req with pc, chan := req.chan.take }
  | ended {outTx : ConnId} {hostname : String} {pieces : List String}
      (waiting : req.pc = .waiting outTx hostname pieces)
      (ended : req.chan.poll = .ended) :
      Moves live id req (.recv id)
        { req with pc := onEnded outTx req.call.kind }
  | timeout {outTx : ConnId} {hostname : String} {pieces : List String}
      (waiting : req.pc = .waiting outTx hostname pieces) :
      Moves live id req (.timeout id)
        { req with pc := onTimeout outTx req.call.kind }
  | forget {outTx : ConnId} {outcome : Outcome}
      (pc : req.pc = .forgetting outTx (some outcome)) :
      Moves live id req (.forget id)
        { req with pc := .returned outcome }
  | lookAgain {outTx : ConnId}
      (pc : req.pc = .forgetting outTx none) :
      Moves live id req (.forget id)
        { req with pc := .checking outTx }
  | check {outTx : ConnId} {live' : Bool} {outcome : Outcome}
      (pc : req.pc = .checking outTx)
      (checked : onCheck live' req.call.kind = some outcome) :
      Moves live id req (.check id) { req with pc := .returned outcome }
  | cancel {outTx : ConnId} (pc : req.pc = .cancelling outTx) :
      Moves live id req (.cancel id)
        { req with pc := .returned (.interrupt .acked) }

/-- Where the row of a call in the next state comes from. -/
inductive RequestStep (live : Live) (id : ReqId) (req' : Request) :
    Action → Prop
  | created {tokenId envelopeId : String} {call : Call}
      (absent : live.reqs.get? id = none)
      (fresh : req' = { tokenId, id := envelopeId, call }) :
      RequestStep live id req' (.call id tokenId envelopeId call)
  | moved {action : Action} {req moved : Request} {signals : Signals}
      (found : live.reqs.get? id = some req)
      (emits : Emits live action signals)
      (moves : Moves live id req action moved)
      (delivered :
        req' =
          { moved with
            chan := moved.chan.applyAll (signalsTo id signals) }) :
      RequestStep live id req' action

/-- A row that is not the caller's own gets the signals of the section. -/
theorem RequestStep.ofDeliver
    {action : Action} {id : ReqId} {req' : Request} {signals : Signals}
    (other : action.caller? ≠ some id)
    (emits : Emits live action signals)
    (found : (deliver live.reqs signals).get? id = some req') :
    RequestStep live id req' action := by
  obtain ⟨req, foundReq, same⟩ := get?_deliver_eq_some.mp found
  exact .moved foundReq emits (.stay other) same

/-- An action that leaves the request table alone. -/
theorem RequestStep.ofSame
    {action : Action} {id : ReqId} {req' : Request}
    (other : action.caller? ≠ some id)
    (found : live.reqs.get? id = some req') :
    RequestStep live id req' action :=
  .moved found (.quiet action) (.stay other) rfl

/-- An action of a call that runs no critical section. -/
theorem RequestStep.ofSetReq
    {action : Action} {id caller : ReqId} {req moved req' : Request}
    (own : action.caller? = some caller)
    (foundCaller : live.reqs.get? caller = some req)
    (moves : Moves live caller req action moved)
    (found : (live.reqs.put caller moved).get? id = some req') :
    RequestStep live id req' action := by
  rw [FiniteMap.get?_put] at found
  by_cases same : id = caller
  · subst same
    rw [if_pos rfl] at found
    cases found
    exact .moved foundCaller (.quiet action) moves rfl
  · rw [if_neg same] at found
    refine .ofSame ?_ found
    rw [own]
    exact fun equal => same (Option.some.inj equal).symm

/-- An action of a call that runs a critical section and then moves. -/
theorem RequestStep.ofModify
    {action : Action} {id caller : ReqId} {req req' : Request}
    {signals : Signals} {pc : Pc}
    (own : action.caller? = some caller)
    (foundCaller : live.reqs.get? caller = some req)
    (emits : Emits live action signals)
    (moves : Moves live caller req action { req with pc })
    (found :
      ((deliver live.reqs signals).modify caller fun current =>
        { current with pc }).get? id = some req') :
    RequestStep live id req' action := by
  rw [FiniteMap.get?_modify] at found
  by_cases same : id = caller
  · subst same
    rw [if_pos rfl, get?_deliver_of_found foundCaller signals] at found
    cases found
    exact .moved foundCaller emits moves rfl
  · rw [if_neg same] at found
    refine .ofDeliver ?_ emits found
    rw [own]
    exact fun equal => same (Option.some.inj equal).symm

/-- An enrolment drops the slot it displaces and then moves the caller, which
no signal reaches because it has no slot yet. -/
theorem RequestStep.ofEnroll
    (coherent : live.Coherent) {id caller : ReqId} {req' : Request}
    (stepped : live.step (.enroll caller) = some next)
    (found : next.reqs.get? id = some req') :
    RequestStep live id req' (.enroll caller) := by
  obtain ⟨req, outTx, hostname, foundCaller, pc, outcomes⟩ :=
    step_enroll stepped
  rcases outcomes with ⟨_, rfl⟩ | ⟨entry, present, rfl⟩
  · exact .ofSetReq rfl foundCaller (.absent (by rw [pc]; rfl)) found
  · have emits :
        Emits live (.enroll caller)
          ((entry.tx? req.call.kind req.id).toList.map
            fun old => (old, .drop)) := by
      have forgotten :=
        @Emits.ofForgetSlot live (.enroll caller)
          req.call.kind req.tokenId req.id
      unfold Registry.forgetSlot at forgotten
      rw [present] at forgotten
      exact forgotten
    by_cases same : id = caller
    · subst same
      have never : req.enrolledIn = none :=
        (Consistent.sound coherent foundCaller).early (by rw [pc]; rfl)
      obtain ⟨after, disciplined⟩ := emits.disciplined
      have noSignals :=
        Consistent.signalsTo_eq_nil coherent disciplined foundCaller never
      have stored := found.symm.trans (FiniteMap.get?_put_self _ _ _)
      cases stored
      refine .moved foundCaller emits (.enroll pc present) ?_
      rw [noSignals]
      rfl
    · have kept :=
        found.symm.trans (FiniteMap.get?_put_of_ne _ _ same)
      refine .ofDeliver ?_ emits kept.symm
      exact fun equal => same (Option.some.inj equal).symm

/-- What an action does to the row of a call. -/
theorem request_step
    (coherent : live.Coherent)
    {action : Action} {id : ReqId} {req' : Request}
    (stepped : live.step action = some next)
    (found : next.reqs.get? id = some req') :
    RequestStep live id req' action := by
  cases action with
  | tick elapsed =>
      rw [step_tick stepped] at found
      exact .ofSame nofun found
  | auth connId tokenId clientId machine =>
      obtain ⟨_, rfl⟩ := step_auth stepped
      exact .ofSame nofun found
  | register connId =>
      obtain ⟨conn, _, _, rfl⟩ := step_register stepped
      rw [reqs_register] at found
      exact .ofDeliver nofun (.ofDropSignals conn.tokenId) found
  | hello connId written =>
      obtain ⟨conn, _, _, rfl⟩ := step_hello stepped
      exact .ofSame nofun found
  | frame connId envelope =>
      obtain ⟨conn, _, _, rfl⟩ := step_frame stepped
      exact .ofSame nofun found
  | resolve connId =>
      obtain ⟨conn, resolution, todo, foundConn, phase, rfl⟩ :=
        step_resolve stepped
      exact .ofDeliver nofun (.resolve foundConn phase) found
  | outgoing connId written =>
      obtain ⟨conn, _, _, _, rfl⟩ := step_outgoing stepped
      exact .ofSame nofun found
  | outClosed connId =>
      obtain ⟨conn, _, _, _, rfl⟩ := step_outClosed stepped
      exact .ofSame nofun found
  | stop connId certainClose =>
      obtain ⟨conn, _, _, rfl⟩ := step_stop stepped
      exact .ofSame nofun found
  | teardown connId =>
      obtain ⟨conn, certainClose, _, _, rfl⟩ := step_teardown stepped
      exact .ofDeliver nofun (.ofDropSignals conn.tokenId) found
  | finish connId =>
      obtain ⟨conn, certainClose, _, _, rfl⟩ := step_finish stepped
      exact .ofSame nofun found
  | revoke tokenId =>
      rw [step_revoke stepped] at found
      exact .ofDeliver nofun (.ofDropSignals tokenId) found
  | call caller tokenId envelopeId call =>
      obtain ⟨absent, rfl⟩ := step_call stepped
      by_cases same : id = caller
      · subst same
        have stored := found.symm.trans (FiniteMap.get?_put_self _ _ _)
        exact .created absent (Option.some.inj stored)
      · have kept :=
          found.symm.trans (FiniteMap.get?_put_of_ne _ _ same)
        refine .ofSame ?_ kept.symm
        exact fun equal => same (Option.some.inj equal).symm
  | lookup caller =>
      obtain ⟨req, foundCaller, pc,
        ⟨_, rfl⟩ | ⟨entry, present, rfl⟩⟩ := step_lookup stepped
      · exact .ofSetReq rfl foundCaller (.absent (by rw [pc]; rfl)) found
      · exact .ofSetReq rfl foundCaller (.lookup pc present) found
  | enroll caller => exact .ofEnroll coherent stepped found
  | send caller ts =>
      obtain ⟨req, outTx, hostname, conn, foundCaller, pc, foundConn,
        ⟨receiving, rfl⟩ | ⟨gone, rfl⟩⟩ := step_send stepped
      · exact
          .ofSetReq rfl foundCaller (.send pc foundConn receiving) found
      · exact
          .ofSetReq rfl foundCaller (.sendFailed pc foundConn gone) found
  | recv caller =>
      obtain ⟨req, outTx, hostname, pieces, foundCaller, pc,
        ⟨event, target, ready, handled, rfl⟩ | ⟨ended, rfl⟩⟩ :=
        step_recv stepped
      · exact
          .ofSetReq rfl foundCaller (.event pc ready handled) found
      · exact .ofSetReq rfl foundCaller (.ended pc ended) found
  | timeout caller =>
      obtain ⟨req, outTx, hostname, pieces, foundCaller, pc, _, rfl⟩ :=
        step_timeout stepped
      exact .ofSetReq rfl foundCaller (.timeout pc) found
  | forget caller =>
      obtain ⟨req, outTx, outcome, foundCaller, pc, _, _, _, sameReqs⟩ :=
        step_forget stepped
      rw [sameReqs] at found
      have emits :=
        @Emits.ofForgetSlot live (.forget caller)
          req.call.kind req.tokenId req.id
      cases outcome with
      | none =>
          exact .ofModify rfl foundCaller emits (.lookAgain pc) found
      | some outcome =>
          exact .ofModify rfl foundCaller emits (.forget pc) found
  | check caller =>
      obtain ⟨req, outTx, outcome, foundCaller, pc, checked, rfl⟩ :=
        step_check stepped
      exact .ofSetReq rfl foundCaller (.check pc checked) found
  | cancel caller =>
      obtain ⟨req, outTx, session, foundCaller, pc, call, _, _, _,
        sameReqs⟩ := step_cancel stepped
      rw [sameReqs] at found
      exact
        .ofModify rfl foundCaller (.cancel foundCaller call)
          (.cancel pc) found

/-- A property of every new call that its moves and the signals to it keep holds
of every call. -/
theorem row_of_reachable (property : Request → Prop)
    (created :
      ∀ tokenId envelopeId call,
        property { tokenId, id := envelopeId, call })
    (moved :
      ∀ {live : Live} {action : Action} {tx : ReqId}
        {req moved : Request},
        req.Sound live.registry tx →
        property req → Moves live tx req action moved → property moved)
    (delivered :
      ∀ req signals, property req →
        property { req with chan := req.chan.applyAll signals })
    (reachable : machine.Reachable live) :
    ∀ tx req, live.reqs.get? tx = some req → property req := by
  refine
    reachable.induction
      (fun live => ∀ tx req, live.reqs.get? tx = some req → property req)
      ?_ ?_
  · intro tx req found
    cases found
  · intro live action next reachable holds stepped tx req' found
    have coherent := coherent_of_reachable reachable
    cases request_step coherent stepped found with
    | created _ fresh =>
        subst fresh
        exact created _ _ _
    | @moved _ req _ signals foundReq _ moves same =>
        subst same
        exact
          delivered _ _
            (moved (Consistent.sound coherent foundReq)
              (holds tx req foundReq) moves)

theorem extends_register (live : Live) (id : ConnId) (conn : Conn) :
    (live.register id conn).conns.Extends live.conns := by
  have greeted :=
    (FiniteMap.Extends.refl live.conns).put id
      { conn with phase := .greeting }
  cases previous : live.registry.get? conn.tokenId with
  | none =>
      simp only [register, Registry.insert, previous, notify, commit]
      exact greeted
  | some entry =>
      simp only [register, Registry.insert, previous, notify, commit]
      exact greeted.modify _ _

/-- No connection and no call leaves its table. -/
theorem extends_step
    {action : Action} (stepped : live.step action = some next) :
    next.conns.Extends live.conns ∧ next.reqs.Extends live.reqs := by
  have conns := FiniteMap.Extends.refl live.conns
  have reqs := FiniteMap.Extends.refl live.reqs
  cases action with
  | tick elapsed =>
      rw [step_tick stepped]
      exact ⟨conns, reqs⟩
  | auth actor tokenId clientId machine =>
      obtain ⟨_, rfl⟩ := step_auth stepped
      exact ⟨conns.put _ _, reqs⟩
  | register actor =>
      obtain ⟨conn, _, _, rfl⟩ := step_register stepped
      refine ⟨extends_register live actor conn, ?_⟩
      rw [reqs_register]
      exact extends_deliver _ _
  | hello actor written =>
      obtain ⟨conn, _, _, rfl⟩ := step_hello stepped
      exact ⟨conns.put _ _, reqs⟩
  | frame actor envelope =>
      obtain ⟨conn, _, _, rfl⟩ := step_frame stepped
      exact ⟨conns.put _ _, reqs⟩
  | resolve actor =>
      obtain ⟨conn, resolution, todo, _, _, rfl⟩ := step_resolve stepped
      exact ⟨conns.put _ _, extends_deliver _ _⟩
  | outgoing actor written =>
      obtain ⟨conn, _, _, _, rfl⟩ := step_outgoing stepped
      exact ⟨conns.put _ _, reqs⟩
  | outClosed actor =>
      obtain ⟨conn, _, _, _, rfl⟩ := step_outClosed stepped
      exact ⟨conns.put _ _, reqs⟩
  | stop actor certainClose =>
      obtain ⟨conn, _, _, rfl⟩ := step_stop stepped
      exact ⟨conns.put _ _, reqs⟩
  | teardown actor =>
      obtain ⟨conn, certainClose, _, _, rfl⟩ := step_teardown stepped
      exact ⟨conns.put _ _, extends_deliver _ _⟩
  | finish actor =>
      obtain ⟨conn, certainClose, _, _, rfl⟩ := step_finish stepped
      exact ⟨conns.put _ _, reqs⟩
  | revoke tokenId =>
      rw [step_revoke stepped]
      exact ⟨conns, extends_deliver _ _⟩
  | call caller tokenId envelopeId call =>
      obtain ⟨_, rfl⟩ := step_call stepped
      exact ⟨conns, reqs.put _ _⟩
  | lookup caller =>
      obtain ⟨req, _, _, ⟨_, rfl⟩ | ⟨entry, _, rfl⟩⟩ :=
        step_lookup stepped
      · exact ⟨conns, reqs.put _ _⟩
      · exact ⟨conns, reqs.put _ _⟩
  | enroll caller =>
      obtain ⟨req, outTx, hostname, _, _,
        ⟨_, rfl⟩ | ⟨entry, _, rfl⟩⟩ := step_enroll stepped
      · exact ⟨conns, reqs.put _ _⟩
      · exact ⟨conns, (extends_deliver _ _).put _ _⟩
  | send caller ts =>
      obtain ⟨req, outTx, hostname, conn, _, _, _,
        ⟨_, rfl⟩ | ⟨_, rfl⟩⟩ := step_send stepped
      · exact ⟨conns.put _ _, reqs.put _ _⟩
      · exact ⟨conns, reqs.put _ _⟩
  | recv caller =>
      obtain ⟨req, outTx, hostname, pieces, _, _,
        ⟨event, target, _, _, rfl⟩ | ⟨_, rfl⟩⟩ := step_recv stepped
      · exact ⟨conns, reqs.put _ _⟩
      · exact ⟨conns, reqs.put _ _⟩
  | timeout caller =>
      obtain ⟨req, outTx, hostname, pieces, _, _, _, rfl⟩ :=
        step_timeout stepped
      exact ⟨conns, reqs.put _ _⟩
  | forget caller =>
      obtain ⟨req, outTx, outcome, _, _, _, sameConns, _, sameReqs⟩ :=
        step_forget stepped
      rw [sameConns, sameReqs]
      exact ⟨conns, (extends_deliver _ _).modify _ _⟩
  | check caller =>
      obtain ⟨req, outTx, outcome, _, _, _, rfl⟩ := step_check stepped
      exact ⟨conns, reqs.put _ _⟩
  | cancel caller =>
      obtain ⟨req, outTx, session, _, _, _, _, sameConns, _, sameReqs⟩ :=
        step_cancel stepped
      rw [sameConns, sameReqs]
      exact ⟨conns, (extends_deliver _ _).modify _ _⟩

/-- No call leaves the table. -/
theorem request_kept
    {action : Action} {id : ReqId}
    (stepped : live.step action = some next)
    (present : (live.reqs.get? id).isSome = true) :
    (next.reqs.get? id).isSome = true :=
  (extends_step stepped).2 id present

end Live

/-- A later row of the same call: its arguments are fixed, it registers once,
its channel only grows and is final once it is closed. -/
structure Request.Follows (later earlier : Request) : Prop where
  token : later.tokenId = earlier.tokenId
  id : later.id = earlier.id
  call : later.call = earlier.call
  owner :
    ∀ owner, earlier.enrolledIn = some owner →
      later.enrolledIn = some owner
  sent : earlier.chan.sent <+: later.chan.sent
  final :
    earlier.chan.closed = true →
      later.chan.closed = true ∧ later.chan.sent = earlier.chan.sent

theorem Request.Follows.refl (req : Request) : req.Follows req where
  token := rfl
  id := rfl
  call := rfl
  owner := fun _ enrolled => enrolled
  sent := List.prefix_refl _
  final := fun closed => ⟨closed, rfl⟩

theorem Request.Follows.trans
    {first second third : Request}
    (later : third.Follows second) (earlier : second.Follows first) :
    third.Follows first where
  token := later.token.trans earlier.token
  id := later.id.trans earlier.id
  call := later.call.trans earlier.call
  owner := fun owner enrolled =>
    later.owner owner (earlier.owner owner enrolled)
  sent := earlier.sent.trans later.sent
  final := by
    intro closed
    obtain ⟨closedSecond, sameSecond⟩ := earlier.final closed
    obtain ⟨closedThird, sameThird⟩ := later.final closedSecond
    exact ⟨closedThird, sameThird.trans sameSecond⟩

namespace Live

variable {live next : Live}

/-- A move of a call does not touch what was sent to it. -/
theorem Moves.follows
    {id : ReqId} {req moved : Request} {action : Action}
    (early : req.pc.before = true → req.enrolledIn = none)
    (moves : Moves live id req action moved) :
    moved.Follows req ∧ moved.chan.sent = req.chan.sent ∧
      moved.chan.closed = req.chan.closed := by
  cases moves with
  | enroll pc present =>
      have never : req.enrolledIn = none := early (by rw [pc]; rfl)
      refine ⟨{ Request.Follows.refl req with owner := ?_ }, rfl, rfl⟩
      intro owner enrolled
      rw [never] at enrolled
      cases enrolled
  | _ => exact ⟨{ Request.Follows.refl req with }, rfl, rfl⟩

/-- A sender half that is gone gets no signal. -/
theorem signalsTo_eq_nil_of_closed
    (coherent : live.Coherent)
    {action : Action} {signals : Signals} {id : ReqId} {req : Request}
    (emits : Emits live action signals)
    (found : live.reqs.get? id = some req)
    (closed : req.chan.closed = true) :
    signalsTo id signals = [] := by
  refine List.eq_nil_iff_forall_not_mem.mpr ?_
  intro signal member
  obtain ⟨after, disciplined⟩ := emits.disciplined
  obtain ⟨_, _, _, _, owner, _, _, foundOwner, owns⟩ :=
    Consistent.addressee coherent disciplined (mem_signalsTo.mp member)
  have same : owner = req :=
    Option.some.inj (foundOwner.symm.trans found)
  subst same
  rw [owns.alive] at closed
  cases closed

/-- A message on a channel was there before the action or is sent by it. -/
theorem mem_sent_step
    (coherent : live.Coherent)
    {action : Action} {tx : ReqId} {req' : Request} {event : Event}
    (stepped : live.step action = some next)
    (found : next.reqs.get? tx = some req')
    (member : event ∈ req'.chan.sent) :
    (∃ req, live.reqs.get? tx = some req ∧ event ∈ req.chan.sent) ∨
      ∃ signals, Emits live action signals ∧
        (tx, .send event) ∈ signals := by
  cases request_step coherent stepped found with
  | created _ fresh =>
      subst fresh
      cases member
  | @moved _ req moved signals foundReq emits moves delivered =>
      subst delivered
      obtain ⟨_, sameSent, _⟩ :=
        moves.follows (Consistent.sound coherent foundReq).early
      rcases Consistent.mem_sent_applyAll member with old | new
      · rw [sameSent] at old
        exact .inl ⟨req, foundReq, old⟩
      · exact .inr ⟨signals, emits, new⟩

/-- The row of a call after an action follows the row before. -/
theorem follows_step
    (coherent : live.Coherent)
    {action : Action} {id : ReqId} {req : Request}
    (stepped : live.step action = some next)
    (found : live.reqs.get? id = some req) :
    ∃ req', next.reqs.get? id = some req' ∧ req'.Follows req := by
  have kept : (next.reqs.get? id).isSome = true :=
    request_kept stepped (by rw [found]; rfl)
  obtain ⟨req', found'⟩ := Option.isSome_iff_exists.mp kept
  refine ⟨req', found', ?_⟩
  cases request_step coherent stepped found' with
  | created absent _ =>
      rw [found] at absent
      cases absent
  | @moved _ origin moved signals foundOrigin emits moves delivered =>
      have same : origin = req :=
        Option.some.inj (foundOrigin.symm.trans found)
      subst same
      obtain ⟨follows, sameSent, sameClosed⟩ :=
        moves.follows (Consistent.sound coherent found).early
      subst delivered
      refine Request.Follows.trans ?_ follows
      refine
        { Request.Follows.refl moved with
          sent := ?_
          final := ?_ }
      · rw [Channel.sent_applyAll]
        exact List.prefix_append _ _
      · intro closed
        rw [sameClosed] at closed
        have noSignals :=
          signalsTo_eq_nil_of_closed coherent emits found closed
        rw [noSignals]
        exact ⟨sameClosed.trans closed, rfl⟩

/-- The row of a call after a run follows the row before. -/
theorem follows_run
    {actions : List Action} {target : Live}
    (coherent : live.Coherent)
    (reached : machine.run live actions = some target)
    {id : ReqId} {req : Request}
    (found : live.reqs.get? id = some req) :
    ∃ req', target.reqs.get? id = some req' ∧ req'.Follows req := by
  induction actions generalizing live req with
  | nil =>
      cases reached
      exact ⟨req, found, Request.Follows.refl req⟩
  | cons action rest inductionHypothesis =>
      obtain ⟨middle, stepped, remaining⟩ :=
        (machine.run_cons_eq_some).mp reached
      obtain ⟨req', found', follows'⟩ :=
        follows_step coherent stepped found
      obtain ⟨last, foundLast, followsLast⟩ :=
        inductionHypothesis (coherent.step stepped) remaining found'
      exact ⟨last, foundLast, followsLast.trans follows'⟩

end Live

end HollerServer.Wire
