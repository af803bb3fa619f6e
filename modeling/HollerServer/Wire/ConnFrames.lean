import HollerServer.Wire.Frames
import HollerServer.Wire.Supersede

/-!
# What an action does to one connection

`connection_step` follows one row of the connection table through an action.
From it: a connection keeps its token for ever, its received frames and its
queue only grow, it registers at most once, and the calls it still has to make
for a frame are calls of the last frame it received.
-/

namespace HollerServer.Wire

open HollerServer.Proto

namespace Live

variable {live next : Live}

/-- The move of a connection in an action. -/
inductive ConnMoves (live : Live) (id : ConnId) (conn : Conn) :
    Action → Conn → Prop
  | stay {action : Action} : ConnMoves live id conn action conn
  | notified {action : Action} (receiving : conn.receiving = true) :
      ConnMoves live id conn action
        { conn with
          enqueued := conn.enqueued ++
            [{ envelope := Registry.supersededNotice
               request := none }] }
  | registered {notices : List Outgoing} (phase : conn.phase = .verified)
      (anonymous : ∀ item ∈ notices, item.request = none) :
      ConnMoves live id conn (.register id)
        { conn with
          phase := .greeting
          enqueued := conn.enqueued ++ notices }
  | greeted {written : Bool} (phase : conn.phase = .greeting) :
      ConnMoves live id conn (.hello id written)
        { conn with
          phase := if written then .session [] else .closing false }
  | framed {envelope : Envelope} (phase : conn.phase = .session []) :
      ConnMoves live id conn (.frame id envelope)
        { conn with
          phase := .session (handleFrame envelope)
          received := conn.received ++ [envelope] }
  | resolved {resolution : Resolution} {todo : List Resolution}
      (phase : conn.phase = .session (resolution :: todo)) :
      ConnMoves live id conn (.resolve id)
        { conn with phase := .session todo }
  | wrote {written : Bool} (phase : conn.phase = .session []) :
      ConnMoves live id conn (.outgoing id written)
        { conn with
          written := conn.written + 1
          phase := if written then .session [] else .closing false }
  | closing {action : Action} {certainClose : Bool}
      (phase : conn.phase = .session [])
      (ends : action = .outClosed id ∨ action = .stop id certainClose) :
      ConnMoves live id conn action
        { conn with phase := .closing certainClose }
  | tornDown {certainClose : Bool}
      (phase : conn.phase = .closing certainClose) :
      ConnMoves live id conn (.teardown id)
        { conn with phase := .removed certainClose }
  | finished {certainClose : Bool}
      (phase : conn.phase = .removed certainClose) :
      ConnMoves live id conn (.finish id) { conn with phase := .returned }
  | queued {tx : ReqId} {ts hostname : String} {req : Request}
      (found : live.reqs.get? tx = some req)
      (pc : req.pc = .enrolled id hostname)
      (receiving : conn.receiving = true) :
      ConnMoves live id conn (.send tx ts)
        { conn with
          enqueued := conn.enqueued ++
            [{ envelope := req.call.envelope req.id ts
               request := some tx }] }

/-- Where the row of a connection in the next state comes from. -/
inductive ConnStep (live : Live) (id : ConnId) (conn' : Conn) :
    Action → Prop
  | accepted {tokenId clientId machine : String}
      (absent : live.conns.get? id = none)
      (fresh :
        conn' = { tokenId, clientId, machine, phase := .verified }) :
      ConnStep live id conn' (.auth id tokenId clientId machine)
  | moved {action : Action} {conn : Conn}
      (found : live.conns.get? id = some conn)
      (moves : ConnMoves live id conn action conn') :
      ConnStep live id conn' action

theorem ConnStep.ofSetConn
    {action : Action} {id actor : ConnId} {conn moved conn' : Conn}
    (foundActor : live.conns.get? actor = some conn)
    (moves : ConnMoves live actor conn action moved)
    (found : (live.conns.put actor moved).get? id = some conn') :
    ConnStep live id conn' action := by
  rw [FiniteMap.get?_put] at found
  by_cases same : id = actor
  · subst same
    rw [if_pos rfl] at found
    cases found
    exact .moved foundActor moves
  · rw [if_neg same] at found
    exact .moved found .stay

theorem enqueue_of_receiving
    {conn : Conn} (receiving : conn.receiving = true) (item : Outgoing) :
    conn.enqueue item =
      { conn with enqueued := conn.enqueued ++ [item] } :=
  if_pos receiving

theorem enqueue_of_not_receiving
    {conn : Conn} (gone : conn.receiving = false) (item : Outgoing) :
    conn.enqueue item = conn := by
  unfold Conn.enqueue
  rw [gone]
  rfl

/-- A registration moves the connection and notifies the one it supersedes. -/
theorem ConnStep.ofRegister
    {id actor : ConnId} {conn conn' : Conn}
    (foundActor : live.conns.get? actor = some conn)
    (phase : conn.phase = .verified)
    (found : (live.register actor conn).conns.get? id = some conn') :
    ConnStep live id conn' (.register actor) := by
  have moves :
      ConnMoves live actor conn (.register actor)
        { conn with phase := .greeting } := by
    have silent :=
      @ConnMoves.registered live actor conn [] phase (by
        intro item member
        cases member)
    rw [List.append_nil] at silent
    exact silent
  have shape :
      (live.register actor conn).conns =
        ((live.setConn actor { conn with phase := .greeting }).notify
          (live.registry.get? conn.tokenId)).conns := rfl
  rw [shape] at found
  cases previous : live.registry.get? conn.tokenId with
  | none =>
      rw [previous] at found
      exact .ofSetConn foundActor moves found
  | some entry =>
      rw [previous] at found
      have notified := (FiniteMap.get?_modify _ _ _ _).symm.trans found
      by_cases same : id = entry.outTx
      · rw [if_pos same] at notified
        obtain ⟨row, foundRow, rfl⟩ :=
          Option.map_eq_some_iff.mp notified
        rw [← same] at foundRow
        have foundRow' :=
          (FiniteMap.get?_put _ _ _ _).symm.trans foundRow
        by_cases self : id = actor
        · subst self
          rw [if_pos rfl] at foundRow'
          cases foundRow'
          have anonymous :
              ∀ item ∈
                [({ envelope := Registry.supersededNotice
                    request := none } : Outgoing)],
                item.request = none := by
            intro item member
            rw [List.mem_singleton.mp member]
          have registered :=
            @ConnMoves.registered live id conn _ phase anonymous
          rw [enqueue_of_receiving rfl]
          exact .moved foundActor registered
        · rw [if_neg self] at foundRow'
          cases receiving : row.receiving with
          | true =>
              rw [enqueue_of_receiving receiving]
              exact .moved foundRow' (.notified receiving)
          | false =>
              rw [enqueue_of_not_receiving receiving]
              exact .moved foundRow' .stay
      · rw [if_neg same] at notified
        exact .ofSetConn foundActor moves notified

theorem phase_register
    {id : ConnId} {conn conn' : Conn}
    (found : (live.register id conn).conns.get? id = some conn') :
    conn'.phase = .greeting := by
  have shape :
      (live.register id conn).conns =
        ((live.setConn id { conn with phase := .greeting }).notify
          (live.registry.get? conn.tokenId)).conns := rfl
  rw [shape] at found
  cases previous : live.registry.get? conn.tokenId with
  | none =>
      rw [previous] at found
      cases found.symm.trans (FiniteMap.get?_put_self _ _ _)
      rfl
  | some entry =>
      rw [previous] at found
      have notified := (FiniteMap.get?_modify _ _ _ _).symm.trans found
      by_cases same : id = entry.outTx
      · rw [if_pos same, ← same] at notified
        obtain ⟨row, foundRow, rfl⟩ :=
          Option.map_eq_some_iff.mp notified
        cases foundRow.symm.trans (FiniteMap.get?_put_self _ _ _)
        rfl
      · rw [if_neg same] at notified
        cases notified.symm.trans (FiniteMap.get?_put_self _ _ _)
        rfl

/-- What an action does to the row of a connection. -/
theorem connection_step
    {action : Action} {id : ConnId} {conn' : Conn}
    (stepped : live.step action = some next)
    (found : next.conns.get? id = some conn') :
    ConnStep live id conn' action := by
  cases action with
  | tick elapsed =>
      rw [step_tick stepped] at found
      exact .moved found .stay
  | auth actor tokenId clientId machine =>
      obtain ⟨absent, rfl⟩ := step_auth stepped
      by_cases same : id = actor
      · subst same
        have stored := found.symm.trans (FiniteMap.get?_put_self _ _ _)
        exact .accepted absent (Option.some.inj stored)
      · have kept :=
          found.symm.trans (FiniteMap.get?_put_of_ne _ _ same)
        exact .moved kept.symm .stay
  | register actor =>
      obtain ⟨conn, foundActor, phase, rfl⟩ := step_register stepped
      exact .ofRegister foundActor phase found
  | hello actor written =>
      obtain ⟨conn, foundActor, phase, rfl⟩ := step_hello stepped
      exact .ofSetConn foundActor (.greeted phase) found
  | frame actor envelope =>
      obtain ⟨conn, foundActor, phase, rfl⟩ := step_frame stepped
      exact .ofSetConn foundActor (.framed phase) found
  | resolve actor =>
      obtain ⟨conn, resolution, todo, foundActor, phase, rfl⟩ :=
        step_resolve stepped
      exact .ofSetConn foundActor (.resolved phase) found
  | outgoing actor written =>
      obtain ⟨conn, foundActor, phase, _, rfl⟩ := step_outgoing stepped
      exact .ofSetConn foundActor (.wrote phase) found
  | outClosed actor =>
      obtain ⟨conn, foundActor, phase, _, rfl⟩ := step_outClosed stepped
      exact .ofSetConn foundActor (.closing phase (Or.inl rfl)) found
  | stop actor certainClose =>
      obtain ⟨conn, foundActor, phase, rfl⟩ := step_stop stepped
      exact .ofSetConn foundActor (.closing phase (Or.inr rfl)) found
  | teardown actor =>
      obtain ⟨conn, certainClose, foundActor, phase, rfl⟩ :=
        step_teardown stepped
      exact .ofSetConn foundActor (.tornDown phase) found
  | finish actor =>
      obtain ⟨conn, certainClose, foundActor, phase, rfl⟩ :=
        step_finish stepped
      exact .ofSetConn foundActor (.finished phase) found
  | revoke tokenId =>
      rw [step_revoke stepped] at found
      exact .moved found .stay
  | call caller tokenId envelopeId call =>
      obtain ⟨_, rfl⟩ := step_call stepped
      exact .moved found .stay
  | lookup caller =>
      obtain ⟨req, _, _, ⟨_, rfl⟩ | ⟨entry, _, rfl⟩⟩ :=
        step_lookup stepped
      · exact .moved found .stay
      · exact .moved found .stay
  | enroll caller =>
      obtain ⟨req, outTx, hostname, _, _,
        ⟨_, rfl⟩ | ⟨entry, _, rfl⟩⟩ := step_enroll stepped
      · exact .moved found .stay
      · exact .moved found .stay
  | send caller ts =>
      obtain ⟨req, outTx, hostname, conn, foundCaller, pc, foundActor,
        ⟨receiving, rfl⟩ | ⟨_, rfl⟩⟩ := step_send stepped
      · rw [enqueue_of_receiving receiving] at found
        exact
          .ofSetConn foundActor (.queued foundCaller pc receiving) found
      · exact .moved found .stay
  | recv caller =>
      obtain ⟨req, outTx, hostname, pieces, _, _,
        ⟨event, target, _, _, rfl⟩ | ⟨_, rfl⟩⟩ := step_recv stepped
      · exact .moved found .stay
      · exact .moved found .stay
  | timeout caller =>
      obtain ⟨req, outTx, hostname, pieces, _, _, _, rfl⟩ :=
        step_timeout stepped
      exact .moved found .stay
  | forget caller =>
      obtain ⟨req, outTx, outcome, _, _, _, sameConns, _, _⟩ :=
        step_forget stepped
      rw [sameConns] at found
      exact .moved found .stay
  | check caller =>
      obtain ⟨req, outTx, outcome, _, _, _, rfl⟩ := step_check stepped
      exact .moved found .stay
  | cancel caller =>
      obtain ⟨req, outTx, session, _, _, _, _, sameConns, _, _⟩ :=
        step_cancel stepped
      rw [sameConns] at found
      exact .moved found .stay

/-- No connection leaves the table. -/
theorem connection_kept
    {action : Action} {id : ConnId}
    (stepped : live.step action = some next)
    (present : (live.conns.get? id).isSome = true) :
    (next.conns.get? id).isSome = true :=
  (extends_step stepped).1 id present

end Live

/-- A later row of the same connection. -/
structure Conn.Follows (later earlier : Conn) : Prop where
  token : later.tokenId = earlier.tokenId
  received : earlier.received <+: later.received
  enqueued : earlier.enqueued <+: later.enqueued
  registered : later.phase = .verified → earlier.phase = .verified
  gone : earlier.receiving = false → later.receiving = false

theorem Conn.Follows.refl (conn : Conn) : conn.Follows conn where
  token := rfl
  received := List.prefix_refl _
  enqueued := List.prefix_refl _
  registered := fun verified => verified
  gone := fun gone => gone

theorem Conn.Follows.trans
    {first second third : Conn}
    (later : third.Follows second) (earlier : second.Follows first) :
    third.Follows first where
  token := later.token.trans earlier.token
  received := earlier.received.trans later.received
  enqueued := earlier.enqueued.trans later.enqueued
  registered := fun verified =>
    earlier.registered (later.registered verified)
  gone := fun gone => later.gone (earlier.gone gone)

theorem Conn.receiving_eq_false {conn : Conn} :
    conn.receiving = false ↔ conn.phase = .returned := by
  unfold Conn.receiving
  cases conn.phase <;> simp

/-- The calls a connection still has to make are calls for the last frame it
received. -/
def Conn.Attentive (conn : Conn) : Prop :=
  ∀ todo, conn.phase = .session todo →
    todo = [] ∨
      ∃ envelope, conn.received.getLast? = some envelope ∧
        todo <:+ handleFrame envelope

namespace Live

variable {live next : Live}

theorem ConnMoves.follows
    {id : ConnId} {conn conn' : Conn} {action : Action}
    (moves : ConnMoves live id conn action conn') :
    conn'.Follows conn := by
  have same := Conn.Follows.refl conn
  cases moves with
  | stay => exact same
  | notified receiving =>
      exact { same with enqueued := List.prefix_append _ _ }
  | registered phase anonymous =>
      refine
        { same with
          enqueued := List.prefix_append _ _
          registered := nofun
          gone := ?_ }
      intro gone
      rw [Conn.receiving_eq_false.mp gone] at phase
      cases phase
  | @greeted written phase =>
      refine { same with registered := ?_, gone := ?_ }
      · intro verified
        cases written <;> cases verified
      · intro gone
        rw [Conn.receiving_eq_false.mp gone] at phase
        cases phase
  | framed phase =>
      refine
        { same with
          received := List.prefix_append _ _
          registered := nofun
          gone := ?_ }
      intro gone
      rw [Conn.receiving_eq_false.mp gone] at phase
      cases phase
  | resolved phase =>
      refine { same with registered := nofun, gone := ?_ }
      intro gone
      rw [Conn.receiving_eq_false.mp gone] at phase
      cases phase
  | @wrote written phase =>
      refine { same with registered := ?_, gone := ?_ }
      · intro verified
        cases written <;> cases verified
      · intro gone
        rw [Conn.receiving_eq_false.mp gone] at phase
        cases phase
  | closing phase ends =>
      refine { same with registered := nofun, gone := ?_ }
      intro gone
      rw [Conn.receiving_eq_false.mp gone] at phase
      cases phase
  | tornDown phase =>
      refine { same with registered := nofun, gone := ?_ }
      intro gone
      rw [Conn.receiving_eq_false.mp gone] at phase
      cases phase
  | finished phase =>
      exact { same with registered := nofun, gone := fun _ => rfl }
  | queued found pc receiving =>
      exact { same with enqueued := List.prefix_append _ _ }

/-- The row of a connection after an action follows the row before. -/
theorem conn_follows_step
    {action : Action} {id : ConnId} {conn : Conn}
    (stepped : live.step action = some next)
    (found : live.conns.get? id = some conn) :
    ∃ conn', next.conns.get? id = some conn' ∧ conn'.Follows conn := by
  have kept : (next.conns.get? id).isSome = true :=
    connection_kept stepped (by rw [found]; rfl)
  obtain ⟨conn', found'⟩ := Option.isSome_iff_exists.mp kept
  refine ⟨conn', found', ?_⟩
  cases connection_step stepped found' with
  | accepted absent _ =>
      rw [found] at absent
      cases absent
  | @moved _ origin foundOrigin moves =>
      have same : origin = conn :=
        Option.some.inj (foundOrigin.symm.trans found)
      subst same
      exact moves.follows

/-- A connection with calls to make does nothing else. -/
theorem busy_step
    {action : Action} {id : ConnId} {conn : Conn}
    {resolution : Resolution} {todo : List Resolution}
    (stepped : live.step action = some next)
    (found : live.conns.get? id = some conn)
    (busy : conn.phase = .session (resolution :: todo))
    (other : action ≠ .resolve id) :
    ∃ conn', next.conns.get? id = some conn' ∧
      conn'.tokenId = conn.tokenId ∧ conn'.phase = conn.phase := by
  obtain ⟨conn', found', follows⟩ := conn_follows_step stepped found
  refine ⟨conn', found', follows.token, ?_⟩
  cases connection_step stepped found' with
  | accepted absent _ =>
      rw [found] at absent
      cases absent
  | @moved _ origin foundOrigin moves =>
      cases foundOrigin.symm.trans found
      cases moves with
      | stay => rfl
      | notified _ => rfl
      | queued _ _ _ => rfl
      | resolved _ => exact absurd rfl other
      | registered phase _ | greeted phase | framed phase
      | wrote phase | closing phase _ | tornDown phase
      | finished phase =>
          rw [busy] at phase
          cases phase

/-- The row of a connection after a run follows the row before. -/
theorem conn_follows_run
    {actions : List Action} {target : Live}
    (reached : machine.run live actions = some target)
    {id : ConnId} {conn : Conn}
    (found : live.conns.get? id = some conn) :
    ∃ conn', target.conns.get? id = some conn' ∧ conn'.Follows conn := by
  induction actions generalizing live conn with
  | nil =>
      cases reached
      exact ⟨conn, found, Conn.Follows.refl conn⟩
  | cons action rest inductionHypothesis =>
      obtain ⟨middle, stepped, remaining⟩ :=
        (machine.run_cons_eq_some).mp reached
      obtain ⟨conn', found', follows'⟩ := conn_follows_step stepped found
      obtain ⟨last, foundLast, followsLast⟩ :=
        inductionHypothesis remaining found'
      exact ⟨last, foundLast, followsLast.trans follows'⟩

theorem attentive_of_reachable
    (reachable : machine.Reachable live) :
    ∀ id conn, live.conns.get? id = some conn →
      conn.Attentive := by
  refine
    reachable.invariant
      (fun live => ∀ id conn, live.conns.get? id = some conn →
        conn.Attentive) ?_ ?_
  · intro id conn found
    cases found
  · intro live action next attentive stepped id conn' found
    cases connection_step stepped found with
    | accepted _ fresh =>
        subst fresh
        intro todo phase
        cases phase
    | @moved _ conn foundConn moves =>
        have before := attentive id conn foundConn
        cases moves with
        | stay => exact before
        | notified _ => exact before
        | registered _ _ =>
            intro todo phase
            cases phase
        | @greeted written _ =>
            intro todo phase
            cases written <;> cases phase
            exact Or.inl rfl
        | @framed envelope _ =>
            intro todo phase
            cases phase
            exact Or.inr ⟨envelope, by simp, List.suffix_refl _⟩
        | @resolved resolution rest phase =>
            intro todo phase'
            cases phase'
            rcases before _ phase with empty | ⟨envelope, last, shorter⟩
            · cases empty
            · exact Or.inr
                ⟨envelope, last,
                  (List.suffix_cons resolution _).trans shorter⟩
        | @wrote written _ =>
            intro todo phase
            cases written <;> cases phase
            exact Or.inl rfl
        | closing _ _ =>
            intro todo phase
            cases phase
        | tornDown _ =>
            intro todo phase
            cases phase
        | finished _ =>
            intro todo phase
            cases phase
        | queued _ _ _ => exact before

/-- A registered connection and one a call registered in are past their own
registration. -/
structure Settled (live : Live) : Prop where
  owner :
    ∀ tokenId id, live.owner? tokenId = some id →
      ∃ conn, live.conns.get? id = some conn ∧ conn.phase ≠ .verified
  enrolled :
    ∀ tx req id, live.reqs.get? tx = some req →
      req.enrolledIn = some id →
      ∃ conn, live.conns.get? id = some conn ∧ conn.phase ≠ .verified

/-- A connection past its registration stays past it. -/
theorem settled_conn_step
    {action : Action} {id : ConnId}
    (stepped : live.step action = some next)
    (settled :
      ∃ conn, live.conns.get? id = some conn ∧ conn.phase ≠ .verified) :
    ∃ conn, next.conns.get? id = some conn ∧ conn.phase ≠ .verified := by
  obtain ⟨conn, found, notVerified⟩ := settled
  obtain ⟨conn', found', follows⟩ := conn_follows_step stepped found
  exact
    ⟨conn', found', fun verified => notVerified (follows.registered verified)⟩

theorem Settled.step
    (settled : live.Settled) (coherent : live.Coherent)
    {action : Action} (stepped : live.step action = some next) :
    next.Settled where
  owner := by
    intro tokenId id owned
    cases ownerChange_step stepped tokenId with
    | same same =>
        exact
          settled_conn_step stepped
            (settled.owner tokenId id (same.symm.trans owned))
    | @registered registrant conn found token verified now =>
        have same : registrant = id :=
          Option.some.inj (now.symm.trans owned)
        subst same
        obtain ⟨conn', found', _⟩ := conn_follows_step stepped found
        refine ⟨conn', found', ?_⟩
        obtain ⟨_, _, _, rfl⟩ := step_register stepped
        rw [phase_register found']
        exact nofun
    | tornDown _ _ now =>
        rw [now] at owned
        cases owned
    | revoked now =>
        rw [now] at owned
        cases owned
  enrolled := by
    intro tx req' id found enrolled
    cases request_step coherent stepped found with
    | created _ fresh =>
        subst fresh
        cases enrolled
    | @moved _ req moved _ foundReq _ moves delivered =>
        subst delivered
        refine settled_conn_step stepped ?_
        cases moves with
        | enroll pc present =>
            cases enrolled
            exact
              settled.owner req.tokenId _
                (Registry.owner?_eq_some.mpr ⟨_, present, rfl⟩)
        | _ => exact settled.enrolled tx req id foundReq enrolled

theorem settled_of_reachable (reachable : machine.Reachable live) :
    live.Settled := by
  refine reachable.induction Settled ⟨?_, ?_⟩ ?_
  · intro tokenId id owned
    cases owned
  · intro tx req id found
    cases found
  · intro live action next reachable settled stepped
    exact settled.step (coherent_of_reachable reachable) stepped

end Live

end HollerServer.Wire
