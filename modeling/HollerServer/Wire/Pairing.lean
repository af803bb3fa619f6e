import HollerServer.Wire.Outcomes

/-!
# The channel a call sends on and the entry it waits in

A request function clones the outbound sender under one lock and inserts its
slot under a second one.  `Paired` says of an enrolment that the entry found
the second time is the one the sender came from.  In runs whose enrolments are
all paired a call's frame is queued on the connection it waits on, and on no
other.
-/

namespace HollerServer.Wire

open HollerServer.Proto

/-- The sender a call holds does not change. -/
theorem outTx_of_onEvent
    {outTx outTx' : ConnId} {hostname : String} {pieces : List String}
    {kind : Kind} {event : Event} {pc : Pc}
    (handled : onEvent outTx hostname pieces kind event = some pc)
    (holds : pc.outTx? = some outTx') :
    outTx = outTx' := by
  cases kind <;> cases event <;> simp only [onEvent] at handled <;>
    (try split at handled) <;> cases handled <;> cases holds <;> rfl

theorem outTx_of_onEnded
    {outTx outTx' : ConnId} {kind : Kind}
    (holds : (onEnded outTx kind).outTx? = some outTx') :
    outTx = outTx' := by
  cases kind <;> cases holds <;> rfl

theorem outTx_of_onTimeout
    {outTx outTx' : ConnId} {kind : Kind}
    (holds : (onTimeout outTx kind).outTx? = some outTx') :
    outTx = outTx' := by
  cases kind <;> cases holds <;> rfl

namespace Live

variable {live next : Live}

/-- If the action is an enrolment, the entry now registered for the token is the
one the call cloned its sender from. -/
def Paired (live : Live) : Action → Prop
  | .enroll id =>
      ∀ req outTx hostname, live.reqs.get? id = some req →
        req.pc = .cloned outTx hostname →
        ∀ owner, live.owner? req.tokenId = some owner → owner = outTx
  | _ => True

/-- The frame of the call is on the queue of the connection, or the connection's
task was over and the call reports `Disconnected`. -/
def Routed (live : Live) (tx : ReqId) (req : Request) (owner : ConnId) :
    Prop :=
  (∃ conn ts, live.conns.get? owner = some conn ∧
    { envelope := req.call.envelope req.id ts, request := some tx } ∈
      conn.enqueued) ∨
  (req.pc.outcome? = some req.call.kind.disconnected ∧
    ∃ conn, live.conns.get? owner = some conn ∧ conn.receiving = false)

/-- What holds of senders, queues and slots when all enrolments are paired. -/
structure Pairing (live : Live) : Prop where
  holds :
    ∀ tx req owner outTx, live.reqs.get? tx = some req →
      req.enrolledIn = some owner → req.pc.outTx? = some outTx →
      outTx = owner
  queued :
    ∀ id conn item tx, live.conns.get? id = some conn →
      item ∈ conn.enqueued → item.request = some tx →
      ∃ req, live.reqs.get? tx = some req ∧ req.enrolledIn = some id
  routed :
    ∀ tx req owner, live.reqs.get? tx = some req →
      req.enrolledIn = some owner → req.pc.sent = true →
      Routed live tx req owner

/-- The sender a call holds is still the one of the entry it waits in. -/
theorem Pairing.holds_step
    (pairing : live.Pairing) (coherent : live.Coherent)
    {action : Action} (paired : Paired live action)
    (stepped : live.step action = some next) :
    ∀ tx req owner outTx, next.reqs.get? tx = some req →
      req.enrolledIn = some owner → req.pc.outTx? = some outTx →
      outTx = owner := by
  intro tx req' owner outTx found enrolled holds
  cases request_step coherent stepped found with
  | created _ fresh =>
      subst fresh
      cases enrolled
  | @moved _ req moved _ foundReq _ moves delivered =>
      subst delivered
      have early := (Consistent.sound coherent foundReq).early
      have before := pairing.holds tx req
      cases moves with
      | stay _ => exact before owner outTx foundReq enrolled holds
      | absent _ => cases holds
      | lookup pc _ =>
          have never := early (by rw [pc]; rfl)
          rw [never] at enrolled
          cases enrolled
      | enroll pc present =>
          cases enrolled
          cases holds
          have owned :=
            Registry.owner?_eq_some.mpr ⟨_, present, rfl⟩
          exact (paired req _ _ foundReq pc _ owned).symm
      | send pc _ _ =>
          cases holds
          exact before owner outTx foundReq enrolled (by rw [pc]; rfl)
      | sendFailed pc _ _ =>
          cases holds
          exact before owner outTx foundReq enrolled (by rw [pc]; rfl)
      | event waiting _ handled =>
          have same := outTx_of_onEvent handled holds
          subst same
          exact before owner _ foundReq enrolled (by rw [waiting]; rfl)
      | ended waiting _ =>
          have same := outTx_of_onEnded holds
          subst same
          exact before owner _ foundReq enrolled (by rw [waiting]; rfl)
      | timeout waiting =>
          have same := outTx_of_onTimeout holds
          subst same
          exact before owner _ foundReq enrolled (by rw [waiting]; rfl)
      | forget _ => cases holds
      | lookAgain pc =>
          cases holds
          exact before owner outTx foundReq enrolled (by rw [pc]; rfl)
      | check _ _ => cases holds
      | cancel _ => cases holds

/-- A request frame on a queue belongs to a call that waits on that
connection. -/
theorem Pairing.queued_step
    (pairing : live.Pairing) (coherent : live.Coherent)
    {action : Action} (stepped : live.step action = some next) :
    ∀ id conn item tx, next.conns.get? id = some conn →
      item ∈ conn.enqueued → item.request = some tx →
      ∃ req, next.reqs.get? tx = some req ∧ req.enrolledIn = some id := by
  intro id conn' item tx found member names
  have lift :
      (∃ req, live.reqs.get? tx = some req ∧
        req.enrolledIn = some id) →
      ∃ req, next.reqs.get? tx = some req ∧
        req.enrolledIn = some id := by
    rintro ⟨req, foundReq, enrolled⟩
    obtain ⟨req', foundReq', follows⟩ :=
      follows_step coherent stepped foundReq
    exact ⟨req', foundReq', follows.owner id enrolled⟩
  cases connection_step stepped found with
  | accepted _ fresh =>
      subst fresh
      cases member
  | @moved _ conn foundConn moves =>
      have old :
          item ∈ conn.enqueued →
          ∃ req, next.reqs.get? tx = some req ∧
            req.enrolledIn = some id := fun isOld =>
        lift (pairing.queued id conn item tx foundConn isOld names)
      cases moves with
      | notified _ =>
          rcases List.mem_append.mp member with isOld | isNew
          · exact old isOld
          · cases List.mem_singleton.mp isNew
            cases names
      | registered _ anonymous =>
          rcases List.mem_append.mp member with isOld | isNew
          · exact old isOld
          · rw [anonymous item isNew] at names
            cases names
      | @queued caller ts hostname req foundReq pc _ =>
          rcases List.mem_append.mp member with isOld | isNew
          · exact old isOld
          · cases List.mem_singleton.mp isNew
            cases names
            have registered : req.enrolledIn ≠ none :=
              coherent.enrolled foundReq (by rw [pc]; rfl)
                (by rw [pc]; rfl)
            obtain ⟨owner, enrolled⟩ :=
              Option.ne_none_iff_exists'.mp registered
            have same :=
              pairing.holds tx req owner id foundReq enrolled
                (by rw [pc]; rfl)
            subst same
            exact lift ⟨req, foundReq, enrolled⟩
      | _ => exact old member

/-- A frame that was queued stays queued, and a task that is over stays over. -/
theorem Routed.step
    {tx : ReqId} {req moved : Request} {owner : ConnId} {action : Action}
    (routed : Routed live tx req owner)
    (sameId : moved.id = req.id) (sameCall : moved.call = req.call)
    (sameOutcome :
      req.pc.outcome? = some req.call.kind.disconnected →
        moved.pc.outcome? = some req.call.kind.disconnected)
    (stepped : live.step action = some next) :
    Routed next tx moved owner := by
  rcases routed with
    ⟨conn, ts, found, member⟩ | ⟨outcome, conn, found, gone⟩
  · obtain ⟨conn', found', follows⟩ := conn_follows_step stepped found
    refine Or.inl ⟨conn', ts, found', follows.enqueued.subset ?_⟩
    rw [sameId, sameCall]
    exact member
  · obtain ⟨conn', found', follows⟩ := conn_follows_step stepped found
    refine Or.inr ⟨?_, conn', found', follows.gone gone⟩
    rw [sameCall]
    exact sameOutcome outcome

/-- The send puts the frame on the queue of the channel the call holds, unless
that channel's receiver is gone. -/
theorem routed_send
    {tx : ReqId} {ts : String} {req req' : Request}
    (foundReq : live.reqs.get? tx = some req)
    (stepped : live.step (.send tx ts) = some next)
    (found : next.reqs.get? tx = some req')
    {outTx : ConnId} {hostname : String}
    (pc : req.pc = .enrolled outTx hostname) :
    Routed next tx req' outTx := by
  obtain ⟨req₀, outTx₀, hostname₀, conn, foundReq₀, pc₀, foundConn,
    outcomes⟩ := step_send stepped
  cases foundReq₀.symm.trans foundReq
  cases pc₀.symm.trans pc
  rcases outcomes with ⟨receiving, rfl⟩ | ⟨gone, rfl⟩
  · cases found.symm.trans (FiniteMap.get?_put_self _ _ _)
    refine
      Or.inl ⟨_, ts, FiniteMap.get?_put_self _ _ _, ?_⟩
    rw [enqueue_of_receiving receiving]
    exact List.mem_append_right _ List.mem_cons_self
  · cases found.symm.trans (FiniteMap.get?_put_self _ _ _)
    exact Or.inr ⟨rfl, conn, foundConn, gone⟩

theorem Pairing.routed_step
    (pairing : live.Pairing) (coherent : live.Coherent)
    {action : Action} (stepped : live.step action = some next) :
    ∀ tx req owner, next.reqs.get? tx = some req →
      req.enrolledIn = some owner → req.pc.sent = true →
      Routed next tx req owner := by
  intro tx req' owner found enrolled sent
  cases request_step coherent stepped found with
  | created _ fresh =>
      subst fresh
      cases enrolled
  | @moved _ req moved _ foundReq _ moves delivered =>
      have early := (Consistent.sound coherent foundReq).early
      have before := pairing.routed tx req owner foundReq
      have onSend :
          ∀ {outTx hostname ts}, action = .send tx ts →
            req.pc = .enrolled outTx hostname →
            req.enrolledIn = some owner →
            Routed next tx req' owner := by
        intro outTx hostname ts isSend pc enrolledBefore
        subst isSend
        have same :=
          pairing.holds tx req owner outTx foundReq enrolledBefore
            (by rw [pc]; rfl)
        subst same
        exact routed_send foundReq stepped found pc
      subst delivered
      cases moves with
      | stay _ =>
          exact (before enrolled sent).step rfl rfl id stepped
      | absent isBefore =>
          rw [early isBefore] at enrolled
          cases enrolled
      | lookup pc _ =>
          rw [early (by rw [pc]; rfl)] at enrolled
          cases enrolled
      | enroll _ _ => cases sent
      | send pc _ _ => exact onSend rfl pc enrolled
      | sendFailed pc _ _ => exact onSend rfl pc enrolled
      | event waiting _ _ =>
          refine
            (before enrolled (by rw [waiting]; rfl)).step rfl rfl ?_
              stepped
          rw [waiting]
          exact nofun
      | ended waiting _ =>
          refine
            (before enrolled (by rw [waiting]; rfl)).step rfl rfl ?_
              stepped
          rw [waiting]
          exact nofun
      | timeout waiting =>
          refine
            (before enrolled (by rw [waiting]; rfl)).step rfl rfl ?_
              stepped
          rw [waiting]
          exact nofun
      | forget pc =>
          refine
            (before enrolled (by rw [pc]; rfl)).step rfl rfl ?_ stepped
          rw [pc]
          exact id
      | lookAgain pc =>
          refine
            (before enrolled (by rw [pc]; rfl)).step rfl rfl ?_ stepped
          rw [pc]
          exact nofun
      | check pc _ =>
          refine
            (before enrolled (by rw [pc]; rfl)).step rfl rfl ?_ stepped
          rw [pc]
          exact nofun
      | cancel pc =>
          refine
            (before enrolled (by rw [pc]; rfl)).step rfl rfl ?_ stepped
          rw [pc]
          exact id

theorem Pairing.step
    (pairing : live.Pairing) (coherent : live.Coherent)
    {action : Action} (paired : Paired live action)
    (stepped : live.step action = some next) :
    next.Pairing where
  holds := pairing.holds_step coherent paired stepped
  queued := pairing.queued_step coherent stepped
  routed := pairing.routed_step coherent stepped

theorem pairing_of_run
    {actions : List Action}
    (reached : machine.run machine.init actions = some live)
    (paired : machine.Along Paired machine.init actions) :
    live.Pairing := by
  have both : live.Coherent ∧ live.Pairing := by
    refine
      @Transition.Machine.run_preserves_along _ _ machine Paired
        (fun live => live.Coherent ∧ live.Pairing) ?_ actions
        machine.init live ?_ paired reached
    · intro state action next holds paired stepped
      exact
        ⟨holds.1.step stepped, holds.2.step holds.1 paired stepped⟩
    · refine ⟨Consistent.empty, ?_, ?_, ?_⟩
      · intro tx req owner outTx found
        cases found
      · intro id conn item tx found
        cases found
      · intro tx req owner found
        cases found
  exact both.2

/-- In every run whose enrolments are all paired, a call that registered in the
entry of a connection has no frame on the queue of any other connection; once
it is past its send its frame is on the queue of that connection, unless the
connection's task was over and the call reports `Disconnected`. -/
theorem sent_where_it_waits
    {actions : List Action}
    (reached : machine.run machine.init actions = some live)
    (paired : machine.Along Paired machine.init actions)
    {tx : ReqId} {req : Request} {owner : ConnId}
    (found : live.reqs.get? tx = some req)
    (enrolled : req.enrolledIn = some owner) :
    (∀ id conn item, live.conns.get? id = some conn →
      item ∈ conn.enqueued → item.request = some tx → id = owner) ∧
    (req.pc.sent = true → Routed live tx req owner) := by
  have pairing := pairing_of_run reached paired
  refine ⟨?_, pairing.routed tx req owner found enrolled⟩
  intro id conn item foundConn member names
  obtain ⟨req', found', enrolled'⟩ :=
    pairing.queued id conn item tx foundConn member names
  cases found'.symm.trans found
  exact Option.some.inj (enrolled'.symm.trans enrolled)

/-- A query on a connection that is not superseded meanwhile. -/
def undisturbedQueryRun : List Action :=
  [.auth 0 "t" "client" "host", .register 0,
    .call 0 "t" "q" (.query "status" []), .lookup 0, .enroll 0,
    .send 0 "now"]

theorem sent_where_it_waits_undisturbedQueryRun :
    ∃ conn ts, (after undisturbedQueryRun).conns.get? 0 = some conn ∧
      { envelope := newQueryEnvelope "q" "status" [] ts
        request := some 0 } ∈ conn.enqueued := by
  have reached :
      machine.run machine.init undisturbedQueryRun =
        some (after undisturbedQueryRun) := rfl
  have paired :
      machine.Along Paired machine.init undisturbedQueryRun := by
    refine
      ⟨trivial, fun _ first => ⟨trivial, fun _ second =>
        ⟨trivial, fun _ third => ⟨trivial, fun _ fourth =>
          ⟨?_, fun _ _ => ⟨trivial, fun _ _ => trivial⟩⟩⟩⟩⟩⟩
    cases first
    cases second
    cases third
    cases fourth
    intro req outTx hostname found pc owner owned
    cases found
    cases pc
    cases owned
    rfl
  have routed :=
    (@sent_where_it_waits _ _ reached paired 0 _ 0 rfl rfl).2 rfl
  rcases routed with delivered | ⟨outcome, _⟩
  · exact delivered
  · cases outcome

/-- A reconnect between the two lock sections of a query. -/
def splitQueryRun : List Action :=
  [.auth 0 "t" "client" "host", .register 0,
    .call 0 "t" "q" (.query "status" []), .lookup 0,
    .auth 1 "t" "client" "host", .register 1, .enroll 0, .send 0 "now"]

/-- The query waits in the successor's entry and its frame is on the queue of
the superseded connection only. -/
theorem splitQueryRun_sends_elsewhere :
    ∃ live req old new,
      machine.run machine.init splitQueryRun = some live ∧
      live.reqs.get? 0 = some req ∧ req.enrolledIn = some 1 ∧
      ((live.registry.get? "t").bind fun entry =>
        entry.tx? .query "q") = some 0 ∧
      live.owner? "t" = some 1 ∧
      live.conns.get? 0 = some old ∧ live.conns.get? 1 = some new ∧
      (old.enqueued.map Outgoing.request) = [none, some 0] ∧
      new.enqueued = [] :=
  ⟨_, _, _, _, rfl, rfl, rfl, rfl, rfl, rfl, rfl, rfl, rfl⟩

end Live

end HollerServer.Wire
