import HollerServer.Wire.Live

/-!
# What each action does

One inversion lemma for each action of the machine: when it is enabled, and the
state it leads to.  Proofs about the machine use these and never unfold the
step function.  What becomes of the registry alone is `registryChange_step`.
-/

namespace HollerServer.Wire.Live

open HollerServer.Proto

attribute [local simp] step connStep reqStep

variable {live next : Live}

theorem step_tick {elapsed : Nat}
    (stepped : live.step (.tick elapsed) = some next) :
    next = { live with now := live.now + elapsed } := by
  cases stepped
  rfl

theorem step_auth {id : ConnId} {tokenId clientId machine : String}
    (stepped :
      live.step (.auth id tokenId clientId machine) = some next) :
    live.conns.get? id = none ∧
      next = live.setConn id
        { tokenId, clientId, machine, phase := .verified } := by
  simp only [step] at stepped
  split at stepped
  next absent =>
    cases stepped
    exact ⟨absent, rfl⟩
  next => cases stepped

theorem step_register {id : ConnId}
    (stepped : live.step (.register id) = some next) :
    ∃ conn, live.conns.get? id = some conn ∧
      conn.phase = .verified ∧ next = live.register id conn := by
  obtain ⟨conn, found, moved⟩ := Option.bind_eq_some_iff.mp stepped
  simp only [connStep] at moved
  split at moved
  next phase =>
    cases moved
    exact ⟨conn, found, phase, rfl⟩
  next => cases moved

theorem step_hello {id : ConnId} {written : Bool}
    (stepped : live.step (.hello id written) = some next) :
    ∃ conn, live.conns.get? id = some conn ∧
      conn.phase = .greeting ∧
      next = live.setConn id
        { conn with
          phase := if written then .session [] else .closing false } := by
  obtain ⟨conn, found, moved⟩ := Option.bind_eq_some_iff.mp stepped
  simp only [connStep] at moved
  split at moved
  next phase =>
    cases moved
    exact ⟨conn, found, phase, rfl⟩
  next => cases moved

theorem step_frame {id : ConnId} {envelope : Envelope}
    (stepped : live.step (.frame id envelope) = some next) :
    ∃ conn, live.conns.get? id = some conn ∧
      conn.phase = .session [] ∧
      next = live.setConn id
        { conn with
          phase := .session (handleFrame envelope)
          received := conn.received ++ [envelope] } := by
  obtain ⟨conn, found, moved⟩ := Option.bind_eq_some_iff.mp stepped
  simp only [connStep] at moved
  split at moved
  next phase =>
    cases moved
    exact ⟨conn, found, phase, rfl⟩
  next => cases moved

theorem step_resolve {id : ConnId}
    (stepped : live.step (.resolve id) = some next) :
    ∃ conn resolution todo, live.conns.get? id = some conn ∧
      conn.phase = .session (resolution :: todo) ∧
      next =
        (live.commit
          (live.registry.perform conn.tokenId live.now resolution)).setConn
          id { conn with phase := .session todo } := by
  obtain ⟨conn, found, moved⟩ := Option.bind_eq_some_iff.mp stepped
  simp only [connStep] at moved
  split at moved
  next resolution todo phase =>
    cases moved
    exact ⟨conn, resolution, todo, found, phase, rfl⟩
  next => cases moved

theorem step_outgoing {id : ConnId} {written : Bool}
    (stepped : live.step (.outgoing id written) = some next) :
    ∃ conn, live.conns.get? id = some conn ∧
      conn.phase = .session [] ∧
      conn.written < conn.enqueued.length ∧
      next = live.setConn id
        { conn with
          written := conn.written + 1
          phase := if written then .session [] else .closing false } := by
  obtain ⟨conn, found, moved⟩ := Option.bind_eq_some_iff.mp stepped
  simp only [connStep] at moved
  split at moved
  next phase =>
    split at moved
    next unread =>
      cases moved
      exact ⟨conn, found, phase, unread, rfl⟩
    next => cases moved
  next => cases moved

theorem step_outClosed {id : ConnId}
    (stepped : live.step (.outClosed id) = some next) :
    ∃ conn, live.conns.get? id = some conn ∧
      conn.phase = .session [] ∧
      (conn.enqueued.length ≤ conn.written ∧
        live.hasSender id = false) ∧
      next = live.setConn id { conn with phase := .closing false } := by
  obtain ⟨conn, found, moved⟩ := Option.bind_eq_some_iff.mp stepped
  simp only [connStep] at moved
  split at moved
  next phase =>
    split at moved
    next ended =>
      cases moved
      exact ⟨conn, found, phase, ended, rfl⟩
    next => cases moved
  next => cases moved

theorem step_stop {id : ConnId} {certainClose : Bool}
    (stepped : live.step (.stop id certainClose) = some next) :
    ∃ conn, live.conns.get? id = some conn ∧
      conn.phase = .session [] ∧
      next = live.setConn id
        { conn with phase := .closing certainClose } := by
  obtain ⟨conn, found, moved⟩ := Option.bind_eq_some_iff.mp stepped
  simp only [connStep] at moved
  split at moved
  next phase =>
    cases moved
    exact ⟨conn, found, phase, rfl⟩
  next => cases moved

theorem step_teardown {id : ConnId}
    (stepped : live.step (.teardown id) = some next) :
    ∃ conn certainClose, live.conns.get? id = some conn ∧
      conn.phase = .closing certainClose ∧
      next = (live.removeEntry conn.tokenId).setConn id
        { conn with phase := .removed certainClose } := by
  obtain ⟨conn, found, moved⟩ := Option.bind_eq_some_iff.mp stepped
  simp only [connStep] at moved
  split at moved
  next certainClose phase =>
    cases moved
    exact ⟨conn, certainClose, found, phase, rfl⟩
  next => cases moved

theorem step_finish {id : ConnId}
    (stepped : live.step (.finish id) = some next) :
    ∃ conn certainClose, live.conns.get? id = some conn ∧
      conn.phase = .removed certainClose ∧
      next = live.setConn id { conn with phase := .returned } := by
  obtain ⟨conn, found, moved⟩ := Option.bind_eq_some_iff.mp stepped
  simp only [connStep] at moved
  split at moved
  next certainClose phase =>
    cases moved
    exact ⟨conn, certainClose, found, phase, rfl⟩
  next => cases moved

theorem step_revoke {tokenId : String}
    (stepped : live.step (.revoke tokenId) = some next) :
    next = live.removeEntry tokenId := by
  cases stepped
  rfl

theorem step_call {id : ReqId} {tokenId envelopeId : String} {call : Call}
    (stepped :
      live.step (.call id tokenId envelopeId call) = some next) :
    live.reqs.get? id = none ∧
      next = live.setReq id { tokenId, id := envelopeId, call } := by
  simp only [step] at stepped
  split at stepped
  next absent =>
    cases stepped
    exact ⟨absent, rfl⟩
  next => cases stepped

theorem step_lookup {id : ReqId}
    (stepped : live.step (.lookup id) = some next) :
    ∃ req, live.reqs.get? id = some req ∧ req.pc = .start ∧
      ((live.registry.get? req.tokenId = none ∧
          next = live.setReq id
            { req with pc := .returned req.call.kind.disconnected }) ∨
        ∃ entry, live.registry.get? req.tokenId = some entry ∧
          next = live.setReq id
            { req with pc := .cloned entry.outTx entry.hostname }) := by
  obtain ⟨req, found, moved⟩ := Option.bind_eq_some_iff.mp stepped
  simp only [reqStep] at moved
  split at moved
  next pc =>
    split at moved
    next absent =>
      cases moved
      exact ⟨req, found, pc, .inl ⟨absent, rfl⟩⟩
    next entry present =>
      cases moved
      exact ⟨req, found, pc, .inr ⟨entry, present, rfl⟩⟩
  next => cases moved

theorem step_enroll {id : ReqId}
    (stepped : live.step (.enroll id) = some next) :
    ∃ req outTx hostname, live.reqs.get? id = some req ∧
      req.pc = .cloned outTx hostname ∧
      ((live.registry.get? req.tokenId = none ∧
          next = live.setReq id
            { req with pc := .returned req.call.kind.disconnected }) ∨
        ∃ entry, live.registry.get? req.tokenId = some entry ∧
          next =
            (live.commit
              (live.registry.setEntry req.tokenId
                (entry.enroll req.call req.id id live.now),
              (entry.tx? req.call.kind req.id).toList.map
                fun old => (old, .drop))).setReq id
              { req with
                pc := .enrolled outTx hostname
                enrolledIn := some entry.outTx }) := by
  obtain ⟨req, found, moved⟩ := Option.bind_eq_some_iff.mp stepped
  simp only [reqStep, Registry.enroll] at moved
  split at moved
  next outTx hostname pc =>
    cases present : live.registry.get? req.tokenId with
    | none =>
        simp only [present, Option.map_none] at moved
        cases moved
        exact ⟨req, outTx, hostname, found, pc, .inl ⟨present, rfl⟩⟩
    | some entry =>
        simp only [present, Option.map_some] at moved
        cases moved
        exact
          ⟨req, outTx, hostname, found, pc, .inr ⟨entry, present, rfl⟩⟩
  next => cases moved

theorem step_send {id : ReqId} {ts : String}
    (stepped : live.step (.send id ts) = some next) :
    ∃ req outTx hostname conn, live.reqs.get? id = some req ∧
      req.pc = .enrolled outTx hostname ∧
      live.conns.get? outTx = some conn ∧
      ((conn.receiving = true ∧
          next =
            (live.setConn outTx <| conn.enqueue
              { envelope := req.call.envelope req.id ts
                request := some id }).setReq id
              { req with pc := .waiting outTx hostname [] }) ∨
        (conn.receiving = false ∧
          next = live.setReq id
            { req with
              pc := .forgetting outTx
                (some req.call.kind.disconnected) })) := by
  obtain ⟨req, found, moved⟩ := Option.bind_eq_some_iff.mp stepped
  simp only [reqStep] at moved
  split at moved
  next outTx hostname pc =>
    split at moved
    next conn present =>
      split at moved
      next receiving =>
        cases moved
        exact
          ⟨req, outTx, hostname, conn, found, pc, present,
            .inl ⟨receiving, rfl⟩⟩
      next gone =>
        cases moved
        exact
          ⟨req, outTx, hostname, conn, found, pc, present,
            .inr ⟨by simpa using gone, rfl⟩⟩
    next => cases moved
  next => cases moved

theorem step_recv {id : ReqId}
    (stepped : live.step (.recv id) = some next) :
    ∃ req outTx hostname pieces, live.reqs.get? id = some req ∧
      req.pc = .waiting outTx hostname pieces ∧
      ((∃ event pc, req.chan.poll = .ready event ∧
          onEvent outTx hostname pieces req.call.kind event = some pc ∧
          next = live.setReq id { req with pc, chan := req.chan.take }) ∨
        (req.chan.poll = .ended ∧
          next = live.setReq id
            { req with pc := onEnded outTx req.call.kind })) := by
  obtain ⟨req, found, moved⟩ := Option.bind_eq_some_iff.mp stepped
  simp only [reqStep] at moved
  split at moved
  next outTx hostname pieces pc =>
    split at moved
    next event ready =>
      obtain ⟨target, handled, rfl⟩ := Option.map_eq_some_iff.mp moved
      exact
        ⟨req, outTx, hostname, pieces, found, pc,
          .inl ⟨event, target, ready, handled, rfl⟩⟩
    next ended =>
      cases moved
      exact
        ⟨req, outTx, hostname, pieces, found, pc, .inr ⟨ended, rfl⟩⟩
    next => cases moved
  next => cases moved

theorem step_timeout {id : ReqId}
    (stepped : live.step (.timeout id) = some next) :
    ∃ req outTx hostname pieces, live.reqs.get? id = some req ∧
      req.pc = .waiting outTx hostname pieces ∧
      req.chan.poll = .pending ∧
      next = live.setReq id
        { req with pc := onTimeout outTx req.call.kind } := by
  obtain ⟨req, found, moved⟩ := Option.bind_eq_some_iff.mp stepped
  simp only [reqStep] at moved
  split at moved
  next outTx hostname pieces pc =>
    split at moved
    next pending =>
      cases moved
      exact ⟨req, outTx, hostname, pieces, found, pc, pending, rfl⟩
    next => cases moved
  next => cases moved

theorem step_forget {id : ReqId}
    (stepped : live.step (.forget id) = some next) :
    ∃ req outTx outcome, live.reqs.get? id = some req ∧
      req.pc = .forgetting outTx outcome ∧
      next.now = live.now ∧ next.conns = live.conns ∧
      next.registry =
        (live.registry.forgetSlot req.call.kind req.tokenId req.id).1 ∧
      next.reqs =
        (deliver live.reqs
          (live.registry.forgetSlot
            req.call.kind req.tokenId req.id).2).modify id
          fun current =>
            { current with
              pc := match outcome with
                | some outcome => .returned outcome
                | none => .checking outTx } := by
  obtain ⟨req, found, moved⟩ := Option.bind_eq_some_iff.mp stepped
  simp only [reqStep] at moved
  split at moved
  next outTx outcome pc =>
    have sameForget :
        live.registry.forgetFor req.call.kind req.tokenId req.id =
          live.registry.forgetSlot req.call.kind req.tokenId req.id := by
      cases req.call.kind <;> rfl
    rw [sameForget] at moved
    cases moved
    exact ⟨req, outTx, outcome, found, pc, rfl, rfl, rfl, rfl⟩
  next => cases moved

theorem step_check {id : ReqId}
    (stepped : live.step (.check id) = some next) :
    ∃ req outTx outcome, live.reqs.get? id = some req ∧
      req.pc = .checking outTx ∧
      onCheck (live.registry.get? req.tokenId).isSome req.call.kind =
        some outcome ∧
      next = live.setReq id { req with pc := .returned outcome } := by
  obtain ⟨req, found, moved⟩ := Option.bind_eq_some_iff.mp stepped
  simp only [reqStep] at moved
  split at moved
  next outTx pc =>
    obtain ⟨outcome, checked, rfl⟩ := Option.map_eq_some_iff.mp moved
    exact ⟨req, outTx, outcome, found, pc, checked, rfl⟩
  next => cases moved

theorem step_cancel {id : ReqId}
    (stepped : live.step (.cancel id) = some next) :
    ∃ req outTx session, live.reqs.get? id = some req ∧
      req.pc = .cancelling outTx ∧
      req.call = .interrupt session ∧
      next.now = live.now ∧ next.conns = live.conns ∧
      next.registry = live.registry ∧
      next.reqs =
        (deliver live.reqs
          (live.registry.cancelPendingPromptsForSession
            req.tokenId session)).modify id
          fun current =>
            { current with pc := .returned (.interrupt .acked) } := by
  obtain ⟨req, found, moved⟩ := Option.bind_eq_some_iff.mp stepped
  simp only [reqStep] at moved
  split at moved
  next outTx pc =>
    obtain ⟨session, cancels, rfl⟩ := Option.map_eq_some_iff.mp moved
    have interrupt : req.call = .interrupt session := by
      cases shape : req.call <;> simp [shape, Call.cancels?] at cancels
      rw [cancels]
    exact
      ⟨req, outTx, session, found, pc, interrupt, rfl, rfl, rfl, rfl⟩
  next => cases moved

theorem resolve_enabled
    {connId : ConnId} {conn : Conn} {resolution : Resolution}
    {todo : List Resolution}
    (foundConn : live.conns.get? connId = some conn)
    (phase : conn.phase = .session (resolution :: todo)) :
    live.step (.resolve connId) =
      some ((live.commit
        (live.registry.perform conn.tokenId live.now resolution)).setConn
        connId { conn with phase := .session todo }) := by
  simp only [step, foundConn, Option.bind_some, connStep, phase]

theorem now_register (live : Live) (id : ConnId) (conn : Conn) :
    (live.register id conn).now = live.now := by
  simp only [register, Registry.insert]
  cases live.registry.get? conn.tokenId with
  | none => rfl
  | some previous => rfl

/-- The time that passes with an action. -/
def elapsed : Action → Nat
  | .tick elapsed => elapsed
  | _ => 0

/-- Only a tick lets time pass. -/
theorem now_step {action : Action}
    (stepped : live.step action = some next) :
    next.now = live.now + elapsed action := by
  cases action with
  | tick elapsed =>
      rw [step_tick stepped]
      rfl
  | auth id tokenId clientId machine =>
      obtain ⟨_, rfl⟩ := step_auth stepped
      rfl
  | register id =>
      obtain ⟨conn, _, _, rfl⟩ := step_register stepped
      exact now_register live id conn
  | hello id written =>
      obtain ⟨_, _, _, rfl⟩ := step_hello stepped
      rfl
  | frame id envelope =>
      obtain ⟨_, _, _, rfl⟩ := step_frame stepped
      rfl
  | resolve id =>
      obtain ⟨_, _, _, _, _, rfl⟩ := step_resolve stepped
      rfl
  | outgoing id written =>
      obtain ⟨_, _, _, _, rfl⟩ := step_outgoing stepped
      rfl
  | outClosed id =>
      obtain ⟨_, _, _, _, rfl⟩ := step_outClosed stepped
      rfl
  | stop id certainClose =>
      obtain ⟨_, _, _, rfl⟩ := step_stop stepped
      rfl
  | teardown id =>
      obtain ⟨_, _, _, _, rfl⟩ := step_teardown stepped
      rfl
  | finish id =>
      obtain ⟨_, _, _, _, rfl⟩ := step_finish stepped
      rfl
  | revoke tokenId =>
      rw [step_revoke stepped]
      rfl
  | call id tokenId envelopeId call =>
      obtain ⟨_, rfl⟩ := step_call stepped
      rfl
  | lookup id =>
      obtain ⟨_, _, _, ⟨_, rfl⟩ | ⟨_, _, rfl⟩⟩ := step_lookup stepped
      · rfl
      · rfl
  | enroll id =>
      obtain ⟨_, _, _, _, _, ⟨_, rfl⟩ | ⟨_, _, rfl⟩⟩ :=
        step_enroll stepped
      · rfl
      · rfl
  | send id ts =>
      obtain ⟨_, _, _, _, _, _, _, ⟨_, rfl⟩ | ⟨_, rfl⟩⟩ :=
        step_send stepped
      · rfl
      · rfl
  | recv id =>
      obtain ⟨_, _, _, _, _, _, ⟨_, _, _, _, rfl⟩ | ⟨_, rfl⟩⟩ :=
        step_recv stepped
      · rfl
      · rfl
  | timeout id =>
      obtain ⟨_, _, _, _, _, _, _, rfl⟩ := step_timeout stepped
      rfl
  | forget id =>
      obtain ⟨_, _, _, _, _, sameNow, _⟩ := step_forget stepped
      exact sameNow
  | check id =>
      obtain ⟨_, _, _, _, _, _, rfl⟩ := step_check stepped
      rfl
  | cancel id =>
      obtain ⟨_, _, _, _, _, _, sameNow, _⟩ := step_cancel stepped
      exact sameNow

theorem registry_register (live : Live) (id : ConnId) (conn : Conn) :
    (live.register id conn).registry =
      (live.registry.insert
        conn.tokenId conn.clientId conn.machine id).1 :=
  rfl

/-- What an action does to the registry. -/
inductive RegistryChange (live next : Live) : Action → Prop
  | same {action : Action} (same : next.registry = live.registry) :
      RegistryChange live next action
  | registered {id : ConnId} {conn : Conn}
      (found : live.conns.get? id = some conn)
      (verified : conn.phase = .verified)
      (now :
        next.registry =
          (live.registry.insert
            conn.tokenId conn.clientId conn.machine id).1) :
      RegistryChange live next (.register id)
  | performed {id : ConnId} {conn : Conn} {resolution : Resolution}
      {todo : List Resolution}
      (found : live.conns.get? id = some conn)
      (phase : conn.phase = .session (resolution :: todo))
      (now :
        next.registry =
          (live.registry.perform conn.tokenId live.now resolution).1) :
      RegistryChange live next (.resolve id)
  | tornDown {id : ConnId} {conn : Conn}
      (found : live.conns.get? id = some conn)
      (now : next.registry = (live.registry.remove conn.tokenId).1) :
      RegistryChange live next (.teardown id)
  | revoked {tokenId : String}
      (now : next.registry = (live.registry.remove tokenId).1) :
      RegistryChange live next (.revoke tokenId)
  | enrolled {id : ReqId} {req : Request} {entry : Entry}
      (found : live.reqs.get? id = some req)
      (present : live.registry.get? req.tokenId = some entry)
      (now :
        next.registry =
          live.registry.setEntry req.tokenId
            (entry.enroll req.call req.id id live.now)) :
      RegistryChange live next (.enroll id)
  | forgotten {id : ReqId} {req : Request}
      (found : live.reqs.get? id = some req)
      (now :
        next.registry =
          (live.registry.forgetSlot
            req.call.kind req.tokenId req.id).1) :
      RegistryChange live next (.forget id)

/-- Six kinds of actions change the registry, each by one of its functions. -/
theorem registryChange_step {action : Action}
    (stepped : live.step action = some next) :
    RegistryChange live next action := by
  cases action with
  | tick elapsed =>
      rw [step_tick stepped]
      exact .same rfl
  | auth id tokenId clientId machine =>
      obtain ⟨_, rfl⟩ := step_auth stepped
      exact .same rfl
  | register id =>
      obtain ⟨conn, found, verified, rfl⟩ := step_register stepped
      exact .registered found verified (registry_register live id conn)
  | hello id written =>
      obtain ⟨_, _, _, rfl⟩ := step_hello stepped
      exact .same rfl
  | frame id envelope =>
      obtain ⟨_, _, _, rfl⟩ := step_frame stepped
      exact .same rfl
  | resolve id =>
      obtain ⟨conn, resolution, todo, found, phase, rfl⟩ :=
        step_resolve stepped
      exact .performed found phase rfl
  | outgoing id written =>
      obtain ⟨_, _, _, _, rfl⟩ := step_outgoing stepped
      exact .same rfl
  | outClosed id =>
      obtain ⟨_, _, _, _, rfl⟩ := step_outClosed stepped
      exact .same rfl
  | stop id certainClose =>
      obtain ⟨_, _, _, rfl⟩ := step_stop stepped
      exact .same rfl
  | teardown id =>
      obtain ⟨conn, certainClose, found, _, rfl⟩ := step_teardown stepped
      exact .tornDown found rfl
  | finish id =>
      obtain ⟨_, _, _, _, rfl⟩ := step_finish stepped
      exact .same rfl
  | revoke tokenId =>
      rw [step_revoke stepped]
      exact .revoked rfl
  | call id tokenId envelopeId call =>
      obtain ⟨_, rfl⟩ := step_call stepped
      exact .same rfl
  | lookup id =>
      obtain ⟨_, _, _, ⟨_, rfl⟩ | ⟨_, _, rfl⟩⟩ := step_lookup stepped
      · exact .same rfl
      · exact .same rfl
  | enroll id =>
      obtain ⟨req, outTx, hostname, found, _,
        ⟨_, rfl⟩ | ⟨entry, present, rfl⟩⟩ := step_enroll stepped
      · exact .same rfl
      · exact .enrolled found present rfl
  | send id ts =>
      obtain ⟨_, _, _, _, _, _, _, ⟨_, rfl⟩ | ⟨_, rfl⟩⟩ :=
        step_send stepped
      · exact .same rfl
      · exact .same rfl
  | recv id =>
      obtain ⟨_, _, _, _, _, _, ⟨_, _, _, _, rfl⟩ | ⟨_, rfl⟩⟩ :=
        step_recv stepped
      · exact .same rfl
      · exact .same rfl
  | timeout id =>
      obtain ⟨_, _, _, _, _, _, _, rfl⟩ := step_timeout stepped
      exact .same rfl
  | forget id =>
      obtain ⟨req, outTx, outcome, found, _, _, _, now, _⟩ :=
        step_forget stepped
      exact .forgotten found now
  | check id =>
      obtain ⟨_, _, _, _, _, _, rfl⟩ := step_check stepped
      exact .same rfl
  | cancel id =>
      obtain ⟨_, _, _, _, _, _, _, _, sameRegistry, _⟩ :=
        step_cancel stepped
      exact .same sameRegistry

end HollerServer.Wire.Live
