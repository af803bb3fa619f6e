import HollerServer.Wire.PromptSlots

/-!
# Interrupts and the prompts they cancel

A prompt returns `Cancelled` only if an interrupt of its session, on its token,
was acknowledged and then ran its cancel section while the prompt was pending.
`Wakes` names the interrupt behind a cancellation.  The section runs some time
after the acknowledgement was handled, so a prompt that registers in between is
cancelled too; `Orderly` excludes that order of steps.
-/

namespace HollerServer.Wire

open HollerServer.Proto

/-- Only the cancellation message makes a call return `Cancelled`. -/
theorem cancelled_of_onEvent
    {outTx : ConnId} {hostname : String} {pieces : List String}
    {kind : Kind} {event : Event} {pc : Pc}
    (handled : onEvent outTx hostname pieces kind event = some pc)
    (bound : pc.outcome? = some (.prompt .cancelled)) :
    event = .cancelled := by
  cases event with
  | cancelled => rfl
  | reply body =>
      cases kind <;> simp only [onEvent] at handled <;>
        try cases handled
      split at handled
      · cases handled
        cases bound
      · cases handled
        cases bound
  | _ =>
      cases kind <;> cases handled
      cases bound

/-- The call may still come to its cancel section. -/
def Pc.mayCancel : Pc → Bool
  | .enrolled _ _ | .waiting _ _ _ | .cancelling _ => true
  | _ => false

/-- The acknowledgement is on the channel of the call, and its cancel section is
still to come. -/
def Request.Acknowledged (req : Request) : Prop :=
  .interruptAck ∈ req.chan.sent ∧ req.pc.mayCancel = true

/-- A call that is bound to return `Cancelled` was sent the message. -/
def Request.CancelBacked (req : Request) : Prop :=
  req.pc.outcome? = some (.prompt .cancelled) →
    .cancelled ∈ req.chan.sent

namespace Live

variable {live next : Live}

theorem Moves.cancelBacked
    {id : ReqId} {req moved : Request} {action : Action}
    (backed : req.CancelBacked)
    (moves : Moves live id req action moved) :
    moved.CancelBacked := by
  intro bound
  cases moves with
  | stay _ => exact backed bound
  | absent _ | sendFailed _ _ _ =>
      cases shape : req.call.kind <;> rw [shape] at bound <;> cases bound
  | lookup _ _ => cases bound
  | enroll _ _ => cases bound
  | send _ _ _ => cases bound
  | event _ ready handled =>
      have member :=
        List.mem_of_getElem? (Channel.poll_eq_ready.mp ready)
      rw [cancelled_of_onEvent handled bound] at member
      exact member
  | ended _ _ | timeout _ =>
      cases shape : req.call.kind <;> rw [shape] at bound <;> cases bound
  | forget pc =>
      cases bound
      exact backed (by rw [pc]; rfl)
  | lookAgain _ => cases bound
  | @check _ present _ _ checked =>
      cases bound
      cases shape : req.call.kind <;> rw [shape] at checked <;>
        cases present <;> cases checked
  | cancel _ => cases bound

theorem cancelBacked_of_reachable
    (reachable : machine.Reachable live) :
    ∀ tx req, live.reqs.get? tx = some req → req.CancelBacked := by
  refine row_of_reachable Request.CancelBacked ?_ ?_ ?_ reachable
  · intro tokenId envelopeId call bound
    cases bound
  · intro live action tx req moved _ backed moves
    exact moves.cancelBacked backed
  · intro req signals backed bound
    rw [Channel.sent_applyAll]
    exact List.mem_append_left _ (backed bound)

/-- A call that has returned stays as it is. -/
theorem returned_step
    (coherent : live.Coherent) {action : Action} {id : ReqId}
    {req : Request} {outcome : Outcome}
    (stepped : live.step action = some next)
    (found : live.reqs.get? id = some req)
    (returned : req.pc = .returned outcome) :
    ∃ req', next.reqs.get? id = some req' ∧
      req'.pc = .returned outcome := by
  obtain ⟨req', found', _⟩ := follows_step coherent stepped found
  refine ⟨req', found', ?_⟩
  cases request_step coherent stepped found' with
  | created absent _ => cases absent.symm.trans found
  | @moved _ origin moved _ foundOrigin _ moves delivered =>
      cases foundOrigin.symm.trans found
      subst delivered
      cases moves with
      | stay _ => exact returned
      | absent before =>
          rw [returned] at before
          cases before
      | lookup pc _ => cases returned.symm.trans pc
      | enroll pc _ => cases returned.symm.trans pc
      | send pc _ _ => cases returned.symm.trans pc
      | sendFailed pc _ _ => cases returned.symm.trans pc
      | event waiting _ _ => cases returned.symm.trans waiting
      | ended waiting _ => cases returned.symm.trans waiting
      | timeout waiting => cases returned.symm.trans waiting
      | forget pc => cases returned.symm.trans pc
      | lookAgain pc => cases returned.symm.trans pc
      | check pc _ => cases returned.symm.trans pc
      | cancel pc => cases returned.symm.trans pc

theorem returned_run
    {actions : List Action} {target : Live}
    (coherent : live.Coherent)
    (reached : machine.run live actions = some target)
    {id : ReqId} {req : Request} {outcome : Outcome}
    (found : live.reqs.get? id = some req)
    (returned : req.pc = .returned outcome) :
    ∃ req', target.reqs.get? id = some req' ∧
      req'.pc = .returned outcome := by
  have both :=
    machine.run_preserves
      (fun live action next (holds : live.Coherent ∧
          ∃ req, live.reqs.get? id = some req ∧
            req.pc = .returned outcome) stepped => by
        obtain ⟨coherent, req, found, returned⟩ := holds
        exact
          ⟨coherent.step stepped,
            returned_step coherent stepped found returned⟩)
      ⟨coherent, req, found, returned⟩ reached
  exact both.2

/-- The interrupt behind a cancellation: in a run over `actions`, the call
`caller`, an interrupt of the session, runs its cancel section, and `tx` is a
prompt of the session that is pending in the entry of its token.  The state and
the row of the interrupt are those before the section. -/
structure Wakes
    (actions : List Action) (before : Live) (caller : ReqId)
    (interrupt : Request) (session : String) (tx : ReqId) : Prop where
  reached :
    ∃ done rest, actions = done ++ .cancel caller :: rest ∧
      machine.run machine.init done = some before
  found : before.reqs.get? caller = some interrupt
  call : interrupt.call = .interrupt session
  cancelling : ∃ outTx, interrupt.pc = .cancelling outTx
  pending : before.registry.Pending interrupt.tokenId session tx

theorem Wakes.extend
    {actions : List Action} {before : Live} {caller tx : ReqId}
    {interrupt : Request} {session : String}
    (wakes : Wakes actions before caller interrupt session tx)
    (action : Action) :
    Wakes (actions ++ [action]) before caller interrupt session tx := by
  obtain ⟨done, rest, split, reached⟩ := wakes.reached
  refine { wakes with reached := ⟨done, rest ++ [action], ?_, reached⟩ }
  rw [split, List.append_assoc, List.cons_append]

/-- The message `Cancelled` comes from the cancel section of an interrupt. -/
theorem cancelled_emitted
    {action : Action} {signals : Signals} {tx : ReqId}
    (stepped : live.step action = some next)
    (emits : Emits live action signals)
    (member : (tx, .send .cancelled) ∈ signals) :
    ∃ caller interrupt session outTx, action = .cancel caller ∧
      live.reqs.get? caller = some interrupt ∧
      interrupt.call = .interrupt session ∧
      interrupt.pc = .cancelling outTx ∧
      live.registry.Pending interrupt.tokenId session tx := by
  cases emits with
  | drops _ silent => exact absurd member (silent tx .cancelled)
  | resolve _ _ =>
      obtain ⟨_, _, _, _, yields⟩ := Registry.mem_perform member
      cases yields
  | @cancel caller interrupt session found call =>
      obtain ⟨interrupt', outTx, _, found', cancelling, _⟩ :=
        step_cancel stepped
      cases found'.symm.trans found
      exact
        ⟨caller, interrupt, session, outTx, rfl, found, call, cancelling,
          (Registry.mem_cancel.mp member).2⟩

/-- Every `Cancelled` on a request channel has an interrupt behind it. -/
theorem cancellation_has_interrupt
    {actions : List Action}
    (reached : machine.run machine.init actions = some live) :
    ∀ tx req, live.reqs.get? tx = some req →
      .cancelled ∈ req.chan.sent →
      ∃ before caller interrupt session,
        Wakes actions before caller interrupt session tx := by
  refine
    @Transition.Machine.run_induction _ _ machine
      (fun actions live => ∀ tx req,
        live.reqs.get? tx = some req → .cancelled ∈ req.chan.sent →
        ∃ before caller interrupt session,
          Wakes actions before caller interrupt session tx) ?_ ?_
      actions live reached
  · intro tx req found
    cases found
  · intro actions live action next reached traced stepped tx req' found
      member
    have coherent := coherent_of_reachable ⟨actions, reached⟩
    rcases mem_sent_step coherent stepped found member with
      ⟨req, foundReq, old⟩ | ⟨signals, emits, new⟩
    · obtain ⟨before, caller, interrupt, session, wakes⟩ :=
        traced tx req foundReq old
      exact ⟨before, caller, interrupt, session, wakes.extend action⟩
    · obtain ⟨caller, interrupt, session, outTx, rfl, foundCaller,
        call, cancelling, pending⟩ :=
        cancelled_emitted stepped emits new
      exact
        ⟨live, caller, interrupt, session,
          { reached := ⟨actions, [], rfl, reached⟩
            found := foundCaller
            call := call
            cancelling := ⟨outTx, cancelling⟩
            pending := pending }⟩

/-- What is left of the run from the cancel section on. -/
theorem Wakes.remaining
    {actions : List Action} {before : Live} {caller tx : ReqId}
    {interrupt : Request} {session : String}
    (reached : machine.run machine.init actions = some live)
    (wakes : Wakes actions before caller interrupt session tx) :
    machine.Reachable before ∧
      ∃ rest, machine.run before (.cancel caller :: rest) = some live := by
  obtain ⟨done, rest, split, reachedBefore⟩ := wakes.reached
  rw [split, machine.run_append_of_eq_some reachedBefore] at reached
  exact ⟨⟨done, reachedBefore⟩, rest, reached⟩

/-- The interrupt behind a cancellation returns `Acked`. -/
theorem Wakes.interrupt_run
    {actions : List Action} {before : Live} {caller tx : ReqId}
    {interrupt : Request} {session : String}
    (reached : machine.run machine.init actions = some live)
    (wakes : Wakes actions before caller interrupt session tx) :
    ∃ last, live.reqs.get? caller = some last ∧
      last.tokenId = interrupt.tokenId ∧ last.id = interrupt.id ∧
      last.call = .interrupt session ∧
      last.pc = .returned (.interrupt .acked) := by
  obtain ⟨reachable, rest, remaining⟩ := wakes.remaining reached
  have coherent := coherent_of_reachable reachable
  obtain ⟨last, foundLast, follows⟩ :=
    follows_run coherent remaining wakes.found
  obtain ⟨next, cancels, finished⟩ :=
    (machine.run_cons_eq_some).mp remaining
  have stepped : before.step (.cancel caller) = some next := cancels
  obtain ⟨_, _, _, foundCaller, _, _, _, _, _, sameReqs⟩ :=
    step_cancel stepped
  have acked :
      ∃ row, next.reqs.get? caller = some row ∧
        row.pc = .returned (.interrupt .acked) := by
    rw [sameReqs, FiniteMap.get?_modify, if_pos rfl,
      get?_deliver_of_found foundCaller]
    exact ⟨_, rfl, rfl⟩
  obtain ⟨row, foundRow, returned⟩ := acked
  have coherentNext : next.Coherent := coherent.step stepped
  obtain ⟨last', foundLast', returnedLast⟩ :=
    returned_run coherentNext finished foundRow returned
  cases foundLast'.symm.trans foundLast
  exact
    ⟨last, foundLast, follows.token, follows.id,
      follows.call.trans wakes.call, returnedLast⟩

/-- What an interrupt cancels is a prompt on its token, for its session. -/
theorem Wakes.prompt_run
    {actions : List Action} {before : Live} {caller tx : ReqId}
    {interrupt : Request} {session : String}
    (reached : machine.run machine.init actions = some live)
    (wakes : Wakes actions before caller interrupt session tx) :
    ∃ last, live.reqs.get? tx = some last ∧
      last.tokenId = interrupt.tokenId ∧
      last.call.promptSession? = some session := by
  obtain ⟨reachable, rest, remaining⟩ := wakes.remaining reached
  obtain ⟨prompt, found, token, ofSession⟩ :=
    pending_of_reachable reachable _ _ _ wakes.pending
  obtain ⟨last, foundLast, follows⟩ :=
    follows_run (coherent_of_reachable reachable) remaining found
  refine ⟨last, foundLast, follows.token.trans token, ?_⟩
  rw [follows.call]
  exact ofSession

/-- A prompt that returned `Cancelled` was woken by an interrupt on its token, for
its session. -/
theorem wakes_of_returned
    {actions : List Action} {tx : ReqId} {req : Request}
    (reached : machine.run machine.init actions = some live)
    (found : live.reqs.get? tx = some req)
    (returned : req.pc = .returned (.prompt .cancelled)) :
    ∃ before caller interrupt session,
      Wakes actions before caller interrupt session tx ∧
      req.tokenId = interrupt.tokenId ∧
      req.call.promptSession? = some session := by
  have member :=
    cancelBacked_of_reachable ⟨actions, reached⟩ tx req found
      (by rw [returned]; rfl)
  obtain ⟨before, caller, interrupt, session, wakes⟩ :=
    cancellation_has_interrupt reached tx req found member
  obtain ⟨prompt, foundPrompt, token, ofSession⟩ :=
    wakes.prompt_run reached
  cases foundPrompt.symm.trans found
  exact ⟨before, caller, interrupt, session, wakes, token, ofSession⟩

/-- The step puts `Cancelled` on the channel of the call. -/
def Cancelled (live next : Live) (tx : ReqId) : Prop :=
  ∃ req req' events, live.reqs.get? tx = some req ∧
    next.reqs.get? tx = some req' ∧
    req'.chan.sent = req.chan.sent ++ events ∧ .cancelled ∈ events

/-- Only an interrupt in its cancel section puts `Cancelled` on a channel, and
only on those of the pending prompts of its session. -/
theorem interrupt_of_cancelled
    (coherent : live.Coherent) {action : Action} {tx : ReqId}
    (stepped : live.step action = some next)
    (cancelled : Cancelled live next tx) :
    ∃ caller interrupt session outTx, action = .cancel caller ∧
      live.reqs.get? caller = some interrupt ∧
      interrupt.call = .interrupt session ∧
      interrupt.pc = .cancelling outTx ∧
      live.registry.Pending interrupt.tokenId session tx := by
  obtain ⟨req, req', events, found, found', grown, member⟩ := cancelled
  cases request_step coherent stepped found' with
  | created absent _ => cases absent.symm.trans found
  | @moved _ origin moved signals foundOrigin emits moves delivered =>
      cases foundOrigin.symm.trans found
      subst delivered
      obtain ⟨_, sameSent, _⟩ :=
        moves.follows (Consistent.sound coherent found).early
      have sameEvents :
          (signalsTo tx signals).filterMap Signal.item? = events := by
        refine List.append_cancel_left (Eq.trans ?_ grown)
        rw [Channel.sent_applyAll, sameSent]
      rw [← sameEvents] at member
      obtain ⟨signal, addressed, carries⟩ := List.mem_filterMap.mp member
      cases signal with
      | drop => cases carries
      | send event =>
          cases carries
          exact
            cancelled_emitted stepped emits (mem_signalsTo.mp addressed)

/-- The row of a call after the cancel section of another. -/
theorem row_cancel
    {caller tx : ReqId} {interrupt : Request} {session : String}
    (stepped : live.step (.cancel caller) = some next)
    (found : live.reqs.get? caller = some interrupt)
    (call : interrupt.call = .interrupt session)
    (other : tx ≠ caller) :
    next.reqs.get? tx =
      (live.reqs.get? tx).map fun req =>
        { req with
          chan := req.chan.applyAll
            (signalsTo tx
              (live.registry.cancelPendingPromptsForSession
                interrupt.tokenId session)) } := by
  obtain ⟨_, _, _, found', _, call', _, _, _, sameReqs⟩ :=
    step_cancel stepped
  cases found'.symm.trans found
  cases call'.symm.trans call
  rw [sameReqs, FiniteMap.get?_modify, if_neg other, get?_deliver]

/-- The cancel section of an interrupt reaches every pending prompt of its
session. -/
theorem cancelled_of_pending
    (reachable : machine.Reachable live)
    {caller tx : ReqId} {interrupt : Request} {session : String}
    (stepped : live.step (.cancel caller) = some next)
    (found : live.reqs.get? caller = some interrupt)
    (call : interrupt.call = .interrupt session)
    (pending : live.registry.Pending interrupt.tokenId session tx) :
    Cancelled live next tx := by
  obtain ⟨prompt, foundPrompt, _, ofSession⟩ :=
    pending_of_reachable reachable _ _ _ pending
  have other : tx ≠ caller := by
    rintro rfl
    cases found.symm.trans foundPrompt
    rw [call] at ofSession
    cases ofSession
  have row := row_cancel stepped found call other
  rw [foundPrompt] at row
  refine ⟨prompt, _, _, foundPrompt, row, Channel.sent_applyAll _ _, ?_⟩
  have member := Registry.mem_cancel.mpr ⟨rfl, pending⟩
  exact
    List.mem_filterMap.mpr
      ⟨.send .cancelled, mem_signalsTo.mpr member, rfl⟩

/-- The cancel section of an interrupt leaves every other call alone. -/
theorem unchanged_of_not_pending
    {caller tx : ReqId} {interrupt : Request} {session : String}
    (stepped : live.step (.cancel caller) = some next)
    (found : live.reqs.get? caller = some interrupt)
    (call : interrupt.call = .interrupt session)
    (other : tx ≠ caller)
    (notPending :
      ¬ live.registry.Pending interrupt.tokenId session tx) :
    next.reqs.get? tx = live.reqs.get? tx := by
  have noSignals :
      signalsTo tx
        (live.registry.cancelPendingPromptsForSession
          interrupt.tokenId session) = [] := by
    refine List.eq_nil_iff_forall_not_mem.mpr ?_
    intro signal member
    exact notPending (Registry.mem_cancel.mp (mem_signalsTo.mp member)).2
  rw [row_cancel stepped found call other, noSignals]
  cases live.reqs.get? tx with
  | none => rfl
  | some req => rfl

theorem Moves.mayCancel
    {id : ReqId} {req moved : Request} {action : Action}
    (moves : Moves live id req action moved)
    (later : moved.pc.mayCancel = true) :
    req.pc.mayCancel = true ∨ req.pc.before = true := by
  cases moves with
  | stay _ => exact Or.inl later
  | enroll pc _ => exact Or.inr (by rw [pc]; rfl)
  | send pc _ _ => exact Or.inl (by rw [pc]; rfl)
  | event waiting _ _ => exact Or.inl (by rw [waiting]; rfl)
  | ended waiting _ => exact Or.inl (by rw [waiting]; rfl)
  | timeout waiting => exact Or.inl (by rw [waiting]; rfl)
  | _ => cases later

/-- An interrupt of the session was acknowledged and has not yet cancelled. -/
def AwaitsCancel (live : Live) (tokenId session : String) : Prop :=
  ∃ caller interrupt, live.reqs.get? caller = some interrupt ∧
    interrupt.tokenId = tokenId ∧
    interrupt.call = .interrupt session ∧ interrupt.Acknowledged

/-- No prompt registers for a session between the acknowledgement of an
interrupt of the session and its cancel section. -/
def Orderly (live : Live) : Action → Prop
  | .enroll tx =>
      ∀ req session, live.reqs.get? tx = some req →
        req.call.promptSession? = some session →
        ¬ live.AwaitsCancel req.tokenId session
  | _ => True

/-- In an orderly step the pending prompts of a session that awaits a
cancellation were pending before. -/
theorem pending_step
    {action : Action} {tokenId session : String} {tx : ReqId}
    (orderly : Orderly live action)
    (stepped : live.step action = some next)
    (awaits : live.AwaitsCancel tokenId session)
    (pending : next.registry.Pending tokenId session tx) :
    live.registry.Pending tokenId session tx := by
  obtain ⟨id, stored⟩ := pending
  rcases prompt?_step stepped stored with
    old | ⟨req, rfl, found, token, _, ofSession⟩
  · exact ⟨id, old⟩
  · have quiet := orderly req session found ofSession
    rw [token] at quiet
    exact absurd awaits quiet

/-- Every prompt that an acknowledged interrupt is about to cancel was pending
when the acknowledgement was handled. -/
theorem pending_since_acknowledged
    {actions : List Action}
    (orderly : machine.Along Orderly machine.init actions)
    (reached : machine.run machine.init actions = some live) :
    ∀ caller interrupt session,
      live.reqs.get? caller = some interrupt →
      interrupt.call = .interrupt session → interrupt.Acknowledged →
      ∃ before id conn envelope,
        Feeds actions before id conn envelope caller .interruptAck ∧
        ∀ tx, live.registry.Pending interrupt.tokenId session tx →
          before.registry.Pending interrupt.tokenId session tx := by
  refine
    @Transition.Machine.run_induction_along _ _ machine Orderly
      (fun actions live => ∀ caller interrupt session,
        live.reqs.get? caller = some interrupt →
        interrupt.call = .interrupt session → interrupt.Acknowledged →
        ∃ before id conn envelope,
          Feeds actions before id conn envelope caller .interruptAck ∧
          ∀ tx, live.registry.Pending interrupt.tokenId session tx →
            before.registry.Pending interrupt.tokenId session tx)
      ?_ ?_ actions live orderly reached
  · intro caller interrupt session found
    cases found
  · intro actions live action next reached known orderly stepped caller
      interrupt' session found call acknowledged
    have reachable : machine.Reachable live := ⟨actions, reached⟩
    have coherent := coherent_of_reachable reachable
    cases request_step coherent stepped found with
    | created _ fresh =>
        subst fresh
        cases acknowledged.1
    | @moved _ interrupt moved signals foundReq emits moves delivered =>
        subst delivered
        have sound := Consistent.sound coherent foundReq
        obtain ⟨follows, sameSent, _⟩ := moves.follows sound.early
        have sameCall : interrupt.call = .interrupt session :=
          follows.call.symm.trans call
        rcases Consistent.mem_sent_applyAll acknowledged.1 with
          old | new
        · rw [sameSent] at old
          have mayCancel : interrupt.pc.mayCancel = true := by
            refine (moves.mayCancel acknowledged.2).resolve_right ?_
            intro early
            rw [(sound.untouched (sound.early early)).1] at old
            cases old
          obtain ⟨before, id, conn, envelope, feeds, since⟩ :=
            known caller interrupt session foundReq sameCall
              ⟨old, mayCancel⟩
          have awaits : live.AwaitsCancel interrupt.tokenId session :=
            ⟨caller, interrupt, foundReq, rfl, sameCall, old, mayCancel⟩
          refine
            ⟨before, id, conn, envelope, feeds.extend action, ?_⟩
          rw [follows.token]
          intro tx pending
          exact since tx (pending_step orderly stepped awaits pending)
        · cases emits with
          | drops _ silent => exact absurd new (silent _ _)
          | cancel _ _ =>
              cases Registry.mem_cancelPendingPromptsForSession new
          | @resolve id conn resolution todo foundConn phase =>
              rcases attentive_of_reachable reachable id conn foundConn
                _ phase with empty | ⟨envelope, last, _⟩
              · cases empty
              · refine
                  ⟨live, id, conn, envelope,
                    { reached := ⟨actions, [], rfl, reached⟩
                      found := foundConn
                      last := last
                      sent := ⟨resolution, todo, phase, new⟩ }, ?_⟩
                rintro tx ⟨slotId, stored⟩
                have resolves : live.step (.resolve id) = some next :=
                  stepped
                rcases prompt?_step resolves stored with
                  same | ⟨_, notResolve, _⟩
                · exact ⟨slotId, same⟩
                · cases notResolve

/-- The acknowledgement behind a cancellation, in an orderly run: a connection
of the token handled it while the prompt was pending. -/
theorem Wakes.acknowledged
    {actions : List Action} {before : Live} {caller tx : ReqId}
    {interrupt : Request} {session : String}
    (orderly : machine.Along Orderly machine.init actions)
    (wakes : Wakes actions before caller interrupt session tx) :
    ∃ acked id conn envelope,
      Feeds actions acked id conn envelope caller .interruptAck ∧
      conn.tokenId = interrupt.tokenId ∧
      Event.interruptAck.CarriedBy interrupt.id envelope ∧
      acked.registry.Pending interrupt.tokenId session tx := by
  obtain ⟨done, rest, split, reached⟩ := wakes.reached
  obtain ⟨outTx, cancelling⟩ := wakes.cancelling
  obtain ⟨event, member, decides⟩ :=
    backed_of_reachable ⟨done, reached⟩ caller interrupt wakes.found
      (.interrupt .acked) (by rw [cancelling]; rfl) rfl
  have isAck : event = .interruptAck := by
    cases event <;> first | rfl | cases decides
  subst isAck
  rw [split] at orderly
  obtain ⟨acked, id, conn, envelope, feeds, since⟩ :=
    pending_since_acknowledged orderly.of_append.1 reached caller
      interrupt session wakes.found wakes.call
      ⟨member, by rw [cancelling]; rfl⟩
  obtain ⟨row, foundRow, token, _, carried⟩ :=
    feeds.addressee_run reached
  cases foundRow.symm.trans wakes.found
  refine
    ⟨acked, id, conn, envelope, ?_, token.symm, carried,
      since tx wakes.pending⟩
  obtain ⟨earlier, later, split', reached'⟩ := feeds.reached
  refine
    { feeds with
      reached := ⟨earlier, later ++ .cancel caller :: rest, ?_, reached'⟩ }
  rw [split, split', List.append_assoc, List.cons_append]

/-- Cancellation is sound, scoped and complete per session, in every run in
which no prompt registers for a session between the acknowledgement of an
interrupt of the session and its cancel section.

A prompt returns `Cancelled` only if a connection of its token handled the
acknowledgement of an interrupt on the same token and session while the prompt
was pending.  `Cancelled` is put on a channel only by an interrupt of the same
token and session, in its cancel section; no other interrupt reaches that
section than one that returns `Acked`; and the section reaches every prompt of
the session that is pending in the current entry of the token. -/
theorem cancellation_sound_and_complete
    {actions : List Action}
    (reached : machine.run machine.init actions = some live)
    (orderly : machine.Along Orderly machine.init actions) :
    (∀ tx req session, live.reqs.get? tx = some req →
      req.call.promptSession? = some session →
      req.pc = .returned (.prompt .cancelled) →
      ∃ caller interrupt acked id conn envelope,
        live.reqs.get? caller = some interrupt ∧
        interrupt.tokenId = req.tokenId ∧
        interrupt.call = .interrupt session ∧
        Feeds actions acked id conn envelope caller .interruptAck ∧
        conn.tokenId = req.tokenId ∧
        Event.interruptAck.CarriedBy interrupt.id envelope ∧
        acked.registry.Pending req.tokenId session tx) ∧
    (∀ done action rest before next tx,
      actions = done ++ action :: rest →
      machine.run machine.init done = some before →
      before.step action = some next → Cancelled before next tx →
      ∃ caller interrupt prompt session, action = .cancel caller ∧
        live.reqs.get? caller = some interrupt ∧
        live.reqs.get? tx = some prompt ∧
        prompt.tokenId = interrupt.tokenId ∧
        prompt.call.promptSession? = some session ∧
        interrupt.call = .interrupt session ∧
        interrupt.pc = .returned (.interrupt .acked)) ∧
    (∀ done caller rest before next,
      actions = done ++ .cancel caller :: rest →
      machine.run machine.init done = some before →
      before.step (.cancel caller) = some next →
      ∃ interrupt session, before.reqs.get? caller = some interrupt ∧
        interrupt.call = .interrupt session ∧
        ∀ tx, before.registry.Pending interrupt.tokenId session tx →
          Cancelled before next tx) := by
  refine ⟨?_, ?_, ?_⟩
  · intro tx req session found ofSession returned
    obtain ⟨before, caller, interrupt, session', wakes, token,
      sameSession⟩ := wakes_of_returned reached found returned
    cases sameSession.symm.trans ofSession
    obtain ⟨last, foundLast, sameToken, sameId, call, _⟩ :=
      wakes.interrupt_run reached
    obtain ⟨acked, id, conn, envelope, feeds, connToken, carried,
      pending⟩ := wakes.acknowledged orderly
    refine
      ⟨caller, last, acked, id, conn, envelope, foundLast,
        sameToken.trans token.symm, call, feeds,
        connToken.trans token.symm, ?_, ?_⟩
    · rw [sameId]
      exact carried
    · rw [token]
      exact pending
  · intro done action rest before next tx split reachedBefore stepped
      cancelled
    have coherent := coherent_of_reachable ⟨done, reachedBefore⟩
    obtain ⟨caller, interrupt, session, outTx, rfl, foundCaller, call,
      cancelling, pending⟩ :=
      interrupt_of_cancelled coherent stepped cancelled
    have wakes : Wakes actions before caller interrupt session tx :=
      { reached := ⟨done, rest, split, reachedBefore⟩
        found := foundCaller
        call := call
        cancelling := ⟨outTx, cancelling⟩
        pending := pending }
    obtain ⟨prompt, foundPrompt, token, ofSession⟩ :=
      wakes.prompt_run reached
    obtain ⟨last, foundLast, sameToken, _, sameCall, returned⟩ :=
      wakes.interrupt_run reached
    exact
      ⟨caller, last, prompt, session, rfl, foundLast, foundPrompt,
        token.trans sameToken.symm, ofSession, sameCall, returned⟩
  · intro done caller rest before next split reachedBefore stepped
    obtain ⟨interrupt, _, session, foundCaller, _, call, _⟩ :=
      step_cancel stepped
    refine ⟨interrupt, session, foundCaller, call, ?_⟩
    intro tx pending
    exact
      cancelled_of_pending ⟨done, reachedBefore⟩ stepped foundCaller call
        pending

/-- A prompt is cancelled by an interrupt that is sent after it. -/
def interruptedRun : List Action :=
  [.auth 0 "t" "client" "host", .register 0, .hello 0 true,
    .call 0 "t" "p" (.prompt "s" "hi" none), .lookup 0, .enroll 0,
    .send 0 "now",
    .call 1 "t" "i" (.interrupt "s"), .lookup 1, .enroll 1,
    .send 1 "now",
    .frame 0 (serverEnvelope .ack "x" "now" (.ack ⟨some "i"⟩)),
    .resolve 0, .resolve 0, .recv 1, .cancel 1, .recv 0, .forget 0]

theorem orderly_interruptedRun :
    machine.Along Orderly machine.init interruptedRun := by
  unfold interruptedRun
  iterate 5 refine machine.along_cons rfl trivial ?_
  refine machine.along_cons rfl ?_ ?_
  · rintro req session _ _ ⟨caller, interrupt, found, _, call, _⟩
    have stored :=
      (FiniteMap.get?_put _ _ _ _).symm.trans found
    split at stored
    next =>
      cases stored
      cases call
    next different =>
      have earlier :=
        (FiniteMap.get?_put_of_ne _ _ different).symm.trans stored
      cases earlier
  · iterate 3 refine machine.along_cons rfl trivial ?_
    refine machine.along_cons rfl ?_ ?_
    · intro req session found ofSession
      cases found
      cases ofSession
    · iterate 8 refine machine.along_cons rfl trivial ?_
      trivial

theorem cancellation_sound_and_complete_interruptedRun :
    ∃ req, (after interruptedRun).reqs.get? 0 = some req ∧
      req.pc = .returned (.prompt .cancelled) ∧
      ∃ caller interrupt acked id conn envelope,
        (after interruptedRun).reqs.get? caller = some interrupt ∧
        interrupt.tokenId = "t" ∧ interrupt.call = .interrupt "s" ∧
        Feeds interruptedRun acked id conn envelope caller
          .interruptAck ∧
        conn.tokenId = "t" ∧
        Event.interruptAck.CarriedBy interrupt.id envelope ∧
        acked.registry.Pending "t" "s" 0 := by
  have reached :
      machine.run machine.init interruptedRun =
        some (after interruptedRun) := rfl
  refine ⟨_, rfl, rfl, ?_⟩
  exact
    (cancellation_sound_and_complete reached orderly_interruptedRun).1
      0 _ "s" rfl rfl rfl

/-- The prompt registers after the acknowledgement of the interrupt was handled
and before the interrupt wakes. -/
def lateCancelRun : List Action :=
  [.auth 0 "t" "client" "host", .register 0, .hello 0 true,
    .call 1 "t" "i" (.interrupt "s"), .lookup 1, .enroll 1,
    .send 1 "now",
    .frame 0 (serverEnvelope .ack "x" "now" (.ack ⟨some "i"⟩)),
    .resolve 0, .resolve 0,
    .call 0 "t" "p" (.prompt "s" "hi" none), .lookup 0, .enroll 0,
    .send 0 "now", .recv 1, .cancel 1, .recv 0, .forget 0]

/-- The prompt returns `Cancelled`, and no frame at all was handled while it was
pending. -/
theorem lateCancelRun_cancels_later_prompt :
    ∃ req, (after lateCancelRun).reqs.get? 0 = some req ∧
      machine.run machine.init lateCancelRun =
        some (after lateCancelRun) ∧
      req.tokenId = "t" ∧ req.call.promptSession? = some "s" ∧
      req.pc = .returned (.prompt .cancelled) ∧
      ∀ acked id conn envelope caller,
        Feeds lateCancelRun acked id conn envelope caller
          .interruptAck →
        ¬ acked.registry.Pending "t" "s" 0 := by
  refine ⟨_, rfl, rfl, rfl, rfl, rfl, ?_⟩
  intro acked id conn envelope caller feeds pending
  obtain ⟨done, rest, split, reached⟩ := feeds.reached
  have enrolled := enroll_mem_of_pending reached _ _ _ pending
  simp only [lateCancelRun, List.cons_eq_append_iff, List.nil_eq,
    List.append_eq_nil_iff, reduceCtorEq, and_false, false_and, or_false,
    exists_false, false_or, List.cons.injEq] at split
  obtain ⟨_, rfl, _, rfl, _, rfl, _, rfl, _, rfl, _, rfl, _, rfl, _, rfl,
    ⟨rfl, _⟩ | ⟨_, rfl, rfl, _⟩⟩ := split
  · simp at enrolled
  · simp at enrolled

end Live

end HollerServer.Wire
