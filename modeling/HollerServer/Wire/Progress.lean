import HollerServer.Lib.Potential
import HollerServer.Wire.Peers
import HollerServer.Wire.PendingSlots
import HollerServer.Wire.Turns

/-!
# Calls come to an end

No request call is ever stuck, whatever the other calls and the connection tasks
do: until it has returned it can take a step of its own, and only when there is
nothing to read and nobody has dropped its sender half is that step the timer.
And its steps are few: six for a call other than a prompt, and one more for each
reply a prompt reads.
-/

namespace HollerServer.Wire

open HollerServer.Proto
open Transition

/-- The position belongs to a call of this kind. -/
def Pc.Fits (kind : Kind) : Pc → Prop
  | .forgetting _ none | .checking _ => kind = .interrupt ∨ kind = .answer
  | .cancelling _ => kind = .interrupt
  | _ => True

/-- The kind of call that returns such an outcome. -/
def Outcome.kind : Outcome → Kind
  | .ping _ => .ping
  | .query _ => .query
  | .prompt _ => .prompt
  | .interrupt _ => .interrupt
  | .answer _ => .answer

/-- How many steps a call takes at most from here, not counting the replies it
goes on waiting after. -/
def Pc.rank : Pc → Nat
  | .start => 6
  | .cloned _ _ => 5
  | .enrolled _ _ => 4
  | .waiting _ _ _ => 3
  | .forgetting _ _ => 2
  | .checking _ => 1
  | .cancelling _ => 1
  | .returned _ => 0

/-- A reply after which the prompt waits for more. -/
def Event.isPiece : Event → Bool
  | .reply body => !body.done
  | _ => false

/-- The reply pieces that were sent to a prompt. -/
def Request.pieces (req : Request) : Nat :=
  if req.call.kind = .prompt then req.chan.sent.countP Event.isPiece else 0

/-- The pieces a prompt has read pay for the steps that read them. -/
def Request.credit (req : Request) : Nat :=
  if req.call.kind = .prompt then
    (req.chan.sent.take req.chan.taken).countP Event.isPiece
  else 0

theorem Request.credit_le_pieces (req : Request) :
    req.credit ≤ req.pieces := by
  unfold credit pieces
  split
  · exact (List.take_sublist _ _).countP_le
  · exact Nat.le_refl _

/-- Reading a message adds to the credit if it is a piece. -/
theorem Request.credit_take
    {req : Request} {event : Event} (pc : Pc)
    (ready : req.chan.poll = .ready event) :
    ({ req with pc, chan := req.chan.take } : Request).credit =
      req.credit +
        if req.call.kind = .prompt ∧ event.isPiece = true then 1 else 0 := by
  have next : req.chan.sent[req.chan.taken]? = some event :=
    Channel.poll_eq_ready.mp ready
  unfold credit
  by_cases isPrompt : req.call.kind = .prompt
  · simp only [isPrompt, if_true, true_and, Channel.take, List.take_add_one,
      next, Option.toList_some, List.countP_append, List.countP_singleton]
  · simp only [isPrompt, if_false, false_and]

/-- Messages that arrive leave what was read. -/
theorem Request.credit_le_applyAll
    (req : Request) (signals : List (Signal Event)) :
    req.credit ≤
      ({ req with chan := req.chan.applyAll signals } : Request).credit := by
  unfold credit
  split
  · simp only [Channel.taken_applyAll, Channel.sent_applyAll,
      List.take_append, List.countP_append]
    exact Nat.le_add_right _ _
  · exact Nat.le_refl _

namespace Live

variable {live next : Live} {action : Action} {tx : ReqId}
  {req moved : Request} {outTx : ConnId}

theorem fits_of_onEvent
    {hostname : String} {pieces : List String} {kind : Kind}
    {event : Event} {pc : Pc}
    (handled : onEvent outTx hostname pieces kind event = some pc) :
    pc.Fits kind := by
  unfold onEvent at handled
  split at handled
  case h_4 body =>
      simp only at handled
      split at handled <;> cases handled <;> trivial
  all_goals cases handled
  all_goals first | rfl | trivial

theorem fits_of_onTimeout (kind : Kind) :
    (onTimeout outTx kind).Fits kind := by
  cases kind <;> simp [onTimeout, Pc.Fits]

theorem fits_of_onEnded (kind : Kind) :
    (onEnded outTx kind).Fits kind := by
  cases kind <;> trivial

theorem Moves.fits
    (fits : req.pc.Fits req.call.kind)
    (moves : Moves live tx req action moved) :
    moved.pc.Fits moved.call.kind := by
  cases moves with
  | stay other => exact fits
  | absent before => trivial
  | lookup pc present => trivial
  | enroll pc present => trivial
  | send pc found receiving => trivial
  | sendFailed pc found gone => trivial
  | event waiting ready handled => exact fits_of_onEvent handled
  | ended waiting ended => exact fits_of_onEnded _
  | timeout waiting => exact fits_of_onTimeout _
  | forget pc => trivial
  | lookAgain pc =>
      rw [pc] at fits
      exact fits
  | check pc checked => trivial
  | cancel pc => trivial

theorem fits_of_reachable (reachable : machine.Reachable live) :
    ∀ tx req, live.reqs.get? tx = some req →
      req.pc.Fits req.call.kind := by
  refine
    row_of_reachable (fun req => req.pc.Fits req.call.kind) ?_ ?_ ?_
      reachable
  · intro tokenId envelopeId call
    trivial
  · intro live action tx req moved _ fits moves
    exact moves.fits fits
  · intro req signals fits
    exact fits

theorem kind_disconnected (kind : Kind) : kind.disconnected.kind = kind := by
  cases kind <;> rfl

theorem kind_of_onEvent
    {hostname : String} {pieces : List String} {kind : Kind}
    {event : Event} {pc : Pc} {outcome : Outcome}
    (handled : onEvent outTx hostname pieces kind event = some pc)
    (bound : pc.outcome? = some outcome) : outcome.kind = kind := by
  unfold onEvent at handled
  split at handled
  case h_4 body =>
      simp only at handled
      split at handled <;> cases handled <;> cases bound
      rfl
  all_goals cases handled
  all_goals cases bound
  all_goals rfl

theorem kind_of_onEnded {kind : Kind} {outcome : Outcome}
    (bound : (onEnded outTx kind).outcome? = some outcome) :
    outcome.kind = kind := by
  cases kind <;> cases bound <;> rfl

theorem kind_of_onTimeout {kind : Kind} {outcome : Outcome}
    (bound : (onTimeout outTx kind).outcome? = some outcome) :
    outcome.kind = kind := by
  cases kind <;> cases bound <;> rfl

theorem kind_of_onCheck {present : Bool} {kind : Kind} {outcome : Outcome}
    (checked : onCheck present kind = some outcome) :
    outcome.kind = kind := by
  cases kind <;> cases checked <;> rfl

/-- A call is bound to an outcome of its own kind. -/
def OutcomeFits (req : Request) : Prop :=
  ∀ outcome, req.pc.outcome? = some outcome →
    outcome.kind = req.call.kind

theorem Moves.outcomeFits (fits : OutcomeFits req)
    (moves : Moves live tx req action moved) : OutcomeFits moved := by
  intro outcome bound
  cases moves with
  | stay other => exact fits outcome bound
  | absent before =>
      cases bound
      exact kind_disconnected _
  | lookup pc present => cases bound
  | enroll pc present => cases bound
  | send pc found receiving => cases bound
  | sendFailed pc found gone =>
      cases bound
      exact kind_disconnected _
  | event waiting ready handled => exact kind_of_onEvent handled bound
  | ended waiting ended => exact kind_of_onEnded bound
  | timeout waiting => exact kind_of_onTimeout bound
  | forget pc =>
      cases bound
      exact fits outcome (by rw [pc]; rfl)
  | lookAgain pc => cases bound
  | check pc checked =>
      cases bound
      exact kind_of_onCheck checked
  | cancel pc =>
      cases bound
      exact fits _ (by rw [pc]; rfl)

theorem outcomeFits_of_reachable (reachable : machine.Reachable live) :
    ∀ tx req, live.reqs.get? tx = some req → OutcomeFits req := by
  refine row_of_reachable OutcomeFits ?_ ?_ ?_ reachable
  · intro tokenId envelopeId call outcome bound
    cases bound
  · intro live action tx req moved _ fits moves
    exact moves.outcomeFits fits
  · intro req signals fits
    exact fits

theorem held_of_reachable (reachable : machine.Reachable live) :
    live.Held := by
  refine reachable.induction Held ?_ ?_
  · intro tx req id found
    cases found
  · intro live action next reachable held stepped
    exact
      held.step (settled_of_reachable reachable)
        (coherent_of_reachable reachable) stepped

/-! ## A call that has not returned can go on -/

/-- A step of the call that does not wait for its timer. -/
def GoesOn (live : Live) (tx : ReqId) : Prop :=
  ∃ action, action.caller? = some tx ∧ action ≠ .timeout tx ∧
    (live.step action).isSome = true

theorem goesOn_of_reqStep
    (action : Action) (found : live.reqs.get? tx = some req)
    (own : action.caller? = some tx) (untimed : action ≠ .timeout tx)
    (enabled : (live.reqStep tx req action).isSome = true) :
    live.GoesOn tx := by
  refine ⟨action, own, untimed, ?_⟩
  cases action <;> cases own <;>
    first
    | cases enabled
    | simpa only [step, found, Option.bind_some] using enabled

theorem can_go_on
    (reachable : machine.Reachable live)
    (found : live.reqs.get? tx = some req)
    (running : req.pc.isReturned = false) :
    live.GoesOn tx ∨
      ((∃ outTx hostname pieces, req.pc = .waiting outTx hostname pieces) ∧
        req.chan.poll = .pending ∧
        (live.step (.timeout tx)).isSome = true) := by
  have fits := fits_of_reachable reachable tx req found
  cases pc : req.pc with
  | start =>
      refine
        Or.inl (goesOn_of_reqStep (.lookup tx) found rfl (by simp) ?_)
      simp only [reqStep, pc]
      split <;> rfl
  | cloned outTx hostname =>
      refine
        Or.inl (goesOn_of_reqStep (.enroll tx) found rfl (by simp) ?_)
      simp only [reqStep, pc]
      split <;> rfl
  | enrolled outTx hostname =>
      obtain ⟨conn, foundConn, _⟩ :=
        held_of_reachable reachable tx req outTx found (by rw [pc]; rfl)
      refine
        Or.inl (goesOn_of_reqStep (.send tx "") found rfl (by simp) ?_)
      simp only [reqStep, pc, foundConn]
      split <;> rfl
  | waiting outTx hostname pieces =>
      cases polled : req.chan.poll with
      | ready event =>
          have member : event ∈ req.chan.sent :=
            List.mem_of_getElem? (Channel.poll_eq_ready.mp polled)
          have kind :=
            (Consistent.sound (coherent_of_reachable reachable)
              found).fits event member
          refine
            Or.inl (goesOn_of_reqStep (.recv tx) found rfl (by simp) ?_)
          simp only [reqStep, pc, polled, Option.isSome_map]
          exact onEvent_isSome outTx hostname pieces kind
      | ended =>
          refine
            Or.inl (goesOn_of_reqStep (.recv tx) found rfl (by simp) ?_)
          simp only [reqStep, pc, polled]
          rfl
      | pending =>
          refine Or.inr ⟨⟨outTx, hostname, pieces, rfl⟩, rfl, ?_⟩
          simp only [step, found, Option.bind_some, reqStep, pc, polled]
          rfl
  | forgetting outTx outcome =>
      refine
        Or.inl (goesOn_of_reqStep (.forget tx) found rfl (by simp) ?_)
      simp only [reqStep, pc]
      rfl
  | checking outTx =>
      rw [pc] at fits
      refine
        Or.inl (goesOn_of_reqStep (.check tx) found rfl (by simp) ?_)
      simp only [reqStep, pc, Option.isSome_map]
      rcases fits with kind | kind
      · rw [kind]
        rfl
      · rw [kind]
        rfl
  | cancelling outTx =>
      rw [pc] at fits
      refine
        Or.inl (goesOn_of_reqStep (.cancel tx) found rfl (by simp) ?_)
      simp only [reqStep, pc, Option.isSome_map]
      cases call : req.call <;> rw [call] at fits <;>
        first
        | rfl
        | cases fits
  | returned outcome =>
      rw [pc] at running
      cases running

/-! ## A call takes few steps -/

theorem rank_of_onEvent
    {hostname : String} {pieces : List String} {kind : Kind}
    {event : Event} {pc : Pc}
    (handled : onEvent outTx hostname pieces kind event = some pc) :
    pc.rank < 3 ∨
      pc.rank = 3 ∧ kind = .prompt ∧ event.isPiece = true := by
  unfold onEvent at handled
  split at handled
  case h_4 body =>
      simp only at handled
      split at handled
      next => cases handled; simp [Pc.rank]
      next goesOn =>
        cases handled
        simpa [Pc.rank, Event.isPiece] using goesOn
  all_goals cases handled
  all_goals simp [Pc.rank]

/-- Every step of a call lowers its rank, except for a reply that is read. -/
theorem Moves.pays (moves : Moves live tx req action moved) :
    moved.pc.rank + req.credit +
        (if action.caller? = some tx then 1 else 0) ≤
      req.pc.rank + moved.credit := by
  have own : (if action.caller? = some tx then 1 else 0) ≤ 1 := by
    split <;> omega
  have lowers :
      moved.pc.rank < req.pc.rank →
        req.credit ≤ moved.credit →
        moved.pc.rank + req.credit +
            (if action.caller? = some tx then 1 else 0) ≤
          req.pc.rank + moved.credit := by
    omega
  cases moves with
  | stay other =>
      rw [if_neg other]
      exact Nat.le_refl _
  | absent before =>
      refine lowers ?_ (Nat.le_refl _)
      cases pc : req.pc with
      | start => exact Nat.succ_pos 5
      | cloned outTx hostname => exact Nat.succ_pos 4
      | _ =>
          rw [pc] at before
          cases before
  | event waiting ready handled =>
      have still : req.pc.rank = 3 := by
        rw [waiting]
        rfl
      rcases rank_of_onEvent handled with lower | ⟨same, isPrompt, isPiece⟩
      · refine lowers ?_ ?_
        · rw [still]
          exact lower
        · rw [Request.credit_take _ ready]
          exact Nat.le_add_right _ _
      · -- A partial reply: the prompt waits on, and what it read has grown.
        rw [Request.credit_take _ ready, still]
        simp only [same, isPrompt, isPiece, and_self, if_true]
        omega
  | lookup pc present =>
      refine lowers ?_ (Nat.le_refl _)
      rw [pc]
      exact Nat.le_refl _
  | enroll pc present =>
      refine lowers ?_ (Nat.le_refl _)
      rw [pc]
      exact Nat.le_refl _
  | send pc found receiving =>
      refine lowers ?_ (Nat.le_refl _)
      rw [pc]
      exact Nat.le_refl _
  | sendFailed pc found gone =>
      refine lowers ?_ (Nat.le_refl _)
      rw [pc]
      exact Nat.le_succ _
  | ended waiting ended =>
      refine lowers ?_ (Nat.le_refl _)
      rw [waiting]
      cases req.call.kind <;> simp [onEnded, Pc.rank]
  | timeout waiting =>
      refine lowers ?_ (Nat.le_refl _)
      rw [waiting]
      cases req.call.kind <;> simp [onTimeout, Pc.rank]
  | forget pc =>
      refine lowers ?_ (Nat.le_refl _)
      rw [pc]
      exact Nat.succ_pos 1
  | lookAgain pc =>
      refine lowers ?_ (Nat.le_refl _)
      rw [pc]
      exact Nat.le_refl _
  | check pc checked =>
      refine lowers ?_ (Nat.le_refl _)
      rw [pc]
      exact Nat.le_refl _
  | cancel pc =>
      refine lowers ?_ (Nat.le_refl _)
      rw [pc]
      exact Nat.le_refl _

/-- The rank of a call in the table. -/
def rank (tx : ReqId) (live : Live) : Nat :=
  ((live.reqs.get? tx).map fun req => req.pc.rank).getD 0

def credit (tx : ReqId) (live : Live) : Nat :=
  ((live.reqs.get? tx).map Request.credit).getD 0

theorem rank_of_found (found : live.reqs.get? tx = some req) :
    live.rank tx = req.pc.rank := by
  unfold rank
  rw [found]
  rfl

theorem credit_of_found (found : live.reqs.get? tx = some req) :
    live.credit tx = req.credit := by
  unfold credit
  rw [found]
  rfl

theorem pays_step
    (coherent : live.Coherent)
    (found : live.reqs.get? tx = some req)
    (stepped : live.step action = some next) :
    next.rank tx + live.credit tx +
        (if action.caller? = some tx then 1 else 0) ≤
      live.rank tx + next.credit tx := by
  have kept := request_kept stepped (by rw [found]; rfl)
  obtain ⟨req', found'⟩ := Option.isSome_iff_exists.mp kept
  rw [rank_of_found found, credit_of_found found, rank_of_found found',
    credit_of_found found']
  cases request_step coherent stepped found' with
  | created absent _ =>
      rw [found] at absent
      cases absent
  | @moved _ origin moved signals foundOrigin _ moves delivered =>
      cases foundOrigin.symm.trans found
      subst delivered
      refine Nat.le_trans moves.pays ?_
      exact
        Nat.add_le_add_left (moved.credit_le_applyAll (signalsTo tx signals))
          _

theorem rank_le (tx : ReqId) (live : Live) : live.rank tx ≤ 6 := by
  unfold rank
  cases live.reqs.get? tx with
  | none => exact Nat.zero_le _
  | some req =>
      rw [Option.map_some, Option.getD_some]
      cases req.pc <;> simp [Pc.rank]

theorem Moves.credit_le (moves : Moves live tx req action moved) :
    req.credit ≤ moved.credit := by
  cases moves with
  | event waiting ready handled =>
      rw [Request.credit_take _ ready]
      exact Nat.le_add_right _ _
  | _ => exact Nat.le_refl _

theorem credit_step
    (coherent : live.Coherent) (stepped : live.step action = some next)
    (tx : ReqId) : live.credit tx ≤ next.credit tx := by
  cases found : live.reqs.get? tx with
  | none =>
      unfold credit
      rw [found]
      exact Nat.zero_le _
  | some req =>
      have kept := request_kept stepped (by rw [found]; rfl)
      obtain ⟨req', found'⟩ := Option.isSome_iff_exists.mp kept
      rw [credit_of_found found, credit_of_found found']
      cases request_step coherent stepped found' with
      | created absent _ =>
          rw [found] at absent
          cases absent
      | @moved _ origin moved signals foundOrigin _ moves delivered =>
          cases foundOrigin.symm.trans found
          subst delivered
          exact
            Nat.le_trans moves.credit_le
              (moved.credit_le_applyAll (signalsTo tx signals))

/-- A call that waits with nothing to read has only its timer left. -/
theorem not_goesOn_of_pending
    (found : live.reqs.get? tx = some req)
    {hostname : String} {pieces : List String}
    (waiting : req.pc = .waiting outTx hostname pieces)
    (pending : req.chan.poll = .pending) :
    ¬ live.GoesOn tx := by
  rintro ⟨action, own, untimed, enabled⟩
  cases action <;> cases own <;>
    simp only [step, found, Option.bind_some, reqStep, waiting, pending,
      Option.isSome_none, Bool.false_eq_true] at enabled
  exact untimed rfl

/-- A call comes to its end by itself.  In every reachable state a call that has
not returned can take a step of its own; the step is its timer exactly if the
call waits with nothing to read while its sender half is alive.  And in every run
it takes at most six steps, or, for a prompt, six and one for each reply piece it
is sent. -/
theorem calls_come_to_an_end
    (reachable : machine.Reachable live)
    (found : live.reqs.get? tx = some req) :
    (req.pc.isReturned = false →
      ((live.GoesOn tx ∨ (live.step (.timeout tx)).isSome = true) ∧
        (¬ live.GoesOn tx ↔
          (∃ outTx hostname pieces,
            req.pc = .waiting outTx hostname pieces) ∧
          req.chan.poll = .pending))) ∧
      ∀ actions target last,
        machine.run live actions = some target →
        target.reqs.get? tx = some last →
        machine.countAlong (fun _ action => action.caller? = some tx) live
            actions ≤
          6 + last.pieces := by
  constructor
  · intro running
    have progress := can_go_on reachable found running
    refine ⟨progress.imp_right fun timed => timed.2.2, ?_, ?_⟩
    · intro stuck
      obtain ⟨waits, pending, _⟩ := progress.resolve_left stuck
      exact ⟨waits, pending⟩
    · rintro ⟨⟨_, _, _, waiting⟩, pending⟩
      exact not_goesOn_of_pending found waiting pending
  intro actions target last ran foundLast
  have paid :=
    machine.countAlong_le_of_credit
      (fun _ action => action.caller? = some tx)
      (fun live =>
        machine.Reachable live ∧ (live.reqs.get? tx).isSome = true)
      (rank tx) (credit tx) ?_ ?_ ⟨reachable, by rw [found]; rfl⟩ ran
  · have few := rank_le tx live
    have read := last.credit_le_pieces
    rw [← credit_of_found foundLast] at read
    omega
  · rintro live action next ⟨reachable, present⟩ stepped
    exact ⟨reachable.step stepped, request_kept stepped present⟩
  · rintro live action next ⟨reachable, present⟩ stepped
    obtain ⟨req, found⟩ := Option.isSome_iff_exists.mp present
    simp only [decide_eq_true_eq]
    exact pays_step (coherent_of_reachable reachable) found stepped

/-- A query whose connection is revoked while it waits. -/
def revokedQueryRun : List Action :=
  [.auth 0 "t" "client" "host", .register 0,
    .call 0 "t" "q" (.query "status" []), .lookup 0, .enroll 0,
    .send 0 "now", .revoke "t"]

theorem calls_come_to_an_end_revokedQueryRun :
    (after revokedQueryRun).GoesOn 0 := by
  have reachable : machine.Reachable (after revokedQueryRun) :=
    ⟨revokedQueryRun, rfl⟩
  have progress :=
    (@calls_come_to_an_end _ 0 _ reachable rfl).1 rfl
  by_contra stuck
  obtain ⟨_, pending⟩ := progress.2.mp stuck
  cases pending

end Live

end HollerServer.Wire
