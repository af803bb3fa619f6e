import HollerServer.Wire.Consistency

/-!
# Pending slots and the calls in flight

What the agreement between registry and requests says about the pending maps:
a slot belongs to a call that is still on its way, and a call on its way has
its slot or will find its channel ended.
-/

namespace HollerServer.Wire.Live

open HollerServer.Proto

variable {live : Live}

/-- A call knows what to do with every message of its own kind. -/
theorem onEvent_isSome
    (outTx : ConnId) (hostname : String) (pieces : List String)
    {kind : Kind} {event : Event} (fits : event.kind = kind) :
    (onEvent outTx hostname pieces kind event).isSome = true := by
  subst fits
  cases event with
  | reply body =>
      simp only [Event.kind, onEvent]
      split <;> rfl
  | _ => rfl

/-- A waiting call whose sender half is gone does not wait for its timer. -/
theorem not_timeout_of_closed
    {id : ReqId} {req : Request}
    (found : live.reqs.get? id = some req)
    (closed : req.chan.closed = true) :
    live.step (.timeout id) = none := by
  refine Option.eq_none_iff_forall_ne_some.mpr ?_
  intro next stepped
  obtain ⟨req', _, _, _, found', _, pending, _⟩ := step_timeout stepped
  have same : req' = req := Option.some.inj (found'.symm.trans found)
  subst same
  unfold Channel.poll at pending
  rw [closed] at pending
  split at pending <;> cases pending

/-- A waiting call whose sender half is gone can go on. -/
theorem recv_of_closed
    (coherent : live.Coherent) {id : ReqId} {req : Request}
    {outTx : ConnId} {hostname : String} {pieces : List String}
    (found : live.reqs.get? id = some req)
    (waiting : req.pc = .waiting outTx hostname pieces)
    (closed : req.chan.closed = true) :
    (live.step (.recv id)).isSome = true := by
  have dispatched :
      live.step (.recv id) = live.reqStep id req (.recv id) := by
    simp only [step, found, Option.bind_some]
  rw [dispatched]
  simp only [reqStep, waiting]
  cases polled : req.chan.poll with
  | ready event =>
      have member : event ∈ req.chan.sent :=
        List.mem_of_getElem? (Channel.poll_eq_ready.mp polled)
      have fits := (Consistent.sound coherent found).fits event member
      have handled := onEvent_isSome outTx hostname pieces fits
      simpa using handled
  | ended => rfl
  | pending =>
      unfold Channel.poll at polled
      rw [closed] at polled
      split at polled <;> cases polled

/-- In every reachable state each slot of a registered entry belongs to a call
on that token, of that kind and id, which registered in that entry and has not
returned.  A call that has registered and not returned either has its slot in
the entry now registered for its token or its sender half is gone; in the second
case its timer no longer decides, and if it waits it can go on at once. -/
theorem slots_match_calls (reachable : machine.Reachable live) :
    (∀ tokenId entry kind id tx,
      live.registry.get? tokenId = some entry →
      entry.tx? kind id = some tx →
      ∃ req, live.reqs.get? tx = some req ∧
        req.tokenId = tokenId ∧ req.call.kind = kind ∧ req.id = id ∧
        req.enrolledIn = some entry.outTx ∧
        req.pc.isReturned = false) ∧
    (∀ tx req,
      live.reqs.get? tx = some req →
      req.enrolledIn ≠ none →
      req.pc.isReturned = false →
      (∃ entry, live.registry.get? req.tokenId = some entry ∧
        req.enrolledIn = some entry.outTx ∧
        entry.tx? req.call.kind req.id = some tx) ∨
      (req.chan.closed = true ∧
        live.step (.timeout tx) = none ∧
        ∀ outTx hostname pieces,
          req.pc = .waiting outTx hostname pieces →
          (live.step (.recv tx)).isSome = true)) := by
  have coherent := coherent_of_reachable reachable
  refine ⟨?_, ?_⟩
  · intro tokenId entry kind id tx stored slot
    obtain ⟨req, found, owns⟩ := Consistent.slot coherent stored slot
    have notReturned : req.pc.isReturned = false := by
      have holding := owns.holding
      cases shape : req.pc <;> rw [shape] at holding <;>
        first | rfl | cases holding
    exact
      ⟨req, found, owns.token, owns.kind, owns.id, owns.owner,
        notReturned⟩
  · intro tx req found enrolled _
    cases closed : req.chan.closed with
    | true =>
        refine
          Or.inr ⟨rfl, not_timeout_of_closed found closed, ?_⟩
        intro outTx hostname pieces waiting
        exact recv_of_closed coherent found waiting closed
    | false =>
        obtain ⟨owner, enrolledIn⟩ :=
          Option.ne_none_iff_exists'.mp enrolled
        obtain ⟨entry, stored, sameOwner, slot⟩ :=
          (Consistent.sound coherent found).alive owner enrolledIn closed
        exact
          Or.inl
            ⟨entry, stored, enrolledIn.trans (congrArg some sameOwner.symm),
              slot⟩

/-- Two calls on one connection; the first of them loses its slot when a second
connection of the token registers. -/
def supersededCallRun : List Action :=
  [.auth 0 "t" "client" "host", .register 0, .hello 0 true,
    .call 0 "t" "q" (.query "status" []), .lookup 0, .enroll 0,
    .send 0 "now", .auth 1 "t" "client" "host", .register 1,
    .call 1 "t" "p" (.prompt "s" "hi" none), .lookup 1, .enroll 1]

theorem slots_match_calls_supersededCallRun :
    ∃ live, machine.run machine.init supersededCallRun = some live ∧
      (∃ req, live.reqs.get? 1 = some req ∧ req.tokenId = "t" ∧
        req.call.kind = .prompt ∧ req.id = "p" ∧
        req.enrolledIn = some 1 ∧ req.pc.isReturned = false) ∧
      live.step (.timeout 0) = none ∧
      (live.step (.recv 0)).isSome = true := by
  refine ⟨_, rfl, ?_, ?_⟩
  · exact
      (slots_match_calls ⟨supersededCallRun, rfl⟩).1
        "t" _ .prompt "p" 1 rfl rfl
  · have gone :=
      ((slots_match_calls ⟨supersededCallRun, rfl⟩).2 0 _ rfl
        (by decide) rfl).resolve_left (by
          rintro ⟨entry, stored, _, slot⟩
          cases stored
          cases slot)
    exact ⟨gone.2.1, gone.2.2 0 "host" [] rfl⟩

end HollerServer.Wire.Live
