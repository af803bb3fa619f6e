import HollerServer.Wire.ConnFrames

/-!
# Where outcomes come from

A message reaches a request channel from a frame that a connection handled, or
from an acknowledged interrupt.  `Feeds` names the frame behind a message; the
main theorem traces every positive outcome to such a frame, shows that frames of
other tokens, kinds and ids feed nothing, and that one frame feeds one call.
-/

namespace HollerServer.Wire

open HollerServer.Proto

/-- The outcomes that report an answer of the client. -/
def Outcome.positive : Outcome → Bool
  | .ping (.connected _ _) => true
  | .query (.ok _) | .query (.err _) => true
  | .prompt (.done _ _) | .prompt (.err _) => true
  | .interrupt .acked => true
  | .answer .acked | .answer (.err _) => true
  | _ => false

/-- The message is the one the outcome reports. -/
def Event.Decides : Event → Outcome → Prop
  | .pong elapsed, .ping (.connected _ rttMs) =>
      rttMs = elapsed / 1000000 % UInt64.size
  | .queryOk body, .query (.ok body') => body' = body
  | .queryErr body, .query (.err body') => body' = body
  | .reply body, .prompt (.done _ exit) =>
      body.done = true ∧ exit = body.exit
  | .promptErr body, .prompt (.err body') => body' = body
  | .interruptAck, .interrupt .acked => True
  | .answerAck, .answer .acked => True
  | .answerErr body, .answer (.err body') => body' = body
  | _, _ => False

/-- The frame is of the kind that carries the message, and names the call. -/
def Event.CarriedBy (event : Event) (id : String) (envelope : Envelope) :
    Prop :=
  match event with
  | .pong _ => envelope.id = id ∧ ∃ body, envelope.body = .pong body
  | .queryOk body => envelope.id = id ∧ envelope.body = .queryOk body
  | .queryErr body => envelope.id = id ∧ envelope.body = .error body
  | .reply body => envelope.id = id ∧ envelope.body = .reply body
  | .promptErr body => envelope.id = id ∧ envelope.body = .error body
  | .cancelled => False
  | .interruptAck | .answerAck =>
      ∃ body, envelope.body = .ack body ∧ body.of = some id
  | .answerErr body => envelope.id = id ∧ envelope.body = .error body

/-- The id a frame answers to: the `of` of an ack, else its own id. -/
def replyTo? (envelope : Envelope) : Option String :=
  match envelope.body with
  | .ack body => body.of
  | _ => some envelope.id

theorem Event.CarriedBy.replyTo?_eq
    {event : Event} {id : String} {envelope : Envelope}
    (carried : event.CarriedBy id envelope) :
    replyTo? envelope = some id := by
  unfold replyTo?
  cases event with
  | pong _ =>
      obtain ⟨sameId, body, isPong⟩ := carried
      rw [isPong, sameId]
  | cancelled => cases carried
  | interruptAck =>
      obtain ⟨body, isAck, sameId⟩ := carried
      rw [isAck, ← sameId]
  | answerAck =>
      obtain ⟨body, isAck, sameId⟩ := carried
      rw [isAck, ← sameId]
  | queryOk _ | queryErr _ | reply _ | promptErr _ | answerErr _ =>
      obtain ⟨sameId, isBody⟩ := carried
      rw [isBody, sameId]

/-- The message one registry call of `handle_frame` sends, and to which id. -/
inductive Resolution.Yields : Resolution → String → Event → Prop
  | pong {id : String} {elapsed : Nat} : Yields (.pong id) id (.pong elapsed)
  | queryOk {id : String} {body : QueryOkBody} :
      Yields (.queryOk id body) id (.queryOk body)
  | queryErr {id : String} {body : ErrorBody} :
      Yields (.queryErr id body) id (.queryErr body)
  | reply {id : String} {body : ReplyBody} :
      Yields (.reply id body) id (.reply body)
  | promptErr {id : String} {body : ErrorBody} :
      Yields (.promptErr id body) id (.promptErr body)
  | answerErr {id : String} {body : ErrorBody} :
      Yields (.answerErr id body) id (.answerErr body)
  | interruptAck {id : String} : Yields (.interruptAck id) id .interruptAck
  | answerAck {id : String} : Yields (.answerAck id) id .answerAck

/-- A frame is offered only to calls of a kind it can answer, under the id it
answers to. -/
theorem carriedBy_of_yields
    {envelope : Envelope} {resolution : Resolution} {id : String}
    {event : Event}
    (offered : resolution ∈ handleFrame envelope)
    (yields : resolution.Yields id event) :
    event.CarriedBy id envelope := by
  unfold handleFrame at offered
  cases body : envelope.body with
  | hello hello =>
      rw [body] at offered
      cases List.mem_singleton.mp offered
      cases yields
  | queryOk ok =>
      rw [body] at offered
      cases List.mem_singleton.mp offered
      cases yields
      exact ⟨rfl, body⟩
  | pong pong =>
      rw [body] at offered
      cases List.mem_singleton.mp offered
      cases yields
      exact ⟨rfl, pong, body⟩
  | error error =>
      simp only [body, List.mem_cons, List.not_mem_nil, or_false]
        at offered
      rcases offered with rfl | rfl | rfl
      · cases yields
        exact ⟨rfl, body⟩
      · cases yields
        exact ⟨rfl, body⟩
      · cases yields
        exact ⟨rfl, body⟩
  | reply reply =>
      rw [body] at offered
      cases List.mem_singleton.mp offered
      cases yields
      exact ⟨rfl, body⟩
  | ack ack =>
      cases named : ack.of with
      | none =>
          simp only [body, named, List.not_mem_nil] at offered
      | some ofId =>
          simp only [body, named, List.mem_cons, List.not_mem_nil,
            or_false] at offered
          rcases offered with rfl | rfl
          · cases yields
            exact ⟨ack, body, named⟩
          · cases yields
            exact ⟨ack, body, named⟩
  | _ =>
      simp only [body, List.not_mem_nil] at offered

namespace Registry

theorem mem_resolveOnce
    {registry : Registry} {kind : Kind} {tokenId id : String}
    {event event' : Event} {tx : ReqId}
    (member :
      (tx, .send event') ∈
        (registry.resolveOnce kind tokenId id event).2) :
    event' = event ∧ ∃ entry, registry.get? tokenId = some entry ∧
      entry.tx? kind id = some tx := by
  unfold resolveOnce at member
  split at member
  next => cases member
  next entry present =>
    split at member
    next => cases member
    next target slot =>
      simp only [List.mem_cons, Prod.mk.injEq, Signal.send.injEq,
        reduceCtorEq, and_false, List.not_mem_nil, or_false] at member
      obtain ⟨rfl, rfl⟩ := member
      exact ⟨rfl, entry, present, slot⟩

theorem mem_notifyPrompt
    {registry : Registry} {tokenId id : String}
    {event event' : Event} {tx : ReqId}
    (member :
      (tx, .send event') ∈ registry.notifyPrompt tokenId id event) :
    event' = event ∧ ∃ entry, registry.get? tokenId = some entry ∧
      entry.tx? .prompt id = some tx := by
  unfold notifyPrompt at member
  split at member
  next => cases member
  next entry present =>
    split at member
    next => cases member
    next session target slot =>
      simp only [List.mem_singleton, Prod.mk.injEq,
        Signal.send.injEq] at member
      obtain ⟨rfl, rfl⟩ := member
      exact ⟨rfl, entry, present, by simp [Entry.tx?, slot]⟩

/-- A registry call of `handle_frame` sends to slots of the token it is made
for, under the id and of the kind of its message. -/
theorem mem_perform
    {registry : Registry} {tokenId : String} {now : Nat}
    {resolution : Resolution} {tx : ReqId} {event : Event}
    (member :
      (tx, .send event) ∈
        (registry.perform tokenId now resolution).2) :
    ∃ entry id, registry.get? tokenId = some entry ∧
      entry.tx? event.kind id = some tx ∧
      resolution.Yields id event := by
  cases resolution with
  | setHostname hostname => cases member
  | pong replyTo =>
      simp only [perform, resolvePong] at member
      split at member
      next => cases member
      next =>
        obtain ⟨rfl, entry, present, slot⟩ := mem_resolveOnce member
        exact ⟨entry, replyTo, present, slot, .pong⟩
  | queryOk replyTo body =>
      obtain ⟨rfl, entry, present, slot⟩ := mem_resolveOnce member
      exact ⟨entry, replyTo, present, slot, .queryOk⟩
  | queryErr replyTo body =>
      obtain ⟨rfl, entry, present, slot⟩ := mem_resolveOnce member
      exact ⟨entry, replyTo, present, slot, .queryErr⟩
  | reply replyTo body =>
      obtain ⟨rfl, entry, present, slot⟩ := mem_notifyPrompt member
      exact ⟨entry, replyTo, present, slot, .reply⟩
  | promptErr replyTo body =>
      obtain ⟨rfl, entry, present, slot⟩ := mem_notifyPrompt member
      exact ⟨entry, replyTo, present, slot, .promptErr⟩
  | answerErr replyTo body =>
      obtain ⟨rfl, entry, present, slot⟩ := mem_resolveOnce member
      exact ⟨entry, replyTo, present, slot, .answerErr⟩
  | interruptAck ofId =>
      obtain ⟨rfl, entry, present, slot⟩ := mem_resolveOnce member
      exact ⟨entry, ofId, present, slot, .interruptAck⟩
  | answerAck ofId =>
      obtain ⟨rfl, entry, present, slot⟩ := mem_resolveOnce member
      exact ⟨entry, ofId, present, slot, .answerAck⟩

theorem mem_cancelPendingPromptsForSession
    {registry : Registry} {tokenId session : String} {tx : ReqId}
    {event : Event}
    (member :
      (tx, .send event) ∈
        registry.cancelPendingPromptsForSession tokenId session) :
    event = .cancelled := by
  unfold cancelPendingPromptsForSession at member
  split at member
  next => cases member
  next entry present =>
    simp only [List.mem_map, Prod.mk.injEq, Signal.send.injEq] at member
    obtain ⟨_, _, _, same⟩ := member
    exact same.symm

end Registry

/-- The outcome a call is bound to return. -/
def Pc.outcome? : Pc → Option Outcome
  | .forgetting _ outcome => outcome
  | .cancelling _ => some (.interrupt .acked)
  | .returned outcome => some outcome
  | _ => none

theorem positive_disconnected (kind : Kind) :
    kind.disconnected.positive = false := by
  cases kind <;> rfl

theorem decides_of_onEvent
    {outTx : ConnId} {hostname : String} {pieces : List String}
    {kind : Kind} {event : Event} {pc : Pc} {outcome : Outcome}
    (handled : onEvent outTx hostname pieces kind event = some pc)
    (bound : pc.outcome? = some outcome)
    (positive : outcome.positive = true) :
    event.Decides outcome := by
  cases event with
  | reply body =>
      cases kind <;> simp only [onEvent] at handled <;>
        try cases handled
      split at handled
      next done =>
        cases handled
        cases bound
        exact ⟨done, rfl⟩
      next =>
        cases handled
        cases bound
  | cancelled =>
      cases kind <;> cases handled
      cases bound
      cases positive
  | pong elapsed =>
      cases kind <;> cases handled
      cases bound
      rfl
  | queryOk body | queryErr body | promptErr body | interruptAck
  | answerAck | answerErr body =>
      cases kind <;> cases handled
      cases bound
      trivial

theorem positive_onEnded
    {outTx : ConnId} {kind : Kind} {outcome : Outcome}
    (bound : (onEnded outTx kind).outcome? = some outcome) :
    outcome.positive = false := by
  cases kind <;> cases bound <;> rfl

theorem positive_onTimeout
    {outTx : ConnId} {kind : Kind} {outcome : Outcome}
    (bound : (onTimeout outTx kind).outcome? = some outcome) :
    outcome.positive = false := by
  cases kind <;> cases bound <;> rfl

theorem positive_onCheck
    {present : Bool} {kind : Kind} {outcome : Outcome}
    (checked : onCheck present kind = some outcome) :
    outcome.positive = false := by
  cases kind <;> cases present <;> cases checked <;> rfl

/-- A positive outcome was decided by a message on the call's channel. -/
def Request.Backed (req : Request) : Prop :=
  ∀ outcome, req.pc.outcome? = some outcome →
    outcome.positive = true →
    ∃ event ∈ req.chan.sent, event.Decides outcome

/-- The envelope id of a call that starts. -/
def Action.callId? : Action → Option String
  | .call _ _ id _ => some id
  | _ => none

namespace Live

variable {live next : Live}

theorem Moves.backed
    {id : ReqId} {req moved : Request} {action : Action}
    (backed : req.Backed)
    (moves : Moves live id req action moved) :
    moved.Backed := by
  intro outcome bound positive
  cases moves with
  | stay _ => exact backed outcome bound positive
  | absent _ =>
      cases bound
      rw [positive_disconnected] at positive
      cases positive
  | lookup _ _ => cases bound
  | enroll _ _ => cases bound
  | send _ _ _ => cases bound
  | sendFailed _ _ _ =>
      cases bound
      rw [positive_disconnected] at positive
      cases positive
  | event waiting ready handled =>
      have member :=
        List.mem_of_getElem? (Channel.poll_eq_ready.mp ready)
      exact ⟨_, member, decides_of_onEvent handled bound positive⟩
  | ended _ _ =>
      rw [positive_onEnded bound] at positive
      cases positive
  | timeout _ =>
      rw [positive_onTimeout bound] at positive
      cases positive
  | forget pc =>
      cases bound
      exact backed outcome (by rw [pc]; rfl) positive
  | lookAgain pc => cases bound
  | check _ checked =>
      cases bound
      rw [positive_onCheck checked] at positive
      cases positive
  | cancel pc =>
      cases bound
      exact backed _ (by rw [pc]; rfl) positive

/-- The frame behind a message: in a run over `actions`, connection `id` makes a
registry call for `envelope`, the last frame it has received, and the call
sends `event` to `tx`.  The state and the row of the connection are those before
the call. -/
structure Feeds
    (actions : List Action) (before : Live) (id : ConnId) (conn : Conn)
    (envelope : Envelope) (tx : ReqId) (event : Event) : Prop where
  reached :
    ∃ done rest, actions = done ++ .resolve id :: rest ∧
      machine.run machine.init done = some before
  found : before.conns.get? id = some conn
  last : conn.received.getLast? = some envelope
  sent :
    ∃ resolution todo, conn.phase = .session (resolution :: todo) ∧
      (tx, .send event) ∈
        (before.registry.perform conn.tokenId before.now resolution).2

theorem Feeds.extend
    {actions : List Action} {before : Live} {id : ConnId} {conn : Conn}
    {envelope : Envelope} {tx : ReqId} {event : Event}
    (feeds : Feeds actions before id conn envelope tx event)
    (action : Action) :
    Feeds (actions ++ [action]) before id conn envelope tx event := by
  obtain ⟨done, rest, split, reached⟩ := feeds.reached
  refine { feeds with reached := ⟨done, rest ++ [action], ?_, reached⟩ }
  rw [split, List.append_assoc, List.cons_append]

/-- Every message on a request channel is a cancellation or has a frame behind
it. -/
theorem message_has_frame
    {actions : List Action}
    (reached : machine.run machine.init actions = some live) :
    ∀ tx req event, live.reqs.get? tx = some req →
      event ∈ req.chan.sent →
      event = .cancelled ∨
        ∃ before id conn envelope,
          Feeds actions before id conn envelope tx event := by
  refine
    @Transition.Machine.run_induction _ _ machine
      (fun actions live => ∀ tx req event,
        live.reqs.get? tx = some req → event ∈ req.chan.sent →
        event = .cancelled ∨
          ∃ before id conn envelope,
            Feeds actions before id conn envelope tx event) ?_ ?_
      actions live reached
  · intro tx req event found
    cases found
  · intro actions live action next reached traced stepped tx req' event
      found member
    have reachable : machine.Reachable live := ⟨actions, reached⟩
    have coherent := coherent_of_reachable reachable
    rcases mem_sent_step coherent stepped found member with
      ⟨req, foundReq, old⟩ | ⟨signals, emits, new⟩
    · rcases traced tx req event foundReq old with
        cancelled | ⟨before, id, conn, envelope, feeds⟩
      · exact Or.inl cancelled
      · exact Or.inr ⟨before, id, conn, envelope, feeds.extend action⟩
    · cases emits with
      | drops _ silent => exact absurd new (silent tx event)
      | cancel _ _ =>
          exact Or.inl (Registry.mem_cancelPendingPromptsForSession new)
      | @resolve id conn resolution todo foundConn phase =>
          refine Or.inr ?_
          rcases attentive_of_reachable reachable id conn foundConn
            _ phase with empty | ⟨envelope, last, _⟩
          · cases empty
          · exact
              ⟨live, id, conn, envelope,
                { reached := ⟨actions, [], rfl, reached⟩
                  found := foundConn
                  last := last
                  sent := ⟨resolution, todo, phase, new⟩ }⟩

theorem backed_of_reachable
    (reachable : machine.Reachable live) :
    ∀ tx req, live.reqs.get? tx = some req → req.Backed := by
  refine row_of_reachable Request.Backed ?_ ?_ ?_ reachable
  · intro tokenId envelopeId call outcome bound
    cases bound
  · intro live action tx req moved _ backed moves
    exact moves.backed backed
  · intro req signals backed outcome bound positive
    obtain ⟨event, member, decides⟩ := backed outcome bound positive
    refine ⟨event, ?_, decides⟩
    rw [Channel.sent_applyAll]
    exact List.mem_append_left _ member

/-- A frame feeds only a call on the token of its connection, that has
registered and not returned, of the kind and under the id the frame names. -/
theorem Feeds.addressee
    {actions : List Action} {before : Live} {id : ConnId} {conn : Conn}
    {envelope : Envelope} {tx : ReqId} {event : Event}
    (feeds : Feeds actions before id conn envelope tx event) :
    ∃ req, before.reqs.get? tx = some req ∧
      req.enrolledIn ≠ none ∧ req.pc.isReturned = false ∧
      req.tokenId = conn.tokenId ∧ req.call.kind = event.kind ∧
      event.CarriedBy req.id envelope := by
  obtain ⟨done, rest, _, reached⟩ := feeds.reached
  obtain ⟨resolution, todo, phase, member⟩ := feeds.sent
  have reachable : machine.Reachable before := ⟨done, reached⟩
  obtain ⟨entry, slotId, stored, slot, yields⟩ :=
    Registry.mem_perform member
  obtain ⟨req, found, owns⟩ :=
    (coherent_of_reachable reachable).slot stored slot
  have offered : resolution ∈ handleFrame envelope := by
    rcases attentive_of_reachable reachable id conn feeds.found _ phase
      with empty | ⟨envelope', last, shorter⟩
    · cases empty
    · cases last.symm.trans feeds.last
      exact shorter.subset List.mem_cons_self
  have carried := carriedBy_of_yields offered yields
  refine ⟨req, found, ?_, ?_, owns.token, owns.kind, owns.id ▸ carried⟩
  · rw [owns.owner]
    exact nofun
  · have holding := owns.holding
    cases shape : req.pc <;> rw [shape] at holding <;>
      first | rfl | cases holding

/-- The row of the fed call at the end of the run. -/
theorem Feeds.addressee_run
    {actions : List Action} {before : Live} {id : ConnId} {conn : Conn}
    {envelope : Envelope} {tx : ReqId} {event : Event}
    (reached : machine.run machine.init actions = some live)
    (feeds : Feeds actions before id conn envelope tx event) :
    ∃ req, live.reqs.get? tx = some req ∧
      req.tokenId = conn.tokenId ∧ req.call.kind = event.kind ∧
      event.CarriedBy req.id envelope := by
  obtain ⟨done, rest, split, reachedBefore⟩ := feeds.reached
  obtain ⟨req, found, _, _, token, kind, carried⟩ := feeds.addressee
  rw [split, machine.run_append_of_eq_some reachedBefore] at reached
  obtain ⟨last, foundLast, follows⟩ :=
    follows_run (coherent_of_reachable ⟨done, reachedBefore⟩) reached
      found
  exact
    ⟨last, foundLast, follows.token.trans token,
      (congrArg Call.kind follows.call).trans kind,
      follows.id ▸ carried⟩

/-- The `n`-th frame of a connection is the same frame at all times. -/
theorem Feeds.same_frame
    {actions : List Action} {before before' : Live} {id : ConnId}
    {conn conn' : Conn} {envelope envelope' : Envelope}
    {tx tx' : ReqId} {event event' : Event}
    (feeds : Feeds actions before id conn envelope tx event)
    (feeds' : Feeds actions before' id conn' envelope' tx' event')
    (sameNumber : conn.received.length = conn'.received.length) :
    envelope = envelope' := by
  have sameReceived : conn.received = conn'.received := by
    obtain ⟨done, rest, split, reached⟩ := feeds.reached
    obtain ⟨done', rest', split', reached'⟩ := feeds'.reached
    have isPrefix : done <+: actions := ⟨_, split.symm⟩
    have isPrefix' : done' <+: actions := ⟨_, split'.symm⟩
    rcases List.prefix_or_prefix_of_prefix isPrefix isPrefix' with
      ⟨between, rfl⟩ | ⟨between, rfl⟩
    · rw [machine.run_append_of_eq_some reached] at reached'
      obtain ⟨later, foundLater, follows⟩ :=
        conn_follows_run reached' feeds.found
      cases foundLater.symm.trans feeds'.found
      exact follows.received.eq_of_length sameNumber
    · rw [machine.run_append_of_eq_some reached'] at reached
      obtain ⟨later, foundLater, follows⟩ :=
        conn_follows_run reached feeds'.found
      cases foundLater.symm.trans feeds.found
      exact (follows.received.eq_of_length sameNumber.symm).symm
  have last := feeds.last
  rw [sameReceived] at last
  exact Option.some.inj (last.symm.trans feeds'.last)

/-- Calls that start with pairwise distinct ids keep them. -/
theorem call_unique
    {actions : List Action}
    (reached : machine.run machine.init actions = some live)
    (distinct : (actions.filterMap Action.callId?).Nodup) :
    (∀ tx req, live.reqs.get? tx = some req →
      req.id ∈ actions.filterMap Action.callId?) ∧
    ∀ tx tx' req req', live.reqs.get? tx = some req →
      live.reqs.get? tx' = some req' → req.id = req'.id → tx = tx' := by
  revert distinct
  refine
    @Transition.Machine.run_induction _ _ machine
      (fun actions live =>
        (actions.filterMap Action.callId?).Nodup →
        (∀ tx req, live.reqs.get? tx = some req →
          req.id ∈ actions.filterMap Action.callId?) ∧
        ∀ tx tx' req req', live.reqs.get? tx = some req →
          live.reqs.get? tx' = some req' → req.id = req'.id → tx = tx')
      ?_ ?_ actions live reached
  · intro _
    exact ⟨fun _ _ found => (nomatch found), fun _ _ _ _ found => nomatch found⟩
  · intro actions live action next reached unique stepped distinct
    rw [List.filterMap_append] at distinct ⊢
    have coherent := coherent_of_reachable ⟨actions, reached⟩
    obtain ⟨known, unique⟩ := unique distinct.of_append_left
    have origin :
        ∀ tx req', next.reqs.get? tx = some req' →
          (∃ tokenId call,
            action = .call tx tokenId req'.id call) ∨
          ∃ req, live.reqs.get? tx = some req ∧ req'.id = req.id := by
      intro tx req' found
      cases request_step coherent stepped found with
      | created _ fresh =>
          subst fresh
          exact Or.inl ⟨_, _, rfl⟩
      | @moved _ req moved _ foundReq _ moves delivered =>
          subst delivered
          obtain ⟨follows, _, _⟩ :=
            moves.follows (Consistent.sound coherent foundReq).early
          exact Or.inr ⟨req, foundReq, follows.id⟩
    have apart :
        ∀ {tx tokenId id call req' tx'},
          action = .call tx tokenId id call →
          live.reqs.get? tx' = some req' → req'.id ≠ id := by
      intro tx tokenId id call req' tx' isCall found same
      subst isCall
      have member := known tx' req' found
      rw [same] at member
      exact
        (List.disjoint_of_nodup_append distinct) member
          List.mem_cons_self
    constructor
    · intro tx req' found
      rcases origin tx req' found with ⟨_, _, isCall⟩ | ⟨req, old, same⟩
      · subst isCall
        exact List.mem_append_right _ List.mem_cons_self
      · rw [same]
        exact List.mem_append_left _ (known tx req old)
    · intro tx tx' req req' found found' sameId
      rcases origin tx req found with
        ⟨_, _, isCall⟩ | ⟨older, old, same⟩
      · rcases origin tx' req' found' with
          ⟨_, _, isCall'⟩ | ⟨older', old', same'⟩
        · exact (Action.call.inj (isCall.symm.trans isCall')).1
        · exact absurd (same'.symm.trans sameId.symm) (apart isCall old')
      · rcases origin tx' req' found' with
          ⟨_, _, isCall'⟩ | ⟨older', old', same'⟩
        · exact absurd (same.symm.trans sameId) (apart isCall' old)
        · exact
            unique tx tx' older older' old old'
              (same.symm.trans (sameId.trans same'))

/-- Outcomes are justified and isolated, in every run whose calls have pairwise
distinct ids.

A call returns a positive outcome only if a connection of its token handled,
while the call was registered and had not returned, a frame of the matching
kind that names the call and whose message decides the outcome.  A frame never
feeds a call on another token, of another kind, or that it does not name; and
what one frame feeds is one call. -/
theorem outcomes_justified
    {actions : List Action}
    (reached : machine.run machine.init actions = some live)
    (distinct : (actions.filterMap Action.callId?).Nodup) :
    (∀ tx req outcome, live.reqs.get? tx = some req →
      req.pc = .returned outcome → outcome.positive = true →
      ∃ before id conn envelope event,
        Feeds actions before id conn envelope tx event ∧
        event.Decides outcome ∧
        conn.tokenId = req.tokenId ∧
        event.CarriedBy req.id envelope ∧
        ∃ earlier, before.reqs.get? tx = some earlier ∧
          earlier.enrolledIn ≠ none ∧ earlier.pc.isReturned = false) ∧
    (∀ tx req before id conn envelope event,
      live.reqs.get? tx = some req →
      Feeds actions before id conn envelope tx event →
      conn.tokenId = req.tokenId ∧ event.kind = req.call.kind ∧
        event.CarriedBy req.id envelope) ∧
    (∀ tx tx' id before before' conn conn' envelope envelope'
      event event',
      Feeds actions before id conn envelope tx event →
      Feeds actions before' id conn' envelope' tx' event' →
      conn.received.length = conn'.received.length →
      tx = tx') := by
  have reachable : machine.Reachable live := ⟨actions, reached⟩
  have matching :
      ∀ tx req before id conn envelope event,
        live.reqs.get? tx = some req →
        Feeds actions before id conn envelope tx event →
        conn.tokenId = req.tokenId ∧ event.kind = req.call.kind ∧
          event.CarriedBy req.id envelope := by
    intro tx req before id conn envelope event found feeds
    obtain ⟨last, foundLast, token, kind, carried⟩ :=
      feeds.addressee_run reached
    cases foundLast.symm.trans found
    exact ⟨token.symm, kind.symm, carried⟩
  refine ⟨?_, matching, ?_⟩
  · intro tx req outcome found returned positive
    obtain ⟨event, member, decides⟩ :=
      backed_of_reachable reachable tx req found outcome
        (by rw [returned]; rfl) positive
    rcases message_has_frame reached tx req event found member with
      rfl | ⟨before, id, conn, envelope, feeds⟩
    · cases decides
    · obtain ⟨token, _, carried⟩ :=
        matching tx req before id conn envelope event found feeds
      obtain ⟨earlier, foundEarlier, enrolled, notReturned, _⟩ :=
        feeds.addressee
      exact
        ⟨before, id, conn, envelope, event, feeds, decides, token, carried,
          earlier, foundEarlier, enrolled, notReturned⟩
  · intro tx tx' id before before' conn conn' envelope envelope' event
      event' feeds feeds' sameNumber
    obtain ⟨req, found, _, _, carried⟩ := feeds.addressee_run reached
    obtain ⟨req', found', _, _, carried'⟩ := feeds'.addressee_run reached
    have sameFrame := feeds.same_frame feeds' sameNumber
    subst sameFrame
    have sameId : req.id = req'.id :=
      Option.some.inj
        (carried.replyTo?_eq.symm.trans carried'.replyTo?_eq)
    exact (call_unique reached distinct).2 tx tx' req req' found found' sameId

/-- A query and an answer with different ids; one `error` frame answers the
query. -/
def errorFrameRun : List Action :=
  [.auth 0 "t" "client" "host", .register 0, .hello 0 true,
    .call 0 "t" "q" (.query "status" []), .lookup 0, .enroll 0,
    .send 0 "now", .call 1 "t" "a" (.answer "s" "yes"), .lookup 1,
    .enroll 1, .send 1 "now",
    .frame 0 (newErrorEnvelope "unknown_cmd" none none "q" "client"),
    .resolve 0, .resolve 0, .resolve 0, .recv 0]

theorem outcomes_justified_errorFrameRun :
    ∃ before id conn envelope event,
      Feeds errorFrameRun before id conn envelope 0 event ∧
      event.Decides
        (.query (.err ⟨"unknown_cmd", none, none⟩)) ∧
      conn.tokenId = "t" ∧ event.CarriedBy "q" envelope := by
  have reached :
      machine.run machine.init errorFrameRun =
        some (after errorFrameRun) := rfl
  have distinct : (errorFrameRun.filterMap Action.callId?).Nodup := by
    decide
  obtain ⟨before, id, conn, envelope, event, feeds, decides, token,
    carried, _⟩ :=
    (outcomes_justified reached distinct).1 0 _ _ rfl rfl rfl
  exact ⟨before, id, conn, envelope, event, feeds, decides, token, carried⟩

end Live

end HollerServer.Wire
