import HollerServer.Wire.Outcomes

/-!
# A prompt is the fold of its event stream

The stream of a prompt call is everything sent on its channel, in order, with an
end mark once its sender half is gone.  `verdict` reads an outcome off a stream:
the first terminal item decides, and a finished reply carries the text of all
replies up to it.  A prompt whose frame was accepted by the outbound channel and
whose timer does not fire returns the verdict of its stream.
-/

namespace HollerServer.Wire

open HollerServer.Proto

inductive StreamItem where
  | event (event : Event)
  | ended
  deriving Repr

namespace StreamItem

/-- The item ends the exchange. -/
def terminal : StreamItem → Bool
  | .event (.reply body) => body.done
  | .event (.promptErr _) => true
  | .event .cancelled => true
  | .event _ => false
  | .ended => true

/-- The text of a reply: `text` first, then `chunks`. -/
def texts : StreamItem → List String
  | .event (.reply body) => body.text.toList ++ body.chunks
  | _ => []

/-- The outcome of an exchange that this item ends, after replies with the given
pieces of text. -/
def outcome (pieces : List String) : StreamItem → Option PromptOutcome
  | .event (.reply body) =>
      some (.done (String.join (pieces ++ body.text.toList ++ body.chunks))
        body.exit)
  | .event (.promptErr body) => some (.err body)
  | .event .cancelled => some .cancelled
  | .event _ => none
  | .ended => some .disconnected

end StreamItem

/-- The outcome a stream decides: that of its first terminal item. -/
def verdict (items : List StreamItem) : Option PromptOutcome :=
  (items.find? StreamItem.terminal).bind
    (StreamItem.outcome
      ((items.takeWhile fun item => !item.terminal).flatMap
        StreamItem.texts))

/-- Items before the first terminal one contribute their text, items after it
nothing. -/
theorem verdict_split
    {before rest : List StreamItem} {item : StreamItem}
    (open' : ∀ earlier ∈ before, earlier.terminal = false)
    (terminal : item.terminal = true) :
    verdict (before ++ item :: rest) =
      item.outcome (before.flatMap StreamItem.texts) := by
  have noneBefore : before.find? StreamItem.terminal = none := by
    refine List.find?_eq_none.mpr ?_
    intro earlier member
    rw [open' earlier member]
    exact nofun
  have firstTerminal :
      (before ++ item :: rest).find? StreamItem.terminal = some item := by
    rw [List.find?_append, noneBefore, Option.none_or, List.find?_cons,
      terminal]
  have prefixOpen :
      (before ++ item :: rest).takeWhile (fun item => !item.terminal) =
        before := by
    rw [List.takeWhile_append_of_pos]
    · rw [List.takeWhile_cons, terminal]
      exact List.append_nil before
    · intro earlier member
      rw [open' earlier member]
      rfl
  unfold verdict
  rw [firstTerminal, prefixOpen]
  rfl

/-- Every stream with a verdict splits at its first terminal item. -/
theorem split_of_verdict
    {items : List StreamItem} {outcome : PromptOutcome}
    (decided : verdict items = some outcome) :
    ∃ before item rest, items = before ++ item :: rest ∧
      (∀ earlier ∈ before, earlier.terminal = false) ∧
      item.terminal = true := by
  obtain ⟨item, first, _⟩ := Option.bind_eq_some_iff.mp decided
  obtain ⟨terminal, before, rest, split, notBefore⟩ :=
    List.find?_eq_some_iff_append.mp first
  refine ⟨before, item, rest, split, ?_, terminal⟩
  intro earlier member
  simpa using notBefore earlier member

/-- Later items do not change a verdict. -/
theorem verdict_append
    {items : List StreamItem} {outcome : PromptOutcome}
    (decided : verdict items = some outcome)
    (later : List StreamItem) :
    verdict (items ++ later) = some outcome := by
  obtain ⟨before, item, rest, rfl, open', terminal⟩ :=
    split_of_verdict decided
  rw [List.append_assoc, List.cons_append,
    verdict_split open' terminal]
  rw [verdict_split open' terminal] at decided
  exact decided

/-- The event stream of a call. -/
def Request.stream (req : Request) : List StreamItem :=
  req.chan.sent.map .event ++ if req.chan.closed then [.ended] else []

/-- What the call has read so far is open, and its pieces are the text of it. -/
structure Request.Reading
    (req : Request) (pieces : List String) : Prop where
  bounded : req.chan.taken ≤ req.chan.sent.length
  undecided :
    ∀ item ∈ (req.chan.sent.take req.chan.taken).map StreamItem.event,
      item.terminal = false
  collected :
    pieces =
      ((req.chan.sent.take req.chan.taken).map
        StreamItem.event).flatMap StreamItem.texts

/-- A prompt call follows its stream.  `accepted` says that its frame was put on
an outbound queue. -/
structure Request.Folds (req : Request) (accepted : Prop) : Prop where
  unsent : req.pc.sent = false → ¬ accepted
  fresh : req.pc.sent = false → req.chan.taken = 0
  reading :
    ∀ outTx hostname pieces, req.pc = .waiting outTx hostname pieces →
      req.Reading pieces
  decided :
    req.pc.sent = true → req.pc.listening = false →
      ∃ outcome, req.pc.outcome? = some (.prompt outcome) ∧
        (accepted → verdict req.stream = some outcome)

/-- The stream at the item the call reads next. -/
theorem Request.stream_eq_of_ready
    {req : Request} {event : Event}
    (ready : req.chan.poll = .ready event) :
    ∃ rest,
      req.stream =
        (req.chan.sent.take req.chan.taken).map StreamItem.event ++
          .event event :: rest := by
  have atTaken := Channel.poll_eq_ready.mp ready
  obtain ⟨inside, same⟩ := List.getElem?_eq_some_iff.mp atTaken
  have split :
      req.chan.sent =
        req.chan.sent.take req.chan.taken ++
          event :: req.chan.sent.drop (req.chan.taken + 1) := by
    rw [← same, ← List.drop_eq_getElem_cons inside,
      List.take_append_drop]
  refine
    ⟨(req.chan.sent.drop (req.chan.taken + 1)).map StreamItem.event ++
      if req.chan.closed then [.ended] else [], ?_⟩
  unfold Request.stream
  conv => lhs; rw [split]
  rw [List.map_append, List.map_cons, List.append_assoc,
    List.cons_append]

namespace Request.Folds

variable {req : Request} {accepted accepted' : Prop}

theorem mono
    (folds : req.Folds accepted) (weaker : accepted' → accepted) :
    req.Folds accepted' where
  unsent := fun notSent isAccepted =>
    folds.unsent notSent (weaker isAccepted)
  fresh := folds.fresh
  reading := folds.reading
  decided := by
    intro sent notListening
    obtain ⟨outcome, bound, follows⟩ := folds.decided sent notListening
    exact ⟨outcome, bound, fun isAccepted => follows (weaker isAccepted)⟩

/-- Signals of a critical section only extend the stream. -/
theorem stream_applyAll
    {signals : List (Signal Event)}
    (final : req.chan.closed = true → signals = []) :
    ∃ more,
      ({ req with chan := req.chan.applyAll signals } : Request).stream =
        req.stream ++ more := by
  cases closed : req.chan.closed with
  | true =>
      rw [final closed]
      exact ⟨[], (List.append_nil _).symm⟩
  | false =>
      unfold Request.stream
      simp only [Channel.sent_applyAll, List.map_append, closed,
        Bool.false_eq_true, if_false, List.append_nil,
        List.append_assoc]
      exact ⟨_, rfl⟩

/-- A call that follows its stream still does after a critical section. -/
theorem deliver
    {signals : List (Signal Event)}
    (final : req.chan.closed = true → signals = [])
    (folds : req.Folds accepted) :
    ({ req with chan := req.chan.applyAll signals } : Request).Folds
      accepted where
  unsent := folds.unsent
  fresh := fun notSent =>
    (Channel.taken_applyAll _ _).trans (folds.fresh notSent)
  reading := by
    intro outTx hostname pieces waiting
    have reading := folds.reading outTx hostname pieces waiting
    have sameRead :
        ((req.chan.applyAll signals).sent).take
            (req.chan.applyAll signals).taken =
          req.chan.sent.take req.chan.taken := by
      rw [Channel.taken_applyAll, Channel.sent_applyAll,
        List.take_append_of_le_length reading.bounded]
    refine ⟨?_, ?_, ?_⟩
    · simp only [Channel.taken_applyAll, Channel.sent_applyAll,
        List.length_append]
      have bounded := reading.bounded
      omega
    · simp only [sameRead]
      exact reading.undecided
    · simp only [sameRead]
      exact reading.collected
  decided := by
    intro sent notListening
    obtain ⟨outcome, bound, follows⟩ := folds.decided sent notListening
    obtain ⟨more, extended⟩ := stream_applyAll final
    refine ⟨outcome, bound, ?_⟩
    intro isAccepted
    rw [extended]
    exact verdict_append (follows isAccepted) more

/-- A call that is bound to an outcome its stream decides. -/
theorem ofDecided
    {outcome : PromptOutcome}
    (notWaiting : req.pc.listening = false)
    (isSent : req.pc.sent = true)
    (bound : req.pc.outcome? = some (.prompt outcome))
    (follows : accepted → verdict req.stream = some outcome) :
    req.Folds accepted where
  unsent := by
    intro notSent
    rw [isSent] at notSent
    cases notSent
  fresh := by
    intro notSent
    rw [isSent] at notSent
    cases notSent
  reading := by
    intro outTx hostname pieces waiting
    rw [waiting] at notWaiting
    cases notWaiting
  decided := fun _ _ => ⟨outcome, bound, follows⟩

/-- A call that has not sent its frame. -/
theorem ofUnsent
    (notSent : req.pc.sent = false)
    (untaken : req.chan.taken = 0)
    (never : ¬ accepted) :
    req.Folds accepted where
  unsent := fun _ => never
  fresh := fun _ => untaken
  reading := by
    intro outTx hostname pieces waiting
    rw [waiting] at notSent
    cases notSent
  decided := by
    intro sent
    rw [sent] at notSent
    cases notSent

/-- A call that goes on reading. -/
theorem ofReading
    {outTx : ConnId} {hostname : String} {pieces : List String}
    (waiting : req.pc = .waiting outTx hostname pieces)
    (reading : req.Reading pieces) :
    req.Folds accepted where
  unsent := by
    intro notSent
    rw [waiting] at notSent
    cases notSent
  fresh := by
    intro notSent
    rw [waiting] at notSent
    cases notSent
  reading := by
    intro outTx' hostname' pieces' waiting'
    cases waiting.symm.trans waiting'
    exact reading
  decided := by
    intro _ notListening
    rw [waiting] at notListening
    cases notListening

end Request.Folds

/-- Reading an open item keeps what was read open and adds its text. -/
theorem Request.Reading.take
    {req : Request} {pieces : List String} {event : Event} {pc : Pc}
    (reading : req.Reading pieces)
    (ready : req.chan.poll = .ready event)
    (notTerminal : (StreamItem.event event).terminal = false) :
    ({ req with pc, chan := req.chan.take } : Request).Reading
      (pieces ++ (StreamItem.event event).texts) := by
  have atTaken := Channel.poll_eq_ready.mp ready
  obtain ⟨inside, same⟩ := List.getElem?_eq_some_iff.mp atTaken
  have longer :
      req.chan.sent.take (req.chan.taken + 1) =
        req.chan.sent.take req.chan.taken ++ [event] := by
    rw [List.take_succ_eq_append_getElem inside, same]
  refine ⟨inside, ?_, ?_⟩
  · simp only [Channel.sent_take, Channel.taken_take, longer,
      List.map_append, List.map_cons, List.map_nil]
    intro item member
    rcases List.mem_append.mp member with old | new
    · exact reading.undecided item old
    · rw [List.mem_singleton.mp new]
      exact notTerminal
  · simp only [Channel.sent_take, Channel.taken_take, longer,
      List.map_append, List.map_cons, List.map_nil,
      List.flatMap_append, List.flatMap_cons, List.flatMap_nil,
      List.append_nil, ← reading.collected]

/-- The verdict when the call reads a terminal item. -/
theorem Request.Reading.verdict_of_ready
    {req : Request} {pieces : List String} {event : Event}
    (reading : req.Reading pieces)
    (ready : req.chan.poll = .ready event)
    (terminal : (StreamItem.event event).terminal = true) :
    verdict req.stream = (StreamItem.event event).outcome pieces := by
  obtain ⟨rest, split⟩ := req.stream_eq_of_ready ready
  rw [split, verdict_split reading.undecided terminal,
    ← reading.collected]

/-- The verdict when the call finds its channel ended. -/
theorem Request.Reading.verdict_of_ended
    {req : Request} {pieces : List String}
    (reading : req.Reading pieces)
    (ended : req.chan.poll = .ended) :
    verdict req.stream = some .disconnected := by
  obtain ⟨exhausted, closed⟩ := Channel.poll_eq_ended.mp ended
  have undecided := reading.undecided
  rw [List.take_of_length_le exhausted] at undecided
  unfold Request.stream
  rw [closed, if_pos rfl, verdict_split undecided rfl]
  rfl

namespace Live

variable {live next : Live}

/-- The frame of the call was put on some outbound queue. -/
def Accepted (live : Live) (tx : ReqId) : Prop :=
  ∃ id conn item, live.conns.get? id = some conn ∧
    item ∈ conn.enqueued ∧ item.request = some tx

/-- The send of the call is about to succeed. -/
def Sends (live : Live) (tx : ReqId) (req : Request) (action : Action) :
    Prop :=
  ∃ ts outTx hostname conn, action = .send tx ts ∧
    req.pc = .enrolled outTx hostname ∧
    live.conns.get? outTx = some conn ∧ conn.receiving = true

theorem accepted_step
    {action : Action} {tx : ReqId}
    (stepped : live.step action = some next)
    (accepted : Accepted next tx) :
    Accepted live tx ∨
      ∃ req, live.reqs.get? tx = some req ∧
        Sends live tx req action := by
  obtain ⟨id, conn', item, foundConn', member, names⟩ := accepted
  cases connection_step stepped foundConn' with
  | accepted _ fresh =>
      subst fresh
      cases member
  | moved foundConn moves =>
      cases moves with
      | notified _ =>
          rcases List.mem_append.mp member with old | new
          · exact Or.inl ⟨id, _, item, foundConn, old, names⟩
          · cases List.mem_singleton.mp new
            cases names
      | registered _ anonymous =>
          rcases List.mem_append.mp member with old | new
          · exact Or.inl ⟨id, _, item, foundConn, old, names⟩
          · rw [anonymous item new] at names
            cases names
      | queued foundReq pc receiving =>
          rcases List.mem_append.mp member with old | new
          · exact Or.inl ⟨id, _, item, foundConn, old, names⟩
          · cases List.mem_singleton.mp new
            cases names
            exact Or.inr
              ⟨_, foundReq, _, id, _, _, rfl, pc, foundConn, receiving⟩
      | _ => exact Or.inl ⟨id, _, item, foundConn, member, names⟩

/-- Only calls in the table have frames on queues. -/
theorem found_of_accepted
    (reachable : machine.Reachable live) :
    ∀ tx, Accepted live tx → (live.reqs.get? tx).isSome = true := by
  refine
    reachable.invariant
      (fun live => ∀ tx, Accepted live tx →
        (live.reqs.get? tx).isSome = true) ?_ ?_
  · rintro tx ⟨id, conn, item, foundConn, _⟩
    cases foundConn
  · intro live action next known stepped tx accepted
    refine request_kept stepped ?_
    rcases accepted_step stepped accepted with before | ⟨req, found, _⟩
    · exact known tx before
    · rw [found]
      rfl

/-- A frame that was queued stays queued. -/
theorem Accepted.step
    {action : Action} {tx : ReqId}
    (accepted : Accepted live tx)
    (stepped : live.step action = some next) :
    Accepted next tx := by
  obtain ⟨id, conn, item, foundConn, member, names⟩ := accepted
  obtain ⟨conn', foundConn', follows⟩ :=
    conn_follows_step stepped foundConn
  exact
    ⟨id, conn', item, foundConn', follows.enqueued.subset member, names⟩

/-- A send to a channel that is still received puts the frame on its queue. -/
theorem accepted_of_send
    {tx : ReqId} {outTx : ConnId} {ts hostname : String}
    {req : Request} {conn : Conn}
    (foundReq : live.reqs.get? tx = some req)
    (pc : req.pc = .enrolled outTx hostname)
    (foundConn : live.conns.get? outTx = some conn)
    (receiving : conn.receiving = true)
    (stepped : live.step (.send tx ts) = some next) :
    Accepted next tx := by
  obtain ⟨_, _, _, _, foundReq', pc', foundConn', outcomes⟩ :=
    step_send stepped
  cases foundReq.symm.trans foundReq'
  cases pc.symm.trans pc'
  cases foundConn.symm.trans foundConn'
  rcases outcomes with ⟨_, rfl⟩ | ⟨gone, _⟩
  · refine
      ⟨outTx, _, ⟨req.call.envelope req.id ts, some tx⟩,
        FiniteMap.get?_put_self _ _ _, ?_, rfl⟩
    rw [enqueue_of_receiving receiving]
    exact List.mem_append_right _ List.mem_cons_self
  · rw [gone] at receiving
    cases receiving

/-- A call that is past its send either had its frame queued or is bound to
report that the connection is gone. -/
def SentOrFailed (live : Live) (tx : ReqId) (req : Request) : Prop :=
  req.enrolledIn ≠ none → req.pc.sent = true →
    Accepted live tx ∨ req.pc.outcome? = some req.call.kind.disconnected

theorem SentOrFailed.step
    {tx : ReqId} {req moved : Request} {action : Action}
    (early : req.pc.before = true → req.enrolledIn = none)
    (before : SentOrFailed live tx req)
    (foundReq : live.reqs.get? tx = some req)
    (moves : Moves live tx req action moved)
    (stepped : live.step action = some next) :
    SentOrFailed next tx moved := by
  intro enrolled sent
  -- A call that waits for its answer had its frame queued.
  have waits (outTx : ConnId) (hostname : String) (pieces : List String)
      (waiting : req.pc = .waiting outTx hostname pieces)
      (registered : req.enrolledIn ≠ none) : Accepted next tx := by
    rcases before registered (by rw [waiting]; rfl) with accepted | failed
    · exact accepted.step stepped
    · rw [waiting] at failed
      cases failed
  cases moves with
  | stay _ =>
      exact (before enrolled sent).imp_left (·.step stepped)
  | absent isBefore => exact absurd (early isBefore) enrolled
  | lookup _ _ => cases sent
  | enroll _ _ => cases sent
  | send pc foundConn receiving =>
      exact .inl
        (accepted_of_send foundReq pc foundConn receiving stepped)
  | sendFailed _ _ _ => exact .inr rfl
  | event waiting _ _ => exact .inl (waits _ _ _ waiting enrolled)
  | ended waiting _ => exact .inl (waits _ _ _ waiting enrolled)
  | timeout waiting => exact .inl (waits _ _ _ waiting enrolled)
  | forget pc =>
      rcases before enrolled (by rw [pc]; rfl) with accepted | failed
      · exact .inl (accepted.step stepped)
      · rw [pc] at failed
        exact .inr failed
  | lookAgain pc =>
      rcases before enrolled (by rw [pc]; rfl) with accepted | failed
      · exact .inl (accepted.step stepped)
      · rw [pc] at failed
        cases failed
  | check pc _ =>
      rcases before enrolled (by rw [pc]; rfl) with accepted | failed
      · exact .inl (accepted.step stepped)
      · rw [pc] at failed
        cases failed
  | cancel pc =>
      rcases before enrolled (by rw [pc]; rfl) with accepted | failed
      · exact .inl (accepted.step stepped)
      · rw [pc] at failed
        exact .inr failed

theorem sentOrFailed_of_reachable
    (reachable : machine.Reachable live) :
    ∀ tx req, live.reqs.get? tx = some req → SentOrFailed live tx req := by
  obtain ⟨actions, reached⟩ := reachable
  refine
    @Transition.Machine.run_induction _ _ machine
      (fun _ live => ∀ tx req, live.reqs.get? tx = some req →
        SentOrFailed live tx req)
      ?_ ?_ actions live reached
  · intro tx req found
    cases found
  · intro actions live action next reached before stepped tx req' found
    have coherent := coherent_of_reachable ⟨actions, reached⟩
    cases request_step coherent stepped found with
    | created _ fresh =>
        subst fresh
        exact fun enrolled => absurd rfl enrolled
    | @moved _ req moved _ foundReq _ moves delivered =>
        subst delivered
        have settled : SentOrFailed next tx moved :=
          (before tx req foundReq).step
            (Consistent.sound coherent foundReq).early foundReq moves
            stepped
        exact settled

/-- Where a message takes a prompt. -/
inductive PromptTurn
    (outTx : ConnId) (hostname : String) (pieces : List String) :
    Event → Pc → Prop
  | last {body : ReplyBody} (done : body.done = true) :
      PromptTurn outTx hostname pieces (.reply body)
        (.forgetting outTx
          (some
            (.prompt
              (.done
                (String.join (pieces ++ body.text.toList ++ body.chunks))
                body.exit))))
  | more {body : ReplyBody} (goesOn : body.done = false) :
      PromptTurn outTx hostname pieces (.reply body)
        (.waiting outTx hostname
          (pieces ++ body.text.toList ++ body.chunks))
  | failed {body : ErrorBody} :
      PromptTurn outTx hostname pieces (.promptErr body)
        (.forgetting outTx (some (.prompt (.err body))))
  | cancelled :
      PromptTurn outTx hostname pieces .cancelled
        (.forgetting outTx (some (.prompt .cancelled)))

theorem promptTurn_of_onEvent
    {outTx : ConnId} {hostname : String} {pieces : List String}
    {event : Event} {pc : Pc}
    (handled : onEvent outTx hostname pieces .prompt event = some pc) :
    PromptTurn outTx hostname pieces event pc := by
  cases event with
  | reply body =>
      simp only [onEvent] at handled
      cases done : body.done with
      | true =>
          rw [done, if_pos rfl] at handled
          cases handled
          exact .last done
      | false =>
          rw [done, if_neg Bool.false_ne_true] at handled
          cases handled
          exact .more done
  | promptErr body =>
      cases handled
      exact .failed
  | cancelled =>
      cases handled
      exact .cancelled
  | _ => cases handled

/-- A prompt that reads the next item of its stream follows it. -/
theorem folds_event
    {req : Request} {outTx : ConnId} {hostname : String}
    {pieces : List String} {event : Event} {pc : Pc} {accepted : Prop}
    (isPrompt : req.call.kind = .prompt)
    (reading : req.Reading pieces)
    (ready : req.chan.poll = .ready event)
    (handled :
      onEvent outTx hostname pieces req.call.kind event = some pc) :
    ({ req with pc, chan := req.chan.take } : Request).Folds
      accepted := by
  rw [isPrompt] at handled
  cases promptTurn_of_onEvent handled with
  | last done =>
      exact .ofDecided rfl rfl rfl
        fun _ => reading.verdict_of_ready ready done
  | more goesOn =>
      refine .ofReading rfl ?_
      rw [List.append_assoc]
      exact reading.take ready goesOn
  | failed =>
      exact .ofDecided rfl rfl rfl
        fun _ => reading.verdict_of_ready ready rfl
  | cancelled =>
      exact .ofDecided rfl rfl rfl
        fun _ => reading.verdict_of_ready ready rfl

/-- Every move of a prompt but its timeout keeps it on its stream. -/
theorem Moves.folds
    {tx : ReqId} {req moved : Request} {action : Action}
    {accepted accepted' : Prop}
    (isPrompt : req.call.kind = .prompt)
    (noTimeout : action ≠ .timeout tx)
    (origin : accepted' → accepted ∨ Sends live tx req action)
    (folds : req.Folds accepted)
    (moves : Moves live tx req action moved) :
    moved.Folds accepted' := by
  have unsent :
      (∀ outTx hostname, req.pc ≠ .enrolled outTx hostname) →
      req.pc.sent = false → ¬ accepted' := by
    intro notEnrolled notSent isAccepted
    rcases origin isAccepted with before | ⟨_, _, _, _, _, pc, _⟩
    · exact folds.unsent notSent before
    · exact notEnrolled _ _ pc
  have unchanged :
      (∀ ts, action ≠ .send tx ts) → accepted' → accepted := by
    intro notSend isAccepted
    rcases origin isAccepted with before | ⟨ts, _, _, _, isSend, _⟩
    · exact before
    · exact absurd isSend (notSend ts)
  cases moves with
  | stay other =>
      refine folds.mono (unchanged ?_)
      intro ts isSend
      rw [isSend] at other
      exact other rfl
  | absent isBefore =>
      have notSent : req.pc.sent = false := by
        cases shape : req.pc <;> rw [shape] at isBefore <;>
          first | rfl | cases isBefore
      have never : ¬ accepted' := by
        refine unsent ?_ notSent
        intro outTx hostname pc
        rw [pc] at isBefore
        cases isBefore
      exact .ofDecided rfl rfl (by rw [isPrompt]; rfl)
        fun isAccepted => absurd isAccepted never
  | lookup pc _ =>
      refine .ofUnsent rfl (folds.fresh (by rw [pc]; rfl)) ?_
      refine unsent ?_ (by rw [pc]; rfl)
      rw [pc]
      exact nofun
  | enroll pc _ =>
      refine .ofUnsent rfl (folds.fresh (by rw [pc]; rfl)) ?_
      refine unsent ?_ (by rw [pc]; rfl)
      rw [pc]
      exact nofun
  | send pc _ _ =>
      have untaken := folds.fresh (by rw [pc]; rfl)
      refine .ofReading rfl ⟨?_, ?_, ?_⟩
      · rw [untaken]
        exact Nat.zero_le _
      · rw [untaken]
        exact nofun
      · rw [untaken]
        rfl
  | sendFailed pc found gone =>
      refine .ofDecided rfl rfl (by rw [isPrompt]; rfl) ?_
      intro isAccepted
      rcases origin isAccepted with
        before | ⟨_, _, _, _, _, pc', found', receiving⟩
      · exact absurd before (folds.unsent (by rw [pc]; rfl))
      · cases pc.symm.trans pc'
        cases found.symm.trans found'
        rw [gone] at receiving
        cases receiving
  | event waiting ready handled =>
      exact
        folds_event isPrompt (folds.reading _ _ _ waiting) ready handled
  | ended waiting ended =>
      have reading := folds.reading _ _ _ waiting
      rw [isPrompt]
      exact .ofDecided rfl rfl rfl
        fun _ => reading.verdict_of_ended ended
  | timeout _ => exact absurd rfl noTimeout
  | forget pc =>
      obtain ⟨outcome, bound, follows⟩ :=
        folds.decided (by rw [pc]; rfl) (by rw [pc]; rfl)
      rw [pc] at bound
      cases bound
      exact .ofDecided rfl rfl rfl
        fun isAccepted => follows (unchanged nofun isAccepted)
  | lookAgain pc =>
      obtain ⟨_, bound, _⟩ :=
        folds.decided (by rw [pc]; rfl) (by rw [pc]; rfl)
      rw [pc] at bound
      cases bound
  | check pc _ =>
      obtain ⟨_, bound, _⟩ :=
        folds.decided (by rw [pc]; rfl) (by rw [pc]; rfl)
      rw [pc] at bound
      cases bound
  | cancel pc =>
      obtain ⟨_, bound, _⟩ :=
        folds.decided (by rw [pc]; rfl) (by rw [pc]; rfl)
      rw [pc] at bound
      cases bound

/-- In a run without a timeout of the call, a prompt follows its stream. -/
theorem folds_of_run
    {actions : List Action}
    (reached : machine.run machine.init actions = some live)
    {tx : ReqId} (noTimeout : .timeout tx ∉ actions) :
    ∀ req, live.reqs.get? tx = some req →
      req.call.kind = .prompt → req.Folds (Accepted live tx) := by
  revert noTimeout
  refine
    @Transition.Machine.run_induction _ _ machine
      (fun actions live => .timeout tx ∉ actions →
        ∀ req, live.reqs.get? tx = some req →
          req.call.kind = .prompt → req.Folds (Accepted live tx))
      ?_ ?_ actions live reached
  · intro _ req found
    cases found
  · intro actions live action next reached folds stepped noTimeout req'
      found isPrompt
    have reachable : machine.Reachable live := ⟨actions, reached⟩
    have coherent := coherent_of_reachable reachable
    rw [List.mem_append, not_or, List.mem_singleton] at noTimeout
    have origin :
        Accepted next tx →
          Accepted live tx ∨
            ∃ req, live.reqs.get? tx = some req ∧
              Sends live tx req action :=
      fun accepted => accepted_step stepped accepted
    cases request_step coherent stepped found with
    | created absent fresh =>
        subst fresh
        refine .ofUnsent rfl rfl ?_
        intro accepted
        rcases origin accepted with before | ⟨req, present, _⟩
        · have present := found_of_accepted reachable tx before
          rw [absent] at present
          cases present
        · rw [absent] at present
          cases present
    | @moved _ req moved signals foundReq emits moves delivered =>
        subst delivered
        obtain ⟨follows, _, sameClosed⟩ :=
          moves.follows (Consistent.sound coherent foundReq).early
        have isPrompt' : req.call.kind = .prompt := by
          rw [← follows.call]
          exact isPrompt
        have before := folds noTimeout.1 req foundReq isPrompt'
        refine Request.Folds.deliver ?_ ?_
        · intro closed
          rw [sameClosed] at closed
          exact
            signalsTo_eq_nil_of_closed coherent emits foundReq closed
        · refine
            moves.folds isPrompt' (Ne.symm noTimeout.2) ?_ before
          intro accepted
          rcases origin accepted with old | ⟨req₀, foundReq₀, sends⟩
          · exact Or.inl old
          · cases foundReq₀.symm.trans foundReq
            exact Or.inr sends

end Live

namespace Registry

variable {registry : Registry} {tokenId slotId : String} {tx : ReqId}

/-- The entry of a token has a prompt slot for the call. -/
def HasPrompt
    (registry : Registry) (tokenId slotId : String) (tx : ReqId) : Prop :=
  ∃ entry, registry.get? tokenId = some entry ∧
    entry.tx? .prompt slotId = some tx

theorem HasPrompt.setEntry
    (slot : registry.HasPrompt tokenId slotId tx)
    {other : String} {entry entry' : Entry}
    (present : registry.get? other = some entry)
    (sameSlot :
      other = tokenId →
        entry'.tx? .prompt slotId = entry.tx? .prompt slotId) :
    (registry.setEntry other entry').HasPrompt tokenId slotId tx := by
  obtain ⟨stored, found, slot⟩ := slot
  by_cases same : tokenId = other
  · subst same
    cases found.symm.trans present
    refine ⟨entry', ?_, (sameSlot rfl).trans slot⟩
    rw [get?_setEntry, if_pos rfl]
  · refine ⟨stored, ?_, slot⟩
    rw [get?_setEntry, if_neg same]
    exact found

theorem HasPrompt.resolveOnce
    (slot : registry.HasPrompt tokenId slotId tx)
    (kind : Kind) (notPrompt : kind ≠ .prompt) (other id : String)
    (event : Event) :
    (registry.resolveOnce kind other id event).1.HasPrompt
      tokenId slotId tx := by
  unfold Registry.resolveOnce
  split
  next => exact slot
  next entry present =>
    split
    next => exact slot
    next =>
      refine slot.setEntry present ?_
      intro _
      rw [Entry.tx?_forget, if_neg]
      exact fun place => notPrompt place.1.symm

/-- No registry call of `handle_frame` takes a prompt slot away. -/
theorem HasPrompt.perform
    (slot : registry.HasPrompt tokenId slotId tx)
    (other : String) (now : Nat) (resolution : Resolution) :
    (registry.perform other now resolution).1.HasPrompt
      tokenId slotId tx := by
  cases resolution with
  | setHostname hostname =>
      obtain ⟨entry, found, stored⟩ := slot
      by_cases same : tokenId = other
      · subst same
        refine ⟨{ entry with hostname := hostname }, ?_, stored⟩
        exact
          (registry.get?_setHostname _ _ _).trans
            ((if_pos rfl).trans (by rw [found]; rfl))
      · refine ⟨entry, ?_, stored⟩
        exact
          (registry.get?_setHostname _ _ _).trans
            ((if_neg same).trans found)
  | pong replyTo =>
      simp only [Registry.perform, resolvePong]
      split
      next => exact slot
      next => exact slot.resolveOnce .ping (by decide) _ _ _
  | reply replyTo body => exact slot
  | promptErr replyTo body => exact slot
  | queryOk replyTo body =>
      exact slot.resolveOnce .query (by decide) _ _ _
  | queryErr replyTo body =>
      exact slot.resolveOnce .query (by decide) _ _ _
  | answerErr replyTo body =>
      exact slot.resolveOnce .answer (by decide) _ _ _
  | interruptAck ofId =>
      exact slot.resolveOnce .interrupt (by decide) _ _ _
  | answerAck ofId => exact slot.resolveOnce .answer (by decide) _ _ _

end Registry

namespace Live

variable {live next : Live}

/-- A prompt slot leaves an entry that stays registered only by a call with the
same id: its own cleanup, or an enrolment that takes its place. -/
theorem prompt_slot_step
    (settled : live.Settled)
    {action : Action} (stepped : live.step action = some next)
    {tokenId slotId : String} {tx : ReqId} {owner : ConnId}
    (slot : live.registry.HasPrompt tokenId slotId tx)
    (owned : live.owner? tokenId = some owner)
    (stays : next.owner? tokenId = some owner) :
    next.registry.HasPrompt tokenId slotId tx ∨
      ∃ caller req, (action = .forget caller ∨ action = .enroll caller) ∧
        live.reqs.get? caller = some req ∧ req.id = slotId := by
  have removed :
      ∀ {other : String},
        next.registry = (live.registry.remove other).1 →
        next.registry.HasPrompt tokenId slotId tx := by
    intro other now
    obtain ⟨entry, found, stored⟩ := slot
    by_cases same : tokenId = other
    · unfold owner? at stays
      rw [now, Registry.owner?_remove, if_pos same] at stays
      cases stays
    · rw [now]
      refine ⟨entry, ?_, stored⟩
      rw [Registry.get?_remove, if_neg same]
      exact found
  cases registryChange_step stepped with
  | same same =>
      rw [same]
      exact Or.inl slot
  | @registered id conn foundConn verified now =>
      refine Or.inl ?_
      obtain ⟨entry, found, stored⟩ := slot
      by_cases same : tokenId = conn.tokenId
      · -- the registered connection would be the one that registers
        unfold owner? at stays
        rw [now, Registry.insert, Registry.owner?_setEntry,
          if_pos same] at stays
        cases stays
        obtain ⟨conn', foundConn', notVerified⟩ :=
          settled.owner tokenId _ owned
        cases foundConn'.symm.trans foundConn
        exact absurd verified notVerified
      · refine ⟨entry, ?_, stored⟩
        rw [now, Registry.insert, Registry.get?_setEntry, if_neg same]
        exact found
  | @performed id conn resolution todo found phase now =>
      rw [now]
      exact Or.inl (slot.perform conn.tokenId live.now resolution)
  | tornDown _ now => exact Or.inl (removed now)
  | revoked now => exact Or.inl (removed now)
  | @enrolled id req entry found present now =>
      by_cases place : req.id = slotId
      · exact Or.inr ⟨id, req, Or.inr rfl, found, place⟩
      · rw [now]
        refine Or.inl (slot.setEntry present ?_)
        intro _
        rw [Entry.tx?_enroll, if_neg]
        exact fun both => place both.2.symm
  | @forgotten id req found now =>
      by_cases place : req.id = slotId
      · exact Or.inr ⟨id, req, Or.inl rfl, found, place⟩
      · refine Or.inl ?_
        rw [now]
        unfold Registry.forgetSlot
        split
        next => exact slot
        next entry present =>
          refine slot.setEntry present ?_
          intro _
          rw [Entry.tx?_forget, if_neg]
          exact fun both => place both.2.symm

/-- A listening prompt has lost its sender half only to the removal of the entry
it registered in. -/
def Detached (live : Live) : Prop :=
  ∀ tx req id, live.reqs.get? tx = some req →
    req.call.kind = .prompt → req.pc.listening = true →
    req.enrolledIn = some id → req.chan.closed = true →
    live.owner? req.tokenId ≠ some id

theorem Moves.listening
    {tx : ReqId} {req moved : Request} {action : Action}
    (moves : Moves live tx req action moved)
    (listening : moved.pc.listening = true) :
    req.pc.before = true ∨ req.pc.listening = true := by
  cases moves with
  | stay _ => exact Or.inr listening
  | enroll pc _ => exact Or.inl (by rw [pc]; rfl)
  | send pc _ _ => exact Or.inr (by rw [pc]; rfl)
  | event waiting _ _ => exact Or.inr (by rw [waiting]; rfl)
  | ended waiting _ => exact Or.inr (by rw [waiting]; rfl)
  | timeout waiting => exact Or.inr (by rw [waiting]; rfl)
  | _ => cases listening

/-- A call that cleans up or enrols is not listening before it. -/
theorem Moves.not_listening
    {tx : ReqId} {req moved : Request} {action : Action}
    (moves : Moves live tx req action moved)
    (own : action = .forget tx ∨ action = .enroll tx) :
    moved.pc.listening = false ∨ req.pc.before = true := by
  rcases own with rfl | rfl
  · cases moves with
    | stay other => exact absurd rfl other
    | absent isBefore => exact Or.inr isBefore
    | forget _ => exact Or.inl rfl
    | lookAgain _ => exact Or.inl rfl
  · cases moves with
    | stay other => exact absurd rfl other
    | absent isBefore => exact Or.inr isBefore
    | enroll pc _ => exact Or.inr (by rw [pc]; rfl)

/-- A connection that is no longer registered for a token never is again. -/
theorem owner?_ne_step
    (settled : live.Settled)
    {action : Action} (stepped : live.step action = some next)
    {tx : ReqId} {req : Request} {id : ConnId}
    (found : live.reqs.get? tx = some req)
    (enrolled : req.enrolledIn = some id) {tokenId : String}
    (gone : live.owner? tokenId ≠ some id) :
    next.owner? tokenId ≠ some id := by
  intro back
  cases ownerChange_step stepped tokenId with
  | same same => exact gone (same.symm.trans back)
  | registered foundConn _ verified now =>
      cases now.symm.trans back
      obtain ⟨conn, foundConn', notVerified⟩ :=
        settled.enrolled tx req id found enrolled
      cases foundConn'.symm.trans foundConn
      exact notVerified verified
  | tornDown _ _ now =>
      rw [now] at back
      cases back
  | revoked now =>
      rw [now] at back
      cases back

theorem Detached.step
    (detached : live.Detached) (coherent : live.Coherent)
    (settled : live.Settled)
    (unique :
      ∀ tx tx' req req', live.reqs.get? tx = some req →
        live.reqs.get? tx' = some req' → req.id = req'.id → tx = tx')
    {action : Action} (stepped : live.step action = some next) :
    next.Detached := by
  intro tx req' id found isPrompt listening enrolled closed stays
  cases request_step coherent stepped found with
  | created _ fresh =>
      subst fresh
      cases enrolled
  | @moved _ req moved signals foundReq emits moves delivered =>
      have sound := Consistent.sound coherent foundReq
      obtain ⟨follows, _, sameClosed⟩ := moves.follows sound.early
      subst delivered
      cases enrolledBefore : req.enrolledIn with
      | none =>
          obtain ⟨after, disciplined⟩ := emits.disciplined
          have noSignals :=
            Consistent.signalsTo_eq_nil coherent disciplined foundReq
              enrolledBefore
          rw [noSignals] at closed
          have wasClosed : req.chan.closed = true :=
            sameClosed.symm.trans closed
          rw [(sound.untouched enrolledBefore).2] at wasClosed
          cases wasClosed
      | some owner =>
          have notBefore : req.pc.before ≠ true := by
            intro isBefore
            rw [sound.early isBefore] at enrolledBefore
            cases enrolledBefore
          cases (follows.owner owner enrolledBefore).symm.trans enrolled
          have kindPrompt : req.call.kind = .prompt := by
            rw [← follows.call]
            exact isPrompt
          have ownedAfter : next.owner? req.tokenId = some id := by
            rw [← follows.token]
            exact stays
          cases wasClosed : req.chan.closed with
          | true =>
              have listeningBefore :=
                (moves.listening listening).resolve_left notBefore
              have gone :=
                detached tx req id foundReq kindPrompt listeningBefore
                  enrolledBefore wasClosed
              exact
                owner?_ne_step settled stepped foundReq enrolledBefore
                  gone ownedAfter
          | false =>
              obtain ⟨entry, stored, sameOwner, slot⟩ :=
                sound.alive id enrolledBefore wasClosed
              rw [kindPrompt] at slot
              have owned : live.owner? req.tokenId = some id :=
                Registry.owner?_eq_some.mpr ⟨entry, stored, sameOwner⟩
              rcases prompt_slot_step settled stepped
                ⟨entry, stored, slot⟩ owned ownedAfter with
                ⟨entry', stored', slot'⟩ |
                  ⟨caller, req₀, own, foundCaller, sameId⟩
              · obtain ⟨row, foundRow, owns⟩ :=
                  Consistent.slot (coherent.step stepped) stored' slot'
                cases foundRow.symm.trans found
                cases owns.alive.symm.trans closed
              · have same :=
                  unique caller tx req₀ req foundCaller foundReq sameId
                subst same
                rcases moves.not_listening own with
                  notListening | isBefore
                · cases notListening.symm.trans listening
                · exact notBefore isBefore

theorem detached_of_run
    {actions : List Action}
    (reached : machine.run machine.init actions = some live)
    (distinct : (actions.filterMap Action.callId?).Nodup) :
    live.Detached := by
  revert distinct
  refine
    @Transition.Machine.run_induction _ _ machine
      (fun actions live =>
        (actions.filterMap Action.callId?).Nodup → live.Detached)
      ?_ ?_ actions live reached
  · intro _ tx req id found
    cases found
  · intro actions live action next reached detached stepped distinct
    rw [List.filterMap_append] at distinct
    have distinctBefore := distinct.of_append_left
    have reachable : machine.Reachable live := ⟨actions, reached⟩
    exact
      (detached distinctBefore).step (coherent_of_reachable reachable)
        (settled_of_reachable reachable)
        (call_unique reached distinctBefore).2 stepped

/-- A prompt's outcome is the fold of its event stream.

In every run a prompt call whose frame was accepted by an outbound channel, and
whose timer does not fire, returns the verdict of its stream; one whose frame no
channel accepted returns `Disconnected`, whatever is on its stream.  The end mark is
on the stream when the entry the call registered in is gone; and when no two
calls share an id, a call that has not begun to clean up finds it there only
then. -/
theorem prompt_outcome_is_fold
    {actions : List Action}
    (reached : machine.run machine.init actions = some live)
    {tx : ReqId} {req : Request} {owner : ConnId}
    (found : live.reqs.get? tx = some req)
    (isPrompt : req.call.kind = .prompt)
    (enrolled : req.enrolledIn = some owner) :
    (∀ outcome, req.pc = .returned outcome → Accepted live tx →
      .timeout tx ∉ actions →
      ∃ decided, verdict req.stream = some decided ∧
        outcome = .prompt decided) ∧
    (∀ outcome, req.pc = .returned outcome → ¬ Accepted live tx →
      outcome = .prompt .disconnected) ∧
    (live.owner? req.tokenId ≠ some owner → .ended ∈ req.stream) ∧
    ((actions.filterMap Action.callId?).Nodup →
      req.pc.listening = true → .ended ∈ req.stream →
      live.owner? req.tokenId ≠ some owner) := by
  have coherent := coherent_of_reachable ⟨actions, reached⟩
  have endMark : .ended ∈ req.stream ↔ req.chan.closed = true := by
    unfold Request.stream
    cases req.chan.closed <;> simp
  refine ⟨?_, ?_, ?_, ?_⟩
  · intro outcome returned accepted noTimeout
    obtain ⟨decided, bound, follows⟩ :=
      (folds_of_run reached noTimeout req found isPrompt).decided
        (by rw [returned]; rfl) (by rw [returned]; rfl)
    rw [returned] at bound
    exact ⟨decided, follows accepted, Option.some.inj bound⟩
  · intro outcome returned notAccepted
    have settled :=
      sentOrFailed_of_reachable ⟨actions, reached⟩ tx req found
        (by rw [enrolled]; nofun) (by rw [returned]; rfl)
    have failed := settled.resolve_left notAccepted
    rw [returned, isPrompt] at failed
    exact Option.some.inj failed
  · intro gone
    refine endMark.mpr (Bool.of_not_eq_false ?_)
    intro stillOpen
    obtain ⟨entry, stored, sameOwner, _⟩ :=
      (Consistent.sound coherent found).alive owner enrolled stillOpen
    exact gone (Registry.owner?_eq_some.mpr ⟨entry, stored, sameOwner⟩)
  · intro distinct listening ended
    exact
      detached_of_run reached distinct tx req owner found isPrompt
        listening enrolled (endMark.mp ended)

/-- Two replies and the end of the connection. -/
def twoRepliesRun : List Action :=
  [.auth 0 "t" "client" "host", .register 0, .hello 0 true,
    .call 0 "t" "p" (.prompt "s" "hi" none), .lookup 0, .enroll 0,
    .send 0 "now",
    .frame 0 (serverEnvelope .reply "p" "now"
      (.reply ⟨"s", some "he", ["l"], false, none⟩)), .resolve 0,
    .frame 0 (serverEnvelope .reply "p" "now"
      (.reply ⟨"s", none, ["l", "o"], true, some 0⟩)), .resolve 0,
    .stop 0 true, .teardown 0, .recv 0, .recv 0, .forget 0]

theorem prompt_outcome_is_fold_twoRepliesRun :
    ∃ req, (after twoRepliesRun).reqs.get? 0 = some req ∧
      req.pc = .returned (.prompt (.done "hello" (some 0))) ∧
      ∃ decided, verdict req.stream = some decided ∧
        Outcome.prompt (.done "hello" (some 0)) = .prompt decided := by
  have reached :
      machine.run machine.init twoRepliesRun =
        some (after twoRepliesRun) := rfl
  refine ⟨_, rfl, rfl, ?_⟩
  refine
    (@prompt_outcome_is_fold _ _ reached 0 _ 0 rfl rfl rfl).1 _ rfl
      ?_ ?_
  · exact ⟨0, _, _, rfl, List.mem_cons_self, rfl⟩
  · simp [twoRepliesRun]

/-- An acknowledged interrupt cancels a prompt that has registered and not yet
sent; the connection ends before the prompt's send. -/
def cancelledBeforeSendRun : List Action :=
  [.auth 0 "t" "client" "host", .register 0, .hello 0 true,
    .call 0 "t" "p" (.prompt "s" "hi" none), .lookup 0, .enroll 0,
    .call 1 "t" "i" (.interrupt "s"), .lookup 1, .enroll 1,
    .send 1 "now",
    .frame 0 (serverEnvelope .ack "x" "now" (.ack ⟨some "i"⟩)),
    .resolve 0, .resolve 0, .recv 1, .cancel 1,
    .stop 0 false, .teardown 0, .finish 0, .send 0 "now", .forget 0]

/-- The first terminal event is the cancellation, the outcome `Disconnected`. -/
theorem cancelledBeforeSendRun_disconnected :
    ∃ live req,
      machine.run machine.init cancelledBeforeSendRun = some live ∧
      .timeout 0 ∉ cancelledBeforeSendRun ∧
      live.reqs.get? 0 = some req ∧ req.call.kind = .prompt ∧
      req.enrolledIn = some 0 ∧
      req.stream.map StreamItem.terminal = [true, true] ∧
      verdict req.stream = some .cancelled ∧
      req.pc = .returned (.prompt .disconnected) := by
  refine ⟨_, _, rfl, ?_, rfl, rfl, rfl, rfl, rfl, rfl⟩
  simp [cancelledBeforeSendRun]

end Live

end HollerServer.Wire
