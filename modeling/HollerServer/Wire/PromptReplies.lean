import HollerServer.Wire.Turns

/-!
# The replies behind a finished prompt

A prompt call that is bound to `Done` has taken from its channel a finished
reply and in front of it only unfinished ones; the text is theirs.  The replies
on a channel grow in one way: a connection of the call's token hands over a
reply that names the call's id while the call has its slot.
-/

namespace HollerServer.Wire

open HollerServer.Proto

def Event.reply? : Event → Option ReplyBody
  | .reply body => some body
  | _ => none

/-- The replies sent to a call. -/
def Request.replies (req : Request) : List ReplyBody :=
  req.chan.sent.filterMap Event.reply?

/-- Replies of which only the last is finished, with the text and the exit code
they add up to. -/
structure Composes
    (replies : List ReplyBody) (text : String) (exit : Option Int64) :
    Prop where
  finished :
    ∃ earlier last, replies = earlier ++ [last] ∧
      (∀ reply ∈ earlier, reply.done = false) ∧
      last.done = true ∧ last.exit = exit
  text :
    text =
      String.join
        (replies.flatMap fun reply => reply.text.toList ++ reply.chunks)

/-- A prompt call keeps to what it has read. -/
structure Request.Told (req : Request) : Prop where
  bounded : req.chan.taken ≤ req.chan.sent.length
  fresh : req.pc.sent = false → req.chan.taken = 0
  reading :
    ∀ outTx hostname pieces, req.pc = .waiting outTx hostname pieces →
      req.Reading pieces
  answered :
    ∀ text exit, req.pc.outcome? = some (.prompt (.done text exit)) →
      ∃ replies,
        req.chan.sent.take req.chan.taken = replies.map .reply ∧
        Composes replies text exit

/-- Events of a prompt that do not end it are unfinished replies. -/
theorem exists_replies
    {events : List Event}
    (prompt : ∀ event ∈ events, event.kind = .prompt)
    (undecided :
      ∀ item ∈ events.map StreamItem.event, item.terminal = false) :
    ∃ replies : List ReplyBody, events = replies.map .reply ∧
      ∀ reply ∈ replies, reply.done = false := by
  induction events with
  | nil => exact ⟨[], rfl, nofun⟩
  | cons event rest inductionHypothesis =>
      obtain ⟨replies, same, unfinished⟩ :=
        inductionHypothesis
          (fun event member =>
            prompt event (List.mem_cons_of_mem _ member))
          (fun item member =>
            undecided item (List.mem_cons_of_mem _ member))
      have promptEvent := prompt event List.mem_cons_self
      have notTerminal := undecided (.event event) List.mem_cons_self
      cases event with
      | reply body =>
          refine ⟨body :: replies, ?_, ?_⟩
          · rw [List.map_cons, same]
          · intro reply member
            rcases List.mem_cons.mp member with rfl | inRest
            · exact notTerminal
            · exact unfinished reply inRest
      | promptErr _ | cancelled => cases notTerminal
      | _ => cases promptEvent

theorem texts_map_reply (replies : List ReplyBody) :
    ((replies.map Event.reply).map StreamItem.event).flatMap
        StreamItem.texts =
      replies.flatMap fun reply => reply.text.toList ++ reply.chunks := by
  rw [List.map_map, List.flatMap_map]
  rfl

/-- A finished reply ends what the call has read. -/
theorem Request.Reading.composes
    {req : Request} {pieces : List String} {body : ReplyBody}
    (prompt : ∀ event ∈ req.chan.sent, event.kind = .prompt)
    (reading : req.Reading pieces)
    (ready : req.chan.poll = .ready (.reply body))
    (done : body.done = true) :
    ∃ replies,
      req.chan.sent.take (req.chan.taken + 1) = replies.map .reply ∧
      Composes replies
        (String.join (pieces ++ body.text.toList ++ body.chunks))
        body.exit := by
  have atTaken := Channel.poll_eq_ready.mp ready
  obtain ⟨inside, same⟩ := List.getElem?_eq_some_iff.mp atTaken
  obtain ⟨earlier, read, unfinished⟩ :=
    exists_replies
      (fun event member => prompt event (List.mem_of_mem_take member))
      reading.undecided
  refine ⟨earlier ++ [body], ?_, ?_, ?_⟩
  · rw [List.take_succ_eq_append_getElem inside, same, read,
      List.map_append]
    rfl
  · exact ⟨earlier, body, rfl, unfinished, done, rfl⟩
  · have collected := reading.collected
    rw [read, texts_map_reply] at collected
    rw [collected, List.flatMap_append, List.flatMap_singleton,
      List.append_assoc]

/-- Signals of a critical section come behind what was read. -/
theorem Request.Told.deliver
    {req : Request} (told : req.Told) (signals : List (Signal Event)) :
    ({ req with chan := req.chan.applyAll signals } : Request).Told := by
  have bounded := told.bounded
  have sameRead :
      (req.chan.applyAll signals).sent.take
          (req.chan.applyAll signals).taken =
        req.chan.sent.take req.chan.taken := by
    rw [Channel.taken_applyAll, Channel.sent_applyAll,
      List.take_append_of_le_length bounded]
  have boundedAfter :
      (req.chan.applyAll signals).taken ≤
        (req.chan.applyAll signals).sent.length := by
    rw [Channel.taken_applyAll, Channel.sent_applyAll,
      List.length_append]
    omega
  refine ⟨boundedAfter, ?_, ?_, ?_⟩
  · intro notSent
    exact (Channel.taken_applyAll _ _).trans (told.fresh notSent)
  · intro outTx hostname pieces waiting
    have reading := told.reading outTx hostname pieces waiting
    refine ⟨boundedAfter, ?_, ?_⟩
    · simp only [sameRead]
      exact reading.undecided
    · simp only [sameRead]
      exact reading.collected
  · intro text exit bound
    obtain ⟨replies, read, composes⟩ := told.answered text exit bound
    exact ⟨replies, sameRead.trans read, composes⟩

theorem outcome?_of_unsent {pc : Pc} (unsent : pc.sent = false) :
    pc.outcome? = none := by
  cases pc <;> first | rfl | cases unsent

namespace Request.Told

variable {req : Request}

/-- A call that has neither read anything nor is bound to an answer. -/
theorem ofUnread
    (untaken : req.chan.taken = 0)
    (unsent : req.pc.sent = false) :
    req.Told where
  bounded := by
    rw [untaken]
    exact Nat.zero_le _
  fresh := fun _ => untaken
  reading := by
    intro outTx hostname pieces waiting
    rw [waiting] at unsent
    cases unsent
  answered := by
    intro text exit bound
    rw [outcome?_of_unsent unsent] at bound
    cases bound

/-- A call that goes on reading. -/
theorem ofReading
    {outTx : ConnId} {hostname : String} {pieces : List String}
    (waiting : req.pc = .waiting outTx hostname pieces)
    (reading : req.Reading pieces) :
    req.Told where
  bounded := reading.bounded
  fresh := by
    intro notSent
    rw [waiting] at notSent
    cases notSent
  reading := by
    intro outTx' hostname' pieces' waiting'
    cases waiting.symm.trans waiting'
    exact reading
  answered := by
    intro text exit bound
    rw [waiting] at bound
    cases bound

/-- A call that is bound to an outcome. -/
theorem ofAnswered
    (bounded : req.chan.taken ≤ req.chan.sent.length)
    (sent : req.pc.sent = true)
    (notWaiting : req.pc.listening = false)
    (answered :
      ∀ text exit, req.pc.outcome? = some (.prompt (.done text exit)) →
        ∃ replies,
          req.chan.sent.take req.chan.taken = replies.map .reply ∧
          Composes replies text exit) :
    req.Told where
  bounded := bounded
  fresh := by
    intro notSent
    rw [sent] at notSent
    cases notSent
  reading := by
    intro outTx hostname pieces waiting
    rw [waiting] at notWaiting
    cases notWaiting
  answered := answered

/-- A call that is bound to another outcome. -/
theorem ofOther
    (bounded : req.chan.taken ≤ req.chan.sent.length)
    (sent : req.pc.sent = true)
    (notWaiting : req.pc.listening = false)
    (other :
      ∀ text exit, req.pc.outcome? ≠ some (.prompt (.done text exit))) :
    req.Told :=
  ofAnswered bounded sent notWaiting
    fun text exit bound => absurd bound (other text exit)

end Request.Told

theorem disconnected_ne_done (kind : Kind) (text : String)
    (exit : Option Int64) :
    kind.disconnected ≠ .prompt (.done text exit) := by
  cases kind <;> exact nofun

namespace Live

variable {live next : Live}

/-- A prompt that reads the next item keeps to what it has read. -/
theorem told_event
    {req : Request} {outTx : ConnId} {hostname : String}
    {pieces : List String} {event : Event} {pc : Pc}
    (isPrompt : req.call.kind = .prompt)
    (fits : ∀ event ∈ req.chan.sent, event.kind = .prompt)
    (reading : req.Reading pieces)
    (ready : req.chan.poll = .ready event)
    (handled :
      onEvent outTx hostname pieces req.call.kind event = some pc) :
    ({ req with pc, chan := req.chan.take } : Request).Told := by
  have inside : req.chan.taken + 1 ≤ req.chan.sent.length :=
    (List.getElem?_eq_some_iff.mp (Channel.poll_eq_ready.mp ready)).1
  rw [isPrompt] at handled
  cases promptTurn_of_onEvent handled with
  | last done =>
      refine .ofAnswered inside rfl rfl ?_
      intro text exit bound
      cases bound
      exact reading.composes fits ready done
  | more goesOn =>
      refine .ofReading rfl ?_
      rw [List.append_assoc]
      exact reading.take ready goesOn
  | failed =>
      refine .ofOther inside rfl rfl ?_
      intro text exit bound
      cases bound
  | cancelled =>
      refine .ofOther inside rfl rfl ?_
      intro text exit bound
      cases bound

/-- Every move of a prompt keeps to what it has read. -/
theorem Moves.told
    {tx : ReqId} {req moved : Request} {action : Action}
    (isPrompt : req.call.kind = .prompt)
    (fits : ∀ event ∈ req.chan.sent, event.kind = .prompt)
    (told : req.Told)
    (moves : Moves live tx req action moved) :
    moved.Told := by
  have bounded := told.bounded
  have notDone :
      ∀ text exit,
        some req.call.kind.disconnected ≠
          some (.prompt (.done text exit)) :=
    fun text exit same =>
      disconnected_ne_done _ text exit (Option.some.inj same)
  cases moves with
  | stay _ => exact told
  | absent _ => exact .ofOther bounded rfl rfl notDone
  | lookup pc _ => exact .ofUnread (told.fresh (by rw [pc]; rfl)) rfl
  | enroll pc _ => exact .ofUnread (told.fresh (by rw [pc]; rfl)) rfl
  | send pc _ _ =>
      have untaken := told.fresh (by rw [pc]; rfl)
      refine .ofReading rfl ⟨bounded, ?_, ?_⟩
      · intro item member
        rw [untaken] at member
        cases member
      · rw [untaken]
        rfl
  | sendFailed _ _ _ => exact .ofOther bounded rfl rfl notDone
  | event waiting ready handled =>
      exact
        told_event isPrompt fits (told.reading _ _ _ waiting) ready
          handled
  | ended _ _ =>
      rw [isPrompt]
      exact .ofOther bounded rfl rfl nofun
  | timeout _ =>
      rw [isPrompt]
      exact .ofOther bounded rfl rfl nofun
  | forget pc =>
      refine .ofAnswered bounded rfl rfl ?_
      intro text exit bound
      refine told.answered text exit ?_
      rw [pc]
      exact bound
  | lookAgain _ => exact .ofOther bounded rfl rfl nofun
  | @check _ _ outcome _ checked =>
      rw [isPrompt] at checked
      cases checked
  | cancel _ => exact .ofOther bounded rfl rfl nofun

theorem told_of_reachable (reachable : machine.Reachable live) :
    ∀ tx req, live.reqs.get? tx = some req →
      req.call.kind = .prompt → req.Told := by
  refine
    row_of_reachable
      (fun req => req.call.kind = .prompt → req.Told) ?_ ?_ ?_ reachable
  · intro tokenId envelopeId call _
    exact .ofUnread rfl rfl
  · intro live action tx req moved sound told moves isPrompt
    obtain ⟨follows, _, _⟩ := moves.follows sound.early
    have wasPrompt : req.call.kind = .prompt := by
      rw [← follows.call]
      exact isPrompt
    have fits : ∀ event ∈ req.chan.sent, event.kind = .prompt := by
      intro event member
      rw [sound.fits event member, wasPrompt]
    exact moves.told wasPrompt fits (told wasPrompt)
  · intro req signals told isPrompt
    exact (told isPrompt).deliver _

/-- The replies on a channel after the signals of a critical section. -/
theorem replies_applyAll (req : Request) (signals : List (Signal Event)) :
    ({ req with chan := req.chan.applyAll signals } : Request).replies =
      req.replies ++
        (signals.filterMap Signal.item?).filterMap Event.reply? := by
  unfold Request.replies
  rw [Channel.sent_applyAll, List.filterMap_append]

/-- A section that sends a call no reply leaves its replies. -/
theorem replies_applyAll_of_silent
    {req : Request} {tx : ReqId} {signals : Signals}
    (silent : ∀ body, (tx, .send (.reply body)) ∉ signals) :
    ({ req with
        chan := req.chan.applyAll (signalsTo tx signals) } :
      Request).replies = req.replies := by
  have noReplies :
      ((signalsTo tx signals).filterMap Signal.item?).filterMap
        Event.reply? = [] := by
    refine List.filterMap_eq_nil_iff.mpr ?_
    intro event member
    obtain ⟨signal, signaled, item⟩ := List.mem_filterMap.mp member
    cases signal with
    | drop => cases item
    | send sent =>
        cases item
        cases event with
        | reply body =>
            exact absurd (mem_signalsTo.mp signaled) (silent body)
        | _ => rfl
  rw [replies_applyAll, noReplies, List.append_nil]

/-- A move of a call does not change its replies. -/
theorem Moves.replies
    {tx : ReqId} {req moved : Request} {action : Action}
    (early : req.pc.before = true → req.enrolledIn = none)
    (moves : Moves live tx req action moved) :
    moved.replies = req.replies := by
  obtain ⟨_, sameSent, _⟩ := moves.follows early
  unfold Request.replies
  rw [sameSent]

/-- Only a handed over reply adds to the replies of a call. -/
theorem replies_step_of_silent
    (coherent : live.Coherent)
    {action : Action} {tx : ReqId} {req req' : Request}
    (stepped : live.step action = some next)
    (found : live.reqs.get? tx = some req)
    (found' : next.reqs.get? tx = some req')
    (silent :
      ∀ id conn replyTo body todo, action = .resolve id →
        live.conns.get? id = some conn →
        conn.phase ≠ .session (.reply replyTo body :: todo)) :
    req'.replies = req.replies := by
  cases request_step coherent stepped found' with
  | created absent _ =>
      rw [found] at absent
      cases absent
  | @moved _ origin moved signals foundOrigin emits moves delivered =>
      cases foundOrigin.symm.trans found
      subst delivered
      refine Eq.trans ?_
        (moves.replies (Consistent.sound coherent found).early)
      refine replies_applyAll_of_silent ?_
      intro body member
      cases emits with
      | drops _ never => exact never tx (.reply body) member
      | cancel _ _ =>
          cases Registry.mem_cancelPendingPromptsForSession member
      | @resolve id conn resolution todo foundConn phase =>
          obtain ⟨_, replyTo, _, _, yields⟩ := Registry.mem_perform member
          cases yields
          exact silent id conn replyTo body todo rfl foundConn phase

/-- The call is a prompt with this token and id that has its slot. -/
structure Listens (req : Request) (tokenId id : String) : Prop where
  isPrompt : req.call.kind = .prompt
  token : req.tokenId = tokenId
  id : req.id = id
  enrolled : req.enrolledIn ≠ none
  open' : req.chan.closed = false

section HandedOver

variable {id : ConnId} {conn : Conn} {replyTo : String}
  {body : ReplyBody} {todo : List Resolution} {tx : ReqId}
  {req req' : Request}

/-- The row of a call after a reply was handed over. -/
theorem row_of_handed_over
    (stepped : live.step (.resolve id) = some next)
    (foundConn : live.conns.get? id = some conn)
    (phase : conn.phase = .session (.reply replyTo body :: todo))
    (found : live.reqs.get? tx = some req)
    (found' : next.reqs.get? tx = some req') :
    req' =
      { req with
        chan :=
          req.chan.applyAll
            (signalsTo tx
              (live.registry.notifyPrompt conn.tokenId replyTo
                (.reply body))) } := by
  obtain ⟨conn', resolution, rest, foundConn', phase', rfl⟩ :=
    step_resolve stepped
  cases foundConn'.symm.trans foundConn
  cases phase'.symm.trans phase
  have delivered :=
    get?_deliver_of_found found
      (live.registry.notifyPrompt conn.tokenId replyTo (.reply body))
  exact Option.some.inj (found'.symm.trans delivered)

/-- A reply that is handed over reaches the prompt of that token and id. -/
theorem replies_step_of_listens
    (coherent : live.Coherent)
    (stepped : live.step (.resolve id) = some next)
    (foundConn : live.conns.get? id = some conn)
    (phase : conn.phase = .session (.reply replyTo body :: todo))
    (found : live.reqs.get? tx = some req)
    (found' : next.reqs.get? tx = some req')
    (listens : Listens req conn.tokenId replyTo) :
    req'.replies = req.replies ++ [body] := by
  obtain ⟨owner, enrolled⟩ :=
    Option.ne_none_iff_exists'.mp listens.enrolled
  obtain ⟨entry, stored, _, slot⟩ :=
    (Consistent.sound coherent found).alive owner enrolled listens.open'
  rw [listens.isPrompt, listens.id] at slot
  rw [listens.token] at stored
  obtain ⟨⟨session, target⟩, pending, same⟩ :=
    Option.map_eq_some_iff.mp slot
  have place :
      live.registry.prompt? conn.tokenId replyTo =
        some (session, tx) := by
    rw [Registry.prompt?_of_get? stored, pending, ← same]
  rw [row_of_handed_over stepped foundConn phase found found',
    replies_applyAll, notifyPrompt_of_prompt? place]
  simp [signalsTo, Signal.item?, Event.reply?]

/-- It reaches no other call. -/
theorem replies_step_of_not_listens
    (coherent : live.Coherent)
    (stepped : live.step (.resolve id) = some next)
    (foundConn : live.conns.get? id = some conn)
    (phase : conn.phase = .session (.reply replyTo body :: todo))
    (found : live.reqs.get? tx = some req)
    (found' : next.reqs.get? tx = some req')
    (deaf : ¬ Listens req conn.tokenId replyTo) :
    req'.replies = req.replies := by
  rw [row_of_handed_over stepped foundConn phase found found']
  refine replies_applyAll_of_silent ?_
  intro sent member
  obtain ⟨_, entry, stored, slot⟩ := Registry.mem_notifyPrompt member
  obtain ⟨owner, foundOwner, owns⟩ :=
    Consistent.slot coherent stored slot
  cases foundOwner.symm.trans found
  refine deaf ⟨owns.kind, owns.token, owns.id, ?_, owns.alive⟩
  rw [owns.owner]
  exact nofun

end HandedOver

end Live

end HollerServer.Wire
