import HollerServer.Wire.Talk
import HollerServer.Wire.TalkText

/-!
# When the talk log agrees with the answers

The entry of a prompt holds the frames appended to it.  While the call runs and
has its channel, these are the replies on the channel and behind them the frames
that are recorded and not yet handed over; later the replies on the channel stay
in front.  So the replies a finished call has taken are the first of the entry,
provided that the two halves of the handling of every frame do the same.
-/

namespace HollerServer.Wire

open HollerServer.Proto
open Transition

namespace Talk

variable {json : TalkJson} {talk next : Talk}

theorem replyFrame?_eq_some {id : ConnId} {frame : ReplyFrame} :
    talk.replyFrame? id = some frame ↔
      ∃ conn todo, talk.live.conns.get? id = some conn ∧
        conn.phase = .session (.reply frame.id frame.body :: todo) ∧
        conn.tokenId = frame.tokenId ∧ frame.conn = id := by
  unfold replyFrame?
  rw [Option.bind_eq_some_iff]
  constructor
  · rintro ⟨conn, found, handled⟩
    unfold Conn.replyFrame? at handled
    split at handled
    next replyTo body todo phase =>
      cases handled
      exact ⟨conn, todo, found, phase, rfl, rfl⟩
    next => cases handled
  · rintro ⟨conn, todo, found, phase, sameToken, rfl⟩
    refine ⟨conn, found, ?_⟩
    unfold Conn.replyFrame?
    rw [phase]
    simp only [sameToken]

/-- A connection goes on with the frame it handles until it hands it over. -/
theorem replyFrame?_step
    {action : Action} {id : ConnId} {frame : ReplyFrame}
    (stepped : talk.live.step action = some next.live)
    (handles : talk.replyFrame? id = some frame)
    (other : action ≠ .resolve id) :
    next.replyFrame? id = some frame := by
  obtain ⟨conn, todo, found, phase, token, sameConn⟩ :=
    replyFrame?_eq_some.mp handles
  obtain ⟨conn', found', sameToken, samePhase⟩ :=
    Live.busy_step stepped found phase other
  exact
    replyFrame?_eq_some.mpr
      ⟨conn', todo, found', samePhase.trans phase,
        sameToken.trans token, sameConn⟩

theorem step_wire {action : Action}
    (stepped : talk.step json (.wire action) = some next) :
    talk.allows action = true ∧
      ∃ live, talk.live.step action = some live ∧
        next = { talk with live, recorded := talk.leftBy action } := by
  simp only [step] at stepped
  split at stepped
  next allowed =>
    obtain ⟨live, liveStepped, rfl⟩ :=
      Option.map_eq_some_iff.mp stepped
    exact ⟨allowed, live, liveStepped, rfl⟩
  next => cases stepped

theorem step_recordReply {conn : ConnId} {ts : String}
    (stepped : talk.step json (.recordReply conn ts) = some next) :
    (∀ frame ∈ talk.recorded, frame.conn ≠ conn) ∧
      ∃ frame, talk.replyFrame? conn = some frame ∧
        next = talk.record json frame ts := by
  simp only [step] at stepped
  split at stepped
  next => cases stepped
  next unrecorded =>
    obtain ⟨frame, handles, rfl⟩ := Option.map_eq_some_iff.mp stepped
    refine ⟨?_, frame, handles, rfl⟩
    simpa using unrecorded

/-- What the log owes to a prompt call for a session. -/
structure Kept
    (json : TalkJson) (talk : Talk) (request : Request)
    (session : String) : Prop where
  entry :
    ∃ entry, talk.log.entriesFor json session request.id = [entry] ∧
      entry.replies.map TalkReplyRecord.content =
        (talk.appendedTo session request.id).map fun frame =>
          replyContent frame.body
  attributed :
    ∀ frame ∈ talk.appendedTo session request.id,
      frame.tokenId = request.tokenId
  behind :
    request.replies <+:
      (talk.appendedTo session request.id).map ReplyFrame.body
  level :
    request.pc.isReturned = false → request.chan.closed = false →
      (talk.appendedTo session request.id).map ReplyFrame.body =
        request.replies ++ (talk.awaiting request).map ReplyFrame.body

/-- The log and the server agree about every prompt. -/
structure Sound (json : TalkJson) (talk : Talk) : Prop where
  reachable : Live.machine.Reachable talk.live
  handled :
    ∀ frame ∈ talk.recorded, talk.replyFrame? frame.conn = some frame
  distinct : (talk.recorded.map ReplyFrame.conn).Nodup
  known :
    ∀ frame ∈ talk.appended,
      frame.id ∈
        (talk.log.load json frame.body.session).map TalkEntry.id
  kept :
    ∀ req request session, talk.live.reqs.get? req = some request →
      request.call.prompts? = some session →
      Kept json talk request session

theorem reachable_step {live live' : Live} {action : Action}
    (reachable : Live.machine.Reachable live)
    (stepped : live.step action = some live') :
    Live.machine.Reachable live' := by
  have ran : Live.machine.step live action = some live' := stepped
  exact reachable.step ran

theorem sound_init (log : TalkLog) : Sound json { log } where
  reachable := Live.machine.reachable_init
  handled := by
    intro frame member
    cases member
  distinct := List.nodup_nil
  known := by
    intro frame member
    cases member
  kept := by
    intro req request session found
    cases found

theorem step_say {req : ReqId} {tokenId promptId session text ts : String}
    (stepped :
      talk.step json (.say req tokenId promptId session text ts) =
        some next) :
    ∃ live,
      talk.live.step
          (.call req tokenId promptId (.prompt session text none)) =
        some live ∧
      next =
        { talk with
          live
          log := talk.log.recordPrompt json ts promptId session text } := by
  obtain ⟨live, called, rfl⟩ := Option.map_eq_some_iff.mp stepped
  exact ⟨live, called, rfl⟩

theorem kind_of_prompts? {call : Call} {session : String}
    (prompts : call.prompts? = some session) : call.kind = .prompt := by
  cases call <;> first | rfl | cases prompts

/-- The entries of other prompts stay where they are. -/
theorem entriesFor_recordPrompt_of_ne
    (roundTrips : json.RoundTrips)
    {ts id session text session' id' : String} {log : TalkLog}
    (different : id ≠ id') :
    (log.recordPrompt json ts id session text).entriesFor json session'
        id' =
      log.entriesFor json session' id' := by
  unfold TalkLog.entriesFor TalkLog.read
  rw [TalkLog.load_recordPrompt roundTrips, List.filter_append]
  split
  next => simp [different]
  next => simp

/-- A new id has one entry after its prompt was recorded. -/
theorem entriesFor_recordPrompt_self
    (roundTrips : json.RoundTrips)
    {ts id session text : String} {log : TalkLog}
    (unused : ∀ entry ∈ log.load json session, entry.id ≠ id) :
    (log.recordPrompt json ts id session text).entriesFor json session
        id =
      [{ id, session, promptText := text, promptTs := ts,
         replies := [] }] := by
  unfold TalkLog.entriesFor TalkLog.read
  have noneBefore :
      ((log.load json session).filter fun entry => entry.id = id) =
        [] := by
    refine List.filter_eq_nil_iff.mpr ?_
    intro entry member
    simpa using unused entry member
  have sameFile : TalkLog.SameFile session session := rfl
  rw [TalkLog.load_recordPrompt roundTrips, if_pos sameFile,
    List.filter_append, noneBefore]
  simp

/-- The new prompt of a `say` starts with an empty entry. -/
theorem kept_said
    (roundTrips : json.RoundTrips) (sound : Sound json talk)
    {req : ReqId} {tokenId promptId session text ts : String}
    (fresh :
      talk.Fresh json (.say req tokenId promptId session text ts))
    (live : Live) :
    Kept json
      { talk with
        live
        log := talk.log.recordPrompt json ts promptId session text }
      { tokenId, id := promptId, call := .prompt session text none }
      session := by
  obtain ⟨_, unused, unawaited⟩ := fresh
  have noneAppended : talk.appendedTo session promptId = [] := by
    refine List.filter_eq_nil_iff.mpr ?_
    intro frame member names
    obtain ⟨sameId, sameFile⟩ := of_decide_eq_true names
    obtain ⟨entry, present, entryId⟩ :=
      List.mem_map.mp (sound.known frame member)
    rw [TalkLog.load_congr sameFile] at present
    exact unused entry present (entryId.trans sameId)
  refine ⟨⟨_, entriesFor_recordPrompt_self roundTrips unused, ?_⟩, ?_, ?_,
    ?_⟩
  · show [] = (talk.appendedTo session promptId).map _
    rw [noneAppended]
    rfl
  · intro frame member
    have impossible : frame ∈ talk.appendedTo session promptId := member
    rw [noneAppended] at impossible
    cases impossible
  · exact List.nil_prefix
  · intro _ _
    have noneAwaited :
        (talk.recorded.filter fun frame =>
          frame.tokenId = tokenId ∧ frame.id = promptId) = [] := by
      refine List.filter_eq_nil_iff.mpr ?_
      intro frame member matching
      exact unawaited frame member (of_decide_eq_true matching).2
    show (talk.appendedTo session promptId).map ReplyFrame.body =
      [] ++ (talk.recorded.filter fun frame =>
        frame.tokenId = tokenId ∧ frame.id = promptId).map _
    rw [noneAppended, noneAwaited]
    rfl

/-- A `say` keeps the agreement about the earlier prompts. -/
theorem Kept.said
    (roundTrips : json.RoundTrips)
    {request : Request} {session : String}
    (kept : Kept json talk request session)
    {promptId session' text ts : String} {live : Live}
    (different : promptId ≠ request.id) :
    Kept json
      { talk with
        live
        log := talk.log.recordPrompt json ts promptId session' text }
      request session := by
  obtain ⟨entry, only, holds⟩ := kept.entry
  refine ⟨⟨entry, ?_, holds⟩, kept.attributed, kept.behind, kept.level⟩
  exact (entriesFor_recordPrompt_of_ne roundTrips different).trans only

theorem Sound.say
    (roundTrips : json.RoundTrips) (sound : Sound json talk)
    {req : ReqId} {tokenId promptId session text ts : String}
    (fresh :
      talk.Fresh json (.say req tokenId promptId session text ts))
    (stepped :
      talk.step json (.say req tokenId promptId session text ts) =
        some next) :
    Sound json next := by
  obtain ⟨live, called, rfl⟩ := step_say stepped
  have reached : Live.machine.Reachable live :=
    reachable_step sound.reachable called
  refine ⟨reached, ?_, sound.distinct, ?_, ?_⟩
  · intro frame member
    exact replyFrame?_step called (sound.handled frame member) nofun
  · intro frame member
    rw [TalkLog.load_recordPrompt roundTrips, List.map_append]
    exact List.mem_append_left _ (sound.known frame member)
  · intro req' request session' found prompts
    obtain ⟨_, rfl⟩ := Live.step_call called
    have row := (FiniteMap.get?_put _ _ _ _).symm.trans found
    split at row
    next =>
      cases row
      cases prompts
      exact kept_said roundTrips sound fresh _
    next =>
      refine
        (sound.kept req' request session' row prompts).said roundTrips ?_
      refine Ne.symm (fresh.1 request ?_ (kind_of_prompts? prompts))
      exact FiniteMap.mem_values.mpr ⟨req', row⟩

/-- A frame that names no entry of a prompt changes nothing for it, unless it is
a frame of the call's token that waits to be handed over. -/
theorem Kept.recordedApart
    (roundTrips : json.RoundTrips)
    {request : Request} {session ts : String} {frame : ReplyFrame}
    (kept : Kept json talk request session)
    (elsewhere : frame.names session request.id = false)
    (unawaited :
      request.pc.isReturned = false → frame.id = request.id →
        frame.tokenId ≠ request.tokenId) :
    Kept json (talk.record json frame ts) request session := by
  have apart :
      request.id = frame.id →
        ¬ TalkLog.SameFile session frame.body.session :=
    fun sameId sameFile =>
      of_decide_eq_false elsewhere ⟨sameId.symm, sameFile.symm⟩
  have sameAppended :
      (talk.record json frame ts).appendedTo session request.id =
        talk.appendedTo session request.id := by
    unfold appendedTo record
    simp only
    split
    next =>
      rw [List.filter_append, List.filter_cons_of_neg (by simp [elsewhere])]
      exact List.append_nil _
    next => rfl
  obtain ⟨entry, only, holds⟩ := kept.entry
  refine ⟨⟨entry, ?_, ?_⟩, ?_, ?_, ?_⟩
  · exact
      (TalkLog.entriesFor_recordReply_of_ne roundTrips apart).trans only
  · rw [sameAppended]
    exact holds
  · rw [sameAppended]
    exact kept.attributed
  · rw [sameAppended]
    exact kept.behind
  · intro running stillOpen
    have sameAwaiting :
        (talk.record json frame ts).awaiting request =
          talk.awaiting request := by
      have noMatch :
          ¬ (frame.tokenId = request.tokenId ∧ frame.id = request.id) :=
        fun both => unawaited running both.2 both.1
      show (talk.recorded ++ [frame]).filter _ = _
      rw [List.filter_append, List.filter_cons_of_neg (by simpa using noMatch)]
      exact List.append_nil _
    rw [sameAppended, sameAwaiting]
    exact kept.level running stillOpen

/-- A frame of the call's token that names its entry is appended to it, and
waits to be handed over. -/
theorem Kept.recordedHere
    (roundTrips : json.RoundTrips)
    {request : Request} {session ts : String} {frame : ReplyFrame}
    (kept : Kept json talk request session)
    (sameId : frame.id = request.id)
    (sameFile : TalkLog.SameFile frame.body.session session)
    (sameToken : frame.tokenId = request.tokenId) :
    Kept json (talk.record json frame ts) request session := by
  obtain ⟨entry, only, holds⟩ := kept.entry
  have found : talk.finds json frame = true := by
    have present :
        (talk.log.load json session).findKey TalkEntry.id request.id =
          some entry :=
      List.findKey_of_filter only
    unfold finds
    rw [TalkLog.load_congr sameFile, sameId, present]
    rfl
  have names : frame.names session request.id = true :=
    decide_eq_true ⟨sameId, sameFile⟩
  have longer :
      (talk.record json frame ts).appendedTo session request.id =
        talk.appendedTo session request.id ++ [frame] := by
    unfold appendedTo record
    simp only [found, if_true]
    rw [List.filter_append, List.filter_cons_of_pos (by simpa using names)]
    rfl
  have awaited :
      (talk.record json frame ts).awaiting request =
        talk.awaiting request ++ [frame] := by
    show (talk.recorded ++ [frame]).filter _ = _
    rw [List.filter_append,
      List.filter_cons_of_pos (by simpa using ⟨sameToken, sameId⟩)]
    rfl
  refine ⟨?_, ?_, ?_, ?_⟩
  · obtain ⟨entry', only', holds'⟩ :=
      TalkLog.entriesFor_recordReply_self roundTrips
        (Eq.symm sameFile : TalkLog.SameFile session frame.body.session)
        only
    refine ⟨entry', ?_, ?_⟩
    · rw [← only', ← sameId]
      rfl
    · rw [holds', holds, longer, List.map_append]
      rfl
  · intro other member
    rw [longer] at member
    rcases List.mem_append.mp member with old | new
    · exact kept.attributed other old
    · rw [List.mem_singleton.mp new]
      exact sameToken
  · rw [longer, List.map_append]
    exact kept.behind.trans (List.prefix_append _ _)
  · intro running stillOpen
    rw [longer, awaited, List.map_append, List.map_append,
      kept.level running stillOpen, List.append_assoc]

theorem Sound.recordReply
    (roundTrips : json.RoundTrips) (sound : Sound json talk)
    {conn : ConnId} {ts : String}
    (careful : talk.Careful (.recordReply conn ts))
    (stepped : talk.step json (.recordReply conn ts) = some next) :
    Sound json next := by
  obtain ⟨unrecorded, frame, handles, rfl⟩ := step_recordReply stepped
  have attributed : talk.Attributed frame := careful frame handles
  obtain ⟨_, _, _, _, _, sameConn⟩ := replyFrame?_eq_some.mp handles
  refine ⟨sound.reachable, ?_, ?_, ?_, ?_⟩
  · intro other member
    rcases List.mem_append.mp member with old | new
    · exact sound.handled other old
    · rw [List.mem_singleton.mp new, sameConn]
      exact handles
  · show ((talk.recorded ++ [frame]).map ReplyFrame.conn).Nodup
    rw [List.map_append, List.nodup_append]
    refine ⟨sound.distinct, List.nodup_singleton _, ?_⟩
    intro first old last new
    obtain ⟨other, member, rfl⟩ := List.mem_map.mp old
    rw [List.mem_singleton.mp new, sameConn]
    exact unrecorded other member
  · intro other member
    show other.id ∈ List.map TalkEntry.id (TalkLog.load json
      (talk.log.recordReply json ts frame.id frame.body.session
        frame.body) other.body.session)
    rw [TalkLog.ids_recordReply roundTrips]
    unfold record at member
    simp only at member
    split at member
    next found =>
      rcases List.mem_append.mp member with old | new
      · exact sound.known other old
      · rw [List.mem_singleton.mp new]
        obtain ⟨entry, present⟩ := Option.isSome_iff_exists.mp found
        obtain ⟨inside, sameId⟩ := List.findKey_eq_some present
        rw [← sameId]
        exact List.mem_map_of_mem inside
    next => exact sound.known other member
  · intro req request session present prompts
    have kept := sound.kept req request session present prompts
    have inTable : request ∈ talk.live.reqs.values :=
      FiniteMap.mem_values.mpr ⟨req, present⟩
    by_cases sameId : request.id = frame.id
    · obtain ⟨fromOwn, toOwn⟩ :=
        attributed request inTable sameId session prompts
      by_cases sameFile : TalkLog.SameFile frame.body.session session
      · exact
          kept.recordedHere roundTrips sameId.symm sameFile
            (fromOwn sameFile)
      · refine kept.recordedApart roundTrips ?_ ?_
        · exact decide_eq_false fun both => sameFile both.2
        · intro running _ sameToken
          exact sameFile (toOwn sameToken running)
    · refine kept.recordedApart roundTrips ?_ ?_
      · exact decide_eq_false fun both => sameId both.1.symm
      · intro _ same
        exact absurd same.symm sameId

/-- A call that has returned stays so. -/
theorem isReturned_of_moves
    {live : Live} {tx : ReqId} {req moved : Request} {action : Action}
    (moves : Live.Moves live tx req action moved)
    (returned : req.pc.isReturned = true) :
    moved.pc.isReturned = true := by
  cases moves with
  | stay _ => exact returned
  | absent _ => rfl
  | forget _ => rfl
  | check _ _ => rfl
  | cancel _ => rfl
  | lookup pc _ | enroll pc _ | send pc _ _ | sendFailed pc _ _
  | event pc _ _ | ended pc _ | timeout pc | lookAgain pc =>
      rw [pc] at returned
      cases returned

/-- The row of a prompt before an action of the server, which never creates
one. -/
theorem prompt_before
    (sound : Sound json talk)
    {action : Action} {live : Live} {req : ReqId} {request' : Request}
    {session : String}
    (allowed : talk.allows action = true)
    (stepped : talk.live.step action = some live)
    (found' : live.reqs.get? req = some request')
    (prompts : request'.call.prompts? = some session) :
    ∃ request, talk.live.reqs.get? req = some request ∧
      request'.Follows request ∧
      (request'.pc.isReturned = false →
        request.pc.isReturned = false) := by
  have coherent := Live.coherent_of_reachable sound.reachable
  cases Live.request_step coherent stepped found' with
  | @created tokenId promptId call absent fresh =>
      subst fresh
      cases call with
      | prompt _ _ _ => cases allowed
      | _ => cases prompts
  | @moved _ request moved _ found _ moves delivered =>
      obtain ⟨row, foundRow, follows⟩ :=
        Live.follows_step coherent stepped found
      cases foundRow.symm.trans found'
      refine ⟨request, found, follows, ?_⟩
      intro running
      refine Bool.eq_false_iff.mpr ?_
      intro returned
      have stillReturned := isReturned_of_moves moves returned
      subst delivered
      rw [running] at stillReturned
      cases stillReturned

/-- The action hands over a frame of the call's token and id. -/
def HandsOver
    (talk : Talk) (action : Action) (request : Request)
    (frame : ReplyFrame) : Prop :=
  action = .resolve frame.conn ∧
    talk.replyFrame? frame.conn = some frame ∧
    frame.tokenId = request.tokenId ∧ frame.id = request.id

/-- Without that the frames that wait for a call stay. -/
theorem awaiting_of_apart
    (sound : Sound json talk) {action : Action} {request : Request}
    (apart : ∀ frame, ¬ talk.HandsOver action request frame) :
    ((talk.leftBy action).filter fun frame =>
      frame.tokenId = request.tokenId ∧ frame.id = request.id) =
      talk.awaiting request := by
  cases action with
  | resolve conn =>
      unfold leftBy awaiting
      simp only
      rw [List.filter_filter]
      refine List.filter_congr ?_
      intro frame member
      by_cases own :
          frame.tokenId = request.tokenId ∧ frame.id = request.id
      · have other : frame.conn ≠ conn := by
          rintro rfl
          exact
            apart frame
              ⟨rfl, sound.handled frame member, own.1, own.2⟩
        simp [own, other]
      · simp [own]
  | _ => rfl

/-- And the replies on its channel stay. -/
theorem replies_of_apart
    (sound : Sound json talk)
    {action : Action} {live : Live} {req : ReqId}
    {request request' : Request}
    (stepped : talk.live.step action = some live)
    (found : talk.live.reqs.get? req = some request)
    (found' : live.reqs.get? req = some request')
    (apart : ∀ frame, ¬ talk.HandsOver action request frame) :
    request'.replies = request.replies := by
  have coherent := Live.coherent_of_reachable sound.reachable
  by_cases silent :
      ∀ id conn replyTo body todo, action = .resolve id →
        talk.live.conns.get? id = some conn →
        conn.phase ≠ .session (.reply replyTo body :: todo)
  · exact
      Live.replies_step_of_silent coherent stepped found found' silent
  · push Not at silent
    obtain ⟨id, conn, replyTo, body, todo, rfl, foundConn, phase⟩ :=
      silent
    refine
      Live.replies_step_of_not_listens coherent stepped foundConn phase
        found found' ?_
    intro listens
    refine apart ⟨id, conn.tokenId, replyTo, body⟩ ⟨rfl, ?_, ?_, ?_⟩
    · exact
        replyFrame?_eq_some.mpr
          ⟨conn, todo, foundConn, phase, rfl, rfl⟩
    · exact listens.token.symm
    · exact listens.id.symm

/-- A frame that is handed over reaches the channel of a running prompt, and the
frames behind it go on waiting. -/
theorem handed_over
    (sound : Sound json talk)
    {live : Live} {req : ReqId} {request request' : Request}
    {frame : ReplyFrame}
    (stepped : talk.live.step (.resolve frame.conn) = some live)
    (found : talk.live.reqs.get? req = some request)
    (found' : live.reqs.get? req = some request')
    (isPrompt : request.call.kind = .prompt)
    (handles : talk.replyFrame? frame.conn = some frame)
    (sameToken : frame.tokenId = request.tokenId)
    (sameId : frame.id = request.id)
    (inOrder : talk.InOrder frame)
    (running : request.pc.isReturned = false)
    (stillOpen : request.chan.closed = false) :
    request'.replies = request.replies ++ [frame.body] ∧
      talk.awaiting request =
        frame ::
          (talk.leftBy (.resolve frame.conn)).filter fun frame =>
            frame.tokenId = request.tokenId ∧ frame.id = request.id := by
  have coherent := Live.coherent_of_reachable sound.reachable
  obtain ⟨notBefore, first⟩ :=
    inOrder request (FiniteMap.mem_values.mpr ⟨req, found⟩) isPrompt
      sameId.symm sameToken.symm running
  constructor
  · obtain ⟨conn, todo, foundConn, phase, token, _⟩ :=
      replyFrame?_eq_some.mp handles
    refine
      Live.replies_step_of_listens coherent stepped foundConn phase
        found found'
        ⟨isPrompt, sameToken.symm.trans token.symm, sameId.symm, ?_,
          stillOpen⟩
    exact
      (Consistent.sound coherent found).late notBefore running
  · obtain ⟨head, atHead, sameConn⟩ := Option.map_eq_some_iff.mp first
    obtain ⟨rest, split⟩ := List.head?_eq_some_iff.mp atHead
    have inRecorded : head ∈ talk.recorded := by
      have member : head ∈ talk.awaiting request := by
        rw [split]
        exact List.mem_cons_self
      exact (List.mem_filter.mp member).1
    have isFrame : head = frame := by
      have handlesHead := sound.handled head inRecorded
      rw [sameConn, handles] at handlesHead
      exact (Option.some.inj handlesHead).symm
    subst isFrame
    have distinct : ((talk.awaiting request).map ReplyFrame.conn).Nodup :=
      sound.distinct.sublist (List.filter_sublist.map _)
    rw [split, List.map_cons, List.nodup_cons] at distinct
    have others :
        rest.filter (fun frame => frame.conn ≠ head.conn) = rest := by
      refine List.filter_eq_self.mpr ?_
      intro other member
      refine decide_eq_true ?_
      intro same
      refine distinct.1 ?_
      rw [← same]
      exact List.mem_map_of_mem member
    have remaining :
        ((talk.leftBy (.resolve head.conn)).filter fun frame =>
          frame.tokenId = request.tokenId ∧ frame.id = request.id) =
          (talk.awaiting request).filter fun frame =>
            frame.conn ≠ head.conn := by
      unfold leftBy awaiting
      simp only
      rw [List.filter_filter, List.filter_filter]
      refine List.filter_congr ?_
      intro other _
      rw [Bool.and_comm]
    rw [remaining, split, List.filter_cons_of_neg (by simp), others]

/-- A call that listens runs. -/
theorem running_of_listens
    {live : Live} {req : ReqId} {request : Request} {tokenId id : String}
    (coherent : live.Coherent)
    (found : live.reqs.get? req = some request)
    (listens : Live.Listens request tokenId id) :
    request.pc.isReturned = false := by
  refine Bool.eq_false_iff.mpr ?_
  intro returned
  have notHolding : request.pc.holding = false := by
    cases shape : request.pc <;> rw [shape] at returned <;>
      first | rfl | cases returned
  have closed :=
    Consistent.closed_of_not_holding coherent found listens.enrolled
      notHolding
  rw [listens.open'] at closed
  cases closed

/-- What an action of the server does to the replies on the channel of a prompt
and to the frames that wait for it. -/
theorem replies_and_awaiting
    (sound : Sound json talk)
    {action : Action} {live : Live} {req : ReqId}
    {request request' : Request}
    (careful : talk.Careful (.wire action))
    (stepped : talk.live.step action = some live)
    (found : talk.live.reqs.get? req = some request)
    (found' : live.reqs.get? req = some request')
    (isPrompt : request.call.kind = .prompt) :
    (request'.replies = request.replies ∧
      (request.pc.isReturned = false → request.chan.closed = false →
        ((talk.leftBy action).filter fun frame =>
          frame.tokenId = request.tokenId ∧ frame.id = request.id) =
          talk.awaiting request)) ∨
    ∃ frame, request.pc.isReturned = false ∧
      request.chan.closed = false ∧
      request'.replies = request.replies ++ [frame.body] ∧
      talk.awaiting request =
        frame ::
          (talk.leftBy action).filter fun frame =>
            frame.tokenId = request.tokenId ∧ frame.id = request.id := by
  have coherent := Live.coherent_of_reachable sound.reachable
  by_cases handsOver : ∃ frame, talk.HandsOver action request frame
  · obtain ⟨frame, rfl, handles, sameToken, sameId⟩ := handsOver
    have inOrder : talk.InOrder frame :=
      careful frame.conn rfl frame handles
    by_cases active :
        request.pc.isReturned = false ∧ request.chan.closed = false
    · obtain ⟨longer, waited⟩ :=
        handed_over sound stepped found found' isPrompt handles sameToken
          sameId inOrder active.1 active.2
      exact Or.inr ⟨frame, active.1, active.2, longer, waited⟩
    · obtain ⟨conn, todo, foundConn, phase, token, _⟩ :=
        replyFrame?_eq_some.mp handles
      refine Or.inl ⟨?_, fun running stillOpen =>
        absurd ⟨running, stillOpen⟩ active⟩
      refine
        Live.replies_step_of_not_listens coherent stepped foundConn phase
          found found' ?_
      intro listens
      exact
        active
          ⟨running_of_listens coherent found listens, listens.open'⟩
  · have apart : ∀ frame, ¬ talk.HandsOver action request frame :=
      fun frame hands => handsOver ⟨frame, hands⟩
    exact Or.inl
      ⟨replies_of_apart sound stepped found found' apart,
        fun _ _ => awaiting_of_apart sound apart⟩

/-- An action of the server keeps what the log owes to a prompt. -/
theorem Kept.wire
    (sound : Sound json talk)
    {action : Action} {live : Live} {req : ReqId}
    {request request' : Request} {session : String}
    (kept : Kept json talk request session)
    (careful : talk.Careful (.wire action))
    (stepped : talk.live.step action = some live)
    (found : talk.live.reqs.get? req = some request)
    (found' : live.reqs.get? req = some request')
    (isPrompt : request.call.kind = .prompt)
    (follows : request'.Follows request)
    (wasRunning :
      request'.pc.isReturned = false → request.pc.isReturned = false) :
    Kept json { talk with live, recorded := talk.leftBy action } request'
      session := by
  have wasOpen :
      request'.chan.closed = false → request.chan.closed = false := by
    intro stillOpen
    refine Bool.eq_false_iff.mpr ?_
    intro closed
    rw [(follows.final closed).1] at stillOpen
    cases stillOpen
  have changes :=
    replies_and_awaiting sound careful stepped found found' isPrompt
  obtain ⟨entry, only, holds⟩ := kept.entry
  have sameAppended :
      appendedTo { talk with live, recorded := talk.leftBy action }
          session request'.id =
        talk.appendedTo session request.id := by
    rw [follows.id]
    rfl
  have sameAwaiting :
      awaiting { talk with live, recorded := talk.leftBy action }
          request' =
        (talk.leftBy action).filter fun frame =>
          frame.tokenId = request.tokenId ∧ frame.id = request.id := by
    unfold awaiting
    rw [follows.token, follows.id]
  refine ⟨⟨entry, ?_, ?_⟩, ?_, ?_, ?_⟩
  · rw [follows.id]
    exact only
  · rw [sameAppended]
    exact holds
  · rw [sameAppended, follows.token]
    exact kept.attributed
  · rw [sameAppended]
    rcases changes with ⟨same, _⟩ | ⟨frame, running, isOpen, longer, waited⟩
    · rw [same]
      exact kept.behind
    · have level := kept.level running isOpen
      rw [waited, List.map_cons, List.append_cons] at level
      rw [longer, level]
      exact List.prefix_append _ _
  · intro running stillOpen
    have level := kept.level (wasRunning running) (wasOpen stillOpen)
    rw [sameAppended, sameAwaiting]
    rcases changes with ⟨same, left⟩ | ⟨frame, _, _, longer, waited⟩
    · rw [same, left (wasRunning running) (wasOpen stillOpen)]
      exact level
    · rw [longer, level, waited, List.map_cons, List.append_cons]

theorem Sound.wire
    (sound : Sound json talk) {action : Action}
    (careful : talk.Careful (.wire action))
    (stepped : talk.step json (.wire action) = some next) :
    Sound json next := by
  obtain ⟨allowed, live, liveStepped, rfl⟩ := step_wire stepped
  have reached : Live.machine.Reachable live :=
    reachable_step sound.reachable liveStepped
  have fewer : (talk.leftBy action).Sublist talk.recorded := by
    unfold leftBy
    split
    next => exact List.filter_sublist
    next => exact List.Sublist.refl _
  refine ⟨reached, ?_, ?_, sound.known, ?_⟩
  · intro frame member
    have handles := sound.handled frame (fewer.subset member)
    refine replyFrame?_step liveStepped handles ?_
    rintro rfl
    have other := of_decide_eq_true (List.mem_filter.mp member).2
    exact other rfl
  · exact sound.distinct.sublist (fewer.map _)
  · intro req request' session found' prompts
    obtain ⟨request, found, follows, wasRunning⟩ :=
      prompt_before sound allowed liveStepped found' prompts
    have wasPrompt : request.call.prompts? = some session := by
      rw [← follows.call]
      exact prompts
    exact
      (sound.kept req request session found wasPrompt).wire sound careful
        liveStepped found found' (kind_of_prompts? wasPrompt) follows
        wasRunning

/-- Every step that meets the conditions keeps the agreement. -/
theorem Sound.step
    (roundTrips : json.RoundTrips) (sound : Sound json talk)
    {action : TalkAction}
    (fresh : talk.Fresh json action) (careful : talk.Careful action)
    (stepped : talk.step json action = some next) :
    Sound json next := by
  cases action with
  | wire action => exact sound.wire careful stepped
  | say req tokenId promptId session text ts =>
      exact sound.say roundTrips fresh stepped
  | recordReply conn ts =>
      exact sound.recordReply roundTrips careful stepped

/-- The replies a finished call took are the first of its entry. -/
theorem Sound.agrees (sound : Sound json talk) : talk.Agrees json := by
  intro req request session prompt metadata text exit found call returned
  have prompts : request.call.prompts? = some session := by
    rw [call]
    rfl
  have kept := sound.kept req request session found prompts
  have told :=
    Live.told_of_reachable sound.reachable req request found
      (kind_of_prompts? prompts)
  obtain ⟨replies, read, composes⟩ :=
    told.answered text exit (by rw [returned]; rfl)
  obtain ⟨entry, only, holds⟩ := kept.entry
  refine ⟨entry, replies, only, read, composes, ?_, kept.attributed⟩
  obtain ⟨earlier, last, split, unfinished, done, _⟩ :=
    composes.finished
  have first : replies <+: request.replies := by
    refine ⟨(request.chan.sent.drop request.chan.taken).filterMap
      Event.reply?, ?_⟩
    have all :
        (replies.map Event.reply).filterMap Event.reply? = replies := by
      rw [List.filterMap_map]
      exact List.filterMap_some
    unfold Request.replies
    conv_rhs =>
      rw [← List.take_append_drop request.chan.taken request.chan.sent]
    rw [List.filterMap_append, read, all]
  obtain ⟨rest, appended⟩ := first.trans kept.behind
  have contents :
      entry.replies.map TalkReplyRecord.content =
        earlier.map replyContent ++
          replyContent last :: rest.map replyContent := by
    have mapped :
        (talk.appendedTo session request.id).map
            (fun frame => replyContent frame.body) =
          ((talk.appendedTo session request.id).map
            ReplyFrame.body).map replyContent := by
      rw [List.map_map]
      rfl
    rw [holds, mapped, ← appended, split, List.map_append,
      List.map_append, List.append_assoc]
    rfl
  let finishes : Option String × List String × Bool × Option Int64 → Bool :=
    fun content => content.2.2.1
  have fail :
      ∀ content ∈ earlier.map replyContent, finishes content = false := by
    intro content member
    obtain ⟨reply, inEarlier, rfl⟩ := List.mem_map.mp member
    exact unfinished reply inEarlier
  have passes : finishes (replyContent last) = true := done
  calc
    (entry.replies.throughFirst TalkReplyRecord.done).map
        TalkReplyRecord.content =
        (entry.replies.map TalkReplyRecord.content).throughFirst
          finishes :=
      List.map_throughFirst TalkReplyRecord.content finishes
        entry.replies
    _ = earlier.map replyContent ++ [replyContent last] := by
      rw [contents, List.throughFirst_append _ fail passes]
    _ = replies.map replyContent := by
      rw [split, List.map_append]
      rfl

/-- The talk log agrees with what `say` returned.

In every run in which `new_id` gives new ids and the two halves of the handling
of every reply frame do the same, the entry of a prompt that returned `Done` is
in the log exactly once, its replies up to the first finished one are the reply
frames that compose the answer, and no frame of another token was appended. -/
theorem talk_log_agrees_with_say
    (roundTrips : json.RoundTrips) (log : TalkLog)
    {actions : List TalkAction}
    (fresh :
      (machine json log).Along (Fresh json) (machine json log).init
        actions)
    (careful :
      (machine json log).Along Careful (machine json log).init actions)
    (reached :
      (machine json log).run (machine json log).init actions =
        some talk) :
    talk.Agrees json := by
  have sound : Sound json talk := by
    refine
      (machine json log).run_preserves_along ?_ (sound_init log)
        (Machine.along_and.mpr ⟨fresh, careful⟩) reached
    intro talk action next sound meets stepped
    exact sound.step roundTrips meets.1 meets.2 stepped
  exact sound.agrees

/-- A reply frame to the prompt `p`. -/
def replyEnvelope (body : ReplyBody) : Envelope :=
  serverEnvelope .reply "p" "now" (.reply body)

/-- A prompt is answered in two replies. -/
def answeredRun : List TalkAction :=
  [.wire (.auth 0 "t" "client" "host"), .wire (.register 0),
    .wire (.hello 0 true), .say 0 "t" "p" "s" "hi" "now",
    .wire (.lookup 0), .wire (.enroll 0), .wire (.send 0 "now"),
    .wire (.frame 0 (replyEnvelope ⟨"s", some "he", ["l"], false, none⟩)),
    .recordReply 0 "now", .wire (.resolve 0),
    .wire (.frame 0 (replyEnvelope ⟨"s", none, ["lo"], true, some 0⟩)),
    .recordReply 0 "now", .wire (.resolve 0), .wire (.recv 0),
    .wire (.recv 0), .wire (.forget 0)]

/-- The state after a run from an empty talk directory. -/
def after (actions : List TalkAction) : Talk :=
  ((machine prettyTalkJson ⟨∅⟩).run
    (machine prettyTalkJson ⟨∅⟩).init actions).getD
      (machine prettyTalkJson ⟨∅⟩).init

theorem talk_log_agrees_with_say_answeredRun :
    (machine prettyTalkJson ⟨∅⟩).run
        (machine prettyTalkJson ⟨∅⟩).init answeredRun =
      some (after answeredRun) ∧
    ∃ request, (after answeredRun).live.reqs.get? 0 = some request ∧
      request.pc = .returned (.prompt (.done "hello" (some 0))) ∧
      (after answeredRun).AgreesOn prettyTalkJson request "s" "hello"
        (some 0) := by
  have reached :
      (machine prettyTalkJson ⟨∅⟩).run
          (machine prettyTalkJson ⟨∅⟩).init answeredRun =
        some (after answeredRun) := rfl
  have agrees :=
    talk_log_agrees_with_say roundTrips_prettyTalkJson ⟨∅⟩ (by decide)
      (by decide) reached
  exact
    ⟨reached, _, rfl, rfl,
      agrees 0 _ "s" "hi" none "hello" (some 0) rfl rfl rfl⟩

/-- A frame that was appended stays. -/
theorem appended_step
    {action : TalkAction} {frame : ReplyFrame}
    (stepped : talk.step json action = some next)
    (member : frame ∈ talk.appended) : frame ∈ next.appended := by
  cases action with
  | wire action =>
      obtain ⟨_, _, _, rfl⟩ := step_wire stepped
      exact member
  | say req tokenId promptId session text ts =>
      obtain ⟨_, _, rfl⟩ := step_say stepped
      exact member
  | recordReply conn ts =>
      obtain ⟨_, _, _, rfl⟩ := step_recordReply stepped
      unfold record
      simp only
      split
      next => exact List.mem_append_left _ member
      next => exact member

/-- The client of another token sends a finished reply to the prompt before the
prompted client does. -/
def strangerRun : List TalkAction :=
  [.wire (.auth 0 "t" "client" "host"), .wire (.register 0),
    .wire (.hello 0 true), .wire (.auth 1 "u" "other" "elsewhere"),
    .wire (.register 1), .wire (.hello 1 true),
    .say 0 "t" "p" "s" "hi" "now", .wire (.lookup 0),
    .wire (.enroll 0), .wire (.send 0 "now"),
    .wire (.frame 1 (replyEnvelope ⟨"s", some "no", [], true, none⟩)),
    .recordReply 1 "now", .wire (.resolve 1),
    .wire (.frame 0 (replyEnvelope ⟨"s", some "hello", [], true, some 0⟩)),
    .recordReply 0 "now", .wire (.resolve 0), .wire (.recv 0),
    .wire (.forget 0)]

/-- The state in which the stranger's frame has arrived. -/
def interfered : Talk :=
  after (strangerRun.take 11)

/-- Its reply frame. -/
def strangerFrame : ReplyFrame :=
  ⟨1, "u", "p", ⟨"s", some "no", [], true, none⟩⟩

theorem finds_interfered :
    interfered.finds prettyTalkJson strangerFrame = true := by
  have sameLog :
      interfered.log =
        TalkLog.recordPrompt prettyTalkJson ⟨∅⟩ "now" "p" "s" "hi" :=
    rfl
  have sameFile : TalkLog.SameFile "s" "s" := rfl
  have noEntries : TalkLog.load prettyTalkJson ⟨∅⟩ "s" = [] := rfl
  have load :
      interfered.log.load prettyTalkJson strangerFrame.body.session =
        [{ id := "p", session := "s", promptText := "hi",
           promptTs := "now", replies := [] }] := by
    rw [sameLog, show strangerFrame.body.session = "s" from rfl,
      TalkLog.load_recordPrompt roundTrips_prettyTalkJson,
      if_pos sameFile, noEntries, List.nil_append]
  unfold finds
  rw [load]
  simp [List.findKey, strangerFrame]

/-- The reply of the stranger is in the entry of a prompt that went to another
client. -/
theorem not_agrees_strangerRun :
    ¬ (after strangerRun).Agrees prettyTalkJson := by
  intro agrees
  obtain ⟨_, _, _, _, _, _, attributed⟩ :=
    agrees 0 _ "s" "hi" none "hello" (some 0) rfl rfl rfl
  have appended :
      strangerFrame ∈
        (interfered.record prettyTalkJson strangerFrame
          "now").appended := by
    unfold record
    simp only [finds_interfered, if_true]
    exact List.mem_append_right _ List.mem_cons_self
  have reached :
      (machine prettyTalkJson ⟨∅⟩).run
          (interfered.record prettyTalkJson strangerFrame "now")
          (strangerRun.drop 12) =
        some (after strangerRun) := rfl
  have stays : strangerFrame ∈ (after strangerRun).appended := by
    refine
      @Machine.run_preserves _ _ (machine prettyTalkJson ⟨∅⟩)
        (fun talk => strangerFrame ∈ talk.appended) ?_ _ _ _ appended
        reached
    intro talk action next member stepped
    exact appended_step stepped member
  have foreign :=
    attributed strangerFrame (List.mem_filter.mpr ⟨stays, rfl⟩)
  exact absurd foreign (by decide)

/-- The prompted client names another session in its reply. -/
def strayRun : List TalkAction :=
  answeredRun.take 7 ++
    [.wire (.frame 0
        (replyEnvelope ⟨"r", some "hello", [], true, some 0⟩)),
      .recordReply 0 "now", .wire (.resolve 0), .wire (.recv 0),
      .wire (.forget 0)]

/-- The reply that the call returned is missing in the log. -/
theorem not_agrees_strayRun :
    ¬ (after strayRun).Agrees prettyTalkJson := by
  intro agrees
  obtain ⟨entry, replies, only, _, composes, cut, _⟩ :=
    agrees 0 _ "s" "hi" none "hello" (some 0) rfl rfl rfl
  have sameLog :
      (after strayRun).log =
        (TalkLog.recordPrompt prettyTalkJson ⟨∅⟩ "now" "p" "s"
          "hi").recordReply prettyTalkJson "now" "p" "r"
            ⟨"r", some "hello", [], true, some 0⟩ :=
    rfl
  have otherFile : ¬ TalkLog.SameFile "s" "r" := by decide
  have unused :
      ∀ entry ∈ TalkLog.load prettyTalkJson ⟨∅⟩ "s",
        entry.id ≠ "p" := by
    intro entry member
    cases member
  rw [sameLog,
    TalkLog.entriesFor_recordReply_of_ne roundTrips_prettyTalkJson
      fun _ => otherFile,
    entriesFor_recordPrompt_self roundTrips_prettyTalkJson unused]
    at only
  cases only
  have none : replies = [] := List.map_eq_nil_iff.mp cut.symm
  obtain ⟨earlier, last, split, _⟩ := composes.finished
  rw [none] at split
  exact absurd split.symm (by simp)

/-- The token of a frame is not checked before it is appended to an entry, and
the session it names, not that of its prompt, decides where it is looked for. -/
theorem log_departs_from_say :
    prettyTalkJson.RoundTrips ∧
      ∀ run ∈ [strangerRun, strayRun],
        (machine prettyTalkJson ⟨∅⟩).run
            (machine prettyTalkJson ⟨∅⟩).init run =
          some (after run) ∧
        (machine prettyTalkJson ⟨∅⟩).Along (Fresh prettyTalkJson)
          (machine prettyTalkJson ⟨∅⟩).init run ∧
        ¬ (after run).Agrees prettyTalkJson := by
  refine ⟨roundTrips_prettyTalkJson, ?_⟩
  rw [List.forall_mem_cons, List.forall_mem_singleton]
  constructor
  · exact ⟨rfl, by decide, not_agrees_strangerRun⟩
  · exact ⟨rfl, by decide, not_agrees_strayRun⟩

end Talk

end HollerServer.Wire
