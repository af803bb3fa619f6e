import HollerServer.Wire.PromptReplies
import HollerServer.Wire.TalkLog

/-!
# The talk log beside the running server

A `Request::Say` records its prompt and then calls `Registry::prompt`.  A
connection that handles a reply frame first records it in the talk log, under
the session and the id the frame names, and then hands it to the registry, under
its own token and that id.  `Talk` runs the log beside the machine of connection
tasks and calls, with these two halves as steps of their own.
-/

namespace HollerServer.Wire

open HollerServer.Proto
open Transition

/-- A reply frame that a connection handles. -/
structure ReplyFrame where
  conn : ConnId
  tokenId : String
  id : String
  body : ReplyBody
  deriving Repr

/-- The frame names this id and a session of the same file. -/
def ReplyFrame.names (frame : ReplyFrame) (session id : String) : Bool :=
  frame.id = id ∧ TalkLog.SameFile frame.body.session session

/-- The reply frame a connection is about to record or to hand over. -/
def Conn.replyFrame? (conn : Conn) (id : ConnId) : Option ReplyFrame :=
  match conn.phase with
  | .session (.reply replyTo body :: _) =>
      some { conn := id, tokenId := conn.tokenId, id := replyTo, body }
  | _ => none

/-- The session a prompt is for. -/
def Call.prompts? : Call → Option String
  | .prompt session _ _ => some session
  | _ => none

/-- The connection that makes a registry call in the action. -/
def Action.resolver? : Action → Option ConnId
  | .resolve conn => some conn
  | _ => none

/-- The server and its talk log.  `recorded` holds the frames between their two
halves, in the order they were recorded; `appended` holds every frame that found
an entry. -/
structure Talk where
  live : Live := {}
  log : TalkLog
  recorded : List ReplyFrame := []
  appended : List ReplyFrame := []

inductive TalkAction where
  | wire (action : Action)
  | say (req : ReqId) (tokenId promptId session text ts : String)
  | recordReply (conn : ConnId) (ts : String)
  deriving Repr

namespace Talk

variable (json : TalkJson) (talk : Talk)

/-- The reply frame that connection `conn` handles. -/
def replyFrame? (conn : ConnId) : Option ReplyFrame :=
  (talk.live.conns.get? conn).bind (Conn.replyFrame? · conn)

/-- Prompts are calls of `Request::Say` only, and a reply is handed over once it
is recorded. -/
def allows : Action → Bool
  | .call _ _ _ (.prompt _ _ _) => false
  | .resolve conn =>
      (talk.replyFrame? conn).isNone ||
        talk.recorded.any fun frame => frame.conn = conn
  | _ => true

/-- The recorded frames that are still to be handed over after an action. -/
def leftBy : Action → List ReplyFrame
  | .resolve conn => talk.recorded.filter fun frame => frame.conn ≠ conn
  | _ => talk.recorded

/-- The entry of a frame is in the file the frame names. -/
def finds (frame : ReplyFrame) : Bool :=
  ((talk.log.load json frame.body.session).findKey TalkEntry.id
    frame.id).isSome

/-- `record_reply` on behalf of a connection. -/
def record (frame : ReplyFrame) (ts : String) : Talk :=
  { talk with
    log :=
      talk.log.recordReply json ts frame.id frame.body.session frame.body
    recorded := talk.recorded ++ [frame]
    appended :=
      if talk.finds json frame then talk.appended ++ [frame]
      else talk.appended }

def step : TalkAction → Option Talk
  | .wire action =>
      if talk.allows action then
        (talk.live.step action).map fun live =>
          { talk with live, recorded := talk.leftBy action }
      else none
  | .say req tokenId promptId session text ts =>
      (talk.live.step
          (.call req tokenId promptId (.prompt session text none))).map
        fun live =>
          { talk with
            live
            log :=
              talk.log.recordPrompt json ts promptId session text }
  | .recordReply conn ts =>
      if talk.recorded.any fun frame => frame.conn = conn then none
      else
        (talk.replyFrame? conn).map fun frame => talk.record json frame ts

/-- The machine of the server and its talk log, from a log that is already
there. -/
def machine (log : TalkLog) : Machine Talk TalkAction where
  init := { log }
  step := step json

/-- The frames of a call's token and id between their two halves. -/
def awaiting (request : Request) : List ReplyFrame :=
  talk.recorded.filter fun frame =>
    frame.tokenId = request.tokenId ∧ frame.id = request.id

/-- The frames appended to the entry of a prompt. -/
def appendedTo (session id : String) : List ReplyFrame :=
  talk.appended.filter fun frame => frame.names session id

/-- The log agrees with what a `say` for the session returned: the entry of its
prompt is there exactly once, the replies in it up to the first finished one are
the replies the call took, which compose its answer, and every frame appended to
it came on a connection of the call's token. -/
def AgreesOn
    (request : Request) (session text : String) (exit : Option Int64) :
    Prop :=
  ∃ entry replies,
    talk.log.entriesFor json session request.id = [entry] ∧
    request.chan.sent.take request.chan.taken = replies.map .reply ∧
    Composes replies text exit ∧
    (entry.replies.throughFirst TalkReplyRecord.done).map
        TalkReplyRecord.content =
      replies.map replyContent ∧
    ∀ frame ∈ talk.appendedTo session request.id,
      frame.tokenId = request.tokenId

/-- The log agrees with every `say` that returned `Done`. -/
def Agrees : Prop :=
  ∀ req request session prompt metadata text exit,
    talk.live.reqs.get? req = some request →
    request.call = .prompt session prompt metadata →
    request.pc = .returned (.prompt (.done text exit)) →
    talk.AgreesOn json request session text exit

/-- What `new_id` gives is the id of no prompt, of no entry in the file of the
session and of no frame between its two halves. -/
def Fresh : TalkAction → Prop
  | .say _ _ promptId session _ _ =>
      (∀ request ∈ talk.live.reqs.values,
        request.call.kind = .prompt → request.id ≠ promptId) ∧
      (∀ entry ∈ talk.log.load json session, entry.id ≠ promptId) ∧
      ∀ frame ∈ talk.recorded, frame.id ≠ promptId
  | .wire _ | .recordReply _ _ => True

instance (action : TalkAction) : Decidable (talk.Fresh json action) :=
  match action with
  | .say _ _ promptId session _ _ =>
      inferInstanceAs <| Decidable <|
        (∀ request ∈ talk.live.reqs.values,
          request.call.kind = .prompt → request.id ≠ promptId) ∧
        (∀ entry ∈ talk.log.load json session, entry.id ≠ promptId) ∧
        ∀ frame ∈ talk.recorded, frame.id ≠ promptId
  | .wire _ | .recordReply _ _ => inferInstanceAs (Decidable True)

/-- The entry of a prompt gets the frames of its token only, and while the call
runs it gets all of them. -/
def Attributed (frame : ReplyFrame) : Prop :=
  ∀ request ∈ talk.live.reqs.values, request.id = frame.id →
    ∀ session ∈ request.call.prompts?,
      (TalkLog.SameFile frame.body.session session →
        frame.tokenId = request.tokenId) ∧
      (frame.tokenId = request.tokenId →
        request.pc.isReturned = false →
        TalkLog.SameFile frame.body.session session)
  deriving Decidable

/-- A frame for a running prompt is handed over once the prompt has its slot,
and not before the frames that were recorded earlier. -/
def InOrder (frame : ReplyFrame) : Prop :=
  ∀ request ∈ talk.live.reqs.values, request.call.kind = .prompt →
    request.id = frame.id → request.tokenId = frame.tokenId →
    request.pc.isReturned = false →
      request.pc.before = false ∧
      (talk.awaiting request).head?.map ReplyFrame.conn =
        some frame.conn
  deriving Decidable

/-- The two halves of the handling of a reply frame do the same. -/
def Careful : TalkAction → Prop
  | .wire action =>
      ∀ conn ∈ action.resolver?, ∀ frame ∈ talk.replyFrame? conn,
        talk.InOrder frame
  | .say _ _ _ _ _ _ => True
  | .recordReply conn _ =>
      ∀ frame ∈ talk.replyFrame? conn, talk.Attributed frame

instance (action : TalkAction) : Decidable (talk.Careful action) :=
  match action with
  | .wire action =>
      inferInstanceAs <| Decidable <|
        ∀ conn ∈ action.resolver?, ∀ frame ∈ talk.replyFrame? conn,
          talk.InOrder frame
  | .say _ _ _ _ _ _ => inferInstanceAs (Decidable True)
  | .recordReply conn _ =>
      inferInstanceAs <| Decidable <|
        ∀ frame ∈ talk.replyFrame? conn, talk.Attributed frame

end Talk

end HollerServer.Wire
