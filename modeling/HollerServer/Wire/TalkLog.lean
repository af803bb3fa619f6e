import HollerServer.Lib.FiniteMap
import HollerServer.Lib.FirstMatch
import HollerServer.Proto

/-!
# The talk log

`src/wire/talklog.rs`: one file of JSON text for each session, loaded, changed
and written back whole.  The JSON text of a list of entries is a parameter, the
timestamps are arguments, and failures of the file system are left out.
-/

namespace HollerServer.Wire

open HollerServer.Proto

/-- One recorded reply frame. -/
structure TalkReplyRecord where
  text : Option String
  chunks : List String
  done : Bool
  exit : Option Int64
  ts : String
  deriving DecidableEq, Repr

/-- One prompt and its replies. -/
structure TalkEntry where
  id : String
  session : String
  promptText : String
  promptTs : String
  replies : List TalkReplyRecord
  deriving DecidableEq, Repr

/-- What the talk log uses of serde_json. -/
structure TalkJson where
  fromStr : String → Option (List TalkEntry)
  toStringPretty : List TalkEntry → String

/-- The files of the talk directory, by name. -/
structure TalkLog where
  files : FiniteMap String String

namespace TalkLog

/-- A file name without anything but ASCII letters, digits, `-` and `_` before
its extension. -/
def safeFilename (name : String) : String :=
  String.ofList
    (name.toList.map fun char =>
      if char.isAlphanum || char = '-' || char = '_' then char else '_') ++
    ".json"

variable (json : TalkJson) (log : TalkLog)

def load (session : String) : List TalkEntry :=
  match log.files.get? (safeFilename session) with
  | some contents => (json.fromStr contents).getD []
  | none => []

def save (session : String) (entries : List TalkEntry) : TalkLog where
  files := log.files.put (safeFilename session) (json.toStringPretty entries)

def recordPrompt (ts id session text : String) : TalkLog :=
  log.save json session
    (log.load json session ++
      [{ id, session, promptText := text, promptTs := ts, replies := [] }])

/-- A reply to a prompt that was not recorded is dropped. -/
def recordReply
    (ts id session : String) (reply : ReplyBody) : TalkLog :=
  let entries := log.load json session
  match entries.findKey TalkEntry.id id with
  | none => log
  | some entry =>
      let record : TalkReplyRecord :=
        { text := reply.text
          chunks := reply.chunks
          done := reply.done
          exit := reply.exit
          ts }
      log.save json session
        (entries.rewriteFirst TalkEntry.id id
          { entry with replies := entry.replies ++ [record] })

def read (session : String) : List TalkEntry :=
  log.load json session

end TalkLog

/-- The round trip of the entries through their JSON text. -/
def TalkJson.RoundTrips (json : TalkJson) : Prop :=
  ∀ entries, json.fromStr (json.toStringPretty entries) = some entries

/-- What a recorded reply says, its time apart. -/
def TalkReplyRecord.content (record : TalkReplyRecord) :
    Option String × List String × Bool × Option Int64 :=
  (record.text, record.chunks, record.done, record.exit)

/-- What a reply frame says to the prompt it answers. -/
def replyContent (body : ReplyBody) :
    Option String × List String × Bool × Option Int64 :=
  (body.text, body.chunks, body.done, body.exit)

namespace TalkLog

variable {json : TalkJson} {log : TalkLog}

/-- Two sessions have one file.  So do sessions whose names differ only in
characters that a file name cannot have. -/
def SameFile (session session' : String) : Prop :=
  safeFilename session = safeFilename session'
  deriving Decidable

/-- The entries of a prompt id in the file of a session. -/
def entriesFor (json : TalkJson) (log : TalkLog) (session id : String) :
    List TalkEntry :=
  (log.read json session).filter fun entry => entry.id = id

theorem load_congr {session session' : String}
    (sameFile : SameFile session session') :
    log.load json session = log.load json session' := by
  unfold load
  rw [sameFile]

theorem load_save
    (roundTrips : json.RoundTrips) (session session' : String)
    (entries : List TalkEntry) :
    (log.save json session entries).load json session' =
      if SameFile session' session then entries
      else log.load json session' := by
  have stored :=
    log.files.get?_put (safeFilename session) (safeFilename session')
      (json.toStringPretty entries)
  by_cases sameFile : SameFile session' session
  · have sameName : safeFilename session' = safeFilename session :=
      sameFile
    rw [if_pos sameName] at stored
    rw [if_pos sameFile]
    unfold load save
    rw [stored]
    exact congrArg (Option.getD · []) (roundTrips entries)
  · have otherName : safeFilename session' ≠ safeFilename session :=
      sameFile
    rw [if_neg otherName] at stored
    rw [if_neg sameFile]
    unfold load save
    rw [stored]

theorem load_recordPrompt
    (roundTrips : json.RoundTrips)
    (ts id session text session' : String) :
    (log.recordPrompt json ts id session text).load json session' =
      log.load json session' ++
        if SameFile session' session then
          [{ id, session, promptText := text, promptTs := ts,
             replies := [] }]
        else [] := by
  unfold recordPrompt
  rw [load_save roundTrips]
  split
  next sameFile => rw [load_congr sameFile]
  next => rw [List.append_nil]

/-- The ids in a file stay in their places when a reply is recorded. -/
theorem ids_recordReply
    (roundTrips : json.RoundTrips)
    (ts id session : String) (reply : ReplyBody) (session' : String) :
    ((log.recordReply json ts id session reply).load json session').map
        TalkEntry.id =
      (log.load json session').map TalkEntry.id := by
  unfold recordReply
  simp only
  split
  next => rfl
  next entry found =>
    rw [load_save roundTrips]
    split
    next sameFile =>
      rw [load_congr sameFile]
      refine List.map_rewriteFirst ?_ _
      exact (List.findKey_eq_some found).2
    next => rfl

/-- The entries of other ids and of other files stay. -/
theorem entriesFor_recordReply_of_ne
    (roundTrips : json.RoundTrips)
    {ts id session session' id' : String} {reply : ReplyBody}
    (apart : id' = id → ¬ SameFile session' session) :
    (log.recordReply json ts id session reply).entriesFor json session'
        id' =
      log.entriesFor json session' id' := by
  unfold entriesFor read recordReply
  simp only
  split
  next => rfl
  next entry found =>
    rw [load_save roundTrips]
    split
    next sameFile =>
      rw [load_congr sameFile]
      refine List.filter_rewriteFirst_of_ne ?_ ?_ _
      · exact (List.findKey_eq_some found).2
      · exact fun sameId => apart sameId sameFile
    next => rfl

/-- The only entry of an id gets the reply. -/
theorem entriesFor_recordReply_self
    (roundTrips : json.RoundTrips)
    {ts id session session' : String} {reply : ReplyBody}
    {entry : TalkEntry}
    (sameFile : SameFile session' session)
    (only : log.entriesFor json session' id = [entry]) :
    ∃ entry',
      (log.recordReply json ts id session reply).entriesFor json
          session' id = [entry'] ∧
      entry'.replies.map TalkReplyRecord.content =
        entry.replies.map TalkReplyRecord.content ++
          [replyContent reply] := by
  unfold entriesFor read at only ⊢
  rw [load_congr sameFile] at only
  have found :
      (log.load json session).findKey TalkEntry.id id = some entry :=
    List.findKey_of_filter only
  let record : TalkReplyRecord :=
    { text := reply.text
      chunks := reply.chunks
      done := reply.done
      exit := reply.exit
      ts }
  refine
    ⟨{ entry with replies := entry.replies ++ [record] }, ?_, ?_⟩
  · unfold recordReply
    simp only [found]
    rw [load_save roundTrips, if_pos sameFile]
    refine List.filter_rewriteFirst_self ?_ only
    exact (List.findKey_eq_some found).2
  · rw [List.map_append]
    rfl

end TalkLog

end HollerServer.Wire
