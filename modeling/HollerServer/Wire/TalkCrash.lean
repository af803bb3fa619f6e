import Mathlib.Data.List.Perm.Subperm
import HollerServer.Lib.Transition
import HollerServer.Wire.TalkSessions

/-!
# Crashes of a server that writes the talk log

A call of the talk log reads the file of its session and rewrites it whole with
`fs::write`, which truncates the file and then writes it.  The mutex lets one call
run at a time; a crash ends the server at any step and a new one starts on the files
that are left.  A truncated file reads as an empty history, so what was recorded is
kept exactly as long as no crash falls between the two steps of a write to a file that
holds recordings of completed calls.
-/

namespace HollerServer.Wire

open HollerServer.Proto

/-- What one call records. -/
inductive Recording where
  | prompt (ts id session text : String)
  | reply (id : String) (record : TalkReplyRecord)
  deriving DecidableEq, Repr

def TalkCall.recording : TalkCall → Recording
  | .prompt ts id session text => .prompt ts id session text
  | .reply ts id _ body => .reply id (talkReplyRecord ts body)

def TalkEntry.recordings (entry : TalkEntry) : List Recording :=
  .prompt entry.promptTs entry.id entry.session entry.promptText ::
    entry.replies.map (.reply entry.id)

/-- Everything that is recorded in some entries. -/
def recordings (entries : List TalkEntry) : List Recording :=
  entries.flatMap TalkEntry.recordings

/-- The entries a call saves for those it loads; a reply to no prompt is dropped. -/
def TalkCall.append (entries : List TalkEntry) :
    TalkCall → Option (List TalkEntry)
  | .prompt ts id session text =>
      some
        (entries ++
          [{ id, session, promptText := text, promptTs := ts, replies := [] }])
  | .reply ts id _ body =>
      (entries.findKey TalkEntry.id id).map fun entry =>
        entries.rewriteFirst TalkEntry.id id
          (entry.answered [talkReplyRecord ts body])

/-- How far the running call is. -/
inductive TalkPhase where
  | idle
  | loaded (call : TalkCall) (entries : List TalkEntry)
  | truncated (call : TalkCall) (entries : List TalkEntry)
  | written (call : TalkCall)
  | dropped
  deriving DecidableEq, Repr

/-- The files, the running call, and the calls that recorded something and
returned. -/
structure TalkServer where
  log : TalkLog
  phase : TalkPhase
  completed : List TalkCall

inductive TalkStep where
  | begin (call : TalkCall)
  | truncate
  | write
  | finish
  | crash
  deriving DecidableEq, Repr

namespace TalkServer

variable (json : TalkJson)

/-- `fs::write` has opened the file and emptied it. -/
def emptied (log : TalkLog) (session : String) : TalkLog where
  files := log.files.put (TalkLog.safeFilename session) ""

def step (server : TalkServer) : TalkStep → Option TalkServer
  | .begin call =>
      match server.phase with
      | .idle =>
          match call.append (server.log.load json call.session) with
          | some entries => some { server with phase := .loaded call entries }
          | none => some { server with phase := .dropped }
      | _ => none
  | .truncate =>
      match server.phase with
      | .loaded call entries =>
          some
            { server with
              log := emptied server.log call.session
              phase := .truncated call entries }
      | _ => none
  | .write =>
      match server.phase with
      | .truncated call entries =>
          some
            { server with
              log := server.log.save json call.session entries
              phase := .written call }
      | _ => none
  | .finish =>
      match server.phase with
      | .written call =>
          some
            { server with
              phase := .idle
              completed := server.completed ++ [call] }
      | .dropped => some { server with phase := .idle }
      | _ => none
  | .crash => some { server with phase := .idle }

/-- A server on the files of a talk directory. -/
def machine (log : TalkLog) : Transition.Machine TalkServer TalkStep where
  init := { log, phase := .idle, completed := [] }
  step := step json

/-- While no call runs, every session reads what the completed calls under its name
recorded. -/
def KeepsRecordings (server : TalkServer) : Prop :=
  server.phase = .idle →
    ∀ session,
      ((server.completed.filter fun call => call.session = session).map
        TalkCall.recording).Subperm
          (recordings (server.log.read json session))

/-- The step is no crash between the two steps of a write to a file in which completed
calls recorded something. -/
def SparesRecordings (server : TalkServer) (action : TalkStep) : Prop :=
  action = .crash →
    ∀ call entries, server.phase = .truncated call entries →
      ∀ earlier ∈ server.completed,
        ¬TalkLog.SameFile earlier.session call.session

end TalkServer

/-- A call that is not interrupted does what the code does in one go. -/
theorem TalkLog.record_eq_append
    (json : TalkJson) (log : TalkLog) (call : TalkCall) :
    log.record json call =
      match call.append (log.load json call.session) with
      | some entries => log.save json call.session entries
      | none => log := by
  cases call with
  | prompt ts id session text => rfl
  | reply ts id session reply =>
      unfold record recordReply TalkCall.append
      simp only [TalkCall.session]
      cases found : (log.load json session).findKey TalkEntry.id id with
      | none => rfl
      | some entry => rfl

section Recordings

theorem recordings_append (entries more : List TalkEntry) :
    recordings (entries ++ more) = recordings entries ++ recordings more :=
  List.flatMap_append

theorem recordings_answered
    (entry : TalkEntry) (record : TalkReplyRecord) :
    (entry.answered [record]).recordings =
      entry.recordings ++ [.reply entry.id record] := by
  simp [TalkEntry.recordings, TalkEntry.answered]

/-- A call adds its recording to those of the entries, and loses none. -/
theorem recordings_of_append
    {call : TalkCall} {entries entries' : List TalkEntry}
    (appended : call.append entries = some entries') :
    (recordings entries').Perm (call.recording :: recordings entries) := by
  cases call with
  | prompt ts id session text =>
      cases appended
      rw [recordings_append]
      exact List.perm_append_comm
  | reply ts id session reply =>
      obtain ⟨entry, found, rfl⟩ := Option.map_eq_some_iff.mp appended
      have named := (List.findKey_eq_some found).2
      obtain ⟨earlier, later, split, rewritten⟩ :=
        List.rewriteFirst_eq_append found
          (entry.answered [talkReplyRecord ts reply])
      rw [rewritten, split]
      have inner :
          recordings (entry.answered [talkReplyRecord ts reply] :: later) =
            entry.recordings ++
              .reply id (talkReplyRecord ts reply) :: recordings later := by
        unfold recordings
        rw [List.flatMap_cons, recordings_answered, named]
        simp
      have old :
          recordings (entry :: later) = entry.recordings ++ recordings later :=
        List.flatMap_cons
      rw [recordings_append, recordings_append, inner, old,
        ← List.append_assoc, ← List.append_assoc]
      exact List.perm_middle

/-- What calls recorded in the file of a session. -/
def filed (session : String) (calls : List TalkCall) : List Recording :=
  (calls.filter fun call => TalkLog.SameFile session call.session).map
    TalkCall.recording

theorem filed_congr
    {session session' : String} (sameFile : TalkLog.SameFile session session')
    (calls : List TalkCall) : filed session calls = filed session' calls := by
  unfold filed
  refine congrArg _ (List.filter_congr ?_)
  intro call _
  apply decide_eq_decide.mpr
  exact ⟨sameFile.symm.trans, sameFile.trans⟩

theorem filed_snoc_of_same
    {session : String} {call : TalkCall}
    (sameFile : TalkLog.SameFile session call.session)
    (calls : List TalkCall) :
    filed session (calls ++ [call]) =
      filed session calls ++ [call.recording] := by
  simp [filed, List.filter_append, sameFile]

theorem filed_snoc_of_other
    {session : String} {call : TalkCall}
    (other : ¬TalkLog.SameFile session call.session)
    (calls : List TalkCall) :
    filed session (calls ++ [call]) = filed session calls := by
  simp [filed, List.filter_append, other]

/-- What was recorded under a session is in its file. -/
theorem own_subperm_filed (session : String) (calls : List TalkCall) :
    ((calls.filter fun call => call.session = session).map
      TalkCall.recording).Subperm (filed session calls) := by
  refine (List.Sublist.map _ ?_).subperm
  refine List.monotone_filter_right calls ?_
  intro call own
  rw [of_decide_eq_true own]
  exact decide_eq_true rfl

end Recordings

namespace TalkServer

variable {json : TalkJson} {server next : TalkServer}

/-- What the completed calls recorded is in the files, or in what the running call is
about to write. -/
def Kept (json : TalkJson) (server : TalkServer) : Prop :=
  match server.phase with
  | .idle | .dropped =>
      ∀ session,
        (filed session server.completed).Subperm
          (recordings (server.log.load json session))
  | .loaded call entries =>
      (∀ session,
        (filed session server.completed).Subperm
          (recordings (server.log.load json session))) ∧
      (call.recording :: filed call.session server.completed).Subperm
        (recordings entries)
  | .truncated call entries =>
      (∀ session, ¬TalkLog.SameFile session call.session →
        (filed session server.completed).Subperm
          (recordings (server.log.load json session))) ∧
      (call.recording :: filed call.session server.completed).Subperm
        (recordings entries)
  | .written call =>
      ∀ session,
        (filed session (server.completed ++ [call])).Subperm
          (recordings (server.log.load json session))

/-- A file that is truncated reads as an empty history. -/
def Whole (json : TalkJson) (server : TalkServer) : Prop :=
  ∀ call entries, server.phase = .truncated call entries →
    ∀ session, TalkLog.SameFile session call.session →
      server.log.load json session = []

theorem keepsRecordings_of_kept (kept : Kept json server) :
    KeepsRecordings json server := by
  intro isIdle session
  unfold Kept at kept
  rw [isIdle] at kept
  exact (own_subperm_filed session server.completed).trans (kept session)

theorem load_emptied_of_same
    (emptyFails : json.fromStr "" = none) {log : TalkLog}
    {session session' : String}
    (sameFile : TalkLog.SameFile session' session) :
    (emptied log session).load json session' = [] := by
  have sameName :
      TalkLog.safeFilename session' = TalkLog.safeFilename session := sameFile
  unfold TalkLog.load emptied
  simp [sameName, emptyFails]

theorem load_emptied_of_other
    {log : TalkLog} {session session' : String}
    (other : ¬TalkLog.SameFile session' session) :
    (emptied log session).load json session' = log.load json session' := by
  have otherName :
      TalkLog.safeFilename session' ≠ TalkLog.safeFilename session := other
  unfold TalkLog.load emptied
  simp only [FiniteMap.get?_put, if_neg otherName]

/-- What a step can do. -/
inductive Moves (json : TalkJson) (server : TalkServer) :
    TalkStep → TalkServer → Prop
  | begin {call entries} (isIdle : server.phase = .idle)
      (appended :
        call.append (server.log.load json call.session) = some entries) :
      Moves json server (.begin call)
        { server with phase := .loaded call entries }
  | drop {call} (isIdle : server.phase = .idle)
      (unknown : call.append (server.log.load json call.session) = none) :
      Moves json server (.begin call) { server with phase := .dropped }
  | truncate {call entries} (loaded : server.phase = .loaded call entries) :
      Moves json server .truncate
        { server with
          log := emptied server.log call.session
          phase := .truncated call entries }
  | write {call entries} (truncated : server.phase = .truncated call entries) :
      Moves json server .write
        { server with
          log := server.log.save json call.session entries
          phase := .written call }
  | finish {call} (written : server.phase = .written call) :
      Moves json server .finish
        { server with
          phase := .idle
          completed := server.completed ++ [call] }
  | finishDropped (dropped : server.phase = .dropped) :
      Moves json server .finish { server with phase := .idle }
  | crash : Moves json server .crash { server with phase := .idle }

theorem moves_of_step
    {action : TalkStep} (stepped : server.step json action = some next) :
    Moves json server action next := by
  cases action with
  | begin call =>
      simp only [step] at stepped
      split at stepped
      · next isIdle =>
          split at stepped
          · next entries appended =>
              cases stepped
              exact .begin isIdle appended
          · next unknown =>
              cases stepped
              exact .drop isIdle unknown
      · cases stepped
  | truncate =>
      simp only [step] at stepped
      split at stepped
      · next loaded =>
          cases stepped
          exact .truncate loaded
      · cases stepped
  | write =>
      simp only [step] at stepped
      split at stepped
      · next truncated =>
          cases stepped
          exact .write truncated
      · cases stepped
  | finish =>
      simp only [step] at stepped
      split at stepped
      · next written =>
          cases stepped
          exact .finish written
      · next dropped =>
          cases stepped
          exact .finishDropped dropped
      · cases stepped
  | crash =>
      cases stepped
      exact .crash

/-- A call begins with what is in its file. -/
theorem kept_begin
    {call : TalkCall} (isIdle : server.phase = .idle)
    (kept : Kept json server) {entries : List TalkEntry}
    (appended :
      call.append (server.log.load json call.session) = some entries) :
    Kept json { server with phase := .loaded call entries } := by
  unfold Kept at kept
  rw [isIdle] at kept
  refine ⟨kept, ?_⟩
  have added := (List.subperm_cons call.recording).mpr (kept call.session)
  exact added.trans (recordings_of_append appended).symm.subperm

theorem kept_truncate
    {call : TalkCall} {entries : List TalkEntry}
    (loaded : server.phase = .loaded call entries)
    (kept : Kept json server) :
    Kept json
      { server with
        log := emptied server.log call.session
        phase := .truncated call entries } := by
  unfold Kept at kept
  rw [loaded] at kept
  refine ⟨?_, kept.2⟩
  intro session other
  rw [load_emptied_of_other other]
  exact kept.1 session

theorem kept_write
    (roundTrips : json.RoundTrips)
    {call : TalkCall} {entries : List TalkEntry}
    (truncated : server.phase = .truncated call entries)
    (kept : Kept json server) :
    Kept json
      { server with
        log := server.log.save json call.session entries
        phase := .written call } := by
  unfold Kept at kept
  rw [truncated] at kept
  intro session
  simp only
  rw [TalkLog.load_save roundTrips]
  by_cases sameFile : TalkLog.SameFile session call.session
  · rw [if_pos sameFile, filed_snoc_of_same sameFile, filed_congr sameFile]
    exact List.perm_append_comm.subperm.trans kept.2
  · rw [if_neg sameFile, filed_snoc_of_other sameFile]
    exact kept.1 session sameFile

theorem filed_subperm_snoc
    (session : String) (calls : List TalkCall) (call : TalkCall) :
    (filed session calls).Subperm (filed session (calls ++ [call])) := by
  have both : filed session (calls ++ [call]) =
      filed session calls ++ filed session [call] := by
    simp [filed, List.filter_append]
  rw [both]
  exact (List.sublist_append_left _ _).subperm

/-- A crash leaves the files as they are. -/
theorem kept_crash
    (kept : Kept json server) (spares : SparesRecordings server .crash) :
    Kept json { server with phase := .idle } := by
  unfold Kept at kept
  intro session
  simp only
  cases phase : server.phase with
  | idle =>
      rw [phase] at kept
      exact kept session
  | dropped =>
      rw [phase] at kept
      exact kept session
  | loaded call entries =>
      rw [phase] at kept
      exact kept.1 session
  | truncated call entries =>
      rw [phase] at kept
      by_cases sameFile : TalkLog.SameFile session call.session
      · have nothing : filed session server.completed = [] := by
          unfold filed
          rw [List.map_eq_nil_iff, List.filter_eq_nil_iff]
          intro earlier isCompleted inFile
          have sameAsEarlier := of_decide_eq_true inFile
          exact
            spares rfl call entries phase earlier isCompleted
              (sameAsEarlier.symm.trans sameFile)
        rw [nothing]
        exact List.nil_subperm
      · exact kept.1 session sameFile
  | written call =>
      rw [phase] at kept
      exact (filed_subperm_snoc session server.completed call).trans (kept session)

/-- A step that spares the recordings keeps them. -/
theorem kept_step
    (roundTrips : json.RoundTrips) {action : TalkStep}
    (kept : Kept json server) (spares : SparesRecordings server action)
    (stepped : server.step json action = some next) :
    Kept json next := by
  cases moves_of_step stepped with
  | begin isIdle appended => exact kept_begin isIdle kept appended
  | drop isIdle _ =>
      unfold Kept at kept ⊢
      rw [isIdle] at kept
      exact kept
  | truncate loaded => exact kept_truncate loaded kept
  | write truncated => exact kept_write roundTrips truncated kept
  | finish written =>
      unfold Kept at kept ⊢
      rw [written] at kept
      exact kept
  | finishDropped dropped =>
      unfold Kept at kept ⊢
      rw [dropped] at kept
      exact kept
  | crash => exact kept_crash kept spares

theorem whole_step
    (emptyFails : json.fromStr "" = none) {action : TalkStep}
    (stepped : server.step json action = some next) :
    Whole json next := by
  intro call entries truncated session sameFile
  cases moves_of_step stepped with
  | truncate loaded =>
      cases truncated
      exact load_emptied_of_same emptyFails sameFile
  | begin | drop | write | finish | finishDropped | crash => cases truncated

/-- The recordings in a file that is truncated are lost with a crash. -/
theorem spares_of_keepsRecordings
    {action : TalkStep} (whole : Whole json server)
    (stepped : server.step json action = some next)
    (keeps : KeepsRecordings json next) :
    SparesRecordings server action := by
  rintro rfl call entries truncated earlier isCompleted sameFile
  cases stepped
  have returned := keeps rfl earlier.session
  have lost : server.log.load json earlier.session = [] :=
    whole call entries truncated earlier.session sameFile
  unfold TalkLog.read at returned
  simp only [lost] at returned
  have nothing := List.subperm_nil.mp returned
  rw [List.map_eq_nil_iff, List.filter_eq_nil_iff] at nothing
  exact nothing earlier isCompleted (decide_eq_true rfl)

/-- A call that is not interrupted changes the files as `record` does. -/
theorem run_uninterrupted
    (log : TalkLog) {call : TalkCall} (isIdle : server.phase = .idle)
    {entries : List TalkEntry}
    (appended :
      call.append (server.log.load json call.session) = some entries) :
    (machine json log).run server [.begin call, .truncate, .write, .finish] =
      some
        { log := server.log.record json call
          phase := .idle
          completed := server.completed ++ [call] } := by
  have saved :
      (emptied server.log call.session).save json call.session entries =
        server.log.record json call := by
    rw [TalkLog.record_eq_append, appended]
    unfold emptied TalkLog.save FiniteMap.put
    simp only [AList.insert_insert]
  simp [Transition.Machine.run, machine, step, isIdle, appended, saved]

section Runs

def prompted : TalkCall :=
  .prompt "t0" "p1" "alpha" "hi"

def replied : TalkCall :=
  .reply "t1" "p1" "alpha" ⟨"alpha", some "yes", [], true, some 0⟩

theorem emptyFails_prettyTalkJson : prettyTalkJson.fromStr "" = none :=
  rfl

/-- The server after the prompt was recorded. -/
def afterPrompt : TalkServer where
  log := TalkLog.empty.record prettyTalkJson prompted
  phase := .idle
  completed := [prompted]

theorem run_prompted :
    (machine prettyTalkJson .empty).run (machine prettyTalkJson .empty).init
        [.begin prompted, .truncate, .write, .finish] = some afterPrompt :=
  run_uninterrupted .empty rfl rfl

/-- The entry with its reply. -/
def answered : TalkEntry where
  id := "p1"
  session := "alpha"
  promptText := "hi"
  promptTs := "t0"
  replies := [⟨some "yes", [], true, some 0, "t1"⟩]

theorem append_replied :
    replied.append (afterPrompt.log.load prettyTalkJson replied.session) =
      some [answered] := by
  have loaded :
      afterPrompt.log.load prettyTalkJson replied.session =
        [⟨"p1", "alpha", "hi", "t0", []⟩] :=
    TalkLog.load_recordPrompt roundTrips_prettyTalkJson _ _ _ _ _
  rw [loaded]
  decide

theorem step_replied :
    (machine prettyTalkJson .empty).step afterPrompt (.begin replied) =
      some { afterPrompt with phase := .loaded replied [answered] } := by
  have isIdle : afterPrompt.phase = .idle := rfl
  simp [machine, step, isIdle, append_replied]

/-- A recorded prompt, and a crash before its reply is written. -/
def sparedRun : List TalkStep :=
  [.begin prompted, .truncate, .write, .finish] ++ [.begin replied, .crash]

theorem run_sparedRun :
    (machine prettyTalkJson .empty).run (machine prettyTalkJson .empty).init
        sparedRun = some afterPrompt := by
  unfold sparedRun
  rw [Transition.Machine.run_append_of_eq_some _ run_prompted,
    Transition.Machine.run_cons, step_replied]
  rfl

end Runs

end TalkServer

end HollerServer.Wire
