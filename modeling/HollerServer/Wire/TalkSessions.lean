import HollerServer.Wire.TalkText

/-!
# Sessions of the talk log

The talk log is to be a map from session names to entries.  What a file holds is told
by the calls under every name that has this file; it is the history of one session
exactly if no call under another name gets into it.  Every file lies directly in the
talk directory.
-/

namespace HollerServer.Wire

open HollerServer.Proto

/-- A call that records something. -/
inductive TalkCall where
  | prompt (ts id session text : String)
  | reply (ts id session : String) (reply : ReplyBody)
  deriving DecidableEq, Repr

namespace TalkCall

def session : TalkCall → String
  | .prompt _ _ session _ => session
  | .reply _ _ session _ => session

/-- The id of a prompt. -/
def promptId? : TalkCall → Option String
  | .prompt _ id _ _ => some id
  | .reply _ _ _ _ => none

end TalkCall

def promptIds (calls : List TalkCall) : List String :=
  calls.filterMap TalkCall.promptId?

/-- The record of a reply. -/
def talkReplyRecord (ts : String) (reply : ReplyBody) : TalkReplyRecord where
  text := reply.text
  chunks := reply.chunks
  done := reply.done
  exit := reply.exit
  ts := ts

/-- The entry with more replies. -/
def TalkEntry.answered
    (entry : TalkEntry) (more : List TalkReplyRecord) : TalkEntry :=
  { entry with replies := entry.replies ++ more }

namespace TalkLog

def record (json : TalkJson) (log : TalkLog) : TalkCall → TalkLog
  | .prompt ts id session text => log.recordPrompt json ts id session text
  | .reply ts id session reply => log.recordReply json ts id session reply

def empty : TalkLog where
  files := ∅

/-- The log after some calls on an empty directory. -/
def recorded (json : TalkJson) (calls : List TalkCall) : TalkLog :=
  calls.foldl (record json) empty

end TalkLog

section Histories

variable (mine : String → Bool)

/-- The replies to a prompt that some calls record under the names that count. -/
def repliesTo (id : String) : List TalkCall → List TalkReplyRecord
  | [] => []
  | .prompt _ _ _ _ :: rest => repliesTo id rest
  | .reply ts id' session reply :: rest =>
      if mine session ∧ id' = id then
        talkReplyRecord ts reply :: repliesTo id rest
      else repliesTo id rest

/-- The prompts that some calls record under the names that count, in order, each
with the replies that are recorded to it later. -/
def entriesOf : List TalkCall → List TalkEntry
  | [] => []
  | .prompt ts id session text :: rest =>
      if mine session then
        { id
          session
          promptText := text
          promptTs := ts
          replies := repliesTo mine id rest } :: entriesOf rest
      else entriesOf rest
  | .reply _ _ _ _ :: rest => entriesOf rest

end Histories

/-- What was recorded under one session name. -/
def history (session : String) (calls : List TalkCall) : List TalkEntry :=
  entriesOf (fun name => name = session) calls

/-- The call gets from another session into the history: a prompt does, and a reply
to a prompt that was recorded before. -/
def Disturbs (session : String) (before : List TalkCall) : TalkCall → Prop
  | .prompt _ _ name _ => name ≠ session ∧ TalkLog.SameFile session name
  | .reply _ id name _ =>
      name ≠ session ∧ TalkLog.SameFile session name ∧
        ∃ ts text, TalkCall.prompt ts id session text ∈ before

/-- No call gets into the history of the session. -/
def Undisturbed (session : String) (calls : List TalkCall) : Prop :=
  ∀ before call after, calls = before ++ call :: after →
    ¬Disturbs session before call

section Paths

/-- The components of a path; `.` and empty ones do not count. -/
def pathComponents (path : String) : List String :=
  ((path.toList.splitOnP fun char => char = '/').filter fun part =>
    part ≠ [] && part ≠ ['.']).map String.ofList

/-- `Path::join`: an absolute path replaces the directory. -/
def joinPath (dir : List String) (path : String) : List String :=
  if path.toList.head? = some '/' then pathComponents path
  else dir ++ pathComponents path

/-- The path names something directly in the directory. -/
def DirectlyInside (dir path : List String) : Prop :=
  ∃ name, path = dir ++ [name] ∧ name ≠ ".."

end Paths

/-- What the log is to be: a session reads its own history, and the files lie in the
talk directory. -/
def RefinesSessions
    (json : TalkJson) (calls : List TalkCall) (session : String) : Prop :=
  (TalkLog.recorded json calls).read json session = history session calls ∧
    ∀ dir name,
      ((TalkLog.recorded json calls).files.get? name).isSome = true →
        DirectlyInside dir (joinPath dir name)

section Entries

variable {mine : String → Bool}

theorem repliesTo_append (id : String) (calls more : List TalkCall) :
    repliesTo mine id (calls ++ more) =
      repliesTo mine id calls ++ repliesTo mine id more := by
  induction calls with
  | nil => rfl
  | cons call rest inductionHypothesis =>
      cases call with
      | prompt => exact inductionHypothesis
      | reply ts id' session reply =>
          simp only [List.cons_append, repliesTo]
          split
          · rw [inductionHypothesis]
            rfl
          · exact inductionHypothesis

/-- The entries of some calls and more: the earlier prompts get the later replies. -/
theorem entriesOf_append (calls more : List TalkCall) :
    entriesOf mine (calls ++ more) =
      (entriesOf mine calls).map (fun entry =>
          entry.answered (repliesTo mine entry.id more)) ++
        entriesOf mine more := by
  induction calls with
  | nil => rfl
  | cons call rest inductionHypothesis =>
      cases call with
      | prompt ts id session text =>
          simp only [List.cons_append, entriesOf]
          split
          · rw [inductionHypothesis, repliesTo_append]
            rfl
          · exact inductionHypothesis
      | reply => exact inductionHypothesis

theorem ids_entriesOf_sublist (calls : List TalkCall) :
    ((entriesOf mine calls).map TalkEntry.id).Sublist (promptIds calls) := by
  induction calls with
  | nil => exact List.Sublist.refl _
  | cons call rest inductionHypothesis =>
      cases call with
      | prompt ts id session text =>
          unfold entriesOf
          split
          · exact inductionHypothesis.cons_cons id
          · exact inductionHypothesis.cons id
      | reply => exact inductionHypothesis

theorem nodup_ids_entriesOf
    {calls : List TalkCall} (distinct : (promptIds calls).Nodup) :
    ((entriesOf mine calls).map TalkEntry.id).Nodup :=
  distinct.sublist (ids_entriesOf_sublist calls)

end Entries

section Files

variable {json : TalkJson} {log : TalkLog}

/-- The names whose file is that of the session. -/
def inFileOf (session : String) : String → Bool :=
  fun name => TalkLog.SameFile session name

namespace TalkLog

theorem load_recordReply_self
    (roundTrips : json.RoundTrips) {ts id session : String}
    {reply : ReplyBody}
    (distinct : ((log.load json session).map TalkEntry.id).Nodup) :
    (log.recordReply json ts id session reply).load json session =
      (log.load json session).map fun entry =>
        if entry.id = id then entry.answered [talkReplyRecord ts reply]
        else entry := by
  unfold recordReply
  simp only
  cases found : (log.load json session).findKey TalkEntry.id id with
  | none =>
      have others : ∀ entry ∈ log.load json session, ¬entry.id = id := by
        intro entry isMember
        have fails := List.find?_eq_none.mp found entry isMember
        simpa using fails
      rw [List.map_congr_left fun entry isMember =>
        if_neg (others entry isMember)]
      exact (List.map_id' _).symm
  | some entry =>
      have ownFile : SameFile session session := rfl
      simp only
      rw [load_save roundTrips, if_pos ownFile,
        ← List.rewriteFirst_eq_map
          (TalkEntry.answered · [talkReplyRecord ts reply]) distinct found]
      rfl

theorem load_recordReply_of_other
    (roundTrips : json.RoundTrips) {ts id session session' : String}
    {reply : ReplyBody} (other : ¬SameFile session' session) :
    (log.recordReply json ts id session reply).load json session' =
      log.load json session' := by
  unfold recordReply
  simp only
  split
  · rfl
  · rw [load_save roundTrips, if_neg other]

/-- A recorded reply goes to the entry of its id, whatever name of the file it is
recorded under. -/
theorem load_recordReply
    (roundTrips : json.RoundTrips) {ts id session session' : String}
    {reply : ReplyBody}
    (distinct : ((log.load json session').map TalkEntry.id).Nodup) :
    (log.recordReply json ts id session reply).load json session' =
      (log.load json session').map fun entry =>
        entry.answered
          (repliesTo (inFileOf session') entry.id
            [.reply ts id session reply]) := by
  by_cases sameFile : SameFile session' session
  · have counts : inFileOf session' session = true := decide_eq_true sameFile
    rw [load_congr sameFile] at distinct ⊢
    rw [load_recordReply_self roundTrips distinct, load_congr sameFile]
    refine List.map_congr_left ?_
    intro entry _
    by_cases named : entry.id = id
    · simp [repliesTo, counts, named]
    · simp [repliesTo, Ne.symm named, named, TalkEntry.answered]
  · have counts : inFileOf session' session = false := decide_eq_false sameFile
    rw [load_recordReply_of_other roundTrips sameFile]
    have kept (entry : TalkEntry) :
        entry.answered
            (repliesTo (inFileOf session') entry.id
              [.reply ts id session reply]) = entry := by
      simp [repliesTo, counts, TalkEntry.answered]
    rw [List.map_congr_left fun entry _ => kept entry]
    exact (List.map_id' _).symm

/-- A file holds what was recorded under all the names that have it. -/
theorem read_recorded
    (roundTrips : json.RoundTrips) {calls : List TalkCall}
    (distinct : (promptIds calls).Nodup) (session : String) :
    (recorded json calls).read json session =
      entriesOf (inFileOf session) calls := by
  induction calls using List.reverseRecOn with
  | nil => rfl
  | append_singleton calls call inductionHypothesis =>
      have split :
          recorded json (calls ++ [call]) =
            (recorded json calls).record json call := by
        unfold recorded
        rw [List.foldl_append]
        rfl
      have earlier : (promptIds calls).Nodup := by
        unfold promptIds at distinct ⊢
        rw [List.filterMap_append] at distinct
        exact distinct.of_append_left
      have held := inductionHypothesis earlier
      unfold read at held ⊢
      rw [split, entriesOf_append, ← held]
      cases call with
      | prompt ts id name text =>
          have kept (entry : TalkEntry) :
              entry.answered
                  (repliesTo (inFileOf session) entry.id
                    [.prompt ts id name text]) = entry := by
            simp [repliesTo, TalkEntry.answered]
          rw [List.map_congr_left fun entry _ => kept entry, List.map_id']
          unfold record
          rw [load_recordPrompt roundTrips]
          simp [entriesOf, inFileOf, repliesTo]
      | reply ts id name reply =>
          have ids :
              (((recorded json calls).load json session).map
                TalkEntry.id).Nodup := by
            rw [held]
            exact nodup_ids_entriesOf earlier
          unfold record
          rw [load_recordReply roundTrips ids]
          simp [entriesOf]

end TalkLog

end Files

section Disturbances

variable {mine : String → Bool} {session : String} {calls : List TalkCall}

/-- Every entry comes from a prompt under a name that counts. -/
theorem prompt_of_mem_entriesOf
    {entry : TalkEntry} (isEntry : entry ∈ entriesOf mine calls) :
    mine entry.session = true ∧
      ∃ ts text, TalkCall.prompt ts entry.id entry.session text ∈ calls := by
  induction calls with
  | nil => cases isEntry
  | cons call rest inductionHypothesis =>
      have later (inRest : entry ∈ entriesOf mine rest) :
          mine entry.session = true ∧
            ∃ ts text,
              TalkCall.prompt ts entry.id entry.session text ∈ call :: rest := by
        obtain ⟨counts, ts, text, isCall⟩ := inductionHypothesis inRest
        exact ⟨counts, ts, text, List.mem_cons_of_mem _ isCall⟩
      cases call with
      | prompt ts id name text =>
          unfold entriesOf at isEntry
          split at isEntry
          · next counts =>
              rcases List.mem_cons.mp isEntry with rfl | inRest
              · exact ⟨counts, ts, text, List.mem_cons_self⟩
              · exact later inRest
          · exact later isEntry
      | reply => exact later isEntry

/-- The entry of a prompt, with the replies of the calls behind it. -/
theorem mem_entriesOf_of_prompt
    {name : String} (counts : mine name = true) (ts id text : String)
    (before after : List TalkCall) :
    ({ id
       session := name
       promptText := text
       promptTs := ts
       replies := repliesTo mine id after } : TalkEntry) ∈
      entriesOf mine (before ++ .prompt ts id name text :: after) := by
  rw [entriesOf_append]
  refine List.mem_append_right _ ?_
  unfold entriesOf
  rw [if_pos counts]
  exact List.mem_cons_self

theorem inFileOf_eq_of_not_disturbing
    {name : String}
    (apart : ¬(name ≠ session ∧ TalkLog.SameFile session name)) :
    inFileOf session name = decide (name = session) := by
  by_cases same : name = session
  · subst same
    have ownFile : TalkLog.SameFile name name := rfl
    simp [inFileOf, ownFile]
  · have other : ¬TalkLog.SameFile session name := fun sameFile =>
      apart ⟨same, sameFile⟩
    simp [inFileOf, other, same]

/-- Nothing else is in the file of a session that no call disturbs. -/
theorem entriesOf_of_undisturbed (undisturbed : Undisturbed session calls) :
    entriesOf (inFileOf session) calls = history session calls := by
  unfold history
  induction calls using List.reverseRecOn with
  | nil => rfl
  | append_singleton calls call inductionHypothesis =>
      have earlier : Undisturbed session calls := by
        intro before inner after split
        apply undisturbed before inner (after ++ [call])
        rw [split]
        simp
      have last : ¬Disturbs session calls call :=
        undisturbed calls call [] rfl
      rw [entriesOf_append, entriesOf_append, inductionHypothesis earlier]
      cases call with
      | prompt ts id name text =>
          have counts := inFileOf_eq_of_not_disturbing last
          simp [entriesOf, repliesTo, counts]
      | reply ts id name reply =>
          refine congrArg (· ++ _) (List.map_congr_left ?_)
          intro entry isEntry
          by_cases apart : name ≠ session ∧ TalkLog.SameFile session name
          · -- The reply is for a prompt that this session did not record.
            have otherId : id ≠ entry.id := by
              intro same
              obtain ⟨isOwn, ts, text, isCall⟩ := prompt_of_mem_entriesOf isEntry
              rw [of_decide_eq_true isOwn, ← same] at isCall
              exact last ⟨apart.1, apart.2, ts, text, isCall⟩
            simp [repliesTo, otherId]
          · have counts := inFileOf_eq_of_not_disturbing apart
            simp [repliesTo, counts]

theorem length_repliesTo_le
    {narrow wide : String → Bool}
    (within : ∀ name, narrow name = true → wide name = true) (id : String)
    (calls : List TalkCall) :
    (repliesTo narrow id calls).length ≤ (repliesTo wide id calls).length := by
  induction calls with
  | nil => exact Nat.le_refl _
  | cons call rest inductionHypothesis =>
      cases call with
      | prompt => exact inductionHypothesis
      | reply ts id' name reply =>
          unfold repliesTo
          by_cases counts : narrow name = true ∧ id' = id
          · rw [if_pos counts, if_pos ⟨within name counts.1, counts.2⟩]
            exact Nat.succ_le_succ inductionHypothesis
          · rw [if_neg counts]
            split
            · exact Nat.le_succ_of_le inductionHypothesis
            · exact inductionHypothesis

theorem inFileOf_of_own {name : String} (own : decide (name = session) = true) :
    inFileOf session name = true := by
  rw [of_decide_eq_true own]
  exact decide_eq_true rfl

/-- A session reads more than its history once a call disturbed it. -/
theorem undisturbed_of_entriesOf
    (distinct : (promptIds calls).Nodup)
    (same : entriesOf (inFileOf session) calls = history session calls) :
    Undisturbed session calls := by
  rintro before call after rfl disturbs
  cases call with
  | prompt ts id name text =>
      have counts : inFileOf session name = true := decide_eq_true disturbs.2
      have isEntry := mem_entriesOf_of_prompt counts ts id text before after
      rw [same] at isEntry
      have own := (prompt_of_mem_entriesOf isEntry).1
      exact disturbs.1 (of_decide_eq_true own)
  | reply ts id name reply =>
      obtain ⟨otherName, sameFile, promptTs, text, isPrompt⟩ := disturbs
      obtain ⟨first, between, rfl⟩ := List.append_of_mem isPrompt
      let rest := between ++ .reply ts id name reply :: after
      have ownCounts : decide (session = session) = true := by simp
      have inFile :=
        mem_entriesOf_of_prompt (inFileOf_of_own ownCounts) promptTs id text
          first rest
      have inHistory :=
        @mem_entriesOf_of_prompt (fun name => name = session) session
          ownCounts promptTs id text first rest
      have split :
          first ++ .prompt promptTs id session text :: between ++
              .reply ts id name reply :: after =
            first ++ .prompt promptTs id session text :: rest := by
        simp [rest]
      rw [split] at same distinct
      rw [same] at inFile
      have sameEntry :=
        List.inj_on_of_nodup_map (nodup_ids_entriesOf distinct) inFile
          inHistory rfl
      have sameReplies :
          repliesTo (inFileOf session) id rest =
            repliesTo (fun name => name = session) id rest :=
        congrArg TalkEntry.replies sameEntry
      -- The reply under the other name is in the file and not in the history.
      have counts : inFileOf session name = true := decide_eq_true sameFile
      have inner :
          repliesTo (inFileOf session) id [.reply ts id name reply] =
              [talkReplyRecord ts reply] ∧
            repliesTo (fun name => name = session) id
              [.reply ts id name reply] = [] := by
        simp [repliesTo, counts, otherName]
      have more (calls : List TalkCall) :
          (repliesTo (fun name => name = session) id calls).length ≤
            (repliesTo (inFileOf session) id calls).length :=
        length_repliesTo_le (fun _ own => inFileOf_of_own own) id calls
      have parts : rest = between ++ ([.reply ts id name reply] ++ after) := rfl
      have lengths := congrArg List.length sameReplies
      simp only [parts, repliesTo_append, inner.1, inner.2,
        List.length_append, List.length_cons, List.length_nil] at lengths
      have moreBetween := more between
      have moreAfter := more after
      omega

end Disturbances

section Names

/-- The characters of a file name. -/
theorem safe_of_mem_safeFilename
    {name : String} {char : Char}
    (isMember : char ∈ (TalkLog.safeFilename name).toList) : char ≠ '/' := by
  rintro rfl
  simp only [TalkLog.safeFilename, String.toList_append, List.mem_append,
    String.toList_ofList, List.mem_map] at isMember
  rcases isMember with ⟨char, _, mapped⟩ | extension
  · split at mapped
    · next safe =>
        rw [mapped] at safe
        cases safe
    · cases mapped
  · exact absurd extension (by decide)

theorem length_safeFilename (name : String) :
    5 ≤ (TalkLog.safeFilename name).toList.length := by
  simp [TalkLog.safeFilename]

/-- A file name is a single component, not a way out of the directory. -/
theorem directlyInside_safeFilename (dir : List String) (session : String) :
    DirectlyInside dir (joinPath dir (TalkLog.safeFilename session)) := by
  let name := TalkLog.safeFilename session
  have long : 5 ≤ name.toList.length := length_safeFilename session
  have relative : name.toList.head? ≠ some '/' := by
    intro isHead
    exact safe_of_mem_safeFilename (List.mem_of_mem_head? isHead) rfl
  have single : (name.toList.splitOnP fun char => char = '/') = [name.toList] := by
    apply List.splitOnP_eq_singleton
    intro char isMember
    exact decide_eq_false (safe_of_mem_safeFilename isMember)
  have notEmpty : name.toList ≠ [] := by
    intro empty
    rw [empty] at long
    simp at long
  have notDot : name.toList ≠ ['.'] := by
    intro dot
    rw [dot] at long
    simp at long
  refine ⟨name, ?_, ?_⟩
  · unfold joinPath pathComponents
    rw [if_neg relative, single]
    simp [notEmpty, notDot]
  · intro dots
    rw [dots] at long
    exact absurd long (by decide)

end Names

section Sessions

variable {json : TalkJson}

/-- Only the files of the sessions are written. -/
theorem TalkLog.safeFilename_of_written
    {calls : List TalkCall} {name : String}
    (written : ((recorded json calls).files.get? name).isSome = true) :
    ∃ session, name = safeFilename session := by
  have step (log : TalkLog) (call : TalkCall)
      (stored : ((log.record json call).files.get? name).isSome = true) :
      name = safeFilename call.session ∨
        (log.files.get? name).isSome = true := by
    have saved (session : String) (entries : List TalkEntry)
        (stored :
          ((log.save json session entries).files.get? name).isSome = true) :
        name = safeFilename session ∨ (log.files.get? name).isSome = true := by
      unfold save at stored
      simp only [FiniteMap.get?_put] at stored
      split at stored
      · next same => exact .inl same
      · exact .inr stored
    cases call with
    | prompt ts id session text => exact saved session _ stored
    | reply ts id session reply =>
        unfold record recordReply at stored
        simp only at stored
        split at stored
        · exact .inr stored
        · exact saved session _ stored
  induction calls using List.reverseRecOn with
  | nil => cases written
  | append_singleton calls call inductionHypothesis =>
      unfold recorded at written inductionHypothesis
      rw [List.foldl_append] at written
      rcases step _ call written with isName | earlier
      · exact ⟨call.session, isName⟩
      · exact inductionHypothesis earlier

/-- The log is a map from session names to histories for a session exactly if no call
under another name with the same file gets into it. -/
theorem refinesSessions_iff
    (roundTrips : json.RoundTrips) {calls : List TalkCall}
    (distinct : (promptIds calls).Nodup) (session : String) :
    RefinesSessions json calls session ↔ Undisturbed session calls := by
  have held := TalkLog.read_recorded roundTrips distinct session
  constructor
  · rintro ⟨reads, _⟩
    rw [held] at reads
    exact undisturbed_of_entriesOf distinct reads
  · intro undisturbed
    refine ⟨?_, ?_⟩
    · rw [held]
      exact entriesOf_of_undisturbed undisturbed
    · intro dir name written
      obtain ⟨owner, rfl⟩ := TalkLog.safeFilename_of_written written
      exact directlyInside_safeFilename dir owner

/-- Two prompts and an answer, under names with files of their own. -/
def separateCalls : List TalkCall :=
  [.prompt "t0" "p1" "alpha" "hi",
    .prompt "t1" "p2" "beta" "hello",
    .reply "t2" "p1" "alpha" ⟨"alpha", some "yes", [], true, some 0⟩]

theorem undisturbed_separateCalls : Undisturbed "alpha" separateCalls := by
  have apart : ¬TalkLog.SameFile "alpha" "beta" := by decide
  intro before call after split disturbs
  have isCall : call ∈ separateCalls := by
    rw [split]
    exact List.mem_append_right before List.mem_cons_self
  simp only [separateCalls, List.mem_cons, List.not_mem_nil, or_false] at isCall
  rcases isCall with rfl | rfl | rfl
  · exact disturbs.1 rfl
  · exact apart disturbs.2
  · exact disturbs.1 rfl

theorem refinesSessions_iff_separateCalls :
    (promptIds separateCalls).Nodup ∧
      RefinesSessions prettyTalkJson separateCalls "alpha" := by
  have distinct : (promptIds separateCalls).Nodup := by decide
  exact
    ⟨distinct,
      (refinesSessions_iff roundTrips_prettyTalkJson distinct "alpha").mpr
        undisturbed_separateCalls⟩

/-- A prompt under a name that has the file of another session. -/
def strayCalls : List TalkCall :=
  [.prompt "t0" "p1" "a b" "for a b only"]

/-- The session `a_b` recorded nothing and reads the prompt of the session `a b`. -/
theorem session_reads_another :
    (promptIds strayCalls).Nodup ∧
      history "a_b" strayCalls = [] ∧
      (TalkLog.recorded prettyTalkJson strayCalls).read prettyTalkJson "a_b" =
        [⟨"p1", "a b", "for a b only", "t0", []⟩] ∧
      ¬RefinesSessions prettyTalkJson strayCalls "a_b" := by
  have distinct : (promptIds strayCalls).Nodup := by decide
  have nothing : history "a_b" strayCalls = [] := by decide
  have reads :
      (TalkLog.recorded prettyTalkJson strayCalls).read prettyTalkJson "a_b" =
        [⟨"p1", "a b", "for a b only", "t0", []⟩] := by
    rw [TalkLog.read_recorded roundTrips_prettyTalkJson distinct]
    decide
  refine ⟨distinct, nothing, reads, ?_⟩
  intro refines
  rw [refines.1, nothing] at reads
  cases reads

end Sessions

end HollerServer.Wire
