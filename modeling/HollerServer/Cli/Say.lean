import HollerServer.Wire.ControlChannel
import HollerServer.Wire.Registry

/-!
# The exit status of `say`

What `holler-server say` tells the shell: the reply that the server makes of the
outcome of a prompt (`Request::Say` in `src/wire/control.rs`), the round trip and its
reading (`control::run_say`), and `run_say` and the end of `main` in `src/main.rs`.
Of the value given to `process::exit` the system reports the low eight bits.
-/

namespace HollerServer.Cli

open HollerServer.Proto
open HollerServer.Wire
open HollerServer.Wire.Control (SayReply LineJson)

/-- How a round trip on the control socket goes, up to the call that decides. -/
inductive RoundTrip where
  | noRuntime
  | connectTimedOut
  | connectFailed
  | writeFailed
  | readTimedOut
  | readFailed
  /-- the text `read_line` filled in; it is empty at the end of the stream -/
  | read (response : String)
  deriving DecidableEq, Repr

inductive ClientQueryOutcome where
  | reached (response : String)
  | notReachable
  | timedOut
  deriving DecidableEq, Repr

inductive ControlOutcome (α : Type) where
  | reached (reply : α)
  | notReachable
  | timedOut
  deriving DecidableEq, Repr

/-- `run_client_query_with_timeout`; a request always serializes. -/
def runClientQueryWithTimeout : RoundTrip → ClientQueryOutcome
  | .noRuntime => .notReachable
  | .connectTimedOut => .notReachable
  | .connectFailed => .notReachable
  | .writeFailed => .notReachable
  | .readTimedOut => .timedOut
  | .readFailed => .notReachable
  | .read response =>
      if response.toList = [] then .notReachable
      else if Text.isBlank response then .notReachable
      else .reached response

/-- `control::run_say`. -/
def controlRunSay
    (json : LineJson) (roundTrip : RoundTrip) : ControlOutcome SayReply :=
  match runClientQueryWithTimeout roundTrip with
  | .reached line =>
      match (json.tree line).bind Control.readSayReply with
      | some reply => .reached reply
      | none => .notReachable
  | .notReachable => .notReachable
  | .timedOut => .timedOut

/-- The reply of the server to a `say`, from the outcome of the prompt; there is none
where the roster does not know the session. -/
def sayReply
    (quoted : String → String) (session : String) :
    Option PromptOutcome → SayReply
  | none =>
      .err
        { code := codeUnknownSession
          cmd := none
          message := some ("unknown session: " ++ session) }
  | some (.done text exit) => .ok text exit
  | some (.err body) => .err body
  | some .cancelled => .interrupted
  | some .disconnected =>
      .err
        { code := codeUnknownSession
          cmd := none
          message :=
            some ("session " ++ quoted session ++ "'s connection is gone") }

/-- How a command ends: it returns to `main`, or it calls `process::exit`. -/
inductive Ending where
  | returned (result : Except String Unit)
  | exited (code : Int32)

def clamp (value low high : Int64) : Int64 :=
  if value < low then low else if high < value then high else value

/-- `code.clamp(i32::MIN as i64, i32::MAX as i64) as i32`. -/
def exitCode (code : Int64) : Int32 :=
  (clamp code Int32.minValue.toInt64 Int32.maxValue.toInt64).toInt32

/-- The match of `run_say`, and the lines it prints. -/
def finishSay
    (quoted : String → String) (session : String) :
    ControlOutcome SayReply → List String × Ending
  | .reached (.ok text exit) =>
      ([text],
        match exit with
        | some code =>
            if code ≠ 0 then .exited (exitCode code) else .returned (.ok ())
        | none => .returned (.ok ()))
  | .reached .interrupted =>
      ([],
        .returned (.error "prompt was interrupted before it completed"))
  | .reached (.err error) =>
      ([],
        .returned (.error (error.code ++ ": " ++ error.message.getD "")))
  | .timedOut =>
      ([],
        .returned
          (.error
            ("say to " ++ quoted session ++
              " timed out waiting for a reply — the session may still be " ++
              "working; try `holler-server say` again or check " ++
              "`holler-server roster`")))
  | .notReachable =>
      ([],
        .returned
          (.error
            "no live `holler-server serve` process is reachable on this host"))

/-- `run_say`: nothing is asked if the token store does not open. -/
def runSay
    (quoted : String → String) (session : String)
    (opened : Except String Unit) (outcome : ControlOutcome SayReply) :
    List String × Ending :=
  match opened with
  | .error message => ([], .returned (.error message))
  | .ok () => finishSay quoted session outcome

/-- The status that the system reports; `main` exits with 1 on an error. -/
def Ending.status : Ending → Nat
  | .returned (.ok ()) => 0
  | .returned (.error _) => 1
  | .exited code => (code.toInt % 256).toNat

section ExitCode

/-- The value given to `process::exit`. -/
theorem toInt_exitCode (code : Int64) :
    (exitCode code).toInt =
      if code.toInt < -2 ^ 31 then -2 ^ 31
      else if 2 ^ 31 - 1 < code.toInt then 2 ^ 31 - 1
      else code.toInt := by
  have isBelow :
      code < Int32.minValue.toInt64 ↔ code.toInt < -2 ^ 31 :=
    Int64.lt_iff_toInt_lt
  have isAbove :
      Int32.maxValue.toInt64 < code ↔ 2 ^ 31 - 1 < code.toInt :=
    Int64.lt_iff_toInt_lt
  unfold exitCode clamp
  by_cases below : code.toInt < -2 ^ 31
  · rw [if_pos (isBelow.mpr below), if_pos below]
    decide
  · rw [if_neg (mt isBelow.mp below), if_neg below]
    by_cases above : 2 ^ 31 - 1 < code.toInt
    · rw [if_pos (isAbove.mpr above), if_pos above]
      decide
    · rw [if_neg (mt isAbove.mp above), if_neg above,
        Int64.toInt_toInt32]
      refine Int.bmod_eq_of_le ?_ ?_
      · omega
      · omega

/-- A value other than 0 that the shell sees as 0. -/
def LooksZero (code : Int64) : Prop :=
  code.toInt ≠ 0 ∧
    (code.toInt ≤ -2 ^ 31 ∨
      code.toInt ≤ 2 ^ 31 - 1 ∧ code.toInt % 256 = 0)

theorem status_exited (code : Int64) (nonzero : code.toInt ≠ 0) :
    (Ending.exited (exitCode code)).status = 0 ↔ LooksZero code := by
  unfold Ending.status LooksZero
  simp only
  rw [toInt_exitCode]
  split
  next below => omega
  next notBelow =>
    split
    next above => omega
    next notAbove => omega

end ExitCode

section Status

variable (json : LineJson) (quoted : String → String)

/-- The prompt finished as `Done`, with no exit value or 0. -/
def FinishedWell (served : Option PromptOutcome) : Prop :=
  ∃ text exit, served = some (.done text exit) ∧
    ∀ code ∈ exit, code = (0 : Int64)

/-- The final reply that came through says so. -/
def SaysDone (outcome : ControlOutcome SayReply) : Prop :=
  ∃ text exit, outcome = .reached (.ok text exit) ∧
    ∀ code ∈ exit, code = (0 : Int64)

/-- The final reply that came through has an exit value that looks like 0. -/
def HidesFailure (outcome : ControlOutcome SayReply) : Prop :=
  ∃ text code, outcome = .reached (.ok text (some code)) ∧ LooksZero code

/-- The system reports 0 exactly if a prompt was made, and is done with no exit value
or 0. -/
def StatusFaithful
    (session : String) (opened : Except String Unit)
    (outcome : ControlOutcome SayReply) : Prop :=
  (runSay quoted session opened outcome).2.status = 0 ↔
    opened = .ok () ∧ SaysDone outcome

/-- The line of the server's reply comes through. -/
def answered
    (session : String) (served : Option PromptOutcome) : RoundTrip :=
  .read
    ((Control.sayReplyValue (sayReply quoted session served)).compact ++
      "\n")

theorem controlRunSay_answered (readsBack : json.ReadsBack)
    (session : String) (served : Option PromptOutcome) :
    controlRunSay json (answered quoted session served) =
      .reached (sayReply quoted session served) := by
  have sendable :
      Control.Sendable json.limit
        (.say (sayReply quoted session served)) :=
    trivial
  obtain ⟨line, written, _, visible, read⟩ :=
    Control.reply_reads_back readsBack sendable
  cases written
  have notBlank := Text.isBlank_append
    (Control.sayReplyValue (sayReply quoted session served)).compact "\n"
  rw [visible, Bool.false_and] at notBlank
  obtain ⟨value, tree, isReply⟩ := Option.bind_eq_some_iff.mp read
  obtain ⟨reply, readSay, same⟩ := Option.map_eq_some_iff.mp isReply
  cases same
  unfold controlRunSay answered runClientQueryWithTimeout
  simp only [Text.toList_ne_nil notBlank, notBlank, Bool.false_eq_true,
    if_false, tree, Option.bind_some, readSay]

theorem saysDone_sayReply
    (session : String) (served : Option PromptOutcome) :
    SaysDone (.reached (sayReply quoted session served)) ↔
      FinishedWell served := by
  unfold SaysDone FinishedWell
  refine exists_congr fun text => exists_congr fun exit => ?_
  refine and_congr_left fun _ => ?_
  rw [ControlOutcome.reached.injEq]
  cases served with
  | none => simp [sayReply]
  | some outcome => cases outcome <;> simp [sayReply]

theorem saysDone_ok {text : String} {exit : Option Int64} :
    SaysDone (.reached (.ok text exit)) ↔
      ∀ code ∈ exit, code = (0 : Int64) := by
  constructor
  · rintro ⟨_, _, same, zero⟩
    cases same
    exact zero
  · intro zero
    exact ⟨text, exit, rfl, zero⟩

theorem hidesFailure_ok {text : String} {code : Int64} :
    HidesFailure (.reached (.ok text (some code))) ↔ LooksZero code := by
  constructor
  · rintro ⟨_, _, same, looks⟩
    cases same
    exact looks
  · intro looks
    exact ⟨text, code, rfl, looks⟩

theorem not_saysDone {outcome : ControlOutcome SayReply}
    (hides : HidesFailure outcome) : ¬SaysDone outcome := by
  obtain ⟨text, code, rfl, nonzero, _⟩ := hides
  rw [saysDone_ok]
  intro zero
  have same := zero code rfl
  subst same
  exact nonzero rfl

theorem not_done_of_not_ok {outcome : ControlOutcome SayReply}
    (notOk : ∀ text exit, outcome ≠ .reached (.ok text exit)) :
    ¬(SaysDone outcome ∨ HidesFailure outcome) := by
  rintro (⟨text, exit, same, _⟩ | ⟨text, code, same, _⟩)
  · exact notOk text exit same
  · exact notOk text (some code) same

theorem status_error (message : String) :
    ¬(Ending.returned (.error message)).status = 0 := by
  intro impossible
  cases impossible

/-- The shell sees 0 after a prompt that is done and after one whose exit value
looks like 0. -/
theorem status_finishSay
    (session : String) (outcome : ControlOutcome SayReply) :
    (finishSay quoted session outcome).2.status = 0 ↔
      SaysDone outcome ∨ HidesFailure outcome := by
  cases outcome with
  | reached reply =>
      cases reply with
      | ok text exit =>
          rw [saysDone_ok]
          cases exit with
          | none =>
              refine iff_of_true rfl (.inl ?_)
              intro code impossible
              cases impossible
          | some code =>
              rw [hidesFailure_ok]
              simp only [Option.mem_some_iff, forall_eq']
              by_cases zero : code = 0
              · subst zero
                exact iff_of_true rfl (.inl rfl)
              · have nonzero : code.toInt ≠ 0 := by
                  intro same
                  exact zero (Int64.toInt_inj.mp same)
                have ending :
                    (finishSay quoted session
                        (.reached (.ok text (some code)))).2 =
                      .exited (exitCode code) :=
                  if_pos zero
                rw [ending, status_exited code nonzero]
                exact ⟨.inr, fun shown => shown.resolve_left zero⟩
      | interrupted =>
          refine iff_of_false (status_error _) (not_done_of_not_ok ?_)
          intro text exit impossible
          cases impossible
      | err error =>
          refine iff_of_false (status_error _) (not_done_of_not_ok ?_)
          intro text exit impossible
          cases impossible
  | notReachable =>
      refine iff_of_false (status_error _) (not_done_of_not_ok ?_)
      intro text exit impossible
      cases impossible
  | timedOut =>
      refine iff_of_false (status_error _) (not_done_of_not_ok ?_)
      intro text exit impossible
      cases impossible

/-- The reply of the server comes through as it is, and says that the prompt is done
exactly if it finished so; of whatever comes through, the status is faithful unless an
exit value other than 0 looks like 0. -/
theorem statusFaithful_iff (readsBack : json.ReadsBack) :
    (∀ session served,
      controlRunSay json (answered quoted session served) =
          .reached (sayReply quoted session served) ∧
        (SaysDone (.reached (sayReply quoted session served)) ↔
          FinishedWell served)) ∧
      ∀ session opened outcome,
        StatusFaithful quoted session opened outcome ↔
          (opened = .ok () → ¬HidesFailure outcome) := by
  constructor
  · intro session served
    exact
      ⟨controlRunSay_answered json quoted readsBack session served,
        saysDone_sayReply quoted session served⟩
  · intro session opened outcome
    unfold StatusFaithful runSay
    cases opened with
    | error message =>
        refine iff_of_true (iff_of_false (status_error message) ?_) ?_
        · rintro ⟨impossible, _⟩
          cases impossible
        · intro impossible
          cases impossible
    | ok opened =>
        simp only [true_and, true_imp_iff]
        rw [status_finishSay]
        constructor
        · intro faithful hides
          exact not_saysDone hides (faithful.mp (.inr hides))
        · exact or_iff_left

/-- An exit value of 3 is reported. -/
theorem statusFaithful_iff_exit_three :
    StatusFaithful id "s1" (.ok ())
      (.reached (.ok "stopped" (some 3))) := by
  have reported := statusFaithful_iff Control.compactLineJson id
    Control.readsBack_compactLineJson
  refine (reported.2 "s1" (.ok ()) _).mpr ?_
  intro _ hides
  have looksZero := hidesFailure_ok.mp hides
  exact absurd looksZero.2 (by decide)

/-- What comes through when a client ends the prompt with this exit value. -/
def failedWith (code : Int64) : ControlOutcome SayReply :=
  controlRunSay Control.compactLineJson
    (answered id "s1" (some (.done "failed" (some code))))

theorem reported_as_success {code : Int64} (looksZero : LooksZero code) :
    (runSay id "s1" (.ok ()) (failedWith code)).2.status = 0 ∧
      ¬FinishedWell (some (.done "failed" (some code))) ∧
      ¬StatusFaithful id "s1" (.ok ()) (failedWith code) := by
  have reached : failedWith code = .reached (.ok "failed" (some code)) :=
    controlRunSay_answered _ id Control.readsBack_compactLineJson "s1"
      (some (.done "failed" (some code)))
  have hides : HidesFailure (failedWith code) := by
    rw [reached]
    exact hidesFailure_ok.mpr looksZero
  have success : (finishSay id "s1" (failedWith code)).2.status = 0 :=
    (status_finishSay id "s1" _).mpr (.inr hides)
  refine ⟨success, ?_, ?_⟩
  · intro well
    rw [← saysDone_sayReply id "s1"] at well
    rw [reached] at hides
    exact not_saysDone hides well
  · intro faithful
    exact not_saysDone hides (faithful.mp success).2

/-- A client that ends with the exit value 256 or with -2147483649 is reported as a
success. -/
theorem exit_256_is_reported_as_success :
    ((runSay id "s1" (.ok ()) (failedWith 256)).2.status = 0 ∧
        ¬FinishedWell (some (.done "failed" (some 256))) ∧
        ¬StatusFaithful id "s1" (.ok ()) (failedWith 256)) ∧
      (runSay id "s1" (.ok ()) (failedWith (-2147483649))).2.status = 0 ∧
        ¬FinishedWell (some (.done "failed" (some (-2147483649)))) ∧
        ¬StatusFaithful id "s1" (.ok ()) (failedWith (-2147483649)) := by
  constructor
  · exact reported_as_success ⟨by decide, .inr (by decide)⟩
  · exact reported_as_success ⟨by decide, .inl (by decide)⟩

end Status

end HollerServer.Cli
