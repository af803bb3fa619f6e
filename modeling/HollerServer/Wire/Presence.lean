import HollerServer.Proto.Decode
import HollerServer.Wire.Roster

/-!
# What a frame does to the roster

`handle_frame` calls the roster for three kinds of frames: a `presence` frame
advertises its rows, a `ping` refreshes the rows of the client, a
`session_blocked` frame sets the flag of the row it names.  Every call but the
last is made for the token of the connection; rows that another client holds and
that are not gone are out of its reach.
-/

namespace HollerServer.Wire

open HollerServer.Proto

/-- One row of a `presence` frame; a row that does not fit is skipped. -/
def readPresenceSession : Value → Option PresenceSession :=
  readStruct 4 fun fields => do
    some
      { name := ← fields.required 0 "name" readString
        harness := ← fields.required 1 "harness" readString
        mode := ← fields.optional 2 "mode" readString
        harnessSessionId :=
          ← fields.optional 3 "harness_session_id" readString }

/-- One call `handle_frame` makes on the roster. -/
inductive RosterChore where
  | advertise (session : PresenceSession)
  | touchClient
  | setBlocked (session : String) (blocked : Bool)
  deriving DecidableEq, Repr

/-- The call names the token it is made for. -/
def RosterChore.keyed : RosterChore → Bool
  | .advertise _ | .touchClient => true
  | .setBlocked _ _ => false

/-- The roster calls `handle_frame` makes for a decoded frame, in order. -/
def rosterChores (envelope : Envelope) : List RosterChore :=
  match envelope.body with
  | .presence body =>
      (body.sessions.filterMap readPresenceSession).map .advertise
  | .ping _ => [.touchClient]
  | .sessionBlocked body => [.setBlocked body.session body.blocked]
  | .hello _ | .query _ | .queryOk _ | .pong _ | .error _ | .auth _
  | .join _ | .joinOk _ | .reply _ | .ack _ | .prompt _ | .interrupt _
  | .answer _ => []

namespace Roster

/-- Carry out one roster call on behalf of a client.  A refused advertisement is
only logged. -/
def perform
    (roster : Roster) (tokenId clientId : String) (now : Nat) :
    RosterChore → Roster
  | .advertise session =>
      (roster.advertiseWithMode now session tokenId clientId).1
  | .touchClient => roster.touchClient now tokenId
  | .setBlocked session blocked => roster.setBlocked session blocked

/-- Carry out the roster calls of a frame.  Each call that reads the clock reads
it anew; `clock index` is the reading of call number `index`. -/
def performAll
    (tokenId clientId : String) (clock : Nat → Nat) :
    Nat → List RosterChore → Roster → Roster
  | _, [], roster => roster
  | index, chore :: rest, roster =>
      performAll tokenId clientId clock (index + 1) rest
        (roster.perform tokenId clientId (clock index) chore)

variable {roster : Roster} {tokenId clientId : String} {now : Nat}

@[simp]
theorem config_perform (chore : RosterChore) :
    (roster.perform tokenId clientId now chore).config = roster.config := by
  cases chore with
  | advertise session =>
      have advertises :=
        roster.advertises_advertiseWithMode now session tokenId clientId
      simp only [perform]
      generalize roster.advertiseWithMode now session tokenId clientId =
        result at advertises ⊢
      cases advertises <;> rfl
  | touchClient => rfl
  | setBlocked session blocked => rfl

/-- The row of a name after an advertisement. -/
theorem get?_advertise (session : PresenceSession) (name : String) :
    (roster.perform tokenId clientId now (.advertise session)).get? name =
        roster.get? name ∨
      name = session.name ∧ roster.Free now name tokenId ∧
        (roster.perform tokenId clientId now (.advertise session)).get?
            name =
          some (advertisedEntry now session tokenId clientId) := by
  have advertises :=
    roster.advertises_advertiseWithMode now session tokenId clientId
  simp only [perform]
  generalize roster.advertiseWithMode now session tokenId clientId =
    result at advertises ⊢
  cases advertises with
  | refused held other live => exact Or.inl rfl
  | inserted free =>
      by_cases same : name = session.name
      · subst same
        exact Or.inr ⟨rfl, free, FiniteMap.get?_put_self _ _ _⟩
      · exact Or.inl (FiniteMap.get?_put_of_ne _ _ same)

/-- A call made for a client leaves the rows that another client holds and that
are not gone as they are. -/
theorem get?_perform_other
    {name : String} {entry : RosterEntry} {chore : RosterChore}
    (keyed : chore.keyed = true)
    (found : roster.get? name = some entry)
    (other : entry.tokenId ≠ tokenId)
    (live : roster.live now entry = true) :
    (roster.perform tokenId clientId now chore).get? name =
      some entry := by
  cases chore with
  | advertise session =>
      rcases @get?_advertise roster tokenId clientId now session name with
        same | ⟨_, free, _⟩
      · exact same.trans found
      · rcases free entry found with own | gone
        · exact absurd own other
        · rw [live] at gone
          cases gone
  | touchClient =>
      have touched :=
        roster.get?_updateOwned tokenId
          (fun entry => { entry with lastSeen := now }) name
      rw [found, Option.map_some, if_neg other] at touched
      exact touched
  | setBlocked session blocked => cases keyed

/-- A row that is live later was live before, if its last refresh did not
change. -/
theorem live_of_le
    {entry : RosterEntry} {earlier later : Nat}
    (forward : earlier ≤ later)
    (live : roster.live later entry = true) :
    roster.live earlier entry = true := by
  obtain ⟨notGone, young⟩ := live_iff.mp live
  exact live_iff.mpr ⟨notGone, by omega⟩

/-- The calls of a frame, if they are all made for the client, leave the rows that
another client holds and that are not gone when they are over as they are. -/
theorem get?_performAll_other
    {clock : Nat → Nat} (monotone : Monotone clock)
    {name : String} {entry : RosterEntry} {chores : List RosterChore}
    {index : Nat}
    (keyed : ∀ chore ∈ chores, chore.keyed = true)
    (found : roster.get? name = some entry)
    (other : entry.tokenId ≠ tokenId)
    (live : roster.live (clock (index + chores.length)) entry = true) :
    (performAll tokenId clientId clock index chores roster).get? name =
      some entry := by
  induction chores generalizing roster index with
  | nil => exact found
  | cons chore rest inductionHypothesis =>
      have keyedChore := keyed chore List.mem_cons_self
      have liveNow : roster.live (clock index) entry = true :=
        live_of_le (monotone (by omega)) live
      have kept :=
        @get?_perform_other roster tokenId clientId (clock index) name
          entry chore keyedChore found other liveNow
      refine inductionHypothesis ?_ kept ?_
      · intro later member
        exact keyed later (List.mem_cons_of_mem _ member)
      · rw [List.length_cons, ← Nat.add_assoc, Nat.add_right_comm] at live
        unfold Roster.live at live ⊢
        rw [config_perform]
        exact live

end Roster

end HollerServer.Wire
