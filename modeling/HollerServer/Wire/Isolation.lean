import HollerServer.Lib.Transition
import HollerServer.Wire.Gate

/-!
# What a frame does to the other clients

The calls of `handle_frame` on the registry are made for the token of the
connection, and so are its calls on the roster but one: `set_blocked` takes the
name from the frame.  A frame leaves the live rows and the registry entries of
all other tokens alone exactly if it does not turn the flag of such a row.
-/

namespace HollerServer.Wire

open HollerServer.Proto
open Transition

namespace Registry

variable {registry : Registry} {tokenId other : String} {now : Nat}

theorem get?_resolveOnce_other
    (different : other ≠ tokenId) (kind : Kind) (id : String)
    (event : Event) :
    (registry.resolveOnce kind tokenId id event).1.get? other =
      registry.get? other := by
  unfold resolveOnce
  split
  next => rfl
  next entry present =>
    split
    next => rfl
    next => rw [get?_setEntry, if_neg different]

/-- A registry call of a frame leaves the entries of the other tokens. -/
theorem get?_perform_other
    (different : other ≠ tokenId) (resolution : Resolution) :
    (registry.perform tokenId now resolution).1.get? other =
      registry.get? other := by
  have resolved :=
    @get?_resolveOnce_other registry tokenId other different
  cases resolution with
  | setHostname hostname =>
      simp only [perform]
      rw [get?_setHostname, if_neg different]
  | pong replyTo =>
      simp only [perform, resolvePong]
      split
      next => rfl
      next => exact resolved _ _ _
  | reply replyTo body => rfl
  | promptErr replyTo body => rfl
  | queryOk replyTo body => exact resolved _ _ _
  | queryErr replyTo body => exact resolved _ _ _
  | answerErr replyTo body => exact resolved _ _ _
  | interruptAck ofId => exact resolved _ _ _
  | answerAck ofId => exact resolved _ _ _

theorem get?_performAll_other
    (different : other ≠ tokenId) (clock : Nat → Nat) (index : Nat)
    (resolutions : List Resolution) :
    (performAll tokenId clock index resolutions registry).1.get? other =
      registry.get? other := by
  induction resolutions generalizing registry index with
  | nil => rfl
  | cons resolution rest inductionHypothesis =>
      rw [performAll]
      exact
        (inductionHypothesis (index + 1)).trans
          (get?_perform_other different resolution)

end Registry

/-- The roster calls a text frame leads to. -/
def choresOf (settings : Settings) (raw : String) : List RosterChore :=
  match decode settings.serde raw with
  | .ok envelope => rosterChores envelope
  | .error _ => []

/-- The clock when a text frame has been handled. -/
def handledAt
    (settings : Settings) (raw : String) (clock : Nat → Nat) : Nat :=
  clock (choresOf settings raw).length

/-- The frame is a `session_blocked` that turns the flag of the row of that
name. -/
def Flags
    (settings : Settings) (raw name : String) (entry : RosterEntry) :
    Prop :=
  ∃ envelope blocked,
    decode settings.serde raw = .ok envelope ∧
    envelope.body = .sessionBlocked { session := name, blocked } ∧
    entry.blocked ≠ blocked

namespace Context

variable {settings : Settings} {context : Context}
  {tokenId clientId raw ts : String} {clock : Nat → Nat}

/-- Handling the frame leaves the rows of other tokens that are not gone when it
is over, and the registry entries of other tokens. -/
structure Isolates
    (settings : Settings) (context : Context)
    (tokenId clientId raw : String) (clock : Nat → Nat) (ts : String) :
    Prop where
  rows :
    ∀ name entry,
      context.roster.get? name = some entry →
      entry.tokenId ≠ tokenId →
      context.roster.live (handledAt settings raw clock) entry = true →
      (context.handleFrame settings tokenId clientId raw clock
        ts).context.roster.get? name = some entry
  entries :
    ∀ other, other ≠ tokenId →
      (context.handleFrame settings tokenId clientId raw clock
        ts).context.registry.get? other =
      context.registry.get? other

theorem roster_handleFrame :
    (context.handleFrame settings tokenId clientId raw clock
        ts).context.roster =
      Roster.performAll tokenId clientId clock 0
        (choresOf settings raw) context.roster := by
  unfold handleFrame choresOf
  cases decode settings.serde raw with
  | error error => rfl
  | ok envelope => rfl

/-- The registry entries of the other tokens are out of reach. -/
theorem get?_handleFrame_other
    {other : String} (different : other ≠ tokenId) :
    (context.handleFrame settings tokenId clientId raw clock
        ts).context.registry.get? other =
      context.registry.get? other := by
  unfold handleFrame
  split
  next => rfl
  next envelope decoded =>
    exact
      Registry.get?_performAll_other different clock 0
        (Wire.handleFrame envelope)

/-- Either all calls of a frame are made for its token, or it is a
`session_blocked`. -/
theorem choresOf_cases (settings : Settings) (raw : String) :
    (∀ chore ∈ choresOf settings raw, chore.keyed = true) ∨
      ∃ envelope body,
        decode settings.serde raw = .ok envelope ∧
        envelope.body = .sessionBlocked body ∧
        choresOf settings raw = [.setBlocked body.session body.blocked] := by
  unfold choresOf
  split
  next envelope decoded =>
    unfold rosterChores
    split
    next body isPresence =>
      refine Or.inl ?_
      intro chore member
      obtain ⟨session, _, rfl⟩ := List.mem_map.mp member
      rfl
    next body isPing =>
      refine Or.inl ?_
      intro chore member
      rw [List.mem_singleton.mp member]
      rfl
    next body isBlocked =>
      exact Or.inr ⟨envelope, body, decoded, isBlocked, rfl⟩
    all_goals exact Or.inl nofun
  next => exact Or.inl nofun

/-- The row of another token stays exactly if the frame does not turn its
flag. -/
theorem get?_handleFrame_iff
    (monotone : Monotone clock) {name : String} {entry : RosterEntry}
    (found : context.roster.get? name = some entry)
    (other : entry.tokenId ≠ tokenId)
    (live :
      context.roster.live (handledAt settings raw clock) entry = true) :
    (context.handleFrame settings tokenId clientId raw clock
        ts).context.roster.get? name = some entry ↔
      ¬Flags settings raw name entry := by
  rw [roster_handleFrame]
  rcases choresOf_cases settings raw with
    keyed | ⟨envelope, ⟨session, blocked⟩, decoded, isBlocked, chores⟩
  · have kept :=
      @Roster.get?_performAll_other context.roster tokenId clientId clock
        monotone name entry (choresOf settings raw) 0 keyed found other
        (by rw [Nat.zero_add]; exact live)
    refine ⟨?_, fun _ => kept⟩
    rintro _ ⟨envelope, blocked, decoded, isBlocked, _⟩
    have unkeyed :
        RosterChore.setBlocked name blocked ∈ choresOf settings raw := by
      unfold choresOf rosterChores
      rw [decoded]
      simp only [isBlocked]
      exact List.mem_singleton_self _
    cases keyed _ unkeyed
  · rw [chores]
    simp only [Roster.performAll, Roster.perform, Roster.get?_setBlocked]
    by_cases same : name = session
    · subst same
      rw [if_pos rfl, found, Option.map_some, Option.some.injEq]
      constructor
      · rintro kept ⟨envelope', blocked', decoded', isBlocked', turned⟩
        cases decoded.symm.trans decoded'
        cases isBlocked.symm.trans isBlocked'
        exact turned (congrArg RosterEntry.blocked kept).symm
      · intro harmless
        have agrees : entry.blocked = blocked := by
          by_contra turned
          exact harmless ⟨envelope, blocked, decoded, isBlocked, turned⟩
        rw [← agrees]
    · rw [if_neg same]
      refine ⟨?_, fun _ => found⟩
      rintro _ ⟨envelope', blocked', decoded', isBlocked', _⟩
      cases decoded.symm.trans decoded'
      cases isBlocked.symm.trans isBlocked'
      exact same rfl

theorem isolates_iff
    (context : Context) (clientId ts : String)
    (monotone : Monotone clock) :
    context.Isolates settings tokenId clientId raw clock ts ↔
      ∀ name entry,
        context.roster.get? name = some entry →
        entry.tokenId ≠ tokenId →
        context.roster.live (handledAt settings raw clock) entry =
          true →
        ¬Flags settings raw name entry := by
  constructor
  · intro isolates name entry found other live
    exact
      (get?_handleFrame_iff monotone found other live).mp
        (isolates.rows name entry found other live)
  · intro harmless
    refine ⟨?_, fun _ different => get?_handleFrame_other different⟩
    intro name entry found other live
    exact
      (get?_handleFrame_iff monotone found other live).mpr
        (harmless name entry found other live)

end Context

/-- What a connection of a client, or a revoke of its token, does to the tables:
it handles a frame, or it ends, for certain or not.  A revoke is a certain
end. -/
inductive Deed where
  | frame (tokenId clientId raw : String) (clock : Nat → Nat) (ts : String)
  | close (tokenId : String) (certainClose : Bool)

namespace Deed

/-- The deed is one of another token, over by the given moment. -/
def Foreign
    (settings : Settings) (owner : String) (moment : Nat) :
    Deed → Prop
  | .frame tokenId _ raw clock _ =>
      tokenId ≠ owner ∧ Monotone clock ∧
        handledAt settings raw clock ≤ moment
  | .close tokenId _ => tokenId ≠ owner

/-- The deed does not turn the flag of the row. -/
def Spares
    (settings : Settings) (name : String) (entry : RosterEntry) :
    Deed → Prop
  | .frame _ _ raw _ _ => ¬Flags settings raw name entry
  | .close _ _ => True

end Deed

namespace Context

/-- The tables after a deed. -/
def commit (settings : Settings) (context : Context) : Deed → Context
  | .frame tokenId clientId raw clock ts =>
      (context.handleFrame settings tokenId clientId raw clock
        ts).context
  | .close tokenId certainClose =>
      { context with
        registry := (context.registry.remove tokenId).1
        roster :=
          if certainClose then context.roster.markGone tokenId
          else context.roster }

/-- Deeds in a row. -/
def deeds (settings : Settings) (context : Context) :
    Machine Context Deed where
  init := context
  step context deed := some (context.commit settings deed)

theorem isSome_run_deeds
    (settings : Settings) (context : Context) (run : List Deed)
    (state : Context) :
    ((deeds settings context).run state run).isSome = true := by
  induction run generalizing state with
  | nil => rfl
  | cons deed rest inductionHypothesis =>
      exact inductionHypothesis (state.commit settings deed)

variable {settings : Settings}

/-- What a client has in the tables: one row that is still live at the given
moment, and its registry entry. -/
structure Holds
    (moment : Nat) (name : String) (entry : RosterEntry)
    (slot : Option Entry) (context : Context) : Prop where
  row : context.roster.get? name = some entry
  slot : context.registry.get? entry.tokenId = slot
  live : context.roster.live moment entry = true

theorem config_performAll
    {roster : Roster} {tokenId clientId : String} {clock : Nat → Nat}
    {index : Nat} (chores : List RosterChore) :
    (Roster.performAll tokenId clientId clock index chores
      roster).config = roster.config := by
  induction chores generalizing roster index with
  | nil => rfl
  | cons chore rest inductionHypothesis =>
      rw [Roster.performAll]
      exact inductionHypothesis.trans (Roster.config_perform chore)

theorem config_commit (context : Context) (deed : Deed) :
    (context.commit settings deed).roster.config =
      context.roster.config := by
  cases deed with
  | frame tokenId clientId raw clock ts =>
      simp only [commit]
      rw [roster_handleFrame, config_performAll]
  | close tokenId certainClose =>
      cases certainClose with
      | false => rfl
      | true => rfl

theorem live_commit
    {context : Context} {moment : Nat} {entry : RosterEntry}
    (deed : Deed) (live : context.roster.live moment entry = true) :
    (context.commit settings deed).roster.live moment entry = true := by
  unfold Roster.live
  rw [config_commit]
  exact live

/-- A deed of another token keeps what a client has exactly if it spares the
row. -/
theorem holds_commit_iff
    {name : String} {entry : RosterEntry} {slot : Option Entry}
    {moment : Nat} {context : Context} {deed : Deed}
    (holds : context.Holds moment name entry slot)
    (foreign : deed.Foreign settings entry.tokenId moment) :
    (context.commit settings deed).Holds moment name entry slot ↔
      deed.Spares settings name entry := by
  cases deed with
  | frame tokenId clientId raw clock ts =>
      obtain ⟨different, monotone, inTime⟩ := foreign
      have row :=
        @get?_handleFrame_iff settings context tokenId clientId raw ts
          clock monotone name entry holds.row different.symm
          (Roster.live_of_le inTime holds.live)
      constructor
      · intro kept
        exact row.mp kept.row
      · intro spares
        exact
          ⟨row.mpr spares,
            (get?_handleFrame_other different.symm).trans holds.slot,
            live_commit _ holds.live⟩
  | close tokenId certainClose =>
      have different : entry.tokenId ≠ tokenId := Ne.symm foreign
      refine
        ⟨fun _ => trivial, fun _ => ⟨?_, ?_, live_commit _ holds.live⟩⟩
      · simp only [commit]
        cases certainClose with
        | false => exact holds.row
        | true =>
            have marked :=
              context.roster.get?_updateOwned tokenId
                (fun entry => { entry with goneNow := true }) name
            rw [holds.row, Option.map_some, if_neg different] at marked
            exact marked
      · simp only [commit]
        rw [Registry.get?_remove, if_neg different]
        exact holds.slot

/-- Clients are isolated from each other up to the flag.  Handling a frame of a
token leaves every live row and every registry entry of the other tokens as they
are exactly if the frame does not turn the flag of such a row.  And along any
sequence of frames, closes and revokes of other tokens, a row that is live when
they are over stays as it is, with the registry entry of its owner, exactly if
none of the frames turns its flag. -/
theorem clients_isolated_iff_no_flag_turned (settings : Settings) :
    (∀ (context : Context) (tokenId clientId raw : String)
        (clock : Nat → Nat) (ts : String),
      Monotone clock →
        (context.Isolates settings tokenId clientId raw clock ts ↔
          ∀ name entry,
            context.roster.get? name = some entry →
            entry.tokenId ≠ tokenId →
            context.roster.live (handledAt settings raw clock) entry =
              true →
            ¬Flags settings raw name entry)) ∧
    ∀ (context : Context) (name : String) (entry : RosterEntry)
        (moment : Nat) (run : List Deed),
      context.roster.get? name = some entry →
      context.roster.live moment entry = true →
      (∀ deed ∈ run, deed.Foreign settings entry.tokenId moment) →
        ((∀ done target,
          done <+: run →
          (deeds settings context).run context done = some target →
            target.roster.get? name = some entry ∧
              target.registry.get? entry.tokenId =
                context.registry.get? entry.tokenId) ↔
          ∀ deed ∈ run, deed.Spares settings name entry) := by
  refine ⟨fun context tokenId clientId raw clock ts monotone =>
    isolates_iff context clientId ts monotone, ?_⟩
  intro context name entry moment run found live foreign
  have enabled := isSome_run_deeds settings context run context
  rw [← (deeds settings context).along_iff_forall enabled]
  rw [← @Machine.prefixes_iff_along _ _ (deeds settings context)
    (fun _ deed => deed.Foreign settings entry.tokenId moment) _
    (Holds moment name entry (context.registry.get? entry.tokenId))
    ?_ ?_ run context ⟨found, rfl, live⟩ enabled
    (((deeds settings context).along_iff_forall enabled).mpr foreign)]
  · constructor
    · intro everywhere done target isPrefix reached
      obtain ⟨row, slot⟩ := everywhere done target isPrefix reached
      refine ⟨row, slot, ?_⟩
      refine
        @Machine.run_preserves _ _ (deeds settings context)
          (fun state => state.roster.live moment entry = true) ?_ done
          context target live reached
      intro state deed next liveState stepped
      cases stepped
      exact live_commit deed liveState
    · intro everywhere done target isPrefix reached
      have kept := everywhere done target isPrefix reached
      exact ⟨kept.row, kept.slot⟩
  · intro state deed next holds foreign spares stepped
    cases stepped
    exact (holds_commit_iff holds foreign).mpr spares
  · intro state deed next holds foreign stepped holdsNext
    cases stepped
    exact (holds_commit_iff holds foreign).mp holdsNext

end Context

namespace Sample

/-- A frame of the sample token that names a session. -/
def blockedText : String :=
  frameText "session_blocked" "b1"
    "\x7b\"session\":\"builder\",\"blocked\":true\x7d"

def blockedBody : SessionBlockedBody :=
  { session := "builder", blocked := true }

noncomputable def blockedSettings : Settings :=
  { settings with
    serde :=
      SerdeJson.ofTable
        [(blockedText,
          frameValue "session_blocked" "b1"
            (.object
              [("blocked", .bool true), ("session", .string "builder")]))] }

theorem decode_blockedText :
    decode blockedSettings.serde blockedText =
      .ok
        { v := 1
          msgType := .sessionBlocked
          id := "b1"
          ts := "2023-11-14T22:13:20Z"
          sender := Token.Sample.tokenId
          body := .sessionBlocked blockedBody } := by
  have parsed :
      blockedSettings.serde.fromStr blockedText =
        .ok
          (frameValue "session_blocked" "b1"
            (.object
              [("blocked", .bool true),
                ("session", .string "builder")])) := by
    simp [blockedSettings, SerdeJson.ofTable]
  unfold decode parseEnvelope
  rw [parsed]
  rfl

/-- The row of a session that another client advertised at time zero. -/
def builder : RosterEntry :=
  Roster.advertisedEntry 0
    { name := "builder"
      harness := "claude"
      mode := none
      harnessSessionId := none }
    "tok_other" "cli_other"

noncomputable def builderContext (blocked : Bool) : Context :=
  { context with
    roster :=
      { entries := FiniteMap.put ∅ "builder" { builder with blocked }
        config := RosterConfig.default } }

theorem get?_builderContext (blocked : Bool) :
    (builderContext blocked).roster.get? "builder" =
      some { builder with blocked } :=
  FiniteMap.get?_put_self _ _ _

theorem live_builder (blocked : Bool) :
    (builderContext blocked).roster.live 1 { builder with blocked } =
      true := by
  cases blocked <;> exact Roster.live_iff.mpr ⟨rfl, by decide⟩

theorem tokenId_builder : builder.tokenId ≠ Token.Sample.tokenId := by
  decide +kernel

theorem flags_blockedText (name : String) (entry : RosterEntry) :
    Flags blockedSettings blockedText name entry ↔
      name = "builder" ∧ entry.blocked = false := by
  unfold Flags
  simp only [decode_blockedText, blockedBody]
  constructor
  · rintro ⟨_, blocked, same, isBlocked, turned⟩
    cases same
    cases isBlocked
    exact ⟨rfl, Bool.eq_false_iff.mpr turned⟩
  · rintro ⟨rfl, notBlocked⟩
    exact ⟨_, true, rfl, rfl, Bool.eq_false_iff.mp notBlocked⟩

/-- A frame of one client turns the flag of a live session of another. -/
theorem blockedText_turns_flag_of_other_client :
    ¬(builderContext false).Isolates blockedSettings
      Token.Sample.tokenId Token.Sample.clientId blockedText
      (fun _ => 1) "2023-11-14T22:14:20Z" := by
  intro isolates
  have kept :=
    isolates.rows "builder" _ (get?_builderContext false)
      tokenId_builder (live_builder false)
  refine
    (Context.get?_handleFrame_iff monotone_const
      (get?_builderContext false) tokenId_builder
      (live_builder false)).mp kept ?_
  exact (flags_blockedText _ _).mpr ⟨rfl, rfl⟩

/-- The same frame, and then the end of its connection, where the flag is set
already. -/
noncomputable def blockedAgain : List Deed :=
  [.frame Token.Sample.tokenId Token.Sample.clientId blockedText
      (fun _ => 1) "2023-11-14T22:14:20Z",
    .close Token.Sample.tokenId true]

theorem clients_isolated_iff_no_flag_turned_blockedAgain :
    (builderContext true).Isolates blockedSettings
        Token.Sample.tokenId Token.Sample.clientId blockedText
        (fun _ => 1) "2023-11-14T22:14:20Z" ∧
      ∀ done target,
        done <+: blockedAgain →
        (Context.deeds blockedSettings (builderContext true)).run
          (builderContext true) done = some target →
        target.roster.get? "builder" =
          some { builder with blocked := true } := by
  obtain ⟨frames, runs⟩ :=
    Context.clients_isolated_iff_no_flag_turned blockedSettings
  constructor
  · refine (frames _ _ _ _ _ _ monotone_const).mpr ?_
    intro name entry found _ _ flags
    obtain ⟨rfl, notBlocked⟩ := (flags_blockedText name entry).mp flags
    rw [get?_builderContext] at found
    cases found
    cases notBlocked
  · have spared :=
      (runs (builderContext true) "builder" _ 1 blockedAgain
        (get?_builderContext true) (live_builder true) ?_).mpr ?_
    · intro done target isPrefix reached
      exact (spared done target isPrefix reached).1
    · simp only [blockedAgain, List.forall_mem_cons,
        List.not_mem_nil, Deed.Foreign]
      exact
        ⟨⟨tokenId_builder.symm, monotone_const, Nat.le_refl 1⟩,
          tokenId_builder.symm, fun _ impossible => impossible.elim⟩
    · simp only [blockedAgain, List.forall_mem_cons,
        List.not_mem_nil, Deed.Spares, flags_blockedText]
      refine ⟨?_, trivial, fun _ impossible => impossible.elim⟩
      rintro ⟨_, notBlocked⟩
      cases notBlocked

end Sample

end HollerServer.Wire
