import HollerServer.Wire.RosterRuns

/-!
# What pruning shows

`prune` is meant to free memory only.  Two runs are compared, one of them with
prunes put in anywhere: wherever they differ, the roster without the prunes has
a row that is gone and that nothing brings back.  A row that is gone by age alone
is brought back by a heartbeat of its client, and with a `gone_after` above the
`prune_after` a row may be dropped while it is live.  So the comparison holds for the
runs in which no heartbeat comes for a row that a prune may have dropped and no call
looks at such a row while it is live.
-/

namespace HollerServer.Wire

/-- The result of the call depends on whether the row is live. -/
def RosterOp.LooksAt (op : RosterOp) (name : String) (entry : RosterEntry) :
    Prop :=
  match op with
  | .advertiseWithMode session tokenId _ =>
      name = session.name ∧ entry.tokenId ≠ tokenId
  | .resolveSession session => name = session
  | .liveCount | .snapshot => True
  | .touchClient _ | .setBlocked _ _ | .markGone _ | .prune => False

namespace Roster

/-- What a reply shows of the live sessions. -/
def shows : RosterReply → Option RosterReply
  | .done => none
  | .rows rows => some (.rows (rows.filter fun line => line.state ≠ .gone))
  | reply => some reply

/-- A call has nothing to do with a row that has gone unrefreshed for `prune_after`. -/
structure Sheltered (state : Clocked.State Roster) (call : RosterCall) : Prop where
  /-- The client is heard from only while none of its rows is that old, rows marked
  gone apart.  Without a `gone_after` every row is gone at all times. -/
  heartbeats :
    ∀ name entry, state.object.get? name = some entry →
      entry.goneNow = false →
      0 < state.object.config.goneAfter →
      state.object.config.pruneAfter ≤ call.now - entry.lastSeen →
      call.op ≠ .touchClient entry.tokenId
  /-- No live row that the call looks at is that old. -/
  looks :
    ∀ name entry, state.object.get? name = some entry →
      call.op.LooksAt name entry →
      state.object.live call.now entry = true →
      call.now - entry.lastSeen < state.object.config.pruneAfter

/-- The row is gone and may have been dropped by a prune. -/
def Dropped (config : RosterConfig) (now : Nat) (entry : RosterEntry) :
    Prop :=
  entry.goneNow = true ∨ config.goneAfter = 0 ∨
    config.pruneAfter ≤ now - entry.lastSeen

/-- The second roster is the first without some rows that are gone. -/
structure Shadows (config : RosterConfig) (now : Nat)
    (plain pruned : Roster) : Prop where
  plainConfig : plain.config = config
  prunedConfig : pruned.config = config
  rows :
    ∀ name, pruned.get? name = plain.get? name ∨
      pruned.get? name = none ∧
        ∃ entry, plain.get? name = some entry ∧ Dropped config now entry

variable {config : RosterConfig} {now : Nat} {plain pruned : Roster}

/-- A dropped row is not live where live rows are young. -/
theorem Dropped.not_live
    (sameConfig : plain.config = config) {entry : RosterEntry}
    (young :
      plain.live now entry = true →
        now - entry.lastSeen < config.pruneAfter)
    (dropped : Dropped config now entry) :
    plain.live now entry = false := by
  refine Bool.eq_false_iff.mpr ?_
  intro live
  have notOld := young live
  obtain ⟨notGone, notAged⟩ := live_iff.mp live
  rw [sameConfig] at notAged
  rcases dropped with gone | never | aged
  · rw [notGone] at gone
    cases gone
  · omega
  · omega

theorem Shadows.later
    {now' : Nat} (forward : now ≤ now')
    (shadows : Shadows config now plain pruned) :
    Shadows config now' plain pruned where
  plainConfig := shadows.plainConfig
  prunedConfig := shadows.prunedConfig
  rows := by
    intro name
    rcases shadows.rows name with same | ⟨absent, entry, found, dropped⟩
    · exact Or.inl same
    · refine Or.inr ⟨absent, entry, found, ?_⟩
      rcases dropped with gone | never | aged
      · exact Or.inl gone
      · exact Or.inr (Or.inl never)
      · exact Or.inr (Or.inr (by omega))

/-- A live row is in both rosters or in neither, if it is young. -/
theorem Shadows.live_rows
    (shadows : Shadows config now plain pruned)
    {name : String} {entry : RosterEntry}
    (young :
      plain.get? name = some entry → plain.live now entry = true →
        now - entry.lastSeen < config.pruneAfter)
    (live : plain.live now entry = true) :
    pruned.get? name = some entry ↔ plain.get? name = some entry := by
  rcases shadows.rows name with same | ⟨absent, other, found, dropped⟩
  · rw [same]
  · rw [absent, found]
    refine ⟨nofun, ?_⟩
    intro isEntry
    cases isEntry
    rw [dropped.not_live shadows.plainConfig (young found)] at live
    cases live

theorem Shadows.live_eq
    (shadows : Shadows config now plain pruned) (entry : RosterEntry) :
    pruned.live now entry = plain.live now entry := by
  unfold live
  rw [shadows.plainConfig, shadows.prunedConfig]

/-- A name is free for a client in both rosters or in neither. -/
theorem Shadows.free_iff
    (shadows : Shadows config now plain pruned)
    {name tokenId : String}
    (young :
      ∀ entry, plain.get? name = some entry → entry.tokenId ≠ tokenId →
        plain.live now entry = true →
        now - entry.lastSeen < config.pruneAfter) :
    pruned.Free now name tokenId ↔ plain.Free now name tokenId := by
  unfold Free
  simp only [shadows.live_eq]
  rcases shadows.rows name with same | ⟨absent, other, found, dropped⟩
  · rw [same]
  · rw [absent, found]
    refine ⟨?_, fun _ => nofun⟩
    intro _ existing isOther
    cases isOther
    by_cases owner : other.tokenId = tokenId
    · exact Or.inl owner
    · exact
        Or.inr (dropped.not_live shadows.plainConfig (young other found owner))

theorem Shadows.resolveSession
    (shadows : Shadows config now plain pruned) (name : String)
    (young :
      ∀ entry, plain.get? name = some entry → plain.live now entry = true →
        now - entry.lastSeen < config.pruneAfter) :
    pruned.resolveSession now name = plain.resolveSession now name := by
  ext tokenId
  rw [resolveSession_eq_some, resolveSession_eq_some]
  constructor
  · rintro ⟨entry, found, live, owner⟩
    rw [shadows.live_eq] at live
    have sameRow := shadows.live_rows (young entry) live
    exact ⟨entry, sameRow.mp found, live, owner⟩
  · rintro ⟨entry, found, live, owner⟩
    have sameRow := shadows.live_rows (young entry) live
    refine ⟨entry, sameRow.mpr found, ?_, owner⟩
    rw [shadows.live_eq]
    exact live

/-- Both snapshots list the same live rows. -/
theorem Shadows.snapshot
    (shadows : Shadows config now plain pruned)
    (young :
      ∀ name entry, plain.get? name = some entry →
        plain.live now entry = true →
        now - entry.lastSeen < config.pruneAfter) :
    ((pruned.snapshot now).filter fun line => line.state ≠ .gone) =
      (plain.snapshot now).filter fun line => line.state ≠ .gone := by
  have sorted :
      ∀ roster : Roster,
        ((roster.snapshot now).filter fun line =>
          line.state ≠ .gone).Pairwise
          fun first second => first.name < second.name := by
    intro roster
    refine List.Pairwise.filter _ ?_
    exact List.pairwise_map.mp (roster.sorted_snapshot now)
  have distinct :
      ∀ roster : Roster,
        ((roster.snapshot now).filter fun line =>
          line.state ≠ .gone).Nodup := by
    intro roster
    refine (sorted roster).imp ?_
    intro first second below same
    rw [same] at below
    exact lt_irrefl _ below
  have sameRow :
      ∀ name entry, pruned.row now name entry =
        plain.row now name entry := by
    intro name entry
    unfold row
    rw [shadows.plainConfig, shadows.prunedConfig]
  refine
    List.Perm.eq_of_pairwise ?_ (sorted pruned) (sorted plain)
      ((List.perm_ext_iff_of_nodup (distinct pruned)
        (distinct plain)).mpr ?_)
  · intro first second _ _ below above
    exact absurd (lt_trans below above) (lt_irrefl _)
  · intro line
    simp only [List.mem_filter, mem_snapshot]
    constructor
    · rintro ⟨⟨name, entry, found, rfl⟩, notGone⟩
      rw [sameRow] at notGone ⊢
      have live : plain.live now entry = true := notGone
      have inBoth := shadows.live_rows (young name entry) live
      exact ⟨⟨name, entry, inBoth.mp found, rfl⟩, notGone⟩
    · rintro ⟨⟨name, entry, found, rfl⟩, notGone⟩
      have live : plain.live now entry = true := notGone
      have inBoth := shadows.live_rows (young name entry) live
      exact
        ⟨⟨name, entry, inBoth.mpr found, sameRow name entry⟩, notGone⟩

/-! ## One call on both rosters -/

theorem Shadows.advertise
    (shadows : Shadows config now plain pruned)
    (session : PresenceSession) (tokenId clientId : String)
    (young :
      ∀ entry, plain.get? session.name = some entry →
        entry.tokenId ≠ tokenId → plain.live now entry = true →
        now - entry.lastSeen < config.pruneAfter) :
    Shadows config now
        (plain.advertiseWithMode now session tokenId clientId).1
        (pruned.advertiseWithMode now session tokenId clientId).1 ∧
      (plain.advertiseWithMode now session tokenId clientId).2 =
        (pruned.advertiseWithMode now session tokenId clientId).2 := by
  have onPlain :=
    plain.advertises_advertiseWithMode now session tokenId clientId
  have onPruned :=
    pruned.advertises_advertiseWithMode now session tokenId clientId
  generalize plain.advertiseWithMode now session tokenId clientId =
    plainResult at onPlain ⊢
  generalize pruned.advertiseWithMode now session tokenId clientId =
    prunedResult at onPruned ⊢
  cases onPlain with
  | inserted free =>
      cases onPruned with
      | inserted _ =>
          refine ⟨{ shadows with rows := ?_ }, rfl⟩
          intro name
          have inPlain :=
            plain.entries.get?_put session.name name
              (advertisedEntry now session tokenId clientId)
          have inPruned :=
            pruned.entries.get?_put session.name name
              (advertisedEntry now session tokenId clientId)
          by_cases named : name = session.name
          · rw [if_pos named] at inPlain inPruned
            exact Or.inl (inPruned.trans inPlain.symm)
          · rw [if_neg named] at inPlain inPruned
            rcases shadows.rows name with
              same | ⟨absent, entry, found, dropped⟩
            · exact Or.inl (inPruned.trans (same.trans inPlain.symm))
            · exact
                Or.inr
                  ⟨inPruned.trans absent, entry, inPlain.trans found,
                    dropped⟩
      | refused held other live =>
          rcases (shadows.free_iff young).mpr free _ held with
            same | gone
          · exact absurd same other
          · rw [live] at gone
            cases gone
  | @refused existing held other live =>
      have heldToo : pruned.get? session.name = some existing :=
        (shadows.live_rows (fun held => young existing held other)
          live).mpr held
      cases onPruned with
      | inserted free =>
          rcases (shadows.free_iff young).mp free _ held with
            same | gone
          · exact absurd same other
          · rw [live] at gone
            cases gone
      | refused held' _ _ =>
          cases heldToo.symm.trans held'
          exact ⟨shadows, rfl⟩

/-- An update of the rows of a client that keeps the dropped rows gone. -/
theorem Shadows.updateOwned
    (shadows : Shadows config now plain pruned) {tokenId : String}
    {update : RosterEntry → RosterEntry}
    (kept :
      ∀ name entry, plain.get? name = some entry →
        entry.tokenId = tokenId → Dropped config now entry →
        Dropped config now (update entry)) :
    Shadows config now (plain.updateOwned tokenId update)
      (pruned.updateOwned tokenId update) where
  plainConfig := shadows.plainConfig
  prunedConfig := shadows.prunedConfig
  rows := by
    intro name
    rw [get?_updateOwned, get?_updateOwned]
    rcases shadows.rows name with same | ⟨absent, entry, found, dropped⟩
    · exact Or.inl (by rw [same])
    · refine Or.inr ?_
      rw [absent, found, Option.map_none, Option.map_some]
      refine ⟨rfl, _, rfl, ?_⟩
      by_cases owner : entry.tokenId = tokenId
      · rw [if_pos owner]
        exact kept name entry found owner dropped
      · rw [if_neg owner]
        exact dropped

theorem Shadows.setBlocked
    (shadows : Shadows config now plain pruned)
    (session : String) (blocked : Bool) :
    Shadows config now (plain.setBlocked session blocked)
      (pruned.setBlocked session blocked) where
  plainConfig := shadows.plainConfig
  prunedConfig := shadows.prunedConfig
  rows := by
    intro name
    rw [get?_setBlocked, get?_setBlocked]
    by_cases named : name = session
    · subst named
      rw [if_pos rfl, if_pos rfl]
      rcases shadows.rows name with same | ⟨absent, entry, found, dropped⟩
      · exact Or.inl (by rw [same])
      · rw [absent, found]
        exact Or.inr ⟨rfl, _, rfl, dropped⟩
    · rw [if_neg named, if_neg named]
      exact shadows.rows name

/-- A prune of the second roster alone. -/
theorem Shadows.pruneAgain
    (shadows : Shadows config now plain pruned) :
    Shadows config now plain (pruned.prune now) where
  plainConfig := shadows.plainConfig
  prunedConfig := shadows.prunedConfig
  rows := by
    intro name
    rw [get?_prune]
    rcases shadows.rows name with same | ⟨absent, rest⟩
    · rw [same]
      cases found : plain.get? name with
      | none => exact Or.inl rfl
      | some entry =>
          rw [Option.filter_some]
          split
          next => exact Or.inl rfl
          next old =>
            refine Or.inr ⟨rfl, entry, rfl, Or.inr (Or.inr ?_)⟩
            rw [shadows.prunedConfig] at old
            simpa using old
    · rw [absent]
      exact Or.inr ⟨rfl, rest⟩

theorem Shadows.prune
    (shadows : Shadows config now plain pruned) :
    Shadows config now (plain.prune now) (pruned.prune now) where
  plainConfig := shadows.plainConfig
  prunedConfig := shadows.prunedConfig
  rows := by
    intro name
    rw [get?_prune, get?_prune, shadows.plainConfig,
      shadows.prunedConfig]
    rcases shadows.rows name with same | ⟨absent, entry, found, dropped⟩
    · exact Or.inl (by rw [same])
    · rw [absent, found, Option.filter_some]
      split
      next => exact Or.inr ⟨rfl, entry, rfl, dropped⟩
      next => exact Or.inl rfl

/-- A call keeps the comparison and shows the same on both rosters. -/
theorem Shadows.exec
    (shadows : Shadows config now plain pruned) {before : Nat}
    {op : RosterOp}
    (sheltered :
      Sheltered { now := before, object := plain } { now := now, op := op }) :
    Shadows config now (plain.exec now op).1 (pruned.exec now op).1 ∧
      shows (plain.exec now op).2 = shows (pruned.exec now op).2 := by
  have young (name : String) (entry : RosterEntry)
      (found : plain.get? name = some entry)
      (isLooked : op.LooksAt name entry)
      (live : plain.live now entry = true) :
      now - entry.lastSeen < config.pruneAfter := by
    rw [← shadows.plainConfig]
    exact sheltered.looks name entry found isLooked live
  cases op with
  | advertiseWithMode session tokenId clientId =>
      obtain ⟨next, same⟩ :=
        shadows.advertise session tokenId clientId
          fun entry found other => young _ entry found ⟨rfl, other⟩
      refine ⟨next, ?_⟩
      simp only [Roster.exec, same]
  | touchClient tokenId =>
      refine ⟨shadows.updateOwned ?_, rfl⟩
      rintro name entry found rfl (gone | never | aged)
      · exact Or.inl gone
      · exact Or.inr (Or.inl never)
      · by_cases marked : entry.goneNow = true
        · exact Or.inl marked
        · -- A heartbeat would bring this row back.
          refine Or.inr (Or.inl ?_)
          by_contra positive
          refine
            sheltered.heartbeats name entry found (Bool.eq_false_iff.mpr marked) ?_ ?_
              rfl
          · simp only [shadows.plainConfig]
            exact Nat.pos_of_ne_zero positive
          · simp only [shadows.plainConfig]
            exact aged
  | setBlocked session blocked =>
      exact ⟨shadows.setBlocked session blocked, rfl⟩
  | markGone tokenId =>
      exact
        ⟨shadows.updateOwned fun _ _ _ _ _ => Or.inl rfl, rfl⟩
  | prune => exact ⟨shadows.prune, rfl⟩
  | resolveSession name =>
      refine ⟨shadows, ?_⟩
      simp only [Roster.exec, shadows.resolveSession name fun entry found =>
        young name entry found rfl]
  | liveCount =>
      refine ⟨shadows, ?_⟩
      simp only [Roster.exec, liveCount_eq_length,
        shadows.snapshot fun name entry found => young name entry found trivial]
  | snapshot =>
      refine ⟨shadows, ?_⟩
      simp only [Roster.exec, shows,
        shadows.snapshot fun name entry found => young name entry found trivial]

/-- With a `gone_after` up to the `prune_after` no live row is old enough to be
dropped. -/
theorem young_of_live
    (goneFirst : config.goneAfter ≤ config.pruneAfter)
    (sameConfig : plain.config = config) {entry : RosterEntry}
    (live : plain.live now entry = true) :
    now - entry.lastSeen < config.pruneAfter := by
  obtain ⟨_, notAged⟩ := live_iff.mp live
  rw [sameConfig] at notAged
  exact Nat.lt_of_lt_of_le notAged goneFirst

/-- Pruning is unobservable if no client is heard from that owns a row which a prune
may have dropped, and no call looks at such a row while it is live: prunes put in
anywhere change nothing that is shown of live sessions.  With a `gone_after` up to the
`prune_after` they drop only rows that are gone. -/
theorem prune_unobservable
    {calls woven : List RosterCall}
    (isWoven : Clocked.Woven (fun op => op = .prune) calls woven)
    (forward :
      ((machine config).run (machine config).init woven).isSome = true)
    (sheltered :
      (machine config).Along Sheltered (machine config).init calls) :
    Clocked.shown exec shows (new config) woven =
        Clocked.shown exec shows (new config) calls ∧
      (config.goneAfter ≤ config.pruneAfter →
        ∀ done time rest state,
          woven = done ++ { now := time, op := .prune } :: rest →
          (machine config).run (machine config).init done = some state →
          ∀ name entry, state.object.get? name = some entry →
            (state.object.prune time).get? name = none →
            entry.stateAt time config = .gone) := by
  constructor
  · have start : Shadows config 0 (new config) (new config) :=
      { plainConfig := rfl, prunedConfig := rfl, rows := fun _ => Or.inl rfl }
    refine
      @Clocked.shown_woven _ _ _ _ exec _ shows (new config)
        (Shadows config) Sheltered Shadows.later ?_ ?_ ?_
        (machine config).init (machine config).init calls woven isWoven
        start (Nat.le_refl 0) forward sheltered
    · rintro now roster op rfl
      rfl
    · rintro now plain full op rfl shadows
      exact shadows.pruneAgain
    · intro before now plain full op meets shadows
      exact shadows.exec meets
  · rintro goneFirst done time rest state rfl reached name entry found dropped
    have sameConfig : state.object.config = config :=
      config_of_run reached
    rw [get?_prune, found, Option.filter_some, sameConfig] at dropped
    have aged : config.goneAfter ≤ time - entry.lastSeen := by
      split at dropped
      next => cases dropped
      next old =>
        have older := Nat.not_lt.mp (by simpa using old)
        exact Nat.le_trans goneFirst older
    simp [RosterEntry.stateAt, aged]

/-- An advertisement and a look at its route much later. -/
def forgottenCalls : List RosterCall :=
  [{ now := 0
     op := .advertiseWithMode ⟨"alpha", "opencode", none, none⟩ "t" "c" },
    { now := 400000000000, op := .resolveSession "alpha" }]

theorem prune_unobservable_forgottenCalls :
    Clocked.shown exec shows (new .default)
        [{ now := 0
           op := .advertiseWithMode ⟨"alpha", "opencode", none, none⟩
             "t" "c" },
          { now := 360000000000, op := .prune },
          { now := 400000000000, op := .resolveSession "alpha" }] =
      [.advertised (.ok ()), .resolved none] := by
  have isWoven :
      Clocked.Woven (fun op => op = .prune) forgottenCalls
        [{ now := 0
           op := .advertiseWithMode ⟨"alpha", "opencode", none, none⟩
             "t" "c" },
          { now := 360000000000, op := .prune },
          { now := 400000000000, op := .resolveSession "alpha" }] :=
    .keep _ (.insert rfl (.keep _ .nil))
  have sheltered :
      (machine .default).Along Sheltered (machine .default).init
        forgottenCalls := by
    have noHeartbeat :
        ∀ (state : Clocked.State Roster) (call : RosterCall),
          state.object.config = .default →
          (∀ tokenId, call.op ≠ .touchClient tokenId) →
          Sheltered state call := by
      intro state call isDefault other
      refine ⟨fun _ entry _ _ _ _ => other entry.tokenId, ?_⟩
      intro name entry _ _ live
      rw [isDefault]
      exact young_of_live (by decide) isDefault live
    refine ⟨noHeartbeat _ _ rfl nofun, ?_⟩
    intro state stepped
    refine ⟨noHeartbeat _ _ ?_ nofun, fun _ _ => trivial⟩
    cases stepped
    rfl
  exact (prune_unobservable isWoven rfl sheltered).1.trans rfl

/-- A heartbeat of a client whose session is gone by age. -/
def revivedCalls : List RosterCall :=
  [{ now := 0
     op := .advertiseWithMode ⟨"alpha", "opencode", none, none⟩ "t" "c" },
    { now := 360000000000, op := .touchClient "t" },
    { now := 360000000000, op := .resolveSession "alpha" }]

/-- The same calls with a prune before the heartbeat. -/
def revivedCallsPruned : List RosterCall :=
  [{ now := 0
     op := .advertiseWithMode ⟨"alpha", "opencode", none, none⟩ "t" "c" },
    { now := 360000000000, op := .prune },
    { now := 360000000000, op := .touchClient "t" },
    { now := 360000000000, op := .resolveSession "alpha" }]

/-- With the default configuration a prune decides whether a heartbeat brings a
session back. -/
theorem revivedCalls_shows_prune :
    Clocked.Woven (fun op => op = .prune) revivedCalls
      revivedCallsPruned ∧
    ((machine (.fromEnv fun _ => none)).run
      (machine (.fromEnv fun _ => none)).init
      revivedCallsPruned).isSome = true ∧
    Clocked.shown exec shows (new (.fromEnv fun _ => none)) revivedCalls =
      [.advertised (.ok ()), .resolved (some "t")] ∧
    Clocked.shown exec shows (new (.fromEnv fun _ => none))
        revivedCallsPruned =
      [.advertised (.ok ()), .resolved none] :=
  ⟨.keep _ (.insert rfl (.keep _ (.keep _ .nil))), rfl, rfl, rfl⟩

end Roster

end HollerServer.Wire
