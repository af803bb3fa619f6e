import HollerServer.Wire.RosterRuns

/-!
# Routes and heartbeats

A route is sound: the client it leads to made the last advertisement of the name
that succeeded, has not been marked gone since, and was heard from within
`gone_after`.  Heartbeats are enough: a client that is heard from more often than
`reconnect_after` keeps the names it advertised, whatever others do.
-/

namespace HollerServer.Wire

namespace Roster

/-- After the calls `before`, this call advertises the name for the token and
succeeds. -/
def Advertised
    (config : RosterConfig) (before : List RosterCall) (call : RosterCall)
    (name tokenId : String) : Prop :=
  ∃ session clientId state,
    session.name = name ∧
    call.op = .advertiseWithMode session tokenId clientId ∧
    (machine config).run (machine config).init before = some state ∧
    (state.object.advertiseWithMode call.now session tokenId clientId).2 =
      .ok ()

/-- Where a row comes from: `call` is the last advertisement of the name that
succeeded. -/
structure Origin
    (config : RosterConfig) (before : List RosterCall) (call : RosterCall)
    (after : List RosterCall) (name : String) (entry : RosterEntry) :
    Prop where
  advertised : Advertised config before call name entry.tokenId
  last :
    ∀ middle other rest tokenId, after = middle ++ other :: rest →
      ¬ Advertised config (before ++ call :: middle) other name tokenId
  unmarked :
    entry.goneNow = false →
      ∀ other ∈ after, other.op ≠ .markGone entry.tokenId
  heard :
    ∃ refresh ∈ call :: after,
      refresh.op.refreshes name entry.tokenId = true ∧
        refresh.now = entry.lastSeen

variable {config : RosterConfig} {calls : List RosterCall}

/-- One more call that does not advertise the name. -/
theorem Origin.extend
    {before : List RosterCall} {call next : RosterCall}
    {after : List RosterCall} {name : String} {entry entry' : RosterEntry}
    (origin : Origin config before call after name entry)
    (other :
      ∀ tokenId,
        ¬ Advertised config (before ++ call :: after) next name tokenId)
    (token : entry'.tokenId = entry.tokenId)
    (unmarked :
      entry'.goneNow = false →
        entry.goneNow = false ∧ next.op ≠ .markGone entry.tokenId)
    (heard :
      entry'.lastSeen = entry.lastSeen ∨
        next.op.refreshes name entry.tokenId = true ∧
          next.now = entry'.lastSeen) :
    Origin config before call (after ++ [next]) name entry' where
  advertised := token ▸ origin.advertised
  last := by
    intro middle latest rest tokenId split
    rcases List.eq_nil_or_concat rest with rfl | ⟨shorter, final, rfl⟩
    · obtain ⟨rfl, sameLast⟩ := List.append_inj' split rfl
      cases sameLast
      exact other tokenId
    · rw [List.concat_eq_append, ← List.cons_append,
        ← List.append_assoc] at split
      obtain ⟨sameAfter, _⟩ := List.append_inj' split rfl
      exact origin.last middle latest shorter tokenId sameAfter
  unmarked := by
    intro notGone latest member
    obtain ⟨wasNotGone, notNext⟩ := unmarked notGone
    rw [token]
    rcases List.mem_append.mp member with earlier | isNext
    · exact origin.unmarked wasNotGone latest earlier
    · rw [List.mem_singleton.mp isNext]
      exact notNext
  heard := by
    rw [token]
    rcases heard with sameSeen | ⟨refreshes, seen⟩
    · obtain ⟨refresh, member, refreshes, seen⟩ := origin.heard
      refine ⟨refresh, ?_, refreshes, seen.trans sameSeen.symm⟩
      exact List.mem_append_left [next] member
    · refine ⟨next, ?_, refreshes, seen⟩
      exact List.mem_append_right (call :: after) List.mem_cons_self

/-- Every row has an origin in the run. -/
theorem origin_of_run
    {state : Clocked.State Roster}
    (reached :
      (machine config).run (machine config).init calls = some state) :
    ∀ name entry, state.object.get? name = some entry →
      ∃ before call after, calls = before ++ call :: after ∧
        Origin config before call after name entry := by
  refine
    @Transition.Machine.run_induction _ _ (machine config)
      (fun calls state => ∀ name entry,
        state.object.get? name = some entry →
        ∃ before call after, calls = before ++ call :: after ∧
          Origin config before call after name entry) ?_ ?_
      calls state reached
  · intro name entry found
    cases (get?_new config name).symm.trans found
  · intro calls state next target reached origins stepped name entry' found
    obtain ⟨_, rfl⟩ := Clocked.step_eq_some.mp stepped
    -- The call is no successful advertisement of the name by anybody.
    have quiet :
        (∀ session tokenId clientId,
          next.op = .advertiseWithMode session tokenId clientId →
          session.name = name →
          (state.object.advertiseWithMode next.now session tokenId
            clientId).2 ≠ .ok ()) →
        ∀ tokenId, ¬ Advertised config calls next name tokenId := by
      rintro fails tokenId
        ⟨session, clientId, state', named, isAdvertise, reached', success⟩
      cases reached.symm.trans reached'
      exact fails session tokenId clientId isAdvertise named success
    have extended :
        ∀ {entry : RosterEntry}, state.object.get? name = some entry →
          (∀ tokenId, ¬ Advertised config calls next name tokenId) →
          entry'.tokenId = entry.tokenId →
          (entry'.goneNow = false →
            entry.goneNow = false ∧ next.op ≠ .markGone entry.tokenId) →
          (entry'.lastSeen = entry.lastSeen ∨
            next.op.refreshes name entry.tokenId = true ∧
              next.now = entry'.lastSeen) →
          ∃ before call after,
            calls ++ [next] = before ++ call :: after ∧
            Origin config before call after name entry' := by
      intro entry foundBefore other token unmarked heard
      obtain ⟨before, call, after, rfl, origin⟩ :=
        origins name entry foundBefore
      exact
        ⟨before, call, after ++ [next],
          by rw [List.append_assoc, List.cons_append],
          origin.extend other token unmarked heard⟩
    have step := state.object.row_step next.now name next.op
    rw [found] at step
    generalize isOp : next.op = op at step quiet extended
    generalize isRow : some entry' = row at step
    cases step with
    | @advertised session tokenId clientId named free =>
        cases isRow
        refine
          ⟨calls, next, [], rfl,
            { advertised :=
                ⟨session, clientId, state, named, isOp, reached, ?_⟩
              last := ?_
              unmarked := by simp
              heard :=
                ⟨next, List.mem_cons_self, ?_, rfl⟩ }⟩
        · exact advertiseWithMode_ok.mpr (named ▸ free)
        · intro middle other rest tokenId' split
          cases middle <;> cases split
        · rw [isOp]
          simp [RosterOp.refreshes, named, advertisedEntry]
    | refused held other live =>
        refine extended isRow.symm ?_ rfl ?_ (Or.inl rfl)
        · refine quiet ?_
          intro session tokenId clientId isAdvertise named success
          cases isAdvertise
          rcases advertiseWithMode_ok.mp success _ held with same | gone
          · exact other same
          · rw [gone] at live
            cases live
        · exact fun notGone => ⟨notGone, by simp⟩
    | advertisedOther different =>
        refine extended isRow.symm ?_ rfl ?_ (Or.inl rfl)
        · refine quiet ?_
          intro session tokenId clientId isAdvertise named
          cases isAdvertise
          exact absurd named different
        · exact fun notGone => ⟨notGone, by simp⟩
    | touched foundBefore =>
        cases isRow
        refine extended foundBefore (quiet (by simp)) rfl ?_ (Or.inr ⟨?_, rfl⟩)
        · exact fun notGone => ⟨notGone, by simp⟩
        · simp [RosterOp.refreshes]
    | untouched _ =>
        refine extended isRow.symm (quiet (by simp)) rfl ?_ (Or.inl rfl)
        exact fun notGone => ⟨notGone, by simp⟩
    | marked foundBefore =>
        cases isRow
        refine extended foundBefore (quiet (by simp)) rfl ?_ (Or.inl rfl)
        intro notGone
        cases notGone
    | unmarked other =>
        refine extended isRow.symm (quiet (by simp)) rfl ?_ (Or.inl rfl)
        intro notGone
        refine ⟨notGone, ?_⟩
        intro isMark
        cases isMark
        exact other entry' isRow.symm rfl
    | blocked foundBefore =>
        cases isRow
        refine extended foundBefore (quiet (by simp)) rfl ?_ (Or.inl rfl)
        exact fun notGone => ⟨notGone, by simp⟩
    | unblocked _ | retained _ | resolved | counted | listed =>
        refine extended isRow.symm (quiet (by simp)) rfl ?_ (Or.inl rfl)
        exact fun notGone => ⟨notGone, by simp⟩
    | pruned _ _ => cases isRow

/-- Routes are sound and names are exclusive, in every run and at every time
after it.

A name leads to the client whose advertisement of it was the last to succeed,
who has not been marked gone since and was heard from less than `gone_after`
ago.  While a row is live nobody else can advertise its name; a refused
advertisement changes nothing; and the live rows counted, listed and routed are
the same. -/
theorem routes_sound
    {state : Clocked.State Roster} {now : Nat}
    (reached :
      (machine config).run (machine config).init calls = some state)
    (later : state.now ≤ now) :
    (∀ name tokenId,
      state.object.resolveSession now name = some tokenId →
      ∃ before call after, calls = before ++ call :: after ∧
        Advertised config before call name tokenId ∧
        (∀ middle other rest tokenId',
          after = middle ++ other :: rest →
          ¬ Advertised config (before ++ call :: middle) other name
            tokenId') ∧
        (∀ other ∈ after, other.op ≠ .markGone tokenId) ∧
        ∃ refresh ∈ call :: after,
          refresh.op.refreshes name tokenId = true ∧
          refresh.now ≤ now ∧ now < refresh.now + config.goneAfter) ∧
    (∀ entry session tokenId clientId,
      state.object.get? session.name = some entry →
      entry.stateAt now config ≠ .gone →
      tokenId ≠ entry.tokenId →
      (state.object.advertiseWithMode now session tokenId clientId).2 ≠
        .ok ()) ∧
    (∀ session tokenId clientId conflict,
      (state.object.advertiseWithMode now session tokenId clientId).2 =
        .error conflict →
      (state.object.advertiseWithMode now session tokenId clientId).1 =
        state.object) ∧
    state.object.liveCount now =
      ((state.object.snapshot now).filter fun line =>
        line.state ≠ .gone).length ∧
    (∀ name,
      (state.object.resolveSession now name).isSome = true ↔
        ∃ line ∈ state.object.snapshot now,
          line.name = name ∧ line.state ≠ .gone) ∧
    ((state.object.snapshot now).map RosterRow.name).Pairwise
      (· < ·) := by
  have sameConfig : state.object.config = config := config_of_run reached
  refine
    ⟨?_, ?_, ?_, liveCount_eq_length _ _, ?_, sorted_snapshot _ _⟩
  · intro name tokenId resolved
    obtain ⟨entry, found, live, rfl⟩ := resolveSession_eq_some.mp resolved
    obtain ⟨notGone, young⟩ := live_iff.mp live
    obtain ⟨before, call, after, rfl, origin⟩ :=
      origin_of_run reached name entry found
    obtain ⟨refresh, member, refreshes, seen⟩ := origin.heard
    have inTime : refresh.now ≤ now :=
      Nat.le_trans
        ((Clocked.times_of_run reached).2 refresh
          (List.mem_append_right before member)).2 later
    refine
      ⟨before, call, after, rfl, origin.advertised, origin.last,
        origin.unmarked notGone, refresh, member, refreshes, inTime, ?_⟩
    rw [sameConfig, ← seen] at young
    omega
  · intro entry session tokenId clientId found notGone other success
    rcases advertiseWithMode_ok.mp success entry found with same | gone
    · exact other same.symm
    · unfold live at gone
      rw [sameConfig] at gone
      exact notGone (by simpa using gone)
  · intro session tokenId clientId conflict failed
    have advertises :=
      state.object.advertises_advertiseWithMode now session tokenId
        clientId
    generalize state.object.advertiseWithMode now session tokenId
      clientId = result at advertises failed ⊢
    cases advertises with
    | inserted _ => cases failed
    | refused _ _ _ => rfl
  · intro name
    rw [Option.isSome_iff_exists]
    constructor
    · rintro ⟨tokenId, resolved⟩
      obtain ⟨entry, found, live, _⟩ :=
        resolveSession_eq_some.mp resolved
      refine
        ⟨_, mem_snapshot.mpr ⟨name, entry, found, rfl⟩, rfl, ?_⟩
      exact of_decide_eq_true live
    · rintro ⟨line, member, rfl, notGone⟩
      obtain ⟨name, entry, found, rfl⟩ := mem_snapshot.mp member
      exact
        ⟨entry.tokenId,
          resolveSession_eq_some.mpr
            ⟨entry, found, decide_eq_true notGone, rfl⟩⟩

/-- A session that was advertised and then kept alive by a heartbeat. -/
def heartbeatCalls : List RosterCall :=
  [{ now := 5
     op := .advertiseWithMode ⟨"alpha", "opencode", none, none⟩ "t" "c" },
    { now := 9, op := .touchClient "t" }]

theorem routes_sound_heartbeatCalls :
    ∃ before call after, heartbeatCalls = before ++ call :: after ∧
      Advertised .default before call "alpha" "t" ∧
      ∃ refresh ∈ call :: after,
        refresh.op.refreshes "alpha" "t" = true ∧ refresh.now ≤ 10 := by
  have reached :
      (machine .default).run (machine .default).init heartbeatCalls =
        some
          { now := 9
            object :=
              ((new .default).exec 5 (.advertiseWithMode
                ⟨"alpha", "opencode", none, none⟩ "t" "c")).1.exec 9
                (.touchClient "t") |>.1 } := rfl
  obtain ⟨before, call, after, split, advertised, _, _, refresh, member,
    refreshes, inTime, _⟩ :=
    (@routes_sound _ _ _ 10 reached (by decide)).1 "alpha" "t" rfl
  exact
    ⟨before, call, after, split, advertised, refresh, member, refreshes,
      inTime⟩

/-- The times at which the client is heard from. -/
def beats (name tokenId : String) (calls : List RosterCall) : List Nat :=
  (calls.filter fun call => call.op.refreshes name tokenId).map
    Clocked.Call.now

/-- A row whose client is heard from more often than `reconnect_after` stays. -/
theorem kept_by_heartbeats
    (positive : 0 < config.reconnectAfter)
    (goneLater : config.reconnectAfter ≤ config.goneAfter)
    (pruneLater : config.reconnectAfter ≤ config.pruneAfter)
    {state target : Clocked.State Roster} {now : Nat}
    (ran : (machine config).run state calls = some target)
    (sameConfig : state.object.config = config)
    {name tokenId : String} {entry : RosterEntry}
    (found : state.object.get? name = some entry)
    (owner : entry.tokenId = tokenId) (notGone : entry.goneNow = false)
    (beating :
      (entry.lastSeen :: (beats name tokenId calls ++ [now])).IsChain
        fun earlier beat => beat < earlier + config.reconnectAfter)
    (unmarked : ∀ call ∈ calls, call.op ≠ .markGone tokenId)
    (later : target.now ≤ now) :
    ∃ entry', target.object.get? name = some entry' ∧
      entry'.tokenId = tokenId ∧ entry'.goneNow = false ∧
      now < entry'.lastSeen + config.reconnectAfter := by
  induction calls generalizing state entry with
  | nil =>
      cases ran
      exact ⟨entry, found, owner, notGone, by simpa [beats] using beating⟩
  | cons call rest inductionHypothesis =>
      have times := Clocked.times_of_run ran
      obtain ⟨next, stepped, remaining⟩ :=
        ((machine config).run_cons_eq_some).mp ran
      obtain ⟨_, rfl⟩ := Clocked.step_eq_some.mp stepped
      have onward := Clocked.times_of_run remaining
      -- The next beat, or `now`, is not before this call.
      have inTime : call.now < entry.lastSeen + config.reconnectAfter := by
        cases upcoming : beats name tokenId (call :: rest) ++ [now] with
        | nil => simp at upcoming
        | cons beat others =>
            rw [upcoming] at beating
            have close := (List.isChain_cons_cons.mp beating).1
            have member :
                beat ∈ beats name tokenId (call :: rest) ++ [now] := by
              rw [upcoming]
              exact List.mem_cons_self
            refine Nat.lt_of_le_of_lt ?_ close
            rcases List.mem_append.mp member with inBeats | isNow
            · obtain ⟨beatCall, inCalls, rfl⟩ := List.mem_map.mp inBeats
              rcases List.mem_cons.mp (List.mem_filter.mp inCalls).1 with
                rfl | inRest
              · exact Nat.le_refl _
              · exact (onward.2 beatCall inRest).1
            · rw [List.mem_singleton.mp isNow]
              exact
                Nat.le_trans (times.2 call List.mem_cons_self).2 later
      have live : state.object.live call.now entry = true :=
        live_iff.mpr ⟨notGone, by rw [sameConfig]; omega⟩
      obtain ⟨entry', found', owner', notGone', seen'⟩ :=
        @kept_step state.object call.now name call.op entry found live
          (owner ▸ unmarked call List.mem_cons_self)
          (fun _ => by rw [sameConfig]; omega)
      refine
        inductionHypothesis remaining
          ((state.object.config_exec _ _).trans sameConfig) found'
          (owner'.trans owner) notGone' ?_
          (fun other member => unmarked other (List.mem_cons_of_mem _ member))
      rw [seen', owner]
      by_cases refreshes : call.op.refreshes name tokenId = true
      · rw [if_pos refreshes]
        have split :
            beats name tokenId (call :: rest) =
              call.now :: beats name tokenId rest := by
          simp [beats, refreshes]
        rw [split, List.cons_append] at beating
        exact (List.isChain_cons_cons.mp beating).2
      · rw [if_neg refreshes]
        have split :
            beats name tokenId (call :: rest) =
              beats name tokenId rest := by
          simp [beats, refreshes]
        rw [split] at beating
        exact beating

/-- Heartbeats are sufficient: a session that was advertised stays connected and
routed to its client as long as the client is heard from within
`reconnect_after` and is not marked gone, whatever other calls are made. -/
theorem heartbeats_suffice
    (positive : 0 < config.reconnectAfter)
    (goneLater : config.reconnectAfter ≤ config.goneAfter)
    (pruneLater : config.reconnectAfter ≤ config.pruneAfter)
    {before after : List RosterCall} {call : RosterCall}
    {state : Clocked.State Roster} {now : Nat} {name tokenId : String}
    (reached :
      (machine config).run (machine config).init
        (before ++ call :: after) = some state)
    (later : state.now ≤ now)
    (advertised : Advertised config before call name tokenId)
    (beating :
      (call.now :: (beats name tokenId after ++ [now])).IsChain
        fun earlier beat => beat < earlier + config.reconnectAfter)
    (unmarked : ∀ other ∈ after, other.op ≠ .markGone tokenId) :
    ∃ entry, state.object.get? name = some entry ∧
      entry.tokenId = tokenId ∧
      entry.stateAt now config = .connected ∧
      state.object.resolveSession now name = some tokenId := by
  obtain ⟨session, clientId, middle, rfl, isAdvertise, reachedMiddle,
    success⟩ := advertised
  have ran := reached
  rw [(machine config).run_append_of_eq_some reachedMiddle] at ran
  obtain ⟨next, stepped, remaining⟩ :=
    ((machine config).run_cons_eq_some).mp ran
  obtain ⟨_, rfl⟩ := Clocked.step_eq_some.mp stepped
  have inserted :
      (middle.object.exec call.now call.op).1.get? session.name =
        some (advertisedEntry call.now session tokenId clientId) := by
    have step := middle.object.row_step call.now session.name call.op
    generalize (middle.object.exec call.now call.op).1.get? session.name =
      row at step ⊢
    rw [isAdvertise] at step
    cases step with
    | advertised _ _ => rfl
    | refused held other live =>
        rcases advertiseWithMode_ok.mp success _ held with same | gone
        · exact absurd same other
        · rw [gone] at live
          cases live
    | advertisedOther different => exact absurd rfl different
  have sameConfig :
      (middle.object.exec call.now call.op).1.config = config :=
    (middle.object.config_exec _ _).trans (config_of_run reachedMiddle)
  obtain ⟨entry, found, owner, notGone, recent⟩ :=
    kept_by_heartbeats positive goneLater pruneLater remaining sameConfig
      inserted rfl rfl beating unmarked later
  have finalConfig : state.object.config = config := config_of_run reached
  have young : ¬ config.goneAfter ≤ now - entry.lastSeen := by omega
  have fresh : ¬ config.reconnectAfter ≤ now - entry.lastSeen := by omega
  refine ⟨entry, found, owner, ?_, ?_⟩
  · simp [RosterEntry.stateAt, notGone, young, fresh]
  · refine resolveSession_eq_some.mpr ⟨entry, found, ?_, owner⟩
    exact live_iff.mpr ⟨notGone, by rw [finalConfig]; omega⟩

theorem heartbeats_suffice_heartbeatCalls :
    ∃ state,
      (machine .default).run (machine .default).init heartbeatCalls =
        some state ∧
      state.object.resolveSession 10 "alpha" = some "t" := by
  have reached :
      (machine .default).run (machine .default).init
        ([] ++ heartbeatCalls) =
        some
          { now := 9
            object :=
              ((new .default).exec 5 (.advertiseWithMode
                ⟨"alpha", "opencode", none, none⟩ "t" "c")).1.exec 9
                (.touchClient "t") |>.1 } := rfl
  obtain ⟨_, _, _, _, resolved⟩ :=
    @heartbeats_suffice .default (by decide) (by decide) (by decide)
      _ _ _ _ 10 "alpha" "t" reached (by decide)
      ⟨_, _, _, rfl, rfl, rfl, rfl⟩ (by decide)
      (by
        intro other member
        rw [List.mem_singleton.mp member]
        exact nofun)
  exact ⟨_, reached, resolved⟩

end Roster

end HollerServer.Wire
