import HollerServer.Server.Confirmation

/-!
# When the confirmed harnesses are those of the live connections

The table of confirmed harnesses only grows.  It is in step with the registered
connections exactly as long as nobody whose confirmation it holds goes away, takes
another hostname or takes its answer back, and every answer is recorded while the
connection that gave it is registered under the hostname that was read before the
query.
-/

namespace HollerServer.Server.Relays

open HollerServer.Proto
open HollerServer.Wire
open Transition

variable {state next : Relays} {harness : String}

/-- What the connection answered to one relayed query about the harness. -/
def answerTo
    (state : Relays) (conn : ConnId) (harness : String) (req : ReqId) :
    Option Bool :=
  (state.relays.get? req).bind fun relay => relay.answerOf conn harness

theorem lastAnswer_eq (state : Relays) (conn : ConnId) (harness : String) :
    state.lastAnswer conn harness =
      state.asked.findSome? (state.answerTo conn harness) :=
  rfl

/-- Another registered connection of that hostname has confirmed the harness. -/
def Elsewhere (state : Relays) (tokenId host harness : String) : Prop :=
  ∃ other, other ≠ tokenId ∧ state.Confirms other host harness

/-- Every known harness that the connection of the token has confirmed is confirmed
by another one of the same hostname. -/
def Dispensable (state : Relays) (tokenId : String) : Prop :=
  ∀ harness ∈ harnessesKnown, ∀ host,
    state.Confirms tokenId host harness →
      state.Elsewhere tokenId host harness

/-- The hostname of the token stays, or whatever its connection has confirmed is
confirmed by others of the old and of the new hostname. -/
def Renamable (state : Relays) (tokenId hostname : String) : Prop :=
  ∀ harness ∈ harnessesKnown, ∀ host,
    state.Confirms tokenId host harness →
      host = hostname ∨
        state.Elsewhere tokenId host harness ∧
          state.Elsewhere tokenId hostname harness

/-- The connection was asked, gave the answer itself, and has not answered a later
query about the harness. -/
def Speaks
    (state : Relays) (req : ReqId) (relay : Relay) (conn : ConnId)
    (harness : String) : Prop :=
  relay.askedOn = some conn ∧ relay.answeredOn = some conn ∧
    (state.asked.takeWhile (· ≠ req)).findSome?
      (state.answerTo conn harness) = none

/-- A connection that speaks is registered under the hostname. -/
def Gains
    (state : Relays) (req : ReqId) (relay : Relay)
    (host harness : String) : Prop :=
  ∃ tokenId conn, state.live.peer? tokenId = some (conn, host) ∧
    state.Speaks req relay conn harness

/-- The hostname that goes with an `ok: true` is the one under which the connection
that gave it is registered now, or has been confirmed by others. -/
def YesInStep
    (state : Relays) (req : ReqId) (relay : Relay) (host : Option String)
    (harness : String) : Prop :=
  (∀ name, host = some name →
    state.Gains req relay name harness ∨
      ∃ tokenId, state.Confirms tokenId name harness) ∧
  ∀ name, state.Gains req relay name harness →
    host = some name ∨ ∃ tokenId, state.Confirms tokenId name harness

/-- An answer without `ok: true` takes back no confirmation of a registered
connection, unless another one of its hostname has confirmed the harness. -/
def NoInStep
    (state : Relays) (req : ReqId) (relay : Relay) (harness : String) :
    Prop :=
  ∀ tokenId conn name, state.live.peer? tokenId = some (conn, name) →
    state.Speaks req relay conn harness →
    state.lastAnswer conn harness = some true →
    ∃ other conn', conn' ≠ conn ∧
      state.live.peer? other = some (conn', name) ∧
      state.lastAnswer conn' harness = some true

/-- The step leaves the table in step with the registered connections. -/
def Steady (state : Relays) : Action → Prop
  | .wire (.register id) | .wire (.teardown id) =>
      ∀ conn, state.live.conns.get? id = some conn →
        state.Dispensable conn.tokenId
  | .wire (.revoke tokenId) => state.Dispensable tokenId
  | .wire (.resolve id) =>
      ∀ conn hostname todo, state.live.conns.get? id = some conn →
        conn.phase = .session (.setHostname hostname :: todo) →
        state.Renamable conn.tokenId hostname
  | .record req =>
      ∀ relay host request outcome harness,
        state.relays.get? req = some relay →
        relay.stage = .asking host →
        state.live.reqs.get? req = some request →
        request.pc = .returned (.query outcome) →
        relay.feature? = some harness → harness ∈ harnessesKnown →
        (answer? outcome = some true →
          state.YesInStep req relay host harness) ∧
        (answer? outcome = some false →
          state.NoInStep req relay harness)
  | _ => True

section Steps

theorem step_wire {action : Wire.Action}
    (stepped : state.step (.wire action) = some next) :
    ∃ live, state.live.step action = some live ∧
      next = { state.observe action with live } := by
  simp only [step] at stepped
  split at stepped
  next => cases stepped
  next =>
    obtain ⟨live, lived, rfl⟩ := Option.map_eq_some_iff.mp stepped
    exact ⟨live, lived, rfl⟩

theorem step_resolveTarget
    {req : ReqId} {id tokenId cmd : String} {args : List String}
    (stepped :
      state.step (.resolveTarget req id tokenId cmd args) = some next) :
    state.relays.get? req = none ∧
      next =
        { state with
          relays := state.relays.put req { tokenId, cmd, args } } := by
  simp only [step] at stepped
  split at stepped
  next absent =>
    split at stepped
    next =>
      cases stepped
      exact ⟨absent, rfl⟩
    next => cases stepped
  next => cases stepped

theorem step_ask {req : ReqId} {queryId : String}
    (stepped : state.step (.ask req queryId) = some next) :
    ∃ relay live, state.relays.get? req = some relay ∧
      relay.stage = .resolved ∧
      state.live.step
        (.call req relay.tokenId queryId (.query relay.cmd relay.args)) =
        some live ∧
      next =
        { state with
          live
          relays :=
            state.relays.put req
              { relay with
                stage :=
                  .asking
                    (hostnameOf state.live.registry relay.tokenId) } } := by
  simp only [step] at stepped
  split at stepped
  next relay found =>
    split at stepped
    next stage =>
      obtain ⟨live, lived, rfl⟩ := Option.map_eq_some_iff.mp stepped
      exact ⟨relay, live, found, stage, lived, rfl⟩
    next => cases stepped
    next => cases stepped
  next => cases stepped

theorem step_record {req : ReqId}
    (stepped : state.step (.record req) = some next) :
    ∃ relay request host outcome, state.relays.get? req = some relay ∧
      state.live.reqs.get? req = some request ∧
      relay.stage = .asking host ∧
      request.pc = .returned (.query outcome) ∧
      next = state.takeUp req relay host outcome := by
  simp only [step] at stepped
  split at stepped
  next relay request found foundRequest =>
    split at stepped
    next host outcome stage pc =>
      cases stepped
      exact
        ⟨relay, request, host, outcome, found, foundRequest, stage, pc,
          rfl⟩
    next => cases stepped
  next => cases stepped

end Steps

section Notes

/-- What is noted of an action concerns one relayed query that waits for its
answer. -/
inductive Noted (state : Relays) : Relays → Prop
  | nothing : Noted state state
  | relay {req : ReqId} {relay relay' : Relay} {host : Option String}
      {sent : List ReqId}
      (found : state.relays.get? req = some relay)
      (stage : relay.stage = .asking host)
      (stage' : relay'.stage = .asking host)
      (own : ∀ other ∈ sent, other = req)
      (asked :
        ∀ conn, relay'.askedOn = some conn →
          relay.askedOn = some conn ∨
            req ∈ sent ∧
              ∃ request, state.live.reqs.get? req = some request ∧
                request.pc.outTx? = some conn) :
      Noted state
        { state with
          relays := state.relays.put req relay'
          asked := sent ++ state.asked }

theorem noted_note
    {req : ReqId} {sent : List ReqId} {update : Relay → Relay}
    (sameStage : ∀ relay, (update relay).stage = relay.stage)
    (own : ∀ other ∈ sent, other = req)
    (asked :
      ∀ relay conn, (update relay).askedOn = some conn →
        relay.askedOn = some conn ∨
          req ∈ sent ∧
            ∃ request, state.live.reqs.get? req = some request ∧
              request.pc.outTx? = some conn) :
    Noted state (state.note req sent update) := by
  unfold note
  split
  next relay found =>
    split
    next host stage =>
      exact
        .relay found stage ((sameStage relay).trans stage) own
          (asked relay)
    next => exact .nothing
    next => exact .nothing
  next => exact .nothing

theorem outTx?_of_addressee?
    {live : Live} {req : ReqId} {conn : ConnId}
    (addressed : addressee? live req = some conn) :
    ∃ request, live.reqs.get? req = some request ∧
      request.pc.outTx? = some conn := by
  obtain ⟨request, found, addressed⟩ :=
    Option.bind_eq_some_iff.mp addressed
  refine ⟨request, found, ?_⟩
  split at addressed
  next outTx hostname pc =>
    split at addressed
    next =>
      cases addressed
      rw [pc]
      rfl
    next => cases addressed
  next => cases addressed

theorem noted_observe (state : Relays) (action : Wire.Action) :
    Noted state (state.observe action) := by
  unfold observe
  split
  next req ts =>
    split
    next conn addressed =>
      refine noted_note (fun _ => rfl) ?_ ?_
      · intro other member
        exact List.mem_singleton.mp member
      · intro relay conn' isAsked
        cases isAsked
        exact
          .inr ⟨List.mem_singleton_self req, outTx?_of_addressee? addressed⟩
    next => exact .nothing
  next id =>
    split
    next req answered =>
      refine noted_note (fun _ => rfl) ?_ ?_
      · intro other member
        cases member
      · intro relay conn isAsked
        exact .inl isAsked
    next => exact .nothing
  next => exact .nothing

theorem answerOf_asking
    {relay : Relay} {host : Option String} (conn : ConnId)
    (harness : String) (stage : relay.stage = .asking host) :
    relay.answerOf conn harness = none := by
  unfold Relay.answerOf
  rw [stage]

/-- A relay whose answer stays the same may be written back. -/
theorem answerTo_put
    {req : ReqId} {relay relay' : Relay} {conn : ConnId}
    (found : state.relays.get? req = some relay)
    (same : relay'.answerOf conn harness = relay.answerOf conn harness)
    (sent : List ReqId) :
    answerTo
        { state with
          relays := state.relays.put req relay'
          asked := sent } conn harness =
      state.answerTo conn harness := by
  funext other
  unfold answerTo
  simp only [FiniteMap.get?_put]
  split
  next isReq =>
    rw [isReq, found, Option.bind_some, Option.bind_some]
    exact same
  next => rfl

/-- What is noted changes no answer. -/
theorem lastAnswer_noted {noted : Relays} (isNoted : Noted state noted)
    (conn : ConnId) (harness : String) :
    noted.lastAnswer conn harness = state.lastAnswer conn harness := by
  cases isNoted with
  | nothing => rfl
  | @relay req relay relay' host sent found stage stage' own asked =>
      have none' := answerOf_asking conn harness stage
      have sameAnswer :
          relay'.answerOf conn harness = relay.answerOf conn harness := by
        rw [none', answerOf_asking conn harness stage']
      have silent :
          sent.findSome? (state.answerTo conn harness) = none := by
        rw [List.findSome?_eq_none_iff]
        intro other member
        unfold answerTo
        rw [own other member, found]
        exact none'
      rw [lastAnswer_eq, lastAnswer_eq, answerTo_put found sameAnswer,
        List.findSome?_append, silent, Option.none_or]

theorem live_noted {noted : Relays} (isNoted : Noted state noted) :
    noted.live = state.live := by
  cases isNoted <;> rfl

theorem confirmed_noted {noted : Relays} (isNoted : Noted state noted) :
    noted.confirmed = state.confirmed := by
  cases isNoted <;> rfl

end Notes

/-- What holds in every state: only started connections were asked, and the
queries that were sent are listed. -/
structure Sound (state : Relays) : Prop where
  coherent : state.live.Coherent
  settled : state.live.Settled
  held : state.live.Held
  asked :
    ∀ req relay conn, state.relays.get? req = some relay →
      relay.askedOn = some conn →
      state.live.Started conn ∧ req ∈ state.asked

theorem sound_init : Sound machine.init where
  coherent := Consistent.empty
  settled := Live.settled_of_reachable (Machine.reachable_init _)
  held := by
    intro tx req id found
    cases found
  asked := by
    intro req relay conn found
    cases found

/-- A step of the connections and calls that leaves the relays alone. -/
theorem Sound.lived {live : Live} {action : Wire.Action}
    (sound : state.Sound) (lived : state.live.step action = some live) :
    Sound { state with live } where
  coherent := sound.coherent.step lived
  settled := sound.settled.step sound.coherent lived
  held := sound.held.step sound.settled sound.coherent lived
  asked := by
    intro req relay conn found isAsked
    obtain ⟨started, listed⟩ := sound.asked req relay conn found isAsked
    exact ⟨Live.settled_conn_step lived started, listed⟩

theorem Sound.put {req : ReqId} {relay : Relay} {sent : List ReqId}
    (sound : state.Sound)
    (asked :
      ∀ conn, relay.askedOn = some conn →
        state.live.Started conn ∧ req ∈ sent ++ state.asked) :
    Sound
      { state with
        relays := state.relays.put req relay
        asked := sent ++ state.asked } where
  coherent := sound.coherent
  settled := sound.settled
  held := sound.held
  asked := by
    intro other relay' conn found isAsked
    simp only [FiniteMap.get?_put] at found
    split at found
    next same =>
      cases found
      rw [same]
      exact asked conn isAsked
    next =>
      obtain ⟨started, listed⟩ :=
        sound.asked other relay' conn found isAsked
      exact ⟨started, List.mem_append_right sent listed⟩

theorem Sound.noted {noted : Relays} (sound : state.Sound)
    (isNoted : Noted state noted) : noted.Sound := by
  cases isNoted with
  | nothing => exact sound
  | @relay req relay relay' host sent found stage stage' own asked =>
      apply sound.put
      intro conn isAsked
      rcases asked conn isAsked with before | ⟨member, request, now, holds⟩
      · obtain ⟨started, listed⟩ := sound.asked req relay conn found before
        exact ⟨started, List.mem_append_right sent listed⟩
      · exact
          ⟨sound.held req request conn now holds,
            List.mem_append_left _ member⟩

theorem Sound.step {action : Action} (sound : state.Sound)
    (stepped : state.step action = some next) : next.Sound := by
  cases action with
  | wire action =>
      obtain ⟨live, lived, rfl⟩ := step_wire stepped
      have noted := sound.noted (noted_observe state action)
      rw [← live_noted (noted_observe state action)] at lived
      exact noted.lived lived
  | resolveTarget req id tokenId cmd args =>
      obtain ⟨absent, rfl⟩ := step_resolveTarget stepped
      refine @Sound.put state req _ [] sound ?_
      intro conn isAsked
      cases isAsked
  | ask req queryId =>
      obtain ⟨relay, live, found, stage, lived, rfl⟩ := step_ask stepped
      refine @Sound.put { state with live } req _ [] (sound.lived lived) ?_
      intro conn isAsked
      exact (sound.lived lived).asked req relay conn found isAsked
  | record req =>
      obtain ⟨relay, request, host, outcome, found, foundRequest, stage, pc,
        rfl⟩ := step_record stepped
      have kept : Sound { state with
          relays := state.relays.put req
            { relay with stage := .finished (answer? outcome) } } := by
        refine @Sound.put state req _ [] sound ?_
        intro conn isAsked
        exact sound.asked req relay conn found isAsked
      exact ⟨kept.coherent, kept.settled, kept.held, kept.asked⟩

/-- A connection that has not registered yet has answered nothing. -/
theorem Sound.lastAnswer_unstarted {conn : ConnId} (sound : state.Sound)
    (waiting : ¬ state.live.Started conn) (harness : String) :
    state.lastAnswer conn harness = none := by
  rw [lastAnswer_eq, List.findSome?_eq_none_iff]
  intro req _
  unfold answerTo
  cases found : state.relays.get? req with
  | none => rfl
  | some relay =>
      rw [Option.bind_some]
      unfold Relay.answerOf
      split
      next =>
        apply if_neg
        rintro ⟨_, isAsked, _⟩
        exact waiting (sound.asked req relay conn found isAsked).1
      next => rfl
      next => rfl

section Mirrors

theorem confirms_congr {tokenId host : String}
    (samePeer :
      next.live.peer? tokenId = state.live.peer? tokenId)
    (sameAnswers :
      ∀ conn, next.lastAnswer conn harness =
        state.lastAnswer conn harness) :
    next.Confirms tokenId host harness ↔
      state.Confirms tokenId host harness := by
  unfold Confirms
  rw [samePeer]
  simp only [sameAnswers]

/-- A change of the connection of one token keeps the table in step exactly if what
is lost and what is gained is confirmed by others. -/
theorem mirrors_iff_of_token {tokenId : String}
    (mirrors : state.Mirrors harness)
    (sameHosts : next.hosts harness = state.hosts harness)
    (sameAnswers :
      ∀ conn, next.lastAnswer conn harness =
        state.lastAnswer conn harness)
    (others :
      ∀ other, other ≠ tokenId →
        next.live.peer? other = state.live.peer? other) :
    next.Mirrors harness ↔
      (∀ host, state.Confirms tokenId host harness →
        next.Confirms tokenId host harness ∨
          state.Elsewhere tokenId host harness) ∧
      ∀ host, next.Confirms tokenId host harness →
        state.Confirms tokenId host harness ∨
          state.Elsewhere tokenId host harness := by
  have before (host : String) :
      host ∈ next.hosts harness ↔
        state.Confirms tokenId host harness ∨
          state.Elsewhere tokenId host harness := by
    rw [sameHosts, mirrors host]
    constructor
    · rintro ⟨other, confirms⟩
      by_cases same : other = tokenId
      · exact .inl (same ▸ confirms)
      · exact .inr ⟨other, same, confirms⟩
    · rintro (confirms | ⟨other, _, confirms⟩)
      · exact ⟨tokenId, confirms⟩
      · exact ⟨other, confirms⟩
  have after (host : String) :
      (∃ other, next.Confirms other host harness) ↔
        next.Confirms tokenId host harness ∨
          state.Elsewhere tokenId host harness := by
    constructor
    · rintro ⟨other, confirms⟩
      by_cases same : other = tokenId
      · exact .inl (same ▸ confirms)
      · exact
          .inr
            ⟨other, same,
              (confirms_congr (others other same) sameAnswers).mp confirms⟩
    · rintro (confirms | ⟨other, apart, confirms⟩)
      · exact ⟨tokenId, confirms⟩
      · exact
          ⟨other,
            (confirms_congr (others other apart) sameAnswers).mpr confirms⟩
  unfold Mirrors
  simp only [before, after]
  constructor
  · intro same
    exact
      ⟨fun host confirms => (same host).mp (.inl confirms),
        fun host confirms => (same host).mpr (.inl confirms)⟩
  · rintro ⟨kept, gained⟩ host
    constructor
    · rintro (confirms | elsewhere)
      · exact kept host confirms
      · exact .inr elsewhere
    · rintro (confirms | elsewhere)
      · exact gained host confirms
      · exact .inr elsewhere

/-- What a step of the connections and calls leaves alone. -/
structure Outside (state next : Relays) : Prop where
  hosts : ∀ harness, next.hosts harness = state.hosts harness
  answers :
    ∀ conn harness,
      next.lastAnswer conn harness = state.lastAnswer conn harness

theorem outside_wire (action : Wire.Action) (live : Live) :
    Outside state { state.observe action with live } where
  hosts := by
    intro harness
    exact
      congrArg (fun confirmed => (confirmed.get? harness).getD [])
        (confirmed_noted (noted_observe state action))
  answers := by
    intro conn harness
    have noted :=
      lastAnswer_noted (noted_observe state action) conn harness
    exact noted

/-- The connection of one token is gone, or there is one that has answered
nothing. -/
theorem Outside.inStep_iff_dispensable {tokenId : String}
    (outside : Outside state next) (inStep : state.InStep)
    (others :
      ∀ other, other ≠ tokenId →
        next.live.peer? other = state.live.peer? other)
    (silent : ∀ host harness, ¬ next.Confirms tokenId host harness) :
    next.InStep ↔ state.Dispensable tokenId := by
  unfold InStep Dispensable
  refine forall₂_congr fun harness known => ?_
  rw [mirrors_iff_of_token (inStep harness known) (outside.hosts harness)
    (outside.answers · harness) others]
  constructor
  · rintro ⟨kept, _⟩ host confirms
    exact (kept host confirms).resolve_left (silent host harness)
  · intro backed
    exact
      ⟨fun host confirms => .inr (backed host confirms),
        fun host confirms => absurd confirms (silent host harness)⟩

/-- The connection of one token has another hostname. -/
theorem Outside.inStep_iff_renamable {tokenId hostname : String}
    (outside : Outside state next) (inStep : state.InStep)
    (others :
      ∀ other, other ≠ tokenId →
        next.live.peer? other = state.live.peer? other)
    (renamed :
      next.live.peer? tokenId =
        (state.live.peer? tokenId).map fun peer => (peer.1, hostname)) :
    next.InStep ↔ state.Renamable tokenId hostname := by
  have confirms_iff (host harness : String) :
      next.Confirms tokenId host harness ↔
        host = hostname ∧
          ∃ old, state.Confirms tokenId old harness := by
    unfold Confirms
    rw [renamed]
    simp only [outside.answers]
    rcases peer : state.live.peer? tokenId with _ | ⟨conn, old⟩
    · simp
    · simp only [Option.map_some, Option.some.injEq, Prod.mk.injEq]
      constructor
      · rintro ⟨conn', ⟨rfl, rfl⟩, answered⟩
        exact ⟨rfl, old, conn, ⟨rfl, rfl⟩, answered⟩
      · rintro ⟨rfl, old', conn', ⟨rfl, rfl⟩, answered⟩
        exact ⟨conn, ⟨rfl, rfl⟩, answered⟩
  have unique {first second harness : String}
      (one : state.Confirms tokenId first harness)
      (two : state.Confirms tokenId second harness) : first = second := by
    obtain ⟨_, peer, _⟩ := one
    obtain ⟨_, peer', _⟩ := two
    cases peer.symm.trans peer'
    rfl
  unfold InStep Renamable
  refine forall₂_congr fun harness known => ?_
  rw [mirrors_iff_of_token (inStep harness known) (outside.hosts harness)
    (outside.answers · harness) others]
  simp only [confirms_iff]
  constructor
  · rintro ⟨kept, gained⟩ host confirms
    by_cases same : host = hostname
    · exact .inl same
    · refine .inr ⟨?_, ?_⟩
      · exact (kept host confirms).resolve_left fun now => same now.1
      · refine (gained hostname ⟨rfl, host, confirms⟩).resolve_left ?_
        intro before
        exact same (unique confirms before)
  · intro backed
    constructor
    · intro host confirms
      rcases backed host confirms with same | ⟨elsewhere, _⟩
      · exact .inl ⟨same, host, confirms⟩
      · exact .inr elsewhere
    · rintro host ⟨rfl, old, confirms⟩
      rcases backed old confirms with rfl | ⟨_, elsewhere⟩
      · exact .inl confirms
      · exact .inr elsewhere

/-- No token changes its connection or hostname. -/
theorem Outside.inStep
    (outside : Outside state next) (inStep : state.InStep)
    (same :
      ∀ tokenId, next.live.peer? tokenId = state.live.peer? tokenId) :
    next.InStep := by
  intro harness known host
  rw [outside.hosts harness, inStep harness known host]
  refine exists_congr fun tokenId => ?_
  exact
    (confirms_congr (same tokenId) (outside.answers · harness)).symm

end Mirrors

section Wire

/-- The action may change the connection or the hostname of a token. -/
def touchesPeers : Wire.Action → Bool
  | .register _ | .teardown _ | .revoke _ | .resolve _ => true
  | _ => false

theorem peer?_untouched {live live' : Live} {action : Wire.Action}
    (untouched : touchesPeers action = false)
    (lived : live.step action = some live') (tokenId : String) :
    live'.peer? tokenId = live.peer? tokenId := by
  cases Live.peerChange_step lived tokenId with
  | same same => exact same
  | registered _ _ _ _ => cases untouched
  | tornDown _ _ _ => cases untouched
  | revoked _ => cases untouched
  | renamed _ _ _ _ => cases untouched

theorem steady_untouched {action : Wire.Action}
    (untouched : touchesPeers action = false) :
    state.Steady (.wire action) := by
  cases action <;> trivial

theorem silent_of_none {tokenId : String}
    (absent : next.live.peer? tokenId = none) (host harness : String) :
    ¬ next.Confirms tokenId host harness := by
  rintro ⟨conn, peer, _⟩
  rw [absent] at peer
  cases peer

/-- The steps of the connections and calls. -/
theorem inStep_wire_iff {action : Wire.Action}
    (sound : state.Sound) (inStep : state.InStep)
    (stepped : state.step (.wire action) = some next) :
    next.InStep ↔ state.Steady (.wire action) := by
  obtain ⟨live, lived, rfl⟩ := step_wire stepped
  have outside := @outside_wire state action live
  cases touched : touchesPeers action with
  | false =>
      exact
        iff_of_true
          (outside.inStep inStep (peer?_untouched touched lived))
          (steady_untouched touched)
  | true =>
      cases action with
      | register id =>
          obtain ⟨conn, found, verified, rfl⟩ := Live.step_register lived
          have others (other : String) (apart : other ≠ conn.tokenId) :=
            (state.live.peer?_register id conn other).trans (if_neg apart)
          rw [outside.inStep_iff_dispensable inStep others ?silent]
          · constructor
            · intro dispensable conn' found'
              cases found.symm.trans found'
              exact dispensable
            · intro dispensable
              exact dispensable conn found
          case silent =>
            rintro host harness ⟨conn', peer, answered⟩
            have now :=
              (state.live.peer?_register id conn conn.tokenId).trans
                (if_pos rfl)
            cases now.symm.trans peer
            have waiting : ¬ state.live.Started id := by
              rintro ⟨conn', found', notVerified⟩
              cases found.symm.trans found'
              exact notVerified verified
            rw [outside.answers,
              sound.lastAnswer_unstarted waiting] at answered
            cases answered
      | teardown id =>
          obtain ⟨conn, certainClose, found, _, rfl⟩ :=
            Live.step_teardown lived
          have others (other : String) (apart : other ≠ conn.tokenId) :=
            (state.live.peer?_removeEntry conn.tokenId other).trans
              (if_neg apart)
          have absent :=
            (state.live.peer?_removeEntry conn.tokenId conn.tokenId).trans
              (if_pos rfl)
          rw [outside.inStep_iff_dispensable inStep others
            (silent_of_none absent)]
          constructor
          · intro dispensable conn' found'
            cases found.symm.trans found'
            exact dispensable
          · intro dispensable
            exact dispensable conn found
      | revoke tokenId =>
          have isNext := Live.step_revoke lived
          subst isNext
          have others (other : String) (apart : other ≠ tokenId) :=
            (state.live.peer?_removeEntry tokenId other).trans
              (if_neg apart)
          have absent :=
            (state.live.peer?_removeEntry tokenId tokenId).trans
              (if_pos rfl)
          exact
            outside.inStep_iff_dispensable inStep others
              (silent_of_none absent)
      | resolve id =>
          obtain ⟨conn, resolution, todo, found, phase, isNext⟩ :=
            Live.step_resolve lived
          by_cases hello : ∃ hostname, resolution = .setHostname hostname
          · obtain ⟨hostname, rfl⟩ := hello
            subst isNext
            have others (other : String) (apart : other ≠ conn.tokenId) :=
              (state.live.registry.peer?_setHostname conn.tokenId hostname
                other).trans (if_neg apart)
            have renamed :=
              (state.live.registry.peer?_setHostname conn.tokenId hostname
                conn.tokenId).trans (if_pos rfl)
            rw [outside.inStep_iff_renamable inStep others renamed]
            constructor
            · intro renamable conn' hostname' todo' found' phase'
              cases found.symm.trans found'
              cases phase.symm.trans phase'
              exact renamable
            · intro renamable
              exact renamable conn hostname todo found phase
          · have same (tokenId : String) :
                live.peer? tokenId = state.live.peer? tokenId := by
              cases Live.peerChange_step lived tokenId with
              | same same => exact same
              | renamed found' _ phase' _ =>
                  cases found.symm.trans found'
                  cases phase.symm.trans phase'
                  exact absurd ⟨_, rfl⟩ hello
            refine iff_of_true (outside.inStep inStep same) ?_
            intro conn' hostname todo' found' phase'
            cases found.symm.trans found'
            cases phase.symm.trans phase'
            exact absurd ⟨_, rfl⟩ hello
      | _ => cases touched

end Wire

section Record

variable {req : ReqId} {relay : Relay} {host : Option String}
  {outcome : QueryOutcome}

/-- The hosts of a harness after an outcome was taken up. -/
theorem mem_hosts_takeUp {name : String} :
    name ∈ (state.takeUp req relay host outcome).hosts harness ↔
      name ∈ state.hosts harness ∨
        answer? outcome = some true ∧ relay.feature? = some harness ∧
          host = some name := by
  cases outcome with
  | err body => simp [hosts, takeUp, answer?]
  | disconnected => simp [hosts, takeUp, answer?]
  | ok body =>
      cases isFeature : relay.feature? with
      | none => simp [hosts, takeUp, isFeature]
      | some feature =>
          cases host with
          | none => simp [hosts, takeUp, isFeature]
          | some recorded =>
              cases ok : saysOk body.rest with
              | false => simp [hosts, takeUp, isFeature, answer?, ok]
              | true =>
                  simp only [hosts, takeUp, isFeature, answer?, ok, if_true,
                    recordHarnessConfirmed, FiniteMap.get?_put]
                  by_cases same : harness = feature
                  · simp [same, eq_comm, or_comm]
                  · simp [same, Ne.symm same]

theorem answerTo_takeUp_of_ne {conn : ConnId} {other : ReqId}
    (apart : other ≠ req) :
    (state.takeUp req relay host outcome).answerTo conn harness other =
      state.answerTo conn harness other := by
  unfold answerTo takeUp
  simp only [FiniteMap.get?_put, if_neg apart]

theorem answerTo_takeUp_self {conn : ConnId} :
    (state.takeUp req relay host outcome).answerTo conn harness req =
      if relay.feature? = some harness ∧ relay.askedOn = some conn ∧
          relay.answeredOn = some conn then
        answer? outcome
      else none := by
  unfold answerTo takeUp
  simp only [FiniteMap.get?_put_self, Option.bind_some]
  rfl

/-- An answer counts unless a later query was answered before. -/
theorem lastAnswer_takeUp {conn : ConnId} {answer : Bool}
    (here :
      (state.takeUp req relay host outcome).answerTo conn harness req =
        some answer)
    (listed : req ∈ state.asked) :
    (state.takeUp req relay host outcome).lastAnswer conn harness =
      ((state.asked.takeWhile (· ≠ req)).findSome?
        (state.answerTo conn harness)).or (some answer) := by
  refine List.findSome?_update ?_ here listed
  intro other apart
  exact answerTo_takeUp_of_ne apart

/-- The connection that speaks has given its last answer. -/
theorem lastAnswer_takeUp_of_speaks {conn : ConnId} {answer : Bool}
    (sound : state.Sound) (found : state.relays.get? req = some relay)
    (isFeature : relay.feature? = some harness)
    (speaks : state.Speaks req relay conn harness)
    (answered : answer? outcome = some answer) :
    (state.takeUp req relay host outcome).lastAnswer conn harness =
      some answer := by
  obtain ⟨asked, given, latest⟩ := speaks
  have here :
      (state.takeUp req relay host outcome).answerTo conn harness req =
        some answer := by
    rw [answerTo_takeUp_self, if_pos ⟨isFeature, asked, given⟩, answered]
  have listed := (sound.asked req relay conn found asked).2
  rw [lastAnswer_takeUp here listed, latest, Option.none_or]

/-- For everybody else the last answer stays. -/
theorem lastAnswer_takeUp_of_not {conn : ConnId}
    (sound : state.Sound) (found : state.relays.get? req = some relay)
    (stage : relay.stage = .asking host)
    (silent :
      ¬ (relay.feature? = some harness ∧
        state.Speaks req relay conn harness ∧
        (answer? outcome).isSome = true)) :
    (state.takeUp req relay host outcome).lastAnswer conn harness =
      state.lastAnswer conn harness := by
  have before : state.answerTo conn harness req = none := by
    unfold answerTo
    rw [found, Option.bind_some]
    exact answerOf_asking conn harness stage
  cases here :
      (state.takeUp req relay host outcome).answerTo conn harness req with
  | none =>
      rw [lastAnswer_eq, lastAnswer_eq]
      congr 1
      funext other
      by_cases same : other = req
      · rw [same, here, before]
      · exact answerTo_takeUp_of_ne same
  | some answer =>
      have answered := here
      rw [answerTo_takeUp_self] at answered
      split at answered
      next given =>
        obtain ⟨isFeature, asked, isAnswered⟩ := given
        have listed := (sound.asked req relay conn found asked).2
        -- a later query was answered before, and its answer counts
        cases front :
            (state.asked.takeWhile (· ≠ req)).findSome?
              (state.answerTo conn harness) with
        | none =>
            have speaks : state.Speaks req relay conn harness :=
              ⟨asked, isAnswered, front⟩
            refine absurd ⟨isFeature, speaks, ?_⟩ silent
            rw [answered]
            rfl
        | some last =>
            rw [lastAnswer_takeUp here listed, front, Option.some_or]
            exact (List.findSome?_of_takeWhile front).symm
      next => cases answered

/-- The confirmations after a yes are those before and those of the connections
that speak. -/
theorem confirms_takeUp_yes {name : String}
    (sound : state.Sound) (found : state.relays.get? req = some relay)
    (stage : relay.stage = .asking host)
    (isFeature : relay.feature? = some harness)
    (answered : answer? outcome = some true) :
    (∃ tokenId,
      (state.takeUp req relay host outcome).Confirms tokenId name harness) ↔
      state.Gains req relay name harness ∨
        ∃ tokenId, state.Confirms tokenId name harness := by
  constructor
  · rintro ⟨tokenId, conn, peer, last⟩
    by_cases speaks : state.Speaks req relay conn harness
    · exact .inl ⟨tokenId, conn, peer, speaks⟩
    · rw [lastAnswer_takeUp_of_not sound found stage
        (fun all => speaks all.2.1)] at last
      exact .inr ⟨tokenId, conn, peer, last⟩
  · rintro (⟨tokenId, conn, peer, speaks⟩ | ⟨tokenId, conn, peer, last⟩)
    · exact
        ⟨tokenId, conn, peer,
          lastAnswer_takeUp_of_speaks sound found isFeature speaks
            answered⟩
    · refine ⟨tokenId, conn, peer, ?_⟩
      by_cases speaks : state.Speaks req relay conn harness
      · exact
          lastAnswer_takeUp_of_speaks sound found isFeature speaks answered
      · rw [lastAnswer_takeUp_of_not sound found stage
          (fun all => speaks all.2.1)]
        exact last

/-- The confirmations after a no are those before of the connections that do not
speak. -/
theorem confirms_takeUp_no {tokenId name : String}
    (sound : state.Sound) (found : state.relays.get? req = some relay)
    (stage : relay.stage = .asking host)
    (isFeature : relay.feature? = some harness)
    (answered : answer? outcome = some false) :
    (state.takeUp req relay host outcome).Confirms tokenId name harness ↔
      ∃ conn, state.live.peer? tokenId = some (conn, name) ∧
        state.lastAnswer conn harness = some true ∧
        ¬ state.Speaks req relay conn harness := by
  constructor
  · rintro ⟨conn, peer, last⟩
    by_cases speaks : state.Speaks req relay conn harness
    · rw [lastAnswer_takeUp_of_speaks sound found isFeature speaks
        answered] at last
      cases last
    · rw [lastAnswer_takeUp_of_not sound found stage
        (fun all => speaks all.2.1)] at last
      exact ⟨conn, peer, last, speaks⟩
  · rintro ⟨conn, peer, last, speaks⟩
    refine ⟨conn, peer, ?_⟩
    rw [lastAnswer_takeUp_of_not sound found stage
      (fun all => speaks all.2.1)]
    exact last

theorem mirrors_takeUp_yes_iff
    (sound : state.Sound) (mirrors : state.Mirrors harness)
    (found : state.relays.get? req = some relay)
    (stage : relay.stage = .asking host)
    (isFeature : relay.feature? = some harness)
    (answered : answer? outcome = some true) :
    (state.takeUp req relay host outcome).Mirrors harness ↔
      state.YesInStep req relay host harness := by
  have listed (name : String) :
      name ∈ (state.takeUp req relay host outcome).hosts harness ↔
        (∃ tokenId, state.Confirms tokenId name harness) ∨
          host = some name := by
    rw [mem_hosts_takeUp, mirrors name]
    simp [answered, isFeature]
  unfold Mirrors YesInStep
  simp only [listed,
    confirms_takeUp_yes sound found stage isFeature answered]
  constructor
  · intro same
    constructor
    · intro name isHost
      exact (same name).mp (.inr isHost)
    · intro name gains
      exact ((same name).mpr (.inl gains)).symm
  · rintro ⟨recorded, gained⟩ name
    constructor
    · rintro (confirms | isHost)
      · exact .inr confirms
      · exact recorded name isHost
    · rintro (gains | confirms)
      · exact (gained name gains).symm
      · exact .inl confirms

theorem mirrors_takeUp_no_iff
    (sound : state.Sound) (mirrors : state.Mirrors harness)
    (found : state.relays.get? req = some relay)
    (stage : relay.stage = .asking host)
    (isFeature : relay.feature? = some harness)
    (answered : answer? outcome = some false) :
    (state.takeUp req relay host outcome).Mirrors harness ↔
      state.NoInStep req relay harness := by
  have listed (name : String) :
      name ∈ (state.takeUp req relay host outcome).hosts harness ↔
        ∃ tokenId, state.Confirms tokenId name harness := by
    rw [mem_hosts_takeUp, mirrors name]
    simp [answered]
  unfold Mirrors NoInStep
  simp only [listed,
    confirms_takeUp_no sound found stage isFeature answered]
  constructor
  · intro same tokenId conn name peer speaks last
    obtain ⟨other, conn', peer', last', silent⟩ :=
      (same name).mp ⟨tokenId, conn, peer, last⟩
    refine ⟨other, conn', ?_, peer', last'⟩
    rintro rfl
    exact silent speaks
  · intro backed name
    constructor
    · rintro ⟨tokenId, conn, peer, last⟩
      by_cases speaks : state.Speaks req relay conn harness
      · obtain ⟨other, conn', apart, peer', last'⟩ :=
          backed tokenId conn name peer speaks last
        refine ⟨other, conn', peer', last', ?_⟩
        intro speaks'
        -- only one connection was asked
        exact apart (Option.some.inj (speaks'.1.symm.trans speaks.1))
      · exact ⟨tokenId, conn, peer, last, speaks⟩
    · rintro ⟨tokenId, conn, peer, last, _⟩
      exact ⟨tokenId, conn, peer, last⟩

/-- An outcome that is no answer about the harness changes nothing. -/
theorem mirrors_takeUp_other
    (sound : state.Sound) (mirrors : state.Mirrors harness)
    (found : state.relays.get? req = some relay)
    (stage : relay.stage = .asking host)
    (other : relay.feature? ≠ some harness ∨ answer? outcome = none) :
    (state.takeUp req relay host outcome).Mirrors harness := by
  have silent (conn : ConnId) :
      ¬ (relay.feature? = some harness ∧
        state.Speaks req relay conn harness ∧
        (answer? outcome).isSome = true) := by
    rintro ⟨isFeature, _, answered⟩
    rcases other with notFeature | nothing
    · exact notFeature isFeature
    · rw [nothing] at answered
      cases answered
  intro name
  have unrecorded :
      ¬ (answer? outcome = some true ∧ relay.feature? = some harness ∧
        host = some name) := by
    rintro ⟨yes, isFeature, _⟩
    rcases other with notFeature | nothing
    · exact notFeature isFeature
    · rw [nothing] at yes
      cases yes
  rw [mem_hosts_takeUp, mirrors name, or_iff_left unrecorded]
  refine exists_congr fun tokenId => ?_
  have samePeer :
      (state.takeUp req relay host outcome).live.peer? tokenId =
        state.live.peer? tokenId := rfl
  refine (confirms_congr samePeer ?_).symm
  intro conn
  exact lastAnswer_takeUp_of_not sound found stage (silent conn)

/-- The step that takes up an outcome. -/
theorem inStep_record_iff
    (sound : state.Sound) (inStep : state.InStep)
    (stepped : state.step (.record req) = some next) :
    next.InStep ↔ state.Steady (.record req) := by
  obtain ⟨relay, request, host, outcome, found, foundRequest, stage, pc,
    rfl⟩ := step_record stepped
  constructor
  · intro after relay' host' request' outcome' harness found' stage'
      foundRequest' pc' isFeature known
    cases found.symm.trans found'
    cases stage.symm.trans stage'
    cases foundRequest.symm.trans foundRequest'
    cases pc.symm.trans pc'
    have mirrors := inStep harness known
    constructor
    · intro answered
      exact
        (mirrors_takeUp_yes_iff sound mirrors found stage isFeature
          answered).mp (after harness known)
    · intro answered
      exact
        (mirrors_takeUp_no_iff sound mirrors found stage isFeature
          answered).mp (after harness known)
  · intro steady harness known
    have mirrors := inStep harness known
    by_cases isFeature : relay.feature? = some harness
    · obtain ⟨yes, no⟩ :=
        steady relay host request outcome harness found stage foundRequest
          pc isFeature known
      rcases answered : answer? outcome with _ | _ | _
      · exact mirrors_takeUp_other sound mirrors found stage (.inr answered)
      · exact
          (mirrors_takeUp_no_iff sound mirrors found stage isFeature
            answered).mpr (no answered)
      · exact
          (mirrors_takeUp_yes_iff sound mirrors found stage isFeature
            answered).mpr (yes answered)
    · exact mirrors_takeUp_other sound mirrors found stage (.inl isFeature)

end Record

/-- A relay that was resolved or asked has no answer yet. -/
theorem inStep_put {req : ReqId} {relay : Relay} {live : Live}
    (inStep : state.InStep)
    (samePeers :
      ∀ tokenId, live.peer? tokenId = state.live.peer? tokenId)
    (silent :
      ∀ conn harness, relay.answerOf conn harness = none)
    (before :
      ∀ conn harness, state.answerTo conn harness req = none) :
    InStep
      { state with live, relays := state.relays.put req relay } := by
  have answers (conn : ConnId) (harness : String) :
      lastAnswer
          { state with live, relays := state.relays.put req relay } conn
          harness =
        state.lastAnswer conn harness := by
    rw [lastAnswer_eq, lastAnswer_eq]
    congr 1
    funext other
    by_cases same : other = req
    · rw [same, before]
      unfold answerTo
      simp only [FiniteMap.get?_put_self, Option.bind_some]
      exact silent conn harness
    · unfold answerTo
      simp only [FiniteMap.get?_put_of_ne _ _ same]
  have outside :
      Outside state
        { state with live, relays := state.relays.put req relay } :=
    ⟨fun _ => rfl, answers⟩
  exact outside.inStep inStep samePeers

/-- A step leaves the table in step exactly if it is steady. -/
theorem inStep_iff_steady {action : Action}
    (sound : state.Sound) (inStep : state.InStep)
    (stepped : state.step action = some next) :
    next.InStep ↔ state.Steady action := by
  cases action with
  | wire action => exact inStep_wire_iff sound inStep stepped
  | record req => exact inStep_record_iff sound inStep stepped
  | resolveTarget req id tokenId cmd args =>
      obtain ⟨absent, rfl⟩ := step_resolveTarget stepped
      refine iff_of_true (inStep_put inStep ?_ ?_ ?_) trivial
      · exact fun _ => rfl
      · exact fun _ _ => rfl
      · intro conn harness
        unfold answerTo
        rw [absent]
        rfl
  | ask req queryId =>
      obtain ⟨relay, live, found, stage, lived, rfl⟩ := step_ask stepped
      refine iff_of_true (inStep_put inStep ?_ ?_ ?_) trivial
      · exact peer?_untouched rfl lived
      · exact fun conn harness => answerOf_asking conn harness rfl
      · intro conn harness
        unfold answerTo
        rw [found, Option.bind_some]
        unfold Relay.answerOf
        rw [stage]

theorem inStep_init : InStep machine.init := by
  intro harness known host
  constructor
  · intro member
    cases member
  · rintro ⟨tokenId, conn, peer, _⟩
    cases peer

/-- In a run of the server, the answers to `support` and the capabilities in `caps`
report in every state what the registered connections have confirmed, exactly if
every step is steady. -/
theorem confirmation_live_iff_steady
    (actions : List Action)
    (enabled : (machine.run machine.init actions).isSome = true) :
    (∀ done target, done <+: actions →
      machine.run machine.init done = some target →
      target.ConfirmationLive) ↔
      machine.Along Steady machine.init actions := by
  simp only [confirmationLive_iff]
  rw [machine.prefixes_iff_along_next inStep_init enabled]
  refine
    @Machine.along_congr _ _ machine _ _
      (fun state => state.Sound ∧ state.InStep) ?_ ?_ _ _
      ⟨sound_init, inStep_init⟩ enabled
  · intro state action next holds steady stepped
    exact
      ⟨holds.1.step stepped,
        (inStep_iff_steady holds.1 holds.2 stepped).mpr steady⟩
  · intro state action next holds stepped
    rw [← inStep_iff_steady holds.1 holds.2 stepped]
    constructor
    · intro led
      exact led next stepped
    · intro after next' stepped'
      cases stepped.symm.trans stepped'
      exact after

/-- A client says that it supports the harness. -/
def yesFrame : Envelope :=
  { serverEnvelope .queryOk "q" ""
      (.queryOk
        { cmd := "support", rest := jsonObject [("ok", .bool true)] })
    with sender := "client" }

/-- A client connects and a relayed query finds out that it supports a harness. -/
def confirmingRun : List Action :=
  [.wire (.auth 0 "t" "client" "kiwi"), .wire (.register 0),
    .wire (.hello 0 true),
    .resolveTarget 0 "kiwi" "t" "support" ["opencode"], .ask 0 "q",
    .wire (.lookup 0), .wire (.enroll 0), .wire (.send 0 ""),
    .wire (.outgoing 0 true), .wire (.frame 0 yesFrame),
    .wire (.resolve 0), .wire (.recv 0), .record 0]

/-- The state in which the answer is about to be recorded. -/
def answered : Relays :=
  (machine.run machine.init (confirmingRun.take 12)).getD machine.init

theorem peer_answered {tokenId : String} {peer : ConnId × String}
    (found : answered.live.peer? tokenId = some peer) :
    peer = (0, "kiwi") := by
  obtain ⟨entry, stored, isPeer⟩ := Option.map_eq_some_iff.mp found
  have tokens :
      answered.live.registry.entries.pairs.map Prod.fst = ["t"] := rfl
  have member :
      tokenId ∈ answered.live.registry.entries.pairs.map Prod.fst :=
    List.mem_map_of_mem (FiniteMap.mem_pairs.mpr stored)
  rw [tokens] at member
  cases List.mem_singleton.mp member
  exact (Option.some.inj found).symm

/-- The answer is recorded while its connection is registered. -/
theorem steady_answered : answered.Steady (.record 0) := by
  intro relay host request outcome harness found stage foundRequest pc
    isFeature _
  cases found
  cases stage
  cases foundRequest
  cases pc
  cases isFeature
  constructor
  · intro _
    constructor
    · intro name isHost
      cases isHost
      exact .inl ⟨"t", 0, rfl, rfl, rfl, rfl⟩
    · rintro name ⟨tokenId, conn, peer, _⟩
      cases peer_answered peer
      exact .inl rfl
  · intro no
    cases no

theorem confirmation_live_iff_steady_confirmingRun :
    (machine.run machine.init confirmingRun).isSome = true ∧
      ∀ done target, done <+: confirmingRun →
        machine.run machine.init done = some target →
        target.ConfirmationLive := by
  have enabled : (machine.run machine.init confirmingRun).isSome = true :=
    rfl
  have before :
      machine.Along Steady machine.init (confirmingRun.take 12) := by
    refine machine.along_cons rfl trivial ?_
    refine machine.along_cons rfl ?_ ?_
    · rintro conn _ harness _ host ⟨_, peer, _⟩
      cases peer
    refine machine.along_cons rfl trivial ?_
    refine machine.along_cons rfl trivial ?_
    refine machine.along_cons rfl trivial ?_
    refine machine.along_cons rfl trivial ?_
    refine machine.along_cons rfl trivial ?_
    refine machine.along_cons rfl trivial ?_
    refine machine.along_cons rfl trivial ?_
    refine machine.along_cons rfl trivial ?_
    refine machine.along_cons rfl ?_ ?_
    · intro conn hostname todo found phase
      cases found
      cases phase
    exact machine.along_cons rfl trivial trivial
  have last : machine.Along Steady answered [.record 0] :=
    ⟨steady_answered, fun _ _ => trivial⟩
  exact
    ⟨enabled, (confirmation_live_iff_steady _ enabled).mpr
      (machine.along_append rfl before last)⟩

/-- Then it disconnects. -/
def leavingRun : List Action :=
  confirmingRun ++ [.wire (.stop 0 true), .wire (.teardown 0)]

/-- The table keeps the confirmation of a client that is gone. -/
theorem confirmation_outlives_client :
    ∃ target, machine.run machine.init leavingRun = some target ∧
      ¬ target.ConfirmationLive := by
  refine ⟨_, rfl, ?_⟩
  rw [confirmationLive_iff]
  intro inStep
  have mirrors := inStep "opencode" (by decide)
  obtain ⟨tokenId, conn, peer, _⟩ := (mirrors "kiwi").mp (by decide)
  cases peer

end HollerServer.Server.Relays
