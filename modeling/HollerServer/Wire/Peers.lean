import HollerServer.Wire.Pairing

/-!
# The hostname of each registered connection

`peer?` is the connection registered for a token together with the hostname in
its entry.  A registration, a teardown and a revoke change it, and so does a
`hello` frame of any connection of the token.
-/

namespace HollerServer.Wire

open HollerServer.Proto

namespace Entry

@[simp]
theorem hostname_forget (entry : Entry) (kind : Kind) (id : String) :
    (entry.forget kind id).hostname = entry.hostname := by
  cases kind <;> rfl

@[simp]
theorem hostname_enroll
    (entry : Entry) (call : Call) (id : String) (tx : ReqId) (now : Nat) :
    (entry.enroll call id tx now).hostname = entry.hostname := by
  cases call <;> rfl

/-- The connection of an entry and its hostname. -/
def peer (entry : Entry) : ConnId × String :=
  (entry.outTx, entry.hostname)

@[simp]
theorem peer_forget (entry : Entry) (kind : Kind) (id : String) :
    (entry.forget kind id).peer = entry.peer := by
  simp [peer]

@[simp]
theorem peer_enroll
    (entry : Entry) (call : Call) (id : String) (tx : ReqId) (now : Nat) :
    (entry.enroll call id tx now).peer = entry.peer := by
  simp [peer]

end Entry

namespace Registry

/-- The connection registered for a token and its hostname. -/
def peer? (registry : Registry) (tokenId : String) :
    Option (ConnId × String) :=
  (registry.get? tokenId).map Entry.peer

theorem peer?_setEntry
    (registry : Registry) (tokenId other : String) (entry : Entry) :
    (registry.setEntry tokenId entry).peer? other =
      if other = tokenId then some entry.peer
      else registry.peer? other := by
  unfold peer?
  rw [get?_setEntry]
  split <;> rfl

theorem peer?_remove (registry : Registry) (tokenId other : String) :
    (registry.remove tokenId).1.peer? other =
      if other = tokenId then none else registry.peer? other := by
  unfold peer?
  rw [get?_remove]
  split <;> rfl

theorem peer?_setHostname
    (registry : Registry) (tokenId hostname other : String) :
    (registry.setHostname tokenId hostname).peer? other =
      if other = tokenId then
        (registry.peer? tokenId).map fun peer => (peer.1, hostname)
      else registry.peer? other := by
  unfold peer?
  rw [get?_setHostname]
  split
  · rw [Option.map_map, Option.map_map]
    rfl
  · rfl

theorem peer?_setEntry_same
    {registry : Registry} {tokenId : String} {entry entry' : Entry}
    (present : registry.get? tokenId = some entry)
    (samePeer : entry'.peer = entry.peer) (other : String) :
    (registry.setEntry tokenId entry').peer? other =
      registry.peer? other := by
  rw [peer?_setEntry]
  split
  next same =>
    unfold peer?
    rw [same, present, samePeer]
    rfl
  next => rfl

theorem peer?_resolveOnce
    (registry : Registry) (kind : Kind) (tokenId id : String)
    (event : Event) (other : String) :
    (registry.resolveOnce kind tokenId id event).1.peer? other =
      registry.peer? other := by
  unfold resolveOnce
  split
  next => rfl
  next entry present =>
    split
    next => rfl
    next =>
      exact
        peer?_setEntry_same present (Entry.peer_forget entry kind id) other

theorem peer?_forgetSlot
    (registry : Registry) (kind : Kind) (tokenId id other : String) :
    (registry.forgetSlot kind tokenId id).1.peer? other =
      registry.peer? other := by
  unfold forgetSlot
  split
  next => rfl
  next entry present =>
    exact
      peer?_setEntry_same present (Entry.peer_forget entry kind id) other

/-- Of the calls of `handle_frame` only the one for a `hello` changes a
hostname. -/
theorem peer?_perform
    (registry : Registry) (tokenId : String) (now : Nat)
    (resolution : Resolution) (other : String) :
    (registry.perform tokenId now resolution).1.peer? other =
        registry.peer? other ∨
      ∃ hostname, resolution = .setHostname hostname ∧
        other = tokenId ∧
        (registry.perform tokenId now resolution).1.peer? other =
          (registry.peer? tokenId).map fun peer =>
            (peer.1, hostname) := by
  cases resolution with
  | setHostname hostname =>
      have changed := registry.peer?_setHostname tokenId hostname other
      split at changed
      next same => exact .inr ⟨hostname, rfl, same, changed⟩
      next => exact .inl changed
  | pong replyTo =>
      refine .inl ?_
      simp only [perform, resolvePong]
      split
      next => rfl
      next => exact registry.peer?_resolveOnce _ _ _ _ other
  | reply replyTo body => exact .inl rfl
  | promptErr replyTo body => exact .inl rfl
  | queryOk replyTo body =>
      exact .inl (registry.peer?_resolveOnce _ _ _ _ other)
  | queryErr replyTo body =>
      exact .inl (registry.peer?_resolveOnce _ _ _ _ other)
  | answerErr replyTo body =>
      exact .inl (registry.peer?_resolveOnce _ _ _ _ other)
  | interruptAck ofId =>
      exact .inl (registry.peer?_resolveOnce _ _ _ _ other)
  | answerAck ofId =>
      exact .inl (registry.peer?_resolveOnce _ _ _ _ other)

end Registry

namespace Live

variable {live next : Live}

/-- The connection registered for a token and its hostname. -/
def peer? (live : Live) (tokenId : String) : Option (ConnId × String) :=
  live.registry.peer? tokenId

theorem peer?_removeEntry (live : Live) (tokenId other : String) :
    (live.removeEntry tokenId).peer? other =
      if other = tokenId then none else live.peer? other :=
  live.registry.peer?_remove tokenId other

theorem peer?_register
    (live : Live) (id : ConnId) (conn : Conn) (other : String) :
    (live.register id conn).peer? other =
      if other = conn.tokenId then some (id, conn.machine)
      else live.peer? other := by
  unfold peer?
  rw [registry_register]
  exact live.registry.peer?_setEntry conn.tokenId other _

/-- How the connection and the hostname of a token can change in one action. -/
inductive PeerChange
    (live next : Live) (tokenId : String) : Action → Prop
  | same {action : Action}
      (same : next.peer? tokenId = live.peer? tokenId) :
      PeerChange live next tokenId action
  | registered {id : ConnId} {conn : Conn}
      (found : live.conns.get? id = some conn)
      (token : conn.tokenId = tokenId)
      (verified : conn.phase = .verified)
      (now : next.peer? tokenId = some (id, conn.machine)) :
      PeerChange live next tokenId (.register id)
  | tornDown {id : ConnId} {conn : Conn}
      (found : live.conns.get? id = some conn)
      (token : conn.tokenId = tokenId)
      (now : next.peer? tokenId = none) :
      PeerChange live next tokenId (.teardown id)
  | revoked (now : next.peer? tokenId = none) :
      PeerChange live next tokenId (.revoke tokenId)
  | renamed {id : ConnId} {conn : Conn} {hostname : String}
      {todo : List Resolution}
      (found : live.conns.get? id = some conn)
      (token : conn.tokenId = tokenId)
      (phase : conn.phase = .session (.setHostname hostname :: todo))
      (now :
        next.peer? tokenId =
          (live.peer? tokenId).map fun peer => (peer.1, hostname)) :
      PeerChange live next tokenId (.resolve id)

/-- Besides the actions that change the owner of a token, only a `hello` frame
changes its connection and hostname. -/
theorem peerChange_step
    {action : Action} (stepped : live.step action = some next)
    (tokenId : String) :
    PeerChange live next tokenId action := by
  cases registryChange_step stepped with
  | same same =>
      refine .same ?_
      unfold peer?
      rw [same]
  | @registered id conn found verified now =>
      have peer := live.peer?_register id conn tokenId
      have samePeer :
          next.peer? tokenId = (live.register id conn).peer? tokenId := by
        unfold peer?
        rw [now, registry_register]
      by_cases token : tokenId = conn.tokenId
      · rw [if_pos token] at peer
        exact .registered found token.symm verified (samePeer.trans peer)
      · rw [if_neg token] at peer
        exact .same (samePeer.trans peer)
  | @performed id conn resolution todo found phase now =>
      rcases live.registry.peer?_perform conn.tokenId live.now resolution
          tokenId with same | ⟨hostname, rfl, token, renamed⟩
      · refine .same ?_
        unfold peer?
        rw [now]
        exact same
      · subst token
        refine .renamed found rfl phase ?_
        unfold peer?
        rw [now]
        exact renamed
  | @tornDown id conn found now =>
      have peer : next.peer? tokenId = _ :=
        (congrArg (·.peer? tokenId) now).trans
          (live.registry.peer?_remove conn.tokenId tokenId)
      by_cases token : tokenId = conn.tokenId
      · exact .tornDown found token.symm (peer.trans (if_pos token))
      · exact .same (peer.trans (if_neg token))
  | @revoked revokedId now =>
      have peer : next.peer? tokenId = _ :=
        (congrArg (·.peer? tokenId) now).trans
          (live.registry.peer?_remove revokedId tokenId)
      by_cases token : tokenId = revokedId
      · subst token
        exact .revoked (peer.trans (if_pos rfl))
      · exact .same (peer.trans (if_neg token))
  | @enrolled id req entry found present now =>
      refine .same ?_
      unfold peer?
      rw [now]
      exact
        Registry.peer?_setEntry_same present
          (Entry.peer_enroll entry req.call req.id id live.now) tokenId
  | forgotten found now =>
      refine .same ?_
      unfold peer?
      rw [now]
      exact live.registry.peer?_forgetSlot _ _ _ tokenId

/-- The connection is past its registration. -/
def Started (live : Live) (id : ConnId) : Prop :=
  ∃ conn, live.conns.get? id = some conn ∧ conn.phase ≠ .verified

/-- A call holds sender halves of started connections only. -/
def Held (live : Live) : Prop :=
  ∀ tx req id, live.reqs.get? tx = some req →
    req.pc.outTx? = some id → live.Started id

theorem Held.step
    (held : live.Held) (settled : live.Settled) (coherent : live.Coherent)
    {action : Action} (stepped : live.step action = some next) :
    next.Held := by
  intro tx req' id found holds
  cases request_step coherent stepped found with
  | created _ fresh =>
      subst fresh
      cases holds
  | @moved _ req moved _ foundReq _ moves delivered =>
      subst delivered
      refine settled_conn_step stepped ?_
      cases moves with
      | stay other => exact held tx req id foundReq holds
      | absent before => cases holds
      | lookup pc present =>
          cases holds
          exact
            settled.owner req.tokenId _
              (Registry.owner?_eq_some.mpr ⟨_, present, rfl⟩)
      | enroll pc present =>
          refine held tx req id foundReq ?_
          rw [pc]
          exact holds
      | send pc found receiving =>
          refine held tx req id foundReq ?_
          rw [pc]
          exact holds
      | sendFailed pc found gone =>
          refine held tx req id foundReq ?_
          rw [pc]
          exact holds
      | event waiting ready handled =>
          refine held tx req id foundReq ?_
          rw [waiting, ← outTx_of_onEvent handled holds]
          rfl
      | ended waiting ended =>
          refine held tx req id foundReq ?_
          rw [waiting, ← outTx_of_onEnded holds]
          rfl
      | timeout waiting =>
          refine held tx req id foundReq ?_
          rw [waiting, ← outTx_of_onTimeout holds]
          rfl
      | forget pc => cases holds
      | lookAgain pc =>
          refine held tx req id foundReq ?_
          rw [pc]
          exact holds
      | check pc checked => cases holds
      | cancel pc => cases holds

end Live

end HollerServer.Wire
