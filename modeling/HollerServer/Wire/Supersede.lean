import HollerServer.Wire.Consistency

/-!
# Who is registered for a token

`owner?` is the connection whose entry is registered for a token.  Only three
actions change it: a registration and a teardown by a connection of that token,
and a revoke of the token.  The teardown does not ask whose entry it removes, so
an entry survives exactly the runs in which no connection tears down after it
has been superseded.
-/

namespace HollerServer.Wire

open HollerServer.Proto

namespace Registry

/-- The connection whose entry is registered for a token. -/
def owner? (registry : Registry) (tokenId : String) : Option ConnId :=
  (registry.get? tokenId).map Entry.outTx

theorem owner?_eq_some
    {registry : Registry} {tokenId : String} {id : ConnId} :
    registry.owner? tokenId = some id ↔
      ∃ entry, registry.get? tokenId = some entry ∧
        entry.outTx = id := by
  unfold owner?
  rw [Option.map_eq_some_iff]

theorem owner?_setEntry
    (registry : Registry) (tokenId other : String) (entry : Entry) :
    (registry.setEntry tokenId entry).owner? other =
      if other = tokenId then some entry.outTx
      else registry.owner? other := by
  unfold owner?
  rw [get?_setEntry]
  split <;> rfl

theorem owner?_remove (registry : Registry) (tokenId other : String) :
    (registry.remove tokenId).1.owner? other =
      if other = tokenId then none else registry.owner? other := by
  unfold owner?
  rw [get?_remove]
  split <;> rfl

/-- Writing an entry back does not change who is registered. -/
theorem owner?_setEntry_same
    {registry : Registry} {tokenId : String} {entry entry' : Entry}
    (present : registry.get? tokenId = some entry)
    (sameOwner : entry'.outTx = entry.outTx) (other : String) :
    (registry.setEntry tokenId entry').owner? other =
      registry.owner? other := by
  rw [owner?_setEntry]
  split
  next same =>
    rw [same, sameOwner]
    exact (owner?_eq_some.mpr ⟨entry, present, rfl⟩).symm
  next => rfl

theorem owner?_setHostname
    (registry : Registry) (tokenId hostname other : String) :
    (registry.setHostname tokenId hostname).owner? other =
      registry.owner? other := by
  unfold owner?
  rw [get?_setHostname]
  split
  next same =>
    rw [same, Option.map_map]
    rfl
  next => rfl

theorem owner?_resolveOnce
    (registry : Registry) (kind : Kind) (tokenId id : String)
    (event : Event) (other : String) :
    (registry.resolveOnce kind tokenId id event).1.owner? other =
      registry.owner? other := by
  unfold resolveOnce
  split
  next => rfl
  next entry present =>
    split
    next => rfl
    next =>
      exact
        owner?_setEntry_same present
          (Entry.outTx_forget entry kind id) other

theorem owner?_forgetSlot
    (registry : Registry) (kind : Kind) (tokenId id other : String) :
    (registry.forgetSlot kind tokenId id).1.owner? other =
      registry.owner? other := by
  unfold forgetSlot
  split
  next => rfl
  next entry present =>
    exact
      owner?_setEntry_same present (Entry.outTx_forget entry kind id) other

/-- No call of `handle_frame` changes who is registered. -/
theorem owner?_perform
    (registry : Registry) (tokenId : String) (now : Nat)
    (resolution : Resolution) (other : String) :
    (registry.perform tokenId now resolution).1.owner? other =
      registry.owner? other := by
  cases resolution with
  | setHostname hostname =>
      exact registry.owner?_setHostname tokenId hostname other
  | pong replyTo =>
      simp only [perform, resolvePong]
      split
      next => rfl
      next => exact registry.owner?_resolveOnce _ _ _ _ other
  | reply replyTo body => rfl
  | promptErr replyTo body => rfl
  | queryOk replyTo body =>
      exact registry.owner?_resolveOnce _ _ _ _ other
  | queryErr replyTo body =>
      exact registry.owner?_resolveOnce _ _ _ _ other
  | answerErr replyTo body =>
      exact registry.owner?_resolveOnce _ _ _ _ other
  | interruptAck ofId =>
      exact registry.owner?_resolveOnce _ _ _ _ other
  | answerAck ofId =>
      exact registry.owner?_resolveOnce _ _ _ _ other

end Registry

namespace Live

variable {live next : Live}

/-- The connection registered for a token. -/
def owner? (live : Live) (tokenId : String) : Option ConnId :=
  live.registry.owner? tokenId

/-- A registered connection has a sender half of its outbound channel left. -/
theorem hasSender_of_owner?
    {tokenId : String} {id : ConnId}
    (owned : live.owner? tokenId = some id) :
    live.hasSender id = true := by
  obtain ⟨entry, stored, sameOwner⟩ := Registry.owner?_eq_some.mp owned
  have member : entry ∈ live.registry.entries.values :=
    FiniteMap.mem_values.mpr ⟨tokenId, stored⟩
  have found :
      (live.registry.entries.values.any fun entry =>
        entry.outTx = id) = true :=
    List.any_eq_true.mpr ⟨entry, member, by simpa using sameOwner⟩
  unfold hasSender
  rw [found, Bool.true_or]

theorem owner?_removeEntry (live : Live) (tokenId other : String) :
    (live.removeEntry tokenId).owner? other =
      if other = tokenId then none else live.owner? other :=
  live.registry.owner?_remove tokenId other

theorem owner?_register
    (live : Live) (id : ConnId) (conn : Conn) (other : String) :
    (live.register id conn).owner? other =
      if other = conn.tokenId then some id else live.owner? other := by
  unfold owner?
  rw [registry_register]
  exact live.registry.owner?_setEntry conn.tokenId other _

/-- How the owner of a token can change in one action. -/
inductive OwnerChange
    (live next : Live) (tokenId : String) : Action → Prop
  | same {action : Action}
      (same : next.owner? tokenId = live.owner? tokenId) :
      OwnerChange live next tokenId action
  | registered {id : ConnId} {conn : Conn}
      (found : live.conns.get? id = some conn)
      (token : conn.tokenId = tokenId)
      (verified : conn.phase = .verified)
      (now : next.owner? tokenId = some id) :
      OwnerChange live next tokenId (.register id)
  | tornDown {id : ConnId} {conn : Conn}
      (found : live.conns.get? id = some conn)
      (token : conn.tokenId = tokenId)
      (now : next.owner? tokenId = none) :
      OwnerChange live next tokenId (.teardown id)
  | revoked (now : next.owner? tokenId = none) :
      OwnerChange live next tokenId (.revoke tokenId)

/-- Only a registration or a teardown of a connection of the token, or a revoke
of the token, changes its owner. -/
theorem ownerChange_step
    {action : Action} (stepped : live.step action = some next)
    (tokenId : String) :
    OwnerChange live next tokenId action := by
  cases registryChange_step stepped with
  | same same =>
      refine .same ?_
      unfold owner?
      rw [same]
  | @registered id conn found verified now =>
      have owner := live.owner?_register id conn tokenId
      have sameOwner :
          next.owner? tokenId = (live.register id conn).owner? tokenId := by
        unfold owner?
        rw [now, registry_register]
      by_cases token : tokenId = conn.tokenId
      · rw [if_pos token] at owner
        exact
          .registered found token.symm verified (sameOwner.trans owner)
      · rw [if_neg token] at owner
        exact .same (sameOwner.trans owner)
  | @performed id conn resolution todo found phase now =>
      refine .same ?_
      unfold owner?
      rw [now]
      exact
        live.registry.owner?_perform conn.tokenId live.now resolution
          tokenId
  | @tornDown id conn found now =>
      have owner : next.owner? tokenId = _ :=
        (congrArg (·.owner? tokenId) now).trans
          (live.registry.owner?_remove conn.tokenId tokenId)
      by_cases token : tokenId = conn.tokenId
      · exact .tornDown found token.symm (owner.trans (if_pos token))
      · exact .same (owner.trans (if_neg token))
  | @revoked revokedId now =>
      have owner : next.owner? tokenId = _ :=
        (congrArg (·.owner? tokenId) now).trans
          (live.registry.owner?_remove revokedId tokenId)
      by_cases token : tokenId = revokedId
      · subst token
        exact .revoked (owner.trans (if_pos rfl))
      · exact .same (owner.trans (if_neg token))
  | @enrolled id req entry found present now =>
      refine .same ?_
      unfold owner?
      rw [now]
      exact
        Registry.owner?_setEntry_same present
          (Entry.outTx_enroll entry req.call req.id id live.now) tokenId
  | forgotten found now =>
      refine .same ?_
      unfold owner?
      rw [now]
      exact live.registry.owner?_forgetSlot _ _ _ tokenId

/-- The action may rightly end the registration of connection `id` for the
token: its own teardown, a later registration for the token, or a revoke. -/
def Ends (id : ConnId) (tokenId : String) (live : Live) : Action → Prop
  | .teardown other => other = id
  | .register other =>
      ∃ conn, live.conns.get? other = some conn ∧ conn.tokenId = tokenId
  | .revoke other => other = tokenId
  | _ => False

/-- If the action is a teardown by a connection of the token, that connection is
the registered one: it has not been superseded. -/
def OwnTeardown (tokenId : String) (live : Live) : Action → Prop
  | .teardown other =>
      ∀ conn, live.conns.get? other = some conn →
        conn.tokenId = tokenId → live.owner? tokenId = some other
  | _ => True

/-- The owner of a token stays through a step that does not rightly end its
registration, unless a superseded connection tears down. -/
theorem owner?_step
    {id : ConnId} {tokenId : String} {action : Action}
    (owned : live.owner? tokenId = some id)
    (unended : ¬ Ends id tokenId live action)
    (own : OwnTeardown tokenId live action)
    (stepped : live.step action = some next) :
    next.owner? tokenId = some id := by
  cases ownerChange_step stepped tokenId with
  | same same => exact same.trans owned
  | registered found token _ _ =>
      exact absurd ⟨_, found, token⟩ unended
  | tornDown found token _ =>
      have self := (own _ found token).symm.trans owned
      exact absurd (Option.some.inj self) unended
  | revoked _ => exact absurd rfl unended

/-- A superseded connection that tears down takes the entry of its successor
with it. -/
theorem ownTeardown_of_owner?_step
    {id : ConnId} {tokenId : String} {action : Action}
    (stepped : live.step action = some next)
    (kept : next.owner? tokenId = some id) :
    OwnTeardown tokenId live action := by
  cases action with
  | teardown other =>
      intro conn found token
      obtain ⟨conn', certainClose, found', _, rfl⟩ :=
        step_teardown stepped
      have same : conn' = conn :=
        Option.some.inj (found'.symm.trans found)
      subst same
      have gone :
          ((live.removeEntry conn'.tokenId).setConn other
            { conn' with phase := .removed certainClose }).owner?
              tokenId = none :=
        (live.owner?_removeEntry _ _).trans (if_pos token.symm)
      rw [gone] at kept
      cases kept
  | _ => trivial

/-- Follow a run from the registration of connection `id` whose steps do not
rightly end that registration.  The entry registered for the token is the
connection's own, and its outbound channel has a sender, in every state the run
passes, exactly if no connection of the token tears down after it has been
superseded. -/
theorem registered_throughout_iff
    {start : Live} {id : ConnId} {conn : Conn} {actions : List Action}
    (known : start.conns.get? id = some conn)
    (registered : start.step (.register id) = some live)
    (enabled : (machine.run live actions).isSome = true)
    (unended :
      machine.Along
        (fun state action => ¬ Ends id conn.tokenId state action)
        live actions) :
    (∀ done target, done <+: actions →
      machine.run live done = some target →
      target.owner? conn.tokenId = some id ∧
        target.hasSender id = true) ↔
      machine.Along (OwnTeardown conn.tokenId) live actions := by
  have owned : live.owner? conn.tokenId = some id := by
    obtain ⟨conn', known', _, rfl⟩ := step_register registered
    have same : conn' = conn :=
      Option.some.inj (known'.symm.trans known)
    subst same
    rw [owner?_register, if_pos rfl]
  rw [← machine.prefixes_iff_along
    (fun _ _ _ owned unended own stepped =>
      owner?_step owned unended own stepped)
    (fun _ _ _ _ _ stepped kept =>
      ownTeardown_of_owner?_step stepped kept)
    owned enabled unended]
  constructor
  · intro everywhere done target isPrefix reached
    exact (everywhere done target isPrefix reached).1
  · intro everywhere done target isPrefix reached
    have kept := everywhere done target isPrefix reached
    exact ⟨kept, hasSender_of_owner? kept⟩

/-- Connection 0 registers and greets, connection 1 authenticates for the same
token. -/
def reconnectRun : List Action :=
  [.auth 0 "t" "client" "host", .register 0, .hello 0 true,
    .auth 1 "t" "client" "host"]

/-- Connection 0 writes the notice, finds its channel closed and tears down,
while connection 1 starts its session. -/
def supersededTeardownRun : List Action :=
  [.hello 1 true, .outgoing 0 true, .outClosed 0, .teardown 0]

/-- Up to its teardown the superseded connection does no harm. -/
theorem registered_throughout_iff_reconnectRun :
    (after reconnectRun).step (.register 1) =
        some (after (reconnectRun ++ [.register 1])) ∧
      ∀ done target, done <+: supersededTeardownRun.take 3 →
        machine.run (after (reconnectRun ++ [.register 1])) done =
          some target →
        target.owner? "t" = some 1 ∧ target.hasSender 1 = true := by
  have known :
      (after reconnectRun).conns.get? 1 =
        some ⟨"t", "client", "host", .verified, [], [], 0⟩ := rfl
  have registered :
      (after reconnectRun).step (.register 1) =
        some (after (reconnectRun ++ [.register 1])) := rfl
  refine
    ⟨registered,
      (registered_throughout_iff known registered rfl ?_).mpr ?_⟩
  · exact
      ⟨id, fun _ _ => ⟨id, fun _ _ => ⟨id, fun _ _ => trivial⟩⟩⟩
  · exact
      ⟨trivial, fun _ _ =>
        ⟨trivial, fun _ _ => ⟨trivial, fun _ _ => trivial⟩⟩⟩

/-- The successor loses its entry and its outbound channel to the teardown of
the connection it superseded. -/
theorem supersededTeardownRun_removes_successor :
    ∃ live target,
      machine.run machine.init (reconnectRun ++ [.register 1]) =
        some live ∧
      live.owner? "t" = some 1 ∧
      machine.Along (fun state action => ¬ Ends 1 "t" state action)
        live supersededTeardownRun ∧
      machine.run live supersededTeardownRun = some target ∧
      target.owner? "t" = none ∧
      target.hasSender 1 = false ∧
      (target.step (.outClosed 1)).isSome = true := by
  refine ⟨_, _, rfl, rfl, ?_, rfl, rfl, rfl, rfl⟩
  exact
    ⟨id, fun _ _ => ⟨id, fun _ _ => ⟨id, fun _ _ =>
      ⟨Nat.zero_ne_one, fun _ _ => trivial⟩⟩⟩⟩

end Live

end HollerServer.Wire
