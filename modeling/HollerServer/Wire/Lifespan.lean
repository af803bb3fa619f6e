import HollerServer.Lib.Permits
import HollerServer.Wire.Connection
import HollerServer.Wire.Peers

/-!
# An entry lives no longer than its connection

Whatever the order of registrations, teardowns, revokes and requests, a registered
entry belongs to a connection of its token that has registered and not torn down.
So the registry never holds more entries than there are such connections, and none
once all connection tasks are through their teardown.
-/

namespace HollerServer.Wire

open HollerServer.Proto
open Transition

/-- The task has registered and not removed its entry. -/
def Conn.serving (conn : Conn) : Bool :=
  match conn.phase with
  | .greeting | .session _ | .closing _ => true
  | .verified | .removed _ | .returned => false

namespace Live

variable {live next : Live} {action : Action} {id : ConnId} {conn : Conn}

/-- Each registered entry is the one of a serving connection of its token. -/
def Served (live : Live) : Prop :=
  ∀ tokenId id, live.owner? tokenId = some id →
    ∃ conn, live.conns.get? id = some conn ∧ conn.tokenId = tokenId ∧
      conn.serving = true

/-- A task goes on serving until its teardown. -/
theorem ConnMoves.serving
    {moved : Conn} (serves : conn.serving = true)
    (moves : ConnMoves live id conn action moved) :
    action = .teardown id ∨ moved.serving = true := by
  cases moves with
  | stay => exact Or.inr serves
  | notified receiving => exact Or.inr serves
  | registered phase anonymous => exact Or.inr rfl
  | @greeted written phase => cases written <;> exact Or.inr rfl
  | framed phase => exact Or.inr rfl
  | resolved phase => exact Or.inr rfl
  | @wrote written phase => cases written <;> exact Or.inr rfl
  | closing phase ends => exact Or.inr rfl
  | tornDown phase => exact Or.inl rfl
  | finished phase =>
      unfold Conn.serving at serves
      rw [phase] at serves
      cases serves
  | queued found pc receiving => exact Or.inr serves

/-- The teardown of a connection leaves no entry for its token. -/
theorem owner?_teardown
    (found : live.conns.get? id = some conn)
    (stepped : live.step (.teardown id) = some next) :
    next.owner? conn.tokenId = none := by
  obtain ⟨conn', certainClose, found', _, rfl⟩ := step_teardown stepped
  cases found'.symm.trans found
  have removed := live.owner?_removeEntry conn.tokenId conn.tokenId
  rw [if_pos rfl] at removed
  exact removed

theorem Served.step
    (served : live.Served) (stepped : live.step action = some next) :
    next.Served := by
  intro tokenId id owned
  cases ownerChange_step stepped tokenId with
  | same same =>
      obtain ⟨conn, found, token, serves⟩ :=
        served tokenId id (same.symm.trans owned)
      obtain ⟨conn', found', follows⟩ := conn_follows_step stepped found
      refine ⟨conn', found', follows.token.trans token, ?_⟩
      cases connection_step stepped found' with
      | accepted absent _ =>
          rw [found] at absent
          cases absent
      | @moved _ origin foundOrigin moves =>
          cases foundOrigin.symm.trans found
          rcases moves.serving serves with isTeardown | still
          · subst isTeardown
            have none_ := owner?_teardown found stepped
            rw [token, owned] at none_
            cases none_
          · exact still
  | @registered registrant conn found token verified now =>
      cases now.symm.trans owned
      obtain ⟨conn', found', follows⟩ := conn_follows_step stepped found
      refine ⟨conn', found', follows.token.trans token, ?_⟩
      obtain ⟨_, _, _, rfl⟩ := step_register stepped
      unfold Conn.serving
      rw [phase_register found']
  | tornDown _ _ now => cases now.symm.trans owned
  | revoked now => cases now.symm.trans owned

theorem served_of_reachable (reachable : machine.Reachable live) :
    live.Served := by
  refine reachable.invariant Served ?_ ?_
  · intro tokenId id owned
    cases owned
  · intro live action next served stepped
    exact served.step stepped

/-- An entry lives no longer than its connection.  In every reachable state each
registered entry belongs to a connection of its token that has registered and not
torn down; there are no more entries than such connections; and once every
connection task is through its teardown, the registry is empty. -/
theorem entries_live_no_longer_than_connections
    (reachable : machine.Reachable live) :
    (∀ tokenId entry, live.registry.get? tokenId = some entry →
      ∃ conn, live.conns.get? entry.outTx = some conn ∧
        conn.tokenId = tokenId ∧ conn.serving = true) ∧
      live.registry.len ≤ live.conns.countWhere Conn.serving ∧
      ((∀ id conn, live.conns.get? id = some conn →
          conn.serving = false) →
        live.registry.len = 0) := by
  have served :
      ∀ tokenId entry, live.registry.get? tokenId = some entry →
        ∃ conn, live.conns.get? entry.outTx = some conn ∧
          conn.tokenId = tokenId ∧ conn.serving = true := by
    intro tokenId entry stored
    exact
      served_of_reachable reachable tokenId entry.outTx
        (Registry.owner?_eq_some.mpr ⟨entry, stored, rfl⟩)
  have fewer : live.registry.len ≤ live.conns.countWhere Conn.serving :=
    FiniteMap.length_values_le_countWhere Entry.outTx Conn.tokenId served
  refine ⟨served, fewer, ?_⟩
  intro gone
  rw [FiniteMap.countWhere_eq_zero.mpr gone] at fewer
  exact Nat.le_zero.mp fewer

/-- A connection that supersedes another, and the end of both. -/
def succeededRun : List Action :=
  [.auth 0 "t" "client" "host", .register 0, .hello 0 true,
    .auth 1 "t" "client" "host", .register 1, .stop 0 false, .teardown 0,
    .hello 1 true, .stop 1 true, .teardown 1]

theorem entries_live_no_longer_than_connections_succeededRun :
    (after succeededRun).registry.len = 0 := by
  have reachable : machine.Reachable (after succeededRun) :=
    ⟨succeededRun, rfl⟩
  refine
    (entries_live_no_longer_than_connections reachable).2.2 ?_
  refine FiniteMap.countWhere_eq_zero.mp ?_
  rfl

end Live

end HollerServer.Wire
