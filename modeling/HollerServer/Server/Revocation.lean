import HollerServer.Token.Locking
import HollerServer.Token.States
import HollerServer.Wire.ConnFrames
import HollerServer.Wire.Supersede

/-!
# Revoking a token of a running server

A server is the token store together with the connection tasks and the registry.
A connection task verifies its credential in the store and registers later, in a
step of its own; `token delete` changes the store and then asks the server to
revoke the token.

A deleted token is never verified again, so after the revoke a token stays out of
the registry exactly if no connection task has verified it without having
registered yet.
-/

namespace HollerServer.Server

open HollerServer.Token
open HollerServer.Wire
open Transition

/-- The store and the running server. -/
structure System where
  file : File := none
  live : Live := {}

inductive Action where
  | store (op : Op)
  | auth (conn : ConnId) (now : Instant) (tokenId credential : String)
  | wire (action : Wire.Action)

/-- A connection task enters the server only through the check of its
credential. -/
def startsConnection : Wire.Action → Bool
  | .auth _ _ _ _ => true
  | _ => false

section Steps

variable (crates : Crates) (pepper : List UInt8)

/-- A call on the store by any process, the check of the credential a connection
presents, or a step of the server after that check.  A connection whose
credential is refused ends there. -/
def step (system : System) : Action → Option System
  | .store op =>
      some
        { system with file := (op.exec crates pepper system.file).2 }
  | .auth conn now tokenId credential =>
      match (Mutation.verifyCredential now tokenId credential).exec
          crates pepper system.file with
      | (.ok (.verified client), file) =>
          (system.live.step
            (.auth conn client.tokenId client.clientId
              client.machine)).map fun live => { file, live }
      | (_, file) => some { system with file }
  | .wire action =>
      if startsConnection action then none
      else
        (system.live.step action).map fun live => { system with live }

def machine : Machine System Action where
  init := {}
  step := step crates pepper

end Steps

/-- The token was deleted: its record can be neither redeemed nor verified. -/
def Dead (crates : Crates) (tokenId : String) (file : File) : Prop :=
  ∃ records record,
    load crates file = .ok records ∧
    records.findKey TokenRecord.tokenId tokenId = some record ∧
    record.state ≠ .unused ∧ record.state ≠ .bound

section Store

variable {crates : Crates} {pepper : List UInt8} {tokenId : String}

/-- A delete that succeeds leaves the token dead. -/
theorem dead_of_delete
    (lawful : crates.Lawful) {file file' : File}
    {now : Instant} {answer : Answer}
    (executed :
      (Op.delete now tokenId).exec crates pepper file =
        (.ok answer, file')) :
    Dead crates tokenId file' := by
  obtain ⟨records, records', loaded, modified, rfl⟩ :=
    Mutation.exec_eq_ok executed
  obtain ⟨⟨_, _⟩, deleted, built⟩ := Result.bind_eq_ok.mp modified
  cases built
  obtain ⟨record, found, _, rfl⟩ := deleteSection_eq_ok.mp deleted
  obtain ⟨_, rfl⟩ := List.findKey_eq_some found
  refine
    ⟨_, record.deleted, load_save lawful _, ?_, record.deleted_state_ne⟩
  unfold putRecord
  rw [record.deleted_tokenId]
  exact List.findKey_rewriteFirst_self record.deleted_tokenId found

theorem dead_mutation
    (lawful : crates.Lawful) {file : File}
    (dead : Dead crates tokenId file) (mutation : Mutation) :
    Dead crates tokenId (mutation.exec crates pepper file).2 := by
  obtain ⟨records, record, loaded, found, notUnused, notBound⟩ := dead
  obtain ⟨_, rfl⟩ := List.findKey_eq_some found
  obtain ⟨records', record', loaded', found', change⟩ :=
    mutation.exec_find lawful loaded found
  refine ⟨records', record', loaded', found', ?_⟩
  rcases change with rfl | ⟨_, _, rewrites⟩
  · exact ⟨notUnused, notBound⟩
  · cases rewrites with
    | redeem displayed =>
        exact absurd (displayState_unused.mp displayed).1 notUnused
    | see bound => exact absurd bound notBound
    | delete => exact record.deleted_state_ne

/-- No call on the store brings a dead token back. -/
theorem dead_exec
    (lawful : crates.Lawful) {file : File}
    (dead : Dead crates tokenId file) (op : Op) :
    Dead crates tokenId (op.exec crates pepper file).2 := by
  cases op with
  | mint now idDraw secretDraw label ttl =>
      simp only [Op.exec]
      split
      next record result _ =>
        exact dead_mutation lawful dead (.mint record result)
      next => exact dead
      next => exact dead
  | redeem now clientDraw credentialDraw tokenId' secret machine =>
      exact dead_mutation lawful dead _
  | verifyCredential now tokenId' credential =>
      exact dead_mutation lawful dead _
  | delete now tokenId' => exact dead_mutation lawful dead _
  | list now => exact dead
  | ping tokenId' probe => exact dead

/-- The credential of a dead token is refused. -/
theorem not_verified_of_dead
    {file : File} (dead : Dead crates tokenId file)
    (now : Instant) (credential : String) :
    ((Mutation.verifyCredential now tokenId credential).exec
      crates pepper file).1.isOk = false := by
  obtain ⟨records, record, loaded, found, _, notBound⟩ := dead
  rw [Bool.eq_false_iff]
  intro succeeded
  obtain ⟨⟨other, foundOther, bound, _⟩, _⟩ :=
    (Mutation.isOk_exec loaded).mp succeeded
  rw [found] at foundOther
  rw [← Option.some.inj foundOther] at bound
  exact notBound bound

/-- A verified client is the one of the token whose credential was checked. -/
theorem tokenId_of_verified
    {file : File} {now : Instant} {credential : String}
    {client : VerifiedClient} {file' : File}
    (verified :
      (Mutation.verifyCredential now tokenId credential).exec
        crates pepper file = (.ok (.verified client), file')) :
    client.tokenId = tokenId := by
  obtain ⟨records, records', _, modified, _⟩ :=
    Mutation.exec_eq_ok verified
  obtain ⟨⟨_, _⟩, checked, built⟩ := Result.bind_eq_ok.mp modified
  cases built
  obtain ⟨_, _, _, _, _, _, rfl, _⟩ := verifySection_eq_ok.mp checked
  rfl

end Store

section Runs

variable {crates : Crates} {pepper : List UInt8} {tokenId : String}

/-- What a step can do to the server: nothing, a step after the check of a
credential, or the start of a connection whose credential was verified. -/
theorem live_step
    {system next : System} {action : Action}
    (stepped : step crates pepper system action = some next) :
    next.live = system.live ∨
    ∃ wireAction, system.live.step wireAction = some next.live ∧
      ((action = .wire wireAction ∧
        startsConnection wireAction = false) ∨
      ∃ conn now tokenId credential client file,
        (Mutation.verifyCredential now tokenId credential).exec
          crates pepper system.file = (.ok (.verified client), file) ∧
        wireAction =
          .auth conn client.tokenId client.clientId client.machine) := by
  cases action with
  | store op =>
      cases stepped
      exact Or.inl rfl
  | auth conn now tokenId credential =>
      simp only [step] at stepped
      split at stepped
      next client file verified =>
        obtain ⟨live, lived, rfl⟩ := Option.map_eq_some_iff.mp stepped
        exact
          Or.inr
            ⟨_, lived, Or.inr
              ⟨conn, now, tokenId, credential, client, file, verified,
                rfl⟩⟩
      next =>
        cases stepped
        exact Or.inl rfl
  | wire wireAction =>
      simp only [step] at stepped
      split at stepped
      next => cases stepped
      next goesOn =>
        obtain ⟨live, lived, rfl⟩ := Option.map_eq_some_iff.mp stepped
        exact
          Or.inr
            ⟨wireAction, lived,
              Or.inl ⟨rfl, Bool.eq_false_iff.mpr goesOn⟩⟩

/-- No step brings a dead token back. -/
theorem dead_step
    (lawful : crates.Lawful)
    {system next : System} {action : Action}
    (dead : Dead crates tokenId system.file)
    (stepped : step crates pepper system action = some next) :
    Dead crates tokenId next.file := by
  cases action with
  | store op =>
      cases stepped
      exact dead_exec lawful dead op
  | auth conn now tokenId' credential =>
      have kept :
          Dead crates tokenId
            ((Mutation.verifyCredential now tokenId' credential).exec crates
              pepper system.file).2 :=
        dead_mutation lawful dead _
      simp only [step] at stepped
      split at stepped
      next client file verified =>
        obtain ⟨live, _, rfl⟩ := Option.map_eq_some_iff.mp stepped
        rw [verified] at kept
        exact kept
      next file refused =>
        cases stepped
        rw [refused] at kept
        exact kept
  | wire wireAction =>
      simp only [step] at stepped
      split at stepped
      next => cases stepped
      next =>
        obtain ⟨live, _, rfl⟩ := Option.map_eq_some_iff.mp stepped
        exact dead

/-- No connection task has verified the token without having registered. -/
def NoneVerified (tokenId : String) (live : Live) : Prop :=
  ∀ id conn, live.conns.get? id = some conn →
    conn.tokenId = tokenId → conn.phase ≠ .verified

/-- A connection that waits to register was already waiting, unless it has just
been verified. -/
theorem verified_of_moves
    {live : Live} {id : ConnId} {conn conn' : Conn}
    {action : Wire.Action}
    (moves : Live.ConnMoves live id conn action conn')
    (verified : conn'.phase = .verified) :
    conn.phase = .verified ∧ conn.tokenId = conn'.tokenId := by
  cases moves with
  | stay => exact ⟨verified, rfl⟩
  | notified _ => exact ⟨verified, rfl⟩
  | queued _ _ _ => exact ⟨verified, rfl⟩
  | registered _ _ => cases verified
  | framed _ => cases verified
  | resolved _ => cases verified
  | closing _ _ => cases verified
  | tornDown _ => cases verified
  | finished _ => cases verified
  | greeted _ =>
      simp only at verified
      split at verified <;> cases verified
  | wrote _ =>
      simp only at verified
      split at verified <;> cases verified

/-- The token is dead, nobody is about to register for it and nobody is
registered. -/
structure Gone
    (crates : Crates) (tokenId : String) (system : System) : Prop where
  dead : Dead crates tokenId system.file
  noneVerified : NoneVerified tokenId system.live
  unregistered : system.live.owner? tokenId = none

theorem noneVerified_step
    {live next : Live} {action : Wire.Action}
    (noneVerified : NoneVerified tokenId live)
    (stepped : live.step action = some next)
    (other :
      ∀ conn tokenId' clientId machine,
        action = .auth conn tokenId' clientId machine →
        tokenId' ≠ tokenId) :
    NoneVerified tokenId next := by
  intro id conn' found token verified
  cases Live.connection_step stepped found with
  | accepted _ fresh =>
      subst fresh
      exact other _ _ _ _ rfl token
  | moved foundBefore moves =>
      obtain ⟨verifiedBefore, sameToken⟩ :=
        verified_of_moves moves verified
      exact
        noneVerified id _ foundBefore (sameToken.trans token)
          verifiedBefore

theorem unregistered_step
    {live next : Live} {action : Wire.Action}
    (noneVerified : NoneVerified tokenId live)
    (unregistered : live.owner? tokenId = none)
    (stepped : live.step action = some next) :
    next.owner? tokenId = none := by
  cases Live.ownerChange_step stepped tokenId with
  | same same => exact same.trans unregistered
  | registered found token verified _ =>
      exact absurd verified (noneVerified _ _ found token)
  | tornDown _ _ now => exact now
  | revoked now => exact now

/-- A token that is gone stays gone. -/
theorem gone_step
    (lawful : crates.Lawful)
    {system next : System} {action : Action}
    (gone : Gone crates tokenId system)
    (stepped : step crates pepper system action = some next) :
    Gone crates tokenId next := by
  have dead := dead_step lawful gone.dead stepped
  rcases live_step stepped with
    same | ⟨wireAction, lived, cause⟩
  · refine ⟨dead, ?_, ?_⟩
    · rw [same]
      exact gone.noneVerified
    · rw [same]
      exact gone.unregistered
  · refine
      ⟨dead, noneVerified_step gone.noneVerified lived ?_,
        unregistered_step gone.noneVerified gone.unregistered lived⟩
    intro conn tokenId' clientId machine isAuth same
    rcases cause with
      ⟨_, goesOn⟩ |
      ⟨_, now, checked, credential, client, file, verified, isStart⟩
    · rw [isAuth] at goesOn
      cases goesOn
    · have sameClient : client.tokenId = tokenId := by
        rw [isAuth] at isStart
        cases isStart
        exact same
      have isChecked := tokenId_of_verified verified
      have dead := gone.dead
      rw [← sameClient, isChecked] at dead
      have refused :=
        @not_verified_of_dead crates pepper _ _ dead now credential
      rw [verified] at refused
      cases refused

/-- A connection that was verified can register. -/
theorem exists_registered
    {system : System} {id : ConnId} {conn : Conn}
    (found : system.live.conns.get? id = some conn)
    (verified : conn.phase = .verified) :
    ∃ final,
      (machine crates pepper).run system [.wire (.register id)] =
        some final ∧
      (final.live.registry.get? conn.tokenId).isSome = true := by
  have lived :
      system.live.step (.register id) =
        some (system.live.register id conn) := by
    show (system.live.conns.get? id).bind _ = _
    rw [found]
    simp only [Option.bind_some, Live.connStep, verified]
  refine
    ⟨{ system with live := system.live.register id conn }, ?_, ?_⟩
  · simp [Machine.run, machine, step, startsConnection, lived]
  · have owned :=
      system.live.owner?_register id conn conn.tokenId
    rw [if_pos rfl] at owned
    obtain ⟨entry, present, _⟩ := Registry.owner?_eq_some.mp owned
    exact Option.isSome_iff_exists.mpr ⟨entry, present⟩

/-- After a token was deleted and its revoke answered, no entry for it exists
whatever happens next, exactly if no connection task had verified it without
having registered when the revoke was handled. -/
theorem revoke_final_iff
    (lawful : crates.Lawful)
    {before handled revoked : System} {now : Instant} {answer : Answer}
    {between : List Action}
    (deleted :
      ((Op.delete now tokenId).exec crates pepper before.file).1 =
        .ok answer)
    (ran :
      (machine crates pepper).run before
        (.store (.delete now tokenId) :: between) = some handled)
    (answered :
      (machine crates pepper).step handled (.wire (.revoke tokenId)) =
        some revoked) :
    (∀ later final,
      (machine crates pepper).run revoked later = some final →
      final.live.registry.get? tokenId = none) ↔
    NoneVerified tokenId handled.live := by
  obtain ⟨afterDelete, deleteStep, ranBetween⟩ :=
    ((machine crates pepper).run_cons_eq_some).mp ran
  cases deleteStep
  have keepsDead :
      ∀ system action next, Dead crates tokenId system.file →
        (machine crates pepper).step system action = some next →
        Dead crates tokenId next.file :=
    fun _ _ _ dead stepped => dead_step lawful dead stepped
  have dead : Dead crates tokenId handled.file :=
    (machine crates pepper).run_preserves keepsDead
      (dead_of_delete lawful (Prod.ext deleted rfl)) ranBetween
  have isRevoked :
      revoked =
        { handled with live := handled.live.removeEntry tokenId } := by
    cases answered
    rfl
  subst isRevoked
  constructor
  · intro never id conn found token verified
    obtain ⟨final, registers, present⟩ :=
      @exists_registered crates pepper
        { handled with live := handled.live.removeEntry tokenId } id
        conn found verified
    rw [token, never _ _ registers] at present
    cases present
  · intro noneVerified later final ranLater
    have unregistered :
        (handled.live.removeEntry tokenId).owner? tokenId = none := by
      rw [Live.owner?_removeEntry, if_pos rfl]
    have goneNow :
        Gone crates tokenId
          { handled with live := handled.live.removeEntry tokenId } :=
      ⟨dead, noneVerified, unregistered⟩
    have gone : Gone crates tokenId final :=
      (machine crates pepper).run_preserves
        (fun _ _ _ gone stepped => gone_step lawful gone stepped)
        goneNow ranLater
    exact Option.map_eq_none_iff.mp gone.unregistered

end Runs

/-- The connection of the sample token, once it was verified. -/
def sampleConn : Conn where
  tokenId := Sample.tokenId
  clientId := Sample.clientId
  machine := "laptop"
  phase := .verified

/-- The sample token is minted and redeemed, and connection 0 presents its
credential. -/
def presented : List Action :=
  [.store Sample.mint, .store Sample.redeemCall,
    .auth 0 Sample.seenAt Sample.tokenId Sample.credential]

theorem step_store
    {crates : Crates} {pepper : List UInt8} {system : System} {op : Op}
    {reply : Reply} {file : File}
    (executed : op.exec crates pepper system.file = (reply, file)) :
    (machine crates pepper).step system (.store op) =
      some { system with file } := by
  show some _ = _
  rw [executed]

theorem step_auth
    {crates : Crates} {pepper : List UInt8} {system : System}
    {conn : ConnId} {now : Instant} {tokenId credential : String}
    {client : VerifiedClient} {file : File} {live : Live}
    (verified :
      (Mutation.verifyCredential now tokenId credential).exec
        crates pepper system.file = (.ok (.verified client), file))
    (lived :
      system.live.step
          (.auth conn client.tokenId client.clientId client.machine) =
        some live) :
    (machine crates pepper).step system
        (.auth conn now tokenId credential) =
      some { file, live } := by
  simp only [machine, step, verified, lived, Option.map_some]

theorem run_presented :
    (machine .sample Sample.pepper).run {} presented =
      some
        { file := save .sample [Sample.seen]
          live := ({} : Live).setConn 0 sampleConn } := by
  have verified := Sample.exec_verify
  unfold Sample.verify at verified
  refine
    (Machine.run_cons_eq_some _).mpr
      ⟨{ file := save .sample [Sample.minted] },
        step_store Sample.exec_mint, ?_⟩
  refine
    (Machine.run_cons_eq_some _).mpr
      ⟨{ file := save .sample [Sample.bound] },
        step_store Sample.exec_redeemCall, ?_⟩
  exact
    (Machine.run_cons_eq_some _).mpr ⟨_, step_auth verified rfl, rfl⟩

theorem exec_delete_seen :
    (Op.delete Sample.seenAt Sample.tokenId).exec .sample Sample.pepper
        (save .sample [Sample.seen]) =
      (.ok (.deleted .revoked), save .sample [Sample.revoked]) :=
  Sample.exec_deleteCall

/-- The token is deleted and its revoke handled. -/
def deletedAndRevoked : List Action :=
  [.store (.delete Sample.seenAt Sample.tokenId),
    .wire (.revoke Sample.tokenId)]

theorem run_delete (live : Live) :
    (machine .sample Sample.pepper).run
        { file := save .sample [Sample.seen], live := live }
        [.store (.delete Sample.seenAt Sample.tokenId)] =
      some { file := save .sample [Sample.revoked], live := live } := by
  simp only [Machine.run, machine, step, exec_delete_seen,
    Option.bind_some]

theorem run_deletedAndRevoked (live : Live) :
    (machine .sample Sample.pepper).run
        { file := save .sample [Sample.seen], live := live }
        deletedAndRevoked =
      some
        { file := save .sample [Sample.revoked]
          live := live.removeEntry Sample.tokenId } := by
  have split :
      deletedAndRevoked =
        [.store (.delete Sample.seenAt Sample.tokenId)] ++
          [.wire (.revoke Sample.tokenId)] := rfl
  rw [split, Machine.run_append, run_delete]
  rfl

/-- A connection that has registered is gone for good after the delete and the
revoke. -/
theorem revoke_final_iff_registered :
    ∃ revoked,
      (machine .sample Sample.pepper).run {}
          (presented ++ ([.wire (.register 0)] ++ deletedAndRevoked)) =
        some revoked ∧
      ∀ later final,
        (machine .sample Sample.pepper).run revoked later =
          some final →
        final.live.registry.get? Sample.tokenId = none := by
  let registered : Live :=
    (({} : Live).setConn 0 sampleConn).register 0 sampleConn
  have registers :
      (machine .sample Sample.pepper).run
          { file := save .sample [Sample.seen]
            live := ({} : Live).setConn 0 sampleConn }
          [.wire (.register 0)] =
        some
          { file := save .sample [Sample.seen]
            live := registered } := rfl
  have noneVerified : NoneVerified Sample.tokenId registered := by
    intro id conn found _ verified
    have isPut :
        registered.conns =
          FiniteMap.put (FiniteMap.put ∅ 0 sampleConn) 0
            { sampleConn with phase := .greeting } := rfl
    rw [isPut, FiniteMap.get?_put] at found
    split at found
    next =>
      cases found
      cases verified
    next different =>
      rw [FiniteMap.get?_put, if_neg different] at found
      simp at found
  have deleted := congrArg Prod.fst exec_delete_seen
  have answered :
      (machine .sample Sample.pepper).step
          { file := save .sample [Sample.revoked], live := registered }
          (.wire (.revoke Sample.tokenId)) =
        some
          { file := save .sample [Sample.revoked]
            live := registered.removeEntry Sample.tokenId } := rfl
  have final_iff :=
    @revoke_final_iff .sample Sample.pepper Sample.tokenId
      Crates.sample_lawful
      { file := save .sample [Sample.seen], live := registered } _ _
      Sample.seenAt _ [] deleted (run_delete registered) answered
  refine ⟨_, ?_, final_iff.mpr noneVerified⟩
  rw [Machine.run_append, run_presented, Option.bind_some,
    Machine.run_append, registers, Option.bind_some,
    run_deletedAndRevoked]

/-- A connection that was verified before the delete registers after the revoke
was answered. -/
theorem revoked_token_registers :
    ∃ revoked final,
      (machine .sample Sample.pepper).run {}
          (presented ++ deletedAndRevoked) = some revoked ∧
      (∃ state,
        ((Op.delete Sample.seenAt Sample.tokenId).exec .sample
          Sample.pepper (save .sample [Sample.seen])).1 =
            .ok (.deleted state)) ∧
      revoked.live.registry.get? Sample.tokenId = none ∧
      (machine .sample Sample.pepper).run revoked
          [.wire (.register 0)] = some final ∧
      (final.live.registry.get? Sample.tokenId).isSome = true := by
  have verified :
      (({} : Live).setConn 0 sampleConn).conns.get? 0 =
        some sampleConn :=
    FiniteMap.get?_put_self _ _ _
  obtain ⟨final, registers, present⟩ :=
    @exists_registered .sample Sample.pepper
      { file := save .sample [Sample.revoked]
        live :=
          (({} : Live).setConn 0 sampleConn).removeEntry
            Sample.tokenId }
      0 sampleConn verified rfl
  refine
    ⟨_, final, ?_, ⟨.revoked, congrArg Prod.fst exec_delete_seen⟩, ?_,
      registers, present⟩
  · rw [Machine.run_append, run_presented, Option.bind_some,
      run_deletedAndRevoked]
  · exact
      (Registry.get?_remove _ _ _).trans (if_pos rfl)

end HollerServer.Server
