import HollerServer.Token.History

/-!
# The state of a record and the history of its token

The stored state is to tell what happened to a token: not used, redeemed, redeemed
and then deleted, or deleted without having been redeemed.  It does so in exactly
the histories in which nobody deletes a token that is revoked already: `delete`
invalidates such a record like one that was never used.
-/

namespace HollerServer.Token

/-- A redeem of the token succeeded, and a delete after it. -/
def RedeemedThenDeleted (facts : List Fact) (tokenId : String) : Prop :=
  ∃ before credential clientId machine after,
    facts =
      before ++ .redeemed tokenId credential clientId machine :: after ∧
    .deleted tokenId ∈ after

/-- The record tells what happened to its token. -/
structure Recounts (facts : List Fact) (record : TokenRecord) : Prop where
  unused :
    record.state = .unused ↔
      ¬ Redeemed facts record.tokenId ∧
        .deleted record.tokenId ∉ facts
  bound :
    record.state = .bound ↔
      ∃ credential clientId machine,
        Credentialed facts record.tokenId credential clientId machine
  revoked :
    record.state = .revoked ↔ RedeemedThenDeleted facts record.tokenId
  invalidated :
    record.state = .invalidated ↔
      .deleted record.tokenId ∈ facts ∧
        ¬ Redeemed facts record.tokenId
  client :
    record.clientId.isSome = true ↔ Redeemed facts record.tokenId
  machine :
    record.machine.isSome = true ↔ Redeemed facts record.tokenId

section Statements

variable (crates : Crates) (pepper : List UInt8) (ops : List Op)

/-- In every state of the run the records tell what happened; a delete that was made
before answers as it did then and changes nothing; and who redeemed a token does not
change any more. -/
structure RecountsRun : Prop where
  states :
    ∀ before after, ops = before ++ after →
      ∃ records,
        load crates (History.ofOps crates pepper before).file = .ok records ∧
        ∀ record ∈ records,
          Recounts (History.ofOps crates pepper before).facts record
  deletes :
    ∀ before now tokenId after earlier state,
      ops = before ++ .delete now tokenId :: after →
      (.delete earlier tokenId, .ok (.deleted state)) ∈
          (History.ofOps crates pepper before).log →
      let outcome :=
        (Op.delete now tokenId).exec crates pepper
          (History.ofOps crates pepper before).file
      outcome.1 = .ok (.deleted state) ∧
        load crates outcome.2 =
          load crates (History.ofOps crates pepper before).file
  identities :
    ∀ before more after records records',
      ops = before ++ more ++ after →
      load crates (History.ofOps crates pepper before).file = .ok records →
      load crates (History.ofOps crates pepper (before ++ more)).file =
          .ok records' →
      ∀ record ∈ records, ∀ record' ∈ records',
        record'.tokenId = record.tokenId →
        Redeemed (History.ofOps crates pepper before).facts record.tokenId →
        record'.clientId = record.clientId ∧
          record'.machine = record.machine

/-- No delete of the run is for a token whose record is revoked already. -/
def DeletesNoRevoked : Prop :=
  ∀ before now tokenId after records record,
    ops = before ++ .delete now tokenId :: after →
    load crates (History.ofOps crates pepper before).file = .ok records →
    records.findKey TokenRecord.tokenId tokenId = some record →
    record.state ≠ .revoked

end Statements

section Facts

variable {facts : List Fact} {tokenId : String}

theorem redeemed_of_redeemedThenDeleted
    (happened : RedeemedThenDeleted facts tokenId) :
    Redeemed facts tokenId := by
  obtain ⟨before, credential, clientId, machine, after, rfl, _⟩ := happened
  exact
    ⟨credential, clientId, machine,
      List.mem_append_right _ List.mem_cons_self⟩

theorem redeemed_step (fact? : Option Fact) :
    Redeemed (facts ++ fact?.toList) tokenId ↔
      Redeemed facts tokenId ∨
        ∃ credential clientId machine,
          fact? = some (.redeemed tokenId credential clientId machine) := by
  unfold Redeemed
  simp only [List.mem_append, Option.mem_toList]
  constructor
  · rintro ⟨credential, clientId, machine, old | new⟩
    · exact .inl ⟨credential, clientId, machine, old⟩
    · exact .inr ⟨credential, clientId, machine, new⟩
  · rintro (⟨credential, clientId, machine, old⟩ |
      ⟨credential, clientId, machine, new⟩)
    · exact ⟨credential, clientId, machine, .inl old⟩
    · exact ⟨credential, clientId, machine, .inr new⟩

/-- Only a delete of a redeemed token adds to the tokens that were redeemed and then
deleted. -/
theorem redeemedThenDeleted_step (fact? : Option Fact) :
    RedeemedThenDeleted (facts ++ fact?.toList) tokenId ↔
      RedeemedThenDeleted facts tokenId ∨
        (fact? = some (.deleted tokenId) ∧ Redeemed facts tokenId) := by
  cases fact? with
  | none => simp
  | some fact =>
      simp only [Option.toList_some, Option.some.injEq]
      constructor
      · rintro ⟨before, credential, clientId, machine, after, split, deleted⟩
        rcases List.eq_nil_or_concat after with rfl | ⟨shorter, last, rfl⟩
        · cases deleted
        · rw [List.concat_eq_append, ← List.cons_append,
            ← List.append_assoc] at split
          obtain ⟨rfl, same⟩ := List.append_inj' split rfl
          have sameLast := List.singleton_inj.mp same
          subst sameLast
          rw [List.concat_eq_append, List.mem_append,
            List.mem_singleton] at deleted
          rcases deleted with old | new
          · exact
              .inl ⟨before, credential, clientId, machine, shorter, rfl, old⟩
          · refine .inr ⟨new.symm, credential, clientId, machine, ?_⟩
            exact List.mem_append_right _ List.mem_cons_self
      · rintro (⟨before, credential, clientId, machine, after, rfl, deleted⟩ |
          ⟨rfl, credential, clientId, machine, redeemed⟩)
        · refine
            ⟨before, credential, clientId, machine, after ++ [fact], ?_,
              List.mem_append_left _ deleted⟩
          rw [List.append_assoc, List.cons_append]
        · obtain ⟨before, after, rfl⟩ := List.append_of_mem redeemed
          refine
            ⟨before, credential, clientId, machine, after ++ [.deleted tokenId],
              ?_, List.mem_append_right _ List.mem_cons_self⟩
          rw [List.append_assoc, List.cons_append]

end Facts

/-- The token that a fact changes the state of. -/
def Fact.changes? : Fact → Option String
  | .minted _ _ _ => none
  | .redeemed tokenId _ _ _ => some tokenId
  | .deleted tokenId => some tokenId

/-- Where a record comes from that is stored after a call. -/
inductive Origin
    (crates : Crates) (pepper : List UInt8) (records : List TokenRecord) :
    Op → Reply → TokenRecord → Prop
  | kept {op reply record}
      (member : record ∈ records)
      (others :
        ∀ fact, Fact.of? (op, reply) = some fact →
          fact.changes? ≠ some record.tokenId) :
      Origin crates pepper records op reply record
  | minted {op reply record}
      (unknown : record.tokenId ∉ records.map TokenRecord.tokenId)
      (unused : record.state = .unused)
      (noClient : record.clientId = Option.none)
      (noMachine : record.machine = Option.none)
      (quiet :
        ∀ fact, Fact.of? (op, reply) = some fact →
          fact.changes? = Option.none) :
      Origin crates pepper records op reply record
  | redeemed {op reply record machine clientId credential}
      (member : record ∈ records) (unused : record.state = .unused)
      (fact :
        Fact.of? (op, reply) =
          some (.redeemed record.tokenId credential clientId machine)) :
      Origin crates pepper records op reply
        (record.redeemed crates pepper machine clientId credential)
  | seen {op reply record lastSeen}
      (member : record ∈ records) (quiet : Fact.of? (op, reply) = Option.none) :
      Origin crates pepper records op reply { record with lastSeen }
  | deleted {record} {now : Instant}
      (member : record ∈ records)
      (found :
        records.findKey TokenRecord.tokenId record.tokenId = some record) :
      Origin crates pepper records (.delete now record.tokenId)
        (.ok (.deleted (record.deleted.displayState crates now.nanos)))
        record.deleted

section Origins

variable {crates : Crates} {pepper : List UInt8}
variable {records records' : List TokenRecord} {op : Op} {reply : Reply}

/-- A record that was written back, or one of another token. -/
theorem Origin.put
    (distinct : (records.map TokenRecord.tokenId).Nodup)
    {record replacement : TokenRecord} (member : record ∈ records)
    (sameId : replacement.tokenId = record.tokenId)
    (origin : Origin crates pepper records op reply replacement)
    (only :
      ∀ fact, Fact.of? (op, reply) = some fact →
        fact.changes? = some record.tokenId) :
    ∀ stored ∈ putRecord replacement records,
      Origin crates pepper records op reply stored := by
  have present : replacement.tokenId ∈ records.map TokenRecord.tokenId := by
    rw [sameId]
    exact List.mem_map_of_mem member
  intro stored isStored
  rcases (List.mem_rewriteFirst distinct present).mp isStored with
    rfl | ⟨old, different⟩
  · exact origin
  · refine .kept old ?_
    intro fact isFact same
    rw [only fact isFact, Option.some.injEq] at same
    exact different (sameId.trans same).symm

/-- Every record that is stored after a call has one of the origins. -/
theorem Effect.origins
    (effect : Effect crates pepper records op reply records')
    (distinct : (records.map TokenRecord.tokenId).Nodup)
    (new :
      ∀ bytes, op.idDraw? = some bytes →
        "tok_" ++ toHex bytes.toList ∉ records.map TokenRecord.tokenId) :
    ∀ record ∈ records', Origin crates pepper records op reply record := by
  cases effect with
  | none quiet =>
      intro record member
      refine .kept member ?_
      intro fact isFact
      rw [quiet] at isFact
      cases isFact
  | @minted now idDraw secretDraw label ttl record result minted =>
      obtain ⟨⟨bytes, drawn, named⟩, sameId, _, unused, noMachine, noClient,
        _, _, _⟩ := mintRecord_eq_ok minted
      have quiet :
          ∀ fact,
            Fact.of?
                (.mint now idDraw secretDraw label ttl,
                  .ok (.minted result)) = some fact →
              fact.changes? = Option.none := by
        intro fact isFact
        rw [← Option.some.inj isFact]
        rfl
      intro stored isStored
      rcases List.mem_append.mp isStored with old | added
      · refine .kept old ?_
        intro fact isFact
        rw [quiet fact isFact]
        exact (Option.some_ne_none _).symm
      · rw [List.mem_singleton.mp added]
        refine .minted ?_ unused noClient noMachine quiet
        rw [sameId, named]
        exact new bytes drawn
  | redeemed redeemed =>
      obtain ⟨record, clientBytes, credentialBytes, found, unused, _, _,
        _, isResult, rfl⟩ := redeemSection_eq_ok.mp redeemed
      subst isResult
      obtain ⟨member, rfl⟩ := List.findKey_eq_some found
      refine
        Origin.put distinct member rfl
          (.redeemed member (displayState_unused.mp unused).1 rfl) ?_
      intro fact isFact
      rw [← Option.some.inj isFact]
      rfl
  | verified verified =>
      obtain ⟨record, lastSeen, found, _, _, _, _, rfl⟩ :=
        verifySection_eq_ok.mp verified
      obtain ⟨member, _⟩ := List.findKey_eq_some found
      refine Origin.put distinct member rfl (.seen member rfl) ?_
      intro fact isFact
      cases isFact
  | deleted deleted =>
      obtain ⟨record, found, rfl, rfl⟩ := deleteSection_eq_ok.mp deleted
      obtain ⟨member, rfl⟩ := List.findKey_eq_some found
      refine
        Origin.put distinct member (TokenRecord.deleted_tokenId record)
          (.deleted member found) ?_
      intro fact isFact
      rw [← Option.some.inj isFact]
      rfl

end Origins

/-- The record tells what the calls did to its token, and a delete answered with its
state. -/
structure Told (log : List (Op × Reply)) (record : TokenRecord) : Prop where
  revoked :
    record.state = .revoked ↔
      RedeemedThenDeleted (log.filterMap Fact.of?) record.tokenId
  invalidated :
    record.state = .invalidated ↔
      .deleted record.tokenId ∈ log.filterMap Fact.of? ∧
        ¬ Redeemed (log.filterMap Fact.of?) record.tokenId
  client :
    ∀ clientId, record.clientId = some clientId ↔
      ∃ credential machine,
        .redeemed record.tokenId credential clientId machine ∈
          log.filterMap Fact.of?
  machine :
    ∀ machine, record.machine = some machine ↔
      ∃ credential clientId,
        .redeemed record.tokenId credential clientId machine ∈
          log.filterMap Fact.of?
  answered :
    ∀ now state,
      (.delete now record.tokenId, .ok (.deleted state)) ∈ log →
      (record.state = .revoked ∧ state = .revoked) ∨
        (record.state = .invalidated ∧ state = .invalidated)

section Telling

variable {crates : Crates} {pepper : List UInt8}
variable {log : List (Op × Reply)} {records : List TokenRecord}
variable {op : Op} {reply : Reply} {record : TokenRecord}

theorem filterMap_of?_snoc :
    (log ++ [(op, reply)]).filterMap Fact.of? =
      log.filterMap Fact.of? ++ (Fact.of? (op, reply)).toList := by
  rw [List.filterMap_append]
  cases found : Fact.of? (op, reply) with
  | none => simp [found]
  | some fact => simp [found]

/-- A delete that succeeded is a fact. -/
theorem deleted_mem_facts
    {now : Instant} {tokenId : String} {state : DisplayState}
    (isCall : (.delete now tokenId, .ok (.deleted state)) ∈ log) :
    .deleted tokenId ∈ log.filterMap Fact.of? :=
  List.mem_filterMap.mpr ⟨_, isCall, rfl⟩

/-- A call that does not change the token leaves what its record tells. -/
theorem Told.others
    (told : Told log record)
    (others :
      ∀ fact, Fact.of? (op, reply) = some fact →
        fact.changes? ≠ some record.tokenId) :
    Told (log ++ [(op, reply)]) record := by
  have noRedeem (credential clientId machine : String) :
      ¬Fact.of? (op, reply) =
        some (.redeemed record.tokenId credential clientId machine) :=
    fun isFact => others _ isFact rfl
  have noDelete :
      ¬Fact.of? (op, reply) = some (.deleted record.tokenId) :=
    fun isFact => others _ isFact rfl
  refine ⟨?_, ?_, ?_, ?_, ?_⟩
  · rw [filterMap_of?_snoc, redeemedThenDeleted_step, told.revoked]
    simp [noDelete]
  · rw [filterMap_of?_snoc, redeemed_step, told.invalidated]
    simp [noDelete, noRedeem]
  · intro clientId
    rw [filterMap_of?_snoc, told.client]
    simp [noRedeem]
  · intro machine
    rw [filterMap_of?_snoc, told.machine]
    simp [noRedeem]
  · intro now state isCall
    rcases List.mem_append.mp isCall with earlier | last
    · exact told.answered now state earlier
    · obtain ⟨rfl, rfl⟩ := Prod.mk.inj (List.mem_singleton.mp last)
      exact absurd rfl noDelete

/-- Nothing happened to a token that has no record. -/
theorem Told.of_unknown
    (tracks : Tracks crates pepper (log.filterMap Fact.of?) records)
    (unknown : record.tokenId ∉ records.map TokenRecord.tokenId)
    (unused : record.state = .unused)
    (noClient : record.clientId = none)
    (noMachine : record.machine = none) :
    Told log record := by
  have notRedeemed :
      ¬Redeemed (log.filterMap Fact.of?) record.tokenId :=
    fun redeemed => unknown (tracks.known _ (.inl redeemed))
  have notDeleted : .deleted record.tokenId ∉ log.filterMap Fact.of? :=
    fun deleted => unknown (tracks.known _ (.inr deleted))
  refine ⟨?_, ?_, ?_, ?_, ?_⟩
  · simp only [unused, reduceCtorEq, false_iff]
    exact fun both => notRedeemed (redeemed_of_redeemedThenDeleted both)
  · simp only [unused, reduceCtorEq, false_iff]
    exact fun deleted => notDeleted deleted.1
  · intro clientId
    simp only [noClient, reduceCtorEq, false_iff]
    rintro ⟨credential, machine, redeemed⟩
    exact notRedeemed ⟨credential, clientId, machine, redeemed⟩
  · intro machine
    simp only [noMachine, reduceCtorEq, false_iff]
    rintro ⟨credential, clientId, redeemed⟩
    exact notRedeemed ⟨credential, clientId, machine, redeemed⟩
  · intro now state isCall
    exact absurd (deleted_mem_facts isCall) notDeleted

/-- The first redeem of a token is told by its record. -/
theorem Told.redeemed
    {machine clientId credential : String}
    (reflects :
      Reflects crates pepper (log.filterMap Fact.of?) record)
    (unused : record.state = .unused)
    (fact :
      Fact.of? (op, reply) =
        some (.redeemed record.tokenId credential clientId machine)) :
    Told (log ++ [(op, reply)])
      (record.redeemed crates pepper machine clientId credential) := by
  obtain ⟨notRedeemed, notDeleted⟩ := reflects.unused.mp unused
  have noRedeem (credential clientId machine : String) :
      .redeemed record.tokenId credential clientId machine ∉
        log.filterMap Fact.of? :=
    fun redeemed => notRedeemed ⟨credential, clientId, machine, redeemed⟩
  have notBoth :
      ¬RedeemedThenDeleted (log.filterMap Fact.of?) record.tokenId :=
    fun both => notRedeemed (redeemed_of_redeemedThenDeleted both)
  refine ⟨?_, ?_, ?_, ?_, ?_⟩
  · rw [filterMap_of?_snoc, redeemedThenDeleted_step]
    simp [TokenRecord.redeemed, fact, notBoth]
  · rw [filterMap_of?_snoc]
    simp [TokenRecord.redeemed, fact, notDeleted]
  · intro clientId'
    rw [filterMap_of?_snoc]
    simp [TokenRecord.redeemed, fact, noRedeem, eq_comm]
  · intro machine'
    rw [filterMap_of?_snoc]
    simp [TokenRecord.redeemed, fact, noRedeem, eq_comm]
  · intro now state isCall
    have deleted := deleted_mem_facts isCall
    rw [filterMap_of?_snoc, fact] at deleted
    simp [TokenRecord.redeemed, notDeleted] at deleted

/-- A delete tells whether the token was redeemed, unless its record was revoked
already. -/
theorem deleted_state
    (reflects :
      Reflects crates pepper (log.filterMap Fact.of?) record)
    (told : Told log record) (notRevoked : record.state ≠ .revoked) :
    (record.state = .bound ∧ record.deleted.state = .revoked ∧
      Redeemed (log.filterMap Fact.of?) record.tokenId) ∨
    (record.state ≠ .bound ∧ record.deleted.state = .invalidated ∧
      ¬Redeemed (log.filterMap Fact.of?) record.tokenId) := by
  cases state : record.state with
  | unused =>
      have untouched := reflects.unused.mp state
      exact .inr ⟨by simp, by simp [TokenRecord.deleted, state], untouched.1⟩
  | bound =>
      obtain ⟨_, _, _, credentialed, _⟩ := reflects.bound state
      exact
        .inl
          ⟨rfl, by simp [TokenRecord.deleted, state],
            redeemed_of_credentialed credentialed⟩
  | invalidated =>
      have untouched := told.invalidated.mp state
      exact .inr ⟨by simp, by simp [TokenRecord.deleted, state], untouched.2⟩
  | revoked => exact absurd state notRevoked

theorem TokenRecord.deleted_clientId (record : TokenRecord) :
    record.deleted.clientId = record.clientId := by
  unfold TokenRecord.deleted
  split <;> rfl

theorem TokenRecord.deleted_machine (record : TokenRecord) :
    record.deleted.machine = record.machine := by
  unfold TokenRecord.deleted
  split <;> rfl

/-- A delete is told by the record, unless that was revoked already. -/
theorem Told.deleted
    (reflects :
      Reflects crates pepper (log.filterMap Fact.of?) record)
    (told : Told log record) (notRevoked : record.state ≠ .revoked)
    (now : Instant) :
    Told
      (log ++
        [(.delete now record.tokenId,
          .ok (.deleted (record.deleted.displayState crates now.nanos)))])
      record.deleted := by
  have outcome := deleted_state reflects told notRevoked
  have fact :
      Fact.of?
          (.delete now record.tokenId,
            .ok (.deleted (record.deleted.displayState crates now.nanos))) =
        some (.deleted record.tokenId) := rfl
  have both :=
    @redeemed_of_redeemedThenDeleted (log.filterMap Fact.of?) record.tokenId
  refine ⟨?_, ?_, ?_, ?_, ?_⟩
  · rw [filterMap_of?_snoc, TokenRecord.deleted_tokenId,
      redeemedThenDeleted_step, fact]
    rcases outcome with ⟨_, isRevoked, redeemed⟩ | ⟨_, isInvalidated, never⟩
    · simp [isRevoked, redeemed]
    · simp [isInvalidated, never, mt both never]
  · rw [filterMap_of?_snoc, TokenRecord.deleted_tokenId, redeemed_step, fact]
    rcases outcome with ⟨_, isRevoked, redeemed⟩ | ⟨_, isInvalidated, never⟩
    · simp [isRevoked, redeemed]
    · simp [isInvalidated, never]
  · intro clientId
    rw [filterMap_of?_snoc, TokenRecord.deleted_tokenId,
      TokenRecord.deleted_clientId, told.client, fact]
    simp
  · intro machine
    rw [filterMap_of?_snoc, TokenRecord.deleted_tokenId,
      TokenRecord.deleted_machine, told.machine, fact]
    simp
  · intro earlier state isCall
    rw [TokenRecord.deleted_tokenId] at isCall
    rcases List.mem_append.mp isCall with before | last
    · rcases told.answered earlier state before with
        ⟨isRevoked, _⟩ | ⟨isInvalidated, answer⟩
      · exact absurd isRevoked notRevoked
      · rcases outcome with ⟨isBound, _⟩ | ⟨_, kept, _⟩
        · rw [isInvalidated] at isBound
          cases isBound
        · exact .inr ⟨kept, answer⟩
    · obtain ⟨_, same⟩ := Prod.mk.inj (List.mem_singleton.mp last)
      have shown := Answer.deleted.inj (Result.ok.inj same)
      rcases outcome with ⟨_, isRevoked, _⟩ | ⟨_, isInvalidated, _⟩
      · refine .inl ⟨isRevoked, ?_⟩
        rw [shown]
        simp [TokenRecord.displayState, isRevoked]
      · refine .inr ⟨isInvalidated, ?_⟩
        rw [shown]
        simp [TokenRecord.displayState, isInvalidated]

/-- Every call that deletes no revoked record is told by the records. -/
theorem Origin.told
    (origin : Origin crates pepper records op reply record)
    (tracks : Tracks crates pepper (log.filterMap Fact.of?) records)
    (told : ∀ record ∈ records, Told log record)
    (careful :
      ∀ now tokenId found, op = .delete now tokenId →
        records.findKey TokenRecord.tokenId tokenId = some found →
        found.state ≠ .revoked) :
    Told (log ++ [(op, reply)]) record := by
  cases origin with
  | kept member others => exact (told _ member).others others
  | minted unknown unused noClient noMachine quiet =>
      apply (Told.of_unknown tracks unknown unused noClient noMachine).others
      intro fact isFact
      rw [quiet fact isFact]
      exact (Option.some_ne_none _).symm
  | redeemed member unused fact =>
      exact Told.redeemed (tracks.reflects _ member) unused fact
  | @seen _ _ record lastSeen member quiet =>
      have known := told record member
      have same : Told log { record with lastSeen } :=
        ⟨known.revoked, known.invalidated, known.client, known.machine,
          known.answered⟩
      apply same.others
      intro fact isFact
      rw [quiet] at isFact
      cases isFact
  | deleted member found =>
      exact
        (told _ member).deleted (tracks.reflects _ member)
          (careful _ _ _ rfl found) _

end Telling

section Runs

variable {crates : Crates} {pepper : List UInt8} {ops : List Op}

/-- A delete of a token that has a record. -/
theorem exec_delete
    {file : File} {records : List TokenRecord} {tokenId : String}
    {record : TokenRecord} (loaded : load crates file = .ok records)
    (found : records.findKey TokenRecord.tokenId tokenId = some record)
    (now : Instant) :
    (Op.delete now tokenId).exec crates pepper file =
      (.ok (.deleted (record.deleted.displayState crates now.nanos)),
        save crates (putRecord record.deleted records)) := by
  have deleted :=
    (@deleteSection_eq_ok crates now _ _ _ _).mpr ⟨record, found, rfl, rfl⟩
  have modified :
      (Mutation.delete now tokenId).modify crates pepper records =
        .ok
          (putRecord record.deleted records,
            .deleted (record.deleted.displayState crates now.nanos)) :=
    Result.bind_eq_ok.mpr ⟨_, deleted, rfl⟩
  exact Mutation.exec_of_modify loaded modified

theorem DeletesNoRevoked.before
    {before after : List Op}
    (careful : DeletesNoRevoked crates pepper (before ++ after)) :
    DeletesNoRevoked crates pepper before := by
  intro earlier now tokenId later records record split
  apply careful earlier now tokenId (later ++ after)
  rw [split, List.append_assoc, List.cons_append]

/-- After calls that delete no revoked record, the records tell what happened. -/
theorem told_ofOps
    (lawful : crates.Lawful) (fresh : Fresh ops)
    (careful : DeletesNoRevoked crates pepper ops) :
    ∀ records,
      load crates (History.ofOps crates pepper ops).file = .ok records →
      ∀ record ∈ records,
        Told (History.ofOps crates pepper ops).log record := by
  induction ops using List.reverseRecOn with
  | nil =>
      intro records loaded record member
      cases loaded
      cases member
  | append_singleton ops op inductionHypothesis =>
      intro records' loaded'
      obtain ⟨records, loaded, tracks, issued⟩ :=
        tracks_ofOps lawful ops fresh.before
      have told :=
        inductionHypothesis fresh.before careful.before records loaded
      obtain ⟨stored, loadedStored, effect⟩ :=
        op.exec_effect lawful loaded
      rw [History.ofOps_snoc] at loaded' ⊢
      have same : stored = records' :=
        Result.ok.inj (loadedStored.symm.trans loaded')
      subst same
      intro record member
      refine
        (effect.origins tracks.distinct (fresh.new issued) record
          member).told tracks told ?_
      intro now tokenId found isDelete
      subst isDelete
      exact careful ops now tokenId [] records found rfl loaded

/-- The facts of a run stay. -/
theorem facts_subset (before more : List Op) {fact : Fact}
    (happened : fact ∈ (History.ofOps crates pepper before).facts) :
    fact ∈ (History.ofOps crates pepper (before ++ more)).facts := by
  induction more using List.reverseRecOn with
  | nil =>
      rw [List.append_nil]
      exact happened
  | append_singleton more op inductionHypothesis =>
      rw [← List.append_assoc, History.ofOps_snoc, History.facts_call]
      exact List.mem_append_left _ inductionHypothesis

theorem Told.recounts
    {facts : List Fact} {log : List (Op × Reply)} {record : TokenRecord}
    (told : Told log record) (sameFacts : facts = log.filterMap Fact.of?)
    (reflects : Reflects crates pepper facts record) :
    Recounts facts record := by
  subst sameFacts
  refine ⟨reflects.unused, ?_, told.revoked, told.invalidated, ?_, ?_⟩
  · constructor
    · intro isBound
      obtain ⟨credential, clientId, machine, credentialed, _⟩ :=
        reflects.bound isBound
      exact ⟨credential, clientId, machine, credentialed⟩
    · rintro ⟨credential, clientId, machine, credentialed⟩
      exact
        (reflects.credential credential clientId machine credentialed).1
  · rw [Option.isSome_iff_exists]
    constructor
    · rintro ⟨clientId, held⟩
      obtain ⟨credential, machine, redeemed⟩ := (told.client clientId).mp held
      exact ⟨credential, clientId, machine, redeemed⟩
    · rintro ⟨credential, clientId, machine, redeemed⟩
      exact ⟨clientId, (told.client clientId).mpr ⟨_, _, redeemed⟩⟩
  · rw [Option.isSome_iff_exists]
    constructor
    · rintro ⟨machine, held⟩
      obtain ⟨credential, clientId, redeemed⟩ := (told.machine machine).mp held
      exact ⟨credential, clientId, machine, redeemed⟩
    · rintro ⟨credential, clientId, machine, redeemed⟩
      exact ⟨machine, (told.machine machine).mpr ⟨_, _, redeemed⟩⟩

/-- A delete that was made before finds the record invalidated, and leaves it. -/
theorem repeated_delete
    (lawful : crates.Lawful)
    {before : List Op} {now earlier : Instant} {tokenId : String}
    {state : DisplayState} (fresh : Fresh before)
    (careful :
      DeletesNoRevoked crates pepper (before ++ [.delete now tokenId]))
    (isCall :
      (.delete earlier tokenId, .ok (.deleted state)) ∈
        (History.ofOps crates pepper before).log) :
    ((Op.delete now tokenId).exec crates pepper
          (History.ofOps crates pepper before).file).1 =
        .ok (.deleted state) ∧
      load crates
          ((Op.delete now tokenId).exec crates pepper
            (History.ofOps crates pepper before).file).2 =
        load crates (History.ofOps crates pepper before).file := by
  obtain ⟨records, loaded, tracks, _⟩ := tracks_ofOps lawful before fresh
  have known := tracks.known tokenId (.inr (deleted_mem_facts isCall))
  obtain ⟨record, member, rfl⟩ := List.mem_map.mp known
  have found :
      records.findKey TokenRecord.tokenId record.tokenId = some record :=
    List.findKey_of_mem tracks.distinct member rfl
  have notRevoked := careful before now _ [] records record rfl loaded found
  have told := told_ofOps lawful fresh careful.before records loaded record member
  rcases told.answered earlier state isCall with
    ⟨isRevoked, _⟩ | ⟨isInvalidated, rfl⟩
  · exact absurd isRevoked notRevoked
  · have kept : record.deleted = record := by
      unfold TokenRecord.deleted
      rw [isInvalidated]
      simp only
      rw [← isInvalidated]
    have put : putRecord record records = records :=
      List.rewriteFirst_found found
    rw [exec_delete loaded found, kept, put, load_save lawful, loaded]
    simp [TokenRecord.displayState, isInvalidated]

/-- The records tell the history of every run in which no token is deleted that is
revoked already, and of no other. -/
theorem recountsRun_iff
    (lawful : crates.Lawful) (fresh : Fresh ops) :
    RecountsRun crates pepper ops ↔
      DeletesNoRevoked crates pepper ops := by
  constructor
  · intro recounts before now tokenId after records record split loaded
      found isRevoked
    subst split
    obtain ⟨_, sameLoaded, states⟩ :=
      recounts.states before (.delete now tokenId :: after) rfl
    rw [loaded] at sameLoaded
    cases sameLoaded
    obtain ⟨member, rfl⟩ := List.findKey_eq_some found
    have redeemed :=
      redeemed_of_redeemedThenDeleted
        ((states record member).revoked.mp isRevoked)
    obtain ⟨records', loaded', states'⟩ :=
      recounts.states (before ++ [.delete now record.tokenId]) after
        (List.append_cons before _ after)
    -- The record that was revoked is invalidated now.
    have executed := @exec_delete crates pepper _ _ _ _ loaded found now
    rw [History.ofOps_snoc] at loaded' states'
    have stored :
        load crates (save crates (putRecord record.deleted records)) =
          .ok records' := by
      rw [← loaded']
      unfold History.call
      rw [executed]
    rw [load_save lawful] at stored
    cases stored
    have present :
        record.deleted.tokenId ∈ records.map TokenRecord.tokenId := by
      rw [TokenRecord.deleted_tokenId]
      exact List.mem_map_of_mem member
    obtain ⟨sameRecords, sameLoaded, tracks, _⟩ :=
      tracks_ofOps lawful before fresh.before
    rw [loaded] at sameLoaded
    cases sameLoaded
    have isStored : record.deleted ∈ putRecord record.deleted records :=
      (List.mem_rewriteFirst tracks.distinct present).mpr (.inl rfl)
    have isInvalidated : record.deleted.state = .invalidated := by
      simp [TokenRecord.deleted, isRevoked]
    have never := ((states' _ isStored).invalidated.mp isInvalidated).2
    obtain ⟨credential, clientId, machine, isFact⟩ := redeemed
    rw [TokenRecord.deleted_tokenId, ← History.ofOps_snoc] at never
    exact
      never
        ⟨credential, clientId, machine,
          facts_subset before [.delete now record.tokenId] isFact⟩
  · intro careful
    refine ⟨?_, ?_, ?_⟩
    · rintro before after rfl
      obtain ⟨records, loaded, tracks, _⟩ :=
        tracks_ofOps lawful before fresh.before
      have told := told_ofOps lawful fresh.before careful.before records loaded
      refine ⟨records, loaded, ?_⟩
      intro record member
      exact (told record member).recounts rfl (tracks.reflects record member)
    · intro before now tokenId after earlier state split isCall
      rw [List.append_cons] at split
      subst split
      exact
        repeated_delete lawful fresh.before.before careful.before isCall
    · intro before more after records records' split loaded loaded' record
        member record' member' sameId redeemed
      subst split
      have told :=
        told_ofOps lawful fresh.before.before careful.before.before records
          loaded record member
      have told' :=
        told_ofOps lawful fresh.before careful.before records' loaded' record'
          member'
      obtain ⟨credential, clientId, machine, isFact⟩ := redeemed
      have later :=
        @facts_subset crates pepper before more _ isFact
      rw [← sameId] at later
      rw [(told.client clientId).mpr ⟨_, _, isFact⟩,
        (told.machine machine).mpr ⟨_, _, isFact⟩]
      exact
        ⟨(told'.client clientId).mpr ⟨_, _, later⟩,
          (told'.machine machine).mpr ⟨_, _, later⟩⟩

end Runs

namespace Sample

def verifyCall : Op :=
  .verifyCredential seenAt tokenId credential

def deleteCall : Op :=
  .delete seenAt tokenId

theorem ofOps_verify :
    History.ofOps .sample pepper [mint, redeemCall, verifyCall] =
      { log :=
          [(mint, .ok (.minted mintResult)),
            (redeemCall,
              .ok (.redeemed ⟨tokenId, clientId, credential⟩)),
            (verifyCall, .ok (.verified client))]
        file := save .sample [seen] } := by
  have executed :
      verifyCall.exec .sample pepper (save .sample [bound]) =
        (.ok (.verified client), save .sample [seen]) := exec_verify
  have calls :
      [mint, redeemCall, verifyCall] = [mint, redeemCall] ++ [verifyCall] := rfl
  rw [calls, History.ofOps_snoc, sample_ofOps_redeem]
  unfold History.call
  rw [executed]
  rfl

/-- The life of the token of the sample, which is deleted once. -/
theorem recountsRun_iff_deleted_once :
    Fresh [mint, redeemCall, verifyCall, deleteCall] ∧
      RecountsRun .sample pepper
        [mint, redeemCall, verifyCall, deleteCall] := by
  have fresh : Fresh [mint, redeemCall, verifyCall, deleteCall] :=
    List.nodup_singleton _
  refine
    ⟨fresh, (recountsRun_iff Crates.sample_lawful fresh).mpr ?_⟩
  intro before now tokenId' after records record split loaded found
  -- The only delete is the last call.
  have isLast : before = [mint, redeemCall, verifyCall] := by
    rcases before with _ | ⟨first, _ | ⟨second, _ | ⟨third, rest⟩⟩⟩
    · cases (List.cons.inj split).1
    · cases (List.cons.inj (List.cons.inj split).2).1
    · cases (List.cons.inj (List.cons.inj (List.cons.inj split).2).2).1
    · obtain ⟨isMint, afterMint⟩ := List.cons.inj split
      obtain ⟨isRedeem, afterRedeem⟩ := List.cons.inj afterMint
      obtain ⟨isVerify, afterVerify⟩ := List.cons.inj afterRedeem
      rw [← isMint, ← isRedeem, ← isVerify]
      rcases List.append_eq_singleton_iff.mp afterVerify.symm with
        ⟨none, _⟩ | ⟨_, impossible⟩
      · rw [none]
      · cases impossible
  subst isLast
  rw [ofOps_verify, load_save Crates.sample_lawful] at loaded
  cases loaded
  obtain ⟨member, _⟩ := List.findKey_eq_some found
  rw [List.mem_singleton.mp member]
  intro impossible
  cases impossible

/-- The record that a second delete leaves. -/
def invalidated : TokenRecord :=
  { revoked with state := .invalidated }

def delete : Mutation :=
  .delete seenAt tokenId

theorem modify_delete :
    delete.modify Crates.sample pepper [seen] =
      .ok ([revoked], .deleted .revoked) := by
  refine Result.bind_eq_ok.mpr ⟨(_, _), deleteSection_eq_ok.mpr
    ⟨seen, ?_, rfl, rfl⟩, ?_⟩
  · simp [List.findKey, seen, bound, minted]
  · simp [putRecord, List.rewriteFirst, TokenRecord.deleted, revoked,
      seen, bound, minted, TokenRecord.displayState]

theorem exec_deleteCall :
    deleteCall.exec .sample pepper (save .sample [seen]) =
      (.ok (.deleted .revoked), save .sample [revoked]) :=
  Mutation.exec_of_modify (load_save Crates.sample_lawful _) modify_delete

theorem exec_deleteCall_revoked :
    deleteCall.exec .sample pepper (save .sample [revoked]) =
      (.ok (.deleted .invalidated), save .sample [invalidated]) := by
  have found :
      [revoked].findKey TokenRecord.tokenId tokenId = some revoked := by
    simp [List.findKey, revoked, seen, bound, minted]
  have isInvalidated : revoked.deleted = invalidated := rfl
  unfold deleteCall
  rw [exec_delete (load_save Crates.sample_lawful _) found, isInvalidated]
  simp [putRecord, List.rewriteFirst, TokenRecord.displayState, invalidated]

theorem ofOps_deleted :
    History.ofOps .sample pepper
        ([mint, redeemCall, verifyCall] ++ [deleteCall]) =
      { log :=
          [(mint, .ok (.minted mintResult)),
            (redeemCall,
              .ok (.redeemed ⟨tokenId, clientId, credential⟩)),
            (verifyCall, .ok (.verified client)),
            (deleteCall, .ok (.deleted .revoked))]
        file := save .sample [revoked] } := by
  rw [History.ofOps_snoc, ofOps_verify]
  unfold History.call
  rw [exec_deleteCall]
  rfl

theorem ofOps_deleted_twice :
    History.ofOps .sample pepper
        ([mint, redeemCall, verifyCall] ++ [deleteCall] ++ [deleteCall]) =
      { log :=
          [(mint, .ok (.minted mintResult)),
            (redeemCall,
              .ok (.redeemed ⟨tokenId, clientId, credential⟩)),
            (verifyCall, .ok (.verified client)),
            (deleteCall, .ok (.deleted .revoked)),
            (deleteCall, .ok (.deleted .invalidated))]
        file := save .sample [invalidated] } := by
  rw [History.ofOps_snoc, ofOps_deleted]
  unfold History.call
  rw [exec_deleteCall_revoked]
  rfl

/-- The token was redeemed and is invalidated like one that was never used; the second
delete answers otherwise than the first. -/
theorem second_delete_forgets_the_redeem :
    let calls := [mint, redeemCall, verifyCall] ++ [deleteCall] ++ [deleteCall]
    Fresh calls ∧
      deleteCall.exec .sample pepper (save .sample [seen]) =
        (.ok (.deleted .revoked), save .sample [revoked]) ∧
      deleteCall.exec .sample pepper (save .sample [revoked]) =
        (.ok (.deleted .invalidated), save .sample [invalidated]) ∧
      ¬RecountsRun .sample pepper calls := by
  intro calls
  refine
    ⟨List.nodup_singleton _, exec_deleteCall, exec_deleteCall_revoked, ?_⟩
  intro recounts
  obtain ⟨records, loaded, states⟩ :=
    recounts.states calls [] (List.append_nil _).symm
  unfold calls at loaded states
  rw [ofOps_deleted_twice] at loaded states
  have sameRecords : [invalidated] = records :=
    Result.ok.inj ((load_save Crates.sample_lawful _).symm.trans loaded)
  have told := states invalidated (by rw [← sameRecords]; exact List.mem_cons_self)
  have never := (told.invalidated.mp rfl).2
  apply never
  refine ⟨credential, clientId, "laptop", ?_⟩
  exact List.mem_cons_of_mem _ List.mem_cons_self

end Sample

end HollerServer.Token
