import Mathlib.Data.List.Induction
import HollerServer.Token.Facts
import HollerServer.Token.Sample

/-!
# Histories of a store

A history is the list of calls made on a store that starts empty, with their
replies.  Every call has one of a few effects on the records, and each keeps
them in step with the facts of the history.  The exact conditions under which a
redeem or an authentication succeeds are read off that.
-/

namespace HollerServer.Token

/-- A store and the calls that were made on it. -/
structure History where
  log : List (Op × Reply) := []
  file : File := none

namespace History

variable (crates : Crates) (pepper : List UInt8)

/-- Make one more call. -/
def call (history : History) (op : Op) : History where
  log := history.log ++ [(op, (op.exec crates pepper history.file).1)]
  file := (op.exec crates pepper history.file).2

/-- The calls in order, on a store that starts empty. -/
def ofOps (ops : List Op) : History :=
  ops.foldl (call crates pepper) {}

def facts (history : History) : List Fact :=
  history.log.filterMap Fact.of?

theorem ofOps_snoc (ops : List Op) (op : Op) :
    ofOps crates pepper (ops ++ [op]) =
      (ofOps crates pepper ops).call crates pepper op := by
  unfold ofOps
  rw [List.foldl_append]
  rfl

theorem facts_call (history : History) (op : Op) :
    (history.call crates pepper op).facts =
      history.facts ++
        (Fact.of? (op, (op.exec crates pepper history.file).1)).toList := by
  unfold facts call
  rw [List.filterMap_append]
  cases found : Fact.of? (op, (op.exec crates pepper history.file).1) with
  | none => simp [found]
  | some fact => simp [found]

end History

/-- The random bytes a mint makes its token id from. -/
def Op.idDraw? : Op → Option (Vector UInt8 16)
  | .mint _ idDraw _ _ _ => idDraw
  | _ => none

/-- No two mints draw the same id. -/
def Fresh (ops : List Op) : Prop :=
  (ops.filterMap Op.idDraw?).Nodup

section Calls

variable {crates : Crates} {pepper : List UInt8}

/-- A call that did not return leaves no fact. -/
theorem Fact.of?_eq_none
    {op : Op} {reply : Reply} (failed : reply.isOk = false) :
    Fact.of? (op, reply) = none := by
  cases reply with
  | ok answer => cases failed
  | err error => cases op <;> rfl
  | panicked => cases op <;> rfl

/-- What a call can do to the records it finds. -/
inductive Effect
    (crates : Crates) (pepper : List UInt8) (records : List TokenRecord) :
    Op → Reply → List TokenRecord → Prop
  | none {op reply} (quiet : Fact.of? (op, reply) = Option.none) :
      Effect crates pepper records op reply records
  | minted {now idDraw secretDraw label ttl record result}
      (minted :
        mintRecord crates pepper now idDraw secretDraw label ttl =
          .ok (record, result)) :
      Effect crates pepper records
        (.mint now idDraw secretDraw label ttl)
        (.ok (.minted result)) (records ++ [record])
  | redeemed
      {now clientDraw credentialDraw tokenId secret machine records'
        result}
      (redeemed :
        redeemSection crates pepper now clientDraw credentialDraw tokenId
          secret machine records = .ok (records', result)) :
      Effect crates pepper records
        (.redeem now clientDraw credentialDraw tokenId secret machine)
        (.ok (.redeemed result)) records'
  | verified {now tokenId credential records' client}
      (verified :
        verifySection crates pepper now tokenId credential records =
          .ok (records', client)) :
      Effect crates pepper records
        (.verifyCredential now tokenId credential)
        (.ok (.verified client)) records'
  | deleted {now tokenId records' state}
      (deleted :
        deleteSection crates now tokenId records =
          .ok (records', state)) :
      Effect crates pepper records (.delete now tokenId)
        (.ok (.deleted state)) records'

/-- A mutation that fails has no effect; one that succeeds leaves the saved
records of its critical section. -/
theorem Mutation.exec_effect
    (lawful : crates.Lawful)
    {op : Op} {file : File} {records : List TokenRecord}
    (loaded : load crates file = .ok records) (mutation : Mutation)
    (same :
      op.exec crates pepper file = mutation.exec crates pepper file)
    (effects :
      ∀ records' answer,
        mutation.modify crates pepper records = .ok (records', answer) →
        Effect crates pepper records op (.ok answer) records') :
    ∃ records',
      load crates (op.exec crates pepper file).2 = .ok records' ∧
      Effect crates pepper records op (op.exec crates pepper file).1
        records' := by
  rw [same]
  unfold Mutation.exec
  rcases withLock_cases (mutation.modify crates pepper) loaded with
    ⟨records', answer, modified, executed⟩ | ⟨_, failed, unchanged⟩
  · rw [executed]
    exact
      ⟨records', load_save lawful records',
        effects records' answer modified⟩
  · rw [unchanged]
    exact ⟨records, loaded, .none (Fact.of?_eq_none failed)⟩

/-- Every call has one of these effects. -/
theorem Op.exec_effect
    (lawful : crates.Lawful)
    (op : Op) {file : File} {records : List TokenRecord}
    (loaded : load crates file = .ok records) :
    ∃ records',
      load crates (op.exec crates pepper file).2 = .ok records' ∧
      Effect crates pepper records op (op.exec crates pepper file).1
        records' := by
  cases op with
  | mint now idDraw secretDraw label ttl =>
      cases minted :
          mintRecord crates pepper now idDraw secretDraw label ttl with
      | ok pair =>
          refine
            Mutation.exec_effect lawful loaded (.mint pair.1 pair.2)
              (by simp only [Op.exec, minted]) ?_
          intro records' answer modified
          cases modified
          exact .minted minted
      | err error =>
          simp only [Op.exec, minted]
          exact ⟨records, loaded, .none rfl⟩
      | panicked =>
          simp only [Op.exec, minted]
          exact ⟨records, loaded, .none rfl⟩
  | redeem now clientDraw credentialDraw tokenId secret machine =>
      refine Mutation.exec_effect lawful loaded _ rfl ?_
      intro records' answer modified
      obtain ⟨_, redeemed, built⟩ := Result.bind_eq_ok.mp modified
      cases built
      exact .redeemed redeemed
  | verifyCredential now tokenId credential =>
      refine Mutation.exec_effect lawful loaded _ rfl ?_
      intro records' answer modified
      obtain ⟨_, verified, built⟩ := Result.bind_eq_ok.mp modified
      cases built
      exact .verified verified
  | delete now tokenId =>
      refine Mutation.exec_effect lawful loaded _ rfl ?_
      intro records' answer modified
      obtain ⟨_, deleted, built⟩ := Result.bind_eq_ok.mp modified
      cases built
      exact .deleted deleted
  | list now => exact ⟨records, loaded, .none rfl⟩
  | ping tokenId probe => exact ⟨records, loaded, .none rfl⟩

/-- Every call keeps the records in step with what happened, as long as a mint
does not draw the id of a stored record. -/
theorem Effect.tracks
    (lawful : crates.Lawful)
    {op : Op} {reply : Reply} {facts : List Fact}
    {records records' : List TokenRecord}
    (effect : Effect crates pepper records op reply records')
    (tracks : Tracks crates pepper facts records)
    (new :
      ∀ bytes, op.idDraw? = some bytes →
        "tok_" ++ toHex bytes.toList ∉ records.map TokenRecord.tokenId) :
    Tracks crates pepper (facts ++ (Fact.of? (op, reply)).toList)
        records' ∧
      ∀ tokenId ∈ records'.map TokenRecord.tokenId,
        tokenId ∈ records.map TokenRecord.tokenId ∨
          ∃ bytes, op.idDraw? = some bytes ∧
            tokenId = "tok_" ++ toHex bytes.toList := by
  have sameIds :
      ∀ record,
        ∀ tokenId ∈
          (putRecord record records).map TokenRecord.tokenId,
          tokenId ∈ records.map TokenRecord.tokenId ∨
            ∃ bytes, op.idDraw? = some bytes ∧
              tokenId = "tok_" ++ toHex bytes.toList := by
    intro record tokenId member
    rw [putRecord, List.map_rewriteFirst rfl] at member
    exact Or.inl member
  cases effect with
  | none quiet =>
      rw [quiet]
      refine ⟨?_, fun tokenId member => Or.inl member⟩
      simpa using tracks
  | @minted now idDraw secretDraw label ttl record result minted =>
      obtain ⟨⟨bytes, drawn, named⟩, sameId, sameHash, unused, _, _,
        unhashed, _, formatted⟩ := mintRecord_eq_ok minted
      have unknown :
          record.tokenId ∉ records.map TokenRecord.tokenId := by
        rw [sameId, named]
        exact new bytes drawn
      constructor
      · have grown :=
          tracks.mint unknown sameHash (lawful.parse_format formatted)
            unused unhashed
        rw [sameId] at grown
        exact grown
      · intro tokenId member
        rw [List.map_append, List.mem_append] at member
        rcases member with old | added
        · exact Or.inl old
        · rw [List.map_singleton, List.mem_singleton] at added
          exact Or.inr ⟨bytes, drawn, by rw [added, sameId, named]⟩
  | redeemed redeemed =>
      obtain ⟨record, clientBytes, credentialBytes, found, unused, _, _,
        _, isResult, rfl⟩ := redeemSection_eq_ok.mp redeemed
      subst isResult
      exact
        ⟨tracks.redeem found (displayState_unused.mp unused).1,
          sameIds _⟩
  | verified verified =>
      obtain ⟨record, lastSeen, found, _, _, _, _, rfl⟩ :=
        verifySection_eq_ok.mp verified
      refine ⟨?_, sameIds _⟩
      simpa [Fact.of?] using tracks.see found
  | deleted deleted =>
      obtain ⟨record, found, _, rfl⟩ := deleteSection_eq_ok.mp deleted
      exact ⟨tracks.delete found, sameIds _⟩

end Calls

/-! ## The sample token is minted, redeemed and seen -/

namespace Sample

def mint : Op :=
  .mint mintedAt (some idBytes) (some secretBytes) none ttl

def redeemCall : Op :=
  .redeem mintedAt (some clientBytes) (some credentialBytes) tokenId
    secret "laptop"

def mintResult : MintResult :=
  ⟨tokenId, secret, "2023-11-14T23:13:20Z"⟩

theorem mintRecord_mint :
    mintRecord Crates.sample pepper mintedAt (some idBytes)
        (some secretBytes) none ttl =
      .ok (minted, mintResult) := by
  have added :
      addDuration mintedAt.nanos ttl = .ok (mintedAt.nanos + ttl) := by
    decide
  have expires :
      format Crates.sample (mintedAt.nanos + ttl) =
        .ok "2023-11-14T23:13:20Z" :=
    format_eq_ok.mpr (format_time (by decide))
  have created :
      format Crates.sample mintedAt.nanos =
        .ok "2023-11-14T22:13:20Z" :=
    format_eq_ok.mpr (format_time (by decide))
  have hashed :
      hashSecret Crates.sample pepper secret = toHex secretDigest :=
    hashSecret_digest List.mem_cons_self
  unfold secret at hashed
  unfold mintRecord randomHex
  simp only [Result.ok_bind, added, expires, created, hashed]
  rfl

theorem exec_mint :
    mint.exec .sample pepper none =
      (.ok (.minted mintResult), save .sample [minted]) := by
  unfold mint
  rw [Op.exec, mintRecord_mint]
  exact Mutation.exec_of_modify load_none rfl

def redeem : Mutation :=
  .redeem mintedAt (some clientBytes) (some credentialBytes) tokenId
    secret "laptop"

theorem displayState_minted :
    minted.displayState Crates.sample mintedAt.nanos = .unused := by
  have parsed :
      Crates.sample.parseRfc3339 minted.expires =
        some (mintedAt.nanos + ttl) :=
    Crates.sample_lawful.parse_format (format_time (by decide))
  unfold TokenRecord.displayState
  simp only [minted] at parsed ⊢
  rw [parsed]
  decide

theorem verifySecret_minted :
    verifySecret Crates.sample pepper secret minted.secretHash =
      .ok true := by
  have hashed :
      minted.secretHash = hashSecret Crates.sample pepper secret :=
    (hashSecret_digest List.mem_cons_self).symm
  rw [hashed, verifySecret_hashSecret (Crates.sample_collisionFree _)]
  simp

theorem modify_redeem :
    redeem.modify Crates.sample pepper [minted] =
      .ok ([bound], .redeemed ⟨tokenId, clientId, credential⟩) := by
  have isBound :
      minted.redeemed Crates.sample pepper "laptop" clientId
        credential = bound := by
    unfold TokenRecord.redeemed
    rw [hashSecret_digest
      (List.mem_cons_of_mem _ List.mem_cons_self)]
    rfl
  refine Result.bind_eq_ok.mpr ⟨(_, _), redeemSection_eq_ok.mpr
    ⟨minted, clientBytes, credentialBytes, ?_, displayState_minted,
      verifySecret_minted, rfl, rfl, rfl, rfl⟩, ?_⟩
  · simp [List.findKey, minted]
  · rw [← isBound]
    rfl

theorem exec_redeemCall :
    redeemCall.exec .sample pepper (save .sample [minted]) =
      (.ok (.redeemed ⟨tokenId, clientId, credential⟩),
        save .sample [bound]) :=
  Mutation.exec_of_modify (load_save Crates.sample_lawful _)
    modify_redeem

def verify : Mutation :=
  .verifyCredential seenAt tokenId credential

def client : VerifiedClient :=
  ⟨tokenId, clientId, "laptop"⟩

theorem modify_verify_record {record : TokenRecord}
    (token : record.tokenId = tokenId) (isBound : record.state = .bound)
    (hash : record.credentialHash = some (toHex credentialDigest))
    (ofClient : record.clientId = some clientId)
    (ofMachine : record.machine = some "laptop") :
    verify.modify Crates.sample pepper [record] =
      .ok
        ([{ record with lastSeen := some "2023-11-14T22:14:20Z" }],
          .verified client) := by
  have matching :
      credentialMatches Crates.sample pepper credential
        record.credentialHash = .ok true := by
    have hashed :
        record.credentialHash =
          some (hashSecret Crates.sample pepper credential) := by
      rw [hash, hashSecret_digest
        (List.mem_cons_of_mem _ List.mem_cons_self)]
    rw [hashed]
    exact
      (credentialMatches_hashSecret (Crates.sample_collisionFree _) _
        _).mpr rfl
  refine Result.bind_eq_ok.mpr ⟨(_, _), verifySection_eq_ok.mpr
    ⟨record, "2023-11-14T22:14:20Z", ?_, isBound, matching,
      format_time (by decide), rfl, rfl⟩, ?_⟩
  · simp [List.findKey, token]
  · simp [putRecord, List.rewriteFirst, client, ofClient, ofMachine]

theorem exec_verify :
    verify.exec .sample pepper (save .sample [bound]) =
      (.ok (.verified client), save .sample [seen]) :=
  Mutation.exec_of_modify (load_save Crates.sample_lawful _)
    (modify_verify_record rfl rfl rfl rfl rfl)

end Sample

/-! ## Runs -/

section Runs

variable {crates : Crates} {pepper : List UInt8}

/-- Different random bytes name different tokens. -/
theorem tokenId_injective {first second : Vector UInt8 16}
    (same :
      "tok_" ++ toHex first.toList = "tok_" ++ toHex second.toList) :
    first = second := by
  have sameHex := (String.append_right_inj "tok_").mp same
  have readBack : fromHex (toHex first.toList) =
      (.ok (some second.toList) : Result TokenError _) := by
    rw [sameHex, fromHex_toHex]
  rw [fromHex_toHex] at readBack
  exact
    Vector.toList_inj.mp (Option.some.inj (Result.ok.inj readBack))

/-- The id was drawn by one of the calls. -/
def Issued (ops : List Op) (tokenId : String) : Prop :=
  ∃ bytes ∈ ops.filterMap Op.idDraw?,
    tokenId = "tok_" ++ toHex bytes.toList

/-- A fresh id is that of no record. -/
theorem Fresh.new
    {ops : List Op} {op : Op} (fresh : Fresh (ops ++ [op]))
    {records : List TokenRecord}
    (issued :
      ∀ tokenId ∈ records.map TokenRecord.tokenId, Issued ops tokenId) :
    ∀ bytes, op.idDraw? = some bytes →
      "tok_" ++ toHex bytes.toList ∉ records.map TokenRecord.tokenId := by
  unfold Fresh at fresh
  rw [List.filterMap_append, List.nodup_append] at fresh
  obtain ⟨_, _, apart⟩ := fresh
  intro bytes drawn member
  obtain ⟨earlier, drawnEarlier, same⟩ := issued _ member
  refine apart earlier drawnEarlier bytes ?_ ?_
  · simp [drawn]
  · exact (tokenId_injective same).symm

theorem Fresh.before
    {before after : List Op} (fresh : Fresh (before ++ after)) :
    Fresh before := by
  unfold Fresh at fresh ⊢
  rw [List.filterMap_append] at fresh
  exact fresh.of_append_left

/-- After any calls the file can be loaded, and its records are in step with
what happened. -/
theorem tracks_ofOps
    (lawful : crates.Lawful) (ops : List Op)
    (fresh : Fresh ops) :
    ∃ records,
      load crates (History.ofOps crates pepper ops).file = .ok records ∧
      Tracks crates pepper (History.ofOps crates pepper ops).facts
        records ∧
      ∀ tokenId ∈ records.map TokenRecord.tokenId,
        Issued ops tokenId := by
  induction ops using List.reverseRecOn with
  | nil =>
      refine ⟨[], rfl, ⟨List.nodup_nil, nofun, nofun, ?_, ?_⟩, nofun⟩
      · rintro tokenId (⟨_, _, _, impossible⟩ | impossible)
        · cases impossible
        · cases impossible
      · intro tokenId
        exact Nat.zero_le 1
  | append_singleton ops op inductionHypothesis =>
      obtain ⟨records, loaded, tracks, issued⟩ :=
        inductionHypothesis fresh.before
      obtain ⟨records', loaded', effect⟩ :=
        op.exec_effect lawful loaded
      obtain ⟨tracks', ids⟩ :=
        effect.tracks lawful tracks (fresh.new issued)
      rw [History.ofOps_snoc, History.facts_call]
      refine ⟨records', loaded', tracks', ?_⟩
      intro tokenId member
      unfold Issued
      rw [List.filterMap_append]
      rcases ids tokenId member with old | ⟨bytes, drawn, named⟩
      · obtain ⟨earlier, drawnEarlier, named⟩ := issued tokenId old
        exact ⟨earlier, List.mem_append_left _ drawnEarlier, named⟩
      · refine ⟨bytes, List.mem_append_right _ ?_, named⟩
        simp [drawn]

/-- A redeem finds what it needs exactly if its token was minted with its
secret, has not expired, and was neither redeemed nor deleted. -/
theorem Tracks.redeem_ready
    {facts : List Fact} {records : List TokenRecord}
    (collisionFree : crates.CollisionFree pepper)
    (tracks : Tracks crates pepper facts records)
    (now : Int) (tokenId secret : String) :
    (∃ record,
      records.findKey TokenRecord.tokenId tokenId = some record ∧
      record.displayState crates now = .unused ∧
      verifySecret crates pepper secret record.secretHash = .ok true) ↔
    ∃ expiry, .minted tokenId secret expiry ∈ facts ∧ now < expiry ∧
      ¬ Redeemed facts tokenId ∧ .deleted tokenId ∉ facts := by
  constructor
  · rintro ⟨record, found, displayed, verified⟩
    obtain ⟨member, rfl⟩ := List.findKey_eq_some found
    have reflects := tracks.reflects record member
    obtain ⟨unused, unexpired⟩ := displayState_unused.mp displayed
    obtain ⟨minted, expiry, isMinted, sameHash, parsed⟩ :=
      reflects.secret
    rw [sameHash, verifySecret_hashSecret collisionFree] at verified
    have sameSecret : secret = minted := by simpa using verified
    subst sameSecret
    exact
      ⟨expiry, isMinted, unexpired expiry parsed,
        reflects.unused.mp unused⟩
  · rintro ⟨expiry, isMinted, unexpired, untouched⟩
    obtain ⟨record, member, rfl, sameHash, parsed⟩ :=
      tracks.minted tokenId secret expiry isMinted
    have reflects := tracks.reflects record member
    refine
      ⟨record, List.findKey_of_mem tracks.distinct member rfl, ?_, ?_⟩
    · refine
        displayState_unused.mpr ⟨reflects.unused.mpr untouched, ?_⟩
      intro expiry' parsed'
      rw [parsed] at parsed'
      rw [← Option.some.inj parsed']
      exact unexpired
    · rw [sameHash, verifySecret_hashSecret collisionFree]
      simp

/-- After any calls on an empty store, a redeem that can draw its random bytes
succeeds exactly if the token was minted with the presented secret, its time has
not run out, and it was neither redeemed nor deleted.  A redeem that fails
leaves the file as it was, and no token is redeemed twice. -/
theorem redeem_exact
    (lawful : crates.Lawful)
    (collisionFree : crates.CollisionFree pepper)
    (ops : List Op) (fresh : Fresh ops)
    (now : Instant) (clientBytes : Vector UInt8 16)
    (credentialBytes : Vector UInt8 32)
    (tokenId secret machine : String) :
    let history := History.ofOps crates pepper ops
    let outcome :=
      (Op.redeem now (some clientBytes) (some credentialBytes) tokenId
        secret machine).exec crates pepper history.file
    (outcome.1.isOk = true ↔
      ∃ expiry, .minted tokenId secret expiry ∈ history.facts ∧
        now.nanos < expiry ∧
        ¬ Redeemed history.facts tokenId ∧
        .deleted tokenId ∉ history.facts) ∧
    (outcome.1.isOk = false → outcome.2 = history.file) ∧
    (history.facts.filter (Fact.redeems tokenId)).length ≤ 1 := by
  intro history outcome
  obtain ⟨records, loaded, tracks, _⟩ := tracks_ofOps lawful ops fresh
  refine ⟨?_, Mutation.file_of_not_ok, tracks.once tokenId⟩
  rw [← tracks.redeem_ready collisionFree now.nanos tokenId secret]
  refine (Mutation.isOk_exec loaded).trans ?_
  exact and_iff_left ⟨rfl, rfl⟩

theorem sample_ofOps_mint :
    History.ofOps .sample Sample.pepper [Sample.mint] =
      { log := [(Sample.mint, .ok (.minted Sample.mintResult))]
        file := save .sample [Sample.minted] } := by
  show History.call .sample Sample.pepper {} Sample.mint = _
  unfold History.call
  rw [Sample.exec_mint]
  rfl

/-- The token minted in the sample can be redeemed with its secret. -/
theorem redeem_exact_sample :
    ((Op.redeem Sample.mintedAt (some Sample.clientBytes)
      (some Sample.credentialBytes) Sample.tokenId Sample.secret
      "laptop").exec .sample Sample.pepper
        (History.ofOps .sample Sample.pepper [Sample.mint]).file).1.isOk =
      true := by
  have redeemable :=
    redeem_exact Crates.sample_lawful
      (Crates.sample_collisionFree Sample.pepper)
      [Sample.mint]
      (List.nodup_singleton _) Sample.mintedAt Sample.clientBytes
      Sample.credentialBytes Sample.tokenId Sample.secret "laptop"
  refine redeemable.1.mpr ⟨Sample.mintedAt.nanos + Sample.ttl, ?_⟩
  rw [sample_ofOps_mint]
  refine ⟨List.mem_cons_self, by decide, ?_, ?_⟩
  · rintro ⟨_, _, _, redeemed⟩
    cases List.mem_singleton.mp redeemed
  · intro deleted
    cases List.mem_singleton.mp deleted

/-- A presented credential is accepted exactly if a redeem of the token returned
it and the token was not deleted since; the record then holds the client and the
machine of that redeem. -/
theorem Tracks.verify_ready
    {facts : List Fact} {records : List TokenRecord}
    (collisionFree : crates.CollisionFree pepper)
    (tracks : Tracks crates pepper facts records)
    (tokenId credential clientId machine : String) :
    Credentialed facts tokenId credential clientId machine ↔
    ∃ record,
      records.findKey TokenRecord.tokenId tokenId = some record ∧
      record.state = .bound ∧
      credentialMatches crates pepper credential
        record.credentialHash = .ok true ∧
      record.clientId.getD "" = clientId ∧
      record.machine.getD "" = machine := by
  constructor
  · intro credentialed
    obtain ⟨record, member, rfl⟩ :=
      List.mem_map.mp
        (tracks.known tokenId
          (Or.inl (redeemed_of_credentialed credentialed)))
    obtain ⟨bound, sameHash, sameClient, sameMachine⟩ :=
      (tracks.reflects record member).credential _ _ _ credentialed
    refine
      ⟨record, List.findKey_of_mem tracks.distinct member rfl, bound,
        ?_, ?_, ?_⟩
    · rw [sameHash]
      exact (credentialMatches_hashSecret collisionFree _ _).mpr rfl
    · rw [sameClient, Option.getD_some]
    · rw [sameMachine, Option.getD_some]
  · rintro ⟨record, found, bound, accepted, isClient, isMachine⟩
    obtain ⟨member, rfl⟩ := List.findKey_eq_some found
    have reflects := tracks.reflects record member
    obtain ⟨stored, storedClient, storedMachine, credentialed, sameHash,
      sameClient, sameMachine⟩ := reflects.bound bound
    rw [sameHash, credentialMatches_hashSecret collisionFree] at accepted
    rw [sameClient, Option.getD_some] at isClient
    rw [sameMachine, Option.getD_some] at isMachine
    subst accepted isClient isMachine
    exact credentialed

/-- A credential that a redeem returned is accepted: the client and the machine
of that redeem are returned and only the time the token was last seen changes. -/
theorem Tracks.exec_verify
    {facts : List Fact} {records : List TokenRecord}
    (lawful : crates.Lawful)
    (collisionFree : crates.CollisionFree pepper)
    (tracks : Tracks crates pepper facts records)
    {file : File} (loaded : load crates file = .ok records)
    {now : Instant} {lastSeen : String}
    (formatted : crates.formatRfc3339 now.nanos = .ok lastSeen)
    {tokenId credential clientId machine : String}
    (credentialed :
      Credentialed facts tokenId credential clientId machine) :
    let outcome :=
      (Op.verifyCredential now tokenId credential).exec crates pepper
        file
    outcome.1 = .ok (.verified ⟨tokenId, clientId, machine⟩) ∧
    load crates outcome.2 =
      .ok (records.map fun record =>
        if record.tokenId = tokenId then
          { record with lastSeen := some lastSeen }
        else record) := by
  intro outcome
  obtain ⟨record, found, bound, matching, rfl, rfl⟩ :=
    (tracks.verify_ready collisionFree _ _ _ _).mp credentialed
  have verified :=
    verifySection_eq_ok.mpr
      ⟨record, lastSeen, found, bound, matching, formatted, rfl, rfl⟩
  have executed :
      outcome =
        (.ok (.verified
          ⟨tokenId, record.clientId.getD "", record.machine.getD ""⟩),
          save crates
            (putRecord { record with lastSeen := some lastSeen }
              records)) := by
    refine Mutation.exec_of_modify loaded ?_
    exact Result.bind_eq_ok.mpr ⟨_, verified, rfl⟩
  obtain ⟨_, rfl⟩ := List.findKey_eq_some found
  rw [executed]
  refine ⟨rfl, (load_save lawful _).trans (congrArg Result.ok ?_)⟩
  exact
    List.rewriteFirst_eq_map
      (fun record => { record with lastSeen := some lastSeen })
      tracks.distinct found

/-- After any calls on an empty store, a credential is accepted exactly if an
earlier redeem of the token returned it and the token was not deleted since.  On
success the client and the machine of that redeem are returned and only the time
the token was last seen changes; on failure the file stays.  A stored record has
a credential hash exactly if it is bound. -/
theorem verify_exact
    (lawful : crates.Lawful)
    (collisionFree : crates.CollisionFree pepper)
    (ops : List Op) (fresh : Fresh ops)
    (now : Instant) (tokenId credential : String) :
    let history := History.ofOps crates pepper ops
    let outcome :=
      (Op.verifyCredential now tokenId credential).exec crates pepper
        history.file
    ∃ records,
      load crates history.file = .ok records ∧
      (outcome.1.isOk = true ↔
        ∃ clientId machine,
          Credentialed history.facts tokenId credential clientId
            machine) ∧
      (∀ clientId machine,
        Credentialed history.facts tokenId credential clientId machine →
        outcome.1 = .ok (.verified ⟨tokenId, clientId, machine⟩) ∧
        ∃ lastSeen,
          crates.formatRfc3339 now.nanos = .ok lastSeen ∧
          load crates outcome.2 =
            .ok (records.map fun record =>
              if record.tokenId = tokenId then
                { record with lastSeen := some lastSeen }
              else record)) ∧
      (outcome.1.isOk = false → outcome.2 = history.file) ∧
      ∀ record ∈ records,
        record.credentialHash.isSome = true ↔ record.state = .bound := by
  intro history outcome
  obtain ⟨records, loaded, tracks, _⟩ := tracks_ofOps lawful ops fresh
  obtain ⟨lastSeen, formatted⟩ := lawful.format_clock now
  have accepted {clientId machine : String}
      (credentialed :
        Credentialed history.facts tokenId credential clientId
          machine) :=
    tracks.exec_verify lawful collisionFree loaded formatted credentialed
  refine
    ⟨records, loaded, ?_, ?_, Mutation.file_of_not_ok, ?_⟩
  · constructor
    · intro succeeded
      obtain ⟨⟨record, found, bound, matching⟩, _⟩ :=
        (Mutation.isOk_exec loaded).mp succeeded
      exact
        ⟨_, _, (tracks.verify_ready collisionFree _ _ _ _).mpr
          ⟨record, found, bound, matching, rfl, rfl⟩⟩
    · rintro ⟨clientId, machine, credentialed⟩
      rw [(accepted credentialed).1]
      rfl
  · intro clientId machine credentialed
    obtain ⟨replied, stored⟩ := accepted credentialed
    exact ⟨replied, lastSeen, formatted, stored⟩
  · intro record member
    have reflects := tracks.reflects record member
    constructor
    · exact reflects.hashed
    · intro bound
      obtain ⟨_, _, _, _, sameHash, _⟩ := reflects.bound bound
      rw [sameHash]
      rfl

theorem sample_ofOps_redeem :
    History.ofOps .sample Sample.pepper
        [Sample.mint, Sample.redeemCall] =
      { log :=
          [(Sample.mint, .ok (.minted Sample.mintResult)),
            (Sample.redeemCall,
              .ok (.redeemed
                ⟨Sample.tokenId, Sample.clientId, Sample.credential⟩))]
        file := save .sample [Sample.bound] } := by
  rw [← List.singleton_append, History.ofOps_snoc, sample_ofOps_mint]
  unfold History.call
  rw [Sample.exec_redeemCall]
  rfl

/-- The credential of the sample is accepted after the redeem that returned it,
and only the time the token was last seen changes. -/
theorem verify_exact_sample :
    (((Op.verifyCredential Sample.seenAt Sample.tokenId
        Sample.credential).exec .sample Sample.pepper
        (History.ofOps .sample Sample.pepper
          [Sample.mint, Sample.redeemCall]).file).1 =
      .ok (.verified Sample.client)) := by
  have fresh : Fresh [Sample.mint, Sample.redeemCall] :=
    List.nodup_singleton _
  obtain ⟨records, _, _, accepted, _⟩ :=
    verify_exact Crates.sample_lawful
      (Crates.sample_collisionFree Sample.pepper)
      [Sample.mint, Sample.redeemCall] fresh Sample.seenAt Sample.tokenId Sample.credential
  refine (accepted Sample.clientId "laptop" ?_).1
  rw [sample_ofOps_redeem]
  exact ⟨[_], [], rfl, nofun⟩

end Runs

end HollerServer.Token
