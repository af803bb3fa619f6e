import HollerServer.Token.Store

/-!
# What happened to a token

Three kinds of call leave a fact behind: a mint, a redeem and a delete that
succeeded.  `Tracks` says how the stored records reflect the facts of a store
that began empty.  One lemma for each kind of call says that the records stay in
step.
-/

namespace HollerServer.Token

/-- What a successful call establishes. -/
inductive Fact where
  | minted (tokenId secret : String) (expiry : Int)
  | redeemed (tokenId credential clientId machine : String)
  | deleted (tokenId : String)
  deriving DecidableEq, Repr

namespace Fact

/-- The fact is a redeem of the token. -/
def redeems (tokenId : String) : Fact → Bool
  | .redeemed tokenId' _ _ _ => tokenId' = tokenId
  | _ => false

/-- The fact a call with its reply leaves behind. -/
def of? : Op × Reply → Option Fact
  | (.mint now _ _ _ ttl, .ok (.minted result)) =>
      some (.minted result.tokenId result.secret (now.nanos + ttl))
  | (.redeem _ _ _ tokenId _ machine, .ok (.redeemed result)) =>
      some (.redeemed tokenId result.credential result.clientId machine)
  | (.delete _ tokenId, .ok (.deleted _)) => some (.deleted tokenId)
  | _ => none

end Fact

/-- Some redeem of the token succeeded. -/
def Redeemed (facts : List Fact) (tokenId : String) : Prop :=
  ∃ credential clientId machine,
    .redeemed tokenId credential clientId machine ∈ facts

/-- A redeem of the token returned the credential, and the token was not deleted
afterwards. -/
def Credentialed
    (facts : List Fact) (tokenId credential clientId machine : String) :
    Prop :=
  ∃ before after,
    facts =
      before ++ .redeemed tokenId credential clientId machine :: after ∧
    .deleted tokenId ∉ after

theorem redeemed_of_credentialed
    {facts : List Fact} {tokenId credential clientId machine : String}
    (credentialed :
      Credentialed facts tokenId credential clientId machine) :
    Redeemed facts tokenId := by
  obtain ⟨before, after, rfl, _⟩ := credentialed
  exact
    ⟨credential, clientId, machine,
      List.mem_append_right _ List.mem_cons_self⟩

theorem redeemed_snoc {facts : List Fact} {fact : Fact} {tokenId : String} :
    Redeemed (facts ++ [fact]) tokenId ↔
      Redeemed facts tokenId ∨ fact.redeems tokenId = true := by
  unfold Redeemed
  simp only [List.mem_append, List.mem_singleton]
  constructor
  · rintro ⟨credential, clientId, machine, old | rfl⟩
    · exact Or.inl ⟨credential, clientId, machine, old⟩
    · exact Or.inr (by simp [Fact.redeems])
  · rintro (⟨credential, clientId, machine, old⟩ | new)
    · exact ⟨credential, clientId, machine, Or.inl old⟩
    · cases fact with
      | redeemed tokenId' credential clientId machine =>
          have same : tokenId' = tokenId := by
            simpa [Fact.redeems] using new
          subst same
          exact ⟨credential, clientId, machine, Or.inr rfl⟩
      | minted _ _ _ => cases new
      | deleted _ => cases new

theorem credentialed_snoc
    {facts : List Fact} {fact : Fact}
    {tokenId credential clientId machine : String} :
    Credentialed (facts ++ [fact]) tokenId credential clientId machine ↔
      fact = .redeemed tokenId credential clientId machine ∨
      (Credentialed facts tokenId credential clientId machine ∧
        fact ≠ .deleted tokenId) := by
  constructor
  · rintro ⟨before, after, split, notDeleted⟩
    rcases List.eq_nil_or_concat after with rfl | ⟨shorter, last, rfl⟩
    · obtain ⟨_, same⟩ := List.append_inj' split rfl
      exact Or.inl (List.singleton_inj.mp same)
    · rw [List.concat_eq_append, ← List.cons_append,
        ← List.append_assoc] at split
      obtain ⟨sameFacts, same⟩ := List.append_inj' split rfl
      have sameLast := List.singleton_inj.mp same
      subst sameLast
      rw [List.concat_eq_append, List.mem_append, not_or,
        List.mem_singleton] at notDeleted
      exact Or.inr
        ⟨⟨before, shorter, sameFacts, notDeleted.1⟩,
          Ne.symm notDeleted.2⟩
  · rintro (rfl | ⟨⟨before, after, rfl, notDeleted⟩, different⟩)
    · exact ⟨facts, [], rfl, nofun⟩
    · refine ⟨before, after ++ [fact], ?_, ?_⟩
      · rw [List.append_assoc, List.cons_append]
      · rw [List.mem_append, List.mem_singleton]
        rintro (old | new)
        · exact notDeleted old
        · exact different new.symm

/-- A record reflects what happened to its token. -/
structure Reflects
    (crates : Crates) (pepper : List UInt8)
    (facts : List Fact) (record : TokenRecord) : Prop where
  secret :
    ∃ secret expiry, .minted record.tokenId secret expiry ∈ facts ∧
      record.secretHash = hashSecret crates pepper secret ∧
      crates.parseRfc3339 record.expires = some expiry
  unused :
    record.state = .unused ↔
      ¬ Redeemed facts record.tokenId ∧
        .deleted record.tokenId ∉ facts
  credential :
    ∀ credential clientId machine,
      Credentialed facts record.tokenId credential clientId machine →
        record.state = .bound ∧
        record.credentialHash =
          some (hashSecret crates pepper credential) ∧
        record.clientId = some clientId ∧
        record.machine = some machine
  bound :
    record.state = .bound →
      ∃ credential clientId machine,
        Credentialed facts record.tokenId credential clientId machine ∧
        record.credentialHash =
          some (hashSecret crates pepper credential) ∧
        record.clientId = some clientId ∧
        record.machine = some machine
  hashed :
    record.credentialHash.isSome = true → record.state = .bound

/-- The stored records reflect what happened. -/
structure Tracks
    (crates : Crates) (pepper : List UInt8)
    (facts : List Fact) (records : List TokenRecord) : Prop where
  distinct : (records.map TokenRecord.tokenId).Nodup
  reflects :
    ∀ record ∈ records, Reflects crates pepper facts record
  minted :
    ∀ tokenId secret expiry, .minted tokenId secret expiry ∈ facts →
      ∃ record ∈ records, record.tokenId = tokenId ∧
        record.secretHash = hashSecret crates pepper secret ∧
        crates.parseRfc3339 record.expires = some expiry
  known :
    ∀ tokenId,
      Redeemed facts tokenId ∨ .deleted tokenId ∈ facts →
      tokenId ∈ records.map TokenRecord.tokenId
  once :
    ∀ tokenId, (facts.filter (Fact.redeems tokenId)).length ≤ 1

/-- New facts that are about one token and mint nothing. -/
structure OnlyAbout
    (tokenId : String) (facts facts' : List Fact) : Prop where
  minted :
    ∀ {tokenId secret expiry},
      .minted tokenId secret expiry ∈ facts' ↔
        .minted tokenId secret expiry ∈ facts
  redeemed :
    ∀ {other}, other ≠ tokenId →
      (Redeemed facts' other ↔ Redeemed facts other)
  deleted :
    ∀ {other}, other ≠ tokenId →
      (.deleted other ∈ facts' ↔ .deleted other ∈ facts)
  credentialed :
    ∀ {other credential clientId machine}, other ≠ tokenId →
      (Credentialed facts' other credential clientId machine ↔
        Credentialed facts other credential clientId machine)

namespace OnlyAbout

variable {tokenId : String} {facts : List Fact}

theorem refl : OnlyAbout tokenId facts facts where
  minted := Iff.rfl
  redeemed := fun _ => Iff.rfl
  deleted := fun _ => Iff.rfl
  credentialed := fun _ => Iff.rfl

theorem redeem {credential clientId machine : String} :
    OnlyAbout tokenId facts
      (facts ++ [.redeemed tokenId credential clientId machine]) where
  minted := by
    intro _ _ _
    simp
  redeemed := by
    intro other different
    rw [redeemed_snoc]
    simp [Fact.redeems, Ne.symm different]
  deleted := by
    intro other _
    simp
  credentialed := by
    intro other _ _ _ different
    rw [credentialed_snoc]
    simp [Ne.symm different]

theorem delete :
    OnlyAbout tokenId facts (facts ++ [.deleted tokenId]) where
  minted := by
    intro _ _ _
    simp
  redeemed := by
    intro other _
    rw [redeemed_snoc]
    simp [Fact.redeems]
  deleted := by
    intro other different
    simp [different]
  credentialed := by
    intro other _ _ _ different
    rw [credentialed_snoc]
    simp [Ne.symm different]

end OnlyAbout

section Keeping

variable {crates : Crates} {pepper : List UInt8}
variable {facts facts' : List Fact} {records : List TokenRecord}

/-- A record of another token still reflects what happened. -/
theorem Reflects.other
    {record : TokenRecord} {tokenId : String}
    (reflects : Reflects crates pepper facts record)
    (only : OnlyAbout tokenId facts facts')
    (different : record.tokenId ≠ tokenId) :
    Reflects crates pepper facts' record where
  secret := by
    obtain ⟨secret, expiry, minted, sameHash, parsed⟩ := reflects.secret
    exact ⟨secret, expiry, only.minted.mpr minted, sameHash, parsed⟩
  unused := by
    rw [only.redeemed different, only.deleted different]
    exact reflects.unused
  credential := by
    intro credential clientId machine
    rw [only.credentialed different]
    exact reflects.credential credential clientId machine
  bound := by
    intro isBound
    obtain ⟨credential, clientId, machine, credentialed, held⟩ :=
      reflects.bound isBound
    exact
      ⟨credential, clientId, machine,
        (only.credentialed different).mpr credentialed, held⟩
  hashed := reflects.hashed

/-- Writing back the record of a token, together with facts about that token,
keeps the store in step if the new record reflects the facts. -/
theorem Tracks.put
    (tracks : Tracks crates pepper facts records)
    {tokenId : String} {record record' : TokenRecord}
    (found : records.findKey TokenRecord.tokenId tokenId = some record)
    (only : OnlyAbout tokenId facts facts')
    (sameId : record'.tokenId = record.tokenId)
    (sameHash : record'.secretHash = record.secretHash)
    (sameExpires : record'.expires = record.expires)
    (reflects : Reflects crates pepper facts' record')
    (once :
      ∀ tokenId, (facts'.filter (Fact.redeems tokenId)).length ≤ 1) :
    Tracks crates pepper facts' (putRecord record' records) := by
  obtain ⟨member, keyed⟩ := List.findKey_eq_some found
  have present : record'.tokenId ∈ records.map TokenRecord.tokenId := by
    rw [sameId]
    exact List.mem_map_of_mem member
  have members :
      ∀ other, other ∈ putRecord record' records ↔
        other = record' ∨
          (other ∈ records ∧ other.tokenId ≠ record'.tokenId) :=
    fun other => List.mem_rewriteFirst tracks.distinct present
  have sameKeys :
      (putRecord record' records).map TokenRecord.tokenId =
        records.map TokenRecord.tokenId :=
    List.map_rewriteFirst rfl records
  refine ⟨?_, ?_, ?_, ?_, once⟩
  · rw [sameKeys]
    exact tracks.distinct
  · intro other inside
    rcases (members other).mp inside with rfl | ⟨old, different⟩
    · exact reflects
    · refine (tracks.reflects other old).other only ?_
      rw [← keyed, ← sameId]
      exact different
  · intro other secret expiry minted
    obtain ⟨owner, old, sameToken, hashed, parsed⟩ :=
      tracks.minted other secret expiry (only.minted.mp minted)
    by_cases same : owner.tokenId = tokenId
    · have isRecord : owner = record :=
        Option.some.inj
          ((List.findKey_of_mem tracks.distinct old same).symm.trans
            found)
      subst isRecord
      refine ⟨record', (members record').mpr (Or.inl rfl), ?_, ?_, ?_⟩
      · rw [sameId, sameToken]
      · rw [sameHash, hashed]
      · rw [sameExpires, parsed]
    · refine
        ⟨owner, (members owner).mpr (Or.inr ⟨old, ?_⟩), sameToken,
          hashed, parsed⟩
      rw [sameId, keyed]
      exact same
  · intro other happened
    rw [sameKeys]
    by_cases same : other = tokenId
    · rw [same, ← keyed]
      exact List.mem_map_of_mem member
    · refine tracks.known other ?_
      rw [only.redeemed same, only.deleted same] at happened
      exact happened

/-- Another mint leaves what happened to the minted tokens. -/
theorem Reflects.minted
    {record : TokenRecord} {tokenId secret : String} {expiry : Int}
    (reflects : Reflects crates pepper facts record) :
    Reflects crates pepper
      (facts ++ [.minted tokenId secret expiry]) record where
  secret := by
    obtain ⟨secret, expiry, minted, sameHash, parsed⟩ := reflects.secret
    exact
      ⟨secret, expiry, List.mem_append_left _ minted, sameHash, parsed⟩
  unused := by
    rw [redeemed_snoc, reflects.unused]
    simp [Fact.redeems]
  credential := by
    intro credential clientId machine
    rw [credentialed_snoc]
    rintro (impossible | ⟨credentialed, _⟩)
    · cases impossible
    · exact reflects.credential credential clientId machine credentialed
  bound := by
    intro isBound
    obtain ⟨credential, clientId, machine, credentialed, held⟩ :=
      reflects.bound isBound
    refine ⟨credential, clientId, machine, ?_, held⟩
    exact credentialed_snoc.mpr (Or.inr ⟨credentialed, nofun⟩)
  hashed := reflects.hashed

/-- A record with a new id joins the store together with its mint. -/
theorem Tracks.mint
    (tracks : Tracks crates pepper facts records)
    {record : TokenRecord} {secret : String} {expiry : Int}
    (new : record.tokenId ∉ records.map TokenRecord.tokenId)
    (sameHash : record.secretHash = hashSecret crates pepper secret)
    (parsed : crates.parseRfc3339 record.expires = some expiry)
    (unused : record.state = .unused)
    (unhashed : record.credentialHash = none) :
    Tracks crates pepper
      (facts ++ [.minted record.tokenId secret expiry])
      (records ++ [record]) := by
  have untouched :
      ¬ Redeemed facts record.tokenId ∧
        .deleted record.tokenId ∉ facts := by
    constructor
    · exact fun redeemed => new (tracks.known _ (Or.inl redeemed))
    · exact fun deleted => new (tracks.known _ (Or.inr deleted))
  refine ⟨?_, ?_, ?_, ?_, ?_⟩
  · rw [List.map_append, List.nodup_append]
    refine ⟨tracks.distinct, List.nodup_singleton _, ?_⟩
    intro old oldMember added addedMember same
    rw [List.map_singleton, List.mem_singleton] at addedMember
    rw [same, addedMember] at oldMember
    exact new oldMember
  · intro other member
    rcases List.mem_append.mp member with old | added
    · exact (tracks.reflects other old).minted
    · rw [List.mem_singleton] at added
      subst added
      refine ⟨?_, ?_, ?_, ?_, ?_⟩
      · exact
          ⟨secret, expiry,
            List.mem_append_right _ (List.mem_singleton_self _),
            sameHash, parsed⟩
      · rw [redeemed_snoc]
        simp [Fact.redeems, unused, untouched]
      · intro credential clientId machine
        rw [credentialed_snoc, unused]
        rintro (impossible | ⟨credentialed, _⟩)
        · cases impossible
        · exact
            absurd (redeemed_of_credentialed credentialed) untouched.1
      · rw [unused]
        intro impossible
        cases impossible
      · rw [unhashed]
        intro impossible
        cases impossible
  · intro tokenId secret' expiry' minted
    rcases List.mem_append.mp minted with old | added
    · obtain ⟨owner, member, rest⟩ :=
        tracks.minted tokenId secret' expiry' old
      exact ⟨owner, List.mem_append_left _ member, rest⟩
    · obtain ⟨rfl, rfl, rfl⟩ :=
        Fact.minted.inj (List.mem_singleton.mp added)
      exact
        ⟨record, List.mem_append_right _ (List.mem_singleton_self _),
          rfl, sameHash, parsed⟩
  · intro tokenId happened
    rw [List.map_append]
    refine List.mem_append_left _ (tracks.known tokenId ?_)
    rw [redeemed_snoc] at happened
    simpa [Fact.redeems] using happened
  · intro tokenId
    rw [List.filter_append]
    simpa [Fact.redeems] using tracks.once tokenId

/-- A redeem that succeeds finds a token that was neither redeemed nor deleted,
and binds its record to the credential it returns. -/
theorem Tracks.redeem
    (tracks : Tracks crates pepper facts records)
    {tokenId machine clientId credential : String} {record : TokenRecord}
    (found : records.findKey TokenRecord.tokenId tokenId = some record)
    (unused : record.state = .unused) :
    Tracks crates pepper
      (facts ++ [.redeemed tokenId credential clientId machine])
      (putRecord
        (record.redeemed crates pepper machine clientId credential)
        records) := by
  obtain ⟨member, rfl⟩ := List.findKey_eq_some found
  have reflects := tracks.reflects record member
  have untouched := reflects.unused.mp unused
  refine tracks.put found OnlyAbout.redeem rfl rfl rfl ?_ ?_
  · refine ⟨?_, ?_, ?_, ?_, ?_⟩
    · obtain ⟨secret, expiry, minted, sameHash, parsed⟩ :=
        reflects.secret
      exact
        ⟨secret, expiry, List.mem_append_left _ minted, sameHash, parsed⟩
    · rw [redeemed_snoc]
      simp [TokenRecord.redeemed, Fact.redeems]
    · intro credential' clientId' machine'
      rw [credentialed_snoc]
      rintro (same | ⟨credentialed, _⟩)
      · obtain ⟨_, rfl, rfl, rfl⟩ := Fact.redeemed.inj same
        exact ⟨rfl, rfl, rfl, rfl⟩
      · exact
          absurd (redeemed_of_credentialed credentialed) untouched.1
    · intro _
      refine ⟨credential, clientId, machine, ?_, rfl, rfl, rfl⟩
      exact credentialed_snoc.mpr (Or.inl rfl)
    · intro _
      rfl
  · intro other
    rw [List.filter_append, List.length_append]
    by_cases same : record.tokenId = other
    · have noneBefore :
          facts.filter (Fact.redeems other) = [] := by
        rw [List.filter_eq_nil_iff]
        intro fact factMember redeems
        refine untouched.1 ?_
        rw [same]
        cases fact with
        | redeemed tokenId' credential clientId machine =>
            have sameToken : tokenId' = other := by
              simpa [Fact.redeems] using redeems
            subst sameToken
            exact ⟨credential, clientId, machine, factMember⟩
        | minted _ _ _ => cases redeems
        | deleted _ => cases redeems
      rw [noneBefore]
      simp [Fact.redeems, same]
    · simpa [Fact.redeems, same] using tracks.once other

/-- A verified credential only moves the time the client was last seen. -/
theorem Tracks.see
    (tracks : Tracks crates pepper facts records)
    {tokenId : String} {record : TokenRecord} {lastSeen : Option String}
    (found : records.findKey TokenRecord.tokenId tokenId = some record) :
    Tracks crates pepper facts
      (putRecord { record with lastSeen } records) := by
  obtain ⟨member, _⟩ := List.findKey_eq_some found
  have reflects := tracks.reflects record member
  exact
    tracks.put found OnlyAbout.refl rfl rfl rfl
      ⟨reflects.secret, reflects.unused, reflects.credential,
        reflects.bound, reflects.hashed⟩
      tracks.once

/-- A deleted record holds no credential hash. -/
theorem deleted_credentialHash
    {record : TokenRecord}
    (hashed :
      record.credentialHash.isSome = true → record.state = .bound) :
    record.deleted.credentialHash = none := by
  have unhashed :
      record.state ≠ .bound → record.credentialHash = none := by
    intro unbound
    cases found : record.credentialHash with
    | none => rfl
    | some hash => exact absurd (hashed (by rw [found]; rfl)) unbound
  unfold TokenRecord.deleted
  cases state : record.state with
  | bound => rfl
  | unused => exact unhashed (by rw [state]; nofun)
  | invalidated => exact unhashed (by rw [state]; nofun)
  | revoked => exact unhashed (by rw [state]; nofun)

/-- A delete takes the credential of the token away. -/
theorem Tracks.delete
    (tracks : Tracks crates pepper facts records)
    {tokenId : String} {record : TokenRecord}
    (found : records.findKey TokenRecord.tokenId tokenId = some record) :
    Tracks crates pepper (facts ++ [.deleted tokenId])
      (putRecord record.deleted records) := by
  obtain ⟨member, rfl⟩ := List.findKey_eq_some found
  have reflects := tracks.reflects record member
  obtain ⟨notUnused, notBound⟩ := record.deleted_state_ne
  have unhashed := deleted_credentialHash reflects.hashed
  refine
    tracks.put found OnlyAbout.delete (TokenRecord.deleted_tokenId record)
      (TokenRecord.deleted_secretHash record)
      (TokenRecord.deleted_expires record) ?_ ?_
  · refine ⟨?_, ?_, ?_, ?_, ?_⟩
    · obtain ⟨secret, expiry, minted, sameHash, parsed⟩ :=
        reflects.secret
      rw [TokenRecord.deleted_tokenId, TokenRecord.deleted_secretHash,
        TokenRecord.deleted_expires]
      exact
        ⟨secret, expiry, List.mem_append_left _ minted, sameHash, parsed⟩
    · rw [TokenRecord.deleted_tokenId]
      simp [notUnused]
    · intro credential clientId machine
      rw [TokenRecord.deleted_tokenId, credentialed_snoc]
      simp [notBound]
    · intro bound
      exact absurd bound notBound
    · rw [unhashed]
      intro impossible
      cases impossible
  · intro other
    rw [List.filter_append]
    simpa [Fact.redeems] using tracks.once other

end Keeping

end HollerServer.Token
