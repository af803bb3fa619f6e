import HollerServer.Lib.FirstMatch
import HollerServer.Token.Record

/-!
# The token store

The operations of `TokenStore` over the content of `tokens.json`; `none` is a
file that does not exist.  A mutating operation is a function of the loaded
records run by `withLock`, which saves what a successful one returns.  Clock
readings, random bytes and the answer of the connection probe are arguments;
failures of the file system are left out.
-/

namespace HollerServer.Token

open Text

/-- The content of `tokens.json`. -/
abbrev File := Option String

section Operations

variable (crates : Crates) (pepper : List UInt8)

def load (file : File) : Result TokenError (List TokenRecord) :=
  match file with
  | none => .ok []
  | some contents =>
      if isBlank contents then .ok []
      else Result.ofOption .serde (crates.fromStr contents)

/-- The content `save` writes. -/
def save (records : List TokenRecord) : File :=
  some (crates.toStringPretty records)

/-- One load-modify-save cycle under the lock. -/
def withLock {α : Type}
    (modify : List TokenRecord → Result TokenError (List TokenRecord × α))
    (file : File) : Result TokenError α × File :=
  match load crates file >>= modify with
  | .ok (records, value) => (.ok value, save crates records)
  | .err error => (.err error, file)
  | .panicked => (.panicked, file)

/-- The first record of a token. -/
def findRecord
    (tokenId : String) (records : List TokenRecord) :
    Result TokenError TokenRecord :=
  Result.ofOption (.notFound tokenId)
    (records.findKey TokenRecord.tokenId tokenId)

/-- Write the record of a token back in its place. -/
def putRecord
    (record : TokenRecord) (records : List TokenRecord) :
    List TokenRecord :=
  records.rewriteFirst TokenRecord.tokenId record.tokenId record

/-- `mint_with_pepper` up to its critical section: the new record and what the
caller gets. -/
def mintRecord
    (now : Instant) (idDraw : Draw 16) (secretDraw : Draw 32)
    (label : Option String) (ttl : Int) :
    Result TokenError (TokenRecord × MintResult) := do
  let tokenId := "tok_" ++ (← randomHex idDraw)
  let secret := "hlr_" ++ (← randomHex secretDraw)
  let expires ← format crates (← addDuration now.nanos ttl)
  let createdAt ← format crates now.nanos
  .ok
    ({ tokenId
       secretHash := hashSecret crates pepper secret
       state := .unused
       label
       machine := none
       clientId := none
       credentialHash := none
       createdAt
       expires
       lastSeen := none },
      { tokenId, secret, expires })

/-- The gate of `redeem_with_pepper`: only an unused secret that has not expired
can be redeemed. -/
def requireUnused
    (tokenId : String) : DisplayState → Result TokenError Unit
  | .unused => .ok ()
  | .bound => .err (.alreadyBound tokenId)
  | .invalidated => .err (.invalidated tokenId)
  | .revoked => .err (.revoked tokenId)
  | .stale => .err (.stale tokenId)

/-- The critical section of `redeem_with_pepper`. -/
def redeemSection
    (now : Instant) (clientDraw : Draw 16) (credentialDraw : Draw 32)
    (tokenId secret machine : String) (records : List TokenRecord) :
    Result TokenError (List TokenRecord × RedeemResult) := do
  let record ← findRecord tokenId records
  requireUnused tokenId (record.displayState crates now.nanos)
  if ← verifySecret crates pepper secret record.secretHash then
    let clientId := "cli_" ++ (← randomHex clientDraw)
    let credential := "hlr_live_" ++ (← randomHex credentialDraw)
    .ok
      (putRecord
        { record with
          state := .bound
          machine := some machine
          clientId := some clientId
          credentialHash := some (hashSecret crates pepper credential) }
        records,
        { tokenId, clientId, credential })
  else .err (.wrongSecret tokenId)

/-- The gate of `verify_credential_with_pepper`. -/
def requireBound
    (tokenId : String) : StoredState → Result TokenError Unit
  | .bound => .ok ()
  | .unused => .err (.unbound tokenId)
  | .invalidated => .err (.invalidated tokenId)
  | .revoked => .err (.revoked tokenId)

/-- A bound record without a hash matches no credential. -/
def credentialMatches
    (credential : String) : Option String → Result TokenError Bool
  | some hash => verifySecret crates pepper credential hash
  | none => .ok false

/-- The critical section of `verify_credential_with_pepper`. -/
def verifySection
    (now : Instant) (tokenId credential : String)
    (records : List TokenRecord) :
    Result TokenError (List TokenRecord × VerifiedClient) := do
  let record ← findRecord tokenId records
  requireBound tokenId record.state
  if ← credentialMatches crates pepper credential
      record.credentialHash then
    let lastSeen ← format crates now.nanos
    .ok
      (putRecord { record with lastSeen := some lastSeen } records,
        { tokenId
          clientId := record.clientId.getD ""
          machine := record.machine.getD "" })
  else .err (.wrongCredential tokenId)

/-- The record `delete` writes: a bound record is revoked and loses its
credential hash, every other one is invalidated. -/
def TokenRecord.deleted (record : TokenRecord) : TokenRecord :=
  match record.state with
  | .bound => { record with credentialHash := none, state := .revoked }
  | .unused | .invalidated | .revoked =>
      { record with state := .invalidated }

/-- A deleted record is neither unused nor bound. -/
theorem TokenRecord.deleted_state_ne (record : TokenRecord) :
    record.deleted.state ≠ .unused ∧ record.deleted.state ≠ .bound := by
  unfold TokenRecord.deleted
  cases record.state with
  | unused | bound | invalidated | revoked => exact ⟨nofun, nofun⟩

theorem TokenRecord.deleted_tokenId (record : TokenRecord) :
    record.deleted.tokenId = record.tokenId := by
  unfold TokenRecord.deleted
  split <;> rfl

theorem TokenRecord.deleted_secretHash (record : TokenRecord) :
    record.deleted.secretHash = record.secretHash := by
  unfold TokenRecord.deleted
  split <;> rfl

theorem TokenRecord.deleted_expires (record : TokenRecord) :
    record.deleted.expires = record.expires := by
  unfold TokenRecord.deleted
  split <;> rfl

/-- The critical section of `delete`. -/
def deleteSection
    (now : Instant) (tokenId : String) (records : List TokenRecord) :
    Result TokenError (List TokenRecord × DisplayState) := do
  let record ← findRecord tokenId records
  .ok
    (putRecord record.deleted records,
      record.deleted.displayState crates now.nanos)

def list (now : Instant) (file : File) :
    Result TokenError (List TokenView) := do
  let records ← load crates file
  .ok <| records.map fun record =>
    TokenView.fromRecord crates record now.nanos

/-- `ping`, with the answer of the probe. -/
def ping
    (tokenId : String) (probe : ConnectionStatus) (file : File) :
    Result TokenError PingOutcome := do
  let record ← findRecord tokenId (← load crates file)
  match record.state with
  | .bound =>
      match probe with
      | .connected hostname rttMs => .ok { hostname, rttMs }
      | .disconnected => .err (.disconnected tokenId)
  | .unused | .invalidated | .revoked => .err (.unbound tokenId)

end Operations

section Specifications

variable {crates : Crates} {pepper : List UInt8}

@[simp]
theorem load_none : load crates none = .ok [] :=
  rfl

theorem load_save
    (lawful : crates.Lawful) (records : List TokenRecord) :
    load crates (save crates records) = .ok records := by
  unfold load save
  simp only [lawful.toStringPretty_not_blank, Bool.false_eq_true,
    if_false, lawful.fromStr_toStringPretty]
  rfl

theorem randomHex_eq_ok
    {n : Nat} {draw : Draw n} {text : String} :
    randomHex draw = .ok text ↔
      ∃ bytes, draw = some bytes ∧ text = toHex bytes.toList := by
  cases draw with
  | none => simp [randomHex]
  | some bytes => simp [randomHex, eq_comm]

theorem format_eq_ok {time : Int} {text : String} :
    format crates time = .ok text ↔
      crates.formatRfc3339 time = .ok text := by
  unfold format
  cases crates.formatRfc3339 time <;> simp

theorem addDuration_eq_ok {time ttl sum : Int} :
    addDuration time ttl = .ok sum → sum = time + ttl := by
  unfold addDuration
  split <;> simp [eq_comm]

theorem requireUnused_eq_ok {tokenId : String} {state : DisplayState} :
    requireUnused tokenId state = .ok () ↔ state = .unused := by
  cases state <;> simp [requireUnused]

theorem requireBound_eq_ok {tokenId : String} {state : StoredState} :
    requireBound tokenId state = .ok () ↔ state = .bound := by
  cases state <;> simp [requireBound]

theorem findRecord_eq_ok
    {tokenId : String} {records : List TokenRecord}
    {record : TokenRecord} :
    findRecord tokenId records = .ok record ↔
      records.findKey TokenRecord.tokenId tokenId = some record :=
  Result.ofOption_eq_ok

theorem mintRecord_eq_ok
    {now : Instant} {idDraw : Draw 16} {secretDraw : Draw 32}
    {label : Option String} {ttl : Int}
    {record : TokenRecord} {result : MintResult}
    (minted :
      mintRecord crates pepper now idDraw secretDraw label ttl =
        .ok (record, result)) :
    (∃ bytes, idDraw = some bytes ∧
      result.tokenId = "tok_" ++ toHex bytes.toList) ∧
    record.tokenId = result.tokenId ∧
    record.secretHash = hashSecret crates pepper result.secret ∧
    record.state = .unused ∧ record.machine = none ∧
    record.clientId = none ∧ record.credentialHash = none ∧
    record.lastSeen = none ∧
    crates.formatRfc3339 (now.nanos + ttl) = .ok record.expires := by
  unfold mintRecord at minted
  obtain ⟨idHex, drawn, afterId⟩ := Result.bind_eq_ok.mp minted
  obtain ⟨secretHex, _, afterSecret⟩ := Result.bind_eq_ok.mp afterId
  obtain ⟨sum, added, afterSum⟩ := Result.bind_eq_ok.mp afterSecret
  obtain ⟨expires, formatted, afterExpires⟩ :=
    Result.bind_eq_ok.mp afterSum
  obtain ⟨createdAt, _, built⟩ := Result.bind_eq_ok.mp afterExpires
  obtain ⟨bytes, isSome, rfl⟩ := randomHex_eq_ok.mp drawn
  have isSum := addDuration_eq_ok added
  subst isSum
  obtain ⟨rfl, rfl⟩ := Prod.mk.inj (Result.ok.inj built)
  exact
    ⟨⟨bytes, isSome, rfl⟩, rfl, rfl, rfl, rfl, rfl, rfl, rfl,
      format_eq_ok.mp formatted⟩

/-- The record a redeem writes. -/
def TokenRecord.redeemed
    (crates : Crates) (pepper : List UInt8) (record : TokenRecord)
    (machine clientId credential : String) : TokenRecord :=
  { record with
    state := .bound
    machine := some machine
    clientId := some clientId
    credentialHash := some (hashSecret crates pepper credential) }

theorem redeemSection_eq_ok
    {now : Instant} {clientDraw : Draw 16} {credentialDraw : Draw 32}
    {tokenId secret machine : String}
    {records records' : List TokenRecord} {result : RedeemResult} :
    redeemSection crates pepper now clientDraw credentialDraw tokenId
        secret machine records = .ok (records', result) ↔
      ∃ record clientBytes credentialBytes,
        records.findKey TokenRecord.tokenId tokenId = some record ∧
        record.displayState crates now.nanos = .unused ∧
        verifySecret crates pepper secret record.secretHash = .ok true ∧
        clientDraw = some clientBytes ∧
        credentialDraw = some credentialBytes ∧
        result =
          { tokenId
            clientId := "cli_" ++ toHex clientBytes.toList
            credential := "hlr_live_" ++ toHex credentialBytes.toList } ∧
        records' =
          putRecord
            (record.redeemed crates pepper machine result.clientId
              result.credential)
            records := by
  constructor
  · intro redeemed
    unfold redeemSection at redeemed
    obtain ⟨record, found, redeemed⟩ := Result.bind_eq_ok.mp redeemed
    obtain ⟨_, unused, redeemed⟩ := Result.bind_eq_ok.mp redeemed
    obtain ⟨verified, checked, redeemed⟩ := Result.bind_eq_ok.mp redeemed
    cases verified with
    | false => cases redeemed
    | true =>
        obtain ⟨_, drawnClient, redeemed⟩ :=
          Result.bind_eq_ok.mp redeemed
        obtain ⟨_, drawnCredential, redeemed⟩ :=
          Result.bind_eq_ok.mp redeemed
        obtain ⟨clientBytes, isClient, rfl⟩ :=
          randomHex_eq_ok.mp drawnClient
        obtain ⟨credentialBytes, isCredential, rfl⟩ :=
          randomHex_eq_ok.mp drawnCredential
        cases redeemed
        exact
          ⟨record, clientBytes, credentialBytes,
            findRecord_eq_ok.mp found, requireUnused_eq_ok.mp unused,
            checked, isClient, isCredential, rfl, rfl⟩
  · rintro ⟨record, clientBytes, credentialBytes, found, unused, checked,
      rfl, rfl, rfl, rfl⟩
    unfold redeemSection
    rw [findRecord_eq_ok.mpr found, Result.ok_bind,
      requireUnused_eq_ok.mpr unused, Result.ok_bind, checked]
    rfl

/-- A stored hash accepts a credential exactly if it is the hash of it. -/
theorem credentialMatches_hashSecret
    (collisionFree : crates.CollisionFree pepper)
    (presented credential : String) :
    credentialMatches crates pepper presented
        (some (hashSecret crates pepper credential)) = .ok true ↔
      presented = credential := by
  rw [credentialMatches, verifySecret_hashSecret collisionFree]
  simp

theorem verifySection_eq_ok
    {now : Instant} {tokenId credential : String}
    {records records' : List TokenRecord} {client : VerifiedClient} :
    verifySection crates pepper now tokenId credential records =
        .ok (records', client) ↔
      ∃ record lastSeen,
        records.findKey TokenRecord.tokenId tokenId = some record ∧
        record.state = .bound ∧
        credentialMatches crates pepper credential
          record.credentialHash = .ok true ∧
        crates.formatRfc3339 now.nanos = .ok lastSeen ∧
        client =
          { tokenId
            clientId := record.clientId.getD ""
            machine := record.machine.getD "" } ∧
        records' =
          putRecord { record with lastSeen := some lastSeen } records := by
  constructor
  · intro verified
    unfold verifySection at verified
    obtain ⟨record, found, verified⟩ := Result.bind_eq_ok.mp verified
    obtain ⟨_, bound, verified⟩ := Result.bind_eq_ok.mp verified
    obtain ⟨accepted, checked, verified⟩ := Result.bind_eq_ok.mp verified
    cases accepted with
    | false => cases verified
    | true =>
        obtain ⟨lastSeen, formatted, verified⟩ :=
          Result.bind_eq_ok.mp verified
        cases verified
        exact
          ⟨record, lastSeen, findRecord_eq_ok.mp found,
            requireBound_eq_ok.mp bound, checked,
            format_eq_ok.mp formatted, rfl, rfl⟩
  · rintro ⟨record, lastSeen, found, bound, checked, formatted, rfl,
      rfl⟩
    unfold verifySection
    rw [findRecord_eq_ok.mpr found, Result.ok_bind,
      requireBound_eq_ok.mpr bound, Result.ok_bind, checked]
    simp only [Result.ok_bind, if_true, format_eq_ok.mpr formatted]

theorem deleteSection_eq_ok
    {now : Instant} {tokenId : String}
    {records records' : List TokenRecord} {state : DisplayState} :
    deleteSection crates now tokenId records = .ok (records', state) ↔
      ∃ record,
        records.findKey TokenRecord.tokenId tokenId = some record ∧
        state = record.deleted.displayState crates now.nanos ∧
        records' = putRecord record.deleted records := by
  constructor
  · intro deleted
    unfold deleteSection at deleted
    obtain ⟨record, found, deleted⟩ := Result.bind_eq_ok.mp deleted
    cases deleted
    exact ⟨record, findRecord_eq_ok.mp found, rfl, rfl⟩
  · rintro ⟨record, found, rfl, rfl⟩
    unfold deleteSection
    rw [findRecord_eq_ok.mpr found]
    rfl

theorem load_ne_panicked {file : File} : load crates file ≠ .panicked := by
  unfold load
  split
  · simp
  · split
    · simp
    · exact Result.ofOption_ne_panicked

theorem randomHex_ne_panicked {n : Nat} {draw : Draw n} :
    randomHex draw ≠ .panicked := by
  cases draw with
  | none => simp [randomHex]
  | some bytes => simp [randomHex]

theorem format_ne_panicked {time : Int} :
    format crates time ≠ .panicked := by
  unfold format
  split <;> simp

theorem findRecord_ne_panicked
    {tokenId : String} {records : List TokenRecord} :
    findRecord tokenId records ≠ .panicked :=
  Result.ofOption_ne_panicked

theorem requireUnused_ne_panicked
    {tokenId : String} {state : DisplayState} :
    requireUnused tokenId state ≠ .panicked := by
  cases state <;> simp [requireUnused]

theorem requireBound_ne_panicked
    {tokenId : String} {state : StoredState} :
    requireBound tokenId state ≠ .panicked := by
  cases state <;> simp [requireBound]

/-- The hash is text that `from_hex` cannot cut into bytes. -/
def Unsliceable (hash : String) : Prop :=
  fromHex hash = (.panicked : Result TokenError (Option (List UInt8)))

theorem verifySecret_eq_panicked {secret hash : String} :
    verifySecret crates pepper secret hash = .panicked ↔
      Unsliceable hash := by
  unfold verifySecret
  rw [Result.bind_eq_panicked]
  constructor
  · rintro (panicked | ⟨value, _, impossible⟩)
    · exact panicked
    · cases value with
      | none => cases impossible
      | some expected => cases impossible
  · exact .inl

/-- A redeem panics exactly if it compares its secret with a hash that cannot be
cut into bytes. -/
theorem redeemSection_eq_panicked
    {now : Instant} {clientDraw : Draw 16} {credentialDraw : Draw 32}
    {tokenId secret machine : String} {records : List TokenRecord} :
    redeemSection crates pepper now clientDraw credentialDraw tokenId
        secret machine records = .panicked ↔
      ∃ record,
        records.findKey TokenRecord.tokenId tokenId = some record ∧
        record.displayState crates now.nanos = .unused ∧
        Unsliceable record.secretHash := by
  constructor
  · intro panicked
    unfold redeemSection at panicked
    rcases Result.bind_eq_panicked.mp panicked with
      impossible | ⟨record, found, afterFind⟩
    · exact absurd impossible findRecord_ne_panicked
    rcases Result.bind_eq_panicked.mp afterFind with
      impossible | ⟨_, unused, afterState⟩
    · exact absurd impossible requireUnused_ne_panicked
    rcases Result.bind_eq_panicked.mp afterState with
      unreadable | ⟨verified, _, afterSecret⟩
    · exact
        ⟨record, findRecord_eq_ok.mp found, requireUnused_eq_ok.mp unused,
          verifySecret_eq_panicked.mp unreadable⟩
    cases verified with
    | false => cases afterSecret
    | true =>
        rw [if_pos rfl] at afterSecret
        rcases Result.bind_eq_panicked.mp afterSecret with
          impossible | ⟨_, _, afterClient⟩
        · exact absurd impossible randomHex_ne_panicked
        rcases Result.bind_eq_panicked.mp afterClient with
          impossible | ⟨_, _, impossible⟩
        · exact absurd impossible randomHex_ne_panicked
        · cases impossible
  · rintro ⟨record, found, unused, unsliceable⟩
    unfold redeemSection
    rw [findRecord_eq_ok.mpr found, Result.ok_bind,
      requireUnused_eq_ok.mpr unused, Result.ok_bind,
      verifySecret_eq_panicked.mpr unsliceable]
    rfl

/-- So does a check of a credential. -/
theorem verifySection_eq_panicked
    {now : Instant} {tokenId credential : String}
    {records : List TokenRecord} :
    verifySection crates pepper now tokenId credential records =
        .panicked ↔
      ∃ record hash,
        records.findKey TokenRecord.tokenId tokenId = some record ∧
        record.state = .bound ∧
        record.credentialHash = some hash ∧
        Unsliceable hash := by
  constructor
  · intro panicked
    unfold verifySection at panicked
    rcases Result.bind_eq_panicked.mp panicked with
      impossible | ⟨record, found, afterFind⟩
    · exact absurd impossible findRecord_ne_panicked
    rcases Result.bind_eq_panicked.mp afterFind with
      impossible | ⟨_, bound, afterState⟩
    · exact absurd impossible requireBound_ne_panicked
    rcases Result.bind_eq_panicked.mp afterState with
      unreadable | ⟨verified, _, afterHash⟩
    · cases hashed : record.credentialHash with
      | none =>
          rw [hashed] at unreadable
          cases unreadable
      | some hash =>
          rw [hashed] at unreadable
          exact
            ⟨record, hash, findRecord_eq_ok.mp found,
              requireBound_eq_ok.mp bound, hashed,
              verifySecret_eq_panicked.mp unreadable⟩
    cases verified with
    | false => cases afterHash
    | true =>
        rw [if_pos rfl] at afterHash
        rcases Result.bind_eq_panicked.mp afterHash with
          impossible | ⟨_, _, impossible⟩
        · exact absurd impossible format_ne_panicked
        · cases impossible
  · rintro ⟨record, hash, found, bound, hashed, unsliceable⟩
    unfold verifySection
    rw [findRecord_eq_ok.mpr found, Result.ok_bind,
      requireBound_eq_ok.mpr bound, Result.ok_bind, hashed]
    have panicked :
        credentialMatches crates pepper credential (some hash) =
          .panicked :=
      verifySecret_eq_panicked.mpr unsliceable
    rw [panicked]
    rfl

/-- A cycle that fails leaves the file alone; one that succeeds leaves the saved
records. -/
theorem withLock_cases {α : Type}
    (modify :
      List TokenRecord → Result TokenError (List TokenRecord × α))
    {file : File} {records : List TokenRecord}
    (loaded : load crates file = .ok records) :
    (∃ records' value, modify records = .ok (records', value) ∧
      withLock crates modify file = (.ok value, save crates records')) ∨
    ((modify records).isOk = false ∧
      (withLock crates modify file).1.isOk = false ∧
      (withLock crates modify file).2 = file) := by
  unfold withLock
  rw [loaded, Result.ok_bind]
  cases modified : modify records with
  | ok pair => exact Or.inl ⟨pair.1, pair.2, rfl, rfl⟩
  | err error => exact Or.inr ⟨rfl, rfl, rfl⟩
  | panicked => exact Or.inr ⟨rfl, rfl, rfl⟩

end Specifications

/-- What a successful operation returns. -/
inductive Answer where
  | minted (result : MintResult)
  | redeemed (result : RedeemResult)
  | verified (client : VerifiedClient)
  | deleted (state : DisplayState)
  | listed (views : List TokenView)
  | pinged (outcome : PingOutcome)
  deriving DecidableEq, Repr

/-- What an operation returns. -/
abbrev Reply := Result TokenError Answer

/-- A mutating operation at its critical section: a mint has prepared its
record. -/
inductive Mutation where
  | mint (record : TokenRecord) (result : MintResult)
  | redeem
      (now : Instant) (clientDraw : Draw 16) (credentialDraw : Draw 32)
      (tokenId secret machine : String)
  | verifyCredential (now : Instant) (tokenId credential : String)
  | delete (now : Instant) (tokenId : String)

namespace Mutation

variable (crates : Crates) (pepper : List UInt8)

/-- What a mutating operation does to the loaded records. -/
def modify :
    Mutation → List TokenRecord →
      Result TokenError (List TokenRecord × Answer)
  | .mint record result, records =>
      .ok (records ++ [record], .minted result)
  | .redeem now clientDraw credentialDraw tokenId secret machine,
      records => do
      let (records, result) ←
        redeemSection crates pepper now clientDraw credentialDraw tokenId
          secret machine records
      .ok (records, .redeemed result)
  | .verifyCredential now tokenId credential, records => do
      let (records, client) ←
        verifySection crates pepper now tokenId credential records
      .ok (records, .verified client)
  | .delete now tokenId, records => do
      let (records, state) ← deleteSection crates now tokenId records
      .ok (records, .deleted state)

/-- The whole operation on the file. -/
def exec (mutation : Mutation) (file : File) : Reply × File :=
  withLock crates (mutation.modify crates pepper) file

/-- What the checks of a mutating operation ask for. -/
def Accepted (records : List TokenRecord) : Mutation → Prop
  | .mint _ _ => True
  | .redeem now clientDraw credentialDraw tokenId secret _ =>
      (∃ record,
        records.findKey TokenRecord.tokenId tokenId = some record ∧
        record.displayState crates now.nanos = .unused ∧
        verifySecret crates pepper secret record.secretHash =
          .ok true) ∧
      clientDraw.isSome = true ∧ credentialDraw.isSome = true
  | .verifyCredential now tokenId credential =>
      (∃ record,
        records.findKey TokenRecord.tokenId tokenId = some record ∧
        record.state = .bound ∧
        credentialMatches crates pepper credential
          record.credentialHash = .ok true) ∧
      ∃ lastSeen, crates.formatRfc3339 now.nanos = .ok lastSeen
  | .delete _ tokenId =>
      ∃ record,
        records.findKey TokenRecord.tokenId tokenId = some record

variable {crates pepper}

/-- A mutating operation succeeds exactly if its checks are met. -/
theorem modify_eq_ok
    (mutation : Mutation) (records : List TokenRecord) :
    (∃ pair, mutation.modify crates pepper records = .ok pair) ↔
      mutation.Accepted crates pepper records := by
  constructor
  · rintro ⟨pair, modified⟩
    cases mutation with
    | mint record result => trivial
    | redeem now clientDraw credentialDraw tokenId secret machine =>
        obtain ⟨_, redeemed, _⟩ := Result.bind_eq_ok.mp modified
        obtain ⟨record, _, _, found, unused, verified, rfl, rfl, _⟩ :=
          redeemSection_eq_ok.mp redeemed
        exact ⟨⟨record, found, unused, verified⟩, rfl, rfl⟩
    | verifyCredential now tokenId credential =>
        obtain ⟨_, verified, _⟩ := Result.bind_eq_ok.mp modified
        obtain ⟨record, lastSeen, found, bound, matching, formatted,
          _⟩ := verifySection_eq_ok.mp verified
        exact ⟨⟨record, found, bound, matching⟩, lastSeen, formatted⟩
    | delete now tokenId =>
        obtain ⟨_, deleted, _⟩ := Result.bind_eq_ok.mp modified
        obtain ⟨record, found, _⟩ := deleteSection_eq_ok.mp deleted
        exact ⟨record, found⟩
  · intro accepted
    cases mutation with
    | mint record result => exact ⟨_, rfl⟩
    | redeem now clientDraw credentialDraw tokenId secret machine =>
        obtain ⟨⟨record, found, unused, verified⟩, client,
          credential⟩ := accepted
        obtain ⟨clientBytes, rfl⟩ := Option.isSome_iff_exists.mp client
        obtain ⟨credentialBytes, rfl⟩ :=
          Option.isSome_iff_exists.mp credential
        have redeemed :=
          (@redeemSection_eq_ok _ _ _ _ _ _ _ machine _ _ _).mpr
            ⟨record, clientBytes, credentialBytes, found, unused,
              verified, rfl, rfl, rfl, rfl⟩
        exact ⟨_, Result.bind_eq_ok.mpr ⟨_, redeemed, rfl⟩⟩
    | verifyCredential now tokenId credential =>
        obtain ⟨⟨record, found, bound, matching⟩, lastSeen,
          formatted⟩ := accepted
        have verified :=
          verifySection_eq_ok.mpr
            ⟨record, lastSeen, found, bound, matching, formatted, rfl,
              rfl⟩
        exact ⟨_, Result.bind_eq_ok.mpr ⟨_, verified, rfl⟩⟩
    | delete now tokenId =>
        obtain ⟨record, found⟩ := accepted
        have deleted :=
          (@deleteSection_eq_ok crates now _ _ _ _).mpr
            ⟨record, found, rfl, rfl⟩
        exact ⟨_, Result.bind_eq_ok.mpr ⟨_, deleted, rfl⟩⟩

theorem exec_of_modify
    {mutation : Mutation} {file : File}
    {records records' : List TokenRecord} {answer : Answer}
    (loaded : load crates file = .ok records)
    (modified :
      mutation.modify crates pepper records = .ok (records', answer)) :
    mutation.exec crates pepper file =
      (.ok answer, save crates records') := by
  unfold exec withLock
  rw [loaded, Result.ok_bind, modified]

/-- An operation that succeeds loaded the file and saved what it made of the
records. -/
theorem exec_eq_ok
    {mutation : Mutation} {file file' : File} {answer : Answer}
    (executed :
      mutation.exec crates pepper file = (.ok answer, file')) :
    ∃ records records',
      load crates file = .ok records ∧
      mutation.modify crates pepper records = .ok (records', answer) ∧
      file' = save crates records' := by
  unfold exec withLock at executed
  cases modified : load crates file >>= mutation.modify crates pepper with
  | ok pair =>
      rw [modified] at executed
      obtain ⟨records, loaded, changed⟩ :=
        Result.bind_eq_ok.mp modified
      obtain ⟨sameAnswer, sameFile⟩ := Prod.mk.inj executed
      rw [← Result.ok.inj sameAnswer]
      exact ⟨records, pair.1, loaded, changed, sameFile.symm⟩
  | err error =>
      rw [modified] at executed
      cases executed
  | panicked =>
      rw [modified] at executed
      cases executed

/-- A redeem that succeeds answers with what it handed out. -/
theorem exec_redeem_eq_ok
    {now : Instant} {clientDraw : Draw 16} {credentialDraw : Draw 32}
    {tokenId secret machine : String} {file file' : File}
    {answer : Answer}
    (executed :
      (Mutation.redeem now clientDraw credentialDraw tokenId secret
          machine).exec crates pepper file = (.ok answer, file')) :
    ∃ result, answer = .redeemed result := by
  obtain ⟨_, _, _, modified, _⟩ := exec_eq_ok executed
  obtain ⟨pair, _, answered⟩ := Result.bind_eq_ok.mp modified
  exact ⟨pair.2, (Prod.mk.inj (Result.ok.inj answered)).2.symm⟩

/-- A check of a credential that succeeds answers with the client. -/
theorem exec_verifyCredential_eq_ok
    {now : Instant} {tokenId credential : String} {file file' : File}
    {answer : Answer}
    (executed :
      (Mutation.verifyCredential now tokenId credential).exec
          crates pepper file = (.ok answer, file')) :
    ∃ client, answer = .verified client := by
  obtain ⟨_, _, _, modified, _⟩ := exec_eq_ok executed
  obtain ⟨pair, _, answered⟩ := Result.bind_eq_ok.mp modified
  exact ⟨pair.2, (Prod.mk.inj (Result.ok.inj answered)).2.symm⟩

/-- The client is that of the token that was asked for. -/
theorem tokenId_of_exec_verifyCredential
    {now : Instant} {tokenId credential : String} {file file' : File}
    {client : VerifiedClient}
    (executed :
      (Mutation.verifyCredential now tokenId credential).exec
          crates pepper file = (.ok (.verified client), file')) :
    client.tokenId = tokenId := by
  obtain ⟨_, _, _, modified, _⟩ := exec_eq_ok executed
  obtain ⟨pair, verified, answered⟩ := Result.bind_eq_ok.mp modified
  have same : Answer.verified pair.2 = .verified client :=
    (Prod.mk.inj (Result.ok.inj answered)).2
  cases same
  obtain ⟨_, _, _, _, _, _, named, _⟩ := verifySection_eq_ok.mp verified
  rw [named]

/-- On a file that can be loaded, an operation succeeds exactly if its checks
are met by the loaded records. -/
theorem isOk_exec
    {mutation : Mutation} {file : File} {records : List TokenRecord}
    (loaded : load crates file = .ok records) :
    (mutation.exec crates pepper file).1.isOk = true ↔
      mutation.Accepted crates pepper records := by
  rw [← modify_eq_ok, ← Result.isOk_iff]
  unfold exec
  rcases withLock_cases (mutation.modify crates pepper) loaded with
    ⟨records', answer, modified, executed⟩ | ⟨refused, failed, _⟩
  · rw [modified, executed]
    simp [Result.isOk]
  · rw [refused, failed]

theorem exec_fst_eq_panicked
    {mutation : Mutation} {file : File} :
    (mutation.exec crates pepper file).1 = .panicked ↔
      ∃ records,
        load crates file = .ok records ∧
        mutation.modify crates pepper records = .panicked := by
  have cycle :
      (mutation.exec crates pepper file).1 = .panicked ↔
        load crates file >>= mutation.modify crates pepper =
          .panicked := by
    unfold exec withLock
    cases load crates file >>= mutation.modify crates pepper <;> simp
  rw [cycle, Result.bind_eq_panicked]
  constructor
  · rintro (impossible | panicked)
    · exact absurd impossible load_ne_panicked
    · exact panicked
  · exact .inr

/-- An operation that does not succeed leaves the file as it was. -/
theorem file_of_not_ok
    {mutation : Mutation} {file : File}
    (failed : (mutation.exec crates pepper file).1.isOk = false) :
    (mutation.exec crates pepper file).2 = file := by
  unfold exec withLock at failed ⊢
  cases modified : load crates file >>= mutation.modify crates pepper with
  | ok pair =>
      rw [modified] at failed
      cases failed
  | err error => rfl
  | panicked => rfl

end Mutation

section Refusals

/-- The error is about a token, or comes from a crate behind the store. -/
def TokenError.Concerns (tokenId : String) : TokenError → Prop
  | .notFound named | .unbound named | .disconnected named
  | .wrongSecret named | .wrongCredential named | .alreadyBound named
  | .invalidated named | .revoked named | .stale named => named = tokenId
  | .io _ | .serde | .rng | .time _ => True
  | .pepperMissing | .invalidTtl _ => False

variable {tokenId : String}

/-- The call fails only over the token it is about. -/
abbrev RefusesOver {α : Type} (tokenId : String) (call : Result TokenError α) :
    Prop :=
  Result.FailsWithin (TokenError.Concerns tokenId) call

theorem refusesOver_load (file : File) :
    RefusesOver tokenId (load crates file) := by
  unfold load
  split
  · exact Result.failsWithin_ok _
  · split
    · exact Result.failsWithin_ok _
    · exact Result.failsWithin_ofOption trivial _

theorem refusesOver_findRecord (records : List TokenRecord) :
    RefusesOver tokenId (findRecord tokenId records) := by
  apply Result.failsWithin_ofOption
  rfl

theorem refusesOver_requireUnused (state : DisplayState) :
    RefusesOver tokenId (requireUnused tokenId state) := by
  cases state with
  | unused => exact Result.failsWithin_ok _
  | bound => exact Result.failsWithin_err rfl
  | invalidated => exact Result.failsWithin_err rfl
  | revoked => exact Result.failsWithin_err rfl
  | stale => exact Result.failsWithin_err rfl

theorem refusesOver_requireBound (state : StoredState) :
    RefusesOver tokenId (requireBound tokenId state) := by
  cases state with
  | bound => exact Result.failsWithin_ok _
  | unused => exact Result.failsWithin_err rfl
  | invalidated => exact Result.failsWithin_err rfl
  | revoked => exact Result.failsWithin_err rfl

theorem refusesOver_randomHex {n : Nat} (draw : Draw n) :
    RefusesOver tokenId (randomHex draw) := by
  cases draw with
  | none => exact Result.failsWithin_err trivial
  | some bytes => exact Result.failsWithin_ok _

theorem refusesOver_format (time : Int) :
    RefusesOver tokenId (format crates time) := by
  unfold format
  split
  · exact Result.failsWithin_ok _
  · exact Result.failsWithin_err trivial

theorem refusesOver_verifySecret (secret hash : String) :
    RefusesOver tokenId (verifySecret crates pepper secret hash) := by
  unfold verifySecret
  refine Result.FailsWithin.bind ?_ ?_
  · exact failsWithin_fromHex _
  · intro expected?
    cases expected? with
    | none => exact Result.failsWithin_ok _
    | some expected => exact Result.failsWithin_ok _

theorem refusesOver_credentialMatches
    (credential : String) (hash? : Option String) :
    RefusesOver tokenId
      (credentialMatches crates pepper credential hash?) := by
  cases hash? with
  | none => exact Result.failsWithin_ok _
  | some hash => exact refusesOver_verifySecret credential hash

theorem refusesOver_redeemSection
    (now : Instant) (clientDraw : Draw 16) (credentialDraw : Draw 32)
    (secret machine : String) (records : List TokenRecord) :
    RefusesOver tokenId
      (redeemSection crates pepper now clientDraw credentialDraw tokenId
        secret machine records) := by
  unfold redeemSection
  refine (refusesOver_findRecord records).bind fun record => ?_
  refine (refusesOver_requireUnused _).bind fun _ => ?_
  refine (refusesOver_verifySecret secret record.secretHash).bind fun verified => ?_
  cases verified with
  | false => exact Result.failsWithin_err rfl
  | true =>
      rw [if_pos rfl]
      refine (refusesOver_randomHex clientDraw).bind fun _ => ?_
      exact (refusesOver_randomHex credentialDraw).bind fun _ =>
        Result.failsWithin_ok _

theorem refusesOver_verifySection
    (now : Instant) (credential : String) (records : List TokenRecord) :
    RefusesOver tokenId
      (verifySection crates pepper now tokenId credential records) := by
  unfold verifySection
  refine (refusesOver_findRecord records).bind fun record => ?_
  refine (refusesOver_requireBound _).bind fun _ => ?_
  refine (refusesOver_credentialMatches credential _).bind fun verified => ?_
  cases verified with
  | false => exact Result.failsWithin_err rfl
  | true =>
      rw [if_pos rfl]
      exact (refusesOver_format _).bind fun _ => Result.failsWithin_ok _

theorem refusesOver_exec
    {mutation : Mutation} {file : File}
    (refuses :
      ∀ records, RefusesOver tokenId (mutation.modify crates pepper records)) :
    RefusesOver tokenId (mutation.exec crates pepper file).1 := by
  intro error failed
  have cycle :
      RefusesOver tokenId
        (load crates file >>= mutation.modify crates pepper) :=
    (refusesOver_load file).bind refuses
  unfold Mutation.exec withLock at failed
  cases modified : load crates file >>= mutation.modify crates pepper with
  | ok pair =>
      rw [modified] at failed
      cases failed
  | err other =>
      rw [modified] at failed
      cases failed
      exact cycle _ modified
  | panicked =>
      rw [modified] at failed
      cases failed

/-- A redeem that is refused is refused over the token it names. -/
theorem refusesOver_exec_redeem
    (now : Instant) (clientDraw : Draw 16) (credentialDraw : Draw 32)
    (secret machine : String) (file : File) :
    RefusesOver tokenId
      ((Mutation.redeem now clientDraw credentialDraw tokenId secret
        machine).exec crates pepper file).1 := by
  apply refusesOver_exec
  intro records
  exact (refusesOver_redeemSection now clientDraw credentialDraw secret
    machine records).bind fun _ => Result.failsWithin_ok _

/-- So is the check of a credential. -/
theorem refusesOver_exec_verifyCredential
    (now : Instant) (credential : String) (file : File) :
    RefusesOver tokenId
      ((Mutation.verifyCredential now tokenId credential).exec crates pepper
        file).1 := by
  apply refusesOver_exec
  intro records
  exact (refusesOver_verifySection now credential records).bind fun _ =>
    Result.failsWithin_ok _

end Refusals

/-- A call on the store. -/
inductive Op where
  | mint
      (now : Instant) (idDraw : Draw 16) (secretDraw : Draw 32)
      (label : Option String) (ttl : Int)
  | redeem
      (now : Instant) (clientDraw : Draw 16) (credentialDraw : Draw 32)
      (tokenId secret machine : String)
  | verifyCredential (now : Instant) (tokenId credential : String)
  | delete (now : Instant) (tokenId : String)
  | list (now : Instant)
  | ping (tokenId : String) (probe : ConnectionStatus)

namespace Op

variable (crates : Crates) (pepper : List UInt8)

def exec : Op → File → Reply × File
  | .mint now idDraw secretDraw label ttl, file =>
      match mintRecord crates pepper now idDraw secretDraw label ttl with
      | .ok (record, result) =>
          (Mutation.mint record result).exec crates pepper file
      | .err error => (.err error, file)
      | .panicked => (.panicked, file)
  | .redeem now clientDraw credentialDraw tokenId secret machine, file =>
      (Mutation.redeem now clientDraw credentialDraw tokenId secret
        machine).exec crates pepper file
  | .verifyCredential now tokenId credential, file =>
      (Mutation.verifyCredential now tokenId credential).exec
        crates pepper file
  | .delete now tokenId, file =>
      (Mutation.delete now tokenId).exec crates pepper file
  | .list now, file =>
      (do let views ← Token.list crates now file
          .ok (.listed views), file)
  | .ping tokenId probe, file =>
      (do let outcome ← Token.ping crates tokenId probe file
          .ok (.pinged outcome), file)

end Op

end HollerServer.Token
