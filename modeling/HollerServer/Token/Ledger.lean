import HollerServer.Lib.Service
import HollerServer.Token.History

/-!
# The ledger behind the store

What the store is for, without hashes, texts of times, JSON or a file: a list of
accounts, one for each minted token, with its secret, its expiry and what became
of it.  Only a bound account has a credential and only one that was redeemed has
a client, so the records that cannot occur cannot be written down.  The store
refines the ledger: every list of calls on an empty store gets the replies the
ledger gives, errors included.
-/

namespace HollerServer.Token

/-- The client a redeem made of a token. -/
structure Client where
  clientId : String
  machine : String
  lastSeen : Option Instant

/-- What became of a token. -/
inductive Standing where
  | unused
  | bound (client : Client) (credential : String)
  | revoked (client : Client)
  | invalidated (client? : Option Client)

/-- A token in the ledger. -/
structure Account where
  tokenId : String
  secret : String
  label : Option String
  expiry : Int
  standing : Standing

namespace Standing

def client? : Standing → Option Client
  | .unused => none
  | .bound client _ => some client
  | .revoked client => some client
  | .invalidated client? => client?

def credential? : Standing → Option String
  | .bound _ credential => some credential
  | .unused | .revoked _ | .invalidated _ => none

def stored : Standing → StoredState
  | .unused => .unused
  | .bound _ _ => .bound
  | .revoked _ => .revoked
  | .invalidated _ => .invalidated

def deleted : Standing → Standing
  | .unused => .invalidated none
  | .bound client _ => .revoked client
  | .revoked client => .invalidated (some client)
  | .invalidated client? => .invalidated client?

end Standing

/-- The text of a time; one that has none is not shown. -/
def showTime (crates : Crates) (time : Int) : String :=
  match crates.formatRfc3339 time with
  | .ok text => text
  | .error _ => ""

theorem showTime_of_format {crates : Crates} {time : Int} {text : String}
    (formatted : crates.formatRfc3339 time = .ok text) :
    showTime crates time = text := by
  unfold showTime
  rw [formatted]

namespace Account

/-- How the account is shown at a point in time. -/
def shown (account : Account) (now : Instant) : DisplayState :=
  match account.standing with
  | .unused => if account.expiry ≤ now.nanos then .stale else .unused
  | .bound _ _ => .bound
  | .revoked _ => .revoked
  | .invalidated _ => .invalidated

def redeem
    (account : Account) (now : Instant) (clientDraw : Draw 16)
    (credentialDraw : Draw 32) (secret machine : String) :
    Result TokenError (Account × Answer) :=
  match account.standing with
  | .bound _ _ => .err (.alreadyBound account.tokenId)
  | .invalidated _ => .err (.invalidated account.tokenId)
  | .revoked _ => .err (.revoked account.tokenId)
  | .unused =>
      if account.expiry ≤ now.nanos then .err (.stale account.tokenId)
      else if secret ≠ account.secret then
        .err (.wrongSecret account.tokenId)
      else
        match clientDraw, credentialDraw with
        | some clientBytes, some credentialBytes =>
            let clientId := "cli_" ++ toHex clientBytes.toList
            let credential := "hlr_live_" ++ toHex credentialBytes.toList
            .ok
              ({ account with
                  standing := .bound ⟨clientId, machine, none⟩ credential },
                .redeemed ⟨account.tokenId, clientId, credential⟩)
        | _, _ => .err .rng

def verify
    (account : Account) (now : Instant) (presented : String) :
    Result TokenError (Account × Answer) :=
  match account.standing with
  | .unused => .err (.unbound account.tokenId)
  | .invalidated _ => .err (.invalidated account.tokenId)
  | .revoked _ => .err (.revoked account.tokenId)
  | .bound client credential =>
      if presented = credential then
        .ok
          ({ account with
              standing := .bound { client with lastSeen := some now } credential },
            .verified ⟨account.tokenId, client.clientId, client.machine⟩)
      else .err (.wrongCredential account.tokenId)

def deleted (account : Account) : Account :=
  { account with standing := account.standing.deleted }

def delete (account : Account) (now : Instant) :
    Result TokenError (Account × Answer) :=
  .ok (account.deleted, .deleted (account.deleted.shown now))

def ping (account : Account) (probe : ConnectionStatus) :
    Result TokenError Answer :=
  match account.standing with
  | .bound _ _ =>
      match probe with
      | .connected hostname rttMs => .ok (.pinged ⟨hostname, rttMs⟩)
      | .disconnected => .err (.disconnected account.tokenId)
  | .unused | .revoked _ | .invalidated _ => .err (.unbound account.tokenId)

def view (crates : Crates) (account : Account) (now : Instant) :
    TokenView where
  tokenId := account.tokenId
  state := (account.shown now).toString
  machine := (account.standing.client?.map Client.machine).getD "-"
  clientId := (account.standing.client?.map Client.clientId).getD "-"
  label := account.label.getD "-"
  lastSeen :=
    ((account.standing.client?.bind Client.lastSeen).map fun seen =>
      showTime crates seen.nanos).getD "-"
  expires := showTime crates account.expiry

end Account

/-- The accounts in the order of their mints. -/
abbrev Ledger := List Account

namespace Ledger

/-- Change the account of a token. -/
def update
    (ledger : Ledger) (tokenId : String)
    (change : Account → Result TokenError (Account × Answer)) :
    Result TokenError (Ledger × Answer) := do
  let account ←
    Result.ofOption (.notFound tokenId)
      (ledger.findKey Account.tokenId tokenId)
  let (account, answer) ← change account
  .ok (ledger.rewriteFirst Account.tokenId tokenId account, answer)

/-- A change that fails leaves the ledger as it is. -/
def settle
    (ledger : Ledger) (changed : Result TokenError (Ledger × Answer)) :
    Reply × Ledger :=
  match changed with
  | .ok (next, answer) => (.ok answer, next)
  | .err error => (.err error, ledger)
  | .panicked => (.panicked, ledger)

def mint
    (crates : Crates) (ledger : Ledger) (now : Instant) (idDraw : Draw 16)
    (secretDraw : Draw 32) (label : Option String) (ttl : Int) :
    Result TokenError (Ledger × Answer) := do
  let tokenId := "tok_" ++ (← randomHex idDraw)
  let secret := "hlr_" ++ (← randomHex secretDraw)
  let expiry ← addDuration now.nanos ttl
  let expires ← format crates expiry
  .ok
    (ledger ++ [{ tokenId, secret, label, expiry, standing := .unused }],
      .minted { tokenId, secret, expires })

/-- One call on the ledger. -/
def exec (crates : Crates) : Op → Ledger → Reply × Ledger
  | .mint now idDraw secretDraw label ttl, ledger =>
      ledger.settle (ledger.mint crates now idDraw secretDraw label ttl)
  | .redeem now clientDraw credentialDraw tokenId secret machine, ledger =>
      ledger.settle <| ledger.update tokenId fun account =>
        account.redeem now clientDraw credentialDraw secret machine
  | .verifyCredential now tokenId credential, ledger =>
      ledger.settle <| ledger.update tokenId fun account =>
        account.verify now credential
  | .delete now tokenId, ledger =>
      ledger.settle <| ledger.update tokenId fun account =>
        account.delete now
  | .list now, ledger =>
      (.ok (.listed (ledger.map fun account => account.view crates now)),
        ledger)
  | .ping tokenId probe, ledger =>
      (do
        let account ←
          Result.ofOption (.notFound tokenId)
            (ledger.findKey Account.tokenId tokenId)
        account.ping probe, ledger)

def service (crates : Crates) : Service Ledger Op Reply where
  init := []
  call := exec crates

end Ledger

/-- The store as a service over the content of its file. -/
def storeService (crates : Crates) (pepper : List UInt8) :
    Service File Op Reply where
  init := none
  call := Op.exec crates pepper

section Refinement

variable {crates : Crates} {pepper : List UInt8}

/-- The record an account is kept as. -/
def Account.record
    (crates : Crates) (pepper : List UInt8) (account : Account)
    (createdAt : String) : TokenRecord where
  tokenId := account.tokenId
  secretHash := hashSecret crates pepper account.secret
  state := account.standing.stored
  label := account.label
  machine := account.standing.client?.map Client.machine
  clientId := account.standing.client?.map Client.clientId
  credentialHash :=
    account.standing.credential?.map (hashSecret crates pepper)
  createdAt
  expires := showTime crates account.expiry
  lastSeen :=
    (account.standing.client?.bind Client.lastSeen).map fun seen =>
      showTime crates seen.nanos

/-- The record keeps the account; its expiry has a text. -/
structure Keeps
    (crates : Crates) (pepper : List UInt8) (account : Account)
    (record : TokenRecord) : Prop where
  written : record = account.record crates pepper record.createdAt
  dated :
    crates.formatRfc3339 account.expiry =
      .ok (showTime crates account.expiry)

/-- The content of the file keeps the ledger. -/
def KeptIn
    (crates : Crates) (pepper : List UInt8) (file : File)
    (ledger : Ledger) : Prop :=
  ∃ records,
    load crates file = .ok records ∧
      List.Forall₂ (Keeps crates pepper) ledger records

namespace Keeps

variable {account : Account} {record : TokenRecord}

theorem tokenId (keeps : Keeps crates pepper account record) :
    account.tokenId = record.tokenId := by
  rw [keeps.written]
  rfl

theorem displayState
    (lawful : crates.Lawful)
    (keeps : Keeps crates pepper account record) (now : Instant) :
    record.displayState crates now.nanos = account.shown now := by
  have parsed := lawful.parse_format keeps.dated
  rw [keeps.written]
  unfold TokenRecord.displayState Account.record Account.shown
  cases account.standing with
  | unused => simp only [Standing.stored, parsed]
  | bound client credential => rfl
  | revoked client => rfl
  | invalidated client? => rfl

theorem view
    (lawful : crates.Lawful)
    (keeps : Keeps crates pepper account record) (now : Instant) :
    TokenView.fromRecord crates record now.nanos =
      account.view crates now := by
  unfold TokenView.fromRecord
  rw [keeps.displayState lawful, keeps.written]
  rfl

/-- The presented text is checked against the secret. -/
theorem verifySecret
    (collisionFree : crates.CollisionFree pepper)
    (keeps : Keeps crates pepper account record) (presented : String) :
    verifySecret crates pepper presented record.secretHash =
      .ok (decide (presented = account.secret)) := by
  rw [keeps.written]
  exact verifySecret_hashSecret collisionFree presented account.secret

end Keeps

/-- A change of the ledger and one of the records come to the same. -/
inductive Matches
    (crates : Crates) (pepper : List UInt8) :
    Result TokenError (Ledger × Answer) →
      Result TokenError (List TokenRecord × Answer) → Prop
  | ok {ledger records answer}
      (keeps : List.Forall₂ (Keeps crates pepper) ledger records) :
      Matches crates pepper (.ok (ledger, answer)) (.ok (records, answer))
  | err (error) : Matches crates pepper (.err error) (.err error)

/-- A matching change, saved under the lock, keeps the file in step. -/
theorem Matches.settle
    (lawful : crates.Lawful)
    {ledger : Ledger} {file : File} {records : List TokenRecord}
    (loaded : load crates file = .ok records)
    (keeps : List.Forall₂ (Keeps crates pepper) ledger records)
    {changed : Result TokenError (Ledger × Answer)} {mutation : Mutation}
    (isMatch :
      Matches crates pepper changed
        (mutation.modify crates pepper records)) :
    (mutation.exec crates pepper file).1 = (ledger.settle changed).1 ∧
      KeptIn crates pepper (mutation.exec crates pepper file).2
        (ledger.settle changed).2 := by
  unfold Mutation.exec withLock
  rw [loaded, Result.ok_bind]
  generalize mutation.modify crates pepper records = modified at isMatch ⊢
  cases isMatch with
  | @ok next records' answer kept =>
      exact ⟨rfl, records', load_save lawful records', kept⟩
  | err error => exact ⟨rfl, records, loaded, keeps⟩

section Found

variable {ledger : Ledger} {records : List TokenRecord}

/-- The record found for a token keeps the account found for it. -/
theorem found_of_keeps
    (keeps : List.Forall₂ (Keeps crates pepper) ledger records)
    (tokenId : String) :
    (ledger.findKey Account.tokenId tokenId = none ∧
        findRecord tokenId records = .err (.notFound tokenId)) ∨
      ∃ account record,
        ledger.findKey Account.tokenId tokenId = some account ∧
          findRecord tokenId records = .ok record ∧
          account.tokenId = tokenId ∧
          Keeps crates pepper account record := by
  have related :=
    @List.findKey_of_forall₂ _ _ _ _ tokenId _ _ _
      (fun {_ _} keeps => Keeps.tokenId keeps) _ _ keeps
  unfold findRecord
  generalize found : ledger.findKey Account.tokenId tokenId = account? at related
  generalize records.findKey TokenRecord.tokenId tokenId = record? at related ⊢
  cases related with
  | none => exact .inl ⟨rfl, rfl⟩
  | @some account record keptAs =>
      exact
        .inr ⟨account, record, rfl, rfl, (List.findKey_eq_some found).2, keptAs⟩

/-- Writing the record of an account back. -/
theorem forall₂_putRecord
    (keeps : List.Forall₂ (Keeps crates pepper) ledger records)
    {account : Account} {record : TokenRecord}
    (kept : Keeps crates pepper account record) :
    List.Forall₂ (Keeps crates pepper)
      (ledger.rewriteFirst Account.tokenId account.tokenId account)
      (putRecord record records) := by
  unfold putRecord
  rw [← kept.tokenId]
  exact List.forall₂_rewriteFirst (fun {_ _} keeps => Keeps.tokenId keeps) keeps kept

end Found

section Calls

variable {ledger : Ledger} {records : List TokenRecord}

/-- A redeem does to the records what it does to the ledger. -/
theorem matches_redeem
    (lawful : crates.Lawful)
    (collisionFree : crates.CollisionFree pepper)
    (keeps : List.Forall₂ (Keeps crates pepper) ledger records)
    (now : Instant) (clientDraw : Draw 16) (credentialDraw : Draw 32)
    (tokenId secret machine : String) :
    Matches crates pepper
      (ledger.update tokenId fun account =>
        account.redeem now clientDraw credentialDraw secret machine)
      ((Mutation.redeem now clientDraw credentialDraw tokenId secret
        machine).modify crates pepper records) := by
  simp only [Ledger.update, Mutation.modify, redeemSection]
  rcases found_of_keeps keeps tokenId with
    ⟨unknown, missing⟩ | ⟨account, record, known, found, rfl, kept⟩
  · rw [unknown, missing]
    exact .err _
  rw [known, found]
  simp only [Result.ofOption, Result.ok_bind, kept.displayState lawful,
    kept.verifySecret collisionFree, Account.redeem, Account.shown]
  cases standing : account.standing with
  | bound client credential => exact .err _
  | invalidated client? => exact .err _
  | revoked client => exact .err _
  | unused =>
      by_cases expired : account.expiry ≤ now.nanos
      · simp only [expired, if_true]
        exact .err _
      by_cases same : secret = account.secret
      · simp only [expired, if_false, requireUnused, Result.ok_bind, same,
          decide_true, if_true, ne_eq, not_true_eq_false]
        cases clientDraw with
        | none => exact .err _
        | some clientBytes =>
            cases credentialDraw with
            | none => exact .err _
            | some credentialBytes =>
                simp only [randomHex, Result.ok_bind]
                generalize "cli_" ++ toHex clientBytes.toList = clientId
                generalize
                  "hlr_live_" ++ toHex credentialBytes.toList = credential
                have bound :
                    Keeps crates pepper
                      { account with
                        standing := .bound ⟨clientId, machine, none⟩ credential }
                      (record.redeemed crates pepper machine clientId
                        credential) := by
                  refine ⟨?_, kept.dated⟩
                  rw [kept.written]
                  simp only [Account.record, standing]
                  rfl
                exact .ok (forall₂_putRecord keeps bound)
      · simp only [expired, if_false, requireUnused, Result.ok_bind, same,
          decide_false, ne_eq, not_false_eq_true, if_true]
        exact .err _

/-- So does the check of a credential. -/
theorem matches_verify
    (lawful : crates.Lawful)
    (collisionFree : crates.CollisionFree pepper)
    (keeps : List.Forall₂ (Keeps crates pepper) ledger records)
    (now : Instant) (tokenId credential : String) :
    Matches crates pepper
      (ledger.update tokenId fun account =>
        account.verify now credential)
      ((Mutation.verifyCredential now tokenId credential).modify crates
        pepper records) := by
  simp only [Ledger.update, Mutation.modify, verifySection]
  rcases found_of_keeps keeps tokenId with
    ⟨unknown, missing⟩ | ⟨account, record, known, found, rfl, kept⟩
  · rw [unknown, missing]
    exact .err _
  rw [known, found]
  have state : record.state = account.standing.stored := by
    rw [kept.written]
    rfl
  have hash :
      record.credentialHash =
        account.standing.credential?.map (hashSecret crates pepper) := by
    rw [kept.written]
    rfl
  simp only [Result.ofOption, Result.ok_bind, state, hash, Account.verify]
  cases standing : account.standing with
  | unused => exact .err _
  | invalidated client? => exact .err _
  | revoked client => exact .err _
  | bound client stored =>
      simp only [Standing.stored, requireBound, Result.ok_bind,
        Standing.credential?, Option.map_some, credentialMatches,
        verifySecret_hashSecret collisionFree]
      by_cases same : credential = stored
      · obtain ⟨lastSeen, formatted⟩ := lawful.format_clock now
        simp only [same, decide_true, if_true,
          format_eq_ok.mpr formatted, Result.ok_bind]
        have answered :
            ({ tokenId := account.tokenId
               clientId := record.clientId.getD ""
               machine := record.machine.getD "" } : VerifiedClient) =
              ⟨account.tokenId, client.clientId, client.machine⟩ := by
          rw [kept.written]
          simp only [Account.record, standing]
          rfl
        rw [answered]
        have seen :
            Keeps crates pepper
              { account with
                standing := .bound { client with lastSeen := some now } stored }
              { record with
                state := .bound
                credentialHash := some (hashSecret crates pepper stored)
                lastSeen := some lastSeen } := by
          refine ⟨?_, kept.dated⟩
          rw [kept.written, ← showTime_of_format formatted]
          simp only [Account.record, standing]
          rfl
        exact .ok (forall₂_putRecord keeps seen)
      · simp only [same, decide_false, if_false]
        exact .err _

/-- So does a delete. -/
theorem matches_delete
    (lawful : crates.Lawful)
    (keeps : List.Forall₂ (Keeps crates pepper) ledger records)
    (now : Instant) (tokenId : String) :
    Matches crates pepper
      (ledger.update tokenId fun account => account.delete now)
      ((Mutation.delete now tokenId).modify crates pepper records) := by
  simp only [Ledger.update, Mutation.modify, deleteSection]
  rcases found_of_keeps keeps tokenId with
    ⟨unknown, missing⟩ | ⟨account, record, known, found, rfl, kept⟩
  · rw [unknown, missing]
    exact .err _
  rw [known, found]
  have deleted : Keeps crates pepper account.deleted record.deleted := by
    refine ⟨?_, kept.dated⟩
    rw [kept.written]
    unfold TokenRecord.deleted Account.deleted Account.record
    cases account.standing with
    | unused => rfl
    | bound client credential => rfl
    | revoked client => rfl
    | invalidated client? => rfl
  simp only [Result.ofOption, Result.ok_bind, Account.delete,
    deleted.displayState lawful]
  exact .ok (forall₂_putRecord keeps deleted)

/-- A mint prepares the record of a new account. -/
theorem matches_mint
    (lawful : crates.Lawful)
    (keeps : List.Forall₂ (Keeps crates pepper) ledger records)
    (now : Instant) (idDraw : Draw 16) (secretDraw : Draw 32)
    (label : Option String) (ttl : Int) :
    (∃ record result,
      mintRecord crates pepper now idDraw secretDraw label ttl =
          .ok (record, result) ∧
        Matches crates pepper
          (ledger.mint crates now idDraw secretDraw label ttl)
          ((Mutation.mint record result).modify crates pepper records)) ∨
    (∃ error,
      mintRecord crates pepper now idDraw secretDraw label ttl =
          .err error ∧
        ledger.mint crates now idDraw secretDraw label ttl = .err error) ∨
    (mintRecord crates pepper now idDraw secretDraw label ttl = .panicked ∧
      ledger.mint crates now idDraw secretDraw label ttl = .panicked) := by
  unfold mintRecord Ledger.mint
  cases idDraw with
  | none => exact .inr (.inl ⟨.rng, rfl, rfl⟩)
  | some idBytes =>
  cases secretDraw with
  | none => exact .inr (.inl ⟨.rng, rfl, rfl⟩)
  | some secretBytes =>
  simp only [randomHex, Result.ok_bind]
  cases added : addDuration now.nanos ttl with
  | err error => exact .inr (.inl ⟨error, rfl, rfl⟩)
  | panicked => exact .inr (.inr ⟨rfl, rfl⟩)
  | ok expiry =>
  simp only [Result.ok_bind]
  cases formatted : format crates expiry with
  | err error => exact .inr (.inl ⟨error, rfl, rfl⟩)
  | panicked => exact absurd formatted format_ne_panicked
  | ok expires =>
      obtain ⟨createdAt, created⟩ := lawful.format_clock now
      have isText := format_eq_ok.mp formatted
      simp only [Result.ok_bind, format_eq_ok.mpr created]
      refine .inl ⟨_, _, rfl, .ok ?_⟩
      refine List.rel_append keeps (.cons ⟨?_, ?_⟩ .nil)
      · simp only [Account.record, showTime_of_format isText]
        rfl
      · rw [showTime_of_format isText]
        exact isText

end Calls

/-- The records are listed as the accounts are. -/
theorem views_of_keeps
    (lawful : crates.Lawful)
    {ledger : Ledger} {records : List TokenRecord}
    (keeps : List.Forall₂ (Keeps crates pepper) ledger records)
    (now : Instant) :
    (records.map fun record =>
        TokenView.fromRecord crates record now.nanos) =
      ledger.map fun account => account.view crates now := by
  induction keeps with
  | nil => rfl
  | cons kept others inductionHypothesis =>
      rw [List.map_cons, List.map_cons, kept.view lawful,
        inductionHypothesis]

/-- Every call on the store gets the reply of the ledger, and leaves a file that
keeps the ledger. -/
theorem store_refines
    (lawful : crates.Lawful)
    (collisionFree : crates.CollisionFree pepper) :
    Service.Refines (storeService crates pepper) (Ledger.service crates)
      (KeptIn crates pepper) where
  init := ⟨[], rfl, .nil⟩
  call := by
    rintro op _ file ledger rfl ⟨records, loaded, keeps⟩
    cases op with
    | mint now idDraw secretDraw label ttl =>
        simp only [storeService, Op.exec, Ledger.service, Ledger.exec]
        rcases matches_mint lawful keeps now idDraw secretDraw label ttl with
          ⟨record, result, minted, isMatch⟩ | ⟨error, failed, same⟩ |
            ⟨failed, same⟩
        · rw [minted]
          exact isMatch.settle lawful loaded keeps
        · rw [failed, same]
          exact ⟨rfl, records, loaded, keeps⟩
        · rw [failed, same]
          exact ⟨rfl, records, loaded, keeps⟩
    | redeem now clientDraw credentialDraw tokenId secret machine =>
        exact
          (matches_redeem lawful collisionFree keeps now clientDraw
            credentialDraw tokenId secret machine).settle lawful loaded
            keeps
    | verifyCredential now tokenId credential =>
        exact
          (matches_verify lawful collisionFree keeps now tokenId
            credential).settle lawful loaded keeps
    | delete now tokenId =>
        exact
          (matches_delete lawful keeps now tokenId).settle lawful loaded keeps
    | list now =>
        refine ⟨?_, records, loaded, keeps⟩
        simp only [storeService, Op.exec, Ledger.service, Ledger.exec,
          Token.list, loaded, Result.ok_bind,
          views_of_keeps lawful keeps now]
    | ping tokenId probe =>
        refine ⟨?_, records, loaded, keeps⟩
        simp only [storeService, Op.exec, Ledger.service, Ledger.exec,
          Token.ping, loaded, Result.ok_bind]
        rcases found_of_keeps keeps tokenId with
          ⟨unknown, missing⟩ | ⟨account, record, known, found, rfl, kept⟩
        · rw [unknown, missing]
          rfl
        have state : record.state = account.standing.stored := by
          rw [kept.written]
          rfl
        rw [known, found]
        simp only [Result.ofOption, Result.ok_bind, state, Account.ping]
        cases account.standing with
        | bound client credential => cases probe <;> rfl
        | unused => rfl
        | revoked client => rfl
        | invalidated client? => rfl

/-- A history is the run of the store as a service. -/
theorem ofOps_eq (ops : List Op) :
    History.ofOps crates pepper ops =
      { log :=
          ops.zip ((storeService crates pepper).replies ops none)
        file := (storeService crates pepper).after ops none } := by
  induction ops using List.reverseRecOn with
  | nil => rfl
  | append_singleton ops op inductionHypothesis =>
      rw [History.ofOps_snoc, inductionHypothesis,
        Service.replies_append, Service.after_append,
        List.zip_append (Service.length_replies _ ops none).symm]
      rfl

/-- A mint whose random bytes are drawn and whose expiry is no point in time. -/
def Op.Overflows : Op → Prop
  | .mint now idDraw secretDraw _ ttl =>
      idDraw.isSome = true ∧ secretDraw.isSome = true ∧
        ¬(minDateTime ≤ now.nanos + ttl ∧ now.nanos + ttl ≤ maxDateTime)
  | _ => False

theorem Account.redeem_ne_panicked
    (account : Account) (now : Instant) (clientDraw : Draw 16)
    (credentialDraw : Draw 32) (secret machine : String) :
    account.redeem now clientDraw credentialDraw secret machine ≠
      .panicked := by
  unfold redeem
  cases account.standing with
  | bound client credential => simp
  | revoked client => simp
  | invalidated client? => simp
  | unused =>
      by_cases expired : account.expiry ≤ now.nanos
      · simp [expired]
      by_cases same : secret = account.secret
      · cases clientDraw with
        | none => simp [expired, same]
        | some clientBytes => cases credentialDraw <;> simp [expired, same]
      · simp [expired, same]

theorem Account.verify_ne_panicked
    (account : Account) (now : Instant) (presented : String) :
    account.verify now presented ≠ .panicked := by
  unfold verify
  cases account.standing with
  | unused => simp
  | revoked client => simp
  | invalidated client? => simp
  | bound client credential =>
      by_cases same : presented = credential
      · simp [same]
      · simp [same]

theorem Account.ping_ne_panicked
    (account : Account) (probe : ConnectionStatus) :
    account.ping probe ≠ .panicked := by
  unfold ping
  cases account.standing with
  | unused => simp
  | revoked client => simp
  | invalidated client? => simp
  | bound client credential => cases probe <;> simp

theorem Ledger.update_ne_panicked
    {ledger : Ledger} {tokenId : String}
    {change : Account → Result TokenError (Account × Answer)}
    (returns : ∀ account, change account ≠ .panicked) :
    ledger.update tokenId change ≠ .panicked := by
  intro panicked
  rcases Result.bind_eq_panicked.mp panicked with
    missing | ⟨account, _, changed⟩
  · exact Result.ofOption_ne_panicked missing
  · rcases Result.bind_eq_panicked.mp changed with
      failed | ⟨_, _, impossible⟩
    · exact returns account failed
    · cases impossible

theorem Ledger.settle_fst_eq_panicked
    {ledger : Ledger} {changed : Result TokenError (Ledger × Answer)} :
    (ledger.settle changed).1 = .panicked ↔ changed = .panicked := by
  cases changed <;> simp [settle]

theorem Ledger.mint_eq_panicked
    {ledger : Ledger} {now : Instant} {idDraw : Draw 16}
    {secretDraw : Draw 32} {label : Option String} {ttl : Int} :
    ledger.mint crates now idDraw secretDraw label ttl = .panicked ↔
      (Op.mint now idDraw secretDraw label ttl).Overflows := by
  unfold mint Op.Overflows
  cases idDraw with
  | none => simp [randomHex, Result.err_bind]
  | some idBytes =>
  cases secretDraw with
  | none => simp [randomHex, Result.err_bind]
  | some secretBytes =>
  simp only [randomHex, Result.ok_bind, Option.isSome_some, true_and]
  unfold addDuration
  split
  next inside =>
    refine iff_of_false ?_ (not_not_intro inside)
    rw [Result.ok_bind]
    intro panicked
    rcases Result.bind_eq_panicked.mp panicked with
      failed | ⟨_, _, impossible⟩
    · exact format_ne_panicked failed
    · cases impossible
  next outside => exact iff_of_true rfl outside

/-- The ledger panics only over the expiry of a mint. -/
theorem Ledger.exec_fst_eq_panicked (op : Op) (ledger : Ledger) :
    (Ledger.exec crates op ledger).1 = .panicked ↔ op.Overflows := by
  cases op with
  | mint now idDraw secretDraw label ttl =>
      exact settle_fst_eq_panicked.trans mint_eq_panicked
  | redeem now clientDraw credentialDraw tokenId secret machine =>
      refine settle_fst_eq_panicked.trans (iff_of_false ?_ id)
      exact update_ne_panicked fun account =>
        account.redeem_ne_panicked now clientDraw credentialDraw secret
          machine
  | verifyCredential now tokenId credential =>
      refine settle_fst_eq_panicked.trans (iff_of_false ?_ id)
      exact update_ne_panicked fun account =>
        account.verify_ne_panicked now credential
  | delete now tokenId =>
      refine settle_fst_eq_panicked.trans (iff_of_false ?_ id)
      exact update_ne_panicked fun account => by simp [Account.delete]
  | list now => simp [exec, Op.Overflows]
  | ping tokenId probe =>
      refine iff_of_false ?_ id
      intro panicked
      rcases Result.bind_eq_panicked.mp panicked with
        missing | ⟨account, _, failed⟩
      · exact Result.ofOption_ne_panicked missing
      · exact account.ping_ne_panicked probe failed

/-- Without collisions of the hash: after any calls on an empty store, whatever
was presented and however the random draws turned out, every reply is the one the ledger gives, the file keeps
the ledger, and a call panicked only over a mint whose expiry is no point in
time. -/
theorem store_refines_ledger
    (lawful : crates.Lawful)
    (collisionFree : crates.CollisionFree pepper) (ops : List Op) :
    let history := History.ofOps crates pepper ops
    history.log =
        ops.zip ((Ledger.service crates).replies ops []) ∧
      KeptIn crates pepper history.file
        ((Ledger.service crates).after ops []) ∧
      ∀ op reply, (op, reply) ∈ history.log →
        (reply = .panicked ↔ op.Overflows) := by
  intro history
  have refined := Service.Refines.run (store_refines lawful collisionFree) ops
  have log :
      history.log =
        ops.zip ((Ledger.service crates).replies ops []) := by
    show (History.ofOps crates pepper ops).log = _
    rw [ofOps_eq]
    exact congrArg (ops.zip ·) refined.1
  refine ⟨log, ?_, ?_⟩
  · show KeptIn crates pepper (History.ofOps crates pepper ops).file _
    rw [ofOps_eq]
    exact refined.2
  · intro op reply member
    rw [log] at member
    obtain ⟨before, replied⟩ :=
      Service.exists_call_of_mem_zip (Ledger.service crates) member
    rw [replied]
    exact Ledger.exec_fst_eq_panicked op before

theorem store_refines_ledger_sample :
    (History.ofOps .sample Sample.pepper
        [Sample.mint, Sample.redeemCall]).log =
      [Sample.mint, Sample.redeemCall].zip
        ((Ledger.service .sample).replies
          [Sample.mint, Sample.redeemCall] []) :=
  (store_refines_ledger Crates.sample_lawful
    (Crates.sample_collisionFree Sample.pepper)
    [Sample.mint, Sample.redeemCall]).1

end Refinement

end HollerServer.Token
