import Mathlib.Logic.Equiv.Basic
import HollerServer.Token.Ledger

/-!
# What the store shows of its secrets

Join secrets and client credentials are only ever compared.  Rename them in all
calls on a store, whatever is drawn and whatever is presented, and take another
pepper: every reply is the same but for the name of a secret or credential that
is handed out.  What `list`, `ping`, `delete` and `verify_credential` answer, and
every error, stays the same.
-/

namespace HollerServer.Token

section Renaming

variable (rename : String → String)

/-- Both draws fail, or the text of the second is that of the first renamed. -/
def DrawnAs (mark : String) : Draw 32 → Draw 32 → Prop :=
  Option.Rel fun bytes bytes' =>
    mark ++ toHex bytes'.toList = rename (mark ++ toHex bytes.toList)

/-- The same call with its secret or credential renamed. -/
inductive Op.Renamed : Op → Op → Prop
  | mint {now idDraw secretDraw secretDraw' label ttl}
      (drawn : DrawnAs rename "hlr_" secretDraw secretDraw') :
      Renamed (.mint now idDraw secretDraw label ttl)
        (.mint now idDraw secretDraw' label ttl)
  | redeem
      {now clientDraw credentialDraw credentialDraw' tokenId secret machine}
      (drawn : DrawnAs rename "hlr_live_" credentialDraw credentialDraw') :
      Renamed
        (.redeem now clientDraw credentialDraw tokenId secret machine)
        (.redeem now clientDraw credentialDraw' tokenId (rename secret)
          machine)
  | verifyCredential (now tokenId credential) :
      Renamed (.verifyCredential now tokenId credential)
        (.verifyCredential now tokenId (rename credential))
  | delete (now tokenId) : Renamed (.delete now tokenId) (.delete now tokenId)
  | list (now) : Renamed (.list now) (.list now)
  | ping (tokenId probe) : Renamed (.ping tokenId probe) (.ping tokenId probe)

/-- An answer with the secret or credential it hands out renamed. -/
def Answer.renamed : Answer → Answer
  | .minted result => .minted { result with secret := rename result.secret }
  | .redeemed result =>
      .redeemed { result with credential := rename result.credential }
  | .verified client => .verified client
  | .deleted state => .deleted state
  | .listed views => .listed views
  | .pinged outcome => .pinged outcome

def Reply.renamed : Reply → Reply
  | .ok answer => .ok (answer.renamed rename)
  | .err error => .err error
  | .panicked => .panicked

def Standing.renamed : Standing → Standing
  | .unused => .unused
  | .bound client credential => .bound client (rename credential)
  | .revoked client => .revoked client
  | .invalidated client? => .invalidated client?

def Account.renamed (account : Account) : Account :=
  { account with
    secret := rename account.secret
    standing := account.standing.renamed rename }

/-- A changed account and its answer, renamed. -/
def Account.renameChange :
    Result TokenError (Account × Answer) →
      Result TokenError (Account × Answer)
  | .ok (account, answer) =>
      .ok (account.renamed rename, answer.renamed rename)
  | .err error => .err error
  | .panicked => .panicked

end Renaming

section Accounts

variable {rename : String → String}

theorem Account.renamed_shown (account : Account) (now : Instant) :
    (account.renamed rename).shown now = account.shown now := by
  obtain ⟨_, _, _, _, standing⟩ := account
  cases standing <;> rfl

theorem Account.renamed_view
    (crates : Crates) (account : Account) (now : Instant) :
    (account.renamed rename).view crates now = account.view crates now := by
  have client :
      (account.renamed rename).standing.client? =
        account.standing.client? := by
    obtain ⟨_, _, _, _, standing⟩ := account
    cases standing <;> rfl
  unfold view
  rw [account.renamed_shown, client]
  rfl

theorem Account.renamed_ping
    (account : Account) (probe : ConnectionStatus) :
    (account.renamed rename).ping probe = account.ping probe := by
  obtain ⟨_, _, _, _, standing⟩ := account
  cases standing <;> rfl

theorem Account.renamed_pinged
    (account : Account) (probe : ConnectionStatus) :
    Reply.renamed rename (account.ping probe) = account.ping probe := by
  obtain ⟨_, _, _, _, standing⟩ := account
  cases standing with
  | bound client credential => cases probe <;> rfl
  | unused => rfl
  | revoked client => rfl
  | invalidated client? => rfl

theorem Account.renamed_delete (account : Account) (now : Instant) :
    (account.renamed rename).delete now =
      renameChange rename (account.delete now) := by
  obtain ⟨_, _, _, _, standing⟩ := account
  cases standing <;> rfl

theorem Account.renamed_verify
    (injective : Function.Injective rename) (account : Account)
    (now : Instant) (presented : String) :
    (account.renamed rename).verify now (rename presented) =
      renameChange rename (account.verify now presented) := by
  obtain ⟨_, _, _, _, standing⟩ := account
  cases standing with
  | unused => rfl
  | revoked client => rfl
  | invalidated client? => rfl
  | bound client credential =>
      unfold verify
      simp only [renamed, Standing.renamed, injective.eq_iff]
      by_cases same : presented = credential
      · simp only [same, if_true]
        rfl
      · simp only [same, if_false]
        rfl

theorem Account.renamed_redeem
    (injective : Function.Injective rename) (account : Account)
    (now : Instant) (clientDraw : Draw 16)
    {credentialDraw credentialDraw' : Draw 32}
    (drawn : DrawnAs rename "hlr_live_" credentialDraw credentialDraw')
    (secret machine : String) :
    (account.renamed rename).redeem now clientDraw credentialDraw'
        (rename secret) machine =
      renameChange rename
        (account.redeem now clientDraw credentialDraw secret machine) := by
  obtain ⟨_, stored, _, expiry, standing⟩ := account
  cases standing with
  | bound client credential => rfl
  | revoked client => rfl
  | invalidated client? => rfl
  | unused =>
      unfold redeem
      simp only [renamed, Standing.renamed, ne_eq, injective.eq_iff]
      by_cases expired : expiry ≤ now.nanos
      · simp only [expired, if_true]
        rfl
      by_cases same : secret = stored
      · simp only [expired, same, not_true_eq_false, if_false]
        cases clientDraw with
        | none => rfl
        | some clientBytes =>
            cases drawn with
            | none => rfl
            | some named =>
                simp only [named]
                rfl
      · simp only [expired, same, not_false_eq_true, if_true, if_false]
        rfl

end Accounts

namespace Ledger

variable {rename : String → String}

/-- The ledger with every secret and credential renamed. -/
def renamed (rename : String → String) (ledger : Ledger) : Ledger :=
  ledger.map (Account.renamed rename)

/-- A change that renames alike does so in the whole ledger. -/
theorem settle_renamed
    (ledger : Ledger) (tokenId : String)
    {change change' : Account → Result TokenError (Account × Answer)}
    (alike :
      ∀ account,
        change' (account.renamed rename) =
          Account.renameChange rename (change account)) :
    settle (ledger.renamed rename)
        (update (ledger.renamed rename) tokenId change') =
      (Reply.renamed rename (ledger.settle (ledger.update tokenId change)).1,
        renamed rename
          (ledger.settle (ledger.update tokenId change)).2) := by
  have found :
      (ledger.renamed rename).findKey Account.tokenId tokenId =
        (ledger.findKey Account.tokenId tokenId).map
          (Account.renamed rename) :=
    List.findKey_map (fun _ => rfl) ledger
  have rewritten (account : Account) :
      (ledger.renamed rename).rewriteFirst Account.tokenId tokenId
          (account.renamed rename) =
        renamed rename
          (ledger.rewriteFirst Account.tokenId tokenId account) :=
    List.rewriteFirst_map (fun _ => rfl) account ledger
  unfold update
  rw [found]
  cases ledger.findKey Account.tokenId tokenId with
  | none => rfl
  | some account =>
      simp only [Option.map_some, Result.ofOption, Result.ok_bind, alike]
      cases change account with
      | ok changed =>
          simp only [Account.renameChange, Result.ok_bind,
            rewritten]
          rfl
      | err error => rfl
      | panicked => rfl

theorem mint_renamed
    (crates : Crates) (ledger : Ledger) (now : Instant) (idDraw : Draw 16)
    {secretDraw secretDraw' : Draw 32}
    (drawn : DrawnAs rename "hlr_" secretDraw secretDraw')
    (label : Option String) (ttl : Int) :
    settle (ledger.renamed rename)
        (mint crates (ledger.renamed rename) now idDraw secretDraw' label
          ttl) =
      (Reply.renamed rename
          (ledger.settle
            (ledger.mint crates now idDraw secretDraw label ttl)).1,
        renamed rename
          (ledger.settle
            (ledger.mint crates now idDraw secretDraw label ttl)).2) := by
  unfold mint
  cases idDraw with
  | none => rfl
  | some idBytes =>
  cases drawn with
  | none => rfl
  | some named =>
  simp only [randomHex, Result.ok_bind, named]
  cases addDuration now.nanos ttl with
  | err error => rfl
  | panicked => rfl
  | ok expiry =>
  simp only [Result.ok_bind]
  cases format crates expiry with
  | err error => rfl
  | panicked => rfl
  | ok expires =>
      simp only [Result.ok_bind, settle, renamed, List.map_append]
      rfl

/-- Renamed calls on a renamed ledger get renamed replies. -/
theorem renaming_simulates
    (crates : Crates) (injective : Function.Injective rename) :
    Service.Simulation (service crates) (service crates) (Op.Renamed rename)
      (fun reply reply' => Reply.renamed rename reply = reply')
      (fun ledger ledger' => ledger.renamed rename = ledger') where
  init := rfl
  call := by
    rintro op op' ledger _ asked rfl
    refine
      Prod.mk.inj
        (Eq.symm
          (?_ :
            exec crates op' (ledger.renamed rename) =
              (Reply.renamed rename (exec crates op ledger).1,
                renamed rename (exec crates op ledger).2)))
    cases asked with
    | @mint now idDraw secretDraw secretDraw' label ttl drawn =>
        exact mint_renamed crates ledger now idDraw drawn label ttl
    | redeem drawn =>
        exact settle_renamed ledger _ fun account =>
          account.renamed_redeem injective _ _ drawn _ _
    | verifyCredential now tokenId credential =>
        exact settle_renamed ledger tokenId fun account =>
          account.renamed_verify injective now credential
    | delete now tokenId =>
        exact settle_renamed ledger tokenId fun account =>
          account.renamed_delete now
    | list now =>
        simp only [exec, renamed, List.map_map, Function.comp_def,
          Account.renamed_view]
        rfl
    | ping tokenId probe =>
        have found :
            (ledger.renamed rename).findKey Account.tokenId tokenId =
              (ledger.findKey Account.tokenId tokenId).map
                (Account.renamed rename) :=
          List.findKey_map (fun _ => rfl) ledger
        simp only [exec, found]
        cases ledger.findKey Account.tokenId tokenId with
        | none => rfl
        | some account =>
            simp only [Option.map_some, Result.ofOption, Result.ok_bind,
              Account.renamed_ping]
            rw [account.renamed_pinged]

end Ledger

/-- Whatever is drawn and presented, without collisions of the hash: rename the
secrets and credentials of all calls on an empty store by any injective renaming,
and take another pepper.  Every reply is the same, but that a secret or
credential handed out is renamed. -/
theorem secrets_are_only_compared
    {crates : Crates} {pepper pepper' : List UInt8}
    (lawful : crates.Lawful)
    (collisionFree : crates.CollisionFree pepper)
    (collisionFree' : crates.CollisionFree pepper')
    {rename : String → String} (injective : Function.Injective rename)
    {ops ops' : List Op}
    (alike : List.Forall₂ (Op.Renamed rename) ops ops') :
    (History.ofOps crates pepper' ops').log.map Prod.snd =
      ((History.ofOps crates pepper ops).log.map Prod.snd).map
        (Reply.renamed rename) := by
  have replies {pepper : List UInt8}
      (collisionFree : crates.CollisionFree pepper) (ops : List Op) :
      (History.ofOps crates pepper ops).log.map Prod.snd =
        (Ledger.service crates).replies ops [] := by
    rw [(store_refines_ledger lawful collisionFree ops).1]
    refine List.map_snd_zip ?_
    exact le_of_eq (Service.length_replies _ ops [])
  have renamed :=
    ((Ledger.renaming_simulates crates injective).run_init alike).1
  rw [← List.forall₂_map_left_iff, List.forall₂_eq_eq_eq] at renamed
  rw [replies collisionFree, replies collisionFree']
  exact renamed.symm

namespace Sample

/-- The secret of the sample and another one change places. -/
def swapped : String → String := Equiv.swap secret otherSecret

theorem drawnAs_otherSecretBytes :
    DrawnAs swapped "hlr_" (some secretBytes) (some otherSecretBytes) :=
  .some (Equiv.swap_apply_left secret otherSecret).symm

theorem drawnAs_credentialBytes :
    DrawnAs swapped "hlr_live_" (some credentialBytes)
      (some credentialBytes) := by
  refine .some (Equiv.swap_apply_of_ne_of_ne ?_ ?_).symm
  · decide +kernel
  · decide +kernel

end Sample

/-- A token minted with another secret under another pepper, and redeemed. -/
theorem secrets_are_only_compared_otherSecret :
    (History.ofOps .sample Sample.otherPepper
        [.mint Sample.mintedAt (some Sample.idBytes)
            (some Sample.otherSecretBytes) none Sample.ttl,
          .redeem Sample.mintedAt (some Sample.clientBytes)
            (some Sample.credentialBytes) Sample.tokenId
            (Sample.swapped Sample.secret) "laptop"]).log.map Prod.snd =
      ((History.ofOps .sample Sample.pepper
          [Sample.mint, Sample.redeemCall]).log.map Prod.snd).map
        (Reply.renamed Sample.swapped) :=
  secrets_are_only_compared Crates.sample_lawful
    (Crates.sample_collisionFree Sample.pepper)
    (Crates.sample_collisionFree Sample.otherPepper)
    (Equiv.swap Sample.secret Sample.otherSecret).injective
    (.cons (.mint Sample.drawnAs_otherSecretBytes)
      (.cons (.redeem Sample.drawnAs_credentialBytes) .nil))

end HollerServer.Token
