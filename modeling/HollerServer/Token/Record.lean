import HollerServer.Token.Hex

/-!
# Token records

The records of `src/token/mod.rs` and what is read off them: the displayed state
and the check of a presented secret.  Four crates are parameters of the model:
HMAC-SHA-256, the RFC 3339 text of a point in time, and the JSON text of the
record list.  `Crates.Lawful` states what the code relies on;
`Crates.CollisionFree` stands apart from it.

A point in time is a number of nanoseconds from the Unix epoch.
-/

namespace HollerServer.Token

open Text

inductive TokenError where
  | pepperMissing
  | invalidTtl (ttl : String)
  | notFound (tokenId : String)
  | unbound (tokenId : String)
  | disconnected (tokenId : String)
  | wrongSecret (tokenId : String)
  | wrongCredential (tokenId : String)
  | alreadyBound (tokenId : String)
  | invalidated (tokenId : String)
  | revoked (tokenId : String)
  | stale (tokenId : String)
  | io (message : String)
  | serde
  | rng
  | time (message : String)
  deriving DecidableEq, Repr

/-- The persisted state; `stale` is derived when a record is read. -/
inductive StoredState where
  | unused
  | bound
  | invalidated
  | revoked
  deriving DecidableEq, Repr

inductive DisplayState where
  | unused
  | bound
  | stale
  | invalidated
  | revoked
  deriving DecidableEq, Repr

def DisplayState.toString : DisplayState → String
  | .unused => "unused"
  | .bound => "bound"
  | .stale => "stale"
  | .invalidated => "invalidated"
  | .revoked => "revoked"

structure TokenRecord where
  tokenId : String
  secretHash : String
  state : StoredState
  label : Option String
  machine : Option String
  clientId : Option String
  credentialHash : Option String
  createdAt : String
  expires : String
  lastSeen : Option String
  deriving DecidableEq, Repr

/-- A record as `list` shows it. -/
structure TokenView where
  tokenId : String
  state : String
  machine : String
  clientId : String
  label : String
  lastSeen : String
  expires : String
  deriving DecidableEq, Repr

structure MintResult where
  tokenId : String
  secret : String
  expires : String
  deriving DecidableEq, Repr

structure RedeemResult where
  tokenId : String
  clientId : String
  credential : String
  deriving DecidableEq, Repr

structure VerifiedClient where
  tokenId : String
  clientId : String
  machine : String
  deriving DecidableEq, Repr

inductive ConnectionStatus where
  | disconnected
  | connected (hostname : String) (rttMs : Nat)
  deriving DecidableEq, Repr

structure PingOutcome where
  hostname : String
  rttMs : Nat
  deriving DecidableEq, Repr

/-- The range of `OffsetDateTime`: the years -9999 to 9999. -/
def minDateTime : Int := -377705116800 * 1000000000

def maxDateTime : Int := 253402300800 * 1000000000 - 1

/-- The first instant RFC 3339 can write: the beginning of year 0. -/
def minRfc3339 : Int := -62167219200 * 1000000000

/-- A reading of the system clock. -/
structure Instant where
  nanos : Int
  earliest : minRfc3339 ≤ nanos
  latest : nanos ≤ maxDateTime

/-- The functions of other crates the store calls. -/
structure Crates where
  hmacSha256 : List UInt8 → List UInt8 → List UInt8
  formatRfc3339 : Int → Except String String
  parseRfc3339 : String → Option Int
  toStringPretty : List TokenRecord → String
  fromStr : String → Option (List TokenRecord)

/-- What the store relies on.  A clock reading can be written and a written time
reads back; the JSON text of a record list reads back and is not blank. -/
structure Crates.Lawful (crates : Crates) : Prop where
  format_clock :
    ∀ now : Instant, ∃ text, crates.formatRfc3339 now.nanos = .ok text
  parse_format :
    ∀ {time text}, crates.formatRfc3339 time = .ok text →
      crates.parseRfc3339 text = some time
  fromStr_toStringPretty :
    ∀ records, crates.fromStr (crates.toStringPretty records) =
      some records
  toStringPretty_not_blank :
    ∀ records, isBlank (crates.toStringPretty records) = false

/-- No two texts share a digest under the pepper.  No digest of a fixed length
has this: it is the idealisation behind every statement that a stored hash stands
for one secret, and a hypothesis of those statements only. -/
def Crates.CollisionFree (crates : Crates) (pepper : List UInt8) : Prop :=
  Function.Injective (crates.hmacSha256 pepper)

section Helpers

variable (crates : Crates) (pepper : List UInt8)

/-- `n` bytes of the system's random source, or none when it fails. -/
abbrev Draw (n : Nat) := Option (Vector UInt8 n)

def randomHex {n : Nat} (draw : Draw n) : Result TokenError String :=
  match draw with
  | some bytes => .ok (toHex bytes.toList)
  | none => .err .rng

def hashSecret (secret : String) : String :=
  toHex (crates.hmacSha256 pepper (utf8 secret))

/-- `verify_secret`: `verify_slice` compares the whole digest. -/
def verifySecret (secret expectedHashHex : String) :
    Result TokenError Bool := do
  match ← fromHex expectedHashHex with
  | none => return false
  | some expected =>
      return decide (crates.hmacSha256 pepper (utf8 secret) = expected)

/-- `format(&Rfc3339)?`. -/
def format (time : Int) : Result TokenError String :=
  match crates.formatRfc3339 time with
  | .ok text => .ok text
  | .error message => .err (.time message)

/-- `OffsetDateTime + Duration`: panics outside the range of the type. -/
def addDuration (time ttl : Int) : Result TokenError Int :=
  if minDateTime ≤ time + ttl ∧ time + ttl ≤ maxDateTime then
    .ok (time + ttl)
  else .panicked

end Helpers

/-- A stored hash of a secret verifies exactly that secret. -/
theorem verifySecret_hashSecret
    {crates : Crates} {pepper : List UInt8}
    (collisionFree : crates.CollisionFree pepper)
    (presented secret : String) :
    verifySecret crates pepper presented (hashSecret crates pepper secret) =
      .ok (decide (presented = secret)) := by
  unfold verifySecret hashSecret
  rw [fromHex_toHex]
  simp only [Result.ok_bind, Result.pure_eq_ok, Result.ok.injEq]
  refine decide_eq_decide.mpr ?_
  constructor
  · intro same
    exact utf8_injective (collisionFree same)
  · intro same
    rw [same]

/-- Different secrets have different hashes. -/
theorem hashSecret_injective
    {crates : Crates} {pepper : List UInt8}
    (collisionFree : crates.CollisionFree pepper) :
    Function.Injective (hashSecret crates pepper) := by
  intro first second same
  have verified := verifySecret_hashSecret collisionFree first first
  rw [same, verifySecret_hashSecret collisionFree first second] at verified
  simpa using verified

namespace TokenRecord

variable (crates : Crates)

def displayState (record : TokenRecord) (now : Int) : DisplayState :=
  match record.state with
  | .unused =>
      match crates.parseRfc3339 record.expires with
      | some expires => if expires ≤ now then .stale else .unused
      | none => .unused
  | .bound => .bound
  | .invalidated => .invalidated
  | .revoked => .revoked

end TokenRecord

/-- An unexpired record is displayed as unused only while it is stored so. -/
theorem displayState_unused
    {crates : Crates} {record : TokenRecord} {now : Int} :
    record.displayState crates now = .unused ↔
      record.state = .unused ∧
        ∀ expiry, crates.parseRfc3339 record.expires = some expiry →
          now < expiry := by
  unfold TokenRecord.displayState
  cases record.state with
  | unused =>
      cases crates.parseRfc3339 record.expires with
      | none => simp
      | some expiry =>
          by_cases expired : expiry ≤ now
          · simp [expired]
          · simp only [expired, if_false, Option.some.injEq, true_and,
              forall_eq', true_iff]
            exact Int.not_le.mp expired
  | bound => simp
  | invalidated => simp
  | revoked => simp

/-- `TokenView::from_record`. -/
def TokenView.fromRecord
    (crates : Crates) (record : TokenRecord) (now : Int) : TokenView where
  tokenId := record.tokenId
  state := (record.displayState crates now).toString
  machine := record.machine.getD "-"
  clientId := record.clientId.getD "-"
  label := record.label.getD "-"
  lastSeen := record.lastSeen.getD "-"
  expires := record.expires

end HollerServer.Token
