import Mathlib.Data.Countable.Basic
import Mathlib.Data.List.Nodup
import HollerServer.Proto.Pretty
import HollerServer.Token.Store

/-!
# An instance of the crates

The laws of `Crates.Lawful` and `Crates.CollisionFree` can be met.  `Crates.sample`
writes the JSON of the records as serde_json does, and has the digests and the times
the real crates give for the life of one token: minted, redeemed, seen, deleted.  For
other messages and times it falls back on an injective code.
-/

namespace HollerServer.Token

open Proto
open Text

section Patched

variable {α β : Type} [DecidableEq α]

/-- A table of values, and a fallback for the other arguments. -/
def patched (table : List (α × β)) (fallback : α → β) (input : α) : β :=
  match table.find? fun row => row.1 = input with
  | some row => row.2
  | none => fallback input

theorem patched_cases
    (table : List (α × β)) (fallback : α → β) (input : α) :
    (∃ row ∈ table, row.1 = input ∧
      patched table fallback input = row.2) ∨
    patched table fallback input = fallback input := by
  unfold patched
  split
  next row found =>
    refine Or.inl ⟨row, List.mem_of_find?_eq_some found, ?_, rfl⟩
    simpa using List.find?_some found
  next => exact Or.inr rfl

theorem patched_of_mem
    {table : List (α × β)} {row : α × β} (fallback : α → β)
    (distinct : (table.map Prod.fst).Nodup) (member : row ∈ table) :
    patched table fallback row.1 = row.2 := by
  have found :
      (table.find? fun other => other.1 = row.1) = some row :=
    List.findKey_of_mem distinct member rfl
  unfold patched
  rw [found]

/-- Distinct values in the table and a fallback that avoids them make an
injective function. -/
theorem patched_injective
    {table : List (α × β)} {fallback : α → β}
    (distinct : (table.map Prod.snd).Nodup)
    (avoids : ∀ row ∈ table, ∀ input, fallback input ≠ row.2)
    (injective : Function.Injective fallback) :
    Function.Injective (patched table fallback) := by
  have rows := patched_cases table fallback
  intro first second same
  rcases rows first with ⟨row, member, rfl, value⟩ | value
  · rcases rows second with ⟨row', member', rfl, value'⟩ | value'
    · have sameRow : row = row' :=
        List.inj_on_of_nodup_map distinct member member'
          (value.symm.trans (same.trans value'))
      rw [sameRow]
    · exact
        absurd (value'.symm.trans (same.symm.trans value))
          (avoids row member second)
  · rcases rows second with ⟨row', member', rfl, value'⟩ | value'
    · exact
        absurd (value.symm.trans (same.trans value'))
          (avoids row' member' first)
    · exact injective (value.symm.trans (same.trans value'))

end Patched

section Codes

/-- A code of the values of a countable type: a mark and a number of strokes. -/
noncomputable def strokes {α : Type} [Countable α] (value : α) : String :=
  String.ofList
    ('#' :: List.replicate
      ((Countable.exists_injective_nat α).choose value) '|')

theorem strokes_injective {α : Type} [Countable α] :
    Function.Injective (strokes : α → String) := by
  intro first second same
  have sameList := String.ofList_inj.mp same
  have sameLength := congrArg List.length sameList
  simp only [List.length_cons, List.length_replicate,
    Nat.add_right_cancel_iff] at sameLength
  exact (Countable.exists_injective_nat α).choose_spec sameLength

theorem strokes_ne
    {α : Type} [Countable α] (value : α) {text : String}
    (unmarked : text.toList.head? ≠ some '#') :
    strokes value ≠ text := by
  intro same
  refine unmarked ?_
  rw [← same, strokes, String.toList_ofList]
  rfl

end Codes

namespace Sample

def pepper : List UInt8 :=
  utf8 "test-pepper-do-not-use-in-prod"

def otherPepper : List UInt8 :=
  utf8 "another-pepper"

def idBytes : Vector UInt8 16 := Vector.replicate 16 0x11

def secretBytes : Vector UInt8 32 := Vector.replicate 32 0x22

def otherSecretBytes : Vector UInt8 32 := Vector.replicate 32 0x55

def clientBytes : Vector UInt8 16 := Vector.replicate 16 0x33

def credentialBytes : Vector UInt8 32 := Vector.replicate 32 0x44

def tokenId : String := "tok_" ++ toHex idBytes.toList

def secret : String := "hlr_" ++ toHex secretBytes.toList

def otherSecret : String := "hlr_" ++ toHex otherSecretBytes.toList

def clientId : String := "cli_" ++ toHex clientBytes.toList

def credential : String := "hlr_live_" ++ toHex credentialBytes.toList

/-- The HMAC-SHA-256 of the secret under the pepper. -/
def secretDigest : List UInt8 :=
  [66, 93, 207, 48, 41, 213, 194, 230, 164, 185, 190, 241, 254, 215, 194,
    159, 238, 119, 141, 94, 222, 98, 0, 192, 143, 154, 72, 82, 150, 131,
    146, 195]

/-- The HMAC-SHA-256 of the credential under the pepper. -/
def credentialDigest : List UInt8 :=
  [253, 81, 6, 247, 148, 95, 25, 9, 107, 185, 228, 201, 89, 114, 235, 182,
    37, 171, 174, 161, 27, 173, 32, 251, 119, 39, 25, 99, 225, 245, 234,
    217]

/-- The HMAC-SHA-256 of the other secret under the other pepper. -/
def otherSecretDigest : List UInt8 :=
  [104, 231, 27, 6, 4, 226, 52, 28, 119, 245, 136, 231, 86, 230, 34, 184,
    166, 61, 202, 131, 174, 220, 194, 207, 116, 159, 58, 199, 172, 142,
    253, 91]

/-- The HMAC-SHA-256 of the credential under the other pepper. -/
def otherCredentialDigest : List UInt8 :=
  [51, 106, 182, 145, 72, 193, 195, 22, 183, 229, 215, 128, 23, 45, 132,
    237, 167, 255, 197, 105, 130, 67, 111, 1, 162, 43, 145, 74, 151, 177,
    239, 38]

def mintedAt : Instant :=
  ⟨1700000000000000000, by decide, by decide⟩

def ttl : Int := 3600000000000

def seenAt : Instant :=
  ⟨1700000060000000000, by decide, by decide⟩

def times : List (Int × String) :=
  [(mintedAt.nanos, "2023-11-14T22:13:20Z"),
    (seenAt.nanos, "2023-11-14T22:14:20Z"),
    (mintedAt.nanos + ttl, "2023-11-14T23:13:20Z")]

/-- The record of the token after its mint. -/
def minted : TokenRecord where
  tokenId := tokenId
  secretHash := toHex secretDigest
  state := .unused
  label := none
  machine := none
  clientId := none
  credentialHash := none
  createdAt := "2023-11-14T22:13:20Z"
  expires := "2023-11-14T23:13:20Z"
  lastSeen := none

/-- The record after the redeem. -/
def bound : TokenRecord :=
  { minted with
    state := .bound
    machine := some "laptop"
    clientId := some clientId
    credentialHash := some (toHex credentialDigest) }

/-- The record after the credential was verified. -/
def seen : TokenRecord :=
  { bound with lastSeen := some "2023-11-14T22:14:20Z" }

/-- The record after the delete. -/
def revoked : TokenRecord :=
  { seen with credentialHash := none, state := .revoked }

def nullable : Option String → Value
  | none => .null
  | some text => .string text

def stateText : StoredState → String
  | .unused => "unused"
  | .bound => "bound"
  | .invalidated => "invalidated"
  | .revoked => "revoked"

def recordValue (record : TokenRecord) : Value :=
  .object
    [("token_id", .string record.tokenId),
      ("secret_hash", .string record.secretHash),
      ("state", .string (stateText record.state)),
      ("label", nullable record.label),
      ("machine", nullable record.machine),
      ("client_id", nullable record.clientId),
      ("credential_hash", nullable record.credentialHash),
      ("created_at", .string record.createdAt),
      ("expires", .string record.expires),
      ("last_seen", nullable record.lastSeen)]

/-- The digests under a key. -/
def digests (key : List UInt8) : List (List UInt8 × List UInt8) :=
  if key = pepper then
    [(utf8 secret, secretDigest), (utf8 credential, credentialDigest)]
  else if key = otherPepper then
    [(utf8 otherSecret, otherSecretDigest),
      (utf8 credential, otherCredentialDigest)]
  else []

noncomputable def timeText : Int → String :=
  patched times strokes

/-- The pretty JSON text of the records. -/
def recordsText (records : List TokenRecord) : String :=
  (Value.array (records.map recordValue)).pretty

theorem nullable_injective : Function.Injective nullable := by
  intro first second same
  cases first <;> cases second <;> cases same <;> rfl

theorem stateText_injective : Function.Injective stateText := by
  intro first second same
  cases first <;> cases second <;>
    first
    | rfl
    | exact absurd same (by decide)

theorem recordValue_injective : Function.Injective recordValue := by
  intro first second same
  simp only [recordValue, Value.object.injEq, List.cons.injEq,
    Prod.mk.injEq, Value.string.injEq, true_and, and_true,
    stateText_injective.eq_iff, nullable_injective.eq_iff] at same
  cases first
  cases second
  simpa using same

theorem isIntegral_recordsValue (records : List TokenRecord) :
    (Value.array (records.map recordValue)).isIntegral (fun _ => true) =
      true := by
  have text (value : Option String) :
      (nullable value).isIntegral (fun _ => true) = true := by
    cases value <;> rfl
  induction records with
  | nil => rfl
  | cons record records inductionHypothesis =>
      refine Bool.and_eq_true_iff.mpr ⟨?_, inductionHypothesis⟩
      simp [recordValue, Value.isIntegral, Value.fieldsAreIntegral, text]

theorem timeText_injective : Function.Injective timeText := by
  refine patched_injective (by decide +kernel) ?_ strokes_injective
  have unmarked :
      ∀ row ∈ times, row.2.toList.head? ≠ some '#' := by
    decide +kernel
  exact fun row member input => strokes_ne input (unmarked row member)

theorem recordsText_injective : Function.Injective recordsText := by
  intro first second same
  have read := Value.ofPretty_pretty (isIntegral_recordsValue first)
  rw [show (Value.array (first.map recordValue)).pretty = _ from same,
    recordsText, Value.ofPretty_pretty (isIntegral_recordsValue second)]
    at read
  have values := Value.array.inj (Option.some.inj read)
  exact (List.map_injective_iff.mpr recordValue_injective values).symm

theorem recordsText_not_blank (records : List TokenRecord) :
    isBlank (recordsText records) = false := by
  cases records with
  | nil => rfl
  | cons record records =>
      unfold isBlank recordsText Value.pretty
      rw [String.toList_ofList]
      rfl

end Sample

/-- The crates on the life of one token, and injective codes elsewhere. -/
noncomputable def Crates.sample : Crates where
  hmacSha256 := fun key => patched (Sample.digests key) (0 :: ·)
  formatRfc3339 := fun time =>
    if minRfc3339 ≤ time ∧ time ≤ maxDateTime then
      .ok (Sample.timeText time)
    else .error "The year component cannot be formatted into RFC 3339."
  parseRfc3339 := Function.partialInv Sample.timeText
  toStringPretty := Sample.recordsText
  fromStr := Function.partialInv Sample.recordsText

theorem Crates.sample_collisionFree (key : List UInt8) :
    Crates.sample.CollisionFree key := by
  refine
    patched_injective ?_ ?_
      fun _ _ same => List.tail_eq_of_cons_eq same
  · unfold Sample.digests
    split
    · decide +kernel
    · split
      · decide +kernel
      · exact List.nodup_nil
  · have marked :
        ∀ row ∈ Sample.digests key, row.2.head? ≠ some 0 := by
      unfold Sample.digests
      split
      · decide +kernel
      · split
        · decide +kernel
        · nofun
    intro row member input same
    refine marked row member ?_
    rw [← same]
    rfl

theorem Crates.sample_lawful : Crates.sample.Lawful where
  format_clock := fun now => ⟨_, if_pos ⟨now.earliest, now.latest⟩⟩
  parse_format := by
    intro time text formatted
    unfold sample at formatted ⊢
    simp only at formatted ⊢
    split at formatted
    next =>
      cases formatted
      exact Function.partialInv_left Sample.timeText_injective time
    next => cases formatted
  fromStr_toStringPretty :=
    Function.partialInv_left Sample.recordsText_injective
  toStringPretty_not_blank := Sample.recordsText_not_blank

namespace Sample

theorem format_time {time : Int} {text : String}
    (member : (time, text) ∈ times) :
    Crates.sample.formatRfc3339 time = .ok text := by
  have inside :
      ∀ row ∈ times, minRfc3339 ≤ row.1 ∧ row.1 ≤ maxDateTime := by
    decide +kernel
  have looked : timeText time = text :=
    patched_of_mem strokes (by decide +kernel) member
  unfold Crates.sample
  simp only [inside _ member, and_self, if_true, looked]

theorem hashSecret_digest {text : String} {digest : List UInt8}
    (member : (utf8 text, digest) ∈ digests pepper) :
    hashSecret Crates.sample pepper text = toHex digest := by
  have looked :
      patched (digests pepper) (0 :: ·) (utf8 text) = digest :=
    patched_of_mem _ (by decide +kernel) member
  unfold hashSecret Crates.sample
  simp only [looked]

end Sample

end HollerServer.Token
