import HollerServer.Lib.Result
import HollerServer.Lib.Text

/-!
# The hex codec of stored hashes

`to_hex` and `from_hex` of `src/token/mod.rs`.  `from_hex` slices the text by
byte positions, two at a time, so it can panic on a text whose characters are
longer than a byte; `u8::from_str_radix` takes a leading plus sign.
-/

namespace HollerServer.Token

open Text

def hexDigit (value : Nat) : Char :=
  if value < 10 then Char.ofNat (48 + value) else Char.ofNat (87 + value)

/-- One byte as `{b:02x}` prints it. -/
def hexByte (byte : UInt8) : List Char :=
  [hexDigit (byte.toNat / 16), hexDigit (byte.toNat % 16)]

def toHex (bytes : List UInt8) : String :=
  String.ofList (bytes.flatMap hexByte)

/-- `char::to_digit(16)` on an ASCII byte. -/
def toDigit16 (byte : UInt8) : Option UInt8 :=
  if 48 ≤ byte && byte ≤ 57 then some (byte - 48)
  else if 97 ≤ byte && byte ≤ 102 then some (byte - 87)
  else if 65 ≤ byte && byte ≤ 70 then some (byte - 55)
  else none

/-- `u8::from_str_radix(_, 16)` on a slice of two bytes. -/
def u8FromStrRadix16 (high low : UInt8) : Option UInt8 :=
  if high = 43 then toDigit16 low
  else
    match toDigit16 high, toDigit16 low with
    | some high, some low => some (high * 16 + low)
    | _, _ => none

variable {ε : Type}

/-- The loop of `from_hex` over the bytes from an even position on: a slice that
cuts a character panics, a slice that is no number ends the loop. -/
def fromHexPairs : List UInt8 → Result ε (Option (List UInt8))
  | [] => .ok (some [])
  | [_] => .ok none
  | high :: low :: rest =>
      if isContinuation high || rest.head?.any isContinuation then
        .panicked
      else
        match u8FromStrRadix16 high low with
        | none => .ok none
        | some byte => do
            let tail ← fromHexPairs rest
            return tail.map (byte :: ·)

def fromHex (text : String) : Result ε (Option (List UInt8)) :=
  let bytes := utf8 text
  if bytes.length % 2 ≠ 0 then .ok none else fromHexPairs bytes

/-- Reading hex never returns an error. -/
theorem failsWithin_fromHexPairs
    {allowed : ε → Prop} (bytes : List UInt8) :
    Result.FailsWithin allowed (fromHexPairs bytes) := by
  fun_induction fromHexPairs bytes with
  | case1 => exact Result.failsWithin_ok _
  | case2 => exact Result.failsWithin_ok _
  | case3 => exact Result.failsWithin_panicked
  | case4 => exact Result.failsWithin_ok _
  | case5 _ _ _ _ _ _ inductionHypothesis =>
      exact inductionHypothesis.bind fun _ => Result.failsWithin_ok _

theorem failsWithin_fromHex {allowed : ε → Prop} (text : String) :
    Result.FailsWithin allowed (fromHex text) := by
  unfold fromHex
  simp only
  split
  · exact Result.failsWithin_ok _
  · exact failsWithin_fromHexPairs _

/-- The two bytes one byte is printed as. -/
def hexPair (byte : UInt8) : UInt8 × UInt8 :=
  (UInt8.ofNat (hexDigit (byte.toNat / 16)).toNat,
    UInt8.ofNat (hexDigit (byte.toNat % 16)).toNat)

/-- The printed digits of a byte are ASCII and read back as the byte. -/
theorem hexPair_spec (byte : UInt8) :
    (hexByte byte).flatMap String.utf8EncodeChar =
        [(hexPair byte).1, (hexPair byte).2] ∧
      isContinuation (hexPair byte).1 = false ∧
      u8FromStrRadix16 (hexPair byte).1 (hexPair byte).2 = some byte := by
  have all :
      ∀ value : Fin 256,
        (hexByte (UInt8.ofNat value)).flatMap String.utf8EncodeChar =
            [(hexPair (UInt8.ofNat value)).1,
              (hexPair (UInt8.ofNat value)).2] ∧
          isContinuation (hexPair (UInt8.ofNat value)).1 = false ∧
          u8FromStrRadix16 (hexPair (UInt8.ofNat value)).1
              (hexPair (UInt8.ofNat value)).2 =
            some (UInt8.ofNat value) := by
    decide +kernel
  have here := all ⟨byte.toNat, byte.toNat_lt⟩
  rwa [UInt8.ofNat_toNat] at here

theorem utf8_toHex (bytes : List UInt8) :
    utf8 (toHex bytes) =
      bytes.flatMap fun byte => [(hexPair byte).1, (hexPair byte).2] := by
  unfold toHex
  rw [utf8_ofList, List.flatMap_assoc]
  refine List.flatMap_congr ?_
  intro byte _
  exact (hexPair_spec byte).1

/-- What `to_hex` prints, `from_hex` reads back without panicking. -/
theorem fromHexPairs_toHex (bytes : List UInt8) :
    fromHexPairs
        (bytes.flatMap fun byte => [(hexPair byte).1, (hexPair byte).2]) =
      (.ok (some bytes) : Result ε _) := by
  induction bytes with
  | nil => rfl
  | cons byte rest inductionHypothesis =>
      obtain ⟨_, notContinuation, readBack⟩ := hexPair_spec byte
      have nextStarts :
          ((rest.flatMap fun byte =>
            [(hexPair byte).1, (hexPair byte).2]).head?.any
              isContinuation) = false := by
        cases rest with
        | nil => rfl
        | cons next _ => exact (hexPair_spec next).2.1
      rw [List.flatMap_cons]
      simp only [List.cons_append, List.nil_append, fromHexPairs,
        notContinuation, nextStarts, Bool.or_self, Bool.false_eq_true,
        if_false, readBack, inductionHypothesis]
      rfl

theorem fromHex_toHex (bytes : List UInt8) :
    fromHex (toHex bytes) = (.ok (some bytes) : Result ε _) := by
  have even :
      (bytes.flatMap fun byte =>
        [(hexPair byte).1, (hexPair byte).2]).length % 2 = 0 := by
    rw [List.length_flatMap]
    simp
  unfold fromHex
  simp only [utf8_toHex, even, ne_eq, not_true_eq_false, if_false]
  exact fromHexPairs_toHex bytes

end HollerServer.Token
