import Mathlib.Data.List.Basic

/-!
# Text as bytes

The UTF-8 bytes of a string as a list, the Unicode `White_Space` property that
trimming goes by, and the decimal literals of machine integers.
-/

namespace Text

/-- The UTF-8 bytes of a string. -/
def utf8 (text : String) : List UInt8 :=
  text.toByteArray.data.toList

theorem utf8_injective : Function.Injective utf8 := by
  intro first second same
  refine String.toByteArray_inj.mp ?_
  exact ByteArray.ext (Array.ext' same)

theorem utf8_ofList (chars : List Char) :
    utf8 (String.ofList chars) = chars.flatMap String.utf8EncodeChar := by
  unfold utf8
  rw [String.toByteArray_ofList]
  unfold List.utf8Encode
  simp

/-- The byte continues a character that began earlier. -/
def isContinuation (byte : UInt8) : Bool :=
  128 ≤ byte && byte < 192

theorem not_isContinuation_of_lt {code : Nat} (small : code < 128) :
    isContinuation (UInt8.ofNat code) = false := by
  have stored : (UInt8.ofNat code).toNat = code := by
    rw [UInt8.toNat_ofNat']
    omega
  unfold isContinuation
  rw [Bool.and_eq_false_iff]
  left
  rw [decide_eq_false_iff_not, UInt8.le_iff_toNat_le, stored]
  show ¬128 ≤ code
  omega

theorem not_isContinuation_of_le {byte : UInt8} (large : 192 ≤ byte) :
    isContinuation byte = false := by
  unfold isContinuation
  rw [Bool.and_eq_false_iff]
  right
  rw [decide_eq_false_iff_not]
  exact UInt8.not_lt.mpr large

theorem utf8_eq (text : String) :
    utf8 text = text.toList.flatMap String.utf8EncodeChar := by
  have asList := utf8_ofList text.toList
  rwa [String.ofList_toList] at asList

theorem isContinuation_ofNat {value : Nat} (small : value < 64) :
    isContinuation (UInt8.ofNat (value + 128)) = true := by
  have stored : (UInt8.ofNat (value + 128)).toNat = value + 128 := by
    rw [UInt8.toNat_ofNat']
    omega
  unfold isContinuation
  rw [Bool.and_eq_true, decide_eq_true_iff, decide_eq_true_iff,
    UInt8.le_iff_toNat_le, UInt8.lt_iff_toNat_lt, stored]
  constructor
  · show 128 ≤ value + 128
    omega
  · show value + 128 < 192
    omega

theorem le_lead {value offset : Nat}
    (large : 192 ≤ offset) (small : value + offset < 256) :
    192 ≤ UInt8.ofNat (value + offset) := by
  rw [UInt8.le_iff_toNat_le, UInt8.toNat_ofNat']
  show 192 ≤ (value + offset) % 256
  omega

/-- A character of one byte is its own encoding. -/
theorem utf8EncodeChar_narrow {char : Char} (narrow : char.utf8Size = 1) :
    char.toNat < 128 ∧
      String.utf8EncodeChar char = [UInt8.ofNat char.toNat] := by
  have small : char.val ≤ 127 := Char.utf8Size_eq_one_iff.mp narrow
  constructor
  · exact Nat.lt_succ_of_le (UInt32.le_iff_toNat_le.mp small)
  · rw [String.utf8EncodeChar_eq_singleton narrow]
    rfl

/-- What holds of the 128 one-byte characters can be checked one by one. -/
theorem forall_narrow
    {P : Char → Prop} (checked : ∀ code : Fin 128, P (Char.ofNat code))
    {char : Char} (narrow : char.utf8Size = 1) : P char := by
  have here := checked ⟨char.toNat, (utf8EncodeChar_narrow narrow).1⟩
  rwa [Char.ofNat_toNat] at here

/-- The encoding of a wider character: a byte that leads, and bytes that continue
it. -/
theorem utf8EncodeChar_wide {char : Char} (wide : char.utf8Size ≠ 1) :
    ∃ lead next rest,
      String.utf8EncodeChar char = lead :: next :: rest ∧ 192 ≤ lead ∧
        ∀ byte ∈ next :: rest, isContinuation byte = true := by
  have large : ¬char.val.toNat ≤ 127 := by
    intro small
    exact
      wide
        (Char.utf8Size_eq_one_iff.mpr (UInt32.le_iff_toNat_le.mpr small))
  unfold String.utf8EncodeChar
  simp only [large, if_false]
  by_cases two : char.val.toNat ≤ 2047
  · simp only [two, if_true]
    refine ⟨_, _, _, rfl, le_lead (by omega) (by omega), ?_⟩
    intro byte member
    rw [List.mem_singleton.mp member]
    exact isContinuation_ofNat (by omega)
  · by_cases three : char.val.toNat ≤ 65535
    · simp only [two, three, if_false, if_true]
      refine ⟨_, _, _, rfl, le_lead (by omega) (by omega), ?_⟩
      simp only [List.forall_mem_cons]
      refine ⟨isContinuation_ofNat (by omega),
        isContinuation_ofNat (by omega), List.forall_mem_nil _⟩
    · simp only [two, three, if_false]
      refine ⟨_, _, _, rfl, le_lead (by omega) (by omega), ?_⟩
      simp only [List.forall_mem_cons]
      refine ⟨isContinuation_ofNat (by omega),
        isContinuation_ofNat (by omega), isContinuation_ofNat (by omega),
        List.forall_mem_nil _⟩

/-- No text begins in the middle of a character. -/
theorem head?_utf8 (chars : List Char) :
    (chars.flatMap String.utf8EncodeChar).head?.any isContinuation =
      false := by
  cases chars with
  | nil => rfl
  | cons char rest =>
      rw [List.flatMap_cons]
      by_cases narrow : char.utf8Size = 1
      · obtain ⟨small, encoded⟩ := utf8EncodeChar_narrow narrow
        rw [encoded]
        exact not_isContinuation_of_lt small
      · obtain ⟨lead, next, others, encoded, large, _⟩ :=
          utf8EncodeChar_wide narrow
        rw [encoded]
        exact not_isContinuation_of_le large

/-- Characters with the `White_Space` property. -/
def isWhitespace (char : Char) : Bool :=
  let code := char.toNat
  (9 ≤ code && code ≤ 13) || code = 32 || code = 133 || code = 160 ||
    code = 5760 || (8192 ≤ code && code ≤ 8202) || code = 8232 ||
    code = 8233 || code = 8239 || code = 8287 || code = 12288

/-- Nothing is left of the text after trimming. -/
def isBlank (text : String) : Bool :=
  text.toList.all isWhitespace

theorem isBlank_append (first second : String) :
    isBlank (first ++ second) = (isBlank first && isBlank second) := by
  unfold isBlank
  rw [String.toList_append, List.all_append]

theorem toList_ne_nil {text : String} (visible : isBlank text = false) :
    text.toList ≠ [] := by
  intro empty
  unfold isBlank at visible
  rw [empty] at visible
  cases visible

/-- The text without white space at its ends. -/
def trim (text : String) : String :=
  String.ofList
    ((text.toList.dropWhile isWhitespace).reverse.dropWhile
      isWhitespace).reverse

/-- A decimal literal with a value below `size`: digits, at least one of them,
after an optional plus sign. -/
def parseUnsigned (size : Nat) (text : String) : Option Nat :=
  let digits : List Char :=
    match text.toList with
    | '+' :: rest => rest
    | chars => chars
  let value : Nat :=
    digits.foldl (fun value digit => 10 * value + (digit.toNat - 48)) 0
  if digits ≠ [] ∧ digits.all Char.isDigit ∧ value < size then some value
  else none

theorem lt_of_parseUnsigned {size value : Nat} {text : String}
    (parsed : parseUnsigned size text = some value) : value < size := by
  unfold parseUnsigned at parsed
  obtain ⟨⟨_, _, small⟩, same⟩ := Option.ite_none_right_eq_some.mp parsed
  cases same
  exact small

/-- The value of a string of decimal digits, at least one of them. -/
def parseDigits (digits : List Char) : Option Nat :=
  if digits ≠ [] ∧ digits.all Char.isDigit then
    some (digits.foldl (fun value digit => 10 * value + (digit.toNat - 48)) 0)
  else none

/-- A decimal literal with a value from `-size` to below `size`: digits after an
optional sign. -/
def parseSigned (size : Nat) : List Char → Option Int
  | '-' :: digits => do
      let value ← parseDigits digits
      if value ≤ size then some (-(value : Int)) else none
  | '+' :: digits => do
      let value ← parseDigits digits
      if value < size then some (value : Int) else none
  | digits => do
      let value ← parseDigits digits
      if value < size then some (value : Int) else none

end Text
