import Mathlib.Data.List.Basic

/-!
# The text of JSON strings and integers

How a string and an integer are written in compact JSON, and how they are read
back from the front of a text.  A string is read up to its closing quote; an
escaped code point outside the Basic Multilingual Plane, which takes two escapes,
is not read, since none is written.
-/

namespace JsonText

/-- The lower-case hexadecimal digit of a number below 16. -/
def hexDigit (value : Nat) : Char :=
  if value < 10 then Char.ofNat (48 + value) else Char.ofNat (87 + value)

def ofHexDigit (char : Char) : Option Nat :=
  let code := char.toNat
  if 48 ≤ code ∧ code ≤ 57 then some (code - 48)
  else if 97 ≤ code ∧ code ≤ 102 then some (code - 87)
  else if 65 ≤ code ∧ code ≤ 70 then some (code - 55)
  else none

/-- A character inside a string literal: the quote, the backslash and the control
characters are escaped. -/
def escapeChar (char : Char) : List Char :=
  if char = '\"' then ['\\', '\"']
  else if char = '\\' then ['\\', '\\']
  else if char = '\n' then ['\\', 'n']
  else if char = '\r' then ['\\', 'r']
  else if char = '\t' then ['\\', 't']
  else if char.toNat = 8 then ['\\', 'b']
  else if char.toNat = 12 then ['\\', 'f']
  else if char.toNat < 32 then
    ['\\', 'u', '0', '0', hexDigit (char.toNat / 16),
      hexDigit (char.toNat % 16)]
  else [char]

def escape (chars : List Char) : List Char :=
  chars.flatMap escapeChar

def writeString (chars : List Char) : List Char :=
  '\"' :: (escape chars ++ ['\"'])

/-- What a one-letter escape stands for. -/
def ofEscape (char : Char) : Option Char :=
  if char = '\"' ∨ char = '\\' ∨ char = '/' then some char
  else if char = 'n' then some '\n'
  else if char = 'r' then some '\r'
  else if char = 't' then some '\t'
  else if char = 'b' then some (Char.ofNat 8)
  else if char = 'f' then some (Char.ofNat 12)
  else none

/-- The character of four hexadecimal digits. -/
def ofCode (first second third fourth : Char) : Option Char := do
  let first ← ofHexDigit first
  let second ← ofHexDigit second
  let third ← ofHexDigit third
  let fourth ← ofHexDigit fourth
  let code := ((first * 16 + second) * 16 + third) * 16 + fourth
  if code.isValidChar then some (Char.ofNat code) else none

/-- The string up to its closing quote, and the text behind it. -/
def readString : List Char → Option (List Char × List Char)
  | [] => none
  | char :: rest =>
      if char = '\"' then some ([], rest)
      else if char = '\\' then
        match rest with
        | 'u' :: first :: second :: third :: fourth :: rest =>
            (ofCode first second third fourth).bind fun decoded =>
              (readString rest).map fun read => (decoded :: read.1, read.2)
        | letter :: rest =>
            (ofEscape letter).bind fun decoded =>
              (readString rest).map fun read => (decoded :: read.1, read.2)
        | [] => none
      else if char.toNat < 32 then none
      else (readString rest).map fun read => (char :: read.1, read.2)

def writeInt (value : Int) : List Char :=
  if value < 0 then '-' :: Nat.toDigits 10 value.natAbs
  else Nat.toDigits 10 value.natAbs

/-- The decimal digits in front of a text. -/
def readNat (chars : List Char) : Option (Nat × List Char) :=
  let digits := chars.takeWhile Char.isDigit
  if digits = [] then none
  else
    some (Nat.ofDigitChars 10 digits 0, chars.dropWhile Char.isDigit)

def readInt : List Char → Option (Int × List Char)
  | '-' :: rest =>
      (readNat rest).map fun read => (-(read.1 : Int), read.2)
  | chars => (readNat chars).map fun read => ((read.1 : Int), read.2)

theorem ofHexDigit_hexDigit {value : Nat} (small : value < 16) :
    ofHexDigit (hexDigit value) = some value := by
  have digits :
      ∀ value : Fin 16, ofHexDigit (hexDigit value) = some value.val := by
    decide
  exact digits ⟨value, small⟩

theorem ofEscape_ne_u {char decoded : Char}
    (known : ofEscape char = some decoded) : char ≠ 'u' := by
  rintro rfl
  simp [ofEscape] at known

/-- A one-letter escape is read as the character it stands for. -/
theorem readString_escape
    {letter decoded : Char} (known : ofEscape letter = some decoded)
    (rest : List Char) :
    readString ('\\' :: letter :: rest) =
      (readString rest).map fun read => (decoded :: read.1, read.2) := by
  have other := ofEscape_ne_u known
  rw [readString.eq_def]
  simp [known, other]

theorem ofCode_hexDigit {char : Char} (control : char.toNat < 32) :
    ofCode '0' '0' (hexDigit (char.toNat / 16))
      (hexDigit (char.toNat % 16)) = some char := by
  have zero : ofHexDigit '0' = some 0 := rfl
  have high := ofHexDigit_hexDigit (show char.toNat / 16 < 16 by omega)
  have low := ofHexDigit_hexDigit (show char.toNat % 16 < 16 by omega)
  have code :
      ((0 * 16 + 0) * 16 + char.toNat / 16) * 16 + char.toNat % 16 =
        char.toNat := by
    omega
  have valid : char.toNat.isValidChar := char.valid
  simp only [ofCode, zero, high, low, bind, Option.bind, code, valid,
    if_true, Char.ofNat_toNat]

/-- How a character stands inside a string literal. -/
inductive EscapedAs (char : Char) : List Char → Prop
  | plain (visible : 32 ≤ char.toNat) (notQuote : char ≠ '\"')
      (notBackslash : char ≠ '\\') :
      EscapedAs char [char]
  | letter {letter : Char}
      (listed : letter ∈ ['\"', '\\', 'n', 'r', 't', 'b', 'f'])
      (known : ofEscape letter = some char) :
      EscapedAs char ['\\', letter]
  | code (control : char.toNat < 32) :
      EscapedAs char
        ['\\', 'u', '0', '0', hexDigit (char.toNat / 16),
          hexDigit (char.toNat % 16)]

theorem escapedAs_escapeChar (char : Char) :
    EscapedAs char (escapeChar char) := by
  unfold escapeChar
  split
  next quote =>
    subst quote
    exact .letter (by decide) rfl
  next notQuote =>
  split
  next backslash =>
    subst backslash
    exact .letter (by decide) rfl
  next notBackslash =>
  split
  next newline =>
    subst newline
    exact .letter (by decide) rfl
  split
  next carriage =>
    subst carriage
    exact .letter (by decide) rfl
  split
  next tab =>
    subst tab
    exact .letter (by decide) rfl
  split
  next backspace =>
    refine .letter (by decide) ?_
    rw [← Char.ofNat_toNat char, backspace]
    rfl
  split
  next formFeed =>
    refine .letter (by decide) ?_
    rw [← Char.ofNat_toNat char, formFeed]
    rfl
  split
  next control => exact .code control
  next visible =>
    exact .plain (Nat.le_of_not_lt visible) notQuote notBackslash

/-- A written character is read back. -/
theorem readString_escapeChar (char : Char) (rest : List Char) :
    readString (escapeChar char ++ rest) =
      (readString rest).map fun read => (char :: read.1, read.2) := by
  have written := escapedAs_escapeChar char
  generalize escapeChar char = letters at written ⊢
  cases written with
  | plain visible notQuote notBackslash =>
      simp only [List.cons_append, List.nil_append]
      rw [readString.eq_def]
      simp [notQuote, notBackslash, Nat.not_lt.mpr visible]
  | letter _ known => exact readString_escape known rest
  | code control =>
      simp only [List.cons_append, List.nil_append]
      rw [readString.eq_def]
      simp [ofCode_hexDigit control]

/-- A written string is read back up to its closing quote. -/
theorem readString_escape_append (chars rest : List Char) :
    readString (escape chars ++ '\"' :: rest) = some (chars, rest) := by
  induction chars with
  | nil =>
      show readString ('\"' :: rest) = some ([], rest)
      rw [readString.eq_def]
      simp
  | cons char chars ih =>
      have split :
          escape (char :: chars) ++ '\"' :: rest =
            escapeChar char ++ (escape chars ++ '\"' :: rest) := by
        simp [escape]
      rw [split, readString_escapeChar, ih]
      rfl

/-- A text behind a number: no digit comes first. -/
def Stops (rest : List Char) : Prop :=
  ∀ char ∈ rest.head?, char.isDigit = false

theorem readNat_toDigits (value : Nat) {rest : List Char}
    (stops : Stops rest) :
    readNat (Nat.toDigits 10 value ++ rest) = some (value, rest) := by
  have digits :
      ∀ char ∈ Nat.toDigits 10 value, char.isDigit = true := by
    intro char member
    exact Nat.isDigit_of_mem_toDigits (by decide) (by decide) member
  have behind :
      rest.takeWhile Char.isDigit = [] ∧
        rest.dropWhile Char.isDigit = rest := by
    cases rest with
    | nil => exact ⟨rfl, rfl⟩
    | cons char rest =>
        have first : char.isDigit = false := stops char rfl
        simp [first]
  unfold readNat
  rw [List.takeWhile_append_of_pos digits,
    List.dropWhile_append_of_pos digits, behind.1, behind.2,
    List.append_nil]
  simp [Nat.toDigits_ne_nil, Nat.ofDigitChars_ten_toDigits]

theorem head_toDigits (value : Nat) :
    ∃ char rest,
      Nat.toDigits 10 value = char :: rest ∧ char.isDigit = true := by
  cases digits : Nat.toDigits 10 value with
  | nil => exact absurd digits Nat.toDigits_ne_nil
  | cons char rest =>
      refine ⟨char, rest, rfl, ?_⟩
      exact Nat.isDigit_of_mem_toDigits (b := 10) (n := value) (by decide) (by decide)
        (digits ▸ List.mem_cons_self)

theorem head_writeInt (value : Int) :
    ∃ char rest,
      writeInt value = char :: rest ∧
        (char = '-' ∨ char.isDigit = true) := by
  unfold writeInt
  split
  · exact ⟨_, _, rfl, .inl rfl⟩
  · obtain ⟨char, rest, digits, digit⟩ := head_toDigits value.natAbs
    exact ⟨char, rest, digits, .inr digit⟩

/-- A written integer is read back. -/
theorem readInt_writeInt (value : Int) {rest : List Char}
    (stops : Stops rest) :
    readInt (writeInt value ++ rest) = some (value, rest) := by
  unfold writeInt
  split
  next negative =>
    simp only [List.cons_append, readInt]
    rw [readNat_toDigits _ stops]
    simp only [Option.map_some, Option.some.injEq, Prod.mk.injEq, and_true]
    omega
  next nonneg =>
    obtain ⟨char, tail, digits, digit⟩ := head_toDigits value.natAbs
    have unsigned :
        readInt (Nat.toDigits 10 value.natAbs ++ rest) =
          (readNat (Nat.toDigits 10 value.natAbs ++ rest)).map
            fun read => ((read.1 : Int), read.2) := by
      rw [digits, List.cons_append]
      unfold readInt
      split
      next same =>
        cases same
        cases digit
      next => rfl
    rw [unsigned, readNat_toDigits _ stops]
    simp only [Option.map_some, Option.some.injEq, Prod.mk.injEq, and_true]
    omega

theorem printable_hexDigit {value : Nat} (small : value < 16) :
    32 ≤ (hexDigit value).toNat := by
  have digits : ∀ value : Fin 16, 32 ≤ (hexDigit value).toNat := by decide
  exact digits ⟨value, small⟩

/-- What is written for a character has no control character. -/
theorem printable_of_mem_escapeChar {char written : Char}
    (member : written ∈ escapeChar char) : 32 ≤ written.toNat := by
  have escaped := escapedAs_escapeChar char
  generalize escapeChar char = letters at escaped member
  cases escaped with
  | plain visible _ _ =>
      cases List.mem_singleton.mp member
      exact visible
  | letter listed _ =>
      simp only [List.mem_cons, List.not_mem_nil, or_false] at member listed
      rcases member with rfl | rfl
      · decide
      · rcases listed with rfl | rfl | rfl | rfl | rfl | rfl | rfl <;> decide
  | code control =>
      simp only [List.mem_cons, List.not_mem_nil, or_false] at member
      rcases member with rfl | rfl | rfl | rfl | rfl | rfl
      · decide
      · decide
      · decide
      · decide
      · exact printable_hexDigit (by omega)
      · exact printable_hexDigit (by omega)

theorem printable_of_mem_writeString {chars : List Char} {written : Char}
    (member : written ∈ writeString chars) : 32 ≤ written.toNat := by
  simp only [writeString, escape, List.mem_cons, List.mem_append,
    List.mem_flatMap, List.not_mem_nil, or_false] at member
  rcases member with rfl | ⟨char, _, member⟩ | rfl
  · decide
  · exact printable_of_mem_escapeChar member
  · decide

theorem bounds_of_isDigit {char : Char} (digit : char.isDigit = true) :
    48 ≤ char.toNat ∧ char.toNat ≤ 57 := by
  simpa [Char.isDigit, UInt32.le_iff_toNat_le] using digit

/-- A written integer is made of digits, with a sign before them. -/
theorem sign_or_digit_of_mem_writeInt {value : Int} {written : Char}
    (member : written ∈ writeInt value) :
    written = '-' ∨ 48 ≤ written.toNat ∧ written.toNat ≤ 57 := by
  have digits (member : written ∈ Nat.toDigits 10 value.natAbs) :
      48 ≤ written.toNat ∧ written.toNat ≤ 57 :=
    bounds_of_isDigit
      (Nat.isDigit_of_mem_toDigits (by decide) (by decide) member)
  unfold writeInt at member
  split at member
  · rcases List.mem_cons.mp member with sign | member
    · exact Or.inl sign
    · exact Or.inr (digits member)
  · exact Or.inr (digits member)

theorem printable_of_mem_writeInt {value : Int} {written : Char}
    (member : written ∈ writeInt value) : 32 ≤ written.toNat := by
  rcases sign_or_digit_of_mem_writeInt member with rfl | bounds
  · decide
  · omega

end JsonText
