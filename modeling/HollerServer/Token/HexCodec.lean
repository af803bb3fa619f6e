import HollerServer.Token.Record
import Mathlib.Data.List.Induction

/-!
# What the hash codec reads

`from_hex` against its purpose: to read exactly the texts of hex digits in pairs.
Its loop goes over the bytes two at a time; here it is followed over the characters.
A pair that is a number goes on, a pair that is none ends the loop, and a pair that
cuts a character panics.
-/

namespace HollerServer.Token

open Text

/-- `0-9`, `a-f`, `A-F`. -/
def isHexDigit (char : Char) : Bool :=
  ('0' ≤ char && char ≤ '9') || ('a' ≤ char && char ≤ 'f') ||
    ('A' ≤ char && char ≤ 'F')

/-- Hex digits, an even number of them. -/
def IsHexText (text : String) : Prop :=
  text.toList.length % 2 = 0 ∧ text.toList.all isHexDigit

instance (text : String) : Decidable (IsHexText text) :=
  inferInstanceAs (Decidable (_ ∧ _))

def lowerCase (text : String) : String :=
  String.ofList (text.toList.map Char.toLower)

/-- Two characters that `u8::from_str_radix` reads as a number. -/
def IsNumber (pair : Char × Char) : Prop :=
  (pair.1 = '+' ∨ isHexDigit pair.1 = true) ∧ isHexDigit pair.2 = true

def pairChars (pair : Char × Char) : List Char :=
  [pair.1, pair.2]

/-- The next two bytes are characters but no number. -/
inductive Stops : List Char → Prop
  | wide {char : Char} {rest : List Char} :
      char.utf8Size = 2 → Stops (char :: rest)
  | noNumber {high low : Char} {rest : List Char} :
      high.utf8Size = 1 → low.utf8Size = 1 → ¬IsNumber (high, low) →
      Stops (high :: low :: rest)

/-- The next two bytes end within a character. -/
inductive Cuts : List Char → Prop
  | long {char : Char} {rest : List Char} :
      2 < char.utf8Size → Cuts (char :: rest)
  | straddled {high low : Char} {rest : List Char} :
      high.utf8Size = 1 → low.utf8Size ≠ 1 →
      Cuts (high :: low :: rest)

/-- The byte of a one-byte character. -/
def byteOf (char : Char) : UInt8 :=
  UInt8.ofNat char.toNat

section Digits

theorem byteOf_eq_plus {char : Char} (narrow : char.utf8Size = 1) :
    byteOf char = 43 ↔ char = '+' := by
  refine
    forall_narrow (P := fun char => byteOf char = 43 ↔ char = '+') ?_ narrow
  decide +kernel

theorem toDigit16_isSome {char : Char} (narrow : char.utf8Size = 1) :
    (toDigit16 (byteOf char)).isSome = isHexDigit char := by
  refine
    forall_narrow
      (P := fun char =>
        (toDigit16 (byteOf char)).isSome = isHexDigit char) ?_ narrow
  decide +kernel

/-- The value of a digit is printed as the digit in lower case. -/
theorem hexDigit_toDigit16
    {char : Char} (narrow : char.utf8Size = 1) {digit : UInt8}
    (read : toDigit16 (byteOf char) = some digit) :
    digit.toNat < 16 ∧ hexDigit digit.toNat = char.toLower := by
  have all :
      (toDigit16 (byteOf char)).all
        (fun digit =>
          digit.toNat < 16 && hexDigit digit.toNat == char.toLower) =
        true := by
    refine
      forall_narrow
        (P := fun char =>
          (toDigit16 (byteOf char)).all
            (fun digit =>
              digit.toNat < 16 && hexDigit digit.toNat == char.toLower) =
            true) ?_ narrow
    decide +kernel
  rw [read] at all
  simpa using all

theorem narrow_of_isHexDigit {char : Char} (digit : isHexDigit char = true) :
    char.utf8Size = 1 := by
  rw [Char.utf8Size_eq_one_iff, UInt32.le_iff_toNat_le]
  show char.val.toNat ≤ 127
  simp only [isHexDigit, Bool.or_eq_true, Bool.and_eq_true,
    decide_eq_true_iff, Char.le_def, UInt32.le_iff_toNat_le] at digit
  obtain (⟨_, most⟩ | ⟨_, most⟩) | ⟨_, most⟩ := digit
  · exact Nat.le_trans most (by decide)
  · exact Nat.le_trans most (by decide)
  · exact Nat.le_trans most (by decide)

theorem IsNumber.narrow {pair : Char × Char} (number : IsNumber pair) :
    pair.1.utf8Size = 1 ∧ pair.2.utf8Size = 1 := by
  obtain ⟨plus | digit, low⟩ := number
  · rw [plus]
    exact ⟨rfl, narrow_of_isHexDigit low⟩
  · exact ⟨narrow_of_isHexDigit digit, narrow_of_isHexDigit low⟩

/-- The number of two characters. -/
def pairValue (pair : Char × Char) : Option UInt8 :=
  u8FromStrRadix16 (byteOf pair.1) (byteOf pair.2)

theorem pairValue_isSome_iff
    {pair : Char × Char} (narrowHigh : pair.1.utf8Size = 1)
    (narrowLow : pair.2.utf8Size = 1) :
    (pairValue pair).isSome = true ↔ IsNumber pair := by
  have high := toDigit16_isSome narrowHigh
  have low := toDigit16_isSome narrowLow
  unfold pairValue u8FromStrRadix16 IsNumber
  have isPlus := byteOf_eq_plus narrowHigh
  by_cases plus : pair.1 = '+'
  · rw [if_pos (isPlus.mpr plus), low]
    exact ⟨fun digit => ⟨.inl plus, digit⟩, fun number => number.2⟩
  · rw [if_neg (mt isPlus.mp plus), ← high, ← low]
    cases toDigit16 (byteOf pair.1) with
    | none => simp [plus]
    | some first =>
        cases toDigit16 (byteOf pair.2) with
        | none => simp
        | some second => simp

/-- Two hex digits are the number that is printed as they are in lower case. -/
theorem hexByte_of_pairValue
    {pair : Char × Char} (digit : isHexDigit pair.1 = true)
    (number : IsNumber pair) {byte : UInt8}
    (value : pairValue pair = some byte) :
    hexByte byte = [pair.1.toLower, pair.2.toLower] := by
  obtain ⟨narrowHigh, narrowLow⟩ := number.narrow
  have unsigned : pair.1 ≠ '+' := by
    intro plus
    rw [plus] at digit
    exact absurd digit (by decide)
  unfold pairValue u8FromStrRadix16 at value
  rw [if_neg (mt (byteOf_eq_plus narrowHigh).mp unsigned)] at value
  cases high : toDigit16 (byteOf pair.1) with
  | none =>
      rw [high] at value
      cases value
  | some first =>
      cases low : toDigit16 (byteOf pair.2) with
      | none =>
          rw [high, low] at value
          cases value
      | some second =>
          rw [high, low] at value
          cases value
          obtain ⟨firstSmall, firstPrinted⟩ :=
            hexDigit_toDigit16 narrowHigh high
          obtain ⟨secondSmall, secondPrinted⟩ :=
            hexDigit_toDigit16 narrowLow low
          have total :
              (first * 16 + second).toNat =
                first.toNat * 16 + second.toNat := by
            rw [UInt8.toNat_add, UInt8.toNat_mul]
            show (first.toNat * 16 % 256 + second.toNat) % 256 = _
            omega
          unfold hexByte
          rw [total, ← firstPrinted, ← secondPrinted]
          congr 3
          · omega
          · omega

end Digits

section Loop

variable {ε : Type}

/-- The loop at two one-byte characters. -/
theorem fromHexPairs_narrow
    (pair : Char × Char) (narrowHigh : pair.1.utf8Size = 1)
    (narrowLow : pair.2.utf8Size = 1) (rest : List Char) :
    fromHexPairs (ε := ε)
        ((pairChars pair ++ rest).flatMap String.utf8EncodeChar) =
      match pairValue pair with
      | none => .ok none
      | some byte => do
          let tail ← fromHexPairs (rest.flatMap String.utf8EncodeChar)
          return tail.map (byte :: ·) := by
  obtain ⟨smallHigh, encodedHigh⟩ := utf8EncodeChar_narrow narrowHigh
  obtain ⟨_, encodedLow⟩ := utf8EncodeChar_narrow narrowLow
  simp only [pairChars, List.cons_append, List.nil_append,
    List.flatMap_cons, encodedHigh, encodedLow, fromHexPairs,
    not_isContinuation_of_lt smallHigh, head?_utf8, Bool.or_self,
    Bool.false_eq_true, if_false]
  rfl

/-- What the loop returns once it has read some bytes and comes to what it comes to
on the rest. -/
def resume (bytes : List UInt8) (tail : Result ε (Option (List UInt8))) :
    Result ε (Option (List UInt8)) := do
  let tail ← tail
  return tail.map (bytes ++ ·)

theorem resume_nil (tail : Result ε (Option (List UInt8))) :
    resume [] tail = tail := by
  cases tail with
  | ok bytes? =>
      cases bytes? with
      | none => rfl
      | some bytes => rfl
  | err error => rfl
  | panicked => rfl

theorem resume_cons
    (byte : UInt8) (bytes : List UInt8)
    (tail : Result ε (Option (List UInt8))) :
    resume [byte] (resume bytes tail) = resume (byte :: bytes) tail := by
  cases tail with
  | ok bytes? =>
      cases bytes? with
      | none => rfl
      | some bytes => rfl
  | err error => rfl
  | panicked => rfl

/-- Numbers are read one after the other. -/
theorem fromHexPairs_numbers
    {read : List (Char × Char)} (numbers : ∀ pair ∈ read, IsNumber pair)
    (rest : List Char) :
    ∃ bytes, read.mapM pairValue = some bytes ∧
      fromHexPairs (ε := ε)
          ((read.flatMap pairChars ++ rest).flatMap
            String.utf8EncodeChar) =
        resume bytes
          (fromHexPairs (rest.flatMap String.utf8EncodeChar)) := by
  induction read with
  | nil =>
      refine ⟨[], rfl, ?_⟩
      rw [resume_nil]
      rfl
  | cons pair read inductionHypothesis =>
      obtain ⟨bytes, values, loop⟩ :=
        inductionHypothesis fun other member =>
          numbers other (List.mem_cons_of_mem _ member)
      have number := numbers pair List.mem_cons_self
      obtain ⟨narrowHigh, narrowLow⟩ := number.narrow
      obtain ⟨byte, value⟩ :=
        Option.isSome_iff_exists.mp
          ((pairValue_isSome_iff narrowHigh narrowLow).mpr number)
      refine ⟨byte :: bytes, ?_, ?_⟩
      · rw [List.mapM_cons, value, values]
        rfl
      · rw [List.flatMap_cons, List.append_assoc,
          fromHexPairs_narrow pair narrowHigh narrowLow, value, ← resume_cons,
          loop]
        rfl

/-- The bytes that lead a wider character are no digits. -/
theorem u8FromStrRadix16_lead {lead : UInt8} (large : 192 ≤ lead)
    (next : UInt8) : u8FromStrRadix16 lead next = none := by
  have unsigned : lead ≠ 43 := by
    rintro rfl
    exact absurd large (by decide)
  have noDigit : toDigit16 lead = none := by
    unfold toDigit16
    rw [UInt8.le_iff_toNat_le] at large
    simp only [Bool.and_eq_true, decide_eq_true_iff, UInt8.le_iff_toNat_le]
    have bound : 192 ≤ lead.toNat := large
    rw [if_neg, if_neg, if_neg]
    · exact fun digit => absurd (Nat.le_trans bound digit.2) (by decide)
    · exact fun digit => absurd (Nat.le_trans bound digit.2) (by decide)
    · exact fun digit => absurd (Nat.le_trans bound digit.2) (by decide)
  unfold u8FromStrRadix16
  rw [if_neg unsigned, noDigit]

/-- The loop ends at characters that are no number. -/
theorem fromHexPairs_stops {rest : List Char} (stops : Stops rest) :
    fromHexPairs (ε := ε) (rest.flatMap String.utf8EncodeChar) =
      .ok none := by
  cases stops with
  | @wide char rest two =>
      obtain ⟨lead, next, others, encoded, large, _⟩ :=
        utf8EncodeChar_wide (show char.utf8Size ≠ 1 by omega)
      have length := String.length_utf8EncodeChar char
      rw [encoded, two] at length
      have none : others = [] := List.length_eq_zero_iff.mp (by simpa using length)
      subst none
      simp only [List.flatMap_cons, encoded, List.cons_append,
        List.nil_append, fromHexPairs, not_isContinuation_of_le large,
        head?_utf8, Bool.or_self, Bool.false_eq_true, if_false,
        u8FromStrRadix16_lead large]
  | @noNumber high low rest narrowHigh narrowLow noNumber =>
      have absent : pairValue (high, low) = none := by
        rw [← Option.not_isSome_iff_eq_none,
          pairValue_isSome_iff narrowHigh narrowLow]
        exact noNumber
      have step :=
        fromHexPairs_narrow (ε := ε) (high, low) narrowHigh narrowLow rest
      rw [absent] at step
      exact step

/-- The loop panics within a character. -/
theorem fromHexPairs_cuts {rest : List Char} (cuts : Cuts rest) :
    fromHexPairs (ε := ε) (rest.flatMap String.utf8EncodeChar) =
      .panicked := by
  cases cuts with
  | @long char rest more =>
      obtain ⟨lead, next, others, encoded, large, continued⟩ :=
        utf8EncodeChar_wide (show char.utf8Size ≠ 1 by omega)
      have length := String.length_utf8EncodeChar char
      rw [encoded] at length
      cases others with
      | nil =>
          simp only [List.length_cons, List.length_nil] at length
          omega
      | cons third others =>
          have thirdContinues := continued third (by simp)
          simp [encoded, fromHexPairs, thirdContinues]
  | @straddled high low rest narrowHigh wideLow =>
      obtain ⟨_, encodedHigh⟩ := utf8EncodeChar_narrow narrowHigh
      obtain ⟨lead, next, others, encodedLow, _, continued⟩ :=
        utf8EncodeChar_wide wideLow
      have nextContinues := continued next List.mem_cons_self
      simp [encodedHigh, encodedLow, fromHexPairs, nextContinues]

end Loop

/-- The characters are pairs that are numbers, and then the rest. -/
def Reads
    (chars : List Char) (read : List (Char × Char)) (rest : List Char) :
    Prop :=
  chars = read.flatMap pairChars ++ rest ∧ ∀ pair ∈ read, IsNumber pair

theorem Reads.cons
    {chars : List Char} {read : List (Char × Char)} {rest : List Char}
    {pair : Char × Char} (number : IsNumber pair)
    (reads : Reads chars read rest) :
    Reads (pairChars pair ++ chars) (pair :: read) rest := by
  refine ⟨?_, List.forall_mem_cons.mpr ⟨number, reads.2⟩⟩
  rw [reads.1, List.flatMap_cons, List.append_assoc]

/-- The loop on a text of whole pairs ends in one of three ways. -/
theorem exists_reads (chars : List Char)
    (even : (chars.flatMap String.utf8EncodeChar).length % 2 = 0) :
    ∃ read rest, Reads chars read rest ∧
      (rest = [] ∨ Stops rest ∨ Cuts rest) := by
  induction chars using List.twoStepInduction with
  | nil => exact ⟨[], [], ⟨rfl, List.forall_mem_nil _⟩, .inl rfl⟩
  | singleton char =>
      refine ⟨[], [char], ⟨rfl, List.forall_mem_nil _⟩, .inr ?_⟩
      have sizes := char.utf8Size_eq
      rw [List.flatMap_singleton, String.length_utf8EncodeChar] at even
      by_cases two : char.utf8Size = 2
      · exact .inl (.wide two)
      · exact .inr (.long (by omega))
  | cons_cons high low chars inductionHypothesis _ =>
      have here : Reads (high :: low :: chars) [] (high :: low :: chars) :=
        ⟨rfl, List.forall_mem_nil _⟩
      have sizes := high.utf8Size_eq
      by_cases narrowHigh : high.utf8Size = 1
      · by_cases narrowLow : low.utf8Size = 1
        · by_cases number : IsNumber (high, low)
          · obtain ⟨read, rest, reads, ends⟩ :=
              inductionHypothesis (by
                simp only [List.flatMap_cons, List.length_append,
                  String.length_utf8EncodeChar, narrowHigh,
                  narrowLow] at even
                omega)
            exact ⟨(high, low) :: read, rest, reads.cons number, ends⟩
          · exact
              ⟨_, _, here,
                .inr (.inl (.noNumber narrowHigh narrowLow number))⟩
        · exact ⟨_, _, here, .inr (.inr (.straddled narrowHigh narrowLow))⟩
      · by_cases two : high.utf8Size = 2
        · exact ⟨_, _, here, .inr (.inl (.wide two))⟩
        · exact ⟨_, _, here, .inr (.inr (.long (by omega)))⟩

section Outcomes

variable {ε : Type} {text : String} {read : List (Char × Char)}
  {rest : List Char}

theorem fromHex_of_odd (odd : (utf8 text).length % 2 = 1) :
    fromHex text = (.ok none : Result ε _) := by
  unfold fromHex
  have uneven : (utf8 text).length % 2 ≠ 0 := by omega
  simp only [if_pos uneven]

theorem fromHex_of_even (even : (utf8 text).length % 2 = 0) :
    fromHex text =
      (fromHexPairs (text.toList.flatMap String.utf8EncodeChar) :
        Result ε _) := by
  unfold fromHex
  rw [utf8_eq] at even ⊢
  simp only [even, ne_eq, not_true_eq_false, if_false]

/-- A text of whole pairs is read to the end, to where it stops, or not at all. -/
theorem fromHex_of_reads
    (even : (utf8 text).length % 2 = 0)
    (reads : Reads text.toList read rest) :
    ∃ bytes, read.mapM pairValue = some bytes ∧
      fromHex text =
        (resume bytes (fromHexPairs (rest.flatMap String.utf8EncodeChar)) :
          Result ε _) := by
  obtain ⟨bytes, values, loop⟩ := fromHexPairs_numbers (ε := ε) reads.2 rest
  refine ⟨bytes, values, ?_⟩
  rw [fromHex_of_even even, reads.1, loop]

theorem fromHex_of_stops
    (even : (utf8 text).length % 2 = 0)
    (reads : Reads text.toList read rest) (stops : Stops rest) :
    fromHex text = (.ok none : Result ε _) := by
  obtain ⟨bytes, _, loop⟩ := fromHex_of_reads (ε := ε) even reads
  rw [loop, fromHexPairs_stops stops]
  rfl

theorem fromHex_of_cuts
    (even : (utf8 text).length % 2 = 0)
    (reads : Reads text.toList read rest) (cuts : Cuts rest) :
    fromHex text = (.panicked : Result ε _) := by
  obtain ⟨bytes, _, loop⟩ := fromHex_of_reads (ε := ε) even reads
  rw [loop, fromHexPairs_cuts cuts]
  rfl

theorem fromHex_of_numbers
    (even : (utf8 text).length % 2 = 0)
    (reads : Reads text.toList read []) :
    ∃ bytes, read.mapM pairValue = some bytes ∧
      fromHex text = (.ok (some bytes) : Result ε _) := by
  obtain ⟨bytes, values, loop⟩ := fromHex_of_reads (ε := ε) even reads
  refine ⟨bytes, values, ?_⟩
  rw [loop]
  show Result.ok (some (bytes ++ [])) = _
  rw [List.append_nil]

/-- `from_hex` panics on a text of an even number of bytes where the first two bytes
that are no number end within a character. -/
theorem fromHex_eq_panicked_iff :
    fromHex text = (.panicked : Result ε _) ↔
      (utf8 text).length % 2 = 0 ∧
        ∃ read rest, Reads text.toList read rest ∧ Cuts rest := by
  constructor
  · intro panics
    by_cases even : (utf8 text).length % 2 = 0
    · refine ⟨even, ?_⟩
      obtain ⟨read, rest, reads, ended | stops | cuts⟩ :=
        exists_reads text.toList (by rwa [← utf8_eq])
      · subst ended
        obtain ⟨bytes, _, some⟩ := fromHex_of_numbers (ε := ε) even reads
        rw [some] at panics
        cases panics
      · rw [fromHex_of_stops even reads stops] at panics
        cases panics
      · exact ⟨read, rest, reads, cuts⟩
    · rw [fromHex_of_odd (by omega)] at panics
      cases panics
  · rintro ⟨even, read, rest, reads, cuts⟩
    exact fromHex_of_cuts even reads cuts

end Outcomes

section HexTexts

variable {ε : Type} {text : String} {read : List (Char × Char)}

theorem even_of_reads {chars : List Char} (reads : Reads chars read []) :
    (chars.flatMap String.utf8EncodeChar).length % 2 = 0 := by
  obtain ⟨shape, numbers⟩ := reads
  rw [shape, List.append_nil]
  clear shape
  induction read with
  | nil => rfl
  | cons pair read inductionHypothesis =>
      obtain ⟨number, others⟩ := List.forall_mem_cons.mp numbers
      obtain ⟨narrowHigh, narrowLow⟩ := number.narrow
      have rest := inductionHypothesis others
      simp only [List.flatMap_cons, pairChars, List.cons_append,
        List.nil_append, List.length_append, String.length_utf8EncodeChar,
        narrowHigh, narrowLow] at rest ⊢
      omega

/-- A hex text is a list of pairs of digits. -/
theorem isHexText_iff :
    IsHexText text ↔
      ∃ read, Reads text.toList read [] ∧
        ∀ pair ∈ read, isHexDigit pair.1 = true := by
  unfold IsHexText
  constructor
  · rintro ⟨even, digits⟩
    generalize text.toList = chars at even digits
    induction chars using List.twoStepInduction with
    | nil =>
        exact ⟨[], ⟨rfl, List.forall_mem_nil _⟩, List.forall_mem_nil _⟩
    | singleton char =>
        rw [List.length_singleton] at even
        omega
    | cons_cons high low chars inductionHypothesis _ =>
        simp only [List.all_cons, Bool.and_eq_true] at digits
        obtain ⟨digitHigh, digitLow, digits⟩ := digits
        simp only [List.length_cons] at even
        obtain ⟨read, reads, first⟩ :=
          inductionHypothesis (by omega) digits
        have number : IsNumber (high, low) := ⟨.inr digitHigh, digitLow⟩
        exact
          ⟨(high, low) :: read, reads.cons number,
            List.forall_mem_cons.mpr ⟨digitHigh, first⟩⟩
  · rintro ⟨read, ⟨shape, numbers⟩, first⟩
    rw [shape, List.append_nil]
    clear shape
    induction read with
    | nil => exact ⟨rfl, rfl⟩
    | cons pair read inductionHypothesis =>
        obtain ⟨number, others⟩ := List.forall_mem_cons.mp numbers
        obtain ⟨digit, firstOthers⟩ := List.forall_mem_cons.mp first
        obtain ⟨even, digits⟩ := inductionHypothesis firstOthers others
        rw [List.flatMap_cons, List.length_append, List.all_append, digits]
        refine ⟨?_, ?_⟩
        · show (2 + _) % 2 = 0
          omega
        · simp [pairChars, digit, number.2]

/-- Pairs of digits are printed as they are in lower case. -/
theorem flatMap_hexByte
    (numbers : ∀ pair ∈ read, IsNumber pair)
    (first : ∀ pair ∈ read, isHexDigit pair.1 = true)
    {bytes : List UInt8} (values : read.mapM pairValue = some bytes) :
    bytes.flatMap hexByte =
      (read.flatMap pairChars).map Char.toLower := by
  induction read generalizing bytes with
  | nil =>
      cases values
      rfl
  | cons pair read inductionHypothesis =>
      obtain ⟨number, others⟩ := List.forall_mem_cons.mp numbers
      obtain ⟨digit, firstOthers⟩ := List.forall_mem_cons.mp first
      rw [List.mapM_cons] at values
      obtain ⟨byte, value, values⟩ := Option.bind_eq_some_iff.mp values
      obtain ⟨rest, restValues, values⟩ := Option.bind_eq_some_iff.mp values
      cases values
      rw [List.flatMap_cons, List.flatMap_cons, List.map_append,
        hexByte_of_pairValue digit number value,
        inductionHypothesis others firstOthers restValues]
      rfl

/-- A hex text is read as the bytes that are printed as it is in lower case. -/
theorem fromHex_of_isHexText (hex : IsHexText text) :
    ∃ bytes, fromHex text = (.ok (some bytes) : Result ε _) ∧
      toHex bytes = lowerCase text := by
  obtain ⟨read, reads, first⟩ := isHexText_iff.mp hex
  have even : (utf8 text).length % 2 = 0 := by
    rw [utf8_eq]
    exact even_of_reads reads
  obtain ⟨bytes, values, some⟩ := fromHex_of_numbers (ε := ε) even reads
  refine ⟨bytes, some, ?_⟩
  unfold toHex lowerCase
  rw [flatMap_hexByte reads.2 first values, reads.1, List.append_nil]

end HexTexts

section Exactness

/-- `from_hex` reads the text if it is hex digits in pairs, as the bytes that are
printed as it is in lower case, and otherwise returns nothing; a secret then
verifies against the text exactly if the text is the secret's hash in either case. -/
structure ReadsExactly (text : String) : Prop where
  returns :
    fromHex text ≠ (.panicked : Result TokenError (Option (List UInt8)))
  accepts :
    (∃ bytes, fromHex text = (.ok (some bytes) : Result TokenError _)) ↔
      IsHexText text
  prints :
    ∀ bytes, fromHex text = (.ok (some bytes) : Result TokenError _) →
      toHex bytes = lowerCase text
  verifies :
    ∀ crates pepper secret,
      verifySecret crates pepper secret text =
        .ok
          (decide
            (IsHexText text ∧
              lowerCase text = hashSecret crates pepper secret))

/-- The text has an odd number of bytes, or it is read two bytes at a time either
to its end, all of them hex digits, or to two bytes that are whole characters and
no number. -/
def StopsPlainly (text : String) : Prop :=
  (utf8 text).length % 2 = 1 ∨
    ∃ read rest, Reads text.toList read rest ∧
      (Stops rest ∨
        rest = [] ∧ ∀ pair ∈ read, isHexDigit pair.1 = true)

variable {text : String}

/-- What verification comes to once the text is read. -/
theorem verifySecret_of_fromHex
    (crates : Crates) (pepper : List UInt8) (secret : String)
    {bytes? : Option (List UInt8)}
    (read : fromHex text = (.ok bytes? : Result TokenError _)) :
    verifySecret crates pepper secret text =
      .ok
        (bytes?.any fun bytes =>
          decide (crates.hmacSha256 pepper (utf8 secret) = bytes)) := by
  unfold verifySecret
  rw [read]
  cases bytes? with
  | none => rfl
  | some bytes => rfl

theorem toHex_injective : Function.Injective toHex := by
  intro first second same
  have readBack := fromHex_toHex (ε := Empty) first
  rw [same, fromHex_toHex] at readBack
  simpa using readBack.symm

theorem readsExactly_of_isHexText (hex : IsHexText text) :
    ReadsExactly text := by
  obtain ⟨bytes, read, printed⟩ :=
    fromHex_of_isHexText (ε := TokenError) hex
  constructor
  · rw [read]
    intro impossible
    cases impossible
  · exact iff_of_true ⟨bytes, read⟩ hex
  · intro other readOther
    rw [read] at readOther
    cases readOther
    exact printed
  · intro crates pepper secret
    rw [verifySecret_of_fromHex crates pepper secret read]
    congr 1
    refine decide_eq_decide.mpr ?_
    unfold hashSecret
    rw [← printed]
    constructor
    · intro same
      exact ⟨hex, by rw [same]⟩
    · rintro ⟨_, same⟩
      exact (toHex_injective same).symm

theorem readsExactly_of_none
    (read : fromHex text = (.ok none : Result TokenError _))
    (notHex : ¬IsHexText text) : ReadsExactly text := by
  constructor
  · rw [read]
    intro impossible
    cases impossible
  · refine iff_of_false ?_ notHex
    rintro ⟨bytes, some⟩
    rw [read] at some
    cases some
  · intro bytes some
    rw [read] at some
    cases some
  · intro crates pepper secret
    rw [verifySecret_of_fromHex crates pepper secret read]
    simp [notHex]

/-- Two ways for the codec to be exact on a text. -/
theorem readsExactly_iff :
    ReadsExactly text ↔
      IsHexText text ∨
        fromHex text = (.ok none : Result TokenError _) := by
  by_cases hex : IsHexText text
  · exact iff_of_true (readsExactly_of_isHexText hex) (.inl hex)
  · constructor
    · intro exact
      right
      cases read : fromHex (ε := TokenError) text with
      | ok bytes? =>
          cases bytes? with
          | none => rfl
          | some bytes => exact absurd (exact.accepts.mp ⟨bytes, read⟩) hex
      | err error =>
          have never :
              Result.FailsWithin (fun _ : TokenError => False)
                (fromHex text) :=
            failsWithin_fromHex text
          exact (never error read).elim
      | panicked => exact absurd read exact.returns
    · rintro (isHex | none)
      · exact absurd isHex hex
      · exact readsExactly_of_none none hex

theorem stopsPlainly_iff :
    StopsPlainly text ↔
      IsHexText text ∨
        fromHex text = (.ok none : Result TokenError _) := by
  unfold StopsPlainly
  constructor
  · rintro (odd | ⟨read, rest, reads, stops | ⟨ended, digits⟩⟩)
    · exact .inr (fromHex_of_odd odd)
    · by_cases even : (utf8 text).length % 2 = 0
      · exact .inr (fromHex_of_stops even reads stops)
      · exact .inr (fromHex_of_odd (by omega))
    · subst ended
      exact .inl (isHexText_iff.mpr ⟨read, reads, digits⟩)
  · rintro (hex | none)
    · obtain ⟨read, reads, digits⟩ := isHexText_iff.mp hex
      exact .inr ⟨read, [], reads, .inr ⟨rfl, digits⟩⟩
    · by_cases even : (utf8 text).length % 2 = 0
      · right
        obtain ⟨read, rest, reads, ended | stops | cuts⟩ :=
          exists_reads text.toList (by rwa [← utf8_eq])
        · subst ended
          obtain ⟨bytes, _, some⟩ :=
            fromHex_of_numbers (ε := TokenError) even reads
          rw [some] at none
          cases none
        · exact ⟨read, rest, reads, .inl stops⟩
        · rw [fromHex_of_cuts even reads cuts] at none
          cases none
      · exact .inl (by omega)

/-- What is printed is read back, and the codec is exact on the texts on which the
loop stops plainly. -/
theorem hexCodec_exact_iff (bytes : List UInt8) (text : String) :
    fromHex (toHex bytes) = (.ok (some bytes) : Result TokenError _) ∧
      (ReadsExactly text ↔ StopsPlainly text) := by
  constructor
  · exact fromHex_toHex bytes
  · exact readsExactly_iff.trans stopsPlainly_iff.symm

/-- A sign is taken for a digit, and a character of two bytes is cut. -/
theorem sign_is_read_and_character_is_cut :
    (fromHex "+f" = (.ok (some [15]) : Result TokenError _) ∧
        toHex [15] = "0f" ∧ ¬ReadsExactly "+f") ∧
      fromHex "aéb" =
          (.panicked : Result TokenError (Option (List UInt8))) ∧
        ¬ReadsExactly "aéb" := by
  have signed : fromHex "+f" = (.ok (some [15]) : Result TokenError _) := by
    decide
  have cut :
      fromHex "aéb" =
        (.panicked : Result TokenError (Option (List UInt8))) := by
    decide
  refine ⟨⟨signed, by decide, ?_⟩, cut, ?_⟩
  · intro exact
    have hex := exact.accepts.mp ⟨_, signed⟩
    exact absurd hex (by decide)
  · intro exact
    exact exact.returns cut

end Exactness

end HollerServer.Token
