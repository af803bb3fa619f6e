import HollerServer.Lib.Slices
import HollerServer.Token.Record

/-!
# The lifetime an operator asks for

`parse_ttl` of `src/token/mod.rs`.  It cuts the last byte off the trimmed text and
multiplies the number before it by the unit; both steps can panic.  A duration is a
number of nanoseconds, and `time::Duration` holds its seconds in 64 bits.
-/

namespace HollerServer.Token

open Text

def i64Size : Nat := 2 ^ 63

def nanosPerSecond : Int := 1000000000

/-- `Duration::seconds`, `minutes`, `hours` and `days`: a count of units of so many
seconds, which panics when the seconds overflow. -/
def durationOf (unitSeconds count : Int) : Result TokenError Int :=
  if -(i64Size : Int) ≤ count * unitSeconds ∧ count * unitSeconds < i64Size then
    .ok (count * unitSeconds * nanosPerSecond)
  else .panicked

/-- `parse_ttl` after the cut: the number and the unit of the trimmed text `s`. -/
def ttlOfParts (s : String) (numPart unit : List Char) :
    Result TokenError Int :=
  match parseSigned i64Size numPart with
  | none => .err (.invalidTtl s)
  | some n =>
      if n < 0 then .err (.invalidTtl s)
      else
        match unit with
        | ['s'] => durationOf 1 n
        | ['m'] => durationOf 60 n
        | ['h'] => durationOf 3600 n
        | ['d'] => durationOf 86400 n
        | _ => .err (.invalidTtl s)

def parseTtl (text : String) : Result TokenError Int :=
  let s := trim text
  if s.utf8ByteSize < 2 then .err (.invalidTtl s)
  else do
    let (numPart, unit) ← splitAt s.toList (s.utf8ByteSize - 1)
    ttlOfParts s numPart unit

example : parseTtl " 30m " = .ok (1800 * nanosPerSecond) := by decide

example : parseTtl "24x" = .err (.invalidTtl "24x") := by decide

/-- The seconds a unit letter stands for. -/
def secondsOfUnit : Char → Option Int
  | 's' => some 1
  | 'm' => some 60
  | 'h' => some 3600
  | 'd' => some 86400
  | _ => none

/-- The trimmed text is a count of units of so many seconds. -/
def CountsUnits (text : String) (count seconds : Int) : Prop :=
  ∃ numPart unit,
    (trim text).toList = numPart ++ [unit] ∧
      parseSigned i64Size numPart = some count ∧
      0 ≤ count ∧ secondsOfUnit unit = some seconds

/-- What a parser of lifetimes is to do with a text: return the duration the text
counts out when it fits, and the typed error for any other text. -/
structure ParsesExactly (text : String) : Prop where
  accepts :
    ∀ duration,
      parseTtl text = .ok duration ↔
        ∃ count seconds,
          CountsUnits text count seconds ∧
            count * seconds < i64Size ∧
            duration = count * seconds * nanosPerSecond
  rejects :
    (∀ duration, parseTtl text ≠ .ok duration) →
      parseTtl text = .err (.invalidTtl (trim text))

theorem durationOf_of_fits
    {unitSeconds count : Int}
    (unitPositive : 0 ≤ unitSeconds) (positive : 0 ≤ count)
    (fits : count * unitSeconds < i64Size) :
    durationOf unitSeconds count =
      .ok (count * unitSeconds * nanosPerSecond) := by
  have least : -(i64Size : Int) ≤ count * unitSeconds := by
    have product : 0 ≤ count * unitSeconds := Int.mul_nonneg positive unitPositive
    omega
  exact if_pos ⟨least, fits⟩

theorem durationOf_of_overflow
    {unitSeconds count : Int}
    (overflows : ¬count * unitSeconds < i64Size) :
    durationOf unitSeconds count = .panicked := by
  refine if_neg ?_
  rintro ⟨_, fits⟩
  exact overflows fits

theorem secondsOfUnit_nonneg
    {unit : Char} {seconds : Int} (known : secondsOfUnit unit = some seconds) :
    0 ≤ seconds := by
  unfold secondsOfUnit at known
  split at known
  all_goals cases known
  all_goals decide

/-- Cut before its last character, a text comes to the duration of the unit this
character stands for. -/
theorem ttlOfParts_singleton
    (s : String) (numPart : List Char) (unit : Char) :
    ttlOfParts s numPart [unit] =
      match parseSigned i64Size numPart with
      | none => .err (.invalidTtl s)
      | some count =>
          if count < 0 then .err (.invalidTtl s)
          else
            match secondsOfUnit unit with
            | some seconds => durationOf seconds count
            | none => .err (.invalidTtl s) := by
  unfold ttlOfParts
  cases parseSigned i64Size numPart with
  | none => rfl
  | some count =>
      by_cases negative : count < 0
      · simp only [if_pos negative]
      · simp only [if_neg negative]
        unfold secondsOfUnit
        split
        · next same => cases same; rfl
        · next same => cases same; rfl
        · next same => cases same; rfl
        · next same => cases same; rfl
        · split
          all_goals simp_all

/-- A text that ends in a character of one byte is cut before it. -/
theorem parseTtl_of_ascii_end
    {text : String} {numPart : List Char} {unit : Char}
    (trimmed : (trim text).toList = numPart ++ [unit])
    (oneByte : unit.utf8Size = 1) :
    parseTtl text = ttlOfParts (trim text) numPart [unit] := by
  have size :
      (trim text).utf8ByteSize = String.utf8Len numPart + 1 := by
    rw [← String.utf8Len_toList, trimmed, String.utf8Len_append]
    simp [oneByte]
  unfold parseTtl
  by_cases short : (trim text).utf8ByteSize < 2
  · -- The unit alone: the number before it is empty and does not parse.
    have empty : numPart = [] := by
      rw [← String.utf8Len_eq_zero]
      omega
    rw [if_pos short, empty]
    rfl
  · have position : (trim text).utf8ByteSize - 1 = String.utf8Len numPart := by
      omega
    rw [if_neg short, trimmed, position, splitAt_utf8Len]
    rfl

/-- A text that ends in a longer character is cut inside it. -/
theorem parseTtl_of_wide_end
    {text : String} {numPart : List Char} {unit : Char}
    (trimmed : (trim text).toList = numPart ++ [unit])
    (wide : unit.utf8Size ≠ 1) :
    parseTtl text = .panicked := by
  have positive : 0 < unit.utf8Size := unit.utf8Size_pos
  have size :
      (trim text).utf8ByteSize = String.utf8Len numPart + unit.utf8Size := by
    rw [← String.utf8Len_toList, trimmed, String.utf8Len_append]
    simp
  have long : ¬(trim text).utf8ByteSize < 2 := by
    omega
  have position :
      (trim text).utf8ByteSize - 1 =
        String.utf8Len numPart + (unit.utf8Size - 1) := by
    omega
  unfold parseTtl
  rw [if_neg long, trimmed, position,
    splitAt_within_char numPart [] (by omega) (by omega)]
  rfl

theorem parseTtl_of_blank
    {text : String} (trimmed : (trim text).toList = []) :
    parseTtl text = .err (.invalidTtl (trim text)) := by
  have size : (trim text).utf8ByteSize = 0 := by
    rw [← String.utf8Len_toList, trimmed]
    rfl
  unfold parseTtl
  rw [if_pos (by omega)]

theorem countsUnits_iff
    {text : String} {numPart : List Char} {unit : Char}
    (trimmed : (trim text).toList = numPart ++ [unit]) (count seconds : Int) :
    CountsUnits text count seconds ↔
      parseSigned i64Size numPart = some count ∧
        0 ≤ count ∧ secondsOfUnit unit = some seconds := by
  constructor
  · rintro ⟨otherPart, otherUnit, same, facts⟩
    rw [trimmed] at same
    obtain ⟨rfl, sameUnit⟩ := List.append_inj' same rfl
    cases sameUnit
    exact facts
  · intro facts
    exact ⟨numPart, unit, trimmed, facts⟩

/-- A text that is cut before its unit and counts units out comes to their
duration. -/
theorem parseTtl_of_countsUnits
    {text : String} {numPart : List Char} {unit : Char} {count seconds : Int}
    (trimmed : (trim text).toList = numPart ++ [unit])
    (oneByte : unit.utf8Size = 1) (counts : CountsUnits text count seconds) :
    parseTtl text = durationOf seconds count := by
  obtain ⟨parsed, positive, known⟩ := (countsUnits_iff trimmed _ _).mp counts
  have notNegative : ¬count < 0 := by omega
  rw [parseTtl_of_ascii_end trimmed oneByte, ttlOfParts_singleton, parsed]
  simp only [if_neg notNegative, known]

theorem parseTtl_of_not_countsUnits
    {text : String} {numPart : List Char} {unit : Char}
    (trimmed : (trim text).toList = numPart ++ [unit])
    (oneByte : unit.utf8Size = 1)
    (none : ¬∃ count seconds, CountsUnits text count seconds) :
    parseTtl text = .err (.invalidTtl (trim text)) := by
  rw [parseTtl_of_ascii_end trimmed oneByte, ttlOfParts_singleton]
  cases parsed : parseSigned i64Size numPart with
  | none => rfl
  | some count =>
      by_cases negative : count < 0
      · simp only [if_pos negative]
      · cases known : secondsOfUnit unit with
        | none => simp only [if_neg negative]
        | some seconds =>
            have counts : CountsUnits text count seconds :=
              (countsUnits_iff trimmed _ _).mpr ⟨parsed, by omega, known⟩
            exact absurd ⟨count, seconds, counts⟩ none

theorem not_parsesExactly_of_panicked
    {text : String} (panics : parseTtl text = .panicked) :
    ¬ParsesExactly text := by
  intro exact
  have rejected : parseTtl text = .err (.invalidTtl (trim text)) := by
    apply exact.rejects
    intro duration returned
    rw [panics] at returned
    cases returned
  rw [panics] at rejected
  cases rejected

theorem parsesExactly_of_rejected
    {text : String} (rejected : parseTtl text = .err (.invalidTtl (trim text)))
    (none : ¬∃ count seconds, CountsUnits text count seconds) :
    ParsesExactly text where
  accepts := by
    intro duration
    rw [rejected]
    constructor
    · intro impossible
      cases impossible
    · rintro ⟨count, seconds, counts, _⟩
      exact absurd ⟨count, seconds, counts⟩ none
  rejects := fun _ => rejected

theorem countsUnits_unique
    {text : String} {count seconds otherCount otherSeconds : Int}
    (counts : CountsUnits text count seconds)
    (others : CountsUnits text otherCount otherSeconds) :
    otherCount = count ∧ otherSeconds = seconds := by
  obtain ⟨numPart, unit, trimmed, parsed, _, known⟩ := counts
  obtain ⟨otherParsed, _, otherKnown⟩ := (countsUnits_iff trimmed _ _).mp others
  rw [parsed] at otherParsed
  rw [known] at otherKnown
  cases otherParsed
  cases otherKnown
  exact ⟨rfl, rfl⟩

theorem parsesExactly_of_accepted
    {text : String} {count seconds : Int}
    (counts : CountsUnits text count seconds)
    (fits : count * seconds < i64Size)
    (accepted : parseTtl text = .ok (count * seconds * nanosPerSecond)) :
    ParsesExactly text where
  accepts := by
    intro duration
    rw [accepted]
    constructor
    · intro same
      cases same
      exact ⟨count, seconds, counts, fits, rfl⟩
    · rintro ⟨otherCount, otherSeconds, others, _, rfl⟩
      obtain ⟨rfl, rfl⟩ := countsUnits_unique counts others
      rfl
  rejects := fun none => absurd accepted (none _)

theorem parsesExactly_iff_of_end
    {text : String} {numPart : List Char} {unit : Char}
    (trimmed : (trim text).toList = numPart ++ [unit]) :
    ParsesExactly text ↔
      unit.utf8Size = 1 ∧
        ∀ count seconds, CountsUnits text count seconds →
          count * seconds < i64Size := by
  by_cases oneByte : unit.utf8Size = 1
  · by_cases counted : ∃ count seconds, CountsUnits text count seconds
    · obtain ⟨count, seconds, counts⟩ := counted
      obtain ⟨_, positive, known⟩ := (countsUnits_iff trimmed _ _).mp counts
      have returned := parseTtl_of_countsUnits trimmed oneByte counts
      by_cases fits : count * seconds < i64Size
      · rw [durationOf_of_fits (secondsOfUnit_nonneg known) positive fits]
          at returned
        refine iff_of_true (parsesExactly_of_accepted counts fits returned)
          ⟨oneByte, ?_⟩
        intro otherCount otherSeconds others
        obtain ⟨rfl, rfl⟩ := countsUnits_unique counts others
        exact fits
      · rw [durationOf_of_overflow fits] at returned
        refine iff_of_false (not_parsesExactly_of_panicked returned) ?_
        rintro ⟨_, bounded⟩
        exact fits (bounded count seconds counts)
    · have returned := parseTtl_of_not_countsUnits trimmed oneByte counted
      refine iff_of_true (parsesExactly_of_rejected returned counted)
        ⟨oneByte, ?_⟩
      intro count seconds counts
      exact absurd ⟨count, seconds, counts⟩ counted
  · have panics := parseTtl_of_wide_end trimmed oneByte
    refine iff_of_false (not_parsesExactly_of_panicked panics) ?_
    rintro ⟨ascii, _⟩
    exact oneByte ascii

/-- The parser does as it is to exactly if the trimmed text does not end in a
character of several bytes and does not count out more seconds than fit. -/
theorem parseTtl_exact_iff (text : String) :
    ParsesExactly text ↔
      (∀ last, (trim text).toList.getLast? = some last → last.utf8Size = 1) ∧
        ∀ count seconds, CountsUnits text count seconds →
          count * seconds < i64Size := by
  rcases List.eq_nil_or_concat (trim text).toList with
    trimmed | ⟨numPart, unit, trimmed⟩
  · have none : ¬∃ count seconds, CountsUnits text count seconds := by
      rintro ⟨_, _, numPart, unit, same, _⟩
      simp [trimmed] at same
    refine iff_of_true
      (parsesExactly_of_rejected (parseTtl_of_blank trimmed) none) ⟨?_, ?_⟩
    · intro last isLast
      simp [trimmed] at isLast
    · intro count seconds counts
      exact absurd ⟨count, seconds, counts⟩ none
  · rw [List.concat_eq_append] at trimmed
    rw [parsesExactly_iff_of_end trimmed, trimmed]
    simp

/-- `é` takes two bytes, and a text that ends in it is cut inside it. -/
theorem parseTtl_cuts_a_character :
    parseTtl "5é" = .panicked ∧ ¬ParsesExactly "5é" := by
  have panics : parseTtl "5é" = .panicked := by
    decide
  exact ⟨panics, not_parsesExactly_of_panicked panics⟩

end HollerServer.Token
