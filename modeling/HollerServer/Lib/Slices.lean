import HollerServer.Lib.Result
import Mathlib.Data.String.Basic

/-!
# Slices by byte positions

A text is cut at a byte position of its UTF-8 form; a position inside a character
or past the end panics.  The two searches return byte positions, and what they
find can be cut off without a panic.
-/

namespace Text

open String

variable {ε : Type}

/-- The parts before and from a byte position. -/
def splitAt : List Char → Nat → Result ε (List Char × List Char)
  | chars, 0 => .ok ([], chars)
  | [], _ + 1 => .panicked
  | char :: rest, position + 1 =>
      if position + 1 < char.utf8Size then .panicked
      else do
        let (before, after) ← splitAt rest (position + 1 - char.utf8Size)
        return (char :: before, after)

/-- The byte position of the first occurrence of a pattern. -/
def find (pattern : List Char) : List Char → Option Nat
  | [] => if pattern = [] then some 0 else none
  | char :: rest =>
      if pattern.isPrefixOf (char :: rest) then some 0
      else (find pattern rest).map (char.utf8Size + ·)

/-- The byte position of the first character that passes a test. -/
def findChar (test : Char → Bool) : List Char → Option Nat
  | [] => none
  | char :: rest =>
      if test char then some 0
      else (findChar test rest).map (char.utf8Size + ·)

theorem splitAt_zero (chars : List Char) :
    splitAt chars 0 = (.ok ([], chars) : Result ε _) := by
  cases chars <;> rfl

theorem splitAt_cons
    {char : Char} {rest : List Char} {position : Nat}
    (reaches : char.utf8Size ≤ position) :
    splitAt (char :: rest) position =
      (do
        let (before, after) ← splitAt rest (position - char.utf8Size)
        return (char :: before, after) : Result ε _) := by
  have positive : 0 < char.utf8Size := char.utf8Size_pos
  cases position with
  | zero => omega
  | succ position =>
      have within : ¬position + 1 < char.utf8Size := by omega
      simp only [splitAt, if_neg within]

/-- A text is cut where a part of it ends. -/
theorem splitAt_utf8Len (before after : List Char) :
    splitAt (before ++ after) (utf8Len before) =
      (.ok (before, after) : Result ε _) := by
  induction before with
  | nil => exact splitAt_zero after
  | cons char before inductionHypothesis =>
      have reaches :
          char.utf8Size ≤ utf8Len (char :: before) := by
        simp
      have remaining :
          utf8Len (char :: before) - char.utf8Size = utf8Len before := by
        simp
      rw [List.cons_append, splitAt_cons reaches, remaining,
        inductionHypothesis]
      rfl

/-- A cut inside a character panics. -/
theorem splitAt_within_char
    (before after : List Char) {char : Char} {offset : Nat}
    (positive : 0 < offset) (inside : offset < char.utf8Size) :
    splitAt (before ++ char :: after) (utf8Len before + offset) =
      (.panicked : Result ε _) := by
  induction before with
  | nil =>
      obtain ⟨offset, rfl⟩ := Nat.exists_eq_succ_of_ne_zero positive.ne'
      have short : 0 + offset + 1 < char.utf8Size := by omega
      change splitAt (char :: after) (0 + offset + 1) = _
      simp only [splitAt, if_pos short]
  | cons first before inductionHypothesis =>
      have reaches :
          first.utf8Size ≤ utf8Len (first :: before) + offset := by
        simp only [utf8Len_cons]
        omega
      have remaining :
          utf8Len (first :: before) + offset - first.utf8Size =
            utf8Len before + offset := by
        simp only [utf8Len_cons]
        omega
      rw [List.cons_append, splitAt_cons reaches, remaining,
        inductionHypothesis]
      rfl

/-- What a found pattern is preceded by: a part at none of whose characters the
pattern starts. -/
theorem find_eq_some
    {pattern chars : List Char} {start : Nat}
    (found : find pattern chars = some start) :
    ∃ before after,
      chars = before ++ (pattern ++ after) ∧ start = utf8Len before ∧
        ∀ left right, before = left ++ right → right ≠ [] →
          ¬pattern <+: right ++ (pattern ++ after) := by
  induction chars generalizing start with
  | nil =>
      unfold find at found
      split at found
      · next empty =>
          cases found
          refine ⟨[], [], by simp [empty], rfl, ?_⟩
          intro left right same nonempty
          exact absurd (List.append_eq_nil_iff.mp same.symm).2 nonempty
      · cases found
  | cons char rest inductionHypothesis =>
      unfold find at found
      split at found
      · next front =>
          cases found
          obtain ⟨after, same⟩ := List.isPrefixOf_iff_prefix.mp front
          refine ⟨[], after, same.symm, rfl, ?_⟩
          intro left right isNil nonempty
          exact absurd (List.append_eq_nil_iff.mp isNil.symm).2 nonempty
      · next notFront =>
          obtain ⟨position, later, rfl⟩ := Option.map_eq_some_iff.mp found
          obtain ⟨before, after, rfl, rfl, earlier⟩ :=
            inductionHypothesis later
          refine ⟨char :: before, after, rfl, ?_, ?_⟩
          · rw [utf8Len_cons]
            omega
          · intro left right same nonempty
            cases left with
            | nil =>
                rw [List.nil_append] at same
                rw [← same]
                exact fun front => notFront (List.isPrefixOf_iff_prefix.mpr front)
            | cons first left =>
                rw [List.cons_append] at same
                injection same with _ sameRest
                exact earlier left right sameRest nonempty

theorem find_eq_none
    {pattern chars : List Char} (notFound : find pattern chars = none)
    (before after : List Char) :
    chars ≠ before ++ (pattern ++ after) := by
  induction chars generalizing before with
  | nil =>
      intro same
      obtain ⟨_, rest⟩ := List.append_eq_nil_iff.mp same.symm
      obtain ⟨empty, _⟩ := List.append_eq_nil_iff.mp rest
      simp [find, empty] at notFound
  | cons char rest inductionHypothesis =>
      unfold find at notFound
      split at notFound
      · cases notFound
      · next notFront =>
          intro same
          cases before with
          | nil =>
              refine notFront (List.isPrefixOf_iff_prefix.mpr ?_)
              exact ⟨after, same.symm⟩
          | cons first before =>
              rw [List.cons_append] at same
              injection same with _ sameRest
              exact inductionHypothesis (Option.map_eq_none_iff.mp notFound)
                before sameRest

/-- Up to the first character that passes the test, none does. -/
theorem findChar_getD (test : Char → Bool) (chars : List Char) :
    (findChar test chars).getD (utf8Len chars) =
      utf8Len (chars.takeWhile fun char => !test char) := by
  induction chars with
  | nil => rfl
  | cons char rest inductionHypothesis =>
      unfold findChar
      cases passes : test char with
      | true => simp [passes]
      | false =>
          rw [if_neg (by simp)]
          cases found : findChar test rest with
          | none =>
              rw [found] at inductionHypothesis
              simp only [Option.getD_none] at inductionHypothesis
              simp [passes, inductionHypothesis]
          | some position =>
              rw [found] at inductionHypothesis
              simp only [Option.getD_some] at inductionHypothesis
              simp [passes, inductionHypothesis, Nat.add_comm]

end Text
