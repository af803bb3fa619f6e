import Mathlib.Data.List.Basic

/-!
# Lines of a stream

A stream of characters as a sequence of lines: `lines` gives them without their
ends, as an iterator over lines does, `readLine` takes one with its end.
-/

namespace Lines

/-- The end of a line may be a carriage return and a newline; the line comes in
reverse. -/
def ofReversed : List Char → List Char
  | '\r' :: rest => rest.reverse
  | chars => chars.reverse

/-- The lines of a stream, behind the part of a line that was read already. -/
def linesFrom (begun : List Char) : List Char → List (List Char)
  | [] => if begun = [] then [] else [begun.reverse]
  | char :: rest =>
      if char = '\n' then ofReversed begun :: linesFrom [] rest
      else linesFrom (char :: begun) rest

def lines (stream : List Char) : List (List Char) :=
  linesFrom [] stream

/-- One line with its end, and what is behind it. -/
def readLine : List Char → List Char × List Char
  | [] => ([], [])
  | char :: rest =>
      if char = '\n' then (['\n'], rest)
      else (char :: (readLine rest).1, (readLine rest).2)

/-- A text that is one line: no character of it ends a line. -/
def OneLine (text : List Char) : Prop :=
  '\n' ∉ text ∧ '\r' ∉ text

instance : DecidablePred OneLine :=
  fun text => inferInstanceAs (Decidable ('\n' ∉ text ∧ '\r' ∉ text))

variable {text : List Char}

theorem oneLine_append_iff {left right : List Char} :
    OneLine (left ++ right) ↔ OneLine left ∧ OneLine right := by
  simp only [OneLine, List.mem_append, not_or]
  exact and_and_and_comm

theorem oneLine_flatMap_iff {α : Type} {items : List α}
    {write : α → List Char} :
    OneLine (items.flatMap write) ↔ ∀ item ∈ items, OneLine (write item) := by
  induction items with
  | nil => simp [OneLine]
  | cons item items ih =>
      rw [List.flatMap_cons, oneLine_append_iff, ih, List.forall_mem_cons]

theorem ofReversed_reverse (oneLine : OneLine text) :
    ofReversed text.reverse = text := by
  unfold ofReversed
  split
  next rest same =>
    have member : '\r' ∈ text := by
      rw [← List.mem_reverse, same]
      exact List.mem_cons_self
    exact absurd member oneLine.2
  next => exact List.reverse_reverse text

theorem linesFrom_append (begun : List Char) (rest : List Char)
    (noNewline : '\n' ∉ text) :
    linesFrom begun (text ++ '\n' :: rest) =
      ofReversed (text.reverse ++ begun) :: linesFrom [] rest := by
  induction text generalizing begun with
  | nil => rfl
  | cons char text ih =>
      rw [List.mem_cons, not_or] at noNewline
      rw [List.cons_append, linesFrom, if_neg (Ne.symm noNewline.1),
        ih _ noNewline.2]
      simp

/-- One line in front of a stream is its first line. -/
theorem lines_append (oneLine : OneLine text) (rest : List Char) :
    lines (text ++ '\n' :: rest) = text :: lines rest := by
  unfold lines
  rw [linesFrom_append [] rest oneLine.1, List.append_nil,
    ofReversed_reverse oneLine]

theorem readLine_append (noNewline : '\n' ∉ text) (rest : List Char) :
    readLine (text ++ '\n' :: rest) = (text ++ ['\n'], rest) := by
  induction text with
  | nil => rfl
  | cons char text ih =>
      rw [List.mem_cons, not_or] at noNewline
      rw [List.cons_append, readLine, if_neg (Ne.symm noNewline.1),
        ih noNewline.2]
      rfl

end Lines
