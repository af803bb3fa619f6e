import HollerServer.Lib.Runs
import HollerServer.Lib.Slices

/-!
# Redaction of secret material

`redact_hlr_tokens` of `src/debug.rs`: a loop over the text that searches the next
`hlr_` and slices by byte positions.  `redactRound` is its body and `redactLoop` a
number of rounds; what is left after every round is shorter, so the loop ends.  The
loop covers exactly the runs of `secretPattern`.
-/

namespace HollerServer.Debug

open Text Runs

/-- A character a secret token may hold. -/
def isTokenChar (char : Char) : Bool :=
  char.isAlphanum || char = '-' || char = '_'

def hlrPrefix : List Char := ['h', 'l', 'r', '_']

def redactedText : List Char := "[redacted]".toList

/-- The body of the loop: what it pushes to the result and what is left of the
text, or nothing when no prefix is found. -/
def redactRound (rest : List Char) :
    Result Empty (Option (List Char × List Char)) :=
  match find hlrPrefix rest with
  | none => .ok none
  | some start => do
      let (before, _) ← splitAt rest start
      let (_, afterPrefix) ←
        splitAt rest (start + String.utf8Len hlrPrefix)
      let tokenLen :=
        (findChar (fun char => !isTokenChar char) afterPrefix).getD
          (String.utf8Len afterPrefix)
      let (_, after) ← splitAt afterPrefix tokenLen
      let pushed := if tokenLen = 0 then hlrPrefix else redactedText
      return some (before ++ pushed, after)

/-- The loop, for at most so many rounds. -/
def redactLoop :
    Nat → List Char → List Char → Option (Result Empty (List Char))
  | 0, _, _ => none
  | rounds + 1, result, rest =>
      match redactRound rest with
      | .ok none => some (.ok (result ++ rest))
      | .ok (some (pushed, after)) => redactLoop rounds (result ++ pushed) after
      | .err error => some (.err error)
      | .panicked => some .panicked

/-- `redact_hlr_tokens`; a text of so many characters takes no more rounds. -/
def redactHlrTokens (text : String) : Result Empty String := do
  let chars ← (redactLoop (text.length + 1) [] text.toList).getD .panicked
  return String.ofList chars

example :
    redactHlrTokens "connecting with token hlr_AbC123-xyz_789 now" =
      .ok "connecting with token [redacted] now" := by
  decide

/-- `hlr_` and the characters of the token after it, under `[redacted]`. -/
def secretPattern : Pattern Char where
  first := 'h'
  others := ['l', 'r', '_']
  member := isTokenChar
  opening := '['
  inner := "redacted".toList
  closing := ']'
  first_notMem := by decide
  mark_member := by
    intro item isMember
    simp only [List.mem_cons, List.not_mem_nil, or_false] at isMember
    rcases isMember with rfl | rfl | rfl | rfl <;> rfl
  opening_not_member := by decide
  closing_not_member := by decide
  first_notMem_inner := by decide

/-- The text without its secret material. -/
abbrev Redacted : List Char → List Char → Prop :=
  secretPattern.Covered

/-- The text holds `hlr_` followed by a token character. -/
def HoldsSecret (text : String) : Prop :=
  secretPattern.Occurs text.toList

theorem redactRound_eq_none
    {rest : List Char} (notFound : find hlrPrefix rest = none) :
    redactRound rest = .ok none ∧ ¬secretPattern.Occurs rest := by
  constructor
  · unfold redactRound
    rw [notFound]
  · rintro ⟨before, found, rfl, next, after, rfl, _⟩
    exact find_eq_none notFound before (next :: after) rfl

/-- A round that finds the prefix pushes what stands before it and the prefix or
the cover, without a panic, and leaves a shorter text. -/
theorem redactRound_eq_some
    {rest : List Char} {start : Nat}
    (found : find hlrPrefix rest = some start) :
    ∃ pushed after,
      redactRound rest = .ok (some (pushed, after)) ∧
        after.length < rest.length ∧
        ∀ out, Redacted after out → Redacted rest (pushed ++ out) := by
  obtain ⟨before, afterPrefix, rfl, rfl, earlier⟩ := find_eq_some found
  let run := afterPrefix.takeWhile isTokenChar
  let after := afterPrefix.dropWhile isTokenChar
  let pushed :=
    before ++
      if String.utf8Len run = 0 then hlrPrefix else redactedText
  have split : run ++ after = afterPrefix :=
    List.takeWhile_append_dropWhile
  have returned :
      redactRound (before ++ (hlrPrefix ++ afterPrefix)) =
        .ok (some (pushed, after)) := by
    have tokenLen :
        (findChar (fun char => !isTokenChar char) afterPrefix).getD
            (String.utf8Len afterPrefix) =
          String.utf8Len run := by
      rw [findChar_getD]
      simp only [Bool.not_not]
      rfl
    have cutPrefix :
        splitAt (before ++ (hlrPrefix ++ afterPrefix))
            (String.utf8Len before + String.utf8Len hlrPrefix) =
          (.ok (before ++ hlrPrefix, afterPrefix) : Result Empty _) := by
      rw [← List.append_assoc, ← String.utf8Len_append]
      exact splitAt_utf8Len _ _
    have cutRun :
        splitAt afterPrefix (String.utf8Len run) =
          (.ok (run, after) : Result Empty _) := by
      rw [← split]
      exact splitAt_utf8Len _ _
    unfold redactRound
    rw [found]
    simp only [splitAt_utf8Len, cutPrefix, Result.ok_bind, tokenLen, cutRun,
      Result.pure_eq_ok]
    rfl
  have shorter :
      after.length < (before ++ (hlrPrefix ++ afterPrefix)).length := by
    have suffix : after.length ≤ afterPrefix.length :=
      (List.dropWhile_suffix _).length_le
    simp only [List.length_append, hlrPrefix, List.length_cons]
    omega
  refine ⟨pushed, after, returned, shorter, ?_⟩
  intro out redacted
  have notStarts :
      ∀ left right, before = left ++ right → right ≠ [] →
        ¬secretPattern.Starts (right ++ (hlrPrefix ++ afterPrefix)) := by
    rintro left right same nonempty ⟨next, later, starts, _⟩
    exact earlier left right same nonempty ⟨next :: later, starts.symm⟩
  have ends : ∀ char ∈ after.head?, isTokenChar char = false := by
    intro char isHead
    have ends := List.head?_dropWhile_not isTokenChar afterPrefix
    rw [show (afterPrefix.dropWhile isTokenChar).head? = some char from isHead]
      at ends
    exact ends
  rw [List.append_assoc]
  refine Pattern.Covered.append_of_not_starts notStarts ?_
  by_cases bare : run = []
  · have same : afterPrefix = after := by
      rw [← split, bare, List.nil_append]
    rw [if_pos (String.utf8Len_eq_zero.mpr bare), same]
    exact Pattern.Covered.bare_mark ends redacted
  · have all : ∀ char ∈ run, isTokenChar char = true := by
      intro char inRun
      exact List.all_eq_true.mp List.all_takeWhile char inRun
    rw [if_neg (mt String.utf8Len_eq_zero.mp bare), ← split,
      ← List.append_assoc]
    exact Pattern.Covered.run bare all ends redacted

/-- The loop ends within as many rounds as the text has characters and one more,
and pushes the redacted text. -/
theorem redactLoop_eq_some
    {rounds : Nat} {rest : List Char} (enough : rest.length < rounds)
    (result : List Char) :
    ∃ out,
      redactLoop rounds result rest = some (.ok (result ++ out)) ∧
        Redacted rest out := by
  induction rounds generalizing result rest with
  | zero => omega
  | succ rounds inductionHypothesis =>
      unfold redactLoop
      cases found : find hlrPrefix rest with
      | none =>
          obtain ⟨returned, clean⟩ := redactRound_eq_none found
          rw [returned]
          exact ⟨rest, rfl, Pattern.Covered.of_clean clean⟩
      | some start =>
          obtain ⟨pushed, after, returned, shorter, onward⟩ :=
            redactRound_eq_some found
          have enoughAfter : after.length < rounds := by omega
          obtain ⟨out, loops, redacted⟩ :=
            inductionHypothesis enoughAfter (result ++ pushed)
          rw [returned]
          refine ⟨pushed ++ out, ?_, onward out redacted⟩
          rw [← List.append_assoc]
          exact loops

/-- What `redact_hlr_tokens` returns. -/
def redacted (text : String) : String :=
  match redactHlrTokens text with
  | .ok out => out
  | _ => text

theorem redacted_spec (text : String) :
    redactHlrTokens text = .ok (redacted text) ∧
      Redacted text.toList (redacted text).toList := by
  have enough : text.toList.length < text.length + 1 := by
    rw [String.length_toList]
    omega
  obtain ⟨out, loops, covered⟩ := redactLoop_eq_some enough []
  have returned : redactHlrTokens text = .ok (String.ofList out) := by
    unfold redactHlrTokens
    rw [loops]
    rfl
  have value : redacted text = String.ofList out := by
    unfold redacted
    rw [returned]
  rw [value, String.toList_ofList]
  exact ⟨returned, covered⟩

theorem redactLoop_eq_redacted
    {text : String} {rounds : Nat} (enough : text.length < rounds) :
    redactLoop rounds [] text.toList = some (.ok (redacted text).toList) := by
  rw [← String.length_toList] at enough
  obtain ⟨out, loops, covered⟩ := redactLoop_eq_some enough []
  rw [loops, covered.unique (redacted_spec text).2]
  rfl

theorem not_holdsSecret_redacted (text : String) :
    ¬HoldsSecret (redacted text) :=
  (redacted_spec text).2.clean

theorem redacted_eq_self
    {text : String} (clean : ¬HoldsSecret text) :
    redacted text = text := by
  refine String.toList_inj.mp ?_
  exact (Pattern.Covered.of_clean clean).unique (redacted_spec text).2

/-- The loop ends and covers, from the left, each longest run of `hlr_` and token
characters and nothing else; it leaves no such run, leaves a text without one as
it is, and has nothing to do a second time.  No slice panics. -/
theorem redact_hlr_tokens_leftmost_maximal (text : String) :
    ∃ out,
      (∀ rounds, text.length < rounds →
          redactLoop rounds [] text.toList = some (.ok out.toList)) ∧
        redactHlrTokens text = .ok out ∧
        Redacted text.toList out.toList ∧
        (∀ other, Redacted text.toList other → other = out.toList) ∧
        ¬HoldsSecret out ∧
        (¬HoldsSecret text → out = text) ∧
        redactHlrTokens out = .ok out := by
  obtain ⟨returned, covered⟩ := redacted_spec text
  have again : redactHlrTokens (redacted text) = .ok (redacted text) := by
    have same := redacted_eq_self (not_holdsSecret_redacted text)
    rw [(redacted_spec (redacted text)).1, same]
  exact ⟨redacted text, fun _ enough => redactLoop_eq_redacted enough,
    returned, covered, fun _ other => covered.unique other,
    not_holdsSecret_redacted text, redacted_eq_self, again⟩

end HollerServer.Debug
