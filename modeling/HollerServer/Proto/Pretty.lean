import HollerServer.Proto.Text

/-!
# The pretty text of a JSON value

`serde_json::to_string_pretty`: every item and every field on a line of its own, two
blanks further in at each level.  Without the white space outside its strings it is
the compact text, so the reader of compact texts gives the value back.
-/

namespace HollerServer.Proto

open JsonText

namespace Value

/-- The beginning of a line at a level. -/
def indent (level : Nat) : List Char :=
  '\n' :: List.replicate (2 * level) ' '

mutual

def writePretty : Value → Nat → List Char
  | .array (item :: rest), level =>
      '[' ::
        (indent (level + 1) ++
          (item.writePretty (level + 1) ++ writePrettyItems rest level))
  | .object ((key, value) :: rest), level =>
      '\x7b' ::
        (indent (level + 1) ++
          (writeString key.toList ++
            ':' :: ' ' ::
              (value.writePretty (level + 1) ++
                writePrettyFields rest level)))
  | value, _ => value.write

/-- The items of an array behind the first one. -/
def writePrettyItems : List Value → Nat → List Char
  | [], level => indent level ++ [']']
  | item :: rest, level =>
      ',' ::
        (indent (level + 1) ++
          (item.writePretty (level + 1) ++ writePrettyItems rest level))

/-- The fields of an object behind the first one. -/
def writePrettyFields : List (String × Value) → Nat → List Char
  | [], level => indent level ++ ['\x7d']
  | (key, value) :: rest, level =>
      ',' ::
        (indent (level + 1) ++
          (writeString key.toList ++
            ':' :: ' ' ::
              (value.writePretty (level + 1) ++
                writePrettyFields rest level)))

end

/-- `serde_json::to_string_pretty` of a value. -/
def pretty (value : Value) : String :=
  String.ofList (value.writePretty 0)

example :
    (object [("a", array [int 1, array []]), ("b", string "x y")]).pretty =
      "\x7b\n  \"a\": [\n    1,\n    []\n  ],\n  \"b\": \"x y\"\n\x7d" := by
  decide +kernel

/-- Where in a JSON text a character stands. -/
inductive Place where
  | outside
  | inside
  | escaped

/-- A text without the white space outside its strings. -/
def unspaced : Place → List Char → List Char
  | _, [] => []
  | .outside, char :: rest =>
      if char = '\"' then char :: unspaced .inside rest
      else if isSpace char then unspaced .outside rest
      else char :: unspaced .outside rest
  | .inside, char :: rest =>
      if char = '\"' then char :: unspaced .outside rest
      else if char = '\\' then char :: unspaced .escaped rest
      else char :: unspaced .inside rest
  | .escaped, char :: rest => char :: unspaced .inside rest

/-- The value of a pretty text. -/
def ofPretty (text : String) : Option Value :=
  ofText (String.ofList (unspaced .outside text.toList))

section Unspaced

@[simp] theorem unspaced_indent (level : Nat) (rest : List Char) :
    unspaced .outside (indent level ++ rest) = unspaced .outside rest := by
  have blanks (count : Nat) :
      unspaced .outside (List.replicate count ' ' ++ rest) =
        unspaced .outside rest := by
    induction count with
    | zero => rfl
    | succ count inductionHypothesis =>
        rw [List.replicate_succ, List.cons_append]
        exact inductionHypothesis
  rw [indent, List.cons_append]
  exact blanks (2 * level)

/-- Characters that open no string and are no white space stay. -/
theorem unspaced_of_solid {chars : List Char}
    (solid : ∀ char ∈ chars, char ≠ '\"' ∧ isSpace char = false)
    (rest : List Char) :
    unspaced .outside (chars ++ rest) = chars ++ unspaced .outside rest := by
  induction chars with
  | nil => rfl
  | cons char chars inductionHypothesis =>
      obtain ⟨notQuote, notSpace⟩ := solid char List.mem_cons_self
      have later :=
        inductionHypothesis fun other member =>
          solid other (List.mem_cons_of_mem _ member)
      simp only [List.cons_append, unspaced, notQuote, notSpace, if_false,
        Bool.false_eq_true, later]

theorem inside_hexDigit {value : Nat} (small : value < 16) :
    hexDigit value ≠ '\"' ∧ hexDigit value ≠ '\\' := by
  revert value
  decide

theorem unspaced_escapeChar (char : Char) (rest : List Char) :
    unspaced .inside (escapeChar char ++ rest) =
      escapeChar char ++ unspaced .inside rest := by
  have written := escapedAs_escapeChar char
  generalize escapeChar char = letters at written ⊢
  cases written with
  | plain _ notQuote notBackslash =>
      simp only [List.cons_append, List.nil_append, unspaced, notQuote,
        notBackslash, if_false]
  | letter _ _ => rfl
  | code control =>
      obtain ⟨highQuote, highBackslash⟩ :=
        @inside_hexDigit (char.toNat / 16) (by omega)
      obtain ⟨lowQuote, lowBackslash⟩ :=
        @inside_hexDigit (char.toNat % 16) (by omega)
      simp [unspaced, highQuote, highBackslash, lowQuote, lowBackslash]

@[simp] theorem unspaced_writeString (chars rest : List Char) :
    unspaced .outside (writeString chars ++ rest) =
      writeString chars ++ unspaced .outside rest := by
  have escaped :
      unspaced .inside (escape chars ++ '\"' :: rest) =
        escape chars ++ '\"' :: unspaced .outside rest := by
    induction chars with
    | nil => rfl
    | cons char chars inductionHypothesis =>
        have split (behind : List Char) :
            escape (char :: chars) ++ behind =
              escapeChar char ++ (escape chars ++ behind) := by
          rw [escape, List.flatMap_cons, List.append_assoc]
          rfl
        rw [split, split, unspaced_escapeChar, inductionHypothesis]
  simp only [writeString, List.cons_append, List.append_assoc,
    List.nil_append, unspaced, if_true, escaped]

@[simp] theorem unspaced_writeInt (value : Int) (rest : List Char) :
    unspaced .outside (writeInt value ++ rest) =
      writeInt value ++ unspaced .outside rest := by
  refine unspaced_of_solid ?_ rest
  intro char member
  rcases sign_or_digit_of_mem_writeInt member with rfl | ⟨low, high⟩
  · decide
  · constructor
    · rintro rfl
      revert low
      decide
    · simp only [isSpace, Bool.or_eq_false_iff, decide_eq_false_iff_not]
      refine ⟨⟨⟨?_, ?_⟩, ?_⟩, ?_⟩ <;> rintro rfl <;> revert low <;> decide

end Unspaced

section Reading

variable {fits : Int → Bool}

mutual

/-- The pretty text of a value differs from the compact one by white space. -/
theorem unspaced_writePretty (value : Value) (level : Nat)
    (rest : List Char) (integral : value.isIntegral fits = true) :
    unspaced .outside (value.writePretty level ++ rest) =
      value.write ++ unspaced .outside rest := by
  cases value with
  | null => rfl
  | bool flag => cases flag <;> rfl
  | int value => exact unspaced_writeInt value rest
  | float literal => cases integral
  | string text => exact unspaced_writeString text.toList rest
  | array items =>
      cases items with
      | nil => rfl
      | cons item items =>
          obtain ⟨first, others⟩ := Bool.and_eq_true_iff.mp integral
          simp [writePretty, write, unspaced, isSpace,
            unspaced_writePretty item (level + 1) _ first,
            unspaced_writePrettyItems items level rest others]
  | object fields =>
      cases fields with
      | nil => rfl
      | cons field fields =>
          obtain ⟨key, value⟩ := field
          obtain ⟨first, others⟩ := Bool.and_eq_true_iff.mp integral
          simp [writePretty, write, unspaced, isSpace,
            unspaced_writePretty value (level + 1) _ first,
            unspaced_writePrettyFields fields level rest others]

theorem unspaced_writePrettyItems (items : List Value) (level : Nat)
    (rest : List Char) (integral : areIntegral fits items = true) :
    unspaced .outside (writePrettyItems items level ++ rest) =
      writeItems items ++ unspaced .outside rest := by
  cases items with
  | nil =>
      rw [writePrettyItems, List.append_assoc, unspaced_indent]
      rfl
  | cons item items =>
      obtain ⟨first, others⟩ := Bool.and_eq_true_iff.mp integral
      simp [writePrettyItems, writeItems, unspaced, isSpace,
        unspaced_writePretty item (level + 1) _ first,
        unspaced_writePrettyItems items level rest others]

theorem unspaced_writePrettyFields (fields : List (String × Value))
    (level : Nat) (rest : List Char)
    (integral : fieldsAreIntegral fits fields = true) :
    unspaced .outside (writePrettyFields fields level ++ rest) =
      writeFields fields ++ unspaced .outside rest := by
  cases fields with
  | nil =>
      rw [writePrettyFields, List.append_assoc, unspaced_indent]
      rfl
  | cons field fields =>
      obtain ⟨key, value⟩ := field
      obtain ⟨first, others⟩ := Bool.and_eq_true_iff.mp integral
      simp [writePrettyFields, writeFields, unspaced, isSpace,
        unspaced_writePretty value (level + 1) _ first,
        unspaced_writePrettyFields fields level rest others]

end

/-- A pretty text is read back. -/
theorem ofPretty_pretty {value : Value}
    (integral : value.isIntegral fits = true) :
    ofPretty value.pretty = some value := by
  have written : unspaced .outside value.pretty.toList = value.write := by
    have whole := unspaced_writePretty value 0 [] integral
    rw [List.append_nil] at whole
    rw [pretty, String.toList_ofList, whole]
    exact List.append_nil _
  have read := @ofText_compact fits value integral "" rfl
  rw [String.append_empty] at read
  rw [ofPretty, written]
  exact read

end Reading

end Value

end HollerServer.Proto
