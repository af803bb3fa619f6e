import HollerServer.Debug.Redact
import HollerServer.Proto.Text

/-!
# Redaction of JSON texts

The redactor knows nothing of JSON.  In a compact text the quotes, the structural
characters and the backslash are no token characters, and what follows a backslash
or stands outside the strings does not hold an `h`; so a run never starts, ends or
reaches across an escape, and redacting the text of a value redacts its strings and
keys.
-/

namespace HollerServer.Proto.Value

section Texts

variable (change : String → String)

mutual

/-- The value with every string and every key changed. -/
def mapText : Value → Value
  | .null => .null
  | .bool value => .bool value
  | .int value => .int value
  | .float literal => .float literal
  | .string value => .string (change value)
  | .array items => .array (mapItemsText items)
  | .object fields => .object (mapFieldsText fields)

def mapItemsText : List Value → List Value
  | [] => []
  | item :: rest => item.mapText :: mapItemsText rest

def mapFieldsText : List (String × Value) → List (String × Value)
  | [] => []
  | (key, value) :: rest => (change key, value.mapText) :: mapFieldsText rest

end

mutual

/-- The value with every number literal of a double changed. -/
def mapDoubles : Value → Value
  | .null => .null
  | .bool value => .bool value
  | .int value => .int value
  | .float literal => .float (change literal)
  | .string value => .string value
  | .array items => .array (mapItemsDoubles items)
  | .object fields => .object (mapFieldsDoubles fields)

def mapItemsDoubles : List Value → List Value
  | [] => []
  | item :: rest => item.mapDoubles :: mapItemsDoubles rest

def mapFieldsDoubles : List (String × Value) → List (String × Value)
  | [] => []
  | (key, value) :: rest => (key, value.mapDoubles) :: mapFieldsDoubles rest

end

mutual

/-- The strings and keys of a value. -/
def texts : Value → List String
  | .null | .bool _ | .int _ | .float _ => []
  | .string value => [value]
  | .array items => itemsTexts items
  | .object fields => fieldsTexts fields

def itemsTexts : List Value → List String
  | [] => []
  | item :: rest => item.texts ++ itemsTexts rest

def fieldsTexts : List (String × Value) → List String
  | [] => []
  | (key, value) :: rest => key :: (value.texts ++ fieldsTexts rest)

end

end Texts

section Changed

variable {change : String → String}

mutual

theorem texts_mapText (value : Value) :
    (value.mapText change).texts = value.texts.map change := by
  match value with
  | .null | .bool _ | .int _ | .float _ | .string _ => rfl
  | .array items => exact itemsTexts_mapItemsText items
  | .object fields => exact fieldsTexts_mapFieldsText fields

theorem itemsTexts_mapItemsText (items : List Value) :
    itemsTexts (mapItemsText change items) =
      (itemsTexts items).map change := by
  match items with
  | [] => rfl
  | item :: rest =>
      simp only [mapItemsText, itemsTexts, List.map_append,
        texts_mapText item, itemsTexts_mapItemsText rest]

theorem fieldsTexts_mapFieldsText (fields : List (String × Value)) :
    fieldsTexts (mapFieldsText change fields) =
      (fieldsTexts fields).map change := by
  match fields with
  | [] => rfl
  | (key, value) :: rest =>
      simp only [mapFieldsText, fieldsTexts, List.map_cons, List.map_append,
        texts_mapText value, fieldsTexts_mapFieldsText rest]

end

mutual

theorem depth_mapText (value : Value) :
    (value.mapText change).depth = value.depth := by
  match value with
  | .null | .bool _ | .int _ | .float _ | .string _ => rfl
  | .array items =>
      simp only [mapText, depth, itemsDepth_mapItemsText items]
  | .object fields =>
      simp only [mapText, depth, fieldsDepth_mapFieldsText fields]

theorem itemsDepth_mapItemsText (items : List Value) :
    itemsDepth (mapItemsText change items) = itemsDepth items := by
  match items with
  | [] => rfl
  | item :: rest =>
      simp only [mapItemsText, itemsDepth, depth_mapText item,
        itemsDepth_mapItemsText rest]

theorem fieldsDepth_mapFieldsText (fields : List (String × Value)) :
    fieldsDepth (mapFieldsText change fields) = fieldsDepth fields := by
  match fields with
  | [] => rfl
  | (_, value) :: rest =>
      simp only [mapFieldsText, fieldsDepth, depth_mapText value,
        fieldsDepth_mapFieldsText rest]

end

variable {fits : Int → Bool} {isDouble : String → Bool}

mutual

theorem hasNumbers_mapText (value : Value) :
    (value.mapText change).hasNumbers fits isDouble =
      value.hasNumbers fits isDouble := by
  match value with
  | .null | .bool _ | .int _ | .float _ | .string _ => rfl
  | .array items => exact itemsHaveNumbers_mapItemsText items
  | .object fields => exact fieldsHaveNumbers_mapFieldsText fields

theorem itemsHaveNumbers_mapItemsText (items : List Value) :
    itemsHaveNumbers fits isDouble (mapItemsText change items) =
      itemsHaveNumbers fits isDouble items := by
  match items with
  | [] => rfl
  | item :: rest =>
      simp only [mapItemsText, itemsHaveNumbers, hasNumbers_mapText item,
        itemsHaveNumbers_mapItemsText rest]

theorem fieldsHaveNumbers_mapFieldsText (fields : List (String × Value)) :
    fieldsHaveNumbers fits isDouble (mapFieldsText change fields) =
      fieldsHaveNumbers fits isDouble fields := by
  match fields with
  | [] => rfl
  | (_, value) :: rest =>
      simp only [mapFieldsText, fieldsHaveNumbers, hasNumbers_mapText value,
        fieldsHaveNumbers_mapFieldsText rest]

end

mutual

theorem mapDoubles_of_isIntegral (value : Value)
    (integral : value.isIntegral fits = true) :
    value.mapDoubles change = value := by
  match value with
  | .null | .bool _ | .int _ | .string _ => rfl
  | .float _ => cases integral
  | .array items =>
      rw [mapDoubles, mapItemsDoubles_of_areIntegral items integral]
  | .object fields =>
      rw [mapDoubles, mapFieldsDoubles_of_fieldsAreIntegral fields integral]

theorem mapItemsDoubles_of_areIntegral (items : List Value)
    (integral : areIntegral fits items = true) :
    mapItemsDoubles change items = items := by
  match items with
  | [] => rfl
  | item :: rest =>
      simp only [areIntegral, Bool.and_eq_true] at integral
      simp only [mapItemsDoubles, mapDoubles_of_isIntegral item integral.1,
        mapItemsDoubles_of_areIntegral rest integral.2]

theorem mapFieldsDoubles_of_fieldsAreIntegral
    (fields : List (String × Value))
    (integral : fieldsAreIntegral fits fields = true) :
    mapFieldsDoubles change fields = fields := by
  match fields with
  | [] => rfl
  | (_, value) :: rest =>
      simp only [fieldsAreIntegral, Bool.and_eq_true] at integral
      simp only [mapFieldsDoubles, mapDoubles_of_isIntegral value integral.1,
        mapFieldsDoubles_of_fieldsAreIntegral rest integral.2]

end

end Changed

end HollerServer.Proto.Value

namespace HollerServer.Debug

open Runs HollerServer.Proto JsonText

section Escapes

theorem code_of_isTokenChar
    {char : Char} (token : isTokenChar char = true) :
    45 ≤ char.toNat ∧ char.toNat ≠ 92 := by
  delta isTokenChar Char.isAlphanum Char.isAlpha Char.isUpper Char.isLower
    Char.isDigit at token
  simp only [Bool.or_eq_true, Bool.and_eq_true, decide_eq_true_eq, ge_iff_le,
    UInt32.le_iff_toNat_le] at token
  rcases token with ((((⟨low, high⟩ | ⟨low, high⟩) | ⟨low, high⟩) | rfl) | rfl)
  · exact ⟨le_trans (by decide) low, (lt_of_le_of_lt high (by decide)).ne⟩
  · exact ⟨le_trans (by decide) low, (lt_of_lt_of_le (by decide) low).ne'⟩
  · exact ⟨le_trans (by decide) low, (lt_of_le_of_lt high (by decide)).ne⟩
  · decide
  · decide

/-- A character is written as it is, or as a backslash and letters other than
`h`. -/
theorem escapeChar_cases (char : Char) :
    escapeChar char = [char] ∨
      ∃ letters, escapeChar char = '\\' :: letters ∧ 'h' ∉ letters := by
  have digits : ∀ value : Fin 16, hexDigit value ≠ 'h' := by decide
  have digit (value : Nat) (small : value < 16) : 'h' ≠ hexDigit value :=
    (digits ⟨value, small⟩).symm
  have escaped := escapedAs_escapeChar char
  generalize escapeChar char = written at escaped ⊢
  cases escaped with
  | plain _ _ _ => exact .inl rfl
  | letter listed _ =>
      refine .inr ⟨_, rfl, ?_⟩
      intro isLetter
      cases List.mem_singleton.mp isLetter
      revert listed
      decide
  | code control =>
      refine .inr ⟨_, rfl, ?_⟩
      simp [digit (char.toNat / 16) (by omega),
        digit (char.toNat % 16) (by omega)]

/-- A token character is written as it is. -/
theorem escapeChar_of_isTokenChar
    {char : Char} (token : isTokenChar char = true) :
    escapeChar char = [char] := by
  obtain ⟨visible, notBackslash⟩ := code_of_isTokenChar token
  have other (mark : Char) (apart : mark.toNat < 45 ∨ mark.toNat = 92) :
      char ≠ mark := by
    rintro rfl
    omega
  unfold escapeChar
  rw [if_neg (other '\"' (by decide)), if_neg (other '\\' (by decide)),
    if_neg (other '\n' (by decide)), if_neg (other '\r' (by decide)),
    if_neg (other '\t' (by decide)), if_neg (by omega), if_neg (by omega),
    if_neg (by omega)]

theorem escape_of_isTokenChar
    {chars : List Char} (all : ∀ char ∈ chars, isTokenChar char = true) :
    escape chars = chars := by
  induction chars with
  | nil => rfl
  | cons char chars inductionHypothesis =>
      have rest := inductionHypothesis
        (fun other isMember => all other (List.mem_cons_of_mem _ isMember))
      unfold escape at rest ⊢
      rw [List.flatMap_cons, rest,
        escapeChar_of_isTokenChar (all char List.mem_cons_self)]
      rfl

theorem escape_append (left right : List Char) :
    escape (left ++ right) = escape left ++ escape right :=
  List.flatMap_append

/-- Token characters in front of a written string are in front of the string. -/
theorem front_of_front_escape
    {tokens chars : List Char}
    (all : ∀ char ∈ tokens, isTokenChar char = true)
    (front : tokens <+: escape chars) :
    tokens <+: chars := by
  induction chars generalizing tokens with
  | nil => exact front
  | cons char chars inductionHypothesis =>
      cases tokens with
      | nil => exact List.nil_prefix
      | cons token tokens =>
          have isToken := all token List.mem_cons_self
          unfold escape at front
          rw [List.flatMap_cons] at front
          rcases escapeChar_cases char with plain | ⟨letters, escaped, _⟩
          · rw [plain, List.cons_append, List.cons_prefix_cons] at front
            rw [List.cons_prefix_cons]
            refine ⟨front.1, inductionHypothesis ?_ front.2⟩
            intro other isMember
            exact all other (List.mem_cons_of_mem _ isMember)
          · rw [escaped, List.cons_append, List.cons_prefix_cons] at front
            rw [front.1] at isToken
            cases isToken

/-- What is written of a string ends a run where the string does. -/
theorem ends_escape
    {chars : List Char}
    (ends : ∀ char ∈ chars.head?, isTokenChar char = false) :
    ∀ char ∈ (escape chars).head?, isTokenChar char = false := by
  cases chars with
  | nil => exact ends
  | cons first chars =>
      intro char isHead
      unfold escape at isHead
      rw [List.flatMap_cons] at isHead
      rcases escapeChar_cases first with plain | ⟨letters, escaped, _⟩
      · rw [plain] at isHead
        cases isHead
        exact ends first rfl
      · rw [escaped] at isHead
        cases isHead
        rfl

/-- A written string is redacted as the string is. -/
theorem redacted_escape
    {chars out : List Char} (covered : Redacted chars out) :
    Redacted (escape chars) (escape out) := by
  induction covered with
  | nil => exact .nil
  | @keep char rest out notStarts covered inductionHypothesis =>
      have written (tail : List Char) :
          escape (char :: tail) = escapeChar char ++ escape tail :=
        List.flatMap_cons
      by_cases isFirst : char = 'h'
      · subst isFirst
        rw [written, written]
        refine .keep ?_ inductionHypothesis
        intro starts
        obtain ⟨next, inside, front⟩ := Pattern.starts_iff_front.mp starts
        have before : secretPattern.mark ++ [next] <+: 'h' :: rest :=
          front_of_front_escape (Pattern.mark_append_member inside) front
        exact notStarts (Pattern.starts_iff_front.mpr ⟨next, inside, before⟩)
      · have absent : 'h' ∉ escapeChar char := by
          rcases escapeChar_cases char with plain | ⟨letters, escaped, none⟩
          · simp [plain, Ne.symm isFirst]
          · simp [escaped, none]
        rw [written, written]
        exact inductionHypothesis.append_of_notMem absent
  | @run run rest out nonempty all ends _ inductionHypothesis =>
      have marked :
          ∀ char ∈ secretPattern.mark ++ run, isTokenChar char = true := by
        intro char isMember
        rcases List.mem_append.mp isMember with inMark | inRun
        · exact secretPattern.mark_member char inMark
        · exact all char inRun
      have covers : escape secretPattern.cover = secretPattern.cover := by
        decide
      rw [escape_append, escape_append secretPattern.cover,
        escape_of_isTokenChar marked, covers]
      exact .run nonempty all (ends_escape ends) inductionHypothesis

end Escapes

theorem redacted_writeString
    {chars out : List Char} (covered : Redacted chars out) :
    Redacted (writeString chars) (writeString out) :=
  .cons_outside rfl (.append_cons rfl (redacted_escape covered) .nil)

/-- A text without an `h` is left as it is. -/
theorem redacted_of_notMem
    {chars : List Char} (absent : 'h' ∉ chars) :
    Redacted chars chars := by
  have covered : Redacted (chars ++ []) (chars ++ []) :=
    Pattern.Covered.nil.append_of_notMem absent
  rwa [List.append_nil] at covered

section Values

theorem notMem_writeInt (value : Int) : 'h' ∉ writeInt value := by
  have digits : 'h' ∉ Nat.toDigits 10 value.natAbs := by
    intro isMember
    have digit : Char.isDigit 'h' = true :=
      Nat.isDigit_of_mem_toDigits (by decide) (by decide) isMember
    cases digit
  unfold writeInt
  split
  · simp [digits]
  · exact digits

theorem notMem_number
    {literal : String}
    (number : ∀ char ∈ literal.toList, Value.isNumberChar char = true) :
    'h' ∉ literal.toList := by
  intro isMember
  have impossible := number 'h' isMember
  cases impossible

theorem ends_writeItems (items : List Value) :
    ∀ char ∈ (Value.writeItems items).head?, isTokenChar char = false := by
  cases items
  all_goals
    intro char isHead
    cases isHead
    rfl

theorem ends_writeFields (fields : List (String × Value)) :
    ∀ char ∈ (Value.writeFields fields).head?, isTokenChar char = false := by
  cases fields
  all_goals
    intro char isHead
    cases isHead
    rfl

variable {fits : Int → Bool} {isDouble : String → Bool}

mutual

/-- The text of a value is redacted as its strings and keys are. -/
theorem redacted_write
    (doubles : Value.AreNumbers isDouble)
    (value : Value) (numbers : value.hasNumbers fits isDouble = true) :
    Redacted value.write (value.mapText redacted).write := by
  match value with
  | .null => exact redacted_of_notMem (by decide)
  | .bool true => exact redacted_of_notMem (by decide)
  | .bool false => exact redacted_of_notMem (by decide)
  | .int value => exact redacted_of_notMem (notMem_writeInt value)
  | .float literal =>
      exact redacted_of_notMem (notMem_number (doubles literal numbers))
  | .string value => exact redacted_writeString (redacted_spec value).2
  | .array [] => exact redacted_of_notMem (by decide)
  | .array (item :: items) =>
      simp only [Value.hasNumbers, Value.itemsHaveNumbers,
        Bool.and_eq_true] at numbers
      simp only [Value.mapText, Value.mapItemsText, Value.write]
      apply Pattern.Covered.cons_outside rfl
      apply Pattern.Covered.append_of_ends (ends_writeItems items)
      · exact redacted_write doubles item numbers.1
      · exact redacted_writeItems doubles items numbers.2
  | .object [] => exact redacted_of_notMem (by decide)
  | .object ((key, value) :: fields) =>
      simp only [Value.hasNumbers, Value.fieldsHaveNumbers,
        Bool.and_eq_true] at numbers
      simp only [Value.mapText, Value.mapFieldsText, Value.write]
      apply Pattern.Covered.cons_outside rfl
      apply Pattern.Covered.append_cons rfl
      · exact redacted_writeString (redacted_spec key).2
      apply Pattern.Covered.append_of_ends (ends_writeFields fields)
      · exact redacted_write doubles value numbers.1
      · exact redacted_writeFields doubles fields numbers.2

theorem redacted_writeItems
    (doubles : Value.AreNumbers isDouble)
    (items : List Value)
    (numbers : Value.itemsHaveNumbers fits isDouble items = true) :
    Redacted (Value.writeItems items)
      (Value.writeItems (Value.mapItemsText redacted items)) := by
  match items with
  | [] => exact redacted_of_notMem (by decide)
  | item :: items =>
      simp only [Value.itemsHaveNumbers, Bool.and_eq_true] at numbers
      simp only [Value.mapItemsText, Value.writeItems]
      apply Pattern.Covered.cons_outside rfl
      apply Pattern.Covered.append_of_ends (ends_writeItems items)
      · exact redacted_write doubles item numbers.1
      · exact redacted_writeItems doubles items numbers.2

theorem redacted_writeFields
    (doubles : Value.AreNumbers isDouble)
    (fields : List (String × Value))
    (numbers : Value.fieldsHaveNumbers fits isDouble fields = true) :
    Redacted (Value.writeFields fields)
      (Value.writeFields (Value.mapFieldsText redacted fields)) := by
  match fields with
  | [] => exact redacted_of_notMem (by decide)
  | (key, value) :: fields =>
      simp only [Value.fieldsHaveNumbers, Bool.and_eq_true] at numbers
      simp only [Value.mapFieldsText, Value.writeFields]
      apply Pattern.Covered.cons_outside rfl
      apply Pattern.Covered.append_cons rfl
      · exact redacted_writeString (redacted_spec key).2
      apply Pattern.Covered.append_of_ends (ends_writeFields fields)
      · exact redacted_write doubles value numbers.1
      · exact redacted_writeFields doubles fields numbers.2

end

end Values

end HollerServer.Debug
