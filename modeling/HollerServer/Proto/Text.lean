import HollerServer.Lib.JsonText
import HollerServer.Lib.Lines
import HollerServer.Lib.Text
import HollerServer.Proto

/-!
# The text of a JSON value

`serde_json::to_string`: the compact text of a value, with its keys in the order
they have.  A reader for such texts gives the value back; it stands for
`serde_json::from_str` where a concrete one is wanted.
-/

namespace HollerServer.Proto

open JsonText

namespace Value

mutual

/-- The compact text of a value. -/
def write : Value → List Char
  | .null => ['n', 'u', 'l', 'l']
  | .bool true => ['t', 'r', 'u', 'e']
  | .bool false => ['f', 'a', 'l', 's', 'e']
  | .int value => writeInt value
  | .float literal => literal.toList
  | .string value => writeString value.toList
  | .array [] => ['[', ']']
  | .array (item :: rest) => '[' :: (item.write ++ writeItems rest)
  | .object [] => ['\x7b', '\x7d']
  | .object ((key, value) :: rest) =>
      '\x7b' ::
        (writeString key.toList ++ ':' :: (value.write ++ writeFields rest))

/-- The items of an array behind the first one. -/
def writeItems : List Value → List Char
  | [] => [']']
  | item :: rest => ',' :: (item.write ++ writeItems rest)

/-- The fields of an object behind the first one. -/
def writeFields : List (String × Value) → List Char
  | [] => ['\x7d']
  | (key, value) :: rest =>
      ',' ::
        (writeString key.toList ++ ':' :: (value.write ++ writeFields rest))

end

/-- `serde_json::to_string` of a value. -/
def compact (value : Value) : String :=
  String.ofList value.write

mutual

/-- How deep the arrays and objects of a value nest. -/
def depth : Value → Nat
  | .null | .bool _ | .int _ | .float _ | .string _ => 0
  | .array items => itemsDepth items + 1
  | .object fields => fieldsDepth fields + 1

def itemsDepth : List Value → Nat
  | [] => 0
  | item :: rest => max item.depth (itemsDepth rest)

def fieldsDepth : List (String × Value) → Nat
  | [] => 0
  | (_, value) :: rest => max value.depth (fieldsDepth rest)

end

theorem itemsDepth_le_iff {items : List Value} {bound : Nat} :
    itemsDepth items ≤ bound ↔ ∀ item ∈ items, item.depth ≤ bound := by
  induction items with
  | nil => simp [itemsDepth]
  | cons item rest inductionHypothesis =>
      rw [itemsDepth, Nat.max_le, inductionHypothesis, List.forall_mem_cons]

theorem fieldsDepth_le_iff
    {fields : List (String × Value)} {bound : Nat} :
    fieldsDepth fields ≤ bound ↔
      ∀ field ∈ fields, field.2.depth ≤ bound := by
  induction fields with
  | nil => simp [fieldsDepth]
  | cons field rest inductionHypothesis =>
      rw [fieldsDepth, Nat.max_le, inductionHypothesis, List.forall_mem_cons]

section Integral

variable (fits : Int → Bool)

mutual

/-- Every number of the value is an integer, and one that fits. -/
def isIntegral : Value → Bool
  | .int value => fits value
  | .float _ => false
  | .array items => areIntegral items
  | .object fields => fieldsAreIntegral fields
  | .null | .bool _ | .string _ => true

def areIntegral : List Value → Bool
  | [] => true
  | item :: rest => item.isIntegral && areIntegral rest

def fieldsAreIntegral : List (String × Value) → Bool
  | [] => true
  | (_, value) :: rest => value.isIntegral && fieldsAreIntegral rest

end

end Integral

section Numbers

variable (fits : Int → Bool) (isDouble : String → Bool)

mutual

/-- Every number of the value is an integer that fits or a double. -/
def hasNumbers : Value → Bool
  | .int value => fits value
  | .float literal => isDouble literal
  | .array items => itemsHaveNumbers items
  | .object fields => fieldsHaveNumbers fields
  | .null | .bool _ | .string _ => true

def itemsHaveNumbers : List Value → Bool
  | [] => true
  | item :: rest => item.hasNumbers && itemsHaveNumbers rest

def fieldsHaveNumbers : List (String × Value) → Bool
  | [] => true
  | (_, value) :: rest => value.hasNumbers && fieldsHaveNumbers rest

end

end Numbers

/-- The characters of a number literal. -/
def isNumberChar (char : Char) : Bool :=
  char.isDigit || char = '-' || char = '+' || char = '.' || char = 'e' ||
    char = 'E'

/-- The literals have the characters of numbers. -/
def AreNumbers (isDouble : String → Bool) : Prop :=
  ∀ literal, isDouble literal = true →
    ∀ char ∈ literal.toList, isNumberChar char = true

mutual

/-- The value in front of a compact text, and the text behind it. -/
def read : Nat → List Char → Option (Value × List Char)
  | 0, _ => none
  | fuel + 1, chars =>
      match chars with
      | [] => none
      | char :: rest =>
          if char = 'n' then
            match rest with
            | 'u' :: 'l' :: 'l' :: rest => some (.null, rest)
            | _ => none
          else if char = 't' then
            match rest with
            | 'r' :: 'u' :: 'e' :: rest => some (.bool true, rest)
            | _ => none
          else if char = 'f' then
            match rest with
            | 'a' :: 'l' :: 's' :: 'e' :: rest => some (.bool false, rest)
            | _ => none
          else if char = '\"' then
            (JsonText.readString rest).map fun text =>
              (.string (String.ofList text.1), text.2)
          else if char = '[' then
            match rest with
            | ']' :: rest => some (.array [], rest)
            | rest => do
                let (item, rest) ← read fuel rest
                let (items, rest) ← readItems fuel rest
                some (.array (item :: items), rest)
          else if char = '\x7b' then
            match rest with
            | '\x7d' :: rest => some (.object [], rest)
            | rest => do
                let (field, rest) ← readField fuel rest
                let (fields, rest) ← readFields fuel rest
                some (.object (field :: fields), rest)
          else
            (readInt (char :: rest)).map fun number =>
              (.int number.1, number.2)

/-- The items up to the end of an array. -/
def readItems : Nat → List Char → Option (List Value × List Char)
  | 0, _ => none
  | fuel + 1, chars =>
      match chars with
      | ']' :: rest => some ([], rest)
      | ',' :: rest => do
          let (item, rest) ← read fuel rest
          let (items, rest) ← readItems fuel rest
          some (item :: items, rest)
      | _ => none

/-- One key and its value. -/
def readField : Nat → List Char → Option ((String × Value) × List Char)
  | 0, _ => none
  | fuel + 1, chars =>
      match chars with
      | '\"' :: rest => do
          let (key, rest) ← JsonText.readString rest
          match rest with
          | ':' :: rest => do
              let (value, rest) ← read fuel rest
              some ((String.ofList key, value), rest)
          | _ => none
      | _ => none

/-- The fields up to the end of an object. -/
def readFields : Nat → List Char → Option (List (String × Value) × List Char)
  | 0, _ => none
  | fuel + 1, chars =>
      match chars with
      | '\x7d' :: rest => some ([], rest)
      | ',' :: rest => do
          let (field, rest) ← readField fuel rest
          let (fields, rest) ← readFields fuel rest
          some (field :: fields, rest)
      | _ => none

end

variable {fits : Int → Bool}

section Weaken

variable {weaker : Int → Bool}

mutual

theorem isIntegral_weaken
    (implied : ∀ value, fits value = true → weaker value = true)
    (value : Value) (integral : value.isIntegral fits = true) :
    value.isIntegral weaker = true := by
  match value with
  | .null | .bool _ | .string _ => rfl
  | .int value => exact implied value integral
  | .float _ => cases integral
  | .array items => exact areIntegral_weaken implied items integral
  | .object fields =>
      exact fieldsAreIntegral_weaken implied fields integral

theorem areIntegral_weaken
    (implied : ∀ value, fits value = true → weaker value = true)
    (items : List Value) (integral : areIntegral fits items = true) :
    areIntegral weaker items = true := by
  match items with
  | [] => rfl
  | item :: rest =>
      simp only [areIntegral, Bool.and_eq_true] at integral ⊢
      exact ⟨isIntegral_weaken implied item integral.1,
        areIntegral_weaken implied rest integral.2⟩

theorem fieldsAreIntegral_weaken
    (implied : ∀ value, fits value = true → weaker value = true)
    (fields : List (String × Value))
    (integral : fieldsAreIntegral fits fields = true) :
    fieldsAreIntegral weaker fields = true := by
  match fields with
  | [] => rfl
  | (_, value) :: rest =>
      simp only [fieldsAreIntegral, Bool.and_eq_true] at integral ⊢
      exact ⟨isIntegral_weaken implied value integral.1,
        fieldsAreIntegral_weaken implied rest integral.2⟩

end

end Weaken

theorem stops_of_head {char : Char} {rest : List Char}
    (other : char.isDigit = false) : Stops (char :: rest) := by
  intro first same
  cases same
  exact other

theorem stops_writeItems (items : List Value) (rest : List Char) :
    Stops (writeItems items ++ rest) := by
  cases items <;> exact stops_of_head rfl

theorem stops_writeFields
    (fields : List (String × Value)) (rest : List Char) :
    Stops (writeFields fields ++ rest) := by
  cases fields <;> exact stops_of_head rfl

/-- A text begins with a visible character that closes no array. -/
theorem head_write (value : Value) (integral : value.isIntegral fits = true) :
    ∃ char rest,
      value.write = char :: rest ∧ char ≠ ']' ∧
        32 < char.toNat ∧ char.toNat < 127 := by
  cases value with
  | int value =>
      obtain ⟨char, rest, written, first⟩ := head_writeInt value
      refine ⟨char, rest, written, ?_⟩
      rcases first with rfl | digit
      · decide
      · have bounds : 48 ≤ char.toNat ∧ char.toNat ≤ 57 := bounds_of_isDigit digit
        refine ⟨?_, by omega, by omega⟩
        rintro rfl
        cases digit
  | float literal => cases integral
  | null => exact ⟨_, _, rfl, by decide⟩
  | bool value => cases value <;> exact ⟨_, _, rfl, by decide⟩
  | string value => exact ⟨_, _, rfl, by decide⟩
  | array items => cases items <;> exact ⟨_, _, rfl, by decide⟩
  | object fields => cases fields <;> exact ⟨_, _, rfl, by decide⟩

theorem read_writeInt (value : Int) {rest : List Char} (fuel : Nat)
    (stops : Stops rest) :
    read (fuel + 1) (writeInt value ++ rest) =
      some (.int value, rest) := by
  obtain ⟨char, tail, written, first⟩ := head_writeInt value
  have back := readInt_writeInt value stops
  rw [written, List.cons_append] at back ⊢
  have other (mark : Char)
      (apart : mark ≠ '-' ∧ mark.isDigit = false) : char ≠ mark := by
    rintro rfl
    rcases first with first | first
    · exact apart.1 first
    · rw [apart.2] at first
      cases first
  rw [read.eq_def]
  simp only [other 'n' (by decide), if_false,
    other 't' (by decide), other 'f' (by decide),
    other '\"' (by decide), other '[' (by decide),
    other '\x7b' (by decide), back, Option.map_some]

theorem read_array
    (behind : List Char) {fuel : Nat} {chars rest : List Char} {item : Value}
    {items : List Value}
    (filled : ∃ char tail, chars = char :: tail ∧ char ≠ ']')
    (first : read fuel chars = some (item, behind))
    (others : readItems fuel behind = some (items, rest)) :
    read (fuel + 1) ('[' :: chars) =
      some (.array (item :: items), rest) := by
  obtain ⟨char, tail, rfl, other⟩ := filled
  rw [read.eq_def]
  simp [other, first, others]

theorem readItems_cons
    {fuel : Nat} {chars behind rest : List Char} {item : Value}
    {items : List Value}
    (first : read fuel chars = some (item, behind))
    (others : readItems fuel behind = some (items, rest)) :
    readItems (fuel + 1) (',' :: chars) = some (item :: items, rest) := by
  rw [readItems.eq_def]
  simp [first, others]

theorem readField_writeString
    {fuel : Nat} {chars rest : List Char} {key : String} {value : Value}
    (inner : read fuel chars = some (value, rest)) :
    readField (fuel + 1) (writeString key.toList ++ ':' :: chars) =
      some ((key, value), rest) := by
  rw [readField.eq_def]
  simp [writeString, readString_escape_append, inner]

theorem read_object
    (behind : List Char) {fuel : Nat} {chars rest : List Char} {key : String}
    {value : Value} {fields : List (String × Value)}
    (first :
      readField fuel (writeString key.toList ++ chars) =
        some ((key, value), behind))
    (others : readFields fuel behind = some (fields, rest)) :
    read (fuel + 1) ('\x7b' :: (writeString key.toList ++ chars)) =
      some (.object ((key, value) :: fields), rest) := by
  simp only [writeString, List.cons_append, List.append_assoc,
    List.nil_append] at first ⊢
  rw [read.eq_def]
  simp [first, others]

theorem readFields_cons
    {fuel : Nat} {chars behind rest : List Char} {field : String × Value}
    {fields : List (String × Value)}
    (first : readField fuel chars = some (field, behind))
    (others : readFields fuel behind = some (fields, rest)) :
    readFields (fuel + 1) (',' :: chars) =
      some (field :: fields, rest) := by
  rw [readFields.eq_def]
  simp [first, others]

mutual

/-- A written value is read back; the fuel is at least the length of its text. -/
theorem read_write (value : Value) {rest : List Char} {fuel : Nat}
    (integral : value.isIntegral fits = true)
    (enough : value.write.length ≤ fuel) (stops : Stops rest) :
    read fuel (value.write ++ rest) = some (value, rest) := by
  obtain ⟨char, tail, written, _⟩ := head_write value integral
  obtain ⟨fuel, rfl⟩ : ∃ less, fuel = less + 1 := by
    rw [written, List.length_cons] at enough
    exact ⟨fuel - 1, by omega⟩
  match value with
  | .null => simp [write, read]
  | .bool true => simp [write, read]
  | .bool false => simp [write, read]
  | .int value => exact read_writeInt value fuel stops
  | .float _ => cases integral
  | .string value =>
      simp only [write, writeString, List.cons_append, List.append_assoc,
        List.nil_append]
      rw [read.eq_def]
      simp [readString_escape_append]
  | .array [] => simp [write, read]
  | .array (item :: items) =>
      simp only [isIntegral, areIntegral, Bool.and_eq_true] at integral
      simp only [write, List.length_cons, List.length_append] at enough
      simp only [write, List.cons_append, List.append_assoc]
      obtain ⟨char, tail, head, other, _⟩ := head_write item integral.1
      refine read_array (writeItems items ++ rest) ?_ ?_ ?_
      · rw [head]
        exact ⟨char, _, List.cons_append, other⟩
      · exact read_write item integral.1 (by omega)
          (stops_writeItems items rest)
      · exact readItems_writeItems items integral.2 (by omega)
  | .object [] => simp [write, read]
  | .object ((key, value) :: fields) =>
      simp only [isIntegral, fieldsAreIntegral, Bool.and_eq_true]
        at integral
      simp only [write, writeString, List.length_cons, List.length_append]
        at enough
      simp only [write, List.cons_append, List.append_assoc]
      obtain ⟨fuel, rfl⟩ : ∃ less, fuel = less + 1 :=
        ⟨fuel - 1, by omega⟩
      refine read_object (writeFields fields ++ rest) ?_ ?_
      · exact readField_writeString
          (read_write value integral.1 (by omega)
            (stops_writeFields fields rest))
      · exact readFields_writeFields fields integral.2 (by omega)

theorem readItems_writeItems (items : List Value) {rest : List Char}
    {fuel : Nat} (integral : areIntegral fits items = true)
    (enough : (writeItems items).length ≤ fuel) :
    readItems fuel (writeItems items ++ rest) = some (items, rest) := by
  match items with
  | [] =>
      obtain ⟨fuel, rfl⟩ : ∃ less, fuel = less + 1 :=
        ⟨fuel - 1, by simp only [writeItems, List.length_cons] at enough; omega⟩
      simp [writeItems, readItems]
  | item :: items =>
      simp only [areIntegral, Bool.and_eq_true] at integral
      simp only [writeItems, List.length_cons, List.length_append] at enough
      simp only [writeItems, List.cons_append, List.append_assoc]
      obtain ⟨fuel, rfl⟩ : ∃ less, fuel = less + 1 :=
        ⟨fuel - 1, by omega⟩
      exact
        readItems_cons
          (read_write item integral.1 (by omega)
            (stops_writeItems items rest))
          (readItems_writeItems items integral.2 (by omega))

theorem readFields_writeFields
    (fields : List (String × Value)) {rest : List Char} {fuel : Nat}
    (integral : fieldsAreIntegral fits fields = true)
    (enough : (writeFields fields).length ≤ fuel) :
    readFields fuel (writeFields fields ++ rest) = some (fields, rest) := by
  match fields with
  | [] =>
      obtain ⟨fuel, rfl⟩ : ∃ less, fuel = less + 1 :=
        ⟨fuel - 1, by
          simp only [writeFields, List.length_cons] at enough
          omega⟩
      simp [writeFields, readFields]
  | (key, value) :: fields =>
      simp only [fieldsAreIntegral, Bool.and_eq_true] at integral
      simp only [writeFields, writeString, List.length_cons,
        List.length_append] at enough
      simp only [writeFields, List.cons_append, List.append_assoc]
      obtain ⟨fuel, rfl⟩ : ∃ less, fuel = less + 2 :=
        ⟨fuel - 2, by omega⟩
      exact
        readFields_cons
          (readField_writeString
            (read_write value integral.1 (by omega)
              (stops_writeFields fields rest)))
          (readFields_writeFields fields integral.2 (by omega))

end

/-- No character of the text is a control character. -/
def Printable (chars : List Char) : Prop :=
  ∀ char ∈ chars, 32 ≤ char.toNat

theorem Printable.cons {char : Char} {chars : List Char}
    (first : 32 ≤ char.toNat) (others : Printable chars) :
    Printable (char :: chars) :=
  List.forall_mem_cons.mpr ⟨first, others⟩

theorem Printable.append {chars behind : List Char}
    (first : Printable chars) (others : Printable behind) :
    Printable (chars ++ behind) :=
  List.forall_mem_append.mpr ⟨first, others⟩

theorem Printable.of_all {chars : List Char}
    (all : (chars.all fun char => 32 ≤ char.toNat) = true) :
    Printable chars := by
  intro char member
  exact of_decide_eq_true (List.all_eq_true.mp all char member)

theorem printable_writeString (chars : List Char) :
    Printable (writeString chars) :=
  fun _ => printable_of_mem_writeString

theorem printable_writeInt (value : Int) : Printable (writeInt value) :=
  fun _ => printable_of_mem_writeInt

theorem printable_of_isNumberChar
    {char : Char} (number : isNumberChar char = true) : 32 ≤ char.toNat := by
  simp only [isNumberChar, Bool.or_eq_true, decide_eq_true_eq] at number
  rcases number with ((((digit | rfl) | rfl) | rfl) | rfl) | rfl
  · have bounds := bounds_of_isDigit digit
    omega
  all_goals decide

section Printable

variable {isDouble : String → Bool}

mutual

theorem printable_write (doubles : AreNumbers isDouble) (value : Value)
    (numbers : value.hasNumbers fits isDouble = true) :
    Printable value.write := by
  match value with
  | .null => exact Printable.of_all rfl
  | .bool true => exact Printable.of_all rfl
  | .bool false => exact Printable.of_all rfl
  | .int value => exact printable_writeInt value
  | .float literal =>
      exact fun char isMember =>
        printable_of_isNumberChar (doubles literal numbers char isMember)
  | .string value => exact printable_writeString value.toList
  | .array [] => exact Printable.of_all rfl
  | .array (item :: items) =>
      simp only [hasNumbers, itemsHaveNumbers, Bool.and_eq_true] at numbers
      simp only [write]
      apply Printable.cons (by decide)
      apply Printable.append (printable_write doubles item numbers.1)
      exact printable_writeItems doubles items numbers.2
  | .object [] => exact Printable.of_all rfl
  | .object ((key, value) :: fields) =>
      simp only [hasNumbers, fieldsHaveNumbers, Bool.and_eq_true] at numbers
      simp only [write]
      apply Printable.cons (by decide)
      apply Printable.append (printable_writeString key.toList)
      apply Printable.cons (by decide)
      apply Printable.append (printable_write doubles value numbers.1)
      exact printable_writeFields doubles fields numbers.2

theorem printable_writeItems (doubles : AreNumbers isDouble)
    (items : List Value)
    (numbers : itemsHaveNumbers fits isDouble items = true) :
    Printable (writeItems items) := by
  match items with
  | [] => exact Printable.of_all rfl
  | item :: items =>
      simp only [itemsHaveNumbers, Bool.and_eq_true] at numbers
      simp only [writeItems]
      apply Printable.cons (by decide)
      apply Printable.append (printable_write doubles item numbers.1)
      exact printable_writeItems doubles items numbers.2

theorem printable_writeFields (doubles : AreNumbers isDouble)
    (fields : List (String × Value))
    (numbers : fieldsHaveNumbers fits isDouble fields = true) :
    Printable (writeFields fields) := by
  match fields with
  | [] => exact Printable.of_all rfl
  | (key, value) :: fields =>
      simp only [fieldsHaveNumbers, Bool.and_eq_true] at numbers
      simp only [writeFields]
      apply Printable.cons (by decide)
      apply Printable.append (printable_writeString key.toList)
      apply Printable.cons (by decide)
      apply Printable.append (printable_write doubles value numbers.1)
      exact printable_writeFields doubles fields numbers.2

end

/-- A text without control characters is one line. -/
theorem Printable.oneLine {chars : List Char} (printable : Printable chars) :
    Lines.OneLine chars := by
  constructor
  · intro member
    exact absurd (printable '\n' member) (by decide)
  · intro member
    exact absurd (printable '\r' member) (by decide)

end Printable

mutual

/-- A value without doubles has integers for its numbers. -/
theorem hasNumbers_eq_isIntegral (value : Value) :
    value.hasNumbers fits (fun _ => false) = value.isIntegral fits := by
  match value with
  | .null | .bool _ | .int _ | .float _ | .string _ => rfl
  | .array items => exact itemsHaveNumbers_eq_areIntegral items
  | .object fields => exact fieldsHaveNumbers_eq_fieldsAreIntegral fields

theorem itemsHaveNumbers_eq_areIntegral (items : List Value) :
    itemsHaveNumbers fits (fun _ => false) items = areIntegral fits items := by
  match items with
  | [] => rfl
  | item :: rest =>
      simp only [itemsHaveNumbers, areIntegral, hasNumbers_eq_isIntegral item,
        itemsHaveNumbers_eq_areIntegral rest]

theorem fieldsHaveNumbers_eq_fieldsAreIntegral
    (fields : List (String × Value)) :
    fieldsHaveNumbers fits (fun _ => false) fields =
      fieldsAreIntegral fits fields := by
  match fields with
  | [] => rfl
  | (_, value) :: rest =>
      simp only [fieldsHaveNumbers, fieldsAreIntegral,
        hasNumbers_eq_isIntegral value,
        fieldsHaveNumbers_eq_fieldsAreIntegral rest]

end

/-- A compact text is one line. -/
theorem oneLine_compact {value : Value}
    (integral : value.isIntegral fits = true) :
    Lines.OneLine value.compact.toList := by
  have printable : Printable value.compact.toList := by
    rw [compact, String.toList_ofList]
    have doubles : AreNumbers (fun _ => false) := by
      intro literal impossible
      cases impossible
    rw [← hasNumbers_eq_isIntegral] at integral
    exact printable_write doubles value integral
  exact printable.oneLine

/-- A compact text is not blank. -/
theorem isBlank_compact {value : Value}
    (integral : value.isIntegral fits = true) :
    Text.isBlank value.compact = false := by
  obtain ⟨char, rest, written, _, low, high⟩ := head_write value integral
  have visible : Text.isWhitespace char = false := by
    simp only [Text.isWhitespace, Bool.or_eq_false_iff,
      Bool.and_eq_false_iff, decide_eq_false_iff_not]
    omega
  simp [Text.isBlank, compact, written, visible]

/-- White space between the tokens of a JSON text. -/
def isSpace (char : Char) : Bool :=
  char = ' ' || char = '\n' || char = '\t' || char = '\r'

/-- The value of a compact text, behind which there may be white space. -/
def ofText (text : String) : Option Value :=
  match read text.toList.length text.toList with
  | some (value, rest) => if rest.all isSpace then some value else none
  | none => none

theorem ofText_compact
    {value : Value} (integral : value.isIntegral fits = true) {behind : String}
    (blank : behind.toList.all isSpace = true) :
    ofText (value.compact ++ behind) = some value := by
  have text :
      (value.compact ++ behind).toList =
        value.write ++ behind.toList := by
    simp [compact]
  have stops : Stops behind.toList := by
    intro char first
    have space : isSpace char = true :=
      List.all_eq_true.mp blank char (List.mem_of_mem_head? first)
    simp only [isSpace, Bool.or_eq_true, decide_eq_true_eq] at space
    rcases space with ((rfl | rfl) | rfl) | rfl <;> rfl
  unfold ofText
  rw [text, read_write value integral (by simp) stops]
  simp [blank]

end Value

end HollerServer.Proto
