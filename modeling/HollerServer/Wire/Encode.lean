import HollerServer.Lib.Keyed
import HollerServer.Proto.Grammar
import HollerServer.Proto.Text
import HollerServer.Wire.Query

/-!
# Encoding of frames

`encode` of `src/proto/mod.rs`.  The derived `Serialize` writes the fields of a
struct in their order, without those that are skipped.  A text is read into a map,
which orders the keys; of two equal keys it keeps the last.  Each body is read back
from the value it is written as.
-/

namespace HollerServer.Wire

open HollerServer.Proto

section Normal

mutual

/-- The value that is held once a text of this value was read. -/
def normal : Value → Value
  | .array items => .array (normalItems items)
  | .object fields => jsonObject (normalFields fields)
  | .null => .null
  | .bool value => .bool value
  | .int value => .int value
  | .float literal => .float literal
  | .string value => .string value

def normalItems : List Value → List Value
  | [] => []
  | item :: rest => normal item :: normalItems rest

def normalFields : List (String × Value) → List (String × Value)
  | [] => []
  | (key, value) :: rest => (key, normal value) :: normalFields rest

end

mutual

/-- The keys of every object are ascending, as a map holds them. -/
def IsHeld : Value → Prop
  | .array items => AreHeld items
  | .object fields => Keyed.Ascending fields ∧ FieldsAreHeld fields
  | .null | .bool _ | .int _ | .float _ | .string _ => True

def AreHeld : List Value → Prop
  | [] => True
  | item :: rest => IsHeld item ∧ AreHeld rest

def FieldsAreHeld : List (String × Value) → Prop
  | [] => True
  | (_, value) :: rest => IsHeld value ∧ FieldsAreHeld rest

end

/-- The entries of an object that is built of these fields. -/
def collectFields (fields : List (String × Value)) :
    List (String × Value) :=
  fields.foldl (fun built field => insertField field.1 field.2 built) []

theorem jsonObject_eq (fields : List (String × Value)) :
    jsonObject fields = .object (collectFields fields) :=
  rfl

theorem normalItems_eq_map (items : List Value) :
    normalItems items = items.map normal := by
  induction items with
  | nil => rfl
  | cons item rest ih => rw [normalItems, ih, List.map_cons]

theorem keys_normalFields (fields : List (String × Value)) :
    (normalFields fields).map Prod.fst = fields.map Prod.fst := by
  induction fields with
  | nil => rfl
  | cons field rest ih =>
      obtain ⟨key, value⟩ := field
      simp [normalFields, ih]

theorem lookup_normalFields (key : String)
    (fields : List (String × Value)) :
    (normalFields fields).lookup key = (fields.lookup key).map normal := by
  induction fields with
  | nil => rfl
  | cons field rest ih =>
      obtain ⟨other, value⟩ := field
      by_cases same : key = other
      · subst same
        rw [normalFields, Keyed.lookup_self, Keyed.lookup_self]
        rfl
      · rw [normalFields, Keyed.lookup_of_ne same,
          Keyed.lookup_of_ne same, ih]

theorem mem_insertField {key : String} {value : Value}
    {fields : List (String × Value)} {entry : String × Value}
    (member : entry ∈ insertField key value fields) :
    entry = (key, value) ∨ entry ∈ fields := by
  induction fields with
  | nil => simpa [insertField] using member
  | cons field rest ih =>
      obtain ⟨first, stored⟩ := field
      unfold insertField at member
      split at member
      next =>
        rcases List.mem_cons.mp member with same | member
        · exact .inl same
        · exact .inr (List.mem_cons_of_mem _ member)
      next =>
        split at member
        next => exact List.mem_cons.mp member
        next =>
          rcases List.mem_cons.mp member with same | member
          · exact .inr (same ▸ List.mem_cons_self)
          · rcases ih member with same | member
            · exact .inl same
            · exact .inr (List.mem_cons_of_mem _ member)

/-- An insertion keeps the keys ascending. -/
theorem ascending_insertField {key : String} {value : Value}
    {fields : List (String × Value)}
    (ascending : Keyed.Ascending fields) :
    Keyed.Ascending (insertField key value fields) := by
  induction fields with
  | nil => exact List.pairwise_singleton _ _
  | cons field rest ih =>
      obtain ⟨first, stored⟩ := field
      obtain ⟨above, others⟩ := List.pairwise_cons.mp ascending
      unfold insertField
      split
      next same =>
        subst same
        exact List.pairwise_cons.mpr ⟨above, others⟩
      next apart =>
        split
        next less =>
          refine List.pairwise_cons.mpr ⟨?_, ascending⟩
          intro entry member
          rcases List.mem_cons.mp member with same | member
          · rw [same]
            exact less
          · exact lt_trans less (above entry member)
        next notLess =>
          have more : first < key :=
            lt_of_le_of_ne (not_lt.mp notLess) (Ne.symm apart)
          refine List.pairwise_cons.mpr ⟨?_, ih others⟩
          intro entry member
          rcases mem_insertField member with same | member
          · rw [same]
            exact more
          · exact above entry member

theorem ascending_foldl_insertField
    (fields : List (String × Value)) {built : List (String × Value)}
    (ascending : Keyed.Ascending built) :
    Keyed.Ascending
      (fields.foldl (fun built field => insertField field.1 field.2 built)
        built) := by
  induction fields generalizing built with
  | nil => exact ascending
  | cons field rest ih => exact ih (ascending_insertField ascending)

theorem mem_foldl_insertField {fields built : List (String × Value)}
    {entry : String × Value}
    (member :
      entry ∈
        fields.foldl (fun built field => insertField field.1 field.2 built)
          built) :
    entry ∈ fields ∨ entry ∈ built := by
  induction fields generalizing built with
  | nil => exact .inr member
  | cons field rest ih =>
      rcases ih member with later | inserted
      · exact .inl (List.mem_cons_of_mem _ later)
      · rcases mem_insertField inserted with same | earlier
        · exact .inl (same ▸ List.mem_cons_self)
        · exact .inr earlier

theorem mem_collectFields {fields : List (String × Value)}
    {entry : String × Value} (member : entry ∈ collectFields fields) :
    entry ∈ fields :=
  (mem_foldl_insertField member).resolve_right List.not_mem_nil

theorem ascending_collectFields (fields : List (String × Value)) :
    Keyed.Ascending (collectFields fields) :=
  ascending_foldl_insertField fields List.Pairwise.nil

theorem lookup_collectFields
    {fields : List (String × Value)}
    (distinct : (fields.map Prod.fst).Nodup) (key : String) :
    (collectFields fields).lookup key = fields.lookup key := by
  unfold collectFields
  rw [lookup_foldl_insertField distinct]
  cases fields.lookup key <;> rfl

theorem nodup_keys_of_ascending {fields : List (String × Value)}
    (ascending : Keyed.Ascending fields) :
    (fields.map Prod.fst).Nodup := by
  rw [List.Nodup, List.pairwise_map]
  exact ascending.imp fun less => ne_of_lt less

/-- Ascending fields are the entries of the object that is built of them. -/
theorem collectFields_of_ascending {fields : List (String × Value)}
    (ascending : Keyed.Ascending fields) : collectFields fields = fields :=
  (ascending_collectFields fields).ext ascending
    (lookup_collectFields (nodup_keys_of_ascending ascending))

mutual

/-- A value that a map can hold is held as it is. -/
theorem normal_of_isHeld (value : Value) (held : IsHeld value) :
    normal value = value := by
  match value with
  | .null | .bool _ | .int _ | .float _ | .string _ => rfl
  | .array items =>
      rw [normal, normalItems_of_areHeld items held]
  | .object fields =>
      rw [normal, normalFields_of_areHeld fields held.2, jsonObject_eq,
        collectFields_of_ascending held.1]

theorem normalItems_of_areHeld (items : List Value)
    (held : AreHeld items) : normalItems items = items := by
  match items with
  | [] => rfl
  | item :: rest =>
      rw [normalItems, normal_of_isHeld item held.1,
        normalItems_of_areHeld rest held.2]

theorem normalFields_of_areHeld (fields : List (String × Value))
    (held : FieldsAreHeld fields) : normalFields fields = fields := by
  match fields with
  | [] => rfl
  | (key, value) :: rest =>
      rw [normalFields, normal_of_isHeld value held.1,
        normalFields_of_areHeld rest held.2]

end

end Normal

section Serialize

/-- The fields of a struct, without those that are skipped. -/
def present (fields : List (String × Option Value)) :
    List (String × Value) :=
  fields.filterMap fun field => field.2.map fun value => (field.1, value)

theorem keys_present_subset {fields : List (String × Option Value)}
    {key : String} (member : key ∈ (present fields).map Prod.fst) :
    key ∈ fields.map Prod.fst := by
  simp only [present, List.mem_map, List.mem_filterMap,
    Option.map_eq_some_iff] at member
  obtain ⟨_, ⟨field, inside, value, _, rfl⟩, rfl⟩ := member
  exact List.mem_map.mpr ⟨field, inside, rfl⟩

theorem present_cons (key : String) (value : Option Value)
    (fields : List (String × Option Value)) :
    present ((key, value) :: fields) =
      (value.map fun stored => (key, stored)).toList ++ present fields := by
  cases value <;> rfl

theorem nodup_keys_present {fields : List (String × Option Value)}
    (distinct : (fields.map Prod.fst).Nodup) :
    ((present fields).map Prod.fst).Nodup := by
  induction fields with
  | nil => exact List.nodup_nil
  | cons field rest ih =>
      obtain ⟨key, value⟩ := field
      rw [List.map_cons, List.nodup_cons] at distinct
      rw [present_cons]
      cases value with
      | none => exact ih distinct.2
      | some stored =>
          refine List.nodup_cons.mpr ⟨?_, ih distinct.2⟩
          intro member
          exact distinct.1 (keys_present_subset member)

theorem lookup_present {fields : List (String × Option Value)}
    (distinct : (fields.map Prod.fst).Nodup) (key : String) :
    (present fields).lookup key = (fields.lookup key).join := by
  induction fields with
  | nil => rfl
  | cons field rest ih =>
      obtain ⟨first, value⟩ := field
      rw [List.map_cons, List.nodup_cons] at distinct
      rw [present_cons]
      by_cases same : key = first
      · subst same
        rw [Keyed.lookup_self]
        cases value with
        | some stored => exact Keyed.lookup_self
        | none =>
            rw [Option.map_none, Option.toList_none, List.nil_append,
              ih distinct.2]
            have absent : rest.lookup key = none := by
              apply Keyed.lookup_eq_none
              intro entry member equal
              exact distinct.1 (List.mem_map.mpr ⟨entry, member, equal⟩)
            rw [absent]
            rfl
      · rw [Keyed.lookup_of_ne same]
        cases value with
        | some stored =>
            refine (Keyed.lookup_of_ne same).trans (ih distinct.2)
        | none => exact ih distinct.2

/-- What is found of the fields of a struct. -/
theorem find_present {fields : List (String × Option Value)}
    (distinct : (fields.map Prod.fst).Nodup) (index : Nat)
    (name : String) :
    (Fields.named (collectFields (normalFields (present fields)))).find?
        index name =
      (fields.lookup name).join.map normal := by
  have distinct' :
      ((normalFields (present fields)).map Prod.fst).Nodup := by
    rw [keys_normalFields]
    exact nodup_keys_present distinct
  calc
    (collectFields (normalFields (present fields))).lookup name =
        (normalFields (present fields)).lookup name :=
      lookup_collectFields distinct' name
    _ = ((present fields).lookup name).map normal :=
      lookup_normalFields name (present fields)
    _ = (fields.lookup name).join.map normal := by
      rw [lookup_present distinct]

/-- A struct with these fields. -/
def structValue (fields : List (String × Option Value)) : Value :=
  .object (present fields)

def textField (value : String) : Option Value :=
  some (.string value)

/-- `skip_serializing_if = "Option::is_none"` -/
def textFieldIfSome (value : Option String) : Option Value :=
  value.map .string

/-- `skip_serializing_if = "Vec::is_empty"` -/
def textsFieldIfAny (values : List String) : Option Value :=
  if values.isEmpty then none else some (jsonStrings values)

def u32Field (value : UInt32) : Option Value :=
  some (.int value.toNat)

def roleValue : Role → Value
  | .client => .string "client"
  | .server => .string "server"

def sessionValue (session : HelloSession) : Value :=
  structValue [("name", textField session.name), ("harness", textField session.harness)]

def sessionsFieldIfAny (sessions : List HelloSession) : Option Value :=
  if sessions.isEmpty then none
  else some (.array (sessions.map sessionValue))

def errorValue (body : ErrorBody) : Value :=
  structValue
    [("code", textField body.code), ("cmd", textFieldIfSome body.cmd),
      ("message", textFieldIfSome body.message)]

/-- A flattened value puts its own keys behind `cmd`; a null has none, and
anything else cannot be flattened. -/
def queryOkValue (body : QueryOkBody) : Option Value :=
  match body.rest with
  | .object fields => some (.object (("cmd", .string body.cmd) :: fields))
  | .null => some (.object [("cmd", .string body.cmd)])
  | _ => none

def helloFields (body : HelloBody) : List (String × Option Value) :=
  [("protocol", u32Field body.protocol),
    ("protocol_min", u32Field body.protocolMin),
    ("protocol_max", u32Field body.protocolMax),
    ("role", some (roleValue body.role)),
    ("hostname", textField body.hostname),
    ("token_id", textFieldIfSome body.tokenId),
    ("client_id", textFieldIfSome body.clientId),
    ("harnesses", textsFieldIfAny body.harnesses),
    ("harnesses_known", textsFieldIfAny body.harnessesKnown),
    ("harnesses_confirmed", textsFieldIfAny body.harnessesConfirmed),
    ("features", textsFieldIfAny body.features),
    ("sessions", sessionsFieldIfAny body.sessions)]

/-- `Serialize` of a body: the bare object. -/
def bodyValue : Body → Option Value
  | .join body =>
      some (structValue
        [("secret", textField body.secret), ("hostname", textField body.hostname)])
  | .joinOk body =>
      some (structValue
        [("client_id", textField body.clientId),
          ("credential", textField body.credential)])
  | .auth body => some (structValue [("credential", some body.credential)])
  | .hello body => some (structValue (helloFields body))
  | .query body =>
      some (structValue
        [("cmd", textField body.cmd), ("args", some (jsonStrings body.args))])
  | .queryOk body => queryOkValue body
  | .prompt body =>
      some (structValue
        [("session", textField body.session), ("text", textField body.text),
          ("meta", body.metadata)])
  | .reply body =>
      some (structValue
        [("session", textField body.session), ("text", textFieldIfSome body.text),
          ("chunks", textsFieldIfAny body.chunks),
          ("done", some (.bool body.done)),
          ("exit", body.exit.map fun code => .int code.toInt)])
  | .interrupt body => some (structValue [("session", textField body.session)])
  | .answer body =>
      some (structValue
        [("session", textField body.session), ("choice", textField body.choice)])
  | .presence body => some (structValue [("sessions", some (.array body.sessions))])
  | .sessionBlocked body =>
      some (structValue
        [("session", textField body.session),
          ("blocked", some (.bool body.blocked))])
  | .ping body => some (structValue [("hostname", textFieldIfSome body.hostname)])
  | .pong body => some (structValue [("hostname", textFieldIfSome body.hostname)])
  | .ack body => some (structValue [("of", textFieldIfSome body.of)])
  | .error body => some (errorValue body)

def envelopeFields (envelope : Envelope) (body : Value) :
    List (String × Option Value) :=
  [("v", u32Field envelope.v),
    ("type", textField envelope.msgType.asWireStr),
    ("id", textField envelope.id),
    ("ts", textField envelope.ts),
    ("from", textField envelope.sender),
    ("body", some body)]

def envelopeValue (envelope : Envelope) : Option Value :=
  (bodyValue envelope.body).map fun body =>
    structValue (envelopeFields envelope body)

/-- `encode`; it fails where a body cannot be flattened. -/
def encode (envelope : Envelope) : Option String :=
  (envelopeValue envelope).map Value.compact

end Serialize

section Readers

/-- A struct, as it is held once it was read. -/
def structFields (fields : List (String × Option Value)) : Fields :=
  .named (collectFields (normalFields (present fields)))

theorem readStruct_structValue {α : Type} (arity : Nat)
    (build : Fields → Option α) (fields : List (String × Option Value)) :
    readStruct arity build (normal (structValue fields)) =
      build (structFields fields) :=
  rfl

theorem find_structFields {fields : List (String × Option Value)}
    (distinct : (fields.map Prod.fst).Nodup) (index : Nat)
    (name : String) :
    (structFields fields).find? index name =
      (fields.lookup name).join.map normal :=
  find_present distinct index name

theorem readU32_int (value : UInt32) :
    readU32 (.int value.toNat) = some value := by
  have bound : value.toNat < 2 ^ 32 := value.toNat_lt
  have inside :
      (0 : Int) ≤ value.toNat ∧ (value.toNat : Int) < 2 ^ 32 := by
    omega
  have same : UInt32.ofNat (Int.toNat value.toNat) = value := by
    rw [Int.toNat_natCast, UInt32.ofNat_toNat]
  simp only [readU32]
  rw [if_pos inside, same]

theorem readI64_int (value : Int64) :
    readI64 (.int value.toInt) = some value := by
  have inside : -2 ^ 63 ≤ value.toInt ∧ value.toInt < 2 ^ 63 :=
    ⟨value.le_toInt, value.toInt_lt⟩
  simp only [readI64]
  rw [if_pos inside, Int64.ofInt_toInt]

theorem normal_jsonStrings (values : List String) :
    normal (jsonStrings values) = jsonStrings values := by
  unfold jsonStrings
  rw [normal, normalItems_eq_map, List.map_map]
  rfl

theorem readVec_jsonStrings (values : List String) :
    readVec readString (jsonStrings values) = some values := by
  unfold jsonStrings readVec
  induction values with
  | nil => rfl
  | cons value rest ih =>
      simp only [List.map_cons, List.mapM_cons] at ih ⊢
      rw [ih]
      rfl

section Fields

variable {α : Type} {fields : List (String × Option Value)}
  {index : Nat} {name : String}

/-- What is read back of a field that must be there. -/
def readBack (read : Value → Option α) (field : Option Value) : Option α :=
  (field.map normal).bind read

/-- What is read back of a field that may be skipped. -/
def readBackOr (read : Value → Option α) (default : α) :
    Option Value → Option α
  | some value => read (normal value)
  | none => some default

theorem required_structFields {read : Value → Option α}
    (distinct : (fields.map Prod.fst).Nodup) :
    (structFields fields).required index name read =
      readBack read (fields.lookup name).join := by
  unfold Fields.required readBack
  rw [find_structFields distinct]

theorem defaulted_structFields {read : Value → Option α} {default : α}
    (distinct : (fields.map Prod.fst).Nodup) :
    (structFields fields).defaulted index name read default =
      readBackOr read default (fields.lookup name).join := by
  unfold Fields.defaulted
  rw [find_structFields distinct]
  cases (fields.lookup name).join <;> rfl

theorem optional_structFields {read : Value → Option α}
    (distinct : (fields.map Prod.fst).Nodup) :
    (structFields fields).optional index name read =
      readBackOr (readOption read) none (fields.lookup name).join :=
  defaulted_structFields distinct

theorem strings_structFields
    (distinct : (fields.map Prod.fst).Nodup) :
    (structFields fields).strings index name =
      readBackOr (readVec readString) [] (fields.lookup name).join :=
  defaulted_structFields distinct

end Fields

/-! What is read back of each kind of field. -/

@[simp] theorem readBack_textField (value : String) :
    readBack readString (textField value) = some value :=
  rfl

@[simp] theorem readBack_u32Field (value : UInt32) :
    readBack readU32 (u32Field value) = some value := by
  unfold readBack u32Field
  rw [Option.map_some, Option.bind_some, normal, readU32_int]

@[simp] theorem readBack_bool (value : Bool) :
    readBack readBool (some (.bool value)) = some value :=
  rfl

@[simp] theorem readBackOr_bool (default value : Bool) :
    readBackOr readBool default (some (.bool value)) = some value :=
  rfl

@[simp] theorem readBack_roleValue (role : Role) :
    readBack readRole (some (roleValue role)) = some role := by
  cases role <;> rfl

@[simp] theorem readBackOr_textFieldIfSome (value : Option String) :
    readBackOr (readOption readString) none (textFieldIfSome value) =
      some value := by
  cases value <;> rfl

@[simp] theorem readBackOr_exit (value : Option Int64) :
    readBackOr (readOption readI64) none
        (value.map fun code => .int code.toInt) =
      some value := by
  cases value with
  | none => rfl
  | some code =>
      rw [Option.map_some, readBackOr, normal, readOption, readI64_int,
        Option.map_some]
      simp

@[simp] theorem readBackOr_jsonStrings (values : List String) :
    readBackOr (readVec readString) [] (some (jsonStrings values)) =
      some values := by
  rw [readBackOr, normal_jsonStrings, readVec_jsonStrings]

@[simp] theorem readBackOr_textsFieldIfAny (values : List String) :
    readBackOr (readVec readString) [] (textsFieldIfAny values) =
      some values := by
  unfold textsFieldIfAny
  cases values with
  | nil => rfl
  | cons value rest => exact readBackOr_jsonStrings (value :: rest)

@[simp] theorem readHelloSession_sessionValue (session : HelloSession) :
    readHelloSession (normal (sessionValue session)) = some session := by
  unfold readHelloSession sessionValue
  rw [readStruct_structValue]
  simp (disch := simp) [required_structFields, List.lookup_cons]

/-- A list is read back if its items are. -/
theorem readVec_map {α : Type} {read : Value → Option α}
    {value : α → Value}
    (readsBack : ∀ item, read (normal (value item)) = some item)
    (items : List α) :
    readVec read (normal (.array (items.map value))) = some items := by
  rw [normal, normalItems_eq_map]
  unfold readVec
  induction items with
  | nil => rfl
  | cons item rest ih =>
      simp only [List.map_cons, List.mapM_cons] at ih ⊢
      rw [ih, readsBack]
      rfl

@[simp] theorem readBackOr_sessions (sessions : List HelloSession) :
    readBackOr (readVec readHelloSession) [] (sessionsFieldIfAny sessions) =
      some sessions := by
  cases sessions with
  | nil => rfl
  | cons session rest =>
      exact readVec_map readHelloSession_sessionValue (session :: rest)

/-- A value that is carried as it is. -/
theorem readBack_readValue {value : Value} (held : IsHeld value) :
    readBack readValue (some value) = some value := by
  unfold readBack readValue
  rw [Option.map_some, normal_of_isHeld value held, Option.bind_some]

theorem readBackOr_metadata {metadata : Option Value}
    (held : ∀ value ∈ metadata.toList, IsHeld value)
    (notNull : metadata ≠ some .null) :
    readBackOr (readOption readValue) none metadata = some metadata := by
  cases metadata with
  | none => rfl
  | some value =>
      rw [readBackOr, normal_of_isHeld value (held value (by simp))]
      cases value <;> simp_all [readOption, readValue]

theorem areHeld_iff (items : List Value) :
    AreHeld items ↔ ∀ item ∈ items, IsHeld item := by
  induction items with
  | nil => simp [AreHeld]
  | cons item rest ih => simp [AreHeld, ih]

theorem mapM_readValue (values : List Value) :
    values.mapM readValue = some values := by
  induction values with
  | nil => rfl
  | cons value rest ih =>
      rw [List.mapM_cons, ih]
      rfl

theorem readBack_values {values : List Value}
    (held : ∀ value ∈ values, IsHeld value) :
    readBack (readVec readValue) (some (.array values)) = some values := by
  have same : normal (.array values) = .array values :=
    normal_of_isHeld (.array values) ((areHeld_iff values).mpr held)
  unfold readBack
  rw [Option.map_some, same, Option.bind_some]
  exact mapM_readValue values

/-- The message type of a body. -/
def bodyType : Body → MessageType
  | .join _ => .join
  | .joinOk _ => .joinOk
  | .auth _ => .auth
  | .hello _ => .hello
  | .query _ => .query
  | .queryOk _ => .queryOk
  | .prompt _ => .prompt
  | .reply _ => .reply
  | .interrupt _ => .interrupt
  | .answer _ => .answer
  | .presence _ => .presence
  | .sessionBlocked _ => .sessionBlocked
  | .ping _ => .ping
  | .pong _ => .pong
  | .ack _ => .ack
  | .error _ => .error

/-- The JSON values a body carries as they are. -/
def carried : Body → List Value
  | .auth body => [body.credential]
  | .queryOk body => [body.rest]
  | .prompt body => body.metadata.toList
  | .presence body => body.sessions
  | _ => []

theorem readHelloBody_bodyValue {body : HelloBody} {value : Value}
    (encoded : bodyValue (.hello body) = some value) :
    readHelloBody (normal value) = some body := by
  cases encoded
  have distinct : ((helloFields body).map Prod.fst).Nodup := by
    simp [helloFields]
  unfold readHelloBody
  rw [readStruct_structValue]
  simp only [required_structFields distinct, optional_structFields distinct,
    strings_structFields distinct, defaulted_structFields distinct]
  simp [helloFields, List.lookup_cons]

theorem deserialize_queryOk {body : QueryOkBody} {value : Value}
    {fields : List (String × Value)}
    (encoded : queryOkValue body = some value)
    (object : body.rest = .object fields)
    (apart : fields.lookup "cmd" = none) (held : IsHeld body.rest) :
    readQueryOkBody (normal value) = some body := by
  obtain ⟨cmd, rest⟩ := body
  obtain rfl : rest = .object fields := object
  cases encoded
  have ascending : Keyed.Ascending fields := held.1
  have same : normalFields fields = fields :=
    normalFields_of_areHeld fields held.2
  have absent : "cmd" ∉ fields.map Prod.fst := Keyed.not_mem_keys apart
  have distinct :
      ((("cmd", Value.string cmd) :: fields).map Prod.fst).Nodup :=
    List.nodup_cons.mpr ⟨absent, nodup_keys_of_ascending ascending⟩
  have found := lookup_collectFields distinct
  have left :
      ((collectFields (("cmd", Value.string cmd) :: fields)).filter
        fun field => field.1 ≠ "cmd") = fields := by
    apply ((ascending_collectFields _).filter _).ext ascending
    intro key
    by_cases same : key = "cmd"
    · subst same
      rw [apart]
      exact Keyed.lookup_filter_of_not (fun key => key ≠ "cmd") (by simp)
    · rw [Keyed.lookup_filter (fun key => key ≠ "cmd") (by simpa using same),
        found, Keyed.lookup_of_ne same]
  have held' :
      normal (.object (("cmd", .string cmd) :: fields)) =
        .object (collectFields (("cmd", .string cmd) :: fields)) := by
    rw [normal, normalFields, same, normal, jsonObject_eq]
  rw [held', readQueryOkBody, found, Keyed.lookup_self, left]
  rfl

theorem deserializeValue_bodyValue (serde : SerdeJson)
    {body : Body} {value : Value}
    (encoded : bodyValue body = some value)
    (rest : ∀ inner, body = .queryOk inner →
      ∃ fields, inner.rest = .object fields ∧ fields.lookup "cmd" = none)
    (metadata : ∀ inner, body = .prompt inner →
      inner.metadata ≠ some .null)
    (held : ∀ inner ∈ carried body, IsHeld inner) :
    deserializeValue serde (normal value) (bodyType body) = .ok body := by
  cases body
  case queryOk body =>
    obtain ⟨fields, object, apart⟩ := rest body rfl
    have back :=
      deserialize_queryOk encoded object apart (held _ (by simp [carried]))
    simp [deserializeValue, bodyType, back]
  case auth body =>
    cases encoded
    have back := readBack_readValue (held body.credential (by simp [carried]))
    simp (disch := simp) [deserializeValue, bodyType, readAuthBody,
      readStruct_structValue, required_structFields, back]
  case prompt body =>
    cases encoded
    have back := readBackOr_metadata held (metadata body rfl)
    simp (disch := simp) [deserializeValue, bodyType, readPromptBody,
      readStruct_structValue, required_structFields, optional_structFields,
      List.lookup_cons, back]
  case presence body =>
    cases encoded
    have back :
        readBack (readVec readValue) (some (.array body.sessions)) =
          some body.sessions :=
      readBack_values held
    simp (disch := simp) [deserializeValue, bodyType, readPresenceBody,
      readStruct_structValue, required_structFields, back]
  case hello body =>
    have back := readHelloBody_bodyValue encoded
    simp [deserializeValue, bodyType, back]
  all_goals
    cases encoded
    simp (disch := simp) [deserializeValue, bodyType, readJoinBody,
      readJoinOkBody, readQueryBody, readReplyBody,
      readInterruptBody, readAnswerBody, readSessionBlockedBody,
      readPingBody, readPongBody, readAckBody, readErrorBody, errorValue,
      readStruct_structValue, required_structFields,
      optional_structFields, strings_structFields,
      defaulted_structFields, List.lookup_cons]

end Readers

end HollerServer.Wire
