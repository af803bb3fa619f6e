import HollerServer.Proto.Decode

/-!
# The grammar of v1 frames

Which frames `docs/protocol/v1.md` allows, said over JSON values, beside what
`decode` accepts.  A schema is a list of rules for the fields of a body; it is read
in two ways.  The documented reading wants an object, the derived reading is that
of the derived `Deserialize`, which is wider.  `decode` follows the grammar except
where it narrows `v` to 32 bits and where the derived reading is really wider.
-/

namespace HollerServer.Proto

inductive Reading where
  | documented
  | derived
  deriving DecidableEq, Repr

namespace Value

def isText : Value → Bool
  | .string _ => true
  | _ => false

def isFlag : Value → Bool
  | .bool _ => true
  | _ => false

def isU32 : Value → Bool
  | .int value => 0 ≤ value ∧ value < 2 ^ 32
  | _ => false

def isI64 : Value → Bool
  | .int value => -2 ^ 63 ≤ value ∧ value < 2 ^ 63
  | _ => false

def isAny : Value → Bool :=
  fun _ => true

def isNullOr (fits : Value → Bool) : Value → Bool
  | .null => true
  | value => fits value

def isListOf (fits : Value → Bool) : Value → Bool
  | .array items => items.all fits
  | _ => false

def isObject : Value → Bool
  | .object _ => true
  | _ => false

def isArray : Value → Bool
  | .array _ => true
  | _ => false

/-- A list with an array among its items. -/
def holdsArray : Value → Bool
  | .array items => items.any isArray
  | _ => false

/-- The name of a role; the derived reading also takes the object that maps the
name to null. -/
def isRole (reading : Reading) : Value → Bool
  | .string name => name = "client" ∨ name = "server"
  | .object [(name, .null)] =>
      reading = .derived ∧ (name = "client" ∨ name = "server")
  | _ => false

end Value

/-- One field of a schema. -/
structure FieldRule where
  name : String
  fits : Value → Bool
  mayMiss : Bool

namespace FieldRule

def required (name : String) (fits : Value → Bool) : FieldRule :=
  { name, fits, mayMiss := false }

def defaulted (name : String) (fits : Value → Bool) : FieldRule :=
  { name, fits, mayMiss := true }

def optional (name : String) (fits : Value → Bool) : FieldRule :=
  defaulted name (Value.isNullOr fits)

def strings (name : String) : FieldRule :=
  defaulted name (Value.isListOf Value.isText)

/-- Whether a field, if it is there, follows its rule. -/
def admits (rule : FieldRule) : Option Value → Bool
  | some value => rule.fits value
  | none => rule.mayMiss

end FieldRule

/-- Whether the fields from `index` on follow their rules. -/
def Fields.follow (fields : Fields) : Nat → List FieldRule → Bool
  | _, [] => true
  | index, rule :: rest =>
      rule.admits (fields.find? index rule.name) &&
        fields.follow (index + 1) rest

/-- Whether a value fits a schema. -/
def fitsRules (reading : Reading) (rules : List FieldRule) : Value → Bool
  | .object entries => (Fields.named entries).follow 0 rules
  | .array items =>
      reading = .derived ∧ items.length ≤ rules.length ∧
        (Fields.ordered items).follow 0 rules
  | _ => false

def sessionRules : List FieldRule :=
  [.required "name" Value.isText, .required "harness" Value.isText]

/-- The fields of the body of each message type. -/
def bodyRules (reading : Reading) : MessageType → List FieldRule
  | .join =>
      [.required "secret" Value.isText, .required "hostname" Value.isText]
  | .joinOk =>
      [.required "client_id" Value.isText,
        .required "credential" Value.isText]
  | .auth => [.required "credential" Value.isAny]
  | .hello =>
      [.required "protocol" Value.isU32,
        .required "protocol_min" Value.isU32,
        .required "protocol_max" Value.isU32,
        .required "role" (Value.isRole reading),
        .required "hostname" Value.isText,
        .optional "token_id" Value.isText,
        .optional "client_id" Value.isText,
        .strings "harnesses",
        .strings "harnesses_known",
        .strings "harnesses_confirmed",
        .strings "features",
        .defaulted "sessions"
          (Value.isListOf (fitsRules reading sessionRules))]
  | .query => [.required "cmd" Value.isText, .strings "args"]
  | .queryOk => [.required "cmd" Value.isText]
  | .prompt =>
      [.required "session" Value.isText, .required "text" Value.isText,
        .optional "meta" Value.isAny]
  | .reply =>
      [.required "session" Value.isText, .optional "text" Value.isText,
        .strings "chunks", .defaulted "done" Value.isFlag,
        .optional "exit" Value.isI64]
  | .interrupt => [.required "session" Value.isText]
  | .answer =>
      [.required "session" Value.isText, .required "choice" Value.isText]
  | .presence => [.required "sessions" (Value.isListOf Value.isAny)]
  | .sessionBlocked =>
      [.required "session" Value.isText, .required "blocked" Value.isFlag]
  | .ping | .pong => [.optional "hostname" Value.isText]
  | .ack => [.optional "of" Value.isText]
  | .error =>
      [.required "code" Value.isText, .optional "cmd" Value.isText,
        .optional "message" Value.isText]

/-- Whether a value is a body of the message type.  A struct with a flattened
field is an object in both readings. -/
def bodyFits
    (reading : Reading) (msgType : MessageType) (body : Value) : Bool :=
  match msgType with
  | .queryOk =>
      body.isObject && fitsRules reading (bodyRules reading .queryOk) body
  | other => fitsRules reading (bodyRules reading other) body

/-- What becomes of a frame. -/
inductive Verdict where
  | accepted
  | unknownType
  | unsupportedVersion
  | malformed
  deriving DecidableEq, Repr

def verdictOf : Except DecodeError Envelope → Verdict
  | .ok _ => .accepted
  | .error (.unsupportedVersion _) => .unsupportedVersion
  | .error .unknownType => .unknownType
  | .error (.malformed _) => .malformed

/-- Whether a field of the envelope is a string. -/
def hasText (fields : List (String × Value)) (key : String) : Bool :=
  ((fields.lookup key).bind Value.asStr).isSome

/-- `id`, `ts` and `from` are strings and there is a `body`. -/
def isFramed (fields : List (String × Value)) : Bool :=
  hasText fields "id" && hasText fields "ts" && hasText fields "from" &&
    (fields.lookup "body").isSome

/-- The message type of an envelope, where it is known. -/
def knownType (fields : List (String × Value)) : Option MessageType :=
  ((fields.lookup "type").bind Value.asStr).bind MessageType.fromWire

/-- Whether the body of an envelope fits the schema of its type. -/
def bodyFitsIn
    (reading : Reading) (msgType : MessageType)
    (fields : List (String × Value)) : Bool :=
  (fields.lookup "body").any (bodyFits reading msgType)

/-- The verdict of the grammar on an envelope of a known type. -/
def grammarKnown
    (msgType : MessageType) (fields : List (String × Value)) : Verdict :=
  if isFramed fields then
    match fields.lookup "v" with
    | some (.int version) =>
        if version = 1 then
          if bodyFitsIn .documented msgType fields then .accepted
          else .malformed
        else if 0 ≤ version then .unsupportedVersion
        else .malformed
    | _ => .malformed
  else .malformed

/-- The verdict of the v1 grammar on a JSON value, or on a text that is none. -/
def grammar : Option Value → Verdict
  | some (.object fields) =>
      match (fields.lookup "type").bind Value.asStr with
      | none => .malformed
      | some name =>
          match MessageType.fromWire name with
          | none => .unknownType
          | some msgType => grammarKnown msgType fields
  | _ => .malformed

def Value.isOne : Value → Bool
  | .int value => value = 1
  | _ => false

/-- A version other than 1 that does not fit 64 bits, or whose low 32 bits are
those of 1. -/
def Value.isNarrowed : Value → Bool
  | .int value =>
      0 ≤ value ∧ value ≠ 1 ∧ (2 ^ 64 ≤ value ∨ value % 2 ^ 32 = 1)
  | _ => false

/-- A body as the documentation writes it: an object, and in a `hello` the role
is no object and no session is an array. -/
def isPlain (msgType : MessageType) : Value → Bool
  | .object entries =>
      msgType ≠ .hello ∨
        !(entries.lookup "role").any Value.isObject ∧
        !(entries.lookup "sessions").any Value.holdsArray
  | _ => false

/-- The frames of known type, complete but for `v` and the shape of the body,
that `decode` does not judge as the grammar does. -/
def strays : Option Value → Bool
  | some (.object fields) =>
      (knownType fields).any fun msgType =>
        isFramed fields &&
          ((fields.lookup "v").any Value.isNarrowed ||
            (fields.lookup "v").any Value.isOne &&
              bodyFitsIn .derived msgType fields &&
              !(fields.lookup "body").any (isPlain msgType))
  | _ => false

section Readers

variable {α β : Type}

@[simp] theorem any_const (value : Option α) (answer : Bool) :
    (value.any fun _ => answer) = (value.isSome && answer) := by
  cases value <;> simp

@[simp] theorem isSome_readBool (value : Value) :
    (readBool value).isSome = value.isFlag := by
  cases value <;> rfl

@[simp] theorem isSome_readString (value : Value) :
    (readString value).isSome = value.isText := by
  cases value <;> rfl

@[simp] theorem isSome_readValue (value : Value) :
    (readValue value).isSome = value.isAny :=
  rfl

theorem isSome_ite_some (holds : Prop) [Decidable holds] (value : α) :
    (if holds then some value else none).isSome = decide holds := by
  by_cases known : holds <;> simp [known]

@[simp] theorem isSome_readU32 (value : Value) :
    (readU32 value).isSome = value.isU32 := by
  cases value with
  | int value => exact isSome_ite_some _ _
  | null | bool _ | float _ | string _ | array _ | object _ => rfl

@[simp] theorem isSome_readI64 (value : Value) :
    (readI64 value).isSome = value.isI64 := by
  cases value with
  | int value => exact isSome_ite_some _ _
  | null | bool _ | float _ | string _ | array _ | object _ => rfl

@[simp] theorem isSome_readOption (read : Value → Option α) (value : Value) :
    (readOption read value).isSome =
      value.isNullOr fun inner => (read inner).isSome := by
  cases value <;> simp [readOption, Value.isNullOr]

theorem isSome_mapM (read : β → Option α) (items : List β) :
    (items.mapM read).isSome = items.all fun item => (read item).isSome := by
  induction items with
  | nil => rfl
  | cons item rest ih =>
      simp [List.mapM_cons, Option.isSome_bind, any_const, ih]

@[simp] theorem isSome_readVec (read : Value → Option α) (value : Value) :
    (readVec read value).isSome =
      value.isListOf fun item => (read item).isSome := by
  cases value with
  | array items => exact isSome_mapM read items
  | null | bool _ | int _ | float _ | string _ | object _ => rfl

theorem isSome_fromWire (name : String) :
    (Role.fromWire name).isSome =
      decide (name = "client" ∨ name = "server") := by
  unfold Role.fromWire
  split <;> simp_all

@[simp] theorem isSome_readRole (value : Value) :
    (readRole value).isSome = value.isRole .derived := by
  unfold readRole
  split <;> simp_all [Value.isRole, isSome_fromWire]

namespace Fields

variable (fields : Fields) (index : Nat) (name : String)
  (read : Value → Option α)

@[simp] theorem isSome_required :
    (fields.required index name read).isSome =
      (FieldRule.required name fun value => (read value).isSome).admits
        (fields.find? index name) := by
  unfold required
  cases fields.find? index name <;> rfl

@[simp] theorem isSome_defaulted (default : α) :
    (fields.defaulted index name read default).isSome =
      (FieldRule.defaulted name fun value => (read value).isSome).admits
        (fields.find? index name) := by
  unfold defaulted
  cases fields.find? index name <;> rfl

@[simp] theorem isSome_optional :
    (fields.optional index name read).isSome =
      (FieldRule.optional name fun value => (read value).isSome).admits
        (fields.find? index name) := by
  unfold optional FieldRule.optional
  rw [isSome_defaulted]
  simp only [isSome_readOption]

@[simp] theorem isSome_strings :
    (fields.strings index name).isSome =
      (FieldRule.strings name).admits (fields.find? index name) := by
  unfold strings FieldRule.strings
  rw [isSome_defaulted]
  simp only [isSome_readVec, isSome_readString]

end Fields

/-- A struct is read exactly when its fields follow the rules that its build
checks. -/
theorem isSome_readStruct
    {arity : Nat} {rules : List FieldRule} {build : Fields → Option α}
    (checks : ∀ fields, (build fields).isSome = fields.follow 0 rules)
    (complete : arity = rules.length) (value : Value) :
    (readStruct arity build value).isSome =
      fitsRules .derived rules value := by
  cases value with
  | object entries => exact checks (.named entries)
  | array items =>
      by_cases short : items.length ≤ arity
      · have short' : items.length ≤ rules.length := complete ▸ short
        simp [readStruct, fitsRules, short, short', checks]
      · have long : ¬items.length ≤ rules.length := complete ▸ short
        simp [readStruct, fitsRules, short, long]
  | null | bool _ | int _ | float _ | string _ => rfl

end Readers

@[simp] theorem isSome_readHelloSession (value : Value) :
    (readHelloSession value).isSome =
      fitsRules .derived sessionRules value := by
  refine isSome_readStruct (fun fields => ?_) ?_ value
  · simp [sessionRules, Fields.follow, Option.isSome_bind,
      FieldRule.required]
  · rfl

theorem isSome_readQueryOkBody (body : Value) :
    (readQueryOkBody body).isSome = bodyFits .derived .queryOk body := by
  cases body with
  | object fields =>
      cases found : fields.lookup "cmd" <;>
        simp [readQueryOkBody, bodyFits, bodyRules, fitsRules,
          Value.isObject, Fields.follow, Fields.find?, FieldRule.required,
          FieldRule.admits, Option.isSome_bind, found]
  | null | bool _ | int _ | float _ | string _ | array _ => rfl

/-- The body of a frame is read exactly when it fits the derived reading of the
schema of its type. -/
theorem isOk_deserializeValue
    (serde : SerdeJson) (msgType : MessageType) (body : Value) :
    (deserializeValue serde body msgType).isOk =
      bodyFits .derived msgType body := by
  have settled {α : Type} {read : Option α} {wrap : α → Body}
      {outcome : Option Body} (found : read.map wrap = outcome) :
      outcome.isSome = read.isSome := by
    rw [← found, Option.isSome_map]
  cases msgType
  case queryOk =>
    dsimp only [deserializeValue]
    split
    next found => exact (settled found).trans (isSome_readQueryOkBody body)
    next found => exact (settled found).trans (isSome_readQueryOkBody body)
  all_goals
    dsimp only [deserializeValue]
    split
  all_goals
    rename_i found
    refine (settled found).trans
      (isSome_readStruct (fun fields => ?_) ?_ body)
    · simp [bodyRules, Fields.follow, Option.isSome_bind,
        FieldRule.required, FieldRule.defaulted, FieldRule.optional,
        FieldRule.strings]
    · rfl

theorem error_of_deserializeValue
    {serde : SerdeJson} {msgType : MessageType} {body : Value}
    {error : DecodeError}
    (failed : deserializeValue serde body msgType = .error error) :
    error = .malformed (serde.misfit msgType body) := by
  dsimp only [deserializeValue] at failed
  split at failed
  · cases failed
  · cases failed
    rfl

theorem isRole_documented (value : Value) :
    value.isRole .documented =
      (value.isRole .derived && !value.isObject) := by
  unfold Value.isRole
  split <;> simp [Value.isObject]

theorem fitsRules_documented (rules : List FieldRule) (value : Value) :
    fitsRules .documented rules value =
      (fitsRules .derived rules value && !value.isArray) := by
  cases value <;> simp [fitsRules, Value.isArray]

theorem sessions_documented (value : Value) :
    value.isListOf (fitsRules .documented sessionRules) =
      (value.isListOf (fitsRules .derived sessionRules) &&
        !value.holdsArray) := by
  cases value with
  | array items =>
      induction items with
      | nil => rfl
      | cons item rest ih =>
          simp only [Value.isListOf, Value.holdsArray, List.all_cons,
            List.any_cons, fitsRules_documented] at ih ⊢
          rw [ih, Bool.not_or]
          ac_rfl
  | null | bool _ | int _ | float _ | string _ | object _ =>
      simp [Value.isListOf]

theorem admits_role_documented (field : Option Value) :
    (FieldRule.required "role" (Value.isRole .documented)).admits field =
      ((FieldRule.required "role" (Value.isRole .derived)).admits field &&
        !field.any Value.isObject) := by
  cases field with
  | none => rfl
  | some value => exact isRole_documented value

theorem admits_sessions_documented (field : Option Value) :
    (FieldRule.defaulted "sessions"
        (Value.isListOf (fitsRules .documented sessionRules))).admits
        field =
      ((FieldRule.defaulted "sessions"
          (Value.isListOf (fitsRules .derived sessionRules))).admits field &&
        !field.any Value.holdsArray) := by
  cases field with
  | none => rfl
  | some value => exact sessions_documented value

/-- The documented reading of a body is its derived reading for the bodies that
are written as the documentation writes them. -/
theorem bodyFits_documented (msgType : MessageType) (body : Value) :
    bodyFits .documented msgType body =
      (bodyFits .derived msgType body && isPlain msgType body) := by
  cases body with
  | object entries =>
      by_cases greeting : msgType = .hello
      · have plain :
            isPlain .hello (.object entries) =
              (!(entries.lookup "role").any Value.isObject &&
                !(entries.lookup "sessions").any Value.holdsArray) := by
          simp [isPlain]
        subst greeting
        rw [plain]
        simp only [bodyFits, bodyRules, fitsRules, Fields.follow,
          Fields.find?, admits_role_documented, admits_sessions_documented,
          Bool.and_true]
        simp only [FieldRule.required, FieldRule.defaulted]
        ac_rfl
      · cases msgType <;>
          simp_all [bodyFits, bodyRules, fitsRules, isPlain]
  | null | bool _ | int _ | float _ | string _ | array _ =>
      cases msgType <;> simp [bodyFits, fitsRules, isPlain, Value.isObject]

section Envelope

variable {serde : SerdeJson} {raw name : String}
  {fields : List (String × Value)} {msgType : MessageType}

theorem requireField_of_some
    {α : Type} {key message : String} {read : Value → Option α} {value : α}
    (found : (fields.lookup key).bind read = some value) :
    requireField fields key message read = .ok value := by
  simp [requireField, found]

theorem requireField_of_none
    {α : Type} {key message : String} {read : Value → Option α}
    (missing : (fields.lookup key).bind read = none) :
    requireField fields key message read = .error (.malformed message) := by
  simp [requireField, missing]

theorem knownType_eq_some_iff :
    knownType fields = some msgType ↔
      ∃ name,
        (fields.lookup "type").bind Value.asStr = some name ∧
        MessageType.fromWire name = some msgType := by
  unfold knownType
  rw [Option.bind_eq_some_iff]

/-- An object of known type whose `v` is a 64-bit number and whose other fields
are there becomes an envelope. -/
theorem parseEnvelope_of_fields
    {version : Nat} {id ts sender : String} {body : Value}
    (read : serde.fromStr raw = .ok (.object fields))
    (known : knownType fields = some msgType)
    (hasVersion : (fields.lookup "v").bind Value.asU64 = some version)
    (hasId : (fields.lookup "id").bind Value.asStr = some id)
    (hasTs : (fields.lookup "ts").bind Value.asStr = some ts)
    (hasSender : (fields.lookup "from").bind Value.asStr = some sender)
    (hasBody : fields.lookup "body" = some body) :
    parseEnvelope serde raw =
      .ok
        { v := UInt32.ofNat version, msgType, id, ts, sender, body } := by
  obtain ⟨name, hasType, wire⟩ := knownType_eq_some_iff.mp known
  have hasBody' : (fields.lookup "body").bind readValue = some body := by
    rw [hasBody]
    rfl
  simp [parseEnvelope, read, requireField_of_some hasType, wire,
    requireField_of_some hasVersion, requireField_of_some hasId,
    requireField_of_some hasTs, requireField_of_some hasSender,
    requireField_of_some hasBody', bind, Except.bind]

/-- An object of known type without one of them is malformed. -/
theorem parseEnvelope_of_incomplete
    (read : serde.fromStr raw = .ok (.object fields))
    (known : knownType fields = some msgType)
    (incomplete :
      (fields.lookup "v").bind Value.asU64 = none ∨
        isFramed fields = false) :
    ∃ message,
      parseEnvelope serde raw = .error (.malformed message) := by
  obtain ⟨name, hasType, wire⟩ := knownType_eq_some_iff.mp known
  simp only [parseEnvelope, read, requireField_of_some hasType, wire, bind,
    Except.bind]
  cases version : (fields.lookup "v").bind Value.asU64 with
  | none => simp [requireField_of_none version]
  | some version' =>
      simp only [requireField_of_some version]
      cases id : (fields.lookup "id").bind Value.asStr with
      | none => simp [requireField_of_none id]
      | some id' =>
          simp only [requireField_of_some id]
          cases ts : (fields.lookup "ts").bind Value.asStr with
          | none => simp [requireField_of_none ts]
          | some ts' =>
              simp only [requireField_of_some ts]
              cases sender : (fields.lookup "from").bind Value.asStr with
              | none => simp [requireField_of_none sender]
              | some sender' =>
                  simp only [requireField_of_some sender]
                  have noBody :
                      (fields.lookup "body").bind readValue = none := by
                    simpa [version, isFramed, hasText, id, ts, sender,
                      readValue] using incomplete
                  simp [requireField_of_none noBody]

/-- Only an object of known type becomes an envelope. -/
theorem knownType_of_parseEnvelope {parsed : ParsedEnvelope}
    (done : parseEnvelope serde raw = .ok parsed) :
    ∃ fields msgType,
      serde.fromStr raw = .ok (.object fields) ∧
        knownType fields = some msgType := by
  unfold parseEnvelope at done
  split at done
  · cases done
  · rename_i fields read
    refine ⟨fields, ?_⟩
    cases hasType : (fields.lookup "type").bind Value.asStr with
    | none =>
        rw [requireField_of_none hasType] at done
        cases done
    | some name =>
        rw [requireField_of_some hasType] at done
        cases wire : MessageType.fromWire name with
        | none =>
            simp [bind, Except.bind, wire] at done
        | some msgType =>
            exact ⟨msgType, read,
              knownType_eq_some_iff.mpr ⟨name, hasType, wire⟩⟩
  · cases done

/-- The fields of an envelope are those of the object it was read from. -/
theorem fields_of_parseEnvelope {parsed : ParsedEnvelope}
    (done : parseEnvelope serde raw = .ok parsed) :
    ∃ fields version,
      serde.fromStr raw = .ok (.object fields) ∧
        knownType fields = some parsed.msgType ∧
        (fields.lookup "v").bind Value.asU64 = some version ∧
        parsed.v = UInt32.ofNat version ∧
        (fields.lookup "id").bind Value.asStr = some parsed.id ∧
        (fields.lookup "ts").bind Value.asStr = some parsed.ts ∧
        (fields.lookup "from").bind Value.asStr = some parsed.sender ∧
        fields.lookup "body" = some parsed.body := by
  obtain ⟨fields, msgType, read, known⟩ := knownType_of_parseEnvelope done
  have complete :
      ¬((fields.lookup "v").bind Value.asU64 = none ∨
        isFramed fields = false) := by
    intro incomplete
    obtain ⟨message, failed⟩ :=
      parseEnvelope_of_incomplete read known incomplete
    rw [done] at failed
    cases failed
  have framed : isFramed fields = true := by
    by_contra unframed
    exact complete (.inr (Bool.eq_false_iff.mpr unframed))
  obtain ⟨version, hasVersion⟩ :
      ∃ version, (fields.lookup "v").bind Value.asU64 = some version :=
    Option.ne_none_iff_exists'.mp fun missing => complete (.inl missing)
  simp only [isFramed, hasText, Bool.and_eq_true, Option.isSome_iff_exists]
    at framed
  obtain ⟨⟨⟨⟨id, hasId⟩, ts, hasTs⟩, sender, hasSender⟩, body, hasBody⟩ :=
    framed
  have same :=
    done.symm.trans
      (parseEnvelope_of_fields read known hasVersion hasId hasTs hasSender
        hasBody)
  cases same
  exact ⟨fields, version, read, known, hasVersion, rfl, hasId, hasTs,
    hasSender, hasBody⟩

/-- A decoded frame is of version 1, and its body is read as its type says. -/
theorem parsed_of_decode {envelope : Envelope}
    (done : decode serde raw = .ok envelope) :
    ∃ body,
      parseEnvelope serde raw =
        .ok
          { v := envelope.v
            msgType := envelope.msgType
            id := envelope.id
            ts := envelope.ts
            sender := envelope.sender
            body } ∧
        envelope.v = 1 ∧
        deserializeValue serde body envelope.msgType =
          .ok envelope.body := by
  cases outcome : parseEnvelope serde raw with
  | error error =>
      simp [decode, outcome, bind, Except.bind] at done
  | ok parsed =>
      simp only [decode, outcome, bind, Except.bind] at done
      by_cases current : parsed.v = 1
      · simp only [current, ne_eq, not_true_eq_false, if_false,
          ParsedEnvelope.tryInto] at done
        cases read : deserializeValue serde parsed.body parsed.msgType with
        | ok body =>
            rw [read] at done
            cases done
            refine ⟨parsed.body, ?_, rfl, read⟩
            rw [← current]
        | error error =>
            obtain rfl := error_of_deserializeValue read
            rw [read] at done
            cases done
      · simp [current] at done

/-- What a frame whose envelope was read comes to. -/
theorem verdictOf_decode_of_parsed {parsed : ParsedEnvelope}
    (done : parseEnvelope serde raw = .ok parsed) :
    verdictOf (decode serde raw) =
      if parsed.v = 1 then
        if bodyFits .derived parsed.msgType parsed.body then .accepted
        else .malformed
      else .unsupportedVersion := by
  have settled := isOk_deserializeValue serde parsed.msgType parsed.body
  by_cases current : parsed.v = 1
  · cases outcome : deserializeValue serde parsed.body parsed.msgType with
    | ok body =>
        rw [outcome] at settled
        simp [decode, done, bind, Except.bind, current,
          ParsedEnvelope.tryInto, outcome, ← settled, verdictOf,
          Except.isOk, Except.toBool]
    | error error =>
        rw [outcome] at settled
        obtain rfl := error_of_deserializeValue outcome
        simp [decode, done, bind, Except.bind, current,
          ParsedEnvelope.tryInto, outcome, ← settled, verdictOf,
          Except.isOk, Except.toBool]
  · simp [decode, done, bind, Except.bind, current, verdictOf]

/-- What a complete frame of known type comes to. -/
theorem verdictOf_decode_of_framed {version : Nat}
    (read : serde.fromStr raw = .ok (.object fields))
    (known : knownType fields = some msgType)
    (hasVersion : (fields.lookup "v").bind Value.asU64 = some version)
    (framed : isFramed fields = true) :
    verdictOf (decode serde raw) =
      if UInt32.ofNat version = 1 then
        if bodyFitsIn .derived msgType fields then .accepted
        else .malformed
      else .unsupportedVersion := by
  simp only [isFramed, hasText, Bool.and_eq_true, Option.isSome_iff_exists]
    at framed
  obtain ⟨⟨⟨⟨id, hasId⟩, ts, hasTs⟩, sender, hasSender⟩, body, hasBody⟩ :=
    framed
  rw [verdictOf_decode_of_parsed
    (parseEnvelope_of_fields read known hasVersion hasId hasTs hasSender
      hasBody)]
  simp [bodyFitsIn, hasBody]

/-- What an incomplete frame of known type comes to. -/
theorem verdictOf_decode_of_incomplete
    (read : serde.fromStr raw = .ok (.object fields))
    (known : knownType fields = some msgType)
    (incomplete :
      (fields.lookup "v").bind Value.asU64 = none ∨
        isFramed fields = false) :
    verdictOf (decode serde raw) = .malformed := by
  obtain ⟨message, failed⟩ :=
    parseEnvelope_of_incomplete read known incomplete
  simp [decode, failed, bind, Except.bind, verdictOf]

end Envelope

section Versions

/-- The conversion to 32 bits gives 1 where the low 32 bits are those of 1. -/
theorem ofNat_eq_one_iff {version : Int} (nonneg : 0 ≤ version) :
    UInt32.ofNat version.toNat = 1 ↔ version % 2 ^ 32 = 1 := by
  have low :
      UInt32.ofNat version.toNat = 1 ↔ version.toNat % 2 ^ 32 = 1 := by
    rw [← UInt32.toNat_inj, UInt32.toNat_ofNat']
    rfl
  rw [low]
  omega

theorem asU64_int_of_nonneg {version : Int}
    (nonneg : 0 ≤ version) (small : version < 2 ^ 64) :
    (Value.int version).asU64 = some version.toNat :=
  if_pos ⟨nonneg, small⟩

theorem asU64_int_of_negative {version : Int} (negative : ¬0 ≤ version) :
    (Value.int version).asU64 = none :=
  if_neg fun bounds => negative bounds.1

theorem asU64_int_of_large {version : Int} (large : 2 ^ 64 ≤ version) :
    (Value.int version).asU64 = none :=
  if_neg fun bounds => by omega

end Versions

section Verdicts

variable {serde : SerdeJson} {raw : String}
  {fields : List (String × Value)} {msgType : MessageType}

/-- A frame of version 1 is judged by its body. -/
theorem verdictOf_decode_of_one
    (read : serde.fromStr raw = .ok (.object fields))
    (known : knownType fields = some msgType)
    (framed : isFramed fields = true)
    (hasVersion : fields.lookup "v" = some (.int 1)) :
    verdictOf (decode serde raw) =
      if bodyFitsIn .derived msgType fields then .accepted
      else .malformed := by
  have asU64 : (fields.lookup "v").bind Value.asU64 = some 1 := by
    rw [hasVersion]
    rfl
  rw [verdictOf_decode_of_framed read known asU64 framed]
  rfl

/-- The verdict on a complete frame of known type whose `v` is an integer. -/
theorem verdictOf_decode_of_int {version : Int}
    (read : serde.fromStr raw = .ok (.object fields))
    (known : knownType fields = some msgType)
    (framed : isFramed fields = true)
    (hasVersion : fields.lookup "v" = some (.int version)) :
    verdictOf (decode serde raw) = grammarKnown msgType fields ↔
      ((Value.int version).isNarrowed ||
        (Value.int version).isOne && bodyFitsIn .derived msgType fields &&
          !(fields.lookup "body").any (isPlain msgType)) = false := by
  by_cases one : version = 1
  · subst one
    rw [verdictOf_decode_of_one read known framed hasVersion]
    obtain ⟨body, hasBody⟩ :
        ∃ body, fields.lookup "body" = some body := by
      simpa [isFramed, Option.isSome_iff_exists] using
        (Bool.and_eq_true_iff.mp framed).2
    by_cases fits : bodyFits .derived msgType body = true <;>
      by_cases plain : isPlain msgType body = true <;>
      simp [grammarKnown, framed, hasVersion, bodyFitsIn, hasBody,
        bodyFits_documented, fits, plain, Value.isNarrowed, Value.isOne]
  · have grammarly :
        grammarKnown msgType fields =
          if 0 ≤ version then .unsupportedVersion else .malformed := by
      simp [grammarKnown, framed, hasVersion, one]
    rw [grammarly]
    have notOne : (Value.int version).isOne = false := by
      simp [Value.isOne, one]
    rw [notOne, Bool.false_and, Bool.false_and, Bool.or_false]
    by_cases nonneg : 0 ≤ version
    · rw [if_pos nonneg]
      by_cases small : version < 2 ^ 64
      · have asU64 :
            (fields.lookup "v").bind Value.asU64 = some version.toNat := by
          rw [hasVersion]
          exact asU64_int_of_nonneg nonneg small
        have narrowed :
            (Value.int version).isNarrowed =
              decide (UInt32.ofNat version.toNat = 1) := by
          unfold Value.isNarrowed
          rw [decide_eq_decide, ofNat_eq_one_iff nonneg]
          omega
        rw [verdictOf_decode_of_framed read known asU64 framed, narrowed]
        by_cases low : UInt32.ofNat version.toNat = 1
        · rw [if_pos low]
          split <;> simp [low]
        · simp [low]
      · have large : 2 ^ 64 ≤ version := by omega
        have incomplete : (fields.lookup "v").bind Value.asU64 = none := by
          rw [hasVersion]
          exact asU64_int_of_large large
        rw [verdictOf_decode_of_incomplete read known (.inl incomplete)]
        have narrowed : (Value.int version).isNarrowed = true :=
          decide_eq_true ⟨nonneg, one, .inl large⟩
        simp [narrowed]
    · have incomplete : (fields.lookup "v").bind Value.asU64 = none := by
        rw [hasVersion]
        exact asU64_int_of_negative nonneg
      rw [if_neg nonneg,
        verdictOf_decode_of_incomplete read known (.inl incomplete)]
      simp [Value.isNarrowed, nonneg]

/-- The verdict on a frame of known type. -/
theorem verdictOf_decode_of_known
    (read : serde.fromStr raw = .ok (.object fields))
    (known : knownType fields = some msgType) :
    verdictOf (decode serde raw) = grammarKnown msgType fields ↔
      strays (some (.object fields)) = false := by
  by_cases framed : isFramed fields = true
  · have complete :
        strays (some (.object fields)) =
          ((fields.lookup "v").any Value.isNarrowed ||
            (fields.lookup "v").any Value.isOne &&
              bodyFitsIn .derived msgType fields &&
              !(fields.lookup "body").any (isPlain msgType)) := by
      simp [strays, known, framed]
    rw [complete]
    have noInteger
        (wrong : (fields.lookup "v").bind Value.asU64 = none)
        (malformed : grammarKnown msgType fields = .malformed)
        (unmarked :
          (fields.lookup "v").any Value.isNarrowed = false ∧
            (fields.lookup "v").any Value.isOne = false) :
        verdictOf (decode serde raw) = grammarKnown msgType fields ↔
          ((fields.lookup "v").any Value.isNarrowed ||
            (fields.lookup "v").any Value.isOne &&
              bodyFitsIn .derived msgType fields &&
              !(fields.lookup "body").any (isPlain msgType)) = false := by
      rw [verdictOf_decode_of_incomplete read known (.inl wrong), malformed,
        unmarked.1, unmarked.2]
      simp
    cases version : fields.lookup "v" with
    | none =>
        rw [version] at noInteger
        exact noInteger rfl (by simp [grammarKnown, version]) ⟨rfl, rfl⟩
    | some value =>
        rw [version] at noInteger
        cases value with
        | int value => exact verdictOf_decode_of_int read known framed version
        | null | bool _ | float _ | string _ | array _ | object _ =>
            exact
              noInteger rfl (by simp [grammarKnown, version]) ⟨rfl, rfl⟩
  · have unframed : isFramed fields = false := by simpa using framed
    rw [verdictOf_decode_of_incomplete read known (.inr unframed)]
    simp [grammarKnown, strays, known, unframed]

end Verdicts

/-- `decode` judges a text as the v1 grammar does exactly when the text is no
stray: no complete frame of known type whose version is narrowed to 1 or does not
fit 64 bits, and none of version 1 whose body only the derived reading takes. -/
theorem decode_follows_grammar_iff (serde : SerdeJson) (raw : String) :
    verdictOf (decode serde raw) = grammar (serde.fromStr raw).toOption ↔
      strays (serde.fromStr raw).toOption = false := by
  cases read : serde.fromStr raw with
  | error message =>
      simp [decode, parseEnvelope, read, bind, Except.bind, verdictOf,
        grammar, strays, Except.toOption]
  | ok value =>
      cases value with
      | object fields =>
          cases hasType : (fields.lookup "type").bind Value.asStr with
          | none =>
              simp [decode, parseEnvelope, read,
                requireField_of_none hasType, bind, Except.bind, verdictOf,
                grammar, strays, knownType, Except.toOption, hasType]
          | some name =>
              cases wire : MessageType.fromWire name with
              | none =>
                  simp [decode, parseEnvelope, read,
                    requireField_of_some hasType, wire, bind, Except.bind,
                    verdictOf, grammar, strays, knownType, Except.toOption,
                    hasType]
              | some msgType =>
                  have known : knownType fields = some msgType :=
                    knownType_eq_some_iff.mpr ⟨name, hasType, wire⟩
                  have grammarly :
                      grammar (some (.object fields)) =
                        grammarKnown msgType fields := by
                    simp [grammar, hasType, wire]
                  exact
                    (Eq.congr_right grammarly).trans
                      (verdictOf_decode_of_known read known)
      | null | bool _ | int _ | float _ | string _ | array _ =>
          simp [decode, parseEnvelope, read, bind, Except.bind, verdictOf,
            grammar, strays, Except.toOption]

/-- A ping whose version is 2 ^ 32 + 1. -/
def wideText : String :=
  "\x7b\"v\":4294967297,\"type\":\"ping\",\"id\":\"p1\"," ++
    "\"ts\":\"2026-01-01T00:00:00Z\",\"from\":\"t1\",\"body\":\x7b\x7d\x7d"

/-- An interrupt whose body is an array. -/
def arrayText : String :=
  "\x7b\"v\":1,\"type\":\"interrupt\",\"id\":\"i1\"," ++
    "\"ts\":\"2026-01-01T00:00:00Z\",\"from\":\"t1\",\"body\":[\"s1\"]\x7d"

/-- The values of these texts. -/
def straySerde : SerdeJson :=
  .ofTable
    [(wideText,
        .object
          [("body", .object []), ("from", .string "t1"),
            ("id", .string "p1"), ("ts", .string "2026-01-01T00:00:00Z"),
            ("type", .string "ping"), ("v", .int 4294967297)]),
      (arrayText,
        .object
          [("body", .array [.string "s1"]), ("from", .string "t1"),
            ("id", .string "i1"), ("ts", .string "2026-01-01T00:00:00Z"),
            ("type", .string "interrupt"), ("v", .int 1)])]

/-- The conversion to 32 bits takes the first for version 1, the derived reading
takes the second for an object. -/
theorem decode_departs_from_grammar :
    verdictOf (decode straySerde wideText) = .accepted ∧
      grammar (straySerde.fromStr wideText).toOption =
        .unsupportedVersion ∧
      verdictOf (decode straySerde arrayText) = .accepted ∧
      grammar (straySerde.fromStr arrayText).toOption = .malformed := by
  decide +kernel

end HollerServer.Proto
