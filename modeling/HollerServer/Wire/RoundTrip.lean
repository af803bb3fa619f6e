import HollerServer.Wire.Connection
import HollerServer.Wire.Encode

/-!
# The round trip of the codec

`decode` is the inverse of `encode` on the well-formed envelopes; what `decode`
returns is well-formed, and so is what the server builds.  Of serde_json it is
used that the text of a value is read as that value.
-/

namespace HollerServer.Wire

open HollerServer.Proto
open HollerServer.Token

/-- An envelope of version 1 whose body is of its type, where the answer to a
query is an object without a key `cmd` of its own and the metadata of a prompt is
not null. -/
structure WellFormed (envelope : Envelope) : Prop where
  current : envelope.v = 1
  matching : bodyType envelope.body = envelope.msgType
  rest :
    ∀ body, envelope.body = .queryOk body →
      ∃ fields,
        body.rest = .object fields ∧ fields.lookup "cmd" = none
  metadata :
    ∀ body, envelope.body = .prompt body → body.metadata ≠ some .null

/-- An integer of 64 bits, signed or unsigned. -/
def isMachineInt (value : Int) : Bool :=
  -2 ^ 63 ≤ value ∧ value < 2 ^ 64

/-- The JSON values that an envelope carries are such as serde_json holds, their
numbers are integers, and the envelope nests less deep than its reader goes. -/
structure Carriable (limit : Nat) (envelope : Envelope) : Prop where
  held : ∀ value ∈ carried envelope.body, IsHeld value
  integral :
    ∀ value ∈ carried envelope.body, value.isIntegral isMachineInt = true
  shallow :
    ∀ value, envelopeValue envelope = some value → value.depth < limit

/-- The round trip of serde_json: of the text of a value whose numbers are
integers, and that nests less deep than the limit, the value is read as a map holds
it. -/
def ReadsBack (serde : SerdeJson) : Prop :=
  ∀ value : Value,
    value.isIntegral isMachineInt = true →
      value.depth < serde.limit →
      serde.fromStr value.compact = .ok (normal value)

/-- The reader of compact texts in the place of serde_json's. -/
def compactSerde : SerdeJson where
  fromStr := fun text =>
    match Value.ofText text with
    | some value => .ok (normal value)
    | none => .error "expected value at line 1 column 1"
  misfit := fun _ _ => "invalid type"

theorem readsBack_compactSerde : ReadsBack compactSerde := by
  intro value integral _
  have back : Value.ofText (value.compact ++ "") = some value :=
    Value.ofText_compact integral rfl
  rw [String.append_empty] at back
  simp [compactSerde, back]

section Integral

variable {fits : Int → Bool}

theorem areIntegral_iff (items : List Value) :
    Value.areIntegral fits items = true ↔
      ∀ item ∈ items, item.isIntegral fits = true := by
  induction items with
  | nil => simp [Value.areIntegral]
  | cons item rest ih => simp [Value.areIntegral, ih]

@[simp] theorem isIntegral_structValue_nil :
    (structValue []).isIntegral fits = true :=
  rfl

@[simp] theorem isIntegral_structValue_cons (key : String)
    (field : Option Value) (fields : List (String × Option Value)) :
    (structValue ((key, field) :: fields)).isIntegral fits =
      (field.all (Value.isIntegral fits) &&
        (structValue fields).isIntegral fits) := by
  cases field <;> rfl

@[simp] theorem all_textField (value : String) :
    (textField value).all (Value.isIntegral fits) = true :=
  rfl

@[simp] theorem all_textFieldIfSome (value : Option String) :
    (textFieldIfSome value).all (Value.isIntegral fits) = true := by
  cases value <;> rfl

@[simp] theorem isIntegral_jsonStrings (values : List String) :
    (jsonStrings values).isIntegral fits = true := by
  refine (areIntegral_iff _).mpr ?_
  intro item member
  obtain ⟨value, _, rfl⟩ := List.mem_map.mp member
  rfl

@[simp] theorem all_textsFieldIfAny (values : List String) :
    (textsFieldIfAny values).all (Value.isIntegral fits) = true := by
  unfold textsFieldIfAny
  split
  · rfl
  · exact isIntegral_jsonStrings values

@[simp] theorem all_sessionsFieldIfAny (sessions : List HelloSession) :
    (sessionsFieldIfAny sessions).all (Value.isIntegral fits) = true := by
  unfold sessionsFieldIfAny
  split
  · rfl
  · refine (areIntegral_iff _).mpr ?_
    intro item member
    obtain ⟨session, _, rfl⟩ := List.mem_map.mp member
    simp [sessionValue]

@[simp] theorem isIntegral_roleValue (role : Role) :
    (roleValue role).isIntegral fits = true := by
  cases role <;> rfl

end Integral

theorem isMachineInt_u32 (value : UInt32) :
    isMachineInt value.toNat = true := by
  have bound : value.toNat < 2 ^ 32 := value.toNat_lt
  unfold isMachineInt
  rw [decide_eq_true_iff]
  constructor <;> omega

theorem isMachineInt_i64 (value : Int64) :
    isMachineInt value.toInt = true := by
  have low : -2 ^ 63 ≤ value.toInt := value.le_toInt
  have high : value.toInt < 2 ^ 63 := value.toInt_lt
  unfold isMachineInt
  rw [decide_eq_true_iff]
  constructor <;> omega

@[simp] theorem all_u32Field (value : UInt32) :
    (u32Field value).all (Value.isIntegral isMachineInt) = true := by
  rw [u32Field, Option.all_some, Value.isIntegral, isMachineInt_u32]

@[simp] theorem all_exit (value : Option Int64) :
    (value.map fun code => Value.int code.toInt).all
      (Value.isIntegral isMachineInt) = true := by
  cases value with
  | none => rfl
  | some code =>
      rw [Option.map_some, Option.all_some, Value.isIntegral,
        isMachineInt_i64]

/-- The numbers of an encoded body are integers if those it carries are. -/
theorem isIntegral_bodyValue {body : Body} {value : Value}
    (encoded : bodyValue body = some value)
    (integral :
      ∀ inner ∈ carried body, inner.isIntegral isMachineInt = true) :
    value.isIntegral isMachineInt = true := by
  cases body
  case queryOk body =>
    have rest := integral body.rest (by simp [carried])
    simp only [bodyValue, queryOkValue] at encoded
    split at encoded
    next fields same =>
      cases encoded
      rw [same] at rest
      exact rest
    next =>
      cases encoded
      rfl
    next => cases encoded
  case auth body =>
    cases encoded
    simpa using integral body.credential (by simp [carried])
  case prompt body =>
    cases encoded
    have metadata :
        body.metadata.all (Value.isIntegral isMachineInt) = true := by
      cases same : body.metadata with
      | none => rfl
      | some inner => exact integral inner (by simp [carried, same])
    simpa using metadata
  case presence body =>
    cases encoded
    have sessions := (areIntegral_iff body.sessions).mpr integral
    simpa [Value.isIntegral] using sessions
  all_goals
    cases encoded
    simp [helloFields, errorValue, Value.isIntegral]

theorem fromWire_asWireStr (msgType : MessageType) :
    MessageType.fromWire msgType.asWireStr = some msgType := by
  cases msgType <;> rfl

/-- The envelope of a text that was encoded. -/
theorem parseEnvelope_encode
    {serde : SerdeJson} {envelope : Envelope} {body : Value} {raw : String}
    (current : envelope.v = 1)
    (read :
      serde.fromStr raw =
        .ok (normal (structValue (envelopeFields envelope body)))) :
    parseEnvelope serde raw =
      .ok
        { v := envelope.v
          msgType := envelope.msgType
          id := envelope.id
          ts := envelope.ts
          sender := envelope.sender
          body := normal body } := by
  have distinct :
      ((envelopeFields envelope body).map Prod.fst).Nodup := by
    simp [envelopeFields]
  obtain ⟨entries, read, found⟩ :
      ∃ entries,
        serde.fromStr raw = .ok (.object entries) ∧
          ∀ name,
            entries.lookup name =
              ((envelopeFields envelope body).lookup name).join.map
                normal :=
    ⟨_, read, find_present distinct 0⟩
  have texts {name value : String}
      (same :
        (envelopeFields envelope body).lookup name =
          some (textField value)) :
      (entries.lookup name).bind Value.asStr = some value := by
    rw [found, same]
    rfl
  have known : knownType entries = some envelope.msgType :=
    knownType_eq_some_iff.mpr
      ⟨envelope.msgType.asWireStr, texts rfl,
        fromWire_asWireStr envelope.msgType⟩
  have version :
      (entries.lookup "v").bind Value.asU64 = some 1 := by
    have stored :
        (envelopeFields envelope body).lookup "v" =
          some (some (.int 1)) := by
      simp [envelopeFields, u32Field, current]
    rw [found, stored]
    rfl
  have hasBody : entries.lookup "body" = some (normal body) := by
    rw [found]
    rfl
  have hasId : (entries.lookup "id").bind Value.asStr = some envelope.id :=
    texts rfl
  have hasTs : (entries.lookup "ts").bind Value.asStr = some envelope.ts :=
    texts rfl
  have hasSender :
      (entries.lookup "from").bind Value.asStr = some envelope.sender :=
    texts rfl
  rw [parseEnvelope_of_fields read known version hasId hasTs hasSender
    hasBody, current]
  rfl

theorem decode_of_body
    {serde : SerdeJson} {raw : String} {parsed : ParsedEnvelope}
    {body : Body} (done : parseEnvelope serde raw = .ok parsed)
    (current : parsed.v = 1)
    (read :
      deserializeValue serde parsed.body parsed.msgType = .ok body) :
    decode serde raw =
      .ok
        { v := parsed.v
          msgType := parsed.msgType
          id := parsed.id
          ts := parsed.ts
          sender := parsed.sender
          body } := by
  simp [decode, done, bind, Except.bind, current, ParsedEnvelope.tryInto,
    read]

/-- A well-formed envelope has a text. -/
theorem exists_bodyValue {envelope : Envelope}
    (wellFormed : WellFormed envelope) :
    ∃ value, bodyValue envelope.body = some value := by
  cases body : envelope.body
  case queryOk inner =>
    obtain ⟨fields, object, _⟩ := wellFormed.rest inner body
    exact ⟨_, by simp [bodyValue, queryOkValue, object]; rfl⟩
  all_goals exact ⟨_, rfl⟩

/-- A well-formed envelope is decoded from its text. -/
theorem decode_encode
    {serde : SerdeJson} (readsBack : ReadsBack serde)
    {envelope : Envelope} (wellFormed : WellFormed envelope)
    (carriable : Carriable serde.limit envelope) :
    ∃ text,
      encode envelope = some text ∧ decode serde text = .ok envelope := by
  obtain ⟨value, encoded⟩ := exists_bodyValue wellFormed
  have integral :
      (structValue (envelopeFields envelope value)).isIntegral
        isMachineInt = true := by
    have inner := isIntegral_bodyValue encoded carriable.integral
    simp [envelopeFields, inner]
  have isValue :
      envelopeValue envelope =
        some (structValue (envelopeFields envelope value)) := by
    simp [envelopeValue, encoded]
  have body :
      deserializeValue serde (normal value) envelope.msgType =
        .ok envelope.body := by
    rw [← wellFormed.matching]
    exact
      deserializeValue_bodyValue serde encoded wellFormed.rest
        wellFormed.metadata carriable.held
  refine
    ⟨(structValue (envelopeFields envelope value)).compact, ?_, ?_⟩
  · simp [encode, isValue]
  · exact
      decode_of_body
        (parseEnvelope_encode wellFormed.current
          (readsBack _ integral (carriable.shallow _ isValue)))
        wellFormed.current body

section Decoded

theorem readOption_readValue_ne_null {value : Value}
    {metadata : Option Value}
    (read : readOption readValue value = some metadata) :
    metadata ≠ some .null := by
  rintro rfl
  cases value <;> simp [readOption, readValue] at read

theorem metadata_of_readPromptBody {value : Value} {body : PromptBody}
    (read : readPromptBody value = some body) :
    body.metadata ≠ some .null := by
  have optional {fields : Fields} {metadata : Option Value}
      (read : fields.optional 2 "meta" readValue = some metadata) :
      metadata ≠ some .null := by
    unfold Fields.optional Fields.defaulted at read
    split at read
    · exact readOption_readValue_ne_null read
    · cases read
      simp
  have built {fields : Fields}
      (read :
        (do
          some
            { session := ← fields.required 0 "session" readString
              text := ← fields.required 1 "text" readString
              metadata := ← fields.optional 2 "meta" readValue :
              PromptBody }) = some body) :
      body.metadata ≠ some .null := by
    simp only [Option.bind_eq_bind, Option.bind_eq_some_iff,
      Option.some.injEq] at read
    obtain ⟨_, _, _, _, metadata, found, rfl⟩ := read
    exact optional found
  unfold readPromptBody readStruct at read
  split at read
  · exact built read
  · split at read
    · exact built read
    · cases read
  · cases read

theorem rest_of_readQueryOkBody {value : Value} {body : QueryOkBody}
    (read : readQueryOkBody value = some body) :
    ∃ fields,
      body.rest = .object fields ∧ fields.lookup "cmd" = none := by
  unfold readQueryOkBody at read
  split at read
  · simp only [Option.bind_eq_bind, Option.bind_eq_some_iff,
      Option.some.injEq] at read
    obtain ⟨_, _, rfl⟩ := read
    exact ⟨_, rfl,
      Keyed.lookup_filter_of_not (fun key => key ≠ "cmd") (by simp)⟩
  · cases read

/-- What is read of a body is of the type that selected it. -/
theorem wellFormed_of_deserializeValue
    {serde : SerdeJson} {value : Value} {msgType : MessageType}
    {body : Body} (read : deserializeValue serde value msgType = .ok body) :
    bodyType body = msgType ∧
      (∀ inner, body = .queryOk inner →
        ∃ fields,
          inner.rest = .object fields ∧ fields.lookup "cmd" = none) ∧
      ∀ inner, body = .prompt inner → inner.metadata ≠ some .null := by
  dsimp only [deserializeValue] at read
  split at read
  next body' wrapped =>
    cases read
    cases msgType
    all_goals
      obtain ⟨inner, found, rfl⟩ := Option.map_eq_some_iff.mp wrapped
      refine ⟨rfl, ?_, ?_⟩
      · intro other same
        cases same
        try exact rest_of_readQueryOkBody found
      · intro other same
        cases same
        try exact metadata_of_readPromptBody found
  next => cases read

/-- A decoded frame is well-formed. -/
theorem wellFormed_of_decode
    {serde : SerdeJson} {raw : String} {envelope : Envelope}
    (decoded : decode serde raw = .ok envelope) : WellFormed envelope := by
  obtain ⟨body, _, current, read⟩ := parsed_of_decode decoded
  obtain ⟨matching, rest, metadata⟩ := wellFormed_of_deserializeValue read
  exact { current, matching, rest, metadata }

end Decoded

section Built

/-- An object without a key `cmd`. -/
def HasNoCmd (rest : Value) : Prop :=
  ∃ fields, rest = .object fields ∧ fields.lookup "cmd" = none

theorem lookup_foldl_insertField_of_absent
    {key : String} {fields : List (String × Value)}
    (absent : key ∉ fields.map Prod.fst)
    {built : List (String × Value)} (missing : built.lookup key = none) :
    (fields.foldl (fun built field => insertField field.1 field.2 built)
      built).lookup key = none := by
  induction fields generalizing built with
  | nil => exact missing
  | cons field rest ih =>
      rw [List.map_cons, List.mem_cons, not_or] at absent
      apply ih absent.2
      rw [lookup_insertField, if_neg absent.1, missing]

theorem hasNoCmd_jsonObject {fields : List (String × Value)}
    (absent : "cmd" ∉ fields.map Prod.fst) :
    HasNoCmd (jsonObject fields) :=
  ⟨_, rfl, lookup_foldl_insertField_of_absent absent rfl⟩

theorem hasNoCmd_setKey {rest value : Value} {key : String}
    (plain : HasNoCmd rest) (other : "cmd" ≠ key) :
    HasNoCmd (setKey rest key value) := by
  obtain ⟨fields, rfl, missing⟩ := plain
  refine ⟨_, rfl, ?_⟩
  rw [lookup_insertField, if_neg other, missing]

section Answers

variable (hostname : String) (listening : List String)
  (clients sessions : Nat) (confirmed : List HarnessConfirmation)

theorem hasNoCmd_statusRest :
    HasNoCmd
      (statusRest hostname listening clients sessions confirmed) := by
  unfold statusRest
  exact hasNoCmd_jsonObject (by simp)

theorem hasNoCmd_supportBody {args : List String} {body : QueryOkBody}
    (answered : supportBody args confirmed = .ok body) :
    HasNoCmd body.rest := by
  unfold supportBody at answered
  split at answered
  · cases answered
  · split at answered
    · cases answered
      exact hasNoCmd_jsonObject (by simp)
    · split at answered
      · cases answered
        exact hasNoCmd_jsonObject (by simp)
      · split at answered
        · cases answered
          simp only
          split
          · apply hasNoCmd_setKey _ (by decide)
            exact hasNoCmd_jsonObject (by simp)
          · apply hasNoCmd_setKey _ (by decide)
            apply hasNoCmd_setKey _ (by decide)
            exact hasNoCmd_jsonObject (by simp)
        · cases answered

theorem hasNoCmd_protocolBody {quoted : String → String}
    {args : List String} {body : QueryOkBody}
    (answered : protocolBody quoted args = .ok body) :
    HasNoCmd body.rest := by
  unfold protocolBody at answered
  simp only at answered
  split at answered
  · cases answered
    exact hasNoCmd_jsonObject (by simp)
  · split at answered
    · cases answered
    · split at answered
      · cases answered
      · cases answered
        exact hasNoCmd_jsonObject (by simp)

/-- The answer to a query has no key `cmd` beside its own. -/
theorem hasNoCmd_dispatch {quoted : String → String} {cmd : String}
    {args : List String} {body : QueryOkBody}
    (answered :
      dispatch quoted cmd args hostname listening clients sessions
        confirmed = .ok body) :
    HasNoCmd body.rest := by
  unfold dispatch at answered
  split at answered
  · cases answered
    exact hasNoCmd_statusRest hostname listening clients sessions confirmed
  · cases answered
    exact hasNoCmd_setKey
      (hasNoCmd_statusRest hostname listening clients sessions confirmed)
      (by decide)
  · exact hasNoCmd_supportBody confirmed answered
  · exact hasNoCmd_protocolBody answered
  · cases answered

end Answers

/-- The envelopes that the server builds. -/
inductive Built : Envelope → Prop
  | ping (id hostname ts : String) : Built (newPingEnvelope id hostname ts)
  | query (id cmd : String) (args : List String) (ts : String) :
      Built (newQueryEnvelope id cmd args ts)
  | prompt (id session text ts : String) :
      Built (newPromptEnvelope id session text none ts)
  | interrupt (id session ts : String) :
      Built (newInterruptEnvelope id session ts)
  | answer (id session choice ts : String) :
      Built (newAnswerEnvelope id session choice ts)
  | pong (id hostname ts : String) : Built (newPongEnvelope id hostname ts)
  | hello (id hostname ts : String) : Built (serverHello id hostname ts)
  | queryReply (settings : Settings) (context : Context)
      (envelope : Envelope) (body : QueryBody) (now : Nat) :
      Built (context.queryReply settings envelope body now)
  | joinOk (id ts clientId credential : String) :
      Built
        { v := 1
          msgType := .joinOk
          id
          ts
          sender := "server"
          body := .joinOk { clientId, credential } }
  | error (code : String) (cmd message : Option String)
      (replyId sender : String) :
      Built (newErrorEnvelope code cmd message replyId sender)

theorem Built.errorForUnknownType (unknownType replyId sender : String) :
    Built (errorForUnknownType unknownType replyId sender) :=
  .error _ _ _ _ _

theorem Built.errorFor (code replyId sender : String) :
    Built (errorFor code replyId sender) :=
  .error _ _ _ _ _

theorem Built.errorForUnknownCmd (cmd replyId sender : String) :
    Built (errorForUnknownCmd cmd replyId sender) :=
  .error _ _ _ _ _

theorem Built.errorWithMessage (code message replyId sender : String) :
    Built (errorWithMessage code message replyId sender) :=
  .error _ _ _ _ _

/-- An envelope of version 1 with a body of its type that carries no value. -/
theorem wellFormed_of_bare {envelope : Envelope}
    (current : envelope.v = 1)
    (matching : bodyType envelope.body = envelope.msgType)
    (bare : carried envelope.body = []) : WellFormed envelope where
  current := current
  matching := matching
  rest := by
    intro body same
    rw [same] at bare
    cases bare
  metadata := by
    intro body same null
    rw [same] at bare
    simp [carried, null] at bare

theorem wellFormed_queryReply (settings : Settings) (context : Context)
    (envelope : Envelope) (body : QueryBody) (now : Nat) :
    WellFormed (context.queryReply settings envelope body now) := by
  unfold Context.queryReply
  simp only
  split
  next answer answered =>
    exact
      { current := rfl
        matching := rfl
        rest := by
          intro inner same
          cases same
          exact hasNoCmd_dispatch _ _ _ _ _ answered
        metadata := by
          intro inner same
          cases same }
  next => exact wellFormed_of_bare rfl rfl rfl

/-- What the server builds is well-formed. -/
theorem wellFormed_of_built {envelope : Envelope} (built : Built envelope) :
    WellFormed envelope := by
  cases built with
  | queryReply settings context request body now =>
      exact wellFormed_queryReply settings context request body now
  | ping | query | prompt | interrupt | answer | pong | hello | joinOk
  | error => exact wellFormed_of_bare rfl rfl rfl

theorem built_decodeErrorEnvelope (error : DecodeError) :
    Built (decodeErrorEnvelope error) := by
  cases error <;> exact .errorWithMessage _ _ _ _

/-- What the session loop writes in answer to a frame was built by the server. -/
theorem built_of_handleFrame
    {settings : Settings} {context : Context}
    {tokenId clientId raw ts : String} {clock : Nat → Nat}
    {envelope : Envelope}
    (written :
      .text envelope ∈
        (context.handleFrame settings tokenId clientId raw clock
          ts).written) :
    Built envelope := by
  unfold Context.handleFrame at written
  split at written
  · cases List.mem_singleton.mp written
    exact built_decodeErrorEnvelope _
  · simp only [Context.answers] at written
    split at written
    · cases List.mem_singleton.mp written
      exact .queryReply settings context _ _ _
    · cases List.mem_singleton.mp written
      exact .pong _ _ _
    · cases written

end Built

/-- The codec round-trips: decoded frames are well-formed, so are the envelopes
that the server builds, and a well-formed envelope is decoded from its text. -/
theorem codec_round_trips
    (serde : SerdeJson) (readsBack : ReadsBack serde) :
    (∀ raw envelope,
      decode serde raw = .ok envelope → WellFormed envelope) ∧
    (∀ envelope, Built envelope → WellFormed envelope) ∧
    ∀ envelope,
      WellFormed envelope → Carriable serde.limit envelope →
      ∃ text,
        encode envelope = some text ∧
          decode serde text = .ok envelope :=
  ⟨fun _ _ => wellFormed_of_decode, fun _ => wellFormed_of_built,
    fun _ => decode_encode readsBack⟩

/-- The answer of a client to `support`, with a line break in a text. -/
def supportAnswer : Envelope where
  v := 1
  msgType := .queryOk
  id := "q1"
  ts := "2023-11-14T22:13:20Z"
  sender := "t1"
  body :=
    .queryOk
      { cmd := "support"
        rest :=
          .object
            [("args", .array [.string "claude"]),
              ("how", .string "found\nin PATH"), ("ok", .bool true),
              ("took_ms", .int 12)] }

def supportAnswerText : String :=
  "\x7b\"v\":1,\"type\":\"query_ok\",\"id\":\"q1\"," ++
    "\"ts\":\"2023-11-14T22:13:20Z\",\"from\":\"t1\",\"body\":" ++
    "\x7b\"cmd\":\"support\",\"args\":[\"claude\"]," ++
    "\"how\":\"found\\nin PATH\",\"ok\":true,\"took_ms\":12\x7d\x7d"

theorem codec_round_trips_supportAnswer :
    ReadsBack compactSerde ∧
      encode supportAnswer = some supportAnswerText ∧
      decode compactSerde supportAnswerText = .ok supportAnswer := by
  have text : encode supportAnswer = some supportAnswerText := by
    decide +kernel
  have wellFormed : WellFormed supportAnswer :=
    { current := rfl
      matching := rfl
      rest := by
        intro body same
        cases same
        exact ⟨_, rfl, rfl⟩
      metadata := by
        intro body same
        cases same }
  have carriable : Carriable compactSerde.limit supportAnswer :=
    { held := by
        intro value member
        cases List.mem_singleton.mp member
        refine ⟨?_, by simp [FieldsAreHeld, IsHeld, AreHeld]⟩
        unfold Keyed.Ascending
        decide
      integral := by
        intro value member
        cases List.mem_singleton.mp member
        decide
      shallow := by
        intro value isValue
        cases isValue
        decide }
  obtain ⟨_, _, roundTrip⟩ :=
    codec_round_trips compactSerde readsBack_compactSerde
  obtain ⟨text', encoded, decoded⟩ :=
    roundTrip supportAnswer wellFormed carriable
  cases text.symm.trans encoded
  exact ⟨readsBack_compactSerde, text, decoded⟩

end HollerServer.Wire
